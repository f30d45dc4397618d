import SentinelApex.Allocator.Policy
import SentinelApex.Runtime.RecoveryCandidates

/-!
# The rebalance planner

`SentinelRebalancePlanner.createProposal`: the targets of an allocator decision become a proposal to
move budget between the two sleeves, with the reasons that block it. Whether a proposal that nothing
blocks moves one amount depends on the targets only (`conserves_iff`).
-/

namespace SentinelApex

open SentinelApex.Runtime (RuntimeLifecycleState)

inductive RebalanceReadiness where
  | actionable
  | blocked
  deriving DecidableEq, Repr

inductive RebalanceIntentActionType where
  | increaseTreasuryAllocation
  | reduceTreasuryAllocation
  | increaseCarryBudget
  | reduceCarryBudget
  deriving DecidableEq, Repr

structure RebalanceBlockedReason where
  code : String
  message : String
  operatorAction : String
  details : List (String × Json)

structure RebalancePlannerSystemInput where
  runtimeLifecycleState : RuntimeLifecycleState
  runtimeHalted : Bool
  criticalMismatchCount : ℕ
  executionMode : ActionExecutionMode
  liveExecutionEnabled : Bool

structure RebalancePlannerTreasuryInput where
  idleCapitalUsd : Decimal
  reserveShortfallUsd : Decimal

structure RebalanceProposalIntent where
  sleeveId : AllocatorSleeveId
  sourceSleeveId : Option AllocatorSleeveId
  targetSleeveId : Option AllocatorSleeveId
  actionType : RebalanceIntentActionType
  status : RebalanceProposalStatus
  readiness : RebalanceReadiness
  executable : Bool
  currentAllocationUsd : Decimal
  currentAllocationPct : Number
  targetAllocationUsd : Decimal
  targetAllocationPct : Number
  deltaUsd : Decimal
  rationale : List AllocatorRationale
  blockedReasons : List RebalanceBlockedReason
  details : List (String × Json)

/-- The action type of the proposal itself is always `rebalance_between_sleeves`. -/
structure RebalanceProposal where
  allocatorRunId : String
  status : RebalanceProposalStatus
  summary : String
  executionMode : ActionExecutionMode
  simulated : Bool
  executable : Bool
  approvalRequirement : ApprovalRequirement
  rationale : List AllocatorRationale
  blockedReasons : List RebalanceBlockedReason
  intents : List RebalanceProposalIntent
  details : List (String × Json)

structure RebalancePlannerInput where
  allocatorRunId : String
  decision : AllocatorDecision
  system : RebalancePlannerSystemInput
  treasury : RebalancePlannerTreasuryInput
  minimumActionableUsd : Decimal

/-- `DEFAULT_REBALANCE_POLICY.minimumActionableUsd`. -/
def defaultMinimumActionableUsd : Decimal := 2500

def findTarget (decision : AllocatorDecision) (sleeveId : AllocatorSleeveId) :
    Except String AllocatorTargetAllocation :=
  match decision.targets.find? fun candidate => decide (candidate.sleeveId = sleeveId) with
  | some target => .ok target
  | none => .error s!"Missing allocator target for sleeve \"{sleeveId.text}\"."

namespace SentinelRebalancePlanner

variable (input : RebalancePlannerInput)

def reasonIf (p : Prop) [Decidable p] (reason : RebalanceBlockedReason) :
    List RebalanceBlockedReason :=
  if p then [reason] else []

def generalReasons (rebalanceAmountUsd : Decimal) : List RebalanceBlockedReason :=
  reasonIf (rebalanceAmountUsd < input.minimumActionableUsd)
    { code := "below_minimum_action_size"
      message := s!"Allocator delta {usdText rebalanceAmountUsd} USD is below the minimum " ++
        "actionable rebalance size."
      operatorAction :=
        "Wait for a larger allocator delta before approving a rebalance proposal."
      details := [("rebalanceAmountUsd", .str (usdText rebalanceAmountUsd)),
        ("minimumActionableUsd", .decimal input.minimumActionableUsd)] } ++
  reasonIf (input.system.runtimeHalted = true ∨ input.system.runtimeLifecycleState = .paused ∨
      input.system.runtimeLifecycleState = .stopped ∨
      input.system.runtimeLifecycleState = .starting)
    { code := "runtime_not_ready"
      message := "Runtime is not in a state that permits rebalance approval or execution."
      operatorAction := "Resume the runtime and return it to ready state before approving a " ++
        "rebalance proposal."
      details := [("runtimeLifecycleState", .str input.system.runtimeLifecycleState.text),
        ("runtimeHalted", .bool input.system.runtimeHalted)] } ++
  reasonIf (0 < input.system.criticalMismatchCount)
    { code := "critical_mismatch_pressure"
      message := "Critical mismatch pressure blocks rebalance approval until recovery posture " ++
        "improves."
      operatorAction :=
        "Resolve or verify critical mismatches before approving a rebalance proposal."
      details := [("criticalMismatchCount", .num input.system.criticalMismatchCount)] } ++
  reasonIf (input.system.executionMode = .live ∧ input.system.liveExecutionEnabled = false)
    { code := "live_execution_disabled"
      message := "Live rebalance application is disabled for this runtime."
      operatorAction :=
        "Keep the proposal in dry-run or enable live mode only after operator signoff."
      details := [("executionMode", .str input.system.executionMode.text),
        ("liveExecutionEnabled", .bool input.system.liveExecutionEnabled)] }

def carryReasons (carry : AllocatorTargetAllocation) (rebalanceAmountUsd : Decimal) :
    List RebalanceBlockedReason :=
  reasonIf (carry.status = .degraded ∨ carry.status = .blocked ∨ carry.throttleState = .deRisk ∨
      carry.throttleState = .blocked)
    { code := "carry_throttle_active"
      message := "Carry sleeve is throttled or degraded, so its budget cannot be increased."
      operatorAction := "Keep capital in Treasury until carry health and throttle state normalize."
      details := [("carryStatus", .str carry.status.text),
        ("carryThrottleState", .str carry.throttleState.text)] } ++
  reasonIf (0 < input.treasury.reserveShortfallUsd)
    { code := "treasury_reserve_shortfall"
      message := "Treasury reserve is short, so capital cannot be reallocated away from Treasury."
      operatorAction :=
        "Restore reserve coverage before approving a Treasury-to-Carry rebalance."
      details := [("reserveShortfallUsd", .decimal input.treasury.reserveShortfallUsd)] } ++
  reasonIf (input.treasury.idleCapitalUsd < rebalanceAmountUsd)
    { code := "insufficient_treasury_idle_capital"
      message := "Treasury does not have enough idle capital to fund the requested carry " ++
        "increase without additional venue reductions."
      operatorAction := "Free treasury liquidity through explicit treasury actions before " ++
        "approving this rebalance."
      details := [("idleCapitalUsd", .decimal input.treasury.idleCapitalUsd),
        ("rebalanceAmountUsd", .str (usdText rebalanceAmountUsd))] }

def createIntent (sleeveTarget : AllocatorTargetAllocation)
    (actionType : RebalanceIntentActionType) (sourceSleeveId targetSleeveId : AllocatorSleeveId)
    (blockedReasons : List RebalanceBlockedReason) : RebalanceProposalIntent where
  sleeveId := sleeveTarget.sleeveId
  sourceSleeveId := some sourceSleeveId
  targetSleeveId := some targetSleeveId
  actionType
  status := .proposed
  readiness := if blockedReasons.isEmpty then .actionable else .blocked
  executable := blockedReasons.isEmpty
  currentAllocationUsd := sleeveTarget.currentAllocationUsd
  currentAllocationPct := sleeveTarget.currentAllocationPct
  targetAllocationUsd := sleeveTarget.targetAllocationUsd
  targetAllocationPct := sleeveTarget.targetAllocationPct
  deltaUsd := sleeveTarget.deltaUsd
  rationale := sleeveTarget.rationale
  blockedReasons
  details := sleeveTarget.metadata

def rebalanceAmountUsd (carry treasury : AllocatorTargetAllocation) : Decimal :=
  max |carry.deltaUsd| |treasury.deltaUsd|

def blockedReasons (carry treasury : AllocatorTargetAllocation) : List RebalanceBlockedReason :=
  generalReasons input (rebalanceAmountUsd carry treasury) ++
    if 0 < carry.deltaUsd then carryReasons input carry (rebalanceAmountUsd carry treasury) else []

def intents (carry treasury : AllocatorTargetAllocation) : List RebalanceProposalIntent :=
  let reasons := blockedReasons input carry treasury
  if 0 < carry.deltaUsd then
    [createIntent carry .increaseCarryBudget .treasury .carry reasons,
      createIntent treasury .reduceTreasuryAllocation .treasury .carry reasons]
  else
    [createIntent carry .reduceCarryBudget .carry .treasury reasons,
      createIntent treasury .increaseTreasuryAllocation .carry .treasury reasons]

def proposalFor (carry treasury : AllocatorTargetAllocation) : RebalanceProposal :=
  let amountText := usdText (rebalanceAmountUsd carry treasury)
  { allocatorRunId := input.allocatorRunId
    status := .proposed
    summary :=
      if 0 < carry.deltaUsd then s!"Rebalance {amountText} USD from Treasury to Carry budget."
      else s!"Rebalance {amountText} USD from Carry to Treasury budget."
    executionMode := input.system.executionMode
    simulated := decide (input.system.executionMode ≠ .live)
    executable := (blockedReasons input carry treasury).isEmpty
    approvalRequirement := if input.system.executionMode = .live then .admin else .operator
    rationale := input.decision.rationale
    blockedReasons := blockedReasons input carry treasury
    intents := intents input carry treasury
    details := [("rebalanceAmountUsd", .str amountText),
      ("carryCurrentAllocationUsd", .decimal carry.currentAllocationUsd),
      ("carryTargetAllocationUsd", .decimal carry.targetAllocationUsd),
      ("treasuryCurrentAllocationUsd", .decimal treasury.currentAllocationUsd),
      ("treasuryTargetAllocationUsd", .decimal treasury.targetAllocationUsd)] }

def createProposal : Except String (Option RebalanceProposal) := do
  let carry ← findTarget input.decision .carry
  let treasury ← findTarget input.decision .treasury
  return if rebalanceAmountUsd carry treasury = 0 then none
    else some (proposalFor input carry treasury)

end SentinelRebalancePlanner

/-- The sign that an action gives to the budget of its sleeve. -/
def RebalanceIntentActionType.Agrees (deltaUsd : Decimal) : RebalanceIntentActionType → Prop
  | .increaseCarryBudget => 0 < deltaUsd
  | .increaseTreasuryAllocation => 0 < deltaUsd
  | .reduceCarryBudget => deltaUsd < 0
  | .reduceTreasuryAllocation => deltaUsd < 0

instance (deltaUsd : Decimal) (actionType : RebalanceIntentActionType) :
    Decidable (actionType.Agrees deltaUsd) := by
  cases actionType <;> exact inferInstanceAs (Decidable (_ < _))

/-- The budget that one sleeve gives up is what the other receives, up to two cents, in the
direction of the actions; an increase of carry is covered by idle capital. -/
def RebalanceProposal.Conserves (proposal : RebalanceProposal) (idleCapitalUsd : Decimal) : Prop :=
  match proposal.intents with
  | [carry, treasury] =>
    carry.sleeveId = .carry ∧ treasury.sleeveId = .treasury ∧
      carry.deltaUsd * treasury.deltaUsd < 0 ∧
      abs (|carry.deltaUsd| - |treasury.deltaUsd|) ≤ 2 / 100 ∧
      carry.actionType.Agrees carry.deltaUsd ∧ treasury.actionType.Agrees treasury.deltaUsd ∧
      (0 < carry.deltaUsd → carry.deltaUsd ≤ idleCapitalUsd)
  | _ => False

instance (proposal : RebalanceProposal) (idleCapitalUsd : Decimal) :
    Decidable (proposal.Conserves idleCapitalUsd) := by
  unfold RebalanceProposal.Conserves
  split
  · exact inferInstanceAs (Decidable (_ ∧ _))
  · exact inferInstanceAs (Decidable False)

namespace SentinelRebalancePlanner

variable {input : RebalancePlannerInput} {carry treasury : AllocatorTargetAllocation}

@[simp] theorem reasonIf_eq_nil {p : Prop} [Decidable p] {reason : RebalanceBlockedReason} :
    reasonIf p reason = [] ↔ ¬ p := by
  unfold reasonIf
  split_ifs with h <;> simp [h]

theorem proposalFor_executable (h : (proposalFor input carry treasury).executable = true) :
    input.minimumActionableUsd ≤ max |carry.deltaUsd| |treasury.deltaUsd| ∧
      (0 < carry.deltaUsd →
        max |carry.deltaUsd| |treasury.deltaUsd| ≤ input.treasury.idleCapitalUsd) := by
  simp only [proposalFor, blockedReasons, List.isEmpty_iff, List.append_eq_nil_iff, generalReasons,
    reasonIf_eq_nil] at h
  obtain ⟨⟨⟨⟨hminimum, -⟩, -⟩, -⟩, hcarry⟩ := h
  refine ⟨not_lt.1 hminimum, fun hinto => ?_⟩
  rw [if_pos hinto] at hcarry
  simp only [carryReasons, List.append_eq_nil_iff, reasonIf_eq_nil] at hcarry
  exact not_lt.1 hcarry.2

/-- Of two amounts that nearly cancel, one of which is large, one is positive and one negative. -/
theorem opposite_of_sum {x y : ℚ} (h : 2500 ≤ max |x| |y|) (hsum : |x + y| ≤ 2 / 100) :
    0 < x ∧ y < 0 ∨ x < 0 ∧ 0 < y := by
  obtain ⟨hlo, hhi⟩ := abs_le.1 hsum
  rcases le_max_iff.1 h with hx | hy
  · rcases le_abs.1 hx with hx | hx
    · exact Or.inl ⟨by linarith, by linarith⟩
    · exact Or.inr ⟨by linarith, by linarith⟩
  · rcases le_abs.1 hy with hy | hy
    · exact Or.inr ⟨by linarith, by linarith⟩
    · exact Or.inl ⟨by linarith, by linarith⟩

/-- An executable proposal moves one amount exactly when its deltas cancel to two cents. -/
theorem conserves_iff (hexecutable : (proposalFor input carry treasury).executable = true)
    (hcarry : carry.sleeveId = .carry) (htreasury : treasury.sleeveId = .treasury)
    (hminimum : input.minimumActionableUsd = 2500) :
    (proposalFor input carry treasury).Conserves input.treasury.idleCapitalUsd ↔
      |carry.deltaUsd + treasury.deltaUsd| ≤ 2 / 100 := by
  obtain ⟨hlarge, hcovered⟩ := proposalFor_executable hexecutable
  rw [hminimum] at hlarge
  have hintents : (proposalFor input carry treasury).intents = intents input carry treasury := rfl
  unfold RebalanceProposal.Conserves
  rw [hintents, intents]
  constructor
  · intro hconserves
    have hmoves : carry.deltaUsd * treasury.deltaUsd < 0 ∧
        abs (|carry.deltaUsd| - |treasury.deltaUsd|) ≤ 2 / 100 := by
      split_ifs at hconserves <;> exact ⟨hconserves.2.2.1, hconserves.2.2.2.1⟩
    obtain ⟨hsigns, hequal⟩ := hmoves
    rcases mul_neg_iff.1 hsigns with ⟨hx, hy⟩ | ⟨hx, hy⟩
    · rwa [abs_of_pos hx, abs_of_neg hy, sub_neg_eq_add] at hequal
    · rw [abs_of_neg hx, abs_of_pos hy, abs_sub_comm, sub_neg_eq_add] at hequal
      rwa [add_comm]
  · intro hsum
    rcases opposite_of_sum hlarge hsum with ⟨hx, hy⟩ | ⟨hx, hy⟩
    · rw [if_pos hx]
      refine ⟨hcarry, htreasury, mul_neg_of_pos_of_neg hx hy, ?_, hx, hy, fun _ => ?_⟩
      · change abs (|carry.deltaUsd| - |treasury.deltaUsd|) ≤ 2 / 100
        rwa [abs_of_pos hx, abs_of_neg hy, sub_neg_eq_add]
      · exact (le_abs_self _).trans ((le_max_left _ _).trans (hcovered hx))
    · rw [if_neg (not_lt.2 hx.le)]
      refine ⟨hcarry, htreasury, mul_neg_of_neg_of_pos hx hy, ?_, hx, hy, fun hpos => ?_⟩
      · change abs (|carry.deltaUsd| - |treasury.deltaUsd|) ≤ 2 / 100
        rw [abs_of_neg hx, abs_of_pos hy, abs_sub_comm, sub_neg_eq_add]
        rwa [add_comm]
      · exact absurd hpos (not_lt.2 hx.le)

end SentinelRebalancePlanner

end SentinelApex
