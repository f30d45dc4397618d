import SentinelApex.Allocator.Rebalance

/-!
# The allocator evaluation of the runtime

`runAllocatorEvaluation` builds the allocator's input from what the store holds, and hands the
decision to the rebalance planner. Under the default policy the shares of the two sleeves always
add up to the whole (`targetPcts`), with a share of carry that only depends on the state of the
system (`carryPct`).
-/

namespace SentinelApex

open SentinelApex.Runtime (RuntimeLifecycleState RuntimeMismatchStatus)
open SentinelAllocatorPolicyEngine

/-! ## Input -/

structure PortfolioSleeve where
  sleeveId : String
  nav : Decimal

structure PortfolioSummary where
  totalNav : Decimal
  sleeves : List PortfolioSleeve

structure OpportunityView where
  approved : Bool
  netYieldPct : Decimal
  confidenceScore : Decimal

/-- What the store returns for an evaluation, and the options of the runtime. -/
structure AllocatorReads where
  sleeveId : String
  executionMode : ActionExecutionMode
  liveExecutionEnabled : Bool
  halted : Bool
  lifecycleState : RuntimeLifecycleState
  reason : Option String
  activeMismatchCount : ℕ
  criticalMismatches : List RuntimeMismatchStatus
  activeReconciliationCount : Option ℕ
  portfolioSummary : Option PortfolioSummary
  treasurySummary : Option TreasuryReserveStatus
  listedOpportunities : List OpportunityView

def opportunityScore (opportunity : OpportunityView) : Number :=
  let clampScore (x : Number) : Number := max 0 (min x 1)
  let yieldScore := clampScore (Number.div (Number.ofDecimal opportunity.netYieldPct) 10)
  let confidenceScore := clampScore (Number.ofDecimal opportunity.confidenceScore)
  (yieldScore.mul (Number.ofDecimal (6 / 10))).add
    (confidenceScore.mul (Number.ofDecimal (4 / 10)))

def normaliseCarryOpportunityScore (opportunities : List OpportunityView) : Number :=
  if opportunities.length = 0 then 0
  else
    (Number.div ((opportunities.map opportunityScore).foldl Number.add 0)
      opportunities.length).roundPlaces 4

namespace AllocatorReads

variable (reads : AllocatorReads)

def opportunities : List OpportunityView :=
  reads.listedOpportunities.filter fun opportunity => opportunity.approved

def totalCapitalUsd : Decimal :=
  ((reads.treasurySummary.map fun treasury => treasury.totalCapitalUsd).or
    (reads.portfolioSummary.map fun portfolio => portfolio.totalNav)).getD 0

def carryCurrentUsd : Decimal :=
  ((reads.portfolioSummary.bind fun portfolio =>
    portfolio.sleeves.find? fun sleeve => decide (sleeve.sleeveId = reads.sleeveId)).map
      fun sleeve => sleeve.nav).getD 0

def treasuryCurrentUsd : Decimal := usd (max (reads.totalCapitalUsd.minus reads.carryCurrentUsd) 0)

def currentPct (currentUsd : Decimal) : Number :=
  if reads.totalCapitalUsd = 0 then 0
  else Number.roundPlaces ((currentUsd.div reads.totalCapitalUsd).times 100) 4

def carryOpportunityScore : Number := normaliseCarryOpportunityScore reads.opportunities

def reserveConstrainedCapitalUsd : Decimal :=
  (reads.treasurySummary.map fun treasury => treasury.requiredReserveUsd).getD 0

def allocatableCapitalUsd : Decimal :=
  usd (max (reads.totalCapitalUsd.minus reads.reserveConstrainedCapitalUsd) 0)

def reserveShortfallUsd : Decimal :=
  (reads.treasurySummary.map fun treasury => treasury.reserveShortfallUsd).getD 0

def idleCapitalUsd : Decimal :=
  (reads.treasurySummary.map fun treasury => treasury.idleCapitalUsd).getD 0

def criticalMismatchCount : ℕ :=
  (reads.criticalMismatches.filter fun status => decide (status ≠ .verified)).length

def carryThrottleState : AllocatorThrottleState :=
  if reads.halted = true then .blocked
  else if reads.lifecycleState = .degraded ∨ 0 < reads.criticalMismatchCount then .deRisk
  else if reads.carryOpportunityScore < defaultAllocatorPolicy.carryOpportunityScoreFloor then
    .throttled
  else .normal

def carryStatus : AllocatorSleeveStatus :=
  match reads.carryThrottleState with
  | .blocked => .blocked
  | .deRisk => .degraded
  | .throttled => .throttled
  | .normal => .active

def treasuryStatus : AllocatorSleeveStatus :=
  match reads.treasurySummary with
  | none => .degraded
  | some treasury => if 0 < treasury.reserveShortfallUsd then .degraded else .active

def carrySleeve : AllocatorSleeveSnapshot where
  sleeveId := .carry
  kind := .carry
  name := "Apex Carry"
  currentAllocationUsd := usd reads.carryCurrentUsd
  currentAllocationPct := reads.currentPct reads.carryCurrentUsd
  minAllocationPct := 0
  maxAllocationPct := defaultAllocatorPolicy.maximumCarryPct
  capacityUsd := some (usd reads.totalCapitalUsd)
  status := reads.carryStatus
  throttleState := reads.carryThrottleState
  healthy := decide (reads.carryStatus = .active)
  opportunityScore := some reads.carryOpportunityScore
  metadata := [("approvedOpportunityCount", .num reads.opportunities.length),
    ("runtimeLifecycleState", .str reads.lifecycleState.text)]

def treasurySleeve : AllocatorSleeveSnapshot where
  sleeveId := .treasury
  kind := .treasury
  name := "Atlas Treasury"
  currentAllocationUsd := reads.treasuryCurrentUsd
  currentAllocationPct := reads.currentPct reads.treasuryCurrentUsd
  minAllocationPct := defaultAllocatorPolicy.minimumTreasuryPct
  maxAllocationPct := 100
  capacityUsd := some (usd reads.totalCapitalUsd)
  status := reads.treasuryStatus
  throttleState := .normal
  healthy := reads.treasurySummary.isSome
  opportunityScore := none
  metadata :=
    [("reserveCoveragePct", (reads.treasurySummary.map fun treasury =>
        Json.decimal treasury.reserveCoveragePct).getD .null),
      ("reserveShortfallUsd", (reads.treasurySummary.map fun treasury =>
        Json.decimal treasury.reserveShortfallUsd).getD .null)]

def systemState : AllocatorSystemState where
  totalCapitalUsd := usd reads.totalCapitalUsd
  reserveConstrainedCapitalUsd := reads.reserveConstrainedCapitalUsd
  allocatableCapitalUsd := reads.allocatableCapitalUsd
  runtimeLifecycleState := reads.lifecycleState
  runtimeHalted := reads.halted
  openMismatchCount := reads.activeMismatchCount
  criticalMismatchCount := reads.criticalMismatchCount
  degradedReasonCount := if reads.reason.isNone then 0 else 1
  treasuryReserveCoveragePct := Number.ofDecimal
    ((reads.treasurySummary.map fun treasury => treasury.reserveCoveragePct).getD 0)
  treasuryReserveShortfallUsd := reads.reserveShortfallUsd
  carryOpportunityScore := reads.carryOpportunityScore
  recentReconciliationIssues := reads.activeReconciliationCount.getD 0

def policyInput : AllocatorPolicyInput where
  policy := defaultAllocatorPolicy
  sleeves := [reads.carrySleeve, reads.treasurySleeve]
  system := reads.systemState

def plannerInput (allocatorRunId : String) (decision : AllocatorDecision) :
    RebalancePlannerInput where
  allocatorRunId
  decision
  system :=
    { runtimeLifecycleState := reads.lifecycleState
      runtimeHalted := reads.halted
      criticalMismatchCount := reads.criticalMismatchCount
      executionMode := reads.executionMode
      liveExecutionEnabled := reads.liveExecutionEnabled }
  treasury :=
    { idleCapitalUsd := reads.idleCapitalUsd
      reserveShortfallUsd := reads.reserveShortfallUsd }
  minimumActionableUsd := defaultMinimumActionableUsd

/-- The proposal that `runAllocatorEvaluation` stores. -/
def rebalanceProposal (allocatorRunId : String) : Except String (Option RebalanceProposal) := do
  let decision ← SentinelAllocatorPolicyEngine.evaluate reads.policyInput
  SentinelRebalancePlanner.createProposal (reads.plannerInput allocatorRunId decision)

end AllocatorReads

/-! ## The shares of the sleeves -/

namespace AllocatorReads

variable (reads : AllocatorReads)

def carryPct : ℕ :=
  if 0 < reads.reserveShortfallUsd then 15
  else if reads.carryThrottleState ≠ .normal then 20
  else
    match pressureFromInput reads.systemState with
    | .high => 25
    | .elevated => 35
    | .normal =>
      if defaultAllocatorPolicy.carryOpportunityScoreStrong ≤ reads.carryOpportunityScore ∧
          100 ≤ reads.systemState.treasuryReserveCoveragePct then 60
      else 55

theorem treasuryFloorPct_eq :
    treasuryFloorPct reads.policyInput =
      ((if reads.systemState.treasuryReserveCoveragePct < 100 then 45 else 35 : ℕ) : ℚ) := by
  have hadd : Number.add 35 10 = 45 := by
    have h := Number.add_natCast (m := 35) (n := 10) (by norm_num)
    norm_num at h
    exact h
  simp only [treasuryFloorPct, policyInput, defaultAllocatorPolicy, hadd]
  split_ifs <;> norm_num

theorem throttle_normal (h : reads.carryThrottleState = .normal) :
    reads.halted = false ∧ reads.lifecycleState ≠ .degraded ∧ reads.criticalMismatchCount = 0 ∧
      defaultAllocatorPolicy.carryOpportunityScoreFloor ≤ reads.carryOpportunityScore := by
  unfold carryThrottleState at h
  split_ifs at h with hhalted hderisk hfloor
  push Not at hderisk
  exact ⟨by simpa using hhalted, hderisk.1, by omega, not_lt.1 hfloor⟩

theorem carryHealth_iff :
    (reads.carrySleeve.status = .degraded ∨ reads.carrySleeve.status = .blocked ∨
      reads.carrySleeve.throttleState = .deRisk ∨ reads.carrySleeve.throttleState = .blocked ∨
      reads.carrySleeve.healthy = false) ↔ reads.carryThrottleState ≠ .normal := by
  cases h : reads.carryThrottleState <;> simp [carrySleeve, carryStatus, h]

theorem pressure_of_shortfall (h : 0 < reads.reserveShortfallUsd) :
    pressureFromInput reads.systemState = .high := by
  rw [pressureFromInput, if_pos]
  simp [systemState, h]

/-- A sleeve that is throttled for another reason than its score puts the system under
pressure. -/
theorem pressure_of_throttle (h : reads.carryThrottleState ≠ .normal)
    (hscore : ¬ reads.carryOpportunityScore < defaultAllocatorPolicy.carryOpportunityScoreFloor) :
    pressureFromInput reads.systemState ≠ .normal := by
  intro hnormal
  unfold carryThrottleState at h
  unfold pressureFromInput at hnormal
  split_ifs at hnormal with hhigh helevated
  simp only [systemState] at hhigh helevated
  push Not at hhigh helevated
  rw [if_neg hhigh.1, if_neg (by simp [helevated.1, hhigh.2.2.2.1]), if_neg hscore] at h
  exact h rfl

/-! The steps of the evaluation under the default policy. -/

theorem reserveShortfall_pct :
    (applyReserveShortfall reads.policyInput (baselineBudget reads.policyInput)).targetPct =
      if 0 < reads.reserveShortfallUsd then 15 else 55 := by
  rw [applyReserveShortfall_targetPct]
  change (if 0 < reads.reserveShortfallUsd then min (55 : ℚ) 15 else 55) = _
  norm_num

theorem pressure_pct (budget : CarryBudget) (pressureLevel : AllocatorPressureLevel) :
    (applyPressure reads.policyInput budget pressureLevel).targetPct =
      match pressureLevel with
      | .high => min budget.targetPct 25
      | .elevated => min budget.targetPct 35
      | .normal => budget.targetPct :=
  applyPressure_targetPct reads.policyInput budget pressureLevel

theorem carryHealth_pct (budget : CarryBudget) :
    (applyCarryHealth reads.policyInput reads.carrySleeve budget).targetPct =
      if reads.carryThrottleState ≠ .normal then min budget.targetPct 20
      else budget.targetPct := by
  rw [applyCarryHealth_targetPct]
  simp only [carryHealth_iff]
  rfl

theorem opportunity_pct (pressureLevel : AllocatorPressureLevel) (budget : CarryBudget) :
    (applyOpportunity reads.policyInput pressureLevel budget).targetPct =
      if reads.carryOpportunityScore < defaultAllocatorPolicy.carryOpportunityScoreFloor then
        min budget.targetPct 20
      else if defaultAllocatorPolicy.carryOpportunityScoreStrong ≤ reads.carryOpportunityScore ∧
          pressureLevel = .normal then min 65 (budget.targetPct.add 5)
      else budget.targetPct :=
  applyOpportunity_targetPct reads.policyInput pressureLevel budget

theorem carryBudget_targetPct :
    (carryBudget reads.policyInput reads.carrySleeve).targetPct =
      ((if 0 < reads.reserveShortfallUsd then 15
        else if reads.carryThrottleState ≠ .normal then 20
        else
          match pressureFromInput reads.systemState with
          | .high => 25
          | .elevated => 35
          | .normal =>
            if defaultAllocatorPolicy.carryOpportunityScoreStrong ≤ reads.carryOpportunityScore
            then 60 else 55 : ℕ) : ℚ) := by
  have hthrottle := reads.pressure_of_throttle
  have hne : AllocatorPressureLevel.high ≠ .normal := by decide
  have hne' : AllocatorPressureLevel.elevated ≠ .normal := by decide
  have hsystem : reads.policyInput.system = reads.systemState := rfl
  rw [carryBudget, opportunity_pct, carryHealth_pct, pressure_pct, reserveShortfall_pct, hsystem]
  by_cases hshortfall : 0 < reads.reserveShortfallUsd
  · have hhigh := reads.pressure_of_shortfall hshortfall
    norm_num [hhigh, hshortfall, hne]
  by_cases hnormal : reads.carryThrottleState = .normal
  · obtain ⟨-, -, -, hfloor⟩ := reads.throttle_normal hnormal
    cases hpressure : pressureFromInput reads.systemState with
    | high => norm_num [hshortfall, hnormal, not_lt.2 hfloor, hne]
    | elevated => norm_num [hshortfall, hnormal, not_lt.2 hfloor, hne']
    | normal =>
      have hadd : Number.add 55 5 = 60 := by
        have h := Number.add_natCast (m := 55) (n := 5) (by norm_num)
        norm_num at h
        exact h
      norm_num [hshortfall, hnormal, not_lt.2 hfloor, hadd]
  · have hcalm : ¬ reads.carryOpportunityScore <
        defaultAllocatorPolicy.carryOpportunityScoreFloor →
          pressureFromInput reads.systemState ≠ .normal := hthrottle hnormal
    cases hpressure : pressureFromInput reads.systemState with
    | high => norm_num [hshortfall, hnormal, hne]
    | elevated => norm_num [hshortfall, hnormal, hne']
    | normal =>
      have hscore := not_not.1 fun h => hcalm h hpressure
      norm_num [hshortfall, hnormal, hscore]

/-- The floor of the treasury only takes back the uplift. -/
theorem carryPct_spec :
    ∃ n : ℕ, (carryBudget reads.policyInput reads.carrySleeve).targetPct = n ∧ n ≤ 60 ∧
      reads.carryPct =
        min n (if reads.systemState.treasuryReserveCoveragePct < 100 then 55 else 65) := by
  refine ⟨_, reads.carryBudget_targetPct, ?_, ?_⟩
  · split_ifs <;> cases pressureFromInput reads.systemState <;> norm_num
  · unfold carryPct
    by_cases hcovered : reads.systemState.treasuryReserveCoveragePct < 100
    · rw [if_pos hcovered]
      simp only [not_le.2 hcovered, and_false, if_false]
      split_ifs <;> cases pressureFromInput reads.systemState <;> rfl
    · rw [if_neg hcovered]
      simp only [not_lt.1 hcovered, and_true]
      split_ifs <;> cases pressureFromInput reads.systemState <;> rfl

/-- The treasury receives what carry does not. -/
theorem targetPcts :
    treasuryTargetPct reads.policyInput reads.carrySleeve reads.treasurySleeve =
        ((100 - reads.carryPct : ℕ) : ℚ) ∧
      carryTargetPct reads.policyInput reads.carrySleeve reads.treasurySleeve = reads.carryPct := by
  obtain ⟨n, hn, hle, hpct⟩ := reads.carryPct_spec
  have hwithin : ∀ m : ℕ, m ≤ 65 → withinCarry reads.policyInput reads.carrySleeve m = m := by
    intro m hm
    have hm' : (m : ℚ) ≤ 65 := by exact_mod_cast hm
    change max 0 (min (min 65 65) (m : ℚ)) = m
    rw [min_self, min_eq_right hm', max_eq_right (Nat.cast_nonneg m)]
  have hrest : ∀ m : ℕ, m ≤ 100 → Number.sub 100 m = ((100 - m : ℕ) : ℚ) := by
    intro m hm
    exact_mod_cast Number.sub_natCast (m := 100) (n := m) (by norm_num) hm
  have htreasury : treasuryTargetPct reads.policyInput reads.carrySleeve reads.treasurySleeve =
      ((100 - reads.carryPct : ℕ) : ℚ) := by
    rw [treasuryTargetPct, hn, hwithin n (by omega), hrest n (by omega), treasuryFloorPct_eq, hpct]
    change max (max ((35 : ℕ) : ℚ) _) (min ((100 : ℕ) : ℚ) _) = _
    rw [← Nat.cast_max, ← Nat.cast_min, ← Nat.cast_max, Nat.cast_inj]
    split_ifs <;> omega
  refine ⟨htreasury, ?_⟩
  have hle100 : reads.carryPct ≤ 60 := by omega
  have hback : 100 - (100 - reads.carryPct) = reads.carryPct := by omega
  rw [carryTargetPct, htreasury, hrest _ (by omega), hback, hwithin _ (by omega)]

end AllocatorReads

end SentinelApex
