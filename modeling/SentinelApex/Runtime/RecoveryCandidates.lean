import SentinelApex.Runtime.CarryTables
import SentinelApex.Runtime.Store
import SentinelApex.Runtime.TreasuryTables

/-!
# Recovery candidates of a rebalance bundle

A failed child of a bundle may be queued again if nothing shows that an earlier execution of it had
an effect at a venue: no execution of it has a venue reference and, for a carry child, no step of it
has a reference or a status other than pending or failed.
-/

namespace SentinelApex

open SentinelApex.Runtime (RuntimeStatus RuntimeCommandType)

/-! ## Data -/

inductive RebalanceBundleStatus where
  | proposed
  | queued
  | executing
  | completed
  | partiallyCompleted
  | blocked
  | failed
  | requiresIntervention
  | rejected
  deriving DecidableEq, Repr

def RebalanceBundleStatus.text : RebalanceBundleStatus → String
  | .proposed => "proposed"
  | .queued => "queued"
  | .executing => "executing"
  | .completed => "completed"
  | .partiallyCompleted => "partially_completed"
  | .blocked => "blocked"
  | .failed => "failed"
  | .requiresIntervention => "requires_intervention"
  | .rejected => "rejected"

inductive RebalanceProposalStatus where
  | proposed
  | approved
  | queued
  | executing
  | completed
  | failed
  | rejected
  | cancelled
  deriving DecidableEq, Repr

def RebalanceProposalStatus.text : RebalanceProposalStatus → String
  | .proposed => "proposed"
  | .approved => "approved"
  | .queued => "queued"
  | .executing => "executing"
  | .completed => "completed"
  | .failed => "failed"
  | .rejected => "rejected"
  | .cancelled => "cancelled"

/-- What the candidates take from the bundle and from its proposal. -/
structure RebalanceBundle where
  id : String
  proposalId : String
  status : RebalanceBundleStatus
  executionMode : ActionExecutionMode
  simulated : Bool
  proposalStatus : RebalanceProposalStatus
  approvalRequirement : ApprovalRequirement

inductive BundleRecoveryTarget where
  | carryAction
  | treasuryAction
  | rebalanceProposal
  deriving DecidableEq, Repr

def BundleRecoveryTarget.text : BundleRecoveryTarget → String
  | .carryAction => "carry_action"
  | .treasuryAction => "treasury_action"
  | .rebalanceProposal => "rebalance_proposal"

structure BundleRecoveryBlockedReason where
  code : String
  category : String
  message : String
  operatorAction : String
  details : List (String × Json)

/-- The only type of recovery is to queue the child again. -/
structure BundleRecoveryCandidate where
  id : String
  bundleId : String
  proposalId : String
  targetChildType : BundleRecoveryTarget
  targetChildId : String
  targetChildStatus : String
  targetCommandType : RuntimeCommandType
  approvalRequirement : ApprovalRequirement
  blockedReasons : List BundleRecoveryBlockedReason
  executionMode : ActionExecutionMode
  simulated : Bool
  note : String

/-- `eligibilityState` is `eligible`. -/
def BundleRecoveryCandidate.eligible (candidate : BundleRecoveryCandidate) : Bool :=
  candidate.blockedReasons.isEmpty

/-! ## Blocked reasons of a child -/

/-- What a builder reads of its child, and the texts that are its own. -/
structure RecoveryChild where
  id : String
  status : ActionStatus
  linkedCommandId : Option String
  latestExecutionId : Option String
  executions : List (String × ActionStatus)
  remainsBlocked : Bool
  blockedReasons : Json
  hasSideEffects : Bool
  label : String
  idKey : String
  replacement : String
  sideEffects : BundleRecoveryBlockedReason

namespace RecoveryChild

variable (child : RecoveryChild)

def latestFailedExecution : Option String :=
  ((child.executions.find? fun execution => decide (some execution.1 = child.latestExecutionId)).or
    (child.executions.find? fun execution => decide (execution.2 = .failed))).map Prod.fst

def reasonIf (p : Prop) [Decidable p] (code category message operatorAction : String)
    (details : List (String × Json)) : List BundleRecoveryBlockedReason :=
  if p then [{ code, category, message, operatorAction, details }] else []

def bundleReasons (bundle : RebalanceBundle) : List BundleRecoveryBlockedReason :=
  reasonIf (bundle.status ∉ [RebalanceBundleStatus.failed, .blocked, .requiresIntervention,
      .partiallyCompleted])
    "bundle_not_actionable" "bundle_state"
    s!"Bundle status \"{bundle.status.text}\" does not permit recovery mutation requests."
    ("Wait for the bundle to reach a failed, blocked, partial, or intervention-required state " ++
      "before requesting recovery.")
    [("bundleStatus", .str bundle.status.text)]

def runtimeReasons (runtimeStatus : RuntimeStatus) : List BundleRecoveryBlockedReason :=
  reasonIf (runtimeStatus.halted = true ∨ runtimeStatus.lifecycleState = .paused ∨
      runtimeStatus.lifecycleState = .stopped ∨ runtimeStatus.lifecycleState = .starting)
    "runtime_not_ready" "runtime"
    "Runtime is not in a state that permits child recovery execution."
    "Return runtime to ready state before requesting bundle recovery."
    [("lifecycleState", .str runtimeStatus.lifecycleState.text),
      ("halted", .bool runtimeStatus.halted)]

def idDetail : String × Json := (child.idKey, .str child.id)

/-- `label.toLowerCase()` for the two labels. -/
def sleeve : String := if child.label = "Carry" then "carry" else "treasury"

def statusReasons : List BundleRecoveryBlockedReason :=
  reasonIf ((∃ execution ∈ child.executions, execution.2 = .completed) ∨
      child.status = .completed)
    "target_child_already_completed" "target_child"
    s!"{child.label} child already completed successfully and should not be retried."
    "Inspect the completed child execution history instead of requeueing it."
    [child.idDetail] ++
  reasonIf (child.status = .queued ∨ child.status = .executing)
    "target_child_has_inflight_command" "target_child"
    s!"{child.label} child is already queued or executing."
    (s!"Wait for the in-flight {child.sleeve} child to settle before requesting another " ++
      "recovery action.")
    [child.idDetail, ("status", .str child.status.text),
      ("linkedCommandId", Json.ofOption child.linkedCommandId)] ++
  reasonIf (child.status = .cancelled)
    "target_child_not_retryable" "target_child"
    s!"Cancelled {child.sleeve} children are inspect-only in this pass."
    child.replacement
    [child.idDetail]

/-- The reasons against another execution of the child. -/
def safetyReasons : List BundleRecoveryBlockedReason :=
  reasonIf (child.remainsBlocked = true)
    "target_child_remains_blocked" "safety"
    s!"{child.label} child remains operationally blocked and cannot be requeued safely."
    s!"Resolve the {child.sleeve} child blocked reasons before requesting recovery."
    [child.idDetail, ("blockedReasons", child.blockedReasons)] ++
  if child.hasSideEffects then [child.sideEffects] else []

/-- No status is left for the last check of the source. -/
def blockedBy (bundle : RebalanceBundle) (runtimeStatus : RuntimeStatus) :
    List BundleRecoveryBlockedReason :=
  bundleReasons bundle ++ runtimeReasons runtimeStatus ++ child.statusReasons ++
    child.safetyReasons

end RecoveryChild

/-! ## Candidates -/

structure RebalanceCarryActionNode where
  action : CarryAction
  executions : List CarryExecution
  steps : List CarryExecutionStep

namespace RebalanceCarryActionNode

variable (node : RebalanceCarryActionNode)

/-- A step that shows that its order may have reached the venue. -/
def stepProgressed (step : CarryExecutionStep) : Bool :=
  step.executionReference.isSome || step.venueOrderId.isSome ||
    decide (step.status ∉ [OrderStatus.pending, .failed])

def hasExecutionSideEffects : Bool :=
  (node.executions.any fun execution => execution.venueExecutionReference.isSome) ||
    node.steps.any stepProgressed

def carryReasonJson (reason : CarryBlockedReason) : Json :=
  .obj
    [("code", .str reason.code), ("category", .str reason.category),
      ("message", .str reason.message), ("operatorAction", .str reason.operatorAction),
      ("details", .obj reason.details)]

def child : RecoveryChild where
  id := node.action.id
  status := node.action.status
  linkedCommandId := node.action.linkedCommandId
  latestExecutionId := node.action.latestExecutionId
  executions := node.executions.map fun execution => (execution.id, execution.status)
  remainsBlocked := !node.action.executable || !node.action.blockedReasons.isEmpty
  blockedReasons := .arr (node.action.blockedReasons.map carryReasonJson)
  hasSideEffects := node.hasExecutionSideEffects
  label := "Carry"
  idKey := "carryActionId"
  replacement :=
    "Create a new allocator or carry evaluation if a replacement action is required."
  sideEffects :=
    { code := "carry_execution_partial_progress_detected"
      category := "safety"
      message := "Carry child shows partial execution progress, so replaying it could duplicate " ++
        "fills or orders."
      operatorAction := "Inspect the carry execution detail and resolve the partial application " ++
        "manually before retrying."
      details := [("carryActionId", .str node.action.id)] }

end RebalanceCarryActionNode

structure RebalanceTreasuryActionNode where
  action : TreasuryAction
  executions : List TreasuryExecution

namespace RebalanceTreasuryActionNode

variable (node : RebalanceTreasuryActionNode)

def hasSideEffects : Bool :=
  node.executions.any fun execution => execution.venueExecutionReference.isSome

def treasuryReasonJson (reason : TreasuryActionBlockedReason) : Json :=
  .obj
    [("code", .str reason.code), ("category", .str reason.category),
      ("message", .str reason.message), ("operatorAction", .str reason.operatorAction),
      ("details", .obj reason.details)]

def child : RecoveryChild where
  id := node.action.id
  status := node.action.status
  linkedCommandId := node.action.linkedCommandId
  latestExecutionId := node.action.latestExecutionId
  executions := node.executions.map fun execution => (execution.id, execution.status)
  remainsBlocked := !node.action.executable || decide (node.action.readiness = .blocked) ||
    !node.action.blockedReasons.isEmpty
  blockedReasons := .arr (node.action.blockedReasons.map treasuryReasonJson)
  hasSideEffects := node.hasSideEffects
  label := "Treasury"
  idKey := "treasuryActionId"
  replacement :=
    "Create a new treasury or allocator evaluation if a replacement action is required."
  sideEffects :=
    { code := "treasury_execution_side_effect_detected"
      category := "safety"
      message := "Treasury child shows venue-side execution evidence, so replaying it could " ++
        "duplicate external state changes."
      operatorAction := "Inspect the treasury execution detail before requesting recovery."
      details := [("treasuryActionId", .str node.action.id)] }

end RebalanceTreasuryActionNode

section Candidates

variable (bundle : RebalanceBundle) (runtimeStatus : RuntimeStatus)

def candidateId (target : BundleRecoveryTarget) (childId : String) : String :=
  s!"{bundle.id}:{target.text}:{childId}:requeue_child_execution"

/-- The details of the evidence name the latest failed execution as well. -/
def withLatest (child : RecoveryChild) : RecoveryChild :=
  { child with
    sideEffects :=
      { child.sideEffects with
        details := child.sideEffects.details ++
          [("latestExecutionId", Json.ofOption child.latestFailedExecution)] } }

def buildCarryRecoveryCandidate (node : RebalanceCarryActionNode) : BundleRecoveryCandidate where
  id := candidateId bundle .carryAction node.action.id
  bundleId := bundle.id
  proposalId := bundle.proposalId
  targetChildType := .carryAction
  targetChildId := node.action.id
  targetChildStatus := node.action.status.text
  targetCommandType := .executeCarryAction
  approvalRequirement := node.action.approvalRequirement
  blockedReasons := (withLatest node.child).blockedBy bundle runtimeStatus
  executionMode := node.action.executionMode
  simulated := node.action.simulated
  note := node.child.latestFailedExecution.elim
    ("Carry child can be requeued from its persisted action record because no venue-side " ++
      "progress is recorded.")
    fun executionId => s!"Latest failed carry execution: {executionId}."

def buildTreasuryRecoveryCandidate (node : RebalanceTreasuryActionNode) :
    BundleRecoveryCandidate where
  id := candidateId bundle .treasuryAction node.action.id
  bundleId := bundle.id
  proposalId := bundle.proposalId
  targetChildType := .treasuryAction
  targetChildId := node.action.id
  targetChildStatus := node.action.status.text
  targetCommandType := .executeTreasuryAction
  approvalRequirement := node.action.approvalRequirement
  blockedReasons := (withLatest node.child).blockedBy bundle runtimeStatus
  executionMode := node.action.executionMode
  simulated := node.action.simulated
  note := node.child.latestFailedExecution.elim
    ("Treasury child can be queued from its persisted action record when no external side " ++
      "effects were recorded.")
    fun executionId => s!"Latest failed treasury execution: {executionId}."

/-- A proposal is never executed again. -/
def buildProposalRecoveryCandidate : BundleRecoveryCandidate where
  id := candidateId bundle .rebalanceProposal bundle.proposalId
  bundleId := bundle.id
  proposalId := bundle.proposalId
  targetChildType := .rebalanceProposal
  targetChildId := bundle.proposalId
  targetChildStatus := bundle.proposalStatus.text
  targetCommandType := .executeRebalanceProposal
  approvalRequirement := bundle.approvalRequirement
  blockedReasons :=
    [{ code := "proposal_requeue_not_supported"
       category := "safety"
       message := "Proposal-level rebalance retry is not safely supported in this pass because " ++
        "it can duplicate downstream child work."
       operatorAction := "Inspect child actions directly and use child-scoped recovery actions " ++
        "when they are explicitly eligible."
       details := [("proposalId", .str bundle.proposalId)] }]
  executionMode := bundle.executionMode
  simulated := bundle.simulated
  note := "Bundle recovery currently supports explicit child action recovery only."

/-- The candidates of the children of a proposal, and of the proposal itself. -/
def buildRebalanceBundleRecoveryCandidates (carry : CarryTables) (treasury : TreasuryTables) :
    List BundleRecoveryCandidate :=
  ((carry.actions.filter fun action =>
      decide (action.linkedRebalanceProposalId = some bundle.proposalId)).map fun action =>
    buildCarryRecoveryCandidate bundle runtimeStatus
      { action
        executions := carry.executionsOf action.id
        steps := carry.steps.filter fun step => decide (step.carryActionId = action.id) }) ++
  ((treasury.actions.filter fun action =>
      decide (action.linkedRebalanceProposalId = some bundle.proposalId)).map fun action =>
    buildTreasuryRecoveryCandidate bundle runtimeStatus
      { action, executions := treasury.executionsOf action.id }) ++
  [buildProposalRecoveryCandidate bundle]

end Candidates

/-! ## Eligible children -/

/-- The statuses from which a child may be queued again. -/
def ActionStatus.retryable : ActionStatus → Bool
  | .recommended => true
  | .approved => true
  | .failed => true
  | _ => false

theorem ActionStatus.retryable_iff {s : ActionStatus} :
    s.retryable = true ↔ s ≠ .completed ∧ ¬ (s = .queued ∨ s = .executing) ∧ s ≠ .cancelled := by
  cases s <;> decide

theorem RecoveryChild.of_reasonIf_eq_nil {p : Prop} [Decidable p]
    {code category message operatorAction : String} {details : List (String × Json)}
    (h : reasonIf p code category message operatorAction details = []) : ¬ p := by
  intro hp
  rw [reasonIf, if_pos hp] at h
  cases h

theorem RecoveryChild.retryable_of_blockedBy {child : RecoveryChild} {bundle : RebalanceBundle}
    {runtimeStatus : RuntimeStatus} (h : (child.blockedBy bundle runtimeStatus).isEmpty = true) :
    child.status.retryable = true ∧ child.hasSideEffects = false := by
  rw [List.isEmpty_iff] at h
  simp only [blockedBy, statusReasons, safetyReasons, List.append_eq_nil_iff] at h
  obtain ⟨⟨-, ⟨hcompleted, hinflight⟩, hcancelled⟩, -, hevidence⟩ := h
  constructor
  · have hstatus := of_reasonIf_eq_nil hcompleted
    rw [not_or] at hstatus
    exact ActionStatus.retryable_iff.2
      ⟨hstatus.2, of_reasonIf_eq_nil hinflight, of_reasonIf_eq_nil hcancelled⟩
  · by_contra hside
    simp [hside] at hevidence

end SentinelApex
