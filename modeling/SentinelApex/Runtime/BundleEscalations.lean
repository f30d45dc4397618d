import SentinelApex.Runtime.BundleProgress
import SentinelApex.Runtime.TreasuryControl

/-!
# Manual resolution and escalation of a bundle

An operator may accept a partial application, mark a bundle as resolved, or escalate it for review;
an escalation is assigned, acknowledged, reviewed and closed. The record of a bundle holds its row,
which mirrors the latest escalation, with its escalations, their events and the requests.

The requests are performed one after the other, and no call of the store fails. Between them the
children of the bundle may change: every request brings the graph that it reads. The latest
escalation is the one with the greatest time of creation, the first of several. Generated ids are
numbers of a counter. The audit trail is left out.
-/

namespace SentinelApex

/-! ## Data -/

inductive RebalanceBundleResolutionState where
  | unresolved
  | acceptedPartial
  | manuallyResolved
  | escalated
  deriving DecidableEq, Repr

def RebalanceBundleResolutionState.text : RebalanceBundleResolutionState → String
  | .unresolved => "unresolved"
  | .acceptedPartial => "accepted_partial"
  | .manuallyResolved => "manually_resolved"
  | .escalated => "escalated"

inductive RebalanceBundleResolutionActionType where
  | acceptPartialApplication
  | markBundleManuallyResolved
  | escalateBundleForReview
  deriving DecidableEq, Repr

def RebalanceBundleResolutionActionType.text : RebalanceBundleResolutionActionType → String
  | .acceptPartialApplication => "accept_partial_application"
  | .markBundleManuallyResolved => "mark_bundle_manually_resolved"
  | .escalateBundleForReview => "escalate_bundle_for_review"

inductive RebalanceBundleEscalationStatus where
  | open
  | acknowledged
  | inReview
  | resolved
  deriving DecidableEq, Repr

namespace RebalanceBundleEscalationStatus

def text : RebalanceBundleEscalationStatus → String
  | .open => "open"
  | .acknowledged => "acknowledged"
  | .inReview => "in_review"
  | .resolved => "resolved"

/-- The order in which an escalation takes the statuses. -/
def rank : RebalanceBundleEscalationStatus → ℕ
  | .open => 0
  | .acknowledged => 1
  | .inReview => 2
  | .resolved => 3

end RebalanceBundleEscalationStatus

inductive RebalanceBundleEscalationTransitionType where
  | assign
  | acknowledge
  | startReview
  | close
  deriving DecidableEq, Repr

def RebalanceBundleEscalationTransitionType.text :
    RebalanceBundleEscalationTransitionType → String
  | .assign => "assign"
  | .acknowledge => "acknowledge"
  | .startReview => "start_review"
  | .close => "close"

inductive RebalanceBundleEscalationEventType where
  | created
  | assigned
  | acknowledged
  | reviewStarted
  | resolved
  deriving DecidableEq, Repr

/-- A row of `allocator_rebalance_bundle_escalations`. -/
structure RebalanceBundleEscalation where
  id : ℕ
  sourceResolutionActionId : Option ℕ
  status : RebalanceBundleEscalationStatus
  ownerId : Option String
  assignedBy : Option String
  assignedAt : Option Date
  acknowledgedBy : Option String
  acknowledgedAt : Option Date
  dueAt : Option Date
  handoffNote : Option String
  reviewNote : Option String
  resolutionNote : Option String
  closedBy : Option String
  closedAt : Option Date
  createdAt : Date

def RebalanceBundleEscalation.isOpen (escalation : RebalanceBundleEscalation) : Bool :=
  decide (escalation.status ≠ .resolved)

/-- A row of `allocator_rebalance_bundle_escalation_events`. -/
structure RebalanceBundleEscalationEvent where
  escalationId : ℕ
  eventType : RebalanceBundleEscalationEventType
  fromStatus : Option RebalanceBundleEscalationStatus
  toStatus : RebalanceBundleEscalationStatus
  actorId : String
  ownerId : Option String
  note : Option String
  dueAt : Option Date
  createdAt : Date

inductive RebalanceBundleResolutionActionStatus where
  | completed
  | blocked
  deriving DecidableEq, Repr

/-- What a request for resolution stores of the children. -/
structure AffectedChildSummary where
  counts : BundleProgressCounts
  childStates : List
    (BundleRecoveryTarget × String × BundleChildProgressState × BundleChildRetryability)

/-- A row of `allocator_rebalance_bundle_resolution_actions`. -/
structure RebalanceBundleResolutionAction where
  id : ℕ
  resolutionActionType : RebalanceBundleResolutionActionType
  status : RebalanceBundleResolutionActionStatus
  resolutionState : RebalanceBundleResolutionState
  note : String
  acknowledgedPartialApplication : Bool
  escalated : Bool
  affectedChildSummary : AffectedChildSummary
  linkedRecoveryActionIds : List String
  blockedReasons : List BundleRecoveryBlockedReason
  outcomeSummary : String
  requestedBy : String
  completedBy : Option String
  requestedAt : Date

/-- The row of the bundle: what is derived from its children, and the overlays of the operators. -/
structure RebalanceBundleRow where
  id : String
  proposalId : String
  snapshot : RebalanceBundleSnapshot
  resolutionState : RebalanceBundleResolutionState
  latestResolutionActionId : Option ℕ
  resolutionSummary : Option String
  resolvedBy : Option String
  resolvedAt : Option Date
  latestEscalationId : Option ℕ
  escalationStatus : Option RebalanceBundleEscalationStatus
  escalationOwnerId : Option String
  escalationAssignedAt : Option Date
  escalationDueAt : Option Date
  escalationSummary : Option String

/-- The row with the rows that name the bundle; new rows are appended. -/
structure RebalanceBundleRecord where
  bundle : RebalanceBundleRow
  escalations : List RebalanceBundleEscalation
  events : List RebalanceBundleEscalationEvent
  resolutionActions : List RebalanceBundleResolutionAction
  nextId : ℕ

/-! ## The store -/

def recommendationForResolutionState :
    RebalanceBundleResolutionState → Option RebalanceBundleInterventionRecommendation
  | .acceptedPartial => some .acceptedPartialApplication
  | .manuallyResolved => some .manuallyResolved
  | .escalated => some .escalatedForReview
  | .unresolved => none

/-- What a request reads beside the record. -/
structure BundleReading where
  graph : RebalanceExecutionGraph
  recoveryCandidates : List BundleRecoveryCandidate
  recoveryActionIds : List String

/-- The columns of the bundle's row that mirror an escalation. -/
structure EscalationState where
  latestEscalationId : Option ℕ
  escalationStatus : Option RebalanceBundleEscalationStatus
  escalationOwnerId : Option String
  escalationAssignedAt : Option Date
  escalationDueAt : Option Date
  escalationSummary : Option String

namespace RebalanceBundleRecord

variable (record : RebalanceBundleRecord)

/-- The columns that the children determine; the recommendation follows the resolution, if there is
one. -/
def syncRebalanceBundle (reading : BundleReading) : RebalanceBundleRecord :=
  let snapshot := deriveRebalanceBundleSnapshot reading.graph
  { record with
    bundle := { record.bundle with
      snapshot := { snapshot with
        interventionRecommendation :=
          (recommendationForResolutionState record.bundle.resolutionState).getD
            snapshot.interventionRecommendation } } }

/-- `ORDER BY created_at DESC LIMIT 1`. -/
def latestCreated : List RebalanceBundleEscalation → Option RebalanceBundleEscalation
  | [] => none
  | escalation :: escalations =>
    match latestCreated escalations with
    | none => some escalation
    | some latest => if latest.createdAt > escalation.createdAt then some latest else some escalation

def getRebalanceBundleEscalation : Option RebalanceBundleEscalation :=
  latestCreated record.escalations

def getOpenRebalanceBundleEscalation : Option RebalanceBundleEscalation :=
  latestCreated (record.escalations.filter fun escalation => escalation.isOpen)

def createRebalanceBundleResolutionAction (row : ℕ → RebalanceBundleResolutionAction) :
    RebalanceBundleRecord :=
  { record with
    resolutionActions := record.resolutionActions ++ [row record.nextId]
    nextId := record.nextId + 1 }

def updateRebalanceBundleResolutionState (resolutionState : RebalanceBundleResolutionState)
    (latestResolutionActionId : ℕ) (resolutionSummary resolvedBy : String) (resolvedAt : Date) :
    RebalanceBundleRecord :=
  { record with
    bundle := { record.bundle with
      snapshot := { record.bundle.snapshot with
        interventionRecommendation := (recommendationForResolutionState resolutionState).getD
          record.bundle.snapshot.interventionRecommendation }
      resolutionState
      latestResolutionActionId := some latestResolutionActionId
      resolutionSummary := some resolutionSummary
      resolvedBy := some resolvedBy
      resolvedAt := some resolvedAt } }

def createRebalanceBundleEscalation (row : ℕ → RebalanceBundleEscalation) :
    RebalanceBundleRecord :=
  { record with
    escalations := record.escalations ++ [row record.nextId]
    nextId := record.nextId + 1 }

def updateRebalanceBundleEscalation (escalationId : ℕ)
    (patch : RebalanceBundleEscalation → RebalanceBundleEscalation) : RebalanceBundleRecord :=
  { record with
    escalations := Rows.update RebalanceBundleEscalation.id escalationId patch record.escalations }

def recordRebalanceBundleEscalationEvent (event : RebalanceBundleEscalationEvent) :
    RebalanceBundleRecord :=
  { record with events := record.events ++ [event] }

def updateRebalanceBundleEscalationState (state : EscalationState) : RebalanceBundleRecord :=
  { record with
    bundle := { record.bundle with
      latestEscalationId := state.latestEscalationId
      escalationStatus := state.escalationStatus
      escalationOwnerId := state.escalationOwnerId
      escalationAssignedAt := state.escalationAssignedAt
      escalationDueAt := state.escalationDueAt
      escalationSummary := state.escalationSummary } }

end RebalanceBundleRecord

/-! ## Options of a bundle -/

structure RebalanceBundleResolutionOption where
  id : String
  bundleId : String
  proposalId : String
  resolutionActionType : RebalanceBundleResolutionActionType
  targetResolutionState : RebalanceBundleResolutionState
  approvalRequirement : ApprovalRequirement
  blockedReasons : List BundleRecoveryBlockedReason
  summary : String
  operatorAction : String

def RebalanceBundleResolutionOption.eligible (option : RebalanceBundleResolutionOption) : Bool :=
  option.blockedReasons.isEmpty

open RecoveryChild (reasonIf)

def resolutionBlockedReasons (bundle : RebalanceBundleRow) (inflightChildren : ℕ)
    (actionType : RebalanceBundleResolutionActionType) (target : RebalanceBundleResolutionState) :
    List BundleRecoveryBlockedReason :=
  let status := bundle.snapshot.status
  reasonIf (status ∉ [RebalanceBundleStatus.failed, .blocked, .requiresIntervention,
      .partiallyCompleted])
    "bundle_not_actionable" "bundle_state"
    s!"Bundle status \"{status.text}\" does not permit manual resolution."
    ("Only request manual resolution for failed, blocked, partial, or intervention-required " ++
      "bundles.")
    [("bundleStatus", .str status.text)] ++
  reasonIf (bundle.snapshot.pendingChildCount > 0 ∨ inflightChildren > 0)
    "bundle_has_inflight_children" "safety"
    "Bundle still has in-flight downstream children and cannot be manually closed yet."
    "Wait for in-flight children to settle before recording manual resolution."
    [("pendingChildCount", .num bundle.snapshot.pendingChildCount),
      ("inflightChildren", .num inflightChildren)] ++
  reasonIf (actionType = .acceptPartialApplication ∧
      bundle.snapshot.outcomeClassification ≠ .partialApplication)
    "bundle_not_partial_application" "bundle_state"
    ("Accept-partial resolution is only available when the bundle outcome is partial " ++
      "application.")
    "Use manual resolution or escalation for fully failed or fully blocked bundles."
    [("outcomeClassification", .str bundle.snapshot.outcomeClassification.text)] ++
  reasonIf (bundle.resolutionState = target)
    "resolution_state_already_current" "validation"
    s!"Bundle is already marked as {target.text}."
    ("Inspect the existing manual resolution history instead of repeating the same " ++
      "decision.")
    [("resolutionState", .str bundle.resolutionState.text)]

def RebalanceBundleResolutionActionType.target :
    RebalanceBundleResolutionActionType → RebalanceBundleResolutionState
  | .acceptPartialApplication => .acceptedPartial
  | .markBundleManuallyResolved => .manuallyResolved
  | .escalateBundleForReview => .escalated

def buildBundleResolutionOptions (bundle : RebalanceBundleRow)
    (progress : RebalanceBundlePartialProgress) : List RebalanceBundleResolutionOption :=
  let buildOption (actionType : RebalanceBundleResolutionActionType)
      (summary operatorAction : String) : RebalanceBundleResolutionOption :=
    { id := s!"{bundle.id}:{actionType.text}"
      bundleId := bundle.id
      proposalId := bundle.proposalId
      resolutionActionType := actionType
      targetResolutionState := actionType.target
      approvalRequirement := .operator
      blockedReasons :=
        resolutionBlockedReasons bundle progress.inflightChildren actionType actionType.target
      summary
      operatorAction }
  [buildOption .acceptPartialApplication
      ("Accept the current partial application as the intended bundle outcome without retrying " ++
        "remaining children.")
      ("Record why the partially applied state is acceptable and acknowledge the remaining " ++
        "non-retryable context."),
    buildOption .markBundleManuallyResolved
      ("Record that the operator resolved the bundle outside the retry rails and no further " ++
        "bundle recovery is required.")
      ("Document the manual remediation or external resolution steps that closed the " ++
        "bundle."),
    buildOption .escalateBundleForReview
      ("Escalate the bundle for further review when current partial or non-retryable state " ++
        "cannot be safely closed yet.")
      "Document why the bundle remains escalated and what follow-up is required."]

structure RebalanceBundleEscalationTransition where
  id : String
  bundleId : String
  escalationId : Option ℕ
  transitionType : RebalanceBundleEscalationTransitionType
  targetStatus : RebalanceBundleEscalationStatus
  approvalRequirement : ApprovalRequirement
  blockedReasons : List BundleRecoveryBlockedReason
  noteRequired : Bool
  assigneeRequired : Bool
  summary : String
  operatorAction : String

def RebalanceBundleEscalationTransition.eligible
    (transition : RebalanceBundleEscalationTransition) : Bool :=
  transition.blockedReasons.isEmpty

def transitionBlockedReasons (transitionType : RebalanceBundleEscalationTransitionType)
    (escalation : RebalanceBundleEscalation) : List BundleRecoveryBlockedReason :=
  reasonIf (escalation.isOpen = false)
    "escalation_already_resolved" "escalation_state"
    "This escalation is already resolved."
    ("Inspect the resolved escalation history instead of applying more workflow " ++
      "transitions.")
    [("escalationStatus", .str escalation.status.text)] ++
  reasonIf (transitionType ≠ .assign ∧ escalation.ownerId = none)
    "escalation_owner_required" "ownership"
    "Escalation must have an assigned owner before acknowledgement, review, or close."
    "Assign the escalation to an operator before continuing." [] ++
  reasonIf (transitionType = .acknowledge ∧ escalation.status ≠ .open)
    "invalid_status_transition" "escalation_state"
    s!"Escalation cannot be acknowledged from status \"{escalation.status.text}\"."
    "Only acknowledge newly open escalations."
    [("escalationStatus", .str escalation.status.text)] ++
  reasonIf (transitionType = .startReview ∧
      escalation.status ∉ [RebalanceBundleEscalationStatus.open, .acknowledged])
    "invalid_status_transition" "escalation_state"
    s!"Escalation cannot enter review from status \"{escalation.status.text}\"."
    "Start review only after the escalation is open or acknowledged."
    [("escalationStatus", .str escalation.status.text)]

def buildBundleEscalationTransitions (bundle : RebalanceBundleRow)
    (escalation : Option RebalanceBundleEscalation) : List RebalanceBundleEscalationTransition :=
  let buildTransition (transitionType : RebalanceBundleEscalationTransitionType)
      (targetStatus : RebalanceBundleEscalationStatus) (summary operatorAction : String)
      (noteRequired assigneeRequired : Bool) : RebalanceBundleEscalationTransition :=
    { id := s!"{bundle.id}:{transitionType.text}"
      bundleId := bundle.id
      escalationId := escalation.map fun escalation => escalation.id
      transitionType
      targetStatus
      approvalRequirement := .operator
      blockedReasons :=
        reasonIf (bundle.resolutionState ≠ .escalated)
          "bundle_not_escalated" "bundle_state"
          "Bundle is not currently in an escalated resolution state."
          "Only use escalation workflow actions on bundles that are explicitly escalated."
          [("resolutionState", .str bundle.resolutionState.text)] ++
        match escalation with
        | none =>
          reasonIf True
            "escalation_not_found" "escalation_state"
            "No escalation record exists for this bundle yet."
            "Escalate the bundle first or inspect the manual resolution history." []
        | some escalation => transitionBlockedReasons transitionType escalation
      noteRequired
      assigneeRequired
      summary
      operatorAction }
  [buildTransition .assign (escalation.elim .open fun escalation => escalation.status)
      "Assign or reassign the escalation owner and optional follow-up date."
      "Document the handoff and choose the operator who now owns the escalated bundle."
      true true,
    buildTransition .acknowledge .acknowledged
      "Acknowledge that the escalation owner has accepted the handoff."
      "Record acknowledgement once the owner accepts responsibility for follow-up."
      false false,
    buildTransition .startReview .inReview
      "Mark the escalation as actively under review."
      ("Record review progress when the assigned owner begins investigating the escalated " ++
        "bundle.")
      false false,
    buildTransition .close .resolved
      "Resolve the escalation once follow-up is complete and the handoff workflow is closed."
      "Document the resolution outcome and who closed the escalation."
      true false]

/-! ## Requests -/

/-- What the control plane reads of a bundle. -/
structure BundleDetail where
  bundle : RebalanceBundleRow
  partialProgress : RebalanceBundlePartialProgress
  recoveryActionIds : List String
  resolutionOptions : List RebalanceBundleResolutionOption
  escalation : Option RebalanceBundleEscalation
  escalationTransitions : List RebalanceBundleEscalationTransition

def RebalanceBundleRecord.detail (record : RebalanceBundleRecord) (reading : BundleReading) :
    BundleDetail :=
  let progress := buildBundlePartialProgress reading.graph reading.recoveryCandidates
  { bundle := record.bundle
    partialProgress := progress
    recoveryActionIds := reading.recoveryActionIds
    resolutionOptions := buildBundleResolutionOptions record.bundle progress
    escalation := record.getRebalanceBundleEscalation
    escalationTransitions :=
      buildBundleEscalationTransitions record.bundle record.getRebalanceBundleEscalation }

/-- Who makes a request, and when. -/
structure BundleActor where
  actorId : String
  actorRole : OperatorRole
  now : Date

def throwIf (p : Prop) [Decidable p] (message : String) : Except String Unit :=
  if p then .error message else .ok ()

def checkResolution (detail : BundleDetail) (actionType : RebalanceBundleResolutionActionType)
    (note : String) (actor : BundleActor) :
    Except String (RebalanceBundleResolutionOption × String) :=
  match detail.resolutionOptions.find? fun option =>
    decide (option.resolutionActionType = actionType) with
  | none => .error "Bundle manual resolution option was not found."
  | some option => do
    throwIf (canSatisfyApprovalRequirement actor.actorRole option.approvalRequirement = false)
      s!"Bundle manual resolution requires {option.approvalRequirement.text} approval."
    throwIf (Json.trim note = "") "Bundle manual resolution note is required."
    return (option, Json.trim note)

def resolutionActionRow (detail : BundleDetail) (option : RebalanceBundleResolutionOption)
    (note : String) (actor : BundleActor) (id : ℕ) : RebalanceBundleResolutionAction where
  id
  resolutionActionType := option.resolutionActionType
  status := if option.eligible then .completed else .blocked
  resolutionState :=
    if option.eligible then option.targetResolutionState else detail.bundle.resolutionState
  note
  acknowledgedPartialApplication :=
    decide (option.resolutionActionType = .acceptPartialApplication)
  escalated := decide (option.resolutionActionType = .escalateBundleForReview)
  affectedChildSummary :=
    { counts := detail.partialProgress.toBundleProgressCounts
      childStates := detail.partialProgress.children.map fun child =>
        (child.childType, child.childId, child.progressState, child.retryability) }
  linkedRecoveryActionIds := detail.recoveryActionIds.take 5
  blockedReasons := option.blockedReasons
  outcomeSummary :=
    if option.eligible then option.summary
    else option.blockedReasons.head?.elim "Bundle manual resolution remained blocked."
      fun reason => reason.message
  requestedBy := actor.actorId
  completedBy := if option.eligible then some actor.actorId else none
  requestedAt := actor.now

namespace RebalanceBundleRecord

/-- A new escalation is owned by the operator who asks for it. -/
def openEscalation (record : RebalanceBundleRecord) (actionId : ℕ) (note : String)
    (actor : BundleActor) : RebalanceBundleRecord :=
  let escalationId := record.nextId
  ((record.createRebalanceBundleEscalation fun id =>
    { id
      sourceResolutionActionId := some actionId
      status := .open
      ownerId := some actor.actorId
      assignedBy := some actor.actorId
      assignedAt := some actor.now
      acknowledgedBy := none
      acknowledgedAt := none
      dueAt := none
      handoffNote := some note
      reviewNote := none
      resolutionNote := none
      closedBy := none
      closedAt := none
      createdAt := actor.now }).recordRebalanceBundleEscalationEvent
    { escalationId
      eventType := .created
      fromStatus := none
      toStatus := .open
      actorId := actor.actorId
      ownerId := some actor.actorId
      note := some note
      dueAt := none
      createdAt := actor.now }).updateRebalanceBundleEscalationState
    { latestEscalationId := some escalationId
      escalationStatus := some .open
      escalationOwnerId := some actor.actorId
      escalationAssignedAt := some actor.now
      escalationDueAt := none
      escalationSummary := some note }

/-- An escalation that is open already is linked to the bundle again. -/
def relinkEscalation (record : RebalanceBundleRecord) (existing : RebalanceBundleEscalation)
    (note : String) : RebalanceBundleRecord :=
  record.updateRebalanceBundleEscalationState
    { latestEscalationId := some existing.id
      escalationStatus := some existing.status
      escalationOwnerId := existing.ownerId
      escalationAssignedAt := existing.assignedAt
      escalationDueAt := existing.dueAt
      escalationSummary := some (((existing.handoffNote.or existing.reviewNote).or
        existing.resolutionNote).getD note) }

/-- The writes of an eligible request. -/
def recordResolution (record : RebalanceBundleRecord) (option : RebalanceBundleResolutionOption)
    (actionId : ℕ) (note : String) (actor : BundleActor) : RebalanceBundleRecord :=
  let resolved := record.updateRebalanceBundleResolutionState option.targetResolutionState actionId
    note actor.actorId actor.now
  if option.resolutionActionType = .escalateBundleForReview then
    match resolved.getOpenRebalanceBundleEscalation with
    | none => resolved.openEscalation actionId note actor
    | some existing => resolved.relinkEscalation existing note
  else resolved

end RebalanceBundleRecord

/-- A request that is not eligible is stored as blocked. -/
def requestRebalanceBundleResolutionAction (reading : BundleReading)
    (actionType : RebalanceBundleResolutionActionType) (note : String) (actor : BundleActor)
    (record : RebalanceBundleRecord) :
    Except String RebalanceBundleResolutionAction × RebalanceBundleRecord :=
  let record := record.syncRebalanceBundle reading
  let detail := record.detail reading
  match checkResolution detail actionType note actor with
  | .error message => (.error message, record)
  | .ok (option, note) =>
    let action := resolutionActionRow detail option note actor record.nextId
    let created := record.createRebalanceBundleResolutionAction
      (resolutionActionRow detail option note actor)
    let recorded :=
      if option.eligible then created.recordResolution option action.id note actor else created
    (.ok action, recorded.syncRebalanceBundle reading)

/-- What an escalation operation writes. -/
structure EscalationChange where
  eventType : RebalanceBundleEscalationEventType
  patch : RebalanceBundleEscalation → RebalanceBundleEscalation
  note : Option String
  summary : Option String

/-- The escalation, its event and the columns of the bundle's row are written in this order. -/
def RebalanceBundleRecord.applyChange (record : RebalanceBundleRecord)
    (escalation : RebalanceBundleEscalation) (change : EscalationChange) (actor : BundleActor) :
    RebalanceBundleRecord :=
  let patched := change.patch escalation
  ((record.updateRebalanceBundleEscalation escalation.id
    change.patch).recordRebalanceBundleEscalationEvent
    { escalationId := escalation.id
      eventType := change.eventType
      fromStatus := some escalation.status
      toStatus := patched.status
      actorId := actor.actorId
      ownerId := patched.ownerId
      note := change.note
      dueAt := patched.dueAt
      createdAt := actor.now }).updateRebalanceBundleEscalationState
    { latestEscalationId := some escalation.id
      escalationStatus := some patched.status
      escalationOwnerId := patched.ownerId
      escalationAssignedAt := patched.assignedAt
      escalationDueAt := patched.dueAt
      escalationSummary := change.summary }

def checkTransition (detail : BundleDetail)
    (transitionType : RebalanceBundleEscalationTransitionType) (name : String)
    (actor : BundleActor) :
    Except String (RebalanceBundleEscalationTransition × RebalanceBundleEscalation) :=
  match detail.escalationTransitions.find? fun transition =>
    decide (transition.transitionType = transitionType) with
  | none => .error s!"Bundle escalation {name} option was not found."
  | some transition => do
    throwIf (canSatisfyApprovalRequirement actor.actorRole transition.approvalRequirement = false)
      s!"Bundle escalation {name} requires {transition.approvalRequirement.text} approval."
    match detail.escalation with
    | none => .error "Bundle escalation record was not found."
    | some escalation => return (transition, escalation)

def checkEligible (transition : RebalanceBundleEscalationTransition) (name : String) :
    Except String Unit :=
  throwIf (transition.eligible = false)
    (transition.blockedReasons.head?.elim s!"Bundle escalation {name} is blocked."
      fun reason => reason.message)

def checkOwner (escalation : RebalanceBundleEscalation) (verb : String) (actor : BundleActor) :
    Except String Unit :=
  throwIf (actor.actorRole ≠ .admin ∧ escalation.ownerId ≠ some actor.actorId)
    s!"Only the current escalation owner or an admin may {verb}."

/-- The due date of a request: an absent or empty one is `none`, an invalid one `some none`. -/
abbrev DueDate := Option (Option Date)

/-- A note that may be absent or blank. -/
def optionalNote (note : Option String) : Option String :=
  match note.map Json.trim with
  | none => none
  | some note => if note = "" then none else some note

abbrev EscalationCheck := Except String (RebalanceBundleEscalation × EscalationChange)

def assignRebalanceBundleEscalation (ownerId note : String) (dueAt : DueDate)
    (detail : BundleDetail) (actor : BundleActor) : EscalationCheck := do
  let (transition, escalation) ← checkTransition detail .assign "assignment" actor
  throwIf (Json.trim ownerId = "") "Bundle escalation assignee is required."
  throwIf (Json.trim note = "") "Bundle escalation handoff note is required."
  checkEligible transition "assignment"
  throwIf (escalation.ownerId = some (Json.trim ownerId))
    "Bundle escalation is already assigned to that owner."
  throwIf (dueAt = some none) "Bundle escalation due date is invalid."
  return (escalation,
    { eventType := .assigned
      patch := fun row =>
        { row with
          ownerId := some (Json.trim ownerId)
          assignedBy := some actor.actorId
          assignedAt := some actor.now
          dueAt := dueAt.join
          handoffNote := some (Json.trim note) }
      note := some (Json.trim note)
      summary := some (Json.trim note) })

def acknowledgeRebalanceBundleEscalation (note : Option String) (detail : BundleDetail)
    (actor : BundleActor) : EscalationCheck := do
  let (transition, escalation) ← checkTransition detail .acknowledge "acknowledgement" actor
  checkEligible transition "acknowledgement"
  checkOwner escalation "acknowledge this escalation" actor
  return (escalation,
    { eventType := .acknowledged
      patch := fun row =>
        { row with
          status := .acknowledged
          acknowledgedBy := some actor.actorId
          acknowledgedAt := some actor.now }
      note := optionalNote note
      summary := (optionalNote note).or escalation.handoffNote })

def startRebalanceBundleEscalationReview (note : Option String) (detail : BundleDetail)
    (actor : BundleActor) : EscalationCheck := do
  let (transition, escalation) ← checkTransition detail .startReview "review" actor
  checkEligible transition "review"
  checkOwner escalation "start review" actor
  return (escalation,
    { eventType := .reviewStarted
      patch := fun row =>
        { row with
          status := .inReview
          reviewNote := (optionalNote note).or escalation.reviewNote }
      note := optionalNote note
      summary := ((optionalNote note).or escalation.reviewNote).or escalation.handoffNote })

def closeRebalanceBundleEscalation (note : String) (detail : BundleDetail) (actor : BundleActor) :
    EscalationCheck := do
  let (transition, escalation) ← checkTransition detail .close "close" actor
  checkEligible transition "close"
  checkOwner escalation "close this escalation" actor
  throwIf (Json.trim note = "") "Bundle escalation close note is required."
  return (escalation,
    { eventType := .resolved
      patch := fun row =>
        { row with
          status := .resolved
          resolutionNote := some (Json.trim note)
          closedBy := some actor.actorId
          closedAt := some actor.now }
      note := some (Json.trim note)
      summary := some (Json.trim note) })

inductive EscalationOperation where
  | assign (ownerId note : String) (dueAt : DueDate)
  | acknowledge (note : Option String)
  | startReview (note : Option String)
  | close (note : String)

def EscalationOperation.check : EscalationOperation → BundleDetail → BundleActor → EscalationCheck
  | .assign ownerId note dueAt => assignRebalanceBundleEscalation ownerId note dueAt
  | .acknowledge note => acknowledgeRebalanceBundleEscalation note
  | .startReview note => startRebalanceBundleEscalationReview note
  | .close note => closeRebalanceBundleEscalation note

def operateEscalation (reading : BundleReading) (operation : EscalationOperation)
    (actor : BundleActor) (record : RebalanceBundleRecord) :
    Except String RebalanceBundleEscalation × RebalanceBundleRecord :=
  let record := record.syncRebalanceBundle reading
  match operation.check (record.detail reading) actor with
  | .error message => (.error message, record)
  | .ok (escalation, change) =>
    (.ok (change.patch escalation),
      (record.applyChange escalation change actor).syncRebalanceBundle reading)

end SentinelApex
