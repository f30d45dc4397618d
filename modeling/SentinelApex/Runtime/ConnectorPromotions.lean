import Mathlib
import SentinelApex.Runtime.ConnectorReadiness
import SentinelApex.Runtime.TreasuryControl

/-!
# Promotion of connectors

A promotion is requested by an operator, and an admin approves, rejects or suspends it. The control
plane reads the promotion of the venue and checks its status; the store then reads the latest row of the
venue, updates it by its id alone, and appends the decision to the event log.

Every date is the one that the clock gives to the statement.
-/

namespace SentinelApex

open Async

/-! ## Rows -/

inductive ConnectorEffectivePosture where
  | simulated_only
  | real_readonly
  | execution_capable_unapproved
  | promotion_pending
  | approved_for_live
  | rejected
  | suspended
  deriving DecidableEq

inductive ConnectorPromotionTargetPosture where
  | approved_for_live
  deriving DecidableEq

def connectorPromotionTargetPosture : ConnectorPromotionTargetPosture := .approved_for_live

/-- A row of `venue_connector_promotions`. The promotion is computed from these columns and from
the current evidence. -/
structure ConnectorPromotionRow where
  id : ℕ
  venueId : String
  requestedTargetPosture : ConnectorPromotionTargetPosture
  promotionStatus : PromotionStatus
  requestedBy : String
  requestedAt : Date
  reviewedBy : Option String
  reviewedAt : Option Date
  approvedBy : Option String
  approvedAt : Option Date
  rejectedBy : Option String
  rejectedAt : Option Date
  suspendedBy : Option String
  suspendedAt : Option Date
  decisionNote : Option String
  updatedAt : Date

inductive ConnectorPromotionEventType where
  | requested
  | approved
  | rejected
  | suspended
  deriving DecidableEq

/-- A row of `venue_connector_promotion_events`. -/
structure ConnectorPromotionEvent where
  promotionId : ℕ
  venueId : String
  eventType : ConnectorPromotionEventType
  fromStatus : Option PromotionStatus
  toStatus : PromotionStatus
  effectivePosture : ConnectorEffectivePosture
  requestedTargetPosture : ConnectorPromotionTargetPosture
  actorId : String
  note : Option String
  evidence : ConnectorReadinessEvidence
  occurredAt : Date

/-! ## Views -/

structure ConnectorPromotionSummary where
  promotionId : Option ℕ
  requestedTargetPosture : Option ConnectorPromotionTargetPosture
  capabilityClass : ConnectorCapabilityClass
  promotionStatus : PromotionStatus
  effectivePosture : ConnectorEffectivePosture
  approvedForLiveUse : Bool
  sensitiveExecutionEligible : Bool
  requestedBy : Option String := none
  requestedAt : Option Date := none
  reviewedBy : Option String := none
  reviewedAt : Option Date := none
  approvedBy : Option String := none
  approvedAt : Option Date := none
  rejectedBy : Option String := none
  rejectedAt : Option Date := none
  suspendedBy : Option String := none
  suspendedAt : Option Date := none
  latestNote : Option String := none
  blockers : List String

structure ConnectorPromotionDetail where
  venueId : String
  venueName : String
  connectorType : String
  sleeveApplicability : List String
  current : ConnectorPromotionSummary
  evidence : ConnectorReadinessEvidence
  history : List ConnectorPromotionEvent

structure VenueInventoryItem extends VenueInventoryCore where
  approvedForLiveUse : Bool
  promotion : ConnectorPromotionSummary

def deriveEffectivePosture (capabilityClass : ConnectorCapabilityClass)
    (promotionStatus : PromotionStatus) : ConnectorEffectivePosture :=
  if promotionStatus = .suspended then .suspended
  else if capabilityClass = .simulated_only then .simulated_only
  else if capabilityClass = .real_readonly then .real_readonly
  else if promotionStatus = .approved then .approved_for_live
  else if promotionStatus = .pendingReview then .promotion_pending
  else if promotionStatus = .rejected then .rejected
  else .execution_capable_unapproved

def buildDefaultPromotionSummary (evidence : ConnectorReadinessEvidence) :
    ConnectorPromotionSummary where
  promotionId := none
  requestedTargetPosture := none
  capabilityClass := evidence.capabilityClass
  promotionStatus := .notRequested
  effectivePosture := deriveEffectivePosture evidence.capabilityClass .notRequested
  approvedForLiveUse := false
  sensitiveExecutionEligible := false
  blockers := evidence.blockingReasons

def buildPromotionSummaryFromRow (row : ConnectorPromotionRow)
    (evidence : ConnectorReadinessEvidence) : ConnectorPromotionSummary :=
  let effectivePosture := deriveEffectivePosture evidence.capabilityClass row.promotionStatus
  let approvedForLiveUse := decide (row.promotionStatus = .approved)
  { promotionId := row.id
    requestedTargetPosture := row.requestedTargetPosture
    capabilityClass := evidence.capabilityClass
    promotionStatus := row.promotionStatus
    effectivePosture
    approvedForLiveUse
    sensitiveExecutionEligible := approvedForLiveUse &&
      decide (effectivePosture = .approved_for_live) && evidence.eligibleForPromotion
    requestedBy := row.requestedBy
    requestedAt := row.requestedAt
    reviewedBy := row.reviewedBy
    reviewedAt := row.reviewedAt
    approvedBy := row.approvedBy
    approvedAt := row.approvedAt
    rejectedBy := row.rejectedBy
    rejectedAt := row.rejectedAt
    suspendedBy := row.suspendedBy
    suspendedAt := row.suspendedAt
    latestNote := row.decisionNote
    blockers := evidence.blockingReasons }

def promotionSummary (latest : Option ConnectorPromotionRow)
    (evidence : ConnectorReadinessEvidence) : ConnectorPromotionSummary :=
  match latest with
  | none => buildDefaultPromotionSummary evidence
  | some row => buildPromotionSummaryFromRow row evidence

/-- What a carry adapter reports of itself. -/
structure CarryVenueCapabilities where
  venueId : String
  venueMode : VenueMode
  executionSupported : Bool
  readOnly : Bool
  approvedForLiveUse : Bool
  healthy : Bool
  onboardingState : VenueOnboardingState
  missingPrerequisites : List String

def CarryVenueCapabilities.unimplemented (venueId : String) : CarryVenueCapabilities where
  venueId
  venueMode := .simulated
  executionSupported := false
  readOnly := true
  approvedForLiveUse := false
  healthy := true
  onboardingState := .readOnly
  missingPrerequisites := ["carry_controlled_execution_not_implemented"]

def carryVenueView (capabilities : CarryVenueCapabilities)
    (promotion : Option ConnectorPromotionSummary) : CarryVenueView :=
  let approvedForLiveUse := match promotion with
    | some promotion => promotion.approvedForLiveUse
    | none => capabilities.approvedForLiveUse
  { venueId := capabilities.venueId
    venueMode := capabilities.venueMode
    executionSupported := capabilities.executionSupported
    readOnly := capabilities.readOnly
    approvedForLiveUse
    sensitiveExecutionEligible := match promotion with
      | some promotion => promotion.sensitiveExecutionEligible
      | none => approvedForLiveUse && capabilities.executionSupported && capabilities.healthy &&
        capabilities.missingPrerequisites.isEmpty
    promotionStatus := match promotion with
      | some promotion => promotion.promotionStatus
      | none => if approvedForLiveUse then .approved else .notRequested
    promotionBlockedReasons := match promotion with
      | some promotion => promotion.blockers
      | none => capabilities.missingPrerequisites
    onboardingState := capabilities.onboardingState }

/-! ## Decisions -/

inductive PromotionDecision where
  | approve
  | reject
  | suspend
  deriving DecidableEq

namespace PromotionDecision

def requiredStatus : PromotionDecision → PromotionStatus
  | approve => .pendingReview
  | reject => .pendingReview
  | suspend => .approved

def toStatus : PromotionDecision → PromotionStatus
  | approve => .approved
  | reject => .rejected
  | suspend => .suspended

def eventType : PromotionDecision → ConnectorPromotionEventType
  | approve => .approved
  | reject => .rejected
  | suspend => .suspended

def accessError : PromotionDecision → String
  | approve => "Connector promotion approval requires admin access."
  | reject => "Connector promotion rejection requires admin access."
  | suspend => "Connector promotion suspension requires admin access."

def statusError (decision : PromotionDecision) (status : PromotionStatus) : String :=
  s!"Connector promotion cannot be {decision.toStatus.text} from status \"{status.text}\"."

def auditType (decision : PromotionDecision) : String :=
  s!"connector.promotion_{decision.toStatus.text}"

/-- The columns that the update of the decision sets. -/
def patch (actorId : String) (note : Option String) (now : Date) (row : ConnectorPromotionRow) :
    PromotionDecision → ConnectorPromotionRow
  | approve => { row with
      promotionStatus := .approved
      reviewedBy := some actorId
      reviewedAt := some now
      approvedBy := some actorId
      approvedAt := some now
      decisionNote := note
      updatedAt := now }
  | reject => { row with
      promotionStatus := .rejected
      reviewedBy := some actorId
      reviewedAt := some now
      rejectedBy := some actorId
      rejectedAt := some now
      decisionNote := note
      updatedAt := now }
  | suspend => { row with
      promotionStatus := .suspended
      suspendedBy := some actorId
      suspendedAt := some now
      decisionNote := note
      updatedAt := now }

end PromotionDecision

def ConnectorPromotionRow.requested (id : ℕ) (venueId actorId : String) (note : Option String)
    (now : Date) : ConnectorPromotionRow where
  id
  venueId
  requestedTargetPosture := connectorPromotionTargetPosture
  promotionStatus := .pendingReview
  requestedBy := actorId
  requestedAt := now
  reviewedBy := none
  reviewedAt := none
  approvedBy := none
  approvedAt := none
  rejectedBy := none
  rejectedAt := none
  suspendedBy := none
  suspendedAt := none
  decisionNote := note
  updatedAt := now

/-! ## Statements -/

inductive PromotionCall where
  | selectSnapshots
  | selectPromotions (venueIds : List String)
  | selectPromotionEvents (venueId : String)
  | insertPromotion (venueId actorId : String) (note : Option String)
  | updatePromotion (id : ℕ) (decision : PromotionDecision) (actorId : String)
      (note : Option String)
  | insertPromotionEvent (event : Date → ConnectorPromotionEvent)
  | persistSnapshots (snapshots : List VenueConnectorSnapshotRow)
  | auditWrite (event : SleeveAuditEvent)

/-- The snapshots are answered with the time at which their age is taken. -/
def PromotionCall.Reply : PromotionCall → Type
  | .selectSnapshots => List VenueConnectorSnapshotRow × Date
  | .selectPromotions _ => List ConnectorPromotionRow
  | .selectPromotionEvents _ => List ConnectorPromotionEvent
  | .insertPromotion .. => ConnectorPromotionRow
  | _ => Unit

abbrev PromotionTask := Task PromotionCall PromotionCall.Reply String

def PromotionCall.send (c : PromotionCall) : PromotionTask c.Reply := Task.call c

structure PromotionWorld where
  snapshots : List VenueConnectorSnapshotRow := []
  promotions : List ConnectorPromotionRow := []
  events : List ConnectorPromotionEvent := []
  audit : List SleeveAuditEvent := []
  calls : ℕ := 0

/-- The dates by which the rows are ordered; rows with the same dates are ordered by their ids. -/
def ConnectorPromotionRow.recency (row : ConnectorPromotionRow) : ℤ ×ₗ ℤ ×ₗ ℕ :=
  toLex (row.updatedAt, toLex (row.requestedAt, row.id))

def ConnectorPromotionRow.newer (first second : ConnectorPromotionRow) : Prop :=
  second.recency ≤ first.recency

instance : DecidableRel ConnectorPromotionRow.newer := fun first second =>
  inferInstanceAs (Decidable (second.recency ≤ first.recency))

/-- The newest snapshots come first. -/
def sortedSnapshots (snapshots : List VenueConnectorSnapshotRow) : List VenueConnectorSnapshotRow :=
  snapshots.insertionSort fun first second => second.capturedAt ≤ first.capturedAt

def sortedPromotions (promotions : List ConnectorPromotionRow) : List ConnectorPromotionRow :=
  promotions.insertionSort ConnectorPromotionRow.newer

/-- What a statement does at the time `now`. -/
def PromotionWorld.perform (w : PromotionWorld) (now : Date) :
    (c : PromotionCall) → c.Reply × PromotionWorld
  | .selectSnapshots => ((sortedSnapshots w.snapshots, now), w)
  | .selectPromotions venueIds =>
    ((sortedPromotions w.promotions).filter fun row => decide (row.venueId ∈ venueIds), w)
  | .selectPromotionEvents venueId =>
    ((w.events.filter fun event => decide (event.venueId = venueId)).insertionSort
      fun first second => second.occurredAt ≤ first.occurredAt, w)
  | .insertPromotion venueId actorId note =>
    let row := ConnectorPromotionRow.requested w.promotions.length venueId actorId note now
    (row, { w with promotions := w.promotions ++ [row] })
  | .updatePromotion id decision actorId note =>
    let promotions := Rows.update ConnectorPromotionRow.id id
      (fun row => decision.patch actorId note now row) w.promotions
    ((), { w with promotions })
  | .insertPromotionEvent event => ((), { w with events := w.events ++ [event now] })
  | .persistSnapshots snapshots => ((), { w with snapshots := w.snapshots ++ snapshots })
  | .auditWrite event => ((), { w with audit := w.audit ++ [event] })

def handlePromotion (clock : ℕ → Date) :
    Handler PromotionCall PromotionCall.Reply String PromotionWorld := fun c w =>
  let (reply, w') := w.perform (clock w.calls) c
  (.ok reply, { w' with calls := w.calls + 1 })

/-! ## The store -/

namespace RuntimeStore

def mapVenueInventory (rows : List VenueConnectorSnapshotRow) (now : Date) (limit : ℕ) :
    List VenueInventoryCore :=
  ((Rows.firsts VenueConnectorSnapshotRow.venueId rows).take limit).map fun row =>
    { row with
      snapshotFreshness := classifyVenueSnapshotFreshness row.capturedAt now
      lastSuccessfulSnapshotAt := (rows.find? fun other =>
        other.snapshotSuccessful && decide (other.venueId = row.venueId)).map
          VenueConnectorSnapshotRow.capturedAt }

def listVenueInventoryCore (limit : ℕ) : PromotionTask (List VenueInventoryCore) := do
  let (rows, now) ← PromotionCall.selectSnapshots.send
  return mapVenueInventory rows now limit

/-- The venue in an inventory of at most 500 venues. -/
def findVenue (venueId : String) : PromotionTask (Option VenueInventoryCore) := do
  let inventory ← listVenueInventoryCore 500
  return inventory.find? fun venue => decide (venue.venueId = venueId)

def getLatestVenuePromotionRows (venueIds : List String) :
    PromotionTask (String → Option ConnectorPromotionRow) := do
  let rows ← (PromotionCall.selectPromotions venueIds).send
  return fun venueId => Rows.find ConnectorPromotionRow.venueId venueId rows

def getLatestVenuePromotionRow (venueId : String) :
    PromotionTask (Option ConnectorPromotionRow) := do
  let latest ← getLatestVenuePromotionRows [venueId]
  return latest venueId

section

variable (P : ReadinessPlatform)

def buildConnectorPromotionDetailForVenue (venue : VenueInventoryCore) :
    PromotionTask ConnectorPromotionDetail := do
  let evidence := buildConnectorReadinessEvidence P venue
  let latest ← getLatestVenuePromotionRows [venue.venueId]
  let history ← (PromotionCall.selectPromotionEvents venue.venueId).send
  return {
    venueId := venue.venueId
    venueName := venue.venueName
    connectorType := venue.connectorType
    sleeveApplicability := venue.sleeveApplicability
    current := promotionSummary (latest venue.venueId) evidence
    evidence
    history }

def getConnectorPromotion (venueId : String) : PromotionTask (Option ConnectorPromotionDetail) := do
  match ← findVenue venueId with
  | none => pure none
  | some venue =>
    let detail ← buildConnectorPromotionDetailForVenue P venue
    return some detail

/-- The venues, with the rows that one statement has answered for all of them. -/
def listVenues (limit : ℕ) : PromotionTask (List VenueInventoryItem) := do
  let venues ← listVenueInventoryCore limit
  let latest ← getLatestVenuePromotionRows (venues.map fun venue => venue.venueId)
  return venues.map fun venue =>
    let promotion := promotionSummary (latest venue.venueId) (buildConnectorReadinessEvidence P venue)
    { venue with
      approvedForLiveUse := promotion.approvedForLiveUse
      promotion }

def promotionEvent (evidence : ConnectorReadinessEvidence) (promotionId : ℕ) (venueId : String)
    (eventType : ConnectorPromotionEventType) (fromStatus : Option PromotionStatus)
    (toStatus : PromotionStatus) (actorId : String) (note : Option String) (now : Date) :
    ConnectorPromotionEvent where
  promotionId
  venueId
  eventType
  fromStatus
  toStatus
  effectivePosture := deriveEffectivePosture evidence.capabilityClass toStatus
  requestedTargetPosture := connectorPromotionTargetPosture
  actorId
  note
  evidence
  occurredAt := now

def requestConnectorPromotion (venueId actorId : String) (note : Option String) :
    PromotionTask (Option ConnectorPromotionDetail) := do
  match ← findVenue venueId with
  | none => pure none
  | some venue =>
    let row ← (PromotionCall.insertPromotion venue.venueId actorId note).send
    (PromotionCall.insertPromotionEvent (promotionEvent (buildConnectorReadinessEvidence P venue)
      row.id row.venueId .requested none .pendingReview actorId note)).send
    getConnectorPromotion P venueId

def recordDecision (decision : PromotionDecision) (venueId actorId : String)
    (note : Option String) (venue : VenueInventoryCore) (current : ConnectorPromotionRow) :
    PromotionTask (Option ConnectorPromotionDetail) := do
  (PromotionCall.updatePromotion current.id decision actorId note).send
  (PromotionCall.insertPromotionEvent (promotionEvent (buildConnectorReadinessEvidence P venue)
    current.id venueId decision.eventType (some current.promotionStatus) decision.toStatus actorId
    note)).send
  getConnectorPromotion P venueId

/-- A decision is written to the latest row of the venue, whatever its status is. -/
def decideConnectorPromotion (decision : PromotionDecision) (venueId actorId : String)
    (note : Option String) : PromotionTask (Option ConnectorPromotionDetail) := do
  match ← findVenue venueId with
  | none => pure none
  | some venue =>
    match ← getLatestVenuePromotionRow venueId with
    | none => pure none
    | some current => recordDecision P decision venueId actorId note venue current

def approveConnectorPromotion (venueId actorId : String) (note : Option String) :
    PromotionTask (Option ConnectorPromotionDetail) :=
  decideConnectorPromotion P .approve venueId actorId note

def rejectConnectorPromotion (venueId actorId note : String) :
    PromotionTask (Option ConnectorPromotionDetail) :=
  decideConnectorPromotion P .reject venueId actorId (some note)

def suspendConnectorPromotion (venueId actorId note : String) :
    PromotionTask (Option ConnectorPromotionDetail) :=
  decideConnectorPromotion P .suspend venueId actorId (some note)

end

end RuntimeStore

/-! ## The control plane -/

namespace RuntimeControlPlane

variable (P : ReadinessPlatform)

def noteJson : Option String → Json
  | none => .null
  | some note => .str note

/-- The event of an operation whose store method has returned a promotion. -/
def auditPromotion (updated : Option ConnectorPromotionDetail) (eventType actorId : String)
    (data : List (String × Json)) : PromotionTask (Option ConnectorPromotionDetail) := do
  match updated with
  | none => pure none
  | some detail =>
    (PromotionCall.auditWrite (operatorEvent eventType actorId "runtime" data)).send
    return some detail

def requestConnectorPromotion (venueId actorId : String) (actorRole : OperatorRole)
    (note : Option String) : PromotionTask (Option ConnectorPromotionDetail) := do
  if !canSatisfyApprovalRequirement actorRole .operator then
    .fail "Connector promotion requests require operator access."
  else
    match ← RuntimeStore.getConnectorPromotion P venueId with
    | none => pure none
    | some detail =>
      if detail.evidence.capabilityClass ≠ .execution_capable then
        .fail "Only execution-capable connectors can enter promotion review."
      else if detail.current.promotionStatus = .pendingReview then
        .fail "Connector already has a pending promotion review."
      else if detail.current.promotionStatus = .approved then
        .fail "Connector is already approved for live use."
      else do
        let updated ← RuntimeStore.requestConnectorPromotion P venueId actorId note
        auditPromotion updated "connector.promotion_requested" actorId
          [("venueId", .str venueId),
            ("capabilityClass", .str detail.evidence.capabilityClass.text),
            ("blockers", .arr (detail.evidence.blockingReasons.map .str)),
            ("note", noteJson note)]

def promotionToDecide (decision : PromotionDecision) (venueId : String)
    (actorRole : OperatorRole) : PromotionTask (Option ConnectorPromotionDetail) := do
  if !canSatisfyApprovalRequirement actorRole .admin then .fail decision.accessError
  else
    match ← RuntimeStore.getConnectorPromotion P venueId with
    | none => pure none
    | some detail =>
      if detail.current.promotionStatus ≠ decision.requiredStatus then
        .fail (decision.statusError detail.current.promotionStatus)
      else pure (some detail)

def approveConnectorPromotion (venueId actorId : String) (actorRole : OperatorRole)
    (note : Option String) : PromotionTask (Option ConnectorPromotionDetail) := do
  match ← promotionToDecide P .approve venueId actorRole with
  | none => pure none
  | some detail =>
    if !detail.evidence.eligibleForPromotion then
      .fail ("; ".intercalate detail.evidence.blockingReasons)
    else do
      let updated ← RuntimeStore.approveConnectorPromotion P venueId actorId note
      auditPromotion updated (PromotionDecision.auditType .approve) actorId
        [("venueId", .str venueId), ("blockers", .arr (detail.evidence.blockingReasons.map .str)),
          ("note", noteJson note)]

def rejectConnectorPromotion (venueId actorId : String) (actorRole : OperatorRole)
    (note : String) : PromotionTask (Option ConnectorPromotionDetail) := do
  match ← promotionToDecide P .reject venueId actorRole with
  | none => pure none
  | some _ =>
    let updated ← RuntimeStore.rejectConnectorPromotion P venueId actorId note
    auditPromotion updated (PromotionDecision.auditType .reject) actorId
      [("venueId", .str venueId), ("note", .str note)]

def suspendConnectorPromotion (venueId actorId : String) (actorRole : OperatorRole)
    (note : String) : PromotionTask (Option ConnectorPromotionDetail) := do
  match ← promotionToDecide P .suspend venueId actorRole with
  | none => pure none
  | some _ =>
    let updated ← RuntimeStore.suspendConnectorPromotion P venueId actorId note
    auditPromotion updated (PromotionDecision.auditType .suspend) actorId
      [("venueId", .str venueId), ("note", .str note)]

end RuntimeControlPlane

/-! ## The runtime -/

/-- The carry venues, from what their adapters have reported. The map of the promotions keeps the
last venue with an id, and the inventory has one venue for each id. -/
def collectCarryVenueViewsFrom (P : ReadinessPlatform)
    (adapters : List CarryVenueCapabilities) : PromotionTask (List CarryVenueView) := do
  let venues ← RuntimeStore.listVenues P 500
  return adapters.map fun capabilities =>
    carryVenueView capabilities ((venues.find? fun venue =>
      decide (venue.venueId = capabilities.venueId)).map VenueInventoryItem.promotion)

def refreshVenueTruth (snapshots : List VenueConnectorSnapshotRow) : PromotionTask Unit := do
  match snapshots with
  | [] => pure ()
  | snapshots => (PromotionCall.persistSnapshots snapshots).send

end SentinelApex
