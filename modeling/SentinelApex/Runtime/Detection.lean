import SentinelApex.Runtime.Calls

/-!
# Detected mismatches

The health monitor and the reconciliation engine open a mismatch for what they find wrong and
resolve it when they find it right. What they compare (counts of intents and orders, source runs of
projections, the findings of a reconciliation) is read from tables that are not modelled here and is
an argument.
-/

namespace SentinelApex.Runtime

open Async

def reportMismatch (input : MismatchInput)
    (event : RuntimeMismatch → UpsertOutcome → RecoveryEventInput) (now : Date) :
    RuntimeTask RuntimeMismatch := do
  let (mismatch, outcome) ← (StoreCall.upsertMismatch input now).send
  let _ ← (StoreCall.recordRecoveryEvent (event mismatch outcome) now).send
  pure mismatch

/-- The resolution of a mismatch by its key, with the event that reports it; a verified mismatch is
left alone. -/
def resolveDetected (dedupeKey : String) (patch : MismatchPatch)
    (event : RuntimeMismatch → RecoveryEventInput) (now : Date) :
    RuntimeTask (Option RuntimeMismatch) := do
  match ← (StoreCall.getMismatchByDedupeKey dedupeKey).send with
  | none => pure none
  | some existing =>
    if existing.status = .verified then pure (some existing)
    else
      match ← (StoreCall.updateMismatchByDedupeKey dedupeKey patch now).send with
      | none => pure none
      | some resolved =>
        let _ ← (StoreCall.recordRecoveryEvent (event resolved) now).send
        pure (some resolved)

def resolvedPatch (resolvedBy resolutionSummary : String) (now : Date) : MismatchPatch where
  status := some .resolved
  resolvedAt := some (some now)
  resolvedBy := some (some resolvedBy)
  resolutionSummary := some (some resolutionSummary)
  lastStatusChangeAt := some now

def reconcileExecutionConsistency (runId sourceComponent : String)
    (approvedIntentCount orderCount : ℕ) (now : Date) : RuntimeTask Unit := do
  let counts : Record := [("runId", .str runId),
    ("approvedIntentCount", .num approvedIntentCount), ("persistedOrderCount", .num orderCount)]
  if orderCount < approvedIntentCount then
    let _ ← reportMismatch
      { dedupeKey := s!"execution_state_mismatch:{runId}"
        category := "execution_state_mismatch"
        severity := "high"
        sourceKind := none
        sourceComponent
        entityType := some "strategy_run"
        entityId := some runId
        summary := s!"Approved intents exceeded persisted orders for run {runId}."
        details := counts
        detectedAt := now }
      (fun mismatch outcome =>
        { mismatchId := some mismatch.id
          runId := some runId
          eventType := if outcome = .reopened then "execution_mismatch_reopened"
            else "execution_mismatch_detected"
          status := mismatch.status.text
          sourceComponent
          message := mismatch.summary
          details := mismatch.details }) now
    pure ()
  else
    let _ ← resolveDetected s!"execution_state_mismatch:{runId}"
      (resolvedPatch sourceComponent s!"Execution records are consistent for run {runId}." now)
      (fun resolved =>
        { mismatchId := some resolved.id
          runId := some runId
          eventType := "execution_mismatch_resolved"
          status := "resolved"
          sourceComponent
          message := resolved.resolutionSummary.getD "Execution mismatch resolved."
          details := counts }) now
    pure ()

inductive ProjectionStatus where
  | fresh
  | rebuilding
  | stale
  deriving DecidableEq, Repr

def ProjectionStatus.text : ProjectionStatus → String
  | fresh => "fresh"
  | rebuilding => "rebuilding"
  | stale => "stale"

structure ProjectionSources where
  latestSuccessfulRunId : Option String
  runtimeProjectionSourceRunId : Option String
  riskCurrentSourceRunId : Option String
  portfolioCurrentSourceRunId : Option String
  projectionStatus : ProjectionStatus

/-- A projection with the run that it should and does come from. -/
structure ProjectionCheck where
  dedupeKey : String
  entityType : String
  expectedRunId : Option String
  actualRunId : Option String
  projectionStatus : ProjectionStatus
  summary : String

def ProjectionCheck.aligned (input : ProjectionCheck) : Bool :=
  input.expectedRunId.isNone ||
    (input.actualRunId = input.expectedRunId && input.projectionStatus = .fresh)

def handleProjectionMismatch (sourceComponent : String) (input : ProjectionCheck) (now : Date) :
    RuntimeTask Unit := do
  if input.aligned then
    let _ ← resolveDetected input.dedupeKey
      (resolvedPatch sourceComponent
        s!"Projection {input.entityType} is aligned with the latest successful run." now)
      (fun resolved =>
        { mismatchId := some resolved.id
          eventType := "projection_mismatch_resolved"
          status := "resolved"
          sourceComponent
          message := resolved.resolutionSummary.getD "Projection mismatch resolved."
          details := [("entityType", .str input.entityType), ("entityId", .str "primary"),
            ("expectedRunId", Value.ofOption input.expectedRunId),
            ("actualRunId", Value.ofOption input.actualRunId)] }) now
    pure ()
  else
    let _ ← reportMismatch
      { dedupeKey := input.dedupeKey
        category := "projection_mismatch"
        severity := "medium"
        sourceKind := none
        sourceComponent
        entityType := some input.entityType
        entityId := some "primary"
        summary := input.summary
        details := [("expectedRunId", Value.ofOption input.expectedRunId),
          ("actualRunId", Value.ofOption input.actualRunId),
          ("projectionStatus", .str input.projectionStatus.text)]
        detectedAt := now }
      (fun mismatch outcome =>
        { mismatchId := some mismatch.id
          eventType := if outcome = .reopened then "projection_mismatch_reopened"
            else "projection_mismatch_detected"
          status := mismatch.status.text
          sourceComponent
          message := mismatch.summary
          details := mismatch.details }) now
    pure ()

def reconcileProjectionConsistency (sourceComponent : String) (snapshot : ProjectionSources)
    (now : Date) : RuntimeTask Unit := do
  handleProjectionMismatch sourceComponent
    { dedupeKey := "projection_mismatch:runtime_state"
      entityType := "runtime_state"
      expectedRunId := snapshot.latestSuccessfulRunId
      actualRunId := snapshot.runtimeProjectionSourceRunId
      projectionStatus := snapshot.projectionStatus
      summary := "Runtime projection source run is stale or missing." } now
  handleProjectionMismatch sourceComponent
    { dedupeKey := "projection_mismatch:risk_current"
      entityType := "risk_current"
      expectedRunId := snapshot.latestSuccessfulRunId
      actualRunId := snapshot.riskCurrentSourceRunId
      projectionStatus := snapshot.projectionStatus
      summary := "Risk current projection does not match the latest successful run." } now
  handleProjectionMismatch sourceComponent
    { dedupeKey := "projection_mismatch:portfolio_current"
      entityType := "portfolio_current"
      expectedRunId := snapshot.latestSuccessfulRunId
      actualRunId := snapshot.portfolioCurrentSourceRunId
      projectionStatus := snapshot.projectionStatus
      summary := "Portfolio current projection does not match the latest successful run." } now

def recordRuntimeFailure (sourceComponent : String) (runId : Option String) (message : String)
    (now : Date) : RuntimeTask Unit := do
  let _ ← reportMismatch
    { dedupeKey := "runtime_failure:primary"
      category := "runtime_failure"
      severity := "high"
      sourceKind := none
      sourceComponent
      entityType := some "runtime_state"
      entityId := some "primary"
      summary := message
      details := [("runId", Value.ofOption runId)]
      detectedAt := now }
    (fun mismatch outcome =>
      { mismatchId := some mismatch.id
        runId
        eventType := if outcome = .reopened then "runtime_failure_reopened"
          else "runtime_failure_detected"
        status := mismatch.status.text
        sourceComponent
        message
        details := [("runId", Value.ofOption runId)] }) now
  pure ()

def resolveRuntimeFailure (sourceComponent : String) (runId : Option String) (now : Date) :
    RuntimeTask Unit := do
  let _ ← resolveDetected "runtime_failure:primary"
    (resolvedPatch sourceComponent "Runtime recovered and completed a healthy execution path." now)
    (fun resolved =>
      { mismatchId := some resolved.id
        runId
        eventType := "runtime_failure_resolved"
        status := "resolved"
        sourceComponent
        message := resolved.resolutionSummary.getD "Runtime failure resolved."
        details := [("runId", Value.ofOption runId)] }) now
  pure ()

inductive RuntimeReconciliationFindingStatus where
  | active
  | resolved
  deriving DecidableEq, Repr

structure ReconciliationCandidateFinding where
  dedupeKey : String
  findingType : String
  severity : String
  status : RuntimeReconciliationFindingStatus
  sourceComponent : String
  subsystem : String
  venueId : Option String
  entityType : Option String
  entityId : Option String
  summary : String
  expectedState : Option Record
  actualState : Option Record
  delta : Option Record
  details : Option Record
  detectedAt : Date

def mismatchDedupeKey (findingDedupeKey : String) : String := s!"reconciliation:{findingDedupeKey}"

/-- `{ ...base, ...overrides }`. -/
def Record.spread (base overrides : Record) : Record :=
  (base.filter fun field => !overrides.any fun field' => decide (field'.1 = field.1)) ++ overrides

def applyFindingToMismatch (reconciliationRunId : String)
    (finding : ReconciliationCandidateFinding) (now : Date) :
    RuntimeTask (Option RuntimeMismatch) :=
  let eventDetails : Record := [("reconciliationRunId", .str reconciliationRunId),
    ("findingType", .str finding.findingType), ("findingDedupeKey", .str finding.dedupeKey)]
  match finding.status with
  | .active => do
    let mismatch ← reportMismatch
      { dedupeKey := mismatchDedupeKey finding.dedupeKey
        category := finding.findingType
        severity := finding.severity
        sourceKind := some .reconciliation
        sourceComponent := finding.sourceComponent
        entityType := finding.entityType
        entityId := finding.entityId
        summary := finding.summary
        details := Record.spread
          [("reconciliationRunId", .str reconciliationRunId), ("subsystem", .str finding.subsystem),
            ("venueId", Value.ofOption finding.venueId),
            ("expectedState", .obj (finding.expectedState.getD [])),
            ("actualState", .obj (finding.actualState.getD [])),
            ("delta", .obj (finding.delta.getD []))]
          (finding.details.getD [])
        detectedAt := finding.detectedAt }
      (fun mismatch outcome =>
        { mismatchId := some mismatch.id
          eventType := if outcome = .reopened then "reconciliation_mismatch_reopened"
            else "reconciliation_mismatch_detected"
          status := mismatch.status.text
          sourceComponent := finding.sourceComponent
          actorId := some finding.sourceComponent
          message := finding.summary
          details := eventDetails }) now
    pure (some mismatch)
  | .resolved =>
    resolveDetected (mismatchDedupeKey finding.dedupeKey)
      (resolvedPatch finding.sourceComponent finding.summary finding.detectedAt)
      (fun resolved =>
        { mismatchId := some resolved.id
          eventType := "reconciliation_mismatch_resolved"
          status := "resolved"
          sourceComponent := finding.sourceComponent
          actorId := some finding.sourceComponent
          message := finding.summary
          details := eventDetails }) now

end SentinelApex.Runtime
