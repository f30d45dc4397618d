import SentinelApex.Runtime.Calls

/-!
# The worker

`RuntimeWorker.executeCommand`: the command is announced, its remediation attempt or bundle recovery
is marked, and its operation is run; then the command is completed with the writes that follow. An
error anywhere after the announcement is recorded as the failure of the command.

What the nine command types do differently is collected in a `CommandPlan`. The readings of the
clock within one execution are the same.
-/

namespace SentinelApex.Runtime

open Async

/-! ## Payloads -/

structure RemediationContext where
  mismatchId : String
  remediationType : RuntimeRemediationActionType
  requestedBy : Option String

def RuntimeRemediationActionType.ofText? : String → Option RuntimeRemediationActionType
  | "run_cycle" => some .runCycle
  | "rebuild_projections" => some .rebuildProjections
  | _ => none

def getRemediationContext (command : RuntimeCommand) : Option RemediationContext :=
  match command.payload.get? "remediation" with
  | some (.obj remediation) =>
    match Record.str? remediation "mismatchId",
      (Record.str? remediation "remediationType").bind RuntimeRemediationActionType.ofText? with
    | some mismatchId, some remediationType =>
      some { mismatchId, remediationType, requestedBy := Record.str? remediation "requestedBy" }
    | _, _ => none
  | _ => none

/-- The field of a field, along a path. -/
def Record.path? (record : Record) : List String → Option Value
  | [] => some (.obj record)
  | [key] => record.get? key
  | key :: keys =>
    match record.get? key with
    | some (.obj inner) => Record.path? inner keys
    | _ => none

/-- The object with the given fields, each read along a path; what is `undefined` is dropped. -/
def Record.pick (record : Record) (fields : List (String × List String)) : Record :=
  fields.filterMap fun field => (record.path? field.2).map fun value => (field.1, value)

/-! ## Plans -/

/-- What `executeCommand` does for a command of a given type. -/
structure CommandPlan where
  /-- The operation, or the error of a command without the id that it needs. -/
  operation : Except String RuntimeOperation
  /-- The recorded result, from the outcome of the operation. -/
  result : Record → Record
  /-- The columns of the worker's row beside those that every completion sets. -/
  workerPatch : Record → WorkerStatusPatch
  runId : Record → Option String
  message : Record → String
  details : Record → Record
  /-- The remediation attempt of the command is completed. -/
  remediates : Bool
  /-- Summary and outcome of the bundle recovery that is completed, if any is. -/
  recovers : Option (String × (Record → Record))

/-- The columns that every completion sets. -/
def waitingPatch (now : Date) : WorkerStatusPatch where
  schedulerState := some .waiting
  currentOperation := some none
  currentCommandId := some none
  lastSuccessAt := some (some now)
  lastFailureAt := some none
  lastFailureReason := some none

def evaluationPlan (operation : Except String RuntimeOperation)
    (resultFields detailFields : List (String × List String)) (message : String) (now : Date) :
    CommandPlan where
  operation
  result outcome := outcome.pick resultFields
  workerPatch _ := waitingPatch now
  runId _ := none
  message _ := message
  details outcome := outcome.pick detailFields
  remediates := false
  recovers := none

def runCyclePlan (payload : Record) (now : Date) : CommandPlan where
  operation := .ok (.runCycle ((payload.str? "triggerSource").getD "worker-command-cycle"))
  result outcome := outcome
  workerPatch outcome :=
    { waitingPatch now with
      currentRunId := some (outcome.str? "runId")
      lastRunStartedAt := some (some now)
      lastRunCompletedAt := some (some now) }
  runId outcome := outcome.str? "runId"
  message _ := "Runtime cycle command completed."
  details outcome := outcome.pick [("runId", ["runId"])]
  remediates := true
  recovers := none

def runReconciliationPlan (payload : Record) (now : Date) : CommandPlan :=
  evaluationPlan
    (.ok (.runReconciliation ((payload.str? "trigger").getD "manual_reconciliation")
      "runtime-worker" (payload.str? "triggerReference") (payload.str? "triggeredBy")))
    [("reconciliationRunId", ["id"]), ("reconciliationRunStatus", ["status"]),
      ("findingCount", ["findingCount"]), ("linkedMismatchCount", ["linkedMismatchCount"])]
    [("reconciliationRunId", ["id"]), ("findingCount", ["findingCount"])]
    "Reconciliation command completed." now

def runTreasuryEvaluationPlan (payload : Record) (requestedBy : String) (now : Date) :
    CommandPlan :=
  evaluationPlan
    (.ok (.runTreasuryEvaluation ((payload.str? "actorId").getD requestedBy)
      (payload.str? "sourceRunId")))
    [("treasuryRunId", ["treasuryRunId"]), ("actionCount", ["actionCount"]),
      ("simulated", ["simulated"]),
      ("reserveShortfallUsd", ["reserveStatus", "reserveShortfallUsd"]),
      ("surplusCapitalUsd", ["reserveStatus", "surplusCapitalUsd"])]
    [("treasuryRunId", ["treasuryRunId"]), ("actionCount", ["actionCount"])]
    "Treasury evaluation command completed." now

def runCarryEvaluationPlan (payload : Record) (requestedBy : String) (now : Date) : CommandPlan :=
  evaluationPlan
    (.ok (.runCarryEvaluation ((payload.str? "actorId").getD requestedBy)
      ((payload.str? "trigger").getD "manual_carry_evaluation") (payload.str? "sourceRunId")
      (payload.str? "linkedRebalanceProposalId") (payload.str? "targetCarryNotionalUsd")))
    [("sourceRunId", ["sourceRunId"]), ("actionCount", ["actionCount"])]
    [("sourceRunId", ["sourceRunId"]), ("actionCount", ["actionCount"])]
    "Carry evaluation command completed." now

def runAllocatorEvaluationPlan (payload : Record) (requestedBy : String) (now : Date) :
    CommandPlan :=
  evaluationPlan
    (.ok (.runAllocatorEvaluation ((payload.str? "trigger").getD "manual_allocator_evaluation")
      ((payload.str? "actorId").getD requestedBy) (payload.str? "sourceRunId")))
    [("allocatorRunId", ["allocatorRunId"]), ("regimeState", ["regimeState"]),
      ("pressureLevel", ["pressureLevel"]), ("carryTargetPct", ["carryTargetPct"]),
      ("treasuryTargetPct", ["treasuryTargetPct"]),
      ("recommendationCount", ["recommendationCount"])]
    [("allocatorRunId", ["allocatorRunId"]), ("regimeState", ["regimeState"])]
    "Allocator evaluation command completed." now

/-- `outcome.guardrailViolations?.length`. -/
def guardrailViolationCount (outcome : Record) : ℕ :=
  match outcome.get? "guardrailViolations" with
  | some (.arr violations) => violations.length
  | _ => 0

/-- An operation that needs the field `key` of the payload. -/
def requiredOperation (payload : Record) (key missing : String)
    (operation : String → RuntimeOperation) : Except String RuntimeOperation :=
  match payload.str? key with
  | none => .error missing
  | some id => .ok (operation id)

def executeCarryActionPlan (workerId commandId requestedBy : String) (payload : Record)
    (now : Date) : CommandPlan where
  operation := requiredOperation payload "actionId"
    "Carry action execution command is missing actionId." fun actionId =>
      .executeCarryAction actionId ((payload.str? "actorId").getD requestedBy) commandId workerId
  result outcome := outcome.pick
    [("carryActionId", ["actionId"]), ("carryExecutionId", ["executionId"]),
      ("orderCount", ["orderCount"]), ("guardrailViolations", ["guardrailViolations"])]
  workerPatch _ := waitingPatch now
  runId _ := none
  message outcome :=
    if guardrailViolationCount outcome = 0 then "Carry action execution completed."
    else s!"Carry action execution completed with {guardrailViolationCount outcome} " ++
      "guardrail violations."
  details outcome := outcome.pick
    [("carryActionId", ["actionId"]), ("carryExecutionId", ["executionId"]),
      ("orderCount", ["orderCount"]), ("guardrailViolations", ["guardrailViolations"])]
  remediates := false
  recovers := some ("Bundle recovery requeued the carry child successfully.", fun outcome =>
    outcome.pick [("carryActionId", ["actionId"]), ("carryExecutionId", ["executionId"]),
      ("orderCount", ["orderCount"])])

def executeTreasuryActionPlan (workerId commandId requestedBy : String) (payload : Record)
    (now : Date) : CommandPlan where
  operation := requiredOperation payload "treasuryActionId"
    "Treasury action execution command is missing treasuryActionId." fun actionId =>
      .executeTreasuryAction actionId ((payload.str? "actorId").getD requestedBy) commandId workerId
  result outcome := outcome.pick
    [("treasuryActionId", ["actionId"]), ("treasuryExecutionId", ["executionId"]),
      ("treasuryRunId", ["treasuryRunId"]),
      ("venueExecutionReference", ["venueExecutionReference"]), ("simulated", ["simulated"])]
  workerPatch _ := waitingPatch now
  runId _ := none
  message _ := "Treasury action execution completed."
  details outcome := outcome.pick
    [("treasuryActionId", ["actionId"]), ("treasuryExecutionId", ["executionId"])]
  remediates := false
  recovers := some ("Bundle recovery requeued the treasury child successfully.", fun outcome =>
    outcome.pick [("treasuryActionId", ["actionId"]), ("treasuryExecutionId", ["executionId"]),
      ("treasuryRunId", ["treasuryRunId"]),
      ("venueExecutionReference", ["venueExecutionReference"]), ("simulated", ["simulated"])])

def executeRebalanceProposalPlan (workerId commandId requestedBy : String) (payload : Record)
    (now : Date) : CommandPlan :=
  evaluationPlan
    (requiredOperation payload "proposalId"
      "Rebalance proposal execution command is missing proposalId." fun proposalId =>
        .executeRebalanceProposal proposalId ((payload.str? "actorId").getD requestedBy) commandId
          workerId)
    [("proposalId", ["proposalId"]), ("rebalanceExecutionId", ["executionId"]),
      ("allocatorRunId", ["allocatorRunId"]), ("applied", ["applied"]),
      ("downstreamCarryActionIds", ["downstreamCarryActionIds"]),
      ("downstreamTreasuryActionIds", ["downstreamTreasuryActionIds"])]
    [("proposalId", ["proposalId"]), ("rebalanceExecutionId", ["executionId"]),
      ("applied", ["applied"])]
    "Rebalance proposal execution completed." now

def rebuildProjectionsPlan (now : Date) : CommandPlan :=
  { evaluationPlan (.ok (.rebuildProjections "runtime-worker-command"))
      [("projectionStatus", ["projectionStatus"]), ("lifecycleState", ["lifecycleState"]),
        ("lastProjectionSourceRunId", ["lastProjectionSourceRunId"])]
      [("lastProjectionSourceRunId", ["lastProjectionSourceRunId"])]
      "Projection rebuild command completed." now with
    remediates := true }

def commandPlan (workerId : String) (command : RuntimeCommand) (now : Date) : CommandPlan :=
  match command.commandType with
  | .runCycle => runCyclePlan command.payload now
  | .runReconciliation => runReconciliationPlan command.payload now
  | .runTreasuryEvaluation => runTreasuryEvaluationPlan command.payload command.requestedBy now
  | .runCarryEvaluation => runCarryEvaluationPlan command.payload command.requestedBy now
  | .runAllocatorEvaluation => runAllocatorEvaluationPlan command.payload command.requestedBy now
  | .executeCarryAction =>
    executeCarryActionPlan workerId command.commandId command.requestedBy command.payload now
  | .executeTreasuryAction =>
    executeTreasuryActionPlan workerId command.commandId command.requestedBy command.payload now
  | .executeRebalanceProposal =>
    executeRebalanceProposalPlan workerId command.commandId command.requestedBy command.payload now
  | .rebuildProjections => rebuildProjectionsPlan now

/-! ## Execution -/

section Execution

variable (workerId : String) (command : RuntimeCommand) (now : Date)

def bundleRecoveryActionId (command : RuntimeCommand) : Option String :=
  command.payload.str? "bundleRecoveryActionId"

def updateAttempt (remediation : RemediationContext) (p : RemediationPatch)
    (recoveryEventId : String) : RuntimeTask Unit := do
  match ← (StoreCall.getMismatchRemediationByCommandId command.commandId).send with
  | none => pure ()
  | some remediationAttempt =>
    let _ ← (StoreCall.updateMismatchRemediationById remediationAttempt.id p now).send
    let _ ← (StoreCall.updateMismatchById remediation.mismatchId
      { linkedCommandId := some (some command.commandId)
        linkedRecoveryEventId := some (some recoveryEventId) } now).send
    pure ()

def startRemediation (startedEvent : RuntimeRecoveryEvent) :
    Option RemediationContext → RuntimeTask Unit
  | none => pure ()
  | some remediation =>
    updateAttempt command now remediation
      { status := some .running, startedAt := some (some now)
        latestRecoveryEventId := some (some startedEvent.id) }
      startedEvent.id

def startBundleRecovery : Option String → RuntimeTask Unit
  | none => pure ()
  | some recoveryActionId =>
    (StoreCall.updateRebalanceBundleRecoveryAction recoveryActionId
      { status := some .executing, startedAt := some (some now) } now).send

/-- The announcement of the command, before the `try`. -/
def announce : RuntimeTask Unit := do
  (StoreCall.updateWorkerStatus
    { schedulerState := some .running
      currentOperation := some (some command.commandType.text)
      currentCommandId := some (some command.commandId)
      currentRunId := some none
      lastHeartbeatAt := some (some now)
      nextScheduledRunAt := some none }).send
  let startedEvent ← (StoreCall.recordRecoveryEvent
    { mismatchId := (getRemediationContext command).map fun remediation => remediation.mismatchId
      commandId := some command.commandId
      eventType := "runtime_command_started"
      status := "running"
      sourceComponent := "runtime-worker"
      actorId := some workerId
      message := s!"Runtime command {command.commandType.text} started."
      details := command.payload } now).send
  startRemediation command now startedEvent (getRemediationContext command)
  startBundleRecovery now (bundleRecoveryActionId command)

def completeRemediation (completedEvent : RuntimeRecoveryEvent) :
    Option RemediationContext → RuntimeTask Unit
  | none => pure ()
  | some remediation =>
    updateAttempt command now remediation
      { status := some .completed, completedAt := some (some now)
        outcomeSummary := some
          (some s!"Remediation {remediation.remediationType.text} completed successfully.")
        latestRecoveryEventId := some (some completedEvent.id) }
      completedEvent.id

def completeBundleRecovery (outcome : Record) :
    Option (String × (Record → Record)) → Option String → RuntimeTask Unit
  | some (summary, recovered), some recoveryActionId =>
    (StoreCall.updateRebalanceBundleRecoveryAction recoveryActionId
      { status := some .completed, outcomeSummary := some (some summary)
        outcome := some (recovered outcome), lastError := some none
        completedAt := some (some now) } now).send
  | _, _ => pure ()

def conclude (plan : CommandPlan) (outcome : Record) : RuntimeTask Unit := do
  (StoreCall.updateWorkerStatus (plan.workerPatch outcome)).send
  let completedEvent ← (StoreCall.recordRecoveryEvent
    { mismatchId := (getRemediationContext command).map fun remediation => remediation.mismatchId
      commandId := some command.commandId
      runId := plan.runId outcome
      eventType := "runtime_command_completed"
      status := "completed"
      sourceComponent := "runtime-worker"
      actorId := some workerId
      message := plan.message outcome
      details := plan.details outcome } now).send
  completeRemediation command now completedEvent
    (if plan.remediates then getRemediationContext command else none)
  completeBundleRecovery now outcome plan.recovers (bundleRecoveryActionId command)

/-- The body of the `try`. -/
def runCommand (plan : CommandPlan) : RuntimeTask Unit :=
  match plan.operation with
  | .error message => .fail message
  | .ok operation => do
    let outcome ← (StoreCall.operate operation).send
    let _ ← (StoreCall.completeRuntimeCommand command.commandId (plan.result outcome) now).send
    conclude workerId command now plan outcome

def failBundleRecovery (message : String) : Option String → RuntimeTask Unit
  | none => pure ()
  | some recoveryActionId =>
    (StoreCall.updateRebalanceBundleRecoveryAction recoveryActionId
      { status := some .failed, outcomeSummary := some (some message)
        lastError := some (some message)
        outcome := some [("commandId", .str command.commandId),
          ("commandType", .str command.commandType.text)]
        completedAt := some (some now) } now).send

def failedAttemptPatch (message recoveryEventId : String) : RemediationPatch where
  status := some .failed
  failedAt := some (some now)
  outcomeSummary := some (some message)
  latestRecoveryEventId := some (some recoveryEventId)

def failAttempt (message recoveryEventId : String) :
    Option RuntimeMismatchRemediation → RuntimeTask Unit
  | none => pure ()
  | some remediationAttempt => do
    let _ ← (StoreCall.updateMismatchRemediationById remediationAttempt.id
      (failedAttemptPatch now message recoveryEventId) now).send
    pure ()

def reopenedPatch (nextStatus : RuntimeMismatchStatus) (message recoveryEventId : String) :
    MismatchPatch where
  status := some nextStatus
  linkedCommandId := some (some command.commandId)
  linkedRecoveryEventId := some (some recoveryEventId)
  reopenedAt := some (some now)
  reopenedBy := some (some workerId)
  reopenSummary := some (some message)
  lastStatusChangeAt := some now

def reopenRemediated (remediation : RemediationContext) (nextStatus : RuntimeMismatchStatus)
    (message recoveryEventId : String) : Option RuntimeMismatch → RuntimeTask Unit
  | none => pure ()
  | some _ => do
    let _ ← (StoreCall.updateMismatchById remediation.mismatchId
      (reopenedPatch workerId command now nextStatus message recoveryEventId) now).send
    pure ()

/-- A status that cannot follow a failed remediation is an error of the failure handling itself. -/
def statusAfterFailure : Option RuntimeMismatch → RuntimeTask RuntimeMismatchStatus
  | none => pure .reopened
  | some mismatch => Task.ofExcept (remediationFailureNextStatus mismatch.status)

def remediationFailedEvent (message : String) (remediation : RemediationContext)
    (remediationAttempt : Option RuntimeMismatchRemediation)
    (nextStatus : RuntimeMismatchStatus) : RecoveryEventInput where
  mismatchId := some remediation.mismatchId
  commandId := some command.commandId
  eventType := "mismatch_remediation_failed"
  status := nextStatus.text
  sourceComponent := "runtime-worker"
  actorId := some workerId
  message := message
  details := [("remediationId", Value.ofOption (remediationAttempt.map fun row => row.id)),
    ("remediationType", .str remediation.remediationType.text)]

def failRemediation (message : String) (remediation : RemediationContext) : RuntimeTask Unit := do
  let remediationAttempt ← (StoreCall.getMismatchRemediationByCommandId command.commandId).send
  let mismatch ← (StoreCall.getMismatchById remediation.mismatchId).send
  let nextStatus ← statusAfterFailure mismatch
  let failedEvent ← (StoreCall.recordRecoveryEvent
    (remediationFailedEvent workerId command message remediation remediationAttempt nextStatus)
      now).send
  failAttempt now message failedEvent.id remediationAttempt
  reopenRemediated workerId command now remediation nextStatus message failedEvent.id mismatch

/-- A failed command that remediates nothing is a mismatch of its own. -/
def reportFailure (message : String) : RuntimeTask Unit := do
  let (mismatch, outcome) ← (StoreCall.upsertMismatch
    { dedupeKey := s!"runtime_command_failure:{command.commandId}"
      category := "recovery_action_failure"
      severity := "medium"
      sourceKind := none
      sourceComponent := "runtime-worker"
      entityType := some "runtime_command"
      entityId := some command.commandId
      summary := message
      details := [("commandType", .str command.commandType.text),
        ("commandId", .str command.commandId)]
      detectedAt := now } now).send
  let _ ← (StoreCall.recordRecoveryEvent
    { mismatchId := some mismatch.id
      commandId := some command.commandId
      eventType := if outcome = .reopened then "runtime_command_failure_reopened"
        else "runtime_command_failed"
      status := mismatch.status.text
      sourceComponent := "runtime-worker"
      actorId := some workerId
      message } now).send
  pure ()

def recordFailedRemediation (message : String) : Option RemediationContext → RuntimeTask Unit
  | some remediation => failRemediation workerId command now message remediation
  | none => reportFailure workerId command now message

def degradedPatch (message : String) : WorkerStatusPatch where
  lifecycleState := some .degraded
  schedulerState := some .waiting
  currentOperation := some none
  currentCommandId := some none
  lastFailureAt := some (some now)
  lastFailureReason := some (some message)

/-- The `catch` block. -/
def recordFailure (message : String) : RuntimeTask Unit := do
  let _ ← (StoreCall.failRuntimeCommand command.commandId message now).send
  failBundleRecovery command now message (bundleRecoveryActionId command)
  recordFailedRemediation workerId command now message (getRemediationContext command)
  (StoreCall.updateWorkerStatus (degradedPatch now message)).send

def executeCommand : RuntimeTask Unit := do
  announce workerId command now
  (runCommand workerId command now (commandPlan workerId command now)).tryCatch
    (recordFailure workerId command now)

end Execution

end SentinelApex.Runtime
