import SentinelApex.Runtime.Calls

/-!
# The control plane

The operations of `RuntimeControlPlane` on mismatches. Each reads the mismatch, asks the lifecycle
for the status that it moves to, updates the row and records an event; an operation that would leave
the status as it is writes nothing.

`createId()` and the clock are arguments; the readings of the clock within one operation are the
same.
-/

namespace SentinelApex.Runtime

open Async

def getRequiredMismatch (mismatchId : String) : RuntimeTask RuntimeMismatch := do
  match ← (StoreCall.getMismatchById mismatchId).send with
  | none => .fail s!"Mismatch \"{mismatchId}\" was not found."
  | some mismatch => pure mismatch

def moveMismatch (mismatchId : String)
    (nextStatusOf : RuntimeMismatchStatus → Except String RuntimeMismatchStatus)
    (patch : RuntimeMismatch → RuntimeMismatchStatus → MismatchPatch)
    (event : RuntimeMismatch → RuntimeMismatch → RecoveryEventInput) (now : Date) :
    RuntimeTask (Option RuntimeMismatch) := do
  let mismatch ← getRequiredMismatch mismatchId
  let nextStatus ← Task.ofExcept (nextStatusOf mismatch.status)
  if nextStatus = mismatch.status then pure (some mismatch)
  else
    match ← (StoreCall.updateMismatchById mismatchId (patch mismatch nextStatus) now).send with
    | none => pure none
    | some updated =>
      let _ ← (StoreCall.recordRecoveryEvent (event mismatch updated) now).send
      pure (some updated)

def acknowledgeMismatch (mismatchId actorId : String) (summary : Option String) (now : Date) :
    RuntimeTask (Option RuntimeMismatch) :=
  moveMismatch mismatchId acknowledgeNextStatus
    (fun _ nextStatus =>
      { status := some nextStatus
        acknowledgedAt := some (some now)
        acknowledgedBy := some (some actorId)
        lastStatusChangeAt := some now })
    (fun _ _ =>
      { mismatchId := some mismatchId
        eventType := "mismatch_acknowledged"
        status := "acknowledged"
        sourceComponent := "api-control-plane"
        actorId := some actorId
        message := summary.getD s!"Mismatch {mismatchId} acknowledged."
        details := [("mismatchId", .str mismatchId)] })
    now

/-- An optional summary that says nothing. -/
def isBlank : Option String → Bool
  | none => true
  | some summary => (Json.trim summary).isEmpty

def startMismatchRecovery (mismatchId actorId : String)
    (summary commandId linkedRecoveryEventId : Option String) (now : Date) :
    RuntimeTask (Option RuntimeMismatch) :=
  if isBlank summary && commandId.isNone && linkedRecoveryEventId.isNone then
    .fail "Recovery start requires a summary, linked commandId, or linked recoveryEventId."
  else
    moveMismatch mismatchId recoveryNextStatus
      (fun _ nextStatus =>
        { status := some nextStatus
          recoveryStartedAt := some (some now)
          recoveryStartedBy := some (some actorId)
          recoverySummary := some summary
          linkedCommandId := some commandId
          linkedRecoveryEventId := some linkedRecoveryEventId
          lastStatusChangeAt := some now })
      (fun _ _ =>
        { mismatchId := some mismatchId
          commandId
          eventType := "mismatch_recovery_started"
          status := "recovering"
          sourceComponent := "api-control-plane"
          actorId := some actorId
          message := summary.getD s!"Mismatch {mismatchId} moved to recovering."
          details := [("mismatchId", .str mismatchId),
            ("linkedRecoveryEventId", Value.ofOption linkedRecoveryEventId)] })
      now

def resolveMismatch (mismatchId actorId summary : String)
    (commandId linkedRecoveryEventId : Option String) (now : Date) :
    RuntimeTask (Option RuntimeMismatch) :=
  if isBlank (some summary) then .fail "Mismatch resolution summary is required."
  else
    moveMismatch mismatchId resolveNextStatus
      (fun mismatch nextStatus =>
        { status := some nextStatus
          resolvedAt := some (some now)
          resolvedBy := some (some actorId)
          resolutionSummary := some (some summary)
          linkedCommandId := some (commandId.or mismatch.linkedCommandId)
          linkedRecoveryEventId := some (linkedRecoveryEventId.or mismatch.linkedRecoveryEventId)
          lastStatusChangeAt := some now })
      (fun mismatch _ =>
        { mismatchId := some mismatchId
          commandId := commandId.or mismatch.linkedCommandId
          eventType := "mismatch_resolved"
          status := "resolved"
          sourceComponent := "api-control-plane"
          actorId := some actorId
          message := summary
          details := [("mismatchId", .str mismatchId),
            ("linkedRecoveryEventId",
              Value.ofOption (linkedRecoveryEventId.or mismatch.linkedRecoveryEventId))] })
      now

def RuntimeVerificationOutcome.text : RuntimeVerificationOutcome → String
  | verified => "verified"
  | failed => "failed"

/-- The event is recorded whether or not the update found the mismatch. -/
def verifyMismatch (mismatchId actorId summary : String) (outcome : RuntimeVerificationOutcome)
    (now : Date) : RuntimeTask (Option RuntimeMismatch) :=
  if isBlank (some summary) then .fail "Mismatch verification summary is required."
  else do
    let mismatch ← getRequiredMismatch mismatchId
    let nextStatus ← Task.ofExcept (verifyNextStatus mismatch.status outcome)
    if nextStatus = mismatch.status then pure (some mismatch)
    else do
      let updated ← (StoreCall.updateMismatchById mismatchId
        { status := some nextStatus
          verifiedAt := some (some now)
          verifiedBy := some (some actorId)
          verificationSummary := some (some summary)
          verificationOutcome := some (some outcome)
          reopenedAt := if outcome = .failed then some (some now) else none
          reopenedBy := if outcome = .failed then some (some actorId) else none
          reopenSummary := if outcome = .failed then some (some summary) else none
          lastStatusChangeAt := some now } now).send
      let _ ← (StoreCall.recordRecoveryEvent
        { mismatchId := some mismatchId
          eventType :=
            if outcome = .verified then "mismatch_verified" else "mismatch_verification_failed"
          status := if outcome = .verified then "verified" else "reopened"
          sourceComponent := "api-control-plane"
          actorId := some actorId
          message := summary
          details := [("mismatchId", .str mismatchId), ("outcome", .str outcome.text)] } now).send
      pure updated

def reopenMismatch (mismatchId actorId summary : String) (now : Date) :
    RuntimeTask (Option RuntimeMismatch) :=
  if isBlank (some summary) then .fail "Mismatch reopen summary is required."
  else
    moveMismatch mismatchId reopenNextStatus
      (fun _ nextStatus =>
        { status := some nextStatus
          reopenedAt := some (some now)
          reopenedBy := some (some actorId)
          reopenSummary := some (some summary)
          lastStatusChangeAt := some now })
      (fun _ updated =>
        { mismatchId := some mismatchId
          commandId := updated.linkedCommandId
          eventType := "mismatch_reopened"
          status := "reopened"
          sourceComponent := "api-control-plane"
          actorId := some actorId
          message := summary
          details := [("mismatchId", .str mismatchId)] })
      now

def createCommandRecord (commandId : String) (commandType : RuntimeCommandType)
    (requestedBy : String) (payload : Record) (now : Date) : RuntimeTask RuntimeCommand := do
  (StoreCall.enqueueRuntimeCommand { commandId, commandType, requestedBy, payload } now).send
  let _ ← (StoreCall.recordRecoveryEvent
    { commandId := some commandId
      eventType := "runtime_command_requested"
      status := "pending"
      sourceComponent := "api-control-plane"
      actorId := some requestedBy
      message := s!"Runtime command {commandType.text} requested."
      details := payload } now).send
  match ← (StoreCall.getRuntimeCommand commandId).send with
  | none =>
    .fail (s!"RuntimeControlPlane.createCommandRecord: command \"{commandId}\" " ++
      "was not persisted")
  | some command => pure command

structure RemediateInput where
  mismatchId : String
  actorId : String
  remediationType : RuntimeRemediationActionType
  summary : Option String

def RemediateInput.payload (input : RemediateInput) : Record :=
  (if input.remediationType = .runCycle then
    [("triggerSource", .str s!"mismatch-remediation:{input.mismatchId}")] else []) ++
  [("remediation", .obj
    [("mismatchId", .str input.mismatchId), ("remediationType", .str input.remediationType.text),
      ("requestedBy", .str input.actorId)])]

/-- A cycle is not started while the runtime is halted, paused or stopped. -/
def RuntimeStatus.refusesCycle (status : RuntimeStatus) : Bool :=
  status.halted || status.lifecycleState = .paused || status.lifecycleState = .stopped

def checkRemediation (input : RemediateInput) (mismatch : RuntimeMismatch) : RuntimeTask Unit :=
  if mismatch.status.shouldReopen then
    .fail (s!"Cannot start remediation for mismatch \"{input.mismatchId}\" from status " ++
      s!"\"{mismatch.status.text}\".")
  else do
    match ← (StoreCall.getInFlightMismatchRemediation input.mismatchId).send with
    | some inFlight =>
      .fail (s!"Mismatch \"{input.mismatchId}\" already has remediation \"{inFlight.id}\" " ++
        "in flight.")
    | none =>
      let runtimeStatus ← StoreCall.getRuntimeStatus.send
      if input.remediationType = .runCycle ∧ runtimeStatus.refusesCycle then
        .fail (s!"Cannot start run_cycle remediation while runtime is " ++
          s!"{runtimeStatus.lifecycleState.text}.")
      else pure ()

def remediateMismatch (input : RemediateInput) (commandId : String) (now : Date) :
    RuntimeTask RuntimeMismatchRemediation := do
  let mismatch ← getRequiredMismatch input.mismatchId
  checkRemediation input mismatch
  let summary := input.summary.map Json.trim
  let _ ← createCommandRecord commandId input.remediationType.commandType input.actorId
    input.payload now
  let remediation ← (StoreCall.createMismatchRemediation
    { mismatchId := input.mismatchId, remediationType := input.remediationType, commandId
      requestedBy := input.actorId, requestedSummary := summary } now).send
  let nextStatus ← Task.ofExcept (recoveryNextStatus mismatch.status)
  let _ ← (StoreCall.updateMismatchById input.mismatchId
    { status := some nextStatus
      recoveryStartedAt := some (some now)
      recoveryStartedBy := some (some input.actorId)
      recoverySummary := some
        (some (summary.getD s!"Remediation {input.remediationType.text} requested."))
      linkedCommandId := some (some commandId)
      linkedRecoveryEventId := some none
      lastStatusChangeAt := some now } now).send
  let _ ← (StoreCall.recordRecoveryEvent
    { mismatchId := some input.mismatchId
      commandId := some commandId
      eventType := "mismatch_remediation_requested"
      status := nextStatus.text
      sourceComponent := "api-control-plane"
      actorId := some input.actorId
      message := summary.getD s!"Mismatch remediation {input.remediationType.text} requested."
      details := [("mismatchId", .str input.mismatchId), ("remediationId", .str remediation.id),
        ("remediationType", .str input.remediationType.text)] } now).send
  match ← (StoreCall.getMismatchRemediationById remediation.id).send with
  | none =>
    .fail (s!"RuntimeControlPlane.remediateMismatch: remediation \"{remediation.id}\" " ++
      "was not persisted")
  | some result => pure result

end SentinelApex.Runtime
