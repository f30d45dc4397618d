import SentinelApex.Domain.Numbers
import SentinelApex.Runtime.MismatchLifecycle

/-!
# The runtime store

The tables that commands, mismatches, remediation attempts and recovery events live in, and the
methods of `RuntimeStore` on them. A method that writes and reads the row back is one function; an
`UPDATE` changes every row that its condition selects, a `SELECT ... LIMIT 1` takes the first one.
Generated ids are texts of a counter.

Foreign keys from events and attempts to mismatches and commands are checked on insertion, as the
schema has them; no row is ever deleted.
-/

namespace SentinelApex.Runtime

/-! ## Rows -/

inductive Value where
  | null
  | bool (b : Bool)
  | num (x : Number)
  | str (s : String)
  | arr (items : List Value)
  | obj (fields : List (String × Value))

/-- `Record<string, unknown>`. -/
abbrev Record := List (String × Value)

/-- `record[key]`; an absent key reads as `undefined`. -/
def Record.get? (record : Record) (key : String) : Option Value :=
  (record.find? fun field => decide (field.1 = key)).map Prod.snd

def Record.str? (record : Record) (key : String) : Option String :=
  match record.get? key with
  | some (.str s) => some s
  | _ => none

/-- A string or `null`. -/
def Value.ofOption : Option String → Value
  | none => .null
  | some s => .str s

inductive RuntimeCommandType where
  | runCycle
  | runCarryEvaluation
  | rebuildProjections
  | runReconciliation
  | runTreasuryEvaluation
  | runAllocatorEvaluation
  | executeCarryAction
  | executeTreasuryAction
  | executeRebalanceProposal
  deriving DecidableEq, Repr

def RuntimeCommandType.text : RuntimeCommandType → String
  | runCycle => "run_cycle"
  | runCarryEvaluation => "run_carry_evaluation"
  | rebuildProjections => "rebuild_projections"
  | runReconciliation => "run_reconciliation"
  | runTreasuryEvaluation => "run_treasury_evaluation"
  | runAllocatorEvaluation => "run_allocator_evaluation"
  | executeCarryAction => "execute_carry_action"
  | executeTreasuryAction => "execute_treasury_action"
  | executeRebalanceProposal => "execute_rebalance_proposal"

inductive RuntimeCommandStatus where
  | pending
  | running
  | completed
  | failed
  deriving DecidableEq, Repr

structure RuntimeCommand where
  commandId : String
  commandType : RuntimeCommandType
  status : RuntimeCommandStatus
  requestedBy : String
  claimedBy : Option String
  payload : Record
  result : Record
  errorMessage : Option String
  requestedAt : Date
  startedAt : Option Date
  completedAt : Option Date
  updatedAt : Date

inductive RuntimeMismatchSourceKind where
  | workflow
  | reconciliation
  deriving DecidableEq, Repr

structure RuntimeMismatch where
  id : String
  dedupeKey : String
  category : String
  severity : String
  sourceKind : RuntimeMismatchSourceKind
  sourceComponent : String
  entityType : Option String
  entityId : Option String
  summary : String
  details : Record
  status : RuntimeMismatchStatus
  firstDetectedAt : Date
  lastDetectedAt : Date
  occurrenceCount : ℕ
  acknowledgedAt : Option Date
  acknowledgedBy : Option String
  recoveryStartedAt : Option Date
  recoveryStartedBy : Option String
  recoverySummary : Option String
  linkedCommandId : Option String
  linkedRecoveryEventId : Option String
  resolvedAt : Option Date
  resolvedBy : Option String
  resolutionSummary : Option String
  verifiedAt : Option Date
  verifiedBy : Option String
  verificationSummary : Option String
  verificationOutcome : Option RuntimeVerificationOutcome
  reopenedAt : Option Date
  reopenedBy : Option String
  reopenSummary : Option String
  lastStatusChangeAt : Date
  updatedAt : Date

inductive RuntimeRemediationActionType where
  | runCycle
  | rebuildProjections
  deriving DecidableEq, Repr

def RuntimeRemediationActionType.commandType : RuntimeRemediationActionType → RuntimeCommandType
  | runCycle => .runCycle
  | rebuildProjections => .rebuildProjections

def RuntimeRemediationActionType.text (type : RuntimeRemediationActionType) : String :=
  type.commandType.text

inductive RuntimeRemediationStatus where
  | requested
  | running
  | completed
  | failed
  deriving DecidableEq, Repr

structure RuntimeMismatchRemediation where
  id : String
  mismatchId : String
  attemptSequence : ℕ
  remediationType : RuntimeRemediationActionType
  commandId : String
  status : RuntimeRemediationStatus
  requestedBy : String
  requestedSummary : Option String
  outcomeSummary : Option String
  latestRecoveryEventId : Option String
  requestedAt : Date
  startedAt : Option Date
  completedAt : Option Date
  failedAt : Option Date
  updatedAt : Date

structure RuntimeRecoveryEvent where
  id : String
  mismatchId : Option String
  commandId : Option String
  runId : Option String
  eventType : String
  status : String
  sourceComponent : String
  actorId : Option String
  message : String
  details : Record
  occurredAt : Date

inductive RebalanceBundleRecoveryStatus where
  | requested
  | queued
  | executing
  | completed
  | failed
  | blocked
  | cancelled
  deriving DecidableEq, Repr

/-- A recovery action of a rebalance bundle; the columns that say what is recovered are left out. -/
structure RebalanceBundleRecoveryAction where
  id : String
  status : RebalanceBundleRecoveryStatus
  outcomeSummary : Option String
  outcome : Record
  lastError : Option String
  startedAt : Option Date
  completedAt : Option Date
  updatedAt : Date

/-! ## Inputs of the store's methods -/

structure CommandInput where
  commandId : String
  commandType : RuntimeCommandType
  requestedBy : String
  payload : Record

structure MismatchInput where
  dedupeKey : String
  category : String
  severity : String
  sourceKind : Option RuntimeMismatchSourceKind
  sourceComponent : String
  entityType : Option String
  entityId : Option String
  summary : String
  details : Record
  detectedAt : Date

/-- The columns that an `UPDATE` of a mismatch sets; `none` leaves a column as it is. -/
structure MismatchPatch where
  status : Option RuntimeMismatchStatus := none
  acknowledgedAt : Option (Option Date) := none
  acknowledgedBy : Option (Option String) := none
  recoveryStartedAt : Option (Option Date) := none
  recoveryStartedBy : Option (Option String) := none
  recoverySummary : Option (Option String) := none
  linkedCommandId : Option (Option String) := none
  linkedRecoveryEventId : Option (Option String) := none
  resolvedAt : Option (Option Date) := none
  resolvedBy : Option (Option String) := none
  resolutionSummary : Option (Option String) := none
  verifiedAt : Option (Option Date) := none
  verifiedBy : Option (Option String) := none
  verificationSummary : Option (Option String) := none
  verificationOutcome : Option (Option RuntimeVerificationOutcome) := none
  reopenedAt : Option (Option Date) := none
  reopenedBy : Option (Option String) := none
  reopenSummary : Option (Option String) := none
  lastStatusChangeAt : Option Date := none

structure RemediationInput where
  mismatchId : String
  remediationType : RuntimeRemediationActionType
  commandId : String
  requestedBy : String
  requestedSummary : Option String

structure RemediationPatch where
  status : Option RuntimeRemediationStatus := none
  outcomeSummary : Option (Option String) := none
  latestRecoveryEventId : Option (Option String) := none
  startedAt : Option (Option Date) := none
  completedAt : Option (Option Date) := none
  failedAt : Option (Option Date) := none

structure RecoveryEventInput where
  mismatchId : Option String := none
  commandId : Option String := none
  runId : Option String := none
  eventType : String
  status : String
  sourceComponent : String
  actorId : Option String := none
  message : String
  details : Record := []

structure BundleRecoveryPatch where
  status : Option RebalanceBundleRecoveryStatus := none
  outcomeSummary : Option (Option String) := none
  outcome : Option Record := none
  lastError : Option (Option String) := none
  startedAt : Option (Option Date) := none
  completedAt : Option (Option Date) := none

/-! ## Rows changed by an update -/

def RuntimeMismatch.patch (row : RuntimeMismatch) (p : MismatchPatch) (now : Date) :
    RuntimeMismatch :=
  { row with
    status := p.status.getD row.status
    acknowledgedAt := p.acknowledgedAt.getD row.acknowledgedAt
    acknowledgedBy := p.acknowledgedBy.getD row.acknowledgedBy
    recoveryStartedAt := p.recoveryStartedAt.getD row.recoveryStartedAt
    recoveryStartedBy := p.recoveryStartedBy.getD row.recoveryStartedBy
    recoverySummary := p.recoverySummary.getD row.recoverySummary
    linkedCommandId := p.linkedCommandId.getD row.linkedCommandId
    linkedRecoveryEventId := p.linkedRecoveryEventId.getD row.linkedRecoveryEventId
    resolvedAt := p.resolvedAt.getD row.resolvedAt
    resolvedBy := p.resolvedBy.getD row.resolvedBy
    resolutionSummary := p.resolutionSummary.getD row.resolutionSummary
    verifiedAt := p.verifiedAt.getD row.verifiedAt
    verifiedBy := p.verifiedBy.getD row.verifiedBy
    verificationSummary := p.verificationSummary.getD row.verificationSummary
    verificationOutcome := p.verificationOutcome.getD row.verificationOutcome
    reopenedAt := p.reopenedAt.getD row.reopenedAt
    reopenedBy := p.reopenedBy.getD row.reopenedBy
    reopenSummary := p.reopenSummary.getD row.reopenSummary
    lastStatusChangeAt := p.lastStatusChangeAt.getD row.lastStatusChangeAt
    updatedAt := now }

def RuntimeMismatchRemediation.patch (row : RuntimeMismatchRemediation) (p : RemediationPatch)
    (now : Date) : RuntimeMismatchRemediation :=
  { row with
    status := p.status.getD row.status
    outcomeSummary := p.outcomeSummary.getD row.outcomeSummary
    latestRecoveryEventId := p.latestRecoveryEventId.getD row.latestRecoveryEventId
    startedAt := p.startedAt.getD row.startedAt
    completedAt := p.completedAt.getD row.completedAt
    failedAt := p.failedAt.getD row.failedAt
    updatedAt := now }

def RebalanceBundleRecoveryAction.patch (row : RebalanceBundleRecoveryAction)
    (p : BundleRecoveryPatch) (now : Date) : RebalanceBundleRecoveryAction :=
  { row with
    status := p.status.getD row.status
    outcomeSummary := p.outcomeSummary.getD row.outcomeSummary
    outcome := p.outcome.getD row.outcome
    lastError := p.lastError.getD row.lastError
    startedAt := p.startedAt.getD row.startedAt
    completedAt := p.completedAt.getD row.completedAt
    updatedAt := now }

/-- A mismatch that is detected for the first time. -/
def MismatchInput.toRow (input : MismatchInput) (id : String) (now : Date) : RuntimeMismatch where
  id := id
  dedupeKey := input.dedupeKey
  category := input.category
  severity := input.severity
  sourceKind := input.sourceKind.getD .workflow
  sourceComponent := input.sourceComponent
  entityType := input.entityType
  entityId := input.entityId
  summary := input.summary
  details := input.details
  status := .opened
  firstDetectedAt := input.detectedAt
  lastDetectedAt := input.detectedAt
  occurrenceCount := 1
  acknowledgedAt := none
  acknowledgedBy := none
  recoveryStartedAt := none
  recoveryStartedBy := none
  recoverySummary := none
  linkedCommandId := none
  linkedRecoveryEventId := none
  resolvedAt := none
  resolvedBy := none
  resolutionSummary := none
  verifiedAt := none
  verifiedBy := none
  verificationSummary := none
  verificationOutcome := none
  reopenedAt := none
  reopenedBy := none
  reopenSummary := none
  lastStatusChangeAt := input.detectedAt
  updatedAt := now

def RuntimeMismatch.redetected (row : RuntimeMismatch) (input : MismatchInput) (now : Date) :
    RuntimeMismatch :=
  { row with
    category := input.category
    severity := input.severity
    sourceKind := input.sourceKind.getD row.sourceKind
    sourceComponent := input.sourceComponent
    entityType := input.entityType
    entityId := input.entityId
    summary := input.summary
    details := input.details
    lastDetectedAt := input.detectedAt
    occurrenceCount := row.occurrenceCount + 1
    updatedAt := now }

/-- A resolved or verified mismatch that is detected again is reopened. -/
def RuntimeMismatch.redetectedClosed (row : RuntimeMismatch) (input : MismatchInput) (now : Date) :
    RuntimeMismatch :=
  { row.redetected input now with
    status := .reopened
    reopenedAt := some input.detectedAt
    reopenedBy := some input.sourceComponent
    reopenSummary := some input.summary
    linkedCommandId := none
    linkedRecoveryEventId := none
    recoveryStartedAt := none
    recoveryStartedBy := none
    recoverySummary := none
    lastStatusChangeAt := input.detectedAt }

def RuntimeMismatchStatus.shouldReopen (status : RuntimeMismatchStatus) : Bool :=
  status = .resolved || status = .verified

inductive UpsertOutcome where
  | opened
  | redetected
  | reopened
  deriving DecidableEq, Repr

/-! ## Tables -/

inductive RuntimeLifecycleState where
  | starting
  | ready
  | paused
  | stopped
  | degraded
  deriving DecidableEq, Repr

def RuntimeLifecycleState.text : RuntimeLifecycleState → String
  | starting => "starting"
  | ready => "ready"
  | paused => "paused"
  | stopped => "stopped"
  | degraded => "degraded"

/-- The columns of the runtime state that a remediation looks at. -/
structure RuntimeStatus where
  halted : Bool
  lifecycleState : RuntimeLifecycleState

inductive WorkerLifecycleState where
  | starting
  | ready
  | stopping
  | stopped
  | degraded
  deriving DecidableEq, Repr

inductive WorkerSchedulerState where
  | idle
  | waiting
  | running
  | paused
  deriving DecidableEq, Repr

/-- The columns of the worker's row that a tick writes. -/
structure WorkerStatus where
  lifecycleState : WorkerLifecycleState := .stopped
  schedulerState : WorkerSchedulerState := .idle
  currentOperation : Option String := none
  currentCommandId : Option String := none
  currentRunId : Option String := none
  lastHeartbeatAt : Option Date := none
  lastRunStartedAt : Option Date := none
  lastRunCompletedAt : Option Date := none
  lastSuccessAt : Option Date := none
  lastFailureAt : Option Date := none
  lastFailureReason : Option String := none
  nextScheduledRunAt : Option Date := none

structure WorkerStatusPatch where
  lifecycleState : Option WorkerLifecycleState := none
  schedulerState : Option WorkerSchedulerState := none
  currentOperation : Option (Option String) := none
  currentCommandId : Option (Option String) := none
  currentRunId : Option (Option String) := none
  lastHeartbeatAt : Option (Option Date) := none
  lastRunStartedAt : Option (Option Date) := none
  lastRunCompletedAt : Option (Option Date) := none
  lastSuccessAt : Option (Option Date) := none
  lastFailureAt : Option (Option Date) := none
  lastFailureReason : Option (Option String) := none
  nextScheduledRunAt : Option (Option Date) := none

def WorkerStatus.patch (row : WorkerStatus) (p : WorkerStatusPatch) : WorkerStatus where
  lifecycleState := p.lifecycleState.getD row.lifecycleState
  schedulerState := p.schedulerState.getD row.schedulerState
  currentOperation := p.currentOperation.getD row.currentOperation
  currentCommandId := p.currentCommandId.getD row.currentCommandId
  currentRunId := p.currentRunId.getD row.currentRunId
  lastHeartbeatAt := p.lastHeartbeatAt.getD row.lastHeartbeatAt
  lastRunStartedAt := p.lastRunStartedAt.getD row.lastRunStartedAt
  lastRunCompletedAt := p.lastRunCompletedAt.getD row.lastRunCompletedAt
  lastSuccessAt := p.lastSuccessAt.getD row.lastSuccessAt
  lastFailureAt := p.lastFailureAt.getD row.lastFailureAt
  lastFailureReason := p.lastFailureReason.getD row.lastFailureReason
  nextScheduledRunAt := p.nextScheduledRunAt.getD row.nextScheduledRunAt

structure Database where
  commands : List RuntimeCommand
  mismatches : List RuntimeMismatch
  remediations : List RuntimeMismatchRemediation
  events : List RuntimeRecoveryEvent
  bundleRecoveryActions : List RebalanceBundleRecoveryAction
  runtimeStatus : RuntimeStatus
  workerStatus : WorkerStatus
  nextId : ℕ

namespace Database

variable (db : Database)

/-! ### Commands -/

/-- A command id that is taken is left alone. -/
def enqueueRuntimeCommand (input : CommandInput) (now : Date) : Database :=
  if db.commands.any fun row => decide (row.commandId = input.commandId) then db
  else
    { db with
      commands := db.commands ++
        [{ commandId := input.commandId, commandType := input.commandType, status := .pending,
           requestedBy := input.requestedBy, claimedBy := none, payload := input.payload,
           result := [], errorMessage := none, requestedAt := now, startedAt := none,
           completedAt := none, updatedAt := now }] }

def getRuntimeCommand (commandId : String) : Option RuntimeCommand :=
  db.commands.find? fun row => decide (row.commandId = commandId)

/-- The older of two commands; the first one when they are of the same age. -/
def older (best : Option RuntimeCommand) (row : RuntimeCommand) : Option RuntimeCommand :=
  match best with
  | none => some row
  | some b => if row.requestedAt < b.requestedAt then some row else some b

/-- `WHERE status = 'pending' ORDER BY requestedAt LIMIT 1`. -/
def selectOldestPending : Option RuntimeCommand :=
  (db.commands.filter fun row => decide (row.status = .pending)).foldl older none

/-- The update of a claim, guarded by the status. -/
def markRunning (commandId claimedBy : String) (now : Date) : Database :=
  { db with
    commands := db.commands.map fun row =>
      if row.commandId = commandId ∧ row.status = .pending then
        { row with
          status := .running, claimedBy := some claimedBy, startedAt := some now, updatedAt := now }
      else row }

def completeRuntimeCommand (commandId : String) (result : Record) (now : Date) : Database :=
  { db with
    commands := db.commands.map fun row =>
      if row.commandId = commandId then
        { row with
          status := .completed, result, errorMessage := none, completedAt := some now
          updatedAt := now }
      else row }

def failRuntimeCommand (commandId errorMessage : String) (now : Date) : Database :=
  { db with
    commands := db.commands.map fun row =>
      if row.commandId = commandId then
        { row with
          status := .failed, errorMessage := some errorMessage, completedAt := some now
          updatedAt := now }
      else row }

/-! ### Mismatches -/

def getMismatchById (mismatchId : String) : Option RuntimeMismatch :=
  db.mismatches.find? fun row => decide (row.id = mismatchId)

def getMismatchByDedupeKey (dedupeKey : String) : Option RuntimeMismatch :=
  db.mismatches.find? fun row => decide (row.dedupeKey = dedupeKey)

def updateMismatchById (mismatchId : String) (p : MismatchPatch) (now : Date) : Database :=
  { db with
    mismatches := db.mismatches.map fun row =>
      if row.id = mismatchId then row.patch p now else row }

def updateMismatchByDedupeKey (dedupeKey : String) (p : MismatchPatch) (now : Date) : Database :=
  { db with
    mismatches := db.mismatches.map fun row =>
      if row.dedupeKey = dedupeKey then row.patch p now else row }

/-- The mismatch is read back, so that the caller sees the row as it is stored. -/
def upsertMismatch (input : MismatchInput) (now : Date) :
    Except String (RuntimeMismatch × UpsertOutcome) × Database :=
  let answer (db : Database) (outcome : UpsertOutcome) :=
    match db.getMismatchByDedupeKey input.dedupeKey with
    | none =>
      .error s!"RuntimeStore.upsertMismatch: mismatch \"{input.dedupeKey}\" was not persisted"
    | some mismatch => .ok (mismatch, outcome)
  match db.getMismatchByDedupeKey input.dedupeKey with
  | none =>
    let db' :=
      { db with
        mismatches := db.mismatches ++ [input.toRow (toString db.nextId) now]
        nextId := db.nextId + 1 }
    (answer db' .opened, db')
  | some existing =>
    let db' :=
      { db with
        mismatches := db.mismatches.map fun row =>
          if row.dedupeKey = input.dedupeKey then
            if existing.status.shouldReopen then row.redetectedClosed input now
            else row.redetected input now
          else row }
    (answer db' (if existing.status.shouldReopen then .reopened else .redetected), db')

/-! ### Remediation attempts -/

def createMismatchRemediation (input : RemediationInput) (now : Date) :
    Except String RuntimeMismatchRemediation × Database :=
  if (db.getMismatchById input.mismatchId).isNone then
    (.error "insert violates foreign key constraint on mismatch_id", db)
  else if (db.getRuntimeCommand input.commandId).isNone then
    (.error "insert violates foreign key constraint on command_id", db)
  else
    let attempts := db.remediations.filter fun row => decide (row.mismatchId = input.mismatchId)
    let row : RuntimeMismatchRemediation :=
      { id := toString db.nextId, mismatchId := input.mismatchId
        attemptSequence := (attempts.map fun row => row.attemptSequence).foldl max 0 + 1
        remediationType := input.remediationType, commandId := input.commandId
        status := .requested, requestedBy := input.requestedBy
        requestedSummary := input.requestedSummary, outcomeSummary := none
        latestRecoveryEventId := none, requestedAt := now, startedAt := none, completedAt := none
        failedAt := none, updatedAt := now }
    (.ok row, { db with remediations := db.remediations ++ [row], nextId := db.nextId + 1 })

def getMismatchRemediationById (remediationId : String) : Option RuntimeMismatchRemediation :=
  db.remediations.find? fun row => decide (row.id = remediationId)

def getMismatchRemediationByCommandId (commandId : String) : Option RuntimeMismatchRemediation :=
  db.remediations.find? fun row => decide (row.commandId = commandId)

/-- The latest attempt that is requested or running. -/
def getInFlightMismatchRemediation (mismatchId : String) : Option RuntimeMismatchRemediation :=
  (db.remediations.filter fun row =>
    decide (row.mismatchId = mismatchId ∧ (row.status = .requested ∨ row.status = .running))).foldl
    (fun best row =>
      match best with
      | none => some row
      | some b => if b.attemptSequence < row.attemptSequence then some row else some b)
    none

def updateMismatchRemediationById (remediationId : String) (p : RemediationPatch) (now : Date) :
    Database :=
  { db with
    remediations := db.remediations.map fun row =>
      if row.id = remediationId then row.patch p now else row }

/-! ### Recovery events, bundles and the worker -/

def recordRecoveryEvent (input : RecoveryEventInput) (now : Date) :
    Except String RuntimeRecoveryEvent × Database :=
  let row : RuntimeRecoveryEvent :=
    { id := toString db.nextId, mismatchId := input.mismatchId, commandId := input.commandId
      runId := input.runId, eventType := input.eventType, status := input.status
      sourceComponent := input.sourceComponent, actorId := input.actorId, message := input.message
      details := input.details, occurredAt := now }
  let inserted := { db with events := db.events ++ [row], nextId := db.nextId + 1 }
  match input.mismatchId with
  | none => (.ok row, inserted)
  | some mismatchId =>
    if (db.getMismatchById mismatchId).isNone then
      (.error "insert violates foreign key constraint on mismatch_id", db)
    else (.ok row, inserted)

def updateRebalanceBundleRecoveryAction (recoveryActionId : String) (p : BundleRecoveryPatch)
    (now : Date) : Database :=
  { db with
    bundleRecoveryActions := db.bundleRecoveryActions.map fun row =>
      if row.id = recoveryActionId then row.patch p now else row }

def updateWorkerStatus (p : WorkerStatusPatch) : Database :=
  { db with workerStatus := db.workerStatus.patch p }

end Database

/-! ## Sample rows -/

def samplePending (commandId : String) : RuntimeCommand where
  commandId := commandId
  commandType := .runCycle
  status := .pending
  requestedBy := "operator"
  claimedBy := none
  payload := []
  result := []
  errorMessage := none
  requestedAt := 0
  startedAt := none
  completedAt := none
  updatedAt := 0

def sampleQueue (commands : List RuntimeCommand) : Database where
  commands := commands
  mismatches := []
  remediations := []
  events := []
  bundleRecoveryActions := []
  runtimeStatus := { halted := false, lifecycleState := .ready }
  workerStatus := {}
  nextId := 0

end SentinelApex.Runtime
