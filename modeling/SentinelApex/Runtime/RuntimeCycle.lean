import SentinelApex.Runtime.Detection

/-!
# Cycles and the kill switch

A cycle reads the row of the runtime state once, plans, submits the approved intents and updates the
row at its start and at its end. The calls of the control plane that an operator makes meanwhile
update the same row. Every call may fail.
-/

namespace SentinelApex

namespace RuntimeCycle

open Async
open SentinelApex.Runtime (RuntimeLifecycleState ProjectionStatus)

/-! ## The row of the runtime state -/

structure RuntimeStatusRow where
  executionMode : String
  halted : Bool
  lifecycleState : RuntimeLifecycleState
  projectionStatus : ProjectionStatus
  lastRunId : Option String := none
  lastRunStatus : Option String := none
  lastSuccessfulRunId : Option String := none
  lastProjectionSourceRunId : Option String := none
  lastError : Option String := none
  reason : Option String := none
  lastUpdatedBy : String
  deriving DecidableEq

/-- What an update sets; the other columns stay. -/
structure RuntimeStatusPatch where
  executionMode : Option String := none
  halted : Option Bool := none
  lifecycleState : Option RuntimeLifecycleState := none
  projectionStatus : Option ProjectionStatus := none
  lastRunId : Option (Option String) := none
  lastRunStatus : Option (Option String) := none
  lastSuccessfulRunId : Option (Option String) := none
  lastProjectionSourceRunId : Option (Option String) := none
  lastError : Option (Option String) := none
  reason : Option (Option String) := none
  lastUpdatedBy : String

def RuntimeStatusPatch.apply (patch : RuntimeStatusPatch) (row : RuntimeStatusRow) :
    RuntimeStatusRow where
  executionMode := patch.executionMode.getD row.executionMode
  halted := patch.halted.getD row.halted
  lifecycleState := patch.lifecycleState.getD row.lifecycleState
  projectionStatus := patch.projectionStatus.getD row.projectionStatus
  lastRunId := patch.lastRunId.getD row.lastRunId
  lastRunStatus := patch.lastRunStatus.getD row.lastRunStatus
  lastSuccessfulRunId := patch.lastSuccessfulRunId.getD row.lastSuccessfulRunId
  lastProjectionSourceRunId := patch.lastProjectionSourceRunId.getD row.lastProjectionSourceRunId
  lastError := patch.lastError.getD row.lastError
  reason := patch.reason.getD row.reason
  lastUpdatedBy := patch.lastUpdatedBy

/-- What the kill switch sets, until an operator resumes the runtime. -/
def RuntimeStatusRow.Paused (row : RuntimeStatusRow) : Prop :=
  row.halted = true ∧ row.lifecycleState = .paused

/-! ## Plans -/

/-- An opportunity that was detected, and whether the optimizer has evaluated it. -/
structure PlannedOpportunity where
  opportunityId : String
  evaluated : Bool

/-- The assessment of an intent, with the names of the checks that it has not passed. -/
structure PlannedRiskResult where
  intentId : String
  approved : Bool
  breaches : List String

structure PlannedIntent where
  intentId : String
  venueId : String
  deriving DecidableEq

structure CyclePlan where
  opportunitiesDetected : List PlannedOpportunity := []
  opportunitiesApproved : ℕ := 0
  intentsGenerated : ℕ := 0
  riskResults : List PlannedRiskResult := []
  approvedIntents : List PlannedIntent := []
  rejectedIntents : ℕ := 0

structure RuntimeCycleOutcome where
  runId : String
  opportunitiesDetected : ℕ
  opportunitiesApproved : ℕ
  intentsGenerated : ℕ
  intentsApproved : ℕ
  intentsRejected : ℕ
  intentsExecuted : ℕ

def RuntimeCycleOutcome.json (outcome : RuntimeCycleOutcome) : List (String × Json) :=
  [("runId", .str outcome.runId), ("opportunitiesDetected", .num outcome.opportunitiesDetected),
    ("opportunitiesApproved", .num outcome.opportunitiesApproved),
    ("intentsGenerated", .num outcome.intentsGenerated),
    ("intentsApproved", .num outcome.intentsApproved),
    ("intentsRejected", .num outcome.intentsRejected),
    ("intentsExecuted", .num outcome.intentsExecuted)]

/-! ## Calls -/

/-- Parts of a cycle that neither update the row of the runtime state nor submit orders. -/
inductive CyclePart where
  | createStrategyRun (runId triggerSource : String)
  | refreshPortfolio
  | persistOpportunity (opportunityId runId : String)
  | persistOpportunityEvaluation (evaluationId runId : String)
  | persistIntent (runId intentId : String) (approved : Bool)
  | persistRiskBreach (intentId checkName : String)
  | persistRiskSnapshot (runId : String)
  | persistExecutionRecord (runId intentId : String)
  | runTreasuryEvaluation (runId : String)
  | runAllocatorEvaluation (runId : String)
  | capturePusdVaultSnapshot (runId : String)
  | computeCumulativePnl
  | persistPortfolioSnapshot (runId : String)
  | collectPositions
  | syncPositions
  | refreshInternalDerivativeState (runId : String)
  | refreshVenueTruthInventory
  | completeStrategyRun (status : String) (outcome : RuntimeCycleOutcome)
      (errorMessage : Option String)
  | resolveRuntimeFailure (runId : String)
  | recordRuntimeFailure (runId message : String)
  | runReconciliation (runId : String)
  | recordRecoveryEvent (eventType status actorId message : String)
  | auditWrite (eventType actorType actorId : String) (data : List (String × Json))

inductive CycleCall where
  | getRuntimeStatus
  | updateRuntimeStatus (patch : RuntimeStatusPatch)
  | planCycle
  | submitIntent (runId : String) (intent : PlannedIntent)
  | part (part : CyclePart)

def CycleCall.Reply : CycleCall → Type
  | getRuntimeStatus => RuntimeStatusRow
  | planCycle => CyclePlan
  | updateRuntimeStatus _ => Unit
  | submitIntent _ _ => Unit
  | part _ => Unit

abbrev CycleTask (α : Type) := Task CycleCall CycleCall.Reply String α

def CycleCall.send (c : CycleCall) : CycleTask c.Reply := Task.call c

def CyclePart.send (part : CyclePart) : CycleTask Unit :=
  Task.call (CycleCall.part part)

/-! ## A cycle -/

/-- Which venues have an adapter, and whether the base asset of the vault is PUSD. -/
structure CycleConfig where
  hasAdapter : String → Bool
  pusd : Bool

section Cycle

variable (config : CycleConfig) (runId : String)

def persistOpportunities : List PlannedOpportunity → CycleTask Unit
  | [] => pure ()
  | opportunity :: opportunities => do
    (CyclePart.persistOpportunity opportunity.opportunityId runId).send
    if opportunity.evaluated then do
      (CyclePart.persistOpportunityEvaluation s!"{opportunity.opportunityId}:optimizer" runId).send
      persistOpportunities opportunities
    else persistOpportunities opportunities

def persistRiskBreaches (intentId : String) : List String → CycleTask Unit
  | [] => pure ()
  | checkName :: breaches => do
    (CyclePart.persistRiskBreach intentId checkName).send
    persistRiskBreaches intentId breaches

def persistRiskResults : List PlannedRiskResult → CycleTask Unit
  | [] => pure ()
  | result :: results => do
    (CyclePart.persistIntent runId result.intentId result.approved).send
    if result.approved then persistRiskResults results
    else do
      persistRiskBreaches result.intentId result.breaches
      persistRiskResults results

/-- The approved intents are submitted one after the other; an intent for a venue without an adapter
is skipped. -/
def executeIntents : List PlannedIntent → ℕ → CycleTask ℕ
  | [], intentsExecuted => pure intentsExecuted
  | intent :: intents, intentsExecuted =>
    if config.hasAdapter intent.venueId then do
      let _ ← (CycleCall.submitIntent runId intent).send
      (CyclePart.persistExecutionRecord runId intent.intentId).send
      executeIntents intents (intentsExecuted + 1)
    else executeIntents intents intentsExecuted

def capturePusdVault : CycleTask Unit :=
  if config.pusd then (CyclePart.capturePusdVaultSnapshot runId).send else pure ()

/-- The evaluations and projections after the orders. -/
def evaluateAndProject : CycleTask Unit := do
  CyclePart.refreshPortfolio.send
  (CyclePart.runTreasuryEvaluation runId).send
  (CyclePart.runAllocatorEvaluation runId).send
  capturePusdVault config runId
  CyclePart.computeCumulativePnl.send
  (CyclePart.persistPortfolioSnapshot runId).send
  CyclePart.collectPositions.send
  CyclePart.syncPositions.send
  (CyclePart.refreshInternalDerivativeState runId).send
  CyclePart.refreshVenueTruthInventory.send

def startedPatch : RuntimeStatusPatch where
  lifecycleState := some .ready
  projectionStatus := some .stale
  lastRunId := some (some runId)
  lastRunStatus := some (some "running")
  lastUpdatedBy := "sentinel-runtime"

def completedPatch : RuntimeStatusPatch where
  lastRunId := some (some runId)
  lastRunStatus := some (some "completed")
  lastSuccessfulRunId := some (some runId)
  lastProjectionSourceRunId := some (some runId)
  projectionStatus := some .fresh
  lastError := some none
  reason := some none
  lastUpdatedBy := "sentinel-runtime"

def failedPatch (message : String) : RuntimeStatusPatch where
  lastRunId := some (some runId)
  lastRunStatus := some (some "failed")
  lifecycleState := some .degraded
  projectionStatus := some .stale
  lastError := some (some message)
  reason := some (some message)
  lastUpdatedBy := "sentinel-runtime"

/-- The end of a cycle that has done all its work. -/
def completeCycle (outcome : RuntimeCycleOutcome) : CycleTask RuntimeCycleOutcome := do
  (CyclePart.completeStrategyRun "completed" outcome none).send
  let _ ← (CycleCall.updateRuntimeStatus (completedPatch runId)).send
  (CyclePart.auditWrite "runtime.cycle_completed" "system" "sentinel-runtime" outcome.json).send
  (CyclePart.resolveRuntimeFailure runId).send
  (CyclePart.runReconciliation runId).send
  pure outcome

def cycleBody : CycleTask RuntimeCycleOutcome := do
  CyclePart.refreshPortfolio.send
  let planned ← CycleCall.planCycle.send
  persistOpportunities runId planned.opportunitiesDetected
  persistRiskResults runId planned.riskResults
  (CyclePart.persistRiskSnapshot runId).send
  let intentsExecuted ← executeIntents config runId planned.approvedIntents 0
  evaluateAndProject config runId
  completeCycle runId
    { runId
      opportunitiesDetected := planned.opportunitiesDetected.length
      opportunitiesApproved := planned.opportunitiesApproved
      intentsGenerated := planned.intentsGenerated
      intentsApproved := planned.approvedIntents.length
      intentsRejected := planned.rejectedIntents
      intentsExecuted }

/-- What is left of a cycle whose body has thrown; the exception is thrown again. -/
def failCycle (message : String) : CycleTask RuntimeCycleOutcome := do
  (CyclePart.completeStrategyRun "failed" ⟨runId, 0, 0, 0, 0, 0, 0⟩ (some message)).send
  let _ ← (CycleCall.updateRuntimeStatus (failedPatch runId message)).send
  (CyclePart.auditWrite "runtime.cycle_failed" "system" "sentinel-runtime"
    [("runId", .str runId), ("error", .str message)]).send
  (CyclePart.recordRuntimeFailure runId message).send
  .fail message

/-- Why the status does not let a cycle start. -/
def RuntimeStatusRow.refusal (status : RuntimeStatusRow) : Option String :=
  if status.halted || status.lifecycleState = .paused then
    let reason := status.reason.getD "no reason provided"
    some s!"Runtime is paused: {reason}"
  else if status.lifecycleState = .stopped then
    some "Runtime is stopped and cannot process cycles"
  else none

def runStartedCycle (triggerSource : String) : CycleTask RuntimeCycleOutcome := do
  (CyclePart.createStrategyRun runId triggerSource).send
  (CyclePart.auditWrite "runtime.cycle_started" "system" "sentinel-runtime"
    [("runId", .str runId), ("triggerSource", .str triggerSource)]).send
  let _ ← (CycleCall.updateRuntimeStatus (startedPatch runId)).send
  (cycleBody config runId).tryCatch (failCycle runId)

def runCycle (triggerSource : String) : CycleTask RuntimeCycleOutcome := do
  let status ← CycleCall.getRuntimeStatus.send
  match RuntimeStatusRow.refusal status with
  | some message => .fail message
  | none => runStartedCycle config runId triggerSource

end Cycle

/-! ## The control plane -/

section ControlPlane

variable (reason actorId : String)

def killPatch : RuntimeStatusPatch where
  halted := some true
  lifecycleState := some .paused
  reason := some (some reason)
  lastUpdatedBy := actorId

def resumePatch : RuntimeStatusPatch where
  halted := some false
  lifecycleState := some .ready
  reason := some (some reason)
  lastUpdatedBy := actorId

def executionModePatch : RuntimeStatusPatch where
  executionMode := some "dry-run"
  reason := some none
  lastUpdatedBy := "api-control-plane"

def activateKillSwitch : CycleTask RuntimeStatusRow := do
  let _ ← (CycleCall.updateRuntimeStatus (killPatch reason actorId)).send
  (CyclePart.auditWrite "runtime.kill_switch_activated" "operator" actorId
    [("reason", .str reason)]).send
  (CyclePart.recordRecoveryEvent "runtime_paused" "acknowledged" actorId
    s!"Runtime paused: {reason}").send
  CycleCall.getRuntimeStatus.send

def resume : CycleTask RuntimeStatusRow := do
  let _ ← (CycleCall.updateRuntimeStatus (resumePatch reason actorId)).send
  (CyclePart.auditWrite "runtime.resumed" "operator" actorId [("reason", .str reason)]).send
  (CyclePart.recordRecoveryEvent "runtime_resumed" "resolved" actorId
    s!"Runtime resumed: {reason}").send
  CycleCall.getRuntimeStatus.send

def setExecutionMode : CycleTask RuntimeStatusRow := do
  let _ ← (CycleCall.updateRuntimeStatus executionModePatch).send
  (CyclePart.auditWrite "runtime.execution_mode_changed" "operator" "api-control-plane"
    [("mode", .str "dry-run")]).send
  CycleCall.getRuntimeStatus.send

end ControlPlane

/-! ## Operations that run at the same time -/

inductive RuntimeOperation where
  | cycle (config : CycleConfig) (runId triggerSource : String)
  | kill (reason actorId : String)
  | resume (reason actorId : String)
  | setExecutionMode

def RuntimeOperation.task : RuntimeOperation → CycleTask (RuntimeCycleOutcome ⊕ RuntimeStatusRow)
  | cycle config runId triggerSource => do
    let outcome ← runCycle config runId triggerSource
    pure (.inl outcome)
  | kill reason actorId => do
    let status ← activateKillSwitch reason actorId
    pure (.inr status)
  | resume reason actorId => do
    let status ← RuntimeCycle.resume reason actorId
    pure (.inr status)
  | setExecutionMode => do
    let status ← RuntimeCycle.setExecutionMode
    pure (.inr status)

/-! ## Answers -/

/-- A call that fails may have taken effect. -/
structure CycleFault where
  message : String
  applied : Bool

/-- What the calls are answered with, by their number. -/
structure CycleEnvironment where
  fault : ℕ → Option CycleFault
  plan : ℕ → CyclePlan

structure CycleWorld where
  status : RuntimeStatusRow
  calls : ℕ := 0

namespace CycleCall

def effect : CycleCall → RuntimeStatusRow → RuntimeStatusRow
  | updateRuntimeStatus patch, row => patch.apply row
  | _, row => row

def answer (env : CycleEnvironment) (w : CycleWorld) : (c : CycleCall) → c.Reply
  | getRuntimeStatus => w.status
  | planCycle => env.plan w.calls
  | updateRuntimeStatus _ => ()
  | submitIntent _ _ => ()
  | part _ => ()

end CycleCall

def handleCycle (env : CycleEnvironment) :
    Handler CycleCall CycleCall.Reply String CycleWorld := fun c w =>
  match env.fault w.calls with
  | none => (.ok (c.answer env w), ⟨c.effect w.status, w.calls + 1⟩)
  | some fault =>
    (.error fault.message, ⟨if fault.applied then c.effect w.status else w.status, w.calls + 1⟩)

end RuntimeCycle

end SentinelApex
