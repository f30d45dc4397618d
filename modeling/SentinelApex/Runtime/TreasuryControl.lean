import SentinelApex.Runtime.CarryExecution
import SentinelApex.Runtime.CommandClaims
import SentinelApex.Runtime.ControlPlane
import SentinelApex.Runtime.RecoveryCandidates
import SentinelApex.Runtime.TreasuryExecution
import SentinelApex.Runtime.Worker

/-!
# Treasury actions under the control plane and the worker

The operations of the control plane on treasury actions and on the recovery of a bundle's children,
and the worker that executes the commands that they enqueue: one world with the command queue and the
tables of both sleeves. A command to execute an action stands for the whole execution; the other
operations of the runtime are answered as before.
-/

namespace SentinelApex

open Async
open SentinelApex.Runtime (Record Value RuntimeCommand RuntimeCommandType StoreCall QueueCall
  RebalanceBundleRecoveryAction RebalanceBundleRecoveryStatus BundleRecoveryPatch RuntimeOperation)

/-! ## Calls -/

structure RebalanceBundleDetail where
  bundle : RebalanceBundle
  recoveryCandidates : List BundleRecoveryCandidate

/-- The columns of a new recovery action that are read again. -/
structure BundleRecoveryInput where
  status : RebalanceBundleRecoveryStatus
  outcomeSummary : Option String
  outcome : Record
  lastError : Option String
  completedAt : Option Date

inductive ControlCall where
  | treasury (c : TreasuryCall)
  | carry (c : CarryCall)
  | store (c : StoreCall)
  | queue (c : QueueCall)
  | approveCarryAction (actionId : String)
  | queueCarryActionExecution (actionId commandId : String)
  | getRebalanceBundle (bundleId : String)
  | createRebalanceBundleRecoveryAction (input : BundleRecoveryInput) (now : Date)
  | updateRebalanceBundleRecoveryAction (recoveryActionId : String) (p : BundleRecoveryPatch)
      (now : Date)

abbrev ControlCall.Reply : ControlCall → Type
  | treasury c => c.Reply
  | carry c => c.Reply
  | store c => c.Reply
  | queue c => c.Reply
  | approveCarryAction _ => Unit
  | queueCarryActionExecution .. => Unit
  | getRebalanceBundle _ => Option RebalanceBundleDetail
  | createRebalanceBundleRecoveryAction .. => RebalanceBundleRecoveryAction
  | updateRebalanceBundleRecoveryAction .. => Option RebalanceBundleRecoveryAction

abbrev ControlTask (α : Type) := Task ControlCall ControlCall.Reply String α

abbrev ControlCall.send (c : ControlCall) : ControlTask c.Reply := Task.call c

def liftTreasury {α : Type} (t : TreasuryTask α) : ControlTask α :=
  t.embed ControlCall.treasury fun _ r => r

def liftCarry {α : Type} (t : CarryTask α) : ControlTask α := t.embed ControlCall.carry fun _ r => r

def liftStore {α : Type} (t : Runtime.RuntimeTask α) : ControlTask α :=
  t.embed ControlCall.store fun _ r => r

/-! ## Treasury actions -/

inductive OperatorRole where
  | viewer
  | operator
  | admin
  deriving DecidableEq, Repr

def canSatisfyApprovalRequirement (actorRole : OperatorRole) : ApprovalRequirement → Bool
  | .operator => decide (actorRole = .operator) || decide (actorRole = .admin)
  | .admin => decide (actorRole = .admin)

def ApprovalRequirement.text : ApprovalRequirement → String
  | .operator => "operator"
  | .admin => "admin"

/-- The action is not executable, or its readiness is `blocked`. -/
def TreasuryAction.isBlocked (action : TreasuryAction) : Bool :=
  !action.executable || decide (action.readiness = .blocked)

def operatorEvent (eventType actorId sleeveId : String) (data : List (String × Json)) :
    SleeveAuditEvent where
  eventType
  actorType := "operator"
  actorId
  sleeveId
  data

def recordApproval (action : TreasuryAction) (actionId actorId : String) :
    ControlTask (Option TreasuryAction) := do
  (ControlCall.treasury (.approveTreasuryAction actionId)).send
  let approved ← (ControlCall.treasury (.getTreasuryAction actionId)).send
  (ControlCall.treasury (.auditWrite (operatorEvent "treasury.action_approved" actorId "treasury"
    [("treasuryActionId", .str actionId),
      ("approvalRequirement", .str action.approvalRequirement.text)]))).send
  liftTreasury (TreasuryRuntime.syncLinkedTreasuryBundle action)
  return approved.map fun detail => detail.action

def approveTreasuryAction (actionId actorId : String) (actorRole : OperatorRole) :
    ControlTask (Option TreasuryAction) := do
  match ← (ControlCall.treasury (.getTreasuryAction actionId)).send with
  | none => pure none
  | some detail =>
    if detail.action.isBlocked then .fail "Treasury action is blocked and cannot be approved."
    else if !canSatisfyApprovalRequirement actorRole detail.action.approvalRequirement then
      .fail s!"Treasury action requires {detail.action.approvalRequirement.text} approval."
    else recordApproval detail.action actionId actorId

def enqueueCommand (commandId : String) (commandType : RuntimeCommandType) (requestedBy : String)
    (payload : Record) (now : Date) : ControlTask RuntimeCommand :=
  liftStore (Runtime.createCommandRecord commandId commandType requestedBy payload now)

/-- The command of an action, and the move of the action to `queued`. -/
def recordEnqueue (action : TreasuryAction) (actionId actorId commandId : String) (now : Date) :
    ControlTask (Option RuntimeCommand) := do
  let command ← enqueueCommand commandId .executeTreasuryAction actorId
    [("treasuryActionId", .str actionId), ("actorId", .str actorId)] now
  (ControlCall.treasury (.queueTreasuryActionExecution actionId command.commandId)).send
  (ControlCall.treasury (.auditWrite
    (operatorEvent "treasury.action_execution_queued" actorId "treasury"
      [("treasuryActionId", .str actionId), ("commandId", .str command.commandId)]))).send
  liftTreasury (TreasuryRuntime.syncLinkedTreasuryBundle action)
  return some command

def enqueueTreasuryActionExecution (actionId actorId : String) (actorRole : OperatorRole)
    (commandId : String) (now : Date) : ControlTask (Option RuntimeCommand) := do
  match ← (ControlCall.treasury (.getTreasuryAction actionId)).send with
  | none => pure none
  | some detail =>
    if detail.action.isBlocked then .fail "Treasury action is blocked and cannot be executed."
    else if detail.action.status ≠ .approved then
      .fail "Treasury action must be approved before execution."
    else if !canSatisfyApprovalRequirement actorRole detail.action.approvalRequirement then
      .fail s!"Treasury action requires {detail.action.approvalRequirement.text} approval."
    else recordEnqueue detail.action actionId actorId commandId now

/-! ## Recovery of a bundle's children -/

structure BundleRecoveryRequest where
  targetChildType : BundleRecoveryTarget
  targetChildId : String

def BundleRecoveryBlockedReason.toJson (reason : BundleRecoveryBlockedReason) : Json :=
  .obj
    [("code", .str reason.code), ("category", .str reason.category),
      ("message", .str reason.message), ("operatorAction", .str reason.operatorAction),
      ("details", .obj reason.details)]

def BundleRecoveryBlockedReason.toValue (reason : BundleRecoveryBlockedReason) : Value :=
  .obj
    [("code", .str reason.code), ("category", .str reason.category),
      ("message", .str reason.message), ("operatorAction", .str reason.operatorAction)]

def BundleRecoveryCandidate.matches (candidate : BundleRecoveryCandidate)
    (request : BundleRecoveryRequest) : Bool :=
  decide (candidate.targetChildType = request.targetChildType) &&
    decide (candidate.targetChildId = request.targetChildId)

def BundleRecoveryCandidate.toInput (candidate : BundleRecoveryCandidate) (now : Date) :
    BundleRecoveryInput :=
  let blocked : Option String :=
    if candidate.eligible then none
    else some (candidate.blockedReasons.head?.elim "Bundle recovery request remained blocked."
      fun reason => reason.message)
  { status := if candidate.eligible then .requested else .blocked
    outcomeSummary := blocked
    outcome := [("blockedReasons", .arr (candidate.blockedReasons.map
      BundleRecoveryBlockedReason.toValue))]
    lastError := blocked
    completedAt := if candidate.eligible then none else some now }

def recoveryPayload (idKey childId actorId recoveryActionId : String) : Record :=
  [(idKey, .str childId), ("actorId", .str actorId),
    ("bundleRecoveryActionId", .str recoveryActionId)]

/-- A carry child is approved if it is only recommended, and queued from whatever status. -/
def requeueCarryChild (childId actorId recoveryActionId commandId : String) (now : Date) :
    ControlTask RuntimeCommand := do
  match ← (ControlCall.carry (.getCarryAction childId)).send with
  | none => .fail s!"Carry action \"{childId}\" was not found."
  | some detail =>
    if detail.action.status = .recommended then
      (ControlCall.approveCarryAction detail.action.id).send
    let command ← enqueueCommand commandId .executeCarryAction actorId
      (recoveryPayload "actionId" childId actorId recoveryActionId) now
    (ControlCall.queueCarryActionExecution childId command.commandId).send
    return command

def requeueTreasuryChild (childId actorId recoveryActionId commandId : String) (now : Date) :
    ControlTask RuntimeCommand := do
  match ← (ControlCall.treasury (.getTreasuryAction childId)).send with
  | none => .fail s!"Treasury action \"{childId}\" was not found."
  | some detail =>
    if detail.action.status = .recommended then
      (ControlCall.treasury (.approveTreasuryAction detail.action.id)).send
    let command ← enqueueCommand commandId .executeTreasuryAction actorId
      (recoveryPayload "treasuryActionId" childId actorId recoveryActionId) now
    (ControlCall.treasury (.queueTreasuryActionExecution childId command.commandId)).send
    return command

def requeueChild (candidate : BundleRecoveryCandidate)
    (actorId recoveryActionId commandId : String) (now : Date) : ControlTask RuntimeCommand :=
  match candidate.targetChildType with
  | .carryAction =>
    requeueCarryChild candidate.targetChildId actorId recoveryActionId commandId now
  | .treasuryAction =>
    requeueTreasuryChild candidate.targetChildId actorId recoveryActionId commandId now
  | .rebalanceProposal =>
    .fail "Proposal-level bundle recovery is not supported in this pass."

def recoveryEvent (eventType actorId bundleId recoveryActionId : String)
    (candidate : BundleRecoveryCandidate) (data : List (String × Json)) : SleeveAuditEvent :=
  operatorEvent eventType actorId "allocator"
    ([("bundleId", .str bundleId), ("proposalId", .str candidate.proposalId),
      ("recoveryActionId", .str recoveryActionId),
      ("targetChildType", .str candidate.targetChildType.text),
      ("targetChildId", .str candidate.targetChildId)] ++ data)

/-- The end of a request: the recovery action is updated, the audit trail written and the bundle
derived again. -/
def settleRecovery (base : RebalanceBundleRecoveryAction) (p : BundleRecoveryPatch)
    (event : SleeveAuditEvent) (proposalId : String) (now : Date) :
    ControlTask (Option RebalanceBundleRecoveryAction) := do
  let updated ← (ControlCall.updateRebalanceBundleRecoveryAction base.id p now).send
  (ControlCall.treasury (.auditWrite event)).send
  (ControlCall.treasury (.syncRebalanceBundleForProposal proposalId)).send
  return some (updated.getD base)

def recoverChild (bundleId : String) (candidate : BundleRecoveryCandidate)
    (base : RebalanceBundleRecoveryAction) (actorId commandId : String) (now : Date) :
    ControlTask (Option RebalanceBundleRecoveryAction) :=
  (do
    let command ← requeueChild candidate actorId base.id commandId now
    settleRecovery base { status := some .queued }
      (recoveryEvent "allocator.bundle_recovery_queued" actorId bundleId base.id candidate
        [("commandId", .str command.commandId)]) candidate.proposalId now).tryCatch fun message =>
    settleRecovery base
      { status := some .failed
        outcomeSummary := some (some message)
        lastError := some (some message)
        outcome := some [("targetChildType", .str candidate.targetChildType.text),
          ("targetChildId", .str candidate.targetChildId)]
        completedAt := some (some now) }
      (recoveryEvent "allocator.bundle_recovery_failed" actorId bundleId base.id candidate
        [("error", .str message)]) candidate.proposalId now

/-- A request for a child that is not eligible is recorded as blocked. -/
def blockRecovery (bundleId : String) (candidate : BundleRecoveryCandidate)
    (base : RebalanceBundleRecoveryAction) (actorId : String) :
    ControlTask (Option RebalanceBundleRecoveryAction) := do
  (ControlCall.treasury (.auditWrite
    (recoveryEvent "allocator.bundle_recovery_blocked" actorId bundleId base.id candidate
      [("blockedReasons", .arr (candidate.blockedReasons.map
        BundleRecoveryBlockedReason.toJson))]))).send
  (ControlCall.treasury (.syncRebalanceBundleForProposal candidate.proposalId)).send
  return some base

def requestRebalanceBundleRecoveryAction (bundleId : String) (request : BundleRecoveryRequest)
    (actorId : String) (actorRole : OperatorRole) (commandId : String) (now : Date) :
    ControlTask (Option RebalanceBundleRecoveryAction) := do
  match ← (ControlCall.getRebalanceBundle bundleId).send with
  | none => pure none
  | some detail =>
    match detail.recoveryCandidates.find? fun candidate => candidate.matches request with
    | none => .fail "Bundle recovery target was not found."
    | some candidate =>
      if !canSatisfyApprovalRequirement actorRole candidate.approvalRequirement then
        .fail s!"Bundle recovery action requires {candidate.approvalRequirement.text} approval."
      else do
        let base ← (ControlCall.createRebalanceBundleRecoveryAction (candidate.toInput now)
          now).send
        if candidate.eligible then recoverChild bundleId candidate base actorId commandId now
        else blockRecovery bundleId candidate base actorId

/-! ## The worker -/

/-- The configuration of the runtime for both sleeves, with the readings of its carry executions. -/
structure ControlRuntime where
  treasury : TreasuryRuntime
  carry : SentinelRuntime
  readings : ℕ → StepReadings

def ExecuteTreasuryResult.toRecord (result : ExecuteTreasuryResult) : Record :=
  [("actionId", .str result.actionId), ("executionId", .str result.executionId),
    ("treasuryRunId", .str result.treasuryRunId),
    ("venueExecutionReference", Value.ofOption result.venueExecutionReference),
    ("simulated", .bool result.simulated)]

def ExecuteCarryResult.toRecord (result : ExecuteCarryResult) : Record :=
  [("actionId", .str result.actionId), ("executionId", .str result.executionId),
    ("orderCount", .num result.orderCount),
    ("guardrailViolations", .arr (result.guardrailViolations.map .str))]

namespace ControlRuntime

variable (runtime : ControlRuntime) (treasuryRunId : String) (now : Date)

/-- The execution of an action, or an operation that touches no action. -/
def operate : RuntimeOperation → ControlTask Record
  | .executeTreasuryAction actionId actorId commandId startedBy => do
    let result ← liftTreasury (runtime.treasury.executeTreasuryAction
      { actionId, actorId, commandId := some commandId, startedBy } treasuryRunId)
    return result.toRecord
  | .executeCarryAction actionId actorId commandId startedBy => do
    let result ← liftCarry (executeCarryAction runtime.carry
      { actionId, actorId, commandId := some commandId, startedBy } runtime.readings now)
    return result.toRecord
  | operation => (ControlCall.store (.operate operation)).send

def runStoreCall : (c : StoreCall) → ControlTask c.Reply
  | .operate operation => runtime.operate treasuryRunId now operation
  | c => (ControlCall.store c).send

def runQueueCall (workerId : String) : (c : QueueCall) → ControlTask c.Reply
  | .executeCommand command =>
    (Runtime.executeCommand workerId command now).expand (runtime.runStoreCall treasuryRunId now)
  | c => (ControlCall.queue c).send

/-- A tick of the worker: it claims the oldest pending command and executes it. -/
def tick (workerId : String) : ControlTask Unit :=
  (Runtime.tick workerId now).expand (runtime.runQueueCall treasuryRunId now workerId)

end ControlRuntime

/-! ## The world -/

/-- The environments of the parts, and what the rows of the bundles say. -/
structure ControlEnvironment where
  treasury : TreasuryEnvironment
  carry : CarryEnvironment
  runtime : Runtime.Environment
  bundles : ℕ → String → Option RebalanceBundle

structure ControlWorld where
  treasury : TreasuryWorld
  carry : CarryWorld
  runtime : Runtime.World

def rebalanceBundle (env : ControlEnvironment) (w : ControlWorld) (bundleId : String) :
    Option RebalanceBundleDetail :=
  (env.bundles w.runtime.calls bundleId).map fun bundle =>
    { bundle
      recoveryCandidates := buildRebalanceBundleRecoveryCandidates bundle
        w.runtime.db.runtimeStatus w.carry.tables w.treasury.tables }

/-- The answer of the database that the runtime and its control plane share. -/
def performShared (env : ControlEnvironment) (w : ControlWorld) :
    (c : ControlCall) → Except String c.Reply × ControlWorld
  | .treasury c =>
    let answer := handleTreasury env.treasury c w.treasury
    (answer.1, { w with treasury := answer.2 })
  | .carry c =>
    let answer := handleCarry env.carry c w.carry
    (answer.1, { w with carry := answer.2 })
  | .store c =>
    let answer := Runtime.handleStore env.runtime c w.runtime
    (answer.1, { w with runtime := answer.2 })
  | .queue c =>
    let answer := Runtime.handleQueue c ⟨w.runtime.db, [], []⟩
    (answer.1, { w with runtime := { w.runtime with db := answer.2.db } })
  | .approveCarryAction id =>
    (.ok (), { w with carry := { w.carry with tables := w.carry.tables.approveCarryAction id } })
  | .queueCarryActionExecution id commandId =>
    (.ok (), { w with
      carry := { w.carry with
        tables := w.carry.tables.queueCarryActionExecution id commandId } })
  | .getRebalanceBundle bundleId => (.ok (rebalanceBundle env w bundleId), w)
  | .createRebalanceBundleRecoveryAction input now =>
    let row : RebalanceBundleRecoveryAction :=
      { id := toString w.runtime.db.nextId
        status := input.status
        outcomeSummary := input.outcomeSummary
        outcome := input.outcome
        lastError := input.lastError
        startedAt := none
        completedAt := input.completedAt
        updatedAt := now }
    (.ok row, { w with
      runtime := { w.runtime with
        db := { w.runtime.db with
          bundleRecoveryActions := w.runtime.db.bundleRecoveryActions ++ [row]
          nextId := w.runtime.db.nextId + 1 } } })
  | .updateRebalanceBundleRecoveryAction id p now =>
    let db := w.runtime.db.updateRebalanceBundleRecoveryAction id p now
    (.ok (db.bundleRecoveryActions.find? fun row => decide (row.id = id)),
      { w with runtime := { w.runtime with db } })

/-- The parts that count their calls and meet their faults themselves. -/
def ControlCall.isPart : ControlCall → Bool
  | .treasury _ => true
  | .carry _ => true
  | .store _ => true
  | _ => false

def handleControl (env : ControlEnvironment) :
    Handler ControlCall ControlCall.Reply String ControlWorld := fun c w =>
  let answer := performShared env w c
  let counted (w' : ControlWorld) : ControlWorld :=
    { w' with runtime := { w'.runtime with calls := w.runtime.calls + 1 } }
  if c.isPart then answer
  else
    match env.runtime.faults w.runtime.calls with
    | none => (answer.1, counted answer.2)
    | some (.requestLost message) => (.error message, counted w)
    | some (.answerLost message) => (.error message, counted answer.2)

/-! ## Sessions -/

/-- An operation of the control plane, or a tick of the worker, with the ids that it generates and
its readings of the clock. -/
inductive ControlOperation where
  | approve (actionId actorId : String) (actorRole : OperatorRole)
  | enqueue (actionId actorId : String) (actorRole : OperatorRole) (commandId : String)
      (now : Date)
  | recover (bundleId : String) (request : BundleRecoveryRequest) (actorId : String)
      (actorRole : OperatorRole) (commandId : String) (now : Date)
  | tick (workerId treasuryRunId : String) (now : Date)

namespace ControlRuntime

variable (runtime : ControlRuntime) (env : ControlEnvironment)

/-- The world that an operation leaves, whether it returns or throws. -/
def after (w : ControlWorld) : ControlOperation → ControlWorld
  | .approve actionId actorId actorRole =>
    ((approveTreasuryAction actionId actorId actorRole).run (handleControl env) w).2
  | .enqueue actionId actorId actorRole commandId now =>
    ((enqueueTreasuryActionExecution actionId actorId actorRole commandId now).run
      (handleControl env) w).2
  | .recover bundleId request actorId actorRole commandId now =>
    ((requestRebalanceBundleRecoveryAction bundleId request actorId actorRole commandId now).run
      (handleControl env) w).2
  | .tick workerId treasuryRunId now =>
    ((runtime.tick treasuryRunId now workerId).run (handleControl env) w).2

def session (operations : List ControlOperation) (w : ControlWorld) : ControlWorld :=
  operations.foldl (runtime.after env) w

end ControlRuntime

end SentinelApex
