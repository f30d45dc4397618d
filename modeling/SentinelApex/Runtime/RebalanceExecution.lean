import SentinelApex.Runtime.RebalanceTables
import SentinelApex.Runtime.TreasuryControl

/-!
# Execution of rebalance proposals

`executeRebalanceProposal` as a task over the calls that it awaits, in the world of the control
plane and the worker with the tables of the rebalance workflow. The methods of the store that
change a proposal derive its bundle afterwards. The carry actions that an evaluation or a reduction
plans are answers of the environment.
-/

namespace SentinelApex

open Async
open SentinelApex.Runtime (Record Value RuntimeCommand RuntimeStatus)

/-! ## Calls -/

structure RebalanceProposalDetail where
  proposal : RebalanceProposalRow
  executions : List RebalanceExecutionRow

inductive RebalanceCall where
  | control (c : ControlCall)
  | getRebalanceProposal (proposalId : String)
  | approveRebalanceProposal (proposalId actorId : String)
  | rejectRebalanceProposal (proposalId actorId reason : String)
  | queueRebalanceProposalExecution (proposalId commandId : String)
  | markRebalanceProposalExecuting (proposalId : String)
  | completeRebalanceProposal (proposalId latestExecutionId : String)
  | failRebalanceProposal (proposalId : String) (latestExecutionId : Option String)
      (errorMessage : String)
  | createRebalanceExecution (input : RebalanceExecutionInput)
  | updateRebalanceExecution (executionId : String) (p : RebalanceExecutionPatch)
  | applyRebalanceCurrent (current : RebalanceCurrent)
  | syncRebalanceBundleForProposal (proposalId : String)
  | getAllocatorDecision (allocatorRunId : String)
  | runCarryEvaluation (proposalId : String) (sourceRunId : Option String)
      (targetCarryNotionalUsd : Decimal)
  | listCarryActions (limit : ℕ)
  | collectPositions
  | collectCarryVenueViews (sourceRunId : Option String)
  | countOpenMismatches (severity : String)
  | createCarryActions (proposalId : String) (notionalUsd : Decimal)

abbrev RebalanceCall.Reply : RebalanceCall → Type
  | control c => c.Reply
  | getRebalanceProposal _ => Option RebalanceProposalDetail
  | approveRebalanceProposal .. => Unit
  | rejectRebalanceProposal .. => Unit
  | queueRebalanceProposalExecution .. => Unit
  | markRebalanceProposalExecuting _ => Unit
  | completeRebalanceProposal .. => Unit
  | failRebalanceProposal .. => Unit
  | createRebalanceExecution _ => RebalanceExecutionRow
  | updateRebalanceExecution .. => Unit
  | applyRebalanceCurrent _ => Unit
  | syncRebalanceBundleForProposal _ => Unit
  | getAllocatorDecision _ => Option (Option String)
  | runCarryEvaluation .. => Unit
  | listCarryActions _ => List CarryAction
  | collectPositions => Unit
  | collectCarryVenueViews _ => Unit
  | countOpenMismatches _ => ℕ
  | createCarryActions .. => List CarryAction

abbrev RebalanceTask (α : Type) := Task RebalanceCall RebalanceCall.Reply String α

abbrev RebalanceCall.send (c : RebalanceCall) : RebalanceTask c.Reply := Task.call c

def liftControl {α : Type} (t : ControlTask α) : RebalanceTask α :=
  t.embed RebalanceCall.control fun _ r => r

def auditRebalance (event : SleeveAuditEvent) : RebalanceTask Unit :=
  (RebalanceCall.control (.treasury (.auditWrite event))).send

def sendTreasury (c : TreasuryCall) : RebalanceTask c.Reply :=
  (RebalanceCall.control (.treasury c)).send

/-! ## Methods of the store -/

/-- A change of a proposal: the statement, the read of the row, and the bundle. -/
def changeProposal (proposalId : String) (c : RebalanceCall) :
    RebalanceTask (Option RebalanceProposalRow) := do
  let _ ← c.send
  let detail ← (RebalanceCall.getRebalanceProposal proposalId).send
  (RebalanceCall.syncRebalanceBundleForProposal proposalId).send
  return detail.map fun detail => detail.proposal

/-! ## Execution -/

structure ExecuteRebalanceInput where
  proposalId : String
  actorId : String
  commandId : Option String
  startedBy : String

structure ExecuteRebalanceResult where
  proposalId : String
  executionId : String
  applied : Bool
  allocatorRunId : String
  downstreamCarryActionIds : List String
  downstreamTreasuryActionIds : List String

/-- An execution that runs: its proposal, the intents of both sleeves, and its record. -/
structure RebalanceContext where
  input : ExecuteRebalanceInput
  proposal : RebalanceProposalRow
  carryIntent : RebalanceProposalIntent
  treasuryIntent : RebalanceProposalIntent
  executionId : String

namespace RebalanceContext

variable (ctx : RebalanceContext)

/-- The proposal is executed in live mode. -/
def applied : Bool := decide (ctx.proposal.executionMode = .live)

/-- The carry actions of the proposal among the latest ones. -/
def linkedCarryIds (actions : List CarryAction) : List String :=
  (actions.filter fun action =>
    decide (action.linkedRebalanceProposalId = some ctx.proposal.id)).map fun action => action.id

/-- An increase of carry is evaluated; a decrease is planned over the open positions. -/
def applyCarry (sourceRunId : Option String) : RebalanceTask (List String) :=
  if ctx.carryIntent.deltaUsd = 0 then return []
  else if 0 < ctx.carryIntent.deltaUsd then do
    (RebalanceCall.runCarryEvaluation ctx.proposal.id sourceRunId
      (usd ctx.carryIntent.deltaUsd)).send
    let carryActions ← (RebalanceCall.listCarryActions 20).send
    return ctx.linkedCarryIds carryActions
  else do
    RebalanceCall.collectPositions.send
    (RebalanceCall.collectCarryVenueViews sourceRunId).send
    let _ ← (RebalanceCall.countOpenMismatches "critical").send
    let carryActions ← (RebalanceCall.createCarryActions ctx.proposal.id
      (usd |ctx.carryIntent.deltaUsd|)).send
    return carryActions.map fun action => action.id

def treasuryActionInput (treasuryRunId : String) : TreasuryActionInput where
  treasuryRunId
  linkedRebalanceProposalId := some ctx.proposal.id
  actionType := .rebalanceTreasuryBudget
  venueId := none
  venueName := none
  venueMode := .reserve
  amountUsd := usd |ctx.treasuryIntent.deltaUsd|
  reasonCode := .rebalanceBudgetApplication
  summary :=
    if 0 < ctx.treasuryIntent.deltaUsd then
      s!"Increase treasury budget by {usdText ctx.treasuryIntent.deltaUsd} USD for rebalance " ++
        s!"proposal {ctx.proposal.id}."
    else
      s!"Reduce treasury budget by {usdText |ctx.treasuryIntent.deltaUsd|} USD for rebalance " ++
        s!"proposal {ctx.proposal.id}."
  details := [("rebalanceProposalId", .str ctx.proposal.id),
    ("currentAllocationUsd", .decimal ctx.treasuryIntent.currentAllocationUsd),
    ("targetAllocationUsd", .decimal ctx.treasuryIntent.targetAllocationUsd),
    ("deltaUsd", .decimal ctx.treasuryIntent.deltaUsd), ("applied", .bool ctx.applied)]
  readiness := .actionable
  executable := true
  blockedReasons := []
  approvalRequirement := ctx.proposal.approvalRequirement
  executionMode := ctx.proposal.executionMode
  simulated := ctx.proposal.simulated

def budgetOutcome : List (String × Json) :=
  [("executionKind", .str "budget_state_application"),
    ("rebalanceProposalId", .str ctx.proposal.id),
    ("currentAllocationUsd", .decimal ctx.treasuryIntent.currentAllocationUsd),
    ("targetAllocationUsd", .decimal ctx.treasuryIntent.targetAllocationUsd),
    ("deltaUsd", .decimal ctx.treasuryIntent.deltaUsd)]

def treasuryExecutionInput (treasuryRunId treasuryActionId : String) : TreasuryExecutionInput where
  treasuryActionId
  treasuryRunId
  commandId := ctx.input.commandId
  status := .executing
  executionMode := ctx.proposal.executionMode
  venueMode := .reserve
  simulated := ctx.proposal.simulated
  requestedBy := ctx.input.actorId
  startedBy := some ctx.input.startedBy
  blockedReasons := []
  outcome := ctx.budgetOutcome
  lastError := none

/-- The treasury action of the proposal is created and driven to its end. -/
def recordTreasury (treasuryRunId : String) : RebalanceTask (List String) := do
  let treasuryAction ← sendTreasury (.createTreasuryAction (ctx.treasuryActionInput treasuryRunId))
  sendTreasury (.approveTreasuryAction treasuryAction.id)
  match ctx.input.commandId with
  | none => pure ()
  | some commandId => sendTreasury (.queueTreasuryActionExecution treasuryAction.id commandId)
  sendTreasury (.markTreasuryActionExecuting treasuryAction.id)
  let treasuryExecution ← sendTreasury
    (.createTreasuryExecution (ctx.treasuryExecutionInput treasuryRunId treasuryAction.id))
  sendTreasury (.updateTreasuryExecution treasuryExecution.id
    { status := some .completed
      outcomeSummary := some (some (if ctx.applied then
          "Treasury sleeve budget state was applied as part of rebalance execution."
        else "Treasury sleeve budget change was recorded as a dry-run rebalance outcome."))
      outcome := some (ctx.budgetOutcome ++ [("applied", .bool ctx.applied)])
      lastError := some none })
  sendTreasury (.completeTreasuryAction treasuryAction.id treasuryExecution.id)
  return [treasuryAction.id]

def applyTreasury : RebalanceTask (List String) :=
  if ctx.treasuryIntent.deltaUsd = 0 then return []
  else do
    match ← sendTreasury .getTreasurySummary with
    | none => pure []
    | some treasuryRunId => ctx.recordTreasury treasuryRunId

def newCurrent : RebalanceCurrent where
  latestProposalId := ctx.proposal.id
  allocatorRunId := ctx.proposal.allocatorRunId
  carryTargetAllocationUsd := ctx.carryIntent.targetAllocationUsd
  carryTargetAllocationPct := ctx.carryIntent.targetAllocationPct
  treasuryTargetAllocationUsd := ctx.treasuryIntent.targetAllocationUsd
  treasuryTargetAllocationPct := ctx.treasuryIntent.targetAllocationPct

def completedPatch (carryIds treasuryIds : List String) : RebalanceExecutionPatch where
  status := some .completed
  outcomeSummary := some (some (if ctx.applied then
      "Rebalance proposal was applied to the approved sleeve budget state."
    else "Rebalance proposal completed in dry-run mode; no sleeve budget state was changed."))
  outcome := some
    [("applied", .bool ctx.applied), ("downstreamCarryActionIds", .arr (carryIds.map .str)),
      ("downstreamTreasuryActionIds", .arr (treasuryIds.map .str)),
      ("carryTargetAllocationUsd", .decimal ctx.carryIntent.targetAllocationUsd),
      ("carryTargetAllocationPct", .num ctx.carryIntent.targetAllocationPct),
      ("treasuryTargetAllocationUsd", .decimal ctx.treasuryIntent.targetAllocationUsd),
      ("treasuryTargetAllocationPct", .num ctx.treasuryIntent.targetAllocationPct)]
  lastError := some none

def completedEvent : SleeveAuditEvent where
  eventType :=
    if ctx.applied then "allocator.rebalance_applied" else "allocator.rebalance_dry_run_completed"
  actorType := "operator"
  actorId := ctx.input.actorId
  sleeveId := "allocator"
  data := [("proposalId", .str ctx.proposal.id), ("executionId", .str ctx.executionId),
    ("allocatorRunId", .str ctx.proposal.allocatorRunId), ("applied", .bool ctx.applied)]

/-- The end of an execution that got through. -/
def complete (carryIds treasuryIds : List String) : RebalanceTask ExecuteRebalanceResult := do
  (RebalanceCall.updateRebalanceExecution ctx.executionId
    (ctx.completedPatch carryIds treasuryIds)).send
  let _ ← changeProposal ctx.proposal.id
    (.completeRebalanceProposal ctx.proposal.id ctx.executionId)
  (RebalanceCall.syncRebalanceBundleForProposal ctx.proposal.id).send
  auditRebalance ctx.completedEvent
  return {
    proposalId := ctx.proposal.id
    executionId := ctx.executionId
    applied := ctx.applied
    allocatorRunId := ctx.proposal.allocatorRunId
    downstreamCarryActionIds := carryIds
    downstreamTreasuryActionIds := treasuryIds }

/-- What is done for the two sleeves, outside of any `try` statement. -/
def apply : RebalanceTask ExecuteRebalanceResult := do
  let _ ← (RebalanceCall.control (.store .getRuntimeStatus)).send
  let decision ← (RebalanceCall.getAllocatorDecision ctx.proposal.allocatorRunId).send
  let carryIds ← ctx.applyCarry (decision.getD none)
  let treasuryIds ← ctx.applyTreasury
  if ctx.applied then (RebalanceCall.applyRebalanceCurrent ctx.newCurrent).send
  ctx.complete carryIds treasuryIds

end RebalanceContext

def joinRebalanceMessages (reasons : List RebalanceBlockedReason) : String :=
  "; ".intercalate (reasons.map fun reason => reason.message)

def rebalanceExecutionInput (input : ExecuteRebalanceInput) (proposal : RebalanceProposalRow) :
    RebalanceExecutionInput where
  proposalId := proposal.id
  commandId := input.commandId
  status := if proposal.executable then .executing else .failed
  executionMode := proposal.executionMode
  simulated := proposal.simulated
  requestedBy := input.actorId
  startedBy := some input.startedBy
  outcome := [("blockedReasons", .arr (proposal.blockedReasons.map fun reason =>
    .obj [("code", .str reason.code), ("message", .str reason.message),
      ("operatorAction", .str reason.operatorAction), ("details", .obj reason.details)]))]
  lastError :=
    if proposal.executable then none else some (joinRebalanceMessages proposal.blockedReasons)

def failProposal (proposalId executionId message : String) :
    RebalanceTask ExecuteRebalanceResult := do
  let _ ← changeProposal proposalId
    (.failRebalanceProposal proposalId (some executionId) message)
  (RebalanceCall.syncRebalanceBundleForProposal proposalId).send
  .fail message

def missingIntentMessage : String := "Rebalance proposal is missing carry or treasury intent."

def runRebalance (input : ExecuteRebalanceInput) (proposal : RebalanceProposalRow)
    (executionId : String) : RebalanceTask ExecuteRebalanceResult :=
  if proposal.executable = false then
    failProposal proposal.id executionId (joinRebalanceMessages proposal.blockedReasons)
  else do
    let _ ← changeProposal proposal.id (.markRebalanceProposalExecuting proposal.id)
    match proposal.intents.find? fun intent => decide (intent.sleeveId = .carry),
        proposal.intents.find? fun intent => decide (intent.sleeveId = .treasury) with
    | some carryIntent, some treasuryIntent =>
      RebalanceContext.apply { input, proposal, carryIntent, treasuryIntent, executionId }
    | _, _ => do
      (RebalanceCall.updateRebalanceExecution executionId
        { status := some .failed, lastError := some (some missingIntentMessage) }).send
      failProposal proposal.id executionId missingIntentMessage

def executeRebalanceProposal (input : ExecuteRebalanceInput) :
    RebalanceTask ExecuteRebalanceResult := do
  match ← (RebalanceCall.getRebalanceProposal input.proposalId).send with
  | none => .fail s!"Rebalance proposal \"{input.proposalId}\" was not found."
  | some detail =>
    if detail.proposal.status ≠ .queued ∧ detail.proposal.status ≠ .approved then
      .fail (s!"Rebalance proposal \"{input.proposalId}\" is not executable from status " ++
        s!"\"{detail.proposal.status.text}\".")
    else do
      let execution ← (RebalanceCall.createRebalanceExecution
        (rebalanceExecutionInput input detail.proposal)).send
      runRebalance input detail.proposal execution.id

/-! ## The world -/

/-- The environment of the control plane, the decisions of the allocator, the carry actions that are
planned, and the answers of the venues and the faults of the store, by the number of the call. -/
structure RebalanceEnvironment where
  control : ControlEnvironment
  decisions : ℕ → Option (Option String)
  planned : ℕ → List CarryAction
  venues : ℕ → Except String Unit
  criticalMismatches : ℕ → ℕ
  faults : ℕ → Option StoreFault

structure RebalanceWorld where
  control : ControlWorld
  tables : RebalanceTables
  calls : ℕ

/-- The row of a planned action: it is recommended, and linked to the proposal. -/
def plannedRow (proposalId id : String) (draft : CarryAction) : CarryAction :=
  { draft with
    id
    linkedRebalanceProposalId := some proposalId
    status := .recommended
    linkedCommandId := none
    latestExecutionId := none
    lastError := none }

def insertPlanned (proposalId : String) : List CarryAction → CarryTables →
    List CarryAction × CarryTables
  | [], tables => ([], tables)
  | draft :: drafts, tables =>
    let row := plannedRow proposalId (toString tables.nextId) draft
    let answer := insertPlanned proposalId drafts
      { tables with actions := tables.actions ++ [row], nextId := tables.nextId + 1 }
    (row :: answer.1, answer.2)

namespace RebalanceWorld

variable (w : RebalanceWorld)

def proposalDetail (proposalId : String) : Option RebalanceProposalDetail :=
  (w.tables.findProposal proposalId).map fun proposal =>
    { proposal
      executions := (w.tables.executions.filter fun row =>
        decide (row.proposalId = proposalId)).reverse }

/-- The proposal with its children, in the order of their creation. -/
def executionGraph (proposalId : String) : Option RebalanceExecutionGraph :=
  (w.tables.findProposal proposalId).map fun proposal =>
    { proposal :=
        { id := proposal.id
          status := proposal.status
          rejectionReason := proposal.rejectionReason
          lastError := proposal.lastError }
      carry := (w.control.carry.tables.actions.filter fun action =>
        decide (action.linkedRebalanceProposalId = some proposalId)).map fun action =>
          { action
            executions := w.control.carry.tables.executionsOf action.id
            steps := w.control.carry.tables.steps.filter fun step =>
              decide (step.carryActionId = action.id) }
      treasury := (w.control.treasury.tables.actions.filter fun action =>
        decide (action.linkedRebalanceProposalId = some proposalId)).map fun action =>
          { action, executions := w.control.treasury.tables.executionsOf action.id }
      currentProposalId := w.tables.current.map fun current => current.latestProposalId }

/-- The bundle of a proposal is derived; without the proposal nothing is stored. -/
def syncBundle (proposalId : String) : RebalanceWorld :=
  match w.executionGraph proposalId with
  | none => w
  | some graph =>
    { w with tables := w.tables.putBundle proposalId (deriveRebalanceBundleSnapshot graph) }

def withCarryTables (tables : CarryTables) : RebalanceWorld :=
  { w with control := { w.control with carry := { w.control.carry with tables } } }

/-- What a call of the sleeves adds to the tables of the workflow: a derived bundle. -/
def afterControl (w : RebalanceWorld) : ControlCall → RebalanceWorld
  | .carry (.syncRebalanceBundleForProposal proposalId) => w.syncBundle proposalId
  | .treasury (.syncRebalanceBundleForProposal proposalId) => w.syncBundle proposalId
  | _ => w

end RebalanceWorld

/-- The fault that a call of the sleeves meets, where the store or the audit writer answers it. -/
def ControlEnvironment.faultOf (env : ControlEnvironment) (w : ControlWorld) :
    ControlCall → Option StoreFault
  | .carry c => if c.asksVenue then none else env.carry.faults w.carry.calls
  | .treasury c => if c.asksVenue then none else env.treasury.faults w.treasury.calls
  | _ => env.runtime.faults w.runtime.calls

def performRebalance (env : RebalanceEnvironment) (w : RebalanceWorld) :
    (c : RebalanceCall) → Except String c.Reply × RebalanceWorld
  | .control c =>
    let answer := handleControl env.control c w.control
    let after : RebalanceWorld := { w with control := answer.2 }
    match env.control.faultOf w.control c with
    | some (.requestLost _) => (answer.1, after)
    | _ => (answer.1, after.afterControl c)
  | .getRebalanceProposal id => (.ok (w.proposalDetail id), w)
  | .approveRebalanceProposal id actorId =>
    (.ok (), { w with tables := w.tables.approveRebalanceProposal id actorId })
  | .rejectRebalanceProposal id actorId reason =>
    (.ok (), { w with tables := w.tables.rejectRebalanceProposal id actorId reason })
  | .queueRebalanceProposalExecution id commandId =>
    (.ok (), { w with tables := w.tables.queueRebalanceProposalExecution id commandId })
  | .markRebalanceProposalExecuting id =>
    (.ok (), { w with tables := w.tables.markRebalanceProposalExecuting id })
  | .completeRebalanceProposal id executionId =>
    (.ok (), { w with tables := w.tables.completeRebalanceProposal id executionId })
  | .failRebalanceProposal id executionId message =>
    (.ok (), { w with tables := w.tables.failRebalanceProposal id executionId message })
  | .createRebalanceExecution input =>
    let answer := w.tables.createRebalanceExecution input
    (.ok answer.1, { w with tables := answer.2 })
  | .updateRebalanceExecution id p =>
    (.ok (), { w with tables := w.tables.updateRebalanceExecution id p })
  | .applyRebalanceCurrent current =>
    (.ok (), { w with tables := w.tables.applyRebalanceCurrent current })
  | .syncRebalanceBundleForProposal id => (.ok (), w.syncBundle id)
  | .getAllocatorDecision _ => (.ok (env.decisions w.calls), w)
  | .runCarryEvaluation proposalId _ _ =>
    let answer := insertPlanned proposalId (env.planned w.calls) w.control.carry.tables
    (.ok (), w.withCarryTables answer.2)
  | .listCarryActions limit => (.ok (w.control.carry.tables.actions.reverse.take limit), w)
  | .collectPositions => (env.venues w.calls, w)
  | .collectCarryVenueViews _ => (env.venues w.calls, w)
  | .countOpenMismatches _ => (.ok (env.criticalMismatches w.calls), w)
  | .createCarryActions proposalId _ =>
    let answer := insertPlanned proposalId (env.planned w.calls) w.control.carry.tables
    (.ok answer.1, w.withCarryTables answer.2)

/-- The calls whose faults are met elsewhere: those of the sleeves, and those that go to venues. -/
def RebalanceCall.faultless : RebalanceCall → Bool
  | .control _ => true
  | .collectPositions => true
  | .collectCarryVenueViews _ => true
  | _ => false

def handleRebalance (env : RebalanceEnvironment) :
    Handler RebalanceCall RebalanceCall.Reply String RebalanceWorld := fun c w =>
  let answer := performRebalance env w c
  match if c.faultless then none else env.faults w.calls with
  | none => (answer.1, { answer.2 with calls := w.calls + 1 })
  | some (.requestLost message) => (.error message, { w with calls := w.calls + 1 })
  | some (.answerLost message) => (.error message, { answer.2 with calls := w.calls + 1 })

end SentinelApex
