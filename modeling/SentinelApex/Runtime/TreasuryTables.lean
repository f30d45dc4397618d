import SentinelApex.Lib.Rows
import SentinelApex.VenueAdapters.SimulatedTreasury

/-!
# Treasury actions and their executions

The tables that `executeTreasuryAction` and the control plane read and write, with the methods of
`RuntimeStore` on them. As with carry actions, the method that names a status writes it whatever
the status of the action is. `treasury_current` has at most one row.
-/

namespace SentinelApex

structure TreasuryAction where
  id : String
  treasuryRunId : String
  linkedRebalanceProposalId : Option String
  actionType : TreasuryActionType
  status : ActionStatus
  venueId : Option String
  venueName : Option String
  venueMode : TreasuryActionVenueMode
  amountUsd : Decimal
  reasonCode : TreasuryReasonCode
  summary : String
  details : List (String × Json)
  readiness : TreasuryActionReadiness
  executable : Bool
  blockedReasons : List TreasuryActionBlockedReason
  approvalRequirement : ApprovalRequirement
  executionMode : ActionExecutionMode
  simulated : Bool
  linkedCommandId : Option String
  latestExecutionId : Option String
  lastError : Option String

/-- A row of `treasury_action_executions`. -/
structure TreasuryExecution where
  id : String
  treasuryActionId : String
  treasuryRunId : String
  commandId : Option String
  status : ActionStatus
  executionMode : ActionExecutionMode
  venueMode : TreasuryActionVenueMode
  simulated : Bool
  requestedBy : String
  startedBy : Option String
  blockedReasons : List TreasuryActionBlockedReason
  outcomeSummary : Option String
  outcome : List (String × Json)
  venueExecutionReference : Option String
  lastError : Option String

/-- The row of `treasury_current`. -/
structure TreasuryCurrent where
  latestTreasuryRunId : String
  cashBalanceUsd : Decimal

/-- The tables; new rows are appended. -/
structure TreasuryTables where
  actions : List TreasuryAction
  executions : List TreasuryExecution
  runs : List String
  current : Option TreasuryCurrent
  nextId : ℕ

structure TreasuryActionInput where
  treasuryRunId : String
  linkedRebalanceProposalId : Option String
  actionType : TreasuryActionType
  venueId : Option String
  venueName : Option String
  venueMode : TreasuryActionVenueMode
  amountUsd : Decimal
  reasonCode : TreasuryReasonCode
  summary : String
  details : List (String × Json)
  readiness : TreasuryActionReadiness
  executable : Bool
  blockedReasons : List TreasuryActionBlockedReason
  approvalRequirement : ApprovalRequirement
  executionMode : ActionExecutionMode
  simulated : Bool

/-- The row of an intent that an evaluation recommends. -/
def TreasuryExecutionIntent.toInput (intent : TreasuryExecutionIntent) (treasuryRunId : String) :
    TreasuryActionInput where
  treasuryRunId
  linkedRebalanceProposalId := none
  actionType := intent.actionType
  venueId := intent.venueId
  venueName := intent.venueName
  venueMode := intent.venueMode
  amountUsd := intent.amountUsd
  reasonCode := intent.reasonCode
  summary := intent.summary
  details := intent.details
  readiness := intent.readiness
  executable := intent.executable
  blockedReasons := intent.blockedReasons
  approvalRequirement := intent.approvalRequirement
  executionMode := intent.executionMode
  simulated := intent.simulated

def TreasuryActionInput.toRow (input : TreasuryActionInput) (id : String) : TreasuryAction where
  id
  treasuryRunId := input.treasuryRunId
  linkedRebalanceProposalId := input.linkedRebalanceProposalId
  actionType := input.actionType
  status := .recommended
  venueId := input.venueId
  venueName := input.venueName
  venueMode := input.venueMode
  amountUsd := input.amountUsd
  reasonCode := input.reasonCode
  summary := input.summary
  details := input.details
  readiness := input.readiness
  executable := input.executable
  blockedReasons := input.blockedReasons
  approvalRequirement := input.approvalRequirement
  executionMode := input.executionMode
  simulated := input.simulated
  linkedCommandId := none
  latestExecutionId := none
  lastError := none

structure TreasuryExecutionInput where
  treasuryActionId : String
  treasuryRunId : String
  commandId : Option String
  status : ActionStatus
  executionMode : ActionExecutionMode
  venueMode : TreasuryActionVenueMode
  simulated : Bool
  requestedBy : String
  startedBy : Option String
  blockedReasons : List TreasuryActionBlockedReason
  outcome : List (String × Json)
  lastError : Option String := none

def TreasuryExecutionInput.toRow (input : TreasuryExecutionInput) (id : String) :
    TreasuryExecution where
  id
  treasuryActionId := input.treasuryActionId
  treasuryRunId := input.treasuryRunId
  commandId := input.commandId
  status := input.status
  executionMode := input.executionMode
  venueMode := input.venueMode
  simulated := input.simulated
  requestedBy := input.requestedBy
  startedBy := input.startedBy
  blockedReasons := input.blockedReasons
  outcomeSummary := none
  outcome := input.outcome
  venueExecutionReference := none
  lastError := input.lastError

/-- The fields that an update of an execution sets. -/
structure TreasuryExecutionPatch where
  status : Option ActionStatus := none
  outcomeSummary : Option (Option String) := none
  outcome : Option (List (String × Json)) := none
  venueExecutionReference : Option (Option String) := none
  lastError : Option (Option String) := none

def TreasuryExecution.patch (row : TreasuryExecution) (p : TreasuryExecutionPatch) :
    TreasuryExecution :=
  { row with
    status := p.status.getD row.status
    outcomeSummary := p.outcomeSummary.getD row.outcomeSummary
    outcome := p.outcome.getD row.outcome
    venueExecutionReference := p.venueExecutionReference.getD row.venueExecutionReference
    lastError := p.lastError.getD row.lastError }

structure TreasuryActionDetail where
  action : TreasuryAction
  executions : List TreasuryExecution

namespace TreasuryTables

variable (tables : TreasuryTables)

def findAction (actionId : String) : Option TreasuryAction :=
  Rows.find TreasuryAction.id actionId tables.actions

def executionsOf (actionId : String) : List TreasuryExecution :=
  (tables.executions.filter fun row => decide (row.treasuryActionId = actionId)).reverse

def getTreasuryAction (actionId : String) : Option TreasuryActionDetail :=
  (tables.findAction actionId).map fun action =>
    { action, executions := tables.executionsOf actionId }

def actionStatus (actionId : String) : Option ActionStatus :=
  (tables.findAction actionId).map fun row => row.status

def updateAction (actionId : String) (f : TreasuryAction → TreasuryAction) : TreasuryTables :=
  { tables with actions := Rows.update TreasuryAction.id actionId f tables.actions }

theorem actionStatus_updateAction {f : TreasuryAction → TreasuryAction} (status : ActionStatus)
    (hid : ∀ row, (f row).id = row.id) (hstatus : ∀ row, (f row).status = status)
    (updated actionId : String) :
    (tables.updateAction updated f).actionStatus actionId =
      (tables.actionStatus actionId).map fun current =>
        if actionId = updated then status else current := by
  unfold actionStatus findAction updateAction
  rw [Rows.find_update hid]
  cases Rows.find TreasuryAction.id actionId tables.actions with
  | none => rfl
  | some row => by_cases h : actionId = updated <;> simp [h, hstatus]

def approveTreasuryAction (actionId : String) : TreasuryTables :=
  tables.updateAction actionId fun row => { row with status := .approved, lastError := none }

def queueTreasuryActionExecution (actionId commandId : String) : TreasuryTables :=
  tables.updateAction actionId fun row =>
    { row with status := .queued, linkedCommandId := some commandId, lastError := none }

def markTreasuryActionExecuting (actionId : String) : TreasuryTables :=
  tables.updateAction actionId fun row => { row with status := .executing }

def completeTreasuryAction (actionId latestExecutionId : String) : TreasuryTables :=
  tables.updateAction actionId fun row =>
    { row with
      status := .completed
      latestExecutionId := some latestExecutionId
      lastError := none }

def failTreasuryAction (actionId latestExecutionId errorMessage : String) : TreasuryTables :=
  tables.updateAction actionId fun row =>
    { row with
      status := .failed
      latestExecutionId := some latestExecutionId
      lastError := some errorMessage }

def createTreasuryAction (input : TreasuryActionInput) : TreasuryAction × TreasuryTables :=
  let row := input.toRow (toString tables.nextId)
  (row, { tables with actions := tables.actions ++ [row], nextId := tables.nextId + 1 })

/-- The rows of one insertion. -/
def createTreasuryActions (inputs : List TreasuryActionInput) : TreasuryTables :=
  inputs.foldl (fun tables input => (tables.createTreasuryAction input).2) tables

def createTreasuryExecution (input : TreasuryExecutionInput) :
    TreasuryExecution × TreasuryTables :=
  let row := input.toRow (toString tables.nextId)
  (row, { tables with executions := tables.executions ++ [row], nextId := tables.nextId + 1 })

def updateTreasuryExecution (executionId : String) (p : TreasuryExecutionPatch) :
    TreasuryTables :=
  { tables with
    executions := Rows.update TreasuryExecution.id executionId (fun row => row.patch p)
      tables.executions }

def insertTreasuryRun (treasuryRunId : String) : TreasuryTables :=
  { tables with runs := tables.runs ++ [treasuryRunId] }

def getTreasurySummary : Option String := tables.runs.getLast?

def upsertTreasuryCurrent (treasuryRunId : String) (cashBalanceUsd : Decimal) : TreasuryTables :=
  { tables with current := some { latestTreasuryRunId := treasuryRunId, cashBalanceUsd } }

def getTreasuryCashBalanceUsd : Option Decimal :=
  tables.current.map fun row => row.cashBalanceUsd

/-- Without a row nothing is stored. -/
def setTreasuryCashBalanceUsd (cashBalanceUsd : Decimal) : TreasuryTables :=
  { tables with current := tables.current.map fun row => { row with cashBalanceUsd } }

end TreasuryTables

end SentinelApex
