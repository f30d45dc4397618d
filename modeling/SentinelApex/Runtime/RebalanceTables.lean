import SentinelApex.Allocator.Rebalance
import SentinelApex.Runtime.RebalanceBundles

/-!
# Rebalance proposals and their executions

The tables of the rebalance workflow with the methods of `RuntimeStore` on them. As with the
actions of the sleeves, a method that names a status writes it whatever the status of the proposal
is. A bundle keeps the snapshot that was derived last.
-/

namespace SentinelApex

/-- A row of `allocator_rebalance_proposals` with its intents. -/
structure RebalanceProposalRow where
  id : String
  allocatorRunId : String
  status : RebalanceProposalStatus
  executionMode : ActionExecutionMode
  simulated : Bool
  executable : Bool
  approvalRequirement : ApprovalRequirement
  blockedReasons : List RebalanceBlockedReason
  intents : List RebalanceProposalIntent
  approvedBy : Option String
  rejectedBy : Option String
  rejectionReason : Option String
  linkedCommandId : Option String
  latestExecutionId : Option String
  lastError : Option String

/-- A row of `allocator_rebalance_executions`. -/
structure RebalanceExecutionRow where
  id : String
  proposalId : String
  commandId : Option String
  status : RebalanceProposalStatus
  executionMode : ActionExecutionMode
  simulated : Bool
  requestedBy : String
  startedBy : Option String
  outcomeSummary : Option String
  outcome : List (String × Json)
  lastError : Option String

/-- The columns of `allocator_rebalance_bundles` that are derived. -/
structure BundleSnapshotRow where
  proposalId : String
  snapshot : RebalanceBundleSnapshot

/-- The budget state that was applied last. -/
structure RebalanceCurrent where
  latestProposalId : String
  allocatorRunId : String
  carryTargetAllocationUsd : Decimal
  carryTargetAllocationPct : Number
  treasuryTargetAllocationUsd : Decimal
  treasuryTargetAllocationPct : Number

/-- The tables; new rows are appended. -/
structure RebalanceTables where
  proposals : List RebalanceProposalRow
  executions : List RebalanceExecutionRow
  bundles : List BundleSnapshotRow
  current : Option RebalanceCurrent
  nextId : ℕ

structure RebalanceExecutionInput where
  proposalId : String
  commandId : Option String
  status : RebalanceProposalStatus
  executionMode : ActionExecutionMode
  simulated : Bool
  requestedBy : String
  startedBy : Option String
  outcome : List (String × Json)
  lastError : Option String

structure RebalanceExecutionPatch where
  status : Option RebalanceProposalStatus := none
  outcomeSummary : Option (Option String) := none
  outcome : Option (List (String × Json)) := none
  lastError : Option (Option String) := none

def RebalanceExecutionRow.patch (row : RebalanceExecutionRow) (p : RebalanceExecutionPatch) :
    RebalanceExecutionRow :=
  { row with
    status := p.status.getD row.status
    outcomeSummary := p.outcomeSummary.getD row.outcomeSummary
    outcome := p.outcome.getD row.outcome
    lastError := p.lastError.getD row.lastError }

namespace RebalanceTables

variable (tables : RebalanceTables)

def findProposal (proposalId : String) : Option RebalanceProposalRow :=
  Rows.find RebalanceProposalRow.id proposalId tables.proposals

def updateProposal (proposalId : String) (f : RebalanceProposalRow → RebalanceProposalRow) :
    RebalanceTables :=
  { tables with proposals := Rows.update RebalanceProposalRow.id proposalId f tables.proposals }

def approveRebalanceProposal (proposalId actorId : String) : RebalanceTables :=
  tables.updateProposal proposalId fun row =>
    { row with status := .approved, approvedBy := some actorId, lastError := none }

def rejectRebalanceProposal (proposalId actorId reason : String) : RebalanceTables :=
  tables.updateProposal proposalId fun row =>
    { row with
      status := .rejected
      rejectedBy := some actorId
      rejectionReason := some reason }

def queueRebalanceProposalExecution (proposalId commandId : String) : RebalanceTables :=
  tables.updateProposal proposalId fun row =>
    { row with status := .queued, linkedCommandId := some commandId, lastError := none }

def markRebalanceProposalExecuting (proposalId : String) : RebalanceTables :=
  tables.updateProposal proposalId fun row => { row with status := .executing }

def completeRebalanceProposal (proposalId latestExecutionId : String) : RebalanceTables :=
  tables.updateProposal proposalId fun row =>
    { row with
      status := .completed
      latestExecutionId := some latestExecutionId
      lastError := none }

def failRebalanceProposal (proposalId : String) (latestExecutionId : Option String)
    (errorMessage : String) : RebalanceTables :=
  tables.updateProposal proposalId fun row =>
    { row with
      status := .failed
      latestExecutionId
      lastError := some errorMessage }

def createRebalanceExecution (input : RebalanceExecutionInput) :
    RebalanceExecutionRow × RebalanceTables :=
  let row : RebalanceExecutionRow :=
    { id := toString tables.nextId
      proposalId := input.proposalId
      commandId := input.commandId
      status := input.status
      executionMode := input.executionMode
      simulated := input.simulated
      requestedBy := input.requestedBy
      startedBy := input.startedBy
      outcomeSummary := none
      outcome := input.outcome
      lastError := input.lastError }
  (row, { tables with executions := tables.executions ++ [row], nextId := tables.nextId + 1 })

def updateRebalanceExecution (executionId : String) (p : RebalanceExecutionPatch) :
    RebalanceTables :=
  { tables with
    executions := Rows.update RebalanceExecutionRow.id executionId (fun row => row.patch p)
      tables.executions }

def applyRebalanceCurrent (current : RebalanceCurrent) : RebalanceTables :=
  { tables with current := some current }

/-- The row of the bundle is inserted or updated. -/
def putBundle (proposalId : String) (snapshot : RebalanceBundleSnapshot) : RebalanceTables :=
  if (tables.bundles.any fun row => decide (row.proposalId = proposalId)) = true then
    { tables with
      bundles := Rows.update BundleSnapshotRow.proposalId proposalId
        (fun row => { row with snapshot }) tables.bundles }
  else { tables with bundles := tables.bundles ++ [{ proposalId, snapshot }] }

def bundleSnapshot (proposalId : String) : Option RebalanceBundleSnapshot :=
  (Rows.find BundleSnapshotRow.proposalId proposalId tables.bundles).map fun row => row.snapshot

end RebalanceTables

end SentinelApex
