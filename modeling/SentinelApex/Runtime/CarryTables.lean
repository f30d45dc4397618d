import SentinelApex.Carry.MultiLegOrchestration
import SentinelApex.Domain.Actions
import SentinelApex.Runtime.FillLedger

/-!
# Carry actions and their executions

The tables that `executeCarryAction` reads and writes, with the methods of `RuntimeStore` on them.
An `UPDATE` changes every row that its condition selects, a `SELECT ... LIMIT 1` takes the first
one. Generated ids are texts of a counter.
-/

namespace SentinelApex

/-! ## Rows -/

structure CarryBlockedReason where
  code : String
  category : String
  message : String
  operatorAction : String
  details : List (String × Json)

structure CarryAction where
  id : String
  strategyRunId : Option String
  linkedRebalanceProposalId : Option String
  status : ActionStatus
  opportunityId : Option String
  asset : Option String
  executable : Bool
  blockedReasons : List CarryBlockedReason
  approvalRequirement : ApprovalRequirement
  executionMode : ActionExecutionMode
  simulated : Bool
  linkedCommandId : Option String
  latestExecutionId : Option String
  lastError : Option String

/-- A row of `carry_action_order_intents`. -/
structure CarryPlannedOrder where
  id : String
  carryActionId : String
  intentId : String
  venueId : String
  asset : String
  side : OrderSide
  orderType : OrderType
  requestedSize : Decimal
  requestedPrice : Option Decimal
  reduceOnly : Bool
  metadata : Metadata
  createdAt : Date

/-- What `executeCarryAction` reports about one order. -/
structure CarryOrderResult where
  stepId : String
  intentId : String
  clientOrderId : String
  venueOrderId : Option String
  status : OrderStatus
  filledSize : Decimal
  averageFillPrice : Option Decimal
  executionReference : Option String
  executionMode : Option VenueOrderExecutionMode

/-- The `outcome` record of an execution; an absent key is `none`. -/
structure CarryOutcome where
  blockedReasons : Option (List CarryBlockedReason) := none
  stepCount : Option ℕ := none
  orderResults : Option (List CarryOrderResult) := none
  executionModes : Option (List VenueOrderExecutionMode) := none
  guardrailViolations : Option (List String) := none
  multiLegPlanId : Option String := none
  multiLegEnabled : Option Bool := none
  legsCompleted : Option ℕ := none
  legsFailed : Option ℕ := none
  finalHedgeDeviation : Option String := none

/-- A row of `carry_action_executions`. -/
structure CarryExecution where
  id : String
  carryActionId : String
  strategyRunId : Option String
  commandId : Option String
  status : ActionStatus
  executionMode : ActionExecutionMode
  simulated : Bool
  requestedBy : String
  startedBy : Option String
  blockedReasons : List CarryBlockedReason
  outcomeSummary : Option String
  outcome : CarryOutcome
  venueExecutionReference : Option String
  lastError : Option String

/-- The `outcome` record of a step. -/
structure CarryStepOutcome where
  attempted : Option Bool := none
  attemptCount : Option ℕ := none
  feesPaid : Option (Option Decimal) := none
  fillCount : Option ℕ := none
  submittedAt : Option (Option Date) := none
  executionReference : Option (Option String) := none
  executionMode : Option (Option VenueOrderExecutionMode) := none
  marketIdentity : Option (Option CanonicalMarketIdentity) := none

/-- A row of `carry_execution_steps`. -/
structure CarryExecutionStep where
  id : String
  carryExecutionId : String
  carryActionId : String
  strategyRunId : Option String
  plannedOrderId : Option String
  intentId : String
  venueId : String
  venueMode : VenueMode
  executionSupported : Bool
  readOnly : Bool
  approvedForLiveUse : Bool
  onboardingState : VenueOnboardingState
  asset : String
  side : OrderSide
  orderType : OrderType
  requestedSize : Decimal
  requestedPrice : Option Decimal
  reduceOnly : Bool
  clientOrderId : Option String
  venueOrderId : Option String
  executionReference : Option String
  status : OrderStatus
  simulated : Bool
  filledSize : Option Decimal
  averageFillPrice : Option Decimal
  outcomeSummary : Option String
  outcome : CarryStepOutcome
  lastError : Option String
  metadata : Metadata

/-- The leg types of the table `carry_leg_executions`. -/
inductive LegExecutionType where
  | spot
  | perp
  | hedge
  | rebalance
  | settlement
  deriving DecidableEq, Repr

/-- A row of `carry_multi_leg_plans`. -/
structure MultiLegPlanRow where
  id : String
  carryActionId : String
  strategyRunId : Option String
  asset : String
  notionalUsd : Decimal
  legCount : ℕ
  coordinationConfig : SpotPerpCoordinationConfig
  executionOrder : List ℕ
  status : PlanStatus
  outcomeSummary : Option String

/-- A row of `carry_leg_executions`. -/
structure LegExecutionRow where
  id : String
  planId : String
  carryActionId : String
  legSequence : ℕ
  legType : LegExecutionType
  side : LegSide
  venueId : String
  asset : String
  targetSize : Decimal
  targetNotionalUsd : Decimal
  executedSize : Option Decimal
  averageFillPrice : Option Decimal
  status : PlanLegStatus
  lastError : Option String
  marketSymbol : Option String

inductive ImbalanceDirection where
  | spotHeavy
  | perpHeavy
  | balanced
  deriving DecidableEq, Repr

/-- A row of `carry_hedge_state`. -/
structure HedgeStateRow where
  id : String
  planId : String
  carryActionId : String
  asset : String
  spotLegId : Option String
  perpLegId : Option String
  notionalUsd : Number
  hedgeDeviationPct : Number
  imbalanceDirection : ImbalanceDirection
  imbalanceThresholdBreached : Bool

/-- A row of `execution_guardrails_config`. -/
structure ExecutionGuardrailConfig where
  id : String
  scopeType : String
  scopeId : String
  maxSingleActionNotionalUsd : Option Decimal
  maxConcurrentExecutions : Option ℤ
  killSwitchTriggered : Bool

/-- A row of `execution_guardrail_violations`. -/
structure GuardrailViolation where
  guardrailConfigId : String
  violationType : String
  violationMessage : String
  carryActionId : Option String
  attemptedNotionalUsd : Option Number := none
  limitNotionalUsd : Option Decimal := none
  blocked : Bool

/-- A row of `execution_events`. -/
structure ExecutionEventRow where
  runId : String
  intentId : String
  clientOrderId : Option String
  venueOrderId : Option String
  eventType : String
  status : OrderStatus
  filledSize : Decimal
  averageFillPrice : Option Decimal
  feesPaid : Option Decimal
  executionReference : Option String
  executionMode : Option VenueOrderExecutionMode
  marketIdentity : Option CanonicalMarketIdentity

/-- The tables; new rows are appended. -/
structure CarryTables where
  actions : List CarryAction
  plannedOrders : List CarryPlannedOrder
  executions : List CarryExecution
  steps : List CarryExecutionStep
  plans : List MultiLegPlanRow
  legs : List LegExecutionRow
  hedgeStates : List HedgeStateRow
  guardrailConfigs : List ExecutionGuardrailConfig
  guardrailViolations : List GuardrailViolation
  executionEvents : List ExecutionEventRow
  nextId : ℕ

/-! ## Patches -/

/-- The fields that an update of an execution sets. -/
structure CarryExecutionPatch where
  status : Option ActionStatus := none
  blockedReasons : Option (List CarryBlockedReason) := none
  outcomeSummary : Option (Option String) := none
  outcome : Option CarryOutcome := none
  venueExecutionReference : Option (Option String) := none
  lastError : Option (Option String) := none

def CarryExecution.patch (row : CarryExecution) (p : CarryExecutionPatch) : CarryExecution :=
  { row with
    status := p.status.getD row.status
    blockedReasons := p.blockedReasons.getD row.blockedReasons
    outcomeSummary := p.outcomeSummary.getD row.outcomeSummary
    outcome := p.outcome.getD row.outcome
    venueExecutionReference := p.venueExecutionReference.getD row.venueExecutionReference
    lastError := p.lastError.getD row.lastError }

/-- The fields that an update of a step sets. -/
structure CarryStepPatch where
  clientOrderId : Option (Option String) := none
  venueOrderId : Option (Option String) := none
  executionReference : Option (Option String) := none
  status : Option OrderStatus := none
  simulated : Option Bool := none
  filledSize : Option (Option Decimal) := none
  averageFillPrice : Option (Option Decimal) := none
  outcomeSummary : Option (Option String) := none
  outcome : Option CarryStepOutcome := none
  lastError : Option (Option String) := none
  metadata : Option Metadata := none

def CarryExecutionStep.patch (row : CarryExecutionStep) (p : CarryStepPatch) :
    CarryExecutionStep :=
  { row with
    clientOrderId := p.clientOrderId.getD row.clientOrderId
    venueOrderId := p.venueOrderId.getD row.venueOrderId
    executionReference := p.executionReference.getD row.executionReference
    status := p.status.getD row.status
    simulated := p.simulated.getD row.simulated
    filledSize := p.filledSize.getD row.filledSize
    averageFillPrice := p.averageFillPrice.getD row.averageFillPrice
    outcomeSummary := p.outcomeSummary.getD row.outcomeSummary
    outcome := p.outcome.getD row.outcome
    lastError := p.lastError.getD row.lastError
    metadata := p.metadata.getD row.metadata }

/-- The fields that an update of a leg sets. -/
structure LegExecutionPatch where
  status : PlanLegStatus
  executedSize : Option Decimal := none
  averageFillPrice : Option Decimal := none
  lastError : Option String := none

def LegExecutionRow.patch (row : LegExecutionRow) (p : LegExecutionPatch) : LegExecutionRow :=
  { row with
    status := p.status
    executedSize := p.executedSize.or row.executedSize
    averageFillPrice := p.averageFillPrice.or row.averageFillPrice
    lastError := p.lastError.or row.lastError }

/-! ## Methods of the store -/

/-- A row with the columns that the insertion takes from its input. -/
structure CarryExecutionInput where
  carryActionId : String
  strategyRunId : Option String
  commandId : Option String
  status : ActionStatus
  executionMode : ActionExecutionMode
  simulated : Bool
  requestedBy : String
  startedBy : Option String
  blockedReasons : List CarryBlockedReason
  lastError : Option String
  outcome : CarryOutcome

structure CarryActionDetail where
  action : CarryAction
  plannedOrders : List CarryPlannedOrder
  executions : List CarryExecution

namespace CarryTables

variable (tables : CarryTables)

def findAction (actionId : String) : Option CarryAction :=
  tables.actions.find? fun row => decide (row.id = actionId)

def ordersOf (actionId : String) : List CarryPlannedOrder :=
  (tables.plannedOrders.filter fun row => decide (row.carryActionId = actionId)).insertionSort
    fun a b => b.createdAt ≤ a.createdAt

def executionsOf (actionId : String) : List CarryExecution :=
  (tables.executions.filter fun row => decide (row.carryActionId = actionId)).reverse

def getCarryAction (actionId : String) : Option CarryActionDetail :=
  (tables.findAction actionId).map fun action =>
    { action
      plannedOrders := tables.ordersOf actionId
      executions := tables.executionsOf actionId }

/-- `UPDATE carry_actions SET ... WHERE id = actionId`. -/
def updateAction (actionId : String) (f : CarryAction → CarryAction) : CarryTables :=
  { tables with actions := tables.actions.map fun row => if row.id = actionId then f row else row }

def actionStatus (actionId : String) : Option ActionStatus :=
  (tables.findAction actionId).map fun row => row.status

theorem findAction_updateAction {f : CarryAction → CarryAction} (hf : ∀ row, (f row).id = row.id)
    (updated actionId : String) :
    (tables.updateAction updated f).findAction actionId =
      (tables.findAction actionId).map fun row => if actionId = updated then f row else row := by
  unfold updateAction findAction
  induction tables.actions with
  | nil => rfl
  | cons row rows ih =>
    rw [List.map_cons, List.find?_cons, List.find?_cons]
    have hid : (if row.id = updated then f row else row).id = row.id := by
      split_ifs
      · exact hf row
      · rfl
    rw [hid]
    by_cases hrow : row.id = actionId
    · subst hrow
      simp
    · simpa [hrow] using ih

def approveCarryAction (actionId : String) : CarryTables :=
  tables.updateAction actionId fun row => { row with status := .approved, lastError := none }

def queueCarryActionExecution (actionId commandId : String) : CarryTables :=
  tables.updateAction actionId fun row =>
    { row with status := .queued, linkedCommandId := some commandId, lastError := none }

def markCarryActionExecuting (actionId : String) : CarryTables :=
  tables.updateAction actionId fun row => { row with status := .executing }

def completeCarryAction (actionId latestExecutionId : String) : CarryTables :=
  tables.updateAction actionId fun row =>
    { row with
      status := .completed
      latestExecutionId := some latestExecutionId
      lastError := none }

def failCarryAction (actionId latestExecutionId errorMessage : String) : CarryTables :=
  tables.updateAction actionId fun row =>
    { row with
      status := .failed
      latestExecutionId := some latestExecutionId
      lastError := some errorMessage }

def getExecutingActionCount : ℕ :=
  tables.actions.countP fun row => decide (row.status = .executing)

def createCarryExecution (input : CarryExecutionInput) : CarryExecution × CarryTables :=
  let row : CarryExecution :=
    { id := toString tables.nextId
      carryActionId := input.carryActionId
      strategyRunId := input.strategyRunId
      commandId := input.commandId
      status := input.status
      executionMode := input.executionMode
      simulated := input.simulated
      requestedBy := input.requestedBy
      startedBy := input.startedBy
      blockedReasons := input.blockedReasons
      outcomeSummary := none
      outcome := input.outcome
      venueExecutionReference := none
      lastError := input.lastError }
  (row, { tables with executions := tables.executions ++ [row], nextId := tables.nextId + 1 })

def updateCarryExecution (executionId : String) (p : CarryExecutionPatch) : CarryTables :=
  { tables with
    executions := tables.executions.map fun row =>
      if row.id = executionId then row.patch p else row }

def stepMarketIdentity (venueId asset : String) (metadata : Metadata) : CanonicalMarketIdentity :=
  let input (source note : String) : CanonicalMarketIdentityInput :=
    { venueId := some venueId
      asset := some asset
      marketType := (metadata.get? "instrumentType").getD .null
      provenance := some .derived
      capturedAtStage := .carryExecutionStep
      source := source
      notes := [note] }
  (readCanonicalMarketIdentityFromMetadata metadata (input "carry_execution_step_creation"
    ("Carry execution steps persist the best market identity already attached to the planned " ++
      "order or execution result."))).getD
    (createCanonicalMarketIdentity (input "carry_execution_step_creation"
      ("Carry execution steps derived market identity because no richer upstream metadata was " ++
        "available.")))

/-- The row is `step` with a generated id and the market identity in its metadata. -/
def createCarryExecutionStep (step : CarryExecutionStep) : CarryExecutionStep × CarryTables :=
  let row : CarryExecutionStep :=
    { step with
      id := toString tables.nextId
      metadata := attachCanonicalMarketIdentityToMetadata step.metadata
        (some (stepMarketIdentity step.venueId step.asset step.metadata)) }
  (row, { tables with steps := tables.steps ++ [row], nextId := tables.nextId + 1 })

def updateCarryExecutionStep (stepId : String) (p : CarryStepPatch) : CarryTables :=
  { tables with
    steps := tables.steps.map fun row => if row.id = stepId then row.patch p else row }

def getGuardrailConfig (scopeType scopeId : String) : Option ExecutionGuardrailConfig :=
  tables.guardrailConfigs.find? fun row =>
    decide (row.scopeType = scopeType ∧ row.scopeId = scopeId)

def recordGuardrailViolation (violation : GuardrailViolation) : CarryTables :=
  { tables with guardrailViolations := tables.guardrailViolations ++ [violation] }

def persistExecutionEvent (event : ExecutionEventRow) : CarryTables :=
  { tables with executionEvents := tables.executionEvents ++ [event] }

/-- The row is `plan` with a generated id. -/
def createMultiLegPlan (plan : MultiLegPlanRow) : String × CarryTables :=
  (toString tables.nextId,
    { tables with
      plans := tables.plans ++
        [{ plan with id := toString tables.nextId, status := .pending, outcomeSummary := none }]
      nextId := tables.nextId + 1 })

/-- The row is `leg` with a generated id, not executed. -/
def createLegExecution (leg : LegExecutionRow) : CarryTables :=
  { tables with
    legs := tables.legs ++
      [{ leg with
          id := toString tables.nextId, executedSize := none, averageFillPrice := none
          status := .pending, lastError := none }]
    nextId := tables.nextId + 1 }

def getLegExecutionsForPlan (planId : String) : List LegExecutionRow :=
  (tables.legs.filter fun row => decide (row.planId = planId)).insertionSort
    fun a b => a.legSequence ≤ b.legSequence

def updateLegExecutionStatus (legId : String) (p : LegExecutionPatch) : CarryTables :=
  { tables with legs := tables.legs.map fun row => if row.id = legId then row.patch p else row }

/-- The summary is written only when the plan completes or fails. -/
def updateMultiLegPlanStatus (planId : String) (status : PlanStatus) (outcomeSummary : String) :
    CarryTables :=
  { tables with
    plans := tables.plans.map fun row =>
      if row.id = planId then
        { row with
          status
          outcomeSummary :=
            if status = .completed ∨ status = .failed then some outcomeSummary
            else row.outcomeSummary }
      else row }

/-- The row is `state` with a generated id. -/
def recordHedgeState (state : HedgeStateRow) : CarryTables :=
  { tables with
    hedgeStates := tables.hedgeStates ++ [{ state with id := toString tables.nextId }]
    nextId := tables.nextId + 1 }

end CarryTables

end SentinelApex
