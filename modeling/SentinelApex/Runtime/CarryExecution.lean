import SentinelApex.Lib.TaskEmbed
import SentinelApex.Runtime.CarryOrchestrationAdapter

/-!
# Execution of carry actions

`executeCarryAction` as a task over the calls that it awaits: the methods of the store, the venue
adapters, the audit writer, and the calls of the order executor that submits each planned order
(`CarryCall.executor`). Exceptions are given by their messages.

The readings of the clock and the generated opportunity ids are arguments (`StepReadings`). The
views of the carry venues, the refresh of the venue truth and of the internal derivative state, and
the synchronisation of the linked bundle are single calls.
-/

namespace SentinelApex

open Async

/-! ## Calls -/

structure CarryVenueView where
  venueId : String
  venueMode : VenueMode
  executionSupported : Bool
  readOnly : Bool
  approvedForLiveUse : Bool
  sensitiveExecutionEligible : Bool
  promotionStatus : PromotionStatus
  promotionBlockedReasons : List String
  onboardingState : VenueOnboardingState

inductive CarryCall where
  | getCarryAction (actionId : String)
  | createCarryExecution (input : CarryExecutionInput)
  | failCarryAction (actionId latestExecutionId errorMessage : String)
  | markCarryActionExecuting (actionId : String)
  | completeCarryAction (actionId latestExecutionId : String)
  | updateCarryExecution (executionId : String) (p : CarryExecutionPatch)
  | createCarryExecutionStep (step : CarryExecutionStep)
  | updateCarryExecutionStep (stepId : String) (p : CarryStepPatch)
  | getGuardrailConfig (scopeType scopeId : String)
  | recordGuardrailViolation (violation : GuardrailViolation)
  | getExecutingActionCount
  | createMultiLegPlan (plan : MultiLegPlanRow)
  | createLegExecution (leg : LegExecutionRow)
  | getLegExecutionsForPlan (planId : String)
  | updateLegExecutionStatus (legId : String) (p : LegExecutionPatch)
  | updateMultiLegPlanStatus (planId : String) (status : PlanStatus) (outcomeSummary : String)
  | recordHedgeState (state : HedgeStateRow)
  | persistExecutionEvent (event : ExecutionEventRow)
  | persistFill (orderId : String) (fill : OrderFill)
  | syncRebalanceBundleForProposal (proposalId : String)
  | auditWrite (event : SleeveAuditEvent)
  | collectCarryVenueViews (strategyRunId : Option String)
  | refreshVenueTruthInventory (venueIds : List String)
  | refreshInternalDerivativeState (sourceRunId : Option String) (sourceReference : String)
  | getPositions (venueId : String)
  | executor (carryActionId venueId : String) (c : Call)

abbrev CarryCall.Reply : CarryCall → Type
  | getCarryAction _ => Option CarryActionDetail
  | createCarryExecution _ => CarryExecution
  | failCarryAction .. => Unit
  | markCarryActionExecuting _ => Unit
  | completeCarryAction .. => Unit
  | updateCarryExecution .. => Unit
  | createCarryExecutionStep _ => CarryExecutionStep
  | updateCarryExecutionStep .. => Unit
  | getGuardrailConfig .. => Option ExecutionGuardrailConfig
  | recordGuardrailViolation _ => Unit
  | getExecutingActionCount => ℕ
  | createMultiLegPlan _ => String
  | createLegExecution _ => Unit
  | getLegExecutionsForPlan _ => List LegExecutionRow
  | updateLegExecutionStatus .. => Unit
  | updateMultiLegPlanStatus .. => Unit
  | recordHedgeState _ => Unit
  | persistExecutionEvent _ => Unit
  | persistFill .. => Unit
  | syncRebalanceBundleForProposal _ => Unit
  | auditWrite _ => Unit
  | collectCarryVenueViews _ => List CarryVenueView
  | refreshVenueTruthInventory _ => Unit
  | refreshInternalDerivativeState .. => Unit
  | getPositions _ => List VenuePosition
  | executor _ _ c => c.Reply

abbrev CarryTask (α : Type) := Task CarryCall CarryCall.Reply String α

abbrev CarryCall.send (c : CarryCall) : CarryTask c.Reply := Task.call c

/-- The calls of an operation of the executor. -/
def onBehalfOf (carryActionId venueId : String) {α : Type} (t : ExecTask α) : CarryTask α :=
  t.embed (CarryCall.executor carryActionId venueId) fun _ r => r

/-! ## Inputs -/

/-- The readings of the clock for one planned order, and the opportunity id that is generated when
the action has none. -/
structure StepReadings where
  capturedAt : Date
  opportunityId : String
  submit : SubmitClock
  filledAt : Date

structure ExecuteCarryInput where
  actionId : String
  actorId : String
  commandId : Option String
  startedBy : String

structure ExecuteCarryResult where
  actionId : String
  executionId : String
  orderCount : ℕ
  guardrailViolations : List String

/-- The adapters that the runtime is configured with, by venue id. -/
structure SentinelRuntime where
  adapters : List String

/-! ## Pre-trade positions -/

def positionSideFromOrderSide : OrderSide → PositionSide
  | .buy => .long
  | .sell => .short

def expectedPositionSideForOrder (side : OrderSide) (reduceOnly : Bool) : PositionSide :=
  if reduceOnly then
    match side with
    | .buy => .short
    | .sell => .long
  else positionSideFromOrderSide side

def marketValue (value : Option Json) : Option String :=
  (value.bind Json.string?).filter fun s => decide (s ≠ "")

structure PositionMarket where
  asset : String
  marketKey : Option String
  marketSymbol : Option String

def preTradePositionContextMetadataKey : String := "preTradePositionContext"

/-- A context record; a time is given as a number. -/
def positionContext (captureStatus : String) (market : PositionMarket) (capturedAt : Date)
    (side size reason : Json) : Json :=
  .obj
    [("captureStatus", .str captureStatus), ("observedAt", .num capturedAt),
      ("asset", .str market.asset), ("marketKey", Json.ofOption market.marketKey),
      ("marketSymbol", Json.ofOption market.marketSymbol), ("side", side), ("size", size),
      ("reason", reason)]

/-- The text of an amount; a text that is no decimal is not kept. -/
def amountJson (amount : DecimalText) : Json := (amount.map Json.decimal).getD (.str "")

def capturePreTradePositionContext (market : PositionMarket) (side : OrderSide)
    (reduceOnly : Bool) (capturedAt : Date) (positions : List VenuePosition) : Json :=
  let matchingPositions := positions.filter fun position =>
    decide ((Json.trim position.asset).toUpper = (Json.trim market.asset).toUpper)
  let matchingPosition := (matchingPositions.find? fun position =>
    decide (position.side = expectedPositionSideForOrder side reduceOnly)).or
      matchingPositions.head?
  match matchingPosition with
  | none => positionContext "captured" market capturedAt (.str "flat") (.decimal 0) .null
  | some position =>
    positionContext "captured" market capturedAt (.str position.side.text)
      (amountJson position.size) .null

def CarryPlannedOrder.market (plannedOrder : CarryPlannedOrder) : PositionMarket :=
  let marketIdentity := readCanonicalMarketIdentityFromMetadata plannedOrder.metadata
    { venueId := some plannedOrder.venueId
      asset := some plannedOrder.asset
      marketType := (plannedOrder.metadata.get? "instrumentType").getD .null
      provenance := some .derived
      capturedAtStage := .carryExecutionStep
      source := "carry_execution_pretrade_capture"
      notes :=
        ["Pre-trade position context captures the best market identity available immediately " ++
          "before submission."] }
  { asset := plannedOrder.asset
    marketKey := (marketIdentity.bind fun i => i.marketKey).or
      (marketValue (plannedOrder.metadata.get? "marketKey"))
    marketSymbol := (marketIdentity.bind fun i => i.marketSymbol).or
      (marketValue (plannedOrder.metadata.get? "marketSymbol")) }

/-- The metadata of the order with the positions before it; an exception of the venue is noted. -/
def buildCarryExecutionStepMetadata (plannedOrder : CarryPlannedOrder) (capturedAt : Date) :
    CarryTask Metadata :=
  (do
    let positions ← (CarryCall.getPositions plannedOrder.venueId).send
    return plannedOrder.metadata.set preTradePositionContextMetadataKey
      (capturePreTradePositionContext plannedOrder.market plannedOrder.side
        plannedOrder.reduceOnly capturedAt positions)).tryCatch fun error =>
    return plannedOrder.metadata.set preTradePositionContextMetadataKey
      (positionContext "unavailable" plannedOrder.market capturedAt .null .null (.str error))

/-! ## Guards -/

/-- The reasons why a venue does not take live orders now. -/
def connectorBlocks (venueId : String) : Option CarryVenueView → List CarryBlockedReason
  | none =>
    [{ code := "venue_execution_unsupported"
       category := "venue_capability"
       message := s!"Carry venue {venueId} is not registered for execution."
       operatorAction :=
         "Register the connector and re-run carry evaluation before executing this action."
       details := [("venueId", .str venueId)] }]
  | some venue =>
    (if !venue.executionSupported || venue.readOnly then
      [{ code := "venue_execution_unsupported"
         category := "venue_capability"
         message := s!"Carry venue {venueId} is not currently executable."
         operatorAction :=
           "Restore execution-capable connector posture before retrying this action."
         details := [("venueId", .str venueId), ("readOnly", .bool venue.readOnly),
           ("executionSupported", .bool venue.executionSupported)] }]
    else []) ++
    if !venue.approvedForLiveUse then
      [{ code := "venue_live_unapproved"
         category := "venue_capability"
         message := s!"Carry venue {venueId} is not approved for live use."
         operatorAction :=
           "Request and approve connector promotion before retrying this action."
         details := [("venueId", .str venueId),
           ("promotionStatus", .str venue.promotionStatus.text)] }]
    else if !venue.sensitiveExecutionEligible then
      [{ code := "venue_live_ineligible"
         category := "venue_capability"
         message := s!"Carry venue {venueId} is approved but currently blocked by connector " ++
           "readiness evidence."
         operatorAction :=
           "Restore connector freshness and health, then re-run carry evaluation before retrying."
         details := [("venueId", .str venueId),
           ("promotionStatus", .str venue.promotionStatus.text),
           ("blockers", .arr (venue.promotionBlockedReasons.map .str))] }]
    else []

/-- `new Map(...)`: of two views of a venue the later one counts. -/
def venueById (venues : List CarryVenueView) (venueId : String) : Option CarryVenueView :=
  venues.reverse.find? fun venue => decide (venue.venueId = venueId)

def currentConnectorBlocks (detail : CarryActionDetail) (venues : List CarryVenueView) :
    List CarryBlockedReason :=
  if detail.action.executionMode = .live then
    detail.plannedOrders.flatMap fun plannedOrder =>
      connectorBlocks plannedOrder.venueId (venueById venues plannedOrder.venueId)
  else []

/-- `reasons.map((reason) => reason.message).join('; ')`. -/
def joinMessages (reasons : List CarryBlockedReason) : String :=
  "; ".intercalate (reasons.map fun reason => reason.message)

/-- The sum over the orders of size times price, where an absent price counts as 0. -/
def totalNotional (plannedOrders : List CarryPlannedOrder) : Number :=
  plannedOrders.foldl (fun sum order =>
    sum.add ((Number.ofDecimal order.requestedSize).mul
      (Number.ofDecimal (order.requestedPrice.getD 0)))) 0

/-- A guard that stops the execution, with what it records. -/
structure GuardrailStop where
  violation : GuardrailViolation
  name : String
  errorMessage : String
  outcomeSummary : String

def killSwitchStop (config : ExecutionGuardrailConfig) (actionId : String) : GuardrailStop where
  violation :=
    { guardrailConfigId := config.id
      violationType := "kill_switch_triggered"
      violationMessage := "Execution blocked: kill switch is triggered"
      carryActionId := some actionId
      blocked := true }
  name := "kill_switch"
  errorMessage := "Execution blocked: kill switch triggered"
  outcomeSummary := "Execution blocked by guardrail: kill switch"

def notionalStop (config : ExecutionGuardrailConfig) (actionId : String) (notional : Number)
    (limit : Decimal) : GuardrailStop where
  violation :=
    { guardrailConfigId := config.id
      violationType := "max_notional_exceeded"
      violationMessage := s!"Execution blocked: notional {Number.toText notional} exceeds " ++
        s!"limit {Decimal.toFixedAll limit}"
      carryActionId := some actionId
      attemptedNotionalUsd := some notional
      limitNotionalUsd := some limit
      blocked := true }
  name := "max_notional_exceeded"
  errorMessage := "Execution blocked: notional limit exceeded"
  outcomeSummary :=
    s!"Execution blocked by guardrail: max notional {Decimal.toFixedAll limit}"

def concurrencyStop (config : ExecutionGuardrailConfig) (actionId : String) (executing : ℕ)
    (limit : ℤ) : GuardrailStop where
  violation :=
    { guardrailConfigId := config.id
      violationType := "max_concurrency_exceeded"
      violationMessage := s!"Execution blocked: concurrency {executing} >= limit {limit}"
      carryActionId := some actionId
      blocked := true }
  name := "max_concurrency_exceeded"
  errorMessage := "Execution blocked: concurrency limit exceeded"
  outcomeSummary := s!"Execution blocked by guardrail: max concurrent {limit}"

/-- The first two guards. -/
def guardrailStop? (config : Option ExecutionGuardrailConfig) (actionId : String)
    (notional : Number) : Option GuardrailStop :=
  config.bind fun config =>
    if config.killSwitchTriggered then some (killSwitchStop config actionId)
    else
      match config.maxSingleActionNotionalUsd with
      | none => none
      | some limit =>
        if Number.ofDecimal limit < notional then some (notionalStop config actionId notional limit)
        else none

/-- The last guard; a limit of 0 counts as no limit. -/
def concurrencyStop? (config : Option ExecutionGuardrailConfig) (actionId : String)
    (executing : ℕ) : Option GuardrailStop :=
  config.bind fun config =>
    match config.maxConcurrentExecutions with
    | none => none
    | some limit =>
      if limit ≠ 0 ∧ limit ≤ executing then
        some (concurrencyStop config actionId executing limit)
      else none

/-! ## Failure exits -/

def syncLinkedBundle (action : CarryAction) : CarryTask Unit :=
  match action.linkedRebalanceProposalId with
  | none => pure ()
  | some proposalId => (CarryCall.syncRebalanceBundleForProposal proposalId).send

/-- A guard stops the execution; the linked bundle is left as it is. -/
def stopExecution (action : CarryAction) (executionId : String) (stop : GuardrailStop) :
    CarryTask Unit := do
  (CarryCall.recordGuardrailViolation stop.violation).send
  (CarryCall.updateCarryExecution executionId
    { status := some .failed
      lastError := some (some stop.errorMessage)
      outcomeSummary := some (some stop.outcomeSummary) }).send
  (CarryCall.failCarryAction action.id executionId stop.errorMessage).send
  .fail stop.errorMessage

def unlessStopped (action : CarryAction) (executionId : String) :
    Option GuardrailStop → CarryTask Unit
  | none => pure ()
  | some stop => stopExecution action executionId stop

def blockedEvent (input : ExecuteCarryInput) (actionId executionId : String)
    (blocks : List CarryBlockedReason) : SleeveAuditEvent where
  eventType := "carry.execution_blocked"
  actorType := "operator"
  actorId := input.actorId
  sleeveId := "carry"
  data := [("carryActionId", .str actionId), ("executionId", .str executionId),
    ("blockedReasons", .arr (blocks.map fun block => .obj
      [("code", .str block.code), ("category", .str block.category),
        ("message", .str block.message), ("operatorAction", .str block.operatorAction),
        ("details", .obj block.details)]))]

def blockExecution (input : ExecuteCarryInput) (action : CarryAction) (executionId : String)
    (blocks : List CarryBlockedReason) : CarryTask Unit := do
  (CarryCall.updateCarryExecution executionId
    { status := some .failed
      blockedReasons := some blocks
      lastError := some (some (joinMessages blocks))
      outcomeSummary := some (some (joinMessages blocks))
      outcome := some { blockedReasons := some blocks } }).send
  (CarryCall.failCarryAction action.id executionId (joinMessages blocks)).send
  syncLinkedBundle action
  (CarryCall.auditWrite (blockedEvent input action.id executionId blocks)).send
  .fail (joinMessages blocks)

def unlessBlocked (input : ExecuteCarryInput) (action : CarryAction) (executionId : String)
    (blocks : List CarryBlockedReason) : CarryTask Unit :=
  if blocks = [] then pure () else blockExecution input action executionId blocks

def enforceGuardrails (detail : CarryActionDetail) (executionId : String) : CarryTask Unit := do
  let config ← (CarryCall.getGuardrailConfig "global" "carry").send
  unlessStopped detail.action executionId
    (guardrailStop? config detail.action.id (totalNotional detail.plannedOrders))
  let executing ← CarryCall.getExecutingActionCount.send
  unlessStopped detail.action executionId (concurrencyStop? config detail.action.id executing)

/-! ## Multi-leg plan -/

def PlanLegType.rowType : PlanLegType → LegExecutionType
  | .spot => .spot
  | .perp => .perp
  | .futures => .perp

def createLegExecutions (planId : String) : List PlanLeg → CarryTask Unit
  | [] => pure ()
  | leg :: legs => do
    (CarryCall.createLegExecution
      { id := "", planId, carryActionId := leg.carryActionId, legSequence := leg.legSequence
        legType := leg.legType.rowType, side := leg.side, venueId := leg.venueId
        asset := leg.asset, targetSize := leg.targetSize
        targetNotionalUsd := leg.targetNotionalUsd, executedSize := none
        averageFillPrice := none, status := .pending, lastError := none
        marketSymbol := leg.marketSymbol }).send
    createLegExecutions planId legs

/-- Store a plan with its legs; the plan is known by its id from the moment it is stored. -/
def persistPlan (action : CarryAction) (executionId : String) (plan : MultiLegPlan) :
    CarryTask String := do
  let planId ← (CarryCall.createMultiLegPlan
    { id := "", carryActionId := action.id, strategyRunId := action.strategyRunId
      asset := action.asset.getD "unknown", notionalUsd := plan.notionalUsd
      legCount := plan.legs.length, coordinationConfig := plan.coordinationConfig
      executionOrder := calculateExecutionOrder plan.coordinationConfig plan.legs.length
      status := .pending, outcomeSummary := none }).send
  (do
    createLegExecutions planId plan.legs
    (CarryCall.updateMultiLegPlanStatus planId .executing "Plan execution started").send
    (CarryCall.updateCarryExecution executionId
      { outcome := some
          { blockedReasons := some action.blockedReasons, multiLegPlanId := some planId
            multiLegEnabled := some true } }).send
    return planId).tryCatch fun _ => return planId

/-- The id of the plan, if there are at least two orders and they make a plan; a failure of the
store is not one of the execution. -/
def planOrders (detail : CarryActionDetail) (executionId : String) (now : Date) :
    CarryTask (Option String) :=
  if 2 ≤ detail.plannedOrders.length then
    match (buildMultiLegPlanInput detail.action.id detail.action.strategyRunId
        (detail.action.asset.getD "unknown") detail.plannedOrders).bind
        fun input => createMultiLegPlan input now with
    | .error _ => return none
    | .ok plan =>
      (do
        let planId ← persistPlan detail.action executionId plan
        return some planId).tryCatch fun _ => return none
  else return none

def lookupLegType (plannedOrder : CarryPlannedOrder) : LegExecutionType :=
  let marketIdentity := readCanonicalMarketIdentityFromMetadata plannedOrder.metadata
    { venueId := some plannedOrder.venueId
      asset := some plannedOrder.asset
      marketType := (plannedOrder.metadata.get? "instrumentType").getD .null
      provenance := some .derived
      capturedAtStage := .carryPlannedOrder
      source := "carry_action_order_intents"
      notes :=
        ["Carry planned-order market identity falls back to persisted order metadata when " ++
          "venue-native metadata is unavailable."] }
  if (marketIdentity.any fun i => decide (i.marketType = .perp)) = true ∨
      (plannedOrder.venueId.toLower.splitOn "perp").length ≠ 1 then .perp
  else .spot

/-- The first pending leg on the venue and of the type of the order. -/
def matchingLeg? (plannedOrder : CarryPlannedOrder) (legs : List LegExecutionRow) :
    Option LegExecutionRow :=
  legs.find? fun leg => decide (leg.venueId = plannedOrder.venueId ∧
    leg.legType = lookupLegType plannedOrder ∧ leg.status = .pending)

def pendingLeg? (legs : List LegExecutionRow) : Option LegExecutionRow :=
  legs.find? fun leg => decide (leg.status = .pending)

def firstLegId (legs : List LegExecutionRow) (legType : LegExecutionType) : Option String :=
  (legs.find? fun leg => decide (leg.legType = legType)).map fun leg => leg.id

def completeLeg (plannedOrder : CarryPlannedOrder) (orderRecord : OrderRecord) :
    Option String → CarryTask Unit
  | none => pure ()
  | some planId =>
    (do
      let legExecutions ← (CarryCall.getLegExecutionsForPlan planId).send
      match matchingLeg? plannedOrder legExecutions with
      | none => pure ()
      | some matchingLeg =>
        (CarryCall.updateLegExecutionStatus matchingLeg.id
          { status := .completed
            executedSize := some orderRecord.filledSize
            averageFillPrice := some
              ((orderRecord.averageFillPrice.or plannedOrder.requestedPrice).getD 0) }).send)
    |>.tryCatch fun _ => pure ()

def failLeg (message : String) : Option String → CarryTask Unit
  | none => pure ()
  | some planId =>
    (do
      let legExecutions ← (CarryCall.getLegExecutionsForPlan planId).send
      match pendingLeg? legExecutions with
      | none => pure ()
      | some pendingLeg =>
        (CarryCall.updateLegExecutionStatus pendingLeg.id
          { status := .failed, lastError := some s!"Leg failed: {message}" }).send)
    |>.tryCatch fun _ => pure ()

def legNotional (legs : List LegExecutionRow) (legType : LegExecutionType) : Number :=
  (legs.filter fun leg => decide (leg.legType = legType)).foldl (fun sum leg =>
    sum.add ((Number.ofDecimal (leg.executedSize.getD leg.targetSize)).mul
      (Number.ofDecimal (leg.averageFillPrice.getD 0)))) 0

/-- The difference of the two notionals in percent of their sum. -/
def hedgeDeviation (spotNotional perpNotional : Number) : Number :=
  if 0 < spotNotional.add perpNotional then
    ((Number.div |spotNotional.sub perpNotional| (spotNotional.add perpNotional))).mul 100
  else 0

def imbalanceDirection (spotNotional perpNotional : Number) : ImbalanceDirection :=
  if perpNotional < spotNotional then .spotHeavy
  else if spotNotional < perpNotional then .perpHeavy
  else .balanced

def everyLeg (status : PlanLegStatus) (legs : List LegExecutionRow) : Bool :=
  legs.all fun leg => decide (leg.status = status)

def someLeg (status : PlanLegStatus) (legs : List LegExecutionRow) : Bool :=
  legs.any fun leg => decide (leg.status = status)

/-- The end of a plan: the hedge state and the status of the plan; the deviation is reported even
if the store fails after it is known. -/
def finalizePlan (detail : CarryActionDetail) (legsCompleted legsFailed : ℕ) :
    Option String → CarryTask (Option String)
  | none => pure none
  | some planId =>
    (do
      let legExecutions ← (CarryCall.getLegExecutionsForPlan planId).send
      let spotNotional := legNotional legExecutions .spot
      let perpNotional := legNotional legExecutions .perp
      let deviation := hedgeDeviation spotNotional perpNotional
      let finalHedgeDeviation := Decimal.toFixed deviation 4
      (do
        (CarryCall.recordHedgeState
          { id := "", planId, carryActionId := detail.action.id
            asset := detail.action.asset.getD "unknown", spotLegId := firstLegId legExecutions .spot
            perpLegId := firstLegId legExecutions .perp
            notionalUsd := totalNotional detail.plannedOrders
            hedgeDeviationPct := deviation
            imbalanceDirection := imbalanceDirection spotNotional perpNotional
            imbalanceThresholdBreached := decide (2 ≤ deviation) }).send
        if everyLeg .completed legExecutions ∧ legsFailed = 0 then
          (CarryCall.updateMultiLegPlanStatus planId .completed
            (s!"All {legsCompleted} legs completed successfully, hedge deviation: " ++
              s!"{finalHedgeDeviation}%")).send
        else if someLeg .failed legExecutions ∨ 0 < legsFailed then
          (CarryCall.updateMultiLegPlanStatus planId .partialResult
            (s!"{legsCompleted} legs completed, {legsFailed} legs failed, hedge deviation: " ++
              s!"{finalHedgeDeviation}%")).send
        return some finalHedgeDeviation).tryCatch fun _ => return some finalHedgeDeviation)
    |>.tryCatch fun _ => return none

/-! ## Orders -/

/-- `retryDelayMs` is never waited for. -/
def carryExecutor (venueId : String) : OrderExecutor where
  venueId
  config := { maxRetries := 0, retryDelayMs := 0 }

def readVenueExecutionReference (metadata : Metadata) : Option String :=
  marketValue (metadata.get? venueExecutionReferenceMetadataKey)

def readVenueExecutionMode (metadata : Metadata) : Option VenueOrderExecutionMode :=
  (metadata.string? venueExecutionModeMetadataKey).bind fun text =>
    [VenueOrderExecutionMode.real, .simulated].find? fun mode => decide (mode.text = text)

/-- The event and the fill of an order that the executor returns. -/
def persistExecutionRecord (runId : String) (record : OrderRecord) (now : Date) :
    CarryTask Unit := do
  (CarryCall.persistExecutionEvent
    { runId
      intentId := record.intent.intentId
      clientOrderId := some record.intent.intentId
      venueOrderId := record.venueOrderId
      eventType := "order.execution_recorded"
      status := record.status
      filledSize := record.filledSize
      averageFillPrice := record.averageFillPrice
      feesPaid := record.feesPaid
      executionReference := readVenueExecutionReference record.intent.metadata
      executionMode := readVenueExecutionMode record.intent.metadata
      marketIdentity := readCanonicalMarketIdentityFromMetadata record.intent.metadata
        { venueId := some record.intent.venueId
          asset := some record.intent.asset
          marketType := (record.intent.metadata.get? "instrumentType").getD .null
          provenance := some .derived
          capturedAtStage := .executionResult
          source := "runtime_execution_record"
          notes :=
            ["Execution events expose the best market identity persisted on the runtime order " ++
              "at submission time."] } }).send
  match record.averageFillPrice with
  | none => pure ()
  | some averageFillPrice =>
    if record.filledSize = 0 then pure ()
    else
      (CarryCall.persistFill record.intent.intentId
        { fillId := s!"{record.intent.intentId}-fill-1"
          orderId := record.intent.intentId
          filledSize := record.filledSize
          fillPrice := averageFillPrice
          fee := record.feesPaid.getD 0
          feeAsset := record.intent.asset
          filledAt := (record.completedAt.or record.submittedAt).getD now }).send

def recordOrder (action : CarryAction) (record : OrderRecord) (now : Date) : CarryTask Unit :=
  match action.strategyRunId with
  | none => pure ()
  | some runId => persistExecutionRecord runId record now

def CarryPlannedOrder.toIntent (plannedOrder : CarryPlannedOrder) (opportunityId : String)
    (metadata : Metadata) : OrderIntent where
  intentId := plannedOrder.intentId
  venueId := plannedOrder.venueId
  asset := plannedOrder.asset
  side := plannedOrder.side
  type := plannedOrder.orderType
  size := plannedOrder.requestedSize
  limitPrice := plannedOrder.requestedPrice
  opportunityId
  reduceOnly := plannedOrder.reduceOnly
  createdAt := plannedOrder.createdAt
  metadata

def unregisteredVenue (action : CarryAction) (venueId : String) : CarryVenueView where
  venueId
  venueMode := if action.simulated then .simulated else .live
  executionSupported := false
  readOnly := true
  approvedForLiveUse := false
  sensitiveExecutionEligible := false
  promotionStatus := .notRequested
  promotionBlockedReasons := ["carry_venue_not_registered"]
  onboardingState := .readOnly

def CarryPlannedOrder.toStep (plannedOrder : CarryPlannedOrder) (action : CarryAction)
    (executionId : String) (venue : CarryVenueView) (metadata : Metadata) :
    CarryExecutionStep where
  id := ""
  carryExecutionId := executionId
  carryActionId := action.id
  strategyRunId := action.strategyRunId
  plannedOrderId := some plannedOrder.id
  intentId := plannedOrder.intentId
  venueId := plannedOrder.venueId
  venueMode := venue.venueMode
  executionSupported := venue.executionSupported
  readOnly := venue.readOnly
  approvedForLiveUse := venue.approvedForLiveUse
  onboardingState := venue.onboardingState
  asset := plannedOrder.asset
  side := plannedOrder.side
  orderType := plannedOrder.orderType
  requestedSize := plannedOrder.requestedSize
  requestedPrice := plannedOrder.requestedPrice
  reduceOnly := plannedOrder.reduceOnly
  clientOrderId := some plannedOrder.intentId
  venueOrderId := none
  executionReference := none
  status := .pending
  simulated := action.simulated
  filledSize := none
  averageFillPrice := none
  outcomeSummary := none
  outcome := {}
  lastError := none
  metadata

def recordedStep (action : CarryAction) (plannedOrder : CarryPlannedOrder)
    (orderRecord : OrderRecord) (executionReference : String) : CarryStepPatch where
  clientOrderId := some (some plannedOrder.intentId)
  venueOrderId := some orderRecord.venueOrderId
  executionReference := some (some executionReference)
  status := some orderRecord.status
  simulated := some action.simulated
  filledSize := some (some orderRecord.filledSize)
  averageFillPrice := some orderRecord.averageFillPrice
  outcomeSummary := some (some (orderRecord.lastError.getD
    s!"Execution step completed with status {orderRecord.status.text}."))
  outcome := some
    { attemptCount := some orderRecord.attemptCount
      feesPaid := some orderRecord.feesPaid
      fillCount := some orderRecord.fills.length
      submittedAt := some orderRecord.submittedAt
      executionReference := some (some executionReference)
      executionMode := some (readVenueExecutionMode orderRecord.intent.metadata)
      marketIdentity := some (readCanonicalMarketIdentityFromMetadata orderRecord.intent.metadata
        { venueId := some orderRecord.intent.venueId
          asset := some orderRecord.intent.asset
          marketType := (orderRecord.intent.metadata.get? "instrumentType").getD .null
          provenance := some .derived
          capturedAtStage := .carryExecutionStep
          source := "carry_action_execution"
          notes :=
            ["Carry execution outcomes expose the best market identity available after order " ++
              "submission."] }) }
  lastError := some orderRecord.lastError
  metadata := some orderRecord.intent.metadata

/-- The reference that a step records; it is never missing. -/
def stepReference (plannedOrder : CarryPlannedOrder) (orderRecord : OrderRecord) : String :=
  ((readVenueExecutionReference orderRecord.intent.metadata).or
    orderRecord.venueOrderId).getD plannedOrder.intentId

structure ExecutionContext where
  runtime : SentinelRuntime
  detail : CarryActionDetail
  executionId : String
  venues : List CarryVenueView
  planId : Option String
  readings : ℕ → StepReadings

namespace ExecutionContext

variable (ctx : ExecutionContext)

/-- The body of the `try` block of a step: the status of the returned record is not consulted. -/
def attemptOrder (plannedOrder : CarryPlannedOrder) (step : CarryExecutionStep)
    (metadata : Metadata) (readings : StepReadings) : CarryTask CarryOrderResult := do
  let action := ctx.detail.action
  let orderRecord ← onBehalfOf action.id plannedOrder.venueId
    ((carryExecutor plannedOrder.venueId).submitIntent
      (plannedOrder.toIntent (action.opportunityId.getD readings.opportunityId) metadata)
      readings.submit)
  recordOrder action orderRecord readings.filledAt
  let executionReference := stepReference plannedOrder orderRecord
  (CarryCall.updateCarryExecutionStep step.id
    (recordedStep action plannedOrder orderRecord executionReference)).send
  completeLeg plannedOrder orderRecord ctx.planId
  return {
    stepId := step.id
    intentId := plannedOrder.intentId
    clientOrderId := plannedOrder.intentId
    venueOrderId := orderRecord.venueOrderId
    status := orderRecord.status
    filledSize := orderRecord.filledSize
    averageFillPrice := orderRecord.averageFillPrice
    executionReference := some executionReference
    executionMode := readVenueExecutionMode orderRecord.intent.metadata }

/-- The `catch` block of a step. -/
def failStep (stepId : String) (orderResults : List CarryOrderResult) (message : String) :
    CarryTask CarryOrderResult := do
  (CarryCall.updateCarryExecutionStep stepId
    { status := some .failed
      simulated := some ctx.detail.action.simulated
      outcomeSummary := some (some message)
      outcome := some { attempted := some true }
      lastError := some (some message) }).send
  failLeg message ctx.planId
  (CarryCall.updateCarryExecution ctx.executionId
    { status := some .failed
      lastError := some (some message)
      outcomeSummary := some (some message)
      outcome := some { orderResults := some orderResults } }).send
  (CarryCall.failCarryAction ctx.detail.action.id ctx.executionId message).send
  syncLinkedBundle ctx.detail.action
  .fail message

def refuseVenue (stepId venueId : String) : CarryTask CarryOrderResult := do
  let message := s!"Carry venue \"{venueId}\" is not registered."
  (CarryCall.updateCarryExecutionStep stepId
    { status := some .failed
      outcomeSummary := some (some message)
      lastError := some (some message)
      outcome := some { attempted := some false } }).send
  (CarryCall.updateCarryExecution ctx.executionId
    { status := some .failed, lastError := some (some message) }).send
  (CarryCall.failCarryAction ctx.detail.action.id ctx.executionId message).send
  syncLinkedBundle ctx.detail.action
  .fail message

def submitOrder (plannedOrder : CarryPlannedOrder) (readings : StepReadings)
    (orderResults : List CarryOrderResult) : CarryTask CarryOrderResult := do
  let venue := (venueById ctx.venues plannedOrder.venueId).getD
    (unregisteredVenue ctx.detail.action plannedOrder.venueId)
  if ctx.runtime.adapters.contains plannedOrder.venueId then do
    let metadata ← buildCarryExecutionStepMetadata plannedOrder readings.capturedAt
    let step ← (CarryCall.createCarryExecutionStep
      (plannedOrder.toStep ctx.detail.action ctx.executionId venue metadata)).send
    (ctx.attemptOrder plannedOrder step metadata readings).tryCatch
      (ctx.failStep step.id orderResults)
  else do
    let step ← (CarryCall.createCarryExecutionStep
      (plannedOrder.toStep ctx.detail.action ctx.executionId venue plannedOrder.metadata)).send
    ctx.refuseVenue step.id plannedOrder.venueId

/-- The loop over the planned orders; `position` counts them. -/
def submitOrders (position : ℕ) :
    List CarryPlannedOrder → List CarryOrderResult → CarryTask (List CarryOrderResult)
  | [], orderResults => pure orderResults
  | plannedOrder :: rest, orderResults => do
    let result ← ctx.submitOrder plannedOrder (ctx.readings position) orderResults
    submitOrders (position + 1) rest (orderResults ++ [result])

end ExecutionContext

/-! ## The whole execution -/

/-- The outcome of a completed execution: every order that was returned counts as a completed leg,
and none as a failed one. -/
def completedOutcome (orderResults : List CarryOrderResult) (planId : Option String)
    (finalHedgeDeviation : Option String) : CarryOutcome where
  stepCount := some orderResults.length
  orderResults := some orderResults
  executionModes := some (orderResults.filterMap fun result => result.executionMode).dedup
  guardrailViolations := some []
  multiLegPlanId := planId
  legsCompleted := some orderResults.length
  legsFailed := some 0
  finalHedgeDeviation

def executionReferences (orderResults : List CarryOrderResult) : List String :=
  (orderResults.filterMap fun result => result.executionReference).filter fun r => decide (r ≠ "")

def executedEvent (input : ExecuteCarryInput) (action : CarryAction) (executionId : String)
    (orderResults : List CarryOrderResult) : SleeveAuditEvent where
  eventType := "carry.executed"
  actorType := "operator"
  actorId := input.actorId
  sleeveId := "carry"
  data := [("carryActionId", .str action.id), ("executionId", .str executionId),
    ("orderCount", .num orderResults.length), ("simulated", .bool action.simulated),
    ("venueExecutionReferences", .arr ((executionReferences orderResults).map .str))]

/-- The part of the execution that follows the loop. -/
def completeExecution (input : ExecuteCarryInput) (ctx : ExecutionContext)
    (orderResults : List CarryOrderResult) : CarryTask ExecuteCarryResult := do
  let action := ctx.detail.action
  let finalHedgeDeviation ← finalizePlan ctx.detail orderResults.length 0 ctx.planId
  (CarryCall.updateCarryExecution ctx.executionId
    { status := some .completed
      outcomeSummary := some (some
        (if action.simulated then "Carry action completed against simulated venues."
        else "Carry action completed against live venues."))
      outcome := some (completedOutcome orderResults ctx.planId finalHedgeDeviation)
      venueExecutionReference := some (some (",".intercalate
        (executionReferences orderResults))) }).send
  (CarryCall.completeCarryAction action.id ctx.executionId).send
  (CarryCall.refreshVenueTruthInventory
    (ctx.detail.plannedOrders.map fun plannedOrder => plannedOrder.venueId).dedup).send
  (CarryCall.refreshInternalDerivativeState action.strategyRunId ctx.executionId).send
  syncLinkedBundle action
  (CarryCall.auditWrite (executedEvent input action ctx.executionId orderResults)).send
  return {
    actionId := action.id
    executionId := ctx.executionId
    orderCount := orderResults.length
    guardrailViolations := [] }

/-- The part of the execution that follows the check that the action is executable. -/
def runExecution (runtime : SentinelRuntime) (input : ExecuteCarryInput)
    (readings : ℕ → StepReadings) (now : Date) (detail : CarryActionDetail)
    (executionId : String) : CarryTask ExecuteCarryResult := do
  (CarryCall.markCarryActionExecuting detail.action.id).send
  let venues ← (CarryCall.collectCarryVenueViews detail.action.strategyRunId).send
  unlessBlocked input detail.action executionId (currentConnectorBlocks detail venues)
  enforceGuardrails detail executionId
  let planId ← planOrders detail executionId now
  let ctx : ExecutionContext := { runtime, detail, executionId, venues, planId, readings }
  let orderResults ← ctx.submitOrders 0 detail.plannedOrders []
  completeExecution input ctx orderResults

/-- An action that is not executable is failed at once. -/
def refuseExecution (action : CarryAction) (executionId : String) :
    CarryTask ExecuteCarryResult := do
  (CarryCall.failCarryAction action.id executionId (joinMessages action.blockedReasons)).send
  syncLinkedBundle action
  .fail (joinMessages action.blockedReasons)

def executionInput (input : ExecuteCarryInput) (action : CarryAction) :
    CarryExecutionInput where
  carryActionId := action.id
  strategyRunId := action.strategyRunId
  commandId := input.commandId
  status := if action.executable then .executing else .failed
  executionMode := action.executionMode
  simulated := action.simulated
  requestedBy := input.actorId
  startedBy := some input.startedBy
  blockedReasons := action.blockedReasons
  lastError := if action.executable then none else some (joinMessages action.blockedReasons)
  outcome := { blockedReasons := some action.blockedReasons }

def executeCarryAction (runtime : SentinelRuntime) (input : ExecuteCarryInput)
    (readings : ℕ → StepReadings) (now : Date) : CarryTask ExecuteCarryResult := do
  match ← (CarryCall.getCarryAction input.actionId).send with
  | none => .fail s!"Carry action \"{input.actionId}\" was not found."
  | some detail =>
    if detail.action.status ≠ .queued ∧ detail.action.status ≠ .approved then
      .fail (s!"Carry action \"{input.actionId}\" is not executable from status " ++
        s!"\"{detail.action.status.text}\".")
    else do
      let execution ← (CarryCall.createCarryExecution (executionInput input detail.action)).send
      if detail.action.executable then
        runExecution runtime input readings now detail execution.id
      else refuseExecution detail.action execution.id

/-! ## The world -/

/-- What the awaits of an execution meet besides the store: the answers of the venues, by the
number of the step that is under way or by the number of the call, the faults of the store and of
the audit writer, and the clock of the store. -/
structure CarryEnvironment where
  placeOrder : ℕ → Except String PlaceOrderResult
  getOrder : ℕ → Except String (Option PlaceOrderResult)
  cancelOrder : ℕ → Except String CancelOrderResult
  getPositions : ℕ → Except String (List VenuePosition)
  venueViews : ℕ → Except String (List CarryVenueView)
  refreshes : ℕ → Except String Unit
  faults : ℕ → Option StoreFault
  clock : ℕ → Date

/-- The tables, the orders, the orders that venues have accepted (action and client order id), the
number of steps created and the number of calls. -/
structure CarryWorld where
  tables : CarryTables
  orders : RuntimeOrderStore
  accepted : List (String × String)
  steps : ℕ
  calls : ℕ

abbrev CarryEvent := Event CarryCall CarryCall.Reply String CarryWorld

/-- The calls of the executor on the order store; the answers of the venue are given. -/
def orderCall (env : CarryEnvironment) (step call : ℕ) (orders : RuntimeOrderStore) :
    (c : Call) → Except String c.Reply × RuntimeOrderStore
  | .getByClientId id => (.ok (orders.getByClientId id), orders)
  | .save record => orders.save record (env.clock call)
  | .updateStatus id status updates => orders.updateStatus id status updates (env.clock call)
  | .placeOrder _ => (env.placeOrder step, orders)
  | .getOrder _ => (env.getOrder step, orders)
  | .cancelOrder _ => (env.cancelOrder step, orders)
  | .auditWrite _ => (.ok (), orders)
  | .sleep _ => (.ok (), orders)

def acceptedAfter (env : CarryEnvironment) (step : ℕ) (carryActionId : String)
    (accepted : List (String × String)) : Call → List (String × String)
  | .placeOrder params =>
    match env.placeOrder step with
    | .ok result =>
      if result.status = .rejected then accepted
      else accepted ++ [(carryActionId, params.clientOrderId)]
    | .error _ => accepted
  | _ => accepted

def performCarry (env : CarryEnvironment) (w : CarryWorld) :
    (c : CarryCall) → Except String c.Reply × CarryWorld
  | .getCarryAction id => (.ok (w.tables.getCarryAction id), w)
  | .createCarryExecution input =>
    let answer := w.tables.createCarryExecution input
    (.ok answer.1, { w with tables := answer.2 })
  | .failCarryAction id executionId message =>
    (.ok (), { w with tables := w.tables.failCarryAction id executionId message })
  | .markCarryActionExecuting id =>
    (.ok (), { w with tables := w.tables.markCarryActionExecuting id })
  | .completeCarryAction id executionId =>
    (.ok (), { w with tables := w.tables.completeCarryAction id executionId })
  | .updateCarryExecution id p =>
    (.ok (), { w with tables := w.tables.updateCarryExecution id p })
  | .createCarryExecutionStep step =>
    let answer := w.tables.createCarryExecutionStep step
    (.ok answer.1, { w with tables := answer.2, steps := w.steps + 1 })
  | .updateCarryExecutionStep id p =>
    (.ok (), { w with tables := w.tables.updateCarryExecutionStep id p })
  | .getGuardrailConfig scopeType scopeId =>
    (.ok (w.tables.getGuardrailConfig scopeType scopeId), w)
  | .recordGuardrailViolation violation =>
    (.ok (), { w with tables := w.tables.recordGuardrailViolation violation })
  | .getExecutingActionCount => (.ok w.tables.getExecutingActionCount, w)
  | .createMultiLegPlan plan =>
    let answer := w.tables.createMultiLegPlan plan
    (.ok answer.1, { w with tables := answer.2 })
  | .createLegExecution leg => (.ok (), { w with tables := w.tables.createLegExecution leg })
  | .getLegExecutionsForPlan planId => (.ok (w.tables.getLegExecutionsForPlan planId), w)
  | .updateLegExecutionStatus id p =>
    (.ok (), { w with tables := w.tables.updateLegExecutionStatus id p })
  | .updateMultiLegPlanStatus id status summary =>
    (.ok (), { w with tables := w.tables.updateMultiLegPlanStatus id status summary })
  | .recordHedgeState state => (.ok (), { w with tables := w.tables.recordHedgeState state })
  | .persistExecutionEvent event =>
    (.ok (), { w with tables := w.tables.persistExecutionEvent event })
  | .persistFill orderId fill =>
    (.ok (), { w with
      orders := { w.orders.persistFill orderId fill (toString w.orders.nextId)
          (env.clock w.calls) with nextId := w.orders.nextId + 1 } })
  | .syncRebalanceBundleForProposal _ => (.ok (), w)
  | .auditWrite _ => (.ok (), w)
  | .collectCarryVenueViews _ => (env.venueViews w.calls, w)
  | .refreshVenueTruthInventory _ => (env.refreshes w.calls, w)
  | .refreshInternalDerivativeState .. => (env.refreshes w.calls, w)
  | .getPositions _ => (env.getPositions w.calls, w)
  | .executor carryActionId _ c =>
    let answer := orderCall env (w.steps - 1) w.calls w.orders c
    (answer.1, { w with
      orders := answer.2
      accepted := acceptedAfter env (w.steps - 1) carryActionId w.accepted c })

/-- The calls that go to a venue: an exception of them is an answer of the venue. -/
def CarryCall.asksVenue : CarryCall → Bool
  | .collectCarryVenueViews _ => true
  | .refreshVenueTruthInventory _ => true
  | .refreshInternalDerivativeState .. => true
  | .getPositions _ => true
  | .executor _ _ (.placeOrder _) => true
  | .executor _ _ (.getOrder _) => true
  | .executor _ _ (.cancelOrder _) => true
  | _ => false

def handleCarry (env : CarryEnvironment) :
    Handler CarryCall CarryCall.Reply String CarryWorld := fun c w =>
  let answer := performCarry env w c
  match if c.asksVenue then none else env.faults w.calls with
  | none => (answer.1, { answer.2 with calls := w.calls + 1 })
  | some (.requestLost message) => (.error message, { w with calls := w.calls + 1 })
  | some (.answerLost message) => (.error message, { answer.2 with calls := w.calls + 1 })

end SentinelApex
