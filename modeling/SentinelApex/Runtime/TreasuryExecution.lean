import SentinelApex.Execution.Session
import SentinelApex.Runtime.TreasuryTables
import SentinelApex.StrategyEngine.PortfolioStateTracker

/-!
# Execution of treasury actions

`executeTreasuryAction` and `runTreasuryEvaluation` as tasks over the calls that they await: the
store, statement by statement where a method has several, the treasury adapters, the portfolio
tracker and the audit writer. The generated run id of an evaluation is an argument.

The balances that are stored after an execution come from the planner's effects, which start from
the liquidity reserve of the portfolio.
-/

namespace SentinelApex

open Async

/-! ## Calls -/

structure VenuePromotion where
  venueId : String
  approvedForLiveUse : Bool
  sensitiveExecutionEligible : Bool
  promotionStatus : PromotionStatus
  blockers : List String

inductive TreasuryCall where
  | getTreasuryAction (actionId : String)
  | approveTreasuryAction (actionId : String)
  | queueTreasuryActionExecution (actionId commandId : String)
  | markTreasuryActionExecuting (actionId : String)
  | completeTreasuryAction (actionId latestExecutionId : String)
  | failTreasuryAction (actionId latestExecutionId errorMessage : String)
  | createTreasuryAction (input : TreasuryActionInput)
  | createTreasuryActions (inputs : List TreasuryActionInput)
  | createTreasuryExecution (input : TreasuryExecutionInput)
  | updateTreasuryExecution (executionId : String) (p : TreasuryExecutionPatch)
  | insertTreasuryRun (treasuryRunId : String)
  | upsertTreasuryCurrent (treasuryRunId : String) (cashBalanceUsd : Decimal)
  | getTreasurySummary
  | getTreasuryCashBalanceUsd
  | setTreasuryCashBalanceUsd (cashBalanceUsd : Decimal)
  | listVenues
  | syncRebalanceBundleForProposal (proposalId : String)
  | auditWrite (event : SleeveAuditEvent)
  | refreshPortfolio
  | refreshVenueTruthInventory
  | getVenueState (venueId : String)
  | getPosition (venueId : String)
  | getCapabilities (venueId : String)
  | executeTreasuryAction (treasuryActionId venueId : String)
      (request : TreasuryVenueExecutionRequest)

abbrev TreasuryCall.Reply : TreasuryCall → Type
  | getTreasuryAction _ => Option TreasuryActionDetail
  | approveTreasuryAction _ => Unit
  | queueTreasuryActionExecution .. => Unit
  | markTreasuryActionExecuting _ => Unit
  | completeTreasuryAction .. => Unit
  | failTreasuryAction .. => Unit
  | createTreasuryAction _ => TreasuryAction
  | createTreasuryActions _ => Unit
  | createTreasuryExecution _ => TreasuryExecution
  | updateTreasuryExecution .. => Unit
  | insertTreasuryRun _ => Unit
  | upsertTreasuryCurrent .. => Unit
  | getTreasurySummary => Option String
  | getTreasuryCashBalanceUsd => Option Decimal
  | setTreasuryCashBalanceUsd _ => Unit
  | listVenues => List VenuePromotion
  | syncRebalanceBundleForProposal _ => Unit
  | auditWrite _ => Unit
  | refreshPortfolio => PortfolioState
  | refreshVenueTruthInventory => Unit
  | getVenueState _ => TreasuryVenueState
  | getPosition _ => TreasuryVenuePosition
  | getCapabilities _ => TreasuryVenueCapabilities
  | executeTreasuryAction .. => TreasuryVenueExecutionResult

abbrev TreasuryTask (α : Type) := Task TreasuryCall TreasuryCall.Reply String α

abbrev TreasuryCall.send (c : TreasuryCall) : TreasuryTask c.Reply := Task.call c

/-! ## Inputs -/

structure TreasuryRuntime where
  treasuryAdapters : List String
  treasuryPolicy : TreasuryPolicy
  executionMode : ActionExecutionMode
  liveExecutionEnabled : Bool

structure ExecuteTreasuryInput where
  actionId : String
  actorId : String
  commandId : Option String
  startedBy : String

structure ExecuteTreasuryResult where
  actionId : String
  executionId : String
  treasuryRunId : String
  venueExecutionReference : Option String
  simulated : Bool

namespace TreasuryRuntime

variable (runtime : TreasuryRuntime)

/-! ## Evaluation -/

def collectTreasuryVenueSnapshots : List String → TreasuryTask (List TreasuryVenueSnapshot)
  | [] => pure []
  | venueId :: venueIds => do
    let venueState ← (TreasuryCall.getVenueState venueId).send
    let position ← (TreasuryCall.getPosition venueId).send
    let snapshots ← collectTreasuryVenueSnapshots venueIds
    return {
      venueId := venueState.venueId
      venueName := venueState.venueName
      mode := venueState.mode
      liquidityTier := venueState.liquidityTier
      healthy := venueState.healthy
      aprBps := venueState.aprBps
      availableCapacityUsd := venueState.availableCapacityUsd
      currentAllocationUsd := position.currentAllocationUsd
      withdrawalAvailableUsd := position.withdrawalAvailableUsd
      concentrationPct := 0 } :: snapshots

def promoted (promotions : List VenuePromotion) (capabilities : TreasuryVenueCapabilities) :
    TreasuryVenueCapabilities :=
  let promotion := promotions.reverse.find? fun venue =>
    decide (venue.venueId = capabilities.venueId)
  { capabilities with
    approvedForLiveUse := promotion.any fun venue => venue.approvedForLiveUse
    sensitiveExecutionEligible := promotion.any fun venue => venue.sensitiveExecutionEligible
    promotionStatus := promotion.elim .notRequested fun venue => venue.promotionStatus
    promotionBlockedReasons :=
      promotion.elim capabilities.missingPrerequisites fun venue => venue.blockers }

def collectCapabilities (promotions : List VenuePromotion) :
    List String → TreasuryTask (List TreasuryVenueCapabilities)
  | [] => pure []
  | venueId :: venueIds => do
    let venueCapabilities ← (TreasuryCall.getCapabilities venueId).send
    let capabilities ← collectCapabilities promotions venueIds
    return promoted promotions venueCapabilities :: capabilities

def collectTreasuryVenueCapabilities : TreasuryTask (List TreasuryVenueCapabilities) := do
  let promotions ← TreasuryCall.listVenues.send
  collectCapabilities promotions runtime.treasuryAdapters

def planningInput (evaluation : TreasuryEvaluation)
    (venueCapabilities : List TreasuryVenueCapabilities) : TreasuryPlanningInput where
  evaluation
  policy := runtime.treasuryPolicy
  executionMode := runtime.executionMode
  liveExecutionEnabled := runtime.liveExecutionEnabled
  venueCapabilities

def insertIntents (treasuryRunId : String) (intents : List TreasuryExecutionIntent) :
    TreasuryTask Unit :=
  if intents.isEmpty then pure ()
  else (TreasuryCall.createTreasuryActions
    (intents.map fun intent => intent.toInput treasuryRunId)).send

/-- The statements of `persistTreasuryEvaluation`; they are not one transaction. -/
def persistTreasuryEvaluation (treasuryRunId : String) (evaluation : TreasuryEvaluation)
    (intents : List TreasuryExecutionIntent) : TreasuryTask Unit := do
  (TreasuryCall.insertTreasuryRun treasuryRunId).send
  insertIntents treasuryRunId intents
  (TreasuryCall.upsertTreasuryCurrent treasuryRunId evaluation.reserveStatus.idleCapitalUsd).send

def evaluatedEvent (actorId treasuryRunId : String) (evaluation : TreasuryEvaluation) :
    SleeveAuditEvent where
  eventType := "treasury.evaluated"
  actorType := "operator"
  actorId := actorId
  sleeveId := "treasury"
  data := [("treasuryRunId", .str treasuryRunId),
    ("actionCount", .num evaluation.recommendations.length),
    ("reserveShortfallUsd", .str (usdText evaluation.reserveStatus.reserveShortfallUsd)),
    ("surplusCapitalUsd", .str (usdText evaluation.reserveStatus.surplusCapitalUsd))]

def portfolioStateOr : Option PortfolioState → TreasuryTask PortfolioState
  | some portfolioState => pure portfolioState
  | none => TreasuryCall.refreshPortfolio.send

/-- Evaluate with the given idle capital, else with the stored cash, else with the liquidity
reserve; the idle capital becomes the stored cash. -/
def runTreasuryEvaluation (actorId treasuryRunId : String)
    (givenPortfolioState : Option PortfolioState) (idleCapitalUsdOverride : Option Decimal) :
    TreasuryTask String := do
  let portfolioState ← portfolioStateOr givenPortfolioState
  let venueSnapshots ← collectTreasuryVenueSnapshots runtime.treasuryAdapters
  let venueCapabilities ← runtime.collectTreasuryVenueCapabilities
  let persistedCashBalanceUsd ← TreasuryCall.getTreasuryCashBalanceUsd.send
  let evaluation := TreasuryPolicyEngine.evaluate runtime.treasuryPolicy
    ((idleCapitalUsdOverride.or persistedCashBalanceUsd).getD portfolioState.liquidityReserve)
    venueSnapshots
  persistTreasuryEvaluation treasuryRunId evaluation
    (TreasuryExecutionPlanner.createExecutionIntents
      (runtime.planningInput evaluation venueCapabilities))
  TreasuryCall.refreshVenueTruthInventory.send
  (TreasuryCall.auditWrite (evaluatedEvent actorId treasuryRunId evaluation)).send
  match ← TreasuryCall.getTreasurySummary.send with
  | none => .fail (s!"SentinelRuntime.runTreasuryEvaluation: treasury run \"{treasuryRunId}\" " ++
      "was not persisted")
  | some latestRunId => pure latestRunId

/-! ## Execution -/

def syncLinkedTreasuryBundle (action : TreasuryAction) : TreasuryTask Unit :=
  match action.linkedRebalanceProposalId with
  | none => pure ()
  | some proposalId => (TreasuryCall.syncRebalanceBundleForProposal proposalId).send

/-- `reasons.map((reason) => reason.message).join('; ')`. -/
def joinTreasuryMessages (reasons : List TreasuryActionBlockedReason) : String :=
  "; ".intercalate (reasons.map fun reason => reason.message)

def TreasuryExecutionEffects.toJson (effects : TreasuryExecutionEffects) : Json :=
  let optional (value : Option Decimal) : Json := value.elim .null fun x => .str (usdText x)
  .obj
    [("totalCapitalUsd", .str (usdText effects.totalCapitalUsd)),
      ("idleCapitalUsd", .str (usdText effects.idleCapitalUsd)),
      ("allocatedCapitalUsd", .str (usdText effects.allocatedCapitalUsd)),
      ("requiredReserveUsd", .str (usdText effects.requiredReserveUsd)),
      ("minimumRemainingIdleUsd", .str (usdText effects.minimumRemainingIdleUsd)),
      ("reserveShortfallUsd", .str (usdText effects.reserveShortfallUsd)),
      ("targetVenueAllocationUsd", optional effects.targetVenueAllocationUsd),
      ("targetVenueConcentrationPct", optional effects.targetVenueConcentrationPct)]

/-- An action that changes the budget is completed without a venue. -/
def applyBudget (input : ExecuteTreasuryInput) (action : TreasuryAction) :
    TreasuryTask ExecuteTreasuryResult := do
  let outcome := ("executionKind", .str "budget_state_application") :: action.details
  let execution ← (TreasuryCall.createTreasuryExecution
    { treasuryActionId := action.id
      treasuryRunId := action.treasuryRunId
      commandId := input.commandId
      status := .executing
      executionMode := action.executionMode
      venueMode := .reserve
      simulated := action.simulated
      requestedBy := input.actorId
      startedBy := some input.startedBy
      blockedReasons := []
      outcome }).send
  (TreasuryCall.updateTreasuryExecution execution.id
    { status := some .completed
      outcomeSummary := some (some
        "Treasury budget-state action completed without venue-native execution.")
      outcome := some outcome
      lastError := some none }).send
  (TreasuryCall.completeTreasuryAction action.id execution.id).send
  syncLinkedTreasuryBundle action
  return {
    actionId := action.id
    executionId := execution.id
    treasuryRunId := action.treasuryRunId
    venueExecutionReference := none
    simulated := action.simulated }

def recommendationOf (action : TreasuryAction) : TreasuryRecommendation where
  actionType := if action.actionType = .allocateToVenue then .deposit else .redeem
  venueId := action.venueId
  amountUsd := action.amountUsd
  reasonCode := action.reasonCode
  summary := action.summary
  details := action.details

def executionIntent (action : TreasuryAction) (portfolioState : PortfolioState)
    (venueSnapshots : List TreasuryVenueSnapshot)
    (venueCapabilities : List TreasuryVenueCapabilities) : TreasuryExecutionIntent :=
  let evaluation := TreasuryPolicyEngine.evaluate runtime.treasuryPolicy
    portfolioState.liquidityReserve venueSnapshots
  TreasuryExecutionPlanner.createIntentForRecommendation
    (runtime.planningInput { evaluation with recommendations := [recommendationOf action] }
      venueCapabilities)
    (recommendationOf action)

def blockedReasonJson (reason : TreasuryActionBlockedReason) : Json :=
  .obj
    [("code", .str reason.code), ("category", .str reason.category),
      ("message", .str reason.message), ("operatorAction", .str reason.operatorAction),
      ("details", .obj reason.details)]

def executionBlockedEvent (input : ExecuteTreasuryInput) (actionId executionId : String)
    (reasons : List TreasuryActionBlockedReason) : SleeveAuditEvent where
  eventType := "treasury.execution_blocked"
  actorType := "operator"
  actorId := input.actorId
  sleeveId := "treasury"
  data := [("treasuryActionId", .str actionId), ("executionId", .str executionId),
    ("blockedReasons", .arr (reasons.map blockedReasonJson))]

def treasuryExecutionInput (input : ExecuteTreasuryInput) (action : TreasuryAction)
    (intent : TreasuryExecutionIntent) : TreasuryExecutionInput where
  treasuryActionId := action.id
  treasuryRunId := action.treasuryRunId
  commandId := input.commandId
  status := if intent.executable then .executing else .failed
  executionMode := intent.executionMode
  venueMode := intent.venueMode
  simulated := intent.simulated
  requestedBy := input.actorId
  startedBy := some input.startedBy
  blockedReasons := intent.blockedReasons
  outcome := [("executionPlan", TreasuryExecutionEffects.toJson intent.effects)]
  lastError :=
    if intent.executable then none else some (joinTreasuryMessages intent.blockedReasons)

def refuseBlocked (input : ExecuteTreasuryInput) (action : TreasuryAction) (executionId : String)
    (intent : TreasuryExecutionIntent) : TreasuryTask ExecuteTreasuryResult := do
  let message := joinTreasuryMessages intent.blockedReasons
  (TreasuryCall.failTreasuryAction action.id executionId message).send
  syncLinkedTreasuryBundle action
  (TreasuryCall.auditWrite
    (executionBlockedEvent input action.id executionId intent.blockedReasons)).send
  .fail message

/-- An action without a venue, or with one that has no adapter, fails. -/
def refuseUntargeted (action : TreasuryAction) (executionId message : String) :
    TreasuryTask ExecuteTreasuryResult := do
  (TreasuryCall.updateTreasuryExecution executionId
    { status := some .failed, lastError := some (some message) }).send
  (TreasuryCall.failTreasuryAction action.id executionId message).send
  syncLinkedTreasuryBundle action
  .fail message

/-- What the adapter is asked for. -/
def venueRequest (input : ExecuteTreasuryInput) (action : TreasuryAction) :
    TreasuryVenueExecutionRequest where
  actionType := action.actionType
  amountUsd := action.amountUsd
  actorId := input.actorId
  reasonCode := action.reasonCode
  executionMode := action.executionMode

def executedPatch (result : TreasuryVenueExecutionResult) (followUpRunId : String) :
    TreasuryExecutionPatch where
  status := some .completed
  outcomeSummary := some (some result.summary)
  outcome := some
    [("balanceDeltaUsd", .str (usdText result.balanceDeltaUsd)),
      ("allocationUsd", .str (usdText result.allocationUsd)),
      ("withdrawalAvailableUsd", .str (usdText result.withdrawalAvailableUsd)),
      ("followUpTreasuryRunId", .str followUpRunId), ("metadata", .obj result.metadata)]
  venueExecutionReference := some (some result.executionReference)
  lastError := some none

def treasuryExecutedEvent (input : ExecuteTreasuryInput) (actionId executionId : String)
    (result : TreasuryVenueExecutionResult) (followUpRunId : String) : SleeveAuditEvent where
  eventType := "treasury.executed"
  actorType := "operator"
  actorId := input.actorId
  sleeveId := "treasury"
  data := [("treasuryActionId", .str actionId), ("executionId", .str executionId),
    ("venueExecutionReference", .str result.executionReference),
    ("followUpTreasuryRunId", .str followUpRunId), ("simulated", .bool result.simulated)]

/-- What follows the answer of the venue: the cash is overwritten with the planned balance. -/
def recordMove (input : ExecuteTreasuryInput) (treasuryRunId : String) (action : TreasuryAction)
    (executionId : String) (portfolioState : PortfolioState) (intent : TreasuryExecutionIntent)
    (result : TreasuryVenueExecutionResult) : TreasuryTask ExecuteTreasuryResult := do
  (TreasuryCall.setTreasuryCashBalanceUsd intent.effects.idleCapitalUsd).send
  let followUpRunId ← runtime.runTreasuryEvaluation input.actorId treasuryRunId
    (some portfolioState) (some intent.effects.idleCapitalUsd)
  (TreasuryCall.updateTreasuryExecution executionId (executedPatch result followUpRunId)).send
  (TreasuryCall.completeTreasuryAction action.id executionId).send
  syncLinkedTreasuryBundle action
  (TreasuryCall.auditWrite
    (treasuryExecutedEvent input action.id executionId result followUpRunId)).send
  return {
    actionId := action.id
    executionId
    treasuryRunId := followUpRunId
    venueExecutionReference := some result.executionReference
    simulated := result.simulated }

def executionFailedEvent (input : ExecuteTreasuryInput) (actionId executionId message : String) :
    SleeveAuditEvent where
  eventType := "treasury.execution_failed"
  actorType := "operator"
  actorId := input.actorId
  sleeveId := "treasury"
  data := [("treasuryActionId", .str actionId), ("executionId", .str executionId),
    ("error", .str message)]

/-- The `catch` block: the action fails whether or not the venue has moved the money. -/
def failExecution (input : ExecuteTreasuryInput) (action : TreasuryAction)
    (executionId message : String) : TreasuryTask ExecuteTreasuryResult := do
  (TreasuryCall.updateTreasuryExecution executionId
    { status := some .failed, lastError := some (some message) }).send
  (TreasuryCall.failTreasuryAction action.id executionId message).send
  syncLinkedTreasuryBundle action
  (TreasuryCall.auditWrite (executionFailedEvent input action.id executionId message)).send
  .fail message

/-- The `try` statement around the venue. -/
def moveAtVenue (input : ExecuteTreasuryInput) (treasuryRunId : String) (action : TreasuryAction)
    (executionId venueId : String) (portfolioState : PortfolioState)
    (intent : TreasuryExecutionIntent) : TreasuryTask ExecuteTreasuryResult :=
  (do
    let result ← (TreasuryCall.executeTreasuryAction action.id venueId
      (venueRequest input action)).send
    runtime.recordMove input treasuryRunId action executionId portfolioState intent result).tryCatch
      (failExecution input action executionId)

def executePlanned (input : ExecuteTreasuryInput) (treasuryRunId : String)
    (action : TreasuryAction) (executionId : String) (portfolioState : PortfolioState)
    (intent : TreasuryExecutionIntent) : TreasuryTask ExecuteTreasuryResult := do
  (TreasuryCall.markTreasuryActionExecuting action.id).send
  match action.venueId with
  | none => refuseUntargeted action executionId "Treasury action did not target a venue."
  | some venueId =>
    if runtime.treasuryAdapters.contains venueId then
      runtime.moveAtVenue input treasuryRunId action executionId venueId portfolioState intent
    else
      refuseUntargeted action executionId s!"Treasury venue \"{venueId}\" is not registered."

def executeAtVenue (input : ExecuteTreasuryInput) (treasuryRunId : String)
    (action : TreasuryAction) : TreasuryTask ExecuteTreasuryResult := do
  let portfolioState ← TreasuryCall.refreshPortfolio.send
  let venueSnapshots ← collectTreasuryVenueSnapshots runtime.treasuryAdapters
  let venueCapabilities ← runtime.collectTreasuryVenueCapabilities
  let intent := runtime.executionIntent action portfolioState venueSnapshots venueCapabilities
  let execution ← (TreasuryCall.createTreasuryExecution
    (treasuryExecutionInput input action intent)).send
  if intent.executable then
    runtime.executePlanned input treasuryRunId action execution.id portfolioState intent
  else refuseBlocked input action execution.id intent

def executeTreasuryAction (input : ExecuteTreasuryInput) (treasuryRunId : String) :
    TreasuryTask ExecuteTreasuryResult := do
  match ← (TreasuryCall.getTreasuryAction input.actionId).send with
  | none => .fail s!"Treasury action \"{input.actionId}\" was not found."
  | some detail =>
    if detail.action.status ≠ .queued ∧ detail.action.status ≠ .approved then
      .fail (s!"Treasury action \"{input.actionId}\" is not executable from status " ++
        s!"\"{detail.action.status.text}\".")
    else if detail.action.actionType = .rebalanceTreasuryBudget then
      applyBudget input detail.action
    else runtime.executeAtVenue input treasuryRunId detail.action

end TreasuryRuntime

/-! ## The world -/

/-- What the awaits of an execution meet besides the tables and the simulated venues, by the number
of the call. -/
structure TreasuryEnvironment where
  portfolio : ℕ → Except String PortfolioState
  promotions : ℕ → List VenuePromotion
  refreshes : ℕ → Except String Unit
  venueState : ℕ → Except String TreasuryVenueState
  position : ℕ → Except String TreasuryVenuePosition
  capabilities : ℕ → Except String TreasuryVenueCapabilities
  execute : ℕ → Except String TreasuryVenueExecutionResult
  faults : ℕ → Option StoreFault

/-- The tables, the simulated venues, the actions for which a venue has moved money, and the number
of calls. A venue that is not simulated answers as the environment says. -/
structure TreasuryWorld where
  tables : TreasuryTables
  venues : OrderedMap String SimulatedTreasuryVenue
  executed : List String
  calls : ℕ

def moveAtVenue (env : TreasuryEnvironment) (w : TreasuryWorld) (treasuryActionId venueId : String)
    (request : TreasuryVenueExecutionRequest) :
    Except String TreasuryVenueExecutionResult × TreasuryWorld :=
  let answer : Except String TreasuryVenueExecutionResult ×
      OrderedMap String SimulatedTreasuryVenue :=
    match w.venues.get? venueId with
    | none => (env.execute w.calls, w.venues)
    | some venue =>
      let answer := venue.executeTreasuryAction request
      (answer.1, w.venues.set venueId answer.2)
  (answer.1, { w with
    venues := answer.2
    executed :=
      match answer.1 with
      | .ok _ => w.executed ++ [treasuryActionId]
      | .error _ => w.executed })

def performTreasury (env : TreasuryEnvironment) (w : TreasuryWorld) :
    (c : TreasuryCall) → Except String c.Reply × TreasuryWorld
  | .getTreasuryAction id => (.ok (w.tables.getTreasuryAction id), w)
  | .approveTreasuryAction id =>
    (.ok (), { w with tables := w.tables.approveTreasuryAction id })
  | .queueTreasuryActionExecution id commandId =>
    (.ok (), { w with tables := w.tables.queueTreasuryActionExecution id commandId })
  | .markTreasuryActionExecuting id =>
    (.ok (), { w with tables := w.tables.markTreasuryActionExecuting id })
  | .completeTreasuryAction id executionId =>
    (.ok (), { w with tables := w.tables.completeTreasuryAction id executionId })
  | .failTreasuryAction id executionId message =>
    (.ok (), { w with tables := w.tables.failTreasuryAction id executionId message })
  | .createTreasuryAction input =>
    let answer := w.tables.createTreasuryAction input
    (.ok answer.1, { w with tables := answer.2 })
  | .createTreasuryActions inputs =>
    (.ok (), { w with tables := w.tables.createTreasuryActions inputs })
  | .createTreasuryExecution input =>
    let answer := w.tables.createTreasuryExecution input
    (.ok answer.1, { w with tables := answer.2 })
  | .updateTreasuryExecution id p =>
    (.ok (), { w with tables := w.tables.updateTreasuryExecution id p })
  | .insertTreasuryRun treasuryRunId =>
    (.ok (), { w with tables := w.tables.insertTreasuryRun treasuryRunId })
  | .upsertTreasuryCurrent treasuryRunId cash =>
    (.ok (), { w with tables := w.tables.upsertTreasuryCurrent treasuryRunId cash })
  | .getTreasurySummary => (.ok w.tables.getTreasurySummary, w)
  | .getTreasuryCashBalanceUsd => (.ok w.tables.getTreasuryCashBalanceUsd, w)
  | .setTreasuryCashBalanceUsd cash =>
    (.ok (), { w with tables := w.tables.setTreasuryCashBalanceUsd cash })
  | .listVenues => (.ok (env.promotions w.calls), w)
  | .syncRebalanceBundleForProposal _ => (.ok (), w)
  | .auditWrite _ => (.ok (), w)
  | .refreshPortfolio => (env.portfolio w.calls, w)
  | .refreshVenueTruthInventory => (env.refreshes w.calls, w)
  | .getVenueState venueId =>
    match w.venues.get? venueId with
    | none => (env.venueState w.calls, w)
    | some venue => (.ok venue.getVenueState, w)
  | .getPosition venueId =>
    match w.venues.get? venueId with
    | none => (env.position w.calls, w)
    | some venue => (.ok venue.getPosition, w)
  | .getCapabilities venueId =>
    match w.venues.get? venueId with
    | none => (env.capabilities w.calls, w)
    | some venue => (.ok venue.getCapabilities, w)
  | .executeTreasuryAction actionId venueId request => moveAtVenue env w actionId venueId request

/-- The calls that are no calls of the store or of the audit writer: an exception of them is an
answer. -/
def TreasuryCall.asksVenue : TreasuryCall → Bool
  | .refreshPortfolio => true
  | .refreshVenueTruthInventory => true
  | .getVenueState _ => true
  | .getPosition _ => true
  | .getCapabilities _ => true
  | .executeTreasuryAction .. => true
  | _ => false

def handleTreasury (env : TreasuryEnvironment) :
    Handler TreasuryCall TreasuryCall.Reply String TreasuryWorld := fun c w =>
  let answer := performTreasury env w c
  match if c.asksVenue then none else env.faults w.calls with
  | none => (answer.1, { answer.2 with calls := w.calls + 1 })
  | some (.requestLost message) => (.error message, { w with calls := w.calls + 1 })
  | some (.answerLost message) => (.error message, { answer.2 with calls := w.calls + 1 })

end SentinelApex
