import SentinelApex.Allocator.Policy
import SentinelApex.Carry.StrategyPolicy
import SentinelApex.Lib.Rounds
import SentinelApex.Runtime.CarryTables

/-!
# Controlled execution of carry actions

`CarryControlledExecutionPlanner.createExecutionIntents`: a recommendation becomes an execution
intent with the reasons that block it. An intent is executable when there is no reason;
`executable_iff` says what a recommendation has to satisfy for that (`Clear`).
-/

namespace SentinelApex

open SentinelApex.Runtime (RuntimeLifecycleState)

/-! ## Data -/

inductive CarryActionType where
  | increaseCarryExposure
  | reduceCarryExposure
  | restoreCarryBudget
  deriving DecidableEq, Repr

def CarryActionType.text : CarryActionType → String
  | .increaseCarryExposure => "increase_carry_exposure"
  | .reduceCarryExposure => "reduce_carry_exposure"
  | .restoreCarryBudget => "restore_carry_budget"

inductive CarryRecommendationSourceKind where
  | opportunity
  | rebalance
  deriving DecidableEq, Repr

inductive CarryActionReadiness where
  | actionable
  | blocked
  deriving DecidableEq, Repr

structure CarryOperationalPolicy where
  minimumActionableUsd : Decimal
  minimumConfidenceScore : Number

def defaultCarryOperationalPolicy : CarryOperationalPolicy where
  minimumActionableUsd := 250
  minimumConfidenceScore := Number.ofDecimal (6 / 10)

/-- The fields of a policy that replace the defaults. -/
structure CarryOperationalPolicyInput where
  minimumActionableUsd : Option Decimal := none
  minimumConfidenceScore : Option Number := none

structure BuildABearStrategyPolicyInput where
  baseAsset : Option String := none
  lockPeriodMonths : Option Number := none
  rolling : Option Bool := none
  reassessmentCadenceMonths : Option Number := none
  minimumTargetApyPct : Option PolicyDecimal := none
  minimumLoopHealthRate : Option PolicyDecimal := none

structure CarryPositionSnapshot where
  positionId : String
  venueId : String
  asset : String
  side : PositionSide
  size : Decimal
  markPrice : Decimal
  updatedAt : String

structure CarryExecutionRecommendation where
  actionType : CarryActionType
  sourceKind : CarryRecommendationSourceKind
  sourceReference : Option String
  opportunityId : Option String
  asset : Option String
  summary : String
  notionalUsd : Decimal
  details : Metadata
  plannedOrders : List OrderIntent

/-- `CarryVenueCapabilities`, as far as the planner reads it. -/
structure CarryExecutionCapabilities where
  venueId : String
  venueMode : VenueMode
  executionSupported : Bool
  supportsIncreaseExposure : Bool
  supportsReduceExposure : Bool
  readOnly : Bool
  approvedForLiveUse : Bool
  sensitiveExecutionEligible : Bool
  promotionStatus : PromotionStatus
  promotionBlockedReasons : List String

structure CarryExecutionEffects where
  currentCarryAllocationUsd : Decimal
  projectedCarryAllocationUsd : Decimal
  projectedCarryAllocationPct : Option Number
  approvedCarryBudgetUsd : Option Decimal
  projectedRemainingBudgetUsd : Option Decimal
  openPositionCount : ℕ

structure CarryExecutionIntent where
  actionType : CarryActionType
  sourceKind : CarryRecommendationSourceKind
  sourceReference : Option String
  opportunityId : Option String
  asset : Option String
  summary : String
  notionalUsd : Decimal
  details : Metadata
  readiness : CarryActionReadiness
  blockedReasons : List CarryBlockedReason
  executable : Bool
  approvalRequirement : ApprovalRequirement
  executionMode : ActionExecutionMode
  simulated : Bool
  plannedOrders : List OrderIntent
  effects : CarryExecutionEffects
  strategyProfile : CarryStrategyProfile

structure CarryPlanningInput where
  recommendations : List CarryExecutionRecommendation
  policy : CarryOperationalPolicyInput
  strategyPolicy : BuildABearStrategyPolicyInput
  strategyProfile : CarryStrategyProfileInput
  currentCarryAllocationUsd : Decimal
  approvedCarryBudgetUsd : Option Decimal
  totalCapitalUsd : Option Decimal
  runtimeLifecycleState : RuntimeLifecycleState
  runtimeHalted : Bool
  criticalMismatchCount : ℕ
  carryThrottleState : AllocatorThrottleState
  executionMode : ActionExecutionMode
  liveExecutionEnabled : Bool
  venueCapabilities : List CarryExecutionCapabilities
  openPositions : List CarryPositionSnapshot
  now : Date

/-- `new Date(text)`, where `none` is an invalid date, and `date.toISOString()`. -/
structure DateTexts where
  parse : String → Option Date
  toISOString : Date → String

variable {intent : CarryExecutionIntent}

namespace CarryControlledExecutionPlanner

/-! ## Inputs -/

/-- A text that is not blank, or the text of a number. -/
def normalizeDecimalString : Json → Option DecimalInput
  | .str s => if Json.trim s = "" then none else some (.other s)
  | .decimal x => some (.decimal x)
  | .num x => some (.decimal x)
  | _ => none

/-- The text of a value that is a string. -/
def stringOf? : Json → Option String
  | .str s => some s
  | .decimal x => some (Decimal.toFixedAll x)
  | _ => none

def findCarryVenueCapabilities (capabilities : List CarryExecutionCapabilities) (venueId : String) :
    Option CarryExecutionCapabilities :=
  capabilities.find? fun item => decide (item.venueId = venueId)

variable (dates : DateTexts) (input : CarryPlanningInput)
  (recommendation : CarryExecutionRecommendation)

def policy : CarryOperationalPolicy where
  minimumActionableUsd :=
    input.policy.minimumActionableUsd.getD defaultCarryOperationalPolicy.minimumActionableUsd
  minimumConfidenceScore :=
    input.policy.minimumConfidenceScore.getD defaultCarryOperationalPolicy.minimumConfidenceScore

def strategyPolicy : BuildABearStrategyPolicy :=
  let given := input.strategyPolicy
  let default := defaultBuildABearStrategyPolicy
  { baseAsset := given.baseAsset.getD default.baseAsset
    lockPeriodMonths := given.lockPeriodMonths.getD default.lockPeriodMonths
    rolling := given.rolling.getD default.rolling
    reassessmentCadenceMonths :=
      given.reassessmentCadenceMonths.getD default.reassessmentCadenceMonths
    minimumTargetApyPct := given.minimumTargetApyPct.getD default.minimumTargetApyPct
    minimumLoopHealthRate := given.minimumLoopHealthRate.getD default.minimumLoopHealthRate }

/-- The yield that the recommendation projects replaces that of the input. -/
def strategyProfileInput : CarryStrategyProfileInput :=
  let details := recommendation.details
  let projectedApyPct := normalizeDecimalString
    (details.getOr "netYieldPct" (details.getOr "expectedAnnualYieldPct" .null))
  { input.strategyProfile with
    projectedApyPct := projectedApyPct.or input.strategyProfile.projectedApyPct
    projectedApySource :=
      if projectedApyPct.isNone then input.strategyProfile.projectedApySource
      else some .projected }

def strategyProfile : CarryStrategyProfile :=
  CarryStrategyProfile.buildCarryStrategyProfile (strategyProfileInput input recommendation)
    (strategyPolicy input)

def buildEffects : CarryExecutionEffects :=
  let current := input.currentCarryAllocationUsd
  let projected :=
    if recommendation.actionType = .reduceCarryExposure then
      max (current.minus recommendation.notionalUsd) 0
    else current.plus recommendation.notionalUsd
  { currentCarryAllocationUsd := usd current
    projectedCarryAllocationUsd := usd projected
    projectedCarryAllocationPct := input.totalCapitalUsd.bind fun totalCapitalUsd =>
      if totalCapitalUsd ≤ 0 then none
      else some (Number.ofDecimal
        (Decimal.roundPlaces ((projected.div totalCapitalUsd).times 100) 4))
    approvedCarryBudgetUsd := input.approvedCarryBudgetUsd.map usd
    projectedRemainingBudgetUsd := input.approvedCarryBudgetUsd.map fun approved =>
      usd (max (approved.minus projected) 0)
    openPositionCount := input.openPositions.length }

/-! ## Blocked reasons -/

def reasonIf (p : Prop) [Decidable p] (reason : CarryBlockedReason) : List CarryBlockedReason :=
  if p then [reason] else []

/-- The code of the reason and what the operator is told for a rule that fails. -/
def strategyPolicyTexts : CarryStrategyRuleKey → String × String
  | .baseAssetUsdc => ("unsupported_strategy_base_asset",
      "Use a USDC-denominated vault profile before approving or executing this carry action.")
  | .tenorThreeMonthRolling => ("unsupported_strategy_tenor",
      "Keep the strategy on a 3-month rolling lock with reassessment every 3 months.")
  | .targetApyFloor => ("strategy_target_apy_below_floor",
      "Raise the configured target APY floor to at least 10% before using this strategy profile.")
  | .allowedYieldSource => ("disallowed_yield_source",
      "Remove disallowed yield sources such as DEX LP, junior tranche, insurance pool, or " ++
        "circular stable yield.")
  | .leverageHealthMetadata => ("missing_leverage_health_threshold",
      "Attach explicit leverage health-threshold metadata or remove leverage from the strategy " ++
        "profile.")
  | .unsafeLoopingLeverage => ("unsafe_leverage_looping",
      "Do not use looping leverage below the 1.05 health threshold on non-hardcoded oracle assets.")

def buildStrategyPolicyBlockedReasons (strategyProfile : CarryStrategyProfile) :
    List CarryBlockedReason :=
  strategyProfile.eligibility.ruleResults.flatMap fun rule =>
    reasonIf (rule.status = .fail)
      { code := (strategyPolicyTexts rule.ruleKey).1
        category := "strategy_policy"
        message := rule.summary
        operatorAction := (strategyPolicyTexts rule.ruleKey).2
        details := rule.details }

/-- The reasons that concern the size of the action and the state of the runtime. -/
def runtimeReasons : List CarryBlockedReason :=
  let amountUsd := recommendation.notionalUsd
  let state := input.runtimeLifecycleState
  reasonIf (amountUsd < (policy input).minimumActionableUsd)
    { code := "below_minimum_action_size"
      category := "action_size"
      message :=
        s!"Carry action {usdText amountUsd} USD is below the minimum actionable threshold."
      operatorAction := "Increase the target notional or wait for a larger budget/exposure change."
      details := [("amountUsd", .str (usdText amountUsd)),
        ("minimumActionableUsd", .decimal (policy input).minimumActionableUsd)] } ++
  reasonIf (input.runtimeHalted ∨ state = .paused ∨ state = .stopped ∨ state = .starting ∨
      state = .degraded)
    { code := "runtime_not_ready"
      category := "runtime"
      message := "Runtime is not in a state that permits carry execution."
      operatorAction := "Return runtime to ready state before approving or executing carry actions."
      details := [("runtimeLifecycleState", .str state.text),
        ("runtimeHalted", .bool input.runtimeHalted)] } ++
  reasonIf (0 < input.criticalMismatchCount)
    { code := "critical_mismatch_pressure"
      category := "risk"
      message := "Critical mismatch pressure blocks carry execution."
      operatorAction := "Resolve or verify critical mismatches before executing carry actions."
      details := [("criticalMismatchCount", .num input.criticalMismatchCount)] }

/-- The reasons against more exposure. -/
def increaseReasons : List CarryBlockedReason :=
  let amountUsd := recommendation.notionalUsd
  let throttle := input.carryThrottleState
  reasonIf (recommendation.actionType ≠ .reduceCarryExposure ∧
      (throttle = .throttled ∨ throttle = .deRisk ∨ throttle = .blocked))
    { code := "carry_throttle_active"
      category := "risk"
      message := "Carry sleeve throttle state blocks new carry deployment."
      operatorAction :=
        "Wait for carry throttle state to return to normal before increasing exposure."
      details := [("carryThrottleState", .str throttle.text)] } ++
  match input.approvedCarryBudgetUsd with
  | none => []
  | some approvedCarryBudgetUsd =>
    reasonIf (recommendation.actionType ≠ .reduceCarryExposure ∧
        approvedCarryBudgetUsd < input.currentCarryAllocationUsd.plus amountUsd)
      { code := "carry_budget_exceeded"
        category := "budget"
        message := "Carry action would exceed the currently approved carry budget."
        operatorAction := "Approve more carry budget or reduce the planned carry action size."
        details := [("currentCarryAllocationUsd", .decimal input.currentCarryAllocationUsd),
          ("approvedCarryBudgetUsd", .decimal approvedCarryBudgetUsd),
          ("actionNotionalUsd", .str (usdText amountUsd))] }

def confidenceScore : Option Number :=
  (recommendation.details.get? "confidenceScore").bind fun
    | .num x => some x
    | _ => none

/-- When the opportunity expires, if its details say so. -/
def expiresAt : Option Date :=
  ((recommendation.details.get? "expiresAt").bind stringOf?).bind dates.parse

def opportunityReasons : List CarryBlockedReason :=
  (match confidenceScore recommendation with
  | none => []
  | some confidenceScore =>
    reasonIf (confidenceScore < (policy input).minimumConfidenceScore)
      { code := "opportunity_confidence_below_threshold"
        category := "opportunity"
        message := "Carry opportunity confidence is below the execution threshold."
        operatorAction := "Wait for stronger carry conditions before executing this action."
        details := [("confidenceScore", .num confidenceScore),
          ("minimumConfidenceScore", .num (policy input).minimumConfidenceScore)] }) ++
  match expiresAt dates recommendation with
  | none => []
  | some expiresAt =>
    reasonIf (expiresAt ≤ input.now)
      { code := "opportunity_expired"
        category := "opportunity"
        message := "Carry opportunity has expired and should not be executed."
        operatorAction := "Re-run carry evaluation and use a currently actionable opportunity."
        details := [("expiresAt", .str (dates.toISOString expiresAt))] }

/-- The reason against a reduction without orders. -/
def positionReasons : List CarryBlockedReason :=
  reasonIf (recommendation.actionType = .reduceCarryExposure ∧
      recommendation.plannedOrders.length = 0)
    { code := "no_open_positions"
      category := "exposure"
      message := "No open carry positions were available to reduce."
      operatorAction := "Refresh carry positions before attempting a reduction action."
      details := [] }

/-- What the positions can cover of the reduction, if it is given as a decimal. -/
def coveredNotionalUsd : Option Decimal :=
  (recommendation.details.get? "coveredNotionalUsd").bind fun
    | .decimal x => some x
    | _ => none

/-- The reason against a reduction that the positions do not cover. The constructor of `Decimal`
throws on a text that is not a number. -/
def coverageReasons : Except String (List CarryBlockedReason) :=
  let amountUsd := recommendation.notionalUsd
  if recommendation.actionType = .reduceCarryExposure then
    match recommendation.details.get? "coveredNotionalUsd" with
    | some (.decimal coveredNotionalUsd) =>
      .ok (reasonIf (coveredNotionalUsd < amountUsd)
        { code := "insufficient_position_reduction_capacity"
          category := "exposure"
          message := "Planned reduction exceeds currently reducible carry exposure."
          operatorAction :=
            "Lower the reduction amount or wait for more carry exposure to become reducible."
          details := [("coveredNotionalUsd", .decimal coveredNotionalUsd),
            ("requestedNotionalUsd", .str (usdText amountUsd))] })
    | some (.str s) => .error s!"[DecimalError] Invalid argument: {s}"
    | _ => .ok []
  else .ok []

/-! ## Venues -/

def unsupportedReason (venueId message operatorAction : String)
    (details : List (String × Json)) : CarryBlockedReason where
  code := "venue_execution_unsupported"
  category := "venue_capability"
  message
  operatorAction
  details := ("venueId", .str venueId) :: details

def supports (actionType : CarryActionType) (capability : CarryExecutionCapabilities) : Bool :=
  if actionType = .reduceCarryExposure then capability.supportsReduceExposure
  else capability.supportsIncreaseExposure

def supportedVenueReasons (actionType : CarryActionType) (venueId : String)
    (capability : CarryExecutionCapabilities) : List CarryBlockedReason :=
  let promotionStatus : String × Json := ("promotionStatus", .str capability.promotionStatus.text)
  reasonIf capability.readOnly
    (unsupportedReason venueId s!"Carry venue {venueId} is read-only for execution."
      "Promote the connector out of read-only mode before executing carry actions." []) ++
  reasonIf (¬ supports actionType capability)
    (unsupportedReason venueId s!"Carry venue {venueId} does not support {actionType.text}."
      "Use a venue with explicit support for this carry action type."
      [("actionType", .str actionType.text)]) ++
  reasonIf (capability.venueMode = .live ∧ ¬ capability.approvedForLiveUse)
    { code := "venue_live_unapproved"
      category := "venue_capability"
      message := s!"Carry venue {venueId} is not approved for live use."
      operatorAction :=
        "Complete onboarding and live-enable review before using live carry execution."
      details := [("venueId", .str venueId), promotionStatus] } ++
  reasonIf (capability.venueMode = .live ∧ capability.approvedForLiveUse ∧
      ¬ capability.sensitiveExecutionEligible)
    { code := "venue_live_ineligible"
      category := "venue_capability"
      message := s!"Carry venue {venueId} is approved for live use but currently ineligible for " ++
        "sensitive execution."
      operatorAction := "Restore connector truth freshness and health, then re-run carry " ++
        "evaluation before executing."
      details := [("venueId", .str venueId), promotionStatus,
        ("blockers", .arr (capability.promotionBlockedReasons.map .str))] } ++
  reasonIf (capability.venueMode = .live ∧
      (¬ input.liveExecutionEnabled ∨ input.executionMode ≠ .live))
    { code := "live_execution_disabled"
      category := "execution_mode"
      message := "Live carry execution is disabled for this runtime."
      operatorAction :=
        "Keep carry execution simulated or explicitly enable live mode after approval."
      details := [("executionMode", .str input.executionMode.text),
        ("liveExecutionEnabled", .bool input.liveExecutionEnabled)] } ++
  reasonIf (capability.venueMode = .simulated ∧ input.executionMode = .live)
    { code := "simulated_execution_only"
      category := "execution_mode"
      message := s!"Carry venue {venueId} only supports simulated execution."
      operatorAction := "Use dry-run/simulated carry execution until a real live connector is " ++
        "available and approved."
      details := [("venueId", .str venueId)] }

def noExecutionReason (venueId : String) : CarryBlockedReason :=
  unsupportedReason venueId s!"Carry venue {venueId} does not support controlled carry execution."
    "Keep the action in simulated/read-only mode until connector support is implemented." []

/-- What the loop over the venues has found. -/
structure VenueChecks where
  blockedReasons : List CarryBlockedReason
  simulated : Bool
  approvalRequirement : ApprovalRequirement

/-- One pass of the loop. A venue without support leaves the flags alone. -/
def checkVenue (actionType : CarryActionType) (checks : VenueChecks) (venueId : String) :
    VenueChecks :=
  match findCarryVenueCapabilities input.venueCapabilities venueId with
  | none => { checks with blockedReasons := checks.blockedReasons ++ [noExecutionReason venueId] }
  | some capability =>
    if !capability.executionSupported then
      { checks with blockedReasons := checks.blockedReasons ++ [noExecutionReason venueId] }
    else
      { blockedReasons :=
          checks.blockedReasons ++ supportedVenueReasons input actionType venueId capability
        simulated := checks.simulated && decide (capability.venueMode ≠ .live)
        approvalRequirement :=
          if capability.venueMode = .live then .admin else checks.approvalRequirement }

/-- The venues of the planned orders, each once, in the order of their first use. -/
def touchedVenues : List String :=
  (recommendation.plannedOrders.map fun order => order.venueId).eraseDups

/-! ## Intents -/

/-- The reasons that are collected before the venues are looked at. -/
def actionReasons (coverage : List CarryBlockedReason) : List CarryBlockedReason :=
  buildStrategyPolicyBlockedReasons (strategyProfile input recommendation) ++
    runtimeReasons input recommendation ++ increaseReasons input recommendation ++
    opportunityReasons dates input recommendation ++ positionReasons recommendation ++ coverage

def venueChecks (coverage : List CarryBlockedReason) : VenueChecks :=
  (touchedVenues recommendation).foldl (checkVenue input recommendation.actionType)
    { blockedReasons := actionReasons dates input recommendation coverage
      simulated := true
      approvalRequirement := .operator }

def executionIntent (coverage : List CarryBlockedReason) : CarryExecutionIntent :=
  let checks := venueChecks dates input recommendation coverage
  { actionType := recommendation.actionType
    sourceKind := recommendation.sourceKind
    sourceReference := recommendation.sourceReference
    opportunityId := recommendation.opportunityId
    asset := recommendation.asset
    summary := recommendation.summary
    notionalUsd := usd recommendation.notionalUsd
    details := recommendation.details
    readiness := if checks.blockedReasons.isEmpty then .actionable else .blocked
    blockedReasons := checks.blockedReasons
    executable := checks.blockedReasons.isEmpty
    approvalRequirement := checks.approvalRequirement
    executionMode := input.executionMode
    simulated := checks.simulated
    plannedOrders := recommendation.plannedOrders
    effects := buildEffects input recommendation
    strategyProfile := strategyProfile input recommendation }

def createExecutionIntent : Except String CarryExecutionIntent := do
  return executionIntent dates input recommendation (← coverageReasons recommendation)

def createExecutionIntents : Except String (List CarryExecutionIntent) :=
  input.recommendations.mapM (createExecutionIntent dates input)

/-! ## What an executable intent satisfies -/

/-- What the planner asks of a venue. -/
@[mk_iff]
structure VenueGated (actionType : CarryActionType) (capability : CarryExecutionCapabilities) : Prop where
  executionSupported : capability.executionSupported = true
  writable : capability.readOnly = false
  supports : supports actionType capability = true
  live : capability.venueMode = .live → capability.approvedForLiveUse = true ∧
    capability.sensitiveExecutionEligible = true ∧ input.liveExecutionEnabled = true ∧
    input.executionMode = .live
  simulated : capability.venueMode = .simulated → input.executionMode ≠ .live

@[mk_iff]
structure RuntimeReady : Prop where
  lifecycleState : input.runtimeLifecycleState = .ready
  notHalted : input.runtimeHalted = false
  noMismatch : input.criticalMismatchCount = 0

/-- What the planner asks of a recommendation. -/
@[mk_iff]
structure Clear : Prop where
  strategy : CarryStrategyProfile.Eligible (strategyProfileInput input recommendation)
    (strategyPolicy input)
  size : (policy input).minimumActionableUsd ≤ recommendation.notionalUsd
  runtime : RuntimeReady input
  throttle : recommendation.actionType ≠ .reduceCarryExposure → input.carryThrottleState = .normal
  budget : recommendation.actionType ≠ .reduceCarryExposure →
    ∀ budget ∈ input.approvedCarryBudgetUsd,
      input.currentCarryAllocationUsd.plus recommendation.notionalUsd ≤ budget
  confidence : ∀ score ∈ confidenceScore recommendation,
    (policy input).minimumConfidenceScore ≤ score
  notExpired : ∀ date ∈ expiresAt dates recommendation, input.now < date
  positions : recommendation.actionType = .reduceCarryExposure → recommendation.plannedOrders ≠ []
  covered : recommendation.actionType = .reduceCarryExposure →
    ∀ amount ∈ coveredNotionalUsd recommendation, recommendation.notionalUsd ≤ amount
  venues : ∀ order ∈ recommendation.plannedOrders,
    ∃ capability ∈ findCarryVenueCapabilities input.venueCapabilities order.venueId,
      VenueGated input recommendation.actionType capability

instance (actionType : CarryActionType) (capability : CarryExecutionCapabilities) :
    Decidable (VenueGated input actionType capability) :=
  decidable_of_iff' _ (venueGated_iff input actionType capability)

instance : Decidable (RuntimeReady input) := decidable_of_iff' _ (runtimeReady_iff input)

instance : Decidable (Clear dates input recommendation) :=
  decidable_of_iff' _ (clear_iff dates input recommendation)

/-! ### Reasons before the venues -/

@[simp] theorem reasonIf_eq_nil {p : Prop} [Decidable p] {reason : CarryBlockedReason} :
    reasonIf p reason = [] ↔ ¬ p := by
  unfold reasonIf
  split_ifs with h <;> simp [h]

section

variable {dates input recommendation}

theorem buildStrategyPolicyBlockedReasons_eq_nil_iff :
    buildStrategyPolicyBlockedReasons (strategyProfile input recommendation) = [] ↔
      CarryStrategyProfile.Eligible (strategyProfileInput input recommendation)
        (strategyPolicy input) := by
  rw [buildStrategyPolicyBlockedReasons, List.flatMap_eq_nil_iff,
    ← CarryStrategyProfile.ruleResults_pass_iff]
  simp only [reasonIf_eq_nil]
  rfl

theorem runtimeReasons_eq_nil_iff :
    runtimeReasons input recommendation = [] ↔
      (policy input).minimumActionableUsd ≤ recommendation.notionalUsd ∧ RuntimeReady input := by
  unfold runtimeReasons
  simp only [List.append_eq_nil_iff, reasonIf_eq_nil, not_lt, not_or, Nat.le_zero, and_assoc,
    Bool.not_eq_true]
  refine and_congr_right fun _ => ?_
  constructor
  · rintro ⟨hhalted, hpaused, hstopped, hstarting, hdegraded, hcount⟩
    refine ⟨?_, hhalted, hcount⟩
    cases hstate : input.runtimeLifecycleState <;> simp_all
  · rintro ⟨hstate, hhalted, hcount⟩
    simp [hstate, hhalted, hcount]

theorem increaseReasons_eq_nil_iff :
    increaseReasons input recommendation = [] ↔
      (recommendation.actionType ≠ .reduceCarryExposure → input.carryThrottleState = .normal) ∧
        (recommendation.actionType ≠ .reduceCarryExposure →
          ∀ budget ∈ input.approvedCarryBudgetUsd,
            input.currentCarryAllocationUsd.plus recommendation.notionalUsd ≤ budget) := by
  unfold increaseReasons
  dsimp only
  rw [List.append_eq_nil_iff, reasonIf_eq_nil]
  refine and_congr ?_ ?_
  · rw [not_and]
    refine imp_congr_right fun _ => ?_
    cases input.carryThrottleState <;> decide
  · cases input.approvedCarryBudgetUsd with
    | none => simp
    | some budget => simp [not_lt]

theorem opportunityReasons_eq_nil_iff :
    opportunityReasons dates input recommendation = [] ↔
      (∀ score ∈ confidenceScore recommendation, (policy input).minimumConfidenceScore ≤ score) ∧
      ∀ date ∈ expiresAt dates recommendation, input.now < date := by
  unfold opportunityReasons
  rw [List.append_eq_nil_iff]
  refine and_congr ?_ ?_
  · cases confidenceScore recommendation <;> simp
  · cases expiresAt dates recommendation <;> simp

theorem positionReasons_eq_nil_iff :
    positionReasons recommendation = [] ↔
      (recommendation.actionType = .reduceCarryExposure → recommendation.plannedOrders ≠ []) := by
  simp [positionReasons]

theorem coverageReasons_eq_nil_iff {coverage : List CarryBlockedReason}
    (h : coverageReasons recommendation = .ok coverage) :
    coverage = [] ↔ (recommendation.actionType = .reduceCarryExposure →
      ∀ amount ∈ coveredNotionalUsd recommendation, recommendation.notionalUsd ≤ amount) := by
  unfold coveredNotionalUsd
  unfold coverageReasons at h
  dsimp only at h
  split_ifs at h with hreduce
  · cases hvalue : recommendation.details.get? "coveredNotionalUsd" with
    | none =>
      rw [hvalue] at h
      cases h
      simp
    | some value =>
      rw [hvalue] at h
      cases value <;> cases h <;> simp [hreduce]
  · cases h
    simp [hreduce]

/-! ### Venues -/

def venueReasons (input : CarryPlanningInput) (actionType : CarryActionType) (venueId : String) :
    List CarryBlockedReason :=
  match findCarryVenueCapabilities input.venueCapabilities venueId with
  | none => [noExecutionReason venueId]
  | some capability =>
    if !capability.executionSupported then [noExecutionReason venueId]
    else supportedVenueReasons input actionType venueId capability

theorem checkVenue_blockedReasons (actionType : CarryActionType) (checks : VenueChecks)
    (venueId : String) : (checkVenue input actionType checks venueId).blockedReasons =
      checks.blockedReasons ++ venueReasons input actionType venueId := by
  unfold checkVenue venueReasons
  cases findCarryVenueCapabilities input.venueCapabilities venueId with
  | none => rfl
  | some capability =>
    dsimp only
    cases capability.executionSupported <;> rfl

theorem foldl_checkVenue_blockedReasons (actionType : CarryActionType) (checks : VenueChecks)
    (venueIds : List String) :
    (venueIds.foldl (checkVenue input actionType) checks).blockedReasons =
      checks.blockedReasons ++ venueIds.flatMap (venueReasons input actionType) := by
  induction venueIds generalizing checks with
  | nil => simp
  | cons venueId venueIds ih =>
    rw [List.foldl_cons, ih, checkVenue_blockedReasons, List.flatMap_cons, List.append_assoc]

variable {intents : List CarryExecutionIntent} {venueId : String} {actionType : CarryActionType}

theorem supportedVenueReasons_eq_nil_iff {capability : CarryExecutionCapabilities}
    (h : capability.executionSupported = true) :
    supportedVenueReasons input actionType venueId capability = [] ↔
      VenueGated input actionType capability := by
  unfold supportedVenueReasons
  simp only [List.append_eq_nil_iff, reasonIf_eq_nil, not_and, not_or, not_not, ne_eq, and_assoc,
    Bool.not_eq_true, Bool.not_eq_false]
  constructor
  · rintro ⟨hwritable, hsupports, happroved, heligible, henabled, hsimulated⟩
    exact ⟨h, hwritable, hsupports, fun hlive => ⟨happroved hlive,
      heligible hlive (happroved hlive), (henabled hlive).1, (henabled hlive).2⟩, hsimulated⟩
  · rintro ⟨-, hwritable, hsupports, hlive, hsimulated⟩
    exact ⟨hwritable, hsupports, fun h => (hlive h).1, fun h _ => (hlive h).2.1,
      fun h => (hlive h).2.2, hsimulated⟩

theorem venueReasons_eq_nil_iff :
    venueReasons input actionType venueId = [] ↔
      ∃ capability ∈ findCarryVenueCapabilities input.venueCapabilities venueId,
        VenueGated input actionType capability := by
  unfold venueReasons
  cases findCarryVenueCapabilities input.venueCapabilities venueId with
  | none => simp
  | some capability =>
    dsimp only
    cases hsupported : capability.executionSupported with
    | false =>
      simp only [Bool.not_false, if_true, List.cons_ne_nil, false_iff, not_exists, not_and]
      rintro _ ⟨⟩ hgated
      exact absurd hgated.executionSupported (by rw [hsupported]; decide)
    | true => simp [supportedVenueReasons_eq_nil_iff hsupported]

theorem mem_touchedVenues :
    venueId ∈ touchedVenues recommendation ↔
      ∃ order ∈ recommendation.plannedOrders, order.venueId = venueId := by
  simp [touchedVenues]

/-! ### Intents -/

theorem createExecutionIntent_eq_ok_iff :
    createExecutionIntent dates input recommendation = .ok intent ↔
      ∃ coverage, coverageReasons recommendation = .ok coverage ∧
        intent = executionIntent dates input recommendation coverage := by
  unfold createExecutionIntent
  cases coverageReasons recommendation with
  | error message => simp [bind, Except.bind]
  | ok coverage => simp [bind, Except.bind, pure, Except.pure, eq_comm]

theorem executable_iff (h : createExecutionIntent dates input recommendation = .ok intent) :
    intent.executable = true ↔ Clear dates input recommendation := by
  obtain ⟨coverage, hcoverage, rfl⟩ := createExecutionIntent_eq_ok_iff.1 h
  show (venueChecks dates input recommendation coverage).blockedReasons.isEmpty = true ↔ _
  rw [List.isEmpty_iff, venueChecks, foldl_checkVenue_blockedReasons, actionReasons]
  simp only [List.append_eq_nil_iff, buildStrategyPolicyBlockedReasons_eq_nil_iff,
    runtimeReasons_eq_nil_iff, increaseReasons_eq_nil_iff, opportunityReasons_eq_nil_iff,
    positionReasons_eq_nil_iff, coverageReasons_eq_nil_iff hcoverage, List.flatMap_eq_nil_iff,
    mem_touchedVenues, venueReasons_eq_nil_iff]
  constructor
  · rintro ⟨⟨⟨⟨⟨⟨hstrategy, hsize, hruntime⟩, hthrottle, hbudget⟩, hconfidence, hexpired⟩, hpositions⟩,
      hcovered⟩, hvenues⟩
    exact ⟨hstrategy, hsize, hruntime, hthrottle, hbudget, hconfidence, hexpired, hpositions,
      hcovered, fun order horder => hvenues _ ⟨order, horder, rfl⟩⟩
  · rintro ⟨hstrategy, hsize, hruntime, hthrottle, hbudget, hconfidence, hexpired, hpositions,
      hcovered, hvenues⟩
    refine ⟨⟨⟨⟨⟨⟨hstrategy, hsize, hruntime⟩, hthrottle, hbudget⟩, hconfidence, hexpired⟩, hpositions⟩,
      hcovered⟩, ?_⟩
    rintro _ ⟨order, horder, rfl⟩
    exact hvenues order horder

theorem forall₂_of_createExecutionIntents (h : createExecutionIntents dates input = .ok intents) :
    List.Forall₂ (fun recommendation intent =>
      createExecutionIntent dates input recommendation = .ok intent) input.recommendations
        intents :=
  Rounds.mapM_eq_ok_iff.1 h

theorem exists_of_mem_createExecutionIntents (h : createExecutionIntents dates input = .ok intents)
    (hintent : intent ∈ intents) :
    ∃ recommendation ∈ input.recommendations,
      createExecutionIntent dates input recommendation = .ok intent :=
  Rounds.exists_of_mem_right (forall₂_of_createExecutionIntents h) hintent

end

end CarryControlledExecutionPlanner

end SentinelApex
