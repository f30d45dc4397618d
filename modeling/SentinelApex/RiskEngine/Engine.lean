import SentinelApex.RiskEngine.Checks

/-!
# Pre-trade assessment

`assessOrderIntent` runs the full suite of checks for an order intent against one portfolio state.
`Admissible` lists what an order that is not rejected has been checked for, and
`assessOrderIntent_ne_failed_iff` says that this is exactly when no check fails.
-/

namespace SentinelApex

structure PortfolioState where
  totalNav : Decimal
  grossExposure : Decimal
  netExposure : Decimal
  liquidityReserve : Decimal
  currentDailyDrawdownPct : Number
  currentWeeklyDrawdownPct : Number
  currentPortfolioDrawdownPct : Number
  venueExposures : OrderedMap String Decimal
  assetExposures : OrderedMap String Decimal
  sleeveNav : OrderedMap String Decimal
  openPositionCount : ℕ

structure OrderIntentContext where
  intent : OrderIntent
  venueId : String
  assetSymbol : String
  positionSizeUsd : Decimal
  deltaUsd : Decimal
  requiredMarginUsd : Decimal
  lastPriceUpdate : Date

/-- Any failed check fails the assessment, any warning without a failure warns. -/
def rollUpStatus (results : List RiskCheckResult) : RiskCheckStatus :=
  go false results
where
  go (hasWarning : Bool) : List RiskCheckResult → RiskCheckStatus
    | [] => if hasWarning then .warning else .passed
    | r :: rs =>
      if r.status = .failed then .failed
      else go (hasWarning || decide (r.status = .warning)) rs

theorem rollUpStatus_failed_iff (results : List RiskCheckResult) :
    rollUpStatus results = .failed ↔ ∃ r ∈ results, r.status = .failed := by
  have key : ∀ (rs : List RiskCheckResult) (w : Bool),
      rollUpStatus.go w rs = .failed ↔ ∃ r ∈ rs, r.status = .failed := by
    intro rs
    induction rs with
    | nil => intro w; cases w <;> simp [rollUpStatus.go]
    | cons r rs ih =>
      intro w
      by_cases h : r.status = .failed
      · simp [rollUpStatus.go, h]
      · simp [rollUpStatus.go, h, ih]
  exact key results false

structure RiskEngine where
  limits : RiskLimits
  circuitBreakers : CircuitBreakerRegistry

namespace RiskEngine

/-- The sleeve NAV that the position size is measured against: the sleeve named by the intent's
metadata, or the whole portfolio when that sleeve is not tracked. -/
def sleeveNavFor (context : OrderIntentContext) (state : PortfolioState) : Decimal :=
  (state.sleeveNav.get? (context.intent.metadata.getOr "sleeveId" (.str "")).text).getD
    state.totalNav

/-- Check 10: the number of open positions. -/
def checkOpenPositionCount (count : ℕ) (limits : RiskLimits) : RiskCheckResult :=
  let max := limits.maxOpportunityCount
  let limit := some max.toText
  let actual := some (toString count)
  if max ≤ count then
    Checks.failed "max_opportunity_count"
      s!"Open position count ({count}) has reached the limit of {max.toText}." limit actual
  else if ⌊(Number.ofDecimal max).mul (Number.ofDecimal (9 / 10))⌋ ≤ (count : ℤ) then
    Checks.warning "max_opportunity_count"
      s!"Open position count ({count}) is approaching the limit of {max.toText}." limit actual
  else
    Checks.passed "max_opportunity_count"
      s!"Open position count ({count}) is within the limit of {max.toText}." limit actual

theorem checkOpenPositionCount_failed_iff (count : ℕ) (limits : RiskLimits) :
    (checkOpenPositionCount count limits).status = .failed ↔
      limits.maxOpportunityCount ≤ count := by
  unfold checkOpenPositionCount
  dsimp only
  split_ifs with h1 h2 <;> simp [Checks.failed, Checks.warning, Checks.passed, h1]

variable (engine : RiskEngine)

def checkResults (context : OrderIntentContext) (state : PortfolioState) (now : Date) :
    List RiskCheckResult :=
  let limits := engine.limits
  [checkPriceStaleness context.lastPriceUpdate now limits,
    checkGrossExposure state.grossExposure context.positionSizeUsd state.totalNav limits,
    checkNetExposure state.netExposure context.deltaUsd state.totalNav limits,
    checkVenueConcentration ((state.venueExposures.get? context.venueId).getD 0)
      context.positionSizeUsd state.grossExposure limits,
    checkAssetConcentration ((state.assetExposures.get? context.assetSymbol).getD 0)
      context.positionSizeUsd state.grossExposure limits,
    checkLeverage state.grossExposure context.positionSizeUsd state.totalNav limits,
    checkLiquidityReserve state.liquidityReserve context.requiredMarginUsd state.totalNav limits,
    checkDrawdown state.currentDailyDrawdownPct .daily limits,
    checkDrawdown state.currentWeeklyDrawdownPct .weekly limits,
    checkDrawdown state.currentPortfolioDrawdownPct .portfolio limits,
    checkPositionSize context.positionSizeUsd (sleeveNavFor context state) limits,
    checkOpenPositionCount state.openPositionCount limits]

/-- The assessment while a circuit breaker is open: the gate fails at once, without running the
other checks. -/
def blockedAssessment (opportunityId : String) (now : Date) : RiskAssessment :=
  let names := ", ".intercalate (engine.circuitBreakers.getOpenBreakers.map fun b => b.name.text)
  { opportunityId := some opportunityId
    orderId := none
    results := [Checks.failed "circuit_breaker_gate"
      s!"Execution blocked: circuit breaker(s) open — {names}." none none]
    overallStatus := .failed
    timestamp := now }

/-- The full pre-trade assessment; `now` is the clock value it reads. -/
def assessOrderIntent (context : OrderIntentContext) (state : PortfolioState) (now : Date) :
    RiskAssessment :=
  if engine.circuitBreakers.isAnyOpen then
    engine.blockedAssessment context.intent.opportunityId now
  else
    let results := engine.checkResults context state now
    { opportunityId := some context.intent.opportunityId
      orderId := none
      results
      overallStatus := rollUpStatus results
      timestamp := now }

/-- What an order that is not rejected has been checked for. -/
structure Admissible (context : OrderIntentContext) (state : PortfolioState) (now : Date) :
    Prop where
  breakers : engine.circuitBreakers.isAnyOpen = false
  price : priceAgeSec context.lastPriceUpdate now ≤ engine.limits.maxPriceAgeSec
  nav : state.totalNav ≠ 0
  gross : pct (state.grossExposure.plus context.positionSizeUsd) state.totalNav ≤
    engine.limits.maxGrossExposurePct
  net : pct |state.netExposure.plus context.deltaUsd| state.totalNav ≤
    engine.limits.maxNetExposurePct
  projectedGross : state.grossExposure.plus context.positionSizeUsd ≠ 0
  venue : pct (((state.venueExposures.get? context.venueId).getD 0).plus context.positionSizeUsd)
    (state.grossExposure.plus context.positionSizeUsd) ≤ engine.limits.maxSingleVenuePct
  asset : pct (((state.assetExposures.get? context.assetSymbol).getD 0).plus
    context.positionSizeUsd) (state.grossExposure.plus context.positionSizeUsd) ≤
    engine.limits.maxSingleAssetPct
  leverage : (state.grossExposure.plus context.positionSizeUsd).div state.totalNav ≤
    engine.limits.maxLeverage
  reserve : engine.limits.minLiquidityReservePct ≤
    pct (state.liquidityReserve.minus context.requiredMarginUsd) state.totalNav
  daily : state.currentDailyDrawdownPct ≤ engine.limits.maxDailyDrawdownPct
  weekly : state.currentWeeklyDrawdownPct ≤ engine.limits.maxWeeklyDrawdownPct
  portfolio : state.currentPortfolioDrawdownPct ≤ engine.limits.maxPortfolioDrawdownPct
  sleeve : sleeveNavFor context state ≠ 0
  positionSize : pct context.positionSizeUsd (sleeveNavFor context state) ≤
    engine.limits.maxPositionSizePct
  count : (state.openPositionCount : ℚ) < engine.limits.maxOpportunityCount

variable {state : PortfolioState} {context : OrderIntentContext}

theorem assessOrderIntent_status_of_open {now : Date} (h : engine.circuitBreakers.isAnyOpen = true) :
    (engine.assessOrderIntent context state now).overallStatus = .failed := by
  simp [assessOrderIntent, h, blockedAssessment]

theorem assessOrderIntent_status_of_closed {now : Date}
    (h : engine.circuitBreakers.isAnyOpen = false) :
    (engine.assessOrderIntent context state now).overallStatus =
      rollUpStatus (engine.checkResults context state now) := by
  simp [assessOrderIntent, h]

theorem assessOrderIntent_ne_failed_iff (context : OrderIntentContext) (state : PortfolioState)
    (now : Date) :
    (engine.assessOrderIntent context state now).overallStatus ≠ .failed ↔
      engine.Admissible context state now := by
  cases hb : engine.circuitBreakers.isAnyOpen with
  | true =>
    refine iff_of_false (not_not.2 (engine.assessOrderIntent_status_of_open hb)) fun h => ?_
    exact absurd h.breakers (by simp [hb])
  | false =>
    rw [engine.assessOrderIntent_status_of_closed hb, ne_eq, rollUpStatus_failed_iff]
    simp only [checkResults, List.exists_mem_cons_iff, List.not_mem_nil, false_and, exists_false,
      or_false, checkPriceStaleness, upperLimitCheck_failed_iff, checkGrossExposure_failed_iff,
      checkNetExposure_failed_iff, checkVenueConcentration, checkAssetConcentration,
      concentrationCheck_failed_iff, checkLeverage_failed_iff, checkLiquidityReserve_failed_iff,
      checkDrawdown, RiskLimits.maxDrawdownPct, checkPositionSize_failed_iff,
      checkOpenPositionCount_failed_iff, not_or, not_lt, not_le]
    constructor
    · rintro ⟨hprice, ⟨hnav, hgross⟩, ⟨-, hnet⟩, ⟨hpg, hvenue⟩, ⟨-, hasset⟩, ⟨-, hlev⟩,
        ⟨-, hres⟩, hd, hw, hp, ⟨hsl, hsz⟩, hcount⟩
      exact ⟨hb, hprice, hnav, hgross, hnet, hpg, hvenue, hasset, hlev, hres, hd, hw, hp, hsl,
        hsz, hcount⟩
    · intro h
      exact ⟨h.price, ⟨h.nav, h.gross⟩, ⟨h.nav, h.net⟩, ⟨h.projectedGross, h.venue⟩,
        ⟨h.projectedGross, h.asset⟩, ⟨h.nav, h.leverage⟩, ⟨h.nav, h.reserve⟩, h.daily, h.weekly,
        h.portfolio, ⟨h.sleeve, h.positionSize⟩, h.count⟩

end RiskEngine

end SentinelApex
