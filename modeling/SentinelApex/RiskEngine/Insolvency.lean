import SentinelApex.RiskEngine.Engine

/-!
# Assessment of insolvent portfolios

The NAV checks guard the divisor with `isZero`, so a portfolio whose NAV is zero is always rejected.
A negative NAV passes the guard and turns the sign of every ratio: exposure ratios become negative
and pass, and an order that overdraws the reserve shows a positive reserve ratio.
-/

namespace SentinelApex

namespace RiskEngine

variable (engine : RiskEngine)

/-- A check that does not divide by the portfolio NAV rejects the order. -/
def RejectsApartFromNav (context : OrderIntentContext) (state : PortfolioState) (now : Date) :
    Prop :=
  let gross := state.grossExposure.plus context.positionSizeUsd
  engine.circuitBreakers.isAnyOpen = true ∨
  engine.limits.maxPriceAgeSec < priceAgeSec context.lastPriceUpdate now ∨
  gross = 0 ∨
  engine.limits.maxSingleVenuePct <
    pct (((state.venueExposures.get? context.venueId).getD 0).plus context.positionSizeUsd) gross ∨
  engine.limits.maxSingleAssetPct <
    pct (((state.assetExposures.get? context.assetSymbol).getD 0).plus context.positionSizeUsd)
      gross ∨
  engine.limits.maxDailyDrawdownPct < state.currentDailyDrawdownPct ∨
  engine.limits.maxWeeklyDrawdownPct < state.currentWeeklyDrawdownPct ∨
  engine.limits.maxPortfolioDrawdownPct < state.currentPortfolioDrawdownPct ∨
  sleeveNavFor context state = 0 ∨
  engine.limits.maxPositionSizePct < pct context.positionSizeUsd (sleeveNavFor context state) ∨
  engine.limits.maxOpportunityCount ≤ state.openPositionCount

/-- An order that no check rejects leaves, on a negative NAV, a reserve ratio of at least the
minimum. -/
theorem admissible_iff_of_nav_neg {context : OrderIntentContext} {state : PortfolioState}
    {now : Date} (hlimits : engine.limits.Positive) (hnav : state.totalNav < 0) :
    engine.Admissible context state now ↔
      ¬ engine.RejectsApartFromNav context state now ∧
      engine.limits.minLiquidityReservePct ≤
        pct (state.liquidityReserve.minus context.requiredMarginUsd) state.totalNav ∧
      (state.grossExposure.plus context.positionSizeUsd < 0 →
        pct (state.grossExposure.plus context.positionSizeUsd) state.totalNav ≤
            engine.limits.maxGrossExposurePct ∧
          (state.grossExposure.plus context.positionSizeUsd).div state.totalNav ≤
            engine.limits.maxLeverage) := by
  simp only [RejectsApartFromNav, not_or, not_lt, not_le, Bool.not_eq_true]
  constructor
  · intro h
    exact ⟨⟨h.breakers, h.price, h.projectedGross, h.venue, h.asset, h.daily, h.weekly,
      h.portfolio, h.sleeve, h.positionSize, h.count⟩, h.reserve, fun _ => ⟨h.gross, h.leverage⟩⟩
  · rintro ⟨⟨hb, hp, hpg, hv, ha, hd, hw, hpo, hs, hps, hc⟩, hres, hneg⟩
    have hnet := pct_nonpos (abs_nonneg (state.netExposure.plus context.deltaUsd)) hnav
    have hgl : pct (state.grossExposure.plus context.positionSizeUsd) state.totalNav ≤
          engine.limits.maxGrossExposurePct ∧
        (state.grossExposure.plus context.positionSizeUsd).div state.totalNav ≤
          engine.limits.maxLeverage := by
      by_cases hg : state.grossExposure.plus context.positionSizeUsd < 0
      · exact hneg hg
      · have hg := not_lt.1 hg
        exact ⟨(pct_nonpos hg hnav).trans hlimits.maxGrossExposurePct.le,
          (Decimal.div_nonpos_of_neg hg hnav).trans hlimits.maxLeverage.le⟩
    exact ⟨hb, hp, hnav.ne, hgl.1, hnet.trans hlimits.maxNetExposurePct.le, hpg, hv, ha, hgl.2,
      hres, hd, hw, hpo, hs, hps, hc⟩

/-- With positive limits, an order of an insolvent portfolio is rejected exactly when the NAV is
zero, a check that does not divide by NAV rejects it, the reserve it leaves is below the minimum
share of NAV, or the projected gross exposure is itself negative and beyond a limit. -/
theorem assessOrderIntent_failed_iff_of_nav_nonpos (context : OrderIntentContext)
    (state : PortfolioState) (now : Date) (hlimits : engine.limits.Positive)
    (hnav : state.totalNav ≤ 0) :
    (engine.assessOrderIntent context state now).overallStatus = .failed ↔
      state.totalNav = 0 ∨
      engine.RejectsApartFromNav context state now ∨
      pct (state.liquidityReserve.minus context.requiredMarginUsd) state.totalNav <
        engine.limits.minLiquidityReservePct ∨
      state.grossExposure.plus context.positionSizeUsd < 0 ∧
        (engine.limits.maxGrossExposurePct <
            pct (state.grossExposure.plus context.positionSizeUsd) state.totalNav ∨
          engine.limits.maxLeverage <
            (state.grossExposure.plus context.positionSizeUsd).div state.totalNav) := by
  rw [← not_iff_not, ← ne_eq, engine.assessOrderIntent_ne_failed_iff]
  rcases hnav.lt_or_eq with hneg | hzero
  · rw [engine.admissible_iff_of_nav_neg hlimits hneg]
    simp only [hneg.ne, false_or, not_or, not_and_or, not_lt, imp_iff_not_or]
  · refine iff_of_false (fun h => h.nav hzero) ?_
    rw [not_not]
    exact Or.inl hzero

/-- A portfolio with more debt than positions: 1000 USD of positions, a NAV of -1000 USD. -/
def insolventState : PortfolioState where
  totalNav := -1000
  grossExposure := 1000
  netExposure := 0
  liquidityReserve := 0
  currentDailyDrawdownPct := 0
  currentWeeklyDrawdownPct := 0
  currentPortfolioDrawdownPct := 0
  venueExposures := OrderedMap.ofList [("venue-a", 500), ("venue-b", 500)]
  assetExposures := OrderedMap.ofList [("BTC", 500), ("ETH", 500)]
  sleeveNav := OrderedMap.ofList [("carry", -1000)]
  openPositionCount := 2

/-- A market buy of 200 USD on a third venue. -/
def insolventContext : OrderIntentContext where
  intent :=
    { intentId := "SOL-funding_rate_arb-buy-0", venueId := "venue-c", asset := "SOL", side := .buy,
      type := .market, size := 2, limitPrice := none, opportunityId := "SOL-funding_rate_arb-0",
      reduceOnly := false, createdAt := 0
      metadata := OrderedMap.ofList
        [("sleeveId", .str "carry"), ("positionSizeUsd", .decimal 200)] }
  venueId := "venue-c"
  assetSymbol := "SOL"
  positionSizeUsd := 200
  deltaUsd := 200
  requiredMarginUsd := 200
  lastPriceUpdate := 0

def defaultEngine : RiskEngine :=
  ⟨defaultRiskLimits, CircuitBreakerRegistry.create defaultRiskLimits⟩

theorem insolventState_passed :
    defaultEngine.limits.Positive ∧ insolventState.totalNav < 0 ∧
      (defaultEngine.assessOrderIntent insolventContext insolventState 0).overallStatus =
        .passed :=
  ⟨defaultRiskLimits_positive, by decide +kernel, by decide +kernel⟩

theorem assessOrderIntent_failed_iff_insolventState :
    (defaultEngine.assessOrderIntent insolventContext insolventState 0).overallStatus = .failed ↔
      insolventState.totalNav = 0 ∨
      defaultEngine.RejectsApartFromNav insolventContext insolventState 0 ∨
      pct (insolventState.liquidityReserve.minus insolventContext.requiredMarginUsd)
          insolventState.totalNav < defaultEngine.limits.minLiquidityReservePct ∨
      insolventState.grossExposure.plus insolventContext.positionSizeUsd < 0 ∧
        (defaultEngine.limits.maxGrossExposurePct <
            pct (insolventState.grossExposure.plus insolventContext.positionSizeUsd)
              insolventState.totalNav ∨
          defaultEngine.limits.maxLeverage <
            (insolventState.grossExposure.plus insolventContext.positionSizeUsd).div
              insolventState.totalNav) :=
  defaultEngine.assessOrderIntent_failed_iff_of_nav_nonpos insolventContext insolventState 0
    defaultRiskLimits_positive (by decide +kernel)

end RiskEngine

end SentinelApex
