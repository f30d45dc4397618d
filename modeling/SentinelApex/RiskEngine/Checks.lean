import SentinelApex.RiskEngine.Limits

/-!
# Individual risk checks

Each check projects a quantity, compares it with its limit and reports `failed`, `warning` or
`passed`. The checks against an upper limit share `upperLimitCheck`; the liquidity reserve is a
lower limit and has its own comparison.
-/

namespace SentinelApex

namespace Checks

def passed (checkName message : String) (limit actual : Option String) : RiskCheckResult :=
  { checkName, status := .passed, message, limit, actual }

def failed (checkName message : String) (limit actual : Option String) : RiskCheckResult :=
  { checkName, status := .failed, message, limit, actual }

def warning (checkName message : String) (limit actual : Option String) : RiskCheckResult :=
  { checkName, status := .warning, message, limit, actual }

end Checks

open Checks

/-- `part` as a percentage of `whole`. -/
def pct (part whole : Decimal) : Decimal := (part.div whole).times 100

/-- `WARNING_FACTOR`: checks warn at 90 % of the hard limit. -/
def warningFactor : Decimal := 9 / 10

/-- The verdict against an upper limit, with the texts of its three outcomes. -/
def upperLimitCheck (check : String) (actual limit factor : Decimal) (dp : ℕ)
    (exceeding approaching within : String) : RiskCheckResult :=
  let limitStr := limit.toFixed dp
  let actualStr := actual.toFixed dp
  if limit < actual then failed check exceeding (some limitStr) (some actualStr)
  else if limit.times factor < actual then
    warning check approaching (some limitStr) (some actualStr)
  else passed check within (some limitStr) (some actualStr)

theorem upperLimitCheck_failed_iff (check : String) (actual limit factor : Decimal) (dp : ℕ)
    (exceeding approaching within : String) :
    (upperLimitCheck check actual limit factor dp exceeding approaching within).status = .failed ↔
      limit < actual := by
  unfold upperLimitCheck
  split_ifs with h1 h2 <;> simp [failed, warning, passed, h1]

def checkGrossExposure (gross newSize nav : Decimal) (limits : RiskLimits) : RiskCheckResult :=
  let limitPct : Decimal := limits.maxGrossExposurePct
  if nav = 0 then
    failed "gross_exposure" "Portfolio NAV is zero; cannot assess gross exposure."
      (some limitPct.toFixedAll) none
  else
    let projectedGross := gross.plus newSize
    let projectedPct := pct projectedGross nav
    upperLimitCheck "gross_exposure" projectedPct limitPct warningFactor 4
      (s!"Gross exposure would be {projectedPct.toFixed 2}% of NAV, exceeding limit of " ++
        s!"{limits.maxGrossExposurePct.toText}%.")
      (s!"Gross exposure would be {projectedPct.toFixed 2}% of NAV, approaching limit of " ++
        s!"{limits.maxGrossExposurePct.toText}%.")
      (s!"Gross exposure would be {projectedPct.toFixed 2}% of NAV, within limit of " ++
        s!"{limits.maxGrossExposurePct.toText}%.")

theorem checkGrossExposure_failed_iff (gross newSize nav : Decimal) (limits : RiskLimits) :
    (checkGrossExposure gross newSize nav limits).status = .failed ↔
      nav = 0 ∨ limits.maxGrossExposurePct < pct (gross.plus newSize) nav := by
  unfold checkGrossExposure
  by_cases h : nav = 0
  · simp [h, failed]
  · rw [if_neg h, upperLimitCheck_failed_iff]
    simp [h]

def checkNetExposure (net delta nav : Decimal) (limits : RiskLimits) : RiskCheckResult :=
  let limitPct : Decimal := limits.maxNetExposurePct
  if nav = 0 then
    failed "net_exposure" "Portfolio NAV is zero; cannot assess net exposure."
      (some limitPct.toFixedAll) none
  else
    let projectedNet := net.plus delta
    let projectedPct := pct |projectedNet| nav
    upperLimitCheck "net_exposure" projectedPct limitPct warningFactor 4
      (s!"Net exposure would be {projectedPct.toFixed 2}% of NAV (net = " ++
        s!"{projectedNet.toFixed 2} USD), exceeding limit of {limits.maxNetExposurePct.toText}%.")
      (s!"Net exposure would be {projectedPct.toFixed 2}% of NAV, approaching limit of " ++
        s!"{limits.maxNetExposurePct.toText}%.")
      (s!"Net exposure would be {projectedPct.toFixed 2}% of NAV, within limit of " ++
        s!"{limits.maxNetExposurePct.toText}%.")

theorem checkNetExposure_failed_iff (net delta nav : Decimal) (limits : RiskLimits) :
    (checkNetExposure net delta nav limits).status = .failed ↔
      nav = 0 ∨ limits.maxNetExposurePct < pct |net.plus delta| nav := by
  unfold checkNetExposure
  by_cases h : nav = 0
  · simp [h, failed]
  · rw [if_neg h, upperLimitCheck_failed_iff]
    simp [h]

/-- The check shared by venue and asset concentration: the share of the projected gross exposure
that one venue or asset would hold. -/
def concentrationCheck (check subject : String) (exposure newSize portfolioGross : Decimal)
    (limit : Number) : RiskCheckResult :=
  let projectedPortfolioGross := portfolioGross.plus newSize
  let projectedExposure := exposure.plus newSize
  if projectedPortfolioGross = 0 then
    failed check s!"Total gross exposure is zero; cannot compute {subject.toLower} concentration."
      (some (Decimal.toFixedAll limit)) none
  else
    let projectedPct := pct projectedExposure projectedPortfolioGross
    upperLimitCheck check projectedPct limit warningFactor 4
      (s!"{subject} concentration would be {projectedPct.toFixed 2}% of gross exposure, " ++
        s!"exceeding limit of {limit.toText}%.")
      (s!"{subject} concentration would be {projectedPct.toFixed 2}% of gross exposure, " ++
        s!"approaching limit of {limit.toText}%.")
      (s!"{subject} concentration would be {projectedPct.toFixed 2}% of gross exposure, " ++
        s!"within limit of {limit.toText}%.")

theorem concentrationCheck_failed_iff (check subject : String)
    (exposure newSize portfolioGross : Decimal) (limit : Number) :
    (concentrationCheck check subject exposure newSize portfolioGross limit).status = .failed ↔
      portfolioGross.plus newSize = 0 ∨
        limit < pct (exposure.plus newSize) (portfolioGross.plus newSize) := by
  unfold concentrationCheck
  by_cases h : portfolioGross.plus newSize = 0
  · simp [h, failed]
  · rw [if_neg h, upperLimitCheck_failed_iff]
    simp [h]

def checkVenueConcentration (venueCurrentExposure newPositionSize portfolioGrossExposure : Decimal)
    (limits : RiskLimits) : RiskCheckResult :=
  concentrationCheck "venue_concentration" "Venue" venueCurrentExposure newPositionSize
    portfolioGrossExposure limits.maxSingleVenuePct

def checkAssetConcentration (assetCurrentExposure newPositionSize portfolioGrossExposure : Decimal)
    (limits : RiskLimits) : RiskCheckResult :=
  concentrationCheck "asset_concentration" "Asset" assetCurrentExposure newPositionSize
    portfolioGrossExposure limits.maxSingleAssetPct

def checkLeverage (gross newSize nav : Decimal) (limits : RiskLimits) : RiskCheckResult :=
  let maxLeverage : Decimal := limits.maxLeverage
  if nav = 0 then
    failed "leverage" "Portfolio NAV is zero; cannot assess leverage."
      (some maxLeverage.toFixedAll) none
  else
    let projectedLeverage := (gross.plus newSize).div nav
    upperLimitCheck "leverage" projectedLeverage maxLeverage warningFactor 4
      (s!"Leverage would be {projectedLeverage.toFixed 3}x, exceeding limit of " ++
        s!"{limits.maxLeverage.toText}x.")
      (s!"Leverage would be {projectedLeverage.toFixed 3}x, approaching limit of " ++
        s!"{limits.maxLeverage.toText}x.")
      (s!"Leverage would be {projectedLeverage.toFixed 3}x, within limit of " ++
        s!"{limits.maxLeverage.toText}x.")

theorem checkLeverage_failed_iff (gross newSize nav : Decimal) (limits : RiskLimits) :
    (checkLeverage gross newSize nav limits).status = .failed ↔
      nav = 0 ∨ limits.maxLeverage < (gross.plus newSize).div nav := by
  unfold checkLeverage
  by_cases h : nav = 0
  · simp [h, failed]
  · rw [if_neg h, upperLimitCheck_failed_iff]
    simp [h]

/-- Warns while the projected reserve is below 120 % of the minimum. -/
def checkLiquidityReserve (reserve margin nav : Decimal) (limits : RiskLimits) :
    RiskCheckResult :=
  let minReservePct : Decimal := limits.minLiquidityReservePct
  if nav = 0 then
    failed "liquidity_reserve" "Portfolio NAV is zero; cannot assess liquidity reserve."
      (some minReservePct.toFixedAll) none
  else
    let projectedReserve := reserve.minus margin
    let projectedReservePct := pct projectedReserve nav
    let actualStr := projectedReservePct.toFixed 4
    let limitStr := minReservePct.toFixed 4
    if projectedReservePct < minReservePct then
      failed "liquidity_reserve"
        (s!"Liquidity reserve would drop to {projectedReservePct.toFixed 2}% of NAV " ++
          s!"({projectedReserve.toFixed 2} USD), below minimum of " ++
          s!"{limits.minLiquidityReservePct.toText}%.")
        (some limitStr) (some actualStr)
    else if projectedReservePct < minReservePct.times (12 / 10) then
      warning "liquidity_reserve"
        (s!"Liquidity reserve would be {projectedReservePct.toFixed 2}% of NAV, " ++
          s!"approaching minimum of {limits.minLiquidityReservePct.toText}%.")
        (some limitStr) (some actualStr)
    else
      passed "liquidity_reserve"
        (s!"Liquidity reserve would be {projectedReservePct.toFixed 2}% of NAV, " ++
          s!"above minimum of {limits.minLiquidityReservePct.toText}%.")
        (some limitStr) (some actualStr)

theorem checkLiquidityReserve_failed_iff (reserve margin nav : Decimal) (limits : RiskLimits) :
    (checkLiquidityReserve reserve margin nav limits).status = .failed ↔
      nav = 0 ∨ pct (reserve.minus margin) nav < limits.minLiquidityReservePct := by
  unfold checkLiquidityReserve
  by_cases h : nav = 0
  · simp [h, failed]
  · rw [if_neg h]
    dsimp only
    split_ifs with h1 h2 <;> simp [failed, warning, passed, h, h1]

inductive DrawdownPeriod where
  | daily
  | weekly
  | portfolio
  deriving DecidableEq, Repr

def DrawdownPeriod.text : DrawdownPeriod → String
  | .daily => "daily"
  | .weekly => "weekly"
  | .portfolio => "portfolio"

def RiskLimits.maxDrawdownPct (limits : RiskLimits) : DrawdownPeriod → Number
  | .daily => limits.maxDailyDrawdownPct
  | .weekly => limits.maxWeeklyDrawdownPct
  | .portfolio => limits.maxPortfolioDrawdownPct

def checkDrawdown (currentDrawdownPct : Number) (period : DrawdownPeriod) (limits : RiskLimits) :
    RiskCheckResult :=
  let limitPct := limits.maxDrawdownPct period
  let current : Decimal := currentDrawdownPct
  upperLimitCheck s!"drawdown_{period.text}" current limitPct warningFactor 4
    s!"{period.text} drawdown is {current.toFixed 2}%, exceeding limit of {limitPct.toText}%."
    s!"{period.text} drawdown is {current.toFixed 2}%, approaching limit of {limitPct.toText}%."
    s!"{period.text} drawdown is {current.toFixed 2}%, within limit of {limitPct.toText}%."

def priceAgeSec (lastPriceUpdate now : Date) : Decimal :=
  Decimal.div ((now - lastPriceUpdate : ℤ) : ℚ) 1000

/-- Warns at 80 % of the maximum age. -/
def checkPriceStaleness (lastPriceUpdate now : Date) (limits : RiskLimits) : RiskCheckResult :=
  let ageSec := priceAgeSec lastPriceUpdate now
  upperLimitCheck "price_staleness" ageSec limits.maxPriceAgeSec (8 / 10) 3
    (s!"Price data is {ageSec.toFixed 1}s old, exceeding stale threshold of " ++
      s!"{limits.maxPriceAgeSec.toText}s.")
    (s!"Price data is {ageSec.toFixed 1}s old, approaching stale threshold of " ++
      s!"{limits.maxPriceAgeSec.toText}s.")
    (s!"Price data is {ageSec.toFixed 1}s old, within stale threshold of " ++
      s!"{limits.maxPriceAgeSec.toText}s.")

def checkPositionSize (newPositionSize sleeveNav : Decimal) (limits : RiskLimits) :
    RiskCheckResult :=
  let limitPct : Decimal := limits.maxPositionSizePct
  if sleeveNav = 0 then
    failed "position_size" "Sleeve NAV is zero; cannot assess position size."
      (some limitPct.toFixedAll) none
  else
    let sizePct := pct newPositionSize sleeveNav
    upperLimitCheck "position_size" sizePct limitPct warningFactor 4
      (s!"Position size is {sizePct.toFixed 2}% of sleeve NAV, exceeding limit of " ++
        s!"{limits.maxPositionSizePct.toText}%.")
      (s!"Position size is {sizePct.toFixed 2}% of sleeve NAV, approaching limit of " ++
        s!"{limits.maxPositionSizePct.toText}%.")
      (s!"Position size is {sizePct.toFixed 2}% of sleeve NAV, within limit of " ++
        s!"{limits.maxPositionSizePct.toText}%.")

theorem checkPositionSize_failed_iff (newPositionSize sleeveNav : Decimal) (limits : RiskLimits) :
    (checkPositionSize newPositionSize sleeveNav limits).status = .failed ↔
      sleeveNav = 0 ∨ limits.maxPositionSizePct < pct newPositionSize sleeveNav := by
  unfold checkPositionSize
  by_cases h : sleeveNav = 0
  · simp [h, failed]
  · rw [if_neg h, upperLimitCheck_failed_iff]
    simp [h]

theorem pct_nonpos {part whole : Decimal} (hp : 0 ≤ part) (hw : whole < 0) : pct part whole ≤ 0 :=
  Decimal.times_nonpos (Decimal.div_nonpos_of_neg hp hw) (by norm_num)

end SentinelApex
