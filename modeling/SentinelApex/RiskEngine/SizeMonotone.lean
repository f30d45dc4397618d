import SentinelApex.RiskEngine.Engine

/-!
# Larger orders are assessed at least as severely

Each check compares a ratio with a limit and its warning band. Against NAV the ratio grows with the
size; of the gross exposure a venue or asset holds a share that grows as well, as long as the
projected sums are exact. Sums beyond twenty digits are rounded apart, and then a larger order can
show a smaller share.
-/

namespace SentinelApex

namespace RiskCheckStatus

def severity : RiskCheckStatus → ℕ
  | .passed => 0
  | .warning => 1
  | .failed => 2

@[simp] theorem severity_passed : severity .passed = 0 := rfl

@[simp] theorem severity_warning : severity .warning = 1 := rfl

@[simp] theorem severity_failed : severity .failed = 2 := rfl

theorem severity_le (status : RiskCheckStatus) : status.severity ≤ 2 := by
  cases status <;> simp

end RiskCheckStatus

namespace Decimal

theorem plus_le_plus_left {x y : Decimal} (h : x ≤ y) (z : Decimal) : z.plus x ≤ z.plus y :=
  decimalJs.round_mono (by linarith)

theorem minus_le_minus_left {x y : Decimal} (h : x ≤ y) (z : Decimal) : z.minus y ≤ z.minus x :=
  decimalJs.round_mono (by linarith)

theorem div_le_div_of_pos {x y z : Decimal} (h : x ≤ y) (hz : 0 < z) : x.div z ≤ y.div z :=
  decimalJs.round_mono (div_le_div_of_nonneg_right h hz.le)

end Decimal

open Decimal

theorem pct_mono {x y x' y' : Decimal} (h : x / y ≤ x' / y') : pct x y ≤ pct x' y' :=
  decimalJs.round_mono (mul_le_mul_of_nonneg_right (decimalJs.round_mono h) (by norm_num))

theorem pct_le_pct {x y nav : Decimal} (h : x ≤ y) (hnav : 0 < nav) : pct x nav ≤ pct y nav :=
  pct_mono (div_le_div_of_nonneg_right h hnav.le)

/-- The part and the whole grow by the same amount. -/
theorem share_le_share {part whole x y : ℚ} (hpart : part ≤ whole) (hx : 0 < whole + x)
    (h : x ≤ y) : (part + x) / (whole + x) ≤ (part + y) / (whole + y) := by
  rw [div_le_div_iff₀ hx (by linarith)]
  nlinarith [mul_nonneg (sub_nonneg.2 hpart) (sub_nonneg.2 h)]

/-- The verdict of the second check is at least as severe as that of the first. -/
def Escalates (r r' : RiskCheckResult) : Prop := r.status.severity ≤ r'.status.severity

theorem Escalates.rfl {r : RiskCheckResult} : Escalates r r := le_refl _

theorem severity_rollUpStatus (results : List RiskCheckResult) :
    (rollUpStatus results).severity =
      (results.map fun r => r.status.severity).foldr max 0 := by
  have hle (rs : List RiskCheckResult) : (rs.map fun r => r.status.severity).foldr max 0 ≤ 2 := by
    induction rs with
    | nil => simp
    | cons r rs ih => exact max_le r.status.severity_le ih
  have key : ∀ (rs : List RiskCheckResult) (hasWarning : Bool),
      (rollUpStatus.go hasWarning rs).severity =
        max (if hasWarning then 1 else 0) ((rs.map fun r => r.status.severity).foldr max 0) := by
    intro rs
    induction rs with
    | nil => intro hasWarning; cases hasWarning <;> rfl
    | cons r rs ih =>
      intro hasWarning
      have := hle rs
      cases hr : r.status <;> cases hasWarning <;>
        simp [rollUpStatus.go, hr, ih] <;> omega
  exact (key results false).trans (Nat.zero_max _)

theorem severity_rollUpStatus_mono {results results' : List RiskCheckResult}
    (h : List.Forall₂ Escalates results results') :
    (rollUpStatus results).severity ≤ (rollUpStatus results').severity := by
  rw [severity_rollUpStatus, severity_rollUpStatus]
  induction h with
  | nil => exact le_refl _
  | cons hr _ ih => exact max_le_max hr ih

theorem severity_upperLimitCheck (check : String) (actual limit factor : Decimal) (dp : ℕ)
    (e a w : String) :
    (upperLimitCheck check actual limit factor dp e a w).status.severity =
      if limit < actual then 2 else if limit.times factor < actual then 1 else 0 := by
  unfold upperLimitCheck
  dsimp only
  split_ifs <;> rfl

theorem upperLimitCheck_escalates {actual actual' : Decimal} (h : actual ≤ actual')
    (check : String) (limit factor : Decimal) (dp : ℕ) (e a w e' a' w' : String) :
    Escalates (upperLimitCheck check actual limit factor dp e a w)
      (upperLimitCheck check actual' limit factor dp e' a' w') := by
  rw [Escalates, severity_upperLimitCheck, severity_upperLimitCheck]
  split_ifs <;> first | omega | linarith

/-- A ratio at most the limit is judged alike whatever it is, unless the limit is negative. -/
theorem upperLimitCheck_status_of_nonpos {actual limit : Decimal} (h : actual ≤ 0)
    (hlimit : 0 ≤ limit) (check : String) (dp : ℕ) (e a w : String) :
    (upperLimitCheck check actual limit warningFactor dp e a w).status.severity = 0 := by
  have hwarning : 0 ≤ limit.times warningFactor :=
    decimalJs.round_nonneg (mul_nonneg hlimit (by norm_num [warningFactor]))
  rw [severity_upperLimitCheck, if_neg (h.trans hlimit).not_gt, if_neg (h.trans hwarning).not_gt]

section Checks

variable {size size' : Decimal} (limits : RiskLimits)

theorem checkGrossExposure_escalates (h : size ≤ size') {nav : Decimal} (hnav : 0 < nav)
    (gross : Decimal) :
    Escalates (checkGrossExposure gross size nav limits)
      (checkGrossExposure gross size' nav limits) := by
  simp only [checkGrossExposure, if_neg hnav.ne']
  exact upperLimitCheck_escalates (pct_le_pct (plus_le_plus_left h gross) hnav) ..

theorem checkLeverage_escalates (h : size ≤ size') {nav : Decimal} (hnav : 0 < nav)
    (gross : Decimal) :
    Escalates (checkLeverage gross size nav limits) (checkLeverage gross size' nav limits) := by
  simp only [checkLeverage, if_neg hnav.ne']
  exact upperLimitCheck_escalates (div_le_div_of_pos (plus_le_plus_left h gross) hnav) ..

theorem checkLiquidityReserve_escalates {margin margin' nav : Decimal} (h : margin ≤ margin')
    (hnav : 0 < nav) (reserve : Decimal) :
    Escalates (checkLiquidityReserve reserve margin nav limits)
      (checkLiquidityReserve reserve margin' nav limits) := by
  have hseverity (margin : Decimal) :
      (checkLiquidityReserve reserve margin nav limits).status.severity =
        if pct (reserve.minus margin) nav < limits.minLiquidityReservePct then 2
        else if pct (reserve.minus margin) nav <
          Decimal.times limits.minLiquidityReservePct (12 / 10) then 1 else 0 := by
    simp only [checkLiquidityReserve, if_neg hnav.ne']
    split_ifs <;> rfl
  have hpct := pct_le_pct (minus_le_minus_left h reserve) hnav
  rw [Escalates, hseverity, hseverity]
  split_ifs <;> first | omega | linarith

theorem concentrationCheck_escalates (h : size ≤ size') (hsize : 0 < size)
    {exposure gross : Decimal} (hexposure : 0 ≤ exposure) (hle : exposure ≤ gross)
    (hsum : exposure.plus size = exposure + size) (hsum' : exposure.plus size' = exposure + size')
    (hgross : gross.plus size = gross + size) (hgross' : gross.plus size' = gross + size')
    (check subject : String) (limit : Number) :
    Escalates (concentrationCheck check subject exposure size gross limit)
      (concentrationCheck check subject exposure size' gross limit) := by
  have hpos : 0 < gross + size := by linarith
  simp only [concentrationCheck, hsum, hsum', hgross, hgross', if_neg hpos.ne',
    if_neg (by linarith : gross + size' ≠ 0)]
  exact upperLimitCheck_escalates (pct_mono (share_le_share hle hpos h)) ..

theorem checkPositionSize_escalates (h : size ≤ size') (hsize : 0 < size) {sleeveNav : Decimal}
    (hsleeve : 0 ≤ sleeveNav ∨ 0 ≤ limits.maxPositionSizePct) :
    Escalates (checkPositionSize size sleeveNav limits)
      (checkPositionSize size' sleeveNav limits) := by
  rcases lt_trichotomy sleeveNav 0 with hneg | rfl | hpos
  · have hlimit := hsleeve.resolve_left hneg.not_ge
    have hzero {s : Decimal} (hs : 0 < s) :
        (checkPositionSize s sleeveNav limits).status.severity = 0 := by
      simp only [checkPositionSize, if_neg hneg.ne]
      exact upperLimitCheck_status_of_nonpos (pct_nonpos hs.le hneg) hlimit ..
    rw [Escalates, hzero hsize]
    exact Nat.zero_le _
  · exact Escalates.rfl
  · simp only [checkPositionSize, if_neg hpos.ne']
    exact upperLimitCheck_escalates (pct_le_pct h hpos) ..

end Checks

namespace PortfolioState

def venueExposure (state : PortfolioState) (venueId : String) : Decimal :=
  (state.venueExposures.get? venueId).getD 0

def assetExposure (state : PortfolioState) (assetSymbol : String) : Decimal :=
  (state.assetExposures.get? assetSymbol).getD 0

/-- The NAV is positive, and no venue and no asset holds more than the whole exposure. -/
structure WellExposed (state : PortfolioState) : Prop where
  nav : 0 < state.totalNav
  venues : ∀ venueId, 0 ≤ state.venueExposure venueId ∧
    state.venueExposure venueId ≤ state.grossExposure
  assets : ∀ assetSymbol, 0 ≤ state.assetExposure assetSymbol ∧
    state.assetExposure assetSymbol ≤ state.grossExposure

/-- The exposures that an order leads to are exact. -/
structure ProjectedExactly (state : PortfolioState) (context : OrderIntentContext) : Prop where
  gross : state.grossExposure.plus context.positionSizeUsd =
    state.grossExposure + context.positionSizeUsd
  venue : (state.venueExposure context.venueId).plus context.positionSizeUsd =
    state.venueExposure context.venueId + context.positionSizeUsd
  asset : (state.assetExposure context.assetSymbol).plus context.positionSizeUsd =
    state.assetExposure context.assetSymbol + context.positionSizeUsd

end PortfolioState

namespace RiskEngine

variable (engine : RiskEngine)

/-- Of two orders that differ in size and margin only, the larger one is assessed at least as
severely. -/
theorem severity_assessOrderIntent_mono {state : PortfolioState} (hstate : state.WellExposed)
    (context : OrderIntentContext) {size margin : Decimal} (now : Date)
    (hpos : 0 < context.positionSizeUsd) (hsize : context.positionSizeUsd ≤ size)
    (hmargin : context.requiredMarginUsd ≤ margin)
    (hexact : state.ProjectedExactly context)
    (hexact' : state.ProjectedExactly { context with positionSizeUsd := size })
    (hsleeve : 0 ≤ sleeveNavFor context state ∨ 0 ≤ engine.limits.maxPositionSizePct) :
    (engine.assessOrderIntent context state now).overallStatus.severity ≤
      (engine.assessOrderIntent
        { context with positionSizeUsd := size, requiredMarginUsd := margin } state
        now).overallStatus.severity := by
  cases hopen : engine.circuitBreakers.isAnyOpen with
  | true =>
    rw [engine.assessOrderIntent_status_of_open hopen, engine.assessOrderIntent_status_of_open hopen]
  | false =>
    rw [engine.assessOrderIntent_status_of_closed hopen,
      engine.assessOrderIntent_status_of_closed hopen]
    have hvenue := hstate.venues context.venueId
    have hasset := hstate.assets context.assetSymbol
    apply severity_rollUpStatus_mono
    exact .cons Escalates.rfl
      (.cons (checkGrossExposure_escalates _ hsize hstate.nav _)
      (.cons Escalates.rfl
      (.cons (concentrationCheck_escalates hsize hpos hvenue.1 hvenue.2 hexact.venue hexact'.venue
        hexact.gross hexact'.gross ..)
      (.cons (concentrationCheck_escalates hsize hpos hasset.1 hasset.2 hexact.asset hexact'.asset
        hexact.gross hexact'.gross ..)
      (.cons (checkLeverage_escalates _ hsize hstate.nav _)
      (.cons (checkLiquidityReserve_escalates _ hmargin hstate.nav _)
      (.cons Escalates.rfl
      (.cons Escalates.rfl
      (.cons Escalates.rfl
      (.cons (checkPositionSize_escalates _ hsize hpos hsleeve)
      (.cons Escalates.rfl .nil)))))))))))

/-- One venue holds `exposure` of the gross exposure; the sleeve `carry` has the given NAV. -/
def venueState (gross exposure sleeveNav : Decimal) : PortfolioState where
  totalNav := 10 * gross
  grossExposure := gross
  netExposure := 0
  liquidityReserve := 5 * gross
  currentDailyDrawdownPct := 0
  currentWeeklyDrawdownPct := 0
  currentPortfolioDrawdownPct := 0
  venueExposures := OrderedMap.empty.set "venue-a" exposure
  assetExposures := OrderedMap.empty.set "BTC" exposure
  sleeveNav := OrderedMap.empty.set "carry" sleeveNav
  openPositionCount := 1

theorem venueState_wellExposed {gross exposure : Decimal} (sleeveNav : Decimal)
    (hgross : 0 < gross) (h : 0 ≤ exposure) (hle : exposure ≤ gross) :
    (venueState gross exposure sleeveNav).WellExposed := by
  have hentry (key id : String) : 0 ≤ ((OrderedMap.empty.set key exposure).get? id).getD 0 ∧
      ((OrderedMap.empty.set key exposure).get? id).getD 0 ≤ gross := by
    rw [OrderedMap.get?_set]
    split_ifs
    · exact ⟨h, hle⟩
    · exact ⟨le_refl 0, hgross.le⟩
  exact ⟨mul_pos (by norm_num) hgross, hentry "venue-a", hentry "BTC"⟩

def orderOf (size : Decimal) : OrderIntentContext where
  intent :=
    { intentId := "ETH-funding_rate_arb-buy-0", venueId := "venue-a", asset := "ETH", side := .buy,
      type := .market, size := 2, limitPrice := none, opportunityId := "ETH-funding_rate_arb-0",
      reduceOnly := false, createdAt := 0
      metadata := OrderedMap.ofList [("sleeveId", .str "carry")] }
  venueId := "venue-a"
  assetSymbol := "ETH"
  positionSizeUsd := size
  deltaUsd := 0
  requiredMarginUsd := 0
  lastPriceUpdate := 0

def engineWith (limits : RiskLimits) : RiskEngine := ⟨limits, CircuitBreakerRegistry.create limits⟩

/-- The larger of two orders on an empty venue. -/
theorem severity_assessOrderIntent_mono_empty_venue :
    ((engineWith defaultRiskLimits).assessOrderIntent (orderOf 4) (venueState 1000 0 100)
        0).overallStatus.severity ≤
      ((engineWith defaultRiskLimits).assessOrderIntent
        { orderOf 4 with positionSizeUsd := 30, requiredMarginUsd := 30 } (venueState 1000 0 100)
        0).overallStatus.severity :=
  (engineWith defaultRiskLimits).severity_assessOrderIntent_mono
    (venueState_wellExposed 100 (by norm_num) le_rfl (by norm_num)) (orderOf 4) 0
    (by decide +kernel) (by decide +kernel) (by decide +kernel)
    ⟨by decide +kernel, by decide +kernel, by decide +kernel⟩
    ⟨by decide +kernel, by decide +kernel, by decide +kernel⟩ (Or.inl (by decide +kernel))

/-- With 10 ^ 20 USD at work the sum that 5 USD lead to is rounded up by 5 USD, which takes the
venue back below its limit; and a sleeve of negative NAV against a negative limit accepts the
larger order only. -/
theorem larger_order_less_severe :
    ((venueState (10 ^ 20) (4 * 10 ^ 19 - 2) 1000).WellExposed ∧
      ((engineWith defaultRiskLimits).assessOrderIntent (orderOf 4)
        (venueState (10 ^ 20) (4 * 10 ^ 19 - 2) 1000) 0).overallStatus = .failed ∧
      ((engineWith defaultRiskLimits).assessOrderIntent (orderOf 5)
        (venueState (10 ^ 20) (4 * 10 ^ 19 - 2) 1000) 0).overallStatus = .warning) ∧
    ((venueState 1000 0 (-100)).WellExposed ∧
      ((engineWith { defaultRiskLimits with maxPositionSizePct := -5 }).assessOrderIntent
        (orderOf 4) (venueState 1000 0 (-100)) 0).overallStatus = .failed ∧
      ((engineWith { defaultRiskLimits with maxPositionSizePct := -5 }).assessOrderIntent
        (orderOf 6) (venueState 1000 0 (-100)) 0).overallStatus = .passed) := by
  refine ⟨⟨venueState_wellExposed _ (by norm_num) (by norm_num) (by norm_num), ?_, ?_⟩,
    venueState_wellExposed _ (by norm_num) le_rfl (by norm_num), ?_, ?_⟩
  all_goals decide +kernel

end RiskEngine

end SentinelApex
