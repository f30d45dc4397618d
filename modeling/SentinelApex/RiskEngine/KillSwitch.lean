import SentinelApex.RiskEngine.Engine

/-!
# Kill switch and risk summary

Three functions encode the halt conditions separately: `evaluateKillSwitch` compares numbers,
`assessOrderIntent` compares decimals with a warning band, and `classifyRiskLevel` compares ratios
with thresholds. They agree because conversion to a double keeps the order and the ratio of a
drawdown beyond its limit rounds to at least one.

The limits that `classifyRiskLevel` divides by are positive.
-/

namespace SentinelApex

/-- `x.toFixed(dp)` of a double: the exact value rounded half up. -/
def Number.toFixed (x : Number) (dp : ℕ) : String :=
  if 10 ^ 21 ≤ |x| then x.toText else Decimal.toFixed x dp

inductive RiskLevel where
  | normal
  | elevated
  | high
  | critical
  deriving DecidableEq, Repr

/-- `Omit<RiskSummary, 'riskLevel'>`. -/
structure RiskMetrics where
  grossExposurePct : Number
  netExposurePct : Number
  leverage : Number
  liquidityReservePct : Number
  dailyDrawdownPct : Number
  weeklyDrawdownPct : Number
  portfolioDrawdownPct : Number
  openCircuitBreakers : List CircuitBreakerName

structure RiskSummary extends RiskMetrics where
  riskLevel : RiskLevel

/-- The quotient of two numbers given by their texts. -/
def ratio (x limit : Number) : Number := (Number.ofDecimal x).div (Number.ofDecimal limit)

def classifyRiskLevel (summary : RiskMetrics) (limits : RiskLimits) : RiskLevel :=
  if summary.openCircuitBreakers.length > 0 then .critical
  else
    let dailyRatio := ratio summary.dailyDrawdownPct limits.maxDailyDrawdownPct
    let weeklyRatio := ratio summary.weeklyDrawdownPct limits.maxWeeklyDrawdownPct
    let portfolioRatio := ratio summary.portfolioDrawdownPct limits.maxPortfolioDrawdownPct
    let leverageRatio := summary.leverage.div (Number.ofDecimal limits.maxLeverage)
    let worstDrawdown := max (max dailyRatio weeklyRatio) portfolioRatio
    if worstDrawdown ≥ Number.ofDecimal (9 / 10) ∨ leverageRatio ≥ Number.ofDecimal (95 / 100) then
      .critical
    else if worstDrawdown ≥ Number.ofDecimal (7 / 10) ∨
        leverageRatio ≥ Number.ofDecimal (8 / 10) then .high
    else if worstDrawdown ≥ Number.ofDecimal (5 / 10) ∨
        leverageRatio ≥ Number.ofDecimal (6 / 10) then .elevated
    else .normal

structure KillSwitchEvaluation where
  shouldHalt : Bool
  reasons : List String

namespace RiskEngine

variable (engine : RiskEngine)

def drawdownReason (label : String) (current limit : Number) : List String :=
  if Number.ofDecimal current > Number.ofDecimal limit then
    [s!"{label} drawdown ({(Number.ofDecimal current).toFixed 2}%) exceeds limit " ++
      s!"({limit.toText}%)."]
  else []

def evaluateKillSwitch (state : PortfolioState) : KillSwitchEvaluation :=
  let reasons :=
    drawdownReason "Daily" state.currentDailyDrawdownPct engine.limits.maxDailyDrawdownPct ++
    drawdownReason "Weekly" state.currentWeeklyDrawdownPct engine.limits.maxWeeklyDrawdownPct ++
    drawdownReason "Portfolio" state.currentPortfolioDrawdownPct
      engine.limits.maxPortfolioDrawdownPct ++
    engine.circuitBreakers.getOpenBreakers.map fun b =>
      s!"Circuit breaker '{b.name.text}' is open: {b.tripCondition}"
  { shouldHalt := reasons.length > 0, reasons }

/-- `x.div(nav)` as a number, or 0 for a zero NAV. -/
def navRatio (x nav : Decimal) : Number := if nav = 0 then 0 else Number.ofDecimal (x.div nav)

/-- `x.div(nav).times(100)` as a number, or 0 for a zero NAV. -/
def navPct (x nav : Decimal) : Number := if nav = 0 then 0 else Number.ofDecimal (pct x nav)

def riskMetrics (state : PortfolioState) : RiskMetrics where
  grossExposurePct := navPct state.grossExposure state.totalNav
  netExposurePct := navPct |state.netExposure| state.totalNav
  leverage := navRatio state.grossExposure state.totalNav
  liquidityReservePct := navPct state.liquidityReserve state.totalNav
  dailyDrawdownPct := state.currentDailyDrawdownPct
  weeklyDrawdownPct := state.currentWeeklyDrawdownPct
  portfolioDrawdownPct := state.currentPortfolioDrawdownPct
  openCircuitBreakers :=
    ((CircuitBreakerName.all.map engine.circuitBreakers.breakers).filter fun b =>
      decide (b.state = .opened)).map fun b => b.name

def getRiskSummary (state : PortfolioState) : RiskSummary :=
  let partialSummary := engine.riskMetrics state
  { partialSummary with riskLevel := classifyRiskLevel partialSummary engine.limits }

end RiskEngine

/-- A drawdown beyond its limit is one beyond it as decimals, and its ratio is at least one. -/
theorem lt_of_ofDecimal_lt {x limit : Number}
    (h : Number.ofDecimal limit < Number.ofDecimal x) : limit < x := by
  by_contra hle
  exact absurd (binary64.round_mono (not_lt.1 hle)) (not_le.2 h)

theorem one_le_ratio {x limit : Number} (hlimit : 0 < limit)
    (h : Number.ofDecimal limit < Number.ofDecimal x) : 1 ≤ ratio x limit := by
  have hpos : 0 < Number.ofDecimal limit := binary64.round_pos hlimit
  have hone : binary64.round 1 = 1 := by decide +kernel
  calc (1 : ℚ) = binary64.round 1 := hone.symm
    _ ≤ ratio x limit := binary64.round_mono ((one_le_div hpos).2 h.le)

theorem classifyRiskLevel_critical {summary : RiskMetrics} {limits : RiskLimits}
    (h : summary.openCircuitBreakers ≠ [] ∨
      1 ≤ ratio summary.dailyDrawdownPct limits.maxDailyDrawdownPct ∨
      1 ≤ ratio summary.weeklyDrawdownPct limits.maxWeeklyDrawdownPct ∨
      1 ≤ ratio summary.portfolioDrawdownPct limits.maxPortfolioDrawdownPct) :
    classifyRiskLevel summary limits = .critical := by
  have hnine : Number.ofDecimal (9 / 10) ≤ 1 := by decide +kernel
  unfold classifyRiskLevel
  split_ifs with hopen
  · rfl
  · have hworst : 1 ≤ max (max (ratio summary.dailyDrawdownPct limits.maxDailyDrawdownPct)
        (ratio summary.weeklyDrawdownPct limits.maxWeeklyDrawdownPct))
        (ratio summary.portfolioDrawdownPct limits.maxPortfolioDrawdownPct) := by
      rcases h with h | h | h | h
      · exact absurd (List.length_pos_iff.2 h) hopen
      · exact h.trans ((le_max_left _ _).trans (le_max_left _ _))
      · exact h.trans ((le_max_right _ _).trans (le_max_left _ _))
      · exact h.trans (le_max_right _ _)
    exact if_pos (Or.inl (hnine.trans hworst))

namespace RiskEngine

variable (engine : RiskEngine)

theorem getOpenBreakers_ne_nil_iff (reg : CircuitBreakerRegistry) :
    reg.getOpenBreakers ≠ [] ↔ reg.isAnyOpen = true := by
  simp [CircuitBreakerRegistry.getOpenBreakers, CircuitBreakerRegistry.isAnyOpen]

theorem drawdownReason_ne_nil_iff (label : String) (current limit : Number) :
    drawdownReason label current limit ≠ [] ↔
      Number.ofDecimal limit < Number.ofDecimal current := by
  unfold drawdownReason
  split_ifs with h <;> simpa using h

theorem evaluateKillSwitch_shouldHalt_iff (state : PortfolioState) :
    (engine.evaluateKillSwitch state).shouldHalt = true ↔
      Number.ofDecimal engine.limits.maxDailyDrawdownPct <
          Number.ofDecimal state.currentDailyDrawdownPct ∨
        Number.ofDecimal engine.limits.maxWeeklyDrawdownPct <
          Number.ofDecimal state.currentWeeklyDrawdownPct ∨
        Number.ofDecimal engine.limits.maxPortfolioDrawdownPct <
          Number.ofDecimal state.currentPortfolioDrawdownPct ∨
        engine.circuitBreakers.isAnyOpen = true := by
  rw [← drawdownReason_ne_nil_iff "Daily", ← drawdownReason_ne_nil_iff "Weekly",
    ← drawdownReason_ne_nil_iff "Portfolio", ← getOpenBreakers_ne_nil_iff]
  simp only [evaluateKillSwitch, gt_iff_lt, decide_eq_true_eq, List.length_pos_iff, ne_eq,
    List.append_eq_nil_iff, List.map_eq_nil_iff, not_and_or, or_assoc]

/-- The kill switch halts only what the pre-trade gate rejects and the summary calls critical. -/
theorem evaluateKillSwitch_agrees (state : PortfolioState)
    (hdaily : 0 < engine.limits.maxDailyDrawdownPct)
    (hweekly : 0 < engine.limits.maxWeeklyDrawdownPct)
    (hportfolio : 0 < engine.limits.maxPortfolioDrawdownPct) :
    ((engine.evaluateKillSwitch state).shouldHalt = true →
      (∀ context now, (engine.assessOrderIntent context state now).overallStatus = .failed) ∧
        (engine.getRiskSummary state).riskLevel = .critical) ∧
    ((∃ context now, (engine.assessOrderIntent context state now).overallStatus ≠ .failed) →
      (engine.evaluateKillSwitch state).shouldHalt = false) := by
  have hfailed : (engine.evaluateKillSwitch state).shouldHalt = true →
      ∀ context now, (engine.assessOrderIntent context state now).overallStatus = .failed := by
    intro hhalt context now
    by_contra hne
    have hadm := (engine.assessOrderIntent_ne_failed_iff context state now).1 hne
    rcases (engine.evaluateKillSwitch_shouldHalt_iff state).1 hhalt with h | h | h | h
    · exact absurd (lt_of_ofDecimal_lt h) (not_lt.2 hadm.daily)
    · exact absurd (lt_of_ofDecimal_lt h) (not_lt.2 hadm.weekly)
    · exact absurd (lt_of_ofDecimal_lt h) (not_lt.2 hadm.portfolio)
    · exact absurd hadm.breakers (by simp [h])
  refine ⟨fun hhalt => ⟨hfailed hhalt, classifyRiskLevel_critical ?_⟩, ?_⟩
  · rcases (engine.evaluateKillSwitch_shouldHalt_iff state).1 hhalt with h | h | h | h
    · exact Or.inr (Or.inl (one_le_ratio hdaily h))
    · exact Or.inr (Or.inr (Or.inl (one_le_ratio hweekly h)))
    · exact Or.inr (Or.inr (Or.inr (one_le_ratio hportfolio h)))
    · refine Or.inl ?_
      have hopen := (getOpenBreakers_ne_nil_iff engine.circuitBreakers).2 h
      simpa [riskMetrics, CircuitBreakerRegistry.getOpenBreakers] using hopen
  · rintro ⟨context, now, hne⟩
    by_contra hhalt
    exact hne (hfailed (by simpa using hhalt) context now)

/-- A portfolio that has lost 3 % within the day. -/
def drawdownState : PortfolioState where
  totalNav := 97000
  grossExposure := 50000
  netExposure := 0
  liquidityReserve := 40000
  currentDailyDrawdownPct := 3
  currentWeeklyDrawdownPct := 3
  currentPortfolioDrawdownPct := 3
  venueExposures := OrderedMap.empty
  assetExposures := OrderedMap.empty
  sleeveNav := OrderedMap.empty
  openPositionCount := 2

theorem evaluateKillSwitch_agrees_drawdownState :
    let engine : RiskEngine := ⟨defaultRiskLimits, CircuitBreakerRegistry.create defaultRiskLimits⟩
    (engine.evaluateKillSwitch drawdownState).shouldHalt = true ∧
      (engine.getRiskSummary drawdownState).riskLevel = .critical := by
  refine ⟨by decide +kernel, ?_⟩
  exact ((evaluateKillSwitch_agrees _ drawdownState defaultRiskLimits_positive.maxDailyDrawdownPct
    defaultRiskLimits_positive.maxWeeklyDrawdownPct
    defaultRiskLimits_positive.maxPortfolioDrawdownPct).1 (by decide +kernel)).2

end RiskEngine

end SentinelApex
