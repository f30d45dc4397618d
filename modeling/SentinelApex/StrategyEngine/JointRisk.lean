import SentinelApex.RiskEngine.Insolvency
import SentinelApex.StrategyEngine.Pipeline

/-!
# Limits after the approved intents of a cycle

The risk checks of a cycle compare each intent with the portfolio state at its start. An approved
intent therefore keeps the limits when it is applied alone (`approved_alone_withinLimits`), but the
approved intents of one cycle share the headroom and may break a limit together.
-/

namespace SentinelApex

namespace StrategyPipeline

/-- The portfolio after an intent is filled, as the risk checks project it. -/
def applyIntent (state : PortfolioState) (intent : OrderIntent) : PortfolioState :=
  match riskContext intent 0 with
  | none => state
  | some context =>
    { state with
      grossExposure := state.grossExposure.plus context.positionSizeUsd
      netExposure := state.netExposure.plus context.deltaUsd
      liquidityReserve := state.liquidityReserve.minus context.requiredMarginUsd
      venueExposures := state.venueExposures.set intent.venueId
        (((state.venueExposures.get? intent.venueId).getD 0).plus context.positionSizeUsd)
      assetExposures := state.assetExposures.set intent.asset
        (((state.assetExposures.get? intent.asset).getD 0).plus context.positionSizeUsd)
      openPositionCount := state.openPositionCount + 1 }

def applyIntents (state : PortfolioState) (intents : List OrderIntent) : PortfolioState :=
  intents.foldl applyIntent state

/-- The limits on gross and net exposure, leverage, liquidity reserve and open positions. A count
below a limit that is not whole may reach the next whole number. -/
structure WithinLimits (limits : RiskLimits) (state : PortfolioState) : Prop where
  gross : pct state.grossExposure state.totalNav ≤ limits.maxGrossExposurePct
  net : pct |state.netExposure| state.totalNav ≤ limits.maxNetExposurePct
  leverage : state.grossExposure.div state.totalNav ≤ limits.maxLeverage
  reserve : limits.minLiquidityReservePct ≤ pct state.liquidityReserve state.totalNav
  count : (state.openPositionCount : ℤ) ≤ ⌈limits.maxOpportunityCount⌉

theorem withinLimits_iff (limits : RiskLimits) (state : PortfolioState) :
    WithinLimits limits state ↔
      pct state.grossExposure state.totalNav ≤ limits.maxGrossExposurePct ∧
      pct |state.netExposure| state.totalNav ≤ limits.maxNetExposurePct ∧
      state.grossExposure.div state.totalNav ≤ limits.maxLeverage ∧
      limits.minLiquidityReservePct ≤ pct state.liquidityReserve state.totalNav ∧
      (state.openPositionCount : ℤ) ≤ ⌈limits.maxOpportunityCount⌉ :=
  ⟨fun h => ⟨h.gross, h.net, h.leverage, h.reserve, h.count⟩,
    fun ⟨hg, hn, hl, hr, hc⟩ => ⟨hg, hn, hl, hr, hc⟩⟩

instance (limits : RiskLimits) (state : PortfolioState) : Decidable (WithinLimits limits state) :=
  decidable_of_iff _ (withinLimits_iff limits state).symm

variable {pipeline : StrategyPipeline}

variable {intent : OrderIntent} {context : OrderIntentContext} {lastPriceUpdate : Date}

theorem riskContext_eq_some (h : riskContext intent lastPriceUpdate = some context)
    (lastPriceUpdate' : Date) :
    riskContext intent lastPriceUpdate' =
      some { context with lastPriceUpdate := lastPriceUpdate' } := by
  simp only [riskContext, Option.bind_eq_bind, Option.bind_eq_some_iff] at h ⊢
  obtain ⟨size, hsize, delta, hdelta, hc⟩ := h
  cases hc
  exact ⟨size, hsize, delta, hdelta, rfl⟩

theorem withinLimits_applyIntent {state : PortfolioState} {now : Date}
    (hcontext : riskContext intent lastPriceUpdate = some context)
    (h : pipeline.riskEngine.Admissible context state now) :
    WithinLimits pipeline.riskEngine.limits (applyIntent state intent) := by
  rw [applyIntent, riskContext_eq_some hcontext 0]
  have hcount : (state.openPositionCount : ℤ) < ⌈pipeline.riskEngine.limits.maxOpportunityCount⌉ :=
    Int.lt_ceil.2 (by exact_mod_cast h.count)
  refine ⟨h.gross, h.net, h.leverage, h.reserve, ?_⟩
  show ((state.openPositionCount + 1 : ℕ) : ℤ) ≤ _
  push_cast
  omega

/-- Whatever the list of intents, an intent that the risk checks of the cycle approve keeps the
limits when it alone is filled. -/
theorem approved_alone_withinLimits {intents : List OrderIntent} {state : PortfolioState}
    {clock : PlanClock} {results : List PlannedIntentAssessment}
    (h : pipeline.runRiskChecks intents state clock = some results) {r : PlannedIntentAssessment}
    (hr : r ∈ results) (happroved : r.approved = true) :
    WithinLimits pipeline.riskEngine.limits (applyIntent state r.intent) := by
  obtain ⟨i, hi⟩ := List.mem_iff_getElem?.1 hr
  rw [runRiskChecks_getElem? h, Option.bind_eq_some_iff] at hi
  obtain ⟨intent, -, hcheck⟩ := hi
  obtain ⟨hintent, hiff⟩ := checkIntent_eq_some hcheck
  obtain ⟨context, hcontext, hadm⟩ := hiff.1 happroved
  rw [hintent]
  exact withinLimits_applyIntent hcontext hadm

def sampleLeg (venueId : String) (side : LegSide) (instrumentType : InstrumentType) :
    OpportunityLeg where
  venueId
  asset := "BTC"
  side
  instrumentType
  estimatedPrice := 100
  estimatedFee := 5 / 100
  marketIdentity := none

/-- Short perpetual and long spot on one venue, at a funding rate of 10 %. -/
def fundingOpportunity (venueId : String) : CarryOpportunityCandidate where
  type := .fundingRateArb
  asset := "BTC"
  legs := [sampleLeg venueId .short .perpetual, sampleLeg venueId .long .spot]
  expectedAnnualYieldPct := 10
  netYieldPct := 10 - 14 / 100
  confidenceScore := 1
  detectedAt := 0
  expiresAt := 300000

/-- The carry sleeve with the default limits and configuration. -/
def samplePipeline : StrategyPipeline where
  sleeveId := "carry"
  riskEngine := RiskEngine.defaultEngine
  carryConfig := defaultCarryConfig

/-- A cycle that takes less than a millisecond. -/
def sampleClock : PlanClock where
  evaluatedAt := 0
  builtAt _ := 0
  priceUpdate _ := 0
  assessedAt _ := 0

/-- A NAV of 100 000 USD with positions of 16 000 USD and a reserve of 14 000 USD. -/
def sampleState : PortfolioState where
  totalNav := 100000
  grossExposure := 16000
  netExposure := 0
  liquidityReserve := 14000
  currentDailyDrawdownPct := 0
  currentWeeklyDrawdownPct := 0
  currentPortfolioDrawdownPct := 0
  venueExposures := OrderedMap.ofList [("venue-b", 8000), ("venue-c", 8000)]
  assetExposures := OrderedMap.ofList [("ETH", 8000), ("SOL", 8000)]
  sleeveNav := OrderedMap.ofList [("carry", 100000)]
  openPositionCount := 2

def sampleCandidates : List CarryOpportunityCandidate :=
  [fundingOpportunity "venue-a"]

/-- Each leg takes 4 000 USD and leaves a reserve of 10 %; both are approved, and together they
leave 6 %. -/
theorem joint_application_breaks_reserve :
    ¬ ∀ (pipeline : StrategyPipeline) (candidates : List CarryOpportunityCandidate)
      (state : PortfolioState) (clock : PlanClock) (plan : PlannedStrategyCycle),
      0 < state.totalNav → pipeline.planCycle candidates state clock = some plan →
      WithinLimits pipeline.riskEngine.limits (applyIntents state plan.approvedIntents) := by
  intro hall
  have hrun : (samplePipeline.planCycle sampleCandidates sampleState sampleClock).map
      (fun plan => decide (WithinLimits samplePipeline.riskEngine.limits
        (applyIntents sampleState plan.approvedIntents))) = some false := by
    decide +kernel
  obtain ⟨plan, hplan, hfalse⟩ := Option.map_eq_some_iff.1 hrun
  exact of_decide_eq_false hfalse
    (hall samplePipeline sampleCandidates sampleState sampleClock plan (by decide +kernel) hplan)

def sampleIntents : List OrderIntent :=
  samplePipeline.generateIntents (samplePipeline.evaluateOpportunities sampleCandidates sampleState
    sampleClock.evaluatedAt).allocations sampleClock.builtAt

theorem approved_alone_withinLimits_sample :
    ∃ results, samplePipeline.runRiskChecks sampleIntents sampleState sampleClock = some results ∧
      ∃ r ∈ results, r.approved = true ∧
        WithinLimits samplePipeline.riskEngine.limits (applyIntent sampleState r.intent) := by
  have hrun : (samplePipeline.runRiskChecks sampleIntents sampleState sampleClock).map
      (fun results => results.any fun r => r.approved) = some true := by
    decide +kernel
  obtain ⟨results, hresults, hany⟩ := Option.map_eq_some_iff.1 hrun
  obtain ⟨r, hr, happroved⟩ := List.any_eq_true.1 hany
  exact ⟨results, hresults, r, hr, happroved, approved_alone_withinLimits hresults hr happroved⟩

end StrategyPipeline

end SentinelApex
