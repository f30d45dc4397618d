import SentinelApex.StrategyEngine.JointRisk

/-!
# Verdicts on the two legs of an opportunity

The legs of an opportunity have one position size and one sleeve, so most checks say the same about
both (`SharedChecks`). The others read what is the leg's own (`LegChecks`): its side, venue, asset
and reading of the clock. Nothing joins the verdicts afterwards, so the legs part exactly when the
shared checks pass and one leg passes its own checks while the other does not.
-/

namespace SentinelApex

namespace StrategyPipeline

/-- The checks that read the same values for every leg of an opportunity. -/
structure SharedChecks (engine : RiskEngine) (state : PortfolioState) (sleeveId : String)
    (size : Decimal) : Prop where
  breakers : engine.circuitBreakers.isAnyOpen = false
  nav : state.totalNav ≠ 0
  gross : pct (state.grossExposure.plus size) state.totalNav ≤ engine.limits.maxGrossExposurePct
  projectedGross : state.grossExposure.plus size ≠ 0
  leverage : (state.grossExposure.plus size).div state.totalNav ≤ engine.limits.maxLeverage
  reserve : engine.limits.minLiquidityReservePct ≤
    pct (state.liquidityReserve.minus size) state.totalNav
  daily : state.currentDailyDrawdownPct ≤ engine.limits.maxDailyDrawdownPct
  weekly : state.currentWeeklyDrawdownPct ≤ engine.limits.maxWeeklyDrawdownPct
  portfolio : state.currentPortfolioDrawdownPct ≤ engine.limits.maxPortfolioDrawdownPct
  sleeve : (state.sleeveNav.get? sleeveId).getD state.totalNav ≠ 0
  positionSize : pct size ((state.sleeveNav.get? sleeveId).getD state.totalNav) ≤
    engine.limits.maxPositionSizePct
  count : (state.openPositionCount : ℚ) < engine.limits.maxOpportunityCount

def legDelta (leg : OpportunityLeg) (size : Decimal) : Decimal :=
  match leg.side with
  | .long => size
  | .short => -size

/-- The checks that read the leg's own side, venue, asset and clock. -/
structure LegChecks (engine : RiskEngine) (state : PortfolioState) (size : Decimal)
    (leg : OpportunityLeg) (lastPriceUpdate now : Date) : Prop where
  price : priceAgeSec lastPriceUpdate now ≤ engine.limits.maxPriceAgeSec
  net : pct |state.netExposure.plus (legDelta leg size)| state.totalNav ≤
    engine.limits.maxNetExposurePct
  venue : pct (((state.venueExposures.get? leg.venueId).getD 0).plus size)
    (state.grossExposure.plus size) ≤ engine.limits.maxSingleVenuePct
  asset : pct (((state.assetExposures.get? leg.asset).getD 0).plus size)
    (state.grossExposure.plus size) ≤ engine.limits.maxSingleAssetPct

def legContext (sleeveId : String) (a : PortfolioCapitalAllocation) (builtAt lastPriceUpdate : Date)
    (leg : OpportunityLeg) : OrderIntentContext where
  intent := buildLegIntent a.opportunity sleeveId a.positionSizeUsd builtAt leg
  venueId := leg.venueId
  assetSymbol := leg.asset
  positionSizeUsd := a.positionSizeUsd
  deltaUsd := legDelta leg a.positionSizeUsd
  requiredMarginUsd := a.positionSizeUsd
  lastPriceUpdate

theorem deltaUsd_orderSide (leg : OpportunityLeg) {size : Decimal} (h : 0 ≤ size) :
    deltaUsd leg.side.orderSide size = some (legDelta leg size) := by
  unfold legDelta
  cases leg.side with
  | long => rfl
  | short => simp [LegSide.orderSide, deltaUsd, not_lt.2 h]

theorem riskContext_buildLegIntent (sleeveId : String) {a : PortfolioCapitalAllocation}
    (h : 0 ≤ a.positionSizeUsd) (builtAt lastPriceUpdate : Date) (leg : OpportunityLeg) :
    riskContext (buildLegIntent a.opportunity sleeveId a.positionSizeUsd builtAt leg)
      lastPriceUpdate = some (legContext sleeveId a builtAt lastPriceUpdate leg) := by
  have hsize : positionSizeUsd
      (buildLegIntent a.opportunity sleeveId a.positionSizeUsd builtAt leg) =
        some a.positionSizeUsd := by
    rw [positionSizeUsd, buildLegIntent_positionSizeUsd]
    rfl
  have hdelta : deltaUsd (buildLegIntent a.opportunity sleeveId a.positionSizeUsd builtAt leg).side
      a.positionSizeUsd = some (legDelta leg a.positionSizeUsd) := deltaUsd_orderSide leg h
  simp only [riskContext, hsize, Option.bind_eq_bind, Option.bind_some, hdelta]
  rfl

theorem sleeveNavFor_legContext (sleeveId : String) (a : PortfolioCapitalAllocation)
    (builtAt lastPriceUpdate : Date) (leg : OpportunityLeg) (state : PortfolioState) :
    RiskEngine.sleeveNavFor (legContext sleeveId a builtAt lastPriceUpdate leg) state =
      (state.sleeveNav.get? sleeveId).getD state.totalNav := by
  simp only [RiskEngine.sleeveNavFor, legContext, buildLegIntent_sleeveId, Json.text]

/-- The suite of checks splits into the shared ones and the leg's own. -/
theorem admissible_legContext_iff (engine : RiskEngine) (sleeveId : String)
    (a : PortfolioCapitalAllocation) (builtAt lastPriceUpdate now : Date) (leg : OpportunityLeg)
    (state : PortfolioState) :
    engine.Admissible (legContext sleeveId a builtAt lastPriceUpdate leg) state now ↔
      SharedChecks engine state sleeveId a.positionSizeUsd ∧
        LegChecks engine state a.positionSizeUsd leg lastPriceUpdate now := by
  have hsleeve := sleeveNavFor_legContext sleeveId a builtAt lastPriceUpdate leg state
  constructor
  · intro h
    have hnav := h.sleeve
    have hsize := h.positionSize
    rw [hsleeve] at hnav hsize
    exact ⟨⟨h.breakers, h.nav, h.gross, h.projectedGross, h.leverage, h.reserve, h.daily, h.weekly,
      h.portfolio, hnav, hsize, h.count⟩, ⟨h.price, h.net, h.venue, h.asset⟩⟩
  · rintro ⟨hs, hl⟩
    have hnav := hs.sleeve
    have hsize := hs.positionSize
    rw [← hsleeve] at hnav hsize
    exact ⟨hs.breakers, hl.price, hs.nav, hs.gross, hl.net, hs.projectedGross, hl.venue, hl.asset,
      hs.leverage, hs.reserve, hs.daily, hs.weekly, hs.portfolio, hnav, hsize, hs.count⟩

variable {pipeline : StrategyPipeline}

def legCount (allocations : List PortfolioCapitalAllocation) : ℕ :=
  (allocations.map fun a => a.opportunity.legs.length).sum

theorem length_generateIntents (pipeline : StrategyPipeline)
    (allocations : List PortfolioCapitalAllocation) (builtAt : ℕ → Date) :
    (pipeline.generateIntents allocations builtAt).length = legCount allocations := by
  have key : ∀ (l : List PortfolioCapitalAllocation) (n : ℕ),
      ((l.zipIdx n).flatMap fun e => buildIntentsFromOpportunity e.1.opportunity pipeline.sleeveId
        e.1.positionSizeUsd (builtAt e.2)).length = legCount l := by
    intro l
    induction l with
    | nil => intro n; rfl
    | cons a l ih =>
      intro n
      rw [List.zipIdx_cons, List.flatMap_cons, List.length_append, ih]
      simp [legCount, buildIntentsFromOpportunity]
  exact key allocations 0

theorem generateIntents_getElem? (pre post : List PortfolioCapitalAllocation)
    (a : PortfolioCapitalAllocation) (builtAt : ℕ → Date) {j : ℕ}
    (hj : j < a.opportunity.legs.length) :
    (pipeline.generateIntents (pre ++ a :: post) builtAt)[legCount pre + j]? =
      (a.opportunity.legs[j]?).map (buildLegIntent a.opportunity pipeline.sleeveId
        a.positionSizeUsd (builtAt pre.length)) := by
  have hlen := length_generateIntents pipeline pre builtAt
  unfold generateIntents at hlen ⊢
  rw [List.zipIdx_append, List.flatMap_append, List.zipIdx_cons, List.flatMap_cons,
    List.getElem?_append_right (by omega), hlen, Nat.add_sub_cancel_left,
    List.getElem?_append_left (by simpa [buildIntentsFromOpportunity] using hj)]
  simp [buildIntentsFromOpportunity]

section

variable (pipeline) (candidates : List CarryOpportunityCandidate) (state : PortfolioState)
  (clock : PlanClock)

def allocations : List PortfolioCapitalAllocation :=
  (pipeline.evaluateOpportunities candidates state clock.evaluatedAt).allocations

theorem allocations_size_nonneg :
    ∀ a ∈ pipeline.allocations candidates state clock, 0 ≤ a.positionSizeUsd :=
  fun a ha => (optimizeCarryPortfolio_selected _ a ha).2

theorem allocations_opportunity_mem :
    ∀ a ∈ pipeline.allocations candidates state clock, a.opportunity ∈ candidates :=
  fun a ha => List.mem_of_mem_filter (optimizeCarryPortfolio_selected _ a ha).1

/-- The optimizer gives no negative size, so the risk checks of a cycle do not throw. -/
theorem planCycle_isSome : (pipeline.planCycle candidates state clock).isSome := by
  have hrisk : (pipeline.runRiskChecks (pipeline.generateIntents
      (pipeline.allocations candidates state clock) clock.builtAt) state clock).isSome := by
    refine runRiskChecks_isSome fun intent hintent lastPriceUpdate => ?_
    obtain ⟨e, he, hleg⟩ := List.mem_flatMap.1 hintent
    obtain ⟨leg, -, rfl⟩ := List.mem_map.1 hleg
    have hsize := pipeline.allocations_size_nonneg candidates state clock e.1
      (List.fst_mem_of_mem_zipIdx he)
    rw [riskContext_buildLegIntent pipeline.sleeveId hsize]
    rfl
  obtain ⟨results, hresults⟩ := Option.isSome_iff_exists.1 hrisk
  unfold allocations at hresults
  simp [planCycle, hresults]

end

section

variable {candidates : List CarryOpportunityCandidate} {state : PortfolioState} {clock : PlanClock}
  {plan : PlannedStrategyCycle} (h : pipeline.planCycle candidates state clock = some plan)

include h

theorem planCycle_riskResults :
    pipeline.runRiskChecks (pipeline.generateIntents (pipeline.allocations candidates state clock)
      clock.builtAt) state clock = some plan.riskResults := by
  simp only [planCycle, Option.bind_eq_bind, Option.bind_eq_some_iff] at h
  obtain ⟨results, hresults, hplan⟩ := h
  cases hplan
  exact hresults

/-- The verdict on one leg of an allocation of the cycle. -/
theorem leg_approved_iff {pre post : List PortfolioCapitalAllocation}
    {a : PortfolioCapitalAllocation}
    (ha : pipeline.allocations candidates state clock = pre ++ a :: post) {j : ℕ}
    {leg : OpportunityLeg} (hleg : a.opportunity.legs[j]? = some leg) :
    ∃ r, plan.riskResults[legCount pre + j]? = some r ∧
      r.intent = buildLegIntent a.opportunity pipeline.sleeveId a.positionSizeUsd
        (clock.builtAt pre.length) leg ∧
      (r.approved = true ↔
        SharedChecks pipeline.riskEngine state pipeline.sleeveId a.positionSizeUsd ∧
          LegChecks pipeline.riskEngine state a.positionSizeUsd leg
            (clock.priceUpdate (legCount pre + j)) (clock.assessedAt (legCount pre + j))) := by
  have hsize : 0 ≤ a.positionSizeUsd :=
    pipeline.allocations_size_nonneg candidates state clock a (by rw [ha]; simp)
  have hj : j < a.opportunity.legs.length := (List.getElem?_eq_some_iff.1 hleg).1
  have hget := runRiskChecks_getElem? (planCycle_riskResults h) (legCount pre + j)
  rw [ha, generateIntents_getElem? pre post a clock.builtAt hj, hleg, Option.map_some,
    Option.bind_some] at hget
  have hcontext := riskContext_buildLegIntent pipeline.sleeveId hsize (clock.builtAt pre.length)
    (clock.priceUpdate (legCount pre + j)) leg
  obtain ⟨r, hr⟩ : ∃ r, pipeline.checkIntent (buildLegIntent a.opportunity pipeline.sleeveId
      a.positionSizeUsd (clock.builtAt pre.length) leg) state
      (clock.priceUpdate (legCount pre + j)) (clock.assessedAt (legCount pre + j)) = some r := by
    simp [checkIntent, assessIntent, hcontext]
  obtain ⟨hintent, hiff⟩ := checkIntent_eq_some hr
  refine ⟨r, hget.trans hr, hintent, ?_⟩
  rw [hiff, hcontext, ← admissible_legContext_iff pipeline.riskEngine pipeline.sleeveId a
    (clock.builtAt pre.length)]
  simp

end

/-- Both legs of a selected opportunity get the same verdict, unless the checks that they share
pass and exactly one of them passes its own. -/
theorem legs_same_verdict_iff {candidates : List CarryOpportunityCandidate}
    {state : PortfolioState} {clock : PlanClock} {plan : PlannedStrategyCycle}
    (h : pipeline.planCycle candidates state clock = some plan)
    {pre post : List PortfolioCapitalAllocation} {a : PortfolioCapitalAllocation}
    (ha : pipeline.allocations candidates state clock = pre ++ a :: post)
    {leg₁ leg₂ : OpportunityLeg} (hlegs : a.opportunity.legs = [leg₁, leg₂]) :
    ∃ r₁ r₂, plan.riskResults[legCount pre]? = some r₁ ∧
      plan.riskResults[legCount pre + 1]? = some r₂ ∧
      r₁.intent = buildLegIntent a.opportunity pipeline.sleeveId a.positionSizeUsd
        (clock.builtAt pre.length) leg₁ ∧
      r₂.intent = buildLegIntent a.opportunity pipeline.sleeveId a.positionSizeUsd
        (clock.builtAt pre.length) leg₂ ∧
      (r₁.approved = r₂.approved ↔
        ¬ SharedChecks pipeline.riskEngine state pipeline.sleeveId a.positionSizeUsd ∨
        (LegChecks pipeline.riskEngine state a.positionSizeUsd leg₁
            (clock.priceUpdate (legCount pre)) (clock.assessedAt (legCount pre)) ↔
          LegChecks pipeline.riskEngine state a.positionSizeUsd leg₂
            (clock.priceUpdate (legCount pre + 1)) (clock.assessedAt (legCount pre + 1)))) := by
  have hleg₁ : a.opportunity.legs[0]? = some leg₁ := by simp [hlegs]
  have hleg₂ : a.opportunity.legs[1]? = some leg₂ := by simp [hlegs]
  obtain ⟨r₁, hr₁, hi₁, happ₁⟩ := leg_approved_iff h ha hleg₁
  obtain ⟨r₂, hr₂, hi₂, happ₂⟩ := leg_approved_iff h ha hleg₂
  refine ⟨r₁, r₂, hr₁, hr₂, hi₁, hi₂, ?_⟩
  rw [Bool.eq_iff_iff, happ₁, happ₂, Nat.add_zero, and_congr_right_iff, imp_iff_not_or]

/-- Nearly half of the positions are on the venue of the long leg. -/
def concentratedState : PortfolioState :=
  { sampleState with
    grossExposure := 17000
    liquidityReserve := 80000
    venueExposures := OrderedMap.ofList [("venue-a", 7000), ("venue-b", 5000), ("venue-c", 5000)] }

/-- BTC is 1 % cheaper on the first venue than on the second. -/
def spreadOpportunity (longVenue shortVenue : String) : CarryOpportunityCandidate where
  type := .crossVenueSpread
  asset := "BTC"
  legs := [sampleLeg longVenue .long .spot, sampleLeg shortVenue .short .spot]
  expectedAnnualYieldPct := 365
  netYieldPct := (1 - 14 / 100) * 365
  confidenceScore := 1
  detectedAt := 0
  expiresAt := 300000

def spreadCandidates : List CarryOpportunityCandidate := [spreadOpportunity "venue-a" "venue-d"]

/-- The long leg would hold half of the exposure on its venue and is rejected; the short leg is
approved alone. -/
theorem short_leg_approved_alone :
    (samplePipeline.planCycle spreadCandidates concentratedState sampleClock).map
      (fun plan => (plan.intentsGenerated.map fun intent => (intent.opportunityId, intent.side),
        plan.approvedIntents.map fun intent => (intent.opportunityId, intent.side))) =
      some ([("BTC-cross_venue_spread-0", .buy), ("BTC-cross_venue_spread-0", .sell)],
        [("BTC-cross_venue_spread-0", .sell)]) := by
  decide +kernel

theorem legs_same_verdict_iff_crossVenue :
    ∃ plan size r₁ r₂, samplePipeline.planCycle spreadCandidates concentratedState sampleClock =
        some plan ∧
      plan.riskResults[0]? = some r₁ ∧ plan.riskResults[1]? = some r₂ ∧
      (r₁.approved = r₂.approved ↔
        ¬ SharedChecks samplePipeline.riskEngine concentratedState "carry" size ∨
        (LegChecks samplePipeline.riskEngine concentratedState size
            (sampleLeg "venue-a" .long .spot) 0 0 ↔
          LegChecks samplePipeline.riskEngine concentratedState size
            (sampleLeg "venue-d" .short .spot) 0 0)) := by
  obtain ⟨plan, hplan⟩ := Option.isSome_iff_exists.1
    (samplePipeline.planCycle_isSome spreadCandidates concentratedState sampleClock)
  have hone : (samplePipeline.allocations spreadCandidates concentratedState
      sampleClock).length = 1 := by
    decide +kernel
  obtain ⟨a, ha⟩ := List.length_eq_one_iff.1 hone
  have hmem := samplePipeline.allocations_opportunity_mem spreadCandidates concentratedState
    sampleClock a (by simp [ha])
  have hlegs : a.opportunity.legs =
      [sampleLeg "venue-a" .long .spot, sampleLeg "venue-d" .short .spot] := by
    rw [List.mem_singleton.1 hmem]
    rfl
  obtain ⟨r₁, r₂, hr₁, hr₂, -, -, hiff⟩ :=
    legs_same_verdict_iff hplan (ha.trans (List.nil_append _).symm) hlegs
  exact ⟨plan, a.positionSizeUsd, r₁, r₂, hplan, hr₁, hr₂, hiff⟩

end StrategyPipeline

end SentinelApex
