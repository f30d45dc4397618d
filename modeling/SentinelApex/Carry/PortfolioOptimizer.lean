import SentinelApex.Carry.Opportunity
import Mathlib.Data.List.Sort

/-!
# Position sizing and portfolio selection

`optimizeCarryPortfolio` first picks opportunities by score, one at a time, within the limits on
their number, and then gives each pick as much capital as sizing and concentration leave.

The functions of sizes are stated for any four operations. Those of `decimal.js` make them the
functions of the program, those of `ℚ` the same functions without intermediate rounding.
-/

namespace SentinelApex

/-! ## Position sizes -/

/-- The operations that the sizing functions compute with. -/
structure DecimalArithmetic where
  plus : Decimal → Decimal → Decimal
  minus : Decimal → Decimal → Decimal
  times : Decimal → Decimal → Decimal
  div : Decimal → Decimal → Decimal

namespace DecimalArithmetic

def decimalJs : DecimalArithmetic := ⟨Decimal.plus, Decimal.minus, Decimal.times, Decimal.div⟩

def exact : DecimalArithmetic := ⟨(· + ·), (· - ·), (· * ·), (· / ·)⟩

variable (D : DecimalArithmetic)

/-- `computePositionSize`: the size in USD, to the cent. -/
def computePositionSize (sleeveNav expectedYieldPct : Decimal) (confidenceScore : Number)
    (config : CarryConfig) (currentExposurePct : Decimal) : Decimal :=
  if sleeveNav = 0 then 0
  else
    let remainingCapacityPct := D.minus config.maxPositionSizePct currentExposurePct
    if remainingCapacityPct ≤ 0 then 0
    else
      let rawKellyFraction := D.times (D.div expectedYieldPct 100) confidenceScore
      let scaledSizePct := D.times (D.times rawKellyFraction config.kellyCriterionFraction) 100
      -- At least the default size, at most the maximum and the remaining capacity.
      let sizePct :=
        min (min (max scaledSizePct config.defaultPositionSizePct) config.maxPositionSizePct)
          remainingCapacityPct
      (D.div (D.times sleeveNav sizePct) 100).roundPlaces 2

/-- `computeMaxAllowedSize`: the share of the capacity that one more position may take. -/
def computeMaxAllowedSize (sleeveNav : Decimal) (currentPositions : ℕ) (config : CarryConfig) :
    Decimal :=
  if sleeveNav = 0 then 0
  else if config.maxConcurrentOpportunities ≤ currentPositions then 0
  else
    let maxTotalExposureUsd := D.div (D.times sleeveNav config.maxPositionSizePct) 100
    let remainingSlots := config.maxConcurrentOpportunities - currentPositions
    let perPositionMax := D.div maxTotalExposureUsd (remainingSlots : ℚ)
    let defaultSizeUsd := D.div (D.times sleeveNav config.defaultPositionSizePct) 100
    (min perPositionMax defaultSizeUsd).roundPlaces 2

end DecimalArithmetic

/-! ## Scores -/

structure OpportunityScoreBreakdown where
  yieldScore : Number
  confidenceScore : Number
  venueBreadthScore : Number
  diversificationScore : Number
  totalScore : Number
  deriving DecidableEq

structure OpportunitySelectionDecision where
  opportunity : CarryOpportunityCandidate
  score : OpportunityScoreBreakdown
  rationale : List String

structure OpportunityRejectionDecision where
  opportunity : CarryOpportunityCandidate
  reason : String

structure PortfolioCapitalAllocation where
  opportunity : CarryOpportunityCandidate
  positionSizeUsd : Decimal
  score : OpportunityScoreBreakdown
  rationale : List String

structure PortfolioOptimizationResult where
  selected : List PortfolioCapitalAllocation
  rejected : List OpportunityRejectionDecision

def clamp (value : Number) : Number := max 0 (min value 1)

def getCandidateVenueIds (opportunity : CarryOpportunityCandidate) : List String :=
  (opportunity.legs.map fun leg => leg.venueId).eraseDups

open Number in
def scoreOpportunity (opportunity : CarryOpportunityCandidate)
    (selectedAssets selectedVenues : List String) : OpportunityScoreBreakdown :=
  let venueIds := getCandidateVenueIds opportunity
  let yieldScore := clamp ((ofDecimal opportunity.netYieldPct).div 20)
  let confidenceScore := clamp (ofDecimal opportunity.confidenceScore)
  let venueBreadthScore :=
    clamp (Number.div (venueIds.length : ℚ) (max opportunity.legs.length 1 : ℕ))
  let assetBonus : Number :=
    if opportunity.asset ∈ selectedAssets then 0 else ofDecimal (65 / 100)
  let newVenueCount := (venueIds.filter fun venueId => venueId ∉ selectedVenues).length
  let venueBonus :=
    min (ofDecimal (35 / 100)) (Number.mul (newVenueCount : ℚ) (ofDecimal (15 / 100)))
  let diversificationScore := clamp (assetBonus.add venueBonus)
  let totalScore :=
    (((yieldScore.mul (1 / 2)).add (confidenceScore.mul (1 / 4))).add
      (venueBreadthScore.mul (ofDecimal (1 / 10)))).add
      (diversificationScore.mul (ofDecimal (15 / 100)))
  { yieldScore := yieldScore.roundPlaces 4
    confidenceScore := confidenceScore.roundPlaces 4
    venueBreadthScore := venueBreadthScore.roundPlaces 4
    diversificationScore := diversificationScore.roundPlaces 4
    totalScore := totalScore.roundPlaces 4 }

/-! ## Selection -/

structure SelectionState where
  remaining : List CarryOpportunityCandidate
  selected : List OpportunitySelectionDecision
  rejected : List OpportunityRejectionDecision
  selectedAssetCounts : OrderedMap String ℕ
  selectedVenueCounts : OrderedMap String ℕ
  selectedAssets : List String
  selectedVenues : List String

/-- `canSelectOpportunity`: the reason against the opportunity, if there is one. -/
def canSelectOpportunity (opportunity : CarryOpportunityCandidate)
    (selectedAssetCounts selectedVenueCounts : OrderedMap String ℕ) (config : CarryConfig) :
    Option String :=
  if config.maxOpportunitiesPerAsset ≤ (selectedAssetCounts.get? opportunity.asset).getD 0 then
    some s!"asset limit reached for {opportunity.asset}"
  else
    let full := (getCandidateVenueIds opportunity).find? fun venueId =>
      config.maxOpportunitiesPerVenue ≤ (selectedVenueCounts.get? venueId).getD 0
    full.map fun venueId => s!"venue limit reached for {venueId}"

/-- The remaining candidates by falling score; the order of equal scores stays. -/
def rank (s : SelectionState) : List CarryOpportunityCandidate :=
  s.remaining.insertionSort fun left right =>
    (scoreOpportunity right s.selectedAssets s.selectedVenues).totalScore ≤
      (scoreOpportunity left s.selectedAssets s.selectedVenues).totalScore

def selectionRationale (next : CarryOpportunityCandidate) (score : OpportunityScoreBreakdown)
    (s : SelectionState) : List String :=
  [s!"ranked by portfolio score {Decimal.toFixed score.totalScore 4}",
    s!"net yield score {Decimal.toFixed score.yieldScore 4}",
    s!"confidence score {Decimal.toFixed score.confidenceScore 4}"] ++
  (if next.asset ∈ s.selectedAssets then [] else [s!"diversifies asset exposure via {next.asset}"])
    ++
  (if (getCandidateVenueIds next).any fun venueId => venueId ∉ s.selectedVenues then
    ["adds venue diversification"] else [])

/-- Take an opportunity that the limits admit. -/
def SelectionState.select (s : SelectionState) (next : CarryOpportunityCandidate) :
    SelectionState :=
  let score := scoreOpportunity next s.selectedAssets s.selectedVenues
  let venueIds := getCandidateVenueIds next
  { s with
    selected := s.selected ++
      [{ opportunity := next, score, rationale := selectionRationale next score s }]
    selectedAssets := s.selectedAssets.insert next.asset
    selectedAssetCounts :=
      s.selectedAssetCounts.set next.asset ((s.selectedAssetCounts.get? next.asset).getD 0 + 1)
    selectedVenues := venueIds.foldl (fun venues venueId => venues.insert venueId) s.selectedVenues
    selectedVenueCounts := venueIds.foldl
      (fun counts venueId => counts.set venueId ((counts.get? venueId).getD 0 + 1))
      s.selectedVenueCounts }

/-- The selection loop. Each round takes one candidate from `remaining`, so as many rounds as
there are candidates suffice. -/
def selectionLoop (config : CarryConfig) : ℕ → SelectionState → SelectionState
  | 0, s => s
  | rounds + 1, s =>
    if s.selected.length < config.maxConcurrentOpportunities then
      match rank s with
      | [] => s
      | next :: remaining =>
        let s := { s with remaining }
        match canSelectOpportunity next s.selectedAssetCounts s.selectedVenueCounts config with
        | some reason =>
          selectionLoop config rounds
            { s with rejected := s.rejected ++ [{ opportunity := next, reason }] }
        | none => selectionLoop config rounds (s.select next)
    else s

def selectOpportunityCandidates (opportunities : List CarryOpportunityCandidate)
    (config : CarryConfig) :
    List OpportunitySelectionDecision × List OpportunityRejectionDecision :=
  let s := selectionLoop config opportunities.length
    { remaining := opportunities
      selected := []
      rejected := []
      selectedAssetCounts := OrderedMap.empty
      selectedVenueCounts := OrderedMap.empty
      selectedAssets := []
      selectedVenues := [] }
  (s.selected, s.rejected ++ s.remaining.map fun opportunity =>
    { opportunity, reason := "portfolio selection budget exhausted" })

/-! ## Allocation -/

structure PortfolioOptimizationInput where
  opportunities : List CarryOpportunityCandidate
  sleeveNav : Decimal
  currentGrossExposureUsd : Decimal
  currentOpenPositions : ℕ
  currentAssetExposureUsd : OrderedMap String Decimal
  currentVenueExposureUsd : OrderedMap String Decimal
  config : CarryConfig

structure AllocationState where
  selected : List PortfolioCapitalAllocation
  rejected : List OpportunityRejectionDecision
  plannedGrossExposureUsd : Decimal
  plannedOpenPositions : ℕ
  assetExposureUsd : OrderedMap String Decimal
  venueExposureUsd : OrderedMap String Decimal

namespace DecimalArithmetic

variable (D : DecimalArithmetic)

def legCounts (opportunity : CarryOpportunityCandidate) : OrderedMap String Decimal :=
  opportunity.legs.foldl
    (fun counts leg => counts.set leg.venueId (D.plus ((counts.get? leg.venueId).getD 0) 1))
    OrderedMap.empty

def buildVenueWeights (opportunity : CarryOpportunityCandidate) : OrderedMap String Decimal :=
  let totalLegs : Decimal := opportunity.legs.length
  (D.legCounts opportunity).entries.foldl (fun weights e => weights.set e.1 (D.div e.2 totalLegs))
    OrderedMap.empty

def assetCapUsd (input : PortfolioOptimizationInput) : Decimal :=
  D.div (D.times input.sleeveNav input.config.maxAssetExposurePct) 100

def venueCapUsd (input : PortfolioOptimizationInput) : Decimal :=
  D.div (D.times input.sleeveNav input.config.maxVenueExposurePct) 100

def venueCapacity (venueCapUsd : Decimal) (venueExposureUsd : OrderedMap String Decimal)
    (e : String × Decimal) : Decimal :=
  let remainingVenueCapacity := D.minus venueCapUsd ((venueExposureUsd.get? e.1).getD 0)
  if e.2 ≤ 0 then remainingVenueCapacity else D.div remainingVenueCapacity e.2

def venueCapacities (venueCapUsd : Decimal) (venueExposureUsd weights : OrderedMap String Decimal) :
    List Decimal :=
  weights.entries.map (D.venueCapacity venueCapUsd venueExposureUsd)

/-- The size that sizing, concentration and venue caps allow. -/
def allocatedSize (input : PortfolioOptimizationInput) (s : AllocationState)
    (opportunity : CarryOpportunityCandidate) : Decimal :=
  let navUsd := input.sleeveNav
  let config := input.config
  let currentExposurePct :=
    Decimal.roundPlaces (D.times (D.div s.plannedGrossExposureUsd navUsd) 100) 4
  let targetSizeUsd := D.computePositionSize navUsd opportunity.expectedAnnualYieldPct
    opportunity.confidenceScore config currentExposurePct
  let maxAllowedSizeUsd := D.computeMaxAllowedSize navUsd s.plannedOpenPositions config
  let assetRemainingUsd :=
    D.minus (D.assetCapUsd input) ((s.assetExposureUsd.get? opportunity.asset).getD 0)
  (maxAllowedSizeUsd :: assetRemainingUsd ::
    D.venueCapacities (D.venueCapUsd input) s.venueExposureUsd
      (D.buildVenueWeights opportunity)).foldl min targetSizeUsd

def addAllocation (s : AllocationState) (decision : OpportunitySelectionDecision)
    (normalizedPositionSizeUsd : Decimal) : AllocationState where
  selected := s.selected ++
    [{ opportunity := decision.opportunity
       positionSizeUsd := normalizedPositionSizeUsd
       score := decision.score
       rationale := decision.rationale ++
        [s!"position sized at {normalizedPositionSizeUsd.toFixed 2} USD within asset and " ++
          "venue concentration limits"] }]
  rejected := s.rejected
  plannedGrossExposureUsd := D.plus s.plannedGrossExposureUsd normalizedPositionSizeUsd
  plannedOpenPositions := s.plannedOpenPositions + 1
  assetExposureUsd := s.assetExposureUsd.set decision.opportunity.asset
    (D.plus ((s.assetExposureUsd.get? decision.opportunity.asset).getD 0) normalizedPositionSizeUsd)
  venueExposureUsd := (D.buildVenueWeights decision.opportunity).entries.foldl
    (fun exposure e => exposure.set e.1
      (D.plus ((exposure.get? e.1).getD 0) (D.times normalizedPositionSizeUsd e.2)))
    s.venueExposureUsd

def allocate (input : PortfolioOptimizationInput) (s : AllocationState)
    (decision : OpportunitySelectionDecision) : AllocationState :=
  let positionSizeUsd := D.allocatedSize input s decision.opportunity
  if positionSizeUsd ≤ 0 then
    { s with
      rejected := s.rejected ++
        [{ opportunity := decision.opportunity
           reason := "no portfolio capacity remains after concentration limits" }] }
  else D.addAllocation s decision (positionSizeUsd.truncPlaces 2)

def initialState (input : PortfolioOptimizationInput)
    (rejected : List OpportunityRejectionDecision) : AllocationState where
  selected := []
  rejected
  plannedGrossExposureUsd := input.currentGrossExposureUsd
  plannedOpenPositions := input.currentOpenPositions
  assetExposureUsd := input.currentAssetExposureUsd
  venueExposureUsd := input.currentVenueExposureUsd

def optimizeCarryPortfolio (input : PortfolioOptimizationInput) : PortfolioOptimizationResult :=
  if input.sleeveNav ≤ 0 then
    { selected := []
      rejected := input.opportunities.map fun opportunity =>
        { opportunity, reason := "sleeve NAV is zero" } }
  else
    let selection := selectOpportunityCandidates input.opportunities input.config
    let s := selection.1.foldl (D.allocate input) (initialState input selection.2)
    { selected := s.selected, rejected := s.rejected }

end DecimalArithmetic

/-! ## The functions of the program -/

abbrev computePositionSize := DecimalArithmetic.decimalJs.computePositionSize

abbrev computeMaxAllowedSize := DecimalArithmetic.decimalJs.computeMaxAllowedSize

abbrev buildVenueWeights := DecimalArithmetic.decimalJs.buildVenueWeights

abbrev venueCapacities := DecimalArithmetic.decimalJs.venueCapacities

abbrev allocatedSize := DecimalArithmetic.decimalJs.allocatedSize

abbrev allocate := DecimalArithmetic.decimalJs.allocate

abbrev optimizeCarryPortfolio := DecimalArithmetic.decimalJs.optimizeCarryPortfolio

/-! ## What is selected -/

variable {P : CarryOpportunityCandidate → Prop} (input : PortfolioOptimizationInput)

theorem selectionLoop_forall (config : CarryConfig) (rounds : ℕ) (s : SelectionState)
    (hremaining : ∀ o ∈ s.remaining, P o) (hselected : ∀ d ∈ s.selected, P d.opportunity) :
    ∀ d ∈ (selectionLoop config rounds s).selected, P d.opportunity := by
  induction rounds generalizing s with
  | zero => exact hselected
  | succ rounds ih =>
    unfold selectionLoop
    split_ifs with hbudget
    · have hrank : ∀ o ∈ rank s, P o := fun o ho =>
        hremaining o ((List.perm_insertionSort _ _).mem_iff.1 ho)
      cases hr : rank s with
      | nil => exact hselected
      | cons next remaining =>
        rw [hr] at hrank
        obtain ⟨hnext, hrest⟩ := List.forall_mem_cons.1 hrank
        dsimp only
        cases canSelectOpportunity next s.selectedAssetCounts s.selectedVenueCounts config with
        | some reason => exact ih _ hrest hselected
        | none =>
          refine ih _ hrest fun d hd => ?_
          rcases List.mem_append.1 hd with hd | hd
          · exact hselected d hd
          · rw [List.mem_singleton.1 hd]
            exact hnext
    · exact hselected

theorem selectOpportunityCandidates_mem (opportunities : List CarryOpportunityCandidate)
    (config : CarryConfig) :
    ∀ d ∈ (selectOpportunityCandidates opportunities config).1,
      d.opportunity ∈ opportunities :=
  selectionLoop_forall config _ _ (fun _ ho => ho) (by simp)

theorem Decimal.truncPlaces_nonneg {x : Decimal} (h : 0 ≤ x) (dp : ℕ) : 0 ≤ x.truncPlaces dp := by
  rw [truncPlaces, if_pos h]
  have hfloor : 0 ≤ ⌊x * 10 ^ dp⌋ := Int.floor_nonneg.2 (by positivity)
  have hcast : (0 : ℚ) ≤ ⌊x * 10 ^ dp⌋ := by exact_mod_cast hfloor
  positivity

namespace DecimalArithmetic

variable (D : DecimalArithmetic)

/-- A round of the loop rejects the opportunity, or gives it a size that is positive before it is
cut to cents. -/
theorem allocate_cases (s : AllocationState) (decision : OpportunitySelectionDecision) :
    (∃ rejected, D.allocate input s decision = { s with rejected }) ∨
      (0 < D.allocatedSize input s decision.opportunity ∧ D.allocate input s decision =
        D.addAllocation s decision ((D.allocatedSize input s decision.opportunity).truncPlaces 2)) := by
  unfold allocate
  dsimp only
  split_ifs with hsize
  · exact Or.inl ⟨_, rfl⟩
  · exact Or.inr ⟨not_le.1 hsize, rfl⟩

end DecimalArithmetic

theorem allocate_selected (s : AllocationState) (decision : OpportunitySelectionDecision) :
    (allocate input s decision).selected = s.selected ∨
    ∃ a : PortfolioCapitalAllocation, a.opportunity = decision.opportunity ∧
      0 ≤ a.positionSizeUsd ∧ (allocate input s decision).selected = s.selected ++ [a] := by
  unfold allocate
  rcases DecimalArithmetic.decimalJs.allocate_cases input s decision with ⟨rejected, h⟩ | ⟨hpos, h⟩
  · rw [h]
    exact Or.inl rfl
  · rw [h]
    refine Or.inr ⟨_, ?_, ?_, rfl⟩
    · rfl
    · exact Decimal.truncPlaces_nonneg hpos.le 2

theorem foldl_allocate_forall (decisions : List OpportunitySelectionDecision) (s : AllocationState)
    (hd : ∀ d ∈ decisions, P d.opportunity)
    (hs : ∀ a ∈ s.selected, P a.opportunity ∧ 0 ≤ a.positionSizeUsd) :
    ∀ a ∈ (decisions.foldl (allocate input) s).selected,
      P a.opportunity ∧ 0 ≤ a.positionSizeUsd := by
  induction decisions generalizing s with
  | nil => exact hs
  | cons decision decisions ih =>
    obtain ⟨hdec, hrest⟩ := List.forall_mem_cons.1 hd
    refine ih _ hrest ?_
    rcases allocate_selected input s decision with h | ⟨a, hopp, hsize, h⟩
    · rwa [h]
    · intro a' ha'
      rw [h] at ha'
      rcases List.mem_append.1 ha' with ha' | ha'
      · exact hs a' ha'
      · rw [List.mem_singleton.1 ha', hopp]
        exact ⟨hdec, hsize⟩

theorem optimizeCarryPortfolio_selected :
    ∀ a ∈ (optimizeCarryPortfolio input).selected,
      a.opportunity ∈ input.opportunities ∧ 0 ≤ a.positionSizeUsd := by
  unfold optimizeCarryPortfolio DecimalArithmetic.optimizeCarryPortfolio
  split_ifs with hnav
  · simp
  · exact foldl_allocate_forall input _ _
      (selectOpportunityCandidates_mem input.opportunities input.config)
      fun a ha => absurd ha List.not_mem_nil

end SentinelApex
