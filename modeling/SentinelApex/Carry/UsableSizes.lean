import SentinelApex.Lib.Clamp
import SentinelApex.Lib.Runs
import SentinelApex.Domain.Places
import SentinelApex.Carry.PortfolioOptimizer

/-!
# Sizes of the optimizer beside the exposure cap

A round of the allocation loop takes the least of several limits, tests that it is positive, and
then cuts it to cents. A size of no cents at all comes from a room of less than a cent at the asset
or at a venue; the limits that the sizer gives are whole cents. What the cap leaves enters a round
as a percentage of four decimals, so that the limit made of it can be larger than what is left.
-/

namespace SentinelApex

/-! ## The limits of a round -/

def shareUsd (sleeveNav pct : Decimal) : Decimal := ((sleeveNav.times pct).div 100).roundPlaces 2

theorem shareUsd_mono {sleeveNav : Decimal} (hnav : 0 < sleeveNav) :
    Monotone (shareUsd sleeveNav) := by
  intro x y h
  refine Decimal.roundPlaces_mono (decimalJs.round_mono ?_) 2
  refine div_le_div_of_nonneg_right (decimalJs.round_mono ?_) (by norm_num)
  exact mul_le_mul_of_nonneg_left h hnav.le

section

variable (input : PortfolioOptimizationInput) (s : AllocationState)
  (opportunity : CarryOpportunityCandidate)

/-- What the exposure, as a percentage of four decimals, leaves of the largest one. -/
def remainingCapacityPct : Decimal :=
  input.config.maxPositionSizePct.minus
    (((s.plannedGrossExposureUsd.div input.sleeveNav).times 100).roundPlaces 4)

/-- The Kelly share of the NAV, at least the default one. -/
def kellySizePct : Decimal :=
  max (((((opportunity.expectedAnnualYieldPct.div 100).times opportunity.confidenceScore).times
    input.config.kellyCriterionFraction)).times 100) input.config.defaultPositionSizePct

/-- What the asset and each venue of an opportunity leave for it. -/
def roomsUsd : List Decimal :=
  ((input.sleeveNav.times input.config.maxAssetExposurePct).div 100).minus
      ((s.assetExposureUsd.get? opportunity.asset).getD 0) ::
    venueCapacities ((input.sleeveNav.times input.config.maxVenueExposurePct).div 100)
      s.venueExposureUsd (buildVenueWeights opportunity)

/-- What the sizer gives, in cents: the shares of the NAV and the share of one slot. -/
def sizerLimitsUsd : List Decimal :=
  [shareUsd input.sleeveNav (kellySizePct input opportunity),
    shareUsd input.sleeveNav input.config.maxPositionSizePct,
    shareUsd input.sleeveNav (remainingCapacityPct input s),
    computeMaxAllowedSize input.sleeveNav s.plannedOpenPositions input.config]

def limitsUsd : List Decimal := sizerLimitsUsd input s opportunity ++ roomsUsd input s opportunity

end

variable {input : PortfolioOptimizationInput} {s : AllocationState}
  {opportunity : CarryOpportunityCandidate}

section

variable (hnav : 0 < input.sleeveNav)

include hnav

theorem allocatedSize_eq (h : 0 < remainingCapacityPct input s) :
    allocatedSize input s opportunity =
      (limitsUsd input s opportunity).tail.foldl min
        (shareUsd input.sleeveNav (kellySizePct input opportunity)) := by
  have hmono := shareUsd_mono hnav
  have htarget : computePositionSize input.sleeveNav opportunity.expectedAnnualYieldPct
      opportunity.confidenceScore input.config
      (((s.plannedGrossExposureUsd.div input.sleeveNav).times 100).roundPlaces 4) =
        min (min (shareUsd input.sleeveNav (kellySizePct input opportunity))
          (shareUsd input.sleeveNav input.config.maxPositionSizePct))
            (shareUsd input.sleeveNav (remainingCapacityPct input s)) := by
    rw [← hmono.map_min, ← hmono.map_min, computePositionSize,
      DecimalArithmetic.computePositionSize, if_neg hnav.ne']
    exact if_neg (not_le.2 h)
  exact (congrArg (fun target => (computeMaxAllowedSize input.sleeveNav s.plannedOpenPositions
    input.config :: roomsUsd input s opportunity).foldl min target) htarget).trans rfl

theorem allocatedSize_nonpos (h : remainingCapacityPct input s ≤ 0) :
    allocatedSize input s opportunity ≤ 0 := by
  refine Clamp.foldl_min_le_iff.2 (Or.inl ?_)
  rw [DecimalArithmetic.computePositionSize, if_neg hnav.ne']
  exact (if_pos h).le

theorem allocatedSize_mem (h : 0 < remainingCapacityPct input s) :
    allocatedSize input s opportunity ∈ limitsUsd input s opportunity := by
  rw [allocatedSize_eq hnav h]
  exact List.min?_mem rfl

theorem le_allocatedSize_iff (h : 0 < remainingCapacityPct input s) {m : Decimal} :
    m ≤ allocatedSize input s opportunity ↔ ∀ limit ∈ limitsUsd input s opportunity, m ≤ limit := by
  rw [allocatedSize_eq hnav h, Clamp.le_foldl_min_iff]
  exact List.forall_mem_cons.symm

end

/-- An opportunity that is passed over: no capacity is left, or some limit is. -/
def Exhausted (input : PortfolioOptimizationInput) (s : AllocationState)
    (opportunity : CarryOpportunityCandidate) : Prop :=
  remainingCapacityPct input s ≤ 0 ∨ ∃ limit ∈ limitsUsd input s opportunity, limit ≤ 0

instance : Decidable (Exhausted input s opportunity) := inferInstanceAs (Decidable (_ ∨ _))

theorem allocatedSize_nonpos_iff (hnav : 0 < input.sleeveNav) :
    allocatedSize input s opportunity ≤ 0 ↔ Exhausted input s opportunity := by
  rcases le_or_gt (remainingCapacityPct input s) 0 with h | h
  · exact iff_of_true (allocatedSize_nonpos hnav h) (Or.inl h)
  · constructor
    · exact fun hsize => Or.inr ⟨_, allocatedSize_mem hnav h, hsize⟩
    · rintro (hle | ⟨limit, hlimit, hle⟩)
      · exact absurd hle (not_le.2 h)
      · exact ((le_allocatedSize_iff hnav h).1 le_rfl limit hlimit).trans hle

/-! ## Sizes in cents -/

theorem sizerLimitsUsd_mem {limit : Decimal} (h : limit ∈ sizerLimitsUsd input s opportunity) :
    limit ∈ Decimal.Places 2 := by
  have hmax : computeMaxAllowedSize input.sleeveNav s.plannedOpenPositions input.config ∈
      Decimal.Places 2 := by
    unfold computeMaxAllowedSize DecimalArithmetic.computeMaxAllowedSize
    split_ifs
    · exact zero_mem _
    · exact zero_mem _
    · exact Decimal.roundPlaces_mem _ 2
  simp only [sizerLimitsUsd, List.mem_cons, List.not_mem_nil, or_false] at h
  rcases h with rfl | rfl | rfl | rfl
  · exact Decimal.roundPlaces_mem _ 2
  · exact Decimal.roundPlaces_mem _ 2
  · exact Decimal.roundPlaces_mem _ 2
  · exact hmax

theorem truncPlaces_pos_iff {x : Decimal} (h : 0 < x) : 0 < x.truncPlaces 2 ↔ 1 / 100 ≤ x := by
  have hscale : (0 : ℚ) < 10 ^ 2 := by norm_num
  rw [Decimal.truncPlaces, if_pos h.le, div_pos_iff_of_pos_right hscale, Int.cast_pos,
    Int.floor_pos]
  constructor <;> intro hx <;> linarith

theorem truncPlaces_mono {x y : Decimal} (h0 : 0 ≤ x) (h : x ≤ y) :
    x.truncPlaces 2 ≤ y.truncPlaces 2 := by
  have hfloor : ⌊x * 10 ^ 2⌋ ≤ ⌊y * 10 ^ 2⌋ := Int.floor_mono (by linarith)
  rw [Decimal.truncPlaces, Decimal.truncPlaces, if_pos h0, if_pos (h0.trans h)]
  exact div_le_div_of_nonneg_right (by exact_mod_cast hfloor) (by norm_num)

/-! ## Rounds that keep to the cap -/

def grossExposureUsd (input : PortfolioOptimizationInput)
    (selected : List PortfolioCapitalAllocation) : ℚ :=
  input.currentGrossExposureUsd + (selected.map (·.positionSizeUsd)).sum

/-- What the exposure may become: the share of the NAV, or what it is already. -/
def exposureBoundUsd (input : PortfolioOptimizationInput) : ℚ :=
  max input.currentGrossExposureUsd (input.sleeveNav * input.config.maxPositionSizePct / 100)

/-- Usable sizes that stay within the cap. -/
structure UsableWithinCap (input : PortfolioOptimizationInput)
    (selected : List PortfolioCapitalAllocation) : Prop where
  usable : ∀ a ∈ selected, 0 < a.positionSizeUsd
  within : grossExposureUsd input selected ≤ exposureBoundUsd input

/-- A round that finds no room of less than a cent, and at least one limit that, in cents, fits
below the cap. -/
def HasRoomFor (input : PortfolioOptimizationInput) (s : AllocationState)
    (opportunity : CarryOpportunityCandidate) : Prop :=
  (∀ room ∈ roomsUsd input s opportunity, 1 / 100 ≤ room) ∧
    ∃ limit ∈ limitsUsd input s opportunity,
      limit.truncPlaces 2 ≤ exposureBoundUsd input - grossExposureUsd input s.selected

instance : Decidable (HasRoomFor input s opportunity) := inferInstanceAs (Decidable (_ ∧ _))

theorem one_cent_le_iff (hpos : ∀ limit ∈ limitsUsd input s opportunity, 0 < limit) :
    (∀ limit ∈ limitsUsd input s opportunity, 1 / 100 ≤ limit) ↔
      ∀ room ∈ roomsUsd input s opportunity, 1 / 100 ≤ room := by
  constructor
  · exact fun h room hroom => h room (List.mem_append_right _ hroom)
  · intro h limit hlimit
    rcases List.mem_append.1 hlimit with hsizer | hroom
    · rw [← Decimal.unitOf_two]
      exact Decimal.unitOf_le (hpos limit hlimit) (sizerLimitsUsd_mem hsizer)
    · exact h limit hroom

/-- A size that is cut to cents is usable and fits exactly when the round says so. -/
theorem truncPlaces_allocatedSize_iff (hnav : 0 < input.sleeveNav)
    (h : ¬ Exhausted input s opportunity) :
    (0 < (allocatedSize input s opportunity).truncPlaces 2 ∧
      (allocatedSize input s opportunity).truncPlaces 2 ≤
        exposureBoundUsd input - grossExposureUsd input s.selected) ↔
      HasRoomFor input s opportunity := by
  have hsize : 0 < allocatedSize input s opportunity :=
    not_le.1 fun hle => h ((allocatedSize_nonpos_iff hnav).1 hle)
  obtain ⟨hcapacity, hlimits⟩ := not_or.1 h
  have hcapacity' : 0 < remainingCapacityPct input s := not_le.1 hcapacity
  have hpos : ∀ limit ∈ limitsUsd input s opportunity, 0 < limit :=
    fun limit hlimit => not_le.1 fun hle => hlimits ⟨limit, hlimit, hle⟩
  rw [truncPlaces_pos_iff hsize, le_allocatedSize_iff hnav hcapacity', one_cent_le_iff hpos]
  refine and_congr_right fun _ => ⟨fun hfits => ?_, ?_⟩
  · exact ⟨_, allocatedSize_mem hnav hcapacity', hfits⟩
  · rintro ⟨limit, hlimit, hfits⟩
    exact (truncPlaces_mono hsize.le ((le_allocatedSize_iff hnav hcapacity').1 le_rfl limit
      hlimit)).trans hfits

variable {decision : OpportunitySelectionDecision}

theorem allocate_of_exhausted (hnav : 0 < input.sleeveNav)
    (h : Exhausted input s decision.opportunity) :
    (allocate input s decision).selected = s.selected := by
  unfold allocate DecimalArithmetic.allocate
  dsimp only
  rw [if_pos ((allocatedSize_nonpos_iff hnav).2 h)]

theorem allocate_of_not_exhausted (hnav : 0 < input.sleeveNav)
    (h : ¬ Exhausted input s decision.opportunity) :
    ∃ a : PortfolioCapitalAllocation,
      a.positionSizeUsd = (allocatedSize input s decision.opportunity).truncPlaces 2 ∧
        (allocate input s decision).selected = s.selected ++ [a] := by
  unfold allocate DecimalArithmetic.allocate
  dsimp only
  rw [if_neg fun hle => h ((allocatedSize_nonpos_iff hnav).1 hle)]
  exact ⟨_, rfl, rfl⟩

theorem usableWithinCap_append_iff {selected : List PortfolioCapitalAllocation}
    {a : PortfolioCapitalAllocation} (h : UsableWithinCap input selected) :
    UsableWithinCap input (selected ++ [a]) ↔
      0 < a.positionSizeUsd ∧
        a.positionSizeUsd ≤ exposureBoundUsd input - grossExposureUsd input selected := by
  have hsum : grossExposureUsd input (selected ++ [a]) =
      grossExposureUsd input selected + a.positionSizeUsd := by
    rw [grossExposureUsd, grossExposureUsd, List.map_append, List.sum_append, ← add_assoc,
      List.map_singleton, List.sum_singleton]
  constructor
  · rintro ⟨husable, hwithin⟩
    rw [hsum] at hwithin
    exact ⟨husable a (List.mem_append_right _ (List.mem_singleton_self a)),
      le_sub_iff_add_le'.2 hwithin⟩
  · rintro ⟨hpos, hfits⟩
    refine ⟨fun b hb => ?_, hsum ▸ le_sub_iff_add_le'.1 hfits⟩
    rcases List.mem_append.1 hb with hb | hb
    · exact h.usable b hb
    · rwa [List.mem_singleton.1 hb]

theorem allocate_usableWithinCap_iff (hnav : 0 < input.sleeveNav)
    (h : UsableWithinCap input s.selected) :
    UsableWithinCap input (allocate input s decision).selected ↔
      Exhausted input s decision.opportunity ∨ HasRoomFor input s decision.opportunity := by
  by_cases hout : Exhausted input s decision.opportunity
  · rw [allocate_of_exhausted hnav hout]
    exact iff_of_true h (Or.inl hout)
  · obtain ⟨a, hsize, hselected⟩ := allocate_of_not_exhausted hnav hout
    rw [hselected, usableWithinCap_append_iff h, hsize, truncPlaces_allocatedSize_iff hnav hout,
      or_iff_right hout]

/-- Sizes are not negative, so a round does not bring the exposure back below the cap. -/
theorem UsableWithinCap.of_allocate
    (h : UsableWithinCap input (allocate input s decision).selected) :
    UsableWithinCap input s.selected := by
  rcases allocate_selected input s decision with hselected | ⟨a, -, hsize, hselected⟩
  · rwa [hselected] at h
  · rw [hselected] at h
    refine ⟨fun b hb => h.usable b (List.mem_append_left _ hb), le_trans ?_ h.within⟩
    rw [grossExposureUsd, grossExposureUsd, List.map_append, List.sum_append]
    simpa using hsize

def allocationStart (input : PortfolioOptimizationInput) : AllocationState :=
  DecimalArithmetic.initialState input
    (selectOpportunityCandidates input.opportunities input.config).2

/-- The optimizer's sizes are usable and within the exposure cap exactly when every round of the
loop passes its opportunity over or finds a limit that fits. -/
theorem optimizeCarryPortfolio_usableWithinCap_iff (input : PortfolioOptimizationInput)
    (hnav : 0 < input.sleeveNav) :
    UsableWithinCap input (optimizeCarryPortfolio input).selected ↔
      Runs.Along (allocate input)
        (fun s decision =>
          Exhausted input s decision.opportunity ∨ HasRoomFor input s decision.opportunity)
        (allocationStart input)
        (selectOpportunityCandidates input.opportunities input.config).1 := by
  have hstart : UsableWithinCap input (allocationStart input).selected :=
    ⟨fun a ha => absurd ha List.not_mem_nil, by
      simp [grossExposureUsd, exposureBoundUsd, allocationStart, DecimalArithmetic.initialState]⟩
  have hresult : (optimizeCarryPortfolio input).selected =
      ((selectOpportunityCandidates input.opportunities input.config).1.foldl (allocate input)
        (allocationStart input)).selected := by
    rw [optimizeCarryPortfolio, DecimalArithmetic.optimizeCarryPortfolio, if_neg (not_le.2 hnav)]
    rfl
  rw [hresult]
  exact Runs.holds_foldl_iff
    (I := fun s : AllocationState => UsableWithinCap input s.selected)
    (fun s d h => h.of_allocate) (fun s d h => allocate_usableWithinCap_iff hnav h) hstart

/-! ## Sizes of samples -/

instance (selected : List PortfolioCapitalAllocation) :
    Decidable (UsableWithinCap input selected) :=
  decidable_of_iff ((∀ a ∈ selected, 0 < a.positionSizeUsd) ∧
      grossExposureUsd input selected ≤ exposureBoundUsd input)
    ⟨fun h => ⟨h.1, h.2⟩, fun h => ⟨h.1, h.2⟩⟩

def basisTrade (asset : String) : CarryOpportunityCandidate where
  type := .basisTrade
  asset
  legs := [⟨"drift", asset, .long, .spot, 50000, 0, none⟩,
    ⟨"drift", asset, .short, .perpetual, 50000, 0, none⟩]
  expectedAnnualYieldPct := 12
  netYieldPct := 10
  confidenceScore := 9 / 10
  detectedAt := 0
  expiresAt := 60000

/-- Two basis trades beside a given exposure of the sleeve and of the first asset. -/
def basisInput (sleeveNav currentGrossExposureUsd assetExposureUsd : Decimal) :
    PortfolioOptimizationInput where
  opportunities := [basisTrade "BTC", basisTrade "ETH"]
  sleeveNav
  currentGrossExposureUsd
  currentOpenPositions := 0
  currentAssetExposureUsd := OrderedMap.empty.set "BTC" assetExposureUsd
  currentVenueExposureUsd := OrderedMap.empty
  config := defaultCarryConfig

/-- Below a cap of 200000 USD the second trade gets what the first one has left of it. -/
theorem optimizeCarryPortfolio_usableWithinCap_sample :
    (optimizeCarryPortfolio (basisInput (10 ^ 6) 150000 0)).selected.map (·.positionSizeUsd) =
        [40000, 10000] ∧
      UsableWithinCap (basisInput (10 ^ 6) 150000 0)
        (optimizeCarryPortfolio (basisInput (10 ^ 6) 150000 0)).selected :=
  ⟨by decide +kernel, (optimizeCarryPortfolio_usableWithinCap_iff (basisInput (10 ^ 6) 150000 0)
    (by decide +kernel)).2 (by decide +kernel)⟩

/-- Half a cent of room is selected as a size of `0.00`; and an exposure of 19.99904% is taken for
19.9990%, so that the size of 10 USD exceeds the 9.60 USD below the cap. -/
theorem optimizeCarryPortfolio_not_usableWithinCap :
    ¬ UsableWithinCap (basisInput (10 ^ 5) 0 9999.995)
        (optimizeCarryPortfolio (basisInput (10 ^ 5) 0 9999.995)).selected ∧
      ¬ UsableWithinCap (basisInput (10 ^ 6) 199990.40 0)
        (optimizeCarryPortfolio (basisInput (10 ^ 6) 199990.40 0)).selected := by
  decide +kernel

end SentinelApex
