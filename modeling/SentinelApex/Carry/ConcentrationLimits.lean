import SentinelApex.Carry.PortfolioOptimizer
import SentinelApex.Lib.Clamp
import SentinelApex.Lib.RunningTotals

/-!
# The concentration limits of a portfolio

The limits on the number of positions hold for any operations that the sizing functions compute
with, those on the exposure of assets and venues for the exact ones
(`optimizeCarryPortfolio_withinLimits`).
-/

namespace SentinelApex

/-- No asset and no venue is used by more opportunities than allowed. -/
structure CountLimits (config : CarryConfig) (opportunities : List CarryOpportunityCandidate) :
    Prop where
  perAsset : ∀ asset,
    opportunities.countP (fun o => decide (o.asset = asset)) ≤ config.maxOpportunitiesPerAsset
  perVenue : ∀ venueId,
    opportunities.countP (fun o => decide (∃ leg ∈ o.legs, leg.venueId = venueId)) ≤
      config.maxOpportunitiesPerVenue

variable {config : CarryConfig}

theorem CountLimits.sublist {l l' : List CarryOpportunityCandidate} (h : CountLimits config l)
    (hsub : l'.Sublist l) : CountLimits config l' :=
  ⟨fun asset => hsub.countP_le.trans (h.perAsset asset),
    fun venueId => hsub.countP_le.trans (h.perVenue venueId)⟩

variable {opportunity : CarryOpportunityCandidate}

theorem mem_getCandidateVenueIds {venueId : String} :
    venueId ∈ getCandidateVenueIds opportunity ↔
      ∃ leg ∈ opportunity.legs, leg.venueId = venueId := by
  simp [getCandidateVenueIds]

theorem canSelectOpportunity_eq_none_iff {assetCounts venueCounts : OrderedMap String ℕ} :
    canSelectOpportunity opportunity assetCounts venueCounts config = none ↔
      assetCounts.total opportunity.asset < config.maxOpportunitiesPerAsset ∧
        ∀ venueId ∈ getCandidateVenueIds opportunity,
          venueCounts.total venueId < config.maxOpportunitiesPerVenue := by
  unfold canSelectOpportunity OrderedMap.total
  dsimp only
  split_ifs with hasset
  · simp only [false_iff, not_and]
    omega
  · rw [Option.map_eq_none_iff, List.find?_eq_none]
    simp only [decide_eq_true_eq, not_le]
    exact (and_iff_right (not_le.1 hasset)).symm

structure Counted (config : CarryConfig) (s : SelectionState) : Prop where
  assetCounts : ∀ asset, s.selectedAssetCounts.total asset =
    (s.selected.map fun d => d.opportunity).countP fun o => decide (o.asset = asset)
  venueCounts : ∀ venueId, s.selectedVenueCounts.total venueId =
    (s.selected.map fun d => d.opportunity).countP fun o =>
      decide (∃ leg ∈ o.legs, leg.venueId = venueId)
  limits : CountLimits config (s.selected.map fun d => d.opportunity)

theorem nodup_eraseDups {α : Type} [DecidableEq α] (l : List α) : l.eraseDups.Nodup := by
  match l with
  | [] => simp
  | a :: as =>
    rw [List.eraseDups_cons, List.nodup_cons]
    refine ⟨?_, nodup_eraseDups _⟩
    simp [List.mem_eraseDups]
termination_by l.length
decreasing_by
  simp only [List.length_cons]
  exact Nat.lt_succ_of_le (List.length_filter_le _ _)

theorem total_venueCounts (counts : OrderedMap String ℕ) (opportunity : CarryOpportunityCandidate)
    (venueId : String) :
    ((getCandidateVenueIds opportunity).foldl (fun counts venueId =>
      counts.set venueId ((counts.get? venueId).getD 0 + 1)) counts).total venueId =
        counts.total venueId +
          if ∃ leg ∈ opportunity.legs, leg.venueId = venueId then 1 else 0 := by
  have hfold := OrderedMap.total_foldl_add (fun v : String => v) (fun _ => 1)
    (getCandidateVenueIds opportunity) counts venueId
  have hnodup : (getCandidateVenueIds opportunity).Nodup := nodup_eraseDups _
  have hcount : (((getCandidateVenueIds opportunity).filter fun v => decide (v = venueId)).map
      fun _ => 1).sum = (getCandidateVenueIds opportunity).count venueId := by
    rw [List.map_const', List.sum_replicate, smul_eq_mul, mul_one, List.count,
      List.countP_eq_length_filter]
    rfl
  refine hfold.trans ?_
  rw [hcount, List.Nodup.count hnodup]
  simp only [mem_getCandidateVenueIds]

theorem Counted.select {s : SelectionState} (h : Counted config s)
    {next : CarryOpportunityCandidate}
    (hnext : canSelectOpportunity next s.selectedAssetCounts s.selectedVenueCounts config = none) :
    Counted config (s.select next) := by
  obtain ⟨hasset, hvenue⟩ := canSelectOpportunity_eq_none_iff.1 hnext
  have hselected : (s.select next).selected.map (fun d => d.opportunity) =
      s.selected.map (fun d => d.opportunity) ++ [next] := by
    simp [SelectionState.select]
  refine ⟨fun asset => ?_, fun venueId => ?_, fun asset => ?_, fun venueId => ?_⟩
  · rw [hselected, List.countP_append, List.countP_singleton, ← h.assetCounts asset]
    show (s.selectedAssetCounts.add next.asset 1).total asset = _
    simp [OrderedMap.total_add]
  · rw [hselected, List.countP_append, List.countP_singleton, ← h.venueCounts venueId]
    refine (total_venueCounts _ _ _).trans ?_
    simp
  · rw [hselected, List.countP_append, List.countP_singleton]
    by_cases hsame : next.asset = asset
    · subst hsame
      rw [← h.assetCounts next.asset]
      simpa using Nat.succ_le_of_lt hasset
    · simpa [hsame] using h.limits.perAsset asset
  · rw [hselected, List.countP_append, List.countP_singleton]
    by_cases huses : ∃ leg ∈ next.legs, leg.venueId = venueId
    · rw [← h.venueCounts venueId]
      simpa [huses] using Nat.succ_le_of_lt (hvenue venueId (mem_getCandidateVenueIds.2 huses))
    · simpa only [huses, decide_false, Bool.false_eq_true, if_false, add_zero] using
        h.limits.perVenue venueId

theorem selectionLoop_counted (config : CarryConfig) (rounds : ℕ) {s : SelectionState}
    (h : Counted config s) : Counted config (selectionLoop config rounds s) := by
  induction rounds generalizing s with
  | zero => exact h
  | succ rounds ih =>
    unfold selectionLoop
    split_ifs with hbudget
    · cases rank s with
      | nil => exact h
      | cons next remaining =>
        dsimp only
        cases hnext : canSelectOpportunity next s.selectedAssetCounts s.selectedVenueCounts config with
        | some reason => exact ih ⟨h.assetCounts, h.venueCounts, h.limits⟩
        | none =>
          have hremaining : Counted config { s with remaining } :=
            ⟨h.assetCounts, h.venueCounts, h.limits⟩
          exact ih (hremaining.select hnext)
    · exact h

theorem selectOpportunityCandidates_countLimits (opportunities : List CarryOpportunityCandidate)
    (config : CarryConfig) :
    CountLimits config
      ((selectOpportunityCandidates opportunities config).1.map fun d => d.opportunity) :=
  (selectionLoop_counted config opportunities.length
    ⟨fun _ => rfl, fun _ => rfl, fun _ => Nat.zero_le _, fun _ => Nat.zero_le _⟩).limits

variable {s : AllocationState}

namespace DecimalArithmetic

variable (D : DecimalArithmetic) (input : PortfolioOptimizationInput)

theorem foldl_allocate_sublist (decisions : List OpportunitySelectionDecision)
    (s : AllocationState) : ∃ l, l.Sublist (decisions.map fun d => d.opportunity) ∧
      (decisions.foldl (D.allocate input) s).selected.map (fun a => a.opportunity) =
        s.selected.map (fun a => a.opportunity) ++ l := by
  induction decisions generalizing s with
  | nil => exact ⟨[], List.Sublist.slnil, by simp⟩
  | cons decision decisions ih =>
    obtain ⟨l, hsub, hl⟩ := ih (D.allocate input s decision)
    rw [List.foldl_cons, hl, List.map_cons]
    rcases D.allocate_cases input s decision with ⟨rejected, h⟩ | ⟨-, h⟩
    · exact ⟨l, hsub.cons _, by rw [h]⟩
    · refine ⟨decision.opportunity :: l, hsub.cons_cons _, ?_⟩
      rw [h]
      simp [addAllocation]

theorem slot_of_allocatedSize_pos (h : 0 < D.allocatedSize input s opportunity) :
    s.plannedOpenPositions < input.config.maxConcurrentOpportunities := by
  have hle : D.allocatedSize input s opportunity ≤
      D.computeMaxAllowedSize input.sleeveNav s.plannedOpenPositions input.config :=
    Clamp.foldl_min_le_of_mem List.mem_cons_self
  by_contra hfull
  have hzero : D.computeMaxAllowedSize input.sleeveNav s.plannedOpenPositions input.config = 0 := by
    unfold computeMaxAllowedSize
    rw [if_pos (not_lt.1 hfull)]
    split_ifs <;> rfl
  linarith

/-- The planned positions are the open ones and the selected ones. -/
structure Slots (s : AllocationState) : Prop where
  planned : s.plannedOpenPositions = input.currentOpenPositions + s.selected.length
  free : s.selected.length ≤
    input.config.maxConcurrentOpportunities - input.currentOpenPositions

variable {D input}

theorem Slots.allocate (h : Slots input s) (decision : OpportunitySelectionDecision) :
    Slots input (D.allocate input s decision) := by
  rcases D.allocate_cases input s decision with ⟨rejected, hstep⟩ | ⟨hsize, hstep⟩
  · rw [hstep]
    exact ⟨h.planned, h.free⟩
  · have hslot := D.slot_of_allocatedSize_pos input hsize
    have hplanned := h.planned
    rw [hstep]
    refine ⟨?_, ?_⟩
    all_goals
      simp only [addAllocation, List.length_append, List.length_singleton]
      omega

theorem Slots.foldl (h : Slots input s) (decisions : List OpportunitySelectionDecision) :
    Slots input (decisions.foldl (D.allocate input) s) := by
  induction decisions generalizing s with
  | nil => exact h
  | cons decision decisions ih => exact ih (h.allocate decision)

end DecimalArithmetic

def assetShare (asset : String) (opportunity : CarryOpportunityCandidate) : ℚ :=
  if opportunity.asset = asset then 1 else 0

def venueShare (venueId : String) (opportunity : CarryOpportunityCandidate) : ℚ :=
  (opportunity.legs.countP fun leg => decide (leg.venueId = venueId) : ℕ) / opportunity.legs.length

def addedUsd (share : CarryOpportunityCandidate → ℚ) (selected : List PortfolioCapitalAllocation) :
    ℚ :=
  (selected.map fun a => a.positionSizeUsd * share a.opportunity).sum

/-- A map of totals has the initial exposures and what was added, and none of them has grown above
the cap. -/
structure Tracked (initial : OrderedMap String Decimal) (capUsd : ℚ)
    (share : String → CarryOpportunityCandidate → ℚ) (totals : OrderedMap String Decimal)
    (selected : List PortfolioCapitalAllocation) : Prop where
  total_eq : ∀ k, totals.total k = initial.total k + addedUsd (share k) selected
  total_le : ∀ k, totals.total k ≤ max (initial.total k) capUsd

theorem Tracked.start (initial : OrderedMap String Decimal) (capUsd : ℚ)
    (share : String → CarryOpportunityCandidate → ℚ) : Tracked initial capUsd share initial [] :=
  ⟨fun _ => (add_zero _).symm, fun _ => le_max_left _ _⟩

/-- A position may be added where its share fits under the cap. -/
theorem Tracked.add {initial totals totals' : OrderedMap String Decimal} {capUsd : ℚ}
    {share : String → CarryOpportunityCandidate → ℚ} {selected : List PortfolioCapitalAllocation}
    (h : Tracked initial capUsd share totals selected) {a : PortfolioCapitalAllocation}
    (hnew : ∀ k, totals'.total k = totals.total k + a.positionSizeUsd * share k a.opportunity)
    (hfits : ∀ k, share k a.opportunity ≠ 0 →
      totals.total k + a.positionSizeUsd * share k a.opportunity ≤ capUsd) :
    Tracked initial capUsd share totals' (selected ++ [a]) := by
  refine ⟨fun k => ?_, fun k => ?_⟩
  · rw [hnew, h.total_eq, addedUsd, addedUsd, List.map_append, List.sum_append, List.map_singleton,
      List.sum_singleton, add_assoc]
  · rw [hnew]
    by_cases hshare : share k a.opportunity = 0
    · rw [hshare, mul_zero, add_zero]
      exact h.total_le k
    · exact (hfits k hshare).trans (le_max_right _ _)

namespace DecimalArithmetic

theorem total_legCounts (opportunity : CarryOpportunityCandidate) (venueId : String) :
    (exact.legCounts opportunity).total venueId =
      (opportunity.legs.countP fun leg => decide (leg.venueId = venueId) : ℕ) := by
  refine (OrderedMap.total_foldl_add (fun leg : OpportunityLeg => leg.venueId) (fun _ => 1)
    opportunity.legs OrderedMap.empty venueId).trans ?_
  rw [List.map_const', List.sum_replicate, nsmul_eq_mul, mul_one, OrderedMap.total_empty, zero_add,
    List.countP_eq_length_filter]

theorem total_buildVenueWeights (opportunity : CarryOpportunityCandidate) (venueId : String) :
    (exact.buildVenueWeights opportunity).total venueId = venueShare venueId opportunity := by
  have hcounts := total_legCounts opportunity venueId
  unfold OrderedMap.total buildVenueWeights at *
  dsimp only at *
  rw [OrderedMap.get?_foldl_set (fun count => exact.div count opportunity.legs.length)
    (exact.legCounts opportunity).nodup, OrderedMap.get?_empty, Option.or_none, venueShare,
    ← hcounts]
  show ((OrderedMap.getList venueId (exact.legCounts opportunity).entries).map _).getD 0 =
    (OrderedMap.getList venueId (exact.legCounts opportunity).entries).getD 0 / _
  cases OrderedMap.getList venueId (exact.legCounts opportunity).entries with
  | none => simp
  | some count => rfl

section

variable (s : AllocationState) (decision : OpportunitySelectionDecision) (size : Decimal)

theorem total_addAllocation_venue (venueId : String) :
    (exact.addAllocation s decision size).venueExposureUsd.total venueId =
      s.venueExposureUsd.total venueId + size * venueShare venueId decision.opportunity := by
  refine (OrderedMap.total_foldl_add (fun e : String × Decimal => e.1) (fun e => size * e.2)
    (exact.buildVenueWeights decision.opportunity).entries s.venueExposureUsd venueId).trans ?_
  rw [OrderedMap.sum_filter_entries _ venueId (fun w => size * w) (mul_zero size),
    total_buildVenueWeights]

theorem total_addAllocation_asset (asset : String) :
    (exact.addAllocation s decision size).assetExposureUsd.total asset =
      s.assetExposureUsd.total asset + size * assetShare asset decision.opportunity := by
  show (s.assetExposureUsd.add decision.opportunity.asset size).total asset = _
  rw [OrderedMap.total_add, assetShare]
  split_ifs <;> simp

end

theorem truncPlaces_le {x : Decimal} (h : 0 ≤ x) (dp : ℕ) : x.truncPlaces dp ≤ x := by
  have hscale : (0 : ℚ) < 10 ^ dp := by positivity
  rw [Decimal.truncPlaces, if_pos h, div_le_iff₀ hscale]
  exact Int.floor_le _

theorem allocatedSize_fits_asset (input : PortfolioOptimizationInput) (s : AllocationState)
    (opportunity : CarryOpportunityCandidate) :
    s.assetExposureUsd.total opportunity.asset + exact.allocatedSize input s opportunity ≤
      exact.assetCapUsd input := by
  have hle : exact.allocatedSize input s opportunity ≤
      exact.assetCapUsd input - s.assetExposureUsd.total opportunity.asset :=
    Clamp.foldl_min_le_of_mem (List.mem_cons_of_mem _ List.mem_cons_self)
  linarith

variable {input : PortfolioOptimizationInput} {s : AllocationState}
  {opportunity : CarryOpportunityCandidate}

theorem allocatedSize_fits_venue {size : ℚ} (h0 : 0 ≤ size)
    (hsize : size ≤ exact.allocatedSize input s opportunity) {venueId : String}
    (hshare : venueShare venueId opportunity ≠ 0) :
    s.venueExposureUsd.total venueId + size * venueShare venueId opportunity ≤
      exact.venueCapUsd input := by
  rw [← total_buildVenueWeights] at hshare ⊢
  obtain ⟨w, hw⟩ : ∃ w, (exact.buildVenueWeights opportunity).get? venueId = some w := by
    cases hget : (exact.buildVenueWeights opportunity).get? venueId with
    | none => rw [OrderedMap.total, hget] at hshare; exact absurd rfl hshare
    | some w => exact ⟨w, rfl⟩
  have htotal : (exact.buildVenueWeights opportunity).total venueId = w := by
    rw [OrderedMap.total, hw, Option.getD_some]
  have hle : exact.allocatedSize input s opportunity ≤
      exact.venueCapacity (exact.venueCapUsd input) s.venueExposureUsd (venueId, w) :=
    Clamp.foldl_min_le_of_mem (List.mem_cons_of_mem _ (List.mem_cons_of_mem _
      (List.mem_map_of_mem (OrderedMap.mem_entries_of_get? hw))))
  have hcapacity := hsize.trans hle
  have hremaining : exact.minus (exact.venueCapUsd input)
      ((s.venueExposureUsd.get? venueId).getD 0) =
        exact.venueCapUsd input - s.venueExposureUsd.total venueId := rfl
  rw [htotal]
  unfold venueCapacity at hcapacity
  dsimp only at hcapacity
  rw [hremaining] at hcapacity
  split_ifs at hcapacity with hw0
  · have := mul_nonpos_of_nonneg_of_nonpos h0 hw0
    linarith
  · have hmul : size * w ≤ exact.venueCapUsd input - s.venueExposureUsd.total venueId :=
      (le_div_iff₀ (not_le.1 hw0)).1 hcapacity
    linarith

/-- The two maps of the allocation loop. -/
structure Exposures (input : PortfolioOptimizationInput) (s : AllocationState) : Prop where
  asset : Tracked input.currentAssetExposureUsd (exact.assetCapUsd input) assetShare
    s.assetExposureUsd s.selected
  venue : Tracked input.currentVenueExposureUsd (exact.venueCapUsd input) venueShare
    s.venueExposureUsd s.selected

theorem Exposures.allocate (h : Exposures input s) (decision : OpportunitySelectionDecision) :
    Exposures input (exact.allocate input s decision) := by
  rcases exact.allocate_cases input s decision with ⟨rejected, hstep⟩ | ⟨hpos, hstep⟩
  · rw [hstep]
    exact ⟨h.asset, h.venue⟩
  · have h0 := Decimal.truncPlaces_nonneg hpos.le 2
    have hle := truncPlaces_le hpos.le 2
    rw [hstep]
    refine ⟨h.asset.add (total_addAllocation_asset s decision _) fun asset hasset => ?_,
      h.venue.add (total_addAllocation_venue s decision _) fun venueId hvenue =>
        allocatedSize_fits_venue h0 hle hvenue⟩
    have hsame : decision.opportunity.asset = asset := by
      by_contra hne
      exact hasset (if_neg hne)
    subst hsame
    have hfits := allocatedSize_fits_asset input s decision.opportunity
    simp only [assetShare, if_true, mul_one]
    linarith

theorem Exposures.foldl (h : Exposures input s) (decisions : List OpportunitySelectionDecision) :
    Exposures input (decisions.foldl (exact.allocate input) s) := by
  induction decisions generalizing s with
  | nil => exact h
  | cons decision decisions ih => exact ih (h.allocate decision)

end DecimalArithmetic

/-- What the selected positions respect. -/
structure WithinLimits (input : PortfolioOptimizationInput)
    (selected : List PortfolioCapitalAllocation) : Prop where
  asset : ∀ asset, input.currentAssetExposureUsd.total asset + addedUsd (assetShare asset) selected ≤
    max (input.currentAssetExposureUsd.total asset)
      (input.sleeveNav * input.config.maxAssetExposurePct / 100)
  venue : ∀ venueId,
    input.currentVenueExposureUsd.total venueId + addedUsd (venueShare venueId) selected ≤
      max (input.currentVenueExposureUsd.total venueId)
        (input.sleeveNav * input.config.maxVenueExposurePct / 100)
  counts : CountLimits input.config (selected.map fun a => a.opportunity)
  slots : selected.length ≤ input.config.maxConcurrentOpportunities - input.currentOpenPositions

/-- The optimizer stays within all limits. -/
theorem optimizeCarryPortfolio_withinLimits (input : PortfolioOptimizationInput) :
    WithinLimits input (DecimalArithmetic.exact.optimizeCarryPortfolio input).selected := by
  unfold DecimalArithmetic.optimizeCarryPortfolio
  split_ifs with hnav
  · exact ⟨fun _ => by simp [addedUsd], fun _ => by simp [addedUsd],
      ⟨fun _ => Nat.zero_le _, fun _ => Nat.zero_le _⟩, Nat.zero_le _⟩
  · dsimp only
    generalize hselection : selectOpportunityCandidates input.opportunities input.config = selection
    have hcounts := selectOpportunityCandidates_countLimits input.opportunities input.config
    rw [hselection] at hcounts
    obtain ⟨l, hsub, hl⟩ := DecimalArithmetic.exact.foldl_allocate_sublist input selection.1
      (DecimalArithmetic.initialState input selection.2)
    have hslots : DecimalArithmetic.Slots input
        (selection.1.foldl (DecimalArithmetic.exact.allocate input)
          (DecimalArithmetic.initialState input selection.2)) :=
      DecimalArithmetic.Slots.foldl ⟨rfl, Nat.zero_le _⟩ _
    have hexposures : DecimalArithmetic.Exposures input
        (selection.1.foldl (DecimalArithmetic.exact.allocate input)
          (DecimalArithmetic.initialState input selection.2)) :=
      DecimalArithmetic.Exposures.foldl ⟨Tracked.start _ _ _, Tracked.start _ _ _⟩ _
    refine ⟨fun asset => ?_, fun venueId => ?_, ?_, hslots.free⟩
    · rw [← hexposures.asset.total_eq]
      exact hexposures.asset.total_le asset
    · rw [← hexposures.venue.total_eq]
      exact hexposures.venue.total_le venueId
    · rw [hl]
      exact hcounts.sublist hsub

end SentinelApex
