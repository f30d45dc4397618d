import SentinelApex.Carry.UsableSizes

/-!
# Every opportunity once

A candidate leaves `remaining` when it is selected or rejected, what is left when the loop ends is
rejected, and a selected candidate may be rejected once more when it gets its size. Both loops keep
the multiset of the candidates (`selectionRound_accounted`, `allocate_accounted`), and the selection
loop ends because each round takes one candidate (`selectionRound_wellFounded`).
-/

namespace SentinelApex

/-- One round of the selection loop, and nothing when the loop has ended. -/
def selectionRound (config : CarryConfig) (s : SelectionState) : Option SelectionState :=
  if s.selected.length < config.maxConcurrentOpportunities then
    match rank s with
    | [] => none
    | next :: remaining =>
      let s := { s with remaining }
      match canSelectOpportunity next s.selectedAssetCounts s.selectedVenueCounts config with
      | some reason => some { s with rejected := s.rejected ++ [{ opportunity := next, reason }] }
      | none => some (s.select next)
  else none

theorem selectionLoop_succ (config : CarryConfig) (rounds : ℕ) (s : SelectionState) :
    selectionLoop config (rounds + 1) s =
      ((selectionRound config s).map (selectionLoop config rounds)).getD s := by
  rw [selectionLoop, selectionRound]
  split_ifs with hbudget
  · cases rank s with
    | nil => rfl
    | cons next remaining =>
      dsimp only
      cases canSelectOpportunity next s.selectedAssetCounts s.selectedVenueCounts config <;> rfl
  · rfl

def SelectionState.accounted (s : SelectionState) : Multiset CarryOpportunityCandidate :=
  ↑s.remaining + ↑(s.selected.map fun d => d.opportunity) + ↑(s.rejected.map fun d => d.opportunity)

variable {s s' : SelectionState} {config : CarryConfig}

theorem selectionRound_cases (h : selectionRound config s = some s') :
    ∃ next remaining, rank s = next :: remaining ∧ s'.remaining = remaining ∧
      ((∃ reason, s'.selected = s.selected ∧
          s'.rejected = s.rejected ++ [{ opportunity := next, reason }]) ∨
        (∃ score rationale,
          s'.selected = s.selected ++ [{ opportunity := next, score, rationale }] ∧
            s'.rejected = s.rejected)) := by
  unfold selectionRound at h
  split_ifs at h with hbudget
  cases hrank : rank s with
  | nil =>
    rw [hrank] at h
    cases h
  | cons next remaining =>
    rw [hrank] at h
    dsimp only at h
    refine ⟨next, remaining, rfl, ?_⟩
    cases hreason : canSelectOpportunity next s.selectedAssetCounts s.selectedVenueCounts config with
    | some reason =>
      rw [hreason] at h
      cases h
      exact ⟨rfl, Or.inl ⟨reason, rfl, rfl⟩⟩
    | none =>
      rw [hreason] at h
      cases h
      exact ⟨rfl, Or.inr ⟨_, _, rfl, rfl⟩⟩

theorem rank_perm (s : SelectionState) : (rank s).Perm s.remaining := List.perm_insertionSort _ _

theorem selectionRound_accounted (h : selectionRound config s = some s') :
    s'.accounted = s.accounted := by
  obtain ⟨next, remaining, hrank, hremaining, hcases⟩ := selectionRound_cases h
  have hnext : (s.remaining : Multiset CarryOpportunityCandidate) = {next} + ↑remaining := by
    rw [← Multiset.coe_eq_coe.2 (rank_perm s), hrank, ← Multiset.cons_coe, Multiset.singleton_add]
  rw [SelectionState.accounted, SelectionState.accounted, hremaining, hnext]
  rcases hcases with ⟨reason, hselected, hrejected⟩ | ⟨score, rationale, hselected, hrejected⟩
  all_goals
    rw [hselected, hrejected, List.map_append, ← Multiset.coe_add, List.map_singleton,
      Multiset.coe_singleton]
    abel

theorem selectionRound_length (h : selectionRound config s = some s') :
    s'.remaining.length + 1 = s.remaining.length := by
  obtain ⟨next, remaining, hrank, hremaining, -⟩ := selectionRound_cases h
  rw [hremaining, ← (rank_perm s).length_eq, hrank, List.length_cons]

theorem selectionRound_wellFounded (config : CarryConfig) :
    WellFounded fun s' s => selectionRound config s = some s' := by
  refine Subrelation.wf (fun {s' s} h => ?_)
    (InvImage.wf (fun s : SelectionState => s.remaining.length) wellFounded_lt)
  have hlength := selectionRound_length h
  show s'.remaining.length < s.remaining.length
  omega

theorem selectionRound_selectionLoop (config : CarryConfig) {rounds : ℕ} {s : SelectionState}
    (h : s.remaining.length ≤ rounds) :
    selectionRound config (selectionLoop config rounds s) = none := by
  induction rounds generalizing s with
  | zero =>
    rw [selectionLoop, Option.eq_none_iff_forall_not_mem]
    intro s' hs'
    have hlength := selectionRound_length hs'
    omega
  | succ rounds ih =>
    rw [selectionLoop_succ]
    cases hround : selectionRound config s with
    | none => exact hround
    | some s' =>
      have hlength := selectionRound_length hround
      exact ih (by omega)

theorem selectionLoop_accounted (config : CarryConfig) (rounds : ℕ) (s : SelectionState) :
    (selectionLoop config rounds s).accounted = s.accounted := by
  induction rounds generalizing s with
  | zero => rfl
  | succ rounds ih =>
    rw [selectionLoop_succ]
    cases hround : selectionRound config s with
    | none => rfl
    | some s' => exact (ih s').trans (selectionRound_accounted hround)

def selectionStart (opportunities : List CarryOpportunityCandidate) : SelectionState where
  remaining := opportunities
  selected := []
  rejected := []
  selectedAssetCounts := OrderedMap.empty
  selectedVenueCounts := OrderedMap.empty
  selectedAssets := []
  selectedVenues := []

def selectionEnd (config : CarryConfig) (opportunities : List CarryOpportunityCandidate) :
    SelectionState :=
  selectionLoop config opportunities.length (selectionStart opportunities)

theorem selectOpportunityCandidates_accounted (opportunities : List CarryOpportunityCandidate)
    (config : CarryConfig) :
    (((selectOpportunityCandidates opportunities config).1.map fun d => d.opportunity) +
        ((selectOpportunityCandidates opportunities config).2.map fun d => d.opportunity) :
      Multiset CarryOpportunityCandidate) = opportunities := by
  have hend := selectionLoop_accounted config opportunities.length (selectionStart opportunities)
  have hsplit : (selectOpportunityCandidates opportunities config).2.map (fun d => d.opportunity) =
      ((selectionEnd config opportunities).rejected.map fun d => d.opportunity) ++
        (selectionEnd config opportunities).remaining := by
    simp [selectOpportunityCandidates, selectionEnd, selectionStart, Function.comp_def]
  rw [hsplit, ← Multiset.coe_add]
  calc (((selectionEnd config opportunities).selected.map fun d => d.opportunity) +
        (((selectionEnd config opportunities).rejected.map fun d => d.opportunity) +
          (selectionEnd config opportunities).remaining) : Multiset CarryOpportunityCandidate)
      = (selectionEnd config opportunities).accounted := by
        rw [SelectionState.accounted]
        abel
    _ = (selectionStart opportunities).accounted := hend
    _ = opportunities := by simp [SelectionState.accounted, selectionStart]

/-- The candidates that got a size or were rejected. -/
def AllocationState.accounted (s : AllocationState) : Multiset CarryOpportunityCandidate :=
  ↑(s.selected.map fun a => a.opportunity) + ↑(s.rejected.map fun d => d.opportunity)

theorem allocate_accounted (input : PortfolioOptimizationInput) (s : AllocationState)
    (decision : OpportunitySelectionDecision) :
    (allocate input s decision).accounted = {decision.opportunity} + s.accounted := by
  unfold allocate DecimalArithmetic.allocate AllocationState.accounted
  dsimp only
  split_ifs with hsize
  all_goals
    dsimp only [DecimalArithmetic.addAllocation]
    rw [List.map_append, ← Multiset.coe_add, List.map_singleton, Multiset.coe_singleton]
    abel

theorem foldl_allocate_accounted (input : PortfolioOptimizationInput)
    (decisions : List OpportunitySelectionDecision) (s : AllocationState) :
    (decisions.foldl (allocate input) s).accounted =
      ↑(decisions.map fun d => d.opportunity) + s.accounted := by
  induction decisions generalizing s with
  | nil => simp
  | cons decision decisions ih =>
    rw [List.foldl_cons, ih, allocate_accounted, List.map_cons, ← Multiset.cons_coe,
      ← Multiset.singleton_add]
    abel

/-- No opportunity is lost or duplicated, and the selection loop ends for every configuration. -/
theorem optimizeCarryPortfolio_perm (input : PortfolioOptimizationInput) :
    (((optimizeCarryPortfolio input).selected.map fun a => a.opportunity) ++
        (optimizeCarryPortfolio input).rejected.map fun d => d.opportunity).Perm
          input.opportunities ∧
      (WellFounded fun s' s => selectionRound input.config s = some s') ∧
        selectionRound input.config (selectionEnd input.config input.opportunities) = none := by
  refine ⟨?_, selectionRound_wellFounded input.config,
    selectionRound_selectionLoop input.config le_rfl⟩
  rw [← Multiset.coe_eq_coe, ← Multiset.coe_add]
  unfold optimizeCarryPortfolio DecimalArithmetic.optimizeCarryPortfolio
  split_ifs with hnav
  · simp [Function.comp_def]
  · have hloop := foldl_allocate_accounted input
      (selectOpportunityCandidates input.opportunities input.config).1 (allocationStart input)
    refine hloop.trans ?_
    have hstart : (allocationStart input).accounted =
        ((selectOpportunityCandidates input.opportunities input.config).2.map
          fun d => d.opportunity : List CarryOpportunityCandidate) :=
      zero_add _
    rw [hstart, selectOpportunityCandidates_accounted]

end SentinelApex
