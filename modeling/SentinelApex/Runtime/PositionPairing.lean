import SentinelApex.Runtime.DerivativeComparison

/-!
# Which positions are compared

Every external position of known type is in one comparison, and every comparison is counted once.
An internal position that finds no partner gets no comparison of its own if an earlier one has its
key, so that no internal position is lost if and only if each later one of a key finds a partner
(`positions_compared_iff`).
-/

namespace SentinelApex.DerivativeComparison

open InternalDerivativeState (buildInternalDerivativeSnapshot BuildInternalDerivativeSnapshotInput)

/-! ## The search for a partner -/

/-- The entry is free and shares some key with the identity. -/
def isPartner (identity : Option InternalDerivativeMarketIdentity)
    (item : ExternalComparablePosition) : Bool :=
  identity.any fun identity => MARKET_IDENTITY_KEY_PRIORITY.any fun kind =>
    isMatch kind (internalIdentityCandidates identity) item

section Search

variable {entries : List ExternalComparablePosition} {candidates : List IdentityCandidate}

variable {kinds : List MarketIdentityKeyType} {identity : Option InternalDerivativeMarketIdentity}

theorem searchKinds_eq_notFound_iff :
    searchKinds entries candidates kinds = .notFound ↔
      ∀ item ∈ entries, ∀ kind ∈ kinds, isMatch kind candidates item = false := by
  induction kinds with
  | nil => simp [searchKinds]
  | cons kind kinds ih =>
    have hnil : (entries.zipIdx.filter fun item => isMatch kind candidates item.1).map Prod.snd =
        [] ↔ ∀ item ∈ entries, isMatch kind candidates item = false := by
      rw [List.map_eq_nil_iff, List.filter_eq_nil_iff]
      constructor
      · intro h item hitem
        obtain ⟨index, hindex⟩ := List.mem_iff_getElem?.1 hitem
        simpa using h (item, index) (List.mem_zipIdx_iff_getElem?.2 hindex)
      · rintro h ⟨item, index⟩ hmem
        simp [h item (List.mem_of_getElem? (List.mem_zipIdx_iff_getElem?.1 hmem))]
    simp only [List.forall_mem_cons, forall_and]
    rw [← ih, ← hnil, searchKinds]
    split
    all_goals
      rename_i h
      simp [h]

theorem searchPartner_eq_notFound_iff :
    searchPartner entries identity = .notFound ↔
      ∀ item ∈ entries, isPartner identity item = false := by
  cases identity with
  | none => simp [searchPartner, isPartner]
  | some identity =>
    simp only [searchPartner, searchKinds_eq_notFound_iff, isPartner, Option.any_some,
      List.any_eq_false, Bool.not_eq_true]

theorem searchKinds_eq_found {index : ℕ} (h : searchKinds entries candidates kinds = .found index) :
    ∃ item, entries[index]? = some item ∧ ∃ kind ∈ kinds, isMatch kind candidates item = true := by
  induction kinds with
  | nil => cases h
  | cons kind kinds ih =>
    rw [searchKinds] at h
    split at h
    · obtain ⟨item, hitem, kind', hkind', hmatch⟩ := ih h
      exact ⟨item, hitem, kind', List.mem_cons_of_mem _ hkind', hmatch⟩
    · rename_i index' hmap
      obtain rfl : index' = index := by simpa using h
      obtain ⟨⟨item, index''⟩, hitem, rfl⟩ :=
        List.mem_map.1 (hmap ▸ List.mem_singleton_self index')
      obtain ⟨hmem, hmatch⟩ := List.mem_filter.1 hitem
      exact ⟨item, List.mem_zipIdx_iff_getElem?.1 hmem, kind, List.mem_cons_self, hmatch⟩
    · cases h

/-- The partner is free and shares a key of one of the kinds. -/
theorem searchPartner_eq_found {index : ℕ} (h : searchPartner entries identity = .found index) :
    ∃ item, entries[index]? = some item ∧ item.matched = false ∧
      ∃ internal, identity = some internal ∧ ∃ kind ∈ MARKET_IDENTITY_KEY_PRIORITY,
        shareKey kind (internalIdentityCandidates internal)
          (externalIdentityCandidates item.identity) = true := by
  cases identity with
  | none => cases h
  | some internal =>
    obtain ⟨item, hitem, kind, hkind, hmatch⟩ := searchKinds_eq_found h
    rw [isMatch, Bool.and_eq_true, Bool.not_eq_true'] at hmatch
    exact ⟨item, hitem, hmatch.1, internal, rfl, kind, hkind, hmatch.2⟩

end Search

/-! ## One round -/

def internalsOf (comparisons : List VenueDerivativePositionComparison) :
    List InternalDerivativePositionEntry :=
  comparisons.filterMap fun comparison => comparison.internalPosition

def externalsOf (comparisons : List VenueDerivativePositionComparison) :
    List VenueDerivativePositionEntry :=
  comparisons.filterMap fun comparison => comparison.externalPosition

theorem isCompared_iff {comparisons : List VenueDerivativePositionComparison}
    {positionKey : String} :
    isCompared comparisons positionKey = true ↔
      positionKey ∈ (internalsOf comparisons).map fun position => position.positionKey := by
  simp only [isCompared, List.any_eq_true, Option.any_eq_true, decide_eq_true_eq, internalsOf,
    List.mem_map, List.mem_filterMap]
  constructor
  · rintro ⟨comparison, hmem, position, hposition, hkey⟩
    exact ⟨position, ⟨comparison, hmem, hposition⟩, hkey⟩
  · rintro ⟨position, ⟨comparison, hmem, hposition⟩, hkey⟩
    exact ⟨comparison, hmem, position, hposition, hkey⟩

def takePartner (entries : List ExternalComparablePosition)
    (position : InternalDerivativePositionEntry) : List ExternalComparablePosition :=
  match searchPartner entries position.marketIdentity with
  | .found index => entries.modify index fun item => { item with matched := true }
  | .notFound => entries
  | .ambiguous => entries

section Round

variable {progress : PositionProgress} {position : InternalDerivativePositionEntry}

theorem isCompared_pushAmbiguous :
    isCompared (pushAmbiguous progress position).comparisons position.positionKey = true := by
  simp [isCompared, pushAmbiguous, unpairedComparison]

theorem compareInternal_cases (progress : PositionProgress)
    (position : InternalDerivativePositionEntry) :
    (∃ index item, searchPartner progress.entries position.marketIdentity = .found index ∧
      progress.entries[index]? = some item ∧ item.matched = false ∧
      compareInternal progress position = pushPaired progress position index item) ∨
    (searchPartner progress.entries position.marketIdentity = .ambiguous ∧
      compareInternal progress position = pushAmbiguous progress position) ∨
    (searchPartner progress.entries position.marketIdentity = .notFound ∧
      isCompared progress.comparisons position.positionKey = false ∧
      compareInternal progress position = pushUnpaired progress position) ∨
    (searchPartner progress.entries position.marketIdentity = .notFound ∧
      isCompared progress.comparisons position.positionKey = true ∧
      compareInternal progress position = progress) := by
  cases hsearch : searchPartner progress.entries position.marketIdentity with
  | found index =>
    obtain ⟨item, hitem, hfree, -⟩ := searchPartner_eq_found hsearch
    refine Or.inl ⟨index, item, rfl, hitem, hfree, ?_⟩
    simp only [compareInternal, hsearch, hitem]
  | ambiguous =>
    refine Or.inr (Or.inl ⟨rfl, ?_⟩)
    simp only [compareInternal, hsearch, if_true, isCompared_pushAmbiguous]
  | notFound =>
    refine Or.inr (Or.inr ?_)
    cases hcompared : isCompared progress.comparisons position.positionKey with
    | false =>
      refine Or.inl ⟨rfl, rfl, ?_⟩
      simp [compareInternal, hsearch, hcompared]
    | true =>
      refine Or.inr ⟨rfl, rfl, ?_⟩
      simp [compareInternal, hsearch, hcompared]

theorem entries_pushUnpaired : (pushUnpaired progress position).entries = progress.entries := by
  unfold pushUnpaired
  split_ifs <;> rfl

theorem internalsOf_pushUnpaired :
    internalsOf (pushUnpaired progress position).comparisons =
      internalsOf progress.comparisons ++ [position] := by
  unfold pushUnpaired
  split_ifs <;> simp [internalsOf, unpairedComparison]

theorem externalsOf_pushUnpaired :
    externalsOf (pushUnpaired progress position).comparisons =
      externalsOf progress.comparisons := by
  unfold pushUnpaired
  split_ifs <;> simp [externalsOf, unpairedComparison]

theorem entries_compareInternal :
    (compareInternal progress position).entries = takePartner progress.entries position := by
  rcases compareInternal_cases progress position with
    ⟨index, item, hsearch, -, -, h⟩ | ⟨hsearch, h⟩ | ⟨hsearch, -, h⟩ | ⟨hsearch, -, h⟩
  · simp [h, takePartner, hsearch, pushPaired]
  · simp [h, takePartner, hsearch, pushAmbiguous]
  · simp [h, takePartner, hsearch, entries_pushUnpaired]
  · simp [h, takePartner, hsearch]

def PassedOver (progress : PositionProgress) (position : InternalDerivativePositionEntry) : Prop :=
  (∀ item ∈ progress.entries, isPartner position.marketIdentity item = false) ∧
    position.positionKey ∈ (internalsOf progress.comparisons).map fun p => p.positionKey

instance : Decidable (PassedOver progress position) := by
  unfold PassedOver
  infer_instance

theorem passedOver_iff :
    PassedOver progress position ↔
      searchPartner progress.entries position.marketIdentity = .notFound ∧
        isCompared progress.comparisons position.positionKey = true := by
  rw [PassedOver, ← searchPartner_eq_notFound_iff, ← isCompared_iff]

theorem internalsOf_compareInternal :
    internalsOf (compareInternal progress position).comparisons =
      internalsOf progress.comparisons ++
        if PassedOver progress position then [] else [position] := by
  rw [if_congr passedOver_iff rfl rfl]
  rcases compareInternal_cases progress position with
    ⟨index, item, hsearch, -, -, h⟩ | ⟨hsearch, h⟩ | ⟨hsearch, hcompared, h⟩ | ⟨hsearch, hcompared, h⟩
  · simp [h, hsearch, internalsOf, pushPaired, pairedComparison]
  · simp [h, hsearch, internalsOf, pushAmbiguous, unpairedComparison]
  · simp [h, hsearch, hcompared, internalsOf_pushUnpaired]
  · simp [h, hsearch, hcompared]

end Round

/-! ## The external side and the counters -/

section Entries

variable {entries : List ExternalComparablePosition} {item : ExternalComparablePosition} {index : ℕ}

theorem modify_split (hitem : entries[index]? = some item) :
    ∃ before after, entries = before ++ item :: after ∧
      (entries.modify index fun item => { item with matched := true }) =
        before ++ { item with matched := true } :: after := by
  obtain ⟨hindex, rfl⟩ := List.getElem?_eq_some_iff.1 hitem
  refine ⟨entries.take index, entries.drop (index + 1), ?_, ?_⟩
  · rw [List.getElem_cons_drop, List.take_append_drop]
  · rw [List.modify_eq_take_cons_drop hindex]

theorem map_entry_takePartner (position : InternalDerivativePositionEntry) :
    (takePartner entries position).map (fun item => item.entry) =
      entries.map fun item => item.entry := by
  unfold takePartner
  split
  · rename_i index hsearch
    obtain ⟨item, hitem, -⟩ := searchPartner_eq_found hsearch
    obtain ⟨before, after, hentries, hmodify⟩ := modify_split hitem
    rw [hmodify, hentries, List.map_append, List.map_append, List.map_cons, List.map_cons]
  · rfl
  · rfl

theorem filter_matched_modify (hitem : entries[index]? = some item) (hfree : item.matched = false) :
    (((entries.modify index fun item => { item with matched := true }).filter
        fun item => item.matched).map fun item => item.entry).Perm
      (((entries.filter fun item => item.matched).map fun item => item.entry) ++ [item.entry]) := by
  obtain ⟨before, after, hentries, hmodify⟩ := modify_split hitem
  rw [hmodify, hentries]
  simp only [List.filter_append, List.filter_cons, hfree, if_true, Bool.false_eq_true, if_false,
    List.map_append, List.map_cons]
  rw [List.append_assoc]
  exact (List.perm_append_singleton _ _).symm.append_left _

end Entries

/-- The external positions in comparisons are those of the entries that are taken, and every
comparison is counted. -/
structure Balanced (progress : PositionProgress) : Prop where
  externals : (externalsOf progress.comparisons).Perm
    ((progress.entries.filter fun item => item.matched).map fun item => item.entry)
  counts : progress.matchedCount + progress.mismatchedCount + progress.identityGapCount =
    progress.comparisons.length

theorem Balanced.compareInternal {progress : PositionProgress} (h : Balanced progress)
    (position : InternalDerivativePositionEntry) : Balanced (compareInternal progress position) := by
  rcases compareInternal_cases progress position with
    ⟨index, item, -, hitem, hfree, hround⟩ | ⟨-, hround⟩ | ⟨-, -, hround⟩ | ⟨-, -, hround⟩
  · rw [hround]
    constructor
    · have hexternals : externalsOf (pushPaired progress position index item).comparisons =
          externalsOf progress.comparisons ++ [item.entry] := by
        simp [externalsOf, pushPaired, pairedComparison]
      rw [hexternals]
      exact (h.externals.append_right _).trans (filter_matched_modify hitem hfree).symm
    · have hcounts := h.counts
      simp only [pushPaired, List.length_append, List.length_singleton]
      split_ifs <;> omega
  · rw [hround]
    constructor
    · simpa [externalsOf, pushAmbiguous, unpairedComparison] using h.externals
    · have hcounts := h.counts
      simp only [pushAmbiguous, List.length_append, List.length_singleton]
      omega
  · rw [hround]
    constructor
    · rw [externalsOf_pushUnpaired, entries_pushUnpaired]
      exact h.externals
    · have hcounts := h.counts
      unfold pushUnpaired
      split_ifs <;> simp only [List.length_append, List.length_singleton] <;> omega
  · rw [hround]
    exact h

/-! ## The whole loop -/

def entriesAfter (entries : List ExternalComparablePosition)
    (positions : List InternalDerivativePositionEntry) : List ExternalComparablePosition :=
  positions.foldl takePartner entries

/-- When the turn of a position comes whose key an earlier one has, some free external position
shares a key with it. -/
def TwinsFindPartners (entries : List ExternalComparablePosition)
    (positions : List InternalDerivativePositionEntry) : Prop :=
  ∀ earlier position, earlier ++ [position] <+: positions →
    position.positionKey ∈ earlier.map (fun p => p.positionKey) →
      ∃ item ∈ entriesAfter entries earlier, isPartner position.marketIdentity item = true

section Loop

variable {entries : List ExternalComparablePosition}

variable (positions : List InternalDerivativePositionEntry)

theorem entries_foldl (progress : PositionProgress) :
    (positions.foldl compareInternal progress).entries =
      entriesAfter progress.entries positions := by
  induction positions generalizing progress with
  | nil => rfl
  | cons position positions ih =>
    rw [List.foldl_cons, ih, entries_compareInternal]
    rfl

theorem map_entry_entriesAfter :
    (entriesAfter entries positions).map (fun item => item.entry) =
      entries.map fun item => item.entry := by
  induction positions generalizing entries with
  | nil => rfl
  | cons position positions ih =>
    exact ih.trans (map_entry_takePartner position)

theorem Balanced.foldl {progress : PositionProgress} (h : Balanced progress)
    (positions : List InternalDerivativePositionEntry) :
    Balanced (positions.foldl DerivativeComparison.compareInternal progress) := by
  induction positions generalizing progress with
  | nil => exact h
  | cons position positions ih => exact ih (h.compareInternal position)

def compareAll (entries : List ExternalComparablePosition)
    (positions : List InternalDerivativePositionEntry) : PositionProgress :=
  positions.foldl compareInternal { entries }

theorem entries_compareAll :
    (compareAll entries positions).entries = entriesAfter entries positions :=
  entries_foldl positions _

theorem compareAll_concat (position : InternalDerivativePositionEntry) :
    compareAll entries (positions ++ [position]) =
      compareInternal (compareAll entries positions) position := by
  rw [compareAll, List.foldl_append]
  rfl

/-- The keys of the internal positions so far: one that is passed over has the key of another. -/
theorem mem_keys_compareAll {key : String} :
    key ∈ (internalsOf (compareAll entries positions).comparisons).map (fun p => p.positionKey) ↔
      key ∈ positions.map fun p => p.positionKey := by
  induction positions using List.reverseRecOn generalizing key with
  | nil => rfl
  | append_singleton positions position ih =>
    rw [compareAll_concat, internalsOf_compareInternal, List.map_append, List.map_append,
      List.mem_append, List.mem_append, ih]
    split_ifs with hpassed
    · have hkey : position.positionKey ∈ positions.map fun p => p.positionKey := ih.1 hpassed.2
      constructor
      · rintro (h | h)
        · exact Or.inl h
        · cases h
      · rintro (h | h)
        · exact Or.inl h
        · rw [List.mem_singleton.1 h]
          exact Or.inl hkey
    · rfl

theorem internalsOf_compareAll_sublist :
    (internalsOf (compareAll entries positions).comparisons).Sublist positions := by
  induction positions using List.reverseRecOn with
  | nil => exact List.Sublist.refl _
  | append_singleton positions position ih =>
    rw [compareAll_concat, internalsOf_compareInternal]
    refine ih.append ?_
    split_ifs
    · exact List.nil_sublist _
    · exact List.Sublist.refl _

theorem twinsFindPartners_concat {positions : List InternalDerivativePositionEntry}
    {position : InternalDerivativePositionEntry} :
    TwinsFindPartners entries (positions ++ [position]) ↔
      TwinsFindPartners entries positions ∧
        (position.positionKey ∈ positions.map (fun p => p.positionKey) →
          ∃ item ∈ entriesAfter entries positions,
            isPartner position.marketIdentity item = true) := by
  constructor
  · intro h
    refine ⟨fun earlier p hpre => h earlier p (List.prefix_concat_iff.2 (Or.inr hpre)), ?_⟩
    exact h positions position (List.prefix_refl _)
  · rintro ⟨h, hlast⟩ earlier p hpre hkey
    rcases List.prefix_concat_iff.1 hpre with heq | hpre
    · obtain ⟨rfl, hp⟩ := List.append_inj' heq rfl
      obtain rfl : p = position := by simpa using hp
      exact hlast hkey
    · exact h earlier p hpre hkey

/-- No position is passed over if and only if the later ones of a key find partners. -/
theorem internalsOf_compareAll_iff :
    internalsOf (compareAll entries positions).comparisons = positions ↔
      TwinsFindPartners entries positions := by
  induction positions using List.reverseRecOn with
  | nil =>
    refine ⟨fun _ earlier p hpre => absurd (List.prefix_nil.1 hpre) (by simp), fun _ => rfl⟩
  | append_singleton positions position ih =>
    rw [twinsFindPartners_concat, ← ih, compareAll_concat, internalsOf_compareInternal]
    have hpassed : PassedOver (compareAll entries positions) position ↔
        ¬ (position.positionKey ∈ positions.map (fun p => p.positionKey) →
          ∃ item ∈ entriesAfter entries positions,
            isPartner position.marketIdentity item = true) := by
      rw [PassedOver, mem_keys_compareAll, entries_compareAll, and_comm]
      simp only [Classical.not_imp, not_exists, not_and, Bool.not_eq_true]
    split_ifs with h
    · refine ⟨fun heq => ?_, fun heq => absurd heq.2 (hpassed.1 h)⟩
      have hlength := (@internalsOf_compareAll_sublist entries positions).length_le
      have := congrArg List.length heq
      simp only [List.append_nil, List.length_append, List.length_singleton] at this
      omega
    · rw [hpassed, not_not] at h
      refine ⟨fun heq => ⟨(List.append_inj' heq rfl).1, h⟩, fun heq => ?_⟩
      rw [heq.1]

end Loop

/-! ## The comparisons of a detail -/

section ExternalOnly

variable {progress : PositionProgress}

theorem internalsOf_pushExternalOnly :
    internalsOf (pushExternalOnly progress).comparisons = internalsOf progress.comparisons := by
  have hrows : ((unmatchedEntries progress.entries).map externalOnlyComparison).filterMap
      (fun comparison => comparison.internalPosition) = [] := by
    rw [List.filterMap_map, List.filterMap_eq_nil_iff]
    intro item _
    rfl
  simp only [pushExternalOnly, internalsOf, List.filterMap_append, hrows, List.append_nil]

theorem externalsOf_pushExternalOnly (h : Balanced progress) :
    (externalsOf (pushExternalOnly progress).comparisons).Perm
      (progress.entries.map fun item => item.entry) := by
  have hrows : ((unmatchedEntries progress.entries).map externalOnlyComparison).filterMap
      (fun comparison => comparison.externalPosition) =
        (unmatchedEntries progress.entries).map fun item => item.entry := by
    rw [List.filterMap_map, ← List.filterMap_eq_map]
    rfl
  have hperm := (List.filter_append_perm (fun item => item.matched) progress.entries).map
    fun item : ExternalComparablePosition => item.entry
  rw [List.map_append] at hperm
  simp only [pushExternalOnly, externalsOf, List.filterMap_append, hrows]
  exact (h.externals.append_right _).trans hperm

theorem counts_pushExternalOnly (h : Balanced progress) :
    (pushExternalOnly progress).matchedCount + (pushExternalOnly progress).mismatchedCount +
      (pushExternalOnly progress).identityGapCount =
        (pushExternalOnly progress).comparisons.length := by
  have hcounts := h.counts
  simp only [pushExternalOnly, List.length_append, List.length_map]
  omega

end ExternalOnly

theorem map_entry_externalEntries (positions : List VenueDerivativePositionEntry) :
    (externalEntries positions).map (fun item => item.entry) =
      positions.filter fun position => decide (position.positionType ≠ .unknown) := by
  rw [externalEntries, List.filter_map, List.map_map]
  exact List.map_id' _

/-- Every internal position and every external one of known type is in one comparison, and those
that the list has twice are in two; the counters add up to the comparisons. -/
structure ComparesEachOnce (detail : VenueDerivativeComparisonDetail) : Prop where
  internal : (internalsOf detail.positionComparisons).Perm (internalPositionsOf detail.internalState)
  external : (externalsOf detail.positionComparisons).Perm
    ((externalPositionsOf detail.externalSnapshot).filter fun position =>
      decide (position.positionType ≠ .unknown))
  counts : detail.summary.matchedPositionCount + detail.summary.mismatchedPositionCount +
    detail.summary.positionIdentityGapCount = detail.positionComparisons.length

theorem comparesEachOnce_iff (orders : TextOrders) (input : ComparisonInput) :
    ComparesEachOnce (buildVenueDerivativeComparisonDetail orders input) ↔
      TwinsFindPartners (externalEntries (externalPositionsOf input.externalSnapshot))
        (internalPositionsOf input.internalState) := by
  let entries := externalEntries (externalPositionsOf input.externalSnapshot)
  let positions := internalPositionsOf input.internalState
  have hfree : Balanced { entries } := by
    refine ⟨?_, rfl⟩
    have hnone : entries.filter (fun item => item.matched) = [] := by
      rw [List.filter_eq_nil_iff]
      intro item hitem
      obtain ⟨position, -, rfl⟩ := List.mem_map.1 (List.mem_filter.1 hitem).1
      exact Bool.false_ne_true
    rw [hnone]
    exact List.Perm.refl _
  have hbalanced : Balanced (compareAll entries positions) := hfree.foldl positions
  have hsorted := List.perm_insertionSort
    (fun a b : VenueDerivativePositionComparison =>
      orders.localeLe a.comparisonKey b.comparisonKey = true)
    (pushExternalOnly (compareAll entries positions)).comparisons
  have hinternal := hsorted.filterMap fun comparison => comparison.internalPosition
  have hexternal := hsorted.filterMap fun comparison => comparison.externalPosition
  rw [← internalsOf_compareAll_iff]
  constructor
  · intro h
    have hperm := (hinternal.symm.trans h.internal)
    refine (internalsOf_compareAll_sublist positions).eq_of_length ?_
    rw [← internalsOf_pushExternalOnly]
    exact hperm.length_eq
  · intro h
    refine ⟨?_, ?_, ?_⟩
    · refine hinternal.trans ?_
      show (internalsOf (pushExternalOnly (compareAll entries positions)).comparisons).Perm _
      rw [internalsOf_pushExternalOnly, h]
      exact List.Perm.refl _
    · refine hexternal.trans ((externalsOf_pushExternalOnly hbalanced).trans ?_)
      rw [entries_compareAll, map_entry_entriesAfter, map_entry_externalEntries]
      exact List.Perm.refl _
    · exact (counts_pushExternalOnly hbalanced).trans hsorted.length_eq.symm

/-- Without external positions no position finds a partner. -/
theorem twinsFindPartners_nil_iff (positions : List InternalDerivativePositionEntry) :
    TwinsFindPartners [] positions ↔ (positions.map fun p => p.positionKey).Nodup := by
  have hnone : ∀ earlier position, ¬ ∃ item ∈ entriesAfter [] earlier,
      isPartner (InternalDerivativePositionEntry.marketIdentity position) item = true := by
    rintro earlier position ⟨item, hitem, -⟩
    have hempty := congrArg List.length (@map_entry_entriesAfter [] earlier)
    rw [List.length_map, List.map_nil, List.length_nil, List.length_eq_zero_iff] at hempty
    rw [hempty] at hitem
    cases hitem
  induction positions using List.reverseRecOn with
  | nil => exact ⟨fun _ => List.nodup_nil, fun _ earlier p hpre =>
      absurd (List.prefix_nil.1 hpre) (by simp)⟩
  | append_singleton positions position ih =>
    rw [twinsFindPartners_concat, imp_iff_not (hnone positions position), List.map_append,
      List.map_singleton, ← List.concat_eq_append, List.nodup_concat, and_comm]
    exact and_congr_right fun _ => ih

/-- Every position has its comparison if and only if a position whose key an earlier one has
finds a partner; and it is so for every external snapshot if and only if the keys are distinct. -/
theorem positions_compared_iff (orders : TextOrders) (input : ComparisonInput) :
    (ComparesEachOnce (buildVenueDerivativeComparisonDetail orders input) ↔
      TwinsFindPartners (externalEntries (externalPositionsOf input.externalSnapshot))
        (internalPositionsOf input.internalState)) ∧
    ((∀ externalSnapshot, ComparesEachOnce
        (buildVenueDerivativeComparisonDetail orders { input with externalSnapshot })) ↔
      ((internalPositionsOf input.internalState).map fun p => p.positionKey).Nodup) := by
  refine ⟨comparesEachOnce_iff orders input, ?_, ?_⟩
  · intro h
    rw [← twinsFindPartners_nil_iff]
    exact (comparesEachOnce_iff orders _).1 (h none)
  · intro hnodup externalSnapshot
    refine (comparesEachOnce_iff orders _).2 fun earlier position hpre hkey => ?_
    have hsub := (hpre.sublist.map fun p => p.positionKey).nodup hnodup
    rw [List.map_append, List.map_singleton, ← List.concat_eq_append, List.nodup_concat] at hsub
    exact absurd hkey hsub.1

/-! ## Two rows of one market -/

/-- A market that is known by its asset and type. -/
def solPerp : CanonicalMarketIdentity :=
  createCanonicalMarketIdentity
    { asset := some "SOL"
      marketType := .str "perp"
      capturedAtStage := .fill
      source := "fill" }

def sampleOrderView (clientOrderId : String) (metadata : Metadata) : DerivativeOrderView where
  clientOrderId
  asset := "SOL"
  marketIdentity := none
  metadata
  venueOrderId := none
  side := "buy"
  status := "filled"
  requestedSize := 1
  filledSize := 1
  requestedPrice := none
  reduceOnly := false
  executionMode := "live"
  submittedAt := none
  completedAt := none
  updatedAt := 0

def sampleFillRecord (clientOrderId : String) (size : Decimal) : InternalDerivativeFillRecord where
  venueId := "drift"
  venueOrderId := clientOrderId
  clientOrderId
  asset := "SOL"
  side := .buy
  size
  price := 100
  fee := 0
  feeAsset := none
  reduceOnly := false
  filledAt := 0
  marketIdentity := some solPerp
  metadata := OrderedMap.empty

/-- The second order does not say that it is for a perpetual. -/
def twoRowsInput : BuildInternalDerivativeSnapshotInput where
  venue := { venueId := "drift", venueName := "Drift" }
  orders := [sampleOrderView "a" (OrderedMap.ofList [("instrumentType", .str "perpetual")]),
    sampleOrderView "b" OrderedMap.empty]
  fills := [sampleFillRecord "a" 1, sampleFillRecord "b" 2]
  portfolioSummary := none
  riskSummary := none
  capturedAt := 0
  sourceComponent := "runtime"

def sampleOrders : TextOrders where
  localeLe a b := decide (a ≤ b)
  sortLe a b := decide (a ≤ b)

def oneExternal : VenueSnapshotView where
  capturedAt := 0
  truthCoverage :=
    { derivativeAccountState := .available
      derivativePositionState := .available
      derivativeHealthState := .available
      orderState := .available }
  derivativeAccountState := none
  derivativePositionState := some
    [{ marketKey := none
       marketSymbol := some "SOL-PERP"
       positionType := .perp
       side := .long
       baseAssetAmount := some 1 }]
  derivativeHealthState := none
  orderState := none

def twoRows : ComparisonInput where
  venueId := "drift"
  venueName := "Drift"
  internalState := some (buildInternalDerivativeSnapshot sampleOrders.localeLe twoRowsInput)
  externalSnapshot := some oneExternal
  activeFindings := []

/-- A position of two units is in no comparison, and the summary reports a match. -/
theorem position_not_compared :
    let detail := buildVenueDerivativeComparisonDetail sampleOrders twoRows
    ((internalPositionsOf twoRows.internalState).map fun p => (p.positionKey, p.netQuantity)) =
      [("perp:SOL-PERP", 1), ("perp:SOL-PERP", 2)] ∧
    ((internalsOf detail.positionComparisons).map fun p => p.netQuantity) = [1] ∧
    detail.summary.matchedPositionCount = 1 ∧ detail.summary.mismatchedPositionCount = 0 ∧
    ¬ ComparesEachOnce detail := by
  have hpositions : ((internalPositionsOf twoRows.internalState).map fun p =>
      (p.positionKey, p.netQuantity)) = [("perp:SOL-PERP", 1), ("perp:SOL-PERP", 2)] := by
    decide +kernel
  have hcompared : ((internalsOf (buildVenueDerivativeComparisonDetail sampleOrders
      twoRows).positionComparisons).map fun p => p.netQuantity) = [1] := by
    decide +kernel
  refine ⟨hpositions, hcompared, by decide +kernel, by decide +kernel, fun h => ?_⟩
  have hinternal : (internalPositionsOf twoRows.internalState).length = 2 := by
    simpa using congrArg List.length hpositions
  have hrows : (internalsOf (buildVenueDerivativeComparisonDetail sampleOrders
      twoRows).positionComparisons).length = 1 := by
    simpa using congrArg List.length hcompared
  have hlength : 1 = 2 := hrows.symm.trans (h.internal.length_eq.trans hinternal)
  omega

end SentinelApex.DerivativeComparison
