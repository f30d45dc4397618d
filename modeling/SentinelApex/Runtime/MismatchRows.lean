import Mathlib.Data.List.Find
import SentinelApex.Lib.Separated
import SentinelApex.Runtime.Calls

/-!
# The rows of mismatches

The methods of the store that write mismatches are an upsert and two updates. `Database.Sound` is
the invariant of the table (keys are unique, generated ids are fresh, and every row says what its
status requires), and `LegalStep` relates the databases around a write that keeps it and moves
statuses along the lifecycle only. An update is legal if it is legal for the one row that it
selects, and an upsert is always legal.
-/

namespace SentinelApex.Runtime

/-! ## Sound rows and legal steps -/

/-- A resolved mismatch has the time of its resolution; a verified one also the time and the outcome
of its verification. -/
structure RuntimeMismatch.Sound (row : RuntimeMismatch) : Prop where
  resolved : row.status = .resolved → row.resolvedAt.isSome
  verified : row.status = .verified → row.resolvedAt.isSome ∧ row.verifiedAt.isSome ∧
    row.verificationOutcome = some .verified

variable {row : RuntimeMismatch}

theorem RuntimeMismatch.sound_of_resolved (hs : row.status = .resolved)
    (hresolvedAt : row.resolvedAt.isSome) : row.Sound := by
  refine ⟨fun _ => hresolvedAt, fun hs' => ?_⟩
  rw [hs] at hs'
  cases hs'

theorem RuntimeMismatch.sound_of_not_closed (h : row.status.shouldReopen = false) : row.Sound := by
  constructor
  all_goals
    intro hs
    rw [hs] at h
    cases h

/-- What may happen to the status of a mismatch in one step: it stays, it moves along an edge of the
lifecycle, or the mismatch is new and open. -/
def StatusStep : Option RuntimeMismatchStatus → Option RuntimeMismatchStatus → Prop
  | none, none => True
  | none, some s' => s' = .opened
  | some _, none => False
  | some s, some s' => s = s' ∨ MovesTo s s'

theorem StatusStep.refl (s : Option RuntimeMismatchStatus) : StatusStep s s := by
  cases s with
  | none => trivial
  | some s => exact Or.inl rfl

structure RowStep (row row' : RuntimeMismatch) : Prop where
  id : row'.id = row.id
  dedupeKey : row'.dedupeKey = row.dedupeKey
  moves : row.status = row'.status ∨ MovesTo row.status row'.status
  sound : row'.Sound

theorem RowStep.refl (h : row.Sound) : RowStep row row :=
  ⟨rfl, rfl, Or.inl rfl, h⟩

/-- What an upsert makes of a row, as the mismatch that it found decides. -/
def RuntimeMismatch.detectedAgain (row existing : RuntimeMismatch) (input : MismatchInput)
    (now : Date) : RuntimeMismatch :=
  if existing.status.shouldReopen then row.redetectedClosed input now else row.redetected input now

theorem RuntimeMismatch.detectedAgain_id (row existing : RuntimeMismatch) (input : MismatchInput)
    (now : Date) : (row.detectedAgain existing input now).id = row.id := by
  unfold RuntimeMismatch.detectedAgain
  split_ifs <;> rfl

theorem RuntimeMismatch.detectedAgain_dedupeKey (row existing : RuntimeMismatch)
    (input : MismatchInput) (now : Date) :
    (row.detectedAgain existing input now).dedupeKey = row.dedupeKey := by
  unfold RuntimeMismatch.detectedAgain
  split_ifs <;> rfl

theorem RuntimeMismatch.Sound.detectedAgain (h : row.Sound) (input : MismatchInput) (now : Date) :
    RowStep row (row.detectedAgain row input now) := by
  refine ⟨row.detectedAgain_id row input now, row.detectedAgain_dedupeKey row input now, ?_, ?_⟩
  · unfold RuntimeMismatch.detectedAgain
    split_ifs with hreopen
    · refine Or.inr (movesTo_iff.2 (Or.inr ?_))
      simpa [RuntimeMismatchStatus.shouldReopen] using hreopen
    · exact Or.inl rfl
  · unfold RuntimeMismatch.detectedAgain
    split_ifs
    · exact RuntimeMismatch.sound_of_not_closed rfl
    · exact ⟨h.resolved, h.verified⟩

variable {mismatchId : String}

namespace Database

structure Sound (db : Database) : Prop where
  ids : (db.mismatches.map fun row => row.id).Nodup
  dedupeKeys : (db.mismatches.map fun row => row.dedupeKey).Nodup
  fresh : ∀ row ∈ db.mismatches, ∃ n < db.nextId, row.id = toString n
  rows : ∀ row ∈ db.mismatches, row.Sound

def statusOf (db : Database) (mismatchId : String) : Option RuntimeMismatchStatus :=
  (db.getMismatchById mismatchId).map fun row => row.status

/-- A legal change of the database. -/
structure LegalStep (db db' : Database) : Prop where
  sound : db'.Sound
  moves : ∀ mismatchId, StatusStep (db.statusOf mismatchId) (db'.statusOf mismatchId)

variable {db db' : Database}

theorem getMismatchById_congr (h : db'.mismatches = db.mismatches) (mismatchId : String) :
    db'.getMismatchById mismatchId = db.getMismatchById mismatchId := by
  rw [getMismatchById, getMismatchById, h]

theorem getMismatchByDedupeKey_congr (h : db'.mismatches = db.mismatches) (dedupeKey : String) :
    db'.getMismatchByDedupeKey dedupeKey = db.getMismatchByDedupeKey dedupeKey := by
  rw [getMismatchByDedupeKey, getMismatchByDedupeKey, h]

theorem statusOf_congr (h : db'.mismatches = db.mismatches) (mismatchId : String) :
    db'.statusOf mismatchId = db.statusOf mismatchId := by
  rw [statusOf, statusOf, getMismatchById_congr h]

theorem LegalStep.of_eq (h : db.Sound) (hrows : db'.mismatches = db.mismatches)
    (hnext : db.nextId ≤ db'.nextId) : db.LegalStep db' := by
  refine ⟨⟨?_, ?_, ?_, ?_⟩, ?_⟩
  · rw [hrows]
    exact h.ids
  · rw [hrows]
    exact h.dedupeKeys
  · intro row hrow
    obtain ⟨n, hn, hid⟩ := h.fresh row (hrows ▸ hrow)
    exact ⟨n, hn.trans_le hnext, hid⟩
  · intro row hrow
    exact h.rows row (hrows ▸ hrow)
  · intro mismatchId
    rw [statusOf_congr hrows]
    exact StatusStep.refl _

/-! ## Rows that change in place -/

section Rows

variable {f : RuntimeMismatch → RuntimeMismatch}

theorem getMismatchById_map (hid : ∀ row ∈ db.mismatches, (f row).id = row.id)
    (hrows : db'.mismatches = db.mismatches.map f) (mismatchId : String) :
    db'.getMismatchById mismatchId = (db.getMismatchById mismatchId).map f := by
  rw [getMismatchById, getMismatchById, hrows, List.find?_map]
  congr 1
  apply List.find?_congr
  intro row hrow
  rw [Function.comp_apply, hid row hrow]

theorem LegalStep.of_map (h : db.Sound) (hrows : db'.mismatches = db.mismatches.map f)
    (hnext : db.nextId ≤ db'.nextId) (hf : ∀ row ∈ db.mismatches, RowStep row (f row)) :
    db.LegalStep db' := by
  have hids : db'.mismatches.map (fun row => row.id) = db.mismatches.map fun row => row.id := by
    rw [hrows, List.map_map]
    exact List.map_congr_left fun row hrow => (hf row hrow).id
  have hkeys : db'.mismatches.map (fun row => row.dedupeKey) =
      db.mismatches.map fun row => row.dedupeKey := by
    rw [hrows, List.map_map]
    exact List.map_congr_left fun row hrow => (hf row hrow).dedupeKey
  refine ⟨⟨hids ▸ h.ids, hkeys ▸ h.dedupeKeys, ?_, ?_⟩, ?_⟩
  · intro row' hrow'
    obtain ⟨row, hrow, rfl⟩ := List.mem_map.1 (hrows ▸ hrow')
    obtain ⟨n, hn, hid⟩ := h.fresh row hrow
    exact ⟨n, hn.trans_le hnext, (hf row hrow).id.trans hid⟩
  · intro row' hrow'
    obtain ⟨row, hrow, rfl⟩ := List.mem_map.1 (hrows ▸ hrow')
    exact (hf row hrow).sound
  · intro mismatchId
    rw [statusOf, statusOf, getMismatchById_map (fun row hrow => (hf row hrow).id) hrows]
    cases hfind : db.getMismatchById mismatchId with
    | none => trivial
    | some row => exact (hf row (List.mem_of_find?_eq_some hfind)).moves

/-! ### Rows selected by a key -/

variable {key : RuntimeMismatch → String} {k : String} {row : RuntimeMismatch}

theorem eq_of_key (hkeys : (db.mismatches.map key).Nodup)
    (hrow : db.mismatches.find? (fun row => decide (key row = k)) = some row)
    {row' : RuntimeMismatch} (hrow' : row' ∈ db.mismatches) (hkey : key row' = k) : row' = row := by
  have hk : key row = k := by simpa using List.find?_some hrow
  exact List.inj_on_of_nodup_map hkeys hrow' (List.mem_of_find?_eq_some hrow) (hkey.trans hk.symm)

theorem LegalStep.of_update (h : db.Sound) (hkeys : (db.mismatches.map key).Nodup)
    (hrow : db.mismatches.find? (fun row => decide (key row = k)) = some row)
    (hrows : db'.mismatches = db.mismatches.map fun row => if key row = k then f row else row)
    (hnext : db.nextId ≤ db'.nextId) (hf : RowStep row (f row)) : db.LegalStep db' := by
  refine LegalStep.of_map h hrows hnext ?_
  intro row' hrow'
  split_ifs with hkey
  · rw [eq_of_key hkeys hrow hrow' hkey]
    exact hf
  · exact RowStep.refl (h.rows row' hrow')

theorem status_of_update (hkeys : (db.mismatches.map key).Nodup)
    (hrow : db.mismatches.find? (fun row => decide (key row = k)) = some row)
    (hrows : db'.mismatches = db.mismatches.map fun row => if key row = k then f row else row)
    (hid : ∀ row, (f row).id = row.id) {s : RuntimeMismatchStatus}
    (hs : db.statusOf mismatchId ≠ some s) (hs' : db'.statusOf mismatchId = some s) :
    mismatchId = row.id ∧ s = (f row).status := by
  rw [statusOf, getMismatchById_map (f := fun row => if key row = k then f row else row)
    (fun row _ => by split_ifs <;> simp [hid]) hrows] at hs'
  cases hfind : db.getMismatchById mismatchId with
  | none => simp [hfind] at hs'
  | some row' =>
    have hrowId : row'.id = mismatchId := by simpa using List.find?_some hfind
    rw [statusOf, hfind] at hs
    rw [hfind] at hs'
    by_cases hkey : key row' = k
    · have hsel := eq_of_key hkeys hrow (List.mem_of_find?_eq_some hfind) hkey
      rw [← hsel]
      exact ⟨hrowId.symm, by simpa [hkey] using hs'.symm⟩
    · exact absurd (by simpa [hkey] using hs') hs

end Rows

variable {p : MismatchPatch} {now : Date} {dedupeKey : String}

theorem Sound.updateMismatchById (h : db.Sound) (hrow : db.getMismatchById mismatchId = some row)
    (hp : RowStep row (row.patch p now)) :
    db.LegalStep (db.updateMismatchById mismatchId p now) :=
  LegalStep.of_update h h.ids hrow rfl le_rfl hp

theorem Sound.updateMismatchByDedupeKey (h : db.Sound)
    (hrow : db.getMismatchByDedupeKey dedupeKey = some row) (hp : RowStep row (row.patch p now)) :
    db.LegalStep (db.updateMismatchByDedupeKey dedupeKey p now) :=
  LegalStep.of_update h h.dedupeKeys hrow rfl le_rfl hp

theorem getMismatchById_updateMismatchById (hrow : db.getMismatchById mismatchId = some row)
    (p : MismatchPatch) (now : Date) :
    (db.updateMismatchById mismatchId p now).getMismatchById mismatchId =
      some (row.patch p now) := by
  have hfind : (db.updateMismatchById mismatchId p now).getMismatchById mismatchId =
      (db.getMismatchById mismatchId).map fun row => row.patch p now :=
    @find?_update RuntimeMismatch (fun row => row.id) (fun row => row.patch p now) (fun _ => rfl)
      mismatchId db.mismatches
  rw [hfind, hrow]
  rfl

theorem status_of_updateMismatchById {id : String} {s : RuntimeMismatchStatus}
    (hs : db.statusOf id ≠ some s)
    (hs' : (db.updateMismatchById mismatchId p now).statusOf id = some s) :
    id = mismatchId ∧ ∃ row : RuntimeMismatch,
      (db.updateMismatchById mismatchId p now).getMismatchById mismatchId =
        some (row.patch p now) ∧ s = (row.patch p now).status := by
  have hmap : (db.updateMismatchById mismatchId p now).getMismatchById id =
      (db.getMismatchById id).map fun row =>
        if row.id = mismatchId then row.patch p now else row :=
    getMismatchById_map (fun row _ => by split_ifs <;> rfl) rfl id
  rw [statusOf] at hs hs'
  cases hrow : db.getMismatchById id with
  | none => simp [hmap, hrow] at hs'
  | some row =>
    have hid : row.id = id := by simpa using List.find?_some hrow
    rw [hmap, hrow] at hs'
    by_cases hsel : row.id = mismatchId
    · obtain rfl : id = mismatchId := hid.symm.trans hsel
      refine ⟨rfl, row, getMismatchById_updateMismatchById hrow p now, ?_⟩
      simpa [hsel] using hs'.symm
    · exact absurd (by simpa [hsel, hrow] using hs') hs

theorem getMismatchByDedupeKey_updateMismatchByDedupeKey
    (hrow : db.getMismatchByDedupeKey dedupeKey = some row) (p : MismatchPatch) (now : Date) :
    (db.updateMismatchByDedupeKey dedupeKey p now).getMismatchByDedupeKey dedupeKey =
      some (row.patch p now) := by
  have hfind : (db.updateMismatchByDedupeKey dedupeKey p now).getMismatchByDedupeKey dedupeKey =
      (db.getMismatchByDedupeKey dedupeKey).map fun row => row.patch p now :=
    @find?_update RuntimeMismatch (fun row => row.dedupeKey) (fun row => row.patch p now)
      (fun _ => rfl) dedupeKey db.mismatches
  rw [hfind, hrow]
  rfl

/-! ## The upsert -/

section Upsert

variable {input : MismatchInput} {now : Date}

theorem upsertMismatch_of_none (h : db.getMismatchByDedupeKey input.dedupeKey = none) :
    db.upsertMismatch input now =
      (.ok (input.toRow (toString db.nextId) now, .opened),
        { db with
          mismatches := db.mismatches ++ [input.toRow (toString db.nextId) now]
          nextId := db.nextId + 1 }) := by
  have hback : (db.mismatches ++ [input.toRow (toString db.nextId) now]).find?
      (fun row => decide (row.dedupeKey = input.dedupeKey)) =
        some (input.toRow (toString db.nextId) now) := by
    rw [List.find?_append, show db.mismatches.find? _ = none from h, Option.none_or]
    exact List.find?_cons_of_pos (decide_eq_true rfl)
  simp only [upsertMismatch, h]
  rw [getMismatchByDedupeKey, hback]

theorem upsertMismatch_of_some (h : db.getMismatchByDedupeKey input.dedupeKey = some row) :
    db.upsertMismatch input now =
      (.ok (row.detectedAgain row input now,
          if row.status.shouldReopen then .reopened else .redetected),
        { db with
          mismatches := db.mismatches.map fun row' =>
            if row'.dedupeKey = input.dedupeKey then row'.detectedAgain row input now
            else row' }) := by
  have hback : (db.mismatches.map fun row' =>
      if row'.dedupeKey = input.dedupeKey then row'.detectedAgain row input now else row').find?
        (fun row' => decide (row'.dedupeKey = input.dedupeKey)) =
      some (row.detectedAgain row input now) := by
    rw [find?_update (fun row' => row'.detectedAgain_dedupeKey row input now),
      show db.mismatches.find? _ = some row from h]
    rfl
  simp only [upsertMismatch, h]
  simp only [RuntimeMismatch.detectedAgain] at hback ⊢
  rw [getMismatchByDedupeKey, hback]

theorem toString_nextId_ne (h : db.Sound) (hrow : row ∈ db.mismatches) :
    row.id ≠ toString db.nextId := by
  intro hid
  obtain ⟨n, hn, hrowId⟩ := h.fresh row hrow
  exact hn.ne (Separated.natRepr_toList_inj (congrArg String.toList (hrowId.symm.trans hid)))

theorem statusOf_append (hrows : db'.mismatches = db.mismatches ++ [row]) (mismatchId : String) :
    db'.statusOf mismatchId =
      (db.statusOf mismatchId).or (if row.id = mismatchId then some row.status else none) := by
  rw [statusOf, statusOf, getMismatchById, getMismatchById, hrows, List.find?_append,
    Option.map_or]
  congr 1
  by_cases hid : row.id = mismatchId
  · simp [hid]
  · simp [hid]

theorem LegalStep.of_append (h : db.Sound) (hid : row.id = toString db.nextId)
    (hkey : ∀ row' ∈ db.mismatches, row'.dedupeKey ≠ row.dedupeKey) (hstatus : row.status = .opened)
    (hrows : db'.mismatches = db.mismatches ++ [row]) (hnext : db'.nextId = db.nextId + 1) :
    db.LegalStep db' := by
  refine ⟨⟨?_, ?_, ?_, ?_⟩, ?_⟩
  · rw [hrows, List.map_append, List.nodup_append]
    refine ⟨h.ids, by simp, ?_⟩
    intro id hmem id' hmem'
    obtain ⟨row', hrow', rfl⟩ := List.mem_map.1 hmem
    rw [List.mem_singleton.1 hmem']
    show row'.id ≠ row.id
    rw [hid]
    exact toString_nextId_ne h hrow'
  · rw [hrows, List.map_append, List.nodup_append]
    refine ⟨h.dedupeKeys, by simp, ?_⟩
    intro key hmem key' hmem'
    obtain ⟨row', hrow', rfl⟩ := List.mem_map.1 hmem
    rw [List.mem_singleton.1 hmem']
    exact hkey row' hrow'
  · intro row' hrow'
    rw [hrows, List.mem_append, List.mem_singleton] at hrow'
    rw [hnext]
    rcases hrow' with hrow' | rfl
    · obtain ⟨n, hn, hrowId⟩ := h.fresh row' hrow'
      exact ⟨n, hn.trans (Nat.lt_succ_self _), hrowId⟩
    · exact ⟨db.nextId, Nat.lt_succ_self _, hid⟩
  · intro row' hrow'
    rw [hrows, List.mem_append, List.mem_singleton] at hrow'
    rcases hrow' with hrow' | rfl
    · exact h.rows row' hrow'
    · apply RuntimeMismatch.sound_of_not_closed
      rw [hstatus]
      rfl
  · intro mismatchId
    rw [statusOf_append hrows]
    cases db.statusOf mismatchId with
    | some s => exact Or.inl rfl
    | none =>
      split_ifs
      · exact hstatus
      · trivial

theorem Sound.upsertMismatch (h : db.Sound) (input : MismatchInput) (now : Date) :
    db.LegalStep (db.upsertMismatch input now).2 := by
  cases hrow : db.getMismatchByDedupeKey input.dedupeKey with
  | none =>
    rw [upsertMismatch_of_none hrow]
    refine LegalStep.of_append h rfl ?_ rfl rfl rfl
    intro row' hrow'
    show row'.dedupeKey ≠ input.dedupeKey
    simpa using List.find?_eq_none.1 hrow row' hrow'
  | some row =>
    rw [upsertMismatch_of_some hrow]
    exact LegalStep.of_update h h.dedupeKeys hrow rfl le_rfl
      ((h.rows row (List.mem_of_find?_eq_some hrow)).detectedAgain input now)

/-- The upsert answers with the one mismatch whose status it may have changed. -/
theorem Sound.exists_upsertMismatch (h : db.Sound) (input : MismatchInput) (now : Date) :
    ∃ row outcome, (db.upsertMismatch input now).1 = .ok (row, outcome) ∧
      (db.upsertMismatch input now).2.HasMismatch row.id ∧
      ∀ mismatchId s, db.statusOf mismatchId ≠ some s →
        (db.upsertMismatch input now).2.statusOf mismatchId = some s →
          mismatchId = row.id ∧ s = row.status := by
  cases hrow : db.getMismatchByDedupeKey input.dedupeKey with
  | none =>
    rw [upsertMismatch_of_none hrow]
    refine ⟨_, _, rfl, ⟨_, List.mem_append_right _ List.mem_cons_self, rfl⟩, ?_⟩
    intro mismatchId s hs hs'
    rw [statusOf_append rfl, Option.or_eq_some_iff] at hs'
    rcases hs' with hs' | ⟨-, hs'⟩
    · exact absurd hs' hs
    · split_ifs at hs' with hid
      exact ⟨hid.symm, (Option.some.inj hs').symm⟩
  | some row =>
    have hmem : (db.upsertMismatch input now).2.HasMismatch row.id :=
      HasMismatch.upsertMismatch ⟨row, List.mem_of_find?_eq_some hrow, rfl⟩ input now
    rw [upsertMismatch_of_some hrow] at hmem ⊢
    refine ⟨_, _, rfl, (row.detectedAgain_id row input now).symm ▸ hmem, ?_⟩
    intro mismatchId s hs hs'
    rw [row.detectedAgain_id]
    exact status_of_update h.dedupeKeys hrow rfl
      (fun row' => row'.detectedAgain_id row input now) hs hs'

end Upsert

end Database

end SentinelApex.Runtime
