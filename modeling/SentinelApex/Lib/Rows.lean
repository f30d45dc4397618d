import Mathlib.Algebra.BigOperators.Group.List.Basic

/-!
# Tables as lists of rows

An `UPDATE ... WHERE key = k` changes every row with the key, and a `SELECT ... WHERE key = k LIMIT
1` takes the first one.
-/

namespace Rows

variable {α κ : Type} [DecidableEq κ] (key : α → κ)

/-- The first row with the key. -/
def find (k : κ) (rows : List α) : Option α := rows.find? fun row => decide (key row = k)

/-- Change the rows with the key. -/
def update (k : κ) (f : α → α) (rows : List α) : List α :=
  rows.map fun row => if key row = k then f row else row

/-- The first row of every key, in the order of the rows. -/
def firsts : List α → List α
  | [] => []
  | row :: rows => row :: (firsts rows).filter fun other => decide (key other ≠ key row)

variable {key} {f : α → α} {k : κ} {rows : List α} {row : α}

theorem key_of_find (h : find key k rows = some row) : key row = k := by
  simpa using List.find?_some h

theorem mem_of_find (h : find key k rows = some row) : row ∈ rows := List.mem_of_find?_eq_some h

theorem find_update (hf : ∀ row, key (f row) = key row) (k k' : κ) (rows : List α) :
    find key k' (update key k f rows) =
      (find key k' rows).map fun row => if k' = k then f row else row := by
  unfold find update
  induction rows with
  | nil => rfl
  | cons row rows ih =>
    rw [List.map_cons, List.find?_cons, List.find?_cons]
    have hkey : key (if key row = k then f row else row) = key row := by
      split_ifs
      · exact hf row
      · rfl
    rw [hkey]
    by_cases hrow : key row = k'
    · subst hrow
      simp
    · simpa [hrow] using ih

theorem mem_update : row ∈ update key k f rows ↔
    ∃ old ∈ rows, (if key old = k then f old else old) = row := List.mem_map

theorem mem_firsts : row ∈ firsts key rows ↔ find key (key row) rows = some row := by
  induction rows with
  | nil => simp [firsts, find]
  | cons first rows ih =>
    rw [firsts, List.mem_cons, List.mem_filter, ih]
    by_cases hkey : key first = key row
    · simp [find, hkey, eq_comm]
    · have hne : row ≠ first := fun h => hkey (congrArg key h.symm)
      simp [find, hkey, hne, Ne.symm hkey]

theorem find_of_unique (hkeys : (rows.map key).Nodup) (hrow : row ∈ rows) :
    find key (key row) rows = some row := by
  induction rows with
  | nil => cases hrow
  | cons first rows ih =>
    obtain ⟨hnew, hrest⟩ := List.nodup_cons.1 hkeys
    rcases List.mem_cons.1 hrow with rfl | hrow
    · simp [find]
    · have hne : key first ≠ key row := by
        intro hkey
        apply hnew
        rw [hkey]
        exact List.mem_map_of_mem hrow
      rw [find, List.find?_cons_of_neg (by simpa using hne)]
      exact ih hrest hrow

theorem filter_of_unique (hkeys : (rows.map key).Nodup) (k : κ) :
    rows.filter (fun row => decide (key row = k)) = (find key k rows).toList := by
  induction rows with
  | nil => rfl
  | cons first rows ih =>
    obtain ⟨hnew, hrest⟩ := List.nodup_cons.1 hkeys
    by_cases hkey : key first = k
    · -- The key is at the first row and nowhere else.
      have hnone : rows.filter (fun row => decide (key row = k)) = [] := by
        refine List.filter_eq_nil_iff.2 fun other hother heq => hnew ?_
        rw [hkey, ← of_decide_eq_true heq]
        exact List.mem_map_of_mem hother
      simp [find, hkey, hnone]
    · rw [find, List.find?_cons_of_neg (by simpa using hkey),
        List.filter_cons_of_neg (by simpa using hkey)]
      exact ih hrest

omit [DecidableEq κ] in
theorem sum_map_of_unique {M : Type} [AddMonoid M] (hkeys : (rows.map key).Nodup) (hrow : row ∈ rows)
    {g : α → M} (hg : ∀ other ∈ rows, key other ≠ key row → g other = 0) :
    (rows.map g).sum = g row := by
  induction rows with
  | nil => cases hrow
  | cons first rows ih =>
    obtain ⟨hnew, hrest⟩ := List.nodup_cons.1 hkeys
    rw [List.map_cons, List.sum_cons]
    rcases List.mem_cons.1 hrow with rfl | hrow
    · have hzero : ∀ x ∈ rows.map g, x = 0 := by
        intro x hx
        obtain ⟨other, hother, rfl⟩ := List.mem_map.1 hx
        refine hg other (List.mem_cons_of_mem _ hother) fun hkey => hnew ?_
        rw [← hkey]
        exact List.mem_map_of_mem hother
      rw [List.sum_eq_zero hzero, add_zero]
    · have hkey : key first ≠ key row := by
        intro hkey
        apply hnew
        rw [hkey]
        exact List.mem_map_of_mem hrow
      rw [hg first List.mem_cons_self hkey, zero_add,
        ih hrest hrow fun other hother => hg other (List.mem_cons_of_mem _ hother)]

theorem le_of_find_pairwise {r : α → α → Prop} {p : α → Bool} (hsorted : rows.Pairwise r)
    (h : rows.find? p = some row) : ∀ other ∈ rows, p other = true → other = row ∨ r row other := by
  intro other hother hp
  obtain ⟨-, before, after, rfl, hbefore⟩ := List.find?_eq_some_iff_append.1 h
  rcases List.mem_append.1 hother with hin | hin
  · have hfalse := hbefore other hin
    rw [hp] at hfalse
    cases hfalse
  · rcases List.mem_cons.1 hin with rfl | hin
    · exact Or.inl rfl
    · exact Or.inr (List.rel_of_pairwise_cons (List.pairwise_append.1 hsorted).2.1 hin)

end Rows
