import Mathlib.Data.List.Sort

/-!
# Adding the last row to a sorted list

Insertion sort is stable: a row that is appended to a list comes, in the sorted list, after all rows
that are not greater, and the others keep their places (`insertionSort_concat`). Which rows are
sorted before a given one can be said without the sort (`insertionSort_split`).
-/

namespace StableSort

variable {α : Type} {r : α → α → Prop} [DecidableRel r]

/-- Inserting `a` does not disturb the place of `x`, behind which all rows are strictly greater. -/
theorem orderedInsert_append_cons [IsTrans α r] [Std.Total r] (a x : α) (before : List α)
    {after : List α} (hafter : ∀ b ∈ after, ¬ r b x) :
    ∃ before' after', (before ++ after).orderedInsert r a = before' ++ after' ∧
      (before ++ x :: after).orderedInsert r a = before' ++ x :: after' ∧
      ∀ b ∈ after', ¬ r b x := by
  induction before with
  | nil =>
    by_cases hax : r a x
    · -- All rows behind `x` are greater than `a` as well.
      refine ⟨[a], after, ?_, List.orderedInsert_cons_of_le r _ hax, hafter⟩
      cases after with
      | nil => rfl
      | cons b after =>
        have hxb : r x b := (Std.Total.total x b).resolve_right (hafter b List.mem_cons_self)
        exact List.orderedInsert_cons_of_le r _ (IsTrans.trans _ _ _ hax hxb)
    · refine ⟨[], after.orderedInsert r a, rfl, List.orderedInsert_of_not_le r _ hax, ?_⟩
      intro b hb
      rcases (List.mem_orderedInsert r).1 hb with rfl | hb
      · exact hax
      · exact hafter b hb
  | cons c before ih =>
    by_cases hac : r a c
    · exact ⟨a :: c :: before, after, List.orderedInsert_cons_of_le r _ hac,
        List.orderedInsert_cons_of_le r _ hac, hafter⟩
    · obtain ⟨before', after', h, hx, hb⟩ := ih
      refine ⟨c :: before', after', ?_, ?_, hb⟩
      · rw [List.cons_append, List.orderedInsert_of_not_le r _ hac, h, List.cons_append]
      · rw [List.cons_append, List.orderedInsert_of_not_le r _ hac, hx, List.cons_append]

theorem insertionSort_concat [IsTrans α r] [Std.Total r] (l : List α) (x : α) :
    ∃ before after, l.insertionSort r = before ++ after ∧
      (l ++ [x]).insertionSort r = before ++ x :: after ∧ ∀ b ∈ after, ¬ r b x := by
  induction l with
  | nil => exact ⟨[], [], rfl, rfl, by simp⟩
  | cons a l ih =>
    obtain ⟨before, after, hl, hx, hafter⟩ := ih
    rw [List.cons_append, List.insertionSort_cons, List.insertionSort_cons, hl, hx]
    exact orderedInsert_append_cons a x before hafter

theorem orderedInsert_of_forall_not {a : α} {l : List α} (h : ∀ b ∈ l, ¬ r a b) :
    l.orderedInsert r a = l ++ [a] := by
  induction l with
  | nil => rfl
  | cons b l ih =>
    rw [List.orderedInsert_of_not_le r _ (h b List.mem_cons_self),
      ih fun c hc => h c (List.mem_cons_of_mem b hc), List.cons_append]

theorem insertionSort_of_pairwise_not {l : List α} (h : l.Pairwise fun a b => ¬ r a b) :
    l.insertionSort r = l.reverse := by
  induction l with
  | nil => rfl
  | cons a l ih =>
    obtain ⟨ha, hl⟩ := List.pairwise_cons.1 h
    have hlast : ∀ b ∈ l.reverse, ¬ r a b := fun b hb => ha b (List.mem_reverse.1 hb)
    rw [List.insertionSort_cons, ih hl, orderedInsert_of_forall_not hlast, List.reverse_cons]

theorem orderedInsert_append [IsTrans α r] {a x : α} {before after : List α}
    (hbefore : ∀ b ∈ before, r b x) :
    (before ++ x :: after).orderedInsert r a =
      if r a x then before.orderedInsert r a ++ x :: after
      else before ++ x :: after.orderedInsert r a := by
  induction before with
  | nil => exact List.orderedInsert_cons r a x after
  | cons b before ih =>
    obtain ⟨hb, hrest⟩ := List.forall_mem_cons.1 hbefore
    rw [List.cons_append, List.orderedInsert_cons, List.orderedInsert_cons, ih hrest]
    by_cases hab : r a b
    · rw [if_pos hab, if_pos hab, if_pos (IsTrans.trans _ _ _ hab hb)]
      rfl
    · rw [if_neg hab, if_neg hab]
      split_ifs <;> rfl

/-- Before an inserted row come the rows that are strictly less. -/
theorem orderedInsert_split [IsTrans α r] {x : α} {l : List α} (hl : l.Pairwise r) :
    ∃ before after, l.orderedInsert r x = before ++ x :: after ∧
      before = l.filter fun b => decide (¬ r x b) := by
  induction l with
  | nil => exact ⟨[], [], rfl, rfl⟩
  | cons b l ih =>
    obtain ⟨hb, hrest⟩ := List.pairwise_cons.1 hl
    by_cases hxb : r x b
    · refine ⟨[], b :: l, List.orderedInsert_cons_of_le r l hxb, (List.filter_eq_nil_iff.2 ?_).symm⟩
      simpa [hxb] using fun c hc => IsTrans.trans _ _ _ hxb (hb c hc)
    · obtain ⟨before, after, h, rfl⟩ := ih hrest
      refine ⟨_, after, ?_, rfl⟩
      rw [List.orderedInsert_of_not_le r _ hxb, h, List.filter_cons_of_pos (by simpa using hxb)]
      rfl

/-- The rows that the sort puts before a given one: of those that were before it the ones that are
not greater, of those behind it the ones that are strictly less. -/
theorem insertionSort_split [IsTrans α r] [Std.Total r] (before : List α) (x : α)
    (after : List α) :
    ∃ first rest, (before ++ x :: after).insertionSort r = first ++ x :: rest ∧
      first.Perm ((before.filter fun y => decide (r y x)) ++
        after.filter fun y => decide (¬ r x y)) := by
  induction before with
  | nil =>
    obtain ⟨first, rest, hsplit, hfirst⟩ :=
      orderedInsert_split (x := x) (List.pairwise_insertionSort r after)
    exact ⟨first, rest, hsplit, hfirst ▸ (List.perm_insertionSort r after).filter _⟩
  | cons a before ih =>
    obtain ⟨first, rest, hsplit, hfirst⟩ := ih
    have hsorted := List.pairwise_insertionSort r (before ++ x :: after)
    rw [hsplit, List.pairwise_append] at hsorted
    have hless : ∀ y ∈ first, r y x := fun y hy => hsorted.2.2 y hy x List.mem_cons_self
    rw [List.cons_append, List.insertionSort_cons, hsplit, orderedInsert_append hless]
    by_cases hax : r a x
    · refine ⟨_, rest, if_pos hax, ?_⟩
      rw [List.filter_cons_of_pos (by simpa using hax)]
      exact (List.perm_orderedInsert r a first).trans (hfirst.cons a)
    · refine ⟨first, _, if_neg hax, ?_⟩
      rwa [List.filter_cons_of_neg (by simpa using hax)]

theorem countP_split {x : α} {before after first : List α} (p : α → Prop) [DecidablePred p]
    (h : first.Perm ((before.filter fun y => decide (r y x)) ++
      after.filter fun y => decide (¬ r x y))) :
    first.countP (fun y => decide (p y)) = before.countP (fun y => decide (p y ∧ r y x)) +
      after.countP fun y => decide (p y ∧ ¬ r x y) := by
  rw [h.countP_eq, List.countP_append, List.countP_filter, List.countP_filter]
  simp only [Bool.decide_and]

/-- Among the first rows some row fails `p` exactly if fewer rows with `p` than are taken come before
some row that fails it. -/
theorem exists_mem_take_insertionSort_iff [IsTrans α r] [Std.Total r] (p : α → Prop)
    [DecidablePred p] (l : List α) (n : ℕ) :
    (∃ x ∈ (l.insertionSort r).take n, ¬ p x) ↔
      ∃ before x after, l = before ++ x :: after ∧ ¬ p x ∧
        before.countP (fun y => decide (p y ∧ r y x)) +
          after.countP (fun y => decide (p y ∧ ¬ r x y)) < n := by
  constructor
  · rintro ⟨x, hx, hp⟩
    have hmem : x ∈ l := (List.perm_insertionSort r l).mem_iff.1 (List.mem_of_mem_take hx)
    obtain ⟨before, after, rfl, hnew⟩ := List.eq_append_cons_of_mem hmem
    obtain ⟨first, rest, hsplit, hfirst⟩ := insertionSort_split (r := r) before x after
    refine ⟨before, x, after, rfl, hp, ?_⟩
    have hout : x ∉ first := by
      rw [hfirst.mem_iff, List.mem_append, List.mem_filter, List.mem_filter]
      have hself : r x x := (Std.Total.total x x).elim id id
      simp [hnew, hself]
    -- The first place of `x` is among those taken.
    rw [← countP_split p hfirst]
    refine List.countP_le_length.trans_lt (not_le.1 fun hle => hout ?_)
    rw [hsplit, List.take_append_of_le_length hle] at hx
    exact List.mem_of_mem_take hx
  · rintro ⟨before, x, after, rfl, hp, hlt⟩
    obtain ⟨first, rest, hsplit, hfirst⟩ := insertionSort_split (r := r) before x after
    rw [← countP_split p hfirst] at hlt
    rw [hsplit]
    by_contra! hall
    have hlong : n ≤ first.length := by
      by_contra hshort
      refine hp (hall x ?_)
      rw [List.take_append, List.mem_append]
      right
      rw [show n - first.length = n - first.length - 1 + 1 by omega]
      exact List.mem_cons_self
    have hfull : (first.take n).countP (fun y => decide (p y)) = n := by
      rw [List.take_append_of_le_length hlong] at hall
      rw [List.countP_eq_length.2 fun y hy => decide_eq_true (hall y hy), List.length_take,
        min_eq_left hlong]
    have hle := (List.take_sublist n first).countP_le (p := fun y => decide (p y))
    omega

end StableSort
