import Mathlib.Data.List.Sort

/-!
# Paging by a cursor that is a key

A server lists items newest first, and a request names a cursor: the answer is a page of the items
whose key is below it. The client takes the key of the last item of a full page as the next cursor,
so a page that ends among items of one key skips the others of that key. The pages together hold
every item once if and only if no page ends so (`collect_perm_iff`).
-/

namespace CursorPages

variable {α κ : Type} [LinearOrder κ] (key : α → κ)

/-- A missing cursor is above every key. -/
def olderThan (cursor : Option κ) (item : α) : Bool :=
  cursor.all fun bound => decide (key item < bound)

/-- The newest `limit` ones of `items`, newest first; items of one key come in any order. -/
def IsPage (limit : ℕ) (items page : List α) : Prop :=
  ∃ arranged : List α, arranged.Perm items ∧
    arranged.Pairwise (fun newer older => key older ≤ key newer) ∧ page = arranged.take limit

/-- `none` is a client that still asks after `fuel` pages. -/
def collect (limit : ℕ) (fetch : Option κ → List α) : ℕ → Option κ → List α → Option (List α)
  | 0, _, _ => none
  | fuel + 1, cursor, items =>
    let page := fetch cursor
    if page.length = 0 then some items
    else if page.length < limit then some (items ++ page)
    else collect limit fetch fuel (page.getLast?.map key) (items ++ page)

def newer (items : List α) (k : κ) : ℕ := items.countP fun item => decide (k < key item)

def notOlder (items : List α) (k : κ) : ℕ := items.countP fun item => decide (k ≤ key item)

/-- Some page of `limit` items ends between two items of the key `k`. -/
def Straddles (limit : ℕ) (items : List α) (k : κ) : Prop :=
  ∃ page, newer key items k < limit * page ∧ limit * page < notOlder key items k

variable {key} {limit : ℕ} {fetch : Option κ → List α}

variable {xs ys items collected : List α}

theorem newer_perm (h : xs.Perm ys) (k : κ) : newer key xs k = newer key ys k :=
  h.countP_eq _

theorem notOlder_perm (h : xs.Perm ys) (k : κ) :
    notOlder key xs k = notOlder key ys k :=
  h.countP_eq _

theorem straddles_perm (h : xs.Perm ys) (k : κ) :
    Straddles key limit xs k ↔ Straddles key limit ys k := by
  simp only [Straddles, newer_perm h, notOlder_perm h]

theorem notOlder_le_length (items : List α) (k : κ) : notOlder key items k ≤ items.length :=
  List.countP_le_length

theorem not_straddles_of_length_le (h : items.length ≤ limit) (k : κ) :
    ¬ Straddles key limit items k := by
  rintro ⟨page, hlow, hhigh⟩
  have hle : notOlder key items k ≤ limit := (notOlder_le_length items k).trans h
  cases page with
  | zero => simp at hlow
  | succ page =>
    have : limit ≤ limit * (page + 1) := Nat.le_mul_of_pos_right limit (Nat.succ_pos page)
    omega

section FullPage

variable {page rest : List α} {last : α}

/-- Behind a full page, all of whose rest is older than its last item, the ends of the other pages
are those of the rest. -/
theorem straddles_append_iff (hlength : page.length = limit)
    (hpage : ∀ item ∈ page, key last ≤ key item) (hrest : ∀ item ∈ rest, key item < key last)
    (k : κ) : Straddles key limit (page ++ rest) k ↔ Straddles key limit rest k := by
  have hnewer : newer key (page ++ rest) k = newer key page k + newer key rest k :=
    List.countP_append
  have hnotOlder : notOlder key (page ++ rest) k = notOlder key page k + notOlder key rest k :=
    List.countP_append
  by_cases hk : k < key last
  · have hall : newer key page k = limit := by
      rw [← hlength]
      exact List.countP_eq_length.2 fun item hitem => by
        simpa using hk.trans_le (hpage item hitem)
    have hall' : notOlder key page k = limit := by
      rw [← hlength]
      exact List.countP_eq_length.2 fun item hitem => by
        simpa using hk.le.trans (hpage item hitem)
    constructor
    · rintro ⟨pages, hlow, hhigh⟩
      cases pages with
      | zero => simp at hlow
      | succ pages =>
        rw [Nat.mul_succ] at hlow hhigh
        exact ⟨pages, by omega, by omega⟩
    · rintro ⟨pages, hlow, hhigh⟩
      refine ⟨pages + 1, ?_, ?_⟩ <;> rw [Nat.mul_succ] <;> omega
  · have hnone : notOlder key rest k = 0 :=
      List.countP_eq_zero.2 fun item hitem => by
        simpa using (hrest item hitem).trans_le (not_lt.1 hk)
    constructor
    · intro h
      refine absurd h ?_
      rintro ⟨pages, hlow, hhigh⟩
      have hle : notOlder key page k ≤ limit := hlength ▸ notOlder_le_length page k
      cases pages with
      | zero => simp at hlow
      | succ pages =>
        have : limit ≤ limit * (pages + 1) := Nat.le_mul_of_pos_right limit (Nat.succ_pos pages)
        omega
    · rintro ⟨pages, -, hhigh⟩
      omega

/-- A page ends among items of the key of its last one if another of them is in the rest. -/
theorem straddles_of_mem (hlength : page.length = limit) (hlast : last ∈ page)
    (hrest : ∀ item ∈ rest, key item ≤ key last) {tie : α} (htie : tie ∈ rest)
    (hkey : key tie = key last) (hpage : ∀ item ∈ page, key last ≤ key item) :
    Straddles key limit (page ++ rest) (key last) := by
  have hnewer : newer key (page ++ rest) (key last) =
      newer key page (key last) + newer key rest (key last) := List.countP_append
  have hnotOlder : notOlder key (page ++ rest) (key last) =
      notOlder key page (key last) + notOlder key rest (key last) := List.countP_append
  have hall : notOlder key page (key last) = page.length :=
    List.countP_eq_length.2 fun item hitem => by simpa using hpage item hitem
  have hnone : newer key rest (key last) = 0 :=
    List.countP_eq_zero.2 fun item hitem => by simpa using hrest item hitem
  have hsome : 0 < notOlder key rest (key last) :=
    List.countP_pos_iff.2 ⟨tie, htie, by simp [hkey]⟩
  have hless : newer key page (key last) < page.length := by
    apply lt_of_le_of_ne List.countP_le_length
    intro heq
    have := List.countP_eq_length.1 heq last hlast
    simp at this
  exact ⟨1, by omega, by omega⟩

end FullPage

theorem filter_olderThan_of_mem {cursor : Option κ} {last : α}
    (hlast : last ∈ items.filter (olderThan key cursor)) :
    items.filter (olderThan key (some (key last))) =
      (items.filter (olderThan key cursor)).filter (olderThan key (some (key last))) := by
  rw [List.filter_filter]
  apply List.filter_congr
  intro item _
  have hcursor : olderThan key cursor last = true := (List.mem_filter.1 hlast).2
  cases cursor with
  | none => simp [olderThan]
  | some bound =>
    simp only [olderThan, Option.all_some, decide_eq_true_eq] at hcursor ⊢
    by_cases h : key item < key last
    · simp [h, h.trans hcursor]
    · simp [h]

/-- A list of items as the client collects it: all of them, if no page ends among items of one key,
and fewer otherwise. -/
structure Collected (key : α → κ) (limit : ℕ) (items collected : List α) : Prop where
  perm : (∀ k, ¬ Straddles key limit items k) → collected.Perm items
  length_lt : (∃ k, Straddles key limit items k) → collected.length < items.length

theorem Collected.length_le (h : Collected key limit items collected) :
    collected.length ≤ items.length := by
  by_cases hk : ∃ k, Straddles key limit items k
  · exact (h.length_lt hk).le
  · exact (h.perm (not_exists.1 hk)).length_eq.le

theorem Collected.of_perm {items' : List α} (hperm : items.Perm items')
    (h : Collected key limit items collected) : Collected key limit items' collected where
  perm hk := (h.perm fun k => (straddles_perm hperm k).not.2 (hk k)).trans hperm
  length_lt := by
    rintro ⟨k, hk⟩
    rw [← hperm.length_eq]
    exact h.length_lt ⟨k, (straddles_perm hperm k).2 hk⟩

theorem Collected.append {page rest : List α} {last : α} (hlength : page.length = limit)
    (hlast : last ∈ page) (hpage : ∀ item ∈ page, key last ≤ key item)
    (hrest : ∀ item ∈ rest, key item ≤ key last)
    (h : Collected key limit (rest.filter (olderThan key (some (key last)))) collected) :
    Collected key limit (page ++ rest) (page ++ collected) := by
  by_cases hclear : ∀ item ∈ rest, key item < key last
  · have hall : rest.filter (olderThan key (some (key last))) = rest :=
      List.filter_eq_self.2 fun item hitem => by simpa [olderThan] using hclear item hitem
    rw [hall] at h
    refine ⟨fun hk => (h.perm fun k => ?_).append_left page, ?_⟩
    · exact (straddles_append_iff hlength hpage hclear k).not.1 (hk k)
    · rintro ⟨k, hk⟩
      have := h.length_lt ⟨k, (straddles_append_iff hlength hpage hclear k).1 hk⟩
      rw [List.length_append, List.length_append]
      omega
  · -- The other items of the last one's key are neither on the page nor older than it.
    push Not at hclear
    obtain ⟨tie, htie, hle⟩ := hclear
    have hkey : key tie = key last := le_antisymm (hrest tie htie) hle
    refine ⟨fun hk => absurd ?_ (hk (key last)), fun _ => ?_⟩
    · exact straddles_of_mem hlength hlast hrest htie hkey hpage
    · have hless : (rest.filter (olderThan key (some (key last)))).length < rest.length :=
        List.length_filter_lt_length_iff_exists.2 ⟨tie, htie, by simp [olderThan, hkey]⟩
      have := h.length_le
      rw [List.length_append, List.length_append]
      omega

section

variable (hlimit : 0 < limit)
  (hfetch : ∀ cursor, IsPage key limit (items.filter (olderThan key cursor)) (fetch cursor))

include hlimit hfetch

theorem collect_spec (cursor : Option κ) :
    ∃ collected, Collected key limit (items.filter (olderThan key cursor)) collected ∧
      ∀ fuel before, (items.filter (olderThan key cursor)).length < fuel →
        collect key limit fetch fuel cursor before = some (before ++ collected) := by
  induction hn : (items.filter (olderThan key cursor)).length using Nat.strong_induction_on
    generalizing cursor with
  | h n ih =>
    subst hn
    obtain ⟨arranged, hperm, hsorted, hpage⟩ := hfetch cursor
    have hlength : arranged.length = (items.filter (olderThan key cursor)).length := hperm.length_eq
    by_cases hfull : arranged.length < limit
    · -- The answer is the last page, which may be empty.
      have hall : fetch cursor = arranged := by rw [hpage, List.take_of_length_le hfull.le]
      refine ⟨arranged, ⟨fun _ => hperm, ?_⟩, ?_⟩
      · rintro ⟨k, hk⟩
        exact absurd hk (not_straddles_of_length_le (by omega) k)
      · intro fuel before hfuel
        obtain ⟨fuel, rfl⟩ := Nat.exists_eq_succ_of_ne_zero (Nat.ne_of_gt (by omega : 0 < fuel))
        by_cases hempty : arranged.length = 0
        · simp [collect, hall, List.length_eq_zero_iff.1 hempty]
        · simp [collect, hall, hfull, List.length_eq_zero_iff.not.1 hempty]
    · -- A full page, and the rest behind its last item.
      have hcut : (arranged.take limit).length = limit := by
        rw [List.length_take]
        omega
      obtain ⟨front, last, hfront⟩ : ∃ front last, arranged.take limit = front ++ [last] := by
        obtain h | ⟨front, last, h⟩ := List.eq_nil_or_concat (arranged.take limit)
        · rw [h, List.length_nil] at hcut
          omega
        · exact ⟨front, last, by rw [h, List.concat_eq_append]⟩
      have hsplit : arranged = (front ++ [last]) ++ arranged.drop limit := by
        rw [← hfront, List.take_append_drop]
      rw [hfront] at hcut
      generalize arranged.drop limit = rest at hsplit
      rw [hsplit, List.pairwise_append, List.pairwise_append] at hsorted
      obtain ⟨⟨-, -, hbefore⟩, -, hbehind⟩ := hsorted
      have hmem : last ∈ front ++ [last] := List.mem_append_right _ (List.mem_singleton_self last)
      have hleast : ∀ item ∈ front ++ [last], key last ≤ key item := by
        intro item hitem
        rcases List.mem_append.1 hitem with hitem | hitem
        · exact hbefore item hitem last (List.mem_singleton_self last)
        · rw [List.mem_singleton.1 hitem]
      have hrest : ∀ item ∈ rest, key item ≤ key last := hbehind last hmem
      have hlast : last ∈ items.filter (olderThan key cursor) := by
        apply hperm.mem_iff.1
        rw [hsplit]
        exact List.mem_append_left _ hmem
      -- What is left for the next cursor is the part of the rest that is older than the last item.
      have hleft : (rest.filter (olderThan key (some (key last)))).Perm
          (items.filter (olderThan key (some (key last)))) := by
        have hnone : (front ++ [last]).filter (olderThan key (some (key last))) = [] :=
          List.filter_eq_nil_iff.2 fun item hitem => by simpa [olderThan] using hleast item hitem
        have := hperm.filter (olderThan key (some (key last)))
        rwa [hsplit, List.filter_append, hnone, List.nil_append,
          ← filter_olderThan_of_mem hlast] at this
      have htotal : arranged.length = limit + rest.length := by
        rw [hsplit, List.length_append, hcut]
      have hshort : (items.filter (olderThan key (some (key last)))).length ≤ rest.length := by
        rw [← hleft.length_eq]
        exact List.length_filter_le _ _
      obtain ⟨collected, hcollected, hcollect⟩ := ih _ (by omega) (some (key last)) rfl
      refine ⟨front ++ [last] ++ collected, ?_, ?_⟩
      · apply Collected.of_perm hperm
        rw [hsplit]
        exact Collected.append hcut hmem hleast hrest (hcollected.of_perm hleft.symm)
      · intro fuel before hfuel
        obtain ⟨fuel, rfl⟩ := Nat.exists_eq_succ_of_ne_zero (Nat.ne_of_gt (by omega : 0 < fuel))
        have hfetched : fetch cursor = front ++ [last] := by rw [hpage, hfront]
        rw [collect, hfetched, if_neg (by omega), if_neg (by omega), List.getLast?_concat,
          Option.map_some, hcollect fuel _ (by omega), List.append_assoc]

/-- All pages together hold every item once if and only if no page ends among items of one key. -/
theorem collect_perm_iff :
    ∃ collected, (∀ fuel, items.length < fuel →
      collect key limit fetch fuel none [] = some collected) ∧
      (collected.Perm items ↔ ∀ k, ¬ Straddles key limit items k) := by
  have hall : items.filter (olderThan key none) = items := List.filter_eq_self.2 fun _ _ => rfl
  obtain ⟨collected, h, hcollect⟩ := collect_spec hlimit hfetch none
  rw [hall] at h hcollect
  refine ⟨collected, fun fuel hfuel => hcollect fuel [] hfuel, ?_, h.perm⟩
  intro hperm k hk
  have := h.length_lt ⟨k, hk⟩
  rw [hperm.length_eq] at this
  omega

end

end CursorPages
