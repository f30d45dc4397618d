import SentinelApex.Lib.OrderedMap

/-!
# Running totals

A loop that adds amounts to a map of totals. What is at a key afterwards is what was there and the
amounts with this key (`total_foldl_add`).
-/

namespace OrderedMap

variable {K V W A B α : Type} [DecidableEq K]

section

variable [AddMonoid A] [AddMonoid B]

/-- The total at a key; an absent key has none. -/
def total (m : OrderedMap K A) (k : K) : A := (m.get? k).getD 0

/-- Add to the total at a key. -/
def add (m : OrderedMap K A) (k : K) (a : A) : OrderedMap K A := m.set k ((m.get? k).getD 0 + a)

@[simp] theorem total_empty (k : K) : (empty : OrderedMap K A).total k = 0 := rfl

variable (m : OrderedMap K A)

theorem total_set (k k' : K) (a : A) :
    (m.set k a).total k' = if k = k' then a else m.total k' := by
  unfold total
  rw [get?_set]
  split_ifs <;> rfl

theorem total_add (k k' : K) (a : A) :
    (m.add k a).total k' = m.total k' + if k = k' then a else 0 := by
  rw [add, total_set]
  split_ifs with h
  · rw [h, total]
  · rw [add_zero]

theorem total_foldl_add (key : α → K) (value : α → A) (xs : List α) (m : OrderedMap K A) (k : K) :
    (xs.foldl (fun m x => m.add (key x) (value x)) m).total k =
      m.total k + ((xs.filter fun x => decide (key x = k)).map value).sum := by
  induction xs generalizing m with
  | nil => simp
  | cons x xs ih =>
    rw [List.foldl_cons, ih, total_add, add_assoc, List.filter_cons]
    split_ifs with hkey hkey' hkey' <;> simp_all

theorem sum_filter_entries (k : K) (f : A → B) (hf : f 0 = 0) :
    ((m.entries.filter fun e => decide (e.1 = k)).map fun e => f e.2).sum = f (m.total k) := by
  obtain ⟨es, hes⟩ := m
  show _ = f ((getList k es).getD 0)
  dsimp only
  induction es with
  | nil => simp [getList, hf]
  | cons e es ih =>
    obtain ⟨hnew, hrest⟩ := List.nodup_cons.1 hes
    rw [List.filter_cons, getList]
    by_cases hkey : e.1 = k
    · have hnone : es.filter (fun e => decide (e.1 = k)) = [] := by
        rw [List.filter_eq_nil_iff]
        intro e' he' hkey'
        refine hnew ?_
        rw [hkey, ← of_decide_eq_true hkey']
        exact List.mem_map_of_mem he'
      simp [hkey, hnone]
    · simpa [hkey] using ih hrest

end

theorem get?_foldl_set (f : V → W) {es : List (K × V)} (hes : (es.map Prod.fst).Nodup)
    (m : OrderedMap K W) (k : K) :
    (es.foldl (fun m e => m.set e.1 (f e.2)) m).get? k = ((getList k es).map f).or (m.get? k) := by
  induction es generalizing m with
  | nil => simp [getList]
  | cons e es ih =>
    obtain ⟨hnew, hrest⟩ := List.nodup_cons.1 hes
    rw [List.foldl_cons, ih hrest, get?_set, getList]
    by_cases hkey : e.1 = k
    · have hnone : getList k es = none := getList_eq_none_iff.2 (hkey ▸ hnew)
      simp [hkey, hnone]
    · simp [hkey]

end OrderedMap
