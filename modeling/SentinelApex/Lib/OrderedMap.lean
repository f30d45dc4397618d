import Mathlib.Algebra.BigOperators.Group.List.Basic
import Mathlib.Data.List.Nodup
import Mathlib.Tactic.Abel

/-!
# Insertion-ordered maps

A finite map that remembers the order in which its keys were first inserted: writing to a present
key keeps its place, writing to a new key appends it, and iteration follows this order. The keys
are distinct by construction.
-/

/-- A finite map iterated in the order of first insertion. -/
structure OrderedMap (K V : Type) where
  entries : List (K × V)
  nodup : (entries.map Prod.fst).Nodup

namespace OrderedMap

variable {K V : Type} [DecidableEq K]

/-! ## Association lists -/

/-- Replace the value at `k` in place, or append the pair when `k` is absent. -/
def setList (k : K) (v : V) : List (K × V) → List (K × V)
  | [] => [(k, v)]
  | (k', v') :: es => if k' = k then (k, v) :: es else (k', v') :: setList k v es

/-- The value at `k`. -/
def getList (k : K) : List (K × V) → Option V
  | [] => none
  | (k', v') :: es => if k' = k then some v' else getList k es

variable {es : List (K × V)}

variable {v : V}

theorem mem_keys_setList {k k' : K} :
    k' ∈ (setList k v es).map Prod.fst ↔ k' = k ∨ k' ∈ es.map Prod.fst := by
  induction es with
  | nil => simp [setList]
  | cons e es ih =>
    simp only [setList]
    split_ifs with h
    · subst h
      simp
    · simp only [List.map_cons, List.mem_cons, ih]
      tauto

theorem nodup_setList (k : K) (v : V) (h : (es.map Prod.fst).Nodup) :
    ((setList k v es).map Prod.fst).Nodup := by
  induction es with
  | nil => simp [setList]
  | cons e es ih =>
    simp only [List.map_cons, List.nodup_cons] at h
    simp only [setList]
    split_ifs with hk
    · subst hk
      simpa using h
    · simp only [List.map_cons, List.nodup_cons, mem_keys_setList, not_or]
      exact ⟨⟨hk, h.1⟩, ih h.2⟩

theorem getList_setList (k k' : K) (v : V) (es : List (K × V)) :
    getList k' (setList k v es) = if k = k' then some v else getList k' es := by
  induction es with
  | nil => simp [setList, getList]
  | cons e es ih =>
    simp only [setList]
    by_cases hk : e.1 = k
    · subst hk
      rw [if_pos rfl]
      simp only [getList]
      split_ifs <;> rfl
    · rw [if_neg hk]
      simp only [getList, ih]
      split_ifs with h1 h2
      · exact absurd (h1.trans h2.symm) hk
      all_goals rfl

variable {k : K}

theorem getList_eq_none_iff : getList k es = none ↔ k ∉ es.map Prod.fst := by
  induction es with
  | nil => simp [getList]
  | cons e es ih =>
    simp only [getList, List.map_cons, List.mem_cons, not_or]
    split_ifs with h
    · subst h
      simp
    · simp [ih, Ne.symm h]

/-! ## Maps -/

def empty : OrderedMap K V := ⟨[], by simp⟩

/-- `map.get(k)`. -/
def get? (m : OrderedMap K V) (k : K) : Option V := getList k m.entries

/-- `map.set(k, v)`. -/
def set (m : OrderedMap K V) (k : K) (v : V) : OrderedMap K V :=
  ⟨setList k v m.entries, nodup_setList k v m.nodup⟩

/-- `map.delete(k)`. -/
def erase (m : OrderedMap K V) (k : K) : OrderedMap K V :=
  ⟨m.entries.filter fun e => !decide (e.1 = k),
    m.nodup.sublist (List.filter_sublist.map Prod.fst)⟩

/-- Delete the entries whose value `p` rejects. -/
def filter (m : OrderedMap K V) (p : V → Bool) : OrderedMap K V :=
  ⟨m.entries.filter fun e => p e.2, m.nodup.sublist (List.filter_sublist.map Prod.fst)⟩

/-- The map with `f` applied to every value. -/
def mapValues (m : OrderedMap K V) (f : V → V) : OrderedMap K V :=
  ⟨m.entries.map fun e => (e.1, f e.2), by simpa [List.map_map, Function.comp_def] using m.nodup⟩

def values (m : OrderedMap K V) : List V := m.entries.map Prod.snd

/-- The map with the given entries; a later entry overwrites an earlier one with the same key. -/
def ofList (es : List (K × V)) : OrderedMap K V :=
  es.foldl (fun m e => m.set e.1 e.2) empty

@[simp] theorem get?_empty (k : K) : (empty : OrderedMap K V).get? k = none := rfl

section

variable (m : OrderedMap K V)

theorem get?_set (k k' : K) (v : V) :
    (m.set k v).get? k' = if k = k' then some v else m.get? k' :=
  getList_setList k k' v m.entries

@[simp] theorem get?_set_self (k : K) (v : V) :
    (m.set k v).get? k = some v := by
  rw [get?_set, if_pos rfl]

theorem get?_set_of_ne {k k' : K} (h : k ≠ k') (v : V) :
    (m.set k v).get? k' = m.get? k' := by
  rw [get?_set, if_neg h]

@[simp] theorem get?_erase_self (k : K) : (m.erase k).get? k = none := by
  refine getList_eq_none_iff.2 fun h => ?_
  obtain ⟨e, he, rfl⟩ := List.mem_map.1 h
  simp [erase] at he

theorem get?_erase_of_ne {k k' : K} (h : k ≠ k') :
    (m.erase k).get? k' = m.get? k' := by
  have key : ∀ es : List (K × V),
      getList k' (es.filter fun e => !decide (e.1 = k)) = getList k' es := by
    intro es
    induction es with
    | nil => rfl
    | cons e es ih =>
      by_cases he : e.1 = k
      · rw [List.filter_cons_of_neg (by simpa using he), ih, getList, if_neg (he ▸ h)]
      · rw [List.filter_cons_of_pos (by simpa using he), getList, getList, ih]
  exact key m.entries

theorem get?_mapValues (f : V → V) (k : K) :
    (m.mapValues f).get? k = (m.get? k).map f := by
  have key : ∀ es : List (K × V),
      getList k (es.map fun e => (e.1, f e.2)) = (getList k es).map f := by
    intro es
    induction es with
    | nil => rfl
    | cons e es ih =>
      simp only [List.map_cons, getList, ih]
      split_ifs <;> rfl
  exact key m.entries

end

/-! ## Properties of all entries -/

variable {m : OrderedMap K V}

theorem mem_entries_of_get? (h : m.get? k = some v) : (k, v) ∈ m.entries := by
  have key : ∀ es : List (K × V), getList k es = some v → (k, v) ∈ es := by
    intro es
    induction es with
    | nil => simp [getList]
    | cons e es ih =>
      simp only [getList, List.mem_cons]
      split_ifs with hk
      · intro he
        obtain rfl := Option.some.inj he
        exact Or.inl (by rw [← hk])
      · exact fun he => Or.inr (ih he)
  exact key m.entries h

theorem get?_eq_some_iff : m.get? k = some v ↔ (k, v) ∈ m.entries := by
  refine ⟨mem_entries_of_get?, fun h => ?_⟩
  cases hget : m.get? k with
  | none => exact absurd (List.mem_map_of_mem h) (getList_eq_none_iff.1 hget)
  | some v' =>
    have heq : (k, v) = (k, v') :=
      List.inj_on_of_nodup_map m.nodup h (mem_entries_of_get? hget) rfl
    rw [(Prod.mk.inj heq).2]

theorem entries_perm_of_get?_eq {m m' : OrderedMap K V} (h : ∀ k, m.get? k = m'.get? k) :
    m.entries.Perm m'.entries := by
  refine (List.perm_ext_iff_of_nodup (List.Nodup.of_map _ m.nodup)
    (List.Nodup.of_map _ m'.nodup)).2 ?_
  rintro ⟨k, v⟩
  rw [← get?_eq_some_iff, ← get?_eq_some_iff, h]

theorem mem_entries_set {e : K × V} :
    e ∈ (m.set k v).entries ↔ e = (k, v) ∨ e.1 ≠ k ∧ e ∈ m.entries := by
  obtain ⟨k', v'⟩ := e
  rw [← get?_eq_some_iff, ← get?_eq_some_iff, get?_set]
  by_cases hk : k = k'
  · subst hk
    simp [eq_comm]
  · simp [hk, Ne.symm hk]

theorem forall_entries_set {p : K × V → Prop} (hm : ∀ e ∈ m.entries, p e) (hv : p (k, v)) :
    ∀ e ∈ (m.set k v).entries, p e := by
  intro e he
  rcases mem_entries_set.1 he with rfl | ⟨-, he⟩
  · exact hv
  · exact hm e he

theorem map_entries_set {A : Type} (g : K × V → A) {v' : V} (h : m.get? k = some v)
    (hv : g (k, v') = g (k, v)) : (m.set k v').entries.map g = m.entries.map g := by
  have key : ∀ es : List (K × V), getList k es = some v →
      (setList k v' es).map g = es.map g := by
    intro es
    induction es with
    | nil => simp [getList]
    | cons e es ih =>
      obtain ⟨k', w⟩ := e
      simp only [getList, setList]
      split_ifs with hk
      · intro he
        obtain rfl := Option.some.inj he
        subst hk
        simp [hv]
      · intro he
        simp [ih he]
  exact key m.entries h

theorem forall_entries_erase {p : K × V → Prop} (hm : ∀ e ∈ m.entries, p e) (k : K) :
    ∀ e ∈ (m.erase k).entries, p e :=
  fun e he => hm e (List.mem_of_mem_filter he)

/-! ## Sums of values -/

section Sum

variable {A : Type} [AddCommGroup A]

/-- The sum of `f k v` over the entries. -/
def sumOf (f : K → V → A) (m : OrderedMap K V) : A := (m.entries.map fun e => f e.1 e.2).sum

/-- What an entry contributes to a sum; an absent one nothing. -/
def contribution (f : K → V → A) (m : OrderedMap K V) (k : K) : A :=
  ((m.get? k).map (f k)).getD 0

variable (f : K → V → A)

theorem sum_setList (k : K) (v : V) (h : (es.map Prod.fst).Nodup) :
    ((setList k v es).map fun e => f e.1 e.2).sum =
      (es.map fun e => f e.1 e.2).sum + f k v - ((getList k es).map (f k)).getD 0 := by
  induction es with
  | nil => simp [setList, getList]
  | cons e es ih =>
    simp only [List.map_cons, List.nodup_cons] at h
    simp only [setList, getList]
    by_cases hk : e.1 = k
    · rw [if_pos hk, if_pos hk]
      simp [hk]
      abel
    · rw [if_neg hk, if_neg hk]
      simp only [List.map_cons, List.sum_cons, ih h.2]
      abel

theorem sumOf_set (m : OrderedMap K V) (k : K) (v : V) :
    (m.set k v).sumOf f = m.sumOf f + f k v - m.contribution f k :=
  sum_setList f k v m.nodup

theorem sum_eraseList (k : K) (h : (es.map Prod.fst).Nodup) :
    ((es.filter fun e => !decide (e.1 = k)).map fun e => f e.1 e.2).sum =
      (es.map fun e => f e.1 e.2).sum - ((getList k es).map (f k)).getD 0 := by
  induction es with
  | nil => simp [getList]
  | cons e es ih =>
    simp only [List.map_cons, List.nodup_cons] at h
    simp only [getList, List.filter_cons]
    by_cases hk : e.1 = k
    · -- The key occurs nowhere else, so nothing more is dropped.
      have hrest : getList k es = none := getList_eq_none_iff.2 (hk ▸ h.1)
      have hsum := ih h.2
      rw [hrest] at hsum
      simp [hk, hsum]
    · simp [hk, ih h.2]
      abel

theorem sumOf_erase (m : OrderedMap K V) (k : K) :
    (m.erase k).sumOf f = m.sumOf f - m.contribution f k :=
  sum_eraseList f k m.nodup

omit [DecidableEq K] in
theorem sumOf_congr {f g : K → V → A} (h : ∀ e ∈ m.entries, f e.1 e.2 = g e.1 e.2) :
    m.sumOf f = m.sumOf g :=
  congrArg List.sum (List.map_congr_left h)

theorem sumOf_eq_of_ne {f g : K → V → A} (h : ∀ k' v, k' ≠ k → f k' v = g k' v) :
    m.sumOf f = m.sumOf g + m.contribution f k - m.contribution g k := by
  have hrest : (m.erase k).sumOf f = (m.erase k).sumOf g := by
    refine sumOf_congr fun e he => h e.1 e.2 ?_
    simpa using (List.mem_filter.1 he).2
  rw [sumOf_erase, sumOf_erase] at hrest
  calc m.sumOf f = m.sumOf f - m.contribution f k + m.contribution f k := by abel
    _ = m.sumOf g + m.contribution f k - m.contribution g k := by
      rw [hrest]
      abel

def sum (m : OrderedMap K A) : A := m.values.sum

omit [DecidableEq K] in
@[simp] theorem sum_empty : (empty : OrderedMap K A).sum = 0 := rfl

theorem sum_set (m : OrderedMap K A) (k : K) (v : A) :
    (m.set k v).sum = m.sum + v - (m.get? k).getD 0 := by
  have h := sum_setList (fun (_ : K) (a : A) => a) k v m.nodup
  simpa [sum, values, set, get?] using h

end Sum

end OrderedMap
