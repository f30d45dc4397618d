import SentinelApex.Lib.OrderedMap
import Mathlib.Data.List.Induction

/-!
# Groups of a list

The items of a list are grouped by a key, in the order in which the keys come up, and each group keeps
the order of the list. Visiting every item with the next one of its group is the same, up to the order
of the visits, as visiting it with the next item of the list that has its key (`flatMap_withNext_perm`).
-/

namespace Grouping

variable {α β K : Type} [DecidableEq K] (key : α → K)

def groupBy (xs : List α) : OrderedMap K (List α) :=
  xs.foldl (fun groups x => groups.set (key x) ((groups.get? (key x)).getD [] ++ [x]))
    OrderedMap.empty

def group (k : K) (xs : List α) : List α := xs.filter fun x => decide (key x = k)

/-- Every item of one list, with the item behind it. -/
def withNext (f : α → Option α → β) : List α → List β
  | [] => []
  | x :: rest => f x rest.head? :: withNext f rest

def nextOf (x : α) (rest : List α) : Option α := rest.find? fun y => decide (key y = key x)

/-- Every item of a list, with the next one of its key. -/
def withNextOf (f : α → Option α → β) : List α → List β
  | [] => []
  | x :: rest => f x (nextOf key x rest) :: withNextOf f rest

variable {key}

variable (f : α → Option α → β) (k : K) (xs : List α)

@[simp] theorem group_nil : group key k [] = [] := rfl

theorem group_append_singleton (x : α) :
    group key k (xs ++ [x]) = if key x = k then group key k xs ++ [x] else group key k xs := by
  rw [group, List.filter_append]
  split_ifs with h <;> simp [group, h]

theorem groupBy_append_singleton (x : α) :
    groupBy key (xs ++ [x]) = (groupBy key xs).set (key x)
      (((groupBy key xs).get? (key x)).getD [] ++ [x]) := by
  rw [groupBy, List.foldl_append]
  rfl

theorem get?_groupBy (k : K) :
    (groupBy key xs).get? k = if group key k xs = [] then none else some (group key k xs) := by
  induction xs using List.reverseRecOn with
  | nil => rfl
  | append_singleton xs x ih =>
    rw [groupBy_append_singleton, OrderedMap.get?_set, group_append_singleton]
    by_cases hk : key x = k
    · subst hk
      rw [if_pos rfl, if_pos rfl, if_neg (by simp), ih]
      by_cases hempty : group key (key x) xs = []
      · simp [hempty]
      · simp [hempty]
    · rw [if_neg hk, if_neg hk, ih]

theorem values_groupBy :
    (groupBy key xs).values =
      ((groupBy key xs).entries.map Prod.fst).map fun k => group key k xs := by
  rw [OrderedMap.values, List.map_map]
  apply List.map_congr_left
  rintro ⟨k, g⟩ hmem
  have hget := OrderedMap.get?_eq_some_iff.2 hmem
  rw [get?_groupBy] at hget
  by_cases hempty : group key k xs = []
  · rw [if_pos hempty] at hget
    cases hget
  · rw [if_neg hempty] at hget
    exact (Option.some.inj hget).symm

theorem key_mem_groupBy {xs : List α} {x : α} (hx : x ∈ xs) :
    key x ∈ (groupBy key xs).entries.map Prod.fst := by
  have hmem : x ∈ group key (key x) xs := List.mem_filter.2 ⟨hx, by simp⟩
  have hget : (groupBy key xs).get? (key x) = some (group key (key x) xs) := by
    rw [get?_groupBy, if_neg (List.ne_nil_of_mem hmem)]
  exact List.mem_map_of_mem (OrderedMap.get?_eq_some_iff.1 hget)

theorem head?_group (x : α) (rest : List α) :
    (group key (key x) rest).head? = nextOf key x rest :=
  List.head?_filter

/-- A visit of the front item leaves the visits of the groups of the rest. -/
theorem flatMap_group_cons {f : α → Option α → β} {keys : List K} (hkeys : keys.Nodup) {x : α}
    (hx : key x ∈ keys) (rest : List α) :
    (keys.flatMap fun k => withNext f (group key k (x :: rest))).Perm
      (f x (nextOf key x rest) :: keys.flatMap fun k => withNext f (group key k rest)) := by
  induction keys with
  | nil => cases hx
  | cons k keys ih =>
    obtain ⟨hk, hkeys⟩ := List.nodup_cons.1 hkeys
    rw [List.flatMap_cons, List.flatMap_cons]
    by_cases hkey : key x = k
    · -- No later key is the item's one.
      subst hkey
      have hfront : group key (key x) (x :: rest) = x :: group key (key x) rest := by
        simp [group]
      have hother : (keys.flatMap fun k => withNext f (group key k (x :: rest))) =
          keys.flatMap fun k => withNext f (group key k rest) := by
        apply List.flatMap_congr
        intro k' hk'
        have hne : key x ≠ k' := by
          rintro rfl
          exact hk hk'
        simp [group, hne]
      rw [hfront, withNext, head?_group, hother]
      exact List.Perm.refl _
    · have hsame : group key k (x :: rest) = group key k rest := by
        simp [group, hkey]
      have hmem : key x ∈ keys := (List.mem_cons.1 hx).resolve_left hkey
      rw [hsame]
      exact ((ih hkeys hmem).append_left _).trans List.perm_middle

theorem flatMap_group_perm {f : α → Option α → β} {keys : List K} (hkeys : keys.Nodup)
    (xs : List α) (hxs : ∀ x ∈ xs, key x ∈ keys) :
    (keys.flatMap fun k => withNext f (group key k xs)).Perm (withNextOf key f xs) := by
  induction xs with
  | nil =>
    have hnil : (keys.flatMap fun k => withNext f (group key k ([] : List α))) = [] :=
      List.flatMap_eq_nil_iff.2 fun _ _ => rfl
    rw [hnil]
    exact List.Perm.refl _
  | cons x rest ih =>
    have hrest : ∀ y ∈ rest, key y ∈ keys := fun y hy => hxs y (List.mem_cons_of_mem x hy)
    exact (flatMap_group_cons hkeys (hxs x List.mem_cons_self) rest).trans ((ih hrest).cons _)

theorem flatMap_withNext_perm :
    ((groupBy key xs).values.flatMap (withNext f)).Perm (withNextOf key f xs) := by
  rw [values_groupBy, List.flatMap_map]
  exact flatMap_group_perm (groupBy key xs).nodup xs fun x hx => key_mem_groupBy hx

theorem mem_withNextOf {f : α → Option α → β} {xs : List α} {b : β} :
    b ∈ withNextOf key f xs ↔
      ∃ before x rest, xs = before ++ x :: rest ∧ b = f x (nextOf key x rest) := by
  induction xs with
  | nil => simp [withNextOf]
  | cons y ys ih =>
    rw [withNextOf, List.mem_cons, ih]
    constructor
    · rintro (rfl | ⟨before, x, rest, rfl, rfl⟩)
      · exact ⟨[], y, ys, rfl, rfl⟩
      · exact ⟨y :: before, x, rest, rfl, rfl⟩
    · rintro ⟨before, x, rest, h, rfl⟩
      cases before with
      | nil =>
        obtain ⟨rfl, rfl⟩ := List.cons.inj h
        exact Or.inl rfl
      | cons z before =>
        obtain ⟨rfl, hys⟩ := List.cons.inj h
        exact Or.inr ⟨before, x, rest, hys, rfl⟩

theorem length_withNextOf :
    (withNextOf key f xs).length = xs.length := by
  induction xs with
  | nil => rfl
  | cons x rest ih => rw [withNextOf, List.length_cons, ih, List.length_cons]

section

variable {f : α → Option α → β} {g : β → α} (hg : ∀ x next, g (f x next) = x)

include hg

end

end Grouping
