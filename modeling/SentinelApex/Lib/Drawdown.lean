import Mathlib.Algebra.Order.BigOperators.Group.List
import Mathlib.Algebra.Order.Group.MinMax
import Mathlib.Data.List.Zip
import Mathlib.Tactic.Abel

/-!
# Drawing from capacities in order

`draw capacities q` takes the quantity `q` from a list of capacities, each of them up to its limit
before the next one is touched. What is taken in two draws, the second from what the first has
left, is what one draw takes (`draw_add`), and a draw from a list splits at any point of the list
(`draw_append`).
-/

namespace Drawdown

variable {α : Type} [AddCommGroup α]

def left (capacities amounts : List α) : List α := List.zipWith (fun c a => c - a) capacities amounts

theorem left_cons (c a : α) (cs as : List α) : left (c :: cs) (a :: as) = (c - a) :: left cs as := rfl

theorem left_map_zero (cs : List α) : left cs (cs.map fun _ => 0) = cs := by
  induction cs with
  | nil => rfl
  | cons c cs ih => rw [List.map_cons, left_cons, sub_zero, ih]

theorem zipWith_map_zero_add {β : Type} (cs : List β) {ds : List α} (h : ds.length = cs.length) :
    List.zipWith (fun a b => a + b) (cs.map fun _ => 0) ds = ds := by
  induction cs generalizing ds with
  | nil => rw [List.length_eq_zero_iff.1 h]; rfl
  | cons c cs ih =>
    cases ds with
    | nil => cases h
    | cons d ds =>
      rw [List.map_cons, List.zipWith_cons_cons, zero_add]
      exact congrArg (List.cons d) (ih (by simpa using h))

variable {q : α} {cs : List α}

theorem left_left {as bs : List α} :
    left (left cs as) bs = left cs (List.zipWith (fun a b => a + b) as bs) := by
  induction cs generalizing as bs with
  | nil => rfl
  | cons c cs ih =>
    cases as with
    | nil => rfl
    | cons a as =>
      cases bs with
      | nil => rfl
      | cons b bs => rw [List.zipWith_cons_cons, left_cons, left_cons, left_cons, sub_sub, ih]

variable [LinearOrder α]

/-- What is taken from each of the capacities. -/
def draw : List α → α → List α
  | [], _ => []
  | c :: cs, q => min c q :: draw cs (q - min c q)

@[simp] theorem draw_nil (q : α) : draw [] q = [] := rfl

@[simp] theorem length_draw (cs : List α) (q : α) : (draw cs q).length = cs.length := by
  induction cs generalizing q with
  | nil => rfl
  | cons c cs ih => simp [draw, ih]

theorem draw_zero (hcs : ∀ c ∈ cs, 0 ≤ c) : draw cs 0 = cs.map fun _ => 0 := by
  induction cs with
  | nil => rfl
  | cons c cs ih =>
    rw [draw, min_eq_right (hcs c List.mem_cons_self), sub_zero,
      ih fun c' hc' => hcs c' (List.mem_cons_of_mem _ hc')]
    rfl

theorem forall₂_draw_le (cs : List α) (q : α) :
    List.Forall₂ (fun a c => a ≤ c) (draw cs q) cs := by
  induction cs generalizing q with
  | nil => exact List.Forall₂.nil
  | cons c cs ih => exact List.Forall₂.cons (min_le_left c q) (ih _)

theorem draw_append (cs ds : List α) (q : α) :
    draw (cs ++ ds) q = draw cs q ++ draw ds (q - (draw cs q).sum) := by
  induction cs generalizing q with
  | nil => simp
  | cons c cs ih =>
    rw [List.cons_append, draw, draw, ih, List.cons_append, List.sum_cons, sub_sub]

theorem sum_left_draw (cs : List α) (q : α) :
    (left cs (draw cs q)).sum = cs.sum - (draw cs q).sum := by
  induction cs generalizing q with
  | nil => simp [left]
  | cons c cs ih =>
    rw [draw, left_cons, List.sum_cons, List.sum_cons, List.sum_cons, ih]
    abel

variable [IsOrderedAddMonoid α]

section

variable (hcs : ∀ c ∈ cs, 0 ≤ c)

include hcs

theorem sum_draw (hq : 0 ≤ q) :
    (draw cs q).sum = min cs.sum q := by
  induction cs generalizing q with
  | nil => simp [hq]
  | cons c cs ih =>
    have hcs' : ∀ c' ∈ cs, 0 ≤ c' := fun c' hc' => hcs c' (List.mem_cons_of_mem _ hc')
    have hrest : 0 ≤ cs.sum := List.sum_nonneg hcs'
    rw [draw, List.sum_cons, List.sum_cons, ih hcs' (sub_nonneg.2 (min_le_right c q))]
    rcases le_total c q with h | h
    · rw [min_eq_left h, ← min_add_add_left, add_sub_cancel]
    · rw [min_eq_right h, sub_self, min_eq_right hrest, add_zero,
        min_eq_right (h.trans (le_add_of_nonneg_right hrest))]

theorem sum_draw_zero : (draw cs 0).sum = 0 := by
  rw [sum_draw hcs le_rfl, min_eq_right (List.sum_nonneg hcs)]

/-- Two draws, the second from what the first has left, are one draw. -/
theorem draw_add {r : α} (hq : 0 ≤ q) (hr : 0 ≤ r) :
    draw cs (q + r) =
      List.zipWith (fun a b => a + b) (draw cs q) (draw (left cs (draw cs q)) r) := by
  induction cs generalizing q r with
  | nil => rfl
  | cons c cs ih =>
    have hcs' : ∀ c' ∈ cs, 0 ≤ c' := fun c' hc' => hcs c' (List.mem_cons_of_mem _ hc')
    simp only [draw, left_cons, List.zipWith_cons_cons]
    rcases le_total c q with h | h
    · -- The first draw empties `c`, and the second one starts behind it.
      have h' : c ≤ q + r := h.trans (le_add_of_nonneg_right hr)
      rw [min_eq_left h, min_eq_left h', sub_self, min_eq_left hr, add_zero, sub_zero,
        add_sub_right_comm, ih hcs' (sub_nonneg.2 h) hr]
    · -- The first draw ends within `c`: nothing behind it is taken.
      have hmin : min c (q + r) = q + min (c - q) r := by
        rw [← min_add_add_left, add_sub_cancel]
      have hrest : q + r - min c (q + r) = r - min (c - q) r := by
        rw [hmin, add_sub_add_left_eq_sub]
      rw [min_eq_right h, sub_self, draw_zero hcs', left_map_zero, hrest, hmin,
        zipWith_map_zero_add cs (length_draw cs _)]

theorem left_draw_add {r : α} (hq : 0 ≤ q) (hr : 0 ≤ r) :
    left (left cs (draw cs q)) (draw (left cs (draw cs q)) r) = left cs (draw cs (q + r)) := by
  rw [left_left, draw_add hcs hq hr]

end

/-- What lies behind a capacity that is not exhausted can be rearranged when nothing is drawn from
it: a new capacity there stays untouched. -/
theorem draw_insert {ds : List α} {x : α} (hcs : ∀ c ∈ cs, 0 ≤ c) (hds : ∀ d ∈ ds, 0 ≤ d)
    (hx : 0 ≤ x) (hq : 0 ≤ q) (hle : q ≤ (cs ++ ds).sum)
    (huntouched : ∀ a ∈ draw ds (q - (draw cs q).sum), a = 0) :
    draw (cs ++ x :: ds) q = draw cs q ++ 0 :: draw ds (q - (draw cs q).sum) := by
  have hrest0 : 0 ≤ q - (draw cs q).sum := by
    rw [sum_draw hcs hq]
    exact sub_nonneg.2 (min_le_right _ _)
  -- The capacities in front of `x` cover the whole quantity.
  have hrest : q - (draw cs q).sum = 0 := by
    have hsum : (draw ds (q - (draw cs q).sum)).sum = 0 := List.sum_eq_zero huntouched
    rw [sum_draw hds hrest0] at hsum
    rw [List.sum_append] at hle
    rcases le_total cs.sum q with h | h
    · rw [sum_draw hcs hq, min_eq_left h] at hsum ⊢
      rwa [min_eq_right (sub_left_le_of_le_add hle)] at hsum
    · rw [sum_draw hcs hq, min_eq_right h, sub_self]
  rw [draw_append, hrest, draw, min_eq_right hx, sub_zero]

end Drawdown
