import Mathlib.Algebra.Order.BigOperators.Group.List
import Mathlib.Tactic.Linarith
import Mathlib.Tactic.Ring

/-!
# Lots

A holding is a list of lots, each bought at its price. A sale takes its quantity from the lots in
front and splits the last one it needs. Whatever the quantity, the cost of what is taken and the
value of what is left add up to the value of the lots (`take_value`).
-/

structure Lot (α : Type) where
  quantity : α
  price : α
  deriving DecidableEq

namespace Lots

section

variable {α : Type} [CommRing α]

def held (lots : List (Lot α)) : α := (lots.map fun lot => lot.quantity).sum

def value (lots : List (Lot α)) : α := (lots.map fun lot => lot.quantity * lot.price).sum

@[simp] theorem held_nil : held ([] : List (Lot α)) = 0 := rfl

@[simp] theorem value_nil : value ([] : List (Lot α)) = 0 := rfl

@[simp] theorem held_cons (lot : Lot α) (lots : List (Lot α)) :
    held (lot :: lots) = lot.quantity + held lots := by simp [held]

@[simp] theorem value_cons (lot : Lot α) (lots : List (Lot α)) :
    value (lot :: lots) = lot.quantity * lot.price + value lots := by simp [value]

@[simp] theorem held_append (lots more : List (Lot α)) :
    held (lots ++ more) = held lots + held more := by simp [held]

@[simp] theorem value_append (lots more : List (Lot α)) :
    value (lots ++ more) = value lots + value more := by simp [value]

@[simp] theorem held_reverse (lots : List (Lot α)) : held lots.reverse = held lots := by
  simp [held, List.sum_reverse]

@[simp] theorem value_reverse (lots : List (Lot α)) : value lots.reverse = value lots := by
  simp [value, List.sum_reverse]

end

variable {α : Type} [CommRing α] [LinearOrder α]

/-- The cost of a quantity that is taken from the lots in front, and what is left of them. -/
def take (q : α) : List (Lot α) → α × List (Lot α)
  | [] => (0, [])
  | lot :: lots =>
    if q ≤ 0 then (0, lot :: lots)
    else if lot.quantity ≤ q then
      let rest := take (q - lot.quantity) lots
      (lot.quantity * lot.price + rest.1, rest.2)
    else (q * lot.price, { lot with quantity := lot.quantity - q } :: lots)

theorem take_value (q : α) (lots : List (Lot α)) :
    (take q lots).1 + value (take q lots).2 = value lots := by
  induction lots generalizing q with
  | nil => simp [take]
  | cons lot lots ih =>
    unfold take
    split_ifs
    · simp
    · simp only [value_cons]
      rw [add_assoc, ih]
    · simp only [value_cons]
      ring

/-- Taking the quantity neither needs nor leaves an amount of at most `dust`, other than nothing. -/
def Clean (dust q : α) : List (Lot α) → Prop
  | [] => q = 0
  | lot :: lots =>
    q = 0 ∨ dust < q ∧
      if lot.quantity ≤ q then Clean dust (q - lot.quantity) lots else dust < lot.quantity - q

instance decidableClean (dust : α) :
    ∀ (q : α) (lots : List (Lot α)), Decidable (Clean dust q lots)
  | q, [] => inferInstanceAs (Decidable (q = 0))
  | q, lot :: lots =>
    haveI := decidableClean dust (q - lot.quantity) lots
    inferInstanceAs (Decidable (q = 0 ∨ dust < q ∧
      if lot.quantity ≤ q then Clean dust (q - lot.quantity) lots else dust < lot.quantity - q))

variable {lots : List (Lot α)}

theorem take_held_of_clean {dust q : α} (hdust : 0 ≤ dust) (h : Clean dust q lots) :
    held (take q lots).2 = held lots - q := by
  induction lots generalizing q with
  | nil =>
    obtain rfl : q = 0 := h
    simp [take]
  | cons lot lots ih =>
    rcases h with rfl | ⟨hq, hrest⟩
    · simp [take]
    · unfold take
      rw [if_neg (not_le.2 (hdust.trans_lt hq))]
      split_ifs at hrest ⊢ with hlot
      · simp only [held_cons]
        rw [ih hrest]
        ring
      · simp only [held_cons]
        ring

variable [IsStrictOrderedRing α]

theorem held_nonneg (h : ∀ lot ∈ lots, 0 ≤ lot.quantity) : 0 ≤ held lots := by
  apply List.sum_nonneg
  simp only [List.mem_map]
  rintro _ ⟨lot, hlot, rfl⟩
  exact h lot hlot

theorem value_eq_zero_of_held (h : ∀ lot ∈ lots, 0 ≤ lot.quantity) (hheld : held lots = 0) :
    value lots = 0 := by
  induction lots with
  | nil => rfl
  | cons lot lots ih =>
    obtain ⟨hlot, hlots⟩ := List.forall_mem_cons.1 h
    rw [held_cons] at hheld
    have hrest := held_nonneg hlots
    have hzero : lot.quantity = 0 := by linarith
    rw [value_cons, hzero, zero_mul, zero_add, ih hlots (by linarith)]

theorem take_nonneg {q : α} (h : ∀ lot ∈ lots, 0 ≤ lot.quantity) :
    ∀ lot ∈ (take q lots).2, 0 ≤ lot.quantity := by
  induction lots generalizing q with
  | nil => simp [take]
  | cons lot lots ih =>
    obtain ⟨hlot, hlots⟩ := List.forall_mem_cons.1 h
    unfold take
    split_ifs with hzero hless
    · exact h
    · exact ih hlots
    · refine List.forall_mem_cons.2 ⟨?_, hlots⟩
      show 0 ≤ lot.quantity - q
      linarith

end Lots
