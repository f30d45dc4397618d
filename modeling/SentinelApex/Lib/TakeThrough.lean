import Mathlib.Data.List.Infix
import Mathlib.Data.List.TakeWhile

/-!
# Loops that stop

A loop over a list that breaks at the first element of a kind still handles that element.
`takeThrough stops l` is what it reads: the elements up to the first one that stops it, inclusive.
-/

namespace TakeThrough

variable {α β : Type}

/-- The elements up to the first one that stops the loop, and that one. -/
def takeThrough (stops : α → Bool) : List α → List α
  | [] => []
  | a :: as => a :: if stops a then [] else takeThrough stops as

variable {stops : α → Bool} {l : List α}

theorem takeThrough_cons_of_stops {a : α} (h : stops a = true) :
    takeThrough stops (a :: l) = [a] := by
  simp [takeThrough, h]

theorem takeThrough_cons_of_goesOn {a : α} (h : stops a = false) :
    takeThrough stops (a :: l) = a :: takeThrough stops l := by
  simp [takeThrough, h]

theorem takeThrough_eq_self (h : ∀ a ∈ l, stops a = false) : takeThrough stops l = l := by
  induction l with
  | nil => rfl
  | cons a as ih =>
    rw [List.forall_mem_cons] at h
    rw [takeThrough_cons_of_goesOn h.1, ih h.2]

theorem takeThrough_isPrefix (stops : α → Bool) (l : List α) : takeThrough stops l <+: l := by
  induction l with
  | nil => exact List.prefix_rfl
  | cons a as ih =>
    rw [takeThrough, List.cons_prefix_cons]
    split_ifs
    · exact ⟨rfl, List.nil_prefix⟩
    · exact ⟨rfl, ih⟩

theorem mem_of_mem_takeThrough {a : α} (h : a ∈ takeThrough stops l) : a ∈ l :=
  (takeThrough_isPrefix stops l).subset h

theorem countP_takeThrough_le (stops : α → Bool) (l : List α) :
    (takeThrough stops l).countP stops ≤ 1 := by
  induction l with
  | nil => exact Nat.zero_le _
  | cons a as ih =>
    by_cases h : stops a = true
    · simp [takeThrough_cons_of_stops h, h]
    · rw [Bool.not_eq_true] at h
      simpa [takeThrough_cons_of_goesOn h, h] using ih

/-- What is gathered from the elements that do not stop the loop is gathered before it stops. -/
theorem filterMap_takeThrough {f : α → Option β} (hf : ∀ a ∈ l, stops a = true → f a = none) :
    (takeThrough stops l).filterMap f = (l.takeWhile fun a => !stops a).filterMap f := by
  induction l with
  | nil => rfl
  | cons a as ih =>
    rw [List.forall_mem_cons] at hf
    by_cases h : stops a = true
    · simp [takeThrough_cons_of_stops h, h, hf.1 h]
    · rw [Bool.not_eq_true] at h
      rw [takeThrough_cons_of_goesOn h, List.takeWhile_cons_of_pos (by simp [h]),
        List.filterMap_cons, List.filterMap_cons, ih hf.2]

end TakeThrough
