import Mathlib.Algebra.BigOperators.Group.List.Basic
import Mathlib.Tactic.Linarith
import Mathlib.Tactic.Ring

/-!
# The drift of an accumulated total

A loop that rounds its total after each addition. What it ends with differs from the exact sum by
at most its drift, the sum of the errors of its roundings (`abs_accumulate_sub_le`).
-/

namespace Drift

/-- Add the amounts to a total that is rounded after each of them. -/
def accumulate (r : ℚ → ℚ) (start : ℚ) (xs : List ℚ) : ℚ := xs.foldl (fun acc x => r (acc + x)) start

/-- The errors of the roundings of `accumulate`. -/
def drift (r : ℚ → ℚ) : ℚ → List ℚ → ℚ
  | _, [] => 0
  | start, x :: xs => |r (start + x) - (start + x)| + drift r (r (start + x)) xs

variable (r : ℚ → ℚ)

@[simp] theorem accumulate_nil (start : ℚ) : accumulate r start [] = start := rfl

@[simp] theorem accumulate_cons (start x : ℚ) (xs : List ℚ) :
    accumulate r start (x :: xs) = accumulate r (r (start + x)) xs := rfl

theorem accumulate_append (start : ℚ) (xs ys : List ℚ) :
    accumulate r start (xs ++ ys) = accumulate r (accumulate r start xs) ys :=
  List.foldl_append

theorem abs_accumulate_sub_le (start : ℚ) (xs : List ℚ) :
    |accumulate r start xs - (start + xs.sum)| ≤ drift r start xs := by
  induction xs generalizing start with
  | nil => simp [drift]
  | cons x xs ih =>
    have hsplit : accumulate r start (x :: xs) - (start + (x :: xs).sum) =
        (r (start + x) - (start + x)) +
          (accumulate r (r (start + x)) xs - (r (start + x) + xs.sum)) := by
      rw [accumulate_cons, List.sum_cons]
      ring
    rw [hsplit]
    exact (abs_add_le _ _).trans (add_le_add_right (ih _) _)

end Drift
