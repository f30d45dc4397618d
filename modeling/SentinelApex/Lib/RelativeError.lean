import Mathlib.Algebra.Group.Submonoid.BigOperators
import SentinelApex.Lib.Drift
import SentinelApex.Lib.SigDigits

/-!
# Relative errors

A rounding `rnd` has relative error `u` if it moves no value by more than the part `u` of it. Then a
total to which `n` values are added is off by at most `(1 + u) ^ n - 1` of the sum of all absolute
values (`abs_accumulate_sub_le_mul`), and a rounded weighted mean of two values stays between them up
to five such errors (`weightedMean_le`, `le_weightedMean`).
-/

namespace SigDigits

/-- A rounding moves no value by more than the part `u` of it. -/
def HasRelativeError (rnd : ℚ → ℚ) (u : ℚ) : Prop := ∀ x, |rnd x - x| ≤ u * |x|

/-- A format whose last digit is off by at most `c`. -/
theorem Format.hasRelativeError (F : Format) {c : ℚ} (hc : ∀ x, |(F.nearest x : ℚ) - x| ≤ c) :
    HasRelativeError F.round (c * (F.base : ℚ) ^ (1 - F.digits : ℤ)) := by
  have hc0 : 0 ≤ c := (abs_nonneg _).trans (hc 0)
  have pos : ∀ y : ℚ, 0 < y → |F.round y - y| ≤ c * (F.base : ℚ) ^ (1 - F.digits : ℤ) * y := by
    intro y hy
    have hu := F.unit_pos y
    have hunit : F.unit y ≤ (F.base : ℚ) ^ (1 - F.digits : ℤ) * y := by
      have hlog : (F.base : ℚ) ^ Int.log F.base y ≤ y := Int.zpow_log_le_self F.one_lt_base hy
      rw [unit, abs_of_pos hy, add_sub_assoc, zpow_add₀ F.base_pos.ne', mul_comm]
      exact mul_le_mul_of_nonneg_left hlog (zpow_pos F.base_pos _).le
    have hsplit : F.round y - y = ((F.nearest (y / F.unit y) : ℚ) - y / F.unit y) * F.unit y := by
      rw [round, if_pos hy.le, sub_mul, div_mul_cancel₀ y hu.ne']
    calc |F.round y - y| = |(F.nearest (y / F.unit y) : ℚ) - y / F.unit y| * F.unit y := by
          rw [hsplit, abs_mul, abs_of_pos hu]
      _ ≤ c * F.unit y := mul_le_mul_of_nonneg_right (hc _) hu.le
      _ ≤ c * ((F.base : ℚ) ^ (1 - F.digits : ℤ) * y) := mul_le_mul_of_nonneg_left hunit hc0
      _ = c * (F.base : ℚ) ^ (1 - F.digits : ℤ) * y := by ring
  intro x
  rcases lt_trichotomy x 0 with h | rfl | h
  · have hneg := pos (-x) (by linarith)
    rwa [F.round_neg, neg_sub_neg, abs_sub_comm, ← abs_of_neg h] at hneg
  · simp
  · rw [abs_of_pos h]
    exact pos x h

def runningSum (rnd : ℚ → ℚ) (l : List ℚ) : ℚ := l.foldl (fun sum x => rnd (sum + x)) 0

@[simp] theorem runningSum_nil (rnd : ℚ → ℚ) : runningSum rnd [] = 0 := rfl

@[simp] theorem runningSum_concat (rnd : ℚ → ℚ) (l : List ℚ) (x : ℚ) :
    runningSum rnd (l ++ [x]) = rnd (runningSum rnd l + x) := by
  rw [runningSum, List.foldl_concat]
  rfl

theorem abs_sum_le (l : List ℚ) : |l.sum| ≤ (l.map fun x => |x|).sum :=
  List.le_sum_of_subadditive _ abs_zero.le abs_add_le l

theorem sum_abs_nonneg (l : List ℚ) : 0 ≤ (l.map fun x => |x|).sum := (abs_nonneg _).trans (abs_sum_le l)

theorem runningSum_eq_sum {rnd : ℚ → ℚ} {G : AddSubgroup ℚ} {bound : ℚ}
    (hkeep : ∀ x ∈ G, |x| ≤ bound → rnd x = x) {l : List ℚ} (hl : ∀ x ∈ l, x ∈ G)
    (hbound : (l.map fun x => |x|).sum ≤ bound) : runningSum rnd l = l.sum := by
  induction l using List.reverseRecOn with
  | nil => rfl
  | append_singleton l x ih =>
    have hsum : (l.map fun x => |x|).sum ≤ bound := by
      rw [List.map_append, List.sum_append, List.map_singleton, List.sum_singleton] at hbound
      linarith [abs_nonneg x]
    have hmem : (l ++ [x]).sum ∈ G := list_sum_mem hl
    rw [runningSum_concat, ih (fun y hy => hl y (List.mem_append_left _ hy)) hsum]
    have hexact := hkeep _ hmem ((abs_sum_le _).trans hbound)
    rwa [List.sum_append, List.sum_singleton] at hexact ⊢

section

variable {rnd : ℚ → ℚ} {u : ℚ}

/-- Each addition adds one relative error. -/
theorem abs_accumulate_sub_le_mul (hu : 0 ≤ u) (h : HasRelativeError rnd u) (start : ℚ)
    (l : List ℚ) : |Drift.accumulate rnd start l - (start + l.sum)| ≤
      ((1 + u) ^ l.length - 1) * (|start| + (l.map fun x => |x|).sum) := by
  induction l generalizing start with
  | nil => simp
  | cons x l ih =>
    set y := rnd (start + x) with hy
    set total := (l.map fun x => |x|).sum
    set c := (1 + u) ^ l.length with hc
    have hc1 : 0 ≤ c - 1 := sub_nonneg.2 (one_le_pow₀ (by linarith))
    have hround : |y - (start + x)| ≤ u * (|start| + |x|) :=
      (h _).trans (mul_le_mul_of_nonneg_left (abs_add_le _ _) hu)
    have hsize : |y| ≤ (1 + u) * (|start| + |x|) := by
      linarith [abs_sub_abs_le_abs_sub y (start + x), abs_add_le start x]
    rw [Drift.accumulate_cons, ← hy, List.sum_cons, List.map_cons, List.sum_cons, List.length_cons]
    calc |Drift.accumulate rnd y l - (start + (x + l.sum))|
        ≤ |Drift.accumulate rnd y l - (y + l.sum)| + |y + l.sum - (start + (x + l.sum))| :=
          abs_sub_le _ _ _
      _ = |Drift.accumulate rnd y l - (y + l.sum)| + |y - (start + x)| := by
          rw [← add_assoc, add_sub_add_right_eq_sub]
      _ ≤ (c - 1) * ((1 + u) * (|start| + |x|) + total) + u * (|start| + |x|) :=
          add_le_add ((ih y).trans (mul_le_mul_of_nonneg_left (by linarith) hc1)) hround
      _ ≤ ((1 + u) ^ (l.length + 1) - 1) * (|start| + (|x| + total)) := by
          rw [pow_succ, ← hc]
          nlinarith [mul_nonneg (mul_nonneg (add_nonneg hc1 zero_le_one) hu)
            (sum_abs_nonneg l)]

theorem abs_runningSum_sub_le (hu : 0 ≤ u) (h : HasRelativeError rnd u) (l : List ℚ) :
    |runningSum rnd l - l.sum| ≤ ((1 + u) ^ l.length - 1) * (l.map fun x => |x|).sum := by
  change |Drift.accumulate rnd 0 l - l.sum| ≤ _
  simpa using abs_accumulate_sub_le_mul hu h 0 l

theorem HasRelativeError.le (h : HasRelativeError rnd u) {x : ℚ} (hx : 0 ≤ x) :
    rnd x ≤ (1 + u) * x := by
  have := (abs_le.1 (h x)).2
  rw [abs_of_nonneg hx] at this
  linarith

theorem HasRelativeError.ge (h : HasRelativeError rnd u) {x : ℚ} (hx : 0 ≤ x) :
    (1 - u) * x ≤ rnd x := by
  have := (abs_le.1 (h x)).1
  rw [abs_of_nonneg hx] at this
  linarith

/-- The mean of two values with their weights, rounded after every operation. -/
def weightedMean (rnd : ℚ → ℚ) (p a q b : ℚ) : ℚ :=
  rnd (rnd (rnd (p * a) + rnd (q * b)) / rnd (a + b))

variable {p a q b : ℚ}

theorem weightedMean_le (hu : 0 ≤ u) (hu2 : u ≤ 1 / 2) (h : HasRelativeError rnd u) {high : ℚ}
    (hp : 0 ≤ p * a) (hq : 0 ≤ q * b) (ha : 0 ≤ a) (hb : 0 < b) (hpa : p * a ≤ high * a)
    (hqb : q * b ≤ high * b) : weightedMean rnd p a q b ≤ (1 + u) ^ 5 * high := by
  have hweights : 0 < a + b := by linarith
  have hhigh : 0 ≤ high := by
    by_contra hneg
    nlinarith
  have hnonneg : ∀ {x : ℚ}, 0 ≤ x → 0 ≤ rnd x := fun hx =>
    (mul_nonneg (by linarith) hx).trans (h.ge hx)
  have hsum : rnd (p * a) + rnd (q * b) ≤ (1 + u) * (high * (a + b)) := by
    have h₁ := h.le hp
    have h₂ := h.le hq
    nlinarith
  have hsum0 : 0 ≤ rnd (p * a) + rnd (q * b) := add_nonneg (hnonneg hp) (hnonneg hq)
  have hnotional : rnd (rnd (p * a) + rnd (q * b)) ≤ (1 + u) ^ 2 * (high * (a + b)) := by
    calc rnd (rnd (p * a) + rnd (q * b)) ≤ (1 + u) * (rnd (p * a) + rnd (q * b)) := h.le hsum0
      _ ≤ (1 + u) * ((1 + u) * (high * (a + b))) := mul_le_mul_of_nonneg_left hsum (by linarith)
      _ = (1 + u) ^ 2 * (high * (a + b)) := by ring
  have hdivisor : (1 - u) * (a + b) ≤ rnd (a + b) := h.ge hweights.le
  have hpos : 0 < rnd (a + b) := lt_of_lt_of_le (mul_pos (by linarith) hweights) hdivisor
  have hback : 1 ≤ (1 + u) ^ 2 * (1 - u) := by nlinarith [mul_nonneg hu hu]
  have hquotient : rnd (rnd (p * a) + rnd (q * b)) / rnd (a + b) ≤ (1 + u) ^ 4 * high := by
    rw [div_le_iff₀ hpos]
    have hscale : 0 ≤ (1 + u) ^ 2 * (high * (a + b)) := by positivity
    calc rnd (rnd (p * a) + rnd (q * b)) ≤ (1 + u) ^ 2 * (high * (a + b)) * 1 := by
          rwa [mul_one]
      _ ≤ (1 + u) ^ 2 * (high * (a + b)) * ((1 + u) ^ 2 * (1 - u)) :=
          mul_le_mul_of_nonneg_left hback hscale
      _ = (1 + u) ^ 4 * high * ((1 - u) * (a + b)) := by ring
      _ ≤ (1 + u) ^ 4 * high * rnd (a + b) := mul_le_mul_of_nonneg_left hdivisor (by positivity)
  calc weightedMean rnd p a q b
      ≤ (1 + u) * (rnd (rnd (p * a) + rnd (q * b)) / rnd (a + b)) :=
        h.le (div_nonneg (hnonneg hsum0) hpos.le)
    _ ≤ (1 + u) * ((1 + u) ^ 4 * high) := mul_le_mul_of_nonneg_left hquotient (by linarith)
    _ = (1 + u) ^ 5 * high := by ring

theorem le_weightedMean (hu : 0 ≤ u) (hu2 : u ≤ 1 / 2) (h : HasRelativeError rnd u) {low : ℚ}
    (hlow : 0 ≤ low) (ha : 0 ≤ a) (hb : 0 < b) (hpa : low * a ≤ p * a) (hqb : low * b ≤ q * b) :
    (1 - u) ^ 5 * low ≤ weightedMean rnd p a q b := by
  have hu1 : 0 ≤ 1 - u := by linarith
  have hweights : 0 < a + b := by linarith
  have hp : 0 ≤ p * a := (mul_nonneg hlow ha).trans hpa
  have hq : 0 ≤ q * b := (mul_nonneg hlow hb.le).trans hqb
  have hsum : (1 - u) * (low * (a + b)) ≤ rnd (p * a) + rnd (q * b) := by
    have h₁ := h.ge hp
    have h₂ := h.ge hq
    nlinarith
  have hsum0 : 0 ≤ rnd (p * a) + rnd (q * b) := le_trans (by positivity) hsum
  have hnotional : (1 - u) ^ 2 * (low * (a + b)) ≤ rnd (rnd (p * a) + rnd (q * b)) := by
    calc (1 - u) ^ 2 * (low * (a + b)) = (1 - u) * ((1 - u) * (low * (a + b))) := by ring
      _ ≤ (1 - u) * (rnd (p * a) + rnd (q * b)) := mul_le_mul_of_nonneg_left hsum hu1
      _ ≤ rnd (rnd (p * a) + rnd (q * b)) := h.ge hsum0
  have hpos : 0 < rnd (a + b) :=
    lt_of_lt_of_le (mul_pos (by linarith) hweights) (h.ge hweights.le)
  have hdivisor : (1 - u) * rnd (a + b) ≤ a + b := by
    have hle := h.le hweights.le
    nlinarith [mul_nonneg hu hu]
  have hquotient : (1 - u) ^ 4 * low ≤ rnd (rnd (p * a) + rnd (q * b)) / rnd (a + b) := by
    rw [le_div_iff₀ hpos]
    have hone : (1 - u) ^ 4 ≤ (1 - u) ^ 3 := pow_le_pow_of_le_one hu1 (by linarith) (by norm_num)
    calc (1 - u) ^ 4 * low * rnd (a + b) ≤ (1 - u) ^ 3 * low * rnd (a + b) := by gcongr
      _ = (1 - u) ^ 2 * low * ((1 - u) * rnd (a + b)) := by ring
      _ ≤ (1 - u) ^ 2 * low * (a + b) := mul_le_mul_of_nonneg_left hdivisor (by positivity)
      _ = (1 - u) ^ 2 * (low * (a + b)) := by ring
      _ ≤ rnd (rnd (p * a) + rnd (q * b)) := hnotional
  calc (1 - u) ^ 5 * low = (1 - u) * ((1 - u) ^ 4 * low) := by ring
    _ ≤ (1 - u) * (rnd (rnd (p * a) + rnd (q * b)) / rnd (a + b)) :=
        mul_le_mul_of_nonneg_left hquotient hu1
    _ ≤ weightedMean rnd p a q b := h.ge (le_trans (by positivity) hquotient)

end

end SigDigits
