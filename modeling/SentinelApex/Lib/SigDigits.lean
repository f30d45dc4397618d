import Mathlib.Algebra.Group.Subgroup.ZPowers.Basic
import Mathlib.Data.Int.Log
import Mathlib.Data.Rat.Floor
import Mathlib.Tactic.Positivity

/-!
# Rounding to significant digits

A `Format` keeps `digits` significant digits in base `base` and chooses the last one with
`nearest`. `Format.round F x` is what a computer arithmetic of this format stores for the exact
result `x`.

Rounding is symmetric and keeps signs (`round_neg`, `round_nonneg`, `round_nonpos`) and the order
(`round_mono`), and changes nothing on a *grid* of multiples of `base ^ k` as long as the value has
at most `digits` digits there (`round_eq_self`).
-/

namespace SigDigits

/-- A floating arithmetic: the base, the number of significant digits, and the choice of the last
digit, which keeps integers and is monotone. -/
structure Format where
  base : ℕ
  digits : ℕ
  nearest : ℚ → ℤ
  one_lt_base : 1 < base
  digits_pos : 0 < digits
  nearest_intCast : ∀ n : ℤ, nearest n = n
  nearest_mono : ∀ {x y : ℚ}, x ≤ y → nearest x ≤ nearest y

/-- Round half up: ties go to the larger integer. -/
def halfUp (x : ℚ) : ℤ := ⌊x + 1 / 2⌋

def halfEven (x : ℚ) : ℤ :=
  if x - ⌊x⌋ < 1 / 2 then ⌊x⌋
  else if 1 / 2 < x - ⌊x⌋ then ⌊x⌋ + 1
  else if ⌊x⌋ % 2 = 0 then ⌊x⌋ else ⌊x⌋ + 1

theorem halfUp_intCast (n : ℤ) : halfUp n = n := by
  rw [halfUp, Int.floor_intCast_add]
  norm_num

theorem halfUp_mono {x y : ℚ} (h : x ≤ y) : halfUp x ≤ halfUp y := by
  apply Int.floor_mono
  linarith

theorem halfEven_intCast (n : ℤ) : halfEven n = n := by
  simp [halfEven]

theorem floor_le_halfEven (x : ℚ) : ⌊x⌋ ≤ halfEven x := by
  unfold halfEven
  split_ifs <;> omega

theorem halfEven_le_floor_add_one (x : ℚ) : halfEven x ≤ ⌊x⌋ + 1 := by
  unfold halfEven
  split_ifs <;> omega

theorem halfEven_mono {x y : ℚ} (h : x ≤ y) : halfEven x ≤ halfEven y := by
  rcases (Int.floor_mono h).lt_or_eq with hlt | heq
  · exact (halfEven_le_floor_add_one x).trans (le_trans (by omega) (floor_le_halfEven y))
  · -- Same integer part: only the fraction decides.
    unfold halfEven
    rw [← heq]
    split_ifs <;> first | omega | (exfalso; linarith)

variable {x : ℚ}

namespace Format

variable (F : Format)

/-- The weight of the last digit kept for `x`. -/
def unit (x : ℚ) : ℚ := (F.base : ℚ) ^ (Int.log F.base |x| + 1 - F.digits)

/-- The value stored for the exact result `x`; ties of negative values mirror the positive ones. -/
def round (x : ℚ) : ℚ :=
  if 0 ≤ x then F.nearest (x / F.unit x) * F.unit x
  else -(F.nearest (-x / F.unit x) * F.unit x)

theorem base_pos : (0 : ℚ) < F.base := by
  exact_mod_cast lt_trans Nat.zero_lt_one F.one_lt_base

theorem unit_pos (x : ℚ) : 0 < F.unit x := zpow_pos F.base_pos _

theorem unit_neg (x : ℚ) : F.unit (-x) = F.unit x := by rw [unit, abs_neg, unit]

theorem nearest_zero : F.nearest 0 = 0 := by
  simpa using F.nearest_intCast 0

@[simp] theorem round_zero : F.round 0 = 0 := by
  simp [round, nearest_zero]

@[simp] theorem round_neg (x : ℚ) : F.round (-x) = -F.round x := by
  rcases lt_trichotomy x 0 with h | rfl | h
  · rw [round, round, if_pos (by linarith), if_neg (by linarith), unit_neg, neg_neg]
  · simp
  · rw [round, round, if_neg (by linarith), if_pos h.le, unit_neg, neg_neg]

theorem round_nonneg (h : 0 ≤ x) : 0 ≤ F.round x := by
  rw [round, if_pos h]
  have hn : 0 ≤ F.nearest (x / F.unit x) := by
    rw [← F.nearest_zero]
    exact F.nearest_mono (div_nonneg h (F.unit_pos x).le)
  exact mul_nonneg (by exact_mod_cast hn) (F.unit_pos x).le

theorem round_nonpos (h : x ≤ 0) : F.round x ≤ 0 := by
  have := F.round_nonneg (x := -x) (by linarith)
  rw [round_neg] at this
  linarith

/-- The multiples of `base ^ k`. -/
abbrev grid (k : ℤ) : AddSubgroup ℚ := AddSubgroup.zmultiples ((F.base : ℚ) ^ k)

theorem mem_grid_iff {k : ℤ} : x ∈ F.grid k ↔ ∃ m : ℤ, (m : ℚ) * (F.base : ℚ) ^ k = x := by
  simp [grid, AddSubgroup.mem_zmultiples_iff]

theorem grid_le {j k : ℤ} (h : j ≤ k) : F.grid k ≤ F.grid j := by
  intro x hx
  obtain ⟨m, rfl⟩ := F.mem_grid_iff.1 hx
  refine F.mem_grid_iff.2 ⟨m * F.base ^ (k - j).toNat, ?_⟩
  have hk : k = ((k - j).toNat : ℤ) + j := by omega
  push_cast
  conv_rhs => rw [hk, zpow_add₀ F.base_pos.ne', zpow_natCast]
  ring

theorem round_of_mem_unit_grid (h : 0 ≤ x) (hx : x ∈ F.grid (Int.log F.base |x| + 1 - F.digits)) :
    F.round x = x := by
  obtain ⟨m, hm⟩ := F.mem_grid_iff.1 hx
  have hd : x / F.unit x = m := by
    rw [div_eq_iff (F.unit_pos x).ne']
    exact hm.symm
  rw [round, if_pos h, hd, F.nearest_intCast]
  exact hm

/-- A value strictly below `base ^ (k + digits)` on the grid of `base ^ k` needs no rounding. -/
theorem round_of_lt {k : ℤ} (h : 0 < x) (hx : x ∈ F.grid k) (hb : x < (F.base : ℚ) ^ (k + F.digits)) :
    F.round x = x := by
  have hlog : Int.log F.base x < k + F.digits := (Int.lt_zpow_iff_log_lt F.one_lt_base h).1 hb
  refine F.round_of_mem_unit_grid h.le (F.grid_le ?_ hx)
  rw [abs_of_pos h]
  omega

/-- On the grid of `base ^ k`, a value of at most `base ^ (k + digits)` needs no rounding. -/
theorem round_eq_self {k : ℤ} (hx : x ∈ F.grid k) (hb : |x| ≤ (F.base : ℚ) ^ (k + F.digits)) :
    F.round x = x := by
  have pos : ∀ y : ℚ, 0 < y → y ∈ F.grid k → y ≤ (F.base : ℚ) ^ (k + F.digits) →
      F.round y = y := by
    intro y hy hg hle
    rcases hle.lt_or_eq with hlt | rfl
    · exact F.round_of_lt hy hg hlt
    · -- The power itself has one digit more at `k`, but lies on the coarser grid `k + 1`.
      refine F.round_of_lt (k := k + 1) hy (F.mem_grid_iff.2 ⟨F.base ^ (F.digits - 1), ?_⟩) ?_
      · have hd : ((F.digits - 1 : ℕ) : ℤ) + (k + 1) = k + F.digits := by
          have := F.digits_pos
          omega
        push_cast
        rw [← zpow_natCast, ← zpow_add₀ F.base_pos.ne', hd]
      · exact zpow_lt_zpow_right₀ (by exact_mod_cast F.one_lt_base) (by omega)
  rcases lt_trichotomy x 0 with h | rfl | h
  · have hn := pos (-x) (by linarith) (neg_mem hx) (by rwa [abs_of_neg h] at hb)
    rw [round_neg] at hn
    linarith
  · simp
  · exact pos x h hx (by rwa [abs_of_pos h] at hb)

/-- Rounding a positive value stays between the powers of the base around it. -/
theorem round_bounds (h : 0 < x) :
    (F.base : ℚ) ^ Int.log F.base x ≤ F.round x ∧
      F.round x ≤ (F.base : ℚ) ^ (Int.log F.base x + 1) := by
  have hu : 0 < F.unit x := F.unit_pos x
  have hunit : F.unit x = (F.base : ℚ) ^ (Int.log F.base x + 1 - F.digits) := by
    rw [unit, abs_of_pos h]
  have hdigits := F.digits_pos
  -- The two powers are integer multiples of the last digit, so `nearest` keeps them.
  have hlow : (F.base : ℚ) ^ Int.log F.base x =
      ((F.base ^ (F.digits - 1) : ℕ) : ℤ) * F.unit x := by
    have hd : Int.log F.base x = ((F.digits - 1 : ℕ) : ℤ) + (Int.log F.base x + 1 - F.digits) := by
      omega
    rw [hunit]
    conv_lhs => rw [hd, zpow_add₀ F.base_pos.ne', zpow_natCast]
    push_cast
    ring
  have hhigh : (F.base : ℚ) ^ (Int.log F.base x + 1) =
      ((F.base ^ F.digits : ℕ) : ℤ) * F.unit x := by
    have hd : Int.log F.base x + 1 = (F.digits : ℤ) + (Int.log F.base x + 1 - F.digits) := by
      omega
    rw [hunit]
    conv_lhs => rw [hd, zpow_add₀ F.base_pos.ne', zpow_natCast]
    push_cast
    ring
  rw [round, if_pos h.le]
  constructor
  · rw [hlow]
    refine mul_le_mul_of_nonneg_right ?_ hu.le
    rw [Int.cast_le, ← F.nearest_intCast ((F.base ^ (F.digits - 1) : ℕ) : ℤ)]
    refine F.nearest_mono ?_
    rw [le_div_iff₀ hu, ← hlow]
    exact Int.zpow_log_le_self F.one_lt_base h
  · rw [hhigh]
    refine mul_le_mul_of_nonneg_right ?_ hu.le
    rw [Int.cast_le, ← F.nearest_intCast ((F.base ^ F.digits : ℕ) : ℤ)]
    refine F.nearest_mono ?_
    rw [div_le_iff₀ hu, ← hhigh]
    exact (Int.lt_zpow_succ_log_self F.one_lt_base x).le

theorem round_pos (h : 0 < x) : 0 < F.round x :=
  (zpow_pos F.base_pos _).trans_le (F.round_bounds h).1

/-- Rounding never reverses an order. -/
theorem round_mono {x y : ℚ} (h : x ≤ y) : F.round x ≤ F.round y := by
  have pos : ∀ a b : ℚ, 0 < a → a ≤ b → F.round a ≤ F.round b := by
    intro a b ha hab
    have hb : 0 < b := ha.trans_le hab
    have hlog : Int.log F.base a ≤ Int.log F.base b := Int.log_mono_right ha hab
    rcases hlog.lt_or_eq with hlt | heq
    · calc F.round a ≤ (F.base : ℚ) ^ (Int.log F.base a + 1) := (F.round_bounds ha).2
        _ ≤ (F.base : ℚ) ^ Int.log F.base b :=
          zpow_le_zpow_right₀ (by exact_mod_cast F.one_lt_base.le) (by omega)
        _ ≤ F.round b := (F.round_bounds hb).1
    · have hunit : F.unit a = F.unit b := by rw [unit, unit, abs_of_pos ha, abs_of_pos hb, heq]
      rw [round, round, if_pos ha.le, if_pos hb.le, hunit]
      refine mul_le_mul_of_nonneg_right ?_ (F.unit_pos b).le
      exact_mod_cast F.nearest_mono (div_le_div_of_nonneg_right hab (F.unit_pos b).le)
  rcases le_or_gt x 0 with hx | hx
  · rcases lt_or_ge y 0 with hy | hy
    · have hneg := pos (-y) (-x) (by linarith) (by linarith)
      rw [round_neg, round_neg] at hneg
      linarith
    · exact (F.round_nonpos hx).trans (F.round_nonneg hy)
  · exact pos x y hx h

end Format

end SigDigits
