import SentinelApex.Lib.SigDigits

/-!
# Rounding errors

How far rounding moves a value, and rounding to a fixed number of places. A format whose last
digit is off by at most `c` moves a value of at most `digits` digits above `base ^ k` by at most
`c * base ^ k` (`Format.abs_round_sub_le`). Rounding to multiples of `u` (`roundTo u`) is
monotone, keeps the multiples, and commutes with subtracting one (`roundTo_sub_of_mem`).
-/

namespace SigDigits

theorem abs_halfUp_sub_le (x : ℚ) : |(halfUp x : ℚ) - x| ≤ 1 / 2 := by
  have hle : (halfUp x : ℚ) ≤ x + 1 / 2 := Int.floor_le _
  have hlt : x + 1 / 2 < (halfUp x : ℚ) + 1 := Int.lt_floor_add_one _
  rw [abs_le]
  constructor <;> linarith

theorem abs_halfEven_sub_le (x : ℚ) : |(halfEven x : ℚ) - x| ≤ 1 / 2 := by
  have hle : (⌊x⌋ : ℚ) ≤ x := Int.floor_le x
  have hlt : x < (⌊x⌋ : ℚ) + 1 := Int.lt_floor_add_one x
  unfold halfEven
  rw [abs_le]
  split_ifs <;> push_cast <;> constructor <;> linarith

theorem halfUp_add_intCast (x : ℚ) (n : ℤ) : halfUp (x + n) = halfUp x + n := by
  have h : x + (n : ℚ) + 1 / 2 = x + 1 / 2 + n := by ring
  rw [halfUp, halfUp, h, Int.floor_add_intCast]

variable {x y : ℚ}

theorem halfUp_nonneg (h : 0 ≤ x) : 0 ≤ halfUp x := by
  have h0 : halfUp 0 = 0 := by exact_mod_cast halfUp_intCast 0
  rw [← h0]
  exact halfUp_mono h

namespace Format

variable (F : Format)

/-- Up to `base ^ (k + digits)` the weight of the last digit is at most `base ^ k`, and a value
that reaches the power is kept. -/
theorem abs_round_sub_le {c : ℚ} (hc : ∀ x, |(F.nearest x : ℚ) - x| ≤ c) {k : ℤ} {x : ℚ}
    (hx : |x| ≤ (F.base : ℚ) ^ (k + F.digits)) : |F.round x - x| ≤ c * (F.base : ℚ) ^ k := by
  have hc0 : 0 ≤ c := (abs_nonneg _).trans (hc 0)
  have hpow : 0 < (F.base : ℚ) ^ k := zpow_pos F.base_pos k
  -- The nonnegative values; the negative ones mirror them.
  have pos : ∀ y : ℚ, 0 < y → y ≤ (F.base : ℚ) ^ (k + F.digits) →
      |F.round y - y| ≤ c * (F.base : ℚ) ^ k := by
    intro y hy hle
    rcases hle.lt_or_eq with hlt | heq
    · have hlog : Int.log F.base y < k + F.digits :=
        (Int.lt_zpow_iff_log_lt F.one_lt_base hy).1 hlt
      have hunit : F.unit y ≤ (F.base : ℚ) ^ k := by
        rw [unit, abs_of_pos hy]
        exact zpow_le_zpow_right₀ (by exact_mod_cast F.one_lt_base.le) (by omega)
      have hu := F.unit_pos y
      have hsplit : F.round y - y = ((F.nearest (y / F.unit y) : ℚ) - y / F.unit y) * F.unit y := by
        rw [round, if_pos hy.le, sub_mul, div_mul_cancel₀ y hu.ne']
      rw [hsplit, abs_mul, abs_of_pos hu]
      exact mul_le_mul (hc _) hunit hu.le hc0
    · have hgrid : y ∈ F.grid k := by
        refine F.grid_le (j := k) (k := k + F.digits) (by omega) ?_
        exact F.mem_grid_iff.2 ⟨1, by rw [heq]; simp⟩
      rw [F.round_eq_self hgrid (by rw [abs_of_pos hy]; exact hle), sub_self, abs_zero]
      positivity
  rcases lt_trichotomy x 0 with h | rfl | h
  · have hneg := pos (-x) (by linarith) (by rwa [abs_of_neg h] at hx)
    rwa [F.round_neg, neg_sub_neg, abs_sub_comm] at hneg
  · rw [F.round_zero, sub_zero, abs_zero]
    positivity
  · exact pos x h (by rwa [abs_of_pos h] at hx)

theorem round_round (x : ℚ) : F.round (F.round x) = F.round x := by
  have pos : ∀ y : ℚ, 0 < y → F.round (F.round y) = F.round y := by
    intro y hy
    have hgrid : F.round y ∈ F.grid (Int.log F.base y + 1 - F.digits) := by
      refine F.mem_grid_iff.2 ⟨F.nearest (y / F.unit y), ?_⟩
      rw [round, if_pos hy.le, unit, abs_of_pos hy]
    refine F.round_eq_self hgrid ?_
    rw [abs_of_pos (F.round_pos hy), sub_add_cancel]
    exact (F.round_bounds hy).2
  rcases lt_trichotomy x 0 with h | rfl | h
  · have hneg := pos (-x) (by linarith)
    rwa [round_neg, round_neg, neg_inj] at hneg
  · rw [round_zero, round_zero]
  · exact pos x h

end Format

/-- The nearest multiple of `u`; ties of negative values mirror the positive ones. -/
def roundTo (u x : ℚ) : ℚ := if 0 ≤ x then halfUp (x / u) * u else -(halfUp (-x / u) * u)

variable {u : ℚ}

theorem roundTo_neg (x : ℚ) : roundTo u (-x) = -roundTo u x := by
  rcases lt_trichotomy x 0 with h | rfl | h
  · rw [roundTo, roundTo, if_pos (by linarith), if_neg (by linarith), neg_neg]
  · have h0 : halfUp 0 = 0 := by exact_mod_cast halfUp_intCast 0
    simp [roundTo, h0]
  · rw [roundTo, roundTo, if_neg (by linarith), if_pos h.le, neg_neg]

theorem roundTo_nonneg (hu : 0 < u) (h : 0 ≤ x) : 0 ≤ roundTo u x := by
  have hn : (0 : ℚ) ≤ halfUp (x / u) := by exact_mod_cast halfUp_nonneg (div_nonneg h hu.le)
  rw [roundTo, if_pos h]
  positivity

theorem roundTo_mem (x : ℚ) : roundTo u x ∈ AddSubgroup.zmultiples u := by
  rw [roundTo]
  split_ifs
  · exact AddSubgroup.mem_zmultiples_iff.2 ⟨_, by rw [zsmul_eq_mul]⟩
  · exact neg_mem (AddSubgroup.mem_zmultiples_iff.2 ⟨_, by rw [zsmul_eq_mul]⟩)

theorem roundTo_of_mem (hu : 0 < u) (hx : x ∈ AddSubgroup.zmultiples u) :
    roundTo u x = x := by
  obtain ⟨n, rfl⟩ := AddSubgroup.mem_zmultiples_iff.1 hx
  have hpos : (n : ℚ) * u / u = n := mul_div_cancel_right₀ _ hu.ne'
  have hneg : -((n : ℚ) * u) / u = ((-n : ℤ) : ℚ) := by
    push_cast
    rw [neg_div, hpos]
  rw [zsmul_eq_mul, roundTo, hpos, hneg, halfUp_intCast, halfUp_intCast]
  push_cast
  split_ifs <;> ring

theorem roundTo_mono (hu : 0 < u) (h : x ≤ y) : roundTo u x ≤ roundTo u y := by
  have pos : ∀ a b : ℚ, 0 ≤ a → a ≤ b → roundTo u a ≤ roundTo u b := by
    intro a b ha hab
    rw [roundTo, roundTo, if_pos ha, if_pos (ha.trans hab)]
    refine mul_le_mul_of_nonneg_right ?_ hu.le
    exact_mod_cast halfUp_mono (div_le_div_of_nonneg_right hab hu.le)
  rcases le_total 0 x with hx | hx
  · exact pos x y hx h
  · rcases le_total 0 y with hy | hy
    · have hneg := roundTo_nonneg hu (x := -x) (by linarith)
      rw [roundTo_neg] at hneg
      have := roundTo_nonneg hu hy
      linarith
    · have hneg := pos (-y) (-x) (by linarith) (by linarith)
      rw [roundTo_neg, roundTo_neg] at hneg
      linarith

theorem abs_roundTo_sub_le (hu : 0 < u) (x : ℚ) : |roundTo u x - x| ≤ u / 2 := by
  have pos : ∀ y : ℚ, 0 ≤ y → |roundTo u y - y| ≤ u / 2 := by
    intro y hy
    have hsplit : roundTo u y - y = ((halfUp (y / u) : ℚ) - y / u) * u := by
      rw [roundTo, if_pos hy, sub_mul, div_mul_cancel₀ y hu.ne']
    rw [hsplit, abs_mul, abs_of_pos hu]
    calc |(halfUp (y / u) : ℚ) - y / u| * u ≤ 1 / 2 * u :=
          mul_le_mul_of_nonneg_right (abs_halfUp_sub_le _) hu.le
      _ = u / 2 := by ring
  rcases le_total 0 x with hx | hx
  · exact pos x hx
  · have hneg := pos (-x) (by linarith)
    rwa [roundTo_neg, neg_sub_neg, abs_sub_comm] at hneg

theorem roundTo_of_near (hu : 0 < u) {z : ℚ} (hz : z ∈ AddSubgroup.zmultiples u)
    (h : |x - z| < u / 2) : roundTo u x = z := by
  obtain ⟨n, hn⟩ := AddSubgroup.mem_zmultiples_iff.1 (sub_mem (roundTo_mem x) hz)
  rw [zsmul_eq_mul] at hn
  have hlt : |(n : ℚ)| * u < 1 * u := by
    calc |(n : ℚ)| * u = |roundTo u x - z| := by rw [← hn, abs_mul, abs_of_pos hu]
      _ ≤ |roundTo u x - x| + |x - z| := abs_sub_le _ _ _
      _ < 1 * u := by linarith [abs_roundTo_sub_le hu x]
  have hn1 : |n| < 1 := by exact_mod_cast lt_of_mul_lt_mul_right hlt hu.le
  rw [Int.abs_lt_one_iff.1 hn1, Int.cast_zero, zero_mul] at hn
  linarith

/-- Subtracting a multiple of `u` commutes with rounding, as long as nothing becomes negative. -/
theorem roundTo_sub_of_mem (hu : 0 < u) (hy : y ∈ AddSubgroup.zmultiples u) (hy0 : 0 ≤ y)
    (hxy : y ≤ x) : roundTo u (x - y) = roundTo u x - y := by
  obtain ⟨n, rfl⟩ := AddSubgroup.mem_zmultiples_iff.1 hy
  rw [zsmul_eq_mul] at hy0 hxy ⊢
  have hdiv : (x - n * u) / u = x / u + ((-n : ℤ) : ℚ) := by
    push_cast
    field_simp
    ring
  rw [roundTo, roundTo, if_pos (by linarith), if_pos (by linarith), hdiv, halfUp_add_intCast]
  push_cast
  ring

/-- Splitting a multiple of `u` in two parts and rounding both changes the sum only if they are
halves, which are both rounded up. -/
theorem roundTo_add_roundTo_sub (hu : 0 < u) (hy : y ∈ AddSubgroup.zmultiples u) (hx : 0 ≤ x)
    (hxy : x ≤ y) :
    roundTo u x + roundTo u (y - x) = y + if Int.fract (x / u) = 1 / 2 then u else 0 := by
  obtain ⟨n, rfl⟩ := AddSubgroup.mem_zmultiples_iff.1 hy
  rw [zsmul_eq_mul] at hxy ⊢
  rw [roundTo, roundTo, if_pos hx, if_pos (sub_nonneg.2 hxy), sub_div,
    mul_div_cancel_right₀ _ hu.ne', halfUp, halfUp]
  set a := x / u
  have hsplit : a = ⌊a⌋ + Int.fract a := (Int.floor_add_fract a).symm
  have hf0 : 0 ≤ Int.fract a := Int.fract_nonneg a
  have hf1 : Int.fract a < 1 := Int.fract_lt_one a
  rcases lt_trichotomy (Int.fract a) (1 / 2) with hlt | heq | hgt
  · have h₁ : ⌊a + 1 / 2⌋ = ⌊a⌋ := by
      rw [Int.floor_eq_iff]
      constructor <;> linarith
    have h₂ : ⌊(n : ℚ) - a + 1 / 2⌋ = n - ⌊a⌋ := by
      rw [Int.floor_eq_iff]
      push_cast
      constructor <;> linarith
    rw [h₁, h₂, if_neg hlt.ne]
    push_cast
    ring
  · have h₁ : ⌊a + 1 / 2⌋ = ⌊a⌋ + 1 := by
      rw [Int.floor_eq_iff]
      push_cast
      constructor <;> linarith
    have h₂ : ⌊(n : ℚ) - a + 1 / 2⌋ = n - ⌊a⌋ := by
      rw [Int.floor_eq_iff]
      push_cast
      constructor <;> linarith
    rw [h₁, h₂, if_pos heq]
    push_cast
    ring
  · have h₁ : ⌊a + 1 / 2⌋ = ⌊a⌋ + 1 := by
      rw [Int.floor_eq_iff]
      push_cast
      constructor <;> linarith
    have h₂ : ⌊(n : ℚ) - a + 1 / 2⌋ = n - ⌊a⌋ - 1 := by
      rw [Int.floor_eq_iff]
      push_cast
      constructor <;> linarith
    rw [h₁, h₂, if_neg hgt.ne']
    push_cast
    ring

end SigDigits
