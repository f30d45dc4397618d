import SentinelApex.Allocator.Policy

/-!
# Targets in cents

The targets of the two sleeves are shares of the capital, each rounded to cents. For amounts up to
`10 ^ 16` nothing else is rounded, and the two targets add up to the capital except for a cent when
both are half cents (`usd_split`).
-/

namespace SentinelApex

open SigDigits
open Decimal

theorem abs_usd_le (x : Decimal) : |usd x| ≤ |x| + 1 := by
  have h := abs_usd_sub_le x
  have htri := abs_sub_abs_le_abs_sub (usd x) x
  linarith

theorem usd_minus {x y : Decimal} (hx : x ∈ Places 2) (hy : y ∈ Places 2)
    (hbx : |x| ≤ 10 ^ 17) (hby : |y| ≤ 10 ^ 17) : usd (x.minus y) = x - y := by
  refine stored_of_mem (sub_mem hx hy) ?_
  have htri := abs_sub x y
  norm_num at hbx hby ⊢
  linarith

theorem toUsd_natCast {capitalUsd : Decimal} (h : capitalUsd ∈ Places 2)
    (hb : |capitalUsd| ≤ 10 ^ 16) {pct : ℕ} (hp : pct ≤ 100) :
    toUsd capitalUsd pct = usd (capitalUsd * pct / 100) := by
  have hpct : (pct : ℚ) ≤ 100 := by exact_mod_cast hp
  have hscaled : |capitalUsd * pct| ≤ 10 ^ 18 := by
    rw [abs_mul, abs_of_nonneg (Nat.cast_nonneg pct : (0 : ℚ) ≤ pct)]
    calc |capitalUsd| * pct ≤ 10 ^ 16 * 100 :=
          mul_le_mul hb hpct (Nat.cast_nonneg _) (by positivity)
      _ = 10 ^ 18 := by norm_num
  have hmem : capitalUsd * pct ∈ Places 2 := by
    rw [mul_comm, ← nsmul_eq_mul]
    exact nsmul_mem h pct
  have htimes : capitalUsd.times pct = capitalUsd * pct :=
    times_eq_mul (k := -2) ⟨hmem, by norm_num at hscaled ⊢; exact hscaled⟩
  have hdiv : (capitalUsd * pct).div 100 = capitalUsd * pct / 100 := by
    refine round_of_exact (k := -4) ⟨?_, ?_⟩
    · obtain ⟨m, hm⟩ := decimalJs.mem_grid_iff.1 hmem
      refine decimalJs.mem_grid_iff.2 ⟨m, ?_⟩
      rw [← hm]
      norm_num [decimalJs]
      ring
    · rw [abs_div]
      norm_num at hscaled ⊢
      linarith
  rw [toUsd, htimes, hdiv]

/-- The cent by which two targets differ from the capital that they split, when both are half
cents, which are rounded away from zero. -/
def halfCents (capitalUsd : Decimal) (pct : ℕ) : Decimal :=
  if Int.fract (|capitalUsd| * pct) = 1 / 2 then (if 0 ≤ capitalUsd then 1 / 100 else -(1 / 100))
  else 0

theorem abs_halfCents_le (capitalUsd : Decimal) (pct : ℕ) : |halfCents capitalUsd pct| ≤ 1 / 100 := by
  unfold halfCents
  split_ifs <;> norm_num

theorem usd_split {capitalUsd : Decimal} (h : capitalUsd ∈ Places 2) {pct : ℕ} (hp : pct ≤ 100) :
    usd (capitalUsd * pct / 100) + usd (capitalUsd * (100 - pct : ℕ) / 100) =
      capitalUsd + halfCents capitalUsd pct := by
  have hpct : (pct : ℚ) ≤ 100 := by exact_mod_cast hp
  have hp0 : (0 : ℚ) ≤ pct := Nat.cast_nonneg pct
  -- The nonnegative capital; a negative one mirrors it.
  have pos : ∀ y : ℚ, y ∈ Places 2 → 0 ≤ y → usd (y * pct / 100) + usd (y - y * pct / 100) =
      y + if Int.fract (y * pct) = 1 / 2 then 1 / 100 else 0 := by
    intro y hy h0
    rw [places_eq, unitOf_two] at hy
    have hx : 0 ≤ y * pct / 100 := by positivity
    have hxy : y * pct / 100 ≤ y := by nlinarith
    have hsplit := roundTo_add_roundTo_sub (by norm_num) hy hx hxy
    rw [show y * pct / 100 / (1 / 100) = y * pct by ring] at hsplit
    rw [usd, usd, roundPlaces_eq_roundTo, roundPlaces_eq_roundTo, unitOf_two]
    exact hsplit
  have hrest : capitalUsd * (100 - pct : ℕ) / 100 = capitalUsd - capitalUsd * pct / 100 := by
    push_cast [hp]
    ring
  rw [hrest, halfCents]
  rcases le_or_gt 0 capitalUsd with h0 | hneg
  · rw [abs_of_nonneg h0, if_pos h0]
    exact pos capitalUsd h h0
  · have hmirror := pos (-capitalUsd) (neg_mem h) (by linarith)
    have hx : -capitalUsd * pct / 100 = -(capitalUsd * pct / 100) := by ring
    have hy : -capitalUsd - -capitalUsd * pct / 100 = -(capitalUsd - capitalUsd * pct / 100) := by
      ring
    simp only [usd, roundPlaces_eq_roundTo] at hmirror ⊢
    rw [hy, hx, roundTo_neg, roundTo_neg] at hmirror
    rw [abs_of_neg hneg, if_neg (not_le.2 hneg)]
    split_ifs at hmirror ⊢ <;> linarith

end SentinelApex
