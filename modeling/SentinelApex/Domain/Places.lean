import SentinelApex.Domain.Numbers
import SentinelApex.Lib.RelativeError
import SentinelApex.Lib.RoundingError

/-!
# Columns with a fixed number of places

What is stored in a decimal column is the value rounded to the places of the column. Sums of such
values are computed exactly as long as they have at most twenty digits.
-/

namespace SentinelApex

open SigDigits

variable {dp : ℕ} {x : ℚ}

namespace Decimal

/-- The value of one unit in the last of `dp` places. -/
def unitOf (dp : ℕ) : ℚ := (10 : ℚ) ^ (-(dp : ℤ))

/-- The values that a column with `dp` places holds. -/
abbrev Places (dp : ℕ) : AddSubgroup ℚ := decimalJs.grid (-(dp : ℤ))

theorem unitOf_pos (dp : ℕ) : 0 < unitOf dp := zpow_pos (by norm_num) _

theorem unitOf_two : unitOf 2 = 1 / 100 := by norm_num [unitOf]

theorem roundPlaces_eq_roundTo (x : Decimal) (dp : ℕ) : x.roundPlaces dp = roundTo (unitOf dp) x := by
  have hunit : unitOf dp = ((10 : ℚ) ^ dp)⁻¹ := by rw [unitOf, zpow_neg, zpow_natCast]
  rw [roundPlaces, roundTo, hunit]
  simp only [div_eq_mul_inv, inv_inv]

theorem places_eq (dp : ℕ) : Places dp = AddSubgroup.zmultiples (unitOf dp) := by
  simp [Places, Format.grid, decimalJs, unitOf]

theorem natCast_mem_places (n dp : ℕ) : (n : ℚ) ∈ Places dp := by
  rw [places_eq, AddSubgroup.mem_zmultiples_iff]
  refine ⟨n * 10 ^ dp, ?_⟩
  rw [zsmul_eq_mul, unitOf, zpow_neg, zpow_natCast]
  push_cast
  rw [mul_assoc, mul_inv_cancel₀ (by positivity), mul_one]

theorem unitOf_le (hx : 0 < x) (h : x ∈ Places dp) : unitOf dp ≤ x := by
  have hu := unitOf_pos dp
  rw [places_eq] at h
  obtain ⟨n, rfl⟩ := AddSubgroup.mem_zmultiples_iff.1 h
  rw [zsmul_eq_mul] at hx ⊢
  have hn : (0 : ℚ) < n := pos_of_mul_pos_left hx hu.le
  have hone : (1 : ℚ) ≤ n := by exact_mod_cast (show 0 < n by exact_mod_cast hn)
  calc unitOf dp = 1 * unitOf dp := (one_mul _).symm
    _ ≤ n * unitOf dp := mul_le_mul_of_nonneg_right hone hu.le

theorem abs_le_unitOf (h : x ∈ Places dp) (hx : |x| < 2 * unitOf dp) : |x| ≤ unitOf dp := by
  by_contra hlt
  have hunit : unitOf dp ∈ Places dp := by
    rw [places_eq]
    exact AddSubgroup.mem_zmultiples _
  have habs : |x| ∈ Places dp := by
    rcases abs_choice x with hx | hx <;> rw [hx]
    · exact h
    · exact neg_mem h
  have hle := unitOf_le (sub_pos.2 (not_le.1 hlt)) (sub_mem habs hunit)
  linarith

theorem roundPlaces_mem (x : Decimal) (dp : ℕ) : x.roundPlaces dp ∈ Places dp := by
  rw [roundPlaces_eq_roundTo, places_eq]
  exact roundTo_mem x

theorem roundPlaces_of_mem {x : Decimal} (h : x ∈ Places dp) : x.roundPlaces dp = x := by
  rw [places_eq] at h
  rw [roundPlaces_eq_roundTo, roundTo_of_mem (unitOf_pos dp) h]

theorem roundPlaces_nonneg {x : Decimal} (h : 0 ≤ x) (dp : ℕ) : 0 ≤ x.roundPlaces dp := by
  rw [roundPlaces_eq_roundTo]
  exact roundTo_nonneg (unitOf_pos dp) h

theorem roundPlaces_mono {x y : Decimal} (h : x ≤ y) (dp : ℕ) :
    x.roundPlaces dp ≤ y.roundPlaces dp := by
  rw [roundPlaces_eq_roundTo, roundPlaces_eq_roundTo]
  exact roundTo_mono (unitOf_pos dp) h

theorem abs_roundPlaces_sub_le (x : Decimal) (dp : ℕ) :
    |x.roundPlaces dp - x| ≤ unitOf dp / 2 := by
  rw [roundPlaces_eq_roundTo]
  exact abs_roundTo_sub_le (unitOf_pos dp) x

theorem roundPlaces_of_near {x z : Decimal} (hz : z ∈ Places dp) (h : |x - z| < unitOf dp / 2) :
    x.roundPlaces dp = z := by
  rw [places_eq] at hz
  rw [roundPlaces_eq_roundTo, roundTo_of_near (unitOf_pos dp) hz h]

theorem roundPlaces_sub_of_mem {x y : Decimal} (hy : y ∈ Places dp) (hy0 : 0 ≤ y) (hxy : y ≤ x) :
    (x - y).roundPlaces dp = x.roundPlaces dp - y := by
  rw [places_eq] at hy
  rw [roundPlaces_eq_roundTo, roundPlaces_eq_roundTo,
    roundTo_sub_of_mem (unitOf_pos dp) hy hy0 hxy]

/-- A result of at most twenty digits above `10 ^ k` is off by at most half of `10 ^ k`. -/
theorem abs_round_sub_le {k : ℤ} (h : |x| ≤ 10 ^ (k + 20)) :
    |decimalJs.round x - x| ≤ 1 / 2 * 10 ^ k :=
  decimalJs.abs_round_sub_le abs_halfUp_sub_le h

theorem hasRelativeError : HasRelativeError decimalJs.round (5 / 10 ^ 20) := by
  have herror := decimalJs.hasRelativeError abs_halfUp_sub_le
  have hvalue : 1 / 2 * (decimalJs.base : ℚ) ^ (1 - decimalJs.digits : ℤ) = 5 / 10 ^ 20 := by
    norm_num [decimalJs]
  rwa [hvalue] at herror

/-- The column value of a computed result: rounded to twenty digits, then to the places. -/
def stored (dp : ℕ) (x : ℚ) : Decimal := roundPlaces (decimalJs.round x) dp

theorem stored_mem (dp : ℕ) (x : ℚ) : stored dp x ∈ Places dp := roundPlaces_mem _ dp

theorem stored_nonneg (h : 0 ≤ x) (dp : ℕ) : 0 ≤ stored dp x :=
  roundPlaces_nonneg (decimalJs.round_nonneg h) dp

theorem stored_mono {x y : ℚ} (h : x ≤ y) (dp : ℕ) : stored dp x ≤ stored dp y :=
  roundPlaces_mono (decimalJs.round_mono h) dp

theorem stored_of_mem (h : x ∈ Places dp) (hb : |x| ≤ 10 ^ (20 - dp : ℤ)) : stored dp x = x := by
  have hexact : Exact (-(dp : ℤ)) x := ⟨h, by rwa [neg_add_eq_sub]⟩
  rw [stored, round_of_exact hexact, roundPlaces_of_mem h]

theorem abs_stored_sub_le (hb : |x| ≤ 10 ^ (20 - dp : ℤ)) : |stored dp x - x| ≤ unitOf dp := by
  have hround : |decimalJs.round x - x| ≤ 1 / 2 * unitOf dp := by
    apply abs_round_sub_le
    rwa [neg_add_eq_sub]
  calc |stored dp x - x|
      ≤ |stored dp x - decimalJs.round x| + |decimalJs.round x - x| := abs_sub_le _ _ _
    _ ≤ unitOf dp / 2 + 1 / 2 * unitOf dp := add_le_add (abs_roundPlaces_sub_le _ dp) hround
    _ = unitOf dp := by ring

/-- A running sum of nonnegative column values is exact when the whole sum has at most twenty
digits. -/
theorem foldl_plus_eq_sum {α : Type} (value : α → Decimal) (rows : List α) (dp : ℕ)
    (h : ∀ row ∈ rows, 0 ≤ value row ∧ value row ∈ Places dp) {start : Decimal} (h0 : 0 ≤ start)
    (hs : start ∈ Places dp) (hb : start + (rows.map value).sum ≤ 10 ^ (20 - dp : ℤ)) :
    rows.foldl (fun sum row => sum.plus (value row)) start = start + (rows.map value).sum := by
  induction rows generalizing start with
  | nil => simp
  | cons row rows ih =>
    obtain ⟨hrow, hplaces⟩ := h row List.mem_cons_self
    have hrows : ∀ row ∈ rows, 0 ≤ value row ∧ value row ∈ Places dp :=
      fun row' h' => h row' (List.mem_cons_of_mem _ h')
    have hrest : 0 ≤ (rows.map value).sum := by
      apply List.sum_nonneg
      intro x hx
      obtain ⟨row', h', rfl⟩ := List.mem_map.1 hx
      exact (hrows row' h').1
    rw [List.map_cons, List.sum_cons, ← add_assoc] at hb ⊢
    have hsum : start + value row ≤ 10 ^ (-(dp : ℤ) + 20) := by
      rw [neg_add_eq_sub]
      linarith
    have hexact : start.plus (value row) = start + value row :=
      plus_eq_add ⟨add_mem hs hplaces, by rwa [abs_of_nonneg (by linarith)]⟩
    rw [List.foldl_cons, hexact]
    exact ih hrows (by linarith) (add_mem hs hplaces) hb

end Decimal

end SentinelApex
