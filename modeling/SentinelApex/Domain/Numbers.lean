import SentinelApex.Lib.SigDigits

/-!
# Numbers of the program

Money, prices and sizes are decimal strings, computed with `decimal.js`; scores, counts and
percentages are JavaScript numbers. Both are represented by the rational number they denote:

* `Decimal` is a decimal string or a `decimal.js` value. Reading a string is exact; `plus`,
  `minus`, `times` and `div` round to the default 20 significant digits with `ROUND_HALF_UP`
  (`decimalJs`).
* `Number` is a finite double. A literal, a parsed text and the result of an operation are
  rounded to 53 bits (`binary64`). A number that `new Decimal(n)` reads is given by the decimal
  text that JavaScript prints for it.

Infinities and `NaN` are not represented: divisors are checked for zero where the source divides.
-/

namespace SentinelApex

open SigDigits

/-- A decimal string or a `decimal.js` value. -/
abbrev Decimal := ℚ

/-- A finite JavaScript number. -/
abbrev Number := ℚ

/-- Milliseconds since the epoch. -/
abbrev Date := ℤ

/-- `decimal.js` as configured by default. -/
def decimalJs : Format where
  base := 10
  digits := 20
  nearest := halfUp
  one_lt_base := by norm_num
  digits_pos := by norm_num
  nearest_intCast := halfUp_intCast
  nearest_mono := halfUp_mono

/-- Double-precision arithmetic. -/
def binary64 : Format where
  base := 2
  digits := 53
  nearest := halfEven
  one_lt_base := by norm_num
  digits_pos := by norm_num
  nearest_intCast := halfEven_intCast
  nearest_mono := halfEven_mono

/-- The digits of `n / 10 ^ dp` in normal notation. -/
def fixedText (n dp : ℕ) : String :=
  let ds := Nat.toDigits 10 n
  let ds := List.replicate (dp + 1 - ds.length) '0' ++ ds
  if dp = 0 then String.ofList ds
  else String.ofList (ds.take (ds.length - dp) ++ '.' :: ds.drop (ds.length - dp))

def decimalPlaces (x : ℚ) : ℕ :=
  ((List.range (Nat.log 2 x.den + 1)).find? fun k => 10 ^ k % x.den == 0).getD 0

namespace Decimal

def plus (x y : Decimal) : Decimal := decimalJs.round (x + y)

def minus (x y : Decimal) : Decimal := decimalJs.round (x - y)

def times (x y : Decimal) : Decimal := decimalJs.round (x * y)

/-- The divisor is nonzero wherever the source divides. -/
def div (x y : Decimal) : Decimal := decimalJs.round (x / y)

/-- `x.toFixed(dp)`. -/
def toFixed (x : Decimal) (dp : ℕ) : String :=
  (if x < 0 then "-" else "") ++ fixedText (halfUp (|x| * 10 ^ dp)).toNat dp

/-- `x.toFixed()`: normal notation without rounding. -/
def toFixedAll (x : Decimal) : String := x.toFixed (decimalPlaces x)

/-- The value of `x.toFixed(dp)`. -/
def roundPlaces (x : Decimal) (dp : ℕ) : Decimal :=
  if 0 ≤ x then halfUp (x * 10 ^ dp) / 10 ^ dp else -(halfUp (-x * 10 ^ dp) / 10 ^ dp)

/-- `x.toDecimalPlaces(dp, Decimal.ROUND_DOWN)`. -/
def truncPlaces (x : Decimal) (dp : ℕ) : Decimal :=
  if 0 ≤ x then ⌊x * 10 ^ dp⌋ / 10 ^ dp else -(⌊-x * 10 ^ dp⌋ / 10 ^ dp)

end Decimal

namespace Number

/-- The double that a literal or a parsed decimal text denotes. -/
def ofDecimal (x : ℚ) : Number := binary64.round x

def add (x y : Number) : Number := binary64.round (x + y)

def sub (x y : Number) : Number := binary64.round (x - y)

def mul (x y : Number) : Number := binary64.round (x * y)

def div (x y : Number) : Number := binary64.round (x / y)

/-- `Number(x.toFixed(dp))`. -/
def roundPlaces (x : Number) (dp : ℕ) : Number := ofDecimal (Decimal.roundPlaces x dp)

/-- `String(x)`: exponent notation below `1e-6` and from `1e21` on. -/
def toText (x : Number) : String :=
  if x = 0 ∨ 1 / 10 ^ 6 ≤ |x| ∧ |x| < 10 ^ 21 then Decimal.toFixedAll x
  else
    let e := Int.log 10 |x|
    Decimal.toFixedAll (x / 10 ^ e) ++ (if 0 ≤ e then "e+" else "e-") ++ toString e.natAbs

end Number

variable {x y : Decimal}

namespace Decimal

/-- The amounts that `decimal.js` adds exactly: multiples of `10 ^ k` of at most twenty digits. -/
def Exact (k : ℤ) (x : Decimal) : Prop := x ∈ decimalJs.grid k ∧ |x| ≤ 10 ^ (k + 20)

variable {k : ℤ}

theorem round_of_exact (h : Exact k x) : decimalJs.round x = x :=
  decimalJs.round_eq_self (k := k) h.1 (by simpa [decimalJs] using h.2)

theorem plus_eq_add (h : Exact k (x + y)) : x.plus y = x + y :=
  round_of_exact h

theorem plus_eq_add_of_le {b c : Decimal} (hx : x ∈ decimalJs.grid k) (hy : y ∈ decimalJs.grid k)
    (hb : |x| ≤ b) (hc : |y| ≤ c) (h : b + c ≤ 10 ^ (k + 20)) :
    x.plus y = x + y := by
  refine plus_eq_add ⟨add_mem hx hy, ?_⟩
  calc |x + y| ≤ |x| + |y| := abs_add_le x y
    _ ≤ b + c := add_le_add hb hc
    _ ≤ 10 ^ (k + 20) := h

theorem minus_eq_sub (h : Exact k (x - y)) : x.minus y = x - y :=
  round_of_exact h

theorem times_eq_mul (h : Exact k (x * y)) : x.times y = x * y :=
  round_of_exact h

theorem div_nonpos_of_neg (hx : 0 ≤ x) (hy : y < 0) : x.div y ≤ 0 :=
  decimalJs.round_nonpos (div_nonpos_of_nonneg_of_nonpos hx hy.le)

theorem times_nonpos (hx : x ≤ 0) (hy : 0 ≤ y) : x.times y ≤ 0 :=
  decimalJs.round_nonpos (mul_nonpos_of_nonpos_of_nonneg hx hy)

end Decimal

namespace Number

theorem round_natCast {n : ℕ} (h : n ≤ 2 ^ 53) : binary64.round (n : ℚ) = n := by
  refine binary64.round_eq_self (k := 0) ?_ ?_
  · exact binary64.mem_grid_iff.2 ⟨n, by simp⟩
  · rw [abs_of_nonneg (Nat.cast_nonneg n)]
    simp only [binary64, zero_add]
    exact_mod_cast h

theorem add_natCast {m n : ℕ} (h : m + n ≤ 2 ^ 53) : Number.add (m : ℚ) n = ((m + n : ℕ) : ℚ) := by
  rw [add, ← Nat.cast_add, round_natCast h]

theorem sub_natCast {m n : ℕ} (hm : m ≤ 2 ^ 53) (h : n ≤ m) :
    Number.sub (m : ℚ) n = ((m - n : ℕ) : ℚ) := by
  rw [sub, ← Nat.cast_sub h, round_natCast (by omega)]

end Number

end SentinelApex
