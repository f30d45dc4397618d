import SentinelApex.Carry.PortfolioOptimizer
import SentinelApex.Carry.SnapshotTiling
import SentinelApex.Domain.Places
import SentinelApex.Lib.SortedWindow
import Mathlib.Tactic.LinearCombination

/-!
# The return of a period

`calculatePerformancePeriod` adds up the daily PnL of the snapshots in a window and takes the return
from the first of them: its capital without its cumulative PnL, which is the capital at the
inception of the strategy. The return is therefore the one since inception, and it is that of the
window exactly if nothing was gained or lost before the window or nothing is left at its end
(`periodReturnPct_iff`). This is said of the exact operations; what the program prints for amounts
of at most twenty digits is a value as close to the exact one as two roundings are.
-/

namespace SentinelApex

/-- The PnL is printed in full, the return as `Pct`. -/
structure PerformancePeriod (Pct : Type) where
  pnlUsd : Decimal
  returnPct : Pct
  apy : Option ApyText
  tradeCount : ℕ
  winCount : ℕ
  lossCount : ℕ
  deriving DecidableEq

namespace DecimalArithmetic

section

variable (D : DecimalArithmetic)

def periodPnlUsd (periodSnapshots : List DailySnapshot) : Decimal :=
  periodSnapshots.foldl (fun sum s => D.plus sum s.dailyPnlUsd) 0

def startValue (firstSnapshot : DailySnapshot) : Decimal :=
  D.minus firstSnapshot.totalCapitalUsd firstSnapshot.cumulativePnlUsd

/-- `returnPct` before it is printed. -/
def periodReturnPct (firstSnapshot lastSnapshot : DailySnapshot) : Decimal :=
  let startValue := D.startValue firstSnapshot
  let endValue := lastSnapshot.totalCapitalUsd
  if startValue = 0 then 0 else D.times (D.div (D.minus endValue startValue) startValue) 100

end

end DecimalArithmetic

def periodSnapshots (parse : String → Date) (snapshots : List DailySnapshot) (periodDays : ℕ)
    (endDate : Date) : List DailySnapshot :=
  let periodStart := endDate - periodDays * millisPerDay
  snapshots.filter fun s => decide (periodStart ≤ parse s.date) && decide (parse s.date ≤ endDate)

/-- `parse` is `new Date(text)`; `printed` prints a return and `noReturn` that of no snapshots. -/
def DecimalArithmetic.calculatePerformancePeriod {Pct : Type} (D : DecimalArithmetic)
    (noReturn : Pct) (printed : Decimal → Pct) (parse : String → Date)
    (snapshots : List DailySnapshot) (periodDays : ℕ) (endDate : Date) : PerformancePeriod Pct :=
  match periodSnapshots parse snapshots periodDays endDate with
  | [] =>
    { pnlUsd := 0
      returnPct := noReturn
      apy := none
      tradeCount := 0
      winCount := 0
      lossCount := 0 }
  | firstSnapshot :: rest =>
    let periodSnapshots := firstSnapshot :: rest
    let lastSnapshot := rest.getLastD firstSnapshot
    let pnlUsd := D.periodPnlUsd periodSnapshots
    let startValue := D.startValue firstSnapshot
    { pnlUsd
      returnPct := printed (D.periodReturnPct firstSnapshot lastSnapshot)
      apy := some (calculateSimpleApy pnlUsd startValue periodDays)
      tradeCount := (periodSnapshots.map fun s => s.tradesClosed).sum
      winCount := (periodSnapshots.map fun s => s.tradesWinning).sum
      lossCount := (periodSnapshots.map fun s => s.tradesLosing).sum }

def calculatePerformancePeriod := DecimalArithmetic.decimalJs.calculatePerformancePeriod "0"
  fun returnPct => returnPct.toFixed 4

/-- The period of the exact operations with its return as it is. -/
def exactPerformancePeriod := DecimalArithmetic.exact.calculatePerformancePeriod (0 : ℚ)
  fun returnPct => returnPct

open DecimalArithmetic (exact)

/-- Snapshots in the order of their dates, of which the capital changes by the daily PnL only. -/
structure CapitalChain (parse : String → Date) (inception : ℚ) (snapshots : List DailySnapshot) :
    Prop where
  dates : snapshots.Pairwise fun s s' => parse s.date < parse s'.date
  cumulative : snapshots.IsChain fun s s' =>
    s'.cumulativePnlUsd = s.cumulativePnlUsd + s'.dailyPnlUsd
  capital : ∀ s ∈ snapshots, s.totalCapitalUsd = inception + s.cumulativePnlUsd

def pnlBefore (s : DailySnapshot) : ℚ := s.cumulativePnlUsd - s.dailyPnlUsd

def capitalBefore (s : DailySnapshot) : ℚ := s.totalCapitalUsd - s.dailyPnlUsd

section

variable {parse : String → Date} {inception : ℚ} {snapshots window : List DailySnapshot}

theorem CapitalChain.infix (h : CapitalChain parse inception snapshots)
    (hwindow : window <:+: snapshots) : CapitalChain parse inception window :=
  ⟨h.dates.sublist hwindow.sublist, h.cumulative.infix hwindow,
    fun s hs => h.capital s (hwindow.subset hs)⟩

theorem CapitalChain.periodSnapshots (h : CapitalChain parse inception snapshots)
    (periodDays : ℕ) (endDate : Date) :
    CapitalChain parse inception (periodSnapshots parse snapshots periodDays endDate) :=
  h.infix (SortedWindow.window_infix h.dates _ _)

theorem periodPnlUsd_eq_sum (window : List DailySnapshot) :
    exact.periodPnlUsd window = (window.map fun s => s.dailyPnlUsd).sum := by
  have hfold : ∀ start : ℚ, window.foldl (fun sum s => exact.plus sum s.dailyPnlUsd) start =
      start + (window.map fun s => s.dailyPnlUsd).sum := by
    induction window with
    | nil => simp
    | cons s window ih =>
      intro start
      rw [List.foldl_cons, ih, List.map_cons, List.sum_cons, ← add_assoc]
      rfl
  exact (hfold 0).trans (zero_add _)

theorem CapitalChain.startValue {first : DailySnapshot} {rest : List DailySnapshot}
    (h : CapitalChain parse inception (first :: rest)) : exact.startValue first = inception := by
  show first.totalCapitalUsd - first.cumulativePnlUsd = inception
  rw [h.capital first List.mem_cons_self]
  ring

/-- The daily PnL of a window adds up to what the cumulative PnL changes over it. -/
theorem CapitalChain.periodPnlUsd {first : DailySnapshot} {rest : List DailySnapshot}
    (h : CapitalChain parse inception (first :: rest)) :
    exact.periodPnlUsd (first :: rest) =
      (rest.getLastD first).cumulativePnlUsd - pnlBefore first := by
  rw [periodPnlUsd_eq_sum, pnlBefore]
  have hchain := h.cumulative
  clear h
  induction rest generalizing first with
  | nil => simp
  | cons second rest ih =>
    obtain ⟨hstep, hrest⟩ := List.isChain_cons_cons.1 hchain
    rw [List.map_cons, List.sum_cons, ih hrest, hstep, List.getLastD_cons]
    ring

/-- Nothing was gained or lost before the window or nothing is left at its end; in a strategy that
began without capital, nothing was gained or lost in the window. -/
def ReturnsOfWindow (inception : ℚ) (first last : DailySnapshot) : Prop :=
  (inception = 0 ∧ last.cumulativePnlUsd = pnlBefore first) ∨
    (inception ≠ 0 ∧ (pnlBefore first = 0 ∨ last.totalCapitalUsd = 0))

instance (inception : ℚ) (first last : DailySnapshot) :
    Decidable (ReturnsOfWindow inception first last) := inferInstanceAs (Decidable (_ ∨ _))

theorem exactReturnPct_iff {first : DailySnapshot} {rest : List DailySnapshot}
    (hchain : CapitalChain parse inception (first :: rest)) (hcapital : capitalBefore first ≠ 0) :
    exact.periodReturnPct first (rest.getLastD first) =
        100 * exact.periodPnlUsd (first :: rest) / capitalBefore first ↔
      ReturnsOfWindow inception first (rest.getLastD first) := by
  have hend := hchain.capital _ List.getLastD_mem_cons
  have hbefore : capitalBefore first = inception + pnlBefore first := by
    rw [capitalBefore, pnlBefore, hchain.capital first List.mem_cons_self]
    ring
  rw [hchain.periodPnlUsd, DecimalArithmetic.periodReturnPct, ReturnsOfWindow,
    hchain.startValue]
  generalize rest.getLastD first = last at *
  rw [hbefore] at hcapital ⊢
  rw [hend]
  by_cases hzero : inception = 0
  · -- The return is printed as zero.
    rw [hzero, zero_add] at hcapital
    simp only [hzero, zero_add, if_true, true_and, ne_eq, not_true_eq_false, false_and, or_false]
    rw [eq_comm, div_eq_zero_iff, or_iff_left hcapital, mul_eq_zero,
      or_iff_right (by norm_num : (100 : ℚ) ≠ 0), sub_eq_zero]
  · simp only [hzero, if_false, false_and, false_or, ne_eq, not_false_eq_true, true_and]
    show (inception + last.cumulativePnlUsd - inception) / inception * 100 = _ ↔ _
    rw [div_mul_eq_mul_div, div_eq_div_iff hzero hcapital]
    constructor
    · intro heq
      rw [← mul_eq_zero]
      linear_combination heq / 100
    · intro hcases
      rw [← mul_eq_zero] at hcases
      linear_combination 100 * hcases

/-- Amounts of the window of at most twenty digits. -/
structure PeriodDigits (k : ℤ) (inception : ℚ) (window : List DailySnapshot) : Prop where
  inception : Decimal.Exact k inception
  cumulative : ∀ s ∈ window, Decimal.Exact k s.cumulativePnlUsd
  daily : ∀ s ∈ window, s.dailyPnlUsd ∈ decimalJs.grid k
  total : (window.map fun s => |s.dailyPnlUsd|).sum ≤ 10 ^ (k + 20)

theorem PeriodDigits.periodPnlUsd {k : ℤ} (h : PeriodDigits k inception window) :
    DecimalArithmetic.decimalJs.periodPnlUsd window = exact.periodPnlUsd window := by
  have hkeep : ∀ x ∈ decimalJs.grid k, |x| ≤ 10 ^ (k + 20) → decimalJs.round x = x :=
    fun x hx hbound => Decimal.round_of_exact ⟨hx, hbound⟩
  have hsum : SigDigits.runningSum decimalJs.round (window.map fun s => s.dailyPnlUsd) =
      (window.map fun s => s.dailyPnlUsd).sum := by
    refine SigDigits.runningSum_eq_sum hkeep (fun x hx => ?_) ?_
    · obtain ⟨s, hs, rfl⟩ := List.mem_map.1 hx
      exact h.daily s hs
    · rw [List.map_map]
      exact h.total
  rw [periodPnlUsd_eq_sum, ← hsum, SigDigits.runningSum, List.foldl_map]
  rfl

/-- Beside the exact return, the program's is rounded as a quotient and as a percentage. -/
theorem PeriodDigits.abs_periodReturnPct_sub_le {k : ℤ} {first : DailySnapshot}
    {rest : List DailySnapshot} (hdigits : PeriodDigits k inception (first :: rest))
    (hchain : CapitalChain parse inception (first :: rest)) :
    |DecimalArithmetic.decimalJs.periodReturnPct first (rest.getLastD first) -
        exact.periodReturnPct first (rest.getLastD first)| ≤
      2 / 10 ^ 19 * |exact.periodReturnPct first (rest.getLastD first)| := by
  have hlast := hchain.capital _ List.getLastD_mem_cons
  have hcumulative := hdigits.cumulative _ List.getLastD_mem_cons
  generalize rest.getLastD first = last at *
  have hstart : DecimalArithmetic.decimalJs.startValue first = inception := by
    have hvalue : first.totalCapitalUsd - first.cumulativePnlUsd = inception := hchain.startValue
    rw [← hvalue]
    exact Decimal.minus_eq_sub (hvalue ▸ hdigits.inception)
  have hend : last.totalCapitalUsd - inception = last.cumulativePnlUsd := by
    rw [hlast, add_sub_cancel_left]
  have hendJs : Decimal.minus last.totalCapitalUsd inception = last.cumulativePnlUsd := by
    rw [← hend]
    exact Decimal.minus_eq_sub (hend ▸ hcumulative)
  unfold DecimalArithmetic.periodReturnPct
  rw [hstart, hchain.startValue]
  dsimp only
  split_ifs with hzero
  · simp
  · show |decimalJs.round (decimalJs.round (Decimal.minus last.totalCapitalUsd inception /
      inception) * 100) - (last.totalCapitalUsd - inception) / inception * 100| ≤
        2 / 10 ^ 19 * |(last.totalCapitalUsd - inception) / inception * 100|
    rw [hendJs, hend]
    generalize last.cumulativePnlUsd / inception = q
    have hquotient := Decimal.hasRelativeError q
    have hpercent := Decimal.hasRelativeError (decimalJs.round q * 100)
    have hsize : |decimalJs.round q| ≤ |q| + 5 / 10 ^ 20 * |q| := by
      linarith [abs_sub_abs_le_abs_sub (decimalJs.round q) q]
    rw [abs_mul, abs_of_pos (by norm_num : (0 : ℚ) < 100)] at hpercent ⊢
    have hscaled : |decimalJs.round q * 100 - q * 100| = |decimalJs.round q - q| * 100 := by
      rw [← sub_mul, abs_mul, abs_of_pos (by norm_num : (0 : ℚ) < 100)]
    have htriangle := abs_sub_le (decimalJs.round (decimalJs.round q * 100))
      (decimalJs.round q * 100) (q * 100)
    linarith [abs_nonneg q]

/-- The return of a window is its PnL over the capital before it exactly under this condition; and
for amounts of at most twenty digits the program has this PnL and prints this return, up to the
rounding of a quotient and of a percentage. -/
theorem periodReturnPct_iff (h : CapitalChain parse inception snapshots) (periodDays : ℕ)
    (endDate : Date) {first : DailySnapshot} {rest : List DailySnapshot}
    (hwindow : periodSnapshots parse snapshots periodDays endDate = first :: rest)
    (hcapital : capitalBefore first ≠ 0) :
    let ideal := exactPerformancePeriod parse snapshots periodDays endDate
    let period := calculatePerformancePeriod parse snapshots periodDays endDate
    (ideal.returnPct = 100 * ideal.pnlUsd / capitalBefore first ↔
        ReturnsOfWindow inception first (rest.getLastD first)) ∧
      ∀ k, PeriodDigits k inception (first :: rest) →
        period.pnlUsd = ideal.pnlUsd ∧
          ∃ returnPct : Decimal, period.returnPct = returnPct.toFixed 4 ∧
            |returnPct - ideal.returnPct| ≤ 2 / 10 ^ 19 * |ideal.returnPct| := by
  have hchain := h.periodSnapshots periodDays endDate
  rw [hwindow] at hchain
  dsimp only
  unfold exactPerformancePeriod calculatePerformancePeriod
    DecimalArithmetic.calculatePerformancePeriod
  rw [hwindow]
  exact ⟨exactReturnPct_iff hchain hcapital, fun k hdigits => ⟨hdigits.periodPnlUsd, _, rfl,
    hdigits.abs_periodReturnPct_sub_le hchain⟩⟩

end

def daySnapshot (date : String) (dailyPnlUsd cumulativePnlUsd : Decimal) : DailySnapshot where
  date
  sleeveId := "carry"
  strategyId := "strategy"
  totalCapitalUsd := 100000 + cumulativePnlUsd
  deployedCapitalUsd := 100000
  idleCapitalUsd := 0
  dailyPnlUsd
  dailyReturnPct := ""
  cumulativePnlUsd
  cumulativeReturnPct := ""
  tradesClosed := 1
  tradesWinning := 1
  tradesLosing := 0
  fundingPnlUsd := 0
  pricePnlUsd := dailyPnlUsd
  feeCostUsd := 0
  realizedApy7d := none
  realizedApy30d := none
  realizedApyLifetime := none
  avgTradePnlUsd := some dailyPnlUsd
  avgHoldingPeriodDays := none

/-- 10000 USD on the first day, 1100 USD on the second. -/
def twoDays : List DailySnapshot :=
  [daySnapshot "2024-03-12" 10000 10000, daySnapshot "2024-03-13" 1100 11100]

theorem twoDays_chain : CapitalChain dateOnly 100000 twoDays := by
  refine ⟨?_, ?_, ?_⟩ <;> decide +kernel

/-- The window from inception on. -/
theorem periodReturnPct_sample :
    let ideal := exactPerformancePeriod dateOnly twoDays 7 (dateOnly "2024-03-13")
    let period := calculatePerformancePeriod dateOnly twoDays 7 (dateOnly "2024-03-13")
    ideal.returnPct =
        100 * ideal.pnlUsd / capitalBefore (daySnapshot "2024-03-12" 10000 10000) ∧
      period.pnlUsd = ideal.pnlUsd ∧
        ∃ returnPct : Decimal, period.returnPct = returnPct.toFixed 4 ∧
          |returnPct - ideal.returnPct| ≤ 2 / 10 ^ 19 * |ideal.returnPct| := by
  have hwindow : periodSnapshots dateOnly twoDays 7 (dateOnly "2024-03-13") =
      [daySnapshot "2024-03-12" 10000 10000, daySnapshot "2024-03-13" 1100 11100] := by
    decide +kernel
  have hdigits : PeriodDigits 0 100000 twoDays := by
    have hgrid : ∀ n : ℕ, (n : ℚ) ∈ decimalJs.grid 0 := fun n =>
      decimalJs.mem_grid_iff.2 ⟨n, by simp⟩
    have hexact : ∀ n : ℕ, n ≤ 10 ^ 20 → Decimal.Exact 0 n := fun n hn =>
      ⟨hgrid n, by rw [abs_of_nonneg (Nat.cast_nonneg n)]; exact_mod_cast hn⟩
    refine ⟨hexact 100000 (by norm_num), List.forall_mem_cons.2 ⟨?_, List.forall_mem_singleton.2 ?_⟩,
      List.forall_mem_cons.2 ⟨hgrid 10000, List.forall_mem_singleton.2 (hgrid 1100)⟩, ?_⟩
    · exact hexact 10000 (by norm_num)
    · exact hexact 11100 (by norm_num)
    · decide +kernel
  obtain ⟨hreturn, hprogram⟩ :=
    periodReturnPct_iff twoDays_chain 7 (dateOnly "2024-03-13") hwindow (by decide +kernel)
  exact ⟨hreturn.2 (by decide +kernel), hprogram 0 hdigits⟩

/-- The second day by itself: 1100 USD of 110000 USD are printed as a return of 11.1 %. -/
theorem periodReturnPct_since_inception :
    CapitalChain dateOnly 100000 twoDays ∧
      (calculatePerformancePeriod dateOnly twoDays 0 (dateOnly "2024-03-13")).pnlUsd = 1100 ∧
      (calculatePerformancePeriod dateOnly twoDays 0 (dateOnly "2024-03-13")).returnPct =
        "11.1000" ∧
      Decimal.toFixed (100 * 1100 / capitalBefore (daySnapshot "2024-03-13" 1100 11100)) 4 =
        "1.0000" := by
  refine ⟨twoDays_chain, ?_, ?_, ?_⟩ <;> decide +kernel

end SentinelApex
