import SentinelApex.Carry.SnapshotTiling
import Mathlib.Data.Int.ConditionallyCompleteOrder

/-!
# The rolling windows of a snapshot

The rolling APYs of a snapshot end at `new Date(date)`, which is where its day starts. A trade of
the day is in the windows only if it closed at the first instant (`counted_in_windows_iff`), and no
window reaches over the day.
-/

namespace SentinelApex

/-- The instants that a rolling APY looks at. -/
def rollingWindow (windowDays : ℕ) (endDate : Date) : Set Date :=
  Set.Icc (endDate - windowDays * millisPerDay) endDate

/-- The trades that a rolling APY counts. -/
def windowTrades (trades : List RealizedTradePnl) (windowDays : ℕ) (endDate : Date) :
    List RealizedTradePnl :=
  trades.filter fun t =>
    decide (t.closedAt ≥ endDate - windowDays * millisPerDay ∧ t.closedAt ≤ endDate) && t.confirmed

theorem calculateRollingApy_eq (trades : List RealizedTradePnl) (capitalUsd : Decimal)
    (windowDays : ℕ) (endDate : Date) :
    calculateRollingApy trades capitalUsd windowDays endDate =
      if (windowTrades trades windowDays endDate).length = 0 then none
      else some (calculateSimpleApy (sumOf (fun t => t.netPnl)
        (windowTrades trades windowDays endDate)) capitalUsd windowDays) := rfl

theorem mem_windowTrades {trades : List RealizedTradePnl} {windowDays : ℕ} {endDate : Date}
    {t : RealizedTradePnl} :
    t ∈ windowTrades trades windowDays endDate ↔
      t ∈ trades ∧ t.closedAt ∈ rollingWindow windowDays endDate ∧ t.confirmed = true := by
  rw [windowTrades, List.mem_filter, Bool.and_eq_true, decide_eq_true_eq]
  rfl

/-- A day that starts where the window ends is within the window if it has one instant. -/
theorem day_subset_rollingWindow_iff (windowDays : ℕ) (dateStart dateEnd : Date) :
    Set.Ico dateStart dateEnd ⊆ rollingWindow windowDays dateStart ↔ dateEnd ≤ dateStart + 1 := by
  have hlength : 0 ≤ (windowDays : ℤ) * millisPerDay :=
    mul_nonneg (Int.natCast_nonneg _) (by decide)
  constructor
  · intro h
    by_contra hlong
    have hsecond : dateStart + 1 ∈ Set.Ico dateStart dateEnd :=
      ⟨Int.le_add_one le_rfl, not_le.1 hlong⟩
    exact absurd (h hsecond).2 (not_le.2 (Int.lt_succ dateStart))
  · rintro h t ⟨hstart, hstop⟩
    exact ⟨(sub_le_self _ hlength).trans hstart, Int.lt_add_one_iff.1 (hstop.trans_le h)⟩

section

variable (clock : DayClock) (params : DailySnapshotParams)

/-- The windows of `realizedApy7d` and `realizedApy30d`, in days. -/
def rollingDays : List ℕ := [7, 30]

/-- Every trade of the daily PnL is counted in both windows of the same snapshot. -/
def CountsDay : Prop :=
  ∀ t ∈ dailyTrades clock params.date params.trades, ∀ windowDays ∈ rollingDays,
    t.toRealizedTradePnl ∈ windowTrades (params.trades.map SnapshotTrade.toRealizedTradePnl)
      windowDays (endDate clock params.date)

/-- Both windows reach over the day of the snapshot. -/
def SpansDay : Prop :=
  ∀ windowDays ∈ rollingDays,
    Set.Ico (clock.parse params.date) (clock.nextDay (clock.parse params.date)) ⊆
      rollingWindow windowDays (endDate clock params.date)

end

section

variable {clock : DayClock} {params : DailySnapshotParams}

theorem counted_in_windows_iff :
    CountsDay clock params ↔
      ∀ t ∈ dailyTrades clock params.date params.trades, t.closedAt = clock.parse params.date := by
  have hmem : ∀ t ∈ dailyTrades clock params.date params.trades, ∀ windowDays : ℕ,
      t.toRealizedTradePnl ∈ windowTrades (params.trades.map SnapshotTrade.toRealizedTradePnl)
        windowDays (clock.parse params.date) ↔ t.closedAt = clock.parse params.date := by
    intro t ht windowDays
    have hlength : 0 ≤ (windowDays : ℤ) * millisPerDay :=
      mul_nonneg (Int.natCast_nonneg _) (by decide)
    simp only [dailyTrades, List.mem_filter, Bool.and_eq_true, decide_eq_true_eq] at ht
    obtain ⟨htrade, ⟨hstart, -⟩, hconfirmed⟩ := ht
    rw [mem_windowTrades]
    constructor
    · rintro ⟨-, ⟨-, hend⟩, -⟩
      exact le_antisymm hend hstart
    · intro hfirst
      exact ⟨List.mem_map_of_mem htrade, ⟨(sub_le_self _ hlength).trans hstart, hfirst.le⟩,
        hconfirmed⟩
  constructor
  · exact fun h t ht => (hmem t ht 7).1 (h t ht 7 (by decide))
  · exact fun h t ht windowDays _ => (hmem t ht windowDays).2 (h t ht)

theorem spansDay_iff :
    SpansDay clock params ↔
      clock.nextDay (clock.parse params.date) ≤ clock.parse params.date + 1 := by
  constructor
  · exact fun h => (day_subset_rollingWindow_iff 7 _ _).1 (h 7 (by decide))
  · exact fun h windowDays _ => (day_subset_rollingWindow_iff windowDays _ _).2 h

/-- The profit of a history that begins after the start of the day is in no rolling APY. -/
theorem rollingApys_of_later (h : ∀ t ∈ params.trades, clock.parse params.date < t.closedAt) :
    (calculateDailySnapshot clock params).realizedApy7d = none ∧
      (calculateDailySnapshot clock params).realizedApy30d = none := by
  have hnone : ∀ windowDays : ℕ,
      calculateRollingApy (params.trades.map SnapshotTrade.toRealizedTradePnl)
        params.totalCapitalUsd windowDays (clock.parse params.date) = none := by
    intro windowDays
    rw [calculateRollingApy_eq, if_pos]
    rw [List.length_eq_zero_iff, List.eq_nil_iff_forall_not_mem]
    intro t ht
    obtain ⟨htrade, ⟨-, hend⟩, -⟩ := mem_windowTrades.1 ht
    obtain ⟨trade, hmem, rfl⟩ := List.mem_map.1 htrade
    exact absurd hend (not_le.2 (h trade hmem))
  exact ⟨hnone 7, hnone 30⟩

/-- The windows of a snapshot cover its day only if the day has a single instant; the trades of the
day are counted in the windows exactly if all of them closed at its first instant. -/
theorem rolling_covers_day_iff (clock : DayClock) (params : DailySnapshotParams) :
    (CountsDay clock params ∧ SpansDay clock params ↔
        clock.nextDay (clock.parse params.date) ≤ clock.parse params.date + 1) ∧
      (CountsDay clock params ↔
        ∀ t ∈ dailyTrades clock params.date params.trades,
          t.closedAt = clock.parse params.date) := by
  refine ⟨?_, counted_in_windows_iff⟩
  rw [counted_in_windows_iff, spansDay_iff]
  refine ⟨fun h => h.2, fun h => ⟨fun t ht => ?_, h⟩⟩
  simp only [dailyTrades, List.mem_filter, Bool.and_eq_true, decide_eq_true_eq] at ht
  obtain ⟨-, ⟨hstart, hend⟩, -⟩ := ht
  exact le_antisymm (Int.lt_add_one_iff.1 (hend.trans_le h)) hstart

end

def utc : TimeZone := TimeZone.transition 0 0 0

/-- The profit of a trade that closes at noon is the daily PnL, and in neither rolling APY. -/
theorem noon_trade_not_counted :
    let params := { snapshotDay "2024-03-12" with
      trades := [tradeClosedAt (dateOnly "2024-03-12" + 12 * millisPerHour) 100] }
    let snapshot := calculateDailySnapshot (zoneClock utc dateOnly) params
    snapshot.dailyPnlUsd = 100 ∧
      (snapshot.realizedApy7d = none ∧ snapshot.realizedApy30d = none) ∧
      ¬ CountsDay (zoneClock utc dateOnly) params ∧ ¬ SpansDay (zoneClock utc dateOnly) params := by
  refine ⟨by decide +kernel, rollingApys_of_later (by decide +kernel), ?_, ?_⟩
  · rw [counted_in_windows_iff]
    decide +kernel
  · rw [spansDay_iff]
    decide +kernel

end SentinelApex
