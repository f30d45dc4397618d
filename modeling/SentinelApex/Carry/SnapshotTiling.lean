import SentinelApex.Carry.DailySnapshots
import SentinelApex.Domain.Calendar
import SentinelApex.Lib.TimeZone
import Mathlib.Algebra.Group.Submonoid.BigOperators

/-!
# The days of the snapshots

The day of a snapshot starts at midnight UTC and ends after one day of the local calendar. Where
that day has 24 hours on every date, consecutive snapshots tile the timeline: each trade is counted
in exactly one of them, and the chained cumulative PnL adds up (`tiles_of_keepsOffset`).
-/

namespace SentinelApex

/-! ## Chained snapshots -/

/-- `new Date(date)` reads a date as its midnight in UTC; `setDate` adds a day of the zone. -/
def zoneClock (zone : TimeZone) (parse : String → Date) : DayClock where
  parse := parse
  nextDay := zone.nextDay

/-- The dates are consecutive calendar dates, of which the first is the given day. -/
def ConsecutiveFrom (parse : String → Date) : ℤ → List DailySnapshotParams → Prop
  | _, [] => True
  | first, day :: days =>
    parse day.date = first * millisPerDay ∧ ConsecutiveFrom parse (first + 1) days

/-- One snapshot a day over the same history, each with the one before as `previousSnapshot`. -/
def snapshotChain (clock : DayClock) (trades : List SnapshotTrade)
    (previousSnapshot : Option DailySnapshot) (days : List DailySnapshotParams) :
    Option DailySnapshot :=
  days.foldl (fun previous day =>
    some (calculateDailySnapshot clock { day with trades, previousSnapshot := previous }))
    previousSnapshot

def cumulativePnl (snapshot : Option DailySnapshot) : Decimal :=
  (snapshot.map fun s => s.cumulativePnlUsd).getD 0

def closedBetween (start stop : Date) (trades : List SnapshotTrade) : List SnapshotTrade :=
  trades.filter fun t => decide (start ≤ t.closedAt) && decide (t.closedAt < stop)

def netPnls (trades : List SnapshotTrade) : Decimal := (trades.map fun t => t.netPnl).sum

/-- What the trades may add to or take from a sum, at most. -/
def absPnls (trades : List SnapshotTrade) : Decimal := (trades.map fun t => |t.netPnl|).sum

/-- A cumulative PnL to which the trades can be added without rounding: multiples of `10 ^ k` that
need at most twenty digits together. -/
structure SumsExact (k : ℤ) (previous : Decimal) (trades : List SnapshotTrade) : Prop where
  previous_grid : previous ∈ decimalJs.grid k
  trades_grid : ∀ t ∈ trades, t.netPnl ∈ decimalJs.grid k
  bound : |previous| + absPnls trades ≤ 10 ^ (k + 20)

/-- The snapshots of the range count each of its trades once and add up to their profit. -/
structure Tiles (clock : DayClock) (first : ℤ) (range : List DailySnapshotParams)
    (trades : List SnapshotTrade) : Prop where
  once : ∀ t ∈ trades, first * millisPerDay ≤ t.closedAt →
    t.closedAt < (first + range.length) * millisPerDay →
      ∃! i : Fin range.length, t ∈ dailyTrades clock (range.get i).date trades
  total : ∀ previous k,
    SumsExact k (cumulativePnl previous)
        (closedBetween (first * millisPerDay) ((first + range.length) * millisPerDay) trades) →
      cumulativePnl (snapshotChain clock trades previous range) - cumulativePnl previous =
        netPnls (closedBetween (first * millisPerDay) ((first + range.length) * millisPerDay) trades)

/-! ## Sums -/

section

variable {k : ℤ} {previous : Decimal} {trades rest : List SnapshotTrade}

theorem absPnls_nonneg (trades : List SnapshotTrade) : 0 ≤ absPnls trades :=
  List.sum_nonneg (by simp only [List.mem_map]; rintro _ ⟨t, -, rfl⟩; exact abs_nonneg _)

@[simp] theorem netPnls_append : netPnls (trades ++ rest) = netPnls trades + netPnls rest := by
  simp [netPnls]

@[simp] theorem absPnls_append : absPnls (trades ++ rest) = absPnls trades + absPnls rest := by
  simp [absPnls]

theorem abs_netPnls_le (trades : List SnapshotTrade) : |netPnls trades| ≤ absPnls trades := by
  induction trades with
  | nil => simp [netPnls, absPnls]
  | cons t trades ih =>
    calc |netPnls (t :: trades)| = |t.netPnl + netPnls trades| := by simp [netPnls]
      _ ≤ |t.netPnl| + |netPnls trades| := abs_add_le _ _
      _ ≤ |t.netPnl| + absPnls trades := add_le_add le_rfl ih
      _ = absPnls (t :: trades) := by simp [absPnls]

theorem netPnls_mem_grid (h : ∀ t ∈ trades, t.netPnl ∈ decimalJs.grid k) :
    netPnls trades ∈ decimalJs.grid k := by
  apply list_sum_mem
  intro x hx
  obtain ⟨t, ht, rfl⟩ := List.mem_map.1 hx
  exact h t ht

theorem SumsExact.foldl_plus (h : SumsExact k previous trades) :
    trades.foldl (fun sum t => sum.plus t.netPnl) previous = previous + netPnls trades := by
  induction trades generalizing previous with
  | nil => simp [netPnls]
  | cons t trades ih =>
    obtain ⟨ht, htrades⟩ := List.forall_mem_cons.1 h.trades_grid
    have hbound : |previous| + (|t.netPnl| + absPnls trades) ≤ 10 ^ (k + 20) := by
      simpa [absPnls] using h.bound
    have hsum : |previous + t.netPnl| ≤ |previous| + |t.netPnl| := abs_add_le _ _
    have hgrid := add_mem h.previous_grid ht
    have hplus : previous.plus t.netPnl = previous + t.netPnl :=
      Decimal.plus_eq_add_of_le h.previous_grid ht le_rfl le_rfl
        (by linarith [absPnls_nonneg trades])
    rw [List.foldl_cons, hplus, ih ⟨hgrid, htrades, by linarith⟩]
    simp [netPnls, add_assoc]

theorem SumsExact.plus_dailySum (h : SumsExact k previous trades) :
    previous.plus (dailySum (fun t => t.netPnl) trades) = previous + netPnls trades := by
  have hzero : SumsExact k 0 trades :=
    ⟨zero_mem _, h.trades_grid, by rw [abs_zero]; linarith [h.bound, abs_nonneg previous]⟩
  rw [dailySum, hzero.foldl_plus, zero_add]
  exact Decimal.plus_eq_add_of_le h.previous_grid (netPnls_mem_grid h.trades_grid) le_rfl
    (abs_netPnls_le trades) h.bound

theorem SumsExact.left (h : SumsExact k previous (trades ++ rest)) :
    SumsExact k previous trades :=
  ⟨h.previous_grid, fun t ht => h.trades_grid t (List.mem_append_left _ ht), by
    have hbound := h.bound
    rw [absPnls_append] at hbound
    linarith [absPnls_nonneg rest]⟩

theorem SumsExact.right (h : SumsExact k previous (trades ++ rest)) :
    SumsExact k (previous + netPnls trades) rest :=
  ⟨add_mem h.previous_grid
      (netPnls_mem_grid fun t ht => h.trades_grid t (List.mem_append_left _ ht)),
    fun t ht => h.trades_grid t (List.mem_append_right _ ht), by
      have hbound := h.bound
      rw [absPnls_append] at hbound
      linarith [abs_add_le previous (netPnls trades), abs_netPnls_le trades]⟩

theorem netPnls_perm (h : trades.Perm rest) : netPnls trades = netPnls rest :=
  (h.map _).sum_eq

theorem SumsExact.perm (h : SumsExact k previous trades) (hperm : trades.Perm rest) :
    SumsExact k previous rest :=
  ⟨h.previous_grid, fun t ht => h.trades_grid t (hperm.mem_iff.2 ht), by
    rw [absPnls, ← (hperm.map _).sum_eq]
    exact h.bound⟩

end

/-! ## Windows -/

section

variable {zone : TimeZone} {parse : String → Date} {first : ℤ} {days : List DailySnapshotParams}
  {trades : List SnapshotTrade}

theorem mem_closedBetween {start stop : Date} {t : SnapshotTrade} :
    t ∈ closedBetween start stop trades ↔ t ∈ trades ∧ start ≤ t.closedAt ∧ t.closedAt < stop := by
  simp [closedBetween]

theorem closedBetween_perm {start middle stop : Date} (hstart : start ≤ middle)
    (hstop : middle ≤ stop) (trades : List SnapshotTrade) :
    (closedBetween start stop trades).Perm
      (closedBetween start middle trades ++ closedBetween middle stop trades) := by
  have hsplit := (List.filter_append_perm (fun t : SnapshotTrade => decide (t.closedAt < middle))
    (closedBetween start stop trades)).symm
  have hleft : (closedBetween start stop trades).filter (fun t => decide (t.closedAt < middle)) =
      closedBetween start middle trades := by
    rw [closedBetween, closedBetween, List.filter_filter]
    refine List.filter_congr fun t _ => ?_
    rw [Bool.eq_iff_iff]
    simp only [Bool.and_eq_true, decide_eq_true_eq]
    exact ⟨fun h => ⟨h.2.1, h.1⟩, fun h => ⟨h.2, h.1, h.2.trans_le hstop⟩⟩
  have hright : (closedBetween start stop trades).filter (fun t => !decide (t.closedAt < middle)) =
      closedBetween middle stop trades := by
    rw [closedBetween, closedBetween, List.filter_filter]
    refine List.filter_congr fun t _ => ?_
    rw [Bool.eq_iff_iff]
    simp only [Bool.and_eq_true, Bool.not_eq_true', decide_eq_false_iff_not, decide_eq_true_eq,
      not_lt]
    exact ⟨fun h => ⟨h.1, h.2.2⟩, fun h => ⟨h.1, hstart.trans h.1, h.2⟩⟩
  rwa [hleft, hright] at hsplit

theorem ConsecutiveFrom.get (h : ConsecutiveFrom parse first days) (i : Fin days.length) :
    parse (days.get i).date = (first + i) * millisPerDay := by
  induction days generalizing first with
  | nil => exact i.elim0
  | cons day days ih =>
    obtain ⟨hday, hdays⟩ := h
    refine Fin.cases ?_ (fun j => ?_) i
    · simpa using hday
    · show parse (days.get j).date = _
      rw [ih hdays j, Fin.val_succ]
      push_cast
      ring

theorem dailyTrades_of_keepsOffset {date : String} {d : ℤ} (hdate : parse date = d * millisPerDay)
    (hkeeps : zone.KeepsOffset (parse date)) (hconfirmed : ∀ t ∈ trades, t.confirmed = true) :
    dailyTrades (zoneClock zone parse) date trades =
      closedBetween (d * millisPerDay) ((d + 1) * millisPerDay) trades := by
  have hnext : zone.nextDay (parse date) = (d + 1) * millisPerDay := by
    rw [(zone.nextDay_eq_iff _).2 hkeeps, hdate, add_mul, one_mul]
    rfl
  rw [hdate] at hnext
  unfold dailyTrades closedBetween
  refine List.filter_congr fun t ht => ?_
  simp only [zoneClock, hdate, hnext, hconfirmed t ht, Bool.and_true, ge_iff_le]

def dayOf (instant : ℤ) : ℤ := instant / millisPerDay

theorem dayOf_mem_iff (instant d n : ℤ) :
    d ≤ dayOf instant ∧ dayOf instant < d + n ↔
      d * millisPerDay ≤ instant ∧ instant < (d + n) * millisPerDay := by
  unfold dayOf millisPerDay
  omega

theorem millisPerDay_mul_le {d e : ℤ} (h : d ≤ e) : d * millisPerDay ≤ e * millisPerDay :=
  Int.mul_le_mul_of_nonneg_right h (by decide)

/-! ## Tiling -/

section

variable (hdays : ConsecutiveFrom parse first days)
  (hkeeps : ∀ day ∈ days, zone.KeepsOffset (parse day.date))
  (hconfirmed : ∀ t ∈ trades, t.confirmed = true)

include hdays hkeeps hconfirmed

theorem once_of_keepsOffset {t : SnapshotTrade} (ht : t ∈ trades)
    (hstart : first * millisPerDay ≤ t.closedAt)
    (hstop : t.closedAt < (first + days.length) * millisPerDay) :
    ∃! i : Fin days.length, t ∈ dailyTrades (zoneClock zone parse) (days.get i).date trades := by
  have hmem : ∀ i : Fin days.length, t ∈ dailyTrades (zoneClock zone parse) (days.get i).date trades ↔
      dayOf t.closedAt = first + i := fun i => by
    rw [dailyTrades_of_keepsOffset (hdays.get i) (hkeeps _ (List.get_mem days i)) hconfirmed,
      mem_closedBetween, and_iff_right ht, ← dayOf_mem_iff]
    omega
  obtain ⟨hlow, hhigh⟩ := (dayOf_mem_iff _ _ _).2 ⟨hstart, hstop⟩
  refine ⟨⟨(dayOf t.closedAt - first).toNat, by omega⟩, (hmem _).2 ?_, fun j hj => ?_⟩
  · show _ = first + ((dayOf t.closedAt - first).toNat : ℤ)
    omega
  · have hj' := (hmem j).1 hj
    apply Fin.ext
    show (j : ℕ) = (dayOf t.closedAt - first).toNat
    omega

theorem total_of_keepsOffset (previous : Option DailySnapshot) {k : ℤ}
    (hexact : SumsExact k (cumulativePnl previous) (closedBetween (first * millisPerDay)
      ((first + days.length) * millisPerDay) trades)) :
    cumulativePnl (snapshotChain (zoneClock zone parse) trades previous days) =
      cumulativePnl previous +
        netPnls (closedBetween (first * millisPerDay) ((first + days.length) * millisPerDay)
          trades) := by
  induction days generalizing first previous with
  | nil =>
    have hnone : closedBetween (first * millisPerDay) ((first + (0 : ℕ)) * millisPerDay) trades =
        [] := by
      rw [Nat.cast_zero, add_zero, closedBetween, List.filter_eq_nil_iff]
      intro t _ h
      simp only [Bool.and_eq_true, decide_eq_true_eq] at h
      exact absurd h.2 h.1.not_gt
    rw [List.length_nil, hnone]
    simp [snapshotChain, netPnls]
  | cons day days ih =>
    obtain ⟨hday, hdays⟩ := hdays
    obtain ⟨hkeep, hkeeps⟩ := List.forall_mem_cons.1 hkeeps
    have hlength : (first + ((day :: days).length : ℤ)) = first + 1 + days.length := by
      push_cast [List.length_cons]
      ring
    -- the trades of the day, and those of the days after it
    have hday' : first * millisPerDay ≤ (first + 1) * millisPerDay := millisPerDay_mul_le (by omega)
    have hrest : (first + 1) * millisPerDay ≤ (first + 1 + days.length) * millisPerDay :=
      millisPerDay_mul_le (by omega)
    have hperm := closedBetween_perm hday' hrest trades
    rw [hlength] at hexact ⊢
    have hexact := hexact.perm hperm
    have hnext : cumulativePnl (some (calculateDailySnapshot (zoneClock zone parse)
        { day with trades, previousSnapshot := previous })) =
        cumulativePnl previous +
          netPnls (closedBetween (first * millisPerDay) ((first + 1) * millisPerDay) trades) := by
      rw [← hexact.left.plus_dailySum, ← dailyTrades_of_keepsOffset hday hkeep hconfirmed]
      rfl
    have hrest := ih hdays hkeeps
      (some (calculateDailySnapshot (zoneClock zone parse)
        { day with trades, previousSnapshot := previous })) (hnext ▸ hexact.right)
    rw [netPnls_perm hperm, netPnls_append, ← add_assoc, ← hnext, ← hrest]
    rfl

theorem tiles_of_keepsOffset :
    Tiles (zoneClock zone parse) first days trades where
  once _ ht hstart hstop := once_of_keepsOffset hdays hkeeps hconfirmed ht hstart hstop
  total previous _ hexact := by
    rw [total_of_keepsOffset hdays hkeeps hconfirmed previous hexact, add_sub_cancel_left]

end

end

/-! ## Days of another length -/

/-- A confirmed trade; only its closing time and its profit matter. -/
def tradeClosedAt (closedAt : Date) (netPnl : Decimal) : SnapshotTrade where
  sleeveId := "carry"
  netPnl
  fundingPnl := 0
  feeCost := 0
  openedAt := closedAt
  closedAt
  confirmed := true
  grossPnl := netPnl
  holdingPeriodDays := 1

section

variable {clock : DayClock} {first : ℤ} {day : DailySnapshotParams}

theorem mem_dailyTrades_tradeClosedAt {date : String} {closedAt : Date} {netPnl : Decimal} :
    tradeClosedAt closedAt netPnl ∈ dailyTrades clock date [tradeClosedAt closedAt netPnl] ↔
      clock.parse date ≤ closedAt ∧ closedAt < clock.nextDay (clock.parse date) := by
  simp [dailyTrades, tradeClosedAt]

theorem Tiles.le_nextDay
    (h : ∀ trades, (∀ t ∈ trades, t.confirmed = true) → Tiles clock first [day] trades) :
    (first + 1) * millisPerDay ≤ clock.nextDay (clock.parse day.date) := by
  have hday : first * millisPerDay < (first + 1) * millisPerDay := by
    unfold millisPerDay
    omega
  obtain ⟨i, hi, -⟩ := (h [tradeClosedAt ((first + 1) * millisPerDay - 1) 0]
    (by simp [tradeClosedAt])).once _ (List.mem_singleton_self _) (Int.le_sub_one_of_lt hday)
    (Int.sub_one_lt_of_le le_rfl)
  have hmem := (mem_dailyTrades_tradeClosedAt.1 hi).2
  rw [List.get_eq_getElem, List.getElem_singleton] at hmem
  exact Int.le_of_sub_one_lt hmem

theorem Tiles.nextDay_le (hdate : clock.parse day.date = first * millisPerDay)
    (h : ∀ trades, (∀ t ∈ trades, t.confirmed = true) → Tiles clock first [day] trades) :
    clock.nextDay (clock.parse day.date) ≤ (first + 1) * millisPerDay := by
  by_contra hlate
  have hday : first * millisPerDay ≤ (first + 1) * millisPerDay := millisPerDay_mul_le (by omega)
  set late := tradeClosedAt ((first + 1) * millisPerDay) 1 with hlateTrade
  have houtside : closedBetween (first * millisPerDay)
      ((first + ([day].length : ℕ)) * millisPerDay) [late] = [] := by
    rw [closedBetween, List.filter_eq_nil_iff]
    intro t ht
    rw [List.mem_singleton.1 ht]
    simp [hlateTrade, tradeClosedAt]
  have hcounted : dailyTrades clock day.date [late] = [late] := by
    rw [dailyTrades, List.filter_eq_self]
    intro t ht
    rw [List.mem_singleton.1 ht]
    simp only [Bool.and_eq_true, decide_eq_true_eq]
    exact ⟨⟨hdate ▸ hday, not_le.1 hlate⟩, rfl⟩
  have htotal := (h [late] (by simp [hlateTrade, tradeClosedAt])).total none 0
  rw [houtside] at htotal
  have hsum : cumulativePnl (snapshotChain clock [late] none [day]) =
      (0 : Decimal).plus (dailySum (fun t => t.netPnl) [late]) := by
    conv_rhs => rw [← hcounted]
    rfl
  have hone : (0 : Decimal).plus (dailySum (fun t => t.netPnl) [late]) = 1 := by
    show (0 : Decimal).plus ((0 : Decimal).plus 1) = 1
    decide +kernel
  rw [hsum, hone] at htotal
  have hzero := htotal ⟨zero_mem _, by simp, by simp [cumulativePnl, absPnls]⟩
  simp [cumulativePnl, netPnls] at hzero

end

/-- All ranges of the dates tile the timeline if and only if the zone keeps its offset during the
local day that starts at midnight UTC of each date. -/
theorem snapshots_tile_iff (zone : TimeZone) (parse : String → Date) {first : ℤ}
    {days : List DailySnapshotParams} (hdays : ConsecutiveFrom parse first days) :
    (∀ (start : ℤ) (range : List DailySnapshotParams), range <:+: days →
        ConsecutiveFrom parse start range → ∀ trades : List SnapshotTrade,
          (∀ t ∈ trades, t.confirmed = true) → Tiles (zoneClock zone parse) start range trades) ↔
      ∀ day ∈ days, zone.KeepsOffset (parse day.date) := by
  constructor
  · intro htiles day hday
    obtain ⟨i, rfl⟩ := List.get_of_mem hday
    have hdate := hdays.get i
    have hinfix : [days.get i] <:+: days := (List.singleton_infix_iff _ _).2 hday
    have hone := htiles (first + i) [days.get i] hinfix ⟨hdate, trivial⟩
    have hnext : zone.nextDay (parse (days.get i).date) = (first + i + 1) * millisPerDay :=
      le_antisymm (Tiles.nextDay_le hdate hone) (Tiles.le_nextDay hone)
    rw [← zone.nextDay_eq_iff, hnext, hdate, add_mul, one_mul]
    rfl
  · intro hkeeps start range hrange hconsecutive trades hconfirmed
    exact tiles_of_keepsOffset hconsecutive (fun day hday => hkeeps day (hrange.subset hday))
      hconfirmed

/-! ## New York in 2024 -/

/-- `new Date(text)` for a text `YYYY-MM-DD`. -/
def dateOnly (text : String) : Date :=
  let digits (cs : List Char) : ℤ := cs.foldl (fun n c => 10 * n + (c.toNat - '0'.toNat : ℕ)) 0
  let cs := text.toList
  Calendar.daysFromCivil (digits (cs.take 4)) (digits ((cs.drop 5).take 2))
    (digits (cs.drop 8)) * millisPerDay

def millisPerHour : ℤ := 60 * 60 * 1000

/-- Summer time starts on 10 March at 07:00 UTC. -/
def newYorkSpring : TimeZone :=
  TimeZone.transition (dateOnly "2024-03-10" + 7 * millisPerHour) (-5 * millisPerHour)
    (-4 * millisPerHour)

/-- Summer time ends on 3 November at 06:00 UTC. -/
def newYorkAutumn : TimeZone :=
  TimeZone.transition (dateOnly "2024-11-03" + 6 * millisPerHour) (-4 * millisPerHour)
    (-5 * millisPerHour)

def snapshotDay (date : String) : DailySnapshotParams where
  date
  sleeveId := "carry"
  strategyId := "strategy"
  trades := []
  previousSnapshot := none
  totalCapitalUsd := 100000
  deployedCapitalUsd := 100000
  idleCapitalUsd := 0

/-- After the change the days have 24 hours again. -/
theorem snapshots_tile_newYork :
    ConsecutiveFrom dateOnly 19793 [snapshotDay "2024-03-11", snapshotDay "2024-03-12"] ∧
    ∀ (start : ℤ) (range : List DailySnapshotParams),
      range <:+: [snapshotDay "2024-03-11", snapshotDay "2024-03-12"] →
        ConsecutiveFrom dateOnly start range → ∀ trades : List SnapshotTrade,
          (∀ t ∈ trades, t.confirmed = true) →
            Tiles (zoneClock newYorkSpring dateOnly) start range trades := by
  have hdays : ConsecutiveFrom dateOnly 19793
      [snapshotDay "2024-03-11", snapshotDay "2024-03-12"] := by
    simp only [ConsecutiveFrom, and_true]
    decide +kernel
  refine ⟨hdays, (snapshots_tile_iff newYorkSpring dateOnly hdays).2 ?_⟩
  simp only [List.forall_mem_cons, List.not_mem_nil, false_implies, implies_true, and_true]
  decide +kernel

/-- A trade that closes at 23:30 UTC on 10 March is counted on no day, and one that closes at 00:30
UTC on 4 November is counted on two. -/
theorem snapshots_not_tiled :
    let spring := zoneClock newYorkSpring dateOnly
    let autumn := zoneClock newYorkAutumn dateOnly
    let lost := tradeClosedAt (dateOnly "2024-03-11" - millisPerHour / 2) 100
    let twice := tradeClosedAt (dateOnly "2024-11-04" + millisPerHour / 2) 100
    (dailyTrades spring "2024-03-10" [lost]).length = 0 ∧
      (dailyTrades spring "2024-03-11" [lost]).length = 0 ∧
      cumulativePnl (snapshotChain spring [lost] none
        [snapshotDay "2024-03-10", snapshotDay "2024-03-11"]) = 0 ∧
      (dailyTrades autumn "2024-11-03" [twice]).length = 1 ∧
      (dailyTrades autumn "2024-11-04" [twice]).length = 1 ∧
      cumulativePnl (snapshotChain autumn [twice] none
        [snapshotDay "2024-11-03", snapshotDay "2024-11-04"]) = 200 := by
  decide +kernel

end SentinelApex
