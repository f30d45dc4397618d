import SentinelApex.Carry.RealizedApy

/-!
# Daily snapshots

`calculateDailySnapshot` aggregates the trades that closed on a day and takes the realized APYs from
the whole history. Every aggregate drops unconfirmed trades except the lifetime APY, so two
histories with the same confirmed trades give snapshots that differ in that figure at most
(`calculateDailySnapshot_of_filter`).
-/

namespace SentinelApex

structure SnapshotTrade extends RealizedTradePnl where
  grossPnl : Decimal
  holdingPeriodDays : Number

/-- Figures that are printed in full are given by their values. -/
structure DailySnapshot where
  date : String
  sleeveId : String
  strategyId : String
  totalCapitalUsd : Decimal
  deployedCapitalUsd : Decimal
  idleCapitalUsd : Decimal
  dailyPnlUsd : Decimal
  dailyReturnPct : String
  cumulativePnlUsd : Decimal
  cumulativeReturnPct : String
  tradesClosed : ℕ
  tradesWinning : ℕ
  tradesLosing : ℕ
  fundingPnlUsd : Decimal
  pricePnlUsd : Decimal
  feeCostUsd : Decimal
  realizedApy7d : Option ApyText
  realizedApy30d : Option ApyText
  realizedApyLifetime : Option ApyText
  avgTradePnlUsd : Option Decimal
  avgHoldingPeriodDays : Option String
  deriving DecidableEq

structure DailySnapshotParams where
  date : String
  sleeveId : String
  strategyId : String
  trades : List SnapshotTrade
  previousSnapshot : Option DailySnapshot
  totalCapitalUsd : Decimal
  deployedCapitalUsd : Decimal
  idleCapitalUsd : Decimal

/-- The calendar of the process: `new Date(text)`, and `date.setDate(date.getDate() + 1)` in its time
zone. -/
structure DayClock where
  parse : String → Date
  nextDay : Date → Date

def DailySnapshot.apys (s : DailySnapshot) : SnapshotApys where
  realizedApy7d := s.realizedApy7d
  realizedApy30d := s.realizedApy30d
  realizedApyLifetime := s.realizedApyLifetime

section

variable (clock : DayClock)

/-- The confirmed trades that closed on the day. -/
def dailyTrades (date : String) (trades : List SnapshotTrade) : List SnapshotTrade :=
  let dateStart := clock.parse date
  let dateEnd := clock.nextDay dateStart
  trades.filter fun t =>
    decide (t.closedAt ≥ dateStart) && decide (t.closedAt < dateEnd) && t.confirmed

/-- The end of the rolling windows. -/
def endDate (date : String) : Date := clock.parse date

/-- `pnl.div(capital).times(100)`, or zero without capital. -/
def returnPct (pnlUsd totalCapitalUsd : Decimal) : Decimal :=
  if totalCapitalUsd = 0 then 0 else (pnlUsd.div totalCapitalUsd).times 100

def dailySum (column : SnapshotTrade → Decimal) (trades : List SnapshotTrade) : Decimal :=
  trades.foldl (fun sum t => sum.plus (column t)) 0

def calculateDailySnapshot (params : DailySnapshotParams) : DailySnapshot :=
  let dailyTrades := dailyTrades clock params.date params.trades
  let dailyPnlUsd := dailySum (fun t => t.netPnl) dailyTrades
  let previousCumulativePnl :=
    (params.previousSnapshot.map fun previous => previous.cumulativePnlUsd).getD 0
  let cumulativePnlUsd := previousCumulativePnl.plus dailyPnlUsd
  let tradesClosed := dailyTrades.length
  let holdingPeriodDays := dailyTrades.foldl (fun sum t => Number.add sum t.holdingPeriodDays) 0
  let trades := params.trades.map SnapshotTrade.toRealizedTradePnl
  let endDate := endDate clock params.date
  { date := params.date
    sleeveId := params.sleeveId
    strategyId := params.strategyId
    totalCapitalUsd := params.totalCapitalUsd
    deployedCapitalUsd := params.deployedCapitalUsd
    idleCapitalUsd := params.idleCapitalUsd
    dailyPnlUsd
    dailyReturnPct := (returnPct dailyPnlUsd params.totalCapitalUsd).toFixed 4
    cumulativePnlUsd
    cumulativeReturnPct := (returnPct cumulativePnlUsd params.totalCapitalUsd).toFixed 4
    tradesClosed
    tradesWinning := (dailyTrades.filter fun t => decide (0 < t.netPnl)).length
    tradesLosing := (dailyTrades.filter fun t => decide (t.netPnl < 0)).length
    fundingPnlUsd := dailySum (fun t => t.fundingPnl) dailyTrades
    pricePnlUsd := dailySum (fun t => t.grossPnl) dailyTrades
    feeCostUsd := dailySum (fun t => t.feeCost) dailyTrades
    realizedApy7d := calculateApy7d trades params.totalCapitalUsd endDate
    realizedApy30d := calculateApy30d trades params.totalCapitalUsd endDate
    realizedApyLifetime := calculateApyLifetime trades params.totalCapitalUsd
    avgTradePnlUsd := if 0 < tradesClosed then some (dailyPnlUsd.div tradesClosed) else none
    avgHoldingPeriodDays :=
      if 0 < tradesClosed then
        some (Decimal.toFixed (Number.div holdingPeriodDays (tradesClosed : ℚ)) 2)
      else none }

end

/-- The second list has the trades of the first one in their order, and between them additional
trades that are not confirmed. -/
inductive AddsUnconfirmed : List SnapshotTrade → List SnapshotTrade → Prop
  | nil : AddsUnconfirmed [] []
  | keep {trades all : List SnapshotTrade} (t : SnapshotTrade) (h : AddsUnconfirmed trades all) :
    AddsUnconfirmed (t :: trades) (t :: all)
  | add {trades all : List SnapshotTrade} (t : SnapshotTrade) (ht : t.confirmed = false)
    (h : AddsUnconfirmed trades all) : AddsUnconfirmed trades (t :: all)

theorem AddsUnconfirmed.append (trades : List SnapshotTrade) {more : List SnapshotTrade}
    (h : ∀ t ∈ more, t.confirmed = false) : AddsUnconfirmed trades (trades ++ more) := by
  induction trades with
  | nil =>
    induction more with
    | nil => exact .nil
    | cons t more ih =>
      obtain ⟨ht, hmore⟩ := List.forall_mem_cons.1 h
      exact .add t ht (ih hmore)
  | cons t trades ih => exact .keep t ih

variable {trades all : List SnapshotTrade}

theorem AddsUnconfirmed.filter_confirmed (h : AddsUnconfirmed trades all) :
    all.filter (fun t => t.confirmed) = trades.filter fun t => t.confirmed := by
  induction h with
  | nil => rfl
  | keep t _ ih => rw [List.filter_cons, List.filter_cons, ih]
  | add t ht _ ih => rw [List.filter_cons_of_neg (by simp [ht]), ih]

theorem AddsUnconfirmed.ne_nil (h : AddsUnconfirmed trades all) (hne : trades ≠ []) : all ≠ [] := by
  cases h with
  | nil => exact hne
  | keep t _ | add t _ _ => exact List.cons_ne_nil _ _

section

variable (clock : DayClock) {trades all : List SnapshotTrade}

theorem dailyTrades_of_filter (date : String)
    (h : all.filter (fun t => t.confirmed) = trades.filter fun t => t.confirmed) :
    dailyTrades clock date all = dailyTrades clock date trades := by
  unfold dailyTrades
  simp only [← List.filter_filter, h]

theorem filter_map_confirmed (trades : List SnapshotTrade) :
    (trades.map SnapshotTrade.toRealizedTradePnl).filter (fun t => t.confirmed) =
      (trades.filter fun t => t.confirmed).map SnapshotTrade.toRealizedTradePnl :=
  List.filter_map ..

theorem calculateRollingApy_of_filter {trades all : List RealizedTradePnl} (capitalUsd : Decimal)
    (windowDays : ℕ) (endDate : Date)
    (h : all.filter (fun t => t.confirmed) = trades.filter fun t => t.confirmed) :
    calculateRollingApy all capitalUsd windowDays endDate =
      calculateRollingApy trades capitalUsd windowDays endDate := by
  unfold calculateRollingApy
  simp only [← List.filter_filter, h]

theorem calculateDailySnapshot_of_filter (params : DailySnapshotParams)
    (h : all.filter (fun t => t.confirmed) = params.trades.filter fun t => t.confirmed) :
    calculateDailySnapshot clock { params with trades := all } =
      { calculateDailySnapshot clock params with
        realizedApyLifetime := calculateApyLifetime (all.map SnapshotTrade.toRealizedTradePnl)
          params.totalCapitalUsd } := by
  have hmap : (all.map SnapshotTrade.toRealizedTradePnl).filter (fun t => t.confirmed) =
      (params.trades.map SnapshotTrade.toRealizedTradePnl).filter fun t => t.confirmed := by
    rw [filter_map_confirmed, filter_map_confirmed, h]
  simp only [calculateDailySnapshot, dailyTrades_of_filter clock params.date h, calculateApy7d,
    calculateApy30d, calculateRollingApy_of_filter _ _ _ hmap]

end

theorem calculateApyCurrent_of_filter (sleeveId strategyId : String) (targetApyPct : Decimal)
    (latestSnapshot : Option SnapshotApys) {trades all : List RealizedTradePnl}
    (h : all.filter (fun t => t.confirmed) = trades.filter fun t => t.confirmed) :
    calculateApyCurrent sleeveId strategyId targetApyPct latestSnapshot all =
      calculateApyCurrent sleeveId strategyId targetApyPct latestSnapshot trades := by
  unfold calculateApyCurrent
  rw [h]

/-- The days from the first opening to the last closing. -/
def lifetimeDays : List RealizedTradePnl → Number
  | [] => 0
  | first :: rest =>
    daysBetween (earliestOpened first rest).openedAt (latestClosed first rest).closedAt

def yearlyReturn (trades : List RealizedTradePnl) (capitalUsd : Decimal) : ApyText :=
  (simpleApy (sumOf (fun t => t.netPnl) trades) capitalUsd (lifetimeDays trades)).apyText

theorem calculateApyLifetime_of_ne_nil {trades : List RealizedTradePnl} (h : trades ≠ [])
    (capitalUsd : Decimal) :
    calculateApyLifetime trades capitalUsd =
      some (if capitalUsd = 0 then ⟨"0", .finite 0⟩ else yearlyReturn trades capitalUsd) := by
  cases trades with
  | nil => exact absurd rfl h
  | cons first rest =>
    have hdays : 0 < daysBetween (earliestOpened first rest).openedAt
        (latestClosed first rest).closedAt := lt_max_of_lt_right one_pos
    rw [calculateApyLifetime, calculateSimpleApy]
    simp only [not_le.2 hdays, false_or]
    rfl

/-- The additional trades leave the printed lifetime APY alone: there are none; or there was a trade
before, and without capital nothing is computed, or profit and span have the same yearly return. -/
def LifetimeUnmoved (capitalUsd : Decimal) (trades all : List SnapshotTrade) : Prop :=
  all = [] ∨ (trades ≠ [] ∧ (capitalUsd = 0 ∨
    yearlyReturn (all.map SnapshotTrade.toRealizedTradePnl) capitalUsd =
      yearlyReturn (trades.map SnapshotTrade.toRealizedTradePnl) capitalUsd))

instance (capitalUsd : Decimal) (trades all : List SnapshotTrade) :
    Decidable (LifetimeUnmoved capitalUsd trades all) :=
  decidable_of_iff (all.isEmpty = true ∨ (trades.isEmpty = false ∧ (capitalUsd = 0 ∨
    yearlyReturn (all.map SnapshotTrade.toRealizedTradePnl) capitalUsd =
      yearlyReturn (trades.map SnapshotTrade.toRealizedTradePnl) capitalUsd)))
    (by rw [LifetimeUnmoved, List.isEmpty_iff, List.isEmpty_eq_false_iff])

theorem calculateApyLifetime_eq_iff (h : AddsUnconfirmed trades all) (capitalUsd : Decimal) :
    calculateApyLifetime (all.map SnapshotTrade.toRealizedTradePnl) capitalUsd =
        calculateApyLifetime (trades.map SnapshotTrade.toRealizedTradePnl) capitalUsd ↔
      LifetimeUnmoved capitalUsd trades all := by
  have hmap : ∀ {l : List SnapshotTrade}, l ≠ [] → l.map SnapshotTrade.toRealizedTradePnl ≠ [] :=
    fun hl => by rwa [ne_eq, List.map_eq_nil_iff]
  by_cases hall : all = []
  · have htrades : trades = [] := not_not.1 fun hne => h.ne_nil hne hall
    rw [hall, htrades]
    simp [LifetimeUnmoved]
  · rw [LifetimeUnmoved, or_iff_right hall, calculateApyLifetime_of_ne_nil (hmap hall)]
    by_cases htrades : trades = []
    · rw [htrades]
      simp [calculateApyLifetime]
    · rw [calculateApyLifetime_of_ne_nil (hmap htrades), and_iff_right htrades]
      by_cases hcapital : capitalUsd = 0
      · simp [hcapital]
      · simp [hcapital]

/-- A snapshot and the current state that is computed from it are the same with and without
additional unconfirmed trades exactly if these leave the lifetime APY alone. -/
theorem performance_unaffected_iff (clock : DayClock) (params : DailySnapshotParams)
    (targetApyPct : Decimal) {all : List SnapshotTrade} (h : AddsUnconfirmed params.trades all) :
    (calculateDailySnapshot clock { params with trades := all } =
        calculateDailySnapshot clock params ∧
      calculateApyCurrent params.sleeveId params.strategyId targetApyPct
          (some (calculateDailySnapshot clock { params with trades := all }).apys)
          (all.map SnapshotTrade.toRealizedTradePnl) =
        calculateApyCurrent params.sleeveId params.strategyId targetApyPct
          (some (calculateDailySnapshot clock params).apys)
          (params.trades.map SnapshotTrade.toRealizedTradePnl)) ↔
      LifetimeUnmoved params.totalCapitalUsd params.trades all := by
  have hfilter := h.filter_confirmed
  have hmap : (all.map SnapshotTrade.toRealizedTradePnl).filter (fun t => t.confirmed) =
      (params.trades.map SnapshotTrade.toRealizedTradePnl).filter fun t => t.confirmed := by
    rw [filter_map_confirmed, filter_map_confirmed, hfilter]
  have hsnapshot := calculateDailySnapshot_of_filter clock params hfilter
  rw [← calculateApyLifetime_eq_iff h]
  constructor
  · rintro ⟨hsame, -⟩
    rw [hsnapshot] at hsame
    exact congrArg DailySnapshot.realizedApyLifetime hsame
  · intro hlifetime
    have hsame : calculateDailySnapshot clock { params with trades := all } =
        calculateDailySnapshot clock params := by
      rw [hsnapshot, hlifetime]
      rfl
    exact ⟨hsame, by rw [hsame, calculateApyCurrent_of_filter _ _ _ _ hmap]⟩

def utcDays : DayClock where
  parse := fun _ => 0
  nextDay := fun date => date + millisPerDay

/-- A trade that is opened at the start of the day and closed during it. -/
def dayTrade (netPnl : Decimal) (confirmed : Bool) : SnapshotTrade where
  sleeveId := "carry"
  netPnl
  fundingPnl := 0
  feeCost := 0
  openedAt := 0
  closedAt := 1000
  confirmed
  grossPnl := netPnl
  holdingPeriodDays := 1

def sampleSnapshotParams : DailySnapshotParams where
  date := "1970-01-01"
  sleeveId := "carry"
  strategyId := "strategy"
  trades := [dayTrade 100 true]
  previousSnapshot := none
  totalCapitalUsd := 100000
  deployedCapitalUsd := 100000
  idleCapitalUsd := 0

/-- An unconfirmed profit that the rounding of the lifetime APY hides. -/
theorem performance_unaffected_sample :
    let all := sampleSnapshotParams.trades ++ [dayTrade (1 / 100000) false]
    calculateDailySnapshot utcDays { sampleSnapshotParams with trades := all } =
        calculateDailySnapshot utcDays sampleSnapshotParams ∧
      calculateApyCurrent "carry" "strategy" 10
          (some (calculateDailySnapshot utcDays { sampleSnapshotParams with trades := all }).apys)
          (all.map SnapshotTrade.toRealizedTradePnl) =
        calculateApyCurrent "carry" "strategy" 10
          (some (calculateDailySnapshot utcDays sampleSnapshotParams).apys)
          (sampleSnapshotParams.trades.map SnapshotTrade.toRealizedTradePnl) := by
  refine (performance_unaffected_iff utcDays sampleSnapshotParams 10 ?_).2 ?_
  · exact AddsUnconfirmed.append _ (by decide)
  · decide +kernel

/-- An unconfirmed profit of 900 beside a confirmed one of 100 is published: the lifetime APY is 365
instead of 36.5. -/
theorem unconfirmed_profit_published :
    let all := sampleSnapshotParams.trades ++ [dayTrade 900 false]
    AddsUnconfirmed sampleSnapshotParams.trades all ∧
      (calculateDailySnapshot utcDays sampleSnapshotParams).realizedApyLifetime =
        some ⟨"36.5000", .finite (73 / 2)⟩ ∧
      (calculateApyCurrent "carry" "strategy" 10
        (some (calculateDailySnapshot utcDays { sampleSnapshotParams with trades := all }).apys)
        (all.map SnapshotTrade.toRealizedTradePnl)).realizedApyLifetime =
          some ⟨"365.0000", .finite 365⟩ := by
  refine ⟨AddsUnconfirmed.append _ (by decide), ?_, ?_⟩
  · decide +kernel
  · decide +kernel

end SentinelApex
