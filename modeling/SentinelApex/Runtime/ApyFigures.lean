import Mathlib.Data.List.Sort
import SentinelApex.Carry.RealizedApy

/-!
# The stored APY

`updateApyCurrent` derives the APY figures of a sleeve from its confirmed trades, in the order in
which they were closed. The carry package derives the same figures; the two differ when the first
trade that was closed is not the first that was opened, and when there is no capital
(`writes_agrees_iff`).
-/

namespace SentinelApex

/-- The tables `realized_trade_pnl`, `portfolio_current` and `apy_current`. -/
structure ApyStore where
  trades : List RealizedTradePnl
  totalNav : Option Decimal
  apyCurrent : List ApyCurrent

namespace ApyStore

variable (store : ApyStore)

def confirmedTrades (sleeveId : String) : List RealizedTradePnl :=
  (store.trades.filter fun t => decide (t.sleeveId = sleeveId) && t.confirmed).insertionSort
    fun a b => a.closedAt ≤ b.closedAt

def totalCapitalUsd : Decimal := store.totalNav.getD 100000

/-- `pnl.div(capital).times(365 / days).times(100).toFixed(4)` over the trades of a window. -/
def windowApy (trades : List RealizedTradePnl) (windowDays : ℕ) (now : Date) : Option ApyText :=
  let windowStart := now - windowDays * millisPerDay
  let windowTrades := trades.filter fun t => decide (t.closedAt ≥ windowStart)
  if windowTrades.length > 0 then
    some (simpleApy (sumOf (fun t => t.netPnl) windowTrades) store.totalCapitalUsd
      windowDays).apyText
  else none

/-- The row for a list of trades; without trades the columns take their defaults. -/
def apyRow (sleeveId strategyId : String) (now : Date) : List RealizedTradePnl → ApyCurrent
  | [] =>
    { sleeveId
      strategyId
      realizedApy7d := none
      realizedApy30d := none
      realizedApyLifetime := none
      targetApyPct := 10
      projectedApyPct := none
      targetMet := none
      targetGapPct := none
      totalTradesClosed := 0
      totalPnlUsd := "0"
      totalFundingPnlUsd := "0"
      totalFeesUsd := "0"
      avgTradePnlUsd := none
      winRatePct := none
      firstTradeAt := none
      calculationBasis := .insufficientData }
  | firstTrade :: rest =>
    let trades := firstTrade :: rest
    let totalPnl := sumOf (fun t => t.netPnl) trades
    let totalFundingPnl := sumOf (fun t => t.fundingPnl) trades
    let totalFees := sumOf (fun t => t.feeCost) trades
    let avgPnl := totalPnl.div trades.length
    let lastTrade := trades.getLast (List.cons_ne_nil _ _)
    let days := daysBetween firstTrade.openedAt lastTrade.closedAt
    let lifetimeApy := (simpleApy totalPnl store.totalCapitalUsd days).apyText
    let apy7d := store.windowApy trades 7 now
    let apy30d := store.windowApy trades 30 now
    let currentApy := (apy30d.or apy7d).getD lifetimeApy
    { sleeveId
      strategyId
      realizedApy7d := apy7d
      realizedApy30d := apy30d
      realizedApyLifetime := some lifetimeApy
      targetApyPct := 10
      projectedApyPct := some currentApy
      targetMet := some (currentApy.value.gte 10)
      targetGapPct := some (currentApy.value.minus 10).apyText
      totalTradesClosed := trades.length
      totalPnlUsd := Decimal.toFixedAll totalPnl
      totalFundingPnlUsd := Decimal.toFixedAll totalFundingPnl
      totalFeesUsd := Decimal.toFixedAll totalFees
      avgTradePnlUsd := some (Decimal.toFixedAll avgPnl)
      winRatePct := some (Decimal.toFixed (winRate trades) 2)
      firstTradeAt := some firstTrade.openedAt
      calculationBasis := .liveTrades }

/-- The row that an update writes: without trades, only if there is none yet. -/
def writes (sleeveId strategyId : String) (now : Date) : Option ApyCurrent :=
  let trades := store.confirmedTrades sleeveId
  if trades.length = 0 ∧ (store.apyCurrent.any fun row => decide (row.sleeveId = sleeveId)) = true
  then none
  else some (store.apyRow sleeveId strategyId now trades)

def updateApyCurrent (sleeveId strategyId : String) (now : Date) : ApyStore :=
  match store.writes sleeveId strategyId now with
  | none => store
  | some written =>
    { store with
      apyCurrent :=
        if (store.apyCurrent.any fun row => decide (row.sleeveId = sleeveId)) = true then
          store.apyCurrent.map fun row =>
            if row.sleeveId = sleeveId then { written with strategyId := row.strategyId } else row
        else store.apyCurrent ++ [written] }

/-- What the carry package computes from the same trades. -/
def libraryRow (sleeveId strategyId : String) (now : Date) : ApyCurrent :=
  let trades := store.confirmedTrades sleeveId
  { calculateApyCurrent sleeveId strategyId 10 none trades with
    realizedApy7d := calculateApy7d trades store.totalCapitalUsd now
    realizedApy30d := calculateApy30d trades store.totalCapitalUsd now
    realizedApyLifetime := calculateApyLifetime trades store.totalCapitalUsd }

end ApyStore

/-- The rows agree in the APYs, the totals, the win rate and the time of the first trade. -/
structure ApyCurrent.SameFigures (row library : ApyCurrent) : Prop where
  realizedApy7d : row.realizedApy7d = library.realizedApy7d
  realizedApy30d : row.realizedApy30d = library.realizedApy30d
  realizedApyLifetime : row.realizedApyLifetime = library.realizedApyLifetime
  totalTradesClosed : row.totalTradesClosed = library.totalTradesClosed
  totalPnlUsd : row.totalPnlUsd = library.totalPnlUsd
  totalFundingPnlUsd : row.totalFundingPnlUsd = library.totalFundingPnlUsd
  totalFeesUsd : row.totalFeesUsd = library.totalFeesUsd
  avgTradePnlUsd : row.avgTradePnlUsd = library.avgTradePnlUsd
  winRatePct : row.winRatePct = library.winRatePct
  firstTradeAt : row.firstTradeAt = library.firstTradeAt

namespace ApyStore

variable {store : ApyStore} {sleeveId : String}

theorem mem_confirmedTrades {t : RealizedTradePnl} :
    t ∈ store.confirmedTrades sleeveId ↔
      t ∈ store.trades ∧ t.sleeveId = sleeveId ∧ t.confirmed = true := by
  rw [confirmedTrades, List.mem_insertionSort, List.mem_filter, Bool.and_eq_true,
    decide_eq_true_eq]

theorem confirmedTrades_sorted (store : ApyStore) (sleeveId : String) :
    (store.confirmedTrades sleeveId).Pairwise fun a b => a.closedAt ≤ b.closedAt := by
  have : Std.Total fun a b : RealizedTradePnl => a.closedAt ≤ b.closedAt :=
    ⟨fun a b => le_total a.closedAt b.closedAt⟩
  have : IsTrans RealizedTradePnl fun a b => a.closedAt ≤ b.closedAt :=
    ⟨fun _ _ _ => le_trans⟩
  exact List.pairwise_insertionSort _ _

/-- With capital, a window counts the same for both. -/
theorem windowApy_eq {trades : List RealizedTradePnl} {now : Date} (windowDays : ℕ)
    (hdays : 0 < windowDays) (hcapital : store.totalCapitalUsd ≠ 0)
    (hclosed : ∀ t ∈ trades, t.closedAt ≤ now ∧ t.confirmed = true) :
    store.windowApy trades windowDays now =
      calculateRollingApy trades store.totalCapitalUsd windowDays now := by
  have hfilter : (trades.filter fun t => decide (t.closedAt ≥ now - windowDays * millisPerDay)) =
      trades.filter fun t => decide (t.closedAt ≥ now - windowDays * millisPerDay ∧
        t.closedAt ≤ now) && t.confirmed := by
    apply List.filter_congr
    intro t ht
    simp [hclosed t ht]
  have hpos : ¬ (((windowDays : ℕ) : Number) ≤ 0 ∨ store.totalCapitalUsd = 0) := by
    rintro (hle | hzero)
    · have hlt : (0 : Number) < windowDays := by exact_mod_cast hdays
      exact absurd hle (not_le.2 hlt)
    · exact hcapital hzero
  unfold windowApy calculateRollingApy
  dsimp only
  rw [hfilter, calculateSimpleApy, if_neg hpos]
  split_ifs with h₁ h₂ h₂
  · omega
  · rfl
  · rfl
  · omega

theorem simpleApy_zero_ne (pnl : Decimal) (days : Number) :
    (simpleApy pnl 0 days).apyText ≠ ⟨"0", .finite 0⟩ := by
  intro heq
  have hfinite : ((simpleApy pnl 0 days).roundPlaces 4).isFinite = true := by
    rw [show (simpleApy pnl 0 days).roundPlaces 4 = .finite 0 from congrArg ApyText.value heq]
    rfl
  simp [simpleApy] at hfinite

variable {rest : List RealizedTradePnl} {first : RealizedTradePnl}

theorem getLast_closedAt (hsorted : (first :: rest).Pairwise fun a b => a.closedAt ≤ b.closedAt) :
    ((first :: rest).getLast (List.cons_ne_nil _ _)).closedAt =
      (latestClosed first rest).closedAt := by
  obtain ⟨hmem, hlatest⟩ := latestClosed_spec first rest
  apply le_antisymm
  · exact hlatest _ (List.getLast_mem _)
  · have hsplit := List.dropLast_append_getLast (List.cons_ne_nil first rest)
    rw [← hsplit] at hmem hsorted
    rcases List.mem_append.1 hmem with hmem | hmem
    · exact (List.pairwise_append.1 hsorted).2.2 _ hmem _ (List.mem_singleton.2 rfl)
    · rw [List.mem_singleton.1 hmem]

theorem daysBetween_pos (openedAt closedAt : Date) : 0 < daysBetween openedAt closedAt :=
  lt_of_lt_of_le one_pos (le_max_right _ _)

theorem apyRow_sameFigures_iff (strategyId : String) {now : Date}
    (htrades : store.confirmedTrades sleeveId = first :: rest)
    (hclosed : ∀ t ∈ first :: rest, t.closedAt ≤ now) :
    (store.apyRow sleeveId strategyId now (first :: rest)).SameFigures
        (store.libraryRow sleeveId strategyId now) ↔
      store.totalCapitalUsd ≠ 0 ∧ ∀ t ∈ first :: rest, first.openedAt ≤ t.openedAt := by
  have hconfirmed : ∀ t ∈ first :: rest, t.confirmed = true := by
    intro t ht
    rw [← htrades] at ht
    exact (mem_confirmedTrades.1 ht).2.2
  have hfilter : (first :: rest).filter (fun t => t.confirmed) = first :: rest :=
    List.filter_eq_self.2 hconfirmed
  have hlast := getLast_closedAt (htrades ▸ confirmedTrades_sorted store sleeveId)
  obtain ⟨hmem, hearliest⟩ := earliestOpened_spec first rest
  unfold libraryRow calculateApyCurrent
  simp only [htrades, hfilter]
  constructor
  · intro hsame
    have hfirst : first.openedAt = (earliestOpened first rest).openedAt :=
      Option.some.inj hsame.firstTradeAt
    refine ⟨?_, fun t ht => hfirst.le.trans (hearliest t ht)⟩
    intro hzero
    have hlifetime := Option.some.inj hsame.realizedApyLifetime
    rw [calculateSimpleApy, if_pos (Or.inr hzero), hzero] at hlifetime
    exact simpleApy_zero_ne _ _ hlifetime
  · rintro ⟨hcapital, hfirst⟩
    have hopened : (earliestOpened first rest).openedAt = first.openedAt :=
      le_antisymm (hearliest first List.mem_cons_self) (hfirst _ hmem)
    have hwindow : ∀ t ∈ first :: rest, t.closedAt ≤ now ∧ t.confirmed = true :=
      fun t ht => ⟨hclosed t ht, hconfirmed t ht⟩
    have hpos : ¬ (daysBetween first.openedAt (latestClosed first rest).closedAt ≤ 0 ∨
        store.totalCapitalUsd = 0) := by
      rintro (hle | hzero)
      · exact absurd hle (not_le.2 (daysBetween_pos _ _))
      · exact hcapital hzero
    constructor
    case realizedApy7d => exact windowApy_eq 7 (by decide) hcapital hwindow
    case realizedApy30d => exact windowApy_eq 30 (by decide) hcapital hwindow
    case realizedApyLifetime =>
      show some _ = some _
      rw [hopened, calculateSimpleApy, if_neg hpos, ← hlast]
    case firstTradeAt => exact congrArg some hopened.symm
    all_goals rfl

/-- The figures that an update writes are those of the library exactly if there is capital and the
first trade that was closed is the first that was opened. -/
theorem writes_agrees_iff (store : ApyStore) (sleeveId strategyId : String) (now : Date)
    (hclosed : ∀ t ∈ store.confirmedTrades sleeveId, t.closedAt ≤ now) :
    (∀ row, store.writes sleeveId strategyId now = some row →
        row.SameFigures (store.libraryRow sleeveId strategyId now)) ↔
      ∀ first, (store.confirmedTrades sleeveId).head? = some first →
        store.totalCapitalUsd ≠ 0 ∧
          ∀ t ∈ store.confirmedTrades sleeveId, first.openedAt ≤ t.openedAt := by
  unfold writes
  cases htrades : store.confirmedTrades sleeveId with
  | nil =>
    have hnone : ∀ first : RealizedTradePnl, [].head? = some first → False :=
      fun first hfirst => by cases hfirst
    refine ⟨fun _ first hfirst => (hnone first hfirst).elim, fun _ row hrow => ?_⟩
    dsimp only at hrow
    split_ifs at hrow
    rw [← Option.some.inj hrow]
    unfold libraryRow
    rw [htrades]
    constructor <;> rfl
  | cons first rest =>
    rw [htrades] at hclosed
    rw [if_neg (by simp)]
    have hiff := apyRow_sameFigures_iff strategyId htrades hclosed
    constructor
    · intro hsame head hhead
      rw [← Option.some.inj hhead]
      exact hiff.1 (hsame _ rfl)
    · intro hcondition row hrow
      rw [← Option.some.inj hrow]
      exact hiff.2 (hcondition first rfl)

def sampleTrade (openedAt closedAt : Date) : RealizedTradePnl where
  sleeveId := "carry"
  netPnl := 100
  fundingPnl := 0
  feeCost := 0
  openedAt := openedAt * millisPerDay
  closedAt := closedAt * millisPerDay
  confirmed := true

def sampleApyStore (totalNav : Option Decimal) (trades : List RealizedTradePnl) : ApyStore where
  trades
  totalNav
  apyCurrent := []

theorem writes_agrees_sample :
    ∃ row, (sampleApyStore none [sampleTrade 0 2, sampleTrade 1 3]).writes "carry" "strategy"
        (4 * millisPerDay) = some row ∧
      row.SameFigures ((sampleApyStore none [sampleTrade 0 2, sampleTrade 1 3]).libraryRow "carry"
        "strategy" (4 * millisPerDay)) := by
  refine ⟨_, rfl, (writes_agrees_iff _ _ _ _ ?_).2 ?_ _ rfl⟩
  · decide
  · intro first hfirst
    obtain rfl : sampleTrade 0 2 = first := Option.some.inj hfirst
    decide

/-- A long trade that was opened before a short one and closed after it; and no capital. -/
theorem writes_disagrees :
    (∃ row, (sampleApyStore none [sampleTrade 0 300, sampleTrade 290 291]).writes "carry" "strategy"
        (300 * millisPerDay) = some row ∧
      row.realizedApyLifetime ≠ ((sampleApyStore none [sampleTrade 0 300,
        sampleTrade 290 291]).libraryRow "carry" "strategy"
          (300 * millisPerDay)).realizedApyLifetime) ∧
    ∃ row, (sampleApyStore (some 0) [sampleTrade 0 2]).writes "carry" "strategy"
        (4 * millisPerDay) = some row ∧
      row.realizedApy7d ≠ ((sampleApyStore (some 0) [sampleTrade 0 2]).libraryRow "carry" "strategy"
          (4 * millisPerDay)).realizedApy7d := by
  constructor
  all_goals
    refine ⟨_, rfl, ?_⟩
    decide +kernel

end ApyStore

end SentinelApex
