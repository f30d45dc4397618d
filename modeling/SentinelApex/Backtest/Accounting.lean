import SentinelApex.Backtest.Steps
import SentinelApex.Lib.Drift

/-!
# The accounts of a backtest

The value of the portfolio at the end of a day against the capital, the profits, the funding and the
fees. In every run the difference is, up to the roundings of `decimal.js`, what is unaccounted for
(`abs_gap_sub_unaccounted_le`): what the open legs are worth beyond their cost and profit, the
notional amounts of the exits, and the funding, which is never added to the cash.
-/

namespace SentinelApex.Backtest

open Runs Drift

variable {config : BacktestConfig} {s : BacktestState}

/-! ## Cash and fees -/

/-- What a trade adds to the cash, in the order in which it is booked. -/
def BacktestTrade.flows (trade : BacktestTrade) : List Decimal :=
  match trade.realizedPnl with
  | none => [-trade.notionalUsd, -trade.fees]
  | some pnl => [trade.notionalUsd, pnl, -trade.fees]

/-- The cash and the fees are those of the recorded trades. -/
structure Booked (config : BacktestConfig) (s : BacktestState) : Prop where
  cash : s.cashBalance =
    accumulate decimalJs.round config.initialCapitalUsd (s.trades.flatMap BacktestTrade.flows)
  fees : s.totalFees = accumulate decimalJs.round 0 (s.trades.map fun t => t.fees)

variable {trade : BacktestTrade}

theorem Booked.bookEntryTrade (h : Booked config s) (hentry : trade.realizedPnl = none) :
    Booked config (bookEntryTrade s trade) where
  cash := by
    simp only [Backtest.bookEntryTrade, List.flatMap_append, accumulate_append, ← h.cash,
      List.flatMap_singleton, BacktestTrade.flows, hentry, accumulate_cons, accumulate_nil,
      Decimal.minus, sub_eq_add_neg]
  fees := by
    simp only [Backtest.bookEntryTrade, List.map_append, accumulate_append, ← h.fees,
      List.map_singleton, accumulate_cons, accumulate_nil, Decimal.plus]

theorem Booked.bookExitTrade (h : Booked config s) {pnl : Decimal}
    (hexit : trade.realizedPnl = some pnl) : Booked config (bookExitTrade s trade) where
  cash := by
    simp only [Backtest.bookExitTrade, List.flatMap_append, accumulate_append, ← h.cash,
      List.flatMap_singleton, BacktestTrade.flows, hexit, accumulate_cons, accumulate_nil,
      Option.getD_some, Decimal.minus, Decimal.plus, sub_eq_add_neg]
  fees := by
    simp only [Backtest.bookExitTrade, List.map_append, accumulate_append, ← h.fees,
      List.map_singleton, accumulate_cons, accumulate_nil, Decimal.plus]

theorem Booked.processPoint (h : Booked config s) (data : MarketDataPoint) :
    Booked config (processPoint config s data) := by
  have hsignal : Booked config (handleSignal config s data) := by
    generalize handleSignal config s data = s', handleSignal_step config s data = hstep
    cases hstep with
    | hold => exact h
    | enter spot perp _ hspot hperp =>
      exact (h.bookEntryTrade hspot.realizedPnl_eq).bookEntryTrade hperp.realizedPnl_eq
    | exit trade pnl _ hpnl =>
      have hbooked := h.bookExitTrade hpnl
      exact ⟨hbooked.cash, hbooked.fees⟩
  obtain ⟨positions, paid, received, heq, -⟩ := handleFunding_eq (handleSignal config s data) data
  rw [Backtest.processPoint, heq]
  exact ⟨hsignal.cash, hsignal.fees⟩

theorem keptBy_booked (P : BacktestState → MarketDataPoint → Prop) :
    KeptBy config P (Booked config) where
  point _ data h _ := h.processPoint data
  dayTrades _ _ h := ⟨h.cash, h.fees⟩
  dailySnapshots _ _ h := ⟨h.cash, h.fees⟩

theorem booked_initial (config : BacktestConfig) : Booked config (.initial config) := ⟨rfl, rfl⟩

/-! ## Figures as totals -/

section

variable (prices : OrderedMap String MarketPrices)

/-- What a position adds to a figure; a position without a price adds nothing. -/
def amountsAt (f : BacktestPosition → Decimal → Decimal) (positions : List BacktestPosition) :
    List Decimal :=
  positions.filterMap fun p => (currentPrice prices p).map (f p)

theorem foldl_plus_eq_accumulate (f : BacktestPosition → Decimal → Decimal) (start : Decimal)
    (positions : List BacktestPosition) :
    positions.foldl (fun acc p => match currentPrice prices p with
      | some price => acc.plus (f p price)
      | none => acc) start =
      accumulate decimalJs.round start (amountsAt prices f positions) := by
  induction positions generalizing start with
  | nil => rfl
  | cons p positions ih =>
    rw [List.foldl_cons, ih, amountsAt, amountsAt, List.filterMap_cons]
    cases currentPrice prices p <;> rfl

theorem calculatePortfolioValue_eq (cash : Decimal) (positions : List BacktestPosition) :
    calculatePortfolioValue cash positions prices =
      accumulate decimalJs.round cash (amountsAt prices BacktestPosition.value positions) :=
  foldl_plus_eq_accumulate prices _ cash positions

theorem calculateUnrealizedPnl_eq (positions : List BacktestPosition) :
    calculateUnrealizedPnl positions prices =
      accumulate decimalJs.round 0 (amountsAt prices BacktestPosition.pnl positions) :=
  foldl_plus_eq_accumulate prices _ 0 positions

end

def BacktestTrade.realized (trade : BacktestTrade) : Decimal := trade.realizedPnl.getD 0

theorem realizedPnl_eq (trades : List BacktestTrade) :
    realizedPnl trades = accumulate decimalJs.round 0 (trades.map BacktestTrade.realized) := by
  rw [accumulate, List.foldl_map]
  rfl

/-! ## The difference -/

/-- What a trade takes out of the cash, or an exit puts in, besides its profit and its fees. -/
def BacktestTrade.principal (trade : BacktestTrade) : Decimal :=
  match trade.realizedPnl with
  | none => -trade.notionalUsd
  | some _ => trade.notionalUsd

theorem sum_flows (trades : List BacktestTrade) :
    (trades.flatMap BacktestTrade.flows).sum = (trades.map BacktestTrade.principal).sum +
      (trades.map BacktestTrade.realized).sum - (trades.map fun t => t.fees).sum := by
  induction trades with
  | nil => simp
  | cons t trades ih =>
    have hflows : t.flows.sum = t.principal + t.realized - t.fees := by
      unfold BacktestTrade.flows BacktestTrade.principal BacktestTrade.realized
      cases t.realizedPnl <;> simp <;> ring
    rw [List.flatMap_cons, List.sum_append, ih, hflows, List.map_cons, List.map_cons,
      List.map_cons, List.sum_cons, List.sum_cons, List.sum_cons]
    ring

def BacktestPosition.exactValue (position : BacktestPosition) (price : Decimal) : Decimal :=
  position.size * price

/-- The profit of a position, unrounded. -/
def BacktestPosition.exactPnl (position : BacktestPosition) (price : Decimal) : Decimal :=
  match position.side with
  | .long => (price - position.avgEntryPrice) * position.size
  | .short => (position.avgEntryPrice - price) * position.size

section

variable (config) (s) (day : DayData)

/-- The value of the portfolio at the end of a day, less the capital, the profits, the funding and
the fees. -/
def gap : Decimal :=
  let snapshot := dailySnapshot s day
  snapshot.portfolioValue - (config.initialCapitalUsd + snapshot.realizedPnl +
    snapshot.unrealizedPnl + (s.totalFundingReceived + s.totalFundingPaid) - snapshot.totalFees)

/-- What the figures leave out: the open legs beyond their cost and their profit, the principals of
the exits, and the funding. -/
def unaccounted : Decimal :=
  let prices := getLatestPrices day.dataPoints
  (s.trades.map BacktestTrade.principal).sum +
    (amountsAt prices BacktestPosition.exactValue s.positions.values).sum -
    (amountsAt prices BacktestPosition.exactPnl s.positions.values).sum -
    (s.totalFundingReceived + s.totalFundingPaid)

/-- The roundings of `decimal.js` in the figures of a day: of the totals, and of the values and the
profits that they add. -/
def roundingError : Decimal :=
  let prices := getLatestPrices day.dataPoints
  let positions := s.positions.values
  let r := decimalJs.round
  drift r config.initialCapitalUsd (s.trades.flatMap BacktestTrade.flows) +
    drift r 0 (s.trades.map fun t => t.fees) +
    drift r 0 (s.trades.map BacktestTrade.realized) +
    drift r s.cashBalance (amountsAt prices BacktestPosition.value positions) +
    drift r 0 (amountsAt prices BacktestPosition.pnl positions) +
    |(amountsAt prices BacktestPosition.value positions).sum -
      (amountsAt prices BacktestPosition.exactValue positions).sum| +
    |(amountsAt prices BacktestPosition.pnl positions).sum -
      (amountsAt prices BacktestPosition.exactPnl positions).sum|

end

/-- In every run, what is unaccounted for is the difference but for the roundings. -/
theorem abs_gap_sub_unaccounted_le (h : Booked config s) (day : DayData) :
    |gap config s day - unaccounted s day| ≤ roundingError config s day := by
  set prices := getLatestPrices day.dataPoints with hprices
  set positions := s.positions.values with hpositions
  set values := (amountsAt prices BacktestPosition.value positions).sum with hvalues
  set exactValues := (amountsAt prices BacktestPosition.exactValue positions).sum with hexactValues
  set pnls := (amountsAt prices BacktestPosition.pnl positions).sum with hpnls
  set exactPnls := (amountsAt prices BacktestPosition.exactPnl positions).sum with hexactPnls
  have hcash := abs_accumulate_sub_le decimalJs.round config.initialCapitalUsd
    (s.trades.flatMap BacktestTrade.flows)
  have hfees := abs_accumulate_sub_le decimalJs.round 0 (s.trades.map fun t => t.fees)
  have hrealized := abs_accumulate_sub_le decimalJs.round 0
    (s.trades.map BacktestTrade.realized)
  have hvalue := abs_accumulate_sub_le decimalJs.round s.cashBalance
    (amountsAt prices BacktestPosition.value positions)
  have hpnl := abs_accumulate_sub_le decimalJs.round 0
    (amountsAt prices BacktestPosition.pnl positions)
  rw [← h.cash, sum_flows] at hcash
  rw [← h.fees] at hfees
  simp only [gap, unaccounted, roundingError, dailySnapshot, calculatePortfolioValue_eq,
    calculateUnrealizedPnl_eq, realizedPnl_eq, ← hprices, ← hpositions, ← hvalues, ← hexactValues,
    ← hpnls, ← hexactPnls]
  rw [← hvalues] at hvalue
  rw [← hpnls] at hpnl
  rw [abs_le] at hcash hfees hrealized hvalue hpnl ⊢
  have hvalueErrors := abs_le.1 (le_refl |values - exactValues|)
  have hpnlErrors := abs_le.1 (le_refl |pnls - exactPnls|)
  constructor <;> linarith

/-! ## Runs without exits and funding -/

/-- No exit is executed, and no short perp is open when a funding rate other than zero is
applied. -/
structure PointKept (config : BacktestConfig) (s : BacktestState) (data : MarketDataPoint) :
    Prop where
  noExit : ¬ ExitTaken config s data
  noFunding : data.fundingRate = 0 ∨
    ∀ p ∈ (handleSignal config s data).positions.values, ¬ p.IsShortPerp

instance (config : BacktestConfig) (s : BacktestState) (data : MarketDataPoint) :
    Decidable (PointKept config s data) :=
  decidable_of_iff (¬ ExitTaken config s data ∧ (data.fundingRate = 0 ∨
    ∀ p ∈ (handleSignal config s data).positions.values, ¬ p.IsShortPerp))
    ⟨fun h => ⟨h.1, h.2⟩, fun h => ⟨h.1, h.2⟩⟩

/-- The cost of the open legs is the principal of the trades, and there was no funding. -/
structure Unfunded (s : BacktestState) : Prop where
  keyed : Keyed s.positions
  cost : (s.trades.map BacktestTrade.principal).sum =
    -(s.positions.values.map fun p => p.notionalUsd).sum
  received : s.totalFundingReceived = 0
  paid : s.totalFundingPaid = 0

theorem sum_notional_set {positions : Positions} {k : String} (hnone : positions.get? k = none)
    (position : BacktestPosition) :
    ((positions.set k position).values.map fun p => p.notionalUsd).sum =
      (positions.values.map fun p => p.notionalUsd).sum + position.notionalUsd := by
  have h := OrderedMap.sumOf_set (fun _ p => p.notionalUsd) positions k position
  simpa [OrderedMap.sumOf, OrderedMap.contribution, OrderedMap.values, hnone,
    Function.comp_def] using h

theorem Unfunded.bookEntryTrade (h : Unfunded s) (hentry : trade.realizedPnl = none)
    (hnone : s.positions.get? (positionKey trade.asset trade.marketType) = none) :
    Unfunded (bookEntryTrade s trade) where
  keyed := h.keyed.updatePositionFromTrade trade
  cost := by
    simp only [Backtest.bookEntryTrade, updatePositionFromTrade, hnone, sum_notional_set hnone,
      List.map_append, List.sum_append, h.cost, List.map_singleton, List.sum_singleton,
      BacktestTrade.principal, hentry]
    ring
  received := h.received
  paid := h.paid

theorem Unfunded.bookFunding (h : Unfunded s) {payment : FundingPayment}
    (hzero : payment.amount = 0) : Unfunded (bookFunding s payment) := by
  obtain ⟨positions, paid, received, heq, hentries⟩ := bookFunding_eq s payment
  have hcost := sumOf_eq_of_withoutFunding hentries (fun p => p.notionalUsd) fun _ => rfl
  have hreceived : (Backtest.bookFunding s payment).totalFundingReceived = 0 := by
    unfold Backtest.bookFunding
    dsimp only
    rw [if_pos hzero.ge]
    split <;> simp [h.received, hzero, Decimal.plus]
  have hpaid : (Backtest.bookFunding s payment).totalFundingPaid = 0 := by
    unfold Backtest.bookFunding
    dsimp only
    rw [if_pos hzero.ge]
    split <;> exact h.paid
  rw [heq] at hreceived hpaid ⊢
  exact ⟨h.keyed.of_withoutFunding hentries, h.cost.trans (congrArg _ hcost.symm), hreceived, hpaid⟩

variable {positions : List BacktestPosition}

theorem amount_eq_zero {data : MarketDataPoint}
    (h : data.fundingRate = 0 ∨ ∀ p ∈ positions, ¬ p.IsShortPerp) :
    ∀ payment ∈ applyFundingPayments data positions, payment.amount = 0 := by
  intro payment hmem
  obtain ⟨p, hp, rfl⟩ := List.mem_map.1 hmem
  obtain ⟨hposition, hshort⟩ := List.mem_filter.1 hp
  rcases h with hrate | hnone
  · unfold calculateFundingPayment
    dsimp only
    split <;> simp [hrate, Decimal.times]
  · exact absurd (of_decide_eq_true hshort) (hnone p hposition)

theorem Unfunded.processPoint (h : Unfunded s) {data : MarketDataPoint}
    (hkept : PointKept config s data) : Unfunded (processPoint config s data) := by
  have hsignal : Unfunded (handleSignal config s data) := by
    generalize handleSignal config s data = s', handleSignal_step config s data = hstep
    cases hstep with
    | hold => exact h
    | enter spot perp hnone hspot hperp =>
      have hspotKey : s.positions.get? (positionKey spot.asset spot.marketType) = none := by
        rw [hspot.asset_eq]
        exact h.keyed.get?_eq_none hnone _
      have hspotBooked := h.bookEntryTrade hspot.realizedPnl_eq hspotKey
      refine hspotBooked.bookEntryTrade hperp.realizedPnl_eq ?_
      simp only [Backtest.bookEntryTrade, updatePositionFromTrade, hspotKey]
      rw [OrderedMap.get?_set_of_ne, hperp.asset_eq, hperp.marketType_eq]
      · exact h.keyed.get?_eq_none hnone _
      · rw [hspot.asset_eq, hspot.marketType_eq, hperp.asset_eq, hperp.marketType_eq]
        intro hkeys
        cases (positionKey_inj hkeys).2
    | exit trade pnl htaken => exact absurd htaken hkept.noExit
  rw [Backtest.processPoint, handleFunding]
  have hzero := amount_eq_zero hkept.noFunding
  generalize applyFundingPayments data (handleSignal config s data).positions.values = payments
    at hzero
  generalize handleSignal config s data = s' at hsignal
  induction payments generalizing s' with
  | nil => exact hsignal
  | cons payment payments ih =>
    exact ih (fun p hp => hzero p (List.mem_cons_of_mem _ hp)) _
      (hsignal.bookFunding (hzero payment List.mem_cons_self))

theorem keptBy_unfunded (config : BacktestConfig) :
    KeptBy config (PointKept config) Unfunded where
  point _ _ h hkept := h.processPoint hkept
  dayTrades _ _ h := ⟨h.keyed, h.cost, h.received, h.paid⟩
  dailySnapshots _ _ h := ⟨h.keyed, h.cost, h.received, h.paid⟩

theorem unfunded_initial (config : BacktestConfig) : Unfunded (.initial config) :=
  ⟨keyed_initial config, by simp [BacktestState.initial, OrderedMap.values, OrderedMap.empty],
    rfl, rfl⟩

/-! ## The end of a day -/

/-- What slippage has added to the cost of a position, or taken from it. -/
def BacktestPosition.slippage (position : BacktestPosition) : Decimal :=
  |position.size * position.avgEntryPrice - position.notionalUsd|

def slippageCost (positions : List BacktestPosition) : Decimal :=
  (positions.map BacktestPosition.slippage).sum

/-- The accounting identity at the end of a day. -/
def Balanced (config : BacktestConfig) (s : BacktestState) (day : DayData) : Prop :=
  |gap config s day| ≤ slippageCost s.positions.values + roundingError config s day

instance (day : DayData) : Decidable (Balanced config s day) :=
  inferInstanceAs (Decidable (_ ≤ _))

/-- The accounting identity holds at the end of every day of a run. -/
def DaysBalanced (config : BacktestConfig) (marketData : List MarketDataPoint) : Prop :=
  Along (processDay config) (fun s day => Balanced config (processPoints config s day) day)
    (.initial config) (groupDataByDay marketData)

instance (marketData : List MarketDataPoint) : Decidable (DaysBalanced config marketData) :=
  inferInstanceAs (Decidable (Along _ _ _ _))

/-- A leg with a price that day; a short one at a price between its entry price and the price of the
market at its entry. -/
def LegKept (prices : OrderedMap String MarketPrices) (position : BacktestPosition) : Prop :=
  match currentPrice prices position with
  | none => False
  | some price => position.side = .short → position.size * price ∈
      Set.uIcc (position.size * position.avgEntryPrice) position.notionalUsd

instance (prices : OrderedMap String MarketPrices) (position : BacktestPosition) :
    Decidable (LegKept prices position) := by
  unfold LegKept
  cases currentPrice prices position with
  | none => exact inferInstanceAs (Decidable False)
  | some price => exact inferInstanceAs (Decidable (_ → _ ≤ _ ∧ _ ≤ _))

/-- What a leg is worth beyond its cost and its profit is at most its slippage. -/
theorem LegKept.surplus_le {prices : OrderedMap String MarketPrices} {position : BacktestPosition}
    (h : LegKept prices position) :
    ∃ price, currentPrice prices position = some price ∧
      |position.exactValue price - position.exactPnl price - position.notionalUsd| ≤
        position.slippage := by
  unfold LegKept at h
  cases hprice : currentPrice prices position with
  | none =>
    rw [hprice] at h
    exact h.elim
  | some price =>
    rw [hprice] at h
    refine ⟨price, rfl, ?_⟩
    unfold BacktestPosition.exactValue BacktestPosition.exactPnl BacktestPosition.slippage
    cases hside : position.side with
    | long =>
      refine le_of_eq (congrArg _ ?_)
      dsimp only
      ring
    | short =>
      dsimp only
      rcases Set.mem_uIcc.1 (h hside) with ⟨hlow, hhigh⟩ | ⟨hlow, hhigh⟩
      · rw [abs_of_nonpos (sub_nonpos.2 (hlow.trans hhigh)), abs_le]
        constructor <;> linarith
      · rw [abs_of_nonneg (sub_nonneg.2 (hlow.trans hhigh)), abs_le]
        constructor <;> linarith

theorem abs_amounts_le (prices : OrderedMap String MarketPrices)
    (h : ∀ p ∈ positions, LegKept prices p) :
    |(amountsAt prices BacktestPosition.exactValue positions).sum -
        (amountsAt prices BacktestPosition.exactPnl positions).sum -
        (positions.map fun p => p.notionalUsd).sum| ≤ slippageCost positions := by
  induction positions with
  | nil => simp [amountsAt, slippageCost]
  | cons p positions ih =>
    obtain ⟨price, hprice, hp⟩ := (h p List.mem_cons_self).surplus_le
    have hrest := ih fun q hq => h q (List.mem_cons_of_mem _ hq)
    have hcons (f : BacktestPosition → Decimal → Decimal) :
        (amountsAt prices f (p :: positions)).sum =
          f p price + (amountsAt prices f positions).sum := by
      simp [amountsAt, hprice]
    have hcost : slippageCost (p :: positions) = p.slippage + slippageCost positions := by
      simp [slippageCost]
    rw [hcons, hcons, hcost, List.map_cons, List.sum_cons]
    rw [abs_le] at hp hrest ⊢
    constructor <;> linarith [hp.1, hp.2, hrest.1, hrest.2]

/-- The points of a day are kept, and so are the legs that are open at its end. -/
structure DayKept (config : BacktestConfig) (s : BacktestState) (day : DayData) : Prop where
  points : Along (processPoint config) (PointKept config) { s with dayTrades := [] } day.dataPoints
  legs : ∀ p ∈ (processPoints config s day).positions.values,
    LegKept (getLatestPrices day.dataPoints) p

instance (day : DayData) : Decidable (DayKept config s day) :=
  decidable_of_iff (Along (processPoint config) (PointKept config) { s with dayTrades := [] }
      day.dataPoints ∧ ∀ p ∈ (processPoints config s day).positions.values,
        LegKept (getLatestPrices day.dataPoints) p)
    ⟨fun h => ⟨h.1, h.2⟩, fun h => ⟨h.1, h.2⟩⟩

theorem Unfunded.balanced {day : DayData} (h : Unfunded s) (hbooked : Booked config s)
    (hlegs : ∀ p ∈ s.positions.values, LegKept (getLatestPrices day.dataPoints) p) :
    Balanced config s day := by
  have hunaccounted : unaccounted s day =
      (amountsAt (getLatestPrices day.dataPoints) BacktestPosition.exactValue
        s.positions.values).sum -
      (amountsAt (getLatestPrices day.dataPoints) BacktestPosition.exactPnl
        s.positions.values).sum - (s.positions.values.map fun p => p.notionalUsd).sum := by
    rw [unaccounted, h.cost, h.received, h.paid]
    ring
  have hslippage : |unaccounted s day| ≤ slippageCost s.positions.values :=
    hunaccounted ▸ abs_amounts_le _ hlegs
  calc |gap config s day| = |unaccounted s day + (gap config s day - unaccounted s day)| := by
        rw [add_sub_cancel]
    _ ≤ |unaccounted s day| + |gap config s day - unaccounted s day| := abs_add_le _ _
    _ ≤ slippageCost s.positions.values + roundingError config s day :=
        add_le_add hslippage (abs_gap_sub_unaccounted_le hbooked day)

/-- The identity holds at the end of every day of a run whose days are all kept. -/
theorem balanced_of_along (config : BacktestConfig) (marketData : List MarketDataPoint)
    (h : Along (processDay config) (DayKept config) (.initial config) (groupDataByDay marketData)) :
    DaysBalanced config marketData := by
  have hbooked : KeptBy config (PointKept config) (Booked config) := keptBy_booked _
  have hunfunded := keptBy_unfunded config
  refine Along.mono_of_invariant (I := fun s => Unfunded s ∧ Booked config s) ?_ ?_ h
    ⟨unfunded_initial config, booked_initial config⟩
  · intro s day hs hday
    exact ⟨hunfunded.processDay hs.1 hday.points, hbooked.processDay hs.2 hday.points⟩
  · intro s day hs hday
    exact (hunfunded.processPoints hs.1 hday.points).balanced
      (hbooked.processPoints hs.2 hday.points) hday.legs

theorem balanced_of_along_sample :
    (runSimulation oneDayConfig
      [btcPoint 0 50000 50100 0, btcPoint 8 50000 50090 0]).trades.length = 2 ∧
      DaysBalanced oneDayConfig [btcPoint 0 50000 50100 0, btcPoint 8 50000 50090 0] :=
  ⟨by decide +kernel, balanced_of_along oneDayConfig _ (by decide +kernel)⟩

/-- The price of the short leg rises; the second run has a funding rate that the short leg pays. -/
theorem not_balanced :
    (validateBacktestConfig oneDayConfig).valid = true ∧
      ¬ DaysBalanced oneDayConfig [btcPoint 0 50000 50100 0, btcPoint 8 50500 50601 0] ∧
      ¬ DaysBalanced oneDayConfig [btcPoint 0 50000 50100 (-1 / 10000)] := by
  decide +kernel

end SentinelApex.Backtest
