import SentinelApex.Backtest.Accounting
import SentinelApex.Domain.Places

/-!
# The cash of an entry

An entry is sized to at most 95 percent of the cash and booked once for each of its two legs, with
the fee of each. So the cash covers an entry if it is at least twice the size and the fee, up to
the roundings of `decimal.js` (`entriesCovered`).
-/

namespace SentinelApex.Backtest

open Runs Drift

variable {config : BacktestConfig} {s : BacktestState} {data : MarketDataPoint}

/-- The trades with which a point enters a position, if it enters one. -/
def entryOf (config : BacktestConfig) (s : BacktestState) (data : MarketDataPoint) :
    Option (List BacktestTrade) :=
  match generateSignal data config s.positions with
  | .enter asset => if asset = "" then none else executeEntry data config s.cashBalance asset
  | _ => none

/-- The cash after every entry of a run is not negative. -/
def EntriesPaid (config : BacktestConfig) (marketData : List MarketDataPoint) : Prop :=
  AtEachPoint config (fun s data => (entryOf config s data).isSome = true →
    0 ≤ (handleSignal config s data).cashBalance) (.initial config) (groupDataByDay marketData)

instance (marketData : List MarketDataPoint) : Decidable (EntriesPaid config marketData) :=
  inferInstanceAs (Decidable (AtEachPoint _ _ _ _))

/-- The notional amount of each leg. -/
def entrySize (config : BacktestConfig) (cash : Decimal) : Decimal :=
  min config.strategy.maxPositionSizeUsd (cash.times (95 / 100))

def entryFee (config : BacktestConfig) (cash : Decimal) : Decimal :=
  (entrySize config cash).times (Number.toDecimal config.simulation.takerFee)

/-- What both legs take out of the cash. -/
def entryFlows (config : BacktestConfig) (cash : Decimal) : List Decimal :=
  [-entrySize config cash, -entryFee config cash, -entrySize config cash, -entryFee config cash]

/-- The cash is at least twice the size and the fee, and the part `margin` of the amounts more. -/
def Covers (config : BacktestConfig) (margin : ℚ) (cash : Decimal) : Prop :=
  2 * (entrySize config cash + entryFee config cash) +
    margin * (|cash| + 2 * (|entrySize config cash| + |entryFee config cash|)) ≤ cash

theorem handleSignal_cashBalance (h : (entryOf config s data).isSome = true) :
    (handleSignal config s data).cashBalance =
      accumulate decimalJs.round s.cashBalance (entryFlows config s.cashBalance) := by
  unfold entryOf at h
  unfold handleSignal
  cases hsignal : generateSignal data config s.positions with
  | hold | exit asset positionId =>
    rw [hsignal] at h
    cases h
  | enter asset =>
    rw [hsignal] at h
    dsimp only at h ⊢
    split_ifs at h ⊢
    · cases h
    · unfold executeEntry at h ⊢
      dsimp only at h ⊢
      split_ifs at h ⊢
      · cases h
      · simp only [List.foldl_cons, List.foldl_nil, bookEntryTrade, Decimal.minus, entryFlows,
          entrySize, entryFee, accumulate_cons, accumulate_nil, sub_eq_add_neg]

theorem abs_cash_sub_le (config : BacktestConfig) (cash : Decimal) :
    |accumulate decimalJs.round cash (entryFlows config cash) -
        (cash - 2 * (entrySize config cash + entryFee config cash))| ≤
      1 / 10 ^ 18 * (|cash| + 2 * (|entrySize config cash| + |entryFee config cash|)) := by
  have hflows : cash + (entryFlows config cash).sum =
      cash - 2 * (entrySize config cash + entryFee config cash) := by
    simp only [entryFlows, List.sum_cons, List.sum_nil]
    ring
  have habs : ((entryFlows config cash).map fun x => |x|).sum =
      2 * (|entrySize config cash| + |entryFee config cash|) := by
    simp only [entryFlows, List.map_cons, List.map_nil, List.sum_cons, List.sum_nil, abs_neg]
    ring
  have herror := SigDigits.abs_accumulate_sub_le_mul (by norm_num) Decimal.hasRelativeError cash
    (entryFlows config cash)
  rw [hflows, habs] at herror
  refine herror.trans (mul_le_mul_of_nonneg_right ?_ (by positivity))
  norm_num [entryFlows]

/-- Where the cash covers each entry of a run with a margin of `10 ^ (-18)`, every entry is paid;
and where every entry is paid, the cash covers it but for that margin. -/
theorem entriesCovered (config : BacktestConfig) (marketData : List MarketDataPoint) :
    (AtEachPoint config (fun s data => (entryOf config s data).isSome = true →
        Covers config (1 / 10 ^ 18) s.cashBalance) (.initial config) (groupDataByDay marketData) →
      EntriesPaid config marketData) ∧
    (EntriesPaid config marketData →
      AtEachPoint config (fun s data => (entryOf config s data).isSome = true →
        Covers config (-(1 / 10 ^ 18)) s.cashBalance) (.initial config)
          (groupDataByDay marketData)) := by
  constructor
  · intro h
    refine Along.mono (fun s day hday => Along.mono (fun s data hcovers hentry => ?_) hday) h
    have hcash := hcovers hentry
    have herror := (abs_le.1 (abs_cash_sub_le config s.cashBalance)).1
    rw [handleSignal_cashBalance hentry]
    unfold Covers at hcash
    linarith
  · intro h
    refine Along.mono (fun s day hday => Along.mono (fun s data hpaid hentry => ?_) hday) h
    have hcash := hpaid hentry
    have herror := (abs_le.1 (abs_cash_sub_le config s.cashBalance)).2
    rw [handleSignal_cashBalance hentry] at hcash
    unfold Covers
    linarith

/-- The default configuration with a capital of 1000000, ten times the largest size of a position. -/
def largeCapital : BacktestConfig :=
  createDefaultConfig "backtest" ⟨1704067200000, 1704153600000⟩ ["BTC"] none

/-- An entry that the cash covers, and a later point of the same day. -/
theorem entriesCovered_sample :
    (entryOf largeCapital (.initial largeCapital) (btcPoint 0 50000 50100 0)).isSome = true ∧
      EntriesPaid largeCapital [btcPoint 0 50000 50100 0, btcPoint 8 50000 50100 0] := by
  refine ⟨by decide +kernel, (entriesCovered largeCapital _).1 ?_⟩
  unfold Covers
  decide +kernel

/-- The default configuration with a capital of 100000, which is the largest size of a position. -/
def smallCapital : BacktestConfig :=
  createDefaultConfig "backtest" ⟨1704067200000, 1704153600000⟩ ["BTC"] (some 100000)

theorem entry_overdraws :
    validateBacktestConfig smallCapital = { valid := true, errors := [], warnings := [] } ∧
      (runSimulation smallCapital [btcPoint 0 50000 50100 0]).cashBalance = -90095 ∧
      ¬ EntriesPaid smallCapital [btcPoint 0 50000 50100 0] := by
  decide +kernel

end SentinelApex.Backtest
