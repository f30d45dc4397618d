import SentinelApex.Carry.RealizedApy
import SentinelApex.VenueAdapters.Interfaces

/-!
# Market data and configuration of a backtest

The points of a market data series and the configuration that `startBacktest` checks. The prices of
a point are positive, as `validateMarketData` demands and `generateMarketData` makes them.
-/

namespace SentinelApex.Backtest

inductive MarketType where
  | spot
  | perp
  deriving DecidableEq, Repr

def MarketType.text : MarketType → String
  | .spot => "spot"
  | .perp => "perp"

structure MarketDataPoint where
  timestamp : Date
  asset : String
  spotPrice : Decimal
  perpPrice : Decimal
  fundingRate : Decimal
  spotPrice_pos : 0 < spotPrice
  perpPrice_pos : 0 < perpPrice

def MarketDataPoint.price (data : MarketDataPoint) : MarketType → Decimal
  | .spot => data.spotPrice
  | .perp => data.perpPrice

structure BacktestPeriod where
  startDate : Date
  endDate : Date

structure BacktestStrategy where
  maxPositionSizeUsd : Decimal
  minPositionSizeUsd : Decimal
  hedgeDeviationTolerancePct : Decimal
  entryBasisThresholdPct : Decimal
  exitBasisThresholdPct : Decimal

inductive SlippageModel where
  | none
  | fixed
  | variable
  deriving DecidableEq

structure BacktestSimulation where
  slippageModel : SlippageModel
  slippageBps : Option Number
  takerFeeBps : Option Number

structure BacktestConfig where
  backtestId : String
  period : BacktestPeriod
  assets : List String
  strategy : BacktestStrategy
  simulation : BacktestSimulation
  initialCapitalUsd : Decimal

/-- `x || otherwise`. -/
def orNumber (x : Option Number) (otherwise : Number) : Number :=
  match x with
  | some n => if n = 0 then otherwise else n
  | none => otherwise

/-- `takerFeeBps / 10000`. -/
def BacktestSimulation.takerFee (simulation : BacktestSimulation) : Number :=
  Number.div (orNumber simulation.takerFeeBps 5) 10000

/-- `slippageBps / 10000`. -/
def BacktestSimulation.slippage (simulation : BacktestSimulation) : Number :=
  Number.div (orNumber simulation.slippageBps 1) 10000

structure BacktestValidationResult where
  valid : Bool
  errors : List String
  warnings : List String
  deriving DecidableEq

/-- `(endDate - startDate) / (1000 * 60 * 60 * 24)`. -/
def BacktestPeriod.days (period : BacktestPeriod) : Number :=
  Number.div (Number.sub period.endDate period.startDate) 86400000

def validateBacktestConfig (config : BacktestConfig) : BacktestValidationResult :=
  let errors :=
    (if config.period.startDate ≥ config.period.endDate then
      ["Start date must be before end date"] else []) ++
    (if config.period.days < 1 then ["Backtest period must be at least 1 day"] else []) ++
    (if config.assets = [] then ["At least one asset must be specified"] else []) ++
    (if config.initialCapitalUsd ≤ 0 then ["Initial capital must be positive"] else []) ++
    (if config.strategy.minPositionSizeUsd ≥ config.strategy.maxPositionSizeUsd then
      ["Min position size must be less than max position size"] else []) ++
    (if config.strategy.hedgeDeviationTolerancePct ≤ 0 then
      ["Hedge deviation tolerance must be positive"] else []) ++
    (if config.strategy.entryBasisThresholdPct ≤ 0 then
      ["Entry basis threshold must be positive"] else []) ++
    (if config.simulation.slippageModel = .fixed ∧
        (config.simulation.slippageBps = none ∨ config.simulation.slippageBps = some 0) then
      ["Fixed slippage model requires slippageBps"] else [])
  let warnings :=
    (if 365 < config.period.days then
      ["Backtest period exceeds 1 year; simulation may be slow"] else []) ++
    (if config.strategy.maxPositionSizeUsd > config.initialCapitalUsd then
      ["Max position size exceeds initial capital"] else [])
  { valid := errors.isEmpty, errors, warnings }

def createDefaultConfig (backtestId : String) (period : BacktestPeriod) (assets : List String)
    (initialCapitalUsd : Option Decimal) : BacktestConfig where
  backtestId := backtestId
  period := period
  assets := assets
  strategy :=
    { maxPositionSizeUsd := 100000
      minPositionSizeUsd := 1000
      hedgeDeviationTolerancePct := 1
      entryBasisThresholdPct := 1 / 10
      exitBasisThresholdPct := 1 / 20 }
  simulation := { slippageModel := .fixed, slippageBps := some 5, takerFeeBps := some 5 }
  initialCapitalUsd := initialCapitalUsd.getD 1000000

/-- The default configuration is valid for a period of at least a day, at least one asset and a
positive capital. -/
theorem createDefaultConfig_valid (backtestId : String) {period : BacktestPeriod}
    {assets : List String} {initialCapitalUsd : Option Decimal}
    (hperiod : period.startDate < period.endDate) (hdays : 1 ≤ period.days) (hassets : assets ≠ [])
    (hcapital : ∀ c, initialCapitalUsd = some c → 0 < c) :
    (validateBacktestConfig
      (createDefaultConfig backtestId period assets initialCapitalUsd)).valid = true := by
  have hpos : 0 < initialCapitalUsd.getD 1000000 := by
    cases initialCapitalUsd with
    | none => norm_num
    | some c => exact hcapital c rfl
  simp only [validateBacktestConfig, createDefaultConfig, ge_iff_le, not_le.2 hperiod,
    not_lt.2 hdays, hassets, not_le.2 hpos, if_false, reduceCtorEq]
  norm_num

/-- The default configuration for BTC on 1 January 2024. -/
def oneDayConfig : BacktestConfig :=
  createDefaultConfig "backtest" ⟨1704067200000, 1704153600000⟩ ["BTC"] none

def btcPoint (hours : ℤ) (spotPrice perpPrice : ℕ+) (fundingRate : Decimal) : MarketDataPoint where
  timestamp := 1704067200000 + hours * 3600000
  asset := "BTC"
  spotPrice := (spotPrice : ℕ)
  perpPrice := (perpPrice : ℕ)
  fundingRate := fundingRate
  spotPrice_pos := Nat.cast_pos.2 spotPrice.pos
  perpPrice_pos := Nat.cast_pos.2 perpPrice.pos

end SentinelApex.Backtest
