import Mathlib.Data.List.Sort
import SentinelApex.Backtest.Config
import SentinelApex.Domain.Calendar

/-!
# The simulation of a backtest

The points of the series are grouped by day. At each point the basis may enter a position, a spot
and a perp leg, or exit one; then every short perp gets the funding of the point. A day ends with a
snapshot at its latest prices.

The positions are stored under the asset and the market (`positionKey`), the exit signal and the
funding payments name them by the asset.
-/

namespace SentinelApex.Backtest

/-! ## Positions and trades -/

/-- `realizedPnl` is set by exits only. -/
structure BacktestTrade where
  timestamp : Date
  asset : String
  side : PositionSide
  marketType : MarketType
  size : Decimal
  price : Decimal
  notionalUsd : Decimal
  fees : Decimal
  fundingPaid : Option Decimal := none
  realizedPnl : Option Decimal := none
  deriving DecidableEq

structure BacktestPosition where
  asset : String
  side : PositionSide
  marketType : MarketType
  size : Decimal
  avgEntryPrice : Decimal
  notionalUsd : Decimal
  unrealizedPnl : Decimal := 0
  realizedPnl : Decimal := 0
  fundingPaid : Decimal := 0
  openedAt : Date
  deriving DecidableEq

abbrev Positions := OrderedMap String BacktestPosition

def positionKey (asset : String) (marketType : MarketType) : String :=
  asset ++ "-" ++ marketType.text

/-! ## Signals -/

inductive TradeSignal where
  | enter (asset : String)
  | exit (asset positionId : String)
  | hold
  deriving DecidableEq

/-- The basis in percent of the spot price. -/
def MarketDataPoint.basisPct (data : MarketDataPoint) : Decimal :=
  ((data.perpPrice.minus data.spotPrice).div data.spotPrice).times 100

def existingPosition (positions : Positions) (asset : String) : Option BacktestPosition :=
  positions.values.find? fun p => decide (p.asset = asset)

def generateSignal (data : MarketDataPoint) (config : BacktestConfig) (positions : Positions) :
    TradeSignal :=
  match existingPosition positions data.asset with
  | some position =>
    if data.basisPct < config.strategy.exitBasisThresholdPct then .exit data.asset position.asset
    else .hold
  | none =>
    if data.basisPct ≥ config.strategy.entryBasisThresholdPct then .enter data.asset else .hold

/-! ## Trades of a signal -/

/-- The spot and the perp trade; `none` when the cash does not reach the smallest position. -/
def executeEntry (data : MarketDataPoint) (config : BacktestConfig) (availableCash : Decimal)
    (asset : String) : Option (List BacktestTrade) :=
  let positionSize := min config.strategy.maxPositionSizeUsd (availableCash.times (95 / 100))
  if positionSize < config.strategy.minPositionSizeUsd then none
  else
    let slippage := config.simulation.slippage
    let fees := positionSize.times (Number.toDecimal config.simulation.takerFee)
    some
      [{ timestamp := data.timestamp
         asset
         side := .long
         marketType := .spot
         size := positionSize.div data.spotPrice
         price := data.spotPrice.times (Number.toDecimal (Number.add 1 slippage))
         notionalUsd := positionSize
         fees },
       { timestamp := data.timestamp
         asset
         side := .short
         marketType := .perp
         size := positionSize.div data.perpPrice
         price := data.perpPrice.times (Number.toDecimal (Number.sub 1 slippage))
         notionalUsd := positionSize
         fees }]

def executeExit (data : MarketDataPoint) (config : BacktestConfig)
    (position : Option BacktestPosition) : Option (List BacktestTrade) :=
  match position with
  | none => none
  | some position =>
    let slippage := config.simulation.slippage
    let exitPrice := (data.price position.marketType).times
      (Number.toDecimal (match position.side with
        | .long => Number.sub 1 slippage
        | .short => Number.add 1 slippage))
    let notional := position.size.times exitPrice
    let pnl := match position.side with
      | .long => (exitPrice.minus position.avgEntryPrice).times position.size
      | .short => (position.avgEntryPrice.minus exitPrice).times position.size
    some
      [{ timestamp := data.timestamp
         asset := position.asset
         side := match position.side with
           | .long => .short
           | .short => .long
         marketType := position.marketType
         size := position.size
         price := exitPrice
         notionalUsd := notional
         fees := notional.times (Number.toDecimal config.simulation.takerFee)
         fundingPaid := some position.fundingPaid
         realizedPnl := some pnl }]

def updatePositionFromTrade (positions : Positions) (trade : BacktestTrade) : Positions :=
  let positionId := positionKey trade.asset trade.marketType
  match positions.get? positionId with
  | some existing =>
    let newSize := existing.size.plus trade.size
    let newNotional := existing.notionalUsd.plus trade.notionalUsd
    positions.set positionId
      { existing with
        size := newSize
        avgEntryPrice := newNotional.div newSize
        notionalUsd := newNotional }
  | none =>
    positions.set positionId
      { asset := trade.asset
        side := trade.side
        marketType := trade.marketType
        size := trade.size
        avgEntryPrice := trade.price
        notionalUsd := trade.notionalUsd
        openedAt := trade.timestamp }

/-! ## Funding -/

def calculateFundingPayment (position : BacktestPosition) (fundingRate : Decimal) : Decimal :=
  match position.marketType, position.side with
  | .perp, .short => position.notionalUsd.times fundingRate
  | .perp, .long => -(position.notionalUsd.times fundingRate)
  | .spot, _ => 0

structure FundingPayment where
  positionId : String
  amount : Decimal

def BacktestPosition.IsShortPerp (position : BacktestPosition) : Prop :=
  position.marketType = .perp ∧ position.side = .short

instance (position : BacktestPosition) : Decidable position.IsShortPerp :=
  inferInstanceAs (Decidable (_ ∧ _))

def applyFundingPayments (data : MarketDataPoint) (positions : List BacktestPosition) :
    List FundingPayment :=
  (positions.filter fun position => decide position.IsShortPerp).map fun position =>
    ⟨position.asset, calculateFundingPayment position data.fundingRate⟩

/-! ## Valuation -/

structure MarketPrices where
  spotPrice : Decimal
  perpPrice : Decimal
  fundingRate : Decimal
  basis : Decimal
  deriving DecidableEq

def MarketPrices.price (prices : MarketPrices) : MarketType → Decimal
  | .spot => prices.spotPrice
  | .perp => prices.perpPrice

/-- Later points overwrite earlier ones of the same asset. -/
def getLatestPrices (dataPoints : List MarketDataPoint) : OrderedMap String MarketPrices :=
  dataPoints.foldl (fun prices data => prices.set data.asset
    { spotPrice := data.spotPrice
      perpPrice := data.perpPrice
      fundingRate := data.fundingRate
      basis := data.perpPrice.minus data.spotPrice }) OrderedMap.empty

/-- The current price of a position; an asset without a point that day has none. -/
def currentPrice (prices : OrderedMap String MarketPrices) (position : BacktestPosition) :
    Option Decimal :=
  (prices.get? position.asset).map fun p => p.price position.marketType

def BacktestPosition.value (position : BacktestPosition) (price : Decimal) : Decimal :=
  position.size.times price

def calculatePortfolioValue (cash : Decimal) (positions : List BacktestPosition)
    (prices : OrderedMap String MarketPrices) : Decimal :=
  positions.foldl (fun value position => match currentPrice prices position with
    | some price => value.plus (position.value price)
    | none => value) cash

def BacktestPosition.pnl (position : BacktestPosition) (price : Decimal) : Decimal :=
  match position.side with
  | .long => (price.minus position.avgEntryPrice).times position.size
  | .short => (position.avgEntryPrice.minus price).times position.size

def calculateUnrealizedPnl (positions : List BacktestPosition)
    (prices : OrderedMap String MarketPrices) : Decimal :=
  positions.foldl (fun totalPnl position => match currentPrice prices position with
    | some price => totalPnl.plus (position.pnl price)
    | none => totalPnl) 0

/-! ## Steps -/

/-- The positions of a snapshot are left out: they are the objects that the run keeps changing. -/
structure BacktestDailySnapshot where
  date : Date
  portfolioValue : Decimal
  cashBalance : Decimal
  unrealizedPnl : Decimal
  realizedPnl : Decimal
  fundingPaid : Decimal
  totalFees : Decimal
  trades : List BacktestTrade
  marketData : OrderedMap String MarketPrices

structure BacktestState where
  cashBalance : Decimal
  positions : Positions
  trades : List BacktestTrade
  dayTrades : List BacktestTrade
  totalFees : Decimal
  totalFundingPaid : Decimal
  totalFundingReceived : Decimal
  dailySnapshots : List BacktestDailySnapshot

def BacktestState.initial (config : BacktestConfig) : BacktestState where
  cashBalance := config.initialCapitalUsd
  positions := OrderedMap.empty
  trades := []
  dayTrades := []
  totalFees := 0
  totalFundingPaid := 0
  totalFundingReceived := 0
  dailySnapshots := []

def bookEntryTrade (s : BacktestState) (trade : BacktestTrade) : BacktestState :=
  { s with
    dayTrades := s.dayTrades ++ [trade]
    trades := s.trades ++ [trade]
    positions := updatePositionFromTrade s.positions trade
    cashBalance := (s.cashBalance.minus trade.notionalUsd).minus trade.fees
    totalFees := s.totalFees.plus trade.fees }

def bookExitTrade (s : BacktestState) (trade : BacktestTrade) : BacktestState :=
  { s with
    dayTrades := s.dayTrades ++ [trade]
    trades := s.trades ++ [trade]
    cashBalance := ((s.cashBalance.plus trade.notionalUsd).plus (trade.realizedPnl.getD 0)).minus
      trade.fees
    totalFees := s.totalFees.plus trade.fees }

/-- An empty asset or position id is falsy, and the signal then has no effect. -/
def handleSignal (config : BacktestConfig) (s : BacktestState) (data : MarketDataPoint) :
    BacktestState :=
  match generateSignal data config s.positions with
  | .enter asset =>
    if asset = "" then s
    else match executeEntry data config s.cashBalance asset with
      | some trades => trades.foldl bookEntryTrade s
      | none => s
  | .exit _ positionId =>
    if positionId = "" then s
    else match executeExit data config (s.positions.get? positionId) with
      | some trades =>
        let s := trades.foldl bookExitTrade s
        { s with positions := s.positions.erase positionId }
      | none => s
  | .hold => s

def bookFunding (s : BacktestState) (payment : FundingPayment) : BacktestState :=
  let s :=
    if payment.amount ≥ 0 then
      { s with totalFundingReceived := s.totalFundingReceived.plus payment.amount }
    else { s with totalFundingPaid := s.totalFundingPaid.plus payment.amount }
  match s.positions.get? payment.positionId with
  | some position =>
    { s with
      positions := s.positions.set payment.positionId
        { position with fundingPaid := position.fundingPaid.plus payment.amount } }
  | none => s

def handleFunding (s : BacktestState) (data : MarketDataPoint) : BacktestState :=
  (applyFundingPayments data s.positions.values).foldl bookFunding s

def processPoint (config : BacktestConfig) (s : BacktestState) (data : MarketDataPoint) :
    BacktestState :=
  handleFunding (handleSignal config s data) data

/-- `trades.reduce((sum, t) => sum.plus(t.realizedPnl || '0'), new Decimal(0))`. -/
def realizedPnl (trades : List BacktestTrade) : Decimal :=
  trades.foldl (fun sum t => sum.plus (t.realizedPnl.getD 0)) 0

structure DayData where
  date : Date
  dataPoints : List MarketDataPoint

def processPoints (config : BacktestConfig) (s : BacktestState) (day : DayData) : BacktestState :=
  day.dataPoints.foldl (processPoint config) { s with dayTrades := [] }

def dailySnapshot (s : BacktestState) (day : DayData) : BacktestDailySnapshot :=
  let currentPrices := getLatestPrices day.dataPoints
  { date := day.date
    portfolioValue := calculatePortfolioValue s.cashBalance s.positions.values currentPrices
    cashBalance := s.cashBalance
    unrealizedPnl := calculateUnrealizedPnl s.positions.values currentPrices
    realizedPnl := realizedPnl s.trades
    fundingPaid := s.totalFundingPaid
    totalFees := s.totalFees
    trades := s.dayTrades
    marketData := currentPrices }

def processDay (config : BacktestConfig) (s : BacktestState) (day : DayData) : BacktestState :=
  let s := processPoints config s day
  { s with dailySnapshots := s.dailySnapshots ++ [dailySnapshot s day] }

/-! ## The run -/

/-- The points by the UTC day of their timestamp, the days ascending and the points of a day in the
order of their timestamps. The dates lie in years of four digits, which sort as their texts do. -/
def groupDataByDay (data : List MarketDataPoint) : List DayData :=
  let groups : OrderedMap Date (List MarketDataPoint) := data.foldl (fun groups point =>
    let dateKey := point.timestamp / Calendar.msPerDay
    groups.set dateKey ((groups.get? dateKey).getD [] ++ [point])) OrderedMap.empty
  (groups.entries.insertionSort fun a b => a.1 ≤ b.1).map fun e =>
    { date := e.1 * Calendar.msPerDay
      dataPoints := e.2.insertionSort fun a b => a.timestamp ≤ b.timestamp }

/-- The loop of `runSimulation` over the days. -/
def runSimulation (config : BacktestConfig) (marketData : List MarketDataPoint) : BacktestState :=
  (groupDataByDay marketData).foldl (processDay config) (.initial config)

end SentinelApex.Backtest
