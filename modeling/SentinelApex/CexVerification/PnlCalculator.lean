import SentinelApex.CexVerification.CsvParser
import SentinelApex.Lib.Lots

/-!
# Realized PnL of imported trades

The profit of a sale depends on which lots it is matched with: the oldest, the latest, or an average
of all. The program computes with doubles and prints eight decimal places; the same functions over
exact numbers (`NumberArithmetic.exact`) are the reference for the accounting itself.
-/

namespace SentinelApex

inductive PnlCalculationMethod where
  | fifo
  | lifo
  | avg
  deriving DecidableEq, Repr

structure PnlCalculationOptions where
  method : PnlCalculationMethod
  includeFees : Bool

/-- A trade with its results; they replace the `realizedPnl` of the file. -/
structure TradeWithPnl extends ParsedTrade where
  costBasis : Option Decimal
  accumulatedPosition : Option Decimal
  averageEntryPrice : Option Decimal

structure AssetPnlSummary where
  totalTrades : ℕ
  buyTrades : ℕ
  sellTrades : ℕ
  totalBuyVolume : Decimal
  totalSellVolume : Decimal
  totalBuyValue : Decimal
  totalSellValue : Decimal
  realizedPnl : Decimal
  totalFees : Decimal
  netPnl : Decimal
  openPosition : Decimal
  averageEntryPrice : Decimal
  positionValue : Decimal
  winningTrades : ℕ
  losingTrades : ℕ
  winRatePct : Decimal
  avgWinAmount : Decimal
  avgLossAmount : Decimal
  largestWin : Decimal
  largestLoss : Decimal

structure AssetPnlResult where
  asset : String
  trades : List TradeWithPnl
  summary : AssetPnlSummary

/-- The numbers of a calculation: `toNum` reads a text, `toStr` and `toStr2` print one with eight and
with two decimal places. -/
structure NumberArithmetic where
  toNum : Decimal → Number
  add : Number → Number → Number
  sub : Number → Number → Number
  mul : Number → Number → Number
  div : Number → Number → Number
  toStr : Number → Decimal
  toStr2 : Number → Decimal
  sub_self : ∀ x, sub x x = 0
  dust_nonneg : 0 ≤ toNum (1 / 10 ^ 8)

/-- A lot that is still held. -/
abbrev BuyQueueEntry := Lot Number

/-- Which end of the queue a sale is matched with. -/
inductive LotOrder where
  | first
  | last
  deriving DecidableEq, Repr

/-- The queue from the end that comes first, and back. -/
def LotOrder.arrange {α : Type} : LotOrder → List α → List α
  | .first, queue => queue
  | .last, queue => queue.reverse

/-- What the loop over the lots has reached. -/
structure Matching where
  remainingQty : Number
  totalCostBasis : Number
  buyQueue : List BuyQueueEntry

namespace NumberArithmetic

def double : NumberArithmetic where
  toNum := Number.ofDecimal
  add := Number.add
  sub := Number.sub
  mul := Number.mul
  div := Number.div
  toStr n := Decimal.roundPlaces n 8
  toStr2 n := Decimal.roundPlaces n 2
  sub_self x := by simp [Number.sub]
  dust_nonneg := binary64.round_nonneg (by norm_num)

def exact : NumberArithmetic where
  toNum := id
  add := (· + ·)
  sub := (· - ·)
  mul := (· * ·)
  div := (· / ·)
  toStr := id
  toStr2 := id
  sub_self x := by ring
  dust_nonneg := by norm_num

section

variable (x y : Number)

@[simp] theorem exact_toNum : exact.toNum x = x := rfl

@[simp] theorem exact_add : exact.add x y = x + y := rfl

@[simp] theorem exact_sub : exact.sub x y = x - y := rfl

@[simp] theorem exact_mul : exact.mul x y = x * y := rfl

@[simp] theorem exact_div : exact.div x y = x / y := rfl

@[simp] theorem exact_toStr : exact.toStr x = x := rfl

@[simp] theorem exact_toStr2 : exact.toStr2 x = x := rfl

end

variable (A : NumberArithmetic)

/-- `0.00000001`. -/
def dust : Number := A.toNum (1 / 10 ^ 8)

def sumOf {α : Type} (value : α → Number) (items : List α) : Number :=
  items.foldl (fun sum item => A.add sum (value item)) 0

/-! ## Queues of lots -/

/-- `while (remainingQty > 0.00000001 && buyQueue.length > 0)`, with the lot that comes first. A lot
is kept only by the last turn: it was larger than the rest of the sale. -/
def matchBuys (remainingQty totalCostBasis : Number) : List BuyQueueEntry → Matching
  | [] => { remainingQty, totalCostBasis, buyQueue := [] }
  | buy :: buys =>
    if A.dust < remainingQty then
      let matchedQty := min remainingQty buy.quantity
      let totalCostBasis := A.add totalCostBasis (A.mul matchedQty buy.price)
      let quantity := A.sub buy.quantity matchedQty
      let remainingQty := A.sub remainingQty matchedQty
      if quantity ≤ A.dust then matchBuys remainingQty totalCostBasis buys
      else { remainingQty, totalCostBasis, buyQueue := { buy with quantity } :: buys }
    else { remainingQty, totalCostBasis, buyQueue := buy :: buys }

/-- The cost basis of a sale and the queue after it. -/
def sell (order : LotOrder) (quantity : Number) (buyQueue : List BuyQueueEntry) :
    Number × List BuyQueueEntry :=
  let matching := A.matchBuys quantity 0 (order.arrange buyQueue)
  (matching.totalCostBasis, order.arrange matching.buyQueue)

/-- One turn of the loop over the trades. -/
def lotTrade (order : LotOrder) (buyQueue : List BuyQueueEntry) (trade : ParsedTrade) :
    TradeWithPnl × List BuyQueueEntry :=
  let quantity := A.toNum trade.quantity
  let price := A.toNum trade.price
  match trade.side with
  | .buy =>
    let buyQueue := buyQueue ++ [{ quantity, price }]
    ({ trade with
      costBasis := some (A.toStr (A.mul price quantity))
      realizedPnl := none
      accumulatedPosition := some (A.toStr (A.sumOf (fun b => b.quantity) buyQueue))
      averageEntryPrice := none }, buyQueue)
  | _ =>
    let (totalCostBasis, buyQueue) := A.sell order quantity buyQueue
    let pnl := A.sub (A.mul quantity price) totalCostBasis
    ({ trade with
      costBasis := some (A.toStr totalCostBasis)
      realizedPnl := some (A.toStr pnl)
      accumulatedPosition := some (A.toStr (A.sumOf (fun b => b.quantity) buyQueue))
      averageEntryPrice := none }, buyQueue)

def lotTrades (order : LotOrder) :
    List BuyQueueEntry → List ParsedTrade → List TradeWithPnl × List BuyQueueEntry
  | buyQueue, [] => ([], buyQueue)
  | buyQueue, trade :: trades =>
    let turn := A.lotTrade order buyQueue trade
    let rest := lotTrades order turn.2 trades
    (turn.1 :: rest.1, rest.2)

def calculateFifoPnl (trades : List ParsedTrade) : List TradeWithPnl :=
  (A.lotTrades .first [] trades).1

def calculateLifoPnl (trades : List ParsedTrade) : List TradeWithPnl :=
  (A.lotTrades .last [] trades).1

/-! ## Average cost -/

structure AveragePosition where
  totalQuantity : Number
  totalCost : Number

def avgPrice (position : AveragePosition) : Number :=
  if 0 < position.totalQuantity then A.div position.totalCost position.totalQuantity else 0

def averageTrade (position : AveragePosition) (trade : ParsedTrade) :
    TradeWithPnl × AveragePosition :=
  let quantity := A.toNum trade.quantity
  let price := A.toNum trade.price
  match trade.side with
  | .buy =>
    let newCost := A.mul quantity price
    let position : AveragePosition :=
      { totalQuantity := A.add position.totalQuantity quantity
        totalCost := A.add position.totalCost newCost }
    ({ trade with
      costBasis := some (A.toStr newCost)
      realizedPnl := none
      accumulatedPosition := some (A.toStr position.totalQuantity)
      averageEntryPrice := some (A.toStr (A.avgPrice position)) }, position)
  | _ =>
    let avgPrice := A.avgPrice position
    let costBasis := A.mul quantity avgPrice
    let pnl := A.sub (A.mul quantity price) costBasis
    let position : AveragePosition :=
      { totalQuantity := A.sub position.totalQuantity quantity
        totalCost := A.sub position.totalCost costBasis }
    ({ trade with
      costBasis := some (A.toStr costBasis)
      realizedPnl := some (A.toStr pnl)
      accumulatedPosition := some (A.toStr position.totalQuantity)
      averageEntryPrice := some (A.toStr avgPrice) }, position)

def averageTrades : AveragePosition → List ParsedTrade → List TradeWithPnl
  | _, [] => []
  | position, trade :: trades =>
    let turn := A.averageTrade position trade
    turn.1 :: averageTrades turn.2 trades

def calculateAveragePnl (trades : List ParsedTrade) : List TradeWithPnl :=
  A.averageTrades { totalQuantity := 0, totalCost := 0 } trades

/-! ## Summary -/

/-- `toNum(t.realizedPnl || '0')`. -/
def realized (t : TradeWithPnl) : Number := A.toNum (t.realizedPnl.getD 0)

def mean (amounts : List Number) : Number :=
  if amounts = [] then 0 else A.div (A.sumOf id amounts) (amounts.length : ℚ)

def generateAssetSummary (trades : List TradeWithPnl) (includeFees : Bool) : AssetPnlSummary :=
  let buyTrades := trades.filter fun t => decide (t.side = .buy)
  let sellTrades := trades.filter fun t => decide (t.side = .sell)
  let volume (t : TradeWithPnl) : Number := A.toNum t.quantity
  let value (t : TradeWithPnl) : Number := A.mul (A.toNum t.quantity) (A.toNum t.price)
  let totalBuyVolume := A.sumOf volume buyTrades
  let totalSellVolume := A.sumOf volume sellTrades
  let totalBuyValue := A.sumOf value buyTrades
  let totalSellValue := A.sumOf value sellTrades
  let totalFees := A.sumOf (fun t => A.toNum (t.fee.getD 0)) trades
  let realizedPnl := A.sumOf A.realized sellTrades
  let realizedPnl := if includeFees then A.sub realizedPnl totalFees else realizedPnl
  let profitableTrades := sellTrades.filter fun t => decide (0 < A.realized t)
  let losingTrades := sellTrades.filter fun t => decide (A.realized t < 0)
  let winRate :=
    if sellTrades = [] then 0
    else A.mul (A.div (profitableTrades.length : ℚ) (sellTrades.length : ℚ)) 100
  let wins := profitableTrades.map A.realized
  let losses := losingTrades.map fun t => |A.realized t|
  let openPosition := A.sub totalBuyVolume totalSellVolume
  let lastPrice := (trades.getLast?.map fun t => A.toNum t.price).getD 0
  { totalTrades := trades.length
    buyTrades := buyTrades.length
    sellTrades := sellTrades.length
    totalBuyVolume := A.toStr totalBuyVolume
    totalSellVolume := A.toStr totalSellVolume
    totalBuyValue := A.toStr2 totalBuyValue
    totalSellValue := A.toStr2 totalSellValue
    realizedPnl := A.toStr2 realizedPnl
    totalFees := A.toStr2 totalFees
    netPnl := A.toStr2 realizedPnl
    openPosition := A.toStr openPosition
    averageEntryPrice :=
      if 0 < totalBuyVolume then A.toStr2 (A.div totalBuyValue totalBuyVolume) else 0
    positionValue := A.toStr2 (A.mul openPosition lastPrice)
    winningTrades := profitableTrades.length
    losingTrades := losingTrades.length
    winRatePct := A.toStr2 winRate
    avgWinAmount := A.toStr2 (A.mean wins)
    avgLossAmount := A.toStr2 (A.mean losses)
    largestWin := A.toStr2 (wins.foldl max 0)
    largestLoss := A.toStr2 (-losses.foldl max 0) }

def calculatePnl (method : PnlCalculationMethod) : List ParsedTrade → List TradeWithPnl :=
  match method with
  | .fifo => A.calculateFifoPnl
  | .lifo => A.calculateLifoPnl
  | .avg => A.calculateAveragePnl

/-- `[...trades].sort`: by time, and trades of the same time in their order. -/
def sortByTime (trades : List ParsedTrade) : List ParsedTrade :=
  trades.insertionSort fun a b => a.tradeTime ≤ b.tradeTime

def calculateAssetPnl (trades : List ParsedTrade) (options : PnlCalculationOptions) :
    Except String AssetPnlResult :=
  match trades with
  | [] => .error "No trades provided"
  | firstTrade :: _ =>
    let tradesWithPnl := A.calculatePnl options.method (sortByTime trades)
    .ok
      { asset := firstTrade.asset
        trades := tradesWithPnl
        summary := A.generateAssetSummary tradesWithPnl options.includeFees }

end NumberArithmetic

end SentinelApex
