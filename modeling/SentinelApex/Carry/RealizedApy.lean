import SentinelApex.Domain.Numbers

/-!
# Realized APY

The figures that the carry package derives from closed trades: the simple APY of a profit over a
number of days, over rolling windows and over the lifetime, and the aggregates of the current state.
-/

namespace SentinelApex

open SigDigits

/-! ## Values that need not be finite -/

/-- A `decimal.js` value. -/
inductive DecimalValue where
  | finite (x : Decimal)
  | infinity (negative : Bool)
  | nan
  deriving DecidableEq

namespace DecimalValue

/-- `x.div(y)`, also for a divisor of zero. -/
def quotient (x y : Decimal) : DecimalValue :=
  if y ≠ 0 then .finite (x.div y)
  else if x = 0 then .nan
  else .infinity (decide (x < 0))

def times : DecimalValue → Decimal → DecimalValue
  | .finite x, y => .finite (x.times y)
  | .infinity negative, y => if y = 0 then .nan else .infinity (xor negative (decide (y < 0)))
  | .nan, _ => .nan

def minus : DecimalValue → Decimal → DecimalValue
  | .finite x, y => .finite (x.minus y)
  | value, _ => value

/-- `x.gte(y)`: nothing compares with `NaN`. -/
def gte : DecimalValue → Decimal → Bool
  | .finite x, y => decide (y ≤ x)
  | .infinity negative, _ => !negative
  | .nan, _ => false

def toFixed : DecimalValue → ℕ → String
  | .finite x, dp => Decimal.toFixed x dp
  | .infinity negative, _ => if negative then "-Infinity" else "Infinity"
  | .nan, _ => "NaN"

/-- The value of `x.toFixed(dp)`. -/
def roundPlaces : DecimalValue → ℕ → DecimalValue
  | .finite x, dp => .finite (Decimal.roundPlaces x dp)
  | value, _ => value

def isFinite : DecimalValue → Bool
  | .finite _ => true
  | _ => false

@[simp] theorem isFinite_times (x : DecimalValue) (y : Decimal) :
    (x.times y).isFinite = x.isFinite := by
  cases x with
  | finite x => rfl
  | infinity negative =>
    unfold times
    dsimp only
    split_ifs <;> rfl
  | nan => rfl

@[simp] theorem isFinite_roundPlaces (x : DecimalValue) (dp : ℕ) :
    (x.roundPlaces dp).isFinite = x.isFinite := by
  cases x <;> rfl

@[simp] theorem isFinite_quotient_zero (x : Decimal) : (quotient x 0).isFinite = false := by
  unfold quotient
  rw [if_neg (not_not.2 rfl)]
  split_ifs <;> rfl

end DecimalValue

def decimalDigits (digits : ℕ) (h : 0 < digits) : Format :=
  { decimalJs with digits, digits_pos := h }

/-- `new Decimal(n)`: the shortest decimal text that denotes the double. -/
def Number.toDecimal (n : Number) : Decimal :=
  (((List.range 17).map fun k => (decimalDigits (k + 1) k.succ_pos).round n).find? fun x =>
    decide (Number.ofDecimal x = n)).getD n

/-! ## Trades -/

structure RealizedTradePnl where
  sleeveId : String
  netPnl : Decimal
  fundingPnl : Decimal
  feeCost : Decimal
  openedAt : Date
  closedAt : Date
  confirmed : Bool

def sumOf (column : RealizedTradePnl → Decimal) (trades : List RealizedTradePnl) : Decimal :=
  trades.foldl (fun sum t => sum.plus (column t)) 0

/-- `trades.reduce((earliest, t) => t.openedAt < earliest.openedAt ? t : earliest)`. -/
def earliestOpened (first : RealizedTradePnl) (rest : List RealizedTradePnl) : RealizedTradePnl :=
  rest.foldl (fun earliest t => if t.openedAt < earliest.openedAt then t else earliest) first

/-- `trades.reduce((latest, t) => t.closedAt > latest.closedAt ? t : latest)`. -/
def latestClosed (first : RealizedTradePnl) (rest : List RealizedTradePnl) : RealizedTradePnl :=
  rest.foldl (fun latest t => if t.closedAt > latest.closedAt then t else latest) first

/-! ## APYs -/

structure ApyText where
  text : String
  value : DecimalValue
  deriving DecidableEq

/-- `x.toFixed(4)`. -/
def DecimalValue.apyText (x : DecimalValue) : ApyText := ⟨x.toFixed 4, x.roundPlaces 4⟩

/-- `pnl.div(capital).times(365 / days).times(100)`. -/
def simpleApy (pnl capital : Decimal) (days : Number) : DecimalValue :=
  ((DecimalValue.quotient pnl capital).times (Number.toDecimal (Number.div 365 days))).times 100

def calculateSimpleApy (pnlUsd capitalUsd : Decimal) (days : Number) : ApyText :=
  if days ≤ 0 ∨ capitalUsd = 0 then ⟨"0", .finite 0⟩
  else (simpleApy pnlUsd capitalUsd days).apyText

def millisPerDay : ℤ := 24 * 60 * 60 * 1000

def calculateRollingApy (trades : List RealizedTradePnl) (capitalUsd : Decimal) (windowDays : ℕ)
    (endDate : Date) : Option ApyText :=
  let windowStart := endDate - windowDays * millisPerDay
  let windowTrades := trades.filter fun t =>
    decide (t.closedAt ≥ windowStart ∧ t.closedAt ≤ endDate) && t.confirmed
  if windowTrades.length = 0 then none
  else
    let totalPnl := sumOf (fun t => t.netPnl) windowTrades
    some (calculateSimpleApy totalPnl capitalUsd windowDays)

def calculateApy7d (trades : List RealizedTradePnl) (capitalUsd : Decimal) (endDate : Date) :
    Option ApyText :=
  calculateRollingApy trades capitalUsd 7 endDate

def calculateApy30d (trades : List RealizedTradePnl) (capitalUsd : Decimal) (endDate : Date) :
    Option ApyText :=
  calculateRollingApy trades capitalUsd 30 endDate

/-- `Math.max((closedAt - openedAt) / (1_000 * 60 * 60 * 24), 1)`. -/
def daysBetween (openedAt closedAt : Date) : Number :=
  max (Number.div (closedAt - openedAt : ℤ) millisPerDay) 1

def calculateApyLifetime (trades : List RealizedTradePnl) (capitalUsd : Decimal) :
    Option ApyText :=
  match trades with
  | [] => none
  | first :: rest =>
    let firstTrade := earliestOpened first rest
    let lastTrade := latestClosed first rest
    let days := daysBetween firstTrade.openedAt lastTrade.closedAt
    let totalPnl := sumOf (fun t => t.netPnl) trades
    some (calculateSimpleApy totalPnl capitalUsd days)

/-! ## Current state -/

inductive ApyCalculationBasis where
  | liveTrades
  | projected
  | insufficientData
  deriving DecidableEq, Repr

structure ApyCurrent where
  sleeveId : String
  strategyId : String
  realizedApy7d : Option ApyText
  realizedApy30d : Option ApyText
  realizedApyLifetime : Option ApyText
  targetApyPct : Decimal
  projectedApyPct : Option ApyText
  targetMet : Option Bool
  targetGapPct : Option ApyText
  totalTradesClosed : ℕ
  totalPnlUsd : String
  totalFundingPnlUsd : String
  totalFeesUsd : String
  avgTradePnlUsd : Option String
  winRatePct : Option String
  firstTradeAt : Option Date
  calculationBasis : ApyCalculationBasis
  deriving DecidableEq

structure SnapshotApys where
  realizedApy7d : Option ApyText
  realizedApy30d : Option ApyText
  realizedApyLifetime : Option ApyText

/-- `new Decimal(count).div(total).times(100)`. -/
def winRate (trades : List RealizedTradePnl) : Decimal :=
  let winningTrades := trades.filter fun t => decide (0 < t.netPnl)
  ((winningTrades.length : Decimal).div trades.length).times 100

def calculateApyCurrent (sleeveId strategyId : String) (targetApyPct : Decimal)
    (latestSnapshot : Option SnapshotApys) (allTrades : List RealizedTradePnl) : ApyCurrent :=
  match allTrades.filter fun t => t.confirmed with
  | [] =>
    { sleeveId
      strategyId
      realizedApy7d := none
      realizedApy30d := none
      realizedApyLifetime := none
      targetApyPct
      projectedApyPct := none
      targetMet := none
      targetGapPct := none
      totalTradesClosed := 0
      totalPnlUsd := "0"
      totalFundingPnlUsd := "0"
      totalFeesUsd := "0"
      avgTradePnlUsd := none
      winRatePct := none
      firstTradeAt := none
      calculationBasis := .insufficientData }
  | first :: rest =>
    let confirmedTrades := first :: rest
    let totalTradesClosed := confirmedTrades.length
    let totalPnl := sumOf (fun t => t.netPnl) confirmedTrades
    let totalFundingPnl := sumOf (fun t => t.fundingPnl) confirmedTrades
    let totalFees := sumOf (fun t => t.feeCost) confirmedTrades
    let avgPnl := totalPnl.div totalTradesClosed
    let firstTrade := earliestOpened first rest
    let realizedApy7d := latestSnapshot.bind fun s => s.realizedApy7d
    let realizedApy30d := latestSnapshot.bind fun s => s.realizedApy30d
    let realizedApyLifetime := latestSnapshot.bind fun s => s.realizedApyLifetime
    let currentApy := (realizedApy30d.or realizedApy7d).or realizedApyLifetime
    { sleeveId
      strategyId
      realizedApy7d
      realizedApy30d
      realizedApyLifetime
      targetApyPct
      projectedApyPct := currentApy
      targetMet := currentApy.map fun current => current.value.gte targetApyPct
      targetGapPct := currentApy.map fun current => (current.value.minus targetApyPct).apyText
      totalTradesClosed
      totalPnlUsd := Decimal.toFixedAll totalPnl
      totalFundingPnlUsd := Decimal.toFixedAll totalFundingPnl
      totalFeesUsd := Decimal.toFixedAll totalFees
      avgTradePnlUsd := some (Decimal.toFixedAll avgPnl)
      winRatePct := some (Decimal.toFixed (winRate confirmedTrades) 2)
      firstTradeAt := some firstTrade.openedAt
      calculationBasis := .liveTrades }

/-! ## The earliest and the latest trade -/

/-- A reduction that keeps the element with the smaller key ends with a least one. -/
theorem foldl_least {α β : Type} [LinearOrder β] (key : α → β) (first : α) (rest : List α) :
    rest.foldl (fun best t => if key t < key best then t else best) first ∈ first :: rest ∧
      ∀ t ∈ first :: rest,
        key (rest.foldl (fun best t => if key t < key best then t else best) first) ≤ key t := by
  induction rest generalizing first with
  | nil => simp
  | cons next rest ih =>
    rw [List.foldl_cons]
    have hstep : key (if key next < key first then next else first) ≤ key first ∧
        key (if key next < key first then next else first) ≤ key next := by
      split_ifs with hlt
      · exact ⟨hlt.le, le_rfl⟩
      · exact ⟨le_rfl, not_lt.1 hlt⟩
    obtain ⟨hmem, hleast⟩ := ih (if key next < key first then next else first)
    have hbest := hleast _ List.mem_cons_self
    constructor
    · rcases List.mem_cons.1 hmem with heq | hmem
      · rw [heq]
        split_ifs <;> simp
      · exact List.mem_cons_of_mem _ (List.mem_cons_of_mem _ hmem)
    · intro t ht
      rcases List.mem_cons.1 ht with rfl | ht
      · exact hbest.trans hstep.1
      · rcases List.mem_cons.1 ht with rfl | ht
        · exact hbest.trans hstep.2
        · exact hleast t (List.mem_cons_of_mem _ ht)

theorem earliestOpened_spec (first : RealizedTradePnl) (rest : List RealizedTradePnl) :
    earliestOpened first rest ∈ first :: rest ∧
      ∀ t ∈ first :: rest, (earliestOpened first rest).openedAt ≤ t.openedAt :=
  foldl_least (fun t : RealizedTradePnl => t.openedAt) first rest

theorem latestClosed_spec (first : RealizedTradePnl) (rest : List RealizedTradePnl) :
    latestClosed first rest ∈ first :: rest ∧
      ∀ t ∈ first :: rest, t.closedAt ≤ (latestClosed first rest).closedAt :=
  foldl_least (fun t : RealizedTradePnl => OrderDual.toDual t.closedAt) first rest

end SentinelApex
