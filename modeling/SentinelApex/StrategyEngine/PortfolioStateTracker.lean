import SentinelApex.RiskEngine.Engine
import SentinelApex.VenueAdapters.Interfaces

/-!
# Portfolio state tracker

`refresh` rebuilds the portfolio state from the answers of the adapters. An exception ends the
venue that raised it; what its balances and positions have added to the accumulators before stays.
`applyFill` adds one fill to the last state.
-/

namespace SentinelApex

namespace PortfolioStateTracker

def emptyState : PortfolioState where
  totalNav := 0
  grossExposure := 0
  netExposure := 0
  liquidityReserve := 0
  currentDailyDrawdownPct := 0
  currentWeeklyDrawdownPct := 0
  currentPortfolioDrawdownPct := 0
  venueExposures := OrderedMap.empty
  assetExposures := OrderedMap.empty
  sleeveNav := OrderedMap.empty
  openPositionCount := 0

/-- The accumulators of `refresh`. -/
structure Totals where
  totalNav : Decimal
  grossExposure : Decimal
  netExposure : Decimal
  totalLiquidity : Decimal
  openPositionCount : ℕ
  venueExposures : OrderedMap String Decimal
  assetExposures : OrderedMap String Decimal

def Totals.zero : Totals where
  totalNav := 0
  grossExposure := 0
  netExposure := 0
  totalLiquidity := 0
  openPositionCount := 0
  venueExposures := OrderedMap.empty
  assetExposures := OrderedMap.empty

/-- The assets counted one to one as quote currency. -/
def stablecoins : List String := ["USDC", "USDT", "USD"]

/-- The loop over the balances of a venue, which sums their totals and adds what is available to
the liquidity. -/
def addBalances : List AccountBalance → Decimal → Totals → Except String Decimal × Totals
  | [], venueBalanceUsd, totals => (.ok venueBalanceUsd, totals)
  | bal :: balances, venueBalanceUsd, totals =>
    if bal.asset ∈ stablecoins then
      match newDecimal bal.total, newDecimal bal.available with
      | .error e, _ => (.error e, totals)
      | .ok _, .error e => (.error e, totals)
      | .ok total, .ok available =>
        addBalances balances (venueBalanceUsd.plus total)
          { totals with totalLiquidity := totals.totalLiquidity.plus available }
    else addBalances balances venueBalanceUsd totals

/-- The notional of the `n`-th position of a venue. Market data that cannot be fetched or read is
replaced by the mark price of the position. -/
def notional (answers : VenueAnswers) (n : ℕ) (pos : VenuePosition) : Except String Decimal := do
  let markPrice ←
    match (answers.getMarketData n pos.asset).bind fun md => newDecimal md.markPrice with
    | .ok markPrice => .ok markPrice
    | .error _ => newDecimal pos.markPrice
  let size ← newDecimal pos.size
  return size.times markPrice

def signedNotional (side : PositionSide) (notional : Decimal) : Decimal :=
  match side with
  | .long => notional
  | .short => -notional

def Totals.addPosition (totals : Totals) (pos : VenuePosition) (notional : Decimal) : Totals :=
  { totals with
    grossExposure := totals.grossExposure.plus notional
    netExposure := totals.netExposure.plus (signedNotional pos.side notional)
    assetExposures := totals.assetExposures.set pos.asset
      (((totals.assetExposures.get? pos.asset).getD 0).plus notional)
    openPositionCount := totals.openPositionCount + 1 }

/-- The loop over the positions of a venue, from the `n`-th on. -/
def addPositions (answers : VenueAnswers) :
    ℕ → List VenuePosition → Decimal → Totals → Except String Decimal × Totals
  | _, [], venueExposure, totals => (.ok venueExposure, totals)
  | n, pos :: positions, venueExposure, totals =>
    match notional answers n pos with
    | .error e => (.error e, totals)
    | .ok x =>
      addPositions answers (n + 1) positions (venueExposure.plus x) (totals.addPosition pos x)

/-- The body of the loop over the adapters: exceptions are logged. -/
def addVenue (venueId : String) (answers : VenueAnswers) (totals : Totals) : Totals :=
  match answers.getBalances with
  | .error _ => totals
  | .ok balances =>
    match addBalances balances 0 totals with
    | (.error _, totals) => totals
    | (.ok venueBalanceUsd, totals) =>
      let totals := { totals with totalNav := totals.totalNav.plus venueBalanceUsd }
      match answers.getPositions with
      | .error _ => totals
      | .ok positions =>
        match addPositions answers 0 positions ((totals.venueExposures.get? venueId).getD 0)
          totals with
        | (.error _, totals) => totals
        | (.ok venueExposure, totals) =>
          { totals with venueExposures := totals.venueExposures.set venueId venueExposure }

/-- The portfolio state of the accumulators: gross exposure is added to NAV. -/
def Totals.toState (totals : Totals) (sleeveId : String) : PortfolioState :=
  let totalNav := totals.totalNav.plus totals.grossExposure
  { totalNav
    grossExposure := totals.grossExposure
    netExposure := totals.netExposure
    liquidityReserve := totals.totalLiquidity
    currentDailyDrawdownPct := 0
    currentWeeklyDrawdownPct := 0
    currentPortfolioDrawdownPct := 0
    venueExposures := totals.venueExposures
    assetExposures := totals.assetExposures
    sleeveNav := OrderedMap.ofList [(sleeveId, totalNav)]
    openPositionCount := totals.openPositionCount }

def refresh (sleeveId : String) (adapters : OrderedMap String VenueAnswers) : PortfolioState :=
  (adapters.entries.foldl (fun totals e => addVenue e.1 e.2 totals) Totals.zero).toState sleeveId

def applyFill (fill : OrderFill) (intent : OrderIntent) (current : PortfolioState) :
    PortfolioState :=
  let notionalUsd := fill.fillPrice.times fill.filledSize
  let deltaUsd := if intent.side = .buy then notionalUsd else -notionalUsd
  { current with
    grossExposure := current.grossExposure.plus notionalUsd
    netExposure := current.netExposure.plus deltaUsd
    liquidityReserve := max (current.liquidityReserve.minus notionalUsd) 0
    venueExposures := current.venueExposures.set intent.venueId
      (((current.venueExposures.get? intent.venueId).getD 0).plus notionalUsd)
    assetExposures := current.assetExposures.set intent.asset
      (((current.assetExposures.get? intent.asset).getD 0).plus notionalUsd)
    openPositionCount := current.openPositionCount + 1 }

/-- A call on the tracker, with the answers that its adapters give. -/
inductive Step where
  | refresh (adapters : OrderedMap String VenueAnswers)
  | applyFill (fill : OrderFill) (intent : OrderIntent)

def step (sleeveId : String) (state : PortfolioState) : Step → PortfolioState
  | .refresh adapters => refresh sleeveId adapters
  | .applyFill fill intent => applyFill fill intent state

def states (sleeveId : String) : PortfolioState → List Step → List PortfolioState
  | _, [] => []
  | state, s :: steps => step sleeveId state s :: states sleeveId (step sleeveId state s) steps

end PortfolioStateTracker

end SentinelApex
