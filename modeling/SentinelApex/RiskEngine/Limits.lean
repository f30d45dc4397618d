import SentinelApex.Domain.Risk

/-! # Risk limits and circuit breakers -/

namespace SentinelApex

/-- The configurable limits of the risk engine; percentages are of NAV or of gross exposure. -/
structure RiskLimits where
  maxGrossExposurePct : Number
  maxNetExposurePct : Number
  maxSingleVenuePct : Number
  maxSingleAssetPct : Number
  maxLeverage : Number
  minLiquidityReservePct : Number
  maxDailyDrawdownPct : Number
  maxWeeklyDrawdownPct : Number
  maxPortfolioDrawdownPct : Number
  maxPriceAgeSec : Number
  maxFundingRateAgeSec : Number
  maxPositionSizePct : Number
  maxOpportunityCount : Number

/-- `DEFAULT_RISK_LIMITS`. -/
def defaultRiskLimits : RiskLimits where
  maxGrossExposurePct := 200
  maxNetExposurePct := 20
  maxSingleVenuePct := 40
  maxSingleAssetPct := 30
  maxLeverage := 3
  minLiquidityReservePct := 10
  maxDailyDrawdownPct := 2
  maxWeeklyDrawdownPct := 5
  maxPortfolioDrawdownPct := 15
  maxPriceAgeSec := 30
  maxFundingRateAgeSec := 60
  maxPositionSizePct := 20
  maxOpportunityCount := 10

structure RiskLimits.Positive (limits : RiskLimits) : Prop where
  maxGrossExposurePct : 0 < limits.maxGrossExposurePct
  maxNetExposurePct : 0 < limits.maxNetExposurePct
  maxSingleVenuePct : 0 < limits.maxSingleVenuePct
  maxSingleAssetPct : 0 < limits.maxSingleAssetPct
  maxLeverage : 0 < limits.maxLeverage
  minLiquidityReservePct : 0 < limits.minLiquidityReservePct
  maxDailyDrawdownPct : 0 < limits.maxDailyDrawdownPct
  maxWeeklyDrawdownPct : 0 < limits.maxWeeklyDrawdownPct
  maxPortfolioDrawdownPct : 0 < limits.maxPortfolioDrawdownPct
  maxPriceAgeSec : 0 < limits.maxPriceAgeSec
  maxFundingRateAgeSec : 0 < limits.maxFundingRateAgeSec
  maxPositionSizePct : 0 < limits.maxPositionSizePct
  maxOpportunityCount : 0 < limits.maxOpportunityCount

theorem defaultRiskLimits_positive : defaultRiskLimits.Positive := by
  constructor <;> norm_num [defaultRiskLimits]

inductive CircuitBreakerName where
  | dailyDrawdown
  | weeklyDrawdown
  | portfolioDrawdown
  | venueFailure
  | dataStaleness
  | executionFailureRate
  deriving DecidableEq, Repr

namespace CircuitBreakerName

/-- The registration order. -/
def all : List CircuitBreakerName :=
  [dailyDrawdown, weeklyDrawdown, portfolioDrawdown, venueFailure, dataStaleness,
    executionFailureRate]

def text : CircuitBreakerName → String
  | dailyDrawdown => "daily_drawdown"
  | weeklyDrawdown => "weekly_drawdown"
  | portfolioDrawdown => "portfolio_drawdown"
  | venueFailure => "venue_failure"
  | dataStaleness => "data_staleness"
  | executionFailureRate => "execution_failure_rate"

end CircuitBreakerName

structure CircuitBreaker where
  name : CircuitBreakerName
  state : CircuitBreakerState
  tripCondition : String
  trippedAt : Option Date
  resetAt : Option Date
  autoResetAfterMs : Option ℕ
  tripCount : ℕ

open CircuitBreakerName in
/-- The auto-reset window in milliseconds; `none` requires a manual reset. -/
def defaultAutoResetMs : CircuitBreakerName → Option ℕ
  | dailyDrawdown => some (24 * 60 * 60 * 1000)
  | weeklyDrawdown => none
  | portfolioDrawdown => none
  | venueFailure => some (15 * 60 * 1000)
  | dataStaleness => some (5 * 60 * 1000)
  | executionFailureRate => some (30 * 60 * 1000)

open CircuitBreakerName in
def defaultTripCondition (limits : RiskLimits) : CircuitBreakerName → String
  | dailyDrawdown => s!"Daily drawdown exceeds {limits.maxDailyDrawdownPct.toText}% of NAV"
  | weeklyDrawdown => s!"Weekly drawdown exceeds {limits.maxWeeklyDrawdownPct.toText}% of NAV"
  | portfolioDrawdown =>
    s!"Portfolio peak-to-trough drawdown exceeds {limits.maxPortfolioDrawdownPct.toText}% of NAV"
  | venueFailure => "Venue API is returning persistent errors or is unreachable"
  | dataStaleness =>
    s!"Market data is stale beyond {limits.maxPriceAgeSec.toText}s price or " ++
      s!"{limits.maxFundingRateAgeSec.toText}s funding-rate threshold"
  | executionFailureRate => "Order execution failure rate has exceeded acceptable bounds"

structure CircuitBreakerRegistry where
  breakers : CircuitBreakerName → CircuitBreaker

namespace CircuitBreakerRegistry

/-- `new CircuitBreakerRegistry(limits)`: every breaker closed. -/
def create (limits : RiskLimits) : CircuitBreakerRegistry where
  breakers name :=
    { name
      state := .closed
      tripCondition := defaultTripCondition limits name
      trippedAt := none
      resetAt := none
      autoResetAfterMs := defaultAutoResetMs name
      tripCount := 0 }

/-- Some breaker is open; half open does not count. -/
def isAnyOpen (reg : CircuitBreakerRegistry) : Bool :=
  CircuitBreakerName.all.any fun name => decide ((reg.breakers name).state = .opened)

def getOpenBreakers (reg : CircuitBreakerRegistry) : List CircuitBreaker :=
  (CircuitBreakerName.all.map reg.breakers).filter fun b => decide (b.state = .opened)

end CircuitBreakerRegistry

end SentinelApex
