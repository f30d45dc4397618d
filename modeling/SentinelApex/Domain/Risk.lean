import SentinelApex.Domain.Order

/-! # Risk domain types -/

namespace SentinelApex

inductive RiskCheckStatus where
  | passed
  | failed
  | warning
  deriving DecidableEq, Repr

structure RiskCheckResult where
  checkName : String
  status : RiskCheckStatus
  message : String
  limit : Option String
  actual : Option String
  deriving DecidableEq

/-- Aggregate result of running all risk checks for a given event. -/
structure RiskAssessment where
  opportunityId : Option String
  orderId : Option String
  results : List RiskCheckResult
  overallStatus : RiskCheckStatus
  timestamp : Date
  deriving DecidableEq

inductive CircuitBreakerState where
  | closed
  | opened
  | halfOpen
  deriving DecidableEq, Repr

end SentinelApex
