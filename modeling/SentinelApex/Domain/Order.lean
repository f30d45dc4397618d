import SentinelApex.Domain.Json

/-! # Order domain types -/

namespace SentinelApex

inductive OrderSide where
  | buy
  | sell
  deriving DecidableEq, Repr

def OrderSide.text : OrderSide → String
  | .buy => "buy"
  | .sell => "sell"

inductive OrderType where
  | market
  | limit
  | postOnly
  deriving DecidableEq, Repr

inductive OrderStatus where
  | pending
  | submitted
  | partiallyFilled
  | filled
  | cancelled
  | failed
  | expired
  deriving DecidableEq, Repr

def OrderStatus.text : OrderStatus → String
  | .pending => "pending"
  | .submitted => "submitted"
  | .partiallyFilled => "partially_filled"
  | .filled => "filled"
  | .cancelled => "cancelled"
  | .failed => "failed"
  | .expired => "expired"

/-- A single execution report from the venue. -/
structure OrderFill where
  fillId : String
  orderId : String
  filledSize : Decimal
  fillPrice : Decimal
  fee : Decimal
  feeAsset : String
  filledAt : Date
  deriving DecidableEq

/-- Pre-submission descriptor produced by a strategy. -/
structure OrderIntent where
  intentId : String
  venueId : String
  asset : String
  side : OrderSide
  type : OrderType
  size : Decimal
  limitPrice : Option Decimal
  opportunityId : String
  reduceOnly : Bool
  createdAt : Date
  metadata : Metadata

end SentinelApex
