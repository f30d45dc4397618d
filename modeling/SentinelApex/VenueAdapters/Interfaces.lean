import SentinelApex.VenueAdapters.MarketIdentity

/-! # The venue adapter contract: orders, balances and positions -/

namespace SentinelApex

inductive VenueOrderExecutionMode where
  | simulated
  | real
  deriving DecidableEq, Repr

def VenueOrderExecutionMode.text : VenueOrderExecutionMode → String
  | .simulated => "simulated"
  | .real => "real"

def venueExecutionReferenceMetadataKey : String := "venueExecutionReference"

def venueExecutionModeMetadataKey : String := "venueExecutionMode"

inductive VenueOrderStatus where
  | submitted
  | filled
  | partiallyFilled
  | rejected
  deriving DecidableEq, Repr

def VenueOrderStatus.text : VenueOrderStatus → String
  | .submitted => "submitted"
  | .filled => "filled"
  | .partiallyFilled => "partially_filled"
  | .rejected => "rejected"

structure PlaceOrderParams where
  clientOrderId : String
  asset : String
  side : OrderSide
  type : OrderType
  size : Decimal
  price : Option Decimal := none
  reduceOnly : Bool := false
  postOnly : Bool := false
  marketIdentity : Option CanonicalMarketIdentity := none

/-- The answer of a venue to an order; an execution reference may be absent or `null`. -/
structure PlaceOrderResult where
  venueOrderId : String
  clientOrderId : String
  status : VenueOrderStatus
  filledSize : Decimal
  averageFillPrice : Option Decimal
  fees : Option Decimal
  submittedAt : Date
  executionReference : Option (Option String) := none
  executionMode : Option VenueOrderExecutionMode := none
  marketIdentity : Option CanonicalMarketIdentity := none

structure CancelOrderResult where
  venueOrderId : String
  cancelled : Bool
  reason : Option String := none

/-- A text that should be a decimal: the number it denotes, or `none` for a text that the
`Decimal` constructor rejects. -/
abbrev DecimalText := Option Decimal

/-- `new Decimal(text)`. -/
def newDecimal (text : DecimalText) : Except String Decimal :=
  match text with
  | some x => .ok x
  | none => .error "[DecimalError] Invalid argument"

theorem newDecimal_bind_ok {α : Type} {text : DecimalText} {f : Decimal → Except String α} {a : α}
    (h : (newDecimal text >>= f) = .ok a) : ∃ x, text = some x ∧ f x = .ok a := by
  cases text with
  | none => cases h
  | some x => exact ⟨x, rfl, h⟩

inductive PositionSide where
  | long
  | short
  deriving DecidableEq, Repr

def PositionSide.text : PositionSide → String
  | .long => "long"
  | .short => "short"

structure AccountBalance where
  venueId : String
  asset : String
  available : DecimalText
  locked : DecimalText
  total : DecimalText

structure VenuePosition where
  venueId : String
  asset : String
  side : PositionSide
  size : DecimalText
  entryPrice : DecimalText
  markPrice : DecimalText
  unrealizedPnl : DecimalText
  marginUsed : DecimalText
  liquidationPrice : Option DecimalText

structure MarketData where
  venueId : String
  asset : String
  bid : DecimalText
  ask : DecimalText
  mid : DecimalText
  markPrice : DecimalText
  indexPrice : DecimalText

/-- What an adapter answers to one round of queries; the market data may differ from call to
call. -/
structure VenueAnswers where
  getBalances : Except String (List AccountBalance)
  getPositions : Except String (List VenuePosition)
  getMarketData : ℕ → String → Except String MarketData

end SentinelApex
