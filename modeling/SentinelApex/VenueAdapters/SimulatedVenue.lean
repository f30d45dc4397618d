import SentinelApex.VenueAdapters.Interfaces

/-!
# Simulated venue

The in-memory paper-trading adapter over a static price feed: orders, balances and positions.
-/

namespace SentinelApex

structure SimulatedVenueConfig where
  venueId : String
  makerFeePct : Decimal
  takerFeePct : Decimal
  slippagePct : Decimal
  initialBalances : OrderedMap String Decimal
  deterministicPrices : OrderedMap String Decimal

structure InternalOrder where
  params : PlaceOrderParams
  result : PlaceOrderResult
  isOpen : Bool

structure InternalPosition where
  asset : String
  side : PositionSide
  size : Decimal
  entryPrice : Decimal
  realizedPnl : Decimal

/-- A fill of an earlier run, as it is replayed after a restart. -/
structure ReplayFillParams where
  venueOrderId : String
  clientOrderId : String
  asset : String
  side : OrderSide
  size : Decimal
  fillPrice : Decimal
  fee : Decimal
  reduceOnly : Bool
  submittedAt : Date
  marketIdentity : Option CanonicalMarketIdentity

structure SimulatedVenue where
  config : SimulatedVenueConfig
  connected : Bool
  orderCounter : ℕ
  orders : OrderedMap String InternalOrder
  clientIdIndex : OrderedMap String String
  balances : OrderedMap String Decimal
  positions : OrderedMap String InternalPosition

namespace SimulatedVenue

def create (config : SimulatedVenueConfig) : SimulatedVenue where
  config
  connected := false
  orderCounter := 0
  orders := OrderedMap.empty
  clientIdIndex := OrderedMap.empty
  balances := config.initialBalances
  positions := OrderedMap.empty

def connect (venue : SimulatedVenue) : SimulatedVenue := { venue with connected := true }

def disconnect (venue : SimulatedVenue) : SimulatedVenue := { venue with connected := false }

/-! ## Market data and account -/

def getPrice (venue : SimulatedVenue) (asset : String) : Except String Decimal :=
  match venue.config.deterministicPrices.get? asset with
  | none => .error ("StaticPriceFeed: no price for asset \"" ++ asset ++ "\"")
  | some price => .ok price

def getMarketData (venue : SimulatedVenue) (asset : String) : Except String MarketData := do
  let mid ← venue.getPrice asset
  let halfSpread := mid.times (2 / 10000)
  return {
    venueId := venue.config.venueId
    asset
    bid := some ((mid.minus halfSpread).roundPlaces 8)
    ask := some ((mid.plus halfSpread).roundPlaces 8)
    mid := some mid
    markPrice := some mid
    indexPrice := some mid }

/-- What the open orders of an asset lock: the cost of a buy that has a price, the size of a
sell. -/
def lockedBalance (venue : SimulatedVenue) (asset : String) : Decimal :=
  venue.orders.values.foldl (fun locked order =>
    if order.isOpen ∧ order.params.asset = asset then
      match order.params.side, order.params.price with
      | .buy, some price => locked.plus (order.params.size.times price)
      | .buy, none => locked
      | .sell, _ => locked.plus order.params.size
    else locked) 0

def toAccountBalance (venue : SimulatedVenue) (asset : String) (total : Decimal) :
    AccountBalance :=
  let locked := venue.lockedBalance asset
  { venueId := venue.config.venueId
    asset
    available := some (max (total.minus locked) 0)
    locked := some locked
    total := some total }

def getBalances (venue : SimulatedVenue) : List AccountBalance :=
  venue.balances.entries.map fun e => venue.toAccountBalance e.1 e.2

/-- The current price of a position: the entry price when the feed has none. -/
def currentPrice (venue : SimulatedVenue) (asset : String) (pos : InternalPosition) : Decimal :=
  match venue.getPrice asset with
  | .ok price => price
  | .error _ => pos.entryPrice

def toVenuePosition (venue : SimulatedVenue) (asset : String) (pos : InternalPosition) :
    VenuePosition :=
  let markPrice := venue.currentPrice asset pos
  { venueId := venue.config.venueId
    asset
    side := pos.side
    size := some pos.size
    entryPrice := some pos.entryPrice
    markPrice := some markPrice
    unrealizedPnl := some (match pos.side with
      | .long => (markPrice.minus pos.entryPrice).times pos.size
      | .short => (pos.entryPrice.minus markPrice).times pos.size)
    marginUsed := some ((pos.entryPrice.times pos.size).times (1 / 10))
    liquidationPrice := some (match pos.side with
      | .long => some (pos.entryPrice.times (9 / 10))
      | .short => some (pos.entryPrice.times (11 / 10))) }

def getPositions (venue : SimulatedVenue) : List VenuePosition :=
  (venue.positions.entries.filter fun e => e.2.size ≠ 0).map fun e =>
    venue.toVenuePosition e.1 e.2

def answers (venue : SimulatedVenue) : VenueAnswers where
  getBalances := .ok venue.getBalances
  getPositions := .ok venue.getPositions
  getMarketData _ asset := venue.getMarketData asset

/-! ## Fills -/

def resolveQuoteAsset (_baseAsset : String) : String := "USDC"

def adjustBalance (venue : SimulatedVenue) (asset : String) (delta : Decimal) : SimulatedVenue :=
  { venue with
    balances := venue.balances.set asset (((venue.balances.get? asset).getD 0).plus delta) }

/-- The profit of closing `size` of a position. -/
def realizedPnl (existing : InternalPosition) (fillPrice size : Decimal) : Decimal :=
  match existing.side with
  | .long => (fillPrice.minus existing.entryPrice).times size
  | .short => (existing.entryPrice.minus fillPrice).times size

def setPosition (venue : SimulatedVenue) (asset : String) (pos : InternalPosition) :
    SimulatedVenue :=
  { venue with positions := venue.positions.set asset pos }

def deletePosition (venue : SimulatedVenue) (asset : String) : SimulatedVenue :=
  { venue with positions := venue.positions.erase asset }

def updatePosition (venue : SimulatedVenue) (asset : String) (incomingSide : PositionSide)
    (size fillPrice : Decimal) (reduceOnly : Bool) : SimulatedVenue :=
  match venue.positions.get? asset with
  | none =>
    if reduceOnly then venue
    else venue.setPosition asset
      { asset, side := incomingSide, size, entryPrice := fillPrice, realizedPnl := 0 }
  | some existing =>
    if existing.side = incomingSide then
      -- Adding to the position moves the entry price to the weighted average.
      let totalSize := existing.size.plus size
      venue.setPosition asset
        { existing with
          size := totalSize
          entryPrice := ((existing.entryPrice.times existing.size).plus
            (fillPrice.times size)).div totalSize }
    else if size ≤ existing.size then
      let remaining := existing.size.minus size
      if remaining = 0 then venue.deletePosition asset
      else venue.setPosition asset
        { existing with
          size := remaining
          realizedPnl := existing.realizedPnl.plus (realizedPnl existing fillPrice size) }
    else if reduceOnly then venue.deletePosition asset
    else venue.setPosition asset
      { asset
        side := incomingSide
        size := size.minus existing.size
        entryPrice := fillPrice
        realizedPnl := realizedPnl existing fillPrice existing.size }

def applyFill (venue : SimulatedVenue) (params : PlaceOrderParams) (fillPrice size fee : Decimal) :
    SimulatedVenue :=
  let quoteAsset := resolveQuoteAsset params.asset
  match params.side with
  | .buy =>
    let cost := (fillPrice.times size).plus fee
    ((venue.adjustBalance quoteAsset (-cost)).adjustBalance params.asset size).updatePosition
      params.asset .long size fillPrice params.reduceOnly
  | .sell =>
    let proceeds := (fillPrice.times size).minus fee
    ((venue.adjustBalance params.asset (-size)).adjustBalance quoteAsset proceeds).updatePosition
      params.asset .short size fillPrice params.reduceOnly

variable (venue : SimulatedVenue) (params : PlaceOrderParams) (asset : String) (side : PositionSide)
  (size price : Decimal) (reduceOnly : Bool)

theorem updatePosition_config :
    (venue.updatePosition asset side size price reduceOnly).config = venue.config := by
  unfold updatePosition
  cases venue.positions.get? asset with
  | none | some existing => dsimp only; split_ifs <;> rfl

theorem updatePosition_balances :
    (venue.updatePosition asset side size price reduceOnly).balances = venue.balances := by
  unfold updatePosition
  cases venue.positions.get? asset with
  | none | some existing => dsimp only; split_ifs <;> rfl

theorem updatePosition_orders :
    (venue.updatePosition asset side size price reduceOnly).orders = venue.orders := by
  unfold updatePosition
  cases venue.positions.get? asset with
  | none | some existing => dsimp only; split_ifs <;> rfl

theorem applyFill_config (price size fee : Decimal) :
    (venue.applyFill params price size fee).config = venue.config := by
  unfold applyFill
  cases params.side <;> exact updatePosition_config _ _ _ _ _ _

theorem applyFill_orders (price size fee : Decimal) :
    (venue.applyFill params price size fee).orders = venue.orders := by
  unfold applyFill
  cases params.side <;> exact updatePosition_orders _ _ _ _ _ _

/-! ## Orders -/

/-- The identity an answer carries: the one of the order, or one derived from its asset. -/
def answerIdentity (venue : SimulatedVenue) (params : PlaceOrderParams) (source note : String) :
    CanonicalMarketIdentity :=
  match params.marketIdentity with
  | none => createCanonicalMarketIdentity
      { venueId := some venue.config.venueId
        asset := some params.asset
        marketType := .str "spot"
        marketSymbol := some params.asset
        provenance := some .derived
        capturedAtStage := .executionResult
        source
        notes := [note] }
  | some identity => captureCanonicalMarketIdentity identity .executionResult source

/-- The price of a market order: mid plus or minus slippage. -/
def marketFillPrice (venue : SimulatedVenue) (side : OrderSide) (mid : Decimal) : Decimal :=
  match side with
  | .buy => mid.times (Decimal.plus 1 venue.config.slippagePct)
  | .sell => mid.times (Decimal.minus 1 venue.config.slippagePct)

def fillMarketOrder (venue : SimulatedVenue) (params : PlaceOrderParams) (venueOrderId : String)
    (submittedAt : Date) : Except String PlaceOrderResult × SimulatedVenue :=
  match venue.getPrice params.asset with
  | .error e => (.error e, venue)
  | .ok mid =>
    let fillPrice := venue.marketFillPrice params.side mid
    let notional := fillPrice.times params.size
    let fee := notional.times venue.config.takerFeePct
    (.ok
      { venueOrderId
        clientOrderId := params.clientOrderId
        status := .filled
        filledSize := params.size
        averageFillPrice := some (fillPrice.roundPlaces 8)
        fees := some (fee.roundPlaces 8)
        submittedAt
        executionReference := some (some venueOrderId)
        executionMode := some .simulated
        marketIdentity := some (venue.answerIdentity params "simulated_market_fill"
          "Simulated market fills only expose derived spot identity.") },
      venue.applyFill params fillPrice params.size fee)

def recordOrder (venue : SimulatedVenue) (params : PlaceOrderParams) (result : PlaceOrderResult)
    (isOpen : Bool) : SimulatedVenue :=
  { venue with
    orders := venue.orders.set result.venueOrderId { params, result, isOpen }
    clientIdIndex := venue.clientIdIndex.set params.clientOrderId result.venueOrderId }

def knownOrder (venue : SimulatedVenue) (clientOrderId : String) : Option InternalOrder :=
  (venue.clientIdIndex.get? clientOrderId).bind fun venueOrderId => venue.orders.get? venueOrderId

def orderTypeText : OrderType → String
  | .market => "market"
  | .limit => "limit"
  | .postOnly => "post_only"

def placeOrder (venue : SimulatedVenue) (params : PlaceOrderParams) (submittedAt : Date) :
    Except String PlaceOrderResult × SimulatedVenue :=
  match venue.knownOrder params.clientOrderId with
  | some existing => (.ok existing.result, venue)
  | none =>
    if !venue.connected then (.error "SimulatedVenueAdapter: not connected", venue)
    else
      -- The order id is consumed also when the order is then refused.
      let venue := { venue with orderCounter := venue.orderCounter + 1 }
      let venueOrderId := s!"{venue.config.venueId}-sim-{venue.orderCounter}"
      if params.type = .market then
        match venue.fillMarketOrder params venueOrderId submittedAt with
        | (.error e, venue) => (.error e, venue)
        | (.ok result, venue) => (.ok result, venue.recordOrder params result false)
      else
        match params.price with
        | none =>
          (.error ("placeOrder: price is required for " ++ orderTypeText params.type ++ " orders"),
            venue)
        | some _ =>
          let result : PlaceOrderResult :=
            { venueOrderId
              clientOrderId := params.clientOrderId
              status := .submitted
              filledSize := 0
              averageFillPrice := none
              fees := some 0
              submittedAt
              executionReference := some (some venueOrderId)
              executionMode := some .simulated
              marketIdentity := some (venue.answerIdentity params "simulated_open_order"
                "Simulated open orders only expose derived spot identity.") }
          (.ok result, venue.recordOrder params result true)

/-! ## Resting orders -/

def limitReached (side : OrderSide) (marketPrice limitPrice : Decimal) : Bool :=
  match side with
  | .buy => marketPrice ≤ limitPrice
  | .sell => limitPrice ≤ marketPrice

def setOrder (venue : SimulatedVenue) (venueOrderId : String) (order : InternalOrder) :
    SimulatedVenue :=
  { venue with orders := venue.orders.set venueOrderId order }

/-- A limit order is filled at its own price, with the maker fee. -/
def tryFillLimitOrder (venue : SimulatedVenue) (venueOrderId : String) (order : InternalOrder) :
    SimulatedVenue :=
  match order.params.price, venue.getPrice order.params.asset with
  | some limitPrice, .ok marketPrice =>
    if limitReached order.params.side marketPrice limitPrice then
      let notional := limitPrice.times order.params.size
      let fee := notional.times venue.config.makerFeePct
      (venue.applyFill order.params limitPrice order.params.size fee).setOrder venueOrderId
        { order with
          isOpen := false
          result := { order.result with
            status := .filled
            filledSize := order.params.size
            averageFillPrice := some (limitPrice.roundPlaces 8)
            fees := some (fee.roundPlaces 8) } }
    else venue
  | _, _ => venue

/-- Asking for an open order is what fills it. -/
def getOrder (venue : SimulatedVenue) (venueOrderId : String) :
    Option PlaceOrderResult × SimulatedVenue :=
  match venue.orders.get? venueOrderId with
  | none => (none, venue)
  | some order =>
    let venue := if order.isOpen then venue.tryFillLimitOrder venueOrderId order else venue
    ((venue.orders.get? venueOrderId).map fun order => order.result, venue)

def cancelOrder (venue : SimulatedVenue) (venueOrderId : String) :
    CancelOrderResult × SimulatedVenue :=
  match venue.orders.get? venueOrderId with
  | none => ({ venueOrderId, cancelled := false, reason := some "order not found" }, venue)
  | some order =>
    if order.isOpen then
      ({ venueOrderId, cancelled := true },
        venue.setOrder venueOrderId
          { order with isOpen := false, result := { order.result with status := .rejected } })
    else
      ({ venueOrderId
         cancelled := false
         reason := some ("order is already in status \"" ++ order.result.status.text ++ "\"") },
        venue)

def setPrice (venue : SimulatedVenue) (asset : String) (price : Decimal) : SimulatedVenue :=
  { venue with
    config := { venue.config with
      deterministicPrices := venue.config.deterministicPrices.set asset price } }

/-! ## Replay -/

def resetSimulationState (venue : SimulatedVenue) : SimulatedVenue :=
  { venue with
    orderCounter := 0
    orders := OrderedMap.empty
    clientIdIndex := OrderedMap.empty
    positions := OrderedMap.empty
    balances := venue.config.initialBalances }

/-- The number after the last `-` of an order id, `0` when there is none. -/
def extractSequence (venueOrderId : String) : ℕ :=
  let suffix := (venueOrderId.toList.reverse.takeWhile fun c => c ≠ '-').reverse
  let digits := (suffix.dropWhile Char.isWhitespace).takeWhile Char.isDigit
  digits.foldl (fun n c => 10 * n + (c.toNat - '0'.toNat)) 0

def replayFilledOrder (venue : SimulatedVenue) (params : ReplayFillParams) : SimulatedVenue :=
  let orderParams : PlaceOrderParams :=
    { clientOrderId := params.clientOrderId
      asset := params.asset
      side := params.side
      type := .market
      size := params.size
      reduceOnly := params.reduceOnly
      marketIdentity := params.marketIdentity.map fun identity =>
        captureCanonicalMarketIdentity identity .runtimeOrder "simulated_replay_fill" }
  let marketIdentity := venue.answerIdentity
    { orderParams with marketIdentity := params.marketIdentity } "simulated_replay_fill"
    "Replayed simulated fills retain derived spot identity only."
  let result : PlaceOrderResult :=
    { venueOrderId := params.venueOrderId
      clientOrderId := params.clientOrderId
      status := .filled
      filledSize := params.size
      averageFillPrice := some (params.fillPrice.roundPlaces 8)
      fees := some (params.fee.roundPlaces 8)
      submittedAt := params.submittedAt
      executionReference := some (some params.venueOrderId)
      executionMode := some .simulated
      marketIdentity := some marketIdentity }
  let venue := (venue.applyFill orderParams params.fillPrice params.size params.fee).recordOrder
    orderParams result false
  { venue with orderCounter := max venue.orderCounter (extractSequence params.venueOrderId) }

end SimulatedVenue

end SentinelApex
