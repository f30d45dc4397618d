import SentinelApex.VenueAdapters.SimulatedVenue

/-!
# Fills of the simulated venue

The balances and positions of a venue are its book. A new market order and the poll of a limit
order that the market has reached are the only events with a fill (`fillOf`), and only a fill moves
the book (`handle_of_no_fill`): `placeOrder_of_marketFill` and `getOrder_of_polledFill` say to what
it is moved, `replayFilledOrder_sameBook` that a replay moves it alike.
-/

namespace SentinelApex

variable {venue v w : SimulatedVenue} {params : PlaceOrderParams} {fill : Fill}
  {venueOrderId : String}

namespace SimulatedVenue

/-! ## Events and their fills -/

inductive Event where
  | connect
  | disconnect
  | placeOrder (params : PlaceOrderParams) (submittedAt : Date)
  | getOrder (venueOrderId : String)
  | cancelOrder (venueOrderId : String)
  | setPrice (asset : String) (price : Decimal)

def handle (venue : SimulatedVenue) : Event → SimulatedVenue
  | .connect => venue.connect
  | .disconnect => venue.disconnect
  | .placeOrder params submittedAt => (venue.placeOrder params submittedAt).2
  | .getOrder venueOrderId => (venue.getOrder venueOrderId).2
  | .cancelOrder venueOrderId => (venue.cancelOrder venueOrderId).2
  | .setPrice asset price => venue.setPrice asset price

/-- A fill as the positions see it. -/
structure Fill where
  asset : String
  side : PositionSide
  size : Decimal
  price : Decimal
  reduceOnly : Bool

def incomingSide : OrderSide → PositionSide
  | .buy => .long
  | .sell => .short

def filledAt (params : PlaceOrderParams) (price : Decimal) : Fill where
  asset := params.asset
  side := incomingSide params.side
  size := params.size
  price
  reduceOnly := params.reduceOnly

/-- The fill of an open limit order whose price the market has reached. -/
def limitFill (venue : SimulatedVenue) (order : InternalOrder) : Option Fill :=
  match order.params.price, venue.getPrice order.params.asset with
  | some limitPrice, .ok marketPrice =>
    if limitReached order.params.side marketPrice limitPrice then
      some (filledAt order.params limitPrice)
    else none
  | _, _ => none

def marketFill (venue : SimulatedVenue) (params : PlaceOrderParams) : Option Fill :=
  if (venue.knownOrder params.clientOrderId).isNone = true ∧ venue.connected = true ∧
      params.type = .market then
    match venue.getPrice params.asset with
    | .ok mid => some (filledAt params (venue.marketFillPrice params.side mid))
    | .error _ => none
  else none

def polledFill (venue : SimulatedVenue) (venueOrderId : String) : Option Fill :=
  match venue.orders.get? venueOrderId with
  | some order => if order.isOpen then venue.limitFill order else none
  | none => none

def fillOf (venue : SimulatedVenue) : Event → Option Fill
  | .placeOrder params _ => venue.marketFill params
  | .getOrder venueOrderId => venue.polledFill venueOrderId
  | _ => none

theorem eq_of_marketFill (h : venue.marketFill params = some fill) :
    ∃ mid, venue.knownOrder params.clientOrderId = none ∧ venue.connected = true ∧
      params.type = .market ∧ venue.getPrice params.asset = .ok mid ∧
      fill = filledAt params (venue.marketFillPrice params.side mid) := by
  unfold marketFill at h
  split_ifs at h with hnew
  obtain ⟨hknown, hconnected, hmarket⟩ := hnew
  split at h
  · rename_i mid hmid
    exact ⟨mid, Option.isNone_iff_eq_none.1 hknown, hconnected, hmarket, hmid,
      (Option.some.inj h).symm⟩
  · cases h

theorem eq_filledAt_of_marketFill (h : venue.marketFill params = some fill) :
    fill = filledAt params fill.price := by
  obtain ⟨mid, -, -, -, -, rfl⟩ := eq_of_marketFill h
  rfl

theorem eq_of_polledFill (h : venue.polledFill venueOrderId = some fill) :
    ∃ order limitPrice marketPrice, venue.orders.get? venueOrderId = some order ∧
      order.isOpen = true ∧ order.params.price = some limitPrice ∧
      venue.getPrice order.params.asset = .ok marketPrice ∧
      limitReached order.params.side marketPrice limitPrice = true ∧
      fill = filledAt order.params limitPrice := by
  unfold polledFill at h
  split at h
  · rename_i order horder
    split_ifs at h with hopen
    unfold limitFill at h
    split at h
    · rename_i limitPrice marketPrice hlimit hmarket
      split_ifs at h with hreached
      exact ⟨order, limitPrice, marketPrice, horder, hopen, hlimit, hmarket, hreached,
        (Option.some.inj h).symm⟩
    · cases h
  · cases h

theorem getPrice_of_fillOf {event : Event} (h : venue.fillOf event = some fill) :
    ∃ price, venue.getPrice fill.asset = .ok price := by
  cases event with
  | placeOrder params submittedAt =>
    obtain ⟨mid, -, -, -, hmid, rfl⟩ := eq_of_marketFill h
    exact ⟨mid, hmid⟩
  | getOrder venueOrderId =>
    obtain ⟨order, limitPrice, marketPrice, -, -, -, hmarket, -, rfl⟩ := eq_of_polledFill h
    exact ⟨marketPrice, hmarket⟩
  | connect | disconnect | cancelOrder venueOrderId | setPrice asset price => cases h

def take (venue : SimulatedVenue) (fill : Fill) : SimulatedVenue :=
  venue.updatePosition fill.asset fill.side fill.size fill.price fill.reduceOnly

theorem updatePosition_congr (h : v.positions = w.positions) (asset : String) (side : PositionSide)
    (size price : Decimal) (reduceOnly : Bool) :
    (v.updatePosition asset side size price reduceOnly).positions =
      (w.updatePosition asset side size price reduceOnly).positions := by
  unfold updatePosition setPosition deletePosition
  rw [h]
  cases w.positions.get? asset with
  | none => dsimp only; split_ifs <;> simp [h]
  | some existing => dsimp only; split_ifs <;> simp

theorem applyFill_positions (venue : SimulatedVenue) (params : PlaceOrderParams)
    (price fee : Decimal) :
    (venue.applyFill params price params.size fee).positions =
      (venue.take (filledAt params price)).positions := by
  unfold applyFill take filledAt incomingSide
  cases params.side with
  | buy | sell =>
    apply updatePosition_congr
    rfl

end SimulatedVenue

/-! ## Books -/

/-- The venues hold the same balances and positions. -/
structure SameBook (v w : SimulatedVenue) : Prop where
  balances : v.balances = w.balances
  positions : v.positions = w.positions

theorem SameBook.refl (v : SimulatedVenue) : SameBook v v := ⟨rfl, rfl⟩

theorem SameBook.symm (h : SameBook v w) : SameBook w v :=
  ⟨h.balances.symm, h.positions.symm⟩

theorem SameBook.trans {u v w : SimulatedVenue} (h : SameBook u v) (h' : SameBook v w) :
    SameBook u w :=
  ⟨h.balances.trans h'.balances, h.positions.trans h'.positions⟩

namespace SimulatedVenue

theorem adjustBalance_sameBook (h : SameBook v w) (asset : String) (delta : Decimal) :
    SameBook (v.adjustBalance asset delta) (w.adjustBalance asset delta) := by
  refine ⟨?_, h.positions⟩
  unfold adjustBalance
  rw [h.balances]

theorem updatePosition_sameBook (h : SameBook v w) (asset : String) (side : PositionSide)
    (size price : Decimal) (reduceOnly : Bool) :
    SameBook (v.updatePosition asset side size price reduceOnly)
      (w.updatePosition asset side size price reduceOnly) := by
  refine ⟨?_, updatePosition_congr h.positions _ _ _ _ _⟩
  rw [updatePosition_balances, updatePosition_balances, h.balances]

/-- A fill moves equal books alike; of the order it reads the asset, the side and whether it only
reduces. -/
theorem applyFill_sameBook (h : SameBook v w) {p q : PlaceOrderParams} (hasset : p.asset = q.asset)
    (hside : p.side = q.side) (hreduce : p.reduceOnly = q.reduceOnly) (price size fee : Decimal) :
    SameBook (v.applyFill p price size fee) (w.applyFill q price size fee) := by
  unfold applyFill
  rw [hasset, hside, hreduce]
  cases q.side with
  | buy | sell =>
    apply updatePosition_sameBook
    apply adjustBalance_sameBook
    apply adjustBalance_sameBook
    exact h

theorem recordOrder_sameBook (venue : SimulatedVenue) (params : PlaceOrderParams)
    (result : PlaceOrderResult) (isOpen : Bool) :
    SameBook (venue.recordOrder params result isOpen) venue :=
  ⟨rfl, rfl⟩

/-- The id and the initial balances of a venue are never changed. -/
def SameOrigin (v w : SimulatedVenue) : Prop :=
  v.config.venueId = w.config.venueId ∧ v.config.initialBalances = w.config.initialBalances

theorem sameOrigin_of_config (h : v.config = w.config) : SameOrigin v w := by
  rw [SameOrigin, h]
  exact ⟨rfl, rfl⟩

theorem resetSimulationState_sameBook (h : SameOrigin v w) :
    SameBook v.resetSimulationState w.resetSimulationState :=
  ⟨h.2, rfl⟩

/-! ## Placing and polling -/

theorem getPrice_counted (venue : SimulatedVenue) (asset : String) :
    SimulatedVenue.getPrice { venue with orderCounter := venue.orderCounter + 1 } asset =
      venue.getPrice asset := rfl

/-- A new market order on a connected venue that knows the price. -/
theorem placeOrder_of_marketFill (h : venue.marketFill params = some fill) (submittedAt : Date) :
    ∃ result venue', venue.placeOrder params submittedAt = (.ok result, venue') ∧
      result.status = .filled ∧ result.filledSize = params.size ∧
      result.averageFillPrice = some (Decimal.roundPlaces fill.price 8) ∧
      fill.size = params.size ∧ venue'.config = venue.config ∧
      SameBook venue' (venue.applyFill params fill.price params.size
        (Decimal.times (Decimal.times fill.price params.size) venue.config.takerFeePct)) := by
  obtain ⟨mid, hknown, hconnected, hmarket, hprice, rfl⟩ := eq_of_marketFill h
  unfold placeOrder
  rw [hknown]
  dsimp only
  rw [if_neg (by simp [hconnected]), if_pos hmarket]
  unfold fillMarketOrder
  simp only [getPrice_counted, hprice]
  refine ⟨_, _, rfl, rfl, rfl, rfl, rfl, applyFill_config _ _ _ _ _, ?_⟩
  have hcounted : SameBook { venue with orderCounter := venue.orderCounter + 1 } venue :=
    ⟨rfl, rfl⟩
  refine (recordOrder_sameBook _ _ _ _).trans ?_
  exact applyFill_sameBook hcounted rfl rfl rfl _ _ _

theorem placeOrder_of_no_fill (h : venue.marketFill params = none) (submittedAt : Date) :
    SameBook (venue.placeOrder params submittedAt).2 venue ∧
      (venue.placeOrder params submittedAt).2.config = venue.config ∧
      (venue.knownOrder params.clientOrderId = none → ∀ result,
        (venue.placeOrder params submittedAt).1 = .ok result →
          result.averageFillPrice = none) := by
  cases hknown : venue.knownOrder params.clientOrderId with
  | some existing =>
    have hplaced : venue.placeOrder params submittedAt = (.ok existing.result, venue) := by
      simp only [placeOrder, hknown]
    rw [hplaced]
    exact ⟨SameBook.refl venue, rfl, fun hnone => by cases hnone⟩
  | none =>
    unfold placeOrder
    rw [hknown]
    dsimp only
    by_cases hconnected : venue.connected = true
    case neg =>
      rw [if_pos (by simpa using hconnected)]
      exact ⟨SameBook.refl venue, rfl, fun _ result hresult => by cases hresult⟩
    case pos =>
      rw [if_neg (by simp [hconnected])]
      by_cases hmarket : params.type = .market
      · rw [if_pos hmarket]
        unfold fillMarketOrder
        cases hprice : venue.getPrice params.asset with
        | ok mid => simp [marketFill, hknown, hconnected, hmarket, hprice] at h
        | error e =>
          simp only [getPrice_counted, hprice]
          exact ⟨⟨rfl, rfl⟩, trivial, fun _ result hresult => by cases hresult⟩
      · rw [if_neg hmarket]
        cases params.price with
        | none => exact ⟨⟨rfl, rfl⟩, rfl, fun _ result hresult => by cases hresult⟩
        | some price =>
          refine ⟨⟨rfl, rfl⟩, rfl, fun _ result hresult => ?_⟩
          obtain rfl := Except.ok.inj hresult
          rfl

theorem tryFillLimitOrder_config (venue : SimulatedVenue) (venueOrderId : String)
    (order : InternalOrder) :
    (venue.tryFillLimitOrder venueOrderId order).config = venue.config := by
  unfold tryFillLimitOrder
  split
  · split_ifs
    · exact applyFill_config _ _ _ _ _
    · rfl
  · rfl

theorem getOrder_config (venue : SimulatedVenue) (venueOrderId : String) :
    (venue.getOrder venueOrderId).2.config = venue.config := by
  unfold getOrder
  cases venue.orders.get? venueOrderId with
  | none => rfl
  | some order =>
    dsimp only
    split_ifs
    · exact venue.tryFillLimitOrder_config venueOrderId order
    · rfl

theorem getOrder_of_polledFill (h : venue.polledFill venueOrderId = some fill) :
    ∃ params fee, fill = filledAt params fill.price ∧
      SameBook (venue.getOrder venueOrderId).2
        (venue.applyFill params fill.price params.size fee) := by
  obtain ⟨order, limitPrice, marketPrice, horder, hopen, hlimit, hprice, hreached, rfl⟩ :=
    eq_of_polledFill h
  refine ⟨order.params, (limitPrice.times order.params.size).times venue.config.makerFeePct,
    rfl, ?_⟩
  unfold getOrder
  rw [horder]
  dsimp only
  rw [if_pos hopen, tryFillLimitOrder, hlimit, hprice]
  dsimp only
  rw [if_pos hreached]
  exact ⟨rfl, rfl⟩

theorem getOrder_of_no_fill (h : venue.polledFill venueOrderId = none) :
    SameBook (venue.getOrder venueOrderId).2 venue := by
  unfold polledFill at h
  unfold getOrder
  cases horder : venue.orders.get? venueOrderId with
  | none => exact SameBook.refl venue
  | some order =>
    simp only [horder] at h
    dsimp only
    by_cases hopen : order.isOpen = true
    · rw [if_pos hopen] at h ⊢
      unfold limitFill at h
      unfold tryFillLimitOrder
      cases hlimit : order.params.price with
      | none => exact SameBook.refl venue
      | some limitPrice =>
        cases hprice : venue.getPrice order.params.asset with
        | error e => exact SameBook.refl venue
        | ok marketPrice =>
          simp only [hlimit, hprice] at h
          split_ifs at h with hreached
          dsimp only
          rw [if_neg hreached]
          exact SameBook.refl venue
    · rw [if_neg hopen]
      exact SameBook.refl venue

/-! ## The other events -/

theorem cancelOrder_config (venue : SimulatedVenue) (venueOrderId : String) :
    (venue.cancelOrder venueOrderId).2.config = venue.config := by
  unfold cancelOrder
  cases venue.orders.get? venueOrderId with
  | none => rfl
  | some order =>
    dsimp only
    split_ifs <;> rfl

theorem cancelOrder_sameBook (venue : SimulatedVenue) (venueOrderId : String) :
    SameBook (venue.cancelOrder venueOrderId).2 venue := by
  unfold cancelOrder
  cases venue.orders.get? venueOrderId with
  | none => exact SameBook.refl venue
  | some order =>
    dsimp only
    split_ifs
    · exact ⟨rfl, rfl⟩
    · exact SameBook.refl venue

/-- Only fills move a book. -/
theorem handle_of_no_fill {event : Event} (h : venue.fillOf event = none) :
    SameBook (venue.handle event) venue ∧ SameOrigin (venue.handle event) venue := by
  cases event with
  | connect | disconnect | setPrice asset price => exact ⟨⟨rfl, rfl⟩, rfl, rfl⟩
  | placeOrder params submittedAt =>
    obtain ⟨hbook, hconfig, -⟩ := placeOrder_of_no_fill (show venue.marketFill params = none from h)
      submittedAt
    exact ⟨hbook, sameOrigin_of_config hconfig⟩
  | getOrder venueOrderId =>
    exact ⟨getOrder_of_no_fill (show venue.polledFill venueOrderId = none from h),
      sameOrigin_of_config (venue.getOrder_config venueOrderId)⟩
  | cancelOrder venueOrderId =>
    exact ⟨venue.cancelOrder_sameBook venueOrderId,
      sameOrigin_of_config (venue.cancelOrder_config venueOrderId)⟩

/-! ## Replay -/

def replayedParams (params : ReplayFillParams) : PlaceOrderParams where
  clientOrderId := params.clientOrderId
  asset := params.asset
  side := params.side
  type := .market
  size := params.size
  reduceOnly := params.reduceOnly

theorem replayFilledOrder_sameBook (h : SameBook v w) (params : ReplayFillParams) :
    SameBook (v.replayFilledOrder params)
      (w.applyFill (replayedParams params) params.fillPrice params.size params.fee) := by
  have hrecord : SameBook (v.replayFilledOrder params) (v.applyFill (replayedParams params)
      params.fillPrice params.size params.fee) := by
    have hfill : SameBook (v.replayFilledOrder params) (v.applyFill
        { replayedParams params with
          marketIdentity := params.marketIdentity.map fun identity =>
            captureCanonicalMarketIdentity identity .runtimeOrder "simulated_replay_fill" }
        params.fillPrice params.size params.fee) := ⟨rfl, rfl⟩
    exact hfill.trans (applyFill_sameBook (SameBook.refl v) rfl rfl rfl _ _ _)
  exact hrecord.trans (applyFill_sameBook h rfl rfl rfl _ _ _)

end SimulatedVenue

end SentinelApex
