import SentinelApex.Lib.Runs
import SentinelApex.Lib.Separated
import SentinelApex.VenueAdapters.SimulatedFills

/-!
# Calls that wait for a price

A call of the simulated venue gives way to others while it waits: a market order for its price and
then for its fill to come back to `placeOrder`, the poll of a limit order for its price. A
`VenueDesk` is a venue with the calls that wait; they are resumed in any order.

What a call checked before it waited need not hold when it is resumed: a second market order of a
client is placed, a limit order is filled twice, or after its cancellation. Where the checks still
hold, each client order is filled at most once (`filledOnce_of_along`).
-/

namespace SentinelApex

open SimulatedVenue

/-! ## Filling at a given price -/

namespace SimulatedVenue

/-- `_nextOrderId` for the `n`th order. -/
def orderId (venueId : String) (n : ℕ) : String := s!"{venueId}-sim-{n}"

theorem orderId_injective (venueId : String) {m n : ℕ} (h : orderId venueId m = orderId venueId n) :
    m = n := by
  have hlist := congrArg String.toList h
  simp only [orderId, String.toList_append, toString] at hlist
  exact Separated.natRepr_toList_inj (List.append_cancel_left hlist)

/-- The rest of `_fillMarketOrder` once the price is there. -/
def fillMarketOrderAt (venue : SimulatedVenue) (params : PlaceOrderParams) (venueOrderId : String)
    (submittedAt : Date) (mid : Decimal) : PlaceOrderResult × SimulatedVenue :=
  let fillPrice := venue.marketFillPrice params.side mid
  let notional := fillPrice.times params.size
  let fee := notional.times venue.config.takerFeePct
  ({ venueOrderId
     clientOrderId := params.clientOrderId
     status := .filled
     filledSize := params.size
     averageFillPrice := some (fillPrice.roundPlaces 8)
     fees := some (fee.roundPlaces 8)
     submittedAt
     executionReference := some (some venueOrderId)
     executionMode := some .simulated
     marketIdentity := some (venue.answerIdentity params "simulated_market_fill"
       "Simulated market fills only expose derived spot identity.") },
    venue.applyFill params fillPrice params.size fee)

theorem fillMarketOrder_eq (venue : SimulatedVenue) (params : PlaceOrderParams)
    (venueOrderId : String) (submittedAt : Date) :
    venue.fillMarketOrder params venueOrderId submittedAt =
      match venue.getPrice params.asset with
      | .error e => (.error e, venue)
      | .ok mid =>
        (.ok (venue.fillMarketOrderAt params venueOrderId submittedAt mid).1,
          (venue.fillMarketOrderAt params venueOrderId submittedAt mid).2) := by
  unfold fillMarketOrder
  cases venue.getPrice params.asset <;> rfl

/-- The rest of `_tryFillLimitOrder` for an order whose price the market has reached. -/
def fillLimitOrderAt (venue : SimulatedVenue) (venueOrderId : String) (order : InternalOrder)
    (limitPrice : Decimal) : SimulatedVenue :=
  let notional := limitPrice.times order.params.size
  let fee := notional.times venue.config.makerFeePct
  (venue.applyFill order.params limitPrice order.params.size fee).setOrder venueOrderId
    { order with
      isOpen := false
      result := { order.result with
        status := .filled
        filledSize := order.params.size
        averageFillPrice := some (limitPrice.roundPlaces 8)
        fees := some (fee.roundPlaces 8) } }

def fillRecord (params : PlaceOrderParams) (venueOrderId : String) (submittedAt : Date)
    (fillPrice fee : Decimal) : ReplayFillParams where
  venueOrderId
  clientOrderId := params.clientOrderId
  asset := params.asset
  side := params.side
  size := params.size
  fillPrice
  fee
  reduceOnly := params.reduceOnly
  submittedAt
  marketIdentity := params.marketIdentity

end SimulatedVenue

/-! ## The desk -/

inductive PendingCall where
  /-- A market order waits for its price. -/
  | marketPrice (params : PlaceOrderParams) (venueOrderId : String) (submittedAt : Date)
  /-- A market order is filled and has not come back to `placeOrder`, which records it. -/
  | marketFilled (params : PlaceOrderParams) (result : PlaceOrderResult)
  /-- The poll of a limit order waits for the price. -/
  | limitPrice (venueOrderId : String)

/-- A venue, the calls that wait, and what happened: the fills in their order, and the orders of
which a cancellation was confirmed. -/
structure VenueDesk where
  venue : SimulatedVenue
  pending : List PendingCall
  fills : List ReplayFillParams
  cancelled : List String

def PendingCall.Records (clientOrderId : String) : PendingCall → Prop
  | .marketFilled params _ => params.clientOrderId = clientOrderId
  | _ => False

instance (clientOrderId : String) : DecidablePred (PendingCall.Records clientOrderId)
  | .marketPrice _ _ _ => isFalse id
  | .marketFilled _ _ => inferInstanceAs (Decidable (_ = _))
  | .limitPrice _ => isFalse id

def PendingCall.marketId : PendingCall → Option String
  | .marketPrice _ venueOrderId _ => some venueOrderId
  | .marketFilled _ result => some result.venueOrderId
  | .limitPrice _ => none

variable {params : PlaceOrderParams} {venueOrderId id : String} {price : Except String Decimal}
  {call : PendingCall} {venue : SimulatedVenue} {i : ℕ}

namespace VenueDesk

def start (config : SimulatedVenueConfig) : VenueDesk where
  venue := SimulatedVenue.create config
  pending := []
  fills := []
  cancelled := []

/-- A new call, or the call at a place of the waiting ones is resumed; where it waits for a price,
with what the feed answers. -/
inductive Event where
  | connect
  | disconnect
  | placeOrder (params : PlaceOrderParams) (submittedAt : Date)
  | getOrder (venueOrderId : String)
  | cancelOrder (venueOrderId : String)
  | resume (i : ℕ) (price : Except String Decimal)

/-- `placeOrder` up to its first wait; without one it is the whole call. -/
def beginPlaceOrder (d : VenueDesk) (params : PlaceOrderParams) (submittedAt : Date) : VenueDesk :=
  if (d.venue.knownOrder params.clientOrderId).isNone = true ∧ d.venue.connected = true ∧
      params.type = .market then
    { d with
      venue := { d.venue with orderCounter := d.venue.orderCounter + 1 }
      pending := d.pending ++ [.marketPrice params
        (orderId d.venue.config.venueId (d.venue.orderCounter + 1)) submittedAt] }
  else { d with venue := (d.venue.placeOrder params submittedAt).2 }

/-- `getOrder` up to its wait: only an open order with a price is polled. -/
def beginGetOrder (d : VenueDesk) (venueOrderId : String) : VenueDesk :=
  match d.venue.orders.get? venueOrderId with
  | none => d
  | some order =>
    if order.isOpen = true ∧ order.params.price.isSome = true then
      { d with pending := d.pending ++ [.limitPrice venueOrderId] }
    else d

def cancelOrder (d : VenueDesk) (venueOrderId : String) : VenueDesk :=
  { d with
    venue := (d.venue.cancelOrder venueOrderId).2
    cancelled :=
      if (d.venue.cancelOrder venueOrderId).1.cancelled then d.cancelled ++ [venueOrderId]
      else d.cancelled }

/-- A market order gets its price; without one the call throws. -/
def resumeMarketPrice (d : VenueDesk) (params : PlaceOrderParams) (venueOrderId : String)
    (submittedAt : Date) : Except String Decimal → VenueDesk
  | .error _ => d
  | .ok mid =>
    let fillPrice := d.venue.marketFillPrice params.side mid
    let fee := (fillPrice.times params.size).times d.venue.config.takerFeePct
    { d with
      venue := (d.venue.fillMarketOrderAt params venueOrderId submittedAt mid).2
      pending := d.pending ++
        [.marketFilled params (d.venue.fillMarketOrderAt params venueOrderId submittedAt mid).1]
      fills := d.fills ++ [fillRecord params venueOrderId submittedAt fillPrice fee] }

/-- The order that a poll fills at a price of the feed, and its limit. The poll holds the order
itself, which is the recorded one: an order once recorded is changed and never replaced. -/
def reachedOrder (d : VenueDesk) (venueOrderId : String) (price : Except String Decimal) :
    Option (InternalOrder × Decimal) :=
  match d.venue.orders.get? venueOrderId, price with
  | some order, .ok marketPrice =>
    order.params.price.bind fun limitPrice =>
      if limitReached order.params.side marketPrice limitPrice then some (order, limitPrice)
      else none
  | _, _ => none

def resumeLimitPrice (d : VenueDesk) (venueOrderId : String) (price : Except String Decimal) :
    VenueDesk :=
  match d.reachedOrder venueOrderId price with
  | none => d
  | some (order, limitPrice) =>
    { d with
      venue := d.venue.fillLimitOrderAt venueOrderId order limitPrice
      fills := d.fills ++ [fillRecord order.params venueOrderId order.result.submittedAt limitPrice
        ((limitPrice.times order.params.size).times d.venue.config.makerFeePct)] }

def resumeCall (d : VenueDesk) (call : PendingCall) (price : Except String Decimal) : VenueDesk :=
  match call with
  | .marketPrice params venueOrderId submittedAt =>
    d.resumeMarketPrice params venueOrderId submittedAt price
  | .marketFilled params result => { d with venue := d.venue.recordOrder params result false }
  | .limitPrice venueOrderId => d.resumeLimitPrice venueOrderId price

def step (d : VenueDesk) : Event → VenueDesk
  | .connect => { d with venue := d.venue.connect }
  | .disconnect => { d with venue := d.venue.disconnect }
  | .placeOrder params submittedAt => d.beginPlaceOrder params submittedAt
  | .getOrder venueOrderId => d.beginGetOrder venueOrderId
  | .cancelOrder venueOrderId => d.cancelOrder venueOrderId
  | .resume i price =>
    match d.pending[i]? with
    | none => d
    | some call => { d with pending := d.pending.eraseIdx i }.resumeCall call price

/-! ## Lone calls -/

variable {d : VenueDesk}

theorem placeOrder_market
    (hnew : (venue.knownOrder params.clientOrderId).isNone = true ∧ venue.connected = true ∧
      params.type = .market) (submittedAt : Date) :
    (venue.placeOrder params submittedAt).2 =
      match venue.getPrice params.asset with
      | .error _ => { venue with orderCounter := venue.orderCounter + 1 }
      | .ok mid =>
        let filled := SimulatedVenue.fillMarketOrderAt
          { venue with orderCounter := venue.orderCounter + 1 } params
          (orderId venue.config.venueId (venue.orderCounter + 1)) submittedAt mid
        filled.2.recordOrder params filled.1 false := by
  obtain ⟨hknown, hconnected, hmarket⟩ := hnew
  unfold placeOrder
  rw [Option.isNone_iff_eq_none.1 hknown]
  dsimp only
  rw [if_neg (by simp [hconnected]), if_pos hmarket, fillMarketOrder_eq, getPrice_counted]
  cases venue.getPrice params.asset <;> rfl

/-- A call of `placeOrder` that is resumed at once does what `placeOrder` does. -/
theorem placeOrder_resumed (hpending : d.pending = []) (params : PlaceOrderParams)
    (submittedAt : Date) (price : Except String Decimal) :
    let d' := ((d.step (.placeOrder params submittedAt)).step
      (.resume 0 (d.venue.getPrice params.asset))).step (.resume 0 price)
    d'.venue = (d.venue.placeOrder params submittedAt).2 ∧ d'.pending = [] := by
  obtain ⟨venue, pending, fills, cancelled⟩ := d
  obtain rfl : pending = [] := hpending
  by_cases hnew : (venue.knownOrder params.clientOrderId).isNone = true ∧
    venue.connected = true ∧ params.type = .market
  · have hbegin : (VenueDesk.mk venue [] fills cancelled).step (.placeOrder params submittedAt) =
        ⟨{ venue with orderCounter := venue.orderCounter + 1 },
          [.marketPrice params (orderId venue.config.venueId (venue.orderCounter + 1)) submittedAt],
          fills, cancelled⟩ := if_pos hnew
    rw [hbegin, placeOrder_market hnew]
    dsimp only
    cases venue.getPrice params.asset <;> exact ⟨rfl, rfl⟩
  · have hbegin : (VenueDesk.mk venue [] fills cancelled).step (.placeOrder params submittedAt) =
        ⟨(venue.placeOrder params submittedAt).2, [], fills, cancelled⟩ := if_neg hnew
    rw [hbegin]
    exact ⟨rfl, rfl⟩

theorem getOrder_resumed (hpending : d.pending = []) {order : InternalOrder}
    (horder : d.venue.orders.get? venueOrderId = some order) :
    let d' := (d.step (.getOrder venueOrderId)).step
      (.resume 0 (d.venue.getPrice order.params.asset))
    d'.venue = (d.venue.getOrder venueOrderId).2 ∧ d'.pending = [] := by
  simp only [step, beginGetOrder, horder, getOrder]
  by_cases hopen : order.isOpen = true
  · cases hlimit : order.params.price with
    | none => simp [hopen, hpending, tryFillLimitOrder, hlimit]
    | some limitPrice =>
      simp only [hopen, hpending, tryFillLimitOrder, hlimit]
      cases hprice : d.venue.getPrice order.params.asset with
      | error e => simp [resumeCall, resumeLimitPrice, reachedOrder, horder]
      | ok marketPrice =>
        by_cases hreached : limitReached order.params.side marketPrice limitPrice = true
        all_goals
          simp [hlimit, resumeCall, resumeLimitPrice, reachedOrder, horder, hreached,
            fillLimitOrderAt]
  · simp [hopen, hpending]

/-- The desk makes the calls of a venue; it does not set its prices. -/
def isCall : SimulatedVenue.Event → Bool
  | .setPrice _ _ => false
  | _ => true

theorem exists_run_call (hpending : d.pending = []) (c : SimulatedVenue.Event) :
    ∃ events : List Event,
      (events.foldl step d).venue = ([c].filter isCall).foldl SimulatedVenue.handle d.venue ∧
      (events.foldl step d).pending = [] := by
  cases c with
  | connect => exact ⟨[.connect], rfl, hpending⟩
  | disconnect => exact ⟨[.disconnect], rfl, hpending⟩
  | placeOrder params submittedAt =>
    exact ⟨[.placeOrder params submittedAt, .resume 0 _, .resume 0 (.error "")],
      placeOrder_resumed hpending params submittedAt _⟩
  | getOrder venueOrderId =>
    cases horder : d.venue.orders.get? venueOrderId with
    | none =>
      refine ⟨[.getOrder venueOrderId], ?_⟩
      show (d.beginGetOrder venueOrderId).venue = (d.venue.getOrder venueOrderId).2 ∧ _
      simp [step, beginGetOrder, getOrder, horder, hpending]
    | some order =>
      exact ⟨[.getOrder venueOrderId, .resume 0 _], getOrder_resumed hpending horder⟩
  | cancelOrder venueOrderId => exact ⟨[.cancelOrder venueOrderId], rfl, hpending⟩
  | setPrice asset price => exact ⟨[], rfl, hpending⟩

/-- Calls that come one after the other are a run of the desk. -/
theorem exists_run_calls (config : SimulatedVenueConfig) (calls : List SimulatedVenue.Event) :
    ∃ events : List Event,
      (events.foldl step (start config)).venue =
        (calls.filter isCall).foldl SimulatedVenue.handle (SimulatedVenue.create config) ∧
      (events.foldl step (start config)).pending = [] := by
  induction calls using List.reverseRecOn with
  | nil => exact ⟨[], rfl, rfl⟩
  | append_singleton calls c ih =>
    obtain ⟨events, hvenue, hpending⟩ := ih
    obtain ⟨events', hrun⟩ := exists_run_call hpending c
    refine ⟨events ++ events', ?_⟩
    rwa [List.foldl_append, List.filter_append, List.foldl_append, ← hvenue]

/-! ## The steps -/

theorem applyFill_eq (venue : SimulatedVenue) (params : PlaceOrderParams)
    (price size fee : Decimal) :
    ∃ balances positions, venue.applyFill params price size fee =
      { venue with balances, positions } := by
  have hposition : ∀ (v : SimulatedVenue) asset side reduceOnly,
      ∃ positions, v.updatePosition asset side size price reduceOnly = { v with positions } := by
    intro v asset side reduceOnly
    unfold updatePosition
    cases v.positions.get? asset with
    | none | some existing => dsimp only; split_ifs <;> exact ⟨_, rfl⟩
  unfold applyFill
  cases params.side with
  | buy =>
    obtain ⟨positions, heq⟩ := hposition ((venue.adjustBalance (resolveQuoteAsset params.asset)
      (-((price.times size).plus fee))).adjustBalance params.asset size) params.asset .long
      params.reduceOnly
    exact ⟨_, positions, heq⟩
  | sell =>
    obtain ⟨positions, heq⟩ := hposition ((venue.adjustBalance params.asset (-size)).adjustBalance
      (resolveQuoteAsset params.asset) ((price.times size).minus fee)) params.asset .short
      params.reduceOnly
    exact ⟨_, positions, heq⟩

theorem cancelOrder_cases (d : VenueDesk) (venueOrderId : String) :
    d.cancelOrder venueOrderId = d ∨
    ∃ order order', d.venue.orders.get? venueOrderId = some order ∧ order.isOpen = true ∧
      order'.isOpen = false ∧
      d.cancelOrder venueOrderId =
        { d with
          venue := d.venue.setOrder venueOrderId order'
          cancelled := d.cancelled ++ [venueOrderId] } := by
  cases horder : d.venue.orders.get? venueOrderId with
  | none => simp [VenueDesk.cancelOrder, SimulatedVenue.cancelOrder, horder]
  | some order =>
    by_cases hopen : order.isOpen = true
    · right
      refine ⟨order, { order with
        isOpen := false, result := { order.result with status := .rejected } }, rfl, hopen, rfl, ?_⟩
      simp only [VenueDesk.cancelOrder, SimulatedVenue.cancelOrder, horder, hopen, if_true]
    · simp [VenueDesk.cancelOrder, SimulatedVenue.cancelOrder, horder, hopen]

/-- Without a wait, a call of `placeOrder` leaves the orders as they are or records a new open
one. -/
theorem placeOrder_cases
    (hnew : ¬ ((venue.knownOrder params.clientOrderId).isNone = true ∧ venue.connected = true ∧
      params.type = .market)) (submittedAt : Date) :
    (∃ n, venue.orderCounter ≤ n ∧
      (venue.placeOrder params submittedAt).2 = { venue with orderCounter := n }) ∨
    ∃ result, venue.knownOrder params.clientOrderId = none ∧
      result.venueOrderId = orderId venue.config.venueId (venue.orderCounter + 1) ∧
      (venue.placeOrder params submittedAt).2 =
        SimulatedVenue.recordOrder { venue with orderCounter := venue.orderCounter + 1 } params
          result true := by
  unfold placeOrder
  cases hknown : venue.knownOrder params.clientOrderId with
  | some existing => exact Or.inl ⟨_, le_rfl, rfl⟩
  | none =>
    dsimp only
    by_cases hconnected : venue.connected = true
    · have hmarket : params.type ≠ .market := fun h => hnew ⟨by simp [hknown], hconnected, h⟩
      rw [if_neg (by simp [hconnected]), if_neg hmarket]
      cases params.price with
      | none => exact Or.inl ⟨_, Nat.le_succ _, rfl⟩
      | some price => exact Or.inr ⟨_, rfl, rfl, rfl⟩
    · rw [if_pos (by simpa using hconnected)]
      exact Or.inl ⟨_, le_rfl, rfl⟩

theorem mem_pending (hi : d.pending[i]? = some call) (call' : PendingCall) :
    call' ∈ d.pending ↔ call' = call ∨ call' ∈ d.pending.eraseIdx i := by
  obtain ⟨hlt, rfl⟩ := List.getElem?_eq_some_iff.1 hi
  rw [← (List.getElem_cons_eraseIdx_perm hlt).mem_iff, List.mem_cons]

theorem eq_of_reachedOrder {reached : InternalOrder × Decimal}
    (h : d.reachedOrder venueOrderId price = some reached) :
    d.venue.orders.get? venueOrderId = some reached.1 := by
  unfold reachedOrder at h
  split at h
  · rename_i order marketPrice horder
    obtain ⟨limitPrice, -, hif⟩ := Option.bind_eq_some_iff.1 h
    split_ifs at hif
    rw [horder, ← Option.some.inj hif]
  · cases h

/-! ### Ids -/

def filledIds (d : VenueDesk) : List String :=
  d.fills.map (·.venueOrderId) ++ d.pending.filterMap PendingCall.marketId

def Knows (d : VenueDesk) (venueOrderId : String) : Prop :=
  venueOrderId ∈ d.filledIds ++ d.cancelled ∨
    (d.venue.orders.get? venueOrderId).isSome = true

/-- Ids are those of the counter. -/
def Issued (d : VenueDesk) : Prop :=
  ∀ venueOrderId, d.Knows venueOrderId →
    ∃ n ≤ d.venue.orderCounter, venueOrderId = orderId d.venue.config.venueId n

theorem knows_iff :
    d.Knows venueOrderId ↔ (∃ fill ∈ d.fills, fill.venueOrderId = venueOrderId) ∨
      (∃ call ∈ d.pending, call.marketId = some venueOrderId) ∨ venueOrderId ∈ d.cancelled ∨
        (d.venue.orders.get? venueOrderId).isSome = true := by
  simp only [Knows, filledIds, List.mem_append, List.mem_map, List.mem_filterMap, or_assoc]

theorem isSome_get?_set_iff {V : Type} (m : OrderedMap String V) (k k' : String) (v : V) :
    ((m.set k v).get? k').isSome = true ↔ k = k' ∨ (m.get? k').isSome = true := by
  rw [OrderedMap.get?_set]
  split_ifs with h
  · simp [h]
  · simp [h]

theorem resumeCall_frame (d : VenueDesk) (call : PendingCall) (price : Except String Decimal) :
    (d.resumeCall call price).venue.config = d.venue.config ∧
      (d.resumeCall call price).venue.orderCounter = d.venue.orderCounter := by
  cases call with
  | marketPrice params venueOrderId submittedAt =>
    cases price with
    | error message => exact ⟨rfl, rfl⟩
    | ok mid =>
      obtain ⟨balances, positions, heq⟩ := applyFill_eq d.venue params
        (d.venue.marketFillPrice params.side mid) params.size
        (((d.venue.marketFillPrice params.side mid).times params.size).times
          d.venue.config.takerFeePct)
      simp only [resumeCall, resumeMarketPrice, fillMarketOrderAt, heq, and_self]
  | marketFilled params result => exact ⟨rfl, rfl⟩
  | limitPrice venueOrderId =>
    simp only [resumeCall, resumeLimitPrice]
    cases d.reachedOrder venueOrderId price with
    | none => exact ⟨rfl, rfl⟩
    | some reached =>
      obtain ⟨balances, positions, heq⟩ := applyFill_eq d.venue reached.1.params reached.2
        reached.1.params.size ((reached.2.times reached.1.params.size).times
          d.venue.config.makerFeePct)
      simp only [fillLimitOrderAt, heq, setOrder, and_self]

theorem knows_waiting (h : ({ d with pending := d.pending ++ [call] } : VenueDesk).Knows id) :
    d.Knows id ∨ call.marketId = some id := by
  rw [knows_iff] at h ⊢
  rcases h with h | ⟨call', hmem, hid⟩ | h
  · exact Or.inl (Or.inl h)
  · rcases List.mem_append.1 hmem with hmem | hmem
    · exact Or.inl (Or.inr (Or.inl ⟨call', hmem, hid⟩))
    · rw [List.mem_singleton.1 hmem] at hid
      exact Or.inr hid
  · exact Or.inl (Or.inr (Or.inr h))

theorem knows_erase (hi : d.pending[i]? = some call)
    (h : ({ d with pending := d.pending.eraseIdx i } : VenueDesk).Knows id) : d.Knows id := by
  rw [knows_iff] at h ⊢
  refine h.imp_right (Or.imp_left ?_)
  rintro ⟨call', hmem, hid⟩
  exact ⟨call', (mem_pending hi call').2 (Or.inr hmem), hid⟩

theorem knows_of_pending (hi : d.pending[i]? = some call) (hid : call.marketId = some id) :
    d.Knows id :=
  knows_iff.2 (Or.inr (Or.inl ⟨call, List.mem_of_getElem? hi, hid⟩))

theorem knows_resumeMarketPrice {submittedAt : Date}
    (h : (d.resumeMarketPrice params venueOrderId submittedAt price).Knows id) :
    d.Knows id ∨ venueOrderId = id := by
  cases price with
  | error message => exact Or.inl h
  | ok mid =>
    have horders : ∀ size price fee,
        (d.venue.applyFill params price size fee).orders = d.venue.orders :=
      fun size price fee => applyFill_orders _ _ _ _ _
    rw [knows_iff] at h
    simp only [resumeMarketPrice, fillMarketOrderAt, horders, List.mem_append,
      List.mem_singleton] at h
    rcases h with ⟨fill, hfill | rfl, hid⟩ | ⟨call', hmem | rfl, hid⟩ | h
    · exact Or.inl (knows_iff.2 (Or.inl ⟨fill, hfill, hid⟩))
    · exact Or.inr hid
    · exact Or.inl (knows_iff.2 (Or.inr (Or.inl ⟨call', hmem, hid⟩)))
    · exact Or.inr (Option.some.inj hid)
    · exact Or.inl (knows_iff.2 (Or.inr (Or.inr h)))

theorem knows_resumeLimitPrice (h : (d.resumeLimitPrice venueOrderId price).Knows id) :
    d.Knows id := by
  unfold resumeLimitPrice at h
  cases hreached : d.reachedOrder venueOrderId price with
  | none =>
    rw [hreached] at h
    exact h
  | some reached =>
    have horder := eq_of_reachedOrder hreached
    have hknown : d.Knows venueOrderId := Or.inr (Option.isSome_iff_exists.2 ⟨_, horder⟩)
    have horders : ∀ params size price fee,
        (d.venue.applyFill params price size fee).orders = d.venue.orders :=
      fun params size price fee => applyFill_orders _ _ _ _ _
    rw [hreached, knows_iff] at h
    simp only [fillLimitOrderAt, setOrder, horders, List.mem_append, List.mem_singleton,
      isSome_get?_set_iff] at h
    rcases h with ⟨fill, hfill | rfl, hid⟩ | h | h | rfl | h
    · exact knows_iff.2 (Or.inl ⟨fill, hfill, hid⟩)
    · exact (show venueOrderId = id from hid) ▸ hknown
    · exact knows_iff.2 (Or.inr (Or.inl h))
    · exact knows_iff.2 (Or.inr (Or.inr (Or.inl h)))
    · exact hknown
    · exact knows_iff.2 (Or.inr (Or.inr (Or.inr h)))

theorem knows_resumeCall (hi : d.pending[i]? = some call)
    (h : (({ d with pending := d.pending.eraseIdx i } : VenueDesk).resumeCall call price).Knows
      id) : d.Knows id := by
  cases call with
  | marketPrice params venueOrderId submittedAt =>
    rcases knows_resumeMarketPrice h with h | heq
    · exact knows_erase hi h
    · exact knows_of_pending hi (congrArg some heq)
  | marketFilled params result =>
    rcases h with h | h
    · exact knows_erase hi (Or.inl h)
    · rcases (isSome_get?_set_iff _ _ _ _).1 h with heq | h
      · exact knows_of_pending hi (congrArg some heq)
      · exact knows_erase hi (Or.inr h)
  | limitPrice venueOrderId => exact knows_erase hi (knows_resumeLimitPrice h)

theorem knows_step (d : VenueDesk) (event : Event) :
    (d.step event).venue.config = d.venue.config ∧
      d.venue.orderCounter ≤ (d.step event).venue.orderCounter ∧
      ∀ venueOrderId, (d.step event).Knows venueOrderId → d.Knows venueOrderId ∨
        d.venue.orderCounter + 1 ≤ (d.step event).venue.orderCounter ∧
          venueOrderId = orderId d.venue.config.venueId (d.venue.orderCounter + 1) := by
  cases event with
  | connect | disconnect => exact ⟨rfl, le_rfl, fun id h => Or.inl h⟩
  | placeOrder params submittedAt =>
    simp only [step, beginPlaceOrder]
    split_ifs with hnew
    · refine ⟨rfl, Nat.le_succ _, fun id h => ?_⟩
      refine (knows_waiting (d := { d with
        venue := { d.venue with orderCounter := d.venue.orderCounter + 1 } }) h).imp_right ?_
      exact fun heq => ⟨le_rfl, (Option.some.inj heq).symm⟩
    · rcases placeOrder_cases hnew submittedAt with ⟨n, hn, heq⟩ | ⟨result, -, hresult, heq⟩
      · rw [heq]
        exact ⟨rfl, hn, fun id h => Or.inl h⟩
      · rw [heq]
        refine ⟨rfl, Nat.le_succ _, fun id h => ?_⟩
        rcases h with h | h
        · exact Or.inl (Or.inl h)
        · rcases (isSome_get?_set_iff _ _ _ _).1 h with rfl | h
          · exact Or.inr ⟨le_rfl, hresult⟩
          · exact Or.inl (Or.inr h)
  | getOrder venueOrderId =>
    simp only [step, beginGetOrder]
    cases d.venue.orders.get? venueOrderId with
    | none => exact ⟨rfl, le_rfl, fun id h => Or.inl h⟩
    | some order =>
      dsimp only
      split_ifs
      · refine ⟨rfl, le_rfl, fun id h => Or.inl ?_⟩
        exact (knows_waiting h).resolve_right fun heq => by cases heq
      · exact ⟨rfl, le_rfl, fun id h => Or.inl h⟩
  | cancelOrder venueOrderId =>
    rcases d.cancelOrder_cases venueOrderId with heq | ⟨order, order', horder, -, -, heq⟩
    · rw [step, heq]
      exact ⟨rfl, le_rfl, fun id h => Or.inl h⟩
    · rw [step, heq]
      refine ⟨rfl, le_rfl, fun id h => Or.inl ?_⟩
      have hknown : d.Knows venueOrderId := Or.inr (Option.isSome_iff_exists.2 ⟨order, horder⟩)
      rw [knows_iff] at h
      simp only [setOrder, List.mem_append, List.mem_singleton, isSome_get?_set_iff] at h
      rcases h with h | h | (h | rfl) | rfl | h
      · exact knows_iff.2 (Or.inl h)
      · exact knows_iff.2 (Or.inr (Or.inl h))
      · exact knows_iff.2 (Or.inr (Or.inr (Or.inl h)))
      · exact hknown
      · exact hknown
      · exact Or.inr h
  | resume i price =>
    simp only [step]
    cases hi : d.pending[i]? with
    | none => exact ⟨rfl, le_rfl, fun id h => Or.inl h⟩
    | some call =>
      obtain ⟨hconfig, hcounter⟩ := resumeCall_frame
        { d with pending := d.pending.eraseIdx i } call price
      exact ⟨hconfig, hcounter.ge, fun id h => Or.inl (knows_resumeCall hi h)⟩

theorem Issued.step (h : d.Issued) (event : Event) : (d.step event).Issued := by
  obtain ⟨hconfig, hcounter, hknows⟩ := d.knows_step event
  intro id hid
  rw [hconfig]
  rcases hknows id hid with hid | ⟨hnext, rfl⟩
  · obtain ⟨n, hn, rfl⟩ := h id hid
    exact ⟨n, hn.trans hcounter, rfl⟩
  · exact ⟨_, hnext, rfl⟩

variable (config : SimulatedVenueConfig) (events : List Event)

theorem issued_run :
    (events.foldl step (start config)).Issued := by
  have hstart : (start config).Issued := by
    simp [Issued, Knows, start, filledIds, SimulatedVenue.create]
  exact List.foldlRecOn events step hstart fun d h event _ => h.step event

theorem Issued.next_id (h : d.Issued) :
    orderId d.venue.config.venueId (d.venue.orderCounter + 1) ∉ d.filledIds ++ d.cancelled ∧
      d.venue.orders.get? (orderId d.venue.config.venueId (d.venue.orderCounter + 1)) = none := by
  have hnot : ¬ d.Knows (orderId d.venue.config.venueId (d.venue.orderCounter + 1)) := by
    intro hknows
    obtain ⟨n, hn, heq⟩ := h _ hknows
    have := orderId_injective _ heq
    omega
  refine ⟨fun hmem => hnot (Or.inl hmem), ?_⟩
  by_contra hsome
  exact hnot (Or.inr (Option.isSome_iff_ne_none.2 hsome))

/-! ## Runs in which the checks still hold -/

/-- Each client order is filled at most once, and no order of which a cancellation was confirmed. -/
structure FilledOnce (d : VenueDesk) : Prop where
  clients : (d.fills.map (·.clientOrderId)).Nodup
  uncancelled : ∀ fill ∈ d.fills, fill.venueOrderId ∉ d.cancelled

/-- A market order of the client is filled and has not been recorded yet. -/
def Unrecorded (d : VenueDesk) (clientOrderId : String) : Prop :=
  ∃ call ∈ d.pending, call.Records clientOrderId

instance (d : VenueDesk) (clientOrderId : String) : Decidable (d.Unrecorded clientOrderId) :=
  inferInstanceAs (Decidable (∃ call ∈ _, _))

/-- What a call checked before it waited still holds when it is resumed and fills: no order is
recorded under the client id of a market order, or about to be, and a limit order is open. -/
def Check (d : VenueDesk) (price : Except String Decimal) : PendingCall → Prop
  | .marketPrice params _ _ => price.isOk = true →
    (d.venue.knownOrder params.clientOrderId).isNone = true ∧ ¬ d.Unrecorded params.clientOrderId
  | .limitPrice venueOrderId =>
    ∀ reached ∈ d.reachedOrder venueOrderId price, reached.1.isOpen = true
  | .marketFilled _ _ => True

/-- The checks of the calls still hold, and no call of `placeOrder` looks for its client id between
a fill and its record. -/
def Admits (d : VenueDesk) : Event → Prop
  | .placeOrder params _ => ¬ d.Unrecorded params.clientOrderId
  | .resume i price => ∀ call ∈ d.pending[i]?, d.Check price call
  | _ => True

/-- What holds of a desk as long as the checks do. -/
structure Sound (d : VenueDesk) : Prop extends FilledOnce d where
  /-- A filled order is found under its client id, or is about to be recorded. -/
  known : ∀ fill ∈ d.fills, (d.venue.knownOrder fill.clientOrderId).isSome = true ∨
    d.Unrecorded fill.clientOrderId
  recording : ∀ clientOrderId, d.Unrecorded clientOrderId →
    ∃ fill ∈ d.fills, fill.clientOrderId = clientOrderId
  /-- An open order is the one of its client, and the client has no fill. -/
  fresh : ∀ venueOrderId order, d.venue.orders.get? venueOrderId = some order →
    order.isOpen = true →
      d.venue.clientIdIndex.get? order.params.clientOrderId = some venueOrderId ∧
        ∀ fill ∈ d.fills, fill.clientOrderId ≠ order.params.clientOrderId
  /-- No open order is filled, to be filled at the market, or cancelled. -/
  settled : ∀ venueOrderId ∈ d.filledIds ++ d.cancelled, ∀ order,
    d.venue.orders.get? venueOrderId = some order → order.isOpen = false
  kept : ∀ venueOrderId ∈ d.pending.filterMap PendingCall.marketId, venueOrderId ∉ d.cancelled

theorem sound_start : Sound (start config) where
  clients := List.nodup_nil
  uncancelled := by simp [start]
  known := by simp [start]
  recording := by simp [start, Unrecorded]
  fresh := by simp [start, SimulatedVenue.create]
  settled := by simp [start, filledIds]
  kept := by simp [start]

/-! ### Changes beside the orders -/

theorem Sound.of_venue (h : Sound d) (horders : venue.orders = d.venue.orders)
    (hindex : venue.clientIdIndex = d.venue.clientIdIndex) : Sound { d with venue } := by
  have hknown : ∀ c, venue.knownOrder c = d.venue.knownOrder c := fun c => by
    rw [knownOrder, knownOrder, horders, hindex]
  refine ⟨⟨h.clients, h.uncancelled⟩, fun fill hfill => ?_, h.recording, ?_, ?_, h.kept⟩
  · exact (h.known fill hfill).imp_left fun hsome => (hknown _).symm ▸ hsome
  · intro id order horder hopen
    rw [horders] at horder
    rw [hindex]
    exact h.fresh id order horder hopen
  · intro id hmem order horder
    rw [horders] at horder
    exact h.settled id hmem order horder

theorem Sound.of_pending (h : Sound d) {pending : List PendingCall}
    (hrecords : ∀ c, (∃ call ∈ pending, call.Records c) ↔ d.Unrecorded c)
    (hids : ∀ id ∈ pending.filterMap PendingCall.marketId,
      id ∈ d.pending.filterMap PendingCall.marketId) : Sound { d with pending } := by
  have hfilled : ∀ id ∈ ({ d with pending } : VenueDesk).filledIds, id ∈ d.filledIds := by
    intro id hid
    exact List.mem_append.2 ((List.mem_append.1 hid).imp_right (hids id))
  have hall : ∀ id ∈ ({ d with pending } : VenueDesk).filledIds ++ d.cancelled,
      id ∈ d.filledIds ++ d.cancelled := by
    intro id hid
    exact List.mem_append.2 ((List.mem_append.1 hid).imp_left (hfilled id))
  exact ⟨⟨h.clients, h.uncancelled⟩,
    fun fill hfill => (h.known fill hfill).imp_right (hrecords _).2,
    fun c hc => h.recording c ((hrecords c).1 hc), h.fresh,
    fun id hid => h.settled id (hall id hid), fun id hid => h.kept id (hids id hid)⟩

/-! ### Recorded orders -/

theorem isSome_knownOrder_setOrder {c : String} (h : (venue.knownOrder c).isSome = true)
    (venueOrderId : String) (order : InternalOrder) :
    ((venue.setOrder venueOrderId order).knownOrder c).isSome = true := by
  unfold knownOrder at h ⊢
  cases hindex : venue.clientIdIndex.get? c with
  | none => simp [hindex] at h
  | some id =>
    rw [hindex] at h
    have hindex' : (venue.setOrder venueOrderId order).clientIdIndex.get? c = some id := hindex
    rw [hindex']
    exact (isSome_get?_set_iff _ _ _ _).2 (Or.inr h)

theorem isSome_knownOrder_recordOrder {c : String}
    (h : (venue.knownOrder c).isSome = true ∨ c = params.clientOrderId) (result : PlaceOrderResult)
    (isOpen : Bool) : ((venue.recordOrder params result isOpen).knownOrder c).isSome = true := by
  by_cases hc : params.clientOrderId = c
  · subst hc
    simp [knownOrder, SimulatedVenue.recordOrder]
  · have hsome := h.resolve_right (Ne.symm hc)
    unfold knownOrder at hsome ⊢
    have hindex' : (venue.recordOrder params result isOpen).clientIdIndex.get? c =
        venue.clientIdIndex.get? c := OrderedMap.get?_set_of_ne _ hc _
    rw [hindex']
    cases hindex : venue.clientIdIndex.get? c with
    | none => simp [hindex] at hsome
    | some id =>
      rw [hindex] at hsome
      exact (isSome_get?_set_iff _ _ _ _).2 (Or.inr hsome)

theorem isOpen_of_get?_set {orders : OrderedMap String InternalOrder} {k k' : String}
    {order order' : InternalOrder} (hclosed : order'.isOpen = false)
    (h : (orders.set k order').get? k' = some order) (hopen : order.isOpen = true) :
    k ≠ k' ∧ orders.get? k' = some order := by
  rw [OrderedMap.get?_set] at h
  split_ifs at h with hk
  · obtain rfl := Option.some.inj h
    rw [hclosed] at hopen
    cases hopen
  · exact ⟨hk, h⟩

theorem Sound.of_close (h : Sound d) (venueOrderId : String) (order' : InternalOrder)
    (hclosed : order'.isOpen = false) :
    Sound { d with venue := d.venue.setOrder venueOrderId order' } := by
  refine ⟨⟨h.clients, h.uncancelled⟩, fun fill hfill => ?_, h.recording, ?_, ?_, h.kept⟩
  · exact (h.known fill hfill).imp_left fun hsome => isSome_knownOrder_setOrder hsome _ _
  · intro id o ho hopen
    exact h.fresh id o (isOpen_of_get?_set hclosed ho hopen).2 hopen
  · intro id hid o ho
    by_contra hopen
    have hopen' : o.isOpen = true := by simpa using hopen
    have := h.settled id hid o (isOpen_of_get?_set hclosed ho hopen').2
    rw [this] at hopen'
    cases hopen'

/-- A fill of a client that has none, of an order that is closed and not cancelled. -/
theorem Sound.of_fill (h : Sound d) (fill : ReplayFillParams) (pending : List PendingCall)
    (hnew : ∀ f ∈ d.fills, f.clientOrderId ≠ fill.clientOrderId)
    (huncancelled : fill.venueOrderId ∉ d.cancelled)
    (hclosed : ∀ order, d.venue.orders.get? fill.venueOrderId = some order →
      order.isOpen = false)
    (hclient : ∀ id order, d.venue.orders.get? id = some order → order.isOpen = true →
      fill.clientOrderId ≠ order.params.clientOrderId)
    (hknown : (d.venue.knownOrder fill.clientOrderId).isSome = true ∨
      ∃ call ∈ pending, call.Records fill.clientOrderId)
    (hkeeps : ∀ c, d.Unrecorded c → ∃ call ∈ pending, call.Records c)
    (hrecords : ∀ c, (∃ call ∈ pending, call.Records c) →
      d.Unrecorded c ∨ fill.clientOrderId = c)
    (hids : ∀ id ∈ pending.filterMap PendingCall.marketId,
      id ∈ d.pending.filterMap PendingCall.marketId ∨ id = fill.venueOrderId) :
    Sound { d with pending, fills := d.fills ++ [fill] } := by
  have hfilled : ∀ id ∈ ({ d with pending, fills := d.fills ++ [fill] } : VenueDesk).filledIds,
      id ∈ d.filledIds ∨ id = fill.venueOrderId := by
    intro id hid
    rcases List.mem_append.1 hid with hid | hid
    · rw [List.map_append, List.mem_append, List.map_singleton, List.mem_singleton] at hid
      exact hid.imp_left (List.mem_append_left _)
    · exact (hids id hid).imp_left (List.mem_append_right _)
  have hall : ∀ id ∈ ({ d with pending, fills := d.fills ++ [fill] } : VenueDesk).filledIds ++
      d.cancelled, id ∈ d.filledIds ++ d.cancelled ∨ id = fill.venueOrderId := by
    intro id hid
    rcases List.mem_append.1 hid with hid | hid
    · exact (hfilled id hid).imp_left (List.mem_append_left _)
    · exact Or.inl (List.mem_append_right _ hid)
  constructor
  · constructor
    · rw [List.map_append, List.nodup_append]
      refine ⟨h.clients, List.nodup_singleton _, ?_⟩
      rintro c hc _ hnil rfl
      obtain ⟨f, hf, rfl⟩ := List.mem_map.1 hc
      exact hnew f hf (List.mem_singleton.1 hnil)
    · intro f hf
      rcases List.mem_append.1 hf with hf | hf
      · exact h.uncancelled f hf
      · rw [List.mem_singleton.1 hf]
        exact huncancelled
  · intro f hf
    rcases List.mem_append.1 hf with hf | hf
    · exact (h.known f hf).imp_right (hkeeps _)
    · rw [List.mem_singleton.1 hf]
      exact hknown
  · intro c hc
    rcases hrecords c hc with hold | hfill
    · obtain ⟨f, hf, hfc⟩ := h.recording c hold
      exact ⟨f, List.mem_append_left _ hf, hfc⟩
    · exact ⟨fill, List.mem_append_right _ (List.mem_singleton_self fill), hfill⟩
  · intro id order horder hopen
    obtain ⟨hindex, hfills⟩ := h.fresh id order horder hopen
    refine ⟨hindex, fun f hf => ?_⟩
    rcases List.mem_append.1 hf with hf | hf
    · exact hfills f hf
    · rw [List.mem_singleton.1 hf]
      exact hclient id order horder hopen
  · intro id hid order horder
    rcases hall id hid with hid | rfl
    · exact h.settled id hid order horder
    · exact hclosed order horder
  · intro id hid
    rcases hids id hid with hid | rfl
    · exact h.kept id hid
    · exact huncancelled

theorem Sound.of_cancelled (h : Sound d) (hnot : venueOrderId ∉ d.filledIds)
    (hclosed : ∀ order, d.venue.orders.get? venueOrderId = some order → order.isOpen = false) :
    Sound { d with cancelled := d.cancelled ++ [venueOrderId] } := by
  have hall : ∀ id ∈ d.filledIds ++ (d.cancelled ++ [venueOrderId]),
      id ∈ d.filledIds ++ d.cancelled ∨ id = venueOrderId := by
    intro id hid
    rw [← List.append_assoc, List.mem_append, List.mem_singleton] at hid
    exact hid
  have hkept : ∀ id ∈ d.filledIds, id ∉ d.cancelled → id ∉ d.cancelled ++ [venueOrderId] := by
    intro id hid hold hmem
    rcases List.mem_append.1 hmem with hmem | hmem
    · exact hold hmem
    · rw [List.mem_singleton.1 hmem] at hid
      exact hnot hid
  refine ⟨⟨h.clients, fun fill hfill => ?_⟩, h.known, h.recording, h.fresh,
    fun id hid order horder => ?_, fun id hid => ?_⟩
  · exact hkept _ (List.mem_append_left _ (List.mem_map_of_mem hfill)) (h.uncancelled fill hfill)
  · rcases hall id hid with hid | rfl
    · exact h.settled id hid order horder
    · exact hclosed order horder
  · exact hkept id (List.mem_append_right _ hid) (h.kept id hid)

/-! ### The steps -/

section

variable (h : Sound d)

include h

theorem not_mem_of_open {order : InternalOrder}
    (horder : d.venue.orders.get? venueOrderId = some order) (hopen : order.isOpen = true) :
    venueOrderId ∉ d.filledIds ∧ venueOrderId ∉ d.cancelled := by
  rw [← not_or, ← List.mem_append]
  intro hmem
  rw [h.settled _ hmem order horder] at hopen
  cases hopen

theorem sound_cancelOrder (venueOrderId : String) :
    Sound (d.cancelOrder venueOrderId) := by
  rcases d.cancelOrder_cases venueOrderId with heq | ⟨order, order', horder, hopen, hclosed, heq⟩
  · rwa [heq]
  · rw [heq]
    refine (h.of_close venueOrderId _ hclosed).of_cancelled (not_mem_of_open h horder hopen).1 ?_
    intro o ho
    obtain rfl := Option.some.inj ((OrderedMap.get?_set_self _ _ _).symm.trans ho)
    exact hclosed

theorem Sound.of_erase (hi : d.pending[i]? = some call) (hcall : ∀ c, ¬ call.Records c) :
    Sound { d with pending := d.pending.eraseIdx i } := by
  refine h.of_pending (fun c => ⟨?_, ?_⟩) fun id hid => ?_
  · rintro ⟨call', hmem, hrec⟩
    exact ⟨call', (mem_pending hi call').2 (Or.inr hmem), hrec⟩
  · rintro ⟨call', hmem, hrec⟩
    rcases (mem_pending hi call').1 hmem with rfl | hmem
    · exact absurd hrec (hcall c)
    · exact ⟨call', hmem, hrec⟩
  · obtain ⟨call', hmem, hid⟩ := List.mem_filterMap.1 hid
    exact List.mem_filterMap.2 ⟨call', (mem_pending hi call').2 (Or.inr hmem), hid⟩

variable {result : PlaceOrderResult}

theorem sound_recordOpen (hknown : d.venue.knownOrder params.clientOrderId = none)
    (hunrecorded : ¬ d.Unrecorded params.clientOrderId)
    (hresult : result.venueOrderId = orderId d.venue.config.venueId (d.venue.orderCounter + 1))
    (hissued : d.Issued) :
    Sound { d with
      venue := SimulatedVenue.recordOrder
        { d.venue with orderCounter := d.venue.orderCounter + 1 } params result true } := by
  obtain ⟨hmem, -⟩ := hissued.next_id
  rw [← hresult] at hmem
  refine ⟨⟨h.clients, h.uncancelled⟩, fun fill hfill => ?_, h.recording,
    fun id order horder hopen => ?_, fun id hid order horder => ?_, h.kept⟩
  · exact (h.known fill hfill).imp_left fun hsome =>
      isSome_knownOrder_recordOrder (Or.inl hsome) result true
  · have horder' : (d.venue.orders.set result.venueOrderId ⟨params, result, true⟩).get? id =
        some order := horder
    show (d.venue.clientIdIndex.set params.clientOrderId result.venueOrderId).get? _ = some id ∧ _
    rw [OrderedMap.get?_set] at horder'
    split_ifs at horder' with hid
    · obtain rfl := Option.some.inj horder'
      refine ⟨by rw [OrderedMap.get?_set_self, hid], fun fill hfill hclient => ?_⟩
      rcases h.known fill hfill with hsome | hrec
      · rw [hclient, hknown] at hsome
        cases hsome
      · rw [hclient] at hrec
        exact hunrecorded hrec
    · obtain ⟨hindex, hfills⟩ := h.fresh id order horder' hopen
      refine ⟨?_, hfills⟩
      rw [OrderedMap.get?_set_of_ne, hindex]
      rintro heq
      rw [knownOrder, heq, hindex, Option.bind_some, horder'] at hknown
      cases hknown
  · have hne : result.venueOrderId ≠ id := fun heq => hmem (heq ▸ hid)
    exact h.settled id hid order ((OrderedMap.get?_set_of_ne _ hne _).symm.trans horder)

theorem Sound.of_waiting (hcall : ∀ c, ¬ call.Records c)
    (hnew : ∀ id ∈ call.marketId, id ∉ d.cancelled ∧ d.venue.orders.get? id = none) :
    Sound { d with pending := d.pending ++ [call] } := by
  have hrecords : ∀ c, (∃ call' ∈ d.pending ++ [call], call'.Records c) ↔ d.Unrecorded c := by
    refine fun c => ⟨?_, fun ⟨call', hmem, hrec⟩ => ⟨call', List.mem_append_left _ hmem, hrec⟩⟩
    rintro ⟨call', hmem, hrec⟩
    rcases List.mem_append.1 hmem with hmem | hmem
    · exact ⟨call', hmem, hrec⟩
    · rw [List.mem_singleton.1 hmem] at hrec
      exact absurd hrec (hcall c)
  have hids : ∀ id ∈ (d.pending ++ [call]).filterMap PendingCall.marketId,
      id ∈ d.pending.filterMap PendingCall.marketId ∨ id ∈ call.marketId := by
    intro id hid
    rw [List.filterMap_append, List.mem_append] at hid
    refine hid.imp_right fun hid => ?_
    obtain ⟨call', hmem, hid⟩ := List.mem_filterMap.1 hid
    rwa [List.mem_singleton.1 hmem] at hid
  have hall : ∀ id ∈ ({ d with pending := d.pending ++ [call] } : VenueDesk).filledIds ++
      d.cancelled, id ∈ d.filledIds ++ d.cancelled ∨ id ∈ call.marketId := by
    intro id hid
    rcases List.mem_append.1 hid with hid | hid
    · rcases List.mem_append.1 hid with hid | hid
      · exact Or.inl (List.mem_append_left _ (List.mem_append_left _ hid))
      · exact (hids id hid).imp_left fun hid =>
          List.mem_append_left _ (List.mem_append_right _ hid)
    · exact Or.inl (List.mem_append_right _ hid)
  refine ⟨⟨h.clients, h.uncancelled⟩, fun fill hfill => (h.known fill hfill).imp_right
    (hrecords _).2, fun c hc => h.recording c ((hrecords c).1 hc), h.fresh,
    fun id hid order horder => ?_, fun id hid => ?_⟩
  · rcases hall id hid with hid | hid
    · exact h.settled id hid order horder
    · rw [(hnew id hid).2] at horder
      cases horder
  · rcases hids id hid with hid | hid
    · exact h.kept id hid
    · exact (hnew id hid).1

theorem sound_placeOrder (hissued : d.Issued) (params : PlaceOrderParams) (submittedAt : Date)
    (hunrecorded : ¬ d.Unrecorded params.clientOrderId) :
    Sound (d.beginPlaceOrder params submittedAt) := by
  unfold beginPlaceOrder
  split_ifs with hnew
  · -- A market order waits under the next id.
    obtain ⟨hmem, hnone⟩ := hissued.next_id
    have hcounted : Sound { d with
        venue := { d.venue with orderCounter := d.venue.orderCounter + 1 } } := h.of_venue rfl rfl
    refine hcounted.of_waiting (fun c => id) ?_
    rintro id (hid : some _ = some id)
    obtain rfl := Option.some.inj hid
    exact ⟨fun hcancelled => hmem (List.mem_append_right _ hcancelled), hnone⟩
  · rcases placeOrder_cases hnew submittedAt with ⟨n, hn, heq⟩ | ⟨result, hknown, hresult, heq⟩
    · rw [heq]
      exact h.of_venue rfl rfl
    · rw [heq]
      exact sound_recordOpen h hknown hunrecorded hresult hissued

theorem sound_getOrder (venueOrderId : String) :
    Sound (d.beginGetOrder venueOrderId) := by
  unfold beginGetOrder
  cases d.venue.orders.get? venueOrderId with
  | none => exact h
  | some order =>
    dsimp only
    split_ifs
    · exact h.of_waiting (fun c => id) fun id hid => by cases hid
    · exact h

theorem Sound.of_applyFill (params : PlaceOrderParams) (price size fee : Decimal) :
    Sound { d with venue := d.venue.applyFill params price size fee } := by
  obtain ⟨balances, positions, heq⟩ := applyFill_eq d.venue params price size fee
  rw [heq]
  exact h.of_venue rfl rfl

/-- The market order that gets its price has no fill under its client id. -/
theorem sound_marketPrice {submittedAt : Date}
    (hi : d.pending[i]? = some (.marketPrice params venueOrderId submittedAt))
    (hcheck : price.isOk = true → (d.venue.knownOrder params.clientOrderId).isNone = true ∧
      ¬ d.Unrecorded params.clientOrderId) :
    Sound (({ d with pending := d.pending.eraseIdx i } : VenueDesk).resumeMarketPrice params
      venueOrderId submittedAt price) := by
  have hcall : ∀ c, ¬ (PendingCall.marketPrice params venueOrderId submittedAt).Records c :=
    fun c => id
  cases price with
  | error message => exact h.of_erase hi hcall
  | ok mid =>
    obtain ⟨hknown, hunrecorded⟩ := hcheck rfl
    rw [Option.isNone_iff_eq_none] at hknown
    have hwaits : venueOrderId ∈ d.pending.filterMap PendingCall.marketId :=
      List.mem_filterMap.2 ⟨_, List.mem_of_getElem? hi, rfl⟩
    have hid : venueOrderId ∈ d.filledIds ++ d.cancelled :=
      List.mem_append_left _ (List.mem_append_right _ hwaits)
    set fillPrice := d.venue.marketFillPrice params.side mid
    set fee := (fillPrice.times params.size).times d.venue.config.takerFeePct
    obtain ⟨balances, positions, heq⟩ := applyFill_eq d.venue params fillPrice params.size fee
    have hfilled := h.of_applyFill params fillPrice params.size fee
    rw [heq] at hfilled
    have hfill := hfilled.of_fill (fillRecord params venueOrderId submittedAt fillPrice fee)
      (d.pending.eraseIdx i ++ [.marketFilled params
        (d.venue.fillMarketOrderAt params venueOrderId submittedAt mid).1])
      (fun f hf hclient => ?_) (h.kept venueOrderId hwaits) (h.settled _ hid)
      (fun id order horder hopen hclient => ?_)
      (Or.inr ⟨.marketFilled params _, List.mem_append_right _ (List.mem_singleton_self _), rfl⟩)
      (fun c ⟨call, hmem, hrec⟩ => ?_) (fun c ⟨call, hmem, hrec⟩ => ?_) fun id hid => ?_
    · rw [← heq] at hfill
      exact hfill
    · rcases h.known f hf with hsome | hrec
      · rw [show f.clientOrderId = params.clientOrderId from hclient, hknown] at hsome
        cases hsome
      · rw [show f.clientOrderId = params.clientOrderId from hclient] at hrec
        exact hunrecorded hrec
    · have hindex := (h.fresh id order horder hopen).1
      rw [show order.params.clientOrderId = params.clientOrderId from hclient.symm] at hindex
      rw [knownOrder, hindex, Option.bind_some] at hknown
      rw [show d.venue.orders.get? id = some order from horder] at hknown
      cases hknown
    · rcases (mem_pending hi call).1 hmem with rfl | hmem
      · exact absurd hrec (hcall c)
      · exact ⟨call, List.mem_append_left _ hmem, hrec⟩
    · rcases List.mem_append.1 hmem with hmem | hmem
      · exact Or.inl ⟨call, (mem_pending hi call).2 (Or.inr hmem), hrec⟩
      · rw [List.mem_singleton.1 hmem] at hrec
        exact Or.inr hrec
    · obtain ⟨call, hmem, hid⟩ := List.mem_filterMap.1 hid
      rcases List.mem_append.1 hmem with hmem | hmem
      · exact Or.inl (List.mem_filterMap.2 ⟨call, (mem_pending hi call).2 (Or.inr hmem), hid⟩)
      · rw [List.mem_singleton.1 hmem] at hid
        exact Or.inr (Option.some.inj hid).symm

/-- The order of a filled call is recorded: its client has no open order. -/
theorem sound_marketFilled (hi : d.pending[i]? = some (.marketFilled params result)) :
    Sound { d with
      pending := d.pending.eraseIdx i
      venue := d.venue.recordOrder params result false } := by
  have hunrecorded : d.Unrecorded params.clientOrderId := ⟨_, List.mem_of_getElem? hi, rfl⟩
  have hrest : ∀ call ∈ d.pending.eraseIdx i, call ∈ d.pending :=
    fun call hmem => (mem_pending hi call).2 (Or.inr hmem)
  have hids : ∀ id ∈ (d.pending.eraseIdx i).filterMap PendingCall.marketId,
      id ∈ d.pending.filterMap PendingCall.marketId := by
    intro id hid
    obtain ⟨call, hmem, hid⟩ := List.mem_filterMap.1 hid
    exact List.mem_filterMap.2 ⟨call, hrest call hmem, hid⟩
  have hall : ∀ id ∈ d.fills.map (·.venueOrderId) ++
      (d.pending.eraseIdx i).filterMap PendingCall.marketId ++ d.cancelled,
      id ∈ d.filledIds ++ d.cancelled := by
    intro id hid
    rcases List.mem_append.1 hid with hid | hid
    · exact List.mem_append_left _ (List.mem_append.2 ((List.mem_append.1 hid).imp_right (hids id)))
    · exact List.mem_append_right _ hid
  refine ⟨⟨h.clients, h.uncancelled⟩, fun fill hfill => ?_, fun c ⟨call, hmem, hrec⟩ =>
    h.recording c ⟨call, hrest call hmem, hrec⟩, fun id order horder hopen => ?_,
    fun id hmem order horder => ?_, fun id hmem => h.kept id (hids id hmem)⟩
  · rcases h.known fill hfill with hsome | ⟨call, hmem, hrec⟩
    · exact Or.inl (isSome_knownOrder_recordOrder (Or.inl hsome) result false)
    · rcases (mem_pending hi call).1 hmem with rfl | hmem
      · exact Or.inl (isSome_knownOrder_recordOrder (Or.inr (Eq.symm hrec)) result false)
      · exact Or.inr ⟨call, hmem, hrec⟩
  · have hold := (isOpen_of_get?_set rfl horder hopen).2
    obtain ⟨hindex, hfills⟩ := h.fresh id order hold hopen
    refine ⟨?_, hfills⟩
    refine (OrderedMap.get?_set_of_ne _ ?_ _).trans hindex
    intro hclient
    obtain ⟨fill, hfill, hfc⟩ := h.recording _ hunrecorded
    exact hfills fill hfill (hfc.trans hclient)
  · by_contra hne
    have hopen : order.isOpen = true := by simpa using hne
    have hclosed := h.settled id (hall id hmem) order (isOpen_of_get?_set rfl horder hopen).2
    exact hne hclosed

/-- The limit order that is filled was the only order of its client. -/
theorem sound_limitPrice (venueOrderId : String)
    (hcheck : ∀ reached ∈ d.reachedOrder venueOrderId price, reached.1.isOpen = true) :
    Sound (d.resumeLimitPrice venueOrderId price) := by
  unfold resumeLimitPrice
  cases hreached : d.reachedOrder venueOrderId price with
  | none => exact h
  | some reached =>
    obtain ⟨order, limitPrice⟩ := reached
    have horder := eq_of_reachedOrder hreached
    have hopen : order.isOpen = true := hcheck _ hreached
    obtain ⟨hindex, hfills⟩ := h.fresh venueOrderId order horder hopen
    set fee := (limitPrice.times order.params.size).times d.venue.config.makerFeePct
    obtain ⟨balances, positions, heq⟩ :=
      applyFill_eq d.venue order.params limitPrice order.params.size fee
    have hfilled := h.of_applyFill order.params limitPrice order.params.size fee
    rw [heq] at hfilled
    have hclosed := hfilled.of_close venueOrderId
      { order with
        isOpen := false
        result := { order.result with
          status := .filled
          filledSize := order.params.size
          averageFillPrice := some (limitPrice.roundPlaces 8)
          fees := some (fee.roundPlaces 8) } } rfl
    have hset : ∀ o, (d.venue.orders.set venueOrderId o).get? venueOrderId = some o :=
      fun o => OrderedMap.get?_set_self _ _ _
    have hfill := hclosed.of_fill (fillRecord order.params venueOrderId
        order.result.submittedAt limitPrice fee) d.pending
      hfills (not_mem_of_open h horder hopen).2
      (fun o ho => by rw [← Option.some.inj ((hset _).symm.trans ho)])
      (fun id o ho hopen' hclient => ?_) (Or.inl ?_) (fun c hc => hc) (fun c hc => Or.inl hc)
      fun id hid => Or.inl hid
    · rw [← heq] at hfill
      exact hfill
    · obtain ⟨hne, hold⟩ := isOpen_of_get?_set rfl ho hopen'
      have hindex' := (h.fresh id o hold hopen').1
      rw [show o.params.clientOrderId = order.params.clientOrderId from hclient.symm, hindex]
        at hindex'
      exact hne (Option.some.inj hindex')
    · have hindex' : d.venue.clientIdIndex.get? order.params.clientOrderId = some venueOrderId :=
        hindex
      simp only [knownOrder, setOrder, fillRecord, hindex', Option.bind_some, hset]
      rfl

theorem sound_step (hissued : d.Issued) {event : Event} (hadmits : d.Admits event) :
    Sound (d.step event) := by
  cases event with
  | connect | disconnect => exact h.of_venue rfl rfl
  | placeOrder params submittedAt => exact sound_placeOrder h hissued params submittedAt hadmits
  | getOrder venueOrderId => exact sound_getOrder h venueOrderId
  | cancelOrder venueOrderId => exact sound_cancelOrder h venueOrderId
  | resume i price =>
    simp only [step]
    cases hi : d.pending[i]? with
    | none => exact h
    | some call =>
      have hcheck := hadmits call hi
      cases call with
      | marketPrice params venueOrderId submittedAt => exact sound_marketPrice h hi hcheck
      | marketFilled params result => exact sound_marketFilled h hi
      | limitPrice venueOrderId =>
        exact sound_limitPrice (h.of_erase hi fun c => id) venueOrderId hcheck

end

theorem sound_of_along {events : List Event} (h : Runs.Along step Admits (start config) events) :
    Sound (events.foldl step (start config)) := by
  have hrun : Sound (events.foldl step (start config)) ∧
      (events.foldl step (start config)).Issued :=
    h.invariant (I := fun d => Sound d ∧ d.Issued)
      (fun d event hd hadmits => ⟨sound_step hd.1 hd.2 hadmits, hd.2.step event⟩)
      ⟨sound_start config, issued_run config []⟩
  exact hrun.1

/-! ## The effects of the fills -/

/-- The effects of a fill on balances and positions. -/
def applyRecord (venue : SimulatedVenue) (fill : ReplayFillParams) : SimulatedVenue :=
  venue.applyFill (replayedParams fill) fill.fillPrice fill.size fill.fee

theorem applyRecord_sameBook {v w : SimulatedVenue} (h : SameBook v w) (fill : ReplayFillParams) :
    SameBook (applyRecord v fill) (applyRecord w fill) :=
  applyFill_sameBook h rfl rfl rfl _ _ _

/-- A step leaves the book as it is, or adds one fill and applies its effects. -/
theorem step_book (d : VenueDesk) (event : Event) :
    ((d.step event).fills = d.fills ∧ SameBook (d.step event).venue d.venue) ∨
      ∃ fill, (d.step event).fills = d.fills ++ [fill] ∧
        SameBook (d.step event).venue (applyRecord d.venue fill) := by
  cases event with
  | connect | disconnect => exact Or.inl ⟨rfl, rfl, rfl⟩
  | placeOrder params submittedAt =>
    simp only [step, beginPlaceOrder]
    split_ifs with hnew
    · exact Or.inl ⟨rfl, rfl, rfl⟩
    · rcases placeOrder_cases hnew submittedAt with ⟨n, -, heq⟩ | ⟨result, -, -, heq⟩
      all_goals
        rw [heq]
        exact Or.inl ⟨rfl, rfl, rfl⟩
  | getOrder venueOrderId =>
    simp only [step, beginGetOrder]
    cases d.venue.orders.get? venueOrderId with
    | none => exact Or.inl ⟨rfl, rfl, rfl⟩
    | some order =>
      dsimp only
      split_ifs <;> exact Or.inl ⟨rfl, rfl, rfl⟩
  | cancelOrder venueOrderId =>
    rcases d.cancelOrder_cases venueOrderId with heq | ⟨order, order', -, -, -, heq⟩
    all_goals
      rw [step, heq]
      exact Or.inl ⟨rfl, rfl, rfl⟩
  | resume i price =>
    simp only [step]
    cases d.pending[i]? with
    | none => exact Or.inl ⟨rfl, rfl, rfl⟩
    | some call =>
      cases call with
      | marketFilled params result => exact Or.inl ⟨rfl, rfl, rfl⟩
      | marketPrice params venueOrderId submittedAt =>
        cases price with
        | error message => exact Or.inl ⟨rfl, rfl, rfl⟩
        | ok mid =>
          exact Or.inr ⟨_, rfl, applyFill_sameBook (SameBook.refl d.venue) rfl rfl rfl _ _ _⟩
      | limitPrice venueOrderId =>
        simp only [resumeCall, resumeLimitPrice]
        cases ({ d with pending := d.pending.eraseIdx i } : VenueDesk).reachedOrder venueOrderId
            price with
        | none => exact Or.inl ⟨rfl, rfl, rfl⟩
        | some reached =>
          have hset : SameBook (d.venue.fillLimitOrderAt venueOrderId reached.1 reached.2)
              (d.venue.applyFill reached.1.params reached.2 reached.1.params.size
                ((reached.2.times reached.1.params.size).times d.venue.config.makerFeePct)) :=
            ⟨rfl, rfl⟩
          exact Or.inr ⟨_, rfl,
            hset.trans (applyFill_sameBook (SameBook.refl d.venue) rfl rfl rfl _ _ _)⟩

/-- The book of a run is that of its fills, one after the other. -/
theorem book_of_run :
    SameBook (events.foldl step (start config)).venue
      ((events.foldl step (start config)).fills.foldl applyRecord
        (SimulatedVenue.create config)) := by
  induction events using List.reverseRecOn with
  | nil => exact SameBook.refl _
  | append_singleton events event ih =>
    rw [List.foldl_append, List.foldl_cons, List.foldl_nil]
    rcases step_book (events.foldl step (start config)) event with
      ⟨hfills, hbook⟩ | ⟨fill, hfills, hbook⟩
    · rw [hfills]
      exact hbook.trans ih
    · rw [hfills, List.foldl_append, List.foldl_cons, List.foldl_nil]
      exact hbook.trans (applyRecord_sameBook ih fill)

/-- While the checks hold, the book in every state of a run is that of fills of different client
orders, none of which was cancelled. -/
theorem filledOnce_of_along (config : SimulatedVenueConfig) (events : List Event)
    (h : Runs.Along step Admits (start config) events) :
    ∀ reached, reached <+: events →
      FilledOnce (reached.foldl step (start config)) ∧
        SameBook (reached.foldl step (start config)).venue
          ((reached.foldl step (start config)).fills.foldl applyRecord
            (SimulatedVenue.create config)) := by
  rintro reached ⟨rest, rfl⟩
  exact ⟨(sound_of_along config h.of_append).toFilledOnce, book_of_run config reached⟩

/-! ## Overlapping calls -/

instance (d : VenueDesk) : Decidable (FilledOnce d) :=
  decidable_of_iff ((d.fills.map (·.clientOrderId)).Nodup ∧
      ∀ fill ∈ d.fills, fill.venueOrderId ∉ d.cancelled)
    ⟨fun h => ⟨h.1, h.2⟩, fun h => ⟨h.1, h.2⟩⟩

instance decidableCheck (d : VenueDesk) (price : Except String Decimal) :
    ∀ call : PendingCall, Decidable (d.Check price call)
  | .marketPrice _ _ _ => inferInstanceAs (Decidable (_ → _ ∧ ¬ _))
  | .limitPrice _ => inferInstanceAs (Decidable (∀ reached ∈ _, _))
  | .marketFilled _ _ => isTrue trivial

instance decidableAdmits (d : VenueDesk) : ∀ event, Decidable (d.Admits event)
  | .connect => isTrue trivial
  | .disconnect => isTrue trivial
  | .placeOrder _ _ => inferInstanceAs (Decidable (¬ _))
  | .getOrder _ => isTrue trivial
  | .cancelOrder _ => isTrue trivial
  | .resume _ _ => inferInstanceAs (Decidable (∀ call ∈ _, _))

def deskConfig : SimulatedVenueConfig where
  venueId := "drift"
  makerFeePct := 1 / 1000
  takerFeePct := 2 / 1000
  slippagePct := 5 / 10000
  initialBalances := OrderedMap.ofList [("USDC", 200000)]
  deterministicPrices := OrderedMap.ofList [("SOL", 200)]

def deskOrder (clientOrderId : String) (type : OrderType) (price : Option Decimal) :
    PlaceOrderParams where
  clientOrderId
  asset := "SOL"
  side := .buy
  type
  size := 1
  price

/-- Two market orders and the poll of a limit order wait at the same time, and are resumed in another
order; meanwhile a second limit order is cancelled. -/
def interleavedCalls : List Event :=
  [.connect, .placeOrder (deskOrder "m-1" .market none) 0,
    .placeOrder (deskOrder "m-2" .market none) 0, .placeOrder (deskOrder "l-1" .limit (some 250)) 1,
    .getOrder "drift-sim-3", .resume 1 (.ok 200), .placeOrder (deskOrder "l-2" .limit (some 250)) 2,
    .resume 1 (.ok 200), .cancelOrder "drift-sim-4", .resume 0 (.ok 200), .resume 0 (.ok 200),
    .resume 0 (.ok 200), .getOrder "drift-sim-4"]

theorem filledOnce_of_along_sample :
    FilledOnce (interleavedCalls.foldl step (start deskConfig)) ∧
      ((interleavedCalls.foldl step (start deskConfig)).fills.map (·.venueOrderId)) =
        ["drift-sim-2", "drift-sim-3", "drift-sim-1"] :=
  ⟨(filledOnce_of_along deskConfig interleavedCalls (by decide +kernel) interleavedCalls
    List.prefix_rfl).1, by decide +kernel⟩

/-- Two calls of `placeOrder` under one client id that both pass the check, two polls of an order,
and a poll that a cancellation overtakes. -/
theorem not_filledOnce :
    ¬ FilledOnce ([.connect, .placeOrder (deskOrder "m-1" .market none) 0,
        .placeOrder (deskOrder "m-1" .market none) 0, .resume 0 (.ok 200),
        .resume 0 (.ok 200)].foldl step (start deskConfig)) ∧
      ¬ FilledOnce ([.connect, .placeOrder (deskOrder "l-1" .limit (some 250)) 0,
        .getOrder "drift-sim-1", .getOrder "drift-sim-1", .resume 0 (.ok 200),
        .resume 0 (.ok 200)].foldl step (start deskConfig)) ∧
      ¬ FilledOnce ([.connect, .placeOrder (deskOrder "l-1" .limit (some 250)) 0,
        .getOrder "drift-sim-1", .cancelOrder "drift-sim-1",
        .resume 0 (.ok 200)].foldl step (start deskConfig)) := by
  decide +kernel

end VenueDesk

end SentinelApex
