import SentinelApex.Runtime.CumulativePnl

/-!
# Balances against positions

A fill moves the balance of its asset by the size filled, and the position by what of the size
opens, adds to, reduces or turns it. Both moves are the same unless the fill may only reduce and
there is less to reduce (`Covered`), or the two sums are rounded differently (`SameLoss`). Hence
the balances follow the positions in every run whose fills meet both: `books_balance`.
-/

namespace SentinelApex

open Runs

variable {initialBalances : OrderedMap String Decimal} {pos : InternalPosition}

namespace SimulatedVenue

/-- What a run does to a venue. -/
inductive BookEvent where
  | event (event : Event)
  | replayFilledOrder (params : ReplayFillParams)

def handleBook (venue : SimulatedVenue) : BookEvent → SimulatedVenue
  | .event event => venue.handle event
  | .replayFilledOrder params => venue.replayFilledOrder params

def bookFill (venue : SimulatedVenue) : BookEvent → Option Fill
  | .event event => venue.fillOf event
  | .replayFilledOrder params => some (filledAt (replayedParams params) params.fillPrice)

def balance (venue : SimulatedVenue) (asset : String) : Decimal :=
  (venue.balances.get? asset).getD 0

/-- The size of a fill, negative when it is sold. -/
def signedFill (fill : Fill) : ℚ :=
  match fill.side with
  | .long => fill.size
  | .short => -fill.size

/-- The books of every asset but the quote asset balance. -/
def Balanced (initialBalances : OrderedMap String Decimal) (venue : SimulatedVenue) : Prop :=
  ∀ asset, asset ≠ "USDC" →
    venue.balance asset - (initialBalances.get? asset).getD 0 = venue.exposure asset

/-- A fill that may only reduce reduces a position that is at least as large. -/
def Covered (venue : SimulatedVenue) (fill : Fill) : Prop :=
  fill.reduceOnly = true →
    match venue.positions.get? fill.asset with
    | none => fill.size = 0
    | some pos => pos.side = fill.side ∨ fill.size ≤ pos.size

/-- What rounding to twenty digits adds to a sum. -/
def loss (x : ℚ) : ℚ := decimalJs.round x - x

/-- The balance and the position are rounded alike; a new position is not rounded. -/
def SameLoss (venue : SimulatedVenue) (fill : Fill) : Prop :=
  loss (venue.balance fill.asset + signedFill fill) =
    match venue.positions.get? fill.asset with
    | none => 0
    | some _ => loss (venue.exposure fill.asset + signedFill fill)

/-- The event fills nothing, or moves the two books of the asset alike. -/
def KeepsBooks (venue : SimulatedVenue) (event : BookEvent) : Prop :=
  ∀ fill ∈ venue.bookFill event, fill.asset ≠ "USDC" → venue.Covered fill ∧ venue.SameLoss fill

instance (venue : SimulatedVenue) (fill : Fill) : Decidable (venue.Covered fill) :=
  match h : venue.positions.get? fill.asset with
  | none => decidable_of_iff (fill.reduceOnly = true → fill.size = 0) (by simp [Covered, h])
  | some pos => decidable_of_iff
      (fill.reduceOnly = true → pos.side = fill.side ∨ fill.size ≤ pos.size) (by simp [Covered, h])

instance (venue : SimulatedVenue) (fill : Fill) : Decidable (venue.SameLoss fill) :=
  match h : venue.positions.get? fill.asset with
  | none => decidable_of_iff (loss (venue.balance fill.asset + signedFill fill) = 0)
      (by simp [SameLoss, h])
  | some _ => decidable_of_iff (loss (venue.balance fill.asset + signedFill fill) =
      loss (venue.exposure fill.asset + signedFill fill)) (by simp [SameLoss, h])

instance (venue : SimulatedVenue) (event : BookEvent) : Decidable (venue.KeepsBooks event) :=
  inferInstanceAs (Decidable (∀ fill ∈ _, _ → _ ∧ _))

variable {asset : String} {venue : SimulatedVenue}

theorem updatePosition_get?_of_ne (venue : SimulatedVenue) {other : String} (h : asset ≠ other)
    (side : PositionSide) (size price : Decimal) (reduceOnly : Bool) :
    (venue.updatePosition asset side size price reduceOnly).positions.get? other =
      venue.positions.get? other := by
  unfold updatePosition setPosition deletePosition
  cases venue.positions.get? asset with
  | none =>
    dsimp only
    split_ifs
    · rfl
    · exact venue.positions.get?_set_of_ne h _
  | some existing =>
    dsimp only
    split_ifs
    · exact venue.positions.get?_set_of_ne h _
    · exact venue.positions.get?_erase_of_ne h
    · exact venue.positions.get?_set_of_ne h _
    · exact venue.positions.get?_erase_of_ne h
    · exact venue.positions.get?_set_of_ne h _

theorem exposure_take_of_ne (venue : SimulatedVenue) (fill : Fill) (h : fill.asset ≠ asset) :
    (venue.take fill).exposure asset = venue.exposure asset := by
  unfold exposure OrderedMap.contribution take
  rw [venue.updatePosition_get?_of_ne h]

section Take

variable {venue : SimulatedVenue} {fill : Fill}

theorem exposure_take_open (hget : venue.positions.get? fill.asset = none)
    (hcovered : venue.Covered fill) : (venue.take fill).exposure fill.asset = signedFill fill := by
  by_cases hreduce : fill.reduceOnly = true
  · have hsize : fill.size = 0 := by simpa [Covered, hget, hreduce] using hcovered
    have htake : venue.take fill = venue := by simp [take, updatePosition, hget, hreduce]
    rw [htake, exposure, OrderedMap.contribution, hget, signedFill, hsize]
    cases fill.side <;> simp
  · have htake : venue.take fill = venue.setPosition fill.asset
        { asset := fill.asset, side := fill.side, size := fill.size,
          entryPrice := fill.price, realizedPnl := 0 } := by
      simp [take, updatePosition, hget, hreduce]
    rw [htake, exposure_setPosition]
    rfl

theorem exposure_take_add (hget : venue.positions.get? fill.asset = some pos)
    (hside : pos.side = fill.side) :
    (venue.take fill).exposure fill.asset =
      decimalJs.round (signedSize pos + signedFill fill) := by
  have hexposure : (venue.take fill).exposure fill.asset =
      signedSize { pos with size := pos.size.plus fill.size } := by
    simp only [take, updatePosition, hget, hside, if_true, exposure_setPosition]
    rfl
  rw [hexposure, signedFill, ← hside]
  cases hpos : pos.side with
  | long => simp only [signedSize, hpos, Decimal.plus]
  | short => simp only [signedSize, hpos, Decimal.plus, ← neg_add, decimalJs.round_neg]

/-- The signed size of an asset when a fill of the other side comes. -/
theorem signed_of_ne (hside : pos.side ≠ fill.side) :
    signedSize pos + signedFill fill = signedSize { pos with size := pos.size - fill.size } ∧
      signedSize pos + signedFill fill =
        signedSize { pos with side := fill.side, size := fill.size - pos.size } := by
  cases hpos : pos.side <;> cases hfill : fill.side
  case long.long => exact absurd (hpos.trans hfill.symm) hside
  case short.short => exact absurd (hpos.trans hfill.symm) hside
  case long.short =>
    simp only [signedSize, signedFill, hpos, hfill]
    constructor <;> ring
  case short.long =>
    simp only [signedSize, signedFill, hpos, hfill]
    constructor <;> ring

theorem round_signedSize (pos : InternalPosition) :
    decimalJs.round (signedSize pos) = signedSize { pos with size := decimalJs.round pos.size } := by
  cases hpos : pos.side with
  | long => simp only [signedSize, hpos]
  | short => simp only [signedSize, hpos, decimalJs.round_neg]

theorem exposure_take_close (hget : venue.positions.get? fill.asset = some pos)
    (hside : pos.side ≠ fill.side) (hle : fill.size ≤ pos.size) :
    (venue.take fill).exposure fill.asset =
      decimalJs.round (signedSize pos + signedFill fill) := by
  rw [(signed_of_ne hside).1, round_signedSize]
  by_cases hzero : pos.size.minus fill.size = 0
  · have htake : venue.take fill = venue.deletePosition fill.asset := by
      simp [take, updatePosition, hget, hside, hle, hzero]
    rw [Decimal.minus] at hzero
    rw [htake, exposure_deletePosition]
    cases pos.side <;> simp [signedSize, hzero]
  · obtain ⟨realized, htake⟩ : ∃ realized, venue.take fill = venue.setPosition fill.asset
        { pos with size := pos.size.minus fill.size, realizedPnl := realized } := by
      refine ⟨pos.realizedPnl.plus (realizedPnl pos fill.price fill.size), ?_⟩
      simp [take, updatePosition, hget, hside, hle, hzero]
    rw [htake, exposure_setPosition]
    rfl

theorem exposure_take_flip (hget : venue.positions.get? fill.asset = some pos)
    (hside : pos.side ≠ fill.side) (hlt : pos.size < fill.size) (hreduce : fill.reduceOnly = false) :
    (venue.take fill).exposure fill.asset =
      decimalJs.round (signedSize pos + signedFill fill) := by
  have htake : venue.take fill = venue.setPosition fill.asset
      { asset := fill.asset, side := fill.side, size := fill.size.minus pos.size,
        entryPrice := fill.price, realizedPnl := realizedPnl pos fill.price pos.size } := by
    simp [take, updatePosition, hget, hside, not_le.2 hlt, hreduce]
  rw [(signed_of_ne hside).2, round_signedSize, htake, exposure_setPosition]
  rfl

theorem exposure_take (hcovered : venue.Covered fill) :
    (venue.take fill).exposure fill.asset =
      match venue.positions.get? fill.asset with
      | none => signedFill fill
      | some _ => decimalJs.round (venue.exposure fill.asset + signedFill fill) := by
  cases hget : venue.positions.get? fill.asset with
  | none => exact exposure_take_open hget hcovered
  | some pos =>
    rw [exposure_of_get? hget]
    by_cases hside : pos.side = fill.side
    · exact exposure_take_add hget hside
    · rcases le_or_gt fill.size pos.size with hle | hlt
      · exact exposure_take_close hget hside hle
      · cases hreduce : fill.reduceOnly with
        | false => exact exposure_take_flip hget hside hlt hreduce
        | true =>
          have hfits := hcovered hreduce
          rw [hget] at hfits
          exact absurd (hfits.resolve_left hside) (not_le.2 hlt)

end Take

theorem balance_adjustBalance (venue : SimulatedVenue) (asset other : String) (delta : Decimal) :
    (venue.adjustBalance asset delta).balance other =
      if asset = other then decimalJs.round (venue.balance asset + delta)
      else venue.balance other := by
  unfold balance adjustBalance
  simp only [OrderedMap.get?_set, Decimal.plus]
  split_ifs <;> rfl

theorem balance_applyFill (venue : SimulatedVenue) (params : PlaceOrderParams) (price fee : Decimal)
    (hasset : asset ≠ "USDC") :
    (venue.applyFill params price params.size fee).balance asset =
      if params.asset = asset then
        decimalJs.round (venue.balance asset + signedFill (filledAt params price))
      else venue.balance asset := by
  have hquote : ¬ resolveQuoteAsset params.asset = asset := fun h => hasset h.symm
  have hposition : ∀ (v : SimulatedVenue) side reduceOnly,
      (v.updatePosition params.asset side params.size price reduceOnly).balance asset =
        v.balance asset := by
    intro v side reduceOnly
    rw [balance, updatePosition_balances]
    rfl
  unfold applyFill
  cases hside : params.side with
  | buy =>
    dsimp only
    rw [hposition, balance_adjustBalance]
    split_ifs with h
    · subst h
      rw [balance_adjustBalance, if_neg hquote]
      simp [signedFill, filledAt, incomingSide, hside]
    · rw [balance_adjustBalance, if_neg hquote]
  | sell =>
    dsimp only
    rw [hposition, balance_adjustBalance, if_neg hquote, balance_adjustBalance]
    split_ifs with h
    · subst h
      simp [signedFill, filledAt, incomingSide, hside]
    · rfl

theorem Balanced.of_sameBook {v w : SimulatedVenue} (hw : Balanced initialBalances w)
    (h : SameBook v w) : Balanced initialBalances v := by
  intro asset hasset
  rw [balance, exposure, h.balances, h.positions]
  exact hw asset hasset

theorem Balanced.applyFill (h : Balanced initialBalances venue) (params : PlaceOrderParams)
    {price : Decimal}
    (hkeeps : params.asset ≠ "USDC" → venue.Covered (filledAt params price) ∧
      venue.SameLoss (filledAt params price))
    (fee : Decimal) :
    Balanced initialBalances (venue.applyFill params price params.size fee) := by
  intro asset hasset
  have hexposure : (venue.applyFill params price params.size fee).exposure asset =
      (venue.take (filledAt params price)).exposure asset := by
    rw [exposure, applyFill_positions]
    rfl
  have hbook := h asset hasset
  rw [hexposure, balance_applyFill venue params price fee hasset]
  split_ifs with heq
  · subst heq
    obtain ⟨hcovered, hloss⟩ := hkeeps hasset
    have htake : (venue.take (filledAt params price)).exposure params.asset = _ :=
      exposure_take hcovered
    rw [htake]
    unfold SameLoss loss at hloss
    cases hget : venue.positions.get? params.asset with
    | none =>
      have hzero : venue.exposure params.asset = 0 := by
        simp [exposure, OrderedMap.contribution, hget]
      simp only [filledAt, hget] at hloss ⊢
      linarith
    | some pos =>
      simp only [filledAt, hget] at hloss ⊢
      linarith
  · rw [venue.exposure_take_of_ne (filledAt params price) heq]
    exact hbook

theorem Balanced.step {event : BookEvent} (h : Balanced initialBalances venue)
    (hkeeps : venue.KeepsBooks event) :
    Balanced initialBalances (venue.handleBook event) := by
  cases event with
  | replayFilledOrder params =>
    have hfill : Balanced initialBalances (venue.applyFill (replayedParams params)
        params.fillPrice params.size params.fee) :=
      h.applyFill (replayedParams params) (fun hasset => hkeeps _ rfl hasset) params.fee
    exact hfill.of_sameBook (replayFilledOrder_sameBook (SameBook.refl venue) params)
  | event event =>
    cases hfill : venue.fillOf event with
    | none => exact h.of_sameBook (handle_of_no_fill hfill).1
    | some fill =>
      have hstep := hkeeps fill hfill
      cases event with
      | placeOrder params submittedAt =>
        obtain ⟨result, venue', hplaced, -, -, -, -, -, hbook⟩ :=
          placeOrder_of_marketFill (show venue.marketFill params = some fill from hfill)
            submittedAt
        have hvenue : venue.handleBook (.event (.placeOrder params submittedAt)) = venue' := by
          rw [handleBook, handle, hplaced]
        rw [eq_filledAt_of_marketFill hfill] at hstep
        rw [hvenue]
        exact (h.applyFill params hstep _).of_sameBook hbook
      | getOrder venueOrderId =>
        obtain ⟨params, fee, heq, hbook⟩ := getOrder_of_polledFill hfill
        rw [heq] at hstep
        exact (h.applyFill params hstep fee).of_sameBook hbook
      | connect | disconnect | cancelOrder venueOrderId | setPrice asset price => cases hfill

theorem balanced_create (config : SimulatedVenueConfig) :
    Balanced config.initialBalances (create config) := by
  intro asset _
  simp [balance, exposure, create, OrderedMap.contribution]

/-- In every run whose fills find what they may reduce and are rounded alike in both books, the
balance of every asset but the quote asset has moved by the signed position. -/
theorem books_balance (config : SimulatedVenueConfig) (events : List BookEvent)
    (h : Along handleBook KeepsBooks (create config) events) :
    Balanced config.initialBalances (events.foldl handleBook (create config)) :=
  h.invariant (fun _ _ hbook hkeeps => hbook.step hkeeps) (balanced_create config)

def bookConfig : SimulatedVenueConfig where
  venueId := "sim"
  makerFeePct := 1 / 1000
  takerFeePct := 2 / 1000
  slippagePct := 5 / 10000
  initialBalances := OrderedMap.ofList [("USDC", 10000), ("SOL", 10)]
  deterministicPrices := OrderedMap.ofList [("SOL", 200)]

def bookOrder (clientOrderId : String) (side : OrderSide) (size : Decimal)
    (price : Option Decimal) (reduceOnly : Bool) : PlaceOrderParams where
  clientOrderId
  asset := "SOL"
  side
  type := if price.isSome then .limit else .market
  size
  price
  reduceOnly

/-- A long position is opened, turned by a limit order, reduced, and a fill is replayed. -/
def bookRun : List BookEvent :=
  [.event .connect,
    .event (.placeOrder (bookOrder "a" .buy 3 none false) 0),
    .event (.placeOrder (bookOrder "b" .sell 5 (some 150) false) 0),
    .event (.getOrder "sim-sim-2"),
    .event (.placeOrder (bookOrder "c" .buy 1 none true) 0),
    .replayFilledOrder
      { venueOrderId := "sim-sim-9", clientOrderId := "d", asset := "SOL", side := .sell,
        size := 2, fillPrice := 190, fee := 0, reduceOnly := false, submittedAt := 0,
        marketIdentity := none }]

theorem books_balance_sample : Along handleBook KeepsBooks (create bookConfig) bookRun ∧
    Balanced bookConfig.initialBalances (bookRun.foldl handleBook (create bookConfig)) := by
  have h : Along handleBook KeepsBooks (create bookConfig) bookRun := by decide +kernel
  exact ⟨h, books_balance bookConfig bookRun h⟩

/-- A sale that may only reduce, without a position: the balance falls by the whole size. -/
theorem reduceOnly_unbalances : ¬ Balanced bookConfig.initialBalances
    (List.foldl handleBook (create bookConfig)
      [.event .connect, .event (.placeOrder (bookOrder "a" .sell 5 none true) 0)]) := by
  intro h
  exact absurd (h "SOL" (by decide)) (by decide +kernel)

end SimulatedVenue

end SentinelApex
