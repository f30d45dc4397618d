import SentinelApex.Lib.Runs
import SentinelApex.VenueAdapters.SimulatedFills
import Mathlib.Tactic.LinearCombination

/-!
# Cumulative PnL

The runtime reports as cumulative PnL what the positions that are open now have gained since their
entry. A venue keeps the profit of a closed size beside the position, or drops it with the position,
and the view of a position shows it as `'0'`: a closing fill takes its profit out of the figure.
-/

namespace SentinelApex

/-! ## The figure -/

/-- The view of a position; its id and times are left out. -/
structure PositionView where
  sleeveId : String
  venueId : String
  asset : String
  side : PositionSide
  size : DecimalText
  entryPrice : DecimalText
  markPrice : DecimalText
  unrealizedPnl : DecimalText
  realizedPnl : DecimalText
  fundingAccrued : DecimalText
  hedgeState : String
  status : String

def buildPositionViews (sleeveId : String) (venuePositions : List VenuePosition) :
    List PositionView :=
  venuePositions.map fun position =>
    { sleeveId
      venueId := position.venueId
      asset := position.asset
      side := position.side
      size := position.size
      entryPrice := position.entryPrice
      markPrice := position.markPrice
      unrealizedPnl := position.unrealizedPnl
      realizedPnl := some 0
      fundingAccrued := some 0
      hedgeState := "hedged"
      status := "open" }

/-- The simulated venues of a runtime by their id. -/
abbrev SimulatedAdapters := OrderedMap String SimulatedVenue

def collectPositions (sleeveId : String) (adapters : SimulatedAdapters) : List PositionView :=
  adapters.values.flatMap fun adapter => buildPositionViews sleeveId adapter.getPositions

def addPnl (running : Decimal) (position : PositionView) : Except String Decimal := do
  let unrealizedPnl ← newDecimal position.unrealizedPnl
  let realizedPnl ← newDecimal position.realizedPnl
  return (running.plus unrealizedPnl).plus realizedPnl

def computeCumulativePnl (sleeveId : String) (adapters : SimulatedAdapters) :
    Except String String := do
  let total ← (collectPositions sleeveId adapters).foldlM addPnl 0
  return total.toFixed 8

/-! ## What a venue earns -/

variable {venue : SimulatedVenue} {pos : InternalPosition} {asset : String} {price : Decimal}

namespace SimulatedVenue

def signedSize (pos : InternalPosition) : ℚ :=
  match pos.side with
  | .long => pos.size
  | .short => -pos.size

/-- The signed size held in an asset. -/
def exposure (venue : SimulatedVenue) (asset : String) : ℚ :=
  venue.positions.contribution (fun _ pos => signedSize pos) asset

/-- What a position has gained since its entry. -/
def openProfit (venue : SimulatedVenue) (asset : String) (pos : InternalPosition) : ℚ :=
  signedSize pos * (venue.currentPrice asset pos - pos.entryPrice)

def bookProfit (venue : SimulatedVenue) : ℚ := venue.positions.sumOf venue.openProfit

/-- Size times price move: the whole size held when the price of the asset moves, and the size
bought or sold when a fill is not at the current price. -/
def earnedBy (venue : SimulatedVenue) (event : Event) : ℚ :=
  match event with
  | .setPrice asset price =>
    venue.positions.contribution
      (fun _ pos => signedSize pos * (price - venue.currentPrice asset pos)) asset
  | event =>
    match venue.fillOf event with
    | none => 0
    | some fill =>
      ((venue.handle event).exposure fill.asset - venue.exposure fill.asset) *
        ((venue.config.deterministicPrices.get? fill.asset).getD fill.price - fill.price)

/-- The profit of the size that a fill closes. -/
def realizedBy (venue : SimulatedVenue) (fill : Fill) : ℚ :=
  match venue.positions.get? fill.asset with
  | none => 0
  | some pos =>
    if pos.side = fill.side then 0
    else match pos.side with
      | .long => (fill.price - pos.entryPrice) * min pos.size fill.size
      | .short => (pos.entryPrice - fill.price) * min pos.size fill.size

/-! ## Amounts that need no rounding -/

/-- A value of at most twenty digits. -/
abbrev Unrounded (x : ℚ) : Prop := decimalJs.round x = x

/-- The new size, and the new entry price with what it is computed from, need no rounding. -/
def FitsPosition (pos : InternalPosition) (fill : Fill) : Prop :=
  if pos.side = fill.side then
    pos.size + fill.size ≠ 0 ∧ Unrounded (pos.size + fill.size) ∧
      Unrounded (pos.entryPrice * pos.size) ∧ Unrounded (fill.price * fill.size) ∧
      Unrounded (pos.entryPrice * pos.size + fill.price * fill.size) ∧
      Unrounded ((pos.entryPrice * pos.size + fill.price * fill.size) / (pos.size + fill.size))
  else Unrounded (pos.size - fill.size)

instance (pos : InternalPosition) (fill : Fill) : Decidable (FitsPosition pos fill) :=
  inferInstanceAs (Decidable (ite _ _ _))

def Fits (venue : SimulatedVenue) (fill : Fill) : Prop :=
  ∀ pos ∈ venue.positions.get? fill.asset, FitsPosition pos fill

def ClosesAtEntry (venue : SimulatedVenue) (fill : Fill) : Prop :=
  ∀ pos ∈ venue.positions.get? fill.asset, pos.side ≠ fill.side → pos.entryPrice = fill.price

instance (venue : SimulatedVenue) (fill : Fill) : Decidable (venue.Fits fill) :=
  inferInstanceAs (Decidable (∀ pos ∈ _, _))

instance (venue : SimulatedVenue) (fill : Fill) : Decidable (venue.ClosesAtEntry fill) :=
  inferInstanceAs (Decidable (∀ pos ∈ _, _))

/-! ## The effect of a fill -/

theorem currentPrice_of_config {v w : SimulatedVenue} (h : v.config = w.config) :
    v.currentPrice = w.currentPrice := by
  funext asset pos
  unfold currentPrice getPrice
  rw [h]

theorem openProfit_of_config {v w : SimulatedVenue} (h : v.config = w.config) :
    v.openProfit = w.openProfit := by
  funext asset pos
  unfold openProfit
  rw [currentPrice_of_config h]

theorem currentPrice_of_getPrice (h : venue.getPrice asset = .ok price) (pos : InternalPosition) :
    venue.currentPrice asset pos = price := by
  unfold currentPrice
  rw [h]

theorem feed_of_getPrice (h : venue.getPrice asset = .ok price) :
    venue.config.deterministicPrices.get? asset = some price := by
  unfold getPrice at h
  split at h
  · cases h
  · rename_i feed hfeed
    rw [hfeed, Except.ok.inj h]

theorem contribution_openProfit (h : venue.getPrice asset = .ok price) :
    venue.positions.contribution venue.openProfit asset =
      ((venue.positions.get? asset).map fun pos =>
        signedSize pos * (price - pos.entryPrice)).getD 0 := by
  unfold OrderedMap.contribution openProfit
  cases venue.positions.get? asset with
  | none => rfl
  | some pos => simp only [Option.map_some, currentPrice_of_getPrice h]

theorem exposure_setPosition (venue : SimulatedVenue) (asset : String) (pos : InternalPosition) :
    (venue.setPosition asset pos).exposure asset = signedSize pos := by
  simp [exposure, setPosition, OrderedMap.contribution]

theorem exposure_deletePosition (venue : SimulatedVenue) (asset : String) :
    (venue.deletePosition asset).exposure asset = 0 := by
  simp [exposure, deletePosition, OrderedMap.contribution]

theorem setPosition_bookProfit (hprice : venue.getPrice asset = .ok price) (pos : InternalPosition) :
    (venue.setPosition asset pos).positions.sumOf venue.openProfit = venue.bookProfit +
      signedSize pos * (price - pos.entryPrice) -
      venue.positions.contribution venue.openProfit asset := by
  have hset := OrderedMap.sumOf_set venue.openProfit venue.positions asset pos
  have hpos : venue.openProfit asset pos = signedSize pos * (price - pos.entryPrice) := by
    rw [openProfit, currentPrice_of_getPrice hprice]
  rw [hpos] at hset
  exact hset

theorem deletePosition_bookProfit (venue : SimulatedVenue) (asset : String) :
    (venue.deletePosition asset).positions.sumOf venue.openProfit = venue.bookProfit -
      venue.positions.contribution venue.openProfit asset :=
  OrderedMap.sumOf_erase venue.openProfit venue.positions asset

theorem exposure_of_get? (hget : venue.positions.get? asset = some pos) :
    venue.exposure asset = signedSize pos := by
  simp [exposure, OrderedMap.contribution, hget]

section Take

variable {venue : SimulatedVenue} {fill : Fill} {price : Decimal}

section

variable (hprice : venue.getPrice fill.asset = .ok price)

include hprice

theorem take_open (hget : venue.positions.get? fill.asset = none) :
    (venue.take fill).positions.sumOf venue.openProfit = venue.bookProfit +
      ((venue.take fill).exposure fill.asset - venue.exposure fill.asset) *
        (price - fill.price) := by
  have hexposure : venue.exposure fill.asset = 0 := by
    simp [exposure, OrderedMap.contribution, hget]
  have hold := contribution_openProfit hprice
  simp only [hget, Option.map_none, Option.getD_none] at hold
  by_cases hreduce : fill.reduceOnly = true
  · have htake : venue.take fill = venue := by simp [take, updatePosition, hget, hreduce]
    rw [htake, hexposure]
    simp [bookProfit]
  · have htake : venue.take fill = venue.setPosition fill.asset
        { asset := fill.asset, side := fill.side, size := fill.size,
          entryPrice := fill.price, realizedPnl := 0 } := by
      simp [take, updatePosition, hget, hreduce]
    rw [htake, setPosition_bookProfit hprice, exposure_setPosition, hexposure, hold]
    ring

theorem take_add (hget : venue.positions.get? fill.asset = some pos) (hside : pos.side = fill.side)
    (hfit : FitsPosition pos fill) :
    (venue.take fill).positions.sumOf venue.openProfit = venue.bookProfit +
      ((venue.take fill).exposure fill.asset - venue.exposure fill.asset) *
        (price - fill.price) := by
  have hold := contribution_openProfit hprice
  simp only [hget, Option.map_some, Option.getD_some] at hold
  rw [FitsPosition, if_pos hside] at hfit
  obtain ⟨hne, hsize, hheld, hadded, hcost, hentry⟩ := hfit
  have htake : venue.take fill = venue.setPosition fill.asset
      { pos with
        size := pos.size + fill.size
        entryPrice := (pos.entryPrice * pos.size + fill.price * fill.size) /
          (pos.size + fill.size) } := by
    simp only [take, updatePosition, hget, hside, if_true, Decimal.plus, Decimal.times,
      Decimal.div, hsize, hheld, hadded, hcost, hentry]
  have haverage : (pos.size + fill.size) *
      ((pos.entryPrice * pos.size + fill.price * fill.size) / (pos.size + fill.size)) =
        pos.entryPrice * pos.size + fill.price * fill.size :=
    mul_div_cancel₀ _ hne
  rw [htake, setPosition_bookProfit hprice, exposure_setPosition, exposure_of_get? hget, hold]
  cases hpos : pos.side with
  | long =>
    simp only [signedSize, hpos]
    linear_combination -haverage
  | short =>
    simp only [signedSize, hpos]
    linear_combination haverage

theorem take_close (hget : venue.positions.get? fill.asset = some pos)
    (hside : pos.side ≠ fill.side) (hfit : FitsPosition pos fill) :
    (venue.take fill).positions.sumOf venue.openProfit = venue.bookProfit +
      ((venue.take fill).exposure fill.asset - venue.exposure fill.asset) *
        (price - fill.price) - venue.realizedBy fill := by
  have hold := contribution_openProfit hprice
  simp only [hget, Option.map_some, Option.getD_some] at hold
  rw [FitsPosition, if_neg hside] at hfit
  have hrealized : venue.realizedBy fill = match pos.side with
      | .long => (fill.price - pos.entryPrice) * min pos.size fill.size
      | .short => (pos.entryPrice - fill.price) * min pos.size fill.size := by
    simp [realizedBy, hget, hside]
  rw [hrealized]
  by_cases hle : fill.size ≤ pos.size
  · rw [min_eq_right hle]
    by_cases hzero : pos.size - fill.size = 0
    · have htake : venue.take fill = venue.deletePosition fill.asset := by
        simp [take, updatePosition, hget, hside, hle, Decimal.minus, hzero]
      rw [htake, deletePosition_bookProfit, exposure_deletePosition, exposure_of_get? hget, hold]
      have hsize : pos.size = fill.size := sub_eq_zero.1 hzero
      cases hpos : pos.side with
      | long | short =>
        simp only [signedSize, hpos, hsize]
        ring
    · obtain ⟨realized, htake⟩ : ∃ realized, venue.take fill =
          venue.setPosition fill.asset
            { pos with size := pos.size - fill.size, realizedPnl := realized } := by
        refine ⟨pos.realizedPnl.plus (realizedPnl pos fill.price fill.size), ?_⟩
        simp [take, updatePosition, hget, hside, hle, Decimal.minus, hfit, hzero]
      rw [htake, setPosition_bookProfit hprice, exposure_setPosition, exposure_of_get? hget, hold]
      cases hpos : pos.side with
      | long | short =>
        simp only [signedSize, hpos]
        ring
  · rw [min_eq_left (not_le.1 hle).le]
    by_cases hreduce : fill.reduceOnly = true
    · have htake : venue.take fill = venue.deletePosition fill.asset := by
        simp [take, updatePosition, hget, hside, hle, hreduce]
      rw [htake, deletePosition_bookProfit, exposure_deletePosition, exposure_of_get? hget, hold]
      cases hpos : pos.side with
      | long | short =>
        simp only [signedSize, hpos]
        ring
    · have hflip : decimalJs.round (fill.size - pos.size) = fill.size - pos.size := by
        rw [← neg_sub, decimalJs.round_neg, hfit]
      have htake : venue.take fill = venue.setPosition fill.asset
          { asset := fill.asset, side := fill.side, size := fill.size - pos.size,
            entryPrice := fill.price, realizedPnl := realizedPnl pos fill.price pos.size } := by
        simp [take, updatePosition, hget, hside, hle, hreduce, Decimal.minus, hflip]
      rw [htake, setPosition_bookProfit hprice, exposure_setPosition, exposure_of_get? hget, hold]
      cases hpos : pos.side with
      | long =>
        have hshort : fill.side = .short := by
          cases hfill : fill.side with
          | long => exact absurd (hpos.trans hfill.symm) hside
          | short => rfl
        simp only [signedSize, hpos, hshort]
        ring
      | short =>
        have hlong : fill.side = .long := by
          cases hfill : fill.side with
          | long => rfl
          | short => exact absurd (hpos.trans hfill.symm) hside
        simp only [signedSize, hpos, hlong]
        ring

theorem take_bookProfit (hfits : venue.Fits fill) :
    (venue.take fill).positions.sumOf venue.openProfit = venue.bookProfit +
      ((venue.take fill).exposure fill.asset - venue.exposure fill.asset) *
        (price - fill.price) - venue.realizedBy fill := by
  cases hget : venue.positions.get? fill.asset with
  | none =>
    have hrealized : venue.realizedBy fill = 0 := by simp [realizedBy, hget]
    rw [hrealized, sub_zero]
    exact take_open hprice hget
  | some pos =>
    have hfit : FitsPosition pos fill := hfits pos hget
    by_cases hside : pos.side = fill.side
    · have hrealized : venue.realizedBy fill = 0 := by simp [realizedBy, hget, hside]
      rw [hrealized, sub_zero]
      exact take_add hprice hget hside hfit
    · exact take_close hprice hget hside hfit

end

end Take

/-! ## The effect of an event -/

/-- An event fills what `fillOf` says, and otherwise moves neither positions nor prices. -/
structure FillsBy (venue after : SimulatedVenue) (fill : Option Fill) : Prop where
  config : after.config = venue.config
  positions : after.positions = (fill.elim venue venue.take).positions

section

variable (venue : SimulatedVenue)

theorem placeOrder_fillsBy (params : PlaceOrderParams) (submittedAt : Date) :
    FillsBy venue (venue.placeOrder params submittedAt).2
      (venue.marketFill params) := by
  cases hfill : venue.marketFill params with
  | none =>
    obtain ⟨hbook, hconfig, -⟩ := placeOrder_of_no_fill hfill submittedAt
    exact ⟨hconfig, hbook.positions⟩
  | some fill =>
    obtain ⟨result, venue', hplaced, -, -, -, -, hconfig, hbook⟩ :=
      placeOrder_of_marketFill hfill submittedAt
    rw [hplaced]
    refine ⟨hconfig, hbook.positions.trans ?_⟩
    rw [applyFill_positions, ← eq_filledAt_of_marketFill hfill]
    rfl

theorem getOrder_fillsBy (venueOrderId : String) :
    FillsBy venue (venue.getOrder venueOrderId).2 (venue.polledFill venueOrderId) := by
  refine ⟨venue.getOrder_config venueOrderId, ?_⟩
  cases hfill : venue.polledFill venueOrderId with
  | none => exact (getOrder_of_no_fill hfill).positions
  | some fill =>
    obtain ⟨params, fee, heq, hbook⟩ := getOrder_of_polledFill hfill
    rw [hbook.positions, applyFill_positions, ← heq]
    rfl

theorem cancelOrder_fillsBy (venueOrderId : String) :
    FillsBy venue (venue.cancelOrder venueOrderId).2 none :=
  ⟨venue.cancelOrder_config venueOrderId, (venue.cancelOrder_sameBook venueOrderId).positions⟩

theorem getPrice_setPrice (asset other : String) (price : Decimal) :
    (venue.setPrice asset price).getPrice other =
      if asset = other then .ok price else venue.getPrice other := by
  unfold getPrice setPrice
  simp only [OrderedMap.get?_set]
  split_ifs <;> rfl

theorem setPrice_bookProfit (asset : String) (price : Decimal) :
    (venue.setPrice asset price).bookProfit =
      venue.bookProfit + venue.earnedBy (.setPrice asset price) := by
  have hother : ∀ other pos, other ≠ asset →
      (venue.setPrice asset price).openProfit other pos = venue.openProfit other pos := by
    intro other pos hne
    have hprice := venue.getPrice_setPrice asset other price
    rw [if_neg (Ne.symm hne)] at hprice
    unfold openProfit currentPrice
    rw [hprice]
  have hprice : (venue.setPrice asset price).getPrice asset = .ok price := by
    rw [getPrice_setPrice, if_pos rfl]
  have hsum : (venue.setPrice asset price).bookProfit = venue.bookProfit +
      venue.positions.contribution (venue.setPrice asset price).openProfit asset -
      venue.positions.contribution venue.openProfit asset :=
    OrderedMap.sumOf_eq_of_ne (m := venue.positions) hother
  rw [hsum, earnedBy]
  unfold OrderedMap.contribution
  cases venue.positions.get? asset with
  | none => simp
  | some pos =>
    simp only [Option.map_some, Option.getD_some, openProfit, currentPrice_of_getPrice hprice]
    ring

end

/-- The realized profit that an event takes out of the figure. -/
def droppedBy (venue : SimulatedVenue) (event : Event) : ℚ :=
  ((venue.fillOf event).map venue.realizedBy).getD 0

/-- An event other than a price move. -/
theorem bookProfit_of_fillsBy {event : Event}
    (h : FillsBy venue (venue.handle event) (venue.fillOf event))
    (hfits : ∀ fill ∈ venue.fillOf event, venue.Fits fill) :
    (venue.handle event).bookProfit = venue.bookProfit +
      (match venue.fillOf event with
        | none => 0
        | some fill =>
          ((venue.handle event).exposure fill.asset - venue.exposure fill.asset) *
            ((venue.config.deterministicPrices.get? fill.asset).getD fill.price - fill.price)) -
      venue.droppedBy event := by
  have hbook : (venue.handle event).bookProfit =
      (venue.handle event).positions.sumOf venue.openProfit := by
    rw [bookProfit, openProfit_of_config h.config]
  have hpositions := h.positions
  rw [hbook]
  cases hfill : venue.fillOf event with
  | none =>
    rw [hfill] at hpositions
    rw [hpositions]
    simp [droppedBy, hfill, bookProfit]
  | some fill =>
    rw [hfill] at hpositions
    obtain ⟨price, hprice⟩ := getPrice_of_fillOf hfill
    have hfeed : venue.config.deterministicPrices.get? fill.asset = some price :=
      feed_of_getPrice hprice
    have hexposure : (venue.handle event).exposure fill.asset =
        (venue.take fill).exposure fill.asset := by
      rw [exposure, hpositions]
      rfl
    have htake := take_bookProfit hprice (hfits fill hfill)
    rw [hpositions]
    simp only [Option.elim, droppedBy, hfill, Option.map_some, Option.getD_some, hfeed, hexposure]
    exact htake

theorem handle_bookProfit {event : Event} (hfits : ∀ fill ∈ venue.fillOf event, venue.Fits fill) :
    (venue.handle event).bookProfit =
      venue.bookProfit + venue.earnedBy event - venue.droppedBy event := by
  cases event with
  | connect | disconnect => exact bookProfit_of_fillsBy ⟨rfl, rfl⟩ hfits
  | placeOrder params submittedAt =>
    exact bookProfit_of_fillsBy (placeOrder_fillsBy venue params submittedAt) hfits
  | getOrder venueOrderId => exact bookProfit_of_fillsBy (getOrder_fillsBy venue venueOrderId) hfits
  | cancelOrder venueOrderId =>
    exact bookProfit_of_fillsBy (cancelOrder_fillsBy venue venueOrderId) hfits
  | setPrice asset price =>
    have hnone : venue.droppedBy (.setPrice asset price) = 0 := rfl
    rw [hnone, sub_zero]
    exact setPrice_bookProfit venue asset price

end SimulatedVenue

variable {adapters : SimulatedAdapters}

namespace SimulatedAdapters

open SimulatedVenue Runs

/-! ## Runs -/

/-- An event at the venue with an id. -/
abbrev Step := String × SimulatedVenue.Event

def handle (adapters : SimulatedAdapters) (step : Step) : SimulatedAdapters :=
  match adapters.get? step.1 with
  | none => adapters
  | some venue => adapters.set step.1 (venue.handle step.2)

def run (adapters : SimulatedAdapters) (steps : List Step) : SimulatedAdapters :=
  steps.foldl handle adapters

/-- The sum of a figure of the steps of a run. -/
def total (amount : SimulatedVenue → SimulatedVenue.Event → ℚ) :
    SimulatedAdapters → List Step → ℚ
  | _, [] => 0
  | adapters, step :: steps =>
    ((adapters.get? step.1).map fun venue => amount venue step.2).getD 0 +
      total amount (adapters.handle step) steps

/-- Size times price moves over a run. -/
def earned (adapters : SimulatedAdapters) (steps : List Step) : ℚ :=
  total SimulatedVenue.earnedBy adapters steps

/-- The realized profits of a run. -/
def dropped (adapters : SimulatedAdapters) (steps : List Step) : ℚ :=
  total SimulatedVenue.droppedBy adapters steps

def bookProfit (adapters : SimulatedAdapters) : ℚ :=
  adapters.sumOf fun _ venue => venue.bookProfit

def FillMeets (p : SimulatedVenue → Fill → Prop) (adapters : SimulatedAdapters) (step : Step) :
    Prop :=
  ∀ venue ∈ adapters.get? step.1, ∀ fill ∈ venue.fillOf step.2, p venue fill

instance (p : SimulatedVenue → Fill → Prop) [∀ venue fill, Decidable (p venue fill)]
    (adapters : SimulatedAdapters) (step : Step) : Decidable (FillMeets p adapters step) :=
  inferInstanceAs (Decidable (∀ venue ∈ _, ∀ fill ∈ _, _))

variable {step : Step}

theorem handle_bookProfit (hfits : FillMeets Fits adapters step) :
    (adapters.handle step).bookProfit = adapters.bookProfit +
      ((adapters.get? step.1).map fun venue => venue.earnedBy step.2).getD 0 -
      ((adapters.get? step.1).map fun venue => venue.droppedBy step.2).getD 0 := by
  unfold handle
  cases hget : adapters.get? step.1 with
  | none => simp
  | some venue =>
    have hset := OrderedMap.sumOf_set (fun _ venue => SimulatedVenue.bookProfit venue) adapters
      step.1 (venue.handle step.2)
    have hold : adapters.contribution (fun _ venue => SimulatedVenue.bookProfit venue) step.1 =
        venue.bookProfit := by
      simp [OrderedMap.contribution, hget]
    have hvenue := SimulatedVenue.handle_bookProfit (hfits venue hget)
    simp only [Option.map_some, Option.getD_some]
    calc bookProfit (adapters.set step.1 (venue.handle step.2))
        = adapters.bookProfit + (venue.handle step.2).bookProfit - venue.bookProfit := by
          rw [← hold]
          exact hset
      _ = adapters.bookProfit + venue.earnedBy step.2 - venue.droppedBy step.2 := by
          rw [hvenue]
          ring

/-- What the open positions have gained is what was earned over the run, less what was realized. -/
theorem run_bookProfit {steps : List Step} (hfits : Along handle (FillMeets Fits) adapters steps) :
    (adapters.run steps).bookProfit =
      adapters.bookProfit + adapters.earned steps - adapters.dropped steps := by
  induction steps generalizing adapters with
  | nil => simp [run, earned, dropped, total]
  | cons step steps ih =>
    have hrun : adapters.run (step :: steps) = (adapters.handle step).run steps := rfl
    rw [hrun, ih hfits.2, handle_bookProfit hfits.1]
    simp only [earned, dropped, total]
    ring

/-! ## The reported figure -/

def held (adapters : SimulatedAdapters) : List (SimulatedVenue × String × InternalPosition) :=
  adapters.values.flatMap fun venue =>
    (venue.positions.entries.filter fun e => e.2.size ≠ 0).map fun e => (venue, e)

def openProfits (adapters : SimulatedAdapters) : List ℚ :=
  adapters.held.map fun h => h.1.openProfit h.2.1 h.2.2

/-- The figure is computed without rounding. -/
structure Readable (adapters : SimulatedAdapters) : Prop where
  moves : ∀ h ∈ adapters.held, Unrounded (h.1.currentPrice h.2.1 h.2.2 - h.2.2.entryPrice)
  profits : ∀ profit ∈ adapters.openProfits, Unrounded profit
  sums : ∀ profits ∈ adapters.openProfits.inits, Unrounded profits.sum

theorem unrealizedPnl_eq (hmove : Unrounded (venue.currentPrice asset pos - pos.entryPrice))
    (hprofit : Unrounded (venue.openProfit asset pos)) :
    (venue.toVenuePosition asset pos).unrealizedPnl = some (venue.openProfit asset pos) := by
  unfold toVenuePosition
  unfold openProfit signedSize at hprofit ⊢
  cases hside : pos.side with
  | long =>
    simp only [hside] at hprofit ⊢
    rw [Decimal.minus, hmove, Decimal.times, mul_comm, hprofit]
  | short =>
    have hback : decimalJs.round (pos.entryPrice - venue.currentPrice asset pos) =
        pos.entryPrice - venue.currentPrice asset pos := by
      rw [← neg_sub, decimalJs.round_neg, hmove]
    have hswap : (pos.entryPrice - venue.currentPrice asset pos) * pos.size =
        -pos.size * (venue.currentPrice asset pos - pos.entryPrice) := by ring
    simp only [hside] at hprofit ⊢
    rw [Decimal.minus, hback, Decimal.times, hswap, hprofit]

def viewOf (sleeveId : String) (h : SimulatedVenue × String × InternalPosition) : PositionView :=
  { sleeveId
    venueId := h.1.config.venueId
    asset := h.2.1
    side := h.2.2.side
    size := (h.1.toVenuePosition h.2.1 h.2.2).size
    entryPrice := (h.1.toVenuePosition h.2.1 h.2.2).entryPrice
    markPrice := (h.1.toVenuePosition h.2.1 h.2.2).markPrice
    unrealizedPnl := (h.1.toVenuePosition h.2.1 h.2.2).unrealizedPnl
    realizedPnl := some 0
    fundingAccrued := some 0
    hedgeState := "hedged"
    status := "open" }

theorem collectPositions_eq (sleeveId : String) (adapters : SimulatedAdapters) :
    collectPositions sleeveId adapters = adapters.held.map (viewOf sleeveId) := by
  unfold collectPositions held buildPositionViews getPositions
  simp only [List.map_flatMap, List.map_map]
  rfl

theorem foldlM_addPnl (sleeveId : String)
    (hs : List (SimulatedVenue × String × InternalPosition)) (running : Decimal)
    (hview : ∀ h ∈ hs, (viewOf sleeveId h).unrealizedPnl = some (h.1.openProfit h.2.1 h.2.2))
    (hsums : ∀ profits ∈ (hs.map fun h => h.1.openProfit h.2.1 h.2.2).inits,
      Unrounded (running + profits.sum)) :
    (hs.map (viewOf sleeveId)).foldlM addPnl running =
      .ok (running + (hs.map fun h => h.1.openProfit h.2.1 h.2.2).sum) := by
  induction hs generalizing running with
  | nil => simp [pure, Except.pure]
  | cons h hs ih =>
    set profit := h.1.openProfit h.2.1 h.2.2 with hprofit
    have hfirst : Unrounded (running + profit) := by
      simpa using hsums [profit] (by simp [← hprofit])
    have hadd : addPnl running (viewOf sleeveId h) = .ok (running + profit) := by
      have hunrealized := hview h (by simp)
      simp only [addPnl, hunrealized, ← hprofit]
      simp [viewOf, newDecimal, bind, Except.bind, pure, Except.pure, Decimal.plus, hfirst]
    have hrest := ih (running + profit) (fun h' hh => hview h' (by simp [hh])) (by
      intro profits hprofits
      have hsum := hsums (profit :: profits) (by simpa [← hprofit] using hprofits)
      rwa [List.sum_cons, ← add_assoc] at hsum)
    simp only [List.map_cons, List.foldlM_cons, List.sum_cons, hadd, bind, Except.bind, hrest,
      ← hprofit, add_assoc]

theorem openProfit_of_size_zero (venue : SimulatedVenue) (asset : String) (h : pos.size = 0) :
    venue.openProfit asset pos = 0 := by
  unfold openProfit signedSize
  cases pos.side <;> simp [h]

theorem sum_reported (venue : SimulatedVenue) :
    ((venue.positions.entries.filter fun e => e.2.size ≠ 0).map fun e =>
      venue.openProfit e.1 e.2).sum = venue.bookProfit := by
  unfold SimulatedVenue.bookProfit OrderedMap.sumOf
  induction venue.positions.entries with
  | nil => rfl
  | cons e es ih =>
    by_cases hzero : e.2.size = 0
    · simpa [hzero, openProfit_of_size_zero venue e.1 hzero] using ih
    · simpa [hzero] using ih

theorem sum_openProfits (adapters : SimulatedAdapters) :
    adapters.openProfits.sum = adapters.bookProfit := by
  unfold openProfits held bookProfit OrderedMap.values OrderedMap.sumOf
  induction adapters.entries with
  | nil => rfl
  | cons e es ih =>
    have hfirst := sum_reported e.2
    simp only [List.map_cons, List.flatMap_cons, List.map_append, List.sum_append, List.sum_cons,
      List.map_map] at ih ⊢
    rw [ih]
    exact congrArg (· + _) hfirst

theorem computeCumulativePnl_eq (h : adapters.Readable) (sleeveId : String) :
    computeCumulativePnl sleeveId adapters = .ok (Decimal.toFixed adapters.bookProfit 8) := by
  have hview : ∀ held ∈ adapters.held,
      (viewOf sleeveId held).unrealizedPnl = some (held.1.openProfit held.2.1 held.2.2) :=
    fun held hheld =>
      unrealizedPnl_eq (h.moves held hheld) (h.profits _ (List.mem_map_of_mem hheld))
  have hfold := foldlM_addPnl sleeveId adapters.held 0 hview
    (fun profits hprofits => by simpa using h.sums profits hprofits)
  have hsum : (adapters.held.map fun h => h.1.openProfit h.2.1 h.2.2).sum = adapters.bookProfit :=
    sum_openProfits adapters
  rw [hsum, zero_add] at hfold
  simp only [computeCumulativePnl, collectPositions_eq, hfold]
  rfl

/-! ## Runs that realize nothing -/

theorem realizedBy_of_closesAtEntry {fill : Fill} (h : venue.ClosesAtEntry fill) :
    venue.realizedBy fill = 0 := by
  unfold realizedBy
  cases hget : venue.positions.get? fill.asset with
  | none => rfl
  | some pos =>
    by_cases hside : pos.side = fill.side
    · simp [hside]
    · have hentry := h pos hget hside
      simp only [if_neg hside]
      cases pos.side with
      | long | short => simp [hentry]

theorem droppedBy_of_closesAtEntry (h : FillMeets ClosesAtEntry adapters step) :
    ((adapters.get? step.1).map fun venue => venue.droppedBy step.2).getD 0 = 0 := by
  cases hget : adapters.get? step.1 with
  | none => rfl
  | some venue =>
    simp only [Option.map_some, Option.getD_some, droppedBy]
    cases hfill : venue.fillOf step.2 with
    | none => rfl
    | some fill => exact realizedBy_of_closesAtEntry (h venue hget fill hfill)

theorem dropped_eq_zero {steps : List Step}
    (h : Along handle (FillMeets ClosesAtEntry) adapters steps) : adapters.dropped steps = 0 := by
  induction steps generalizing adapters with
  | nil => rfl
  | cons step steps ih =>
    have hfirst := droppedBy_of_closesAtEntry h.1
    have hrest := ih h.2
    unfold dropped at hrest
    simp only [dropped, total, hfirst, hrest, add_zero]

/-- A step that fills at the price of the feed. -/
def AtMark (adapters : SimulatedAdapters) (step : Step) : Prop :=
  ∃ venue ∈ adapters.get? step.1, ∃ fill ∈ venue.fillOf step.2,
    venue.getPrice fill.asset = .ok fill.price

instance (adapters : SimulatedAdapters) (step : Step) : Decidable (AtMark adapters step) :=
  inferInstanceAs (Decidable (∃ venue ∈ _, ∃ fill ∈ _, _))

theorem earnedBy_of_atMark {event : Event} {fill : Fill} (hfill : venue.fillOf event = some fill)
    (hmark : venue.getPrice fill.asset = .ok fill.price) : venue.earnedBy event = 0 := by
  have hfeed := feed_of_getPrice hmark
  unfold earnedBy
  cases event with
  | setPrice asset price | connect | disconnect | cancelOrder venueOrderId => cases hfill
  | placeOrder params submittedAt | getOrder venueOrderId =>
    simp only [hfill, hfeed, Option.getD_some, sub_self, mul_zero]

/-- The condition on a fill: it closes at the entry price only, and its sizes and prices need no
rounding. -/
def Keeps (venue : SimulatedVenue) (fill : Fill) : Prop :=
  venue.ClosesAtEntry fill ∧ venue.Fits fill

instance (venue : SimulatedVenue) (fill : Fill) : Decidable (Keeps venue fill) :=
  inferInstanceAs (Decidable (_ ∧ _))

theorem Keeps.closes (h : FillMeets Keeps adapters step) :
    FillMeets ClosesAtEntry adapters step :=
  fun venue hvenue fill hfill => (h venue hvenue fill hfill).1

theorem Keeps.fits (h : FillMeets Keeps adapters step) :
    FillMeets Fits adapters step :=
  fun venue hvenue fill hfill => (h venue hvenue fill hfill).2

theorem bookProfit_of_no_positions (h : ∀ venue ∈ adapters.values, venue.positions.entries = []) :
    adapters.bookProfit = 0 := by
  refine List.sum_eq_zero fun x hx => ?_
  obtain ⟨e, he, rfl⟩ := List.mem_map.1 hx
  have hentries := h e.2 (List.mem_map_of_mem he)
  simp [SimulatedVenue.bookProfit, OrderedMap.sumOf, hentries]

/-- In a run from venues without positions in which every fill that reduces, closes or flips a
position is at its entry price, cumulative PnL is size times price moves of everything ever held,
and a further fill at the mark that meets the condition leaves it unchanged. -/
theorem computeCumulativePnl_run (sleeveId : String) (adapters : SimulatedAdapters)
    (steps : List Step) (hstart : ∀ venue ∈ adapters.values, venue.positions.entries = [])
    (hkeeps : Along handle (FillMeets Keeps) adapters steps) (hread : (adapters.run steps).Readable) :
    computeCumulativePnl sleeveId (adapters.run steps) =
        .ok (Decimal.toFixed (adapters.earned steps) 8) ∧
      ∀ step, AtMark (adapters.run steps) step → FillMeets Keeps (adapters.run steps) step →
        ((adapters.run steps).handle step).Readable →
        computeCumulativePnl sleeveId ((adapters.run steps).handle step) =
          computeCumulativePnl sleeveId (adapters.run steps) := by
  have hfits : Along handle (FillMeets Fits) adapters steps := hkeeps.mono fun _ _ => Keeps.fits
  have hdropped : adapters.dropped steps = 0 :=
    dropped_eq_zero (hkeeps.mono fun _ _ => Keeps.closes)
  constructor
  · rw [computeCumulativePnl_eq hread, run_bookProfit hfits, bookProfit_of_no_positions hstart,
      hdropped, zero_add, sub_zero]
  · rintro step ⟨venue, hvenue, fill, hfill, hmark⟩ hstep hafter
    have hearned : ((Option.map (fun venue => venue.earnedBy step.2)
        ((adapters.run steps).get? step.1)).getD 0) = 0 := by
      rw [Option.mem_def.1 hvenue]
      exact earnedBy_of_atMark hfill hmark
    have hrealized := droppedBy_of_closesAtEntry (Keeps.closes hstep)
    have hbook := handle_bookProfit (Keeps.fits hstep)
    rw [hearned, hrealized, add_zero, sub_zero] at hbook
    rw [computeCumulativePnl_eq hafter, computeCumulativePnl_eq hread, hbook]

/-! ## One venue without fees and slippage -/

/-- A venue that trades at 100. -/
def sampleAdapters : SimulatedAdapters :=
  OrderedMap.ofList [("venue-a", SimulatedVenue.create
    { venueId := "venue-a"
      makerFeePct := 0
      takerFeePct := 0
      slippagePct := 0
      initialBalances := OrderedMap.ofList [("USDC", 1000)]
      deterministicPrices := OrderedMap.ofList [("BTC", 100)] })]

def marketOrder (clientOrderId : String) (side : OrderSide) (size : Decimal) : Step :=
  ("venue-a", .placeOrder
    { clientOrderId
      asset := "BTC"
      side
      type := .market
      size } 0)

/-- Buy one at 100 and one at 110, and turn to one short at their average. -/
def sampleSteps : List Step :=
  [("venue-a", .connect), marketOrder "order-1" .buy 1, ("venue-a", .setPrice "BTC" 110),
    marketOrder "order-2" .buy 1, ("venue-a", .setPrice "BTC" 105),
    marketOrder "order-3" .sell 3, ("venue-a", .setPrice "BTC" 95)]

theorem computeCumulativePnl_run_sample :
    computeCumulativePnl "carry" (sampleAdapters.run sampleSteps) =
        .ok (Decimal.toFixed (sampleAdapters.earned sampleSteps) 8) ∧
      sampleAdapters.earned sampleSteps = 10 ∧
      computeCumulativePnl "carry" ((sampleAdapters.run sampleSteps).handle
          (marketOrder "order-4" .sell 1)) =
        computeCumulativePnl "carry" (sampleAdapters.run sampleSteps) := by
  have hrun := computeCumulativePnl_run "carry" sampleAdapters sampleSteps (by decide +kernel)
    (by decide +kernel) ⟨by decide +kernel, by decide +kernel, by decide +kernel⟩
  exact ⟨hrun.1, by decide +kernel, hrun.2 (marketOrder "order-4" .sell 1) (by decide +kernel)
    (by decide +kernel) ⟨by decide +kernel, by decide +kernel, by decide +kernel⟩⟩

/-- Buy one at 100; the price rises to 110. -/
def risingSteps : List Step :=
  [("venue-a", .connect), marketOrder "order-1" .buy 1, ("venue-a", .setPrice "BTC" 110)]

/-- Closing at the mark forgets the profit. -/
theorem computeCumulativePnl_close :
    computeCumulativePnl "carry" (sampleAdapters.run risingSteps) = .ok "10.00000000" ∧
      AtMark (sampleAdapters.run risingSteps) (marketOrder "order-2" .sell 1) ∧
      sampleAdapters.earned (risingSteps ++ [marketOrder "order-2" .sell 1]) = 10 ∧
      computeCumulativePnl "carry"
          (sampleAdapters.run (risingSteps ++ [marketOrder "order-2" .sell 1])) =
        .ok "0.00000000" := by
  decide +kernel

end SimulatedAdapters

end SentinelApex
