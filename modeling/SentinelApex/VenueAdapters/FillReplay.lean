import Mathlib.Data.List.TakeWhile
import SentinelApex.Domain.Places
import SentinelApex.VenueAdapters.ConcurrentOrders

/-!
# Replaying the fills of a venue

A venue that is reset and into which the reported fills of a run are replayed has the book of the
run (`replay_rebuilds`), as far as the eight places of a report hold prices and fees. The replay
moves the counter to the largest number of an id, so that the ids after it are new.
-/

namespace SentinelApex

open SimulatedVenue

namespace SimulatedVenue

theorem extractSequence_orderId (venueId : String) (n : ℕ) :
    extractSequence (orderId venueId n) = n := by
  have hlist : (orderId venueId n).toList =
      (venueId.toList ++ "-sim".toList) ++ '-' :: Nat.toDigits 10 n := by
    simp [orderId, toString, Nat.toList_repr]
  have hdigit : ∀ c ∈ Nat.toDigits 10 n, c.isDigit = true := fun c hc =>
    Nat.isDigit_of_mem_toDigits (by norm_num) le_rfl hc
  have hminus : ∀ c ∈ (Nat.toDigits 10 n).reverse, decide (c ≠ '-') = true := by
    intro c hc
    have hc' := hdigit c (List.mem_reverse.1 hc)
    rw [decide_eq_true_iff]
    rintro rfl
    exact absurd hc' (by decide)
  have hspace : ∀ c ∈ Nat.toDigits 10 n, c.isWhitespace = false := by
    intro c hc
    have hc' := hdigit c hc
    by_contra hne
    simp only [Char.isWhitespace, Bool.not_eq_false, Bool.or_eq_true, decide_eq_true_iff] at hne
    rcases hne with ((rfl | rfl) | rfl) | rfl <;> exact absurd hc' (by decide)
  have hsuffix : ((orderId venueId n).toList.reverse.takeWhile fun c => c ≠ '-').reverse =
      Nat.toDigits 10 n := by
    rw [hlist, List.reverse_append, List.reverse_cons, List.append_assoc,
      List.takeWhile_append_of_pos hminus]
    simp
  have hdrop : (Nat.toDigits 10 n).dropWhile Char.isWhitespace = Nat.toDigits 10 n :=
    List.dropWhile_eq_self_iff.2 fun hl => by
      rw [hspace _ (List.getElem_mem hl)]
      decide
  have htake : (Nat.toDigits 10 n).takeWhile Char.isDigit = Nat.toDigits 10 n :=
    List.takeWhile_eq_self_iff.2 hdigit
  unfold extractSequence
  simp only [hsuffix, hdrop, htake]
  exact Nat.ofDigitChars_ten_toDigits

/-- A fill as the venue reports it: the price and the fee with eight places. -/
def reported (fill : ReplayFillParams) : ReplayFillParams :=
  { fill with
    fillPrice := Decimal.roundPlaces fill.fillPrice 8
    fee := Decimal.roundPlaces fill.fee 8 }

theorem reported_of_mem {fill : ReplayFillParams} (hprice : fill.fillPrice ∈ Decimal.Places 8)
    (hfee : fill.fee ∈ Decimal.Places 8) : reported fill = fill := by
  unfold reported
  rw [Decimal.roundPlaces_of_mem hprice, Decimal.roundPlaces_of_mem hfee]

variable (fills : List ReplayFillParams) (venue : SimulatedVenue) (fill : ReplayFillParams)

theorem replayFilledOrder_config :
    (venue.replayFilledOrder fill).config = venue.config :=
  applyFill_config venue _ _ _ _

theorem replayFilledOrder_orderCounter :
    (venue.replayFilledOrder fill).orderCounter =
      max venue.orderCounter (extractSequence fill.venueOrderId) := by
  obtain ⟨balances, positions, heq⟩ := VenueDesk.applyFill_eq venue
    { replayedParams fill with
      marketIdentity := fill.marketIdentity.map fun identity =>
        captureCanonicalMarketIdentity identity .runtimeOrder "simulated_replay_fill" }
    fill.fillPrice fill.size fill.fee
  have hcounter : (venue.applyFill
      { replayedParams fill with
        marketIdentity := fill.marketIdentity.map fun identity =>
          captureCanonicalMarketIdentity identity .runtimeOrder "simulated_replay_fill" }
      fill.fillPrice fill.size fill.fee).orderCounter = venue.orderCounter := by rw [heq]
  exact congrArg (fun n => max n (extractSequence fill.venueOrderId)) hcounter

def replayAll (venue : SimulatedVenue) (fills : List ReplayFillParams) : SimulatedVenue :=
  fills.foldl replayFilledOrder venue

theorem replayAll_config :
    (venue.replayAll fills).config = venue.config := by
  induction fills generalizing venue with
  | nil => rfl
  | cons fill fills ih => exact (ih _).trans (replayFilledOrder_config venue fill)

theorem replayAll_sameBook {v w : SimulatedVenue} (h : SameBook v w) :
    SameBook (v.replayAll fills) (fills.foldl VenueDesk.applyRecord w) := by
  induction fills generalizing v w with
  | nil => exact h
  | cons fill fills ih => exact ih (replayFilledOrder_sameBook h fill)

theorem le_orderCounter_replayAll :
    venue.orderCounter ≤ (venue.replayAll fills).orderCounter ∧
      ∀ fill ∈ fills, extractSequence fill.venueOrderId ≤ (venue.replayAll fills).orderCounter := by
  induction fills generalizing venue with
  | nil => exact ⟨le_rfl, by simp⟩
  | cons fill fills ih =>
    obtain ⟨hcounter, hfills⟩ := ih (venue.replayFilledOrder fill)
    rw [replayFilledOrder_orderCounter] at hcounter
    refine ⟨(le_max_left _ _).trans hcounter, fun f hf => ?_⟩
    rcases List.mem_cons.1 hf with rfl | hf
    · exact (le_max_right _ _).trans hcounter
    · exact hfills f hf

end SimulatedVenue

namespace VenueDesk

theorem run_frame (events : List Event) (d : VenueDesk) :
    (events.foldl step d).venue.config = d.venue.config ∧
      d.venue.orderCounter ≤ (events.foldl step d).venue.orderCounter := by
  induction events generalizing d with
  | nil => exact ⟨rfl, le_rfl⟩
  | cons event events ih =>
    obtain ⟨hconfig, hcounter, -⟩ := d.knows_step event
    obtain ⟨hconfig', hcounter'⟩ := ih (d.step event)
    exact ⟨hconfig'.trans hconfig, hcounter.trans hcounter'⟩

def nextOrderId (d : VenueDesk) : String :=
  orderId d.venue.config.venueId (d.venue.orderCounter + 1)

/-- The venue of a desk after a reset and the replay of the reported fills. -/
def restored (d : VenueDesk) : SimulatedVenue :=
  d.venue.resetSimulationState.replayAll (d.fills.map reported)

/-- After any run of placements, polls and cancellations whose fills are reported exactly, the
restored venue has the book of the run, and whatever happens afterwards, no id that it gives to an
order is one of the replayed ones. -/
theorem replay_rebuilds (config : SimulatedVenueConfig) (events : List Event)
    (hplaces : ∀ fill ∈ (events.foldl step (start config)).fills,
      fill.fillPrice ∈ Decimal.Places 8 ∧ fill.fee ∈ Decimal.Places 8) :
    SameBook (events.foldl step (start config)).restored (events.foldl step (start config)).venue ∧
    ∀ (pending : List PendingCall) (later : List Event),
      ∀ fill ∈ (events.foldl step (start config)).fills,
        (later.foldl step { venue := (events.foldl step (start config)).restored
                            pending
                            fills := []
                            cancelled := [] }).nextOrderId ≠ fill.venueOrderId := by
  have hconfig : (events.foldl step (start config)).venue.config = config :=
    (run_frame events (start config)).1
  have hissued := issued_run config events
  have hbook := book_of_run config events
  set d := events.foldl step (start config)
  have hreported : d.fills.map reported = d.fills := by
    refine (List.map_congr_left fun fill hfill => ?_).trans (List.map_id _)
    exact reported_of_mem (hplaces fill hfill).1 (hplaces fill hfill).2
  have hreset : SameBook d.venue.resetSimulationState (SimulatedVenue.create config) := by
    refine ⟨?_, rfl⟩
    rw [resetSimulationState, hconfig]
    rfl
  constructor
  · rw [restored, hreported]
    exact (replayAll_sameBook d.fills hreset).trans hbook.symm
  · intro pending later fill hfill heq
    obtain ⟨n, -, hn⟩ := hissued fill.venueOrderId
      (Or.inl (List.mem_append_left _ (List.mem_append_left _ (List.mem_map_of_mem hfill))))
    obtain ⟨hlater, hcounter⟩ := run_frame later
      { venue := d.restored, pending, fills := [], cancelled := [] }
    have hle : n ≤ d.restored.orderCounter := by
      have hseq := (le_orderCounter_replayAll d.fills d.venue.resetSimulationState).2 fill hfill
      rwa [hn, extractSequence_orderId, ← congrArg (replayAll _) hreported] at hseq
    have hid : d.restored.config = config := (replayAll_config _ _).trans hconfig
    rw [nextOrderId, hlater, hn, hid, hconfig] at heq
    have hnext := orderId_injective _ heq
    have hstays : d.restored.orderCounter ≤ _ := hcounter
    omega

/-- The fills of two market orders and of a polled limit order that wait at the same time. -/
theorem replay_rebuilds_sample :
    (interleavedCalls.foldl step (start deskConfig)).fills.map (fun f => (f.fillPrice, f.fee)) =
        [(200.1, 0.4002), (250, 0.25), (200.1, 0.4002)] ∧
      SameBook (interleavedCalls.foldl step (start deskConfig)).restored
        (interleavedCalls.foldl step (start deskConfig)).venue := by
  have hexact : ∀ fill ∈ (interleavedCalls.foldl step (start deskConfig)).fills,
      Decimal.roundPlaces fill.fillPrice 8 = fill.fillPrice ∧
        Decimal.roundPlaces fill.fee 8 = fill.fee := by decide +kernel
  refine ⟨by decide +kernel, (replay_rebuilds deskConfig interleavedCalls fun fill hfill => ?_).1⟩
  obtain ⟨hprice, hfee⟩ := hexact fill hfill
  rw [← hprice, ← hfee]
  exact ⟨Decimal.roundPlaces_mem _ 8, Decimal.roundPlaces_mem _ 8⟩

end VenueDesk

end SentinelApex
