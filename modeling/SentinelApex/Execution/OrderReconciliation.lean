import SentinelApex.Execution.Reconciler
import SentinelApex.VenueAdapters.SimulatedFills

/-!
# What the order reconciliation probes

The map of the open orders holds the venue order id of every open order of the venue
(`openOrdersOf_iff`): the store keeps its records by client order id, so none overwrites another.
The reconciliation reports nothing exactly when the venue knows all of them and has filled none
(`reconcileOrders_clean_iff`).
-/

namespace SentinelApex

open Async

variable {store : InMemoryOrderStore} {id venueOrderId venueId : String}

namespace Reconciler

structure OpenLocally (venueId : String) (store : InMemoryOrderStore) (record : OrderRecord)
    (venueOrderId : String) : Prop where
  mem : record ∈ store.values
  status : record.status ∈ openStatuses
  venueId : record.intent.venueId = venueId
  venueOrderId : record.venueOrderId = some venueOrderId

def openRecords (store : InMemoryOrderStore) : List OrderRecord :=
  openStatuses.flatMap fun status => store.listByStatus status

def openOrdersOf (venueId : String) (store : InMemoryOrderStore) : OrderedMap String String :=
  (openRecords store).foldl (addOpenOrder venueId) OrderedMap.empty

variable {record : OrderRecord}

theorem mem_openRecords :
    record ∈ openRecords store ↔ record ∈ store.values ∧ record.status ∈ openStatuses := by
  simp only [openRecords, InMemoryOrderStore.listByStatus, List.mem_flatMap, List.mem_filter,
    decide_eq_true_eq]
  constructor
  · rintro ⟨status, hstatus, hmem, rfl⟩
    exact ⟨hmem, hstatus⟩
  · rintro ⟨hmem, hstatus⟩
    exact ⟨record.status, hstatus, hmem, rfl⟩

/-- Two records of a store that is keyed by client order id are the same if their ids are. -/
theorem eq_of_intentId_eq (hkeyed : store.Keyed) {record' : OrderRecord}
    (hmem : record ∈ store.values) (hmem' : record' ∈ store.values)
    (hid : record.intent.intentId = record'.intent.intentId) : record = record' := by
  obtain ⟨⟨id, r⟩, he, rfl⟩ := List.mem_map.1 hmem
  obtain ⟨⟨id', r'⟩, he', rfl⟩ := List.mem_map.1 hmem'
  have hget := OrderedMap.get?_eq_some_iff.2 he
  have hget' := OrderedMap.get?_eq_some_iff.2 he'
  obtain rfl : id = id' := (hkeyed id r hget).symm.trans (hid.trans (hkeyed id' r' hget'))
  exact Option.some.inj (hget.symm.trans hget')

theorem get?_addOpenOrder {localOpenOrders : OrderedMap String String} :
    (addOpenOrder venueId localOpenOrders record).get? id = some venueOrderId ↔
      if record.intent.venueId = venueId ∧ record.venueOrderId.isSome ∧
          record.intent.intentId = id then
        record.venueOrderId = some venueOrderId
      else localOpenOrders.get? id = some venueOrderId := by
  unfold addOpenOrder
  cases hvenueOrderId : record.venueOrderId with
  | none => simp
  | some stored =>
    by_cases hvenue : record.intent.venueId = venueId
    · by_cases hid : record.intent.intentId = id
      · simp [hvenue, hid]
      · simp [hvenue, hid, OrderedMap.get?_set_of_ne]
    · simp [hvenue]

theorem get?_foldl_addOpenOrder (hkeyed : store.Keyed) {records : List OrderRecord}
    (hrecords : ∀ record ∈ records, record ∈ store.values) :
    (records.foldl (addOpenOrder venueId) OrderedMap.empty).get? id = some venueOrderId ↔
      ∃ record ∈ records, record.intent.intentId = id ∧ record.intent.venueId = venueId ∧
        record.venueOrderId = some venueOrderId := by
  induction records using List.reverseRecOn with
  | nil => simp
  | append_singleton records record ih =>
    have hrecord : record ∈ store.values := hrecords record (by simp)
    have ih := ih fun r hr => hrecords r (List.mem_append_left _ hr)
    rw [List.foldl_append, List.foldl_cons, List.foldl_nil, get?_addOpenOrder]
    split_ifs with h
    · obtain ⟨hvenue, -, hid⟩ := h
      constructor
      · intro hstored
        exact ⟨record, by simp, hid, hvenue, hstored⟩
      · rintro ⟨record', hmem, hid', -, hstored⟩
        rwa [eq_of_intentId_eq hkeyed hrecord (hrecords record' hmem) (hid.trans hid'.symm)]
    · rw [ih]
      constructor
      · rintro ⟨record', hmem, hrest⟩
        exact ⟨record', List.mem_append_left _ hmem, hrest⟩
      · rintro ⟨record', hmem, hid, hvenue, hstored⟩
        rcases List.mem_append.1 hmem with hmem | hmem
        · exact ⟨record', hmem, hid, hvenue, hstored⟩
        · obtain rfl := List.mem_singleton.1 hmem
          exact absurd ⟨hvenue, by simp [hstored], hid⟩ h

theorem openOrdersOf_iff (hkeyed : store.Keyed) :
    (openOrdersOf venueId store).get? id = some venueOrderId ↔
      ∃ record, OpenLocally venueId store record venueOrderId ∧ record.intent.intentId = id := by
  rw [openOrdersOf,
    get?_foldl_addOpenOrder hkeyed fun record hrecord => (mem_openRecords.1 hrecord).1]
  constructor
  · rintro ⟨record, hmem, hid, hvenue, hstored⟩
    obtain ⟨hvalue, hstatus⟩ := mem_openRecords.1 hmem
    exact ⟨record, ⟨hvalue, hstatus, hvenue, hstored⟩, hid⟩
  · rintro ⟨record, hopen, hid⟩
    exact ⟨record, mem_openRecords.2 ⟨hopen.mem, hopen.status⟩, hid, hopen.venueId,
      hopen.venueOrderId⟩

theorem run_gatherOpenOrders (venueId : String) (w : ReconcilerWorld) (statuses : List OrderStatus)
    (localOpenOrders : OrderedMap String String) :
    (gatherOpenOrders venueId statuses localOpenOrders).run reconcilerHandler w =
      (.ok ((statuses.flatMap fun status => w.store.listByStatus status).foldl
        (addOpenOrder venueId) localOpenOrders), w) := by
  induction statuses generalizing localOpenOrders with
  | nil => rfl
  | cons status statuses ih =>
    rw [gatherOpenOrders, call, Task.run_call_bind]
    simp only [reconcilerHandler]
    rw [ih, List.flatMap_cons, List.foldl_append]

/-- The venue knows the order and has not filled it. -/
def KnownUnfilled (w : ReconcilerWorld) (venueOrderId : String) : Prop :=
  ∃ order, w.getOrder venueOrderId = .ok (some order) ∧ order.status ≠ .filled

theorem orderDiscrepancies_eq_nil_iff {clientOrderId : String} {answer : Option PlaceOrderResult} :
    orderDiscrepancies clientOrderId venueOrderId answer = [] ↔
      ∃ order, answer = some order ∧ order.status ≠ .filled := by
  cases answer with
  | none => simp [orderDiscrepancies]
  | some order =>
    by_cases h : order.status = .filled
    · simp [orderDiscrepancies, h]
    · simp [orderDiscrepancies, h]

theorem run_checkOrders_eq_nil_iff (w : ReconcilerWorld) (orders : List (String × String)) :
    ((checkOrders orders).run reconcilerHandler w).1 = .ok [] ↔
      ∀ e ∈ orders, KnownUnfilled w e.2 := by
  induction orders with
  | nil => simp [checkOrders]
  | cons e orders ih =>
    rw [List.forall_mem_cons, ← ih, checkOrders, call, Task.run_call_bind]
    cases hget : w.getOrder e.2 with
    | error message => simp [reconcilerHandler, hget, KnownUnfilled]
    | ok answer =>
      have hknown : KnownUnfilled w e.2 ↔ orderDiscrepancies e.1 e.2 answer = [] := by
        rw [orderDiscrepancies_eq_nil_iff, KnownUnfilled, hget]
        simp
      rw [hknown]
      simp only [reconcilerHandler, hget, Task.run_bind]
      cases hrest : ((checkOrders orders).run reconcilerHandler w).1 with
      | error message => simp
      | ok discrepancies => simp [List.append_eq_nil_iff]

def reportOrders (venueId : String) (timestamp : Date) (w : ReconcilerWorld) :
    Except String (List Discrepancy) :=
  ((reconcileOrders venueId timestamp).run reconcilerHandler w).1.map fun result =>
    result.discrepancies

theorem reportOrders_eq (venueId : String) (timestamp : Date) (w : ReconcilerWorld) :
    reportOrders venueId timestamp w =
      ((checkOrders (openOrdersOf venueId w.store).entries).run reconcilerHandler w).1 := by
  rw [reportOrders, reconcileOrders, Task.run_bind, run_gatherOpenOrders]
  simp only [Task.run_bind]
  rw [openOrdersOf, openRecords]
  cases ((checkOrders _).run reconcilerHandler w).1 with
  | error message | ok discrepancies => rfl

/-- The reconciliation reports nothing exactly when every open order is known and unfilled. -/
theorem reportOrders_eq_nil_iff {timestamp : Date} {w : ReconcilerWorld} (hkeyed : w.store.Keyed) :
    reportOrders venueId timestamp w = .ok [] ↔
      ∀ record venueOrderId, OpenLocally venueId w.store record venueOrderId →
        KnownUnfilled w venueOrderId := by
  rw [reportOrders_eq, run_checkOrders_eq_nil_iff]
  constructor
  · intro h record venueOrderId hopen
    have hget := (openOrdersOf_iff hkeyed).2 ⟨record, hopen, rfl⟩
    exact h _ (OrderedMap.mem_entries_of_get? hget)
  · rintro h ⟨id, venueOrderId⟩ he
    obtain ⟨record, hopen, -⟩ := (openOrdersOf_iff hkeyed).1 (OrderedMap.get?_eq_some_iff.2 he)
    exact h record venueOrderId hopen

/-- If nothing is reported, every open order is known to the venue and neither filled nor rejected
there. -/
def CleanMeansOpen (venueId : String) (timestamp : Date) (w : ReconcilerWorld) : Prop :=
  reportOrders venueId timestamp w = .ok [] →
    ∀ record venueOrderId, OpenLocally venueId w.store record venueOrderId →
      ∃ order, w.getOrder venueOrderId = .ok (some order) ∧ order.status ≠ .filled ∧
        order.status ≠ .rejected

/-- A clean reconciliation means that the books agree if and only if some open order is unknown to
the venue, filled there or not answered for, or none is rejected there. -/
theorem clean_orders_iff (venueId : String) (timestamp : Date) (w : ReconcilerWorld)
    (hkeyed : w.store.Keyed) :
    CleanMeansOpen venueId timestamp w ↔
      (∃ record venueOrderId, OpenLocally venueId w.store record venueOrderId ∧
        ∀ order, w.getOrder venueOrderId = .ok (some order) → order.status = .filled) ∨
      ∀ record venueOrderId, OpenLocally venueId w.store record venueOrderId →
        ∀ order, w.getOrder venueOrderId = .ok (some order) → order.status ≠ .rejected := by
  rw [CleanMeansOpen, reportOrders_eq_nil_iff hkeyed]
  constructor
  · intro h
    by_cases hclean : ∀ record venueOrderId, OpenLocally venueId w.store record venueOrderId →
        KnownUnfilled w venueOrderId
    · right
      intro record venueOrderId hopen order hanswer
      obtain ⟨order', hanswer', -, hrejected⟩ := h hclean record venueOrderId hopen
      obtain rfl : order = order' := by
        rw [hanswer] at hanswer'
        exact Option.some.inj (Except.ok.inj hanswer')
      exact hrejected
    · left
      push Not at hclean
      obtain ⟨record, venueOrderId, hopen, hunknown⟩ := hclean
      refine ⟨record, venueOrderId, hopen, fun order hanswer => ?_⟩
      by_contra hfilled
      exact hunknown ⟨order, hanswer, hfilled⟩
  · rintro (⟨record, venueOrderId, hopen, hfilled⟩ | hrejected) hclean
    · obtain ⟨order, hanswer, hunfilled⟩ := hclean record venueOrderId hopen
      exact absurd (hfilled order hanswer) hunfilled
    · intro record venueOrderId hopen
      obtain ⟨order, hanswer, hunfilled⟩ := hclean record venueOrderId hopen
      exact ⟨order, hanswer, hunfilled, hrejected record venueOrderId hopen order hanswer⟩

end Reconciler

namespace Reconciler

def polledWorld (store : InMemoryOrderStore) (venue : SimulatedVenue) : ReconcilerWorld where
  store
  getOrder venueOrderId := .ok (venue.getOrder venueOrderId).1
  getPositions := .ok venue.getPositions

def sampleConfig : SimulatedVenueConfig where
  venueId := "recon-sim"
  makerFeePct := 1 / 1000
  takerFeePct := 2 / 1000
  slippagePct := 5 / 10000
  initialBalances := OrderedMap.ofList [("USDC", 200000)]
  deterministicPrices := OrderedMap.ofList [("SOL", 200)]

/-- A buy order below the market. -/
def sampleParams : PlaceOrderParams where
  clientOrderId := "recon-1"
  asset := "SOL"
  side := .buy
  type := .limit
  size := 1
  price := some 50

def sampleVenue : SimulatedVenue :=
  ((SimulatedVenue.create sampleConfig).connect.placeOrder sampleParams 0).2

def sampleRecord : OrderRecord where
  intent :=
    { intentId := "recon-1"
      venueId := "recon-sim"
      asset := "SOL"
      side := .buy
      type := .limit
      size := 1
      limitPrice := some 50
      opportunityId := "opp-recon"
      reduceOnly := false
      createdAt := 0
      metadata := OrderedMap.empty }
  status := .submitted
  venueOrderId := some "recon-sim-sim-1"
  filledSize := 0
  averageFillPrice := none
  feesPaid := none
  fills := []
  submittedAt := some 0
  completedAt := none
  lastError := none
  attemptCount := 1

def sampleStore : InMemoryOrderStore := InMemoryOrderStore.save OrderedMap.empty sampleRecord

theorem openLocally_sample : OpenLocally "recon-sim" sampleStore sampleRecord "recon-sim-sim-1" where
  mem := List.mem_singleton_self sampleRecord
  status := by decide
  venueId := rfl
  venueOrderId := rfl

theorem clean_orders_sample :
    InMemoryOrderStore.Keyed (polledWorld sampleStore sampleVenue).store ∧
      CleanMeansOpen "recon-sim" 0 (polledWorld sampleStore sampleVenue) := by
  have hkeyed : InMemoryOrderStore.Keyed (polledWorld sampleStore sampleVenue).store :=
    InMemoryOrderStore.keyed_empty.set rfl
  refine ⟨hkeyed, (clean_orders_iff "recon-sim" 0 _ hkeyed).2 (Or.inr ?_)⟩
  intro record venueOrderId hopen order hanswer hrejected
  obtain rfl : record = sampleRecord := List.mem_singleton.1 hopen.mem
  obtain rfl : "recon-sim-sim-1" = venueOrderId := Option.some.inj hopen.venueOrderId
  have hstatus : (sampleVenue.getOrder "recon-sim-sim-1").1.map (fun order => order.status) =
      some .submitted := by decide +kernel
  rw [Except.ok.inj hanswer, Option.map_some, hrejected] at hstatus
  cases hstatus

/-- An order that the venue has cancelled stays open locally, and nothing is reported. -/
theorem cancelled_order_not_reported :
    ¬ CleanMeansOpen "recon-sim" 0
      (polledWorld sampleStore (sampleVenue.cancelOrder "recon-sim-sim-1").2) := by
  intro h
  obtain ⟨order, hanswer, -, hrejected⟩ :=
    h (by decide +kernel) sampleRecord "recon-sim-sim-1" openLocally_sample
  have hstatus : ((sampleVenue.cancelOrder "recon-sim-sim-1").2.getOrder "recon-sim-sim-1").1.map
      (fun order => order.status) = some .rejected := by decide +kernel
  rw [Except.ok.inj hanswer, Option.map_some] at hstatus
  exact hrejected (Option.some.inj hstatus)

end Reconciler

end SentinelApex
