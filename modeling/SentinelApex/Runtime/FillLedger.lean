import SentinelApex.Runtime.InternalDerivativeState
import SentinelApex.Runtime.OrderStoreMirror

/-!
# Persisted fills

`persistFill` inserts a row under a generated primary key, and its conflict clause names that key.
So it is no fill id that keeps a fill from being stored twice: `persistFill_unchanged_iff`.
-/

namespace SentinelApex

open InternalDerivativeState

namespace RuntimeOrderStore

variable (store : RuntimeOrderStore)

/-- `INSERT ... ON CONFLICT (id) DO NOTHING`. -/
def insertFill (row : FillRow) : RuntimeOrderStore :=
  if store.fills.any fun existing => decide (existing.id = row.id) then store
  else { store with fills := store.fills ++ [row] }

def fillMetadata (orderRow : OrderRow) (fill : OrderFill) : Metadata :=
  attachCanonicalMarketIdentityToMetadata
    (OrderedMap.ofList
      [("fillId", .str fill.fillId), ("orderId", .str fill.orderId),
        ("filledSize", .decimal fill.filledSize), ("fillPrice", .decimal fill.fillPrice),
        ("fee", .decimal fill.fee), ("feeAsset", .str fill.feeAsset),
        ("filledAt", .num fill.filledAt)])
    (readCanonicalMarketIdentityFromMetadata orderRow.metadata
      { venueId := some orderRow.venueId
        asset := some orderRow.asset
        marketType := (orderRow.metadata.get? "instrumentType").getD .null
        provenance := some .derived
        capturedAtStage := .fill
        source := "runtime_fill_persistence"
        notes := ["Persisted fills inherit market identity from their source runtime orders."] })

/-- `id` is the primary key that the database generates for the row. -/
def persistFill (orderId : String) (fill : OrderFill) (id : String) (now : Date) :
    RuntimeOrderStore :=
  match store.orderRow orderId with
  | none => store
  | some orderRow =>
    match orderRow.venueOrderId with
    | none => store
    | some venueOrderId =>
      store.insertFill
        { id := id
          orderId := orderRow.id
          clientOrderId := orderRow.clientOrderId
          venueOrderId := venueOrderId
          fillId := some fill.fillId
          size := fill.filledSize
          price := fill.fillPrice
          fee := fill.fee
          side := orderRow.side
          feeAsset := some fill.feeAsset
          filledAt := fill.filledAt
          metadata := fillMetadata orderRow fill
          createdAt := now }

def fillsWithOrders : List (FillRow × OrderRow) :=
  store.fills.flatMap fun fill =>
    (store.orders.filter fun order => decide (fill.clientOrderId = order.clientOrderId)).map
      fun order => (fill, order)

/-- Later fills first; of two fills at the same time, the one that was stored later. -/
def fillBefore (a b : FillRow × OrderRow) : Bool :=
  decide (b.1.filledAt < a.1.filledAt ∨
    (b.1.filledAt = a.1.filledAt ∧ b.1.createdAt ≤ a.1.createdAt))

def historyIdentity (fill : FillRow) (order : OrderRow) : Option CanonicalMarketIdentity :=
  let defaults (note : String) : CanonicalMarketIdentityInput :=
    { venueId := some order.venueId
      asset := some order.asset
      marketType := (order.metadata.get? "instrumentType").getD .null
      provenance := some .derived
      capturedAtStage := .fill
      source := "runtime_fill_history"
      notes := [note] }
  (readCanonicalMarketIdentityFromMetadata fill.metadata (defaults
    ("Fill-history market identity falls back to persisted fill metadata and then source-order " ++
      "metadata."))).or
    (readCanonicalMarketIdentityFromMetadata order.metadata (defaults
      "Fill-history market identity falls back to source-order metadata."))

def historyRecord (row : FillRow × OrderRow) : InternalDerivativeFillRecord where
  venueId := row.2.venueId
  venueOrderId := row.1.venueOrderId
  clientOrderId := row.1.clientOrderId
  asset := row.2.asset
  side := row.1.side
  size := row.1.size
  price := row.1.price
  fee := row.1.fee
  feeAsset := row.1.feeAsset
  reduceOnly := row.2.reduceOnly
  filledAt := row.1.filledAt
  marketIdentity := historyIdentity row.1 row.2
  metadata := row.1.metadata

/-- The latest fills of the venues, the oldest of them first; an empty list of venues and a limit of
zero select everything. -/
def listFillHistoryForVenues (venueIds : List String) (limit : ℕ) :
    List InternalDerivativeFillRecord :=
  let rows := (store.fillsWithOrders.filter fun row =>
    decide (venueIds = [] ∨ row.2.venueId ∈ venueIds)).insertionSort
      fun a b => fillBefore a b = true
  ((if 0 < limit then rows.take limit else rows).reverse).map historyRecord

def listFillHistory : List InternalDerivativeFillRecord := store.listFillHistoryForVenues [] 0

def toOrderView (row : OrderRow) : OrderView where
  clientOrderId := row.clientOrderId
  asset := row.asset
  metadata := row.metadata
  marketIdentity := readCanonicalMarketIdentityFromMetadata row.metadata
    { venueId := some row.venueId
      asset := some row.asset
      marketType := (row.metadata.get? "instrumentType").getD .null
      provenance := some .derived
      capturedAtStage := .runtimeOrder
      source := "runtime_orders_table"
      notes :=
        ["Runtime order market identity falls back to persisted order metadata when no " ++
          "venue-native market metadata was captured earlier."] }

def listOrdersByVenue (venueId : String) : List OrderView :=
  ((store.orders.filter fun row => decide (row.venueId = venueId)).insertionSort
    fun a b => b.createdAt ≤ a.createdAt).map toOrderView

/-- The positions of a venue as `refreshInternalDerivativeState` rebuilds them. -/
def internalPositions (localeLe : String → String → Bool) (venueId : String) :
    List InternalDerivativePositionEntry :=
  buildPositionState localeLe (store.listOrdersByVenue venueId)
    (store.listFillHistory.filter fun fill => decide (fill.venueId = venueId))

theorem persistFill_orders (orderId : String) (fill : OrderFill) (id : String) (now : Date) :
    (store.persistFill orderId fill id now).orders = store.orders := by
  unfold persistFill insertFill
  split
  · rfl
  · split
    · rfl
    · split_ifs <;> rfl

theorem listFillHistory_length :
    store.listFillHistory.length = store.fillsWithOrders.length := by
  simp [listFillHistory, listFillHistoryForVenues, List.length_insertionSort]

/-- The order is known and the venue has accepted it. -/
def Placed (orderId : String) : Prop :=
  ∃ row venueOrderId, store.orderRow orderId = some row ∧ row.venueOrderId = some venueOrderId

theorem persistFill_of_not_placed {orderId : String} (h : ¬ store.Placed orderId)
    (fill : OrderFill) (id : String) (now : Date) :
    store.persistFill orderId fill id now = store := by
  unfold persistFill
  split
  · rfl
  · rename_i row hrow
    split
    · rfl
    · rename_i venueOrderId hvenue
      exact absurd ⟨row, venueOrderId, hrow, hvenue⟩ h

/-- A fill of a placed order is stored, whatever its fill id is, and joins with the order. -/
theorem fillsWithOrders_persistFill_of_placed {orderId : String} (h : store.Placed orderId)
    (fill : OrderFill) {id : String} (hid : ∀ row ∈ store.fills, row.id ≠ id) (now : Date) :
    store.fillsWithOrders.length <
      (store.persistFill orderId fill id now).fillsWithOrders.length := by
  obtain ⟨order, venueOrderId, horder, hvenue⟩ := h
  have hfresh : (store.fills.any fun existing => decide (existing.id = id)) = false := by
    simpa using hid
  have hmem : order ∈ store.orders := List.mem_of_find?_eq_some horder
  have hjoin : 0 < (store.orders.filter fun row =>
      decide (order.clientOrderId = row.clientOrderId)).length :=
    List.length_pos_of_mem (List.mem_filter.2 ⟨hmem, by simp⟩)
  simp only [persistFill, horder, hvenue, insertFill, hfresh, Bool.false_eq_true, if_false,
    fillsWithOrders, List.flatMap_append, List.length_append, List.flatMap_cons, List.flatMap_nil,
    List.append_nil, List.length_map]
  omega

/-- The history of fills and every net quantity rebuilt from it are as they were. -/
def UnchangedBy (store' : RuntimeOrderStore) : Prop :=
  store'.listFillHistory = store.listFillHistory ∧
    ∀ localeLe venueId, (store'.internalPositions localeLe venueId).map (fun p => p.netQuantity) =
      (store.internalPositions localeLe venueId).map fun p => p.netQuantity

/-- Persisting a fill leaves the history unchanged exactly when the order is unknown or was not
placed at a venue; whether the fill is there already makes no difference. The generated key is
one that no row has. -/
theorem persistFill_unchanged_iff (orderId : String) (fill : OrderFill) (id : String) (now : Date)
    (hid : ∀ row ∈ store.fills, row.id ≠ id) :
    store.UnchangedBy (store.persistFill orderId fill id now) ↔ ¬ store.Placed orderId := by
  constructor
  · rintro ⟨hhistory, -⟩ hplaced
    have hlength := store.fillsWithOrders_persistFill_of_placed hplaced fill hid now
    rw [← listFillHistory_length, ← listFillHistory_length, hhistory] at hlength
    exact lt_irrefl _ hlength
  · intro h
    rw [store.persistFill_of_not_placed h]
    exact ⟨rfl, fun _ _ => rfl⟩

def samplePlacedOrder : OrderRow :=
  { toRow (OrderRecord.create
      { sampleIntent with metadata := OrderedMap.ofList [("instrumentType", .str "perpetual")] })
      "carry" "1" 0 0 with
    venueOrderId := some "venue-order-1" }

def sampleLedger : RuntimeOrderStore :=
  persistFill { orders := [samplePlacedOrder], fills := [], strategyRuns := [], nextId := 2 }
    "order-1" OrderExecutor.sampleFill "fill-row-1" 0

/-- The fill is in the ledger, and persisting it again doubles the net quantity. -/
theorem persistFill_counts_twice :
    (sampleLedger.fills.map fun row => row.fillId) = [some OrderExecutor.sampleFill.fillId] ∧
    ((sampleLedger.internalPositions (fun _ _ => true) "venue-a").map fun p => p.netQuantity) =
      [2] ∧
    (((sampleLedger.persistFill "order-1" OrderExecutor.sampleFill "fill-row-2" 1).internalPositions
      (fun _ _ => true) "venue-a").map fun p => p.netQuantity) = [4] ∧
    ¬ sampleLedger.UnchangedBy
      (sampleLedger.persistFill "order-1" OrderExecutor.sampleFill "fill-row-2" 1) := by
  have hbefore : ((sampleLedger.internalPositions (fun _ _ => true) "venue-a").map
      fun p => p.netQuantity) = [2] := by decide +kernel
  have hafter : (((sampleLedger.persistFill "order-1" OrderExecutor.sampleFill "fill-row-2"
      1).internalPositions (fun _ _ => true) "venue-a").map fun p => p.netQuantity) = [4] := by
    decide +kernel
  refine ⟨by decide +kernel, hbefore, hafter, ?_⟩
  rintro ⟨-, hnet⟩
  have heq := hnet (fun _ _ => true) "venue-a"
  rw [hbefore, hafter] at heq
  norm_num at heq

/-- A fill for an order that the store does not know. -/
theorem persistFill_unchanged_iff_unknown_order :
    sampleLedger.UnchangedBy
        (sampleLedger.persistFill "order-2" OrderExecutor.sampleFill "fill-row-2" 1) ↔
      ¬ sampleLedger.Placed "order-2" :=
  sampleLedger.persistFill_unchanged_iff "order-2" OrderExecutor.sampleFill "fill-row-2" 1
    (by decide +kernel)

end RuntimeOrderStore

end SentinelApex
