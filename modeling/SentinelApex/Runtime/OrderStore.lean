import Mathlib.Data.List.Sort
import SentinelApex.Execution.OrderManager
import SentinelApex.VenueAdapters.MarketIdentity

/-!
# The order store of the runtime

`RuntimeOrderStore` keeps order records in the tables `orders` and `fills`. A record is written to
one row of `orders`: the columns hold all of it but its fills and its fees, which are read back from
the table `fills`. That table is written by `persistFill` alone.

Decimal columns are texts, so that what is stored is what is read; generated ids are texts of a
counter, and a generated id is never one that is in use.
-/

namespace SentinelApex

/-- A row of `orders`. -/
structure OrderRow where
  id : String
  clientOrderId : String
  strategyRunId : Option String
  sleeveId : String
  opportunityId : String
  venueId : String
  venueOrderId : Option String
  asset : String
  side : OrderSide
  orderType : OrderType
  executionMode : String
  reduceOnly : Bool
  requestedSize : Decimal
  requestedPrice : Option Decimal
  filledSize : Decimal
  averageFillPrice : Option Decimal
  status : OrderStatus
  attemptCount : ℕ
  lastError : Option String
  metadata : Metadata
  submittedAt : Option Date
  completedAt : Option Date
  createdAt : Date
  updatedAt : Date

/-- A row of `fills`. -/
structure FillRow where
  id : String
  orderId : String
  clientOrderId : String
  venueOrderId : String
  fillId : Option String
  size : Decimal
  price : Decimal
  fee : Decimal
  side : OrderSide
  feeAsset : Option String
  filledAt : Date
  metadata : Metadata
  createdAt : Date

/-- The tables that order records live in; `strategyRuns` are the ids that `strategyRunId` may refer
to. -/
structure RuntimeOrderStore where
  orders : List OrderRow
  fills : List FillRow
  strategyRuns : List String
  nextId : ℕ

/-- A value whose `typeof` is `string`. -/
def Json.string? : Json → Option String
  | str s => some s
  | decimal x => some (Decimal.toFixedAll x)
  | _ => none

def Metadata.string? (metadata : Metadata) (key : String) : Option String :=
  (metadata.get? key).bind Json.string?

namespace RuntimeOrderStore

def persistedMarketIdentity (intent : OrderIntent) : CanonicalMarketIdentity :=
  let input (note : String) : CanonicalMarketIdentityInput :=
    { venueId := some intent.venueId
      asset := some intent.asset
      marketType := (intent.metadata.get? "instrumentType").getD .null
      provenance := some .derived
      capturedAtStage := .runtimeOrder
      source := "runtime_order_store_save"
      notes := [note] }
  (readCanonicalMarketIdentityFromMetadata intent.metadata (input
    ("Runtime orders persist the best available market identity from intent creation or " ++
      "execution-time promotion."))).getD
    (createCanonicalMarketIdentity (input
      ("Runtime orders derived market identity from asset and instrument type because no richer " ++
        "metadata was present.")))

def persistedMetadata (intent : OrderIntent) : Metadata :=
  attachCanonicalMarketIdentityToMetadata intent.metadata (some (persistedMarketIdentity intent))

/-- A nonempty `metadata.sleeveId`. -/
def extractSleeveId (intent : OrderIntent) : Option String :=
  (intent.metadata.string? "sleeveId").filter fun s => decide (s ≠ "")

/-- The columns that `save` writes; the id and the time of creation are the row's own. -/
def toRow (record : OrderRecord) (sleeveId id : String) (createdAt now : Date) : OrderRow where
  id := id
  clientOrderId := record.intent.intentId
  strategyRunId := (persistedMetadata record.intent).string? "runId"
  sleeveId := sleeveId
  opportunityId := record.intent.opportunityId
  venueId := record.intent.venueId
  venueOrderId := record.venueOrderId
  asset := record.intent.asset
  side := record.intent.side
  orderType := record.intent.type
  executionMode := ((persistedMetadata record.intent).string? "executionMode").getD "dry-run"
  reduceOnly := record.intent.reduceOnly
  requestedSize := record.intent.size
  requestedPrice := record.intent.limitPrice
  filledSize := record.filledSize
  averageFillPrice := record.averageFillPrice
  status := record.status
  attemptCount := record.attemptCount
  lastError := record.lastError
  metadata := persistedMetadata record.intent
  submittedAt := record.submittedAt
  completedAt := record.completedAt
  createdAt := createdAt
  updatedAt := now

variable (store : RuntimeOrderStore)

/-- The run that the row refers to exists. -/
def knowsRun (intent : OrderIntent) : Bool :=
  ((persistedMetadata intent).string? "runId").all fun runId => store.strategyRuns.contains runId

/-- `INSERT ... ON CONFLICT (client_order_id) DO UPDATE`. -/
def upsertOrder (record : OrderRecord) (sleeveId : String) (now : Date) : RuntimeOrderStore :=
  if store.orders.any fun row => decide (row.clientOrderId = record.intent.intentId) then
    { store with
      orders := store.orders.map fun row =>
        if row.clientOrderId = record.intent.intentId then
          toRow record sleeveId row.id row.createdAt now
        else row }
  else
    { store with
      orders := store.orders ++ [toRow record sleeveId (toString store.nextId) now now]
      nextId := store.nextId + 1 }

def save (record : OrderRecord) (now : Date) : Except String Unit × RuntimeOrderStore :=
  match extractSleeveId record.intent with
  | none =>
    (.error s!"Order intent \"{record.intent.intentId}\" is missing metadata.sleeveId", store)
  | some sleeveId =>
    if store.knowsRun record.intent then (.ok (), store.upsertOrder record sleeveId now)
    else (.error "insert violates foreign key constraint on strategy_run_id", store)

def orderRow (clientOrderId : String) : Option OrderRow :=
  store.orders.find? fun row => decide (row.clientOrderId = clientOrderId)

def fillRows (clientOrderId : String) : List FillRow :=
  (store.fills.filter fun row => decide (row.clientOrderId = clientOrderId)).insertionSort
    fun a b => b.filledAt ≤ a.filledAt

def toFill (row : OrderRow) (fillRow : FillRow) : OrderFill where
  fillId := fillRow.fillId.getD fillRow.id
  orderId := row.clientOrderId
  filledSize := fillRow.size
  fillPrice := fillRow.price
  fee := fillRow.fee
  feeAsset := fillRow.feeAsset.getD row.asset
  filledAt := fillRow.filledAt

def toRecord (row : OrderRow) (fillRows : List FillRow) : OrderRecord where
  intent :=
    { intentId := row.clientOrderId
      venueId := row.venueId
      asset := row.asset
      side := row.side
      type := row.orderType
      size := row.requestedSize
      limitPrice := row.requestedPrice
      opportunityId := row.opportunityId
      reduceOnly := row.reduceOnly
      createdAt := row.createdAt
      metadata := row.metadata }
  status := row.status
  venueOrderId := row.venueOrderId
  filledSize := row.filledSize
  averageFillPrice := row.averageFillPrice
  feesPaid := fillRows.head?.map fun fillRow => fillRow.fee
  fills := fillRows.map (toFill row)
  submittedAt := row.submittedAt
  completedAt := row.completedAt
  lastError := row.lastError
  attemptCount := row.attemptCount

def getByClientId (clientOrderId : String) : Option OrderRecord :=
  (store.orderRow clientOrderId).map fun row => toRecord row (store.fillRows clientOrderId)

/-- The merged record is saved whatever the two statuses are. -/
def updateStatus (clientOrderId : String) (status : OrderStatus) (updates : OrderUpdates)
    (now : Date) : Except String Unit × RuntimeOrderStore :=
  match store.getByClientId clientOrderId with
  | none =>
    (.error ("RuntimeOrderStore.updateStatus: unknown order \"" ++ clientOrderId ++ "\""), store)
  | some existing => store.save (existing.merge status updates) now

end RuntimeOrderStore

end SentinelApex
