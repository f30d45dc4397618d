import SentinelApex.Domain.Order

/-!
# Order store

Order records, the table of status transitions and the in-memory store.
-/

namespace SentinelApex

structure OrderRecord where
  intent : OrderIntent
  status : OrderStatus
  venueOrderId : Option String
  filledSize : Decimal
  averageFillPrice : Option Decimal
  feesPaid : Option Decimal
  fills : List OrderFill
  submittedAt : Option Date
  completedAt : Option Date
  lastError : Option String
  attemptCount : ℕ

/-- `Partial<OrderRecord>` without the status, which an update always overwrites: `none` leaves a
field as it is. -/
structure OrderUpdates where
  intent : Option OrderIntent := none
  venueOrderId : Option (Option String) := none
  filledSize : Option Decimal := none
  averageFillPrice : Option (Option Decimal) := none
  feesPaid : Option (Option Decimal) := none
  fills : Option (List OrderFill) := none
  submittedAt : Option (Option Date) := none
  completedAt : Option (Option Date) := none
  lastError : Option (Option String) := none
  attemptCount : Option ℕ := none

namespace OrderStatus

def terminalOrderStatuses : List OrderStatus := [filled, cancelled, expired]

def isValidStatusTransition (source target : OrderStatus) : Bool :=
  if source = target then true
  else if source ∈ terminalOrderStatuses then false
  else
    match source with
    | pending => target ∈ [submitted, failed, cancelled, expired]
    | submitted => target ∈ [partiallyFilled, filled, cancelled, failed, expired]
    | partiallyFilled => target ∈ [partiallyFilled, filled, cancelled, failed]
    | failed => target ∈ [submitted]
    | filled => false
    | cancelled => false
    | expired => false

theorem isValidStatusTransition_terminal {source target : OrderStatus}
    (hs : source ∈ terminalOrderStatuses) (h : isValidStatusTransition source target = true) :
    target = source := by
  by_contra hne
  simp [isValidStatusTransition, hs, Ne.symm hne] at h

end OrderStatus

/-- `{ ...existing, ...updates, status, fills }`. -/
def OrderRecord.merge (existing : OrderRecord) (status : OrderStatus) (updates : OrderUpdates) :
    OrderRecord where
  intent := updates.intent.getD existing.intent
  status
  venueOrderId := updates.venueOrderId.getD existing.venueOrderId
  filledSize := updates.filledSize.getD existing.filledSize
  averageFillPrice := updates.averageFillPrice.getD existing.averageFillPrice
  feesPaid := updates.feesPaid.getD existing.feesPaid
  fills := updates.fills.getD existing.fills
  submittedAt := updates.submittedAt.getD existing.submittedAt
  completedAt := updates.completedAt.getD existing.completedAt
  lastError := updates.lastError.getD existing.lastError
  attemptCount := updates.attemptCount.getD existing.attemptCount

/-- The records by client order id. -/
abbrev InMemoryOrderStore := OrderedMap String OrderRecord

namespace InMemoryOrderStore

def save (store : InMemoryOrderStore) (record : OrderRecord) : InMemoryOrderStore :=
  store.set record.intent.intentId record

def getByClientId (store : InMemoryOrderStore) (clientOrderId : String) : Option OrderRecord :=
  store.get? clientOrderId

/-- The answer and the store it leaves; an exception is given by its message. -/
def updateStatus (store : InMemoryOrderStore) (clientOrderId : String) (status : OrderStatus)
    (updates : OrderUpdates) : Except String Unit × InMemoryOrderStore :=
  match store.get? clientOrderId with
  | none =>
    (.error ("InMemoryOrderStore.updateStatus: no record found for clientOrderId=\"" ++
      clientOrderId ++ "\""), store)
  | some existing =>
    if existing.status.isValidStatusTransition status then
      (.ok (), store.set clientOrderId (existing.merge status updates))
    else
      (.error ("InMemoryOrderStore.updateStatus: invalid order status transition \"" ++
        existing.status.text ++ "\" -> \"" ++ status.text ++ "\" for clientOrderId=\"" ++
        clientOrderId ++ "\""), store)

def listByStatus (store : InMemoryOrderStore) (status : OrderStatus) : List OrderRecord :=
  store.values.filter fun record => record.status = status

theorem updateStatus_cases (store : InMemoryOrderStore) (clientOrderId : String)
    (status : OrderStatus) (updates : OrderUpdates) :
    (∃ message, store.updateStatus clientOrderId status updates = (.error message, store)) ∨
    ∃ existing, store.get? clientOrderId = some existing ∧
      existing.status.isValidStatusTransition status = true ∧
      store.updateStatus clientOrderId status updates =
        (.ok (), store.set clientOrderId (existing.merge status updates)) := by
  unfold updateStatus
  split
  · exact Or.inl ⟨_, rfl⟩
  · rename_i existing hget
    split_ifs with hvalid
    · exact Or.inr ⟨existing, hget, hvalid, rfl⟩
    · exact Or.inl ⟨_, rfl⟩

/-- Every record is stored under the id of its intent. -/
def Keyed (store : InMemoryOrderStore) : Prop :=
  ∀ id record, store.get? id = some record → record.intent.intentId = id

theorem keyed_empty : Keyed OrderedMap.empty := by
  intro id record h
  simp at h

theorem Keyed.set {store : InMemoryOrderStore} (h : store.Keyed) {id : String}
    {record : OrderRecord} (hid : record.intent.intentId = id) :
    Keyed (OrderedMap.set store id record) := by
  intro id' record' hget
  rw [OrderedMap.get?_set] at hget
  split_ifs at hget with hk
  · cases hget
    rw [hid, hk]
  · exact h id' record' hget

end InMemoryOrderStore

end SentinelApex
