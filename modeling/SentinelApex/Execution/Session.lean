import SentinelApex.Execution.Executor

/-!
# Sessions of the executor

The world in which the tasks of the executor run: the in-memory order store, a venue and an audit
writer that answer or throw as they like (`Environment`), and possibly a store connection that
loses the request or the answer of an update (`StoreFault`). A session is a list of operations run
one after the other.
-/

namespace SentinelApex

open Async

/-- The answers of the venue and of the audit writer to the `n`-th call of a run. -/
structure Environment where
  placeOrder : ℕ → Except String PlaceOrderResult
  getOrder : ℕ → Except String (Option PlaceOrderResult)
  cancelOrder : ℕ → Except String CancelOrderResult
  auditWrite : ℕ → Except String Unit

/-- A failure of `updateStatus` that is not the store's own: the request is lost, or the update
is made and its answer is lost. -/
inductive StoreFault where
  | requestLost (message : String)
  | answerLost (message : String)

structure World where
  store : InMemoryOrderStore
  calls : ℕ

def World.next (w : World) (store : InMemoryOrderStore) : World := ⟨store, w.calls + 1⟩

@[simp] theorem World.next_store (w : World) (store : InMemoryOrderStore) :
    (w.next store).store = store := rfl

variable (env : Environment) (faults : ℕ → Option StoreFault)

def faultyUpdate (fault : Option StoreFault) (answer : Except String Unit × InMemoryOrderStore)
    (store : InMemoryOrderStore) : Except String Unit × InMemoryOrderStore :=
  match fault with
  | none => answer
  | some (.requestLost message) => (.error message, store)
  | some (.answerLost message) => (.error message, answer.2)

def handle : Handler Call Call.Reply String World := fun c w =>
  match c with
  | .getByClientId id => (.ok (w.store.getByClientId id), w.next w.store)
  | .save record => (.ok (), w.next (w.store.save record))
  | .updateStatus id status updates =>
    let answer := faultyUpdate (faults w.calls) (w.store.updateStatus id status updates) w.store
    (answer.1, w.next answer.2)
  | .placeOrder _ => (env.placeOrder w.calls, w.next w.store)
  | .getOrder _ => (env.getOrder w.calls, w.next w.store)
  | .cancelOrder _ => (env.cancelOrder w.calls, w.next w.store)
  | .auditWrite _ => (env.auditWrite w.calls, w.next w.store)
  | .sleep _ => (.ok (), w.next w.store)

def reliable : ℕ → Option StoreFault := fun _ => none

theorem handle_store_of_not_isWrite {c : Call} (h : c.isWrite = false) (w : World) :
    (handle env faults c w).2.store = w.store := by
  cases c with
  | save record | updateStatus id status updates => cases h
  | _ => rfl

theorem handle_updateStatus_cases (id : String) (status : OrderStatus) (updates : OrderUpdates)
    (w : World) :
    ((∃ message, (handle env faults (.updateStatus id status updates) w).1 = .error message) ∧
      (handle env faults (.updateStatus id status updates) w).2.store = w.store) ∨
    ∃ existing, w.store.get? id = some existing ∧
      existing.status.isValidStatusTransition status = true ∧
      (handle env faults (.updateStatus id status updates) w).2.store =
        w.store.set id (existing.merge status updates) := by
  simp only [handle, World.next_store]
  rcases w.store.updateStatus_cases id status updates with
    ⟨message, h⟩ | ⟨existing, hget, hvalid, h⟩
  · left
    rw [h]
    rcases faults w.calls with _ | _ | _ <;> exact ⟨⟨_, rfl⟩, rfl⟩
  · rw [h]
    rcases faults w.calls with _ | _ | _
    · exact Or.inr ⟨existing, hget, hvalid, rfl⟩
    · exact Or.inl ⟨⟨_, rfl⟩, rfl⟩
    · exact Or.inr ⟨existing, hget, hvalid, rfl⟩

theorem handle_updateStatus_ok {id : String} {status : OrderStatus} {updates : OrderUpdates}
    {w : World} {u : Unit}
    (h : (handle env faults (.updateStatus id status updates) w).1 = .ok u) :
    ∃ existing, w.store.get? id = some existing ∧
      existing.status.isValidStatusTransition status = true ∧
      (handle env faults (.updateStatus id status updates) w).2.store =
        w.store.set id (existing.merge status updates) := by
  rcases handle_updateStatus_cases env faults id status updates w with ⟨⟨m, hm⟩, -⟩ | hset
  · rw [h] at hm
    cases hm
  · exact hset

/-- An operation with its arguments and its readings of the clock. -/
inductive Operation where
  | submitIntent (intent : OrderIntent) (clock : SubmitClock)
  | pollOrderStatus (clientOrderId : String) (now : Date)
  | cancelOrder (clientOrderId : String) (now : Date)
  | processFill (clientOrderId : String) (fill : OrderFill) (now : Date)

def OrderExecutor.task (executor : OrderExecutor) : Operation → ExecTask OrderRecord
  | .submitIntent intent clock => executor.submitIntent intent clock
  | .pollOrderStatus clientOrderId now => pollOrderStatus clientOrderId now
  | .cancelOrder clientOrderId now => cancelOrder clientOrderId now
  | .processFill clientOrderId fill now => processFill clientOrderId fill now

abbrev ExecEvent := Event Call Call.Reply String World

def OrderExecutor.session (executor : OrderExecutor) (operations : List Operation) (w : World) :
    List ExecEvent :=
  traceAll (handle env faults) (operations.map executor.task) w

/-- A market order for two units. -/
def sampleIntent : OrderIntent where
  intentId := "order-1"
  venueId := "venue-a"
  asset := "BTC"
  side := .buy
  type := .market
  size := 2
  limitPrice := none
  opportunityId := "BTC-basis-0"
  reduceOnly := false
  createdAt := 0
  metadata := OrderedMap.empty

def samplePlacement (status : VenueOrderStatus) (filledSize : Decimal) : PlaceOrderResult where
  venueOrderId := "venue-order-1"
  clientOrderId := "order-1"
  status
  filledSize
  averageFillPrice := some 100
  fees := some 0
  submittedAt := 0

/-- A venue that answers every placement and every poll in the same way and accepts every
cancellation, with an audit writer that works. -/
def sampleEnvironment (status : VenueOrderStatus) (filledSize : Decimal) : Environment where
  placeOrder _ := .ok (samplePlacement status filledSize)
  getOrder _ := .ok (some (samplePlacement status filledSize))
  cancelOrder _ := .ok { venueOrderId := "venue-order-1", cancelled := true }
  auditWrite _ := .ok ()

def stoppedClock : SubmitClock where
  start := 0
  submittedAt _ := 0
  placedAt _ := 0
  completedAt _ := 0
  failedAt _ := 0

def sampleExecutor : OrderExecutor where
  venueId := "venue-a"
  config := { maxRetries := 1, retryDelayMs := 1000 }

def emptyWorld : World := ⟨OrderedMap.empty, 0⟩

/-- The statuses that the record of an order goes through, one for each event. -/
def statusHistory (id : String) (events : List ExecEvent) : List (Option OrderStatus) :=
  events.map fun e => (e.after.store.get? id).map fun record => record.status

end SentinelApex
