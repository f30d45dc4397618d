import SentinelApex.Execution.OrderManager
import SentinelApex.VenueAdapters.Interfaces
import SentinelApex.Lib.Task

/-!
# Order executor

The order lifecycle operations as asynchronous tasks over the calls that the executor awaits: the
order store, the venue adapter, the audit writer and the retry delay. Exceptions are given by
their messages.

The readings of the clock (`new Date()`, `Date.now()`) are arguments of the operations, so that
nothing is assumed about the time.
-/

namespace SentinelApex

open Async

structure ExecutorConfig where
  maxRetries : ℕ
  retryDelayMs : ℕ

/-- An audit event; its random id and its timestamp are left out. -/
structure AuditEvent where
  eventType : String
  actorType : String
  actorId : String
  data : List (String × Json)

structure SleeveAuditEvent extends AuditEvent where
  sleeveId : String

/-- What the executor awaits. -/
inductive Call where
  | getByClientId (clientOrderId : String)
  | save (record : OrderRecord)
  | updateStatus (clientOrderId : String) (status : OrderStatus) (updates : OrderUpdates)
  | placeOrder (params : PlaceOrderParams)
  | getOrder (venueOrderId : String)
  | cancelOrder (venueOrderId : String)
  | auditWrite (event : AuditEvent)
  | sleep (ms : ℕ)

abbrev Call.Reply : Call → Type
  | .getByClientId _ => Option OrderRecord
  | .save _ => Unit
  | .updateStatus _ _ _ => Unit
  | .placeOrder _ => PlaceOrderResult
  | .getOrder _ => Option PlaceOrderResult
  | .cancelOrder _ => CancelOrderResult
  | .auditWrite _ => Unit
  | .sleep _ => Unit

def Call.isWrite : Call → Bool
  | .save _ => true
  | .updateStatus _ _ _ => true
  | _ => false

abbrev ExecTask (α : Type) := Task Call Call.Reply String α

abbrev call (c : Call) : ExecTask c.Reply := Task.call c

/-- The readings of the clock in one `submitIntent`: `start` before the loop and four in each
attempt (before the placement, after it, at completion and in the catch block). -/
structure SubmitClock where
  start : Date
  submittedAt : ℕ → Date
  placedAt : ℕ → Date
  completedAt : ℕ → Date
  failedAt : ℕ → Date

structure OrderExecutor where
  venueId : String
  config : ExecutorConfig

def OrderRecord.create (intent : OrderIntent) : OrderRecord where
  intent
  status := .pending
  venueOrderId := none
  filledSize := 0
  averageFillPrice := none
  feesPaid := none
  fills := []
  submittedAt := none
  completedAt := none
  lastError := none
  attemptCount := 0

namespace OrderExecutor

def auditEvent (eventType : String) (data : List (String × Json)) : AuditEvent where
  eventType
  actorType := "system"
  actorId := "order-executor"
  data

def runtimeOrderIdentity (intent : OrderIntent) : CanonicalMarketIdentity :=
  let input (note : String) : CanonicalMarketIdentityInput :=
    { venueId := some intent.venueId
      asset := some intent.asset
      marketType := (intent.metadata.get? "instrumentType").getD .null
      provenance := some .derived
      capturedAtStage := .runtimeOrder
      source := "order_executor_submit"
      notes := [note] }
  (readCanonicalMarketIdentityFromMetadata intent.metadata (input
    ("Runtime order market identity falls back to persisted intent metadata when no " ++
      "venue-native execution metadata is available."))).getD
    (createCanonicalMarketIdentity (input
      ("Runtime order market identity is derived from asset and instrument type because the " ++
        "intent did not carry richer market metadata.")))

def placeOrderParams (intent : OrderIntent) (identity : CanonicalMarketIdentity) :
    PlaceOrderParams where
  clientOrderId := intent.intentId
  asset := intent.asset
  side := intent.side
  type := intent.type
  size := intent.size
  price := intent.limitPrice
  reduceOnly := intent.reduceOnly
  postOnly := intent.type = .postOnly
  marketIdentity := some identity

def placedStatus : VenueOrderStatus → OrderStatus
  | .filled => .filled
  | .partiallyFilled => .partiallyFilled
  | .rejected => .failed
  | .submitted => .submitted

variable (executor : OrderExecutor)

/-- The intent's metadata with the identity and the execution data that the venue answered. -/
def persistedMetadata (metadata : Metadata) (identity : CanonicalMarketIdentity)
    (result : PlaceOrderResult) : Metadata :=
  let resultIdentity := result.marketIdentity.map fun i =>
    captureCanonicalMarketIdentity i .executionResult s!"venue_adapter:{executor.venueId}"
  let identityMetadata := attachCanonicalMarketIdentityToMetadata metadata
    (preferCanonicalMarketIdentity (some identity) resultIdentity)
  let withReference := Metadata.setSome identityMetadata venueExecutionReferenceMetadataKey
    (result.executionReference.map Json.ofOption)
  Metadata.setSome withReference venueExecutionModeMetadataKey
    (result.executionMode.map fun mode => .str mode.text)

/-- What a placement answer writes to the record. -/
def placedUpdates (record : OrderRecord) (identity : CanonicalMarketIdentity)
    (result : PlaceOrderResult) (completedAt : Date) : OrderUpdates where
  intent := some { record.intent with
    metadata := executor.persistedMetadata record.intent.metadata identity result }
  venueOrderId := some (some result.venueOrderId)
  filledSize := some result.filledSize
  averageFillPrice := some result.averageFillPrice
  feesPaid := some result.fees
  submittedAt := some (some result.submittedAt)
  lastError := some none
  completedAt :=
    if placedStatus result.status = .filled ∨ placedStatus result.status = .failed then
      some (some completedAt)
    else none

def submittedEvent (intent : OrderIntent) (result : PlaceOrderResult) (latencyMs : ℤ) :
    AuditEvent :=
  auditEvent "order.submitted"
    [("intentId", .str intent.intentId), ("venueOrderId", .str result.venueOrderId),
      ("executionReference", Json.ofOption (result.executionReference.getD none)),
      ("executionMode", Json.ofOption (result.executionMode.map fun mode => mode.text)),
      ("status", .str result.status.text), ("latencyMs", .num latencyMs)]

/-- The part of the `try` block that follows the answer of the venue. -/
def recordPlacement (intent : OrderIntent) (record : OrderRecord) (clock : SubmitClock)
    (attempt : ℕ) (result : PlaceOrderResult) : ExecTask OrderRecord := do
  call (.updateStatus intent.intentId (placedStatus result.status)
    (executor.placedUpdates record (runtimeOrderIdentity record.intent) result
      (clock.completedAt attempt)))
  call (.auditWrite (submittedEvent intent result (clock.placedAt attempt - clock.start)))
  let finalRecord ← call (.getByClientId intent.intentId)
  return finalRecord.getD record

/-- The body of the `try` block. -/
def attemptSubmit (intent : OrderIntent) (record : OrderRecord) (clock : SubmitClock)
    (attempt : ℕ) : ExecTask OrderRecord := do
  call (.updateStatus intent.intentId .submitted
    { submittedAt := some (some (clock.submittedAt attempt)), attemptCount := some attempt })
  let result ← call
    (.placeOrder (placeOrderParams intent (runtimeOrderIdentity record.intent)))
  executor.recordPlacement intent record clock attempt result

/-- The retry loop: `retries` is the number of attempts left after this one. -/
def submitLoop (intent : OrderIntent) (record : OrderRecord) (clock : SubmitClock)
    (attempt retries : ℕ) : ExecTask OrderRecord :=
  (executor.attemptSubmit intent record clock attempt).tryCatch fun lastError => do
    call (.updateStatus intent.intentId .failed
      { lastError := some (some lastError)
        completedAt := some (some (clock.failedAt attempt)) })
    match retries with
    | 0 =>
      let finalRecord ← call (.getByClientId intent.intentId)
      return finalRecord.getD record
    | retries + 1 =>
      call (.sleep executor.config.retryDelayMs)
      submitLoop intent record clock (attempt + 1) retries

def submitIntent (intent : OrderIntent) (clock : SubmitClock) : ExecTask OrderRecord := do
  let existing ← call (.getByClientId intent.intentId)
  match existing with
  | some record =>
    if record.status ≠ .pending ∧ record.status ≠ .failed then return record
    else
      call (.save record)
      executor.submitLoop intent record clock 1 executor.config.maxRetries
  | none =>
    let record := OrderRecord.create intent
    call (.save record)
    executor.submitLoop intent record clock 1 executor.config.maxRetries

def polledStatus (current : OrderStatus) : VenueOrderStatus → OrderStatus
  | .filled => .filled
  | .partiallyFilled => .partiallyFilled
  | .rejected => .failed
  | .submitted => current

def pollOrderStatus (clientOrderId : String) (now : Date) : ExecTask OrderRecord := do
  let record ← call (.getByClientId clientOrderId)
  match record with
  | none =>
    .fail ("pollOrderStatus: no order record found for clientOrderId=\"" ++ clientOrderId ++ "\"")
  | some record =>
    match record.venueOrderId with
    | none => return record
    | some venueOrderId =>
      let venueResult ← call (.getOrder venueOrderId)
      match venueResult with
      | none => return record
      | some venueResult =>
        let newStatus := polledStatus record.status venueResult.status
        call (.updateStatus clientOrderId newStatus
          { completedAt :=
              if newStatus = .filled ∨ newStatus = .failed then some (some now) else none })
        let updated ← call (.getByClientId clientOrderId)
        return updated.getD record

def cancelOrder (clientOrderId : String) (now : Date) : ExecTask OrderRecord := do
  let record ← call (.getByClientId clientOrderId)
  match record with
  | none =>
    .fail ("cancelOrder: no order record found for clientOrderId=\"" ++ clientOrderId ++ "\"")
  | some record =>
    match record.venueOrderId with
    | none =>
      call (.updateStatus clientOrderId .cancelled { completedAt := some (some now) })
      let updated ← call (.getByClientId clientOrderId)
      return updated.getD record
    | some venueOrderId =>
      let cancelResult ← call (.cancelOrder venueOrderId)
      if cancelResult.cancelled then
        call (.updateStatus clientOrderId .cancelled { completedAt := some (some now) })
        call (.auditWrite (auditEvent "order.cancelled"
          [("clientOrderId", .str clientOrderId), ("venueOrderId", .str venueOrderId)]))
      let updated ← call (.getByClientId clientOrderId)
      return updated.getD record

/-- The sum of the fill sizes as the loop adds them. -/
def totalFilled (fills : List OrderFill) : Number :=
  fills.foldl (fun acc f => acc.add (Number.ofDecimal f.filledSize)) 0

def isFullyFilled (fills : List OrderFill) (size : Decimal) : Bool :=
  (Number.ofDecimal size).sub (Number.ofDecimal (1 / 10 ^ 12)) ≤ totalFilled fills

def filledStatus (fills : List OrderFill) (size : Decimal) : OrderStatus :=
  if isFullyFilled fills size then .filled else .partiallyFilled

def fillEvent (clientOrderId : String) (fill : OrderFill) (fills : List OrderFill)
    (status : OrderStatus) : AuditEvent :=
  auditEvent "order.fill_received"
    [("clientOrderId", .str clientOrderId), ("fillId", .str fill.fillId),
      ("filledSize", .decimal fill.filledSize), ("fillPrice", .decimal fill.fillPrice),
      ("totalFilled", .num (totalFilled fills)), ("status", .str status.text)]

/-- The part of `processFill` that follows the checks on the record that was read. -/
def appendFill (clientOrderId : String) (record : OrderRecord) (fill : OrderFill) (now : Date) :
    ExecTask OrderRecord := do
  let updatedFills := record.fills ++ [fill]
  let newStatus := filledStatus updatedFills record.intent.size
  call (.updateStatus clientOrderId newStatus
    { fills := some updatedFills
      completedAt :=
        if isFullyFilled updatedFills record.intent.size then some (some now) else none })
  call (.auditWrite (fillEvent clientOrderId fill updatedFills newStatus))
  let updated ← call (.getByClientId clientOrderId)
  return updated.getD record

def processFill (clientOrderId : String) (fill : OrderFill) (now : Date) :
    ExecTask OrderRecord := do
  let record ← call (.getByClientId clientOrderId)
  match record with
  | none =>
    .fail ("processFill: no order record found for clientOrderId=\"" ++ clientOrderId ++ "\"")
  | some record =>
    -- An expired order is not among the statuses whose fills are ignored.
    if record.status ∈ [OrderStatus.filled, .cancelled, .failed] then return record
    else if record.fills.any fun existing => existing.fillId = fill.fillId then return record
    else appendFill clientOrderId record fill now

section

variable {p : Call → Prop} (hquiet : ∀ c : Call, c.isWrite = false → p c)

include hquiet

theorem submitLoop_uses {intent : OrderIntent} {record : OrderRecord} {clock : SubmitClock}
    (hattempt : ∀ attempt, (executor.attemptSubmit intent record clock attempt).Uses p)
    (hfailed : ∀ lastError failedAt, p (.updateStatus intent.intentId .failed
      { lastError := some (some lastError), completedAt := some (some failedAt) }))
    (attempt retries : ℕ) :
    (executor.submitLoop intent record clock attempt retries).Uses p := by
  induction retries generalizing attempt with
  | zero =>
    unfold submitLoop
    refine (hattempt attempt).tryCatch fun lastError => ?_
    refine Task.Uses.call_bind (hfailed _ _) fun _ => ?_
    exact Task.Uses.call_bind (hquiet _ rfl) fun _ => trivial
  | succ retries ih =>
    unfold submitLoop
    refine (hattempt attempt).tryCatch fun lastError => ?_
    refine Task.Uses.call_bind (hfailed _ _) fun _ => ?_
    exact Task.Uses.call_bind (hquiet _ rfl) fun _ => ih _

theorem cancelOrder_uses {clientOrderId : String} {now : Date}
    (hcancelled : p (.updateStatus clientOrderId .cancelled
      { completedAt := some (some now) })) :
    (cancelOrder clientOrderId now).Uses p := by
  refine Task.Uses.call_bind (hquiet _ rfl) fun record => ?_
  rcases record with _ | record
  · trivial
  · dsimp only
    cases record.venueOrderId with
    | none =>
      refine Task.Uses.call_bind hcancelled fun _ => ?_
      exact Task.Uses.call_bind (hquiet _ rfl) fun _ => trivial
    | some venueOrderId =>
      refine Task.Uses.call_bind (hquiet _ rfl) fun cancelResult => ?_
      split_ifs
      · refine Task.Uses.call_bind hcancelled fun _ => ?_
        refine Task.Uses.call_bind (hquiet _ rfl) fun _ => ?_
        exact Task.Uses.call_bind (hquiet _ rfl) fun _ => trivial
      · exact Task.Uses.call_bind (hquiet _ rfl) fun _ => trivial

end

end OrderExecutor

end SentinelApex
