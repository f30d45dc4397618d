import SentinelApex.Runtime.SimulationReplay
import SentinelApex.Runtime.OrderSubmission

/-!
# Runs that a restart restores

The runtime executes intents on its simulated venues one after the other and stores for each of
them the fill that the venue reports at submission. A restart restores every venue when no other
fill is ever made and the stored one is exact: `restart_restores`.
-/

namespace SentinelApex

open Async RuntimeOrderStore

/-! ## Executing an intent -/

/-- A simulated venue, the order tables and the number of calls. -/
structure SimulationDesk where
  venue : SimulatedVenue
  orders : RuntimeOrderStore
  calls : ℕ

def handleSimulated (time : ℕ → Date) : Handler Call Call.Reply String SimulationDesk := fun c d =>
  let now := time d.calls
  let next := { d with calls := d.calls + 1 }
  match c with
  | .getByClientId clientOrderId => (.ok (d.orders.getByClientId clientOrderId), next)
  | .save record =>
    let answer := d.orders.save record now
    (answer.1, { next with orders := answer.2 })
  | .updateStatus clientOrderId status updates =>
    let answer := d.orders.updateStatus clientOrderId status updates now
    (answer.1, { next with orders := answer.2 })
  | .placeOrder params =>
    let answer := d.venue.placeOrder params now
    (answer.1, { next with venue := answer.2 })
  | .getOrder venueOrderId =>
    let answer := d.venue.getOrder venueOrderId
    (.ok answer.1, { next with venue := answer.2 })
  | .cancelOrder venueOrderId =>
    let answer := d.venue.cancelOrder venueOrderId
    (.ok answer.1, { next with venue := answer.2 })
  | .auditWrite _ => (.ok (), next)
  | .sleep _ => (.ok (), next)

/-- The fill that `persistExecutionRecord` stores. -/
def recordedFill (record : OrderRecord) (now : Date) : Option OrderFill :=
  match record.averageFillPrice with
  | none => none
  | some averageFillPrice =>
    if record.filledSize = 0 then none
    else some
      { fillId := s!"{record.intent.intentId}-fill-1"
        orderId := record.intent.intentId
        filledSize := record.filledSize
        fillPrice := averageFillPrice
        fee := record.feesPaid.getD 0
        feeAsset := record.intent.asset
        filledAt := (record.completedAt.or record.submittedAt).getD now }

/-- An intent that the runtime executes, with the readings of the clock, the time at which the
database stores its fill and the key that it generates for it. -/
structure IntentExecution where
  intent : OrderIntent
  clock : SubmitClock
  now : Date
  fillRowId : String

/-- The simulated venues, the order tables and the number of calls. -/
structure SimulationWorld where
  adapters : SimulatedAdapters
  orders : RuntimeOrderStore
  calls : ℕ

namespace SimulationWorld

def storeFill (world : SimulationWorld) (execution : IntentExecution) (record : OrderRecord) :
    SimulationWorld :=
  match recordedFill record execution.now with
  | none => world
  | some fill =>
    { world with
      orders := world.orders.persistFill record.intent.intentId fill execution.fillRowId
        execution.now }

/-- The world after a submission at a venue; an exception ends the cycle. -/
def settle (world : SimulationWorld) (execution : IntentExecution)
    (answer : Except String OrderRecord × SimulationDesk) : SimulationWorld :=
  let after : SimulationWorld :=
    { adapters := world.adapters.set execution.intent.venueId answer.2.venue
      orders := answer.2.orders
      calls := answer.2.calls }
  match answer.1 with
  | .error _ => after
  | .ok record => after.storeFill execution record

/-- Submit an intent and record what comes of it; an intent for an unknown venue is skipped. -/
def execute (time : ℕ → Date) (world : SimulationWorld) (execution : IntentExecution) :
    SimulationWorld :=
  match world.adapters.get? execution.intent.venueId with
  | none => world
  | some venue =>
    world.settle execution (((carryExecutor execution.intent.venueId).submitIntent execution.intent
      execution.clock).run (handleSimulated time) ⟨venue, world.orders, world.calls⟩)

/-- What happens between two starts: a strategy run is opened, an intent is executed, or something
else happens at a venue (a poll, a cancellation, a price move). -/
inductive Step where
  | beginRun (runId : String)
  | execute (execution : IntentExecution)
  | venue (venueId : String) (event : SimulatedVenue.Event)

def step (time : ℕ → Date) (world : SimulationWorld) : Step → SimulationWorld
  | .beginRun runId =>
    { world with orders := { world.orders with
        strategyRuns := world.orders.strategyRuns ++ [runId] } }
  | .execute execution => world.execute time execution
  | .venue venueId event => { world with adapters := world.adapters.handle (venueId, event) }

def run (time : ℕ → Date) (world : SimulationWorld) (steps : List Step) : SimulationWorld :=
  steps.foldl (step time) world

/-! ## The condition on a step -/

/-- An order that was submitted before and of which no fill is reported. -/
def Unfilled (row : OrderRow) : Prop := row.averageFillPrice = none ∨ row.filledSize = 0

def SameOrder (row : OrderRow) (intent : OrderIntent) : Prop :=
  row.venueId = intent.venueId ∧ row.asset = intent.asset ∧ row.side = intent.side ∧
    row.reduceOnly = intent.reduceOnly

instance (row : OrderRow) : Decidable (Unfilled row) := inferInstanceAs (Decidable (_ ∨ _))

instance (row : OrderRow) (intent : OrderIntent) : Decidable (SameOrder row intent) :=
  inferInstanceAs (Decidable (_ ∧ _))

/-- The order is new to the venue and to the table of fills; if it is filled at once, then at a
price that eight places hold, without a fee, and after every fill that is stored. -/
def Recordable (orders : RuntimeOrderStore) (venue : SimulatedVenue) (execution : IntentExecution) :
    Prop :=
  (venue.knownOrder execution.intent.intentId).isNone = true ∧
    (∀ row ∈ orders.fills, row.clientOrderId ≠ execution.intent.intentId) ∧
    ∀ fill ∈ venue.marketFill (OrderExecutor.placeOrderParams execution.intent
        (OrderExecutor.runtimeOrderIdentity execution.intent)),
      Decimal.roundPlaces fill.price 8 = fill.price ∧
        Decimal.times (Decimal.times fill.price fill.size) venue.config.takerFeePct = 0 ∧
        fill.size ≠ 0 ∧
        ∀ row ∈ orders.fills, row.id ≠ execution.fillRowId ∧
          (row.filledAt < execution.clock.completedAt 1 ∨
            row.filledAt = execution.clock.completedAt 1 ∧ row.createdAt < execution.now)

instance (orders : RuntimeOrderStore) (venue : SimulatedVenue) (execution : IntentExecution) :
    Decidable (Recordable orders venue execution) :=
  inferInstanceAs (Decidable (_ ∧ _))

def Admits (world : SimulationWorld) : Step → Prop
  | .beginRun _ => True
  | .venue venueId event =>
    ∀ venue ∈ world.adapters.get? venueId, (venue.fillOf event).isNone = true
  | .execute execution =>
    ∀ venue ∈ world.adapters.get? execution.intent.venueId,
      (∀ row ∈ world.orders.orderRow execution.intent.intentId,
        Unfilled row ∧ (IsOpen row.status → SameOrder row execution.intent)) ∧
      ((∀ row ∈ world.orders.orderRow execution.intent.intentId, IsOpen row.status) →
        Recordable world.orders venue execution)

instance decidableAdmits (world : SimulationWorld) : ∀ step, Decidable (world.Admits step)
  | .beginRun _ => isTrue trivial
  | .venue _ _ => inferInstanceAs (Decidable (∀ venue ∈ _, _))
  | .execute _ => inferInstanceAs (Decidable (∀ venue ∈ _, _))

end SimulationWorld

/-! ## Writing the row of an order -/

variable {row : OrderRow}

namespace RuntimeOrderStore

variable {store store' store'' : RuntimeOrderStore} {id : String}

structure Rewrites (store store' : RuntimeOrderStore) (id : String) : Prop where
  others : ∀ id', id' ≠ id → store'.orderRow id' = store.orderRow id'
  fills : store'.fills = store.fills
  runs : store'.strategyRuns = store.strategyRuns
  unique : (store.orders.map fun row => row.clientOrderId).Nodup →
    (store'.orders.map fun row => row.clientOrderId).Nodup

theorem Rewrites.trans (h : Rewrites store store' id) (h' : Rewrites store' store'' id) :
    Rewrites store store'' id where
  others id' hid := (h'.others id' hid).trans (h.others id' hid)
  fills := h'.fills.trans h.fills
  runs := h'.runs.trans h.runs
  unique hunique := h'.unique (h.unique hunique)

theorem upsertOrder_unique (record : OrderRecord) (sleeveId : String) (now : Date)
    (h : (store.orders.map fun row => row.clientOrderId).Nodup) :
    ((store.upsertOrder record sleeveId now).orders.map fun row => row.clientOrderId).Nodup := by
  unfold upsertOrder
  split_ifs with hany
  · have hkeys : (store.orders.map fun row =>
        if row.clientOrderId = record.intent.intentId then
          toRow record sleeveId row.id row.createdAt now
        else row).map (fun row => row.clientOrderId) =
          store.orders.map fun row => row.clientOrderId := by
      rw [List.map_map]
      refine List.map_congr_left fun row _ => ?_
      simp only [Function.comp_apply]
      split_ifs with hid
      · exact hid.symm
      · rfl
    dsimp only
    rwa [hkeys]
  · simp only [List.map_append, List.map_cons, List.map_nil]
    refine h.append (List.nodup_singleton _) ?_
    intro key hkey hnew
    obtain ⟨row, hrow, rfl⟩ := List.mem_map.1 hkey
    rw [List.mem_singleton] at hnew
    exact hany (List.any_eq_true.2 ⟨row, hrow, decide_eq_true hnew⟩)

theorem rewrites_save {record : OrderRecord} (h : store.Persistable record.intent.metadata)
    (now : Date) : ∃ store' row, store.save record now = (.ok (), store') ∧
      Rewrites store store' record.intent.intentId ∧
      store'.orderRow record.intent.intentId = some row ∧
      store'.Persistable row.metadata ∧
      ∃ sleeveId rowId createdAt, row = toRow record sleeveId rowId createdAt now := by
  obtain ⟨sleeveId, hsave⟩ := store.save_of_persistable h now
  have hrows := store.orderRow_upsertOrder record sleeveId now
  obtain ⟨rowId, createdAt, hrow⟩ := (hrows record.intent.intentId).1 rfl
  have hruns := store.upsertOrder_strategyRuns record sleeveId now
  refine ⟨_, _, hsave, ⟨fun id' hid => (hrows id').2 hid, store.upsertOrder_fills record sleeveId now,
    hruns, upsertOrder_unique record sleeveId now⟩, hrow, ?_, sleeveId, rowId, createdAt, rfl⟩
  rw [persistable_congr hruns]
  exact store.persistable_persistedMetadata h

theorem rewrites_updateStatus (status : OrderStatus) (updates : OrderUpdates)
    (hrow : store.orderRow id = some row) (hpersist : store.Persistable row.metadata)
    (hintent : ∀ intent, updates.intent = some intent →
      intent.intentId = id ∧ store.Persistable intent.metadata) (now : Date) :
    ∃ store' row', store.updateStatus id status updates now = (.ok (), store') ∧
      Rewrites store store' id ∧ store'.orderRow id = some row' ∧
      store'.Persistable row'.metadata ∧
      ∃ sleeveId rowId createdAt, row' = toRow
        ((toRecord row (store.fillRows id)).merge status updates) sleeveId rowId createdAt now := by
  have hmerged := intent_merge status hrow hpersist hintent
  simp only [updateStatus, getByClientId_of_orderRow hrow]
  obtain ⟨store', row', hsave, hrewrites, hrow', hpersist', heq⟩ := rewrites_save hmerged.2 now
  rw [hmerged.1] at hrewrites hrow'
  exact ⟨store', row', hsave, hrewrites, hrow', hpersist', heq⟩

theorem Rewrites.fillsWithOrders (h : Rewrites store store' id) (hin : store.InOrder)
    (hfills : ∀ row ∈ store.fills, row.clientOrderId ≠ id) :
    store'.InOrder ∧ store'.fillsWithOrders = store.fillsWithOrders := by
  have hin' : store'.InOrder := ⟨h.unique hin.unique, h.fills ▸ hin.times⟩
  refine ⟨hin', ?_⟩
  rw [fillsWithOrders_eq hin', fillsWithOrders_eq hin, h.fills]
  refine List.flatMap_congr fun fill hfill => ?_
  rw [h.others _ (hfills fill hfill)]

end RuntimeOrderStore

/-! ## Submitting an intent -/

variable {d : SimulationDesk}

section

variable (time : ℕ → Date) (executor : OrderExecutor)

theorem run_finalRow {id : String} (hrow : d.orders.orderRow id = some row) (record : OrderRecord) :
    (call (.getByClientId id) >>= fun final =>
      (pure (final.getD record) : ExecTask OrderRecord)).run (handleSimulated time) d =
        (.ok (toRecord row (d.orders.fillRows id)), { d with calls := d.calls + 1 }) := by
  have hread : handleSimulated time (.getByClientId id) d =
      (.ok (some (toRecord row (d.orders.fillRows id))), { d with calls := d.calls + 1 }) := by
    simp [handleSimulated, getByClientId_of_orderRow hrow]
  rw [Task.run_call_bind_of_eq _ hread]
  rfl

/-- What the row of an order says once the venue has answered. -/
structure PlacedRow (intent : OrderIntent) (completedAt : Date) (result : PlaceOrderResult)
    (row : OrderRow) : Prop where
  venueId : row.venueId = intent.venueId
  asset : row.asset = intent.asset
  side : row.side = intent.side
  reduceOnly : row.reduceOnly = intent.reduceOnly
  venueOrderId : row.venueOrderId = some result.venueOrderId
  filledSize : row.filledSize = result.filledSize
  averageFillPrice : row.averageFillPrice = result.averageFillPrice
  completedAt : result.status = .filled → row.completedAt = some completedAt

def SameFigures (row row' : OrderRow) : Prop :=
  row'.averageFillPrice = row.averageFillPrice ∧ row'.filledSize = row.filledSize

theorem handleSimulated_updateStatus {id : String} (status : OrderStatus) (updates : OrderUpdates)
    (hrow : d.orders.orderRow id = some row) (hpersist : d.orders.Persistable row.metadata)
    (hintent : ∀ intent, updates.intent = some intent →
      intent.intentId = id ∧ d.orders.Persistable intent.metadata) :
    ∃ orders' row', handleSimulated time (.updateStatus id status updates) d =
        (.ok (), ⟨d.venue, orders', d.calls + 1⟩) ∧ Rewrites d.orders orders' id ∧
      orders'.orderRow id = some row' ∧ orders'.Persistable row'.metadata ∧
      ∃ sleeveId rowId createdAt, row' = toRow ((toRecord row
        (d.orders.fillRows id)).merge status updates) sleeveId rowId createdAt (time d.calls) := by
  obtain ⟨orders', row', hupdate, hrewrites, hrow', hpersist', heq⟩ :=
    RuntimeOrderStore.rewrites_updateStatus status updates hrow hpersist hintent (time d.calls)
  exact ⟨orders', row', by simp [handleSimulated, hupdate], hrewrites, hrow', hpersist', heq⟩

/-- The outcome of an attempt on a row that can be written: an answer of the venue is in the row,
an exception leaves the figures of the row. -/
theorem attemptSubmit_run (intent : OrderIntent) (record : OrderRecord) (clock : SubmitClock)
    (attempt : ℕ) (hid : record.intent.intentId = intent.intentId)
    (hrecord : d.orders.Persistable record.intent.metadata)
    (hrow : d.orders.orderRow intent.intentId = some row)
    (hpersist : d.orders.Persistable row.metadata) :
    ∃ orders' row' calls', Rewrites d.orders orders' intent.intentId ∧
      orders'.orderRow intent.intentId = some row' ∧
      match d.venue.placeOrder (OrderExecutor.placeOrderParams intent
        (OrderExecutor.runtimeOrderIdentity record.intent)) (time (d.calls + 1)) with
      | (.ok result, venue') =>
        (executor.attemptSubmit intent record clock attempt).run (handleSimulated time) d =
          (.ok (toRecord row' (d.orders.fillRows intent.intentId)), ⟨venue', orders', calls'⟩) ∧
        PlacedRow record.intent (clock.completedAt attempt) result row'
      | (.error message, venue') =>
        (executor.attemptSubmit intent record clock attempt).run (handleSimulated time) d =
          (.error message, ⟨venue', orders', calls'⟩) ∧
        orders'.Persistable row'.metadata ∧ SameFigures row row' := by
  obtain ⟨orders₁, row₁, hsubmitted, hrewrites₁, hrow₁, hpersist₁, sleeveId, rowId, createdAt,
      heq₁⟩ := handleSimulated_updateStatus time (d := d) .submitted
    { submittedAt := some (some (clock.submittedAt attempt)), attemptCount := some attempt }
    hrow hpersist (by rintro _ ⟨⟩)
  have hfigures : SameFigures row row₁ := by
    subst heq₁
    exact ⟨rfl, rfl⟩
  unfold OrderExecutor.attemptSubmit
  rw [Task.run_call_bind_of_eq _ hsubmitted]
  set params := OrderExecutor.placeOrderParams intent
    (OrderExecutor.runtimeOrderIdentity record.intent)
  have hplace : handleSimulated time (.placeOrder params) ⟨d.venue, orders₁, d.calls + 1⟩ =
      ((d.venue.placeOrder params (time (d.calls + 1))).1,
        ⟨(d.venue.placeOrder params (time (d.calls + 1))).2, orders₁, d.calls + 1 + 1⟩) := rfl
  rcases hanswer : d.venue.placeOrder params (time (d.calls + 1)) with ⟨answer, venue'⟩
  rw [hanswer] at hplace
  cases answer with
  | error message =>
    refine ⟨orders₁, row₁, d.calls + 1 + 1, hrewrites₁, hrow₁, ?_, hpersist₁, hfigures⟩
    rw [Task.run_call_bind, hplace]
  | ok result =>
    obtain ⟨orders₂, row₂, hupdate, hrewrites₂, hrow₂, -, sleeveId, rowId, createdAt, heq₂⟩ :=
      handleSimulated_updateStatus time (d := ⟨venue', orders₁, d.calls + 1 + 1⟩)
        (OrderExecutor.placedStatus result.status)
        (executor.placedUpdates record (OrderExecutor.runtimeOrderIdentity record.intent) result
          (clock.completedAt attempt))
        hrow₁ hpersist₁ (by
          rintro _ ⟨⟩
          refine ⟨hid, persistable_executorMetadata executor ?_ _ _⟩
          exact (persistable_congr hrewrites₁.runs _).2 hrecord)
    have hfinal := run_finalRow time (d := ⟨venue', orders₂, d.calls + 1 + 1 + 1 + 1⟩) hrow₂ record
    have hfills : orders₂.fillRows intent.intentId = d.orders.fillRows intent.intentId := by
      unfold fillRows
      rw [hrewrites₂.fills, hrewrites₁.fills]
    refine ⟨orders₂, row₂, d.calls + 1 + 1 + 1 + 1 + 1, hrewrites₁.trans hrewrites₂, hrow₂, ?_, ?_⟩
    · rw [Task.run_call_bind_of_eq _ hplace, OrderExecutor.recordPlacement,
        Task.run_call_bind_of_eq _ hupdate]
      rw [hfills] at hfinal
      exact hfinal
    · subst heq₂
      refine ⟨rfl, rfl, rfl, rfl, rfl, rfl, rfl, fun hfilled => ?_⟩
      simp [toRow, OrderRecord.merge, OrderExecutor.placedUpdates, hfilled,
        OrderExecutor.placedStatus]

/-- Submitting a record: it is refused when its row cannot be written, and else the row has the
answer of the venue, or the figures of the record when the venue throws. -/
theorem save_submitLoop_run (intent : OrderIntent) (record : OrderRecord) (clock : SubmitClock)
    (d : SimulationDesk) (hid : record.intent.intentId = intent.intentId) :
    (∃ message, (do
        call (.save record)
        executor.submitLoop intent record clock 1 0).run (handleSimulated time) d =
          (.error message, { d with calls := d.calls + 1 })) ∨
    ∃ orders' row' calls', Rewrites d.orders orders' intent.intentId ∧
      orders'.orderRow intent.intentId = some row' ∧
      (do
        call (.save record)
        executor.submitLoop intent record clock 1 0).run (handleSimulated time) d =
          (.ok (toRecord row' (d.orders.fillRows intent.intentId)),
            ⟨(d.venue.placeOrder (OrderExecutor.placeOrderParams intent
              (OrderExecutor.runtimeOrderIdentity record.intent)) (time (d.calls + 1 + 1))).2,
              orders', calls'⟩) ∧
      match (d.venue.placeOrder (OrderExecutor.placeOrderParams intent
        (OrderExecutor.runtimeOrderIdentity record.intent)) (time (d.calls + 1 + 1))).1 with
      | .ok result => PlacedRow record.intent (clock.completedAt 1) result row'
      | .error _ =>
        row'.averageFillPrice = record.averageFillPrice ∧ row'.filledSize = record.filledSize := by
  by_cases hpersist : d.orders.Persistable record.intent.metadata
  case neg =>
    obtain ⟨message, hsave⟩ := save_of_not_persistable hpersist (time d.calls)
    left
    refine ⟨message, ?_⟩
    rw [Task.run_call_bind]
    simp [handleSimulated, hsave]
  case pos =>
    right
    obtain ⟨orders₁, row₁, hsave, hrewrites₁, hrow₁, hpersist₁, sleeveId, rowId, createdAt, heq₁⟩ :=
      RuntimeOrderStore.rewrites_save hpersist (time d.calls)
    rw [hid] at hrewrites₁ hrow₁
    have hcall : handleSimulated time (.save record) d =
        (.ok (), ⟨d.venue, orders₁, d.calls + 1⟩) := by
      simp [handleSimulated, hsave]
    have hfills : orders₁.fillRows intent.intentId = d.orders.fillRows intent.intentId := by
      unfold fillRows
      rw [hrewrites₁.fills]
    obtain ⟨orders₂, row₂, calls₂, hrewrites₂, hrow₂, hattempt⟩ := attemptSubmit_run time executor
      intent record clock 1 (d := ⟨d.venue, orders₁, d.calls + 1⟩) hid
      ((persistable_congr hrewrites₁.runs _).2 hpersist) hrow₁ hpersist₁
    rw [Task.run_call_bind_of_eq _ hcall, OrderExecutor.submitLoop, Task.run_tryCatch]
    rcases hanswer : d.venue.placeOrder (OrderExecutor.placeOrderParams intent
      (OrderExecutor.runtimeOrderIdentity record.intent)) (time (d.calls + 1 + 1)) with
      ⟨answer, venue'⟩
    simp only [hanswer] at hattempt ⊢
    cases answer with
    | ok result =>
      obtain ⟨hrun, hplaced⟩ := hattempt
      refine ⟨orders₂, row₂, calls₂, hrewrites₁.trans hrewrites₂, hrow₂, ?_, hplaced⟩
      rw [hrun, hfills]
    | error message =>
      obtain ⟨hrun, hpersist₂, hfigures⟩ := hattempt
      obtain ⟨orders₃, row₃, hupdate, hrewrites₃, hrow₃, -, sleeveId, rowId, createdAt, heq₃⟩ :=
        handleSimulated_updateStatus time (d := ⟨venue', orders₂, calls₂⟩) .failed
          { lastError := some (some message), completedAt := some (some (clock.failedAt 1)) }
          hrow₂ hpersist₂ (by rintro _ ⟨⟩)
      have hfinal := run_finalRow time (d := ⟨venue', orders₃, calls₂ + 1⟩) hrow₃ record
      have hrewrites := (hrewrites₁.trans hrewrites₂).trans hrewrites₃
      have hfills₃ : orders₃.fillRows intent.intentId = d.orders.fillRows intent.intentId := by
        unfold fillRows
        rw [hrewrites.fills]
      refine ⟨orders₃, row₃, calls₂ + 1 + 1, hrewrites, hrow₃, ?_, ?_, ?_⟩
      · rw [hrun]
        dsimp only
        rw [Task.run_call_bind_of_eq _ hupdate]
        rw [hfills₃] at hfinal
        exact hfinal
      · subst heq₃ heq₁
        exact hfigures.1
      · subst heq₃ heq₁
        exact hfigures.2

end

/-! ## Storing the fill -/

theorem RuntimeOrderStore.InOrder.persistFill {store : RuntimeOrderStore} (h : store.InOrder)
    {id venueOrderId : String} (hrow : store.orderRow id = some row)
    (hvenue : row.venueOrderId = some venueOrderId) (fill : OrderFill) (rowId : String) (now : Date)
    (hlater : ∀ stored ∈ store.fills, stored.id ≠ rowId ∧
      (stored.filledAt < fill.filledAt ∨
        stored.filledAt = fill.filledAt ∧ stored.createdAt < now)) :
    (store.persistFill id fill rowId now).InOrder ∧
      ∃ stored : FillRow, (store.persistFill id fill rowId now).fillsWithOrders =
          store.fillsWithOrders ++ [(stored, row)] ∧
        stored.side = row.side ∧ stored.size = fill.filledSize ∧ stored.price = fill.fillPrice ∧
        stored.fee = fill.fee := by
  have hfresh : (store.fills.any fun existing => decide (existing.id = rowId)) = false := by
    simpa using fun stored hstored => (hlater stored hstored).1
  obtain ⟨stored, hstore, hid, htimes, hfigures⟩ : ∃ stored : FillRow,
      store.persistFill id fill rowId now = { store with fills := store.fills ++ [stored] } ∧
        stored.clientOrderId = id ∧
        (stored.filledAt = fill.filledAt ∧ stored.createdAt = now) ∧
        stored.side = row.side ∧ stored.size = fill.filledSize ∧
        stored.price = fill.fillPrice ∧ stored.fee = fill.fee := by
    unfold RuntimeOrderStore.persistFill RuntimeOrderStore.insertFill
    simp only [hrow, hvenue, hfresh, Bool.false_eq_true, if_false]
    exact ⟨_, rfl, clientOrderId_of_orderRow hrow, ⟨rfl, rfl⟩, rfl, rfl, rfl, rfl⟩
  have hin : ({ store with fills := store.fills ++ [stored] } : RuntimeOrderStore).InOrder := by
    refine ⟨h.unique, List.pairwise_append.2 ⟨h.times, List.pairwise_singleton _ _, ?_⟩⟩
    intro old hold new hnew
    obtain rfl := List.mem_singleton.1 hnew
    rw [Later, htimes.1, htimes.2]
    exact (hlater old hold).2
  have hsame : ∀ clientOrderId, orderRow
      { store with fills := store.fills ++ [stored] } clientOrderId =
        store.orderRow clientOrderId := fun _ => rfl
  rw [hstore]
  refine ⟨hin, stored, ?_, hfigures⟩
  rw [fillsWithOrders_eq hin, fillsWithOrders_eq h]
  simp only [hsame, List.flatMap_append, List.flatMap_cons, List.flatMap_nil, List.append_nil, hid,
    hrow, Option.toList_some, List.map_cons, List.map_nil]

namespace SimulationWorld

/-! ## Worlds that a restart restores -/

/-- Every venue holds what its stored fills make of its initial balances. -/
structure Restorable (world : SimulationWorld) : Prop where
  keyed : Keyed world.adapters
  inOrder : world.orders.InOrder
  replayed : ∀ venueId venue, world.adapters.get? venueId = some venue →
    SameBook venue (replayInto venueId (world.orders.fillsWithOrders.map historyRecord)
      venue.resetSimulationState)

variable {venue venue' : SimulatedVenue} {world : SimulationWorld} {venueId : String}

theorem Restorable.of_same {world' : SimulationWorld} (h : world.Restorable)
    (hin : world'.orders.InOrder)
    (hfills : world'.orders.fillsWithOrders = world.orders.fillsWithOrders)
    (hvenues : ∀ venueId venue', world'.adapters.get? venueId = some venue' →
      ∃ venue, world.adapters.get? venueId = some venue ∧ SameBook venue' venue ∧
      SimulatedVenue.SameOrigin venue' venue) :
    world'.Restorable := by
  refine ⟨fun venueId venue' hget => ?_, hin, fun venueId venue' hget => ?_⟩
  · obtain ⟨venue, hvenue, -, horigin⟩ := hvenues venueId venue' hget
    exact horigin.1.trans (h.keyed venueId venue hvenue)
  · obtain ⟨venue, hvenue, hbook, horigin⟩ := hvenues venueId venue' hget
    rw [hfills]
    have hreset := SimulatedVenue.resetSimulationState_sameBook horigin
    have hreplay := replayInto_sameBook hreset venueId
      (world.orders.fillsWithOrders.map historyRecord)
    exact (hbook.trans (h.replayed venueId venue hvenue)).trans hreplay.symm

theorem set_venues {adapters : SimulatedAdapters} (hget : adapters.get? venueId = some venue)
    (hbook : SameBook venue' venue) (horigin : SimulatedVenue.SameOrigin venue' venue) :
    ∀ id other, (adapters.set venueId venue').get? id = some other →
      ∃ old, adapters.get? id = some old ∧ SameBook other old ∧
        SimulatedVenue.SameOrigin other old := by
  intro id other hother
  by_cases hid : venueId = id
  · subst hid
    rw [OrderedMap.get?_set_self] at hother
    obtain rfl := Option.some.inj hother
    exact ⟨venue, hget, hbook, horigin⟩
  · rw [OrderedMap.get?_set_of_ne _ hid] at hother
    exact ⟨other, hother, SameBook.refl other, rfl, rfl⟩

theorem Restorable.fill (h : world.Restorable) (hget : world.adapters.get? venueId = some venue)
    (hconfig : venue'.config = venue.config) {params : PlaceOrderParams} {price fee : Decimal}
    (hbook : SameBook venue' (venue.applyFill params price params.size fee))
    {orders' : RuntimeOrderStore} (hin : orders'.InOrder) {stored : FillRow}
    (hrows : orders'.fillsWithOrders = world.orders.fillsWithOrders ++ [(stored, row)])
    (hvenue : row.venueId = venueId) (hasset : row.asset = params.asset)
    (hside : stored.side = params.side) (hreduce : row.reduceOnly = params.reduceOnly)
    (hsize : stored.size = params.size) (hprice : stored.price = price) (hfee : stored.fee = fee)
    (calls : ℕ) :
    Restorable
      { adapters := world.adapters.set venueId venue', orders := orders', calls := calls } := by
  have horigin := SimulatedVenue.sameOrigin_of_config hconfig
  refine ⟨fun id other hother => ?_, hin, fun id other hother => ?_⟩
  · by_cases hid : venueId = id
    · subst hid
      rw [OrderedMap.get?_set_self] at hother
      obtain rfl := Option.some.inj hother
      exact horigin.1.trans (h.keyed venueId venue hget)
    · rw [OrderedMap.get?_set_of_ne _ hid] at hother
      exact h.keyed id other hother
  · dsimp only
    rw [hrows, List.map_append, List.map_cons, List.map_nil]
    unfold replayInto
    rw [List.foldl_append, List.foldl_cons, List.foldl_nil]
    have hrecord : (historyRecord (stored, row)).venueId = venueId := hvenue
    by_cases hid : venueId = id
    · subst hid
      rw [OrderedMap.get?_set_self] at hother
      obtain rfl := Option.some.inj hother
      rw [if_pos hrecord]
      have hreset := SimulatedVenue.resetSimulationState_sameBook horigin
      have hold : SameBook venue (replayInto venueId
          (world.orders.fillsWithOrders.map historyRecord) venue'.resetSimulationState) :=
        (h.replayed venueId venue hget).trans (replayInto_sameBook hreset.symm venueId _)
      refine hbook.trans (SameBook.symm ?_)
      refine (SimulatedVenue.replayFilledOrder_sameBook hold.symm _).trans ?_
      have hfill : SameBook (venue.applyFill (SimulatedVenue.replayedParams
          (toReplay (historyRecord (stored, row)))) stored.price stored.size stored.fee)
          (venue.applyFill params stored.price stored.size stored.fee) :=
        SimulatedVenue.applyFill_sameBook (SameBook.refl venue) hasset hside hreduce _ _ _
      rw [hprice, hsize, hfee] at hfill
      show SameBook (venue.applyFill _ stored.price stored.size stored.fee) _
      rw [hprice, hsize, hfee]
      exact hfill
    · rw [OrderedMap.get?_set_of_ne _ hid] at hother
      rw [if_neg (by rw [hrecord]; exact hid)]
      exact h.replayed id other hother

/-! ## One execution -/

theorem recordedFill_of_unfilled {record : OrderRecord}
    (h : record.averageFillPrice = none ∨ record.filledSize = 0) (now : Date) :
    recordedFill record now = none := by
  unfold recordedFill
  rcases h with h | h
  · rw [h]
  · cases record.averageFillPrice with
    | none => rfl
    | some price => simp [h]

variable {time : ℕ → Date} {world : SimulationWorld} {execution : IntentExecution}
  {venue : SimulatedVenue}

section

variable (h : world.Restorable) (hget : world.adapters.get? execution.intent.venueId = some venue)

include h hget

theorem Restorable.settle_of_no_fill {result : Except String OrderRecord}
    (hbook : SameBook d.venue venue) (hconfig : d.venue.config = venue.config)
    (hresult : ∀ record, result = .ok record → recordedFill record execution.now = none)
    (hin : d.orders.InOrder) (hfills : d.orders.fillsWithOrders = world.orders.fillsWithOrders) :
    (world.settle execution (result, d)).Restorable := by
  have hafter : Restorable
      { adapters := world.adapters.set execution.intent.venueId d.venue
        orders := d.orders
        calls := d.calls } :=
    h.of_same hin hfills
      (set_venues hget hbook (SimulatedVenue.sameOrigin_of_config hconfig))
  cases result with
  | error message => exact hafter
  | ok record =>
    simp only [settle, storeFill, hresult record rfl]
    exact hafter

/-- Submitting a record of which no fill is reported, for an order that may be recorded. -/
theorem Restorable.submit (hrecordable : Recordable world.orders venue execution)
    (record : OrderRecord) (hid : record.intent.intentId = execution.intent.intentId)
    (hvenueId : record.intent.venueId = execution.intent.venueId)
    (hasset : record.intent.asset = execution.intent.asset)
    (hside : record.intent.side = execution.intent.side)
    (hreduce : record.intent.reduceOnly = execution.intent.reduceOnly)
    (hunfilled : record.averageFillPrice = none ∨ record.filledSize = 0) (executor : OrderExecutor)
    (calls : ℕ) :
    (world.settle execution ((do
      call (.save record)
      executor.submitLoop execution.intent record execution.clock 1 0).run (handleSimulated time)
        ⟨venue, world.orders, calls⟩)).Restorable := by
  obtain ⟨hknown, hnofills, hexact⟩ := hrecordable
  rw [Option.isNone_iff_eq_none] at hknown
  rcases save_submitLoop_run time executor execution.intent record execution.clock
    ⟨venue, world.orders, calls⟩ hid with ⟨message, hrun⟩ |
      ⟨orders', row', calls', hrewrites, hrow', hrun, hanswer⟩
  · rw [hrun]
    exact h.settle_of_no_fill hget (SameBook.refl venue) rfl
      (fun record hrecord => by cases hrecord) h.inOrder rfl
  · rw [hrun]
    obtain ⟨hin, hfills⟩ := hrewrites.fillsWithOrders h.inOrder hnofills
    have hempty : world.orders.fillRows execution.intent.intentId = [] := by
      have hnone : world.orders.fills.filter
          (fun row => decide (row.clientOrderId = execution.intent.intentId)) = [] :=
        List.filter_eq_nil_iff.2 fun row hrow heq => hnofills row hrow (of_decide_eq_true heq)
      rw [fillRows, hnone]
      rfl
    rw [hempty] at hrun ⊢
    set params := OrderExecutor.placeOrderParams execution.intent
      (OrderExecutor.runtimeOrderIdentity record.intent) with hparams
    set answer := venue.placeOrder params (time (calls + 1 + 1)) with hanswerDef
    cases hfill : venue.marketFill params with
    | none =>
      obtain ⟨hbook, hconfig, hresting⟩ :=
        SimulatedVenue.placeOrder_of_no_fill hfill (time (calls + 1 + 1))
      refine h.settle_of_no_fill hget hbook hconfig (fun final hfinal => ?_) hin hfills
      obtain rfl := Except.ok.inj hfinal
      refine recordedFill_of_unfilled ?_ _
      show row'.averageFillPrice = none ∨ row'.filledSize = 0
      cases hplaced : answer.1 with
      | ok result =>
        rw [hplaced] at hanswer
        exact Or.inl (hanswer.averageFillPrice.trans (hresting hknown result hplaced))
      | error message =>
        rw [hplaced] at hanswer
        rw [hanswer.1, hanswer.2]
        exact hunfilled
    | some fill =>
      obtain ⟨result, venue', hplace, hfilled, hsize, hprice, hfillSize, hconfig, hbook⟩ :=
        SimulatedVenue.placeOrder_of_marketFill hfill (time (calls + 1 + 1))
      obtain ⟨hplaces, hfee, hpositive, hlater⟩ := hexact fill hfill
      have hvenue' : answer.2 = venue' := by rw [hanswerDef, hplace]
      have hresult : answer.1 = .ok result := by rw [hanswerDef, hplace]
      rw [hresult] at hanswer
      have hfinalId : row'.clientOrderId = execution.intent.intentId :=
        clientOrderId_of_orderRow hrow'
      have hrowSize : row'.filledSize = params.size := hanswer.filledSize.trans hsize
      have hrowPrice : row'.averageFillPrice = some fill.price := by
        rw [hanswer.averageFillPrice, hprice, hplaces]
      have hrowTime : row'.completedAt = some (execution.clock.completedAt 1) :=
        hanswer.completedAt hfilled
      have hnonzero : params.size ≠ 0 := hfillSize ▸ hpositive
      have hnoFee : Decimal.times (Decimal.times fill.price params.size)
          venue.config.takerFeePct = 0 := hfillSize ▸ hfee
      rw [hnoFee] at hbook
      obtain ⟨orderFill, hrecorded, hstoredSize, hstoredPrice, hstoredFee, hstoredTime⟩ :
          ∃ orderFill, recordedFill (toRecord row' []) execution.now = some orderFill ∧
            orderFill.filledSize = params.size ∧ orderFill.fillPrice = fill.price ∧
            orderFill.fee = 0 ∧ orderFill.filledAt = execution.clock.completedAt 1 := by
        simp only [recordedFill, toRecord, hrowPrice, hrowSize, hnonzero, if_false, hrowTime]
        exact ⟨_, rfl, rfl, rfl, rfl, rfl⟩
      obtain ⟨hin', stored, hrows, hsideStored, hsizeStored, hpriceStored, hfeeStored⟩ :=
        hin.persistFill hrow' hanswer.venueOrderId orderFill execution.fillRowId execution.now (by
            intro old hold
            rw [hrewrites.fills] at hold
            rw [hstoredTime]
            exact hlater old hold)
      rw [hfills] at hrows
      have hrestorable := h.fill hget hconfig hbook hin' hrows (hanswer.venueId.trans hvenueId)
        (hanswer.asset.trans hasset) (hsideStored.trans (hanswer.side.trans hside))
        (hanswer.reduceOnly.trans hreduce) (hsizeStored.trans hstoredSize)
        (hpriceStored.trans hstoredPrice) (hfeeStored.trans hstoredFee) calls'
      have hsettled : world.settle execution (.ok (toRecord row' []), ⟨answer.2, orders', calls'⟩) =
          { adapters := world.adapters.set execution.intent.venueId venue'
            orders := orders'.persistFill execution.intent.intentId orderFill execution.fillRowId
              execution.now
            calls := calls' } := by
        simp only [settle, storeFill, hrecorded, hvenue']
        rw [show (toRecord row' []).intent.intentId = execution.intent.intentId from hfinalId]
      rw [hsettled]
      exact hrestorable

end

theorem execute_restorable (h : world.Restorable) (hadmits : world.Admits (.execute execution)) :
    (world.execute time execution).Restorable := by
  unfold execute
  cases hget : world.adapters.get? execution.intent.venueId with
  | none => exact h
  | some venue =>
    obtain ⟨hrows, hrecordable⟩ := hadmits venue hget
    have hread : handleSimulated time (.getByClientId execution.intent.intentId)
        ⟨venue, world.orders, world.calls⟩ =
          (.ok (world.orders.getByClientId execution.intent.intentId),
            ⟨venue, world.orders, world.calls + 1⟩) := rfl
    dsimp only
    unfold OrderExecutor.submitIntent
    rw [Task.run_call_bind_of_eq _ hread]
    cases hrow : world.orders.orderRow execution.intent.intentId with
    | none =>
      have hnew : ∀ row ∈ world.orders.orderRow execution.intent.intentId, IsOpen row.status := by
        rw [hrow]
        simp
      simp only [getByClientId, hrow, Option.map_none]
      exact h.submit hget (hrecordable hnew) (OrderRecord.create execution.intent)
        rfl rfl rfl rfl rfl (Or.inl rfl) (carryExecutor execution.intent.venueId) (world.calls + 1)
    | some row =>
      obtain ⟨hunfilled, hsame⟩ := hrows row hrow
      simp only [getByClientId_of_orderRow hrow]
      set record := toRecord row (world.orders.fillRows execution.intent.intentId)
      have hstatus : record.status = row.status := rfl
      by_cases hopen : IsOpen row.status
      · have hagain : ¬ (record.status ≠ .pending ∧ record.status ≠ .failed) := by
          rw [hstatus]
          rcases hopen with hopen | hopen <;> simp [hopen]
        have hopenRow : ∀ row ∈ world.orders.orderRow execution.intent.intentId,
            IsOpen row.status := by
          rw [hrow]
          simpa using hopen
        obtain ⟨hvenueId, hasset, hside, hreduce⟩ := hsame hopen
        rw [if_neg hagain]
        exact h.submit hget (hrecordable hopenRow) record
          (clientOrderId_of_orderRow hrow) hvenueId hasset hside hreduce hunfilled
          (carryExecutor execution.intent.venueId) (world.calls + 1)
      · have hfinal : record.status ≠ .pending ∧ record.status ≠ .failed := by
          rw [hstatus]
          exact not_or.1 hopen
        rw [if_pos hfinal]
        have hrecord : record.averageFillPrice = none ∨ record.filledSize = 0 := hunfilled
        refine h.settle_of_no_fill hget (SameBook.refl venue) rfl (fun final heq => ?_) h.inOrder rfl
        obtain rfl := Except.ok.inj heq
        exact recordedFill_of_unfilled hrecord _

/-! ## Runs -/

theorem step_restorable (time : ℕ → Date) (world : SimulationWorld) (s : Step)
    (h : world.Restorable) (hadmits : world.Admits s) : (world.step time s).Restorable := by
  cases s with
  | beginRun runId =>
    exact h.of_same ⟨h.inOrder.unique, h.inOrder.times⟩ rfl fun venueId venue hvenue =>
      ⟨venue, hvenue, SameBook.refl venue, rfl, rfl⟩
  | execute execution => exact execute_restorable h hadmits
  | venue venueId event =>
    refine h.of_same h.inOrder rfl ?_
    show ∀ id other, (world.adapters.handle (venueId, event)).get? id = some other → _
    unfold SimulatedAdapters.handle
    dsimp only
    cases hget : world.adapters.get? venueId with
    | none => exact fun id other hother => ⟨other, hother, SameBook.refl other, rfl, rfl⟩
    | some venue =>
      have hnone := Option.isNone_iff_eq_none.1 (hadmits venue hget)
      obtain ⟨hbook, horigin⟩ := SimulatedVenue.handle_of_no_fill hnone
      exact set_venues hget hbook horigin

/-- Venues as they are configured, and no orders. -/
structure Fresh (world : SimulationWorld) : Prop where
  keyed : Keyed world.adapters
  books : ∀ venueId venue, world.adapters.get? venueId = some venue →
    SameBook venue venue.resetSimulationState
  orders : world.orders.orders = []
  fills : world.orders.fills = []

theorem Fresh.restorable (h : world.Fresh) : world.Restorable := by
  have hrows : world.orders.fillsWithOrders = [] := by simp [fillsWithOrders, h.fills]
  refine ⟨h.keyed, ⟨by simp [h.orders], by simp [h.fills]⟩, fun venueId venue hget => ?_⟩
  rw [hrows]
  exact h.books venueId venue hget

/-- When every fill is made at submission and stored exactly and in order, and the setting replays
all of them, a restart gives every venue the positions and the balances that it had. -/
theorem restart_restores (time : ℕ → Date) (world : SimulationWorld) (steps : List Step)
    (replayLimit : Option String) (hfresh : world.Fresh)
    (hadmits : Runs.Along (step time) Admits world steps)
    (hlimit : WithinLimit replayLimit (world.run time steps).orders
      (world.run time steps).adapters) :
    ∀ venueId venue, (world.run time steps).adapters.get? venueId = some venue →
      ∃ restored, (restart replayLimit (world.run time steps).orders
          (world.run time steps).adapters).get? venueId = some restored ∧
        restored.positions = venue.positions ∧ restored.balances = venue.balances := by
  have h : (world.run time steps).Restorable :=
    hadmits.invariant (step_restorable time) hfresh.restorable
  intro venueId venue hvenue
  obtain ⟨restored, hrestored, hbook⟩ := restart_get? h.inOrder h.keyed hlimit hvenue
  have hsame := hbook.trans (h.replayed venueId venue hvenue).symm
  exact ⟨restored, hrestored, hsame.positions, hsame.balances⟩

/-! ## One venue -/

/-- A venue that trades at 100 with the given fee. -/
def sampleWorld (takerFeePct : Decimal) : SimulationWorld where
  adapters := OrderedMap.ofList [("venue-a", (SimulatedVenue.create
    { venueId := "venue-a"
      makerFeePct := 0
      takerFeePct
      slippagePct := 0
      initialBalances := OrderedMap.ofList [("USDC", 1000)]
      deterministicPrices := OrderedMap.ofList [("BTC", 100)] }).connect)]
  orders := { orders := [], fills := [], strategyRuns := [], nextId := 1 }
  calls := 0

def sampleExecution (intentId : String) (side : OrderSide) (limitPrice : Option Decimal)
    (size : Decimal) (reduceOnly : Bool) (now : Date) : Step :=
  .execute
    { intent :=
        { intentId
          venueId := "venue-a"
          asset := "BTC"
          side
          type := if limitPrice = none then .market else .limit
          size
          limitPrice
          opportunityId := "opportunity-1"
          reduceOnly
          createdAt := 0
          metadata := OrderedMap.ofList [("sleeveId", .str "carry"), ("runId", .str "run-1")] }
      clock := { start := 0, submittedAt := fun _ => 0, placedAt := fun _ => 0,
                 completedAt := fun _ => 5, failedAt := fun _ => 5 }
      now
      fillRowId := intentId }

/-- A purchase and a reduction that are filled at the same time, and a limit order. -/
def sampleSteps : List Step :=
  [.beginRun "run-1", sampleExecution "order-1" .buy none 2 false 6,
    sampleExecution "order-2" .sell none 1 true 7,
    sampleExecution "order-3" .buy (some 90) 1 false 8,
    .venue "venue-a" (.setPrice "BTC" 110)]

theorem sampleWorld_fresh (takerFeePct : Decimal) : (sampleWorld takerFeePct).Fresh := by
  have hvenue : ∀ venueId venue, (sampleWorld takerFeePct).adapters.get? venueId = some venue →
      venueId = "venue-a" ∧ some venue = (sampleWorld takerFeePct).adapters.get? "venue-a" := by
    intro venueId venue hget
    have hmem := OrderedMap.mem_entries_of_get? hget
    have hentry : (venueId, venue) = ("venue-a", _) := List.mem_singleton.1 hmem
    obtain ⟨rfl, rfl⟩ := Prod.mk.inj hentry
    exact ⟨rfl, rfl⟩
  refine ⟨fun venueId venue hget => ?_, fun venueId venue hget => ?_, rfl, rfl⟩
  · obtain ⟨rfl, heq⟩ := hvenue venueId venue hget
    obtain rfl := Option.some.inj heq
    rfl
  · obtain ⟨rfl, heq⟩ := hvenue venueId venue hget
    obtain rfl := Option.some.inj heq
    exact ⟨rfl, rfl⟩

theorem restart_restores_sample :
    ∃ venue restored,
      ((sampleWorld 0).run (fun _ => 0) sampleSteps).adapters.get? "venue-a" = some venue ∧
      (restart (some "2") ((sampleWorld 0).run (fun _ => 0) sampleSteps).orders
        ((sampleWorld 0).run (fun _ => 0) sampleSteps).adapters).get? "venue-a" = some restored ∧
      restored.positions = venue.positions ∧ restored.balances = venue.balances := by
  have hsome : (((sampleWorld 0).run (fun _ => 0) sampleSteps).adapters.get? "venue-a").isSome =
      true := by decide +kernel
  obtain ⟨venue, hvenue⟩ := Option.isSome_iff_exists.1 hsome
  obtain ⟨restored, hrestored, hsame⟩ := restart_restores (fun _ => 0) (sampleWorld 0) sampleSteps
    (some "2") (sampleWorld_fresh 0) (by decide +kernel) (by decide +kernel) "venue-a" venue hvenue
  exact ⟨venue, restored, hvenue, hrestored, hsame⟩

/-- The balance of the quote asset and the sizes held at the venue. -/
def holdings (adapters : SimulatedAdapters) : Option (Option Decimal × List Decimal) :=
  (adapters.get? "venue-a").map fun venue =>
    (venue.balances.get? "USDC", venue.positions.entries.map fun e => e.2.size)

/-- A purchase with a fee, and a limit order that is filled when it is asked for: without a limit
on the replay the restart gives back the fee, and forgets the second fill. -/
theorem restart_loses :
    holdings ((sampleWorld (1 / 1000)).run (fun _ => 0)
        [.beginRun "run-1", sampleExecution "order-1" .buy none 1 false 6]).adapters =
      some (some (8999 / 10), [1]) ∧
    holdings (restart (some "0") ((sampleWorld (1 / 1000)).run (fun _ => 0)
        [.beginRun "run-1", sampleExecution "order-1" .buy none 1 false 6]).orders
        (sampleWorld (1 / 1000)).adapters) = some (some 900, [1]) ∧
    holdings ((sampleWorld 0).run (fun _ => 0)
        [.beginRun "run-1", sampleExecution "order-1" .buy (some 100) 1 false 6,
          .venue "venue-a" (.getOrder "venue-a-sim-1")]).adapters = some (some 900, [1]) ∧
    holdings (restart (some "0") ((sampleWorld 0).run (fun _ => 0)
        [.beginRun "run-1", sampleExecution "order-1" .buy (some 100) 1 false 6,
          .venue "venue-a" (.getOrder "venue-a-sim-1")]).orders
        (sampleWorld 0).adapters) = some (some 1000, []) := by
  decide +kernel

end SimulationWorld

end SentinelApex
