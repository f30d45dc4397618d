import SentinelApex.Runtime.CarryExecution

/-!
# Submitting one order

What `submitIntent` without retries does to the order tables while the store works. A venue answer
moves the record to the status that it stands for (`nextStatus`), unless a record with a status that
is final for the executor is there already; an order whose row cannot be written is refused
(`submitIntent_settles`).
-/

namespace SentinelApex

open Async

namespace RuntimeOrderStore

variable (store : RuntimeOrderStore)

def statusOf (clientOrderId : String) : Option OrderStatus :=
  (store.orderRow clientOrderId).map fun row => row.status

instance decidablePersistable (metadata : Metadata) : Decidable (store.Persistable metadata) :=
  decidable_of_iff
    (((metadata.string? "sleeveId").any fun sleeveId => decide (sleeveId ≠ "")) = true ∧
      ((metadata.string? "runId").all fun runId => decide (runId ∈ store.strategyRuns)) = true) (by
    simp [Persistable, Option.any_eq_true, Option.all_eq_true])

def IsOpen (status : OrderStatus) : Prop := status = .pending ∨ status = .failed

instance (status : OrderStatus) : Decidable (IsOpen status) :=
  inferInstanceAs (Decidable (_ ∨ _))

/-- The row that a submission writes can be written, if it writes one. -/
def Submittable (intentId : String) (metadata : Metadata) : Prop :=
  match store.orderRow intentId with
  | none => store.Persistable metadata
  | some row => IsOpen row.status → store.Persistable row.metadata

instance (intentId : String) (metadata : Metadata) :
    Decidable (store.Submittable intentId metadata) := by
  unfold Submittable
  cases store.orderRow intentId <;> exact inferInstance

/-- The row of the order has the status, and can be written again while the order is open; the other
rows are as they were. -/
structure Settled (store store' : RuntimeOrderStore) (id : String) (status : OrderStatus) :
    Prop where
  row : ∃ row, store'.orderRow id = some row ∧ row.status = status ∧
    (IsOpen status → store'.Persistable row.metadata)
  others : ∀ id', id' ≠ id → store'.orderRow id' = store.orderRow id'
  runs : store'.strategyRuns = store.strategyRuns

structure Written (store store' : RuntimeOrderStore) (id : String) (status : OrderStatus) :
    Prop where
  row : ∃ row, store'.orderRow id = some row ∧ row.status = status ∧
    store'.Persistable row.metadata
  others : ∀ id', id' ≠ id → store'.orderRow id' = store.orderRow id'
  runs : store'.strategyRuns = store.strategyRuns

variable {store} {store' store'' : RuntimeOrderStore} {id : String} {status status' : OrderStatus}

theorem Written.settled (h : Written store store' id status) : Settled store store' id status where
  row := by
    obtain ⟨row, hrow, hstatus, hpersist⟩ := h.row
    exact ⟨row, hrow, hstatus, fun _ => hpersist⟩
  others := h.others
  runs := h.runs

theorem Written.trans (h : Written store store' id status)
    (h' : Written store' store'' id status') : Written store store'' id status' where
  row := h'.row
  others id' hid := (h'.others id' hid).trans (h.others id' hid)
  runs := h'.runs.trans h.runs

theorem Settled.statusOf_self (h : Settled store store' id status) :
    store'.statusOf id = some status := by
  obtain ⟨row, hrow, hstatus, -⟩ := h.row
  simp [statusOf, hrow, hstatus]

theorem Settled.statusOf_ne (h : Settled store store' id status) {id' : String} (hid : id' ≠ id) :
    store'.statusOf id' = store.statusOf id' := by
  rw [statusOf, statusOf, h.others id' hid]

theorem persistable_congr (hruns : store'.strategyRuns = store.strategyRuns)
    (metadata : Metadata) : store'.Persistable metadata ↔ store.Persistable metadata := by
  rw [Persistable, Persistable, hruns]

theorem Settled.submittable_self (h : Settled store store' id status) (metadata : Metadata) :
    store'.Submittable id metadata := by
  obtain ⟨row, hrow, hstatus, hpersist⟩ := h.row
  simp only [Submittable, hrow]
  rw [hstatus]
  exact hpersist

theorem Settled.submittable_ne (h : Settled store store' id status) {id' : String}
    (hid : id' ≠ id) (metadata : Metadata) :
    store'.Submittable id' metadata ↔ store.Submittable id' metadata := by
  unfold Submittable
  rw [h.others id' hid]
  cases store.orderRow id' with
  | none => exact persistable_congr h.runs metadata
  | some row =>
    dsimp only
    rw [persistable_congr h.runs]

def SameOrders (store store' : RuntimeOrderStore) : Prop :=
  store'.orders = store.orders ∧ store'.strategyRuns = store.strategyRuns

theorem Settled.of_same {store : RuntimeOrderStore} (h : Settled store store' id status)
    (hsame : SameOrders store' store'') :
    Settled store store'' id status := by
  have hrow (id : String) : store''.orderRow id = store'.orderRow id := by
    rw [orderRow, orderRow, hsame.1]
  obtain ⟨row, hid, hstatus, hpersist⟩ := h.row
  refine ⟨⟨row, (hrow id).trans hid, hstatus, fun hopen => ?_⟩,
    fun id' hne => (hrow id').trans (h.others id' hne), hsame.2.trans h.runs⟩
  exact (persistable_congr hsame.2 _).2 (hpersist hopen)

variable {record : OrderRecord}

theorem written_save (h : store.Persistable record.intent.metadata) (now : Date) :
    ∃ store', store.save record now = (.ok (), store') ∧
      Written store store' record.intent.intentId record.status := by
  obtain ⟨sleeveId, hsave⟩ := store.save_of_persistable h now
  have hruns := store.upsertOrder_strategyRuns record sleeveId now
  refine ⟨_, hsave, ?_, ?_, hruns⟩
  · obtain ⟨rowId, createdAt, hrow⟩ :=
      (store.orderRow_upsertOrder record sleeveId now record.intent.intentId).1 rfl
    refine ⟨_, hrow, rfl, ?_⟩
    rw [persistable_congr hruns]
    exact store.persistable_persistedMetadata h
  · intro id' hid
    exact (store.orderRow_upsertOrder record sleeveId now id').2 hid

theorem save_of_not_persistable (h : ¬ store.Persistable record.intent.metadata) (now : Date) :
    ∃ message, store.save record now = (.error message, store) := by
  unfold save
  cases hsleeve : extractSleeveId record.intent with
  | none => exact ⟨_, rfl⟩
  | some sleeveId =>
    dsimp only
    split_ifs with hruns
    · refine absurd ⟨⟨sleeveId, ?_, ?_⟩, ?_⟩ h
      · exact (Option.filter_eq_some_iff.1 hsleeve).1
      · simpa using (Option.filter_eq_some_iff.1 hsleeve).2
      · intro runId hrun
        rw [knowsRun, string?_persistedMetadata record.intent (by decide), hrun] at hruns
        simpa using hruns
    · exact ⟨_, rfl⟩

theorem clientOrderId_of_orderRow {row : OrderRow} (h : store.orderRow id = some row) :
    row.clientOrderId = id := by
  simpa using List.find?_some h

theorem getByClientId_of_orderRow {row : OrderRow} (h : store.orderRow id = some row) :
    store.getByClientId id = some (toRecord row (store.fillRows id)) := by
  simp [getByClientId, h]

theorem intent_merge (status : OrderStatus) {updates : OrderUpdates} {row : OrderRow}
    (hrow : store.orderRow id = some row) (hpersist : store.Persistable row.metadata)
    (hintent : ∀ intent, updates.intent = some intent →
      intent.intentId = id ∧ store.Persistable intent.metadata) :
    ((toRecord row (store.fillRows id)).merge status updates).intent.intentId = id ∧
      store.Persistable
        ((toRecord row (store.fillRows id)).merge status updates).intent.metadata := by
  have hid := clientOrderId_of_orderRow hrow
  cases hi : updates.intent with
  | none => simpa [OrderRecord.merge, hi, toRecord] using ⟨hid, hpersist⟩
  | some intent => simpa [OrderRecord.merge, hi] using hintent intent hi

theorem written_updateStatus (status : OrderStatus) {updates : OrderUpdates}
    (hrow : ∃ row, store.orderRow id = some row ∧ store.Persistable row.metadata)
    (hintent : ∀ intent, updates.intent = some intent →
      intent.intentId = id ∧ store.Persistable intent.metadata) (now : Date) :
    ∃ store', store.updateStatus id status updates now = (.ok (), store') ∧
      Written store store' id status := by
  obtain ⟨row, hrow, hpersist⟩ := hrow
  have hmerged := intent_merge status hrow hpersist hintent
  simp only [updateStatus, getByClientId_of_orderRow hrow]
  obtain ⟨store', hsave, hwritten⟩ := written_save hmerged.2 now
  rw [hmerged.1] at hwritten
  exact ⟨store', hsave, hwritten⟩

end RuntimeOrderStore

/-- The status that a placement gives an order; an exception of the venue fails it. -/
def answeredStatus : Except String PlaceOrderResult → OrderStatus
  | .ok result => OrderExecutor.placedStatus result.status
  | .error _ => .failed

/-- The status of an order after it is submitted, given what the venue would answer. -/
def nextStatus (status : Option OrderStatus) (answer : Except String PlaceOrderResult) :
    OrderStatus :=
  match status with
  | none => answeredStatus answer
  | some status => if RuntimeOrderStore.IsOpen status then answeredStatus answer else status

/-- The order tables and the number of calls. -/
structure OrderDesk where
  orders : RuntimeOrderStore
  calls : ℕ

def handleDesk (env : CarryEnvironment) (step : ℕ) :
    Handler Call Call.Reply String OrderDesk := fun c d =>
  let answer := orderCall env step d.calls d.orders c
  (answer.1, ⟨answer.2, d.calls + 1⟩)

variable {d : OrderDesk}

section

open RuntimeOrderStore

variable (env : CarryEnvironment) (step : ℕ)

variable (executor : OrderExecutor) (intent : OrderIntent) (record : OrderRecord)
  (clock : SubmitClock)

theorem persistable_executorMetadata {store : RuntimeOrderStore} {metadata : Metadata}
    (h : store.Persistable metadata) (identity : CanonicalMarketIdentity)
    (result : PlaceOrderResult) :
    store.Persistable (executor.persistedMetadata metadata identity result) := by
  have hget (key : String) (hkey : key ∉ marketIdentityKeys)
      (hreference : venueExecutionReferenceMetadataKey ≠ key)
      (hmode : venueExecutionModeMetadataKey ≠ key) :
      (executor.persistedMetadata metadata identity result).string? key =
        metadata.string? key := by
    unfold Metadata.string? OrderExecutor.persistedMetadata
    rw [Metadata.get?_setSome_of_ne _ hmode, Metadata.get?_setSome_of_ne _ hreference,
      attachCanonicalMarketIdentityToMetadata_get? _ _ hkey]
  rw [Persistable, hget "sleeveId" (by decide) (by decide) (by decide),
    hget "runId" (by decide) (by decide) (by decide)]
  exact h

theorem handleDesk_updateStatus {id : String} (status : OrderStatus) (updates : OrderUpdates)
    (hrow : ∃ row, d.orders.orderRow id = some row ∧ d.orders.Persistable row.metadata)
    (hintent : ∀ intent, updates.intent = some intent →
      intent.intentId = id ∧ d.orders.Persistable intent.metadata) :
    ∃ orders', handleDesk env step (.updateStatus id status updates) d =
        (.ok (), ⟨orders', d.calls + 1⟩) ∧ Written d.orders orders' id status := by
  obtain ⟨orders', hupdate, hwritten⟩ :=
    written_updateStatus status hrow hintent (env.clock d.calls)
  exact ⟨orders', by simp [handleDesk, orderCall, hupdate], hwritten⟩

theorem run_finalRecord {id : String} {row : OrderRow} (hrow : d.orders.orderRow id = some row)
    (record : OrderRecord) :
    ∃ result, (call (.getByClientId id) >>= fun final =>
      (pure (final.getD record) : ExecTask OrderRecord)).run (handleDesk env step) d =
        (.ok result, ⟨d.orders, d.calls + 1⟩) := by
  have hread : handleDesk env step (.getByClientId id) d =
      (.ok (some (toRecord row (d.orders.fillRows id))), ⟨d.orders, d.calls + 1⟩) := by
    simp [handleDesk, orderCall, getByClientId_of_orderRow hrow]
  exact ⟨_, Task.run_call_bind_of_eq _ hread⟩

theorem attemptSubmit_settles (attempt : ℕ) (hid : record.intent.intentId = intent.intentId)
    (hrecord : d.orders.Persistable record.intent.metadata)
    (hrow : ∃ row, d.orders.orderRow intent.intentId = some row ∧ d.orders.Persistable row.metadata) :
    (∀ result, env.placeOrder step = .ok result →
      ∃ final d', (executor.attemptSubmit intent record clock attempt).run
          (handleDesk env step) d = (.ok final, d') ∧
        Written d.orders d'.orders intent.intentId (OrderExecutor.placedStatus result.status)) ∧
    ∀ message, env.placeOrder step = .error message →
      ∃ d', (executor.attemptSubmit intent record clock attempt).run
          (handleDesk env step) d = (.error message, d') ∧
        Written d.orders d'.orders intent.intentId .submitted := by
  obtain ⟨orders₁, hsubmitted, hwritten₁⟩ := handleDesk_updateStatus env step (d := d) .submitted
    { submittedAt := some (some (clock.submittedAt attempt)), attemptCount := some attempt }
    hrow (by rintro _ ⟨⟩)
  unfold OrderExecutor.attemptSubmit
  rw [Task.run_call_bind_of_eq _ hsubmitted]
  constructor
  · intro result hresult
    have hplace : handleDesk env step
        (.placeOrder (OrderExecutor.placeOrderParams intent
          (OrderExecutor.runtimeOrderIdentity record.intent))) ⟨orders₁, d.calls + 1⟩ =
        (.ok result, ⟨orders₁, d.calls + 1 + 1⟩) := by
      simp [handleDesk, orderCall, hresult]
    obtain ⟨row₁, hrow₁, -, hpersist₁⟩ := hwritten₁.row
    obtain ⟨orders₂, hupdate, hwritten₂⟩ := handleDesk_updateStatus env step
      (d := ⟨orders₁, d.calls + 1 + 1⟩) (OrderExecutor.placedStatus result.status)
      (executor.placedUpdates record (OrderExecutor.runtimeOrderIdentity record.intent) result
        (clock.completedAt attempt)) ⟨row₁, hrow₁, hpersist₁⟩ (by
      rintro _ ⟨⟩
      refine ⟨hid, persistable_executorMetadata executor ?_ _ _⟩
      exact (persistable_congr hwritten₁.runs _).2 hrecord)
    obtain ⟨row₂, hrow₂, -⟩ := hwritten₂.row
    obtain ⟨final, hfinal⟩ := run_finalRecord env step (d := ⟨orders₂, d.calls + 1 + 1 + 1 + 1⟩)
      hrow₂ record
    refine ⟨final, ⟨orders₂, d.calls + 1 + 1 + 1 + 1 + 1⟩, ?_, hwritten₁.trans hwritten₂⟩
    rw [Task.run_call_bind_of_eq _ hplace, OrderExecutor.recordPlacement,
      Task.run_call_bind_of_eq _ hupdate]
    exact hfinal
  · intro message hmessage
    have hplace : handleDesk env step
        (.placeOrder (OrderExecutor.placeOrderParams intent
          (OrderExecutor.runtimeOrderIdentity record.intent))) ⟨orders₁, d.calls + 1⟩ =
        (.error message, ⟨orders₁, d.calls + 1 + 1⟩) := by
      simp [handleDesk, orderCall, hmessage]
    refine ⟨⟨orders₁, d.calls + 1 + 1⟩, ?_, hwritten₁⟩
    rw [Task.run_call_bind, hplace]

theorem submitLoop_settles (hid : record.intent.intentId = intent.intentId)
    (hrecord : d.orders.Persistable record.intent.metadata)
    (hrow : ∃ row, d.orders.orderRow intent.intentId = some row ∧ d.orders.Persistable row.metadata) :
    ∃ final d', (executor.submitLoop intent record clock 1 0).run (handleDesk env step) d =
        (.ok final, d') ∧
      Written d.orders d'.orders intent.intentId (answeredStatus (env.placeOrder step)) := by
  obtain ⟨hanswered, hthrown⟩ :=
    attemptSubmit_settles env step executor intent record clock 1 hid hrecord hrow
  unfold OrderExecutor.submitLoop
  rw [Task.run_tryCatch]
  cases hplace : env.placeOrder step with
  | ok result =>
    obtain ⟨final, d', hrun, hwritten⟩ := hanswered result hplace
    exact ⟨final, d', by rw [hrun], hwritten⟩
  | error message =>
    obtain ⟨d₁, hrun, hwritten₁⟩ := hthrown message hplace
    obtain ⟨row₁, hrow₁, -, hpersist₁⟩ := hwritten₁.row
    obtain ⟨orders₂, hupdate, hwritten₂⟩ := handleDesk_updateStatus env step (d := d₁) .failed
      { lastError := some (some message), completedAt := some (some (clock.failedAt 1)) }
      ⟨row₁, hrow₁, hpersist₁⟩ (by rintro _ ⟨⟩)
    obtain ⟨row₂, hrow₂, -⟩ := hwritten₂.row
    obtain ⟨final, hfinal⟩ := run_finalRecord env step (d := ⟨orders₂, d₁.calls + 1⟩) hrow₂ record
    refine ⟨final, ⟨orders₂, d₁.calls + 1 + 1⟩, ?_, hwritten₁.trans hwritten₂⟩
    rw [hrun]
    dsimp only
    rw [Task.run_call_bind_of_eq _ hupdate]
    exact hfinal

theorem save_submitLoop_settles (hid : record.intent.intentId = intent.intentId) :
    (d.orders.Persistable record.intent.metadata →
      ∃ final d', (do
          call (.save record)
          executor.submitLoop intent record clock 1 0).run (handleDesk env step) d =
            (.ok final, d') ∧
        Written d.orders d'.orders intent.intentId (answeredStatus (env.placeOrder step))) ∧
    (¬ d.orders.Persistable record.intent.metadata →
      ∃ message, ((do
          call (.save record)
          executor.submitLoop intent record clock 1 0).run (handleDesk env step) d).1 =
            .error message) := by
  constructor
  · intro hpersist
    obtain ⟨orders₁, hsave, hwritten₁⟩ := written_save hpersist (env.clock d.calls)
    have hcall : handleDesk env step (.save record) d = (.ok (), ⟨orders₁, d.calls + 1⟩) := by
      simp [handleDesk, orderCall, hsave]
    rw [hid] at hwritten₁
    obtain ⟨row₁, hrow₁, -, hpersist₁⟩ := hwritten₁.row
    obtain ⟨final, d', hrun, hwritten₂⟩ := submitLoop_settles env step executor intent record clock
      (d := ⟨orders₁, d.calls + 1⟩) hid ((persistable_congr hwritten₁.runs _).2 hpersist)
      ⟨row₁, hrow₁, hpersist₁⟩
    refine ⟨final, d', ?_, hwritten₁.trans hwritten₂⟩
    rw [Task.run_call_bind_of_eq _ hcall]
    exact hrun
  · intro hpersist
    obtain ⟨message, hsave⟩ := save_of_not_persistable hpersist (env.clock d.calls)
    have hcall : handleDesk env step (.save record) d =
        (.error message, ⟨d.orders, d.calls + 1⟩) := by
      simp [handleDesk, orderCall, hsave]
    refine ⟨message, ?_⟩
    rw [Task.run_call_bind, hcall]

/-- An order whose row can be written ends in the status that the record had or that the venue
answers; otherwise the submission throws. -/
theorem submitIntent_settles (venueId : String) (intent : OrderIntent) (clock : SubmitClock)
    (d : OrderDesk) :
    (d.orders.Submittable intent.intentId intent.metadata →
      ∃ record d', ((carryExecutor venueId).submitIntent intent clock).run (handleDesk env step) d =
          (.ok record, d') ∧
        Settled d.orders d'.orders intent.intentId
          (nextStatus (d.orders.statusOf intent.intentId) (env.placeOrder step))) ∧
    (¬ d.orders.Submittable intent.intentId intent.metadata →
      ∃ message, (((carryExecutor venueId).submitIntent intent clock).run
        (handleDesk env step) d).1 = .error message) := by
  have hread : handleDesk env step (.getByClientId intent.intentId) d =
      (.ok (d.orders.getByClientId intent.intentId), ⟨d.orders, d.calls + 1⟩) := rfl
  unfold OrderExecutor.submitIntent
  rw [Task.run_call_bind_of_eq _ hread]
  cases hrow : d.orders.orderRow intent.intentId with
  | none =>
    obtain ⟨hsaved, hrefused⟩ := save_submitLoop_settles env step (carryExecutor venueId) intent
      (OrderRecord.create intent) clock (d := ⟨d.orders, d.calls + 1⟩) rfl
    simp only [Submittable, hrow, getByClientId, statusOf, Option.map_none]
    refine ⟨fun hpersist => ?_, hrefused⟩
    obtain ⟨final, d', hrun, hwritten⟩ := hsaved hpersist
    exact ⟨final, d', hrun, hwritten.settled⟩
  | some row =>
    have hid := clientOrderId_of_orderRow hrow
    simp only [Submittable, hrow, getByClientId_of_orderRow hrow, statusOf, Option.map_some,
      nextStatus]
    set record := toRecord row (d.orders.fillRows intent.intentId)
    have hstatus : record.status = row.status := rfl
    by_cases hopen : IsOpen row.status
    · have hagain : ¬ (record.status ≠ .pending ∧ record.status ≠ .failed) := by
        rw [hstatus]
        rcases hopen with h | h <;> simp [h]
      obtain ⟨hsaved, hrefused⟩ := save_submitLoop_settles env step (carryExecutor venueId) intent
        record clock (d := ⟨d.orders, d.calls + 1⟩) hid
      simp only [if_neg hagain, hopen, if_true, true_imp_iff]
      refine ⟨fun hpersist => ?_, hrefused⟩
      obtain ⟨final, d', hrun, hwritten⟩ := hsaved hpersist
      exact ⟨final, d', hrun, hwritten.settled⟩
    · have hfinal : record.status ≠ .pending ∧ record.status ≠ .failed := by
        rw [hstatus]
        exact not_or.1 hopen
      simp only [if_pos hfinal, hopen, if_false, false_imp_iff, not_true_eq_false,
        true_imp_iff, and_true]
      exact ⟨record, _, rfl, ⟨row, hrow, rfl, fun h => absurd h hopen⟩, fun _ _ => rfl, rfl⟩

end

end SentinelApex
