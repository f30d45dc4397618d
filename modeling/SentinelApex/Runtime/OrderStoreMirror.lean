import SentinelApex.Execution.Coherence
import SentinelApex.Runtime.OrderStore

/-!
# The order store of the runtime against the in-memory store

A session of the executor in which every call to the store goes to both stores; one of them answers
the executor. The tables hold neither the fills nor the fees of a record, and an update of the
tables does not consult the transition table.
-/

namespace SentinelApex

open Async OrderStatus

/-! ## What a read returns after a write -/

/-- The fields of a record that the two stores are compared by. -/
structure OrderState where
  status : OrderStatus
  filledSize : Decimal
  averageFillPrice : Option Decimal
  fills : List OrderFill
  feesPaid : Option Decimal
  deriving DecidableEq

def OrderRecord.state (record : OrderRecord) : OrderState where
  status := record.status
  filledSize := record.filledSize
  averageFillPrice := record.averageFillPrice
  fills := record.fills
  feesPaid := record.feesPaid

variable {record : OrderRecord}

namespace RuntimeOrderStore

variable (store : RuntimeOrderStore)

/-- A row with this metadata can be written: it names a sleeve, and the run that it names exists. -/
def Persistable (metadata : Metadata) : Prop :=
  (∃ sleeveId, metadata.string? "sleeveId" = some sleeveId ∧ sleeveId ≠ "") ∧
    ∀ runId, metadata.string? "runId" = some runId → runId ∈ store.strategyRuns

theorem string?_persistedMetadata (intent : OrderIntent) {key : String}
    (h : key ∉ marketIdentityKeys) :
    (persistedMetadata intent).string? key = intent.metadata.string? key := by
  unfold Metadata.string? persistedMetadata
  rw [attachCanonicalMarketIdentityToMetadata_get? _ _ h]

theorem persistable_persistedMetadata {intent : OrderIntent}
    (h : store.Persistable intent.metadata) : store.Persistable (persistedMetadata intent) := by
  rw [Persistable, string?_persistedMetadata intent (by decide),
    string?_persistedMetadata intent (by decide)]
  exact h

theorem save_of_persistable (h : store.Persistable record.intent.metadata) (now : Date) :
    ∃ sleeveId, store.save record now = (.ok (), store.upsertOrder record sleeveId now) := by
  obtain ⟨⟨sleeveId, hsleeve, hne⟩, hrun⟩ := h
  have hextract : extractSleeveId record.intent = some sleeveId := by
    simp [extractSleeveId, hsleeve, hne]
  have hknows : store.knowsRun record.intent = true := by
    unfold knowsRun
    rw [string?_persistedMetadata record.intent (by decide)]
    cases hid : record.intent.metadata.string? "runId" with
    | none => rfl
    | some runId => simpa using hrun runId hid
  exact ⟨sleeveId, by simp [save, hextract, hknows]⟩

theorem upsertOrder_fills (record : OrderRecord) (sleeveId : String) (now : Date) :
    (store.upsertOrder record sleeveId now).fills = store.fills := by
  unfold upsertOrder
  split_ifs <;> rfl

theorem upsertOrder_strategyRuns (record : OrderRecord) (sleeveId : String) (now : Date) :
    (store.upsertOrder record sleeveId now).strategyRuns = store.strategyRuns := by
  unfold upsertOrder
  split_ifs <;> rfl

theorem mem_upsertOrder {sleeveId : String} {now : Date} {row : OrderRow}
    (h : row ∈ (store.upsertOrder record sleeveId now).orders) :
    row ∈ store.orders ∨ ∃ id createdAt, row = toRow record sleeveId id createdAt now := by
  unfold upsertOrder at h
  split_ifs at h with hany
  · obtain ⟨old, hold, rfl⟩ := List.mem_map.1 h
    split_ifs
    · exact Or.inr ⟨_, _, rfl⟩
    · exact Or.inl hold
  · rcases List.mem_append.1 h with h | h
    · exact Or.inl h
    · exact Or.inr ⟨_, _, List.mem_singleton.1 h⟩

/-- A selection by key after the rows with key `k` are replaced by rows with this key. -/
theorem find?_replace {α : Type} {key : α → String} {k : String} {f : α → α}
    (hf : ∀ a, key (f a) = k) (k' : String) (l : List α) :
    (l.map fun a => if key a = k then f a else a).find? (fun a => decide (key a = k')) =
      if k' = k then (l.find? fun a => decide (key a = k)).map f
      else l.find? fun a => decide (key a = k') := by
  induction l with
  | nil => simp
  | cons a l ih =>
    rw [List.map_cons, List.find?_cons, List.find?_cons, List.find?_cons]
    by_cases hk' : k' = k
    · subst hk'
      by_cases hk : key a = k'
      · simp [hk, hf]
      · simpa [hk] using ih
    · by_cases hk : key a = k
      · simpa [hk, hf, Ne.symm hk', hk'] using ih
      · simp only [if_neg hk, if_neg hk'] at ih ⊢
        rw [ih]

theorem orderRow_upsertOrder (record : OrderRecord) (sleeveId : String) (now : Date)
    (clientOrderId : String) :
    (clientOrderId = record.intent.intentId →
      ∃ id createdAt, (store.upsertOrder record sleeveId now).orderRow clientOrderId =
        some (toRow record sleeveId id createdAt now)) ∧
    (clientOrderId ≠ record.intent.intentId →
      (store.upsertOrder record sleeveId now).orderRow clientOrderId =
        store.orderRow clientOrderId) := by
  unfold upsertOrder orderRow
  split_ifs with hany
  · rw [find?_replace (f := fun row => toRow record sleeveId row.id row.createdAt now)
      (fun _ => rfl)]
    constructor
    · intro hid
      obtain ⟨row, hrow, hrowId⟩ := List.any_eq_true.1 hany
      have hsome : (store.orders.find? fun row =>
          decide (row.clientOrderId = record.intent.intentId)).isSome :=
        List.find?_isSome.2 ⟨row, hrow, hrowId⟩
      obtain ⟨found, hfound⟩ := Option.isSome_iff_exists.1 hsome
      exact ⟨found.id, found.createdAt, by rw [if_pos hid, hfound]; rfl⟩
    · intro hid
      rw [if_neg hid]
  · have hnone : store.orders.find? (fun row =>
        decide (row.clientOrderId = record.intent.intentId)) = none := by
      rw [List.find?_eq_none]
      intro row hrow hid
      exact hany (List.any_eq_true.2 ⟨row, hrow, hid⟩)
    constructor
    · rintro rfl
      refine ⟨toString store.nextId, now, ?_⟩
      rw [List.find?_append, hnone]
      simp [toRow]
    · intro hid
      rw [List.find?_append]
      simp [toRow, Ne.symm hid]

/-! ## Tables without fills -/

theorem fillRows_of_noFills (h : store.fills = []) (clientOrderId : String) :
    store.fillRows clientOrderId = [] := by
  simp [fillRows, h]

theorem getByClientId_of_noFills (h : store.fills = []) (clientOrderId : String) :
    store.getByClientId clientOrderId =
      (store.orderRow clientOrderId).map fun row => toRecord row [] := by
  rw [getByClientId, store.fillRows_of_noFills h]

theorem toRecord_toRow_state (record : OrderRecord) (sleeveId id : String) (createdAt now : Date)
    (hfills : record.fills = []) (hfees : record.feesPaid = none) :
    (toRecord (toRow record sleeveId id createdAt now) []).state = record.state := by
  simp [OrderRecord.state, toRecord, toRow, hfills, hfees]

end RuntimeOrderStore

/-! ## The two stores side by side -/

/-- Which of the two stores answers the executor. -/
inductive Primary where
  | memory
  | tables
  deriving DecidableEq, Repr

structure MirroredWorld where
  memory : InMemoryOrderStore
  tables : RuntimeOrderStore
  calls : ℕ

/-- Every call to the store goes to both stores; `clock` is what `new Date()` gives the tables. -/
def handleBoth (env : Environment) (clock : ℕ → Date) (primary : Primary) :
    Handler Call Call.Reply String MirroredWorld := fun c w =>
  let next (memory : InMemoryOrderStore) (tables : RuntimeOrderStore) : MirroredWorld :=
    ⟨memory, tables, w.calls + 1⟩
  let same := next w.memory w.tables
  match c with
  | .getByClientId id =>
    (match primary with
      | .memory => .ok (w.memory.getByClientId id)
      | .tables => .ok (w.tables.getByClientId id), same)
  | .save record =>
    let answer := w.tables.save record (clock w.calls)
    (match primary with
      | .memory => .ok ()
      | .tables => answer.1, next (w.memory.save record) answer.2)
  | .updateStatus id status updates =>
    let inMemory := w.memory.updateStatus id status updates
    let inTables := w.tables.updateStatus id status updates (clock w.calls)
    (match primary with
      | .memory => inMemory.1
      | .tables => inTables.1, next inMemory.2 inTables.2)
  | .placeOrder _ => (env.placeOrder w.calls, same)
  | .getOrder _ => (env.getOrder w.calls, same)
  | .cancelOrder _ => (env.cancelOrder w.calls, same)
  | .auditWrite _ => (env.auditWrite w.calls, same)
  | .sleep _ => (.ok (), same)

abbrev MirroredEvent := Event Call Call.Reply String MirroredWorld

/-- Empty stores; the ids of the runs that orders may refer to are given. -/
def emptyStores (strategyRuns : List String) : MirroredWorld where
  memory := OrderedMap.empty
  tables := { orders := [], fills := [], strategyRuns, nextId := 0 }
  calls := 0

def OrderExecutor.mirroredSession (executor : OrderExecutor) (env : Environment)
    (clock : ℕ → Date) (primary : Primary) (strategyRuns : List String)
    (operations : List Operation) : List MirroredEvent :=
  traceAll (handleBoth env clock primary) (operations.map executor.task) (emptyStores strategyRuns)

/-- The stores accept the same update, and afterwards read the same state for every order. -/
def Agree (clock : ℕ → Date) (e : MirroredEvent) : Prop :=
  (∀ id status updates, e.call = .updateStatus id status updates →
    (e.before.memory.updateStatus id status updates).1.isOk =
      (e.before.tables.updateStatus id status updates (clock e.before.calls)).1.isOk) ∧
  ∀ id, (e.after.memory.getByClientId id).map OrderRecord.state =
    (e.after.tables.getByClientId id).map OrderRecord.state

def Call.intent? : Call → Option OrderIntent
  | .save record => some record.intent
  | .updateStatus _ _ updates => updates.intent
  | _ => none

/-- What the in-memory store checks or keeps and the tables do not, and the other way round: a
written intent names a sleeve and a known run, and an update follows the transition table and
carries neither fills nor fees. -/
def Plain (e : MirroredEvent) : Prop :=
  (∀ intent, e.call.intent? = some intent → e.before.tables.Persistable intent.metadata) ∧
  ∀ id status updates, e.call = .updateStatus id status updates →
    (∀ existing, e.before.memory.getByClientId id = some existing →
      existing.status.isValidStatusTransition status = true) ∧
    updates.fills = none ∧ updates.feesPaid.getD none = none

/-- The relation between the two stores: the same orders in the same states, and nothing in the
tables that the in-memory store does not have. -/
structure Mirrors (memory : InMemoryOrderStore) (tables : RuntimeOrderStore) : Prop where
  keyed : memory.Keyed
  noFills : tables.fills = []
  persistable : ∀ row ∈ tables.orders, tables.Persistable row.metadata
  states : ∀ id, (memory.getByClientId id).map OrderRecord.state =
    (tables.getByClientId id).map OrderRecord.state

variable {id : String}

namespace Mirrors

variable {memory : InMemoryOrderStore} {tables : RuntimeOrderStore}

theorem emptyStores (strategyRuns : List String) :
    Mirrors (emptyStores strategyRuns).memory (emptyStores strategyRuns).tables where
  keyed := InMemoryOrderStore.keyed_empty
  noFills := rfl
  persistable row hrow := by cases hrow
  states id := rfl

section

variable (h : Mirrors memory tables)

include h

/-- A record that the tables return: it is under its own id, has neither fills nor fees, and can be
written again. -/
theorem tables_record (hget : tables.getByClientId id = some record) :
    record.intent.intentId = id ∧ record.fills = [] ∧ record.feesPaid = none ∧
      tables.Persistable record.intent.metadata := by
  rw [tables.getByClientId_of_noFills h.noFills] at hget
  obtain ⟨row, hrow, rfl⟩ := Option.map_eq_some_iff.1 hget
  refine ⟨?_, rfl, rfl, h.persistable row (List.mem_of_find?_eq_some hrow)⟩
  simpa [RuntimeOrderStore.toRecord] using List.find?_some hrow

/-- A record of the in-memory store has a counterpart in the tables, in the same state. -/
theorem memory_record (hget : memory.getByClientId id = some record) :
    ∃ record', tables.getByClientId id = some record' ∧ record.state = record'.state := by
  have hstate := h.states id
  rw [hget, Option.map_some] at hstate
  obtain ⟨record', hget', hstate'⟩ := Option.map_eq_some_iff.1 hstate.symm
  exact ⟨record', hget', hstate'.symm⟩

theorem memory_plain (hget : memory.getByClientId id = some record) :
    record.fills = [] ∧ record.feesPaid = none := by
  obtain ⟨record', hget', hstate⟩ := h.memory_record hget
  obtain ⟨-, hfills, hfees, -⟩ := h.tables_record hget'
  exact ⟨(congrArg OrderState.fills hstate).trans hfills,
    (congrArg OrderState.feesPaid hstate).trans hfees⟩

theorem write {m t : OrderRecord} (hm : m.intent.intentId = id) (ht : t.intent.intentId = id)
    (hstate : m.state = t.state) (hfills : t.fills = []) (hfees : t.feesPaid = none)
    (hpersist : tables.Persistable t.intent.metadata) (sleeveId : String) (now : Date) :
    Mirrors (OrderedMap.set memory id m) (tables.upsertOrder t sleeveId now) := by
  have hnone := (tables.upsertOrder_fills t sleeveId now).trans h.noFills
  have hruns := tables.upsertOrder_strategyRuns t sleeveId now
  refine ⟨h.keyed.set hm, hnone, ?_, ?_⟩
  · intro row hrow
    rw [RuntimeOrderStore.Persistable, hruns]
    rcases tables.mem_upsertOrder hrow with hold | ⟨rowId, createdAt, rfl⟩
    · exact h.persistable row hold
    · exact tables.persistable_persistedMetadata hpersist
  · intro id'
    rw [RuntimeOrderStore.getByClientId_of_noFills _ hnone]
    obtain ⟨hwritten, hother⟩ := tables.orderRow_upsertOrder t sleeveId now id'
    by_cases hid : id = id'
    · subst hid
      obtain ⟨rowId, createdAt, hrow⟩ := hwritten ht.symm
      rw [hrow, InMemoryOrderStore.getByClientId, OrderedMap.get?_set_self, Option.map_some,
        Option.map_some, Option.map_some,
        RuntimeOrderStore.toRecord_toRow_state t sleeveId rowId createdAt now hfills hfees, hstate]
    · rw [hother (fun h' => hid (ht.symm.trans h'.symm)),
        ← RuntimeOrderStore.getByClientId_of_noFills _ h.noFills, InMemoryOrderStore.getByClientId,
        OrderedMap.get?_set_of_ne _ hid]
      exact h.states id'

theorem save (hfills : record.fills = []) (hfees : record.feesPaid = none)
    (hpersist : tables.Persistable record.intent.metadata) (now : Date) :
    ∃ tables', tables.save record now = (.ok (), tables') ∧
      Mirrors (memory.save record) tables' := by
  obtain ⟨sleeveId, hsave⟩ := tables.save_of_persistable hpersist now
  exact ⟨_, hsave, h.write rfl rfl rfl hfills hfees hpersist sleeveId now⟩

theorem updateStatus {status : OrderStatus} {updates : OrderUpdates}
    (hid : ∀ intent, updates.intent = some intent → intent.intentId = id)
    (hvalid : ∀ existing, memory.getByClientId id = some existing →
      existing.status.isValidStatusTransition status = true)
    (hfills : updates.fills = none) (hfees : updates.feesPaid.getD none = none)
    (hpersist : ∀ intent, updates.intent = some intent → tables.Persistable intent.metadata)
    (now : Date) :
    (memory.updateStatus id status updates).1.isOk =
        (tables.updateStatus id status updates now).1.isOk ∧
      Mirrors (memory.updateStatus id status updates).2
        (tables.updateStatus id status updates now).2 := by
  cases hget : memory.getByClientId id with
  | none =>
    have hnone : tables.getByClientId id = none := by
      have hstate := h.states id
      rw [hget] at hstate
      simpa using hstate.symm
    have hget' : memory.get? id = none := hget
    simp only [InMemoryOrderStore.updateStatus, RuntimeOrderStore.updateStatus, hget', hnone]
    exact ⟨rfl, h⟩
  | some m =>
    obtain ⟨t, htables, hstate⟩ := h.memory_record hget
    obtain ⟨htid, htfills, htfees, htpersist⟩ := h.tables_record htables
    have hget' : memory.get? id = some m := hget
    have hmid : m.intent.intentId = id := h.keyed id m hget'
    have hmerged : tables.Persistable (t.merge status updates).intent.metadata := by
      cases hi : updates.intent with
      | none => simpa [OrderRecord.merge, hi] using htpersist
      | some intent => simpa [OrderRecord.merge, hi] using hpersist intent hi
    obtain ⟨sleeveId, hsave⟩ := tables.save_of_persistable hmerged now
    simp only [InMemoryOrderStore.updateStatus, RuntimeOrderStore.updateStatus, hget', htables,
      hvalid m hget, if_true, hsave]
    refine ⟨trivial, h.write ?_ ?_ ?_ ?_ ?_ hmerged sleeveId now⟩
    · cases hi : updates.intent with
      | none => simpa [OrderRecord.merge, hi] using hmid
      | some intent => simpa [OrderRecord.merge, hi] using hid intent hi
    · cases hi : updates.intent with
      | none => simpa [OrderRecord.merge, hi] using htid
      | some intent => simpa [OrderRecord.merge, hi] using hid intent hi
    · simp only [OrderRecord.state, OrderState.mk.injEq] at hstate
      obtain ⟨-, hsize, hprice, hfills', hfees'⟩ := hstate
      simp [OrderRecord.state, OrderRecord.merge, hsize, hprice, hfills', hfees']
    · simpa [OrderRecord.merge, hfills] using htfills
    · cases hf : updates.feesPaid with
      | none => simpa [OrderRecord.merge, hf] using htfees
      | some fees => simpa [OrderRecord.merge, hf] using hfees

end

end Mirrors

/-! ## Sessions -/

variable {w : MirroredWorld}

section

variable (env : Environment) (clock : ℕ → Date) (primary : Primary)

/-- A call that is plain and is not a `save` keeps the relation between the stores. -/
theorem agree_of_keepsId {c : Call} (hc : c.KeepsId) (h : Mirrors w.memory w.tables)
    (hplain : Plain ⟨w, c, (handleBoth env clock primary c w).1,
      (handleBoth env clock primary c w).2⟩) :
    Agree clock ⟨w, c, (handleBoth env clock primary c w).1,
        (handleBoth env clock primary c w).2⟩ ∧
      Mirrors (handleBoth env clock primary c w).2.memory
        (handleBoth env clock primary c w).2.tables := by
  cases c with
  | save record => exact hc.elim
  | updateStatus id status updates =>
    obtain ⟨hvalid, hfills, hfees⟩ := hplain.2 id status updates rfl
    obtain ⟨haccept, hmirrors⟩ :=
      h.updateStatus hc hvalid hfills hfees hplain.1 (clock w.calls)
    refine ⟨⟨?_, hmirrors.states⟩, hmirrors⟩
    intro id' status' updates' heq
    cases heq
    exact haccept
  | _ => exact ⟨⟨fun _ _ _ heq => (by cases heq), h.states⟩, h⟩

/-- What an operation guarantees from two stores that mirror each other. -/
abbrev MirrorWp (t : ExecTask OrderRecord) (w : MirroredWorld) : Prop :=
  t.wp (handleBoth env clock primary) Plain (Agree clock)
    (fun _ w' => Mirrors w'.memory w'.tables) w

theorem mirrorWp_of_keepsId {t : ExecTask OrderRecord} (ht : t.Uses Call.KeepsId)
    (hw : Mirrors w.memory w.tables) : MirrorWp env clock primary t w :=
  ht.wp_of_event (I := fun w => Mirrors w.memory w.tables)
    (fun _ _ hc hI hplain => agree_of_keepsId env clock primary hc hI hplain) hw

variable (executor : OrderExecutor)

theorem save_mirrorWp {intent : OrderIntent} (hid : record.intent.intentId = intent.intentId)
    (hfills : record.fills = []) (hfees : record.feesPaid = none) (submitClock : SubmitClock)
    (hw : Mirrors w.memory w.tables) :
    MirrorWp env clock primary (do
      call (.save record)
      executor.submitLoop intent record submitClock 1 executor.config.maxRetries) w := by
  have hsave : Plain ⟨w, .save record, (handleBoth env clock primary (.save record) w).1,
      (handleBoth env clock primary (.save record) w).2⟩ →
      Mirrors (handleBoth env clock primary (.save record) w).2.memory
        (handleBoth env clock primary (.save record) w).2.tables := by
    intro hplain
    obtain ⟨tables', heq, hmirrors⟩ := hw.save hfills hfees (hplain.1 _ rfl) (clock w.calls)
    simp only [handleBoth, heq]
    exact hmirrors
  refine Task.wp_call_bind (fun hplain => ⟨?_, (hsave hplain).states⟩) (fun hplain _ _ => ?_)
    (fun hplain _ _ => hsave hplain)
  · intro id status updates heq
    cases heq
  · exact mirrorWp_of_keepsId env clock primary
      (executor.submitLoop_keepsId hid submitClock _ _) (hsave hplain)

theorem submitIntent_mirrorWp (intent : OrderIntent) (submitClock : SubmitClock)
    (hw : Mirrors w.memory w.tables) :
    MirrorWp env clock primary (executor.submitIntent intent submitClock) w := by
  refine Task.wp_call_bind (fun _ => ⟨fun _ _ _ heq => (by cases heq), hw.states⟩)
    (fun _ existing hr => ?_) (fun _ _ _ => hw)
  cases existing with
  | none => exact save_mirrorWp env clock primary executor rfl rfl rfl submitClock hw
  | some record =>
    have hrecord : record.intent.intentId = intent.intentId ∧ record.fills = [] ∧
        record.feesPaid = none := by
      cases primary with
      | memory =>
        have hget : w.memory.getByClientId intent.intentId = some record := Except.ok.inj hr
        exact ⟨hw.keyed _ _ hget, hw.memory_plain hget⟩
      | tables =>
        have hget : w.tables.getByClientId intent.intentId = some record := Except.ok.inj hr
        obtain ⟨hid, hfills, hfees, -⟩ := hw.tables_record hget
        exact ⟨hid, hfills, hfees⟩
    obtain ⟨hid, hfills, hfees⟩ := hrecord
    dsimp only
    split_ifs
    · exact hw
    · exact save_mirrorWp env clock primary executor hid hfills hfees submitClock hw

theorem task_mirrorWp (operation : Operation) (hw : Mirrors w.memory w.tables) :
    MirrorWp env clock primary (executor.task operation) w := by
  cases operation with
  | submitIntent intent submitClock =>
    exact submitIntent_mirrorWp env clock primary executor intent submitClock hw
  | pollOrderStatus id now =>
    exact mirrorWp_of_keepsId env clock primary (OrderExecutor.pollOrderStatus_keepsId id now) hw
  | cancelOrder id now =>
    exact mirrorWp_of_keepsId env clock primary (OrderExecutor.cancelOrder_keepsId id now) hw
  | processFill id fill now =>
    exact mirrorWp_of_keepsId env clock primary (OrderExecutor.processFill_keepsId id fill now) hw

end

/-- In every session whose calls are all plain, whichever store answers the executor, the stores
accept the same updates and read the same order states after every call. -/
theorem OrderExecutor.mirrored_agrees (executor : OrderExecutor) (env : Environment)
    (clock : ℕ → Date) (primary : Primary) (strategyRuns : List String)
    (operations : List Operation)
    (hplain : ∀ e ∈ executor.mirroredSession env clock primary strategyRuns operations, Plain e) :
    ∀ e ∈ executor.mirroredSession env clock primary strategyRuns operations, Agree clock e := by
  refine traceAll_forall_of_wp (handleBoth env clock primary)
    (I := fun w => Mirrors w.memory w.tables) ?_ (Mirrors.emptyStores strategyRuns) hplain
  intro t ht w hw
  obtain ⟨operation, -, rfl⟩ := List.mem_map.1 ht
  exact task_mirrorWp env clock primary executor operation hw

/-! ## Samples -/

def sampleSleeveIntent : OrderIntent :=
  { sampleIntent with metadata := OrderedMap.ofList [("sleeveId", .str "carry")] }

/-- A venue that accepts the order without fees, reports it filled when it is polled, and accepts
cancellations. -/
def sampleFreeEnvironment : Environment where
  placeOrder _ := .ok { samplePlacement .submitted 0 with fees := none }
  getOrder _ := .ok (some (samplePlacement .filled 2))
  cancelOrder _ := .ok { venueOrderId := "venue-order-1", cancelled := true }
  auditWrite _ := .ok ()

def sampleMirroredSession (operations : List Operation) : List MirroredEvent :=
  sampleExecutor.mirroredSession sampleFreeEnvironment (fun _ => 0) .tables [] operations

/-- The stores read the same state for the order after the event. -/
def agreesAt (id : String) (e : MirroredEvent) : Bool :=
  decide ((e.after.memory.getByClientId id).map OrderRecord.state =
    (e.after.tables.getByClientId id).map OrderRecord.state)

theorem not_agree_of_agreesAt {events : List MirroredEvent} (id : String)
    (h : events.all (agreesAt id) = false) : ¬ ∀ e ∈ events, Agree (fun _ => 0) e := by
  intro hagree
  rw [List.all_eq_false] at h
  obtain ⟨e, he, hid⟩ := h
  exact hid (decide_eq_true ((hagree e he).2 id))

/-- `Plain` as a check of one event. -/
def isPlain (e : MirroredEvent) : Bool :=
  (e.call.intent?.all fun intent =>
    (intent.metadata.string? "sleeveId").any (fun sleeveId => decide (sleeveId ≠ "")) &&
      (intent.metadata.string? "runId").all
        fun runId => decide (runId ∈ e.before.tables.strategyRuns)) &&
  match e.call with
  | .updateStatus id status updates =>
    ((e.before.memory.getByClientId id).all
      fun existing => existing.status.isValidStatusTransition status) &&
      updates.fills.isNone && (updates.feesPaid.getD none).isNone
  | _ => true

theorem plain_of_isPlain {e : MirroredEvent} (h : isPlain e = true) : Plain e := by
  obtain ⟨hintent, hupdate⟩ := (Bool.and_eq_true_iff).1 h
  constructor
  · intro intent heq
    rw [heq, Option.all_some, Bool.and_eq_true_iff] at hintent
    obtain ⟨hsleeve, hrun⟩ := hintent
    refine ⟨by simpa [Option.any_eq_true] using hsleeve, fun runId hid => ?_⟩
    simpa [hid] using hrun
  · intro id status updates heq
    simp only [heq, Bool.and_eq_true_iff] at hupdate
    obtain ⟨⟨hvalid, hfills⟩, hfees⟩ := hupdate
    refine ⟨fun existing hget => ?_, by simpa using hfills, by simpa using hfees⟩
    simpa [hget] using hvalid

/-- An order that is accepted and then cancelled. -/
theorem mirrored_agrees_cancelled_order :
    ((sampleMirroredSession [.submitIntent sampleSleeveIntent stoppedClock,
      .cancelOrder "order-1" 0]).getLast?.bind fun e =>
        (e.after.tables.getByClientId "order-1").map fun record => record.status) =
      some .cancelled ∧
    ∀ e ∈ sampleMirroredSession [.submitIntent sampleSleeveIntent stoppedClock,
      .cancelOrder "order-1" 0], Agree (fun _ => 0) e :=
  ⟨by decide +kernel,
    sampleExecutor.mirrored_agrees sampleFreeEnvironment (fun _ => 0) .tables []
      [.submitIntent sampleSleeveIntent stoppedClock, .cancelOrder "order-1" 0]
      fun e he => plain_of_isPlain (List.all_eq_true.1
        (show (sampleMirroredSession [.submitIntent sampleSleeveIntent stoppedClock,
          .cancelOrder "order-1" 0]).all isPlain = true by decide +kernel) e he)⟩

/-- A fill that is processed is not stored in the tables; and a cancelled order that the venue
reports filled becomes filled in the tables, while the in-memory store refuses the update. -/
theorem mirrored_disagrees :
    (¬ ∀ e ∈ sampleMirroredSession [.submitIntent sampleSleeveIntent stoppedClock,
        .processFill "order-1" OrderExecutor.sampleFill 0], Agree (fun _ => 0) e) ∧
    ¬ ∀ e ∈ sampleMirroredSession [.submitIntent sampleSleeveIntent stoppedClock,
        .cancelOrder "order-1" 0, .pollOrderStatus "order-1" 0], Agree (fun _ => 0) e :=
  ⟨not_agree_of_agreesAt "order-1" (by decide +kernel),
    not_agree_of_agreesAt "order-1" (by decide +kernel)⟩

end SentinelApex
