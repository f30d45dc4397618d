import SentinelApex.Execution.Session

/-!
# Terminal orders stay terminal

The transition table has no transition out of `filled`, `cancelled` and `expired`, but `save`
overwrites a record without consulting it. That `save` does not undo a terminal status rests on
the guard of `submitIntent`, which saves only what it has just read as `pending` or `failed`, and on
every record being stored under the id of its own intent.
-/

namespace SentinelApex

open Async OrderStatus

/-- Every terminal record of the first store has the same status in the second. -/
def KeepsTerminal (store store' : InMemoryOrderStore) : Prop :=
  ∀ id record, store.get? id = some record → record.status ∈ terminalOrderStatuses →
    ∃ record', store'.get? id = some record' ∧ record'.status = record.status

theorem KeepsTerminal.refl (store : InMemoryOrderStore) : KeepsTerminal store store :=
  fun _ record h _ => ⟨record, h, rfl⟩

theorem KeepsTerminal.trans {store store' store'' : InMemoryOrderStore}
    (h : KeepsTerminal store store') (h' : KeepsTerminal store' store'') :
    KeepsTerminal store store'' := by
  intro id record hget hterm
  obtain ⟨record', hget', hstatus⟩ := h id record hget hterm
  obtain ⟨record'', hget'', hstatus'⟩ := h' id record' hget' (hstatus ▸ hterm)
  exact ⟨record'', hget'', hstatus'.trans hstatus⟩

variable {record : OrderRecord}

theorem KeepsTerminal.set {store : InMemoryOrderStore} {id : String}
    (h : ∀ existing, store.get? id = some existing → existing.status ∈ terminalOrderStatuses →
      record.status = existing.status) : KeepsTerminal store (OrderedMap.set store id record) := by
  intro id' existing hget hterm
  by_cases hid : id = id'
  · subst hid
    exact ⟨record, store.get?_set_self id record, h existing hget hterm⟩
  · exact ⟨existing, by rw [store.get?_set_of_ne hid, hget], rfl⟩

/-- Successive worlds, compared by their terminal records. -/
instance : IsPreorder World fun w w' => KeepsTerminal w.store w'.store where
  refl w := KeepsTerminal.refl w.store
  trans _ _ _ := KeepsTerminal.trans

/-- The call is not a `save`, and an update does not change the id of the intent. -/
def Call.KeepsId : Call → Prop
  | .save _ => False
  | .updateStatus id _ updates => ∀ intent, updates.intent = some intent → intent.intentId = id
  | _ => True

theorem Call.keepsId_of_not_isWrite (c : Call) (h : c.isWrite = false) : c.KeepsId := by
  cases c with
  | save record | updateStatus id status updates => cases h
  | _ => trivial

/-- What holds of each call of a session: terminal records are kept, and an update that throws
leaves the store as it was. -/
def TerminalSafe (e : ExecEvent) : Prop :=
  KeepsTerminal e.before.store e.after.store ∧
    ∀ id status updates, e.call = .updateStatus id status updates → e.threw = true →
      e.after.store = e.before.store

variable {w : World}

section

variable (env : Environment)

theorem terminalSafe_of_not_isWrite {c : Call} (hc : c.isWrite = false) (w : World) :
    TerminalSafe ⟨w, c, (handle env reliable c w).1, (handle env reliable c w).2⟩ := by
  have hstore := handle_store_of_not_isWrite env reliable hc w
  refine ⟨?_, fun _ _ _ _ _ => hstore⟩
  show KeepsTerminal w.store (handle env reliable c w).2.store
  rw [hstore]
  exact KeepsTerminal.refl w.store

theorem terminalSafe_updateStatus (id : String) (status : OrderStatus) (updates : OrderUpdates)
    (w : World) :
    TerminalSafe ⟨w, .updateStatus id status updates,
      (handle env reliable (.updateStatus id status updates) w).1,
      (handle env reliable (.updateStatus id status updates) w).2⟩ := by
  simp only [TerminalSafe, handle, reliable, faultyUpdate, World.next_store]
  rcases w.store.updateStatus_cases id status updates with
    ⟨message, h⟩ | ⟨existing, hget, hvalid, h⟩
  · rw [h]
    exact ⟨KeepsTerminal.refl w.store, fun _ _ _ _ _ => rfl⟩
  · rw [h]
    refine ⟨KeepsTerminal.set fun existing' hget' hterm => ?_, fun _ _ _ _ hthrew => ?_⟩
    · obtain rfl : existing = existing' := Option.some.inj (hget.symm.trans hget')
      exact isValidStatusTransition_terminal hterm hvalid
    · cases hthrew

theorem keyed_updateStatus {id : String} {status : OrderStatus} {updates : OrderUpdates}
    (hid : ∀ intent, updates.intent = some intent → intent.intentId = id) (hw : w.store.Keyed) :
    (handle env reliable (.updateStatus id status updates) w).2.store.Keyed := by
  rcases handle_updateStatus_cases env reliable id status updates w with
    ⟨-, hstore⟩ | ⟨existing, hget, -, hstore⟩
  · rwa [hstore]
  · rw [hstore]
    apply hw.set
    cases hi : updates.intent with
    | none => simpa [OrderRecord.merge, hi] using hw id existing hget
    | some intent => simpa [OrderRecord.merge, hi] using hid intent hi

theorem terminalSafe_of_keepsId (c : Call) (w : World) (hc : c.KeepsId) (hw : w.store.Keyed) :
    TerminalSafe ⟨w, c, (handle env reliable c w).1, (handle env reliable c w).2⟩ ∧
      (handle env reliable c w).2.store.Keyed := by
  by_cases hwrite : c.isWrite = false
  · refine ⟨terminalSafe_of_not_isWrite env hwrite w, ?_⟩
    rwa [handle_store_of_not_isWrite env reliable hwrite w]
  · cases c with
    | save record => exact absurd hc id
    | updateStatus id status updates =>
      exact ⟨terminalSafe_updateStatus env id status updates w, keyed_updateStatus env hc hw⟩
    | _ => exact absurd rfl hwrite

end

variable {intent : OrderIntent}

namespace OrderExecutor

variable (executor : OrderExecutor)

theorem attemptSubmit_keepsId (hid : record.intent.intentId = intent.intentId) (clock : SubmitClock)
    (attempt : ℕ) : (executor.attemptSubmit intent record clock attempt).Uses Call.KeepsId := by
  refine Task.Uses.call_bind (fun _ h => by cases h) fun _ => ?_
  refine Task.Uses.call_bind trivial fun result => ?_
  refine Task.Uses.call_bind ?_ fun _ => ?_
  · intro intent' h
    obtain rfl := Option.some.inj h
    exact hid
  refine Task.Uses.call_bind trivial fun _ => ?_
  exact Task.Uses.call_bind trivial fun _ => trivial

theorem submitLoop_keepsId (hid : record.intent.intentId = intent.intentId) (clock : SubmitClock)
    (attempt retries : ℕ) :
    (executor.submitLoop intent record clock attempt retries).Uses Call.KeepsId :=
  executor.submitLoop_uses Call.keepsId_of_not_isWrite
    (executor.attemptSubmit_keepsId hid clock) (fun _ _ _ h => by cases h) attempt retries

variable (clientOrderId : String)

theorem pollOrderStatus_keepsId (now : Date) :
    (pollOrderStatus clientOrderId now).Uses Call.KeepsId := by
  refine Task.Uses.call_bind trivial fun record => ?_
  rcases record with _ | record
  · trivial
  · dsimp only
    cases record.venueOrderId with
    | none => trivial
    | some venueOrderId =>
      refine Task.Uses.call_bind trivial fun venueResult => ?_
      rcases venueResult with _ | venueResult
      · trivial
      · refine Task.Uses.call_bind (fun _ h => by cases h) fun _ => ?_
        exact Task.Uses.call_bind trivial fun _ => trivial

theorem cancelOrder_keepsId (now : Date) :
    (cancelOrder clientOrderId now).Uses Call.KeepsId :=
  cancelOrder_uses Call.keepsId_of_not_isWrite fun _ h => by cases h

theorem processFill_keepsId (fill : OrderFill) (now : Date) :
    (processFill clientOrderId fill now).Uses Call.KeepsId := by
  refine Task.Uses.call_bind trivial fun record => ?_
  rcases record with _ | record
  · trivial
  · dsimp only
    split
    · trivial
    split
    · trivial
    refine Task.Uses.call_bind (fun _ h => by cases h) fun _ => ?_
    refine Task.Uses.call_bind trivial fun _ => ?_
    exact Task.Uses.call_bind trivial fun _ => trivial

/-- What every operation guarantees from a store whose records are under their own ids. -/
abbrev TerminalWp (env : Environment) (t : ExecTask OrderRecord) (w : World) : Prop :=
  t.wp (handle env reliable) (fun _ => True) TerminalSafe (fun _ w' => w'.store.Keyed) w

section

variable (env : Environment)

theorem terminalWp_of_keepsId {t : ExecTask OrderRecord} (ht : t.Uses Call.KeepsId)
    (hw : w.store.Keyed) : TerminalWp env t w :=
  ht.wp (fun c w' hc hw' => terminalSafe_of_keepsId env c w' hc hw') hw

theorem save_terminalWp (hid : record.intent.intentId = intent.intentId) (clock : SubmitClock)
    (hw : w.store.Keyed)
    (hread : ∀ existing, w.store.get? intent.intentId = some existing →
      existing.status ∉ terminalOrderStatuses) :
    TerminalWp env (do
      call (.save record)
      executor.submitLoop intent record clock 1 executor.config.maxRetries) w := by
  refine Task.wp_call_bind (fun _ => ⟨?_, fun _ _ _ h => by cases h⟩) (fun _ _ _ => ?_)
    (fun _ _ h => by cases h)
  · apply KeepsTerminal.set
    intro existing hget hterm
    rw [hid] at hget
    exact absurd hterm (hread existing hget)
  · exact terminalWp_of_keepsId env (executor.submitLoop_keepsId hid clock _ _) (hw.set rfl)

theorem submitIntent_terminalWp (intent : OrderIntent) (clock : SubmitClock) (hw : w.store.Keyed) :
    TerminalWp env (executor.submitIntent intent clock) w := by
  refine Task.wp_call_bind (fun _ => terminalSafe_of_not_isWrite env rfl w)
    (fun _ existing hr => ?_) (fun _ _ h => by cases h)
  have hget : w.store.get? intent.intentId = existing := Except.ok.inj hr
  cases existing with
  | none =>
    refine executor.save_terminalWp env rfl clock hw fun existing hex => ?_
    have hnone : w.store.get? intent.intentId = none := hget
    rw [show w.store.get? intent.intentId = some existing from hex] at hnone
    cases hnone
  | some record =>
    by_cases hskip : record.status ≠ .pending ∧ record.status ≠ .failed
    · simp only [if_pos hskip]
      exact hw
    · simp only [if_neg hskip]
      refine executor.save_terminalWp env (hw _ _ hget) clock hw fun existing hex => ?_
      obtain rfl : record = existing := Option.some.inj (hget.symm.trans hex)
      intro hterm
      apply hskip
      constructor <;> rintro h <;> simp [h, terminalOrderStatuses] at hterm

theorem task_terminalWp (operation : Operation) (hw : w.store.Keyed) :
    TerminalWp env (executor.task operation) w := by
  cases operation with
  | submitIntent intent clock => exact executor.submitIntent_terminalWp env intent clock hw
  | pollOrderStatus id now => exact terminalWp_of_keepsId env (pollOrderStatus_keepsId id now) hw
  | cancelOrder id now => exact terminalWp_of_keepsId env (cancelOrder_keepsId id now) hw
  | processFill id fill now =>
    exact terminalWp_of_keepsId env (processFill_keepsId id fill now) hw

theorem session_terminalSafe (operations : List Operation) (hw : w.store.Keyed) :
    ∀ e ∈ executor.session env reliable operations w, TerminalSafe e := by
  refine traceAll_forall (handle env reliable) (I := fun w => w.store.Keyed) ?_ hw
  intro t ht w' hw'
  obtain ⟨operation, -, rfl⟩ := List.mem_map.1 ht
  exact Task.wp_sound (executor.task_terminalWp env operation hw') fun _ _ => trivial

end

/-- In every session, whatever the venue and the audit writer do, a record that is filled,
cancelled or expired in a reached store has that status in every later one, and an update that
throws leaves the store as it was. -/
theorem session_keeps_terminal (env : Environment) (operations : List Operation) (w : World)
    (hw : w.store.Keyed) :
    (∀ e ∈ executor.session env reliable operations w,
      KeepsTerminal w.store e.after.store) ∧
    (executor.session env reliable operations w).Pairwise
      (fun e e' => KeepsTerminal e.after.store e'.after.store) ∧
    ∀ e ∈ executor.session env reliable operations w, ∀ id status updates,
      e.call = .updateStatus id status updates → e.threw = true →
        e.after.store = e.before.store := by
  have hsafe := executor.session_terminalSafe env operations hw
  obtain ⟨hfirst, hpairs⟩ := pairwise_of_linked
    (r := fun w w' : World => KeepsTerminal w.store w'.store)
    (linked_traceAll (handle env reliable) (operations.map executor.task) w)
    (fun e he => (hsafe e he).1)
  exact ⟨hfirst, hpairs, fun e he => (hsafe e he).2⟩

/-- A filled order whose cancellation the venue accepts. -/
theorem session_keeps_terminal_filled_order :
    (statusHistory "order-1" (sampleExecutor.session (sampleEnvironment .filled 2) reliable
      [.submitIntent sampleIntent stoppedClock, .cancelOrder "order-1" 0] emptyWorld)).getLast? =
      some (some .filled) ∧
    (sampleExecutor.session (sampleEnvironment .filled 2) reliable
      [.submitIntent sampleIntent stoppedClock, .cancelOrder "order-1" 0] emptyWorld).Pairwise
      (fun e e' => KeepsTerminal e.after.store e'.after.store) :=
  ⟨by decide +kernel, (sampleExecutor.session_keeps_terminal (sampleEnvironment .filled 2)
    [.submitIntent sampleIntent stoppedClock, .cancelOrder "order-1" 0] emptyWorld
    InMemoryOrderStore.keyed_empty).2.1⟩

end OrderExecutor

end SentinelApex
