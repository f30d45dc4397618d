import SentinelApex.Execution.Session

/-!
# Placements of one order

The `try` block of `submitIntent` covers the placement together with the two store updates and the
audit write that follow it, so an exception raised after the venue has accepted the order reaches
the catch block, which marks the order failed and places it again. An accepted placement is safe
from being repeated as long as no write marks the order failed after it: the record then stays
submitted, partially filled or filled, and `submitIntent` returns such records without placing.
-/

namespace SentinelApex

open Async OrderStatus

/-- The event is a call of `placeOrder` for the order. -/
def isPlacement (id : String) (e : ExecEvent) : Bool :=
  match e.call with
  | .placeOrder params => params.clientOrderId = id
  | _ => false

/-- The event is a placement of the order that the venue answered without rejecting it. -/
def isAccepted (id : String) : ExecEvent → Bool
  | ⟨_, .placeOrder params, .ok result, _⟩ =>
    params.clientOrderId = id ∧ result.status ≠ .rejected
  | _ => false

/-- The event is an update of the order to `failed` that leaves it failed. -/
def marksFailed (id : String) (e : ExecEvent) : Bool :=
  match e.call with
  | .updateStatus id' .failed _ =>
    id' = id ∧ (e.after.store.get? id).map (fun record => record.status) = some .failed
  | _ => false

/-- Nothing marks the order failed after an accepted placement. -/
def NotFailedOnceAccepted (id : String) (events : List ExecEvent) : Prop :=
  events.Pairwise fun e e' => isAccepted id e = true → marksFailed id e' = false

/-- No placement of the order follows an accepted one. -/
def PlacedOnce (id : String) (events : List ExecEvent) : Prop :=
  events.Pairwise fun e e' => isAccepted id e = true → isPlacement id e' = false

/-- The statuses that `submitIntent` does not place again and that no error reaches. -/
def acceptedStatuses : List OrderStatus := [submitted, partiallyFilled, filled]

def RecordedAccepted (id : String) (store : InMemoryOrderStore) : Prop :=
  ∃ record, store.get? id = some record ∧ record.status ∈ acceptedStatuses

variable {id : String}

theorem isAccepted_eq_false_of_not_isPlacement {e : ExecEvent} (h : isPlacement id e = false) :
    isAccepted id e = false := by
  obtain ⟨w, c, r, w'⟩ := e
  cases c with
  | placeOrder params =>
    cases r with
    | ok result =>
      have hne : params.clientOrderId ≠ id := by simpa [isPlacement] using h
      simp [isAccepted, hne]
    | error message => rfl
  | _ => rfl

/-! ## Calls after an accepted placement -/

/-- Neither `save` nor a placement, and an update only to one of the accepted statuses. -/
def Call.KeepsAccepted : Call → Prop
  | .save _ => False
  | .placeOrder _ => False
  | .updateStatus _ status _ => status ∈ acceptedStatuses
  | _ => True

def Call.NotPlacement : Call → Prop
  | .placeOrder _ => False
  | _ => True

theorem isPlacement_eq_false {e : ExecEvent} (h : e.call.NotPlacement) (id : String) :
    isPlacement id e = false := by
  obtain ⟨w, c, r, w'⟩ := e
  cases c with
  | placeOrder params => exact absurd h not_false
  | _ => rfl

variable {w : World}

section

variable {env : Environment} {faults : ℕ → Option StoreFault}

theorem recordedAccepted_updateStatus {id id' : String} {status : OrderStatus}
    (updates : OrderUpdates) (hstatus : status ∈ acceptedStatuses)
    (hw : RecordedAccepted id w.store) :
    RecordedAccepted id (handle env faults (.updateStatus id' status updates) w).2.store := by
  rcases handle_updateStatus_cases env faults id' status updates w with
    ⟨-, hstore⟩ | ⟨existing, -, -, hstore⟩
  · rwa [hstore]
  · rw [hstore]
    by_cases hid : id' = id
    · subst hid
      exact ⟨_, OrderedMap.get?_set_self _ _ _, hstatus⟩
    · obtain ⟨record, hget, hrec⟩ := hw
      exact ⟨record, by rw [OrderedMap.get?_set_of_ne _ hid, hget], hrec⟩

theorem recordedAccepted_of_keepsAccepted (c : Call) (w : World) (hc : c.KeepsAccepted)
    (hw : RecordedAccepted id w.store) : RecordedAccepted id (handle env faults c w).2.store := by
  cases c with
  | save record => exact absurd hc not_false
  | updateStatus id' status updates => exact recordedAccepted_updateStatus updates hc hw
  | _ => exact hw

theorem not_marksFailed_updateStatus {updates : OrderUpdates}
    (hmark : marksFailed id ⟨w, .updateStatus id .failed updates,
      (handle env faults (.updateStatus id .failed updates) w).1,
      (handle env faults (.updateStatus id .failed updates) w).2⟩ = false) :
    (∃ message, (handle env faults (.updateStatus id .failed updates) w).1 = .error message) ∧
      (handle env faults (.updateStatus id .failed updates) w).2.store = w.store := by
  rcases handle_updateStatus_cases env faults id .failed updates w with
    h | ⟨existing, -, -, hstore⟩
  · exact h
  · exfalso
    have hget : ((handle env faults (.updateStatus id .failed updates) w).2.store.get? id).map
        (fun record => record.status) = some .failed := by
      rw [hstore, OrderedMap.get?_set_self]
      rfl
    simp [marksFailed, hget] at hmark

end

/-! ## Tasks that place once -/

section

variable (h : Handler Call Call.Reply String World) (id : String) (t : ExecTask OrderRecord)
  (w : World)

/-- The task places no order after an accepted one and leaves an accepted order recorded as
accepted. -/
def OnceAccepted : Prop :=
  PlacedOnce id (t.trace h w) ∧
    ((∃ e ∈ t.trace h w, isAccepted id e = true) → RecordedAccepted id (t.run h w).2.store)

/-- The same, if nothing marks the order failed after an accepted placement. -/
def PlacesOnce : Prop := NotFailedOnceAccepted id (t.trace h w) → OnceAccepted h id t w

end

section

variable {h : Handler Call Call.Reply String World} {id : String} {w : World}

theorem placesOnce_done (record : OrderRecord) : PlacesOnce h id (.done record) w :=
  fun _ => ⟨List.Pairwise.nil, by simp⟩

/-- An event that is not an accepted placement leaves the rest of the task to be considered. -/
theorem OnceAccepted.call_bind {c : Call} {f : c.Reply → ExecTask OrderRecord}
    (hc : isAccepted id ⟨w, c, (h c w).1, (h c w).2⟩ = false)
    (hf : ∀ a, (h c w).1 = .ok a → OnceAccepted h id (f a) (h c w).2) :
    OnceAccepted h id (Task.call c >>= f) w := by
  unfold OnceAccepted
  rw [Task.trace_call_bind, Task.run_call_bind]
  cases hr : (h c w).1 with
  | ok a =>
    rw [hr] at hc
    obtain ⟨hplaced, hrec⟩ := hf a hr
    refine ⟨List.pairwise_cons.2 ⟨fun e' _ hacc => by simp [hc] at hacc, hplaced⟩, ?_⟩
    rintro ⟨e, he, hacc⟩
    rcases List.mem_cons.1 he with rfl | he
    · simp [hc] at hacc
    · exact hrec ⟨e, he, hacc⟩
  | error message =>
    rw [hr] at hc
    exact ⟨List.pairwise_singleton _ _, by simp [hc]⟩

theorem PlacesOnce.call_bind {c : Call} {f : c.Reply → ExecTask OrderRecord}
    (hc : c.NotPlacement) (hf : ∀ a, (h c w).1 = .ok a → PlacesOnce h id (f a) (h c w).2) :
    PlacesOnce h id (Task.call c >>= f) w := by
  intro hcond
  have hevent : isAccepted id ⟨w, c, (h c w).1, (h c w).2⟩ = false :=
    isAccepted_eq_false_of_not_isPlacement (isPlacement_eq_false hc id)
  refine OnceAccepted.call_bind hevent fun a hr => hf a hr ?_
  rw [Task.trace_call_bind, hr] at hcond
  exact (List.pairwise_cons.1 hcond).2

/-- A guarded body: if it raises an exception after an accepted placement, the handler must not
place, and otherwise it must place once. -/
theorem PlacesOnce.tryCatch {t : ExecTask OrderRecord} {f : String → ExecTask OrderRecord}
    (ht : OnceAccepted h id t w) (hf : ∀ e, PlacesOnce h id (f e) (t.run h w).2)
    (hstop : ∀ e, RecordedAccepted id (t.run h w).2.store →
      (∀ e' ∈ (f e).trace h (t.run h w).2, marksFailed id e' = false) →
      (∀ e' ∈ (f e).trace h (t.run h w).2, isPlacement id e' = false) ∧
        RecordedAccepted id ((f e).run h (t.run h w).2).2.store) :
    PlacesOnce h id (t.tryCatch f) w := by
  obtain ⟨hplaced, hrec⟩ := ht
  unfold PlacesOnce OnceAccepted
  rw [Task.trace_tryCatch, Task.run_tryCatch]
  cases hr : (t.run h w).1 with
  | ok record => exact fun _ => ⟨by simpa using hplaced, by simpa using hrec⟩
  | error message =>
    intro hcond
    obtain ⟨-, hcond', hcross⟩ := List.pairwise_append.1 hcond
    by_cases hacc : ∃ e ∈ t.trace h w, isAccepted id e = true
    · obtain ⟨e₀, he₀, hacc₀⟩ := hacc
      obtain ⟨hnone, hlast⟩ := hstop message (hrec ⟨e₀, he₀, hacc₀⟩)
        fun e' he' => hcross e₀ he₀ e' he' hacc₀
      have hplaced' : PlacedOnce id ((f message).trace h (t.run h w).2) :=
        List.pairwise_of_forall_mem_list fun _ _ e' he' _ => hnone e' he'
      exact ⟨List.pairwise_append.2 ⟨hplaced, hplaced', fun _ _ e' he' _ => hnone e' he'⟩,
        fun _ => hlast⟩
    · obtain ⟨hplaced', hrec'⟩ := hf message hcond'
      refine ⟨List.pairwise_append.2 ⟨hplaced, hplaced', fun e he _ _ hacc' => ?_⟩, ?_⟩
      · exact absurd ⟨e, he, hacc'⟩ hacc
      · rintro ⟨e, he, hacc'⟩
        rcases List.mem_append.1 he with he | he
        · exact absurd ⟨e, he, hacc'⟩ hacc
        · exact hrec' ⟨e, he, hacc'⟩

end

/-! ## submitIntent -/

namespace OrderExecutor

variable (executor : OrderExecutor) {env : Environment} {faults : ℕ → Option StoreFault}

variable (intent : OrderIntent) (record : OrderRecord) (clock : SubmitClock) (attempt : ℕ)

theorem recordPlacement_notPlacement (result : PlaceOrderResult) :
    (executor.recordPlacement intent record clock attempt result).Uses Call.NotPlacement := by
  refine Task.Uses.call_bind trivial fun _ => ?_
  refine Task.Uses.call_bind trivial fun _ => ?_
  exact Task.Uses.call_bind trivial fun _ => trivial

theorem recordPlacement_keepsAccepted {result : PlaceOrderResult}
    (hresult : result.status ≠ .rejected) :
    (executor.recordPlacement intent record clock attempt result).Uses Call.KeepsAccepted := by
  refine Task.Uses.call_bind ?_ fun _ => ?_
  · show placedStatus result.status ∈ acceptedStatuses
    cases hs : result.status with
    | rejected => exact absurd hs hresult
    | _ => simp [placedStatus, acceptedStatuses]
  refine Task.Uses.call_bind trivial fun _ => ?_
  exact Task.Uses.call_bind trivial fun _ => trivial

theorem placement_onceAccepted (params : PlaceOrderParams)
    (hw : RecordedAccepted intent.intentId w.store) :
    OnceAccepted (handle env faults) intent.intentId (do
      let result ← call (.placeOrder params)
      executor.recordPlacement intent record clock attempt result) w := by
  unfold OnceAccepted
  rw [Task.trace_call_bind, Task.run_call_bind]
  cases hr : (handle env faults (.placeOrder params) w).1 with
  | error message => exact ⟨List.pairwise_singleton _ _, by simp [isAccepted]⟩
  | ok result =>
    set w' := (handle env faults (.placeOrder params) w).2
    set t := executor.recordPlacement intent record clock attempt result
    have hnone : ∀ e ∈ t.trace (handle env faults) w', isPlacement intent.intentId e = false :=
      fun e he => isPlacement_eq_false
        ((executor.recordPlacement_notPlacement intent record clock attempt result).trace w' e he) _
    have hplaced : PlacedOnce intent.intentId (t.trace (handle env faults) w') :=
      List.pairwise_of_forall_mem_list fun _ _ e' he' _ => hnone e' he'
    refine ⟨List.pairwise_cons.2 ⟨fun e' he' _ => hnone e' he', hplaced⟩, ?_⟩
    rintro ⟨e, he, hacc⟩
    rcases List.mem_cons.1 he with rfl | he
    · have hresult : result.status ≠ .rejected := by
        simp only [isAccepted, decide_eq_true_eq] at hacc
        exact hacc.2
      refine (Task.wp_sound (H := fun _ => True) (G := fun _ => True)
        ((executor.recordPlacement_keepsAccepted intent record clock attempt hresult).wp
          (fun c w hc hw => ⟨trivial, recordedAccepted_of_keepsAccepted c w hc hw⟩) ?_)
        fun _ _ => trivial).2
      exact hw
    · simp [isAccepted_eq_false_of_not_isPlacement (hnone e he)] at hacc

theorem attemptSubmit_onceAccepted (w : World) :
    OnceAccepted (handle env faults) intent.intentId
      (executor.attemptSubmit intent record clock attempt) w := by
  refine OnceAccepted.call_bind rfl fun u hr => ?_
  apply executor.placement_onceAccepted
  obtain ⟨existing, -, -, hstore⟩ := handle_updateStatus_ok env faults hr
  rw [hstore]
  exact ⟨_, OrderedMap.get?_set_self _ _ _, by simp [OrderRecord.merge, acceptedStatuses]⟩

/-- The catch block of an accepted order: if its update does not leave the order failed, it has
thrown, and nothing follows it. -/
theorem catch_stops {updates : OrderUpdates} {f : Unit → ExecTask OrderRecord}
    (hw : RecordedAccepted id w.store)
    (hmark : ∀ e ∈ (call (.updateStatus id .failed updates) >>= f).trace (handle env faults) w,
      marksFailed id e = false) :
    (∀ e ∈ (call (.updateStatus id .failed updates) >>= f).trace (handle env faults) w,
        isPlacement id e = false) ∧
      RecordedAccepted id
        ((call (.updateStatus id .failed updates) >>= f).run (handle env faults) w).2.store := by
  rw [Task.trace_call_bind] at hmark
  obtain ⟨⟨message, hr⟩, hstore⟩ := not_marksFailed_updateStatus (hmark _ List.mem_cons_self)
  rw [Task.trace_call_bind, Task.run_call_bind, hr]
  refine ⟨fun e he => ?_, ?_⟩
  · obtain rfl := List.mem_singleton.1 he
    rfl
  · show RecordedAccepted id (handle env faults _ w).2.store
    rwa [hstore]

theorem submitLoop_placesOnce (attempt retries : ℕ) (w : World) :
    PlacesOnce (handle env faults) intent.intentId
      (executor.submitLoop intent record clock attempt retries) w := by
  induction retries generalizing attempt w with
  | zero =>
    unfold submitLoop
    refine PlacesOnce.tryCatch (executor.attemptSubmit_onceAccepted intent record clock attempt w)
      (fun lastError => ?_) fun lastError hrec hmark => catch_stops hrec hmark
    refine PlacesOnce.call_bind trivial fun _ _ => ?_
    exact PlacesOnce.call_bind trivial fun _ _ => placesOnce_done _
  | succ retries ih =>
    unfold submitLoop
    refine PlacesOnce.tryCatch (executor.attemptSubmit_onceAccepted intent record clock attempt w)
      (fun lastError => ?_) fun lastError hrec hmark => catch_stops hrec hmark
    refine PlacesOnce.call_bind trivial fun _ _ => ?_
    exact PlacesOnce.call_bind trivial fun _ _ => ih _ _

theorem submitIntent_placesOnce (w : World) :
    PlacesOnce (handle env faults) intent.intentId (executor.submitIntent intent clock) w := by
  refine PlacesOnce.call_bind trivial fun existing _ => ?_
  cases existing with
  | none => exact PlacesOnce.call_bind trivial fun _ _ => executor.submitLoop_placesOnce _ _ _ _ _ _
  | some record =>
    by_cases hskip : record.status ≠ .pending ∧ record.status ≠ .failed
    · simp only [if_pos hskip]
      exact placesOnce_done record
    · simp only [if_neg hskip]
      exact PlacesOnce.call_bind trivial fun _ _ => executor.submitLoop_placesOnce _ _ _ _ _ _

/-- Submitting an order that is recorded as accepted only reads its record. -/
theorem submitIntent_of_recordedAccepted (env : Environment) (faults : ℕ → Option StoreFault)
    {intent : OrderIntent} (clock : SubmitClock) (hw : RecordedAccepted intent.intentId w.store) :
    (∀ e ∈ (executor.submitIntent intent clock).trace (handle env faults) w,
        isPlacement intent.intentId e = false) ∧
      ((executor.submitIntent intent clock).run (handle env faults) w).2.store = w.store := by
  obtain ⟨record, hget, hstatus⟩ := hw
  have hskip : record.status ≠ .pending ∧ record.status ≠ .failed := by
    constructor <;> intro h <;> simp [h, acceptedStatuses] at hstatus
  have hread : (handle env faults (.getByClientId intent.intentId) w).1 = .ok (some record) :=
    congrArg Except.ok hget
  unfold submitIntent
  rw [Task.trace_call_bind, Task.run_call_bind, hread]
  simp only [if_pos hskip]
  refine ⟨fun e he => ?_, rfl⟩
  obtain rfl := List.mem_singleton.1 he
  rfl

/-! ## Sessions of submissions -/

/-- Submissions one after the other. -/
def submitSession (env : Environment) (faults : ℕ → Option StoreFault)
    (intents : List (OrderIntent × SubmitClock)) (w : World) : List ExecEvent :=
  executor.session env faults (intents.map fun i => .submitIntent i.1 i.2) w

theorem submitSession_cons (i : OrderIntent × SubmitClock)
    (intents : List (OrderIntent × SubmitClock)) (w : World) :
    executor.submitSession env faults (i :: intents) w =
      (executor.submitIntent i.1 i.2).trace (handle env faults) w ++
        executor.submitSession env faults intents
          ((executor.submitIntent i.1 i.2).run (handle env faults) w).2 := rfl

theorem submitSession_of_recordedAccepted {intents : List (OrderIntent × SubmitClock)}
    (hid : ∀ i ∈ intents, i.1.intentId = id) (hw : RecordedAccepted id w.store) :
    ∀ e ∈ executor.submitSession env faults intents w, isPlacement id e = false := by
  induction intents generalizing w with
  | nil => simp [submitSession, session, traceAll]
  | cons i intents ih =>
    obtain rfl : i.1.intentId = id := hid i List.mem_cons_self
    obtain ⟨hnone, hstore⟩ :=
      executor.submitIntent_of_recordedAccepted env faults i.2 hw
    intro e he
    rw [submitSession_cons] at he
    rcases List.mem_append.1 he with he | he
    · exact hnone e he
    · refine ih (fun j hj => hid j (List.mem_cons_of_mem _ hj)) ?_ e he
      rwa [hstore]

/-- In every session of submissions of one order, whatever the venue, the store connection and the
audit writer do: if no write marks the order failed after an accepted placement, no placement
follows an accepted one. -/
theorem submitSession_placedOnce (env : Environment) (faults : ℕ → Option StoreFault)
    (id : String) (intents : List (OrderIntent × SubmitClock))
    (hid : ∀ i ∈ intents, i.1.intentId = id) (w : World)
    (hcond : NotFailedOnceAccepted id (executor.submitSession env faults intents w)) :
    PlacedOnce id (executor.submitSession env faults intents w) := by
  induction intents generalizing w with
  | nil => exact List.Pairwise.nil
  | cons i intents ih =>
    have hid' : ∀ j ∈ intents, j.1.intentId = id := fun j hj => hid j (List.mem_cons_of_mem _ hj)
    obtain rfl : i.1.intentId = id := hid i List.mem_cons_self
    rw [submitSession_cons] at hcond ⊢
    obtain ⟨hcond₁, hcond₂, -⟩ := List.pairwise_append.1 hcond
    obtain ⟨hplaced, hrec⟩ := executor.submitIntent_placesOnce i.1 i.2 w hcond₁
    refine List.pairwise_append.2 ⟨hplaced, ih hid' _ hcond₂, fun e he e' he' hacc => ?_⟩
    -- The record is left accepted, so the later submissions only read it.
    exact executor.submitSession_of_recordedAccepted hid' (hrec ⟨e, he, hacc⟩) e' he'

/-- A venue that accepts, with an audit writer that fails once, after the first placement. -/
def auditOutage : Environment :=
  { sampleEnvironment .submitted 0 with
    auditWrite := fun n => if n = 5 then .error "audit log unavailable" else .ok () }

theorem auditOutage_places_twice :
    ¬ PlacedOnce "order-1"
      (sampleExecutor.submitSession auditOutage reliable [(sampleIntent, stoppedClock)]
        emptyWorld) := by
  unfold PlacedOnce
  decide +kernel

theorem submitSession_placedOnce_without_outage :
    (sampleExecutor.submitSession (sampleEnvironment .submitted 0) reliable
        [(sampleIntent, stoppedClock), (sampleIntent, stoppedClock)] emptyWorld).any
      (isAccepted "order-1") = true ∧
    PlacedOnce "order-1"
      (sampleExecutor.submitSession (sampleEnvironment .submitted 0) reliable
        [(sampleIntent, stoppedClock), (sampleIntent, stoppedClock)] emptyWorld) :=
  ⟨by decide +kernel, sampleExecutor.submitSession_placedOnce (sampleEnvironment .submitted 0)
    reliable "order-1" [(sampleIntent, stoppedClock), (sampleIntent, stoppedClock)]
    (by simp [sampleIntent]) emptyWorld (by unfold NotFailedOnceAccepted; decide +kernel)⟩

end OrderExecutor

end SentinelApex
