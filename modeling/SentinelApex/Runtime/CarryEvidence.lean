import SentinelApex.Runtime.RecoveryEvidence

/-!
# Evidence of orders

A venue accepts an order while the executor submits it, and the step of the order keeps a reference
only when the executor has returned. So the ledger of the carry actions is safe unless a call fails
that the executor does not catch while an order that was accepted has left no reference
(`executeCarryAction_leads`).
-/

namespace SentinelApex

open Async ChildLedger

/-! ## Ledgers -/

def CarryWorld.ledger (w : CarryWorld) : ChildLedger where
  rows := (w.tables.actions.filter fun action => action.linkedRebalanceProposalId.isSome).map
    fun action => (action.id, action.status)
  records := w.tables.steps.map fun step => (step.id, step.carryActionId)
  effects := w.accepted.map Prod.fst
  evidence := ((w.tables.steps.filter fun step => step.executionReference.isSome).map
      fun step => step.carryActionId) ++
    (w.tables.executions.filter fun execution => execution.venueExecutionReference.isSome).map
      fun execution => execution.carryActionId

def ChildLedger.Marked (l : ChildLedger) (actionId : String) : Prop :=
  ∀ row ∈ l.rows, row.1 = actionId → row.2 = .executing

namespace CarryCall

/-- The calls that neither ask the executor nor take a reference away. -/
def quiet : CarryCall → Prop
  | executor .. => False
  | updateCarryExecution _ p => p.venueExecutionReference ≠ some none
  | updateCarryExecutionStep _ p => p.executionReference ≠ some none
  | _ => True

def keepsLinked : CarryCall → Prop
  | markCarryActionExecuting _ => False
  | completeCarryAction .. => False
  | failCarryAction .. => False
  | c => c.quiet

variable {c : CarryCall} {planned : Prop}

theorem quiet_of_keepsLinked (hc : c.keepsLinked) : c.quiet := by
  cases c <;> first | exact hc | trivial

theorem keepsLinked_of_ofLegs (hc : c.ofLegs planned) :
    c.keepsLinked := by
  cases c <;> trivial

theorem quiet_of_ofExit (hc : c.ofExit) : c.quiet := by
  cases c with
  | updateCarryExecution id p => simp [quiet, hc.2]
  | updateCarryExecutionStep id p => simp [quiet, show p.executionReference = none from hc]
  | _ => trivial

theorem quiet_of_ofFailure (hc : c.ofFailure planned) : c.quiet :=
  hc.elim quiet_of_ofExit fun hlegs => quiet_of_keepsLinked (keepsLinked_of_ofLegs hlegs)

/-- What the call throws leaves the executor: it is no call of an attempt, or none of one whose
order is still to fail. -/
def escapes (orders : RuntimeOrderStore) : CarryCall → Bool
  | executor _ _ (.updateStatus _ status _) => decide (status = .failed)
  | executor _ _ (.getByClientId id) => decide (orders.statusOf id = some .failed)
  | executor .. => false
  | _ => true

end CarryCall

/-! ## Calls -/

variable {actionId venueId id : String}

section Calls

variable {env : CarryEnvironment} {w : CarryWorld} {c : CarryCall}

theorem handleCarry_after (env : CarryEnvironment) (c : CarryCall) (w : CarryWorld) :
    (handleCarry env c w).2 = { w with calls := w.calls + 1 } ∨
      (handleCarry env c w).2 = { (performCarry env w c).2 with calls := w.calls + 1 } := by
  simp only [handleCarry]
  split
  · exact Or.inr rfl
  · exact Or.inl rfl
  · exact Or.inr rfl

theorem performCarry_of_ok {a : c.Reply} (ha : (handleCarry env c w).1 = .ok a) :
    (performCarry env w c).1 = .ok a ∧
      (handleCarry env c w).2 = { (performCarry env w c).2 with calls := w.calls + 1 } := by
  simp only [handleCarry] at ha ⊢
  split at ha
  · exact ⟨ha, rfl⟩
  · cases ha
  · cases ha

theorem handleCarry_keeps {I : CarryWorld → Prop}
    (hcalls : ∀ w n, I w → I { w with calls := n }) (hw : I w)
    (hperform : I (performCarry env w c).2) : I (handleCarry env c w).2 := by
  rcases handleCarry_after env c w with h | h
  · rw [h]
    exact hcalls w _ hw
  · rw [h]
    exact hcalls _ _ hperform

theorem mem_evidence : actionId ∈ w.ledger.evidence ↔
    (∃ step ∈ w.tables.steps, step.executionReference.isSome = true ∧
      step.carryActionId = actionId) ∨
    ∃ execution ∈ w.tables.executions, execution.venueExecutionReference.isSome = true ∧
      execution.carryActionId = actionId := by
  simp [CarryWorld.ledger, List.mem_append, List.mem_map, List.mem_filter, and_assoc]

theorem mem_records {stepId : String} : (stepId, actionId) ∈ w.ledger.records ↔
    ∃ step ∈ w.tables.steps, step.id = stepId ∧ step.carryActionId = actionId := by
  simp [CarryWorld.ledger, List.mem_map]

theorem grows_updateCarryExecution (w : CarryWorld) {p : CarryExecutionPatch}
    (hp : p.venueExecutionReference ≠ some none) :
    Grows w.ledger { w with tables := w.tables.updateCarryExecution id p }.ledger := by
  refine ⟨fun _ h => h, rfl, fun actionId hevident => ?_⟩
  rcases mem_evidence.1 hevident with hstep | ⟨execution, hrow, hreference, rfl⟩
  · exact mem_evidence.2 (Or.inl hstep)
  · refine mem_evidence.2 (Or.inr ⟨_, List.mem_map_of_mem hrow, ?_, ?_⟩)
    · split_ifs
      · cases hpatch : p.venueExecutionReference with
        | none => simpa [CarryExecution.patch, hpatch] using hreference
        | some reference =>
          cases reference with
          | none => exact absurd hpatch hp
          | some reference => simp [CarryExecution.patch, hpatch]
      · exact hreference
    · split_ifs <;> rfl

theorem grows_updateCarryExecutionStep (w : CarryWorld) {p : CarryStepPatch}
    (hp : p.executionReference ≠ some none) :
    Grows w.ledger { w with tables := w.tables.updateCarryExecutionStep id p }.ledger := by
  refine ⟨fun record hrecord => ?_, rfl, fun actionId hevident => ?_⟩
  · obtain ⟨row, hrow, rfl⟩ := List.mem_map.1 hrecord
    refine List.mem_map.2 ⟨_, List.mem_map_of_mem hrow, ?_⟩
    split_ifs <;> rfl
  · rcases mem_evidence.1 hevident with ⟨step, hrow, hreference, rfl⟩ | hexecution
    · refine mem_evidence.2 (Or.inl ⟨_, List.mem_map_of_mem hrow, ?_, ?_⟩)
      · split_ifs
        · cases hpatch : p.executionReference with
          | none => simpa [CarryExecutionStep.patch, hpatch] using hreference
          | some reference =>
            cases reference with
            | none => exact absurd hpatch hp
            | some reference => simp [CarryExecutionStep.patch, hpatch]
        · exact hreference
      · split_ifs <;> rfl
    · exact mem_evidence.2 (Or.inr hexecution)

theorem evident_updateCarryExecutionStep {reference : String} {p : CarryStepPatch}
    (hp : p.executionReference = some (some reference))
    (hrecord : (id, actionId) ∈ w.ledger.records) :
    actionId ∈ { w with tables := w.tables.updateCarryExecutionStep id p }.ledger.evidence := by
  obtain ⟨step, hrow, rfl, rfl⟩ := mem_records.1 hrecord
  refine mem_evidence.2 (Or.inl ⟨_, List.mem_map_of_mem hrow, ?_, ?_⟩)
  · simp [CarryExecutionStep.patch, hp]
  · simp [CarryExecutionStep.patch]

theorem grows_performCarry (hc : c.quiet) :
    Grows w.ledger (performCarry env w c).2.ledger := by
  cases c with
  | executor => exact hc.elim
  | updateCarryExecution id p => exact grows_updateCarryExecution w hc
  | updateCarryExecutionStep id p => exact grows_updateCarryExecutionStep w hc
  | createCarryExecution input =>
    refine ⟨fun _ h => h, rfl, fun actionId hevident => ?_⟩
    rcases mem_evidence.1 hevident with hstep | ⟨execution, hrow, hreference⟩
    · exact mem_evidence.2 (Or.inl hstep)
    · exact mem_evidence.2 (Or.inr ⟨execution, List.mem_append_left _ hrow, hreference⟩)
  | createCarryExecutionStep step =>
    refine ⟨fun record hrecord => ?_, rfl, fun actionId hevident => ?_⟩
    · obtain ⟨row, hrow, rfl⟩ := List.mem_map.1 hrecord
      exact List.mem_map.2 ⟨row, List.mem_append_left _ hrow, rfl⟩
    · rcases mem_evidence.1 hevident with ⟨step, hrow, hreference⟩ | hexecution
      · exact mem_evidence.2 (Or.inl ⟨step, List.mem_append_left _ hrow, hreference⟩)
      · exact mem_evidence.2 (Or.inr hexecution)
  | _ => exact ⟨fun _ h => h, rfl, fun _ h => h⟩

theorem rows_performCarry (hc : c.keepsLinked) :
    (performCarry env w c).2.ledger.rows = w.ledger.rows := by
  cases c with
  | executor | markCarryActionExecuting | completeCarryAction | failCarryAction => exact hc.elim
  | _ => rfl

theorem grows_handleCarry (hc : c.quiet) : Grows w.ledger (handleCarry env c w).2.ledger :=
  handleCarry_keeps (I := fun w' => Grows w.ledger w'.ledger) (fun _ _ h => h) (Grows.refl _)
    (grows_performCarry hc)

theorem rows_handleCarry (hc : c.keepsLinked) :
    (handleCarry env c w).2.ledger.rows = w.ledger.rows :=
  handleCarry_keeps (I := fun w' => w'.ledger.rows = w.ledger.rows) (fun _ _ h => h) rfl
    (rows_performCarry hc)

theorem marked_markCarryActionExecuting {u : Unit}
    (hu : (handleCarry env (.markCarryActionExecuting id) w).1 = .ok u) :
    (handleCarry env (.markCarryActionExecuting id) w).2.ledger.Marked id := by
  rw [(performCarry_of_ok hu).2]
  intro row hrow hid
  obtain ⟨action, haction, rfl⟩ := List.mem_map.1 hrow
  obtain ⟨old, -, rfl⟩ := List.mem_map.1 (List.mem_filter.1 haction).1
  split_ifs at hid ⊢
  · rfl
  · contradiction

/-! ### Calls of the executor -/

theorem ledger_executor (actionId venueId : String) (c : Call) :
    (handleCarry env (.executor actionId venueId c) w).2.ledger.rows = w.ledger.rows ∧
      (handleCarry env (.executor actionId venueId c) w).2.ledger.records = w.ledger.records ∧
      (handleCarry env (.executor actionId venueId c) w).2.ledger.evidence = w.ledger.evidence := by
  rcases handleCarry_after env (.executor actionId venueId c) w with h | h
  all_goals
    rw [h]
    exact ⟨rfl, rfl, rfl⟩

theorem effects_executor {c : Call}
    (hid : id ∈ (handleCarry env (.executor actionId venueId c) w).2.ledger.effects) :
    id = actionId ∨ id ∈ w.ledger.effects := by
  rcases handleCarry_after env (.executor actionId venueId c) w with h | h
  · rw [h] at hid
    exact Or.inr hid
  · rw [h] at hid
    change id ∈ (acceptedAfter env (w.steps - 1) actionId w.accepted c).map Prod.fst at hid
    unfold acceptedAfter at hid
    split at hid
    · split at hid
      · split_ifs at hid
        · exact Or.inr hid
        · rw [List.map_append, List.mem_append] at hid
          exact hid.symm.imp_left List.mem_singleton.1
      · exact Or.inr hid
    · exact Or.inr hid

theorem effects_executor_of_quiet {c : Call} (hc : ∀ params, c ≠ .placeOrder params) :
    (handleCarry env (.executor actionId venueId c) w).2.ledger.effects = w.ledger.effects := by
  rcases handleCarry_after env (.executor actionId venueId c) w with h | h
  · rw [h]
    rfl
  · rw [h]
    change (acceptedAfter env (w.steps - 1) actionId w.accepted c).map Prod.fst = _
    unfold acceptedAfter
    split
    · exact absurd rfl (hc _)
    · rfl

theorem inFlight_executor {recordId : String} (venueId : String) (c : Call)
    (hw : w.ledger.InFlight actionId recordId) :
    (handleCarry env (.executor actionId venueId c) w).2.ledger.InFlight actionId recordId :=
  hw.effect (ledger_executor actionId venueId c).1 (ledger_executor actionId venueId c).2.1
    (ledger_executor actionId venueId c).2.2 fun _ hid => effects_executor hid

theorem recorded_executor {c : Call} (hc : ∀ params, c ≠ .placeOrder params)
    (hw : w.ledger.Recorded) :
    (handleCarry env (.executor actionId venueId c) w).2.ledger.Recorded := by
  intro id hid
  rw [effects_executor_of_quiet hc] at hid
  rw [(ledger_executor actionId venueId c).2.2]
  exact hw id hid

theorem statusOf_updateStatus {store : RuntimeOrderStore} {status : OrderStatus}
    {updates : OrderUpdates} {now : Date} {u : Unit} (hintent : updates.intent = none)
    (hu : (store.updateStatus id status updates now).1 = .ok u) :
    (store.updateStatus id status updates now).2.statusOf id = some status := by
  unfold RuntimeOrderStore.updateStatus at hu ⊢
  cases hrow : store.orderRow id with
  | none => simp [RuntimeOrderStore.getByClientId, hrow] at hu
  | some row =>
    rw [RuntimeOrderStore.getByClientId_of_orderRow hrow] at hu ⊢
    dsimp only at hu ⊢
    set record := (RuntimeOrderStore.toRecord row (store.fillRows id)).merge status updates
    have hid : record.intent.intentId = id := by
      simpa [record, OrderRecord.merge, hintent, RuntimeOrderStore.toRecord] using
        RuntimeOrderStore.clientOrderId_of_orderRow hrow
    by_cases hpersist : store.Persistable record.intent.metadata
    · obtain ⟨store', hsave, hwritten⟩ := RuntimeOrderStore.written_save hpersist now
      rw [hsave, ← hid]
      exact hwritten.settled.statusOf_self
    · obtain ⟨message, hsave⟩ := RuntimeOrderStore.save_of_not_persistable hpersist now
      rw [hsave] at hu
      cases hu

end Calls

/-! ## Executions -/

/-- A call throws, the executor does not catch it, and an effect is left without evidence. -/
def CarryLoses (e : CarryEvent) : Prop :=
  e.threw = true ∧ e.call.escapes e.before.orders = true ∧ ¬ e.after.ledger.Recorded

/-- If no call loses an effect, then the ledger is safe throughout, and there is evidence of every
effect when the task throws. -/
abbrev CarryLeads (env : CarryEnvironment) {α : Type} (W : CarryWorld → Prop)
    (W' : α → CarryWorld → Prop) (t : CarryTask α) : Prop :=
  t.Leads (handleCarry env) (fun e => ¬ CarryLoses e) (fun e => e.after.ledger.Safe) W W'
    fun w => w.ledger.Recorded

section Stages

variable {env : CarryEnvironment} {w : CarryWorld} {c : CarryCall} {actionId stepId : String}

theorem recorded_of_error {message : String} (hlost : ¬ CarryLoses ⟨w, c, (handleCarry env c w).1,
      (handleCarry env c w).2⟩) (hc : c.escapes w.orders = true)
    (hmessage : (handleCarry env c w).1 = .error message) :
    (handleCarry env c w).2.ledger.Recorded := by
  by_contra hrecorded
  exact hlost ⟨by rw [Event.threw, hmessage]; rfl, hc, hrecorded⟩

namespace CarryCall

theorem leads_quiet {α : Type} {t : CarryTask α} (ht : t.Uses CarryCall.quiet) :
    CarryLeads env (fun w => w.ledger.Recorded) (fun _ w => w.ledger.Recorded) t :=
  ht.leads fun _ _ hc hw _ => ⟨(hw.grows (grows_handleCarry hc)).safe,
    hw.grows (grows_handleCarry hc)⟩

end CarryCall

/-! ### The executor -/

def executorHandler (env : CarryEnvironment) (actionId venueId : String) :
    Handler Call Call.Reply String CarryWorld := fun c =>
  handleCarry env (.executor actionId venueId c)

/-- What an operation of the executor ends in while the action is in flight. -/
abbrev ExecutorLeads (env : CarryEnvironment) (actionId venueId : String) {α : Type}
    (W : CarryWorld → Prop) (W' : α → CarryWorld → Prop) (E : CarryWorld → Prop) (t : ExecTask α) :
    Prop :=
  t.Leads (executorHandler env actionId venueId)
    (fun e => ¬ CarryLoses ⟨e.before, .executor actionId venueId e.call, e.reply, e.after⟩)
    (fun e => e.after.ledger.Safe) W W' E

variable {α : Type} {W' : α → CarryWorld → Prop}

theorem leads_onBehalfOf {W : CarryWorld → Prop} {t : ExecTask α}
    (ht : ExecutorLeads env actionId venueId W W' (fun w => w.ledger.Recorded) t) :
    CarryLeads env W W' (onBehalfOf actionId venueId t) := by
  intro w hw
  refine Task.embed_wp (fun s s' => s' = s) ?_ ?_ ?_ ?_ rfl (ht w hw)
  · rintro c s _ rfl
    exact ⟨congrFun Except.map_id _, rfl⟩
  · rintro c s _ rfl h
    exact h
  · rintro c s _ rfl - h
    exact h
  · rintro r s _ rfl h
    exact h

section Executor

variable {venueId : String}

/-- The action is in flight, and there is evidence of every effect. -/
abbrev FliesRecorded (actionId stepId : String) (w : CarryWorld) : Prop :=
  w.ledger.InFlight actionId stepId ∧ w.ledger.Recorded

theorem executor_leads_inFlight {α : Type} (t : ExecTask α) :
    ExecutorLeads env actionId venueId (fun w => w.ledger.InFlight actionId stepId)
      (fun _ w => w.ledger.InFlight actionId stepId)
      (fun w => w.ledger.InFlight actionId stepId) t :=
  (Task.uses_of_forall (p := fun _ => True) (fun _ => trivial) t).leads fun c _ _ hw _ =>
    ⟨(inFlight_executor venueId c hw).safe, inFlight_executor venueId c hw⟩

theorem executor_leads_recorded {c : Call} (hc : ∀ params, c ≠ .placeOrder params) :
    ExecutorLeads env actionId venueId (FliesRecorded actionId stepId)
      (fun _ => FliesRecorded actionId stepId) (fun w => w.ledger.Recorded) (call c) := by
  refine Task.leads_call fun w hw _ => ?_
  have hflight : (handleCarry env (.executor actionId venueId c) w).2.ledger.InFlight actionId
      stepId := inFlight_executor venueId c hw.1
  have hrecorded : (handleCarry env (.executor actionId venueId c) w).2.ledger.Recorded :=
    recorded_executor hc hw.2
  exact ⟨hflight.safe, fun _ _ => ⟨hflight, hrecorded⟩, fun _ _ => hrecorded⟩

theorem executor_leads_escape {c : Call} {K : CarryWorld → Prop} {M : c.Reply → CarryWorld → Prop}
    (hc : ∀ w, K w → (CarryCall.executor actionId venueId c).escapes w.orders = true)
    (hK : ∀ w a, w.ledger.InFlight actionId stepId → K w →
      (handleCarry env (.executor actionId venueId c) w).1 = .ok a →
        M a (handleCarry env (.executor actionId venueId c) w).2) :
    ExecutorLeads env actionId venueId (fun w => w.ledger.InFlight actionId stepId ∧ K w)
      (fun a w => w.ledger.InFlight actionId stepId ∧ M a w) (fun w => w.ledger.Recorded)
      (call c) := by
  refine Task.leads_call fun w hw hlost => ?_
  have hflight : (handleCarry env (.executor actionId venueId c) w).2.ledger.InFlight actionId
      stepId := inFlight_executor venueId c hw.1
  refine ⟨hflight.safe, fun a ha => ⟨hflight, hK w a hw.1 hw.2 ha⟩, fun message hmessage => ?_⟩
  exact recorded_of_error hlost (hc w hw.2) hmessage

/-- An attempt that throws is followed by the update to `failed` and by a read, and these are not
caught. -/
theorem submitLoop_leads (executor : OrderExecutor) (intent : OrderIntent) (record : OrderRecord)
    (clock : SubmitClock) (attempt : ℕ) :
    ExecutorLeads env actionId venueId (fun w => w.ledger.InFlight actionId stepId)
      (fun _ w => w.ledger.InFlight actionId stepId) (fun w => w.ledger.Recorded)
      (executor.submitLoop intent record clock attempt 0) := by
  unfold OrderExecutor.submitLoop
  refine Task.Leads.tryCatch (executor_leads_inFlight _) fun lastError => ?_
  refine Task.Leads.bind
    (V := fun _ w => w.ledger.InFlight actionId stepId ∧
      w.orders.statusOf intent.intentId = some .failed) ?_ fun _ => ?_
  · refine (executor_leads_escape (K := fun _ => True) (fun _ _ => rfl) fun w u _ _ hu => ?_).mono
      (fun _ hw => ⟨hw, trivial⟩) (fun _ _ hw => hw) fun _ hw => hw
    obtain ⟨hanswer, hafter⟩ := performCarry_of_ok hu
    rw [hafter]
    exact statusOf_updateStatus rfl hanswer
  · refine Task.Leads.bind (V := fun _ w => w.ledger.InFlight actionId stepId ∧ True) ?_
      fun finalRecord => Task.leads_done fun _ hw => hw.1
    exact executor_leads_escape (fun w hw => decide_eq_true hw) fun _ _ _ _ _ => trivial

theorem submitIntent_leads (intent : OrderIntent) (clock : SubmitClock) :
    ExecutorLeads env actionId venueId (FliesRecorded actionId stepId)
      (fun _ w => w.ledger.InFlight actionId stepId) (fun w => w.ledger.Recorded)
      ((carryExecutor venueId).submitIntent intent clock) := by
  have hplaced (record : OrderRecord) : ExecutorLeads env actionId venueId
      (FliesRecorded actionId stepId) (fun _ w => w.ledger.InFlight actionId stepId)
      (fun w => w.ledger.Recorded) (do
        call (.save record)
        (carryExecutor venueId).submitLoop intent record clock 1 0) := by
    refine Task.Leads.bind (executor_leads_recorded fun _ => by simp) fun _ => ?_
    exact (submitLoop_leads _ intent record clock 1).mono (fun _ hw => hw.1) (fun _ _ hw => hw)
      fun _ hw => hw
  refine Task.Leads.bind (executor_leads_recorded fun _ => by simp) fun existing => ?_
  cases existing with
  | none => exact hplaced _
  | some record =>
    dsimp only
    split_ifs
    · exact Task.leads_done fun _ hw => hw.1
    · exact hplaced record

end Executor

/-! ### Stages that have no effect -/

theorem completeExecution_quiet (input : ExecuteCarryInput) (ctx : ExecutionContext)
    (orderResults : List CarryOrderResult) :
    (completeExecution input ctx orderResults).Uses CarryCall.quiet := by
  refine ((uses_finalizePlan _ _ _ _).mono fun _ hc =>
    CarryCall.quiet_of_ofFailure (Or.inr hc)).bind fun finalHedgeDeviation => ?_
  refine Task.Uses.call_bind (by simp [CarryCall.quiet]) fun _ => ?_
  refine Task.Uses.call_bind trivial fun _ => ?_
  refine Task.Uses.call_bind trivial fun _ => ?_
  refine Task.Uses.call_bind trivial fun _ => ?_
  refine ((uses_syncLinkedBundle _).mono fun _ => CarryCall.quiet_of_ofExit).bind fun _ => ?_
  exact Task.Uses.call_bind trivial fun _ => trivial

theorem buildCarryExecutionStepMetadata_keepsLinked (plannedOrder : CarryPlannedOrder)
    (capturedAt : Date) :
    (buildCarryExecutionStepMetadata plannedOrder capturedAt).Uses CarryCall.keepsLinked :=
  Task.Uses.tryCatch (Task.Uses.call_bind trivial fun _ => trivial) fun _ => trivial

/-! ### Orders -/

/-- There is evidence of every effect, and the action is executing. -/
abbrev MarkedRecorded (actionId : String) (w : CarryWorld) : Prop :=
  w.ledger.Recorded ∧ w.ledger.Marked actionId

theorem leads_marked {t : CarryTask α} (ht : t.Uses CarryCall.keepsLinked) :
    CarryLeads env (MarkedRecorded actionId) (fun _ => MarkedRecorded actionId) t := by
  refine (ht.leads (I := MarkedRecorded actionId) fun c w hc hw _ => ?_).mono (fun _ hw => hw)
    (fun _ _ hw => hw) fun _ hw => hw.1
  have hrecorded : (handleCarry env c w).2.ledger.Recorded :=
    hw.1.grows (grows_handleCarry (CarryCall.quiet_of_keepsLinked hc))
  refine ⟨hrecorded.safe, hrecorded, fun row hrow => hw.2 row ?_⟩
  rwa [rows_handleCarry hc] at hrow

theorem leads_flying (hc : c.keepsLinked) (hescapes : ∀ orders, c.escapes orders = true) :
    CarryLeads env (fun w => w.ledger.InFlight actionId stepId)
      (fun _ w => w.ledger.InFlight actionId stepId) (Task.call c) := by
  refine Task.leads_call fun w hw hlost => ?_
  have hflight : (handleCarry env c w).2.ledger.InFlight actionId stepId :=
    hw.grows (grows_handleCarry (CarryCall.quiet_of_keepsLinked hc)) (rows_handleCarry hc)
  exact ⟨hflight.safe, fun _ _ => hflight, fun _ => recorded_of_error hlost (hescapes _)⟩

theorem recordOrder_leads (action : CarryAction) (record : OrderRecord) (now : Date) :
    CarryLeads env (fun w => w.ledger.InFlight actionId stepId)
      (fun _ w => w.ledger.InFlight actionId stepId) (recordOrder action record now) := by
  unfold recordOrder
  cases action.strategyRunId with
  | none => exact Task.leads_done fun _ hw => hw
  | some runId =>
    refine Task.Leads.bind (leads_flying trivial fun _ => rfl) fun _ => ?_
    cases record.averageFillPrice with
    | none => exact Task.leads_done fun _ hw => hw
    | some averageFillPrice =>
      dsimp only
      split_ifs
      · exact Task.leads_done fun _ hw => hw
      · exact leads_flying trivial fun _ => rfl

theorem recordedStep_leads {p : CarryStepPatch} {reference : String}
    (hp : p.executionReference = some (some reference)) :
    CarryLeads env (fun w => w.ledger.InFlight actionId stepId)
      (fun _ => MarkedRecorded actionId)
      (Task.call (.updateCarryExecutionStep stepId p)) := by
  have hkeeps : (CarryCall.updateCarryExecutionStep stepId p).keepsLinked := by
    simp [CarryCall.keepsLinked, CarryCall.quiet, hp]
  refine Task.leads_call fun w hw hlost => ?_
  have hflight : (handleCarry env (.updateCarryExecutionStep stepId p) w).2.ledger.InFlight actionId
      stepId :=
    hw.grows (grows_handleCarry (CarryCall.quiet_of_keepsLinked hkeeps)) (rows_handleCarry hkeeps)
  refine ⟨hflight.safe, fun _ ha => ⟨hflight.recorded ?_, hflight.executing⟩,
    fun _ => recorded_of_error hlost rfl⟩
  rw [(performCarry_of_ok ha).2]
  exact evident_updateCarryExecutionStep hp hw.record

namespace ExecutionContext

variable (ctx : ExecutionContext)

theorem fails_failStep (stepId : String) (orderResults : List CarryOrderResult)
    (message : String) : (ctx.failStep stepId orderResults message).Fails := by
  unfold ExecutionContext.failStep
  repeat
    apply Task.fails_bind
    intro _
  trivial

theorem fails_refuseVenue (stepId venueId : String) : (ctx.refuseVenue stepId venueId).Fails := by
  unfold ExecutionContext.refuseVenue
  repeat
    apply Task.fails_bind
    intro _
  trivial

theorem attemptOrder_leads (plannedOrder : CarryPlannedOrder) (step : CarryExecutionStep)
    (metadata : Metadata) (readings : StepReadings) :
    CarryLeads env (FliesRecorded ctx.detail.action.id step.id)
      (fun _ => MarkedRecorded ctx.detail.action.id)
      (ctx.attemptOrder plannedOrder step metadata readings) := by
  refine Task.Leads.bind (leads_onBehalfOf (submitIntent_leads _ _)) fun orderRecord => ?_
  refine Task.Leads.bind (recordOrder_leads _ _ _) fun _ => ?_
  refine Task.Leads.bind (recordedStep_leads rfl) fun _ => ?_
  refine Task.Leads.bind (leads_marked
    ((uses_completeLeg _ _ _).mono fun _ => CarryCall.keepsLinked_of_ofLegs)) fun _ => ?_
  exact Task.leads_done fun _ hw => hw

theorem createCarryExecutionStep_leads {step : CarryExecutionStep}
    (hid : step.carryActionId = actionId) :
    CarryLeads env (MarkedRecorded actionId)
      (fun (created : CarryExecutionStep) => FliesRecorded actionId created.id)
      (Task.call (CarryCall.createCarryExecutionStep step)) := by
  subst hid
  refine Task.leads_call (c := CarryCall.createCarryExecutionStep step) fun w hw _ => ?_
  have hrecorded : (handleCarry env (.createCarryExecutionStep step) w).2.ledger.Recorded :=
    hw.1.grows (grows_handleCarry trivial)
  refine ⟨hrecorded.safe, fun created hcreated => ⟨⟨?_, ?_, fun id hid => ?_⟩, hrecorded⟩,
    fun _ _ => hrecorded⟩
  · intro row hrow
    rw [rows_handleCarry (c := .createCarryExecutionStep step) trivial] at hrow
    exact hw.2 row hrow
  · obtain ⟨hanswer, hafter⟩ := performCarry_of_ok hcreated
    obtain rfl : (w.tables.createCarryExecutionStep step).1 = created := Except.ok.inj hanswer
    rw [hafter]
    exact mem_records.2 ⟨_, List.mem_append_right _ (List.mem_singleton_self _), rfl, rfl⟩
  · exact Or.inr (hrecorded id hid)

theorem submitOrder_leads (plannedOrder : CarryPlannedOrder) (readings : StepReadings)
    (orderResults : List CarryOrderResult) :
    CarryLeads env (MarkedRecorded ctx.detail.action.id)
      (fun _ => MarkedRecorded ctx.detail.action.id)
      (ctx.submitOrder plannedOrder readings orderResults) := by
  unfold ExecutionContext.submitOrder
  dsimp only
  split_ifs
  · refine Task.Leads.bind (leads_marked (buildCarryExecutionStepMetadata_keepsLinked _ _))
      fun metadata => ?_
    refine Task.Leads.bind (createCarryExecutionStep_leads rfl) fun step => ?_
    refine Task.Leads.tryCatch (E := fun w => w.ledger.Recorded)
      (ctx.attemptOrder_leads plannedOrder step metadata readings) fun message => ?_
    exact (CarryCall.leads_quiet ((uses_failStep ctx step.id orderResults message).mono
      fun _ => CarryCall.quiet_of_ofFailure)).of_fails (ctx.fails_failStep _ _ _)
  · refine Task.Leads.bind (createCarryExecutionStep_leads rfl) fun step => ?_
    exact ((CarryCall.leads_quiet ((uses_refuseVenue ctx step.id _).mono
      fun _ => CarryCall.quiet_of_ofExit)).of_fails (ctx.fails_refuseVenue _ _)).mono
        (fun _ hw => hw.2) (fun _ _ hw => hw) fun _ hw => hw

theorem submitOrders_leads (plannedOrders : List CarryPlannedOrder) (position : ℕ)
    (orderResults : List CarryOrderResult) :
    CarryLeads env (MarkedRecorded ctx.detail.action.id)
      (fun _ => MarkedRecorded ctx.detail.action.id)
      (ctx.submitOrders position plannedOrders orderResults) := by
  induction plannedOrders generalizing position orderResults with
  | nil => exact Task.leads_done fun _ hw => hw
  | cons plannedOrder plannedOrders ih =>
    exact (ctx.submitOrder_leads plannedOrder _ orderResults).bind fun result =>
      ih (position + 1) (orderResults ++ [result])

end ExecutionContext

/-! ### The whole execution -/

theorem markCarryActionExecuting_leads :
    CarryLeads env (fun w => w.ledger.Recorded) (fun _ => MarkedRecorded actionId)
      (Task.call (.markCarryActionExecuting actionId)) := by
  refine Task.leads_call fun w hw _ => ?_
  have hrecorded : (handleCarry env (.markCarryActionExecuting actionId) w).2.ledger.Recorded :=
    hw.grows (grows_handleCarry trivial)
  exact ⟨hrecorded.safe, fun _ hu => ⟨hrecorded, marked_markCarryActionExecuting hu⟩,
    fun _ _ => hrecorded⟩

theorem leads_stopped {t : CarryTask α} (ht : t.Uses CarryCall.ofExit) (hfails : t.Fails) :
    CarryLeads env (MarkedRecorded actionId) W' t :=
  ((CarryCall.leads_quiet (ht.mono fun _ => CarryCall.quiet_of_ofExit)).of_fails hfails).mono
    (fun _ hw => hw.1) (fun _ _ hw => hw) fun _ hw => hw

theorem unlessBlocked_leads (input : ExecuteCarryInput) (action : CarryAction)
    (executionId : String) (blocks : List CarryBlockedReason) :
    CarryLeads env (MarkedRecorded actionId) (fun _ => MarkedRecorded actionId)
      (unlessBlocked input action executionId blocks) := by
  by_cases hblocks : blocks = []
  · rw [unlessBlocked, if_pos hblocks]
    exact Task.leads_done fun _ hw => hw
  · exact leads_stopped (uses_unlessBlocked _ _ input blocks)
      (unlessBlocked_fails input action executionId hblocks)

theorem unlessStopped_leads (action : CarryAction) (executionId : String)
    (stop : Option GuardrailStop) :
    CarryLeads env (MarkedRecorded actionId) (fun _ => MarkedRecorded actionId)
      (unlessStopped action executionId stop) := by
  cases stop with
  | none => exact Task.leads_done fun _ hw => hw
  | some stop =>
    exact leads_stopped (uses_unlessStopped _ _ (some stop))
      (unlessStopped_fails action executionId stop)

theorem enforceGuardrails_leads (detail : CarryActionDetail) (executionId : String) :
    CarryLeads env (MarkedRecorded actionId) (fun _ => MarkedRecorded actionId)
      (enforceGuardrails detail executionId) := by
  refine Task.Leads.bind (leads_marked (Task.uses_call trivial)) fun config => ?_
  refine Task.Leads.bind (unlessStopped_leads _ _ _) fun _ => ?_
  refine Task.Leads.bind (leads_marked (Task.uses_call trivial)) fun executing => ?_
  exact unlessStopped_leads _ _ _

section

variable (runtime : SentinelRuntime) (input : ExecuteCarryInput) (readings : ℕ → StepReadings)
  (now : Date)

theorem runExecution_leads (detail : CarryActionDetail) (executionId : String) :
    CarryLeads env (fun w => w.ledger.Recorded) (fun _ w => w.ledger.Recorded)
      (runExecution runtime input readings now detail executionId) := by
  refine Task.Leads.bind (V := fun _ => MarkedRecorded detail.action.id)
    markCarryActionExecuting_leads fun _ => ?_
  refine Task.Leads.bind (leads_marked (Task.uses_call trivial)) fun venues => ?_
  refine Task.Leads.bind (unlessBlocked_leads input _ _ _) fun _ => ?_
  refine Task.Leads.bind (enforceGuardrails_leads detail executionId) fun _ => ?_
  rw [planOrders_eq]
  refine Task.Leads.bind (V := fun _ => MarkedRecorded detail.action.id)
    (Task.leads_done fun _ hw => hw) fun planId => ?_
  refine Task.Leads.bind (ExecutionContext.submitOrders_leads
    { runtime, detail, executionId, venues, planId, readings } detail.plannedOrders 0 [])
    fun orderResults => ?_
  exact (CarryCall.leads_quiet (completeExecution_quiet input _ orderResults)).mono
    (fun _ hw => hw.1) (fun _ _ hw => hw) fun _ hw => hw

/-- If no call loses an effect, an execution keeps the ledger safe and ends with evidence of every
effect. -/
theorem executeCarryAction_leads :
    CarryLeads env (fun w => w.ledger.Recorded) (fun _ w => w.ledger.Recorded)
      (executeCarryAction runtime input readings now) := by
  refine Task.Leads.bind (CarryCall.leads_quiet (Task.uses_call trivial)) fun detail => ?_
  cases detail with
  | none => exact Task.leads_fail fun _ hw => hw
  | some detail =>
    dsimp only
    split_ifs
    · exact Task.leads_fail fun _ hw => hw
    · refine Task.Leads.bind (CarryCall.leads_quiet (Task.uses_call trivial)) fun execution => ?_
      exact runExecution_leads runtime input readings now detail execution.id
    · refine CarryCall.leads_quiet (Task.Uses.call_bind trivial fun execution => ?_)
      exact (uses_refuseExecution _ _).mono fun _ => CarryCall.quiet_of_ofExit

end

end Stages

end SentinelApex
