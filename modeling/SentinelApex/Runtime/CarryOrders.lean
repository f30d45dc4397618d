import SentinelApex.Runtime.OrderSubmission

/-!
# The orders of a carry execution

The loop over the planned orders while the store and the audit writer work
(`CarryEnvironment.reliable`) and the venues answer as they like. An order with an adapter and a
row that can be written is settled by the answer of its venue, any other order fails the action
(`submitOrder_run`); so the loop returns exactly if every order can be settled, and then it leaves
every record in the status that the answers give it (`submitOrders_run`).
-/

namespace SentinelApex

open Async RuntimeOrderStore

def CarryEnvironment.reliable (env : CarryEnvironment) : CarryEnvironment :=
  { env with faults := fun _ => none }

theorem handleCarry_reliable (env : CarryEnvironment) (c : CarryCall) (w : CarryWorld) :
    handleCarry env.reliable c w =
      ((performCarry env.reliable w c).1,
        { (performCarry env.reliable w c).2 with calls := w.calls + 1 }) := by
  unfold handleCarry
  cases c.asksVenue <;> rfl

/-- The answers of the venues to the orders with a given id; `start` is the number of the first
step. -/
def answersFor (env : CarryEnvironment) (start : ℕ) (orders : List CarryPlannedOrder)
    (intentId : String) : List (Except String PlaceOrderResult) :=
  ((orders.zipIdx start).filter fun entry => decide (entry.1.intentId = intentId)).map
    fun entry => env.placeOrder entry.2

/-- The answer is neither an exception nor a rejection. -/
def isTaken : Except String PlaceOrderResult → Bool
  | .ok result => decide (result.status ≠ .rejected)
  | .error _ => false

/-- The order was filled before, or it is still to be placed and the first answer that takes it
fills it. -/
def FilledBy (status : Option OrderStatus) (answers : List (Except String PlaceOrderResult)) :
    Prop :=
  status = some .filled ∨
    ((∀ s, status = some s → IsOpen s) ∧
      ∃ result, answers.find? isTaken = some (.ok result) ∧ result.status = .filled)

/-- The first order with its id can be written; the later ones find its row. -/
def AllSubmittable (store : RuntimeOrderStore) (orders : List CarryPlannedOrder) : Prop :=
  ∀ intentId first, (orders.find? fun order => decide (order.intentId = intentId)) = some first →
    store.Submittable intentId first.metadata

variable {w : CarryWorld}

section

variable (env : CarryEnvironment)

variable {α : Type} {status : OrderStatus}

/-- An operation of the executor within an execution does to the order tables what it does alone. -/
theorem onBehalfOf_run (carryActionId venueId : String) (t : ExecTask α) (w : CarryWorld) :
    ∃ w', (onBehalfOf carryActionId venueId t).run (handleCarry env.reliable) w =
        ((t.run (handleDesk env.reliable (w.steps - 1)) ⟨w.orders, w.calls⟩).1, w') ∧
      w'.orders = (t.run (handleDesk env.reliable (w.steps - 1)) ⟨w.orders, w.calls⟩).2.orders ∧
      w'.tables = w.tables ∧ w'.steps = w.steps := by
  set h := handleDesk env.reliable (w.steps - 1)
  have hrun := Task.embed_run (f := CarryCall.executor carryActionId venueId) (g := fun _ r => r) h
    (handleCarry env.reliable) (fun d w' => w'.orders = d.orders ∧ w'.calls = d.calls ∧
      w'.tables = w.tables ∧ w'.steps = w.steps) ?_ t (s := ⟨w.orders, w.calls⟩)
    ⟨rfl, rfl, rfl, rfl⟩
  · obtain ⟨hreply, horders, -, htables, hsteps⟩ := hrun
    exact ⟨_, Prod.ext hreply rfl, horders, htables, hsteps⟩
  · rintro c d w' ⟨horders, hcalls, htables, hsteps⟩
    rw [handleCarry_reliable]
    simp only [performCarry, horders, hcalls, hsteps, h, handleDesk]
    refine ⟨?_, trivial, trivial, htables, trivial⟩
    cases (orderCall env.reliable (w.steps - 1) d.calls d.orders c).1 <;> rfl

/-- The actions, the executions and the rows of the orders are the same, and so is the number of
steps. -/
structure SameRows (w w' : CarryWorld) : Prop where
  actions : w'.tables.actions = w.tables.actions
  executions : w'.tables.executions = w.tables.executions
  orders : SameOrders w.orders w'.orders
  steps : w'.steps = w.steps

theorem SameRows.refl (w : CarryWorld) : SameRows w w := ⟨rfl, rfl, ⟨rfl, rfl⟩, rfl⟩

theorem SameRows.trans {w' w'' : CarryWorld} (h : SameRows w w') (h' : SameRows w' w'') :
    SameRows w w'' where
  actions := h'.actions.trans h.actions
  executions := h'.executions.trans h.executions
  orders := ⟨h'.orders.1.trans h.orders.1, h'.orders.2.trans h.orders.2⟩
  steps := h'.steps.trans h.steps

/-- The call leaves the actions, the executions, the rows of the orders and the number of steps. -/
def CarryCall.keepsRows : CarryCall → Bool
  | .createCarryExecution _ => false
  | .failCarryAction .. => false
  | .markCarryActionExecuting _ => false
  | .completeCarryAction .. => false
  | .updateCarryExecution .. => false
  | .createCarryExecutionStep _ => false
  | .executor .. => false
  | _ => true

theorem sameRows_handleCarry {c : CarryCall} (hc : c.keepsRows = true) (w : CarryWorld) :
    SameRows w (handleCarry env.reliable c w).2 := by
  rw [handleCarry_reliable]
  cases c with
  | createCarryExecution input | failCarryAction id executionId message
  | markCarryActionExecuting id | completeCarryAction id executionId
  | updateCarryExecution id p | createCarryExecutionStep step
  | executor carryActionId venueId c => cases hc
  | persistFill orderId fill =>
    refine ⟨rfl, rfl, ⟨persistFill_orders _ _ _ _ _, ?_⟩, rfl⟩
    show (w.orders.persistFill _ _ _ _).strategyRuns = _
    unfold persistFill insertFill
    split
    · rfl
    · split
      · rfl
      · split_ifs <;> rfl
  | _ => exact ⟨rfl, rfl, ⟨rfl, rfl⟩, rfl⟩

theorem sameRows_run {t : CarryTask α} (ht : t.Uses fun c => c.keepsRows = true) (w : CarryWorld) :
    SameRows w (t.run (handleCarry env.reliable) w).2 :=
  ht.run (I := fun w' => SameRows w w')
    (fun _ _ hc hw => hw.trans (sameRows_handleCarry env hc _)) (SameRows.refl w)

theorem uses_persistExecutionRecord {p : CarryCall → Prop}
    (hevent : ∀ event, p (.persistExecutionEvent event))
    (hfill : ∀ orderId fill, p (.persistFill orderId fill)) (runId : String)
    (record : OrderRecord) (now : Date) : (persistExecutionRecord runId record now).Uses p := by
  unfold persistExecutionRecord
  refine Task.Uses.call_bind (hevent _) fun _ => ?_
  cases record.averageFillPrice with
  | none => trivial
  | some averageFillPrice =>
    dsimp only
    split_ifs
    · trivial
    · exact Task.uses_call (hfill _ _)

theorem persistExecutionRecord_run (runId : String) (record : OrderRecord) (now : Date)
    (w : CarryWorld) :
    ((persistExecutionRecord runId record now).run (handleCarry env.reliable) w).1 = .ok () := by
  unfold persistExecutionRecord
  rw [Task.run_call_bind, handleCarry_reliable]
  simp only [performCarry]
  cases record.averageFillPrice with
  | none => rfl
  | some averageFillPrice =>
    dsimp only
    split_ifs
    · rfl
    · rw [Task.run_call, handleCarry_reliable]
      rfl

theorem recordOrder_run (action : CarryAction) (record : OrderRecord) (now : Date)
    (w : CarryWorld) :
    ∃ w', (recordOrder action record now).run (handleCarry env.reliable) w = (.ok (), w') ∧
      SameRows w w' := by
  unfold recordOrder
  cases action.strategyRunId with
  | none => exact ⟨w, rfl, SameRows.refl w⟩
  | some runId =>
    exact ⟨_, Prod.ext (persistExecutionRecord_run env runId record now w) rfl,
      sameRows_run env (uses_persistExecutionRecord (fun _ => rfl) (fun _ _ => rfl) runId record now) w⟩

variable (ctx : ExecutionContext) (hplan : ctx.planId = none)

include hplan

variable (answer : Except String PlaceOrderResult) (plannedOrder : CarryPlannedOrder)

theorem attemptOrder_run (step : CarryExecutionStep) (metadata : Metadata) (readings : StepReadings)
    (w : CarryWorld) :
    (w.orders.Submittable plannedOrder.intentId metadata →
      ∃ result w', (ctx.attemptOrder plannedOrder step metadata readings).run
          (handleCarry env.reliable) w = (.ok result, w') ∧
        w'.tables.actions = w.tables.actions ∧ w'.tables.executions = w.tables.executions ∧
        w'.steps = w.steps ∧
        Settled w.orders w'.orders plannedOrder.intentId
          (nextStatus (w.orders.statusOf plannedOrder.intentId) (env.placeOrder (w.steps - 1)))) ∧
    (¬ w.orders.Submittable plannedOrder.intentId metadata →
      ∃ message w', (ctx.attemptOrder plannedOrder step metadata readings).run
          (handleCarry env.reliable) w = (.error message, w') ∧
        w'.tables.actions = w.tables.actions) := by
  set intent := plannedOrder.toIntent
    (ctx.detail.action.opportunityId.getD readings.opportunityId) metadata
  obtain ⟨hsettles, hrefuses⟩ := submitIntent_settles env.reliable (w.steps - 1)
    plannedOrder.venueId intent readings.submit ⟨w.orders, w.calls⟩
  obtain ⟨w₁, hrun₁, horders₁, htables₁, hsteps₁⟩ := onBehalfOf_run env ctx.detail.action.id
    plannedOrder.venueId ((carryExecutor plannedOrder.venueId).submitIntent intent
      readings.submit) w
  unfold ExecutionContext.attemptOrder
  rw [Task.run_bind, hrun₁]
  constructor
  · intro hsubmittable
    obtain ⟨record, d', hrun, hsettled⟩ := hsettles hsubmittable
    rw [hrun] at horders₁ ⊢
    obtain ⟨w₂, hrun₂, hsame₂⟩ := recordOrder_run env ctx.detail.action record
      readings.filledAt w₁
    dsimp only
    rw [Task.run_bind, hrun₂]
    dsimp only
    rw [Task.run_call_bind, handleCarry_reliable, hplan]
    refine ⟨_, _, rfl, ?_, ?_, ?_, ?_⟩
    · exact hsame₂.actions.trans (by rw [htables₁])
    · exact hsame₂.executions.trans (by rw [htables₁])
    · exact hsame₂.steps.trans hsteps₁
    · rw [← horders₁] at hsettled
      exact hsettled.of_same hsame₂.orders
  · intro hsubmittable
    obtain ⟨message, hrun⟩ := hrefuses hsubmittable
    rw [hrun]
    exact ⟨message, w₁, rfl, by rw [htables₁]⟩

omit hplan in
theorem buildCarryExecutionStepMetadata_run (capturedAt : Date) (w : CarryWorld) :
    ∃ metadata w', (buildCarryExecutionStepMetadata plannedOrder capturedAt).run
        (handleCarry env.reliable) w = (.ok metadata, w') ∧
      w'.tables = w.tables ∧ w'.orders = w.orders ∧ w'.steps = w.steps ∧
      ∀ store : RuntimeOrderStore, ∀ intentId,
        store.Submittable intentId metadata ↔ store.Submittable intentId plannedOrder.metadata := by
  have hset (context : Json) (store : RuntimeOrderStore) (intentId : String) :
      store.Submittable intentId
          (plannedOrder.metadata.set preTradePositionContextMetadataKey context) ↔
        store.Submittable intentId plannedOrder.metadata := by
    have hget (key : String) (hkey : preTradePositionContextMetadataKey ≠ key) :
        Metadata.string? (plannedOrder.metadata.set preTradePositionContextMetadataKey context)
          key = plannedOrder.metadata.string? key := by
      rw [Metadata.string?, Metadata.string?, OrderedMap.get?_set_of_ne _ hkey]
    unfold Submittable Persistable
    rw [hget "sleeveId" (by decide), hget "runId" (by decide)]
  unfold buildCarryExecutionStepMetadata
  rw [Task.run_tryCatch, Task.run_call_bind, handleCarry_reliable]
  simp only [performCarry]
  cases env.reliable.getPositions w.calls with
  | ok positions | error message => exact ⟨_, _, rfl, rfl, rfl, rfl, hset _⟩

omit hplan in
theorem failCarryAction_run (action : CarryAction) (executionId message : String)
    (p : CarryExecutionPatch) (hfound : w.tables.findAction action.id ≠ none) :
    ∃ w', (do
        (CarryCall.updateCarryExecution executionId p).send
        (CarryCall.failCarryAction action.id executionId message).send
        syncLinkedBundle action
        .fail message : CarryTask α).run (handleCarry env.reliable) w = (.error message, w') ∧
      w'.tables.actionStatus action.id = some .failed := by
  have hstatus : ((w.tables.updateCarryExecution executionId p).failCarryAction action.id
      executionId message).actionStatus action.id = some .failed := by
    unfold CarryTables.failCarryAction CarryTables.actionStatus
    rw [CarryTables.findAction_updateAction _ (by intro row; rfl)]
    obtain ⟨row, hrow⟩ := Option.ne_none_iff_exists'.1 hfound
    have hsame : (w.tables.updateCarryExecution executionId p).findAction action.id = some row :=
      hrow
    simp [hsame]
  rw [Task.run_call_bind, handleCarry_reliable]
  dsimp only [performCarry]
  rw [Task.run_call_bind, handleCarry_reliable]
  dsimp only [performCarry]
  rw [Task.run_bind]
  unfold syncLinkedBundle
  cases action.linkedRebalanceProposalId with
  | none => exact ⟨_, rfl, hstatus⟩
  | some proposalId =>
    dsimp only
    rw [Task.run_call, handleCarry_reliable]
    exact ⟨_, rfl, hstatus⟩

theorem failStep_run (stepId : String) (orderResults : List CarryOrderResult) (message : String)
    (hfound : w.tables.findAction ctx.detail.action.id ≠ none) :
    ∃ w', (ctx.failStep stepId orderResults message).run (handleCarry env.reliable) w =
        (.error message, w') ∧
      w'.tables.actionStatus ctx.detail.action.id = some .failed := by
  unfold ExecutionContext.failStep
  rw [Task.run_call_bind, handleCarry_reliable, hplan]
  exact failCarryAction_run env ctx.detail.action ctx.executionId message _ hfound

omit hplan in
theorem refuseVenue_run (stepId venueId : String)
    (hfound : w.tables.findAction ctx.detail.action.id ≠ none) :
    ∃ message w', (ctx.refuseVenue stepId venueId).run (handleCarry env.reliable) w =
        (.error message, w') ∧
      w'.tables.actionStatus ctx.detail.action.id = some .failed := by
  unfold ExecutionContext.refuseVenue
  rw [Task.run_call_bind, handleCarry_reliable]
  exact ⟨_, failCarryAction_run env ctx.detail.action ctx.executionId _ _ hfound⟩

omit hplan in
theorem createStep_handle (step : CarryExecutionStep) (w : CarryWorld) :
    ∃ row w', handleCarry env.reliable (.createCarryExecutionStep step) w = (.ok row, w') ∧
      w'.tables.actions = w.tables.actions ∧ w'.tables.executions = w.tables.executions ∧
      w'.orders = w.orders ∧ w'.steps = w.steps + 1 :=
  ⟨_, _, handleCarry_reliable env _ w, rfl, rfl, rfl, rfl⟩

/-- One pass of the loop: an order with an adapter and a row that can be written is settled, and any
other order fails the action. -/
theorem submitOrder_run (readings : StepReadings) (orderResults : List CarryOrderResult)
    (hfound : w.tables.findAction ctx.detail.action.id ≠ none) :
    (ctx.runtime.adapters.contains plannedOrder.venueId = true ∧
        w.orders.Submittable plannedOrder.intentId plannedOrder.metadata →
      ∃ result w', (ctx.submitOrder plannedOrder readings orderResults).run
          (handleCarry env.reliable) w = (.ok result, w') ∧
        w'.tables.actions = w.tables.actions ∧ w'.tables.executions = w.tables.executions ∧
        w'.steps = w.steps + 1 ∧
        Settled w.orders w'.orders plannedOrder.intentId
          (nextStatus (w.orders.statusOf plannedOrder.intentId) (env.placeOrder w.steps))) ∧
    (¬ (ctx.runtime.adapters.contains plannedOrder.venueId = true ∧
        w.orders.Submittable plannedOrder.intentId plannedOrder.metadata) →
      ∃ message w', (ctx.submitOrder plannedOrder readings orderResults).run
          (handleCarry env.reliable) w = (.error message, w') ∧
        w'.tables.actionStatus ctx.detail.action.id = some .failed) := by
  unfold ExecutionContext.submitOrder
  have hfound_of {w' : CarryWorld} (h : w'.tables.actions = w.tables.actions) :
      w'.tables.findAction ctx.detail.action.id ≠ none := by
    rw [CarryTables.findAction, h]
    exact hfound
  by_cases hadapter : ctx.runtime.adapters.contains plannedOrder.venueId = true
  · obtain ⟨metadata, w₁, hrun₁, htables₁, horders₁, hsteps₁, hsubmittable₁⟩ :=
      buildCarryExecutionStepMetadata_run env plannedOrder readings.capturedAt w
    obtain ⟨step, w₂, hcreate, hactions₂, hexecutions₂, horders₂, hsteps₂⟩ :=
      createStep_handle env (plannedOrder.toStep ctx.detail.action ctx.executionId
        ((venueById ctx.venues plannedOrder.venueId).getD
          (unregisteredVenue ctx.detail.action plannedOrder.venueId)) metadata) w₁
    obtain ⟨hsettled, hrefused⟩ :=
      attemptOrder_run env ctx hplan plannedOrder step metadata readings w₂
    rw [htables₁] at hactions₂ hexecutions₂
    rw [horders₁] at horders₂
    rw [hsteps₁] at hsteps₂
    rw [horders₂, hsteps₂, Nat.add_sub_cancel, hsubmittable₁] at hsettled
    rw [horders₂, hsubmittable₁] at hrefused
    simp only [hadapter, if_true, true_and]
    rw [Task.run_bind, hrun₁]
    dsimp only
    rw [Task.run_call_bind_of_eq _ hcreate, Task.run_tryCatch]
    constructor
    · intro hsubmittable
      obtain ⟨result, w₃, hrun₃, hactions₃, hexecutions₃, hsteps₃, hrow⟩ := hsettled hsubmittable
      rw [hrun₃]
      exact ⟨result, w₃, rfl, hactions₃.trans hactions₂, hexecutions₃.trans hexecutions₂,
        hsteps₃, hrow⟩
    · intro hsubmittable
      obtain ⟨message, w₃, hrun₃, hactions₃⟩ := hrefused hsubmittable
      rw [hrun₃]
      obtain ⟨w₄, hrun₄, hstatus⟩ := failStep_run env ctx hplan step.id orderResults message
        (hfound_of (hactions₃.trans hactions₂))
      exact ⟨message, w₄, hrun₄, hstatus⟩
  · obtain ⟨step, w₂, hcreate, hactions₂, -⟩ :=
      createStep_handle env (plannedOrder.toStep ctx.detail.action ctx.executionId
        ((venueById ctx.venues plannedOrder.venueId).getD
          (unregisteredVenue ctx.detail.action plannedOrder.venueId)) plannedOrder.metadata) w
    simp only [hadapter, if_false, false_and, not_false_eq_true, true_imp_iff, false_imp_iff,
      true_and, Bool.false_eq_true]
    rw [Task.run_call_bind_of_eq _ hcreate]
    exact refuseVenue_run env ctx _ _ (hfound_of hactions₂)

omit hplan in
theorem answersFor_cons (start : ℕ) (order : CarryPlannedOrder) (orders : List CarryPlannedOrder)
    (intentId : String) :
    answersFor env start (order :: orders) intentId =
      (if order.intentId = intentId then [env.placeOrder start] else []) ++
        answersFor env (start + 1) orders intentId := by
  unfold answersFor
  rw [List.zipIdx_cons, List.filter_cons]
  by_cases hid : order.intentId = intentId <;> simp [hid]

def finalStatus (status : Option OrderStatus) (answers : List (Except String PlaceOrderResult)) :
    Option OrderStatus :=
  answers.foldl (fun status answer => some (nextStatus status answer)) status

omit hplan in
/-- After an order is settled, the later ones can be submitted if they could be before. -/
theorem allSubmittable_cons {store store' : RuntimeOrderStore} {order : CarryPlannedOrder}
    {orders : List CarryPlannedOrder} (h : Settled store store' order.intentId status) :
    AllSubmittable store (order :: orders) ↔
      store.Submittable order.intentId order.metadata ∧ AllSubmittable store' orders := by
  unfold AllSubmittable
  constructor
  · intro hall
    refine ⟨hall order.intentId order (by simp), fun intentId first hfirst => ?_⟩
    by_cases hid : intentId = order.intentId
    · subst hid
      exact h.submittable_self _
    · rw [h.submittable_ne hid]
      refine hall intentId first ?_
      rw [List.find?_cons_of_neg (by simpa using Ne.symm hid)]
      exact hfirst
  · rintro ⟨hhead, htail⟩ intentId first hfirst
    by_cases hid : intentId = order.intentId
    · subst hid
      rw [List.find?_cons_of_pos (by simp)] at hfirst
      obtain rfl := Option.some.inj hfirst
      exact hhead
    · rw [List.find?_cons_of_neg (by simpa using Ne.symm hid)] at hfirst
      exact (h.submittable_ne hid _).1 (htail intentId first hfirst)

theorem submitOrders_run (position : ℕ) (orders : List CarryPlannedOrder)
    (orderResults : List CarryOrderResult)
    (hfound : w.tables.findAction ctx.detail.action.id ≠ none) :
    ((∀ order ∈ orders, ctx.runtime.adapters.contains order.venueId = true) ∧
        AllSubmittable w.orders orders →
      ∃ results w', (ctx.submitOrders position orders orderResults).run
          (handleCarry env.reliable) w = (.ok results, w') ∧
        results.length = orderResults.length + orders.length ∧
        w'.tables.actions = w.tables.actions ∧ w'.tables.executions = w.tables.executions ∧
        ∀ intentId, w'.orders.statusOf intentId =
          finalStatus (w.orders.statusOf intentId) (answersFor env w.steps orders intentId)) ∧
    (¬ ((∀ order ∈ orders, ctx.runtime.adapters.contains order.venueId = true) ∧
        AllSubmittable w.orders orders) →
      ∃ message w', (ctx.submitOrders position orders orderResults).run
          (handleCarry env.reliable) w = (.error message, w') ∧
        w'.tables.actionStatus ctx.detail.action.id = some .failed) := by
  induction orders generalizing position orderResults w with
  | nil =>
    refine ⟨fun _ => ⟨orderResults, w, rfl, rfl, rfl, rfl, fun _ => rfl⟩, fun h => ?_⟩
    exact absurd ⟨by simp, fun _ _ h => by simp at h⟩ h
  | cons order orders ih =>
    obtain ⟨hsettled, hfailed⟩ := submitOrder_run env ctx hplan order (ctx.readings position)
      orderResults hfound
    unfold ExecutionContext.submitOrders
    rw [Task.run_bind]
    by_cases hfirst : ctx.runtime.adapters.contains order.venueId = true ∧
        w.orders.Submittable order.intentId order.metadata
    · obtain ⟨result, w₁, hrun₁, hactions₁, hexecutions₁, hsteps₁, hrow₁⟩ := hsettled hfirst
      have hfound₁ : w₁.tables.findAction ctx.detail.action.id ≠ none := by
        rw [CarryTables.findAction, hactions₁]
        exact hfound
      obtain ⟨hdone, hstopped⟩ := ih (position + 1) (orderResults ++ [result]) hfound₁
      rw [hrun₁, allSubmittable_cons hrow₁, List.forall_mem_cons]
      dsimp only
      constructor
      · rintro ⟨⟨-, hregistered⟩, -, hsubmittable⟩
        obtain ⟨results, w', hrun, hlength, hactions, hexecutions, hstatus⟩ :=
          hdone ⟨hregistered, hsubmittable⟩
        refine ⟨results, w', hrun, ?_, hactions.trans hactions₁, hexecutions.trans hexecutions₁, ?_⟩
        · simp only [List.length_append, List.length_cons, List.length_nil] at hlength ⊢
          omega
        · intro intentId
          rw [hstatus, hsteps₁, answersFor_cons]
          by_cases hid : order.intentId = intentId
          · subst hid
            rw [hrow₁.statusOf_self, if_pos rfl]
            rfl
          · rw [hrow₁.statusOf_ne (Ne.symm hid), if_neg hid]
            rfl
      · intro hnot
        refine hstopped fun ⟨hregistered, hsubmittable⟩ => hnot ?_
        exact ⟨⟨hfirst.1, hregistered⟩, hfirst.2, hsubmittable⟩
    · obtain ⟨message, w₁, hrun₁, hstatus⟩ := hfailed hfirst
      rw [hrun₁]
      refine ⟨fun ⟨hregistered, hsubmittable⟩ => absurd ⟨?_, ?_⟩ hfirst,
        fun _ => ⟨message, w₁, rfl, hstatus⟩⟩
      · exact hregistered order List.mem_cons_self
      · exact hsubmittable order.intentId order (by simp)

omit hplan in
theorem isTaken_eq_false_iff :
    isTaken answer = false ↔ answeredStatus answer = .failed := by
  cases answer with
  | error message => simp [isTaken, answeredStatus]
  | ok result =>
    cases hstatus : result.status <;>
      simp [isTaken, answeredStatus, OrderExecutor.placedStatus, hstatus]

omit hplan in
theorem answeredStatus_eq_filled_iff :
    answeredStatus answer = .filled ↔ ∃ result, answer = .ok result ∧ result.status = .filled := by
  cases answer with
  | error message => simp [answeredStatus]
  | ok result =>
    cases hstatus : result.status <;>
      simp [answeredStatus, OrderExecutor.placedStatus, hstatus]

omit hplan in
theorem finalStatus_of_not_isOpen (h : ¬ IsOpen status)
    (answers : List (Except String PlaceOrderResult)) :
    finalStatus (some status) answers = some status := by
  induction answers with
  | nil => rfl
  | cons answer answers ih =>
    show finalStatus (some (nextStatus (some status) answer)) answers = some status
    rw [nextStatus, if_neg h]
    exact ih

omit hplan in
/-- The answers fill an order exactly if it was filled before or the first one that takes it fills
it. -/
theorem finalStatus_eq_filled_iff (status : Option OrderStatus)
    (answers : List (Except String PlaceOrderResult)) :
    finalStatus status answers = some .filled ↔ FilledBy status answers := by
  induction answers generalizing status with
  | nil => simp [finalStatus, FilledBy]
  | cons answer answers ih =>
    by_cases hopen : ∀ s, status = some s → IsOpen s
    · have hnext : nextStatus status answer = answeredStatus answer := by
        cases status with
        | none => rfl
        | some s => simp [nextStatus, hopen s rfl]
      have hunfilled : status ≠ some .filled := by
        intro h
        simpa [RuntimeOrderStore.IsOpen] using hopen .filled h
      show finalStatus (some (nextStatus status answer)) answers = some .filled ↔ _
      rw [hnext]
      by_cases htaken : isTaken answer = true
      · have hfinal : ¬ IsOpen (answeredStatus answer) := by
          rintro (h | h)
          · cases answer with
            | error message => cases htaken
            | ok result => cases hstatus : result.status <;>
                simp [answeredStatus, OrderExecutor.placedStatus, hstatus] at h
          · rw [(isTaken_eq_false_iff answer).2 h] at htaken
            cases htaken
        rw [finalStatus_of_not_isOpen hfinal, Option.some.injEq, answeredStatus_eq_filled_iff,
          FilledBy, List.find?_cons_of_pos htaken, or_iff_right hunfilled]
        simp only [Option.some.injEq]
        exact (and_iff_right hopen).symm
      · have hfailed : answeredStatus answer = .failed :=
          (isTaken_eq_false_iff answer).1 (by simpa using htaken)
        have hagain : ∀ s, some OrderStatus.failed = some s → IsOpen s := by
          rintro s ⟨⟩
          exact .inr rfl
        rw [hfailed, ih, FilledBy, FilledBy, List.find?_cons_of_neg htaken,
          or_iff_right hunfilled, or_iff_right (by simp), and_iff_right hopen,
          and_iff_right hagain]
    · obtain ⟨s, hs, hfinal⟩ := by
        simpa using hopen
      subst hs
      rw [finalStatus_of_not_isOpen hfinal, FilledBy]
      simp [hfinal]

end

end SentinelApex
