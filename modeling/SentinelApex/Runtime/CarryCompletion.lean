import SentinelApex.Runtime.CarryOrders

/-!
# What a completed carry action says about its orders

`executeCarryAction` derives success from the absence of an exception, while the executor reports a
rejected, failed or resting order through the record that it returns.
`executeCarryAction_honest_iff` says for which answers of the venues the records are right
nevertheless.

The store and the audit writer work here (`CarryEnvironment.reliable`); the venues answer as they
like.
-/

namespace SentinelApex

open Async RuntimeOrderStore

/-- What `executeCarryAction` does from a world. -/
def runCarryAction (runtime : SentinelRuntime) (env : CarryEnvironment)
    (input : ExecuteCarryInput) (readings : ℕ → StepReadings) (now : Date) (w : CarryWorld) :
    Except String ExecuteCarryResult × CarryWorld :=
  (executeCarryAction runtime input readings now).run (handleCarry env.reliable) w

/-! ## The records of a run -/

def RecordsCompleted (actionId : String) (w w' : CarryWorld) : Prop :=
  (w'.tables.actionStatus actionId = some .completed ∧
    w.tables.actionStatus actionId ≠ some .completed) ∨
  ∃ row ∈ w'.tables.executions, row.carryActionId = actionId ∧ row.status = .completed ∧
    ∀ old ∈ w.tables.executions, old.id = row.id → old.status ≠ .completed

def filledOrders (actionId : String) (w w' : CarryWorld) : ℕ :=
  (w.tables.ordersOf actionId).countP fun order =>
    decide (w'.orders.statusOf order.intentId = some .filled)

/-- The records of the run say what became of the orders: completed means that every order was
filled, an order that was submitted and failed makes the action failed, and only filled orders are
counted as completed legs. -/
structure HonestRecords (actionId : String) (w w' : CarryWorld) : Prop where
  filled : RecordsCompleted actionId w w' →
    ∀ order ∈ w.tables.ordersOf actionId, w'.orders.statusOf order.intentId = some .filled
  failed : w.steps < w'.steps →
    (∃ order ∈ w.tables.ordersOf actionId, w'.orders.statusOf order.intentId = some .failed) →
      w'.tables.actionStatus actionId = some .failed
  counted : RecordsCompleted actionId w w' → ∀ row ∈ w'.tables.executions,
    row.carryActionId = actionId → row.status = .completed →
    (∀ old ∈ w.tables.executions, old.id = row.id → old.status ≠ .completed) →
      row.outcome.legsCompleted = some (filledOrders actionId w w')

/-! ## The condition -/

/-- Every planned order is filled by the answers of the venues, or was before. -/
def FillsAll (env : CarryEnvironment) (w : CarryWorld) (actionId : String) : Prop :=
  ∀ order ∈ w.tables.ordersOf actionId,
    FilledBy (w.orders.statusOf order.intentId)
      (answersFor env w.steps (w.tables.ordersOf actionId) order.intentId)

/-- No check of the execution stops it before, or at, one of its orders. -/
structure Proceeds (runtime : SentinelRuntime) (env : CarryEnvironment) (w : CarryWorld)
    (actionId : String) (detail : CarryActionDetail) : Prop where
  found : w.tables.getCarryAction actionId = some detail
  requested : detail.action.status = .queued ∨ detail.action.status = .approved
  executable : detail.action.executable = true
  connected : ∃ venues, env.venueViews (w.calls + 3) = .ok venues ∧
    currentConnectorBlocks detail venues = []
  guarded : guardrailStop? (w.tables.getGuardrailConfig "global" "carry") detail.action.id
    (totalNotional detail.plannedOrders) = none
  admitted : concurrencyStop? (w.tables.getGuardrailConfig "global" "carry") detail.action.id
    (w.tables.markCarryActionExecuting actionId).getExecutingActionCount = none
  registered : ∀ order ∈ detail.plannedOrders, runtime.adapters.contains order.venueId = true
  submittable : AllSubmittable w.orders detail.plannedOrders

/-! ## Calls that complete nothing -/

def CarryCall.completes : CarryCall → Bool
  | .completeCarryAction .. => true
  | .updateCarryExecution _ p => decide (p.status = some .completed)
  | .createCarryExecution input => decide (input.status = .completed)
  | _ => false

def CarryCall.ofStep : CarryCall → Bool
  | .createCarryExecutionStep _ => true
  | .executor .. => true
  | _ => false

/-- What is completed after was completed before. -/
structure KeepsOpen (actionId : String) (w w' : CarryWorld) : Prop where
  action : w'.tables.actionStatus actionId = some .completed →
    w.tables.actionStatus actionId = some .completed
  executions : ∀ row ∈ w'.tables.executions, row.status = .completed →
    ∃ old ∈ w.tables.executions, old.id = row.id ∧ old.status = .completed

variable {w w' : CarryWorld} {c : CarryCall}

section

variable (env : CarryEnvironment) {actionId : String}

theorem KeepsOpen.refl (w : CarryWorld) : KeepsOpen actionId w w :=
  ⟨id, fun row hrow hstatus => ⟨row, hrow, rfl, hstatus⟩⟩

theorem KeepsOpen.trans {w w' w'' : CarryWorld} (h : KeepsOpen actionId w w')
    (h' : KeepsOpen actionId w' w'') : KeepsOpen actionId w w'' where
  action hstatus := h.action (h'.action hstatus)
  executions row hrow hstatus := by
    obtain ⟨old, hold, hid, hcompleted⟩ := h'.executions row hrow hstatus
    obtain ⟨older, holder, hid', hcompleted'⟩ := h.executions old hold hcompleted
    exact ⟨older, holder, hid'.trans hid, hcompleted'⟩

theorem KeepsOpen.of_eq (hactions : w'.tables.actions = w.tables.actions)
    (hexecutions : w'.tables.executions = w.tables.executions) : KeepsOpen actionId w w' where
  action hstatus := by
    rw [CarryTables.actionStatus, CarryTables.findAction, hactions] at hstatus
    exact hstatus
  executions row hrow hstatus := ⟨row, hexecutions ▸ hrow, rfl, hstatus⟩

theorem KeepsOpen.of_updateAction {updated : String} {f : CarryAction → CarryAction}
    (hid : ∀ row, (f row).id = row.id) (hstatus : ∀ row, (f row).status ≠ .completed)
    (htables : w'.tables = w.tables.updateAction updated f) : KeepsOpen actionId w w' where
  action h := by
    rw [CarryTables.actionStatus, htables, w.tables.findAction_updateAction hid] at h
    rw [CarryTables.actionStatus]
    cases hfind : w.tables.findAction actionId with
    | none => simp [hfind] at h
    | some row =>
      simp only [hfind, Option.map_some, Option.some.injEq] at h ⊢
      split_ifs at h with hupdated
      · exact absurd h (hstatus row)
      · exact h
  executions row hrow h := ⟨row, by rwa [htables] at hrow, rfl, h⟩

theorem keepsOpen_handleCarry (hc : c.completes = false) (w : CarryWorld) :
    KeepsOpen actionId w (handleCarry env.reliable c w).2 := by
  rw [handleCarry_reliable]
  cases c with
  | failCarryAction id executionId message =>
    exact .of_updateAction (by intro row; rfl) (by intro row; simp) rfl
  | markCarryActionExecuting id => exact .of_updateAction (by intro row; rfl) (by intro row; simp) rfl
  | completeCarryAction id executionId => cases hc
  | createCarryExecution input =>
    refine ⟨id, fun row hrow hstatus => ?_⟩
    rcases List.mem_append.1 hrow with hold | hnew
    · exact ⟨row, hold, rfl, hstatus⟩
    · rw [List.mem_singleton.1 hnew] at hstatus
      exact absurd hstatus (of_decide_eq_false hc)
  | updateCarryExecution executionId p =>
    refine ⟨id, fun row hrow hstatus => ?_⟩
    obtain ⟨old, hold, rfl⟩ := List.mem_map.1 hrow
    have hp : p.status ≠ some .completed := of_decide_eq_false hc
    refine ⟨old, hold, ?_⟩
    split_ifs at hstatus ⊢ with hupdated
    · refine ⟨rfl, ?_⟩
      cases hpatch : p.status with
      | none => simpa [CarryExecution.patch, hpatch] using hstatus
      | some status =>
        rw [hpatch] at hp
        simp only [CarryExecution.patch, hpatch, Option.getD_some] at hstatus
        exact absurd (congrArg some hstatus) hp
    · exact ⟨rfl, hstatus⟩
  | _ => exact .of_eq rfl rfl

theorem keepsOpen_run {α : Type} {t : CarryTask α} (ht : t.Uses fun c => c.completes = false)
    (w : CarryWorld) : KeepsOpen actionId w (t.run (handleCarry env.reliable) w).2 :=
  ht.run (I := fun w' => KeepsOpen actionId w w')
    (fun _ _ hc hw => hw.trans (keepsOpen_handleCarry env hc _)) (KeepsOpen.refl w)

theorem KeepsOpen.not_recordsCompleted (h : KeepsOpen actionId w w') :
    ¬ RecordsCompleted actionId w w' := by
  rintro (⟨hcompleted, hopen⟩ | ⟨row, hrow, -, hcompleted, hnew⟩)
  · exact hopen (h.action hcompleted)
  · obtain ⟨old, hold, hid, hstatus⟩ := h.executions row hrow hcompleted
    exact hnew old hold hid hstatus

theorem steps_handleCarry (hc : c.ofStep = false) (w : CarryWorld) :
    (handleCarry env.reliable c w).2.steps = w.steps := by
  rw [handleCarry_reliable]
  cases c with
  | createCarryExecutionStep step => cases hc
  | _ => rfl

theorem steps_run {α : Type} {t : CarryTask α} (ht : t.Uses fun c => c.ofStep = false)
    (w : CarryWorld) : (t.run (handleCarry env.reliable) w).2.steps = w.steps :=
  ht.run (I := fun w' : CarryWorld => w'.steps = w.steps)
    (fun _ _ hc hw => (steps_handleCarry env hc _).trans hw) rfl

end

/-! ## Calls of the loop and of the exits -/

def CarryCall.inLoop : CarryCall → Bool
  | .getCarryAction _ => false
  | .createCarryExecution _ => false
  | .markCarryActionExecuting _ => false
  | .completeCarryAction .. => false
  | .getGuardrailConfig .. => false
  | .getExecutingActionCount => false
  | .updateCarryExecution _ p => !decide (p.status = some .completed)
  | _ => true

theorem CarryCall.completes_of_inLoop (hc : c.inLoop = true) : c.completes = false := by
  cases c with
  | updateCarryExecution id p => simpa [CarryCall.inLoop, CarryCall.completes] using hc
  | _ => first | rfl | cases hc

def CarryCall.ofLegs (planned : Prop) : CarryCall → Prop
  | .getLegExecutionsForPlan _ => planned
  | .updateLegExecutionStatus .. => planned
  | .updateMultiLegPlanStatus .. => planned
  | .recordHedgeState _ => planned
  | _ => False

def CarryCall.ofExit : CarryCall → Prop
  | .failCarryAction .. => True
  | .updateCarryExecution _ p => p.status = some .failed ∧ p.venueExecutionReference = none
  | .updateCarryExecutionStep _ p => p.executionReference = none
  | .recordGuardrailViolation _ => True
  | .syncRebalanceBundleForProposal _ => True
  | .auditWrite _ => True
  | _ => False

def CarryCall.ofFailure (planned : Prop) (c : CarryCall) : Prop := c.ofExit ∨ c.ofLegs planned

def CarryCall.ofLoop (planned : Prop) : CarryCall → Prop
  | .executor .. => True
  | .getPositions _ => True
  | .createCarryExecutionStep _ => True
  | .updateCarryExecutionStep .. => True
  | .persistExecutionEvent _ => True
  | .persistFill .. => True
  | c => c.ofFailure planned

theorem CarryCall.ofFailure.loop {planned : Prop} (hc : c.ofFailure planned) :
    c.ofLoop planned := by
  cases c <;> first | exact hc | trivial

theorem CarryCall.ofLoop.inLoop {planned : Prop} (hc : c.ofLoop planned) : c.inLoop = true := by
  cases c with
  | updateCarryExecution id p =>
    obtain ⟨hp, -⟩ := hc.resolve_right not_false
    simp [CarryCall.inLoop, hp]
  | _ => first | rfl | cases hc <;> contradiction

/-! ## The stages before the loop -/

/-- The call completes nothing and belongs to no step. -/
def CarryCall.IsQuiet (c : CarryCall) : Prop := c.completes = false ∧ c.ofStep = false

/-- Nothing new is completed, and the orders were not reached or the action failed at one. -/
structure EndsOpen (actionId : String) (w w' : CarryWorld) : Prop where
  keeps : KeepsOpen actionId w w'
  stopped : w'.steps = w.steps ∨ w'.tables.actionStatus actionId = some .failed

theorem EndsOpen.honest {actionId : String} (h : EndsOpen actionId w w') :
    HonestRecords actionId w w' where
  filled hcompleted := absurd hcompleted h.keeps.not_recordsCompleted
  failed hsteps _ := h.stopped.resolve_left (by omega)
  counted hcompleted := absurd hcompleted h.keeps.not_recordsCompleted

section

variable (env : CarryEnvironment) {actionId : String}

theorem endsOpen_run {α : Type} {t : CarryTask α} (ht : t.Uses CarryCall.IsQuiet)
    (hkeeps : KeepsOpen actionId w w') (hsteps : w'.steps = w.steps) :
    EndsOpen actionId w (t.run (handleCarry env.reliable) w').2 where
  keeps := hkeeps.trans (keepsOpen_run env (ht.mono fun _ hc => hc.1) w')
  stopped := .inl ((steps_run env (ht.mono fun _ hc => hc.2) w').trans hsteps)

theorem endsOpen_run_bind {α β : Type} {t : CarryTask α} {f : α → CarryTask β}
    (ht : t.Uses CarryCall.IsQuiet) (hkeeps : KeepsOpen actionId w w') (hsteps : w'.steps = w.steps)
    (hthrows : ∃ e, (t.run (handleCarry env.reliable) w').1 = .error e) :
    EndsOpen actionId w ((t >>= f).run (handleCarry env.reliable) w').2 := by
  obtain ⟨e, he⟩ := hthrows
  rw [Task.run_bind, he]
  exact endsOpen_run env ht hkeeps hsteps

theorem CarryCall.ofExit.quiet (hc : c.ofExit) : c.IsQuiet := by
  have hloop : c.ofLoop False := CarryCall.ofFailure.loop (Or.inl hc)
  refine ⟨completes_of_inLoop hloop.inLoop, ?_⟩
  cases c <;> first | rfl | cases hc

section

variable (action : CarryAction) (executionId : String)

theorem uses_syncLinkedBundle : (syncLinkedBundle action).Uses CarryCall.ofExit := by
  unfold syncLinkedBundle
  cases action.linkedRebalanceProposalId with
  | none => trivial
  | some proposalId => exact Task.uses_call trivial

theorem uses_refuseExecution :
    (refuseExecution action executionId).Uses CarryCall.ofExit :=
  .call_bind trivial fun _ => .bind (uses_syncLinkedBundle action) fun _ => trivial

theorem uses_unlessStopped (stop : Option GuardrailStop) :
    (unlessStopped action executionId stop).Uses CarryCall.ofExit := by
  cases stop with
  | none => trivial
  | some stop =>
    exact .call_bind trivial fun _ => .call_bind ⟨rfl, rfl⟩ fun _ => .call_bind trivial fun _ =>
      trivial

theorem uses_unlessBlocked (input : ExecuteCarryInput) (blocks : List CarryBlockedReason) :
    (unlessBlocked input action executionId blocks).Uses CarryCall.ofExit := by
  unfold unlessBlocked
  split_ifs
  · trivial
  · exact .call_bind ⟨rfl, rfl⟩ fun _ => .call_bind trivial fun _ =>
      .bind (uses_syncLinkedBundle action) fun _ => .call_bind trivial fun _ => trivial

end

theorem unlessStopped_fails (action : CarryAction) (executionId : String) (stop : GuardrailStop) :
    (unlessStopped action executionId (some stop)).Fails := by
  apply Task.fails_bind
  intro _
  apply Task.fails_bind
  intro _
  apply Task.fails_bind
  intro _
  trivial

variable (detail : CarryActionDetail) (input : ExecuteCarryInput)

theorem unlessBlocked_fails (action : CarryAction) (executionId : String)
    {blocks : List CarryBlockedReason} (h : blocks ≠ []) :
    (unlessBlocked input action executionId blocks).Fails := by
  rw [unlessBlocked, if_neg h, blockExecution]
  apply Task.fails_bind
  intro _
  apply Task.fails_bind
  intro _
  apply Task.fails_bind
  intro _
  apply Task.fails_bind
  intro _
  trivial

theorem uses_enforceGuardrails (executionId : String) :
    (enforceGuardrails detail executionId).Uses CarryCall.IsQuiet :=
  .call_bind ⟨rfl, rfl⟩ fun _ =>
    .bind ((uses_unlessStopped _ _ _).mono fun _ hc => hc.quiet) fun _ =>
      .call_bind ⟨rfl, rfl⟩ fun _ => (uses_unlessStopped _ _ _).mono fun _ hc => hc.quiet

theorem enforceGuardrails_run (executionId : String) (w : CarryWorld) :
    (guardrailStop? (w.tables.getGuardrailConfig "global" "carry") detail.action.id
        (totalNotional detail.plannedOrders) = none ∧
      concurrencyStop? (w.tables.getGuardrailConfig "global" "carry") detail.action.id
        w.tables.getExecutingActionCount = none →
      (enforceGuardrails detail executionId).run (handleCarry env.reliable) w =
        (.ok (), { w with calls := w.calls + 1 + 1 })) ∧
    (¬ (guardrailStop? (w.tables.getGuardrailConfig "global" "carry") detail.action.id
        (totalNotional detail.plannedOrders) = none ∧
      concurrencyStop? (w.tables.getGuardrailConfig "global" "carry") detail.action.id
        w.tables.getExecutingActionCount = none) →
      ∃ e, ((enforceGuardrails detail executionId).run (handleCarry env.reliable) w).1 =
        .error e) := by
  unfold enforceGuardrails
  rw [Task.run_call_bind, handleCarry_reliable]
  simp only [performCarry]
  rw [Task.run_bind]
  cases guardrailStop? (w.tables.getGuardrailConfig "global" "carry") detail.action.id
      (totalNotional detail.plannedOrders) with
  | some stop =>
    obtain ⟨e, he⟩ := (unlessStopped_fails detail.action executionId stop).run
      (h := handleCarry env.reliable) { w with calls := w.calls + 1 }
    refine ⟨fun hnone => absurd hnone.1 (by simp), fun _ => ⟨e, ?_⟩⟩
    rw [he]
  | none =>
    rw [unlessStopped, Task.run_pure]
    dsimp only
    rw [Task.run_call_bind, handleCarry_reliable]
    simp only [performCarry, true_and]
    cases concurrencyStop? (w.tables.getGuardrailConfig "global" "carry") detail.action.id
        w.tables.getExecutingActionCount with
    | some stop =>
      refine ⟨fun hnone => absurd hnone (by simp), fun _ => ?_⟩
      exact (unlessStopped_fails detail.action executionId stop).run _
    | none => exact ⟨fun _ => rfl, fun hsome => absurd rfl hsome⟩

theorem planOrders_eq (executionId : String) (now : Date) :
    planOrders detail executionId now = pure none := by
  unfold planOrders
  split_ifs
  · obtain ⟨message, hplan⟩ := createMultiLegPlan_buildMultiLegPlanInput detail.action.id
      detail.action.strategyRunId (detail.action.asset.getD "unknown") detail.plannedOrders now
    rw [hplan]
  · rfl

/-! ## The stage after the loop -/

/-- The part after the loop records the completion, whatever becomes of the calls that follow. -/
theorem completeExecution_run (ctx : ExecutionContext) (hplan : ctx.planId = none)
    (orderResults : List CarryOrderResult) (w : CarryWorld) :
    ∃ p w₁,
      SameRows w₁ ((completeExecution input ctx orderResults).run (handleCarry env.reliable) w).2 ∧
      w₁.tables = (w.tables.updateCarryExecution ctx.executionId p).completeCarryAction
        ctx.detail.action.id ctx.executionId ∧
      w₁.orders = w.orders ∧ p.status = some .completed ∧
      (p.outcome.bind fun outcome => outcome.legsCompleted) = some orderResults.length := by
  unfold completeExecution
  rw [hplan, finalizePlan, Task.run_bind, Task.run_pure]
  dsimp only
  rw [Task.run_call_bind, handleCarry_reliable]
  simp only [performCarry]
  rw [Task.run_call_bind, handleCarry_reliable]
  simp only [performCarry]
  refine ⟨_, _, sameRows_run env ?_ _, rfl, rfl, rfl, rfl⟩
  refine .call_bind rfl fun _ => .call_bind rfl fun _ => .bind ?_ fun _ =>
    .call_bind rfl fun _ => trivial
  unfold syncLinkedBundle
  cases ctx.detail.action.linkedRebalanceProposalId with
  | none => trivial
  | some proposalId => exact Task.uses_call rfl

/-! ## The loop completes nothing -/

section

variable (ctx : ExecutionContext)

variable (plannedOrder : CarryPlannedOrder)

theorem uses_completeLeg (orderRecord : OrderRecord) (planId : Option String) :
    (completeLeg plannedOrder orderRecord planId).Uses (CarryCall.ofLegs (planId ≠ none)) := by
  cases planId with
  | none => trivial
  | some planId =>
    have hplan : some planId ≠ none := Option.some_ne_none planId
    refine .tryCatch (.call_bind hplan fun legs => ?_) fun _ => trivial
    cases matchingLeg? plannedOrder legs with
    | none => trivial
    | some leg => exact Task.uses_call hplan

theorem uses_failLeg (message : String) (planId : Option String) :
    (failLeg message planId).Uses (CarryCall.ofLegs (planId ≠ none)) := by
  cases planId with
  | none => trivial
  | some planId =>
    have hplan : some planId ≠ none := Option.some_ne_none planId
    refine .tryCatch (.call_bind hplan fun legs => ?_) fun _ => trivial
    cases pendingLeg? legs with
    | none => trivial
    | some leg => exact Task.uses_call hplan

theorem uses_finalizePlan (detail : CarryActionDetail) (legsCompleted legsFailed : ℕ)
    (planId : Option String) :
    (finalizePlan detail legsCompleted legsFailed planId).Uses
      (CarryCall.ofLegs (planId ≠ none)) := by
  cases planId with
  | none => trivial
  | some planId =>
    have hplan : some planId ≠ none := Option.some_ne_none planId
    refine .tryCatch (.call_bind hplan fun legs => ?_) fun _ => trivial
    refine .tryCatch (.call_bind hplan fun _ => ?_) fun _ => trivial
    split_ifs
    · exact .call_bind hplan fun _ => trivial
    · exact .call_bind hplan fun _ => trivial
    · trivial

theorem uses_recordOrder {planned : Prop} (action : CarryAction) (record : OrderRecord)
    (now : Date) : (recordOrder action record now).Uses (CarryCall.ofLoop planned) := by
  unfold recordOrder
  cases action.strategyRunId with
  | none => trivial
  | some runId =>
    exact uses_persistExecutionRecord (fun _ => trivial) (fun _ _ => trivial) runId record now

theorem uses_attemptOrder (step : CarryExecutionStep) (metadata : Metadata)
    (readings : StepReadings) :
    (ctx.attemptOrder plannedOrder step metadata readings).Uses
      (CarryCall.ofLoop (ctx.planId ≠ none)) := by
  refine .bind (.embed (Task.uses_of_forall (fun _ => trivial) _)) fun record => ?_
  refine .bind (uses_recordOrder _ _ _) fun _ => .call_bind trivial fun _ => ?_
  exact .bind ((uses_completeLeg _ _ _).mono fun _ hc => CarryCall.ofFailure.loop (Or.inr hc)) fun _ => trivial

theorem uses_failStep (stepId : String) (orderResults : List CarryOrderResult) (message : String) :
    (ctx.failStep stepId orderResults message).Uses (CarryCall.ofFailure (ctx.planId ≠ none)) := by
  refine .call_bind (Or.inl rfl) fun _ => .bind ((uses_failLeg _ _).mono fun _ => Or.inr) fun _ => ?_
  exact .call_bind (Or.inl ⟨rfl, rfl⟩) fun _ => .call_bind (Or.inl trivial) fun _ =>
    .bind ((uses_syncLinkedBundle _).mono fun _ => Or.inl) fun _ => trivial

theorem uses_refuseVenue (stepId venueId : String) :
    (ctx.refuseVenue stepId venueId).Uses CarryCall.ofExit :=
  .call_bind rfl fun _ => .call_bind ⟨rfl, rfl⟩ fun _ => .call_bind trivial fun _ =>
    .bind (uses_syncLinkedBundle _) fun _ => trivial

theorem uses_submitOrder (readings : StepReadings) (orderResults : List CarryOrderResult) :
    (ctx.submitOrder plannedOrder readings orderResults).Uses
      (CarryCall.ofLoop (ctx.planId ≠ none)) := by
  unfold ExecutionContext.submitOrder
  dsimp only
  split_ifs
  · refine .bind (.tryCatch (.call_bind trivial fun _ => trivial) fun _ => trivial) fun metadata => ?_
    refine .call_bind trivial fun step => .tryCatch (uses_attemptOrder _ _ _ _ _) fun message => ?_
    exact (uses_failStep ctx step.id orderResults message).mono fun _ hc => hc.loop
  · exact .call_bind trivial fun step => (uses_refuseVenue _ _ _).mono fun _ hc =>
      CarryCall.ofFailure.loop (Or.inl hc)

theorem uses_submitOrders (position : ℕ) (orders : List CarryPlannedOrder)
    (orderResults : List CarryOrderResult) :
    (ctx.submitOrders position orders orderResults).Uses
      (CarryCall.ofLoop (ctx.planId ≠ none)) := by
  induction orders generalizing position orderResults with
  | nil => trivial
  | cons order orders ih =>
    exact .bind (uses_submitOrder _ _ _ _) fun result => ih (position + 1) _

end

/-! ## The whole execution -/

/-- The records after an execution whose orders were all settled. -/
structure EndsCompleted (env : CarryEnvironment) (actionId : String) (w w' : CarryWorld) :
    Prop where
  action : w'.tables.actionStatus actionId = some .completed
  executions : ∀ row ∈ w'.tables.executions, row.status = .completed →
    (∃ old ∈ w.tables.executions, old.id = row.id ∧ old.status = .completed) ∨
      row.outcome.legsCompleted = some (w.tables.ordersOf actionId).length
  orders : ∀ intentId, w'.orders.statusOf intentId =
    finalStatus (w.orders.statusOf intentId)
      (answersFor env w.steps (w.tables.ordersOf actionId) intentId)

/-- Completed records are honest exactly if the answers fill every order. -/
theorem EndsCompleted.honest_iff (h : EndsCompleted env actionId w w')
    (hnew : w.tables.actionStatus actionId ≠ some .completed) :
    HonestRecords actionId w w' ↔ FillsAll env w actionId := by
  have hfilled (intentId : String) : w'.orders.statusOf intentId = some .filled ↔
      FilledBy (w.orders.statusOf intentId)
        (answersFor env w.steps (w.tables.ordersOf actionId) intentId) := by
    rw [h.orders, finalStatus_eq_filled_iff]
  constructor
  · intro honest order horder
    have hrecorded : RecordsCompleted actionId w w' := .inl ⟨h.action, hnew⟩
    exact (hfilled order.intentId).1 (honest.filled hrecorded order horder)
  · intro hfills
    have hall : ∀ order ∈ w.tables.ordersOf actionId,
        w'.orders.statusOf order.intentId = some .filled :=
      fun order horder => (hfilled order.intentId).2 (hfills order horder)
    refine ⟨fun _ => hall, ?_, ?_⟩
    · rintro - ⟨order, horder, hfailed⟩
      rw [hall order horder] at hfailed
      cases hfailed
    · intro _ row hrow _ hcompleted hfresh
      have hcount : filledOrders actionId w w' = (w.tables.ordersOf actionId).length := by
        apply List.countP_eq_length.2
        intro order horder
        simpa using hall order horder
      rcases h.executions row hrow hcompleted with ⟨old, hold, hid, hstatus⟩ | hlegs
      · exact absurd hstatus (hfresh old hold hid)
      · rw [hlegs, hcount]

def startedWorld (input : ExecuteCarryInput) (action : CarryAction) (w : CarryWorld) :
    CarryWorld :=
  { w with
    tables := (w.tables.createCarryExecution (executionInput input action)).2
    calls := w.calls + 1 + 1 }

theorem keepsOpen_startedWorld (action : CarryAction) (w : CarryWorld) :
    KeepsOpen actionId w (startedWorld input action w) := by
  refine ⟨id, fun row hrow hstatus => ?_⟩
  rcases List.mem_append.1 hrow with hold | hnew
  · exact ⟨row, hold, rfl, hstatus⟩
  · rw [List.mem_singleton.1 hnew] at hstatus
    change (if action.executable then ActionStatus.executing else .failed) = .completed at hstatus
    split_ifs at hstatus

theorem endsCompleted_completeExecution (ctx : ExecutionContext) (hplan : ctx.planId = none)
    (orderResults : List CarryOrderResult)
    (hlength : orderResults.length = (w.tables.ordersOf ctx.detail.action.id).length)
    (hfound : w'.tables.findAction ctx.detail.action.id ≠ none)
    (hexecutions : ∀ row ∈ w'.tables.executions, row ∈ w.tables.executions ∨ row.id = ctx.executionId)
    (horders : ∀ intentId, w'.orders.statusOf intentId =
      finalStatus (w.orders.statusOf intentId)
        (answersFor env w.steps (w.tables.ordersOf ctx.detail.action.id) intentId)) :
    EndsCompleted env ctx.detail.action.id w
      ((completeExecution input ctx orderResults).run (handleCarry env.reliable) w').2 := by
  obtain ⟨p, w₁, hsame, htables, horders₁, hstatus, hlegs⟩ :=
    completeExecution_run env input ctx hplan orderResults w'
  refine ⟨?_, ?_, ?_⟩
  · rw [CarryTables.actionStatus, CarryTables.findAction, hsame.actions, htables]
    show ((CarryTables.updateAction _ _ _).findAction _).map _ = _
    rw [CarryTables.findAction_updateAction _ (by intro row; rfl)]
    obtain ⟨row, hrow⟩ := Option.ne_none_iff_exists'.1 hfound
    have hrow' : (w'.tables.updateCarryExecution ctx.executionId p).findAction
        ctx.detail.action.id = some row := hrow
    simp [hrow']
  · intro row hrow hcompleted
    rw [hsame.executions, htables] at hrow
    obtain ⟨old, hold, rfl⟩ := List.mem_map.1 hrow
    by_cases hid : old.id = ctx.executionId
    · right
      rw [if_pos hid]
      cases houtcome : p.outcome with
      | none => rw [houtcome] at hlegs; cases hlegs
      | some outcome =>
        rw [houtcome] at hlegs
        simp only [CarryExecution.patch, houtcome, Option.getD_some]
        rw [← hlength]
        exact hlegs
    · left
      rw [if_neg hid] at hcompleted ⊢
      exact ⟨old, (hexecutions old hold).resolve_right hid, rfl, hcompleted⟩
  · intro intentId
    rw [← horders, ← horders₁, RuntimeOrderStore.statusOf, RuntimeOrderStore.statusOf,
      RuntimeOrderStore.orderRow, RuntimeOrderStore.orderRow, hsame.orders.1]

theorem submitOrders_completeExecution_run (input : ExecuteCarryInput) (ctx : ExecutionContext)
    (hplan : ctx.planId = none) {w₁ : CarryWorld}
    (horders : ctx.detail.plannedOrders = w.tables.ordersOf ctx.detail.action.id)
    (hkeeps : KeepsOpen ctx.detail.action.id w w₁) (hsteps : w₁.steps = w.steps)
    (hstore : w₁.orders = w.orders) (hfound : w₁.tables.findAction ctx.detail.action.id ≠ none)
    (hexecutions : ∀ row ∈ w₁.tables.executions, row ∈ w.tables.executions ∨
      row.id = ctx.executionId) :
    let w' := ((do
      let orderResults ← ctx.submitOrders 0 ctx.detail.plannedOrders []
      completeExecution input ctx orderResults).run (handleCarry env.reliable) w₁).2
    ((∀ order ∈ ctx.detail.plannedOrders, ctx.runtime.adapters.contains order.venueId = true) ∧
        AllSubmittable w.orders ctx.detail.plannedOrders →
      EndsCompleted env ctx.detail.action.id w w') ∧
    (¬ ((∀ order ∈ ctx.detail.plannedOrders,
          ctx.runtime.adapters.contains order.venueId = true) ∧
        AllSubmittable w.orders ctx.detail.plannedOrders) →
      EndsOpen ctx.detail.action.id w w') := by
  obtain ⟨hdone, hstopped⟩ :=
    submitOrders_run env ctx hplan 0 ctx.detail.plannedOrders [] hfound
  have huses := uses_submitOrders ctx 0 ctx.detail.plannedOrders []
  rw [hstore] at hdone hstopped
  dsimp only
  rw [Task.run_bind]
  constructor
  · intro hall
    obtain ⟨results, w₂, hrun, hlength, hactions, hexecutions₂, hstatus⟩ := hdone hall
    rw [hrun]
    apply endsCompleted_completeExecution env input ctx hplan results
    · simpa [horders] using hlength
    · rw [CarryTables.findAction, hactions]
      exact hfound
    · rw [hexecutions₂]
      exact hexecutions
    · rw [hsteps, horders] at hstatus
      exact hstatus
  · intro hnot
    obtain ⟨message, w₂, hrun, hfailed⟩ := hstopped hnot
    have hopen : KeepsOpen ctx.detail.action.id w₁ _ := keepsOpen_run env 
      (huses.mono fun _ hc => CarryCall.completes_of_inLoop hc.inLoop) w₁
    rw [hrun] at hopen ⊢
    exact ⟨hkeeps.trans hopen, .inr hfailed⟩

theorem runExecution_run (runtime : SentinelRuntime) (input : ExecuteCarryInput)
    (readings : ℕ → StepReadings) (now : Date) {detail : CarryActionDetail}
    (hdetail : w.tables.getCarryAction actionId = some detail)
    (hrequested : detail.action.status = .queued ∨ detail.action.status = .approved)
    (hexecutable : detail.action.executable = true) :
    let w' := ((runExecution runtime input readings now detail (toString w.tables.nextId)).run
      (handleCarry env.reliable) (startedWorld input detail.action w)).2
    (Proceeds runtime env w actionId detail → EndsCompleted env actionId w w') ∧
    (¬ Proceeds runtime env w actionId detail → EndsOpen actionId w w') := by
  obtain ⟨hfind, hid, horders⟩ : w.tables.findAction actionId = some detail.action ∧
      detail.action.id = actionId ∧ detail.plannedOrders = w.tables.ordersOf actionId := by
    obtain ⟨action, hfind, rfl⟩ := Option.map_eq_some_iff.1 hdetail
    exact ⟨hfind, by simpa using List.find?_some hfind, rfl⟩
  subst hid
  -- The action is marked as executing.
  set w₁ := startedWorld input detail.action w
  set w₂ : CarryWorld := { w₁ with
    tables := w₁.tables.markCarryActionExecuting detail.action.id, calls := w.calls + 3 }
  have hmark : handleCarry env.reliable (.markCarryActionExecuting detail.action.id) w₁ =
      (.ok (), w₂) := handleCarry_reliable env _ w₁
  have hkeeps₂ : KeepsOpen detail.action.id w w₂ := by
    have htables : w₂.tables = w₁.tables.updateAction detail.action.id fun row =>
        { row with status := .executing } := rfl
    refine (keepsOpen_startedWorld input detail.action w).trans (.of_updateAction ?_ ?_ htables)
    · intro row
      rfl
    · intro row
      simp
  have hfound₂ : w₂.tables.findAction detail.action.id ≠ none := by
    show (CarryTables.updateAction _ _ _).findAction _ ≠ none
    rw [CarryTables.findAction_updateAction _ (by intro row; rfl)]
    have hfind₁ : w₁.tables.findAction detail.action.id = some detail.action := hfind
    simp [hfind₁]
  dsimp only
  unfold runExecution
  rw [Task.run_call_bind_of_eq _ hmark]
  -- The venues are looked at.
  cases hviews : env.venueViews (w.calls + 3) with
  | error message =>
    have hcollect : handleCarry env.reliable (.collectCarryVenueViews detail.action.strategyRunId)
        w₂ = (.error message, { w₂ with calls := w.calls + 4 }) := by
      rw [handleCarry_reliable]
      exact Prod.ext hviews rfl
    rw [Task.run_call_bind, hcollect]
    refine ⟨fun h => ?_, fun _ => ⟨hkeeps₂.trans (.of_eq rfl rfl), .inl rfl⟩⟩
    obtain ⟨venues, hvenues, -⟩ := h.connected
    rw [hviews] at hvenues
    cases hvenues
  | ok venues =>
    have hconnected : (∃ venues, env.venueViews (w.calls + 3) = .ok venues ∧
        currentConnectorBlocks detail venues = []) ↔ currentConnectorBlocks detail venues = [] := by
      simp [hviews]
    set w₃ : CarryWorld := { w₂ with calls := w.calls + 4 }
    have hcollect : handleCarry env.reliable (.collectCarryVenueViews detail.action.strategyRunId)
        w₂ = (.ok venues, w₃) := by
      rw [handleCarry_reliable]
      exact Prod.ext hviews rfl
    have hkeeps₃ : KeepsOpen detail.action.id w w₃ := hkeeps₂.trans (.of_eq rfl rfl)
    rw [Task.run_call_bind_of_eq _ hcollect]
    by_cases hblocks : currentConnectorBlocks detail venues = []
    · have hpass : unlessBlocked input detail.action (toString w.tables.nextId)
          (currentConnectorBlocks detail venues) = pure () := if_pos hblocks
      rw [hpass, Task.run_bind, Task.run_pure]
      dsimp only
      -- The guardrails are checked.
      obtain ⟨hpassed, hstopped⟩ :=
        enforceGuardrails_run env detail (toString w.tables.nextId) w₃
      by_cases hguards : guardrailStop? (w₃.tables.getGuardrailConfig "global" "carry")
            detail.action.id (totalNotional detail.plannedOrders) = none ∧
          concurrencyStop? (w₃.tables.getGuardrailConfig "global" "carry") detail.action.id
            w₃.tables.getExecutingActionCount = none
      · rw [Task.run_bind, hpassed hguards]
        dsimp only
        rw [planOrders_eq, Task.run_bind, Task.run_pure]
        -- The loop runs.
        set w₄ : CarryWorld := { w₃ with calls := w₃.calls + 1 + 1 }
        have hkeeps₄ : KeepsOpen detail.action.id w w₄ := hkeeps₃.trans (.of_eq rfl rfl)
        have hexecutions : ∀ row ∈ w₄.tables.executions, row ∈ w.tables.executions ∨
            row.id = toString w.tables.nextId := by
          intro row hrow
          rcases List.mem_append.1 hrow with hold | hnew
          · exact .inl hold
          · exact .inr (by rw [List.mem_singleton.1 hnew])
        obtain ⟨hcompleted, hended⟩ := submitOrders_completeExecution_run env input
          { runtime, detail, executionId := toString w.tables.nextId, venues, planId := none,
            readings } rfl horders hkeeps₄ rfl rfl hfound₂ hexecutions
        refine ⟨fun h => hcompleted ⟨h.registered, h.submittable⟩, fun h => hended ?_⟩
        rintro ⟨hregistered, hsubmittable⟩
        exact h ⟨hdetail, hrequested, hexecutable, hconnected.2 hblocks, hguards.1, hguards.2,
          hregistered, hsubmittable⟩
      · refine ⟨fun h => absurd ⟨h.guarded, h.admitted⟩ hguards, fun _ => ?_⟩
        exact endsOpen_run_bind env (uses_enforceGuardrails _ _) hkeeps₃ rfl (hstopped hguards)
    · refine ⟨fun h => absurd (hconnected.1 h.connected) hblocks, fun _ => ?_⟩
      exact endsOpen_run_bind env ((uses_unlessBlocked _ _ _ _).mono fun _ hc => hc.quiet) hkeeps₃ rfl
        ((unlessBlocked_fails input detail.action _ hblocks).run _)

/-- Either the execution proceeds and ends in completed records, or it ends open. -/
theorem runCarryAction_cases (runtime : SentinelRuntime) (input : ExecuteCarryInput)
    (readings : ℕ → StepReadings) (now : Date) (w : CarryWorld) :
    let w' := (runCarryAction runtime env input readings now w).2
    (∃ detail, Proceeds runtime env w input.actionId detail ∧
      EndsCompleted env input.actionId w w') ∨
    ((∀ detail, ¬ Proceeds runtime env w input.actionId detail) ∧
      EndsOpen input.actionId w w') := by
  have hquiet : EndsOpen input.actionId w { w with calls := w.calls + 1 } :=
    ⟨.of_eq rfl rfl, .inl rfl⟩
  dsimp only
  unfold runCarryAction executeCarryAction
  rw [Task.run_call_bind, handleCarry_reliable]
  simp only [performCarry]
  cases hdetail : w.tables.getCarryAction input.actionId with
  | none =>
    refine .inr ⟨fun detail h => ?_, hquiet⟩
    rw [h.found] at hdetail
    cases hdetail
  | some detail =>
    have hsame {detail' : CarryActionDetail} (h : Proceeds runtime env w input.actionId detail') :
        detail' = detail := by
      rw [h.found] at hdetail
      exact Option.some.inj hdetail
    dsimp only
    by_cases hrequested : detail.action.status = .queued ∨ detail.action.status = .approved
    · rw [if_neg (by rwa [← not_or, not_not])]
      have hcreate : handleCarry env.reliable
          (.createCarryExecution (executionInput input detail.action))
          { w with calls := w.calls + 1 } =
            (.ok (w.tables.createCarryExecution (executionInput input detail.action)).1,
              startedWorld input detail.action w) := handleCarry_reliable env _ _
      rw [Task.run_call_bind_of_eq _ hcreate]
      by_cases hexecutable : detail.action.executable = true
      · rw [if_pos hexecutable]
        obtain ⟨hcompleted, hended⟩ := runExecution_run env runtime input readings now hdetail
          hrequested hexecutable
        by_cases hproceeds : Proceeds runtime env w input.actionId detail
        · exact .inl ⟨detail, hproceeds, hcompleted hproceeds⟩
        · refine .inr ⟨fun detail' h => ?_, hended hproceeds⟩
          rw [hsame h] at h
          exact hproceeds h
      · rw [if_neg hexecutable]
        refine .inr ⟨fun detail' h => hexecutable (hsame h ▸ h.executable), ?_⟩
        exact endsOpen_run env ((uses_refuseExecution _ _).mono fun _ hc => hc.quiet)
          (keepsOpen_startedWorld input detail.action w) rfl
    · rw [if_pos (not_or.1 hrequested)]
      exact .inr ⟨fun detail' h => hrequested (hsame h ▸ h.requested), hquiet⟩

end

/-- The records of an execution are honest exactly if, when its orders are reached, the answers of
the venues fill every one of them. -/
theorem executeCarryAction_honest_iff (runtime : SentinelRuntime) (env : CarryEnvironment)
    (input : ExecuteCarryInput) (readings : ℕ → StepReadings) (now : Date) (w : CarryWorld) :
    HonestRecords input.actionId w (runCarryAction runtime env input readings now w).2 ↔
      ∀ detail, Proceeds runtime env w input.actionId detail → FillsAll env w input.actionId := by
  rcases runCarryAction_cases env runtime input readings now w with
    ⟨detail, hproceeds, hcompleted⟩ | ⟨hnone, hopen⟩
  · have hstatus : w.tables.actionStatus input.actionId ≠ some .completed := by
      obtain ⟨action, hfind, rfl⟩ := Option.map_eq_some_iff.1 hproceeds.found
      rw [CarryTables.actionStatus, hfind, Option.map_some]
      rcases hproceeds.requested with h | h <;> simp at h <;> simp [h]
    rw [hcompleted.honest_iff env hstatus]
    exact ⟨fun hfills _ _ => hfills, fun hfills => hfills detail hproceeds⟩
  · exact ⟨fun _ detail h => absurd h (hnone detail), fun _ => hopen.honest⟩

/-! ## A rejected order -/

/-- One queued action with one order for a simulated venue. -/
def oneOrderTables : CarryTables where
  actions :=
    [{ id := "action-1", strategyRunId := none, linkedRebalanceProposalId := none
       status := .queued, opportunityId := some "opportunity-1", asset := some "SOL"
       executable := true, blockedReasons := [], approvalRequirement := .operator
       executionMode := .dryRun, simulated := true, linkedCommandId := some "command-1"
       latestExecutionId := none, lastError := none }]
  plannedOrders :=
    [{ id := "planned-1", carryActionId := "action-1", intentId := "order-1", venueId := "drift"
       asset := "SOL", side := .sell, orderType := .market, requestedSize := 1
       requestedPrice := none, reduceOnly := false
       metadata := .ofList [("sleeveId", .str "carry"), ("instrumentType", .str "perpetual")]
       createdAt := 0 }]
  executions := []
  steps := []
  plans := []
  legs := []
  hedgeStates := []
  guardrailConfigs := []
  guardrailViolations := []
  executionEvents := []
  nextId := 1

def oneOrderWorld : CarryWorld where
  tables := oneOrderTables
  orders := { orders := [], fills := [], strategyRuns := [], nextId := 1 }
  accepted := []
  steps := 0
  calls := 0

def answeringEnvironment (status : VenueOrderStatus) : CarryEnvironment where
  placeOrder _ := .ok
    { venueOrderId := "venue-order-1", clientOrderId := "order-1", status, filledSize := 0
      averageFillPrice := none, fees := none, submittedAt := 0 }
  getOrder _ := .ok none
  cancelOrder _ := .ok { venueOrderId := "venue-order-1", cancelled := false }
  getPositions _ := .ok []
  venueViews _ := .ok []
  refreshes _ := .ok ()
  faults _ := none
  clock _ := 0

def sampleCarryInput : ExecuteCarryInput where
  actionId := "action-1"
  actorId := "operator-1"
  commandId := some "command-1"
  startedBy := "worker-1"

def sampleReadings (_ : ℕ) : StepReadings where
  capturedAt := 0
  opportunityId := "opportunity-2"
  submit :=
    { start := 0, submittedAt := fun _ => 0, placedAt := fun _ => 0, completedAt := fun _ => 0
      failedAt := fun _ => 0 }
  filledAt := 0

/-- An order that its venue rejects: the action is completed, with one completed leg. -/
theorem executeCarryAction_completes_rejected_order :
    ¬ ∀ (runtime : SentinelRuntime) (env : CarryEnvironment) (input : ExecuteCarryInput)
        (readings : ℕ → StepReadings) (now : Date) (w : CarryWorld),
      HonestRecords input.actionId w (runCarryAction runtime env input readings now w).2 := by
  intro honest
  have hrejected := honest { adapters := ["drift"] } (answeringEnvironment .rejected)
    sampleCarryInput sampleReadings 0 oneOrderWorld
  have hcompleted : (runCarryAction { adapters := ["drift"] } (answeringEnvironment .rejected)
      sampleCarryInput sampleReadings 0 oneOrderWorld).2.tables.actionStatus "action-1" =
        some .completed := by decide +kernel
  have hfailed : ∀ order ∈ oneOrderTables.ordersOf "action-1",
      (runCarryAction { adapters := ["drift"] } (answeringEnvironment .rejected)
        sampleCarryInput sampleReadings 0 oneOrderWorld).2.orders.statusOf order.intentId =
          some .failed := by decide +kernel
  obtain ⟨order, horder⟩ : ∃ order, order ∈ oneOrderTables.ordersOf "action-1" :=
    List.exists_mem_of_length_pos (by decide)
  have hfilled := hrejected.filled (.inl ⟨hcompleted, by decide⟩) order horder
  rw [hfailed order horder] at hfilled
  cases hfilled

end SentinelApex
