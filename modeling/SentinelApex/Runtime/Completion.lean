import SentinelApex.Runtime.Worker

/-!
# Completed commands

The `try` block of `executeCommand` does not end with the completion of the command: the worker's
row, the completion event, the remediation attempt and the bundle recovery are written after it, and
an error in one of these writes makes the `catch` block record the completed command as failed
(`completed_then_failed`).

A completion stays what it is exactly if no call of the store fails from the completion on, or the
request that records the failure is lost too (`keepsCompletion_iff`).
-/

namespace SentinelApex.Runtime

open Async

/-! ## The property -/

section Property

variable (env : Environment) (commandId : String)

def commandState (w : World) : Option (RuntimeCommandStatus × Record) :=
  (w.db.getRuntimeCommand commandId).map fun row => (row.status, row.result)

/-- The event records the completion of the command. -/
def Completes (e : StoreEvent) : Prop :=
  (∃ result now, e.call = .completeRuntimeCommand commandId result now) ∧
    env.lands e.before.calls e.call = true

def StoreCall.isFail : StoreCall → Bool
  | failRuntimeCommand .. => true
  | _ => false

def StoreCall.failsAttempt : StoreCall → Bool
  | updateMismatchRemediationById _ p _ => p.status = some .failed
  | _ => false

def StoreCall.movesMismatch : StoreCall → Bool
  | updateMismatchById _ p _ => p.status.isSome
  | updateMismatchByDedupeKey _ p _ => p.status.isSome
  | upsertMismatch .. => true
  | _ => false

/-- The writes after the event leave the status and the result of the command alone, mark no
attempt as failed and set the status of no mismatch. -/
structure KeepsCompletion (e : StoreEvent) (post : List StoreEvent) : Prop where
  command : ∀ e' ∈ post, commandState commandId e'.after = commandState commandId e.after
  attempt : ∀ e' ∈ post, env.lands e'.before.calls e'.call = true → e'.call.failsAttempt = false
  mismatch : ∀ e' ∈ post, env.lands e'.before.calls e'.call = true → e'.call.movesMismatch = false

/-- No call of the store fails from the event on, or the request that records the failure of the
command is lost. -/
def Untroubled (e : StoreEvent) (post : List StoreEvent) : Prop :=
  (∀ e' ∈ e :: post, env.faultOf e'.before.calls e'.call = none) ∨
    ∃ e' ∈ post, e'.call.isFail = true ∧ env.lands e'.before.calls e'.call = false

/-- Every completion among the events satisfies `Q`, together with the events after it. -/
def AfterCompletion (Q : StoreEvent → List StoreEvent → Prop) : List StoreEvent → Prop
  | [] => True
  | e :: post => (Completes env commandId e → Q e post) ∧ AfterCompletion Q post

variable {env commandId} {Q : StoreEvent → List StoreEvent → Prop}

theorem afterCompletion_of_forall (hQ : ∀ e post, Q e post) (l : List StoreEvent) :
    AfterCompletion env commandId Q l := by
  induction l with
  | nil => trivial
  | cons e l ih => exact ⟨fun _ => hQ e l, ih⟩

theorem afterCompletion_of_forall_not {l : List StoreEvent}
    (hl : ∀ e ∈ l, ¬ Completes env commandId e) : AfterCompletion env commandId Q l := by
  induction l with
  | nil => trivial
  | cons e l ih =>
    exact ⟨fun he => absurd he (hl e List.mem_cons_self),
      ih fun e' he' => hl e' (List.mem_cons_of_mem _ he')⟩

theorem afterCompletion_congr_of_not {Q' : StoreEvent → List StoreEvent → Prop}
    {l : List StoreEvent} (hl : ∀ e ∈ l, ¬ Completes env commandId e) :
    AfterCompletion env commandId Q l ↔ AfterCompletion env commandId Q' l :=
  iff_of_true (afterCompletion_of_forall_not hl) (afterCompletion_of_forall_not hl)

theorem afterCompletion_append {l l' : List StoreEvent}
    (hl : ∀ e ∈ l, ¬ Completes env commandId e) :
    AfterCompletion env commandId Q (l ++ l') ↔ AfterCompletion env commandId Q l' := by
  induction l with
  | nil => rfl
  | cons e l ih =>
    rw [List.cons_append, AfterCompletion, ih fun e' he' => hl e' (List.mem_cons_of_mem _ he')]
    exact and_iff_right fun he => absurd he (hl e List.mem_cons_self)

theorem afterCompletion_cons {e : StoreEvent} {post : List StoreEvent}
    (he : Completes env commandId e) (hpost : ∀ e' ∈ post, ¬ Completes env commandId e') :
    AfterCompletion env commandId Q (e :: post) ↔ Q e post := by
  rw [AfterCompletion, and_iff_left (afterCompletion_of_forall_not hpost)]
  exact ⟨fun h => h he, fun h _ => h⟩

end Property

/-! ## Faults -/

theorem isOk_faulty {α : Type} (fault : Option StoreFault) (answer : Except String α × Database)
    (db : Database) : (faulty fault answer db).1.isOk = (fault.isNone && answer.1.isOk) := by
  rcases fault with _ | _ | _ <;> rfl

variable {env : Environment} {w : World} {c : StoreCall}

theorem perform_ok_of_handleStore_ok {a : c.Reply} (h : (handleStore env c w).1 = .ok a) :
    (perform env w.calls w.db c).1 = .ok a := by
  simp only [handleStore, faulty] at h
  split at h
  · exact h
  · cases h
  · cases h

theorem commandState_handleStore (hc : c.table? ≠ some .commands) (commandId : String) (w : World) :
    commandState commandId (handleStore env c w).2 = commandState commandId w := by
  unfold commandState Database.getRuntimeCommand
  rw [handleStore_commands hc]

theorem isFail_eq_false_of_table (hc : c.table? ≠ some .commands) : c.isFail = false := by
  cases c with
  | failRuntimeCommand => exact absurd rfl hc
  | _ => rfl

variable {commandId : String}

theorem not_completes_of_table {e : StoreEvent} (he : e.call.table? ≠ some .commands) :
    ¬ Completes env commandId e := by
  rintro ⟨⟨result, now, hcall⟩, -⟩
  rw [hcall] at he
  exact he rfl

/-! ## What follows a completion -/

/-- The calls before the operation and after the completion: events of the given mismatch, and
updates that mark nothing as failed and set no status of a mismatch. -/
def StoreCall.IsFollowUp (mismatchId : Option String) : StoreCall → Prop
  | updateWorkerStatus _ => True
  | recordRecoveryEvent input _ => input.mismatchId = mismatchId
  | getMismatchRemediationByCommandId _ => True
  | updateMismatchRemediationById _ p _ => p.status ≠ some .failed
  | updateMismatchById _ p _ => p.status = none
  | updateRebalanceBundleRecoveryAction .. => True
  | _ => False

namespace StoreCall.IsFollowUp

variable {mismatchId : Option String} {c : StoreCall}

section

variable (hc : c.IsFollowUp mismatchId)

include hc

theorem table_ne : c.table? ≠ some .commands := by
  cases c <;> simp_all [IsFollowUp, table?]

theorem failsAttempt_eq_false : c.failsAttempt = false := by
  cases c <;> simp_all [IsFollowUp, failsAttempt]

theorem movesMismatch_eq_false : c.movesMismatch = false := by
  cases c <;> simp_all [IsFollowUp, movesMismatch]

theorem isOk_handleStore (hw : ∀ id, mismatchId = some id → w.db.HasMismatch id) :
    (handleStore env c w).1.isOk = (env.faultOf w.calls c).isNone := by
  have hok : (perform env w.calls w.db c).1.isOk = true := by
    cases c with
    | recordRecoveryEvent input now =>
      obtain ⟨row, hrow⟩ := recordRecoveryEvent_ok now fun id hid => hw id (hc.symm.trans hid)
      show (w.db.recordRecoveryEvent input now).1.isOk = true
      rw [hrow]
      rfl
    | updateWorkerStatus | getMismatchRemediationByCommandId | updateMismatchRemediationById
    | updateMismatchById | updateRebalanceBundleRecoveryAction => rfl
    | _ => exact hc.elim
  rw [handleStore, isOk_faulty, hok, Bool.and_true]

end

end StoreCall.IsFollowUp

variable {mismatchId : Option String} {result : Record}

section Execution

variable {workerId : String} {command : RuntimeCommand} {now : Date}

def remediatedMismatch (command : RuntimeCommand) : Option String :=
  (getRemediationContext command).map fun remediation => remediation.mismatchId

theorem uses_updateAttempt {p : RemediationPatch} (hp : p.status ≠ some .failed)
    (remediation : RemediationContext) (recoveryEventId : String) :
    (updateAttempt command now remediation p recoveryEventId).Uses
      (StoreCall.IsFollowUp mismatchId) := by
  apply Task.Uses.call_bind trivial
  intro attempt
  cases attempt with
  | none => trivial
  | some attempt =>
    exact Task.Uses.call_bind hp fun _ => Task.Uses.call_bind rfl fun _ => trivial

theorem uses_announce :
    (announce workerId command now).Uses (StoreCall.IsFollowUp (remediatedMismatch command)) := by
  apply Task.Uses.call_bind trivial
  intro _
  refine Task.Uses.call_bind rfl fun startedEvent => ?_
  apply Task.Uses.bind
  · cases getRemediationContext command with
    | none => trivial
    | some remediation => exact uses_updateAttempt (by simp) remediation _
  · intro _
    cases bundleRecoveryActionId command with
    | none => trivial
    | some id => exact Task.uses_call trivial

theorem uses_conclude (workerId : String) (command : RuntimeCommand) (now : Date)
    (plan : CommandPlan) (outcome : Record) :
    (conclude workerId command now plan outcome).Uses
      (StoreCall.IsFollowUp (remediatedMismatch command)) := by
  apply Task.Uses.call_bind trivial
  intro _
  refine Task.Uses.call_bind rfl fun completedEvent => ?_
  apply Task.Uses.bind
  · split_ifs
    · cases getRemediationContext command with
      | none => trivial
      | some remediation => exact uses_updateAttempt (by simp) remediation _
    · trivial
  · intro _
    unfold completeBundleRecovery
    split
    · exact Task.uses_call trivial
    · trivial

variable (message : String) (remediation : RemediationContext)

theorem straight_updateAttempt (p : RemediationPatch) (recoveryEventId : String) :
    (updateAttempt command now remediation p recoveryEventId).Straight := by
  apply Task.Straight.bind (Task.straight_call _)
  intro attempt
  cases attempt with
  | none => trivial
  | some attempt =>
    exact (Task.straight_call _).bind fun _ => (Task.straight_call _).bind fun _ => trivial

theorem straight_conclude (workerId : String) (command : RuntimeCommand) (now : Date)
    (plan : CommandPlan) (outcome : Record) :
    (conclude workerId command now plan outcome).Straight := by
  apply Task.Straight.bind (Task.straight_call _)
  intro _
  apply Task.Straight.bind (Task.straight_call _)
  intro completedEvent
  apply Task.Straight.bind
  · split_ifs
    · cases getRemediationContext command with
      | none => trivial
      | some remediation => exact straight_updateAttempt remediation _ _
    · trivial
  · intro _
    unfold completeBundleRecovery
    split
    · exact Task.straight_call _
    · trivial

theorem followUp_events {α : Type} {t : RuntimeTask α}
    (ht : t.Uses (StoreCall.IsFollowUp mismatchId))
    (hw : ∀ id, mismatchId = some id → w.db.HasMismatch id) (commandId : String) :
    (∀ e ∈ t.trace (handleStore env) w, e.call.IsFollowUp mismatchId ∧
      commandState commandId e.after = commandState commandId w ∧
      e.threw = (env.faultOf e.before.calls e.call).isSome) ∧
    commandState commandId (t.run (handleStore env) w).2 = commandState commandId w ∧
      ∀ id, mismatchId = some id → (t.run (handleStore env) w).2.db.HasMismatch id := by
  have hwp := ht.wp (H := fun _ => True) (h := handleStore env)
    (G := fun e => e.call.IsFollowUp mismatchId ∧
      commandState commandId e.after = commandState commandId w ∧
      e.threw = (env.faultOf e.before.calls e.call).isSome)
    (I := fun w' => commandState commandId w' = commandState commandId w ∧
      ∀ id, mismatchId = some id → w'.db.HasMismatch id)
    (fun c w' hc hw' => by
      have hstate : commandState commandId (handleStore env c w').2 = commandState commandId w :=
        (commandState_handleStore hc.table_ne commandId w').trans hw'.1
      refine ⟨⟨hc, hstate, ?_⟩, hstate, fun id hid => handleStore_hasMismatch (hw'.2 id hid) c⟩
      show (!(handleStore env c w').1.isOk) = _
      rw [hc.isOk_handleStore hw'.2]
      exact Option.not_isNone _)
    ⟨rfl, hw⟩
  exact Task.wp_sound hwp fun _ _ => trivial

/-! ## The failure handling -/

theorem getRuntimeCommand_completeRuntimeCommand (db : Database) (commandId : String)
    (result : Record) (now : Date) :
    (db.completeRuntimeCommand commandId result now).getRuntimeCommand commandId =
      (db.getRuntimeCommand commandId).map fun row =>
        { row with
          status := .completed, result, errorMessage := none, completedAt := some now
          updatedAt := now } := by
  refine find?_update ?_ commandId db.commands
  intro row
  rfl

theorem getRuntimeCommand_failRuntimeCommand (db : Database) (commandId message : String)
    (now : Date) :
    (db.failRuntimeCommand commandId message now).getRuntimeCommand commandId =
      (db.getRuntimeCommand commandId).map fun row =>
        { row with
          status := .failed, errorMessage := some message, completedAt := some now
          updatedAt := now } := by
  refine find?_update ?_ commandId db.commands
  intro row
  rfl

theorem commandState_lost (hlost : env.lands w.calls c = false) :
    commandState commandId (handleStore env c w).2 = commandState commandId w := by
  unfold commandState Database.getRuntimeCommand
  rw [handleStore_commands_of_lost hlost]

theorem getRuntimeCommand_of_lands (hlands : env.lands w.calls c = true) (commandId : String) :
    (handleStore env c w).2.db.getRuntimeCommand commandId =
      (perform env w.calls w.db c).2.getRuntimeCommand commandId := by
  unfold Database.getRuntimeCommand
  rw [handleStore_commands_of_lands hlands]

theorem commandState_complete
    (hlands : env.lands w.calls (.completeRuntimeCommand commandId result now) = true) :
    commandState commandId
        (handleStore env (.completeRuntimeCommand commandId result now) w).2 =
      (commandState commandId w).map fun _ => (.completed, result) := by
  unfold commandState
  rw [getRuntimeCommand_of_lands hlands, perform, getRuntimeCommand_completeRuntimeCommand,
    Option.map_map, Option.map_map]
  rfl

theorem commandState_fail {message : String}
    (hlands : env.lands w.calls (.failRuntimeCommand commandId message now) = true) :
    commandState commandId (handleStore env (.failRuntimeCommand commandId message now) w).2 =
      (commandState commandId w).map fun state => (.failed, state.2) := by
  unfold commandState
  rw [getRuntimeCommand_of_lands hlands, perform, getRuntimeCommand_failRuntimeCommand,
    Option.map_map, Option.map_map]
  rfl

theorem isOk_of_lost (h : env.lands w.calls c = false) :
    ∃ message, (handleStore env c w).1 = .error message := by
  obtain ⟨message, hlost⟩ := faulty_of_lost h (perform env w.calls w.db c) w.db
  exact ⟨message, congrArg Prod.fst hlost⟩

theorem uses_failBundleRecovery (recoveryActionId : Option String) :
    (failBundleRecovery command now message recoveryActionId).Uses
      fun c => c.table? ≠ some .commands := by
  cases recoveryActionId with
  | none => trivial
  | some id => exact Task.uses_call (by simp [StoreCall.table?])

theorem uses_failRemediation :
    (failRemediation workerId command now message remediation).Uses
      fun c => c.table? ≠ some .commands := by
  refine Task.Uses.call_bind (by simp [StoreCall.table?]) fun attempt => ?_
  refine Task.Uses.call_bind (by simp [StoreCall.table?]) fun mismatch => ?_
  apply Task.Uses.bind
  · cases mismatch with
    | none => trivial
    | some mismatch => exact Task.uses_ofExcept _
  · intro nextStatus
    refine Task.Uses.call_bind (by simp [StoreCall.table?]) fun failedEvent => ?_
    apply Task.Uses.bind
    · cases attempt with
      | none => trivial
      | some attempt =>
        exact Task.Uses.call_bind (by simp [StoreCall.table?]) fun _ => trivial
    · intro _
      cases mismatch with
      | none => trivial
      | some mismatch =>
        exact Task.Uses.call_bind (by simp [StoreCall.table?]) fun _ => trivial

theorem uses_reportFailure :
    (reportFailure workerId command now message).Uses fun c => c.table? ≠ some .commands := by
  refine Task.Uses.call_bind (by simp [StoreCall.table?]) fun answer => ?_
  exact Task.Uses.call_bind (by simp [StoreCall.table?]) fun _ => trivial

/-- The failure handling starts with the record of the failure; no later call writes a command. -/
theorem trace_recordFailure (env : Environment) (workerId : String) (command : RuntimeCommand)
    (now : Date) (message : String) (w : World) :
    ∃ rest : List StoreEvent,
      (recordFailure workerId command now message).trace (handleStore env) w =
        ⟨w, .failRuntimeCommand command.commandId message now,
          (handleStore env (.failRuntimeCommand command.commandId message now) w).1,
          (handleStore env (.failRuntimeCommand command.commandId message now) w).2⟩ :: rest ∧
      (env.lands w.calls (.failRuntimeCommand command.commandId message now) = false → rest = []) ∧
      ∀ e ∈ rest, e.call.table? ≠ some .commands := by
  refine ⟨_, Task.trace_call_bind _ _ _ _, ?_, ?_⟩
  · intro hlost
    obtain ⟨error, herror⟩ := isOk_of_lost hlost
    rw [herror]
  · intro e he
    split at he
    · refine Task.Uses.trace (p := fun c => c.table? ≠ some .commands) ?_ _ e he
      apply (uses_failBundleRecovery message _).bind
      intro _
      apply Task.Uses.bind
      · cases getRemediationContext command with
        | none => exact uses_reportFailure message
        | some remediation => exact uses_failRemediation message remediation
      · intro _
        exact Task.uses_call (by simp [StoreCall.table?])
    · cases he

/-! ## Completions -/

section Completion

variable {env : Environment} {e : StoreEvent} {events : List StoreEvent}

theorem keepsCompletion_of_followUp (env : Environment)
    (h : ∀ e' ∈ events, e'.call.IsFollowUp mismatchId ∧
      commandState commandId e'.after = commandState commandId e.after) :
    KeepsCompletion env commandId e events where
  command e' he' := (h e' he').2
  attempt e' he' _ := (h e' he').1.failsAttempt_eq_false
  mismatch e' he' _ := (h e' he').1.movesMismatch_eq_false

theorem KeepsCompletion.concat (h : KeepsCompletion env commandId e events) {e' : StoreEvent}
    (hstate : commandState commandId e'.after = commandState commandId e.after)
    (hlost : env.lands e'.before.calls e'.call = false) :
    KeepsCompletion env commandId e (events ++ [e']) := by
  have hmem : ∀ e'' ∈ events ++ [e'], e'' ∈ events ∨ e'' = e' := by simp
  constructor
  · intro e'' he''
    rcases hmem e'' he'' with he'' | rfl
    · exact h.command e'' he''
    · exact hstate
  · intro e'' he'' hlands
    rcases hmem e'' he'' with he'' | rfl
    · exact h.attempt e'' he'' hlands
    · rw [hlost] at hlands
      cases hlands
  · intro e'' he'' hlands
    rcases hmem e'' he'' with he'' | rfl
    · exact h.mismatch e'' he'' hlands
    · rw [hlost] at hlands
      cases hlands

/-- After a fault, the completion is kept exactly if the request that records the failure is
lost. -/
theorem keepsCompletion_iff_of_fault (e : StoreEvent) (events : List StoreEvent)
    (mismatchId : Option String) (hevents : ∀ e' ∈ events, e'.call.IsFollowUp mismatchId ∧
      commandState command.commandId e'.after = commandState command.commandId e.after)
    (he : commandState command.commandId e.after = some (.completed, result))
    (hfault : ∃ e' ∈ e :: events, env.faultOf e'.before.calls e'.call ≠ none)
    (hw : commandState command.commandId w = commandState command.commandId e.after)
    (message : String) :
    KeepsCompletion env command.commandId e
        (events ++ (recordFailure workerId command now message).trace (handleStore env) w) ↔
      Untroubled env e
        (events ++ (recordFailure workerId command now message).trace (handleStore env) w) := by
  obtain ⟨rest, htrace, hlost, hrest⟩ := trace_recordFailure env workerId command now message w
  rw [htrace]
  cases hlands : env.lands w.calls (.failRuntimeCommand command.commandId message now) with
  | false =>
    rw [hlost hlands]
    refine iff_of_true ?_ (Or.inr ⟨_, List.mem_append_right _ List.mem_cons_self, rfl, hlands⟩)
    apply (keepsCompletion_of_followUp env hevents).concat
    · rw [commandState_lost hlands, hw]
    · exact hlands
  | true =>
    apply iff_of_false
    · intro hkeeps
      have hfailed := hkeeps.command _ (List.mem_append_right _ List.mem_cons_self)
      rw [commandState_fail hlands, hw, he] at hfailed
      simp at hfailed
    · rintro (hnone | ⟨e', he', hfail, hlost'⟩)
      · obtain ⟨e', he', hne⟩ := hfault
        refine hne (hnone e' ?_)
        rw [← List.cons_append]
        exact List.mem_append_left _ he'
      · rcases List.mem_append.1 he' with he' | he'
        · rw [isFail_eq_false_of_table (hevents e' he').1.table_ne] at hfail
          cases hfail
        · rcases List.mem_cons.1 he' with rfl | he'
          · rw [hlands] at hlost'
            cases hlost'
          · rw [isFail_eq_false_of_table (hrest e' he')] at hfail
            cases hfail

theorem not_completes_recordFailure (env : Environment) (workerId : String)
    (command : RuntimeCommand) (now : Date) (commandId message : String) (w : World) :
    ∀ e ∈ (recordFailure workerId command now message).trace (handleStore env) w,
      ¬ Completes env commandId e := by
  obtain ⟨rest, htrace, -, hrest⟩ := trace_recordFailure env workerId command now message w
  rw [htrace]
  intro e he
  rcases List.mem_cons.1 he with rfl | he
  · rintro ⟨⟨result, now', hcall⟩, -⟩
    cases hcall
  · exact not_completes_of_table (hrest e he)

def completion (env : Environment) (command : RuntimeCommand) (result : Record) (now : Date)
    (w : World) : StoreEvent where
  before := w
  call := .completeRuntimeCommand command.commandId result now
  reply := (handleStore env (.completeRuntimeCommand command.commandId result now) w).1
  after := (handleStore env (.completeRuntimeCommand command.commandId result now) w).2

theorem isOk_completion (env : Environment) (command : RuntimeCommand) (result : Record)
    (now : Date) (w : World) :
    (handleStore env (.completeRuntimeCommand command.commandId result now) w).1.isOk =
      (env.faults w.calls).isNone := by
  rw [handleStore, isOk_faulty]
  exact Bool.and_true _

theorem keepsCompletion_iff_of_answerLost {message : String}
    (hstate : commandState command.commandId (completion env command result now w).after =
      some (.completed, result))
    (hreply : (handleStore env (.completeRuntimeCommand command.commandId result now) w).1 =
      .error message) :
    KeepsCompletion env command.commandId (completion env command result now w)
        ((recordFailure workerId command now message).trace (handleStore env)
          (completion env command result now w).after) ↔
      Untroubled env (completion env command result now w)
        ((recordFailure workerId command now message).trace (handleStore env)
          (completion env command result now w).after) := by
  have hfault : env.faults w.calls ≠ none := by
    intro hnone
    have hok := isOk_completion env command result now w
    rw [hreply, hnone] at hok
    cases hok
  exact keepsCompletion_iff_of_fault (completion env command result now w) [] none (by simp) hstate
    ⟨_, List.mem_cons_self, hfault⟩ rfl message

/-- The events after a completion, up to the end of the `try` block with its failure handling. -/
theorem not_completes_conclude (env : Environment) (workerId : String) (command : RuntimeCommand)
    (now : Date) (plan : CommandPlan) (outcome : Record) (commandId : String) (w : World) :
    ∀ e ∈ ((conclude workerId command now plan outcome).tryCatch
      (recordFailure workerId command now)).trace (handleStore env) w,
      ¬ Completes env commandId e := by
  intro e he
  rw [Task.trace_tryCatch] at he
  rcases List.mem_append.1 he with he | he
  · exact not_completes_of_table
      ((uses_conclude workerId command now plan outcome).trace w e he).table_ne
  · split at he
    · cases he
    · exact not_completes_recordFailure env workerId command now _ _ _ e he

/-- The completion is recorded and answered: the completion is kept exactly if all that follows
succeeds, or the failure is not recorded. -/
theorem keepsCompletion_iff_of_answered {plan : CommandPlan} {outcome : Record}
    {row : Option RuntimeCommand}
    (hstate : commandState command.commandId (completion env command result now w).after =
      some (.completed, result)) (hmismatch : ∀ id, remediatedMismatch command = some id →
      (completion env command result now w).after.db.HasMismatch id)
    (hreply : (handleStore env (.completeRuntimeCommand command.commandId result now) w).1 =
      .ok row) :
    KeepsCompletion env command.commandId (completion env command result now w)
        (((conclude workerId command now plan outcome).tryCatch
          (recordFailure workerId command now)).trace (handleStore env)
            (completion env command result now w).after) ↔
      Untroubled env (completion env command result now w)
        (((conclude workerId command now plan outcome).tryCatch
          (recordFailure workerId command now)).trace (handleStore env)
            (completion env command result now w).after) := by
  have hnone : env.faults w.calls = none := by
    have hok := isOk_completion env command result now w
    rw [hreply] at hok
    exact Option.isNone_iff_eq_none.1 hok.symm
  obtain ⟨hevents, hstate', -⟩ := followUp_events
    (uses_conclude workerId command now plan outcome) hmismatch command.commandId
  have hfollow := fun e he => And.intro (hevents e he).1 (hevents e he).2.1
  rw [Task.trace_tryCatch]
  rcases (straight_conclude workerId command now plan outcome).run_cases
    (h := handleStore env) (completion env command result now w).after with
    ⟨u, hrun, hthrew⟩ | ⟨message, hrun, e, he, hthrew⟩
  · -- Nothing throws, so no call met a fault.
    rw [hrun, List.append_nil]
    refine iff_of_true (keepsCompletion_of_followUp env hfollow) (Or.inl ?_)
    intro e he
    rcases List.mem_cons.1 he with rfl | he
    · exact hnone
    · have hsome := (hevents e he).2.2
      rw [hthrew e he] at hsome
      exact Option.isSome_eq_false_iff.1 hsome.symm |> Option.isNone_iff_eq_none.1
  · -- A call that throws met a fault; the failure is recorded after it.
    have hfault : env.faultOf e.before.calls e.call ≠ none := by
      have hsome := (hevents e he).2.2
      rw [hthrew] at hsome
      exact Option.isSome_iff_ne_none.1 hsome.symm
    rw [hrun]
    exact keepsCompletion_iff_of_fault (completion env command result now w) _ _ hfollow hstate
      ⟨e, List.mem_cons_of_mem _ he, hfault⟩ hstate' message

theorem afterCompletion_iff_completion (plan : CommandPlan) (outcome : Record)
    (hw : (commandState command.commandId w).isSome)
    (hmismatch : ∀ id, remediatedMismatch command = some id → w.db.HasMismatch id)
    {t : RuntimeTask Unit} (ht : t = do
      let _ ← (StoreCall.completeRuntimeCommand command.commandId (plan.result outcome) now).send
      conclude workerId command now plan outcome) :
    AfterCompletion env command.commandId (KeepsCompletion env command.commandId)
        ((t.tryCatch (recordFailure workerId command now)).trace (handleStore env) w) ↔
      AfterCompletion env command.commandId (Untroubled env)
        ((t.tryCatch (recordFailure workerId command now)).trace (handleStore env) w) := by
  obtain ⟨rest, htrace, hrest, hiff⟩ : ∃ rest,
      (t.tryCatch (recordFailure workerId command now)).trace (handleStore env) w =
        completion env command (plan.result outcome) now w :: rest ∧
      (∀ e ∈ rest, ¬ Completes env command.commandId e) ∧
      (commandState command.commandId
          (completion env command (plan.result outcome) now w).after =
            some (.completed, plan.result outcome) →
        (KeepsCompletion env command.commandId
            (completion env command (plan.result outcome) now w) rest ↔
          Untroubled env (completion env command (plan.result outcome) now w) rest)) := by
    subst ht
    refine ⟨_, Task.trace_tryCatch_call_bind _ _ _ _ _, ?_, ?_⟩
    · split
      · exact not_completes_conclude env workerId command now plan outcome _ _
      · exact not_completes_recordFailure env workerId command now _ _ _
    · intro hstate
      split
      · rename_i row hreply
        exact keepsCompletion_iff_of_answered hstate
          (fun id hid => handleStore_hasMismatch (hmismatch id hid) _) hreply
      · rename_i message hreply
        exact keepsCompletion_iff_of_answerLost hstate hreply
  rw [htrace]
  cases hlands : env.lands w.calls
      (.completeRuntimeCommand command.commandId (plan.result outcome) now) with
  | true =>
    have hcompletes : Completes env command.commandId
        (completion env command (plan.result outcome) now w) := ⟨⟨_, _, rfl⟩, hlands⟩
    rw [afterCompletion_cons hcompletes hrest, afterCompletion_cons hcompletes hrest]
    apply hiff
    obtain ⟨state, hstate⟩ := Option.isSome_iff_exists.1 hw
    exact (commandState_complete hlands).trans (by rw [hstate]; rfl)
  | false =>
    have hnot : ∀ e ∈ completion env command (plan.result outcome) now w :: rest,
        ¬ Completes env command.commandId e := by
      intro e he
      rcases List.mem_cons.1 he with rfl | he
      · rintro ⟨-, hlanded⟩
        rw [completion, hlands] at hlanded
        cases hlanded
      · exact hrest e he
    exact afterCompletion_congr_of_not hnot

/-- The `try` block with its failure handling. -/
theorem afterCompletion_iff_run (plan : CommandPlan)
    (hw : (commandState command.commandId w).isSome)
    (hmismatch : ∀ id, remediatedMismatch command = some id → w.db.HasMismatch id) :
    AfterCompletion env command.commandId (KeepsCompletion env command.commandId)
        (((runCommand workerId command now plan).tryCatch
          (recordFailure workerId command now)).trace (handleStore env) w) ↔
      AfterCompletion env command.commandId (Untroubled env)
        (((runCommand workerId command now plan).tryCatch
          (recordFailure workerId command now)).trace (handleStore env) w) := by
  unfold runCommand
  split
  · -- The id that the operation needs is missing.
    exact afterCompletion_congr_of_not (not_completes_recordFailure env workerId command now _ _ w)
  · rename_i operation _
    rw [Task.trace_tryCatch_call_bind]
    have hoperate : ∀ e ∈ [(⟨w, .operate operation, (handleStore env (.operate operation) w).1,
        (handleStore env (.operate operation) w).2⟩ : StoreEvent)],
        ¬ Completes env command.commandId e := by
      intro e he
      rw [List.mem_singleton.1 he]
      rintro ⟨⟨result, now', hcall⟩, -⟩
      cases hcall
    rw [← List.singleton_append, afterCompletion_append hoperate, afterCompletion_append hoperate]
    split
    · rename_i outcome _
      refine afterCompletion_iff_completion plan outcome ?_ ?_ rfl
      · rwa [commandState_handleStore (by simp [StoreCall.table?])]
      · exact fun id hid => handleStore_hasMismatch (hmismatch id hid) _
    · exact afterCompletion_congr_of_not
        (not_completes_recordFailure env workerId command now _ _ _)

end Completion

theorem hasMismatch_announce {u : Unit}
    (h : ((announce workerId command now).run (handleStore env) w).1 = .ok u) {id : String}
    (hid : remediatedMismatch command = some id) :
    ((announce workerId command now).run (handleStore env) w).2.db.HasMismatch id := by
  unfold announce at h ⊢
  obtain ⟨-, -, hrun⟩ := Task.run_call_bind_ok _ h
  rw [hrun] at h ⊢
  obtain ⟨startedEvent, hrecord, hrun⟩ := Task.run_call_bind_ok _ h
  rw [hrun]
  apply hasMismatch_run
  apply handleStore_hasMismatch
  exact hasMismatch_of_recordRecoveryEvent_ok (perform_ok_of_handleStore_ok hrecord) hid

theorem commandState_run {α : Type} {t : RuntimeTask α}
    (ht : t.Uses fun c => c.table? ≠ some .commands) (commandId : String) (w : World) :
    commandState commandId (t.run (handleStore env) w).2 = commandState commandId w :=
  Task.Uses.run (I := fun w' => commandState commandId w' = commandState commandId w)
    (fun _ w' hc hw' => (commandState_handleStore hc commandId w').trans hw') ht rfl

/-- A completion is kept exactly if no call of the store fails from it on, or the request that
records the failure is lost. -/
theorem keepsCompletion_iff (env : Environment) (workerId : String) (command : RuntimeCommand)
    (now : Date) (w : World) (hcommand : (w.db.getRuntimeCommand command.commandId).isSome) :
    AfterCompletion env command.commandId (KeepsCompletion env command.commandId)
        ((executeCommand workerId command now).trace (handleStore env) w) ↔
      AfterCompletion env command.commandId (Untroubled env)
        ((executeCommand workerId command now).trace (handleStore env) w) := by
  have hannounce : ∀ e ∈ (announce workerId command now).trace (handleStore env) w,
      ¬ Completes env command.commandId e :=
    fun e he => not_completes_of_table (uses_announce.trace w e he).table_ne
  unfold executeCommand
  rw [Task.trace_bind, afterCompletion_append hannounce, afterCompletion_append hannounce]
  split
  · rename_i u hrun
    apply afterCompletion_iff_run
    · rwa [commandState_run (uses_announce.mono fun _ hc => hc.table_ne), commandState,
        Option.isSome_map]
    · exact fun id hid => hasMismatch_announce hrun hid
  · exact Iff.rfl

end Execution

/-! ## A completion that is lost -/

/-- A cycle that ends well, with the given fault of the store at each call. -/
def sampleCycle (faults : ℕ → Option StoreFault) : Environment where
  operate _ _ := .ok [("runId", .str "run-1")]
  faults := faults
  others _ := []

def sampleClaimed : World := ⟨(sampleQueue [samplePending "a"]).markRunning "a" "worker-0" 1, 0⟩

def commandHistory (events : List StoreEvent) : List (Option RuntimeCommandStatus) :=
  events.map fun e => (commandState "a" e.after).map Prod.fst

/-- Without faults the command stays completed. -/
theorem keepsCompletion_iff_sample :
    let env := sampleCycle fun _ => none
    let events := (executeCommand "worker-0" (samplePending "a") 1).trace (handleStore env)
      sampleClaimed
    commandHistory events =
        [some .running, some .running, some .running, some .completed, some .completed,
          some .completed] ∧
      AfterCompletion env "a" (KeepsCompletion env "a") events := by
  refine ⟨rfl, (keepsCompletion_iff (sampleCycle fun _ => none) "worker-0" (samplePending "a") 1
    sampleClaimed rfl).2 ?_⟩
  refine afterCompletion_of_forall (fun e post => Or.inl fun e' _ => ?_) _
  cases e'.call <;> rfl

/-- The worker's row cannot be written after the completion: the completed command fails. -/
theorem completed_then_failed :
    let env := sampleCycle fun n => if n = 4 then some (.requestLost "connection lost") else none
    let events := (executeCommand "worker-0" (samplePending "a") 1).trace (handleStore env)
      sampleClaimed
    commandHistory events =
        [some .running, some .running, some .running, some .completed, some .completed,
          some .failed, some .failed, some .failed, some .failed] ∧
      ¬ AfterCompletion env "a" (KeepsCompletion env "a") events := by
  refine ⟨rfl, fun h => ?_⟩
  have hkeeps := h.2.2.2.1 ⟨⟨_, _, rfl⟩, rfl⟩
  have hstate := hkeeps.command _ (List.mem_cons_of_mem _ List.mem_cons_self)
  cases hstate

end SentinelApex.Runtime
