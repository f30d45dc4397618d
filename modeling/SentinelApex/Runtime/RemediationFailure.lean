import SentinelApex.Lib.Separated
import SentinelApex.Runtime.Completion
import SentinelApex.Runtime.ControlPlane

/-!
# Failed remediations

A remediation command whose operation fails, on a store without faults, while operators and
reconciliation write the mismatch. The failure handling asks the lifecycle for the status after a
failed remediation before it marks the attempt as failed; if the mismatch has been resolved in the
meantime, the lifecycle refuses, and the attempt stays in flight (`attempt_left_running`).

The remediation ends as it should exactly if the handling finds the attempt, finds the mismatch
recovering or reopened, and overwrites none that is open or acknowledged by then
(`remediationEnds_iff`).
-/

namespace SentinelApex.Runtime

open Async

/-! ## Remediation commands -/

/-- What the worker reads from the payload of a remediation command. -/
def RemediateInput.context (input : RemediateInput) : RemediationContext where
  mismatchId := input.mismatchId
  remediationType := input.remediationType
  requestedBy := some input.actorId

/-- The command is one that `remediateMismatch` enqueues. -/
structure Remediates (input : RemediateInput) (command : RuntimeCommand) : Prop where
  commandType : command.commandType = input.remediationType.commandType
  payload : command.payload = input.payload

/-- No attempt of the command has failed, and the ids of attempts are not fresh. -/
structure OpenAttempts (commandId : String) (db : Database) : Prop where
  unfailed : ∀ row ∈ db.remediations, row.commandId = commandId → row.status ≠ .failed
  fresh : ∀ row ∈ db.remediations, ∃ n < db.nextId, row.id = toString n

/-- The command and its mismatch exist, and no attempt of the command has failed. -/
structure AwaitsRemediation (mismatchId commandId : String) (db : Database) : Prop
    extends OpenAttempts commandId db where
  command : (db.getRuntimeCommand commandId).isSome
  mismatch : db.HasMismatch mismatchId

def failingEnvironment (message : ℕ → RuntimeOperation → String) (others : ℕ → List Statement) :
    Environment where
  operate n operation := .error (message n operation)
  faults := reliable
  others := others

/-! ## The property -/

def StoreCall.newStatus? (mismatchId : String) : StoreCall → Option RuntimeMismatchStatus
  | updateMismatchById id p _ => if id = mismatchId then p.status else none
  | _ => none

/-- The attempt and the command have failed, the attempt is not in flight, and the worker has left
the status of the mismatch as it was or has moved it along the lifecycle. -/
structure RemediationEnds (mismatchId commandId : String) (events : List StoreEvent)
    (db : Database) : Prop where
  attempt : ∃ attempt, db.getMismatchRemediationByCommandId commandId = some attempt ∧
    attempt.status = .failed ∧ ∀ inFlight,
      db.getInFlightMismatchRemediation mismatchId = some inFlight → inFlight.id ≠ attempt.id
  command : ∃ row, db.getRuntimeCommand commandId = some row ∧ row.status = .failed
  moves : ∀ e ∈ events, ∀ s, e.call.newStatus? mismatchId = some s →
    ∀ row, e.before.db.getMismatchById mismatchId = some row →
      row.status = s ∨ MovesTo row.status s

/-- What a call of the failure handling should find in the database. -/
def FindsRemediation (e : StoreEvent) : Prop :=
  match e.call with
  | .getMismatchRemediationByCommandId commandId =>
    (e.before.db.getMismatchRemediationByCommandId commandId).isSome
  | .getMismatchById mismatchId => ∀ row, e.before.db.getMismatchById mismatchId = some row →
      row.status = .recovering ∨ row.status = .reopened
  | .updateMismatchById mismatchId _ _ => ∀ row,
      e.before.db.getMismatchById mismatchId = some row →
        row.status ≠ .opened ∧ row.status ≠ .acknowledged
  | _ => True

def FailureFinds : List StoreEvent → Prop
  | [] => True
  | e :: post => (e.call.isFail = true → ∀ e' ∈ post, FindsRemediation e') ∧ FailureFinds post

theorem failureFinds_append {l l' : List StoreEvent} (hl : ∀ e ∈ l, e.call.isFail = false) :
    FailureFinds (l ++ l') ↔ FailureFinds l' := by
  induction l with
  | nil => rfl
  | cons e l ih =>
    rw [List.cons_append, FailureFinds, ih fun e' he' => hl e' (List.mem_cons_of_mem _ he'),
      hl e List.mem_cons_self]
    simp

theorem failureFinds_cons {e : StoreEvent} {post : List StoreEvent} (he : e.call.isFail = true)
    (hpost : ∀ e' ∈ post, e'.call.isFail = false) :
    FailureFinds (e :: post) ↔ ∀ e' ∈ post, FindsRemediation e' := by
  have hrest : FailureFinds post := by
    have happend : FailureFinds (post ++ []) ↔ FailureFinds [] := failureFinds_append hpost
    rw [List.append_nil] at happend
    exact happend.2 trivial
  rw [FailureFinds, and_iff_left hrest]
  exact ⟨fun h => h he, fun h _ => h⟩

/-! ## Remediation attempts -/

namespace Database

/-- Attempts are only added, with fresh ids and as requested ones. -/
structure AddsAttempts (db db' : Database) : Prop where
  nextId_le : db.nextId ≤ db'.nextId
  remediations : ∃ new, db'.remediations = db.remediations ++ new ∧
    ∀ row ∈ new, row.status = .requested ∧ ∃ n, db.nextId ≤ n ∧ n < db'.nextId ∧ row.id = toString n

theorem AddsAttempts.of_eq {db db' : Database} (hnext : db.nextId ≤ db'.nextId)
    (h : db'.remediations = db.remediations) : db.AddsAttempts db' :=
  ⟨hnext, [], by rw [h, List.append_nil], by simp⟩

theorem AddsAttempts.trans {db db' db'' : Database} (h : db.AddsAttempts db')
    (h' : db'.AddsAttempts db'') : db.AddsAttempts db'' := by
  obtain ⟨hle, new, hnew, hrows⟩ := h
  obtain ⟨hle', new', hnew', hrows'⟩ := h'
  refine ⟨hle.trans hle', new ++ new', by rw [hnew', hnew, List.append_assoc], ?_⟩
  intro row hrow
  rcases List.mem_append.1 hrow with hrow | hrow
  · obtain ⟨hstatus, n, hn, hn', hid⟩ := hrows row hrow
    exact ⟨hstatus, n, hn, hn'.trans_le hle', hid⟩
  · obtain ⟨hstatus, n, hn, hn', hid⟩ := hrows' row hrow
    exact ⟨hstatus, n, hle.trans hn, hn', hid⟩

theorem addsAttempts_createMismatchRemediation (db : Database) (input : RemediationInput)
    (now : Date) : db.AddsAttempts (db.createMismatchRemediation input now).2 := by
  unfold createMismatchRemediation
  split_ifs
  · exact .of_eq le_rfl rfl
  · exact .of_eq le_rfl rfl
  · refine ⟨Nat.le_succ _, _, rfl, ?_⟩
    intro row hrow
    rw [List.mem_singleton.1 hrow]
    exact ⟨rfl, db.nextId, le_rfl, Nat.lt_succ_self _, rfl⟩

end Database

theorem Statement.addsAttempts (db : Database) (st : Statement) :
    db.AddsAttempts (st.apply db) := by
  cases st with
  | updateMismatchById | updateMismatchByDedupeKey => exact .of_eq le_rfl rfl
  | upsertMismatch input now =>
    exact .of_eq (db.upsertMismatch_nextId_le input now) (db.upsertMismatch_frame input now).2
  | createMismatchRemediation input now => exact db.addsAttempts_createMismatchRemediation input now
  | recordRecoveryEvent input now =>
    exact .of_eq (db.recordRecoveryEvent_nextId_le input now)
      (db.recordRecoveryEvent_frame input now).2.2

variable {c : StoreCall}

theorem perform_addsAttempts (env : Environment) (n : ℕ) (db : Database)
    (hc : ∀ id p now, c ≠ .updateMismatchRemediationById id p now) :
    db.AddsAttempts (perform env n db c).2 := by
  by_cases htable : c.table? = some .remediations
  · cases c with
    | updateMismatchRemediationById id p now => exact absurd rfl (hc id p now)
    | createMismatchRemediation input now =>
      exact db.addsAttempts_createMismatchRemediation input now
    | _ => cases htable
  · exact .of_eq (perform_nextId_le env n db c) (perform_remediations env n db htable)

structure FailedAttempt (commandId : String) (db : Database) : Prop where
  found : ∃ attempt, db.getMismatchRemediationByCommandId commandId = some attempt ∧
    ∀ row ∈ db.remediations, row.id = attempt.id → row.status = .failed
  fresh : ∀ row ∈ db.remediations, ∃ n < db.nextId, row.id = toString n

variable {attempt : RuntimeMismatchRemediation}

namespace Database.AddsAttempts

variable {db db' : Database} {commandId : String}

section

variable (h : db.AddsAttempts db')

include h

theorem old_or_new {row : RuntimeMismatchRemediation} (hrow : row ∈ db'.remediations) :
    row ∈ db.remediations ∨
      row.status = .requested ∧ ∃ n, db.nextId ≤ n ∧ n < db'.nextId ∧ row.id = toString n := by
  obtain ⟨-, new, hnew, hrows⟩ := h
  rw [hnew] at hrow
  exact (List.mem_append.1 hrow).imp_right (hrows row)

theorem fresh (hfresh : ∀ row ∈ db.remediations, ∃ n < db.nextId, row.id = toString n) :
    ∀ row ∈ db'.remediations, ∃ n < db'.nextId, row.id = toString n := by
  intro row hrow
  rcases h.old_or_new hrow with hold | ⟨-, n, -, hn, hid⟩
  · obtain ⟨n, hn, hid⟩ := hfresh row hold
    exact ⟨n, hn.trans_le h.nextId_le, hid⟩
  · exact ⟨n, hn, hid⟩

theorem openAttempts (hdb : OpenAttempts commandId db) :
    OpenAttempts commandId db' := by
  refine ⟨fun row hrow hid => ?_, h.fresh hdb.fresh⟩
  rcases h.old_or_new hrow with hold | ⟨hstatus, -⟩
  · exact hdb.unfailed row hold hid
  · simp [hstatus]

theorem found (hdb : db.getMismatchRemediationByCommandId commandId = some attempt) :
    db'.getMismatchRemediationByCommandId commandId = some attempt := by
  obtain ⟨-, new, hnew, -⟩ := h
  unfold getMismatchRemediationByCommandId at hdb ⊢
  rw [hnew, List.find?_append, hdb]
  rfl

theorem failedAttempt (hdb : FailedAttempt commandId db) :
    FailedAttempt commandId db' := by
  obtain ⟨attempt, hattempt, hfailed⟩ := hdb.found
  refine ⟨⟨attempt, h.found hattempt, fun row hrow hid => ?_⟩, h.fresh hdb.fresh⟩
  rcases h.old_or_new hrow with hold | ⟨-, m, hm, -, hrowId⟩
  · exact hfailed row hold hid
  · -- A new row has a fresh id, which is not the id of the attempt.
    obtain ⟨n, hn, hattemptId⟩ := hdb.fresh attempt (List.mem_of_find?_eq_some hattempt)
    have heq : toString m = toString n := by rw [← hrowId, hid, hattemptId]
    have hmn : m = n := Separated.natRepr_toList_inj (congrArg String.toList heq)
    omega

end

end Database.AddsAttempts

variable {db : Database} {p : RemediationPatch}

theorem fresh_updateMismatchRemediationById
    (h : ∀ row ∈ db.remediations, ∃ n < db.nextId, row.id = toString n) (id : String)
    (p : RemediationPatch) (now : Date) :
    ∀ row ∈ (db.updateMismatchRemediationById id p now).remediations,
      ∃ n < db.nextId, row.id = toString n := by
  intro row hrow
  obtain ⟨old, hold, rfl⟩ := List.mem_map.1 hrow
  obtain ⟨n, hn, hid⟩ := h old hold
  refine ⟨n, hn, ?_⟩
  split_ifs <;> exact hid

variable {commandId : String}

theorem OpenAttempts.update (h : OpenAttempts commandId db) (hp : p.status ≠ some .failed)
    (id : String) (now : Date) :
    OpenAttempts commandId (db.updateMismatchRemediationById id p now) := by
  refine ⟨fun row hrow hid => ?_, fresh_updateMismatchRemediationById h.fresh id p now⟩
  obtain ⟨old, hold, rfl⟩ := List.mem_map.1 hrow
  split_ifs at hid ⊢ with hold'
  · show p.status.getD old.status ≠ .failed
    cases hstatus : p.status with
    | none => exact h.unfailed old hold hid
    | some status =>
      rintro rfl
      exact hp hstatus
  · exact h.unfailed old hold hid

theorem failedAttempt_update (h : OpenAttempts commandId db)
    (hattempt : db.getMismatchRemediationByCommandId commandId = some attempt)
    (hp : p.status = some .failed) (now : Date) :
    FailedAttempt commandId (db.updateMismatchRemediationById attempt.id p now) := by
  have hfound : (db.updateMismatchRemediationById attempt.id p
      now).getMismatchRemediationByCommandId commandId = some (attempt.patch p now) := by
    have hcommandId : ∀ row : RuntimeMismatchRemediation,
        (if row.id = attempt.id then row.patch p now else row).commandId = row.commandId := by
      intro row
      split_ifs <;> rfl
    unfold Database.getMismatchRemediationByCommandId Database.updateMismatchRemediationById
    rw [List.find?_map]
    simp only [Function.comp_def, hcommandId]
    unfold Database.getMismatchRemediationByCommandId at hattempt
    rw [hattempt, Option.map_some, if_pos rfl]
  refine ⟨⟨_, hfound, fun row hrow hid => ?_⟩, fresh_updateMismatchRemediationById h.fresh _ p now⟩
  obtain ⟨old, hold, rfl⟩ := List.mem_map.1 hrow
  split_ifs at hid ⊢ with hold'
  · show p.status.getD old.status = .failed
    rw [hp]
    rfl
  · exact absurd hid hold'

section Invariants

variable {env : Environment} {commandId : String} {w : World} {c : StoreCall}

theorem foldl_addsAttempts (db : Database) (statements : List Statement) :
    db.AddsAttempts (statements.foldl Statement.apply db) :=
  foldl_apply (I := fun db' => db.AddsAttempts db') (fun db' st h => h.trans (st.addsAttempts db'))
    (.of_eq le_rfl rfl) statements

theorem handleStore_openAttempts (env : Environment) (hc : c.failsAttempt = false)
    (hw : OpenAttempts commandId w.db) : OpenAttempts commandId (handleStore env c w).2.db := by
  refine handleStore_keeps (I := OpenAttempts commandId)
    (fun db st h => (st.addsAttempts db).openAttempts h) ?_ hw
  intro h
  cases c with
  | updateMismatchRemediationById id p now =>
    exact h.update (by simpa [StoreCall.failsAttempt] using hc) id now
  | _ => exact (perform_addsAttempts env _ _ (by simp)).openAttempts h

theorem openAttempts_run {α : Type} {t : RuntimeTask α}
    (ht : t.Uses fun c => c.failsAttempt = false) (hw : OpenAttempts commandId w.db) :
    OpenAttempts commandId (t.run (handleStore env) w).2.db :=
  Task.Uses.run (h := handleStore env) (I := fun w : World => OpenAttempts commandId w.db)
    (fun _ _ hc hw' => handleStore_openAttempts env hc hw') ht hw

theorem handleStore_addsAttempts (env : Environment) (w : World)
    (hc : ∀ id p now, c ≠ .updateMismatchRemediationById id p now) :
    w.db.AddsAttempts (handleStore env c w).2.db :=
  handleStore_keeps (I := fun db => w.db.AddsAttempts db)
    (fun db st h => h.trans (st.addsAttempts db)) (fun _ => perform_addsAttempts env _ _ hc)
    (.of_eq le_rfl rfl)

end Invariants

/-! ## Attempts in flight -/

theorem foldl_latest_mem {l : List RuntimeMismatchRemediation}
    {best : Option RuntimeMismatchRemediation} {row : RuntimeMismatchRemediation}
    (h : l.foldl (fun best row =>
      match best with
      | none => some row
      | some b => if b.attemptSequence < row.attemptSequence then some row else some b) best =
        some row) : best = some row ∨ row ∈ l := by
  induction l generalizing best with
  | nil => exact Or.inl h
  | cons head tail ih =>
    rcases ih h with hbest | hmem
    · cases best with
      | none => exact Or.inr (List.mem_cons.2 (Or.inl (Option.some.inj hbest).symm))
      | some b =>
        simp only at hbest
        split_ifs at hbest
        · exact Or.inr (List.mem_cons.2 (Or.inl (Option.some.inj hbest).symm))
        · exact Or.inl hbest
    · exact Or.inr (List.mem_cons_of_mem _ hmem)

theorem getInFlightMismatchRemediation_mem {mismatchId : String}
    {inFlight : RuntimeMismatchRemediation}
    (h : db.getInFlightMismatchRemediation mismatchId = some inFlight) :
    inFlight ∈ db.remediations ∧ inFlight.status ≠ .failed := by
  rcases foldl_latest_mem h with hnone | hmem
  · cases hnone
  · have hfilter := List.mem_filter.1 hmem
    refine ⟨hfilter.1, ?_⟩
    have hstatus := (of_decide_eq_true hfilter.2).2
    rintro hfailed
    rw [hfailed] at hstatus
    simp at hstatus

theorem FailedAttempt.ended (h : FailedAttempt commandId db) (mismatchId : String) :
    ∃ attempt, db.getMismatchRemediationByCommandId commandId = some attempt ∧
      attempt.status = .failed ∧ ∀ inFlight,
        db.getInFlightMismatchRemediation mismatchId = some inFlight →
          inFlight.id ≠ attempt.id := by
  obtain ⟨attempt, hattempt, hfailed⟩ := h.found
  refine ⟨attempt, hattempt, hfailed attempt (List.mem_of_find?_eq_some hattempt) rfl, ?_⟩
  intro inFlight hinFlight hid
  obtain ⟨hmem, hstatus⟩ := getInFlightMismatchRemediation_mem hinFlight
  exact hstatus (hfailed inFlight hmem hid)

theorem OpenAttempts.not_ended (h : OpenAttempts commandId db)
    (hattempt : db.getMismatchRemediationByCommandId commandId = some attempt) :
    attempt.status ≠ .failed := by
  have hid : attempt.commandId = commandId := by simpa using List.find?_some hattempt
  exact h.unfailed attempt (List.mem_of_find?_eq_some hattempt) hid

/-! ## The failure handling -/

variable {mismatchId commandId : String} {command : RuntimeCommand} {input : RemediateInput}
  {result : Record}

section Handling

variable {message : ℕ → RuntimeOperation → String} {others : ℕ → List Statement}

theorem handleStore_failing (c : StoreCall) (w : World) :
    (handleStore (failingEnvironment message others) c w).1 =
      (perform (failingEnvironment message others) w.calls w.db c).1 := by
  cases c <;> rfl

theorem handleStore_failing_eq (message : ℕ → RuntimeOperation → String)
    (others : ℕ → List Statement) (c : StoreCall) (w : World) {a : c.Reply}
    (ha : (perform (failingEnvironment message others) w.calls w.db c).1 = .ok a) :
    handleStore (failingEnvironment message others) c w =
      (.ok a, (handleStore (failingEnvironment message others) c w).2) :=
  Prod.ext ((handleStore_failing c w).trans ha) rfl

theorem handleStore_failing_db (c : StoreCall) (w : World) :
    (handleStore (failingEnvironment message others) c w).2.db =
      (others w.calls).foldl Statement.apply
        (perform (failingEnvironment message others) w.calls w.db c).2 := by
  cases c <;> rfl

theorem getRemediationContext_of_remediates (h : Remediates input command) :
    getRemediationContext command = some input.context := by
  unfold getRemediationContext
  rw [h.payload]
  unfold RemediateInput.payload RemediateInput.context
  cases htype : input.remediationType with
  | runCycle | rebuildProjections => rfl

theorem bundleRecoveryActionId_of_remediates (h : Remediates input command) :
    bundleRecoveryActionId command = none := by
  unfold bundleRecoveryActionId
  rw [h.payload]
  unfold RemediateInput.payload
  cases htype : input.remediationType with
  | runCycle | rebuildProjections => rfl

def handleRemediation (workerId : String) (command : RuntimeCommand) (now : Date) (error : String)
    (remediation : RemediationContext) : RuntimeTask Unit := do
  failRemediation workerId command now error remediation
  (StoreCall.updateWorkerStatus (degradedPatch now error)).send

/-- The failure handling ends the remediation exactly if each of its calls finds what it should. -/
def EndsIfFinds (env : Environment) (workerId : String) (command : RuntimeCommand) (now : Date)
    (error : String) (remediation : RemediationContext) (w : World) : Prop :=
  let events := (handleRemediation workerId command now error remediation).trace (handleStore env) w
  RemediationEnds remediation.mismatchId command.commandId events
      ((handleRemediation workerId command now error remediation).run (handleStore env) w).2.db ↔
    ∀ e ∈ events, FindsRemediation e

theorem uses_handleRemediation (workerId : String) (command : RuntimeCommand) (now : Date)
    (error : String) (remediation : RemediationContext) :
    (handleRemediation workerId command now error remediation).Uses
      fun c => c.table? ≠ some .commands := by
  apply (uses_failRemediation error remediation).bind
  intro _
  exact Task.uses_call (by simp [StoreCall.table?])

theorem recordFailure_eq (h : Remediates input command) (workerId : String) (now : Date)
    (error : String) :
    recordFailure workerId command now error =
      (StoreCall.failRuntimeCommand command.commandId error now).send >>= fun _ =>
        handleRemediation workerId command now error input.context := by
  unfold recordFailure
  rw [getRemediationContext_of_remediates h, bundleRecoveryActionId_of_remediates h]
  rfl

variable {env : Environment} {workerId : String} {command : RuntimeCommand} {now : Date}
  {error : String} {remediation : RemediationContext} {w w₁ w₂ w₃ w₄ w₅ w₆ : World}
  {attempt : Option RuntimeMismatchRemediation} {row : RuntimeMismatch}

variable {refusal : String}

/-- The lifecycle refuses: the handling ends after its two reads. -/
theorem handleRemediation_refused
    (hlookup : handleStore env (.getMismatchRemediationByCommandId command.commandId) w =
      (.ok attempt, w₁))
    (hread : handleStore env (.getMismatchById remediation.mismatchId) w₁ = (.ok (some row), w₂))
    (hrefused : remediationFailureNextStatus row.status = .error refusal) :
    (handleRemediation workerId command now error remediation).trace (handleStore env) w =
        [⟨w, .getMismatchRemediationByCommandId command.commandId, .ok attempt, w₁⟩,
          ⟨w₁, .getMismatchById remediation.mismatchId, .ok (some row), w₂⟩] ∧
      ((handleRemediation workerId command now error remediation).run (handleStore env) w).2 =
        w₂ := by
  have hstatus : statusAfterFailure (some row) = .fail refusal := congrArg Task.ofExcept hrefused
  unfold handleRemediation failRemediation
  simp only [Task.bind_assoc]
  constructor
  · rw [Task.trace_call_bind_of_eq _ hlookup, Task.trace_call_bind_of_eq _ hread, hstatus]
    rfl
  · rw [Task.run_call_bind_of_eq _ hlookup, Task.run_call_bind_of_eq _ hread, hstatus]
    rfl

/-- The lifecycle agrees: the attempt is marked as failed and the mismatch as reopened. -/
theorem handleRemediation_found {nextStatus : RuntimeMismatchStatus}
    {attempt : RuntimeMismatchRemediation} {failedEvent : RuntimeRecoveryEvent}
    {marked : Option RuntimeMismatchRemediation} {updated : Option RuntimeMismatch}
    (hlookup : handleStore env (.getMismatchRemediationByCommandId command.commandId) w =
      (.ok (some attempt), w₁))
    (hread : handleStore env (.getMismatchById remediation.mismatchId) w₁ = (.ok (some row), w₂))
    (hnext : remediationFailureNextStatus row.status = .ok nextStatus)
    (hrecord : handleStore env (.recordRecoveryEvent
      (remediationFailedEvent workerId command error remediation (some attempt) nextStatus) now)
        w₂ = (.ok failedEvent, w₃))
    (hmark : handleStore env (.updateMismatchRemediationById attempt.id
      (failedAttemptPatch now error failedEvent.id) now) w₃ = (.ok marked, w₄))
    (hreopen : handleStore env (.updateMismatchById remediation.mismatchId
      (reopenedPatch workerId command now nextStatus error failedEvent.id) now) w₄ =
        (.ok updated, w₅))
    (hworker : handleStore env (.updateWorkerStatus (degradedPatch now error)) w₅ = (.ok (), w₆)) :
    (handleRemediation workerId command now error remediation).trace (handleStore env) w =
        [⟨w, .getMismatchRemediationByCommandId command.commandId, .ok (some attempt), w₁⟩,
          ⟨w₁, .getMismatchById remediation.mismatchId, .ok (some row), w₂⟩,
          ⟨w₂, .recordRecoveryEvent
            (remediationFailedEvent workerId command error remediation (some attempt) nextStatus)
              now, .ok failedEvent, w₃⟩,
          ⟨w₃, .updateMismatchRemediationById attempt.id
            (failedAttemptPatch now error failedEvent.id) now, .ok marked, w₄⟩,
          ⟨w₄, .updateMismatchById remediation.mismatchId
            (reopenedPatch workerId command now nextStatus error failedEvent.id) now,
            .ok updated, w₅⟩,
          ⟨w₅, .updateWorkerStatus (degradedPatch now error), .ok (), w₆⟩] ∧
      ((handleRemediation workerId command now error remediation).run (handleStore env) w).2 =
        w₆ := by
  have hstatus : statusAfterFailure (some row) = .done nextStatus := congrArg Task.ofExcept hnext
  unfold handleRemediation failRemediation
  simp only [Task.bind_assoc]
  constructor
  · rw [Task.trace_call_bind_of_eq _ hlookup, Task.trace_call_bind_of_eq _ hread, hstatus,
      Task.done_bind, Task.trace_call_bind_of_eq _ hrecord, failAttempt, Task.bind_assoc,
      Task.trace_call_bind_of_eq _ hmark, Task.pure_eq, Task.done_bind, reopenRemediated,
      Task.bind_assoc, Task.trace_call_bind_of_eq _ hreopen, Task.pure_eq, Task.done_bind,
      Task.trace_call, hworker]
  · rw [Task.run_call_bind_of_eq _ hlookup, Task.run_call_bind_of_eq _ hread, hstatus,
      Task.done_bind, Task.run_call_bind_of_eq _ hrecord, failAttempt, Task.bind_assoc,
      Task.run_call_bind_of_eq _ hmark, Task.pure_eq, Task.done_bind, reopenRemediated,
      Task.bind_assoc, Task.run_call_bind_of_eq _ hreopen, Task.pure_eq, Task.done_bind,
      Task.run_call, hworker]

theorem openAttempts_handleRemediation
    (hlookup : handleStore env (.getMismatchRemediationByCommandId command.commandId) w =
      (.ok none, w₁))
    (hw₁ : OpenAttempts commandId w₁.db) :
    OpenAttempts commandId ((handleRemediation workerId command now error remediation).run
      (handleStore env) w).2.db := by
  unfold handleRemediation failRemediation
  simp only [Task.bind_assoc]
  rw [Task.run_call_bind_of_eq _ hlookup]
  refine openAttempts_run ?_ hw₁
  refine Task.Uses.call_bind rfl fun mismatch => ?_
  apply Task.Uses.bind
  · cases mismatch with
    | none => trivial
    | some mismatch => exact Task.uses_ofExcept _
  · intro nextStatus
    refine Task.Uses.call_bind rfl fun failedEvent => ?_
    refine Task.Uses.bind (t := failAttempt now error failedEvent.id none) trivial fun _ => ?_
    apply Task.Uses.bind
    · cases mismatch with
      | none => trivial
      | some mismatch => exact Task.Uses.call_bind rfl fun _ => trivial
    · intro _
      exact Task.uses_call rfl

theorem reopens_iff (s : RuntimeMismatchStatus) :
    (s = .reopened ∨ MovesTo s .reopened) ↔ s ≠ .opened ∧ s ≠ .acknowledged := by
  cases s <;> decide

theorem remediationFailureNextStatus_ok_iff {s s' : RuntimeMismatchStatus} :
    remediationFailureNextStatus s = .ok s' ↔
      s' = .reopened ∧ (s = .recovering ∨ s = .reopened) := by
  rw [remediationFailureNextStatus, nextStatus_eq_ok_iff]
  cases s <;> simp

theorem failed_of_commandState (h : commandState commandId w = some (.failed, result)) :
    ∃ row, w.db.getRuntimeCommand commandId = some row ∧ row.status = .failed := by
  obtain ⟨row, hrow, hstate⟩ := Option.map_eq_some_iff.1 h
  exact ⟨row, hrow, congrArg Prod.fst hstate⟩

/-- The call sets no status of the mismatch, and finds what it should. -/
def Quiet (mismatchId : String) (e : StoreEvent) : Prop :=
  e.call.newStatus? mismatchId = none ∧ FindsRemediation e

/-- With the attempt and the command failed, what is left is the one call that sets a status. -/
theorem remediationEnds_iff_of_quiet (pre : List StoreEvent) (e : StoreEvent)
    (post : List StoreEvent) {p : MismatchPatch} (hattempt : FailedAttempt commandId db)
    (hcommand : ∃ row, db.getRuntimeCommand commandId = some row ∧ row.status = .failed)
    (hpre : ∀ e' ∈ pre, Quiet mismatchId e') (hpost : ∀ e' ∈ post, Quiet mismatchId e')
    (hcall : e.call = .updateMismatchById mismatchId p now) (hp : p.status = some .reopened) :
    RemediationEnds mismatchId commandId (pre ++ e :: post) db ↔
      ∀ e' ∈ pre ++ e :: post, FindsRemediation e' := by
  have hfinds : FindsRemediation e ↔ ∀ row, e.before.db.getMismatchById mismatchId = some row →
      row.status = .reopened ∨ MovesTo row.status .reopened := by
    simp only [reopens_iff, FindsRemediation, hcall]
  have hnew : e.call.newStatus? mismatchId = some .reopened := by
    simp [hcall, StoreCall.newStatus?, hp]
  have hmem : ∀ e' ∈ pre ++ e :: post, e' = e ∨ Quiet mismatchId e' := by
    intro e' he'
    rcases List.mem_append.1 he' with he' | he'
    · exact Or.inr (hpre e' he')
    · exact (List.mem_cons.1 he').imp_right (hpost e')
  constructor
  · intro hends e' he'
    rcases hmem e' he' with rfl | hquiet
    · exact hfinds.2 fun row hrow => hends.moves e' he' .reopened hnew row hrow
    · exact hquiet.2
  · intro hall
    refine ⟨hattempt.ended mismatchId, hcommand, ?_⟩
    intro e' he' s hs row hrow
    rcases hmem e' he' with rfl | hquiet
    · obtain rfl : RuntimeMismatchStatus.reopened = s := Option.some.inj (hnew.symm.trans hs)
      exact hfinds.1 (hall e' he') row hrow
    · rw [hquiet.1] at hs
      cases hs

theorem failedAttempt_mark {attempt : RuntimeMismatchRemediation}
    (hopen : OpenAttempts commandId w.db)
    (hattempt : w.db.getMismatchRemediationByCommandId commandId = some attempt)
    (hp : p.status = some .failed) :
    FailedAttempt commandId (handleStore (failingEnvironment message others)
      (.updateMismatchRemediationById attempt.id p now) w).2.db := by
  rw [handleStore_failing_db]
  exact (foldl_addsAttempts _ _).failedAttempt (failedAttempt_update hopen hattempt hp now)

/-- The attempt of the failed command is found, and has not failed yet. -/
structure Marking (mismatchId commandId : String) (attempt : RuntimeMismatchRemediation)
    (result : Record) (w : World) : Prop where
  mismatch : w.db.HasMismatch mismatchId
  opened : OpenAttempts commandId w.db
  found : w.db.getMismatchRemediationByCommandId commandId = some attempt
  state : commandState commandId w = some (.failed, result)

section

variable {attempt : RuntimeMismatchRemediation} (h : Marking mismatchId commandId attempt result w)

include h

theorem Marking.next (env : Environment) (c : StoreCall) (hcommands : c.table? ≠ some .commands)
    (hc : ∀ id p now, c ≠ .updateMismatchRemediationById id p now) :
    Marking mismatchId commandId attempt result (handleStore env c w).2 where
  mismatch := handleStore_hasMismatch h.mismatch c
  opened := (handleStore_addsAttempts env w hc).openAttempts h.opened
  found := (handleStore_addsAttempts env w hc).found h.found
  state := (commandState_handleStore hcommands commandId w).trans h.state

theorem Marking.record {input : RecoveryEventInput} (hid : input.mismatchId = some mismatchId) :
    ∃ failedEvent w', handleStore (failingEnvironment message others)
        (.recordRecoveryEvent input now) w = (.ok failedEvent, w') ∧
      Marking mismatchId commandId attempt result w' := by
  obtain ⟨failedEvent, hevent⟩ : ∃ failedEvent,
      (w.db.recordRecoveryEvent input now).1 = .ok failedEvent := by
    apply recordRecoveryEvent_ok
    intro id hid'
    rw [hid, Option.some.injEq] at hid'
    rw [← hid']
    exact h.mismatch
  exact ⟨failedEvent, _, handleStore_failing_eq message others _ w hevent,
    h.next _ _ (by simp [StoreCall.table?]) (by simp)⟩

end

theorem remediationEnds_iff_of_found {attempt : RuntimeMismatchRemediation}
    (hw : Marking remediation.mismatchId command.commandId attempt result w)
    (hlookup : handleStore (failingEnvironment message others)
      (.getMismatchRemediationByCommandId command.commandId) w = (.ok (some attempt), w₁))
    (hw₁ : Marking remediation.mismatchId command.commandId attempt result w₁)
    (hrow : w₁.db.getMismatchById remediation.mismatchId = some row)
    (hstatus : row.status = .recovering ∨ row.status = .reopened) :
    EndsIfFinds (failingEnvironment message others) workerId command now error remediation w := by
  have hnext : remediationFailureNextStatus row.status = .ok .reopened :=
    remediationFailureNextStatus_ok_iff.2 ⟨rfl, hstatus⟩
  have hread := handleStore_failing_eq message others (.getMismatchById remediation.mismatchId) w₁
    (congrArg Except.ok hrow)
  have hw₂ := hw₁.next (failingEnvironment message others)
    (.getMismatchById remediation.mismatchId) (by simp [StoreCall.table?]) (by simp)
  generalize (handleStore (failingEnvironment message others)
    (.getMismatchById remediation.mismatchId) w₁).2 = w₂ at hread hw₂
  obtain ⟨failedEvent, w₃, hrecord, hw₃⟩ : ∃ failedEvent w₃,
      handleStore (failingEnvironment message others) (.recordRecoveryEvent
        (remediationFailedEvent workerId command error remediation (some attempt) .reopened) now)
          w₂ = (.ok failedEvent, w₃) ∧ _ := hw₂.record rfl
  have hmark := handleStore_failing_eq message others (.updateMismatchRemediationById attempt.id
    (failedAttemptPatch now error failedEvent.id) now) w₃ rfl
  have hreopen := handleStore_failing_eq message others (.updateMismatchById
    remediation.mismatchId
      (reopenedPatch workerId command now .reopened error failedEvent.id) now)
    (handleStore (failingEnvironment message others) (.updateMismatchRemediationById attempt.id
      (failedAttemptPatch now error failedEvent.id) now) w₃).2 rfl
  obtain ⟨htrace, hrun⟩ := handleRemediation_found hlookup hread hnext hrecord hmark hreopen
    (handleStore_failing_eq message others (.updateWorkerStatus (degradedPatch now error)) _ rfl)
  rw [EndsIfFinds, htrace, hrun]
  refine remediationEnds_iff_of_quiet [_, _, _, _] _ [_] ?_ ?_ ?_ ?_ rfl rfl
  · exact (handleStore_addsAttempts _ _ (by simp)).failedAttempt
      ((handleStore_addsAttempts _ _ (by simp)).failedAttempt
        (failedAttempt_mark hw₃.opened hw₃.found rfl))
  · refine failed_of_commandState (Eq.trans ?_ hw₃.state)
    rw [commandState_handleStore (by simp [StoreCall.table?]),
      commandState_handleStore (by simp [StoreCall.table?]),
      commandState_handleStore (by simp [StoreCall.table?])]
  · intro e he
    simp only [List.mem_cons, List.not_mem_nil, or_false] at he
    rcases he with rfl | rfl | rfl | rfl
    · refine ⟨rfl, ?_⟩
      show (w.db.getMismatchRemediationByCommandId command.commandId).isSome
      rw [hw.found]
      rfl
    · refine ⟨rfl, fun row' hrow' => ?_⟩
      obtain rfl : row = row' := Option.some.inj (hrow.symm.trans hrow')
      exact hstatus
    · exact ⟨rfl, trivial⟩
    · exact ⟨rfl, trivial⟩
  · intro e he
    rw [List.mem_singleton.1 he]
    exact ⟨rfl, trivial⟩

/-- An attempt that is not found is not marked as failed. -/
theorem remediationEnds_iff_of_missing
    (hattempt : w.db.getMismatchRemediationByCommandId command.commandId = none)
    (hlookup : handleStore env (.getMismatchRemediationByCommandId command.commandId) w =
      (.ok none, w₁)) (hopen : OpenAttempts command.commandId w₁.db) :
    EndsIfFinds env workerId command now error remediation w := by
  have hmem : ⟨w, .getMismatchRemediationByCommandId command.commandId, .ok none, w₁⟩ ∈
      (handleRemediation workerId command now error remediation).trace (handleStore env) w := by
    unfold handleRemediation failRemediation
    simp only [Task.bind_assoc]
    rw [Task.trace_call_bind_of_eq _ hlookup]
    exact List.mem_cons_self
  apply iff_of_false
  · intro hends
    obtain ⟨attempt, hfound, hfailed, -⟩ := hends.attempt
    exact (openAttempts_handleRemediation hlookup hopen).not_ended hfound hfailed
  · intro hfinds
    have hsome : (w.db.getMismatchRemediationByCommandId command.commandId).isSome :=
      hfinds _ hmem
    rw [hattempt] at hsome
    cases hsome

/-- When the lifecycle refuses, no attempt is marked as failed. -/
theorem remediationEnds_iff_of_refused {attempt : Option RuntimeMismatchRemediation}
    (hlookup : handleStore env (.getMismatchRemediationByCommandId command.commandId) w =
      (.ok attempt, w₁))
    (hrow : w₁.db.getMismatchById remediation.mismatchId = some row)
    (hread : handleStore env (.getMismatchById remediation.mismatchId) w₁ = (.ok (some row), w₂))
    (hrefused : remediationFailureNextStatus row.status = .error refusal)
    (hopen : OpenAttempts command.commandId w₂.db) :
    EndsIfFinds env workerId command now error remediation w := by
  obtain ⟨htrace, hrun⟩ : (handleRemediation workerId command now error remediation).trace
      (handleStore env) w = _ ∧ _ := handleRemediation_refused hlookup hread hrefused
  rw [EndsIfFinds, htrace, hrun]
  apply iff_of_false
  · intro hends
    obtain ⟨attempt, hfound, hfailed, -⟩ := hends.attempt
    exact hopen.not_ended hfound hfailed
  · intro hfinds
    have hstatus := hfinds _ (List.mem_cons_of_mem _ List.mem_cons_self) row hrow
    rw [remediationFailureNextStatus_ok_iff.2 ⟨rfl, hstatus⟩] at hrefused
    cases hrefused

/-- The failure handling, whatever it finds. -/
theorem remediationEnds_iff_handle (remediation : RemediationContext)
    (hmismatch : w.db.HasMismatch remediation.mismatchId)
    (hopen : OpenAttempts command.commandId w.db)
    (hstate : commandState command.commandId w = some (.failed, result)) :
    EndsIfFinds (failingEnvironment message others) workerId command now error remediation w := by
  have hopen₁ : OpenAttempts command.commandId (handleStore (failingEnvironment message others)
      (.getMismatchRemediationByCommandId command.commandId) w).2.db :=
    handleStore_openAttempts _ rfl hopen
  cases hattempt : w.db.getMismatchRemediationByCommandId command.commandId with
  | none =>
    exact remediationEnds_iff_of_missing hattempt
      (handleStore_failing_eq _ _ _ w (congrArg Except.ok hattempt)) hopen₁
  | some attempt =>
    have hlookup := handleStore_failing_eq message others
      (.getMismatchRemediationByCommandId command.commandId) w (congrArg Except.ok hattempt)
    have hw : Marking remediation.mismatchId command.commandId attempt result w :=
      ⟨hmismatch, hopen, hattempt, hstate⟩
    have hw₁ := hw.next (failingEnvironment message others)
      (.getMismatchRemediationByCommandId command.commandId) (by simp [StoreCall.table?]) (by simp)
    obtain ⟨row, hrow⟩ := Option.isSome_iff_exists.1
      (Database.getMismatchById_isSome.2 hw₁.mismatch)
    cases hnext : remediationFailureNextStatus row.status with
    | ok nextStatus =>
      exact remediationEnds_iff_of_found hw hlookup hw₁ hrow
        (remediationFailureNextStatus_ok_iff.1 hnext).2
    | error refusal =>
      exact remediationEnds_iff_of_refused hlookup hrow
        (handleStore_failing_eq _ _ _ _ (congrArg Except.ok hrow)) hnext
        (handleStore_openAttempts _ rfl hopen₁)

end Handling

/-! ## The execution -/

theorem remediationEnds_append {l l' : List StoreEvent}
    (hl : ∀ e ∈ l, e.call.newStatus? mismatchId = none) :
    RemediationEnds mismatchId commandId (l ++ l') db ↔
      RemediationEnds mismatchId commandId l' db := by
  constructor
  · intro h
    exact ⟨h.attempt, h.command, fun e he => h.moves e (List.mem_append_right _ he)⟩
  · intro h
    refine ⟨h.attempt, h.command, fun e he s hs => ?_⟩
    rcases List.mem_append.1 he with he | he
    · rw [hl e he] at hs
      cases hs
    · exact h.moves e he s hs

theorem StoreCall.IsFollowUp.newStatus_eq_none {mismatchId : Option String}
    (hc : c.IsFollowUp mismatchId) (id : String) : c.newStatus? id = none := by
  cases c with
  | updateMismatchById id' p now =>
    have hp : p.status = none := hc
    simp [StoreCall.newStatus?, hp]
  | _ => rfl

theorem exists_operation (h : Remediates input command) (workerId : String) (now : Date) :
    ∃ operation, (commandPlan workerId command now).operation = .ok operation := by
  unfold commandPlan
  rw [h.commandType]
  cases input.remediationType with
  | runCycle | rebuildProjections => exact ⟨_, rfl⟩

variable {w : World}

section Announcement

variable {workerId : String} {command : RuntimeCommand} {now : Date}

theorem straight_announce : (announce workerId command now).Straight := by
  apply Task.Straight.bind (Task.straight_call _)
  intro _
  apply Task.Straight.bind (Task.straight_call _)
  intro startedEvent
  apply Task.Straight.bind
  · cases getRemediationContext command with
    | none => trivial
    | some remediation => exact straight_updateAttempt remediation _ _
  · intro _
    cases bundleRecoveryActionId command with
    | none => trivial
    | some id => exact Task.straight_call _

theorem announce_returns {env : Environment} (henv : ∀ n c, env.faultOf n c = none)
    (hw : ∀ id, remediatedMismatch command = some id → w.db.HasMismatch id) :
    ∃ u, ((announce workerId command now).run (handleStore env) w).1 = .ok u := by
  rcases straight_announce.run_cases (h := handleStore env) w with
    ⟨u, hrun, -⟩ | ⟨-, -, e, he, hthrew⟩
  · exact ⟨u, hrun⟩
  · have hevent := (followUp_events uses_announce hw command.commandId).1 e he
    rw [hthrew, henv] at hevent
    cases hevent.2.2

end Announcement

section Execution

variable {message : ℕ → RuntimeOperation → String} {others : ℕ → List Statement}
  {workerId : String} {input : RemediateInput} {command : RuntimeCommand} {now : Date}

theorem faultOf_failing (n : ℕ) (c : StoreCall) :
    (failingEnvironment message others).faultOf n c = none := by
  cases c <;> rfl

/-- The `try` block of a remediation command whose operation fails: the operation, and the failure
handling. -/
theorem runCommand_fails {env : Environment} (henv : env = failingEnvironment message others)
    (h : Remediates input command) (w : World) :
    ∃ operation error,
      ((runCommand workerId command now (commandPlan workerId command now)).tryCatch
          (recordFailure workerId command now)).trace (handleStore env) w =
        ⟨w, .operate operation, .error error, (handleStore env (.operate operation) w).2⟩ ::
          (recordFailure workerId command now error).trace (handleStore env)
            (handleStore env (.operate operation) w).2 ∧
      ((runCommand workerId command now (commandPlan workerId command now)).tryCatch
          (recordFailure workerId command now)).run (handleStore env) w =
        (recordFailure workerId command now error).run (handleStore env)
          (handleStore env (.operate operation) w).2 := by
  subst henv
  obtain ⟨operation, hoperation⟩ := exists_operation h workerId now
  refine ⟨operation, message w.calls operation, ?_⟩
  unfold runCommand
  rw [hoperation]
  exact ⟨rfl, rfl⟩

theorem isSome_of_commandState {w' : World}
    (h : commandState commandId w' = commandState commandId w)
    (hw : (w.db.getRuntimeCommand commandId).isSome) :
    (w'.db.getRuntimeCommand commandId).isSome := by
  have hsome := congrArg Option.isSome h
  rw [commandState, commandState, Option.isSome_map, Option.isSome_map] at hsome
  rwa [hsome]

theorem AwaitsRemediation.next (h : AwaitsRemediation mismatchId commandId w.db) (env : Environment)
    (hcommands : c.table? ≠ some .commands) (hc : c.failsAttempt = false) :
    AwaitsRemediation mismatchId commandId (handleStore env c w).2.db where
  toOpenAttempts := handleStore_openAttempts env hc h.toOpenAttempts
  command := isSome_of_commandState (commandState_handleStore hcommands commandId w) h.command
  mismatch := handleStore_hasMismatch h.mismatch c

theorem AwaitsRemediation.run {α : Type} (h : AwaitsRemediation mismatchId commandId w.db)
    (env : Environment) {t : RuntimeTask α} (ht : t.Uses (StoreCall.IsFollowUp (some mismatchId))) :
    AwaitsRemediation mismatchId commandId (t.run (handleStore env) w).2.db :=
  Task.Uses.run (h := handleStore env)
    (I := fun w : World => AwaitsRemediation mismatchId commandId w.db)
    (fun _ _ hc hw => hw.next env hc.table_ne hc.failsAttempt_eq_false) ht h

theorem AwaitsRemediation.fail {error : String} (h : AwaitsRemediation mismatchId commandId w.db) :
    ∃ reply w' result, handleStore (failingEnvironment message others)
        (.failRuntimeCommand commandId error now) w = (.ok reply, w') ∧
      w'.db.HasMismatch mismatchId ∧ OpenAttempts commandId w'.db ∧
      commandState commandId w' = some (.failed, result) := by
  obtain ⟨row, hrow⟩ := Option.isSome_iff_exists.1 h.command
  refine ⟨_, _, row.result, handleStore_failing_eq message others _ w rfl,
    handleStore_hasMismatch h.mismatch _, handleStore_openAttempts _ rfl h.toOpenAttempts, ?_⟩
  rw [commandState_fail rfl, commandState, hrow]
  rfl

/-- The execution of a remediation command whose operation fails: the announcement, the operation,
the record of the failure and the failure handling. -/
theorem executeCommand_fails {env : Environment} (henv : env = failingEnvironment message others)
    (h : Remediates input command) (hw : AwaitsRemediation input.mismatchId command.commandId w.db) :
    ∃ (pre : List StoreEvent) (e : StoreEvent) (error : String) (result : Record),
      (executeCommand workerId command now).trace (handleStore env) w = pre ++ e ::
        (handleRemediation workerId command now error input.context).trace (handleStore env)
          e.after ∧
      ((executeCommand workerId command now).run (handleStore env) w).2 =
        ((handleRemediation workerId command now error input.context).run (handleStore env)
          e.after).2 ∧
      (∀ e' ∈ pre, e'.call.isFail = false ∧ e'.call.newStatus? input.mismatchId = none) ∧
      e.call = .failRuntimeCommand command.commandId error now ∧
      e.after.db.HasMismatch input.mismatchId ∧ OpenAttempts command.commandId e.after.db ∧
      commandState command.commandId e.after = some (.failed, result) := by
  have hcontext : remediatedMismatch command = some input.mismatchId := by
    rw [remediatedMismatch, getRemediationContext_of_remediates h]
    rfl
  have huses : (announce workerId command now).Uses
      (StoreCall.IsFollowUp (some input.mismatchId)) := by
    rw [← hcontext]
    exact uses_announce
  obtain ⟨u, hannounce⟩ : ∃ u, ((announce workerId command now).run (handleStore env) w).1 =
      .ok u := by
    refine announce_returns (by rw [henv]; exact faultOf_failing) fun id hid => ?_
    rw [hcontext] at hid
    rw [← Option.some.inj hid]
    exact hw.mismatch
  have hw₁ := hw.run env huses
  have htrace : (executeCommand workerId command now).trace (handleStore env) w = _ :=
    Task.trace_bind _ _ _ _
  have hrun : (executeCommand workerId command now).run (handleStore env) w = _ :=
    Task.run_bind _ _ _ _
  rw [hannounce] at htrace hrun
  generalize ((announce workerId command now).run (handleStore env) w).2 = w₁ at hw₁ htrace hrun
  obtain ⟨operation, error, htrace₁, hrun₁⟩ :
      ∃ operation error, ((runCommand workerId command now
        (commandPlan workerId command now)).tryCatch (recordFailure workerId command now)).trace
          (handleStore env) w₁ = _ ∧ _ := runCommand_fails henv h w₁
  have hw₂ : AwaitsRemediation input.mismatchId command.commandId
      (handleStore env (.operate operation) w₁).2.db :=
    hw₁.next env (by simp [StoreCall.table?]) rfl
  generalize (handleStore env (.operate operation) w₁).2 = w₂ at hw₂ htrace₁ hrun₁
  subst henv
  obtain ⟨reply, w₃, result, hfail, hmismatch, hopen, hstate⟩ : ∃ reply w₃ result,
      handleStore (failingEnvironment message others)
        (.failRuntimeCommand command.commandId error now) w₂ = (.ok reply, w₃) ∧ _ := hw₂.fail
  rw [recordFailure_eq h, Task.trace_call_bind_of_eq _ hfail] at htrace₁
  rw [recordFailure_eq h, Task.run_call_bind_of_eq _ hfail] at hrun₁
  refine ⟨(announce workerId command now).trace (handleStore (failingEnvironment message others)) w
      ++ [⟨w₁, .operate operation, .error error, w₂⟩],
    ⟨w₂, .failRuntimeCommand command.commandId error now, .ok reply, w₃⟩, error, result, ?_, ?_, ?_,
    rfl, hmismatch, hopen, hstate⟩
  · rw [htrace, List.append_assoc, List.singleton_append]
    exact congrArg _ htrace₁
  · rw [hrun]
    exact congrArg Prod.snd hrun₁
  · intro e he
    rcases List.mem_append.1 he with he | he
    · have hcall := huses.trace w e he
      exact ⟨isFail_eq_false_of_table hcall.table_ne, hcall.newStatus_eq_none _⟩
    · rw [List.mem_singleton.1 he]
      exact ⟨rfl, rfl⟩

/-- A remediation whose operation fails ends as it should exactly if its failure handling finds the
attempt, finds the mismatch recovering or reopened, and does not overwrite a mismatch that is open
or acknowledged by then. -/
theorem remediationEnds_iff (message : ℕ → RuntimeOperation → String)
    (others : ℕ → List Statement) (workerId : String) (input : RemediateInput)
    (command : RuntimeCommand) (now : Date) (w : World) (hcommand : Remediates input command)
    (hw : AwaitsRemediation input.mismatchId command.commandId w.db) :
    let env := failingEnvironment message others
    RemediationEnds input.mismatchId command.commandId
        ((executeCommand workerId command now).trace (handleStore env) w)
        ((executeCommand workerId command now).run (handleStore env) w).2.db ↔
      FailureFinds ((executeCommand workerId command now).trace (handleStore env) w) := by
  obtain ⟨pre, e, error, result, htrace, hrun, hpre, he, hmismatch, hopen, hstate⟩ :
      ∃ (pre : List StoreEvent) (e : StoreEvent) (error : String) (result : Record),
        (executeCommand workerId command now).trace
          (handleStore (failingEnvironment message others)) w = _ ∧ _ :=
    executeCommand_fails rfl hcommand hw
  have hhandling : ∀ e' ∈ (handleRemediation workerId command now error input.context).trace
      (handleStore (failingEnvironment message others)) e.after, e'.call.isFail = false := by
    intro e' he'
    exact isFail_eq_false_of_table
      ((uses_handleRemediation workerId command now error _).trace _ e' he')
  have hnone : ∀ e' ∈ [e], e'.call.newStatus? input.mismatchId = none := by
    intro e' he'
    rw [List.mem_singleton.1 he', he]
    rfl
  simp only
  rw [htrace, hrun, failureFinds_append fun e' he' => (hpre e' he').1,
    remediationEnds_append fun e' he' => (hpre e' he').2,
    failureFinds_cons (by rw [he]; rfl) hhandling, ← List.singleton_append,
    remediationEnds_append hnone]
  exact remediationEnds_iff_handle input.context hmismatch hopen hstate

end Execution

/-! ## Requested remediations -/

section Request

variable {env : Environment} {input : RemediateInput} {commandId : String} {now : Date} {w : World}

theorem getRequiredMismatch_ok {mismatch : RuntimeMismatch}
    (h : ((getRequiredMismatch mismatchId).run (handleStore env) w).1 = .ok mismatch) :
    w.db.getMismatchById mismatchId = some mismatch := by
  obtain ⟨found, hfound, hrun⟩ := Task.run_call_bind_ok _ h
  rw [getRequiredMismatch, hrun] at h
  cases found with
  | none => cases h
  | some row =>
    cases h
    exact Except.ok.inj (perform_ok_of_handleStore_ok hfound)

variable {payload : Record} {commandType : RuntimeCommandType} {requestedBy : String}

theorem command_createCommandRecord
    (h : ((createCommandRecord commandId commandType requestedBy payload now).run (handleStore env)
      w).1 = .ok command) :
    (((createCommandRecord commandId commandType requestedBy payload now).run
      (handleStore env) w).2.db.getRuntimeCommand commandId).isSome := by
  unfold createCommandRecord at h ⊢
  obtain ⟨-, -, hrun⟩ := Task.run_call_bind_ok _ h
  rw [hrun] at h ⊢
  obtain ⟨-, -, hrun⟩ := Task.run_call_bind_ok _ h
  rw [hrun] at h ⊢
  obtain ⟨found, hfound, hrun⟩ := Task.run_call_bind_ok _ h
  rw [hrun] at h ⊢
  cases found with
  | none => cases h
  | some row =>
    have hget := Except.ok.inj (perform_ok_of_handleStore_ok hfound)
    show ((handleStore env (.getRuntimeCommand commandId) _).2.db.getRuntimeCommand
      commandId).isSome
    rw [Database.getRuntimeCommand, handleStore_commands (by simp [StoreCall.table?])]
    exact Option.isSome_iff_exists.2 ⟨row, hget⟩

theorem command_run {α : Type} {t : RuntimeTask α} (ht : t.Uses fun c => c.table? ≠ some .commands)
    (hw : (w.db.getRuntimeCommand commandId).isSome) :
    ((t.run (handleStore env) w).2.db.getRuntimeCommand commandId).isSome :=
  isSome_of_commandState (commandState_run ht commandId w) hw

theorem uses_getRequiredMismatch (mismatchId : String) :
    (getRequiredMismatch mismatchId).Uses fun c => c.table? = none := by
  refine Task.Uses.call_bind rfl fun mismatch => ?_
  cases mismatch <;> trivial

theorem uses_checkRemediation (mismatch : RuntimeMismatch) :
    (checkRemediation input mismatch).Uses fun c => c.table? = none := by
  unfold checkRemediation
  split_ifs
  · trivial
  · refine Task.Uses.call_bind rfl fun inFlight => ?_
    cases inFlight with
    | some inFlight => trivial
    | none =>
      refine Task.Uses.call_bind rfl fun runtimeStatus => ?_
      split_ifs <;> trivial

theorem uses_createCommandRecord :
    (createCommandRecord commandId commandType requestedBy payload now).Uses fun c =>
      c.table? = some .commands ∨ c.table? = some .events ∨ c.table? = none := by
  refine Task.Uses.call_bind (by simp [StoreCall.table?]) fun _ => ?_
  refine Task.Uses.call_bind (by simp [StoreCall.table?]) fun _ => ?_
  refine Task.Uses.call_bind (by simp [StoreCall.table?]) fun found => ?_
  cases found <;> trivial

theorem failsAttempt_of_table_ne (hc : c.table? ≠ some .remediations) : c.failsAttempt = false := by
  cases c <;> simp_all [StoreCall.failsAttempt, StoreCall.table?]

theorem uses_remediateMismatch :
    (remediateMismatch input commandId now).Uses fun c => c.failsAttempt = false := by
  apply Task.Uses.bind
  · exact (uses_getRequiredMismatch _).mono fun c hc => failsAttempt_of_table_ne (by simp [hc])
  intro mismatch
  apply Task.Uses.bind
  · exact (uses_checkRemediation _).mono fun c hc => failsAttempt_of_table_ne (by simp [hc])
  intro _
  apply Task.Uses.bind
  · refine uses_createCommandRecord.mono fun c hc => failsAttempt_of_table_ne ?_
    rcases hc with hc | hc | hc <;> simp [hc]
  intro command
  refine Task.Uses.call_bind rfl fun remediation => ?_
  apply Task.Uses.bind (Task.uses_ofExcept _)
  intro nextStatus
  refine Task.Uses.call_bind rfl fun _ => Task.Uses.call_bind rfl fun _ => ?_
  refine Task.Uses.call_bind rfl fun found => ?_
  cases found <;> trivial

/-- A remediation that was requested awaits its execution, if the others that write meanwhile are
operators and reconciliation. -/
theorem awaitsRemediation_remediateMismatch {remediation : RuntimeMismatchRemediation}
    (hfresh : ∀ row ∈ w.db.remediations, ∃ n < w.db.nextId, row.id = toString n)
    (hnew : ∀ row ∈ w.db.remediations, row.commandId ≠ commandId)
    (h : ((remediateMismatch input commandId now).run (handleStore env) w).1 = .ok remediation) :
    AwaitsRemediation input.mismatchId commandId
      ((remediateMismatch input commandId now).run (handleStore env) w).2.db := by
  have hopen : OpenAttempts commandId w.db :=
    ⟨fun row hrow hid => absurd hid (hnew row hrow), hfresh⟩
  refine ⟨openAttempts_run uses_remediateMismatch hopen, ?_, ?_⟩
  · unfold remediateMismatch at h ⊢
    obtain ⟨mismatch, hmismatch, hrun⟩ := Task.run_bind_ok _ h
    rw [hrun] at h ⊢
    obtain ⟨-, -, hrun⟩ := Task.run_bind_ok _ h
    rw [hrun] at h ⊢
    obtain ⟨command, hcommand, hrun⟩ := Task.run_bind_ok _ h
    rw [hrun]
    refine command_run ?_ (command_createCommandRecord hcommand)
    refine Task.Uses.call_bind (by simp [StoreCall.table?]) fun remediation => ?_
    apply Task.Uses.bind (Task.uses_ofExcept _)
    intro nextStatus
    refine Task.Uses.call_bind (by simp [StoreCall.table?]) fun _ => ?_
    refine Task.Uses.call_bind (by simp [StoreCall.table?]) fun _ => ?_
    refine Task.Uses.call_bind (by simp [StoreCall.table?]) fun found => ?_
    cases found <;> trivial
  · unfold remediateMismatch at h ⊢
    obtain ⟨mismatch, hmismatch, hrun⟩ := Task.run_bind_ok _ h
    rw [hrun]
    apply hasMismatch_run
    apply hasMismatch_run
    rw [← Database.getMismatchById_isSome, getRequiredMismatch_ok hmismatch]
    rfl

end Request

/-! ## A remediation that does not end -/

/-- A mismatch that was just detected, and an idle runtime. -/
def sampleMismatched : Database :=
  ((sampleQueue []).upsertMismatch
    { dedupeKey := "runtime_failure:primary", category := "runtime_failure", severity := "high"
      sourceKind := none, sourceComponent := "sentinel-runtime", entityType := none
      entityId := none, summary := "cycle failed", details := [], detectedAt := 0 } 0).2

def sampleRemediation : RemediateInput where
  mismatchId := "0"
  actorId := "operator"
  remediationType := .runCycle
  summary := none

/-- The remediation is requested and its command "a" claimed. -/
def sampleRequested : World :=
  ⟨((remediateMismatch sampleRemediation "a" 1).run
    (handleStore (failingEnvironment (fun _ _ => "") fun _ => []))
      ⟨sampleMismatched, 0⟩).2.db.markRunning "a" "worker-0" 2, 0⟩

theorem awaitsRemediation_requested :
    AwaitsRemediation sampleRemediation.mismatchId "a"
      ((remediateMismatch sampleRemediation "a" 1).run
        (handleStore (failingEnvironment (fun _ _ => "") fun _ => [])) ⟨sampleMismatched, 0⟩).2.db :=
  awaitsRemediation_remediateMismatch (w := ⟨sampleMismatched, 0⟩) (List.forall_mem_nil _)
    (List.forall_mem_nil _) rfl

def sampleRemediationCommand : RuntimeCommand where
  commandId := "a"
  commandType := .runCycle
  status := .running
  requestedBy := "operator"
  claimedBy := some "worker-0"
  payload := sampleRemediation.payload
  result := []
  errorMessage := none
  requestedAt := 1
  startedAt := some 2
  completedAt := none
  updatedAt := 2

example : sampleRequested.db.getRuntimeCommand "a" = some sampleRemediationCommand := rfl

theorem remediates_sample : Remediates sampleRemediation sampleRemediationCommand := ⟨rfl, rfl⟩

theorem awaitsRemediation_sample : AwaitsRemediation "0" "a" sampleRequested.db where
  unfailed row hrow _ := by
    rw [List.mem_singleton.1 hrow]
    simp
  fresh row hrow := by
    rw [List.mem_singleton.1 hrow]
    exact ⟨2, by decide, rfl⟩
  command := rfl
  mismatch := ⟨_, List.mem_cons_self, rfl⟩

/-- Left alone, the remediation ends: the attempt has failed and the mismatch is reopened. -/
theorem remediationEnds_iff_sample :
    let env := failingEnvironment (fun _ _ => "cycle failed again") fun _ => []
    RemediationEnds "0" "a"
      ((executeCommand "worker-0" sampleRemediationCommand 3).trace (handleStore env)
        sampleRequested)
      ((executeCommand "worker-0" sampleRemediationCommand 3).run (handleStore env)
        sampleRequested).2.db := by
  apply (remediationEnds_iff (fun _ _ => "cycle failed again") (fun _ => []) "worker-0"
    sampleRemediation sampleRemediationCommand 3 sampleRequested remediates_sample
    awaitsRemediation_sample).2
  have hother : ∀ {c : StoreCall} {P : Prop}, c.isFail = false → c.isFail = true → P :=
    fun h h' => by rw [h] at h'; cases h'
  refine ⟨hother rfl, hother rfl, hother rfl, hother rfl, hother rfl, hother rfl, fun _ => ?_,
    hother rfl, hother rfl, hother rfl, hother rfl, hother rfl, hother rfl, trivial⟩
  refine List.forall_mem_cons.2 ⟨rfl, List.forall_mem_cons.2 ⟨?_, List.forall_mem_cons.2 ⟨trivial,
    List.forall_mem_cons.2 ⟨trivial, List.forall_mem_cons.2 ⟨?_, List.forall_mem_cons.2 ⟨trivial,
    List.forall_mem_nil _⟩⟩⟩⟩⟩⟩
  · intro row hrow
    cases hrow
    exact Or.inl rfl
  · intro row hrow
    cases hrow
    exact ⟨by decide, by decide⟩

/-- The operator resolves the mismatch while the cycle runs. -/
def sampleResolution : ℕ → List Statement
  | 5 => [.updateMismatchById "0"
      { status := some .resolved, resolvedAt := some (some 3), resolvedBy := some (some "operator")
        resolutionSummary := some (some "fixed by hand"), linkedCommandId := some (some "a")
        linkedRecoveryEventId := some (some "4"), lastStatusChangeAt := some 3 } 3]
  | _ => []

/-- The mismatch is resolved while the cycle runs: the lifecycle refuses the status after a failed
remediation, and the attempt stays in flight. -/
theorem attempt_left_running :
    let env := failingEnvironment (fun _ _ => "cycle failed again") sampleResolution
    let db := ((executeCommand "worker-0" sampleRemediationCommand 3).run (handleStore env)
      sampleRequested).2.db
    (db.getInFlightMismatchRemediation "0").map (fun row => (row.commandId, row.status)) =
        some ("a", .running) ∧
      ¬ RemediationEnds "0" "a"
        ((executeCommand "worker-0" sampleRemediationCommand 3).trace (handleStore env)
          sampleRequested) db := by
  refine ⟨rfl, fun hends => ?_⟩
  obtain ⟨attempt, hattempt, hfailed, -⟩ := hends.attempt
  cases hattempt
  cases hfailed

end SentinelApex.Runtime
