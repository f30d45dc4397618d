import SentinelApex.Runtime.Store
import SentinelApex.Execution.Session

/-!
# Calls of the runtime's tasks

The worker, the control plane, the health monitor and the reconciliation engine are tasks that call
the methods of `RuntimeStore`; the worker also calls an operation of the runtime. A call of the
store may lose its request or its answer (`StoreFault`), and between two calls other activities may
write mismatches, attempts and events (`Statement`), those of a running operation included.
-/

namespace SentinelApex.Runtime

open Async

/-! ## Calls -/

inductive RuntimeOperation where
  | runCycle (triggerSource : String)
  | runReconciliation (trigger sourceComponent : String)
      (triggerReference triggeredBy : Option String)
  | runTreasuryEvaluation (actorId : String) (sourceRunId : Option String)
  | runCarryEvaluation (actorId trigger : String)
      (sourceRunId linkedRebalanceProposalId targetCarryNotionalUsd : Option String)
  | runAllocatorEvaluation (trigger actorId : String) (sourceRunId : Option String)
  | executeCarryAction (actionId actorId commandId startedBy : String)
  | executeTreasuryAction (actionId actorId commandId startedBy : String)
  | executeRebalanceProposal (proposalId actorId commandId startedBy : String)
  | rebuildProjections (triggerSource : String)

inductive StoreCall where
  | updateWorkerStatus (p : WorkerStatusPatch)
  | enqueueRuntimeCommand (input : CommandInput) (now : Date)
  | getRuntimeCommand (commandId : String)
  | completeRuntimeCommand (commandId : String) (result : Record) (now : Date)
  | failRuntimeCommand (commandId errorMessage : String) (now : Date)
  | recordRecoveryEvent (input : RecoveryEventInput) (now : Date)
  | getMismatchById (mismatchId : String)
  | getMismatchByDedupeKey (dedupeKey : String)
  | updateMismatchById (mismatchId : String) (p : MismatchPatch) (now : Date)
  | updateMismatchByDedupeKey (dedupeKey : String) (p : MismatchPatch) (now : Date)
  | upsertMismatch (input : MismatchInput) (now : Date)
  | createMismatchRemediation (input : RemediationInput) (now : Date)
  | getMismatchRemediationById (remediationId : String)
  | getMismatchRemediationByCommandId (commandId : String)
  | getInFlightMismatchRemediation (mismatchId : String)
  | updateMismatchRemediationById (remediationId : String) (p : RemediationPatch) (now : Date)
  | updateRebalanceBundleRecoveryAction (recoveryActionId : String) (p : BundleRecoveryPatch)
      (now : Date)
  | getRuntimeStatus
  | operate (operation : RuntimeOperation)

abbrev StoreCall.Reply : StoreCall → Type
  | updateWorkerStatus _ => Unit
  | enqueueRuntimeCommand .. => Unit
  | getRuntimeCommand _ => Option RuntimeCommand
  | completeRuntimeCommand .. => Option RuntimeCommand
  | failRuntimeCommand .. => Option RuntimeCommand
  | recordRecoveryEvent .. => RuntimeRecoveryEvent
  | getMismatchById _ => Option RuntimeMismatch
  | getMismatchByDedupeKey _ => Option RuntimeMismatch
  | updateMismatchById .. => Option RuntimeMismatch
  | updateMismatchByDedupeKey .. => Option RuntimeMismatch
  | upsertMismatch .. => RuntimeMismatch × UpsertOutcome
  | createMismatchRemediation .. => RuntimeMismatchRemediation
  | getMismatchRemediationById _ => Option RuntimeMismatchRemediation
  | getMismatchRemediationByCommandId _ => Option RuntimeMismatchRemediation
  | getInFlightMismatchRemediation _ => Option RuntimeMismatchRemediation
  | updateMismatchRemediationById .. => Option RuntimeMismatchRemediation
  | updateRebalanceBundleRecoveryAction .. => Unit
  | getRuntimeStatus => RuntimeStatus
  | operate _ => Record

abbrev RuntimeTask (α : Type) := Task StoreCall StoreCall.Reply String α

abbrev StoreCall.send (c : StoreCall) : RuntimeTask c.Reply := Task.call c

/-! ## The world -/

/-- A statement of an operator or of reconciliation. The worker's updates of attempts are not among
them. -/
inductive Statement where
  | updateMismatchById (mismatchId : String) (p : MismatchPatch) (now : Date)
  | updateMismatchByDedupeKey (dedupeKey : String) (p : MismatchPatch) (now : Date)
  | upsertMismatch (input : MismatchInput) (now : Date)
  | createMismatchRemediation (input : RemediationInput) (now : Date)
  | recordRecoveryEvent (input : RecoveryEventInput) (now : Date)

def Statement.apply (db : Database) : Statement → Database
  | updateMismatchById mismatchId p now => db.updateMismatchById mismatchId p now
  | updateMismatchByDedupeKey dedupeKey p now => db.updateMismatchByDedupeKey dedupeKey p now
  | upsertMismatch input now => (db.upsertMismatch input now).2
  | createMismatchRemediation input now => (db.createMismatchRemediation input now).2
  | recordRecoveryEvent input now => (db.recordRecoveryEvent input now).2

/-- What a task cannot foresee about its `n`-th call: the outcome of an operation, a fault of the
store, and the statements of others before the next call. -/
structure Environment where
  operate : ℕ → RuntimeOperation → Except String Record
  faults : ℕ → Option StoreFault
  others : ℕ → List Statement

structure World where
  db : Database
  calls : ℕ

def perform (env : Environment) (n : ℕ) (db : Database) :
    (c : StoreCall) → Except String c.Reply × Database
  | .updateWorkerStatus p => (.ok (), db.updateWorkerStatus p)
  | .enqueueRuntimeCommand input now => (.ok (), db.enqueueRuntimeCommand input now)
  | .getRuntimeCommand id => (.ok (db.getRuntimeCommand id), db)
  | .completeRuntimeCommand id result now =>
    let db' := db.completeRuntimeCommand id result now
    (.ok (db'.getRuntimeCommand id), db')
  | .failRuntimeCommand id errorMessage now =>
    let db' := db.failRuntimeCommand id errorMessage now
    (.ok (db'.getRuntimeCommand id), db')
  | .recordRecoveryEvent input now => db.recordRecoveryEvent input now
  | .getMismatchById id => (.ok (db.getMismatchById id), db)
  | .getMismatchByDedupeKey dedupeKey => (.ok (db.getMismatchByDedupeKey dedupeKey), db)
  | .updateMismatchById id p now =>
    let db' := db.updateMismatchById id p now
    (.ok (db'.getMismatchById id), db')
  | .updateMismatchByDedupeKey dedupeKey p now =>
    let db' := db.updateMismatchByDedupeKey dedupeKey p now
    (.ok (db'.getMismatchByDedupeKey dedupeKey), db')
  | .upsertMismatch input now => db.upsertMismatch input now
  | .createMismatchRemediation input now => db.createMismatchRemediation input now
  | .getMismatchRemediationById id => (.ok (db.getMismatchRemediationById id), db)
  | .getMismatchRemediationByCommandId id => (.ok (db.getMismatchRemediationByCommandId id), db)
  | .getInFlightMismatchRemediation id => (.ok (db.getInFlightMismatchRemediation id), db)
  | .updateMismatchRemediationById id p now =>
    let db' := db.updateMismatchRemediationById id p now
    (.ok (db'.getMismatchRemediationById id), db')
  | .updateRebalanceBundleRecoveryAction id p now =>
    (.ok (), db.updateRebalanceBundleRecoveryAction id p now)
  | .getRuntimeStatus => (.ok db.runtimeStatus, db)
  | .operate operation => (env.operate n operation, db)

/-- The fault that a call meets; an operation is not a call of the store. -/
def Environment.faultOf (env : Environment) (n : ℕ) : StoreCall → Option StoreFault
  | .operate _ => none
  | _ => env.faults n

def faulty {α : Type} (fault : Option StoreFault) (answer : Except String α × Database)
    (db : Database) : Except String α × Database :=
  match fault with
  | none => answer
  | some (.requestLost message) => (.error message, db)
  | some (.answerLost message) => (.error message, answer.2)

/-- A call, and what others write before the next one. -/
def handleStore (env : Environment) : Handler StoreCall StoreCall.Reply String World := fun c w =>
  let answer := faulty (env.faultOf w.calls c) (perform env w.calls w.db c) w.db
  (answer.1, ⟨(env.others w.calls).foldl Statement.apply answer.2, w.calls + 1⟩)

abbrev StoreEvent := Event StoreCall StoreCall.Reply String World

def Environment.lands (env : Environment) (n : ℕ) (c : StoreCall) : Bool :=
  match env.faultOf n c with
  | some (.requestLost _) => false
  | _ => true

/-! ## Updates and selections -/

theorem find?_update {α : Type} {key : α → String} {f : α → α} (hf : ∀ a, key (f a) = key a)
    (k : String) (l : List α) :
    (l.map fun a => if key a = k then f a else a).find? (fun a => decide (key a = k)) =
      (l.find? fun a => decide (key a = k)).map f := by
  induction l with
  | nil => rfl
  | cons a l ih =>
    rw [List.map_cons, List.find?_cons, List.find?_cons]
    by_cases hk : key a = k
    · simp [hk, hf]
    · simpa [hk] using ih

/-! ## What a call writes -/

inductive Table where
  | commands
  | mismatches
  | remediations
  | events
  | bundleRecoveryActions
  | workerStatus
  deriving DecidableEq, Repr

def StoreCall.table? : StoreCall → Option Table
  | updateWorkerStatus _ => some .workerStatus
  | enqueueRuntimeCommand .. => some .commands
  | completeRuntimeCommand .. => some .commands
  | failRuntimeCommand .. => some .commands
  | recordRecoveryEvent .. => some .events
  | updateMismatchById .. => some .mismatches
  | updateMismatchByDedupeKey .. => some .mismatches
  | upsertMismatch .. => some .mismatches
  | createMismatchRemediation .. => some .remediations
  | updateMismatchRemediationById .. => some .remediations
  | updateRebalanceBundleRecoveryAction .. => some .bundleRecoveryActions
  | getRuntimeCommand _ => none
  | getMismatchById _ => none
  | getMismatchByDedupeKey _ => none
  | getMismatchRemediationById _ => none
  | getMismatchRemediationByCommandId _ => none
  | getInFlightMismatchRemediation _ => none
  | getRuntimeStatus => none
  | operate _ => none

section Frames

variable (env : Environment) (n : ℕ) (db : Database)

namespace Database

theorem upsertMismatch_frame (input : MismatchInput) (now : Date) :
    (db.upsertMismatch input now).2.commands = db.commands ∧
      (db.upsertMismatch input now).2.remediations = db.remediations := by
  unfold upsertMismatch
  split <;> exact ⟨rfl, rfl⟩

theorem createMismatchRemediation_frame (input : RemediationInput) (now : Date) :
    (db.createMismatchRemediation input now).2.commands = db.commands ∧
      (db.createMismatchRemediation input now).2.mismatches = db.mismatches := by
  unfold createMismatchRemediation
  split_ifs <;> exact ⟨rfl, rfl⟩

theorem recordRecoveryEvent_frame (input : RecoveryEventInput) (now : Date) :
    (db.recordRecoveryEvent input now).2.commands = db.commands ∧
      (db.recordRecoveryEvent input now).2.mismatches = db.mismatches ∧
      (db.recordRecoveryEvent input now).2.remediations = db.remediations := by
  simp only [recordRecoveryEvent]
  split
  · exact ⟨rfl, rfl, rfl⟩
  · split_ifs <;> exact ⟨rfl, rfl, rfl⟩

theorem enqueueRuntimeCommand_frame (input : CommandInput) (now : Date) :
    (db.enqueueRuntimeCommand input now).mismatches = db.mismatches ∧
      (db.enqueueRuntimeCommand input now).remediations = db.remediations := by
  unfold enqueueRuntimeCommand
  split_ifs <;> exact ⟨rfl, rfl⟩

theorem upsertMismatch_nextId_le (input : MismatchInput) (now : Date) :
    db.nextId ≤ (db.upsertMismatch input now).2.nextId := by
  unfold upsertMismatch
  split
  · exact Nat.le_succ _
  · exact le_rfl

theorem createMismatchRemediation_nextId_le (input : RemediationInput) (now : Date) :
    db.nextId ≤ (db.createMismatchRemediation input now).2.nextId := by
  unfold createMismatchRemediation
  split_ifs
  · exact le_rfl
  · exact le_rfl
  · exact Nat.le_succ _

theorem recordRecoveryEvent_nextId_le (input : RecoveryEventInput) (now : Date) :
    db.nextId ≤ (db.recordRecoveryEvent input now).2.nextId := by
  simp only [recordRecoveryEvent]
  split
  · exact Nat.le_succ _
  · split_ifs
    · exact le_rfl
    · exact Nat.le_succ _

theorem enqueueRuntimeCommand_nextId (input : CommandInput) (now : Date) :
    (db.enqueueRuntimeCommand input now).nextId = db.nextId := by
  unfold enqueueRuntimeCommand
  split_ifs <;> rfl

end Database

theorem perform_nextId_le (c : StoreCall) : db.nextId ≤ (perform env n db c).2.nextId := by
  cases c with
  | upsertMismatch input now => exact db.upsertMismatch_nextId_le input now
  | createMismatchRemediation input now => exact db.createMismatchRemediation_nextId_le input now
  | recordRecoveryEvent input now => exact db.recordRecoveryEvent_nextId_le input now
  | enqueueRuntimeCommand input now => exact (db.enqueueRuntimeCommand_nextId input now).ge
  | _ => exact le_rfl

variable {c : StoreCall}

theorem perform_commands (hc : c.table? ≠ some .commands) :
    (perform env n db c).2.commands = db.commands := by
  cases c with
  | enqueueRuntimeCommand | completeRuntimeCommand | failRuntimeCommand => exact absurd rfl hc
  | recordRecoveryEvent input now => exact (db.recordRecoveryEvent_frame input now).1
  | upsertMismatch input now => exact (db.upsertMismatch_frame input now).1
  | createMismatchRemediation input now => exact (db.createMismatchRemediation_frame input now).1
  | _ => rfl

theorem perform_mismatches (hc : c.table? ≠ some .mismatches) :
    (perform env n db c).2.mismatches = db.mismatches := by
  cases c with
  | updateMismatchById | updateMismatchByDedupeKey | upsertMismatch => exact absurd rfl hc
  | enqueueRuntimeCommand input now => exact (db.enqueueRuntimeCommand_frame input now).1
  | recordRecoveryEvent input now => exact (db.recordRecoveryEvent_frame input now).2.1
  | createMismatchRemediation input now => exact (db.createMismatchRemediation_frame input now).2
  | _ => rfl

theorem perform_remediations (hc : c.table? ≠ some .remediations) :
    (perform env n db c).2.remediations = db.remediations := by
  cases c with
  | createMismatchRemediation | updateMismatchRemediationById => exact absurd rfl hc
  | enqueueRuntimeCommand input now => exact (db.enqueueRuntimeCommand_frame input now).2
  | recordRecoveryEvent input now => exact (db.recordRecoveryEvent_frame input now).2.2
  | upsertMismatch input now => exact (db.upsertMismatch_frame input now).2
  | _ => rfl

theorem Statement.apply_commands (st : Statement) : (st.apply db).commands = db.commands := by
  cases st with
  | upsertMismatch input now => exact (db.upsertMismatch_frame input now).1
  | createMismatchRemediation input now => exact (db.createMismatchRemediation_frame input now).1
  | recordRecoveryEvent input now => exact (db.recordRecoveryEvent_frame input now).1
  | _ => rfl

end Frames

/-! ## Invariants of the database -/

variable {c : StoreCall} {db : Database} {w : World}

section Invariants

variable {env : Environment} {I : Database → Prop}

theorem foldl_apply (hI : ∀ db st, I db → I (Statement.apply db st)) (h : I db)
    (statements : List Statement) : I (statements.foldl Statement.apply db) := by
  induction statements generalizing db with
  | nil => exact h
  | cons st rest ih => exact ih (hI db st h)

/-- What the statements of others and the call itself keep is kept, whether or not the call meets a
fault. -/
theorem handleStore_keeps (hI : ∀ db st, I db → I (Statement.apply db st))
    (hc : I w.db → I (perform env w.calls w.db c).2) (h : I w.db) :
    I (handleStore env c w).2.db := by
  apply foldl_apply hI
  unfold faulty
  split
  · exact hc h
  · exact h
  · exact hc h

theorem faulty_of_lands {n : ℕ} (h : env.lands n c = true)
    (answer : Except String c.Reply × Database) (db : Database) :
    (faulty (env.faultOf n c) answer db).2 = answer.2 := by
  unfold Environment.lands at h
  unfold faulty
  split <;> simp_all

theorem faulty_of_lost {n : ℕ} (h : env.lands n c = false)
    (answer : Except String c.Reply × Database) (db : Database) :
    ∃ message, faulty (env.faultOf n c) answer db = (.error message, db) := by
  unfold Environment.lands at h
  unfold faulty
  split <;> simp_all

theorem handleStore_commands_of_lands (h : env.lands w.calls c = true) :
    (handleStore env c w).2.db.commands = (perform env w.calls w.db c).2.commands := by
  apply foldl_apply (I := fun db => db.commands = (perform env w.calls w.db c).2.commands)
    fun db st hdb => (st.apply_commands db).trans hdb
  rw [faulty_of_lands h]

theorem handleStore_commands_of_lost (h : env.lands w.calls c = false) :
    (handleStore env c w).2.db.commands = w.db.commands := by
  obtain ⟨message, hlost⟩ := faulty_of_lost h (perform env w.calls w.db c) w.db
  apply foldl_apply (I := fun db => db.commands = w.db.commands)
    fun db st hdb => (st.apply_commands db).trans hdb
  rw [hlost]

theorem handleStore_commands (hc : c.table? ≠ some .commands) (w : World) :
    (handleStore env c w).2.db.commands = w.db.commands := by
  refine handleStore_keeps (I := fun db => db.commands = w.db.commands) ?_ ?_ rfl
  · intro db st h
    rw [st.apply_commands, h]
  · intro _
    exact perform_commands env _ _ hc

end Invariants

/-! ## Mismatches are never deleted -/

namespace Database

def HasMismatch (db : Database) (mismatchId : String) : Prop :=
  ∃ row ∈ db.mismatches, row.id = mismatchId

variable {db : Database} {mismatchId : String}

theorem getMismatchById_isSome : (db.getMismatchById mismatchId).isSome ↔
    db.HasMismatch mismatchId := by
  simp [getMismatchById, List.find?_isSome, HasMismatch]

section

variable (h : db.HasMismatch mismatchId)

include h

theorem HasMismatch.of_map {db' : Database} {f : RuntimeMismatch → RuntimeMismatch}
    (hid : ∀ row, (f row).id = row.id) (hdb' : db'.mismatches = db.mismatches.map f) :
    db'.HasMismatch mismatchId := by
  obtain ⟨row, hrow, hrowId⟩ := h
  exact ⟨f row, hdb' ▸ List.mem_map_of_mem hrow, (hid row).trans hrowId⟩

theorem HasMismatch.updateMismatchById (id : String) (p : MismatchPatch) (now : Date) :
    (db.updateMismatchById id p now).HasMismatch mismatchId := by
  refine h.of_map ?_ rfl
  intro row
  split_ifs <;> rfl

theorem HasMismatch.updateMismatchByDedupeKey (dedupeKey : String) (p : MismatchPatch) (now : Date) :
    (db.updateMismatchByDedupeKey dedupeKey p now).HasMismatch mismatchId := by
  refine h.of_map ?_ rfl
  intro row
  split_ifs <;> rfl

theorem HasMismatch.upsertMismatch (input : MismatchInput) (now : Date) :
    (db.upsertMismatch input now).2.HasMismatch mismatchId := by
  unfold Database.upsertMismatch
  split
  · obtain ⟨row, hrow, hrowId⟩ := h
    exact ⟨row, List.mem_append_left _ hrow, hrowId⟩
  · refine h.of_map ?_ rfl
    intro row
    split_ifs <;> rfl

end

end Database

variable {mismatchId : String}

theorem perform_hasMismatch (env : Environment) (n : ℕ) (h : db.HasMismatch mismatchId)
    (c : StoreCall) : (perform env n db c).2.HasMismatch mismatchId := by
  by_cases hc : c.table? = some .mismatches
  · cases c with
    | updateMismatchById id p now => exact h.updateMismatchById id p now
    | updateMismatchByDedupeKey dedupeKey p now => exact h.updateMismatchByDedupeKey dedupeKey p now
    | upsertMismatch input now => exact h.upsertMismatch input now
    | _ => cases hc
  · rw [Database.HasMismatch, perform_mismatches env n db hc]
    exact h

theorem Statement.apply_hasMismatch (st : Statement) (h : db.HasMismatch mismatchId) :
    (st.apply db).HasMismatch mismatchId := by
  cases st with
  | updateMismatchById id p now => exact h.updateMismatchById id p now
  | updateMismatchByDedupeKey dedupeKey p now => exact h.updateMismatchByDedupeKey dedupeKey p now
  | upsertMismatch input now => exact h.upsertMismatch input now
  | createMismatchRemediation input now =>
    rw [Database.HasMismatch, Statement.apply, (db.createMismatchRemediation_frame input now).2]
    exact h
  | recordRecoveryEvent input now =>
    rw [Database.HasMismatch, Statement.apply, (db.recordRecoveryEvent_frame input now).2.1]
    exact h

theorem handleStore_hasMismatch {env : Environment} (h : w.db.HasMismatch mismatchId)
    (c : StoreCall) : (handleStore env c w).2.db.HasMismatch mismatchId :=
  handleStore_keeps (I := fun db => db.HasMismatch mismatchId)
    (fun _ st hdb => st.apply_hasMismatch hdb) (fun hdb => perform_hasMismatch env w.calls hdb c) h

theorem hasMismatch_run {α : Type} {env : Environment} (h : w.db.HasMismatch mismatchId)
    (t : RuntimeTask α) : (t.run (handleStore env) w).2.db.HasMismatch mismatchId :=
  Task.run_keeps (I := fun w : World => w.db.HasMismatch mismatchId)
    (fun c _ hw => handleStore_hasMismatch hw c) t h

variable {input : RecoveryEventInput}

theorem recordRecoveryEvent_ok (now : Date)
    (h : ∀ mismatchId, input.mismatchId = some mismatchId → db.HasMismatch mismatchId) :
    ∃ row, (db.recordRecoveryEvent input now).1 = .ok row := by
  simp only [Database.recordRecoveryEvent]
  split
  · exact ⟨_, rfl⟩
  · rename_i mismatchId hid
    have hsome := Database.getMismatchById_isSome.2 (h mismatchId hid)
    rw [if_neg (by simp [Option.isNone_iff_eq_none, Option.isSome_iff_ne_none.1 hsome])]
    exact ⟨_, rfl⟩

theorem hasMismatch_of_recordRecoveryEvent_ok {now : Date} {row : RuntimeRecoveryEvent}
    (h : (db.recordRecoveryEvent input now).1 = .ok row) (hid : input.mismatchId =
      some mismatchId) :
    db.HasMismatch mismatchId := by
  simp only [Database.recordRecoveryEvent, hid] at h
  split_ifs at h with hnone
  rw [← Database.getMismatchById_isSome, Option.isSome_iff_ne_none]
  simpa using hnone

end SentinelApex.Runtime
