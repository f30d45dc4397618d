import SentinelApex.Runtime.Store
import SentinelApex.Lib.Task

/-!
# Claims of pending commands

Any number of workers tick concurrently, and their statements interleave with those that enqueue,
complete and fail commands. A claim selects the oldest pending command, marks it as running if it is
still pending, and reads it back; whether the update found it pending is not looked at, so two
claims that select the same command both return it (`claims_overlap`).

As long as every guarded update finds its command pending, no command is returned by two claims and
none is executed twice (`claimedOnce_of_guardsHit`).
-/

namespace SentinelApex.Runtime

open Async

/-! ## Statements -/

/-- A database statement of the queue, or the execution of a claimed command. -/
inductive QueueCall where
  | updateWorkerStatus
  | selectOldestPending
  | markRunning (commandId claimedBy : String) (now : Date)
  | getRuntimeCommand (commandId : String)
  | executeCommand (command : RuntimeCommand)
  | enqueueRuntimeCommand (input : CommandInput) (now : Date)
  | completeRuntimeCommand (commandId : String) (result : Record) (now : Date)
  | failRuntimeCommand (commandId errorMessage : String) (now : Date)

abbrev QueueCall.Reply : QueueCall → Type
  | updateWorkerStatus => Unit
  | selectOldestPending => Option RuntimeCommand
  | markRunning .. => Unit
  | getRuntimeCommand _ => Option RuntimeCommand
  | executeCommand _ => Unit
  | enqueueRuntimeCommand .. => Unit
  | completeRuntimeCommand .. => Unit
  | failRuntimeCommand .. => Unit

abbrev QueueTask (α : Type) := Task QueueCall QueueCall.Reply String α

abbrev QueueCall.send (c : QueueCall) : QueueTask c.Reply := Task.call c

/-- The database, with the ids that claims have returned and those that were executed so far. -/
structure Queue where
  db : Database
  returned : List String
  executed : List String

def handleQueue : Handler QueueCall QueueCall.Reply String Queue := fun c q =>
  match c with
  | .updateWorkerStatus => (.ok (), q)
  | .selectOldestPending => (.ok q.db.selectOldestPending, q)
  | .markRunning id claimedBy now => (.ok (), { q with db := q.db.markRunning id claimedBy now })
  | .getRuntimeCommand id =>
    match q.db.getRuntimeCommand id with
    | none => (.ok none, q)
    | some command => (.ok (some command), { q with returned := q.returned ++ [id] })
  | .executeCommand command => (.ok (), { q with executed := q.executed ++ [command.commandId] })
  | .enqueueRuntimeCommand input now =>
    (.ok (), { q with db := q.db.enqueueRuntimeCommand input now })
  | .completeRuntimeCommand id result now =>
    (.ok (), { q with db := q.db.completeRuntimeCommand id result now })
  | .failRuntimeCommand id errorMessage now =>
    (.ok (), { q with db := q.db.failRuntimeCommand id errorMessage now })

/-! ## Workers -/

def claimNextPendingCommand (claimedBy : String) (now : Date) :
    QueueTask (Option RuntimeCommand) := do
  match ← QueueCall.selectOldestPending.send with
  | none => pure none
  | some pending =>
    (QueueCall.markRunning pending.commandId claimedBy now).send
    (QueueCall.getRuntimeCommand pending.commandId).send

/-- Execute what a claim returned; without a command the worker looks after its schedule, which
does not touch the commands. -/
def executeClaimed : Option RuntimeCommand → QueueTask Unit
  | none => pure ()
  | some command => (QueueCall.executeCommand command).send

def tick (workerId : String) (now : Date) : QueueTask Unit := do
  QueueCall.updateWorkerStatus.send
  let command ← claimNextPendingCommand workerId now
  executeClaimed command

/-- One of the concurrent activities: a tick of a worker, or a statement of someone else. -/
inductive Actor where
  | tick (workerId : String) (now : Date)
  | enqueue (input : CommandInput) (now : Date)
  | complete (commandId : String) (result : Record) (now : Date)
  | fail (commandId errorMessage : String) (now : Date)

def Actor.task : Actor → QueueTask Unit
  | tick workerId now => Runtime.tick workerId now
  | enqueue input now => (QueueCall.enqueueRuntimeCommand input now).send
  | complete commandId result now => (QueueCall.completeRuntimeCommand commandId result now).send
  | fail commandId errorMessage now =>
    (QueueCall.failRuntimeCommand commandId errorMessage now).send

section Pool

variable {ι : Type} [DecidableEq ι]

def runQueue (actors : ι → Actor) (db : Database) (schedule : List ι) :
    (ι → QueueTask Unit) × Queue :=
  runPool handleQueue schedule (fun i => (actors i).task) ⟨db, [], []⟩

/-- The next statement, if it is the guarded update of a claim, finds its command pending. -/
def GuardHits (t : QueueTask Unit) (q : Queue) : Prop :=
  match t with
  | .await (.markRunning id _ _) _ =>
    ∃ row ∈ q.db.commands, row.commandId = id ∧ row.status = .pending
  | _ => True

/-- Every guarded update of the schedule finds its command pending. -/
def GuardsHit (actors : ι → Actor) (db : Database) (schedule : List ι) : Prop :=
  PoolSteps handleQueue GuardHits schedule (fun i => (actors i).task) ⟨db, [], []⟩

end Pool

/-! ## Stages of an activity -/

/-- Where an activity stands, with what it has read so far. -/
inductive Stage where
  | tick (workerId : String) (now : Date)
  | select (workerId : String) (now : Date)
  | mark (commandId workerId : String) (now : Date)
  | reread (commandId : String)
  | execute (command : RuntimeCommand)
  | enqueue (input : CommandInput) (now : Date)
  | complete (commandId : String) (result : Record) (now : Date)
  | fail (commandId errorMessage : String) (now : Date)
  | finished

namespace Stage

def task : Stage → QueueTask Unit
  | tick workerId now => Runtime.tick workerId now
  | select workerId now => claimNextPendingCommand workerId now >>= executeClaimed
  | mark commandId workerId now =>
    (QueueCall.markRunning commandId workerId now).send >>= fun _ =>
      (QueueCall.getRuntimeCommand commandId).send >>= executeClaimed
  | reread commandId => (QueueCall.getRuntimeCommand commandId).send >>= executeClaimed
  | execute command => (QueueCall.executeCommand command).send
  | enqueue input now => (QueueCall.enqueueRuntimeCommand input now).send
  | complete commandId result now => (QueueCall.completeRuntimeCommand commandId result now).send
  | fail commandId errorMessage now =>
    (QueueCall.failRuntimeCommand commandId errorMessage now).send
  | finished => .done ()

/-- One statement of an activity. -/
def next (q : Queue) : Stage → Stage × Queue
  | tick workerId now => (select workerId now, q)
  | select workerId now =>
    match q.db.selectOldestPending with
    | none => (finished, q)
    | some pending => (mark pending.commandId workerId now, q)
  | mark commandId workerId now =>
    (reread commandId, { q with db := q.db.markRunning commandId workerId now })
  | reread commandId =>
    match q.db.getRuntimeCommand commandId with
    | none => (finished, q)
    | some command => (execute command, { q with returned := q.returned ++ [commandId] })
  | execute command => (finished, { q with executed := q.executed ++ [command.commandId] })
  | enqueue input now => (finished, { q with db := q.db.enqueueRuntimeCommand input now })
  | complete commandId result now =>
    (finished, { q with db := q.db.completeRuntimeCommand commandId result now })
  | fail commandId errorMessage now =>
    (finished, { q with db := q.db.failRuntimeCommand commandId errorMessage now })
  | finished => (finished, q)

theorem step_task (s : Stage) (q : Queue) :
    s.task.step handleQueue q = ((s.next q).1.task, (s.next q).2) := by
  cases s with
  | tick workerId now => rfl
  | select workerId now =>
    simp only [task, claimNextPendingCommand, next, Task.bind_assoc, Task.step_call_bind,
      handleQueue]
    cases q.db.selectOldestPending with
    | none => rfl
    | some pending => simp only [Task.bind_assoc]
  | mark commandId workerId now => rfl
  | reread commandId =>
    simp only [task, next, Task.step_call_bind, handleQueue]
    cases q.db.getRuntimeCommand commandId <;> rfl
  | execute command | enqueue input now | complete commandId result now
  | fail commandId errorMessage now | finished => rfl

/-- The command that an activity has marked and not yet executed. -/
def owns : Stage → Option String
  | reread commandId => some commandId
  | execute command => some command.commandId
  | _ => none

end Stage

def Actor.stage : Actor → Stage
  | tick workerId now => .tick workerId now
  | enqueue input now => .enqueue input now
  | complete commandId result now => .complete commandId result now
  | fail commandId errorMessage now => .fail commandId errorMessage now

theorem Actor.task_eq (a : Actor) : a.task = a.stage.task := by
  cases a <;> rfl

theorem Actor.owns_stage (a : Actor) : a.stage.owns = none := by
  cases a <;> rfl

/-! ## Taken commands -/

variable {command : RuntimeCommand}

namespace Database

/-- The command exists and is not pending. -/
def Taken (db : Database) (commandId : String) : Prop :=
  (∃ row ∈ db.commands, row.commandId = commandId) ∧
    ∀ row ∈ db.commands, row.commandId = commandId → row.status ≠ .pending

variable {db : Database} {id : String}

/-- An update of some of the rows that keeps their ids and leaves none of them pending. -/
theorem Taken.update (h : db.Taken id) (p : RuntimeCommand → Prop) [DecidablePred p]
    {f : RuntimeCommand → RuntimeCommand} (hid : ∀ row, (f row).commandId = row.commandId)
    (hstatus : ∀ row, (f row).status ≠ .pending) :
    { db with commands := db.commands.map fun row => if p row then f row else row }.Taken id := by
  have hkeep : ∀ row, (if p row then f row else row).commandId = row.commandId := by
    intro row
    split_ifs
    · exact hid row
    · rfl
  obtain ⟨⟨row, hrow, hrowId⟩, htaken⟩ := h
  refine ⟨⟨_, List.mem_map_of_mem hrow, (hkeep row).trans hrowId⟩, ?_⟩
  intro row' hrow' hrowId'
  obtain ⟨old, hold, rfl⟩ := List.mem_map.1 hrow'
  have hold' := htaken old hold ((hkeep old).symm.trans hrowId')
  split_ifs
  · exact hstatus old
  · exact hold'

theorem Taken.markRunning (h : db.Taken id) (commandId claimedBy : String) (now : Date) :
    (db.markRunning commandId claimedBy now).Taken id := by
  apply h.update
  · intro row
    rfl
  · simp

theorem Taken.completeRuntimeCommand (h : db.Taken id) (commandId : String) (result : Record)
    (now : Date) : (db.completeRuntimeCommand commandId result now).Taken id := by
  apply h.update
  · intro row
    rfl
  · simp

theorem Taken.failRuntimeCommand (h : db.Taken id) (commandId errorMessage : String) (now : Date) :
    (db.failRuntimeCommand commandId errorMessage now).Taken id := by
  apply h.update
  · intro row
    rfl
  · simp

theorem Taken.enqueueRuntimeCommand (h : db.Taken id) (input : CommandInput) (now : Date) :
    (db.enqueueRuntimeCommand input now).Taken id := by
  unfold Database.enqueueRuntimeCommand
  split_ifs with hexists
  · exact h
  · obtain ⟨⟨row, hrow, hrowId⟩, htaken⟩ := h
    refine ⟨⟨row, List.mem_append_left _ hrow, hrowId⟩, ?_⟩
    intro row' hrow' hrowId'
    rcases List.mem_append.1 hrow' with hold | hnew
    · exact htaken row' hold hrowId'
    · rw [List.mem_singleton] at hnew
      subst hnew
      exact absurd (List.any_eq_true.2 ⟨row, hrow, by simpa [hrowId] using hrowId'.symm⟩) hexists

theorem taken_markRunning {row : RuntimeCommand} (hrow : row ∈ db.commands) (claimedBy : String)
    (now : Date) : (db.markRunning row.commandId claimedBy now).Taken row.commandId := by
  refine ⟨⟨_, List.mem_map_of_mem hrow, ?_⟩, ?_⟩
  · split_ifs <;> rfl
  · intro row' hrow' hrowId'
    obtain ⟨old, -, rfl⟩ := List.mem_map.1 hrow'
    split_ifs at hrowId' ⊢ with hguard
    · simp
    · exact fun hpending => hguard ⟨hrowId', hpending⟩

theorem commandId_of_getRuntimeCommand (h : db.getRuntimeCommand id = some command) :
    command.commandId = id := by
  simpa using List.find?_some h

end Database

/-! ## The invariant -/

/-- A command that is to be read back is taken and was not returned yet; one that is to be executed
was returned and is not executed yet. -/
def Stage.Fits (q : Queue) : Stage → Prop
  | reread commandId => q.db.Taken commandId ∧ commandId ∉ q.returned
  | execute command => command.commandId ∈ q.returned ∧ command.commandId ∉ q.executed
  | _ => True

theorem Stage.fits_of_owns_eq_none {s : Stage} (h : s.owns = none) (q : Queue) : s.Fits q := by
  cases s with
  | reread commandId | execute command => cases h
  | _ => trivial

/-- What other activities return and execute does not concern a stage that does not own it. -/
theorem Stage.Fits.frame {s : Stage} {q q' : Queue} (h : s.Fits q)
    (htaken : ∀ id, q.db.Taken id → q'.db.Taken id) (hreturned : q.returned ⊆ q'.returned)
    (hnew : ∀ id, s.owns = some id →
      (id ∈ q'.returned → id ∈ q.returned) ∧ (id ∈ q'.executed → id ∈ q.executed)) :
    s.Fits q' := by
  cases s with
  | reread commandId =>
    exact ⟨htaken _ h.1, fun hmem => h.2 ((hnew _ rfl).1 hmem)⟩
  | execute command =>
    exact ⟨hreturned h.1, fun hmem => h.2 ((hnew _ rfl).2 hmem)⟩
  | _ => trivial

section Pool

variable {ι : Type} {stages : ι → Stage} {q : Queue}

/-- A command has at most one owner, and what was returned is not pending any more. -/
structure ClaimInv (stages : ι → Stage) (q : Queue) : Prop where
  fits : ∀ i, (stages i).Fits q
  owner_unique : ∀ i j id, (stages i).owns = some id → (stages j).owns = some id → i = j
  returned_taken : ∀ id ∈ q.returned, q.db.Taken id
  executed_returned : q.executed ⊆ q.returned
  returned_nodup : q.returned.Nodup
  executed_nodup : q.executed.Nodup

theorem claimInv_start (actors : ι → Actor) (db : Database) :
    ClaimInv (fun i => (actors i).stage) ⟨db, [], []⟩ where
  fits i := Stage.fits_of_owns_eq_none (actors i).owns_stage _
  owner_unique i j id hi _ := by
    rw [(actors i).owns_stage] at hi
    cases hi
  returned_taken id hid := by cases hid
  executed_returned := List.Subset.refl _
  returned_nodup := List.nodup_nil
  executed_nodup := List.nodup_nil

namespace ClaimInv

variable {i : ι} {s' : Stage}

theorem taken_of_owns (inv : ClaimInv stages q) {id : String} (h : (stages i).owns = some id) :
    q.db.Taken id := by
  have hfits := inv.fits i
  cases hs : stages i with
  | reread commandId =>
    rw [hs] at h hfits
    obtain rfl : commandId = id := Option.some.inj h
    exact hfits.1
  | execute command =>
    rw [hs] at h hfits
    obtain rfl : command.commandId = id := Option.some.inj h
    exact inv.returned_taken _ hfits.1
  | _ => simp [hs, Stage.owns] at h

theorem owns_ne (inv : ClaimInv stages q) {j : ι} {id id' : String} (hji : j ≠ i)
    (hi : (stages i).owns = some id) (hj : (stages j).owns = some id') : id' ≠ id := by
  rintro rfl
  exact hji (inv.owner_unique j i id' hj hi)

variable [DecidableEq ι]

theorem fits_update {q' : Queue} (hi : s'.Fits q') (hothers : ∀ j ≠ i, (stages j).Fits q') (j : ι) :
    (Function.update stages i s' j).Fits q' := by
  by_cases hji : j = i
  · subst hji
    rwa [Function.update_self]
  · rw [Function.update_of_ne hji]
    exact hothers j hji

section

variable (inv : ClaimInv stages q)

include inv

theorem owner_unique_update (hs' : ∀ id, s'.owns = some id → ∀ j ≠ i, (stages j).owns ≠ some id)
    (j k : ι) (id : String) (hj : (Function.update stages i s' j).owns = some id)
    (hk : (Function.update stages i s' k).owns = some id) : j = k := by
  by_cases hji : j = i
  · by_cases hki : k = i
    · rw [hji, hki]
    · subst hji
      rw [Function.update_self] at hj
      rw [Function.update_of_ne hki] at hk
      exact absurd hk (hs' id hj k hki)
  · rw [Function.update_of_ne hji] at hj
    by_cases hki : k = i
    · subst hki
      rw [Function.update_self] at hk
      exact absurd hj (hs' id hk j hji)
    · rw [Function.update_of_ne hki] at hk
      exact inv.owner_unique j k id hj hk

/-- A statement that returns and executes nothing, and after which the activity owns nothing. -/
theorem step_of_owns_eq_none (i : ι) {db' : Database} (hs' : s'.owns = none)
    (hdb : ∀ id, q.db.Taken id → db'.Taken id) :
    ClaimInv (Function.update stages i s') { q with db := db' } where
  fits := fits_update (Stage.fits_of_owns_eq_none hs' _) fun j _ =>
    (inv.fits j).frame hdb (List.Subset.refl _) fun _ _ => ⟨id, id⟩
  owner_unique := inv.owner_unique_update (by simp [hs'])
  returned_taken id hid := hdb id (inv.returned_taken id hid)
  executed_returned := inv.executed_returned
  returned_nodup := inv.returned_nodup
  executed_nodup := inv.executed_nodup

theorem step_mark (i : ι) {row : RuntimeCommand} (hrow : row ∈ q.db.commands)
    (hpending : row.status = .pending) (workerId : String) (now : Date) :
    ClaimInv (Function.update stages i (.reread row.commandId))
      { q with db := q.db.markRunning row.commandId workerId now } := by
  have hfree : ¬ q.db.Taken row.commandId := fun htaken => htaken.2 row hrow rfl hpending
  have htaken : ∀ id, q.db.Taken id → (q.db.markRunning row.commandId workerId now).Taken id :=
    fun id h => h.markRunning _ _ _
  constructor
  · apply fits_update
    · exact ⟨Database.taken_markRunning hrow workerId now,
        fun hmem => hfree (inv.returned_taken _ hmem)⟩
    · exact fun j _ => (inv.fits j).frame htaken (List.Subset.refl _) fun _ _ => ⟨id, id⟩
  · apply inv.owner_unique_update
    intro id hid j _ howns
    obtain rfl : row.commandId = id := Option.some.inj hid
    exact hfree (inv.taken_of_owns howns)
  · exact fun id hid => htaken id (inv.returned_taken id hid)
  · exact inv.executed_returned
  · exact inv.returned_nodup
  · exact inv.executed_nodup

theorem step_reread {commandId : String} (hi : stages i = .reread commandId)
    (hcommand : command.commandId = commandId) :
    ClaimInv (Function.update stages i (.execute command))
      { q with returned := q.returned ++ [commandId] } := by
  have howns : (stages i).owns = some commandId := by rw [hi]; rfl
  have hfits := inv.fits i
  rw [hi] at hfits
  constructor
  · apply fits_update
    · rw [Stage.Fits, hcommand]
      exact ⟨by simp, fun hmem => hfits.2 (inv.executed_returned hmem)⟩
    · intro j hji
      refine (inv.fits j).frame (fun _ => id) (List.subset_append_left _ _) ?_
      intro id hid
      refine ⟨fun hmem => ?_, fun hmem => hmem⟩
      exact (List.mem_append.1 hmem).resolve_right fun hnew =>
        inv.owns_ne hji howns hid (List.mem_singleton.1 hnew)
  · apply inv.owner_unique_update
    intro id hid j hji hj
    obtain rfl : command.commandId = id := Option.some.inj hid
    exact inv.owns_ne hji howns hj hcommand
  · intro id hid
    rcases List.mem_append.1 hid with hid | hid
    · exact inv.returned_taken id hid
    · obtain rfl : id = commandId := List.mem_singleton.1 hid
      exact hfits.1
  · exact fun id hid => List.mem_append_left _ (inv.executed_returned hid)
  · exact List.nodup_append_comm.2 (List.nodup_cons.2 ⟨hfits.2, inv.returned_nodup⟩)
  · exact inv.executed_nodup

theorem step_execute (hi : stages i = .execute command) :
    ClaimInv (Function.update stages i .finished)
      { q with executed := q.executed ++ [command.commandId] } := by
  have howns : (stages i).owns = some command.commandId := by rw [hi]; rfl
  have hfits := inv.fits i
  rw [hi] at hfits
  constructor
  · apply fits_update (Stage.fits_of_owns_eq_none rfl _)
    intro j hji
    refine (inv.fits j).frame (fun _ => id) (List.Subset.refl _) ?_
    intro id hid
    refine ⟨fun hmem => hmem, fun hmem => ?_⟩
    exact (List.mem_append.1 hmem).resolve_right fun hnew =>
      inv.owns_ne hji howns hid (List.mem_singleton.1 hnew)
  · exact inv.owner_unique_update (by simp [Stage.owns])
  · exact inv.returned_taken
  · intro id hid
    rcases List.mem_append.1 hid with hid | hid
    · exact inv.executed_returned hid
    · obtain rfl : id = command.commandId := List.mem_singleton.1 hid
      exact hfits.1
  · exact inv.returned_nodup
  · exact List.nodup_append_comm.2 (List.nodup_cons.2 ⟨hfits.2, inv.executed_nodup⟩)

theorem step (i : ι) (hguard : GuardHits (stages i).task q) :
    ClaimInv (Function.update stages i ((stages i).next q).1) ((stages i).next q).2 := by
  cases hi : stages i with
  | tick workerId now => exact inv.step_of_owns_eq_none i rfl fun _ => id
  | select workerId now =>
    simp only [Stage.next]
    cases q.db.selectOldestPending with
    | none | some pending => exact inv.step_of_owns_eq_none i rfl fun _ => id
  | mark commandId workerId now =>
    rw [hi] at hguard
    obtain ⟨row, hrow, rfl, hpending⟩ := hguard
    exact inv.step_mark i hrow hpending workerId now
  | reread commandId =>
    simp only [Stage.next]
    cases hget : q.db.getRuntimeCommand commandId with
    | none => exact inv.step_of_owns_eq_none i rfl fun _ => id
    | some command => exact inv.step_reread hi (Database.commandId_of_getRuntimeCommand hget)
  | execute command => exact inv.step_execute hi
  | enqueue input now =>
    exact inv.step_of_owns_eq_none i rfl fun _ h => h.enqueueRuntimeCommand input now
  | complete commandId result now =>
    exact inv.step_of_owns_eq_none i rfl fun _ h => h.completeRuntimeCommand commandId result now
  | fail commandId errorMessage now =>
    exact inv.step_of_owns_eq_none i rfl fun _ h => h.failRuntimeCommand commandId errorMessage now
  | finished => exact inv.step_of_owns_eq_none i rfl fun _ => id

end

end ClaimInv

/-! ## Runs -/

variable [DecidableEq ι]

theorem claimInv_runQueue {actors : ι → Actor} {db : Database} {schedule : List ι}
    (hguards : GuardsHit actors db schedule) :
    ∃ stages : ι → Stage, (runQueue actors db schedule).1 = (fun i => (stages i).task) ∧
      ClaimInv stages (runQueue actors db schedule).2 := by
  refine runPool_invariant_of_poolSteps handleQueue
    (I := fun ts q => ∃ stages : ι → Stage, ts = (fun i => (stages i).task) ∧ ClaimInv stages q)
    ?_ hguards ⟨fun i => (actors i).stage, funext fun i => (actors i).task_eq,
      claimInv_start actors db⟩
  rintro i ts q hguard ⟨stages, rfl, inv⟩
  refine ⟨Function.update stages i ((stages i).next q).1, ?_, ?_⟩
  · funext j
    by_cases hji : j = i
    · subst hji
      simp only [Function.update_self, Stage.step_task]
    · simp only [Function.update_of_ne hji]
  · simp only [Stage.step_task]
    exact inv.step i hguard

/-- If every guarded update finds its command pending, then no command is returned by two claims
and none is executed twice. -/
theorem claimedOnce_of_guardsHit (actors : ι → Actor) (db : Database) (schedule : List ι)
    (hguards : GuardsHit actors db schedule) :
    (runQueue actors db schedule).2.returned.Nodup ∧
      (runQueue actors db schedule).2.executed.Nodup := by
  obtain ⟨stages, -, inv⟩ := claimInv_runQueue hguards
  exact ⟨inv.returned_nodup, inv.executed_nodup⟩

end Pool

def sampleWorkers : Fin 2 → Actor
  | 0 => .tick "worker-0" 1
  | 1 => .tick "worker-1" 1

/-- The second worker selects after the first one has marked its command. -/
theorem claimedOnce_of_guardsHit_sample :
    let db := sampleQueue [samplePending "a", samplePending "b"]
    (runQueue sampleWorkers db [0, 1, 0, 0, 1, 1, 0, 1, 0, 1]).2.executed = ["a", "b"] ∧
      (runQueue sampleWorkers db [0, 1, 0, 0, 1, 1, 0, 1, 0, 1]).2.returned.Nodup ∧
      (runQueue sampleWorkers db [0, 1, 0, 0, 1, 1, 0, 1, 0, 1]).2.executed.Nodup := by
  refine ⟨rfl, claimedOnce_of_guardsHit sampleWorkers _ _ ?_⟩
  refine ⟨trivial, trivial, trivial, ?_, trivial, ?_, trivial, trivial, trivial, trivial, trivial⟩
  · exact ⟨samplePending "a", List.mem_cons_self, rfl, rfl⟩
  · exact ⟨samplePending "b", List.mem_cons_of_mem _ List.mem_cons_self, rfl, rfl⟩

/-- Two workers select the same command; the update of the second one changes nothing, and both
claims return it. -/
theorem claims_overlap :
    let q := (runQueue sampleWorkers (sampleQueue [samplePending "a"])
      [0, 1, 0, 1, 0, 1, 0, 1, 0, 1]).2
    q.executed = ["a", "a"] ∧ ¬ q.returned.Nodup ∧ ¬ q.executed.Nodup := by
  have hreturned : (runQueue sampleWorkers (sampleQueue [samplePending "a"])
      [0, 1, 0, 1, 0, 1, 0, 1, 0, 1]).2.returned = ["a", "a"] := rfl
  have hexecuted : (runQueue sampleWorkers (sampleQueue [samplePending "a"])
      [0, 1, 0, 1, 0, 1, 0, 1, 0, 1]).2.executed = ["a", "a"] := rfl
  simp [hreturned, hexecuted]

end SentinelApex.Runtime
