import SentinelApex.Lib.TaskContract
import SentinelApex.Runtime.RuntimeCycle

/-!
# The kill switch and running cycles

Cycles and calls of the control plane run at the same time. A cycle that reads the runtime state
after the kill switch has written it is refused. One that has read it before goes on: its update at
the start sets the lifecycle state to `ready`, its update after a failure to `degraded`, and it
submits its orders (`cycle_goes_on`).

Nothing but an operator who resumes the runtime takes the halt flag back. The runtime also stays
paused, without an order, if no cycle has one of these steps ahead of it at the update of the kill
switch, and no cycle in its body fails or plans an order after it (`killSwitch_holds`).
-/

namespace SentinelApex

namespace RuntimeCycle

open Async

/-! ## Kinds of calls -/

namespace CycleCall

def kills : CycleCall → Bool
  | updateRuntimeStatus patch =>
    decide (patch.halted = some true) && decide (patch.lifecycleState = some .paused)
  | _ => false

/-- The update of an operator who resumes the runtime. -/
def resumes : CycleCall → Bool
  | updateRuntimeStatus patch => decide (patch.halted = some false)
  | _ => false

/-- The update of a cycle that sets the lifecycle state and leaves the halt flag. -/
def moves : CycleCall → Bool
  | updateRuntimeStatus patch => patch.halted.isNone && patch.lifecycleState.isSome
  | _ => false

def submits : CycleCall → Bool
  | submitIntent _ _ => true
  | _ => false

def reads : CycleCall → Bool
  | getRuntimeStatus => true
  | _ => false

/-- The call neither submits an order nor sets the halt flag or the lifecycle state. -/
def neutral : CycleCall → Bool
  | updateRuntimeStatus patch => patch.halted.isNone && patch.lifecycleState.isNone
  | submitIntent _ _ => false
  | _ => true

end CycleCall

abbrev CycleEvent := Event CycleCall CycleCall.Reply String CycleWorld

namespace RuntimeOperation

def kills : RuntimeOperation → Bool
  | kill .. => true
  | _ => false

def resumes : RuntimeOperation → Bool
  | resume .. => true
  | _ => false

end RuntimeOperation

/-! ## Returned kill switches -/

section Events

variable {ι : Type} (operations : ι → RuntimeOperation)

/-- The operation has read the row of the runtime state. -/
def HasRead (events : List (ι × CycleEvent)) (i : ι) : Prop :=
  ∃ e ∈ events, e.1 = i ∧ e.2.call.reads = true

/-- A kill switch has written the row. -/
def Kills (e : ι × CycleEvent) : Prop :=
  (operations e.1).kills = true ∧ e.2.call.kills = true ∧ e.2.reply.isOk = true

def Resumes (e : ι × CycleEvent) : Prop :=
  (operations e.1).resumes = true ∧ e.2.call.resumes = true ∧ e.2.after.status.halted = false

/-- The event `e` is an update of the kill switch, and since then no operator has resumed the runtime. -/
def KilledSince (e : ι × CycleEvent) (since : List (ι × CycleEvent)) : Prop :=
  Kills operations e ∧ ∀ x ∈ since, ¬ Resumes operations x

/-- A kill switch has returned: it has written the row and has read the status that it returns; and
since its update no operator has resumed the runtime. -/
def KillSwitchReturned (events : List (ι × CycleEvent)) : Prop :=
  ∃ before e since, events = before ++ e :: since ∧ KilledSince operations e since ∧
    HasRead since e.1

/-- No order is submitted after a kill switch has returned. -/
def NoLateOrder (events : List (ι × CycleEvent)) : Prop :=
  ∀ before x later, events = before ++ x :: later → x.2.call.submits = true →
    ¬ KillSwitchReturned operations before

theorem append_singleton_eq_split {α : Type} {xs before since : List α} {x y : α}
    (h : xs ++ [y] = before ++ x :: since) :
    (before = xs ∧ x = y ∧ since = []) ∨
      ∃ since', since = since' ++ [y] ∧ xs = before ++ x :: since' := by
  induction since using List.reverseRecOn with
  | nil =>
    obtain ⟨hxs, hy⟩ := List.append_inj' h rfl
    exact Or.inl ⟨hxs.symm, (List.head_eq_of_cons_eq hy).symm, rfl⟩
  | append_singleton since z _ =>
    rw [← List.cons_append, ← List.append_assoc] at h
    obtain ⟨hxs, hy⟩ := List.append_inj' h rfl
    exact Or.inr ⟨since, by rw [List.head_eq_of_cons_eq hy], hxs⟩

variable {operations}

theorem KillSwitchReturned.killed {events : List (ι × CycleEvent)}
    (h : KillSwitchReturned operations events) :
    ∃ before e since, events = before ++ e :: since ∧ KilledSince operations e since := by
  obtain ⟨before, e, since, hevents, hkilled, -⟩ := h
  exact ⟨before, e, since, hevents, hkilled⟩

end Events

/-! ## The stages of an operation -/

/-- The number of the orders of a plan that are submitted. -/
def CycleConfig.orders (config : CycleConfig) (plan : CyclePlan) : ℕ :=
  plan.approvedIntents.countP fun intent => config.hasAdapter intent.venueId

/-- Where an operation stands. A cycle reads the row, sets the lifecycle state, plans, and submits
the orders that are ahead of it; a call of its body that fails leaves it to set the lifecycle state
once more. -/
inductive Progress where
  | unread (config : CycleConfig)
  | opening (config : CycleConfig)
  | planning (config : CycleConfig)
  | ordering (ahead : ℕ)
  | failing
  | settled
  | killing
  | resuming

def RuntimeOperation.progress : RuntimeOperation → Progress
  | cycle config _ _ => .unread config
  | kill .. => .killing
  | resume .. => .resuming
  | setExecutionMode => .settled

/-- The calls that an operation may issue where it stands. -/
def Permitted (c : CycleCall) : Progress → Prop
  | .unread _ => c.reads = true
  | .opening _ | .failing => c.neutral = true ∨ c.moves = true
  | .planning _ | .settled => c.neutral = true
  | .ordering ahead => c.neutral = true ∨ 0 < ahead ∧ c.submits = true
  | .killing => c.neutral = true ∨ c.kills = true
  | .resuming => c.neutral = true ∨ c.resumes = true

namespace Progress

def answered : (c : CycleCall) → c.Reply → Progress → Progress
  | .getRuntimeStatus, status, unread config =>
    if (RuntimeStatusRow.refusal status).isSome then settled else opening config
  | .updateRuntimeStatus _, _, opening config => planning config
  | .planCycle, plan, planning config => ordering (config.orders plan)
  | .submitIntent _ _, _, ordering ahead => ordering (ahead - 1)
  | .updateRuntimeStatus _, _, failing => settled
  | _, _, progress => progress

/-- The body of a cycle passes the exception to its handler; elsewhere it ends the cycle. -/
def thrown : Progress → Progress
  | planning _ | ordering _ => failing
  | killing => killing
  | resuming => resuming
  | _ => settled

def note (c : CycleCall) : Except String c.Reply → Progress → Progress
  | .ok a, progress => progress.answered c a
  | .error _, progress => progress.thrown

/-- The cycle has an order ahead of it, or an update of the lifecycle state. -/
def Pending : Progress → Prop
  | opening _ | failing => True
  | ordering ahead => 0 < ahead
  | _ => False

instance : (progress : Progress) → Decidable progress.Pending
  | opening _ | failing => .isTrue trivial
  | ordering ahead => inferInstanceAs (Decidable (0 < ahead))
  | unread _ | planning _ | settled | killing | resuming => .isFalse id

def plannedOrders (config : CycleConfig) : (c : CycleCall) → Except String c.Reply → ℕ
  | .planCycle, .ok plan => config.orders plan
  | _, _ => 0

/-- A cycle that is in its body meets neither a failure nor a plan with an order. -/
def Spared : Progress → CycleEvent → Prop
  | planning config, e => e.reply.isOk = true ∧ plannedOrders config e.call e.reply = 0
  | ordering _, e => e.reply.isOk = true
  | _, _ => True

instance : (progress : Progress) → (e : CycleEvent) → Decidable (progress.Spared e)
  | planning _, _ => inferInstanceAs (Decidable (_ ∧ _))
  | ordering _, e => inferInstanceAs (Decidable (e.reply.isOk = true))
  | unread _, _ | opening _, _ | failing, _ | settled, _ | killing, _ | resuming, _ =>
    .isTrue trivial

end Progress

def cycleContract : Contract CycleCall CycleCall.Reply String Progress where
  reply _ _ := True
  permits := Permitted
  note := Progress.note

section Stages

variable {ι : Type} [DecidableEq ι] (operations : ι → RuntimeOperation)

/-- Where the operations stand after the events. -/
abbrev stageOf (events : List (ι × CycleEvent)) : ι → Progress :=
  cycleContract.noteOf (fun i => (operations i).progress) events

/-- At the update of a kill switch no cycle has an order ahead of it or an update of the lifecycle
state; and until an operator resumes the runtime, the cycles in their bodies are spared. -/
def Undisturbed (events : List (ι × CycleEvent)) : Prop :=
  ∀ before e since later, events = before ++ e :: (since ++ later) →
    KilledSince operations e since →
      (∀ i, ¬ (stageOf operations before i).Pending) ∧
        ∀ x ∈ since, (stageOf operations before x.1).Spared x.2

variable {operations} {events : List (ι × CycleEvent)} {c : CycleCall} {progress : Progress}

theorem Undisturbed.init {y : ι × CycleEvent} (h : Undisturbed operations (events ++ [y])) :
    Undisturbed operations events := by
  rintro before e since later rfl hkilled
  exact h before e since (later ++ [y]) (by simp) hkilled

theorem stageOf_append (i : ι) (e : CycleEvent) :
    stageOf operations (events ++ [(i, e)]) i =
      (stageOf operations events i).note e.call e.reply :=
  Contract.noteOf_append events i e

theorem stageOf_append_of_ne {i j : ι} (hj : j ≠ i) (e : CycleEvent) :
    stageOf operations (events ++ [(i, e)]) j = stageOf operations events j :=
  Contract.noteOf_append_of_ne hj events e

theorem resuming_of_note {r : Except String c.Reply} (h : progress.note c r = .resuming) :
    progress = .resuming := by
  cases r with
  | ok a =>
    cases progress with
    | resuming => rfl
    | unread =>
      cases c with
      | getRuntimeStatus =>
        change (if _ then _ else _) = _ at h
        split at h <;> cases h
      | _ => cases h
    | _ => cases c <;> cases h
  | error e =>
    cases progress with
    | resuming => rfl
    | _ => cases h

theorem resumes_of_stageOf {i : ι} (h : stageOf operations events i = .resuming) :
    (operations i).resumes = true := by
  induction events using List.reverseRecOn with
  | nil =>
    change (operations i).progress = _ at h
    cases hoperation : operations i with
    | resume => rfl
    | _ =>
      rw [hoperation] at h
      cases h
  | append_singleton events e ih =>
    by_cases hi : i = e.1
    · subst hi
      rw [stageOf_append] at h
      exact ih (resuming_of_note h)
    · rw [stageOf_append_of_ne hi] at h
      exact ih h

theorem Permitted.kind (h : Permitted c progress) (hpending : ¬ progress.Pending) :
    c.neutral = true ∨ c.kills = true ∨ progress = .resuming ∧ c.resumes = true := by
  cases progress with
  | unread =>
    cases c with
    | getRuntimeStatus => exact Or.inl rfl
    | _ => cases h
  | opening | failing => exact absurd trivial hpending
  | planning | settled => exact Or.inl h
  | ordering ahead => exact Or.inl (h.resolve_right fun hahead => hpending hahead.1)
  | killing => exact h.imp_right Or.inl
  | resuming => exact h.imp_right fun hresumes => Or.inr ⟨rfl, hresumes⟩

theorem pending_of_submits (h : Permitted c progress) (hsubmits : c.submits = true) :
    progress.Pending := by
  by_contra hpending
  cases c with
  | submitIntent => rcases h.kind hpending with h | h | ⟨-, h⟩ <;> cases h
  | _ => cases hsubmits

theorem killing_of_kills (h : Permitted c progress) (hkills : c.kills = true) :
    progress = .killing := by
  cases c with
  | updateRuntimeStatus patch =>
    have hhalted : patch.halted = some true := by
      rw [CycleCall.kills, Bool.and_eq_true, decide_eq_true_iff] at hkills
      exact hkills.1
    cases progress with
    | killing => rfl
    | _ => simp [Permitted, CycleCall.neutral, CycleCall.moves, CycleCall.reads,
        CycleCall.submits, CycleCall.resumes, hhalted] at h
  | _ => cases hkills

end Stages

section Follows

theorem uses_part_bind {α : Type} {p : CycleCall → Prop} (hp : ∀ part, p (.part part))
    (part : CyclePart) {f : Unit → CycleTask α} (hf : ∀ a, (f a).Uses p) :
    (part.send >>= f).Uses p :=
  Task.Uses.call_bind (hp part) hf

section Cycle

variable (config : CycleConfig) (runId : String) {α β : Type} {n : ℕ}

/-- A part of the body that returns leaves the cycle there, and one that throws leaves it failing. -/
def endsAt (progress : Progress) : Except String α → Progress → Prop
  | .ok _, reached => reached = progress
  | .error _, reached => reached = .failing

variable {config runId}

theorem endsAt_bind {progress middle reached : Progress} {t : CycleTask α} {f : α → CycleTask β}
    (ht : cycleContract.FollowsTo (endsAt middle) t progress)
    (hf : ∀ a, cycleContract.FollowsTo (endsAt reached) (f a) middle) :
    cycleContract.FollowsTo (endsAt reached) (t >>= f) progress := by
  refine ht.bind (fun a progress h => ?_) fun _ _ h => h
  rw [show progress = middle from h]
  exact hf a

theorem follows_part (part : CyclePart) :
    cycleContract.FollowsTo (endsAt (.ordering n)) part.send (.ordering n) := by
  refine ⟨Or.inl rfl, fun r _ => ?_⟩
  cases r <;> rfl

theorem follows_part_bind (part : CyclePart) {f : Unit → CycleTask β} {reached : Progress}
    (hf : ∀ a, cycleContract.FollowsTo (endsAt reached) (f a) (.ordering n)) :
    cycleContract.FollowsTo (endsAt reached) (part.send >>= f) (.ordering n) :=
  endsAt_bind (follows_part part) hf

theorem follows_persistOpportunities (opportunities : List PlannedOpportunity) :
    cycleContract.FollowsTo (endsAt (.ordering n)) (persistOpportunities runId opportunities)
      (.ordering n) := by
  induction opportunities with
  | nil => rfl
  | cons opportunity opportunities ih =>
    refine follows_part_bind _ fun _ => ?_
    split
    · exact follows_part_bind _ fun _ => ih
    · exact ih

theorem follows_persistRiskBreaches (intentId : String) (breaches : List String) :
    cycleContract.FollowsTo (endsAt (.ordering n)) (persistRiskBreaches intentId breaches)
      (.ordering n) := by
  induction breaches with
  | nil => rfl
  | cons checkName breaches ih => exact follows_part_bind _ fun _ => ih

theorem follows_persistRiskResults (results : List PlannedRiskResult) :
    cycleContract.FollowsTo (endsAt (.ordering n)) (persistRiskResults runId results)
      (.ordering n) := by
  induction results with
  | nil => rfl
  | cons result results ih =>
    refine follows_part_bind _ fun _ => ?_
    split
    · exact ih
    · exact endsAt_bind (follows_persistRiskBreaches result.intentId result.breaches) fun _ => ih

theorem follows_executeIntents (intents : List PlannedIntent) (executed : ℕ) :
    cycleContract.FollowsTo (endsAt (.ordering 0)) (executeIntents config runId intents executed)
      (.ordering (intents.countP fun intent => config.hasAdapter intent.venueId)) := by
  induction intents generalizing executed with
  | nil => rfl
  | cons intent intents ih =>
    rw [executeIntents]
    split
    · rename_i hadapter
      rw [List.countP_cons, if_pos hadapter]
      refine Contract.followsTo_call_bind (Or.inr ⟨Nat.succ_pos _, rfl⟩) (fun _ _ => ?_)
        fun _ _ => rfl
      exact follows_part_bind _ fun _ => ih _
    · rename_i hadapter
      rw [List.countP_cons, if_neg hadapter]
      exact ih _

theorem follows_capturePusdVault :
    cycleContract.FollowsTo (endsAt (.ordering n)) (capturePusdVault config runId)
      (.ordering n) := by
  rw [capturePusdVault]
  split
  · exact follows_part _
  · rfl

theorem follows_evaluateAndProject :
    cycleContract.FollowsTo (endsAt (.ordering n)) (evaluateAndProject config runId)
      (.ordering n) := by
  refine follows_part_bind _ fun _ => ?_
  refine follows_part_bind _ fun _ => ?_
  refine follows_part_bind _ fun _ => ?_
  refine endsAt_bind follows_capturePusdVault fun _ => ?_
  refine follows_part_bind _ fun _ => ?_
  refine follows_part_bind _ fun _ => ?_
  refine follows_part_bind _ fun _ => ?_
  refine follows_part_bind _ fun _ => ?_
  exact follows_part_bind _ fun _ => follows_part _

theorem follows_completeCycle (outcome : RuntimeCycleOutcome) :
    cycleContract.FollowsTo (endsAt (.ordering n)) (completeCycle runId outcome)
      (.ordering n) := by
  refine follows_part_bind _ fun _ => ?_
  refine Contract.followsTo_call_bind (Or.inl rfl) (fun _ _ => ?_) fun _ _ => rfl
  refine follows_part_bind _ fun _ => ?_
  refine follows_part_bind _ fun _ => ?_
  exact follows_part_bind _ fun _ => rfl

theorem follows_cycleBody :
    cycleContract.FollowsTo (endsAt (.ordering 0)) (cycleBody config runId)
      (.planning config) := by
  refine Contract.followsTo_call_bind rfl (fun _ _ => ?_) fun _ _ => rfl
  refine Contract.followsTo_call_bind rfl (fun planned _ => ?_) fun _ _ => rfl
  refine endsAt_bind (follows_persistOpportunities planned.opportunitiesDetected) fun _ => ?_
  refine endsAt_bind (follows_persistRiskResults planned.riskResults) fun _ => ?_
  refine follows_part_bind _ fun _ => ?_
  refine endsAt_bind (follows_executeIntents planned.approvedIntents 0) fun _ => ?_
  exact endsAt_bind follows_evaluateAndProject fun _ => follows_completeCycle _

theorem follows_failCycle (message : String) :
    cycleContract.Follows (failCycle runId message) .failing := by
  refine Contract.follows_call_bind _ (Or.inl rfl) fun _ _ => ?_
  refine Contract.follows_call_bind _ (Or.inr rfl) fun _ _ => ?_
  refine Contract.follows_call_bind _ rfl fun _ _ => ?_
  exact Contract.follows_call_bind _ rfl fun _ _ => trivial

theorem follows_runStartedCycle (triggerSource : String) :
    cycleContract.Follows (runStartedCycle config runId triggerSource) (.opening config) := by
  refine Contract.follows_call_bind _ (Or.inl rfl) fun _ _ => ?_
  refine Contract.follows_call_bind _ (Or.inl rfl) fun _ _ => ?_
  refine Contract.follows_call_bind _ (Or.inr rfl) fun _ _ => ?_
  rw [Contract.follows_iff_followsTo]
  refine follows_cycleBody.tryCatch (fun _ _ _ => trivial) fun message progress h => ?_
  rw [show progress = .failing from h]
  exact Contract.follows_iff_followsTo.1 (follows_failCycle message)

/-- A cycle goes on only if the status that it has read does not refuse it. -/
theorem follows_cycle (triggerSource : String) :
    cycleContract.Follows (RuntimeOperation.cycle config runId triggerSource).task
      (.unread config) := by
  show cycleContract.Follows ((Task.call CycleCall.getRuntimeStatus >>= _) >>= _) _
  rw [Task.bind_assoc]
  refine Contract.follows_call_bind _ rfl fun status _ => ?_
  show cycleContract.Follows _ (if _ then _ else _)
  cases hrefusal : RuntimeStatusRow.refusal status with
  | some message => trivial
  | none =>
    rw [if_neg (by simp), Contract.follows_iff_followsTo]
    have hstarted : cycleContract.Follows (runStartedCycle config runId triggerSource)
        (.opening config) := follows_runStartedCycle triggerSource
    rw [Contract.follows_iff_followsTo] at hstarted
    exact hstarted.bind (fun _ _ _ => trivial) fun _ _ _ => trivial

end Cycle

theorem note_killing (c : CycleCall) (r : Except String c.Reply) :
    Progress.note c r .killing = .killing := by
  cases r with
  | ok a => cases c <;> rfl
  | error e => rfl

theorem note_resuming (c : CycleCall) (r : Except String c.Reply) :
    Progress.note c r .resuming = .resuming := by
  cases r with
  | ok a => cases c <;> rfl
  | error e => rfl

theorem note_settled (c : CycleCall) (r : Except String c.Reply) :
    Progress.note c r .settled = .settled := by
  cases r with
  | ok a => cases c <;> rfl
  | error e => rfl

theorem RuntimeOperation.follows (operation : RuntimeOperation) :
    cycleContract.Follows operation.task operation.progress := by
  cases operation with
  | cycle config runId triggerSource => exact follows_cycle triggerSource
  | kill reason actorId =>
    refine Contract.follows_uses_bind (p := fun c => Permitted c .killing)
      (fun c hc => ⟨hc, note_killing c⟩) ?_ fun _ => trivial
    refine Task.Uses.call_bind (Or.inr rfl) fun _ => ?_
    refine uses_part_bind (fun _ => Or.inl rfl) _ fun _ => ?_
    exact uses_part_bind (fun _ => Or.inl rfl) _ fun _ => Task.uses_call (Or.inl rfl)
  | resume reason actorId =>
    refine Contract.follows_uses_bind (p := fun c => Permitted c .resuming)
      (fun c hc => ⟨hc, note_resuming c⟩) ?_ fun _ => trivial
    refine Task.Uses.call_bind (Or.inr rfl) fun _ => ?_
    refine uses_part_bind (fun _ => Or.inl rfl) _ fun _ => ?_
    exact uses_part_bind (fun _ => Or.inl rfl) _ fun _ => Task.uses_call (Or.inl rfl)
  | setExecutionMode =>
    refine Contract.follows_uses_bind (p := fun c => Permitted c .settled)
      (fun c hc => ⟨hc, note_settled c⟩) ?_ fun _ => trivial
    refine Task.Uses.call_bind rfl fun _ => ?_
    exact uses_part_bind (fun _ => rfl) _ fun _ => Task.uses_call rfl

end Follows

/-! ## What the calls do to the row -/

section Calls

variable {env : CycleEnvironment} {c : CycleCall} {w : CycleWorld}

theorem handleCycle_status (env : CycleEnvironment) (c : CycleCall) (w : CycleWorld) :
    (handleCycle env c w).2.status = c.effect w.status ∨
      (handleCycle env c w).2.status = w.status := by
  unfold handleCycle
  split
  · exact Or.inl rfl
  · split
    · exact Or.inl rfl
    · exact Or.inr rfl

theorem handleCycle_of_ok (h : (handleCycle env c w).1.isOk = true) :
    (handleCycle env c w).1 = .ok (c.answer env w) ∧
      (handleCycle env c w).2.status = c.effect w.status := by
  unfold handleCycle at h ⊢
  split at h
  · exact ⟨rfl, rfl⟩
  · cases h

theorem paused_of_kills (h : c.kills = true) (row : RuntimeStatusRow) :
    (c.effect row).Paused := by
  cases c with
  | updateRuntimeStatus patch =>
    rw [CycleCall.kills, Bool.and_eq_true, decide_eq_true_iff, decide_eq_true_iff] at h
    show Option.getD _ _ = _ ∧ Option.getD _ _ = _
    rw [h.1, h.2]
    exact ⟨rfl, rfl⟩
  | _ => cases h

theorem paused_of_neutral (h : c.neutral = true) {row : RuntimeStatusRow} (hrow : row.Paused) :
    (c.effect row).Paused := by
  cases c with
  | updateRuntimeStatus patch =>
    rw [CycleCall.neutral, Bool.and_eq_true, Option.isNone_iff_eq_none,
      Option.isNone_iff_eq_none] at h
    show Option.getD _ _ = _ ∧ Option.getD _ _ = _
    rw [h.1, h.2]
    exact hrow
  | _ => exact hrow

theorem not_halted_of_resumes (h : c.resumes = true) (row : RuntimeStatusRow) :
    (c.effect row).halted = false := by
  cases c with
  | updateRuntimeStatus patch =>
    show Option.getD _ _ = _
    rw [of_decide_eq_true h]
    rfl
  | _ => cases h

/-- Wherever an operation stands, only the update that resumes the runtime takes the halt flag back. -/
theorem halted_effect {progress : Progress} (h : Permitted c progress) :
    (progress = .resuming ∧ c.resumes = true) ∨
      ∀ row : RuntimeStatusRow, row.halted = true → (c.effect row).halted = true := by
  cases c with
  | updateRuntimeStatus patch =>
    have hpatch (hhalted : patch.halted ≠ some false) (row : RuntimeStatusRow)
        (hrow : row.halted = true) : patch.halted.getD row.halted = true := by
      cases hset : patch.halted with
      | none => exact hrow
      | some halted => simpa [hset] using hhalted
    cases progress with
    | resuming =>
      rcases h with hneutral | hresumes
      · refine Or.inr (hpatch fun hhalted => ?_)
        simp [CycleCall.neutral, hhalted] at hneutral
      · exact Or.inl ⟨rfl, hresumes⟩
    | _ =>
      refine Or.inr (hpatch fun hhalted => ?_)
      simp [Permitted, CycleCall.reads, CycleCall.neutral, CycleCall.moves, CycleCall.kills,
        CycleCall.submits, hhalted] at h
  | _ => exact Or.inr fun _ hrow => hrow

variable {progress : Progress} (hpermitted : Permitted c progress)
  (hresumes : progress = .resuming →
    ¬ (c.resumes = true ∧ (handleCycle env c w).2.status.halted = false))

include hpermitted hresumes

theorem halted_step (hw : w.status.halted = true) :
    (handleCycle env c w).2.status.halted = true := by
  rcases halted_effect hpermitted with ⟨hprogress, hresume⟩ | heffect
  · exact Bool.eq_true_of_not_eq_false fun hhalted => hresumes hprogress ⟨hresume, hhalted⟩
  · rcases handleCycle_status env c w with hstatus | hstatus
    · rw [hstatus]
      exact heffect _ hw
    · rw [hstatus]
      exact hw

theorem paused_step (hpending : ¬ progress.Pending) (hw : w.status.Paused) :
    (handleCycle env c w).2.status.Paused := by
  rcases handleCycle_status env c w with hstatus | hstatus
  · rw [hstatus] at hresumes ⊢
    rcases hpermitted.kind hpending with hneutral | hkills | ⟨hprogress, hresume⟩
    · exact paused_of_neutral hneutral hw
    · exact paused_of_kills hkills _
    · exact absurd ⟨hresume, not_halted_of_resumes hresume _⟩ (hresumes hprogress)
  · rw [hstatus]
    exact hw

end Calls

/-! ## The invariant -/

section Invariant

abbrev eventOf (env : CycleEnvironment) (w : CycleWorld) (c : CycleCall) : CycleEvent :=
  ⟨w, c, (handleCycle env c w).1, (handleCycle env c w).2⟩

/-- Since a kill switch an operation stands where it stood or has ended, or it has planned no order. -/
def Progress.Became (stood now : Progress) : Prop :=
  now = stood ∨ now = .settled ∨ now = .ordering 0 ∧ ∃ config, stood = .planning config

theorem Progress.Became.not_pending {stood now : Progress} (h : stood.Became now)
    (hstood : ¬ stood.Pending) : ¬ now.Pending := by
  rcases h with rfl | rfl | ⟨rfl, -⟩
  · exact hstood
  · exact id
  · exact lt_irrefl 0

variable {env : CycleEnvironment} {c : CycleCall} {w : CycleWorld}

theorem refused_of_paused {config : CycleConfig} (hw : w.status.Paused) :
    Progress.note .getRuntimeStatus (handleCycle env .getRuntimeStatus w).1 (.unread config) =
      .settled := by
  cases hreply : (handleCycle env .getRuntimeStatus w).1 with
  | error e => rfl
  | ok status =>
    have hstatus : (handleCycle env .getRuntimeStatus w).1 = .ok w.status :=
      (handleCycle_of_ok (by rw [hreply]; rfl)).1
    obtain rfl : w.status = status := Except.ok.inj (hstatus.symm.trans hreply)
    refine if_pos ?_
    rw [RuntimeStatusRow.refusal, hw.1]
    rfl

theorem note_ordering_zero {r : Except String c.Reply} (hok : r.isOk = true) :
    Progress.note c r (.ordering 0) = .ordering 0 := by
  cases r with
  | ok a => cases c <;> rfl
  | error e => cases hok

theorem note_planning {config : CycleConfig} {r : Except String c.Reply} (hok : r.isOk = true)
    (horders : Progress.plannedOrders config c r = 0) :
    Progress.note c r (.planning config) = .planning config ∨
      Progress.note c r (.planning config) = .ordering 0 := by
  cases r with
  | ok a =>
    cases c with
    | planCycle => exact Or.inr (congrArg Progress.ordering horders)
    | _ => exact Or.inl rfl
  | error e => cases hok

theorem Progress.Became.step {stood now : Progress} (h : stood.Became now)
    (hstood : ¬ stood.Pending) (hpermitted : Permitted c now) (hw : w.status.Paused)
    (hspared : stood.Spared (eventOf env w c)) :
    stood.Became (now.note c (handleCycle env c w).1) := by
  rcases h with rfl | rfl | ⟨rfl, config, rfl⟩
  · cases now with
    | unread =>
      cases c with
      | getRuntimeStatus => exact Or.inr (Or.inl (refused_of_paused hw))
      | _ => cases hpermitted
    | opening | failing => exact absurd trivial hstood
    | planning config =>
      rcases note_planning hspared.1 hspared.2 with hnote | hnote
      · exact Or.inl hnote
      · exact Or.inr (Or.inr ⟨hnote, config, rfl⟩)
    | ordering ahead =>
      obtain rfl : ahead = 0 := Nat.eq_zero_of_not_pos hstood
      exact Or.inl (note_ordering_zero hspared)
    | settled => exact Or.inl (note_settled _ _)
    | killing => exact Or.inl (note_killing _ _)
    | resuming => exact Or.inl (note_resuming _ _)
  · exact Or.inr (Or.inl (note_settled _ _))
  · exact Or.inr (Or.inr ⟨note_ordering_zero hspared.1, config, rfl⟩)

variable {ι : Type} [DecidableEq ι]

/-- What holds since the kill switches of an undisturbed run. -/
structure KillInv (operations : ι → RuntimeOperation) (events : List (ι × CycleEvent))
    (w : CycleWorld) : Prop where
  paused : ∀ before e since, events = before ++ e :: since → KilledSince operations e since →
    w.status.Paused
  became : ∀ before e since, events = before ++ e :: since → KilledSince operations e since →
    ∀ i, (stageOf operations before i).Became (stageOf operations events i)
  orders : NoLateOrder operations events

variable {operations : ι → RuntimeOperation} {events : List (ι × CycleEvent)} {i : ι}

theorem not_resumes_of_killedSince {e : ι × CycleEvent} {since : List (ι × CycleEvent)}
    (h : KilledSince operations e (since ++ [(i, eventOf env w c)]))
    (hi : stageOf operations events i = .resuming) :
    ¬ (c.resumes = true ∧ (handleCycle env c w).2.status.halted = false) := fun hresumes =>
  h.2 _ (List.mem_append_right _ (List.mem_singleton_self _)) ⟨resumes_of_stageOf hi, hresumes⟩

omit [DecidableEq ι] in
theorem KilledSince.init {e y : ι × CycleEvent} {since : List (ι × CycleEvent)}
    (h : KilledSince operations e (since ++ [y])) : KilledSince operations e since :=
  ⟨h.1, fun x hx => h.2 x (List.mem_append_left _ hx)⟩

variable (hpermitted : Permitted c (stageOf operations events i))

include hpermitted

theorem halted_append
    (ih : ∀ before e since, events = before ++ e :: since → KilledSince operations e since →
      w.status.halted = true) {before since : List (ι × CycleEvent)} {e : ι × CycleEvent}
    (hsplit : events ++ [(i, eventOf env w c)] = before ++ e :: since)
    (hkilled : KilledSince operations e since) :
    (handleCycle env c w).2.status.halted = true := by
  rcases append_singleton_eq_split hsplit with ⟨-, rfl, -⟩ | ⟨since, rfl, hevents⟩
  · rw [(handleCycle_of_ok hkilled.1.2.2).2]
    exact (paused_of_kills hkilled.1.2.1 _).1
  · exact halted_step hpermitted (not_resumes_of_killedSince hkilled)
      (ih before e since hevents hkilled.init)

theorem KillInv.step (inv : KillInv operations events w)
    (hundisturbed : Undisturbed operations (events ++ [(i, eventOf env w c)])) :
    KillInv operations (events ++ [(i, eventOf env w c)]) (handleCycle env c w).2 := by
  have hstood {before since : List (ι × CycleEvent)} {e : ι × CycleEvent}
      (hevents : events = before ++ e :: since) (hkilled : KilledSince operations e since) (j : ι) :
      ¬ (stageOf operations before j).Pending :=
    (hundisturbed.init before e since [] (by rw [hevents, List.append_nil]) hkilled).1 j
  refine ⟨?_, ?_, ?_⟩
  · intro before e since hsplit hkilled
    rcases append_singleton_eq_split hsplit with ⟨-, rfl, -⟩ | ⟨since, rfl, hevents⟩
    · rw [(handleCycle_of_ok hkilled.1.2.2).2]
      exact paused_of_kills hkilled.1.2.1 _
    · have hbecame := inv.became before e since hevents hkilled.init i
      exact paused_step hpermitted (not_resumes_of_killedSince hkilled)
        (hbecame.not_pending (hstood hevents hkilled.init i))
        (inv.paused before e since hevents hkilled.init)
  · intro before e since hsplit hkilled j
    by_cases hj : j = i
    · subst hj
      rw [stageOf_append]
      rcases append_singleton_eq_split hsplit with ⟨rfl, rfl, -⟩ | ⟨since, rfl, hevents⟩
      · rw [killing_of_kills hpermitted hkilled.1.2.1]
        exact Or.inl (note_killing _ _)
      · refine (inv.became before e since hevents hkilled.init j).step
          (hstood hevents hkilled.init j) hpermitted
          (inv.paused before e since hevents hkilled.init) ?_
        exact (hundisturbed before e (since ++ [(j, eventOf env w c)]) []
          (by rw [hsplit, List.append_nil]) hkilled).2 _
            (List.mem_append_right _ (List.mem_singleton_self _))
    · rw [stageOf_append_of_ne hj]
      rcases append_singleton_eq_split hsplit with ⟨rfl, rfl, -⟩ | ⟨since, rfl, hevents⟩
      · exact Or.inl rfl
      · exact inv.became before e since hevents hkilled.init j
  · intro before x later hsplit hsubmits
    rcases append_singleton_eq_split hsplit with ⟨rfl, rfl, -⟩ | ⟨later, rfl, hevents⟩
    · intro hreturned
      obtain ⟨before', e, since, hevents, hkilled⟩ := hreturned.killed
      exact (inv.became before' e since hevents hkilled i).not_pending (hstood hevents hkilled i)
        (pending_of_submits hpermitted hsubmits)
    · exact inv.orders before x later hevents hsubmits

end Invariant

/-! ## Every schedule -/

section Schedules

variable {ι : Type} [DecidableEq ι]

/-- In every run of cycles and calls of the control plane, once a kill switch has returned and until
an operator resumes the runtime: the runtime is halted; and in an undisturbed run it is also paused,
and no order is submitted. -/
theorem killSwitch_holds (env : CycleEnvironment) (start : CycleWorld)
    (operations : ι → RuntimeOperation) (sched : List ι) :
    let events := poolEvents (handleCycle env) sched (fun i => (operations i).task) start
    let pool := runPool (handleCycle env) sched (fun i => (operations i).task) start
    (KillSwitchReturned operations events → pool.2.status.halted = true) ∧
      (Undisturbed operations events →
        (KillSwitchReturned operations events → pool.2.status.Paused) ∧
          NoLateOrder operations events) := by
  intro events pool
  have hinv := Contract.runPool_of_events (K := cycleContract) (h := handleCycle env)
    (g := fun i => (operations i).progress)
    (J := fun events w =>
      (∀ before e since, events = before ++ e :: since → KilledSince operations e since →
        w.status.halted = true) ∧
      (Undisturbed operations events → KillInv operations events w))
    (fun _ _ _ _ => trivial)
    (fun events i c w ih hpermitted =>
      ⟨fun _ _ _ hsplit hkilled => halted_append hpermitted ih.1 hsplit hkilled,
        fun hundisturbed => (ih.2 hundisturbed.init).step hpermitted hundisturbed⟩)
    sched (s := start) (fun i => (operations i).follows)
    ⟨by simp, fun _ => ⟨by simp, by simp, by simp [NoLateOrder]⟩⟩
  refine ⟨fun hreturned => ?_, fun hundisturbed =>
    ⟨fun hreturned => ?_, (hinv.2 hundisturbed).orders⟩⟩
  · obtain ⟨before, e, since, hevents, hkilled⟩ := hreturned.killed
    exact hinv.1 before e since hevents hkilled
  · obtain ⟨before, e, since, hevents, hkilled⟩ := hreturned.killed
    exact (hinv.2 hundisturbed).paused before e since hevents hkilled

end Schedules

/-! ### Samples -/

section Samples

variable {ι : Type} [DecidableEq ι] {operations : ι → RuntimeOperation}

instance (operations : ι → RuntimeOperation) (e : ι × CycleEvent) :
    Decidable (Kills operations e) :=
  inferInstanceAs (Decidable (_ ∧ _))

instance (operations : ι → RuntimeOperation) (e : ι × CycleEvent) :
    Decidable (Resumes operations e) :=
  inferInstanceAs (Decidable (_ ∧ _))

instance (operations : ι → RuntimeOperation) (e : ι × CycleEvent)
    (since : List (ι × CycleEvent)) : Decidable (KilledSince operations e since) :=
  inferInstanceAs (Decidable (_ ∧ ∀ x ∈ since, _))

instance (events : List (ι × CycleEvent)) (i : ι) : Decidable (HasRead events i) :=
  inferInstanceAs (Decidable (∃ e ∈ events, _))

def returnedFrom (operations : ι → RuntimeOperation) (events : List (ι × CycleEvent)) (n : ℕ) :
    Bool :=
  match events.drop n with
  | [] => false
  | e :: since => decide (KilledSince operations e since) && decide (HasRead since e.1)

/-- What `Undisturbed` asks of the event at a position. -/
def undisturbedAt [Fintype ι] (operations : ι → RuntimeOperation) (events : List (ι × CycleEvent))
    (n : ℕ) : Bool :=
  match events.drop n with
  | [] => true
  | e :: since => !decide (Kills operations e) ||
      (decide (∀ i, ¬ (stageOf operations (events.take n) i).Pending) &&
        since.all fun x => decide ((stageOf operations (events.take n) x.1).Spared x.2))

variable {events : List (ι × CycleEvent)}

theorem undisturbed_of_positions [Fintype ι]
    (h : ∀ n < events.length, undisturbedAt operations events n = true) :
    Undisturbed operations events := by
  rintro before e since later rfl hkilled
  have hn := h before.length (by simp)
  rw [undisturbedAt, List.drop_left, List.take_left] at hn
  simp only [decide_eq_true hkilled.1, Bool.not_true, Bool.false_or, Bool.and_eq_true,
    List.all_eq_true, decide_eq_true_eq] at hn
  exact ⟨hn.1, fun x hx => hn.2 x (List.mem_append_left _ hx)⟩

theorem killSwitchReturned_of_returnedFrom {n : ℕ} (h : returnedFrom operations events n = true) :
    KillSwitchReturned operations events := by
  unfold returnedFrom at h
  split at h
  · cases h
  · rename_i e since hdrop
    rw [Bool.and_eq_true, decide_eq_true_iff, decide_eq_true_iff] at h
    exact ⟨events.take n, e, since, by rw [← hdrop, List.take_append_drop], h.1, h.2⟩

/-- The event at the position `m` submits an order, after the kill switch at the position `n` has
returned. -/
theorem not_noLateOrder {n m : ℕ}
    (hreturned : returnedFrom operations (events.take m) n = true)
    (hsubmits : ∃ x, events[m]? = some x ∧ x.2.call.submits = true) :
    ¬ NoLateOrder operations events := by
  obtain ⟨x, hx, hsubmits⟩ := hsubmits
  obtain ⟨hm, rfl⟩ := List.getElem?_eq_some_iff.1 hx
  intro horders
  refine horders (events.take m) events[m] (events.drop (m + 1)) ?_ hsubmits
    (killSwitchReturned_of_returnedFrom hreturned)
  rw [List.getElem_cons_drop, List.take_append_drop]

end Samples

/-- Nothing fails; one order is planned. -/
def sampleEnvironment : CycleEnvironment where
  fault _ := none
  plan _ := { approvedIntents := [⟨"intent-1", "drift"⟩] }

def sampleWorld : CycleWorld where
  status :=
    { executionMode := "dry-run"
      halted := false
      lifecycleState := .ready
      projectionStatus := .fresh
      lastUpdatedBy := "sentinel-runtime" }

/-- Two cycles, and a kill switch. -/
def sampleOperations : Fin 3 → RuntimeOperation
  | 0 => .cycle ⟨fun _ => true, false⟩ "run-1" "worker"
  | 1 => .kill "stop" "operator-1"
  | 2 => .cycle ⟨fun _ => true, false⟩ "run-2" "worker"

/-- The kill switch is activated when the order of the first cycle has been recorded. The first cycle
completes, and the second one is refused. -/
theorem killSwitch_holds_sample :
    let sched := List.replicate 9 0 ++ List.replicate 4 1 ++ 2 :: List.replicate 14 0
    let events := poolEvents (handleCycle sampleEnvironment) sched
      (fun i => (sampleOperations i).task) sampleWorld
    let pool := runPool (handleCycle sampleEnvironment) sched
      (fun i => (sampleOperations i).task) sampleWorld
    KillSwitchReturned sampleOperations events ∧ (pool.1 0).result?.isSome = true ∧
      (pool.1 2).result?.isSome = true ∧ pool.2.status.Paused ∧
        NoLateOrder sampleOperations events := by
  intro sched events pool
  have hreturned : KillSwitchReturned sampleOperations events :=
    killSwitchReturned_of_returnedFrom
      (by decide +kernel : returnedFrom sampleOperations events 9 = true)
  have hundisturbed : Undisturbed sampleOperations events :=
    undisturbed_of_positions (by decide +kernel)
  have hpaused :=
    (killSwitch_holds sampleEnvironment sampleWorld sampleOperations sched).2 hundisturbed
  exact ⟨hreturned, by decide +kernel, by decide +kernel, hpaused.1 hreturned, hpaused.2⟩

/-- The cycle has read the row when the kill switch is activated. After the kill switch has returned, the
cycle sets the lifecycle state to `ready` and submits its order. -/
theorem cycle_goes_on :
    let sched := [0] ++ List.replicate 4 1 ++ List.replicate 7 0
    let events := poolEvents (handleCycle sampleEnvironment) sched
      (fun i => (sampleOperations i).task) sampleWorld
    let pool := runPool (handleCycle sampleEnvironment) sched
      (fun i => (sampleOperations i).task) sampleWorld
    KillSwitchReturned sampleOperations events ∧ ¬ pool.2.status.Paused ∧
      ¬ NoLateOrder sampleOperations events := by
  intro sched events pool
  have hreturned : returnedFrom sampleOperations events 1 = true := by decide +kernel
  have hready : pool.2.status.lifecycleState = .ready := by decide +kernel
  refine ⟨killSwitchReturned_of_returnedFrom hreturned, ?_, ?_⟩
  · rintro ⟨-, hpaused⟩
    rw [hready] at hpaused
    cases hpaused
  · have hbefore : returnedFrom sampleOperations (events.take 11) 1 = true := by decide +kernel
    have hlast : (events[11]?.map fun x => x.2.call.submits) = some true := by decide +kernel
    exact not_noLateOrder hbefore (Option.map_eq_some_iff.1 hlast)

end RuntimeCycle

end SentinelApex
