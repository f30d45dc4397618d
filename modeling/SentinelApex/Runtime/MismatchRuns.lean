import SentinelApex.Runtime.Detection
import SentinelApex.Runtime.MismatchRows
import SentinelApex.Runtime.RemediationFailure

/-!
# Runs of operations on mismatches

The operations of the control plane, the worker, the health monitor and the reconciliation engine
run one after the other, on a store whose calls may meet faults. Each of their calls is a legal step
of the database (`runOperations_lifecycle`). A status that an operation changes is reported by a
recovery event with the new status, which follows the change in the same operation, except that the
worker records the failure of a remediation before it reopens the mismatch.
-/

namespace SentinelApex.Runtime

open Async

/-! ## Reports of a status -/

def Changes (e : StoreEvent) (mismatchId : String) (s : RuntimeMismatchStatus) : Prop :=
  e.before.db.statusOf mismatchId ≠ some s ∧ e.after.db.statusOf mismatchId = some s

def Records (e : StoreEvent) (mismatchId : String) (s : RuntimeMismatchStatus)
    (row : RuntimeRecoveryEvent) : Prop :=
  e.after.db.events = e.before.db.events ++ [row] ∧ row.mismatchId = some mismatchId ∧
    row.status = s.text

/-- Every change of a status is followed by an event that reports it. -/
def Followed (events : List StoreEvent) : Prop :=
  ∀ pre e post, events = pre ++ e :: post → ∀ mismatchId s, Changes e mismatchId s →
    ∃ e' ∈ post, ∃ row, Records e' mismatchId s row

/-- Every change of a status is preceded by an event that reports it, and links the mismatch to the
event. -/
def Announced (events : List StoreEvent) : Prop :=
  ∀ pre e post, events = pre ++ e :: post → ∀ mismatchId s, Changes e mismatchId s →
    ∃ e' ∈ pre, ∃ row, Records e' mismatchId s row ∧ ∃ mismatch,
      e.after.db.getMismatchById mismatchId = some mismatch ∧
        mismatch.linkedRecoveryEventId = some row.id

/-- A property of the calls of an operation that concerns changes of statuses only. -/
structure Reporting (P : List StoreEvent → Prop) : Prop where
  quiet : ∀ events, (∀ e ∈ events, ∀ mismatchId s, ¬ Changes e mismatchId s) → P events
  append : ∀ l l', P l → P l' → P (l ++ l')

theorem append_eq_cons_cases {α : Type} {l l' pre post : List α} {a : α}
    (h : l ++ l' = pre ++ a :: post) :
    (∃ mid, l = pre ++ a :: mid ∧ post = mid ++ l') ∨
      ∃ mid, l' = mid ++ a :: post ∧ pre = l ++ mid := by
  rcases List.append_eq_append_iff.1 h with ⟨mid, hpre, hl'⟩ | ⟨mid, hl, hpost⟩
  · exact Or.inr ⟨mid, hl', hpre⟩
  · cases mid with
    | nil => exact Or.inr ⟨[], by simpa using hpost.symm, by simpa using hl.symm⟩
    | cons b mid =>
      rw [List.cons_append, List.cons.injEq] at hpost
      obtain ⟨rfl, rfl⟩ := hpost
      exact Or.inl ⟨mid, hl, rfl⟩

theorem reporting_followed : Reporting Followed where
  quiet events h pre e post hevents mismatchId s hchange :=
    absurd hchange (h e (by simp [hevents]) mismatchId s)
  append l l' hl hl' pre e post hevents mismatchId s hchange := by
    rcases append_eq_cons_cases hevents with ⟨mid, hpre, rfl⟩ | ⟨mid, hpost, -⟩
    · obtain ⟨e', he', hrecords⟩ := hl pre e mid hpre mismatchId s hchange
      exact ⟨e', List.mem_append_left _ he', hrecords⟩
    · exact hl' mid e post hpost mismatchId s hchange

variable {events : List StoreEvent}

theorem followed_cons {e : StoreEvent}
    (he : ∀ mismatchId s, Changes e mismatchId s →
      ∃ e' ∈ events, ∃ row, Records e' mismatchId s row)
    (hevents : Followed events) : Followed (e :: events) := by
  intro pre e' post heq mismatchId s hchange
  cases pre with
  | nil =>
    rw [List.nil_append, List.cons.injEq] at heq
    obtain ⟨rfl, rfl⟩ := heq
    exact he mismatchId s hchange
  | cons e₀ pre =>
    rw [List.cons_append, List.cons.injEq] at heq
    exact hevents pre e' post heq.2 mismatchId s hchange

theorem reporting_announced : Reporting Announced where
  quiet events h pre e post hevents mismatchId s hchange :=
    absurd hchange (h e (by simp [hevents]) mismatchId s)
  append l l' hl hl' pre e post hevents mismatchId s hchange := by
    rcases append_eq_cons_cases hevents with ⟨mid, hpre, -⟩ | ⟨mid, hpost, rfl⟩
    · exact hl pre e mid hpre mismatchId s hchange
    · obtain ⟨e', he', hrecords⟩ := hl' mid e post hpost mismatchId s hchange
      exact ⟨e', List.mem_append_right _ he', hrecords⟩

/-- An event that announces every change after it. -/
theorem announced_cons {e : StoreEvent} (he : ∀ mismatchId s, ¬ Changes e mismatchId s)
    (hevents : ∀ e' ∈ events, ∀ mismatchId s, Changes e' mismatchId s →
      ∃ row, Records e mismatchId s row ∧ ∃ mismatch,
      e'.after.db.getMismatchById mismatchId = some mismatch ∧
      mismatch.linkedRecoveryEventId = some row.id) :
    Announced (e :: events) := by
  intro pre e' post heq mismatchId s hchange
  cases pre with
  | nil =>
    rw [List.nil_append, List.cons.injEq] at heq
    exact absurd (heq.1 ▸ hchange) (he mismatchId s)
  | cons e₀ pre =>
    rw [List.cons_append, List.cons.injEq] at heq
    obtain ⟨rfl, rfl⟩ := heq
    exact ⟨e, List.mem_cons_self, hevents e' (by simp) mismatchId s hchange⟩

theorem reporting_true : Reporting fun _ => True :=
  ⟨fun _ _ => trivial, fun _ _ _ _ => trivial⟩

/-! ## Calls without other activities -/

variable {s : RuntimeMismatchStatus} {mismatchId : String}

section Alone

variable {env : Environment} (henv : ∀ n, env.others n = []) {c : StoreCall} {w : World}

include henv

theorem handleStore_alone_of_none (h : env.faultOf w.calls c = none) :
    (handleStore env c w).2.db = (perform env w.calls w.db c).2 := by
  simp [handleStore, henv, h, faulty]

theorem handleStore_alone_cases (c : StoreCall) (w : World) :
    (handleStore env c w).2.db = (perform env w.calls w.db c).2 ∨
      (handleStore env c w).2.db = w.db := by
  simp only [handleStore, henv, List.foldl_nil, faulty]
  split
  · exact Or.inl rfl
  · exact Or.inr rfl
  · exact Or.inl rfl

theorem legalStep_handleStore (hw : w.db.Sound)
    (hc : w.db.LegalStep (perform env w.calls w.db c).2) :
    w.db.LegalStep (handleStore env c w).2.db := by
  rcases handleStore_alone_cases henv c w with h | h
  · rw [h]
    exact hc
  · rw [h]
    exact Database.LegalStep.of_eq hw rfl le_rfl

theorem handleStore_mismatches (hc : c.table? ≠ some .mismatches) (w : World) :
    (handleStore env c w).2.db.mismatches = w.db.mismatches := by
  rcases handleStore_alone_cases henv c w with h | h
  · rw [h]
    exact perform_mismatches env _ _ hc
  · rw [h]

theorem not_changes_of_table_ne (hc : c.table? ≠ some .mismatches) (mismatchId : String)
    (s : RuntimeMismatchStatus) :
    ¬ Changes ⟨w, c, (handleStore env c w).1, (handleStore env c w).2⟩ mismatchId s := by
  rintro ⟨hbefore, hafter⟩
  exact hbefore ((Database.statusOf_congr (handleStore_mismatches henv hc w) mismatchId) ▸ hafter)

theorem handleStore_of_changes
    (h : Changes ⟨w, c, (handleStore env c w).1, (handleStore env c w).2⟩ mismatchId s) :
    (handleStore env c w).2.db = (perform env w.calls w.db c).2 := by
  obtain ⟨hbefore, hafter⟩ := h
  rcases handleStore_alone_cases henv c w with h | h
  · exact h
  · rw [h] at hafter
    exact absurd hafter hbefore

theorem mismatches_run {α : Type} {t : RuntimeTask α}
    (ht : t.Uses fun c => c.table? ≠ some .mismatches) (w : World) :
    (t.run (handleStore env) w).2.db.mismatches = w.db.mismatches :=
  Task.Uses.run (h := handleStore env) (I := fun w' : World => w'.db.mismatches = w.db.mismatches)
    (fun _ w' hc hw' => (handleStore_mismatches henv hc w').trans hw') ht rfl

end Alone

variable {input : RecoveryEventInput} {now : Date}

theorem recordRecoveryEvent_of_ok {db : Database} {row : RuntimeRecoveryEvent}
    (h : (db.recordRecoveryEvent input now).1 = .ok row) :
    (db.recordRecoveryEvent input now).2.events = db.events ++ [row] ∧
      row.mismatchId = input.mismatchId ∧ row.status = input.status := by
  simp only [Database.recordRecoveryEvent] at h ⊢
  split at h
  · cases h
    exact ⟨rfl, rfl, rfl⟩
  · split_ifs at h ⊢
    cases h
    exact ⟨rfl, rfl, rfl⟩

/-! ## Orderly tasks -/

/-- The event reports every status that the write from `db` to `db'` changes. -/
structure ReportsWrite (db db' : Database) (input : RecoveryEventInput) : Prop where
  mismatch : ∀ mismatchId, input.mismatchId = some mismatchId → db'.HasMismatch mismatchId
  status : ∀ mismatchId s, db.statusOf mismatchId ≠ some s → db'.statusOf mismatchId = some s →
    input.mismatchId = some mismatchId ∧ input.status = s.text

/-- From the state `w`, every call of the task is a legal step, and the calls satisfy `P` if none of
them meets a fault. -/
structure Orderly {α : Type} (env : Environment) (P : List StoreEvent → Prop) (t : RuntimeTask α)
    (w : World) : Prop where
  steps : ∀ e ∈ t.trace (handleStore env) w, e.before.db.LegalStep e.after.db
  sound : (t.run (handleStore env) w).2.db.Sound
  reports : (∀ e ∈ t.trace (handleStore env) w, env.faultOf e.before.calls e.call = none) →
    P (t.trace (handleStore env) w)

variable {c : StoreCall}

section Rules

variable {α β : Type} {env : Environment} {P : List StoreEvent → Prop} {w : World}

theorem orderly_done (hP : Reporting P) (hw : w.db.Sound) (a : α) :
    Orderly env P (.done a) w :=
  ⟨by simp, hw, fun _ => hP.quiet _ (by simp)⟩

theorem orderly_fail (hP : Reporting P) (hw : w.db.Sound) (error : String) :
    Orderly env P (.fail error : RuntimeTask α) w :=
  ⟨by simp, hw, fun _ => hP.quiet _ (by simp)⟩

variable {f : α → RuntimeTask β} {t : RuntimeTask α}

section

variable (hP : Reporting P) (ht : Orderly env P t w)

include hP ht

theorem Orderly.bind
    (hf : ∀ a, (t.run (handleStore env) w).1 = .ok a →
      Orderly env P (f a) (t.run (handleStore env) w).2) :
    Orderly env P (t >>= f) w := by
  cases hr : (t.run (handleStore env) w).1 with
  | error error =>
    refine ⟨?_, ?_, ?_⟩
    · simpa [Task.trace_bind, hr] using ht.steps
    · simpa [Task.run_bind, hr] using ht.sound
    · simpa [Task.trace_bind, hr] using ht.reports
  | ok a =>
    have hfa := hf a hr
    have htrace : (t >>= f).trace (handleStore env) w = t.trace (handleStore env) w ++
        (f a).trace (handleStore env) (t.run (handleStore env) w).2 := by
      rw [Task.trace_bind, hr]
    refine ⟨?_, ?_, ?_⟩
    · intro e he
      rw [htrace, List.mem_append] at he
      exact he.elim (ht.steps e) (hfa.steps e)
    · rw [Task.run_bind, hr]
      exact hfa.sound
    · rw [htrace]
      intro hclear
      exact hP.append _ _ (ht.reports fun e he => hclear e (List.mem_append_left _ he))
        (hfa.reports fun e he => hclear e (List.mem_append_right _ he))

theorem Orderly.seq (hf : ∀ a (w' : World), w'.db.Sound → Orderly env P (f a) w') :
    Orderly env P (t >>= f) w :=
  ht.bind hP fun a _ => hf a _ ht.sound

theorem Orderly.discard :
    Orderly env P (do let _ ← t; pure ()) w :=
  ht.seq hP fun _ _ hw' => orderly_done hP hw' ()

end

variable (henv : ∀ n, env.others n = [])

include henv

theorem orderly_of_table_ne (hP : Reporting P) (ht : t.Uses fun c => c.table? ≠ some .mismatches)
    (hw : w.db.Sound) : Orderly env P t w := by
  have hwp := ht.wp (H := fun _ => True) (h := handleStore env)
    (G := fun e => e.before.db.LegalStep e.after.db ∧ ∀ mismatchId s, ¬ Changes e mismatchId s)
    (I := fun w' => w'.db.Sound)
    (fun c w' hc hw' => by
      have hstep := legalStep_handleStore henv hw' (Database.LegalStep.of_eq hw'
        (perform_mismatches env w'.calls w'.db hc) (perform_nextId_le env w'.calls w'.db c))
      exact ⟨⟨hstep, not_changes_of_table_ne henv hc⟩, hstep.sound⟩) hw
  obtain ⟨hevents, hsound⟩ := Task.wp_sound hwp fun _ _ => trivial
  exact ⟨fun e he => (hevents e he).1, hsound, fun _ => hP.quiet _ fun e he => (hevents e he).2⟩

theorem orderly_call (hP : Reporting P) (hc : c.table? ≠ some .mismatches) (hw : w.db.Sound) :
    Orderly env P c.send w :=
  orderly_of_table_ne henv hP (Task.uses_call hc) hw

theorem orderly_bind_of_table_ne (hP : Reporting P)
    (ht : t.Uses fun c => c.table? ≠ some .mismatches) (hw : w.db.Sound)
    (hf : ∀ a (w' : World), (t.run (handleStore env) w).1 = .ok a → w'.db.Sound →
      w'.db.mismatches = w.db.mismatches → Orderly env P (f a) w') :
    Orderly env P (t >>= f) w := by
  have horderly : Orderly env P t w := orderly_of_table_ne henv hP ht hw
  exact horderly.bind hP fun a ha => hf a _ ha horderly.sound (mismatches_run henv ht w)

theorem orderly_call_bind (hP : Reporting P) {f : c.Reply → RuntimeTask α}
    (hc : c.table? ≠ some .mismatches) (hw : w.db.Sound)
    (hf : ∀ a (w' : World), (perform env w.calls w.db c).1 = .ok a → w'.db.Sound →
      w'.db.mismatches = w.db.mismatches → Orderly env P (f a) w') :
    Orderly env P (c.send >>= f) w := by
  refine orderly_bind_of_table_ne henv hP (Task.uses_call hc) hw ?_
  intro a w' ha
  rw [Task.run_call] at ha
  exact hf a w' (perform_ok_of_handleStore_ok ha)

theorem orderly_write (hw : w.db.Sound) (hc : w.db.LegalStep (perform env w.calls w.db c).2) :
    Orderly env (fun _ => True) c.send w := by
  have hstep := legalStep_handleStore henv hw hc
  refine ⟨?_, ?_, fun _ => trivial⟩
  · rw [Task.trace_call]
    simpa using hstep
  · rw [Task.run_call]
    exact hstep.sound

/-! ### A write and its event -/

theorem records_recordRecoveryEvent (hid : input.mismatchId = some mismatchId)
    (hstatus : input.status = s.text) (hw : w.db.HasMismatch mismatchId)
    (hclear : env.faultOf w.calls (.recordRecoveryEvent input now) = none) :
    ∃ row, Records ⟨w, .recordRecoveryEvent input now,
      (handleStore env (.recordRecoveryEvent input now) w).1,
      (handleStore env (.recordRecoveryEvent input now) w).2⟩ mismatchId s row := by
  have hmismatch : ∀ id, input.mismatchId = some id → w.db.HasMismatch id := by
    intro id hid'
    rw [hid, Option.some.injEq] at hid'
    exact hid' ▸ hw
  obtain ⟨row, hrow⟩ := recordRecoveryEvent_ok now hmismatch
  obtain ⟨hevents, hrowId, hrowStatus⟩ := recordRecoveryEvent_of_ok hrow
  refine ⟨row, ?_, hrowId.trans hid, hrowStatus.trans hstatus⟩
  show (handleStore env (.recordRecoveryEvent input now) w).2.db.events = _
  rw [handleStore_alone_of_none henv hclear]
  exact hevents

theorem orderly_recorded {f : c.Reply → RuntimeTask α} {a : c.Reply}
    {g : RuntimeRecoveryEvent → RuntimeTask α} (hw : w.db.Sound)
    (hc : w.db.LegalStep (perform env w.calls w.db c).2)
    (ha : (perform env w.calls w.db c).1 = .ok a)
    (hf : f a = (StoreCall.recordRecoveryEvent input now).send >>= g)
    (hreports : ReportsWrite w.db (perform env w.calls w.db c).2 input)
    (hg : ∀ row (w' : World), w'.db.Sound → Orderly env Followed (g row) w') :
    Orderly env Followed (c.send >>= f) w := by
  have hstep := legalStep_handleStore henv hw hc
  cases hr : (handleStore env c w).1 with
  | error error =>
    refine ⟨?_, ?_, ?_⟩
    · rw [Task.trace_call_bind, hr]
      simpa using hstep
    · rw [Task.run_call_bind, hr]
      exact hstep.sound
    · -- without a fault the write is answered
      intro hclear
      rw [Task.trace_call_bind] at hclear
      have hnone := hclear _ List.mem_cons_self
      rw [handleStore, hnone] at hr
      rw [show (perform env w.calls w.db c).1 = .error error from hr] at ha
      cases ha
  | ok a' =>
    obtain rfl : a' = a := Except.ok.inj ((perform_ok_of_handleStore_ok hr).symm.trans ha)
    have hrest : Orderly env Followed (f a') (handleStore env c w).2 := by
      rw [hf]
      exact orderly_call_bind henv reporting_followed (by simp [StoreCall.table?]) hstep.sound
        fun row w' _ hw' _ => hg row w' hw'
    have htrace : (c.send >>= f).trace (handleStore env) w =
        ⟨w, c, (handleStore env c w).1, (handleStore env c w).2⟩ ::
          (f a').trace (handleStore env) (handleStore env c w).2 := by
      rw [Task.trace_call_bind, hr]
    refine ⟨?_, ?_, ?_⟩
    · rw [htrace]
      exact List.forall_mem_cons.2 ⟨hstep, hrest.steps⟩
    · rw [Task.run_call_bind, hr]
      exact hrest.sound
    · rw [htrace]
      intro hclear
      obtain ⟨hnone, hclear'⟩ := List.forall_mem_cons.1 hclear
      refine followed_cons ?_ (hrest.reports hclear')
      rintro mismatchId s ⟨hbefore, hafter⟩
      rw [hf, Task.trace_call_bind] at hclear' ⊢
      have hdb := handleStore_alone_of_none henv hnone
      obtain ⟨hid, hstatus⟩ := hreports.status mismatchId s hbefore (hdb ▸ hafter)
      refine ⟨_, List.mem_cons_self, records_recordRecoveryEvent henv hid hstatus ?_
        (hclear' _ List.mem_cons_self)⟩
      rw [hdb]
      exact hreports.mismatch mismatchId hid

end Rules

namespace ReportsWrite

variable {db : Database} {input : RecoveryEventInput} {row : RuntimeMismatch} {p : MismatchPatch}
  {s : RuntimeMismatchStatus}

theorem updateMismatchById (hrow : db.getMismatchById mismatchId = some row)
    (hs : p.status = some s) (hid : input.mismatchId = some mismatchId)
    (hstatus : input.status = s.text) (now : Date) :
    ReportsWrite db (db.updateMismatchById mismatchId p now) input := by
  have hrowId : row.id = mismatchId := by simpa using List.find?_some hrow
  constructor
  · intro id hid'
    rw [hid, Option.some.injEq] at hid'
    subst hid'
    exact Database.HasMismatch.updateMismatchById
      ⟨row, List.mem_of_find?_eq_some hrow, hrowId⟩ _ _ _
  · intro id s' hs' hs''
    obtain ⟨rfl, row', -, rfl⟩ := Database.status_of_updateMismatchById hs' hs''
    rw [hid, hstatus]
    simp [RuntimeMismatch.patch, hs]

theorem updateMismatchByDedupeKey (h : db.Sound) {dedupeKey : String}
    (hrow : db.getMismatchByDedupeKey dedupeKey = some row) (hs : p.status = some s)
    (hid : input.mismatchId = some row.id) (hstatus : input.status = s.text) (now : Date) :
    ReportsWrite db (db.updateMismatchByDedupeKey dedupeKey p now) input := by
  constructor
  · intro id hid'
    rw [hid, Option.some.injEq] at hid'
    exact Database.HasMismatch.updateMismatchByDedupeKey
      ⟨row, List.mem_of_find?_eq_some hrow, hid'⟩ _ _ _
  · intro id s' hs' hs''
    obtain ⟨rfl, rfl⟩ := Database.status_of_update (f := fun row => row.patch p now) h.dedupeKeys
      hrow rfl (fun _ => rfl) hs' hs''
    rw [hid, hstatus]
    simp [RuntimeMismatch.patch, hs]

end ReportsWrite

/-! ## The control plane -/

section ControlPlane

variable {env : Environment} (henv : ∀ n, env.others n = []) {mismatchId : String} {w : World}

include henv

theorem orderly_getRequiredMismatch {α : Type} {f : RuntimeMismatch → RuntimeTask α}
    (hw : w.db.Sound)
    (hf : ∀ row (w' : World), w'.db.Sound → w'.db.getMismatchById mismatchId = some row →
      Orderly env Followed (f row) w') :
    Orderly env Followed (getRequiredMismatch mismatchId >>= f) w := by
  refine orderly_bind_of_table_ne henv reporting_followed
    ((uses_getRequiredMismatch mismatchId).mono fun c hc => by simp [hc]) hw ?_
  intro row w' hrow hw' hrows
  refine hf row w' hw' ?_
  rw [Database.getMismatchById_congr hrows]
  exact getRequiredMismatch_ok hrow

theorem orderly_update {α : Type} {row : RuntimeMismatch} {p : MismatchPatch}
    {f : Option RuntimeMismatch → RuntimeTask α} {g : RuntimeRecoveryEvent → RuntimeTask α}
    (hw : w.db.Sound) (hrow : w.db.getMismatchById mismatchId = some row) (hs : p.status = some s)
    (hmoves : row.status = s ∨ MovesTo row.status s) (hsound : (row.patch p now).Sound)
    (hf : f (some (row.patch p now)) = (StoreCall.recordRecoveryEvent input now).send >>= g)
    (hid : input.mismatchId = some mismatchId) (hstatus : input.status = s.text)
    (hg : ∀ event (w' : World), w'.db.Sound → Orderly env Followed (g event) w') :
    Orderly env Followed ((StoreCall.updateMismatchById mismatchId p now).send >>= f) w := by
  have hstep : RowStep row (row.patch p now) := by
    refine ⟨rfl, rfl, ?_, hsound⟩
    simpa [RuntimeMismatch.patch, hs] using hmoves
  exact orderly_recorded henv hw (hw.updateMismatchById hrow hstep)
    (congrArg Except.ok (Database.getMismatchById_updateMismatchById hrow p now)) hf
    (ReportsWrite.updateMismatchById hrow hs hid hstatus now) hg

/-- A move of a mismatch to `target`, given what its patch and its event say about it. -/
theorem orderly_moveMismatch {action : RuntimeMismatchAction} {target : RuntimeMismatchStatus}
    {allowed : List RuntimeMismatchStatus}
    {patch : RuntimeMismatch → RuntimeMismatchStatus → MismatchPatch}
    {event : RuntimeMismatch → RuntimeMismatch → RecoveryEventInput}
    (hmoves : ∀ s, nextStatus action target allowed s = .ok target → s ≠ target →
      MovesTo s target) (hpatch : ∀ row, (patch row target).status = some target ∧
      (row.patch (patch row target) now).Sound)
    (hevent : ∀ row updated, (event row updated).mismatchId = some mismatchId ∧
      (event row updated).status = target.text) (hw : w.db.Sound) :
    Orderly env Followed
      (moveMismatch mismatchId (nextStatus action target allowed) patch event now) w := by
  refine orderly_getRequiredMismatch henv hw ?_
  intro row w' hw' hfound
  cases hnext : nextStatus action target allowed row.status with
  | error refusal => exact orderly_fail reporting_followed hw' refusal
  | ok s' =>
    obtain ⟨rfl, -⟩ := nextStatus_eq_ok_iff.1 hnext
    show Orderly env Followed (if s' = row.status then _ else _) _
    split_ifs with hsame
    · exact orderly_done reporting_followed hw' _
    · exact orderly_update henv hw' hfound (hpatch row).1 (Or.inr (hmoves _ hnext (Ne.symm hsame)))
        (hpatch row).2 rfl (hevent row _).1 (hevent row _).2
        fun event w'' hw'' => orderly_done reporting_followed hw'' _

variable {actorId : String} {now : Date}

theorem orderly_acknowledgeMismatch (summary : Option String) (hw : w.db.Sound) :
    Orderly env Followed (acknowledgeMismatch mismatchId actorId summary now) w :=
  orderly_moveMismatch henv (fun _ h hne => ⟨hne, Or.inl h⟩)
    (fun _ => ⟨rfl, RuntimeMismatch.sound_of_not_closed rfl⟩) (fun _ _ => ⟨rfl, rfl⟩) hw

theorem orderly_startMismatchRecovery (summary commandId linkedRecoveryEventId : Option String)
    (hw : w.db.Sound) :
    Orderly env Followed (startMismatchRecovery mismatchId actorId summary commandId
      linkedRecoveryEventId now) w := by
  unfold startMismatchRecovery
  split_ifs
  · exact orderly_fail reporting_followed hw _
  · exact orderly_moveMismatch henv (fun _ h hne => ⟨hne, Or.inr (Or.inl h)⟩)
      (fun _ => ⟨rfl, RuntimeMismatch.sound_of_not_closed rfl⟩) (fun _ _ => ⟨rfl, rfl⟩) hw

theorem orderly_resolveMismatch (summary : String) (commandId linkedRecoveryEventId : Option String)
    (hw : w.db.Sound) :
    Orderly env Followed (resolveMismatch mismatchId actorId summary commandId
      linkedRecoveryEventId now) w := by
  unfold resolveMismatch
  split_ifs
  · exact orderly_fail reporting_followed hw _
  · exact orderly_moveMismatch henv (fun _ h hne => ⟨hne, Or.inr (Or.inr (Or.inl h))⟩)
      (fun _ => ⟨rfl, RuntimeMismatch.sound_of_resolved rfl rfl⟩) (fun _ _ => ⟨rfl, rfl⟩) hw

theorem orderly_reopenMismatch (summary : String) (hw : w.db.Sound) :
    Orderly env Followed (reopenMismatch mismatchId actorId summary now) w := by
  unfold reopenMismatch
  split_ifs
  · exact orderly_fail reporting_followed hw _
  · exact orderly_moveMismatch henv
      (fun _ h hne => ⟨hne, Or.inr (Or.inr (Or.inr (Or.inr (Or.inr h))))⟩)
      (fun _ => ⟨rfl, RuntimeMismatch.sound_of_not_closed rfl⟩) (fun _ _ => ⟨rfl, rfl⟩) hw

/-- A failed verification reopens the mismatch; only a resolved one is verified. -/
theorem orderly_verifyMismatch (summary : String) (outcome : RuntimeVerificationOutcome)
    (hw : w.db.Sound) :
    Orderly env Followed (verifyMismatch mismatchId actorId summary outcome now) w := by
  by_cases hblank : isBlank (some summary) = true
  · rw [verifyMismatch, if_pos hblank]
    exact orderly_fail reporting_followed hw _
  rw [verifyMismatch, if_neg hblank]
  refine orderly_getRequiredMismatch henv hw ?_
  intro row w' hw' hfound
  cases hnext : verifyNextStatus row.status outcome with
  | error refusal => exact orderly_fail reporting_followed hw' refusal
  | ok s' =>
    show Orderly env Followed (if s' = row.status then _ else _) _
    by_cases hsame : s' = row.status
    · rw [if_pos hsame]
      exact orderly_done reporting_followed hw' _
    · rw [if_neg hsame]
      have hmoves : MovesTo row.status s' :=
        ⟨Ne.symm hsame, Or.inr (Or.inr (Or.inr (Or.inr (Or.inl ⟨outcome, hnext⟩))))⟩
      cases outcome with
      | verified =>
        obtain ⟨rfl, hrowStatus⟩ := nextStatus_eq_ok_iff.1 hnext
        have hresolved : row.status = .resolved := by simpa using movesTo_iff.1 hmoves
        refine orderly_update henv hw' hfound rfl (Or.inr hmoves) ?_ rfl rfl rfl
          fun event w'' hw'' => orderly_done reporting_followed hw'' _
        have hrowSound := hw'.rows row (List.mem_of_find?_eq_some hfound)
        refine ⟨fun hs => ?_, fun _ => ⟨?_, rfl, rfl⟩⟩
        · cases hs
        · exact hrowSound.resolved hresolved
      | failed =>
        obtain ⟨rfl, -⟩ := nextStatus_eq_ok_iff.1 hnext
        exact orderly_update henv hw' hfound rfl (Or.inr hmoves)
          (RuntimeMismatch.sound_of_not_closed rfl) rfl rfl rfl
          fun event w'' hw'' => orderly_done reporting_followed hw'' _

/-- The calls between the read and the update leave the mismatches alone. -/
theorem orderly_remediateMismatch (input : RemediateInput) (commandId : String)
    (hw : w.db.Sound) : Orderly env Followed (remediateMismatch input commandId now) w := by
  refine orderly_getRequiredMismatch henv hw ?_
  intro row w' hw' hfound
  refine orderly_bind_of_table_ne henv reporting_followed
    ((uses_checkRemediation row).mono fun c hc => by simp [hc]) hw' ?_
  intro _ w₁ _ hw₁ hrows₁
  refine orderly_bind_of_table_ne henv reporting_followed
    (uses_createCommandRecord.mono fun c hc => by rcases hc with hc | hc | hc <;> simp [hc]) hw₁ ?_
  intro command w₂ _ hw₂ hrows₂
  refine orderly_call_bind henv reporting_followed (by simp [StoreCall.table?]) hw₂ ?_
  intro remediation w₃ _ hw₃ hrows₃
  have hfound₃ : w₃.db.getMismatchById input.mismatchId = some row := by
    rw [Database.getMismatchById_congr (hrows₃.trans (hrows₂.trans hrows₁))]
    exact hfound
  cases hnext : recoveryNextStatus row.status with
  | error refusal => exact orderly_fail reporting_followed hw₃ refusal
  | ok s' =>
    have hmoves : row.status = s' ∨ MovesTo row.status s' :=
      or_iff_not_imp_left.2 fun hne => ⟨hne, Or.inr (Or.inl hnext)⟩
    obtain ⟨rfl, -⟩ := nextStatus_eq_ok_iff.1 hnext
    refine orderly_update henv hw₃ hfound₃ rfl hmoves (RuntimeMismatch.sound_of_not_closed rfl)
      rfl rfl rfl ?_
    intro event w₄ hw₄
    refine orderly_call_bind henv reporting_followed (by simp [StoreCall.table?]) hw₄ ?_
    intro found w₅ _ hw₅ _
    cases found with
    | none => exact orderly_fail reporting_followed hw₅ _
    | some result => exact orderly_done reporting_followed hw₅ _

end ControlPlane

/-! ## The health monitor and the reconciliation engine -/

section Detection

variable {env : Environment} (henv : ∀ n, env.others n = []) {w : World} {now : Date}

include henv

variable {event : RuntimeMismatch → UpsertOutcome → RecoveryEventInput}

theorem orderly_upsertMismatch {α : Type} {input : MismatchInput}
    {f : RuntimeMismatch × UpsertOutcome → RuntimeTask α} {g : RuntimeMismatch → α}
    (hf : ∀ row outcome, f (row, outcome) =
      (StoreCall.recordRecoveryEvent (event row outcome) now).send >>= fun _ => pure (g row))
    (hevent : ∀ row outcome, (event row outcome).mismatchId = some row.id ∧
      (event row outcome).status = row.status.text)
    (hw : w.db.Sound) :
    Orderly env Followed ((StoreCall.upsertMismatch input now).send >>= f) w := by
  obtain ⟨row, outcome, hanswer, hmem, hstatus⟩ := hw.exists_upsertMismatch input now
  obtain ⟨heventId, heventStatus⟩ := hevent row outcome
  refine orderly_recorded henv hw (hw.upsertMismatch input now) hanswer (hf row outcome) ⟨?_, ?_⟩
    fun _ w' hw' => orderly_done reporting_followed hw' _
  · intro mismatchId hid
    rw [heventId, Option.some.injEq] at hid
    exact hid ▸ hmem
  · intro mismatchId s hs hs'
    obtain ⟨rfl, rfl⟩ := hstatus mismatchId s hs hs'
    exact ⟨heventId, heventStatus⟩

theorem orderly_reportMismatch {input : MismatchInput}
    (hevent : ∀ row outcome, (event row outcome).mismatchId = some row.id ∧
      (event row outcome).status = row.status.text)
    (hw : w.db.Sound) :
    Orderly env Followed (reportMismatch input event now) w :=
  orderly_upsertMismatch henv (fun _ _ => rfl) hevent hw

theorem orderly_resolveDetected {dedupeKey resolvedBy resolutionSummary : String} {at' : Date}
    {event : RuntimeMismatch → RecoveryEventInput}
    (hevent : ∀ row, (event row).mismatchId = some row.id ∧
      (event row).status = RuntimeMismatchStatus.resolved.text)
    (hw : w.db.Sound) :
    Orderly env Followed
      (resolveDetected dedupeKey (resolvedPatch resolvedBy resolutionSummary at') event now) w := by
  refine orderly_call_bind henv reporting_followed (by simp [StoreCall.table?]) hw ?_
  intro found w' hfound hw' hrows
  cases found with
  | none => exact orderly_done reporting_followed hw' _
  | some row =>
    have hrow : w'.db.getMismatchByDedupeKey dedupeKey = some row := by
      rw [Database.getMismatchByDedupeKey_congr hrows]
      exact Except.ok.inj hfound
    show Orderly env Followed (if row.status = .verified then _ else _) w'
    split_ifs with hverified
    · exact orderly_done reporting_followed hw' _
    · have hstep : RowStep row
          (row.patch (resolvedPatch resolvedBy resolutionSummary at') now) := by
        refine ⟨rfl, rfl, ?_, RuntimeMismatch.sound_of_resolved rfl rfl⟩
        show row.status = .resolved ∨ MovesTo row.status .resolved
        rw [movesTo_iff]
        cases hs : row.status <;> simp_all
      obtain ⟨heventId, heventStatus⟩ :=
        hevent (row.patch (resolvedPatch resolvedBy resolutionSummary at') now)
      exact orderly_recorded henv hw' (hw'.updateMismatchByDedupeKey hrow hstep)
        (congrArg Except.ok
          (Database.getMismatchByDedupeKey_updateMismatchByDedupeKey hrow _ now)) rfl
        (ReportsWrite.updateMismatchByDedupeKey hw' hrow rfl heventId heventStatus now)
        fun _ w'' hw'' => orderly_done reporting_followed hw'' _

theorem orderly_reconcileExecutionConsistency (runId sourceComponent : String)
    (approvedIntentCount orderCount : ℕ) (hw : w.db.Sound) :
    Orderly env Followed (reconcileExecutionConsistency runId sourceComponent approvedIntentCount
      orderCount now) w := by
  unfold reconcileExecutionConsistency
  split_ifs
  · apply Orderly.discard reporting_followed
    exact orderly_reportMismatch henv (fun _ _ => ⟨rfl, rfl⟩) hw
  · apply Orderly.discard reporting_followed
    exact orderly_resolveDetected henv (fun _ => ⟨rfl, rfl⟩) hw

variable (sourceComponent : String) (runId : Option String)

theorem orderly_handleProjectionMismatch (input : ProjectionCheck) (hw : w.db.Sound) :
    Orderly env Followed (handleProjectionMismatch sourceComponent input now) w := by
  unfold handleProjectionMismatch
  split_ifs
  · apply Orderly.discard reporting_followed
    exact orderly_resolveDetected henv (fun _ => ⟨rfl, rfl⟩) hw
  · apply Orderly.discard reporting_followed
    exact orderly_reportMismatch henv (fun _ _ => ⟨rfl, rfl⟩) hw

theorem orderly_reconcileProjectionConsistency (snapshot : ProjectionSources) (hw : w.db.Sound) :
    Orderly env Followed (reconcileProjectionConsistency sourceComponent snapshot now) w := by
  refine Orderly.seq reporting_followed (orderly_handleProjectionMismatch henv _ _ hw) ?_
  intro _ w₁ hw₁
  refine Orderly.seq reporting_followed (orderly_handleProjectionMismatch henv _ _ hw₁) ?_
  intro _ w₂ hw₂
  exact orderly_handleProjectionMismatch henv _ _ hw₂

theorem orderly_recordRuntimeFailure (message : String) (hw : w.db.Sound) :
    Orderly env Followed (recordRuntimeFailure sourceComponent runId message now) w := by
  apply Orderly.discard reporting_followed
  exact orderly_reportMismatch henv (fun _ _ => ⟨rfl, rfl⟩) hw

theorem orderly_resolveRuntimeFailure (hw : w.db.Sound) :
    Orderly env Followed (resolveRuntimeFailure sourceComponent runId now) w := by
  apply Orderly.discard reporting_followed
  exact orderly_resolveDetected henv (fun _ => ⟨rfl, rfl⟩) hw

theorem orderly_applyFindingToMismatch (reconciliationRunId : String)
    (finding : ReconciliationCandidateFinding) (hw : w.db.Sound) :
    Orderly env Followed (applyFindingToMismatch reconciliationRunId finding now) w := by
  unfold applyFindingToMismatch
  cases finding.status with
  | active =>
    refine Orderly.seq reporting_followed ?_ fun row w' hw' => orderly_done reporting_followed hw' _
    exact orderly_reportMismatch henv (fun _ _ => ⟨rfl, rfl⟩) hw
  | resolved => exact orderly_resolveDetected henv (fun _ => ⟨rfl, rfl⟩) hw

end Detection

/-! ## The worker -/

theorem uses_failAttempt {message : String} (recoveryEventId : String)
    (attempt : Option RuntimeMismatchRemediation) :
    (failAttempt now message recoveryEventId attempt).Uses
      fun c => c.table? = some .remediations := by
  cases attempt with
  | none => trivial
  | some attempt => exact Task.Uses.call_bind rfl fun _ => trivial

/-- The part of `failRemediation` from its event on. -/
def announceFailure (workerId : String) (command : RuntimeCommand) (now : Date) (message : String)
    (remediation : RemediationContext) (attempt : Option RuntimeMismatchRemediation)
    (nextStatus : RuntimeMismatchStatus) (mismatch : Option RuntimeMismatch) :
    RuntimeTask Unit := do
  let failedEvent ← (StoreCall.recordRecoveryEvent
    (remediationFailedEvent workerId command message remediation attempt nextStatus) now).send
  failAttempt now message failedEvent.id attempt
  reopenRemediated workerId command now remediation nextStatus message failedEvent.id mismatch

variable {attempt : Option RuntimeMismatchRemediation} {s' : RuntimeMismatchStatus}

section Worker

variable {env : Environment} (henv : ∀ n, env.others n = []) {w : World} {now : Date}
  {workerId message : String} {command : RuntimeCommand} {remediation : RemediationContext}

include henv

theorem orderly_reportFailure (hw : w.db.Sound) :
    Orderly env Followed (reportFailure workerId command now message) w :=
  orderly_upsertMismatch henv (g := fun _ => ()) (fun _ _ => rfl) (fun _ _ => ⟨rfl, rfl⟩) hw

/-- After its event, a failed remediation changes the status of its mismatch only, and links the
mismatch to the event. -/
theorem changes_reopenRemediated {recoveryEventId : String} (mismatch : Option RuntimeMismatch)
    {e : StoreEvent} (he : e ∈ (do
      failAttempt now message recoveryEventId attempt
      reopenRemediated workerId command now remediation s' message recoveryEventId mismatch
        : RuntimeTask Unit).trace (handleStore env) w) (hchange : Changes e mismatchId s) :
    mismatchId = remediation.mismatchId ∧ s = s' ∧ ∃ row,
      e.after.db.getMismatchById mismatchId = some row ∧
        row.linkedRecoveryEventId = some recoveryEventId := by
  have huses : (do
      failAttempt now message recoveryEventId attempt
      reopenRemediated workerId command now remediation s' message recoveryEventId mismatch
        : RuntimeTask Unit).Uses fun c => c.table? ≠ some .mismatches ∨
          c = .updateMismatchById remediation.mismatchId
            (reopenedPatch workerId command now s' message recoveryEventId) now := by
    apply Task.Uses.bind
    · exact (uses_failAttempt recoveryEventId attempt).mono fun c hc => Or.inl (by simp [hc])
    · intro _
      cases mismatch with
      | none => trivial
      | some row => exact Task.Uses.call_bind (Or.inr rfl) fun _ => trivial
  have hcall := huses.trace w e he
  rw [Task.eq_of_mem_trace _ he] at hchange ⊢
  rcases hcall with hcall | hcall
  · exact absurd hchange (not_changes_of_table_ne henv hcall mismatchId s)
  · generalize e.call = c at hcall hchange ⊢
    subst hcall
    have hdb := handleStore_of_changes henv hchange
    obtain ⟨hbefore, hafter⟩ := hchange
    rw [hdb] at hafter ⊢
    obtain ⟨rfl, row, hrow, rfl⟩ := Database.status_of_updateMismatchById hbefore hafter
    exact ⟨rfl, rfl, _, hrow, rfl⟩

variable {mismatch : Option RuntimeMismatch}

theorem steps_announceFailure (hw : w.db.Sound)
    (hmismatch : w.db.getMismatchById remediation.mismatchId = mismatch)
    (hmoves : ∀ row, mismatch = some row → row.status = s' ∨ MovesTo row.status s')
    (hs' : s'.shouldReopen = false) :
    Orderly env (fun _ => True)
      (announceFailure workerId command now message remediation attempt s' mismatch) w := by
  refine orderly_call_bind henv reporting_true (by simp [StoreCall.table?]) hw ?_
  intro failedEvent w₁ _ hw₁ hrows₁
  refine orderly_bind_of_table_ne henv reporting_true
    ((uses_failAttempt failedEvent.id attempt).mono fun c hc => by simp [hc]) hw₁ ?_
  intro _ w₂ _ hw₂ hrows₂
  cases mismatch with
  | none => exact orderly_done reporting_true hw₂ ()
  | some row =>
    apply Orderly.discard reporting_true
    have hrow : w₂.db.getMismatchById remediation.mismatchId = some row := by
      rw [Database.getMismatchById_congr (hrows₂.trans hrows₁), hmismatch]
    exact orderly_write henv hw₂ (hw₂.updateMismatchById hrow
      ⟨rfl, rfl, hmoves row rfl, RuntimeMismatch.sound_of_not_closed hs'⟩)

/-- The event of a failed remediation announces the status that the mismatch then gets. -/
theorem announced_announceFailure (mismatch : Option RuntimeMismatch)
    (attempt : Option RuntimeMismatchRemediation) (s' : RuntimeMismatchStatus)
    (hclear : ∀ e ∈ (announceFailure workerId command now message remediation attempt s'
      mismatch).trace (handleStore env) w, env.faultOf e.before.calls e.call = none) :
    Announced ((announceFailure workerId command now message remediation attempt s'
      mismatch).trace (handleStore env) w) := by
  unfold announceFailure at hclear ⊢
  rw [Task.trace_call_bind] at hclear ⊢
  refine announced_cons (not_changes_of_table_ne henv (by simp [StoreCall.table?])) ?_
  cases hr : (handleStore env (.recordRecoveryEvent
    (remediationFailedEvent workerId command message remediation attempt s') now) w).1 with
  | error error => simp
  | ok failedEvent =>
    intro e' he' mismatchId s hchange
    obtain ⟨rfl, rfl, hlinked⟩ := changes_reopenRemediated henv mismatch he' hchange
    obtain ⟨hevents, hrowId, hrowStatus⟩ :=
      recordRecoveryEvent_of_ok (perform_ok_of_handleStore_ok hr)
    refine ⟨failedEvent, ⟨?_, hrowId, hrowStatus⟩, hlinked⟩
    show (handleStore env _ w).2.db.events = _
    rw [handleStore_alone_of_none henv (hclear _ List.mem_cons_self)]
    exact hevents

theorem orderly_announceFailure (hw : w.db.Sound)
    (hmismatch : w.db.getMismatchById remediation.mismatchId = mismatch)
    (hmoves : ∀ row, mismatch = some row → row.status = s' ∨ MovesTo row.status s')
    (hs' : s'.shouldReopen = false) :
    Orderly env Announced
      (announceFailure workerId command now message remediation attempt s' mismatch) w := by
  have hsafe : Orderly env (fun _ => True)
      (announceFailure workerId command now message remediation attempt s' mismatch) w :=
    steps_announceFailure henv hw hmismatch hmoves hs'
  exact ⟨hsafe.steps, hsafe.sound, announced_announceFailure henv mismatch attempt s'⟩

theorem orderly_failRemediation (hw : w.db.Sound) :
    Orderly env Announced (failRemediation workerId command now message remediation) w := by
  refine orderly_call_bind henv reporting_announced (by simp [StoreCall.table?]) hw ?_
  intro attempt w₁ _ hw₁ _
  refine orderly_call_bind henv reporting_announced (by simp [StoreCall.table?]) hw₁ ?_
  intro mismatch w₂ hmismatch hw₂ hrows
  have hread : w₂.db.getMismatchById remediation.mismatchId = mismatch := by
    rw [Database.getMismatchById_congr hrows]
    exact Except.ok.inj hmismatch
  cases mismatch with
  | none => exact orderly_announceFailure henv hw₂ hread (by simp) rfl
  | some row =>
    show Orderly env Announced (Task.ofExcept (remediationFailureNextStatus row.status) >>= _) w₂
    cases hnext : remediationFailureNextStatus row.status with
    | error refusal => exact orderly_fail reporting_announced hw₂ refusal
    | ok s' =>
      refine orderly_announceFailure henv hw₂ hread ?_ ?_
      · rintro _ ⟨⟩
        exact or_iff_not_imp_left.2 fun hne =>
          ⟨hne, Or.inr (Or.inr (Or.inr (Or.inl hnext)))⟩
      · obtain ⟨rfl, -⟩ := nextStatus_eq_ok_iff.1 hnext
        rfl

theorem orderly_recordFailure {P : List StoreEvent → Prop} (hP : Reporting P)
    (hremediation : ∀ w' : World, w'.db.Sound → Orderly env P
      (recordFailedRemediation workerId command now message (getRemediationContext command)) w')
    (hw : w.db.Sound) : Orderly env P (recordFailure workerId command now message) w := by
  refine orderly_call_bind henv hP (by simp [StoreCall.table?]) hw ?_
  intro _ w₁ _ hw₁ _
  refine orderly_bind_of_table_ne henv hP ?_ hw₁ ?_
  · cases bundleRecoveryActionId command with
    | none => trivial
    | some id => exact Task.uses_call (by simp [StoreCall.table?])
  intro _ w₂ _ hw₂ _
  refine (hremediation w₂ hw₂).seq hP fun _ w₃ hw₃ => ?_
  exact orderly_call henv hP (by simp [StoreCall.table?]) hw₃

end Worker

/-! ## Runs -/

inductive MismatchOperation where
  | upsert (input : MismatchInput) (now : Date)
  | acknowledge (mismatchId actorId : String) (summary : Option String) (now : Date)
  | startRecovery (mismatchId actorId : String)
      (summary commandId linkedRecoveryEventId : Option String) (now : Date)
  | resolve (mismatchId actorId summary : String) (commandId linkedRecoveryEventId : Option String)
      (now : Date)
  | verify (mismatchId actorId summary : String) (outcome : RuntimeVerificationOutcome)
      (now : Date)
  | reopen (mismatchId actorId summary : String) (now : Date)
  | remediate (input : RemediateInput) (commandId : String) (now : Date)
  | failCommand (workerId : String) (command : RuntimeCommand) (now : Date) (message : String)
  | checkExecution (runId sourceComponent : String) (approvedIntentCount orderCount : ℕ)
      (now : Date)
  | checkProjections (sourceComponent : String) (snapshot : ProjectionSources) (now : Date)
  | failRuntime (sourceComponent : String) (runId : Option String) (message : String) (now : Date)
  | recoverRuntime (sourceComponent : String) (runId : Option String) (now : Date)
  | applyFinding (reconciliationRunId : String) (finding : ReconciliationCandidateFinding)
      (now : Date)

namespace MismatchOperation

def task : MismatchOperation → RuntimeTask Unit
  | upsert input now => do let _ ← (StoreCall.upsertMismatch input now).send; pure ()
  | acknowledge mismatchId actorId summary now => do
    let _ ← acknowledgeMismatch mismatchId actorId summary now; pure ()
  | startRecovery mismatchId actorId summary commandId linkedRecoveryEventId now => do
    let _ ← startMismatchRecovery mismatchId actorId summary commandId linkedRecoveryEventId now
    pure ()
  | resolve mismatchId actorId summary commandId linkedRecoveryEventId now => do
    let _ ← resolveMismatch mismatchId actorId summary commandId linkedRecoveryEventId now; pure ()
  | verify mismatchId actorId summary outcome now => do
    let _ ← verifyMismatch mismatchId actorId summary outcome now; pure ()
  | reopen mismatchId actorId summary now => do
    let _ ← reopenMismatch mismatchId actorId summary now; pure ()
  | remediate input commandId now => do let _ ← remediateMismatch input commandId now; pure ()
  | failCommand workerId command now message => recordFailure workerId command now message
  | checkExecution runId sourceComponent approvedIntentCount orderCount now =>
    reconcileExecutionConsistency runId sourceComponent approvedIntentCount orderCount now
  | checkProjections sourceComponent snapshot now =>
    reconcileProjectionConsistency sourceComponent snapshot now
  | failRuntime sourceComponent runId message now =>
    recordRuntimeFailure sourceComponent runId message now
  | recoverRuntime sourceComponent runId now => resolveRuntimeFailure sourceComponent runId now
  | applyFinding reconciliationRunId finding now => do
    let _ ← applyFindingToMismatch reconciliationRunId finding now; pure ()

/-- How an operation reports the statuses that its calls change. -/
def Reports : MismatchOperation → List StoreEvent → Prop
  | upsert _ _ => fun _ => True
  | failCommand _ command _ _ =>
    match getRemediationContext command with
    | some _ => Announced
    | none => Followed
  | _ => Followed

end MismatchOperation

def runOperations (env : Environment) :
    List MismatchOperation → World → List (MismatchOperation × List StoreEvent)
  | [], _ => []
  | operation :: operations, w =>
    (operation, operation.task.trace (handleStore env) w) ::
      runOperations env operations (operation.task.run (handleStore env) w).2

section Runs

variable {env : Environment} (henv : ∀ n, env.others n = []) {w : World}

include henv

theorem orderly_task (operation : MismatchOperation) (hw : w.db.Sound) :
    Orderly env operation.Reports operation.task w := by
  cases operation with
  | upsert input now =>
    apply Orderly.discard reporting_true
    exact orderly_write henv hw (hw.upsertMismatch input now)
  | acknowledge mismatchId actorId summary now =>
    exact (orderly_acknowledgeMismatch henv summary hw).discard reporting_followed
  | startRecovery mismatchId actorId summary commandId linkedRecoveryEventId now =>
    exact (orderly_startMismatchRecovery henv summary commandId linkedRecoveryEventId hw).discard
      reporting_followed
  | resolve mismatchId actorId summary commandId linkedRecoveryEventId now =>
    exact (orderly_resolveMismatch henv summary commandId linkedRecoveryEventId hw).discard
      reporting_followed
  | verify mismatchId actorId summary outcome now =>
    exact (orderly_verifyMismatch henv summary outcome hw).discard reporting_followed
  | reopen mismatchId actorId summary now =>
    exact (orderly_reopenMismatch henv summary hw).discard reporting_followed
  | remediate input commandId now =>
    exact (orderly_remediateMismatch henv input commandId hw).discard reporting_followed
  | failCommand workerId command now message =>
    cases hcontext : getRemediationContext command with
    | none =>
      rw [MismatchOperation.Reports, hcontext]
      refine orderly_recordFailure henv reporting_followed ?_ hw
      rw [hcontext]
      exact fun w' hw' => orderly_reportFailure henv hw'
    | some remediation =>
      rw [MismatchOperation.Reports, hcontext]
      refine orderly_recordFailure henv reporting_announced ?_ hw
      rw [hcontext]
      exact fun w' hw' => orderly_failRemediation henv hw'
  | checkExecution runId sourceComponent approvedIntentCount orderCount now =>
    exact orderly_reconcileExecutionConsistency henv _ _ _ _ hw
  | checkProjections sourceComponent snapshot now =>
    exact orderly_reconcileProjectionConsistency henv _ _ hw
  | failRuntime sourceComponent runId message now =>
    exact orderly_recordRuntimeFailure henv _ _ _ hw
  | recoverRuntime sourceComponent runId now => exact orderly_resolveRuntimeFailure henv _ _ hw
  | applyFinding reconciliationRunId finding now =>
    exact (orderly_applyFindingToMismatch henv _ _ hw).discard reporting_followed

theorem runOperations_lifecycle (operations : List MismatchOperation) (hw : w.db.Sound) :
    ∀ run ∈ runOperations env operations w,
      (∀ e ∈ run.2, e.before.db.LegalStep e.after.db) ∧
      ((∀ e ∈ run.2, env.faultOf e.before.calls e.call = none) → run.1.Reports run.2) := by
  induction operations generalizing w with
  | nil => simp [runOperations]
  | cons operation operations ih =>
    have horderly := orderly_task henv operation hw
    intro run hrun
    rcases List.mem_cons.1 hrun with rfl | hrun
    · exact ⟨horderly.steps, horderly.reports⟩
    · exact ih horderly.sound run hrun

end Runs

/-- A failure of the runtime is found, its remediation is requested and fails. -/
def sampleOperations : List MismatchOperation :=
  [.failRuntime "sentinel-runtime" none "cycle failed" 0, .remediate sampleRemediation "a" 1,
    .failCommand "worker-0" sampleRemediationCommand 3 "cycle failed again"]

theorem sound_sample : (sampleQueue []).Sound :=
  ⟨List.nodup_nil, List.nodup_nil, by simp [sampleQueue], by simp [sampleQueue]⟩

theorem runOperations_lifecycle_sample :
    let env := failingEnvironment (fun _ _ => "") fun _ => []
    ∀ run ∈ runOperations env sampleOperations ⟨sampleQueue [], 0⟩,
      (∀ e ∈ run.2, e.before.db.LegalStep e.after.db) ∧ run.1.Reports run.2 := by
  intro env run hrun
  obtain ⟨hsteps, hreports⟩ := runOperations_lifecycle (fun _ => rfl : ∀ n, env.others n = [])
    sampleOperations (w := ⟨sampleQueue [], 0⟩) sound_sample run hrun
  exact ⟨hsteps, hreports fun e _ => faultOf_failing e.before.calls e.call⟩

/-- The event of the failed remediation comes before the change, and none comes after it; and an
acknowledgement that has read an open mismatch overwrites a recovery that started meanwhile. -/
theorem lifecycle_left :
    let env := failingEnvironment (fun _ _ => "") fun _ => []
    (¬ ∀ run ∈ runOperations env sampleOperations ⟨sampleQueue [], 0⟩, Followed run.2) ∧
      let tasks : Bool → RuntimeTask (Option RuntimeMismatch) := fun recovers =>
        if recovers then startMismatchRecovery "0" "operator" none (some "a") none 1
        else acknowledgeMismatch "0" "reviewer" none 1
      let status (schedule : List Bool) :=
        (runPool (handleStore env) schedule tasks ⟨sampleMismatched, 0⟩).2.db.statusOf "0"
      status [false, true, true, true] = some .recovering ∧
        status [false, true, true, true, false] = some .acknowledged ∧
        ¬ MovesTo .recovering .acknowledged := by
  refine ⟨?_, rfl, rfl, by decide⟩
  intro hall
  have hfollowed := hall _ (List.mem_cons_of_mem _ (List.mem_cons_of_mem _ List.mem_cons_self))
  obtain ⟨e', he', row, hrecords, -⟩ :=
    hfollowed [_, _, _, _, _] _ [_] rfl "0" .reopened ⟨by decide, rfl⟩
  have hsame : e'.after.db.events = e'.before.db.events := by
    rw [List.mem_singleton.1 he']
    rfl
  rw [hsame] at hrecords
  simp at hrecords

end SentinelApex.Runtime
