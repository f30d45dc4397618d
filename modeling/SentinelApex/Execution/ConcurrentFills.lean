import SentinelApex.Execution.Session

/-!
# Two fills at the same time

`processFill` reads the record, computes the new list of fills and writes it back, with an await
between the read and the write. Two calls that both read before either writes each append to the
list they have read, and the later write replaces the list of the earlier one. The calls are run
as a pool of two tasks, one for each `Bool`, under an arbitrary schedule.
-/

namespace SentinelApex

open Async OrderStatus OrderExecutor

def timesRecorded (fills : List OrderFill) (fill : OrderFill) : ℕ :=
  fills.countP fun existing => existing.fillId = fill.fillId

theorem timesRecorded_append (fills : List OrderFill) (fill new : OrderFill) :
    timesRecorded (fills ++ [new]) fill =
      timesRecorded fills fill + if new.fillId = fill.fillId then 1 else 0 := by
  simp [timesRecorded, List.countP_append, List.countP_singleton]

theorem timesRecorded_eq_zero_iff {fills : List OrderFill} {fill : OrderFill} :
    timesRecorded fills fill = 0 ↔
      (fills.any fun existing => existing.fillId = fill.fillId) = false := by
  simp [timesRecorded, List.countP_eq_zero]

def OrderRecord.withFill (record : OrderRecord) (fills : List OrderFill) (size : Decimal)
    (now : Date) : OrderRecord :=
  record.merge (filledStatus fills size)
    { fills := some fills
      completedAt := if isFullyFilled fills size then some (some now) else none }

section

variable (record : OrderRecord) (fills : List OrderFill) (size : Decimal) (now : Date)

@[simp] theorem OrderRecord.withFill_fills : (record.withFill fills size now).fills = fills := rfl

@[simp] theorem OrderRecord.withFill_intent :
    (record.withFill fills size now).intent = record.intent := rfl

@[simp] theorem OrderRecord.withFill_status :
    (record.withFill fills size now).status = filledStatus fills size := rfl

end

theorem filledStatus_eq_filled_iff (fills : List OrderFill) (size : Decimal) :
    filledStatus fills size = .filled ↔ isFullyFilled fills size = true := by
  unfold filledStatus
  split_ifs with h <;> simp [h]

/-- The statuses that a fill can move on. -/
def openStatuses : List OrderStatus := [submitted, partiallyFilled]

theorem isValidStatusTransition_filledStatus {source : OrderStatus} (h : source ∈ openStatuses)
    (fills : List OrderFill) (size : Decimal) :
    source.isValidStatusTransition (filledStatus fills size) = true := by
  unfold filledStatus
  revert h
  split_ifs <;> cases source <;> decide

/-! ## The steps of one call -/

/-- The task does not write to the store any more. -/
def Quiet (t : ExecTask OrderRecord) : Prop := t.Uses fun c => c.isWrite = false

theorem quiet_done (record : OrderRecord) : Quiet (.done record) := trivial

variable {t : ExecTask OrderRecord} {record : OrderRecord}

section

variable {env : Environment} {id : String} {fill : OrderFill} {now : Date} {w : World}

theorem quiet_step (env : Environment) (w : World) (ht : Quiet t) :
    Quiet (t.step (handle env reliable) w).1 ∧
      (t.step (handle env reliable) w).2.store = w.store := by
  refine ⟨ht.step w, ?_⟩
  cases t with
  | done record | fail message => rfl
  | await c k => exact handle_store_of_not_isWrite env reliable ht.1 w

theorem processFill_step (hget : w.store.get? id = some record) :
    (processFill id fill now).step (handle env reliable) w =
      (if record.status ∈ [filled, cancelled, failed] then .done record
        else if record.fills.any fun existing => existing.fillId = fill.fillId then .done record
        else appendFill id record fill now, w.next w.store) := by
  unfold processFill
  rw [Task.step_call_bind]
  have hread : (handle env reliable (.getByClientId id) w).1 = .ok (some record) :=
    congrArg Except.ok hget
  rw [hread]
  rfl

theorem processFill_step_fresh (hget : w.store.get? id = some record)
    (hopen : record.status ∈ openStatuses) (hnew : timesRecorded record.fills fill = 0) :
    (processFill id fill now).step (handle env reliable) w =
      (appendFill id record fill now, w.next w.store) := by
  have hlive : record.status ∉ [filled, cancelled, failed] := by
    revert hopen
    cases record.status <;> decide
  rw [processFill_step hget, if_neg hlive,
    if_neg (by simp [timesRecorded_eq_zero_iff.1 hnew])]

theorem processFill_step_ignored (hget : w.store.get? id = some record)
    (h : record.status = .filled ∨ timesRecorded record.fills fill ≠ 0) :
    (processFill id fill now).step (handle env reliable) w = (.done record, w.next w.store) := by
  rw [processFill_step hget]
  by_cases hlive : record.status ∈ [filled, cancelled, failed]
  · rw [if_pos hlive]
  · rcases h with h | h
    · simp [h] at hlive
    · have hdup : (record.fills.any fun existing => existing.fillId = fill.fillId) = true := by
        by_contra hne
        exact h (timesRecorded_eq_zero_iff.2 (Bool.not_eq_true _ ▸ hne))
      rw [if_neg hlive, if_pos hdup]

theorem processFill_ne_done (record : OrderRecord) : processFill id fill now ≠ .done record := by
  unfold processFill
  rw [Task.call_bind]
  exact fun h => by cases h

theorem appendFill_ne_done (base record : OrderRecord) :
    appendFill id base fill now ≠ .done record := by
  unfold appendFill
  dsimp only
  rw [Task.call_bind]
  exact fun h => by cases h

theorem appendFill_step_quiet (base : OrderRecord) :
    Quiet ((appendFill id base fill now).step (handle env reliable) w).1 := by
  unfold appendFill
  dsimp only
  rw [Task.step_call_bind]
  split
  · exact Task.Uses.call_bind rfl fun _ => Task.Uses.call_bind rfl fun _ => trivial
  · trivial

theorem appendFill_step_store {base record : OrderRecord} (hget : w.store.get? id = some record) :
    ((appendFill id base fill now).step (handle env reliable) w).2.store =
      if record.status.isValidStatusTransition
          (filledStatus (base.fills ++ [fill]) base.intent.size) then
        w.store.set id (record.withFill (base.fills ++ [fill]) base.intent.size now)
      else w.store := by
  unfold appendFill
  dsimp only
  rw [Task.step_call_bind]
  simp only [handle, reliable, faultyUpdate, InMemoryOrderStore.updateStatus, hget]
  by_cases hvalid : record.status.isValidStatusTransition
      (filledStatus (base.fills ++ [fill]) base.intent.size) = true
  · simp only [if_pos hvalid]
    rfl
  · simp only [if_neg hvalid]
    rfl

end

/-! ## The pool -/

section

variable (env : Environment) (id : String) (fills : Bool → OrderFill) (nows : Bool → Date)

def runFills (schedule : List Bool) (w : World) : (Bool → ExecTask OrderRecord) × World :=
  runPool (handle env reliable) schedule (fun i => processFill id (fills i) (nows i)) w

/-- Both fills are recorded once, and the order is filled exactly when its fills reach its size. -/
def NoLostFill (store : InMemoryOrderStore) : Prop :=
  ∃ final, store.get? id = some final ∧ (∀ i, timesRecorded final.fills (fills i) = 1) ∧
    (final.status = .filled ↔ isFullyFilled final.fills final.intent.size = true)

end

variable {ts : Bool → ExecTask OrderRecord} {w : World}

section

variable {env : Environment} {id : String} {fills : Bool → OrderFill} {nows : Bool → Date}
  {record : OrderRecord}

theorem update_forall {p : Bool → ExecTask OrderRecord → Prop} (hts : ∀ i, p i (ts i)) {k : Bool}
    (ht : p k t) (i : Bool) : p i (Function.update ts k t i) := by
  by_cases hik : i = k
  · subst hik
    rwa [Function.update_self]
  · rw [Function.update_of_ne hik]
    exact hts i

def WritesFrom (id : String) (record : OrderRecord) (fill : OrderFill) (now : Date)
    (t : ExecTask OrderRecord) : Prop :=
  t = appendFill id record fill now ∨ Quiet t

theorem overlapping_reads (nows : Bool → Date)
    (hnew : ∀ i, timesRecorded record.fills (fills i) = 0)
    (hne : (fills false).fillId ≠ (fills true).fillId) (schedule : List Bool)
    (hget : w.store.get? id = some record)
    (hts : ∀ i, ts i = appendFill id record (fills i) (nows i)) :
    ¬ NoLostFill id fills (runPool (handle env reliable) schedule ts w).2.store := by
  have hinv := runPool_invariant (handle env reliable)
    (I := fun ts w => (∀ i, WritesFrom id record (fills i) (nows i) (ts i)) ∧
      ∃ current, w.store.get? id = some current ∧
        (current.fills = record.fills ∨ ∃ i, current.fills = record.fills ++ [fills i]))
    ?_ schedule ts w ⟨fun i => Or.inl (hts i), record, hget, Or.inl rfl⟩
  · rintro ⟨final, hfinal, honce, -⟩
    obtain ⟨-, current, hcurrent, hfills⟩ := hinv
    obtain rfl : final = current := Option.some.inj (hfinal.symm.trans hcurrent)
    rcases hfills with hfills | ⟨i, hfills⟩
    · have h := honce true
      rw [hfills, hnew true] at h
      omega
    · have h := honce (!i)
      have hother : (fills i).fillId ≠ (fills (!i)).fillId := by
        cases i
        · exact hne
        · exact hne.symm
      rw [hfills, timesRecorded_append, hnew, if_neg hother] at h
      omega
  · rintro k ts' w' ⟨htasks, current, hcurrent, hfills⟩
    rcases htasks k with hk | hk
    · rw [hk]
      refine ⟨update_forall htasks
        (show WritesFrom id record (fills k) (nows k) _ from
          Or.inr (appendFill_step_quiet record)), ?_⟩
      rw [appendFill_step_store hcurrent]
      split_ifs
      · exact ⟨_, OrderedMap.get?_set_self _ _ _, Or.inr ⟨k, rfl⟩⟩
      · exact ⟨current, hcurrent, hfills⟩
    · obtain ⟨hquiet, hstore⟩ := quiet_step env w' hk
      refine ⟨update_forall htasks (show WritesFrom id record (fills k) (nows k) _ from
        Or.inr hquiet), current, ?_, hfills⟩
      rw [hstore, hcurrent]

/-- The task has not read yet, or writes no more. -/
def Idle (id : String) (fill : OrderFill) (now : Date) (t : ExecTask OrderRecord) : Prop :=
  t = processFill id fill now ∨ Quiet t

theorem idle_step (env : Environment) {fill : OrderFill} {now : Date} (ht : Idle id fill now t)
    (hget : w.store.get? id = some record) (hrec : timesRecorded record.fills fill ≠ 0) :
    Idle id fill now (t.step (handle env reliable) w).1 ∧
      (t.step (handle env reliable) w).2.store = w.store := by
  rcases ht with rfl | ht
  · rw [processFill_step_ignored hget (Or.inr hrec)]
    exact ⟨Or.inr (quiet_done record), rfl⟩
  · obtain ⟨hquiet, hstore⟩ := quiet_step env w ht
    exact ⟨Or.inr hquiet, hstore⟩

/-- The record after one more fill: a filled order ignores it. -/
def OrderRecord.afterFill (record : OrderRecord) (fill : OrderFill) (now : Date) : OrderRecord :=
  if record.status = .filled then record
  else record.withFill (record.fills ++ [fill]) record.intent.size now

theorem OrderRecord.timesRecorded_le_afterFill (record : OrderRecord) (fill new : OrderFill)
    (now : Date) :
    timesRecorded record.fills fill ≤ timesRecorded (record.afterFill new now).fills fill := by
  unfold afterFill
  split_ifs
  · exact le_rfl
  · rw [withFill_fills, timesRecorded_append]
    omega

/-- One call is idle and its fill recorded, the other has yet to read: when the second returns, it
has taken effect on the record as it stands. -/
theorem single_writer {i : Bool} (hrec : timesRecorded record.fills (fills i) ≠ 0)
    (hnew : timesRecorded record.fills (fills (!i)) = 0)
    (hstatus : record.status ∈ openStatuses ∨ record.status = .filled) (schedule : List Bool)
    (hget : w.store.get? id = some record) (hidle : Idle id (fills i) (nows i) (ts i))
    (hstart : ts (!i) = processFill id (fills (!i)) (nows (!i)))
    (hdone : ∃ r, (runPool (handle env reliable) schedule ts w).1 (!i) = .done r) :
    (runPool (handle env reliable) schedule ts w).2.store.get? id =
      some (record.afterFill (fills (!i)) (nows (!i))) := by
  have hinv := runPool_invariant (handle env reliable)
    (I := fun ts w => Idle id (fills i) (nows i) (ts i) ∧
      (w.store.get? id = some record ∧
          (ts (!i) = processFill id (fills (!i)) (nows (!i)) ∨
            record.status ∈ openStatuses ∧
              ts (!i) = appendFill id record (fills (!i)) (nows (!i))) ∨
        w.store.get? id = some (record.afterFill (fills (!i)) (nows (!i))) ∧ Quiet (ts (!i))))
    ?_ schedule ts w ⟨hidle, Or.inl ⟨hget, Or.inl hstart⟩⟩
  · obtain ⟨r, hr⟩ := hdone
    rcases hinv.2 with ⟨-, hlive | ⟨-, hlive⟩⟩ | ⟨hfinal, -⟩
    · exact absurd (hlive.symm.trans hr) (processFill_ne_done r)
    · exact absurd (hlive.symm.trans hr) (appendFill_ne_done record r)
    · exact hfinal
  · rintro k ts' w' ⟨hidle', hother⟩
    by_cases hk : k = i
    · subst hk
      have hstored : ∃ current, w'.store.get? id = some current ∧
          timesRecorded current.fills (fills k) ≠ 0 := by
        rcases hother with ⟨hcur, -⟩ | ⟨hcur, -⟩
        · exact ⟨_, hcur, hrec⟩
        · have hle := record.timesRecorded_le_afterFill (fills k) (fills (!k)) (nows (!k))
          exact ⟨_, hcur, by omega⟩
      obtain ⟨current, hcur, hrec'⟩ := hstored
      obtain ⟨hidle'', hstore⟩ := idle_step env hidle' hcur hrec'
      rw [Function.update_self, Function.update_of_ne (Bool.not_ne_self k), hstore]
      exact ⟨hidle'', hother⟩
    · obtain rfl : k = !i := Bool.eq_not_of_ne hk
      rw [Function.update_self, Function.update_of_ne (Bool.not_ne_self i).symm]
      refine ⟨hidle', ?_⟩
      rcases hother with ⟨hcur, hstart' | ⟨hopen, hwrite⟩⟩ | ⟨hcur, hquiet⟩
      · rw [hstart']
        by_cases hfull : record.status = .filled
        · rw [processFill_step_ignored hcur (Or.inl hfull)]
          refine Or.inr ⟨?_, quiet_done record⟩
          rw [OrderRecord.afterFill, if_pos hfull]
          exact hcur
        · have hopen : record.status ∈ openStatuses := hstatus.resolve_right hfull
          rw [processFill_step_fresh hcur hopen hnew]
          exact Or.inl ⟨hcur, Or.inr ⟨hopen, rfl⟩⟩
      · rw [hwrite]
        have hfull : record.status ≠ .filled := by
          rintro h
          rw [h] at hopen
          revert hopen
          decide
        refine Or.inr ⟨?_, appendFill_step_quiet record⟩
        rw [appendFill_step_store hcur,
          if_pos (isValidStatusTransition_filledStatus hopen _ _), OrderedMap.get?_set_self,
          OrderRecord.afterFill, if_neg hfull]
      · obtain ⟨hquiet', hstore⟩ := quiet_step env w' hquiet
        rw [hstore]
        exact Or.inr ⟨hcur, hquiet'⟩

theorem both_recorded (env : Environment) (nows : Bool → Date)
    (hrec : ∀ i, timesRecorded record.fills (fills i) ≠ 0) (schedule : List Bool)
    (hget : w.store.get? id = some record) (hidle : ∀ i, Idle id (fills i) (nows i) (ts i)) :
    (runPool (handle env reliable) schedule ts w).2.store.get? id = some record := by
  have hinv := runPool_invariant (handle env reliable)
    (I := fun ts w => (∀ i, Idle id (fills i) (nows i) (ts i)) ∧ w.store.get? id = some record)
    ?_ schedule ts w ⟨hidle, hget⟩
  · exact hinv.2
  · rintro k ts' w' ⟨hidle', hcur⟩
    obtain ⟨hidle'', hstore⟩ := idle_step env (hidle' k) hcur (hrec k)
    refine ⟨update_forall hidle' hidle'', ?_⟩
    rw [hstore, hcur]

/-! ## When no fill is lost -/

theorem noLostFill_iff_of_get {store : InMemoryOrderStore} {final : OrderRecord}
    (hfinal : store.get? id = some final) :
    NoLostFill id fills store ↔ (∀ i, timesRecorded final.fills (fills i) = 1) ∧
      (final.status = .filled ↔ isFullyFilled final.fills final.intent.size = true) := by
  constructor
  · rintro ⟨final', hfinal', h⟩
    obtain rfl : final = final' := Option.some.inj (hfinal.symm.trans hfinal')
    exact h
  · exact fun h => ⟨final, hfinal, h⟩

theorem ne_filled_of_open {status : OrderStatus} (h : status ∈ openStatuses) :
    status ≠ .filled := by
  rintro rfl
  revert h
  decide

theorem one_new {i : Bool} (hrec : timesRecorded record.fills (fills i) ≠ 0)
    (hnew : timesRecorded record.fills (fills (!i)) = 0) (hopen : record.status ∈ openStatuses)
    (hne : (fills (!i)).fillId ≠ (fills i).fillId) (schedule : List Bool)
    (hget : w.store.get? id = some record)
    (hdone : ∃ r, (runFills env id fills nows schedule w).1 (!i) = .done r) :
    NoLostFill id fills (runFills env id fills nows schedule w).2.store ↔
      timesRecorded record.fills (fills i) = 1 := by
  have hfinal := single_writer hrec hnew (Or.inl hopen) schedule hget (Or.inl rfl) rfl hdone
  rw [OrderRecord.afterFill, if_neg (ne_filled_of_open hopen)] at hfinal
  rw [runFills, noLostFill_iff_of_get hfinal, OrderRecord.withFill_fills,
    OrderRecord.withFill_status, OrderRecord.withFill_intent, filledStatus_eq_filled_iff]
  constructor
  · rintro ⟨honce, -⟩
    have h := honce i
    rwa [timesRecorded_append, if_neg hne, Nat.add_zero] at h
  · intro honce
    refine ⟨fun k => ?_, Iff.rfl⟩
    by_cases hk : k = i
    · subst hk
      rw [timesRecorded_append, if_neg hne, honce]
    · obtain rfl : k = !i := Bool.eq_not_of_ne hk
      rw [timesRecorded_append, if_pos rfl, hnew]

theorem first_writes {i : Bool} (hnew : ∀ i, timesRecorded record.fills (fills i) = 0)
    (hopen : record.status ∈ openStatuses) (hne : ∀ i, (fills i).fillId ≠ (fills (!i)).fillId)
    (schedule : List Bool) (hget : w.store.get? id = some record)
    (hdone : ∃ r, (runFills env id fills nows (i :: i :: schedule) w).1 (!i) = .done r) :
    NoLostFill id fills (runFills env id fills nows (i :: i :: schedule) w).2.store ↔
      isFullyFilled (record.fills ++ [fills i]) record.intent.size = false := by
  set first := record.withFill (record.fills ++ [fills i]) record.intent.size (nows i)
  have hstep : runFills env id fills nows (i :: i :: schedule) w =
      runPool (handle env reliable) schedule
        (Function.update (fun i => processFill id (fills i) (nows i)) i
          ((appendFill id record (fills i) (nows i)).step (handle env reliable)
            (w.next w.store)).1)
        ((appendFill id record (fills i) (nows i)).step (handle env reliable)
          (w.next w.store)).2 := by
    unfold runFills
    simp only [runPool]
    rw [processFill_step_fresh hget hopen (hnew i), Function.update_self, Function.update_idem]
  have hstored : ((appendFill id record (fills i) (nows i)).step (handle env reliable)
      (w.next w.store)).2.store.get? id = some first := by
    rw [appendFill_step_store (w := w.next w.store) hget,
      if_pos (isValidStatusTransition_filledStatus hopen _ _)]
    exact OrderedMap.get?_set_self _ _ _
  have hstatus : first.status ∈ openStatuses ∨ first.status = .filled := by
    show filledStatus _ _ ∈ _ ∨ filledStatus _ _ = _
    unfold filledStatus
    split_ifs
    · exact Or.inr rfl
    · exact Or.inl (by decide)
  have hrec : timesRecorded first.fills (fills i) = 1 := by
    rw [OrderRecord.withFill_fills, timesRecorded_append, hnew i, if_pos rfl]
  have hnew' : timesRecorded first.fills (fills (!i)) = 0 := by
    rw [OrderRecord.withFill_fills, timesRecorded_append, hnew, if_neg (hne i)]
  rw [hstep] at hdone ⊢
  have hfinal := single_writer (by omega) hnew' hstatus schedule hstored
    (by rw [Function.update_self]; exact Or.inr (appendFill_step_quiet record))
    (Function.update_of_ne (Bool.not_ne_self i) _ _) hdone
  have hfull : first.status = .filled ↔
      isFullyFilled (record.fills ++ [fills i]) record.intent.size = true :=
    filledStatus_eq_filled_iff _ _
  by_cases h : isFullyFilled (record.fills ++ [fills i]) record.intent.size = true
  · rw [OrderRecord.afterFill, if_pos (hfull.2 h)] at hfinal
    refine iff_of_false ?_ (by simp [h])
    rw [noLostFill_iff_of_get hfinal]
    rintro ⟨honce, -⟩
    have h := honce (!i)
    omega
  · rw [OrderRecord.afterFill, if_neg (mt hfull.1 h)] at hfinal
    refine iff_of_true ?_ (by simpa using h)
    rw [noLostFill_iff_of_get hfinal]
    refine ⟨fun k => ?_, filledStatus_eq_filled_iff _ _⟩
    rw [OrderRecord.withFill_fills, timesRecorded_append]
    by_cases hk : k = i
    · subst hk
      rw [hrec, if_neg (hne k).symm]
    · obtain rfl : k = !i := Bool.eq_not_of_ne hk
      rw [hnew', if_pos rfl]

theorem both_new (hnew : ∀ i, timesRecorded record.fills (fills i) = 0)
    (hopen : record.status ∈ openStatuses) (hne : (fills false).fillId ≠ (fills true).fillId)
    (schedule : List Bool) (hget : w.store.get? id = some record)
    (hdone : ∀ i, ∃ r, (runFills env id fills nows schedule w).1 i = .done r) :
    NoLostFill id fills (runFills env id fills nows schedule w).2.store ↔
      ∃ i, schedule.take 2 = [i, i] ∧
        isFullyFilled (record.fills ++ [fills i]) record.intent.size = false := by
  have hne' : ∀ i, (fills i).fillId ≠ (fills (!i)).fillId := by
    rintro (_ | _)
    · exact hne
    · exact hne.symm
  match schedule with
  | [] =>
    obtain ⟨r, hr⟩ := hdone true
    exact absurd hr (processFill_ne_done r)
  | [i] =>
    obtain ⟨r, hr⟩ := hdone (!i)
    have hstart : (runFills env id fills nows [i] w).1 (!i) =
        processFill id (fills (!i)) (nows (!i)) := by
      unfold runFills
      simp only [runPool]
      rw [Function.update_of_ne (Bool.not_ne_self i)]
    exact absurd (hstart.symm.trans hr) (processFill_ne_done r)
  | i :: k :: rest =>
    by_cases hk : k = i
    · subst hk
      rw [first_writes hnew hopen hne' rest hget (hdone (!k))]
      constructor
      · exact fun h => ⟨k, rfl, h⟩
      · rintro ⟨j, hj, h⟩
        simp only [List.take_succ_cons, List.take_zero, List.cons.injEq, and_true] at hj
        rwa [hj.1]
    · refine iff_of_false ?_ ?_
      · obtain rfl : k = !i := Bool.eq_not_of_ne hk
        have hstep : runFills env id fills nows (i :: (!i) :: rest) w =
            runPool (handle env reliable) rest
              (Function.update (Function.update (fun i => processFill id (fills i) (nows i)) i
                (appendFill id record (fills i) (nows i))) (!i)
                (appendFill id record (fills (!i)) (nows (!i))))
              ((w.next w.store).next w.store) := by
          unfold runFills
          simp only [runPool]
          rw [processFill_step_fresh hget hopen (hnew i),
            Function.update_of_ne (Bool.not_ne_self i),
            processFill_step_fresh (w := w.next w.store) hget hopen (hnew (!i))]
          rfl
        rw [hstep]
        refine overlapping_reads nows hnew hne rest hget fun j => ?_
        by_cases hj : j = i
        · subst hj
          rw [Function.update_of_ne (Bool.not_ne_self j).symm, Function.update_self]
        · obtain rfl : j = !i := Bool.eq_not_of_ne hj
          rw [Function.update_self]
      · rintro ⟨j, hj, -⟩
        simp only [List.take_succ_cons, List.take_zero, List.cons.injEq, and_true] at hj
        exact hk (hj.2.trans hj.1.symm)

/-- Two calls on an open order that have both returned: no fill is lost exactly when

* both fills are new, the call that reads first also writes before the other reads, and its fill
  does not complete the order;
* or one is new and the other recorded once;
* or both are recorded once and the recorded fills do not reach the size. -/
theorem runFills_noLostFill_iff (env : Environment) (id : String) (fills : Bool → OrderFill)
    (nows : Bool → Date) (record : OrderRecord) (w : World)
    (hget : w.store.get? id = some record) (hopen : record.status ∈ openStatuses)
    (hne : (fills false).fillId ≠ (fills true).fillId) (schedule : List Bool)
    (hdone : ∀ i, ∃ r, (runFills env id fills nows schedule w).1 i = .done r) :
    NoLostFill id fills (runFills env id fills nows schedule w).2.store ↔
      ((∀ i, timesRecorded record.fills (fills i) = 0) ∧
        ∃ i, schedule.take 2 = [i, i] ∧
          isFullyFilled (record.fills ++ [fills i]) record.intent.size = false) ∨
      (∃ i, timesRecorded record.fills (fills i) = 1 ∧
        timesRecorded record.fills (fills (!i)) = 0) ∨
      ((∀ i, timesRecorded record.fills (fills i) = 1) ∧
        isFullyFilled record.fills record.intent.size = false) := by
  by_cases h0 : timesRecorded record.fills (fills false) = 0 <;>
    by_cases h1 : timesRecorded record.fills (fills true) = 0
  · rw [both_new (Bool.forall_bool.2 ⟨h0, h1⟩) hopen hne schedule hget hdone]
    simp [Bool.forall_bool, h0, h1]
  · rw [one_new (i := true) h1 h0 hopen hne schedule hget (hdone false)]
    simp [Bool.forall_bool, h0, h1]
  · rw [one_new (i := false) h0 h1 hopen hne.symm schedule hget (hdone true)]
    simp [Bool.forall_bool, h0, h1]
  · have hfinal := both_recorded env nows (Bool.forall_bool.2 ⟨h0, h1⟩) schedule hget
      fun i => Or.inl rfl
    rw [runFills, noLostFill_iff_of_get hfinal]
    simp [Bool.forall_bool, h0, h1, ne_filled_of_open hopen]

end

/-! ## Two halves of an order -/

/-- An order for two units that the venue has accepted. -/
def acceptedRecord : OrderRecord :=
  { OrderRecord.create sampleIntent with
    status := .submitted
    venueOrderId := some "venue-order-1" }

def acceptedWorld : World := ⟨OrderedMap.empty.set "order-1" acceptedRecord, 0⟩

def halfFills (i : Bool) : OrderFill where
  fillId := if i then "fill-2" else "fill-1"
  orderId := "venue-order-1"
  filledSize := 1
  fillPrice := 100
  fee := 0
  feeAsset := "USDC"
  filledAt := 0

/-- Both calls have returned. -/
def allDone (ts : Bool → ExecTask OrderRecord) : Bool :=
  [false, true].all fun i => match ts i with
    | .done _ => true
    | _ => false

theorem exists_done_of_allDone (h : allDone ts = true) (i : Bool) : ∃ r, ts i = .done r := by
  have hi := List.all_eq_true.1 h i (by cases i <;> simp)
  cases ht : ts i with
  | done r => exact ⟨r, rfl⟩
  | fail e | await c k => simp [ht] at hi

/-- The calls take turns: both return, and the first fill is lost. -/
theorem alternating_fills_lose_one :
    acceptedRecord.status ∈ openStatuses ∧
    (halfFills false).filledSize + (halfFills true).filledSize ≤ acceptedRecord.intent.size ∧
    allDone (runFills (sampleEnvironment .submitted 0) "order-1" halfFills (fun _ => 0)
      [false, true, false, true, false, true, false, true] acceptedWorld).1 = true ∧
    ¬ NoLostFill "order-1" halfFills
      (runFills (sampleEnvironment .submitted 0) "order-1" halfFills (fun _ => 0)
        [false, true, false, true, false, true, false, true] acceptedWorld).2.store := by
  refine ⟨by decide, by decide +kernel, by decide +kernel, ?_⟩
  rintro ⟨final, hfinal, honce, -⟩
  have hlost : ((runFills (sampleEnvironment .submitted 0) "order-1" halfFills (fun _ => 0)
      [false, true, false, true, false, true, false, true] acceptedWorld).2.store.get?
        "order-1").map (fun final => timesRecorded final.fills (halfFills false)) = some 0 := by
    decide +kernel
  rw [hfinal, Option.map_some, honce false] at hlost
  cases hlost

/-- One call after the other: both fills are recorded. -/
theorem runFills_noLostFill_one_after_the_other :
    NoLostFill "order-1" halfFills
      (runFills (sampleEnvironment .submitted 0) "order-1" halfFills (fun _ => 0)
        [false, false, false, false, true, true, true, true] acceptedWorld).2.store :=
  (runFills_noLostFill_iff (sampleEnvironment .submitted 0) "order-1" halfFills (fun _ => 0)
    acceptedRecord acceptedWorld (OrderedMap.get?_set_self _ _ _) (by decide) (by decide)
    [false, false, false, false, true, true, true, true]
    (exists_done_of_allDone (by decide +kernel))).2
    (Or.inl ⟨by decide +kernel, false, rfl, by decide +kernel⟩)

end SentinelApex
