import SentinelApex.Runtime.TreasuryStages

/-!
# Moves of money by treasury actions

An execution asks the venue only for an action that was approved or queued when it started, and the
action is marked as executing by then. So no action moves money twice as long as none that has moved
money is approved or queued again (`MovedOnce`).
-/

namespace SentinelApex

open Async

namespace TreasuryWorld

variable (w : TreasuryWorld)

structure Settled (actionId : String) : Prop where
  notApproved : w.tables.actionStatus actionId ≠ some .approved
  notQueued : w.tables.actionStatus actionId ≠ some .queued

/-- No action has moved money twice, and none that has would be executed. -/
structure MovedOnce : Prop where
  nodup : w.executed.Nodup
  settled : ∀ actionId ∈ w.executed, w.Settled actionId

end TreasuryWorld

open TreasuryWorld

/-- Every call but those that approve, queue or execute. -/
def TreasuryCall.keepsMoves : TreasuryCall → Prop
  | approveTreasuryAction _ => False
  | queueTreasuryActionExecution .. => False
  | executeTreasuryAction .. => False
  | _ => True

theorem TreasuryCall.keepsMoves_of_books {c : TreasuryCall} (hc : c.books) : c.keepsMoves := by
  cases c <;> trivial

namespace TreasuryTables

variable {tables : TreasuryTables} {actionId : String}

variable {s : ActionStatus}

theorem settled_updateAction {f : TreasuryAction → TreasuryAction} (status : ActionStatus)
    (hid : ∀ row, (f row).id = row.id) (hstatus : ∀ row, (f row).status = status) (updated : String)
    (hs : status ≠ s) (h : tables.actionStatus actionId ≠ some s) :
    (tables.updateAction updated f).actionStatus actionId ≠ some s := by
  rw [actionStatus_updateAction tables status hid hstatus]
  cases hrow : tables.actionStatus actionId with
  | none => simp
  | some current =>
    rw [hrow] at h
    by_cases hupdated : actionId = updated
    · simpa [hupdated] using hs
    · simpa [hupdated] using h

theorem settled_createTreasuryAction (input : TreasuryActionInput)
    (hs : ActionStatus.recommended ≠ s) (h : tables.actionStatus actionId ≠ some s) :
    (tables.createTreasuryAction input).2.actionStatus actionId ≠ some s := by
  unfold actionStatus findAction at h ⊢
  unfold createTreasuryAction Rows.find at *
  rw [List.find?_append]
  cases hrow : tables.actions.find? fun row => decide (row.id = actionId) with
  | some row =>
    rw [hrow] at h
    simpa using h
  | none =>
    simp only [Option.none_or, List.find?_singleton]
    split_ifs
    · exact fun hrow => hs (Option.some.inj hrow)
    · simp

theorem settled_createTreasuryActions (inputs : List TreasuryActionInput)
    (hs : ActionStatus.recommended ≠ s) (h : tables.actionStatus actionId ≠ some s) :
    (tables.createTreasuryActions inputs).actionStatus actionId ≠ some s := by
  unfold createTreasuryActions
  induction inputs generalizing tables with
  | nil => exact h
  | cons input inputs ih => exact ih (settled_createTreasuryAction input hs h)

end TreasuryTables

section Calls

variable {env : TreasuryEnvironment} {w : TreasuryWorld} {c : TreasuryCall} {actionId : String}

theorem executed_performTreasury (hc : ∀ id venueId request,
      c ≠ .executeTreasuryAction id venueId request) :
    (performTreasury env w c).2.executed = w.executed := by
  by_cases hreads : c.reads
  · rw [performTreasury_of_reads hreads]
  · cases c with
    | executeTreasuryAction id venueId request => exact absurd rfl (hc id venueId request)
    | getVenueState | getPosition | getCapabilities => exact absurd trivial hreads
    | _ => rfl

theorem settled_performTreasury (hc : c.keepsMoves) (hw : w.Settled actionId) :
    (performTreasury env w c).2.Settled actionId := by
  by_cases hreads : c.reads
  · rwa [performTreasury_of_reads hreads]
  · have hstep : ∀ s : ActionStatus, s = .approved ∨ s = .queued →
        w.tables.actionStatus actionId ≠ some s →
          (performTreasury env w c).2.tables.actionStatus actionId ≠ some s := by
      intro s hs h
      cases c with
      | approveTreasuryAction | queueTreasuryActionExecution | executeTreasuryAction =>
        exact hc.elim
      | markTreasuryActionExecuting id =>
        refine TreasuryTables.settled_updateAction .executing (by simp) (by simp) id ?_ h
        rcases hs with rfl | rfl <;> decide
      | completeTreasuryAction id executionId =>
        refine TreasuryTables.settled_updateAction .completed (by simp) (by simp) id ?_ h
        rcases hs with rfl | rfl <;> decide
      | failTreasuryAction id executionId message =>
        refine TreasuryTables.settled_updateAction .failed (by simp) (by simp) id ?_ h
        rcases hs with rfl | rfl <;> decide
      | createTreasuryAction input =>
        refine TreasuryTables.settled_createTreasuryAction input ?_ h
        rcases hs with rfl | rfl <;> decide
      | createTreasuryActions inputs =>
        refine TreasuryTables.settled_createTreasuryActions inputs ?_ h
        rcases hs with rfl | rfl <;> decide
      | createTreasuryExecution | updateTreasuryExecution | insertTreasuryRun
      | upsertTreasuryCurrent | setTreasuryCashBalanceUsd => exact h
      | _ => exact absurd trivial hreads
    exact ⟨hstep _ (Or.inl rfl) hw.notApproved, hstep _ (Or.inr rfl) hw.notQueued⟩

theorem executed_handleTreasury (hc : ∀ id venueId request,
      c ≠ .executeTreasuryAction id venueId request) :
    (handleTreasury env c w).2.executed = w.executed :=
  handleTreasury_keeps (I := fun w' => w'.executed = w.executed) (fun _ _ h => h) rfl
    (executed_performTreasury hc)

theorem movedOnce_handleTreasury (hc : c.keepsMoves) (hw : w.MovedOnce) :
    (handleTreasury env c w).2.MovedOnce := by
  have hexecuted : (handleTreasury env c w).2.executed = w.executed := by
    apply executed_handleTreasury
    rintro id venueId request rfl
    exact hc
  constructor
  · rw [hexecuted]
    exact hw.nodup
  · rw [hexecuted]
    intro actionId hmem
    exact handleTreasury_keeps (I := fun w => w.Settled actionId)
      (fun _ _ h => ⟨h.notApproved, h.notQueued⟩) (hw.settled actionId hmem)
      (settled_performTreasury hc (hw.settled actionId hmem))

variable {id : String}

theorem movedOnce_updateStatus (hid : id ∉ w.executed)
    (hc : c = .approveTreasuryAction id ∨ ∃ commandId, c = .queueTreasuryActionExecution id commandId)
    (hw : w.MovedOnce) : (handleTreasury env c w).2.MovedOnce := by
  have hperform : (performTreasury env w c).2.MovedOnce := by
    have hkept : ∀ (f : TreasuryAction → TreasuryAction) (status : ActionStatus),
        (∀ row, (f row).id = row.id) → (∀ row, (f row).status = status) →
          MovedOnce { w with tables := w.tables.updateAction id f } := by
      intro f status hfid hfstatus
      refine ⟨hw.nodup, fun actionId hmem => ?_⟩
      have hne : actionId ≠ id := fun h => hid (h ▸ hmem)
      have hsame : (w.tables.updateAction id f).actionStatus actionId =
          w.tables.actionStatus actionId := by
        rw [TreasuryTables.actionStatus_updateAction w.tables status hfid hfstatus]
        simp [hne]
      have hsettled := hw.settled actionId hmem
      exact ⟨fun h => hsettled.notApproved (hsame.symm.trans h),
        fun h => hsettled.notQueued (hsame.symm.trans h)⟩
    rcases hc with rfl | ⟨commandId, rfl⟩
    · exact hkept _ .approved (fun _ => rfl) fun _ => rfl
    · exact hkept _ .queued (fun _ => rfl) fun _ => rfl
  exact handleTreasury_keeps (I := MovedOnce)
    (fun _ _ h => ⟨h.nodup, fun id hmem => ⟨(h.settled id hmem).notApproved,
      (h.settled id hmem).notQueued⟩⟩) hw hperform

theorem movedOnce_executeTreasuryAction {venueId : String} {request : TreasuryVenueExecutionRequest}
    (hid : id ∉ w.executed) (hsettled : w.Settled id) (hw : w.MovedOnce) :
    (handleTreasury env (.executeTreasuryAction id venueId request) w).2.MovedOnce := by
  have hmoves : ∀ (venues : OrderedMap String SimulatedTreasuryVenue) (executed : List String),
      executed = w.executed ++ [id] ∨ executed = w.executed →
        MovedOnce { w with venues := venues, executed := executed } := by
    rintro venues executed (rfl | rfl)
    · constructor
      · exact List.nodup_append_comm.2 (List.nodup_cons.2 ⟨hid, hw.nodup⟩)
      · intro actionId hmem
        rcases List.mem_append.1 hmem with hmem | hmem
        · exact ⟨(hw.settled actionId hmem).notApproved, (hw.settled actionId hmem).notQueued⟩
        · obtain rfl := List.mem_singleton.1 hmem
          exact ⟨hsettled.notApproved, hsettled.notQueued⟩
    · exact ⟨hw.nodup, fun id hmem => ⟨(hw.settled id hmem).notApproved,
        (hw.settled id hmem).notQueued⟩⟩
  refine handleTreasury_keeps (I := MovedOnce)
    (fun _ _ h => ⟨h.nodup, fun id hmem => ⟨(h.settled id hmem).notApproved,
      (h.settled id hmem).notQueued⟩⟩) hw (hmoves _ _ ?_)
  split
  · exact Or.inl rfl
  · exact Or.inr rfl

/-- The task leaves the invariant, whether it returns or throws. -/
def Leaves (env : TreasuryEnvironment) (I : TreasuryWorld → Prop) {α : Type} (t : TreasuryTask α)
    (w : TreasuryWorld) : Prop :=
  t.wp (handleTreasury env) (fun _ => True) (fun _ => True) (fun _ => I) w

/-- The invariant, for an action that has not moved money. -/
structure Unmoved (id : String) (w : TreasuryWorld) : Prop where
  once : w.MovedOnce
  fresh : id ∉ w.executed

theorem unmoved_handleTreasury (hc : c.keepsMoves) (hw : Unmoved id w) :
    Unmoved id (handleTreasury env c w).2 := by
  refine ⟨movedOnce_handleTreasury hc hw.once, ?_⟩
  rw [executed_handleTreasury]
  · exact hw.fresh
  · rintro id venueId request rfl
    exact hc

theorem leaves_movedOnce {α : Type} {t : TreasuryTask α} (ht : t.Uses TreasuryCall.keepsMoves)
    (hw : w.MovedOnce) : Leaves env MovedOnce t w :=
  ht.wp (h := handleTreasury env) (fun _ _ hc hw => ⟨trivial, movedOnce_handleTreasury hc hw⟩) hw

theorem leaves_unmoved {α : Type} {t : TreasuryTask α} (ht : t.Uses TreasuryCall.keepsMoves)
    (hw : Unmoved id w) : Leaves env (Unmoved id) t w :=
  ht.wp (h := handleTreasury env) (fun _ _ hc hw => ⟨trivial, unmoved_handleTreasury hc hw⟩) hw

/-- After the mark the action would not be executed, if it exists. -/
theorem settled_markTreasuryActionExecuting {u : Unit}
    (hu : (handleTreasury env (.markTreasuryActionExecuting id) w).1 = .ok u) :
    (handleTreasury env (.markTreasuryActionExecuting id) w).2.Settled id := by
  rw [(performTreasury_of_ok hu).2]
  have hstatus : (w.tables.markTreasuryActionExecuting id).actionStatus id =
      (w.tables.actionStatus id).map fun _ => .executing := by
    have h := TreasuryTables.actionStatus_updateAction w.tables .executing
      (f := fun row => { row with status := .executing }) (by simp) (by simp) id id
    simp only [if_true] at h
    exact h
  constructor
  all_goals
    show (w.tables.markTreasuryActionExecuting id).actionStatus id ≠ _
    rw [hstatus]
    cases w.tables.actionStatus id <;> simp

namespace TreasuryRuntime

variable (runtime : TreasuryRuntime) {input : ExecuteTreasuryInput} {action : TreasuryAction}

/-- The venue is asked once, for an action that has not moved money and would not be executed. -/
theorem moveAtVenue_leaves (treasuryRunId executionId venueId : String)
    (portfolioState : PortfolioState) (intent : TreasuryExecutionIntent)
    (hw : Unmoved action.id w) (hsettled : w.Settled action.id) :
    Leaves env MovedOnce (runtime.moveAtVenue input treasuryRunId action executionId venueId
      portfolioState intent) w := by
  have hbooks : ∀ c : TreasuryCall, c.books → c.keepsMoves :=
    fun _ => TreasuryCall.keepsMoves_of_books
  apply Task.wp_tryCatch (I := MovedOnce)
  · have hmoved : (handleTreasury env (.executeTreasuryAction action.id venueId
        (venueRequest input action)) w).2.MovedOnce :=
      movedOnce_executeTreasuryAction hw.fresh hsettled hw.once
    apply Task.wp_call_bind
    · exact fun _ => trivial
    · intro _ result _
      apply leaves_movedOnce ?_ hmoved
      exact runtime.recordMove_uses hbooks input action (fun _ => trivial)
        (fun _ _ _ _ => runtime.runTreasuryEvaluation_uses hbooks (fun _ _ => trivial) _ _ _ _)
        treasuryRunId executionId portfolioState intent result
    · exact fun _ _ _ => hmoved
  · exact fun _ _ h => h
  · exact fun message w' hw' => leaves_movedOnce (failExecution_uses hbooks _ _ _ _) hw'

theorem executePlanned_leaves (treasuryRunId executionId : String)
    (portfolioState : PortfolioState) (intent : TreasuryExecutionIntent)
    (hw : Unmoved action.id w) :
    Leaves env MovedOnce (runtime.executePlanned input treasuryRunId action executionId
      portfolioState intent) w := by
  have hbooks : ∀ c : TreasuryCall, c.books → c.keepsMoves :=
    fun _ => TreasuryCall.keepsMoves_of_books
  have hmarked : Unmoved action.id (handleTreasury env (.markTreasuryActionExecuting action.id)
      w).2 := unmoved_handleTreasury trivial hw
  apply Task.wp_call_bind
  · exact fun _ => trivial
  · intro _ u hu
    have hsettled := settled_markTreasuryActionExecuting hu
    cases action.venueId with
    | none => exact leaves_movedOnce (refuseUntargeted_uses hbooks _ _ _) hmarked.once
    | some venueId =>
      dsimp only
      split_ifs
      · exact runtime.moveAtVenue_leaves treasuryRunId executionId venueId portfolioState intent
          hmarked hsettled
      · exact leaves_movedOnce (refuseUntargeted_uses hbooks _ _ _) hmarked.once
  · exact fun _ _ _ => hmarked.once

theorem executeAtVenue_leaves (treasuryRunId : String) (hw : Unmoved action.id w) :
    Leaves env MovedOnce (runtime.executeAtVenue input treasuryRunId action) w := by
  have hbooks : ∀ c : TreasuryCall, c.books → c.keepsMoves :=
    fun _ => TreasuryCall.keepsMoves_of_books
  have hreads : ∀ c : TreasuryCall, c.reads → c.keepsMoves :=
    fun c hc => hbooks c (TreasuryCall.books_of_reads hc)
  have hwhole {α : Type} {t : TreasuryTask α} {f : α → TreasuryTask ExecuteTreasuryResult}
      {w : TreasuryWorld} (ht : t.Uses TreasuryCall.keepsMoves) (hw : Unmoved action.id w)
      (hf : ∀ a w, Unmoved action.id w → Leaves env MovedOnce (f a) w) :
      Leaves env MovedOnce (t >>= f) w :=
    Task.wp_bind (leaves_unmoved ht hw) (fun a w' hw' => hf a w' hw') fun _ _ hw' => hw'.once
  refine hwhole (Task.uses_call (hreads .refreshPortfolio trivial)) hw fun portfolioState w₁ hw₁ => ?_
  refine hwhole (collectTreasuryVenueSnapshots_uses hreads _) hw₁ fun venueSnapshots w₂ hw₂ => ?_
  refine hwhole (runtime.collectTreasuryVenueCapabilities_uses hreads) hw₂
    fun venueCapabilities w₃ hw₃ => ?_
  refine hwhole (Task.uses_call trivial) hw₃ fun execution w₄ hw₄ => ?_
  split_ifs
  · exact runtime.executePlanned_leaves treasuryRunId execution.id portfolioState _ hw₄
  · exact leaves_movedOnce (refuseBlocked_uses hbooks _ _ _ _) hw₄.once

theorem executeTreasuryAction_movedOnce (input : ExecuteTreasuryInput) (treasuryRunId : String)
    (hw : w.MovedOnce) :
    ((runtime.executeTreasuryAction input treasuryRunId).run (handleTreasury env) w).2.MovedOnce := by
  have hbooks : ∀ c : TreasuryCall, c.books → c.keepsMoves :=
    fun _ => TreasuryCall.keepsMoves_of_books
  have hleaves : Leaves env MovedOnce (runtime.executeTreasuryAction input treasuryRunId) w := by
    have hread : (handleTreasury env (.getTreasuryAction input.actionId) w).2.MovedOnce :=
      movedOnce_handleTreasury trivial hw
    apply Task.wp_call_bind
    · exact fun _ => trivial
    · intro _ detail hdetail
      obtain ⟨hanswer, -⟩ := performTreasury_of_ok hdetail
      cases detail with
      | none => exact hread
      | some detail =>
        dsimp only
        split_ifs with hstatus hbudget
        · exact hread
        · exact leaves_movedOnce (applyBudget_uses hbooks _ _) hread
        · apply runtime.executeAtVenue_leaves
          obtain ⟨action, haction, rfl⟩ := Option.map_eq_some_iff.1 (Except.ok.inj hanswer)
          refine unmoved_handleTreasury trivial ⟨hw, fun hmem => ?_⟩
          -- The action is approved or queued, so it has not moved money.
          have hid : action.id = input.actionId := Rows.key_of_find haction
          have hrow : w.tables.actionStatus action.id = some action.status := by
            rw [hid, TreasuryTables.actionStatus, haction]
            rfl
          have hsettled := hw.settled action.id hmem
          apply hstatus
          constructor
          · exact fun h => hsettled.notQueued (hrow.trans (congrArg some h))
          · exact fun h => hsettled.notApproved (hrow.trans (congrArg some h))
    · exact fun _ _ _ => hread
  exact (Task.wp_sound hleaves fun _ _ => trivial).2

end TreasuryRuntime

end Calls

end SentinelApex
