import SentinelApex.Runtime.TreasuryCash
import SentinelApex.Runtime.TreasuryControl
import SentinelApex.Runtime.TreasuryMoves

/-!
# Moves of money under the control plane and the worker

The worker executes an action that is approved or queued, and an action is queued by the control
plane only if it is approved. But an approval is given whatever the status of the action is, and
the recovery of a bundle queues a child that shows no evidence of a venue effect; so an action that
has moved money may move it again (`approved_again`).

As long as no approval and no recovery gets through for such an action, every action moves money at
most once (`session_movesOnce`).
-/

namespace SentinelApex

open Async TreasuryWorld

/-! ## Calls -/

/-- Every call but those that approve, queue or execute a treasury action. -/
def ControlCall.keepsMoves : ControlCall → Prop
  | .treasury c => c.keepsMoves
  | _ => True

def ControlCall.updates (actionId : String) (c : ControlCall) : Prop :=
  c.keepsMoves ∨ c = .treasury (.approveTreasuryAction actionId) ∨
    ∃ commandId, c = .treasury (.queueTreasuryActionExecution actionId commandId)

section Calls

variable {env : ControlEnvironment} {w : ControlWorld} {c : ControlCall} {actionId : String}

theorem handleControl_treasury (hc : ∀ c', c ≠ .treasury c') :
    (handleControl env c w).2.treasury = w.treasury := by
  have hperform : (performShared env w c).2.treasury = w.treasury := by
    cases c with
    | treasury c => exact absurd rfl (hc c)
    | _ => rfl
  simp only [handleControl]
  split_ifs
  · exact hperform
  · split
    · exact hperform
    · rfl
    · exact hperform

theorem movedOnce_handleControl (hc : c.keepsMoves) (hw : w.treasury.MovedOnce) :
    (handleControl env c w).2.treasury.MovedOnce := by
  by_cases hpart : ∃ c', c = .treasury c'
  · obtain ⟨c', rfl⟩ := hpart
    exact movedOnce_handleTreasury hc hw
  · rw [handleControl_treasury fun c' h => hpart ⟨c', h⟩]
    exact hw

theorem unmoved_handleControl (hc : c.updates actionId) (hw : Unmoved actionId w.treasury) :
    Unmoved actionId (handleControl env c w).2.treasury := by
  rcases hc with hc | rfl | ⟨commandId, rfl⟩
  · by_cases hpart : ∃ c', c = .treasury c'
    · obtain ⟨c', rfl⟩ := hpart
      exact unmoved_handleTreasury hc hw
    · rw [handleControl_treasury fun c' h => hpart ⟨c', h⟩]
      exact hw
  · refine ⟨movedOnce_updateStatus hw.fresh (Or.inl rfl) hw.once, ?_⟩
    show actionId ∉ (handleTreasury env.treasury _ w.treasury).2.executed
    rw [executed_handleTreasury (by simp)]
    exact hw.fresh
  · refine ⟨movedOnce_updateStatus hw.fresh (Or.inr ⟨commandId, rfl⟩) hw.once, ?_⟩
    show actionId ∉ (handleTreasury env.treasury _ w.treasury).2.executed
    rw [executed_handleTreasury (by simp)]
    exact hw.fresh

/-- A part of a task that does not move money, and may approve and queue only an action that has not
moved any. -/
theorem run_unmoved {α : Type} {t : ControlTask α} (ht : t.Uses (ControlCall.updates actionId))
    (hw : Unmoved actionId w.treasury) :
    Unmoved actionId (t.run (handleControl env) w).2.treasury :=
  ht.run (h := handleControl env) (I := fun w => Unmoved actionId w.treasury)
    (fun _ _ hc hw => unmoved_handleControl hc hw) hw

theorem run_movedOnce {α : Type} {t : ControlTask α} (ht : t.Uses ControlCall.keepsMoves)
    (hw : w.treasury.MovedOnce) : (t.run (handleControl env) w).2.treasury.MovedOnce :=
  ht.run (h := handleControl env) (I := fun w => w.treasury.MovedOnce)
    (fun _ _ hc hw => movedOnce_handleControl hc hw) hw

theorem run_liftTreasury {α : Type} (t : TreasuryTask α) (env : ControlEnvironment)
    (w : ControlWorld) :
    ((liftTreasury t).run (handleControl env) w).2.treasury =
      (t.run (handleTreasury env.treasury) w.treasury).2 := by
  have hsim : ∀ (c : TreasuryCall) (s : TreasuryWorld) (s' : ControlWorld), s'.treasury = s →
      (handleControl env (.treasury c) s').1.map (fun r => r) =
          (handleTreasury env.treasury c s).1 ∧
        (handleControl env (.treasury c) s').2.treasury = (handleTreasury env.treasury c s).2 := by
    rintro c s s' rfl
    refine ⟨?_, rfl⟩
    show (handleTreasury env.treasury c s'.treasury).1.map _ = _
    cases (handleTreasury env.treasury c s'.treasury).1 <;> rfl
  exact (Task.embed_run (handleTreasury env.treasury) (handleControl env)
    (fun s s' => s'.treasury = s) hsim t rfl).2

end Calls

/-! ## Operations -/

variable (action : TreasuryAction)

theorem syncLinkedTreasuryBundle_keepsMoves :
    (liftTreasury (TreasuryRuntime.syncLinkedTreasuryBundle action)).Uses
      ControlCall.keepsMoves :=
  Task.Uses.embed (TreasuryRuntime.syncLinkedTreasuryBundle_uses
    (fun _ hc => TreasuryCall.keepsMoves_of_books (TreasuryCall.books_of_reads hc)) action)

theorem enqueueCommand_keepsMoves (commandId : String)
    (commandType : Runtime.RuntimeCommandType) (requestedBy : String) (payload : Runtime.Record)
    (now : Date) :
    (enqueueCommand commandId commandType requestedBy payload now).Uses ControlCall.keepsMoves :=
  Task.Uses.embed (Task.uses_of_forall (fun _ => trivial) _)

theorem recordApproval_uses (actionId actorId : String) :
    (recordApproval action actionId actorId).Uses (ControlCall.updates actionId) := by
  refine Task.Uses.call_bind (Or.inr (Or.inl rfl)) fun _ => ?_
  refine Task.Uses.call_bind (Or.inl trivial) fun approved => ?_
  refine Task.Uses.call_bind (Or.inl trivial) fun _ => ?_
  refine ((syncLinkedTreasuryBundle_keepsMoves action).mono fun _ hc => Or.inl hc).bind fun _ => ?_
  trivial

theorem recordEnqueue_uses (actionId actorId commandId : String) (now : Date) :
    (recordEnqueue action actionId actorId commandId now).Uses (ControlCall.updates actionId) := by
  refine ((enqueueCommand_keepsMoves _ _ _ _ _).mono fun _ hc => Or.inl hc).bind fun command => ?_
  refine Task.Uses.call_bind (Or.inr (Or.inr ⟨command.commandId, rfl⟩)) fun _ => ?_
  refine Task.Uses.call_bind (Or.inl trivial) fun _ => ?_
  refine ((syncLinkedTreasuryBundle_keepsMoves action).mono fun _ hc => Or.inl hc).bind fun _ => ?_
  trivial

namespace ControlWorld

def approves (w : ControlWorld) (actionId : String) (actorRole : OperatorRole) : Bool :=
  (w.treasury.tables.findAction actionId).any fun action =>
    !action.isBlocked && canSatisfyApprovalRequirement actorRole action.approvalRequirement

def recoveryCandidate (w : ControlWorld) (env : ControlEnvironment) (bundleId : String)
    (request : BundleRecoveryRequest) : Option BundleRecoveryCandidate :=
  (rebalanceBundle env w bundleId).bind fun detail =>
    detail.recoveryCandidates.find? fun candidate => candidate.matches request

/-- The control plane would queue the treasury child of the request. -/
def recovers (w : ControlWorld) (env : ControlEnvironment) (bundleId : String)
    (request : BundleRecoveryRequest) (actorRole : OperatorRole) : Bool :=
  decide (request.targetChildType = .treasuryAction) &&
    (w.recoveryCandidate env bundleId request).any fun candidate =>
      canSatisfyApprovalRequirement actorRole candidate.approvalRequirement && candidate.eligible

end ControlWorld

section Operations

variable {env : ControlEnvironment} {w : ControlWorld} {actionId : String}

theorem getTreasuryAction_ok {detail : Option TreasuryActionDetail}
    (h : (handleControl env (.treasury (.getTreasuryAction actionId)) w).1 = .ok detail) :
    detail = w.treasury.tables.getTreasuryAction actionId := by
  have htreasury : (handleTreasury env.treasury (.getTreasuryAction actionId) w.treasury).1 =
    .ok detail := h
  exact (Except.ok.inj (performTreasury_of_ok htreasury).1).symm

theorem getRebalanceBundle_ok {bundleId : String} {detail : Option RebalanceBundleDetail}
    (h : (handleControl env (.getRebalanceBundle bundleId) w).1 = .ok detail) :
    detail = rebalanceBundle env w bundleId := by
  simp only [handleControl, ControlCall.isPart, performShared, Bool.false_eq_true, if_false] at h
  split at h
  · exact (Except.ok.inj h).symm
  · cases h
  · cases h

theorem approveTreasuryAction_movedOnce (actorId : String) (actorRole : OperatorRole)
    (hw : w.treasury.MovedOnce)
    (hfresh : w.approves actionId actorRole = true → actionId ∉ w.treasury.executed) :
    ((approveTreasuryAction actionId actorId actorRole).run (handleControl env)
      w).2.treasury.MovedOnce := by
  have hread : (handleControl env (.treasury (.getTreasuryAction actionId))
      w).2.treasury.MovedOnce := movedOnce_handleControl trivial hw
  unfold approveTreasuryAction
  rw [Task.run_call_bind]
  cases hanswer : (handleControl env (.treasury (.getTreasuryAction actionId)) w).1 with
  | error message => exact hread
  | ok detail =>
    have hdetail := getTreasuryAction_ok hanswer
    cases detail with
    | none => exact hread
    | some detail =>
      obtain ⟨action, haction, rfl⟩ := Option.map_eq_some_iff.1 hdetail.symm
      dsimp only
      split_ifs with hblocked hrole
      · exact hread
      · exact hread
      · have hid : actionId ∉ w.treasury.executed := by
          apply hfresh
          have hrole : canSatisfyApprovalRequirement actorRole action.approvalRequirement =
            true := by simpa using hrole
          simp [ControlWorld.approves, haction, hblocked, hrole]
        have hunmoved : Unmoved actionId (handleControl env
            (.treasury (.getTreasuryAction actionId)) w).2.treasury :=
          unmoved_handleControl (Or.inl trivial) ⟨hw, hid⟩
        exact (run_unmoved (recordApproval_uses _ _ _) hunmoved).once

theorem enqueueTreasuryActionExecution_movedOnce (actorId : String) (actorRole : OperatorRole)
    (commandId : String) (now : Date) (hw : w.treasury.MovedOnce) :
    ((enqueueTreasuryActionExecution actionId actorId actorRole commandId now).run
      (handleControl env) w).2.treasury.MovedOnce := by
  have hread : (handleControl env (.treasury (.getTreasuryAction actionId))
      w).2.treasury.MovedOnce := movedOnce_handleControl trivial hw
  unfold enqueueTreasuryActionExecution
  rw [Task.run_call_bind]
  cases hanswer : (handleControl env (.treasury (.getTreasuryAction actionId)) w).1 with
  | error message => exact hread
  | ok detail =>
    have hdetail := getTreasuryAction_ok hanswer
    cases detail with
    | none => exact hread
    | some detail =>
      obtain ⟨action, haction, rfl⟩ := Option.map_eq_some_iff.1 hdetail.symm
      dsimp only
      split_ifs with hblocked hstatus hrole
      · exact hread
      · exact hread
      · exact hread
      · have hid : actionId ∉ w.treasury.executed := by
          intro hmem
          apply (hw.settled actionId hmem).notApproved
          rw [TreasuryTables.actionStatus, haction]
          exact congrArg some (not_not.1 hstatus)
        have hunmoved : Unmoved actionId (handleControl env
            (.treasury (.getTreasuryAction actionId)) w).2.treasury :=
          unmoved_handleControl (Or.inl trivial) ⟨hw, hid⟩
        exact (run_unmoved (recordEnqueue_uses _ _ _ _ _) hunmoved).once

theorem targets_of_find {candidates : List BundleRecoveryCandidate}
    {request : BundleRecoveryRequest} {candidate : BundleRecoveryCandidate}
    (h : candidates.find? (fun candidate => candidate.matches request) = some candidate) :
    candidate.targetChildType = request.targetChildType ∧
      candidate.targetChildId = request.targetChildId := by
  have hmatches := List.find?_some h
  simpa [BundleRecoveryCandidate.matches] using hmatches

variable (bundleId : String) (candidate : BundleRecoveryCandidate)
  (base : Runtime.RebalanceBundleRecoveryAction)
  (childId actorId recoveryActionId commandId : String)

theorem settleRecovery_keepsMoves (p : Runtime.BundleRecoveryPatch) (event : SleeveAuditEvent)
    (proposalId : String) (now : Date) :
    (settleRecovery base p event proposalId now).Uses ControlCall.keepsMoves := by
  refine Task.Uses.call_bind trivial fun updated => ?_
  refine Task.Uses.call_bind trivial fun _ => ?_
  refine Task.Uses.call_bind trivial fun _ => ?_
  trivial

theorem blockRecovery_keepsMoves (actorId : String) :
    (blockRecovery bundleId candidate base actorId).Uses ControlCall.keepsMoves := by
  refine Task.Uses.call_bind trivial fun _ => ?_
  refine Task.Uses.call_bind trivial fun _ => ?_
  trivial

theorem requeueCarryChild_keepsMoves (now : Date) :
    (requeueCarryChild childId actorId recoveryActionId commandId now).Uses
      ControlCall.keepsMoves := by
  refine Task.Uses.call_bind trivial fun detail => ?_
  cases detail with
  | none => trivial
  | some detail =>
    have hqueue : (do
        let command ← enqueueCommand commandId .executeCarryAction actorId
          (recoveryPayload "actionId" childId actorId recoveryActionId) now
        (ControlCall.queueCarryActionExecution childId command.commandId).send
        return command).Uses ControlCall.keepsMoves := by
      refine (enqueueCommand_keepsMoves _ _ _ _ _).bind fun command => ?_
      refine Task.Uses.call_bind trivial fun _ => ?_
      trivial
    dsimp only
    split_ifs
    · exact Task.Uses.call_bind trivial fun _ => hqueue
    · exact hqueue

/-- A treasury child is approved and queued under its own id. -/
theorem requeueTreasuryChild_unmoved (now : Date) (hw : Unmoved childId w.treasury) :
    Unmoved childId ((requeueTreasuryChild childId actorId recoveryActionId commandId now).run
      (handleControl env) w).2.treasury := by
  have hread : Unmoved childId (handleControl env (.treasury (.getTreasuryAction childId))
      w).2.treasury := unmoved_handleControl (Or.inl trivial) hw
  unfold requeueTreasuryChild
  rw [Task.run_call_bind]
  cases hanswer : (handleControl env (.treasury (.getTreasuryAction childId)) w).1 with
  | error message => exact hread
  | ok detail =>
    have hdetail := getTreasuryAction_ok hanswer
    cases detail with
    | none => exact hread
    | some detail =>
      obtain ⟨action, haction, rfl⟩ := Option.map_eq_some_iff.1 hdetail.symm
      have hid : action.id = childId := Rows.key_of_find haction
      have hqueue : (do
          let command ← enqueueCommand commandId .executeTreasuryAction actorId
            (recoveryPayload "treasuryActionId" childId actorId recoveryActionId) now
          (ControlCall.treasury (.queueTreasuryActionExecution childId command.commandId)).send
          return command).Uses (ControlCall.updates childId) := by
        refine ((enqueueCommand_keepsMoves _ _ _ _ _).mono fun _ hc => Or.inl hc).bind
          fun command => ?_
        refine Task.Uses.call_bind (Or.inr (Or.inr ⟨command.commandId, rfl⟩)) fun _ => ?_
        trivial
      refine run_unmoved ?_ hread
      dsimp only
      split_ifs
      · exact Task.Uses.call_bind (Or.inr (Or.inl (by rw [hid]))) fun _ => hqueue
      · exact hqueue

theorem run_tryCatch_keeps {α : Type} {I : TreasuryWorld → Prop} {t : ControlTask α}
    {guard : String → ControlTask α} (ht : I (t.run (handleControl env) w).2.treasury)
    (hguard : ∀ message w, I w.treasury →
      I ((guard message).run (handleControl env) w).2.treasury) :
    I ((t.tryCatch guard).run (handleControl env) w).2.treasury := by
  rw [Task.run_tryCatch]
  cases (t.run (handleControl env) w).1 with
  | ok a => exact ht
  | error message => exact hguard message _ ht

/-- The recovery of a child that is no treasury action, or that has not moved money. -/
theorem recoverChild_movedOnce (actorId commandId : String) (now : Date) (hw : w.treasury.MovedOnce)
    (hfresh : candidate.targetChildType = .treasuryAction → candidate.targetChildId ∉ w.treasury.executed) :
    ((recoverChild bundleId candidate base actorId commandId now).run (handleControl env)
      w).2.treasury.MovedOnce := by
  have hrequeue : ((requeueChild candidate actorId base.id commandId now).run (handleControl env)
      w).2.treasury.MovedOnce := by
    unfold requeueChild
    cases htype : candidate.targetChildType with
    | carryAction => exact run_movedOnce (requeueCarryChild_keepsMoves _ _ _ _ _) hw
    | treasuryAction =>
      exact (requeueTreasuryChild_unmoved _ _ _ _ _ ⟨hw, hfresh htype⟩).once
    | rebalanceProposal => exact hw
  apply run_tryCatch_keeps
  · rw [Task.run_bind]
    cases ((requeueChild candidate actorId base.id commandId now).run (handleControl env) w).1 with
    | ok command => exact run_movedOnce (settleRecovery_keepsMoves _ _ _ _ _) hrequeue
    | error message => exact hrequeue
  · exact fun _ _ hw => run_movedOnce (settleRecovery_keepsMoves _ _ _ _ _) hw

theorem requestRebalanceBundleRecoveryAction_movedOnce (request : BundleRecoveryRequest)
    (actorId : String) (actorRole : OperatorRole) (commandId : String) (now : Date)
    (hw : w.treasury.MovedOnce)
    (hfresh : w.recovers env bundleId request actorRole = true → request.targetChildId ∉ w.treasury.executed) :
    ((requestRebalanceBundleRecoveryAction bundleId request actorId actorRole commandId now).run
      (handleControl env) w).2.treasury.MovedOnce := by
  have hread : (handleControl env (.getRebalanceBundle bundleId) w).2.treasury = w.treasury :=
    handleControl_treasury (by simp)
  unfold requestRebalanceBundleRecoveryAction
  rw [Task.run_call_bind]
  cases hanswer : (handleControl env (.getRebalanceBundle bundleId) w).1 with
  | error message => exact hread ▸ hw
  | ok detail =>
    have hdetail := getRebalanceBundle_ok hanswer
    cases detail with
    | none => exact hread ▸ hw
    | some detail =>
      dsimp only
      split
      · exact hread ▸ hw
      · rename_i candidate hcandidate
        obtain ⟨htype, hid⟩ := targets_of_find hcandidate
        by_cases hrole : (!canSatisfyApprovalRequirement actorRole
            candidate.approvalRequirement) = true
        · rw [if_pos hrole]
          exact hread ▸ hw
        · have hrecovers : candidate.targetChildType = .treasuryAction →
              candidate.eligible = true → candidate.targetChildId ∉ w.treasury.executed := by
            intro htreasury heligible
            rw [hid]
            apply hfresh
            have hrole : canSatisfyApprovalRequirement actorRole candidate.approvalRequirement =
              true := by simpa using hrole
            simp [ControlWorld.recovers, ControlWorld.recoveryCandidate, ← hdetail, hcandidate,
              ← htype, htreasury, heligible, hrole]
          generalize (handleControl env (.getRebalanceBundle bundleId) w).2 = w' at hread ⊢
          have hcreated : (handleControl env (.createRebalanceBundleRecoveryAction
              (candidate.toInput now) now) w').2.treasury = w.treasury :=
            (handleControl_treasury (by simp)).trans hread
          rw [if_neg hrole, Task.run_call_bind]
          cases (handleControl env (.createRebalanceBundleRecoveryAction
              (candidate.toInput now) now) w').1 with
          | error message => exact hcreated ▸ hw
          | ok base =>
            dsimp only
            split_ifs with heligible
            · apply recoverChild_movedOnce
              · exact hcreated ▸ hw
              · intro htreasury
                rw [hcreated]
                exact hrecovers htreasury heligible
            · exact run_movedOnce (blockRecovery_keepsMoves _ _ _ _) (hcreated ▸ hw)

end Operations

/-! ## The worker -/

namespace ControlRuntime

variable (runtime : ControlRuntime) {env : ControlEnvironment} {w : ControlWorld}

variable (treasuryRunId : String) (now : Date)

theorem operate_movedOnce (operation : Runtime.RuntimeOperation) (hw : w.treasury.MovedOnce) :
    ((runtime.operate treasuryRunId now operation).run (handleControl env)
      w).2.treasury.MovedOnce := by
  cases operation with
  | executeTreasuryAction actionId actorId commandId startedBy =>
    have hmoved : ((liftTreasury (runtime.treasury.executeTreasuryAction
        { actionId, actorId, commandId := some commandId, startedBy } treasuryRunId)).run
          (handleControl env) w).2.treasury.MovedOnce := by
      rw [run_liftTreasury]
      exact runtime.treasury.executeTreasuryAction_movedOnce _ _ hw
    unfold operate
    rw [Task.run_bind]
    split
    · exact hmoved
    · exact hmoved
  | executeCarryAction actionId actorId commandId startedBy =>
    apply run_movedOnce ?_ hw
    exact Task.Uses.bind (Task.Uses.embed (Task.uses_of_forall (fun _ => trivial) _))
      fun _ => trivial
  | _ => exact run_movedOnce (Task.uses_call trivial) hw

theorem runStoreCall_movedOnce (c : Runtime.StoreCall) (hw : w.treasury.MovedOnce) :
    ((runtime.runStoreCall treasuryRunId now c).run (handleControl env)
      w).2.treasury.MovedOnce := by
  cases c with
  | operate operation => exact runtime.operate_movedOnce treasuryRunId now operation hw
  | _ => exact run_movedOnce (Task.uses_call trivial) hw

theorem runQueueCall_movedOnce (workerId : String) (c : Runtime.QueueCall)
    (hw : w.treasury.MovedOnce) :
    ((runtime.runQueueCall treasuryRunId now workerId c).run (handleControl env)
      w).2.treasury.MovedOnce := by
  cases c with
  | executeCommand command =>
    exact Task.expand_keeps (I := fun w : ControlWorld => w.treasury.MovedOnce)
      (fun c _ => runtime.runStoreCall_movedOnce treasuryRunId now c) _ hw
  | _ => exact run_movedOnce (Task.uses_call trivial) hw

theorem tick_movedOnce (workerId : String) (hw : w.treasury.MovedOnce) :
    ((runtime.tick treasuryRunId now workerId).run (handleControl env) w).2.treasury.MovedOnce :=
  Task.expand_keeps (I := fun w : ControlWorld => w.treasury.MovedOnce)
    (fun c _ => runtime.runQueueCall_movedOnce treasuryRunId now workerId c) _ hw

end ControlRuntime

/-! ## Sessions -/

/-- An approval or a recovery that gets through is about an action that has not moved money. -/
def ControlOperation.Fresh (env : ControlEnvironment) (w : ControlWorld) :
    ControlOperation → Prop
  | .approve actionId _ actorRole =>
    w.approves actionId actorRole = true → actionId ∉ w.treasury.executed
  | .enqueue .. => True
  | .recover bundleId request _ actorRole _ _ =>
    w.recovers env bundleId request actorRole = true → request.targetChildId ∉ w.treasury.executed
  | .tick .. => True

namespace ControlRuntime

variable (runtime : ControlRuntime) (env : ControlEnvironment)

/-- Every operation of the session is `Fresh` in the world in which it starts. -/
def EachFresh : List ControlOperation → ControlWorld → Prop
  | [], _ => True
  | operation :: operations, w =>
    operation.Fresh env w ∧ EachFresh operations (runtime.after env w operation)

variable {env} {w : ControlWorld}

theorem after_movedOnce {operation : ControlOperation} (hfresh : operation.Fresh env w)
    (hw : w.treasury.MovedOnce) : (runtime.after env w operation).treasury.MovedOnce := by
  cases operation with
  | approve actionId actorId actorRole =>
    exact approveTreasuryAction_movedOnce actorId actorRole hw hfresh
  | enqueue actionId actorId actorRole commandId now =>
    exact enqueueTreasuryActionExecution_movedOnce actorId actorRole commandId now hw
  | recover bundleId request actorId actorRole commandId now =>
    exact requestRebalanceBundleRecoveryAction_movedOnce _ _ _ _ _ _ hw hfresh
  | tick workerId treasuryRunId now =>
    exact runtime.tick_movedOnce treasuryRunId now workerId hw

theorem session_movedOnce {operations : List ControlOperation}
    (hfresh : runtime.EachFresh env operations w) (hw : w.treasury.MovedOnce) :
    (runtime.session env operations w).treasury.MovedOnce := by
  induction operations generalizing w with
  | nil => exact hw
  | cons operation operations ih =>
    exact ih hfresh.2 (runtime.after_movedOnce hfresh.1 hw)

/-- If no approval and no recovery gets through for an action that has moved money, then every
action moves money at most once, whatever fails. -/
theorem session_movesOnce (operations : List ControlOperation)
    (hstart : w.treasury.executed = []) (hfresh : runtime.EachFresh env operations w)
    (actionId : String) :
    (runtime.session env operations w).treasury.executed.count actionId ≤ 1 := by
  have hw : w.treasury.MovedOnce := by
    constructor
    · rw [hstart]
      exact List.nodup_nil
    · rw [hstart]
      intro id hmem
      cases hmem
  exact List.nodup_iff_count_le_one.1 (runtime.session_movedOnce hfresh hw).nodup actionId

/-! ### A deposit -/

def sampleControlRuntime : ControlRuntime where
  treasury := TreasuryRuntime.sampleTreasuryRuntime
  carry := { adapters := [] }
  readings _ :=
    { capturedAt := 0
      opportunityId := "opportunity-1"
      submit :=
        { start := 0, submittedAt := fun _ => 0, placedAt := fun _ => 0, completedAt := fun _ => 0
          failedAt := fun _ => 0 }
      filledAt := 0 }

/-- Nothing fails, and there are no bundles. -/
def sampleControlEnvironment : ControlEnvironment where
  treasury := TreasuryRuntime.sampleTreasuryEnvironment 100000
  carry :=
    { placeOrder := fun _ => .error "no venue"
      getOrder := fun _ => .error "no venue"
      cancelOrder := fun _ => .error "no venue"
      getPositions := fun _ => .error "no venue"
      venueViews := fun _ => .ok []
      refreshes := fun _ => .ok ()
      faults := fun _ => none
      clock := fun _ => 0 }
  runtime := { operate := fun _ _ => .ok [], faults := fun _ => none, others := fun _ => [] }
  bundles _ _ := none

/-- Two deposits are approved. -/
def sampleControlWorld : ControlWorld where
  treasury := TreasuryRuntime.sampleTreasuryWorld
  carry :=
    { tables :=
        { actions := [], plannedOrders := [], executions := [], steps := [], plans := [],
          legs := [], hedgeStates := [], guardrailConfigs := [], guardrailViolations := [],
          executionEvents := [], nextId := 0 }
      orders := { orders := [], fills := [], strategyRuns := [], nextId := 0 }
      accepted := []
      steps := 0
      calls := 0 }
  runtime := { db := Runtime.sampleQueue [], calls := 0 }

/-- The deposit `a` is queued by an admin and executed by the worker. -/
def sampleDepositOperations (commandId treasuryRunId : String) : List ControlOperation :=
  [.enqueue "a" "ops" .admin commandId 0, .tick "worker-1" treasuryRunId 0]

theorem session_movesOnce_sample :
    (sampleControlRuntime.session sampleControlEnvironment
        (.approve "a" "ops" .admin :: sampleDepositOperations "command-1" "run-1")
        sampleControlWorld).treasury.executed = ["a"] ∧
      (sampleControlRuntime.session sampleControlEnvironment
        (.approve "a" "ops" .admin :: sampleDepositOperations "command-1" "run-1")
        sampleControlWorld).treasury.executed.count "a" ≤ 1 := by
  refine ⟨by decide +kernel, sampleControlRuntime.session_movesOnce _ rfl ?_ "a"⟩
  exact ⟨fun _ => by decide, trivial, trivial, trivial⟩

/-- An action that is completed is approved again, and executed again. -/
theorem approved_again :
    ¬ ∀ (runtime : ControlRuntime) (env : ControlEnvironment) (operations : List ControlOperation)
        (w : ControlWorld), w.treasury.executed = [] → ∀ actionId,
          (runtime.session env operations w).treasury.executed.count actionId ≤ 1 := by
  intro honce
  have htwice := honce sampleControlRuntime sampleControlEnvironment
    (sampleDepositOperations "command-1" "run-1" ++
      .approve "a" "ops" .admin :: sampleDepositOperations "command-2" "run-2")
    sampleControlWorld rfl "a"
  have hcount : (sampleControlRuntime.session sampleControlEnvironment
      (sampleDepositOperations "command-1" "run-1" ++
        .approve "a" "ops" .admin :: sampleDepositOperations "command-2" "run-2")
      sampleControlWorld).treasury.executed = ["a", "a"] := by decide +kernel
  rw [hcount] at htwice
  exact absurd htwice (by decide)

end ControlRuntime

end SentinelApex
