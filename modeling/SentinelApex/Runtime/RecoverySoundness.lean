import SentinelApex.Runtime.ApprovalRaces
import SentinelApex.Runtime.CarryEvidence

/-!
# Soundness of recovery candidates

Proposals, carry actions and treasury actions are executed one after the other, under any faults,
and operators decide on them in between. A child of a bundle is eligible for recovery if no
reference speaks for an effect of it. A reference is stored some calls after the effect, and one of
these may fail (`eligible_after_accepted_order`).

In every run in which no call fails that leaves an effect without evidence, a child that is eligible
has had no effect in any state reached (`eligible_unexecuted`).
-/

namespace SentinelApex

open Async ChildLedger

/-! ## Ledgers of both sleeves -/

namespace RebalanceWorld

variable (w : RebalanceWorld)

/-- There is evidence of every effect in both sleeves. -/
def Recorded : Prop :=
  w.control.carry.ledger.Recorded ∧ w.control.treasury.ledger.Recorded

instance : Decidable w.Recorded := inferInstanceAs (Decidable (_ ∧ _))

/-- There is evidence of every effect of a child that could be queued again. -/
def Safe : Prop := w.control.carry.ledger.Safe ∧ w.control.treasury.ledger.Safe

/-- An order of the carry action was accepted by an adapter, or an adapter has executed the treasury
action. -/
def HasEffect : BundleRecoveryTarget → String → Prop
  | .carryAction, id => id ∈ w.control.carry.ledger.effects
  | .treasuryAction, id => id ∈ w.control.treasury.ledger.effects
  | .rebalanceProposal, _ => False

def candidates (bundle : RebalanceBundle) (runtimeStatus : Runtime.RuntimeStatus) :
    List BundleRecoveryCandidate :=
  buildRebalanceBundleRecoveryCandidates bundle runtimeStatus w.control.carry.tables
    w.control.treasury.tables

/-- No child that is eligible for recovery has had an effect. -/
def RecoversUnexecuted : Prop :=
  ∀ bundle runtimeStatus, ∀ candidate ∈ w.candidates bundle runtimeStatus,
    candidate.eligible = true → ¬ w.HasEffect candidate.targetChildType candidate.targetChildId

variable {w}

theorem Recorded.safe (h : w.Recorded) : w.Safe := ⟨h.1.safe, h.2.safe⟩

theorem Recorded.of_control {w' : RebalanceWorld} (h : w.Recorded) (hw' : w'.control = w.control) :
    w'.Recorded := by
  rw [Recorded, hw']
  exact h

end RebalanceWorld

/-- A carry child with evidence shows it. -/
theorem hasExecutionSideEffects_of_evident {w : CarryWorld} {action : CarryAction}
    (h : action.id ∈ w.ledger.evidence) :
    RebalanceCarryActionNode.hasExecutionSideEffects
      { action
        executions := w.tables.executionsOf action.id
        steps := w.tables.steps.filter fun step => decide (step.carryActionId = action.id) } =
      true := by
  rw [RebalanceCarryActionNode.hasExecutionSideEffects, Bool.or_eq_true]
  rcases mem_evidence.1 h with ⟨step, hstep, hreference, hid⟩ |
    ⟨execution, hexecution, hreference, hid⟩
  · refine Or.inr (List.any_eq_true.2 ⟨step, ?_, ?_⟩)
    · exact List.mem_filter.2 ⟨hstep, decide_eq_true hid⟩
    · rw [RebalanceCarryActionNode.stepProgressed, hreference]
      rfl
  · refine Or.inl (List.any_eq_true.2 ⟨execution, ?_, hreference⟩)
    exact List.mem_reverse.2 (List.mem_filter.2 ⟨hexecution, decide_eq_true hid⟩)

theorem hasSideEffects_of_evident {w : TreasuryWorld} {action : TreasuryAction}
    (h : action.id ∈ w.ledger.evidence) :
    RebalanceTreasuryActionNode.hasSideEffects
      { action, executions := w.tables.executionsOf action.id } = true := by
  obtain ⟨execution, hexecution, hid⟩ := List.mem_map.1 h
  obtain ⟨hmem, hreference⟩ := List.mem_filter.1 hexecution
  refine List.any_eq_true.2 ⟨execution, ?_, hreference⟩
  exact List.mem_reverse.2 (List.mem_filter.2 ⟨hmem, decide_eq_true hid⟩)

namespace RebalanceWorld

variable {w : RebalanceWorld}

/-- A safe ledger gives no evidence away: what is eligible has had no effect. -/
theorem Safe.recoversUnexecuted (h : w.Safe) : w.RecoversUnexecuted := by
  intro bundle runtimeStatus candidate hcandidate heligible heffect
  unfold candidates buildRebalanceBundleRecoveryCandidates at hcandidate
  rcases List.mem_append.1 hcandidate with hchild | hproposal
  · rcases List.mem_append.1 hchild with hcarry | htreasury
    · obtain ⟨action, haction, rfl⟩ := List.mem_map.1 hcarry
      obtain ⟨hmem, hlinked⟩ := List.mem_filter.1 haction
      obtain ⟨hretryable, hnone⟩ := RecoveryChild.retryable_of_blockedBy heligible
      have hrow : (action.id, action.status) ∈ w.control.carry.ledger.rows :=
        List.mem_map_of_mem (List.mem_filter.2 ⟨hmem, by rw [of_decide_eq_true hlinked]; rfl⟩)
      have hevident := h.1 _ hrow hretryable heffect
      exact Bool.false_ne_true (hnone.symm.trans (hasExecutionSideEffects_of_evident hevident))
    · obtain ⟨action, haction, rfl⟩ := List.mem_map.1 htreasury
      obtain ⟨hmem, hlinked⟩ := List.mem_filter.1 haction
      obtain ⟨hretryable, hnone⟩ := RecoveryChild.retryable_of_blockedBy heligible
      have hrow : (action.id, action.status) ∈ w.control.treasury.ledger.rows :=
        List.mem_map_of_mem (List.mem_filter.2 ⟨hmem, by rw [of_decide_eq_true hlinked]; rfl⟩)
      have hevident := h.2 _ hrow hretryable heffect
      exact Bool.false_ne_true (hnone.symm.trans (hasSideEffects_of_evident hevident))
  · obtain rfl := List.mem_singleton.1 hproposal
    exact heffect

end RebalanceWorld

/-! ## Calls -/

/-- Every call but those of the executor, those that move money at a venue, and those that take a
reference away. -/
def RebalanceCall.quiet : RebalanceCall → Prop
  | .control (.carry c) => c.quiet
  | .control (.treasury c) => c.quiet
  | _ => True

/-- What the call throws leaves the executor of orders, if it is one of its calls. -/
def RebalanceCall.escapes (w : RebalanceWorld) : RebalanceCall → Bool
  | .control (.carry c) => c.escapes w.control.carry.orders
  | _ => true

/-- A call throws, the executor does not catch it, and an effect is left without evidence. -/
def LosesEffect (e : RebalanceEvent) : Prop :=
  e.threw = true ∧ e.call.escapes e.before = true ∧ ¬ e.after.Recorded

instance (e : RebalanceEvent) : Decidable (LosesEffect e) := inferInstanceAs (Decidable (_ ∧ _))

section Calls

variable {env : RebalanceEnvironment} {w : RebalanceWorld}

theorem control_syncBundle (w : RebalanceWorld) (proposalId : String) :
    (w.syncBundle proposalId).control = w.control := by
  unfold RebalanceWorld.syncBundle
  split <;> rfl

theorem control_handleRebalance (env : RebalanceEnvironment) (w : RebalanceWorld)
    (c : ControlCall) :
    (handleRebalance env (.control c) w).2.control =
      (handleControl env.control c w.control).2 := by
  show (performRebalance env w (.control c)).2.control = _
  rcases performRebalance_control env w c with h | h
  · rw [h]
  · rw [h]
    unfold RebalanceWorld.afterControl
    split
    · exact control_syncBundle _ _
    · exact control_syncBundle _ _
    · rfl

theorem insertPlanned_rest (proposalId : String) (drafts : List CarryAction)
    (tables : CarryTables) :
    (insertPlanned proposalId drafts tables).2.executions = tables.executions ∧
      (insertPlanned proposalId drafts tables).2.steps = tables.steps := by
  induction drafts generalizing tables with
  | nil => exact ⟨rfl, rfl⟩
  | cons draft drafts ih => exact ih _

theorem recorded_withCarryTables {tables : CarryTables} (hw : w.Recorded)
    (htables : tables.executions = w.control.carry.tables.executions ∧
      tables.steps = w.control.carry.tables.steps) : (w.withCarryTables tables).Recorded := by
  refine ⟨fun id hid => ?_, hw.2⟩
  have hevident := hw.1 id hid
  rw [mem_evidence] at hevident ⊢
  show (∃ step ∈ tables.steps, _) ∨ ∃ execution ∈ tables.executions, _
  rwa [htables.1, htables.2]

section

variable {env : ControlEnvironment} {w : ControlWorld} {c : ControlCall}
  (hc : (RebalanceCall.control c).quiet) (hcarry : w.carry.ledger.Recorded)
  (htreasury : w.treasury.ledger.Recorded)

include hc hcarry htreasury

theorem recorded_performShared :
    (performShared env w c).2.carry.ledger.Recorded ∧
      (performShared env w c).2.treasury.ledger.Recorded := by
  cases c with
  | treasury c => exact ⟨hcarry, htreasury.grows (grows_handleTreasury hc)⟩
  | carry c => exact ⟨hcarry.grows (grows_handleCarry hc), htreasury⟩
  | _ => exact ⟨hcarry, htreasury⟩

theorem recorded_handleControl :
    (handleControl env c w).2.carry.ledger.Recorded ∧
      (handleControl env c w).2.treasury.ledger.Recorded := by
  have hperform : (performShared env w c).2.carry.ledger.Recorded ∧
      (performShared env w c).2.treasury.ledger.Recorded :=
    recorded_performShared hc hcarry htreasury
  simp only [handleControl]
  split_ifs
  · exact hperform
  · split
    · exact hperform
    · exact ⟨hcarry, htreasury⟩
    · exact hperform

end

theorem recorded_handleRebalance {c : RebalanceCall} (hc : c.quiet) (hw : w.Recorded) :
    (handleRebalance env c w).2.Recorded := by
  by_cases hcontrol : ∃ c', c = .control c'
  · obtain ⟨c, rfl⟩ := hcontrol
    rw [RebalanceWorld.Recorded, control_handleRebalance]
    exact recorded_handleControl hc hw.1 hw.2
  · obtain ⟨n, hn | ⟨hn, -⟩⟩ := handleRebalance_cases env c w
    · rw [hn]
      show (performRebalance env w c).2.Recorded
      cases c with
      | control c => exact absurd ⟨c, rfl⟩ hcontrol
      | runCarryEvaluation proposalId sourceRunId targetUsd
      | createCarryActions proposalId notionalUsd =>
        exact recorded_withCarryTables hw (insertPlanned_rest _ _ _)
      | syncRebalanceBundleForProposal id => exact hw.of_control (control_syncBundle w id)
      | _ => exact hw
    · rw [hn]
      exact hw

end Calls

/-! ## Executions in the larger world -/

/-- If no call loses an effect, then the ledgers are safe throughout, and there is evidence of every
effect at the end. -/
abbrev KeepsRecorded (env : RebalanceEnvironment) {α : Type} (t : RebalanceTask α) : Prop :=
  ∀ w : RebalanceWorld, w.Recorded → t.wp (handleRebalance env) (fun e => ¬ LosesEffect e)
    (fun e => e.after.Safe) (fun _ w => w.Recorded) w

section Lift

variable {env : RebalanceEnvironment}

variable {α : Type}

theorem keepsRecorded_quiet {t : RebalanceTask α} (ht : t.Uses RebalanceCall.quiet) :
    KeepsRecorded env t := by
  refine fun _ hw => ht.wp (I := RebalanceWorld.Recorded) (fun c w hc hw => ?_) hw
  have hafter : (handleRebalance env c w).2.Recorded := recorded_handleRebalance hc hw
  exact ⟨hafter.safe, hafter⟩

def controlHandler (env : RebalanceEnvironment) :
    Handler ControlCall ControlCall.Reply String RebalanceWorld := fun c =>
  handleRebalance env (.control c)

theorem keepsRecorded_liftControl {t : ControlTask α}
    (ht : ∀ w : RebalanceWorld, w.Recorded →
      t.wp (controlHandler env) (fun e => ¬ LosesEffect ⟨e.before, .control e.call, e.reply,
      e.after⟩) (fun e => e.after.Safe) (fun _ w => w.Recorded) w) :
    KeepsRecorded env (liftControl t) := by
  intro w hw
  refine Task.embed_wp (fun s s' => s' = s) ?_ ?_ ?_ ?_ rfl (ht w hw)
  · rintro c s _ rfl
    exact ⟨congrFun Except.map_id _, rfl⟩
  · rintro c s _ rfl h
    exact h
  · rintro c s _ rfl - h
    exact h
  · rintro r s _ rfl h
    exact h

theorem controlHandler_carry (env : RebalanceEnvironment) (c : CarryCall) (w : RebalanceWorld) :
    (controlHandler env (.carry c) w).1 = (handleCarry env.control.carry c w.control.carry).1 ∧
      (controlHandler env (.carry c) w).2.control =
        { w.control with carry := (handleCarry env.control.carry c w.control.carry).2 } :=
  ⟨handleRebalance_control env w _, control_handleRebalance env w _⟩

theorem controlHandler_treasury (env : RebalanceEnvironment) (c : TreasuryCall)
    (w : RebalanceWorld) :
    (controlHandler env (.treasury c) w).1 =
        (handleTreasury env.control.treasury c w.control.treasury).1 ∧
      (controlHandler env (.treasury c) w).2.control =
        { w.control with
          treasury := (handleTreasury env.control.treasury c w.control.treasury).2 } :=
  ⟨handleRebalance_control env w _, control_handleRebalance env w _⟩

/-- A carry task, while there is evidence of the effects of the treasury. -/
theorem keepsRecorded_liftCarry {t : CarryTask α}
    (ht : CarryLeads env.control.carry (fun w => w.ledger.Recorded) (fun _ w => w.ledger.Recorded)
      t) :
    KeepsRecorded env (liftControl (liftCarry t)) := by
  refine keepsRecorded_liftControl fun w hw => ?_
  refine Task.embed_wp
    (fun s s' => s'.control.carry = s ∧ s'.control.treasury.ledger.Recorded) ?_ ?_ ?_ ?_
    ⟨rfl, hw.2⟩ (ht w.control.carry hw.1)
  · rintro c s s' ⟨rfl, htreasury⟩
    obtain ⟨hreply, hafter⟩ := controlHandler_carry env c s'
    rw [hreply, hafter]
    exact ⟨congrFun Except.map_id _, rfl, htreasury⟩
  · rintro c s s' ⟨rfl, -⟩ hkept ⟨hthrew, hescapes, hrecorded⟩
    obtain ⟨hreply, hafter⟩ := controlHandler_carry env c s'
    refine hkept ⟨?_, hescapes, fun hafterRecorded => hrecorded ?_⟩
    · rw [Event.threw, hreply]
      exact hthrew
    · have hcarry := hafterRecorded.1
      rw [hafter] at hcarry
      exact hcarry
  · rintro c s s' - ⟨hcarry, htreasury⟩ hsafe
    refine ⟨?_, htreasury.safe⟩
    rw [hcarry]
    exact hsafe
  · rintro r s s' ⟨rfl, htreasury⟩ hend
    cases r with
    | ok a | error e => exact ⟨hend, htreasury⟩

/-- A treasury task, while there is evidence of the effects of the carry sleeve. -/
theorem keepsRecorded_liftTreasury {t : TreasuryTask α}
    (ht : TreasuryLeads env.control.treasury (fun w => w.ledger.Recorded) (fun _ w =>
      w.ledger.Recorded) t) :
    KeepsRecorded env (liftControl (liftTreasury t)) := by
  refine keepsRecorded_liftControl fun w hw => ?_
  refine Task.embed_wp
    (fun s s' => s'.control.treasury = s ∧ s'.control.carry.ledger.Recorded) ?_ ?_ ?_ ?_
    ⟨rfl, hw.1⟩ (ht w.control.treasury hw.2)
  · rintro c s s' ⟨rfl, hcarry⟩
    obtain ⟨hreply, hafter⟩ := controlHandler_treasury env c s'
    rw [hreply, hafter]
    exact ⟨congrFun Except.map_id _, rfl, hcarry⟩
  · rintro c s s' ⟨rfl, -⟩ hkept ⟨hthrew, hrecorded⟩
    obtain ⟨hreply, hafter⟩ := controlHandler_treasury env c s'
    refine hkept ⟨?_, rfl, fun hafterRecorded => hrecorded ?_⟩
    · rw [Event.threw, hreply]
      exact hthrew
    · have htreasury := hafterRecorded.2
      rw [hafter] at htreasury
      exact htreasury
  · rintro c s s' - ⟨htreasury, hcarry⟩ hsafe
    refine ⟨hcarry.safe, ?_⟩
    rw [htreasury]
    exact hsafe
  · rintro r s s' ⟨rfl, hcarry⟩ hend
    cases r with
    | ok a | error e => exact ⟨hcarry, hend⟩

end Lift

/-! ## Operations without effects -/

section Quiet

/-- The calls that the control plane issues: they are quiet in the larger world. -/
abbrev ControlCall.quiet (c : ControlCall) : Prop := (RebalanceCall.control c).quiet

variable (actionId actorId : String) (actorRole : OperatorRole) (commandId : String)

theorem enqueueCommand_quiet (commandType : Runtime.RuntimeCommandType) (requestedBy : String)
    (payload : Runtime.Record) (now : Date) :
    (enqueueCommand commandId commandType requestedBy payload now).Uses ControlCall.quiet :=
  Task.Uses.embed (Task.uses_of_forall (fun _ => trivial) _)

theorem syncTreasuryBundle_quiet (action : TreasuryAction) :
    (liftTreasury (TreasuryRuntime.syncLinkedTreasuryBundle action)).Uses ControlCall.quiet :=
  Task.Uses.embed (TreasuryRuntime.syncLinkedTreasuryBundle_quiet action)

theorem changeProposal_quiet (proposalId : String) {c : RebalanceCall} (hc : c.quiet) :
    (changeProposal proposalId c).Uses RebalanceCall.quiet :=
  uses_changeProposal hc trivial trivial

/-! ### Proposals -/

theorem failProposal_quiet (proposalId executionId message : String) :
    (failProposal proposalId executionId message).Uses RebalanceCall.quiet := by
  refine (changeProposal_quiet proposalId (by trivial)).bind fun _ => ?_
  exact Task.Uses.call_bind trivial fun _ => trivial

namespace RebalanceContext

variable (ctx : RebalanceContext)

theorem applyCarry_quiet (sourceRunId : Option String) :
    (ctx.applyCarry sourceRunId).Uses RebalanceCall.quiet := by
  unfold RebalanceContext.applyCarry
  split_ifs
  · trivial
  · refine Task.Uses.call_bind trivial fun _ => ?_
    exact Task.Uses.call_bind trivial fun _ => trivial
  · refine Task.Uses.call_bind trivial fun _ => ?_
    refine Task.Uses.call_bind trivial fun _ => ?_
    refine Task.Uses.call_bind trivial fun _ => ?_
    exact Task.Uses.call_bind trivial fun _ => trivial

theorem recordTreasury_quiet (treasuryRunId : String) :
    (ctx.recordTreasury treasuryRunId).Uses RebalanceCall.quiet := by
  have hupdate (p : TreasuryExecutionPatch) (hp : p.venueExecutionReference = none)
      (executionId : String) :
      (RebalanceCall.control (.treasury (.updateTreasuryExecution executionId p))).quiet := by
    simp [RebalanceCall.quiet, TreasuryCall.quiet, hp]
  refine Task.Uses.call_bind trivial fun action => ?_
  refine Task.Uses.call_bind trivial fun _ => ?_
  cases ctx.input.commandId with
  | none =>
    refine Task.Uses.call_bind trivial fun _ => ?_
    refine Task.Uses.call_bind trivial fun execution => ?_
    refine Task.Uses.call_bind (hupdate _ rfl _) fun _ => ?_
    exact Task.Uses.call_bind trivial fun _ => trivial
  | some commandId =>
    refine Task.Uses.call_bind trivial fun _ => ?_
    refine Task.Uses.call_bind trivial fun _ => ?_
    refine Task.Uses.call_bind trivial fun execution => ?_
    refine Task.Uses.call_bind (hupdate _ rfl _) fun _ => ?_
    exact Task.Uses.call_bind trivial fun _ => trivial

theorem applyTreasury_quiet : ctx.applyTreasury.Uses RebalanceCall.quiet := by
  unfold RebalanceContext.applyTreasury
  split_ifs
  · trivial
  · refine Task.Uses.call_bind trivial fun treasuryRunId => ?_
    cases treasuryRunId with
    | none => trivial
    | some treasuryRunId => exact ctx.recordTreasury_quiet treasuryRunId

theorem complete_quiet (carryIds treasuryIds : List String) :
    (ctx.complete carryIds treasuryIds).Uses RebalanceCall.quiet := by
  refine Task.Uses.call_bind trivial fun _ => ?_
  refine (changeProposal_quiet _ (by trivial)).bind fun _ => ?_
  refine Task.Uses.call_bind trivial fun _ => ?_
  exact Task.Uses.call_bind trivial fun _ => trivial

theorem apply_quiet : ctx.apply.Uses RebalanceCall.quiet := by
  refine Task.Uses.call_bind trivial fun _ => ?_
  refine Task.Uses.call_bind trivial fun decision => ?_
  refine (ctx.applyCarry_quiet _).bind fun carryIds => ?_
  refine ctx.applyTreasury_quiet.bind fun treasuryIds => ?_
  show Task.Uses _ (if _ then _ else _)
  split_ifs
  · exact Task.Uses.call_bind trivial fun _ => ctx.complete_quiet carryIds treasuryIds
  · exact ctx.complete_quiet carryIds treasuryIds

end RebalanceContext

/-- A proposal plans and records, but it neither submits orders nor moves money. -/
theorem executeRebalanceProposal_quiet (input : ExecuteRebalanceInput) :
    (executeRebalanceProposal input).Uses RebalanceCall.quiet := by
  refine Task.Uses.call_bind trivial fun detail => ?_
  cases detail with
  | none => trivial
  | some detail =>
    show Task.Uses _ (if _ then _ else _)
    split_ifs
    · trivial
    · refine Task.Uses.call_bind trivial fun execution => ?_
      unfold runRebalance
      split_ifs
      · exact failProposal_quiet _ _ _
      · refine (changeProposal_quiet _ (by trivial)).bind fun _ => ?_
        split
        · exact RebalanceContext.apply_quiet _
        · exact Task.Uses.call_bind trivial fun _ => failProposal_quiet _ _ _

theorem approveRebalanceProposal_quiet (proposalId actorId : String) (actorRole : OperatorRole)
    (commandId : String) (now : Date) :
    (approveRebalanceProposal proposalId actorId actorRole commandId now).Uses
      RebalanceCall.quiet := by
  refine Task.Uses.call_bind trivial fun detail => ?_
  cases detail with
  | none => trivial
  | some detail =>
    dsimp only
    split_ifs
    · trivial
    · trivial
    · trivial
    · refine (changeProposal_quiet _ (by trivial)).bind fun _ => ?_
      refine Task.Uses.bind (Task.Uses.embed (enqueueCommand_quiet _ _ _ _ _)) fun command => ?_
      refine (changeProposal_quiet _ (by trivial)).bind fun _ => ?_
      exact Task.Uses.call_bind trivial fun _ => trivial

/-! ### Actions -/

theorem approveCarryAction_quiet (now : Date) :
    (approveCarryAction actionId actorId actorRole commandId now).Uses RebalanceCall.quiet := by
  have hchange (c : ControlCall) (hc : c.quiet) :
      (changeCarryAction actionId c).Uses RebalanceCall.quiet :=
    Task.Uses.call_bind hc fun _ => Task.Uses.call_bind trivial fun _ => trivial
  refine Task.Uses.call_bind trivial fun detail => ?_
  cases detail with
  | none => trivial
  | some detail =>
    dsimp only
    split_ifs
    · trivial
    · trivial
    · trivial
    · refine (hchange _ (by trivial)).bind fun _ => ?_
      refine Task.Uses.bind (Task.Uses.embed (enqueueCommand_quiet _ _ _ _ _)) fun command => ?_
      refine (hchange _ (by trivial)).bind fun _ => ?_
      refine Task.Uses.call_bind trivial fun _ => ?_
      cases detail.action.linkedRebalanceProposalId with
      | none => trivial
      | some proposalId => exact Task.Uses.call_bind trivial fun _ => trivial

theorem approveTreasuryAction_quiet :
    (approveTreasuryAction actionId actorId actorRole).Uses ControlCall.quiet := by
  refine Task.Uses.call_bind trivial fun detail => ?_
  cases detail with
  | none => trivial
  | some detail =>
    dsimp only
    split_ifs
    · trivial
    · trivial
    · refine Task.Uses.call_bind trivial fun _ => ?_
      refine Task.Uses.call_bind trivial fun approved => ?_
      refine Task.Uses.call_bind trivial fun _ => ?_
      exact (syncTreasuryBundle_quiet detail.action).bind fun _ => trivial

theorem enqueueTreasuryActionExecution_quiet (now : Date) :
    (enqueueTreasuryActionExecution actionId actorId actorRole commandId now).Uses
      ControlCall.quiet := by
  refine Task.Uses.call_bind trivial fun detail => ?_
  cases detail with
  | none => trivial
  | some detail =>
    dsimp only
    split_ifs
    · trivial
    · trivial
    · trivial
    · refine (enqueueCommand_quiet _ _ _ _ _).bind fun command => ?_
      refine Task.Uses.call_bind trivial fun _ => ?_
      refine Task.Uses.call_bind trivial fun _ => ?_
      exact (syncTreasuryBundle_quiet detail.action).bind fun _ => trivial

/-! ### Recovery -/

theorem requeueChild_quiet (candidate : BundleRecoveryCandidate)
    (actorId recoveryActionId commandId : String) (now : Date) :
    (requeueChild candidate actorId recoveryActionId commandId now).Uses ControlCall.quiet := by
  have hqueue (commandType : Runtime.RuntimeCommandType) (payload : Runtime.Record)
      (c : String → ControlCall) (hc : ∀ commandId, (c commandId).quiet) : (do
        let command ← enqueueCommand commandId commandType actorId payload now
        let _ ← (c command.commandId).send
        return command).Uses ControlCall.quiet := by
    refine (enqueueCommand_quiet _ _ _ _ _).bind fun command => ?_
    exact Task.Uses.call_bind (hc _) fun _ => trivial
  unfold requeueChild
  split
  · refine Task.Uses.call_bind trivial fun detail => ?_
    cases detail with
    | none => trivial
    | some detail =>
      dsimp only
      split_ifs
      · exact Task.Uses.call_bind trivial fun _ =>
          hqueue _ _ (fun commandId => .queueCarryActionExecution _ commandId) fun _ => trivial
      · exact hqueue _ _ (fun commandId => .queueCarryActionExecution _ commandId) fun _ => trivial
  · refine Task.Uses.call_bind trivial fun detail => ?_
    cases detail with
    | none => trivial
    | some detail =>
      dsimp only
      split_ifs
      · exact Task.Uses.call_bind trivial fun _ => hqueue _ _
          (fun commandId => .treasury (.queueTreasuryActionExecution _ commandId)) fun _ => trivial
      · exact hqueue _ _
          (fun commandId => .treasury (.queueTreasuryActionExecution _ commandId)) fun _ => trivial
  · trivial

theorem requestRebalanceBundleRecoveryAction_quiet (bundleId : String)
    (request : BundleRecoveryRequest) (actorId : String) (actorRole : OperatorRole)
    (commandId : String) (now : Date) :
    (requestRebalanceBundleRecoveryAction bundleId request actorId actorRole commandId now).Uses
      ControlCall.quiet := by
  have hsettle (base : Runtime.RebalanceBundleRecoveryAction) (p : Runtime.BundleRecoveryPatch)
      (event : SleeveAuditEvent) (proposalId : String) :
      (settleRecovery base p event proposalId now).Uses ControlCall.quiet := by
    refine Task.Uses.call_bind trivial fun updated => ?_
    refine Task.Uses.call_bind trivial fun _ => ?_
    exact Task.Uses.call_bind trivial fun _ => trivial
  refine Task.Uses.call_bind trivial fun detail => ?_
  cases detail with
  | none => trivial
  | some detail =>
    dsimp only
    cases detail.recoveryCandidates.find? fun candidate => candidate.matches request with
    | none => trivial
    | some candidate =>
      dsimp only
      split_ifs
      · trivial
      · refine Task.Uses.call_bind trivial fun base => ?_
        refine Task.Uses.tryCatch ?_ fun message => hsettle _ _ _ _
        exact (requeueChild_quiet _ _ _ _ _).bind fun command => hsettle _ _ _ _
      · refine Task.Uses.call_bind trivial fun base => ?_
        refine Task.Uses.call_bind trivial fun _ => ?_
        exact Task.Uses.call_bind trivial fun _ => trivial

end Quiet

/-! ## Runs -/

/-- An execution, or what an operator does between two of them. -/
inductive SleeveOperation where
  | executeProposal (input : ExecuteRebalanceInput)
  | executeCarry (input : ExecuteCarryInput) (readings : ℕ → StepReadings) (now : Date)
  | executeTreasury (input : ExecuteTreasuryInput) (treasuryRunId : String)
  | approveProposal (proposalId actorId : String) (actorRole : OperatorRole) (commandId : String)
      (now : Date)
  | approveCarry (actionId actorId : String) (actorRole : OperatorRole) (commandId : String)
      (now : Date)
  | approveTreasury (actionId actorId : String) (actorRole : OperatorRole)
  | enqueueTreasury (actionId actorId : String) (actorRole : OperatorRole) (commandId : String)
      (now : Date)
  | recover (bundleId : String) (request : BundleRecoveryRequest) (actorId : String)
      (actorRole : OperatorRole) (commandId : String) (now : Date)

structure SleeveRuntime where
  carry : SentinelRuntime
  treasury : TreasuryRuntime

namespace SleeveRuntime

variable (runtime : SleeveRuntime)

def task : SleeveOperation → RebalanceTask Unit
  | .executeProposal input => do
    let _ ← executeRebalanceProposal input
  | .executeCarry input readings now => do
    let _ ← liftControl (liftCarry (executeCarryAction runtime.carry input readings now))
  | .executeTreasury input treasuryRunId => do
    let _ ← liftControl (liftTreasury (runtime.treasury.executeTreasuryAction input treasuryRunId))
  | .approveProposal proposalId actorId actorRole commandId now => do
    let _ ← approveRebalanceProposal proposalId actorId actorRole commandId now
  | .approveCarry actionId actorId actorRole commandId now => do
    let _ ← approveCarryAction actionId actorId actorRole commandId now
  | .approveTreasury actionId actorId actorRole => do
    let _ ← liftControl (approveTreasuryAction actionId actorId actorRole)
  | .enqueueTreasury actionId actorId actorRole commandId now => do
    let _ ← liftControl (enqueueTreasuryActionExecution actionId actorId actorRole commandId now)
  | .recover bundleId request actorId actorRole commandId now => do
    let _ ← liftControl (requestRebalanceBundleRecoveryAction bundleId request actorId actorRole
      commandId now)

/-- The calls of a run, in order. -/
def events (env : RebalanceEnvironment) (operations : List SleeveOperation) (w : RebalanceWorld) :
    List RebalanceEvent :=
  traceAll (handleRebalance env) (operations.map runtime.task) w

variable {runtime} {env : RebalanceEnvironment}

theorem keepsRecorded_forget {α : Type} {t : RebalanceTask α} (ht : KeepsRecorded env t) :
    KeepsRecorded env (t >>= fun _ => pure ()) := fun w hw =>
  Task.wp_bind (ht w hw) (fun _ _ hw => hw) fun _ _ hw => hw

theorem task_keepsRecorded (operation : SleeveOperation) :
    KeepsRecorded env (runtime.task operation) := by
  cases operation with
  | executeProposal input =>
    exact keepsRecorded_forget (keepsRecorded_quiet (executeRebalanceProposal_quiet input))
  | executeCarry input readings now =>
    exact keepsRecorded_forget (keepsRecorded_liftCarry
      (executeCarryAction_leads runtime.carry input readings now))
  | executeTreasury input treasuryRunId =>
    exact keepsRecorded_forget (keepsRecorded_liftTreasury
      (runtime.treasury.executeTreasuryAction_leads treasuryRunId))
  | approveProposal proposalId actorId actorRole commandId now =>
    exact keepsRecorded_forget (keepsRecorded_quiet
      (approveRebalanceProposal_quiet proposalId actorId actorRole commandId now))
  | approveCarry actionId actorId actorRole commandId now =>
    exact keepsRecorded_forget (keepsRecorded_quiet
      (approveCarryAction_quiet actionId actorId actorRole commandId now))
  | approveTreasury actionId actorId actorRole =>
    exact keepsRecorded_forget (keepsRecorded_quiet
      (Task.Uses.embed (approveTreasuryAction_quiet actionId actorId actorRole)))
  | enqueueTreasury actionId actorId actorRole commandId now =>
    exact keepsRecorded_forget (keepsRecorded_quiet (Task.Uses.embed
      (enqueueTreasuryActionExecution_quiet actionId actorId actorRole commandId now)))
  | recover bundleId request actorId actorRole commandId now =>
    exact keepsRecorded_forget (keepsRecorded_quiet (Task.Uses.embed
      (requestRebalanceBundleRecoveryAction_quiet bundleId request actorId actorRole commandId
        now)))

/-- In a run in which no call loses an effect, a child that is eligible for recovery has had no
effect, in every state reached. -/
theorem eligible_unexecuted (runtime : SleeveRuntime) (env : RebalanceEnvironment)
    (operations : List SleeveOperation) (w : RebalanceWorld) (hw : w.Recorded)
    (hkept : ∀ e ∈ runtime.events env operations w, ¬ LosesEffect e) :
    w.RecoversUnexecuted ∧
      ∀ e ∈ runtime.events env operations w, e.after.RecoversUnexecuted := by
  refine ⟨hw.safe.recoversUnexecuted, fun e he => ?_⟩
  have hsafe : e.after.Safe := by
    refine traceAll_forall_of_wp (handleRebalance env) (G := fun e => e.after.Safe)
      (I := RebalanceWorld.Recorded) ?_ hw hkept e he
    intro t ht w hw
    obtain ⟨operation, -, rfl⟩ := List.mem_map.1 ht
    exact task_keepsRecorded operation w hw
  exact hsafe.recoversUnexecuted

/-! ### An order -/

/-- A completed proposal with a queued carry action, and one order of this action. -/
def sampleSleeveWorld : RebalanceWorld :=
  { sampleRebalanceWorld with
    control :=
      { ControlRuntime.sampleControlWorld with
        carry :=
          { oneOrderWorld with
            tables :=
              { oneOrderTables with
                actions := oneOrderTables.actions.map fun action =>
                  { action with linkedRebalanceProposalId := some "p" } } } }
    tables :=
      { sampleRebalanceWorld.tables with
        proposals := [{ sampleProposal with status := .completed }] } }

/-- Every venue fills every order, and the calls of the carry sleeve fail as given. -/
def fillingEnvironment (faults : ℕ → Option StoreFault) : RebalanceEnvironment :=
  { sampleRebalanceEnvironment with
    control :=
      { ControlRuntime.sampleControlEnvironment with
        carry := { answeringEnvironment .filled with faults } } }

def sampleSleeveRuntime : SleeveRuntime where
  carry := { adapters := ["drift"] }
  treasury := TreasuryRuntime.sampleTreasuryRuntime

def sampleExecution : List SleeveOperation := [.executeCarry sampleCarryInput sampleReadings 0]

/-- The order is accepted, and no call fails. -/
theorem eligible_unexecuted_sample :
    (∃ e ∈ sampleSleeveRuntime.events (fillingEnvironment fun _ => none) sampleExecution
        sampleSleeveWorld, e.after.control.carry.ledger.effects = ["action-1"]) ∧
      ∀ e ∈ sampleSleeveRuntime.events (fillingEnvironment fun _ => none) sampleExecution
        sampleSleeveWorld, e.after.RecoversUnexecuted := by
  refine ⟨by decide +kernel, ?_⟩
  exact (eligible_unexecuted sampleSleeveRuntime (fillingEnvironment fun _ => none)
    sampleExecution sampleSleeveWorld (by decide +kernel) (by decide +kernel)).2

def sampleFailedBundle : RebalanceBundle where
  id := "bundle-1"
  proposalId := "p"
  status := .failed
  executionMode := .dryRun
  simulated := true
  proposalStatus := .completed
  approvalRequirement := .operator

/-- The store loses the update of the step after its order was accepted. The bundle is stored as
failed, and the action is eligible. -/
theorem eligible_after_accepted_order :
    ¬ ∀ (runtime : SleeveRuntime) (env : RebalanceEnvironment) (operations : List SleeveOperation)
        (w : RebalanceWorld), w.Recorded →
          ∀ e ∈ runtime.events env operations w, e.after.RecoversUnexecuted := by
  intro hunexecuted
  let env := fillingEnvironment fun n =>
    if n = 15 then some (.requestLost "connection lost") else none
  let runtimeStatus : Runtime.RuntimeStatus := { halted := false, lifecycleState := .ready }
  have hreached : ∃ e ∈ sampleSleeveRuntime.events env sampleExecution sampleSleeveWorld,
      (e.after.tables.bundleSnapshot "p").map (fun snapshot => snapshot.status) = some .failed ∧
        ∃ candidate ∈ e.after.candidates sampleFailedBundle runtimeStatus,
          candidate.eligible = true ∧ candidate.targetChildType = .carryAction ∧
            candidate.targetChildId ∈ e.after.control.carry.ledger.effects := by
    decide +kernel
  obtain ⟨e, he, -, candidate, hcandidate, heligible, htype, heffect⟩ := hreached
  refine hunexecuted sampleSleeveRuntime env sampleExecution sampleSleeveWorld (by decide +kernel)
    e he sampleFailedBundle runtimeStatus candidate hcandidate heligible ?_
  rw [htype]
  exact heffect

end SleeveRuntime

end SentinelApex
