import SentinelApex.Runtime.RebalanceExecution

/-!
# Decisions of the operators

The operations of the control plane that decide on a rebalance proposal or on a carry action. Each
of them reads the row, checks its status, and writes the decision with a later statement; an approval
then enqueues the command that executes what it approved, and moves the row to `queued`.
-/

namespace SentinelApex

open Async
open SentinelApex.Runtime (RuntimeCommand RuntimeCommandType)

/-! ## Operations -/

/-- The proposal is not executable, or there are reasons against it. -/
def RebalanceProposalRow.isBlocked (proposal : RebalanceProposalRow) : Bool :=
  !proposal.executable || !proposal.blockedReasons.isEmpty

def CarryAction.isBlocked (action : CarryAction) : Bool :=
  !action.executable || !action.blockedReasons.isEmpty

def proposalStatusError (verb : String) (status : RebalanceProposalStatus) : String :=
  s!"Rebalance proposal cannot be {verb} from status \"{status.text}\"."

def carryStatusError (status : ActionStatus) : String :=
  s!"Carry action cannot be approved from status \"{status.text}\"."

/-- The approval of a proposal that passes the checks. -/
def startProposal (proposal : RebalanceProposalRow) (proposalId actorId commandId : String)
    (now : Date) : RebalanceTask (Option RuntimeCommand) := do
  let _ ← changeProposal proposalId (.approveRebalanceProposal proposalId actorId)
  let command ← liftControl (enqueueCommand commandId .executeRebalanceProposal actorId
    [("proposalId", .str proposalId), ("actorId", .str actorId)] now)
  let _ ← changeProposal proposalId (.queueRebalanceProposalExecution proposalId command.commandId)
  auditRebalance (operatorEvent "allocator.rebalance_approved" actorId "allocator"
    [("proposalId", .str proposalId), ("allocatorRunId", .str proposal.allocatorRunId),
      ("commandId", .str command.commandId)])
  return some command

def approveRebalanceProposal (proposalId actorId : String) (actorRole : OperatorRole)
    (commandId : String) (now : Date) : RebalanceTask (Option RuntimeCommand) := do
  match ← (RebalanceCall.getRebalanceProposal proposalId).send with
  | none => pure none
  | some detail =>
    if detail.proposal.isBlocked then .fail "Rebalance proposal is blocked and cannot be approved."
    else if !canSatisfyApprovalRequirement actorRole detail.proposal.approvalRequirement then
      .fail (s!"Rebalance proposal requires {detail.proposal.approvalRequirement.text} " ++
        "approval.")
    else if detail.proposal.status ≠ .proposed then
      .fail (proposalStatusError "approved" detail.proposal.status)
    else startProposal detail.proposal proposalId actorId commandId now

def recordRejection (proposal : RebalanceProposalRow) (proposalId actorId reason : String) :
    RebalanceTask (Option RebalanceProposalRow) := do
  let rejected ← changeProposal proposalId (.rejectRebalanceProposal proposalId actorId reason)
  auditRebalance (operatorEvent "allocator.rebalance_rejected" actorId "allocator"
    [("proposalId", .str proposalId), ("allocatorRunId", .str proposal.allocatorRunId),
      ("reason", .str reason)])
  return rejected

def rejectRebalanceProposal (proposalId actorId : String) (actorRole : OperatorRole)
    (reason : String) : RebalanceTask (Option RebalanceProposalRow) := do
  match ← (RebalanceCall.getRebalanceProposal proposalId).send with
  | none => pure none
  | some detail =>
    if !canSatisfyApprovalRequirement actorRole detail.proposal.approvalRequirement then
      .fail (s!"Rebalance proposal requires {detail.proposal.approvalRequirement.text} " ++
        "approval.")
    else if detail.proposal.status ≠ .proposed then
      .fail (proposalStatusError "rejected" detail.proposal.status)
    else recordRejection detail.proposal proposalId actorId reason

/-- A change of a carry action: the statement and the read of the row. -/
def changeCarryAction (actionId : String) (c : ControlCall) :
    RebalanceTask (Option CarryAction) := do
  let _ ← (RebalanceCall.control c).send
  let detail ← (RebalanceCall.control (.carry (.getCarryAction actionId))).send
  return detail.map fun detail => detail.action

/-- The approval of an action that passes the checks. -/
def startCarryAction (action : CarryAction) (actionId actorId commandId : String) (now : Date) :
    RebalanceTask (Option RuntimeCommand) := do
  let _ ← changeCarryAction actionId (.approveCarryAction actionId)
  let command ← liftControl (enqueueCommand commandId .executeCarryAction actorId
    [("actionId", .str actionId), ("actorId", .str actorId)] now)
  let _ ← changeCarryAction actionId (.queueCarryActionExecution actionId command.commandId)
  auditRebalance (operatorEvent "carry.action_approved" actorId "carry"
    [("carryActionId", .str actionId), ("commandId", .str command.commandId)])
  match action.linkedRebalanceProposalId with
  | none => pure ()
  | some proposalId => (RebalanceCall.syncRebalanceBundleForProposal proposalId).send
  return some command

def approveCarryAction (actionId actorId : String) (actorRole : OperatorRole)
    (commandId : String) (now : Date) : RebalanceTask (Option RuntimeCommand) := do
  match ← (RebalanceCall.control (.carry (.getCarryAction actionId))).send with
  | none => pure none
  | some detail =>
    if detail.action.isBlocked then .fail "Carry action is blocked and cannot be approved."
    else if !canSatisfyApprovalRequirement actorRole detail.action.approvalRequirement then
      .fail s!"Carry action requires {detail.action.approvalRequirement.text} approval."
    else if detail.action.status ≠ .recommended then
      .fail (carryStatusError detail.action.status)
    else startCarryAction detail.action actionId actorId commandId now

/-! ## Targets -/

/-- What an operator decides on. -/
inductive DecisionTarget where
  | proposal (proposalId : String)
  | carryAction (actionId : String)
  deriving DecidableEq, Repr

/-- Where a target stands: no decision has been written, it was rejected, or it has
gone further. -/
inductive Standing where
  | undecided
  | rejected
  | underway
  deriving DecidableEq, Repr

def RebalanceProposalStatus.standing : RebalanceProposalStatus → Standing
  | .proposed => .undecided
  | .rejected => .rejected
  | _ => .underway

def ActionStatus.standing : ActionStatus → Standing
  | .recommended => .undecided
  | _ => .underway

/-- Where a target stands, and what the checks of an approval look at. -/
structure DecisionView where
  standing : Standing
  blocked : Bool
  requirement : ApprovalRequirement
  deriving DecidableEq

def RebalanceProposalRow.view (row : RebalanceProposalRow) : DecisionView :=
  ⟨row.status.standing, row.isBlocked, row.approvalRequirement⟩

def CarryAction.view (row : CarryAction) : DecisionView :=
  ⟨row.status.standing, row.isBlocked, row.approvalRequirement⟩

namespace RebalanceWorld

variable (w : RebalanceWorld)

def view : DecisionTarget → Option DecisionView
  | .proposal id => (w.tables.findProposal id).map RebalanceProposalRow.view
  | .carryAction id => (w.control.carry.tables.findAction id).map CarryAction.view

def standing (target : DecisionTarget) : Option Standing :=
  (w.view target).map fun v => v.standing

/-- The target exists, and an approval in the role passes the checks but that of the status. -/
def approvable (target : DecisionTarget) (actorRole : OperatorRole) : Bool :=
  (w.view target).any fun v => !v.blocked && canSatisfyApprovalRequirement actorRole v.requirement

end RebalanceWorld

/-! ## What the calls do to the targets -/

def RebalanceCall.settles : RebalanceCall → Option (DecisionTarget × Standing)
  | .approveRebalanceProposal id _ => some (.proposal id, .underway)
  | .rejectRebalanceProposal id _ _ => some (.proposal id, .rejected)
  | .queueRebalanceProposalExecution id _ => some (.proposal id, .underway)
  | .markRebalanceProposalExecuting id => some (.proposal id, .underway)
  | .completeRebalanceProposal id _ => some (.proposal id, .underway)
  | .failRebalanceProposal id _ _ => some (.proposal id, .underway)
  | .control (.approveCarryAction id) => some (.carryAction id, .underway)
  | .control (.queueCarryActionExecution id _) => some (.carryAction id, .underway)
  | _ => none

/-- Calls that leave the proposals and the carry actions, though they may insert actions. -/
def RebalanceCall.keepsRows : RebalanceCall → Bool
  | .control (.treasury _) => true
  | .control (.store _) => true
  | .control (.carry (.getCarryAction _)) => true
  | .control _ => false
  | .approveRebalanceProposal .. => false
  | .rejectRebalanceProposal .. => false
  | .queueRebalanceProposalExecution .. => false
  | .markRebalanceProposalExecuting _ => false
  | .completeRebalanceProposal .. => false
  | .failRebalanceProposal .. => false
  | _ => true

theorem handleRebalance_cases (env : RebalanceEnvironment) (c : RebalanceCall)
    (w : RebalanceWorld) :
    ∃ n, (handleRebalance env c w).2 = { (performRebalance env w c).2 with calls := n } ∨
      (handleRebalance env c w).2 = { w with calls := n } ∧
        (handleRebalance env c w).1.isOk = false := by
  refine ⟨w.calls + 1, ?_⟩
  unfold handleRebalance
  cases (if c.faultless then none else env.faults w.calls) with
  | none => exact Or.inl rfl
  | some fault =>
    cases fault with
    | requestLost message => exact Or.inr ⟨rfl, rfl⟩
    | answerLost message => exact Or.inl rfl

variable {v : DecisionView} {c : ControlCall} {standing : Standing}

section Views

variable {env : RebalanceEnvironment} {w : RebalanceWorld} {target : DecisionTarget}

theorem view_syncBundle (w : RebalanceWorld) (proposalId : String) (target : DecisionTarget) :
    (w.syncBundle proposalId).view target = w.view target := by
  unfold RebalanceWorld.syncBundle
  cases w.executionGraph proposalId with
  | none => rfl
  | some graph =>
    have hput : ∀ snapshot, (w.tables.putBundle proposalId snapshot).proposals =
        w.tables.proposals := by
      intro snapshot
      unfold RebalanceTables.putBundle
      split_ifs <;> rfl
    cases target with
    | proposal id =>
      show (RebalanceTables.findProposal _ id).map _ = (RebalanceTables.findProposal _ id).map _
      rw [RebalanceTables.findProposal, hput, RebalanceTables.findProposal]
    | carryAction id => rfl

theorem view_afterControl (w : RebalanceWorld) (c : ControlCall) (target : DecisionTarget) :
    (w.afterControl c).view target = w.view target := by
  unfold RebalanceWorld.afterControl
  split
  · exact view_syncBundle w _ target
  · exact view_syncBundle w _ target
  · rfl

theorem performRebalance_control (env : RebalanceEnvironment) (w : RebalanceWorld)
    (c : ControlCall) :
    performRebalance env w (.control c) = ((handleControl env.control c w.control).1,
        { w with control := (handleControl env.control c w.control).2 }) ∨
      performRebalance env w (.control c) = ((handleControl env.control c w.control).1,
        ({ w with control := (handleControl env.control c w.control).2 } :
          RebalanceWorld).afterControl c) := by
  rw [performRebalance]
  split
  · exact Or.inl rfl
  · exact Or.inr rfl

theorem view_performControl (env : RebalanceEnvironment) (w : RebalanceWorld) (c : ControlCall)
    (target : DecisionTarget) :
    (performRebalance env w (.control c)).2.view target =
      ({ w with control := (handleControl env.control c w.control).2 } : RebalanceWorld).view
        target := by
  rcases performRebalance_control env w c with h | h
  · rw [h]
  · rw [h]
    exact view_afterControl _ c target

theorem view_withCarryTables {tables : CarryTables} {added : List CarryAction}
    (hactions : tables.actions = w.control.carry.tables.actions ++ added)
    (hv : w.view target = some v) : (w.withCarryTables tables).view target = some v := by
  cases target with
  | proposal id => exact hv
  | carryAction id =>
    show (tables.actions.find? fun row => decide (row.id = id)).map CarryAction.view = some v
    rw [hactions, List.find?_append, Option.map_or]
    have hfound : (w.control.carry.tables.actions.find? fun row => decide (row.id = id)).map
        CarryAction.view = some v := hv
    rw [hfound]
    rfl

theorem insertPlanned_actions (proposalId : String) (drafts : List CarryAction)
    (tables : CarryTables) :
    ∃ added, (insertPlanned proposalId drafts tables).2.actions = tables.actions ++ added := by
  induction drafts generalizing tables with
  | nil => exact ⟨[], (List.append_nil _).symm⟩
  | cons draft drafts ih =>
    obtain ⟨added, hadded⟩ := ih { tables with
      actions := tables.actions ++ [plannedRow proposalId (toString tables.nextId) draft]
      nextId := tables.nextId + 1 }
    refine ⟨plannedRow proposalId (toString tables.nextId) draft :: added, ?_⟩
    show (insertPlanned proposalId drafts _).2.actions = _
    rw [hadded, List.append_assoc, List.singleton_append]

theorem handleCarry_getCarryAction (env : CarryEnvironment) (id : String) (w : CarryWorld) :
    (handleCarry env (.getCarryAction id) w).2.tables = w.tables := by
  unfold handleCarry
  split <;> rfl

theorem view_performControl_of_keepsRows (env : RebalanceEnvironment) (w : RebalanceWorld)
    (hc : (RebalanceCall.control c).keepsRows = true) (target : DecisionTarget) :
    (performRebalance env w (.control c)).2.view target = w.view target := by
  rw [view_performControl]
  have hcarry : (handleControl env.control c w.control).2.carry.tables =
      w.control.carry.tables := by
    cases c with
    | treasury c | store c => rfl
    | carry c =>
      cases c with
      | getCarryAction id => exact handleCarry_getCarryAction _ id _
      | _ => cases hc
    | _ => cases hc
  cases target with
  | proposal id => rfl
  | carryAction id =>
    show (CarryTables.findAction _ id).map _ = (CarryTables.findAction _ id).map _
    rw [hcarry]

theorem handleRebalance_keeps {c : RebalanceCall} (hc : c.keepsRows = true)
    (hv : w.view target = some v) : (handleRebalance env c w).2.view target = some v := by
  obtain ⟨n, hn | ⟨hn, -⟩⟩ := handleRebalance_cases env c w
  · rw [hn]
    show (performRebalance env w c).2.view target = some v
    cases c with
    | control c => exact (view_performControl_of_keepsRows env w hc target).trans hv
    | syncRebalanceBundleForProposal id => exact (view_syncBundle w id target).trans hv
    | runCarryEvaluation proposalId sourceRunId targetUsd
    | createCarryActions proposalId notionalUsd =>
      obtain ⟨added, hadded⟩ := insertPlanned_actions proposalId (env.planned w.calls)
        w.control.carry.tables
      exact view_withCarryTables hadded hv
    | approveRebalanceProposal | rejectRebalanceProposal | queueRebalanceProposalExecution
    | markRebalanceProposalExecuting | completeRebalanceProposal | failRebalanceProposal => cases hc
    | _ => exact hv
  · rw [hn]
    exact hv

theorem view_updateProposal {f : RebalanceProposalRow → RebalanceProposalRow} {moved : String}
    (standing : Standing) (hid : ∀ row, (f row).id = row.id)
    (hview : ∀ row, (f row).view = { row.view with standing }) (hv : w.view target = some v) :
    ({ w with tables := w.tables.updateProposal moved f } : RebalanceWorld).view target =
      some (if target = .proposal moved then { v with standing } else v) := by
  cases target with
  | proposal id =>
    show ((Rows.find RebalanceProposalRow.id id (Rows.update RebalanceProposalRow.id moved f
      w.tables.proposals)).map RebalanceProposalRow.view) = _
    rw [Rows.find_update hid]
    have hfound : (Rows.find RebalanceProposalRow.id id w.tables.proposals).map
        RebalanceProposalRow.view = some v := hv
    obtain ⟨row, hrow, rfl⟩ := Option.map_eq_some_iff.1 hfound
    rw [hrow]
    by_cases hid : id = moved <;> simp [hid, hview]
  | carryAction id =>
    rw [if_neg (by simp)]
    exact hv

theorem view_updateAction {f : CarryAction → CarryAction} (moved : String) (standing : Standing)
    (hid : ∀ row, (f row).id = row.id) (hview : ∀ row, (f row).view = { row.view with standing })
    (hv : w.view target = some v) :
    (w.withCarryTables (w.control.carry.tables.updateAction moved f)).view target =
      some (if target = .carryAction moved then { v with standing } else v) := by
  cases target with
  | proposal id =>
    rw [if_neg (by simp)]
    exact hv
  | carryAction id =>
    show ((w.control.carry.tables.updateAction moved f).findAction id).map CarryAction.view = _
    rw [CarryTables.findAction_updateAction _ hid]
    have hfound : (w.control.carry.tables.findAction id).map CarryAction.view = some v := hv
    obtain ⟨row, hrow, rfl⟩ := Option.map_eq_some_iff.1 hfound
    rw [hrow]
    by_cases hid : id = moved <;> simp [hid, hview]

theorem handleControl_cases (env : ControlEnvironment) (hc : c.isPart = false) (w : ControlWorld) :
    (handleControl env c w).2.carry = (performShared env w c).2.carry ∨
      (handleControl env c w).2.carry = w.carry ∧ (handleControl env c w).1.isOk = false := by
  unfold handleControl
  rw [if_neg (by rw [hc]; exact Bool.false_ne_true)]
  cases env.runtime.faults w.runtime.calls with
  | none => exact Or.inl rfl
  | some fault =>
    cases fault with
    | requestLost message => exact Or.inr ⟨rfl, rfl⟩
    | answerLost message => exact Or.inl rfl

theorem view_performControl_of_update (hpart : c.isPart = false) {f : CarryAction → CarryAction}
    {moved : String} (standing : Standing)
    (hupdate : (performShared env.control w.control c).2.carry.tables =
      w.control.carry.tables.updateAction moved f) (hid : ∀ row, (f row).id = row.id)
    (hview : ∀ row, (f row).view = { row.view with standing }) (hv : w.view target = some v) :
    (performRebalance env w (.control c)).2.view target =
        some (if target = .carryAction moved then { v with standing } else v) ∨
      (performRebalance env w (.control c)).2.view target = some v ∧
        (handleControl env.control c w.control).1.isOk = false := by
  have hmoved := view_updateAction moved standing hid hview hv
  rw [view_performControl]
  rcases handleControl_cases env.control hpart w.control with hcarry | ⟨hcarry, hfailed⟩
  · left
    cases target with
    | proposal id => exact hmoved
    | carryAction id =>
      rw [← hmoved]
      show (CarryTables.findAction _ id).map _ = (CarryTables.findAction _ id).map _
      rw [hcarry, hupdate]
      rfl
  · right
    refine ⟨?_, hfailed⟩
    cases target with
    | proposal id => exact hv
    | carryAction id =>
      rw [← hv]
      show (CarryTables.findAction _ id).map _ = (CarryTables.findAction _ id).map _
      rw [hcarry]

theorem performRebalance_of_settles {c : RebalanceCall} {id : String}
    (hc : c.settles = some (.proposal id, standing)) (env : RebalanceEnvironment)
    (w : RebalanceWorld) :
    ∃ f : RebalanceProposalRow → RebalanceProposalRow,
      (performRebalance env w c).2 = { w with tables := w.tables.updateProposal id f } ∧
        (∀ row, (f row).id = row.id) ∧ ∀ row, (f row).view = { row.view with standing } := by
  cases c with
  | approveRebalanceProposal | rejectRebalanceProposal | queueRebalanceProposalExecution
  | markRebalanceProposalExecuting | completeRebalanceProposal | failRebalanceProposal =>
    cases hc
    exact ⟨_, rfl, fun _ => rfl, fun _ => rfl⟩
  | control c => cases c <;> cases hc
  | _ => cases hc

theorem performShared_of_settles {id : String}
    (hc : (RebalanceCall.control c).settles = some (.carryAction id, standing))
    (env : ControlEnvironment) (w : ControlWorld) :
    c.isPart = false ∧ ∃ f : CarryAction → CarryAction,
      (performShared env w c).2.carry.tables = w.carry.tables.updateAction id f ∧
        (∀ row, (f row).id = row.id) ∧ ∀ row, (f row).view = { row.view with standing } := by
  cases c with
  | approveCarryAction | queueCarryActionExecution =>
    cases hc
    exact ⟨rfl, _, rfl, fun _ => rfl, fun _ => rfl⟩
  | _ => cases hc

theorem handleRebalance_control (env : RebalanceEnvironment) (w : RebalanceWorld)
    (c : ControlCall) :
    (handleRebalance env (.control c) w).1 = (handleControl env.control c w.control).1 := by
  show (performRebalance env w (.control c)).1 = _
  rcases performRebalance_control env w c with h | h <;> rw [h]

/-- A call that moves a target moves it, unless it throws, and leaves the others. -/
theorem handleRebalance_settles (env : RebalanceEnvironment) {c : RebalanceCall}
    {moved : DecisionTarget} (hc : c.settles = some (moved, standing)) (hv : w.view target = some v) :
    (handleRebalance env c w).2.view target =
        some (if target = moved then { v with standing } else v) ∨
      (handleRebalance env c w).2.view target = some v ∧
        (handleRebalance env c w).1.isOk = false := by
  obtain ⟨n, hn | ⟨hn, hfailed⟩⟩ := handleRebalance_cases env c w
  · rw [hn]
    show (performRebalance env w c).2.view target = _ ∨
      (performRebalance env w c).2.view target = _ ∧ _
    cases moved with
    | proposal id =>
      left
      obtain ⟨f, hf, hid, hview⟩ := performRebalance_of_settles hc env w
      rw [hf]
      exact view_updateProposal standing hid hview hv
    | carryAction id =>
      cases c with
      | control c =>
        obtain ⟨hpart, f, hf, hid, hview⟩ := performShared_of_settles hc env.control w.control
        rw [handleRebalance_control]
        exact view_performControl_of_update hpart standing hf hid hview hv
      | _ => cases hc
  · right
    rw [hn]
    exact ⟨hv, hfailed⟩

end Views

end SentinelApex
