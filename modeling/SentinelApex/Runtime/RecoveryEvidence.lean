import SentinelApex.Runtime.CarryGuardrails
import SentinelApex.Runtime.RecoveryCandidates
import SentinelApex.Runtime.TreasuryStages

/-!
# Evidence of effects

What the recovery of a bundle can know of the children of a sleeve is a `ChildLedger`: the statuses of
the linked actions, and the actions that a stored reference speaks for. An execution moves the world
first and stores the reference later. In between the action is `executing`, which keeps it from being
queued again; so the ledger is `Safe` unless a call fails before the reference is stored, and the
execution gives the action up (`executeTreasuryAction_leads`).
-/

namespace SentinelApex

open Async

/-! ## Ledgers -/

/-- The linked actions with their statuses, the rows that may hold a reference with their actions,
the actions that have had an effect at a venue, and those with a stored reference. -/
structure ChildLedger where
  rows : List (String × ActionStatus)
  records : List (String × String)
  effects : List String
  evidence : List String

namespace ChildLedger

variable (l : ChildLedger)

/-- There is evidence of every effect. -/
def Recorded : Prop := ∀ id ∈ l.effects, id ∈ l.evidence

instance : Decidable l.Recorded := inferInstanceAs (Decidable (∀ id ∈ l.effects, id ∈ l.evidence))

/-- There is evidence of every effect of a child that could be queued again. -/
def Safe : Prop :=
  ∀ row ∈ l.rows, row.2.retryable = true → row.1 ∈ l.effects → row.1 ∈ l.evidence

/-- The action is executing, and has a row for its reference; there is evidence of the effects of
all others. -/
structure InFlight (actionId recordId : String) : Prop where
  executing : ∀ row ∈ l.rows, row.1 = actionId → row.2 = .executing
  record : (recordId, actionId) ∈ l.records
  others : ∀ id ∈ l.effects, id = actionId ∨ id ∈ l.evidence

/-- The effects stay, and neither rows for references nor evidence are lost. -/
structure Grows (l l' : ChildLedger) : Prop where
  records : ∀ record ∈ l.records, record ∈ l'.records
  effects : l'.effects = l.effects
  evidence : ∀ id ∈ l.evidence, id ∈ l'.evidence

variable {l} {l' : ChildLedger} {actionId recordId : String}

theorem Grows.refl (l : ChildLedger) : Grows l l := ⟨fun _ h => h, rfl, fun _ h => h⟩

theorem Recorded.safe (h : l.Recorded) : l.Safe := fun row _ _ heffect => h row.1 heffect

theorem Recorded.grows (h : l.Recorded) (hg : Grows l l') : l'.Recorded := by
  intro id hid
  rw [hg.effects] at hid
  exact hg.evidence id (h id hid)

section

variable (h : l.InFlight actionId recordId)

include h

theorem InFlight.safe : l.Safe := by
  intro row hrow hretryable heffect
  rcases h.others row.1 heffect with hid | hevident
  · rw [h.executing row hrow hid] at hretryable
    cases hretryable
  · exact hevident

theorem InFlight.recorded (hevident : actionId ∈ l.evidence) :
    l.Recorded := by
  intro id hid
  rcases h.others id hid with rfl | hid
  · exact hevident
  · exact hid

theorem InFlight.grows (hg : Grows l l') (hrows : l'.rows = l.rows) :
    l'.InFlight actionId recordId := by
  refine ⟨fun row hrow => h.executing row (hrows ▸ hrow), hg.records _ h.record, fun id hid => ?_⟩
  rw [hg.effects] at hid
  exact (h.others id hid).imp_right (hg.evidence id)

theorem InFlight.effect (hrows : l'.rows = l.rows) (hrecords : l'.records = l.records)
    (hevidence : l'.evidence = l.evidence)
    (heffects : ∀ id ∈ l'.effects, id = actionId ∨ id ∈ l.effects) :
    l'.InFlight actionId recordId := by
  refine ⟨fun row hrow => h.executing row (hrows ▸ hrow), hrecords ▸ h.record, fun id hid => ?_⟩
  rw [hevidence]
  rcases heffects id hid with hid | hid
  · exact Or.inl hid
  · exact h.others id hid

end

end ChildLedger

open ChildLedger

/-! ## Treasury calls -/

def TreasuryWorld.ledger (w : TreasuryWorld) : ChildLedger where
  rows := (w.tables.actions.filter fun action => action.linkedRebalanceProposalId.isSome).map
    fun action => (action.id, action.status)
  records := w.tables.executions.map fun execution => (execution.id, execution.treasuryActionId)
  effects := w.executed
  evidence := (w.tables.executions.filter fun execution =>
    execution.venueExecutionReference.isSome).map fun execution => execution.treasuryActionId

/-- The calls that neither move money nor take a reference away. -/
def TreasuryCall.quiet : TreasuryCall → Prop
  | executeTreasuryAction .. => False
  | updateTreasuryExecution _ p => p.venueExecutionReference ≠ some none
  | _ => True

def TreasuryCall.keepsLinked : TreasuryCall → Prop
  | approveTreasuryAction _ => False
  | queueTreasuryActionExecution .. => False
  | markTreasuryActionExecuting _ => False
  | completeTreasuryAction .. => False
  | failTreasuryAction .. => False
  | createTreasuryAction _ => False
  | createTreasuryActions inputs => ∀ input ∈ inputs, input.linkedRebalanceProposalId = none
  | c => c.quiet

theorem TreasuryCall.quiet_of_keepsLinked {c : TreasuryCall} (hc : c.keepsLinked) : c.quiet := by
  cases c <;> trivial

theorem TreasuryCall.keepsLinked_of_reads {c : TreasuryCall} (hc : c.reads) : c.keepsLinked := by
  cases c <;> trivial

variable {p : TreasuryExecutionPatch}

section Treasury

variable {env : TreasuryEnvironment} {w : TreasuryWorld} {c : TreasuryCall}

/-- An update of an execution keeps its action, and a reference that it does not take away. -/
theorem grows_updateTreasuryExecution (w : TreasuryWorld) {id : String}
    (hp : p.venueExecutionReference ≠ some none) :
    Grows w.ledger { w with tables := w.tables.updateTreasuryExecution id p }.ledger := by
  refine ⟨fun record hrecord => ?_, rfl, fun actionId hevident => ?_⟩
  · obtain ⟨row, hrow, rfl⟩ := List.mem_map.1 hrecord
    refine List.mem_map.2 ⟨_, Rows.mem_update.2 ⟨row, hrow, rfl⟩, ?_⟩
    split_ifs <;> rfl
  · obtain ⟨row, hrow, rfl⟩ := List.mem_map.1 hevident
    obtain ⟨hmem, hreference⟩ := List.mem_filter.1 hrow
    refine List.mem_map.2 ⟨_, List.mem_filter.2 ⟨Rows.mem_update.2 ⟨row, hmem, rfl⟩, ?_⟩, ?_⟩
    · split_ifs
      · cases hpatch : p.venueExecutionReference with
        | none => simpa [TreasuryExecution.patch, hpatch] using hreference
        | some reference =>
          cases reference with
          | none => exact absurd hpatch hp
          | some reference => simp [TreasuryExecution.patch, hpatch]
      · exact hreference
    · split_ifs <;> rfl

theorem evident_updateTreasuryExecution {id actionId reference : String}
    (hp : p.venueExecutionReference = some (some reference))
    (hrecord : (id, actionId) ∈ w.ledger.records) :
    actionId ∈ { w with tables := w.tables.updateTreasuryExecution id p }.ledger.evidence := by
  obtain ⟨row, hrow, hids⟩ := List.mem_map.1 hrecord
  obtain ⟨rfl, rfl⟩ := Prod.mk.inj hids
  refine List.mem_map.2 ⟨_, List.mem_filter.2 ⟨Rows.mem_update.2 ⟨row, hrow, rfl⟩, ?_⟩, ?_⟩
  · simp [TreasuryExecution.patch, hp]
  · simp [TreasuryExecution.patch]

theorem createTreasuryActions_rest (inputs : List TreasuryActionInput) (tables : TreasuryTables) :
    (tables.createTreasuryActions inputs).executions = tables.executions ∧
      (tables.createTreasuryActions inputs).runs = tables.runs := by
  unfold TreasuryTables.createTreasuryActions
  induction inputs generalizing tables with
  | nil => exact ⟨rfl, rfl⟩
  | cons input inputs ih => exact ih _

theorem linked_createTreasuryActions {inputs : List TreasuryActionInput}
    (h : ∀ input ∈ inputs, input.linkedRebalanceProposalId = none) (tables : TreasuryTables) :
    ((tables.createTreasuryActions inputs).actions.filter fun action =>
        action.linkedRebalanceProposalId.isSome) =
      tables.actions.filter fun action => action.linkedRebalanceProposalId.isSome := by
  unfold TreasuryTables.createTreasuryActions
  induction inputs generalizing tables with
  | nil => rfl
  | cons input inputs ih =>
    rw [List.foldl_cons, ih fun input' hinput' => h input' (List.mem_cons_of_mem _ hinput')]
    show (tables.actions ++ [input.toRow _]).filter _ = _
    have hlinked : (input.toRow (toString tables.nextId)).linkedRebalanceProposalId = none :=
      h input List.mem_cons_self
    rw [List.filter_append, List.filter_cons_of_neg (by rw [hlinked]; decide), List.filter_nil,
      List.append_nil]

theorem grows_performTreasury (hc : c.quiet) :
    Grows w.ledger (performTreasury env w c).2.ledger := by
  by_cases hreads : c.reads
  · rw [performTreasury_of_reads hreads]
    exact Grows.refl _
  · cases c with
    | executeTreasuryAction => exact hc.elim
    | updateTreasuryExecution id p => exact grows_updateTreasuryExecution w hc
    | createTreasuryExecution input =>
      refine ⟨fun record hrecord => ?_, rfl, fun actionId hevident => ?_⟩
      · obtain ⟨row, hrow, rfl⟩ := List.mem_map.1 hrecord
        exact List.mem_map.2 ⟨row, List.mem_append_left _ hrow, rfl⟩
      · obtain ⟨row, hrow, rfl⟩ := List.mem_map.1 hevident
        obtain ⟨hmem, hreference⟩ := List.mem_filter.1 hrow
        exact List.mem_map.2 ⟨row, List.mem_filter.2 ⟨List.mem_append_left _ hmem, hreference⟩, rfl⟩
    | createTreasuryActions inputs =>
      have hexecutions := (createTreasuryActions_rest inputs w.tables).1
      refine ⟨fun record hrecord => ?_, rfl, fun actionId hevident => ?_⟩
      · show record ∈ (w.tables.createTreasuryActions inputs).executions.map _
        rwa [hexecutions]
      · show actionId ∈ ((w.tables.createTreasuryActions inputs).executions.filter _).map _
        rwa [hexecutions]
    | getVenueState | getPosition | getCapabilities => exact absurd trivial hreads
    | _ => exact ⟨fun _ h => h, rfl, fun _ h => h⟩

theorem rows_performTreasury (hc : c.keepsLinked) :
    (performTreasury env w c).2.ledger.rows = w.ledger.rows := by
  by_cases hreads : c.reads
  · rw [performTreasury_of_reads hreads]
  · cases c with
    | createTreasuryActions inputs =>
      exact congrArg (List.map _) (linked_createTreasuryActions hc w.tables)
    | executeTreasuryAction | approveTreasuryAction | queueTreasuryActionExecution
    | markTreasuryActionExecuting | completeTreasuryAction | failTreasuryAction
    | createTreasuryAction => exact hc.elim
    | getVenueState | getPosition | getCapabilities => exact absurd trivial hreads
    | _ => rfl

theorem grows_handleTreasury (hc : c.quiet) : Grows w.ledger (handleTreasury env c w).2.ledger :=
  handleTreasury_keeps (I := fun w' => Grows w.ledger w'.ledger) (fun _ _ h => h) (Grows.refl _)
    (grows_performTreasury hc)

theorem rows_handleTreasury (hc : c.keepsLinked) :
    (handleTreasury env c w).2.ledger.rows = w.ledger.rows :=
  handleTreasury_keeps (I := fun w' => w'.ledger.rows = w.ledger.rows) (fun _ _ h => h) rfl
    (rows_performTreasury hc)

theorem runs_handleTreasury (c : TreasuryCall) (hw : w.tables.runs ≠ []) :
    (handleTreasury env c w).2.tables.runs ≠ [] := by
  refine handleTreasury_keeps (I := fun w' => w'.tables.runs ≠ []) (fun _ _ h => h) hw ?_
  by_cases hreads : c.reads
  · rwa [performTreasury_of_reads hreads]
  · cases c with
    | insertTreasuryRun treasuryRunId => exact List.concat_ne_nil _ _
    | createTreasuryActions inputs =>
      exact fun h => hw ((createTreasuryActions_rest inputs w.tables).2.symm.trans h)
    | executeTreasuryAction => exact hw
    | getVenueState | getPosition | getCapabilities => exact absurd trivial hreads
    | _ => exact hw

theorem executing_markTreasuryActionExecuting {id : String} {u : Unit}
    (hu : (handleTreasury env (.markTreasuryActionExecuting id) w).1 = .ok u) :
    ∀ row ∈ (handleTreasury env (.markTreasuryActionExecuting id) w).2.ledger.rows,
      row.1 = id → row.2 = .executing := by
  rw [(performTreasury_of_ok hu).2]
  intro row hrow hid
  obtain ⟨action, haction, rfl⟩ := List.mem_map.1 hrow
  obtain ⟨old, -, rfl⟩ := Rows.mem_update.1 (List.mem_filter.1 haction).1
  split_ifs at hid ⊢
  · rfl
  · contradiction

/-! ## Treasury executions -/

abbrev TreasuryEvent := Event TreasuryCall TreasuryCall.Reply String TreasuryWorld

/-- A call fails and leaves an effect without evidence. -/
def TreasuryLoses (e : TreasuryEvent) : Prop := e.threw = true ∧ ¬ e.after.ledger.Recorded

/-- If no call loses an effect, then the ledger is safe throughout, and there is evidence of every
effect when the task throws. -/
abbrev TreasuryLeads (env : TreasuryEnvironment) {α : Type} (W : TreasuryWorld → Prop)
    (W' : α → TreasuryWorld → Prop) (t : TreasuryTask α) : Prop :=
  t.Leads (handleTreasury env) (fun e => ¬ TreasuryLoses e) (fun e => e.after.ledger.Safe) W W'
    fun w => w.ledger.Recorded

namespace TreasuryRuntime

variable (runtime : TreasuryRuntime) {actionId recordId : String}

theorem leads_quiet {α : Type} {t : TreasuryTask α} (ht : t.Uses TreasuryCall.quiet) :
    TreasuryLeads env (fun w => w.ledger.Recorded) (fun _ w => w.ledger.Recorded) t :=
  ht.leads fun _ _ hc hw _ => ⟨(hw.grows (grows_handleTreasury hc)).safe,
    hw.grows (grows_handleTreasury hc)⟩

theorem leads_inFlight (hc : c.keepsLinked) {K : TreasuryWorld → Prop}
    {M : c.Reply → TreasuryWorld → Prop}
    (hK : ∀ w a, w.ledger.InFlight actionId recordId → K w →
      (handleTreasury env c w).1 = .ok a → M a (handleTreasury env c w).2) :
    TreasuryLeads env (fun w => w.ledger.InFlight actionId recordId ∧ K w)
      (fun a w => w.ledger.InFlight actionId recordId ∧ M a w) (Task.call c) := by
  refine Task.leads_call fun w hw hlost => ?_
  have hflight : (handleTreasury env c w).2.ledger.InFlight actionId recordId :=
    hw.1.grows (grows_handleTreasury (TreasuryCall.quiet_of_keepsLinked hc)) (rows_handleTreasury hc)
  refine ⟨hflight.safe, fun a ha => ⟨hflight, hK w a hw.1 hw.2 ha⟩, fun message hmessage => ?_⟩
  by_contra hrecorded
  exact hlost ⟨by rw [Event.threw, hmessage]; rfl, hrecorded⟩

abbrev Flies (actionId recordId : String) (w : TreasuryWorld) : Prop :=
  w.ledger.InFlight actionId recordId ∧ True

/-- The action is in flight, and a run was inserted. -/
abbrev FliesEvaluated (actionId recordId : String) (w : TreasuryWorld) : Prop :=
  w.ledger.InFlight actionId recordId ∧ w.tables.runs ≠ []

theorem leads_flies (hc : c.keepsLinked) :
    TreasuryLeads env (Flies actionId recordId) (fun _ => Flies actionId recordId)
      (Task.call c) :=
  leads_inFlight hc fun _ _ _ h _ => h

theorem leads_evaluated (hc : c.keepsLinked) :
    TreasuryLeads env (FliesEvaluated actionId recordId)
      (fun _ => FliesEvaluated actionId recordId) (Task.call c) :=
  leads_inFlight hc fun _ _ _ hw _ => runs_handleTreasury c hw

theorem collectTreasuryVenueSnapshots_leads (venueIds : List String) :
    TreasuryLeads env (Flies actionId recordId) (fun _ => Flies actionId recordId)
      (collectTreasuryVenueSnapshots venueIds) := by
  induction venueIds with
  | nil => exact Task.leads_done fun _ h => h
  | cons venueId venueIds ih =>
    refine Task.Leads.bind (leads_flies (by trivial)) fun venueState => ?_
    refine Task.Leads.bind (leads_flies (by trivial)) fun position => ?_
    exact ih.bind fun snapshots => Task.leads_done fun _ h => h

theorem collectCapabilities_leads (promotions : List VenuePromotion) (venueIds : List String) :
    TreasuryLeads env (Flies actionId recordId) (fun _ => Flies actionId recordId)
      (collectCapabilities promotions venueIds) := by
  induction venueIds with
  | nil => exact Task.leads_done fun _ h => h
  | cons venueId venueIds ih =>
    refine Task.Leads.bind (leads_flies (by trivial)) fun venueCapabilities => ?_
    exact ih.bind fun capabilities => Task.leads_done fun _ h => h

theorem collectTreasuryVenueCapabilities_leads :
    TreasuryLeads env (Flies actionId recordId) (fun _ => Flies actionId recordId)
      runtime.collectTreasuryVenueCapabilities :=
  Task.Leads.bind (leads_flies (by trivial)) fun promotions =>
    collectCapabilities_leads promotions _

theorem persistTreasuryEvaluation_leads (treasuryRunId : String) (evaluation : TreasuryEvaluation)
    (intents : List TreasuryExecutionIntent) :
    TreasuryLeads env (Flies actionId recordId) (fun _ => FliesEvaluated actionId recordId)
      (persistTreasuryEvaluation treasuryRunId evaluation intents) := by
  refine Task.Leads.bind (V := fun _ => FliesEvaluated actionId recordId) ?_ fun _ => ?_
  · refine leads_inFlight (by trivial) fun w _ _ _ hinserted => ?_
    rw [(performTreasury_of_ok hinserted).2]
    exact List.concat_ne_nil _ _
  · refine Task.Leads.bind ?_ fun _ => leads_evaluated (by trivial)
    unfold insertIntents
    split_ifs
    · exact Task.leads_done fun _ h => h
    · refine leads_evaluated fun input hinput => ?_
      obtain ⟨intent, -, rfl⟩ := List.mem_map.1 hinput
      rfl

/-- The run that an evaluation inserts is there when the evaluation asks for the latest one. -/
theorem runTreasuryEvaluation_leads (actorId treasuryRunId : String)
    (portfolioState : PortfolioState) (idleCapitalUsd : Option Decimal) :
    TreasuryLeads env (Flies actionId recordId) (fun _ => Flies actionId recordId)
      (runtime.runTreasuryEvaluation actorId treasuryRunId (some portfolioState)
        idleCapitalUsd) := by
  refine Task.Leads.bind (V := fun _ => Flies actionId recordId)
    (Task.leads_done fun _ h => h) fun portfolioState => ?_
  refine Task.Leads.bind (collectTreasuryVenueSnapshots_leads _) fun venueSnapshots => ?_
  refine Task.Leads.bind (runtime.collectTreasuryVenueCapabilities_leads) fun capabilities => ?_
  refine Task.Leads.bind (leads_flies (by trivial)) fun persistedCashBalanceUsd => ?_
  refine Task.Leads.bind (persistTreasuryEvaluation_leads _ _ _) fun _ => ?_
  refine Task.Leads.bind (leads_evaluated (by trivial)) fun _ => ?_
  refine Task.Leads.bind (leads_evaluated (by trivial)) fun _ => ?_
  refine Task.Leads.bind (V := fun latest w => w.ledger.InFlight actionId recordId ∧ latest ≠ none)
    (leads_inFlight (by trivial) fun w latest _ hruns hlatest => ?_) fun latest => ?_
  · obtain rfl : w.tables.runs.getLast? = latest :=
      Except.ok.inj (performTreasury_of_ok hlatest).1
    rwa [ne_eq, List.getLast?_eq_none_iff]
  · cases latest with
    | none => exact fun w hw => absurd rfl hw.2
    | some latestRunId => exact Task.leads_done fun _ hw => ⟨hw.1, trivial⟩

section Stages

variable {input : ExecuteTreasuryInput} {action : TreasuryAction}

theorem syncLinkedTreasuryBundle_quiet (action : TreasuryAction) :
    (syncLinkedTreasuryBundle action).Uses TreasuryCall.quiet :=
  syncLinkedTreasuryBundle_uses
    (fun _ hc => TreasuryCall.quiet_of_keepsLinked (TreasuryCall.keepsLinked_of_reads hc)) action

theorem failExecution_quiet (executionId message : String) :
    (failExecution input action executionId message).Uses TreasuryCall.quiet := by
  refine Task.Uses.call_bind (by simp [TreasuryCall.quiet]) fun _ => ?_
  refine Task.Uses.call_bind (by trivial) fun _ => ?_
  refine (syncLinkedTreasuryBundle_quiet action).bind fun _ => ?_
  exact Task.Uses.call_bind (by trivial) fun _ => trivial

theorem refuseUntargeted_quiet (executionId message : String) :
    (refuseUntargeted action executionId message).Uses TreasuryCall.quiet := by
  refine Task.Uses.call_bind (by simp [TreasuryCall.quiet]) fun _ => ?_
  refine Task.Uses.call_bind (by trivial) fun _ => ?_
  exact (syncLinkedTreasuryBundle_quiet action).bind fun _ => trivial

theorem refuseBlocked_quiet (executionId : String) (intent : TreasuryExecutionIntent) :
    (refuseBlocked input action executionId intent).Uses TreasuryCall.quiet := by
  refine Task.Uses.call_bind (by trivial) fun _ => ?_
  refine (syncLinkedTreasuryBundle_quiet action).bind fun _ => ?_
  exact Task.Uses.call_bind (by trivial) fun _ => trivial

theorem applyBudget_quiet : (applyBudget input action).Uses TreasuryCall.quiet := by
  refine Task.Uses.call_bind (by trivial) fun execution => ?_
  refine Task.Uses.call_bind (by simp [TreasuryCall.quiet]) fun _ => ?_
  refine Task.Uses.call_bind (by trivial) fun _ => ?_
  exact (syncLinkedTreasuryBundle_quiet action).bind fun _ => trivial

theorem storeReference_leads {reference : String}
    (hp : p.venueExecutionReference = some (some reference)) :
    TreasuryLeads env (Flies actionId recordId) (fun _ w => w.ledger.Recorded)
      (Task.call (.updateTreasuryExecution recordId p)) := by
  have hkeeps : (TreasuryCall.updateTreasuryExecution recordId p).keepsLinked := by
    simp [TreasuryCall.keepsLinked, TreasuryCall.quiet, hp]
  refine (leads_inFlight (K := fun _ => True) (M := fun _ w => w.ledger.Recorded) hkeeps
    fun w a hflight _ ha => ?_).mono (fun _ h => h) (fun _ _ h => h.2) fun _ h => h
  have hafter : (handleTreasury env (.updateTreasuryExecution recordId p) w).2.ledger.InFlight
      actionId recordId :=
    hflight.grows (grows_handleTreasury (TreasuryCall.quiet_of_keepsLinked hkeeps))
      (rows_handleTreasury hkeeps)
  refine hafter.recorded ?_
  rw [(performTreasury_of_ok ha).2]
  exact evident_updateTreasuryExecution hp hflight.record

variable (treasuryRunId executionId : String) (portfolioState : PortfolioState)
  (intent : TreasuryExecutionIntent)

theorem recordMove_leads (result : TreasuryVenueExecutionResult) :
    TreasuryLeads env (Flies action.id executionId) (fun _ w => w.ledger.Recorded)
      (runtime.recordMove input treasuryRunId action executionId portfolioState intent
        result) := by
  refine Task.Leads.bind (leads_flies (by trivial)) fun _ => ?_
  refine Task.Leads.bind (runtime.runTreasuryEvaluation_leads _ _ _ _) fun followUpRunId => ?_
  refine Task.Leads.bind (storeReference_leads rfl) fun _ => ?_
  refine leads_quiet (Task.Uses.call_bind (by trivial) fun _ => ?_)
  refine (syncLinkedTreasuryBundle_quiet action).bind fun _ => ?_
  exact Task.Uses.call_bind (by trivial) fun _ => trivial

theorem executeTreasuryAction_leads_call (venueId : String)
    (request : TreasuryVenueExecutionRequest) :
    TreasuryLeads env (Flies actionId recordId) (fun _ => Flies actionId recordId)
      (Task.call (.executeTreasuryAction actionId venueId request)) := by
  refine Task.leads_call fun w hw hlost => ?_
  have hflight : (handleTreasury env (.executeTreasuryAction actionId venueId request)
      w).2.ledger.InFlight actionId recordId := by
    refine hw.1.effect rfl rfl rfl fun id hid => ?_
    change id ∈ (SentinelApex.moveAtVenue env w actionId venueId request).2.executed at hid
    unfold SentinelApex.moveAtVenue at hid
    dsimp only at hid
    split at hid
    · rcases List.mem_append.1 hid with hid | hid
      · exact Or.inr hid
      · exact Or.inl (List.mem_singleton.1 hid)
    · exact Or.inr hid
  refine ⟨hflight.safe, fun _ _ => ⟨hflight, trivial⟩, fun message hmessage => ?_⟩
  by_contra hrecorded
  exact hlost ⟨by rw [Event.threw, hmessage]; rfl, hrecorded⟩

theorem moveAtVenue_leads (treasuryRunId executionId venueId : String)
    (portfolioState : PortfolioState) (intent : TreasuryExecutionIntent) :
    TreasuryLeads env (Flies action.id executionId) (fun _ w => w.ledger.Recorded)
      (runtime.moveAtVenue input treasuryRunId action executionId venueId portfolioState
        intent) := by
  refine Task.Leads.tryCatch (E := fun w => w.ledger.Recorded) ?_ fun message => ?_
  · refine Task.Leads.bind (executeTreasuryAction_leads_call _ _) fun result => ?_
    exact runtime.recordMove_leads treasuryRunId executionId portfolioState intent result
  · exact leads_quiet (failExecution_quiet executionId message)

theorem markTreasuryActionExecuting_leads :
    TreasuryLeads env
      (fun w => w.ledger.Recorded ∧ (recordId, actionId) ∈ w.ledger.records)
      (fun _ w => w.ledger.Recorded ∧ Flies actionId recordId w)
      (Task.call (.markTreasuryActionExecuting actionId)) := by
  refine Task.leads_call fun w hw _ => ?_
  have hgrows : Grows w.ledger (handleTreasury env (.markTreasuryActionExecuting actionId)
      w).2.ledger := grows_handleTreasury trivial
  have hrecorded := hw.1.grows hgrows
  refine ⟨hrecorded.safe, fun _ hu => ⟨hrecorded, ?_, trivial⟩, fun _ _ => hrecorded⟩
  exact ⟨executing_markTreasuryActionExecuting hu, hgrows.records _ hw.2,
    fun id hid => Or.inr (hrecorded id hid)⟩

theorem executePlanned_leads :
    TreasuryLeads env
      (fun w => w.ledger.Recorded ∧ (executionId, action.id) ∈ w.ledger.records)
      (fun _ w => w.ledger.Recorded)
      (runtime.executePlanned input treasuryRunId action executionId portfolioState intent) := by
  refine Task.Leads.bind markTreasuryActionExecuting_leads fun _ => ?_
  have hrefused (message : String) : TreasuryLeads env
      (fun w => w.ledger.Recorded ∧ Flies action.id executionId w) (fun _ w => w.ledger.Recorded)
      (refuseUntargeted action executionId message) :=
    (leads_quiet (refuseUntargeted_quiet executionId message)).mono (fun _ hw => hw.1)
      (fun _ _ h => h) fun _ h => h
  cases action.venueId with
  | none => exact hrefused _
  | some venueId =>
    dsimp only
    split_ifs
    · exact (runtime.moveAtVenue_leads treasuryRunId executionId venueId portfolioState
        intent).mono (fun _ hw => hw.2) (fun _ _ h => h) fun _ h => h
    · exact hrefused _

theorem createTreasuryExecution_leads (input : TreasuryExecutionInput) :
    TreasuryLeads env (fun w => w.ledger.Recorded)
      (fun (execution : TreasuryExecution) w => w.ledger.Recorded ∧
        (execution.id, input.treasuryActionId) ∈ w.ledger.records)
      (Task.call (TreasuryCall.createTreasuryExecution input)) := by
  refine Task.leads_call (c := TreasuryCall.createTreasuryExecution input) fun w hw _ => ?_
  have hrecorded : (handleTreasury env (.createTreasuryExecution input) w).2.ledger.Recorded :=
    hw.grows (grows_handleTreasury trivial)
  refine ⟨hrecorded.safe, fun execution hexecution => ⟨hrecorded, ?_⟩, fun _ _ => hrecorded⟩
  obtain ⟨hanswer, hafter⟩ := performTreasury_of_ok hexecution
  obtain rfl : (w.tables.createTreasuryExecution input).1 = execution := Except.ok.inj hanswer
  rw [hafter]
  exact List.mem_map.2 ⟨_, List.mem_append_right _ (List.mem_singleton_self _), rfl⟩

theorem executeAtVenue_leads (treasuryRunId : String) :
    TreasuryLeads env (fun w => w.ledger.Recorded) (fun _ w => w.ledger.Recorded)
      (runtime.executeAtVenue input treasuryRunId action) := by
  have hreads : ∀ c : TreasuryCall, c.reads → c.quiet := fun _ hc =>
    TreasuryCall.quiet_of_keepsLinked (TreasuryCall.keepsLinked_of_reads hc)
  refine Task.Leads.bind (leads_quiet (Task.uses_call (by trivial))) fun portfolioState => ?_
  refine Task.Leads.bind (leads_quiet (collectTreasuryVenueSnapshots_uses hreads _)) fun _ => ?_
  refine Task.Leads.bind (leads_quiet (runtime.collectTreasuryVenueCapabilities_uses hreads))
    fun _ => ?_
  refine Task.Leads.bind (createTreasuryExecution_leads _) fun execution => ?_
  split_ifs
  · exact runtime.executePlanned_leads treasuryRunId execution.id portfolioState _
  · exact (leads_quiet (refuseBlocked_quiet execution.id _)).mono (fun _ hw => hw.1)
      (fun _ _ h => h) fun _ h => h

theorem executeTreasuryAction_leads (treasuryRunId : String) :
    TreasuryLeads env (fun w => w.ledger.Recorded) (fun _ w => w.ledger.Recorded)
      (runtime.executeTreasuryAction input treasuryRunId) := by
  refine Task.Leads.bind (leads_quiet (Task.uses_call (by trivial))) fun detail => ?_
  cases detail with
  | none => exact Task.leads_fail fun _ h => h
  | some detail =>
    dsimp only
    split_ifs
    · exact Task.leads_fail fun _ h => h
    · exact leads_quiet applyBudget_quiet
    · exact runtime.executeAtVenue_leads treasuryRunId

end Stages

end TreasuryRuntime

end Treasury

end SentinelApex
