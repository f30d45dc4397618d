import SentinelApex.Lib.TaskContract
import SentinelApex.Runtime.Approvals
import SentinelApex.Runtime.ControlMoves

/-!
# Decisions that interleave

Operators decide on proposals and carry actions while the worker executes proposals, and their
statements interleave. The statement of a decision does not look at the status that its call has
checked, so two approvals that read the same status both enqueue a command, and a proposal that is
rejected in between is executed (`approvals_overlap`).

As long as every decision is written while its target is undecided, a target is approved once,
another approval of it ends with the status error, and nothing that was rejected is executed
(`approvals_of_decidedInTime`).
-/

namespace SentinelApex

open Async
open SentinelApex.Runtime (RuntimeCommand)

/-! ## Operations -/

/-- A decision of an operator, or the execution of a proposal by the worker. -/
inductive DecisionOperation where
  | approveProposal (proposalId actorId : String) (actorRole : OperatorRole) (commandId : String)
      (now : Date)
  | rejectProposal (proposalId actorId : String) (actorRole : OperatorRole) (reason : String)
  | approveCarry (actionId actorId : String) (actorRole : OperatorRole) (commandId : String)
      (now : Date)
  | executeProposal (input : ExecuteRebalanceInput)

namespace DecisionOperation

def task : DecisionOperation → RebalanceTask Unit
  | approveProposal proposalId actorId actorRole commandId now => do
    let _ ← approveRebalanceProposal proposalId actorId actorRole commandId now
  | rejectProposal proposalId actorId actorRole reason => do
    let _ ← rejectRebalanceProposal proposalId actorId actorRole reason
  | approveCarry actionId actorId actorRole commandId now => do
    let _ ← approveCarryAction actionId actorId actorRole commandId now
  | executeProposal input => do
    let _ ← executeRebalanceProposal input

def target : DecisionOperation → DecisionTarget
  | approveProposal proposalId _ _ _ _ => .proposal proposalId
  | rejectProposal proposalId _ _ _ => .proposal proposalId
  | approveCarry actionId _ _ _ _ => .carryAction actionId
  | executeProposal input => .proposal input.proposalId

def approvesAs : DecisionOperation → Option OperatorRole
  | approveProposal _ _ actorRole _ _ => some actorRole
  | approveCarry _ _ actorRole _ _ => some actorRole
  | rejectProposal .. => none
  | executeProposal _ => none

end DecisionOperation

/-- The errors of an approval that finds its target in another status than it asks for. -/
def DecisionTarget.StatusError : DecisionTarget → String → Prop
  | proposal _, message =>
    ∃ status, status ≠ .proposed ∧ message = proposalStatusError "approved" status
  | carryAction _, message => ∃ status, status ≠ .recommended ∧ message = carryStatusError status

/-! ## Events -/

abbrev RebalanceEvent := Event RebalanceCall RebalanceCall.Reply String RebalanceWorld

def RebalanceCall.approves : RebalanceCall → Option DecisionTarget
  | .approveRebalanceProposal id _ => some (.proposal id)
  | .control (.approveCarryAction id) => some (.carryAction id)
  | _ => none

def RebalanceCall.decides : RebalanceCall → Option DecisionTarget
  | .rejectRebalanceProposal id _ _ => some (.proposal id)
  | c => c.approves

def RebalanceCall.enqueues : RebalanceCall → Bool
  | .control (.store (.enqueueRuntimeCommand input _)) =>
    decide (input.commandType = .executeRebalanceProposal) ||
      decide (input.commandType = .executeCarryAction)
  | _ => false

/-- The proposal that a call records an execution of, or marks as executing. -/
def RebalanceCall.executes : RebalanceCall → Option String
  | .createRebalanceExecution input => some input.proposalId
  | .markRebalanceProposalExecuting id => some id
  | _ => none

def RebalanceCall.rejects : RebalanceCall → Option String
  | .rejectRebalanceProposal id _ _ => some id
  | _ => none

def RejectsProposal (e : RebalanceEvent) (proposalId : String) : Prop :=
  e.call.rejects = some proposalId ∧
    e.after.standing (.proposal proposalId) = some .rejected

/-- A decision is written while its target is still undecided. -/
def DecidedInTime (c : RebalanceCall) (w : RebalanceWorld) : Prop :=
  ∀ target, c.decides = some target → w.standing target = some .undecided

instance (c : RebalanceCall) (w : RebalanceWorld) : Decidable (DecidedInTime c w) :=
  decidable_of_iff ((c.decides.all fun target =>
    decide (w.standing target = some .undecided)) = true) (by simp [DecidedInTime, Option.all_eq_true])

/-! ## The contract of the operations -/

/-- What is known of an operation: its target, whether it has approved it, whether it has read a
status that may be executed, and whether one of its calls has thrown. -/
structure DecisionNote where
  target : DecisionTarget
  approved : Bool := false
  active : Bool := false
  threw : Bool := false

/-- The answer is a proposal that may be executed. -/
def readsActive : (c : RebalanceCall) → Except String c.Reply → Bool
  | .getRebalanceProposal _, .ok (some detail) =>
    decide (detail.proposal.status = .queued) || decide (detail.proposal.status = .approved)
  | _, _ => false

/-- An answer about a target that was there at first: it differs in where it stands. -/
def Recalls (w : RebalanceWorld) (target : DecisionTarget) (answer : Option DecisionView) : Prop :=
  ∀ v, w.view target = some v → ∃ standing, answer = some { v with standing }

/-- The replies that the operations rely on, in a run from the world `w`. -/
def DecisionReply (w : RebalanceWorld) : (c : RebalanceCall) → Except String c.Reply → Prop
  | .getRebalanceProposal id, .ok detail =>
    (∀ found, detail = some found → found.proposal.id = id) ∧
      Recalls w (.proposal id) (detail.map fun detail => detail.proposal.view)
  | .control (.carry (.getCarryAction id)), .ok detail =>
    Recalls w (.carryAction id) (detail.map fun detail => detail.action.view)
  | _, _ => True

/-- The calls that the operations promise. -/
def DecisionPermits : RebalanceCall → DecisionNote → Prop
  | .approveRebalanceProposal id _, note => note.target = .proposal id
  | .rejectRebalanceProposal id _ _, note => note.target = .proposal id
  | .queueRebalanceProposalExecution id _, note => note.target = .proposal id ∧ note.approved
  | .markRebalanceProposalExecuting id, note => note.target = .proposal id ∧ note.active
  | .completeRebalanceProposal id _, note => note.target = .proposal id ∧ note.active
  | .failRebalanceProposal id _ _, note => note.target = .proposal id ∧ note.active
  | .createRebalanceExecution input, note => note.target = .proposal input.proposalId ∧ note.active
  | .getRebalanceProposal id, note => note.target = .proposal id
  | .control (.approveCarryAction id), note => note.target = .carryAction id
  | .control (.queueCarryActionExecution id _), note =>
    note.target = .carryAction id ∧ note.approved
  | .control (.store (.enqueueRuntimeCommand _ _)), note => note.approved
  | c, _ => c.keepsRows = true

def decisionContract (w : RebalanceWorld) :
    Contract RebalanceCall RebalanceCall.Reply String DecisionNote where
  reply := DecisionReply w
  permits := DecisionPermits
  note c r note :=
    { note with
      approved := note.approved || (decide (c.approves = some note.target) && r.isOk)
      active := note.active || readsActive c r
      threw := note.threw || !r.isOk }

variable {c : RebalanceCall} {note : DecisionNote}

/-- A call leaves the rows, or moves its target: by a decision, or as what is approved or
executed. -/
theorem cases_of_permits (hc : DecisionPermits c note) :
    c.keepsRows = true ∨ ∃ standing, c.settles = some (note.target, standing) ∧
      (c.decides = some note.target ∨
        standing = .underway ∧ (note.approved = true ∨ note.active = true)) := by
  cases c with
  | approveRebalanceProposal id actorId =>
    exact Or.inr ⟨.underway, by rw [hc]; rfl, Or.inl (by rw [hc]; rfl)⟩
  | rejectRebalanceProposal id actorId reason =>
    exact Or.inr ⟨.rejected, by rw [hc]; rfl, Or.inl (by rw [hc]; rfl)⟩
  | queueRebalanceProposalExecution id commandId =>
    exact Or.inr ⟨.underway, by rw [hc.1]; rfl, Or.inr ⟨rfl, Or.inl hc.2⟩⟩
  | markRebalanceProposalExecuting id | completeRebalanceProposal id executionId
  | failRebalanceProposal id executionId message =>
    exact Or.inr ⟨.underway, by rw [hc.1]; rfl, Or.inr ⟨rfl, Or.inr hc.2⟩⟩
  | control c =>
    cases c with
    | approveCarryAction id => exact Or.inr ⟨.underway, by rw [hc]; rfl, Or.inl (by rw [hc]; rfl)⟩
    | queueCarryActionExecution id commandId =>
      exact Or.inr ⟨.underway, by rw [hc.1]; rfl, Or.inr ⟨rfl, Or.inl hc.2⟩⟩
    | treasury c | store c => exact Or.inl rfl
    | _ => exact Or.inl hc
  | _ => exact Or.inl rfl

variable {target : DecisionTarget}

theorem settles_of_approves (hc : c.approves = some target) :
    c.settles = some (target, .underway) := by
  cases c with
  | approveRebalanceProposal =>
    cases hc
    rfl
  | control c =>
    cases c with
    | approveCarryAction =>
      cases hc
      rfl
    | _ => cases hc
  | _ => cases hc

theorem decides_of_approves (hc : c.approves = some target) : c.decides = some target := by
  cases c with
  | rejectRebalanceProposal => cases hc
  | _ => exact hc

theorem approved_of_enqueues (hc : DecisionPermits c note) (henqueues : c.enqueues = true) :
    note.approved = true := by
  cases c with
  | control c =>
    cases c with
    | store c =>
      cases c with
      | enqueueRuntimeCommand input now => exact hc
      | _ => cases henqueues
    | _ => cases henqueues
  | _ => cases henqueues

theorem active_of_executes (hc : DecisionPermits c note) {id : String}
    (hexecutes : c.executes = some id) : note.target = .proposal id ∧ note.active = true := by
  cases c with
  | createRebalanceExecution input | markRebalanceProposalExecuting id =>
    cases hexecutes
    exact hc
  | _ => cases hexecutes

/-! ## The invariant -/

section Invariant

variable {ι : Type} {env : RebalanceEnvironment} {start w : RebalanceWorld}

/-- What holds of the targets, the notes of the operations and the events so far, in a run from the
world `start`. -/
structure DecisionInv (start : RebalanceWorld) (notes : ι → DecisionNote)
    (events : List (ι × RebalanceEvent)) (w : RebalanceWorld) : Prop where
  known : ∀ target v, start.view target = some v →
    ∃ standing, w.view target = some { v with standing }
  underway : ∀ i, (notes i).approved = true ∨ (notes i).active = true →
    w.standing (notes i).target = some .underway
  unique : ∀ i j, (notes i).approved = true → (notes j).approved = true →
    (notes i).target = (notes j).target → i = j
  enqueued : ∀ x ∈ events, x.2.call.enqueues = true → (notes x.1).approved = true
  executed : ∀ x ∈ events, ∀ id, x.2.call.executes = some id →
    w.standing (.proposal id) = some .underway
  rejected : ∀ x ∈ events, ∀ id, RejectsProposal x.2 id →
    w.standing (.proposal id) = some .rejected
  threw : ∀ i, (notes i).threw = true → ∃ x ∈ events, x.1 = i ∧ x.2.threw = true

theorem standing_of_view {v : DecisionView} (hv : w.view target = some v) :
    w.standing target = some v.standing := by
  rw [RebalanceWorld.standing, hv]
  rfl

theorem view_of_standing {standing : Standing} (h : w.standing target = some standing) :
    ∃ v, w.view target = some v ∧ v.standing = standing := Option.map_eq_some_iff.1 h

namespace DecisionInv

variable {notes : ι → DecisionNote} {events : List (ι × RebalanceEvent)}

theorem reply (inv : DecisionInv start notes events w) (c : RebalanceCall) :
    DecisionReply start c (handleRebalance env c w).1 := by
  cases c with
  | getRebalanceProposal id =>
    unfold handleRebalance
    split
    · refine ⟨?_, fun v hv => ?_⟩
      · intro found hfound
        obtain ⟨row, hrow, rfl⟩ := Option.map_eq_some_iff.1 hfound
        exact Rows.key_of_find hrow
      · obtain ⟨standing, hstanding⟩ := inv.known _ _ hv
        refine ⟨standing, ?_⟩
        rw [← hstanding]
        exact Option.map_map ..
    · trivial
    · trivial
  | control c =>
    cases c with
    | carry c =>
      cases c with
      | getCarryAction id =>
        rw [handleRebalance_control]
        show DecisionReply start (.control (.carry (.getCarryAction id)))
          (handleCarry env.control.carry (.getCarryAction id) w.control.carry).1
        unfold handleCarry
        split
        · intro v hv
          obtain ⟨standing, hstanding⟩ := inv.known _ _ hv
          refine ⟨standing, ?_⟩
          rw [← hstanding]
          exact Option.map_map ..
        · trivial
        · trivial
      | _ => trivial
    | _ => trivial
  | _ => trivial

variable {i : ι}

/-- Where a target stands once it is decided does not change: a decision needs an undecided target,
and what is approved or executed stays underway. -/
theorem standing_step (inv : DecisionInv start notes events w) (hc : DecisionPermits c (notes i))
    (htime : DecidedInTime c w) {standing : Standing} (hdecided : standing ≠ .undecided)
    (h : w.standing target = some standing) :
    (handleRebalance env c w).2.standing target = some standing := by
  obtain ⟨v, hv, rfl⟩ := view_of_standing h
  rcases cases_of_permits hc with hkeeps | ⟨moved, hmoves, hwhy⟩
  · exact standing_of_view (handleRebalance_keeps hkeeps hv)
  rcases handleRebalance_settles env hmoves hv with hnext | ⟨hnext, -⟩
  · rw [standing_of_view hnext]
    by_cases htarget : target = (notes i).target
    · subst htarget
      rw [if_pos rfl]
      rcases hwhy with hdecides | ⟨rfl, hgoing⟩
      · -- The target would be undecided.
        have hundecided := htime _ hdecides
        rw [h] at hundecided
        exact absurd (Option.some.inj hundecided) hdecided
      · have hunderway := inv.underway i hgoing
        rw [h] at hunderway
        rw [Option.some.inj hunderway]
    · rw [if_neg htarget]
  · exact standing_of_view hnext

theorem known_step (inv : DecisionInv start notes events w) (hc : DecisionPermits c (notes i))
    {v : DecisionView} (hv : start.view target = some v) :
    ∃ standing, (handleRebalance env c w).2.view target = some { v with standing } := by
  obtain ⟨standing, hstanding⟩ := inv.known target v hv
  rcases cases_of_permits hc with hkeeps | ⟨moved, hmoves, -⟩
  · exact ⟨standing, handleRebalance_keeps hkeeps hstanding⟩
  rcases handleRebalance_settles env hmoves hstanding with hnext | ⟨hnext, -⟩
  · by_cases htarget : target = (notes i).target
    · exact ⟨moved, hnext.trans (by rw [if_pos htarget])⟩
    · exact ⟨standing, hnext.trans (by rw [if_neg htarget])⟩
  · exact ⟨standing, hnext⟩

/-- A proposal that is read as approved or queued is underway. -/
theorem underway_of_readsActive (hc : DecisionPermits c note)
    (hreads : readsActive c (handleRebalance env c w).1 = true) :
    (handleRebalance env c w).2.standing note.target = some .underway := by
  cases c with
  | getRebalanceProposal id =>
    have htarget : note.target = .proposal id := hc
    rw [htarget]
    unfold handleRebalance at hreads ⊢
    split at hreads
    · cases hfound : w.tables.findProposal id with
      | none =>
        rw [show (performRebalance env w (.getRebalanceProposal id)).1 = .ok none from
          congrArg Except.ok (by rw [RebalanceWorld.proposalDetail, hfound]; rfl)] at hreads
        cases hreads
      | some row =>
        have hstatus : row.status = .queued ∨ row.status = .approved := by
          have hrow : (performRebalance env w (.getRebalanceProposal id)).1 =
              .ok (some ⟨row, (w.tables.executions.filter fun row =>
                decide (row.proposalId = id)).reverse⟩) :=
            congrArg Except.ok (by rw [RebalanceWorld.proposalDetail, hfound]; rfl)
          rw [hrow] at hreads
          simpa [readsActive] using hreads
        have hview : w.view (.proposal id) = some row.view := congrArg (Option.map _) hfound
        refine (standing_of_view hview).trans (congrArg some ?_)
        rcases hstatus with hstatus | hstatus <;> rw [RebalanceProposalRow.view, hstatus] <;> rfl
    · cases hreads
    · cases hreads
  | _ => cases hreads

theorem underway_of_approves (htime : DecidedInTime c w)
    (happroves : c.approves = some (notes i).target) (hok : (handleRebalance env c w).1.isOk = true) :
    (handleRebalance env c w).2.standing (notes i).target = some .underway := by
  obtain ⟨v, hv, -⟩ := view_of_standing (htime _ (decides_of_approves happroves))
  have hsettles := settles_of_approves happroves
  rcases handleRebalance_settles env hsettles hv with hnext | ⟨-, hfailed⟩
  · rw [if_pos rfl] at hnext
    exact standing_of_view hnext
  · rw [hok] at hfailed
    cases hfailed

theorem step {notes' : ι → DecisionNote} (inv : DecisionInv start notes events w)
    (hc : DecisionPermits c (notes i)) (htime : DecidedInTime c w)
    (hself : notes' i = (decisionContract start).note c (handleRebalance env c w).1 (notes i))
    (hother : ∀ j, j ≠ i → notes' j = notes j) :
    DecisionInv start notes'
      (events ++ [(i, ⟨w, c, (handleRebalance env c w).1, (handleRebalance env c w).2⟩)])
      (handleRebalance env c w).2 := by
  have htarget (j : ι) : (notes' j).target = (notes j).target := by
    by_cases hj : j = i
    · subst hj
      rw [hself]
      rfl
    · rw [hother j hj]
  have happroved (j : ι) (h : (notes' j).approved = true) : (notes j).approved = true ∨
      j = i ∧ c.approves = some (notes i).target ∧ (handleRebalance env c w).1.isOk = true := by
    by_cases hj : j = i
    · subst hj
      rw [hself] at h
      simpa [decisionContract] using h
    · rw [hother j hj] at h
      exact Or.inl h
  have hmono (j : ι) (h : (notes j).approved = true) : (notes' j).approved = true := by
    by_cases hj : j = i
    · subst hj
      rw [hself]
      simp [decisionContract, h]
    · rw [hother j hj]
      exact h
  have hunderway (j : ι) (h : (notes j).approved = true ∨ (notes j).active = true) :
      (handleRebalance env c w).2.standing (notes j).target = some .underway :=
    inv.standing_step hc htime (by decide) (inv.underway j h)
  constructor
  · exact fun target v hv => inv.known_step hc hv
  · intro j hj
    rw [htarget]
    rcases hj with hj | hj
    · rcases happroved j hj with hj | ⟨rfl, happroves, hok⟩
      · exact hunderway j (Or.inl hj)
      · exact underway_of_approves htime happroves hok
    · by_cases hji : j = i
      · subst hji
        rw [hself] at hj
        have hj : (notes j).active = true ∨ readsActive c (handleRebalance env c w).1 = true := by
          simpa [decisionContract] using hj
        rcases hj with hj | hj
        · exact hunderway j (Or.inr hj)
        · exact underway_of_readsActive hc hj
      · rw [hother j hji] at hj
        exact hunderway j (Or.inr hj)
  · intro j k hj hk hjk
    rw [htarget, htarget] at hjk
    have hlate (k : ι) (hk : (notes k).approved = true)
        (happroves : c.approves = some (notes k).target) : False := by
      have hundecided := htime _ (decides_of_approves happroves)
      rw [inv.underway k (Or.inl hk)] at hundecided
      cases hundecided
    rcases happroved j hj with hj | ⟨rfl, happroves, -⟩
    · rcases happroved k hk with hk | ⟨rfl, happroves, -⟩
      · exact inv.unique j k hj hk hjk
      · exact (hlate j hj (by rw [hjk]; exact happroves)).elim
    · rcases happroved k hk with hk | ⟨rfl, -, -⟩
      · exact (hlate k hk (by rw [← hjk]; exact happroves)).elim
      · rfl
  · intro x hx henqueues
    rcases List.mem_append.1 hx with hx | hx
    · exact hmono _ (inv.enqueued x hx henqueues)
    · obtain rfl := List.mem_singleton.1 hx
      exact hmono i (approved_of_enqueues hc henqueues)
  · intro x hx id hexecutes
    rcases List.mem_append.1 hx with hx | hx
    · exact inv.standing_step hc htime (by decide) (inv.executed x hx id hexecutes)
    · obtain rfl := List.mem_singleton.1 hx
      obtain ⟨hid, hactive⟩ := active_of_executes hc hexecutes
      rw [← hid]
      exact hunderway i (Or.inr hactive)
  · intro x hx id hrejects
    rcases List.mem_append.1 hx with hx | hx
    · exact inv.standing_step hc htime (by decide) (inv.rejected x hx id hrejects)
    · obtain rfl := List.mem_singleton.1 hx
      exact hrejects.2
  · intro j hj
    by_cases hji : j = i
    · subst hji
      rw [hself] at hj
      have hj : (notes j).threw = true ∨ (handleRebalance env c w).1.isOk = false := by
        simpa [decisionContract] using hj
      rcases hj with hj | hj
      · obtain ⟨x, hx, hxj, hthrew⟩ := inv.threw j hj
        exact ⟨x, List.mem_append_left _ hx, hxj, hthrew⟩
      · refine ⟨_, List.mem_append_right _ (List.mem_singleton_self _), rfl, ?_⟩
        simp [Event.threw, hj]
    · rw [hother j hji] at hj
      obtain ⟨x, hx, hxj, hthrew⟩ := inv.threw j hj
      exact ⟨x, List.mem_append_left _ hx, hxj, hthrew⟩

end DecisionInv

end Invariant

/-! ## The operations follow the contract -/

namespace DecisionOperation

/-- How an approval ends that passes the checks but that of the status: it has approved its target,
or a call has thrown, or it throws the status error. -/
def Outcome {α : Type} (start : RebalanceWorld) (op : DecisionOperation) (r : Except String α)
    (note : DecisionNote) : Prop :=
  ∀ actorRole, op.approvesAs = some actorRole → start.approvable op.target actorRole = true →
    note.approved = true ∨ note.threw = true ∨
      ∃ message, r = .error message ∧ op.target.StatusError message

end DecisionOperation

def AsApproved (target : DecisionTarget) (c : RebalanceCall) : Prop :=
  ∀ note : DecisionNote, note.target = target → note.approved = true → DecisionPermits c note

/-- Calls that are permitted once a status was read that may be executed. -/
def AsActive (target : DecisionTarget) (c : RebalanceCall) : Prop :=
  ∀ note : DecisionNote, note.target = target → note.active = true → DecisionPermits c note

section Follows

variable {α : Type} {start : RebalanceWorld} {Q : Except String α → DecisionNote → Prop}
  {note : DecisionNote}

variable {t : RebalanceTask α}

theorem followsTo_asApproved (hQ : ∀ r note, note.approved = true → Q r note)
    (ht : t.Uses (AsApproved note.target)) (happroved : note.approved = true) :
    (decisionContract start).FollowsTo Q t note := by
  refine Contract.followsTo_of_uses
    (G := fun later => later.target = note.target ∧ later.approved = true) ?_
    (fun r later hlater => hQ r later hlater.2) ht ⟨rfl, happroved⟩
  intro c later hc hlater
  refine ⟨hc later hlater.1 hlater.2, fun r => ⟨hlater.1, ?_⟩⟩
  simp [decisionContract, hlater.2]

theorem followsTo_asActive (hQ : ∀ r note, Q r note) (ht : t.Uses (AsActive note.target))
    (hactive : note.active = true) :
    (decisionContract start).FollowsTo Q t note := by
  refine Contract.followsTo_of_uses
    (G := fun later => later.target = note.target ∧ later.active = true) ?_
    (fun r later _ => hQ r later) ht ⟨rfl, hactive⟩
  intro c later hc hlater
  refine ⟨hc later hlater.1 hlater.2, fun r => ⟨hlater.1, ?_⟩⟩
  simp [decisionContract, hlater.2]

theorem uses_enqueueCommand (commandId : String) (commandType : Runtime.RuntimeCommandType)
    (requestedBy : String) (payload : Runtime.Record) (now : Date) :
    (liftControl (enqueueCommand commandId commandType requestedBy payload now)).Uses
      (AsApproved target) := by
  refine Task.Uses.embed (Task.Uses.embed (Task.uses_of_forall (fun c later _ happroved => ?_) _))
  cases c with
  | enqueueRuntimeCommand input now => exact happroved
  | _ => rfl

theorem uses_changeProposal {p : RebalanceCall → Prop} {id : String} (hc : p c)
    (hread : p (.getRebalanceProposal id)) (hsync : p (.syncRebalanceBundleForProposal id)) :
    (changeProposal id c).Uses p :=
  Task.Uses.call_bind hc fun _ => Task.Uses.call_bind hread fun _ =>
    Task.Uses.call_bind hsync fun _ => trivial

variable (id actorId : String) (op : DecisionOperation) {actorRole : OperatorRole}

theorem recalled_of_approvable (happrovable : start.approvable target actorRole = true)
    {answer : Option DecisionView} (hrecalls : Recalls start target answer) :
    ∃ v, answer = some v ∧ v.blocked = false ∧
      canSatisfyApprovalRequirement actorRole v.requirement = true := by
  obtain ⟨v, hv, hchecks⟩ := (Option.any_eq_true _ _).1 happrovable
  obtain ⟨standing, hanswer⟩ := hrecalls v hv
  refine ⟨_, hanswer, ?_⟩
  simpa using hchecks

/-- The checks of an approval: those before the status are passed by whoever may approve. -/
theorem followsTo_checks (hop : op.approvesAs = some actorRole) {v : DecisionView}
    (hrecalls : Recalls start op.target (some v)) {blockedError roleError statusError : String}
    {late : Prop} [Decidable late] (hlate : late → op.target.StatusError statusError)
    (ht : (decisionContract start).FollowsTo (op.Outcome start) t note) :
    (decisionContract start).FollowsTo (op.Outcome start)
      (if v.blocked then .fail blockedError
        else if !canSatisfyApprovalRequirement actorRole v.requirement then .fail roleError
        else if late then .fail statusError else t) note := by
  have hchecks (happrovable : start.approvable op.target actorRole = true) :
      v.blocked = false ∧ canSatisfyApprovalRequirement actorRole v.requirement = true := by
    obtain ⟨found, hfound, hblocked, hrole⟩ := recalled_of_approvable happrovable hrecalls
    obtain rfl := Option.some.inj hfound
    exact ⟨hblocked, hrole⟩
  by_cases hblocked : v.blocked = true
  · rw [if_pos hblocked]
    intro role hrole happrovable
    rw [hop] at hrole
    obtain rfl := Option.some.inj hrole
    rw [(hchecks happrovable).1] at hblocked
    cases hblocked
  rw [if_neg hblocked]
  by_cases hdenied : (!canSatisfyApprovalRequirement actorRole v.requirement) = true
  · rw [if_pos hdenied]
    intro role hrole happrovable
    rw [hop] at hrole
    obtain rfl := Option.some.inj hrole
    rw [(hchecks happrovable).2] at hdenied
    cases hdenied
  rw [if_neg hdenied]
  by_cases hstatus : late
  · rw [if_pos hstatus]
    exact fun _ _ _ => Or.inr (Or.inr ⟨_, rfl, hlate hstatus⟩)
  · rw [if_neg hstatus]
    exact ht

theorem outcome_none (hrecalls : Recalls start op.target none) (r : Except String α)
    (note : DecisionNote) : op.Outcome start r note := by
  intro role _ happrovable
  obtain ⟨v, hv, -⟩ := recalled_of_approvable happrovable hrecalls
  cases hv

theorem outcome_threw {op : DecisionOperation} (hthrew : note.threw = true) (r : Except String α) :
    op.Outcome start r note := fun _ _ _ => Or.inr (Or.inl hthrew)

theorem outcome_approved {op : DecisionOperation} (r : Except String α) (note : DecisionNote)
    (happroved : note.approved = true) : op.Outcome start r note := fun _ _ _ => Or.inl happroved

theorem followsTo_approveProposal (actorRole : OperatorRole) (commandId : String) (now : Date) :
    (decisionContract start).FollowsTo
      ((DecisionOperation.approveProposal id actorId actorRole commandId now).Outcome start)
      (approveRebalanceProposal id actorId actorRole commandId now)
      { target := .proposal id } := by
  refine Contract.followsTo_call_bind rfl ?_ (fun e _ => outcome_threw rfl _)
  intro detail hreply
  obtain ⟨-, hrecalls⟩ := hreply
  cases detail with
  | none => exact outcome_none (.approveProposal id actorId actorRole commandId now) hrecalls _ _
  | some detail =>
    refine followsTo_checks (v := detail.proposal.view)
      (.approveProposal id actorId actorRole commandId now) rfl hrecalls
      (fun hstatus => ⟨_, hstatus, rfl⟩) ?_
    unfold startProposal changeProposal
    rw [Task.bind_assoc]
    refine Contract.followsTo_call_bind rfl ?_ (fun e _ => outcome_threw rfl _)
    intro _ _
    refine followsTo_asApproved outcome_approved ?_ ?_
    · refine Task.Uses.bind ?_ fun _ => ?_
      · exact Task.Uses.call_bind (fun _ htarget _ => htarget) fun _ =>
          Task.Uses.call_bind (fun _ _ _ => rfl) fun _ => trivial
      refine Task.Uses.bind (uses_enqueueCommand ..) fun command => ?_
      refine Task.Uses.bind ?_ fun _ => ?_
      · exact uses_changeProposal (fun _ htarget happroved => ⟨htarget, happroved⟩)
          (fun _ htarget _ => htarget) (fun _ _ _ => rfl)
      · exact Task.Uses.call_bind (fun _ _ _ => rfl) fun _ => trivial
    · simp [decisionContract, RebalanceCall.approves, Except.isOk, Except.toBool]

theorem followsTo_approveCarry (actorRole : OperatorRole) (commandId : String) (now : Date) :
    (decisionContract start).FollowsTo
      ((DecisionOperation.approveCarry id actorId actorRole commandId now).Outcome start)
      (approveCarryAction id actorId actorRole commandId now)
      { target := .carryAction id } := by
  refine Contract.followsTo_call_bind rfl ?_ (fun e _ => outcome_threw rfl _)
  intro detail hrecalls
  cases detail with
  | none => exact outcome_none (.approveCarry id actorId actorRole commandId now) hrecalls _ _
  | some detail =>
    refine followsTo_checks (v := detail.action.view)
      (.approveCarry id actorId actorRole commandId now) rfl hrecalls
      (fun hstatus => ⟨_, hstatus, rfl⟩) ?_
    unfold startCarryAction changeCarryAction
    rw [Task.bind_assoc]
    refine Contract.followsTo_call_bind rfl ?_ (fun e _ => outcome_threw rfl _)
    intro _ _
    refine followsTo_asApproved outcome_approved ?_ ?_
    · refine Task.Uses.bind ?_ fun _ => ?_
      · exact Task.Uses.call_bind (fun _ _ _ => rfl) fun _ => trivial
      refine Task.Uses.bind (uses_enqueueCommand ..) fun command => ?_
      refine Task.Uses.bind ?_ fun _ => ?_
      · exact Task.Uses.call_bind (fun _ htarget happroved => ⟨htarget, happroved⟩) fun _ =>
          Task.Uses.call_bind (fun _ _ _ => rfl) fun _ => trivial
      refine Task.Uses.call_bind (fun _ _ _ => rfl) fun _ => ?_
      cases detail.action.linkedRebalanceProposalId with
      | none => trivial
      | some proposalId => exact Task.Uses.call_bind (fun _ _ _ => rfl) fun _ => trivial
    · simp [decisionContract, RebalanceCall.approves, Except.isOk, Except.toBool]

theorem followsTo_rejectProposal {Q : Except String (Option RebalanceProposalRow) → DecisionNote →
    Prop} (hQ : ∀ r note, Q r note) (id actorId : String) (actorRole : OperatorRole)
    (reason : String) :
    (decisionContract start).FollowsTo Q (rejectRebalanceProposal id actorId actorRole reason)
      { target := .proposal id } := by
  refine Contract.followsTo_of_uses (G := fun later => later.target = .proposal id)
    (p := fun c => ∀ note : DecisionNote, note.target = .proposal id → DecisionPermits c note)
    (fun c later hc hlater => ⟨hc later hlater, fun _ => hlater⟩) (fun _ _ _ => hQ _ _) ?_ rfl
  refine Task.Uses.call_bind (fun _ htarget => htarget) fun detail => ?_
  cases detail with
  | none => trivial
  | some detail =>
    show Task.Uses _ (if _ then _ else _)
    split_ifs
    · trivial
    · trivial
    · refine Task.Uses.bind ?_ fun _ => ?_
      · exact uses_changeProposal (fun _ htarget => htarget) (fun _ htarget => htarget)
          (fun _ _ => rfl)
      · exact Task.Uses.call_bind (fun _ _ => rfl) fun _ => trivial

section Execution

variable {target : DecisionTarget}

theorem uses_sendTreasury {c : TreasuryCall} {f : c.Reply → RebalanceTask α}
    (hf : ∀ a, (f a).Uses (AsActive target)) :
    (sendTreasury c >>= f).Uses (AsActive target) :=
  Task.Uses.call_bind (fun _ _ _ => rfl) hf

theorem uses_failProposal (id executionId message : String) :
    (failProposal id executionId message).Uses (AsActive (.proposal id)) := by
  refine Task.Uses.bind ?_ fun _ => Task.Uses.call_bind (fun _ _ _ => rfl) fun _ => trivial
  exact uses_changeProposal (fun _ htarget hactive => ⟨htarget, hactive⟩)
    (fun _ htarget _ => htarget) (fun _ _ _ => rfl)

variable (ctx : RebalanceContext)

theorem uses_applyCarry (sourceRunId : Option String) :
    (ctx.applyCarry sourceRunId).Uses (AsActive target) := by
  unfold RebalanceContext.applyCarry
  split_ifs
  · trivial
  · exact Task.Uses.call_bind (fun _ _ _ => rfl) fun _ =>
      Task.Uses.call_bind (fun _ _ _ => rfl) fun _ => trivial
  · exact Task.Uses.call_bind (fun _ _ _ => rfl) fun _ =>
      Task.Uses.call_bind (fun _ _ _ => rfl) fun _ =>
        Task.Uses.call_bind (fun _ _ _ => rfl) fun _ =>
          Task.Uses.call_bind (fun _ _ _ => rfl) fun _ => trivial

theorem uses_applyTreasury :
    ctx.applyTreasury.Uses (AsActive target) := by
  unfold RebalanceContext.applyTreasury
  split_ifs
  · trivial
  refine uses_sendTreasury fun treasuryRunId => ?_
  cases treasuryRunId with
  | none => trivial
  | some treasuryRunId =>
    refine uses_sendTreasury fun treasuryAction => uses_sendTreasury fun _ => ?_
    cases ctx.input.commandId with
    | none =>
      exact uses_sendTreasury fun _ => uses_sendTreasury fun _ => uses_sendTreasury fun _ =>
        uses_sendTreasury fun _ => trivial
    | some commandId =>
      exact uses_sendTreasury fun _ => uses_sendTreasury fun _ => uses_sendTreasury fun _ =>
        uses_sendTreasury fun _ => uses_sendTreasury fun _ => trivial

theorem uses_complete (carryIds treasuryIds : List String) :
    (ctx.complete carryIds treasuryIds).Uses (AsActive (.proposal ctx.proposal.id)) := by
  refine Task.Uses.call_bind (fun _ _ _ => rfl) fun _ => Task.Uses.bind ?_ fun _ => ?_
  · exact uses_changeProposal (fun _ htarget hactive => ⟨htarget, hactive⟩)
      (fun _ htarget _ => htarget) (fun _ _ _ => rfl)
  · exact Task.Uses.call_bind (fun _ _ _ => rfl) fun _ =>
      Task.Uses.call_bind (fun _ _ _ => rfl) fun _ => trivial

theorem uses_runRebalance (input : ExecuteRebalanceInput) (proposal : RebalanceProposalRow)
    (executionId : String) :
    (runRebalance input proposal executionId).Uses (AsActive (.proposal proposal.id)) := by
  unfold runRebalance
  split_ifs
  · exact uses_failProposal ..
  refine Task.Uses.bind ?_ fun _ => ?_
  · exact uses_changeProposal (fun _ htarget hactive => ⟨htarget, hactive⟩)
      (fun _ htarget _ => htarget) (fun _ _ _ => rfl)
  split
  · rename_i carryIntent treasuryIntent _ _
    refine Task.Uses.call_bind (fun _ _ _ => rfl) fun _ =>
      Task.Uses.call_bind (fun _ _ _ => rfl) fun decision =>
        Task.Uses.bind (uses_applyCarry _ _) fun carryIds =>
          Task.Uses.bind (uses_applyTreasury _) fun treasuryIds => ?_
    have hcomplete := uses_complete { input, proposal, carryIntent, treasuryIntent, executionId }
      carryIds treasuryIds
    show Task.Uses _ (if _ then _ else _)
    split_ifs
    · exact Task.Uses.call_bind (fun _ _ _ => rfl) fun _ => hcomplete
    · exact hcomplete
  · exact Task.Uses.call_bind (fun _ _ _ => rfl) fun _ => uses_failProposal ..

end Execution

theorem followsTo_executeProposal {Q : Except String ExecuteRebalanceResult → DecisionNote → Prop}
    (hQ : ∀ r note, Q r note) (input : ExecuteRebalanceInput) :
    (decisionContract start).FollowsTo Q (executeRebalanceProposal input)
      { target := .proposal input.proposalId } := by
  refine Contract.followsTo_call_bind rfl ?_ (fun _ _ => hQ _ _)
  intro detail hreply
  cases detail with
  | none => exact hQ _ _
  | some detail =>
    have hid : detail.proposal.id = input.proposalId := hreply.1 detail rfl
    show (decisionContract start).FollowsTo Q (if _ then _ else _) _
    by_cases hstatus : detail.proposal.status ≠ .queued ∧ detail.proposal.status ≠ .approved
    · rw [if_pos hstatus]
      exact hQ _ _
    rw [if_neg hstatus]
    have hactive : detail.proposal.status = .queued ∨ detail.proposal.status = .approved := by
      by_contra hneither
      exact hstatus (not_or.1 hneither)
    refine followsTo_asActive hQ ?_ ?_
    · rw [show DecisionNote.target _ = .proposal detail.proposal.id from by rw [hid]; rfl]
      refine Task.Uses.call_bind (fun _ htarget hactive => ⟨htarget, hactive⟩) fun execution => ?_
      exact uses_runRebalance input detail.proposal execution.id
    · simpa [decisionContract, readsActive] using hactive

theorem followsTo_task :
    (decisionContract start).FollowsTo (op.Outcome start) op.task { target := op.target } := by
  have hmap {β : Type} (op : DecisionOperation) (r : Except String β) (note : DecisionNote)
      (h : op.Outcome start r note) : op.Outcome start (r.map fun _ => ()) note := by
    intro role hrole happrovable
    rcases h role hrole happrovable with h | h | ⟨message, rfl, hmessage⟩
    · exact Or.inl h
    · exact Or.inr (Or.inl h)
    · exact Or.inr (Or.inr ⟨message, rfl, hmessage⟩)
  cases op with
  | approveProposal id actorId actorRole commandId now =>
    exact Contract.FollowsTo.map (hmap _) (followsTo_approveProposal ..)
  | approveCarry id actorId actorRole commandId now =>
    exact Contract.FollowsTo.map (hmap _) (followsTo_approveCarry ..)
  | rejectProposal id actorId actorRole reason =>
    refine Contract.FollowsTo.map (hmap _) (followsTo_rejectProposal ?_ ..)
    intro r note role hrole
    cases hrole
  | executeProposal input =>
    refine Contract.FollowsTo.map (hmap _) (followsTo_executeProposal ?_ _)
    intro r note role hrole
    cases hrole

end Follows

/-! ## Runs -/

section Runs

variable {ι : Type} [DecidableEq ι]

def decisionEvents (env : RebalanceEnvironment) (ops : ι → DecisionOperation) (sched : List ι)
    (start : RebalanceWorld) : List (ι × RebalanceEvent) :=
  poolEvents (handleRebalance env) sched (fun i => (ops i).task) start

def decisionTasks (env : RebalanceEnvironment) (ops : ι → DecisionOperation) (sched : List ι)
    (start : RebalanceWorld) : ι → RebalanceTask Unit :=
  (runPool (handleRebalance env) sched (fun i => (ops i).task) start).1

/-- An approval starts one execution: a target is enqueued by one operation, any other approval of it
that may approve it ends with the status error unless one of its calls throws, and a proposal that is
rejected is not executed. -/
structure OneExecution (env : RebalanceEnvironment) (ops : ι → DecisionOperation) (sched : List ι)
    (start : RebalanceWorld) : Prop where
  enqueued_once : ∀ x ∈ decisionEvents env ops sched start,
    ∀ y ∈ decisionEvents env ops sched start, x.2.call.enqueues = true →
      y.2.call.enqueues = true → (ops x.1).target = (ops y.1).target → x.1 = y.1
  others_refused : ∀ x ∈ decisionEvents env ops sched start, x.2.call.enqueues = true →
    ∀ j, j ≠ x.1 → (ops j).target = (ops x.1).target → ∀ actorRole,
      (ops j).approvesAs = some actorRole → start.approvable (ops j).target actorRole = true →
        ∀ r, (decisionTasks env ops sched start j).result? = some r →
          (∃ y ∈ decisionEvents env ops sched start, y.1 = j ∧ y.2.threw = true) ∨
            ∃ message, r = .error message ∧ (ops j).target.StatusError message
  rejected_not_executed : ∀ x ∈ decisionEvents env ops sched start, ∀ id,
    RejectsProposal x.2 id → ∀ y ∈ decisionEvents env ops sched start,
      y.2.call.executes ≠ some id

theorem noteOf_target (start : RebalanceWorld) (g : ι → DecisionNote)
    (events : List (ι × RebalanceEvent)) (i : ι) :
    ((decisionContract start).noteOf g events i).target = (g i).target := by
  unfold Contract.noteOf
  generalize g i = note
  induction events generalizing note with
  | nil => rfl
  | cons e events ih =>
    rw [List.foldl_cons, ih]
    split_ifs <;> rfl

/-- If every decision is written while its target is still undecided, then an approval starts one
execution, under every schedule of any number of operations. -/
theorem oneExecution_of_decidedInTime (env : RebalanceEnvironment) (ops : ι → DecisionOperation)
    (sched : List ι) (start : RebalanceWorld)
    (htime : ∀ x ∈ decisionEvents env ops sched start, DecidedInTime x.2.call x.2.before) :
    OneExecution env ops sched start := by
  let K := decisionContract start
  let g : ι → DecisionNote := fun i => { target := (ops i).target }
  obtain ⟨inv, houtcome⟩ := Contract.runPool_of_meets (K := K) (h := handleRebalance env)
    (g := g) (A := fun c w _ => DecidedInTime c w)
    (J := fun events w => DecisionInv start (K.noteOf g events) events w)
    (Q := fun i => (ops i).Outcome start)
    (fun events c w inv => inv.reply c)
    (fun events i c w inv hc htime => inv.step hc htime (Contract.noteOf_append events i _)
      fun j hj => Contract.noteOf_append_of_ne hj events _)
    (Contract.scheduleMeets_of_events K htime) (fun i => followsTo_task (ops i))
    ⟨fun target v hv => ⟨v.standing, hv⟩, by simp [Contract.noteOf, g], by simp [Contract.noteOf, g],
      by simp, by simp, by simp, by simp [Contract.noteOf, g]⟩
  have htarget (i : ι) : (K.noteOf g (decisionEvents env ops sched start) i).target =
      (ops i).target := noteOf_target start g _ i
  constructor
  · intro x hx y hy hxe hye hxy
    refine inv.unique x.1 y.1 (inv.enqueued x hx hxe) (inv.enqueued y hy hye) ?_
    exact (htarget x.1).trans (hxy.trans (htarget y.1).symm)
  · intro x hx hxe j hj hjx actorRole hrole happrovable r hr
    rcases (houtcome j).result hr actorRole hrole happrovable with happroved | hthrew | hmessage
    · refine absurd (inv.unique j x.1 happroved (inv.enqueued x hx hxe) ?_) hj
      exact (htarget j).trans (hjx.trans (htarget x.1).symm)
    · exact Or.inl (inv.threw j hthrew)
    · exact Or.inr hmessage
  · intro x hx id hrejects y hy hexecutes
    have hrejected := inv.rejected x hx id hrejects
    rw [inv.executed y hy id hexecutes] at hrejected
    cases hrejected

end Runs

/-! ### Two operators -/

def sampleProposal : RebalanceProposalRow where
  id := "p"
  allocatorRunId := "run"
  status := .proposed
  executionMode := .dryRun
  simulated := true
  executable := true
  approvalRequirement := .operator
  blockedReasons := []
  intents := []
  approvedBy := none
  rejectedBy := none
  rejectionReason := none
  linkedCommandId := none
  latestExecutionId := none
  lastError := none

def sampleRebalanceEnvironment : RebalanceEnvironment where
  control := ControlRuntime.sampleControlEnvironment
  decisions _ := none
  planned _ := []
  venues _ := .ok ()
  criticalMismatches _ := 0
  faults _ := none

/-- One proposal waits for a decision. -/
def sampleRebalanceWorld : RebalanceWorld where
  control := ControlRuntime.sampleControlWorld
  tables := { proposals := [sampleProposal], executions := [], bundles := [], current := none,
              nextId := 0 }
  calls := 0

/-- Two operators approve the proposal, and the worker executes it. -/
def sampleApprovals : Fin 3 → DecisionOperation
  | 0 => .approveProposal "p" "alice" .operator "command-0" 0
  | 1 => .approveProposal "p" "bob" .admin "command-1" 0
  | 2 => .executeProposal
    { proposalId := "p", actorId := "alice", commandId := some "command-0", startedBy := "worker" }

/-- The second operator comes when the first one has finished. -/
def sampleSequence : List (Fin 3) := List.replicate 11 0 ++ [1] ++ List.replicate 8 2

theorem oneExecution_sample :
    ((decisionEvents sampleRebalanceEnvironment sampleApprovals sampleSequence
        sampleRebalanceWorld).filter fun x => x.2.call.enqueues).map (fun x => x.1) = [0] ∧
      OneExecution sampleRebalanceEnvironment sampleApprovals sampleSequence
        sampleRebalanceWorld :=
  ⟨by decide +kernel, oneExecution_of_decidedInTime sampleRebalanceEnvironment sampleApprovals
    sampleSequence sampleRebalanceWorld (by decide +kernel)⟩

/-- One operator approves the proposal and the other one rejects it. -/
def sampleDisagreement : Fin 3 → DecisionOperation
  | 0 => sampleApprovals 0
  | 1 => .rejectProposal "p" "bob" .admin "too early"
  | 2 => sampleApprovals 2

/-- Both operators read the proposal before either of them decides. -/
def sampleOverlap : List (Fin 3) := [0, 1] ++ List.replicate 10 0 ++ List.replicate 10 1

/-- The rejection is written between the approval and the move to `queued`. -/
def sampleOverruled : List (Fin 3) :=
  [0, 1] ++ List.replicate 3 0 ++ List.replicate 4 1 ++ List.replicate 7 0 ++ List.replicate 8 2

/-- Two approvals of one proposal both enqueue its execution, and a proposal is executed although
its last decision is a rejection. -/
theorem approvals_overlap :
    ((decisionEvents sampleRebalanceEnvironment sampleApprovals sampleOverlap
        sampleRebalanceWorld).filter fun x => x.2.call.enqueues).map (fun x => x.1) = [0, 1] ∧
      ¬ OneExecution sampleRebalanceEnvironment sampleApprovals sampleOverlap
        sampleRebalanceWorld ∧
      ¬ OneExecution sampleRebalanceEnvironment sampleDisagreement sampleOverruled
        sampleRebalanceWorld := by
  have henqueued : ((decisionEvents sampleRebalanceEnvironment sampleApprovals sampleOverlap
      sampleRebalanceWorld).filter fun x => x.2.call.enqueues).map (fun x => x.1) = [0, 1] := by
    decide +kernel
  have hrejected : ((decisionEvents sampleRebalanceEnvironment sampleDisagreement sampleOverruled
      sampleRebalanceWorld).any fun x => decide (x.2.call.rejects = some "p") &&
        decide (x.2.after.standing (.proposal "p") = some .rejected)) = true := by
    decide +kernel
  have hexecuted : ((decisionEvents sampleRebalanceEnvironment sampleDisagreement sampleOverruled
      sampleRebalanceWorld).any fun x => decide (x.2.call.executes = some "p")) = true := by
    decide +kernel
  refine ⟨henqueued, fun h => ?_, fun h => ?_⟩
  · have henqueues (i : Fin 3) (hi : i ∈ [0, 1]) : ∃ x ∈ decisionEvents sampleRebalanceEnvironment
        sampleApprovals sampleOverlap sampleRebalanceWorld, x.2.call.enqueues = true ∧ x.1 = i := by
      rw [← henqueued] at hi
      obtain ⟨x, hx, hxi⟩ := List.mem_map.1 hi
      obtain ⟨hx, hxe⟩ := List.mem_filter.1 hx
      exact ⟨x, hx, hxe, hxi⟩
    obtain ⟨x, hx, hxe, hx0⟩ := henqueues 0 (by simp)
    obtain ⟨y, hy, hye, hy1⟩ := henqueues 1 (by simp)
    have hsame := h.enqueued_once x hx y hy hxe hye (by rw [hx0, hy1]; rfl)
    rw [hx0, hy1] at hsame
    exact absurd hsame (by decide)
  · obtain ⟨x, hx, hrejects⟩ := List.any_eq_true.1 hrejected
    obtain ⟨y, hy, hexecutes⟩ := List.any_eq_true.1 hexecuted
    exact h.rejected_not_executed x hx "p" (by simpa [RejectsProposal] using hrejects) y hy
      (by simpa using hexecutes)

end SentinelApex
