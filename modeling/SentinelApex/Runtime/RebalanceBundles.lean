import SentinelApex.Runtime.RecoveryCandidates

/-!
# Outcome of a rebalance bundle

A bundle is derived from its proposal and the children of both sleeves: `deriveBundleChildState`
gives every child a state by an ordered cascade, and `deriveRebalanceBundleSnapshot` classifies the
bundle by a second one over the proposal and the counts of these states.

The counts add up, and an outcome is `safe_complete` only if everything completed. Once the proposal
is executed, a mix of completed and other children is a partial application; before that, the
proposal alone decides (`classifies`).
-/

namespace SentinelApex

/-! ## Children -/

/-- What the rollups read of an execution of a child. -/
structure BundleExecution where
  id : String
  status : ActionStatus
  executionMode : ActionExecutionMode
  simulated : Bool
  venueExecutionReference : Option String

/-- What the rollups read of a child: its action and its executions. -/
structure BundleChild where
  status : ActionStatus
  executable : Bool
  hasBlockedReasons : Bool
  simulated : Bool
  latestExecutionId : Option String
  executions : List BundleExecution

def RebalanceCarryActionNode.bundleChild (node : RebalanceCarryActionNode) : BundleChild where
  status := node.action.status
  executable := node.action.executable
  hasBlockedReasons := !node.action.blockedReasons.isEmpty
  simulated := node.action.simulated
  latestExecutionId := node.action.latestExecutionId
  executions := node.executions.map fun execution =>
    { id := execution.id
      status := execution.status
      executionMode := execution.executionMode
      simulated := execution.simulated
      venueExecutionReference := execution.venueExecutionReference }

def RebalanceTreasuryActionNode.bundleChild (node : RebalanceTreasuryActionNode) :
    BundleChild where
  status := node.action.status
  executable := node.action.executable
  hasBlockedReasons := !node.action.blockedReasons.isEmpty
  simulated := node.action.simulated
  latestExecutionId := node.action.latestExecutionId
  executions := node.executions.map fun execution =>
    { id := execution.id
      status := execution.status
      executionMode := execution.executionMode
      simulated := execution.simulated
      venueExecutionReference := execution.venueExecutionReference }

inductive BundleChildState where
  | blocked
  | failed
  | completed
  | pending
  | executing
  deriving DecidableEq, Repr

def deriveBundleChildState (child : BundleChild) : BundleChildState :=
  if child.executions.any fun execution => decide (execution.status = .failed) then .failed
  else if child.executions.length > 0 then
    if child.executions.all fun execution => decide (execution.status = .completed) then .completed
    else .executing
  else if child.status = .failed then .failed
  else if child.status = .completed then .completed
  else if !child.executable || child.hasBlockedReasons then .blocked
  else if child.status = .executing ∨ child.status = .queued ∨ child.status = .approved then
    .executing
  else .pending

namespace BundleChild

variable {child : BundleChild}

/-- The executions of the child have all completed or, if there are none, its action has. -/
def Completed (child : BundleChild) : Prop :=
  if child.executions = [] then child.status = .completed
  else ∀ execution ∈ child.executions, execution.status = .completed

instance : Decidable child.Completed :=
  inferInstanceAs (Decidable (if child.executions = [] then child.status = .completed
    else ∀ execution ∈ child.executions, execution.status = .completed))

/-- The child has an execution that failed, or none that has not completed. -/
def Settled (child : BundleChild) : Prop :=
  (∃ execution ∈ child.executions, execution.status = .failed) ∨
    ∀ execution ∈ child.executions, execution.status = .completed

theorem derive_eq_completed_iff : deriveBundleChildState child = .completed ↔ child.Completed := by
  unfold deriveBundleChildState Completed
  cases hexecutions : child.executions with
  | nil =>
    cases child.status <;> cases child.executable <;> cases child.hasBlockedReasons <;> simp
  | cons execution executions =>
    have hne : ¬ execution :: executions = [] := by simp
    have hlength : (execution :: executions).length > 0 := by simp
    rw [if_neg hne]
    by_cases hfailed : ((execution :: executions).any fun execution =>
        decide (execution.status = .failed)) = true
    · rw [if_pos hfailed]
      simp only [reduceCtorEq, false_iff]
      intro hcompleted
      obtain ⟨e, he, hstatus⟩ := List.any_eq_true.1 hfailed
      rw [decide_eq_true_eq, hcompleted e he] at hstatus
      cases hstatus
    · rw [if_neg hfailed, if_pos hlength]
      split_ifs with hall
      · simpa using hall
      · simpa using hall

theorem derive_of_settled (hsettled : child.Settled)
    (hstatus : child.status = .completed ∨ child.status = .failed) :
    deriveBundleChildState child = .completed ∨ deriveBundleChildState child = .failed := by
  unfold deriveBundleChildState
  rcases hsettled with ⟨execution, hmem, hfailed⟩ | hall
  · rw [if_pos (List.any_eq_true.2 ⟨execution, hmem, by simpa using hfailed⟩)]
    exact Or.inr rfl
  · have hcompleted : (child.executions.all fun execution =>
        decide (execution.status = .completed)) = true := by simpa using hall
    rcases hstatus with hstatus | hstatus
    · simp only [hcompleted, hstatus, if_true, reduceCtorEq, if_false]
      split_ifs <;> simp
    · simp only [hcompleted, hstatus, if_true]
      split_ifs <;> simp

end BundleChild

/-! ## Rollups of the sleeves -/

inductive RebalanceDownstreamStatus where
  | idle
  | pending
  | inProgress
  | blocked
  | failed
  | completed
  deriving DecidableEq, Repr

structure RebalanceDownstreamStatusRollup where
  status : RebalanceDownstreamStatus
  actionCount : ℕ
  executionCount : ℕ
  blockedCount : ℕ
  failureCount : ℕ
  completedCount : ℕ
  simulated : Bool
  live : Bool
  references : List String
  summary : String

structure RebalanceDownstreamCounts where
  actionCount : ℕ
  executionCount : ℕ
  blockedCount : ℕ
  failureCount : ℕ
  completedCount : ℕ
  simulated : Bool
  live : Bool
  references : List String

def summariseRebalanceDownstreamRollup (input : RebalanceDownstreamCounts) :
    RebalanceDownstreamStatusRollup where
  status :=
    if input.blockedCount > 0 then .blocked
    else if input.failureCount > 0 then .failed
    else if input.executionCount = 0 ∧ input.actionCount > 0 then .pending
    else if input.executionCount > 0 ∧ input.completedCount < input.executionCount then .inProgress
    else if input.executionCount > 0 ∧ input.completedCount = input.executionCount then .completed
    else .idle
  actionCount := input.actionCount
  executionCount := input.executionCount
  blockedCount := input.blockedCount
  failureCount := input.failureCount
  completedCount := input.completedCount
  simulated := input.simulated
  live := input.live
  references := (input.references.filter fun reference => !reference.isEmpty).eraseDups
  summary :=
    if input.actionCount = 0 then "No downstream actions were persisted."
    else s!"{input.actionCount} actions and {input.executionCount} executions recorded."

def sleeveRollup (children : List BundleChild) : RebalanceDownstreamStatusRollup :=
  let executions := children.flatMap fun child => child.executions
  let countOf (status : ActionStatus) : ℕ :=
    (children.map fun child => child.executions.countP fun execution =>
      decide (execution.status = status)).sum
  summariseRebalanceDownstreamRollup
    { actionCount := children.length
      executionCount := (children.map fun child => child.executions.length).sum
      blockedCount := children.countP fun child => child.hasBlockedReasons || !child.executable
      failureCount := countOf .failed
      completedCount := countOf .completed
      simulated := children.any fun child =>
        child.simulated || child.executions.any fun execution => execution.simulated
      live := children.any fun child =>
        !child.simulated || child.executions.any fun execution =>
          decide (execution.executionMode = .live) && !execution.simulated
      references := executions.filterMap fun execution => execution.venueExecutionReference }

/-! ## The graph of a proposal -/

structure RebalanceProposalState where
  id : String
  status : RebalanceProposalStatus
  rejectionReason : Option String
  lastError : Option String

/-- A proposal with its children; `currentProposalId` is the latest proposal that was applied. -/
structure RebalanceExecutionGraph where
  proposal : RebalanceProposalState
  carry : List RebalanceCarryActionNode
  treasury : List RebalanceTreasuryActionNode
  currentProposalId : Option String

namespace RebalanceExecutionGraph

variable (graph : RebalanceExecutionGraph)

def carryChildren : List BundleChild := graph.carry.map RebalanceCarryActionNode.bundleChild

def treasuryChildren : List BundleChild :=
  graph.treasury.map RebalanceTreasuryActionNode.bundleChild

def children : List BundleChild := graph.carryChildren ++ graph.treasuryChildren

def treasuryNote : Option String :=
  if graph.treasury.length > 0 then none
  else if graph.currentProposalId = some graph.proposal.id then
    some ("Treasury sleeve impact is currently represented by approved rebalance budget-state " ++
      "application, not by proposal-linked treasury action records.")
  else some "No proposal-linked treasury action records were persisted."

def stateCount (state : BundleChildState) : ℕ :=
  graph.children.countP fun child => decide (deriveBundleChildState child = state)

/-- The number of children that are pending or executing. -/
def inflightCount : ℕ :=
  graph.children.countP fun child =>
    decide (deriveBundleChildState child = .pending) ||
      decide (deriveBundleChildState child = .executing)

end RebalanceExecutionGraph

/-! ## The snapshot -/

inductive RebalanceBundleCompletionState where
  | open
  | finalized
  deriving DecidableEq, Repr

inductive RebalanceBundleOutcomeClassification where
  | pending
  | safeComplete
  | partialApplication
  | blocked
  | failed
  | rejected
  deriving DecidableEq, Repr

def RebalanceBundleOutcomeClassification.text : RebalanceBundleOutcomeClassification → String
  | .pending => "pending"
  | .safeComplete => "safe_complete"
  | .partialApplication => "partial_application"
  | .blocked => "blocked"
  | .failed => "failed"
  | .rejected => "rejected"

inductive RebalanceBundleInterventionRecommendation where
  | noActionNeeded
  | waitForInflightChildren
  | inspectChildFailures
  | operatorReviewRequired
  | unresolvedPartialApplication
  | acceptedPartialApplication
  | manuallyResolved
  | escalatedForReview
  deriving DecidableEq, Repr

structure RebalanceBundleVerdict where
  status : RebalanceBundleStatus
  completionState : RebalanceBundleCompletionState
  outcomeClassification : RebalanceBundleOutcomeClassification
  interventionRecommendation : RebalanceBundleInterventionRecommendation
  finalizationReason : Option String

structure RebalanceBundleChildRollup where
  carry : RebalanceDownstreamStatusRollup
  treasury : RebalanceDownstreamStatusRollup
  treasuryNote : Option String

structure RebalanceBundleSnapshot extends RebalanceBundleVerdict where
  totalChildCount : ℕ
  blockedChildCount : ℕ
  failedChildCount : ℕ
  completedChildCount : ℕ
  pendingChildCount : ℕ
  childRollup : RebalanceBundleChildRollup

/-- The second cascade, over the proposal and the counts. -/
def classifyBundle (proposal : RebalanceProposalState)
    (total blocked failed completed pending : ℕ) : RebalanceBundleVerdict :=
  if proposal.status = .rejected then
    { status := .rejected
      completionState := .finalized
      outcomeClassification := .rejected
      interventionRecommendation := .noActionNeeded
      finalizationReason := some (proposal.rejectionReason.getD
        "Proposal was rejected before coordinated execution.") }
  else if proposal.status = .proposed ∨ proposal.status = .approved ∨ proposal.status = .queued then
    { status := if proposal.status = .queued then .queued else .proposed
      completionState := .open
      outcomeClassification := .pending
      interventionRecommendation :=
        if proposal.status = .queued then .waitForInflightChildren else .operatorReviewRequired
      finalizationReason := none }
  else if proposal.status = .executing ∨ pending > 0 then
    { status := .executing
      completionState := .open
      outcomeClassification := if completed > 0 then .partialApplication else .pending
      interventionRecommendation := .waitForInflightChildren
      finalizationReason := none }
  else if failed > 0 ∧ completed > 0 then
    { status := .requiresIntervention
      completionState := .finalized
      outcomeClassification := .partialApplication
      interventionRecommendation := .inspectChildFailures
      finalizationReason :=
        some "At least one downstream child completed and at least one failed." }
  else if blocked > 0 ∧ completed > 0 then
    { status := .requiresIntervention
      completionState := .finalized
      outcomeClassification := .partialApplication
      interventionRecommendation := .unresolvedPartialApplication
      finalizationReason :=
        some "At least one downstream child completed and at least one remains blocked." }
  else if failed > 0 then
    { status := .failed
      completionState := .finalized
      outcomeClassification := .failed
      interventionRecommendation := .inspectChildFailures
      finalizationReason :=
        some "At least one downstream child failed and no child completed successfully." }
  else if blocked > 0 then
    { status := .blocked
      completionState := .finalized
      outcomeClassification := .blocked
      interventionRecommendation := .operatorReviewRequired
      finalizationReason := some "At least one downstream child remained blocked." }
  else if completed > 0 ∧ completed < total then
    { status := .partiallyCompleted
      completionState := .finalized
      outcomeClassification := .partialApplication
      interventionRecommendation := .unresolvedPartialApplication
      finalizationReason :=
        some "The rebalance finished with only a subset of downstream children completed." }
  else if proposal.status = .failed then
    { status := if completed > 0 then .requiresIntervention else .failed
      completionState := .finalized
      outcomeClassification := if completed > 0 then .partialApplication else .failed
      interventionRecommendation :=
        if completed > 0 then .unresolvedPartialApplication else .inspectChildFailures
      finalizationReason := some (proposal.lastError.getD "Rebalance execution failed.") }
  else if proposal.status = .completed then
    { status := if completed > 0 ∨ total = 0 then .completed else .partiallyCompleted
      completionState := .finalized
      outcomeClassification := .safeComplete
      interventionRecommendation := .noActionNeeded
      finalizationReason :=
        some "All downstream work recorded for the rebalance bundle completed successfully." }
  else
    { status := .proposed
      completionState := .open
      outcomeClassification := .pending
      interventionRecommendation := .operatorReviewRequired
      finalizationReason := none }

def deriveRebalanceBundleSnapshot (graph : RebalanceExecutionGraph) : RebalanceBundleSnapshot :=
  let total := graph.children.length
  let blocked := graph.stateCount .blocked
  let failed := graph.stateCount .failed
  let completed := graph.stateCount .completed
  let pending := graph.inflightCount
  { toRebalanceBundleVerdict := classifyBundle graph.proposal total blocked failed completed pending
    totalChildCount := total
    blockedChildCount := blocked
    failedChildCount := failed
    completedChildCount := completed
    pendingChildCount := pending
    childRollup :=
      { carry := sleeveRollup graph.carryChildren
        treasury := sleeveRollup graph.treasuryChildren
        treasuryNote := graph.treasuryNote } }

section Classification

variable {proposal : RebalanceProposalState} {total blocked failed completed pending : ℕ}

theorem not_of_outcome {p : Prop} [Decidable p] {a b : RebalanceBundleVerdict}
    {outcome : RebalanceBundleOutcomeClassification}
    (h : (if p then a else b).outcomeClassification = outcome)
    (ha : a.outcomeClassification ≠ outcome) : ¬ p ∧ b.outcomeClassification = outcome := by
  by_cases hp : p
  · rw [if_pos hp] at h
    exact absurd h ha
  · rw [if_neg hp] at h
    exact ⟨hp, h⟩

theorem classifyBundle_safe (h : (classifyBundle proposal total blocked failed completed
      pending).outcomeClassification = .safeComplete) :
    proposal.status = .completed ∧ blocked = 0 ∧ failed = 0 ∧ pending = 0 := by
  unfold classifyBundle at h
  obtain ⟨-, h⟩ := not_of_outcome h (by simp)
  obtain ⟨-, h⟩ := not_of_outcome h (by simp)
  obtain ⟨hinflight, h⟩ := not_of_outcome h (by dsimp only; split_ifs <;> simp)
  obtain ⟨-, h⟩ := not_of_outcome h (by simp)
  obtain ⟨-, h⟩ := not_of_outcome h (by simp)
  obtain ⟨hfailed, h⟩ := not_of_outcome h (by simp)
  obtain ⟨hblocked, h⟩ := not_of_outcome h (by simp)
  obtain ⟨-, h⟩ := not_of_outcome h (by simp)
  obtain ⟨-, h⟩ := not_of_outcome h (by dsimp only; split_ifs <;> simp)
  by_cases hcompleted : proposal.status = .completed
  · have hpending : ¬ pending > 0 := fun hpending => hinflight (Or.inr hpending)
    exact ⟨hcompleted, by omega, by omega, by omega⟩
  · rw [if_neg hcompleted] at h
    cases h

theorem classifyBundle_mix
    (hexecuted : proposal.status ∉ [RebalanceProposalStatus.rejected, .proposed, .approved,
      .queued]) (hcompleted : 0 < completed) (hother : 0 < blocked + failed + pending) :
    (classifyBundle proposal total blocked failed completed pending).outcomeClassification =
      .partialApplication := by
  simp only [List.mem_cons, List.not_mem_nil, or_false, not_or] at hexecuted
  obtain ⟨hrejected, hproposed, happroved, hqueued⟩ := hexecuted
  unfold classifyBundle
  rw [if_neg hrejected, if_neg (by simp [hproposed, happroved, hqueued])]
  by_cases hinflight : proposal.status = .executing ∨ pending > 0
  · rw [if_pos hinflight]
    exact if_pos hcompleted
  · rw [if_neg hinflight]
    have hpending : pending = 0 := by
      by_contra hne
      exact hinflight (Or.inr (Nat.pos_of_ne_zero hne))
    by_cases hfailed : 0 < failed
    · rw [if_pos ⟨hfailed, hcompleted⟩]
    · have hblocked : 0 < blocked := by omega
      rw [if_neg (fun h => hfailed h.1), if_pos ⟨hblocked, hcompleted⟩]

theorem classifyBundle_finalized
    (hstatus : proposal.status = .completed ∨ proposal.status = .failed) (hpending : pending = 0) :
    (classifyBundle proposal total blocked failed completed pending).completionState =
      .finalized := by
  subst hpending
  unfold classifyBundle
  rcases hstatus with hstatus | hstatus
  all_goals
    simp only [hstatus, apply_ite RebalanceBundleVerdict.completionState, reduceCtorEq, if_false,
      if_true, or_self, gt_iff_lt, lt_self_iff_false, ite_self]

end Classification

namespace RebalanceExecutionGraph

variable (graph : RebalanceExecutionGraph)

/-! ## Soundness of the outcome -/

def CountsAdd : Prop :=
  let snapshot := deriveRebalanceBundleSnapshot graph
  snapshot.blockedChildCount + snapshot.failedChildCount + snapshot.completedChildCount +
    snapshot.pendingChildCount = snapshot.totalChildCount

/-- A safe outcome is given only if the proposal and all children completed. -/
def SafeIsComplete : Prop :=
  let snapshot := deriveRebalanceBundleSnapshot graph
  snapshot.outcomeClassification = .safeComplete →
    snapshot.interventionRecommendation = .noActionNeeded →
      graph.proposal.status = .completed ∧ ∀ child ∈ graph.children, child.Completed

def MixIsPartial : Prop :=
  (∃ child ∈ graph.children, child.Completed) → (∃ child ∈ graph.children, ¬ child.Completed) →
    (deriveRebalanceBundleSnapshot graph).outcomeClassification = .partialApplication

/-- The proposal has left the statuses in which it alone decides. -/
def Executed : Prop :=
  graph.proposal.status ∉ [RebalanceProposalStatus.rejected, .proposed, .approved, .queued]

/-- With the proposal completed or failed, children that satisfy `ended` finalize the bundle. -/
def FinalizesWhen (ended : BundleChild → Prop) : Prop :=
  graph.proposal.status = .completed ∨ graph.proposal.status = .failed →
    (∀ child ∈ graph.children, ended child) →
      (deriveRebalanceBundleSnapshot graph).completionState = .finalized

variable {graph}

theorem stateCount_pos_iff {state : BundleChildState} :
    0 < graph.stateCount state ↔ ∃ child ∈ graph.children, deriveBundleChildState child = state := by
  simp [stateCount, List.countP_pos_iff]

theorem inflightCount_pos_iff :
    0 < graph.inflightCount ↔ ∃ child ∈ graph.children,
      deriveBundleChildState child = .pending ∨ deriveBundleChildState child = .executing := by
  simp [inflightCount, List.countP_pos_iff]

theorem countsAdd : graph.CountsAdd := by
  have hpartition : ∀ children : List BundleChild,
      (children.countP fun child => decide (deriveBundleChildState child = .blocked)) +
        (children.countP fun child => decide (deriveBundleChildState child = .failed)) +
        (children.countP fun child => decide (deriveBundleChildState child = .completed)) +
        (children.countP fun child => decide (deriveBundleChildState child = .pending) ||
          decide (deriveBundleChildState child = .executing)) = children.length := by
    intro children
    induction children with
    | nil => rfl
    | cons child children ih =>
      simp only [List.countP_cons, List.length_cons]
      cases deriveBundleChildState child <;> simp <;> omega
  exact hpartition graph.children

theorem pos_of_not_completed {child : BundleChild} (hchild : child ∈ graph.children)
    (hnot : ¬ child.Completed) :
    0 < graph.stateCount .blocked + graph.stateCount .failed + graph.inflightCount := by
  rw [← BundleChild.derive_eq_completed_iff] at hnot
  have hcount : ∀ state, deriveBundleChildState child = state → 0 < graph.stateCount state :=
    fun state hstate => stateCount_pos_iff.2 ⟨child, hchild, hstate⟩
  cases hstate : deriveBundleChildState child with
  | blocked | failed => have := hcount _ hstate; omega
  | completed => exact absurd hstate hnot
  | pending =>
    have : 0 < graph.inflightCount := inflightCount_pos_iff.2 ⟨child, hchild, Or.inl hstate⟩
    omega
  | executing =>
    have : 0 < graph.inflightCount := inflightCount_pos_iff.2 ⟨child, hchild, Or.inr hstate⟩
    omega

theorem safeIsComplete : graph.SafeIsComplete := by
  intro houtcome _
  obtain ⟨hproposal, hblocked, hfailed, hpending⟩ := classifyBundle_safe houtcome
  refine ⟨hproposal, fun child hchild => ?_⟩
  by_contra hnot
  have hpos := pos_of_not_completed hchild hnot
  omega

theorem mixIsPartial (hexecuted : graph.Executed) : graph.MixIsPartial := by
  rintro ⟨child, hchild, hcompleted⟩ ⟨other, hother, hnot⟩
  have hpos : 0 < graph.stateCount .completed :=
    stateCount_pos_iff.2 ⟨child, hchild, BundleChild.derive_eq_completed_iff.2 hcompleted⟩
  exact classifyBundle_mix hexecuted hpos (pos_of_not_completed hother hnot)

theorem finalizesWhen_settled : graph.FinalizesWhen fun child =>
    (child.status = .completed ∨ child.status = .failed) ∧ child.Settled := by
  intro hproposal hended
  apply classifyBundle_finalized hproposal
  by_contra hpending
  obtain ⟨child, hchild, hstate⟩ := inflightCount_pos_iff.1 (Nat.pos_of_ne_zero hpending)
  obtain ⟨hstatus, hsettled⟩ := hended child hchild
  rcases BundleChild.derive_of_settled hsettled hstatus with hderived | hderived
  all_goals
    rw [hderived] at hstate
    simp at hstate

/-- What the derivation does: the counts add up, a safe outcome is complete, a mix is a partial
application once the proposal is executed, and ended children with settled executions finalize. -/
theorem snapshot_outcome (graph : RebalanceExecutionGraph) :
    graph.CountsAdd ∧ graph.SafeIsComplete ∧ (graph.Executed → graph.MixIsPartial) ∧
      graph.FinalizesWhen fun child =>
        (child.status = .completed ∨ child.status = .failed) ∧ child.Settled :=
  ⟨countsAdd, safeIsComplete, mixIsPartial, finalizesWhen_settled⟩

/-! ### Children of the treasury sleeve -/

/-- A budget action of the proposal "p" with executions in the given statuses, the last one the
latest. -/
def sampleBudgetNode (status : ActionStatus) (executions : List ActionStatus) :
    RebalanceTreasuryActionNode where
  action :=
    { id := "t", treasuryRunId := "run-0", linkedRebalanceProposalId := some "p"
      actionType := .rebalanceTreasuryBudget, status, venueId := none, venueName := none
      venueMode := .reserve, amountUsd := 5000, reasonCode := .rebalanceBudgetApplication
      summary := "Increase treasury budget.", details := [], readiness := .actionable
      executable := true, blockedReasons := [], approvalRequirement := .operator
      executionMode := .dryRun, simulated := true, linkedCommandId := none
      latestExecutionId := executions.getLast?.map fun _ => toString (executions.length - 1)
      lastError := none }
  executions := executions.mapIdx fun i status =>
    { id := toString i, treasuryActionId := "t", treasuryRunId := "run-0", commandId := none, status
      executionMode := .dryRun, venueMode := .reserve, simulated := true, requestedBy := "ops"
      startedBy := none, blockedReasons := [], outcomeSummary := none, outcome := []
      venueExecutionReference := none, lastError := none }

def sampleBudgetGraph (status : RebalanceProposalStatus)
    (treasury : List RebalanceTreasuryActionNode) : RebalanceExecutionGraph where
  proposal := { id := "p", status, rejectionReason := none, lastError := none }
  carry := []
  treasury
  currentProposalId := none

/-- A queued proposal decides alone, and an execution that is not settled keeps the bundle open
although its action has ended. -/
theorem snapshot_outcome_unsettled :
    (¬ ∀ graph : RebalanceExecutionGraph, graph.MixIsPartial) ∧
      ¬ ∀ graph : RebalanceExecutionGraph, graph.FinalizesWhen fun child =>
        child.status = .completed ∨ child.status = .failed ∨ child.status = .cancelled := by
  constructor
  · intro hmix
    have hmixed := hmix (sampleBudgetGraph .queued
      [sampleBudgetNode .completed [], sampleBudgetNode .failed []])
    have hoverride : (deriveRebalanceBundleSnapshot (sampleBudgetGraph .queued
      [sampleBudgetNode .completed [], sampleBudgetNode .failed []])).outcomeClassification =
        .pending := by decide
    rw [hmixed (by decide) (by decide)] at hoverride
    cases hoverride
  · intro hfinal
    have hopen : (deriveRebalanceBundleSnapshot (sampleBudgetGraph .completed
      [sampleBudgetNode .failed [.executing]])).completionState = .open := by decide
    rw [hfinal _ (Or.inl rfl) (by decide)] at hopen
    cases hopen

end RebalanceExecutionGraph

end SentinelApex
