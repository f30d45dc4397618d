import SentinelApex.Runtime.RebalanceBundles

/-!
# Partial progress of a bundle

The inspection of the children that the detail of a bundle shows: what was applied, what left a
trace, and what may be retried. It counts a child as applied if its action or any of its executions
completed, while the snapshot asks for all executions and the rollups of the sleeves count
executions, not children. The three agree exactly on the graphs that are `Uniform`.
-/

namespace SentinelApex

inductive BundleChildProgressState where
  | pending
  | completed
  | inflight
  | partialProgress
  | retryableFailure
  | blockedBeforeProgress
  | failedWithoutProgress
  | nonRetryable
  deriving DecidableEq, Repr

inductive BundleChildRetryability where
  | retryable
  | notApplicable
  | nonRetryable
  deriving DecidableEq, Repr

structure RebalanceBundleChildInspection where
  childType : BundleRecoveryTarget
  childId : String
  actionStatus : ActionStatus
  latestExecutionId : Option String
  latestExecutionStatus : Option ActionStatus
  progressState : BundleChildProgressState
  retryability : BundleChildRetryability
  applied : Bool
  progressRecorded : Bool
  blockedBeforeApplication : Bool
  retryCandidateId : Option String
  retryBlockedReasons : List BundleRecoveryBlockedReason
  evidence : List String

namespace BundleChild

variable (child : BundleChild)

/-- The execution that the action names, else the last one. -/
def latestExecution : Option BundleExecution :=
  (child.executions.find? fun execution => decide (some execution.id = child.latestExecutionId)).or
    child.executions.getLast?

/-- The action or one of the executions completed. -/
def applied : Bool :=
  decide (child.status = .completed) ||
    child.executions.any fun execution => decide (execution.status = .completed)

def hasVenueReference : Bool :=
  child.executions.any fun execution => execution.venueExecutionReference.isSome

def inspect (childType : BundleRecoveryTarget) (childId : String) (marks isBlocked : Bool)
    (evidence : List String) (candidate : Option BundleRecoveryCandidate) :
    RebalanceBundleChildInspection :=
  let eligible := candidate.any BundleRecoveryCandidate.eligible
  let progressRecorded := child.applied || child.hasVenueReference || marks
  { childType
    childId
    actionStatus := child.status
    latestExecutionId := child.latestExecution.map fun execution => execution.id
    latestExecutionStatus := child.latestExecution.map fun execution => execution.status
    progressState :=
      if child.applied then .completed
      else if child.status = .queued ∨ child.status = .executing then .inflight
      else if progressRecorded then .partialProgress
      else if eligible then .retryableFailure
      else if isBlocked then .blockedBeforeProgress
      else if child.status = .failed then .failedWithoutProgress
      else if candidate.isSome then .nonRetryable
      else .pending
    retryability :=
      if eligible then .retryable else if child.applied then .notApplicable else .nonRetryable
    applied := child.applied
    progressRecorded
    blockedBeforeApplication :=
      !progressRecorded && (isBlocked || decide (child.status = .failed))
    retryCandidateId := candidate.map fun candidate => candidate.id
    retryBlockedReasons := candidate.elim [] fun candidate => candidate.blockedReasons
    evidence }

end BundleChild

def evidenceIf (p : Bool) (text : String) : List String := if p then [text] else []

/-- The order reached its venue, or the step shows that it may have. -/
def buildCarryChildInspection (node : RebalanceCarryActionNode)
    (candidate : Option BundleRecoveryCandidate) : RebalanceBundleChildInspection :=
  let child := node.bundleChild
  child.inspect .carryAction node.action.id (node.steps.any RebalanceCarryActionNode.stepProgressed)
    (!child.executable || child.hasBlockedReasons)
    (evidenceIf child.applied "Completed carry execution recorded." ++
      evidenceIf child.hasVenueReference "Venue execution references recorded." ++
      evidenceIf (node.steps.any fun step => step.venueOrderId.isSome)
        "Carry execution step venue order ids recorded." ++
      evidenceIf (node.steps.any fun step => step.executionReference.isSome)
        "Carry execution step execution references recorded." ++
      evidenceIf (node.steps.any fun step => decide (step.status ∉ [OrderStatus.pending, .failed]))
        "Carry execution steps advanced beyond pre-execution failure.")
    candidate

def buildTreasuryChildInspection (node : RebalanceTreasuryActionNode)
    (candidate : Option BundleRecoveryCandidate) : RebalanceBundleChildInspection :=
  let child := node.bundleChild
  child.inspect .treasuryAction node.action.id false
    (!child.executable || decide (node.action.readiness = .blocked) || child.hasBlockedReasons)
    (evidenceIf child.applied "Treasury execution completed and applied state changes." ++
      evidenceIf child.hasVenueReference "Venue-side treasury execution references recorded." ++
      evidenceIf (child.applied && !child.hasVenueReference)
        "Budget-state-only treasury application recorded.")
    candidate

structure BundleProgressCounts where
  totalChildren : ℕ
  appliedChildren : ℕ
  progressRecordedChildren : ℕ
  retryableChildren : ℕ
  nonRetryableChildren : ℕ
  blockedBeforeApplicationChildren : ℕ

def summariseChildren (children : List RebalanceBundleChildInspection) : BundleProgressCounts where
  totalChildren := children.length
  appliedChildren := children.countP fun child => child.applied
  progressRecordedChildren := children.countP fun child => child.progressRecorded
  retryableChildren := children.countP fun child => decide (child.retryability = .retryable)
  nonRetryableChildren := children.countP fun child => decide (child.retryability = .nonRetryable)
  blockedBeforeApplicationChildren := children.countP fun child => child.blockedBeforeApplication

structure RebalanceBundlePartialProgress extends BundleProgressCounts where
  inflightChildren : ℕ
  carry : BundleProgressCounts
  treasury : BundleProgressCounts
  children : List RebalanceBundleChildInspection

def buildBundlePartialProgress (graph : RebalanceExecutionGraph)
    (recoveryCandidates : List BundleRecoveryCandidate) : RebalanceBundlePartialProgress :=
  let candidateOf (target : BundleRecoveryTarget) (childId : String) :=
    recoveryCandidates.find? fun candidate =>
      decide (candidate.targetChildType = target) && decide (candidate.targetChildId = childId)
  let carry := graph.carry.map fun node =>
    buildCarryChildInspection node (candidateOf .carryAction node.action.id)
  let treasury := graph.treasury.map fun node =>
    buildTreasuryChildInspection node (candidateOf .treasuryAction node.action.id)
  let children := carry ++ treasury
  { toBundleProgressCounts := summariseChildren children
    inflightChildren := children.countP fun child => decide (child.progressState = .inflight)
    carry := summariseChildren carry
    treasury := summariseChildren treasury
    children }

/-- Two counts of a list are equal only if its elements agree. -/
theorem of_countP_eq {α : Type} {p q : α → Bool} {l : List α}
    (hpq : ∀ a ∈ l, p a = true → q a = true) (hcount : l.countP p = l.countP q) :
    ∀ a ∈ l, q a = true → p a = true := by
  induction l with
  | nil => simp
  | cons b l ih =>
    have hle : l.countP p ≤ l.countP q :=
      List.countP_mono_left fun a ha => hpq a (List.mem_cons_of_mem b ha)
    have hb := hpq b List.mem_cons_self
    rw [List.countP_cons, List.countP_cons] at hcount
    have hboth : l.countP p = l.countP q ∧ (q b = true → p b = true) := by
      cases hp : p b <;> cases hq : q b <;> simp_all
    intro a ha hqa
    rcases List.mem_cons.1 ha with rfl | ha
    · exact hboth.2 hqa
    · exact ih (fun a ha => hpq a (List.mem_cons_of_mem b ha)) hboth.1 a ha hqa

namespace BundleChild

variable {child : BundleChild}

def isBlocked (child : BundleChild) : Bool := child.hasBlockedReasons || !child.executable

/-- The action is completed, and so is its latest execution. -/
def Recovered (child : BundleChild) : Prop :=
  child.status = .completed ∧
    ∃ execution, child.latestExecution = some execution ∧ execution.status = .completed

def AllCompleted (child : BundleChild) : Prop :=
  ∀ execution ∈ child.executions, execution.status = .completed

theorem applied_of_completed (h : child.Completed) : child.applied = true := by
  unfold Completed at h
  unfold applied
  split_ifs at h with hnil
  · simp [h]
  · obtain ⟨execution, hmem⟩ := List.exists_mem_of_ne_nil _ hnil
    simp only [Bool.or_eq_true, List.any_eq_true]
    exact Or.inr ⟨execution, hmem, by simpa using h execution hmem⟩

theorem completed_iff_of_applied (h : child.applied = true) :
    child.Completed ↔ child.AllCompleted := by
  unfold Completed AllCompleted
  split_ifs with hnil
  · simpa [applied, hnil] using h
  · rfl

theorem executions_ne_nil_of_recovered (h : child.Recovered) : child.executions ≠ [] := by
  obtain ⟨-, execution, hlatest, -⟩ := h
  intro hnil
  simp [latestExecution, hnil] at hlatest

theorem Recovered.applied (h : child.Recovered) : child.applied = true := by
  simp [BundleChild.applied, h.1]

end BundleChild

variable {children : List BundleChild}

/-- A sleeve is completed if no child is blocked, something was executed, and all of it completed. -/
theorem sleeveRollup_completed_iff :
    (sleeveRollup children).status = .completed ↔
      (∀ child ∈ children, child.isBlocked = false) ∧
        (∃ child ∈ children, child.executions ≠ []) ∧
          ∀ child ∈ children, child.AllCompleted := by
  let executions := children.flatMap fun child => child.executions
  have hcount : ∀ status : ActionStatus, (children.map fun child =>
      child.executions.countP fun execution => decide (execution.status = status)).sum =
        executions.countP fun execution => decide (execution.status = status) :=
    fun status => List.countP_flatMap.symm
  have hlength : (children.map fun child => child.executions.length).sum = executions.length :=
    List.length_flatMap.symm
  have hblocked : children.countP (fun child => child.hasBlockedReasons || !child.executable) = 0 ↔
      ∀ child ∈ children, child.isBlocked = false := by
    simp [List.countP_eq_zero, BundleChild.isBlocked]
  have hexecuted : 0 < executions.length ↔ ∃ child ∈ children, child.executions ≠ [] := by
    rw [List.length_pos_iff, ne_eq, List.flatMap_eq_nil_iff]
    simp
  have hcompleted : (executions.countP fun execution => decide (execution.status = .completed)) =
      executions.length ↔ ∀ child ∈ children, child.AllCompleted := by
    simp only [List.countP_eq_length, executions, List.mem_flatMap, decide_eq_true_eq,
      BundleChild.AllCompleted]
    exact ⟨fun h child hchild e he => h e ⟨child, hchild, he⟩,
      fun h e ⟨child, hchild, he⟩ => h child hchild e he⟩
  have hfailed : (∀ child ∈ children, child.AllCompleted) →
      (executions.countP fun execution => decide (execution.status = .failed)) = 0 := by
    intro hall
    rw [List.countP_eq_zero]
    intro e he
    obtain ⟨child, hchild, he⟩ := List.mem_flatMap.1 he
    simp [hall child hchild e he]
  rw [← hblocked, ← hexecuted]
  simp only [sleeveRollup, summariseRebalanceDownstreamRollup, hcount, hlength]
  constructor
  · intro hstatus
    split_ifs at hstatus with h₁ h₂ h₃ h₄ h₅
    exact ⟨by omega, h₅.1, hcompleted.1 h₅.2⟩
  · rintro ⟨h₁, h₂, h₃⟩
    have hzero := hfailed h₃
    have hall := hcompleted.2 h₃
    rw [if_neg (by omega), if_neg (by omega), if_neg (by omega), if_neg (by omega),
      if_pos ⟨h₂, hall⟩]

theorem sleeveRollup_singleton_iff {child : BundleChild} (hchild : child.Recovered) :
    (sleeveRollup [child]).status = .completed ↔
      child.isBlocked = false ∧ child.AllCompleted := by
  have hne := BundleChild.executions_ne_nil_of_recovered hchild
  rw [sleeveRollup_completed_iff]
  simp [hne]

namespace RebalanceExecutionGraph

variable (graph : RebalanceExecutionGraph) (recoveryCandidates : List BundleRecoveryCandidate)

/-- The snapshot, the rollups of the sleeves and the inspection agree on which children completed. -/
structure Agrees : Prop where
  recovered : ∀ child ∈ graph.children, child.Recovered →
    deriveBundleChildState child = .completed ∧ (sleeveRollup [child]).status = .completed ∧
      child.applied = true
  counts : (deriveRebalanceBundleSnapshot graph).completedChildCount =
    (buildBundlePartialProgress graph recoveryCandidates).appliedChildren
  carry : graph.carryChildren ≠ [] →
    ((deriveRebalanceBundleSnapshot graph).childRollup.carry.status = .completed ↔
      ∀ child ∈ graph.carryChildren, deriveBundleChildState child = .completed)
  treasury : graph.treasuryChildren ≠ [] →
    ((deriveRebalanceBundleSnapshot graph).childRollup.treasury.status = .completed ↔
      ∀ child ∈ graph.treasuryChildren, deriveBundleChildState child = .completed)

end RebalanceExecutionGraph

/-- If all that was executed in the sleeve completed, then something was executed and no child is
blocked exactly if every child that was not executed is completed. -/
def UniformSleeve (children : List BundleChild) : Prop :=
  (∀ child ∈ children, child.AllCompleted) →
    (((∀ child ∈ children, child.isBlocked = false) ∧ ∃ child ∈ children, child.executions ≠ []) ↔
      ∀ child ∈ children, child.executions = [] → child.status = .completed)

theorem sleeve_agrees_iff :
    ((sleeveRollup children).status = .completed ↔
      ∀ child ∈ children, deriveBundleChildState child = .completed) ↔ UniformSleeve children := by
  have hderive : (∀ child ∈ children, deriveBundleChildState child = .completed) ↔
      (∀ child ∈ children, child.AllCompleted) ∧
        ∀ child ∈ children, child.executions = [] → child.status = .completed := by
    rw [← forall₂_and]
    refine forall₂_congr fun child _ => ?_
    rw [BundleChild.derive_eq_completed_iff]
    unfold BundleChild.Completed BundleChild.AllCompleted
    split_ifs with hnil
    · simp [hnil]
    · simp [hnil]
  rw [sleeveRollup_completed_iff, hderive]
  unfold UniformSleeve
  by_cases hall : ∀ child ∈ children, child.AllCompleted
  · simp only [iff_true_intro hall, and_true, true_and, true_implies]
  · simp only [iff_false_intro hall, and_false, false_and, false_implies]

namespace RebalanceExecutionGraph

variable (graph : RebalanceExecutionGraph)

/-- A child that was applied has only completed executions, one that recovered is not blocked, and
the sleeves are uniform. -/
structure Uniform : Prop where
  applied : ∀ child ∈ graph.children, child.applied = true → child.AllCompleted
  unblocked : ∀ child ∈ graph.children, child.Recovered → child.isBlocked = false
  carry : graph.carryChildren ≠ [] → UniformSleeve graph.carryChildren
  treasury : graph.treasuryChildren ≠ [] → UniformSleeve graph.treasuryChildren

variable {graph} {recoveryCandidates : List BundleRecoveryCandidate}

theorem appliedChildren_eq :
    (buildBundlePartialProgress graph recoveryCandidates).appliedChildren =
      graph.children.countP fun child => child.applied := by
  simp only [buildBundlePartialProgress, summariseChildren, children, carryChildren,
    treasuryChildren, List.countP_append, List.countP_map]
  rfl

theorem counts_agree_iff : (deriveRebalanceBundleSnapshot graph).completedChildCount =
      (buildBundlePartialProgress graph recoveryCandidates).appliedChildren ↔
    ∀ child ∈ graph.children, child.applied = true → child.AllCompleted := by
  rw [appliedChildren_eq]
  show graph.stateCount .completed = _ ↔ _
  unfold stateCount
  constructor
  · intro hcount child hchild happlied
    have hcompleted := of_countP_eq (fun child _ h => BundleChild.applied_of_completed
      (BundleChild.derive_eq_completed_iff.1 (of_decide_eq_true h))) hcount child hchild happlied
    exact (BundleChild.completed_iff_of_applied happlied).1
      (BundleChild.derive_eq_completed_iff.1 (of_decide_eq_true hcompleted))
  · intro hall
    refine List.countP_congr fun child hchild => ?_
    rw [decide_eq_true_eq, BundleChild.derive_eq_completed_iff]
    exact ⟨BundleChild.applied_of_completed, fun happlied =>
      (BundleChild.completed_iff_of_applied happlied).2 (hall child hchild happlied)⟩

/-- The three derivations agree exactly on the uniform graphs. -/
theorem agrees_iff_uniform (graph : RebalanceExecutionGraph)
    (recoveryCandidates : List BundleRecoveryCandidate) :
    graph.Agrees recoveryCandidates ↔ graph.Uniform := by
  constructor
  · rintro ⟨hrecovered, hcounts, hcarry, htreasury⟩
    refine ⟨counts_agree_iff.1 hcounts, ?_, fun h => sleeve_agrees_iff.1 (hcarry h),
      fun h => sleeve_agrees_iff.1 (htreasury h)⟩
    intro child hchild h
    exact ((sleeveRollup_singleton_iff h).1 (hrecovered child hchild h).2.1).1
  · rintro ⟨happlied, hunblocked, hcarry, htreasury⟩
    refine ⟨?_, counts_agree_iff.2 happlied, fun h => sleeve_agrees_iff.2 (hcarry h),
      fun h => sleeve_agrees_iff.2 (htreasury h)⟩
    intro child hchild h
    have hall := happlied child hchild h.applied
    refine ⟨?_, (sleeveRollup_singleton_iff h).2 ⟨hunblocked child hchild h, hall⟩, h.applied⟩
    exact BundleChild.derive_eq_completed_iff.2 ((BundleChild.completed_iff_of_applied h.applied).2
      hall)

/-- A child that failed and was completed by a retry. -/
theorem recovered_disagrees :
    ¬ ∀ (graph : RebalanceExecutionGraph) (recoveryCandidates : List BundleRecoveryCandidate),
      graph.Agrees recoveryCandidates := by
  intro hagrees
  have hretried := hagrees (sampleBudgetGraph .completed
    [sampleBudgetNode .completed [.failed, .completed]]) []
  have hcounts := hretried.counts
  have happlied : (buildBundlePartialProgress (sampleBudgetGraph .completed
    [sampleBudgetNode .completed [.failed, .completed]]) []).appliedChildren = 1 := by decide
  have hfailed : (deriveRebalanceBundleSnapshot (sampleBudgetGraph .completed
    [sampleBudgetNode .completed [.failed, .completed]])).completedChildCount = 0 := by decide
  rw [happlied, hfailed] at hcounts
  cases hcounts

end RebalanceExecutionGraph

end SentinelApex
