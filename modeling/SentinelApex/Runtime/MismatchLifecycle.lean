import Mathlib.Tactic.Common

/-!
# The lifecycle of a mismatch

`mismatch-lifecycle.ts` gives, for each action, the status that a mismatch moves to, and refuses the
action from other statuses. `MovesTo` is the graph of these moves.
-/

namespace SentinelApex.Runtime

inductive RuntimeMismatchStatus where
  | opened
  | acknowledged
  | recovering
  | resolved
  | verified
  | reopened
  deriving DecidableEq, Repr

def RuntimeMismatchStatus.text : RuntimeMismatchStatus → String
  | opened => "open"
  | acknowledged => "acknowledged"
  | recovering => "recovering"
  | resolved => "resolved"
  | verified => "verified"
  | reopened => "reopened"

inductive RuntimeVerificationOutcome where
  | verified
  | failed
  deriving DecidableEq, Repr

inductive RuntimeMismatchAction where
  | acknowledge
  | startRecovery
  | remediationFailed
  | resolve
  | verify
  | reopen
  deriving DecidableEq, Repr

/-- The action as the message of a refusal has it, with a blank for the underscore. -/
def RuntimeMismatchAction.words : RuntimeMismatchAction → String
  | acknowledge => "acknowledge"
  | startRecovery => "start recovery"
  | remediationFailed => "remediation failed"
  | resolve => "resolve"
  | verify => "verify"
  | reopen => "reopen"

def formatStatuses (statuses : List RuntimeMismatchStatus) : String :=
  ", ".intercalate (statuses.map RuntimeMismatchStatus.text)

def assertAllowed (currentStatus : RuntimeMismatchStatus) (action : RuntimeMismatchAction)
    (allowed : List RuntimeMismatchStatus) : Except String Unit :=
  if currentStatus ∈ allowed then .ok ()
  else
    .error (s!"Cannot {action.words} mismatch from status \"{currentStatus.text}\". " ++
      s!"Allowed statuses: {formatStatuses allowed}.")

/-- The move to `target`, allowed from the given statuses; a mismatch that is there stays. -/
def nextStatus (action : RuntimeMismatchAction) (target : RuntimeMismatchStatus)
    (allowed : List RuntimeMismatchStatus) (currentStatus : RuntimeMismatchStatus) :
    Except String RuntimeMismatchStatus :=
  if currentStatus = target then .ok currentStatus
  else (assertAllowed currentStatus action allowed).map fun _ => target

def acknowledgeNextStatus : RuntimeMismatchStatus → Except String RuntimeMismatchStatus :=
  nextStatus .acknowledge .acknowledged [.opened, .reopened, .acknowledged]

def recoveryNextStatus : RuntimeMismatchStatus → Except String RuntimeMismatchStatus :=
  nextStatus .startRecovery .recovering [.opened, .acknowledged, .reopened, .recovering]

def resolveNextStatus : RuntimeMismatchStatus → Except String RuntimeMismatchStatus :=
  nextStatus .resolve .resolved [.opened, .acknowledged, .recovering, .reopened, .resolved]

def remediationFailureNextStatus : RuntimeMismatchStatus → Except String RuntimeMismatchStatus :=
  nextStatus .remediationFailed .reopened [.recovering, .reopened]

def verifyNextStatus (currentStatus : RuntimeMismatchStatus) :
    RuntimeVerificationOutcome → Except String RuntimeMismatchStatus
  | .verified => nextStatus .verify .verified [.resolved, .verified] currentStatus
  | .failed => nextStatus .verify .reopened [.resolved, .reopened] currentStatus

def reopenNextStatus : RuntimeMismatchStatus → Except String RuntimeMismatchStatus :=
  nextStatus .reopen .reopened [.resolved, .verified, .reopened]

theorem nextStatus_eq_ok_iff {action : RuntimeMismatchAction} {target s s' : RuntimeMismatchStatus}
    {allowed : List RuntimeMismatchStatus} :
    nextStatus action target allowed s = .ok s' ↔ s' = target ∧ (s = target ∨ s ∈ allowed) := by
  unfold nextStatus assertAllowed
  split_ifs with htarget hallowed
  · subst htarget
    simp [eq_comm]
  · simp [Except.map, hallowed, eq_comm]
  · simp [Except.map, htarget, hallowed]

/-- A single move of the lifecycle: some action leads from one status to another one. -/
def MovesTo (s s' : RuntimeMismatchStatus) : Prop :=
  s ≠ s' ∧ (acknowledgeNextStatus s = .ok s' ∨ recoveryNextStatus s = .ok s' ∨
    resolveNextStatus s = .ok s' ∨ remediationFailureNextStatus s = .ok s' ∨
    (∃ outcome, verifyNextStatus s outcome = .ok s') ∨ reopenNextStatus s = .ok s')

/-- The edges of the graph, by the status they lead to. -/
theorem movesTo_iff {s s' : RuntimeMismatchStatus} :
    MovesTo s s' ↔
      match s' with
      | .opened => False
      | .acknowledged => s = .opened ∨ s = .reopened
      | .recovering => s = .opened ∨ s = .acknowledged ∨ s = .reopened
      | .resolved => s = .opened ∨ s = .acknowledged ∨ s = .recovering ∨ s = .reopened
      | .verified => s = .resolved
      | .reopened => s = .recovering ∨ s = .resolved ∨ s = .verified := by
  have hverify : (∃ outcome, verifyNextStatus s outcome = .ok s') ↔
      verifyNextStatus s .verified = .ok s' ∨ verifyNextStatus s .failed = .ok s' := by
    constructor
    · rintro ⟨outcome, h⟩
      cases outcome with
      | verified => exact Or.inl h
      | failed => exact Or.inr h
    · rintro (h | h)
      · exact ⟨_, h⟩
      · exact ⟨_, h⟩
  rw [MovesTo, hverify]
  simp only [acknowledgeNextStatus, recoveryNextStatus, resolveNextStatus,
    remediationFailureNextStatus, verifyNextStatus, reopenNextStatus, nextStatus_eq_ok_iff]
  cases s <;> cases s' <;> simp

instance (s s' : RuntimeMismatchStatus) : Decidable (MovesTo s s') :=
  match s' with
  | .opened => decidable_of_iff' _ movesTo_iff
  | .acknowledged => decidable_of_iff' _ movesTo_iff
  | .recovering => decidable_of_iff' _ movesTo_iff
  | .resolved => decidable_of_iff' _ movesTo_iff
  | .verified => decidable_of_iff' _ movesTo_iff
  | .reopened => decidable_of_iff' _ movesTo_iff

end SentinelApex.Runtime
