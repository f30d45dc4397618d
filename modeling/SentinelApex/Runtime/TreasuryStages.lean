import SentinelApex.Runtime.TreasuryExecution

/-!
# Stages of a treasury execution

What a call does to the world under any fault, and which calls the stages of an evaluation and of
an execution may issue.
-/

namespace SentinelApex

open Async

section Handler

variable {env : TreasuryEnvironment} {c : TreasuryCall} {w : TreasuryWorld}

theorem handleTreasury_after (env : TreasuryEnvironment) (c : TreasuryCall) (w : TreasuryWorld) :
    (handleTreasury env c w).2 = { w with calls := w.calls + 1 } ∨
      (handleTreasury env c w).2 = { (performTreasury env w c).2 with calls := w.calls + 1 } := by
  simp only [handleTreasury]
  split
  · exact Or.inr rfl
  · exact Or.inl rfl
  · exact Or.inr rfl

theorem performTreasury_of_ok {a : c.Reply} (ha : (handleTreasury env c w).1 = .ok a) :
    (performTreasury env w c).1 = .ok a ∧
      (handleTreasury env c w).2 = { (performTreasury env w c).2 with calls := w.calls + 1 } := by
  simp only [handleTreasury] at ha ⊢
  split at ha
  · exact ⟨ha, rfl⟩
  · cases ha
  · cases ha

theorem handleTreasury_keeps {I : TreasuryWorld → Prop}
    (hcalls : ∀ w n, I w → I { w with calls := n }) (hw : I w)
    (hperform : I (performTreasury env w c).2) : I (handleTreasury env c w).2 := by
  rcases handleTreasury_after env c w with h | h
  · rw [h]
    exact hcalls w _ hw
  · rw [h]
    exact hcalls _ _ hperform

end Handler

/-- The calls that change nothing. -/
def TreasuryCall.reads : TreasuryCall → Prop
  | getTreasuryAction _ => True
  | getTreasurySummary => True
  | getTreasuryCashBalanceUsd => True
  | listVenues => True
  | syncRebalanceBundleForProposal _ => True
  | auditWrite _ => True
  | refreshPortfolio => True
  | refreshVenueTruthInventory => True
  | getVenueState _ => True
  | getPosition _ => True
  | getCapabilities _ => True
  | _ => False

theorem performTreasury_of_reads {c : TreasuryCall} (hc : c.reads) (env : TreasuryEnvironment)
    (w : TreasuryWorld) : (performTreasury env w c).2 = w := by
  cases c with
  | getVenueState venueId | getPosition venueId | getCapabilities venueId =>
    simp only [performTreasury]; split <;> rfl
  | getTreasuryAction | getTreasurySummary | getTreasuryCashBalanceUsd | listVenues
  | syncRebalanceBundleForProposal | auditWrite | refreshPortfolio
  | refreshVenueTruthInventory => rfl
  | _ => exact hc.elim

/-- The calls that neither approve nor queue an action, move no money and store no cash. -/
def TreasuryCall.books : TreasuryCall → Prop
  | approveTreasuryAction _ => False
  | queueTreasuryActionExecution .. => False
  | executeTreasuryAction .. => False
  | upsertTreasuryCurrent .. => False
  | setTreasuryCashBalanceUsd _ => False
  | _ => True

theorem TreasuryCall.books_of_reads {c : TreasuryCall} (hc : c.reads) : c.books := by
  cases c <;> trivial

namespace TreasuryRuntime

variable (runtime : TreasuryRuntime) {p : TreasuryCall → Prop}

section

variable (hp : ∀ c : TreasuryCall, c.reads → p c)

include hp

theorem collectTreasuryVenueSnapshots_uses (venueIds : List String) :
    (collectTreasuryVenueSnapshots venueIds).Uses p := by
  induction venueIds with
  | nil => trivial
  | cons venueId venueIds ih =>
    apply Task.Uses.call_bind (hp (.getVenueState venueId) trivial)
    intro venueState
    apply Task.Uses.call_bind (hp (.getPosition venueId) trivial)
    intro position
    apply ih.bind
    intro snapshots
    trivial

theorem collectCapabilities_uses (promotions : List VenuePromotion) (venueIds : List String) :
    (collectCapabilities promotions venueIds).Uses p := by
  induction venueIds with
  | nil => trivial
  | cons venueId venueIds ih =>
    apply Task.Uses.call_bind (hp (.getCapabilities venueId) trivial)
    intro venueCapabilities
    apply ih.bind
    intro capabilities
    trivial

theorem collectTreasuryVenueCapabilities_uses :
    runtime.collectTreasuryVenueCapabilities.Uses p := by
  apply Task.Uses.call_bind (hp .listVenues trivial)
  intro promotions
  exact collectCapabilities_uses hp promotions _

theorem syncLinkedTreasuryBundle_uses (action : TreasuryAction) :
    (syncLinkedTreasuryBundle action).Uses p := by
  unfold syncLinkedTreasuryBundle
  split
  · trivial
  · exact Task.uses_call (hp _ trivial)

theorem portfolioStateOr_uses (portfolioState : Option PortfolioState) :
    (portfolioStateOr portfolioState).Uses p := by
  cases portfolioState with
  | none => exact Task.uses_call (hp _ trivial)
  | some portfolioState => trivial

end

section Books

variable (hp : ∀ c : TreasuryCall, c.books → p c) (input : ExecuteTreasuryInput)
  (action : TreasuryAction)

include hp

theorem sync_uses (action : TreasuryAction) : (syncLinkedTreasuryBundle action).Uses p :=
  syncLinkedTreasuryBundle_uses (fun c hc => hp c (TreasuryCall.books_of_reads hc)) action

theorem applyBudget_uses : (applyBudget input action).Uses p := by
  refine Task.Uses.call_bind (hp _ (by trivial)) fun execution => ?_
  refine Task.Uses.call_bind (hp _ (by trivial)) fun _ => ?_
  refine Task.Uses.call_bind (hp _ (by trivial)) fun _ => ?_
  refine (sync_uses hp action).bind fun _ => ?_
  trivial

theorem refuseUntargeted_uses (executionId message : String) :
    (refuseUntargeted action executionId message).Uses p := by
  refine Task.Uses.call_bind (hp _ (by trivial)) fun _ => ?_
  refine Task.Uses.call_bind (hp _ (by trivial)) fun _ => ?_
  refine (sync_uses hp action).bind fun _ => ?_
  trivial

theorem refuseBlocked_uses (executionId : String) (intent : TreasuryExecutionIntent) :
    (refuseBlocked input action executionId intent).Uses p := by
  refine Task.Uses.call_bind (hp _ (by trivial)) fun _ => ?_
  refine (sync_uses hp action).bind fun _ => ?_
  refine Task.Uses.call_bind (hp _ (by trivial)) fun _ => ?_
  trivial

theorem failExecution_uses (executionId message : String) :
    (failExecution input action executionId message).Uses p := by
  refine Task.Uses.call_bind (hp _ (by trivial)) fun _ => ?_
  refine Task.Uses.call_bind (hp _ (by trivial)) fun _ => ?_
  refine (sync_uses hp action).bind fun _ => ?_
  refine Task.Uses.call_bind (hp _ (by trivial)) fun _ => ?_
  trivial

theorem recordMove_uses (hset : ∀ cash, p (.setTreasuryCashBalanceUsd cash))
    (hevaluation : ∀ actorId treasuryRunId portfolioState idleCapitalUsd,
      (runtime.runTreasuryEvaluation actorId treasuryRunId portfolioState idleCapitalUsd).Uses p)
    (treasuryRunId executionId : String) (portfolioState : PortfolioState)
    (intent : TreasuryExecutionIntent) (result : TreasuryVenueExecutionResult) :
    (runtime.recordMove input treasuryRunId action executionId portfolioState intent
      result).Uses p := by
  refine Task.Uses.call_bind (hset _) fun _ => ?_
  refine (hevaluation _ _ _ _).bind fun followUpRunId => ?_
  refine Task.Uses.call_bind (hp _ (by trivial)) fun _ => ?_
  refine Task.Uses.call_bind (hp _ (by trivial)) fun _ => ?_
  refine (sync_uses hp action).bind fun _ => ?_
  refine Task.Uses.call_bind (hp _ (by trivial)) fun _ => ?_
  trivial

theorem runTreasuryEvaluation_uses
    (hupsert : ∀ treasuryRunId cash, p (.upsertTreasuryCurrent treasuryRunId cash))
    (actorId treasuryRunId : String) (portfolioState : Option PortfolioState)
    (idleCapitalUsd : Option Decimal) :
    (runtime.runTreasuryEvaluation actorId treasuryRunId portfolioState idleCapitalUsd).Uses p := by
  have hreads : ∀ c : TreasuryCall, c.reads → p c := fun c hc => hp c (TreasuryCall.books_of_reads hc)
  have hintents : ∀ intents, (insertIntents treasuryRunId intents).Uses p := by
    intro intents
    unfold insertIntents
    split
    · trivial
    · exact Task.uses_call (hp _ (by trivial))
  refine (portfolioStateOr_uses hreads _).bind fun portfolioState => ?_
  refine (collectTreasuryVenueSnapshots_uses hreads _).bind fun venueSnapshots => ?_
  refine (runtime.collectTreasuryVenueCapabilities_uses hreads).bind fun venueCapabilities => ?_
  refine Task.Uses.call_bind (hp _ (by trivial)) fun persistedCashBalanceUsd => ?_
  refine Task.Uses.bind ?_ fun _ => ?_
  · refine Task.Uses.call_bind (hp _ (by trivial)) fun _ => ?_
    refine (hintents _).bind fun _ => ?_
    exact Task.uses_call (hupsert _ _)
  · refine Task.Uses.call_bind (hp _ (by trivial)) fun _ => ?_
    refine Task.Uses.call_bind (hp _ (by trivial)) fun _ => ?_
    refine Task.Uses.call_bind (hp _ (by trivial)) fun latestRunId => ?_
    cases latestRunId <;> trivial

end Books

variable {input : ExecuteTreasuryInput} {action : TreasuryAction}

theorem fails_failExecution (executionId message : String) :
    (failExecution input action executionId message).Fails := by
  unfold failExecution
  repeat
    apply Task.fails_bind
    intro _
  trivial

theorem fails_refuseUntargeted (executionId message : String) :
    (refuseUntargeted action executionId message).Fails := by
  unfold refuseUntargeted
  repeat
    apply Task.fails_bind
    intro _
  trivial

theorem fails_refuseBlocked (executionId : String) (intent : TreasuryExecutionIntent) :
    (refuseBlocked input action executionId intent).Fails := by
  unfold refuseBlocked
  repeat
    apply Task.fails_bind
    intro _
  trivial

end TreasuryRuntime

end SentinelApex
