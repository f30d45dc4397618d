import SentinelApex.Carry.MultiLegOrchestration

/-!
# The status of a plan

`updatePlanStatus` reads the statuses of the legs through a cascade of tests. A plan is `completed`
exactly if all of its legs are; a plan whose legs have all ended may still fall through to
`cancelled` beside a completed leg, and to `pending` where a leg was skipped
(`updatePlanStatus_classified_iff`).
-/

namespace SentinelApex

def PlanLegStatus.Terminal (status : PlanLegStatus) : Prop :=
  status ≠ .pending ∧ status ≠ .executing

instance (status : PlanLegStatus) : Decidable status.Terminal := inferInstanceAs (Decidable (_ ∧ _))

def PlanStatus.Terminal (status : PlanStatus) : Prop := status ≠ .pending ∧ status ≠ .executing

instance (status : PlanStatus) : Decidable status.Terminal := inferInstanceAs (Decidable (_ ∧ _))

def MultiLegPlan.legStatuses (plan : MultiLegPlan) : List PlanLegStatus :=
  plan.legs.map fun leg => leg.status

def updatePlanStatus (plan : MultiLegPlan) : PlanStatus :=
  let statuses := plan.legStatuses
  if ∀ s ∈ statuses, s = .completed then .completed
  else if ∀ s ∈ statuses, s = .failed ∨ s = .cancelled then .failed
  else if .executing ∈ statuses then .executing
  else if .completed ∈ statuses ∧ .failed ∈ statuses then .partialResult
  else if .cancelled ∈ statuses then .cancelled
  else .pending

def MultiLegPlan.Finished (plan : MultiLegPlan) : Prop := ∀ s ∈ plan.legStatuses, s.Terminal

def MultiLegPlan.AllCompleted (plan : MultiLegPlan) : Prop := ∀ s ∈ plan.legStatuses, s = .completed

instance (plan : MultiLegPlan) : Decidable plan.Finished := inferInstanceAs (Decidable (∀ s ∈ _, _))

instance (plan : MultiLegPlan) : Decidable plan.AllCompleted :=
  inferInstanceAs (Decidable (∀ s ∈ _, _))

section

variable {plan : MultiLegPlan}

theorem updatePlanStatus_eq_completed_iff :
    updatePlanStatus plan = .completed ↔ plan.AllCompleted := by
  unfold updatePlanStatus MultiLegPlan.AllCompleted
  dsimp only
  split_ifs with hcompleted hfailed hexecuting hpartial hcancelled
  case pos => exact iff_of_true rfl hcompleted
  all_goals exact iff_of_false (by decide) hcompleted

theorem forall_failed_or_cancelled_iff (hfinished : plan.Finished) :
    (∀ s ∈ plan.legStatuses, s = .failed ∨ s = .cancelled) ↔
      .completed ∉ plan.legStatuses ∧ .skipped ∉ plan.legStatuses := by
  constructor
  · intro h
    exact ⟨fun hmem => absurd (h _ hmem) (by decide), fun hmem => absurd (h _ hmem) (by decide)⟩
  · rintro ⟨hcompleted, hskipped⟩ s hs
    obtain ⟨hpending, hexecuting⟩ := hfinished s hs
    cases s with
    | pending => exact absurd rfl hpending
    | executing => exact absurd rfl hexecuting
    | completed => exact absurd hs hcompleted
    | failed => exact Or.inl rfl
    | skipped => exact absurd hs hskipped
    | cancelled => exact Or.inr rfl

theorem updatePlanStatus_of_finished (hfinished : plan.Finished) (hnot : ¬ plan.AllCompleted) :
    updatePlanStatus plan =
      if .completed ∉ plan.legStatuses ∧ .skipped ∉ plan.legStatuses then .failed
      else if .completed ∈ plan.legStatuses ∧ .failed ∈ plan.legStatuses then .partialResult
      else if .cancelled ∈ plan.legStatuses then .cancelled
      else .pending := by
  have hexecuting : .executing ∉ plan.legStatuses := fun hmem => (hfinished _ hmem).2 rfl
  have hcompleted : ¬ ∀ s ∈ plan.legStatuses, s = .completed := hnot
  unfold updatePlanStatus
  dsimp only
  rw [if_neg hcompleted, if_neg hexecuting]
  simp only [forall_failed_or_cancelled_iff hfinished]

end

/-- A finished plan has a final status, a plan is completed exactly if all legs are, and a plan that
ended with some of its legs completed is partial. -/
structure Classified (plan : MultiLegPlan) : Prop where
  terminal : plan.Finished → (updatePlanStatus plan).Terminal
  completed : updatePlanStatus plan = .completed ↔ plan.AllCompleted
  partialResult : .completed ∈ plan.legStatuses → plan.Finished → ¬ plan.AllCompleted →
    updatePlanStatus plan = .partialResult

/-- No case falls through: beside a completed leg a failed one, and without a completed leg either a
cancelled one or none that was skipped. -/
def CaughtByCascade (plan : MultiLegPlan) : Prop :=
  (.completed ∈ plan.legStatuses ∧ .failed ∈ plan.legStatuses) ∨
    (.completed ∉ plan.legStatuses ∧
      (.cancelled ∈ plan.legStatuses ∨ .skipped ∉ plan.legStatuses))

instance (plan : MultiLegPlan) : Decidable (CaughtByCascade plan) :=
  inferInstanceAs (Decidable (_ ∨ _))

/-- A plan is classified exactly if it is not finished, or completed, or caught by the cascade. -/
theorem updatePlanStatus_classified_iff (plan : MultiLegPlan) :
    Classified plan ↔ (plan.Finished → ¬ plan.AllCompleted → CaughtByCascade plan) := by
  constructor
  · intro h hfinished hnot
    have hterminal := h.terminal hfinished
    have hpartial := fun hmem => h.partialResult hmem hfinished hnot
    rw [updatePlanStatus_of_finished hfinished hnot] at hterminal hpartial
    by_cases hcompleted : .completed ∈ plan.legStatuses
    · left
      refine ⟨hcompleted, ?_⟩
      by_contra hfailed
      have hstatus := hpartial hcompleted
      rw [if_neg fun h => h.1 hcompleted, if_neg fun h => hfailed h.2] at hstatus
      split_ifs at hstatus
    · right
      refine ⟨hcompleted, ?_⟩
      by_contra hmixed
      obtain ⟨hcancelled, hskipped⟩ := not_or.1 hmixed
      rw [if_neg fun h => hskipped h.2, if_neg fun h => hcompleted h.1, if_neg hcancelled]
        at hterminal
      exact hterminal.1 rfl
  · intro h
    refine ⟨fun hfinished => ?_, updatePlanStatus_eq_completed_iff, fun hmem hfinished hnot => ?_⟩
    · by_cases hall : plan.AllCompleted
      · rw [updatePlanStatus_eq_completed_iff.2 hall]
        decide
      · rw [updatePlanStatus_of_finished hfinished hall]
        rcases h hfinished hall with hboth | ⟨hcompleted, hcancelled | hskipped⟩
        · rw [if_neg fun h => h.1 hboth.1, if_pos hboth]
          decide
        · split_ifs <;> decide
        · rw [if_pos ⟨hcompleted, hskipped⟩]
          decide
    · rw [updatePlanStatus_of_finished hfinished hnot]
      rcases h hfinished hnot with hboth | ⟨hcompleted, -⟩
      · rw [if_neg fun h => h.1 hboth.1, if_pos hboth]
      · exact absurd hmem hcompleted

def planWithLegStatuses (statuses : List PlanLegStatus) : MultiLegPlan where
  id := "plan_0"
  carryActionId := "action_123"
  strategyRunId := none
  planType := .custom
  asset := "BTC"
  notionalUsd := 10000
  legCount := statuses.length
  legs := statuses.zipIdx.map fun s =>
    { id := s!"leg_plan_0_{s.2 + 1}"
      planId := "plan_0"
      carryActionId := "action_123"
      legSequence := s.2 + 1
      legType := .perp
      side := .short
      venueId := "drift-devnet"
      asset := "BTC"
      marketSymbol := none
      targetSize := 1 / 10
      targetNotionalUsd := 5000
      status := s.1 }
  executionOrder := List.range' 1 statuses.length
  status := .executing
  coordinationConfig := ⟨1, true, 30000, 1 / 10000⟩
  maxHedgeDeviationPct := 1

/-- A leg that was skipped beside a completed one leaves the plan pending, and a cancelled one hides
what was completed. -/
theorem updatePlanStatus_not_classified :
    (planWithLegStatuses [.completed, .skipped]).Finished ∧
      updatePlanStatus (planWithLegStatuses [.completed, .skipped]) = .pending ∧
      updatePlanStatus (planWithLegStatuses [.completed, .cancelled]) = .cancelled ∧
      ¬ Classified (planWithLegStatuses [.completed, .skipped]) := by
  refine ⟨by decide, by decide, by decide, fun h => ?_⟩
  exact (h.terminal (by decide)).1 (by decide)

end SentinelApex
