import SentinelApex.Carry.ActionGating

/-!
# The carry budget of a whole planning

Every increase is compared with the budget as if it were the only one. What the executable increases
of a planning take together is within the budget exactly if the increases that are clear by
themselves fit together (`withinBudget_iff`).
-/

namespace SentinelApex

namespace CarryControlledExecutionPlanner

open Decimal (Places Exact)

variable {dates : DateTexts} {input : CarryPlanningInput}

def executableIncreaseUsd (intents : List CarryExecutionIntent) : ℚ :=
  ((intents.filter fun intent => intent.executable &&
    decide (intent.actionType ≠ .reduceCarryExposure)).map fun intent => intent.notionalUsd).sum

/-- The allocation with all executable increases is within the approved budget. -/
def WithinBudget (input : CarryPlanningInput) (intents : List CarryExecutionIntent) : Prop :=
  ∀ budget ∈ input.approvedCarryBudgetUsd,
    input.currentCarryAllocationUsd + executableIncreaseUsd intents ≤ budget

instance (intents : List CarryExecutionIntent) : Decidable (WithinBudget input intents) :=
  inferInstanceAs (Decidable (∀ _ ∈ _, _))

/-- The increases that nothing stands against, each taken by itself. -/
def clearIncreases (dates : DateTexts) (input : CarryPlanningInput) :
    List CarryExecutionRecommendation :=
  input.recommendations.filter fun recommendation =>
    decide (Clear dates input recommendation) &&
      decide (recommendation.actionType ≠ .reduceCarryExposure)

/-- The clear increases, in whole cents, fit together into what the budget leaves. -/
def FitTogether (dates : DateTexts) (input : CarryPlanningInput) : Prop :=
  ∀ budget ∈ input.approvedCarryBudgetUsd,
    input.currentCarryAllocationUsd +
      ((clearIncreases dates input).map fun r => usd r.notionalUsd).sum ≤ budget

instance : Decidable (FitTogether dates input) := inferInstanceAs (Decidable (∀ _ ∈ _, _))

theorem createExecutionIntent_notionalUsd {recommendation : CarryExecutionRecommendation}
    {intent : CarryExecutionIntent}
    (h : createExecutionIntent dates input recommendation = .ok intent) :
    intent.actionType = recommendation.actionType ∧
      intent.notionalUsd = usd recommendation.notionalUsd := by
  obtain ⟨coverage, -, rfl⟩ := createExecutionIntent_eq_ok_iff.1 h
  exact ⟨rfl, rfl⟩

theorem executableIncreaseUsd_eq {intents : List CarryExecutionIntent}
    (h : createExecutionIntents dates input = .ok intents) :
    executableIncreaseUsd intents =
      ((clearIncreases dates input).map fun r => usd r.notionalUsd).sum := by
  have hcreated := forall₂_of_createExecutionIntents h
  clear h
  unfold executableIncreaseUsd clearIncreases
  generalize input.recommendations = recommendations at hcreated
  induction hcreated with
  | nil => rfl
  | @cons recommendation intent recommendations intents hfirst hrest ih =>
    obtain ⟨haction, hnotional⟩ := createExecutionIntent_notionalUsd hfirst
    have hexecutable : intent.executable = decide (Clear dates input recommendation) := by
      rw [Bool.eq_iff_iff, executable_iff hfirst, decide_eq_true_iff]
    rw [List.filter_cons, List.filter_cons, haction, hexecutable]
    split_ifs with hclear
    · rw [List.map_cons, List.map_cons, List.sum_cons, List.sum_cons, hnotional, ih]
    · exact ih

/-- The executable increases of a planning stay within the budget exactly if the clear ones fit
together. -/
theorem withinBudget_iff (dates : DateTexts) (input : CarryPlanningInput)
    {intents : List CarryExecutionIntent} (h : createExecutionIntents dates input = .ok intents) :
    WithinBudget input intents ↔ FitTogether dates input := by
  unfold WithinBudget FitTogether
  rw [executableIncreaseUsd_eq h]

/-- Two increases that fit together. -/
theorem withinBudget_sample : ∃ first second,
    createExecutionIntents sampleDateTexts
      (sampleCarryInput .simulated [sampleIncrease 600, sampleIncrease 400] (some 1000)) =
        .ok [first, second] ∧
    first.executable = true ∧ second.executable = true ∧
    WithinBudget (sampleCarryInput .simulated [sampleIncrease 600, sampleIncrease 400] (some 1000))
      [first, second] := by
  refine ⟨_, _, rfl, by decide +kernel, by decide +kernel,
    (withinBudget_iff sampleDateTexts _ rfl).2 ?_⟩
  decide +kernel

/-- Two increases of 600 are both executable with a budget of 1000. -/
theorem two_increases_exceed_budget : ∃ first second,
    createExecutionIntents sampleDateTexts
      (sampleCarryInput .simulated [sampleIncrease 600, sampleIncrease 600] (some 1000)) =
        .ok [first, second] ∧
    first.executable = true ∧ second.executable = true ∧
    ¬ WithinBudget (sampleCarryInput .simulated [sampleIncrease 600, sampleIncrease 600] (some 1000))
      [first, second] := by
  exact ⟨_, _, rfl, by decide +kernel, by decide +kernel, by decide +kernel⟩

end CarryControlledExecutionPlanner

end SentinelApex
