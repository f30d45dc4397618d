import SentinelApex.Treasury.Evaluation
import SentinelApex.Treasury.LiveGating

/-!
# Deposits of the engine and the planner

The engine sizes a deposit on the exact amounts and prints it rounded to cents; the planner checks the
printed amount against printed balances. The planner has nothing against a deposit of the engine
exactly if the rounded amount still keeps the limits (`depositsAgree_iff`).
-/

namespace SentinelApex

variable {venue : TreasuryVenueSnapshot}

namespace TreasuryExecutionPlanner

open TreasuryPolicyEngine

def engineReasonCodes : List String :=
  ["below_minimum_action_size", "venue_not_found", "venue_ineligible", "venue_unhealthy",
    "reserve_floor_breach", "insufficient_idle_capital", "venue_capacity_exceeded",
    "venue_concentration_breach"]

def planningOf (policy : TreasuryPolicy) (idleCapitalUsd : Decimal)
    (venues : List TreasuryVenueSnapshot) (executionMode : ActionExecutionMode)
    (liveExecutionEnabled : Bool) (venueCapabilities : List TreasuryVenueCapabilities) :
    TreasuryPlanningInput where
  evaluation := evaluate policy idleCapitalUsd venues
  policy
  executionMode
  liveExecutionEnabled
  venueCapabilities

/-- No deposit of the evaluation is blocked for a reason that the engine has looked at. -/
def DepositsAgree (input : TreasuryPlanningInput) : Prop :=
  ∀ recommendation ∈ input.evaluation.recommendations, recommendation.actionType = .deposit →
    ∀ reason ∈ (createIntentForRecommendation input recommendation).blockedReasons,
      reason.code ∉ engineReasonCodes

instance (input : TreasuryPlanningInput) : Decidable (DepositsAgree input) :=
  inferInstanceAs (Decidable (∀ _ ∈ _, _))

def depositUsd (policy : TreasuryPolicy) (idleCapitalUsd : Decimal)
    (venues before : List TreasuryVenueSnapshot) (venue : TreasuryVenueSnapshot) : Decimal :=
  min (before.foldl (surplusAfter policy (totalCapitalUsd idleCapitalUsd venues))
      (surplusCapitalUsd policy idleCapitalUsd venues))
    (depositLimitUsd policy (totalCapitalUsd idleCapitalUsd venues) venue)

/-- The share of the printed total capital that a deposit would leave at a venue, if there is
capital, is within the limit. -/
def ShareWithin (policy : TreasuryPolicy) (totalUsd amountUsd : Decimal)
    (venue : TreasuryVenueSnapshot) : Prop :=
  0 < totalUsd →
    ((venue.currentAllocationUsd.plus amountUsd).div totalUsd).times 100 ≤
      policy.maxAllocationPctPerVenue

instance (policy : TreasuryPolicy) (totalUsd amountUsd : Decimal) (venue : TreasuryVenueSnapshot) :
    Decidable (ShareWithin policy totalUsd amountUsd venue) :=
  inferInstanceAs (Decidable (_ → _))

/-- The limits for an amount in whole cents, with the balances in whole cents. -/
structure KeepsLimits (policy : TreasuryPolicy) (idleCapitalUsd : Decimal)
    (venues : List TreasuryVenueSnapshot) (venueId : String) (amountUsd : Decimal) : Prop where
  size : policy.minimumDeployableUsd ≤ amountUsd
  idle : amountUsd ≤ usd idleCapitalUsd
  reserve : usd (requiredReserveUsd policy idleCapitalUsd venues) ≤
    (usd idleCapitalUsd).minus amountUsd
  venue : ∃ venue ∈ venues.find? fun v => decide (v.venueId = venueId),
    venue.healthy = true ∧ amountUsd ≤ venue.availableCapacityUsd ∧
      ShareWithin policy (usd (totalCapitalUsd idleCapitalUsd venues)) amountUsd venue

section

variable {input : TreasuryPlanningInput} {recommendation : TreasuryRecommendation}

variable {reason : TreasuryActionBlockedReason} {venueId : String}

theorem forall_reasonIf {p : Prop} [Decidable p] {Q : TreasuryActionBlockedReason → Prop} :
    (∀ r ∈ reasonIf p reason, Q r) ↔ (p → Q reason) := by
  unfold reasonIf
  split_ifs with h <;> simp [h]

theorem forall_reasonIf_iff {p : Prop} [Decidable p] (h : reason.code ∈ engineReasonCodes) :
    (∀ r ∈ reasonIf p reason, r.code ∉ engineReasonCodes) ↔ ¬ p := by
  rw [forall_reasonIf]
  exact imp_congr_right fun _ => iff_false_intro (not_not.2 h)

theorem unsupported_code (venueId : String) :
    (supportReasons.unsupported venueId).code ∉ engineReasonCodes := by
  show "venue_execution_unsupported" ∉ engineReasonCodes
  decide

theorem forall_supportReasons (venueId : String) :
    ∀ reason ∈ supportReasons input recommendation venueId, reason.code ∉ engineReasonCodes := by
  unfold supportReasons
  cases venueCapabilities? input recommendation with
  | none => exact List.forall_mem_singleton.2 (unsupported_code venueId)
  | some capabilities =>
    dsimp only
    split_ifs
    · exact List.forall_mem_singleton.2 (unsupported_code venueId)
    · rw [forall_reasonIf]
      exact fun _ => unsupported_code venueId

theorem forall_liveReasons (venueId : String) (capabilities : TreasuryVenueCapabilities) :
    ∀ reason ∈ liveReasons input venueId capabilities, reason.code ∉ engineReasonCodes := by
  unfold liveReasons
  simp only [List.forall_mem_append, forall_reasonIf]
  refine ⟨⟨fun _ => ?_, fun _ => ?_⟩, fun _ => ?_⟩ <;> decide

/-- What a venue can do is not the engine's concern. -/
theorem forall_capabilityReasons :
    ∀ reason ∈ capabilityReasons input recommendation, reason.code ∉ engineReasonCodes := by
  unfold capabilityReasons
  cases recommendation.venueId with
  | none => exact fun _ h => absurd h (List.not_mem_nil)
  | some venueId =>
    dsimp only
    rw [List.forall_mem_append]
    refine ⟨forall_supportReasons venueId, ?_⟩
    cases venueCapabilities? input recommendation with
    | none => exact fun _ h => absurd h (List.not_mem_nil)
    | some capabilities =>
      dsimp only
      split_ifs
      · exact forall_liveReasons venueId capabilities
      · exact fun _ h => absurd h (List.not_mem_nil)

theorem forall_generalReasons_iff (hvenue : recommendation.venueId = some venueId) :
    (∀ reason ∈ generalReasons input recommendation, reason.code ∉ engineReasonCodes) ↔
      input.policy.minimumDeployableUsd ≤ recommendation.amountUsd ∧
        ∃ venue, venueSnapshot? input recommendation = some venue := by
  unfold generalReasons
  rw [hvenue]
  dsimp only
  rw [List.forall_mem_append, forall_reasonIf_iff (by simp [engineReasonCodes]), not_lt,
    forall_reasonIf_iff (by simp [engineReasonCodes])]
  refine and_congr_right fun _ => ?_
  rw [Bool.not_eq_true, Option.isNone_eq_false_iff, Option.isSome_iff_exists]

theorem forall_depositVenueReasons_iff (venue : TreasuryVenueSnapshot) :
    (∀ reason ∈ depositVenueReasons input venue, reason.code ∉ engineReasonCodes) ↔
      venue.venueId ∈ input.policy.eligibleVenues ∧ venue.healthy = true := by
  unfold depositVenueReasons
  rw [List.forall_mem_append, forall_reasonIf_iff (by simp [engineReasonCodes]), not_not,
    forall_reasonIf_iff (by simp [engineReasonCodes]), not_not]

section

variable (hdeposit : recommendation.actionType = .deposit)

include hdeposit

/-- The minimum that has to remain idle is the planner's alone. -/
theorem forall_depositBalanceReasons_iff :
    (∀ reason ∈ depositBalanceReasons input recommendation, reason.code ∉ engineReasonCodes) ↔
      input.evaluation.reserveStatus.requiredReserveUsd ≤
          input.evaluation.reserveStatus.idleCapitalUsd.minus recommendation.amountUsd ∧
        recommendation.amountUsd ≤ input.evaluation.reserveStatus.idleCapitalUsd := by
  have hpost : postIdleCapitalUsd input recommendation =
      input.evaluation.reserveStatus.idleCapitalUsd.minus recommendation.amountUsd := by
    rw [postIdleCapitalUsd, hdeposit]
  unfold depositBalanceReasons
  dsimp only
  rw [List.forall_mem_append, List.forall_mem_append, and_assoc, hpost]
  refine and_congr ?_ ((and_iff_right ?_).trans ?_)
  · rw [forall_reasonIf_iff (by simp [engineReasonCodes]), not_lt]
  · rw [forall_reasonIf]
    intro _
    simp [engineReasonCodes]
  · rw [forall_reasonIf_iff (by simp [engineReasonCodes]), not_lt]

theorem forall_depositCapacityReasons_iff
    (hsnapshot : venueSnapshot? input recommendation = some venue) :
    (∀ reason ∈ depositCapacityReasons input recommendation, reason.code ∉ engineReasonCodes) ↔
      recommendation.amountUsd ≤ venue.availableCapacityUsd ∧
        ShareWithin input.policy input.evaluation.reserveStatus.totalCapitalUsd
          recommendation.amountUsd venue := by
  have htarget : targetVenueAllocationUsd input recommendation =
      some (venue.currentAllocationUsd.plus recommendation.amountUsd) := by
    rw [targetVenueAllocationUsd, hsnapshot, hdeposit]
    rfl
  unfold depositCapacityReasons targetVenueConcentrationPct ShareWithin
  rw [hsnapshot, htarget]
  dsimp only [Option.bind_some]
  rw [List.forall_mem_append, forall_reasonIf_iff (by simp [engineReasonCodes]), not_lt]
  refine and_congr_right fun _ => ?_
  by_cases htotal : input.evaluation.reserveStatus.totalCapitalUsd ≤ 0
  · simp [htotal]
  · rw [if_neg htotal]
    dsimp only
    rw [forall_reasonIf_iff (by simp [engineReasonCodes]), not_lt]
    exact (imp_iff_right (not_le.1 htotal)).symm

/-- The conditions of the planner on a deposit that the engine has looked at as well. -/
theorem forall_blockedReasons_iff (hvenue : recommendation.venueId = some venueId) :
    (∀ reason ∈ blockedReasons input recommendation, reason.code ∉ engineReasonCodes) ↔
      input.policy.minimumDeployableUsd ≤ recommendation.amountUsd ∧
      recommendation.amountUsd ≤ input.evaluation.reserveStatus.idleCapitalUsd ∧
      input.evaluation.reserveStatus.requiredReserveUsd ≤
        input.evaluation.reserveStatus.idleCapitalUsd.minus recommendation.amountUsd ∧
      ∃ venue ∈ venueSnapshot? input recommendation,
        venue.venueId ∈ input.policy.eligibleVenues ∧ venue.healthy = true ∧
        recommendation.amountUsd ≤ venue.availableCapacityUsd ∧
        ShareWithin input.policy input.evaluation.reserveStatus.totalCapitalUsd
          recommendation.amountUsd venue := by
  rw [blockedReasons, List.forall_mem_append, List.forall_mem_append,
    and_iff_left forall_capabilityReasons, forall_generalReasons_iff hvenue, typeReasons, hdeposit]
  dsimp only
  cases hsnapshot : venueSnapshot? input recommendation with
  | none => simp
  | some venue =>
    dsimp only [Option.elim_some]
    rw [List.forall_mem_append, List.forall_mem_append, forall_depositVenueReasons_iff,
      forall_depositBalanceReasons_iff hdeposit,
      forall_depositCapacityReasons_iff hdeposit hsnapshot]
    simp only [Option.some.injEq, exists_eq', and_true, Option.mem_some_iff, exists_eq_left']
    tauto

end

end

section

variable {policy : TreasuryPolicy} {idleCapitalUsd : Decimal} {venues : List TreasuryVenueSnapshot}

theorem mem_deposits_iff {recommendation : TreasuryRecommendation} :
    recommendation ∈ (evaluate policy idleCapitalUsd venues).recommendations ∧
        recommendation.actionType = .deposit ↔
      recommendation ∈ deploySurplus policy (totalCapitalUsd idleCapitalUsd venues)
        (deployCandidates policy idleCapitalUsd venues)
        (surplusCapitalUsd policy idleCapitalUsd venues) := by
  rw [← filter_deposits, List.mem_filter, decide_eq_true_iff]

theorem find?_venueSnapshots (venueId : String) :
    (venueSnapshots idleCapitalUsd venues).find? (fun s => decide (s.venueId = venueId)) =
      (venues.find? fun v => decide (v.venueId = venueId)).map fun venue =>
        { venue with
          concentrationPct :=
            concentrationPct (totalCapitalUsd idleCapitalUsd venues) venue.currentAllocationUsd } := by
  rw [venueSnapshots, List.find?_map]
  rfl

theorem eligible_of_mem_deployCandidates (h : venue ∈ deployCandidates policy idleCapitalUsd venues) :
    venue.venueId ∈ policy.eligibleVenues := by
  rw [deployCandidates, (List.perm_insertionSort _ _).mem_iff, List.mem_filter, Bool.and_eq_true,
    decide_eq_true_iff] at h
  exact h.2.1

/-- The planner's conditions on a deposit of the engine. -/
theorem forall_blockedReasons_deposit_iff {executionMode : ActionExecutionMode}
    {liveExecutionEnabled : Bool} {venueCapabilities : List TreasuryVenueCapabilities}
    (hvenue : venue ∈ deployCandidates policy idleCapitalUsd venues) (deployUsd : Decimal) :
    (∀ reason ∈ blockedReasons (planningOf policy idleCapitalUsd venues executionMode
        liveExecutionEnabled venueCapabilities) (depositRecommendation deployUsd venue),
      reason.code ∉ engineReasonCodes) ↔
    KeepsLimits policy idleCapitalUsd venues venue.venueId (usd deployUsd) := by
  rw [forall_blockedReasons_iff rfl rfl]
  have hsnapshot : venueSnapshot? (planningOf policy idleCapitalUsd venues executionMode
      liveExecutionEnabled venueCapabilities) (depositRecommendation deployUsd venue) =
      (venues.find? fun v => decide (v.venueId = venue.venueId)).map fun venue =>
        { venue with
          concentrationPct :=
            concentrationPct (totalCapitalUsd idleCapitalUsd venues) venue.currentAllocationUsd } :=
    find?_venueSnapshots venue.venueId
  rw [hsnapshot]
  constructor
  · rintro ⟨hsize, hidle, hreserve, snapshot, hfound, -, hhealthy, hcapacity, hshare⟩
    obtain ⟨first, hfirst, rfl⟩ := Option.map_eq_some_iff.1 hfound
    exact ⟨hsize, hidle, hreserve, first, hfirst, hhealthy, hcapacity, hshare⟩
  · rintro ⟨hsize, hidle, hreserve, first, hfirst, hhealthy, hcapacity, hshare⟩
    refine ⟨hsize, hidle, hreserve, _, Option.map_eq_some_iff.2 ⟨first, hfirst, rfl⟩, ?_, hhealthy,
      hcapacity, hshare⟩
    have hid : first.venueId = venue.venueId := by simpa using List.find?_some hfirst
    show first.venueId ∈ policy.eligibleVenues
    rw [hid]
    exact eligible_of_mem_deployCandidates hvenue

/-- The planner agrees with every deposit of the engine exactly if the size of each deposit, rounded
to cents, keeps the limits. -/
theorem depositsAgree_iff (policy : TreasuryPolicy) (idleCapitalUsd : Decimal)
    (venues : List TreasuryVenueSnapshot) (executionMode : ActionExecutionMode)
    (liveExecutionEnabled : Bool) (venueCapabilities : List TreasuryVenueCapabilities) :
    DepositsAgree (planningOf policy idleCapitalUsd venues executionMode liveExecutionEnabled
        venueCapabilities) ↔
      ∀ before venue after, deployCandidates policy idleCapitalUsd venues = before ++ venue :: after →
        policy.minimumDeployableUsd ≤ depositUsd policy idleCapitalUsd venues before venue →
        KeepsLimits policy idleCapitalUsd venues venue.venueId
          (usd (depositUsd policy idleCapitalUsd venues before venue)) := by
  constructor
  · intro h before venue after hsplit hsize
    have hdeposit := mem_deposits_iff.2 (mem_deploySurplus_iff.2 ⟨before, venue, after, hsplit, hsize,
      rfl⟩)
    have hvenue : venue ∈ deployCandidates policy idleCapitalUsd venues := by
      rw [hsplit]
      exact List.mem_append_right _ List.mem_cons_self
    exact (forall_blockedReasons_deposit_iff hvenue _).1 (h _ hdeposit.1 hdeposit.2)
  · intro h recommendation hmem htype
    obtain ⟨before, venue, after, hsplit, hsize, rfl⟩ :=
      mem_deploySurplus_iff.1 (mem_deposits_iff.1 ⟨hmem, htype⟩)
    have hvenue : venue ∈ deployCandidates policy idleCapitalUsd venues := by
      rw [hsplit]
      exact List.mem_append_right _ List.mem_cons_self
    exact (forall_blockedReasons_deposit_iff hvenue _).2 (h before venue after hsplit hsize)

end

/-- Of 100000.01 USD a venue may hold 50000.005 USD. The engine prints this as 50000.01 USD, which
the planner finds above the limit. -/
theorem rounded_deposit_breaches_limit :
    ((evaluate defaultTreasuryPolicy 100000.01 [sampleVenue .simulated]).recommendations.map fun r =>
        (r.actionType, r.amountUsd,
          (createIntentForRecommendation (planningOf defaultTreasuryPolicy 100000.01
            [sampleVenue .simulated] .dryRun false [sampleCapabilities .simulated false])
              r).blockedReasons.map (·.code))) =
      [(.deposit, 50000.01, ["venue_concentration_breach"])] ∧
    ¬ DepositsAgree (planningOf defaultTreasuryPolicy 100000.01 [sampleVenue .simulated] .dryRun false
      [sampleCapabilities .simulated false]) := by
  exact ⟨by decide +kernel, by decide +kernel⟩

end TreasuryExecutionPlanner

end SentinelApex
