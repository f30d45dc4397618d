import SentinelApex.Treasury.ExecutionPlanner

/-!
# When an intent is executable

An intent is executable when no rule blocks it. The rules that block a live venue read its mode from
the capabilities, the approval level and the simulated label read it from the snapshot, so that an
executable intent is gated as live only where the two lists agree.
-/

namespace SentinelApex

namespace TreasuryExecutionPlanner

@[simp] theorem reasonIf_eq_nil {p : Prop} [Decidable p] {reason : TreasuryActionBlockedReason} :
    reasonIf p reason = [] ↔ ¬ p := by
  unfold reasonIf
  split_ifs with h <;> simp [h]

section

variable {input : TreasuryPlanningInput} {recommendation : TreasuryRecommendation}

theorem executable_iff :
    (createIntentForRecommendation input recommendation).executable = true ↔
      generalReasons input recommendation = [] ∧ typeReasons input recommendation = [] ∧
        capabilityReasons input recommendation = [] := by
  show (blockedReasons input recommendation).isEmpty = true ↔ _
  rw [List.isEmpty_iff, blockedReasons, List.append_eq_nil_iff, List.append_eq_nil_iff, and_assoc]

theorem generalReasons_eq_nil_iff :
    generalReasons input recommendation = [] ↔
      input.policy.minimumDeployableUsd ≤ recommendation.amountUsd ∧
        (recommendation.venueId ≠ none → ∃ venue, venueSnapshot? input recommendation = some venue) := by
  unfold generalReasons
  dsimp only
  rw [List.append_eq_nil_iff, reasonIf_eq_nil, not_lt]
  refine and_congr_right fun _ => ?_
  cases recommendation.venueId with
  | none => simp
  | some venueId =>
    dsimp only
    rw [reasonIf_eq_nil, Bool.not_eq_true, Option.isNone_eq_false_iff, Option.isSome_iff_exists]
    simp

theorem supportReasons_eq_nil_iff (venueId : String) :
    supportReasons input recommendation venueId = [] ↔
      ∃ capabilities, venueCapabilities? input recommendation = some capabilities ∧
        capabilities.executionSupported = true ∧
        (recommendation.actionType = .deposit → capabilities.supportsAllocation = true) ∧
        (recommendation.actionType = .redeem → capabilities.supportsReduction = true) := by
  unfold supportReasons
  cases venueCapabilities? input recommendation with
  | none => simp
  | some capabilities =>
    dsimp only
    cases hsupported : capabilities.executionSupported with
    | false => simp [hsupported]
    | true =>
      cases recommendation.actionType <;> simp [hsupported]

theorem liveReasons_eq_nil_iff (venueId : String) (capabilities : TreasuryVenueCapabilities) :
    liveReasons input venueId capabilities = [] ↔
      capabilities.approvedForLiveUse = true ∧ capabilities.sensitiveExecutionEligible = true ∧
        input.executionMode = .live ∧ input.liveExecutionEnabled = true := by
  unfold liveReasons
  simp only [List.append_eq_nil_iff, reasonIf_eq_nil, not_not, not_and, not_or, ne_eq]
  tauto

theorem capabilityReasons_eq_nil_iff {venueId : String}
    (h : recommendation.venueId = some venueId) :
    capabilityReasons input recommendation = [] ↔
      ∃ capabilities, venueCapabilities? input recommendation = some capabilities ∧
        capabilities.executionSupported = true ∧
        (recommendation.actionType = .deposit → capabilities.supportsAllocation = true) ∧
        (recommendation.actionType = .redeem → capabilities.supportsReduction = true) ∧
        (capabilities.venueMode = .live → capabilities.approvedForLiveUse = true ∧
          capabilities.sensitiveExecutionEligible = true ∧ input.executionMode = .live ∧
          input.liveExecutionEnabled = true) := by
  unfold capabilityReasons
  simp only [h, List.append_eq_nil_iff, supportReasons_eq_nil_iff]
  cases hcap : venueCapabilities? input recommendation with
  | none => simp
  | some capabilities =>
    simp only [Option.some.injEq, exists_eq_left', and_assoc]
    split_ifs with hlive
    · simp only [liveReasons_eq_nil_iff, hlive, true_imp_iff]
    · simp [hlive]

def VenueLive (input : TreasuryPlanningInput) (recommendation : TreasuryRecommendation) : Prop :=
  (∃ venue, venueSnapshot? input recommendation = some venue ∧ venue.mode = .live) ∨
    ∃ capabilities, venueCapabilities? input recommendation = some capabilities ∧
      capabilities.venueMode = .live

/-- Everything that a live venue requires. -/
structure LiveGated (input : TreasuryPlanningInput) (recommendation : TreasuryRecommendation) :
    Prop where
  capabilities : ∃ capabilities, venueCapabilities? input recommendation = some capabilities ∧
    capabilities.approvedForLiveUse = true ∧ capabilities.sensitiveExecutionEligible = true
  executionMode : (createIntentForRecommendation input recommendation).executionMode = .live
  liveExecutionEnabled : input.liveExecutionEnabled = true
  approvalRequirement :
    (createIntentForRecommendation input recommendation).approvalRequirement = .admin
  simulated : (createIntentForRecommendation input recommendation).simulated = false

/-- The snapshot has the venue as live, and the capabilities have it as live too or would pass the
rules for live venues. -/
def ModesAgree (input : TreasuryPlanningInput) (recommendation : TreasuryRecommendation) : Prop :=
  ∃ venue capabilities, venueSnapshot? input recommendation = some venue ∧
    venueCapabilities? input recommendation = some capabilities ∧ venue.mode = .live ∧
    (capabilities.venueMode = .live ∨ (capabilities.approvedForLiveUse = true ∧
      capabilities.sensitiveExecutionEligible = true ∧ input.executionMode = .live ∧
      input.liveExecutionEnabled = true))

variable {venue : TreasuryVenueSnapshot}

theorem venueId_of_snapshot (h : venueSnapshot? input recommendation = some venue) :
    recommendation.venueId = some venue.venueId := by
  unfold venueSnapshot? findVenueSnapshot at h
  cases hid : recommendation.venueId with
  | none => rw [hid] at h; cases h
  | some venueId =>
    rw [hid] at h
    have hfound := List.find?_some h
    rw [of_decide_eq_true hfound]

theorem exists_venueId_of_live (h : VenueLive input recommendation) :
    ∃ venueId, recommendation.venueId = some venueId := by
  rcases h with ⟨venue, hvenue, -⟩ | ⟨capabilities, hcapabilities, -⟩
  · exact ⟨_, venueId_of_snapshot hvenue⟩
  · cases hid : recommendation.venueId with
    | none => simp [venueCapabilities?, findVenueCapabilities, hid] at hcapabilities
    | some venueId => exact ⟨venueId, rfl⟩

theorem venueMode_of_snapshot (h : venueSnapshot? input recommendation = some venue) :
    venueMode input recommendation = venue.mode.toTreasury := by
  unfold venueMode
  rw [venueId_of_snapshot h]
  simp [h]

theorem approvalRequirement_eq_admin_iff :
    (createIntentForRecommendation input recommendation).approvalRequirement = .admin ↔
      venueMode input recommendation = .live := by
  show mapApprovalRequirement (venueMode input recommendation) = .admin ↔ _
  unfold mapApprovalRequirement
  split_ifs with h <;> simp [h]

theorem simulated_eq_false_iff :
    (createIntentForRecommendation input recommendation).simulated = false ↔
      venueMode input recommendation = .live := by
  show decide (venueMode input recommendation ≠ .live) = false ↔ _
  simp

/-- An executable intent for a live venue is gated as live exactly if the snapshot and the
capabilities agree. -/
theorem liveGated_iff (input : TreasuryPlanningInput) (recommendation : TreasuryRecommendation)
    (hexecutable : (createIntentForRecommendation input recommendation).executable = true)
    (hlive : VenueLive input recommendation) :
    LiveGated input recommendation ↔ ModesAgree input recommendation := by
  obtain ⟨hgeneral, -, hcapability⟩ := executable_iff.1 hexecutable
  obtain ⟨venueId, hid⟩ := exists_venueId_of_live hlive
  obtain ⟨venue, hvenue⟩ := (generalReasons_eq_nil_iff.1 hgeneral).2 (by simp [hid])
  obtain ⟨capabilities, hcapabilities, -, -, -, hrules⟩ :=
    (capabilityReasons_eq_nil_iff hid).1 hcapability
  have hmode : venueMode input recommendation = .live ↔ venue.mode = .live := by
    rw [venueMode_of_snapshot hvenue]
    cases venue.mode <;> simp [VenueMode.toTreasury]
  constructor
  · rintro ⟨⟨_, hsame, happroved, heligible⟩, hexecution, henabled, hadmin, -⟩
    obtain rfl : capabilities = _ := Option.some.inj (hcapabilities.symm.trans hsame)
    exact ⟨venue, capabilities, hvenue, hcapabilities,
      hmode.1 (approvalRequirement_eq_admin_iff.1 hadmin),
      Or.inr ⟨happroved, heligible, hexecution, henabled⟩⟩
  · rintro ⟨_, _, hvenue', hcapabilities', hsnapshot, hagree⟩
    obtain rfl : venue = _ := Option.some.inj (hvenue.symm.trans hvenue')
    obtain rfl : capabilities = _ := Option.some.inj (hcapabilities.symm.trans hcapabilities')
    obtain ⟨happroved, heligible, hexecution, henabled⟩ := hagree.elim hrules id
    exact ⟨⟨capabilities, hcapabilities, happroved, heligible⟩, hexecution, henabled,
      approvalRequirement_eq_admin_iff.2 (hmode.2 hsnapshot),
      simulated_eq_false_iff.2 (hmode.2 hsnapshot)⟩

end

def sampleVenue (mode : VenueMode) : TreasuryVenueSnapshot where
  venueId := "atlas-t0-sim"
  venueName := "Atlas T0"
  mode
  liquidityTier := .instant
  healthy := true
  aprBps := 400
  availableCapacityUsd := 200000
  currentAllocationUsd := 0
  withdrawalAvailableUsd := 0
  concentrationPct := 0

def sampleCapabilities (mode : VenueMode) (approved : Bool) : TreasuryVenueCapabilities where
  venueId := "atlas-t0-sim"
  venueMode := mode
  supportsAllocation := true
  supportsReduction := true
  executionSupported := true
  approvedForLiveUse := approved
  sensitiveExecutionEligible := approved
  promotionStatus := if approved then .approved else .notRequested
  promotionBlockedReasons := []
  missingPrerequisites := []

/-- An evaluation of one empty venue and 100000 USD of idle capital: half of it is deployed. -/
def sampleInput (snapshotMode capabilityMode : VenueMode) (approved : Bool)
    (executionMode : ActionExecutionMode) : TreasuryPlanningInput where
  evaluation :=
    TreasuryPolicyEngine.evaluate defaultTreasuryPolicy 100000 [sampleVenue snapshotMode]
  policy := defaultTreasuryPolicy
  executionMode
  liveExecutionEnabled := decide (executionMode = .live)
  venueCapabilities := [sampleCapabilities capabilityMode approved]

def sampleDeposit : TreasuryRecommendation where
  actionType := .deposit
  venueId := some "atlas-t0-sim"
  amountUsd := 50000
  reasonCode := .surplusDeployable
  summary := "Deploy 50000.00 USD of surplus cash into Atlas T0."
  details := [("aprBps", .num 400), ("liquidityTier", .str "instant"),
    ("availableCapacityUsd", .decimal 200000)]

example : (TreasuryPolicyEngine.evaluate defaultTreasuryPolicy 100000
    [sampleVenue .live]).recommendations.map (·.amountUsd) = [50000] := by
  decide +kernel

/-- Where both lists have the venue as live, the deposit is gated as live. -/
theorem liveGated_sample : LiveGated (sampleInput .live .live true .live) sampleDeposit :=
  (liveGated_iff _ _ (by decide +kernel) (Or.inr ⟨sampleCapabilities .live true, rfl, rfl⟩)).2
    ⟨_, _, rfl, rfl, rfl, Or.inl rfl⟩

/-- The snapshot alone has the venue as live: an unapproved venue is used in a dry run. The
capabilities alone have it as live: the live action counts as simulated and an operator's approval
is enough. -/
theorem liveVenue_not_gated :
    (VenueLive (sampleInput .live .simulated false .dryRun) sampleDeposit ∧
      (createIntentForRecommendation (sampleInput .live .simulated false .dryRun)
        sampleDeposit).executable = true ∧
      ¬ LiveGated (sampleInput .live .simulated false .dryRun) sampleDeposit) ∧
    VenueLive (sampleInput .simulated .live true .live) sampleDeposit ∧
      (createIntentForRecommendation (sampleInput .simulated .live true .live)
        sampleDeposit).executable = true ∧
      ¬ LiveGated (sampleInput .simulated .live true .live) sampleDeposit := by
  refine ⟨⟨Or.inl ⟨_, rfl, rfl⟩, by decide +kernel, fun h => ?_⟩,
    Or.inr ⟨_, rfl, rfl⟩, by decide +kernel, fun h => ?_⟩
  · exact absurd h.executionMode (by decide)
  · exact absurd h.simulated (by decide)

end TreasuryExecutionPlanner

end SentinelApex
