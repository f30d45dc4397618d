import SentinelApex.Allocator.DefensiveCaps

/-!
# More stress, less carry

A system that is at least as bad in every respect never gets a larger share of carry. Every step of
the evaluation keeps the order: the pressure rises, a triggered cap stays or is followed by a lower
one, the uplift disappears, the floor of treasury rises, and the clamps are monotone also where
their bounds conflict.
-/

namespace SentinelApex

open SigDigits Clamp

open SentinelApex.Runtime (RuntimeLifecycleState)

/-- How bad the state of the runtime is: ready, degraded, or out of operation. -/
def AllocatorSystemState.runtimeSeverity (system : AllocatorSystemState) : ℕ :=
  if system.runtimeHalted = true then 2
  else
    match system.runtimeLifecycleState with
    | .ready => 0
    | .starting => 0
    | .degraded => 1
    | .paused => 2
    | .stopped => 2

/-- The second system is at least as bad in every respect. -/
structure AtLeastAsBad (system worse : AllocatorSystemState) : Prop where
  runtime : system.runtimeSeverity ≤ worse.runtimeSeverity
  openMismatches : system.openMismatchCount ≤ worse.openMismatchCount
  criticalMismatches : system.criticalMismatchCount ≤ worse.criticalMismatchCount
  degradedReasons : system.degradedReasonCount ≤ worse.degradedReasonCount
  reconciliationIssues : system.recentReconciliationIssues ≤ worse.recentReconciliationIssues
  shortfall : system.treasuryReserveShortfallUsd ≤ worse.treasuryReserveShortfallUsd
  coverage : worse.treasuryReserveCoveragePct ≤ system.treasuryReserveCoveragePct
  score : worse.carryOpportunityScore ≤ system.carryOpportunityScore

/-- The percentages of the policy that may become the share of carry are doubles. -/
def AllocatorPolicy.HasDoubles (policy : AllocatorPolicy) : Prop :=
  ∀ pct ∈ [policy.baselineCarryPct, policy.reserveShortfallCarryCapPct,
    policy.degradedCarryCapPct, policy.elevatedMismatchCarryCapPct, policy.weakCarryCarryCapPct],
    binary64.round pct = pct

instance (policy : AllocatorPolicy) : Decidable policy.HasDoubles :=
  inferInstanceAs (Decidable (∀ pct ∈ _, _))

namespace SentinelAllocatorPolicyEngine

open ShareArithmetic

variable {policy : AllocatorPolicy} {sleeves : List AllocatorSleeveSnapshot}
  {system worse : AllocatorSystemState} {carry treasury : AllocatorSleeveSnapshot}

theorem two_le_runtimeSeverity : 2 ≤ system.runtimeSeverity ↔
    system.runtimeHalted = true ∨ system.runtimeLifecycleState = .paused ∨
      system.runtimeLifecycleState = .stopped := by
  unfold AllocatorSystemState.runtimeSeverity
  cases system.runtimeHalted <;> cases system.runtimeLifecycleState <;> simp

theorem one_le_runtimeSeverity : 1 ≤ system.runtimeSeverity ↔
    2 ≤ system.runtimeSeverity ∨ system.runtimeLifecycleState = .degraded := by
  unfold AllocatorSystemState.runtimeSeverity
  cases system.runtimeHalted <;> cases system.runtimeLifecycleState <;> simp

def High (system : AllocatorSystemState) : Prop :=
  2 ≤ system.runtimeSeverity ∨ 0 < system.criticalMismatchCount ∨
    0 < system.treasuryReserveShortfallUsd

def Pressed (system : AllocatorSystemState) : Prop :=
  High system ∨ 1 ≤ system.runtimeSeverity ∨ 3 ≤ system.openMismatchCount ∨
    0 < system.recentReconciliationIssues ∨ 0 < system.degradedReasonCount

theorem pressure_eq_high_iff : pressureFromInput system = .high ↔ High system := by
  unfold pressureFromInput High
  rw [two_le_runtimeSeverity]
  split_ifs with hhigh helevated
  · exact iff_of_true rfl (by tauto)
  all_goals exact iff_of_false (by simp) (by tauto)

theorem pressure_eq_normal_iff : pressureFromInput system = .normal ↔ ¬ Pressed system := by
  unfold pressureFromInput Pressed High
  rw [one_le_runtimeSeverity, two_le_runtimeSeverity]
  split_ifs with hhigh helevated
  · exact iff_of_false (by simp) (by tauto)
  · exact iff_of_false (by simp) (by tauto)
  · exact iff_of_true rfl (by tauto)

theorem High.mono (h : AtLeastAsBad system worse) (hhigh : High system) : High worse := by
  rcases hhigh with hhigh | hhigh | hhigh
  · exact Or.inl (hhigh.trans h.runtime)
  · exact Or.inr (Or.inl (hhigh.trans_le h.criticalMismatches))
  · exact Or.inr (Or.inr (hhigh.trans_le h.shortfall))

theorem Pressed.mono (h : AtLeastAsBad system worse) (hpressed : Pressed system) :
    Pressed worse := by
  rcases hpressed with hhigh | hpressed | hpressed | hpressed | hpressed
  · exact Or.inl (hhigh.mono h)
  · exact Or.inr (Or.inl (hpressed.trans h.runtime))
  · exact Or.inr (Or.inr (Or.inl (hpressed.trans h.openMismatches)))
  · exact Or.inr (Or.inr (Or.inr (Or.inl (hpressed.trans_le h.reconciliationIssues))))
  · exact Or.inr (Or.inr (Or.inr (Or.inr (hpressed.trans_le h.degradedReasons))))

section

variable (hcaps : policy.degradedCarryCapPct ≤ policy.elevatedMismatchCarryCapPct)
  (h : AtLeastAsBad system worse)

include hcaps h

/-- A cap of the pressure is followed by one that is at most as large. -/
theorem pressureCaps_mono :
    ∀ cap ∈ pressureCaps ⟨policy, sleeves, system⟩,
      ∃ other ∈ pressureCaps ⟨policy, sleeves, worse⟩, other ≤ cap := by
  intro cap hcap
  unfold pressureCaps at hcap ⊢
  dsimp only at hcap ⊢
  cases hworse : pressureFromInput worse with
  | high =>
    refine ⟨_, List.mem_singleton_self _, ?_⟩
    split at hcap
    · exact (List.mem_singleton.1 hcap).ge
    · exact hcaps.trans (List.mem_singleton.1 hcap).ge
    · cases hcap
  | elevated =>
    refine ⟨_, List.mem_singleton_self _, ?_⟩
    split at hcap
    · rename_i hhigh
      have := pressure_eq_high_iff.2 ((pressure_eq_high_iff.1 hhigh).mono h)
      rw [hworse] at this
      cases this
    · exact (List.mem_singleton.1 hcap).ge
    · cases hcap
  | normal =>
    have hnormal : pressureFromInput system = .normal :=
      pressure_eq_normal_iff.2 fun hpressed =>
        pressure_eq_normal_iff.1 hworse (hpressed.mono h)
    rw [hnormal] at hcap
    cases hcap

/-- A triggered cap stays, or is followed by one that is at most as large. -/
theorem triggeredCaps_mono :
    ∀ cap ∈ triggeredCaps ⟨policy, sleeves, system⟩ carry,
      ∃ other ∈ triggeredCaps ⟨policy, sleeves, worse⟩ carry, other ≤ cap := by
  intro cap hcap
  unfold triggeredCaps at hcap ⊢
  rcases List.mem_append.1 hcap with hcap | hweak
  · rcases List.mem_append.1 hcap with hreserve | hpressure
    · split_ifs at hreserve with hshort
      · refine ⟨cap, ?_, le_rfl⟩
        rw [if_pos (hshort.trans_le h.shortfall)]
        exact List.mem_append_left _ (List.mem_append_left _ hreserve)
      · cases hreserve
    · obtain ⟨other, hother, hle⟩ := pressureCaps_mono hcaps h cap hpressure
      exact ⟨other, List.mem_append_left _ (List.mem_append_right _ hother), hle⟩
  · split_ifs at hweak with hweakness
    · refine ⟨cap, ?_, le_rfl⟩
      rw [if_pos (hweakness.imp_right h.score.trans_lt)]
      exact List.mem_append_right _ hweak
    · cases hweak

theorem cappedPct_mono :
    cappedPct ⟨policy, sleeves, worse⟩ carry ≤ cappedPct ⟨policy, sleeves, system⟩ carry := by
  refine le_foldl_min_iff.2 ⟨foldl_min_le_iff.2 (Or.inl le_rfl), fun cap hcap => ?_⟩
  exact foldl_min_le_iff.2 (Or.inr (triggeredCaps_mono hcaps h cap hcap))

end

theorem Uplifted.anti (h : AtLeastAsBad system worse)
    (hworse : Uplifted ⟨policy, sleeves, worse⟩) : Uplifted ⟨policy, sleeves, system⟩ := by
  obtain ⟨hfloor, hstrong, hnormal⟩ := hworse
  refine ⟨fun hlt => hfloor (h.score.trans_lt hlt), hstrong.trans h.score, ?_⟩
  exact pressure_eq_normal_iff.2 fun hpressed => pressure_eq_normal_iff.1 hnormal (hpressed.mono h)

/-- Every cap is one of the percentages of the policy. -/
theorem cappedPct_mem (input : AllocatorPolicyInput) :
    cappedPct input carry ∈ [input.policy.baselineCarryPct,
      input.policy.reserveShortfallCarryCapPct,
      input.policy.degradedCarryCapPct, input.policy.elevatedMismatchCarryCapPct,
      input.policy.weakCarryCarryCapPct] := by
  have hmem : (triggeredCaps input carry).foldl min input.policy.baselineCarryPct ∈
      input.policy.baselineCarryPct :: triggeredCaps input carry := List.min?_mem rfl
  rcases List.mem_cons.1 hmem with hbase | hcap
  · rw [cappedPct, hbase]
    exact List.mem_cons_self
  · rw [cappedPct]
    generalize (triggeredCaps input carry).foldl min input.policy.baselineCarryPct = pct at hcap
    unfold triggeredCaps pressureCaps at hcap
    rw [List.mem_append, List.mem_append] at hcap
    rcases hcap with (hcap | hcap) | hcap
    · split_ifs at hcap <;> simp_all
    · split at hcap <;> simp_all
    · split_ifs at hcap <;> simp_all

theorem le_add_five {pct : Number} (h : binary64.round pct = pct) : pct ≤ pct.add 5 := by
  calc pct = binary64.round pct := h.symm
    _ ≤ pct.add 5 := binary64.round_mono (by linarith)

theorem withinCarry_min (input : AllocatorPolicyInput) (pct : Number) :
    ShareArithmetic.withinCarry input carry (min input.policy.maximumCarryPct pct) =
      ShareArithmetic.withinCarry input carry pct := by
  unfold ShareArithmetic.withinCarry clamp carryCeilingPct
  rw [← min_assoc, min_assoc carry.maxAllocationPct, min_self]

theorem withinCarry_mono (hdoubles : policy.HasDoubles)
    (hcaps : policy.degradedCarryCapPct ≤ policy.elevatedMismatchCarryCapPct)
    (h : AtLeastAsBad system worse) :
    ShareArithmetic.withinCarry ⟨policy, sleeves, worse⟩ carry
        (program.carrySharePct ⟨policy, sleeves, worse⟩ carry) ≤
      ShareArithmetic.withinCarry ⟨policy, sleeves, system⟩ carry
        (program.carrySharePct ⟨policy, sleeves, system⟩ carry) := by
  have hcapped : cappedPct ⟨policy, sleeves, worse⟩ carry ≤
      cappedPct ⟨policy, sleeves, system⟩ carry := cappedPct_mono hcaps h
  have hlift : cappedPct ⟨policy, sleeves, system⟩ carry ≤
      (cappedPct ⟨policy, sleeves, system⟩ carry).add 5 :=
    le_add_five (hdoubles _ (cappedPct_mem ⟨policy, sleeves, system⟩))
  rw [carrySharePct_eq, carrySharePct_eq]
  by_cases hworse : Uplifted ⟨policy, sleeves, worse⟩
  · rw [if_pos hworse, if_pos (hworse.anti h), withinCarry_min, withinCarry_min]
    exact clamp_mono le_rfl le_rfl (binary64.round_mono (by linarith))
  · rw [if_neg hworse]
    by_cases hsystem : Uplifted ⟨policy, sleeves, system⟩
    · -- The uplift disappears.
      rw [if_pos hsystem, withinCarry_min]
      exact clamp_mono le_rfl le_rfl (hcapped.trans hlift)
    · rw [if_neg hsystem]
      exact clamp_mono le_rfl le_rfl hcapped

theorem treasuryMinPct_mono (h : AtLeastAsBad system worse) :
    program.treasuryMinPct ⟨policy, sleeves, system⟩ treasury ≤
      program.treasuryMinPct ⟨policy, sleeves, worse⟩ treasury := by
  refine max_le_max le_rfl ?_
  unfold ShareArithmetic.treasuryFloorPct
  dsimp only
  by_cases hcoverage : system.treasuryReserveCoveragePct < 100
  · rw [if_pos hcoverage, if_pos (h.coverage.trans_lt hcoverage)]
  · rw [if_neg hcoverage, max_self]
    exact le_max_left _ _

section

variable (hdoubles : policy.HasDoubles)
  (hcaps : policy.degradedCarryCapPct ≤ policy.elevatedMismatchCarryCapPct)
  (h : AtLeastAsBad system worse)

include hdoubles hcaps h

theorem treasuryTargetPct_mono :
    program.treasuryTargetPct ⟨policy, sleeves, system⟩ carry treasury ≤
      program.treasuryTargetPct ⟨policy, sleeves, worse⟩ carry treasury :=
  clamp_mono (treasuryMinPct_mono h) le_rfl (restPct_antitone (withinCarry_mono hdoubles hcaps h))

theorem carryTargetPct_anti :
    program.carryTargetPct ⟨policy, sleeves, worse⟩ carry treasury ≤
      program.carryTargetPct ⟨policy, sleeves, system⟩ carry treasury :=
  clamp_mono le_rfl le_rfl (restPct_antitone (treasuryTargetPct_mono hdoubles hcaps h))

end

/-- Of two evaluations with the same policy and sleeves, the one for the system that is at least as
bad in every respect gives carry at most as much. -/
theorem carry_anti_stress (policy : AllocatorPolicy) (sleeves : List AllocatorSleeveSnapshot)
    (system worse : AllocatorSystemState) (hdoubles : policy.HasDoubles)
    (hcaps : policy.degradedCarryCapPct ≤ policy.elevatedMismatchCarryCapPct)
    (h : AtLeastAsBad system worse) :
    ∀ decision target decision' target',
      evaluate ⟨policy, sleeves, system⟩ = .ok decision →
      decision.target .carry = some target →
      evaluate ⟨policy, sleeves, worse⟩ = .ok decision' →
      decision'.target .carry = some target' →
        target'.targetAllocationPct ≤ target.targetAllocationPct := by
  intro decision target decision' target' heval htarget heval' htarget'
  obtain ⟨carry, treasury, hcarry, htreasury, rfl⟩ := (evaluate_eq_ok_iff _).1 heval
  obtain ⟨carry', treasury', hcarry', htreasury', rfl⟩ := (evaluate_eq_ok_iff _).1 heval'
  obtain rfl : carry = carry' := Option.some.inj (hcarry.symm.trans hcarry')
  obtain rfl : treasury = treasury' := Option.some.inj (htreasury.symm.trans htreasury')
  obtain rfl := Option.some.inj ((decisionFor_target _ hcarry htreasury).1.symm.trans htarget)
  obtain rfl := Option.some.inj ((decisionFor_target _ hcarry' htreasury').1.symm.trans htarget')
  have hanti : program.carryTargetPct ⟨policy, sleeves, worse⟩ carry treasury ≤
      program.carryTargetPct ⟨policy, sleeves, system⟩ carry treasury :=
    carryTargetPct_anti hdoubles hcaps h
  rw [program_carryTargetPct, program_carryTargetPct] at hanti
  exact hanti

def degradedSystem : AllocatorSystemState :=
  { sampleSystem with runtimeLifecycleState := .degraded, openMismatchCount := 2 }

theorem carry_anti_stress_sample :
    ∃ decision target decision' target',
      evaluate sampleInput = .ok decision ∧ decision.target .carry = some target ∧
      evaluate { sampleInput with system := degradedSystem } = .ok decision' ∧
      decision'.target .carry = some target' ∧
        target'.targetAllocationPct ≤ target.targetAllocationPct := by
  have hanti := carry_anti_stress defaultAllocatorPolicy sampleInput.sleeves sampleSystem
    degradedSystem (by decide +kernel) (by decide +kernel)
    ⟨by decide, by decide, by decide, by decide, by decide, by decide +kernel, by decide +kernel,
      le_rfl⟩
  have heval := (evaluate_eq_ok_iff sampleInput).2 ⟨_, _, rfl, rfl, rfl⟩
  have htarget := (decisionFor_target sampleInput rfl rfl).1
  have heval' := (evaluate_eq_ok_iff { sampleInput with system := degradedSystem }).2
    ⟨_, _, rfl, rfl, rfl⟩
  have htarget' := (decisionFor_target { sampleInput with system := degradedSystem } rfl rfl).1
  exact ⟨_, _, _, _, heval, htarget, heval', htarget',
    hanti _ _ _ _ heval htarget heval' htarget'⟩

end SentinelAllocatorPolicyEngine

end SentinelApex
