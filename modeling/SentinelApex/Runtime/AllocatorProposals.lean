import SentinelApex.Allocator.Targets
import SentinelApex.Runtime.AllocatorEvaluation

/-!
# Executable proposals

The current allocation of carry is its net asset value, while the total that the targets split is
the capital of the treasury. When carry is worth more than that, the allocation of the treasury is
taken for zero, and carry gives up more than the treasury receives. Up to that, the two deltas of
an executable proposal cancel to two cents (`proposal_conserves_iff`).
-/

namespace SentinelApex

open SigDigits Decimal SentinelAllocatorPolicyEngine

namespace AllocatorReads

variable (reads : AllocatorReads)

/-- Carry is worth no more than the total capital, to two cents. -/
def CarryWithinCapital : Prop :=
  usd reads.carryCurrentUsd ≤
    usd reads.totalCapitalUsd + 2 / 100 + halfCents (usd reads.totalCapitalUsd) reads.carryPct

theorem carryPct_le : reads.carryPct ≤ 60 := by
  obtain ⟨n, -, hle, hpct⟩ := reads.carryPct_spec
  omega

section

variable (hcapital : |reads.totalCapitalUsd| ≤ 10 ^ 15) (hcarry : |reads.carryCurrentUsd| ≤ 10 ^ 15)

include hcapital hcarry

theorem abs_carryGap_le :
    |reads.totalCapitalUsd - reads.carryCurrentUsd| ≤ 2 * 10 ^ 15 := by
  have htri := abs_sub reads.totalCapitalUsd reads.carryCurrentUsd
  linarith

theorem abs_minus_sub_le :
    |reads.totalCapitalUsd.minus reads.carryCurrentUsd -
      (reads.totalCapitalUsd - reads.carryCurrentUsd)| ≤ 1 / 1000 := by
  have hgap := reads.abs_carryGap_le hcapital hcarry
  have hround := abs_round_sub_le (k := -4) (x := reads.totalCapitalUsd - reads.carryCurrentUsd) (by
    norm_num at hgap ⊢
    linarith)
  refine hround.trans ?_
  norm_num

theorem abs_treasuryCurrent_le : |reads.treasuryCurrentUsd| ≤ 10 ^ 17 := by
  have hgap := reads.abs_carryGap_le hcapital hcarry
  have hminus := reads.abs_minus_sub_le hcapital hcarry
  have hnear := abs_sub_abs_le_abs_sub (reads.totalCapitalUsd.minus reads.carryCurrentUsd)
    (reads.totalCapitalUsd - reads.carryCurrentUsd)
  have hmax : |max (reads.totalCapitalUsd.minus reads.carryCurrentUsd) 0| ≤
      |reads.totalCapitalUsd.minus reads.carryCurrentUsd| := by
    rw [abs_of_nonneg (le_max_right _ _)]
    exact max_le (le_abs_self _) (abs_nonneg _)
  have husd := abs_usd_le (max (reads.totalCapitalUsd.minus reads.carryCurrentUsd) 0)
  rw [treasuryCurrentUsd]
  norm_num at hgap ⊢
  linarith

theorem sum_deltas :
    (carryTarget reads.policyInput reads.carrySleeve reads.treasurySleeve).deltaUsd +
        (treasuryTarget reads.policyInput reads.carrySleeve reads.treasurySleeve).deltaUsd =
      usd reads.totalCapitalUsd + halfCents (usd reads.totalCapitalUsd) reads.carryPct -
        usd reads.carryCurrentUsd - reads.treasuryCurrentUsd := by
  obtain ⟨htreasuryPct, hcarryPct⟩ := reads.targetPcts
  have hpct := reads.carryPct_le
  have htotal : |usd reads.totalCapitalUsd| ≤ 10 ^ 16 := by
    have h := abs_usd_le reads.totalCapitalUsd
    norm_num at hcapital ⊢
    linarith
  have hcurrent : |usd reads.carryCurrentUsd| ≤ 10 ^ 17 := by
    have h := abs_usd_le reads.carryCurrentUsd
    norm_num at hcarry ⊢
    linarith
  -- A target is a share of the capital, in cents.
  have htarget : ∀ n : ℕ, n ≤ 100 → toUsd (usd reads.totalCapitalUsd) n =
      usd (usd reads.totalCapitalUsd * n / 100) ∧
        |toUsd (usd reads.totalCapitalUsd) n| ≤ 10 ^ 17 := by
    intro n hn
    have heq := toUsd_natCast (usd_mem _) htotal hn
    refine ⟨heq, ?_⟩
    rw [heq]
    have hn' : (n : ℚ) ≤ 100 := by exact_mod_cast hn
    have hshare : |usd reads.totalCapitalUsd * n / 100| ≤ 10 ^ 16 := by
      rw [abs_div, abs_mul, abs_of_nonneg (Nat.cast_nonneg n : (0 : ℚ) ≤ n)]
      have hmul := mul_le_mul htotal hn' (Nat.cast_nonneg n) (by positivity)
      norm_num at hmul ⊢
      linarith
    have h := abs_usd_le (usd reads.totalCapitalUsd * n / 100)
    norm_num at hshare ⊢
    linarith
  obtain ⟨hcarryEq, hcarryLe⟩ := htarget reads.carryPct (by omega)
  obtain ⟨htreasuryEq, htreasuryLe⟩ := htarget (100 - reads.carryPct) (by omega)
  have hsplit := usd_split (usd_mem reads.totalCapitalUsd) (show reads.carryPct ≤ 100 by omega)
  have hcarryDelta :
      (carryTarget reads.policyInput reads.carrySleeve reads.treasurySleeve).deltaUsd =
        toUsd (usd reads.totalCapitalUsd) reads.carryPct - usd reads.carryCurrentUsd := by
    change usd (Decimal.minus (toUsd (usd reads.totalCapitalUsd) (carryTargetPct _ _ _)) _) = _
    rw [hcarryPct]
    exact usd_minus (usd_mem _) (usd_mem _) hcarryLe hcurrent
  have htreasuryDelta :
      (treasuryTarget reads.policyInput reads.carrySleeve reads.treasurySleeve).deltaUsd =
        toUsd (usd reads.totalCapitalUsd) (100 - reads.carryPct : ℕ) -
          reads.treasuryCurrentUsd := by
    change usd (Decimal.minus (toUsd (usd reads.totalCapitalUsd) (treasuryTargetPct _ _ _)) _) = _
    rw [htreasuryPct]
    exact usd_minus (usd_mem _) (usd_mem _) htreasuryLe
      (reads.abs_treasuryCurrent_le hcapital hcarry)
  rw [hcarryDelta, htreasuryDelta, hcarryEq, htreasuryEq]
  linarith

/-- The deltas cancel to two cents exactly when carry is within the capital. -/
theorem sum_deltas_le_iff :
    |(carryTarget reads.policyInput reads.carrySleeve reads.treasurySleeve).deltaUsd +
        (treasuryTarget reads.policyInput reads.carrySleeve reads.treasurySleeve).deltaUsd| ≤
      2 / 100 ↔ reads.CarryWithinCapital := by
  rw [reads.sum_deltas hcapital hcarry, CarryWithinCapital]
  obtain ⟨hhalfLo, hhalfHi⟩ := abs_le.1 (abs_halfCents_le (usd reads.totalCapitalUsd) reads.carryPct)
  rcases le_or_gt reads.carryCurrentUsd reads.totalCapitalUsd with hwithin | hover
  · -- What the sleeves hold is the capital, to a cent.
    have hsum : |usd reads.totalCapitalUsd - usd reads.carryCurrentUsd -
        reads.treasuryCurrentUsd| ≤ 1 / 100 := by
      have hmem : usd reads.totalCapitalUsd - usd reads.carryCurrentUsd -
          reads.treasuryCurrentUsd ∈ Places 2 :=
        sub_mem (sub_mem (usd_mem _) (usd_mem _)) (usd_mem _)
      have hnonneg : 0 ≤ reads.totalCapitalUsd.minus reads.carryCurrentUsd :=
        decimalJs.round_nonneg (sub_nonneg.2 hwithin)
      have hminus := abs_le.1 (reads.abs_minus_sub_le hcapital hcarry)
      have htotal := abs_le.1 (abs_usd_sub_le reads.totalCapitalUsd)
      have hcurrent := abs_le.1 (abs_usd_sub_le reads.carryCurrentUsd)
      have htreasury := abs_le.1
        (abs_usd_sub_le (reads.totalCapitalUsd.minus reads.carryCurrentUsd))
      have hclose := abs_le_unitOf hmem (by
        rw [unitOf_two, treasuryCurrentUsd, max_eq_left hnonneg, abs_lt]
        constructor <;> linarith)
      rwa [unitOf_two] at hclose
    obtain ⟨hlo, hhi⟩ := abs_le.1 hsum
    have hmono : usd reads.carryCurrentUsd ≤ usd reads.totalCapitalUsd :=
      roundPlaces_mono hwithin 2
    constructor
    · intro _
      linarith
    · intro _
      rw [abs_le]
      constructor <;> linarith
  · -- The allocation of the treasury is taken for zero.
    have hzero : reads.treasuryCurrentUsd = 0 := by
      have hneg : reads.totalCapitalUsd.minus reads.carryCurrentUsd ≤ 0 :=
        decimalJs.round_nonpos (sub_nonpos.2 hover.le)
      rw [treasuryCurrentUsd, max_eq_right hneg]
      exact roundPlaces_of_mem (zero_mem _)
    have hmono : usd reads.totalCapitalUsd ≤ usd reads.carryCurrentUsd :=
      roundPlaces_mono hover.le 2
    rw [hzero, abs_le]
    constructor
    · rintro ⟨hlo, -⟩
      linarith
    · intro hle
      constructor <;> linarith

end

def plannedProposal (allocatorRunId : String) : RebalanceProposal :=
  SentinelRebalancePlanner.proposalFor
    (reads.plannerInput allocatorRunId
      (decisionFor reads.policyInput reads.carrySleeve reads.treasurySleeve))
    (carryTarget reads.policyInput reads.carrySleeve reads.treasurySleeve)
    (treasuryTarget reads.policyInput reads.carrySleeve reads.treasurySleeve)

theorem rebalanceProposal_eq (allocatorRunId : String) :
    reads.rebalanceProposal allocatorRunId = .ok
      (if SentinelRebalancePlanner.rebalanceAmountUsd
          (carryTarget reads.policyInput reads.carrySleeve reads.treasurySleeve)
          (treasuryTarget reads.policyInput reads.carrySleeve reads.treasurySleeve) = 0 then none
      else some (reads.plannedProposal allocatorRunId)) :=
  rfl

variable {allocatorRunId : String}

variable {reads} in
theorem rebalanceProposal_of_ne
    (h : SentinelRebalancePlanner.rebalanceAmountUsd (carryTarget reads.policyInput
      reads.carrySleeve reads.treasurySleeve) (treasuryTarget reads.policyInput reads.carrySleeve
      reads.treasurySleeve) ≠ 0) :
    reads.rebalanceProposal allocatorRunId =
      .ok (some (reads.plannedProposal allocatorRunId)) := by
  rw [rebalanceProposal_eq, if_neg h]

theorem eq_plannedProposal {proposal : RebalanceProposal}
    (h : reads.rebalanceProposal allocatorRunId = .ok (some proposal)) :
    proposal = reads.plannedProposal allocatorRunId := by
  rw [rebalanceProposal_eq] at h
  split_ifs at h
  · cases h
  · cases h
    rfl

/-- An executable proposal moves one amount between the sleeves exactly when carry is within the
capital that the treasury reports. -/
theorem proposal_conserves_iff (hcapital : |reads.totalCapitalUsd| ≤ 10 ^ 15)
    (hcarry : |reads.carryCurrentUsd| ≤ 10 ^ 15) {allocatorRunId : String}
    {proposal : RebalanceProposal}
    (hproposal : reads.rebalanceProposal allocatorRunId = .ok (some proposal))
    (hexecutable : proposal.executable = true) :
    proposal.Conserves reads.idleCapitalUsd ↔ reads.CarryWithinCapital := by
  have hplanned := reads.eq_plannedProposal hproposal
  subst hplanned
  rw [← reads.sum_deltas_le_iff hcapital hcarry]
  exact SentinelRebalancePlanner.conserves_iff hexecutable rfl rfl rfl

/-- A ready runtime whose treasury holds `capitalUsd`, all of it idle, next to a carry sleeve worth
`nav`. -/
def sampleReads (capitalUsd nav : Decimal) : AllocatorReads where
  sleeveId := "carry"
  executionMode := .dryRun
  liveExecutionEnabled := false
  halted := false
  lifecycleState := .ready
  reason := none
  activeMismatchCount := 0
  criticalMismatches := []
  activeReconciliationCount := none
  portfolioSummary := some { totalNav := capitalUsd, sleeves := [{ sleeveId := "carry", nav }] }
  treasurySummary := some
    { totalCapitalUsd := capitalUsd
      idleCapitalUsd := capitalUsd
      allocatedCapitalUsd := 0
      requiredReserveUsd := 1000
      currentReserveUsd := capitalUsd
      reserveCoveragePct := 100
      surplusCapitalUsd := 0
      reserveShortfallUsd := 0 }
  listedOpportunities := [{ approved := true, netYieldPct := 5, confidenceScore := 1 / 2 }]

theorem proposal_conserves_iff_sample :
    ((sampleReads 100000 15000).plannedProposal "run").Conserves 100000 ↔
      (sampleReads 100000 15000).CarryWithinCapital :=
  (sampleReads 100000 15000).proposal_conserves_iff (by decide +kernel) (by decide +kernel)
    (rebalanceProposal_of_ne (by decide +kernel)) (by decide +kernel)

/-- Carry gives up 9500 and the treasury receives 4500. -/
theorem proposal_unbalanced :
    ∃ proposal, (sampleReads 10000 15000).rebalanceProposal "run" = .ok (some proposal) ∧
      proposal.executable = true ∧
      proposal.intents.map (fun intent => intent.deltaUsd) = [-9500, 4500] ∧
      ¬ proposal.Conserves (sampleReads 10000 15000).idleCapitalUsd :=
  ⟨(sampleReads 10000 15000).plannedProposal "run", rebalanceProposal_of_ne (by decide +kernel),
    by decide +kernel, by decide +kernel, by decide +kernel⟩

end AllocatorReads

end SentinelApex
