import SentinelApex.Allocator.Shares

/-!
# The targets split the capital

Whenever the bounds of the sleeves admit a split of the capital, the two shares of an evaluation are
one, and the two targets in dollars differ from the capital by a cent at most. The doubles of the
program stay within the bounds too, and their sum is 100 as doubles are added.
-/

namespace SentinelApex

open SigDigits Clamp

namespace ShareArithmetic

open SentinelAllocatorPolicyEngine

variable (A : ShareArithmetic) (input : AllocatorPolicyInput)
  (carry treasury : AllocatorSleeveSnapshot)

structure WithinBounds (carryPct treasuryPct : Number) : Prop where
  carry_min : carry.minAllocationPct ≤ carryPct
  carry_max : carryPct ≤ carryCeilingPct input carry
  treasury_min : A.treasuryMinPct input treasury ≤ treasuryPct
  treasury_max : treasuryPct ≤ treasury.maxAllocationPct

def AdmitsSplit : Prop :=
  ∃ c t, A.WithinBounds input carry treasury c t ∧ c + t = 100

variable {A input carry treasury}

theorem AdmitsSplit.bounds (h : A.AdmitsSplit input carry treasury) :
    carry.minAllocationPct ≤ carryCeilingPct input carry ∧
      A.treasuryMinPct input treasury ≤ treasury.maxAllocationPct ∧
      carry.minAllocationPct + A.treasuryMinPct input treasury ≤ 100 ∧
      100 ≤ carryCeilingPct input carry + treasury.maxAllocationPct := by
  obtain ⟨c, t, ⟨hcmin, hcmax, htmin, htmax⟩, hsum⟩ := h
  refine ⟨hcmin.trans hcmax, htmin.trans htmax, ?_, ?_⟩ <;> linarith

theorem withinBounds (h : A.AdmitsSplit input carry treasury) :
    A.WithinBounds input carry treasury (A.carryTargetPct input carry treasury)
      (A.treasuryTargetPct input carry treasury) where
  carry_min := le_clamp _ _ _
  carry_max := clamp_le h.bounds.1 _
  treasury_min := le_clamp _ _ _
  treasury_max := clamp_le h.bounds.2.1 _

theorem exact_add (h : exact.AdmitsSplit input carry treasury) :
    exact.carryTargetPct input carry treasury + exact.treasuryTargetPct input carry treasury =
      100 := by
  obtain ⟨hcarry, -, hlow, hhigh⟩ := h.bounds
  exact clamp_rest_add hcarry hlow hhigh _

/-- Rounding each target to cents moves their sum by a cent at most. -/
theorem exact_targetUsd {c t : Number} (h : c + t = 100) :
    |exact.targetUsd input c + exact.targetUsd input t - input.system.totalCapitalUsd| ≤
      1 / 100 := by
  have hsum : input.system.totalCapitalUsd * c / 100 + input.system.totalCapitalUsd * t / 100 =
      input.system.totalCapitalUsd := by
    rw [← add_div, ← mul_add, h]
    ring
  have hc := abs_le.1 (abs_usd_sub_le (input.system.totalCapitalUsd * c / 100))
  have ht := abs_le.1 (abs_usd_sub_le (input.system.totalCapitalUsd * t / 100))
  unfold targetUsd exact
  dsimp only
  rw [abs_le]
  constructor <;> linarith

structure IsShare (pct : Number) : Prop where
  double : binary64.round pct = pct
  nonneg : 0 ≤ pct
  le : pct ≤ 100

theorem abs_round_sub_le {x : ℚ} (h : |x| ≤ 128) : |binary64.round x - x| ≤ 1 / 2 ^ 47 := by
  have hbound := binary64.abs_round_sub_le (k := -46) abs_halfEven_sub_le (x := x)
    (by norm_num [binary64]; exact h)
  refine hbound.trans ?_
  norm_num [binary64]

theorem round_eq_hundred {x : ℚ} (h : |x - 100| ≤ 1 / 2 ^ 47) : binary64.round x = 100 := by
  obtain ⟨hlow, hhigh⟩ := abs_le.1 h
  have hup : binary64.round (100 + 1 / 2 ^ 47) = 100 := by decide +kernel
  have hdown : binary64.round (100 - 1 / 2 ^ 47) = 100 := by decide +kernel
  apply le_antisymm
  · rw [← hup]
    exact binary64.round_mono (by linarith)
  · rw [← hdown]
    exact binary64.round_mono (by linarith)

theorem program_add (h : program.AdmitsSplit input carry treasury)
    (hmin : IsShare carry.minAllocationPct) (hmax : IsShare (carryCeilingPct input carry))
    (htreasury : 0 ≤ program.treasuryMinPct input treasury ∧ treasury.maxAllocationPct ≤ 100) :
    Number.add (program.carryTargetPct input carry treasury)
      (program.treasuryTargetPct input carry treasury) = 100 := by
  obtain ⟨hcarry, ht, hlow, hhigh⟩ := h.bounds
  have hwithin := withinBounds h
  apply round_eq_hundred
  refine abs_clamp_rest_le (fun _ _ => binary64.round_mono) hmin.double hmax.double hcarry hlow
    hhigh ⟨le_clamp _ _ _, clamp_le hcarry _⟩ rfl ?_
  have htmin : 0 ≤ program.treasuryTargetPct input carry treasury :=
    htreasury.1.trans hwithin.treasury_min
  have htmax : program.treasuryTargetPct input carry treasury ≤ 100 :=
    hwithin.treasury_max.trans htreasury.2
  intro y hy
  apply abs_round_sub_le
  rw [abs_le]
  simp only [List.mem_cons, List.not_mem_nil, or_false] at hy
  rcases hy with rfl | rfl | rfl
  · constructor <;> linarith
  · constructor <;> linarith [hmin.nonneg, hmin.le]
  · constructor <;> linarith [hmax.nonneg, hmax.le]

variable (input carry treasury) in
/-- Whenever the bounds admit a split, the targets are one: computed exactly, they lie within the
bounds, add up to 100 and differ in dollars from the capital by a cent at most; the doubles of a
decision lie within the bounds, and they add up to 100 when the bounds are between 0 and 100. -/
theorem targets_split (hcarry : input.sleeve .carry = some carry)
    (htreasury : input.sleeve .treasury = some treasury) :
    (exact.AdmitsSplit input carry treasury →
      exact.WithinBounds input carry treasury (exact.carryTargetPct input carry treasury)
        (exact.treasuryTargetPct input carry treasury) ∧
      exact.carryTargetPct input carry treasury + exact.treasuryTargetPct input carry treasury =
        100 ∧
      |exact.targetUsd input (exact.carryTargetPct input carry treasury) +
          exact.targetUsd input (exact.treasuryTargetPct input carry treasury) -
            input.system.totalCapitalUsd| ≤ 1 / 100) ∧
    (program.AdmitsSplit input carry treasury →
      ∃ decision c t, evaluate input = .ok decision ∧ decision.target .carry = some c ∧
        decision.target .treasury = some t ∧
        program.WithinBounds input carry treasury c.targetAllocationPct t.targetAllocationPct ∧
        (IsShare carry.minAllocationPct → IsShare (carryCeilingPct input carry) →
          0 ≤ program.treasuryMinPct input treasury → treasury.maxAllocationPct ≤ 100 →
            Number.add c.targetAllocationPct t.targetAllocationPct = 100)) := by
  constructor
  · intro h
    exact ⟨withinBounds h, exact_add h, exact_targetUsd (exact_add h)⟩
  · intro h
    obtain ⟨hc, ht⟩ := decisionFor_target input hcarry htreasury
    refine ⟨_, _, _, (evaluate_eq_ok_iff input).2 ⟨carry, treasury, hcarry, htreasury, rfl⟩, hc, ht,
      ?_⟩
    have hwithin := withinBounds h
    have hadd := program_add h
    rw [program_carryTargetPct, program_treasuryTargetPct] at hwithin hadd
    exact ⟨hwithin, fun hmin hmax hlow hhigh => hadd hmin hmax ⟨hlow, hhigh⟩⟩

/-- A healthy system: the two sleeves may hold up to 70 and at least 30 per cent. -/
def sampleSleeve (sleeveId : AllocatorSleeveId) (minAllocationPct maxAllocationPct : Number) :
    AllocatorSleeveSnapshot where
  sleeveId
  kind := sleeveId
  name := sleeveId.text
  currentAllocationUsd := 500000
  currentAllocationPct := 50
  minAllocationPct
  maxAllocationPct
  capacityUsd := none
  status := .active
  throttleState := .normal
  healthy := true
  opportunityScore := none
  metadata := []

def sampleSystem : AllocatorSystemState where
  totalCapitalUsd := 1000000
  reserveConstrainedCapitalUsd := 100000
  allocatableCapitalUsd := 900000
  runtimeLifecycleState := .ready
  runtimeHalted := false
  openMismatchCount := 0
  criticalMismatchCount := 0
  degradedReasonCount := 0
  treasuryReserveCoveragePct := 125
  treasuryReserveShortfallUsd := 0
  carryOpportunityScore := Number.ofDecimal (8 / 10)
  recentReconciliationIssues := 0

def sampleInput : AllocatorPolicyInput where
  policy := defaultAllocatorPolicy
  sleeves := [sampleSleeve .carry 0 70, sampleSleeve .treasury 30 100]
  system := sampleSystem

theorem targets_split_sample :
    exact.carryTargetPct sampleInput (sampleSleeve .carry 0 70) (sampleSleeve .treasury 30 100) +
      exact.treasuryTargetPct sampleInput (sampleSleeve .carry 0 70)
        (sampleSleeve .treasury 30 100) = 100 ∧
    ∃ decision, evaluate sampleInput = .ok decision := by
  have hexact : exact.AdmitsSplit sampleInput (sampleSleeve .carry 0 70)
      (sampleSleeve .treasury 30 100) :=
    ⟨60, 40, ⟨by decide +kernel, by decide +kernel, by decide +kernel, by decide +kernel⟩,
      by norm_num⟩
  have hprogram : program.AdmitsSplit sampleInput (sampleSleeve .carry 0 70)
      (sampleSleeve .treasury 30 100) :=
    ⟨60, 40, ⟨by decide +kernel, by decide +kernel, by decide +kernel, by decide +kernel⟩,
      by norm_num⟩
  obtain ⟨hsplit, hdecision⟩ := targets_split sampleInput
    (sampleSleeve .carry 0 70) (sampleSleeve .treasury 30 100) rfl rfl
  obtain ⟨-, hsum, -⟩ := hsplit hexact
  obtain ⟨decision, -, -, heval, -⟩ := hdecision hprogram
  exact ⟨hsum, decision, heval⟩

end ShareArithmetic

end SentinelApex
