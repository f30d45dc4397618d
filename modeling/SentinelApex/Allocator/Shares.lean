import SentinelApex.Allocator.Policy
import SentinelApex.Lib.Clamp

/-!
# The shares of the sleeves

What `SentinelAllocatorPolicyEngine.evaluate` does with the percentages, for any operations: those
of doubles and `decimal.js` give the shares of the program (`program_carryTargetPct`,
`program_treasuryTargetPct`), those of `ℚ` the same without rounding.

The share of carry starts from the baseline, every cap whose trigger holds limits it, and a strong
opportunity lifts it (`carrySharePct_eq`).
-/

namespace SentinelApex

open Clamp

def AllocatorPolicyInput.sleeve (input : AllocatorPolicyInput) (sleeveId : AllocatorSleeveId) :
    Option AllocatorSleeveSnapshot :=
  input.sleeves.find? fun sleeve => decide (sleeve.sleeveId = sleeveId)

def AllocatorDecision.target (decision : AllocatorDecision) (sleeveId : AllocatorSleeveId) :
    Option AllocatorTargetAllocation :=
  decision.targets.find? fun target => decide (target.sleeveId = sleeveId)

theorem clampPct_eq (value lo hi : Number) : clampPct value lo hi = clamp lo hi value := by
  rw [clampPct, clamp, min_comm]

namespace SentinelAllocatorPolicyEngine

variable (input : AllocatorPolicyInput)

/-- The carry sleeve is degraded, blocked, to be reduced or unhealthy. -/
def Weak (carry : AllocatorSleeveSnapshot) : Prop :=
  carry.status = .degraded ∨ carry.status = .blocked ∨ carry.throttleState = .deRisk ∨
    carry.throttleState = .blocked ∨ carry.healthy = false

instance (carry : AllocatorSleeveSnapshot) : Decidable (Weak carry) :=
  inferInstanceAs (Decidable (_ ∨ _))

def pressureCaps : List Number :=
  match pressureFromInput input.system with
  | .high => [input.policy.degradedCarryCapPct]
  | .elevated => [input.policy.elevatedMismatchCarryCapPct]
  | .normal => []

def triggeredCaps (carry : AllocatorSleeveSnapshot) : List Number :=
  (if 0 < input.system.treasuryReserveShortfallUsd then [input.policy.reserveShortfallCarryCapPct]
    else []) ++
  pressureCaps input ++
  if Weak carry ∨ input.system.carryOpportunityScore < input.policy.carryOpportunityScoreFloor then
    [input.policy.weakCarryCarryCapPct] else []

/-- The share of carry is lifted for a strong opportunity. -/
def Uplifted : Prop :=
  ¬ input.system.carryOpportunityScore < input.policy.carryOpportunityScoreFloor ∧
    input.policy.carryOpportunityScoreStrong ≤ input.system.carryOpportunityScore ∧
    pressureFromInput input.system = .normal

instance : Decidable (Uplifted input) := inferInstanceAs (Decidable (_ ∧ _))

/-- The baseline under all caps. -/
def cappedPct (carry : AllocatorSleeveSnapshot) : Number :=
  (triggeredCaps input carry).foldl min input.policy.baselineCarryPct

/-- The most that carry may get. -/
def carryCeilingPct (carry : AllocatorSleeveSnapshot) : Number :=
  min carry.maxAllocationPct input.policy.maximumCarryPct

end SentinelAllocatorPolicyEngine

structure ShareArithmetic where
  add : Number → Number → Number
  sub : Number → Number → Number
  /-- `totalCapitalUsd.times(pct).div(100)`. -/
  part : Decimal → Number → Decimal

namespace ShareArithmetic

open SentinelAllocatorPolicyEngine

def program : ShareArithmetic :=
  ⟨Number.add, Number.sub, fun totalCapitalUsd pct => (totalCapitalUsd.times pct).div 100⟩

def exact : ShareArithmetic :=
  ⟨(· + ·), (· - ·), fun totalCapitalUsd pct => totalCapitalUsd * pct / 100⟩

variable (A : ShareArithmetic) (input : AllocatorPolicyInput)

def treasuryFloorPct : Number :=
  max input.policy.minimumTreasuryPct
    (if input.system.treasuryReserveCoveragePct < 100 then A.add input.policy.minimumTreasuryPct 10
    else input.policy.minimumTreasuryPct)

def treasuryMinPct (treasury : AllocatorSleeveSnapshot) : Number :=
  max treasury.minAllocationPct (A.treasuryFloorPct input)

/-- What the caps and the uplift make of the baseline, in the order of the source. -/
def carrySharePct (carry : AllocatorSleeveSnapshot) : Number :=
  let pressureLevel := pressureFromInput input.system
  let pct := input.policy.baselineCarryPct
  let pct :=
    if 0 < input.system.treasuryReserveShortfallUsd then
      min pct input.policy.reserveShortfallCarryCapPct
    else pct
  let pct :=
    match pressureLevel with
    | .high => min pct input.policy.degradedCarryCapPct
    | .elevated => min pct input.policy.elevatedMismatchCarryCapPct
    | .normal => pct
  let pct := if Weak carry then min pct input.policy.weakCarryCarryCapPct else pct
  if input.system.carryOpportunityScore < input.policy.carryOpportunityScoreFloor then
    min pct input.policy.weakCarryCarryCapPct
  else if input.policy.carryOpportunityScoreStrong ≤ input.system.carryOpportunityScore ∧
      pressureLevel = .normal then
    min input.policy.maximumCarryPct (A.add pct 5)
  else pct

def withinCarry (carry : AllocatorSleeveSnapshot) (pct : Number) : Number :=
  clamp carry.minAllocationPct (carryCeilingPct input carry) pct

def treasuryTargetPct (carry treasury : AllocatorSleeveSnapshot) : Number :=
  clamp (A.treasuryMinPct input treasury) treasury.maxAllocationPct
    (A.sub 100 (withinCarry input carry (A.carrySharePct input carry)))

def carryTargetPct (carry treasury : AllocatorSleeveSnapshot) : Number :=
  withinCarry input carry (A.sub 100 (A.treasuryTargetPct input carry treasury))

def targetUsd (pct : Number) : Decimal := usd (A.part input.system.totalCapitalUsd pct)

theorem carrySharePct_eq (carry : AllocatorSleeveSnapshot) :
    A.carrySharePct input carry =
      if Uplifted input then min input.policy.maximumCarryPct (A.add (cappedPct input carry) 5)
      else cappedPct input carry := by
  have hweak : cappedPct input carry =
      if Weak carry ∨
          input.system.carryOpportunityScore < input.policy.carryOpportunityScoreFloor then
        min ((pressureCaps input).foldl min
          (if 0 < input.system.treasuryReserveShortfallUsd then
            min input.policy.baselineCarryPct input.policy.reserveShortfallCarryCapPct
          else input.policy.baselineCarryPct)) input.policy.weakCarryCarryCapPct
      else (pressureCaps input).foldl min
        (if 0 < input.system.treasuryReserveShortfallUsd then
          min input.policy.baselineCarryPct input.policy.reserveShortfallCarryCapPct
        else input.policy.baselineCarryPct) := by
    unfold cappedPct triggeredCaps
    rw [List.foldl_append, List.foldl_append]
    split_ifs <;> rfl
  have hpressure : ∀ pct : Number, (pressureCaps input).foldl min pct =
      match pressureFromInput input.system with
      | .high => min pct input.policy.degradedCarryCapPct
      | .elevated => min pct input.policy.elevatedMismatchCarryCapPct
      | .normal => pct := by
    intro pct
    unfold pressureCaps
    cases pressureFromInput input.system <;> rfl
  rw [hweak, hpressure]
  unfold carrySharePct Uplifted
  dsimp only
  generalize (match pressureFromInput input.system with
    | .high => _
    | .elevated => _
    | .normal => _ : Number) = pct
  by_cases hscore : input.system.carryOpportunityScore < input.policy.carryOpportunityScoreFloor
  all_goals
    by_cases hhealth : Weak carry
    · simp [hscore, hhealth]
    · simp [hscore, hhealth]

end ShareArithmetic

namespace SentinelAllocatorPolicyEngine

open ShareArithmetic

variable (input : AllocatorPolicyInput)

theorem program_carrySharePct (carry : AllocatorSleeveSnapshot) :
    program.carrySharePct input carry = (carryBudget input carry).targetPct := by
  unfold carryBudget
  dsimp only
  rw [applyOpportunity_targetPct, applyCarryHealth_targetPct, applyPressure_targetPct,
    applyReserveShortfall_targetPct]
  rfl

variable (carry treasury : AllocatorSleeveSnapshot)

theorem program_treasuryTargetPct :
    program.treasuryTargetPct input carry treasury =
      treasuryTargetPct input carry treasury := by
  unfold treasuryTargetPct withinCarry ShareArithmetic.treasuryTargetPct ShareArithmetic.withinCarry
  rw [program_carrySharePct, clampPct_eq, clampPct_eq]
  rfl

theorem program_carryTargetPct :
    program.carryTargetPct input carry treasury = carryTargetPct input carry treasury := by
  unfold carryTargetPct withinCarry ShareArithmetic.carryTargetPct ShareArithmetic.withinCarry
  rw [program_treasuryTargetPct, clampPct_eq]
  rfl

theorem program_targetUsd (pct : Number) :
    program.targetUsd input pct = toUsd input.system.totalCapitalUsd pct := rfl

theorem evaluate_eq_ok_iff {decision : AllocatorDecision} :
    evaluate input = .ok decision ↔
      ∃ carry treasury, input.sleeve .carry = some carry ∧
        input.sleeve .treasury = some treasury ∧ decision = decisionFor input carry treasury := by
  unfold evaluate AllocatorPolicyInput.sleeve
  constructor
  · intro h
    split at h
    · rename_i carry treasury hcarry htreasury
      exact ⟨carry, treasury, hcarry, htreasury, (Except.ok.inj h).symm⟩
    · cases h
  · rintro ⟨carry, treasury, hcarry, htreasury, rfl⟩
    rw [hcarry, htreasury]

theorem decisionFor_target {carry treasury : AllocatorSleeveSnapshot}
    (hcarry : input.sleeve .carry = some carry)
    (htreasury : input.sleeve .treasury = some treasury) :
    (decisionFor input carry treasury).target .carry = some (carryTarget input carry treasury) ∧
      (decisionFor input carry treasury).target .treasury =
        some (treasuryTarget input carry treasury) := by
  have hc : carry.sleeveId = .carry := by simpa using List.find?_some hcarry
  have ht : treasury.sleeveId = .treasury := by simpa using List.find?_some htreasury
  unfold AllocatorDecision.target decisionFor carryTarget treasuryTarget targetFor
  simp [hc, ht]

end SentinelAllocatorPolicyEngine

end SentinelApex
