import SentinelApex.Allocator.FeasibleSplit

/-!
# Which caps bind

`cap_binds_iff` says exactly when the target of carry is still at most the least cap whose trigger
holds, as far as the bounds of the sleeves allow that: the uplift for a strong opportunity comes
after the caps, and the share is twice subtracted from 100 in doubles.
-/

namespace SentinelApex

open SigDigits Clamp

namespace SentinelAllocatorPolicyEngine

open ShareArithmetic

/-- What is left of 100, as a double. -/
def restPct (pct : Number) : Number := Number.sub 100 pct

theorem restPct_antitone : Antitone restPct :=
  fun _ _ h => binary64.round_mono (sub_le_sub_left h 100)

theorem restPct_restPct {n : ℕ} (h : n ≤ 100) : restPct (restPct n) = n := by
  have hsub : restPct n = ((100 - n : ℕ) : ℚ) := by
    have := Number.sub_natCast (m := 100) (by norm_num) h
    exact_mod_cast this
  have hback : restPct ((100 - n : ℕ) : ℚ) = ((100 - (100 - n) : ℕ) : ℚ) := by
    have := Number.sub_natCast (m := 100) (n := 100 - n) (by norm_num) (by omega)
    exact_mod_cast this
  rw [hsub, hback]
  congr 1
  omega

theorem restPct_clamp (lo hi x : Number) :
    restPct (restPct (clamp lo hi x)) =
      clamp (restPct (restPct lo)) (restPct (restPct hi)) (restPct (restPct x)) := by
  have hmono : Monotone fun pct => restPct (restPct pct) :=
    restPct_antitone.comp restPct_antitone
  rw [clamp, clamp, ← hmono.map_min, ← hmono.map_max]

variable (input : AllocatorPolicyInput) (carry treasury : AllocatorSleeveSnapshot)

/-- The share of carry when the least triggered cap is `cap`. -/
def shareUnder (cap : Number) : Number :=
  if Uplifted input then
    min input.policy.maximumCarryPct ((min input.policy.baselineCarryPct cap).add 5)
  else min input.policy.baselineCarryPct cap

/-- The limits that carry meets after the caps keep it under `cap`: its own ceiling, what the least
share of treasury leaves, or the share before the clamps. -/
def StaysUnder (cap : Number) : Prop :=
  carryCeilingPct input carry ≤ cap ∨
    restPct (max treasury.minAllocationPct (treasuryFloorPct input)) ≤ cap ∨
    restPct (restPct carry.minAllocationPct) ≤ cap ∧
      (restPct (restPct (carryCeilingPct input carry)) ≤ cap ∨
        restPct (restPct (shareUnder input cap)) ≤ cap)

def IsLeastCap (cap : Number) : Prop :=
  cap ∈ triggeredCaps input carry ∧ ∀ other ∈ triggeredCaps input carry, cap ≤ other

instance (cap : Number) : Decidable (IsLeastCap input carry cap) :=
  inferInstanceAs (Decidable (_ ∧ ∀ other ∈ _, _))

variable {input carry treasury}

theorem carrySharePct_of_least {cap : Number} (h : IsLeastCap input carry cap) :
    program.carrySharePct input carry = shareUnder input cap := by
  rw [carrySharePct_eq, cappedPct, foldl_min_of_least h.1 h.2]
  rfl

theorem carryTargetPct_le_iff {cap : Number} (h : IsLeastCap input carry cap)
    (hmin : carry.minAllocationPct ≤ cap) (hmax : restPct treasury.maxAllocationPct ≤ cap) :
    program.carryTargetPct input carry treasury ≤ cap ↔ StaysUnder input carry treasury cap := by
  have hshare : program.sub 100 (program.treasuryTargetPct input carry treasury) =
      restPct (clamp (max treasury.minAllocationPct (treasuryFloorPct input))
        treasury.maxAllocationPct (restPct (clamp carry.minAllocationPct
          (carryCeilingPct input carry) (shareUnder input cap)))) := by
    rw [← carrySharePct_of_least h]
    rfl
  rw [ShareArithmetic.carryTargetPct, ShareArithmetic.withinCarry, clamp_le_iff, hshare,
    map_clamp restPct_antitone, min_le_iff, max_le_iff, restPct_clamp, clamp_le_iff]
  unfold StaysUnder
  tauto

variable (input carry treasury) in
/-- The least cap whose trigger holds binds the target of carry, as far as the bounds of the sleeves
allow it, exactly when the limits that come after the caps keep the share under it. -/
theorem cap_binds_iff {cap : Number} (hcarry : input.sleeve .carry = some carry)
    (htreasury : input.sleeve .treasury = some treasury) (h : IsLeastCap input carry cap)
    (hdouble : binary64.round cap = cap) (hmin : carry.minAllocationPct ≤ cap)
    (hmax : 100 - treasury.maxAllocationPct ≤ cap) :
    (∀ decision target, evaluate input = .ok decision → decision.target .carry = some target →
      target.targetAllocationPct ≤ cap) ↔ StaysUnder input carry treasury cap := by
  have hrest : restPct treasury.maxAllocationPct ≤ cap := by
    rw [← hdouble]
    exact binary64.round_mono hmax
  rw [← carryTargetPct_le_iff h hmin hrest, program_carryTargetPct]
  obtain ⟨htarget, -⟩ := decisionFor_target input hcarry htreasury
  constructor
  · intro hall
    exact hall _ _
      ((evaluate_eq_ok_iff input).2 ⟨carry, treasury, hcarry, htreasury, rfl⟩) htarget
  · intro hle decision target heval hfound
    obtain ⟨carry', treasury', hcarry', htreasury', rfl⟩ := (evaluate_eq_ok_iff input).1 heval
    obtain rfl := Option.some.inj (hcarry.symm.trans hcarry')
    obtain rfl := Option.some.inj (htreasury.symm.trans htreasury')
    obtain rfl := Option.some.inj (htarget.symm.trans hfound)
    exact hle

theorem staysUnder_of_not_uplifted {n : ℕ} (hn : n ≤ 100) (h : ¬ Uplifted input)
    (hmin : carry.minAllocationPct ≤ n) : StaysUnder input carry treasury n := by
  have hmono : Monotone fun pct => restPct (restPct pct) :=
    restPct_antitone.comp restPct_antitone
  refine Or.inr (Or.inr ⟨?_, Or.inr ?_⟩)
  · rw [← restPct_restPct hn]
    exact hmono hmin
  · rw [shareUnder, if_neg h]
    conv_rhs => rw [← restPct_restPct hn]
    exact hmono (min_le_right _ _)

def statusSleeve (status : AllocatorSleeveStatus) : AllocatorSleeveSnapshot :=
  { sampleSleeve .carry 0 70 with status }

/-- A system under normal pressure with the given opportunity score. -/
def statusInput (status : AllocatorSleeveStatus) (score : Number) : AllocatorPolicyInput where
  policy := defaultAllocatorPolicy
  sleeves := [statusSleeve status, sampleSleeve .treasury 30 100]
  system := { sampleSystem with carryOpportunityScore := score }

theorem cap_binds_sample :
    ∃ decision target, evaluate (statusInput .degraded (1 / 2)) = .ok decision ∧
      decision.target .carry = some target ∧ target.targetAllocationPct ≤ 20 := by
  have hstays : StaysUnder (statusInput .degraded (1 / 2)) (statusSleeve .degraded)
      (sampleSleeve .treasury 30 100) 20 :=
    staysUnder_of_not_uplifted (n := 20) (by norm_num) (by decide +kernel) (by decide +kernel)
  have hbinds := (cap_binds_iff (statusInput .degraded (1 / 2)) (statusSleeve .degraded)
    (sampleSleeve .treasury 30 100) rfl rfl (by decide +kernel) (by decide +kernel)
    (by decide +kernel) (by decide +kernel)).2 hstays
  have heval := (evaluate_eq_ok_iff (statusInput .degraded (1 / 2))).2
    ⟨statusSleeve .degraded, sampleSleeve .treasury 30 100, rfl, rfl, rfl⟩
  have htarget := (decisionFor_target (statusInput .degraded (1 / 2)) rfl rfl).1
  exact ⟨_, _, heval, htarget, hbinds _ _ heval htarget⟩

/-- With a strong opportunity a degraded carry sleeve is capped at 20 per cent and then lifted to
25, although its bounds admit 20. -/
theorem cap_undone :
    IsLeastCap (statusInput .degraded (Number.ofDecimal (8 / 10))) (statusSleeve .degraded) 20 ∧
    (statusSleeve .degraded).minAllocationPct ≤ 20 ∧
    100 - (sampleSleeve .treasury 30 100).maxAllocationPct ≤ 20 ∧
    ∃ decision target, evaluate (statusInput .degraded (Number.ofDecimal (8 / 10))) = .ok decision ∧
      decision.target .carry = some target ∧ target.targetAllocationPct = 25 := by
  have hpct : carryTargetPct (statusInput .degraded (Number.ofDecimal (8 / 10)))
      (statusSleeve .degraded) (sampleSleeve .treasury 30 100) = 25 := by decide +kernel
  refine ⟨by decide +kernel, by decide +kernel, by decide +kernel, _, _,
    (evaluate_eq_ok_iff _).2 ⟨_, _, rfl, rfl, rfl⟩, (decisionFor_target _ rfl rfl).1, hpct⟩

end SentinelAllocatorPolicyEngine

end SentinelApex
