import SentinelApex.Runtime.Store
import SentinelApex.Treasury.Policy

/-!
# The allocator policy

`SentinelAllocatorPolicyEngine.evaluate`: from the two sleeves and the state of the system it
computes how the capital is to be split between carry and treasury, and recommends how to move each
sleeve's budget. Amounts that the source prints with two places are the values of those texts.
-/

namespace SentinelApex

open SentinelApex.Runtime (RuntimeLifecycleState)

/-! ## Data -/

inductive AllocatorSleeveId where
  | carry
  | treasury
  deriving DecidableEq, Repr

def AllocatorSleeveId.text : AllocatorSleeveId → String
  | .carry => "carry"
  | .treasury => "treasury"

inductive AllocatorSleeveStatus where
  | active
  | throttled
  | degraded
  | blocked
  deriving DecidableEq, Repr

def AllocatorSleeveStatus.text : AllocatorSleeveStatus → String
  | .active => "active"
  | .throttled => "throttled"
  | .degraded => "degraded"
  | .blocked => "blocked"

inductive AllocatorThrottleState where
  | normal
  | throttled
  | deRisk
  | blocked
  deriving DecidableEq, Repr

def AllocatorThrottleState.text : AllocatorThrottleState → String
  | .normal => "normal"
  | .throttled => "throttled"
  | .deRisk => "de_risk"
  | .blocked => "blocked"

inductive AllocatorRegimeState where
  | normal
  | cautious
  | defensive
  | recovery
  deriving DecidableEq, Repr

inductive AllocatorPressureLevel where
  | normal
  | elevated
  | high
  deriving DecidableEq, Repr

inductive AllocatorRecommendationType where
  | increaseBudget
  | decreaseBudget
  | holdBudget
  | deRisk
  | increaseReserveBuffer
  deriving DecidableEq, Repr

inductive AllocatorRecommendationPriority where
  | low
  | medium
  | high
  deriving DecidableEq, Repr

inductive AllocatorRationaleSeverity where
  | info
  | warning
  | critical
  deriving DecidableEq, Repr

structure AllocatorPolicy where
  baselineCarryPct : Number
  baselineTreasuryPct : Number
  minimumTreasuryPct : Number
  maximumCarryPct : Number
  degradedCarryCapPct : Number
  elevatedMismatchCarryCapPct : Number
  reserveShortfallCarryCapPct : Number
  weakCarryCarryCapPct : Number
  carryOpportunityScoreFloor : Number
  carryOpportunityScoreStrong : Number

def defaultAllocatorPolicy : AllocatorPolicy where
  baselineCarryPct := 55
  baselineTreasuryPct := 45
  minimumTreasuryPct := 35
  maximumCarryPct := 65
  degradedCarryCapPct := 25
  elevatedMismatchCarryCapPct := 35
  reserveShortfallCarryCapPct := 15
  weakCarryCarryCapPct := 20
  carryOpportunityScoreFloor := Number.ofDecimal (35 / 100)
  carryOpportunityScoreStrong := Number.ofDecimal (7 / 10)

structure AllocatorSleeveSnapshot where
  sleeveId : AllocatorSleeveId
  kind : AllocatorSleeveId
  name : String
  currentAllocationUsd : Decimal
  currentAllocationPct : Number
  minAllocationPct : Number
  maxAllocationPct : Number
  capacityUsd : Option Decimal
  status : AllocatorSleeveStatus
  throttleState : AllocatorThrottleState
  healthy : Bool
  opportunityScore : Option Number
  metadata : List (String × Json)

structure AllocatorSystemState where
  totalCapitalUsd : Decimal
  reserveConstrainedCapitalUsd : Decimal
  allocatableCapitalUsd : Decimal
  runtimeLifecycleState : RuntimeLifecycleState
  runtimeHalted : Bool
  openMismatchCount : ℕ
  criticalMismatchCount : ℕ
  degradedReasonCount : ℕ
  treasuryReserveCoveragePct : Number
  treasuryReserveShortfallUsd : Decimal
  carryOpportunityScore : Number
  recentReconciliationIssues : ℕ

structure AllocatorPolicyInput where
  policy : AllocatorPolicy
  sleeves : List AllocatorSleeveSnapshot
  system : AllocatorSystemState

structure AllocatorRationale where
  code : String
  severity : AllocatorRationaleSeverity
  summary : String
  details : List (String × Json)

structure AllocatorBudgetConstraint where
  code : String
  summary : String
  binding : Bool
  details : List (String × Json)

structure AllocatorTargetAllocation where
  sleeveId : AllocatorSleeveId
  sleeveName : String
  sleeveKind : AllocatorSleeveId
  currentAllocationUsd : Decimal
  currentAllocationPct : Number
  targetAllocationUsd : Decimal
  targetAllocationPct : Number
  minAllocationPct : Number
  maxAllocationPct : Number
  deltaUsd : Decimal
  status : AllocatorSleeveStatus
  throttleState : AllocatorThrottleState
  opportunityScore : Option Number
  capacityUsd : Option Decimal
  rationale : List AllocatorRationale
  metadata : List (String × Json)

structure AllocatorRecommendation where
  recommendationType : AllocatorRecommendationType
  sleeveId : AllocatorSleeveId
  priority : AllocatorRecommendationPriority
  summary : String
  details : List (String × Json)
  rationale : List AllocatorRationale

structure AllocatorDecision where
  regimeState : AllocatorRegimeState
  pressureLevel : AllocatorPressureLevel
  totalCapitalUsd : Decimal
  reserveConstrainedCapitalUsd : Decimal
  allocatableCapitalUsd : Decimal
  targets : List AllocatorTargetAllocation
  recommendations : List AllocatorRecommendation
  rationale : List AllocatorRationale
  constraints : List AllocatorBudgetConstraint

/-! ## Pressure and regime -/

def clampPct (value lo hi : Number) : Number := max lo (min hi value)

/-- `totalCapitalUsd.times(pct).div(100).toFixed(2)`. -/
def toUsd (totalCapitalUsd : Decimal) (pct : Number) : Decimal :=
  usd ((totalCapitalUsd.times pct).div 100)

def pressureFromInput (system : AllocatorSystemState) : AllocatorPressureLevel :=
  if system.runtimeHalted = true ∨ system.runtimeLifecycleState = .paused ∨
      system.runtimeLifecycleState = .stopped ∨ 0 < system.criticalMismatchCount ∨
      0 < system.treasuryReserveShortfallUsd then .high
  else if system.runtimeLifecycleState = .degraded ∨ 3 ≤ system.openMismatchCount ∨
      0 < system.recentReconciliationIssues ∨ 0 < system.degradedReasonCount then .elevated
  else .normal

def regimeFromInput (input : AllocatorPolicyInput) :
    AllocatorPressureLevel → AllocatorRegimeState
  | .high => if input.system.runtimeHalted = true then .recovery else .defensive
  | .elevated => .cautious
  | .normal =>
    if input.system.carryOpportunityScore < input.policy.carryOpportunityScoreStrong then .cautious
    else .normal

/-! ## The budget of the carry sleeve -/

/-- What the evaluation has settled so far. -/
structure CarryBudget where
  targetPct : Number
  rationales : List AllocatorRationale
  constraints : List AllocatorBudgetConstraint

/-- `carryTargetPct = Math.min(carryTargetPct, cap)`, with the rationale and the constraints for
it. -/
def CarryBudget.cap (budget : CarryBudget) (capPct : Number) (rationale : AllocatorRationale)
    (constraints : List AllocatorBudgetConstraint) : CarryBudget where
  targetPct := min budget.targetPct capPct
  rationales := budget.rationales ++ [rationale]
  constraints := budget.constraints ++ constraints

namespace SentinelAllocatorPolicyEngine

variable (input : AllocatorPolicyInput)

def treasuryFloorPct : Number :=
  max input.policy.minimumTreasuryPct
    (if input.system.treasuryReserveCoveragePct < 100 then
      input.policy.minimumTreasuryPct.add 10
    else input.policy.minimumTreasuryPct)

def baselineBudget : CarryBudget where
  targetPct := input.policy.baselineCarryPct
  rationales := []
  constraints :=
    [{ code := "treasury_minimum_floor"
       summary := "Treasury receives a minimum portfolio budget so reserve obligations remain " ++
         "inspectable and funded."
       binding := decide (input.policy.baselineTreasuryPct < treasuryFloorPct input)
       details := [("treasuryFloorPct", .num (treasuryFloorPct input))] }]

def applyReserveShortfall (budget : CarryBudget) : CarryBudget :=
  if 0 < input.system.treasuryReserveShortfallUsd then
    budget.cap input.policy.reserveShortfallCarryCapPct
      { code := "reserve_shortfall_defense"
        severity := .critical
        summary := "Treasury reserve is short, so carry is capped defensively until reserve " ++
          "coverage is restored."
        details := [("reserveShortfallUsd", .decimal input.system.treasuryReserveShortfallUsd),
          ("carryCapPct", .num input.policy.reserveShortfallCarryCapPct)] }
      [{ code := "reserve_shortfall_carry_cap"
         summary := "Reserve shortfall constrains carry budget."
         binding := true
         details := [("carryCapPct", .num input.policy.reserveShortfallCarryCapPct)] }]
  else budget

def applyPressure (budget : CarryBudget) : AllocatorPressureLevel → CarryBudget
  | .high =>
    budget.cap input.policy.degradedCarryCapPct
      { code := "system_pressure_high"
        severity := .critical
        summary := "System pressure is high, so allocator shifts portfolio budget toward Treasury."
        details := [("runtimeLifecycleState", .str input.system.runtimeLifecycleState.text),
          ("criticalMismatchCount", .num input.system.criticalMismatchCount),
          ("runtimeHalted", .bool input.system.runtimeHalted)] }
      [{ code := "high_pressure_carry_cap"
         summary := "High operational pressure caps carry allocation."
         binding := true
         details := [("carryCapPct", .num input.policy.degradedCarryCapPct)] }]
  | .elevated =>
    budget.cap input.policy.elevatedMismatchCarryCapPct
      { code := "system_pressure_elevated"
        severity := .warning
        summary := "Operational pressure is elevated, so carry is downweighted relative to the " ++
          "baseline."
        details := [("openMismatchCount", .num input.system.openMismatchCount),
          ("recentReconciliationIssues", .num input.system.recentReconciliationIssues)] }
      [{ code := "elevated_pressure_carry_cap"
         summary := "Elevated operational pressure limits carry budget expansion."
         binding := true
         details := [("carryCapPct", .num input.policy.elevatedMismatchCarryCapPct)] }]
  | .normal => budget

def applyCarryHealth (carry : AllocatorSleeveSnapshot) (budget : CarryBudget) : CarryBudget :=
  if carry.status = .degraded ∨ carry.status = .blocked ∨ carry.throttleState = .deRisk ∨
      carry.throttleState = .blocked ∨ carry.healthy = false then
    budget.cap input.policy.weakCarryCarryCapPct
      { code := "carry_throttled"
        severity := .warning
        summary := "Carry sleeve health is degraded or throttled, so its capital budget is reduced."
        details := [("status", .str carry.status.text),
          ("throttleState", .str carry.throttleState.text), ("healthy", .bool carry.healthy)] }
      []
  else budget

def applyOpportunity (pressureLevel : AllocatorPressureLevel) (budget : CarryBudget) :
    CarryBudget :=
  if input.system.carryOpportunityScore < input.policy.carryOpportunityScoreFloor then
    budget.cap input.policy.weakCarryCarryCapPct
      { code := "carry_opportunity_weak"
        severity := .warning
        summary := "Carry opportunity quality is weak, so idle and reserve capital is steered " ++
          "toward Treasury."
        details := [("carryOpportunityScore", .num input.system.carryOpportunityScore),
          ("carryOpportunityScoreFloor", .num input.policy.carryOpportunityScoreFloor)] }
      []
  else if input.policy.carryOpportunityScoreStrong ≤ input.system.carryOpportunityScore ∧
      pressureLevel = .normal then
    { targetPct := min input.policy.maximumCarryPct (budget.targetPct.add 5)
      rationales := budget.rationales ++
        [{ code := "carry_opportunity_strong"
           severity := .info
           summary := "Carry opportunity quality is strong, so carry receives a moderate budget " ++
             "uplift within portfolio limits."
           details := [("carryOpportunityScore", .num input.system.carryOpportunityScore),
             ("carryOpportunityScoreStrong", .num input.policy.carryOpportunityScoreStrong)] }]
      constraints := budget.constraints }
  else budget

def carryBudget (carry : AllocatorSleeveSnapshot) : CarryBudget :=
  let pressureLevel := pressureFromInput input.system
  applyOpportunity input pressureLevel
    (applyCarryHealth input carry
      (applyPressure input (applyReserveShortfall input (baselineBudget input)) pressureLevel))

theorem applyReserveShortfall_targetPct (budget : CarryBudget) :
    (applyReserveShortfall input budget).targetPct =
      if 0 < input.system.treasuryReserveShortfallUsd then
        min budget.targetPct input.policy.reserveShortfallCarryCapPct
      else budget.targetPct := by
  unfold applyReserveShortfall
  split_ifs <;> rfl

theorem applyPressure_targetPct (budget : CarryBudget) (pressureLevel : AllocatorPressureLevel) :
    (applyPressure input budget pressureLevel).targetPct =
      match pressureLevel with
      | .high => min budget.targetPct input.policy.degradedCarryCapPct
      | .elevated => min budget.targetPct input.policy.elevatedMismatchCarryCapPct
      | .normal => budget.targetPct := by
  cases pressureLevel <;> rfl

theorem applyCarryHealth_targetPct (carry : AllocatorSleeveSnapshot) (budget : CarryBudget) :
    (applyCarryHealth input carry budget).targetPct =
      if carry.status = .degraded ∨ carry.status = .blocked ∨ carry.throttleState = .deRisk ∨
          carry.throttleState = .blocked ∨ carry.healthy = false then
        min budget.targetPct input.policy.weakCarryCarryCapPct
      else budget.targetPct := by
  unfold applyCarryHealth
  split_ifs <;> rfl

theorem applyOpportunity_targetPct (pressureLevel : AllocatorPressureLevel)
    (budget : CarryBudget) :
    (applyOpportunity input pressureLevel budget).targetPct =
      if input.system.carryOpportunityScore < input.policy.carryOpportunityScoreFloor then
        min budget.targetPct input.policy.weakCarryCarryCapPct
      else if input.policy.carryOpportunityScoreStrong ≤ input.system.carryOpportunityScore ∧
          pressureLevel = .normal then
        min input.policy.maximumCarryPct (budget.targetPct.add 5)
      else budget.targetPct := by
  unfold applyOpportunity
  split_ifs <;> rfl

def withinCarry (carry : AllocatorSleeveSnapshot) (pct : Number) : Number :=
  clampPct pct carry.minAllocationPct (min carry.maxAllocationPct input.policy.maximumCarryPct)

def treasuryTargetPct (carry treasury : AllocatorSleeveSnapshot) : Number :=
  clampPct (Number.sub 100 (withinCarry input carry (carryBudget input carry).targetPct))
    (max treasury.minAllocationPct (treasuryFloorPct input)) treasury.maxAllocationPct

def carryTargetPct (carry treasury : AllocatorSleeveSnapshot) : Number :=
  withinCarry input carry (Number.sub 100 (treasuryTargetPct input carry treasury))

/-! ## Targets -/

def targetFor (sleeve : AllocatorSleeveSnapshot) (targetPct : Number)
    (rationale : List AllocatorRationale) : AllocatorTargetAllocation :=
  let targetUsd := toUsd input.system.totalCapitalUsd targetPct
  { sleeveId := sleeve.sleeveId
    sleeveName := sleeve.name
    sleeveKind := sleeve.kind
    currentAllocationUsd := sleeve.currentAllocationUsd
    currentAllocationPct := sleeve.currentAllocationPct
    targetAllocationUsd := targetUsd
    targetAllocationPct := targetPct
    minAllocationPct := sleeve.minAllocationPct
    maxAllocationPct := sleeve.maxAllocationPct
    deltaUsd := usd (targetUsd.minus sleeve.currentAllocationUsd)
    status := sleeve.status
    throttleState := sleeve.throttleState
    opportunityScore := sleeve.opportunityScore
    capacityUsd := sleeve.capacityUsd
    rationale
    metadata := sleeve.metadata }

def carryTarget (carry treasury : AllocatorSleeveSnapshot) : AllocatorTargetAllocation :=
  targetFor input carry (carryTargetPct input carry treasury)
    ((carryBudget input carry).rationales.filter fun rationale =>
      rationale.code.startsWith "carry_" || rationale.code.startsWith "system_" ||
        rationale.code.startsWith "reserve_")

def treasuryTarget (carry treasury : AllocatorSleeveSnapshot) : AllocatorTargetAllocation :=
  targetFor input treasury (treasuryTargetPct input carry treasury)
    ({ code := "treasury_residual_allocator"
       severity := .info
       summary := "Treasury receives the residual portfolio budget after reserve and carry " ++
         "constraints are applied."
       details := [("treasuryFloorPct", .num (treasuryFloorPct input))] } ::
      (carryBudget input carry).rationales.filter fun rationale =>
        rationale.code.startsWith "reserve_" || rationale.code.startsWith "system_")

/-! ## Recommendations -/

def recommendationFor (pressureLevel : AllocatorPressureLevel)
    (target : AllocatorTargetAllocation) : AllocatorRecommendation :=
  let delta := target.deltaUsd
  let amountText := usdText |delta|
  let pctText := Decimal.toFixed target.targetAllocationPct 2
  let priority : AllocatorRecommendationPriority :=
    if pressureLevel = .high then .high else .medium
  let details := [("currentAllocationUsd", Json.decimal target.currentAllocationUsd),
    ("targetAllocationUsd", .decimal target.targetAllocationUsd),
    ("deltaUsd", .decimal target.deltaUsd)]
  if |delta| < 1 then
    { recommendationType := .holdBudget
      sleeveId := target.sleeveId
      priority := .low
      summary := s!"{target.sleeveName} remains within its current budget band."
      details := [("targetAllocationPct", .num target.targetAllocationPct),
        ("currentAllocationPct", .num target.currentAllocationPct)]
      rationale := target.rationale }
  else if target.sleeveId = .carry ∧ delta < 0 then
    { recommendationType :=
        if target.throttleState = .deRisk ∨ pressureLevel ≠ .normal then .deRisk
        else .decreaseBudget
      sleeveId := target.sleeveId
      priority
      summary := s!"Reduce carry budget by {amountText} USD toward {pctText}% of portfolio capital."
      details
      rationale := target.rationale }
  else
    { recommendationType :=
        if target.sleeveId = .treasury ∧ pressureLevel ≠ .normal then .increaseReserveBuffer
        else if 0 < delta then .increaseBudget
        else .decreaseBudget
      sleeveId := target.sleeveId
      priority
      summary := (if 0 < delta then "Increase" else "Reduce") ++
        s!" {target.sleeveName} budget by {amountText} USD toward {pctText}% of portfolio capital."
      details
      rationale := target.rationale }

def baselineRationale : AllocatorRationale where
  code := "baseline_policy_applied"
  severity := .info
  summary := "Allocator applied the baseline policy because reserve, risk, and carry-quality " ++
    "inputs were all within normal bands."
  details := []

/-! ## Evaluation -/

def decisionFor (carry treasury : AllocatorSleeveSnapshot) : AllocatorDecision :=
  let pressureLevel := pressureFromInput input.system
  let budget := carryBudget input carry
  let targets := [carryTarget input carry treasury, treasuryTarget input carry treasury]
  { regimeState := regimeFromInput input pressureLevel
    pressureLevel
    totalCapitalUsd := usd input.system.totalCapitalUsd
    reserveConstrainedCapitalUsd := usd input.system.reserveConstrainedCapitalUsd
    allocatableCapitalUsd := usd input.system.allocatableCapitalUsd
    targets
    recommendations := targets.map (recommendationFor pressureLevel)
    rationale := if budget.rationales = [] then [baselineRationale] else budget.rationales
    constraints := budget.constraints }

def evaluate : Except String AllocatorDecision :=
  match input.sleeves.find? fun sleeve => decide (sleeve.sleeveId = .carry),
      input.sleeves.find? fun sleeve => decide (sleeve.sleeveId = .treasury) with
  | some carry, some treasury => .ok (decisionFor input carry treasury)
  | _, _ => .error "SentinelAllocatorPolicyEngine requires carry and treasury sleeves."

end SentinelAllocatorPolicyEngine

end SentinelApex
