import SentinelApex.Lib.Rounds
import SentinelApex.RiskEngine.Engine
import SentinelApex.StrategyEngine.IntentBuilder

/-!
# Strategy pipeline

The planning of one cycle: the detected candidates are filtered and given to the optimizer, the
legs of the selected opportunities become intents, and each intent is assessed by the risk engine
against the portfolio state at the start of the cycle.

`none` is an exception: a position size that is no decimal, or the negated text of a negative one.
The readings of the clock are arguments.
-/

namespace SentinelApex

structure StrategyPipeline where
  sleeveId : String
  riskEngine : RiskEngine
  carryConfig : CarryConfig

structure PlannedIntentAssessment where
  intent : OrderIntent
  approved : Bool
  assessment : RiskAssessment

inductive EvaluationStage where
  | thresholdFilter
  | portfolioOptimizer
  deriving DecidableEq, Repr

structure OpportunityEvaluationRecord where
  opportunity : CarryOpportunityCandidate
  approved : Bool
  evaluationStage : EvaluationStage
  reason : String
  score : Option OpportunityScoreBreakdown
  rationale : List String
  plannedNotionalUsd : Option Decimal

structure OpportunityEvaluation where
  approved : List CarryOpportunityCandidate
  evaluations : List OpportunityEvaluationRecord
  allocations : List PortfolioCapitalAllocation

structure PlannedStrategyCycle where
  opportunitiesDetected : List CarryOpportunityCandidate
  opportunitiesApproved : List CarryOpportunityCandidate
  opportunityEvaluations : List OpportunityEvaluationRecord
  intentsGenerated : List OrderIntent
  riskResults : List PlannedIntentAssessment
  approvedIntents : List OrderIntent
  rejectedIntents : List OrderIntent

/-- The readings of the clock in one cycle: one for the evaluation, one for each opportunity whose
legs are built, and two for each intent that is assessed. -/
structure PlanClock where
  evaluatedAt : Date
  builtAt : ℕ → Date
  priceUpdate : ℕ → Date
  assessedAt : ℕ → Date

variable {state : PortfolioState}

namespace StrategyPipeline

variable (pipeline : StrategyPipeline)

def thresholdReason (now : Date) (c : CarryOpportunityCandidate) : Option String :=
  if c.expiresAt ≤ now then some "opportunity expired before portfolio evaluation"
  else if c.confidenceScore < pipeline.carryConfig.minConfidenceScore then
    some "confidence score below minimum threshold"
  else if Number.ofDecimal c.netYieldPct <
      Number.ofDecimal pipeline.carryConfig.minAnnualYieldPct then
    some "net yield below minimum threshold"
  else none

def rejectedRecord (opportunity : CarryOpportunityCandidate) (evaluationStage : EvaluationStage)
    (reason : String) : OpportunityEvaluationRecord :=
  { opportunity, approved := false, evaluationStage, reason, score := none, rationale := []
    plannedNotionalUsd := none }

def optimizationInput (opportunities : List CarryOpportunityCandidate) (state : PortfolioState) :
    PortfolioOptimizationInput where
  opportunities
  sleeveNav := (state.sleeveNav.get? pipeline.sleeveId).getD state.totalNav
  currentGrossExposureUsd := state.grossExposure
  currentOpenPositions := state.openPositionCount
  currentAssetExposureUsd := state.assetExposures
  currentVenueExposureUsd := state.venueExposures
  config := pipeline.carryConfig

def evaluateOpportunities (candidates : List CarryOpportunityCandidate) (state : PortfolioState)
    (now : Date) : OpportunityEvaluation :=
  let filtered := candidates.filter fun c => (pipeline.thresholdReason now c).isNone
  let dropped := candidates.filterMap fun c =>
    (pipeline.thresholdReason now c).map (rejectedRecord c .thresholdFilter)
  let optimized := optimizeCarryPortfolio (pipeline.optimizationInput filtered state)
  { approved := optimized.selected.map fun selection => selection.opportunity
    evaluations := dropped ++
      (optimized.selected.map fun selection =>
        { opportunity := selection.opportunity
          approved := true
          evaluationStage := .portfolioOptimizer
          reason := "selected by portfolio optimizer"
          score := some selection.score
          rationale := selection.rationale
          plannedNotionalUsd := some selection.positionSizeUsd }) ++
      optimized.rejected.map fun rejection =>
        rejectedRecord rejection.opportunity .portfolioOptimizer rejection.reason
    allocations := optimized.selected }

/-- The intents of the allocations, in order; `builtAt i` is the clock while the `i`-th allocation
is built. -/
def generateIntents (allocations : List PortfolioCapitalAllocation) (builtAt : ℕ → Date) :
    List OrderIntent :=
  allocations.zipIdx.flatMap fun e =>
    buildIntentsFromOpportunity e.1.opportunity pipeline.sleeveId e.1.positionSizeUsd (builtAt e.2)

/-- `String(intent.metadata['positionSizeUsd'] ?? '1000')`, read as a decimal. -/
def positionSizeUsd (intent : OrderIntent) : Option Decimal :=
  (intent.metadata.getOr "positionSizeUsd" (.decimal 1000)).toDecimal?

/-- The signed size: a sell is written with a minus sign in front, and `--` is no decimal. -/
def deltaUsd (side : OrderSide) (size : Decimal) : Option Decimal :=
  match side with
  | .buy => some size
  | .sell => if size < 0 then none else some (-size)

def riskContext (intent : OrderIntent) (lastPriceUpdate : Date) : Option OrderIntentContext := do
  let size ← positionSizeUsd intent
  let delta ← deltaUsd intent.side size
  return {
    intent
    venueId := intent.venueId
    assetSymbol := intent.asset
    positionSizeUsd := size
    deltaUsd := delta
    requiredMarginUsd := size
    lastPriceUpdate }

/-- The assessment of one intent. The sizes are parsed by the checks, so an open circuit breaker
answers before a malformed size can throw. -/
def assessIntent (intent : OrderIntent) (state : PortfolioState) (lastPriceUpdate now : Date) :
    Option RiskAssessment :=
  match riskContext intent lastPriceUpdate with
  | some context => some (pipeline.riskEngine.assessOrderIntent context state now)
  | none =>
    if pipeline.riskEngine.circuitBreakers.isAnyOpen then
      some (pipeline.riskEngine.blockedAssessment intent.opportunityId now)
    else none

/-- One round of `runRiskChecks`. -/
def checkIntent (intent : OrderIntent) (state : PortfolioState) (lastPriceUpdate now : Date) :
    Option PlannedIntentAssessment :=
  (pipeline.assessIntent intent state lastPriceUpdate now).map fun assessment =>
    { intent, approved := assessment.overallStatus ≠ .failed, assessment }

/-- Every intent is assessed against the same portfolio state. -/
def runRiskChecks (intents : List OrderIntent) (state : PortfolioState) (clock : PlanClock) :
    Option (List PlannedIntentAssessment) :=
  intents.zipIdx.mapM fun e =>
    pipeline.checkIntent e.1 state (clock.priceUpdate e.2) (clock.assessedAt e.2)

/-- `planCycle`, from the detected candidates on. -/
def planCycle (candidates : List CarryOpportunityCandidate) (state : PortfolioState)
    (clock : PlanClock) : Option PlannedStrategyCycle := do
  let evaluation := pipeline.evaluateOpportunities candidates state clock.evaluatedAt
  let intents := pipeline.generateIntents evaluation.allocations clock.builtAt
  let riskResults ← pipeline.runRiskChecks intents state clock
  return {
    opportunitiesDetected := candidates
    opportunitiesApproved := evaluation.approved
    opportunityEvaluations := evaluation.evaluations
    intentsGenerated := intents
    riskResults
    approvedIntents := (riskResults.filter fun r => r.approved).map fun r => r.intent
    rejectedIntents := (riskResults.filter fun r => !r.approved).map fun r => r.intent }

variable {pipeline}

/-- An intent is approved when its context can be read and is admissible. -/
theorem checkIntent_eq_some {intent : OrderIntent} {lastPriceUpdate now : Date}
    {r : PlannedIntentAssessment}
    (h : pipeline.checkIntent intent state lastPriceUpdate now = some r) :
    r.intent = intent ∧ (r.approved = true ↔ ∃ context,
      riskContext intent lastPriceUpdate = some context ∧
        pipeline.riskEngine.Admissible context state now) := by
  unfold checkIntent assessIntent at h
  cases hc : riskContext intent lastPriceUpdate with
  | some context =>
    rw [hc] at h
    cases h
    simp [← pipeline.riskEngine.assessOrderIntent_ne_failed_iff]
  | none =>
    rw [hc] at h
    dsimp only at h
    split_ifs at h with hopen
    · cases h
      simp [RiskEngine.blockedAssessment]
    · cases h

variable {intents : List OrderIntent}

theorem runRiskChecks_getElem? {clock : PlanClock} {results : List PlannedIntentAssessment}
    (h : pipeline.runRiskChecks intents state clock = some results) (i : ℕ) :
    results[i]? = (intents[i]?).bind fun intent =>
      pipeline.checkIntent intent state (clock.priceUpdate i) (clock.assessedAt i) := by
  have hall := Rounds.mapM_eq_some_iff.1 h
  have hlen : intents.length = results.length := by simpa using hall.length_eq
  by_cases hi : i < intents.length
  · have hget := hall.get (by simpa using hi) (hlen ▸ hi)
    simp only [List.get_eq_getElem, List.getElem_zipIdx, Nat.zero_add] at hget
    rw [List.getElem?_eq_getElem hi, List.getElem?_eq_getElem (hlen ▸ hi), Option.bind_some, hget]
  · rw [List.getElem?_eq_none (by omega), List.getElem?_eq_none (by omega), Option.bind_none]

theorem runRiskChecks_isSome {clock : PlanClock}
    (h : ∀ intent ∈ intents, ∀ lastPriceUpdate, (riskContext intent lastPriceUpdate).isSome) :
    (pipeline.runRiskChecks intents state clock).isSome := by
  refine Rounds.mapM_isSome fun e he => ?_
  obtain ⟨context, hc⟩ :=
    Option.isSome_iff_exists.1 (h e.1 (List.fst_mem_of_mem_zipIdx he) (clock.priceUpdate e.2))
  simp [checkIntent, assessIntent, hc]

end StrategyPipeline

end SentinelApex
