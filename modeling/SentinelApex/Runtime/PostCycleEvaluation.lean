import SentinelApex.Runtime.AllocatorEvaluation
import SentinelApex.StrategyEngine.Pipeline
import SentinelApex.StrategyEngine.PortfolioStateTracker

/-!
# The allocator evaluation after a cycle

A completed cycle stores its portfolio, its treasury evaluation and its opportunities, and evaluates
the allocator with values that it assembles from the same portfolio and plan.

The portfolio that the cycle passes has no sleeves, so its evaluation takes carry to hold nothing.
One that an operator asks for, from what is stored, agrees exactly if the stored NAV of carry is zero
and the opportunities that are read back are as many and as good as those the cycle has approved
(`evaluationsAgree_iff`).
-/

namespace SentinelApex

/-- What a caller passes to `runAllocatorEvaluation`. -/
structure AllocatorOverrides where
  carryOpportunities : Option (List OpportunityView) := none
  treasurySummary : Option TreasuryReserveStatus := none
  portfolioSummaryOverride : Option PortfolioSummary := none

/-- What an evaluation goes by: what is passed comes before what the store returns. -/
def AllocatorReads.withOverrides (reads : AllocatorReads) (overrides : AllocatorOverrides) :
    AllocatorReads :=
  { reads with
    portfolioSummary := overrides.portfolioSummaryOverride.or reads.portfolioSummary
    treasurySummary := overrides.treasurySummary.or reads.treasurySummary
    listedOpportunities := overrides.carryOpportunities.getD reads.listedOpportunities }

/-- What an evaluation reads of a row of `strategy_opportunities`. -/
structure OpportunityRow where
  opportunityId : String
  view : OpportunityView
  detectedAt : Date

def buildOpportunityId (opportunity : CarryOpportunityCandidate) : String :=
  s!"{opportunity.asset}-{opportunity.type.text}-{opportunity.detectedAt}"

/-- An opportunity whose id is there already is not stored again. -/
def persistOpportunity (rows : List OpportunityRow) (row : OpportunityRow) : List OpportunityRow :=
  if row.opportunityId ∈ rows.map OpportunityRow.opportunityId then rows else rows ++ [row]

/-- The evaluation of an opportunity; later ones replace earlier ones with the same id. -/
def evaluationOf (planned : PlannedStrategyCycle) (opportunity : CarryOpportunityCandidate) :
    Option OpportunityEvaluationRecord :=
  planned.opportunityEvaluations.reverse.find? fun evaluation =>
    decide (buildOpportunityId evaluation.opportunity = buildOpportunityId opportunity)

def opportunityRow (planned : PlannedStrategyCycle) (opportunity : CarryOpportunityCandidate) :
    OpportunityRow where
  opportunityId := buildOpportunityId opportunity
  view :=
    { approved := ((evaluationOf planned opportunity).map fun evaluation =>
        evaluation.approved).getD false
      netYieldPct := opportunity.netYieldPct
      confidenceScore := opportunity.confidenceScore }
  detectedAt := opportunity.detectedAt

def persistOpportunities (planned : PlannedStrategyCycle) (rows : List OpportunityRow) :
    List OpportunityRow :=
  (planned.opportunitiesDetected.map (opportunityRow planned)).foldl persistOpportunity rows

def listOpportunities (limit : ℕ) (rows : List OpportunityRow) : List OpportunityView :=
  ((rows.insertionSort fun first second => second.detectedAt ≤ first.detectedAt).take limit).map
    OpportunityRow.view

/-- The portfolio summary that is read back once the state has been stored. -/
def persistedSummary (portfolioState : PortfolioState) : PortfolioSummary where
  totalNav := portfolioState.totalNav
  sleeves := portfolioState.sleeveNav.entries.map fun entry =>
    { sleeveId := entry.1, nav := entry.2 }

/-- A cycle that has completed: the answers of the adapters after its orders, its plan, its treasury
evaluation and the opportunities stored before it. The rest of `reads` is what the store returns
besides. -/
structure CompletedCycle where
  reads : AllocatorReads
  adapters : OrderedMap String VenueAnswers
  planned : PlannedStrategyCycle
  treasurySummary : TreasuryReserveStatus
  storedOpportunities : List OpportunityRow

namespace CompletedCycle

variable (cycle : CompletedCycle)

def refreshedPortfolio : PortfolioState :=
  PortfolioStateTracker.refresh cycle.reads.sleeveId cycle.adapters

/-- What the store returns after the cycle. -/
def persistedReads : AllocatorReads :=
  { cycle.reads with
    portfolioSummary := some (persistedSummary cycle.refreshedPortfolio)
    treasurySummary := some cycle.treasurySummary
    listedOpportunities :=
      listOpportunities 20 (persistOpportunities cycle.planned cycle.storedOpportunities) }

/-- The opportunities that `runCycle` passes. -/
def carryOpportunities : List OpportunityView :=
  cycle.planned.opportunitiesApproved.map fun opportunity =>
    { approved := true
      netYieldPct := opportunity.netYieldPct
      confidenceScore := opportunity.confidenceScore }

/-- What `runCycle` passes. -/
def postCycleOverrides : AllocatorOverrides where
  carryOpportunities := some cycle.carryOpportunities
  treasurySummary := some cycle.treasurySummary
  portfolioSummaryOverride := some
    { totalNav := cycle.refreshedPortfolio.totalNav
      sleeves := [] }

def postCycleReads : AllocatorReads := cycle.persistedReads.withOverrides cycle.postCycleOverrides

def operatorReads : AllocatorReads := cycle.persistedReads.withOverrides {}

def carryNav : Decimal :=
  (cycle.refreshedPortfolio.sleeveNav.get? cycle.reads.sleeveId).getD 0

/-- Both evaluations have one input and one decision, and take carry to hold its NAV. -/
structure EvaluationsAgree : Prop where
  input : cycle.postCycleReads.policyInput = cycle.operatorReads.policyInput
  decision : SentinelAllocatorPolicyEngine.evaluate cycle.postCycleReads.policyInput =
    SentinelAllocatorPolicyEngine.evaluate cycle.operatorReads.policyInput
  postCycleCurrent : cycle.postCycleReads.carryCurrentUsd = cycle.carryNav
  operatorCurrent : cycle.operatorReads.carryCurrentUsd = cycle.carryNav

/-- The approved opportunities among the twenty that were detected last. -/
def readOpportunities : List OpportunityView :=
  (listOpportunities 20 (persistOpportunities cycle.planned cycle.storedOpportunities)).filter
    fun opportunity => opportunity.approved

/-- The opportunities that are read back are as many as those that the cycle has approved, with the
same score. -/
def SameOpportunities : Prop :=
  cycle.readOpportunities.length = cycle.planned.opportunitiesApproved.length ∧
    normaliseCarryOpportunityScore cycle.readOpportunities =
      normaliseCarryOpportunityScore cycle.carryOpportunities

theorem carryNav_eq : cycle.carryNav = cycle.refreshedPortfolio.totalNav := by
  have hget : cycle.refreshedPortfolio.sleeveNav.get? cycle.reads.sleeveId =
      some cycle.refreshedPortfolio.totalNav :=
    if_pos rfl
  rw [carryNav, hget]
  rfl

theorem postCycle_carryCurrentUsd : cycle.postCycleReads.carryCurrentUsd = 0 := rfl

theorem operator_carryCurrentUsd : cycle.operatorReads.carryCurrentUsd = cycle.carryNav := by
  have hfind : (persistedSummary cycle.refreshedPortfolio).sleeves.find?
      (fun sleeve => decide (sleeve.sleeveId = cycle.reads.sleeveId)) =
        some ⟨cycle.reads.sleeveId, cycle.refreshedPortfolio.totalNav⟩ := by
    apply List.find?_cons_of_pos
    exact decide_eq_true rfl
  have hcurrent : cycle.operatorReads.carryCurrentUsd =
      (((persistedSummary cycle.refreshedPortfolio).sleeves.find?
        fun sleeve => decide (sleeve.sleeveId = cycle.reads.sleeveId)).map
          PortfolioSleeve.nav).getD 0 := rfl
  rw [carryNav_eq, hcurrent, hfind]
  rfl

theorem totalCapitalUsd_eq :
    cycle.postCycleReads.totalCapitalUsd = cycle.operatorReads.totalCapitalUsd := rfl

theorem postCycle_opportunities :
    cycle.postCycleReads.opportunities = cycle.carryOpportunities := by
  show cycle.carryOpportunities.filter _ = _
  rw [List.filter_eq_self, carryOpportunities]
  simp

theorem operator_opportunities :
    cycle.operatorReads.opportunities = cycle.readOpportunities := rfl

/-- With the same current allocation, the inputs differ only by the opportunities. -/
theorem policyInput_eq_iff
    (hcurrent : cycle.postCycleReads.carryCurrentUsd = cycle.operatorReads.carryCurrentUsd) :
    cycle.postCycleReads.policyInput = cycle.operatorReads.policyInput ↔
      cycle.postCycleReads.opportunities.length = cycle.operatorReads.opportunities.length ∧
        cycle.postCycleReads.carryOpportunityScore = cycle.operatorReads.carryOpportunityScore := by
  have hcapital := cycle.totalCapitalUsd_eq
  constructor
  · intro h
    have hscore := congrArg (fun input => input.system.carryOpportunityScore) h
    have hcount := congrArg (fun input => (input.sleeves.head?.map fun sleeve =>
      sleeve.metadata.head?)) h
    refine ⟨?_, hscore⟩
    simp only [AllocatorReads.policyInput, AllocatorReads.carrySleeve, List.head?_cons,
      Option.map_some, Option.some.injEq, Prod.mk.injEq, true_and, Json.num.injEq] at hcount
    exact_mod_cast hcount
  · rintro ⟨hcount, hscore⟩
    have htreasury : cycle.postCycleReads.treasuryCurrentUsd =
        cycle.operatorReads.treasuryCurrentUsd := by
      rw [AllocatorReads.treasuryCurrentUsd, AllocatorReads.treasuryCurrentUsd, hcapital, hcurrent]
    have hpct (currentUsd : Decimal) : cycle.postCycleReads.currentPct currentUsd =
        cycle.operatorReads.currentPct currentUsd := rfl
    have hthrottle : cycle.postCycleReads.carryThrottleState =
        cycle.operatorReads.carryThrottleState := by
      unfold AllocatorReads.carryThrottleState
      rw [hscore]
      rfl
    have hcarry : cycle.postCycleReads.carrySleeve = cycle.operatorReads.carrySleeve := by
      unfold AllocatorReads.carrySleeve AllocatorReads.carryStatus
      rw [hcurrent, hpct, hcount, hscore, hthrottle, hcapital]
      rfl
    have hsleeve : cycle.postCycleReads.treasurySleeve = cycle.operatorReads.treasurySleeve := by
      unfold AllocatorReads.treasurySleeve
      rw [htreasury, hpct, hcapital]
      rfl
    have hsystem : cycle.postCycleReads.systemState = cycle.operatorReads.systemState := by
      unfold AllocatorReads.systemState
      rw [hscore, hcapital]
      rfl
    unfold AllocatorReads.policyInput
    rw [hcarry, hsleeve, hsystem]

/-- The two evaluations agree exactly if the NAV of carry is zero and the opportunities that are read
back are as many and as good as those that the cycle has approved. -/
theorem evaluationsAgree_iff :
    cycle.EvaluationsAgree ↔ cycle.carryNav = 0 ∧ cycle.SameOpportunities := by
  have hsame : cycle.SameOpportunities ↔
      cycle.postCycleReads.opportunities.length = cycle.operatorReads.opportunities.length ∧
        cycle.postCycleReads.carryOpportunityScore =
          cycle.operatorReads.carryOpportunityScore := by
    unfold SameOpportunities AllocatorReads.carryOpportunityScore
    rw [postCycle_opportunities, operator_opportunities, carryOpportunities, List.length_map]
    exact and_congr eq_comm eq_comm
  constructor
  · intro h
    have hnav : cycle.carryNav = 0 := h.postCycleCurrent.symm.trans cycle.postCycle_carryCurrentUsd
    have hcurrent := h.postCycleCurrent.trans h.operatorCurrent.symm
    exact ⟨hnav, hsame.2 ((cycle.policyInput_eq_iff hcurrent).1 h.input)⟩
  · rintro ⟨hnav, hopportunities⟩
    have hpost : cycle.postCycleReads.carryCurrentUsd = cycle.carryNav :=
      cycle.postCycle_carryCurrentUsd.trans hnav.symm
    have hinput := (cycle.policyInput_eq_iff (hpost.trans cycle.operator_carryCurrentUsd.symm)).2
      (hsame.1 hopportunities)
    exact ⟨hinput, by rw [hinput], hpost, cycle.operator_carryCurrentUsd⟩

/-- A ready runtime whose only venue holds 1000 dollars, after a cycle without opportunities. -/
def sampleCycle : CompletedCycle where
  reads :=
    { sleeveId := "carry"
      executionMode := .dryRun
      liveExecutionEnabled := false
      halted := false
      lifecycleState := .ready
      reason := none
      activeMismatchCount := 0
      criticalMismatches := []
      activeReconciliationCount := none
      portfolioSummary := none
      treasurySummary := none
      listedOpportunities := [] }
  adapters := OrderedMap.ofList [("drift",
    { getBalances := .ok [⟨"drift", "USDC", some 1000, some 0, some 1000⟩]
      getPositions := .ok []
      getMarketData := fun _ _ => .error "no market data" })]
  planned :=
    { opportunitiesDetected := []
      opportunitiesApproved := []
      opportunityEvaluations := []
      intentsGenerated := []
      riskResults := []
      approvedIntents := []
      rejectedIntents := [] }
  treasurySummary :=
    { totalCapitalUsd := 1000
      idleCapitalUsd := 0
      allocatedCapitalUsd := 1000
      requiredReserveUsd := 0
      currentReserveUsd := 0
      reserveCoveragePct := 100
      surplusCapitalUsd := 0
      reserveShortfallUsd := 0 }
  storedOpportunities := []

/-- The cycle's own evaluation takes carry to hold nothing. -/
theorem carry_taken_as_empty :
    sampleCycle.carryNav = 1000 ∧
      sampleCycle.operatorReads.carrySleeve.currentAllocationUsd = 1000 ∧
      sampleCycle.postCycleReads.carrySleeve.currentAllocationUsd = 0 ∧
      ¬ sampleCycle.EvaluationsAgree := by
  have hnav : sampleCycle.carryNav = 1000 := by decide +kernel
  refine ⟨hnav, by decide +kernel, by decide +kernel, fun h => ?_⟩
  have hzero := h.postCycleCurrent.symm.trans sampleCycle.postCycle_carryCurrentUsd
  rw [hnav] at hzero
  norm_num at hzero

end CompletedCycle

end SentinelApex
