import SentinelApex.Carry.ControlledExecution

/-!
# The gates of carry actions

An executable carry action trades at venues that support it, and at live venues only as an approved
live action (`executable_gated`). The rules and the flags of an action read the same capabilities,
so the flags hold of every venue that the loop lets pass.
-/

namespace SentinelApex

open SentinelApex.Runtime (RuntimeLifecycleState)

namespace CarryControlledExecutionPlanner

variable {dates : DateTexts} {input : CarryPlanningInput}
  {recommendation : CarryExecutionRecommendation}

structure LiveFlagged (checks : VenueChecks) : Prop where
  approvalRequirement : checks.approvalRequirement = .admin
  simulated : checks.simulated = false

def LiveSupported (input : CarryPlanningInput) (venueId : String) : Prop :=
  ∃ capability, findCarryVenueCapabilities input.venueCapabilities venueId = some capability ∧
    capability.executionSupported = true ∧ capability.venueMode = .live

variable {checks : VenueChecks} {coverage : List CarryBlockedReason} {venueId : String}

theorem LiveSupported.checkVenue (h : LiveSupported input venueId) (actionType : CarryActionType)
    (checks : VenueChecks) :
    LiveFlagged (checkVenue input actionType checks venueId) := by
  obtain ⟨capability, hfound, hsupported, hlive⟩ := h
  unfold CarryControlledExecutionPlanner.checkVenue
  simp only [hfound, hsupported, hlive]
  exact ⟨rfl, Bool.and_false _⟩

theorem LiveFlagged.checkVenue (h : LiveFlagged checks) (actionType : CarryActionType)
    (venueId : String) :
    LiveFlagged (checkVenue input actionType checks venueId) := by
  obtain ⟨happroval, hsimulated⟩ := h
  unfold CarryControlledExecutionPlanner.checkVenue
  cases findCarryVenueCapabilities input.venueCapabilities venueId with
  | none => exact ⟨happroval, hsimulated⟩
  | some capability =>
    dsimp only
    cases capability.executionSupported with
    | false => exact ⟨happroval, hsimulated⟩
    | true =>
      refine ⟨?_, ?_⟩
      · simp [happroval]
      · simp [hsimulated]

theorem LiveFlagged.foldl (h : LiveFlagged checks) (actionType : CarryActionType)
    (venueIds : List String) :
    LiveFlagged (venueIds.foldl (CarryControlledExecutionPlanner.checkVenue input actionType)
      checks) := by
  induction venueIds generalizing checks with
  | nil => exact h
  | cons venueId venueIds ih => exact ih (h.checkVenue actionType venueId)

theorem liveFlagged_of_mem {venueIds : List String} (hmem : venueId ∈ venueIds)
    (hlive : LiveSupported input venueId) (actionType : CarryActionType) (checks : VenueChecks) :
    LiveFlagged (venueIds.foldl (checkVenue input actionType) checks) := by
  obtain ⟨before, after, rfl⟩ := List.append_of_mem hmem
  rw [List.foldl_append, List.foldl_cons]
  exact (hlive.checkVenue actionType _).foldl actionType after

structure OrderVenueGated (input : CarryPlanningInput) (intent : CarryExecutionIntent)
    (capability : CarryExecutionCapabilities) : Prop where
  executionSupported : capability.executionSupported = true
  supports : supports intent.actionType capability = true
  writable : capability.readOnly = false
  live : capability.venueMode = .live →
    capability.approvedForLiveUse = true ∧ capability.sensitiveExecutionEligible = true ∧
      input.liveExecutionEnabled = true ∧ intent.executionMode = .live ∧
      intent.approvalRequirement = .admin ∧ intent.simulated = false
  simulated : capability.venueMode = .simulated → intent.executionMode ≠ .live

structure ActionGated (input : CarryPlanningInput) (intent : CarryExecutionIntent) : Prop where
  listed : ∀ order ∈ intent.plannedOrders,
    ∃ capability ∈ input.venueCapabilities, capability.venueId = order.venueId
  venues : ∀ order ∈ intent.plannedOrders, ∀ capability ∈ input.venueCapabilities,
    capability.venueId = order.venueId → OrderVenueGated input intent capability
  runtime : RuntimeReady input

variable {capability : CarryExecutionCapabilities}

theorem venueId_of_findCarryVenueCapabilities {capabilities : List CarryExecutionCapabilities}
    (h : findCarryVenueCapabilities capabilities venueId = some capability) :
    capability ∈ capabilities ∧ capability.venueId = venueId :=
  ⟨List.mem_of_find?_eq_some h, by simpa using List.find?_some h⟩

theorem orderVenueGated_of_clear {order : OrderIntent}
    (horder : order ∈ recommendation.plannedOrders)
    (hfound : findCarryVenueCapabilities input.venueCapabilities order.venueId = some capability)
    (hgated : VenueGated input recommendation.actionType capability) :
    OrderVenueGated input (executionIntent dates input recommendation coverage) capability where
  executionSupported := hgated.executionSupported
  supports := hgated.supports
  writable := hgated.writable
  live := by
    intro hlive
    obtain ⟨happroved, heligible, henabled, hmode⟩ := hgated.live hlive
    have htouched : order.venueId ∈ touchedVenues recommendation :=
      mem_touchedVenues.2 ⟨order, horder, rfl⟩
    have hflags : LiveFlagged (venueChecks dates input recommendation coverage) :=
      liveFlagged_of_mem htouched ⟨capability, hfound, hgated.executionSupported, hlive⟩ _ _
    exact ⟨happroved, heligible, henabled, hmode, hflags.approvalRequirement, hflags.simulated⟩
  simulated := hgated.simulated

theorem Clear.actionGated (hids : (input.venueCapabilities.map fun item => item.venueId).Nodup)
    (h : Clear dates input recommendation) :
    ActionGated input (executionIntent dates input recommendation coverage) where
  listed := by
    intro order horder
    obtain ⟨capability, hfound, -⟩ := h.venues order horder
    exact ⟨capability, venueId_of_findCarryVenueCapabilities hfound⟩
  venues := by
    intro order horder capability hmem hid
    obtain ⟨found, hfound, hgated⟩ := h.venues order horder
    obtain ⟨hfoundMem, hfoundId⟩ := venueId_of_findCarryVenueCapabilities hfound
    obtain rfl : found = capability :=
      List.inj_on_of_nodup_map hids hfoundMem hmem (hfoundId.trans hid.symm)
    exact orderVenueGated_of_clear horder hfound hgated
  runtime := h.runtime

/-- Every executable action of a planning is gated. -/
theorem executable_gated (dates : DateTexts) (input : CarryPlanningInput)
    (hids : (input.venueCapabilities.map fun item => item.venueId).Nodup)
    {intents : List CarryExecutionIntent} (h : createExecutionIntents dates input = .ok intents) :
    ∀ intent ∈ intents, intent.executable = true → ActionGated input intent := by
  intro intent hintent hexecutable
  obtain ⟨recommendation, -, hcreated⟩ := exists_of_mem_createExecutionIntents h hintent
  have hclear := (executable_iff hcreated).1 hexecutable
  obtain ⟨coverage, -, rfl⟩ := createExecutionIntent_eq_ok_iff.1 hcreated
  exact hclear.actionGated hids

def sampleDateTexts : DateTexts where
  parse := fun _ => none
  toISOString := fun _ => ""

def sampleCarryCapability (venueMode : VenueMode) : CarryExecutionCapabilities where
  venueId := "drift"
  venueMode
  executionSupported := true
  supportsIncreaseExposure := true
  supportsReduceExposure := true
  readOnly := false
  approvedForLiveUse := decide (venueMode = .live)
  sensitiveExecutionEligible := decide (venueMode = .live)
  promotionStatus := if venueMode = .live then .approved else .notRequested
  promotionBlockedReasons := []

def sampleCarryOrder : OrderIntent where
  intentId := "order"
  venueId := "drift"
  asset := "BTC"
  side := .sell
  type := .market
  size := 1 / 100
  limitPrice := none
  opportunityId := "opportunity"
  reduceOnly := false
  createdAt := 0
  metadata := OrderedMap.empty

def sampleIncrease (notionalUsd : Decimal) : CarryExecutionRecommendation where
  actionType := .increaseCarryExposure
  sourceKind := .opportunity
  sourceReference := none
  opportunityId := some "opportunity"
  asset := some "BTC"
  summary := "Deploy an approved carry opportunity."
  notionalUsd
  details := OrderedMap.empty
  plannedOrders := [sampleCarryOrder]

def sampleCarryInput (venueMode : VenueMode) (recommendations : List CarryExecutionRecommendation)
    (approvedCarryBudgetUsd : Option Decimal) : CarryPlanningInput where
  recommendations
  policy := {}
  strategyPolicy := {}
  strategyProfile := {}
  currentCarryAllocationUsd := 0
  approvedCarryBudgetUsd
  totalCapitalUsd := some 100000
  runtimeLifecycleState := .ready
  runtimeHalted := false
  criticalMismatchCount := 0
  carryThrottleState := .normal
  executionMode := if venueMode = .live then .live else .dryRun
  liveExecutionEnabled := decide (venueMode = .live)
  venueCapabilities := [sampleCarryCapability venueMode]
  openPositions := []
  now := 0

/-- An increase at an approved live venue. -/
theorem executable_gated_sample : ∃ intent,
    createExecutionIntents sampleDateTexts (sampleCarryInput .live [sampleIncrease 1000] none) =
      .ok [intent] ∧
    intent.executable = true ∧
      ActionGated (sampleCarryInput .live [sampleIncrease 1000] none) intent := by
  refine ⟨executionIntent sampleDateTexts (sampleCarryInput .live [sampleIncrease 1000] none)
    (sampleIncrease 1000) [], rfl, by decide +kernel, ?_⟩
  exact executable_gated sampleDateTexts (sampleCarryInput .live [sampleIncrease 1000] none)
    (by decide) rfl _ List.mem_cons_self (by decide +kernel)

end CarryControlledExecutionPlanner

end SentinelApex
