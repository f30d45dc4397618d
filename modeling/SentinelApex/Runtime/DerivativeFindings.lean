import SentinelApex.Runtime.Detection
import SentinelApex.Runtime.DerivativeComparison

/-!
# Findings from a comparison

`detectDerivativeComparisonFindings` makes a candidate of every check of a comparison detail: one
that fails gives an active finding, and one that passes resolves the mismatch that an earlier run
has left for its key.

The check of the health bands asks for a health section that is fully available, which no detail has
(`health_mismatch_never_active`).
-/

namespace SentinelApex.Runtime

open DerivativeComparison

/-! ## Candidates -/

inductive VenueTruthProfile where
  | minimal
  | genericWallet
  | capacityOnly
  | derivativeAware
  deriving DecidableEq, Repr

/-- What the detection reads of a listed venue. -/
structure DerivativeVenue where
  venueId : String
  venueName : String
  truthMode : VenueTruthMode
  truthProfile : VenueTruthProfile
  truthCoverage : VenueTruthCoverage

/-- The argument of `toCandidateFinding`. -/
structure FindingInput where
  dedupeKey : String
  findingType : String
  active : Bool
  severity : String
  sourceComponent : String
  subsystem : String
  venueId : Option String
  entityType : Option String
  entityId : Option String
  summaryActive : String
  summaryResolved : String
  expectedState : Record
  actualState : Record
  delta : Record
  details : Record
  detectedAt : Date

/-- A check that passes is reported only if a mismatch is left that is not verified. -/
def toCandidateFinding (mismatch : Option RuntimeMismatch) (input : FindingInput) :
    Option ReconciliationCandidateFinding :=
  let shouldEmitResolution :=
    !input.active && mismatch.any fun mismatch => decide (mismatch.status ≠ .verified)
  if !input.active && !shouldEmitResolution then none
  else
    some
      { dedupeKey := input.dedupeKey
        findingType := input.findingType
        severity := input.severity
        status := if input.active then .active else .resolved
        sourceComponent := input.sourceComponent
        subsystem := input.subsystem
        venueId := input.venueId
        entityType := input.entityType
        entityId := input.entityId
        summary :=
          if input.active || !shouldEmitResolution then input.summaryActive
          else input.summaryResolved
        expectedState := some input.expectedState
        actualState := some input.actualState
        delta := some input.delta
        details := some input.details
        detectedAt := input.detectedAt }

/-! ## The checks of a venue -/

/-- How the parts of a comparison show in records. -/
structure ViewRecords where
  time : Date → String
  amount : Decimal → String
  summary : VenueDerivativeComparisonSummary → Record
  internalAccount : InternalDerivativeAccountState → Record
  externalAccount : VenueDerivativeAccountStateSnapshot → Record
  internalHealth : InternalDerivativeHealthState → Record
  externalHealth : VenueDerivativeHealthState → Record
  healthField : VenueDerivativeHealthFieldComparison → Record
  internalIdentity : InternalDerivativeMarketIdentity → Record
  externalIdentity : ExternalDerivativeMarketIdentity → Record
  normalizedIdentity : DerivativeNormalizedMarketIdentity → Record
  internalPosition : InternalDerivativePositionEntry → Record
  externalPosition : VenueDerivativePositionEntry → Record
  internalOrder : InternalDerivativeOrderEntry → Record
  externalOrder : VenueOrderEntry → Record

/-- `view === null ? {} : { ...view }`. -/
def spreadOr {α : Type} (record : α → Record) (view : Option α) : Record :=
  (view.map record).getD []

def nullable {α : Type} (record : α → Record) (view : Option α) : Value :=
  (view.map fun view => Value.obj (record view)).getD .null

def texts (items : List String) : Value := .arr (items.map Value.str)

def coverageText : CoverageStatus → String
  | .available => "available"
  | .incomplete => "partial"
  | .unsupported => "unsupported"

def modeText : InternalDerivativeHealthComparisonMode → String
  | .statusBandOnly => "status_band_only"
  | .unsupported => "unsupported"

/-- What a run knows about a venue when it checks the detail. -/
structure VenueCheck where
  venue : DerivativeVenue
  detail : VenueDerivativeComparisonDetail
  sourceWatermark : Option Date
  sourceComponent : String
  detectedAt : Date

namespace VenueCheck

variable (records : ViewRecords) (check : VenueCheck)

/-- The fields that the checks of the truth comparison share. -/
def finding (findingType key : String) (active : Bool) (severity entityType entityId : String)
    (summaryActive summaryResolved : String) (expectedState actualState delta details : Record) :
    FindingInput where
  dedupeKey := s!"{findingType}:{key}"
  findingType
  active
  severity
  sourceComponent := check.sourceComponent
  subsystem := "derivative_truth_comparison"
  venueId := some check.venue.venueId
  entityType := some entityType
  entityId := some entityId
  summaryActive
  summaryResolved
  expectedState
  actualState
  delta
  details
  detectedAt := check.detectedAt

def staleInternalState : FindingInput :=
  let venueId := check.venue.venueId
  let summary := check.detail.summary
  let time (t : Option Date) : Value := Value.ofOption (t.map records.time)
  { check.finding "stale_internal_derivative_state" venueId
      (check.sourceWatermark.any fun watermark =>
        summary.internalSnapshotAt.all fun snapshotAt => decide (snapshotAt < watermark))
      "medium" "venue_connector" venueId
      (s!"Internal derivative state for {venueId} is stale relative to persisted internal order " ++
        "or fill facts.")
      (s!"Internal derivative state for {venueId} is current against persisted internal order " ++
        "and fill facts.")
      [("internalSnapshotAt", time (check.sourceWatermark.or summary.internalSnapshotAt))]
      [("internalSnapshotAt", time summary.internalSnapshotAt),
        ("sourceWatermark", time check.sourceWatermark)]
      [("venueName", .str check.venue.venueName)]
      [("comparisonSummary", .obj (records.summary summary))] with
    subsystem := "internal_derivative_state" }

/-- The sections with their coverage, and whether external truth is available for them. -/
def gapSectionCandidates : List (String × ComparisonCoverageItem × Bool) :=
  let summary := check.detail.summary
  let truth := check.venue.truthCoverage
  [("subaccountIdentity", summary.subaccountIdentity,
      decide (truth.derivativeAccountState = .available)),
    ("positionInventory", summary.positionInventory,
      decide (truth.derivativePositionState = .available)),
    ("marketIdentity", summary.marketIdentity,
      decide (truth.derivativePositionState = .available)),
    ("healthState", summary.healthState, decide (truth.derivativeHealthState = .available)),
    ("orderInventory", summary.orderInventory, decide (truth.orderState = .available))]

def gapSections : List (String × ComparisonCoverageItem) :=
  (check.gapSectionCandidates.filter fun candidate =>
    candidate.2.2 && decide (candidate.2.1.status ≠ .available)).map fun candidate =>
      (candidate.1, candidate.2.1)

def comparisonGap : FindingInput :=
  let venueId := check.venue.venueId
  let summary := Value.obj (records.summary check.detail.summary)
  let expected := Value.str "available_or_external_unsupported"
  check.finding "drift_truth_comparison_gap" venueId (decide (0 < check.gapSections.length)) "low"
    "venue_connector" venueId
    (s!"Derivative truth comparison for {venueId} remains partial or unsupported for " ++
      s!"{check.gapSections.length} section(s).")
    (s!"Derivative truth comparison for {venueId} now covers every externally supported internal " ++
      "section.")
    [("subaccountIdentity", expected), ("positionInventory", expected),
      ("marketIdentity", expected), ("healthState", expected), ("orderInventory", expected)]
    [("comparisonSummary", summary)]
    [("gapSections", .arr (check.gapSections.map fun gap =>
      .obj [("section", .str gap.1), ("status", .str (coverageText gap.2.status)),
        ("reason", Value.ofOption gap.2.reason)]))]
    [("venueName", .str check.venue.venueName), ("comparisonSummary", summary)]

def subaccountMismatch : FindingInput :=
  let venueId := check.venue.venueId
  let comparison := check.detail.accountComparison
  check.finding "drift_subaccount_identity_mismatch" venueId
    (comparison.comparable && decide (comparison.status = .mismatched)) "high"
    "derivative_account" venueId
    (s!"Internal derivative account identity for {venueId} does not match external venue-native " ++
      "account truth.")
    (s!"Internal derivative account identity for {venueId} matches external venue-native account " ++
      "truth.")
    (spreadOr records.internalAccount comparison.internalState)
    (spreadOr records.externalAccount comparison.externalState)
    [("notes", texts comparison.notes)] [("venueName", .str check.venue.venueName)]

def partialHealthComparison : FindingInput :=
  let venueId := check.venue.venueId
  let comparison := check.detail.healthComparison
  check.finding "drift_partial_health_comparison" venueId
    (decide (check.detail.summary.healthState.status = .incomplete)) "low" "derivative_health"
    venueId
    s!"Internal-vs-external health comparison for {venueId} remains partial."
    s!"Internal-vs-external health comparison for {venueId} is no longer partial."
    [("healthComparison", .str "available_or_external_unsupported")]
    [("comparisonMode", .str (modeText comparison.comparisonMode)),
      ("fields", .arr (comparison.fields.map fun field => .obj (records.healthField field)))]
    [("comparableFields", texts ((comparison.fields.filter fun field => field.comparable).map
      fun field => field.field))]
    [("notes", texts comparison.notes)]

def partialMarketIdentityComparison : FindingInput :=
  let venueId := check.venue.venueId
  let summary := check.detail.summary
  check.finding "drift_partial_market_identity_comparison" venueId
    (decide (summary.marketIdentity.status = .incomplete)) "low" "derivative_market_identity"
    venueId
    s!"Market identity comparison for {venueId} still depends on derived or partial internal keys."
    (s!"Market identity comparison for {venueId} no longer depends on derived or partial internal " ++
      "keys.")
    [("marketIdentityComparison", .str "available_or_external_unsupported")]
    [("summary", .obj (records.summary summary))]
    [("exactPositionIdentityCount", .num summary.exactPositionIdentityCount),
      ("partialPositionIdentityCount", .num summary.partialPositionIdentityCount),
      ("positionIdentityGapCount", .num summary.positionIdentityGapCount)]
    [("venueName", .str check.venue.venueName)]

def healthMismatch : FindingInput :=
  let venueId := check.venue.venueId
  let comparison := check.detail.healthComparison
  check.finding "drift_health_state_mismatch" venueId
    (decide (check.detail.summary.healthState.status = .available) &&
      decide (comparison.status = .mismatched)) "medium" "derivative_health" venueId
    s!"Internal health state for {venueId} does not match external venue-native truth."
    s!"Internal health state for {venueId} matches external venue-native truth."
    (spreadOr records.internalHealth comparison.internalState)
    (spreadOr records.externalHealth comparison.externalState)
    [("fields", .arr (comparison.fields.map fun field => .obj (records.healthField field)))]
    [("notes", texts comparison.notes)]

/-! ### Positions and orders -/

def positionIdentityGap (comparison : VenueDerivativePositionComparison) : FindingInput :=
  let venueId := check.venue.venueId
  let key := comparison.comparisonKey
  let identities := comparison.marketIdentityComparison
  check.finding "drift_position_identity_gap" s!"{venueId}:{key}"
    (decide (comparison.status = .notComparable)) "low" "derivative_position" key
    s!"Derivative position {key} on {venueId} could not be truthfully aligned by market identity."
    s!"Derivative position {key} on {venueId} can now be truthfully aligned by market identity."
    [("marketIdentity", .str "truthfully_comparable")]
    [("internalIdentity", nullable records.internalIdentity identities.internalIdentity),
      ("externalIdentity", nullable records.externalIdentity identities.externalIdentity)]
    [("notes", texts identities.notes)]
    [("comparisonStatus", .str comparison.status.text)]

/-- The check of the market identity of a row; `row` names its kind in the key and `subject` in the
summaries. -/
def marketIdentityMismatch (row subject key : String)
    (identities : VenueDerivativeMarketIdentityComparison) : FindingInput :=
  let venueId := check.venue.venueId
  check.finding "drift_market_identity_mismatch" s!"{venueId}:{row}:{key}"
    (decide (identities.status = .mismatched) && decide (identities.comparisonMode = .exact))
    "high" "derivative_market_identity" key
    (s!"Exact market identity for {subject} {key} on {venueId} does not match external venue " ++
      "truth.")
    s!"Exact market identity for {subject} {key} on {venueId} matches external venue truth."
    (spreadOr records.internalIdentity identities.internalIdentity)
    (spreadOr records.externalIdentity identities.externalIdentity)
    [("normalizedIdentity", nullable records.normalizedIdentity identities.normalizedIdentity)]
    [("notes", texts identities.notes)]

def positionMarketIdentityMismatch (comparison : VenueDerivativePositionComparison) :
    FindingInput :=
  check.marketIdentityMismatch records "position" "derivative position" comparison.comparisonKey
    comparison.marketIdentityComparison

def orderMarketIdentityMismatch (comparison : VenueDerivativeOrderComparison) : FindingInput :=
  check.marketIdentityMismatch records "order" "open order" comparison.comparisonKey
    comparison.marketIdentityComparison

/-- Both sides are there and differ, or only one side is there. -/
def isInventoryMismatch (status : InternalDerivativeComparisonStatus) : Bool :=
  decide (status = .mismatched) || decide (status = .internalOnly) ||
    decide (status = .externalOnly)

def positionMismatch (comparison : VenueDerivativePositionComparison) : FindingInput :=
  let venueId := check.venue.venueId
  let key := comparison.comparisonKey
  check.finding "drift_position_mismatch" s!"{venueId}:{key}"
    (isInventoryMismatch comparison.status)
    (if comparison.status = .matched then "low"
      else if comparison.status = .mismatched then "high" else "medium")
    "derivative_position" key
    (s!"Internal derivative position {key} on {venueId} does not match external venue-native " ++
      "truth.")
    s!"Internal derivative position {key} on {venueId} matches external venue-native truth."
    (spreadOr records.internalPosition comparison.internalPosition)
    (spreadOr records.externalPosition comparison.externalPosition)
    [("quantityDelta", Value.ofOption (comparison.quantityDelta.map records.amount)),
      ("status", .str comparison.status.text)]
    [("notes", texts comparison.notes)]

def orderMismatch (comparison : VenueDerivativeOrderComparison) : FindingInput :=
  let venueId := check.venue.venueId
  let key := comparison.comparisonKey
  check.finding "drift_order_inventory_mismatch" s!"{venueId}:{key}"
    (isInventoryMismatch comparison.status)
    (if comparison.status = .matched then "low" else "medium") "derivative_order" key
    (s!"Internal open-order inventory for {key} on {venueId} does not match external " ++
      "venue-native truth.")
    (s!"Internal open-order inventory for {key} on {venueId} matches external venue-native " ++
      "truth.")
    (spreadOr records.internalOrder comparison.internalOrder)
    (spreadOr records.externalOrder comparison.externalOrder)
    [("remainingSizeDelta", Value.ofOption (comparison.remainingSizeDelta.map records.amount)),
      ("status", .str comparison.status.text)]
    [("notes", texts comparison.notes)]

/-- The checks of a venue in the order of the engine. -/
def inputs : List FindingInput :=
  [check.staleInternalState records, check.comparisonGap records,
    check.subaccountMismatch records, check.partialHealthComparison records,
    check.partialMarketIdentityComparison records, check.healthMismatch records] ++
  (check.detail.positionComparisons.flatMap fun comparison =>
    [check.positionIdentityGap records comparison,
      check.positionMarketIdentityMismatch records comparison,
      check.positionMismatch records comparison]) ++
  check.detail.orderComparisons.flatMap fun comparison =>
    [check.orderMarketIdentityMismatch records comparison, check.orderMismatch records comparison]

end VenueCheck

/-! ## The detection -/

/-- What a run reads: the venues, their comparison details, the latest order or fill of each, and
the mismatches that earlier runs have left. -/
structure DerivativeReads where
  venues : List DerivativeVenue
  getVenueComparisonDetail : String → Option VenueDerivativeComparisonDetail
  getInternalDerivativeSourceWatermark : String → Option Date
  db : Database

structure DetectionRun where
  sourceComponent : String
  detectedAt : Date
  activeRealVenueIds : List String

namespace DerivativeReads

variable (records : ViewRecords) (reads : DerivativeReads) (run : DetectionRun)

def comparedVenues : List DerivativeVenue :=
  reads.venues.filter fun venue =>
    (run.activeRealVenueIds.isEmpty || decide (venue.venueId ∈ run.activeRealVenueIds)) &&
      decide (venue.truthMode = .real) && decide (venue.truthProfile = .derivativeAware)

def checks : List VenueCheck :=
  (reads.comparedVenues run).filterMap fun venue =>
    (reads.getVenueComparisonDetail venue.venueId).map fun detail =>
      { venue
        detail
        sourceWatermark := reads.getInternalDerivativeSourceWatermark venue.venueId
        sourceComponent := run.sourceComponent
        detectedAt := run.detectedAt }

def findingInputs : List FindingInput :=
  (reads.checks run).flatMap fun check => check.inputs records

def detectDerivativeComparisonFindings : List ReconciliationCandidateFinding :=
  (reads.findingInputs records run).filterMap fun input =>
    toCandidateFinding (reads.db.getMismatchByDedupeKey (mismatchDedupeKey input.dedupeKey)) input

end DerivativeReads

theorem toCandidateFinding_eq_some {mismatch : Option RuntimeMismatch} {input : FindingInput}
    {finding : ReconciliationCandidateFinding}
    (h : toCandidateFinding mismatch input = some finding) :
    finding.dedupeKey = input.dedupeKey ∧ finding.findingType = input.findingType ∧
      finding.venueId = input.venueId ∧
      finding.status = if input.active then .active else .resolved := by
  simp only [toCandidateFinding, Option.ite_none_left_eq_some, Option.some.injEq] at h
  obtain ⟨-, rfl⟩ := h
  exact ⟨rfl, rfl, rfl, rfl⟩

theorem toCandidateFinding_isSome (mismatch : Option RuntimeMismatch) (input : FindingInput) :
    (toCandidateFinding mismatch input).isSome ↔
      (input.active = false → ∃ row, mismatch = some row ∧ row.status ≠ .verified) := by
  cases hactive : input.active with
  | true => simp [toCandidateFinding, hactive]
  | false =>
    cases mismatch with
    | none => simp [toCandidateFinding, hactive]
    | some row =>
      by_cases hverified : row.status = .verified
      all_goals simp [toCandidateFinding, hactive, hverified]

/-! ## The bands of health -/

theorem healthCoverage_ne_available (available : Bool)
    (internalState : Option InternalDerivativeSnapshot)
    (externalSnapshot : Option VenueSnapshotView) :
    (healthCoverage available (healthComparison internalState externalSnapshot)).status ≠
      .available := by
  unfold healthCoverage
  split_ifs with _ hmode hcomparable
  · simp
  · simp
  · rcases compareHealthStates_mode (internalState.bind fun s => s.healthState)
      (externalSnapshot.bind fun s => s.derivativeHealthState) with h | h
    · exact absurd h hmode
    · exact absurd hcomparable (Bool.eq_false_iff.1 h)
  · simp

def SurfacesHealthMismatch (findings : List ReconciliationCandidateFinding) (venueId : String) :
    Prop :=
  ∃ finding ∈ findings, finding.findingType = "drift_health_state_mismatch" ∧
    finding.status = .active ∧ finding.venueId = some venueId

theorem VenueCheck.eq_healthMismatch {records : ViewRecords} {check : VenueCheck}
    {input : FindingInput} (hinput : input ∈ check.inputs records)
    (htype : input.findingType = "drift_health_state_mismatch") :
    input = check.healthMismatch records := by
  simp only [VenueCheck.inputs, List.mem_append, List.mem_cons, List.not_mem_nil, or_false,
    List.mem_flatMap] at hinput
  rcases hinput with ((rfl | rfl | rfl | rfl | rfl | rfl) | ⟨c, -, rfl | rfl | rfl⟩) |
    ⟨c, -, rfl | rfl⟩
  case inl.inl.inr.inr.inr.inr.inr => rfl
  all_goals
    simp [VenueCheck.staleInternalState, VenueCheck.comparisonGap, VenueCheck.subaccountMismatch,
      VenueCheck.partialHealthComparison, VenueCheck.partialMarketIdentityComparison,
      VenueCheck.positionIdentityGap, VenueCheck.positionMarketIdentityMismatch,
      VenueCheck.orderMarketIdentityMismatch, VenueCheck.marketIdentityMismatch,
      VenueCheck.positionMismatch, VenueCheck.orderMismatch, VenueCheck.finding] at htype

/-- The store builds each detail from the internal state and the latest snapshot of the venue. -/
def DerivativeReads.comparing (reads : DerivativeReads) (orders : TextOrders)
    (inputs : String → Option ComparisonInput) : DerivativeReads :=
  { reads with
    getVenueComparisonDetail := fun venueId =>
      (inputs venueId).map (buildVenueDerivativeComparisonDetail orders) }

/-- Whatever the snapshots say, no mismatch of health is surfaced: a comparison of bands is never
full coverage, and nothing else is compared. -/
theorem health_mismatch_never_active (records : ViewRecords) (orders : TextOrders)
    (reads : DerivativeReads) (inputs : String → Option ComparisonInput) (run : DetectionRun)
    (venueId : String) :
    ¬ SurfacesHealthMismatch
      ((reads.comparing orders inputs).detectDerivativeComparisonFindings records run) venueId := by
  rintro ⟨finding, hfinding, htype, hstatus, -⟩
  obtain ⟨input, hinput, hcandidate⟩ := List.mem_filterMap.1 hfinding
  obtain ⟨check, hcheck, hinput⟩ := List.mem_flatMap.1 hinput
  obtain ⟨venue, -, hvenue⟩ := List.mem_filterMap.1 hcheck
  obtain ⟨detail, hdetail, rfl⟩ := Option.map_eq_some_iff.1 hvenue
  obtain ⟨comparison, -, rfl⟩ := Option.map_eq_some_iff.1 hdetail
  obtain ⟨-, htype', -, hstatus'⟩ := toCandidateFinding_eq_some hcandidate
  obtain rfl := VenueCheck.eq_healthMismatch hinput (htype'.symm.trans htype)
  have hactive : (decide ((buildVenueDerivativeComparisonDetail orders
      comparison).summary.healthState.status = .available)) = false :=
    decide_eq_false (healthCoverage_ne_available _ _ _)
  rw [hstatus] at hstatus'
  simp [VenueCheck.healthMismatch, VenueCheck.finding, hactive] at hstatus'

/-! ## A degraded venue -/

/-- Both sides know the band of the venue's health, with available truth, and differ. -/
structure HealthDisagrees (input : ComparisonInput) : Prop where
  available : externallyAvailable input.externalSnapshot (fun c => c.derivativeHealthState) = true
  bands : ∃ internalHealth externalHealth,
    (input.internalState.bind fun s => s.healthState) = some internalHealth ∧
      (input.externalSnapshot.bind fun s => s.derivativeHealthState) = some externalHealth ∧
      internalHealth.healthStatus ≠ .unknown ∧ externalHealth.healthStatus ≠ .unknown ∧
      internalHealth.healthStatus ≠ externalHealth.healthStatus

def plainRecords : ViewRecords where
  time _ := ""
  amount _ := ""
  summary _ := []
  internalAccount _ := []
  externalAccount _ := []
  internalHealth _ := []
  externalHealth _ := []
  healthField _ := []
  internalIdentity _ := []
  externalIdentity _ := []
  normalizedIdentity _ := []
  internalPosition _ := []
  externalPosition _ := []
  internalOrder _ := []
  externalOrder _ := []

def emptyStore : Database where
  commands := []
  mismatches := []
  remediations := []
  events := []
  bundleRecoveryActions := []
  runtimeStatus := { halted := false, lifecycleState := .ready }
  workerStatus := {}
  nextId := 0

def availableTruth : VenueTruthCoverage where
  derivativeAccountState := .available
  derivativePositionState := .available
  derivativeHealthState := .available
  orderState := .available

def driftVenue : DerivativeVenue where
  venueId := "drift"
  venueName := "Drift"
  truthMode := .real
  truthProfile := .derivativeAware
  truthCoverage := availableTruth

def healthyInput : InternalDerivativeState.BuildInternalDerivativeSnapshotInput where
  venue := { venueId := "drift", venueName := "Drift", accountAddress := some "a" }
  orders := []
  fills := []
  portfolioSummary := some
    { totalNav := 1000
      grossExposure := 0
      netExposure := 0
      liquidityReserve := 1000
      venueExposures := OrderedMap.empty }
  riskSummary := some
    { grossExposurePct := 0
      netExposurePct := 0
      leverage := 0
      liquidityReservePct := 100
      dailyDrawdownPct := 0
      weeklyDrawdownPct := 0
      portfolioDrawdownPct := 0
      openCircuitBreakers := []
      riskLevel := .normal }
  capturedAt := 0
  sourceComponent := "runtime"

def equalityOrders : TextOrders where
  localeLe a b := decide (a = b)
  sortLe a b := decide (a = b)

/-- The venue says that the account may be liquidated. -/
def healthyOrNot : ComparisonInput where
  venueId := "drift"
  venueName := "Drift"
  internalState := some
    (InternalDerivativeState.buildInternalDerivativeSnapshot (fun _ _ => true) healthyInput)
  externalSnapshot := some
    { capturedAt := 0
      truthCoverage := availableTruth
      derivativeAccountState := some
        { accountAddress := some "a", authorityAddress := none, subaccountId := none }
      derivativePositionState := some []
      derivativeHealthState := some { healthStatus := .liquidationRisk }
      orderState := some [] }
  activeFindings := []

def driftReads : DerivativeReads where
  venues := [driftVenue]
  getVenueComparisonDetail _ := none
  getInternalDerivativeSourceWatermark _ := none
  db := emptyStore

def sampleRun : DetectionRun where
  sourceComponent := "reconciliation"
  detectedAt := 0
  activeRealVenueIds := ["drift"]

/-- Only the partial coverage is reported. -/
theorem health_mismatch_not_surfaced :
    let findings := (driftReads.comparing equalityOrders
      fun _ => some healthyOrNot).detectDerivativeComparisonFindings plainRecords sampleRun
    driftVenue ∈ driftReads.comparedVenues sampleRun ∧ HealthDisagrees healthyOrNot ∧
    (findings.map fun finding => finding.findingType) =
      ["drift_truth_comparison_gap", "drift_partial_health_comparison"] ∧
    ¬ SurfacesHealthMismatch findings "drift" := by
  have htypes : (((driftReads.comparing equalityOrders
      fun _ => some healthyOrNot).detectDerivativeComparisonFindings plainRecords sampleRun).map
        fun finding => finding.findingType) =
      ["drift_truth_comparison_gap", "drift_partial_health_comparison"] := by
    decide +kernel
  refine ⟨?_, ⟨by decide +kernel, _, _, rfl, rfl, ?_⟩, htypes, ?_⟩
  · exact List.mem_filter.2 ⟨List.mem_singleton_self _, by decide +kernel⟩
  · decide +kernel
  · rintro ⟨finding, hfinding, htype, -⟩
    have hmem := List.mem_map_of_mem (f := fun f : ReconciliationCandidateFinding => f.findingType)
      hfinding
    rw [htypes, htype] at hmem
    exact absurd hmem (by decide)

end SentinelApex.Runtime
