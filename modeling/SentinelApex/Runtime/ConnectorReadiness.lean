import Mathlib.Data.List.TakeWhile
import SentinelApex.Domain.Actions
import SentinelApex.Runtime.PostTradeConfirmation

/-!
# Readiness of a connector

What the latest snapshot of a venue says for and against live use of its connector. The evidence is
computed on every read, and the promotion of the connector is summarised together with it.
-/

namespace SentinelApex

open PostTradeConfirmation (PostTradeConfirmationEvidence PostTradeConfirmationStatus)

/-! ## Data -/

inductive VenueTruthMode where
  | simulated
  | real
  deriving DecidableEq

inductive VenueHealthState where
  | healthy
  | degraded
  | unavailable
  deriving DecidableEq

def VenueHealthState.text : VenueHealthState → String
  | .healthy => "healthy"
  | .degraded => "degraded"
  | .unavailable => "unavailable"

inductive VenueSnapshotFreshness where
  | fresh
  | stale
  | missing
  deriving DecidableEq

inductive SnapshotCompleteness where
  | complete
  | incomplete
  | minimal
  deriving DecidableEq

def SnapshotCompleteness.text : SnapshotCompleteness → String
  | .complete => "complete"
  | .incomplete => "partial"
  | .minimal => "minimal"

inductive CoverageStatus where
  | available
  | incomplete
  | unsupported
  deriving DecidableEq

/-- A row of the venue snapshots, with the parts of its payload that the readiness reads. -/
structure VenueConnectorSnapshotRow where
  venueId : String
  venueName : String
  connectorType : String
  sleeveApplicability : List String
  truthMode : VenueTruthMode
  readOnlySupport : Bool
  executionSupport : Bool
  missingPrerequisites : List String
  healthy : Bool
  healthState : VenueHealthState
  degradedReason : Option String
  snapshotSuccessful : Bool
  snapshotCompleteness : SnapshotCompleteness
  truthCoverage : List CoverageStatus
  executionConfirmationState : Option PostTradeConfirmationEvidence
  metadata : List (String × Json)
  capturedAt : Date

structure VenueInventoryCore extends VenueConnectorSnapshotRow where
  snapshotFreshness : VenueSnapshotFreshness
  lastSuccessfulSnapshotAt : Option Date

inductive ConnectorCapabilityClass where
  | simulated_only
  | real_readonly
  | execution_capable
  deriving DecidableEq

def ConnectorCapabilityClass.text : ConnectorCapabilityClass → String
  | .simulated_only => "simulated_only"
  | .real_readonly => "real_readonly"
  | .execution_capable => "execution_capable"

inductive ReadOnlyValidationState where
  | not_applicable
  | complete
  | incomplete
  | insufficient
  deriving DecidableEq

def ReadOnlyValidationState.text : ReadOnlyValidationState → String
  | .not_applicable => "not_applicable"
  | .complete => "complete"
  | .incomplete => "partial"
  | .insufficient => "insufficient"

structure ConfigReadinessMarker where
  key : String
  ready : Bool
  summary : String

structure ConnectorReadinessEvidence where
  venueId : String
  venueName : String
  connectorType : String
  sleeveApplicability : List String
  truthMode : VenueTruthMode
  capabilityClass : ConnectorCapabilityClass
  executionSupport : Bool
  readOnlySupport : Bool
  snapshotFreshness : VenueSnapshotFreshness
  snapshotCompleteness : SnapshotCompleteness
  healthy : Bool
  healthState : VenueHealthState
  degradedReason : Option String
  lastSnapshotAt : Date
  lastSuccessfulSnapshotAt : Option Date
  truthCoverageAvailableCount : ℕ
  truthCoveragePartialCount : ℕ
  truthCoverageUnsupportedCount : ℕ
  readOnlyValidationState : ReadOnlyValidationState
  configReadiness : List ConfigReadinessMarker
  missingPrerequisites : List String
  blockingReasons : List String
  eligibleForPromotion : Bool
  postTradeConfirmation : PostTradeConfirmationEvidence

/-! ## Evidence -/

def venueSnapshotStaleAfterMs : ℤ := 15 * 60 * 1000

def classifyVenueSnapshotFreshness (capturedAt now : Date) : VenueSnapshotFreshness :=
  if venueSnapshotStaleAfterMs < now - capturedAt then .stale else .fresh

def inferConnectorCapabilityClass (truthMode : VenueTruthMode) (executionSupport : Bool) :
    ConnectorCapabilityClass :=
  if truthMode = .simulated then .simulated_only
  else if !executionSupport then .real_readonly
  else .execution_capable

def inferReadOnlyValidationState (truthMode : VenueTruthMode)
    (snapshotFreshness : VenueSnapshotFreshness) (snapshotCompleteness : SnapshotCompleteness)
    (healthState : VenueHealthState) : ReadOnlyValidationState :=
  if truthMode = .simulated then .not_applicable
  else if snapshotFreshness = .fresh ∧ healthState = .healthy ∧
      snapshotCompleteness = .complete then .complete
  else if snapshotFreshness = .fresh ∧ healthState ≠ .unavailable ∧
      snapshotCompleteness ≠ .minimal then .incomplete
  else .insufficient

def countCoverageStatuses (coverage : List CoverageStatus) (status : CoverageStatus) : ℕ :=
  coverage.countP fun item => decide (item = status)

/-- A blank between a small letter or a digit and a capital letter. -/
def splitCamelCase : List Char → List Char
  | a :: b :: rest =>
    if (('a' ≤ a ∧ a ≤ 'z') ∨ ('0' ≤ a ∧ a ≤ '9')) ∧ 'A' ≤ b ∧ b ≤ 'Z' then
      a :: ' ' :: splitCamelCase (b :: rest)
    else a :: splitCamelCase (b :: rest)
  | cs => cs

/-- One blank for every run of `_` and `-`. -/
def joinSeparators : Bool → List Char → List Char
  | _, [] => []
  | inRun, c :: rest =>
    if c = '_' ∨ c = '-' then
      if inRun then joinSeparators true rest else ' ' :: joinSeparators true rest
    else c :: joinSeparators false rest

/-- `toLowerCase`, and `localeCompare` as the order that it gives. -/
structure ReadinessPlatform where
  toLowerCase : String → String
  localeLe : String → String → Bool

def uniqueStrings (values : List String) : List String :=
  (values.filter fun value => decide (Json.trim value ≠ "")).eraseDups

def buildDefaultPostTradeConfirmationEvidence (evaluatedAt : String) :
    PostTradeConfirmationEvidence :=
  { status := .not_required
    summary := "No recent real execution references currently require post-trade confirmation."
    evaluatedAt }

/-- What the blockers are computed from. -/
structure EligibilityInput where
  capabilityClass : ConnectorCapabilityClass
  truthMode : VenueTruthMode
  snapshotFreshness : VenueSnapshotFreshness
  snapshotCompleteness : SnapshotCompleteness
  healthState : VenueHealthState
  healthy : Bool
  lastSuccessfulSnapshotAt : Option Date
  missingPrerequisites : List String
  readOnlyValidationState : ReadOnlyValidationState
  configReadiness : List ConfigReadinessMarker
  postTradeConfirmation : PostTradeConfirmationEvidence

def EligibilityInput.capabilityBlockers (input : EligibilityInput) : List String :=
  match input.capabilityClass with
  | .simulated_only => ["Connector is simulated only and cannot be promoted for live use."]
  | .real_readonly =>
    ["Connector remains read-only and does not provide execution capability."]
  | .execution_capable => []

def blockerIf (condition : Bool) (blocker : String) : List String :=
  if condition then [blocker] else []

def buildConnectorEligibilityBlockers (input : EligibilityInput) : List String :=
  uniqueStrings
    (input.missingPrerequisites ++ input.capabilityBlockers ++
      blockerIf (input.truthMode ≠ .real)
        "Connector does not currently expose real venue truth." ++
      blockerIf input.lastSuccessfulSnapshotAt.isNone
        "No successful venue-truth snapshot has been recorded." ++
      blockerIf (input.snapshotFreshness ≠ .fresh) "Latest venue-truth snapshot is stale." ++
      blockerIf (!input.healthy || input.healthState ≠ .healthy)
        s!"Connector health is {input.healthState.text}." ++
      blockerIf (input.snapshotCompleteness ≠ .complete)
        s!"Latest venue-truth snapshot completeness is {input.snapshotCompleteness.text}." ++
      blockerIf (input.readOnlyValidationState ≠ .complete)
        s!"Read-only validation is {input.readOnlyValidationState.text}." ++
      (input.configReadiness.filter fun marker => !marker.ready).map
        (fun marker => s!"{marker.summary} is not ready.") ++
      if input.capabilityClass = .execution_capable ∧ input.postTradeConfirmation.status = .blocked
      then input.postTradeConfirmation.blockingReasons else [])

section

variable (P : ReadinessPlatform)

def toSentenceCase (value : String) : String :=
  P.toLowerCase (String.ofList (joinSeparators false (splitCamelCase value.toList)))

def summariseBooleanKey (key : String) : String := s!"{toSentenceCase P key} marker"

def collectConnectorConfigReadinessMarkers (metadata : List (String × Json)) :
    List ConfigReadinessMarker :=
  let markers := metadata.filterMap fun entry =>
    match entry.2 with
    | .bool ready =>
      if entry.1.endsWith "Configured" || entry.1.endsWith "Enabled" then some (entry.1, ready)
      else none
    | _ => none
  (markers.insertionSort fun left right => P.localeLe left.1 right.1 = true).map fun marker =>
    { key := marker.1, ready := marker.2, summary := summariseBooleanKey P marker.1 }

/-- The text of a date is only used for evidence that is missing. -/
def buildConnectorReadinessEvidence (venue : VenueInventoryCore) : ConnectorReadinessEvidence :=
  let capabilityClass := inferConnectorCapabilityClass venue.truthMode venue.executionSupport
  let configReadiness := collectConnectorConfigReadinessMarkers P venue.metadata
  let postTradeConfirmation := venue.executionConfirmationState.getD
    (buildDefaultPostTradeConfirmationEvidence (toString venue.capturedAt))
  let readOnlyValidationState := inferReadOnlyValidationState venue.truthMode
    venue.snapshotFreshness venue.snapshotCompleteness venue.healthState
  let blockingReasons := buildConnectorEligibilityBlockers
    { capabilityClass
      truthMode := venue.truthMode
      snapshotFreshness := venue.snapshotFreshness
      snapshotCompleteness := venue.snapshotCompleteness
      healthState := venue.healthState
      healthy := venue.healthy
      lastSuccessfulSnapshotAt := venue.lastSuccessfulSnapshotAt
      missingPrerequisites := venue.missingPrerequisites
      readOnlyValidationState
      configReadiness
      postTradeConfirmation }
  { venueId := venue.venueId
    venueName := venue.venueName
    connectorType := venue.connectorType
    sleeveApplicability := venue.sleeveApplicability
    truthMode := venue.truthMode
    capabilityClass
    executionSupport := venue.executionSupport
    readOnlySupport := venue.readOnlySupport
    snapshotFreshness := venue.snapshotFreshness
    snapshotCompleteness := venue.snapshotCompleteness
    healthy := venue.healthy
    healthState := venue.healthState
    degradedReason := venue.degradedReason
    lastSnapshotAt := venue.capturedAt
    lastSuccessfulSnapshotAt := venue.lastSuccessfulSnapshotAt
    truthCoverageAvailableCount := countCoverageStatuses venue.truthCoverage .available
    truthCoveragePartialCount := countCoverageStatuses venue.truthCoverage .incomplete
    truthCoverageUnsupportedCount := countCoverageStatuses venue.truthCoverage .unsupported
    readOnlyValidationState
    configReadiness
    missingPrerequisites := venue.missingPrerequisites
    blockingReasons
    eligibleForPromotion :=
      decide (capabilityClass = .execution_capable) && blockingReasons.isEmpty
    postTradeConfirmation }

end

/-! ## Blank texts -/

/-- A text that no list of blockers keeps. -/
def Blank (value : String) : Prop := Json.trim value = ""

theorem blank_iff (value : String) : Blank value ↔ ∀ c ∈ value.toList, Json.isSpace c = true := by
  rw [Blank, Json.trim, ← String.toList_inj]
  simp only [String.toList_ofList, String.toList_empty, List.reverse_eq_nil_iff,
    List.dropWhile_eq_nil_iff, List.mem_reverse]
  constructor
  · intro h c hc
    by_contra hspace
    -- The first character that is no blank is left by both ends.
    have hne : value.toList.dropWhile Json.isSpace ≠ [] := by
      intro hnil
      exact hspace (List.dropWhile_eq_nil_iff.1 hnil c hc)
    have hhead := List.head_dropWhile_not Json.isSpace hne
    rw [h _ (List.head_mem hne)] at hhead
    cases hhead
  · intro h c hc
    exact h c (List.dropWhile_subset _ hc)

theorem not_blank_of_mem {value : String} {c : Char} (hc : c ∈ value.toList)
    (hspace : Json.isSpace c = false) : ¬ Blank value := by
  intro h
  rw [(blank_iff value).1 h c hc] at hspace
  cases hspace

theorem uniqueStrings_eq_nil_iff (values : List String) :
    uniqueStrings values = [] ↔ ∀ value ∈ values, Blank value := by
  rw [uniqueStrings, List.eq_nil_iff_forall_not_mem]
  simp only [List.mem_eraseDups, List.mem_filter, decide_eq_true_eq, not_and, not_not]
  exact Iff.rfl

/-! ## What an eligible connector has -/

/-- The latest snapshot of the venue stands for live use, at the time when it was read. -/
structure VenueInventoryCore.Ready (P : ReadinessPlatform) (venue : VenueInventoryCore) : Prop where
  real : venue.truthMode = .real
  executionSupport : venue.executionSupport = true
  fresh : venue.snapshotFreshness = .fresh
  succeeded : venue.lastSuccessfulSnapshotAt.isSome
  healthy : venue.healthy = true
  healthState : venue.healthState = .healthy
  complete : venue.snapshotCompleteness = .complete
  prerequisites : ∀ prerequisite ∈ venue.missingPrerequisites, Blank prerequisite
  configured : ∀ marker ∈ collectConnectorConfigReadinessMarkers P venue.metadata,
    marker.ready = true
  confirmed : ∀ evidence, venue.executionConfirmationState = some evidence →
    evidence.status = .blocked → ∀ reason ∈ evidence.blockingReasons, Blank reason

theorem forall_mem_blockerIf {condition : Bool} {blocker : String} (hblocker : ¬ Blank blocker) :
    (∀ value ∈ blockerIf condition blocker, Blank value) ↔ condition = false := by
  cases condition <;> simp [blockerIf, hblocker]

theorem inferConnectorCapabilityClass_eq_execution_capable_iff (truthMode : VenueTruthMode)
    (executionSupport : Bool) :
    inferConnectorCapabilityClass truthMode executionSupport = .execution_capable ↔
      truthMode = .real ∧ executionSupport = true := by
  cases truthMode <;> cases executionSupport <;> decide

theorem inferReadOnlyValidationState_eq_complete_iff (truthMode : VenueTruthMode)
    (snapshotFreshness : VenueSnapshotFreshness) (snapshotCompleteness : SnapshotCompleteness)
    (healthState : VenueHealthState) :
    inferReadOnlyValidationState truthMode snapshotFreshness snapshotCompleteness healthState =
        .complete ↔ truthMode = .real ∧ snapshotFreshness = .fresh ∧ healthState = .healthy ∧
      snapshotCompleteness = .complete := by
  cases truthMode <;> cases snapshotFreshness <;> cases snapshotCompleteness <;>
    cases healthState <;> decide

theorem Blank.of_append {left right : String} (h : Blank (left ++ right)) :
    Blank left ∧ Blank right := by
  simp only [blank_iff, String.toList_append, List.forall_mem_append] at h ⊢
  exact h

theorem forall_blank_capabilityBlockers_iff (input : EligibilityInput) :
    (∀ blocker ∈ input.capabilityBlockers, Blank blocker) ↔
      input.capabilityClass = .execution_capable := by
  unfold EligibilityInput.capabilityBlockers
  cases input.capabilityClass with
  | simulated_only =>
    have hblank : ¬ Blank "Connector is simulated only and cannot be promoted for live use." :=
      not_blank_of_mem (c := 'C') (by decide) (by decide)
    simp [hblank]
  | real_readonly =>
    have hblank : ¬ Blank "Connector remains read-only and does not provide execution capability."
      := not_blank_of_mem (c := 'C') (by decide) (by decide)
    simp [hblank]
  | execution_capable => simp

theorem forall_blank_markerBlockers_iff (markers : List ConfigReadinessMarker) :
    (∀ blocker ∈ (markers.filter fun marker => !marker.ready).map
        (fun marker => s!"{marker.summary} is not ready."), Blank blocker) ↔
      ∀ marker ∈ markers, marker.ready = true := by
  have hblank : ∀ summary : String, ¬ Blank s!"{summary} is not ready." := by
    intro summary h
    have hsuffix : ¬ Blank " is not ready." := not_blank_of_mem (c := 'i') (by decide) (by decide)
    exact hsuffix h.of_append.2
  simp only [List.forall_mem_map, List.mem_filter, Bool.not_eq_true', hblank, and_imp]
  constructor
  · intro h marker hmarker
    by_contra hready
    exact h marker hmarker (Bool.eq_false_iff.2 hready)
  · intro h marker hmarker hready
    rw [h marker hmarker] at hready
    cases hready

theorem forall_blank_confirmationBlockers_iff (evidence : Option PostTradeConfirmationEvidence)
    (evaluatedAt : String) :
    (∀ blocker ∈ (if (evidence.getD
        (buildDefaultPostTradeConfirmationEvidence evaluatedAt)).status = .blocked then
      (evidence.getD (buildDefaultPostTradeConfirmationEvidence evaluatedAt)).blockingReasons
      else []), Blank blocker) ↔
      ∀ found, evidence = some found → found.status = .blocked →
        ∀ reason ∈ found.blockingReasons, Blank reason := by
  cases evidence with
  | none => simp [buildDefaultPostTradeConfirmationEvidence]
  | some found =>
    simp only [Option.getD_some, Option.some.injEq, forall_eq']
    split_ifs with hblocked
    · simp [hblocked]
    · simp [hblocked]

theorem eligibleForPromotion_iff (P : ReadinessPlatform) (venue : VenueInventoryCore) :
    (buildConnectorReadinessEvidence P venue).eligibleForPromotion = true ↔ venue.Ready P := by
  have hreal : ¬ Blank "Connector does not currently expose real venue truth." :=
    not_blank_of_mem (c := 'C') (by decide) (by decide)
  have hsucceeded : ¬ Blank "No successful venue-truth snapshot has been recorded." :=
    not_blank_of_mem (c := 'N') (by decide) (by decide)
  have hfresh : ¬ Blank "Latest venue-truth snapshot is stale." :=
    not_blank_of_mem (c := 'L') (by decide) (by decide)
  have hdot : ∀ text : String, ¬ Blank (text ++ ".") := by
    intro text h
    exact not_blank_of_mem (c := '.') (by decide) (by decide) h.of_append.2
  have hhealth : ¬ Blank s!"Connector health is {venue.healthState.text}." := hdot _
  have hcomplete : ¬ Blank
      s!"Latest venue-truth snapshot completeness is {venue.snapshotCompleteness.text}." := hdot _
  have hvalidation : ∀ state : ReadOnlyValidationState,
      ¬ Blank s!"Read-only validation is {state.text}." := fun state => hdot _
  simp only [buildConnectorReadinessEvidence, Bool.and_eq_true, decide_eq_true_eq,
    List.isEmpty_iff, buildConnectorEligibilityBlockers, uniqueStrings_eq_nil_iff,
    List.forall_mem_append, inferConnectorCapabilityClass_eq_execution_capable_iff,
    forall_blank_capabilityBlockers_iff, forall_blank_markerBlockers_iff,
    forall_mem_blockerIf hreal, forall_mem_blockerIf hsucceeded, forall_mem_blockerIf hfresh,
    forall_mem_blockerIf hhealth, forall_mem_blockerIf hcomplete,
    forall_mem_blockerIf (hvalidation _)]
  simp only [decide_eq_false_iff_not, not_not, ne_eq, Bool.or_eq_false_iff, Bool.not_eq_false',
    Option.isNone_eq_false_iff, inferReadOnlyValidationState_eq_complete_iff]
  constructor
  · rintro ⟨⟨hreal, hexecution⟩, ⟨⟨⟨⟨⟨⟨⟨⟨⟨hmissing, -⟩, -⟩, hsucceeded⟩, hfresh⟩, hhealthy, hstate⟩,
      hcomplete⟩, -⟩, hconfigured⟩, hconfirmed⟩⟩
    simp only [hreal, hexecution, and_self, true_and, forall_blank_confirmationBlockers_iff]
      at hconfirmed
    exact ⟨hreal, hexecution, hfresh, hsucceeded, hhealthy, hstate, hcomplete, hmissing,
      hconfigured, hconfirmed⟩
  · rintro ⟨hreal, hexecution, hfresh, hsucceeded, hhealthy, hstate, hcomplete, hmissing,
      hconfigured, hconfirmed⟩
    refine ⟨⟨hreal, hexecution⟩, ⟨⟨⟨⟨⟨⟨⟨⟨⟨hmissing, hreal, hexecution⟩, hreal⟩, hsucceeded⟩, hfresh⟩,
      hhealthy, hstate⟩, hcomplete⟩, hreal, hfresh, hstate, hcomplete⟩, hconfigured⟩, ?_⟩⟩
    simp only [hreal, hexecution, and_self, true_and, forall_blank_confirmationBlockers_iff]
    exact hconfirmed

end SentinelApex
