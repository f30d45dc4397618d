import SentinelApex.Domain.Order
import Mathlib.Data.List.Sort

/-!
# Post-trade confirmation

Recent live executions of a venue are compared with the latest snapshot of the venue: the reference of
the execution, the events that were matched with it, and the change of the position. The position
before is the one that was read before the order was submitted; the one after is what was read before
the next execution of the group, or what the snapshot shows.
-/

namespace SentinelApex.PostTradeConfirmation

/-! ## Data -/

inductive PositionSide where
  | long
  | short
  | flat
  deriving DecidableEq

def PositionSide.text : PositionSide → String
  | .long => "long"
  | .short => "short"
  | .flat => "flat"

/-- The entry of the metadata, as it is stored; `none` is missing or of another type. -/
structure PreTradePositionRecord where
  captureStatus : Option String := none
  observedAt : Option String := none
  asset : Option String := none
  marketKey : Option String := none
  marketSymbol : Option String := none
  side : Option String := none
  size : Option Decimal := none
  reason : Option String := none

structure PreTradePositionContext where
  captured : Bool
  observedAt : String
  asset : String
  marketKey : Option String
  marketSymbol : Option String
  side : Option PositionSide
  size : Option Decimal
  reason : Option String

structure PositionReading where
  side : PositionSide
  size : Decimal
  deriving DecidableEq

structure PositionBoundaryContext extends PositionReading where
  marketKey : Option String
  marketSymbol : Option String

structure ConfirmationCandidate where
  stepId : String
  carryExecutionId : String
  carryActionId : String
  intentId : String
  venueId : String
  asset : String
  side : OrderSide
  requestedSize : Decimal
  reduceOnly : Bool
  clientOrderId : Option String
  executionReference : String
  metadata : PreTradePositionRecord
  createdAt : String
  updatedAt : String

inductive EventCorrelationStatus where
  | event_matched_strong
  | event_matched_probable
  | event_unmatched
  | conflicting_event
  deriving DecidableEq

structure VenueExecutionEventEvidence where
  correlationStatus : EventCorrelationStatus
  blockedReason : Option String
  fillBaseAssetAmount : Option Decimal
  deriving DecidableEq

inductive DerivativePositionSide where
  | long
  | short
  | flat
  | unknown
  deriving DecidableEq

structure DerivativePositionEntry where
  marketKey : Option String
  marketSymbol : Option String
  side : DerivativePositionSide
  baseAssetAmount : Option Decimal

structure ExecutionReferenceEntry where
  reference : String
  blockTime : Option String

/-- `none` is a part that the venue did not give. -/
structure VenueSnapshot where
  capturedAt : String
  positions : Option (List DerivativePositionEntry)
  references : Option (List ExecutionReferenceEntry)

inductive ConfirmationStatus where
  | confirmed_full
  | confirmed_partial
  | confirmed_partial_event_only
  | confirmed_partial_position_only
  | pending_event
  | pending_position_delta
  | conflicting_event
  | conflicting_event_vs_position
  | missing_reference
  | invalid_position_delta
  | insufficient_context
  deriving DecidableEq

inductive EvidenceBasis where
  | event_and_position
  | event_only
  | position_only
  | signature_only
  | conflicting
  | insufficient
  deriving DecidableEq

structure Confirmation where
  status : ConfirmationStatus
  evidenceBasis : EvidenceBasis
  summary : String
  evaluatedAt : String
  referenceObserved : Bool
  referenceObservedAt : Option String
  marketKey : Option String
  marketSymbol : Option String
  requestedSize : Decimal
  confirmedSize : Option Decimal
  remainingSize : Option Decimal
  preTradePositionSide : Option PositionSide
  preTradePositionSize : Option Decimal
  observedPositionSide : Option PositionSide
  observedPositionSize : Option Decimal
  eventEvidence : Option VenueExecutionEventEvidence
  blockedReason : Option String

/-- An evaluated candidate, with the patches of its step: `filledSizePatch` is present if
`statusPatch` is. -/
structure Evaluation where
  candidate : ConfirmationCandidate
  confirmation : Confirmation
  statusPatch : Option String
  filledSizePatch : Option Decimal

/-- `toUpperCase`, and `localeCompare` as the order that it gives. -/
structure TextPlatform where
  toUpperCase : String → String
  localeLe : String → String → Bool

def tolerance : Decimal := 1 / 10 ^ 9

/-! ## Readings -/

def marketValue (value : Option String) : Option String :=
  value.filter fun s => decide (s ≠ "")

def positionSideOf : Option String → Option PositionSide
  | some "long" => some .long
  | some "short" => some .short
  | some "flat" => some .flat
  | _ => none

def readPreTradePositionContext (metadata : PreTradePositionRecord) :
    Option PreTradePositionContext :=
  match metadata.captureStatus, metadata.observedAt with
  | some captureStatus, some observedAt => some
      { captured := captureStatus == "captured"
        observedAt
        asset := metadata.asset.getD ""
        marketKey := marketValue metadata.marketKey
        marketSymbol := marketValue metadata.marketSymbol
        side := positionSideOf metadata.side
        size := metadata.size
        reason := marketValue metadata.reason }
  | _, _ => none

def PreTradePositionContext.reading (context : PreTradePositionContext) : Option PositionReading :=
  match context.captured, context.side, context.size with
  | true, some side, some size => some { side, size }
  | _, _, _ => none

def positionSideFromOrderSide : OrderSide → PositionSide
  | .buy => .long
  | .sell => .short

def expectedPositionSideForOrder (side : OrderSide) (reduceOnly : Bool) : PositionSide :=
  if reduceOnly then
    match side with
    | .buy => .short
    | .sell => .long
  else positionSideFromOrderSide side

def positionExposureForSide (reading : PositionReading) (targetSide : PositionSide) : Decimal :=
  if reading.side ≠ targetSide then 0 else reading.size

def defaultPositionBoundary (context : PreTradePositionContext) : PositionBoundaryContext :=
  { side := .flat, size := 0, marketKey := context.marketKey, marketSymbol := context.marketSymbol }

def candidateGroupKey (candidate : ConfirmationCandidate) : String :=
  let context := readPreTradePositionContext candidate.metadata
  let side := match context.bind fun context => context.side with
    | some .long => PositionSide.long
    | some .short => PositionSide.short
    | _ => expectedPositionSideForOrder candidate.side candidate.reduceOnly
  ":".intercalate
    [candidate.venueId,
      (context.map fun context => context.asset).getD candidate.asset,
      ((context.bind fun context => context.marketKey).or
        (context.bind fun context => context.marketSymbol)).getD candidate.asset,
      side.text]

section

variable (P : TextPlatform)

/-- The market of the position is the context's one, or a market of its asset. -/
def matchesContext (context : PreTradePositionContext) (position : DerivativePositionEntry) : Bool :=
  (context.marketKey.isSome && position.marketKey == context.marketKey) ||
    (context.marketSymbol.isSome && position.marketSymbol == context.marketSymbol) ||
    position.marketSymbol.any fun symbol =>
      symbol.startsWith (P.toUpperCase (Json.trim context.asset) ++ "-")

def findSnapshotPositionBoundary (snapshot : VenueSnapshot) (context : PreTradePositionContext) :
    PositionBoundaryContext :=
  match (snapshot.positions.getD []).find? (matchesContext P context) with
  | none => defaultPositionBoundary context
  | some matchingPosition =>
    match matchingPosition.side, matchingPosition.baseAssetAmount with
    | .unknown, _ => defaultPositionBoundary context
    | _, none => defaultPositionBoundary context
    | side, some baseAssetAmount =>
      { side := match side with
          | .long => .long
          | .short => .short
          | _ => .flat
        size := Decimal.roundPlaces |baseAssetAmount| 9
        marketKey := matchingPosition.marketKey
        marketSymbol := matchingPosition.marketSymbol }

end

/-! ## Texts -/

def sizeText (size : Decimal) : String := (size.roundPlaces 9).toFixedAll

def describeRequestedPositionChange (candidate : ConfirmationCandidate) : String :=
  if candidate.reduceOnly then "position reduction"
  else s!"{(positionSideFromOrderSide candidate.side).text} exposure increase"

def describeExpectedExecutionSemantics (candidate : ConfirmationCandidate) : String :=
  if candidate.reduceOnly then "reduce-only BTC-PERP execution semantics"
  else s!"{(positionSideFromOrderSide candidate.side).text}-side BTC-PERP execution semantics"

def buildPostTradeConfirmationSummary (candidate : ConfirmationCandidate)
    (status : ConfirmationStatus) (confirmedSize : Option Decimal)
    (eventEvidence : Option VenueExecutionEventEvidence) : String :=
  let reference := candidate.executionReference
  let requestedSize := candidate.requestedSize.toFixedAll
  let confirmed := (confirmedSize.map Decimal.toFixedAll).getD "0"
  let requestedChange := describeRequestedPositionChange candidate
  match status with
  | .confirmed_full =>
    s!"Execution reference {reference} confirms the full requested {requestedSize} {requestedChange}."
  | ConfirmationStatus.confirmed_partial =>
    s!"Execution reference {reference} has attributed fill evidence and venue truth, but only " ++
      s!"{confirmed} of the requested {requestedSize} {requestedChange} is jointly confirmed."
  | .confirmed_partial_event_only =>
    match eventEvidence.bind fun evidence => evidence.fillBaseAssetAmount with
    | none =>
      s!"Execution reference {reference} has fill evidence, but venue position truth has not fully " ++
        s!"reflected the requested {requestedChange} yet."
    | some amount =>
      s!"Execution reference {reference} has fill evidence for {amount.toFixedAll}, but venue " ++
        s!"position truth has not fully reflected that {requestedChange} yet."
  | .confirmed_partial_position_only =>
    s!"Execution reference {reference} confirms {confirmed} of the requested {requestedSize} " ++
      s!"{requestedChange} in venue truth, but venue-native fill evidence is still missing or only " ++
      "probable."
  | .pending_event =>
    s!"Execution reference {reference} is present in venue truth, but a strong venue-native fill " ++
      "match has not been attributed yet."
  | .pending_position_delta =>
    s!"Execution reference {reference} has fill evidence, but the expected position delta is not " ++
      "yet visible in venue truth."
  | .conflicting_event =>
    s!"Execution reference {reference} has venue events that conflict with the expected " ++
      s!"{describeExpectedExecutionSemantics candidate}."
  | .conflicting_event_vs_position =>
    s!"Execution reference {reference} has event evidence that conflicts with the observed " ++
      "position delta."
  | .missing_reference =>
    s!"Execution reference {reference} is not present in the latest venue truth snapshot."
  | .invalid_position_delta =>
    s!"Execution reference {reference} was observed, but the latest venue position state does not " ++
      s!"reflect a safe {requestedChange}."
  | .insufficient_context =>
    s!"Execution reference {reference} cannot be confirmed because the required pre-trade position " ++
      "context was not persisted."

/-! ## One candidate -/

/-- What a branch decides; the other fields of the confirmation are the same in all branches. -/
structure Verdict where
  status : ConfirmationStatus
  evidenceBasis : EvidenceBasis
  confirmedSize : Option Decimal
  remainingSize : Decimal
  blockedReason : Option String

def buildCarryExecutionPostTradeConfirmation (candidate : ConfirmationCandidate) (verdict : Verdict)
    (evaluatedAt : String) (observedReference : Option ExecutionReferenceEntry)
    (context : Option PreTradePositionContext) (boundary : Option PositionBoundaryContext)
    (eventEvidence : Option VenueExecutionEventEvidence) : Confirmation :=
  let confirmedSize := verdict.confirmedSize.map fun size => size.roundPlaces 9
  { status := verdict.status
    evidenceBasis := verdict.evidenceBasis
    summary := buildPostTradeConfirmationSummary candidate verdict.status confirmedSize eventEvidence
    evaluatedAt
    referenceObserved := observedReference.isSome
    referenceObservedAt := observedReference.bind fun reference => reference.blockTime
    marketKey := (boundary.bind fun boundary => boundary.marketKey).or
      (context.bind fun context => context.marketKey)
    marketSymbol := (boundary.bind fun boundary => boundary.marketSymbol).or
      (context.bind fun context => context.marketSymbol)
    requestedSize := candidate.requestedSize
    confirmedSize
    remainingSize := some (verdict.remainingSize.roundPlaces 9)
    preTradePositionSide := context.bind fun context => context.side
    preTradePositionSize := context.bind fun context => context.size
    observedPositionSide := boundary.map fun boundary => boundary.side
    observedPositionSize := boundary.map fun boundary => boundary.size.roundPlaces 9
    eventEvidence
    blockedReason := verdict.blockedReason }

/-- The change of the position between two readings, as it bears on the candidate. -/
structure PositionChange where
  invalidDirection : Bool
  unsupportedStartingExposure : Bool
  increasedExposure : Bool
  reducedTargetExposure : Bool
  positionConfirmedSize : Decimal
  remainingSize : Decimal

def rawPositionChange (candidate : ConfirmationCandidate) (before after : PositionReading) : Decimal :=
  let targetSide := expectedPositionSideForOrder candidate.side candidate.reduceOnly
  if candidate.reduceOnly then max (before.size.minus after.size) 0
  else
    max ((positionExposureForSide after targetSide).minus
      (positionExposureForSide before targetSide)) 0

def positionChange (candidate : ConfirmationCandidate) (before after : PositionReading) :
    PositionChange :=
  let targetSide := expectedPositionSideForOrder candidate.side candidate.reduceOnly
  let requestedSize := candidate.requestedSize
  let positionConfirmedSize := max (min (rawPositionChange candidate before after) requestedSize) 0
  { invalidDirection :=
      if candidate.reduceOnly then after.side ≠ .flat && after.side ≠ before.side
      else after.side ≠ .flat && after.side ≠ targetSide
    unsupportedStartingExposure :=
      !candidate.reduceOnly && before.side ≠ .flat && before.side ≠ targetSide
    increasedExposure := candidate.reduceOnly && tolerance < after.size.minus before.size
    reducedTargetExposure := !candidate.reduceOnly &&
      tolerance < (positionExposureForSide before targetSide).minus
        (positionExposureForSide after targetSide)
    positionConfirmedSize
    remainingSize := max (requestedSize.minus positionConfirmedSize) 0 }

def PositionChange.refused (change : PositionChange) : Bool :=
  change.invalidDirection || change.increasedExposure || change.unsupportedStartingExposure ||
    change.reducedTargetExposure

/-- Why a position that changed the wrong way is refused. -/
def refusalReason (candidate : ConfirmationCandidate) (before after : PositionReading) : String :=
  let change := positionChange candidate before after
  let target := (expectedPositionSideForOrder candidate.side candidate.reduceOnly).text
  if change.unsupportedStartingExposure then
    s!"Pre-trade venue truth showed a {before.side.text} BTC-PERP position, but non-reduce-only " ++
      s!"confirmation currently only supports flat or {target} starting exposure."
  else if change.invalidDirection then
    if candidate.reduceOnly then
      "Latest venue truth shows a position-side flip after a reduce-only submission."
    else
      s!"Latest venue truth shows a {after.side.text} position after a {target} increase submission."
  else if change.increasedExposure then
    "Latest venue truth shows a larger position than was present before submission."
  else s!"Latest venue truth shows less {target} exposure than was present before submission."

def classify (candidate : ConfirmationCandidate) (before after : PositionReading)
    (eventEvidence : Option VenueExecutionEventEvidence) : Verdict :=
  let change := positionChange candidate before after
  let requestedSize := candidate.requestedSize
  let confirmed := change.positionConfirmedSize
  let correlationStatus := eventEvidence.map fun evidence => evidence.correlationStatus
  let hasStrongEventMatch := correlationStatus == some .event_matched_strong
  let hasProbableEventMatch := correlationStatus == some .event_matched_probable
  let expectedEventSize := match eventEvidence.bind fun evidence => evidence.fillBaseAssetAmount with
    | none => requestedSize
    | some eventFilledSize => max (min eventFilledSize requestedSize) 0
  if correlationStatus == some .conflicting_event then
    { status :=
        if tolerance < confirmed || change.refused then .conflicting_event_vs_position
        else .conflicting_event
      evidenceBasis := .conflicting
      confirmedSize := if tolerance < confirmed then some confirmed else none
      remainingSize := change.remainingSize
      blockedReason := (eventEvidence.bind fun evidence => evidence.blockedReason).or
        (some ("Venue events conflicted with the expected market, side, or " ++
          s!"{describeExpectedExecutionSemantics candidate}.")) }
  else if change.refused then
    { status :=
        if hasStrongEventMatch || hasProbableEventMatch then .conflicting_event_vs_position
        else .invalid_position_delta
      evidenceBasis :=
        if hasStrongEventMatch || hasProbableEventMatch then .conflicting else .signature_only
      confirmedSize := none
      remainingSize := requestedSize
      blockedReason := some (refusalReason candidate before after) }
  else if hasStrongEventMatch then
    if confirmed ≤ tolerance then
      { status := .pending_position_delta
        evidenceBasis := .event_only
        confirmedSize := none
        remainingSize := requestedSize
        blockedReason := some ("Strong fill evidence was attributed, but the expected " ++
          s!"{describeRequestedPositionChange candidate} is not yet reflected in venue truth.") }
    else if tolerance < expectedEventSize.minus confirmed then
      { status := .confirmed_partial_event_only
        evidenceBasis := .event_only
        confirmedSize := some confirmed
        remainingSize := change.remainingSize
        blockedReason := some (s!"Fill evidence reports {sizeText expectedEventSize} filled, but " ++
          s!"venue truth currently confirms only {sizeText confirmed}.") }
    else if change.remainingSize ≤ tolerance then
      { status := .confirmed_full
        evidenceBasis := .event_and_position
        confirmedSize := some requestedSize
        remainingSize := 0
        blockedReason := none }
    else
      { status := ConfirmationStatus.confirmed_partial
        evidenceBasis := .event_and_position
        confirmedSize := some confirmed
        remainingSize := change.remainingSize
        blockedReason := some (s!"Only {sizeText confirmed} of {requestedSize.toFixedAll} is " ++
          "jointly confirmed by fill evidence and venue truth for this " ++
          s!"{describeRequestedPositionChange candidate}.") }
  else if tolerance < confirmed then
    { status := .confirmed_partial_position_only
      evidenceBasis := .position_only
      confirmedSize := some confirmed
      remainingSize := change.remainingSize
      blockedReason := some
        (s!"Venue truth confirms {sizeText confirmed} of {requestedSize.toFixedAll}, but " ++
          if hasProbableEventMatch then
            "only probable lifecycle evidence is currently attributed."
          else "venue-native fill evidence is still missing.") }
  else
    { status := .pending_event
      evidenceBasis := .signature_only
      confirmedSize := none
      remainingSize := requestedSize
      blockedReason := some (if hasProbableEventMatch then
          "Execution reference is visible and a probable lifecycle event was observed, but a " ++
            "strong fill match is still required."
        else
          "Execution reference is visible, but venue-native fill evidence has not been " ++
            "attributed yet.") }

/-- The patch of the step. The size that an event reports counts up to the requested one. -/
def deriveConfirmationPatch (candidate : ConfirmationCandidate) (confirmation : Confirmation) :
    Option String × Option Decimal :=
  let bounded (size : Decimal) : Decimal := max (min size candidate.requestedSize) 0
  let observedFilledSize := [confirmation.confirmedSize,
      confirmation.eventEvidence.bind fun evidence => evidence.fillBaseAssetAmount].foldl
    (fun current value => match current, value with
      | current, none => current
      | none, some value => some (bounded value)
      | some current, some value => some (if current < bounded value then bounded value else current))
    none
  match confirmation.status with
  | .confirmed_full => (some "filled", some candidate.requestedSize)
  | ConfirmationStatus.confirmed_partial | .confirmed_partial_event_only
  | .confirmed_partial_position_only | .pending_position_delta =>
    match observedFilledSize with
    | none => (none, none)
    | some size => (some "partially_filled", some (size.roundPlaces 9))
  | _ => (none, none)

/-- The reading before the candidate, which a reduction needs to be of a position. -/
def readingBefore (candidate : ConfirmationCandidate) : Option PositionReading :=
  (readPreTradePositionContext candidate.metadata).bind fun context =>
    context.reading.filter fun reading => !candidate.reduceOnly || reading.side ≠ .flat

section

variable (P : TextPlatform) (snapshot : VenueSnapshot)

/-- The reading after a candidate: the one before the next candidate of its group, or the one of the
snapshot. -/
def boundaryAfter (context : PreTradePositionContext) :
    Option ConfirmationCandidate → Option PositionBoundaryContext
  | none => some (findSnapshotPositionBoundary P snapshot context)
  | some nextCandidate =>
    (readPreTradePositionContext nextCandidate.metadata).bind fun nextContext =>
      nextContext.reading.map fun reading =>
        { reading with
          marketKey := nextContext.marketKey
          marketSymbol := nextContext.marketSymbol }

/-- The last entry with the reference. -/
def observedReference (executionReference : String) : Option ExecutionReferenceEntry :=
  (snapshot.references.getD []).reverse.find? fun entry => entry.reference == executionReference

variable (eventEvidenceByStepId : String → Option VenueExecutionEventEvidence)

def evaluateCandidate (candidate : ConfirmationCandidate)
    (nextCandidate : Option ConfirmationCandidate) : Evaluation :=
  let eventEvidence := eventEvidenceByStepId candidate.stepId
  let context := readPreTradePositionContext candidate.metadata
  let reference := observedReference snapshot candidate.executionReference
  let build := fun verdict boundary =>
    buildCarryExecutionPostTradeConfirmation candidate verdict snapshot.capturedAt reference context
      boundary eventEvidence
  match context, readingBefore candidate with
  | some context, some before =>
    match reference, boundaryAfter P snapshot context nextCandidate with
    | none, _ =>
      { candidate
        confirmation := build
          { status := .missing_reference
            evidenceBasis := if eventEvidence.isNone then .signature_only else .insufficient
            confirmedSize := none
            remainingSize := candidate.requestedSize
            blockedReason := some ("The latest venue truth snapshot does not include the " ++
              "submitted execution reference.") } none
        statusPatch := none
        filledSizePatch := none }
    | some _, none =>
      { candidate
        confirmation := build
          { status := .insufficient_context
            evidenceBasis := .insufficient
            confirmedSize := none
            remainingSize := candidate.requestedSize
            blockedReason := some ("A later carry execution did not persist its own pre-trade " ++
              "position boundary, so this delta cannot be attributed safely.") } none
        statusPatch := none
        filledSizePatch := none }
    | some _, some boundary =>
      let confirmation := build
        (classify candidate before boundary.toPositionReading eventEvidence) (some boundary)
      let patch := deriveConfirmationPatch candidate confirmation
      { candidate, confirmation, statusPatch := patch.1, filledSizePatch := patch.2 }
  | context, _ =>
    { candidate
      confirmation := build
        { status := .insufficient_context
          evidenceBasis := .insufficient
          confirmedSize := none
          remainingSize := candidate.requestedSize
          blockedReason := some ((context.bind fun context => context.reason).getD
            "Pre-trade position context was unavailable.") } none
      statusPatch := none
      filledSizePatch := none }

def evaluatePostTradeConfirmationGroup : List ConfirmationCandidate → List Evaluation
  | [] => []
  | candidate :: rest =>
    evaluateCandidate P snapshot eventEvidenceByStepId candidate rest.head? ::
      evaluatePostTradeConfirmationGroup rest

end

/-! ## The evidence -/

inductive PostTradeConfirmationStatus where
  | not_required
  | confirmed
  | blocked
  deriving DecidableEq

structure PostTradeConfirmationEntry where
  confirmation : Confirmation
  stepId : String
  carryExecutionId : String
  carryActionId : String
  intentId : String
  clientOrderId : Option String
  executionReference : String
  venueId : String

structure PostTradeConfirmationEvidence where
  status : PostTradeConfirmationStatus
  summary : String
  evaluatedAt : String
  recentExecutionCount : ℕ := 0
  confirmedFullCount : ℕ := 0
  confirmedPartialCount : ℕ := 0
  confirmedPartialEventOnlyCount : ℕ := 0
  confirmedPartialPositionOnlyCount : ℕ := 0
  pendingCount : ℕ := 0
  pendingEventCount : ℕ := 0
  pendingPositionDeltaCount : ℕ := 0
  conflictingEventCount : ℕ := 0
  conflictingEventVsPositionCount : ℕ := 0
  missingReferenceCount : ℕ := 0
  invalidCount : ℕ := 0
  insufficientContextCount : ℕ := 0
  latestConfirmedAt : Option String := none
  blockingReasons : List String := []
  entries : List PostTradeConfirmationEntry := []

def countConfirmationEntries (entries : List PostTradeConfirmationEntry)
    (statuses : List ConfirmationStatus) : ℕ :=
  (entries.filter fun entry => decide (entry.confirmation.status ∈ statuses)).length

def groupCandidates (candidates : List ConfirmationCandidate) :
    OrderedMap String (List ConfirmationCandidate) :=
  candidates.foldl
    (fun groups candidate =>
      let groupKey := candidateGroupKey candidate
      groups.set groupKey ((groups.get? groupKey).getD [] ++ [candidate]))
    OrderedMap.empty

def Evaluation.entry (evaluation : Evaluation) : PostTradeConfirmationEntry :=
  { confirmation := evaluation.confirmation
    stepId := evaluation.candidate.stepId
    carryExecutionId := evaluation.candidate.carryExecutionId
    carryActionId := evaluation.candidate.carryActionId
    intentId := evaluation.candidate.intentId
    clientOrderId := evaluation.candidate.clientOrderId
    executionReference := evaluation.candidate.executionReference
    venueId := evaluation.candidate.venueId }

section

variable (P : TextPlatform) (snapshot : VenueSnapshot)
  (eventEvidenceByStepId : String → Option VenueExecutionEventEvidence)

def evaluateGroups (candidates : List ConfirmationCandidate) : List Evaluation :=
  ((groupCandidates candidates).values.flatMap
      (evaluatePostTradeConfirmationGroup P snapshot eventEvidenceByStepId)).insertionSort
    fun left right => P.localeLe left.candidate.createdAt right.candidate.createdAt = true

def evaluatePostTradeConfirmation (candidates : List ConfirmationCandidate) :
    PostTradeConfirmationEvidence × List Evaluation :=
  if candidates.length = 0 then
    ({ status := .not_required
       summary := "No recent real execution references currently require post-trade confirmation."
       evaluatedAt := snapshot.capturedAt }, [])
  else
    let evaluations := evaluateGroups P snapshot eventEvidenceByStepId candidates
    let entries := evaluations.map Evaluation.entry
    let confirmedEntries := entries.filter fun entry => entry.confirmation.status == .confirmed_full
    let blockingEntries := entries.filter fun entry => entry.confirmation.status != .confirmed_full
    ({ status := if blockingEntries.length = 0 then .confirmed else .blocked
       summary :=
        if blockingEntries.length = 0 then
          s!"All {entries.length} recent real execution reference(s) are fully confirmed by event " ++
            "evidence and venue truth."
        else
          s!"{blockingEntries.length} of {entries.length} recent real execution reference(s) still " ++
            "require operator review before the connector is considered execution-ready."
       evaluatedAt := snapshot.capturedAt
       recentExecutionCount := entries.length
       confirmedFullCount := countConfirmationEntries entries [.confirmed_full]
       confirmedPartialCount := countConfirmationEntries entries
        [ ConfirmationStatus.confirmed_partial, .confirmed_partial_event_only,
          .confirmed_partial_position_only]
       confirmedPartialEventOnlyCount :=
        countConfirmationEntries entries [.confirmed_partial_event_only]
       confirmedPartialPositionOnlyCount :=
        countConfirmationEntries entries [.confirmed_partial_position_only]
       pendingCount := countConfirmationEntries entries [.pending_event, .pending_position_delta]
       pendingEventCount := countConfirmationEntries entries [.pending_event]
       pendingPositionDeltaCount := countConfirmationEntries entries [.pending_position_delta]
       conflictingEventCount := countConfirmationEntries entries [.conflicting_event]
       conflictingEventVsPositionCount :=
        countConfirmationEntries entries [.conflicting_event_vs_position]
       missingReferenceCount := countConfirmationEntries entries [.missing_reference]
       invalidCount := countConfirmationEntries entries [.invalid_position_delta]
       insufficientContextCount := countConfirmationEntries entries [.insufficient_context]
       latestConfirmedAt :=
        confirmedEntries.getLast?.bind fun entry => entry.confirmation.referenceObservedAt
       blockingReasons := blockingEntries.map fun entry =>
        entry.confirmation.blockedReason.getD entry.confirmation.summary
       entries }, evaluations)

end

end SentinelApex.PostTradeConfirmation
