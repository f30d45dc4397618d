import SentinelApex.Lib.Grouping
import SentinelApex.Runtime.PostTradeConfirmation

/-!
# What a confirmation rests on

A candidate that is confirmed in full has its reference in the snapshot, a strong match with an
event and a reading of the position before it, and the position after it changed by the requested
size at least.

The evidence is confirmed if and only if there are entries and all of them are confirmed in full, and
every entry is counted once (`evaluatePostTradeConfirmation_sound`).
-/

namespace SentinelApex.PostTradeConfirmation

variable {eventEvidence : Option VenueExecutionEventEvidence} {before after : PositionReading}
  {candidate : ConfirmationCandidate} {context : PreTradePositionContext}

section

variable (P : TextPlatform) (snapshot : VenueSnapshot)
  (eventEvidenceByStepId : String → Option VenueExecutionEventEvidence)

/-! ## Evaluations of a list -/

def nextInGroup (candidate : ConfirmationCandidate) (rest : List ConfirmationCandidate) :
    Option ConfirmationCandidate :=
  Grouping.nextOf candidateGroupKey candidate rest

theorem evaluatePostTradeConfirmationGroup_eq (group : List ConfirmationCandidate) :
    evaluatePostTradeConfirmationGroup P snapshot eventEvidenceByStepId group =
      Grouping.withNext (evaluateCandidate P snapshot eventEvidenceByStepId) group := by
  induction group with
  | nil => rfl
  | cons candidate rest ih => rw [evaluatePostTradeConfirmationGroup, ih, Grouping.withNext]

variable (candidates : List ConfirmationCandidate)

theorem evaluateGroups_perm :
    (evaluateGroups P snapshot eventEvidenceByStepId candidates).Perm
      (Grouping.withNextOf candidateGroupKey (evaluateCandidate P snapshot eventEvidenceByStepId)
        candidates) := by
  refine (List.perm_insertionSort _ _).trans ?_
  have hgroups : evaluatePostTradeConfirmationGroup P snapshot eventEvidenceByStepId =
      Grouping.withNext (evaluateCandidate P snapshot eventEvidenceByStepId) :=
    funext (evaluatePostTradeConfirmationGroup_eq P snapshot eventEvidenceByStepId)
  rw [hgroups]
  exact Grouping.flatMap_withNext_perm _ candidates

theorem evaluations_perm :
    (evaluatePostTradeConfirmation P snapshot eventEvidenceByStepId candidates).2.Perm
      (Grouping.withNextOf candidateGroupKey (evaluateCandidate P snapshot eventEvidenceByStepId)
        candidates) := by
  rw [evaluatePostTradeConfirmation]
  split_ifs with hempty
  · rw [List.length_eq_zero_iff.1 hempty]
    exact List.Perm.refl _
  · exact evaluateGroups_perm P snapshot eventEvidenceByStepId candidates

theorem mem_evaluations {candidates : List ConfirmationCandidate} {evaluation : Evaluation} :
    evaluation ∈ (evaluatePostTradeConfirmation P snapshot eventEvidenceByStepId candidates).2 ↔
      ∃ before candidate rest, candidates = before ++ candidate :: rest ∧
        evaluation = evaluateCandidate P snapshot eventEvidenceByStepId candidate
          (nextInGroup candidate rest) := by
  rw [(evaluations_perm P snapshot eventEvidenceByStepId candidates).mem_iff]
  exact Grouping.mem_withNextOf

/-! ## One candidate -/

def readings (candidate : ConfirmationCandidate) (nextCandidate : Option ConfirmationCandidate) :
    Option (PositionReading × PositionReading) :=
  match readPreTradePositionContext candidate.metadata, readingBefore candidate with
  | some context, some before =>
    match observedReference snapshot candidate.executionReference with
    | none => none
    | some _ => (boundaryAfter P snapshot context nextCandidate).map fun boundary =>
        (before, boundary.toPositionReading)
  | _, _ => none

variable {P snapshot eventEvidenceByStepId}

variable (P snapshot eventEvidenceByStepId) in
theorem evaluateCandidate_cases (candidate : ConfirmationCandidate)
    (nextCandidate : Option ConfirmationCandidate) :
    ∃ verdict boundary,
      (evaluateCandidate P snapshot eventEvidenceByStepId candidate nextCandidate).confirmation =
        buildCarryExecutionPostTradeConfirmation candidate verdict snapshot.capturedAt
          (observedReference snapshot candidate.executionReference)
          (readPreTradePositionContext candidate.metadata) boundary
          (eventEvidenceByStepId candidate.stepId) ∧
      boundary.map PositionBoundaryContext.toPositionReading =
        (readings P snapshot candidate nextCandidate).map Prod.snd ∧
      match readings P snapshot candidate nextCandidate with
      | some (before, after) =>
        verdict = classify candidate before after (eventEvidenceByStepId candidate.stepId)
      | none => verdict.confirmedSize = none ∧ verdict.status =
        if (readingBefore candidate).isSome ∧
            observedReference snapshot candidate.executionReference = none then .missing_reference
        else .insufficient_context := by
  unfold evaluateCandidate readings
  cases hcontext : readPreTradePositionContext candidate.metadata with
  | none =>
    have hbefore : readingBefore candidate = none := by rw [readingBefore, hcontext]; rfl
    rw [hbefore]
    exact ⟨_, none, rfl, rfl, rfl, rfl⟩
  | some context =>
    cases hbefore : readingBefore candidate with
    | none => exact ⟨_, none, rfl, rfl, rfl, rfl⟩
    | some before =>
      cases hreference : observedReference snapshot candidate.executionReference with
      | none => exact ⟨_, none, rfl, rfl, rfl, by simp⟩
      | some reference =>
        simp only
        cases hboundary : boundaryAfter P snapshot context nextCandidate with
        | none => exact ⟨_, none, rfl, rfl, rfl, by simp⟩
        | some boundary => exact ⟨_, some boundary, rfl, rfl, rfl⟩

theorem evaluateCandidate_status (candidate : ConfirmationCandidate)
    (nextCandidate : Option ConfirmationCandidate) :
    (evaluateCandidate P snapshot eventEvidenceByStepId candidate nextCandidate).confirmation.status =
      match readings P snapshot candidate nextCandidate with
      | some (before, after) =>
        (classify candidate before after (eventEvidenceByStepId candidate.stepId)).status
      | none =>
        if (readingBefore candidate).isSome ∧
            observedReference snapshot candidate.executionReference = none then .missing_reference
        else .insufficient_context := by
  obtain ⟨verdict, boundary, hconfirmation, -, hverdict⟩ :=
    evaluateCandidate_cases P snapshot eventEvidenceByStepId candidate nextCandidate
  rw [hconfirmation]
  cases hreadings : readings P snapshot candidate nextCandidate with
  | none =>
    rw [hreadings] at hverdict
    exact hverdict.2
  | some change =>
    rw [hreadings] at hverdict
    exact congrArg Verdict.status hverdict

theorem classify_confirmed_full
    (h : (classify candidate before after eventEvidence).status = .confirmed_full) :
    eventEvidence.map (fun evidence => evidence.correlationStatus) = some .event_matched_strong ∧
      (positionChange candidate before after).refused = false ∧
      tolerance < (positionChange candidate before after).positionConfirmedSize ∧
      (positionChange candidate before after).remainingSize ≤ tolerance := by
  simp only [classify] at h
  -- Every other branch has another status.
  split_ifs at h with hconflict hconfirmed hrefused hmatch hstrong hsmall hevent hremaining
  exact ⟨by simpa using hstrong, by simpa using hrefused, not_le.1 hsmall, hremaining⟩

def ownChange (candidate : ConfirmationCandidate) (before after : PositionReading) : Decimal :=
  let targetSide := expectedPositionSideForOrder candidate.side candidate.reduceOnly
  if candidate.reduceOnly then before.size.minus after.size
  else (positionExposureForSide after targetSide).minus (positionExposureForSide before targetSide)

/-- The position is flat or on the side that the candidate is about, before and after; a reduction
starts from a position on that side. -/
structure OnOwnSide (candidate : ConfirmationCandidate) (before after : PositionReading) : Prop where
  before : before.side = expectedPositionSideForOrder candidate.side candidate.reduceOnly ∨
    candidate.reduceOnly = false ∧ before.side = .flat
  after : after.side = expectedPositionSideForOrder candidate.side candidate.reduceOnly ∨
    after.side = .flat

theorem tolerance_pos : 0 < tolerance := by norm_num [tolerance]

/-- A change that covers the requested size after clamping covers it before. -/
theorem minus_le_of_clamped {change requestedSize : Decimal}
    (hsize : tolerance < max (min (max change 0) requestedSize) 0)
    (hremaining : max (requestedSize.minus (max (min (max change 0) requestedSize) 0)) 0 ≤ tolerance) :
    requestedSize.minus change ≤ tolerance := by
  have hpos := tolerance_pos
  have hmin : 0 < min (max change 0) requestedSize := by
    rcases lt_max_iff.1 hsize with h | h
    · exact hpos.trans h
    · exact absurd h (not_lt.2 hpos.le)
  have hchange : 0 < change := by
    rcases lt_max_iff.1 (lt_min_iff.1 hmin).1 with h | h
    · exact h
    · exact absurd h (lt_irrefl 0)
  rw [max_eq_left hmin.le, max_eq_left hchange.le] at hremaining
  by_cases hle : change ≤ requestedSize
  · rw [min_eq_left hle] at hremaining
    exact (le_max_left _ _).trans hremaining
  · have hneg : requestedSize - change ≤ 0 := sub_nonpos.2 (not_le.1 hle).le
    exact (decimalJs.round_nonpos hneg).trans hpos.le

theorem ownChange_of_classify
    (h : (classify candidate before after eventEvidence).status = .confirmed_full) :
    candidate.requestedSize.minus (ownChange candidate before after) ≤ tolerance := by
  obtain ⟨-, -, hsize, hremaining⟩ := classify_confirmed_full h
  have hraw : rawPositionChange candidate before after = max (ownChange candidate before after) 0 := by
    simp only [rawPositionChange, ownChange]
    split_ifs <;> rfl
  simp only [positionChange, hraw] at hsize hremaining
  exact minus_le_of_clamped hsize hremaining

theorem onOwnSide_of_classify
    (h : (classify candidate before after eventEvidence).status = .confirmed_full)
    (hside : candidate.reduceOnly = true →
      before.side = expectedPositionSideForOrder candidate.side candidate.reduceOnly) :
    OnOwnSide candidate before after := by
  obtain ⟨-, hrefused, -, -⟩ := classify_confirmed_full h
  simp only [PositionChange.refused, Bool.or_eq_false_iff] at hrefused
  obtain ⟨⟨⟨hdirection, -⟩, hstart⟩, -⟩ := hrefused
  simp only [positionChange] at hdirection hstart
  cases hreduce : candidate.reduceOnly with
  | true =>
    have hbefore := hside hreduce
    refine ⟨Or.inl hbefore, ?_⟩
    rw [← hbefore]
    by_cases hflat : after.side = .flat
    · exact Or.inr hflat
    · exact Or.inl (by simpa [hreduce, hflat] using hdirection)
  | false =>
    refine ⟨?_, ?_⟩
    · by_cases hflat : before.side = .flat
      · exact Or.inr ⟨hreduce, hflat⟩
      · exact Or.inl (by simpa [hreduce, hflat] using hstart)
    · by_cases hflat : after.side = .flat
      · exact Or.inr hflat
      · exact Or.inl (by simpa [hreduce, hflat] using hdirection)

/-! ## Known readings -/

def DerivativePositionEntry.reading (position : DerivativePositionEntry) : Option PositionReading :=
  match position.side, position.baseAssetAmount with
  | .unknown, _ => none
  | _, none => none
  | .long, some amount => some { side := .long, size := Decimal.roundPlaces |amount| 9 }
  | .short, some amount => some { side := .short, size := Decimal.roundPlaces |amount| 9 }
  | .flat, some amount => some { side := .flat, size := Decimal.roundPlaces |amount| 9 }

def ownMarket (context : PreTradePositionContext) (position : DerivativePositionEntry) : Bool :=
  (context.marketKey.isSome && position.marketKey == context.marketKey) ||
    (context.marketSymbol.isSome && position.marketSymbol == context.marketSymbol)

variable (P snapshot) in
/-- The known reading after a candidate: the one before the next candidate, or the one of the position
of its own market that is found in the snapshot. -/
def knownReadingAfter (candidate : ConfirmationCandidate) :
    Option ConfirmationCandidate → Option PositionReading
  | some nextCandidate =>
    (readPreTradePositionContext nextCandidate.metadata).bind PreTradePositionContext.reading
  | none =>
    (readPreTradePositionContext candidate.metadata).bind fun context =>
      (((snapshot.positions.getD []).find? (matchesContext P context)).filter
        (ownMarket context)).bind DerivativePositionEntry.reading

variable {next : ConfirmationCandidate} {reading : PositionReading}
  {nextCandidate : Option ConfirmationCandidate}

theorem findSnapshotPositionBoundary_of_known {position : DerivativePositionEntry}
    (hfind : (snapshot.positions.getD []).find? (matchesContext P context) = some position)
    (hreading : position.reading = some reading) :
    (findSnapshotPositionBoundary P snapshot context).toPositionReading = reading := by
  rw [findSnapshotPositionBoundary, hfind]
  obtain ⟨marketKey, marketSymbol, side, baseAssetAmount⟩ := position
  cases side <;> cases baseAssetAmount <;> cases hreading <;> rfl

theorem boundaryAfter_of_known {boundary : PositionBoundaryContext}
    (hcontext : readPreTradePositionContext candidate.metadata = some context)
    (hboundary : boundaryAfter P snapshot context nextCandidate = some boundary)
    (hknown : knownReadingAfter P snapshot candidate nextCandidate = some reading) :
    boundary.toPositionReading = reading := by
  cases nextCandidate with
  | none =>
    rw [knownReadingAfter, hcontext, Option.bind_some, Option.bind_eq_some_iff] at hknown
    obtain ⟨position, hposition, hreading⟩ := hknown
    obtain ⟨hfind, -⟩ := Option.filter_eq_some_iff.1 hposition
    rw [boundaryAfter, Option.some.injEq] at hboundary
    rw [← hboundary]
    exact findSnapshotPositionBoundary_of_known hfind hreading
  | some next =>
    rw [boundaryAfter, Option.bind_eq_some_iff] at hboundary
    obtain ⟨nextContext, hnext, hmap⟩ := hboundary
    obtain ⟨reading', hreading', rfl⟩ := Option.map_eq_some_iff.1 hmap
    rw [knownReadingAfter, hnext, Option.bind_some, hreading', Option.some.injEq] at hknown
    exact hknown

theorem boundaryAfter_next_eq_none
    (hnone : (readPreTradePositionContext next.metadata).bind PreTradePositionContext.reading = none) :
    boundaryAfter P snapshot context (some next) = none := by
  rw [boundaryAfter]
  cases hnext : readPreTradePositionContext next.metadata with
  | none => rfl
  | some nextContext =>
    rw [hnext, Option.bind_some] at hnone
    rw [Option.bind_some, hnone, Option.map_none]

/-! ## Candidates -/

variable (P snapshot eventEvidenceByStepId) in
structure ConfirmedBy (candidate : ConfirmationCandidate)
    (nextCandidate : Option ConfirmationCandidate) : Prop where
  reference : ∃ entry ∈ snapshot.references.getD [], entry.reference = candidate.executionReference
  event : ∃ evidence, eventEvidenceByStepId candidate.stepId = some evidence ∧
    evidence.correlationStatus = .event_matched_strong
  change : ∃ before, readingBefore candidate = some before ∧
    ∀ after, knownReadingAfter P snapshot candidate nextCandidate = some after →
      candidate.requestedSize.minus (ownChange candidate before after) ≤ tolerance ∧
      ((candidate.reduceOnly = true →
          before.side = expectedPositionSideForOrder candidate.side candidate.reduceOnly) →
        OnOwnSide candidate before after)

theorem readings_eq_some (h : readings P snapshot candidate nextCandidate = some (before, after)) :
    ∃ context entry boundary, readPreTradePositionContext candidate.metadata = some context ∧
      readingBefore candidate = some before ∧
      observedReference snapshot candidate.executionReference = some entry ∧
      boundaryAfter P snapshot context nextCandidate = some boundary ∧
      boundary.toPositionReading = after := by
  rw [readings] at h
  split at h
  next context before' hcontext hbefore =>
    split at h
    next => cases h
    next entry hentry =>
      obtain ⟨boundary, hboundary, hpair⟩ := Option.map_eq_some_iff.1 h
      obtain ⟨rfl, rfl⟩ := Prod.mk.inj hpair
      exact ⟨context, entry, boundary, hcontext, hbefore, hentry, hboundary, rfl⟩
  next => cases h

theorem confirmedBy_of_confirmed_full
    (h : (evaluateCandidate P snapshot eventEvidenceByStepId candidate
      nextCandidate).confirmation.status = .confirmed_full) :
    ConfirmedBy P snapshot eventEvidenceByStepId candidate nextCandidate := by
  rw [evaluateCandidate_status] at h
  cases hreadings : readings P snapshot candidate nextCandidate with
  | none =>
    rw [hreadings] at h
    simp only at h
    split_ifs at h
  | some pair =>
    obtain ⟨before, after⟩ := pair
    rw [hreadings] at h
    obtain ⟨context, entry, boundary, hcontext, hbefore, hentry, hboundary, rfl⟩ :=
      readings_eq_some hreadings
    refine ⟨⟨entry, ?_, ?_⟩, ?_, before, hbefore, fun after hafter => ?_⟩
    · exact List.mem_reverse.1 (List.mem_of_find?_eq_some hentry)
    · simpa using List.find?_some hentry
    · obtain ⟨hstrong, -⟩ := classify_confirmed_full h
      exact Option.map_eq_some_iff.1 hstrong
    · rw [← boundaryAfter_of_known hcontext hboundary hafter]
      exact ⟨ownChange_of_classify h, onOwnSide_of_classify h⟩

theorem insufficient_of_readingBefore_eq_none (hnone : readingBefore candidate = none)
    (nextCandidate : Option ConfirmationCandidate) :
    (evaluateCandidate P snapshot eventEvidenceByStepId candidate
      nextCandidate).confirmation.status = .insufficient_context := by
  have hreadings : readings P snapshot candidate nextCandidate = none := by
    rw [readings, hnone]
    split <;> simp_all
  rw [evaluateCandidate_status, hreadings]
  simp [hnone]

/-- Without a reading before the next candidate, its change is not attributed. -/
theorem unconfirmed_of_next_eq_none
    (hnone : (readPreTradePositionContext next.metadata).bind PreTradePositionContext.reading = none) :
    (evaluateCandidate P snapshot eventEvidenceByStepId candidate
        (some next)).confirmation.status = .insufficient_context ∨
      (evaluateCandidate P snapshot eventEvidenceByStepId candidate
        (some next)).confirmation.status = .missing_reference := by
  have hreadings : readings P snapshot candidate (some next) = none := by
    rw [readings]
    split
    · split
      · rfl
      · rw [boundaryAfter_next_eq_none hnone, Option.map_none]
    · rfl
  rw [evaluateCandidate_status, hreadings]
  simp only
  split_ifs
  · exact Or.inr rfl
  · exact Or.inl rfl

/-! ## The evidence -/

/-- The counters, each entry in one of them. -/
def PostTradeConfirmationEvidence.counted (evidence : PostTradeConfirmationEvidence) : ℕ :=
  evidence.confirmedFullCount + evidence.confirmedPartialCount + evidence.pendingCount +
    evidence.conflictingEventCount + evidence.conflictingEventVsPositionCount +
    evidence.missingReferenceCount + evidence.invalidCount + evidence.insufficientContextCount

theorem countConfirmationEntries_cons (entry : PostTradeConfirmationEntry)
    (entries : List PostTradeConfirmationEntry) (statuses : List ConfirmationStatus) :
    countConfirmationEntries (entry :: entries) statuses =
      countConfirmationEntries entries statuses +
        if entry.confirmation.status ∈ statuses then 1 else 0 := by
  rw [countConfirmationEntries, List.filter_cons]
  split_ifs with h h' h' <;> simp_all [countConfirmationEntries]

theorem count_statuses (entries : List PostTradeConfirmationEntry) :
    countConfirmationEntries entries [.confirmed_full] +
        countConfirmationEntries entries
          [ ConfirmationStatus.confirmed_partial, .confirmed_partial_event_only,
            .confirmed_partial_position_only] +
        countConfirmationEntries entries [.pending_event, .pending_position_delta] +
        countConfirmationEntries entries [.conflicting_event] +
        countConfirmationEntries entries [.conflicting_event_vs_position] +
        countConfirmationEntries entries [.missing_reference] +
        countConfirmationEntries entries [.invalid_position_delta] +
        countConfirmationEntries entries [.insufficient_context] = entries.length := by
  induction entries with
  | nil => rfl
  | cons entry entries ih =>
    simp only [countConfirmationEntries_cons, List.length_cons]
    cases entry.confirmation.status <;> simp <;> omega

theorem counted_eq_length :
    (evaluatePostTradeConfirmation P snapshot eventEvidenceByStepId candidates).1.counted =
      (evaluatePostTradeConfirmation P snapshot eventEvidenceByStepId candidates).1.entries.length := by
  rw [evaluatePostTradeConfirmation]
  split_ifs
  · rfl
  · exact count_statuses _

theorem entries_eq_map :
    (evaluatePostTradeConfirmation P snapshot eventEvidenceByStepId candidates).1.entries =
      (evaluatePostTradeConfirmation P snapshot eventEvidenceByStepId candidates).2.map
        Evaluation.entry := by
  rw [evaluatePostTradeConfirmation]
  split_ifs <;> rfl

theorem length_entries :
    (evaluatePostTradeConfirmation P snapshot eventEvidenceByStepId candidates).1.entries.length =
      candidates.length := by
  rw [entries_eq_map, List.length_map,
    (evaluations_perm P snapshot eventEvidenceByStepId candidates).length_eq,
    Grouping.length_withNextOf]

theorem status_confirmed_iff :
    (evaluatePostTradeConfirmation P snapshot eventEvidenceByStepId candidates).1.status = .confirmed ↔
      candidates ≠ [] ∧ ∀ entry ∈ (evaluatePostTradeConfirmation P snapshot eventEvidenceByStepId
        candidates).1.entries, entry.confirmation.status = .confirmed_full := by
  rw [evaluatePostTradeConfirmation]
  split_ifs with hempty
  · simp [List.length_eq_zero_iff.1 hempty]
  · simp only [List.length_eq_zero_iff] at hempty ⊢
    split_ifs with hblocking
    all_goals
      simp only [List.filter_eq_nil_iff] at hblocking
      simpa [hempty] using hblocking

theorem status_not_required_iff :
    (evaluatePostTradeConfirmation P snapshot eventEvidenceByStepId candidates).1.status =
      .not_required ↔ candidates = [] := by
  rw [evaluatePostTradeConfirmation]
  split_ifs with hempty
  · simp [List.length_eq_zero_iff.1 hempty]
  · rw [List.length_eq_zero_iff] at hempty
    simp only [hempty, iff_false]
    split_ifs <;> decide

theorem evaluateCandidate_candidate (candidate : ConfirmationCandidate)
    (nextCandidate : Option ConfirmationCandidate) :
    (evaluateCandidate P snapshot eventEvidenceByStepId candidate nextCandidate).candidate =
      candidate := by
  rw [evaluateCandidate]
  split
  · split <;> rfl
  · rfl

variable (P snapshot eventEvidenceByStepId) in
/-- A confirmation is sound, for every snapshot, list of candidates and evidence. -/
theorem evaluatePostTradeConfirmation_sound (candidates : List ConfirmationCandidate) :
    let result := evaluatePostTradeConfirmation P snapshot eventEvidenceByStepId candidates
    (∀ evaluation ∈ result.2, ∃ before rest,
      candidates = before ++ evaluation.candidate :: rest ∧
      (evaluation.confirmation.status = .confirmed_full →
        ConfirmedBy P snapshot eventEvidenceByStepId evaluation.candidate
          (nextInGroup evaluation.candidate rest)) ∧
      (readingBefore evaluation.candidate = none →
        evaluation.confirmation.status = .insufficient_context) ∧
      ∀ next, nextInGroup evaluation.candidate rest = some next →
        (readPreTradePositionContext next.metadata).bind PreTradePositionContext.reading = none →
        evaluation.confirmation.status = .insufficient_context ∨
          evaluation.confirmation.status = .missing_reference) ∧
    result.1.entries = result.2.map Evaluation.entry ∧
    (result.1.status = .confirmed ↔
      candidates ≠ [] ∧ ∀ entry ∈ result.1.entries, entry.confirmation.status = .confirmed_full) ∧
    (result.1.status = .not_required ↔ candidates = []) ∧
    result.1.counted = result.1.entries.length ∧ result.1.entries.length = candidates.length := by
  refine ⟨fun evaluation hevaluation => ?_, entries_eq_map candidates, status_confirmed_iff candidates,
    status_not_required_iff candidates, counted_eq_length candidates, length_entries candidates⟩
  obtain ⟨before, candidate, rest, hsplit, rfl⟩ :=
    (mem_evaluations P snapshot eventEvidenceByStepId).1 hevaluation
  refine ⟨before, rest, ?_, ?_, ?_, ?_⟩ <;> rw [evaluateCandidate_candidate]
  · exact hsplit
  · exact confirmedBy_of_confirmed_full
  · exact fun hnone => insufficient_of_readingBefore_eq_none hnone _
  · intro next hnext hnone
    rw [hnext]
    exact unconfirmed_of_next_eq_none hnone

end

/-! ## Samples -/

def samplePlatform : TextPlatform :=
  { toUpperCase := String.toUpper, localeLe := fun left right => decide (left ≤ right) }

/-- A captured reading on the market `perp:0`. -/
def sampleRecord (marketKey : Option String) (side : String) (size : Decimal) :
    PreTradePositionRecord :=
  { captureStatus := some "captured", observedAt := some "t0", asset := some "BTC", marketKey
    side := some side, size := some size }

def sampleCandidate (stepId : String) (side : OrderSide) (requestedSize : Decimal)
    (reduceOnly : Bool) (metadata : PreTradePositionRecord) : ConfirmationCandidate :=
  { stepId, carryExecutionId := "e1", carryActionId := "a1", intentId := "i1", venueId := "venue"
    asset := "BTC", side, requestedSize, reduceOnly, clientOrderId := none
    executionReference := stepId, metadata, createdAt := "t0", updatedAt := "t0" }

/-- A snapshot that shows the reference and one position on the market `perp:0`. -/
def sampleSnapshot (side : DerivativePositionSide) (baseAssetAmount : Option Decimal) :
    VenueSnapshot :=
  { capturedAt := "t1"
    positions := some
      [{ marketKey := some "perp:0", marketSymbol := none, side, baseAssetAmount }]
    references := some [{ reference := "s1", blockTime := none }] }

def strongMatch : VenueExecutionEventEvidence :=
  { correlationStatus := .event_matched_strong, blockedReason := none, fillBaseAssetAmount := none }

/-- No candidates need no confirmation, and a position that grew by three units confirms an order of
one. -/
theorem confirmation_of_none_and_of_more :
    ((evaluatePostTradeConfirmation samplePlatform (sampleSnapshot .flat (some 0))
        (fun _ => none) []).1.status = .not_required ∧
      ∀ entry ∈ (evaluatePostTradeConfirmation samplePlatform (sampleSnapshot .flat (some 0))
        (fun _ => none) []).1.entries, entry.confirmation.status = .confirmed_full) ∧
    (evaluatePostTradeConfirmation samplePlatform (sampleSnapshot .long (some 3))
        (fun _ => some strongMatch)
        [sampleCandidate "s1" .buy 1 false (sampleRecord (some "perp:0") "flat" 0)]).1.status =
      .confirmed ∧
    knownReadingAfter samplePlatform (sampleSnapshot .long (some 3))
        (sampleCandidate "s1" .buy 1 false (sampleRecord (some "perp:0") "flat" 0)) none =
      some { side := .long, size := 3 } ∧
    ownChange (sampleCandidate "s1" .buy 1 false (sampleRecord (some "perp:0") "flat" 0))
      { side := .flat, size := 0 } { side := .long, size := 3 } = 3 := by
  refine ⟨⟨rfl, fun _ h => absurd h List.not_mem_nil⟩, ?_, ?_, ?_⟩
  all_goals decide +kernel

end SentinelApex.PostTradeConfirmation
