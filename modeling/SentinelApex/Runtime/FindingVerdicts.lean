import SentinelApex.Runtime.DerivativeFindings
import SentinelApex.Runtime.MismatchRows

/-!
# One verdict for each key

Several checks of a run may have one key, and each of them is reported on its own: as active if it
fails, and as resolved if it passes and an earlier run has left a mismatch. The findings agree, and
can be applied in any order, if and only if no two checks of a key disagree while such a mismatch is
there (`one_verdict_iff`).
-/

namespace SentinelApex.Runtime

open Async DerivativeComparison

def mismatchStatus (db : Database) (dedupeKey : String) : Option RuntimeMismatchStatus :=
  (db.getMismatchByDedupeKey dedupeKey).map fun row => row.status

def RuntimeReconciliationFindingStatus.after (verdict : RuntimeReconciliationFindingStatus)
    (status : Option RuntimeMismatchStatus) : Option RuntimeMismatchStatus :=
  match verdict, status with
  | .active, none => some .opened
  | .active, some s => some (if s.shouldReopen then .reopened else s)
  | .resolved, none => none
  | .resolved, some s => some (if s = .verified then .verified else .resolved)

/-- The store answers, and nothing else runs. -/
def storeHandler (env : Environment) : Handler StoreCall StoreCall.Reply String Database :=
  fun c db => perform env 0 db c

theorem mismatchStatus_congr {db db' : Database} (h : db'.mismatches = db.mismatches)
    (key : String) : mismatchStatus db' key = mismatchStatus db key := by
  rw [mismatchStatus, mismatchStatus, Database.getMismatchByDedupeKey_congr h]

section Writes

variable {db db' : Database}

/-- Rows of one key that change in place, and keep the key. -/
theorem mismatchStatus_of_update {f : RuntimeMismatch → RuntimeMismatch} {k : String}
    (hf : ∀ row, (f row).dedupeKey = row.dedupeKey)
    (hrows : db'.mismatches = db.mismatches.map fun row => if row.dedupeKey = k then f row else row)
    (key : String) :
    mismatchStatus db' key =
      if k = key then (db.getMismatchByDedupeKey key).map fun row => (f row).status
      else mismatchStatus db key := by
  have hfind : db'.getMismatchByDedupeKey key = (db.getMismatchByDedupeKey key).map
      fun row => if row.dedupeKey = k then f row else row := by
    rw [Database.getMismatchByDedupeKey, Database.getMismatchByDedupeKey, hrows, List.find?_map]
    congr 1
    apply List.find?_congr
    intro row _
    rw [Function.comp_apply]
    split_ifs <;> simp [hf]
  rw [mismatchStatus, mismatchStatus, hfind, Option.map_map]
  cases hrow : db.getMismatchByDedupeKey key with
  | none => simp
  | some row =>
    have hkey : row.dedupeKey = key := by simpa using List.find?_some hrow
    by_cases hk : k = key
    · simp [hk, hkey]
    · simp [hk, hkey, Ne.symm hk]

theorem mismatchStatus_upsertMismatch (input : MismatchInput) (now : Date) (key : String) :
    mismatchStatus (db.upsertMismatch input now).2 key =
      if input.dedupeKey = key then
        RuntimeReconciliationFindingStatus.active.after (mismatchStatus db key)
      else mismatchStatus db key := by
  cases hrow : db.getMismatchByDedupeKey input.dedupeKey with
  | none =>
    rw [Database.upsertMismatch_of_none hrow, mismatchStatus, Database.getMismatchByDedupeKey,
      List.find?_append, List.find?_singleton]
    by_cases hkey : input.dedupeKey = key
    · subst hkey
      rw [show db.mismatches.find? _ = none from hrow, mismatchStatus, hrow]
      simp [MismatchInput.toRow, RuntimeReconciliationFindingStatus.after]
    · simp [MismatchInput.toRow, hkey, mismatchStatus, Database.getMismatchByDedupeKey]
  | some row =>
    rw [Database.upsertMismatch_of_some hrow,
      mismatchStatus_of_update (fun row' => row'.detectedAgain_dedupeKey row input now) rfl]
    by_cases hkey : input.dedupeKey = key
    · subst hkey
      rw [if_pos rfl, if_pos rfl, mismatchStatus, hrow]
      show some (row.detectedAgain row input now).status = some _
      unfold RuntimeMismatch.detectedAgain
      split_ifs <;> rfl
    · rw [if_neg hkey, if_neg hkey]

theorem mismatchStatus_resolve {row : RuntimeMismatch} {dedupeKey : String}
    (hrow : db.getMismatchByDedupeKey dedupeKey = some row) (hopen : row.status ≠ .verified)
    (resolvedBy resolutionSummary : String) (at' now : Date) (key : String) :
    mismatchStatus (db.updateMismatchByDedupeKey dedupeKey
        (resolvedPatch resolvedBy resolutionSummary at') now) key =
      if dedupeKey = key then
        RuntimeReconciliationFindingStatus.resolved.after (mismatchStatus db key)
      else mismatchStatus db key := by
  rw [mismatchStatus_of_update (f := fun row => row.patch
    (resolvedPatch resolvedBy resolutionSummary at') now) (fun _ => rfl) rfl]
  by_cases hkey : dedupeKey = key
  · subst hkey
    rw [if_pos rfl, if_pos rfl, mismatchStatus, hrow, Option.map_some, Option.map_some]
    simp [RuntimeReconciliationFindingStatus.after, hopen, RuntimeMismatch.patch, resolvedPatch]
  · rw [if_neg hkey, if_neg hkey]

end Writes

def applyFindings (reconciliationRunId : String) (now : Date) :
    List ReconciliationCandidateFinding → RuntimeTask Unit
  | [] => pure ()
  | finding :: findings => do
    let _ ← applyFindingToMismatch reconciliationRunId finding now
    applyFindings reconciliationRunId now findings

section Apply

variable (env : Environment) (db : Database)

theorem storeHandler_recordRecoveryEvent (input : RecoveryEventInput) (now : Date)
    (h : ∀ mismatchId, input.mismatchId = some mismatchId → db.HasMismatch mismatchId) :
    ∃ row db', storeHandler env (.recordRecoveryEvent input now) db = (.ok row, db') ∧
      db'.mismatches = db.mismatches := by
  obtain ⟨row, hrow⟩ := recordRecoveryEvent_ok now h
  exact ⟨row, (db.recordRecoveryEvent input now).2, Prod.ext hrow rfl,
    (db.recordRecoveryEvent_frame input now).2.1⟩

theorem upsertMismatch_ok (input : MismatchInput) (now : Date) :
    ∃ row outcome, (db.upsertMismatch input now).1 = .ok (row, outcome) ∧
      (db.upsertMismatch input now).2.HasMismatch row.id := by
  cases hrow : db.getMismatchByDedupeKey input.dedupeKey with
  | none =>
    rw [Database.upsertMismatch_of_none hrow]
    exact ⟨_, _, rfl, _, List.mem_append_right _ (List.mem_singleton_self _), rfl⟩
  | some row =>
    have hmem : db.HasMismatch row.id := ⟨row, List.mem_of_find?_eq_some hrow, rfl⟩
    have hafter := hmem.upsertMismatch input now
    rw [Database.upsertMismatch_of_some hrow] at hafter ⊢
    exact ⟨_, _, rfl, (row.detectedAgain_id row input now).symm ▸ hafter⟩

theorem run_reportMismatch {input : MismatchInput}
    {event : RuntimeMismatch → UpsertOutcome → RecoveryEventInput}
    (hevent : ∀ mismatch outcome, (event mismatch outcome).mismatchId = some mismatch.id)
    (now : Date) :
    ∃ r db', (do
        let mismatch ← reportMismatch input event now
        pure (some mismatch)).run (storeHandler env) db = (.ok r, db') ∧
      ∀ key, mismatchStatus db' key =
        if input.dedupeKey = key then
          RuntimeReconciliationFindingStatus.active.after (mismatchStatus db key)
        else mismatchStatus db key := by
  obtain ⟨row, outcome, hok, hmem⟩ := upsertMismatch_ok db input now
  obtain ⟨recorded, db', hrecord, hmismatches⟩ := storeHandler_recordRecoveryEvent env
    (db.upsertMismatch input now).2 (event row outcome) now (by
      intro mismatchId hid
      rw [hevent] at hid
      exact Option.some.inj hid ▸ hmem)
  have hupsert : storeHandler env (.upsertMismatch input now) db =
      (.ok (row, outcome), (db.upsertMismatch input now).2) := Prod.ext hok rfl
  refine ⟨some row, db', ?_, fun key => ?_⟩
  · rw [reportMismatch, Task.bind_assoc, Task.run_call_bind_of_eq _ hupsert]
    simp only [Task.bind_assoc]
    exact Task.run_call_bind_of_eq _ hrecord
  · rw [mismatchStatus_congr hmismatches, mismatchStatus_upsertMismatch]

theorem run_resolveDetected (dedupeKey resolvedBy resolutionSummary : String) (at' : Date)
    {event : RuntimeMismatch → RecoveryEventInput}
    (hevent : ∀ mismatch, (event mismatch).mismatchId = some mismatch.id) (now : Date) :
    ∃ r db', (resolveDetected dedupeKey (resolvedPatch resolvedBy resolutionSummary at') event
        now).run (storeHandler env) db = (.ok r, db') ∧
      ∀ key, mismatchStatus db' key =
        if dedupeKey = key then
          RuntimeReconciliationFindingStatus.resolved.after (mismatchStatus db key)
        else mismatchStatus db key := by
  have hread : storeHandler env (.getMismatchByDedupeKey dedupeKey) db =
      (.ok (db.getMismatchByDedupeKey dedupeKey), db) := rfl
  rw [resolveDetected, Task.run_call_bind_of_eq _ hread]
  cases hrow : db.getMismatchByDedupeKey dedupeKey with
  | none =>
    refine ⟨none, db, rfl, fun key => ?_⟩
    split_ifs with hkey
    · rw [← hkey, mismatchStatus, hrow]
      rfl
    · rfl
  | some row =>
    by_cases hverified : row.status = .verified
    · refine ⟨some row, db, by simp [hverified], fun key => ?_⟩
      split_ifs with hkey
      · rw [← hkey, mismatchStatus, hrow]
        simp [RuntimeReconciliationFindingStatus.after, hverified]
      · rfl
    · let patched := db.updateMismatchByDedupeKey dedupeKey
        (resolvedPatch resolvedBy resolutionSummary at') now
      have hresolved : patched.getMismatchByDedupeKey dedupeKey =
          some (row.patch (resolvedPatch resolvedBy resolutionSummary at') now) :=
        Database.getMismatchByDedupeKey_updateMismatchByDedupeKey hrow _ now
      obtain ⟨recorded, db', hrecord, hmismatches⟩ := storeHandler_recordRecoveryEvent env patched
        (event (row.patch (resolvedPatch resolvedBy resolutionSummary at') now)) now (by
          intro mismatchId hid
          rw [hevent] at hid
          exact Option.some.inj hid ▸ ⟨_, List.mem_of_find?_eq_some hresolved, rfl⟩)
      have hupdate : storeHandler env (.updateMismatchByDedupeKey dedupeKey
          (resolvedPatch resolvedBy resolutionSummary at') now) db =
            (.ok (some (row.patch (resolvedPatch resolvedBy resolutionSummary at') now)),
              patched) :=
        Prod.ext (congrArg Except.ok hresolved) rfl
      refine ⟨some (row.patch (resolvedPatch resolvedBy resolutionSummary at') now), db', ?_,
        fun key => ?_⟩
      · simp only [if_neg hverified]
        rw [Task.run_call_bind_of_eq _ hupdate]
        exact Task.run_call_bind_of_eq _ hrecord
      · rw [mismatchStatus_congr hmismatches]
        exact mismatchStatus_resolve hrow hverified _ _ _ _ _

theorem run_applyFindingToMismatch (reconciliationRunId : String)
    (finding : ReconciliationCandidateFinding) (now : Date) :
    ∃ r db', (applyFindingToMismatch reconciliationRunId finding now).run (storeHandler env) db =
        (.ok r, db') ∧
      ∀ key, mismatchStatus db' key =
        if mismatchDedupeKey finding.dedupeKey = key then
          finding.status.after (mismatchStatus db key)
        else mismatchStatus db key := by
  cases hstatus : finding.status with
  | active =>
    simp only [applyFindingToMismatch, hstatus]
    exact run_reportMismatch env db (fun _ _ => rfl) now
  | resolved =>
    simp only [applyFindingToMismatch, hstatus]
    exact run_resolveDetected env db _ _ _ _ (fun _ => rfl) now

def verdictOf (findings : List ReconciliationCandidateFinding) (key : String)
    (status : Option RuntimeMismatchStatus) : Option RuntimeMismatchStatus :=
  findings.foldl (fun status finding =>
    if mismatchDedupeKey finding.dedupeKey = key then finding.status.after status else status) status

theorem run_applyFindings (reconciliationRunId : String) (now : Date)
    (findings : List ReconciliationCandidateFinding) :
    ∃ db', (applyFindings reconciliationRunId now findings).run (storeHandler env) db =
        (.ok (), db') ∧
      ∀ key, mismatchStatus db' key = verdictOf findings key (mismatchStatus db key) := by
  induction findings generalizing db with
  | nil => exact ⟨db, rfl, fun _ => rfl⟩
  | cons finding findings ih =>
    obtain ⟨r, db₁, hfirst, hstatus⟩ :=
      run_applyFindingToMismatch env db reconciliationRunId finding now
    obtain ⟨db₂, hrest, hstatuses⟩ := ih db₁
    refine ⟨db₂, ?_, fun key => ?_⟩
    · rw [applyFindings, Task.run_bind, hfirst]
      exact hrest
    · rw [hstatuses, hstatus]
      rfl

end Apply

def OneVerdict (findings : List ReconciliationCandidateFinding) : Prop :=
  ∀ f ∈ findings, ∀ g ∈ findings, f.dedupeKey = g.dedupeKey → f.status = g.status

/-- Findings of one key agree, and every order of applying them leaves each mismatch in the same
status. -/
structure ConsistentVerdicts (db : Database) (findings : List ReconciliationCandidateFinding) :
    Prop where
  oneVerdict : OneVerdict findings
  orderFree : ∀ env reconciliationRunId now (findings' : List ReconciliationCandidateFinding),
    findings'.Perm findings → ∀ key,
      mismatchStatus ((applyFindings reconciliationRunId now findings').run
        (storeHandler env) db).2 key =
      mismatchStatus ((applyFindings reconciliationRunId now findings).run
        (storeHandler env) db).2 key

theorem mismatchDedupeKey_injective : Function.Injective mismatchDedupeKey := by
  intro key key' h
  have htext : "reconciliation:" ++ key = "reconciliation:" ++ key' := by
    simpa only [mismatchDedupeKey, ToString.toString, String.append_empty] using h
  exact (String.append_right_inj "reconciliation:").1 htext

theorem verdictOf_perm {findings findings' : List ReconciliationCandidateFinding}
    (h : OneVerdict findings) (hperm : findings'.Perm findings) (key : String)
    (status : Option RuntimeMismatchStatus) :
    verdictOf findings' key status = verdictOf findings key status := by
  refine (hperm.symm.foldl_eq' ?_ status).symm
  intro f hf g hg s
  by_cases hfkey : mismatchDedupeKey f.dedupeKey = key
  · by_cases hgkey : mismatchDedupeKey g.dedupeKey = key
    · have hstatus : f.status = g.status :=
        h f hf g hg (mismatchDedupeKey_injective (hfkey.trans hgkey.symm))
      simp only [if_pos hfkey, if_pos hgkey, hstatus]
    · simp only [if_pos hfkey, if_neg hgkey]
  · simp only [if_neg hfkey]

theorem OneVerdict.consistent {findings : List ReconciliationCandidateFinding}
    (h : OneVerdict findings) (db : Database) : ConsistentVerdicts db findings := by
  refine ⟨h, fun env reconciliationRunId now findings' hperm key => ?_⟩
  obtain ⟨db₁, hrun₁, hstatus₁⟩ := run_applyFindings env db reconciliationRunId now findings
  obtain ⟨db₂, hrun₂, hstatus₂⟩ := run_applyFindings env db reconciliationRunId now findings'
  rw [hrun₁, hrun₂, hstatus₁, hstatus₂]
  exact verdictOf_perm h hperm key _

/-- No mismatch of the key is left that is not verified. -/
def Settled (db : Database) (key : String) : Prop :=
  ∀ row, db.getMismatchByDedupeKey key = some row → row.status = .verified

/-- The verdicts of a run are consistent if and only if, wherever two of its checks have one key and
disagree, the mismatch of the key is absent or verified. -/
theorem one_verdict_iff (records : ViewRecords) (reads : DerivativeReads) (run : DetectionRun) :
    ConsistentVerdicts reads.db (reads.detectDerivativeComparisonFindings records run) ↔
      ∀ failing ∈ reads.findingInputs records run, ∀ passing ∈ reads.findingInputs records run,
        failing.dedupeKey = passing.dedupeKey → failing.active = true → passing.active = false →
          Settled reads.db (mismatchDedupeKey passing.dedupeKey) := by
  constructor
  · intro h failing hfailing passing hpassing hkey hactive hinactive row hrow
    by_contra hopen
    obtain ⟨f, hf⟩ := Option.isSome_iff_exists.1 ((toCandidateFinding_isSome
      (reads.db.getMismatchByDedupeKey (mismatchDedupeKey failing.dedupeKey)) failing).2 fun hfalse =>
        absurd (hactive.symm.trans hfalse) (by decide))
    obtain ⟨g, hg⟩ := Option.isSome_iff_exists.1 ((toCandidateFinding_isSome
      (reads.db.getMismatchByDedupeKey (mismatchDedupeKey passing.dedupeKey)) passing).2 fun _ =>
        ⟨row, hrow, hopen⟩)
    obtain ⟨hfkey, -, -, hfstatus⟩ := toCandidateFinding_eq_some hf
    obtain ⟨hgkey, -, -, hgstatus⟩ := toCandidateFinding_eq_some hg
    have heq := h.oneVerdict f (List.mem_filterMap.2 ⟨failing, hfailing, hf⟩) g
      (List.mem_filterMap.2 ⟨passing, hpassing, hg⟩) (by rw [hfkey, hgkey, hkey])
    rw [hfstatus, hgstatus, hactive, hinactive] at heq
    cases heq
  · intro h
    refine OneVerdict.consistent (fun f hf g hg hkey => ?_) reads.db
    obtain ⟨input, hinput, hf⟩ := List.mem_filterMap.1 hf
    obtain ⟨input', hinput', hg⟩ := List.mem_filterMap.1 hg
    obtain ⟨hfkey, -, -, hfstatus⟩ := toCandidateFinding_eq_some hf
    obtain ⟨hgkey, -, -, hgstatus⟩ := toCandidateFinding_eq_some hg
    have hkeys : input.dedupeKey = input'.dedupeKey := hfkey.symm.trans (hkey.trans hgkey)
    -- a check that passes is only reported if its mismatch is not settled
    have hreported : ∀ {c : FindingInput} {finding : ReconciliationCandidateFinding},
        toCandidateFinding (reads.db.getMismatchByDedupeKey (mismatchDedupeKey c.dedupeKey)) c =
          some finding → c.active = false →
            ¬ Settled reads.db (mismatchDedupeKey c.dedupeKey) := by
      intro c finding hc hinactive hsettled
      obtain ⟨row, hrow, hopen⟩ := (toCandidateFinding_isSome _ _).1
        (Option.isSome_iff_exists.2 ⟨finding, hc⟩) hinactive
      exact hopen (hsettled row hrow)
    rw [hfstatus, hgstatus]
    cases hactive : input.active with
    | true =>
      cases hactive' : input'.active with
      | true => rfl
      | false =>
        exact absurd (h input hinput input' hinput' hkeys hactive hactive') (hreported hg hactive')
    | false =>
      cases hactive' : input'.active with
      | true =>
        exact absurd (h input' hinput' input hinput hkeys.symm hactive' hactive)
          (hreported hf hactive)
      | false => rfl

open InternalDerivativeState in
/-- One unit of S on the spot market. -/
def spotInput : BuildInternalDerivativeSnapshotInput where
  venue := { venueId := "v", venueName := "V" }
  orders :=
    [{ clientOrderId := "a"
       asset := "S"
       marketIdentity := none
       metadata := OrderedMap.ofList [("instrumentType", .str "spot")]
       venueOrderId := none
       side := "buy"
       status := "filled"
       requestedSize := 1
       filledSize := 1
       requestedPrice := none
       reduceOnly := false
       executionMode := "live"
       submittedAt := none
       completedAt := none
       updatedAt := 0 }]
  fills :=
    [{ venueId := "v"
       venueOrderId := "a"
       clientOrderId := "a"
       asset := "S"
       side := .buy
       size := 1
       price := 1
       fee := 0
       feeAsset := none
       reduceOnly := false
       filledAt := 0
       marketIdentity := none
       metadata := OrderedMap.empty }]
  portfolioSummary := none
  riskSummary := none
  capturedAt := 0
  sourceComponent := "runtime"

def spotRow : VenueDerivativePositionEntry where
  marketKey := none
  marketSymbol := some "S"
  positionType := .spot
  side := .long
  baseAssetAmount := some 1

def twoSpotRows : ComparisonInput where
  venueId := "v"
  venueName := "V"
  internalState := some
    (InternalDerivativeState.buildInternalDerivativeSnapshot (fun _ _ => true) spotInput)
  externalSnapshot := some
    { capturedAt := 0
      truthCoverage := availableTruth
      derivativeAccountState := none
      derivativePositionState := some [spotRow, spotRow]
      derivativeHealthState := none
      orderState := none }
  activeFindings := []

def spotReads (db : Database) : DerivativeReads :=
  DerivativeReads.comparing
    { venues := [{ driftVenue with venueId := "v" }]
      getVenueComparisonDetail := fun _ => none
      getInternalDerivativeSourceWatermark := fun _ => none
      db }
    equalityOrders fun _ => some twoSpotRows

def spotFindings (db : Database) : List ReconciliationCandidateFinding :=
  (spotReads db).detectDerivativeComparisonFindings plainRecords { sampleRun with
    activeRealVenueIds := [] }

def sampleEnvironment : Environment where
  operate _ _ := .ok []
  faults _ := none
  others _ := []

def afterRun (db : Database) (findings : List ReconciliationCandidateFinding) : Database :=
  ((applyFindings "r" 0 findings).run (storeHandler sampleEnvironment) db).2

/-- The second run calls the gap both active and resolved: the mismatch ends resolved in the order of
the engine, and reopened in the opposite order. -/
theorem verdicts_conflict :
    let db := afterRun emptyStore (spotFindings emptyStore)
    let gap := "reconciliation:drift_position_identity_gap:v:spot:S"
    mismatchStatus (afterRun db (spotFindings db)) gap = some .resolved ∧
      mismatchStatus (afterRun db (spotFindings db).reverse) gap = some .reopened ∧
      ¬ ConsistentVerdicts db (spotFindings db) := by
  have hforward : mismatchStatus (afterRun (afterRun emptyStore (spotFindings emptyStore))
      (spotFindings (afterRun emptyStore (spotFindings emptyStore))))
        "reconciliation:drift_position_identity_gap:v:spot:S" = some .resolved := by
    decide +kernel
  have hbackward : mismatchStatus (afterRun (afterRun emptyStore (spotFindings emptyStore))
      (spotFindings (afterRun emptyStore (spotFindings emptyStore))).reverse)
        "reconciliation:drift_position_identity_gap:v:spot:S" = some .reopened := by
    decide +kernel
  refine ⟨hforward, hbackward, fun h => ?_⟩
  have hsame := h.orderFree sampleEnvironment "r" 0 _ (List.reverse_perm _)
    "reconciliation:drift_position_identity_gap:v:spot:S"
  exact absurd (hbackward.symm.trans (hsame.trans hforward)) (by decide)

end SentinelApex.Runtime
