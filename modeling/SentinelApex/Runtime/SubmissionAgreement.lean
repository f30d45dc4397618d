import SentinelApex.Runtime.Submission

/-!
# Readiness and export bundle

The readiness of the dossier and the checklist of the bundle are computed twice from the same rows, with
different clusters for the links of the evidence. No check depends on the cluster, so they always
agree; and every type of evidence is read back as it was recorded but `backtest_simulation`, which is
read back as `document` (`submission_consistent_iff`).
-/

namespace SentinelApex

variable {tables : SubmissionTables} {input : RecordSubmissionEvidenceInput}
  {row : SubmissionEvidenceRow}

namespace Submission

theorem normalizeSubmissionEvidenceType_text_iff (type : SubmissionEvidenceType) :
    normalizeSubmissionEvidenceType type.text = type ↔ type ≠ .backtest_simulation := by
  cases type <;> decide

theorem normalizeSubmissionEvidenceType_ne (value : String) :
    normalizeSubmissionEvidenceType value ≠ .backtest_simulation := by
  unfold normalizeSubmissionEvidenceType
  split_ifs <;> decide

theorem normalizeSubmissionEvidenceType_idem (value : String) :
    normalizeSubmissionEvidenceType (normalizeSubmissionEvidenceType value).text =
      normalizeSubmissionEvidenceType value :=
  (normalizeSubmissionEvidenceType_text_iff _).2 (normalizeSubmissionEvidenceType_ne value)

section Checks

variable (env : SubmissionEnvironment) (tables : SubmissionTables)

def SubmissionReadiness.statusOf (readiness : SubmissionReadiness) (key : String) :
    Option SubmissionCheckStatus :=
  (readiness.checks.find? fun check => decide (check.key = key)).map
    SubmissionReadinessCheck.status

def SubmissionExportBundle.statusOf (bundle : SubmissionExportBundle) (key : String) :
    Option SubmissionCheckStatus :=
  (bundle.artifactChecklist.find? fun item => decide (item.key = key)).map
    SubmissionExportArtifact.status

/-- The checks of the readiness that the bundle has as one artifact. -/
def sharedChecks : List (String × String) :=
  [("strategy_documentation_present", "strategy_documentation"),
    ("code_repository_reviewable", "code_repository"), ("ranger_earn_setup", "ranger_earn_setup"),
    ("submission_address_present", "addresses"),
    ("on_chain_trade_evidence", "on_chain_trade_activity"),
    ("realized_performance_evidence", "realized_performance")]

/-- The bundle has the check of the artifacts of a centralised exchange as two artifacts, which fail
or pass. -/
structure ChecksAgree (readiness : SubmissionReadiness) (bundle : SubmissionExportBundle) :
    Prop where
  shared : ∀ keys ∈ sharedChecks, ∃ status, readiness.statusOf keys.1 = some status ∧
    bundle.statusOf keys.2 = some status
  exchange : ∃ history api : Bool, bundle.statusOf "cex_trade_history" = some (passIf history) ∧
    bundle.statusOf "cex_read_only_api" = some (passIf api) ∧
    readiness.statusOf "cex_verification_artifacts" = some (passIf (history && api))

def evidenceIn (cluster : SubmissionCluster) : List SubmissionEvidenceRecord :=
  tables.getSubmissionEvidenceRows.map fun row => mapSubmissionEvidenceRow env row cluster

theorem length_evidenceByType (type : SubmissionEvidenceType) (cluster other : SubmissionCluster) :
    (evidenceByType (evidenceIn env tables cluster) type).length =
      (evidenceByType (evidenceIn env tables other) type).length := by
  unfold evidenceByType evidenceIn
  rw [List.filter_map, List.length_map, List.filter_map, List.length_map]
  rfl

theorem length_onChainEvidenceInWindow (cluster other : SubmissionCluster) :
    (onChainEvidenceInWindow (evidenceIn env tables cluster)).length =
      (onChainEvidenceInWindow (evidenceIn env tables other)).length := by
  unfold onChainEvidenceInWindow evidenceByType evidenceIn
  rw [List.filter_map, List.filter_map, List.length_map, List.filter_map, List.filter_map,
    List.length_map]
  rfl

theorem backtestEvidence_eq_nil (cluster : SubmissionCluster) :
    evidenceByType (evidenceIn env tables cluster) .backtest_simulation = [] := by
  rw [evidenceByType, List.filter_eq_nil_iff]
  intro item hitem
  obtain ⟨row, -, rfl⟩ := List.mem_map.1 hitem
  have hne := normalizeSubmissionEvidenceType_ne row.evidenceType
  simp [mapSubmissionEvidenceRow, hne]

theorem not_isEmpty_eq {α : Type} {xs : List α} {n : ℕ} (h : xs.length = n) :
    (!xs.isEmpty) = decide (0 < n) := by
  rw [← h]
  cases xs <;> simp

section Statuses

variable {input : SubmissionBundleInput} {readiness : SubmissionReadinessInput}

theorem hasPerformanceArtifacts_eq
    (hperformance : input.performanceEvidence.length = readiness.performanceEvidenceCount)
    (hbacktest : input.backtestEvidence = []) :
    input.hasPerformanceArtifacts = readiness.hasBacktestOrPerformanceEvidence := by
  rw [SubmissionBundleInput.hasPerformanceArtifacts, hbacktest, not_isEmpty_eq hperformance]
  exact Bool.or_false _

theorem onChainStatus_eq
    (honchain : input.onChainEvidence.length = readiness.onChainEvidenceCountInWindow)
    (hreal : input.dossier.realExecutionCountInWindow = readiness.realExecutionCountInWindow)
    (hperformance : input.hasPerformanceArtifacts = readiness.hasBacktestOrPerformanceEvidence) :
    input.onChainArtifact.status = readiness.onChainCheck.status := by
  have hactivity : input.hasOnChainActivity = decide (0 < readiness.onChainEvidenceCount) := by
    rw [SubmissionBundleInput.hasOnChainActivity, not_isEmpty_eq honchain, hreal,
      SubmissionReadinessInput.onChainEvidenceCount, ← Bool.decide_or]
    apply decide_eq_decide.2
    rw [lt_max_iff, or_comm]
  show (if input.hasOnChainActivity then _ else if input.hasPerformanceArtifacts then _ else _) =
    if 0 < readiness.onChainEvidenceCount then _ else _
  rw [hactivity, hperformance]
  by_cases hcount : 0 < readiness.onChainEvidenceCount
  · rw [if_pos (decide_eq_true hcount), if_pos hcount]
  · rw [if_neg (by simp [hcount]), if_neg hcount]

theorem performanceStatus_eq
    (hrealized : input.dossier.realizedApyPct = readiness.realizedApyPct)
    (hperformance : input.hasPerformanceArtifacts = readiness.hasBacktestOrPerformanceEvidence) :
    input.performanceArtifact.status = readiness.performanceCheck.status := by
  unfold SubmissionBundleInput.performanceArtifact SubmissionReadinessInput.performanceCheck
  rw [hrealized, hperformance]

end Statuses

def bundleInput : SubmissionBundleInput where
  dossier := tables.getSubmissionDossier env
  evidence := tables.listSubmissionEvidence env

theorem checksAgree :
    ChecksAgree (tables.getSubmissionDossier env).readiness
      (tables.getSubmissionExportBundle env) := by
  have hbytype (type : SubmissionEvidenceType) := length_evidenceByType env tables type
    (normalizeSubmissionCluster (tables.getSubmissionDossierRecord env).cluster)
    (tables.submissionCluster env)
  have hbacktest : (bundleInput env tables).backtestEvidence = [] :=
    backtestEvidence_eq_nil env tables _
  have hperformance : (bundleInput env tables).hasPerformanceArtifacts =
      (tables.submissionReadinessInput env).hasBacktestOrPerformanceEvidence :=
    hasPerformanceArtifacts_eq (hbytype .performance_snapshot) hbacktest
  have honchain : (bundleInput env tables).onChainArtifact.status =
      (tables.submissionReadinessInput env).onChainCheck.status :=
    onChainStatus_eq (length_onChainEvidenceInWindow env tables _ _) rfl hperformance
  have hrealized : (bundleInput env tables).performanceArtifact.status =
      (tables.submissionReadinessInput env).performanceCheck.status :=
    performanceStatus_eq rfl hperformance
  constructor
  · intro keys hkeys
    simp only [sharedChecks, List.mem_cons, List.not_mem_nil, or_false] at hkeys
    rcases hkeys with rfl | rfl | rfl | rfl | rfl | rfl
    · exact ⟨_, rfl, rfl⟩
    · exact ⟨_, rfl, rfl⟩
    · exact ⟨_, rfl, rfl⟩
    · exact ⟨_, rfl, rfl⟩
    · exact ⟨_, rfl, congrArg some honchain⟩
    · exact ⟨_, rfl, congrArg some hrealized⟩
  · refine ⟨_, _, rfl, rfl, congrArg (fun ready => some (passIf ready)) ?_⟩
    have hhistory : (!(evidenceByType (tables.listSubmissionEvidence env)
        .cex_trade_history).isEmpty) =
        decide (0 < (tables.submissionReadinessInput env).cexTradeHistoryEvidenceCount) :=
      not_isEmpty_eq (hbytype .cex_trade_history)
    have hapi : (!(evidenceByType (tables.listSubmissionEvidence env)
        .cex_read_only_api).isEmpty) =
        decide (0 < (tables.submissionReadinessInput env).cexReadOnlyApiEvidenceCount) :=
      not_isEmpty_eq (hbytype .cex_read_only_api)
    rw [SubmissionReadinessInput.cexArtifactsReady, SubmissionReadinessInput.cexArtifactsProvided,
      Bool.or_and_distrib_left, ← hhistory, ← hapi]
    rfl

end Checks

section Recording

variable (env : SubmissionEnvironment)

/-- Evidence is recorded one after the other; what is accepted is answered with its record. -/
def recordEach : List (RecordSubmissionEvidenceInput × Date) → SubmissionTables →
    List (RecordSubmissionEvidenceInput × SubmissionEvidenceRecord) × SubmissionTables
  | [], tables => ([], tables)
  | (input, now) :: inputs, tables =>
    let (accepted, final) := recordEach inputs (tables.recordSubmissionEvidence env input now).2
    match (tables.recordSubmissionEvidence env input now).1 with
    | .ok record => ((input, record) :: accepted, final)
    | .error _ => (accepted, final)

variable {now : Date}

theorem evidenceType_of_row (h : tables.submissionEvidenceRow env input now = .ok row) :
    row.id = tables.evidence.length ∧
      row.evidenceType = (normalizeSubmissionEvidenceType input.evidenceType.text).text := by
  unfold SubmissionTables.submissionEvidenceRow at h
  split at h
  · cases h
  · split_ifs at h
    obtain rfl := Except.ok.inj h
    exact ⟨rfl, rfl⟩

theorem recordSubmissionEvidence_of_error {message : String}
    (h : (tables.ensureRecords env).submissionEvidenceRow env input now = .error message) :
    tables.recordSubmissionEvidence env input now = (.error message, tables.ensureRecords env) := by
  rw [SubmissionTables.recordSubmissionEvidence]
  simp only [h]

theorem recordSubmissionEvidence_of_ok
    (h : (tables.ensureRecords env).submissionEvidenceRow env input now = .ok row) :
    tables.recordSubmissionEvidence env input now =
      (.ok (mapSubmissionEvidenceRow env row (normalizeSubmissionCluster
        ((tables.ensureRecords env).getSubmissionDossierRecord env).cluster)),
        (tables.ensureRecords env).insertEvidence row) := by
  rw [SubmissionTables.recordSubmissionEvidence]
  simp only [h]

/-- Recording appends a row for an accepted input, and leaves the evidence otherwise. -/
theorem recordSubmissionEvidence_cases (tables : SubmissionTables)
    (input : RecordSubmissionEvidenceInput) (now : Date) :
    (∃ record row, (tables.recordSubmissionEvidence env input now).1 = .ok record ∧
      (tables.recordSubmissionEvidence env input now).2.evidence = tables.evidence ++ [row] ∧
      row.id = record.evidenceId ∧
      row.evidenceType = (normalizeSubmissionEvidenceType input.evidenceType.text).text) ∨
    ∃ message, (tables.recordSubmissionEvidence env input now).1 = .error message ∧
      (tables.recordSubmissionEvidence env input now).2.evidence = tables.evidence := by
  cases hrow : (tables.ensureRecords env).submissionEvidenceRow env input now with
  | error message =>
    rw [recordSubmissionEvidence_of_error env hrow]
    exact Or.inr ⟨message, rfl, rfl⟩
  | ok row =>
    obtain ⟨hid, htype⟩ := evidenceType_of_row env hrow
    rw [recordSubmissionEvidence_of_ok env hrow]
    exact Or.inl ⟨_, { row with id := tables.evidence.length }, rfl, rfl, hid.symm, htype⟩

/-- The row of every accepted input is still there at the end. -/
theorem mem_recordEach (inputs : List (RecordSubmissionEvidenceInput × Date))
    (tables : SubmissionTables) :
    (∃ added, (recordEach env inputs tables).2.evidence = tables.evidence ++ added) ∧
    ∀ accepted ∈ (recordEach env inputs tables).1,
      ∃ row ∈ (recordEach env inputs tables).2.evidence, row.id = accepted.2.evidenceId ∧
        row.evidenceType = (normalizeSubmissionEvidenceType accepted.1.evidenceType.text).text := by
  induction inputs generalizing tables with
  | nil => exact ⟨⟨[], (List.append_nil _).symm⟩, by simp [recordEach]⟩
  | cons head inputs ih =>
    obtain ⟨input, now⟩ := head
    obtain ⟨⟨added, hadded⟩, hrest⟩ := ih (tables.recordSubmissionEvidence env input now).2
    rcases recordSubmissionEvidence_cases env tables input now with
      ⟨record, row, hresult, hevidence, hid, htype⟩ | ⟨message, hresult, hevidence⟩
    · rw [hevidence, List.append_assoc] at hadded
      simp only [recordEach, hresult]
      refine ⟨⟨_, hadded⟩, fun accepted haccepted => ?_⟩
      rcases List.mem_cons.1 haccepted with rfl | haccepted
      · refine ⟨row, ?_, hid, htype⟩
        rw [hadded]
        exact List.mem_append_right _ (List.mem_append_left _ (List.mem_singleton_self row))
      · exact hrest accepted haccepted
    · rw [hevidence] at hadded
      simp only [recordEach, hresult]
      exact ⟨⟨added, hadded⟩, hrest⟩

theorem evidenceType_of_listed (hrow : row ∈ tables.evidence) {record : SubmissionEvidenceRecord}
    (hrecord : record ∈ tables.listSubmissionEvidence env) (hid : record.evidenceId = row.id) :
    record.evidenceType = normalizeSubmissionEvidenceType row.evidenceType := by
  obtain ⟨other, hother, rfl⟩ := List.mem_map.1 hrecord
  have hnodup : (tables.evidence.map SubmissionEvidenceRow.id).Nodup :=
    tables.ids ▸ List.nodup_range
  have hmem : other ∈ tables.evidence := (List.mem_insertionSort _).1 hother
  rw [List.inj_on_of_nodup_map hnodup hmem hrow hid]
  rfl

theorem exists_listed (hrow : row ∈ tables.evidence) :
    ∃ record ∈ tables.listSubmissionEvidence env, record.evidenceId = row.id :=
  ⟨_, List.mem_map_of_mem ((List.mem_insertionSort _).2 hrow), rfl⟩

/-- The checks that occur in both agree, and what is listed with the id of an accepted record has the
type that was recorded. -/
structure SubmissionConsistent
    (accepted : List (RecordSubmissionEvidenceInput × SubmissionEvidenceRecord))
    (tables : SubmissionTables) : Prop where
  checks : ChecksAgree (tables.getSubmissionDossier env).readiness
    (tables.getSubmissionExportBundle env)
  types : ∀ pair ∈ accepted, ∃ record ∈ tables.listSubmissionEvidence env,
    record.evidenceId = pair.2.evidenceId ∧ record.evidenceType = pair.1.evidenceType

/-- From every state and for every list of evidence: the dossier and the bundle agree and the types
are read back exactly if no accepted evidence is a backtest simulation. -/
theorem submission_consistent_iff (tables : SubmissionTables)
    (inputs : List (RecordSubmissionEvidenceInput × Date)) :
    let run := recordEach env inputs tables
    SubmissionConsistent env run.1 run.2 ↔
      ∀ pair ∈ run.1, pair.1.evidenceType ≠ .backtest_simulation := by
  intro run
  have hread {row : SubmissionEvidenceRow} {pair : RecordSubmissionEvidenceInput ×
      SubmissionEvidenceRecord} (hrow : row.evidenceType =
        (normalizeSubmissionEvidenceType pair.1.evidenceType.text).text) :
      normalizeSubmissionEvidenceType row.evidenceType = pair.1.evidenceType ↔
        pair.1.evidenceType ≠ .backtest_simulation := by
    rw [hrow, normalizeSubmissionEvidenceType_idem, normalizeSubmissionEvidenceType_text_iff]
  constructor
  · intro h pair hpair
    obtain ⟨row, hrow, hid, htype⟩ := (mem_recordEach env inputs tables).2 pair hpair
    obtain ⟨record, hrecord, hid', htype'⟩ := h.types pair hpair
    have hlisted := evidenceType_of_listed env hrow hrecord (hid'.trans hid.symm)
    exact (hread htype).1 (hlisted.symm.trans htype')
  · intro h
    refine ⟨checksAgree env run.2, fun pair hpair => ?_⟩
    obtain ⟨row, hrow, hid, htype⟩ := (mem_recordEach env inputs tables).2 pair hpair
    obtain ⟨record, hrecord, hid'⟩ := exists_listed env hrow
    refine ⟨record, hrecord, hid'.trans hid, ?_⟩
    rw [evidenceType_of_listed env hrow hrecord hid']
    exact (hread htype).2 (h pair hpair)

/-- No profile, no execution and no evidence yet. -/
def emptyTables : SubmissionTables where
  vault := none
  profile := none
  strategy :=
    { environment := .devnet
      eligible := true
      blockedReasons := []
      realizedApyPct := none }
  executions := []
  evidence := []
  ids := rfl

def sampleEnvironment : SubmissionEnvironment where
  defaultVault :=
    { baseAsset := "USDC"
      lockPeriodMonths := 3
      rolling := true
      reassessmentCadenceMonths := 3
      targetApyFloorPct := ⟨"10", 10⟩ }
  buildWindowStart := 0
  buildWindowEnd := 100
  encodeURIComponent := id

def backtestInput : RecordSubmissionEvidenceInput where
  evidenceType := .backtest_simulation
  status := some .recorded
  source := some .runtime
  label := "Backtest: sample"
  summary := none
  reference := none
  url := none
  capturedAt := some (some 10)
  withinBuildWindow := none
  notes := none

theorem backtest_read_as_document :
    ¬ SubmissionConsistent sampleEnvironment
      (recordEach sampleEnvironment [(backtestInput, 10)] emptyTables).1
      (recordEach sampleEnvironment [(backtestInput, 10)] emptyTables).2 := by
  intro h
  obtain ⟨record, hrecord, -, htype⟩ := h.types _ (List.mem_cons_self ..)
  have hdocument : ∀ record ∈ (recordEach sampleEnvironment [(backtestInput, 10)]
      emptyTables).2.listSubmissionEvidence sampleEnvironment,
      record.evidenceType = .document := by
    decide +kernel
  rw [hdocument record hrecord] at htype
  cases htype

end Recording

end Submission

end SentinelApex
