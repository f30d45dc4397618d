import Mathlib.Data.List.Sort
import SentinelApex.Domain.Json

/-!
# The submission dossier

Evidence is recorded for the one submission of the vault. The readiness of the dossier and the
checklist of the export bundle are computed from the vault, the submission profile, the executions in
the build window and the evidence as it is read back.
-/

namespace SentinelApex

namespace Submission

/-! ## Data -/

inductive SubmissionCluster where
  | devnet
  | mainnet_beta
  | unknown
  deriving DecidableEq

inductive VaultExecutionEnvironment where
  | simulated
  | devnet
  | mainnet
  deriving DecidableEq

inductive SubmissionAddressScope where
  | wallet
  | vault
  | both
  | unconfigured
  deriving DecidableEq

def SubmissionAddressScope.text : SubmissionAddressScope → String
  | wallet => "wallet"
  | vault => "vault"
  | both => "both"
  | unconfigured => "unconfigured"

inductive SubmissionEvidenceType where
  | on_chain_transaction
  | performance_snapshot
  | cex_trade_history
  | cex_read_only_api
  | backtest_simulation
  | document
  deriving DecidableEq

def SubmissionEvidenceType.text : SubmissionEvidenceType → String
  | on_chain_transaction => "on_chain_transaction"
  | performance_snapshot => "performance_snapshot"
  | cex_trade_history => "cex_trade_history"
  | cex_read_only_api => "cex_read_only_api"
  | backtest_simulation => "backtest_simulation"
  | document => "document"

inductive SubmissionEvidenceStatus where
  | recorded
  | verified
  | rejected
  deriving DecidableEq

def SubmissionEvidenceStatus.text : SubmissionEvidenceStatus → String
  | recorded => "recorded"
  | verified => "verified"
  | rejected => "rejected"

inductive SubmissionEvidenceSource where
  | manual
  | runtime
  | solscan
  | exchange_export
  | exchange_api
  deriving DecidableEq

def SubmissionEvidenceSource.text : SubmissionEvidenceSource → String
  | manual => "manual"
  | runtime => "runtime"
  | solscan => "solscan"
  | exchange_export => "exchange_export"
  | exchange_api => "exchange_api"

inductive SubmissionCheckStatus where
  | pass
  | warning
  | fail
  deriving DecidableEq

inductive RepositoryVisibility where
  | isPublic
  | isPrivate
  | unknown
  deriving DecidableEq

def RepositoryVisibility.text : RepositoryVisibility → String
  | isPublic => "public"
  | isPrivate => "private"
  | unknown => "unknown"

structure DecimalText where
  text : String
  value : Decimal

/-- The metadata of the profile, as `readSubmissionMetadata` reads it. -/
structure SubmissionMetadata where
  rangerVaultAddress : Option String := none
  rangerLpMintAddress : Option String := none
  rangerStrategyAddress : Option String := none
  rangerStrategyInitialized : Bool := false
  rangerFundsAllocated : Bool := false
  strategyDocumentationUrl : Option String := none
  codeRepositoryUrl : Option String := none
  codeRepositoryVisibility : RepositoryVisibility := .unknown
  privateRepoReviewerAdded : Bool := false

/-! ## Texts that are read -/

def normalizeOptionalText : Option String → Option String
  | none => none
  | some value => if Json.trim value = "" then none else some (Json.trim value)

def normalizeSubmissionCluster (value : String) : SubmissionCluster :=
  if value = "devnet" then .devnet
  else if value = "mainnet-beta" then .mainnet_beta
  else .unknown

def SubmissionCluster.text : SubmissionCluster → String
  | devnet => "devnet"
  | mainnet_beta => "mainnet-beta"
  | unknown => "unknown"

def mapVaultExecutionEnvironmentToSubmissionCluster :
    VaultExecutionEnvironment → SubmissionCluster
  | .devnet => .devnet
  | .mainnet => .mainnet_beta
  | .simulated => .unknown

def normalizeSubmissionEvidenceType (value : String) : SubmissionEvidenceType :=
  if value = "on_chain_transaction" then .on_chain_transaction
  else if value = "performance_snapshot" then .performance_snapshot
  else if value = "cex_trade_history" then .cex_trade_history
  else if value = "cex_read_only_api" then .cex_read_only_api
  else .document

def normalizeSubmissionEvidenceStatus (value : Option String) : SubmissionEvidenceStatus :=
  if value = some "verified" then .verified
  else if value = some "rejected" then .rejected
  else .recorded

def normalizeSubmissionEvidenceSource (value : Option String) : SubmissionEvidenceSource :=
  if value = some "runtime" then .runtime
  else if value = some "solscan" then .solscan
  else if value = some "exchange_export" then .exchange_export
  else if value = some "exchange_api" then .exchange_api
  else .manual

/-- A secret that is given as a reference is not stored. -/
def sanitizeSubmissionEvidenceReference (evidenceType : SubmissionEvidenceType)
    (reference : Option String) : Option String :=
  if evidenceType = .cex_read_only_api then none else reference

def resolveSubmissionAddressScope (walletAddress vaultAddress : Option String) :
    SubmissionAddressScope :=
  if walletAddress.isSome ∧ vaultAddress.isSome then .both
  else if walletAddress.isSome then .wallet
  else if vaultAddress.isSome then .vault
  else .unconfigured

/-- `kind` is `account` or `tx`. -/
def buildSolscanUrl (encodeURIComponent : String → String) (kind : String) (value : Option String)
    (cluster : SubmissionCluster) : Option String :=
  match value with
  | none => none
  | some value =>
    if cluster = .unknown then none
    else
      let clusterQuery := if cluster = .devnet then "?cluster=devnet" else ""
      some s!"https://solscan.io/{kind}/{encodeURIComponent value}{clusterQuery}"

/-! ## Readiness -/

structure SubmissionReadinessCheck where
  key : String
  status : SubmissionCheckStatus
  summary : String
  blockedReason : Option String
  details : List (String × Json)

inductive SubmissionReadinessStatus where
  | ready
  | incomplete
  | blocked
  deriving DecidableEq

structure SubmissionReadiness where
  status : SubmissionReadinessStatus
  summary : String
  blockedReasons : List String
  warnings : List String
  checks : List SubmissionReadinessCheck

structure SubmissionReadinessInput where
  addressScope : SubmissionAddressScope
  cluster : SubmissionCluster
  baseAsset : String
  lockPeriodMonths : ℤ
  rolling : Bool
  reassessmentCadenceMonths : ℤ
  targetApyFloorPct : DecimalText
  strategyEligible : Bool
  strategyBlockedReasons : List String
  realizedApyPct : Option DecimalText
  realExecutionCountInWindow : ℕ
  onChainEvidenceCountInWindow : ℕ
  performanceEvidenceCount : ℕ
  cexExecutionUsed : Bool
  cexTradeHistoryProvided : Bool
  cexReadOnlyApiKeyProvided : Bool
  cexTradeHistoryEvidenceCount : ℕ
  cexReadOnlyApiEvidenceCount : ℕ
  metadata : SubmissionMetadata

namespace SubmissionMetadata

variable (metadata : SubmissionMetadata)

def repositoryReviewable : Bool :=
  metadata.codeRepositoryUrl.isSome &&
    (decide (metadata.codeRepositoryVisibility = .isPublic) ||
      decide (metadata.codeRepositoryVisibility = .isPrivate) && metadata.privateRepoReviewerAdded)

def rangerConfigured : Bool :=
  metadata.rangerVaultAddress.isSome && metadata.rangerLpMintAddress.isSome &&
    metadata.rangerStrategyAddress.isSome && metadata.rangerStrategyInitialized

def repositoryBlockedReason : Option String :=
  if metadata.repositoryReviewable then none
  else if metadata.codeRepositoryUrl.isNone then some "code_repository_missing"
  else some "private_repo_reviewer_access_missing"

def rangerStatus : SubmissionCheckStatus :=
  if metadata.rangerConfigured then if metadata.rangerFundsAllocated then .pass else .warning
  else .fail

def rangerBlockedReason : Option String :=
  if metadata.rangerConfigured then
    if metadata.rangerFundsAllocated then none else some "ranger_strategy_not_yet_allocated"
  else some "ranger_earn_setup_incomplete"

def documentationBlockedReason : Option String :=
  if metadata.strategyDocumentationUrl.isSome then none else some "strategy_documentation_missing"

end SubmissionMetadata

/-- `pass` if the condition holds, `fail` otherwise. -/
def passIf (condition : Bool) : SubmissionCheckStatus := if condition then .pass else .fail

def reasonUnless (condition : Bool) (reason : String) : Option String :=
  if condition then none else some reason

/-- `Number` of a count. -/
def countJson (n : ℕ) : Json := .num n

namespace SubmissionReadinessInput

variable (input : SubmissionReadinessInput)

def documentationCheck : SubmissionReadinessCheck where
  key := "strategy_documentation_present"
  status := passIf input.metadata.strategyDocumentationUrl.isSome
  summary := if input.metadata.strategyDocumentationUrl.isSome then
      "Strategy documentation URL is recorded for reviewer access."
    else "Strategy documentation is still missing. Submission requires a written strategy thesis " ++
      "and risk management explanation."
  blockedReason := input.metadata.documentationBlockedReason
  details := [("strategyDocumentationUrl", Json.ofOption input.metadata.strategyDocumentationUrl)]

def repositoryCheck : SubmissionReadinessCheck where
  key := "code_repository_reviewable"
  status := passIf input.metadata.repositoryReviewable
  summary :=
    if input.metadata.codeRepositoryUrl.isNone then "Code repository URL is still missing."
    else if input.metadata.codeRepositoryVisibility = .isPublic then
      "Public code repository URL is recorded."
    else if input.metadata.codeRepositoryVisibility = .isPrivate ∧
        input.metadata.privateRepoReviewerAdded then
      "Private repository is recorded and reviewer access is marked as granted."
    else "Repository is private, but reviewer access for @jakeyvee is not yet marked as granted."
  blockedReason := input.metadata.repositoryBlockedReason
  details := [("codeRepositoryUrl", Json.ofOption input.metadata.codeRepositoryUrl),
    ("codeRepositoryVisibility", .str input.metadata.codeRepositoryVisibility.text),
    ("privateRepoReviewerAdded", .bool input.metadata.privateRepoReviewerAdded)]

def rangerCheck : SubmissionReadinessCheck where
  key := "ranger_earn_setup"
  status := input.metadata.rangerStatus
  summary :=
    if !input.metadata.rangerConfigured then
      "Submission is not yet fully configured through Ranger Earn; vault, LP mint, and " ++
        "initialized strategy details are still missing."
    else if input.metadata.rangerFundsAllocated then
      "Ranger vault, LP mint, and initialized strategy are recorded, and funds have been allocated."
    else "Ranger vault and strategy are configured, but no strategy allocation has been marked yet."
  blockedReason := input.metadata.rangerBlockedReason
  details := [("rangerVaultAddress", Json.ofOption input.metadata.rangerVaultAddress),
    ("rangerLpMintAddress", Json.ofOption input.metadata.rangerLpMintAddress),
    ("rangerStrategyAddress", Json.ofOption input.metadata.rangerStrategyAddress),
    ("rangerStrategyInitialized", .bool input.metadata.rangerStrategyInitialized),
    ("rangerFundsAllocated", .bool input.metadata.rangerFundsAllocated)]

def addressCheck : SubmissionReadinessCheck where
  key := "submission_address_present"
  status := passIf (input.addressScope ≠ .unconfigured)
  summary := if input.addressScope = .unconfigured then
      "Submission is missing both wallet and vault addresses."
    else "Submission includes a wallet or vault address for on-chain verification."
  blockedReason := reasonUnless (input.addressScope ≠ .unconfigured) "submission_address_required"
  details := [("addressScope", .str input.addressScope.text)]

def clusterCheck : SubmissionReadinessCheck where
  key := "submission_cluster_known"
  status := passIf (input.cluster ≠ .unknown)
  summary := match input.cluster with
    | .mainnet_beta => "Submission is configured for mainnet-beta verification."
    | .devnet => "Submission is configured for devnet verification. This is acceptable for " ++
        "hackathon review, though mainnet evidence is stronger for seeding."
    | .unknown => "Submission cluster is still unknown; set a concrete cluster for verification " ++
        "and reviewer clarity."
  blockedReason := reasonUnless (input.cluster ≠ .unknown) "submission_cluster_unknown"
  details := [("cluster", .str input.cluster.text)]

def baseAssetCheck : SubmissionReadinessCheck where
  key := "base_asset_usdc"
  status := passIf (input.baseAsset = "USDC")
  summary := if input.baseAsset = "USDC" then "Vault base asset is USDC as required."
    else s!"Vault base asset {input.baseAsset} is not eligible; Build-A-Bear requires USDC."
  blockedReason := reasonUnless (input.baseAsset = "USDC") "vault_base_asset_must_be_usdc"
  details := [("baseAsset", .str input.baseAsset)]

def validTenor : Bool :=
  decide (input.lockPeriodMonths = 3) && input.rolling &&
    decide (input.reassessmentCadenceMonths = 3)

def tenorCheck : SubmissionReadinessCheck where
  key := "tenor_three_month_rolling"
  status := passIf input.validTenor
  summary := if input.validTenor then
      "Vault tenor is a 3-month rolling lock with 3-month reassessment."
    else "Vault tenor does not match the required 3-month rolling lock with 3-month reassessment."
  blockedReason := reasonUnless input.validTenor "vault_tenor_must_be_three_month_rolling"
  details := [("lockPeriodMonths", .num input.lockPeriodMonths), ("rolling", .bool input.rolling),
    ("reassessmentCadenceMonths", .num input.reassessmentCadenceMonths)]

def targetApyCheck : SubmissionReadinessCheck where
  key := "target_apy_floor"
  status := passIf (10 ≤ input.targetApyFloorPct.value)
  summary := if 10 ≤ input.targetApyFloorPct.value then
      s!"Configured APY floor {input.targetApyFloorPct.text}% meets the 10% minimum."
    else s!"Configured APY floor {input.targetApyFloorPct.text}% is below the 10% minimum."
  blockedReason :=
    reasonUnless (10 ≤ input.targetApyFloorPct.value) "target_apy_floor_below_minimum"
  details := [("targetApyFloorPct", .str input.targetApyFloorPct.text)]

def strategyCheck : SubmissionReadinessCheck where
  key := "strategy_policy_eligibility"
  status := passIf input.strategyEligible
  summary := if input.strategyEligible then
      "Strategy metadata currently satisfies the Build-A-Bear policy rules."
    else "Strategy metadata is still blocked by Build-A-Bear policy rules."
  blockedReason := if input.strategyEligible then none
    else some (input.strategyBlockedReasons.head?.getD "strategy_policy_ineligible")
  details := [("strategyEligibilityStatus", .str (if input.strategyEligible then "eligible"
      else "ineligible")),
    ("strategyBlockedReasons", .arr (input.strategyBlockedReasons.map .str))]

def hasBacktestOrPerformanceEvidence : Bool := decide (0 < input.performanceEvidenceCount)

def performanceCheck : SubmissionReadinessCheck where
  key := "realized_performance_evidence"
  status := match input.realizedApyPct with
    | none => if input.hasBacktestOrPerformanceEvidence then .warning else .fail
    | some realizedApyPct => passIf (10 ≤ realizedApyPct.value)
  summary := match input.realizedApyPct with
    | none =>
      if input.hasBacktestOrPerformanceEvidence then
        "Performance or backtest artifacts exist, but realized APY is still not persisted as a " ++
          "numeric value. This is acceptable for review but weaker than live realized performance."
      else "Realized APY evidence is not currently persisted."
    | some realizedApyPct =>
      if 10 ≤ realizedApyPct.value then
        s!"Realized APY {realizedApyPct.text}% meets the 10% minimum."
      else s!"Realized APY {realizedApyPct.text}% is below the 10% minimum."
  blockedReason := match input.realizedApyPct with
    | none =>
      if input.hasBacktestOrPerformanceEvidence then some "live_realized_apy_not_yet_persisted"
      else some "realized_apy_evidence_missing"
    | some realizedApyPct =>
      reasonUnless (10 ≤ realizedApyPct.value) "realized_apy_below_minimum"
  details := [("realizedApyPct", Json.ofOption (input.realizedApyPct.map DecimalText.text)),
    ("performanceEvidenceCount", countJson input.performanceEvidenceCount)]

def onChainEvidenceCount : ℕ :=
  max input.realExecutionCountInWindow input.onChainEvidenceCountInWindow

def onChainCheck : SubmissionReadinessCheck where
  key := "on_chain_trade_evidence"
  status := if 0 < input.onChainEvidenceCount then .pass
    else if input.hasBacktestOrPerformanceEvidence then .warning else .fail
  summary :=
    if 0 < input.onChainEvidenceCount then
      if 0 < input.onChainEvidenceCountInWindow then
        s!"Submission window includes {input.onChainEvidenceCountInWindow} explicit on-chain " ++
          "evidence record(s)."
      else
        s!"Submission window includes {input.realExecutionCountInWindow} real execution record(s)."
    else if input.hasBacktestOrPerformanceEvidence then
      "No real on-chain execution evidence is currently persisted inside the submission window, " ++
        "but performance/backtest artifacts exist. Live on-chain activity is preferred, not " ++
        "strictly required."
    else "No real on-chain execution evidence is currently persisted inside the submission window."
  blockedReason :=
    if 0 < input.onChainEvidenceCount then none
    else if input.hasBacktestOrPerformanceEvidence then some "live_on_chain_evidence_missing"
    else some "on_chain_trade_evidence_missing"
  details := [("realExecutionCountInWindow", countJson input.realExecutionCountInWindow),
    ("onChainEvidenceCountInWindow", countJson input.onChainEvidenceCountInWindow)]

def cexArtifactsProvided : Bool :=
  (input.cexTradeHistoryProvided || decide (0 < input.cexTradeHistoryEvidenceCount)) &&
    (input.cexReadOnlyApiKeyProvided || decide (0 < input.cexReadOnlyApiEvidenceCount))

def cexArtifactsReady : Bool := !input.cexExecutionUsed || input.cexArtifactsProvided

def cexCheck : SubmissionReadinessCheck where
  key := "cex_verification_artifacts"
  status := passIf input.cexArtifactsReady
  summary :=
    if !input.cexExecutionUsed then
      "CEX verification artifacts are not required for an on-chain-only submission."
    else if input.cexArtifactsProvided then
      "Required CEX verification artifacts are marked as provided."
    else "CEX execution is enabled, but the required trade history or read-only API key artifact " ++
      "is still missing."
  blockedReason := reasonUnless input.cexArtifactsReady "cex_verification_artifacts_missing"
  details := [("cexExecutionUsed", .bool input.cexExecutionUsed),
    ("cexTradeHistoryProvided", .bool input.cexTradeHistoryProvided),
    ("cexReadOnlyApiKeyProvided", .bool input.cexReadOnlyApiKeyProvided),
    ("cexTradeHistoryEvidenceCount", countJson input.cexTradeHistoryEvidenceCount),
    ("cexReadOnlyApiEvidenceCount", countJson input.cexReadOnlyApiEvidenceCount)]

def checks : List SubmissionReadinessCheck :=
  [input.documentationCheck, input.repositoryCheck, input.rangerCheck, input.addressCheck,
    input.clusterCheck, input.baseAssetCheck, input.tenorCheck, input.targetApyCheck,
    input.strategyCheck, input.performanceCheck, input.onChainCheck, input.cexCheck]

end SubmissionReadinessInput

def reasonsOf (status : SubmissionCheckStatus) (checks : List SubmissionReadinessCheck) :
    List String :=
  checks.filterMap fun check => if check.status = status then check.blockedReason else none

def buildSubmissionReadiness (input : SubmissionReadinessInput) : SubmissionReadiness :=
  let blockedReasons := reasonsOf .fail input.checks
  let warnings := reasonsOf .warning input.checks
  let status : SubmissionReadinessStatus :=
    if !blockedReasons.isEmpty then .blocked
    else if !warnings.isEmpty then .incomplete
    else .ready
  { status
    summary := match status with
      | .ready => "Submission dossier has the required eligibility, address, and evidence markers " ++
          "to support Build-A-Bear review."
      | .incomplete => "Submission dossier is usable for review, but stronger live evidence or " ++
          "cleaner verification artifacts would improve it."
      | .blocked => "Submission dossier is still blocked because one or more eligibility or " ++
          "verification requirements are unmet."
    blockedReasons
    warnings
    checks := input.checks }

/-! ## Rows -/

/-- A row of `vault_submission_evidence`: type, status and source are texts. -/
structure SubmissionEvidenceRow where
  id : ℕ
  evidenceType : String
  status : String
  source : String
  label : String
  summary : Option String
  reference : Option String
  url : Option String
  capturedAt : Option Date
  withinBuildWindow : Bool
  notes : Option String
  createdAt : Date

structure SubmissionEvidenceRecord where
  evidenceId : ℕ
  evidenceType : SubmissionEvidenceType
  status : SubmissionEvidenceStatus
  source : SubmissionEvidenceSource
  label : String
  summary : Option String
  reference : Option String
  url : Option String
  capturedAt : Option Date
  withinBuildWindow : Bool
  notes : Option String

structure SubmissionVault where
  baseAsset : String
  lockPeriodMonths : ℤ
  rolling : Bool
  reassessmentCadenceMonths : ℤ
  targetApyFloorPct : DecimalText

/-- A row of `vault_submission_profiles`. -/
structure SubmissionProfile where
  buildWindowStart : Date
  buildWindowEnd : Date
  cluster : String
  walletAddress : Option String
  vaultAddress : Option String
  cexExecutionUsed : Bool
  cexTradeHistoryProvided : Bool
  cexReadOnlyApiKeyProvided : Bool
  metadata : SubmissionMetadata

/-- A carry execution, with the references of its ten newest steps. -/
structure SubmissionExecution where
  simulated : Bool
  createdAt : Date
  venueExecutionReference : Option String
  stepReferences : List (Option String)

/-- What the dossier reads of the strategy profile. -/
structure SubmissionStrategy where
  environment : VaultExecutionEnvironment
  eligible : Bool
  blockedReasons : List String
  realizedApyPct : Option DecimalText

/-- The executions are in the order of their creation, the newest first. The ids of the evidence
count its rows. -/
structure SubmissionTables where
  vault : Option SubmissionVault
  profile : Option SubmissionProfile
  strategy : SubmissionStrategy
  executions : List SubmissionExecution
  evidence : List SubmissionEvidenceRow
  ids : evidence.map SubmissionEvidenceRow.id = List.range evidence.length

/-- What the program is configured with, and `encodeURIComponent`. -/
structure SubmissionEnvironment where
  defaultVault : SubmissionVault
  buildWindowStart : Date
  buildWindowEnd : Date
  encodeURIComponent : String → String

/-! ## The dossier -/

/-- The dates in descending order, with rows without a date first. -/
def SubmissionEvidenceRow.later (first second : SubmissionEvidenceRow) : Prop :=
  match first.capturedAt, second.capturedAt with
  | none, none => second.createdAt ≤ first.createdAt
  | none, some _ => True
  | some _, none => False
  | some firstAt, some secondAt =>
    secondAt < firstAt ∨ secondAt = firstAt ∧ second.createdAt ≤ first.createdAt

instance : DecidableRel SubmissionEvidenceRow.later := fun first second => by
  unfold SubmissionEvidenceRow.later
  split <;> infer_instance

structure SubmissionDossier where
  cluster : SubmissionCluster
  addressScope : SubmissionAddressScope
  walletAddress : Option String
  walletVerificationUrl : Option String
  vaultAddress : Option String
  vaultVerificationUrl : Option String
  latestExecutionReferenceUrl : Option String
  metadata : SubmissionMetadata
  realExecutionCountInWindow : ℕ
  realizedApyPct : Option DecimalText
  cexExecutionUsed : Bool
  cexTradeHistoryProvided : Bool
  cexReadOnlyApiKeyProvided : Bool
  readiness : SubmissionReadiness

section Store

variable (env : SubmissionEnvironment)

def buildDefaultSubmissionConfig : SubmissionProfile where
  buildWindowStart := env.buildWindowStart
  buildWindowEnd := env.buildWindowEnd
  cluster := "unknown"
  walletAddress := none
  vaultAddress := none
  cexExecutionUsed := false
  cexTradeHistoryProvided := false
  cexReadOnlyApiKeyProvided := false
  metadata := {}

def mapSubmissionEvidenceRow (row : SubmissionEvidenceRow) (cluster : SubmissionCluster) :
    SubmissionEvidenceRecord :=
  let evidenceType := normalizeSubmissionEvidenceType row.evidenceType
  let reference := normalizeOptionalText row.reference
  { evidenceId := row.id
    evidenceType
    status := normalizeSubmissionEvidenceStatus row.status
    source := normalizeSubmissionEvidenceSource row.source
    label := row.label
    summary := normalizeOptionalText row.summary
    reference
    url := (normalizeOptionalText row.url).or
      (if evidenceType = .on_chain_transaction then
        buildSolscanUrl env.encodeURIComponent "tx" reference cluster else none)
    capturedAt := row.capturedAt
    withinBuildWindow := row.withinBuildWindow
    notes := normalizeOptionalText row.notes }

def evidenceByType (evidence : List SubmissionEvidenceRecord) (type : SubmissionEvidenceType) :
    List SubmissionEvidenceRecord :=
  evidence.filter fun item =>
    decide (item.evidenceType = type) && decide (item.status ≠ .rejected)

def onChainEvidenceInWindow (evidence : List SubmissionEvidenceRecord) :
    List SubmissionEvidenceRecord :=
  (evidenceByType evidence .on_chain_transaction).filter fun item => item.withinBuildWindow

namespace SubmissionTables

variable (tables : SubmissionTables)

def getVaultCurrentRecord : SubmissionVault := tables.vault.getD env.defaultVault

def getSubmissionDossierRecord : SubmissionProfile :=
  tables.profile.getD (buildDefaultSubmissionConfig env)

def getSubmissionEvidenceRows : List SubmissionEvidenceRow :=
  tables.evidence.insertionSort SubmissionEvidenceRow.later

def executionsInWindow : List SubmissionExecution :=
  let profile := tables.getSubmissionDossierRecord env
  tables.executions.filter fun row =>
    decide (profile.buildWindowStart ≤ row.createdAt) &&
      decide (row.createdAt ≤ profile.buildWindowEnd)

def realExecutionsInWindow : List SubmissionExecution :=
  (tables.executionsInWindow env).filter fun row => !row.simulated

/-- The cluster of the profile, or else the one of the strategy's environment. -/
def submissionCluster : SubmissionCluster :=
  let profile := tables.getSubmissionDossierRecord env
  if profile.cluster = "unknown" then
    mapVaultExecutionEnvironmentToSubmissionCluster tables.strategy.environment
  else normalizeSubmissionCluster profile.cluster

def latestStepReference (row : SubmissionExecution) : Option String :=
  match row.stepReferences.find? fun reference => (normalizeOptionalText reference).isSome with
  | some reference => reference
  | none => (row.stepReferences.head?).join

def latestExecutionReference (onChainEvidence : List SubmissionEvidenceRecord) : Option String :=
  let latestRealExecutionRow := (tables.realExecutionsInWindow env).head?
  normalizeOptionalText
    ((onChainEvidence.head?.bind fun item => item.reference).or
      ((latestRealExecutionRow.bind latestStepReference).or
        (latestRealExecutionRow.bind fun row => row.venueExecutionReference)))

def dossierEvidence : List SubmissionEvidenceRecord :=
  tables.getSubmissionEvidenceRows.map fun row =>
    mapSubmissionEvidenceRow env row (tables.submissionCluster env)

def submissionReadinessInput : SubmissionReadinessInput :=
  let vault := tables.getVaultCurrentRecord env
  let profile := tables.getSubmissionDossierRecord env
  let evidence := tables.dossierEvidence env
  { addressScope := resolveSubmissionAddressScope (normalizeOptionalText profile.walletAddress)
      (normalizeOptionalText profile.vaultAddress)
    cluster := tables.submissionCluster env
    baseAsset := vault.baseAsset
    lockPeriodMonths := vault.lockPeriodMonths
    rolling := vault.rolling
    reassessmentCadenceMonths := vault.reassessmentCadenceMonths
    targetApyFloorPct := vault.targetApyFloorPct
    strategyEligible := tables.strategy.eligible
    strategyBlockedReasons := tables.strategy.blockedReasons
    realizedApyPct := tables.strategy.realizedApyPct
    realExecutionCountInWindow := (tables.realExecutionsInWindow env).length
    onChainEvidenceCountInWindow := (onChainEvidenceInWindow evidence).length
    performanceEvidenceCount := (evidenceByType evidence .performance_snapshot).length
    cexExecutionUsed := profile.cexExecutionUsed
    cexTradeHistoryProvided := profile.cexTradeHistoryProvided
    cexReadOnlyApiKeyProvided := profile.cexReadOnlyApiKeyProvided
    cexTradeHistoryEvidenceCount := (evidenceByType evidence .cex_trade_history).length
    cexReadOnlyApiEvidenceCount := (evidenceByType evidence .cex_read_only_api).length
    metadata := profile.metadata }

def getSubmissionDossier : SubmissionDossier :=
  let profile := tables.getSubmissionDossierRecord env
  let walletAddress := normalizeOptionalText profile.walletAddress
  let vaultAddress := normalizeOptionalText profile.vaultAddress
  let cluster := tables.submissionCluster env
  { cluster
    addressScope := resolveSubmissionAddressScope walletAddress vaultAddress
    walletAddress
    walletVerificationUrl := buildSolscanUrl env.encodeURIComponent "account" walletAddress cluster
    vaultAddress
    vaultVerificationUrl := buildSolscanUrl env.encodeURIComponent "account" vaultAddress cluster
    latestExecutionReferenceUrl := buildSolscanUrl env.encodeURIComponent "tx"
      (tables.latestExecutionReference env (onChainEvidenceInWindow (tables.dossierEvidence env)))
      cluster
    metadata := profile.metadata
    realExecutionCountInWindow := (tables.realExecutionsInWindow env).length
    realizedApyPct := tables.strategy.realizedApyPct
    cexExecutionUsed := profile.cexExecutionUsed
    cexTradeHistoryProvided := profile.cexTradeHistoryProvided
    cexReadOnlyApiKeyProvided := profile.cexReadOnlyApiKeyProvided
    readiness := buildSubmissionReadiness (tables.submissionReadinessInput env) }

/-- Here the cluster is the one of the profile only. -/
def listSubmissionEvidence : List SubmissionEvidenceRecord :=
  let cluster := normalizeSubmissionCluster (tables.getSubmissionDossierRecord env).cluster
  tables.getSubmissionEvidenceRows.map fun row => mapSubmissionEvidenceRow env row cluster

end SubmissionTables

/-! ## The export bundle -/

structure SubmissionExportArtifact where
  key : String
  label : String
  required : Bool
  status : SubmissionCheckStatus
  summary : String
  blockedReason : Option String
  evidenceCount : ℕ
  evidenceTypes : List SubmissionEvidenceType

structure SubmissionExportBundle where
  dossier : SubmissionDossier
  evidence : List SubmissionEvidenceRecord
  artifactChecklist : List SubmissionExportArtifact
  judgeSummary : String
  blockedReasons : List String
  verificationLinks : List String

structure SubmissionBundleInput where
  dossier : SubmissionDossier
  evidence : List SubmissionEvidenceRecord

namespace SubmissionBundleInput

variable (input : SubmissionBundleInput)

def onChainEvidence : List SubmissionEvidenceRecord := onChainEvidenceInWindow input.evidence

def performanceEvidence : List SubmissionEvidenceRecord :=
  evidenceByType input.evidence .performance_snapshot

def backtestEvidence : List SubmissionEvidenceRecord :=
  evidenceByType input.evidence .backtest_simulation

def addressCount : ℕ :=
  ([input.dossier.walletAddress, input.dossier.vaultAddress].filter Option.isSome).length

def documentationArtifact : SubmissionExportArtifact where
  key := "strategy_documentation"
  label := "Strategy documentation"
  required := true
  status := passIf input.dossier.metadata.strategyDocumentationUrl.isSome
  summary := if input.dossier.metadata.strategyDocumentationUrl.isSome then
      "Strategy documentation URL is recorded."
    else "Strategy documentation URL is still missing."
  blockedReason := input.dossier.metadata.documentationBlockedReason
  evidenceCount := if input.dossier.metadata.strategyDocumentationUrl.isSome then 1 else 0
  evidenceTypes := []

def repositoryArtifact : SubmissionExportArtifact where
  key := "code_repository"
  label := "Code repository access"
  required := true
  status := passIf input.dossier.metadata.repositoryReviewable
  summary :=
    if input.dossier.metadata.codeRepositoryUrl.isNone then "Code repository URL is still missing."
    else if input.dossier.metadata.codeRepositoryVisibility = .isPublic then
      "Public code repository URL is recorded."
    else if input.dossier.metadata.privateRepoReviewerAdded then
      "Private code repository is recorded and reviewer access is marked as granted."
    else "Private code repository is recorded, but reviewer access for @jakeyvee is not yet " ++
      "marked as granted."
  blockedReason := input.dossier.metadata.repositoryBlockedReason
  evidenceCount := if input.dossier.metadata.codeRepositoryUrl.isSome then 1 else 0
  evidenceTypes := []

def rangerArtifact : SubmissionExportArtifact where
  key := "ranger_earn_setup"
  label := "Ranger Earn vault setup"
  required := true
  status := input.dossier.metadata.rangerStatus
  summary :=
    if !input.dossier.metadata.rangerConfigured then
      "Ranger Earn vault setup is incomplete; vault address, LP mint, or initialized strategy " ++
        "details are missing."
    else if input.dossier.metadata.rangerFundsAllocated then
      "Ranger vault, LP mint, initialized strategy, and allocation markers are all present."
    else "Ranger vault is configured, but no strategy allocation marker has been recorded yet."
  blockedReason := input.dossier.metadata.rangerBlockedReason
  evidenceCount := 0
  evidenceTypes := []

def addressArtifact : SubmissionExportArtifact where
  key := "addresses"
  label := "Canonical wallet or vault address"
  required := true
  status := passIf (input.dossier.addressScope ≠ .unconfigured)
  summary := if input.dossier.addressScope = .unconfigured then
      "Submission is still missing a canonical wallet or vault address."
    else s!"Submission exposes {input.addressCount} canonical on-chain verification address(es)."
  blockedReason :=
    reasonUnless (input.dossier.addressScope ≠ .unconfigured) "submission_address_required"
  evidenceCount := input.addressCount
  evidenceTypes := []

/-- Evidence is attached to the build window, or executions are persisted in it. -/
def hasOnChainActivity : Bool :=
  !input.onChainEvidence.isEmpty || decide (0 < input.dossier.realExecutionCountInWindow)

def hasPerformanceArtifacts : Bool :=
  !input.performanceEvidence.isEmpty || !input.backtestEvidence.isEmpty

def onChainArtifact : SubmissionExportArtifact where
  key := "on_chain_trade_activity"
  label := "On-chain trade activity in the build window"
  required := true
  status := if input.hasOnChainActivity then .pass
    else if input.hasPerformanceArtifacts then .warning else .fail
  summary :=
    if !input.onChainEvidence.isEmpty then
      s!"{input.onChainEvidence.length} explicit on-chain transaction evidence item(s) are " ++
        "attached to the build window."
    else if 0 < input.dossier.realExecutionCountInWindow then
      s!"Runtime persists {input.dossier.realExecutionCountInWindow} real execution record(s) in " ++
        "the build window, but no explicit evidence attachment was recorded."
    else if input.hasPerformanceArtifacts then
      "No on-chain trade evidence is attached to the build window, but backtest or performance " ++
        "artifacts are attached. Reviewable, but weaker than live activity."
    else "No on-chain trade evidence is attached to the build window."
  blockedReason :=
    if input.hasOnChainActivity then none
    else if input.hasPerformanceArtifacts then some "live_on_chain_evidence_missing"
    else some "on_chain_trade_evidence_missing"
  evidenceCount := input.onChainEvidence.length
  evidenceTypes := [.on_chain_transaction]

def performanceArtifact : SubmissionExportArtifact where
  key := "realized_performance"
  label := "Realized performance evidence"
  required := true
  status := match input.dossier.realizedApyPct with
    | none => if input.hasPerformanceArtifacts then .warning else .fail
    | some realizedApyPct => passIf (10 ≤ realizedApyPct.value)
  summary := match input.dossier.realizedApyPct with
    | none =>
      if input.hasPerformanceArtifacts then
        "Performance or backtest evidence is attached, but no realized APY value is persisted yet."
      else "No realized APY evidence is attached or persisted yet."
    | some realizedApyPct =>
      if 10 ≤ realizedApyPct.value then
        s!"Realized APY {realizedApyPct.text}% is persisted and meets the minimum."
      else s!"Realized APY {realizedApyPct.text}% is persisted but below the 10% minimum."
  blockedReason := match input.dossier.realizedApyPct with
    | none =>
      if input.hasPerformanceArtifacts then some "live_realized_apy_not_yet_persisted"
      else some "realized_apy_evidence_missing"
    | some realizedApyPct =>
      reasonUnless (10 ≤ realizedApyPct.value) "realized_apy_below_minimum"
  evidenceCount := input.performanceEvidence.length
  evidenceTypes := [.performance_snapshot, .backtest_simulation]

/-- An artifact that a submission needs only if it trades on a centralised exchange. -/
def cexArtifact (key label providedSummary missingSummary : String) (provided : Bool)
    (evidenceType : SubmissionEvidenceType) : SubmissionExportArtifact :=
  let evidence := evidenceByType input.evidence evidenceType
  let ready := !input.dossier.cexExecutionUsed || (provided || !evidence.isEmpty)
  { key
    label
    required := input.dossier.cexExecutionUsed
    status := passIf ready
    summary :=
      if !input.dossier.cexExecutionUsed then "Not required for an on-chain-only submission."
      else if provided || !evidence.isEmpty then providedSummary
      else missingSummary
    blockedReason := reasonUnless ready "cex_verification_artifacts_missing"
    evidenceCount := evidence.length
    evidenceTypes := [evidenceType] }

def cexTradeHistoryArtifact : SubmissionExportArtifact :=
  input.cexArtifact "cex_trade_history" "CEX trade history export"
    "CEX trade history evidence is marked as provided." "CEX trade history export is still missing."
    input.dossier.cexTradeHistoryProvided .cex_trade_history

def cexReadOnlyApiArtifact : SubmissionExportArtifact :=
  input.cexArtifact "cex_read_only_api" "CEX read-only API verification"
    "CEX read-only API verification is marked as provided."
    "CEX read-only API verification is still missing."
    input.dossier.cexReadOnlyApiKeyProvided .cex_read_only_api

/-- This one is optional. -/
def backtestArtifact : SubmissionExportArtifact where
  key := "backtest_simulation"
  label := "Historical backtest simulation results"
  required := false
  status := if input.backtestEvidence.isEmpty then .warning else .pass
  summary := if input.backtestEvidence.isEmpty then
      "No backtest simulation evidence attached. Optional for submission but recommended for " ++
        "strategy validation."
    else s!"{input.backtestEvidence.length} backtest simulation result(s) attached as supporting " ++
      "evidence."
  blockedReason := none
  evidenceCount := input.backtestEvidence.length
  evidenceTypes := [.backtest_simulation]

def artifactChecklist : List SubmissionExportArtifact :=
  [input.documentationArtifact, input.repositoryArtifact, input.rangerArtifact,
    input.addressArtifact, input.onChainArtifact, input.performanceArtifact,
    input.cexTradeHistoryArtifact, input.cexReadOnlyApiArtifact, input.backtestArtifact]

end SubmissionBundleInput

def buildSubmissionExportBundle (input : SubmissionBundleInput) : SubmissionExportBundle :=
  let blockedReasons := input.artifactChecklist.filterMap fun item =>
    if item.status = .fail then item.blockedReason else none
  let verificationLinks := [input.dossier.walletVerificationUrl,
    input.dossier.vaultVerificationUrl, input.dossier.latestExecutionReferenceUrl] ++
      input.evidence.map fun item => item.url
  let joined := ", ".intercalate blockedReasons
  { dossier := input.dossier
    evidence := input.evidence
    artifactChecklist := input.artifactChecklist
    judgeSummary := if blockedReasons.isEmpty then
        "Submission bundle includes the required verification artifacts for a Build-A-Bear review."
      else
        s!"Submission bundle remains blocked by {blockedReasons.length} requirement(s): " ++
          s!"{joined}."
    blockedReasons
    verificationLinks := (verificationLinks.filterMap id).eraseDups }

namespace SubmissionTables

variable (tables : SubmissionTables)

def getSubmissionExportBundle : SubmissionExportBundle :=
  buildSubmissionExportBundle
    { dossier := tables.getSubmissionDossier env
      evidence := tables.listSubmissionEvidence env }

end SubmissionTables

/-! ## Recording evidence -/

/-- A date that does not parse is `some none`. -/
structure RecordSubmissionEvidenceInput where
  evidenceType : SubmissionEvidenceType
  status : Option SubmissionEvidenceStatus
  source : Option SubmissionEvidenceSource
  label : String
  summary : Option String
  reference : Option String
  url : Option String
  capturedAt : Option (Option Date)
  withinBuildWindow : Option Bool
  notes : Option String

namespace SubmissionTables

variable (tables : SubmissionTables)

/-- The vault is set to the configured one, and the profile is created. -/
def ensureRecords : SubmissionTables :=
  { tables with
    vault := some env.defaultVault
    profile := some (tables.getSubmissionDossierRecord env) }

/-- The row is appended, with the next id. -/
def insertEvidence (row : SubmissionEvidenceRow) : SubmissionTables :=
  { tables with
    evidence := tables.evidence ++ [{ row with id := tables.evidence.length }]
    ids := by
      rw [List.map_append, tables.ids, List.length_append, List.length_singleton, List.range_succ,
        List.map_singleton] }

def submissionEvidenceRow (input : RecordSubmissionEvidenceInput) (now : Date) :
    Except String SubmissionEvidenceRow :=
  let profile := tables.getSubmissionDossierRecord env
  let evidenceType := normalizeSubmissionEvidenceType input.evidenceType.text
  match normalizeOptionalText (some input.label) with
  | none => .error "Submission evidence requires a non-empty label."
  | some label =>
    if input.capturedAt = some none then
      .error "Submission evidence requires a valid capturedAt timestamp when provided."
    else
      let capturedAt := input.capturedAt.join
      let cluster := normalizeSubmissionCluster profile.cluster
      let reference := sanitizeSubmissionEvidenceReference evidenceType
        (normalizeOptionalText input.reference)
      .ok
        { id := tables.evidence.length
          evidenceType := evidenceType.text
          status := (normalizeSubmissionEvidenceStatus
            (input.status.map SubmissionEvidenceStatus.text)).text
          source := (normalizeSubmissionEvidenceSource
            (input.source.map SubmissionEvidenceSource.text)).text
          label
          summary := normalizeOptionalText input.summary
          reference
          url := (normalizeOptionalText input.url).or
            (if evidenceType = .on_chain_transaction then
              buildSolscanUrl env.encodeURIComponent "tx" reference cluster else none)
          capturedAt
          withinBuildWindow := input.withinBuildWindow.getD (match capturedAt with
            | none => false
            | some capturedAt => decide (profile.buildWindowStart ≤ capturedAt) &&
              decide (capturedAt ≤ profile.buildWindowEnd))
          notes := normalizeOptionalText input.notes
          createdAt := now }

def recordSubmissionEvidence (input : RecordSubmissionEvidenceInput) (now : Date) :
    Except String SubmissionEvidenceRecord × SubmissionTables :=
  let ensured := tables.ensureRecords env
  match ensured.submissionEvidenceRow env input now with
  | .error message => (.error message, ensured)
  | .ok row =>
    let cluster := normalizeSubmissionCluster (ensured.getSubmissionDossierRecord env).cluster
    (.ok (mapSubmissionEvidenceRow env row cluster), ensured.insertEvidence row)

end SubmissionTables

end Store

end Submission

end SentinelApex
