import SentinelApex.Domain.Json

/-!
# The strategy policy of the carry sleeve

`buildCarryStrategyProfile` completes the metadata of a strategy with defaults and judges it by six
rules. A strategy is eligible exactly if it passes all of them (`status_eq_eligible_iff`).
-/

namespace SentinelApex

/-! ## Data -/

inductive BuildABearYieldSourceCategory where
  | deltaNeutralCarry
  | fundingBasis
  | yieldBearingStableCircular
  | juniorTranche
  | insurancePool
  | dexLp
  | leverageLooping
  | other
  deriving DecidableEq, Repr

def BuildABearYieldSourceCategory.text : BuildABearYieldSourceCategory → String
  | .deltaNeutralCarry => "delta_neutral_carry"
  | .fundingBasis => "funding_basis"
  | .yieldBearingStableCircular => "yield_bearing_stable_circular"
  | .juniorTranche => "junior_tranche"
  | .insurancePool => "insurance_pool"
  | .dexLp => "dex_lp"
  | .leverageLooping => "leverage_looping"
  | .other => "other"

inductive BuildABearLeverageModel where
  | unlevered
  | perpBasisHedged
  | looping
  | otherLeveraged
  deriving DecidableEq, Repr

def BuildABearLeverageModel.text : BuildABearLeverageModel → String
  | .unlevered => "unlevered"
  | .perpBasisHedged => "perp_basis_hedged"
  | .looping => "looping"
  | .otherLeveraged => "other_leveraged"

inductive BuildABearOracleDependencyClass where
  | hardcoded
  | marketOracleNonHardcoded
  | externalOracleNonHardcoded
  deriving DecidableEq, Repr

def BuildABearOracleDependencyClass.text : BuildABearOracleDependencyClass → String
  | .hardcoded => "hardcoded"
  | .marketOracleNonHardcoded => "market_oracle_non_hardcoded"
  | .externalOracleNonHardcoded => "external_oracle_non_hardcoded"

inductive CarryStrategyApyEvidenceKind where
  | projected
  | backtested
  | devnet
  | liveVerified
  | unavailable
  deriving DecidableEq, Repr

inductive CarryStrategyEvidenceScope where
  | devnet
  | backtest
  | live
  | simulation
  | unknown
  deriving DecidableEq, Repr

inductive CarryStrategyLatestEvidenceSource where
  | none
  | projected
  | backtest
  | devnetExecution
  | liveExecution
  deriving DecidableEq, Repr

inductive CarryStrategyEligibilityStatus where
  | eligible
  | ineligible
  deriving DecidableEq, Repr

inductive CarryStrategyRuleKey where
  | baseAssetUsdc
  | tenorThreeMonthRolling
  | targetApyFloor
  | allowedYieldSource
  | leverageHealthMetadata
  | unsafeLoopingLeverage
  deriving DecidableEq, Repr

inductive CarryStrategyRuleStatus where
  | pass
  | fail
  deriving DecidableEq, Repr

structure PolicyDecimal where
  text : String
  value : Decimal
  deriving DecidableEq

/-- `x.toFixed(2)`. -/
def PolicyDecimal.twoPlaces (x : Decimal) : PolicyDecimal := ⟨x.toFixed 2, x.roundPlaces 2⟩

/-- A text that `decimal.js` reads, or one that its constructor refuses. -/
inductive DecimalInput where
  | decimal (x : Decimal)
  | other (s : String)

structure BuildABearStrategyPolicy where
  baseAsset : String
  lockPeriodMonths : Number
  rolling : Bool
  reassessmentCadenceMonths : Number
  minimumTargetApyPct : PolicyDecimal
  minimumLoopHealthRate : PolicyDecimal

structure CarryStrategyRuleResult where
  ruleKey : CarryStrategyRuleKey
  status : CarryStrategyRuleStatus
  summary : String
  blockedReason : Option String
  details : List (String × Json)

structure CarryStrategyApyModel where
  targetFloorPct : PolicyDecimal
  targetApyPct : PolicyDecimal
  projectedApyPct : Option PolicyDecimal
  projectedApySource : CarryStrategyApyEvidenceKind
  realizedApyPct : Option PolicyDecimal
  realizedApySource : CarryStrategyApyEvidenceKind
  realizedApyUpdatedAt : Option String
  summary : String

structure CarryStrategyTenorModel where
  lockPeriodMonths : Number
  rolling : Bool
  reassessmentCadenceMonths : Number
  summary : String

structure CarryStrategyRiskLimit where
  key : String
  value : String
  summary : String

structure CarryStrategyEvidenceSummary where
  environment : CarryStrategyEvidenceScope
  supportLabel : String
  supportedScope : List String
  blockedScope : List String
  latestExecutionId : Option String
  latestExecutionReference : Option String
  latestConfirmationStatus : Option String
  latestEvidenceSource : CarryStrategyLatestEvidenceSource
  summary : String

/-- The evidence that a caller supplies. -/
structure CarryStrategyEvidenceInput where
  environment : Option CarryStrategyEvidenceScope := none
  supportLabel : Option String := none
  supportedScope : Option (List String) := none
  blockedScope : Option (List String) := none
  latestExecutionId : Option String := none
  latestExecutionReference : Option String := none
  latestConfirmationStatus : Option String := none
  latestEvidenceSource : Option CarryStrategyLatestEvidenceSource := none
  summary : Option String := none

structure CarryStrategyEligibility where
  status : CarryStrategyEligibilityStatus
  summary : String
  blockedReasons : List String
  ruleResults : List CarryStrategyRuleResult

/-- The identifiers and the reassessment policy are constants of the type and left out. -/
structure CarryStrategyProfile where
  strategyName : String
  vaultBaseAsset : String
  yieldSourceCategory : BuildABearYieldSourceCategory
  leverageModel : BuildABearLeverageModel
  leverageHealthThreshold : Option PolicyDecimal
  oracleDependencyClass : BuildABearOracleDependencyClass
  thesis : String
  riskProfile : String
  disallowedYieldSources : List BuildABearYieldSourceCategory
  apy : CarryStrategyApyModel
  tenor : CarryStrategyTenorModel
  riskLimits : List CarryStrategyRiskLimit
  evidence : CarryStrategyEvidenceSummary
  eligibility : CarryStrategyEligibility

/-- What a caller knows of a strategy; `null` and absent values are treated alike. -/
structure CarryStrategyProfileInput where
  strategyName : Option String := none
  vaultBaseAsset : Option String := none
  yieldSourceCategory : Option BuildABearYieldSourceCategory := none
  leverageModel : Option BuildABearLeverageModel := none
  leverageHealthThreshold : Option DecimalInput := none
  oracleDependencyClass : Option BuildABearOracleDependencyClass := none
  targetApyPct : Option DecimalInput := none
  projectedApyPct : Option DecimalInput := none
  projectedApySource : Option CarryStrategyApyEvidenceKind := none
  realizedApyPct : Option DecimalInput := none
  realizedApySource : Option CarryStrategyApyEvidenceKind := none
  realizedApyUpdatedAt : Option String := none
  lockPeriodMonths : Option Number := none
  rolling : Option Bool := none
  reassessmentCadenceMonths : Option Number := none
  thesis : Option String := none
  riskProfile : Option String := none
  riskLimits : Option (List CarryStrategyRiskLimit) := none
  evidence : CarryStrategyEvidenceInput := {}

def defaultBuildABearStrategyPolicy : BuildABearStrategyPolicy where
  baseAsset := "USDC"
  lockPeriodMonths := 3
  rolling := true
  reassessmentCadenceMonths := 3
  minimumTargetApyPct := ⟨"10.00", 10⟩
  minimumLoopHealthRate := ⟨"1.05", 105 / 100⟩

def disallowedBuildABearYieldSources : List BuildABearYieldSourceCategory :=
  [.yieldBearingStableCircular, .juniorTranche, .insurancePool, .dexLp]

/-! ## Defaults -/

namespace CarryStrategyProfile

def normalizeDecimalString : Option DecimalInput → Option PolicyDecimal
  | some (.decimal x) => some (.twoPlaces x)
  | _ => none

def buildDefaultRiskLimits (healthThreshold : Option PolicyDecimal) : List CarryStrategyRiskLimit :=
  [{ key := "max_drawdown_pct"
     value := "12.00"
     summary := "Strategy-level drawdown limit for hackathon-facing vault metadata." },
   { key := "min_health_threshold"
     value := healthThreshold.elim "unknown" PolicyDecimal.text
     summary := "Explicit leverage health threshold metadata is required whenever leverage is " ++
       "present." },
   { key := "max_single_action_notional_usd"
     value := "25000.00"
     summary := "Carry action notional stays bounded while live execution remains limited to the " ++
       "current approved devnet lane." }]

def buildEvidenceSummary (input : CarryStrategyEvidenceInput) : CarryStrategyEvidenceSummary :=
  let latestEvidenceSource := input.latestEvidenceSource.getD .none
  { environment := input.environment.getD .devnet
    supportLabel := input.supportLabel.getD "jupiter_perps_devnet"
    supportedScope := input.supportedScope.getD
      ["USDC-denominated carry strategy metadata and policy enforcement.",
       "Jupiter Perpetuals devnet execution for BTC-PERP, ETH-PERP, SOL-PERP.",
       "Backtesting framework for strategy validation.",
       "Multi-leg carry orchestration framework."]
    blockedScope := input.blockedScope.getD
      ["Mainnet execution remains blocked (devnet only for hackathon).",
       "No legacy execution venue support outside Jupiter Perps.",
       "New markets, non-USDC base assets, and DEX LP / junior tranche / insurance pool / " ++
         "circular-yield strategies remain blocked.",
       "CEX execution adapters not implemented."]
    latestExecutionId := input.latestExecutionId
    latestExecutionReference := input.latestExecutionReference
    latestConfirmationStatus := input.latestConfirmationStatus
    latestEvidenceSource
    summary := input.summary.getD
      (if latestEvidenceSource = .devnetExecution then
        "The strategy has Jupiter Perpetuals devnet execution evidence."
      else "The strategy policy is configured for Jupiter Perpetuals devnet execution.") }

section

variable (input : CarryStrategyProfileInput) (policy : BuildABearStrategyPolicy)

def targetApyPct : PolicyDecimal :=
  (normalizeDecimalString input.targetApyPct).getD policy.minimumTargetApyPct

/-- Only a strategy without a leverage model of its own has a default threshold. -/
def leverageHealthThresholdOf : Option PolicyDecimal :=
  normalizeDecimalString (input.leverageHealthThreshold.or
    (if input.leverageModel.isNone then some (.decimal (110 / 100)) else none))

def tenorOf : CarryStrategyTenorModel :=
  let lockPeriodMonths := input.lockPeriodMonths.getD policy.lockPeriodMonths
  let reassessmentCadenceMonths :=
    input.reassessmentCadenceMonths.getD policy.reassessmentCadenceMonths
  { lockPeriodMonths
    rolling := input.rolling.getD policy.rolling
    reassessmentCadenceMonths
    summary := s!"Lock period is {Number.toText lockPeriodMonths} months and reassessment occurs " ++
      s!"every {Number.toText reassessmentCadenceMonths} months on a rolling basis." }

def apyOf : CarryStrategyApyModel :=
  let projectedApyPct := normalizeDecimalString input.projectedApyPct
  let realizedApyPct := normalizeDecimalString input.realizedApyPct
  { targetFloorPct := policy.minimumTargetApyPct
    targetApyPct := targetApyPct input policy
    projectedApyPct
    projectedApySource := input.projectedApySource.getD
      (if projectedApyPct.isNone then .unavailable else .projected)
    realizedApyPct
    realizedApySource := input.realizedApySource.getD
      (if realizedApyPct.isNone then .unavailable else .devnet)
    realizedApyUpdatedAt := input.realizedApyUpdatedAt
    summary :=
      if realizedApyPct.isNone then
        "Realized APY is currently unavailable or unverified; only target and projected APY are " ++
          "surfaced."
      else "Realized APY is surfaced with explicit evidence labeling and is not conflated with " ++
        "projected APY." }

def baseAssetOf : String := input.vaultBaseAsset.getD policy.baseAsset

def yieldSourceCategoryOf : BuildABearYieldSourceCategory :=
  input.yieldSourceCategory.getD .deltaNeutralCarry

def leverageModelOf : BuildABearLeverageModel := input.leverageModel.getD .perpBasisHedged

def oracleDependencyClassOf : BuildABearOracleDependencyClass :=
  input.oracleDependencyClass.getD .marketOracleNonHardcoded

/-! ## Rules -/

def buildRuleResult (ruleKey : CarryStrategyRuleKey) (passes : Prop) [Decidable passes]
    (passSummary failSummary blockedReason : String) (details : List (String × Json)) :
    CarryStrategyRuleResult where
  ruleKey
  status := if passes then .pass else .fail
  summary := if passes then passSummary else failSummary
  blockedReason := if passes then none else some blockedReason
  details

def jsonText (text : Option PolicyDecimal) : Json := text.elim .null fun t => .str t.text

def ValidTenor : Prop :=
  (tenorOf input policy).lockPeriodMonths = policy.lockPeriodMonths ∧
    (tenorOf input policy).rolling = policy.rolling ∧
    (tenorOf input policy).reassessmentCadenceMonths = policy.reassessmentCadenceMonths

instance : Decidable (ValidTenor input policy) := inferInstanceAs (Decidable (_ ∧ _))

def LeverageMetadataPresent : Prop :=
  leverageModelOf input = .unlevered ∨ leverageHealthThresholdOf input ≠ none

instance : Decidable (LeverageMetadataPresent input) := inferInstanceAs (Decidable (_ ∨ _))

def UnsafeLooping : Prop :=
  leverageModelOf input = .looping ∧ oracleDependencyClassOf input ≠ .hardcoded ∧
    ∀ threshold ∈ leverageHealthThresholdOf input,
      threshold.value < policy.minimumLoopHealthRate.value

instance : Decidable (UnsafeLooping input policy) := inferInstanceAs (Decidable (_ ∧ _))

def ruleResults : List CarryStrategyRuleResult :=
  let baseAsset := baseAssetOf input policy
  let tenor := tenorOf input policy
  let target := (targetApyPct input policy).text
  let minimum := policy.minimumTargetApyPct.text
  let category := (yieldSourceCategoryOf input).text
  let threshold := leverageHealthThresholdOf input
  let thresholdText := threshold.elim "unknown" PolicyDecimal.text
  let leverageModel : String × Json := ("leverageModel", .str (leverageModelOf input).text)
  [buildRuleResult .baseAssetUsdc (baseAsset = policy.baseAsset)
    "Vault base asset is USDC as required."
    s!"Vault base asset {baseAsset} is not eligible; Build-A-Bear requires USDC."
    "vault_base_asset_must_be_usdc"
    [("expectedBaseAsset", .str policy.baseAsset), ("observedBaseAsset", .str baseAsset)],
   buildRuleResult .tenorThreeMonthRolling (ValidTenor input policy)
    "Tenor is a 3-month rolling lock with 3-month reassessment cadence."
    "Tenor is not the required 3-month rolling lock with 3-month reassessment cadence."
    "vault_tenor_must_be_three_month_rolling"
    [("expectedLockPeriodMonths", .num policy.lockPeriodMonths),
     ("expectedRolling", .bool policy.rolling),
     ("expectedReassessmentCadenceMonths", .num policy.reassessmentCadenceMonths),
     ("observedLockPeriodMonths", .num tenor.lockPeriodMonths),
     ("observedRolling", .bool tenor.rolling),
     ("observedReassessmentCadenceMonths", .num tenor.reassessmentCadenceMonths)],
   buildRuleResult .targetApyFloor
    (policy.minimumTargetApyPct.value ≤ (targetApyPct input policy).value)
    s!"Target APY floor is {target}% and meets the {minimum}% minimum."
    s!"Target APY floor {target}% is below the {minimum}% minimum."
    "target_apy_floor_below_minimum"
    [("minimumTargetApyPct", .str minimum), ("observedTargetApyPct", .str target)],
   buildRuleResult .allowedYieldSource
    (yieldSourceCategoryOf input ∉ disallowedBuildABearYieldSources)
    s!"Yield source category {category} is allowed for Build-A-Bear."
    s!"Yield source category {category} is explicitly disallowed for Build-A-Bear."
    "yield_source_category_disallowed"
    [("yieldSourceCategory", .str category),
     ("disallowedYieldSources", .arr (disallowedBuildABearYieldSources.map fun source =>
        .str source.text))],
   buildRuleResult .leverageHealthMetadata (LeverageMetadataPresent input)
    "Leverage metadata is explicit and includes a health threshold."
    "Leverage metadata is incomplete because no health-threshold floor was provided."
    "leverage_health_threshold_required"
    [leverageModel, ("leverageHealthThreshold", jsonText threshold)],
   buildRuleResult .unsafeLoopingLeverage (¬ UnsafeLooping input policy)
    "No disqualifying unsafe looping leverage condition is present."
    (s!"Looping strategy health threshold {thresholdText} is below " ++
      s!"{policy.minimumLoopHealthRate.text} on a non-hardcoded oracle dependency.")
    "unsafe_looping_leverage_disallowed"
    [leverageModel, ("leverageHealthThreshold", jsonText threshold),
     ("oracleDependencyClass", .str (oracleDependencyClassOf input).text),
     ("minimumLoopHealthRate", .str policy.minimumLoopHealthRate.text)]]

def eligibilityOf (ruleResults : List CarryStrategyRuleResult) : CarryStrategyEligibility :=
  let blockedReasons := ruleResults.flatMap fun rule =>
    if rule.status = .fail then rule.blockedReason.toList else []
  { status := if blockedReasons.length = 0 then .eligible else .ineligible
    summary :=
      if blockedReasons.length = 0 then
        "Strategy metadata satisfies the Build-A-Bear product-policy rules, but execution scope " ++
          "remains narrow and devnet-only."
      else "Strategy metadata does not currently satisfy all Build-A-Bear product-policy rules " ++
        "and remains blocked."
    blockedReasons
    ruleResults }

def buildCarryStrategyProfile : CarryStrategyProfile where
  strategyName := input.strategyName.getD "Apex USDC Delta-Neutral Carry"
  vaultBaseAsset := baseAssetOf input policy
  yieldSourceCategory := yieldSourceCategoryOf input
  leverageModel := leverageModelOf input
  leverageHealthThreshold := leverageHealthThresholdOf input
  oracleDependencyClass := oracleDependencyClassOf input
  thesis := input.thesis.getD
    ("Capture delta-neutral carry in a USDC-denominated sleeve without DEX LP, junior tranche, " ++
      "insurance-pool, or circular stable yield exposure.")
  riskProfile := input.riskProfile.getD
    ("Constrained, operator-supervised carry strategy with explicit tenor, APY target floor, and " ++
      "venue-scope gating.")
  disallowedYieldSources := disallowedBuildABearYieldSources
  apy := apyOf input policy
  tenor := tenorOf input policy
  riskLimits := input.riskLimits.getD (buildDefaultRiskLimits (leverageHealthThresholdOf input))
  evidence := buildEvidenceSummary input.evidence
  eligibility := eligibilityOf (ruleResults input policy)

/-! ## Eligibility -/

/-- What the six rules ask for. -/
@[mk_iff]
structure Eligible : Prop where
  baseAsset : baseAssetOf input policy = policy.baseAsset
  tenor : ValidTenor input policy
  targetApy : policy.minimumTargetApyPct.value ≤ (targetApyPct input policy).value
  yieldSource : yieldSourceCategoryOf input ∉ disallowedBuildABearYieldSources
  leverageMetadata : LeverageMetadataPresent input
  looping : ¬ UnsafeLooping input policy

instance : Decidable (Eligible input policy) := decidable_of_iff' _ (eligible_iff input policy)

variable {input policy}

theorem buildRuleResult_status_ne_fail {ruleKey : CarryStrategyRuleKey} {passes : Prop}
    [Decidable passes] {passSummary failSummary blockedReason : String}
    {details : List (String × Json)} :
    (buildRuleResult ruleKey passes passSummary failSummary blockedReason details).status ≠ .fail ↔
      passes := by
  unfold buildRuleResult
  by_cases h : passes <;> simp [h]

theorem ruleResults_pass_iff :
    (∀ rule ∈ ruleResults input policy, rule.status ≠ .fail) ↔ Eligible input policy := by
  unfold ruleResults
  dsimp only
  simp only [List.forall_mem_cons, buildRuleResult_status_ne_fail]
  constructor
  · rintro ⟨hasset, htenor, htarget, hsource, hmetadata, hlooping, -⟩
    exact ⟨hasset, htenor, htarget, hsource, hmetadata, hlooping⟩
  · rintro ⟨hasset, htenor, htarget, hsource, hmetadata, hlooping⟩
    exact ⟨hasset, htenor, htarget, hsource, hmetadata, hlooping, by simp⟩

end

end CarryStrategyProfile

end SentinelApex
