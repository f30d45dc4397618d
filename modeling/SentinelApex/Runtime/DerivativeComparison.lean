import SentinelApex.Runtime.InternalDerivativeSnapshot

/-!
# Internal state against external truth

`buildVenueDerivativeComparisonDetail` compares the internal snapshot of a venue with its latest
external one: the account, every position and open order, and the band of the health state.

Positions are paired by their market identities. For each internal position the kinds of keys are
tried in the order of their priority: the first kind that some free external position shares a key
of decides, and pairs only if there is exactly one.
-/

namespace SentinelApex

/-! ## External truth -/

structure VenueTruthDataProvenance where
  classification : String
  source : String
  notes : List String
  deriving DecidableEq

structure VenueDerivativeAccountStateSnapshot where
  accountAddress : Option String
  authorityAddress : Option String
  subaccountId : Option ℤ

inductive VenueDerivativePositionSide where
  | long
  | short
  | flat
  | unknown
  deriving DecidableEq, Repr

structure VenueDerivativePositionEntry where
  marketIndex : Option ℤ := none
  marketKey : Option String
  marketSymbol : Option String
  positionType : CanonicalMarketType
  side : VenueDerivativePositionSide
  baseAssetAmount : Option Decimal
  provenance : Option VenueTruthDataProvenance := none
  deriving DecidableEq

structure VenueDerivativeHealthState where
  healthStatus : DerivativeHealthStatus
  collateralUsd : Option Decimal := none
  marginRatio : Option Decimal := none
  leverage : Option Decimal := none
  maintenanceMarginRequirementUsd : Option Decimal := none
  initialMarginRequirementUsd : Option Decimal := none
  freeCollateralUsd : Option Decimal := none

inductive VenueOrderSide where
  | buy
  | sell
  | unknown
  deriving DecidableEq, Repr

structure VenueOrderEntry where
  marketIndex : Option ℤ := none
  venueOrderId : Option String
  marketKey : Option String
  marketSymbol : Option String
  marketType : Option CanonicalMarketType := none
  side : VenueOrderSide
  quantity : Option Decimal
  reduceOnly : Option Bool
  provenance : Option VenueTruthDataProvenance := none

/-- The sections of the coverage of a snapshot that are compared. -/
structure VenueTruthCoverage where
  derivativeAccountState : CoverageStatus
  derivativePositionState : CoverageStatus
  derivativeHealthState : CoverageStatus
  orderState : CoverageStatus

structure VenueSnapshotView where
  capturedAt : Date
  truthCoverage : VenueTruthCoverage
  derivativeAccountState : Option VenueDerivativeAccountStateSnapshot
  derivativePositionState : Option (List VenueDerivativePositionEntry)
  derivativeHealthState : Option VenueDerivativeHealthState
  orderState : Option (List VenueOrderEntry)

structure ExternalDerivativeMarketIdentity where
  asset : Option String
  marketType : CanonicalMarketType
  marketIndex : Option ℤ
  marketKey : Option String
  marketSymbol : Option String
  normalizedKey : Option String
  normalizedKeyType : MarketIdentityKeyType
  confidence : MarketIdentityConfidence
  notes : List String
  provenance : Option VenueTruthDataProvenance
  deriving DecidableEq

/-! ## Comparisons -/

inductive InternalDerivativeComparisonStatus where
  | matched
  | mismatched
  | internalOnly
  | externalOnly
  | notComparable
  deriving DecidableEq, Repr

def InternalDerivativeComparisonStatus.text : InternalDerivativeComparisonStatus → String
  | matched => "matched"
  | mismatched => "mismatched"
  | internalOnly => "internal_only"
  | externalOnly => "external_only"
  | notComparable => "not_comparable"

inductive MarketIdentityComparisonMode where
  | exact
  | partialMatch
  | unsupported
  deriving DecidableEq, Repr

structure DerivativeNormalizedMarketIdentity where
  key : Option String
  keyType : MarketIdentityKeyType
  comparisonMode : MarketIdentityComparisonMode
  notes : List String
  deriving DecidableEq

structure VenueDerivativeMarketIdentityComparison where
  comparable : Bool
  status : InternalDerivativeComparisonStatus
  comparisonMode : MarketIdentityComparisonMode
  internalIdentity : Option InternalDerivativeMarketIdentity
  externalIdentity : Option ExternalDerivativeMarketIdentity
  normalizedIdentity : Option DerivativeNormalizedMarketIdentity
  notes : List String

structure VenueDerivativePositionComparison where
  comparisonKey : String
  asset : String
  marketType : CanonicalMarketType
  comparable : Bool
  status : InternalDerivativeComparisonStatus
  quantityDelta : Option Decimal
  internalPosition : Option InternalDerivativePositionEntry
  externalPosition : Option VenueDerivativePositionEntry
  marketIdentityComparison : VenueDerivativeMarketIdentityComparison
  notes : List String

structure VenueDerivativeOrderComparison where
  comparisonKey : String
  comparable : Bool
  status : InternalDerivativeComparisonStatus
  remainingSizeDelta : Option Decimal
  internalOrder : Option InternalDerivativeOrderEntry
  externalOrder : Option VenueOrderEntry
  marketIdentityComparison : VenueDerivativeMarketIdentityComparison
  notes : List String

structure VenueDerivativeAccountComparison where
  comparable : Bool
  status : InternalDerivativeComparisonStatus
  internalState : Option InternalDerivativeAccountState
  externalState : Option VenueDerivativeAccountStateSnapshot
  notes : List String

/-- A value of a health field: a band, or an amount given by its decimal text. -/
inductive HealthFieldValue where
  | band (status : DerivativeHealthStatus)
  | amount (value : Decimal)
  deriving DecidableEq

structure VenueDerivativeHealthFieldComparison where
  field : String
  comparable : Bool
  status : InternalDerivativeComparisonStatus
  internalValue : Option HealthFieldValue
  externalValue : Option HealthFieldValue
  reason : Option String

structure VenueDerivativeHealthComparison where
  comparable : Bool
  status : InternalDerivativeComparisonStatus
  comparisonMode : InternalDerivativeHealthComparisonMode
  internalState : Option InternalDerivativeHealthState
  externalState : Option VenueDerivativeHealthState
  fields : List VenueDerivativeHealthFieldComparison
  notes : List String

namespace DerivativeComparison

open InternalDerivativeState (normaliseDecimal assetTypeKey)

def POSITION_TOLERANCE : Decimal := 1 / 10 ^ 6

def MARKET_IDENTITY_KEY_PRIORITY : List MarketIdentityKeyType :=
  [.marketIndex, .marketKey, .marketSymbol, .assetMarketType]

/-! ## Market identities -/

def assetFromMarketSymbol (marketSymbol : Option String) (marketType : CanonicalMarketType) :
    Option String :=
  marketSymbol.bind fun symbol =>
    if symbol = "" then none
    else if marketType = .perp ∧ "-PERP".toList.isSuffixOf symbol.toList then
      some (String.ofList (symbol.toList.take (symbol.toList.length - 5)))
    else some symbol

def marketIndexKey (marketType : CanonicalMarketType) (marketIndex : Option ℤ) : Option String :=
  if marketType = .unknown then none
  else marketIndex.map fun index => s!"{marketType.text}:{index}"

def marketSymbolKey (marketType : CanonicalMarketType) (marketSymbol : Option String) :
    Option String :=
  marketSymbol.bind fun symbol =>
    if marketType = .unknown ∨ symbol = "" then none else some s!"{marketType.text}:{symbol}"

/-- The identity of an external row; `subject` is what its note calls the row. -/
def buildExternalMarketIdentity (subject : String) (marketType : CanonicalMarketType)
    (marketIndex : Option ℤ) (marketKey marketSymbol : Option String)
    (provenance : Option VenueTruthDataProvenance) : ExternalDerivativeMarketIdentity :=
  match marketIndex, marketKey, marketSymbol with
  | some index, _, _ =>
    { asset := assetFromMarketSymbol marketSymbol marketType
      marketType, marketIndex := some index, marketKey, marketSymbol
      normalizedKey := marketIndexKey marketType (some index)
      normalizedKeyType := .marketIndex, confidence := .exact, notes := [], provenance }
  | none, some key, _ =>
    { asset := assetFromMarketSymbol marketSymbol marketType
      marketType, marketIndex := parseMarketIndexFromKey (some key), marketKey := some key
      marketSymbol
      normalizedKey := some key
      normalizedKeyType := .marketKey, confidence := .exact, notes := [], provenance }
  | none, none, some symbol =>
    { asset := assetFromMarketSymbol (some symbol) marketType
      marketType, marketIndex := none, marketKey := none, marketSymbol := some symbol
      normalizedKey := marketSymbolKey marketType (some symbol)
      normalizedKeyType := .marketSymbol, confidence := .exact, notes := [], provenance }
  | none, none, none =>
    { asset := none
      marketType, marketIndex := none, marketKey := none, marketSymbol := none
      normalizedKey := none
      normalizedKeyType := .unsupported, confidence := .unsupported
      notes := [s!"External {subject} did not expose a normalized market identity."], provenance }

def buildExternalPositionMarketIdentity (position : VenueDerivativePositionEntry) :
    ExternalDerivativeMarketIdentity :=
  buildExternalMarketIdentity "position" position.positionType position.marketIndex
    position.marketKey position.marketSymbol position.provenance

def buildExternalOrderMarketIdentity (order : VenueOrderEntry) : ExternalDerivativeMarketIdentity :=
  buildExternalMarketIdentity "open order" (order.marketType.getD .unknown) order.marketIndex
    order.marketKey order.marketSymbol order.provenance

structure IdentityCandidate where
  kind : MarketIdentityKeyType
  key : String
  exact : Bool
  deriving DecidableEq

/-- `push`: an absent key is skipped, and one that is there already. -/
def pushCandidate (kind : MarketIdentityKeyType) (key : Option String) (exact : Bool)
    (candidates : List IdentityCandidate) : List IdentityCandidate :=
  match key with
  | none => candidates
  | some key =>
    if candidates.any fun c => decide (c.kind = kind ∧ c.key = key) then candidates
    else candidates ++ [{ kind, key, exact }]

def internalIdentityCandidates (identity : InternalDerivativeMarketIdentity) :
    List IdentityCandidate :=
  let candidates := pushCandidate .marketIndex
    (marketIndexKey identity.marketType identity.marketIndex) true []
  let candidates := pushCandidate .marketKey identity.marketKey true candidates
  let candidates := pushCandidate .marketSymbol
    (marketSymbolKey identity.marketType identity.marketSymbol)
    (decide (identity.confidence = .exact)) candidates
  pushCandidate .assetMarketType (identity.asset.bind (assetTypeKey identity.marketType)) false
    candidates

def externalIdentityCandidates (identity : ExternalDerivativeMarketIdentity) :
    List IdentityCandidate :=
  let candidates := pushCandidate .marketIndex
    (marketIndexKey identity.marketType identity.marketIndex) true []
  let candidates := pushCandidate .marketKey identity.marketKey true candidates
  let candidates := pushCandidate .marketSymbol
    (marketSymbolKey identity.marketType identity.marketSymbol) true candidates
  pushCandidate .assetMarketType (identity.asset.bind (assetTypeKey identity.marketType)) true
    candidates

def shareKey (kind : MarketIdentityKeyType) (internal external : List IdentityCandidate) : Bool :=
  (internal.filter fun c => decide (c.kind = kind)).any fun c =>
    external.any fun c' => decide (c'.kind = kind ∧ c'.key = c.key)

def incomparableIdentity (internalIdentity : Option InternalDerivativeMarketIdentity)
    (externalIdentity : Option ExternalDerivativeMarketIdentity) (notes : List String) :
    VenueDerivativeMarketIdentityComparison where
  comparable := false
  status := .notComparable
  comparisonMode := .unsupported
  internalIdentity
  externalIdentity
  normalizedIdentity := none
  notes

def firstMatch (internal external : List IdentityCandidate) : Option IdentityCandidate :=
  MARKET_IDENTITY_KEY_PRIORITY.findSome? fun kind =>
    (internal.filter fun c => decide (c.kind = kind)).find? fun c =>
      external.any fun c' => decide (c'.kind = kind ∧ c'.key = c.key)

/-- Both sides have a value of the field, and no candidate is shared. -/
def mismatchIdentityComparison (internalIdentity : InternalDerivativeMarketIdentity)
    (externalIdentity : ExternalDerivativeMarketIdentity) (key : Option String)
    (keyType : MarketIdentityKeyType) (note normalizedNote : String) :
    VenueDerivativeMarketIdentityComparison where
  comparable := true
  status := .mismatched
  comparisonMode := .exact
  internalIdentity := some internalIdentity
  externalIdentity := some externalIdentity
  normalizedIdentity := some { key, keyType, comparisonMode := .exact, notes := [normalizedNote] }
  notes := [note]

def compareMarketIdentity (internalIdentity : Option InternalDerivativeMarketIdentity)
    (externalIdentity : Option ExternalDerivativeMarketIdentity) :
    VenueDerivativeMarketIdentityComparison :=
  match internalIdentity, externalIdentity with
  | some internal, some external =>
    match firstMatch (internalIdentityCandidates internal) (externalIdentityCandidates external) with
    | some candidate =>
      let comparisonMode : MarketIdentityComparisonMode :=
        if candidate.kind = .marketIndex ∨ candidate.kind = .marketKey ∨
          candidate.kind = .marketSymbol ∧ candidate.exact = true then .exact else .partialMatch
      { comparable := true
        status := .matched
        comparisonMode
        internalIdentity
        externalIdentity
        normalizedIdentity := some
          { key := some candidate.key
            keyType := candidate.kind
            comparisonMode
            notes :=
              if comparisonMode = .partialMatch then
                ["Market identity aligned through a derived internal key rather than a " ++
                  "venue-native exact key."]
              else [] }
        notes :=
          if comparisonMode = .partialMatch then
            ["Internal market identity aligned to external venue truth through a partial or " ++
              "derived key."]
          else [] }
    | none =>
      if internal.marketType = external.marketType ∧ internal.marketIndex.isSome ∧
          external.marketIndex.isSome then
        mismatchIdentityComparison internal external
          (marketIndexKey internal.marketType internal.marketIndex) .marketIndex
          "Internal and external market indexes disagree for the same market type."
          "Exact market-index comparison detected a mismatch."
      else if internal.marketType = external.marketType ∧ internal.marketKey.isSome ∧
          external.marketKey.isSome then
        mismatchIdentityComparison internal external internal.marketKey .marketKey
          "Internal and external market keys disagree for the same market type."
          "Exact market-key comparison detected a mismatch."
      else
        incomparableIdentity internalIdentity externalIdentity
          ["The runtime could not find a truthful normalized market identity shared by the " ++
            "internal and external rows."]
  | _, _ =>
    incomparableIdentity internalIdentity externalIdentity
      ["Both internal and external market identity are required for direct market comparison."]

/-! ## Accounts and health -/

/-- Both sides are given and differ. -/
def disagree {α : Type} [DecidableEq α] (internal external : Option α) : Bool :=
  internal.isSome && external.isSome && decide (internal ≠ external)

def compareAccountState (internalState : Option InternalDerivativeSnapshot)
    (externalSnapshot : Option VenueSnapshotView) : VenueDerivativeAccountComparison :=
  let internalAccount := internalState.bind fun s => s.accountState
  let externalAccount := externalSnapshot.bind fun s => s.derivativeAccountState
  match internalAccount, externalAccount with
  | some internal, some external =>
    { comparable := true
      status :=
        if disagree internal.accountAddress external.accountAddress ||
          disagree internal.authorityAddress external.authorityAddress ||
          disagree internal.subaccountId external.subaccountId then .mismatched else .matched
      internalState := internalAccount
      externalState := externalAccount
      notes :=
        if internal.accountAddress = none ∧ internal.accountLocatorMode = .authoritySubaccount then
          ["Internal account identity is compared through configured authority and subaccount " ++
            "rather than a derived user account address."]
        else [] }
  | _, _ =>
    { comparable := false
      status := .notComparable
      internalState := internalAccount
      externalState := externalAccount
      notes := ["Both internal and external account identity must be present for direct " ++
        "subaccount comparison."] }

/-- A field that is shown beside its counterpart but not compared with it. -/
def unsupportedField (field : String) (internalValue externalValue : Option Decimal)
    (reason : String) : VenueDerivativeHealthFieldComparison where
  field
  comparable := false
  status := .notComparable
  internalValue := internalValue.map HealthFieldValue.amount
  externalValue := externalValue.map HealthFieldValue.amount
  reason := some reason

def healthStatusField (internal external : DerivativeHealthStatus) :
    VenueDerivativeHealthFieldComparison where
  field := "healthStatus"
  comparable := decide (internal ≠ .unknown ∧ external ≠ .unknown)
  status :=
    if internal = .unknown ∨ external = .unknown then .notComparable
    else if internal = external then .matched else .mismatched
  internalValue := some (.band internal)
  externalValue := some (.band external)
  reason :=
    if internal = .unknown ∨ external = .unknown then
      some "Health status band comparison requires both internal and external status values."
    else none

def unsupportedFields (internal : InternalDerivativeHealthState)
    (external : VenueDerivativeHealthState) : List VenueDerivativeHealthFieldComparison :=
  [unsupportedField "collateralLikeUsd" internal.collateralLikeUsd external.collateralUsd
      ("Internal collateral-like posture maps to liquidity reserve, not exact venue " ++
        "collateral."),
    unsupportedField "freeCollateralUsd" internal.liquidityReserveUsd external.freeCollateralUsd
      "Internal liquidity reserve is not equivalent to venue free collateral.",
    unsupportedField "initialMarginRequirementUsd" none external.initialMarginRequirementUsd
      "The runtime does not yet maintain an internal initial-margin model.",
    unsupportedField "maintenanceMarginRequirementUsd" none
      external.maintenanceMarginRequirementUsd
      "The runtime does not yet maintain an internal maintenance-margin model.",
    unsupportedField "marginRatio" internal.exposureToNavRatio external.marginRatio
      "Exposure-to-NAV ratio is not the same metric as venue margin ratio.",
    unsupportedField "leverage" internal.leverage external.leverage
      ("Internal leverage is portfolio-level and not directly equivalent to venue subaccount " ++
        "leverage.")]

def incomparableHealth (internalHealth : Option InternalDerivativeHealthState)
    (externalHealth : Option VenueDerivativeHealthState) (note : String) :
    VenueDerivativeHealthComparison where
  comparable := false
  status := .notComparable
  comparisonMode := .unsupported
  internalState := internalHealth
  externalState := externalHealth
  fields := []
  notes := [note]

def compareHealthStates (internalHealth : Option InternalDerivativeHealthState)
    (externalHealth : Option VenueDerivativeHealthState) : VenueDerivativeHealthComparison :=
  match internalHealth, externalHealth with
  | some internal, some external =>
    if internal.comparisonMode = .unsupported then
      incomparableHealth internalHealth externalHealth
        ("The runtime does not yet maintain a truthfully comparable internal health posture for " ++
          "this venue.")
    else
      let field := healthStatusField internal.healthStatus external.healthStatus
      { comparable := field.comparable
        status := field.status
        comparisonMode := .statusBandOnly
        internalState := internalHealth
        externalState := externalHealth
        fields := field :: unsupportedFields internal external
        notes :=
          ["Only band-level health-status comparison is currently truthful.",
            "Exact venue collateral and margin metrics remain external-only until the runtime " ++
              "owns an equivalent internal model."] }
  | _, _ =>
    incomparableHealth internalHealth externalHealth
      "Both internal and external health sections must be present for comparison."

def healthComparison (internalState : Option InternalDerivativeSnapshot)
    (externalSnapshot : Option VenueSnapshotView) : VenueDerivativeHealthComparison :=
  compareHealthStates (internalState.bind fun s => s.healthState)
    (externalSnapshot.bind fun s => s.derivativeHealthState)

theorem compareHealthStates_mode (internalHealth : Option InternalDerivativeHealthState)
    (externalHealth : Option VenueDerivativeHealthState) :
    (compareHealthStates internalHealth externalHealth).comparisonMode = .statusBandOnly ∨
      (compareHealthStates internalHealth externalHealth).comparable = false := by
  cases internalHealth with
  | none => exact Or.inr rfl
  | some internal =>
    cases externalHealth with
    | none => exact Or.inr rfl
    | some external =>
      by_cases hmode : internal.comparisonMode = .unsupported
      · exact Or.inr (by simp [compareHealthStates, hmode, incomparableHealth])
      · exact Or.inl (by simp [compareHealthStates, hmode])

/-! ## Positions -/

structure ExternalComparablePosition where
  entry : VenueDerivativePositionEntry
  identity : ExternalDerivativeMarketIdentity
  matched : Bool
  deriving DecidableEq

def externalEntries (positions : List VenueDerivativePositionEntry) :
    List ExternalComparablePosition :=
  (positions.map fun entry =>
    { entry, identity := buildExternalPositionMarketIdentity entry, matched := false }).filter
      fun item => decide (item.entry.positionType ≠ .unknown)

def externalPositionQuantity (position : VenueDerivativePositionEntry) : Option Decimal :=
  position.baseAssetAmount.map fun quantity =>
    match position.side with
    | .short => -|quantity|
    | .long => |quantity|
    | .flat => quantity
    | .unknown => quantity

/-- An entry that no position is paired with yet and that shares a key of the kind. -/
def isMatch (kind : MarketIdentityKeyType) (candidates : List IdentityCandidate)
    (item : ExternalComparablePosition) : Bool :=
  !item.matched && shareKey kind candidates (externalIdentityCandidates item.identity)

/-- How the search for the partner of an internal position ends. -/
inductive PartnerSearch where
  | notFound
  | found (index : ℕ)
  | ambiguous
  deriving DecidableEq, Repr

def searchKinds (entries : List ExternalComparablePosition) (candidates : List IdentityCandidate) :
    List MarketIdentityKeyType → PartnerSearch
  | [] => .notFound
  | kind :: kinds =>
    match (entries.zipIdx.filter fun item => isMatch kind candidates item.1).map Prod.snd with
    | [] => searchKinds entries candidates kinds
    | [index] => .found index
    | _ :: _ :: _ => .ambiguous

def searchPartner (entries : List ExternalComparablePosition)
    (identity : Option InternalDerivativeMarketIdentity) : PartnerSearch :=
  match identity with
  | none => .notFound
  | some identity =>
    searchKinds entries (internalIdentityCandidates identity) MARKET_IDENTITY_KEY_PRIORITY

/-- The variables of `comparePositions`. -/
structure PositionProgress where
  entries : List ExternalComparablePosition
  comparisons : List VenueDerivativePositionComparison := []
  matchedCount : ℕ := 0
  mismatchedCount : ℕ := 0
  exactIdentityCount : ℕ := 0
  partialIdentityCount : ℕ := 0
  identityGapCount : ℕ := 0

/-- A row without a partner. -/
def unpairedComparison (position : InternalDerivativePositionEntry)
    (status : InternalDerivativeComparisonStatus) (identityNotes notes : List String) :
    VenueDerivativePositionComparison where
  comparisonKey :=
    (position.marketIdentity.bind fun identity => identity.normalizedKey).getD position.positionKey
  asset := position.asset
  marketType := position.marketType
  comparable := false
  status
  quantityDelta := none
  internalPosition := some position
  externalPosition := none
  marketIdentityComparison := incomparableIdentity position.marketIdentity none identityNotes
  notes

def pushAmbiguous (progress : PositionProgress) (position : InternalDerivativePositionEntry) :
    PositionProgress :=
  { progress with
    identityGapCount := progress.identityGapCount + 1
    comparisons := progress.comparisons ++ [unpairedComparison position .notComparable
      ["Multiple external positions matched the same internal normalized identity, so exact " ++
        "pairing is intentionally withheld."]
      ["Internal position could not be paired to a unique external position row."]] }

def externalHasAssetTypeSibling (entries : List ExternalComparablePosition) (asset : String)
    (marketType : CanonicalMarketType) : Bool :=
  entries.any fun item => !item.matched && decide (item.identity.asset = some asset) &&
    decide (item.identity.marketType = marketType)

def pushUnpaired (progress : PositionProgress) (position : InternalDerivativePositionEntry) :
    PositionProgress :=
  if externalHasAssetTypeSibling progress.entries position.asset position.marketType then
    let notes := ["External inventory exists for the same asset and market type, but market " ++
      "identity could not be aligned truthfully."]
    { progress with
      identityGapCount := progress.identityGapCount + 1
      comparisons := progress.comparisons ++ [unpairedComparison position .notComparable notes notes] }
  else
    let notes := ["No external position row matched this internal position identity."]
    { progress with
      mismatchedCount := progress.mismatchedCount + 1
      comparisons := progress.comparisons ++ [unpairedComparison position .internalOnly notes notes] }

def pairedComparison (position : InternalDerivativePositionEntry)
    (item : ExternalComparablePosition) : VenueDerivativePositionComparison :=
  let identityComparison := compareMarketIdentity position.marketIdentity (some item.identity)
  let quantityDelta := (externalPositionQuantity item.entry).map fun quantity =>
    normaliseDecimal (Decimal.minus position.netQuantity quantity)
  let deltaWithinTolerance := quantityDelta.all fun delta => decide (|delta| ≤ POSITION_TOLERANCE)
  { comparisonKey :=
      ((identityComparison.normalizedIdentity.bind fun identity => identity.key).or
        ((position.marketIdentity.bind fun identity => identity.normalizedKey).or
          item.identity.normalizedKey)).getD position.positionKey
    asset := position.asset
    marketType := position.marketType
    comparable := true
    status :=
      if identityComparison.status = .mismatched then .mismatched
      else if deltaWithinTolerance then .matched else .mismatched
    quantityDelta
    internalPosition := some position
    externalPosition := some item.entry
    marketIdentityComparison := identityComparison
    notes :=
      if identityComparison.comparisonMode = .partialMatch then
        ["Position inventory was aligned through partial market identity normalization."]
      else [] }

def pushPaired (progress : PositionProgress) (position : InternalDerivativePositionEntry)
    (index : ℕ) (item : ExternalComparablePosition) : PositionProgress :=
  let comparison := pairedComparison position item
  let mode := comparison.marketIdentityComparison.comparisonMode
  { entries := progress.entries.modify index fun item => { item with matched := true }
    comparisons := progress.comparisons ++ [comparison]
    matchedCount :=
      if comparison.status = .matched then progress.matchedCount + 1 else progress.matchedCount
    mismatchedCount :=
      if comparison.status = .matched then progress.mismatchedCount
      else progress.mismatchedCount + 1
    exactIdentityCount :=
      if mode = .exact then progress.exactIdentityCount + 1 else progress.exactIdentityCount
    partialIdentityCount :=
      if mode = .partialMatch then progress.partialIdentityCount + 1
      else progress.partialIdentityCount
    identityGapCount := progress.identityGapCount }

def isCompared (comparisons : List VenueDerivativePositionComparison) (positionKey : String) :
    Bool :=
  comparisons.any fun comparison =>
    comparison.internalPosition.any fun position => decide (position.positionKey = positionKey)

def compareInternal (progress : PositionProgress) (position : InternalDerivativePositionEntry) :
    PositionProgress :=
  let search := searchPartner progress.entries position.marketIdentity
  match search with
  | .found index =>
    match progress.entries[index]? with
    | some item => pushPaired progress position index item
    | none => progress
  | .notFound | .ambiguous =>
    let progress := if search = .ambiguous then pushAmbiguous progress position else progress
    if isCompared progress.comparisons position.positionKey then progress
    else pushUnpaired progress position

def externalOnlyComparison (item : ExternalComparablePosition) :
    VenueDerivativePositionComparison where
  comparisonKey := (item.identity.normalizedKey.or
    (item.entry.marketKey.or item.entry.marketSymbol)).getD "external-only"
  asset := item.identity.asset.getD "unknown"
  marketType := item.identity.marketType
  comparable := false
  status := .externalOnly
  quantityDelta := none
  internalPosition := none
  externalPosition := some item.entry
  marketIdentityComparison := incomparableIdentity none (some item.identity)
    ["No internal position row matched this external position identity."]
  notes := []

def unmatchedEntries (entries : List ExternalComparablePosition) :
    List ExternalComparablePosition :=
  entries.filter fun item => !item.matched

/-- The last loop: what is left of the external positions. -/
def pushExternalOnly (progress : PositionProgress) : PositionProgress :=
  { progress with
    mismatchedCount := progress.mismatchedCount + (unmatchedEntries progress.entries).length
    comparisons :=
      progress.comparisons ++ (unmatchedEntries progress.entries).map externalOnlyComparison }

def internalPositionsOf (internalState : Option InternalDerivativeSnapshot) :
    List InternalDerivativePositionEntry :=
  ((internalState.bind fun s => s.positionState).map fun state => state.positions).getD []

def externalPositionsOf (externalSnapshot : Option VenueSnapshotView) :
    List VenueDerivativePositionEntry :=
  (externalSnapshot.bind fun s => s.derivativePositionState).getD []

/-- The comparisons in the order of their keys, with the counters. -/
def comparePositions (localeLe : String → String → Bool)
    (internalState : Option InternalDerivativeSnapshot)
    (externalSnapshot : Option VenueSnapshotView) : PositionProgress :=
  let progress := pushExternalOnly ((internalPositionsOf internalState).foldl compareInternal
    { entries := externalEntries (externalPositionsOf externalSnapshot) })
  { progress with
    comparisons := progress.comparisons.insertionSort
      fun a b => localeLe a.comparisonKey b.comparisonKey = true }

/-! ## Open orders -/

def orderStatus (internal : InternalDerivativeOrderEntry) (external : VenueOrderEntry)
    (remainingSizeDelta : Option Decimal)
    (identityComparison : VenueDerivativeMarketIdentityComparison) :
    InternalDerivativeComparisonStatus :=
  let sameSide := match internal.side, external.side with
    | .buy, .buy => true
    | .sell, .sell => true
    | _, _ => false
  let sameReduceOnly := decide (internal.reduceOnly = external.reduceOnly.getD false)
  let sameRemaining := remainingSizeDelta.all fun delta => decide (|delta| ≤ POSITION_TOLERANCE)
  let sameIdentity := decide (identityComparison.status ≠ .mismatched)
  if sameSide && sameReduceOnly && sameRemaining && sameIdentity then .matched else .mismatched

def compareOrder (key : String) (internalOrder : Option InternalDerivativeOrderEntry)
    (externalOrder : Option VenueOrderEntry) : VenueDerivativeOrderComparison :=
  let identityComparison := compareMarketIdentity
    (internalOrder.bind fun order => order.marketIdentity)
    (externalOrder.map buildExternalOrderMarketIdentity)
  let remainingSizeDelta := internalOrder.bind fun internal => externalOrder.bind fun external =>
    external.quantity.map fun quantity =>
      normaliseDecimal (Decimal.minus internal.remainingSize quantity)
  { comparisonKey := key
    comparable := true
    status :=
      match internalOrder, externalOrder with
      | none, _ => .externalOnly
      | some _, none => .internalOnly
      | some internal, some external =>
        orderStatus internal external remainingSizeDelta identityComparison
    remainingSizeDelta
    internalOrder
    externalOrder
    marketIdentityComparison := identityComparison
    notes :=
      if identityComparison.comparisonMode = .partialMatch then
        ["Order market identity aligned through a partial normalized key."]
      else [] }

structure OrderProgress where
  comparisons : List VenueDerivativeOrderComparison
  matchedCount : ℕ
  mismatchedCount : ℕ
  skippedInternalCount : ℕ

def internalOrdersOf (internalState : Option InternalDerivativeSnapshot) :
    List InternalDerivativeOrderEntry :=
  ((internalState.bind fun s => s.orderState).map fun state => state.openOrders).getD []

def externalOrdersOf (externalSnapshot : Option VenueSnapshotView) : List VenueOrderEntry :=
  (externalSnapshot.bind fun s => s.orderState).getD []

/-- `new Map(orders.map((order) => [key, order]))`. -/
def mapBy {α : Type} (key : α → Option String) (orders : List α) : OrderedMap String α :=
  orders.foldl (fun map order =>
    match key order with
    | some k => map.set k order
    | none => map) OrderedMap.empty

/-- The order of the ids is that of `sort()`. -/
def compareOrders (sortLe : String → String → Bool)
    (internalState : Option InternalDerivativeSnapshot)
    (externalSnapshot : Option VenueSnapshotView) : OrderProgress :=
  let internalComparable := mapBy
    (fun order : InternalDerivativeOrderEntry => order.venueOrderId.filter fun id => id ≠ "")
    (internalOrdersOf internalState)
  let externalComparable := mapBy (fun order : VenueOrderEntry => order.venueOrderId)
    (externalOrdersOf externalSnapshot)
  let keys := (internalComparable.entries.map Prod.fst ++
    externalComparable.entries.map Prod.fst).dedup.insertionSort fun a b => sortLe a b = true
  let comparisons := keys.map fun key =>
    compareOrder key (internalComparable.get? key) (externalComparable.get? key)
  { comparisons
    matchedCount := comparisons.countP fun c => decide (c.status = .matched)
    mismatchedCount := comparisons.countP fun c => decide (c.status ≠ .matched)
    skippedInternalCount :=
      (internalOrdersOf internalState).countP fun order => order.venueOrderId.isNone }

/-! ## The detail -/

structure ComparisonCoverageItem where
  status : CoverageStatus
  reason : Option String

/-- What the detail reads of a finding of an earlier run. -/
structure RuntimeReconciliationFinding where
  id : String
  mismatchId : Option String

structure VenueDerivativeComparisonSummary where
  internalSnapshotAt : Option Date
  externalSnapshotAt : Option Date
  subaccountIdentity : ComparisonCoverageItem
  positionInventory : ComparisonCoverageItem
  marketIdentity : ComparisonCoverageItem
  healthState : ComparisonCoverageItem
  orderInventory : ComparisonCoverageItem
  healthComparisonMode : InternalDerivativeHealthComparisonMode
  exactPositionIdentityCount : ℕ
  partialPositionIdentityCount : ℕ
  positionIdentityGapCount : ℕ
  matchedPositionCount : ℕ
  mismatchedPositionCount : ℕ
  matchedOrderCount : ℕ
  mismatchedOrderCount : ℕ
  activeFindingCount : ℕ
  activeMismatchCount : ℕ
  notes : List String

structure VenueDerivativeComparisonDetail where
  venueId : String
  venueName : String
  internalState : Option InternalDerivativeSnapshot
  externalSnapshot : Option VenueSnapshotView
  summary : VenueDerivativeComparisonSummary
  accountComparison : VenueDerivativeAccountComparison
  positionComparisons : List VenueDerivativePositionComparison
  orderComparisons : List VenueDerivativeOrderComparison
  healthComparison : VenueDerivativeHealthComparison
  activeFindings : List RuntimeReconciliationFinding

/-- `localeCompare` and `sort()` as the orders that they give. -/
structure TextOrders where
  localeLe : String → String → Bool
  sortLe : String → String → Bool

structure ComparisonInput where
  venueId : String
  venueName : String
  internalState : Option InternalDerivativeSnapshot
  externalSnapshot : Option VenueSnapshotView
  activeFindings : List RuntimeReconciliationFinding

def externallyAvailable (externalSnapshot : Option VenueSnapshotView)
    (part : VenueTruthCoverage → CoverageStatus) : Bool :=
  externalSnapshot.any fun s => decide (part s.truthCoverage = .available)

/-- The coverage of an inventory: it needs external truth and an internal snapshot, and is
incomplete if some rows are left out. -/
def inventoryCoverage (available hasInternal incomplete : Bool)
    (externalReason incompleteReason : String) : ComparisonCoverageItem :=
  if !available then { status := .unsupported, reason := some externalReason }
  else if !hasInternal then
    { status := .unsupported
      reason := some
        "No internal derivative state snapshot is currently persisted for this venue." }
  else if incomplete then { status := .incomplete, reason := some incompleteReason }
  else { status := .available, reason := none }

def subaccountCoverage (available : Bool) (comparison : VenueDerivativeAccountComparison) :
    ComparisonCoverageItem :=
  if !available then
    { status := .unsupported
      reason := some "External derivative-account truth is not available for comparison." }
  else if comparison.comparable then { status := .available, reason := none }
  else
    { status := .unsupported
      reason := some
        "No internal canonical account locator is available for direct comparison." }

def healthCoverage (available : Bool) (comparison : VenueDerivativeHealthComparison) :
    ComparisonCoverageItem :=
  if !available then
    { status := .unsupported
      reason := some "External health truth is not available for comparison." }
  else if comparison.comparisonMode = .statusBandOnly then
    { status := .incomplete
      reason := some ("Only band-level internal-vs-external health comparison is currently " ++
        "supported.") }
  else if comparison.comparable then { status := .available, reason := none }
  else
    { status := .unsupported
      reason := some
        (comparison.notes.head?.getD "Internal health comparison is not supported.") }

def buildVenueDerivativeComparisonDetail (orders : TextOrders) (input : ComparisonInput) :
    VenueDerivativeComparisonDetail :=
  let accountComparison := compareAccountState input.internalState input.externalSnapshot
  let positionComparison :=
    comparePositions orders.localeLe input.internalState input.externalSnapshot
  let orderComparison := compareOrders orders.sortLe input.internalState input.externalSnapshot
  let derivativeHealthComparison := healthComparison input.internalState input.externalSnapshot
  let skippedInternalCount := (internalPositionsOf input.internalState).countP fun position =>
    decide (position.marketType = .unknown)
  let skippedExternalCount := (externalPositionsOf input.externalSnapshot).countP fun position =>
    decide (position.positionType = .unknown)
  let available := externallyAvailable input.externalSnapshot
  let hasInternal := input.internalState.isSome
  let summary : VenueDerivativeComparisonSummary :=
    { internalSnapshotAt := input.internalState.map fun s => s.capturedAt
      externalSnapshotAt := input.externalSnapshot.map fun s => s.capturedAt
      subaccountIdentity := subaccountCoverage (available fun c => c.derivativeAccountState)
        accountComparison
      positionInventory := inventoryCoverage (available fun c => c.derivativePositionState)
        hasInternal
        (decide (0 < skippedInternalCount ∨ 0 < skippedExternalCount ∨
          0 < positionComparison.identityGapCount))
        "External position truth is not available for comparison."
        "Position comparison is available only for the subset that can be aligned truthfully."
      marketIdentity := inventoryCoverage (available fun c => c.derivativePositionState)
        hasInternal
        (decide (0 < positionComparison.partialIdentityCount ∨
          0 < positionComparison.identityGapCount))
        "External position truth is not available for market identity comparison."
        "Some position comparisons rely on derived market identity or remain identity-gapped."
      healthState := healthCoverage (available fun c => c.derivativeHealthState)
        derivativeHealthComparison
      orderInventory := inventoryCoverage (available fun c => c.orderState) hasInternal
        (decide (0 < orderComparison.skippedInternalCount))
        "External open-order truth is not available for comparison."
        "Some internal open orders do not yet have venue-native order ids for exact comparison."
      healthComparisonMode := derivativeHealthComparison.comparisonMode
      exactPositionIdentityCount := positionComparison.exactIdentityCount
      partialPositionIdentityCount := positionComparison.partialIdentityCount
      positionIdentityGapCount := positionComparison.identityGapCount
      matchedPositionCount := positionComparison.matchedCount
      mismatchedPositionCount := positionComparison.mismatchedCount
      matchedOrderCount := orderComparison.matchedCount
      mismatchedOrderCount := orderComparison.mismatchedCount
      activeFindingCount := input.activeFindings.length
      activeMismatchCount :=
        (input.activeFindings.filterMap fun finding => finding.mismatchId).dedup.length
      notes :=
        ["Internal positions are still derived from Sentinel Apex fills, but market identity is " ++
            "now normalized through exact or derived keys when available.",
          "Exact market-index comparison only occurs when the internal side truly has exact " ++
            "venue-native identity in persisted metadata.",
          "Health comparison is now band-level only; exact venue collateral and margin fields " ++
            "remain external-only.",
          "Internal open-order comparison still uses venue order ids for row matching, with " ++
            "market identity carried as additional audit detail."] }
  { venueId := input.venueId
    venueName := input.venueName
    internalState := input.internalState
    externalSnapshot := input.externalSnapshot
    summary
    accountComparison
    positionComparisons := positionComparison.comparisons
    orderComparisons := orderComparison.comparisons
    healthComparison := derivativeHealthComparison
    activeFindings := input.activeFindings }

end DerivativeComparison

end SentinelApex
