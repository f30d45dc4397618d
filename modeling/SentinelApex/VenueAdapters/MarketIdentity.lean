import SentinelApex.Domain.Order

/-!
# Canonical market identity

The identity of the market an order trades on, as it is created, captured at a later stage,
compared, and carried in metadata records.
-/

namespace SentinelApex

inductive CanonicalMarketType where
  | perp
  | spot
  | unknown
  deriving DecidableEq, Repr

inductive MarketIdentityProvenance where
  | venueNative
  | derived
  | unsupported
  deriving DecidableEq, Repr

inductive MarketIdentityConfidence where
  | exact
  | partialMatch
  | unsupported
  deriving DecidableEq, Repr

inductive MarketIdentityKeyType where
  | marketIndex
  | marketKey
  | marketSymbol
  | assetMarketType
  | unsupported
  deriving DecidableEq, Repr

inductive MarketIdentityCaptureStage where
  | marketData
  | opportunityLeg
  | strategyIntent
  | runtimeOrder
  | carryPlannedOrder
  | carryExecutionStep
  | executionResult
  | fill
  | internalSnapshot
  | externalTruth
  deriving DecidableEq, Repr

def CanonicalMarketType.text : CanonicalMarketType → String
  | .perp => "perp"
  | .spot => "spot"
  | .unknown => "unknown"

def MarketIdentityProvenance.text : MarketIdentityProvenance → String
  | .venueNative => "venue_native"
  | .derived => "derived"
  | .unsupported => "unsupported"

def MarketIdentityConfidence.text : MarketIdentityConfidence → String
  | .exact => "exact"
  | .partialMatch => "partial"
  | .unsupported => "unsupported"

def MarketIdentityKeyType.text : MarketIdentityKeyType → String
  | .marketIndex => "market_index"
  | .marketKey => "market_key"
  | .marketSymbol => "market_symbol"
  | .assetMarketType => "asset_market_type"
  | .unsupported => "unsupported"

namespace MarketIdentityCaptureStage

def text : MarketIdentityCaptureStage → String
  | marketData => "market_data"
  | opportunityLeg => "opportunity_leg"
  | strategyIntent => "strategy_intent"
  | runtimeOrder => "runtime_order"
  | carryPlannedOrder => "carry_planned_order"
  | carryExecutionStep => "carry_execution_step"
  | executionResult => "execution_result"
  | fill => "fill"
  | internalSnapshot => "internal_snapshot"
  | externalTruth => "external_truth"

def all : List MarketIdentityCaptureStage :=
  [marketData, opportunityLeg, strategyIntent, runtimeOrder, carryPlannedOrder,
    carryExecutionStep, executionResult, fill, internalSnapshot, externalTruth]

end MarketIdentityCaptureStage

structure CanonicalMarketIdentity where
  venueId : Option String
  asset : Option String
  marketType : CanonicalMarketType
  marketIndex : Option ℤ
  marketKey : Option String
  marketSymbol : Option String
  marketName : Option String
  aliases : List String
  normalizedKey : Option String
  normalizedKeyType : MarketIdentityKeyType
  provenance : MarketIdentityProvenance
  confidence : MarketIdentityConfidence
  capturedAtStage : MarketIdentityCaptureStage
  source : String
  notes : List String

structure CanonicalMarketIdentityInput where
  venueId : Option String := none
  asset : Option String := none
  marketType : Json := .null
  marketIndex : Json := .null
  marketKey : Option String := none
  marketSymbol : Option String := none
  marketName : Option String := none
  aliases : List String := []
  provenance : Option MarketIdentityProvenance := none
  capturedAtStage : MarketIdentityCaptureStage
  source : String
  notes : List String := []

def stringValue (v : Option String) : Option String := (Json.ofOption v).stringValue

def normalizeCanonicalMarketType : Json → CanonicalMarketType
  | .str s =>
    match (Json.trim s).toLower with
    | "perp" => .perp
    | "perpetual" => .perp
    | "spot" => .spot
    | _ => .unknown
  | _ => .unknown

def canonicalMarketIndexKey (marketType : CanonicalMarketType) (marketIndex : Option ℤ) :
    Option String :=
  if marketType = .unknown then none
  else marketIndex.map fun i => s!"{marketType.text}:{i}"

def canonicalMarketSymbolKey (marketType : CanonicalMarketType) (marketSymbol : Option String) :
    Option String :=
  marketSymbol.map fun s => if marketType = .unknown then s else s!"{marketType.text}:{s}"

def canonicalAssetTypeKey (marketType : CanonicalMarketType) (asset : Option String) :
    Option String :=
  if marketType = .unknown then none else asset.map fun a => s!"{marketType.text}:{a}"

/-- The index in a key of the form `perp:<digits>` or `spot:<digits>`. -/
def parseMarketIndexFromKey (marketKey : Option String) : Option ℤ :=
  marketKey.bind fun key =>
    match key.toList with
    | 'p' :: 'e' :: 'r' :: 'p' :: ':' :: cs => index cs
    | 's' :: 'p' :: 'o' :: 't' :: ':' :: cs => index cs
    | _ => none
where
  index (cs : List Char) : Option ℤ :=
    if cs.all Char.isDigit then (Json.digitsValue cs).map fun n => (n : ℤ) else none

def deriveMarketSymbol (asset : Option String) (marketType : CanonicalMarketType) :
    Option String :=
  match marketType with
  | .unknown => none
  | .perp => asset.map fun a => s!"{a}-PERP"
  | .spot => asset

/-- The present values in order, without repetitions. -/
def uniqueAliases (values : List (Option String)) : List String :=
  values.foldl (fun seen v =>
    match v with
    | some s => if seen.contains s then seen else seen ++ [s]
    | none => seen) []

def normalizeConfidence (marketType : CanonicalMarketType) (marketIndex : Option ℤ)
    (marketKey marketSymbol asset : Option String) (provenance : MarketIdentityProvenance) :
    MarketIdentityConfidence × Option String × MarketIdentityKeyType :=
  if provenance = .unsupported then (.unsupported, none, .unsupported)
  else if marketIndex.isSome ∧ marketType ≠ .unknown then
    (.exact, canonicalMarketIndexKey marketType marketIndex, .marketIndex)
  else if marketKey.isSome then (.exact, marketKey, .marketKey)
  else if marketSymbol.isSome then
    (if provenance = .venueNative then .exact else .partialMatch,
      canonicalMarketSymbolKey marketType marketSymbol, .marketSymbol)
  else if marketType ≠ .unknown ∧ asset.isSome then
    (.partialMatch, canonicalAssetTypeKey marketType asset, .assetMarketType)
  else (.unsupported, none, .unsupported)

def createCanonicalMarketIdentity (input : CanonicalMarketIdentityInput) :
    CanonicalMarketIdentity :=
  let asset := stringValue input.asset
  let marketType := normalizeCanonicalMarketType input.marketType
  let rawMarketKey := stringValue input.marketKey
  let marketIndex := input.marketIndex.integerValue.or (parseMarketIndexFromKey rawMarketKey)
  let marketKey := rawMarketKey.or (canonicalMarketIndexKey marketType marketIndex)
  let marketName := stringValue input.marketName
  let marketSymbol :=
    (stringValue input.marketSymbol).or (marketName.or (deriveMarketSymbol asset marketType))
  let provenance := input.provenance.getD .derived
  let normalized :=
    normalizeConfidence marketType marketIndex marketKey marketSymbol asset provenance
  { venueId := stringValue input.venueId
    asset
    marketType
    marketIndex
    marketKey
    marketSymbol
    marketName
    aliases := uniqueAliases
      (input.aliases.map some ++
        [marketSymbol, marketKey, canonicalAssetTypeKey marketType asset])
    normalizedKey := normalized.2.1
    normalizedKeyType := normalized.2.2
    provenance
    confidence := normalized.1
    capturedAtStage := input.capturedAtStage
    source := input.source
    notes := input.notes }

def captureCanonicalMarketIdentity (identity : CanonicalMarketIdentity)
    (capturedAtStage : MarketIdentityCaptureStage) (source : String) : CanonicalMarketIdentity :=
  { identity with capturedAtStage, source }

def marketIdentityRank (identity : CanonicalMarketIdentity) : ℤ :=
  match identity.normalizedKeyType with
  | .marketIndex => 400
  | .marketKey => 300
  | .marketSymbol => if identity.confidence = .exact then 250 else 150
  | .assetMarketType => 100
  | .unsupported => 0

def preferCanonicalMarketIdentity (left right : Option CanonicalMarketIdentity) :
    Option CanonicalMarketIdentity :=
  match left, right with
  | none, _ => right
  | some l, none => some l
  | some l, some r =>
    if marketIdentityRank l < marketIdentityRank r then some r
    else if marketIdentityRank r < marketIdentityRank l then some l
    else if l.provenance ≠ .venueNative ∧ r.provenance = .venueNative then some r
    else if l.provenance = .venueNative ∧ r.provenance ≠ .venueNative then some l
    else some r

/-! ## Metadata -/

/-- The fields of a structured identity stored in metadata; other values have none. -/
def asRecord : Option Json → Option Metadata
  | some (.obj fields) => some (OrderedMap.ofList fields)
  | _ => none

/-- The first of the keys whose value `read` accepts. -/
def metadataFirst {α : Type} (read : Json → Option α) (metadata : Metadata)
    (keys : List String) : Option α :=
  keys.findSome? fun key => (metadata.get? key).bind read

/-- The strings among the items of an array. -/
def stringItems : Option Json → Option (List String)
  | some (.arr items) => some (items.filterMap fun
      | .str s => some s
      | .decimal x => some (Decimal.toFixedAll x)
      | _ => none)
  | _ => none

def provenanceOf (v : Option Json) : Option MarketIdentityProvenance :=
  match v with
  | some (.str s) =>
    [MarketIdentityProvenance.venueNative, .derived, .unsupported].find? fun p => p.text == s
  | _ => none

def captureStageOf (v : Option Json) : Option MarketIdentityCaptureStage :=
  match v with
  | some (.str s) => MarketIdentityCaptureStage.all.find? fun st => st.text == s
  | _ => none

/-- The identity stored in a metadata record, completed by `defaults`. -/
def readCanonicalMarketIdentityFromMetadata (metadata : Metadata)
    (defaults : CanonicalMarketIdentityInput) : Option CanonicalMarketIdentity :=
  match asRecord (metadata.get? "marketIdentity") with
  | some structured =>
    let field (key : String) : Option String := (structured.get? key).bind Json.stringValue
    some (createCanonicalMarketIdentity
      { venueId := (field "venueId").or defaults.venueId
        asset := (field "asset").or defaults.asset
        marketType := structured.getOr "marketType" defaults.marketType
        marketIndex := (structured.get? "marketIndex").getD .null
        marketKey := field "marketKey"
        marketSymbol := field "marketSymbol"
        marketName := field "marketName"
        aliases := (stringItems (structured.get? "aliases")).getD []
        provenance := (provenanceOf (structured.get? "provenance")).or defaults.provenance
        capturedAtStage :=
          (captureStageOf (structured.get? "capturedAtStage")).getD defaults.capturedAtStage
        source := (field "source").getD defaults.source
        notes := (stringItems (structured.get? "notes")).getD defaults.notes })
  | none =>
    let index := metadataFirst Json.integerValue metadata
      ["marketIndex", "driftMarketIndex", "venueMarketIndex"]
    let key := metadataFirst Json.stringValue metadata
      ["marketKey", "driftMarketKey", "venueMarketKey"]
    let symbol := metadataFirst Json.stringValue metadata
      ["marketSymbol", "driftMarketSymbol", "venueMarketSymbol", "marketName"]
    if index.isNone ∧ key.isNone ∧ symbol.isNone then none
    else some (createCanonicalMarketIdentity
      { venueId := defaults.venueId
        asset := defaults.asset
        marketType := defaults.marketType
        marketIndex := (index.map fun i => Json.num i).getD .null
        marketKey := key
        marketSymbol := symbol
        marketName := metadataFirst Json.stringValue metadata ["marketName"]
        provenance := some (defaults.provenance.getD .derived)
        capturedAtStage := defaults.capturedAtStage
        source := defaults.source
        notes := defaults.notes })

def CanonicalMarketIdentity.toJson (identity : CanonicalMarketIdentity) : Json :=
  .obj
    [("venueId", Json.ofOption identity.venueId), ("asset", Json.ofOption identity.asset),
      ("marketType", .str identity.marketType.text),
      ("marketIndex", (identity.marketIndex.map fun i => Json.num i).getD .null),
      ("marketKey", Json.ofOption identity.marketKey),
      ("marketSymbol", Json.ofOption identity.marketSymbol),
      ("marketName", Json.ofOption identity.marketName),
      ("aliases", .arr (identity.aliases.map .str)),
      ("normalizedKey", Json.ofOption identity.normalizedKey),
      ("normalizedKeyType", .str identity.normalizedKeyType.text),
      ("provenance", .str identity.provenance.text),
      ("confidence", .str identity.confidence.text),
      ("capturedAtStage", .str identity.capturedAtStage.text), ("source", .str identity.source),
      ("notes", .arr (identity.notes.map .str))]

/-- Write a present value. -/
def Metadata.setSome (m : Metadata) (key : String) (v : Option Json) : Metadata :=
  match v with
  | some j => m.set key j
  | none => m

def attachCanonicalMarketIdentityToMetadata (metadata : Metadata)
    (identity : Option CanonicalMarketIdentity) : Metadata :=
  match identity with
  | none => metadata
  | some i =>
    let m := metadata.set "marketIdentity" i.toJson
    let m := Metadata.setSome m "marketIndex" (i.marketIndex.map fun n => Json.num n)
    let m := Metadata.setSome m "marketKey" (i.marketKey.map .str)
    let m := Metadata.setSome m "marketSymbol" (i.marketSymbol.map .str)
    let m := Metadata.setSome m "marketName" (i.marketName.map .str)
    if i.marketType = .unknown then m else m.set "marketType" (.str i.marketType.text)

/-- The keys that `attachCanonicalMarketIdentityToMetadata` writes. -/
def marketIdentityKeys : List String :=
  ["marketIdentity", "marketIndex", "marketKey", "marketSymbol", "marketName", "marketType"]

theorem Metadata.get?_setSome_of_ne (m : Metadata) {key key' : String} (h : key ≠ key')
    (v : Option Json) : (Metadata.setSome m key v).get? key' = m.get? key' := by
  cases v with
  | none => rfl
  | some j => exact m.get?_set_of_ne h j

theorem attachCanonicalMarketIdentityToMetadata_get? (metadata : Metadata)
    (identity : Option CanonicalMarketIdentity) {key : String} (h : key ∉ marketIdentityKeys) :
    (attachCanonicalMarketIdentityToMetadata metadata identity).get? key = metadata.get? key := by
  have hne : ∀ k ∈ marketIdentityKeys, k ≠ key := by
    rintro k hk rfl
    exact h hk
  cases identity with
  | none => rfl
  | some i =>
    simp only [attachCanonicalMarketIdentityToMetadata]
    split_ifs
    all_goals
      simp (disch := exact hne _ (by simp [marketIdentityKeys]))
        only [OrderedMap.get?_set_of_ne, Metadata.get?_setSome_of_ne]

end SentinelApex
