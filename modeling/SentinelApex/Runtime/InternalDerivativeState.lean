import Mathlib.Data.List.Sort
import SentinelApex.VenueAdapters.MarketIdentity

/-!
# Positions rebuilt from fills

`buildPositionState` reads the fills of a venue in the order of their times, adds each of them to
the accumulator of its market, and reports the accumulators whose net quantity is not zero. The
rows are ordered by their keys with `localeCompare`, which is given as a relation.
-/

namespace SentinelApex

structure OrderView where
  clientOrderId : String
  asset : String
  marketIdentity : Option CanonicalMarketIdentity
  metadata : Metadata

structure InternalDerivativeFillRecord where
  venueId : String
  venueOrderId : String
  clientOrderId : String
  asset : String
  side : OrderSide
  size : Decimal
  price : Decimal
  fee : Decimal
  feeAsset : Option String
  reduceOnly : Bool
  filledAt : Date
  marketIdentity : Option CanonicalMarketIdentity
  metadata : Metadata

inductive InternalDerivativeClassification where
  | canonical
  | derived
  | unsupported
  deriving DecidableEq, Repr

structure InternalDerivativeDataProvenance where
  classification : InternalDerivativeClassification
  source : String
  notes : List String
  deriving DecidableEq

structure InternalDerivativeMarketIdentity where
  asset : Option String
  marketType : CanonicalMarketType
  marketIndex : Option ℤ
  marketKey : Option String
  marketSymbol : Option String
  normalizedKey : Option String
  normalizedKeyType : MarketIdentityKeyType
  confidence : MarketIdentityConfidence
  notes : List String
  provenance : InternalDerivativeDataProvenance
  deriving DecidableEq

inductive InternalDerivativePositionSide where
  | long
  | short
  | flat
  deriving DecidableEq, Repr

structure InternalDerivativePositionEntry where
  positionKey : String
  asset : String
  marketType : CanonicalMarketType
  side : InternalDerivativePositionSide
  netQuantity : Decimal
  averageEntryPrice : Option Decimal
  executedBuyQuantity : Decimal
  executedSellQuantity : Decimal
  fillCount : ℕ
  sourceOrderCount : ℕ
  firstFilledAt : Option Date
  lastFilledAt : Option Date
  marketIdentity : Option InternalDerivativeMarketIdentity
  deriving DecidableEq

structure PositionAccumulator where
  asset : String
  marketType : CanonicalMarketType
  executedBuyQuantity : Decimal := 0
  executedSellQuantity : Decimal := 0
  fillCount : ℕ := 0
  orderIds : List String := []
  firstFilledAt : Option Date := none
  lastFilledAt : Option Date := none
  netQuantity : Decimal := 0
  averageEntryPrice : Option Decimal := none
  marketIdentities : List InternalDerivativeMarketIdentity := []

namespace InternalDerivativeState

/-- Eight decimal places, without trailing zeros. -/
def normaliseDecimal (value : Decimal) : Decimal := value.roundPlaces 8

def orderMarketType (metadata : Metadata) : CanonicalMarketType :=
  match metadata.get? "instrumentType" with
  | some (.str "perpetual") => .perp
  | some (.str "spot") => .spot
  | _ => .unknown

def positionSide (quantity : Decimal) : InternalDerivativePositionSide :=
  if 0 < quantity then .long else if quantity < 0 then .short else .flat

def marketSymbolFromAssetAndType (asset : String) (marketType : CanonicalMarketType) :
    Option String :=
  if asset = "" then none
  else
    match marketType with
    | .unknown => none
    | .perp => some (asset ++ "-PERP")
    | .spot => some asset

def assetTypeKey (marketType : CanonicalMarketType) (asset : String) : Option String :=
  if marketType = .unknown ∨ asset = "" then none else some s!"{marketType.text}:{asset}"

def canonicalIdentityToInternalView (identity : CanonicalMarketIdentity)
    (exactNotes derivedNotes : List String) : InternalDerivativeMarketIdentity :=
  let notes :=
    if identity.notes ≠ [] then identity.notes
    else if identity.confidence = .exact then exactNotes else derivedNotes
  let classification :=
    if identity.provenance = .unsupported then .unsupported
    else if identity.confidence = .exact then .canonical else .derived
  { asset := identity.asset
    marketType := identity.marketType
    marketIndex := identity.marketIndex
    marketKey := identity.marketKey
    marketSymbol := identity.marketSymbol
    normalizedKey := identity.normalizedKey
    normalizedKeyType := identity.normalizedKeyType
    confidence := identity.confidence
    notes := notes
    provenance := { classification, source := identity.source, notes := notes } }

def buildInternalMarketIdentity (asset : String) (marketType : CanonicalMarketType)
    (metadata : Metadata) (source : String) (exactNotes derivedNotes : List String) :
    InternalDerivativeMarketIdentity :=
  let stored := readCanonicalMarketIdentityFromMetadata metadata
    { asset := some asset
      marketType := metadata.getOr "instrumentType" (.str marketType.text)
      provenance := some .derived
      capturedAtStage := .internalSnapshot
      source := source
      notes := derivedNotes }
  let derived := createCanonicalMarketIdentity
    { asset := some asset
      marketType := .str marketType.text
      provenance := some (if marketType = .unknown then .unsupported else .derived)
      capturedAtStage := .internalSnapshot
      source := source
      notes :=
        if marketType = .unknown then
          ["Internal market identity is unsupported because the runtime could not infer a market " ++
            "type from current metadata."]
        else derivedNotes }
  canonicalIdentityToInternalView (stored.getD derived) exactNotes derivedNotes

def mergePositionMarketIdentity (asset : String) (marketType : CanonicalMarketType)
    (identities : List InternalDerivativeMarketIdentity) :
    Option InternalDerivativeMarketIdentity :=
  match identities with
  | [] => some (buildInternalMarketIdentity asset marketType OrderedMap.empty "runtime_fill_ledger"
      ["No exact market identity was persisted on source orders for this internal position row."]
      ["Internal market identity is reconstructed from the position asset and market type only."])
  | first :: _ =>
    if (identities.filterMap fun identity => identity.normalizedKey).dedup.length ≤ 1 then some first
    else some
      { asset := some asset
        marketType := marketType
        marketIndex := none
        marketKey := none
        marketSymbol := marketSymbolFromAssetAndType asset marketType
        normalizedKey := assetTypeKey marketType asset
        normalizedKeyType := if marketType = .unknown then .unsupported else .assetMarketType
        confidence := if marketType = .unknown then .unsupported else .partialMatch
        notes :=
          ["Multiple internal market identity candidates contributed to this aggregated position " ++
              "row.",
            "The runtime falls back to asset plus market type for comparison and keeps exact " ++
              "market-index parity unsupported for this row."]
        provenance :=
          { classification := if marketType = .unknown then .unsupported else .derived
            source := "runtime_fill_ledger"
            notes :=
              ["Aggregated internal position identity was reduced to the coarsest stable " ++
                "comparable key."] } }

/-- The earlier of a time and one that may not be there yet. -/
def earliest (seen : Option Date) (t : Date) : Option Date :=
  match seen with
  | none => some t
  | some s => some (if t < s then t else s)

def latest (seen : Option Date) (t : Date) : Option Date :=
  match seen with
  | none => some t
  | some s => some (if s < t then t else s)

def signedQuantity (size : Decimal) (side : OrderSide) : Decimal :=
  match side with
  | .buy => size
  | .sell => -size

/-- `signed.isPositive()`: the sign of a sale of size zero is negative. -/
def signedIsPositive (size : Decimal) (side : OrderSide) : Bool :=
  match side with
  | .buy => decide (0 ≤ size)
  | .sell => decide (size < 0)

def applyFillToAccumulator (accumulator : PositionAccumulator)
    (fill : InternalDerivativeFillRecord) : PositionAccumulator :=
  let signed := signedQuantity fill.size fill.side
  let counted :=
    { accumulator with
      executedBuyQuantity :=
        match fill.side with
        | .buy => accumulator.executedBuyQuantity.plus fill.size
        | .sell => accumulator.executedBuyQuantity
      executedSellQuantity :=
        match fill.side with
        | .buy => accumulator.executedSellQuantity
        | .sell => accumulator.executedSellQuantity.plus fill.size
      fillCount := accumulator.fillCount + 1
      firstFilledAt := earliest accumulator.firstFilledAt fill.filledAt
      lastFilledAt := latest accumulator.lastFilledAt fill.filledAt }
  let existingAbs := |accumulator.netQuantity|
  let incomingAbs := |signed|
  let netQuantity := accumulator.netQuantity.plus signed
  if accumulator.netQuantity = 0 ∨
      decide (0 < accumulator.netQuantity) = signedIsPositive fill.size fill.side then
    let notional := (Decimal.times (accumulator.averageEntryPrice.getD 0) existingAbs).plus
      (fill.price.times incomingAbs)
    { counted with
      netQuantity
      averageEntryPrice :=
        if netQuantity = 0 then none
        else some (notional.div (Decimal.plus existingAbs incomingAbs)) }
  else if incomingAbs < existingAbs then { counted with netQuantity }
  else
    { counted with
      netQuantity, averageEntryPrice := if netQuantity = 0 then none else some fill.price }

/-- The market of a fill: its own identity, that of its order, or one derived from the order. -/
def fillIdentity (order : Option OrderView) (fill : InternalDerivativeFillRecord) :
    Option InternalDerivativeMarketIdentity :=
  let exactNote :=
    "Internal position identity inherited exact market metadata from a source order."
  let derivedNote :=
    "Internal position identity was derived from source order asset plus market type."
  match fill.marketIdentity with
  | some identity => some (canonicalIdentityToInternalView identity
      ["Internal position identity inherited exact market metadata from a persisted fill."]
      ["Internal position identity was derived from persisted fill metadata."])
  | none => order.map fun order =>
    match order.marketIdentity with
    | some identity => canonicalIdentityToInternalView identity [exactNote] [derivedNote]
    | none => buildInternalMarketIdentity order.asset (orderMarketType order.metadata)
        order.metadata "runtime_fill_ledger" [exactNote] [derivedNote]

def fillMarketType (order : Option OrderView) : CanonicalMarketType :=
  (order.map fun order => orderMarketType order.metadata).getD .unknown

def fillKey (order : Option OrderView) (fill : InternalDerivativeFillRecord) : String :=
  let coarse := s!"{(fillMarketType order).text}:{fill.asset}"
  match fillIdentity order fill with
  | some identity => if identity.confidence = .exact then identity.normalizedKey.getD coarse else coarse
  | none => coarse

/-- One round of the loop over the fills. -/
def addFill (ordersByClientId : OrderedMap String OrderView)
    (grouped : OrderedMap String PositionAccumulator) (fill : InternalDerivativeFillRecord) :
    OrderedMap String PositionAccumulator :=
  let order := ordersByClientId.get? fill.clientOrderId
  let key := fillKey order fill
  let accumulator := (grouped.get? key).getD
    { asset := fill.asset, marketType := fillMarketType order }
  grouped.set key (applyFillToAccumulator
    { accumulator with
      orderIds :=
        if fill.clientOrderId ∈ accumulator.orderIds then accumulator.orderIds
        else accumulator.orderIds ++ [fill.clientOrderId]
      marketIdentities := accumulator.marketIdentities ++ (fillIdentity order fill).toList }
    fill)

def groupFills (orders : List OrderView) (fills : List InternalDerivativeFillRecord) :
    OrderedMap String PositionAccumulator :=
  let ordersByClientId := orders.foldl (fun map order => map.set order.clientOrderId order)
    (OrderedMap.empty : OrderedMap String OrderView)
  (fills.insertionSort fun a b => a.filledAt ≤ b.filledAt).foldl (addFill ordersByClientId)
    OrderedMap.empty

def toPosition (positionKey : String) (accumulator : PositionAccumulator) :
    InternalDerivativePositionEntry :=
  let marketIdentity := mergePositionMarketIdentity accumulator.asset accumulator.marketType
    accumulator.marketIdentities
  { positionKey := (marketIdentity.bind fun identity => identity.normalizedKey).getD positionKey
    asset := accumulator.asset
    marketType := accumulator.marketType
    side := positionSide accumulator.netQuantity
    netQuantity := normaliseDecimal accumulator.netQuantity
    averageEntryPrice := accumulator.averageEntryPrice.map normaliseDecimal
    executedBuyQuantity := normaliseDecimal accumulator.executedBuyQuantity
    executedSellQuantity := normaliseDecimal accumulator.executedSellQuantity
    fillCount := accumulator.fillCount
    sourceOrderCount := accumulator.orderIds.length
    firstFilledAt := accumulator.firstFilledAt
    lastFilledAt := accumulator.lastFilledAt
    marketIdentity := marketIdentity }

def buildPositionState (localeLe : String → String → Bool) (orders : List OrderView)
    (fills : List InternalDerivativeFillRecord) : List InternalDerivativePositionEntry :=
  (((groupFills orders fills).entries.filter fun entry => decide (entry.2.netQuantity ≠ 0)).map
    fun entry => toPosition entry.1 entry.2).insertionSort
      fun a b => localeLe a.positionKey b.positionKey = true

end InternalDerivativeState

end SentinelApex
