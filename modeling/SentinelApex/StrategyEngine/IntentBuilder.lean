import SentinelApex.Carry.PortfolioOptimizer

/-!
# Intent builder

Each leg of a selected opportunity becomes one market order. All legs of an opportunity are built
at one reading of the clock, which is part of their ids.
-/

namespace SentinelApex

def LegSide.orderSide : LegSide → OrderSide
  | .long => .buy
  | .short => .sell

/-- `buildIntentId`. -/
def buildIntentId (asset : String) (opportunityType : OpportunityType) (side : LegSide)
    (timestamp : Date) : String :=
  s!"{asset}-{opportunityType.text}-{side.orderSide.text}-{timestamp}"

/-- `computeLegSizeUnits`: half of the notional, in base units. -/
def computeLegSizeUnits (leg : OpportunityLeg) (totalNotionalUsd : Decimal) : Decimal :=
  let notionalPerLeg := totalNotionalUsd.div 2
  if leg.estimatedPrice = 0 then 0
  else (notionalPerLeg.div leg.estimatedPrice).roundPlaces 8

def intentMarketIdentity (leg : OpportunityLeg) : CanonicalMarketIdentity :=
  match leg.marketIdentity with
  | none => createCanonicalMarketIdentity
      { venueId := some leg.venueId
        asset := some leg.asset
        marketType := .str leg.instrumentType.text
        provenance := some .derived
        capturedAtStage := .strategyIntent
        source := "strategy_intent_builder"
        notes := ["Intent market identity is derived because the source opportunity leg did not " ++
          "carry venue-native market metadata."] }
  | some identity =>
    captureCanonicalMarketIdentity identity .strategyIntent "strategy_intent_builder"

def buildLegIntent (opportunity : CarryOpportunityCandidate) (sleeveId : String)
    (positionSizeUsd : Decimal) (timestamp : Date) (leg : OpportunityLeg) : OrderIntent where
  intentId := buildIntentId opportunity.asset opportunity.type leg.side timestamp
  venueId := leg.venueId
  asset := leg.asset
  side := leg.side.orderSide
  type := .market
  size := computeLegSizeUnits leg positionSizeUsd
  limitPrice := none
  opportunityId := s!"{opportunity.asset}-{opportunity.type.text}-{opportunity.detectedAt}"
  reduceOnly := false
  createdAt := timestamp
  metadata := attachCanonicalMarketIdentityToMetadata
    (OrderedMap.ofList
      [("sleeveId", .str sleeveId), ("opportunityType", .str opportunity.type.text),
        ("instrumentType", .str leg.instrumentType.text), ("legSide", .str leg.side.text),
        ("estimatedPrice", .decimal leg.estimatedPrice),
        ("estimatedFee", .decimal leg.estimatedFee),
        ("expectedAnnualYieldPct", .decimal opportunity.expectedAnnualYieldPct),
        ("netYieldPct", .decimal opportunity.netYieldPct),
        ("positionSizeUsd", .decimal positionSizeUsd)])
    (some (intentMarketIdentity leg))

def buildIntentsFromOpportunity (opportunity : CarryOpportunityCandidate) (sleeveId : String)
    (positionSizeUsd : Decimal) (timestamp : Date) : List OrderIntent :=
  opportunity.legs.map (buildLegIntent opportunity sleeveId positionSizeUsd timestamp)

section

variable (opportunity : CarryOpportunityCandidate) (sleeveId : String) (positionSizeUsd : Decimal)
  (timestamp : Date) (leg : OpportunityLeg)

theorem buildLegIntent_positionSizeUsd :
    (buildLegIntent opportunity sleeveId positionSizeUsd timestamp leg).metadata.getOr
      "positionSizeUsd" (.decimal 1000) = .decimal positionSizeUsd := by
  have h : (buildLegIntent opportunity sleeveId positionSizeUsd timestamp leg).metadata.get?
      "positionSizeUsd" = some (.decimal positionSizeUsd) := by
    rw [buildLegIntent, attachCanonicalMarketIdentityToMetadata_get? _ _ (by decide)]
    rfl
  rw [Metadata.getOr, h]

theorem buildLegIntent_sleeveId :
    (buildLegIntent opportunity sleeveId positionSizeUsd timestamp leg).metadata.getOr
      "sleeveId" (.str "") = .str sleeveId := by
  have h : (buildLegIntent opportunity sleeveId positionSizeUsd timestamp leg).metadata.get?
      "sleeveId" = some (.str sleeveId) := by
    rw [buildLegIntent, attachCanonicalMarketIdentityToMetadata_get? _ _ (by decide)]
    rfl
  rw [Metadata.getOr, h]

end

end SentinelApex
