import SentinelApex.VenueAdapters.MarketIdentity

/-!
# Carry opportunities and configuration

The candidates that the detectors propose and the configuration of the carry sleeve.
-/

namespace SentinelApex

inductive LegSide where
  | long
  | short
  deriving DecidableEq, Repr

def LegSide.text : LegSide → String
  | .long => "long"
  | .short => "short"

inductive InstrumentType where
  | spot
  | perpetual
  | future
  deriving DecidableEq, Repr

def InstrumentType.text : InstrumentType → String
  | .spot => "spot"
  | .perpetual => "perpetual"
  | .future => "future"

inductive OpportunityType where
  | fundingRateArb
  | basisTrade
  | crossVenueSpread
  deriving DecidableEq, Repr

def OpportunityType.text : OpportunityType → String
  | .fundingRateArb => "funding_rate_arb"
  | .basisTrade => "basis_trade"
  | .crossVenueSpread => "cross_venue_spread"

structure OpportunityLeg where
  venueId : String
  asset : String
  side : LegSide
  instrumentType : InstrumentType
  estimatedPrice : Decimal
  estimatedFee : Decimal
  marketIdentity : Option CanonicalMarketIdentity

structure CarryOpportunityCandidate where
  type : OpportunityType
  asset : String
  legs : List OpportunityLeg
  expectedAnnualYieldPct : Decimal
  netYieldPct : Decimal
  confidenceScore : Number
  detectedAt : Date
  expiresAt : Date

/-- The thresholds, sizes and limits that evaluation and selection read. -/
structure CarryConfig where
  minAnnualYieldPct : Decimal
  minConfidenceScore : Number
  defaultPositionSizePct : Decimal
  maxPositionSizePct : Decimal
  kellyCriterionFraction : Decimal
  maxConcurrentOpportunities : ℕ
  maxOpportunitiesPerAsset : ℕ
  maxOpportunitiesPerVenue : ℕ
  maxAssetExposurePct : Decimal
  maxVenueExposurePct : Decimal

/-- `DEFAULT_CARRY_CONFIG`. -/
def defaultCarryConfig : CarryConfig where
  minAnnualYieldPct := 5
  minConfidenceScore := 6 / 10
  defaultPositionSizePct := 5
  maxPositionSizePct := 20
  kellyCriterionFraction := 25 / 100
  maxConcurrentOpportunities := 5
  maxOpportunitiesPerAsset := 2
  maxOpportunitiesPerVenue := 3
  maxAssetExposurePct := 10
  maxVenueExposurePct := 15

end SentinelApex
