import SentinelApex.Carry.RealizedApy
import SentinelApex.RiskEngine.KillSwitch
import SentinelApex.Runtime.ConnectorReadiness
import SentinelApex.Runtime.InternalDerivativeState

/-!
# The internal derivative snapshot

`buildInternalDerivativeSnapshot` puts together what the runtime knows of its account on a venue: the
configured account, the open orders, the positions rebuilt from fills, and a health posture taken
from the portfolio and risk summaries.
-/

namespace SentinelApex

structure InternalDerivativeTrackedVenueConfig where
  venueId : String
  venueName : String
  accountAddress : Option String := none
  authorityAddress : Option String := none
  subaccountId : Option ℤ := none
  accountLabel : Option String := none

structure DerivativeOrderView extends OrderView where
  venueOrderId : Option String
  side : String
  status : String
  requestedSize : Decimal
  filledSize : Decimal
  requestedPrice : Option Decimal
  reduceOnly : Bool
  executionMode : String
  submittedAt : Option Date
  completedAt : Option Date
  updatedAt : Date

/-- What the health posture reads of the portfolio. -/
structure PortfolioSummaryView where
  totalNav : Decimal
  grossExposure : Decimal
  netExposure : Decimal
  liquidityReserve : Decimal
  venueExposures : OrderedMap String Decimal

structure InternalDerivativeCoverageItem where
  status : CoverageStatus
  reason : Option String
  limitations : List String

structure InternalDerivativeCoverage where
  accountState : InternalDerivativeCoverageItem
  positionState : InternalDerivativeCoverageItem
  healthState : InternalDerivativeCoverageItem
  orderState : InternalDerivativeCoverageItem

inductive InternalDerivativeAccountLocatorMode where
  | userAccountAddress
  | authoritySubaccount
  | unconfigured
  deriving DecidableEq, Repr

structure InternalDerivativeAccountState where
  venueId : String
  venueName : String
  configured : Bool
  accountLocatorMode : InternalDerivativeAccountLocatorMode
  accountAddress : Option String
  authorityAddress : Option String
  subaccountId : Option ℤ
  accountLabel : Option String
  methodology : String
  notes : List String
  provenance : InternalDerivativeDataProvenance

structure InternalDerivativePositionState where
  positions : List InternalDerivativePositionEntry
  openPositionCount : ℕ
  methodology : String
  notes : List String
  provenance : InternalDerivativeDataProvenance

structure InternalDerivativeOrderEntry where
  orderKey : String
  clientOrderId : String
  venueOrderId : Option String
  asset : String
  marketType : CanonicalMarketType
  side : OrderSide
  status : String
  requestedSize : Decimal
  filledSize : Decimal
  remainingSize : Decimal
  requestedPrice : Option Decimal
  reduceOnly : Bool
  executionMode : String
  comparableByVenueOrderId : Bool
  submittedAt : Option Date
  completedAt : Option Date
  updatedAt : Date
  marketIdentity : Option InternalDerivativeMarketIdentity
  metadata : Metadata
  provenance : InternalDerivativeDataProvenance

structure InternalDerivativeOrderState where
  openOrderCount : ℕ
  comparableOpenOrderCount : ℕ
  nonComparableOpenOrderCount : ℕ
  openOrders : List InternalDerivativeOrderEntry
  methodology : String
  notes : List String
  provenance : InternalDerivativeDataProvenance

inductive DerivativeHealthStatus where
  | healthy
  | degraded
  | liquidationRisk
  | unknown
  deriving DecidableEq, Repr

inductive InternalDerivativeHealthModelType where
  | internalRiskPosture
  | unsupported
  deriving DecidableEq, Repr

inductive InternalDerivativeHealthComparisonMode where
  | statusBandOnly
  | unsupported
  deriving DecidableEq, Repr

structure InternalDerivativeHealthState where
  healthStatus : DerivativeHealthStatus
  modelType : InternalDerivativeHealthModelType
  comparisonMode : InternalDerivativeHealthComparisonMode
  riskPosture : Option RiskLevel := none
  collateralLikeUsd : Option Decimal := none
  liquidityReserveUsd : Option Decimal := none
  grossExposureUsd : Option Decimal := none
  netExposureUsd : Option Decimal := none
  venueExposureUsd : Option Decimal := none
  exposureToNavRatio : Option Decimal := none
  liquidityReservePct : Option Number := none
  leverage : Option Decimal := none
  openPositionCount : Option ℕ := none
  openOrderCount : Option ℕ := none
  openCircuitBreakers : List CircuitBreakerName := []
  unsupportedReasons : List String
  methodology : String
  notes : List String
  provenance : InternalDerivativeDataProvenance

structure InternalDerivativeSnapshot where
  venueId : String
  venueName : String
  sourceComponent : String
  sourceRunId : Option String
  sourceReference : Option String
  capturedAt : Date
  coverage : InternalDerivativeCoverage
  accountState : Option InternalDerivativeAccountState
  positionState : Option InternalDerivativePositionState
  healthState : Option InternalDerivativeHealthState
  orderState : Option InternalDerivativeOrderState

namespace InternalDerivativeState

def extractLocatorMode (venue : InternalDerivativeTrackedVenueConfig) :
    InternalDerivativeAccountLocatorMode :=
  if venue.accountAddress.any (· ≠ "") then .userAccountAddress
  else if venue.authorityAddress.any (· ≠ "") then .authoritySubaccount
  else .unconfigured

def buildAccountState (venue : InternalDerivativeTrackedVenueConfig) :
    InternalDerivativeCoverageItem × Option InternalDerivativeAccountState :=
  let locatorMode := extractLocatorMode venue
  if locatorMode = .unconfigured then
    ({ status := .unsupported
       reason := some "No internal account locator is configured for this venue."
       limitations := ["Configure the tracked venue account address to enable canonical " ++
        "internal account identity."] }, none)
  else
    ({ status := .available, reason := none, limitations := [] }, some
      { venueId := venue.venueId
        venueName := venue.venueName
        configured := true
        accountLocatorMode := locatorMode
        accountAddress := venue.accountAddress
        authorityAddress := venue.authorityAddress
        subaccountId := venue.subaccountId
        accountLabel := venue.accountLabel
        methodology := "runtime_operator_config"
        notes :=
          if locatorMode = .authoritySubaccount ∧ venue.accountAddress = none then
            ["The runtime tracks authority plus subaccount identity and does not derive the " ++
              "program account address internally."]
          else ["The runtime tracks this venue account directly from configured operator input."]
        provenance :=
          { classification := .canonical
            source := "runtime_derivative_tracking_config"
            notes := ["Internal account identity comes from Sentinel Apex runtime configuration " ++
              "rather than external venue decode."] } })

def isTerminalOrderStatus (status : String) : Bool :=
  status = "filled" || status = "cancelled" || status = "expired" || status = "failed"

def remainingOrderSize (order : DerivativeOrderView) : Decimal :=
  normaliseDecimal (max (order.requestedSize.minus order.filledSize) 0)

def toOpenOrder (order : DerivativeOrderView) : InternalDerivativeOrderEntry :=
  let exactNotes := ["Internal order market identity is sourced from persisted order metadata."]
  let derivedNotes :=
    ["Internal order market identity is derived from order asset plus instrument type."]
  { orderKey := order.venueOrderId.getD order.clientOrderId
    clientOrderId := order.clientOrderId
    venueOrderId := order.venueOrderId
    asset := order.asset
    marketType := orderMarketType order.metadata
    side := if order.side = "sell" then .sell else .buy
    status := order.status
    requestedSize := order.requestedSize
    filledSize := order.filledSize
    remainingSize := remainingOrderSize order
    requestedPrice := order.requestedPrice
    reduceOnly := order.reduceOnly
    executionMode := order.executionMode
    comparableByVenueOrderId := order.venueOrderId.isSome
    submittedAt := order.submittedAt
    completedAt := order.completedAt
    updatedAt := order.updatedAt
    marketIdentity :=
      match order.marketIdentity with
      | none => some (buildInternalMarketIdentity order.asset (orderMarketType order.metadata)
          order.metadata "runtime_orders_table" exactNotes derivedNotes)
      | some identity => some (canonicalIdentityToInternalView identity exactNotes derivedNotes)
    metadata := order.metadata
    provenance :=
      { classification := .canonical
        source := "runtime_orders_table"
        notes := ["Internal order inventory is read from persisted runtime order records."] } }

def plural (n : ℕ) : String := if n = 1 then "" else "s"

/-- The open orders, the one that changed last first. -/
def buildOrderState (orders : List DerivativeOrderView) :
    InternalDerivativeCoverageItem × InternalDerivativeOrderState :=
  let openOrders := ((orders.filter fun order => !isTerminalOrderStatus order.status).map
    toOpenOrder).insertionSort fun a b => b.updatedAt ≤ a.updatedAt
  let nonComparableCount := openOrders.countP fun order => !order.comparableByVenueOrderId
  ({ status := if 0 < nonComparableCount then .incomplete else .available
     reason :=
      if 0 < nonComparableCount then
        some (s!"{nonComparableCount} open internal order{plural nonComparableCount} do not yet " ++
          "have a venue order id for direct comparison.")
      else none
     limitations :=
      if 0 < nonComparableCount then
        ["Orders without a venue order id remain internally canonical but only partially " ++
          "comparable to external open-order inventory."]
      else [] },
    { openOrderCount := openOrders.length
      comparableOpenOrderCount := openOrders.length - nonComparableCount
      nonComparableOpenOrderCount := nonComparableCount
      openOrders
      methodology := "runtime_orders_table"
      notes :=
        if 0 < nonComparableCount then
          ["Some internal open orders are still awaiting venue-native order ids."]
        else ["Open internal order inventory comes directly from persisted runtime order records."]
      provenance :=
        { classification := .canonical
          source := "runtime_orders_table"
          notes := ["Open-order inventory is based on Sentinel Apex persisted order lifecycle " ++
            "state."] } })

/-- The positions of `buildPositionState` with what the snapshot says about them. -/
def positionSection (positions : List InternalDerivativePositionEntry) :
    InternalDerivativeCoverageItem × InternalDerivativePositionState :=
  let unknownTypeCount := positions.countP fun position => position.marketType = .unknown
  ({ status := if 0 < unknownTypeCount then .incomplete else .available
     reason :=
      if 0 < unknownTypeCount then
        some (s!"{unknownTypeCount} internal position{plural unknownTypeCount} cannot be mapped " ++
          "to a known market type from current order metadata.")
      else none
     limitations :=
      if 0 < unknownTypeCount then
        ["Unknown market-type rows remain internally tracked but only partially comparable to " ++
          "external venue positions."]
      else [] },
    { positions
      openPositionCount := positions.length
      methodology := "runtime_fill_ledger"
      notes :=
        if positions = [] then
          ["No internally executed derivative inventory is currently open for this venue."]
        else ["Positions are reconstructed from persisted fills rather than external venue state."]
      provenance :=
        { classification := .derived
          source := "runtime_fill_ledger"
          notes := ["Position inventory is derived from internal fill history and preserves the " ++
            "runtime/execution boundary explicitly."] } })

def unsupportedHealthState (reason : String) (notes : List String) :
    InternalDerivativeCoverageItem × InternalDerivativeHealthState :=
  ({ status := .unsupported
     reason := some reason
     limitations := ["Allocator and risk summaries are not treated as exact venue-native margin " ++
      "state."] },
    { healthStatus := .unknown
      modelType := .unsupported
      comparisonMode := .unsupported
      unsupportedReasons := [reason]
      methodology := "unsupported_internal_health_model"
      notes
      provenance :=
        { classification := .unsupported
          source := "unsupported_internal_health_model"
          notes := ["Internal health remains unsupported until sufficient internal portfolio and " ++
            "risk projections exist."] } })

def buildHealthState (venueId : String) (portfolioSummary : Option PortfolioSummaryView)
    (riskSummary : Option RiskSummary) (openPositionCount openOrderCount : ℕ) :
    InternalDerivativeCoverageItem × InternalDerivativeHealthState :=
  match portfolioSummary, riskSummary with
  | none, _ => unsupportedHealthState
      ("No internal portfolio summary is currently persisted, so internal health posture cannot " ++
        "be derived.")
      ["Run a runtime cycle or projection rebuild to populate portfolio current state before " ++
        "deriving internal health posture."]
  | some _, none => unsupportedHealthState
      ("No internal risk summary is currently persisted, so internal health posture cannot be " ++
        "derived.")
      ["Run a runtime cycle or projection rebuild to populate risk current state before deriving " ++
        "internal health posture."]
  | some portfolio, some risk =>
    let venueExposure := (portfolio.venueExposures.get? venueId).getD 0
    ({ status := .available
       reason := none
       limitations :=
        ["Internal health posture is derived from internal portfolio and risk projections, not " ++
            "from venue-native margin math.",
          "Only band-level health comparison is currently truthful; exact margin fields remain " ++
            "external-only."] },
      { healthStatus :=
          if risk.riskLevel = .high ∨ risk.riskLevel = .critical then .degraded else .healthy
        modelType := .internalRiskPosture
        comparisonMode := .statusBandOnly
        riskPosture := some risk.riskLevel
        collateralLikeUsd := some portfolio.liquidityReserve
        liquidityReserveUsd := some portfolio.liquidityReserve
        grossExposureUsd := some portfolio.grossExposure
        netExposureUsd := some portfolio.netExposure
        venueExposureUsd := some (normaliseDecimal venueExposure)
        exposureToNavRatio :=
          if portfolio.totalNav ≤ 0 then none
          else some (normaliseDecimal (venueExposure.div portfolio.totalNav))
        liquidityReservePct := some risk.liquidityReservePct
        leverage := some (normaliseDecimal (risk.leverage.toDecimal.roundPlaces 4))
        openPositionCount := some openPositionCount
        openOrderCount := some openOrderCount
        openCircuitBreakers := risk.openCircuitBreakers
        unsupportedReasons := ["Exact venue collateral, free collateral, margin ratio, and " ++
          "requirement fields remain external-only."]
        methodology := "portfolio_current_plus_risk_current"
        notes :=
          ["Internal health posture is derived from persisted portfolio and risk read models.",
            "Collateral-like posture maps to internal liquidity reserve rather than exact venue " ++
              "collateral accounting.",
            "This view is suitable for operator comparison and audit, but it is not a canonical " ++
              "venue-native margin engine."]
        provenance :=
          { classification := .derived
            source := "portfolio_current_plus_risk_current"
            notes := ["Internal health posture is derived from internal runtime projections " ++
              "rather than external venue truth."] } })

structure BuildInternalDerivativeSnapshotInput where
  venue : InternalDerivativeTrackedVenueConfig
  orders : List DerivativeOrderView
  fills : List InternalDerivativeFillRecord
  portfolioSummary : Option PortfolioSummaryView
  riskSummary : Option RiskSummary
  capturedAt : Date
  sourceComponent : String
  sourceRunId : Option String := none
  sourceReference : Option String := none

def buildInternalDerivativeSnapshot (localeLe : String → String → Bool)
    (input : BuildInternalDerivativeSnapshotInput) : InternalDerivativeSnapshot :=
  let account := buildAccountState input.venue
  let orderState := buildOrderState input.orders
  let positionState := positionSection
    (buildPositionState localeLe (input.orders.map fun order => order.toOrderView) input.fills)
  let healthState := buildHealthState input.venue.venueId input.portfolioSummary input.riskSummary
    positionState.2.openPositionCount orderState.2.openOrderCount
  { venueId := input.venue.venueId
    venueName := input.venue.venueName
    sourceComponent := input.sourceComponent
    sourceRunId := input.sourceRunId
    sourceReference := input.sourceReference
    capturedAt := input.capturedAt
    coverage :=
      { accountState := account.1
        positionState := positionState.1
        healthState := healthState.1
        orderState := orderState.1 }
    accountState := account.2
    positionState := some positionState.2
    healthState := some healthState.2
    orderState := some orderState.2 }

end InternalDerivativeState

end SentinelApex
