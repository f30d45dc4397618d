import Mathlib.Data.List.Sort
import SentinelApex.Domain.Actions
import SentinelApex.Domain.Places

/-!
# The treasury policy

`TreasuryPolicyEngine.evaluate`: from the idle capital and the positions at the venues it computes
the state of the reserve, and recommends what to redeem and what to deploy. Amounts that the source
prints with two places are the values of those texts.
-/

namespace SentinelApex

inductive TreasuryLiquidityTier where
  | instant
  | sameDay
  | delayed
  deriving DecidableEq, Repr

def TreasuryLiquidityTier.text : TreasuryLiquidityTier → String
  | .instant => "instant"
  | .sameDay => "same_day"
  | .delayed => "delayed"

def TreasuryLiquidityTier.priority : TreasuryLiquidityTier → ℕ
  | .instant => 0
  | .sameDay => 1
  | .delayed => 2

/-- The percentages are JavaScript numbers, given by the texts that `decimal.js` reads. -/
structure TreasuryPolicy where
  reserveFloorPct : Decimal
  minReserveUsd : Decimal
  minimumRemainingIdleUsd : Decimal
  maxAllocationPctPerVenue : Decimal
  minimumDeployableUsd : Decimal
  eligibleVenues : List String

def defaultTreasuryPolicy : TreasuryPolicy where
  reserveFloorPct := 10
  minReserveUsd := 10000
  minimumRemainingIdleUsd := 10000
  maxAllocationPctPerVenue := 50
  minimumDeployableUsd := 2500
  eligibleVenues := ["atlas-t0-sim", "atlas-t1-sim"]

structure TreasuryVenueSnapshot where
  venueId : String
  venueName : String
  mode : VenueMode
  liquidityTier : TreasuryLiquidityTier
  healthy : Bool
  aprBps : Number
  availableCapacityUsd : Decimal
  currentAllocationUsd : Decimal
  withdrawalAvailableUsd : Decimal
  concentrationPct : Decimal

inductive TreasuryRecommendationType where
  | deposit
  | redeem
  deriving DecidableEq, Repr

inductive TreasuryReasonCode where
  | reserveShortfall
  | surplusDeployable
  | venueConcentration
  | venueIneligible
  | rebalanceBudgetApplication
  deriving DecidableEq, Repr

def TreasuryReasonCode.text : TreasuryReasonCode → String
  | .reserveShortfall => "reserve_shortfall"
  | .surplusDeployable => "surplus_deployable"
  | .venueConcentration => "venue_concentration"
  | .venueIneligible => "venue_ineligible"
  | .rebalanceBudgetApplication => "rebalance_budget_application"

structure TreasuryRecommendation where
  actionType : TreasuryRecommendationType
  venueId : Option String
  amountUsd : Decimal
  reasonCode : TreasuryReasonCode
  summary : String
  details : List (String × Json)

structure TreasuryReserveStatus where
  totalCapitalUsd : Decimal
  idleCapitalUsd : Decimal
  allocatedCapitalUsd : Decimal
  requiredReserveUsd : Decimal
  currentReserveUsd : Decimal
  reserveCoveragePct : Decimal
  surplusCapitalUsd : Decimal
  reserveShortfallUsd : Decimal

structure TreasuryEvaluation where
  reserveStatus : TreasuryReserveStatus
  venueSnapshots : List TreasuryVenueSnapshot
  recommendations : List TreasuryRecommendation
  alerts : List String
  simulated : Bool

/-- `x.toFixed(2)`. -/
def usdText (x : Decimal) : String := Decimal.toFixed x 2

/-- The value of `x.toFixed(2)`. -/
def usd (x : Decimal) : Decimal := Decimal.roundPlaces x 2

theorem usd_nonneg {x : Decimal} (h : 0 ≤ x) : 0 ≤ usd x := Decimal.roundPlaces_nonneg h 2

theorem usd_of_mem {x : Decimal} (h : x ∈ Decimal.Places 2) : usd x = x :=
  Decimal.roundPlaces_of_mem h

theorem usd_mem (x : Decimal) : usd x ∈ Decimal.Places 2 := Decimal.roundPlaces_mem x 2

@[simp] theorem usd_usd (x : Decimal) : usd (usd x) = usd x := usd_of_mem (usd_mem x)

theorem abs_usd_sub_le (x : Decimal) : |usd x - x| ≤ 1 / 200 := by
  have h := Decimal.abs_roundPlaces_sub_le x 2
  rw [Decimal.unitOf_two] at h
  exact h.trans (by norm_num)

namespace TreasuryPolicyEngine

variable (policy : TreasuryPolicy)

def byYieldDescending (a b : TreasuryVenueSnapshot) : Prop := b.aprBps ≤ a.aprBps

instance : DecidableRel byYieldDescending := fun a b =>
  inferInstanceAs (Decidable (b.aprBps ≤ a.aprBps))

/-- Of two venues of a tier the one with more to withdraw comes first. -/
def byLiquidityAscending (a b : TreasuryVenueSnapshot) : Prop :=
  a.liquidityTier.priority < b.liquidityTier.priority ∨
    (a.liquidityTier.priority = b.liquidityTier.priority ∧
      b.withdrawalAvailableUsd ≤ a.withdrawalAvailableUsd)

instance : DecidableRel byLiquidityAscending := fun _ _ =>
  inferInstanceAs (Decidable (_ ∨ (_ ∧ _)))

/-- The share of the capital that is allocated to a venue. -/
def concentrationPct (totalCapitalUsd currentAllocationUsd : Decimal) : Decimal :=
  usd (if totalCapitalUsd = 0 then 0 else (currentAllocationUsd.div totalCapitalUsd).times 100)

/-- The most that may be allocated to one venue. -/
def maxVenueAllocationUsd (totalCapitalUsd : Decimal) : Decimal :=
  (totalCapitalUsd.times policy.maxAllocationPctPerVenue).div 100

/-- The allocation to a venue that is not eligible is redeemed in full. -/
def redeemIneligible (venue : TreasuryVenueSnapshot) : Option (String × TreasuryRecommendation) :=
  if venue.venueId ∉ policy.eligibleVenues ∧ 0 < venue.currentAllocationUsd then
    some (s!"Venue {venue.venueName} is no longer eligible.",
      { actionType := .redeem
        venueId := some venue.venueId
        amountUsd := usd venue.currentAllocationUsd
        reasonCode := .venueIneligible
        summary := s!"Redeem the full {usdText venue.currentAllocationUsd} USD allocation from " ++
          s!"ineligible venue {venue.venueName}."
        details := [("concentrationPct", .str (usdText venue.concentrationPct))] })
  else none

def redeemConcentration (totalCapitalUsd : Decimal) (venue : TreasuryVenueSnapshot) :
    Option (String × TreasuryRecommendation) :=
  let excessUsd := max (venue.currentAllocationUsd.minus
    (maxVenueAllocationUsd policy totalCapitalUsd)) 0
  if policy.maxAllocationPctPerVenue < venue.concentrationPct ∧ 0 < excessUsd then
    some (s!"Venue {venue.venueName} exceeds the concentration cap.",
      { actionType := .redeem
        venueId := some venue.venueId
        amountUsd := usd excessUsd
        reasonCode := .venueConcentration
        summary := s!"Redeem {usdText excessUsd} USD from {venue.venueName} to restore " ++
          "concentration limits."
        details := [("concentrationPct", .str (usdText venue.concentrationPct)),
          ("maxAllocationPctPerVenue", .num policy.maxAllocationPctPerVenue)] })
  else none

def venueRecommendations (totalCapitalUsd : Decimal) (venues : List TreasuryVenueSnapshot) :
    List (String × TreasuryRecommendation) :=
  venues.flatMap fun venue =>
    (redeemIneligible policy venue).toList ++
      (redeemConcentration policy totalCapitalUsd venue).toList

/-- Redeem from the venues in turn until the shortfall is covered. -/
def redeemForReserve : List TreasuryVenueSnapshot → Decimal → List TreasuryRecommendation
  | [], _ => []
  | venue :: venues, remainingShortfall =>
    if remainingShortfall ≤ 0 then []
    else
      let withdrawalUsd := min remainingShortfall venue.withdrawalAvailableUsd
      if withdrawalUsd ≤ 0 then redeemForReserve venues remainingShortfall
      else
        { actionType := .redeem
          venueId := some venue.venueId
          amountUsd := usd withdrawalUsd
          reasonCode := .reserveShortfall
          summary := s!"Redeem {usdText withdrawalUsd} USD from {venue.venueName} to restore " ++
            "the treasury reserve floor."
          details := [("liquidityTier", .str venue.liquidityTier.text),
            ("withdrawalAvailableUsd", .decimal venue.withdrawalAvailableUsd)] } ::
          redeemForReserve venues (remainingShortfall.minus withdrawalUsd)

/-- Deploy to the venues in turn until the surplus is too small. -/
def deploySurplus (totalCapitalUsd : Decimal) :
    List TreasuryVenueSnapshot → Decimal → List TreasuryRecommendation
  | [], _ => []
  | venue :: venues, remainingSurplus =>
    if remainingSurplus < policy.minimumDeployableUsd then []
    else
      let capRoomUsd := max ((maxVenueAllocationUsd policy totalCapitalUsd).minus
        venue.currentAllocationUsd) 0
      let deployUsd := min (min remainingSurplus capRoomUsd) venue.availableCapacityUsd
      if deployUsd < policy.minimumDeployableUsd then
        deploySurplus totalCapitalUsd venues remainingSurplus
      else
        { actionType := .deposit
          venueId := some venue.venueId
          amountUsd := usd deployUsd
          reasonCode := .surplusDeployable
          summary := s!"Deploy {usdText deployUsd} USD of surplus cash into {venue.venueName}."
          details := [("aprBps", .num venue.aprBps),
            ("liquidityTier", .str venue.liquidityTier.text),
            ("availableCapacityUsd", .decimal venue.availableCapacityUsd)] } ::
          deploySurplus totalCapitalUsd venues (remainingSurplus.minus deployUsd)

def totalAllocatedUsd (venues : List TreasuryVenueSnapshot) : Decimal :=
  venues.foldl (fun sum venue => sum.plus venue.currentAllocationUsd) 0

def evaluate (idleCapitalUsd : Decimal) (venues : List TreasuryVenueSnapshot) :
    TreasuryEvaluation :=
  let totalCapitalUsd := idleCapitalUsd.plus (totalAllocatedUsd venues)
  let requiredReserveUsd := max policy.minReserveUsd
    ((totalCapitalUsd.times policy.reserveFloorPct).div 100)
  let reserveShortfallUsd := max (requiredReserveUsd.minus idleCapitalUsd) 0
  let surplusCapitalUsd := max (idleCapitalUsd.minus requiredReserveUsd) 0
  let reserveCoveragePct :=
    if requiredReserveUsd = 0 then 100 else (idleCapitalUsd.div requiredReserveUsd).times 100
  let venueSnapshots := venues.map fun venue =>
    { venue with concentrationPct := concentrationPct totalCapitalUsd venue.currentAllocationUsd }
  let atVenues := venueRecommendations policy totalCapitalUsd venueSnapshots
  let redeemCandidates := (venueSnapshots.filter fun venue =>
    decide (0 < venue.withdrawalAvailableUsd)).insertionSort byLiquidityAscending
  let deployCandidates := (venueSnapshots.filter fun venue =>
    decide (venue.venueId ∈ policy.eligibleVenues) && venue.healthy).insertionSort byYieldDescending
  { reserveStatus :=
      { totalCapitalUsd := usd totalCapitalUsd
        idleCapitalUsd := usd idleCapitalUsd
        allocatedCapitalUsd := usd (totalAllocatedUsd venues)
        requiredReserveUsd := usd requiredReserveUsd
        currentReserveUsd := usd idleCapitalUsd
        reserveCoveragePct := usd reserveCoveragePct
        surplusCapitalUsd := usd surplusCapitalUsd
        reserveShortfallUsd := usd reserveShortfallUsd }
    venueSnapshots
    recommendations := atVenues.map Prod.snd ++
      (if 0 < reserveShortfallUsd then redeemForReserve redeemCandidates reserveShortfallUsd
      else []) ++
      if policy.minimumDeployableUsd ≤ surplusCapitalUsd then
        deploySurplus policy totalCapitalUsd deployCandidates surplusCapitalUsd
      else []
    alerts := atVenues.map Prod.fst ++
      if 0 < reserveShortfallUsd then
        [s!"Liquidity reserve is short by {usdText reserveShortfallUsd} USD."]
      else []
    simulated := venueSnapshots.all fun venue => decide (venue.mode = .simulated) }

end TreasuryPolicyEngine

end SentinelApex
