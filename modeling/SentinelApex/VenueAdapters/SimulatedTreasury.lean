import SentinelApex.Treasury.ExecutionPlanner

/-!
# The simulated treasury venue

`SimulatedTreasuryVenueAdapter` keeps its balances as texts of two places and computes with doubles.
Balances stay below `1e21`, from where on `toFixed` prints an exponent.
-/

namespace SentinelApex

structure TreasuryVenueExecutionRequest where
  actionType : TreasuryActionType
  amountUsd : Decimal
  actorId : String
  reasonCode : TreasuryReasonCode
  executionMode : ActionExecutionMode

inductive TreasuryVenueExecutionStatus where
  | completed
  | failed
  deriving DecidableEq, Repr

structure TreasuryVenueExecutionResult where
  venueId : String
  venueMode : VenueMode
  executionReference : String
  status : TreasuryVenueExecutionStatus
  summary : String
  simulated : Bool
  balanceDeltaUsd : Decimal
  allocationUsd : Decimal
  withdrawalAvailableUsd : Decimal
  metadata : List (String × Json)

structure TreasuryVenueState where
  venueId : String
  venueName : String
  mode : VenueMode
  liquidityTier : TreasuryLiquidityTier
  healthy : Bool
  aprBps : Number
  availableCapacityUsd : Decimal

structure TreasuryVenuePosition where
  venueId : String
  currentAllocationUsd : Decimal
  withdrawalAvailableUsd : Decimal

structure SimulatedTreasuryVenueConfig where
  venueId : String
  venueName : String
  liquidityTier : TreasuryLiquidityTier
  aprBps : Number
  availableCapacityUsd : Decimal
  currentAllocationUsd : Decimal
  withdrawalAvailableUsd : Option Decimal := none
  healthy : Option Bool := none

structure SimulatedTreasuryVenue where
  config : SimulatedTreasuryVenueConfig
  currentAllocationUsd : Decimal
  withdrawalAvailableUsd : Decimal
  executionCounter : ℕ

namespace SimulatedTreasuryVenue

def create (config : SimulatedTreasuryVenueConfig) : SimulatedTreasuryVenue where
  config
  currentAllocationUsd := config.currentAllocationUsd
  withdrawalAvailableUsd := config.withdrawalAvailableUsd.getD config.currentAllocationUsd
  executionCounter := 0

variable (venue : SimulatedTreasuryVenue)

def healthy : Bool := venue.config.healthy.getD true

def getVenueState : TreasuryVenueState where
  venueId := venue.config.venueId
  venueName := venue.config.venueName
  mode := .simulated
  liquidityTier := venue.config.liquidityTier
  healthy := venue.healthy
  aprBps := venue.config.aprBps
  availableCapacityUsd := venue.config.availableCapacityUsd

def getPosition : TreasuryVenuePosition where
  venueId := venue.config.venueId
  currentAllocationUsd := venue.currentAllocationUsd
  withdrawalAvailableUsd := venue.withdrawalAvailableUsd

def getCapabilities : TreasuryVenueCapabilities where
  venueId := venue.config.venueId
  venueMode := .simulated
  supportsAllocation := true
  supportsReduction := true
  executionSupported := true
  approvedForLiveUse := false
  sensitiveExecutionEligible := false
  promotionStatus := .notRequested
  promotionBlockedReasons := []
  missingPrerequisites :=
    ["Real connector implementation", "Read-only validation against venue",
      "Live enable approval"]

def moved (nextAllocation nextWithdrawal : Number) : SimulatedTreasuryVenue :=
  { venue with
    currentAllocationUsd := usd nextAllocation
    withdrawalAvailableUsd := usd nextWithdrawal
    executionCounter := venue.executionCounter + 1 }

def result (request : TreasuryVenueExecutionRequest) (amount : Number) :
    TreasuryVenueExecutionResult where
  venueId := venue.config.venueId
  venueMode := .simulated
  executionReference := s!"{venue.config.venueId}-sim-treasury-{venue.executionCounter}"
  status := .completed
  summary :=
    if request.actionType = .allocateToVenue then
      s!"Simulated allocation of {usdText amount} USD completed."
    else s!"Simulated reduction of {usdText amount} USD completed."
  simulated := true
  balanceDeltaUsd := if request.actionType = .allocateToVenue then usd amount else usd (-amount)
  allocationUsd := venue.currentAllocationUsd
  withdrawalAvailableUsd := venue.withdrawalAvailableUsd
  metadata :=
    [("actorId", .str request.actorId), ("executionMode", .str request.executionMode.text),
      ("reasonCode", .str request.reasonCode.text)]

def executeTreasuryAction (request : TreasuryVenueExecutionRequest) :
    Except String TreasuryVenueExecutionResult × SimulatedTreasuryVenue :=
  let currentAllocation := Number.ofDecimal venue.currentAllocationUsd
  let currentWithdrawal := Number.ofDecimal venue.withdrawalAvailableUsd
  let amount := Number.ofDecimal request.amountUsd
  if amount ≤ 0 then
    (.error "Simulated treasury execution requires a positive amount.", venue)
  else if request.actionType = .allocateToVenue then
    let venue' := venue.moved (currentAllocation.add amount) (currentWithdrawal.add amount)
    (.ok (venue'.result request amount), venue')
  else if currentWithdrawal < amount then
    (.error ("Simulated treasury withdrawal exceeds available withdrawal balance for " ++
      s!"{venue.config.venueId}."), venue)
  else
    let venue' := venue.moved (max (currentAllocation.sub amount) 0)
      (max (currentWithdrawal.sub amount) 0)
    (.ok (venue'.result request amount), venue')

end SimulatedTreasuryVenue

namespace SimulatedTreasuryVenue

open Decimal SigDigits

/-- A nonnegative number of cents, of at most `10 ^ 12` USD. -/
structure IsCents (x : Decimal) : Prop where
  places : x ∈ Places 2
  nonneg : 0 ≤ x
  le : x ≤ 10 ^ 12

theorem abs_binary64_sub_le {x : ℚ} (hx : |x| ≤ 2 ^ 41) :
    |binary64.round x - x| ≤ 1 / 2 ^ 13 := by
  have h := binary64.abs_round_sub_le (k := -12) abs_halfEven_sub_le (x := x) (by
    refine hx.trans (le_of_eq ?_)
    norm_num [binary64])
  refine h.trans (le_of_eq ?_)
  norm_num [binary64]

theorem abs_ofDecimal_sub_le {x : ℚ} (hx : IsCents x) : |Number.ofDecimal x - x| ≤ 1 / 2 ^ 13 := by
  apply abs_binary64_sub_le
  rw [abs_of_nonneg hx.nonneg]
  exact hx.le.trans (by norm_num)

/-- What is as close to an amount of cents as three roundings may leave it has its text. -/
theorem usd_of_near {z t : ℚ} (hz : z ∈ Places 2)
    (ht : |t - z| ≤ 1 / 2 ^ 13 + 1 / 2 ^ 13 + 1 / 2 ^ 13) : usd t = z := by
  refine roundPlaces_of_near hz (ht.trans_lt ?_)
  rw [unitOf_two]
  norm_num

theorem usd_add {x y : ℚ} (hx : IsCents x) (hy : IsCents y) :
    usd ((Number.ofDecimal x).add (Number.ofDecimal y)) = x + y := by
  have hX := abs_le.1 (abs_ofDecimal_sub_le hx)
  have hY := abs_le.1 (abs_ofDecimal_sub_le hy)
  have hround : |(Number.ofDecimal x).add (Number.ofDecimal y) -
      (Number.ofDecimal x + Number.ofDecimal y)| ≤ 1 / 2 ^ 13 := by
    apply abs_binary64_sub_le
    rw [abs_le]
    constructor <;> linarith [hx.nonneg, hx.le, hy.nonneg, hy.le]
  refine usd_of_near (add_mem hx.places hy.places) ?_
  rw [abs_le] at hround ⊢
  constructor <;> linarith

/-- A difference that is not negative; the cut at 0 only brings the computed one closer. -/
theorem usd_sub {x y : ℚ} (hx : IsCents x) (hy : IsCents y) (hyx : y ≤ x) :
    usd (max ((Number.ofDecimal x).sub (Number.ofDecimal y)) 0) = x - y := by
  have hX := abs_le.1 (abs_ofDecimal_sub_le hx)
  have hY := abs_le.1 (abs_ofDecimal_sub_le hy)
  have hround : |(Number.ofDecimal x).sub (Number.ofDecimal y) -
      (Number.ofDecimal x - Number.ofDecimal y)| ≤ 1 / 2 ^ 13 := by
    apply abs_binary64_sub_le
    rw [abs_le]
    constructor <;> linarith [hx.nonneg, hx.le, hy.nonneg, hy.le]
  refine usd_of_near (sub_mem hx.places hy.places) ?_
  rw [abs_le] at hround ⊢
  rcases max_cases ((Number.ofDecimal x).sub (Number.ofDecimal y)) 0 with ⟨h, -⟩ | ⟨h, hneg⟩
  all_goals
    rw [h]
    constructor <;> linarith

/-- A move of cents that stays within the allocation changes it by the amount. -/
theorem executeTreasuryAction_allocation {venue venue' : SimulatedTreasuryVenue}
    {request : TreasuryVenueExecutionRequest} {result : TreasuryVenueExecutionResult}
    (hmove : venue.executeTreasuryAction request = (.ok result, venue'))
    (hallocation : IsCents venue.currentAllocationUsd) (hamount : IsCents request.amountUsd)
    (hcovered : request.actionType ≠ .allocateToVenue →
      request.amountUsd ≤ venue.currentAllocationUsd) :
    venue'.currentAllocationUsd =
      if request.actionType = .allocateToVenue then
        venue.currentAllocationUsd + request.amountUsd
      else venue.currentAllocationUsd - request.amountUsd := by
  have hnot (message : String) : ((.error message, venue) :
      Except String TreasuryVenueExecutionResult × SimulatedTreasuryVenue) ≠ (.ok result, venue') :=
    fun h => by simpa using congrArg Prod.fst h
  unfold executeTreasuryAction at hmove
  dsimp only at hmove
  by_cases hpositive : Number.ofDecimal request.amountUsd ≤ 0
  · rw [if_pos hpositive] at hmove
    exact absurd hmove (hnot _)
  · rw [if_neg hpositive] at hmove
    by_cases htype : request.actionType = .allocateToVenue
    · rw [if_pos htype] at hmove ⊢
      have hvenue : venue.moved _ _ = venue' := congrArg Prod.snd hmove
      rw [← hvenue]
      exact usd_add hallocation hamount
    · rw [if_neg htype] at hmove ⊢
      split_ifs at hmove
      · exact absurd hmove (hnot _)
      · have hvenue : venue.moved _ _ = venue' := congrArg Prod.snd hmove
        rw [← hvenue]
        exact usd_sub hallocation hamount (hcovered htype)

end SimulatedTreasuryVenue

end SentinelApex
