import SentinelApex.Treasury.Policy

/-!
# The treasury execution planner

`TreasuryExecutionPlanner.createExecutionIntents`: a recommendation becomes an execution intent with
the reasons that block it and the balances that it would leave (`effects`). The balances start from
the evaluation's reserve status, that is from amounts of two places.
-/

namespace SentinelApex

inductive TreasuryActionType where
  | allocateToVenue
  | reduceVenueAllocation
  | rebalanceTreasuryBudget
  deriving DecidableEq, Repr

def TreasuryRecommendationType.text : TreasuryRecommendationType → String
  | .deposit => "deposit"
  | .redeem => "redeem"

/-- Where an action moves money: at a venue, or within the reserve. -/
inductive TreasuryActionVenueMode where
  | simulated
  | live
  | reserve
  deriving DecidableEq, Repr

def VenueMode.toTreasury : VenueMode → TreasuryActionVenueMode
  | .simulated => .simulated
  | .live => .live

inductive TreasuryActionReadiness where
  | actionable
  | blocked
  deriving DecidableEq, Repr

structure TreasuryActionBlockedReason where
  code : String
  category : String
  message : String
  operatorAction : String
  details : List (String × Json)

structure TreasuryVenueCapabilities where
  venueId : String
  venueMode : VenueMode
  supportsAllocation : Bool
  supportsReduction : Bool
  executionSupported : Bool
  approvedForLiveUse : Bool
  sensitiveExecutionEligible : Bool
  promotionStatus : PromotionStatus
  promotionBlockedReasons : List String
  missingPrerequisites : List String

structure TreasuryExecutionEffects where
  totalCapitalUsd : Decimal
  idleCapitalUsd : Decimal
  allocatedCapitalUsd : Decimal
  requiredReserveUsd : Decimal
  minimumRemainingIdleUsd : Decimal
  reserveShortfallUsd : Decimal
  targetVenueAllocationUsd : Option Decimal
  targetVenueConcentrationPct : Option Decimal

structure TreasuryExecutionIntent where
  actionType : TreasuryActionType
  recommendationType : TreasuryRecommendationType
  venueId : Option String
  venueName : Option String
  venueMode : TreasuryActionVenueMode
  amountUsd : Decimal
  reasonCode : TreasuryReasonCode
  summary : String
  details : List (String × Json)
  readiness : TreasuryActionReadiness
  blockedReasons : List TreasuryActionBlockedReason
  executable : Bool
  approvalRequirement : ApprovalRequirement
  executionMode : ActionExecutionMode
  simulated : Bool
  effects : TreasuryExecutionEffects

structure TreasuryPlanningInput where
  evaluation : TreasuryEvaluation
  policy : TreasuryPolicy
  executionMode : ActionExecutionMode
  liveExecutionEnabled : Bool
  venueCapabilities : List TreasuryVenueCapabilities

namespace TreasuryExecutionPlanner

def mapActionType : TreasuryRecommendationType → TreasuryActionType
  | .deposit => .allocateToVenue
  | .redeem => .reduceVenueAllocation

def mapApprovalRequirement (venueMode : TreasuryActionVenueMode) : ApprovalRequirement :=
  if venueMode = .live then .admin else .operator

def findVenueSnapshot (evaluation : TreasuryEvaluation) (venueId : Option String) :
    Option TreasuryVenueSnapshot :=
  venueId.bind fun venueId => evaluation.venueSnapshots.find? fun s => decide (s.venueId = venueId)

def findVenueCapabilities (capabilities : List TreasuryVenueCapabilities)
    (venueId : Option String) : Option TreasuryVenueCapabilities :=
  venueId.bind fun venueId => capabilities.find? fun item => decide (item.venueId = venueId)

section

variable (input : TreasuryPlanningInput) (recommendation : TreasuryRecommendation)

def venueSnapshot? : Option TreasuryVenueSnapshot :=
  findVenueSnapshot input.evaluation recommendation.venueId

def venueCapabilities? : Option TreasuryVenueCapabilities :=
  findVenueCapabilities input.venueCapabilities recommendation.venueId

def postIdleCapitalUsd : Decimal :=
  let idleCapitalUsd := input.evaluation.reserveStatus.idleCapitalUsd
  match recommendation.actionType with
  | .deposit => idleCapitalUsd.minus recommendation.amountUsd
  | .redeem => idleCapitalUsd.plus recommendation.amountUsd

def postAllocatedCapitalUsd : Decimal :=
  let allocatedCapitalUsd := input.evaluation.reserveStatus.allocatedCapitalUsd
  match recommendation.actionType with
  | .deposit => allocatedCapitalUsd.plus recommendation.amountUsd
  | .redeem => max (allocatedCapitalUsd.minus recommendation.amountUsd) 0

def targetVenueAllocationUsd : Option Decimal :=
  (venueSnapshot? input recommendation).map fun venue =>
    match recommendation.actionType with
    | .deposit => venue.currentAllocationUsd.plus recommendation.amountUsd
    | .redeem => max (venue.currentAllocationUsd.minus recommendation.amountUsd) 0

def targetVenueConcentrationPct : Option Decimal :=
  let totalCapitalUsd := input.evaluation.reserveStatus.totalCapitalUsd
  (targetVenueAllocationUsd input recommendation).bind fun target =>
    if totalCapitalUsd ≤ 0 then none else some ((target.div totalCapitalUsd).times 100)

def reasonIf (p : Prop) [Decidable p] (reason : TreasuryActionBlockedReason) :
    List TreasuryActionBlockedReason :=
  if p then [reason] else []

def generalReasons : List TreasuryActionBlockedReason :=
  let amountUsd := recommendation.amountUsd
  reasonIf (amountUsd < input.policy.minimumDeployableUsd)
    { code := "below_minimum_action_size"
      message := s!"Action amount {usdText amountUsd} USD is below the minimum action size."
      category := "action_size"
      operatorAction :=
        "Increase the action size or wait for treasury conditions that produce a larger move."
      details := [("amountUsd", .str (usdText amountUsd)),
        ("minimumDeployableUsd", .decimal input.policy.minimumDeployableUsd)] } ++
  match recommendation.venueId with
  | none => []
  | some venueId =>
    reasonIf (venueSnapshot? input recommendation).isNone
      { code := "venue_not_found"
        message := s!"Venue {venueId} was not present in the latest treasury snapshot."
        category := "venue_capability"
        operatorAction := "Refresh treasury evaluation and confirm the venue adapter is " ++
          "registered and reporting snapshots."
        details := [("venueId", .str venueId)] }

def depositVenueReasons (venue : TreasuryVenueSnapshot) : List TreasuryActionBlockedReason :=
  reasonIf (venue.venueId ∉ input.policy.eligibleVenues)
    { code := "venue_ineligible"
      message := s!"Venue {venue.venueName} is not on the treasury eligibility list."
      category := "venue_eligibility"
      operatorAction :=
        "Use an eligible venue or update treasury policy only after formal approval."
      details := [("venueId", .str venue.venueId)] } ++
  reasonIf (¬ venue.healthy)
    { code := "venue_unhealthy"
      message := s!"Venue {venue.venueName} is unhealthy and cannot receive new capital."
      category := "venue_health"
      operatorAction :=
        "Wait for venue health to recover before approving or executing this action."
      details := [("venueId", .str venue.venueId)] }

def depositBalanceReasons : List TreasuryActionBlockedReason :=
  let post := postIdleCapitalUsd input recommendation
  let amountUsd := recommendation.amountUsd
  let idleCapitalUsd := input.evaluation.reserveStatus.idleCapitalUsd
  let requiredReserveUsd := input.evaluation.reserveStatus.requiredReserveUsd
  reasonIf (post < requiredReserveUsd)
    { code := "reserve_floor_breach"
      message := "Action would breach the hard treasury reserve floor."
      category := "reserve"
      operatorAction :=
        "Reduce the allocation amount or redeem funds to restore reserve headroom first."
      details := [("postIdleCapitalUsd", .str (usdText post)),
        ("requiredReserveUsd", .str (usdText requiredReserveUsd))] } ++
  reasonIf (post < input.policy.minimumRemainingIdleUsd)
    { code := "minimum_remaining_liquidity_breach"
      message := "Action would leave treasury below the minimum remaining idle balance."
      category := "liquidity"
      operatorAction := "Preserve more idle cash before executing this action."
      details := [("postIdleCapitalUsd", .str (usdText post)),
        ("minimumRemainingIdleUsd", .str (usdText input.policy.minimumRemainingIdleUsd))] } ++
  reasonIf (idleCapitalUsd < amountUsd)
    { code := "insufficient_idle_capital"
      message := "Action exceeds currently available idle capital."
      category := "liquidity"
      operatorAction :=
        "Reduce the action amount or wait for more idle capital to become available."
      details := [("amountUsd", .str (usdText amountUsd)),
        ("idleCapitalUsd", .str (usdText idleCapitalUsd))] }

/-- The reasons against a deposit that concern the venue's capacity and share. -/
def depositCapacityReasons : List TreasuryActionBlockedReason :=
  let amountUsd := recommendation.amountUsd
  (match venueSnapshot? input recommendation with
  | none => []
  | some venue =>
    reasonIf (venue.availableCapacityUsd < amountUsd)
      { code := "venue_capacity_exceeded"
        message := s!"Action exceeds available capacity at {venue.venueName}."
        category := "capacity"
        operatorAction := "Reduce the action amount or choose a venue with more remaining capacity."
        details := [("amountUsd", .str (usdText amountUsd)),
          ("availableCapacityUsd", .decimal venue.availableCapacityUsd)] }) ++
  match targetVenueConcentrationPct input recommendation with
  | none => []
  | some pct =>
    reasonIf (input.policy.maxAllocationPctPerVenue < pct)
      { code := "venue_concentration_breach"
        message := "Action would breach the venue concentration limit."
        category := "concentration"
        operatorAction :=
          "Reduce the action amount or rebalance capital across more venues first."
        details := [("targetVenueConcentrationPct", .str (usdText pct)),
          ("maxAllocationPctPerVenue", .num input.policy.maxAllocationPctPerVenue)] }

def typeReasons : List TreasuryActionBlockedReason :=
  match recommendation.actionType with
  | .deposit =>
    ((venueSnapshot? input recommendation).elim [] (depositVenueReasons input)) ++
      depositBalanceReasons input recommendation ++ depositCapacityReasons input recommendation
  | .redeem =>
    match venueSnapshot? input recommendation with
    | none => []
    | some venue =>
      reasonIf (venue.withdrawalAvailableUsd < recommendation.amountUsd)
        { code := "withdrawal_capacity_exceeded"
          message := s!"Action exceeds withdrawal capacity at {venue.venueName}."
          category := "capacity"
          operatorAction :=
            "Lower the reduction amount or wait until more capital becomes withdrawable."
          details := [("amountUsd", .str (usdText recommendation.amountUsd)),
            ("withdrawalAvailableUsd", .decimal venue.withdrawalAvailableUsd)] }

def supportReasons (venueId : String) : List TreasuryActionBlockedReason :=
  match venueCapabilities? input recommendation with
  | none => [unsupported]
  | some capabilities =>
    if !capabilities.executionSupported then [unsupported]
    else
      reasonIf ((recommendation.actionType = .deposit ∧ ¬ capabilities.supportsAllocation) ∨
          (recommendation.actionType = .redeem ∧ ¬ capabilities.supportsReduction))
        { code := "venue_execution_unsupported"
          message := s!"Venue {venueId} does not support " ++
            s!"{recommendation.actionType.text} execution."
          category := "venue_capability"
          operatorAction := "Use a venue that supports this treasury action type or limit the " ++
            "venue to read-only operation."
          details := [("venueId", .str venueId),
            ("actionType", .str recommendation.actionType.text)] }
where
  unsupported : TreasuryActionBlockedReason :=
    { code := "venue_execution_unsupported"
      message := s!"Venue {venueId} does not support treasury execution yet."
      category := "venue_capability"
      operatorAction := "Keep the venue in simulated or read-only mode until execution support " ++
        "is implemented and approved."
      details := [("venueId", .str venueId)] }

def liveReasons (venueId : String) (capabilities : TreasuryVenueCapabilities) :
    List TreasuryActionBlockedReason :=
  let promotionStatus : String × Json :=
    ("promotionStatus", .str capabilities.promotionStatus.text)
  reasonIf (¬ capabilities.approvedForLiveUse)
    { code := "venue_live_unapproved"
      message := s!"Venue {venueId} is not approved for live treasury execution."
      category := "venue_capability"
      operatorAction := "Complete connector promotion review before using this venue in " ++
        "sensitive treasury execution."
      details := [("venueId", .str venueId), promotionStatus] } ++
  reasonIf (capabilities.approvedForLiveUse ∧ ¬ capabilities.sensitiveExecutionEligible)
    { code := "venue_live_ineligible"
      message := s!"Venue {venueId} is approved for live use but currently blocked by connector " ++
        "readiness evidence."
      category := "venue_capability"
      operatorAction := "Restore connector truth freshness and health, then re-run treasury " ++
        "evaluation before executing."
      details := [("venueId", .str venueId), promotionStatus,
        ("blockers", .arr (capabilities.promotionBlockedReasons.map .str))] } ++
  reasonIf (input.executionMode ≠ .live ∨ ¬ input.liveExecutionEnabled)
    { code := "live_execution_disabled"
      message := "Live treasury execution is disabled for this runtime."
      category := "execution_mode"
      operatorAction := "Keep this action in dry-run or enable live mode only after connector " ++
        "approval and operator signoff."
      details := [("executionMode", .str input.executionMode.text),
        ("liveExecutionEnabled", .bool input.liveExecutionEnabled)] }

/-- The reasons that concern what the venue can do. -/
def capabilityReasons : List TreasuryActionBlockedReason :=
  match recommendation.venueId with
  | none => []
  | some venueId =>
    supportReasons input recommendation venueId ++
      match venueCapabilities? input recommendation with
      | none => []
      | some capabilities =>
        if capabilities.venueMode = .live then liveReasons input venueId capabilities else []

def blockedReasons : List TreasuryActionBlockedReason :=
  generalReasons input recommendation ++ typeReasons input recommendation ++
    capabilityReasons input recommendation

def venueMode : TreasuryActionVenueMode :=
  match recommendation.venueId with
  | none => .reserve
  | some _ =>
    (((venueSnapshot? input recommendation).map fun venue => venue.mode).or
      ((venueCapabilities? input recommendation).map fun capabilities =>
        capabilities.venueMode)).elim .simulated VenueMode.toTreasury

def effects : TreasuryExecutionEffects :=
  let post := postIdleCapitalUsd input recommendation
  let requiredReserveUsd := input.evaluation.reserveStatus.requiredReserveUsd
  { totalCapitalUsd := usd input.evaluation.reserveStatus.totalCapitalUsd
    idleCapitalUsd := usd post
    allocatedCapitalUsd := usd (postAllocatedCapitalUsd input recommendation)
    requiredReserveUsd := usd requiredReserveUsd
    minimumRemainingIdleUsd := usd input.policy.minimumRemainingIdleUsd
    reserveShortfallUsd := usd (max (requiredReserveUsd.minus post) 0)
    targetVenueAllocationUsd := (targetVenueAllocationUsd input recommendation).map usd
    targetVenueConcentrationPct := (targetVenueConcentrationPct input recommendation).map usd }

def createIntentForRecommendation : TreasuryExecutionIntent :=
  let blockedReasons := blockedReasons input recommendation
  let venueMode := venueMode input recommendation
  { actionType := mapActionType recommendation.actionType
    recommendationType := recommendation.actionType
    venueId := recommendation.venueId
    venueName := (venueSnapshot? input recommendation).map fun venue => venue.venueName
    venueMode
    amountUsd := usd recommendation.amountUsd
    reasonCode := recommendation.reasonCode
    summary := recommendation.summary
    details := recommendation.details
    readiness := if blockedReasons.isEmpty then .actionable else .blocked
    blockedReasons
    executable := blockedReasons.isEmpty
    approvalRequirement := mapApprovalRequirement venueMode
    executionMode := input.executionMode
    simulated := decide (venueMode ≠ .live)
    effects := effects input recommendation }

end

def createExecutionIntents (input : TreasuryPlanningInput) : List TreasuryExecutionIntent :=
  input.evaluation.recommendations.map (createIntentForRecommendation input)

end TreasuryExecutionPlanner

end SentinelApex
