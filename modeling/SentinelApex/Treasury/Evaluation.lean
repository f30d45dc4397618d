import SentinelApex.Treasury.Policy

/-!
# What an evaluation recommends

The two loops of `TreasuryPolicyEngine.evaluate` in closed form: what a venue gives to the reserve or
gets of the surplus depends on the venues before it only through what these leave
(`redeemForReserve_cons`, `mem_deploySurplus_iff`).
-/

namespace SentinelApex

variable {venue : TreasuryVenueSnapshot} {remainingShortfall : Decimal}
  {venues : List TreasuryVenueSnapshot}

namespace TreasuryPolicyEngine

section

variable (policy : TreasuryPolicy) (idleCapitalUsd : Decimal) (venues : List TreasuryVenueSnapshot)

def totalCapitalUsd : Decimal := idleCapitalUsd.plus (totalAllocatedUsd venues)

def requiredReserveUsd : Decimal :=
  max policy.minReserveUsd
    (((totalCapitalUsd idleCapitalUsd venues).times policy.reserveFloorPct).div 100)

def reserveShortfallUsd : Decimal :=
  max ((requiredReserveUsd policy idleCapitalUsd venues).minus idleCapitalUsd) 0

def surplusCapitalUsd : Decimal :=
  max (idleCapitalUsd.minus (requiredReserveUsd policy idleCapitalUsd venues)) 0

def venueSnapshots : List TreasuryVenueSnapshot :=
  venues.map fun venue =>
    { venue with
      concentrationPct :=
        concentrationPct (totalCapitalUsd idleCapitalUsd venues) venue.currentAllocationUsd }

def redeemCandidates : List TreasuryVenueSnapshot :=
  ((venueSnapshots idleCapitalUsd venues).filter fun venue =>
    decide (0 < venue.withdrawalAvailableUsd)).insertionSort byLiquidityAscending

def deployCandidates : List TreasuryVenueSnapshot :=
  ((venueSnapshots idleCapitalUsd venues).filter fun venue =>
    decide (venue.venueId ∈ policy.eligibleVenues) && venue.healthy).insertionSort byYieldDescending

theorem evaluate_recommendations :
    (evaluate policy idleCapitalUsd venues).recommendations =
      (venueRecommendations policy (totalCapitalUsd idleCapitalUsd venues)
        (venueSnapshots idleCapitalUsd venues)).map Prod.snd ++
      (if 0 < reserveShortfallUsd policy idleCapitalUsd venues then
        redeemForReserve (redeemCandidates idleCapitalUsd venues)
          (reserveShortfallUsd policy idleCapitalUsd venues)
      else []) ++
      if policy.minimumDeployableUsd ≤ surplusCapitalUsd policy idleCapitalUsd venues then
        deploySurplus policy (totalCapitalUsd idleCapitalUsd venues)
          (deployCandidates policy idleCapitalUsd venues)
          (surplusCapitalUsd policy idleCapitalUsd venues)
      else [] := rfl

/-- The most that a deposit at a venue may be: the room under its cap, and its capacity. -/
def depositLimitUsd (totalCapitalUsd : Decimal) (venue : TreasuryVenueSnapshot) : Decimal :=
  min (max ((maxVenueAllocationUsd policy totalCapitalUsd).minus venue.currentAllocationUsd) 0)
    venue.availableCapacityUsd

def surplusAfter (totalCapitalUsd remainingSurplus : Decimal) (venue : TreasuryVenueSnapshot) :
    Decimal :=
  let deployUsd := min remainingSurplus (depositLimitUsd policy totalCapitalUsd venue)
  if deployUsd < policy.minimumDeployableUsd then remainingSurplus
  else remainingSurplus.minus deployUsd

def depositRecommendation (deployUsd : Decimal) (venue : TreasuryVenueSnapshot) :
    TreasuryRecommendation where
  actionType := .deposit
  venueId := some venue.venueId
  amountUsd := usd deployUsd
  reasonCode := .surplusDeployable
  summary := s!"Deploy {usdText deployUsd} USD of surplus cash into {venue.venueName}."
  details := [("aprBps", .num venue.aprBps),
    ("liquidityTier", .str venue.liquidityTier.text),
    ("availableCapacityUsd", .decimal venue.availableCapacityUsd)]

def reserveRecommendation (withdrawalUsd : Decimal) (venue : TreasuryVenueSnapshot) :
    TreasuryRecommendation where
  actionType := .redeem
  venueId := some venue.venueId
  amountUsd := usd withdrawalUsd
  reasonCode := .reserveShortfall
  summary := s!"Redeem {usdText withdrawalUsd} USD from {venue.venueName} to restore " ++
    "the treasury reserve floor."
  details := [("liquidityTier", .str venue.liquidityTier.text),
    ("withdrawalAvailableUsd", .decimal venue.withdrawalAvailableUsd)]

def shortfallAfter (remainingShortfall : Decimal) (venue : TreasuryVenueSnapshot) : Decimal :=
  max (remainingShortfall.minus venue.withdrawalAvailableUsd) 0

end

theorem mem_redeemCandidates_iff {idleCapitalUsd : Decimal} :
    venue ∈ redeemCandidates idleCapitalUsd venues ↔
      venue ∈ venueSnapshots idleCapitalUsd venues ∧ 0 < venue.withdrawalAvailableUsd := by
  rw [redeemCandidates, List.mem_insertionSort, List.mem_filter, decide_eq_true_iff]

section

variable {policy : TreasuryPolicy} {totalCapital : Decimal}

theorem deploySurplus_of_lt {remainingSurplus : Decimal}
    (h : remainingSurplus < policy.minimumDeployableUsd) (venues : List TreasuryVenueSnapshot) :
    deploySurplus policy totalCapital venues remainingSurplus = [] := by
  cases venues with
  | nil => rfl
  | cons venue venues => rw [deploySurplus, if_pos h]

theorem deploySurplus_cons (venue : TreasuryVenueSnapshot) (venues : List TreasuryVenueSnapshot)
    (remainingSurplus : Decimal) :
    deploySurplus policy totalCapital (venue :: venues) remainingSurplus =
      (if policy.minimumDeployableUsd ≤
          min remainingSurplus (depositLimitUsd policy totalCapital venue) then
        [depositRecommendation (min remainingSurplus (depositLimitUsd policy totalCapital venue))
          venue]
      else []) ++
        deploySurplus policy totalCapital venues
          (surplusAfter policy totalCapital remainingSurplus venue) := by
  unfold surplusAfter
  dsimp only
  by_cases hsurplus : remainingSurplus < policy.minimumDeployableUsd
  · have hmin : min remainingSurplus (depositLimitUsd policy totalCapital venue) <
        policy.minimumDeployableUsd := (min_le_left _ _).trans_lt hsurplus
    rw [if_neg (not_le.2 hmin), if_pos hmin, deploySurplus_of_lt hsurplus,
      deploySurplus_of_lt hsurplus]
    rfl
  · rw [deploySurplus, if_neg hsurplus]
    dsimp only
    rw [min_assoc]
    show (if min remainingSurplus (depositLimitUsd policy totalCapital venue) <
      policy.minimumDeployableUsd then _ else _) = _
    split_ifs with hdeploy hle hle
    · exact absurd hle (not_le.2 hdeploy)
    · rfl
    · rfl
    · exact absurd (not_lt.1 hdeploy) hle

/-- A venue gets what the venues before it leave, up to its limit, unless that is too little. -/
theorem mem_deploySurplus_iff {recommendation : TreasuryRecommendation} {surplus : Decimal} :
    recommendation ∈ deploySurplus policy totalCapital venues surplus ↔
      ∃ before venue after, venues = before ++ venue :: after ∧
        policy.minimumDeployableUsd ≤ min (before.foldl (surplusAfter policy totalCapital) surplus)
          (depositLimitUsd policy totalCapital venue) ∧
        recommendation = depositRecommendation
          (min (before.foldl (surplusAfter policy totalCapital) surplus)
            (depositLimitUsd policy totalCapital venue)) venue := by
  induction venues generalizing surplus with
  | nil => simp [deploySurplus]
  | cons first rest ih =>
    rw [deploySurplus_cons, List.mem_append, ih]
    constructor
    · rintro (hfirst | ⟨before, venue, after, rfl, hsize, rfl⟩)
      · split_ifs at hfirst with hsize
        · exact ⟨[], first, rest, rfl, hsize, List.mem_singleton.1 hfirst⟩
        · cases hfirst
      · exact ⟨first :: before, venue, after, rfl, hsize, rfl⟩
    · rintro ⟨before, venue, after, hsplit, hsize, rfl⟩
      cases before with
      | nil =>
        obtain ⟨rfl, rfl⟩ := List.cons.inj hsplit
        left
        rw [List.foldl_nil] at hsize ⊢
        rw [if_pos hsize]
        exact List.mem_singleton_self _
      | cons head before =>
        obtain ⟨rfl, rfl⟩ := List.cons.inj hsplit
        exact Or.inr ⟨before, venue, after, rfl, hsize, rfl⟩

end

section

variable {policy : TreasuryPolicy} {totalCapital : Decimal}

theorem redeem_of_mem {entry : String × TreasuryRecommendation}
    (h : entry ∈ (redeemIneligible policy venue).toList ++
      (redeemConcentration policy totalCapital venue).toList) :
    entry.2.actionType = .redeem ∧ entry.2.venueId = some venue.venueId := by
  rcases List.mem_append.1 h with h | h
  · unfold redeemIneligible at h
    split_ifs at h
    · obtain rfl := List.mem_singleton.1 h
      exact ⟨rfl, rfl⟩
    · cases h
  · unfold redeemConcentration at h
    dsimp only at h
    split_ifs at h
    · obtain rfl := List.mem_singleton.1 h
      exact ⟨rfl, rfl⟩
    · cases h

theorem redeem_of_mem_redeemForReserve {recommendation : TreasuryRecommendation}
    (h : recommendation ∈ redeemForReserve venues remainingShortfall) :
    recommendation.actionType = .redeem ∧
      ∃ venue ∈ venues, recommendation.venueId = some venue.venueId := by
  induction venues generalizing remainingShortfall with
  | nil => cases h
  | cons venue venues ih =>
    rw [redeemForReserve] at h
    dsimp only at h
    split_ifs at h
    · cases h
    · obtain ⟨htype, other, hother, hid⟩ := ih h
      exact ⟨htype, other, List.mem_cons_of_mem _ hother, hid⟩
    · rcases List.mem_cons.1 h with rfl | h
      · exact ⟨rfl, venue, List.mem_cons_self, rfl⟩
      · obtain ⟨htype, other, hother, hid⟩ := ih h
        exact ⟨htype, other, List.mem_cons_of_mem _ hother, hid⟩

end

theorem redeemForReserve_of_nonpos (h : remainingShortfall ≤ 0)
    (venues : List TreasuryVenueSnapshot) : redeemForReserve venues remainingShortfall = [] := by
  cases venues with
  | nil => rfl
  | cons venue venues => rw [redeemForReserve, if_pos h]

theorem shortfallAfter_nonneg (remainingShortfall : Decimal) (venue : TreasuryVenueSnapshot) :
    0 ≤ shortfallAfter remainingShortfall venue := le_max_right _ _

theorem shortfallAfter_of_le (h : remainingShortfall ≤ venue.withdrawalAvailableUsd) :
    shortfallAfter remainingShortfall venue = 0 :=
  max_eq_right (decimalJs.round_nonpos (sub_nonpos.2 h))

theorem redeemForReserve_cons (hvenue : 0 < venue.withdrawalAvailableUsd)
    (venues : List TreasuryVenueSnapshot) (h : 0 ≤ remainingShortfall) :
    redeemForReserve (venue :: venues) remainingShortfall =
      (if 0 < min remainingShortfall venue.withdrawalAvailableUsd then
        [reserveRecommendation (min remainingShortfall venue.withdrawalAvailableUsd) venue]
      else []) ++ redeemForReserve venues (shortfallAfter remainingShortfall venue) := by
  rw [redeemForReserve]
  rcases h.eq_or_lt with rfl | hpos
  · have hafter : shortfallAfter 0 venue = 0 := shortfallAfter_of_le hvenue.le
    rw [if_pos le_rfl, hafter, redeemForReserve_of_nonpos le_rfl, if_neg (by simp)]
    rfl
  · have hmin : 0 < min remainingShortfall venue.withdrawalAvailableUsd := lt_min hpos hvenue
    have hafter : remainingShortfall.minus (min remainingShortfall venue.withdrawalAvailableUsd) =
        shortfallAfter remainingShortfall venue := by
      rcases le_total remainingShortfall venue.withdrawalAvailableUsd with hle | hle
      · rw [min_eq_left hle, shortfallAfter_of_le hle, Decimal.minus, sub_self]
        exact decimalJs.round_zero
      · rw [min_eq_right hle, shortfallAfter]
        exact (max_eq_left (decimalJs.round_nonneg (sub_nonneg.2 hle))).symm
    rw [if_neg (not_le.2 hpos), if_pos hmin]
    dsimp only
    rw [if_neg (not_le.2 hmin), hafter]
    rfl

section

variable {policy : TreasuryPolicy} {idleCapitalUsd : Decimal} {venues : List TreasuryVenueSnapshot}

theorem filter_deposits :
    (evaluate policy idleCapitalUsd venues).recommendations.filter
        (fun r => decide (r.actionType = .deposit)) =
      deploySurplus policy (totalCapitalUsd idleCapitalUsd venues)
        (deployCandidates policy idleCapitalUsd venues)
        (surplusCapitalUsd policy idleCapitalUsd venues) := by
  have hif : (if policy.minimumDeployableUsd ≤ surplusCapitalUsd policy idleCapitalUsd venues then
        deploySurplus policy (totalCapitalUsd idleCapitalUsd venues)
          (deployCandidates policy idleCapitalUsd venues)
          (surplusCapitalUsd policy idleCapitalUsd venues)
      else []) = deploySurplus policy (totalCapitalUsd idleCapitalUsd venues)
        (deployCandidates policy idleCapitalUsd venues)
        (surplusCapitalUsd policy idleCapitalUsd venues) := by
    split_ifs with hsurplus
    · rfl
    · rw [deploySurplus_of_lt (not_le.1 hsurplus)]
  rw [evaluate_recommendations, hif, List.filter_append, List.filter_eq_nil_iff.2,
    List.nil_append, List.filter_eq_self]
  · intro r hr
    obtain ⟨before, venue, after, -, -, rfl⟩ := mem_deploySurplus_iff.1 hr
    rfl
  · intro r hr
    have htype : r.actionType = .redeem := by
      rcases List.mem_append.1 hr with hr | hr
      · obtain ⟨entry, hentry, rfl⟩ := List.mem_map.1 hr
        obtain ⟨venue, -, hentry⟩ := List.mem_flatMap.1 hentry
        exact (redeem_of_mem hentry).1
      · split_ifs at hr
        · exact (redeem_of_mem_redeemForReserve hr).1
        · cases hr
    rw [htype]
    decide

end

end TreasuryPolicyEngine

end SentinelApex
