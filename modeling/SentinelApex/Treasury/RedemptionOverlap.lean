import SentinelApex.Lib.Rows
import SentinelApex.Treasury.Evaluation

/-!
# What is redeemed from one venue

Three rules redeem from a venue without regard to each other: a venue that is not eligible, one above
its concentration limit, and a shortfall of the reserve. Together they plan more than the venue holds
exactly if the last two take more than the first leaves (`redemptionsWithin_iff`).
-/

namespace SentinelApex

namespace TreasuryPolicyEngine

def redemptionsFrom (recommendations : List TreasuryRecommendation) (venueId : String) :
    List TreasuryRecommendation :=
  recommendations.filter fun r => decide (r.actionType = .redeem ∧ r.venueId = some venueId)

/-- What is redeemed from each venue is at most its allocation, up to a cent for each
recommendation. -/
def RedemptionsWithin (recommendations : List TreasuryRecommendation)
    (venues : List TreasuryVenueSnapshot) : Prop :=
  ∀ venue ∈ venues,
    ((redemptionsFrom recommendations venue.venueId).map fun r => r.amountUsd).sum ≤
      venue.currentAllocationUsd + (redemptionsFrom recommendations venue.venueId).length / 100

instance (recommendations : List TreasuryRecommendation) (venues : List TreasuryVenueSnapshot) :
    Decidable (RedemptionsWithin recommendations venues) :=
  inferInstanceAs (Decidable (∀ _ ∈ _, _))

def netRedeemedUsd (recommendations : List TreasuryRecommendation) (venueId : String) : ℚ :=
  ((redemptionsFrom recommendations venueId).map fun r => r.amountUsd - 1 / 100).sum

/-- A redemption of an amount, if it is one, in whole cents and less the cent that is granted. -/
def netUsd (amountUsd : Decimal) : ℚ := if 0 < amountUsd then usd amountUsd - 1 / 100 else 0

theorem netUsd_of_nonpos {amountUsd : Decimal} (h : amountUsd ≤ 0) : netUsd amountUsd = 0 :=
  if_neg (not_lt.2 h)

theorem redeemed_le_iff (recommendations : List TreasuryRecommendation) (venueId : String) (x : ℚ) :
    ((redemptionsFrom recommendations venueId).map fun r => r.amountUsd).sum ≤
        x + (redemptionsFrom recommendations venueId).length / 100 ↔
      netRedeemedUsd recommendations venueId ≤ x := by
  have hsum : netRedeemedUsd recommendations venueId =
      ((redemptionsFrom recommendations venueId).map fun r => r.amountUsd).sum -
        (redemptionsFrom recommendations venueId).length / 100 := by
    unfold netRedeemedUsd
    induction redemptionsFrom recommendations venueId with
    | nil => simp
    | cons r rs ih =>
      simp only [List.map_cons, List.sum_cons, List.length_cons, ih]
      push_cast
      ring
  rw [hsum, sub_le_iff_le_add]

section

variable {venueId : String} {recommendation : TreasuryRecommendation}

theorem netRedeemedUsd_append (l l' : List TreasuryRecommendation) :
    netRedeemedUsd (l ++ l') venueId = netRedeemedUsd l venueId + netRedeemedUsd l' venueId := by
  unfold netRedeemedUsd redemptionsFrom
  rw [List.filter_append, List.map_append, List.sum_append]

theorem netRedeemedUsd_flatMap {α : Type} (f : α → List TreasuryRecommendation) (l : List α) :
    netRedeemedUsd (l.flatMap f) venueId = (l.map fun x => netRedeemedUsd (f x) venueId).sum := by
  induction l with
  | nil => rfl
  | cons x l ih => rw [List.flatMap_cons, netRedeemedUsd_append, ih, List.map_cons, List.sum_cons]

theorem netRedeemedUsd_eq_zero {l : List TreasuryRecommendation}
    (h : ∀ r ∈ l, r.actionType = .redeem → r.venueId ≠ some venueId) :
    netRedeemedUsd l venueId = 0 := by
  have hnone : redemptionsFrom l venueId = [] := by
    rw [redemptionsFrom, List.filter_eq_nil_iff]
    simpa using h
  rw [netRedeemedUsd, hnone]
  rfl

theorem netRedeemedUsd_singleton (hredeem : recommendation.actionType = .redeem)
    (hvenue : recommendation.venueId = some venueId) :
    netRedeemedUsd [recommendation] venueId = recommendation.amountUsd - 1 / 100 := by
  simp [netRedeemedUsd, redemptionsFrom, hredeem, hvenue]

theorem netRedeemedUsd_if {amountUsd : Decimal} (hredeem : recommendation.actionType = .redeem)
    (hvenue : recommendation.venueId = some venueId) (hamount : recommendation.amountUsd = usd amountUsd) :
    netRedeemedUsd (if 0 < amountUsd then [recommendation] else []) venueId = netUsd amountUsd := by
  unfold netUsd
  split_ifs
  · rw [netRedeemedUsd_singleton hredeem hvenue, hamount]
  · rfl

end

variable (policy : TreasuryPolicy) (idleCapitalUsd : Decimal) (venues : List TreasuryVenueSnapshot)

/-- What the first rule takes: all that is allocated to a venue that is not eligible. -/
def ineligibleUsd (venue : TreasuryVenueSnapshot) : Decimal :=
  if venue.venueId ∈ policy.eligibleVenues then 0 else venue.currentAllocationUsd

/-- What the second rule takes: the excess over the concentration limit. -/
def concentrationExcessUsd (venue : TreasuryVenueSnapshot) : Decimal :=
  let totalCapital := totalCapitalUsd idleCapitalUsd venues
  if policy.maxAllocationPctPerVenue < concentrationPct totalCapital venue.currentAllocationUsd then
    max (venue.currentAllocationUsd.minus (maxVenueAllocationUsd policy totalCapital)) 0
  else 0

/-- What the third rule takes: of the shortfall that the venues before this one leave, what can be
withdrawn. -/
def reserveDrawUsd (venue : TreasuryVenueSnapshot) : Decimal :=
  min (((redeemCandidates idleCapitalUsd venues).takeWhile fun other =>
      decide (other.venueId ≠ venue.venueId)).foldl shortfallAfter
        (reserveShortfallUsd policy idleCapitalUsd venues))
    venue.withdrawalAvailableUsd

/-- The second and the third rule together take at most what the first one leaves. -/
def RulesFit (venue : TreasuryVenueSnapshot) : Prop :=
  netUsd (concentrationExcessUsd policy idleCapitalUsd venues venue) +
      netUsd (reserveDrawUsd policy idleCapitalUsd venues venue) ≤
    venue.currentAllocationUsd - netUsd (ineligibleUsd policy venue)

instance (venue : TreasuryVenueSnapshot) : Decidable (RulesFit policy idleCapitalUsd venues venue) :=
  inferInstanceAs (Decidable (_ ≤ _))

variable {policy idleCapitalUsd venues} {venue : TreasuryVenueSnapshot}

theorem netRedeemedUsd_redeemIneligible :
    netRedeemedUsd ((redeemIneligible policy venue).toList.map Prod.snd) venue.venueId =
      netUsd (ineligibleUsd policy venue) := by
  unfold redeemIneligible ineligibleUsd
  by_cases heligible : venue.venueId ∈ policy.eligibleVenues
  · simp [heligible, netUsd, netRedeemedUsd, redemptionsFrom]
  · by_cases hpos : 0 < venue.currentAllocationUsd
    · rw [if_pos ⟨heligible, hpos⟩, if_neg heligible, netUsd, if_pos hpos]
      exact netRedeemedUsd_singleton rfl rfl
    · rw [if_neg fun h => hpos h.2, if_neg heligible, netUsd, if_neg hpos]
      rfl

theorem netRedeemedUsd_redeemConcentration (hpct : venue.concentrationPct =
      concentrationPct (totalCapitalUsd idleCapitalUsd venues) venue.currentAllocationUsd) :
    netRedeemedUsd ((redeemConcentration policy (totalCapitalUsd idleCapitalUsd venues)
      venue).toList.map Prod.snd) venue.venueId =
        netUsd (concentrationExcessUsd policy idleCapitalUsd venues venue) := by
  unfold redeemConcentration concentrationExcessUsd
  dsimp only
  rw [hpct]
  by_cases habove : policy.maxAllocationPctPerVenue <
      concentrationPct (totalCapitalUsd idleCapitalUsd venues) venue.currentAllocationUsd
  · rw [if_pos habove, netUsd]
    by_cases hpos : 0 < max (venue.currentAllocationUsd.minus
        (maxVenueAllocationUsd policy (totalCapitalUsd idleCapitalUsd venues))) 0
    · rw [if_pos ⟨habove, hpos⟩, if_pos hpos]
      exact netRedeemedUsd_singleton rfl rfl
    · rw [if_neg fun h => hpos h.2, if_neg hpos]
      rfl
  · rw [if_neg fun h => habove h.1, if_neg habove, netUsd_of_nonpos le_rfl]
    rfl

theorem netRedeemedUsd_venueRecommendations {snapshots : List TreasuryVenueSnapshot}
    (hids : (snapshots.map fun v => v.venueId).Nodup) (hvenue : venue ∈ snapshots)
    (hpct : venue.concentrationPct =
      concentrationPct (totalCapitalUsd idleCapitalUsd venues) venue.currentAllocationUsd) :
    netRedeemedUsd ((venueRecommendations policy (totalCapitalUsd idleCapitalUsd venues)
      snapshots).map Prod.snd) venue.venueId =
        netUsd (ineligibleUsd policy venue) +
          netUsd (concentrationExcessUsd policy idleCapitalUsd venues venue) := by
  rw [venueRecommendations, List.map_flatMap, netRedeemedUsd_flatMap,
    Rows.sum_map_of_unique hids hvenue, List.map_append, netRedeemedUsd_append,
    netRedeemedUsd_redeemIneligible, netRedeemedUsd_redeemConcentration hpct]
  intro other hother hne
  refine netRedeemedUsd_eq_zero fun r hr _ => ?_
  obtain ⟨entry, hentry, rfl⟩ := List.mem_map.1 hr
  rw [(redeem_of_mem hentry).2]
  exact fun h => hne (Option.some.inj h)

variable {candidates : List TreasuryVenueSnapshot}

theorem netRedeemedUsd_redeemForReserve_of_ne {venueId : String}
    (h : ∀ c ∈ candidates, c.venueId ≠ venueId) (remainingShortfall : Decimal) :
    netRedeemedUsd (redeemForReserve candidates remainingShortfall) venueId = 0 := by
  refine netRedeemedUsd_eq_zero fun r hr _ hid => ?_
  obtain ⟨-, c, hc, hcid⟩ := redeem_of_mem_redeemForReserve hr
  exact h c hc (Option.some.inj (hcid.symm.trans hid))

theorem netRedeemedUsd_redeemForReserve (hids : (candidates.map fun c => c.venueId).Nodup)
    (hpos : ∀ c ∈ candidates, 0 < c.withdrawalAvailableUsd) (hvenue : venue ∈ candidates)
    {remainingShortfall : Decimal} (h : 0 ≤ remainingShortfall) :
    netRedeemedUsd (redeemForReserve candidates remainingShortfall) venue.venueId =
      netUsd (min ((candidates.takeWhile fun c => decide (c.venueId ≠ venue.venueId)).foldl
        shortfallAfter remainingShortfall) venue.withdrawalAvailableUsd) := by
  induction candidates generalizing remainingShortfall with
  | nil => cases hvenue
  | cons c candidates ih =>
    obtain ⟨hnew, hrest⟩ := List.nodup_cons.1 hids
    obtain ⟨hc, hposRest⟩ := List.forall_mem_cons.1 hpos
    have hothers : ∀ other ∈ candidates, other.venueId ≠ c.venueId :=
      fun other hother hid => hnew (List.mem_map.2 ⟨other, hother, hid⟩)
    rw [redeemForReserve_cons hc candidates h, netRedeemedUsd_append]
    rcases List.mem_cons.1 hvenue with rfl | hvenue
    · have htake : ((venue :: candidates).takeWhile fun c => decide (c.venueId ≠ venue.venueId)) =
          [] := by simp
      rw [netRedeemedUsd_redeemForReserve_of_ne hothers, add_zero, htake, List.foldl_nil]
      exact netRedeemedUsd_if rfl rfl rfl
    · have hne : c.venueId ≠ venue.venueId := (hothers venue hvenue).symm
      have htake : ((c :: candidates).takeWhile fun c => decide (c.venueId ≠ venue.venueId)) =
          c :: candidates.takeWhile fun c => decide (c.venueId ≠ venue.venueId) := by
        rw [List.takeWhile_cons, if_pos (by simpa using hne)]
      rw [htake, List.foldl_cons, ih hrest hposRest hvenue (shortfallAfter_nonneg _ _),
        netRedeemedUsd_eq_zero, zero_add]
      intro r hr _
      split_ifs at hr
      · obtain rfl := List.mem_singleton.1 hr
        exact fun hid => hne (Option.some.inj hid)
      · cases hr

theorem venueIds_venueSnapshots :
    (venueSnapshots idleCapitalUsd venues).map (fun v => v.venueId) =
      venues.map fun v => v.venueId := by
  rw [venueSnapshots, List.map_map]
  rfl

section

variable (hids : (venues.map fun v => v.venueId).Nodup)

include hids

theorem nodup_redeemCandidates :
    ((redeemCandidates idleCapitalUsd venues).map fun v => v.venueId).Nodup := by
  rw [redeemCandidates, ((List.perm_insertionSort _ _).map _).nodup_iff]
  rw [← venueIds_venueSnapshots] at hids
  exact hids.sublist (List.filter_sublist.map _)

theorem netRedeemedUsd_reserve (hvenue : venue ∈ venueSnapshots idleCapitalUsd venues) :
    netRedeemedUsd (if 0 < reserveShortfallUsd policy idleCapitalUsd venues then
        redeemForReserve (redeemCandidates idleCapitalUsd venues)
          (reserveShortfallUsd policy idleCapitalUsd venues)
      else []) venue.venueId = netUsd (reserveDrawUsd policy idleCapitalUsd venues venue) := by
  have hshortfall : 0 ≤ reserveShortfallUsd policy idleCapitalUsd venues := le_max_right _ _
  have hif : (if 0 < reserveShortfallUsd policy idleCapitalUsd venues then
        redeemForReserve (redeemCandidates idleCapitalUsd venues)
          (reserveShortfallUsd policy idleCapitalUsd venues)
      else []) = redeemForReserve (redeemCandidates idleCapitalUsd venues)
        (reserveShortfallUsd policy idleCapitalUsd venues) := by
    split_ifs with hpos
    · rfl
    · rw [redeemForReserve_of_nonpos (not_lt.1 hpos)]
  rw [hif]
  by_cases hpos : 0 < venue.withdrawalAvailableUsd
  · exact netRedeemedUsd_redeemForReserve (nodup_redeemCandidates hids)
      (fun c hc => (mem_redeemCandidates_iff.1 hc).2) (mem_redeemCandidates_iff.2 ⟨hvenue, hpos⟩)
      hshortfall
  · have hdraw : reserveDrawUsd policy idleCapitalUsd venues venue ≤ 0 :=
      (min_le_right _ _).trans (not_lt.1 hpos)
    rw [netUsd_of_nonpos hdraw]
    refine netRedeemedUsd_redeemForReserve_of_ne (fun c hc hid => hpos ?_) _
    obtain ⟨hmem, hc0⟩ := mem_redeemCandidates_iff.1 hc
    rw [← venueIds_venueSnapshots] at hids
    rwa [← List.inj_on_of_nodup_map hids hmem hvenue hid]

/-- What is redeemed from a venue is what the three rules take. -/
theorem netRedeemedUsd_evaluate (hvenue : venue ∈ venues) :
    netRedeemedUsd (evaluate policy idleCapitalUsd venues).recommendations venue.venueId =
      netUsd (ineligibleUsd policy venue) +
        netUsd (concentrationExcessUsd policy idleCapitalUsd venues venue) +
          netUsd (reserveDrawUsd policy idleCapitalUsd venues venue) := by
  let snapshot : TreasuryVenueSnapshot :=
    { venue with
      concentrationPct :=
        concentrationPct (totalCapitalUsd idleCapitalUsd venues) venue.currentAllocationUsd }
  have hsnapshot : snapshot ∈ venueSnapshots idleCapitalUsd venues := List.mem_map_of_mem hvenue
  have hids' : ((venueSnapshots idleCapitalUsd venues).map fun v => v.venueId).Nodup := by
    rwa [venueIds_venueSnapshots]
  have hdeposits : netRedeemedUsd
      (if policy.minimumDeployableUsd ≤ surplusCapitalUsd policy idleCapitalUsd venues then
        deploySurplus policy (totalCapitalUsd idleCapitalUsd venues)
          (deployCandidates policy idleCapitalUsd venues)
          (surplusCapitalUsd policy idleCapitalUsd venues)
      else []) venue.venueId = 0 := by
    refine netRedeemedUsd_eq_zero fun r hr hredeem => ?_
    split_ifs at hr
    · obtain ⟨before, other, after, -, -, rfl⟩ := mem_deploySurplus_iff.1 hr
      cases hredeem
    · cases hr
  have hvenues := @netRedeemedUsd_venueRecommendations policy idleCapitalUsd venues snapshot _ hids'
    hsnapshot rfl
  have hreserve := @netRedeemedUsd_reserve policy idleCapitalUsd venues snapshot hids hsnapshot
  rw [evaluate_recommendations, netRedeemedUsd_append, netRedeemedUsd_append, hdeposits, add_zero]
  exact congrArg₂ (· + ·) hvenues hreserve

end

/-- No venue is planned to be redeemed beyond its allocation exactly if at every venue the second and
the third rule take at most what the first one leaves. -/
theorem redemptionsWithin_iff (policy : TreasuryPolicy) (idleCapitalUsd : Decimal)
    (venues : List TreasuryVenueSnapshot) (hids : (venues.map fun v => v.venueId).Nodup) :
    RedemptionsWithin (evaluate policy idleCapitalUsd venues).recommendations venues ↔
      ∀ venue ∈ venues, RulesFit policy idleCapitalUsd venues venue := by
  unfold RedemptionsWithin RulesFit
  refine forall₂_congr fun venue hvenue => ?_
  rw [redeemed_le_iff, netRedeemedUsd_evaluate hids hvenue]
  constructor <;> intro h <;> linarith

/-- An eligible venue below its concentration limit only gives to the reserve what it has. -/
theorem rulesFit_of_eligible (heligible : venue.venueId ∈ policy.eligibleVenues)
    (hpct : concentrationPct (totalCapitalUsd idleCapitalUsd venues) venue.currentAllocationUsd ≤
      policy.maxAllocationPctPerVenue)
    (halloc : 0 ≤ venue.currentAllocationUsd)
    (hwithdrawal : venue.withdrawalAvailableUsd ≤ venue.currentAllocationUsd) :
    RulesFit policy idleCapitalUsd venues venue := by
  have hexcess : concentrationExcessUsd policy idleCapitalUsd venues venue = 0 :=
    if_neg (not_lt.2 hpct)
  have hineligible : ineligibleUsd policy venue = 0 := if_pos heligible
  have hdraw : netUsd (reserveDrawUsd policy idleCapitalUsd venues venue) ≤
      venue.currentAllocationUsd := by
    unfold netUsd
    split_ifs
    · have hle : reserveDrawUsd policy idleCapitalUsd venues venue ≤ venue.currentAllocationUsd :=
        (min_le_right _ _).trans hwithdrawal
      have hround := abs_le.1 (abs_usd_sub_le (reserveDrawUsd policy idleCapitalUsd venues venue))
      linarith [hround.2]
    · exact halloc
  unfold RulesFit
  rw [hexcess, hineligible, netUsd_of_nonpos le_rfl]
  linarith

/-- A venue from which everything can be withdrawn. -/
def sampleAllocation (venueId : String) (currentAllocationUsd : Decimal) :
    TreasuryVenueSnapshot where
  venueId
  venueName := venueId
  mode := .simulated
  liquidityTier := .instant
  healthy := true
  aprBps := 400
  availableCapacityUsd := 0
  currentAllocationUsd
  withdrawalAvailableUsd := currentAllocationUsd
  concentrationPct := 0

/-- Of 15000 USD at a venue 3000 are above its concentration limit and 1000 are missing in the reserve. -/
theorem redemptionsWithin_sample :
    (evaluate defaultTreasuryPolicy 9000 [sampleAllocation "atlas-t0-sim" 15000]).recommendations.map
        (fun r => (r.actionType, r.amountUsd)) = [(.redeem, 3000), (.redeem, 1000)] ∧
    RedemptionsWithin (evaluate defaultTreasuryPolicy 9000
      [sampleAllocation "atlas-t0-sim" 15000]).recommendations
        [sampleAllocation "atlas-t0-sim" 15000] := by
  refine ⟨by decide +kernel, (redemptionsWithin_iff defaultTreasuryPolicy 9000
    [sampleAllocation "atlas-t0-sim" 15000] (by decide)).2 ?_⟩
  decide +kernel

/-- All three rules redeem from the only venue: 12500 USD of 5000 USD. -/
theorem three_rules_exceed_allocation :
    (evaluate defaultTreasuryPolicy 0 [sampleAllocation "legacy" 5000]).recommendations.map
        (fun r => (r.actionType, r.amountUsd)) =
      [(.redeem, 5000), (.redeem, 2500), (.redeem, 5000)] ∧
    ¬ RedemptionsWithin (evaluate defaultTreasuryPolicy 0
      [sampleAllocation "legacy" 5000]).recommendations [sampleAllocation "legacy" 5000] := by
  exact ⟨by decide +kernel, by decide +kernel⟩

end TreasuryPolicyEngine

end SentinelApex
