import SentinelApex.Lib.Rows
import SentinelApex.Treasury.DepositAgreement

/-!
# All executable deposits together

The planner checks every deposit against the balances of the evaluation, as if it were the only one.
The reserve also survives all of them together, up to a cent for each deposit after the first, because
the engine's loop has divided the surplus among them; the minimum that has to remain idle only survives
each of them alone (`depositsFit`).
-/

namespace SentinelApex

open SigDigits

variable {venue : TreasuryVenueSnapshot} {deployUsd : Decimal}

namespace TreasuryExecutionPlanner

open TreasuryPolicyEngine

/-! ## Deposits -/

def executableDeposits (input : TreasuryPlanningInput) : List TreasuryExecutionIntent :=
  (createExecutionIntents input).filter fun intent =>
    intent.executable && decide (intent.recommendationType = .deposit)

def depositedUsd (intents : List TreasuryExecutionIntent) : ℚ :=
  (intents.map fun intent => intent.amountUsd).sum

def receivedUsd (intents : List TreasuryExecutionIntent) (venueId : String) : ℚ :=
  depositedUsd (intents.filter fun intent => decide (intent.venueId = some venueId))

def allocatedUsd (venues : List TreasuryVenueSnapshot) : ℚ :=
  (venues.map fun venue => venue.currentAllocationUsd).sum

/-- What holds after the deposits: the reserve, up to a cent for each deposit after the first; the
minimum after each deposit alone; and the limits of the venues that receive something, each in one
deposit, the limit on the share up to the error of `decimal.js`. -/
structure DepositsFit (policy : TreasuryPolicy) (idleCapitalUsd : Decimal)
    (venues : List TreasuryVenueSnapshot) (intents : List TreasuryExecutionIntent) : Prop where
  reserve : intents ≠ [] → usd (requiredReserveUsd policy idleCapitalUsd venues) ≤
    idleCapitalUsd - depositedUsd intents + ((intents.length : ℚ) - 1) / 100
  minimum : ∀ intent ∈ intents, policy.minimumRemainingIdleUsd ≤ idleCapitalUsd - intent.amountUsd
  once : (intents.map fun intent => intent.venueId).Nodup
  venue : ∀ venue ∈ venues, (∃ intent ∈ intents, intent.venueId = some venue.venueId) →
    receivedUsd intents venue.venueId ≤ venue.availableCapacityUsd ∧
      venue.currentAllocationUsd + receivedUsd intents venue.venueId ≤
        policy.maxAllocationPctPerVenue / 100 * (idleCapitalUsd + allocatedUsd venues) + 1 / 1000

/-- The floors and the limits after all deposits. -/
structure FloorsKept (policy : TreasuryPolicy) (idleCapitalUsd : Decimal)
    (venues : List TreasuryVenueSnapshot) (intents : List TreasuryExecutionIntent) : Prop where
  reserve : usd (requiredReserveUsd policy idleCapitalUsd venues) ≤
    idleCapitalUsd - depositedUsd intents
  minimum : policy.minimumRemainingIdleUsd ≤ idleCapitalUsd - depositedUsd intents
  capacity : ∀ venue ∈ venues, receivedUsd intents venue.venueId ≤ venue.availableCapacityUsd
  share : ∀ venue ∈ venues, venue.currentAllocationUsd + receivedUsd intents venue.venueId ≤
    policy.maxAllocationPctPerVenue / 100 * (idleCapitalUsd + allocatedUsd venues)

/-- Amounts of money in whole cents, of which `decimal.js` keeps all digits. -/
structure CentAmounts (policy : TreasuryPolicy) (idleCapitalUsd : Decimal)
    (venues : List TreasuryVenueSnapshot) : Prop where
  idle : 0 ≤ idleCapitalUsd ∧ idleCapitalUsd ∈ Decimal.Places 2
  allocation : ∀ venue ∈ venues,
    0 ≤ venue.currentAllocationUsd ∧ venue.currentAllocationUsd ∈ Decimal.Places 2
  capacity : ∀ venue ∈ venues, 0 ≤ venue.availableCapacityUsd
  total : idleCapitalUsd + allocatedUsd venues ≤ 10 ^ 17
  surplus : idleCapitalUsd - requiredReserveUsd policy idleCapitalUsd venues ≤ 10 ^ 17

/-! ## Rounding -/

theorem round_le_add {x : ℚ} (h0 : 0 ≤ x) (hle : x ≤ 10 ^ 17) :
    decimalJs.round x ≤ x + 1 / 2000 := by
  have hround := Decimal.abs_round_sub_le (k := -3) (x := x) (by
    rw [abs_of_nonneg h0]
    norm_num
    exact hle)
  norm_num at hround
  linarith [(abs_le.1 hround).2]

theorem round_of_cents {x : ℚ} (hx : x ∈ Decimal.Places 2) (h0 : 0 ≤ x) (hle : x ≤ 10 ^ 17) :
    decimalJs.round x = x := by
  refine Decimal.round_of_exact (k := -2) ⟨hx, ?_⟩
  rw [abs_of_nonneg h0]
  refine hle.trans ?_
  norm_num

/-! ## The loop -/

/-- An amount that the loop can divide. -/
structure Divisible (surplus : Decimal) : Prop where
  nonneg : 0 ≤ surplus
  le : surplus ≤ 10 ^ 17
  round : decimalJs.round surplus = surplus

section

variable {policy : TreasuryPolicy} {totalCapital surplus : Decimal} {venue : TreasuryVenueSnapshot}

theorem Divisible.round_le (h : Divisible surplus) {x : ℚ} (hx : x ≤ surplus) :
    decimalJs.round x ≤ surplus := by
  rw [← h.round]
  exact decimalJs.round_mono hx

theorem depositLimitUsd_nonneg (hcapacity : 0 ≤ venue.availableCapacityUsd) :
    0 ≤ depositLimitUsd policy totalCapital venue := le_min (le_max_right _ _) hcapacity

theorem Divisible.minus (h : Divisible surplus) (h0 : 0 ≤ deployUsd) (hle : deployUsd ≤ surplus) :
    Divisible (surplus.minus deployUsd) ∧ surplus.minus deployUsd ≤ surplus ∧
      surplus.minus deployUsd ≤ surplus - deployUsd + 1 / 2000 := by
  have hround : surplus.minus deployUsd ≤ surplus := h.round_le (sub_le_self _ h0)
  have hleft : 0 ≤ surplus - deployUsd := sub_nonneg.2 hle
  have hbound : surplus - deployUsd ≤ 10 ^ 17 := (sub_le_self _ h0).trans h.le
  exact ⟨⟨decimalJs.round_nonneg hleft, hround.trans h.le, decimalJs.round_round _⟩, hround,
    round_le_add hleft hbound⟩

theorem Divisible.surplusAfter (h : Divisible surplus) (hcapacity : 0 ≤ venue.availableCapacityUsd) :
    Divisible (surplusAfter policy totalCapital surplus venue) := by
  unfold TreasuryPolicyEngine.surplusAfter
  dsimp only
  split_ifs
  · exact h
  · exact (h.minus (le_min h.nonneg (depositLimitUsd_nonneg hcapacity)) (min_le_left _ _)).1

variable {venues : List TreasuryVenueSnapshot}

theorem Divisible.foldl_surplusAfter (h : Divisible surplus)
    (hcapacity : ∀ venue ∈ venues, 0 ≤ venue.availableCapacityUsd) :
    Divisible (venues.foldl (TreasuryPolicyEngine.surplusAfter policy totalCapital) surplus) := by
  induction venues generalizing surplus with
  | nil => exact h
  | cons venue venues ih =>
    obtain ⟨hvenue, hrest⟩ := List.forall_mem_cons.1 hcapacity
    exact ih (h.surplusAfter hvenue) hrest

/-- The deposits that are chosen from those of the loop add up to the surplus, up to the rounding of
each of them. -/
theorem sum_deploySurplus_le (hcapacity : ∀ venue ∈ venues, 0 ≤ venue.availableCapacityUsd)
    (hsurplus : Divisible surplus) (p : TreasuryRecommendation → Bool) :
    (((deploySurplus policy totalCapital venues surplus).filter p).map fun r => r.amountUsd).sum ≤
      surplus + ((deploySurplus policy totalCapital venues surplus).filter p).length * (11 / 2000) := by
  induction venues generalizing surplus with
  | nil => simpa [deploySurplus] using hsurplus.nonneg
  | cons venue venues ih =>
    obtain ⟨hvenue, hrest⟩ := List.forall_mem_cons.1 hcapacity
    rw [deploySurplus_cons, surplusAfter]
    set deployUsd := min surplus (depositLimitUsd policy totalCapital venue)
    by_cases hsize : policy.minimumDeployableUsd ≤ deployUsd
    · rw [if_pos hsize, if_neg (not_lt.2 hsize)]
      have h0 : 0 ≤ deployUsd := le_min hsurplus.nonneg (depositLimitUsd_nonneg hvenue)
      obtain ⟨hnext, hle, hminus⟩ := hsurplus.minus h0 (min_le_left _ _)
      have hsum := ih hrest hnext
      by_cases hp : p (depositRecommendation deployUsd venue) = true
      · have husd := (abs_le.1 (abs_usd_sub_le deployUsd)).2
        rw [List.filter_append, List.filter_cons_of_pos hp, List.filter_nil, List.singleton_append,
          List.map_cons, List.sum_cons, List.length_cons]
        have hamount : (depositRecommendation deployUsd venue).amountUsd = usd deployUsd := rfl
        rw [hamount]
        push_cast
        linarith
      · rw [List.filter_append, List.filter_cons_of_neg hp, List.filter_nil, List.nil_append]
        linarith
    · rw [if_neg hsize, if_pos (not_le.1 hsize), List.nil_append]
      exact ih hrest hsurplus

theorem venueIds_deploySurplus (venues : List TreasuryVenueSnapshot) (surplus : Decimal) :
    List.Sublist ((deploySurplus policy totalCapital venues surplus).map fun r => r.venueId)
      (venues.map fun venue => some venue.venueId) := by
  induction venues generalizing surplus with
  | nil => exact List.nil_sublist _
  | cons venue venues ih =>
    rw [deploySurplus_cons, List.map_cons]
    split_ifs
    · exact (ih _).cons_cons _
    · exact (ih _).cons _

end

/-! ## Amounts in whole cents -/

namespace CentAmounts

variable {policy : TreasuryPolicy} {idleCapitalUsd : Decimal} {venues : List TreasuryVenueSnapshot}

section

variable (h : CentAmounts policy idleCapitalUsd venues)

include h

theorem allocatedUsd_nonneg :
    0 ≤ allocatedUsd venues := by
  apply List.sum_nonneg
  intro x hx
  obtain ⟨venue, hvenue, rfl⟩ := List.mem_map.1 hx
  exact (h.allocation venue hvenue).1

theorem allocatedUsd_mem :
    allocatedUsd venues ∈ Decimal.Places 2 := by
  apply list_sum_mem
  intro x hx
  obtain ⟨venue, hvenue, rfl⟩ := List.mem_map.1 hx
  exact (h.allocation venue hvenue).2

theorem allocation_le (hvenue : venue ∈ venues) :
    venue.currentAllocationUsd ≤ allocatedUsd venues := by
  refine List.single_le_sum ?_ _ (List.mem_map_of_mem hvenue)
  intro x hx
  obtain ⟨other, hother, rfl⟩ := List.mem_map.1 hx
  exact (h.allocation other hother).1

theorem idle_le : idleCapitalUsd ≤ 10 ^ 17 := by
  linarith [h.total, h.allocatedUsd_nonneg]

theorem usd_idle :
    usd idleCapitalUsd = idleCapitalUsd := usd_of_mem h.idle.2

theorem idle_minus {amountUsd : Decimal} (hamount : amountUsd ∈ Decimal.Places 2)
    (h0 : 0 ≤ amountUsd) (hle : amountUsd ≤ idleCapitalUsd) :
    idleCapitalUsd.minus amountUsd = idleCapitalUsd - amountUsd :=
  round_of_cents (sub_mem h.idle.2 hamount) (sub_nonneg.2 hle)
    ((sub_le_self _ h0).trans h.idle_le)

theorem totalCapitalUsd_eq :
    totalCapitalUsd idleCapitalUsd venues = idleCapitalUsd + allocatedUsd venues := by
  have hbound : allocatedUsd venues ≤ 10 ^ 17 := by linarith [h.total, h.idle.1]
  have hsum : totalAllocatedUsd venues = allocatedUsd venues := by
    have hfold := Decimal.foldl_plus_eq_sum (fun venue : TreasuryVenueSnapshot =>
      venue.currentAllocationUsd) venues 2 h.allocation le_rfl (zero_mem _) (by
        rw [zero_add]
        refine hbound.trans ?_
        norm_num)
    rwa [zero_add] at hfold
  rw [totalCapitalUsd, hsum]
  exact round_of_cents (add_mem h.idle.2 h.allocatedUsd_mem)
    (add_nonneg h.idle.1 h.allocatedUsd_nonneg) h.total

theorem usd_totalCapital :
    usd (totalCapitalUsd idleCapitalUsd venues) = idleCapitalUsd + allocatedUsd venues := by
  rw [h.totalCapitalUsd_eq]
  exact usd_of_mem (add_mem h.idle.2 h.allocatedUsd_mem)

theorem divisible_surplus :
    Divisible (surplusCapitalUsd policy idleCapitalUsd venues) := by
  have hten : decimalJs.round (10 ^ 17) = 10 ^ 17 := by
    refine round_of_cents ?_ (by norm_num) le_rfl
    exact_mod_cast Decimal.natCast_mem_places (10 ^ 17) 2
  refine ⟨le_max_right _ _, max_le ?_ (by norm_num), ?_⟩
  · rw [← hten]
    exact decimalJs.round_mono h.surplus
  · rcases max_choice (idleCapitalUsd.minus (requiredReserveUsd policy idleCapitalUsd venues)) 0 with
      hmax | hmax
    · rw [surplusCapitalUsd, hmax]
      exact decimalJs.round_round _
    · rw [surplusCapitalUsd, hmax]
      exact decimalJs.round_zero

/-- When the reserve is there, the surplus is what is above it, up to rounding. -/
theorem surplus_le
    (hreserve : usd (requiredReserveUsd policy idleCapitalUsd venues) ≤ idleCapitalUsd) :
    surplusCapitalUsd policy idleCapitalUsd venues ≤
      idleCapitalUsd - usd (requiredReserveUsd policy idleCapitalUsd venues) + 11 / 2000 := by
  apply max_le
  · have husd := (abs_le.1 (abs_usd_sub_le (requiredReserveUsd policy idleCapitalUsd venues))).2
    rcases le_total (requiredReserveUsd policy idleCapitalUsd venues) idleCapitalUsd with hle | hle
    · have hround := round_le_add (sub_nonneg.2 hle) h.surplus
      unfold Decimal.minus
      linarith
    · have hround : idleCapitalUsd.minus (requiredReserveUsd policy idleCapitalUsd venues) ≤ 0 :=
        decimalJs.round_nonpos (sub_nonpos.2 hle)
      linarith
  · linarith

/-- The limit on the share, without the rounding of `decimal.js`. -/
theorem share_le (hvenue : venue ∈ venues) {amountUsd : Decimal}
    (hamount : amountUsd ∈ Decimal.Places 2) (h0 : 0 ≤ amountUsd) (hle : amountUsd ≤ idleCapitalUsd)
    (hshare : ShareWithin policy (usd (totalCapitalUsd idleCapitalUsd venues)) amountUsd venue) :
    venue.currentAllocationUsd + amountUsd ≤
      policy.maxAllocationPctPerVenue / 100 * (idleCapitalUsd + allocatedUsd venues) + 1 / 1000 := by
  obtain ⟨hallocation, hcents⟩ := h.allocation venue hvenue
  have htotal := h.total
  have hwithin : venue.currentAllocationUsd + amountUsd ≤ idleCapitalUsd + allocatedUsd venues := by
    linarith [h.allocation_le hvenue]
  have hplus : venue.currentAllocationUsd.plus amountUsd = venue.currentAllocationUsd + amountUsd :=
    round_of_cents (add_mem hcents hamount) (add_nonneg hallocation h0) (hwithin.trans htotal)
  have hpositive : 0 ≤ venue.currentAllocationUsd + amountUsd := add_nonneg hallocation h0
  rw [h.usd_totalCapital, ShareWithin, hplus] at hshare
  generalize venue.currentAllocationUsd + amountUsd = target at hwithin hpositive hshare ⊢
  generalize idleCapitalUsd + allocatedUsd venues = total at hwithin htotal hshare ⊢
  rcases (hpositive.trans hwithin).eq_or_lt with rfl | htotalPos
  · linarith
  -- The quotient and the percentage are off by half a unit in their twentieth digit.
  have hquotient : target / total ≤ 1 := (div_le_one htotalPos).2 hwithin
  have hdiv : target / total - 1 / 2 * 10 ^ (-20 : ℤ) ≤ target.div total := by
    have hround := Decimal.abs_round_sub_le (k := -20) (x := target / total) (by
      rw [abs_of_nonneg (div_nonneg hpositive htotalPos.le)]
      simpa using hquotient)
    unfold Decimal.div
    linarith [(abs_le.1 hround).1]
  have hone : decimalJs.round 1 = 1 := by
    refine round_of_cents ?_ zero_le_one (by norm_num)
    exact_mod_cast Decimal.natCast_mem_places 1 2
  have hdiv0 : 0 ≤ target.div total := decimalJs.round_nonneg (div_nonneg hpositive htotalPos.le)
  have hdiv1 : target.div total ≤ 1 := by
    rw [← hone]
    exact decimalJs.round_mono hquotient
  have htimes : target.div total * 100 - 1 / 2 * 10 ^ (-18 : ℤ) ≤ (target.div total).times 100 := by
    have hround := Decimal.abs_round_sub_le (k := -18) (x := target.div total * 100) (by
      rw [abs_of_nonneg (by linarith)]
      norm_num
      linarith)
    unfold Decimal.times
    linarith [(abs_le.1 hround).1]
  have hpct := hshare htotalPos
  norm_num at hdiv htimes
  have hratio : target / total ≤ policy.maxAllocationPctPerVenue / 100 + 1 / 10 ^ 20 := by
    linarith
  calc target = target / total * total := (div_mul_cancel₀ _ htotalPos.ne').symm
    _ ≤ (policy.maxAllocationPctPerVenue / 100 + 1 / 10 ^ 20) * total :=
      mul_le_mul_of_nonneg_right hratio htotalPos.le
    _ ≤ policy.maxAllocationPctPerVenue / 100 * total + 1 / 1000 := by linarith

end

end CentAmounts

/-! ## One executable deposit -/

section

variable {policy : TreasuryPolicy} {idleCapitalUsd : Decimal} {venues : List TreasuryVenueSnapshot}
  {executionMode : ActionExecutionMode} {liveExecutionEnabled : Bool}
  {venueCapabilities : List TreasuryVenueCapabilities}

theorem minimum_of_executable {input : TreasuryPlanningInput} {recommendation : TreasuryRecommendation}
    (hdeposit : recommendation.actionType = .deposit)
    (h : (createIntentForRecommendation input recommendation).executable = true) :
    input.policy.minimumRemainingIdleUsd ≤
      input.evaluation.reserveStatus.idleCapitalUsd.minus recommendation.amountUsd := by
  obtain ⟨-, htype, -⟩ := executable_iff.1 h
  have hpost : postIdleCapitalUsd input recommendation =
      input.evaluation.reserveStatus.idleCapitalUsd.minus recommendation.amountUsd := by
    rw [postIdleCapitalUsd, hdeposit]
  rw [typeReasons, hdeposit] at htype
  simp only [List.append_eq_nil_iff] at htype
  have hbalance := htype.1.2
  unfold depositBalanceReasons at hbalance
  simp only [List.append_eq_nil_iff, reasonIf_eq_nil, not_lt, hpost] at hbalance
  exact hbalance.1.2

theorem keepsLimits_of_executable (hvenue : venue ∈ deployCandidates policy idleCapitalUsd venues)
    (h : (createIntentForRecommendation (planningOf policy idleCapitalUsd venues executionMode
      liveExecutionEnabled venueCapabilities) (depositRecommendation deployUsd venue)).executable =
        true) : KeepsLimits policy idleCapitalUsd venues venue.venueId (usd deployUsd) := by
  obtain ⟨hgeneral, htype, hcapability⟩ := executable_iff.1 h
  apply (forall_blockedReasons_deposit_iff hvenue deployUsd).1
  intro reason hreason
  rw [blockedReasons, hgeneral, htype, hcapability] at hreason
  cases hreason

theorem executableDeposits_eq (policy : TreasuryPolicy) (idleCapitalUsd : Decimal)
    (venues : List TreasuryVenueSnapshot) (executionMode : ActionExecutionMode)
    (liveExecutionEnabled : Bool) (venueCapabilities : List TreasuryVenueCapabilities) :
    executableDeposits (planningOf policy idleCapitalUsd venues executionMode liveExecutionEnabled
        venueCapabilities) =
      ((deploySurplus policy (totalCapitalUsd idleCapitalUsd venues)
        (deployCandidates policy idleCapitalUsd venues)
        (surplusCapitalUsd policy idleCapitalUsd venues)).filter fun r =>
          (createIntentForRecommendation (planningOf policy idleCapitalUsd venues executionMode
            liveExecutionEnabled venueCapabilities) r).executable).map
        (createIntentForRecommendation (planningOf policy idleCapitalUsd venues executionMode
          liveExecutionEnabled venueCapabilities)) := by
  rw [executableDeposits, createExecutionIntents, List.filter_map, ← filter_deposits,
    List.filter_filter]
  rfl

/-- What an executable deposit keeps by itself. -/
structure FitsAlone (policy : TreasuryPolicy) (idleCapitalUsd : Decimal)
    (venues : List TreasuryVenueSnapshot) (intent : TreasuryExecutionIntent) : Prop where
  nonneg : 0 ≤ intent.amountUsd
  cents : intent.amountUsd ∈ Decimal.Places 2
  reserve : usd (requiredReserveUsd policy idleCapitalUsd venues) ≤
    idleCapitalUsd - intent.amountUsd
  minimum : policy.minimumRemainingIdleUsd ≤ idleCapitalUsd - intent.amountUsd
  venue : ∃ venue ∈ venues, intent.venueId = some venue.venueId ∧
    intent.amountUsd ≤ venue.availableCapacityUsd ∧
    venue.currentAllocationUsd + intent.amountUsd ≤
      policy.maxAllocationPctPerVenue / 100 * (idleCapitalUsd + allocatedUsd venues) + 1 / 1000

section

variable (h : CentAmounts policy idleCapitalUsd venues)

include h

theorem capacity_of_mem_deployCandidates :
    ∀ venue ∈ deployCandidates policy idleCapitalUsd venues, 0 ≤ venue.availableCapacityUsd := by
  intro venue hvenue
  rw [deployCandidates, (List.perm_insertionSort _ _).mem_iff] at hvenue
  obtain ⟨first, hfirst, rfl⟩ := List.mem_map.1 (List.mem_of_mem_filter hvenue)
  exact h.capacity first hfirst

theorem depositUsd_nonneg {before after : List TreasuryVenueSnapshot}
    (hsplit : deployCandidates policy idleCapitalUsd venues = before ++ venue :: after) :
    0 ≤ depositUsd policy idleCapitalUsd venues before venue := by
  have hcapacities := capacity_of_mem_deployCandidates h
  rw [hsplit, List.forall_mem_append, List.forall_mem_cons] at hcapacities
  obtain ⟨hbefore, hvenue, -⟩ := hcapacities
  exact le_min (h.divisible_surplus.foldl_surplusAfter hbefore).nonneg
    (depositLimitUsd_nonneg hvenue)

theorem fitsAlone_of_executable (hvenue : venue ∈ deployCandidates policy idleCapitalUsd venues)
    (h0 : 0 ≤ deployUsd)
    (hexecutable : (createIntentForRecommendation (planningOf policy idleCapitalUsd venues
      executionMode liveExecutionEnabled venueCapabilities)
        (depositRecommendation deployUsd venue)).executable = true) :
    FitsAlone policy idleCapitalUsd venues (createIntentForRecommendation (planningOf policy
      idleCapitalUsd venues executionMode liveExecutionEnabled venueCapabilities)
        (depositRecommendation deployUsd venue)) := by
  have hamount : (createIntentForRecommendation (planningOf policy idleCapitalUsd venues executionMode
      liveExecutionEnabled venueCapabilities) (depositRecommendation deployUsd venue)).amountUsd =
      usd deployUsd := usd_usd deployUsd
  have hcents : usd deployUsd ∈ Decimal.Places 2 := usd_mem deployUsd
  have husd0 : 0 ≤ usd deployUsd := usd_nonneg h0
  obtain ⟨-, hidle, hreserve, first, hfirst, -, hcapacity, hshare⟩ :=
    keepsLimits_of_executable hvenue hexecutable
  have hchecked := minimum_of_executable rfl hexecutable
  have hminimum : policy.minimumRemainingIdleUsd ≤ (usd idleCapitalUsd).minus (usd deployUsd) :=
    hchecked
  rw [h.usd_idle] at hidle hreserve hminimum
  rw [h.idle_minus hcents husd0 hidle] at hreserve hminimum
  have hmem : first ∈ venues := List.mem_of_find?_eq_some hfirst
  have hid : first.venueId = venue.venueId := by simpa using List.find?_some hfirst
  constructor <;> rw [hamount]
  · exact husd0
  · exact hcents
  · exact hreserve
  · exact hminimum
  · exact ⟨first, hmem, congrArg some hid.symm, hcapacity,
      h.share_le hmem hcents husd0 hidle hshare⟩

theorem fitsAlone_of_mem {intent : TreasuryExecutionIntent}
    (hintent : intent ∈ executableDeposits (planningOf policy idleCapitalUsd venues executionMode
      liveExecutionEnabled venueCapabilities)) :
    FitsAlone policy idleCapitalUsd venues intent := by
  rw [executableDeposits_eq] at hintent
  obtain ⟨recommendation, hmem, rfl⟩ := List.mem_map.1 hintent
  obtain ⟨hdeposit, hexecutable⟩ := List.mem_filter.1 hmem
  obtain ⟨before, venue, after, hsplit, -, rfl⟩ := mem_deploySurplus_iff.1 hdeposit
  refine fitsAlone_of_executable h ?_ (depositUsd_nonneg h hsplit) hexecutable
  rw [hsplit]
  exact List.mem_append_right _ List.mem_cons_self

end

/-! ## All executable deposits -/

theorem unique_venues (hids : (venues.map fun venue => venue.venueId).Nodup) :
    ((executableDeposits (planningOf policy idleCapitalUsd venues executionMode liveExecutionEnabled
      venueCapabilities)).map fun intent => intent.venueId).Nodup := by
  have hcandidates : ((deployCandidates policy idleCapitalUsd venues).map fun venue =>
      some venue.venueId).Nodup := by
    rw [deployCandidates, ((List.perm_insertionSort _ _).map _).nodup_iff]
    have hsnapshots : ((venueSnapshots idleCapitalUsd venues).map fun venue =>
        some venue.venueId).Nodup := by
      have hmap := hids.map (Option.some_injective String)
      rw [venueSnapshots, List.map_map]
      rwa [List.map_map] at hmap
    exact hsnapshots.sublist (List.filter_sublist.map _)
  rw [executableDeposits_eq, List.map_map]
  exact (hcandidates.sublist (venueIds_deploySurplus _ _)).sublist (List.filter_sublist.map _)

/-- Together the executable deposits take no more than the surplus, up to rounding. -/
theorem depositedUsd_le (h : CentAmounts policy idleCapitalUsd venues) :
    depositedUsd (executableDeposits (planningOf policy idleCapitalUsd venues executionMode
        liveExecutionEnabled venueCapabilities)) ≤
      surplusCapitalUsd policy idleCapitalUsd venues +
        (executableDeposits (planningOf policy idleCapitalUsd venues executionMode
          liveExecutionEnabled venueCapabilities)).length * (11 / 2000) := by
  rw [executableDeposits_eq, List.length_map, depositedUsd, List.map_map]
  set chosen := (deploySurplus policy (totalCapitalUsd idleCapitalUsd venues)
    (deployCandidates policy idleCapitalUsd venues)
    (surplusCapitalUsd policy idleCapitalUsd venues)).filter fun r =>
      (createIntentForRecommendation (planningOf policy idleCapitalUsd venues executionMode
        liveExecutionEnabled venueCapabilities) r).executable with hchosen
  have hamounts : ∀ r ∈ chosen, usd r.amountUsd = r.amountUsd := by
    intro r hr
    obtain ⟨before, venue, after, -, -, rfl⟩ :=
      mem_deploySurplus_iff.1 (List.mem_of_mem_filter hr)
    exact usd_usd _
  have hsum : (chosen.map ((fun intent => intent.amountUsd) ∘ createIntentForRecommendation
      (planningOf policy idleCapitalUsd venues executionMode liveExecutionEnabled
        venueCapabilities))) = chosen.map fun r => r.amountUsd := List.map_congr_left hamounts
  rw [hsum]
  exact sum_deploySurplus_le (capacity_of_mem_deployCandidates h) h.divisible_surplus _

section

variable {intents : List TreasuryExecutionIntent}

theorem receivedUsd_eq (hunique : (intents.map fun intent => intent.venueId).Nodup)
    {intent : TreasuryExecutionIntent} (hintent : intent ∈ intents) {venueId : String}
    (hvenue : intent.venueId = some venueId) : receivedUsd intents venueId = intent.amountUsd := by
  rw [receivedUsd, Rows.filter_of_unique hunique, ← hvenue, Rows.find_of_unique hunique hintent]
  simp [depositedUsd]

theorem depositedUsd_mem (halone : ∀ intent ∈ intents, FitsAlone policy idleCapitalUsd venues intent) :
    depositedUsd intents ∈ Decimal.Places 2 := by
  apply list_sum_mem
  intro x hx
  obtain ⟨intent, hintent, rfl⟩ := List.mem_map.1 hx
  exact (halone intent hintent).cents

/-- One deposit keeps the reserve by itself. More of them exceed the surplus by less than a cent for
each of them, and the amounts are whole cents. -/
theorem reserve_of_fitsAlone (h : CentAmounts policy idleCapitalUsd venues) (hne : intents ≠ [])
    (halone : ∀ intent ∈ intents, FitsAlone policy idleCapitalUsd venues intent)
    (hsum : depositedUsd intents ≤
      surplusCapitalUsd policy idleCapitalUsd venues + intents.length * (11 / 2000)) :
    usd (requiredReserveUsd policy idleCapitalUsd venues) ≤
      idleCapitalUsd - depositedUsd intents + ((intents.length : ℚ) - 1) / 100 := by
  obtain ⟨first, rest, rfl⟩ := List.exists_cons_of_ne_nil hne
  have hfirst := halone first List.mem_cons_self
  by_cases hrest : rest = []
  · subst hrest
    simpa [depositedUsd] using hfirst.reserve
  · have hlength : (1 : ℚ) ≤ rest.length := by
      exact_mod_cast List.length_pos_iff.2 hrest
    have hsurplus := h.surplus_le (hfirst.reserve.trans (sub_le_self _ hfirst.nonneg))
    have hcents : ((rest.length : ℚ) + 1) / 100 ∈ Decimal.Places 2 := by
      rw [Decimal.places_eq, AddSubgroup.mem_zmultiples_iff]
      exact ⟨rest.length + 1, by norm_num [Decimal.unitOf, div_eq_mul_inv]⟩
    have hmem := add_mem (sub_mem (sub_mem h.idle.2 (depositedUsd_mem halone))
      (usd_mem (requiredReserveUsd policy idleCapitalUsd venues))) hcents
    rw [List.length_cons] at hsum ⊢
    push_cast at hsum ⊢
    have hcent := Decimal.unitOf_le (by linarith) hmem
    rw [Decimal.unitOf_two] at hcent
    linarith

end

/-- Together the executable deposits keep the reserve, up to a cent for each deposit after the first;
each alone keeps the minimum that has to remain idle, and the limits of its venue. -/
theorem depositsFit (policy : TreasuryPolicy) (idleCapitalUsd : Decimal)
    (venues : List TreasuryVenueSnapshot) (executionMode : ActionExecutionMode)
    (liveExecutionEnabled : Bool) (venueCapabilities : List TreasuryVenueCapabilities)
    (hids : (venues.map fun venue => venue.venueId).Nodup)
    (hamounts : CentAmounts policy idleCapitalUsd venues) :
    DepositsFit policy idleCapitalUsd venues (executableDeposits (planningOf policy idleCapitalUsd
      venues executionMode liveExecutionEnabled venueCapabilities)) := by
  have halone : ∀ intent ∈ executableDeposits (planningOf policy idleCapitalUsd venues executionMode
      liveExecutionEnabled venueCapabilities), FitsAlone policy idleCapitalUsd venues intent :=
    fun intent hintent => fitsAlone_of_mem hamounts hintent
  refine ⟨fun hne => reserve_of_fitsAlone hamounts hne halone (depositedUsd_le hamounts),
    fun intent hintent => (halone intent hintent).minimum, unique_venues hids, ?_⟩
  rintro venue hvenue ⟨intent, hintent, hid⟩
  obtain ⟨other, hother, hotherId, hcapacity, hshare⟩ := (halone intent hintent).venue
  have hsame : other = venue :=
    List.inj_on_of_nodup_map hids hother hvenue (Option.some.inj (hotherId.symm.trans hid))
  rw [receivedUsd_eq (unique_venues hids) hintent hid, ← hsame]
  exact ⟨hcapacity, hshare⟩

end

/-! ## Runs on samples -/

def depositVenue (venueId : String) (currentAllocationUsd availableCapacityUsd : Decimal) :
    TreasuryVenueSnapshot :=
  { sampleVenue .simulated with venueId, currentAllocationUsd, availableCapacityUsd }

def sampleDeposits (policy : TreasuryPolicy) (idleCapitalUsd : Decimal)
    (venues : List TreasuryVenueSnapshot) : List TreasuryExecutionIntent :=
  executableDeposits (planningOf policy idleCapitalUsd venues .dryRun false
    (venues.map fun venue =>
      { sampleCapabilities .simulated false with venueId := venue.venueId }))

/-- The floors and the limits after the deposits of a sample. -/
def SampleKept (policy : TreasuryPolicy) (idleCapitalUsd : Decimal)
    (venues : List TreasuryVenueSnapshot) : Prop :=
  FloorsKept policy idleCapitalUsd venues (sampleDeposits policy idleCapitalUsd venues)

/-- Two deposits divide the surplus of 90000 USD. -/
theorem depositsFit_sample :
    (sampleDeposits defaultTreasuryPolicy 100000 [depositVenue "atlas-t0-sim" 0 200000,
      depositVenue "atlas-t1-sim" 0 200000]).map (·.amountUsd) = [50000, 40000] ∧
    DepositsFit defaultTreasuryPolicy 100000 [depositVenue "atlas-t0-sim" 0 200000,
      depositVenue "atlas-t1-sim" 0 200000] (sampleDeposits defaultTreasuryPolicy 100000
        [depositVenue "atlas-t0-sim" 0 200000, depositVenue "atlas-t1-sim" 0 200000]) := by
  refine ⟨by decide +kernel, depositsFit _ _ _ _ _ _ (by decide) ⟨?_, ?_, ?_, ?_, ?_⟩⟩
  · exact ⟨by norm_num, by exact_mod_cast Decimal.natCast_mem_places 100000 2⟩
  · rintro venue hvenue
    have hzero : venue.currentAllocationUsd = 0 := by
      revert venue
      decide
    rw [hzero]
    exact ⟨le_rfl, zero_mem _⟩
  · decide
  · decide +kernel
  · decide +kernel

/-- The two deposits leave less than the minimum of 12000 USD; two others leave a cent less than the
reserve. Nothing is deposited where the reserve is short or a venue is above its limit. Of two
snapshots with one id each gets a deposit. Beyond twenty digits the loop has rounded the surplus up. -/
theorem not_sampleKept :
    ¬ SampleKept { defaultTreasuryPolicy with minimumRemainingIdleUsd := 12000 } 100000
        [depositVenue "atlas-t0-sim" 0 200000, depositVenue "atlas-t1-sim" 0 200000] ∧
      ¬ SampleKept defaultTreasuryPolicy 200000.05
        [depositVenue "atlas-t0-sim" 0 90000, depositVenue "atlas-t1-sim" 0 200000] ∧
      ¬ SampleKept defaultTreasuryPolicy 5000 [depositVenue "atlas-t0-sim" 0 200000] ∧
      ¬ SampleKept defaultTreasuryPolicy 10000 [depositVenue "atlas-t0-sim" 90000 200000] ∧
      ¬ SampleKept defaultTreasuryPolicy 100000
        [depositVenue "atlas-t0-sim" 0 40000, depositVenue "atlas-t0-sim" 0 40000] ∧
      ¬ SampleKept { defaultTreasuryPolicy with
          reserveFloorPct := 0
          minReserveUsd := 0
          minimumRemainingIdleUsd := 0
          maxAllocationPctPerVenue := 100 } 99999999999999999999.50
        [depositVenue "atlas-t0-sim" 0 (5 * 10 ^ 19), depositVenue "atlas-t1-sim" 0 (10 ^ 20)] :=
  ⟨fun h => absurd h.minimum (by decide +kernel), fun h => absurd h.reserve (by decide +kernel),
    fun h => absurd h.reserve (by decide +kernel), fun h => absurd h.share (by decide +kernel),
    fun h => absurd h.capacity (by decide +kernel), fun h => absurd h.reserve (by decide +kernel)⟩

end TreasuryExecutionPlanner

end SentinelApex
