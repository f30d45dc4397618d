import SentinelApex.Lib.StableSort
import SentinelApex.Treasury.Evaluation

/-!
# How a reserve shortfall is covered

`reserveWithdrawals` is the loop over the redemption candidates with the amounts as they are before
the recommendation prints them. The candidates are drained in the order of liquidity, a prefix of
them and each one but the last completely (`drained_of_split`), and what they give together is the
shortfall or all that there is (`abs_total_sub_le`), up to the digits that `decimal.js` drops when
it subtracts a withdrawal from the shortfall.
-/

namespace SentinelApex

variable {shortfall : Decimal} {w : TreasuryVenueSnapshot × Decimal} {venue : TreasuryVenueSnapshot}

namespace TreasuryPolicyEngine

/-- The redemptions of the loop, unrounded: the venue and its `withdrawalUsd`. -/
def reserveWithdrawals :
    List TreasuryVenueSnapshot → Decimal → List (TreasuryVenueSnapshot × Decimal)
  | [], _ => []
  | venue :: venues, remainingShortfall =>
    if remainingShortfall ≤ 0 then []
    else
      let withdrawalUsd := min remainingShortfall venue.withdrawalAvailableUsd
      if withdrawalUsd ≤ 0 then reserveWithdrawals venues remainingShortfall
      else (venue, withdrawalUsd) ::
        reserveWithdrawals venues (remainingShortfall.minus withdrawalUsd)

/-- The recommendations of the loop are the withdrawals with their amounts rounded. -/
theorem redeemForReserve_eq_map (venues : List TreasuryVenueSnapshot)
    (remainingShortfall : Decimal) :
    redeemForReserve venues remainingShortfall =
      (reserveWithdrawals venues remainingShortfall).map
        fun w => reserveRecommendation w.2 w.1 := by
  induction venues generalizing remainingShortfall with
  | nil => rfl
  | cons venue venues ih =>
    rw [redeemForReserve, reserveWithdrawals]
    dsimp only
    split_ifs with hdone hskip
    · rfl
    · exact ih _
    · rw [List.map_cons, ← ih]
      rfl

/-! ## Venues that have something to withdraw -/

section

variable {venues : List TreasuryVenueSnapshot}

variable {remainingShortfall : Decimal}

theorem reserveWithdrawals_of_nonpos (h : remainingShortfall ≤ 0)
    (venues : List TreasuryVenueSnapshot) : reserveWithdrawals venues remainingShortfall = [] := by
  cases venues with
  | nil => rfl
  | cons venue venues => rw [reserveWithdrawals, if_pos h]

theorem reserveWithdrawals_cons (hvenue : 0 < venue.withdrawalAvailableUsd)
    (venues : List TreasuryVenueSnapshot) (h : 0 < remainingShortfall) :
    reserveWithdrawals (venue :: venues) remainingShortfall =
      (venue, min remainingShortfall venue.withdrawalAvailableUsd) ::
        reserveWithdrawals venues
          (remainingShortfall.minus (min remainingShortfall venue.withdrawalAvailableUsd)) := by
  rw [reserveWithdrawals, if_neg (not_le.2 h)]
  dsimp only
  rw [if_neg (not_le.2 (lt_min h hvenue))]

theorem reserveWithdrawals_minus_self (venues : List TreasuryVenueSnapshot)
    (remainingShortfall : Decimal) :
    reserveWithdrawals venues (remainingShortfall.minus remainingShortfall) = [] := by
  refine reserveWithdrawals_of_nonpos ?_ venues
  rw [Decimal.minus, sub_self]
  exact decimalJs.round_zero.le

def shortfallLeft (withdrawals : List (TreasuryVenueSnapshot × Decimal))
    (reserveShortfallUsd : Decimal) : Decimal :=
  withdrawals.foldl (fun remaining w => remaining.minus w.2) reserveShortfallUsd

def withdrawable (venues : List TreasuryVenueSnapshot) : Decimal :=
  (venues.map (·.withdrawalAvailableUsd)).sum

def total (withdrawals : List (TreasuryVenueSnapshot × Decimal)) : Decimal :=
  (withdrawals.map Prod.snd).sum

variable (hvenues : ∀ venue ∈ venues, 0 < venue.withdrawalAvailableUsd)

include hvenues

theorem map_fst_prefix (shortfall : Decimal) :
    (reserveWithdrawals venues shortfall).map Prod.fst <+: venues := by
  induction venues generalizing shortfall with
  | nil => exact List.prefix_rfl
  | cons venue venues ih =>
    obtain ⟨hvenue, hvenues⟩ := List.forall_mem_cons.1 hvenues
    rcases le_or_gt shortfall 0 with h | h
    · rw [reserveWithdrawals_of_nonpos h]
      exact List.nil_prefix
    · rw [reserveWithdrawals_cons hvenue venues h]
      exact List.cons_prefix_cons.2
        ⟨rfl, ih hvenues _⟩

theorem bounds_of_mem (h : w ∈ reserveWithdrawals venues shortfall) :
    0 < w.2 ∧ w.2 ≤ w.1.withdrawalAvailableUsd := by
  induction venues generalizing shortfall with
  | nil => cases h
  | cons venue venues ih =>
    obtain ⟨hvenue, hvenues⟩ := List.forall_mem_cons.1 hvenues
    rcases le_or_gt shortfall 0 with hle | hpos
    · rw [reserveWithdrawals_of_nonpos hle] at h
      cases h
    · rw [reserveWithdrawals_cons hvenue venues hpos] at h
      rcases List.mem_cons.1 h with rfl | h
      · exact ⟨lt_min hpos hvenue, min_le_right _ _⟩
      · exact ih hvenues h

/-- Before another venue is used, the venues used so far are drained. -/
theorem drained_of_split {before after : List (TreasuryVenueSnapshot × Decimal)}
    (h : reserveWithdrawals venues shortfall = before ++ w :: after) :
    ∀ v ∈ before, v.2 = v.1.withdrawalAvailableUsd := by
  induction venues generalizing shortfall before with
  | nil => exact absurd h (by simp [reserveWithdrawals])
  | cons venue venues ih =>
    obtain ⟨hvenue, hvenues⟩ := List.forall_mem_cons.1 hvenues
    intro v hv
    rcases le_or_gt shortfall 0 with hle | hpos
    · rw [reserveWithdrawals_of_nonpos hle] at h
      simp at h
    · rw [reserveWithdrawals_cons hvenue venues hpos] at h
      cases before with
      | nil => cases hv
      | cons first before =>
        obtain ⟨rfl, hsplit⟩ := List.cons.inj h
        rcases List.mem_cons.1 hv with rfl | hv
        · -- An amount below what the venue has would have ended the shortfall.
          rcases le_total shortfall venue.withdrawalAvailableUsd with hle | hle
          · rw [min_eq_left hle, reserveWithdrawals_minus_self] at hsplit
            simp at hsplit
          · exact min_eq_right hle
        · exact ih hvenues hsplit v hv

/-- The loop ends when the shortfall is covered or every venue is drained. -/
theorem covered_or_drained (hshortfall : 0 ≤ shortfall) :
    shortfallLeft (reserveWithdrawals venues shortfall) shortfall = 0 ∨
      total (reserveWithdrawals venues shortfall) = withdrawable venues := by
  induction venues generalizing shortfall with
  | nil => exact Or.inr rfl
  | cons venue venues ih =>
    obtain ⟨hvenue, hvenues⟩ := List.forall_mem_cons.1 hvenues
    rcases hshortfall.eq_or_lt with rfl | hpos
    · left
      rw [reserveWithdrawals_of_nonpos le_rfl]
      rfl
    · rw [reserveWithdrawals_cons hvenue venues hpos]
      have hrest : 0 ≤ shortfall.minus (min shortfall venue.withdrawalAvailableUsd) :=
        decimalJs.round_nonneg (sub_nonneg.2 (min_le_left _ _))
      rcases le_total shortfall venue.withdrawalAvailableUsd with hle | hle
      · left
        rw [min_eq_left hle, reserveWithdrawals_minus_self, shortfallLeft, List.foldl_cons,
          List.foldl_nil, Decimal.minus, sub_self]
        exact decimalJs.round_zero
      · refine (ih hvenues hrest).imp id fun h => ?_
        rw [total, withdrawable, List.map_cons, List.map_cons, List.sum_cons, List.sum_cons]
        exact congrArg₂ (· + ·) (min_eq_right hle) h

theorem shortfallLeft_nonneg (hshortfall : 0 ≤ shortfall) :
    0 ≤ shortfallLeft (reserveWithdrawals venues shortfall) shortfall := by
  induction venues generalizing shortfall with
  | nil => exact hshortfall
  | cons venue venues ih =>
    obtain ⟨hvenue, hvenues⟩ := List.forall_mem_cons.1 hvenues
    rcases hshortfall.eq_or_lt with rfl | hpos
    · rw [reserveWithdrawals_of_nonpos le_rfl]
      exact le_rfl
    · rw [reserveWithdrawals_cons hvenue venues hpos]
      exact ih hvenues
        (decimalJs.round_nonneg (sub_nonneg.2 (min_le_left _ _)))

theorem total_le_withdrawable (shortfall : Decimal) :
    total (reserveWithdrawals venues shortfall) ≤ withdrawable venues := by
  induction venues generalizing shortfall with
  | nil => exact le_rfl
  | cons venue venues ih =>
    obtain ⟨hvenue, hvenues⟩ := List.forall_mem_cons.1 hvenues
    rcases le_or_gt shortfall 0 with hle | hpos
    · rw [reserveWithdrawals_of_nonpos hle]
      refine List.sum_nonneg fun x hx => ?_
      obtain ⟨v, hv, rfl⟩ := List.mem_map.1 hx
      rcases List.mem_cons.1 hv with rfl | hv
      · exact hvenue.le
      · exact (hvenues v hv).le
    · rw [reserveWithdrawals_cons hvenue venues hpos, total, withdrawable, List.map_cons,
        List.map_cons, List.sum_cons, List.sum_cons]
      exact add_le_add (min_le_right _ _) (ih hvenues _)

section

variable {δ : ℚ} {P : Decimal → Prop}
  (hP : ∀ remaining, P remaining → ∀ venue ∈ venues,
    |remaining.minus (min remaining venue.withdrawalAvailableUsd) -
        (remaining - min remaining venue.withdrawalAvailableUsd)| ≤ δ ∧
      P (remaining.minus (min remaining venue.withdrawalAvailableUsd)))
  (hshortfall : P shortfall)

include hP hshortfall

/-- What the venues give and what is left make up the shortfall, when each subtraction on the way
is off by at most `δ`. -/
theorem abs_total_add_left_sub_le :
    |total (reserveWithdrawals venues shortfall) +
        shortfallLeft (reserveWithdrawals venues shortfall) shortfall - shortfall| ≤
      (reserveWithdrawals venues shortfall).length * δ := by
  induction venues generalizing shortfall with
  | nil => simp [reserveWithdrawals, total, shortfallLeft]
  | cons venue venues ih =>
    obtain ⟨hvenue, hvenues⟩ := List.forall_mem_cons.1 hvenues
    rcases le_or_gt shortfall 0 with hle | hpos
    · rw [reserveWithdrawals_of_nonpos hle]
      simp [total, shortfallLeft]
    · rw [reserveWithdrawals_cons hvenue venues hpos]
      obtain ⟨herror, hrest⟩ := hP shortfall hshortfall venue List.mem_cons_self
      have ih' := ih hvenues
        (fun r hr v hv => hP r hr v (List.mem_cons_of_mem _ hv)) hrest
      generalize min shortfall venue.withdrawalAvailableUsd = w at *
      generalize reserveWithdrawals venues (shortfall.minus w) = ws at *
      have htotal : total ((venue, w) :: ws) = w + total ws := List.sum_cons
      have hleft : shortfallLeft ((venue, w) :: ws) shortfall =
          shortfallLeft ws (shortfall.minus w) := rfl
      rw [htotal, hleft, List.length_cons]
      push_cast
      calc |w + total ws + shortfallLeft ws (shortfall.minus w) - shortfall|
          = |(total ws + shortfallLeft ws (shortfall.minus w) - shortfall.minus w) +
              (shortfall.minus w - (shortfall - w))| := by ring_nf
        _ ≤ ws.length * δ + δ := (abs_add_le _ _).trans (add_le_add ih' herror)
        _ = (ws.length + 1) * δ := by ring

/-- The venues give the shortfall, or all that they have. -/
theorem abs_total_sub_le (hnonneg : 0 ≤ shortfall) :
    |total (reserveWithdrawals venues shortfall) - min shortfall (withdrawable venues)| ≤
      (reserveWithdrawals venues shortfall).length * δ := by
  have herror := abs_total_add_left_sub_le hvenues hP hshortfall
  have hleft := shortfallLeft_nonneg hvenues hnonneg
  have hle := total_le_withdrawable hvenues shortfall
  have hend := covered_or_drained hvenues hnonneg
  generalize shortfallLeft (reserveWithdrawals venues shortfall) shortfall = left at *
  generalize total (reserveWithdrawals venues shortfall) = given at *
  rw [abs_le] at herror ⊢
  rcases hend with rfl | rfl
  all_goals
    rcases le_total shortfall (withdrawable venues) with h | h
    · rw [min_eq_left h]
      constructor <;> linarith
    · rw [min_eq_right h]
      constructor <;> linarith

end

end

/-! ## The digits of the subtractions -/

section

variable {venues : List TreasuryVenueSnapshot}
  (hvenues : ∀ venue ∈ venues, 0 < venue.withdrawalAvailableUsd)
  {k : ℤ} {shortfall : Decimal} (hnonneg : 0 ≤ shortfall) (hshortfall : shortfall ≤ 10 ^ (k + 20))

/-- What a withdrawal leaves stays within twenty digits. -/
theorem minus_le_pow {remaining w : Decimal} (hw : 0 ≤ w) (hle : w ≤ remaining)
    (hremaining : remaining ≤ 10 ^ (k + 20)) :
    |remaining - w| ≤ 10 ^ (k + 20) ∧
      0 ≤ remaining.minus w ∧ remaining.minus w ≤ 10 ^ (k + 20) := by
  have hdiff : 0 ≤ remaining - w := sub_nonneg.2 hle
  have hbound : remaining - w ≤ 10 ^ (k + 20) := by linarith
  have hgrid : (10 : ℚ) ^ (k + 20) ∈ decimalJs.grid k := by
    refine decimalJs.grid_le (j := k) (k := k + 20) (by omega) ?_
    exact decimalJs.mem_grid_iff.2 ⟨1, by rw [Int.cast_one, one_mul]; rfl⟩
  have hround : decimalJs.round ((10 : ℚ) ^ (k + 20)) = 10 ^ (k + 20) :=
    Decimal.round_of_exact ⟨hgrid, (abs_of_pos (zpow_pos (by norm_num) _)).le⟩
  refine ⟨by rwa [abs_of_nonneg hdiff], decimalJs.round_nonneg hdiff, ?_⟩
  rw [← hround]
  exact decimalJs.round_mono hbound

include hvenues hnonneg hshortfall

theorem abs_total_sub_le_half :
    |total (reserveWithdrawals venues shortfall) - min shortfall (withdrawable venues)| ≤
      (reserveWithdrawals venues shortfall).length * (1 / 2 * 10 ^ k) := by
  refine abs_total_sub_le hvenues (P := fun r => 0 ≤ r ∧ r ≤ 10 ^ (k + 20)) ?_
    ⟨hnonneg, hshortfall⟩ hnonneg
  rintro remaining ⟨h0, hremaining⟩ venue hvenue
  obtain ⟨hsize, hrest⟩ := minus_le_pow (le_min h0 (hvenues venue hvenue).le) (min_le_left _ _)
    hremaining
  exact ⟨decimalJs.abs_round_sub_le SigDigits.abs_halfUp_sub_le hsize, hrest⟩

/-- Multiples of `10 ^ k` are subtracted exactly. -/
theorem total_eq_min (hmem : shortfall ∈ decimalJs.grid k)
    (hvenues' : ∀ venue ∈ venues, venue.withdrawalAvailableUsd ∈ decimalJs.grid k) :
    total (reserveWithdrawals venues shortfall) = min shortfall (withdrawable venues) := by
  have herror := abs_total_sub_le hvenues (δ := 0)
    (P := fun r => (0 ≤ r ∧ r ≤ 10 ^ (k + 20)) ∧ r ∈ decimalJs.grid k) ?_
    ⟨⟨hnonneg, hshortfall⟩, hmem⟩ hnonneg
  · rw [mul_zero] at herror
    exact sub_eq_zero.1 (abs_nonpos_iff.1 herror)
  · rintro remaining ⟨⟨h0, hremaining⟩, hgrid⟩ venue hvenue
    obtain ⟨hsize, hrest⟩ := minus_le_pow (le_min h0 (hvenues venue hvenue).le) (min_le_left _ _)
      hremaining
    have hmin : min remaining venue.withdrawalAvailableUsd ∈ decimalJs.grid k := by
      rcases min_choice remaining venue.withdrawalAvailableUsd with h | h <;> rw [h]
      · exact hgrid
      · exact hvenues' venue hvenue
    have hexact := Decimal.minus_eq_sub ⟨sub_mem hgrid hmin, hsize⟩
    rw [hexact] at hrest ⊢
    exact ⟨by rw [sub_self, abs_zero], hrest, sub_mem hgrid hmin⟩

end

/-! ## The redemptions of an evaluation -/

/-- The rules for a venue by itself give reasons of their own. -/
theorem reasonCode_of_mem {policy : TreasuryPolicy} {totalCapital : Decimal}
    {entry : String × TreasuryRecommendation} (h : entry ∈ (redeemIneligible policy venue).toList ++
      (redeemConcentration policy totalCapital venue).toList) :
    entry.2.reasonCode = .venueIneligible ∨ entry.2.reasonCode = .venueConcentration := by
  rcases List.mem_append.1 h with h | h
  · unfold redeemIneligible at h
    split_ifs at h
    · obtain rfl := List.mem_singleton.1 h
      exact Or.inl rfl
    · cases h
  · unfold redeemConcentration at h
    dsimp only at h
    split_ifs at h
    · obtain rfl := List.mem_singleton.1 h
      exact Or.inr rfl
    · cases h

/-- A venue that comes before another one in the order of liquidity. -/
def Precedes (a b : TreasuryVenueSnapshot) : Prop :=
  a.liquidityTier.priority < b.liquidityTier.priority ∨
    a.liquidityTier.priority = b.liquidityTier.priority ∧
      b.withdrawalAvailableUsd < a.withdrawalAvailableUsd

theorem not_byLiquidityAscending_of_precedes {a b : TreasuryVenueSnapshot} (h : Precedes a b) :
    ¬ byLiquidityAscending b a := by
  rintro (hlt | ⟨heq, hle⟩) <;> rcases h with h | ⟨h, hless⟩
  · omega
  · omega
  · omega
  · exact absurd hle (not_le.2 hless)

instance : IsTrans TreasuryVenueSnapshot byLiquidityAscending where
  trans := by
    rintro a b c (hab | ⟨hab, hab'⟩) (hbc | ⟨hbc, hbc'⟩)
    · exact Or.inl (hab.trans hbc)
    · exact Or.inl (hbc ▸ hab)
    · exact Or.inl (hab ▸ hbc)
    · exact Or.inr ⟨hab.trans hbc, hbc'.trans hab'⟩

instance : Std.Total byLiquidityAscending where
  total a b := by
    rcases lt_trichotomy a.liquidityTier.priority b.liquidityTier.priority with h | h | h
    · exact Or.inl (Or.inl h)
    · exact (le_total b.withdrawalAvailableUsd a.withdrawalAvailableUsd).imp
        (fun hle => Or.inr ⟨h, hle⟩) fun hle => Or.inr ⟨h.symm, hle⟩
    · exact Or.inr (Or.inl h)

section

variable (policy : TreasuryPolicy) (idleCapitalUsd : Decimal) (venues : List TreasuryVenueSnapshot)

theorem withdrawable_redeemCandidates :
    withdrawable (redeemCandidates idleCapitalUsd venues) =
      ((venues.map (·.withdrawalAvailableUsd)).filter fun w => decide (0 < w)).sum := by
  have hperm := ((venueSnapshots idleCapitalUsd venues).filter fun venue =>
    decide (0 < venue.withdrawalAvailableUsd)).perm_insertionSort byLiquidityAscending
  rw [withdrawable, redeemCandidates, (hperm.map _).sum_eq, venueSnapshots, List.filter_map,
    List.map_map, List.filter_map]
  rfl

/-- The redemptions of an evaluation for its reserve, unrounded. -/
def evaluationWithdrawals : List (TreasuryVenueSnapshot × Decimal) :=
  reserveWithdrawals (redeemCandidates idleCapitalUsd venues)
    (reserveShortfallUsd policy idleCapitalUsd venues)

theorem filter_reserveShortfall :
    (evaluate policy idleCapitalUsd venues).recommendations.filter
        (fun r => decide (r.reasonCode = .reserveShortfall)) =
      (evaluationWithdrawals policy idleCapitalUsd venues).map
        fun w => reserveRecommendation w.2 w.1 := by
  have hif : (if 0 < reserveShortfallUsd policy idleCapitalUsd venues then
        redeemForReserve (redeemCandidates idleCapitalUsd venues)
          (reserveShortfallUsd policy idleCapitalUsd venues)
      else []) = (evaluationWithdrawals policy idleCapitalUsd venues).map
        fun w => reserveRecommendation w.2 w.1 := by
    rw [evaluationWithdrawals, ← redeemForReserve_eq_map]
    split_ifs with hshort
    · rfl
    · rw [redeemForReserve_of_nonpos (not_lt.1 hshort)]
  rw [evaluate_recommendations, hif, List.filter_append, List.filter_append,
    List.filter_eq_nil_iff.2, List.nil_append, List.filter_eq_self.2, List.filter_eq_nil_iff.2,
    List.append_nil]
  · intro r hr
    split_ifs at hr with hsurplus
    · obtain ⟨before, venue, after, -, -, rfl⟩ := mem_deploySurplus_iff.1 hr
      simp [depositRecommendation]
    · cases hr
  · intro r hr
    obtain ⟨w, -, rfl⟩ := List.mem_map.1 hr
    rfl
  · intro r hr
    obtain ⟨entry, hentry, rfl⟩ := List.mem_map.1 hr
    obtain ⟨venue, -, hentry⟩ := List.mem_flatMap.1 hentry
    rcases reasonCode_of_mem hentry with h | h <;> rw [h] <;> decide

/-- The withdrawals drain the venues in the order of liquidity, none beyond what it has. -/
structure DrainsInOrder (withdrawals : List (TreasuryVenueSnapshot × Decimal)) : Prop where
  /-- No venue gives more than it has. -/
  within : ∀ w ∈ withdrawals, 0 < w.2 ∧ w.2 ≤ w.1.withdrawalAvailableUsd
  /-- The venues used come first in an order by liquidity of all that have something to withdraw,
  and before another one is used, those in front of it are drained. -/
  ordered : ∃ order, order.Perm ((venueSnapshots idleCapitalUsd venues).filter fun venue =>
      decide (0 < venue.withdrawalAvailableUsd)) ∧
    order.Pairwise byLiquidityAscending ∧ withdrawals.map Prod.fst <+: order ∧
    ∀ before w after, withdrawals = before ++ w :: after →
      ∀ v ∈ before, v.2 = v.1.withdrawalAvailableUsd
  /-- Every venue that precedes a used one is drained. -/
  precedes : ∀ w ∈ withdrawals, ∀ venue ∈ venueSnapshots idleCapitalUsd venues,
    0 < venue.withdrawalAvailableUsd → Precedes venue w.1 →
      (venue, venue.withdrawalAvailableUsd) ∈ withdrawals

variable {policy idleCapitalUsd venues} in
/-- What precedes a used venue in the sorted candidates is drained. -/
theorem drained_of_precedes (hw : w ∈ evaluationWithdrawals policy idleCapitalUsd venues)
    (hvenue : venue ∈ redeemCandidates idleCapitalUsd venues) (h : Precedes venue w.1) :
    (venue, venue.withdrawalAvailableUsd) ∈ evaluationWithdrawals policy idleCapitalUsd venues := by
  have hpos : ∀ venue ∈ redeemCandidates idleCapitalUsd venues, 0 < venue.withdrawalAvailableUsd :=
    fun v hv => (mem_redeemCandidates_iff.1 hv).2
  have hnot := not_byLiquidityAscending_of_precedes h
  obtain ⟨before, after, hsplit⟩ := List.append_of_mem hw
  obtain ⟨unused, hprefix⟩ :=
    map_fst_prefix hpos (reserveShortfallUsd policy idleCapitalUsd venues)
  have hsorted : (redeemCandidates idleCapitalUsd venues).Pairwise byLiquidityAscending :=
    List.pairwise_insertionSort _ _
  have hdrained := drained_of_split hpos hsplit
  rw [evaluationWithdrawals] at hsplit
  rw [hsplit, List.map_append, List.map_cons, List.append_assoc, List.cons_append] at hprefix
  rw [← hprefix] at hvenue hsorted
  rcases List.mem_append.1 hvenue with hbefore | hrest
  · obtain ⟨v, hv, rfl⟩ := List.mem_map.1 hbefore
    rw [evaluationWithdrawals, hsplit, ← hdrained v hv]
    exact List.mem_append_left _ hv
  · -- Behind the used venue, or the venue itself: then it does not precede it.
    exfalso
    rcases List.mem_cons.1 hrest with rfl | hrest
    · exact hnot (Or.inr ⟨rfl, le_rfl⟩)
    · exact hnot ((List.pairwise_cons.1 (List.pairwise_append.1 hsorted).2.1).1 _ hrest)

theorem evaluationWithdrawals_drainsInOrder :
    DrainsInOrder idleCapitalUsd venues (evaluationWithdrawals policy idleCapitalUsd venues) where
  within _ hw := bounds_of_mem (fun _ hv => (mem_redeemCandidates_iff.1 hv).2) hw
  ordered := by
    have hpos : ∀ v ∈ redeemCandidates idleCapitalUsd venues, 0 < v.withdrawalAvailableUsd :=
      fun _ hv => (mem_redeemCandidates_iff.1 hv).2
    exact ⟨redeemCandidates idleCapitalUsd venues, List.perm_insertionSort _ _,
      List.pairwise_insertionSort _ _, map_fst_prefix hpos _,
      fun _ _ _ hsplit => drained_of_split hpos hsplit⟩
  precedes _ hw _ hvenue hpos hprecedes :=
    drained_of_precedes hw (mem_redeemCandidates_iff.2 ⟨hvenue, hpos⟩) hprecedes

/-- The reserve is covered in the order of liquidity, by the shortfall or by all that the venues
have, up to the digits of the subtractions; amounts that are multiples of `10 ^ k` of up to twenty
digits cover it exactly. -/
theorem reserve_covered (hshort : 0 < reserveShortfallUsd policy idleCapitalUsd venues) :
    let withdrawals := evaluationWithdrawals policy idleCapitalUsd venues
    (evaluate policy idleCapitalUsd venues).recommendations.filter
        (fun r => decide (r.reasonCode = .reserveShortfall)) =
      withdrawals.map (fun w => reserveRecommendation w.2 w.1) ∧
    DrainsInOrder idleCapitalUsd venues withdrawals ∧
    ∀ k : ℤ, reserveShortfallUsd policy idleCapitalUsd venues ≤ 10 ^ (k + 20) →
      |(withdrawals.map Prod.snd).sum - min (reserveShortfallUsd policy idleCapitalUsd venues)
          ((venues.map (·.withdrawalAvailableUsd)).filter fun w => decide (0 < w)).sum| ≤
        withdrawals.length * (1 / 2 * 10 ^ k) ∧
      (reserveShortfallUsd policy idleCapitalUsd venues ∈ decimalJs.grid k →
        (∀ venue ∈ venues, venue.withdrawalAvailableUsd ∈ decimalJs.grid k) →
        (withdrawals.map Prod.snd).sum = min (reserveShortfallUsd policy idleCapitalUsd venues)
          ((venues.map (·.withdrawalAvailableUsd)).filter fun w => decide (0 < w)).sum) := by
  have hpos : ∀ v ∈ redeemCandidates idleCapitalUsd venues, 0 < v.withdrawalAvailableUsd :=
    fun _ hv => (mem_redeemCandidates_iff.1 hv).2
  refine ⟨filter_reserveShortfall policy idleCapitalUsd venues,
    evaluationWithdrawals_drainsInOrder policy idleCapitalUsd venues, fun k hk => ⟨?_, ?_⟩⟩
  · rw [← withdrawable_redeemCandidates idleCapitalUsd venues]
    exact abs_total_sub_le_half hpos hshort.le hk
  · intro hgrid hvenues
    rw [← withdrawable_redeemCandidates idleCapitalUsd venues]
    refine total_eq_min hpos hshort.le hk hgrid fun venue hvenue => ?_
    obtain ⟨other, hother, rfl⟩ := List.mem_map.1 (mem_redeemCandidates_iff.1 hvenue).1
    exact hvenues other hother

end

/-! ## Redemptions of samples -/

def liquidVenue (venueId : String) (liquidityTier : TreasuryLiquidityTier)
    (withdrawalAvailableUsd : Decimal) : TreasuryVenueSnapshot where
  venueId
  venueName := venueId
  mode := .simulated
  liquidityTier
  healthy := true
  aprBps := 400
  availableCapacityUsd := 0
  currentAllocationUsd := withdrawalAvailableUsd
  withdrawalAvailableUsd
  concentrationPct := 0

def sampleVenues : List TreasuryVenueSnapshot :=
  [liquidVenue "atlas-t1-sim" .sameDay 3000, liquidVenue "atlas-t0-sim" .instant 1000,
    liquidVenue "atlas-t2-sim" .delayed 4000]

/-- Two venues are drained, and the third gives the rest of the 5000 USD. -/
theorem reserve_covered_sample :
    let withdrawals := evaluationWithdrawals defaultTreasuryPolicy 5000 sampleVenues
    withdrawals.map Prod.snd = [1000, 3000, 1000] ∧ DrainsInOrder 5000 sampleVenues withdrawals ∧
      (withdrawals.map Prod.snd).sum = 5000 := by
  have hshort : reserveShortfallUsd defaultTreasuryPolicy 5000 sampleVenues = 5000 := by
    decide +kernel
  have hsum : ((sampleVenues.map (·.withdrawalAvailableUsd)).filter
      fun w => decide (0 < w)).sum = 8000 := by decide +kernel
  obtain ⟨-, hdrains, hcover⟩ := reserve_covered defaultTreasuryPolicy 5000 sampleVenues
    (by rw [hshort]; norm_num)
  have hexact := (hcover 0 (by rw [hshort]; norm_num)).2
    (by rw [hshort]; exact decimalJs.mem_grid_iff.2 ⟨5000, by norm_num⟩)
  refine ⟨by decide +kernel, hdrains, ?_⟩
  rw [hexact, hshort, hsum]
  · norm_num
  · intro venue hvenue
    simp only [sampleVenues, List.mem_cons, List.not_mem_nil, or_false] at hvenue
    rcases hvenue with rfl | rfl | rfl
    · exact decimalJs.mem_grid_iff.2 ⟨3000, by norm_num [liquidVenue]⟩
    · exact decimalJs.mem_grid_iff.2 ⟨1000, by norm_num [liquidVenue]⟩
    · exact decimalJs.mem_grid_iff.2 ⟨4000, by norm_num [liquidVenue]⟩

/-- The cent that the first venue gives is lost in a shortfall of twenty digits, so that the second
one gives the whole shortfall once more. -/
theorem reserve_overdrawn :
    0 < reserveShortfallUsd { defaultTreasuryPolicy with minReserveUsd := 10 ^ 19 } 0
        [liquidVenue "atlas-t0-sim" .instant 0.01, liquidVenue "atlas-t1-sim" .sameDay (10 ^ 19)] ∧
      ((evaluationWithdrawals { defaultTreasuryPolicy with minReserveUsd := 10 ^ 19 } 0
        [liquidVenue "atlas-t0-sim" .instant 0.01,
          liquidVenue "atlas-t1-sim" .sameDay (10 ^ 19)]).map Prod.snd).sum ≠
        min (reserveShortfallUsd { defaultTreasuryPolicy with minReserveUsd := 10 ^ 19 } 0
          [liquidVenue "atlas-t0-sim" .instant 0.01,
            liquidVenue "atlas-t1-sim" .sameDay (10 ^ 19)]) (0.01 + 10 ^ 19) := by
  decide +kernel

end TreasuryPolicyEngine

end SentinelApex
