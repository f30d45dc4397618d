import SentinelApex.Carry.ControlledExecution
import SentinelApex.Lib.Drawdown

/-!
# Reducing the carry exposure

`buildCarryReductionIntents` closes the positions of the largest notional first until the requested
reduction is covered. Only the last position is closed in part, whatever `decimal.js` rounds
(`orderedReduction`), and a position is oversold exactly where the quotient that is to be closed
rounds up beyond its size at the eighth decimal (`within_iff`). Amounts of at most twenty digits add
up to what is requested (`soundReduction_iff`).
-/

namespace SentinelApex

def closingSide : PositionSide → OrderSide
  | .long => .sell
  | .short => .buy

variable {w : CarryPositionSnapshot × Decimal}

def notionalOfPosition (position : CarryPositionSnapshot) : Decimal :=
  position.size.times position.markPrice

/-- The positions by falling notional; those of the same notional stay in their order. -/
def sortedPositions (positions : List CarryPositionSnapshot) : List CarryPositionSnapshot :=
  positions.insertionSort fun left right =>
    notionalOfPosition right ≤ notionalOfPosition left

/-- The loop over the sorted positions: the positions that are reduced with their `reducingUsd`. -/
def plannedReductions :
    List CarryPositionSnapshot → Decimal → List (CarryPositionSnapshot × Decimal)
  | [], _ => []
  | position :: positions, remaining =>
    if remaining ≤ 0 then []
    else if position.markPrice ≤ 0 then plannedReductions positions remaining
    else
      let reducingUsd := min (notionalOfPosition position) remaining
      (position, reducingUsd) :: plannedReductions positions (remaining.minus reducingUsd)

/-- The intent of a planned reduction; `index` counts the intents before it. -/
def reductionIntent (sourceReference : String) (createdAt : Date)
    (reduction : CarryPositionSnapshot × Decimal) (index : ℕ) : OrderIntent :=
  let position := reduction.1
  let reducingUnits := reduction.2.div position.markPrice
  let side := closingSide position.side
  { intentId := s!"{position.asset}-carry-reduce-{side.text}-{createdAt}-{index + 1}"
    venueId := position.venueId
    asset := position.asset
    side
    type := .market
    size := reducingUnits.roundPlaces 8
    limitPrice := none
    opportunityId := s!"carry-reduction-{sourceReference}-{createdAt}"
    reduceOnly := true
    createdAt
    metadata := (((OrderedMap.empty.set "actionType" (.str "reduce_carry_exposure")).set
      "sourceReference" (.str sourceReference)).set "positionId" (.str position.positionId)).set
        "plannedReductionUsd" (.decimal (reduction.2.roundPlaces 2)) }

def buildCarryReductionIntents (positions : List CarryPositionSnapshot)
    (notionalReductionUsd : Decimal) (sourceReference : String) (createdAt : Date) :
    List OrderIntent :=
  (plannedReductions (sortedPositions positions) notionalReductionUsd).mapIdx
    fun index reduction => reductionIntent sourceReference createdAt reduction index

/-! ## The loop -/

@[simp] theorem minus_self (x : Decimal) : x.minus x = 0 := by
  rw [Decimal.minus, sub_self, decimalJs.round_zero]

section

variable {positions : List CarryPositionSnapshot} {remaining : Decimal}

theorem plannedReductions_of_nonpos (h : remaining ≤ 0) (positions : List CarryPositionSnapshot) :
    plannedReductions positions remaining = [] := by
  cases positions with
  | nil => rfl
  | cons position positions => rw [plannedReductions, if_pos h]

theorem map_fst_plannedReductions_sublist (positions : List CarryPositionSnapshot) (remaining : Decimal) :
    ((plannedReductions positions remaining).map Prod.fst).Sublist positions := by
  induction positions generalizing remaining with
  | nil => exact List.Sublist.slnil
  | cons position positions ih =>
    rw [plannedReductions]
    dsimp only
    split_ifs with hdone hskip
    · exact List.nil_sublist _
    · exact (ih remaining).cons _
    · exact (ih _).cons_cons _

theorem plannedReductions_split {before after : List (CarryPositionSnapshot × Decimal)}
    (h : plannedReductions positions remaining = before ++ w :: after) :
    (∀ v ∈ before, v.2 = notionalOfPosition v.1) ∧ w.2 ≤ notionalOfPosition w.1 := by
  induction positions generalizing remaining before with
  | nil => exact absurd h (by simp [plannedReductions])
  | cons position positions ih =>
    rw [plannedReductions] at h
    dsimp only at h
    split_ifs at h with hdone hskip
    · exact absurd h (by simp)
    · exact ih h
    · cases before with
      | nil =>
        obtain ⟨rfl, -⟩ := List.cons.inj h
        exact ⟨fun v hv => absurd hv List.not_mem_nil, min_le_left _ _⟩
      | cons first before =>
        obtain ⟨rfl, hrest⟩ := List.cons.inj h
        obtain ⟨hbefore, hw⟩ := ih hrest
        refine ⟨List.forall_mem_cons.2 ⟨?_, hbefore⟩, hw⟩
        -- A smaller amount would have ended the loop.
        rcases le_total (notionalOfPosition position) remaining with hle | hle
        · exact min_eq_left hle
        · rw [min_eq_right hle, plannedReductions_of_nonpos (minus_self remaining).le] at hrest
          exact absurd hrest (by simp)

end

/-- What holds for all amounts: an intent closes its position, no position has two, and the
positions are reduced by falling notional, all but the last one completely. -/
structure OrderedReduction (positions : List CarryPositionSnapshot)
    (notionalReductionUsd : Decimal) (sourceReference : String) (createdAt : Date) : Prop where
  once : ((buildCarryReductionIntents positions notionalReductionUsd sourceReference createdAt).map
    fun intent => intent.metadata.get? "positionId").Nodup
  closes : ∀ intent ∈
      buildCarryReductionIntents positions notionalReductionUsd sourceReference createdAt,
    ∃ p ∈ positions, intent.metadata.get? "positionId" = some (.str p.positionId) ∧
      intent.venueId = p.venueId ∧ intent.asset = p.asset ∧ intent.side = closingSide p.side
  falling : (plannedReductions (sortedPositions positions) notionalReductionUsd).Pairwise
    fun v w => notionalOfPosition w.1 ≤ notionalOfPosition v.1
  complete : ∀ before w after,
    plannedReductions (sortedPositions positions) notionalReductionUsd = before ++ w :: after →
      (∀ v ∈ before, v.2 = notionalOfPosition v.1) ∧ w.2 ≤ notionalOfPosition w.1

theorem sortedPositions_perm (positions : List CarryPositionSnapshot) :
    (sortedPositions positions).Perm positions :=
  List.perm_insertionSort _ _

theorem pairwise_sortedPositions (positions : List CarryPositionSnapshot) :
    (sortedPositions positions).Pairwise
      fun v w => notionalOfPosition w ≤ notionalOfPosition v := by
  have : Std.Total fun v w => notionalOfPosition w ≤ notionalOfPosition v :=
    ⟨fun v w => le_total _ _⟩
  have : IsTrans CarryPositionSnapshot
      fun v w => notionalOfPosition w ≤ notionalOfPosition v :=
    ⟨fun u v w huv hvw => hvw.trans huv⟩
  exact List.pairwise_insertionSort _ _

section

variable {positions : List CarryPositionSnapshot}
  {notionalReductionUsd : Decimal} {sourceReference : String} {createdAt : Date}

theorem mem_positions_of_planned
    (h : w ∈ plannedReductions (sortedPositions positions) notionalReductionUsd) :
    w.1 ∈ positions :=
  (sortedPositions_perm positions).mem_iff.1
    ((map_fst_plannedReductions_sublist _ _).subset (List.mem_map_of_mem h))

@[simp] theorem reductionIntent_positionId (reduction : CarryPositionSnapshot × Decimal)
    (index : ℕ) : (reductionIntent sourceReference createdAt reduction index).metadata.get?
      "positionId" = some (.str reduction.1.positionId) := rfl

theorem map_positionId_buildCarryReductionIntents :
    (buildCarryReductionIntents positions notionalReductionUsd sourceReference createdAt).map
        (fun intent => intent.metadata.get? "positionId") =
      ((plannedReductions (sortedPositions positions) notionalReductionUsd).map Prod.fst).map
        fun p => some (.str p.positionId) := by
  refine List.ext_getElem (by simp [buildCarryReductionIntents]) fun index h h' => ?_
  simp [buildCarryReductionIntents]

theorem mem_buildCarryReductionIntents {intent : OrderIntent} :
    intent ∈ buildCarryReductionIntents positions notionalReductionUsd sourceReference createdAt ↔
      ∃ index, ∃ h : index <
          (plannedReductions (sortedPositions positions) notionalReductionUsd).length,
        reductionIntent sourceReference createdAt
          ((plannedReductions (sortedPositions positions) notionalReductionUsd)[index])
            index = intent := by
  rw [buildCarryReductionIntents, List.mem_mapIdx]

theorem orderedReduction
    (hids : (positions.map fun p => p.positionId).Nodup) :
    OrderedReduction positions notionalReductionUsd sourceReference createdAt := by
  have hsublist := map_fst_plannedReductions_sublist (sortedPositions positions)
    notionalReductionUsd
  refine ⟨?_, fun intent hintent => ?_, ?_, fun before w after h => plannedReductions_split h⟩
  · rw [map_positionId_buildCarryReductionIntents]
    have hsorted : ((sortedPositions positions).map fun p => p.positionId).Nodup :=
      ((sortedPositions_perm positions).map _).nodup_iff.2 hids
    have hplanned : (((plannedReductions (sortedPositions positions) notionalReductionUsd).map
        Prod.fst).map fun p => p.positionId).Nodup := hsorted.sublist (hsublist.map _)
    have hinj : Function.Injective fun id : String => some (Json.str id) :=
      fun a b h => Json.str.inj (Option.some.inj h)
    simpa [List.map_map, Function.comp_def] using hplanned.map hinj
  · obtain ⟨index, h, rfl⟩ := mem_buildCarryReductionIntents.1 hintent
    exact ⟨_, mem_positions_of_planned (List.getElem_mem h), rfl, rfl, rfl, rfl⟩
  · exact List.pairwise_map.1 ((pairwise_sortedPositions positions).sublist hsublist)

end

/-! ## What is left for a position -/

def leftUsd (notionalReductionUsd : Decimal) (before : List CarryPositionSnapshot) : Decimal :=
  before.foldl (fun left p => left.minus (notionalOfPosition p)) notionalReductionUsd

def pricedPositions (positions : List CarryPositionSnapshot) : List CarryPositionSnapshot :=
  (sortedPositions positions).filter fun p => decide (0 < p.markPrice)

section

variable {positions : List CarryPositionSnapshot} {remaining : Decimal}

theorem notionalOfPosition_nonneg {p : CarryPositionSnapshot} (hsize : 0 ≤ p.size)
    (hmark : 0 < p.markPrice) : 0 ≤ notionalOfPosition p :=
  decimalJs.round_nonneg (mul_nonneg hsize hmark.le)

theorem leftUsd_nonpos (h : remaining ≤ 0) {before : List CarryPositionSnapshot}
    (hbefore : ∀ p ∈ before, 0 ≤ p.size ∧ 0 < p.markPrice) : leftUsd remaining before ≤ 0 := by
  induction before generalizing remaining with
  | nil => exact h
  | cons p before ih =>
    obtain ⟨hp, hrest⟩ := List.forall_mem_cons.1 hbefore
    have hnotional := notionalOfPosition_nonneg hp.1 hp.2
    exact ih (decimalJs.round_nonpos (by linarith)) hrest

theorem leftUsd_nonpos_of_split (h : remaining ≤ 0) (hsizes : ∀ p ∈ positions, 0 ≤ p.size)
    {before after : List CarryPositionSnapshot} {p : CarryPositionSnapshot}
    (hsplit : (positions.filter fun p => decide (0 < p.markPrice)) = before ++ p :: after) :
    leftUsd remaining before ≤ 0 := by
  refine leftUsd_nonpos h fun q hq => ?_
  have hmem : q ∈ positions.filter fun p => decide (0 < p.markPrice) := by
    rw [hsplit]
    exact List.mem_append_left _ hq
  obtain ⟨hmem, hmark⟩ := List.mem_filter.1 hmem
  exact ⟨hsizes q hmem, of_decide_eq_true hmark⟩

theorem exists_split_cons_iff {α : Type} {a x : α} {l : List α} {P : List α → Prop} :
    (∃ before after, a :: l = before ++ x :: after ∧ P before) ↔
      (x = a ∧ P []) ∨ ∃ before after, l = before ++ x :: after ∧ P (a :: before) := by
  constructor
  · rintro ⟨_ | ⟨first, before⟩, after, hsplit, hP⟩
    · exact Or.inl ⟨(List.cons.inj hsplit).1.symm, hP⟩
    · obtain ⟨rfl, hrest⟩ := List.cons.inj hsplit
      exact Or.inr ⟨before, after, hrest, hP⟩
  · rintro (⟨rfl, hP⟩ | ⟨before, after, rfl, hP⟩)
    · exact ⟨[], l, rfl, hP⟩
    · exact ⟨a :: before, after, rfl, hP⟩

/-- A position is reduced when those before it leave something of the reduction, by at most that. -/
theorem mem_plannedReductions_iff (hsizes : ∀ p ∈ positions, 0 ≤ p.size) :
    w ∈ plannedReductions positions remaining ↔
      ∃ before after, (positions.filter fun p => decide (0 < p.markPrice)) =
          before ++ w.1 :: after ∧ 0 < leftUsd remaining before ∧
        w.2 = min (notionalOfPosition w.1) (leftUsd remaining before) := by
  rcases le_or_gt remaining 0 with hdone | hopen
  · rw [plannedReductions_of_nonpos hdone]
    refine iff_of_false List.not_mem_nil ?_
    rintro ⟨before, after, hsplit, hleft, -⟩
    exact absurd (leftUsd_nonpos_of_split hdone hsizes hsplit) (not_le.2 hleft)
  induction positions generalizing remaining with
  | nil => simp [plannedReductions]
  | cons position positions ih =>
    obtain ⟨hsize, hrest⟩ := List.forall_mem_cons.1 hsizes
    rw [plannedReductions, if_neg (not_le.2 hopen)]
    dsimp only
    rcases le_or_gt position.markPrice 0 with hskip | hmark
    · rw [if_pos hskip, List.filter_cons_of_neg (by simpa using hskip)]
      exact ih hrest hopen
    · rw [if_neg (not_le.2 hmark), List.filter_cons_of_pos (by simpa using hmark), List.mem_cons,
        exists_split_cons_iff]
      refine or_congr ?_ ?_
      · rw [Prod.ext_iff]
        constructor
        · rintro ⟨rfl, hamount⟩
          exact ⟨rfl, hopen, hamount⟩
        · rintro ⟨hposition, -, hamount⟩
          exact ⟨hposition, hposition ▸ hamount⟩
      · -- After the position the loop is left with what `leftUsd` counts, or with nothing.
        rcases le_or_gt remaining (notionalOfPosition position) with hle | hlt
        · have hafter : remaining.minus (notionalOfPosition position) ≤ 0 :=
            decimalJs.round_nonpos (sub_nonpos.2 hle)
          rw [min_eq_right hle, plannedReductions_of_nonpos (minus_self remaining).le]
          refine iff_of_false List.not_mem_nil ?_
          rintro ⟨before, after, hsplit, hleft, -⟩
          exact absurd (leftUsd_nonpos_of_split hafter hrest hsplit) (not_le.2 hleft)
        · rw [min_eq_left hlt.le]
          exact ih hrest (decimalJs.round_pos (sub_pos.2 hlt))

theorem roundPlaces_le_iff {x size : Decimal} (hx : 0 ≤ x) (dp : ℕ) :
    x.roundPlaces dp ≤ size ↔ x * 10 ^ dp < ⌊size * 10 ^ dp⌋ + 1 / 2 := by
  have hscale : (0 : ℚ) < 10 ^ dp := by positivity
  rw [Decimal.roundPlaces, if_pos hx, div_le_iff₀ hscale, ← Int.le_floor, SigDigits.halfUp,
    ← Int.lt_add_one_iff, Int.floor_lt]
  push_cast
  constructor <;> intro h <;> linarith

end

/-! ## Amounts of twenty digits -/

def notionalSum (positions : List CarryPositionSnapshot) : ℚ :=
  (positions.map fun p => p.size * p.markPrice).sum

/-- The reduction and all notionals are multiples of one power of ten, of at most twenty digits. -/
def TwentyDigits (positions : List CarryPositionSnapshot) (notionalReductionUsd : Decimal) : Prop :=
  ∃ k, Decimal.Exact k notionalReductionUsd ∧
    ∀ p ∈ positions, 0 < p.markPrice → Decimal.Exact k (p.size * p.markPrice)

section

variable {positions : List CarryPositionSnapshot} {remaining : Decimal} {k : ℤ}

theorem capacities_nonneg (hsizes : ∀ p ∈ positions, 0 ≤ p.size) :
    ∀ c ∈ (positions.filter fun p => decide (0 < p.markPrice)).map (fun p => p.size * p.markPrice),
      0 ≤ c := by
  intro c hc
  obtain ⟨p, hp, rfl⟩ := List.mem_map.1 hc
  obtain ⟨hmem, hmark⟩ := List.mem_filter.1 hp
  exact mul_nonneg (hsizes p hmem) (of_decide_eq_true hmark).le

theorem plannedReductions_eq_draw (hsizes : ∀ p ∈ positions, 0 ≤ p.size) (h0 : 0 ≤ remaining)
    (hremaining : Decimal.Exact k remaining)
    (hnotional : ∀ p ∈ positions, 0 < p.markPrice → Decimal.Exact k (p.size * p.markPrice)) :
    ((plannedReductions positions remaining).map Prod.snd).sum =
      (Drawdown.draw ((positions.filter fun p => decide (0 < p.markPrice)).map
        fun p => p.size * p.markPrice) remaining).sum := by
  induction positions generalizing remaining with
  | nil => rfl
  | cons position positions ih =>
    obtain ⟨hsize, hrest⟩ := List.forall_mem_cons.1 hsizes
    obtain ⟨hexact, hexacts⟩ := List.forall_mem_cons.1 hnotional
    rw [plannedReductions]
    dsimp only
    split_ifs with hdone hskip
    · obtain rfl : remaining = 0 := le_antisymm hdone h0
      exact (Drawdown.sum_draw_zero (capacities_nonneg hsizes)).symm
    · rw [List.filter_cons_of_neg (by simpa using hskip)]
      exact ih hrest h0 hremaining hexacts
    · have hmark : 0 < position.markPrice := not_le.1 hskip
      have hvalue : notionalOfPosition position = position.size * position.markPrice :=
        Decimal.times_eq_mul (hexact hmark)
      have hvalue0 : 0 ≤ position.size * position.markPrice := mul_nonneg hsize hmark.le
      have hleft : Decimal.Exact k
          (remaining - min (position.size * position.markPrice) remaining) := by
        refine ⟨sub_mem hremaining.1 ?_, ?_⟩
        · rcases min_choice (position.size * position.markPrice) remaining with h | h <;> rw [h]
          · exact (hexact hmark).1
          · exact hremaining.1
        · rw [abs_of_nonneg (sub_nonneg.2 (min_le_right _ _))]
          have hle := hremaining.2
          rw [abs_of_nonneg h0] at hle
          linarith [le_min hvalue0 h0]
      rw [List.filter_cons_of_pos (by simpa using hmark), List.map_cons, List.map_cons,
        List.sum_cons, Drawdown.draw, List.sum_cons, hvalue, Decimal.minus_eq_sub hleft]
      exact congrArg _ (ih hrest (sub_nonneg.2 (min_le_right _ _)) hleft hexacts)

theorem sum_plannedReductions (hsizes : ∀ p ∈ positions, 0 ≤ p.size) (h0 : 0 ≤ remaining)
    (hdigits : TwentyDigits positions remaining) :
    ((plannedReductions (sortedPositions positions) remaining).map Prod.snd).sum =
      min remaining (notionalSum (positions.filter fun p => decide (0 < p.markPrice))) := by
  obtain ⟨k, hremaining, hnotional⟩ := hdigits
  have hperm := sortedPositions_perm positions
  have hsorted : ∀ p ∈ sortedPositions positions, 0 ≤ p.size := fun p hp =>
    hsizes p (hperm.mem_iff.1 hp)
  have hdraw := plannedReductions_eq_draw hsorted h0 hremaining fun p hp =>
    hnotional p (hperm.mem_iff.1 hp)
  rw [hdraw, Drawdown.sum_draw (capacities_nonneg hsorted) h0, min_comm]
  exact congrArg _ (((hperm.filter _).map _).sum_eq)

end

/-! ## Sound reductions -/

/-- No intent closes more than its position holds. -/
def NeverOversells (positions : List CarryPositionSnapshot) (notionalReductionUsd : Decimal)
    (sourceReference : String) (createdAt : Date) : Prop :=
  ∀ intent ∈ buildCarryReductionIntents positions notionalReductionUsd sourceReference createdAt,
    ∀ p ∈ positions, intent.metadata.get? "positionId" = some (.str p.positionId) →
      intent.size ≤ p.size

/-- A reduction in order that oversells nothing and adds up to what is requested, as far as the
positions go. -/
structure SoundReduction (positions : List CarryPositionSnapshot) (notionalReductionUsd : Decimal)
    (sourceReference : String) (createdAt : Date) : Prop where
  ordered : OrderedReduction positions notionalReductionUsd sourceReference createdAt
  within : NeverOversells positions notionalReductionUsd sourceReference createdAt
  total : ((plannedReductions (sortedPositions positions) notionalReductionUsd).map Prod.snd).sum =
    min notionalReductionUsd (notionalSum (positions.filter fun p => decide (0 < p.markPrice)))

/-- No position that is reached is rounded up beyond its size: the units to close, the notional of
the position or the rest of the reduction over its price, are less than half a unit of the eighth
place above the size cut to eight places. -/
def CutsWithinSizes (positions : List CarryPositionSnapshot) (notionalReductionUsd : Decimal) :
    Prop :=
  ∀ before p after, pricedPositions positions = before ++ p :: after →
    0 < leftUsd notionalReductionUsd before →
      (min (notionalOfPosition p) (leftUsd notionalReductionUsd before)).div p.markPrice * 10 ^ 8 <
        ⌊p.size * 10 ^ 8⌋ + 1 / 2

section

variable {positions : List CarryPositionSnapshot} {notionalReductionUsd : Decimal}
  {sourceReference : String} {createdAt : Date}

theorem mem_of_pricedPositions {p : CarryPositionSnapshot} {before after}
    (h : pricedPositions positions = before ++ p :: after) : p ∈ positions ∧ 0 < p.markPrice := by
  have hmem : p ∈ pricedPositions positions := by
    rw [h]
    exact List.mem_append_right _ List.mem_cons_self
  rwa [pricedPositions, List.mem_filter, (sortedPositions_perm positions).mem_iff,
    decide_eq_true_eq] at hmem

/-- Sizes of eight places are not exceeded by quotients of exact notionals. -/
theorem cutsWithinSizes_of_places (hdigits : TwentyDigits positions notionalReductionUsd)
    (hsizes : ∀ p ∈ positions, Decimal.Exact (-8) p.size) :
    CutsWithinSizes positions notionalReductionUsd := by
  intro before p after hsplit _
  obtain ⟨hp, hmark⟩ := mem_of_pricedPositions hsplit
  obtain ⟨k, -, hnotional⟩ := hdigits
  have hunits : (min (notionalOfPosition p) (leftUsd notionalReductionUsd before)).div p.markPrice ≤
      p.size := by
    rw [← Decimal.round_of_exact (hsizes p hp)]
    refine decimalJs.round_mono ((div_le_iff₀ hmark).2 ?_)
    rw [← Decimal.times_eq_mul (hnotional p hp hmark)]
    exact min_le_left _ _
  obtain ⟨n, hn⟩ := decimalJs.mem_grid_iff.1 (hsizes p hp).1
  have hscaled : p.size * 10 ^ 8 = n := by
    rw [← hn]
    norm_num [decimalJs, mul_assoc]
  rw [hscaled, Int.floor_intCast, ← hscaled]
  linarith

theorem neverOversells_iff (hids : (positions.map fun p => p.positionId).Nodup) :
    NeverOversells positions notionalReductionUsd sourceReference createdAt ↔
      ∀ w ∈ plannedReductions (sortedPositions positions) notionalReductionUsd,
        (w.2.div w.1.markPrice).roundPlaces 8 ≤ w.1.size := by
  constructor
  · intro h w hw
    obtain ⟨index, hindex, rfl⟩ := List.getElem_of_mem hw
    exact h _ (mem_buildCarryReductionIntents.2 ⟨index, hindex, rfl⟩) _
      (mem_positions_of_planned hw) rfl
  · intro h intent hintent p hp hid
    obtain ⟨index, hindex, rfl⟩ := mem_buildCarryReductionIntents.1 hintent
    have hw := List.getElem_mem hindex
    have hsame := Json.str.inj (Option.some.inj hid)
    have hposition := List.inj_on_of_nodup_map hids (mem_positions_of_planned hw) hp hsame
    rw [← hposition]
    exact h _ hw

theorem within_iff (hids : (positions.map fun p => p.positionId).Nodup)
    (hsizes : ∀ p ∈ positions, 0 ≤ p.size) :
    NeverOversells positions notionalReductionUsd sourceReference createdAt ↔
      CutsWithinSizes positions notionalReductionUsd := by
  have hsorted : ∀ p ∈ sortedPositions positions, 0 ≤ p.size := fun p hp =>
    hsizes p ((sortedPositions_perm positions).mem_iff.1 hp)
  -- The units to close at a position that is reached.
  have hunits : ∀ {before p after}, pricedPositions positions = before ++ p :: after →
      0 < leftUsd notionalReductionUsd before →
        0 ≤ (min (notionalOfPosition p) (leftUsd notionalReductionUsd before)).div p.markPrice := by
    intro before p after hsplit hleft
    obtain ⟨hp, hmark⟩ := mem_of_pricedPositions hsplit
    exact decimalJs.round_nonneg (div_nonneg
      (le_min (notionalOfPosition_nonneg (hsizes p hp) hmark) hleft.le) hmark.le)
  rw [neverOversells_iff hids]
  constructor
  · intro h before p after hsplit hleft
    exact (roundPlaces_le_iff (hunits hsplit hleft) 8).1 (h (p, _)
      ((mem_plannedReductions_iff hsorted).2 ⟨before, after, hsplit, hleft, rfl⟩))
  · rintro h ⟨p, amount⟩ hw
    obtain ⟨before, after, hsplit, hleft, hamount⟩ := (mem_plannedReductions_iff hsorted).1 hw
    dsimp only at hsplit hamount ⊢
    rw [hamount]
    exact (roundPlaces_le_iff (hunits hsplit hleft) 8).2 (h before p after hsplit hleft)

/-- For positions with distinct ids, every reduction closes the positions in order and oversells
nothing exactly if no position that is reached is rounded up beyond its size; and with amounts of at
most twenty digits it is sound exactly then. -/
theorem soundReduction_iff (hids : (positions.map fun p => p.positionId).Nodup)
    (hsizes : ∀ p ∈ positions, 0 ≤ p.size) (hreduction : 0 < notionalReductionUsd) :
    OrderedReduction positions notionalReductionUsd sourceReference createdAt ∧
      (NeverOversells positions notionalReductionUsd sourceReference createdAt ↔
        CutsWithinSizes positions notionalReductionUsd) ∧
      (TwentyDigits positions notionalReductionUsd →
        (SoundReduction positions notionalReductionUsd sourceReference createdAt ↔
          CutsWithinSizes positions notionalReductionUsd)) := by
  have hwithin : NeverOversells positions notionalReductionUsd sourceReference createdAt ↔
      CutsWithinSizes positions notionalReductionUsd := within_iff hids hsizes
  refine ⟨orderedReduction hids, hwithin, fun hdigits => ⟨fun h => hwithin.1 h.within, fun h => ?_⟩⟩
  exact ⟨orderedReduction hids, hwithin.2 h, sum_plannedReductions hsizes hreduction.le hdigits⟩

end

/-! ## Sizes of samples -/

def longPosition (positionId : String) (size markPrice : Decimal) : CarryPositionSnapshot where
  positionId
  venueId := "sim-venue-a"
  asset := "BTC"
  side := .long
  size
  markPrice
  updatedAt := "2026-03-30T00:00:00.000Z"

def twoPositions : List CarryPositionSnapshot :=
  [longPosition "pos-1" 0.03 100000, longPosition "pos-2" 0.1 100000]

/-- All of the larger position and a third of the other one. -/
theorem soundReduction_sample :
    (buildCarryReductionIntents twoPositions 11000 "rebalance-1" 0).map (fun intent => intent.size) =
        [0.1, 0.01] ∧
      SoundReduction twoPositions 11000 "rebalance-1" 0 := by
  have hexact : ∀ (x : Decimal) (n : ℕ), x = n / 100 → n ≤ 10 ^ 7 → Decimal.Exact (-8) x := by
    rintro x n rfl hn
    have hcast : (n : ℚ) ≤ 10 ^ 7 := by exact_mod_cast hn
    refine ⟨decimalJs.mem_grid_iff.2 ⟨n * 10 ^ 6, ?_⟩, ?_⟩
    · norm_num [decimalJs]
      ring
    · rw [abs_of_nonneg (by positivity)]
      norm_num
      linarith
  have hsizes : ∀ p ∈ twoPositions, Decimal.Exact (-8) p.size ∧
      Decimal.Exact (-8) (p.size * p.markPrice) := by
    refine List.forall_mem_cons.2 ⟨⟨?_, ?_⟩, List.forall_mem_singleton.2 ⟨?_, ?_⟩⟩
    · exact hexact _ 3 (by norm_num [longPosition]) (by norm_num)
    · exact hexact _ 300000 (by norm_num [longPosition]) (by norm_num)
    · exact hexact _ 10 (by norm_num [longPosition]) (by norm_num)
    · exact hexact _ 1000000 (by norm_num [longPosition]) (by norm_num)
  have hdigits : TwentyDigits twoPositions 11000 :=
    ⟨-8, hexact _ 1100000 (by norm_num) (by norm_num), fun p hp _ => (hsizes p hp).2⟩
  exact ⟨by decide +kernel, ((soundReduction_iff (by decide +kernel) (by decide +kernel)
    (by decide +kernel)).2.2 hdigits).2 (cutsWithinSizes_of_places hdigits fun p hp =>
      (hsizes p hp).1)⟩

/-- A position of 1.000000007 is closed with a sale of 1.00000001; and a position of eight decimals
is oversold where its notional has more than twenty digits. -/
theorem not_soundReduction :
    ¬ SoundReduction [longPosition "pos-1" 1.000000007 100] 500 "rebalance-1" 0 ∧
      ¬ SoundReduction [longPosition "pos-1" 1234567890123.12345678 0.00002] (10 ^ 9) "rebalance-1"
        0 :=
  ⟨fun h => absurd ((neverOversells_iff (by decide +kernel)).1 h.within) (by decide +kernel),
    fun h => absurd ((neverOversells_iff (by decide +kernel)).1 h.within) (by decide +kernel)⟩

end SentinelApex
