import Mathlib.Algebra.Order.Ring.Pow
import SentinelApex.Domain.Places
import SentinelApex.Lib.Grouping
import SentinelApex.Runtime.InternalDerivativeState

/-!
# Positions of the fill ledger

The accumulator of a market holds the running sum of its signed fills and the average price at which
the position was built up. A fill opens the position or adds to it, reduces it, closes it or turns
it around (`applyFill_cases`), and through all of them the average stays between the prices of the
fills on the side of the position, up to the rounding of `decimal.js`.
-/

namespace SentinelApex

open SigDigits

variable {net : Decimal}

namespace InternalDerivativeState

/-! ## The rounding of the ledger -/

/-- The relative error of an operation with twenty digits. -/
def decimalError : ℚ := 5 / 10 ^ 20

theorem hasRelativeError_decimalJs : HasRelativeError decimalJs.round decimalError :=
  Decimal.hasRelativeError

theorem decimalError_pos : 0 < decimalError := by norm_num [decimalError]

theorem decimalError_le : decimalError ≤ 1 / 2 := by norm_num [decimalError]

variable {x y : Decimal}

theorem plus_pos (h : 0 < x + y) : 0 < x.plus y := decimalJs.round_pos h

theorem plus_neg (h : x + y < 0) : x.plus y < 0 := by
  have hpos := decimalJs.round_pos (x := -(x + y)) (by linarith)
  rw [decimalJs.round_neg] at hpos
  exact neg_pos.1 hpos

theorem plus_eq_zero (h : x + y = 0) : x.plus y = 0 := by
  rw [Decimal.plus, h, decimalJs.round_zero]

/-! ## One fill -/

def InDirection (net : Decimal) (fill : InternalDerivativeFillRecord) : Prop :=
  (0 < net ∧ fill.side = .buy) ∨ (net < 0 ∧ fill.side = .sell)

instance (net : Decimal) (fill : InternalDerivativeFillRecord) : Decidable (InDirection net fill) :=
  inferInstanceAs (Decidable (_ ∨ _))

def signedSize (fill : InternalDerivativeFillRecord) : Decimal := signedQuantity fill.size fill.side

section

variable {accumulator : PositionAccumulator} {fill : InternalDerivativeFillRecord}

theorem inDirection_of_pos (h : 0 < net) : InDirection net fill ↔ fill.side = .buy := by
  unfold InDirection
  constructor
  · rintro (⟨-, hbuy⟩ | ⟨hneg, -⟩)
    · exact hbuy
    · exact absurd hneg h.not_gt
  · exact fun hbuy => .inl ⟨h, hbuy⟩

theorem inDirection_of_neg (h : net < 0) : InDirection net fill ↔ fill.side = .sell := by
  unfold InDirection
  constructor
  · rintro (⟨hpos, -⟩ | ⟨-, hsell⟩)
    · exact absurd h hpos.not_gt
    · exact hsell
  · exact fun hsell => .inr ⟨h, hsell⟩

theorem InDirection.ne_zero (h : InDirection net fill) : net ≠ 0 := by
  rcases h with ⟨hpos, -⟩ | ⟨hneg, -⟩
  · exact hpos.ne'
  · exact hneg.ne

theorem abs_signedSize (h : 0 < fill.size) : |signedSize fill| = fill.size := by
  unfold signedSize signedQuantity
  cases fill.side with
  | buy => exact abs_of_pos h
  | sell => exact (abs_neg _).trans (abs_of_pos h)

section

variable (accumulator : PositionAccumulator) (fill : InternalDerivativeFillRecord)

theorem netQuantity_applyFill :
    (applyFillToAccumulator accumulator fill).netQuantity =
      accumulator.netQuantity.plus (signedSize fill) := by
  unfold applyFillToAccumulator signedSize
  dsimp only
  split_ifs <;> rfl

theorem executedBuyQuantity_applyFill :
    (applyFillToAccumulator accumulator fill).executedBuyQuantity =
      match fill.side with
      | .buy => accumulator.executedBuyQuantity.plus fill.size
      | .sell => accumulator.executedBuyQuantity := by
  unfold applyFillToAccumulator
  dsimp only
  split_ifs <;> rfl

theorem executedSellQuantity_applyFill :
    (applyFillToAccumulator accumulator fill).executedSellQuantity =
      match fill.side with
      | .buy => accumulator.executedSellQuantity
      | .sell => accumulator.executedSellQuantity.plus fill.size := by
  unfold applyFillToAccumulator
  dsimp only
  split_ifs <;> rfl

end

theorem sameSide_iff (h : 0 < fill.size) (hnet : ¬ net = 0) :
    decide (0 < net) = signedIsPositive fill.size fill.side ↔ InDirection net fill := by
  unfold signedIsPositive InDirection
  cases hside : fill.side with
  | buy =>
    have hge := h.le
    simp [hge]
  | sell =>
    have hnot : ¬ fill.size < 0 := not_lt.2 h.le
    simp [hnot, (show net ≠ 0 from hnet).le_iff_lt]

/-- The test of the source for a fill of positive size: it opens the position or adds to it. -/
theorem opens_iff (h : 0 < fill.size) :
    (net = 0 ∨ decide (0 < net) = signedIsPositive fill.size fill.side) ↔
      net = 0 ∨ InDirection net fill :=
  or_congr_right' fun hnet => sameSide_iff h hnet

theorem inDirection_plus (h : 0 < fill.size) (hside : net = 0 ∨ InDirection net fill) :
    InDirection (net.plus (signedSize fill)) fill := by
  cases hfill : fill.side with
  | buy =>
    have hsigned : signedSize fill = fill.size := by simp [signedSize, signedQuantity, hfill]
    have hnet : 0 ≤ net := by
      rcases hside with rfl | ⟨hpos, -⟩ | ⟨-, hsell⟩
      · exact le_rfl
      · exact hpos.le
      · rw [hfill] at hsell
        cases hsell
    exact .inl ⟨plus_pos (by rw [hsigned]; linarith), hfill⟩
  | sell =>
    have hsigned : signedSize fill = -fill.size := by simp [signedSize, signedQuantity, hfill]
    have hnet : net ≤ 0 := by
      rcases hside with rfl | ⟨-, hbuy⟩ | ⟨hneg, -⟩
      · exact le_rfl
      · rw [hfill] at hbuy
        cases hbuy
      · exact hneg.le
    exact .inr ⟨plus_neg (by rw [hsigned]; linarith), hfill⟩

section

variable (hnet : net ≠ 0) (h : ¬ InDirection net fill)

include hnet h

/-- A fill on the other side is signed against the position. -/
theorem opposes_cases :
    (0 < net ∧ fill.side = .sell ∧ signedSize fill = -fill.size) ∨
      (net < 0 ∧ fill.side = .buy ∧ signedSize fill = fill.size) := by
  unfold InDirection at h
  cases hfill : fill.side with
  | buy =>
    have hneg : net < 0 := by
      by_contra hnot
      exact h (.inl ⟨lt_of_le_of_ne (not_lt.1 hnot) hnet.symm, hfill⟩)
    exact .inr ⟨hneg, rfl, by simp [signedSize, signedQuantity, hfill]⟩
  | sell =>
    have hpos : 0 < net := by
      by_contra hnot
      exact h (.inr ⟨lt_of_le_of_ne (not_lt.1 hnot) hnet, hfill⟩)
    exact .inl ⟨hpos, rfl, by simp [signedSize, signedQuantity, hfill]⟩

theorem inDirection_of_smaller (hsmaller : fill.size < |net|) (f : InternalDerivativeFillRecord) :
    InDirection (net.plus (signedSize fill)) f ↔ InDirection net f := by
  rcases opposes_cases hnet h with ⟨hpos, -, hsigned⟩ | ⟨hneg, -, hsigned⟩
  · rw [abs_of_pos hpos] at hsmaller
    have hplus := plus_pos (x := net) (y := signedSize fill) (by rw [hsigned]; linarith)
    rw [inDirection_of_pos hplus, inDirection_of_pos hpos]
  · rw [abs_of_neg hneg] at hsmaller
    have hplus := plus_neg (x := net) (y := signedSize fill) (by rw [hsigned]; linarith)
    rw [inDirection_of_neg hplus, inDirection_of_neg hneg]

theorem inDirection_of_larger (hlarger : |net| ≤ fill.size) (hzero : net + signedSize fill ≠ 0) :
    InDirection (net.plus (signedSize fill)) fill := by
  rcases opposes_cases hnet h with ⟨hpos, hfill, hsigned⟩ | ⟨hneg, hfill, hsigned⟩
  · rw [abs_of_pos hpos] at hlarger
    refine .inr ⟨plus_neg (lt_of_le_of_ne ?_ hzero), hfill⟩
    rw [hsigned]
    linarith
  · rw [abs_of_neg hneg] at hlarger
    refine .inl ⟨plus_pos (lt_of_le_of_ne ?_ hzero.symm), hfill⟩
    rw [hsigned]
    linarith

end

/-- What a fill does to the position: it adds to it, reduces it, closes it or turns it around. -/
inductive FillEffect (accumulator : PositionAccumulator) (fill : InternalDerivativeFillRecord)
    (next : PositionAccumulator) : Prop where
  | adds (hside : accumulator.netQuantity = 0 ∨ InDirection accumulator.netQuantity fill)
      (hnext : InDirection next.netQuantity fill)
      (haverage : next.averageEntryPrice = some (weightedMean decimalJs.round
        (accumulator.averageEntryPrice.getD 0) |accumulator.netQuantity| fill.price fill.size))
  | reduces (hnet : accumulator.netQuantity ≠ 0)
      (hside : ∀ f, InDirection next.netQuantity f ↔ InDirection accumulator.netQuantity f)
      (haverage : next.averageEntryPrice = accumulator.averageEntryPrice)
  | closes (hnext : next.netQuantity = 0)
  | turns (hnext : InDirection next.netQuantity fill)
      (haverage : next.averageEntryPrice = some fill.price)

theorem applyFill_cases (accumulator : PositionAccumulator) (h : 0 < fill.size) :
    FillEffect accumulator fill (applyFillToAccumulator accumulator fill) := by
  have hnext := netQuantity_applyFill accumulator fill
  have hopens := @opens_iff accumulator.netQuantity fill h
  have habs : |signedQuantity fill.size fill.side| = fill.size := abs_signedSize h
  by_cases hside : accumulator.netQuantity = 0 ∨ InDirection accumulator.netQuantity fill
  · have hdirection := inDirection_plus h hside
    refine .adds hside (hnext ▸ hdirection) ?_
    have hne : accumulator.netQuantity.plus (signedQuantity fill.size fill.side) ≠ 0 :=
      hdirection.ne_zero
    rw [applyFillToAccumulator, if_pos (hopens.2 hside)]
    dsimp only
    rw [if_neg hne, habs]
    rfl
  · obtain ⟨hnet, hnot⟩ := not_or.1 hside
    rcases lt_or_ge fill.size |accumulator.netQuantity| with hsmaller | hlarger
    · refine .reduces hnet (fun f => hnext ▸ inDirection_of_smaller hnet hnot hsmaller f) ?_
      rw [applyFillToAccumulator, if_neg (mt hopens.1 hside)]
      dsimp only
      rw [habs, if_pos hsmaller]
    · by_cases hzero : accumulator.netQuantity + signedSize fill = 0
      · exact .closes (hnext.trans (plus_eq_zero hzero))
      · have hdirection := inDirection_of_larger hnet hnot hlarger hzero
        refine .turns (hnext ▸ hdirection) ?_
        have hne : accumulator.netQuantity.plus (signedQuantity fill.size fill.side) ≠ 0 :=
          hdirection.ne_zero
        rw [applyFillToAccumulator, if_neg (mt hopens.1 hside)]
        dsimp only
        rw [habs, if_neg (not_lt.2 hlarger), if_neg hne]

end

/-! ## The fills of a market -/

/-- The signed sizes, added up by the ledger. -/
def ledgerNet (group : List InternalDerivativeFillRecord) : Decimal :=
  runningSum decimalJs.round (group.map signedSize)

def sizesOf (side : OrderSide) (group : List InternalDerivativeFillRecord) : List Decimal :=
  (group.filter fun fill => decide (fill.side = side)).map fun fill => fill.size

/-- The sizes of one side, added up by the ledger. -/
def executed (side : OrderSide) (group : List InternalDerivativeFillRecord) : Decimal :=
  runningSum decimalJs.round (sizesOf side group)

/-- The average is between the prices of two fills on the side of the position, up to five roundings
for each fill of the market. -/
structure PriceBounds (group : List InternalDerivativeFillRecord) (net average : Decimal) :
    Prop where
  low : ∃ f ∈ group, InDirection net f ∧
    (1 - decimalError) ^ (5 * group.length) * f.price ≤ average
  high : ∃ f ∈ group, InDirection net f ∧
    average ≤ (1 + decimalError) ^ (5 * group.length) * f.price

structure Tracks (group : List InternalDerivativeFillRecord) (accumulator : PositionAccumulator) :
    Prop where
  net : accumulator.netQuantity = ledgerNet group
  buys : accumulator.executedBuyQuantity = executed .buy group
  sells : accumulator.executedSellQuantity = executed .sell group
  average : accumulator.netQuantity ≠ 0 → ∃ average,
    accumulator.averageEntryPrice = some average ∧
      PriceBounds group accumulator.netQuantity average

section

variable {group : List InternalDerivativeFillRecord} {accumulator : PositionAccumulator}
  {fill : InternalDerivativeFillRecord}

theorem shrink_mono (m : ℕ) {k : ℕ} (h : k ≤ m) {x : ℚ} (hx : 0 ≤ x) :
    (1 - decimalError) ^ m * x ≤ (1 - decimalError) ^ k * x := by
  have hle : (1 - decimalError) ^ m ≤ (1 - decimalError) ^ k :=
    pow_le_pow_of_le_one (by linarith [decimalError_le]) (by linarith [decimalError_pos]) h
  exact mul_le_mul_of_nonneg_right hle hx

theorem grow_mono (m : ℕ) {k : ℕ} (h : k ≤ m) {x : ℚ} (hx : 0 ≤ x) :
    (1 + decimalError) ^ k * x ≤ (1 + decimalError) ^ m * x := by
  have hle : (1 + decimalError) ^ k ≤ (1 + decimalError) ^ m :=
    pow_le_pow_right₀ (by linarith [decimalError_pos]) h
  exact mul_le_mul_of_nonneg_right hle hx

theorem PriceBounds.concat {net net' average : Decimal} (h : PriceBounds group net average)
    (hprices : ∀ f ∈ group, 0 < f.price) (hside : ∀ f, InDirection net' f ↔ InDirection net f)
    (fill : InternalDerivativeFillRecord) : PriceBounds (group ++ [fill]) net' average := by
  have hlength : 5 * group.length ≤ 5 * (group ++ [fill]).length := by simp
  obtain ⟨⟨low, hlow, hlowSide, hle⟩, ⟨high, hhigh, hhighSide, hge⟩⟩ := h
  constructor
  · refine ⟨low, List.mem_append_left _ hlow, (hside low).2 hlowSide, ?_⟩
    exact (shrink_mono _ hlength (hprices low hlow).le).trans hle
  · refine ⟨high, List.mem_append_left _ hhigh, (hside high).2 hhighSide, ?_⟩
    exact hge.trans (grow_mono _ hlength (hprices high hhigh).le)

theorem priceBounds_turned (hside : InDirection net fill) (hprice : 0 < fill.price) :
    PriceBounds (group ++ [fill]) net fill.price := by
  have hmem : fill ∈ group ++ [fill] := by simp
  refine ⟨⟨fill, hmem, hside, ?_⟩, ⟨fill, hmem, hside, ?_⟩⟩
  · simpa using shrink_mono (5 * (group ++ [fill]).length) (Nat.zero_le _) hprice.le
  · simpa using grow_mono (5 * (group ++ [fill]).length) (Nat.zero_le _) hprice.le

theorem side_eq_of_inDirection {f : InternalDerivativeFillRecord} (hf : InDirection net f)
    (hfill : InDirection net fill) : f.side = fill.side := by
  rcases hfill with ⟨hpos, hside⟩ | ⟨hneg, hside⟩
  · rw [hside, ← inDirection_of_pos hpos]
    exact hf
  · rw [hside, ← inDirection_of_neg hneg]
    exact hf

theorem inDirection_of_side_eq {f : InternalDerivativeFillRecord} (hfill : InDirection net fill)
    (h : f.side = fill.side) : InDirection net f := by
  rcases hfill with ⟨hpos, hside⟩ | ⟨hneg, hside⟩
  · exact .inl ⟨hpos, h.trans hside⟩
  · exact .inr ⟨hneg, h.trans hside⟩

section

variable (h : Tracks group accumulator)
  (hside : accumulator.netQuantity = 0 ∨ InDirection accumulator.netQuantity fill)

include h hside

/-- A fill that opens a position or adds to it: the old average and the new price both have a fill
below them, and one above them. -/
theorem exists_bounds_of_adds (hprice : 0 < fill.price) (hprices : ∀ f ∈ group, 0 < f.price) :
    (∃ f ∈ group ++ [fill], f.side = fill.side ∧ 0 < f.price ∧ f.price ≤ fill.price ∧
        (1 - decimalError) ^ (5 * group.length) * f.price * |accumulator.netQuantity| ≤
          accumulator.averageEntryPrice.getD 0 * |accumulator.netQuantity|) ∧
      ∃ f ∈ group ++ [fill], f.side = fill.side ∧ 0 < f.price ∧ fill.price ≤ f.price ∧
        accumulator.averageEntryPrice.getD 0 * |accumulator.netQuantity| ≤
          (1 + decimalError) ^ (5 * group.length) * f.price * |accumulator.netQuantity| := by
  have hmem : fill ∈ group ++ [fill] := by simp
  by_cases hzero : accumulator.netQuantity = 0
  · refine ⟨⟨fill, hmem, rfl, hprice, le_rfl, ?_⟩, ⟨fill, hmem, rfl, hprice, le_rfl, ?_⟩⟩
    · simp [hzero]
    · simp [hzero]
  · have hfill := hside.resolve_left hzero
    obtain ⟨average, haverage, ⟨low, hlow, hlowSide, hle⟩, ⟨high, hhigh, hhighSide, hge⟩⟩ :=
      h.average hzero
    rw [haverage, Option.getD_some]
    constructor
    · rcases le_total low.price fill.price with hless | hless
      · refine ⟨low, List.mem_append_left _ hlow, side_eq_of_inDirection hlowSide hfill,
          hprices low hlow, hless, ?_⟩
        exact mul_le_mul_of_nonneg_right hle (abs_nonneg _)
      · refine ⟨fill, hmem, rfl, hprice, le_rfl, mul_le_mul_of_nonneg_right ?_ (abs_nonneg _)⟩
        have hscale : (0 : ℚ) ≤ (1 - decimalError) ^ (5 * group.length) :=
          pow_nonneg (by linarith [decimalError_le]) _
        exact (mul_le_mul_of_nonneg_left hless hscale).trans hle
    · rcases le_total fill.price high.price with hless | hless
      · refine ⟨high, List.mem_append_left _ hhigh, side_eq_of_inDirection hhighSide hfill,
          hprices high hhigh, hless, ?_⟩
        exact mul_le_mul_of_nonneg_right hge (abs_nonneg _)
      · refine ⟨fill, hmem, rfl, hprice, le_rfl, mul_le_mul_of_nonneg_right ?_ (abs_nonneg _)⟩
        have hscale : (0 : ℚ) ≤ (1 + decimalError) ^ (5 * group.length) :=
          pow_nonneg (by linarith [decimalError_pos]) _
        exact hge.trans (mul_le_mul_of_nonneg_left hless hscale)

theorem priceBounds_added {next : Decimal} (hnext : InDirection next fill) (hsize : 0 < fill.size)
    (hprice : 0 < fill.price) (hprices : ∀ f ∈ group, 0 < f.price) :
    PriceBounds (group ++ [fill]) next (weightedMean decimalJs.round
      (accumulator.averageEntryPrice.getD 0) |accumulator.netQuantity| fill.price fill.size) := by
  obtain ⟨⟨low, hlow, hlowSide, hlow0, hlowLe, hlowNotional⟩,
    ⟨high, hhigh, hhighSide, hhigh0, hhighLe, hhighNotional⟩⟩ :=
    exists_bounds_of_adds h hside hprice hprices
  have hu := decimalError_pos.le
  have hshrink : (0 : ℚ) ≤ (1 - decimalError) ^ (5 * group.length) :=
    pow_nonneg (by linarith [decimalError_le]) _
  have hlength : 5 * (group ++ [fill]).length = 5 + 5 * group.length := by
    rw [List.length_append, List.length_singleton]
    ring
  have hnet := abs_nonneg accumulator.netQuantity
  have hlowPrice : (1 - decimalError) ^ (5 * group.length) * low.price ≤ fill.price := by
    have hone := shrink_mono (5 * group.length) (Nat.zero_le _) hlow0.le
    rw [pow_zero, one_mul] at hone
    exact hone.trans hlowLe
  have hhighPrice : fill.price ≤ (1 + decimalError) ^ (5 * group.length) * high.price := by
    have hone := grow_mono (5 * group.length) (Nat.zero_le _) hhigh0.le
    rw [pow_zero, one_mul] at hone
    exact hhighLe.trans hone
  constructor
  · refine ⟨low, hlow, inDirection_of_side_eq hnext hlowSide, ?_⟩
    rw [hlength, pow_add, mul_assoc]
    exact le_weightedMean hu decimalError_le hasRelativeError_decimalJs
      (mul_nonneg hshrink hlow0.le) hnet hsize hlowNotional
      (mul_le_mul_of_nonneg_right hlowPrice hsize.le)
  · refine ⟨high, hhigh, inDirection_of_side_eq hnext hhighSide, ?_⟩
    rw [hlength, pow_add, mul_assoc]
    have hnotional : 0 ≤ accumulator.averageEntryPrice.getD 0 * |accumulator.netQuantity| :=
      (mul_nonneg (mul_nonneg hshrink hlow0.le) hnet).trans hlowNotional
    exact weightedMean_le hu decimalError_le hasRelativeError_decimalJs hnotional
      (mul_nonneg hprice.le hsize.le) hnet hsize hhighNotional
      (mul_le_mul_of_nonneg_right hhighPrice hsize.le)

end

theorem ledgerNet_concat (group : List InternalDerivativeFillRecord)
    (fill : InternalDerivativeFillRecord) :
    ledgerNet (group ++ [fill]) = (ledgerNet group).plus (signedSize fill) := by
  rw [ledgerNet, List.map_append, List.map_singleton, runningSum_concat]
  rfl

theorem executed_concat (side : OrderSide) (group : List InternalDerivativeFillRecord)
    (fill : InternalDerivativeFillRecord) :
    executed side (group ++ [fill]) =
      if fill.side = side then (executed side group).plus fill.size else executed side group := by
  unfold executed sizesOf
  rw [List.filter_append, List.map_append]
  split_ifs with hside
  · rw [List.filter_singleton]
    simp only [hside, decide_true, cond_true, List.map_singleton, runningSum_concat]
    rfl
  · simp [hside]

/-- One fill keeps the account of its market. -/
theorem tracks_applyFill (h : Tracks group accumulator) (hsize : 0 < fill.size)
    (hprice : 0 < fill.price) (hprices : ∀ f ∈ group, 0 < f.price) :
    Tracks (group ++ [fill]) (applyFillToAccumulator accumulator fill) := by
  refine ⟨?_, ?_, ?_, fun hnext => ?_⟩
  · rw [netQuantity_applyFill, ledgerNet_concat, h.net]
  · rw [executedBuyQuantity_applyFill, executed_concat, h.buys]
    cases fill.side <;> rfl
  · rw [executedSellQuantity_applyFill, executed_concat, h.sells]
    cases fill.side <;> rfl
  · cases applyFill_cases accumulator hsize with
    | adds hside hdirection haverage =>
      exact ⟨_, haverage, priceBounds_added h hside hdirection hsize hprice hprices⟩
    | reduces hnet hside haverage =>
      obtain ⟨average, hold, hbounds⟩ := h.average hnet
      exact ⟨average, haverage.trans hold, hbounds.concat hprices hside fill⟩
    | closes hzero => exact absurd hzero hnext
    | turns hdirection haverage =>
      exact ⟨fill.price, haverage, priceBounds_turned hdirection hprice⟩

end

/-! ## All fills -/

/-- The orders of a venue by their client ids; the last one of an id counts. -/
def ordersById (orders : List OrderView) : OrderedMap String OrderView :=
  orders.foldl (fun map order => map.set order.clientOrderId order)
    (OrderedMap.empty : OrderedMap String OrderView)

def marketKey (orders : List OrderView) (fill : InternalDerivativeFillRecord) : String :=
  fillKey ((ordersById orders).get? fill.clientOrderId) fill

def fillsOf (orders : List OrderView) (fills : List InternalDerivativeFillRecord) (key : String) :
    List InternalDerivativeFillRecord :=
  Grouping.group (marketKey orders) key (fills.insertionSort fun a b => a.filledAt ≤ b.filledAt)

section

variable {orders : List OrderView} {fills : List InternalDerivativeFillRecord}

/-- A market without fills has no accumulator, and the accumulator of any other market tracks its
fills. -/
def Accounted (orders : List OrderView) (fills : List InternalDerivativeFillRecord)
    (grouped : OrderedMap String PositionAccumulator) (key : String) : Prop :=
  (Grouping.group (marketKey orders) key fills = [] ∧ grouped.get? key = none) ∨
    ∃ accumulator, grouped.get? key = some accumulator ∧
      Tracks (Grouping.group (marketKey orders) key fills) accumulator

variable {fill : InternalDerivativeFillRecord} {grouped : OrderedMap String PositionAccumulator}

/-- The accumulator that a fill goes to has tracked the earlier fills of its market. -/
theorem exists_tracks_addFill (h : Accounted orders fills grouped (marketKey orders fill)) :
    ∃ before, Tracks (Grouping.group (marketKey orders) (marketKey orders fill) fills) before ∧
      addFill (ordersById orders) grouped fill =
        grouped.set (marketKey orders fill) (applyFillToAccumulator before fill) := by
  refine ⟨_, ?_, rfl⟩
  rcases h with ⟨hempty, hnone⟩ | ⟨accumulator, hsome, htracks⟩
  · rw [show grouped.get? (fillKey ((ordersById orders).get? fill.clientOrderId) fill) = none
      from hnone, hempty]
    exact ⟨rfl, rfl, rfl, fun h => absurd rfl h⟩
  · rw [show grouped.get? (fillKey ((ordersById orders).get? fill.clientOrderId) fill) =
      some accumulator from hsome]
    exact ⟨htracks.net, htracks.buys, htracks.sells, htracks.average⟩

theorem accounted_addFill (h : ∀ key, Accounted orders fills grouped key) (hsize : 0 < fill.size)
    (hprice : 0 < fill.price) (hprices : ∀ f ∈ fills, 0 < f.price) (key : String) :
    Accounted orders (fills ++ [fill]) (addFill (ordersById orders) grouped fill) key := by
  obtain ⟨before, htracks, hadd⟩ := exists_tracks_addFill (h (marketKey orders fill))
  rw [hadd]
  by_cases hkey : marketKey orders fill = key
  · refine .inr ⟨_, by rw [hkey, OrderedMap.get?_set_self], ?_⟩
    rw [Grouping.group_append_singleton, if_pos hkey, ← hkey]
    exact tracks_applyFill htracks hsize hprice fun f hf => hprices f (List.mem_of_mem_filter hf)
  · unfold Accounted
    rw [Grouping.group_append_singleton, if_neg hkey, OrderedMap.get?_set_of_ne _ hkey]
    exact h key

theorem accounted_groupFills (orders : List OrderView)
    (hfills : ∀ f ∈ fills, 0 < f.size ∧ 0 < f.price) (key : String) :
    Accounted orders (fills.insertionSort fun a b => a.filledAt ≤ b.filledAt)
      (groupFills orders fills) key := by
  have hrun : ∀ sorted : List InternalDerivativeFillRecord,
      (∀ f ∈ sorted, 0 < f.size ∧ 0 < f.price) → ∀ key,
        Accounted orders sorted (sorted.foldl (addFill (ordersById orders)) OrderedMap.empty) key := by
    intro sorted
    induction sorted using List.reverseRecOn with
    | nil => exact fun _ key => .inl ⟨rfl, rfl⟩
    | append_singleton sorted fill ih =>
      intro hsorted key
      have hbefore := fun f hf => hsorted f (List.mem_append_left _ hf)
      obtain ⟨hsize, hprice⟩ := hsorted fill (by simp)
      rw [List.foldl_concat]
      exact accounted_addFill (ih hbefore) hsize hprice (fun f hf => (hbefore f hf).2) key
  exact hrun _ (fun f hf => hfills f ((List.mem_insertionSort _).1 hf)) key

theorem mem_buildPositionState {localeLe : String → String → Bool}
    {position : InternalDerivativePositionEntry} :
    position ∈ buildPositionState localeLe orders fills ↔ ∃ key accumulator,
      (groupFills orders fills).get? key = some accumulator ∧ accumulator.netQuantity ≠ 0 ∧
        position = toPosition key accumulator := by
  rw [buildPositionState, List.mem_insertionSort, List.mem_map]
  constructor
  · rintro ⟨⟨key, accumulator⟩, hmem, rfl⟩
    obtain ⟨hentry, hnet⟩ := List.mem_filter.1 hmem
    exact ⟨key, accumulator, OrderedMap.get?_eq_some_iff.2 hentry, of_decide_eq_true hnet, rfl⟩
  · rintro ⟨key, accumulator, hget, hnet, rfl⟩
    refine ⟨(key, accumulator), List.mem_filter.2 ⟨OrderedMap.get?_eq_some_iff.1 hget, ?_⟩, rfl⟩
    exact decide_eq_true hnet

end

/-! ## Quantities -/

section

variable {group : List InternalDerivativeFillRecord}

def bought (group : List InternalDerivativeFillRecord) : ℚ := (sizesOf .buy group).sum

def sold (group : List InternalDerivativeFillRecord) : ℚ := (sizesOf .sell group).sum

theorem sum_signedSize (group : List InternalDerivativeFillRecord) :
    (group.map signedSize).sum = bought group - sold group := by
  induction group with
  | nil => simp [bought, sold, sizesOf]
  | cons fill group ih =>
    rw [List.map_cons, List.sum_cons, ih]
    cases hside : fill.side <;>
      simp [bought, sold, sizesOf, signedSize, signedQuantity, hside] <;> ring

theorem sum_abs_signedSize (h : ∀ f ∈ group, 0 < f.size) :
    ((group.map signedSize).map fun x => |x|).sum = bought group + sold group := by
  induction group with
  | nil => simp [bought, sold, sizesOf]
  | cons fill group ih =>
    rw [List.forall_mem_cons] at h
    rw [List.map_cons, List.map_cons, List.sum_cons, ih h.2, abs_signedSize h.1]
    cases hside : fill.side <;> simp [bought, sold, sizesOf, hside] <;> ring

theorem abs_ledgerNet_sub_le (h : ∀ f ∈ group, 0 < f.size) :
    |ledgerNet group - (bought group - sold group)| ≤
      ((1 + decimalError) ^ group.length - 1) * (bought group + sold group) := by
  have hsum := abs_runningSum_sub_le decimalError_pos.le hasRelativeError_decimalJs
    (group.map signedSize)
  rwa [sum_signedSize, sum_abs_signedSize h, List.length_map] at hsum

/-- Sizes and prices with eight places, in markets whose amounts have at most twenty digits. -/
structure EightPlaces (group : List InternalDerivativeFillRecord) : Prop where
  sizes : ∀ f ∈ group, f.size ∈ Decimal.Places 8
  prices : ∀ f ∈ group, f.price ∈ Decimal.Places 8
  traded : bought group + sold group ≤ 10 ^ 12
  turnover : ∀ f ∈ group, group.length * f.price < 10 ^ 10

theorem keep_of_eightPlaces {x : ℚ} (hx : x ∈ Decimal.Places 8) (hbound : |x| ≤ 10 ^ 12) :
    decimalJs.round x = x :=
  Decimal.round_of_exact (k := -(8 : ℕ)) ⟨hx, by norm_num; exact_mod_cast hbound⟩

theorem ledgerNet_eq (hsizes : ∀ f ∈ group, 0 < f.size) (h : EightPlaces group) :
    ledgerNet group = bought group - sold group := by
  rw [← sum_signedSize]
  refine runningSum_eq_sum (fun x hx hbound => keep_of_eightPlaces hx hbound) ?_ ?_
  · intro x hx
    obtain ⟨f, hf, rfl⟩ := List.mem_map.1 hx
    unfold signedSize signedQuantity
    cases f.side with
    | buy => exact h.sizes f hf
    | sell => exact neg_mem (h.sizes f hf)
  · rw [sum_abs_signedSize hsizes]
    exact h.traded

theorem executed_eq (side : OrderSide) (hsizes : ∀ f ∈ group, 0 < f.size) (h : EightPlaces group) :
    executed side group = (sizesOf side group).sum := by
  have hmem : ∀ {side' : OrderSide}, ∀ x ∈ sizesOf side' group, 0 ≤ x ∧ x ∈ Decimal.Places 8 := by
    intro side' x hx
    obtain ⟨f, hf, rfl⟩ := List.mem_map.1 hx
    have hgroup := List.mem_of_mem_filter hf
    exact ⟨(hsizes f hgroup).le, h.sizes f hgroup⟩
  have habs : ((sizesOf side group).map fun x => |x|) = sizesOf side group := by
    conv_rhs => rw [← List.map_id (sizesOf side group)]
    exact List.map_congr_left fun x hx => abs_of_nonneg (hmem x hx).1
  refine runningSum_eq_sum (fun x hx hbound => keep_of_eightPlaces hx hbound)
    (fun x hx => (hmem x hx).2) ?_
  have hbought : 0 ≤ bought group := List.sum_nonneg fun x hx => (hmem x hx).1
  have hsold : 0 ≤ sold group := List.sum_nonneg fun x hx => (hmem x hx).1
  have htraded := h.traded
  rw [habs]
  cases side with
  | buy => exact (le_add_of_nonneg_right hsold).trans htraded
  | sell => exact (le_add_of_nonneg_left hbought).trans htraded

/-! ## Average prices with eight places -/

theorem one_sub_le_shrink (n : ℕ) : 1 - 5 * n * decimalError ≤ (1 - decimalError) ^ (5 * n) := by
  have hbernoulli := one_add_mul_le_pow (a := -decimalError) (by linarith [decimalError_le]) (5 * n)
  rw [← sub_eq_add_neg] at hbernoulli
  push_cast at hbernoulli
  linarith

theorem grow_le_one_add {n : ℕ} (h : 5 * n * decimalError ≤ 1 / 2) :
    (1 + decimalError) ^ (5 * n) ≤ 1 + 2 * (5 * n * decimalError) := by
  set t := 5 * n * decimalError with ht
  have ht0 : 0 ≤ t := mul_nonneg (by positivity) decimalError_pos.le
  have hgrow : (0 : ℚ) ≤ (1 + decimalError) ^ (5 * n) := pow_nonneg (by linarith [decimalError_pos]) _
  have hproduct : (1 + decimalError) ^ (5 * n) * (1 - decimalError) ^ (5 * n) ≤ 1 := by
    rw [← mul_pow]
    exact pow_le_one₀ (by norm_num [decimalError]) (by norm_num [decimalError])
  have hscaled : (1 + decimalError) ^ (5 * n) * (1 - t) ≤ (1 + 2 * t) * (1 - t) := by
    calc (1 + decimalError) ^ (5 * n) * (1 - t)
        ≤ (1 + decimalError) ^ (5 * n) * (1 - decimalError) ^ (5 * n) :=
          mul_le_mul_of_nonneg_left (one_sub_le_shrink n) hgrow
      _ ≤ 1 := hproduct
      _ ≤ (1 + 2 * t) * (1 - t) := by nlinarith
  exact le_of_mul_le_mul_right hscaled (by linarith)

theorem shrink_near {n : ℕ} {price : ℚ} (hprice : 0 ≤ price) (h : n * price < 10 ^ 10) :
    price - (1 - decimalError) ^ (5 * n) * price < Decimal.unitOf 8 / 2 := by
  have hscaled := mul_le_mul_of_nonneg_right (one_sub_le_shrink n) hprice
  have hsmall : 5 * n * decimalError * price < Decimal.unitOf 8 / 2 := by
    norm_num [decimalError, Decimal.unitOf]
    linarith
  linarith

theorem grow_near {n : ℕ} {price : ℚ} (hprice : Decimal.unitOf 8 ≤ price)
    (h : n * price < 10 ^ 10) :
    (1 + decimalError) ^ (5 * n) * price - price < Decimal.unitOf 8 / 2 := by
  have hunit := Decimal.unitOf_pos 8
  have hcount : 5 * n * decimalError ≤ 1 / 2 := by
    have hn : (n : ℚ) * Decimal.unitOf 8 ≤ n * price :=
      mul_le_mul_of_nonneg_left hprice (Nat.cast_nonneg n)
    norm_num [Decimal.unitOf] at hn
    norm_num [decimalError]
    linarith
  have hscaled := mul_le_mul_of_nonneg_right (grow_le_one_add hcount) (hunit.le.trans hprice)
  have hsmall : 2 * (5 * n * decimalError) * price < Decimal.unitOf 8 / 2 := by
    norm_num [decimalError, Decimal.unitOf]
    linarith
  linarith

/-! ## Positions -/

structure LedgerPosition (group : List InternalDerivativeFillRecord)
    (position : InternalDerivativePositionEntry) : Prop where
  notFlat : ledgerNet group ≠ 0
  netQuantity : position.netQuantity = normaliseDecimal (ledgerNet group)
  side : position.side = positionSide (ledgerNet group)
  executedBuyQuantity : position.executedBuyQuantity = normaliseDecimal (executed .buy group)
  executedSellQuantity : position.executedSellQuantity = normaliseDecimal (executed .sell group)
  averageEntryPrice : ∃ average, position.averageEntryPrice = some (normaliseDecimal average) ∧
    PriceBounds group (ledgerNet group) average

structure ExactPosition (group : List InternalDerivativeFillRecord)
    (position : InternalDerivativePositionEntry) : Prop where
  notFlat : position.netQuantity ≠ 0
  netQuantity : position.netQuantity = bought group - sold group
  side : position.side = positionSide position.netQuantity
  executedBuyQuantity : position.executedBuyQuantity = bought group
  executedSellQuantity : position.executedSellQuantity = sold group
  averageEntryPrice : ∃ average, position.averageEntryPrice = some average ∧
    (∃ low ∈ group, InDirection position.netQuantity low ∧ low.price ≤ average) ∧
      ∃ high ∈ group, InDirection position.netQuantity high ∧ average ≤ high.price

theorem ledgerPosition_toPosition {accumulator : PositionAccumulator} (key : String)
    (htracks : Tracks group accumulator) (hnet : accumulator.netQuantity ≠ 0) :
    LedgerPosition group (toPosition key accumulator) := by
  obtain ⟨average, haverage, hbounds⟩ := htracks.average hnet
  rw [htracks.net] at hnet hbounds
  exact ⟨hnet, congrArg normaliseDecimal htracks.net, congrArg positionSide htracks.net,
    congrArg normaliseDecimal htracks.buys, congrArg normaliseDecimal htracks.sells, average,
    congrArg (Option.map normaliseDecimal) haverage, hbounds⟩

theorem sizesOf_mem_places {side : OrderSide} (h : EightPlaces group) :
    (sizesOf side group).sum ∈ Decimal.Places 8 := by
  refine list_sum_mem fun x hx => ?_
  obtain ⟨f, hf, rfl⟩ := List.mem_map.1 hx
  exact h.sizes f (List.mem_of_mem_filter hf)

/-- With eight places a position says what its market's fills say. -/
theorem LedgerPosition.exact {position : InternalDerivativePositionEntry}
    (h : LedgerPosition group position) (hfills : ∀ f ∈ group, 0 < f.size ∧ 0 < f.price)
    (h8 : EightPlaces group) : ExactPosition group position := by
  have hsizes : ∀ f ∈ group, 0 < f.size := fun f hf => (hfills f hf).1
  have hledger := ledgerNet_eq hsizes h8
  have hnet : position.netQuantity = ledgerNet group := by
    rw [h.netQuantity, hledger]
    exact Decimal.roundPlaces_of_mem (sub_mem (sizesOf_mem_places h8) (sizesOf_mem_places h8))
  have hexecuted : ∀ side, normaliseDecimal (executed side group) = (sizesOf side group).sum := by
    intro side
    rw [executed_eq side hsizes h8]
    exact Decimal.roundPlaces_of_mem (sizesOf_mem_places h8)
  obtain ⟨average, haverage, ⟨low, hlow, hlowSide, hle⟩, ⟨high, hhigh, hhighSide, hge⟩⟩ :=
    h.averageEntryPrice
  refine ⟨hnet ▸ h.notFlat, hnet.trans hledger, hnet ▸ h.side,
    h.executedBuyQuantity.trans (hexecuted .buy), h.executedSellQuantity.trans (hexecuted .sell),
    normaliseDecimal average, haverage, ⟨low, hlow, hnet ▸ hlowSide, ?_⟩,
    ⟨high, hhigh, hnet ▸ hhighSide, ?_⟩⟩
  · have hprice := (hfills low hlow).2
    have hnear : Decimal.roundPlaces ((1 - decimalError) ^ (5 * group.length) * low.price) 8 =
        low.price := by
      refine Decimal.roundPlaces_of_near (h8.prices low hlow) ?_
      rw [abs_sub_comm, abs_of_nonneg]
      · exact shrink_near hprice.le (h8.turnover low hlow)
      · have := shrink_mono (5 * group.length) (Nat.zero_le _) hprice.le
        rw [pow_zero, one_mul] at this
        linarith
    rw [← hnear]
    exact Decimal.roundPlaces_mono hle 8
  · have hprice := (hfills high hhigh).2
    have hnear : Decimal.roundPlaces ((1 + decimalError) ^ (5 * group.length) * high.price) 8 =
        high.price := by
      refine Decimal.roundPlaces_of_near (h8.prices high hhigh) ?_
      rw [abs_of_nonneg]
      · exact grow_near (Decimal.unitOf_le hprice (h8.prices high hhigh)) (h8.turnover high hhigh)
      · have := grow_mono (5 * group.length) (Nat.zero_le _) hprice.le
        rw [pow_zero, one_mul] at this
        linarith
    conv_rhs => rw [← hnear]
    exact Decimal.roundPlaces_mono hge 8

end

structure PositionsCorrect (localeLe : String → String → Bool) (orders : List OrderView)
    (fills : List InternalDerivativeFillRecord) : Prop where
  sound : ∀ position ∈ buildPositionState localeLe orders fills,
    ∃ key, LedgerPosition (fillsOf orders fills key) position
  complete : ∀ key, ledgerNet (fillsOf orders fills key) ≠ 0 →
    ∃ position ∈ buildPositionState localeLe orders fills,
      LedgerPosition (fillsOf orders fills key) position
  error : ∀ key, |ledgerNet (fillsOf orders fills key) -
      (bought (fillsOf orders fills key) - sold (fillsOf orders fills key))| ≤
    ((1 + decimalError) ^ (fillsOf orders fills key).length - 1) *
      (bought (fillsOf orders fills key) + sold (fillsOf orders fills key))
  exact : ∀ key position, EightPlaces (fillsOf orders fills key) →
    LedgerPosition (fillsOf orders fills key) position →
      ExactPosition (fillsOf orders fills key) position
  divisor : ∀ accumulator : PositionAccumulator, ∀ fill ∈ fills,
    Decimal.plus |accumulator.netQuantity| |signedQuantity fill.size fill.side| ≠ 0

/-- The positions account for their fills, through any sequence of fills of positive size and
price. -/
theorem buildPositionState_correct (localeLe : String → String → Bool) (orders : List OrderView)
    (fills : List InternalDerivativeFillRecord) (hfills : ∀ f ∈ fills, 0 < f.size ∧ 0 < f.price) :
    PositionsCorrect localeLe orders fills := by
  have hgroup : ∀ {key : String}, ∀ f ∈ fillsOf orders fills key, 0 < f.size ∧ 0 < f.price :=
    fun f hf => hfills f ((List.mem_insertionSort _).1 (List.mem_of_mem_filter hf))
  refine ⟨fun position hposition => ?_, fun key hnet => ?_, fun key => ?_,
    fun key position h8 hposition => hposition.exact hgroup h8, fun accumulator fill hfill => ?_⟩
  · obtain ⟨key, accumulator, hget, hnet, rfl⟩ := mem_buildPositionState.1 hposition
    rcases accounted_groupFills orders hfills key with ⟨-, hnone⟩ | ⟨other, hsome, htracks⟩
    · rw [hget] at hnone
      cases hnone
    · obtain rfl := Option.some.inj (hget.symm.trans hsome)
      exact ⟨key, ledgerPosition_toPosition key htracks hnet⟩
  · rcases accounted_groupFills orders hfills key with
      ⟨hempty, -⟩ | ⟨accumulator, hsome, htracks⟩
    · exact absurd (by rw [fillsOf, hempty]; rfl) hnet
    · have hne : accumulator.netQuantity ≠ 0 := htracks.net ▸ hnet
      exact ⟨toPosition key accumulator, mem_buildPositionState.2 ⟨key, accumulator, hsome, hne, rfl⟩,
        ledgerPosition_toPosition key htracks hne⟩
  · exact abs_ledgerNet_sub_le fun f hf => (hgroup f hf).1
  · have hsize : |signedQuantity fill.size fill.side| = fill.size :=
      abs_signedSize (hfills fill hfill).1
    rw [hsize]
    exact (plus_pos (add_pos_of_nonneg_of_pos (abs_nonneg _) (hfills fill hfill).1)).ne'

def fillOf (side : OrderSide) (size price : Decimal) (filledAt : Date) :
    InternalDerivativeFillRecord where
  venueId := "venue-a"
  venueOrderId := "venue-order-1"
  clientOrderId := "order-1"
  asset := "BTC"
  side := side
  size := size
  price := price
  fee := 0
  feeAsset := none
  reduceOnly := false
  filledAt := filledAt
  marketIdentity := none
  metadata := OrderedMap.empty

/-- A long position that a sale turns around. -/
theorem buildPositionState_correct_turned :
    PositionsCorrect (fun _ _ => true) [] [fillOf .buy 2 100 0, fillOf .sell 3 110 1] ∧
      ((buildPositionState (fun _ _ => true) [] [fillOf .buy 2 100 0, fillOf .sell 3 110 1]).map
        fun p => (p.side, p.netQuantity, p.averageEntryPrice)) = [(.short, -1, some 110)] :=
  ⟨buildPositionState_correct _ _ _ (by decide +kernel), by decide +kernel⟩

/-- Amounts below eight places are written as zero, and sums and averages of more than twenty digits
are rounded. -/
theorem buildPositionState_rounds :
    ((buildPositionState (fun _ _ => true) []
        [fillOf .buy (1 / 10 ^ 9) (1 / 10 ^ 9) 0]).map
      fun p => (p.side, p.netQuantity, p.averageEntryPrice)) = [(.long, 0, some 0)] ∧
    ((buildPositionState (fun _ _ => true) [] [fillOf .buy 3 99999999999999999999 0]).map
      fun p => p.averageEntryPrice) = [some 100000000000000000000] ∧
    ((buildPositionState (fun _ _ => true) []
        [fillOf .buy 100000000000000000000 1 0, fillOf .buy 1 1 1]).map
      fun p => p.netQuantity) = [100000000000000000000] := by
  decide +kernel

end InternalDerivativeState

end SentinelApex
