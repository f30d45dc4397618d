import SentinelApex.StrategyEngine.PortfolioStateTracker
import SentinelApex.VenueAdapters.SimulatedVenue
import Mathlib.Algebra.Group.Submonoid.BigOperators

/-!
# NAV of a simulated venue

The tracked NAV is the sum of the stablecoin balances and of the unsigned notionals of the
positions. A trade at the mark moves its cost between the two, but a short position counts with the
sign of a long one: opening it raises NAV by twice its notional, closing it lowers NAV by as much.
-/

namespace SentinelApex

open PortfolioStateTracker

/-! ## Sums that need no rounding -/

def absSum {V : Type} (f : String → V → Decimal) (m : OrderedMap String V) : Decimal :=
  m.sumOf fun key v => |f key v|

/-- The amounts of a map are multiples of `10 ^ k`. -/
def OnGrid {V : Type} (k : ℤ) (f : String → V → Decimal) (m : OrderedMap String V) : Prop :=
  ∀ e ∈ m.entries, f e.1 e.2 ∈ decimalJs.grid k

section

variable {V : Type} {k : ℤ} {f : String → V → Decimal} {m : OrderedMap String V}

theorem absSum_nonneg (f : String → V → Decimal) (m : OrderedMap String V) : 0 ≤ absSum f m := by
  apply List.sum_nonneg
  intro x hx
  obtain ⟨e, -, rfl⟩ := List.mem_map.1 hx
  exact abs_nonneg _

theorem OnGrid.contribution (h : OnGrid k f m) (key : String) :
    m.contribution f key ∈ decimalJs.grid k := by
  unfold OrderedMap.contribution
  cases hget : m.get? key with
  | none => exact zero_mem _
  | some v => exact h _ (OrderedMap.mem_entries_of_get? hget)

theorem contribution_abs (f : String → V → Decimal) (m : OrderedMap String V) (key : String) :
    m.contribution (fun key v => |f key v|) key = |m.contribution f key| := by
  unfold OrderedMap.contribution
  cases m.get? key <;> simp

theorem abs_contribution_le (f : String → V → Decimal) (m : OrderedMap String V) (key : String) :
    |m.contribution f key| ≤ absSum f m := by
  unfold OrderedMap.contribution
  cases hget : m.get? key with
  | none => simpa using absSum_nonneg f m
  | some v =>
    have hmem : |f key v| ∈ m.entries.map fun e => |f e.1 e.2| :=
      List.mem_map.2 ⟨(key, v), OrderedMap.mem_entries_of_get? hget, rfl⟩
    refine List.single_le_sum (fun x hx => ?_) _ hmem
    obtain ⟨e, -, rfl⟩ := List.mem_map.1 hx
    exact abs_nonneg _

theorem OnGrid.sumOf (h : OnGrid k f m) : m.sumOf f ∈ decimalJs.grid k := by
  apply list_sum_mem
  intro x hx
  obtain ⟨e, he, rfl⟩ := List.mem_map.1 hx
  exact h e he

theorem abs_sumOf_le (f : String → V → Decimal) (m : OrderedMap String V) :
    |m.sumOf f| ≤ absSum f m := by
  have key : ∀ es : List (String × V),
      |(es.map fun e => f e.1 e.2).sum| ≤ (es.map fun e => |f e.1 e.2|).sum := by
    intro es
    induction es with
    | nil => simp
    | cons e es ih =>
      simp only [List.map_cons, List.sum_cons]
      exact (abs_add_le _ _).trans (add_le_add_right ih _)
  exact key m.entries

theorem absSum_set_le {key : String} {v : V} {d : Decimal}
    (h : |f key v| ≤ |m.contribution f key| + d) : absSum f (m.set key v) ≤ absSum f m + d := by
  unfold absSum
  rw [OrderedMap.sumOf_set, contribution_abs]
  linarith

theorem absSum_erase_le (key : String) : absSum f (m.erase key) ≤ absSum f m := by
  unfold absSum
  rw [OrderedMap.sumOf_erase, contribution_abs]
  linarith [abs_nonneg (m.contribution f key)]

theorem OnGrid.set (h : OnGrid k f m) {key : String} {v : V} (hv : f key v ∈ decimalJs.grid k) :
    OnGrid k f (m.set key v) :=
  OrderedMap.forall_entries_set h hv

theorem OnGrid.erase (h : OnGrid k f m) (key : String) : OnGrid k f (m.erase key) :=
  OrderedMap.forall_entries_erase h key

end

variable {venue : SimulatedVenue} {asset : String} {params : PlaceOrderParams} {price : Decimal}
  {k j : ℤ}

namespace SimulatedVenue

/-- What a balance adds to NAV. -/
def stableValue (asset : String) (total : Decimal) : Decimal :=
  if asset ∈ stablecoins then total else 0

def positionValue (config : SimulatedVenueConfig) (asset : String) (pos : InternalPosition) :
    Decimal :=
  pos.size * (config.deterministicPrices.get? asset).getD pos.entryPrice

def navOf (sleeveId : String) (venue : SimulatedVenue) : Decimal :=
  (refresh sleeveId (OrderedMap.ofList [(venue.config.venueId, venue.answers)])).totalNav

/-- NAV is computed without rounding: its amounts are multiples of `10 ^ k` and add up to at most
twenty digits. -/
structure ExactNav (k : ℤ) (venue : SimulatedVenue) : Prop where
  balances : OnGrid k stableValue venue.balances
  positions : OnGrid k (positionValue venue.config) venue.positions
  bound : absSum stableValue venue.balances +
    absSum (positionValue venue.config) venue.positions ≤ 10 ^ (k + 20)

/-! ## The reported NAV -/

theorem currentPrice_eq (venue : SimulatedVenue) (asset : String) (pos : InternalPosition) :
    venue.currentPrice asset pos =
      (venue.config.deterministicPrices.get? asset).getD pos.entryPrice := by
  unfold currentPrice getPrice
  cases venue.config.deterministicPrices.get? asset <;> rfl

theorem notional_answers (venue : SimulatedVenue) (n : ℕ) (asset : String)
    (pos : InternalPosition) :
    notional venue.answers n (venue.toVenuePosition asset pos) =
      .ok (pos.size.times (venue.currentPrice asset pos)) := by
  have hmark : ((venue.answers.getMarketData n asset).bind fun md => newDecimal md.markPrice) =
      venue.getPrice asset := by
    show ((venue.getMarketData asset).bind fun md => newDecimal md.markPrice) = _
    unfold getMarketData
    cases venue.getPrice asset <;> rfl
  have hasset : (venue.toVenuePosition asset pos).asset = asset := rfl
  simp only [notional, hasset, hmark]
  cases hp : venue.getPrice asset with
  | ok price | error e =>
    simp [toVenuePosition, currentPrice, hp, newDecimal, bind, Except.bind, pure, Except.pure]

theorem addBalances_cons_stable (bal : AccountBalance) {total available : Decimal}
    (hstable : bal.asset ∈ stablecoins) (htotal : bal.total = some total)
    (havailable : bal.available = some available) (balances : List AccountBalance) (b : Decimal)
    (totals : Totals) :
    addBalances (bal :: balances) b totals = addBalances balances (b.plus total)
      { totals with totalLiquidity := totals.totalLiquidity.plus available } := by
  simp only [addBalances, hstable, if_true, htotal, havailable, newDecimal]

theorem addBalances_cons_other (bal : AccountBalance) (hstable : bal.asset ∉ stablecoins)
    (balances : List AccountBalance) (b : Decimal) (totals : Totals) :
    addBalances (bal :: balances) b totals = addBalances balances b totals := by
  simp only [addBalances, hstable, if_false]

variable {c size : Decimal}

theorem addBalances_exact (venue : SimulatedVenue) (es : List (String × Decimal)) {b : Decimal}
    (totals : Totals) (hb : b ∈ decimalJs.grid k) (hbc : |b| ≤ c)
    (hes : ∀ e ∈ es, stableValue e.1 e.2 ∈ decimalJs.grid k)
    (hbound : c + (es.map fun e => |stableValue e.1 e.2|).sum ≤ 10 ^ (k + 20)) :
    ∃ liquidity, addBalances (es.map fun e => venue.toAccountBalance e.1 e.2) b totals =
      (.ok (b + (es.map fun e => stableValue e.1 e.2).sum),
        { totals with totalLiquidity := liquidity }) := by
  induction es generalizing b c totals with
  | nil => exact ⟨totals.totalLiquidity, by simp [addBalances]⟩
  | cons e es ih =>
    simp only [List.forall_mem_cons, List.map_cons, List.sum_cons] at hes hbound ⊢
    have hrest : 0 ≤ (es.map fun e => |stableValue e.1 e.2|).sum := by
      apply List.sum_nonneg
      intro x hx
      obtain ⟨e', -, rfl⟩ := List.mem_map.1 hx
      exact abs_nonneg _
    by_cases hstable : e.1 ∈ stablecoins
    · have hvalue : stableValue e.1 e.2 = e.2 := if_pos hstable
      rw [hvalue] at hes hbound ⊢
      have hplus : b.plus e.2 = b + e.2 :=
        Decimal.plus_eq_add_of_le hb hes.1 hbc le_rfl (by linarith)
      set available := max (e.2.minus (venue.lockedBalance e.1)) 0
      obtain ⟨liquidity, heq⟩ := ih (b := b + e.2) (c := c + |e.2|)
        { totals with totalLiquidity := totals.totalLiquidity.plus available }
        (add_mem hb hes.1) ((abs_add_le b e.2).trans (add_le_add_left hbc _)) hes.2 (by linarith)
      refine ⟨liquidity, ?_⟩
      rw [addBalances_cons_stable (venue.toAccountBalance e.1 e.2) hstable rfl rfl, hplus,
        ← add_assoc]
      exact heq
    · have hvalue : stableValue e.1 e.2 = 0 := if_neg hstable
      rw [hvalue] at hbound ⊢
      obtain ⟨liquidity, heq⟩ := ih totals hb hbc hes.2 (by simpa using hbound)
      refine ⟨liquidity, ?_⟩
      rw [addBalances_cons_other (venue.toAccountBalance e.1 e.2) hstable, zero_add]
      exact heq

theorem addPositions_exact (venue : SimulatedVenue) (es : List (String × InternalPosition)) (n : ℕ)
    (venueExposure : Decimal) (totals : Totals) (hg : totals.grossExposure ∈ decimalJs.grid k)
    (hgc : |totals.grossExposure| ≤ c)
    (hes : ∀ e ∈ es, positionValue venue.config e.1 e.2 ∈ decimalJs.grid k) (hc : 0 ≤ c)
    (hbound : c + (es.map fun e => |positionValue venue.config e.1 e.2|).sum ≤ 10 ^ (k + 20)) :
    ∃ venueExposure' totals', addPositions venue.answers n
        ((es.filter fun e => e.2.size ≠ 0).map fun e => venue.toVenuePosition e.1 e.2)
        venueExposure totals = (.ok venueExposure', totals') ∧
      totals'.totalNav = totals.totalNav ∧
      totals'.grossExposure =
        totals.grossExposure + (es.map fun e => positionValue venue.config e.1 e.2).sum := by
  induction es generalizing n venueExposure c totals with
  | nil => exact ⟨venueExposure, totals, rfl, rfl, by simp⟩
  | cons e es ih =>
    simp only [List.forall_mem_cons, List.map_cons, List.sum_cons] at hes hbound ⊢
    have hrest : 0 ≤ (es.map fun e => |positionValue venue.config e.1 e.2|).sum := by
      apply List.sum_nonneg
      intro x hx
      obtain ⟨e', -, rfl⟩ := List.mem_map.1 hx
      exact abs_nonneg _
    by_cases hzero : e.2.size = 0
    · have hvalue : positionValue venue.config e.1 e.2 = 0 := by simp [positionValue, hzero]
      rw [hvalue] at hbound ⊢
      obtain ⟨v, t, heq, hnav, hgross⟩ :=
        ih n venueExposure totals hg hgc hes.2 hc (by simpa using hbound)
      exact ⟨v, t, by simpa [List.filter_cons, hzero] using heq, hnav, by rw [hgross, zero_add]⟩
    · set x := positionValue venue.config e.1 e.2 with hx
      have htimes : e.2.size.times (venue.currentPrice e.1 e.2) = x := by
        rw [currentPrice_eq]
        refine Decimal.times_eq_mul (k := k) ⟨hes.1, ?_⟩
        show |x| ≤ _
        linarith
      have hplus : totals.grossExposure.plus x = totals.grossExposure + x :=
        Decimal.plus_eq_add_of_le hg hes.1 hgc le_rfl (by linarith)
      obtain ⟨v, t, heq, hnav, hgross⟩ := ih (n + 1) (venueExposure.plus x)
        (c := c + |x|) (totals.addPosition (venue.toVenuePosition e.1 e.2) x)
        (by show totals.grossExposure.plus x ∈ _; rw [hplus]; exact add_mem hg hes.1)
        (by
          show |totals.grossExposure.plus x| ≤ _
          rw [hplus]
          exact (abs_add_le _ _).trans (add_le_add_left hgc _))
        hes.2 (by linarith [abs_nonneg x]) (by linarith)
      refine ⟨v, t, ?_, hnav, ?_⟩
      · simpa [List.filter_cons, hzero, addPositions, notional_answers, htimes] using heq
      · rw [hgross]
        show totals.grossExposure.plus x + _ = _
        rw [hplus, add_assoc]

theorem addVenue_of_ok {venueId : String} {answers : VenueAnswers} {totals totals₁ totals₂ : Totals}
    {balances : List AccountBalance} {positions : List VenuePosition} {b exposure : Decimal}
    (hbalances : answers.getBalances = .ok balances)
    (hadd : addBalances balances 0 totals = (.ok b, totals₁))
    (hpositions : answers.getPositions = .ok positions)
    (hloop : addPositions answers 0 positions ((totals₁.venueExposures.get? venueId).getD 0)
      { totals₁ with totalNav := totals₁.totalNav.plus b } = (.ok exposure, totals₂)) :
    addVenue venueId answers totals =
      { totals₂ with venueExposures := totals₂.venueExposures.set venueId exposure } := by
  unfold addVenue
  simp only [hbalances, hadd, hpositions, hloop]

theorem navOf_eq (h : ExactNav k venue) (sleeveId : String) :
    navOf sleeveId venue = venue.balances.sumOf stableValue +
      venue.positions.sumOf (positionValue venue.config) := by
  have hb := absSum_nonneg stableValue venue.balances
  have hp := absSum_nonneg (positionValue venue.config) venue.positions
  obtain ⟨liquidity, hbalances⟩ := addBalances_exact venue venue.balances.entries (b := 0) (c := 0)
    Totals.zero (zero_mem (decimalJs.grid k)) (by simp) h.balances
    (by
      show 0 + absSum stableValue venue.balances ≤ _
      linarith [h.bound])
  set quote := venue.balances.sumOf stableValue
  set gross := venue.positions.sumOf (positionValue venue.config)
  have hquote := abs_sumOf_le stableValue venue.balances
  have hgross := abs_sumOf_le (positionValue venue.config) venue.positions
  have hnav : Decimal.plus 0 (0 + quote) = quote := by
    have hexact : Decimal.Exact k (0 + (0 + quote)) := by
      simpa [Decimal.Exact] using ⟨h.balances.sumOf, by linarith [h.bound]⟩
    rw [Decimal.plus_eq_add hexact, zero_add, zero_add]
  have hsum : quote.plus gross = quote + gross :=
    Decimal.plus_eq_add_of_le h.balances.sumOf h.positions.sumOf hquote hgross h.bound
  obtain ⟨exposure, totals, hpositions, htotalNav, htotalGross⟩ := addPositions_exact (k := k)
    venue venue.positions.entries 0 0 (c := 0)
    { Totals.zero with totalLiquidity := liquidity, totalNav := quote }
    (zero_mem _) (by simp [Totals.zero]) h.positions le_rfl
    (by
      show 0 + absSum (positionValue venue.config) venue.positions ≤ _
      linarith [h.bound])
  have hvenue : addVenue venue.config.venueId venue.answers Totals.zero =
      { totals with
        venueExposures := totals.venueExposures.set venue.config.venueId exposure } := by
    refine addVenue_of_ok rfl hbalances rfl ?_
    show addPositions venue.answers 0 venue.getPositions 0
      { Totals.zero with
        totalLiquidity := liquidity, totalNav := Decimal.plus 0 (0 + quote) } = _
    rw [hnav]
    exact hpositions
  show ((addVenue venue.config.venueId venue.answers Totals.zero).toState sleeveId).totalNav = _
  rw [hvenue]
  show totals.totalNav.plus totals.grossExposure = _
  rw [htotalNav, htotalGross]
  show quote.plus (0 + gross) = _
  rw [zero_add, hsum]

/-! ## The effect of a fill on the balances -/

theorem adjustBalance_exact (asset : String) (delta : Decimal)
    (hgrid : OnGrid k stableValue venue.balances) (hc : absSum stableValue venue.balances ≤ c)
    (hdelta : stableValue asset delta ∈ decimalJs.grid k)
    (hbound : c + |stableValue asset delta| ≤ 10 ^ (k + 20)) :
    (venue.adjustBalance asset delta).balances.sumOf stableValue =
        venue.balances.sumOf stableValue + stableValue asset delta ∧
      OnGrid k stableValue (venue.adjustBalance asset delta).balances ∧
      absSum stableValue (venue.adjustBalance asset delta).balances ≤
        c + |stableValue asset delta| := by
  set old := venue.balances.contribution stableValue asset
  have hold := hgrid.contribution asset
  have hnew : stableValue asset (((venue.balances.get? asset).getD 0).plus delta) =
      old + stableValue asset delta := by
    by_cases hstable : asset ∈ stablecoins
    · have hcurrent : old = (venue.balances.get? asset).getD 0 := by
        show venue.balances.contribution stableValue asset = _
        unfold OrderedMap.contribution stableValue
        cases venue.balances.get? asset <;> simp [hstable]
      have hvalue : ∀ x, stableValue asset x = x := fun x => if_pos hstable
      rw [hvalue] at hdelta hbound
      rw [hvalue, hvalue, ← hcurrent]
      exact Decimal.plus_eq_add_of_le hold hdelta
        ((abs_contribution_le stableValue venue.balances asset).trans hc) le_rfl hbound
    · have hvalue : ∀ x, stableValue asset x = 0 := fun x => if_neg hstable
      have hold0 : old = 0 := by
        show venue.balances.contribution stableValue asset = _
        unfold OrderedMap.contribution
        cases venue.balances.get? asset <;> simp [hvalue]
      rw [hvalue, hvalue, hold0, add_zero]
  refine ⟨?_, ?_, ?_⟩
  · show (venue.balances.set _ _).sumOf stableValue = _
    rw [OrderedMap.sumOf_set, hnew]
    ring
  · refine hgrid.set ?_
    rw [hnew]
    exact add_mem hold hdelta
  · refine (absSum_set_le (d := |stableValue asset delta|) ?_).trans (add_le_add_left hc _)
    rw [hnew]
    exact abs_add_le _ _

/-! ## The effect of a fill on the position -/

def heldSize (venue : SimulatedVenue) (asset : String) : Decimal :=
  ((venue.positions.get? asset).map fun pos => pos.size).getD 0

def sizeAfter (venue : SimulatedVenue) (asset : String) (incomingSide : PositionSide)
    (size : Decimal) : Decimal :=
  match venue.positions.get? asset with
  | none => size
  | some pos => if pos.side = incomingSide then pos.size + size else |pos.size - size|

/-- The sizes held and ordered are added and subtracted without rounding. -/
structure ExactSizes (j : ℤ) (venue : SimulatedVenue) (asset : String) (size : Decimal) :
    Prop where
  size_grid : size ∈ decimalJs.grid j
  held_grid : venue.heldSize asset ∈ decimalJs.grid j
  held_nonneg : 0 ≤ venue.heldSize asset
  bound : venue.heldSize asset + size ≤ 10 ^ (j + 20)

theorem updatePosition_positions (hsizes : ExactSizes j venue asset size) (hsize : 0 < size)
    (incomingSide : PositionSide) (fillPrice : Decimal) :
    (∃ pos, (venue.updatePosition asset incomingSide size fillPrice false).positions =
        venue.positions.set asset pos ∧ pos.size = venue.sizeAfter asset incomingSide size) ∨
      ((venue.updatePosition asset incomingSide size fillPrice false).positions =
        venue.positions.erase asset ∧ venue.sizeAfter asset incomingSide size = 0) := by
  unfold updatePosition sizeAfter
  cases hget : venue.positions.get? asset with
  | none => exact Or.inl ⟨_, rfl, rfl⟩
  | some existing =>
    have hheld : venue.heldSize asset = existing.size := by simp [heldSize, hget]
    obtain ⟨hs, hq, hq0, hbound⟩ := hsizes
    rw [hheld] at hq hq0 hbound
    have hplus : existing.size.plus size = existing.size + size :=
      Decimal.plus_eq_add ⟨add_mem hq hs, by rwa [abs_of_nonneg (by linarith)]⟩
    have hminus : ∀ x y : Decimal, x ∈ decimalJs.grid j → y ∈ decimalJs.grid j →
        |x - y| ≤ existing.size + size → x.minus y = x - y :=
      fun x y hx hy hle => Decimal.minus_eq_sub ⟨sub_mem hx hy, hle.trans hbound⟩
    dsimp only
    by_cases hside : existing.side = incomingSide
    · simp only [if_pos hside]
      exact Or.inl ⟨_, rfl, hplus⟩
    · simp only [if_neg hside]
      by_cases hle : size ≤ existing.size
      · have hrem : existing.size.minus size = existing.size - size :=
          hminus _ _ hq hs (by rw [abs_of_nonneg (by linarith)]; linarith)
        rw [abs_of_nonneg (by linarith : 0 ≤ existing.size - size)]
        simp only [if_pos hle, hrem]
        by_cases hzero : existing.size - size = 0
        · simp only [if_pos hzero]
          exact Or.inr ⟨rfl, hzero⟩
        · simp only [if_neg hzero]
          exact Or.inl ⟨_, rfl, rfl⟩
      · have hlt := not_le.1 hle
        have hrem : size.minus existing.size = size - existing.size :=
          hminus _ _ hs hq (by rw [abs_of_nonneg (by linarith)]; linarith)
        simp only [if_neg hle]
        refine Or.inl ⟨_, rfl, ?_⟩
        rw [abs_of_nonpos (by linarith : existing.size - size ≤ 0), neg_sub]
        exact hrem

theorem contribution_positionValue
    (hprice : venue.config.deterministicPrices.get? asset = some price) :
    venue.positions.contribution (positionValue venue.config) asset =
      venue.heldSize asset * price := by
  unfold OrderedMap.contribution heldSize positionValue
  cases venue.positions.get? asset <;> simp [hprice]

/-- The value after a fill is the sum or the difference of the values held and filled. -/
theorem sizeAfter_mul_cases (venue : SimulatedVenue) (asset : String)
    (incomingSide : PositionSide) (size price : Decimal) :
    venue.sizeAfter asset incomingSide size * price = venue.heldSize asset * price + size * price ∨
      venue.sizeAfter asset incomingSide size * price =
        venue.heldSize asset * price - size * price ∨
      venue.sizeAfter asset incomingSide size * price =
        size * price - venue.heldSize asset * price := by
  unfold sizeAfter heldSize
  cases venue.positions.get? asset with
  | none => exact Or.inl (by simp)
  | some pos =>
    simp only [Option.map_some, Option.getD_some]
    split_ifs
    · exact Or.inl (by ring)
    · rcases abs_choice (pos.size - size) with h | h <;> rw [h]
      · exact Or.inr (Or.inl (by ring))
      · exact Or.inr (Or.inr (by ring))

theorem updatePosition_exact (hsizes : ExactSizes j venue asset size) (hsize : 0 < size)
    (hprice : venue.config.deterministicPrices.get? asset = some price)
    (hgrid : OnGrid k (positionValue venue.config) venue.positions)
    (hc : absSum (positionValue venue.config) venue.positions ≤ c)
    (hnotional : size * price ∈ decimalJs.grid k) (incomingSide : PositionSide)
    (fillPrice : Decimal) :
    let positions := (venue.updatePosition asset incomingSide size fillPrice false).positions
    positions.sumOf (positionValue venue.config) =
        venue.positions.sumOf (positionValue venue.config) +
          (venue.sizeAfter asset incomingSide size - venue.heldSize asset) * price ∧
      OnGrid k (positionValue venue.config) positions ∧
      absSum (positionValue venue.config) positions ≤ c + |size * price| := by
  intro positions
  have hheld := contribution_positionValue hprice
  have hheldGrid := hgrid.contribution asset
  rw [hheld] at hheldGrid
  have hafterGrid : venue.sizeAfter asset incomingSide size * price ∈ decimalJs.grid k := by
    rcases venue.sizeAfter_mul_cases asset incomingSide size price with h | h | h <;> rw [h]
    · exact add_mem hheldGrid hnotional
    · exact sub_mem hheldGrid hnotional
    · exact sub_mem hnotional hheldGrid
  have hafterLe : |venue.sizeAfter asset incomingSide size * price| ≤
      |venue.heldSize asset * price| + |size * price| := by
    rcases venue.sizeAfter_mul_cases asset incomingSide size price with h | h | h <;> rw [h]
    · exact abs_add_le _ _
    · exact abs_sub _ _
    · rw [abs_sub_comm]
      exact abs_sub _ _
  rcases updatePosition_positions hsizes hsize incomingSide fillPrice with
    ⟨pos, hset, hpos⟩ | ⟨herase, hzero⟩
  · have hvalue : positionValue venue.config asset pos =
        venue.sizeAfter asset incomingSide size * price := by
      simp [positionValue, hprice, hpos]
    rw [show positions = venue.positions.set asset pos from hset]
    refine ⟨?_, hgrid.set (by rwa [hvalue]), ?_⟩
    · rw [OrderedMap.sumOf_set, hheld, hvalue]
      ring
    · refine (absSum_set_le (d := |size * price|) ?_).trans (add_le_add_left hc _)
      rw [hvalue, hheld]
      exact hafterLe
  · rw [show positions = venue.positions.erase asset from herase]
    refine ⟨?_, hgrid.erase asset, ?_⟩
    · rw [OrderedMap.sumOf_erase, hheld, hzero]
      ring
    · exact (absSum_erase_le asset).trans (hc.trans (le_add_of_nonneg_right (abs_nonneg _)))

/-! ## The effect of an order -/

/-- The amounts of an order are added to those of the venue without rounding. -/
structure OrderFits (k j : ℤ) (venue : SimulatedVenue) (asset : String) (size price : Decimal) :
    Prop where
  price_digits : decimalJs.round price = price
  notional : size * price ∈ decimalJs.grid k
  stable : stableValue asset size ∈ decimalJs.grid k
  balances : OnGrid k stableValue venue.balances
  positions : OnGrid k (positionValue venue.config) venue.positions
  bound : absSum stableValue venue.balances +
    absSum (positionValue venue.config) venue.positions +
    2 * |size * price| + |stableValue asset size| ≤ 10 ^ (k + 20)
  sizes : ExactSizes j venue asset size

def navChange (venue : SimulatedVenue) (params : PlaceOrderParams) (price : Decimal) : Decimal :=
  match params.side with
  | .buy => stableValue params.asset params.size - params.size * price +
      (venue.sizeAfter params.asset .long params.size - venue.heldSize params.asset) * price
  | .sell => params.size * price - stableValue params.asset params.size +
      (venue.sizeAfter params.asset .short params.size - venue.heldSize params.asset) * price

theorem OrderFits.exactNav (h : OrderFits k j venue asset size price) :
    ExactNav k venue := by
  refine ⟨h.balances, h.positions, ?_⟩
  linarith [h.bound, abs_nonneg (size * price), abs_nonneg (stableValue asset size)]

theorem stableValue_usdc (x : Decimal) : stableValue "USDC" x = x := if_pos (by decide)

theorem stableValue_neg (asset : String) (x : Decimal) :
    stableValue asset (-x) = -stableValue asset x := by
  unfold stableValue
  split_ifs <;> simp

theorem notional_exact (h : OrderFits k j venue asset size price) :
    Decimal.times price size = size * price ∧
      Decimal.plus (size * price) 0 = size * price ∧
      Decimal.minus (size * price) 0 = size * price := by
  have hbound : |size * price| ≤ 10 ^ (k + 20) := by
    linarith [h.bound, absSum_nonneg stableValue venue.balances,
      absSum_nonneg (positionValue venue.config) venue.positions, abs_nonneg (size * price),
      abs_nonneg (stableValue asset size)]
  refine ⟨?_, ?_, ?_⟩
  · rw [mul_comm]
    exact Decimal.times_eq_mul (k := k) (by rw [mul_comm]; exact ⟨h.notional, hbound⟩)
  · rw [Decimal.plus_eq_add (k := k) (by rw [add_zero]; exact ⟨h.notional, hbound⟩), add_zero]
  · rw [Decimal.minus_eq_sub (k := k) (by rw [sub_zero]; exact ⟨h.notional, hbound⟩), sub_zero]

theorem updatePosition_exactNav (venue' : SimulatedVenue) {d : Decimal}
    (h : OrderFits k j venue asset size price)
    (hprice : venue.config.deterministicPrices.get? asset = some price) (hsize : 0 < size)
    (hpositions : venue'.positions = venue.positions) (hconfig : venue'.config = venue.config)
    (hsum : venue'.balances.sumOf stableValue = venue.balances.sumOf stableValue + d)
    (hgrid : OnGrid k stableValue venue'.balances) (habs : absSum stableValue venue'.balances ≤ c)
    (hbound : c + absSum (positionValue venue.config) venue.positions + |size * price| ≤
      10 ^ (k + 20))
    (incomingSide : PositionSide) :
    let after := venue'.updatePosition asset incomingSide size price false
    ExactNav k after ∧
      after.balances.sumOf stableValue + after.positions.sumOf (positionValue after.config) =
        venue.balances.sumOf stableValue + venue.positions.sumOf (positionValue venue.config) + d +
          (venue.sizeAfter asset incomingSide size - venue.heldSize asset) * price := by
  intro after
  have hheld : venue'.heldSize asset = venue.heldSize asset := by simp [heldSize, hpositions]
  have hafter : venue'.sizeAfter asset incomingSide size =
      venue.sizeAfter asset incomingSide size := by simp [sizeAfter, hpositions]
  have hsizes : ExactSizes j venue' asset size := by
    obtain ⟨h₁, h₂, h₃, h₄⟩ := h.sizes
    exact ⟨h₁, by rwa [hheld], by rwa [hheld], by rwa [hheld]⟩
  have hbalances := venue'.updatePosition_balances asset incomingSide size price false
  have hconfig' := venue'.updatePosition_config asset incomingSide size price false
  obtain ⟨hpos, hposGrid, hposAbs⟩ := updatePosition_exact (k := k) hsizes hsize
    (by rwa [hconfig]) (by rw [hconfig, hpositions]; exact h.positions)
    (by rw [hconfig, hpositions]) h.notional incomingSide price
  rw [hheld, hafter, hpositions, hconfig] at hpos
  rw [hconfig] at hposGrid hposAbs hconfig'
  have hnav : ExactNav k after := by
    refine ⟨?_, ?_, ?_⟩
    · rw [show after.balances = venue'.balances from hbalances]
      exact hgrid
    · rw [show after.config = venue.config from hconfig']
      exact hposGrid
    · rw [show after.balances = venue'.balances from hbalances,
        show after.config = venue.config from hconfig']
      linarith
  refine ⟨hnav, ?_⟩
  rw [show after.balances = venue'.balances from hbalances,
    show after.config = venue.config from hconfig', hsum,
    show after.positions.sumOf (positionValue venue.config) = _ from hpos]
  ring

theorem applyFill_exact (h : OrderFits k j venue params.asset params.size price)
    (hprice : venue.config.deterministicPrices.get? params.asset = some price)
    (hsize : 0 < params.size) (hreduce : params.reduceOnly = false) :
    let after := venue.applyFill params price params.size 0
    ExactNav k after ∧
      after.balances.sumOf stableValue + after.positions.sumOf (positionValue after.config) =
        venue.balances.sumOf stableValue + venue.positions.sumOf (positionValue venue.config) +
          venue.navChange params price := by
  intro after
  obtain ⟨htimes, hplus, hminus⟩ := notional_exact h
  have hbound := h.bound
  cases hside : params.side with
  | buy =>
    have hafter : after = ((venue.adjustBalance "USDC" (-(params.size * price))).adjustBalance
        params.asset params.size).updatePosition params.asset .long params.size price false := by
      simp only [after, applyFill, hside, resolveQuoteAsset, htimes, hplus, hreduce]
    obtain ⟨hsum₁, hgrid₁, habs₁⟩ := adjustBalance_exact (k := k) "USDC"
      (-(params.size * price)) h.balances le_rfl
      (by rw [stableValue_usdc]; exact neg_mem h.notional)
      (by
        rw [stableValue_usdc, abs_neg]
        linarith [absSum_nonneg (positionValue venue.config) venue.positions,
          abs_nonneg (params.size * price), abs_nonneg (stableValue params.asset params.size)])
    rw [stableValue_usdc] at hsum₁ habs₁
    rw [abs_neg] at habs₁
    obtain ⟨hsum₂, hgrid₂, habs₂⟩ := adjustBalance_exact (k := k) params.asset
      params.size hgrid₁ habs₁ h.stable
      (by
        linarith [absSum_nonneg (positionValue venue.config) venue.positions,
          abs_nonneg (params.size * price)])
    rw [hsum₁, add_assoc] at hsum₂
    obtain ⟨hnav, hsum⟩ := updatePosition_exactNav
      ((venue.adjustBalance "USDC" (-(params.size * price))).adjustBalance params.asset params.size)
      h hprice hsize rfl rfl hsum₂ hgrid₂ habs₂ (by linarith) .long
    rw [hafter]
    refine ⟨hnav, hsum.trans ?_⟩
    simp only [navChange, hside]
    ring
  | sell =>
    have hafter : after = ((venue.adjustBalance params.asset (-params.size)).adjustBalance
        "USDC" (params.size * price)).updatePosition params.asset .short params.size price
          false := by
      simp only [after, applyFill, hside, resolveQuoteAsset, htimes, hminus, hreduce]
    obtain ⟨hsum₁, hgrid₁, habs₁⟩ := adjustBalance_exact (k := k) params.asset
      (-params.size) h.balances le_rfl
      (by rw [stableValue_neg]; exact neg_mem h.stable)
      (by
        rw [stableValue_neg, abs_neg]
        linarith [absSum_nonneg (positionValue venue.config) venue.positions,
          abs_nonneg (params.size * price)])
    rw [stableValue_neg] at hsum₁ habs₁
    rw [abs_neg] at habs₁
    obtain ⟨hsum₂, hgrid₂, habs₂⟩ := adjustBalance_exact (k := k) "USDC"
      (params.size * price) hgrid₁ habs₁
      (by rw [stableValue_usdc]; exact h.notional)
      (by
        rw [stableValue_usdc]
        linarith [absSum_nonneg (positionValue venue.config) venue.positions,
          abs_nonneg (params.size * price)])
    rw [stableValue_usdc] at hsum₂ habs₂
    rw [hsum₁, add_assoc] at hsum₂
    obtain ⟨hnav, hsum⟩ := updatePosition_exactNav
      ((venue.adjustBalance params.asset (-params.size)).adjustBalance "USDC" (params.size * price))
      h hprice hsize rfl rfl hsum₂ hgrid₂ habs₂ (by linarith) .short
    rw [hafter]
    refine ⟨hnav, hsum.trans ?_⟩
    simp only [navChange, hside]
    ring

/-! ## When an order leaves NAV unchanged -/

def executes (venue : SimulatedVenue) (params : PlaceOrderParams) : Bool :=
  (venue.knownOrder params.clientOrderId).isNone && venue.connected

/-- The size of the short position that an order closes, when it buys, or opens, when it sells. -/
def shortMoved (venue : SimulatedVenue) (params : PlaceOrderParams) : Decimal :=
  match params.side, venue.positions.get? params.asset with
  | .buy, none => 0
  | .buy, some pos => if pos.side = .short then min pos.size params.size else 0
  | .sell, none => params.size
  | .sell, some pos => if pos.side = .long then params.size - min pos.size params.size
      else params.size

theorem abs_sub_eq_sub_min (q s : Decimal) : |q - s| = q + s - 2 * min q s := by
  rcases le_total q s with h | h
  · rw [min_eq_left h, abs_of_nonpos (by linarith)]
    ring
  · rw [min_eq_right h, abs_of_nonneg (by linarith)]
    ring

theorem navChange_eq (venue : SimulatedVenue) (params : PlaceOrderParams) (price : Decimal) :
    venue.navChange params price = stableValue params.asset params.size -
        2 * venue.shortMoved params * price ∨
      venue.navChange params price = 2 * venue.shortMoved params * price -
        stableValue params.asset params.size := by
  unfold navChange shortMoved sizeAfter heldSize
  cases params.side with
  | buy =>
    left
    cases venue.positions.get? params.asset with
    | none =>
      simp only [Option.map_none, Option.getD_none]
      ring
    | some pos =>
      cases hside : pos.side with
      | long =>
        simp only [Option.map_some, Option.getD_some, hside, reduceCtorEq, if_true, if_false]
        ring
      | short =>
        simp only [Option.map_some, Option.getD_some, hside, reduceCtorEq, if_true, if_false,
          abs_sub_eq_sub_min]
        ring
  | sell =>
    right
    cases venue.positions.get? params.asset with
    | none =>
      simp only [Option.map_none, Option.getD_none]
      ring
    | some pos =>
      cases hside : pos.side with
      | long =>
        simp only [Option.map_some, Option.getD_some, hside, reduceCtorEq, if_true, if_false,
          abs_sub_eq_sub_min]
        ring
      | short =>
        simp only [Option.map_some, Option.getD_some, hside, reduceCtorEq, if_true, if_false]
        ring

theorem navChange_eq_zero_iff (venue : SimulatedVenue) (params : PlaceOrderParams)
    (price : Decimal) :
    venue.navChange params price = 0 ↔
      2 * venue.shortMoved params * price = stableValue params.asset params.size := by
  rcases venue.navChange_eq params price with h | h <;> rw [h, sub_eq_zero]
  exact eq_comm

theorem marketFillPrice_eq (venue : SimulatedVenue) (hslippage : venue.config.slippagePct = 0)
    (hprice : decimalJs.round price = price) (side : OrderSide) :
    venue.marketFillPrice side price = price := by
  have hone : Decimal.plus 1 0 = 1 := by decide +kernel
  have hone' : Decimal.minus 1 0 = 1 := by decide +kernel
  cases side with
  | buy => simp only [marketFillPrice, hslippage, hone, Decimal.times, mul_one, hprice]
  | sell => simp only [marketFillPrice, hslippage, hone', Decimal.times, mul_one, hprice]

theorem placeOrder_executed (hexec : venue.executes params = true) (hmarket : params.type = .market)
    (hslippage : venue.config.slippagePct = 0) (hfee : venue.config.takerFeePct = 0)
    (hfeed : venue.config.deterministicPrices.get? params.asset = some price)
    (hprice : decimalJs.round price = price) (submittedAt : Date) :
    ∃ result, (venue.placeOrder params submittedAt).2 =
      (({ venue with orderCounter := venue.orderCounter + 1 } : SimulatedVenue).applyFill params
        price params.size 0).recordOrder params result false := by
  simp only [executes, Bool.and_eq_true, Option.isNone_iff_eq_none] at hexec
  set venue₁ : SimulatedVenue := { venue with orderCounter := venue.orderCounter + 1 }
  have hget : venue₁.getPrice params.asset = .ok price := by
    have hfeed₁ : venue₁.config.deterministicPrices.get? params.asset = some price := hfeed
    simp only [getPrice, hfeed₁]
  have hfill : venue₁.marketFillPrice params.side price = price :=
    marketFillPrice_eq venue₁ hslippage hprice params.side
  have hzero : Decimal.times (price.times params.size) venue₁.config.takerFeePct = 0 := by
    show Decimal.times (price.times params.size) venue.config.takerFeePct = 0
    rw [hfee, Decimal.times, mul_zero]
    exact decimalJs.round_zero
  have hfilled : ∀ venueOrderId, ∃ result,
      venue₁.fillMarketOrder params venueOrderId submittedAt =
        (.ok result, venue₁.applyFill params price params.size 0) := by
    intro venueOrderId
    unfold fillMarketOrder
    simp only [hget, hfill, hzero]
    exact ⟨_, rfl⟩
  obtain ⟨result, hresult⟩ :=
    hfilled s!"{venue₁.config.venueId}-sim-{venue₁.orderCounter}"
  refine ⟨result, ?_⟩
  unfold placeOrder
  rw [hexec.1]
  dsimp only
  rw [if_neg (by simp [hexec.2]), if_pos hmarket]
  rw [show SimulatedVenue.fillMarketOrder _ params _ submittedAt = _ from hresult]

theorem placeOrder_not_executed (hexec : ¬ venue.executes params = true) (submittedAt : Date) :
    (venue.placeOrder params submittedAt).2 = venue := by
  unfold placeOrder
  cases hknown : venue.knownOrder params.clientOrderId with
  | some existing => rfl
  | none =>
    have hconnected : venue.connected = false := by
      simpa [executes, hknown] using hexec
    simp [hconnected]

/-- Market orders without slippage and fees, with amounts that need no rounding: the tracker
reports the same NAV after the order exactly when the order is not executed, or the short position
that it opens or closes has no value. For the stablecoins, whose balances are counted in NAV, that
value has to make up for the balance bought or sold. -/
theorem navOf_placeOrder_eq_iff (k j : ℤ) (sleeveId : String) (venue : SimulatedVenue)
    (params : PlaceOrderParams) (price : Decimal) (submittedAt : Date)
    (hmarket : params.type = .market) (hreduce : params.reduceOnly = false)
    (hsize : 0 < params.size) (hslippage : venue.config.slippagePct = 0)
    (hfee : venue.config.takerFeePct = 0)
    (hfeed : venue.config.deterministicPrices.get? params.asset = some price)
    (hfits : OrderFits k j venue params.asset params.size price) :
    navOf sleeveId (venue.placeOrder params submittedAt).2 = navOf sleeveId venue ↔
      (venue.executes params = true →
        2 * venue.shortMoved params * price = stableValue params.asset params.size) := by
  by_cases hexec : venue.executes params = true
  · obtain ⟨result, hplaced⟩ := placeOrder_executed hexec hmarket hslippage hfee hfeed
      hfits.price_digits submittedAt
    set venue₁ : SimulatedVenue := { venue with orderCounter := venue.orderCounter + 1 }
    have hfits₁ : OrderFits k j venue₁ params.asset params.size price := by
      obtain ⟨h₁, h₂, h₃, h₄, h₅, h₆, ⟨h₇, h₈, h₉, h₁₀⟩⟩ := hfits
      exact ⟨h₁, h₂, h₃, h₄, h₅, h₆, ⟨h₇, h₈, h₉, h₁₀⟩⟩
    obtain ⟨hnav, hsum⟩ := applyFill_exact hfits₁ hfeed hsize hreduce
    have hnav' : ExactNav k ((venue₁.applyFill params price params.size 0).recordOrder params
        result false) := ⟨hnav.balances, hnav.positions, hnav.bound⟩
    rw [hplaced, navOf_eq hnav', navOf_eq hfits.exactNav]
    have hsum' : ((venue₁.applyFill params price params.size 0).recordOrder params result
          false).balances.sumOf stableValue +
        ((venue₁.applyFill params price params.size 0).recordOrder params result
          false).positions.sumOf (positionValue ((venue₁.applyFill params price params.size
            0).recordOrder params result false).config) =
        venue.balances.sumOf stableValue + venue.positions.sumOf (positionValue venue.config) +
          venue.navChange params price := hsum
    rw [hsum', add_eq_left, navChange_eq_zero_iff]
    exact ⟨fun h _ => h, fun h => h hexec⟩
  · rw [placeOrder_not_executed hexec]
    exact iff_of_true rfl fun h => absurd h hexec

/-! ## A long and a short position -/

/-- A connected venue with 1000 USDC that trades at 100, without slippage and fees. -/
def sampleVenue : SimulatedVenue :=
  (SimulatedVenue.create
    { venueId := "venue-a"
      makerFeePct := 0
      takerFeePct := 0
      slippagePct := 0
      initialBalances := OrderedMap.ofList [("USDC", 1000)]
      deterministicPrices := OrderedMap.ofList [("BTC", 100)] }).connect

def unitOrder (side : OrderSide) : PlaceOrderParams where
  clientOrderId := "order-1"
  asset := "BTC"
  side
  type := .market
  size := 1

theorem short_sale_raises_nav :
    navOf "carry" sampleVenue = 1000 ∧
      navOf "carry" (sampleVenue.placeOrder (unitOrder .sell) 0).2 = 1200 :=
  ⟨by decide +kernel, by decide +kernel⟩

theorem navOf_placeOrder_eq_long :
    navOf "carry" (sampleVenue.placeOrder (unitOrder .buy) 0).2 = navOf "carry" sampleVenue := by
  have hgrid : ∀ m : ℤ, (m : ℚ) ∈ decimalJs.grid 0 :=
    fun m => decimalJs.mem_grid_iff.2 ⟨m, by simp⟩
  have hbalances : sampleVenue.balances.entries = [("USDC", 1000)] := rfl
  have hpositions : sampleVenue.positions.entries = [] := rfl
  have hheld : sampleVenue.heldSize "BTC" = 0 := rfl
  have hfits : OrderFits 0 0 sampleVenue "BTC" 1 100 := by
    refine ⟨by decide +kernel, ?_, ?_, ?_, ?_, ?_, ⟨?_, ?_, ?_, ?_⟩⟩
    · exact_mod_cast hgrid 100
    · have hother : stableValue "BTC" 1 = 0 := by decide +kernel
      rw [hother]
      exact zero_mem _
    · unfold OnGrid
      rw [hbalances]
      simp only [List.forall_mem_cons, List.not_mem_nil, false_imp_iff, implies_true, and_true]
      rw [stableValue_usdc]
      exact_mod_cast hgrid 1000
    · unfold OnGrid
      rw [hpositions]
      simp
    · have hsum : absSum stableValue sampleVenue.balances +
          absSum (positionValue sampleVenue.config) sampleVenue.positions + 2 * |1 * 100| +
          |stableValue "BTC" 1| = 1200 := by decide +kernel
      rw [hsum]
      norm_num
    · exact_mod_cast hgrid 1
    · rw [hheld]
      exact zero_mem _
    · rw [hheld]
    · rw [hheld]
      norm_num
  exact (navOf_placeOrder_eq_iff 0 0 "carry" sampleVenue (unitOrder .buy) 100 0 rfl rfl
    (by decide +kernel) rfl rfl rfl hfits).2 fun _ => by decide +kernel

end SimulatedVenue

end SentinelApex
