import SentinelApex.StrategyEngine.PortfolioStateTracker
import Mathlib.Algebra.Group.Submonoid.BigOperators

/-!
# Agreement of the exposure totals

The tracked state carries the gross exposure three times: as a total, by venue and by asset. The
loop over the positions of a venue updates the total and the assets as it goes and writes the venue
only at its end, so an exception in between leaves the venues behind.
-/

namespace SentinelApex

variable {answers : VenueAnswers} {state : PortfolioState} {k : ℤ}

namespace PortfolioStateTracker

/-- The exposures by venue and by asset add up to the gross exposure, which bounds the net one. -/
structure TotalsAgree (state : PortfolioState) : Prop where
  venues : state.venueExposures.sum = state.grossExposure
  assets : state.assetExposures.sum = state.grossExposure
  net : |state.netExposure| ≤ state.grossExposure

/-! ## Sums that need no rounding -/

/-- Nonnegative multiples of `10 ^ k` that add up to `total`. -/
structure ExposureMap (k : ℤ) (m : OrderedMap String Decimal) (total : Decimal) : Prop where
  entries : ∀ e ∈ m.entries, 0 ≤ e.2 ∧ e.2 ∈ decimalJs.grid k
  sum : m.sum = total

/-- A notional that can be added to `total`: a nonnegative multiple of `10 ^ k` that leaves at most
twenty digits. -/
structure Addable (k : ℤ) (total x : Decimal) : Prop where
  nonneg : 0 ≤ x
  grid : x ∈ decimalJs.grid k
  bound : total + x ≤ 10 ^ (k + 20)

theorem plus_of_addable {total x v : Decimal} (hx : Addable k total x) (hv : 0 ≤ v)
    (hvk : v ∈ decimalJs.grid k) (hle : v ≤ total) : v.plus x = v + x := by
  have hsum : 0 ≤ v + x := add_nonneg hv hx.nonneg
  refine Decimal.plus_eq_add ⟨add_mem hvk hx.grid, ?_⟩
  rw [abs_of_nonneg hsum]
  exact (add_le_add_left hle x).trans hx.bound

namespace ExposureMap

variable {k : ℤ} {m : OrderedMap String Decimal} {total x : Decimal}

theorem empty (k : ℤ) : ExposureMap k OrderedMap.empty 0 :=
  ⟨fun e he => by simp [OrderedMap.empty] at he, rfl⟩

section

variable (h : ExposureMap k m total)

include h

theorem nonneg_of_mem_values : ∀ v ∈ m.values, 0 ≤ v := by
  intro v hv
  obtain ⟨e, he, rfl⟩ := List.mem_map.1 hv
  exact (h.entries e he).1

theorem getD_nonneg (key : String) :
    0 ≤ (m.get? key).getD 0 ∧ (m.get? key).getD 0 ∈ decimalJs.grid k ∧
      (m.get? key).getD 0 ≤ total := by
  have htotal : 0 ≤ total := by
    rw [← h.sum]
    exact List.sum_nonneg h.nonneg_of_mem_values
  cases hget : m.get? key with
  | none => exact ⟨le_rfl, zero_mem _, htotal⟩
  | some v =>
    have hmem := OrderedMap.mem_entries_of_get? hget
    refine ⟨(h.entries _ hmem).1, (h.entries _ hmem).2, ?_⟩
    rw [← h.sum]
    exact List.single_le_sum h.nonneg_of_mem_values v (List.mem_map.2 ⟨_, hmem, rfl⟩)

theorem set_add (hx : 0 ≤ x) (hxk : x ∈ decimalJs.grid k) (key : String) :
    ExposureMap k (m.set key ((m.get? key).getD 0 + x)) (total + x) := by
  obtain ⟨hv, hvk, -⟩ := h.getD_nonneg key
  refine ⟨OrderedMap.forall_entries_set h.entries ⟨add_nonneg hv hx, add_mem hvk hxk⟩, ?_⟩
  rw [OrderedMap.sum_set, h.sum]
  ring

theorem add (hx : Addable k total x) (key : String) :
    ExposureMap k (m.set key (((m.get? key).getD 0).plus x)) (total + x) := by
  obtain ⟨hv, hvk, hle⟩ := h.getD_nonneg key
  rw [plus_of_addable hx hv hvk hle]
  exact h.set_add hx.nonneg hx.grid key

end

end ExposureMap

/-- Gross and net exposure as multiples of `10 ^ k`. -/
structure GrossNet (k : ℤ) (gross net : Decimal) : Prop where
  gross_grid : gross ∈ decimalJs.grid k
  net_grid : net ∈ decimalJs.grid k
  net_le : |net| ≤ gross

namespace GrossNet

variable {k : ℤ} {gross net x : Decimal}

theorem zero (k : ℤ) : GrossNet k 0 0 := ⟨zero_mem _, zero_mem _, by simp⟩

theorem gross_nonneg (h : GrossNet k gross net) : 0 ≤ gross := (abs_nonneg net).trans h.net_le

theorem plus_gross (h : GrossNet k gross net) (hx : Addable k gross x) :
    gross.plus x = gross + x :=
  plus_of_addable hx h.gross_nonneg h.gross_grid le_rfl

theorem add (h : GrossNet k gross net) (hx : Addable k gross x) {delta : Decimal}
    (hdelta : delta = x ∨ delta = -x) : GrossNet k (gross + x) (net.plus delta) := by
  have hgrid : delta ∈ decimalJs.grid k := by
    rcases hdelta with rfl | rfl
    · exact hx.grid
    · exact neg_mem hx.grid
  have habs : |delta| = x := by
    rcases hdelta with rfl | rfl
    · exact abs_of_nonneg hx.nonneg
    · rw [abs_neg, abs_of_nonneg hx.nonneg]
  have hnet : |net + delta| ≤ gross + x := by
    calc |net + delta| ≤ |net| + |delta| := abs_add_le net delta
      _ ≤ gross + x := by
        rw [habs]
        exact add_le_add_left h.net_le x
  have hplus : net.plus delta = net + delta :=
    Decimal.plus_eq_add ⟨add_mem h.net_grid hgrid, hnet.trans hx.bound⟩
  rw [hplus]
  exact ⟨add_mem h.gross_grid hx.grid, add_mem h.net_grid hgrid, hnet⟩

end GrossNet

/-! ## What a venue adds -/

/-- The notionals of the positions before the first exception, and whether there was none. -/
def processed (answers : VenueAnswers) : ℕ → List VenuePosition → List Decimal × Bool
  | _, [] => ([], true)
  | n, pos :: positions =>
    match notional answers n pos with
    | .error _ => ([], false)
    | .ok x =>
      let rest := processed answers (n + 1) positions
      (x :: rest.1, rest.2)

def venueNotionals (answers : VenueAnswers) : List Decimal × Bool :=
  match answers.getBalances with
  | .error _ => ([], false)
  | .ok balances =>
    match (addBalances balances 0 Totals.zero).1 with
    | .error _ => ([], false)
    | .ok _ =>
      match answers.getPositions with
      | .error _ => ([], false)
      | .ok positions => processed answers 0 positions

/-- No exception strikes a venue after one of its positions was processed, and all notionals are
nonnegative multiples of `10 ^ k` that add up to at most twenty digits. -/
structure RefreshCovered (k : ℤ) (adapters : OrderedMap String VenueAnswers) : Prop where
  whole : ∀ e ∈ adapters.entries,
    (venueNotionals e.2).2 = true ∨ (venueNotionals e.2).1 = []
  notionals : ∀ e ∈ adapters.entries, ∀ x ∈ (venueNotionals e.2).1,
    0 ≤ x ∧ x ∈ decimalJs.grid k
  bound : (adapters.entries.map fun e => (venueNotionals e.2).1.sum).sum ≤ 10 ^ (k + 20)

def StepCovered (k : ℤ) (state : PortfolioState) : Step → Prop
  | .refresh adapters => RefreshCovered k adapters
  | .applyFill fill _ => Addable k state.grossExposure (fill.fillPrice.times fill.filledSize)

def RunCovered (k : ℤ) (sleeveId : String) : PortfolioState → List Step → Prop
  | _, [] => True
  | state, s :: steps =>
    StepCovered k state s ∧ RunCovered k sleeveId (step sleeveId state s) steps

/-! ## The loop over the positions -/

/-- What the loop over the positions keeps. -/
structure LoopInv (k : ℤ) (totals : Totals) : Prop where
  assets : ExposureMap k totals.assetExposures totals.grossExposure
  grossNet : GrossNet k totals.grossExposure totals.netExposure

variable {totals : Totals} {positions : List VenuePosition}

theorem LoopInv.addPosition (h : LoopInv k totals) (pos : VenuePosition) {x : Decimal}
    (hx : Addable k totals.grossExposure x) :
    LoopInv k (totals.addPosition pos x) ∧
      (totals.addPosition pos x).grossExposure = totals.grossExposure + x := by
  have hgross : (totals.addPosition pos x).grossExposure = totals.grossExposure + x :=
    h.grossNet.plus_gross hx
  have hdelta : signedNotional pos.side x = x ∨ signedNotional pos.side x = -x := by
    cases pos.side with
    | long => exact Or.inl rfl
    | short => exact Or.inr rfl
  refine ⟨⟨?_, ?_⟩, hgross⟩
  · rw [hgross]
    exact h.assets.add hx pos.asset
  · rw [hgross]
    exact h.grossNet.add hx hdelta

theorem addPositions_error {n : ℕ} (hnone : (processed answers n positions).1 = [])
    (hpart : (processed answers n positions).2 = false) (venueExposure : Decimal) (totals : Totals) :
    ∃ e, addPositions answers n positions venueExposure totals = (.error e, totals) := by
  cases positions with
  | nil => simp [processed] at hpart
  | cons pos positions =>
    simp only [processed] at hnone
    cases hx : notional answers n pos with
    | error e => exact ⟨e, by simp [addPositions, hx]⟩
    | ok x => simp [hx] at hnone

theorem addPositions_ok {n : ℕ} (hwhole : (processed answers n positions).2 = true)
    (hxs : ∀ x ∈ (processed answers n positions).1, 0 ≤ x ∧ x ∈ decimalJs.grid k)
    (venueExposure : Decimal) (totals : Totals)
    (hbound : totals.grossExposure + (processed answers n positions).1.sum ≤ 10 ^ (k + 20))
    (hvenue : 0 ≤ venueExposure ∧ venueExposure ∈ decimalJs.grid k ∧
      venueExposure ≤ totals.grossExposure)
    (hinv : LoopInv k totals) :
    ∃ totals', addPositions answers n positions venueExposure totals =
        (.ok (venueExposure + (processed answers n positions).1.sum), totals') ∧
      LoopInv k totals' ∧
      totals'.grossExposure =
        totals.grossExposure + (processed answers n positions).1.sum ∧
      totals'.venueExposures = totals.venueExposures := by
  induction positions generalizing n venueExposure totals with
  | nil => exact ⟨totals, by simp [addPositions, processed], hinv, by simp [processed], rfl⟩
  | cons pos positions ih =>
    simp only [processed, addPositions] at hwhole hxs hbound ⊢
    cases hx : notional answers n pos with
    | error e => simp [hx] at hwhole
    | ok x =>
      simp only [hx, List.forall_mem_cons, List.sum_cons] at hwhole hxs hbound ⊢
      have hrest : 0 ≤ (processed answers (n + 1) positions).1.sum :=
        List.sum_nonneg fun y hy => (hxs.2 y hy).1
      have hadd : Addable k totals.grossExposure x := ⟨hxs.1.1, hxs.1.2, by linarith⟩
      obtain ⟨hinv', hgross⟩ := hinv.addPosition pos hadd
      have hplus := plus_of_addable hadd hvenue.1 hvenue.2.1 hvenue.2.2
      obtain ⟨totals', heq, hinv'', hgross', hvenues⟩ := ih (n := n + 1) hwhole hxs.2
        (venueExposure.plus x) (totals.addPosition pos x) (by rw [hgross]; linarith)
        (by
          rw [hplus, hgross]
          exact ⟨add_nonneg hvenue.1 hxs.1.1, add_mem hvenue.2.1 hxs.1.2, by linarith [hvenue.2.2]⟩)
        hinv'
      refine ⟨totals', ?_, hinv'', ?_, hvenues⟩
      · rw [heq, hplus, add_assoc]
      · rw [hgross', hgross, add_assoc]

/-! ## The loop over the venues -/

theorem addBalances_cases (balances : List AccountBalance) (b b' : Decimal)
    (totals totals' : Totals) :
    (∃ e e' liquidity, addBalances balances b totals =
        (.error e, { totals with totalLiquidity := liquidity }) ∧
      (addBalances balances b' totals').1 = .error e') ∨
    ∃ x x' liquidity, addBalances balances b totals =
        (.ok x, { totals with totalLiquidity := liquidity }) ∧
      (addBalances balances b' totals').1 = .ok x' := by
  induction balances generalizing b b' totals totals' with
  | nil => exact Or.inr ⟨b, b', totals.totalLiquidity, rfl, rfl⟩
  | cons bal balances ih =>
    simp only [addBalances]
    by_cases hstable : bal.asset ∈ stablecoins
    · rw [if_pos hstable, if_pos hstable]
      cases newDecimal bal.total with
      | error e => exact Or.inl ⟨e, e, totals.totalLiquidity, rfl, rfl⟩
      | ok total =>
        cases newDecimal bal.available with
        | error e => exact Or.inl ⟨e, e, totals.totalLiquidity, rfl, rfl⟩
        | ok available => exact ih _ _ _ _
    · rw [if_neg hstable, if_neg hstable]
      exact ih _ _ _ _

/-- What the loop over the venues keeps. -/
structure TotalsInv (k : ℤ) (totals : Totals) : Prop extends LoopInv k totals where
  venues : ExposureMap k totals.venueExposures totals.grossExposure

theorem addVenue_inv (venueId : String)
    (hwhole : (venueNotionals answers).2 = true ∨ (venueNotionals answers).1 = [])
    (hxs : ∀ x ∈ (venueNotionals answers).1, 0 ≤ x ∧ x ∈ decimalJs.grid k)
    (hbound : totals.grossExposure + (venueNotionals answers).1.sum ≤ 10 ^ (k + 20))
    (hinv : TotalsInv k totals) :
    TotalsInv k (addVenue venueId answers totals) ∧
      (addVenue venueId answers totals).grossExposure =
        totals.grossExposure + (venueNotionals answers).1.sum := by
  unfold venueNotionals at hwhole hxs hbound ⊢
  unfold addVenue
  cases hbal : answers.getBalances with
  | error e => exact ⟨hinv, by simp⟩
  | ok balances =>
    rcases addBalances_cases balances 0 0 totals Totals.zero with
      ⟨e, e', liquidity, heq, heq'⟩ | ⟨b, b', liquidity, heq, heq'⟩
    · simp only [heq, heq']
      exact ⟨⟨⟨hinv.assets, hinv.grossNet⟩, hinv.venues⟩, by simp⟩
    · simp only [hbal, heq, heq'] at hwhole hxs hbound ⊢
      cases hpos : answers.getPositions with
      | error e => exact ⟨⟨⟨hinv.assets, hinv.grossNet⟩, hinv.venues⟩, by simp⟩
      | ok positions =>
        simp only [hpos] at hwhole hxs hbound ⊢
        by_cases hall : (processed answers 0 positions).2 = true
        · obtain ⟨totals', hadd, hloop, hgross, hvenues⟩ := addPositions_ok (k := k) hall hxs _
            { totals with totalLiquidity := liquidity, totalNav := totals.totalNav.plus b }
            hbound (hinv.venues.getD_nonneg venueId) ⟨hinv.assets, hinv.grossNet⟩
          simp only [hadd]
          refine ⟨⟨⟨hloop.assets, hloop.grossNet⟩, ?_⟩, hgross⟩
          rw [hgross, hvenues]
          exact hinv.venues.set_add (List.sum_nonneg fun x hx => (hxs x hx).1)
            (list_sum_mem fun x hx => (hxs x hx).2) venueId
        · have hnone := hwhole.resolve_left hall
          obtain ⟨e, hadd⟩ := addPositions_error hnone (by simpa using hall)
            ((totals.venueExposures.get? venueId).getD 0)
            { totals with totalLiquidity := liquidity, totalNav := totals.totalNav.plus b }
          simp only [hadd, hnone, List.sum_nil, add_zero]
          exact ⟨⟨⟨hinv.assets, hinv.grossNet⟩, hinv.venues⟩, trivial⟩

theorem totalsInv_zero (k : ℤ) : TotalsInv k Totals.zero :=
  ⟨⟨ExposureMap.empty k, GrossNet.zero k⟩, ExposureMap.empty k⟩

theorem addVenues_inv {entries : List (String × VenueAnswers)}
    (hwhole : ∀ e ∈ entries, (venueNotionals e.2).2 = true ∨ (venueNotionals e.2).1 = [])
    (hxs : ∀ e ∈ entries, ∀ x ∈ (venueNotionals e.2).1, 0 ≤ x ∧ x ∈ decimalJs.grid k)
    (hbound : totals.grossExposure + (entries.map fun e => (venueNotionals e.2).1.sum).sum ≤
      10 ^ (k + 20))
    (hinv : TotalsInv k totals) :
    TotalsInv k (entries.foldl (fun totals e => addVenue e.1 e.2 totals) totals) := by
  induction entries generalizing totals with
  | nil => exact hinv
  | cons e entries ih =>
    simp only [List.forall_mem_cons, List.map_cons, List.sum_cons] at hwhole hxs hbound
    have hrest : 0 ≤ (entries.map fun e => (venueNotionals e.2).1.sum).sum := by
      apply List.sum_nonneg
      intro y hy
      obtain ⟨e', he', rfl⟩ := List.mem_map.1 hy
      exact List.sum_nonneg fun x hx => (hxs.2 e' he' x hx).1
    obtain ⟨hinv', hgross⟩ := addVenue_inv e.1 hwhole.1 hxs.1 (by linarith) hinv
    exact ih hwhole.2 hxs.2 (by rw [hgross]; linarith) hinv'

/-! ## Runs -/

/-- What a run keeps. -/
structure StateInv (k : ℤ) (state : PortfolioState) : Prop where
  venues : ExposureMap k state.venueExposures state.grossExposure
  assets : ExposureMap k state.assetExposures state.grossExposure
  grossNet : GrossNet k state.grossExposure state.netExposure

theorem stateInv_empty (k : ℤ) : StateInv k emptyState :=
  ⟨ExposureMap.empty k, ExposureMap.empty k, GrossNet.zero k⟩

theorem StateInv.totalsAgree (h : StateInv k state) : TotalsAgree state :=
  ⟨h.venues.sum, h.assets.sum, h.grossNet.net_le⟩

theorem refresh_inv {adapters : OrderedMap String VenueAnswers} (h : RefreshCovered k adapters)
    (sleeveId : String) : StateInv k (refresh sleeveId adapters) := by
  have hinv := addVenues_inv h.whole h.notionals
    (by simpa [Totals.zero] using h.bound) (totalsInv_zero k)
  exact ⟨hinv.venues, hinv.assets, hinv.grossNet⟩

theorem applyFill_inv (h : StateInv k state) {fill : OrderFill}
    (hx : Addable k state.grossExposure (fill.fillPrice.times fill.filledSize))
    (intent : OrderIntent) : StateInv k (applyFill fill intent state) := by
  have hgross : (applyFill fill intent state).grossExposure =
      state.grossExposure + fill.fillPrice.times fill.filledSize := h.grossNet.plus_gross hx
  have hdelta : ∀ n : Decimal, (if intent.side = .buy then n else -n) = n ∨
      (if intent.side = .buy then n else -n) = -n := by
    intro n
    by_cases hside : intent.side = .buy
    · exact Or.inl (if_pos hside)
    · exact Or.inr (if_neg hside)
  refine ⟨?_, ?_, ?_⟩
  · rw [hgross]
    exact h.venues.add hx intent.venueId
  · rw [hgross]
    exact h.assets.add hx intent.asset
  · rw [hgross]
    exact h.grossNet.add hx (hdelta _)

theorem step_inv (h : StateInv k state) {s : Step} (hs : StepCovered k state s) (sleeveId : String) :
    StateInv k (step sleeveId state s) := by
  cases s with
  | refresh adapters => exact refresh_inv hs sleeveId
  | applyFill fill intent => exact applyFill_inv h hs intent

/-- In every run of `refresh` and `applyFill` whose calls are covered, from the empty state on, the
exposure totals agree in every state. -/
theorem states_totalsAgree (k : ℤ) (sleeveId : String) (steps : List Step)
    (hcov : RunCovered k sleeveId emptyState steps) :
    ∀ state ∈ states sleeveId emptyState steps, TotalsAgree state := by
  have key : ∀ (steps : List Step) (state : PortfolioState), StateInv k state →
      RunCovered k sleeveId state steps →
      ∀ state' ∈ states sleeveId state steps, TotalsAgree state' := by
    intro steps
    induction steps with
    | nil => simp [states]
    | cons s steps ih =>
      intro state hinv hcov state' hmem
      have hinv' := step_inv hinv hcov.1 sleeveId
      rcases List.mem_cons.1 hmem with rfl | hmem
      · exact hinv'.totalsAgree
      · exact ih _ hinv' hcov.2 state' hmem
  exact key steps emptyState (stateInv_empty k) hcov

/-! ## A venue with an outage -/

def samplePosition (asset : String) (side : PositionSide) (size : Decimal)
    (markPrice : DecimalText) : VenuePosition where
  venueId := "venue-a"
  asset
  side
  size := some size
  entryPrice := some 100
  markPrice
  unrealizedPnl := some 0
  marginUsed := some 10
  liquidationPrice := none

/-- Two positions; market data are not available, and the second position has no mark price. -/
def outageAnswers : VenueAnswers where
  getBalances := .ok []
  getPositions := .ok
    [samplePosition "BTC" .long 1 (some 100), samplePosition "ETH" .long 2 none]
  getMarketData _ _ := .error "market data unavailable"

/-- The first position is in the gross exposure, its venue is not among the venue exposures. -/
theorem outage_breaks_totals :
    ¬ ∀ state ∈ states "carry" emptyState
      [.refresh (OrderedMap.ofList [("venue-a", outageAnswers)])], TotalsAgree state := by
  intro h
  have hvenues := (h _ List.mem_cons_self).venues
  revert hvenues
  decide +kernel

/-- The same positions with both mark prices. -/
def fallbackAnswers : VenueAnswers :=
  { outageAnswers with
    getPositions := .ok
      [samplePosition "BTC" .long 1 (some 100), samplePosition "ETH" .short 2 (some 30)] }

def fallbackRefresh : Step := .refresh (OrderedMap.ofList [("venue-a", fallbackAnswers)])

/-- A fill of one unit on another venue. -/
def sampleFillStep (side : OrderSide) (fillPrice : Decimal) : Step :=
  .applyFill
    { fillId := "f-1", orderId := "o-1", filledSize := 1, fillPrice, fee := 0, feeAsset := "USDC"
      filledAt := 0 }
    { intentId := "i-1", venueId := "venue-b", asset := "ETH", side, type := .market, size := 1
      limitPrice := none, opportunityId := "p-1", reduceOnly := false, createdAt := 0
      metadata := OrderedMap.empty }

/-- A refresh, a purchase and a sale. -/
def sampleSteps : List Step := [fallbackRefresh, sampleFillStep .buy 30, sampleFillStep .sell 40]

theorem sampleSteps_covered : RunCovered 0 "carry" emptyState sampleSteps := by
  have hgrid : ∀ m : ℤ, (m : ℚ) ∈ decimalJs.grid 0 :=
    fun m => decimalJs.mem_grid_iff.2 ⟨m, by simp⟩
  have hxs : venueNotionals fallbackAnswers = ([100, 60], true) := by decide +kernel
  have hentries : (OrderedMap.ofList [("venue-a", fallbackAnswers)]).entries =
      [("venue-a", fallbackAnswers)] := rfl
  refine ⟨⟨?_, ?_, ?_⟩, ?_, ?_, trivial⟩
  · rw [hentries]
    simp [hxs]
  · rw [hentries]
    simp only [List.forall_mem_cons, hxs, List.not_mem_nil, false_imp_iff, implies_true, and_true]
    exact ⟨⟨by norm_num, by exact_mod_cast hgrid 100⟩, by norm_num, by exact_mod_cast hgrid 60⟩
  · rw [hentries]
    simp only [List.map_cons, List.map_nil, hxs, List.sum_cons, List.sum_nil]
    norm_num
  · have hnotional : Decimal.times 30 1 = 30 := by decide +kernel
    refine ⟨by decide +kernel, ?_, by decide +kernel⟩
    show Decimal.times 30 1 ∈ _
    rw [hnotional]
    exact_mod_cast hgrid 30
  · have hnotional : Decimal.times 40 1 = 40 := by decide +kernel
    refine ⟨by decide +kernel, ?_, by decide +kernel⟩
    show Decimal.times 40 1 ∈ _
    rw [hnotional]
    exact_mod_cast hgrid 40

theorem states_totalsAgree_fallback :
    (states "carry" emptyState sampleSteps).map (fun state => state.grossExposure) =
        [160, 190, 230] ∧
      ∀ state ∈ states "carry" emptyState sampleSteps, TotalsAgree state :=
  ⟨by decide +kernel, states_totalsAgree 0 "carry" sampleSteps sampleSteps_covered⟩

end PortfolioStateTracker

end SentinelApex
