import SentinelApex.Backtest.Engine
import SentinelApex.Lib.Runs

/-!
# What a step of the simulation does

A point is handled by its signal, which holds, enters or exits (`SignalStep`), and by the funding,
which changes the funding totals and the `fundingPaid` of positions only (`handleFunding_eq`).
Every position is stored under the key of its own asset and market (`Keyed`).
-/

namespace SentinelApex.Backtest

open Runs

/-! ## Keys -/

def Keyed (positions : Positions) : Prop :=
  ∀ e ∈ positions.entries, e.1 = positionKey e.2.asset e.2.marketType

@[simp] theorem MarketType.length_text (m : MarketType) : m.text.length = 4 := by
  cases m <;> decide

theorem positionKey_ne (asset : String) (marketType : MarketType) :
    positionKey asset marketType ≠ asset := by
  intro h
  have hlength := congrArg String.length h
  simp only [positionKey, String.length_append, MarketType.length_text] at hlength
  omega

theorem MarketType.text_injective : Function.Injective MarketType.text := by
  intro m m' h
  cases m <;> cases m' <;> first | rfl | exact absurd h (by decide)

variable {asset : String} {trades : List BacktestTrade} {positions positions' : Positions}

theorem positionKey_inj {asset' : String} {m m' : MarketType}
    (h : positionKey asset m = positionKey asset' m') : asset = asset' ∧ m = m' := by
  have hlists : (asset.toList ++ "-".toList) ++ m.text.toList =
      (asset'.toList ++ "-".toList) ++ m'.text.toList := by
    have := congrArg String.toList h
    simpa only [positionKey, String.toList_append] using this
  have hlength : m.text.toList.length = m'.text.toList.length := by
    rw [String.length_toList, String.length_toList, MarketType.length_text,
      MarketType.length_text]
  obtain ⟨hdash, htext⟩ := List.append_inj' hlists hlength
  exact ⟨String.toList_inj.1 (List.append_inj' hdash rfl).1,
    MarketType.text_injective (String.toList_inj.1 htext)⟩

variable {positions : Positions} {position : BacktestPosition}

theorem Keyed.set (h : Keyed positions) {k : String}
    (hk : k = positionKey position.asset position.marketType) : Keyed (positions.set k position) :=
  OrderedMap.forall_entries_set h hk

theorem Keyed.erase (h : Keyed positions) (k : String) : Keyed (positions.erase k) :=
  OrderedMap.forall_entries_erase h k

theorem Keyed.updatePositionFromTrade (h : Keyed positions) (trade : BacktestTrade) :
    Keyed (updatePositionFromTrade positions trade) := by
  unfold Backtest.updatePositionFromTrade
  dsimp only
  split
  · next existing hget => exact h.set (h _ (OrderedMap.mem_entries_of_get? hget))
  · exact h.set rfl

theorem Keyed.get?_eq_none (h : Keyed positions) (hnone : existingPosition positions asset = none)
    (marketType : MarketType) :
    positions.get? (positionKey asset marketType) = none := by
  cases hget : positions.get? (positionKey asset marketType) with
  | none => rfl
  | some position =>
    have hmem := OrderedMap.mem_entries_of_get? hget
    have hasset : asset = position.asset := (positionKey_inj (h _ hmem)).1
    have hfalse := List.find?_eq_none.1 hnone position (List.mem_map_of_mem hmem)
    simp [hasset] at hfalse

/-! ## Signals -/

theorem existingPosition_asset (h : existingPosition positions asset = some position) :
    position.asset = asset := by
  have := List.find?_some h
  simpa using this

variable {config : BacktestConfig} {data : MarketDataPoint}

theorem generateSignal_of_none (h : existingPosition positions data.asset = none) :
    generateSignal data config positions =
      if data.basisPct ≥ config.strategy.entryBasisThresholdPct then .enter data.asset
      else .hold := by
  rw [generateSignal, h]

theorem generateSignal_of_some (h : existingPosition positions data.asset = some position) :
    generateSignal data config positions =
      if data.basisPct < config.strategy.exitBasisThresholdPct then .exit data.asset data.asset
      else .hold := by
  rw [generateSignal, h]
  dsimp only
  rw [existingPosition_asset h]

/-- A trade that enters a leg. -/
structure IsEntry (asset : String) (side : PositionSide) (marketType : MarketType)
    (trade : BacktestTrade) : Prop where
  asset_eq : trade.asset = asset
  side_eq : trade.side = side
  marketType_eq : trade.marketType = marketType
  realizedPnl_eq : trade.realizedPnl = none

theorem executeEntry_spec {cash : Decimal} (h : executeEntry data config cash asset = some trades) :
    ∃ spot perp, trades = [spot, perp] ∧ IsEntry asset .long .spot spot ∧
      IsEntry asset .short .perp perp := by
  unfold executeEntry at h
  dsimp only at h
  split_ifs at h
  obtain rfl := Option.some.inj h
  exact ⟨_, _, rfl, ⟨rfl, rfl, rfl, rfl⟩, ⟨rfl, rfl, rfl, rfl⟩⟩

theorem executeExit_spec {position : Option BacktestPosition}
    (h : executeExit data config position = some trades) :
    position.isSome = true ∧ ∃ trade pnl, trades = [trade] ∧ trade.realizedPnl = some pnl := by
  cases position with
  | none => cases h
  | some position =>
    obtain rfl := Option.some.inj h
    exact ⟨rfl, _, _, rfl, rfl⟩

/-- The exit branch is taken: the basis is below the threshold, and there is a position under the
name of the asset. -/
structure ExitTaken (config : BacktestConfig) (s : BacktestState) (data : MarketDataPoint) :
    Prop where
  signal : generateSignal data config s.positions = .exit data.asset data.asset
  stored : (s.positions.get? data.asset).isSome = true

instance (config : BacktestConfig) (s : BacktestState) (data : MarketDataPoint) :
    Decidable (ExitTaken config s data) :=
  decidable_of_iff (generateSignal data config s.positions = .exit data.asset data.asset ∧
    (s.positions.get? data.asset).isSome = true) ⟨fun h => ⟨h.1, h.2⟩, fun h => ⟨h.1, h.2⟩⟩

inductive SignalStep (config : BacktestConfig) (s : BacktestState) (data : MarketDataPoint) :
    BacktestState → Prop where
  | hold : SignalStep config s data s
  | enter (spot perp : BacktestTrade) (hnone : existingPosition s.positions data.asset = none)
      (hspot : IsEntry data.asset .long .spot spot)
      (hperp : IsEntry data.asset .short .perp perp) :
      SignalStep config s data (bookEntryTrade (bookEntryTrade s spot) perp)
  | exit (trade : BacktestTrade) (pnl : Decimal) (htaken : ExitTaken config s data)
      (hpnl : trade.realizedPnl = some pnl) :
      SignalStep config s data
        { bookExitTrade s trade with positions := s.positions.erase data.asset }

theorem handleSignal_step (config : BacktestConfig) (s : BacktestState) (data : MarketDataPoint) :
    SignalStep config s data (handleSignal config s data) := by
  unfold handleSignal
  cases hexisting : existingPosition s.positions data.asset with
  | none =>
    rw [generateSignal_of_none hexisting]
    split_ifs
    · dsimp only
      split_ifs
      · exact .hold
      · cases hentries : executeEntry data config s.cashBalance data.asset with
        | none => exact .hold
        | some trades =>
          obtain ⟨spot, perp, rfl, hspot, hperp⟩ := executeEntry_spec hentries
          exact .enter spot perp hexisting hspot hperp
    · exact .hold
  | some position =>
    have hsignal : generateSignal data config s.positions = _ := generateSignal_of_some hexisting
    rw [hsignal]
    split_ifs at hsignal ⊢
    · dsimp only
      split_ifs
      · exact .hold
      · cases hexits : executeExit data config (s.positions.get? data.asset) with
        | none => exact .hold
        | some trades =>
          obtain ⟨hstored, trade, pnl, rfl, hpnl⟩ := executeExit_spec hexits
          exact .exit trade pnl ⟨hsignal, hstored⟩ hpnl
    · exact .hold

/-! ## Funding -/

def BacktestPosition.withoutFunding (position : BacktestPosition) : BacktestPosition :=
  { position with fundingPaid := 0 }

def entriesWithoutFunding (positions : Positions) : List (String × BacktestPosition) :=
  positions.entries.map fun e => (e.1, e.2.withoutFunding)

theorem bookFunding_eq (s : BacktestState) (payment : FundingPayment) :
    ∃ positions paid received, bookFunding s payment =
        { s with positions, totalFundingPaid := paid, totalFundingReceived := received } ∧
      entriesWithoutFunding positions = entriesWithoutFunding s.positions := by
  unfold bookFunding
  dsimp only
  cases hget : s.positions.get? payment.positionId with
  | none =>
    split_ifs <;> rw [hget] <;> exact ⟨_, _, _, rfl, rfl⟩
  | some position =>
    have hentries (amount : Decimal) : entriesWithoutFunding
        (s.positions.set payment.positionId { position with fundingPaid := amount }) =
        entriesWithoutFunding s.positions :=
      OrderedMap.map_entries_set _ hget rfl
    split_ifs <;> rw [hget] <;> exact ⟨_, _, _, rfl, hentries _⟩

theorem handleFunding_eq (s : BacktestState) (data : MarketDataPoint) :
    ∃ positions paid received, handleFunding s data =
        { s with positions, totalFundingPaid := paid, totalFundingReceived := received } ∧
      entriesWithoutFunding positions = entriesWithoutFunding s.positions := by
  unfold handleFunding
  generalize applyFundingPayments data s.positions.values = payments
  induction payments generalizing s with
  | nil => exact ⟨_, _, _, rfl, rfl⟩
  | cons payment payments ih =>
    obtain ⟨positions, paid, received, heq, hentries⟩ := bookFunding_eq s payment
    obtain ⟨positions', paid', received', heq', hentries'⟩ := ih (bookFunding s payment)
    rw [List.foldl_cons, heq']
    rw [heq] at hentries' ⊢
    exact ⟨positions', paid', received', rfl, hentries'.trans hentries⟩

theorem sumOf_eq_of_withoutFunding
    (h : entriesWithoutFunding positions' = entriesWithoutFunding positions)
    (f : BacktestPosition → Decimal) (hf : ∀ p, f p.withoutFunding = f p) :
    (positions'.values.map f).sum = (positions.values.map f).sum := by
  have hvalues (m : Positions) :
      m.values.map f = (entriesWithoutFunding m).map fun e => f e.2 := by
    rw [OrderedMap.values, entriesWithoutFunding, List.map_map, List.map_map]
    exact List.map_congr_left fun e _ => (hf e.2).symm
  rw [hvalues, hvalues, h]

theorem forall_entries_of_withoutFunding
    (h : entriesWithoutFunding positions' = entriesWithoutFunding positions)
    {P : String × BacktestPosition → Prop} (hP : ∀ e, P (e.1, e.2.withoutFunding) ↔ P e)
    (hall : ∀ e ∈ positions.entries, P e) : ∀ e ∈ positions'.entries, P e := by
  intro e he
  have hmem : (e.1, e.2.withoutFunding) ∈ entriesWithoutFunding positions := by
    rw [← h]
    exact List.mem_map_of_mem he
  obtain ⟨e', he', heq⟩ := List.mem_map.1 hmem
  rw [← hP, ← heq, hP]
  exact hall e' he'

theorem Keyed.of_withoutFunding (h : Keyed positions)
    (heq : entriesWithoutFunding positions' = entriesWithoutFunding positions) :
    Keyed positions' :=
  forall_entries_of_withoutFunding heq (fun _ => Iff.rfl) h

theorem keyed_processPoint {s : BacktestState} (h : Keyed s.positions) (data : MarketDataPoint) :
    Keyed (processPoint config s data).positions := by
  have hsignal : Keyed (handleSignal config s data).positions := by
    generalize handleSignal config s data = s', handleSignal_step config s data = hstep
    cases hstep with
    | hold => exact h
    | enter spot perp => exact (h.updatePositionFromTrade spot).updatePositionFromTrade perp
    | exit => exact h.erase _
  obtain ⟨positions, paid, received, heq, hentries⟩ :=
    handleFunding_eq (handleSignal config s data) data
  rw [processPoint, heq]
  exact hsignal.of_withoutFunding hentries

/-! ## Runs -/

def AtEachPoint (config : BacktestConfig) (P : BacktestState → MarketDataPoint → Prop)
    (s : BacktestState) (days : List DayData) : Prop :=
  Along (processDay config) (fun s day =>
    Along (processPoint config) P { s with dayTrades := [] } day.dataPoints) s days

instance (config : BacktestConfig) (P : BacktestState → MarketDataPoint → Prop)
    [∀ s data, Decidable (P s data)] (s : BacktestState) (days : List DayData) :
    Decidable (AtEachPoint config P s days) :=
  inferInstanceAs (Decidable (Along _ _ _ _))

/-- What the points that meet a condition keep, and what is neither about the trades of the day nor
about the snapshots. -/
structure KeptBy (config : BacktestConfig) (P : BacktestState → MarketDataPoint → Prop)
    (I : BacktestState → Prop) : Prop where
  point : ∀ s data, I s → P s data → I (processPoint config s data)
  dayTrades : ∀ s trades, I s → I { s with dayTrades := trades }
  dailySnapshots : ∀ s snapshots, I s → I { s with dailySnapshots := snapshots }

section

variable {config : BacktestConfig} {P Q : BacktestState → MarketDataPoint → Prop}
  {I : BacktestState → Prop} {s : BacktestState}

section

variable (h : KeptBy config P I) {day : DayData} (hs : I s)
  (hpoints : Along (processPoint config) P { s with dayTrades := [] } day.dataPoints)

include h hs hpoints

theorem KeptBy.processPoints :
    I (processPoints config s day) :=
  hpoints.invariant h.point (h.dayTrades s [] hs)

theorem KeptBy.processDay :
    I (processDay config s day) :=
  h.dailySnapshots _ _ (h.processPoints hs hpoints)

end

theorem AtEachPoint.mono {days : List DayData} (hkept : KeptBy config P I)
    (hweaker : ∀ s data, I s → P s data → Q s data) (h : AtEachPoint config P s days) (hs : I s) :
    AtEachPoint config Q s days := by
  refine Along.mono_of_invariant (fun s day hs hday => hkept.processDay hs hday)
    (fun s day hs hday => ?_) h hs
  exact hday.mono_of_invariant hkept.point hweaker (hkept.dayTrades s [] hs)

end

theorem keptBy_keyed (config : BacktestConfig) (P : BacktestState → MarketDataPoint → Prop) :
    KeptBy config P fun s => Keyed s.positions where
  point _ data h _ := keyed_processPoint h data
  dayTrades _ _ h := h
  dailySnapshots _ _ h := h

theorem keyed_initial (config : BacktestConfig) : Keyed (BacktestState.initial config).positions :=
  fun _ he => nomatch he

end SentinelApex.Backtest
