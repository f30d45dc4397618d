import SentinelApex.Backtest.Steps

/-!
# Exits of a backtest

An exit signal names its position by the asset, and the legs of an asset are stored under other keys
(`positionKey_ne`). So every point that calls for an exit leaves the legs of its asset open: a run
closes its hedges exactly if it never has to (`exitsClose_iff`).
-/

namespace SentinelApex.Backtest

open Runs

variable {config : BacktestConfig} {s : BacktestState} {data : MarketDataPoint}

def openLegs (positions : Positions) (asset : String) : List BacktestPosition :=
  positions.values.filter fun p => decide (p.asset = asset)

/-- The asset has open legs, and the basis is below the exit threshold. -/
def ExitTriggered (config : BacktestConfig) (s : BacktestState) (data : MarketDataPoint) : Prop :=
  openLegs s.positions data.asset ≠ [] ∧ data.basisPct < config.strategy.exitBasisThresholdPct

instance : Decidable (ExitTriggered config s data) := inferInstanceAs (Decidable (_ ∧ _))

def exitTradesOf (config : BacktestConfig) (s : BacktestState) (data : MarketDataPoint) :
    List BacktestTrade :=
  ((processPoint config s data).trades.drop s.trades.length).filter fun t => t.realizedPnl.isSome

/-- No leg of the asset stays open, and one exit trade is recorded for each leg that was. -/
def ExitCloses (config : BacktestConfig) (s : BacktestState) (data : MarketDataPoint) : Prop :=
  openLegs (processPoint config s data).positions data.asset = [] ∧
    ((exitTradesOf config s data).map fun t => (t.asset, t.marketType)).Perm
      ((openLegs s.positions data.asset).map fun p => (p.asset, p.marketType))

instance : Decidable (ExitCloses config s data) := inferInstanceAs (Decidable (_ ∧ _))

/-- At every point of a run that calls for an exit, the exit closes the hedge. -/
def ExitsClose (config : BacktestConfig) (marketData : List MarketDataPoint) : Prop :=
  AtEachPoint config (fun s data => ExitTriggered config s data → ExitCloses config s data)
    (.initial config) (groupDataByDay marketData)

instance (marketData : List MarketDataPoint) : Decidable (ExitsClose config marketData) :=
  inferInstanceAs (Decidable (AtEachPoint _ _ _ _))

variable {asset : String} {positions : Positions}

theorem openLegs_ne_nil_iff :
    openLegs positions asset ≠ [] ↔ ∃ e ∈ positions.entries, e.2.asset = asset := by
  constructor
  · intro h
    obtain ⟨p, hp⟩ := List.exists_mem_of_ne_nil _ h
    obtain ⟨hvalue, hasset⟩ := List.mem_filter.1 hp
    obtain ⟨e, he, rfl⟩ := List.mem_map.1 hvalue
    exact ⟨e, he, of_decide_eq_true hasset⟩
  · rintro ⟨e, he, hasset⟩
    exact List.ne_nil_of_mem (List.mem_filter.2 ⟨List.mem_map_of_mem he, decide_eq_true hasset⟩)

theorem asset_ne_of_get? (h : Keyed positions) {position : BacktestPosition}
    (hget : positions.get? asset = some position) :
    position.asset ≠ asset := by
  rintro rfl
  have hkey := h _ (OrderedMap.mem_entries_of_get? hget)
  exact positionKey_ne _ _ hkey.symm

/-- The signal of a point closes no leg of its asset. -/
theorem openLegs_handleSignal_ne_nil (h : Keyed s.positions)
    (hopen : openLegs s.positions data.asset ≠ []) :
    openLegs (handleSignal config s data).positions data.asset ≠ [] := by
  obtain ⟨e, hmem, hasset⟩ := openLegs_ne_nil_iff.1 hopen
  generalize handleSignal config s data = s', handleSignal_step config s data = hstep
  cases hstep with
  | hold => exact hopen
  | enter spot perp hnone =>
    have hfalse := List.find?_eq_none.1 hnone e.2 (List.mem_map_of_mem hmem)
    simp [hasset] at hfalse
  | exit =>
    have hkey : e.1 ≠ data.asset := by
      intro hkey
      have hmem' : (data.asset, e.2) ∈ s.positions.entries := hkey ▸ hmem
      exact asset_ne_of_get? h (OrderedMap.get?_eq_some_iff.2 hmem') hasset
    refine openLegs_ne_nil_iff.2 ⟨e, List.mem_filter.2 ⟨hmem, ?_⟩, hasset⟩
    simpa using hkey

theorem openLegs_handleFunding_ne_nil (hopen : openLegs s.positions asset ≠ []) :
    openLegs (handleFunding s data).positions asset ≠ [] := by
  obtain ⟨positions, paid, received, heq, hentries⟩ := handleFunding_eq s data
  rw [heq]
  rw [openLegs_ne_nil_iff] at hopen ⊢
  by_contra hnone
  obtain ⟨e, hmem, hasset⟩ := hopen
  refine forall_entries_of_withoutFunding (P := fun e => e.2.asset ≠ asset) hentries.symm
    (fun _ => Iff.rfl) (fun e he ha => hnone ⟨e, he, ha⟩) e hmem hasset

theorem openLegs_processPoint_ne_nil (h : Keyed s.positions)
    (hopen : openLegs s.positions data.asset ≠ []) :
    openLegs (processPoint config s data).positions data.asset ≠ [] :=
  openLegs_handleFunding_ne_nil (openLegs_handleSignal_ne_nil h hopen)

theorem not_exitCloses (h : Keyed s.positions) (htriggered : ExitTriggered config s data) :
    ¬ ExitCloses config s data :=
  fun hcloses => openLegs_processPoint_ne_nil h htriggered.1 hcloses.1

/-- The exits of a run close their hedges exactly if no point calls for an exit. -/
theorem exitsClose_iff (config : BacktestConfig) (marketData : List MarketDataPoint) :
    ExitsClose config marketData ↔
      AtEachPoint config (fun s data => ¬ ExitTriggered config s data) (.initial config)
        (groupDataByDay marketData) := by
  constructor
  · intro h
    refine h.mono (keptBy_keyed config _) (fun s data hkeyed hcloses htriggered => ?_)
      (keyed_initial config)
    exact not_exitCloses hkeyed htriggered (hcloses htriggered)
  · intro h
    exact h.mono (keptBy_keyed config _) (fun s data _ hnot htriggered => absurd htriggered hnot)
      (keyed_initial config)

/-- BTC is entered at a basis of 0.2 %, which is 0.002 % eight hours later. -/
theorem not_exitsClose :
    (validateBacktestConfig oneDayConfig).valid = true ∧
      ¬ ExitsClose oneDayConfig
        [btcPoint 0 50000 50100 (1 / 10000), btcPoint 8 50500 50501 (1 / 10000)] := by
  decide +kernel

end SentinelApex.Backtest
