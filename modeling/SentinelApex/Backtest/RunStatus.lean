import SentinelApex.Backtest.Engine
import SentinelApex.Lib.Runs

/-!
# The status of backtest runs

`startBacktest` starts a simulation that runs until it waits for the market data, and then from one
callback or `await` to the next. `cancelBacktest` may come whenever a simulation is interrupted: it
writes `cancelled` into the run, whatever its status, and the simulation answers with an error that
writes `failed`. A terminal status stays exactly if no cancelled run is simulated further, no run
that is completed or failed is cancelled, and `onComplete` does not throw (`statusFinal_iff`).
-/

namespace SentinelApex.Backtest

open Runs

/-! ## Runs and simulations -/

inductive BacktestStatus where
  | pending
  | running
  | completed
  | failed
  | cancelled
  deriving DecidableEq, Repr

def BacktestStatus.IsTerminal : BacktestStatus → Prop
  | .pending | .running => False
  | .completed | .failed | .cancelled => True

/-- The run that `getRun` returns. Its results are given by the state that `buildResults` sums
up. -/
structure BacktestRun where
  backtestId : String
  status : BacktestStatus
  error : Option String
  results : Option BacktestState

/-- Where `runSimulation` is interrupted. -/
inductive SimulationPhase where
  /-- The market data is being generated. -/
  | generating
  /-- In `onProgress` or in the `await` after a day, with the days that are left. -/
  | simulated (rest : List DayData) (state : BacktestState)
  /-- In `onComplete`. -/
  | completing
  /-- The promise is rejected, and the handler of `startBacktest` has not run. -/
  | rejected (message : String)
  | settled

structure Simulation where
  config : BacktestConfig
  run : BacktestRun
  aborted : Bool
  phase : SimulationPhase

namespace Simulation

/-- `startBacktest` up to the first `await` of the simulation. -/
def startBacktest (config : BacktestConfig) : Except String Simulation :=
  let validation := validateBacktestConfig config
  if validation.valid = false then
    .error ("Invalid backtest config: " ++ ", ".intercalate validation.errors)
  else
    let run : BacktestRun :=
      { backtestId := config.backtestId, status := .pending, error := none, results := none }
    .ok
      { config
        run := { run with status := .running }
        aborted := false
        phase := .generating }

/-- The `catch` block of `runSimulation`. -/
def reject (sim : Simulation) (message : String) : Simulation :=
  { sim with
    run := { sim.run with status := .failed, error := some message }
    phase := .rejected message }

/-- The head of the loop over the days. -/
def nextDay (sim : Simulation) (days : List DayData) (state : BacktestState) : Simulation :=
  match days with
  | [] =>
    { sim with
      run := { sim.run with results := some state, status := .completed }
      phase := .completing }
  | day :: rest =>
    if sim.aborted then sim.reject "Backtest cancelled"
    else { sim with phase := .simulated rest (processDay sim.config state day) }

/-- How an interruption ends. -/
inductive Event where
  | generated (marketData : List MarketDataPoint)
  | resumed
  | threw (message : String)

/-- The simulation from one interruption to the next. An error may be that of a callback or of the
code after it. -/
def step (sim : Simulation) (event : Event) : Simulation :=
  match sim.phase, event with
  | .generating, .generated marketData =>
    sim.nextDay (groupDataByDay marketData) (.initial sim.config)
  | .simulated rest state, .resumed => sim.nextDay rest state
  | .completing, .resumed => { sim with phase := .settled }
  | .generating, .threw message => sim.reject message
  | .simulated _ _, .threw message => sim.reject message
  | .completing, .threw message => sim.reject message
  | .rejected message, .resumed =>
    { sim with
      run := { sim.run with status := .failed, error := some message }
      phase := .settled }
  | _, _ => sim

def cancelBacktest (sim : Simulation) : Simulation :=
  { sim with aborted := true, run := { sim.run with status := .cancelled } }

end Simulation

/-! ## The engine -/

/-- The runs in the order of their start; `createId` gives each its own id, so that the position of
a run stands for the id. -/
abbrev BacktestEngine := List Simulation

inductive BacktestEvent where
  | start (config : BacktestConfig)
  | cancel (run : ℕ)
  | simulate (run : ℕ) (event : Simulation.Event)

namespace BacktestEngine

/-- A configuration that is not valid starts no run. -/
def start (engine : BacktestEngine) (config : BacktestConfig) : BacktestEngine :=
  match Simulation.startBacktest config with
  | .ok sim => engine ++ [sim]
  | .error _ => engine

def handle (engine : BacktestEngine) : BacktestEvent → BacktestEngine
  | .start config => engine.start config
  | .cancel run => List.modify engine run Simulation.cancelBacktest
  | .simulate run event => List.modify engine run fun sim => sim.step event

/-- The status that `getRun` shows; `none` before the run is started. -/
def status (engine : BacktestEngine) (run : ℕ) : Option BacktestStatus :=
  (engine[run]?).map fun sim => sim.run.status

/-- Whatever comes after a run has become terminal, its status stays. -/
def StatusFinal (events : List BacktestEvent) : Prop :=
  ∀ pre mid post, events = pre ++ mid ++ post → ∀ run status,
    (pre.foldl handle []).status run = some status → status.IsTerminal →
      ((pre ++ mid).foldl handle []).status run = some status

end BacktestEngine

/-! ## One simulation -/

namespace Simulation

/-- What the phase says about the status; a cancelled run is aborted. -/
structure Sound (sim : Simulation) : Prop where
  status : sim.run.status = .cancelled ∨ match sim.phase with
    | .generating | .simulated _ _ => sim.run.status = .running
    | .completing => sim.run.status = .completed
    | .rejected _ => sim.run.status = .failed
    | .settled => sim.run.status = .completed ∨ sim.run.status = .failed
  aborted : sim.run.status = .cancelled → sim.aborted = true

/-- A step that does not write over a terminal status: the run is not cancelled while there is
something left to simulate or an error to handle, and `onComplete` does not throw. -/
def Keeps (sim : Simulation) (event : Event) : Prop :=
  match sim.phase, event with
  | .generating, .generated _ => sim.run.status ≠ .cancelled
  | .generating, .threw _ => sim.run.status ≠ .cancelled
  | .simulated _ _, .resumed => sim.run.status ≠ .cancelled
  | .simulated _ _, .threw _ => sim.run.status ≠ .cancelled
  | .completing, .threw _ => False
  | .rejected _, .resumed => sim.run.status ≠ .cancelled
  | _, _ => True

variable {sim : Simulation}

theorem sound_startBacktest {config : BacktestConfig} (h : startBacktest config = .ok sim) :
    sim.Sound := by
  unfold startBacktest at h
  dsimp only at h
  split_ifs at h
  obtain rfl := Except.ok.inj h
  exact ⟨Or.inr rfl, fun h => nomatch h⟩

theorem Sound.cancelBacktest (_ : sim.Sound) : sim.cancelBacktest.Sound :=
  ⟨Or.inl rfl, fun _ => rfl⟩

theorem sound_reject (sim : Simulation) (message : String) : (sim.reject message).Sound :=
  ⟨Or.inr rfl, fun h => nomatch h⟩

theorem sound_nextDay (hstatus : sim.run.status = .cancelled ∨ sim.run.status = .running)
    (haborted : sim.run.status = .cancelled → sim.aborted = true) (days : List DayData)
    (state : BacktestState) : (sim.nextDay days state).Sound := by
  cases days with
  | nil => exact ⟨Or.inr rfl, fun h => nomatch h⟩
  | cons day rest =>
    unfold nextDay
    dsimp only
    split_ifs
    · exact sound_reject _ _
    · exact ⟨hstatus, haborted⟩

/-- A cancelled run that is simulated further fails, or completes when no day is left. -/
theorem status_nextDay_ne (haborted : sim.aborted = true) (days : List DayData)
    (state : BacktestState) : (sim.nextDay days state).run.status ≠ .cancelled := by
  cases days with
  | nil => exact fun h => nomatch h
  | cons day rest =>
    unfold nextDay
    dsimp only
    rw [if_pos haborted]
    exact fun h => nomatch h

theorem Sound.step (h : sim.Sound) (event : Event) : (sim.step event).Sound := by
  obtain ⟨config, run, aborted, phase⟩ := sim
  obtain ⟨hstatus, haborted⟩ := h
  cases phase with
  | generating =>
    cases event with
    | generated marketData => exact sound_nextDay hstatus haborted _ _
    | resumed => exact ⟨hstatus, haborted⟩
    | threw message => exact sound_reject _ message
  | simulated rest state =>
    cases event with
    | generated => exact ⟨hstatus, haborted⟩
    | resumed => exact sound_nextDay hstatus haborted rest state
    | threw message => exact sound_reject _ message
  | completing =>
    cases event with
    | generated => exact ⟨hstatus, haborted⟩
    | resumed => exact ⟨hstatus.imp_right Or.inl, haborted⟩
    | threw message => exact sound_reject _ message
  | rejected message =>
    cases event with
    | resumed => exact ⟨Or.inr (Or.inr rfl), fun h => nomatch h⟩
    | generated | threw => exact ⟨hstatus, haborted⟩
  | settled => cases event <;> exact ⟨hstatus, haborted⟩

/-- A run that is cancelled or running keeps a terminal status in a step that ends a cancellation
exactly if it is not cancelled. -/
theorem keeps_status_iff {after : BacktestStatus}
    (hstatus : sim.run.status = .cancelled ∨ sim.run.status = .running)
    (hafter : sim.run.status = .cancelled → after ≠ .cancelled) :
    (sim.run.status.IsTerminal → after = sim.run.status) ↔ sim.run.status ≠ .cancelled := by
  constructor
  · intro hkeeps hcancelled
    refine hafter hcancelled ?_
    rw [hkeeps (by rw [hcancelled]; trivial), hcancelled]
  · intro hne hterminal
    rw [hstatus.resolve_left hne] at hterminal
    exact hterminal.elim

theorem Sound.step_keeps_iff (h : sim.Sound) (event : Event) :
    (sim.run.status.IsTerminal → (sim.step event).run.status = sim.run.status) ↔
      sim.Keeps event := by
  obtain ⟨config, run, aborted, phase⟩ := sim
  obtain ⟨hstatus, haborted⟩ := h
  have same : (run.status.IsTerminal → run.status = run.status) ↔ True := by simp
  cases phase with
  | generating =>
    cases event with
    | generated marketData =>
      exact keeps_status_iff hstatus fun hc => status_nextDay_ne (haborted hc) _ _
    | resumed => exact same
    | threw message => exact keeps_status_iff hstatus fun _ h => nomatch h
  | simulated rest state =>
    cases event with
    | generated => exact same
    | resumed => exact keeps_status_iff hstatus fun hc => status_nextDay_ne (haborted hc) _ _
    | threw message => exact keeps_status_iff hstatus fun _ h => nomatch h
  | completing =>
    cases event with
    | generated | resumed => exact same
    | threw message =>
      refine iff_of_false (fun hkeeps => ?_) id
      -- The status is completed or cancelled, and becomes failed.
      rcases hstatus with hc | hc <;>
        · dsimp only at hc
          have hfailed : BacktestStatus.failed = run.status := hkeeps (by simp only [hc]; trivial)
          rw [hc] at hfailed
          cases hfailed
  | rejected message =>
    cases event with
    | generated => exact same
    | resumed =>
      rcases hstatus with hc | hf
      · exact keeps_status_iff (Or.inl hc) fun _ h => nomatch h
      · dsimp only at hf
        refine iff_of_true (fun _ => hf.symm) fun hc => ?_
        dsimp only at hc
        rw [hf] at hc
        cases hc
    | threw => exact same
  | settled => cases event <;> exact same

theorem cancelBacktest_keeps_iff (sim : Simulation) :
    (sim.run.status.IsTerminal → sim.cancelBacktest.run.status = sim.run.status) ↔
      sim.run.status ≠ .completed ∧ sim.run.status ≠ .failed := by
  show (_ → BacktestStatus.cancelled = sim.run.status) ↔ _
  cases sim.run.status <;> simp [BacktestStatus.IsTerminal]

end Simulation

/-! ## All runs -/

namespace BacktestEngine

/-- An event that writes over no terminal status. -/
def Keeps (engine : BacktestEngine) : BacktestEvent → Prop
  | .start _ => True
  | .cancel run => ∀ sim, engine[run]? = some sim →
      sim.run.status ≠ .completed ∧ sim.run.status ≠ .failed
  | .simulate run event => ∀ sim, engine[run]? = some sim → sim.Keeps event

/-- The event leaves every terminal status as it is. -/
def StepFinal (engine : BacktestEngine) (event : BacktestEvent) : Prop :=
  ∀ run status, engine.status run = some status → status.IsTerminal →
    (engine.handle event).status run = some status

variable {engine : BacktestEngine}

theorem forall_modify {I : Simulation → Prop} (h : ∀ sim ∈ engine, I sim) (run : ℕ)
    {f : Simulation → Simulation} (hf : ∀ sim, I sim → I (f sim)) :
    ∀ sim ∈ List.modify engine run f, I sim := by
  intro sim hmem
  obtain ⟨i, hi⟩ := List.mem_iff_getElem?.1 hmem
  rw [List.getElem?_modify, Option.map_eq_map, Option.map_eq_some_iff] at hi
  obtain ⟨sim₀, hget, rfl⟩ := hi
  have hsim₀ := h sim₀ (List.mem_of_getElem? hget)
  split_ifs
  · exact hf _ hsim₀
  · exact hsim₀

/-- What every simulation starts with, and what cancelling and simulating keep. -/
theorem forall_handle {I : Simulation → Prop}
    (hstart : ∀ config sim, Simulation.startBacktest config = .ok sim → I sim)
    (hcancel : ∀ sim, I sim → I sim.cancelBacktest)
    (hstep : ∀ sim event, I sim → I (sim.step event)) (event : BacktestEvent)
    (h : ∀ sim ∈ engine, I sim) : ∀ sim ∈ engine.handle event, I sim := by
  cases event with
  | start config =>
    show ∀ sim ∈ engine.start config, I sim
    unfold start
    cases hconfig : Simulation.startBacktest config with
    | error message => exact h
    | ok sim =>
      intro sim' hmem
      rcases List.mem_append.1 hmem with hold | hnew
      · exact h sim' hold
      · obtain rfl := List.mem_singleton.1 hnew
        exact hstart config _ hconfig
  | cancel run => exact forall_modify h run hcancel
  | simulate run event => exact forall_modify h run fun sim => hstep sim event

def Sound (engine : BacktestEngine) : Prop := ∀ sim ∈ engine, sim.Sound

theorem Sound.handle (h : engine.Sound) (event : BacktestEvent) : (engine.handle event).Sound :=
  forall_handle (fun _ _ => Simulation.sound_startBacktest) (fun _ hsim => hsim.cancelBacktest)
    (fun _ event hsim => hsim.step event) event h

theorem status_modify_iff (engine : BacktestEngine) (run : ℕ) (f : Simulation → Simulation) :
    (∀ i status, engine.status i = some status → status.IsTerminal →
        BacktestEngine.status (List.modify engine run f) i = some status) ↔
      ∀ sim, engine[run]? = some sim →
        sim.run.status.IsTerminal → (f sim).run.status = sim.run.status := by
  have hmodify (i : ℕ) : BacktestEngine.status (List.modify engine run f) i =
      (engine[i]?).map fun sim => (if run = i then f sim else sim).run.status := by
    rw [BacktestEngine.status, List.getElem?_modify, Option.map_eq_map, Option.map_map]
    rfl
  constructor
  · intro h sim hget hterminal
    have hstatus := h run sim.run.status (by rw [BacktestEngine.status, hget]; rfl) hterminal
    rw [hmodify, hget] at hstatus
    simpa using hstatus
  · intro h i status hstatus hterminal
    rw [BacktestEngine.status, Option.map_eq_some_iff] at hstatus
    obtain ⟨sim, hget, rfl⟩ := hstatus
    rw [hmodify, hget, Option.map_some]
    split_ifs with hrun
    · subst hrun
      rw [h sim hget hterminal]
    · rfl

theorem stepFinal_iff (h : engine.Sound) (event : BacktestEvent) :
    engine.StepFinal event ↔ engine.Keeps event := by
  cases event with
  | start config =>
    refine iff_of_true (fun run status hstatus _ => ?_) trivial
    show (engine.start config).status run = some status
    unfold start
    cases Simulation.startBacktest config with
    | error message => exact hstatus
    | ok sim =>
      rw [BacktestEngine.status, Option.map_eq_some_iff] at hstatus ⊢
      obtain ⟨sim', hget, hstatus⟩ := hstatus
      refine ⟨sim', ?_, hstatus⟩
      rw [List.getElem?_append_left (List.getElem?_eq_some_iff.1 hget).1, hget]
  | cancel run =>
    refine (status_modify_iff engine run _).trans ?_
    exact forall₂_congr fun sim _ => sim.cancelBacktest_keeps_iff
  | simulate run event =>
    refine (status_modify_iff engine run _).trans ?_
    exact forall₂_congr fun sim hget => (h sim (List.mem_of_getElem? hget)).step_keeps_iff event

theorem statusFinal_iff_along (events : List BacktestEvent) :
    StatusFinal events ↔ Along handle StepFinal [] events := by
  constructor
  · intro h
    refine along_iff_forall_append.2 fun pre event post heq run status hstatus hterminal => ?_
    have hfinal := h pre [event] post (by simpa using heq) run status hstatus hterminal
    rwa [List.foldl_append] at hfinal
  · rintro h pre mid post rfl run status hstatus hterminal
    have hmid : Along handle StepFinal (pre.foldl handle []) mid :=
      (along_append_iff.1 (along_append_iff.1 h).1).2
    rw [List.foldl_append]
    exact hmid.invariant (I := fun engine => engine.status run = some status)
      (fun engine event hrun hfinal => hfinal run status hrun hterminal) hstatus

/-- Terminal statuses are final in exactly the schedules whose events all keep them. -/
theorem statusFinal_iff (events : List BacktestEvent) :
    StatusFinal events ↔ Along handle Keeps [] events := by
  have hsound : Sound [] := fun _ hmem => nomatch hmem
  rw [statusFinal_iff_along]
  constructor
  · exact fun h => h.mono_of_invariant (I := Sound) (fun _ event hs _ => hs.handle event)
      (fun _ event hs hfinal => (stepFinal_iff hs event).1 hfinal) hsound
  · exact fun h => h.mono_of_invariant (I := Sound) (fun _ event hs _ => hs.handle event)
      (fun _ event hs hkeeps => (stepFinal_iff hs event).2 hkeeps) hsound

/-- A run that is cancelled while its market data is generated fails; one that is cancelled in the
callback of its last day completes; and one that is completed can be cancelled. -/
theorem not_statusFinal :
    ¬ StatusFinal [.start oneDayConfig, .cancel 0,
        .simulate 0 (.generated [btcPoint 0 50000 50100 0])] ∧
      ¬ StatusFinal [.start oneDayConfig,
        .simulate 0 (.generated [btcPoint 0 50000 50100 0]), .cancel 0, .simulate 0 .resumed] ∧
      ¬ StatusFinal [.start oneDayConfig,
        .simulate 0 (.generated [btcPoint 0 50000 50100 0]), .simulate 0 .resumed, .cancel 0] := by
  refine ⟨fun h => ?_, fun h => ?_, fun h => ?_⟩
  · have hfinal := h [_, _] [_] [] rfl 0 .cancelled (by decide +kernel) trivial
    exact absurd hfinal (by decide +kernel)
  · have hfinal := h [_, _, _] [_] [] rfl 0 .cancelled (by decide +kernel) trivial
    exact absurd hfinal (by decide +kernel)
  · have hfinal := h [_, _, _] [_] [] rfl 0 .completed (by decide +kernel) trivial
    exact absurd hfinal (by decide +kernel)

end BacktestEngine

end SentinelApex.Backtest
