import SentinelApex.Lib.TaskContract
import SentinelApex.Runtime.CarryCompletion

/-!
# Guardrails of concurrent carry executions

Any number of executions of carry actions run concurrently, under any schedule and any faults. The
guard for the notional takes an order without a limit price for free, and the guard for the
concurrency counts the action that asks (`guardrails_miss`).

The guards hold in every run in which the orders carry limit prices, the limit is at least 1, an
action is marked as executing while it is approved or queued, and an action that was started alone
finds room for one action more than itself (`guardrails_bind`).
-/

namespace SentinelApex

open Async

/-! ## Events -/

def submitsOrder (e : CarryEvent) : Bool :=
  match e.call with
  | .executor _ _ (.placeOrder _) => true
  | _ => false

/-- The number of executing actions that a guard has read. -/
def countRead : CarryEvent → Option ℕ
  | ⟨_, .getExecutingActionCount, .ok executing, _⟩ => some executing
  | _ => none

def CarryTables.othersExecuting (tables : CarryTables) (actionId : String) : ℕ :=
  tables.actions.countP fun row => decide (row.status = .executing ∧ row.id ≠ actionId)

def startsAlone (actionId : String) (e : CarryEvent) : Bool :=
  match e.call with
  | .markCarryActionExecuting marked =>
    decide (marked = actionId) && decide (e.before.tables.othersExecuting actionId = 0)
  | _ => false

def CarryAction.startable (action : CarryAction) : Bool :=
  decide (action.status = .approved) || decide (action.status = .queued)

/-- An action is marked as executing while it is approved or queued. -/
def marksStartable (e : CarryEvent) : Bool :=
  match e.call with
  | .markCarryActionExecuting marked =>
    e.before.tables.actions.all fun row => !decide (row.id = marked) || row.startable
  | _ => true

/-! ## Concurrent executions -/

structure CarryExecutions (ι : Type) where
  runtime : SentinelRuntime
  env : CarryEnvironment
  inputs : ι → ExecuteCarryInput
  readings : ι → ℕ → StepReadings
  nows : ι → Date
  schedule : List ι
  start : CarryWorld

namespace CarryExecutions

variable {ι : Type} [DecidableEq ι] (x : CarryExecutions ι)

def task (i : ι) : CarryTask ExecuteCarryResult :=
  executeCarryAction x.runtime (x.inputs i) (x.readings i) (x.nows i)

def actionId (i : ι) : String := (x.inputs i).actionId

def events : List (ι × CarryEvent) := poolEvents (handleCarry x.env) x.schedule x.task x.start

def final : CarryWorld := (runPool (handleCarry x.env) x.schedule x.task x.start).2

def config : Option ExecutionGuardrailConfig :=
  x.start.tables.getGuardrailConfig "global" "carry"

def orders (i : ι) : List CarryPlannedOrder := x.start.tables.ordersOf (x.actionId i)

/-- The limits of the configuration. -/
def maxNotional : Option Decimal := x.config.bind fun config => config.maxSingleActionNotionalUsd

def maxConcurrent : Option ℤ := x.config.bind fun config => config.maxConcurrentExecutions

/-- The guard for the concurrency lets the execution pass. -/
def admits (e : ι × CarryEvent) : Bool :=
  (countRead e.2).any fun executing =>
    (concurrencyStop? x.config (x.actionId e.1) executing).isNone

/-- The number of executing actions that have passed the guards. -/
def pastGuards (events : List (ι × CarryEvent)) (tables : CarryTables) : ℕ :=
  tables.actions.countP fun row => decide (row.status = .executing) &&
    events.any fun e => decide (x.actionId e.1 = row.id) && x.admits e

end CarryExecutions

/-- The sum over the orders of size times price, where an order without a limit price is executed at
the price of the market. -/
def executedNotional (market : CarryPlannedOrder → Decimal) (plannedOrders : List CarryPlannedOrder) :
    Number :=
  plannedOrders.foldl (fun sum order =>
    sum.add ((Number.ofDecimal order.requestedSize).mul
      (Number.ofDecimal (order.requestedPrice.getD (market order))))) 0

theorem executedNotional_of_priced {market : CarryPlannedOrder → Decimal}
    {plannedOrders : List CarryPlannedOrder}
    (h : ∀ order ∈ plannedOrders, order.requestedPrice.isSome = true) :
    executedNotional market plannedOrders = totalNotional plannedOrders := by
  unfold executedNotional totalNotional
  apply List.foldl_ext
  intro sum order horder
  obtain ⟨price, hprice⟩ := Option.isSome_iff_exists.1 (h order horder)
  rw [hprice]
  rfl

/-! ## What a call does to the actions -/

section Calls

variable (env : CarryEnvironment) (c : CarryCall) (w : CarryWorld)

theorem handleCarry_tables :
    (handleCarry env c w).2.tables = (performCarry env w c).2.tables ∨
      (handleCarry env c w).2.tables = w.tables := by
  unfold handleCarry
  dsimp only
  split
  · exact Or.inl rfl
  · exact Or.inr rfl
  · exact Or.inl rfl

theorem handleCarry_ok {a : c.Reply} (ha : (handleCarry env c w).1 = .ok a) :
    (performCarry env w c).1 = .ok a ∧
      (handleCarry env c w).2.tables = (performCarry env w c).2.tables := by
  unfold handleCarry at ha ⊢
  dsimp only at ha ⊢
  split at ha
  · exact ⟨ha, rfl⟩
  · cases ha
  · cases ha

structure MovesActions (c : CarryCall) (f : CarryAction → CarryAction) : Prop where
  id : ∀ row, (f row).id = row.id
  status : ∀ row, (f row).status = row.status ∨ (f row).status = .failed ∨
    (f row).status = .completed ∨
      (c = .markCarryActionExecuting row.id ∧ (f row).status = .executing)

theorem movesActions_id : MovesActions c id := ⟨fun _ => rfl, fun _ => Or.inl rfl⟩

theorem movesActions_update {c : CarryCall} {updated : String} {status : ActionStatus}
    {f : CarryAction → CarryAction} (hid : ∀ row, (f row).id = row.id)
    (hstatus : ∀ row, (f row).status = status)
    (hto : status = .failed ∨ status = .completed ∨
      (c = .markCarryActionExecuting updated ∧ status = .executing)) :
    MovesActions c fun row => if row.id = updated then f row else row := by
  constructor
  · intro row
    split_ifs
    · exact hid row
    · rfl
  · intro row
    split_ifs with hrow
    · rw [hrow, hstatus]
      exact Or.inr hto
    · exact Or.inl rfl

theorem performCarry_actions : ∃ f, MovesActions c f ∧
    (performCarry env w c).2.tables.actions = w.tables.actions.map f := by
  have hsame : ∃ f, MovesActions c f ∧ w.tables.actions = w.tables.actions.map f :=
    ⟨id, movesActions_id c, (List.map_id _).symm⟩
  cases c with
  | failCarryAction updated executionId message =>
    refine ⟨_, ?_, rfl⟩
    exact movesActions_update (fun _ => rfl) (fun _ => rfl) (Or.inl rfl)
  | completeCarryAction updated executionId =>
    refine ⟨_, ?_, rfl⟩
    exact movesActions_update (fun _ => rfl) (fun _ => rfl) (Or.inr (Or.inl rfl))
  | markCarryActionExecuting updated =>
    refine ⟨_, ?_, rfl⟩
    exact movesActions_update (fun _ => rfl) (fun _ => rfl) (Or.inr (Or.inr ⟨rfl, rfl⟩))
  | _ => exact hsame

theorem handleCarry_actions : ∃ f, MovesActions c f ∧
    (handleCarry env c w).2.tables.actions = w.tables.actions.map f := by
  rcases handleCarry_tables env c w with htables | htables
  · rw [htables]
    exact performCarry_actions env c w
  · rw [htables]
    exact ⟨id, movesActions_id c, (List.map_id _).symm⟩

theorem handleCarry_planned :
    (handleCarry env c w).2.tables.plannedOrders = w.tables.plannedOrders ∧
      (handleCarry env c w).2.tables.guardrailConfigs = w.tables.guardrailConfigs := by
  rcases handleCarry_tables env c w with htables | htables
  · rw [htables]
    cases c <;> exact ⟨rfl, rfl⟩
  · rw [htables]
    exact ⟨rfl, rfl⟩

theorem handleCarry_mark {updated : String} {w : CarryWorld}
    (h : (handleCarry env (.markCarryActionExecuting updated) w).1 = .ok ()) :
    ∀ row ∈ (handleCarry env (.markCarryActionExecuting updated) w).2.tables.actions,
      row.id = updated → row.status = .executing := by
  rw [(handleCarry_ok env _ w h).2]
  intro row hrow hid
  obtain ⟨old, -, rfl⟩ := List.mem_map.1 hrow
  split_ifs at hid ⊢
  · rfl
  · contradiction

end Calls

/-! ## The order of the calls -/

/-- Whether an execution has marked its action. -/
structure GuardNote where
  actionId : String
  marked : Bool

/-- The count is read after the action is marked, and an order is submitted only if the guard for the
notional lets it pass. -/
def guarding (orders : String → List CarryPlannedOrder)
    (config : Option ExecutionGuardrailConfig) :
    Contract CarryCall CarryCall.Reply String GuardNote where
  reply
    | .getCarryAction id, r => ∀ detail, r = .ok (some detail) →
        detail.action.id = id ∧ detail.plannedOrders = orders id
    | .getGuardrailConfig scopeType scopeId, r => scopeType = "global" → scopeId = "carry" →
        ∀ answer, r = .ok answer → answer = config
    | _, _ => True
  permits
    | .getCarryAction id, g => id = g.actionId
    | .markCarryActionExecuting id, g => id = g.actionId
    | .getExecutingActionCount, g => g.marked = true
    | .executor .., g => guardrailStop? config g.actionId (totalNotional (orders g.actionId)) = none
    | _, _ => True
  note
    | .markCarryActionExecuting _, .ok (), g => { g with marked := true }
    | _, _, g => g

section Follows

variable {orders : String → List CarryPlannedOrder} {config : Option ExecutionGuardrailConfig}
  {g : GuardNote}

theorem guarding_note_actionId (c : CarryCall) (r : Except String c.Reply) :
    ((guarding orders config).note c r g).actionId = g.actionId := by
  cases c with
  | markCarryActionExecuting id => cases r <;> rfl
  | _ => rfl

theorem guarding_ofExit (c : CarryCall) (hc : c.ofExit) :
    (guarding orders config).permits c g ∧ ∀ r, (guarding orders config).note c r g = g := by
  cases c <;> first | exact ⟨trivial, fun r => by cases r <;> rfl⟩ | cases hc

theorem guarding_ofLoop {planned : Prop}
    (hpassed : guardrailStop? config g.actionId (totalNotional (orders g.actionId)) = none)
    (c : CarryCall) (hc : c.ofLoop planned) : (guarding orders config).permits c g ∧
      ∀ r, (guarding orders config).note c r g = g := by
  cases c with
  | executor => exact ⟨hpassed, fun r => by cases r <;> rfl⟩
  | _ =>
    first
    | exact ⟨trivial, fun r => by cases r <;> rfl⟩
    | cases hc <;> contradiction

theorem unlessStopped_follows {α : Type} (action : CarryAction) (executionId : String)
    {stop : Option GuardrailStop} {f : Unit → CarryTask α}
    (hf : stop = none → (guarding orders config).Follows (f ()) g) :
    (guarding orders config).Follows (unlessStopped action executionId stop >>= f) g := by
  cases stop with
  | none => exact hf rfl
  | some stop =>
    exact Contract.follows_fails_bind guarding_ofExit (uses_unlessStopped _ _ _)
      (unlessStopped_fails action executionId stop) f

theorem completeExecution_follows (input : ExecuteCarryInput) {ctx : ExecutionContext}
    (hplan : ctx.planId = none) (orderResults : List CarryOrderResult) :
    (guarding orders config).Follows (completeExecution input ctx orderResults) g := by
  unfold completeExecution
  rw [hplan]
  refine Contract.follows_call_bind _ trivial fun _ _ => ?_
  refine Contract.follows_call_bind _ trivial fun _ _ => ?_
  refine Contract.follows_call_bind _ trivial fun _ _ => ?_
  refine Contract.follows_call_bind _ trivial fun _ _ => ?_
  refine Contract.follows_uses_bind guarding_ofExit (uses_syncLinkedBundle _) fun _ => ?_
  exact Contract.follows_call_bind _ trivial fun _ _ => trivial

theorem enforceGuardrails_follows {α : Type} {detail : CarryActionDetail}
    (hid : detail.action.id = g.actionId) (horders : detail.plannedOrders = orders g.actionId)
    (hmarked : g.marked = true) (executionId : String) {f : Unit → CarryTask α}
    (hf : guardrailStop? config g.actionId (totalNotional (orders g.actionId)) = none →
      (guarding orders config).Follows (f ()) g) :
    (guarding orders config).Follows (enforceGuardrails detail executionId >>= f) g := by
  unfold enforceGuardrails
  rw [Task.bind_assoc]
  refine Contract.follows_call_bind _ trivial fun answer hanswer => ?_
  obtain rfl : answer = config := hanswer rfl rfl answer rfl
  rw [Task.bind_assoc]
  apply unlessStopped_follows
  intro hpassed
  rw [Task.bind_assoc]
  refine Contract.follows_call_bind _ hmarked fun executing _ => ?_
  apply unlessStopped_follows
  intro _
  rw [hid, horders] at hpassed
  exact hf hpassed

section

variable (runtime : SentinelRuntime) (input : ExecuteCarryInput) (readings : ℕ → StepReadings)
  (now : Date)

theorem runExecution_follows {detail : CarryActionDetail} (hid : detail.action.id = g.actionId)
    (horders : detail.plannedOrders = orders g.actionId) (executionId : String) :
    (guarding orders config).Follows
      (runExecution runtime input readings now detail executionId) g := by
  unfold runExecution
  refine Contract.follows_call_bind _ hid fun _ _ => ?_
  refine Contract.follows_call_bind _ trivial fun venues _ => ?_
  refine Contract.follows_uses_bind guarding_ofExit (uses_unlessBlocked _ _ _ _) fun _ => ?_
  refine enforceGuardrails_follows (g := { g with marked := true }) hid horders rfl executionId
    fun hpassed => ?_
  rw [planOrders_eq]
  refine Contract.follows_uses_bind (guarding_ofLoop hpassed) (uses_submitOrders _ _ _ _) ?_
  intro orderResults
  exact completeExecution_follows input rfl orderResults

theorem executeCarryAction_follows : (guarding orders config).Follows
      (executeCarryAction runtime input readings now) ⟨input.actionId, false⟩ := by
  unfold executeCarryAction
  refine Contract.follows_call_bind _ rfl fun answer hanswer => ?_
  cases answer with
  | none => trivial
  | some detail =>
    obtain ⟨hid, horders⟩ := hanswer detail rfl
    dsimp only
    split
    · trivial
    · refine Contract.follows_call_bind _ trivial fun execution _ => ?_
      split
      · exact runExecution_follows runtime input readings now hid horders execution.id
      · exact Contract.follows_of_uses guarding_ofExit (uses_refuseExecution _ _)

end

end Follows

/-! ## Runs -/

namespace CarryExecutions

variable {ι : Type} [DecidableEq ι] (x : CarryExecutions ι)

def notes (i : ι) : GuardNote := ⟨x.actionId i, false⟩

def contract : Contract CarryCall CarryCall.Reply String GuardNote :=
  guarding x.start.tables.ordersOf x.config

abbrev noteAfter (events : List (ι × CarryEvent)) (i : ι) : GuardNote :=
  x.contract.noteOf x.notes events i

/-- The rows of the action are not in a status from which it is executed. -/
def NotStartable (tables : CarryTables) (actionId : String) : Prop :=
  ∀ row ∈ tables.actions, row.id = actionId → row.startable = false

/-- What every schedule keeps. -/
structure Tracked (events : List (ι × CarryEvent)) (w : CarryWorld) : Prop where
  config : w.tables.guardrailConfigs = x.start.tables.guardrailConfigs
  orders : w.tables.plannedOrders = x.start.tables.plannedOrders
  ids : w.tables.actions.map (fun row => row.id) = x.start.tables.actions.map fun row => row.id
  id : ∀ i, (x.noteAfter events i).actionId = x.actionId i
  marked : ∀ i, (x.noteAfter events i).marked = true → NotStartable w.tables (x.actionId i)
  counted : ∀ e ∈ events, (countRead e.2).isSome = true →
    NotStartable w.tables (x.actionId e.1)
  submitted : ∀ e ∈ events, submitsOrder e.2 = true →
    guardrailStop? x.config (x.actionId e.1) (totalNotional (x.orders e.1)) = none
  limited : (∀ e ∈ events, marksStartable e.2 = true) → ∀ limit, x.maxConcurrent = some limit →
    1 ≤ limit → (x.pastGuards events w.tables : ℤ) ≤ limit
  read : ∀ e ∈ events, e.2.before.tables.actions.map (fun row => row.id) =
    x.start.tables.actions.map fun row => row.id
  count : ∀ e ∈ events, ∀ executing, countRead e.2 = some executing →
    executing = e.2.before.tables.getExecutingActionCount

variable {x}

theorem NotStartable.of_moves {tables tables' : CarryTables} {actionId : String}
    (h : NotStartable tables actionId) {c : CarryCall} {f : CarryAction → CarryAction}
    (hf : MovesActions c f) (hactions : tables'.actions = tables.actions.map f) :
    NotStartable tables' actionId := by
  intro row hrow hid
  rw [hactions] at hrow
  obtain ⟨old, hold, rfl⟩ := List.mem_map.1 hrow
  rw [hf.id] at hid
  have hold := h old hold hid
  unfold CarryAction.startable at hold ⊢
  rcases hf.status old with hstatus | hstatus | hstatus | ⟨-, hstatus⟩
  · rwa [hstatus]
  all_goals
    rw [hstatus]
    rfl

theorem countRead_isSome {e : CarryEvent} (h : (countRead e).isSome = true) :
    e.call = .getExecutingActionCount := by
  obtain ⟨before, call, reply, after⟩ := e
  cases call with
  | getExecutingActionCount => rfl
  | _ => cases h

theorem submitsOrder_call {e : CarryEvent} (h : submitsOrder e = true) :
    ∃ actionId venueId c, e.call = .executor actionId venueId c := by
  unfold submitsOrder at h
  split at h
  · rename_i actionId venueId params hcall
    exact ⟨actionId, venueId, _, hcall⟩
  · cases h

section Step

variable {events : List (ι × CarryEvent)} {w : CarryWorld} {i : ι} {c : CarryCall}

abbrev eventOf (x : CarryExecutions ι) (c : CarryCall) (w : CarryWorld) : CarryEvent :=
  ⟨w, c, (handleCarry x.env c w).1, (handleCarry x.env c w).2⟩

theorem Tracked.step_marked (h : x.Tracked events w)
    (hc : x.contract.permits c (x.noteAfter events i)) (j : ι)
    (hj : (x.noteAfter (events ++ [(i, x.eventOf c w)]) j).marked = true) :
    NotStartable (handleCarry x.env c w).2.tables (x.actionId j) := by
  obtain ⟨f, hf, hactions⟩ := handleCarry_actions x.env c w
  by_cases hij : j = i
  · subst hij
    rw [noteAfter, Contract.noteOf_append] at hj
    have hmarked : (x.noteAfter events j).marked = true ∨ ∃ id, c = .markCarryActionExecuting id ∧
        (handleCarry x.env (.markCarryActionExecuting id) w).1 = .ok () := by
      cases c with
      | markCarryActionExecuting id =>
        cases hreply : (handleCarry x.env (.markCarryActionExecuting id) w).1 with
        | ok a => exact Or.inr ⟨id, rfl, hreply⟩
        | error e =>
          rw [eventOf, hreply] at hj
          exact Or.inl hj
      | _ => exact Or.inl hj
    rcases hmarked with hmarked | ⟨id, rfl, hreply⟩
    · exact (h.marked j hmarked).of_moves hf hactions
    · have hid : id = x.actionId j := hc.trans (h.id j)
      intro row hrow hrowid
      have hexecuting := handleCarry_mark x.env hreply row hrow (hrowid.trans hid.symm)
      simp [CarryAction.startable, hexecuting]
  · rw [noteAfter, Contract.noteOf_append_of_ne hij] at hj
    exact (h.marked j hj).of_moves hf hactions

theorem Tracked.step_counted (h : x.Tracked events w)
    (hc : x.contract.permits c (x.noteAfter events i))
    (e : ι × CarryEvent) (he : e ∈ events ++ [(i, x.eventOf c w)])
    (hcount : (countRead e.2).isSome = true) :
    NotStartable (handleCarry x.env c w).2.tables (x.actionId e.1) := by
  obtain ⟨f, hf, hactions⟩ := handleCarry_actions x.env c w
  rcases List.mem_append.1 he with he | he
  · exact (h.counted e he hcount).of_moves hf hactions
  · obtain rfl := List.mem_singleton.1 he
    have hcall : c = .getExecutingActionCount := countRead_isSome hcount
    subst hcall
    exact (h.marked i hc).of_moves hf hactions

omit [DecidableEq ι] in
theorem eventOf_count {executing : ℕ} (h : countRead (x.eventOf c w) = some executing) :
    c = .getExecutingActionCount ∧ executing = w.tables.getExecutingActionCount ∧
      (handleCarry x.env c w).2.tables = w.tables := by
  have hcall : c = .getExecutingActionCount := countRead_isSome (e := x.eventOf c w) (by rw [h]; rfl)
  subst hcall
  cases hreply : (handleCarry x.env .getExecutingActionCount w).1 with
  | error e =>
    rw [eventOf, hreply] at h
    cases h
  | ok read =>
    rw [eventOf, hreply] at h
    obtain ⟨hread, htables⟩ := handleCarry_ok x.env _ w hreply
    refine ⟨rfl, ?_, htables⟩
    rw [← Option.some.inj h]
    exact (Except.ok.inj hread).symm

/-- An execution that is let through finds a place; nobody else gets one. -/
theorem Tracked.step_limited (h : x.Tracked events w)
    (hmarks : ∀ e ∈ events ++ [(i, x.eventOf c w)], marksStartable e.2 = true) {limit : ℤ}
    (hlimit : x.maxConcurrent = some limit) (hpos : 1 ≤ limit) :
    (x.pastGuards (events ++ [(i, x.eventOf c w)]) (handleCarry x.env c w).2.tables : ℤ) ≤
      limit := by
  have hbefore := h.limited (fun e he => hmarks e (List.mem_append_left _ he)) limit hlimit hpos
  by_cases hadmits : x.admits (i, x.eventOf c w) = true
  · obtain ⟨executing, hcount, hnone⟩ := (Option.any_eq_true ..).1 hadmits
    obtain ⟨-, rfl, htables⟩ := eventOf_count hcount
    have hroom : (w.tables.getExecutingActionCount : ℤ) < limit := by
      by_contra hfull
      obtain ⟨config, hconfig, hmax⟩ := Option.bind_eq_some_iff.1 hlimit
      simp only [concurrencyStop?, hconfig, hmax, Option.bind_some] at hnone
      rw [if_pos ⟨by omega, by omega⟩] at hnone
      cases hnone
    have hpast : x.pastGuards (events ++ [(i, x.eventOf c w)]) w.tables ≤
        w.tables.getExecutingActionCount := by
      apply List.countP_mono_left
      intro row _ hpast
      exact (Bool.and_eq_true_iff.1 hpast).1
    rw [htables]
    omega
  · refine le_trans ?_ hbefore
    obtain ⟨f, hf, hactions⟩ := handleCarry_actions x.env c w
    rw [Int.ofNat_le, pastGuards, pastGuards, hactions, List.countP_map]
    apply List.countP_mono_left
    intro row hrow hpast
    rw [Function.comp_apply, Bool.and_eq_true, decide_eq_true_eq, hf.id] at hpast
    obtain ⟨hexecuting, hany⟩ := hpast
    obtain ⟨e, he, hpassed⟩ := List.any_eq_true.1 hany
    rw [Bool.and_eq_true, decide_eq_true_eq] at hpassed
    obtain ⟨hid, hadmitted⟩ := hpassed
    have hmem : e ∈ events := by
      rcases List.mem_append.1 he with he | he
      · exact he
      · rw [List.mem_singleton.1 he] at hadmitted
        exact absurd hadmitted hadmits
    rw [Bool.and_eq_true, decide_eq_true_eq]
    refine ⟨?_, List.any_eq_true.2 ⟨e, hmem, by simp [hid, hadmitted]⟩⟩
    have hcount : (countRead e.2).isSome = true := by
      obtain ⟨executing, hcount, -⟩ := (Option.any_eq_true ..).1 hadmitted
      rw [hcount]
      rfl
    rcases hf.status row with hstatus | hstatus | hstatus | ⟨rfl, -⟩
    · rwa [← hstatus]
    · rw [hexecuting] at hstatus
      cases hstatus
    · rw [hexecuting] at hstatus
      cases hstatus
    · have hmarked := hmarks (i, x.eventOf (.markCarryActionExecuting row.id) w) (by simp)
      have hstartable := List.all_eq_true.1 hmarked row hrow
      rw [h.counted e hmem hcount row hrow hid.symm] at hstartable
      simp at hstartable

theorem Tracked.step (h : x.Tracked events w)
    (hc : x.contract.permits c (x.noteAfter events i)) :
    x.Tracked (events ++ [(i, x.eventOf c w)]) (handleCarry x.env c w).2 where
  config := (handleCarry_planned x.env c w).2.trans h.config
  orders := (handleCarry_planned x.env c w).1.trans h.orders
  ids := by
    obtain ⟨f, hf, hactions⟩ := handleCarry_actions x.env c w
    rw [← h.ids, hactions, List.map_map]
    exact List.map_congr_left fun row _ => hf.id row
  id j := by
    by_cases hij : j = i
    · subst hij
      rw [noteAfter, Contract.noteOf_append]
      exact (guarding_note_actionId _ _).trans (h.id j)
    · rw [noteAfter, Contract.noteOf_append_of_ne hij]
      exact h.id j
  marked := h.step_marked hc
  counted := h.step_counted hc
  submitted e he hsubmits := by
    rcases List.mem_append.1 he with he | he
    · exact h.submitted e he hsubmits
    · obtain rfl := List.mem_singleton.1 he
      obtain ⟨actionId, venueId, call, hcall⟩ := submitsOrder_call hsubmits
      have hcall : c = .executor actionId venueId call := hcall
      subst hcall
      have hpassed : guardrailStop? x.config (x.noteAfter events i).actionId (totalNotional
        (x.start.tables.ordersOf (x.noteAfter events i).actionId)) = none := hc
      rw [h.id] at hpassed
      exact hpassed
  limited hmarks _ hlimit hpos := h.step_limited hmarks hlimit hpos
  read e he := by
    rcases List.mem_append.1 he with he | he
    · exact h.read e he
    · rw [List.mem_singleton.1 he]
      exact h.ids
  count e he executing hcount := by
    rcases List.mem_append.1 he with he | he
    · exact h.count e he executing hcount
    · obtain rfl := List.mem_singleton.1 he
      exact (eventOf_count hcount).2.1

theorem Tracked.reply (h : x.Tracked events w) (c : CarryCall) :
    x.contract.reply c (handleCarry x.env c w).1 := by
  cases c with
  | getCarryAction actionId =>
    intro detail hdetail
    have hread : w.tables.getCarryAction actionId = some detail :=
      Except.ok.inj (handleCarry_ok x.env _ w hdetail).1
    obtain ⟨action, hfind, rfl⟩ := Option.map_eq_some_iff.1 hread
    refine ⟨by simpa using List.find?_some hfind, ?_⟩
    show w.tables.ordersOf _ = x.start.tables.ordersOf _
    rw [CarryTables.ordersOf, h.orders]
    rfl
  | getGuardrailConfig scopeType scopeId =>
    rintro rfl rfl answer hanswer
    have hread : w.tables.getGuardrailConfig "global" "carry" = answer :=
      Except.ok.inj (handleCarry_ok x.env _ w hanswer).1
    rw [← hread, CarryTables.getGuardrailConfig, h.config]
    rfl
  | _ => trivial

end Step

theorem tracked_start : x.Tracked [] x.start where
  config := rfl
  orders := rfl
  ids := rfl
  id _ := rfl
  marked i h := by cases h
  counted := by simp
  submitted := by simp
  limited _ limit _ hpos := by
    have hnone : x.pastGuards [] x.start.tables = 0 := by simp [pastGuards]
    omega
  read := by simp
  count := by simp

theorem tracked (x : CarryExecutions ι) : x.Tracked x.events x.final := by
  apply Contract.runPool_of_events (K := x.contract) (g := x.notes)
  · intro events c w h
    exact h.reply c
  · intro events i c w h hc
    exact h.step hc
  · intro i
    exact executeCarryAction_follows x.runtime (x.inputs i) (x.readings i) (x.nows i)
  · exact tracked_start

/-- The guards do what they say: an action whose notional exceeds the limit submits nothing, no more
actions than the limit are past the guards, and an action that starts alone is let through. -/
structure Binds (x : CarryExecutions ι) (market : CarryPlannedOrder → Decimal) : Prop where
  notional : ∀ i limit, x.maxNotional = some limit →
    Number.ofDecimal limit < executedNotional market (x.orders i) →
      ∀ e ∈ x.events, e.1 = i → submitsOrder e.2 = false
  concurrency : ∀ limit, x.maxConcurrent = some limit →
    (x.pastGuards x.events x.final.tables : ℤ) ≤ limit
  admission : ∀ limit, x.maxConcurrent = some limit → 1 ≤ limit →
    ∀ begun ∈ x.events, ∀ e ∈ x.events, begun.1 = e.1 → startsAlone (x.actionId e.1) begun.2 = true →
      ∀ executing, countRead e.2 = some executing →
        concurrencyStop? x.config (x.actionId e.1) executing = none

/-- The condition on the steps of a run. -/
structure Meets (x : CarryExecutions ι) : Prop where
  priced : x.maxNotional.isSome = true → ∀ i, ∀ order ∈ x.orders i,
    order.requestedPrice.isSome = true
  positive : ∀ limit, x.maxConcurrent = some limit → 1 ≤ limit
  startable : ∀ e ∈ x.events, marksStartable e.2 = true
  room : ∀ limit, x.maxConcurrent = some limit →
    ∀ begun ∈ x.events, ∀ e ∈ x.events, begun.1 = e.1 → startsAlone (x.actionId e.1) begun.2 = true →
      (countRead e.2).isSome = true →
        (e.2.before.tables.othersExecuting (x.actionId e.1) : ℤ) + 1 < limit

end CarryExecutions

theorem CarryTables.getExecutingActionCount_le {tables : CarryTables}
    (hids : (tables.actions.map fun row => row.id).Nodup) (actionId : String) :
    tables.getExecutingActionCount ≤ tables.othersExecuting actionId + 1 := by
  have hsplit : ∀ rows : List CarryAction,
      rows.countP (fun row => decide (row.status = .executing)) ≤
        rows.countP (fun row => decide (row.status = .executing ∧ row.id ≠ actionId)) +
          (rows.map fun row => row.id).count actionId := by
    intro rows
    induction rows with
    | nil => simp
    | cons row rows ih =>
      rw [List.countP_cons, List.countP_cons, List.map_cons, List.count_cons]
      by_cases hid : row.id = actionId <;> by_cases hstatus : row.status = .executing
      all_goals
        simp [hid, hstatus] at ih ⊢
        omega
  have hone := List.nodup_iff_count_le_one.1 hids actionId
  exact (hsplit tables.actions).trans (Nat.add_le_add_left hone _)

namespace CarryExecutions

variable {ι : Type} [DecidableEq ι]

/-- In every run whose steps meet the condition, the guards do what they say. -/
theorem guardrails_bind (x : CarryExecutions ι)
    (hids : (x.start.tables.actions.map fun row => row.id).Nodup) (hmeets : x.Meets)
    (market : CarryPlannedOrder → Decimal) : x.Binds market where
  notional i limit hlimit hexceeds e he hi := by
    rw [executedNotional_of_priced (hmeets.priced (by rw [hlimit]; rfl) i)] at hexceeds
    by_contra hsubmits
    rw [Bool.not_eq_false] at hsubmits
    have hpassed := x.tracked.submitted e he hsubmits
    obtain ⟨config, hconfig, hmax⟩ := Option.bind_eq_some_iff.1 hlimit
    rw [hi] at hpassed
    simp only [guardrailStop?, hconfig, hmax, Option.bind_some, if_pos hexceeds] at hpassed
    split_ifs at hpassed
  concurrency limit hlimit :=
    x.tracked.limited hmeets.startable limit hlimit (hmeets.positive limit hlimit)
  admission limit hlimit hpos begun hbegun e he hsame halone executing hcount := by
    have hroom := hmeets.room limit hlimit begun hbegun e he hsame halone (by rw [hcount]; rfl)
    have hids : (e.2.before.tables.actions.map fun row => row.id).Nodup := by
      rw [x.tracked.read e he]
      exact hids
    have hle := CarryTables.getExecutingActionCount_le hids (x.actionId e.1)
    rw [← x.tracked.count e he executing hcount] at hle
    obtain ⟨config, hconfig, hmax⟩ := Option.bind_eq_some_iff.1 hlimit
    simp only [concurrencyStop?, hconfig, hmax, Option.bind_some]
    rw [if_neg]
    omega

/-! ## Runs that the guards miss -/

/-- One action with an order of ten thousand dollars at the price of the market. -/
def guarded (requestedPrice maxNotional : Option Decimal) (maxConcurrent : Option ℤ) :
    CarryExecutions (Fin 1) where
  runtime := { adapters := ["drift"] }
  env := answeringEnvironment .filled
  inputs _ := sampleCarryInput
  readings _ := sampleReadings
  nows _ := 0
  schedule := List.replicate 30 0
  start :=
    { oneOrderWorld with
      tables :=
        { oneOrderTables with
          plannedOrders := oneOrderTables.plannedOrders.map fun order =>
            { order with requestedSize := 100, requestedPrice }
          guardrailConfigs :=
            [{ id := "guardrails", scopeType := "global", scopeId := "carry"
               maxSingleActionNotionalUsd := maxNotional, maxConcurrentExecutions := maxConcurrent
               killSwitchTriggered := false }] } }

/-- Two actions with an order of ten thousand dollars each that are executed at the same time. -/
def overlapping : CarryExecutions Bool :=
  let x := guarded (some 100) (some 20000) (some 3)
  { runtime := x.runtime
    env := x.env
    inputs second := { sampleCarryInput with actionId := if second then "action-2" else "action-1" }
    readings _ := sampleReadings
    nows _ := 0
    schedule := (List.replicate 12 [false, true]).flatten
    start :=
      { x.start with
        tables :=
          { x.start.tables with
            actions := x.start.tables.actions.flatMap fun row => [row, { row with id := "action-2" }]
            plannedOrders := x.start.tables.plannedOrders.flatMap fun order =>
              [order, { order with
                id := "planned-2", carryActionId := "action-2", intentId := "order-2" }] } } }

/-- Both executions are past the guards and have submitted their orders. -/
theorem guardrails_bind_sample :
    overlapping.Binds (fun _ => 100) ∧
      overlapping.pastGuards overlapping.events overlapping.final.tables = 2 ∧
      (overlapping.events.filter fun e => submitsOrder e.2).map Prod.fst = [false, true] := by
  refine ⟨guardrails_bind overlapping (by decide) ?_ _, by decide +kernel, by decide +kernel⟩
  constructor
  · intro _
    decide +kernel
  · intro limit hlimit
    obtain rfl : 3 = limit := Option.some.inj hlimit
    decide
  · decide +kernel
  · intro limit hlimit
    obtain rfl : 3 = limit := Option.some.inj hlimit
    decide +kernel

/-- An order without a limit price passes the guard for the notional, and an action that runs alone
is refused under a limit of one. -/
theorem guardrails_miss :
    (¬ ∀ (x : CarryExecutions (Fin 1)) (market : CarryPlannedOrder → Decimal) (i : Fin 1)
        (limit : Decimal), x.maxNotional = some limit →
      Number.ofDecimal limit < executedNotional market (x.orders i) →
        ∀ e ∈ x.events, e.1 = i → submitsOrder e.2 = false) ∧
      ¬ ∀ (x : CarryExecutions (Fin 1)) (limit : ℤ), x.maxConcurrent = some limit → 1 ≤ limit →
        ∀ begun ∈ x.events, ∀ e ∈ x.events, begun.1 = e.1 →
          startsAlone (x.actionId e.1) begun.2 = true → ∀ executing,
            countRead e.2 = some executing →
              concurrencyStop? x.config (x.actionId e.1) executing = none := by
  constructor
  · intro hbinds
    have hnone := hbinds (guarded none (some 1000) none) (fun _ => 100) 0 1000 rfl
      (by decide +kernel)
    have hsome : ∃ e ∈ (guarded none (some 1000) none).events,
        e.1 = 0 ∧ submitsOrder e.2 = true := by decide +kernel
    obtain ⟨e, he, hi, hsubmits⟩ := hsome
    rw [hnone e he hi] at hsubmits
    cases hsubmits
  · intro hbinds
    have hnone := hbinds (guarded none none (some 1)) 1 rfl le_rfl
    have hsome : ∃ begun ∈ (guarded none none (some 1)).events,
        ∃ e ∈ (guarded none none (some 1)).events, begun.1 = e.1 ∧
          startsAlone ((guarded none none (some 1)).actionId e.1) begun.2 = true ∧
            countRead e.2 = some 1 := by decide +kernel
    obtain ⟨begun, hbegun, e, he, hsame, halone, hcount⟩ := hsome
    have hpassed := hnone begun hbegun e he hsame halone 1 hcount
    cases hpassed

end CarryExecutions

end SentinelApex
