import SentinelApex.Runtime.TreasuryStages

/-!
# The treasury's money

The stored cash with the allocations at the simulated venues. An execution overwrites the cash with
the planner's projection, which starts from the liquidity reserve of the portfolio and not from the
cash: it moves the amount between the two only if they agree, else it also makes up the difference
between them (`executeTreasuryAction_totalUsd`).
-/

namespace SentinelApex

open Async Decimal SimulatedTreasuryVenue

/-! ## Totals -/

namespace TreasuryWorld

variable (w : TreasuryWorld)

def cashUsd : Option Decimal := w.tables.getTreasuryCashBalanceUsd

/-- The allocations at the simulated venues. -/
def allocatedUsd : ℚ := w.venues.sumOf fun _ venue => venue.currentAllocationUsd

/-- The stored cash and the allocations. -/
def totalUsd : Option ℚ := w.cashUsd.map fun cash => cash + w.allocatedUsd

structure HasMoney (cash : Option Decimal) (venues : OrderedMap String SimulatedTreasuryVenue) :
    Prop where
  cash : w.cashUsd = cash
  venues : w.venues = venues

end TreasuryWorld

open TreasuryWorld

/-! ## Calls that leave the money alone -/

/-- The calls that change neither the stored cash nor a venue. -/
def TreasuryCall.keepsMoney : TreasuryCall → Prop
  | upsertTreasuryCurrent .. => False
  | setTreasuryCashBalanceUsd _ => False
  | executeTreasuryAction .. => False
  | _ => True

variable {c : TreasuryCall}

theorem TreasuryCall.keepsMoney_of_books (hc : c.books) : c.keepsMoney := by
  cases c <;> trivial

theorem TreasuryCall.keepsMoney_of_reads (hc : c.reads) : c.keepsMoney :=
  keepsMoney_of_books (books_of_reads hc)

theorem TreasuryTables.createTreasuryActions_current (inputs : List TreasuryActionInput)
    (tables : TreasuryTables) : (tables.createTreasuryActions inputs).current = tables.current := by
  unfold createTreasuryActions
  induction inputs generalizing tables with
  | nil => rfl
  | cons input inputs ih => exact ih _

section Money

variable {env : TreasuryEnvironment} {cash : Option Decimal}
  {venues : OrderedMap String SimulatedTreasuryVenue} {w : TreasuryWorld}

theorem hasMoney_performTreasury (hc : c.keepsMoney) (hw : w.HasMoney cash venues) :
    (performTreasury env w c).2.HasMoney cash venues := by
  by_cases hreads : c.reads
  · rwa [performTreasury_of_reads hreads]
  · cases c with
    | upsertTreasuryCurrent | setTreasuryCashBalanceUsd | executeTreasuryAction => exact hc.elim
    | createTreasuryActions inputs =>
      refine ⟨?_, hw.venues⟩
      have hcurrent := w.tables.createTreasuryActions_current inputs
      exact (congrArg (Option.map TreasuryCurrent.cashBalanceUsd) hcurrent).trans hw.cash
    | approveTreasuryAction | queueTreasuryActionExecution | markTreasuryActionExecuting
    | completeTreasuryAction | failTreasuryAction | createTreasuryAction
    | createTreasuryExecution | updateTreasuryExecution | insertTreasuryRun =>
      exact ⟨hw.cash, hw.venues⟩
    | _ => exact absurd trivial hreads

theorem hasMoney_handleTreasury (c : TreasuryCall) (w : TreasuryWorld) (hc : c.keepsMoney)
    (hw : w.HasMoney cash venues) : (handleTreasury env c w).2.HasMoney cash venues :=
  handleTreasury_keeps (I := fun w => w.HasMoney cash venues) (fun _ _ h => ⟨h.cash, h.venues⟩) hw
    (hasMoney_performTreasury hc hw)

theorem ensures_hasMoney {α : Type} {t : TreasuryTask α} (ht : t.Uses TreasuryCall.keepsMoney)
    (hw : w.HasMoney cash venues) :
    t.Ensures (handleTreasury env) (fun _ w' => w'.HasMoney cash venues) w :=
  ht.ensures hasMoney_handleTreasury hw

theorem ensures_call_bind_hasMoney {α : Type} {f : c.Reply → TreasuryTask α}
    {P : α → TreasuryWorld → Prop} (hc : c.keepsMoney) (hw : w.HasMoney cash venues)
    (hf : ∀ a w', w'.HasMoney cash venues → (f a).Ensures (handleTreasury env) P w') :
    (Task.call c >>= f).Ensures (handleTreasury env) P w :=
  Task.ensures_call_bind fun a _ => hf a _ (hasMoney_handleTreasury c w hc hw)

theorem hasMoney_upsertTreasuryCurrent {treasuryRunId : String} {cashBalanceUsd : Decimal}
    {u : Unit} (hw : w.HasMoney cash venues)
    (hu : (handleTreasury env (.upsertTreasuryCurrent treasuryRunId cashBalanceUsd) w).1 = .ok u) :
    (handleTreasury env (.upsertTreasuryCurrent treasuryRunId cashBalanceUsd) w).2.HasMoney
      (some cashBalanceUsd) venues := by
  rw [(performTreasury_of_ok hu).2]
  exact ⟨rfl, hw.venues⟩

theorem hasMoney_executeTreasuryAction {treasuryActionId venueId : String}
    {request : TreasuryVenueExecutionRequest} {venue : SimulatedTreasuryVenue}
    {result : TreasuryVenueExecutionResult} (hw : w.HasMoney cash venues)
    (hvenue : venues.get? venueId = some venue)
    (hresult : (handleTreasury env (.executeTreasuryAction treasuryActionId venueId request) w).1 =
      .ok result) :
    ∃ venue', venue.executeTreasuryAction request = (.ok result, venue') ∧
      (handleTreasury env (.executeTreasuryAction treasuryActionId venueId request) w).2.HasMoney
        cash (venues.set venueId venue') := by
  obtain ⟨hanswer, hafter⟩ := performTreasury_of_ok hresult
  have hget : w.venues.get? venueId = some venue := by rw [hw.venues, hvenue]
  rw [hafter]
  simp only [performTreasury, moveAtVenue, hget] at hanswer ⊢
  refine ⟨(venue.executeTreasuryAction request).2, Prod.ext hanswer rfl, ⟨hw.cash, ?_⟩⟩
  show w.venues.set venueId _ = _
  rw [hw.venues]

end Money

/-! ## Stages of an execution -/

variable {reserve : Decimal}

namespace TreasuryRuntime

variable (runtime : TreasuryRuntime) {env : TreasuryEnvironment} {cash : Option Decimal}
  {venues : OrderedMap String SimulatedTreasuryVenue} {w : TreasuryWorld}

theorem persistTreasuryEvaluation_ensures (treasuryRunId : String)
    (evaluation : TreasuryEvaluation) (intents : List TreasuryExecutionIntent)
    (hw : w.HasMoney cash venues) :
    (persistTreasuryEvaluation treasuryRunId evaluation intents).Ensures (handleTreasury env)
      (fun _ w' => w'.HasMoney (some evaluation.reserveStatus.idleCapitalUsd) venues) w := by
  have hinsert : (insertIntents treasuryRunId intents).Uses TreasuryCall.keepsMoney := by
    unfold insertIntents
    split
    · trivial
    · exact Task.uses_call trivial
  refine ensures_call_bind_hasMoney trivial hw ?_
  intro _ w₁ hw₁
  refine (ensures_hasMoney hinsert hw₁).bind ?_
  intro _ w₂ hw₂ u hu
  rw [Task.run_call] at hu ⊢
  exact hasMoney_upsertTreasuryCurrent hw₂ hu

theorem runTreasuryEvaluation_ensures (actorId treasuryRunId : String)
    (portfolioState : Option PortfolioState) (idleCapitalUsd : Decimal)
    (hw : w.HasMoney cash venues) :
    (runtime.runTreasuryEvaluation actorId treasuryRunId portfolioState
      (some idleCapitalUsd)).Ensures (handleTreasury env)
        (fun _ w' => w'.HasMoney (some (usd idleCapitalUsd)) venues) w := by
  have hreads : ∀ c : TreasuryCall, c.reads → c.keepsMoney :=
    fun _ => TreasuryCall.keepsMoney_of_reads
  unfold runTreasuryEvaluation
  refine (ensures_hasMoney (portfolioStateOr_uses hreads _) hw).bind ?_
  intro portfolioState w₁ hw₁
  refine (ensures_hasMoney (collectTreasuryVenueSnapshots_uses hreads _) hw₁).bind ?_
  intro venueSnapshots w₂ hw₂
  refine (ensures_hasMoney (runtime.collectTreasuryVenueCapabilities_uses hreads) hw₂).bind ?_
  intro venueCapabilities w₃ hw₃
  refine ensures_call_bind_hasMoney trivial hw₃ ?_
  intro persistedCashBalanceUsd w₄ hw₄
  refine (persistTreasuryEvaluation_ensures treasuryRunId _ _ hw₄).bind ?_
  intro _ w₅ hw₅
  refine ensures_call_bind_hasMoney trivial hw₅ ?_
  intro _ w₆ hw₆
  refine ensures_call_bind_hasMoney trivial hw₆ ?_
  intro _ w₇ hw₇
  refine ensures_call_bind_hasMoney trivial hw₇ ?_
  intro latestRunId w₈ hw₈
  cases latestRunId with
  | none => exact Task.ensures_fail _ _
  | some latestRunId => exact Task.ensures_pure hw₈

variable {input : ExecuteTreasuryInput} {action : TreasuryAction} {venueId : String}
  {venue : SimulatedTreasuryVenue}

variable (treasuryRunId executionId : String) (portfolioState : PortfolioState)
  (intent : TreasuryExecutionIntent)

theorem recordMove_ensures (result : TreasuryVenueExecutionResult) (hw : w.HasMoney cash venues) :
    (runtime.recordMove input treasuryRunId action executionId portfolioState intent
      result).Ensures (handleTreasury env)
        (fun _ w' => w'.HasMoney (some (usd intent.effects.idleCapitalUsd)) venues) w := by
  have hreads : ∀ c : TreasuryCall, c.reads → c.keepsMoney :=
    fun _ => TreasuryCall.keepsMoney_of_reads
  apply Task.ensures_call_bind
  intro _ hset
  have hw₁ : (handleTreasury env (.setTreasuryCashBalanceUsd intent.effects.idleCapitalUsd)
      w).2.HasMoney (cash.map fun _ => intent.effects.idleCapitalUsd) venues := by
    rw [(performTreasury_of_ok hset).2]
    refine ⟨?_, hw.venues⟩
    rw [← hw.cash]
    show (w.tables.current.map _).map _ = (w.tables.current.map _).map _
    rw [Option.map_map, Option.map_map]
    rfl
  refine (runtime.runTreasuryEvaluation_ensures _ _ _ _ hw₁).bind ?_
  intro followUpRunId w₂ hw₂
  apply ensures_hasMoney ?_ hw₂
  apply Task.Uses.call_bind trivial
  intro _
  apply Task.Uses.call_bind trivial
  intro _
  refine (syncLinkedTreasuryBundle_uses hreads action).bind ?_
  intro _
  apply Task.Uses.call_bind trivial
  intro _
  trivial

def Moved (input : ExecuteTreasuryInput) (action : TreasuryAction) (venueId : String)
    (venue : SimulatedTreasuryVenue) (venues : OrderedMap String SimulatedTreasuryVenue)
    (idleCapitalUsd : Decimal) (w : TreasuryWorld) : Prop :=
  ∃ result venue', venue.executeTreasuryAction (venueRequest input action) = (.ok result, venue') ∧
    w.HasMoney (some (usd idleCapitalUsd)) (venues.set venueId venue')

theorem moveAtVenue_ensures (hw : w.HasMoney cash venues)
    (hvenue : venues.get? venueId = some venue) :
    (runtime.moveAtVenue input treasuryRunId action executionId venueId portfolioState
      intent).Ensures (handleTreasury env)
        (fun _ => Moved input action venueId venue venues intent.effects.idleCapitalUsd) w := by
  apply Task.Ensures.tryCatch
  · apply Task.ensures_call_bind
    intro result hresult
    obtain ⟨venue', hmove, hw₁⟩ := hasMoney_executeTreasuryAction hw hvenue hresult
    intro value hvalue
    exact ⟨result, venue', hmove,
      runtime.recordMove_ensures treasuryRunId executionId portfolioState intent result hw₁ value
        hvalue⟩
  · exact fun message => fails_failExecution executionId message

theorem executePlanned_ensures (hw : w.HasMoney cash venues)
    (haction : action.venueId = some venueId) (hvenue : venues.get? venueId = some venue) :
    (runtime.executePlanned input treasuryRunId action executionId portfolioState intent).Ensures
      (handleTreasury env)
        (fun _ => Moved input action venueId venue venues intent.effects.idleCapitalUsd) w := by
  refine ensures_call_bind_hasMoney trivial hw ?_
  intro _ w₁ hw₁
  rw [haction]
  dsimp only
  by_cases hregistered : runtime.treasuryAdapters.contains venueId = true
  · rw [if_pos hregistered]
    exact runtime.moveAtVenue_ensures treasuryRunId executionId portfolioState intent hw₁ hvenue
  · rw [if_neg hregistered]
    exact (fails_refuseUntargeted executionId _).ensures _

/-- The balance that the planner projects. -/
def plannedIdleUsd (action : TreasuryAction) (reserve : Decimal) : Decimal :=
  usd (if action.actionType = .allocateToVenue then (usd reserve).minus action.amountUsd
    else (usd reserve).plus action.amountUsd)

theorem executionIntent_idleCapitalUsd (action : TreasuryAction) (portfolioState : PortfolioState)
    (venueSnapshots : List TreasuryVenueSnapshot)
    (venueCapabilities : List TreasuryVenueCapabilities) :
    (runtime.executionIntent action portfolioState venueSnapshots
      venueCapabilities).effects.idleCapitalUsd =
        plannedIdleUsd action portfolioState.liquidityReserve := by
  unfold plannedIdleUsd
  by_cases htype : action.actionType = .allocateToVenue
  all_goals
    simp [executionIntent, TreasuryExecutionPlanner.createIntentForRecommendation,
      TreasuryExecutionPlanner.effects, TreasuryExecutionPlanner.postIdleCapitalUsd, planningInput,
      recommendationOf, TreasuryPolicyEngine.evaluate, htype]

section

variable (treasuryRunId : String)
  (hreserve : ∀ n state, env.portfolio n = .ok state → state.liquidityReserve = reserve)
  (hw : w.HasMoney cash venues)

include hreserve hw

theorem executeAtVenue_ensures (haction : action.venueId = some venueId)
    (hvenue : venues.get? venueId = some venue) :
    (runtime.executeAtVenue input treasuryRunId action).Ensures (handleTreasury env)
      (fun _ => Moved input action venueId venue venues (plannedIdleUsd action reserve)) w := by
  have hreads : ∀ c : TreasuryCall, c.reads → c.keepsMoney :=
    fun _ => TreasuryCall.keepsMoney_of_reads
  apply Task.ensures_call_bind
  intro portfolioState hportfolio
  have hstate : portfolioState.liquidityReserve = reserve :=
    hreserve w.calls portfolioState (performTreasury_of_ok hportfolio).1
  have hw₁ : (handleTreasury env .refreshPortfolio w).2.HasMoney cash venues :=
    hasMoney_handleTreasury _ w trivial hw
  refine (ensures_hasMoney (collectTreasuryVenueSnapshots_uses hreads _) hw₁).bind ?_
  intro venueSnapshots w₂ hw₂
  refine (ensures_hasMoney (runtime.collectTreasuryVenueCapabilities_uses hreads) hw₂).bind ?_
  intro venueCapabilities w₃ hw₃
  refine ensures_call_bind_hasMoney trivial hw₃ ?_
  intro execution w₄ hw₄
  rw [← hstate, ← runtime.executionIntent_idleCapitalUsd action portfolioState venueSnapshots
    venueCapabilities]
  split_ifs
  · exact runtime.executePlanned_ensures treasuryRunId execution.id portfolioState _ hw₄ haction
      hvenue
  · exact (fails_refuseBlocked execution.id _).ensures _

/-- An execution that returns has moved the money of the action, unless it is about the budget. -/
theorem executeTreasuryAction_ensures
    (htarget : ∀ action, w.tables.findAction input.actionId = some action →
      action.actionType ≠ .rebalanceTreasuryBudget →
        ∃ venueId venue, action.venueId = some venueId ∧ venues.get? venueId = some venue) :
    (runtime.executeTreasuryAction input treasuryRunId).Ensures (handleTreasury env)
      (fun _ w' => ∃ action, w.tables.findAction input.actionId = some action ∧
        if action.actionType = .rebalanceTreasuryBudget then w'.HasMoney cash venues
        else ∃ venueId venue, action.venueId = some venueId ∧ venues.get? venueId = some venue ∧
          Moved input action venueId venue venues (plannedIdleUsd action reserve) w') w := by
  apply Task.ensures_call_bind
  intro detail hdetail
  have hw₁ : (handleTreasury env (.getTreasuryAction input.actionId) w).2.HasMoney cash venues :=
    hasMoney_handleTreasury _ w trivial hw
  have hread : w.tables.getTreasuryAction input.actionId = detail :=
    Except.ok.inj (performTreasury_of_ok hdetail).1
  cases detail with
  | none => exact Task.ensures_fail _ _
  | some detail =>
    obtain ⟨action, haction, hrow⟩ := Option.map_eq_some_iff.1 hread
    obtain rfl : action = detail.action := congrArg TreasuryActionDetail.action hrow
    dsimp only
    split_ifs with hstatus hbudget
    · exact Task.ensures_fail _ _
    · intro result hresult
      refine ⟨detail.action, haction, ?_⟩
      rw [if_pos hbudget]
      have huses := applyBudget_uses (fun _ => TreasuryCall.keepsMoney_of_books) input detail.action
      exact ensures_hasMoney huses hw₁ result hresult
    · obtain ⟨venueId, venue, hvenueId, hvenue⟩ := htarget detail.action haction hbudget
      intro result hresult
      refine ⟨detail.action, haction, ?_⟩
      rw [if_neg hbudget]
      exact ⟨venueId, venue, hvenueId, hvenue,
        runtime.executeAtVenue_ensures treasuryRunId hreserve hw₁ hvenueId hvenue result hresult⟩

end

end TreasuryRuntime

/-! ## One execution -/

/-- The move of an action at a simulated venue is computed exactly: the amounts are cents, and no
more is withdrawn than is allocated. -/
structure MovesCents (action : TreasuryAction) (venue : SimulatedTreasuryVenue) : Prop where
  allocation : IsCents venue.currentAllocationUsd
  amount : IsCents action.amountUsd
  covered : action.actionType ≠ .allocateToVenue → action.amountUsd ≤ venue.currentAllocationUsd

variable {action : TreasuryAction}

/-- The projection is exact for amounts of cents. -/
theorem plannedIdleUsd_eq (hreserve : |usd reserve| ≤ 10 ^ 12) (hamount : IsCents action.amountUsd) :
    usd (TreasuryRuntime.plannedIdleUsd action reserve) =
      if action.actionType = .allocateToVenue then usd reserve - action.amountUsd
      else usd reserve + action.amountUsd := by
  have hmem : usd reserve ∈ Places 2 := roundPlaces_mem _ _
  have hbounds := abs_le.1 hreserve
  have hnonneg := hamount.nonneg
  have hle := hamount.le
  have hstored : ∀ x : ℚ, x ∈ Places 2 → |x| ≤ 2 * 10 ^ 12 → usd (decimalJs.round x) = x := by
    intro x hx hb
    refine stored_of_mem hx (hb.trans ?_)
    norm_num
  have hidem : ∀ x : Decimal, usd (usd x) = usd x := fun x => roundPlaces_of_mem (roundPlaces_mem x 2)
  unfold TreasuryRuntime.plannedIdleUsd
  rw [hidem]
  split_ifs
  · apply hstored _ (sub_mem hmem hamount.places)
    rw [abs_le]
    constructor <;> linarith
  · apply hstored _ (add_mem hmem hamount.places)
    rw [abs_le]
    constructor <;> linarith

/-- What has been moved, the reserve and the old allocations make up the new total. -/
theorem totalUsd_of_moved {input : ExecuteTreasuryInput} {venueId : String}
    {venue : SimulatedTreasuryVenue} {w w' : TreasuryWorld}
    (hmoved : TreasuryRuntime.Moved input action venueId venue w.venues
      (TreasuryRuntime.plannedIdleUsd action reserve) w')
    (hvenue : w.venues.get? venueId = some venue) (hreserve : |usd reserve| ≤ 10 ^ 12)
    (hcents : MovesCents action venue) : w'.totalUsd = some (usd reserve + w.allocatedUsd) := by
  obtain ⟨result, venue', hmove, hmoney⟩ := hmoved
  have hallocation : venue'.currentAllocationUsd =
      if action.actionType = .allocateToVenue then venue.currentAllocationUsd + action.amountUsd
      else venue.currentAllocationUsd - action.amountUsd :=
    executeTreasuryAction_allocation hmove hcents.allocation hcents.amount hcents.covered
  have hsum : w'.allocatedUsd =
      w.allocatedUsd + venue'.currentAllocationUsd - venue.currentAllocationUsd := by
    unfold allocatedUsd
    rw [hmoney.venues, OrderedMap.sumOf_set, OrderedMap.contribution, hvenue]
    rfl
  unfold totalUsd
  rw [hmoney.cash, Option.map_some, hsum, hallocation, plannedIdleUsd_eq hreserve hcents.amount]
  congr 1
  by_cases htype : action.actionType = .allocateToVenue
  · rw [if_pos htype, if_pos htype]
    ring
  · rw [if_neg htype, if_neg htype]
    ring

/-! ## Runs -/

/-- An execution of a treasury action, or what other operations leave. -/
inductive TreasuryOperation where
  | execute (input : ExecuteTreasuryInput) (treasuryRunId : String)
  | other (after : TreasuryWorld)

namespace TreasuryRuntime

variable (runtime : TreasuryRuntime) (env : TreasuryEnvironment)

def execution (input : ExecuteTreasuryInput) (treasuryRunId : String) (w : TreasuryWorld) :
    Except String ExecuteTreasuryResult × TreasuryWorld :=
  (runtime.executeTreasuryAction input treasuryRunId).run (handleTreasury env) w

def afterOperation (w : TreasuryWorld) : TreasuryOperation → TreasuryWorld
  | .execute input treasuryRunId => (runtime.execution env input treasuryRunId w).2
  | .other after => after

def worlds : List TreasuryOperation → TreasuryWorld → List TreasuryWorld
  | [], _ => []
  | operation :: operations, w =>
    runtime.afterOperation env w operation ::
      worlds operations (runtime.afterOperation env w operation)

/-- Every operation satisfies `p` in the world in which it starts. -/
def EachOperation (p : TreasuryWorld → TreasuryOperation → Prop) :
    List TreasuryOperation → TreasuryWorld → Prop
  | [], _ => True
  | operation :: operations, w =>
    p w operation ∧ EachOperation p operations (runtime.afterOperation env w operation)

/-- The executions return, and nothing else changes the cash or a venue. -/
def Succeeds (w : TreasuryWorld) : TreasuryOperation → Prop
  | .execute input treasuryRunId => (runtime.execution env input treasuryRunId w).1.isOk = true
  | .other after => after.HasMoney w.cashUsd w.venues

end TreasuryRuntime

def TreasuryWorld.moving? (w : TreasuryWorld) : TreasuryOperation → Option TreasuryAction
  | .execute input _ =>
    (w.tables.findAction input.actionId).filter fun action =>
      !decide (action.actionType = .rebalanceTreasuryBudget)
  | .other _ => none

def OperationMovesCents (w : TreasuryWorld) (operation : TreasuryOperation) : Prop :=
  ∀ action, w.moving? operation = some action →
    ∃ venueId venue, action.venueId = some venueId ∧ w.venues.get? venueId = some venue ∧
      MovesCents action venue

/-- Where money is moved, the stored cash is the liquidity reserve of the portfolio. -/
def CashIsReserve (reserve : Decimal) (w : TreasuryWorld) (operation : TreasuryOperation) : Prop :=
  (w.moving? operation).isSome = true → w.cashUsd = some (usd reserve)

namespace TreasuryRuntime

variable {runtime : TreasuryRuntime} {env : TreasuryEnvironment} {reserve : Decimal}

section

variable (hsteady : ∀ n state, env.portfolio n = .ok state → state.liquidityReserve = reserve)
  (hreserve : |usd reserve| ≤ 10 ^ 12) {w : TreasuryWorld} {operation : TreasuryOperation}
  (hsucceeds : runtime.Succeeds env w operation) (hcents : OperationMovesCents w operation)

include hsteady hreserve hsucceeds hcents

/-- After an execution that moves money the total is that of the reserve and the old
allocations. -/
theorem executeTreasuryAction_totalUsd :
    (runtime.afterOperation env w operation).totalUsd =
      if (w.moving? operation).isSome = true then some (usd reserve + w.allocatedUsd)
      else w.totalUsd := by
  have hkept : ∀ w' : TreasuryWorld, w'.HasMoney w.cashUsd w.venues → w'.totalUsd = w.totalUsd := by
    intro w' hw'
    unfold totalUsd allocatedUsd
    rw [hw'.cash, hw'.venues]
  cases operation with
  | other after => exact hkept after hsucceeds
  | execute input treasuryRunId =>
    obtain ⟨result, hresult⟩ : ∃ result, (runtime.execution env input treasuryRunId w).1 =
        .ok result := by
      change (runtime.execution env input treasuryRunId w).1.isOk = true at hsucceeds
      cases hr : (runtime.execution env input treasuryRunId w).1 with
      | ok result => exact ⟨result, rfl⟩
      | error message =>
        rw [hr] at hsucceeds
        cases hsucceeds
    have hmoving : ∀ action, w.tables.findAction input.actionId = some action →
        action.actionType ≠ .rebalanceTreasuryBudget →
          w.moving? (.execute input treasuryRunId) = some action := by
      intro action haction htype
      simp [TreasuryWorld.moving?, haction, htype]
    obtain ⟨action, haction, hafter⟩ := runtime.executeTreasuryAction_ensures treasuryRunId hsteady
      ⟨rfl, rfl⟩ (fun action haction htype => by
        obtain ⟨venueId, venue, hvenueId, hvenue, -⟩ := hcents action (hmoving action haction htype)
        exact ⟨venueId, venue, hvenueId, hvenue⟩) result hresult
    by_cases htype : action.actionType = .rebalanceTreasuryBudget
    · rw [if_pos htype] at hafter
      have hnone : w.moving? (.execute input treasuryRunId) = none := by
        simp [TreasuryWorld.moving?, haction, htype]
      rw [hnone]
      exact hkept _ hafter
    · rw [if_neg htype] at hafter
      obtain ⟨venueId, venue, hvenueId, hvenue, hmoved⟩ := hafter
      obtain ⟨venueId', venue', hvenueId', hvenue', hmove⟩ :=
        hcents action (hmoving action haction htype)
      obtain rfl : venueId = venueId' := Option.some.inj (hvenueId.symm.trans hvenueId')
      obtain rfl : venue = venue' := Option.some.inj (hvenue.symm.trans hvenue')
      rw [hmoving action haction htype]
      exact totalUsd_of_moved hmoved hvenue hreserve hmove

/-- An operation conserves the total if and only if it starts from the reserve. -/
theorem totalUsd_afterOperation_iff :
    (runtime.afterOperation env w operation).totalUsd = w.totalUsd ↔
      CashIsReserve reserve w operation := by
  rw [executeTreasuryAction_totalUsd hsteady hreserve hsucceeds hcents]
  unfold CashIsReserve
  split_ifs with hmoving
  · unfold totalUsd
    cases hcash : w.cashUsd with
    | none => simp [hmoving]
    | some cash =>
      simp only [Option.map_some, Option.some.injEq, add_left_inj, hmoving, forall_const]
      exact eq_comm
  · simp [hmoving]

end

/-- A sequence of successful executions, at simulated venues and in cents, while the reserve of the
portfolio stays the same: the total stays the same if and only if every move starts with a stored
cash that is the reserve. -/
theorem worlds_totalUsd_iff
    (hsteady : ∀ n state, env.portfolio n = .ok state → state.liquidityReserve = reserve)
    (hreserve : |usd reserve| ≤ 10 ^ 12) {operations : List TreasuryOperation} {w : TreasuryWorld}
    (hsucceeds : runtime.EachOperation env (runtime.Succeeds env) operations w)
    (hcents : runtime.EachOperation env OperationMovesCents operations w) :
    (∀ w' ∈ runtime.worlds env operations w, w'.totalUsd = w.totalUsd) ↔
      runtime.EachOperation env (CashIsReserve reserve) operations w := by
  induction operations generalizing w with
  | nil => simp [worlds, EachOperation]
  | cons operation operations ih =>
    have hstep := totalUsd_afterOperation_iff hsteady hreserve hsucceeds.1 hcents.1
    rw [worlds, List.forall_mem_cons, EachOperation, ← ih hsucceeds.2 hcents.2, hstep]
    refine and_congr_right fun hcash => ?_
    rw [hstep.2 hcash]

/-! ## Two deposits -/

def sampleTreasuryRuntime : TreasuryRuntime where
  treasuryAdapters := ["atlas-t0-sim"]
  treasuryPolicy := defaultTreasuryPolicy
  executionMode := .dryRun
  liveExecutionEnabled := false

/-- The portfolio never changes, and nothing fails. -/
def sampleTreasuryEnvironment (reserve : Decimal) : TreasuryEnvironment where
  portfolio _ := .ok { PortfolioStateTracker.emptyState with liquidityReserve := reserve }
  promotions _ := []
  refreshes _ := .ok ()
  venueState _ := .error "not simulated"
  position _ := .error "not simulated"
  capabilities _ := .error "not simulated"
  execute _ := .error "not simulated"
  faults _ := none

def sampleTreasuryVenue : SimulatedTreasuryVenue :=
  .create
    { venueId := "atlas-t0-sim"
      venueName := "Atlas T0"
      liquidityTier := .instant
      aprBps := 400
      availableCapacityUsd := 1000000
      currentAllocationUsd := 0 }

def sampleTreasuryDeposit (id : String) (amountUsd : Decimal) : TreasuryAction where
  id
  treasuryRunId := "run-0"
  linkedRebalanceProposalId := none
  actionType := .allocateToVenue
  status := .approved
  venueId := some "atlas-t0-sim"
  venueName := some "Atlas T0"
  venueMode := .simulated
  amountUsd
  reasonCode := .surplusDeployable
  summary := "Deploy surplus."
  details := []
  readiness := .actionable
  executable := true
  blockedReasons := []
  approvalRequirement := .operator
  executionMode := .dryRun
  simulated := true
  linkedCommandId := none
  latestExecutionId := none
  lastError := none

/-- The reserve is stored as cash, and two deposits are approved. -/
def sampleTreasuryWorld : TreasuryWorld where
  tables :=
    { actions := [sampleTreasuryDeposit "a" 10000, sampleTreasuryDeposit "b" 20000]
      executions := []
      runs := ["run-0"]
      current := some { latestTreasuryRunId := "run-0", cashBalanceUsd := 100000 }
      nextId := 0 }
  venues := .ofList [("atlas-t0-sim", sampleTreasuryVenue)]
  executed := []
  calls := 0

def sampleTreasuryOperation (actionId treasuryRunId : String) : TreasuryOperation :=
  .execute { actionId, actorId := "ops", commandId := none, startedBy := "worker" } treasuryRunId

/-- A change of the budget, which moves nothing, and a deposit. -/
def sampleBudgetWorld : TreasuryWorld :=
  { sampleTreasuryWorld with
    tables :=
      { sampleTreasuryWorld.tables with
        actions :=
          [{ sampleTreasuryDeposit "c" 5000 with actionType := .rebalanceTreasuryBudget },
            sampleTreasuryDeposit "a" 10000] } }

theorem worlds_totalUsd_iff_sample :
    let env := sampleTreasuryEnvironment 100000
    let operations := [sampleTreasuryOperation "c" "run-1", sampleTreasuryOperation "a" "run-2"]
    (∀ w' ∈ sampleTreasuryRuntime.worlds env operations sampleBudgetWorld,
      w'.totalUsd = sampleBudgetWorld.totalUsd) ∧
    sampleTreasuryRuntime.EachOperation env (CashIsReserve 100000) operations
      sampleBudgetWorld := by
  intro env operations
  have husd : usd 100000 = 100000 := by decide +kernel
  have hcash : sampleTreasuryRuntime.EachOperation env (CashIsReserve 100000) operations
      sampleBudgetWorld := by
    rw [show CashIsReserve 100000 = fun w operation =>
      (w.moving? operation).isSome = true → w.cashUsd = some (usd 100000) from rfl, husd]
    exact ⟨by decide +kernel, by decide +kernel, trivial⟩
  refine ⟨(worlds_totalUsd_iff ?_ ?_ ?_ ?_).2 hcash, hcash⟩
  · intro n state hstate
    rw [← Except.ok.inj hstate]
  · rw [husd]
    norm_num
  · refine ⟨?_, ?_, trivial⟩
    all_goals
      show (sampleTreasuryRuntime.execution _ _ _ _).1.isOk = true
      decide +kernel
  · refine ⟨?_, ?_, trivial⟩
    · intro action haction
      cases haction
    · intro action haction
      obtain rfl : sampleTreasuryDeposit "a" 10000 = action := Option.some.inj haction
      refine ⟨"atlas-t0-sim", sampleTreasuryVenue, rfl, rfl, ?_, ?_, fun htype => absurd rfl htype⟩
      · exact ⟨zero_mem _, le_rfl, by norm_num [sampleTreasuryVenue, create]⟩
      · refine ⟨by exact_mod_cast natCast_mem_places 10000 2, ?_, ?_⟩
        all_goals norm_num [sampleTreasuryDeposit]

/-- The second of two successful deposits starts from the whole reserve again: the first deposit is
back in the cash while it is still at the venue. -/
theorem deposits_double_count :
    let env := sampleTreasuryEnvironment 100000
    let operations := [sampleTreasuryOperation "a" "run-1", sampleTreasuryOperation "b" "run-2"]
    sampleTreasuryRuntime.EachOperation env (sampleTreasuryRuntime.Succeeds env) operations
        sampleTreasuryWorld ∧
      sampleTreasuryWorld.totalUsd = some 100000 ∧
      (sampleTreasuryRuntime.worlds env operations sampleTreasuryWorld).map
        (fun w => (w.cashUsd, w.totalUsd)) =
          [(some 90000, some 100000), (some 80000, some 110000)] := by
  intro env operations
  refine ⟨⟨?_, ?_, trivial⟩, ?_, ?_⟩
  · show (sampleTreasuryRuntime.execution _ _ _ _).1.isOk = true
    decide +kernel
  · show (sampleTreasuryRuntime.execution _ _ _ _).1.isOk = true
    decide +kernel
  · decide +kernel
  · decide +kernel

end TreasuryRuntime

end SentinelApex
