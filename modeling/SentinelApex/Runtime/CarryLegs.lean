import SentinelApex.Runtime.CarryCompletion

/-!
# The legs of a carry execution

The legs of a plan are to say what became of the orders that they were built from. No planned
orders make a plan, so an execution has no legs to update (`legs_follow_orders_never`).
-/

namespace SentinelApex

open Async

def CarryCall.touchesLegs : CarryCall → Bool
  | .createMultiLegPlan _ => true
  | .createLegExecution _ => true
  | .updateLegExecutionStatus .. => true
  | _ => false

def updatedLegs (events : List CarryEvent) : List String :=
  events.filterMap fun e =>
    match e.call with
    | .updateLegExecutionStatus legId _ => some legId
    | _ => none

/-- The leg is the one built from the order, was updated once, and ended as the order did. -/
structure LegFollows (events : List CarryEvent) (w : CarryWorld) (order : CarryPlannedOrder)
    (leg : LegExecutionRow) : Prop where
  venue : leg.venueId = order.venueId
  built : ∃ legType : PlanLegType, legType.rowType = leg.legType ∧ LegMatches order leg.side legType
  updated : (updatedLegs events).count leg.id = 1
  completed : leg.status = .completed ↔ w.orders.statusOf order.intentId = some .filled
  size : leg.status = .completed →
    leg.executedSize = (w.orders.orderRow order.intentId).map fun row => row.filledSize
  failed : leg.status = .failed ↔ w.orders.statusOf order.intentId = some .failed

/-- Every planned order of the action, if there are two or more, has a leg of its own that follows
it. -/
def LegsFollowOrders (actionId : String) (w : CarryWorld) (events : List CarryEvent)
    (w' : CarryWorld) : Prop :=
  ∀ detail, w.tables.getCarryAction actionId = some detail → 2 ≤ detail.plannedOrders.length →
    ∃ legs : List LegExecutionRow, legs ⊆ w'.tables.legs ∧ (legs.map LegExecutionRow.id).Nodup ∧
      List.Forall₂ (LegFollows events w') detail.plannedOrders legs

theorem CarryCall.ofLoop.touchesLegs {c : CarryCall} (hc : c.ofLoop (none ≠ (none : Option String))) :
    c.touchesLegs = false := by
  cases c <;> first | rfl | cases hc <;> contradiction

theorem CarryCall.ofExit.touchesLegs {c : CarryCall} (hc : c.ofExit) : c.touchesLegs = false :=
  CarryCall.ofLoop.touchesLegs (CarryCall.ofFailure.loop (Or.inl hc))

variable (runtime : SentinelRuntime) (input : ExecuteCarryInput) (readings : ℕ → StepReadings)

theorem uses_runExecution (now : Date) (detail : CarryActionDetail) (executionId : String) :
    (runExecution runtime input readings now detail executionId).Uses
      fun c => c.touchesLegs = false := by
  refine .call_bind rfl fun _ => .call_bind rfl fun venues => ?_
  refine .bind ((uses_unlessBlocked _ _ _ _).mono fun _ hc => hc.touchesLegs) fun _ => ?_
  have hguards : (enforceGuardrails detail executionId).Uses fun c => c.touchesLegs = false :=
    .call_bind rfl fun _ =>
      .bind ((uses_unlessStopped _ _ _).mono fun _ hc => hc.touchesLegs) fun _ =>
        .call_bind rfl fun _ => (uses_unlessStopped _ _ _).mono fun _ hc => hc.touchesLegs
  refine .bind hguards fun _ => ?_
  -- there is no plan
  rw [planOrders_eq]
  change Task.Uses _ (_ >>= fun orderResults => completeExecution input _ orderResults)
  refine .bind ((uses_submitOrders _ _ _ _).mono fun _ hc => hc.touchesLegs) fun orderResults => ?_
  refine .call_bind rfl fun _ => .call_bind rfl fun _ => .call_bind rfl fun _ => ?_
  refine .call_bind rfl fun _ => .bind ?_ fun _ => .call_bind rfl fun _ => trivial
  exact (uses_syncLinkedBundle _).mono fun _ hc => hc.touchesLegs

theorem uses_executeCarryAction (now : Date) :
    (executeCarryAction runtime input readings now).Uses fun c => c.touchesLegs = false := by
  refine .call_bind rfl fun answer => ?_
  cases answer with
  | none => trivial
  | some detail =>
    dsimp only
    split_ifs
    · trivial
    · exact .call_bind rfl fun execution => uses_runExecution _ _ _ _ _ _
    · exact .call_bind rfl fun execution =>
        (uses_refuseExecution _ _).mono fun _ hc => hc.touchesLegs

theorem updatedLegs_executeCarryAction (now : Date) (env : CarryEnvironment) (w : CarryWorld) :
    updatedLegs ((executeCarryAction runtime input readings now).trace (handleCarry env) w) = [] := by
  refine List.filterMap_eq_nil_iff.2 fun e he => ?_
  have huntouched := (uses_executeCarryAction runtime input readings now).trace w e he
  cases hcall : e.call with
  | updateLegExecutionStatus legId p =>
    rw [hcall] at huntouched
    cases huntouched
  | _ => rfl

theorem not_legsFollowOrders {actionId : String} {w w' : CarryWorld} {events : List CarryEvent}
    {detail : CarryActionDetail} (hdetail : w.tables.getCarryAction actionId = some detail)
    (hlength : 2 ≤ detail.plannedOrders.length) (h : updatedLegs events = []) :
    ¬ LegsFollowOrders actionId w events w' := by
  intro hfollow
  obtain ⟨legs, -, -, hall⟩ := hfollow detail hdetail hlength
  cases horders : detail.plannedOrders with
  | nil => simp [horders] at hlength
  | cons order orders =>
    rw [horders] at hall
    obtain ⟨leg, -, hleg, -, -⟩ := List.forall₂_cons_left_iff.1 hall
    have hcount := hleg.updated
    rw [h] at hcount
    cases hcount

/-- No execution of an action with two or more planned orders has legs that follow them. -/
theorem legs_follow_orders_never (runtime : SentinelRuntime) (env : CarryEnvironment)
    (input : ExecuteCarryInput) (readings : ℕ → StepReadings) (now : Date) (w : CarryWorld)
    {detail : CarryActionDetail} (hdetail : w.tables.getCarryAction input.actionId = some detail)
    (hlength : 2 ≤ detail.plannedOrders.length) :
    ¬ LegsFollowOrders input.actionId w
      ((executeCarryAction runtime input readings now).trace (handleCarry env) w)
      ((executeCarryAction runtime input readings now).run (handleCarry env) w).2 :=
  not_legsFollowOrders hdetail hlength
    (updatedLegs_executeCarryAction runtime input readings now env w)

/-- A queued action with the purchase of spot and the sale of a perpetual. -/
def spotPerpWorld : CarryWorld :=
  { oneOrderWorld with
    tables :=
      { oneOrderTables with
        plannedOrders :=
          [samplePlannedOrder .buy .spot, samplePlannedOrder .sell .perpetual].map fun order =>
            { order with
              carryActionId := "action-1"
              metadata := order.metadata.set "sleeveId" (.str "carry") } } }

theorem spotPerpWorld_detail : ∃ detail,
    spotPerpWorld.tables.getCarryAction "action-1" = some detail ∧
      2 ≤ detail.plannedOrders.length :=
  ⟨_, rfl, by decide⟩

theorem legs_follow_orders_never_spotPerp :
    ¬ LegsFollowOrders "action-1" spotPerpWorld
      ((executeCarryAction { adapters := ["venue-a"] } sampleCarryInput sampleReadings 0).trace
        (handleCarry (answeringEnvironment .filled)) spotPerpWorld)
      ((executeCarryAction { adapters := ["venue-a"] } sampleCarryInput sampleReadings 0).run
        (handleCarry (answeringEnvironment .filled)) spotPerpWorld).2 := by
  obtain ⟨detail, hdetail, hlength⟩ := spotPerpWorld_detail
  exact legs_follow_orders_never _ _ sampleCarryInput _ _ _ hdetail hlength

/-- Both orders are submitted and filled, the action is completed, and there is no leg. -/
theorem spotPerp_without_legs :
    let run := (executeCarryAction { adapters := ["venue-a"] } sampleCarryInput sampleReadings
      0).run (handleCarry (answeringEnvironment .filled)) spotPerpWorld
    let events := (executeCarryAction { adapters := ["venue-a"] } sampleCarryInput sampleReadings
      0).trace (handleCarry (answeringEnvironment .filled)) spotPerpWorld
    run.2.tables.actionStatus "action-1" = some .completed ∧
      run.2.orders.statusOf "buy" = some .filled ∧ run.2.orders.statusOf "sell" = some .filled ∧
      run.2.tables.legs = [] ∧ ¬ LegsFollowOrders "action-1" spotPerpWorld events run.2 := by
  refine ⟨by decide +kernel, by decide +kernel, by decide +kernel, ?_, ?_⟩
  · exact List.length_eq_zero_iff.1 (by decide +kernel)
  · obtain ⟨detail, hdetail, hlength⟩ := spotPerpWorld_detail
    exact not_legsFollowOrders hdetail hlength
      (updatedLegs_executeCarryAction _ sampleCarryInput _ _ _ _)

end SentinelApex
