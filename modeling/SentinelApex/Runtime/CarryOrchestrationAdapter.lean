import SentinelApex.Runtime.CarryTables

/-!
# Carry orchestration adapter

The adapter between the planned orders of the runtime and the multi-leg plans of the carry package.
It numbers the legs from 0, and `createMultiLegPlan` requires sequences from 1: no planned orders
make a plan (`createMultiLegPlan_buildMultiLegPlanInput`).
-/

namespace SentinelApex

inductive AdapterLegType where
  | spot
  | perp
  deriving DecidableEq, Repr

def AdapterLegType.toPlanLegType : AdapterLegType → PlanLegType
  | .spot => .spot
  | .perp => .perp

/-- The side of the order is not consulted. -/
def toLegSide (_plannedOrderSide : OrderSide) (legType : AdapterLegType) : LegSide :=
  if legType = .spot then .long else .short

def toLegDefinition (plannedOrder : CarryPlannedOrder) (legSequence : ℕ)
    (legType : AdapterLegType) : LegDefinition where
  legSequence
  legType := legType.toPlanLegType
  side := toLegSide plannedOrder.side legType
  venueId := plannedOrder.venueId
  asset := plannedOrder.asset
  marketSymbol := some plannedOrder.asset
  targetSize := plannedOrder.requestedSize
  targetNotionalUsd := plannedOrder.requestedSize.times (plannedOrder.requestedPrice.getD 0)

/-- The configuration without overrides. -/
def createCoordinationConfig : SpotPerpCoordinationConfig where
  maxHedgeDeviationPct := 2
  perpFirst := true
  executionTimeoutMs := 30000
  minimumSizeIncrement := 1 / 10000

/-- The first order is taken for the spot leg, the others for perpetual legs. -/
def buildLegDefinitions (plannedOrders : List CarryPlannedOrder) :
    Except String (List LegDefinition) :=
  if plannedOrders.length < 2 then
    .error s!"Multi-leg execution requires at least 2 legs, got {plannedOrders.length}"
  else
    .ok (plannedOrders.zipIdx.map fun entry =>
      toLegDefinition entry.1 entry.2 (if entry.2 = 0 then .spot else .perp))

def calculateTotalNotional (plannedOrders : List CarryPlannedOrder) : Decimal :=
  plannedOrders.foldl (fun sum order =>
    sum.plus (order.requestedSize.times (order.requestedPrice.getD 0))) 0

def buildMultiLegPlanInput (carryActionId : String) (strategyRunId : Option String)
    (asset : String) (plannedOrders : List CarryPlannedOrder) :
    Except String MultiLegPlanInput := do
  let legs ← buildLegDefinitions plannedOrders
  return {
    carryActionId
    strategyRunId
    asset
    notionalUsd := calculateTotalNotional plannedOrders
    legs
    coordinationConfig := createCoordinationConfig
    maxHedgeDeviationPct := 2 }

def calculateExecutionOrder (config : SpotPerpCoordinationConfig) (legCount : ℕ) : List ℕ :=
  if config.perpFirst = true ∧ 2 ≤ legCount then 1 :: 0 :: (List.range legCount).drop 2
  else List.range legCount

theorem zero_mem_buildLegDefinitions {plannedOrders : List CarryPlannedOrder}
    {legs : List LegDefinition} (h : buildLegDefinitions plannedOrders = .ok legs) :
    ∃ leg ∈ legs, leg.legSequence = 0 := by
  unfold buildLegDefinitions at h
  split_ifs at h with hlength
  cases h
  cases plannedOrders with
  | nil => simp at hlength
  | cons order rest =>
    refine ⟨toLegDefinition order 0 .spot, ?_, rfl⟩
    simp [List.zipIdx_cons]

theorem createMultiLegPlan_buildMultiLegPlanInput (carryActionId : String)
    (strategyRunId : Option String) (asset : String) (plannedOrders : List CarryPlannedOrder)
    (now : Date) :
    ∃ message, ((buildMultiLegPlanInput carryActionId strategyRunId asset plannedOrders).bind
      fun input => createMultiLegPlan input now) = .error message := by
  unfold buildMultiLegPlanInput
  cases hlegs : buildLegDefinitions plannedOrders with
  | error message => exact ⟨message, rfl⟩
  | ok legs =>
    obtain ⟨leg, hleg, hzero⟩ := zero_mem_buildLegDefinitions hlegs
    set input : MultiLegPlanInput :=
      { carryActionId, strategyRunId, asset, notionalUsd := calculateTotalNotional plannedOrders,
        legs, coordinationConfig := createCoordinationConfig, maxHedgeDeviationPct := 2 }
    show ∃ message, createMultiLegPlan input now = .error message
    cases hplan : createMultiLegPlan input now with
    | error message => exact ⟨message, rfl⟩
    | ok plan =>
      have hone := one_le_legSequence_of_createMultiLegPlan hplan leg hleg
      omega

def plannedInstrumentType (order : CarryPlannedOrder) : Option InstrumentType :=
  match order.metadata.get? "instrumentType" with
  | some (.str "spot") => some .spot
  | some (.str "perpetual") => some .perpetual
  | some (.str "future") => some .future
  | _ => none

/-- A buy order opens a long leg, a sell order a short one. -/
def orderLegSide : OrderSide → LegSide
  | .buy => .long
  | .sell => .short

def PlanLegType.instrumentType : PlanLegType → InstrumentType
  | .spot => .spot
  | .perp => .perpetual
  | .futures => .future

structure LegMatches (order : CarryPlannedOrder) (side : LegSide) (legType : PlanLegType) : Prop where
  side : side = orderLegSide order.side
  instrument : plannedInstrumentType order = some legType.instrumentType

/-- The orders become a plan whose legs are directed as they are. -/
def PlansOrders (carryActionId : String) (strategyRunId : Option String) (asset : String)
    (plannedOrders : List CarryPlannedOrder) (now : Date) : Prop :=
  ∃ plan, ((buildMultiLegPlanInput carryActionId strategyRunId asset plannedOrders).bind
      fun input => createMultiLegPlan input now) = .ok plan ∧
    List.Forall₂ (fun order (leg : PlanLeg) => LegMatches order leg.side leg.legType) plannedOrders
      plan.legs

/-- There is no plan, whatever the orders are. -/
theorem not_plansOrders (carryActionId : String) (strategyRunId : Option String) (asset : String)
    (plannedOrders : List CarryPlannedOrder) (now : Date) :
    ¬ PlansOrders carryActionId strategyRunId asset plannedOrders now := by
  rintro ⟨plan, hplan, -⟩
  obtain ⟨message, hmessage⟩ := createMultiLegPlan_buildMultiLegPlanInput carryActionId
    strategyRunId asset plannedOrders now
  rw [hmessage] at hplan
  cases hplan

def samplePlannedOrder (side : OrderSide) (instrumentType : InstrumentType) : CarryPlannedOrder where
  id := side.text
  carryActionId := "action"
  intentId := side.text
  venueId := "venue-a"
  asset := "BTC"
  side
  orderType := .market
  requestedSize := 1
  requestedPrice := none
  reduceOnly := false
  metadata := OrderedMap.empty.set "instrumentType" (.str instrumentType.text)
  createdAt := 0

/-- A spot purchase and the sale of a perpetual: the leg of the purchase is numbered 0. -/
theorem spotPerpOrders_refused :
    let orders := [samplePlannedOrder .buy .spot, samplePlannedOrder .sell .perpetual]
    orders.map plannedInstrumentType = [some .spot, some .perpetual] ∧
      ((buildMultiLegPlanInput "action" none "BTC" orders).bind
        fun input => createMultiLegPlan input 0) =
          .error "Leg sequences must be contiguous starting from 1. Missing: 1" ∧
      ¬ PlansOrders "action" none "BTC" orders 0 := by
  refine ⟨rfl, rfl, ?_⟩
  rintro ⟨plan, hplan, -⟩
  cases hplan

end SentinelApex
