import Mathlib.Data.List.Sort
import SentinelApex.Carry.Opportunity

/-!
# Multi-leg orchestration

`createMultiLegPlan` turns leg definitions into a plan: the sequences of the legs have to be
`1, ..., n`, and the legs are ordered by their dependencies.
-/

namespace SentinelApex

inductive PlanLegType where
  | spot
  | perp
  | futures
  deriving DecidableEq, Repr

inductive PlanLegStatus where
  | pending
  | executing
  | completed
  | failed
  | skipped
  | cancelled
  deriving DecidableEq, Repr

inductive PlanStatus where
  | pending
  | executing
  | completed
  | partialResult
  | failed
  | cancelled
  deriving DecidableEq, Repr

inductive PlanType where
  | deltaNeutralCarry
  | custom
  deriving DecidableEq, Repr

structure SpotPerpCoordinationConfig where
  maxHedgeDeviationPct : Number
  perpFirst : Bool
  executionTimeoutMs : ℕ
  minimumSizeIncrement : Decimal

structure LegDefinition where
  legSequence : ℕ
  legType : PlanLegType
  side : LegSide
  venueId : String
  asset : String
  marketSymbol : Option String := none
  targetSize : Decimal
  targetNotionalUsd : Decimal
  dependsOn : Option ℕ := none

structure MultiLegPlanInput where
  carryActionId : String
  strategyRunId : Option String
  asset : String
  notionalUsd : Decimal
  legs : List LegDefinition
  coordinationConfig : SpotPerpCoordinationConfig
  maxHedgeDeviationPct : Decimal

structure PlanLeg where
  id : String
  planId : String
  carryActionId : String
  legSequence : ℕ
  legType : PlanLegType
  side : LegSide
  venueId : String
  asset : String
  marketSymbol : Option String
  targetSize : Decimal
  targetNotionalUsd : Decimal
  status : PlanLegStatus

structure MultiLegPlan where
  id : String
  carryActionId : String
  strategyRunId : Option String
  planType : PlanType
  asset : String
  notionalUsd : Decimal
  legCount : ℕ
  legs : List PlanLeg
  executionOrder : List ℕ
  status : PlanStatus
  coordinationConfig : SpotPerpCoordinationConfig
  maxHedgeDeviationPct : Decimal

def unvisited (legs : List LegDefinition) (visiting : List ℕ) : ℕ :=
  legs.countP fun leg => decide (leg.legSequence ∉ visiting)

theorem unvisited_cons_lt {legs : List LegDefinition} {visiting : List ℕ} {leg : LegDefinition}
    (hleg : leg ∈ legs) (hnew : leg.legSequence ∉ visiting) :
    unvisited legs (leg.legSequence :: visiting) < unvisited legs visiting := by
  unfold unvisited
  obtain ⟨before, after, rfl⟩ := List.append_of_mem hleg
  have hle (l : List LegDefinition) :
      l.countP (fun other => decide (other.legSequence ∉ leg.legSequence :: visiting)) ≤
        l.countP fun other => decide (other.legSequence ∉ visiting) := by
    refine List.countP_mono_left fun other _ hother => ?_
    simp only [List.mem_cons, not_or, decide_eq_true_eq] at hother ⊢
    exact hother.2
  have hbefore := hle before
  have hafter := hle after
  simp only [List.countP_append, List.countP_cons, List.mem_cons, true_or, not_true_eq_false,
    decide_false, Bool.false_eq_true, if_false, hnew, not_false_eq_true, decide_true, if_true]
  simp only [List.mem_cons] at hbefore hafter
  omega

/-- Visit a leg after the leg it depends on; `order` are the sequences visited so far, and `none`
means that the leg depends on itself. -/
def visit (legs : List LegDefinition) (visiting : List ℕ) (leg : { leg // leg ∈ legs })
    (order : List ℕ) : Option (List ℕ) :=
  if leg.1.legSequence ∈ order then some order
  else if hnew : leg.1.legSequence ∈ visiting then none
  else
    let dependency := leg.1.dependsOn.bind fun sequence =>
      legs.attach.find? fun other => decide (other.1.legSequence = sequence)
    let visited := match dependency with
      | none => some order
      | some dep => visit legs (leg.1.legSequence :: visiting) dep order
    visited.map fun order => order ++ [leg.1.legSequence]
termination_by unvisited legs visiting
decreasing_by exact unvisited_cons_lt leg.2 hnew

/-- Empty if the dependencies are circular. -/
def computeExecutionOrder (legs : List LegDefinition) : List ℕ :=
  (legs.attach.foldlM (fun order leg => visit legs [] leg order) []).getD []

/-- The first sequence that is missing from `1, ..., n`. -/
def missingSequence (sequences : List ℕ) : Option ℕ :=
  (sequences.zipIdx.find? fun s => decide (s.1 ≠ s.2 + 1)).map fun s => s.2 + 1

def planTypeOf (legs : List LegDefinition) : PlanType :=
  if legs.length = 2 ∧ (legs.any fun leg => decide (leg.legType = .spot)) = true ∧
      (legs.any fun leg => decide (leg.legType = .perp)) = true then .deltaNeutralCarry
  else .custom

/-- `now` is the reading of the clock that names the plan. -/
def createMultiLegPlan (input : MultiLegPlanInput) (now : Date) : Except String MultiLegPlan :=
  if input.legs = [] then .error "Multi-leg plan must have at least one leg"
  else
    let sequences := (input.legs.map fun leg => leg.legSequence).insertionSort (· ≤ ·)
    match missingSequence sequences with
    | some missing =>
      .error s!"Leg sequences must be contiguous starting from 1. Missing: {missing}"
    | none =>
      let executionOrder := computeExecutionOrder input.legs
      if executionOrder.length ≠ input.legs.length then
        .error "Circular dependency detected in leg dependencies"
      else
        let planId := s!"plan_{now}"
        .ok
          { id := planId
            carryActionId := input.carryActionId
            strategyRunId := input.strategyRunId
            planType := planTypeOf input.legs
            asset := input.asset
            notionalUsd := input.notionalUsd
            legCount := input.legs.length
            legs := input.legs.map fun leg =>
              { id := s!"leg_{planId}_{leg.legSequence}"
                planId
                carryActionId := input.carryActionId
                legSequence := leg.legSequence
                legType := leg.legType
                side := leg.side
                venueId := leg.venueId
                asset := leg.asset
                marketSymbol := leg.marketSymbol
                targetSize := leg.targetSize
                targetNotionalUsd := leg.targetNotionalUsd
                status := .pending }
            executionOrder
            status := .pending
            coordinationConfig := input.coordinationConfig
            maxHedgeDeviationPct := input.maxHedgeDeviationPct }

theorem one_le_legSequence_of_createMultiLegPlan {input : MultiLegPlanInput} {now : Date}
    {plan : MultiLegPlan} (h : createMultiLegPlan input now = .ok plan) :
    ∀ leg ∈ input.legs, 1 ≤ leg.legSequence := by
  intro leg hleg
  unfold createMultiLegPlan at h
  split_ifs at h
  dsimp only at h
  split at h
  · cases h
  · rename_i hnone
    rw [missingSequence, Option.map_eq_none_iff, List.find?_eq_none] at hnone
    have hmem : leg.legSequence ∈ (input.legs.map fun leg => leg.legSequence).insertionSort
        (· ≤ ·) := by
      rw [List.mem_insertionSort]
      exact List.mem_map_of_mem hleg
    obtain ⟨i, hi, hget⟩ := List.getElem_of_mem hmem
    have hnot := hnone (leg.legSequence, i) (by
      rw [List.mem_zipIdx_iff_getElem?, ← hget]
      exact List.getElem?_eq_getElem hi)
    simp only [ne_eq, decide_not, Bool.not_eq_true', decide_eq_false_iff_not, not_not] at hnot
    omega

end SentinelApex
