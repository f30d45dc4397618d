import SentinelApex.Carry.Opportunity
import SentinelApex.Carry.RealizedApy
import SentinelApex.Lib.Runs

/-!
# Spot-perp coordination

A hedge pair holds a spot and a perpetual leg, and its status is derived from theirs after every
execution result. Two legs that have ended count as completed unless both have failed, so that a
pair whose legs ended differently is reported complete (`updateHedgePairWithExecution_notNaked_iff`).
-/

namespace SentinelApex

open Runs

/-- The market of a leg, which also names the leg in its pair. -/
inductive HedgeMarketType where
  | spot
  | perp
  deriving DecidableEq, Repr

inductive HedgeLegStatus where
  | pending
  | executing
  | completed
  | failed
  deriving DecidableEq, Repr

inductive HedgePairStatus where
  | pending
  | executing
  | completed
  | partialResult
  | failed
  deriving DecidableEq, Repr

/-- The sizes are the texts that the caller and `toFixed` give; no status depends on them. -/
structure HedgeLeg where
  side : LegSide
  marketType : HedgeMarketType
  venueId : String
  size : String
  targetSize : String
  status : HedgeLegStatus
  deriving DecidableEq

structure DeltaNeutralHedgePair where
  pairId : String
  asset : String
  spotLeg : HedgeLeg
  perpLeg : HedgeLeg
  notionalUsd : String
  status : HedgePairStatus
  createdAt : Date
  updatedAt : Date
  deriving DecidableEq

structure HedgePairParams where
  asset : String
  notionalUsd : Decimal
  spotVenueId : String
  perpVenueId : String
  spotPrice : Decimal
  perpPrice : Decimal

def createHedgePair (params : HedgePairParams) (now : Date) : DeltaNeutralHedgePair :=
  let spotSize := DecimalValue.quotient params.notionalUsd params.spotPrice
  let perpSize := DecimalValue.quotient params.notionalUsd params.perpPrice
  { pairId := s!"hedge-{params.asset}-{now}"
    asset := params.asset
    spotLeg :=
      { side := .long
        marketType := .spot
        venueId := params.spotVenueId
        size := "0"
        targetSize := spotSize.toFixed 8
        status := .pending }
    perpLeg :=
      { side := .short
        marketType := .perp
        venueId := params.perpVenueId
        size := "0"
        targetSize := perpSize.toFixed 8
        status := .pending }
    notionalUsd := Decimal.toFixed params.notionalUsd 2
    status := .pending
    createdAt := now
    updatedAt := now }

/-- What the execution of a leg ends with. -/
inductive HedgeOutcome where
  | completed
  | failed
  deriving DecidableEq, Repr

def HedgeOutcome.toLegStatus : HedgeOutcome → HedgeLegStatus
  | .completed => .completed
  | .failed => .failed

/-- `status === 'completed' || status === 'failed'`. -/
def HedgeLegStatus.done (status : HedgeLegStatus) : Bool :=
  decide (status = .completed ∨ status = .failed)

def pairStatus (spot perp : HedgeLegStatus) : HedgePairStatus :=
  if spot = .failed ∧ perp = .failed then .failed
  else if spot.done && perp.done then .completed
  else if spot.done || perp.done then .partialResult
  else .executing

def updateHedgePairWithExecution (pair : DeltaNeutralHedgePair) (legType : HedgeMarketType)
    (executedSize : String) (status : HedgeOutcome) (now : Date) : DeltaNeutralHedgePair :=
  let updated := match legType with
    | .spot =>
      { pair with spotLeg :=
          { pair.spotLeg with size := executedSize, status := status.toLegStatus } }
    | .perp =>
      { pair with perpLeg :=
          { pair.perpLeg with size := executedSize, status := status.toLegStatus } }
  { updated with
    status := pairStatus updated.spotLeg.status updated.perpLeg.status
    updatedAt := now }

/-- A call of `updateHedgePairWithExecution`. -/
structure HedgeExecution where
  legType : HedgeMarketType
  executedSize : String
  status : HedgeOutcome
  now : Date

namespace DeltaNeutralHedgePair

def apply (pair : DeltaNeutralHedgePair) (execution : HedgeExecution) : DeltaNeutralHedgePair :=
  updateHedgePairWithExecution pair execution.legType execution.executedSize execution.status
    execution.now

def Mixed (spot perp : HedgeLegStatus) : Prop :=
  (spot = .completed ∧ perp = .failed) ∨ (spot = .failed ∧ perp = .completed)

instance (spot perp : HedgeLegStatus) : Decidable (Mixed spot perp) :=
  inferInstanceAs (Decidable (_ ∨ _))

/-- A pair is reported complete only with both legs complete, and a pair with one leg only is
reported as such. -/
structure NotNaked (pair : DeltaNeutralHedgePair) : Prop where
  complete : pair.status = .completed →
    pair.spotLeg.status = .completed ∧ pair.perpLeg.status = .completed
  mixed : Mixed pair.spotLeg.status pair.perpLeg.status →
    pair.status = .partialResult ∨ pair.status = .failed

/-- The leg that an execution result is not about. -/
def otherLeg (pair : DeltaNeutralHedgePair) : HedgeMarketType → HedgeLeg
  | .spot => pair.perpLeg
  | .perp => pair.spotLeg

/-- The other leg has not ended with the opposite result. -/
def EndsAlike (pair : DeltaNeutralHedgePair) (execution : HedgeExecution) : Prop :=
  ¬ Mixed execution.status.toLegStatus (pair.otherLeg execution.legType).status

instance (pair : DeltaNeutralHedgePair) (execution : HedgeExecution) :
    Decidable (pair.EndsAlike execution) :=
  inferInstanceAs (Decidable (¬ _))

theorem mixed_comm (spot perp : HedgeLegStatus) : Mixed spot perp ↔ Mixed perp spot := by
  unfold Mixed
  tauto

theorem pairStatus_eq_completed_iff (spot perp : HedgeLegStatus) :
    pairStatus spot perp = .completed ↔
      (spot = .completed ∧ perp = .completed) ∨ Mixed spot perp := by
  cases spot <;> cases perp <;> decide

theorem notNaked_iff_of_pairStatus {pair : DeltaNeutralHedgePair}
    (h : pair.status = pairStatus pair.spotLeg.status pair.perpLeg.status) :
    NotNaked pair ↔ ¬ Mixed pair.spotLeg.status pair.perpLeg.status := by
  have hcompleted := pairStatus_eq_completed_iff pair.spotLeg.status pair.perpLeg.status
  constructor
  · intro hpair hmixed
    have hstatus : pair.status = .completed := by rw [h, hcompleted]; exact Or.inr hmixed
    rcases hpair.mixed hmixed with hpartial | hfailed
    · rw [hstatus] at hpartial
      cases hpartial
    · rw [hstatus] at hfailed
      cases hfailed
  · intro hmixed
    refine ⟨fun hstatus => ?_, fun hm => absurd hm hmixed⟩
    rw [h, hcompleted] at hstatus
    exact hstatus.resolve_right hmixed

variable (pair : DeltaNeutralHedgePair) (execution : HedgeExecution)

theorem apply_status :
    (pair.apply execution).status =
      pairStatus (pair.apply execution).spotLeg.status (pair.apply execution).perpLeg.status := rfl

theorem mixed_apply_iff :
    Mixed (pair.apply execution).spotLeg.status (pair.apply execution).perpLeg.status ↔
      Mixed execution.status.toLegStatus (pair.otherLeg execution.legType).status := by
  obtain ⟨legType, executedSize, status, now⟩ := execution
  cases legType with
  | spot => exact Iff.rfl
  | perp => exact mixed_comm _ _

theorem updateHedgePairWithExecution_notNaked_iff :
    NotNaked (pair.apply execution) ↔ pair.EndsAlike execution := by
  rw [notNaked_iff_of_pairStatus (pair.apply_status execution), mixed_apply_iff]
  rfl

theorem createHedgePair_notNaked (params : HedgePairParams) (now : Date) :
    NotNaked (createHedgePair params now) := by
  refine ⟨fun h => ?_, fun h => ?_⟩
  · cases h
  · rcases h with ⟨h, -⟩ | ⟨h, -⟩ <;> cases h

theorem run_notNaked_iff (executions : List HedgeExecution) :
    (∀ k, NotNaked ((executions.take k).foldl apply pair)) ↔
      NotNaked pair ∧ Along apply EndsAlike pair executions := by
  induction executions generalizing pair with
  | nil => simp [Along]
  | cons execution executions ih =>
    have hstep := updateHedgePairWithExecution_notNaked_iff pair execution
    constructor
    · intro h
      have hrest := (ih (pair.apply execution)).1 fun k => h (k + 1)
      exact ⟨h 0, hstep.1 hrest.1, hrest.2⟩
    · rintro ⟨hpair, hfirst, hrest⟩ k
      cases k with
      | zero => exact hpair
      | succ k => exact (ih (pair.apply execution)).2 ⟨hstep.2 hfirst, hrest⟩ k

/-- From a new pair on, no state is naked exactly if no update ends a leg differently from how the
other leg has ended before. -/
theorem session_notNaked_iff (params : HedgePairParams) (now : Date)
    (executions : List HedgeExecution) :
    (∀ k, NotNaked ((executions.take k).foldl apply (createHedgePair params now))) ↔
      Along apply EndsAlike (createHedgePair params now) executions := by
  rw [run_notNaked_iff]
  exact and_iff_right (createHedgePair_notNaked params now)

def sampleHedgeParams : HedgePairParams where
  asset := "BTC"
  notionalUsd := 1000
  spotVenueId := "venue-a"
  perpVenueId := "venue-b"
  spotPrice := 50000
  perpPrice := 50000

/-- The perpetual leg is filled, the spot leg fails: the pair is complete with an open short. -/
theorem naked_pair_completed :
    let pair := [HedgeExecution.mk .perp "0.02" .completed 1, ⟨.spot, "0", .failed, 2⟩].foldl apply
      (createHedgePair sampleHedgeParams 0)
    pair.status = .completed ∧ pair.perpLeg.status = .completed ∧ pair.spotLeg.status = .failed ∧
      ¬ NotNaked pair := by
  refine ⟨rfl, rfl, rfl, fun h => ?_⟩
  have hspot := (h.complete rfl).1
  cases hspot

end DeltaNeutralHedgePair

end SentinelApex
