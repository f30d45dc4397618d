import SentinelApex.Runtime.PromotionRuns

/-!
# Live eligibility

An approval lasts until a suspension; whether the connector is eligible for sensitive execution is
computed from its latest snapshot on every read. So a venue that is reported as eligible has been
approved by an admin and not decided on since, and its snapshot stands for live use
(`liveEligibility_after_runs`).
-/

namespace SentinelApex

open Async

/-- The newest snapshot of a venue stands for live use at the time `now`. -/
structure LiveSnapshot (P : ReadinessPlatform) (w : PromotionWorld) (now : Date)
    (snapshot : VenueConnectorSnapshotRow) : Prop where
  persisted : snapshot ∈ w.snapshots
  newest : ∀ other ∈ w.snapshots, other.venueId = snapshot.venueId →
    other.capturedAt ≤ snapshot.capturedAt
  real : snapshot.truthMode = .real
  executionSupport : snapshot.executionSupport = true
  fresh : now - snapshot.capturedAt ≤ venueSnapshotStaleAfterMs
  succeeded : ∃ other ∈ w.snapshots, other.venueId = snapshot.venueId ∧
    other.snapshotSuccessful = true
  healthy : snapshot.healthy = true
  healthState : snapshot.healthState = .healthy
  complete : snapshot.snapshotCompleteness = .complete
  prerequisites : ∀ prerequisite ∈ snapshot.missingPrerequisites, Blank prerequisite
  configured : ∀ marker ∈ collectConnectorConfigReadinessMarkers P snapshot.metadata,
    marker.ready = true
  confirmed : ∀ evidence, snapshot.executionConfirmationState = some evidence →
    evidence.status = .blocked → ∀ reason ∈ evidence.blockingReasons, Blank reason

/-- The venue was approved by an admin and not decided on since, and its newest snapshot stands for
live use. -/
def LiveEligible (P : ReadinessPlatform) (ops : List PromotionOperation) (w : PromotionWorld)
    (now : Date) (venueId : String) : Prop :=
  ApprovedLast ops w venueId ∧
    ∃ snapshot, snapshot.venueId = venueId ∧ LiveSnapshot P w now snapshot

section Snapshots

variable {P : ReadinessPlatform} {w : PromotionWorld} {now : Date} {venueId : String}
  {venue : VenueInventoryCore}

theorem mem_sortedSnapshots {snapshots : List VenueConnectorSnapshotRow}
    {snapshot : VenueConnectorSnapshotRow} :
    snapshot ∈ sortedSnapshots snapshots ↔ snapshot ∈ snapshots := List.mem_insertionSort _

theorem pairwise_sortedSnapshots (snapshots : List VenueConnectorSnapshotRow) :
    (sortedSnapshots snapshots).Pairwise fun first second =>
      second.capturedAt ≤ first.capturedAt := by
  have htrans : IsTrans VenueConnectorSnapshotRow fun first second =>
      second.capturedAt ≤ first.capturedAt := ⟨fun _ _ _ h h' => le_trans h' h⟩
  have htotal : Std.Total fun first second : VenueConnectorSnapshotRow =>
      second.capturedAt ≤ first.capturedAt := ⟨fun _ _ => le_total _ _⟩
  exact List.pairwise_insertionSort _ snapshots

theorem le_of_fresh {capturedAt : Date}
    (h : classifyVenueSnapshotFreshness capturedAt now = .fresh) :
    now - capturedAt ≤ venueSnapshotStaleAfterMs := by
  by_contra hstale
  rw [classifyVenueSnapshotFreshness, if_pos (not_le.1 hstale)] at h
  cases h

/-- A venue of the inventory that is ready has a newest snapshot that stands for live use. -/
theorem liveSnapshot_of_ready (hvenue : w.venueAt now venueId = some venue)
    (hready : venue.Ready P) :
    ∃ snapshot, snapshot.venueId = venueId ∧ LiveSnapshot P w now snapshot := by
  have hid := w.venueId_of_venueAt hvenue
  have hmem := List.mem_of_find?_eq_some hvenue
  obtain ⟨snapshot, hsnapshot, rfl⟩ := List.mem_map.1 hmem
  have hfirst := Rows.mem_firsts.1 (List.mem_of_mem_take hsnapshot)
  have hpersisted := mem_sortedSnapshots.1 (Rows.mem_of_find hfirst)
  refine ⟨snapshot, hid, hpersisted, ?_, hready.real, hready.executionSupport,
    le_of_fresh hready.fresh, ?_, hready.healthy, hready.healthState, hready.complete,
    hready.prerequisites, hready.configured, hready.confirmed⟩
  · intro other hother hsame
    rcases Rows.le_of_find_pairwise (pairwise_sortedSnapshots w.snapshots) hfirst other
      (mem_sortedSnapshots.2 hother) (decide_eq_true hsame) with rfl | hle
    · exact le_refl _
    · exact hle
  · -- The last successful snapshot is the first successful row of the venue.
    have hsome := hready.succeeded
    rw [Option.isSome_map] at hsome
    obtain ⟨other, hother⟩ := Option.isSome_iff_exists.1 hsome
    have hfound := List.find?_some hother
    rw [Bool.and_eq_true, decide_eq_true_eq] at hfound
    exact ⟨other, mem_sortedSnapshots.1 (List.mem_of_find?_eq_some hother), hfound.2, hfound.1⟩

end Snapshots

section Promotion

variable {P : ReadinessPlatform} {ops : List PromotionOperation} {w : PromotionWorld} {now : Date}
  {venueId : String} {venue : VenueInventoryCore}

variable {latest : Option ConnectorPromotionRow} {evidence : ConnectorReadinessEvidence}

theorem approved_of_summary (h : (promotionSummary latest evidence).approvedForLiveUse = true) :
    ∃ row, latest = some row ∧ row.promotionStatus = .approved := by
  cases latest with
  | none => cases h
  | some row => exact ⟨row, rfl, of_decide_eq_true h⟩

theorem eligible_of_summary
    (h : (promotionSummary latest evidence).sensitiveExecutionEligible = true) :
    (promotionSummary latest evidence).approvedForLiveUse = true ∧
      evidence.eligibleForPromotion = true := by
  cases latest with
  | none => cases h
  | some row =>
    have hall : (decide (row.promotionStatus = .approved) && decide (deriveEffectivePosture
        evidence.capabilityClass row.promotionStatus = .approved_for_live) &&
        evidence.eligibleForPromotion) = true := h
    rw [Bool.and_eq_true, Bool.and_eq_true] at hall
    exact ⟨hall.1.1, hall.2⟩

variable (inv : PromotionInv ops w) (hvenue : w.venueAt now venueId = some venue)

include inv hvenue

theorem approvedLast_of_detail
    (h : (w.detailOf P venue).current.approvedForLiveUse = true) : ApprovedLast ops w venueId := by
  obtain ⟨row, hrow, hstatus⟩ := approved_of_summary h
  rw [w.venueId_of_venueAt hvenue] at hrow
  exact inv.approvedLast hrow hstatus

theorem liveEligible_of_detail
    (h : (w.detailOf P venue).current.sensitiveExecutionEligible = true) :
    LiveEligible P ops w now venueId := by
  obtain ⟨happroved, heligible⟩ := eligible_of_summary h
  exact ⟨approvedLast_of_detail inv hvenue happroved,
    liveSnapshot_of_ready hvenue ((eligibleForPromotion_iff P venue).1 heligible)⟩

end Promotion

section CarryVenues

variable (P : ReadinessPlatform) (clock : ℕ → Date) (w : PromotionWorld)

theorem run_listVenues (limit : ℕ) :
    (RuntimeStore.listVenues P limit).run (handlePromotion clock) w =
      (.ok ((RuntimeStore.mapVenueInventory (sortedSnapshots w.snapshots) (clock w.calls)
        limit).map fun venue => { venue with
          approvedForLiveUse := (w.detailOf P venue).current.approvedForLiveUse
          promotion := (w.detailOf P venue).current }), w.tick 2) := by
  refine Prod.ext (congrArg Except.ok (List.map_congr_left fun venue hvenue => ?_)) rfl
  have hfind := find_filter_venueIds (List.mem_map_of_mem
    (f := fun venue : VenueInventoryCore => venue.venueId) hvenue) (sortedPromotions w.promotions)
  rw [PromotionWorld.detailOf, PromotionWorld.latest, ← hfind]
  rfl

theorem run_collectCarryVenueViews (adapters : List CarryVenueCapabilities) :
    (collectCarryVenueViewsFrom P adapters).run (handlePromotion clock) w =
      (.ok (adapters.map fun capabilities => carryVenueView capabilities
        ((w.venueAt (clock w.calls) capabilities.venueId).map fun venue =>
          (w.detailOf P venue).current)), w.tick 2) := by
  rw [collectCarryVenueViewsFrom, Task.run_bind, run_listVenues]
  refine Prod.ext (congrArg Except.ok (List.map_congr_left fun capabilities _ => ?_)) rfl
  rw [List.find?_map, Option.map_map]
  rfl

end CarryVenues

/-- After every run of operations from empty tables: a venue whose promotion is eligible for sensitive
execution was approved last, by an admin, and its newest snapshot stands for live use; and a carry
venue of the inventory is reported as approved only if it was approved last, and as eligible only if
it is. -/
theorem liveEligibility_after_runs (P : ReadinessPlatform) (clock : ℕ → Date)
    (ops : List PromotionOperation) :
    let w := runPromotions P clock ops {}
    let now := clock w.calls
    (∀ venueId detail, ((RuntimeStore.getConnectorPromotion P venueId).run
        (handlePromotion clock) w).1 = .ok (some detail) →
      detail.current.sensitiveExecutionEligible = true → LiveEligible P ops w now venueId) ∧
    ∀ adapters views, ((collectCarryVenueViewsFrom P adapters).run (handlePromotion clock) w).1 =
        .ok views → ∀ view ∈ views, (w.venueAt now view.venueId).isSome = true →
      (view.approvedForLiveUse = true → ApprovedLast ops w view.venueId) ∧
      (view.sensitiveExecutionEligible = true → LiveEligible P ops w now view.venueId) := by
  intro w now
  have inv : PromotionInv ops w := PromotionInv.run P clock (fun _ hop => hop) PromotionInv.nil
  refine ⟨fun venueId detail hrun heligible => ?_, fun adapters views hrun view hview hsome => ?_⟩
  · rw [run_getConnectorPromotion] at hrun
    cases hvenue : w.venueAt now venueId with
    | none =>
      rw [hvenue] at hrun
      cases hrun
    | some venue =>
      rw [hvenue] at hrun
      obtain rfl := Option.some.inj (Except.ok.inj hrun)
      exact liveEligible_of_detail inv hvenue heligible
  · rw [run_collectCarryVenueViews] at hrun
    obtain rfl := Except.ok.inj hrun
    obtain ⟨capabilities, -, rfl⟩ := List.mem_map.1 hview
    have hvenueId : (carryVenueView capabilities ((w.venueAt now capabilities.venueId).map
        fun venue => (w.detailOf P venue).current)).venueId = capabilities.venueId := rfl
    rw [hvenueId] at hsome ⊢
    obtain ⟨venue, hvenue⟩ := Option.isSome_iff_exists.1 hsome
    rw [hvenue]
    exact ⟨approvedLast_of_detail inv hvenue, liveEligible_of_detail inv hvenue⟩

def plainPlatform : ReadinessPlatform where
  toLowerCase := id
  localeLe _ _ := true

/-- A snapshot of the venue `"drift"` that stands for live use when it is captured. -/
def sampleSnapshot (capturedAt : Date) (snapshotSuccessful : Bool)
    (missingPrerequisites : List String) : VenueConnectorSnapshotRow where
  venueId := "drift"
  venueName := "Drift"
  connectorType := "drift_native"
  sleeveApplicability := ["carry"]
  truthMode := .real
  readOnlySupport := true
  executionSupport := true
  missingPrerequisites
  healthy := true
  healthState := .healthy
  degradedReason := none
  snapshotSuccessful
  snapshotCompleteness := .complete
  truthCoverage := []
  executionConfirmationState := none
  metadata := []
  capturedAt

def sampleOperations (snapshots : List VenueConnectorSnapshotRow) : List PromotionOperation :=
  [.persist snapshots, .request "drift" "operator-1" .operator none,
    .approve "drift" "admin-1" .admin none]

/-- A venue of the inventory with an eligible promotion is answered with it. -/
theorem exists_eligible_detail {P : ReadinessPlatform} (clock : ℕ → Date) {w : PromotionWorld}
    {venueId : String} (h : (w.venueAt (clock w.calls) venueId).any (fun venue =>
      (w.detailOf P venue).current.sensitiveExecutionEligible) = true) :
    ∃ detail, ((RuntimeStore.getConnectorPromotion P venueId).run (handlePromotion clock) w).1 =
      .ok (some detail) ∧ detail.current.sensitiveExecutionEligible = true := by
  rw [run_getConnectorPromotion]
  cases hvenue : w.venueAt (clock w.calls) venueId with
  | none =>
    rw [hvenue] at h
    cases h
  | some venue =>
    rw [hvenue] at h
    exact ⟨w.detailOf P venue, rfl, h⟩

theorem liveEligibility_sample :
    let ops := sampleOperations [sampleSnapshot 0 true []]
    LiveEligible plainPlatform ops (runPromotions plainPlatform (fun _ => 0) ops {}) 0 "drift" := by
  intro ops
  have heligible : ((runPromotions plainPlatform (fun _ => 0) ops {}).venueAt 0 "drift").any
      (fun venue => ((runPromotions plainPlatform (fun _ => 0) ops {}).detailOf plainPlatform
        venue).current.sensitiveExecutionEligible) = true := by decide +kernel
  obtain ⟨detail, hdetail, hdetail'⟩ := exists_eligible_detail (fun _ => 0) heligible
  exact (liveEligibility_after_runs plainPlatform (fun _ => 0) ops).1 "drift" detail hdetail hdetail'

/-- The latest decision is an admin's approval, and the newest snapshot is a successful one that
stands for live use and misses no prerequisite. -/
def StrictlyLive (P : ReadinessPlatform) (ops : List PromotionOperation) (w : PromotionWorld)
    (now : Date) (venueId : String) : Prop :=
  ApprovedLast ops w venueId ∧ ∃ snapshot, snapshot.venueId = venueId ∧
    LiveSnapshot P w now snapshot ∧ snapshot.snapshotSuccessful = true ∧
    snapshot.missingPrerequisites = []

/-- The snapshot of an approved venue gets stale, and a venue stays eligible with a newest snapshot
that was not successful, if an earlier one was, and with a blank prerequisite. -/
theorem approval_outlives_snapshot :
    (¬ ∀ clock ops adapters views,
      let w := runPromotions plainPlatform clock ops {}
      ((collectCarryVenueViewsFrom plainPlatform adapters).run (handlePromotion clock) w).1 =
          .ok views → ∀ view ∈ views, (w.venueAt (clock w.calls) view.venueId).isSome = true →
        view.approvedForLiveUse = true →
          StrictlyLive plainPlatform ops w (clock w.calls) view.venueId) ∧
    ¬ ∀ clock ops venueId detail,
      let w := runPromotions plainPlatform clock ops {}
      ((RuntimeStore.getConnectorPromotion plainPlatform venueId).run (handlePromotion clock) w).1 =
          .ok (some detail) → detail.current.sensitiveExecutionEligible = true →
        StrictlyLive plainPlatform ops w (clock w.calls) venueId := by
  constructor
  · intro h
    let ops := sampleOperations [sampleSnapshot 0 true []]
    let clock : ℕ → Date := fun n => if n < 22 then 0 else venueSnapshotStaleAfterMs + 1
    let w := runPromotions plainPlatform clock ops {}
    let views := [CarryVenueCapabilities.unimplemented "drift"].map fun capabilities =>
      carryVenueView capabilities ((w.venueAt (clock w.calls) capabilities.venueId).map fun venue =>
        (w.detailOf plainPlatform venue).current)
    have hrun := congrArg Prod.fst (run_collectCarryVenueViews plainPlatform clock w
      [CarryVenueCapabilities.unimplemented "drift"])
    have hview := h clock ops _ views hrun _ List.mem_cons_self (by decide +kernel)
      (by decide +kernel)
    obtain ⟨-, snapshot, -, hlive, -⟩ := hview
    have hstale : (w.snapshots.all fun snapshot =>
        decide (venueSnapshotStaleAfterMs < clock w.calls - snapshot.capturedAt)) = true := by
      decide +kernel
    have hsnapshot := List.all_eq_true.1 hstale snapshot hlive.persisted
    exact absurd hlive.fresh (not_le.2 (of_decide_eq_true hsnapshot))
  · intro h
    let ops := sampleOperations [sampleSnapshot (-1) true [], sampleSnapshot 0 false [" "]]
    let w := runPromotions plainPlatform (fun _ => 0) ops {}
    have heligible : (w.venueAt 0 "drift").any (fun venue =>
        (w.detailOf plainPlatform venue).current.sensitiveExecutionEligible) = true := by
      decide +kernel
    obtain ⟨detail, hdetail, hdetail'⟩ := exists_eligible_detail (fun _ => 0) heligible
    obtain ⟨-, snapshot, hid, hlive, hsuccessful, -⟩ :=
      h (fun _ => 0) ops "drift" detail hdetail hdetail'
    -- Every successful snapshot is older than another one.
    have hall : (w.snapshots.all fun snapshot => !snapshot.snapshotSuccessful ||
        w.snapshots.any fun other => decide (other.venueId = "drift") &&
          decide (snapshot.capturedAt < other.capturedAt)) = true := by decide +kernel
    have hsnapshot := List.all_eq_true.1 hall snapshot hlive.persisted
    rw [hsuccessful, Bool.not_true, Bool.false_or] at hsnapshot
    obtain ⟨other, hother, hnewer⟩ := List.any_eq_true.1 hsnapshot
    rw [Bool.and_eq_true, decide_eq_true_eq, decide_eq_true_eq] at hnewer
    exact absurd (hlive.newest other hother (hnewer.1.trans hid.symm)) (not_le.2 hnewer.2)

end SentinelApex
