import SentinelApex.Runtime.ConnectorPromotions

/-!
# Live eligibility after a run

Operators and admins change promotions one after the other, and snapshots of the venues are persisted
in between.

The latest row of a venue is the one that a decision changes, and its place depends on the clock. What
carries the run is that a row which is still open is the newest of its venue or older than a closed one:
so an approved row is only ever the newest if the last decision was an approval.
-/

namespace SentinelApex

open Async

/-! ## What the reads answer -/

variable {venueId : String}

namespace PromotionWorld

variable (w : PromotionWorld) (P : ReadinessPlatform)

/-- The world after `n` calls that change nothing. -/
def tick (n : ℕ) : PromotionWorld := { w with calls := w.calls + n }

def venueAt (now : Date) (venueId : String) : Option VenueInventoryCore :=
  (RuntimeStore.mapVenueInventory (sortedSnapshots w.snapshots) now 500).find? fun venue =>
    decide (venue.venueId = venueId)

def latest (venueId : String) : Option ConnectorPromotionRow :=
  Rows.find ConnectorPromotionRow.venueId venueId (sortedPromotions w.promotions)

def history (venueId : String) : List ConnectorPromotionEvent :=
  (w.events.filter fun event => decide (event.venueId = venueId)).insertionSort
    fun first second => second.occurredAt ≤ first.occurredAt

def detailOf (venue : VenueInventoryCore) : ConnectorPromotionDetail :=
  let evidence := buildConnectorReadinessEvidence P venue
  { venueId := venue.venueId
    venueName := venue.venueName
    connectorType := venue.connectorType
    sleeveApplicability := venue.sleeveApplicability
    current := promotionSummary (w.latest venue.venueId) evidence
    evidence
    history := w.history venue.venueId }

theorem venueId_of_venueAt {now : Date} {venue : VenueInventoryCore}
    (h : w.venueAt now venueId = some venue) : venue.venueId = venueId := by
  have hid := List.find?_some h
  exact of_decide_eq_true hid

end PromotionWorld

section Reads

variable (P : ReadinessPlatform) (clock : ℕ → Date) (w : PromotionWorld)

theorem run_findVenue (venueId : String) :
    (RuntimeStore.findVenue venueId).run (handlePromotion clock) w =
      (.ok (w.venueAt (clock w.calls) venueId), w.tick 1) := rfl

theorem find_filter_venueIds {venueIds : List String} (h : venueId ∈ venueIds)
    (rows : List ConnectorPromotionRow) :
    Rows.find ConnectorPromotionRow.venueId venueId
        (rows.filter fun row => decide (row.venueId ∈ venueIds)) =
      Rows.find ConnectorPromotionRow.venueId venueId rows := by
  rw [Rows.find, List.find?_filter, Rows.find]
  congr 1
  funext row
  by_cases hrow : row.venueId = venueId
  · simp [hrow, h]
  · simp [hrow]

theorem run_getLatestVenuePromotionRow (venueId : String) :
    (RuntimeStore.getLatestVenuePromotionRow venueId).run (handlePromotion clock) w =
      (.ok (w.latest venueId), w.tick 1) := by
  have hfind := find_filter_venueIds (List.mem_singleton.2 rfl : venueId ∈ [venueId])
    (sortedPromotions w.promotions)
  exact congrArg (fun row => (Except.ok row, w.tick 1)) hfind

theorem run_buildConnectorPromotionDetailForVenue (venue : VenueInventoryCore) :
    (RuntimeStore.buildConnectorPromotionDetailForVenue P venue).run (handlePromotion clock) w =
      (.ok (w.detailOf P venue), w.tick 2) := by
  have hfind := find_filter_venueIds (List.mem_singleton.2 rfl : venue.venueId ∈ [venue.venueId])
    (sortedPromotions w.promotions)
  unfold PromotionWorld.detailOf PromotionWorld.latest
  rw [← hfind]
  rfl

theorem run_getConnectorPromotion (venueId : String) :
    (RuntimeStore.getConnectorPromotion P venueId).run (handlePromotion clock) w =
      match w.venueAt (clock w.calls) venueId with
      | none => (.ok none, w.tick 1)
      | some venue => (.ok (some (w.detailOf P venue)), w.tick 3) := by
  rw [RuntimeStore.getConnectorPromotion, Task.run_bind, run_findVenue]
  cases w.venueAt (clock w.calls) venueId with
  | none => rfl
  | some venue =>
    show ((RuntimeStore.buildConnectorPromotionDetailForVenue P venue >>= fun detail =>
      pure (some detail)).run _ _) = _
    rw [Task.run_bind, run_buildConnectorPromotionDetailForVenue]
    rfl

end Reads

/-! ## What the operations change -/

inductive PromotionOperation where
  | request (venueId actorId : String) (actorRole : OperatorRole) (note : Option String)
  | approve (venueId actorId : String) (actorRole : OperatorRole) (note : Option String)
  | reject (venueId actorId : String) (actorRole : OperatorRole) (note : String)
  | suspend (venueId actorId : String) (actorRole : OperatorRole) (note : String)
  | persist (snapshots : List VenueConnectorSnapshotRow)

def PromotionOperation.task (P : ReadinessPlatform) : PromotionOperation → PromotionTask Unit
  | request venueId actorId actorRole note => do
    let _ ← RuntimeControlPlane.requestConnectorPromotion P venueId actorId actorRole note
  | approve venueId actorId actorRole note => do
    let _ ← RuntimeControlPlane.approveConnectorPromotion P venueId actorId actorRole note
  | reject venueId actorId actorRole note => do
    let _ ← RuntimeControlPlane.rejectConnectorPromotion P venueId actorId actorRole note
  | suspend venueId actorId actorRole note => do
    let _ ← RuntimeControlPlane.suspendConnectorPromotion P venueId actorId actorRole note
  | persist snapshots => refreshVenueTruth snapshots

/-- The decision that an operation makes, with the venue, the actor and the actor's role. -/
def PromotionOperation.decision :
    PromotionOperation → Option (PromotionDecision × String × String × OperatorRole)
  | request .. => none
  | approve venueId actorId actorRole _ => some (.approve, venueId, actorId, actorRole)
  | reject venueId actorId actorRole _ => some (.reject, venueId, actorId, actorRole)
  | suspend venueId actorId actorRole _ => some (.suspend, venueId, actorId, actorRole)
  | persist _ => none

/-- A promotion that no decision can change any more. -/
def PromotionStatus.Closed (status : PromotionStatus) : Prop :=
  status ≠ .pendingReview ∧ status ≠ .approved

inductive PromotionOperation.Effect (w w' : PromotionWorld) : PromotionOperation → Prop
  | unchanged (op : PromotionOperation) (promotions : w'.promotions = w.promotions)
      (events : w'.events = w.events) : Effect w w' op
  | requested (venueId actorId : String) (actorRole : OperatorRole) (note : Option String)
      (now : Date) (event : ConnectorPromotionEvent)
      (closed : ∀ row, w.latest venueId = some row → row.promotionStatus.Closed)
      (promotions : w'.promotions = w.promotions ++
        [ConnectorPromotionRow.requested w.promotions.length venueId actorId note now])
      (events : w'.events = w.events ++ [event]) (venue : event.venueId = venueId) :
      Effect w w' (.request venueId actorId actorRole note)
  | decided (op : PromotionOperation) (decision : PromotionDecision) (venueId actorId : String)
      (made : op.decision = some (decision, venueId, actorId, .admin)) (note : Option String)
      (now : Date) (row : ConnectorPromotionRow) (event : ConnectorPromotionEvent)
      (latest : w.latest venueId = some row)
      (status : row.promotionStatus = decision.requiredStatus)
      (promotions : w'.promotions = Rows.update ConnectorPromotionRow.id row.id
        (fun row => decision.patch actorId note now row) w.promotions)
      (events : w'.events = w.events ++ [event]) (venue : event.venueId = venueId)
      (type : event.eventType = decision.eventType) (actor : event.actorId = actorId) :
      Effect w w' op

variable {decision : PromotionDecision} {op : PromotionOperation}

section Effects

variable (P : ReadinessPlatform) (clock : ℕ → Date) (w : PromotionWorld)

theorem rows_run_getConnectorPromotion (venueId : String) :
    ∃ r n, (RuntimeStore.getConnectorPromotion P venueId).run (handlePromotion clock) w =
      (r, w.tick n) := by
  rw [run_getConnectorPromotion]
  cases w.venueAt (clock w.calls) venueId with
  | none | some venue => exact ⟨_, _, rfl⟩

/-- The promotion that is decided on is the one that the venue has. -/
theorem run_promotionToDecide (decision : PromotionDecision) (venueId : String)
    (actorRole : OperatorRole) :
    ∃ r n, (RuntimeControlPlane.promotionToDecide P decision venueId actorRole).run
        (handlePromotion clock) w = (r, w.tick n) ∧
      ∀ detail, r = .ok (some detail) → actorRole = .admin ∧
        ∃ venue, w.venueAt (clock w.calls) venueId = some venue ∧ detail = w.detailOf P venue ∧
          detail.current.promotionStatus = decision.requiredStatus := by
  unfold RuntimeControlPlane.promotionToDecide
  by_cases hrole : canSatisfyApprovalRequirement actorRole .admin = true
  · have hadmin : actorRole = .admin := of_decide_eq_true hrole
    rw [if_neg (by simp [hrole]), Task.run_bind, run_getConnectorPromotion]
    cases hvenue : w.venueAt (clock w.calls) venueId with
    | none => exact ⟨.ok none, 1, rfl, by simp⟩
    | some venue =>
      by_cases hstatus : (w.detailOf P venue).current.promotionStatus = decision.requiredStatus
      · refine ⟨.ok (some (w.detailOf P venue)), 3, ?_, ?_⟩
        · show (ite _ _ _ : PromotionTask _).run _ _ = _
          rw [if_neg (not_not.2 hstatus)]
          rfl
        · rintro detail ⟨⟩
          exact ⟨hadmin, venue, rfl, rfl, hstatus⟩
      · refine ⟨.error (decision.statusError (w.detailOf P venue).current.promotionStatus), 3, ?_,
          by simp⟩
        show (ite _ _ _ : PromotionTask _).run _ _ = _
        rw [if_pos hstatus]
        rfl
  · rw [if_pos (by simp [hrole])]
    exact ⟨.error decision.accessError, 0, rfl, by simp⟩

theorem rows_run_auditPromotion (updated : Option ConnectorPromotionDetail)
    (eventType actorId : String) (data : List (String × Json)) :
    let w' := ((RuntimeControlPlane.auditPromotion updated eventType actorId data).run
      (handlePromotion clock) w).2
    w'.promotions = w.promotions ∧ w'.events = w.events := by
  cases updated with
  | none | some detail => exact ⟨rfl, rfl⟩

section

variable (decision : PromotionDecision) (venueId actorId : String) (note : Option String)

theorem run_recordDecision (venue : VenueInventoryCore) (current : ConnectorPromotionRow) :
    ∃ r n now event, (RuntimeStore.recordDecision P decision venueId actorId note venue current).run
        (handlePromotion clock) w = (r, { w with
          promotions := Rows.update ConnectorPromotionRow.id current.id
            (fun row => decision.patch actorId note now row) w.promotions
          events := w.events ++ [event]
          calls := n }) ∧
      event.venueId = venueId ∧ event.eventType = decision.eventType ∧ event.actorId = actorId := by
  obtain ⟨r, n, hread⟩ := rows_run_getConnectorPromotion P clock { w with
    promotions := Rows.update ConnectorPromotionRow.id current.id
      (fun row => decision.patch actorId note (clock w.calls) row) w.promotions
    events := w.events ++ [RuntimeStore.promotionEvent (buildConnectorReadinessEvidence P venue)
      current.id venueId decision.eventType (some current.promotionStatus) decision.toStatus actorId
      note (clock (w.calls + 1))]
    calls := w.calls + 1 + 1 } venueId
  exact ⟨r, _, _, _, hread, rfl, rfl, rfl⟩

/-- A decision of the store changes the latest row of the venue and appends its event. -/
theorem run_decideConnectorPromotion :
    ∃ r w', (RuntimeStore.decideConnectorPromotion P decision venueId actorId note).run
        (handlePromotion clock) w = (r, w') ∧
      (w'.promotions = w.promotions ∧ w'.events = w.events ∨
        ∃ row now event, w.latest venueId = some row ∧
          w'.promotions = Rows.update ConnectorPromotionRow.id row.id
            (fun row => decision.patch actorId note now row) w.promotions ∧
          w'.events = w.events ++ [event] ∧ event.venueId = venueId ∧
          event.eventType = decision.eventType ∧ event.actorId = actorId) := by
  unfold RuntimeStore.decideConnectorPromotion
  rw [Task.run_bind, run_findVenue]
  cases w.venueAt (clock w.calls) venueId with
  | none => exact ⟨_, _, rfl, Or.inl ⟨rfl, rfl⟩⟩
  | some venue =>
    simp only [Task.run_bind, run_getLatestVenuePromotionRow]
    cases hrow : (w.tick 1).latest venueId with
    | none => exact ⟨_, _, rfl, Or.inl ⟨rfl, rfl⟩⟩
    | some row =>
      obtain ⟨r, n, now, event, hrun, hvenue, htype, hactor⟩ :=
        run_recordDecision P clock ((w.tick 1).tick 1) decision venueId actorId note venue row
      exact ⟨_, _, hrun, Or.inr ⟨row, now, event, hrow, rfl, rfl, hvenue, htype, hactor⟩⟩

end

theorem run_requestConnectorPromotion (venueId actorId : String) (note : Option String) :
    ∃ r w', (RuntimeStore.requestConnectorPromotion P venueId actorId note).run
        (handlePromotion clock) w = (r, w') ∧
      (w'.promotions = w.promotions ∧ w'.events = w.events ∨
        ∃ now event, w'.promotions = w.promotions ++
            [ConnectorPromotionRow.requested w.promotions.length venueId actorId note now] ∧
          w'.events = w.events ++ [event] ∧ event.venueId = venueId) := by
  unfold RuntimeStore.requestConnectorPromotion
  rw [Task.run_bind, run_findVenue]
  cases hvenue : w.venueAt (clock w.calls) venueId with
  | none => exact ⟨_, _, rfl, Or.inl ⟨rfl, rfl⟩⟩
  | some venue =>
    obtain rfl := w.venueId_of_venueAt hvenue
    let row := ConnectorPromotionRow.requested w.promotions.length venue.venueId actorId note
      (clock (w.calls + 1))
    let event := RuntimeStore.promotionEvent (buildConnectorReadinessEvidence P venue) row.id
      row.venueId .requested none .pendingReview actorId note (clock (w.calls + 2))
    obtain ⟨r, n, hread⟩ := rows_run_getConnectorPromotion P clock { w with
      promotions := w.promotions ++ [row], events := w.events ++ [event], calls := w.calls + 3 }
      venue.venueId
    exact ⟨r, _, hread, Or.inr ⟨_, event, rfl, rfl, rfl⟩⟩

theorem run_discard (t : PromotionTask (Option ConnectorPromotionDetail)) :
    ((do let _ ← t : PromotionTask Unit).run (handlePromotion clock) w).2 =
      (t.run (handlePromotion clock) w).2 := by
  rw [Task.run_bind]
  cases (t.run (handlePromotion clock) w).1 with
  | ok a | error e => rfl

theorem rows_run_audited (t : PromotionTask (Option ConnectorPromotionDetail))
    (eventType actorId : String) (data : List (String × Json)) :
    let w' := ((t >>= fun updated => RuntimeControlPlane.auditPromotion updated eventType actorId
      data).run (handlePromotion clock) w).2
    w'.promotions = (t.run (handlePromotion clock) w).2.promotions ∧
      w'.events = (t.run (handlePromotion clock) w).2.events := by
  rw [Task.run_bind]
  cases (t.run (handlePromotion clock) w).1 with
  | ok updated => exact rows_run_auditPromotion clock _ updated eventType actorId data
  | error e => exact ⟨rfl, rfl⟩

theorem effect_of_decision {venueId actorId : String}
    (made : op.decision = some (decision, venueId, actorId, .admin)) {venue : VenueInventoryCore}
    (hid : venue.venueId = venueId)
    (hstatus : (w.detailOf P venue).current.promotionStatus = decision.requiredStatus)
    (note : Option String) (n : ℕ) (eventType : String) (data : List (String × Json)) :
    op.Effect w (((RuntimeStore.decideConnectorPromotion P decision venueId actorId note >>=
      fun updated => RuntimeControlPlane.auditPromotion updated eventType actorId data).run
        (handlePromotion clock) (w.tick n)).2) := by
  obtain ⟨hpromotions, hevents⟩ := rows_run_audited clock (w.tick n)
    (RuntimeStore.decideConnectorPromotion P decision venueId actorId note) eventType actorId data
  obtain ⟨r, w', hrun, ⟨hp, he⟩ | ⟨row, now, event, hrow, hp, he, hvenue, htype, hactor⟩⟩ :=
    run_decideConnectorPromotion P clock (w.tick n) decision venueId actorId note
  · rw [hrun] at hpromotions hevents
    exact .unchanged op (hpromotions.trans hp) (hevents.trans he)
  · rw [hrun] at hpromotions hevents
    have hlatest : w.latest venueId = some row := hrow
    have hcurrent : row.promotionStatus = decision.requiredStatus := by
      rw [← hstatus, PromotionWorld.detailOf, hid, hlatest]
      rfl
    exact .decided op decision venueId actorId made note now row event hlatest hcurrent
      (hpromotions.trans hp) (hevents.trans he) hvenue htype hactor

theorem effect_after_check {actorRole : OperatorRole}
    (f : Option ConnectorPromotionDetail → PromotionTask (Option ConnectorPromotionDetail))
    (hnone : f none = pure none) (hsome : actorRole = .admin → ∀ venue n, venue.venueId = venueId →
      (w.detailOf P venue).current.promotionStatus = decision.requiredStatus →
      op.Effect w (((f (some (w.detailOf P venue))).run (handlePromotion clock) (w.tick n)).2)) :
    op.Effect w ((((RuntimeControlPlane.promotionToDecide P decision venueId actorRole) >>= f).run
      (handlePromotion clock) w).2) := by
  obtain ⟨r, n, hrun, hdetail⟩ := run_promotionToDecide P clock w decision venueId actorRole
  rw [Task.run_bind, hrun]
  cases r with
  | error e => exact .unchanged op rfl rfl
  | ok found =>
    cases found with
    | none =>
      show op.Effect w ((f none).run (handlePromotion clock) (w.tick n)).2
      rw [hnone]
      exact .unchanged op rfl rfl
    | some detail =>
      obtain ⟨hadmin, venue, hvenue, rfl, hstatus⟩ := hdetail detail rfl
      exact hsome hadmin venue n (w.venueId_of_venueAt hvenue) hstatus

theorem effect_request (venueId actorId : String) (actorRole : OperatorRole)
    (note : Option String) :
    (PromotionOperation.request venueId actorId actorRole note).Effect w
      ((RuntimeControlPlane.requestConnectorPromotion P venueId actorId actorRole note).run
        (handlePromotion clock) w).2 := by
  unfold RuntimeControlPlane.requestConnectorPromotion
  split_ifs with hrole
  · exact .unchanged _ rfl rfl
  rw [Task.run_bind, run_getConnectorPromotion]
  cases hvenue : w.venueAt (clock w.calls) venueId with
  | none => exact .unchanged _ rfl rfl
  | some venue =>
    show PromotionOperation.Effect w (Task.run _ (ite _ _ _) _).2 _
    split_ifs with hclass hpending happroved
    · exact .unchanged _ rfl rfl
    · exact .unchanged _ rfl rfl
    · exact .unchanged _ rfl rfl
    obtain ⟨hpromotions, hevents⟩ := rows_run_audited clock (w.tick 3)
      (RuntimeStore.requestConnectorPromotion P venueId actorId note)
      "connector.promotion_requested" actorId
      [("venueId", .str venueId),
        ("capabilityClass", .str (w.detailOf P venue).evidence.capabilityClass.text),
        ("blockers", .arr ((w.detailOf P venue).evidence.blockingReasons.map .str)),
        ("note", RuntimeControlPlane.noteJson note)]
    obtain ⟨r, w', hrun, ⟨hp, he⟩ | ⟨now, event, hp, he, hid⟩⟩ :=
      run_requestConnectorPromotion P clock (w.tick 3) venueId actorId note
    · rw [hrun] at hpromotions hevents
      exact .unchanged _ (hpromotions.trans hp) (hevents.trans he)
    · rw [hrun] at hpromotions hevents
      refine .requested venueId actorId actorRole note now event ?_ (hpromotions.trans hp)
        (hevents.trans he) hid
      intro row hrow
      have hstatus : (w.detailOf P venue).current.promotionStatus = row.promotionStatus := by
        rw [PromotionWorld.detailOf, w.venueId_of_venueAt hvenue, hrow]
        rfl
      rw [hstatus] at hpending happroved
      exact ⟨hpending, happroved⟩

/-- Every operation leaves the rows, or changes them in one of two ways. -/
theorem effect_of_operation (op : PromotionOperation) :
    op.Effect w ((op.task P).run (handlePromotion clock) w).2 := by
  cases op with
  | request venueId actorId actorRole note =>
    rw [PromotionOperation.task, run_discard]
    exact effect_request P clock w venueId actorId actorRole note
  | approve venueId actorId actorRole note =>
    rw [PromotionOperation.task, run_discard, RuntimeControlPlane.approveConnectorPromotion]
    refine effect_after_check P clock w _ rfl ?_
    intro hadmin venue n hid hstatus
    subst hadmin
    show PromotionOperation.Effect w (Task.run _ (ite _ _ _) _).2 _
    split_ifs with heligible
    · exact .unchanged _ rfl rfl
    · exact effect_of_decision P clock w rfl hid hstatus note n _ _
  | reject venueId actorId actorRole note =>
    rw [PromotionOperation.task, run_discard, RuntimeControlPlane.rejectConnectorPromotion]
    refine effect_after_check P clock w _ rfl ?_
    intro hadmin venue n hid hstatus
    subst hadmin
    exact effect_of_decision P clock w rfl hid hstatus (some note) n _ _
  | suspend venueId actorId actorRole note =>
    rw [PromotionOperation.task, run_discard, RuntimeControlPlane.suspendConnectorPromotion]
    refine effect_after_check P clock w _ rfl ?_
    intro hadmin venue n hid hstatus
    subst hadmin
    exact effect_of_decision P clock w rfl hid hstatus (some note) n _ _
  | persist snapshots =>
    cases snapshots with
    | nil | cons snapshot snapshots => exact .unchanged _ rfl rfl

end Effects

/-! ## The newest row of a venue -/

variable {row : ConnectorPromotionRow}

namespace ConnectorPromotionRow

theorem newer_refl (row : ConnectorPromotionRow) : row.newer row := le_refl row.recency

variable {rows : List ConnectorPromotionRow} {first second : ConnectorPromotionRow}

theorem newer_trans {third : ConnectorPromotionRow} (h : first.newer second)
    (h' : second.newer third) : first.newer third := le_trans h' h

theorem newer_total (first second : ConnectorPromotionRow) :
    first.newer second ∨ second.newer first := le_total second.recency first.recency

theorem id_eq_of_newer (h : first.newer second) (h' : second.newer first) :
    first.id = second.id := by
  have hrecency : first.recency = second.recency := le_antisymm h' h
  exact congrArg (fun key => (ofLex (ofLex key).2).2) hrecency

instance : IsTrans ConnectorPromotionRow newer := ⟨fun _ _ _ => newer_trans⟩

instance : Std.Total newer := ⟨newer_total⟩

/-- The row comes before the others of its venue. -/
def Newest (rows : List ConnectorPromotionRow) (row : ConnectorPromotionRow) : Prop :=
  row ∈ rows ∧ ∀ other ∈ rows, other.venueId = row.venueId → row.newer other

theorem newest_of_find
    (h : Rows.find ConnectorPromotionRow.venueId venueId (sortedPromotions rows) = some row) :
    Newest rows row ∧ row.venueId = venueId := by
  have hvenue : row.venueId = venueId := Rows.key_of_find h
  have hmem : ∀ other, other ∈ sortedPromotions rows ↔ other ∈ rows := fun other =>
    List.mem_insertionSort _
  refine ⟨⟨(hmem row).1 (Rows.mem_of_find h), fun other hother hid => ?_⟩, hvenue⟩
  rcases Rows.le_of_find_pairwise (List.pairwise_insertionSort newer rows) h other
    ((hmem other).2 hother) (decide_eq_true (hid.trans hvenue)) with rfl | hnewer
  · exact newer_refl other
  · exact hnewer

theorem exists_newest (hrow : row ∈ rows) :
    ∃ newest, Newest rows newest ∧ newest.venueId = row.venueId := by
  cases h : Rows.find ConnectorPromotionRow.venueId row.venueId (sortedPromotions rows) with
  | some newest => exact ⟨newest, newest_of_find h⟩
  | none =>
    have hnone := List.find?_eq_none.1 h row ((List.mem_insertionSort _).2 hrow)
    simp at hnone

end ConnectorPromotionRow

/-! ## Open rows -/

open ConnectorPromotionRow (Newest)

/-- The ids count the rows, and a row that is not closed is the newest of its venue or older than a
closed one. -/
structure OpenRows (rows : List ConnectorPromotionRow) : Prop where
  ids : rows.map ConnectorPromotionRow.id = List.range rows.length
  newest : ∀ row ∈ rows, ¬ row.promotionStatus.Closed → Newest rows row ∨
    ∃ closed ∈ rows, closed.venueId = row.venueId ∧ closed.promotionStatus.Closed ∧
      ¬ row.newer closed

namespace OpenRows

variable {rows : List ConnectorPromotionRow}

theorem nil : OpenRows [] := ⟨rfl, by simp⟩

variable {other : ConnectorPromotionRow}

theorem eq_of_id (h : OpenRows rows) (hrow : row ∈ rows) (hother : other ∈ rows)
    (hid : row.id = other.id) : row = other := by
  have hnodup : (rows.map ConnectorPromotionRow.id).Nodup := h.ids ▸ List.nodup_range
  exact List.inj_on_of_nodup_map hnodup hrow hother hid

theorem eq_of_newest (h : OpenRows rows) (hrow : Newest rows row) (hother : Newest rows other)
    (hvenue : row.venueId = other.venueId) :
    row = other :=
  h.eq_of_id hrow.1 hother.1 (ConnectorPromotionRow.id_eq_of_newer
    (hrow.2 other hother.1 hvenue.symm) (hother.2 row hrow.1 hvenue))

theorem find_of_newest (h : OpenRows rows) (hrow : Newest rows row) :
    Rows.find ConnectorPromotionRow.venueId row.venueId (sortedPromotions rows) = some row := by
  cases hfind : Rows.find ConnectorPromotionRow.venueId row.venueId (sortedPromotions rows) with
  | some newest =>
    obtain ⟨hnewest, hvenue⟩ := ConnectorPromotionRow.newest_of_find hfind
    rw [h.eq_of_newest hnewest hrow hvenue]
  | none =>
    have hnone := List.find?_eq_none.1 hfind row ((List.mem_insertionSort _).2 hrow.1)
    simp at hnone

/-- A row is requested when the newest row of the venue is closed. -/
theorem append (h : OpenRows rows) (hid : row.id = rows.length)
    (hclosed : ∀ newest, Newest rows newest → newest.venueId = row.venueId →
      newest.promotionStatus.Closed) : OpenRows (rows ++ [row]) := by
  refine ⟨?_, fun other hother hopen => ?_⟩
  · rw [List.map_append, h.ids, List.length_append, List.length_singleton, List.range_succ, ← hid]
    rfl
  rcases List.mem_append.1 hother with hother | hother
  · rcases h.newest other hother hopen with hnewest | ⟨closed, hin, hvenue, hstatus, hnewer⟩
    · by_cases hvenue : other.venueId = row.venueId
      · exact absurd (hclosed other hnewest hvenue) hopen
      · refine Or.inl ⟨List.mem_append_left _ hother, fun third hthird hid' => ?_⟩
        rcases List.mem_append.1 hthird with hthird | hthird
        · exact hnewest.2 third hthird hid'
        · obtain rfl := List.mem_singleton.1 hthird
          exact absurd hid'.symm hvenue
    · exact Or.inr ⟨closed, List.mem_append_left _ hin, hvenue, hstatus, hnewer⟩
  · obtain rfl := List.mem_singleton.1 hother
    by_cases hnewest : ∀ third ∈ rows, third.venueId = other.venueId → other.newer third
    · refine Or.inl ⟨List.mem_append_right _ hother, fun third hthird hvenue => ?_⟩
      rcases List.mem_append.1 hthird with hthird | hthird
      · exact hnewest third hthird hvenue
      · obtain rfl := List.mem_singleton.1 hthird
        exact third.newer_refl
    · -- The newest of the old rows is closed, and newer than the requested one.
      push Not at hnewest
      obtain ⟨third, hthird, hvenue, hnewer⟩ := hnewest
      obtain ⟨newest, hnewest, hvenue'⟩ := ConnectorPromotionRow.exists_newest hthird
      refine Or.inr ⟨newest, List.mem_append_left _ hnewest.1, hvenue'.trans hvenue,
        hclosed newest hnewest (hvenue'.trans hvenue), fun hother' => hnewer ?_⟩
      exact ConnectorPromotionRow.newer_trans hother' (hnewest.2 third hthird hvenue'.symm)

section Update

variable {row : ConnectorPromotionRow} {f : ConnectorPromotionRow → ConnectorPromotionRow}

theorem mem_update (h : OpenRows rows) (hrow : row ∈ rows) {other : ConnectorPromotionRow} :
    other ∈ Rows.update ConnectorPromotionRow.id row.id f rows ↔
      other = f row ∨ other ∈ rows ∧ other ≠ row := by
  rw [Rows.mem_update]
  constructor
  · rintro ⟨old, hold, rfl⟩
    split_ifs with hid
    · rw [h.eq_of_id hold hrow hid]
      exact Or.inl rfl
    · refine Or.inr ⟨hold, ?_⟩
      rintro rfl
      exact hid rfl
  · rintro (rfl | ⟨hother, hne⟩)
    · exact ⟨row, hrow, if_pos rfl⟩
    · exact ⟨other, hother, if_neg fun hid => hne (h.eq_of_id hother hrow hid)⟩

/-- When the newest row of a venue changes, any other row that is then the newest is closed. -/
theorem closed_of_newest_update (h : OpenRows rows) (hrow : Newest rows row)
    (hopen : ¬ row.promotionStatus.Closed) (hvenue : (f row).venueId = row.venueId)
    {newest : ConnectorPromotionRow}
    (hnewest : Newest (Rows.update ConnectorPromotionRow.id row.id f rows) newest)
    (hne : newest ≠ f row) (hid : newest.venueId = row.venueId) :
    newest.promotionStatus.Closed := by
  by_contra hnot
  have hin : newest ∈ rows ∧ newest ≠ row :=
    ((h.mem_update hrow.1).1 hnewest.1).resolve_left hne
  rcases h.newest newest hin.1 hnot with hold | ⟨closed, hclosed, hvenue', hstatus, hnewer⟩
  · exact hin.2 (h.eq_of_newest hold hrow hid)
  · -- The closed row is still there.
    have hne' : closed ≠ row := by
      rintro rfl
      exact hopen hstatus
    exact hnewer (hnewest.2 closed ((h.mem_update hrow.1).2 (Or.inr ⟨hclosed, hne'⟩)) hvenue')

theorem update (h : OpenRows rows) (hrow : Newest rows row)
    (hopen : ¬ row.promotionStatus.Closed) (hid : ∀ row, (f row).id = row.id)
    (hvenue : (f row).venueId = row.venueId) :
    OpenRows (Rows.update ConnectorPromotionRow.id row.id f rows) := by
  refine ⟨?_, fun other hother hother' => ?_⟩
  · rw [Rows.update, List.length_map, List.map_map, ← h.ids]
    apply List.map_congr_left
    intro other _
    show (if other.id = row.id then f other else other).id = other.id
    split_ifs
    · exact hid other
    · rfl
  by_cases hself : other = f row
  · obtain ⟨newest, hnewest, hvenue'⟩ := ConnectorPromotionRow.exists_newest hother
    by_cases heq : newest = other
    · exact Or.inl (heq ▸ hnewest)
    · subst hself
      refine Or.inr ⟨newest, hnewest.1, hvenue', ?_, fun hnewer => ?_⟩
      · exact h.closed_of_newest_update hrow hopen hvenue hnewest heq (hvenue'.trans hvenue)
      · -- Rows that are both the newest have the same id.
        have hsame := ConnectorPromotionRow.id_eq_of_newer hnewer
          (hnewest.2 (f row) hother hvenue'.symm)
        obtain ⟨hin, hne⟩ := ((h.mem_update hrow.1).1 hnewest.1).resolve_left heq
        exact hne (h.eq_of_id hin hrow.1 (hsame.symm.trans (hid row)))
  · obtain ⟨hin, hne⟩ := ((h.mem_update hrow.1).1 hother).resolve_left hself
    rcases h.newest other hin hother' with hnewest | ⟨closed, hclosed, hvenue', hstatus, hnewer⟩
    · refine Or.inl ⟨hother, fun third hthird hid' => ?_⟩
      rcases (h.mem_update hrow.1).1 hthird with rfl | ⟨hthird, -⟩
      · exact absurd (h.eq_of_newest hnewest hrow (hid'.symm.trans hvenue)) hne
      · exact hnewest.2 third hthird hid'
    · have hne' : closed ≠ row := by
        rintro rfl
        exact hopen hstatus
      exact Or.inr ⟨closed, (h.mem_update hrow.1).2 (Or.inr ⟨hclosed, hne'⟩), hvenue', hstatus,
        hnewer⟩

end Update

end OpenRows

/-! ## Runs -/

def runPromotions (P : ReadinessPlatform) (clock : ℕ → Date) :
    List PromotionOperation → PromotionWorld → PromotionWorld
  | [], w => w
  | op :: ops, w => runPromotions P clock ops ((op.task P).run (handlePromotion clock) w).2

def PromotionWorld.lastEvent (w : PromotionWorld) (venueId : String) :
    Option ConnectorPromotionEvent :=
  (w.events.filter fun event => decide (event.venueId = venueId)).getLast?

/-- The last decision about the venue is the approval of an admin, given by one of the
operations. -/
def ApprovedLast (ops : List PromotionOperation) (w : PromotionWorld) (venueId : String) : Prop :=
  ∃ event, w.lastEvent venueId = some event ∧ event.eventType = .approved ∧
    ∃ op ∈ ops, op.decision = some (.approve, venueId, event.actorId, .admin)

structure PromotionInv (ops : List PromotionOperation) (w : PromotionWorld) : Prop where
  rows : OpenRows w.promotions
  approved : ∀ row, Newest w.promotions row → row.promotionStatus = .approved →
    ApprovedLast ops w row.venueId

variable {event : ConnectorPromotionEvent}

section Steps

variable {ops : List PromotionOperation} {w w' : PromotionWorld}

theorem PromotionInv.nil : PromotionInv ops {} :=
  ⟨OpenRows.nil, fun _ hrow => absurd hrow.1 List.not_mem_nil⟩

theorem lastEvent_append (h : w'.events = w.events ++ [event]) :
    w'.lastEvent event.venueId = some event := by
  rw [PromotionWorld.lastEvent, h, List.filter_append]
  simp

theorem lastEvent_append_of_ne (h : w'.events = w.events ++ [event]) (hne : event.venueId ≠ venueId) :
    w'.lastEvent venueId = w.lastEvent venueId := by
  rw [PromotionWorld.lastEvent, h, List.filter_append, PromotionWorld.lastEvent]
  simp [hne]

section

variable (decision : PromotionDecision) (actorId : String) (note : Option String) (now : Date)
  (row : ConnectorPromotionRow)

theorem patch_id :
    (decision.patch actorId note now row).id = row.id := by
  cases decision <;> rfl

theorem patch_venueId :
    (decision.patch actorId note now row).venueId = row.venueId := by
  cases decision <;> rfl

theorem patch_promotionStatus :
    (decision.patch actorId note now row).promotionStatus = decision.toStatus := by
  cases decision <;> rfl

end

theorem not_closed_of_required {status : PromotionStatus} (h : status = decision.requiredStatus) :
    ¬ status.Closed := by
  subst h
  cases decision with
  | approve | reject => exact fun h => h.1 rfl
  | suspend => exact fun h => h.2 rfl

theorem ApprovedLast.append (h : ApprovedLast ops w venueId)
    (hevents : w'.events = w.events ++ [event]) (hne : event.venueId ≠ venueId) :
    ApprovedLast ops w' venueId := by
  obtain ⟨last, hlast, hrest⟩ := h
  exact ⟨last, (lastEvent_append_of_ne hevents hne).trans hlast, hrest⟩

theorem PromotionInv.step (inv : PromotionInv ops w) (hop : op ∈ ops) (h : op.Effect w w') :
    PromotionInv ops w' := by
  cases h with
  | unchanged _ hpromotions hevents =>
    refine ⟨hpromotions ▸ inv.rows, fun row hrow happroved => ?_⟩
    rw [hpromotions] at hrow
    obtain ⟨event, hlast, hrest⟩ := inv.approved row hrow happroved
    refine ⟨event, ?_, hrest⟩
    rw [← hlast, PromotionWorld.lastEvent, hevents]
    rfl
  | requested venueId actorId actorRole note now event hclosed hpromotions hevents hvenue =>
    have hclosed' : ∀ newest, Newest w.promotions newest → newest.venueId = venueId →
        newest.promotionStatus.Closed := by
      intro newest hnewest hid
      exact hclosed newest (hid ▸ inv.rows.find_of_newest hnewest)
    refine ⟨?_, fun row hrow happroved => ?_⟩
    · rw [hpromotions]
      exact inv.rows.append rfl hclosed'
    rw [hpromotions] at hrow
    rcases List.mem_append.1 hrow.1 with hin | hin
    · have hold : Newest w.promotions row :=
        ⟨hin, fun other hother => hrow.2 other (List.mem_append_left _ hother)⟩
      by_cases hid : row.venueId = venueId
      · exact absurd happroved (hclosed' row hold hid).2
      · exact (inv.approved row hold happroved).append hevents fun h =>
          hid (h.symm.trans hvenue)
    · rw [List.mem_singleton.1 hin] at happroved
      cases happroved
  | decided _ decision venueId actorId hmade note now row event hlatest hstatus hpromotions hevents
      hvenue htype hactor =>
    obtain ⟨hnewest, hid⟩ := ConnectorPromotionRow.newest_of_find hlatest
    have hopen := not_closed_of_required hstatus
    refine ⟨?_, fun other hother happroved => ?_⟩
    · rw [hpromotions]
      exact inv.rows.update hnewest hopen (patch_id decision actorId note now)
        (patch_venueId decision actorId note now row)
    rw [hpromotions] at hother
    by_cases hself : other = decision.patch actorId note now row
    · rw [hself, patch_promotionStatus] at happroved
      have happrove : decision = .approve := by
        cases decision with
        | approve => rfl
        | _ => cases happroved
      subst happrove
      rw [hself, patch_venueId, hid, ← hvenue]
      exact ⟨event, lastEvent_append hevents, htype, op, hop, by rw [hmade, hvenue, hactor]⟩
    · by_cases hsame : other.venueId = row.venueId
      · exact absurd happroved (inv.rows.closed_of_newest_update hnewest hopen
          (patch_venueId decision actorId note now row) hother hself hsame).2
      · have hmem (third : ConnectorPromotionRow) := @OpenRows.mem_update w.promotions row
          (fun row => decision.patch actorId note now row) inv.rows hnewest.1 third
        have hold : Newest w.promotions other := by
          refine ⟨(((hmem other).1 hother.1).resolve_left hself).1, fun third hthird hthird' => ?_⟩
          refine hother.2 third ((hmem third).2 (Or.inr ⟨hthird, ?_⟩)) hthird'
          rintro rfl
          exact hsame hthird'.symm
        exact (inv.approved other hold happroved).append hevents fun h =>
          hsame (h.symm.trans (hvenue.trans hid.symm))

theorem PromotionInv.run (P : ReadinessPlatform) (clock : ℕ → Date)
    {performed : List PromotionOperation} (hperformed : ∀ op ∈ performed, op ∈ ops)
    (inv : PromotionInv ops w) : PromotionInv ops (runPromotions P clock performed w) := by
  induction performed generalizing w with
  | nil => exact inv
  | cons op performed ih =>
    have hstep := inv.step (hperformed op List.mem_cons_self) (effect_of_operation P clock w op)
    exact ih (fun op hop => hperformed op (List.mem_cons_of_mem _ hop)) hstep

theorem PromotionInv.approvedLast (inv : PromotionInv ops w) (h : w.latest venueId = some row)
    (hstatus : row.promotionStatus = .approved) : ApprovedLast ops w venueId := by
  obtain ⟨hnewest, hid⟩ := ConnectorPromotionRow.newest_of_find h
  exact hid ▸ inv.approved row hnewest hstatus

end Steps

end SentinelApex
