import SentinelApex.Lib.TaskContract
import SentinelApex.Runtime.LiveEligibility

/-!
# Decisions on promotions that interleave

Any number of decisions on promotions run at the same time. The update of a decision does not look
at the status that its call has checked, so an approval and a rejection that have both read
`pending_review` both succeed, and the events may be appended in another order than the updates
(`decisions_overlap`).

As long as every update finds the status that the decision requires, and the decisions before it in
the log, decisions that are legal in the same status exclude each other, and a promotion has the
status of its last event (`decisions_exclusive`).
-/

namespace SentinelApex

open Async

/-! ## Decision calls -/

/-- A decision of an admin in the control plane. -/
inductive DecisionCall where
  | approve (venueId actorId : String) (actorRole : OperatorRole) (note : Option String)
  | reject (venueId actorId : String) (actorRole : OperatorRole) (note : String)
  | suspend (venueId actorId : String) (actorRole : OperatorRole) (note : String)

namespace DecisionCall

def task (P : ReadinessPlatform) : DecisionCall → PromotionTask (Option ConnectorPromotionDetail)
  | approve venueId actorId actorRole note =>
    RuntimeControlPlane.approveConnectorPromotion P venueId actorId actorRole note
  | reject venueId actorId actorRole note =>
    RuntimeControlPlane.rejectConnectorPromotion P venueId actorId actorRole note
  | suspend venueId actorId actorRole note =>
    RuntimeControlPlane.suspendConnectorPromotion P venueId actorId actorRole note

def decision : DecisionCall → PromotionDecision
  | approve .. => .approve
  | reject .. => .reject
  | suspend .. => .suspend

end DecisionCall

def Succeeded (t : PromotionTask (Option ConnectorPromotionDetail)) : Prop :=
  ∃ detail, t.result? = some (.ok (some detail))

abbrev PromotionPoolEvent := Event PromotionCall PromotionCall.Reply String PromotionWorld

def PromotionCall.Decides (c : PromotionCall) (promotionId : ℕ) : Prop :=
  ∃ decision actorId note, c = .updatePromotion promotionId decision actorId note

namespace PromotionWorld

variable (w : PromotionWorld)

def findPromotion (id : ℕ) : Option ConnectorPromotionRow :=
  Rows.find ConnectorPromotionRow.id id w.promotions

def lastEventOf (id : ℕ) : Option ConnectorPromotionEvent :=
  (w.events.filter fun event => decide (event.promotionId = id)).getLast?

def Logged (id : ℕ) (status : PromotionStatus) : Prop :=
  (w.findPromotion id).map ConnectorPromotionRow.promotionStatus = some status ∧
    (w.lastEventOf id).map ConnectorPromotionEvent.toStatus = some status

end PromotionWorld

/-- An update finds the status that its decision requires, and the decisions before it in the
log. -/
def DecidedInOrder : PromotionCall → PromotionWorld → Prop
  | .updatePromotion id decision _ _, w => w.Logged id decision.requiredStatus
  | _, _ => True

/-! ## The contract of a decision -/

/-- What is known of a decision call: the promotion that it has updated, and whether it has appended its
event. -/
structure DecisionProgress where
  decision : PromotionDecision
  wrote : Option ℕ := none
  logged : Bool := false

/-- Calls that only read, or write the audit trail. -/
def PromotionCall.quiet : PromotionCall → Bool
  | .selectSnapshots => true
  | .selectPromotions _ => true
  | .selectPromotionEvents _ => true
  | .auditWrite _ => true
  | _ => false

def DecisionPermitted : PromotionCall → DecisionProgress → Prop
  | .updatePromotion _ decision _ _, note => decision = note.decision ∧ note.wrote = none ∧
    note.logged = false
  | .insertPromotionEvent event, note => note.logged = false ∧
    ∃ id, note.wrote = some id ∧
      ∀ now, (event now).promotionId = id ∧ (event now).toStatus = note.decision.toStatus
  | c, _ => c.quiet = true

def promotionContract :
    Contract PromotionCall PromotionCall.Reply String DecisionProgress where
  reply _ r := r.isOk = true
  permits := DecisionPermitted
  note c _ note :=
    match c with
    | .updatePromotion id .. => { note with wrote := some id }
    | .insertPromotionEvent _ => { note with logged := true }
    | _ => note

/-- How a decision ends: it has been written and logged, or it has changed nothing and returns no
promotion. -/
def DecisionOutcome (decision : PromotionDecision)
    (r : Except String (Option ConnectorPromotionDetail)) (note : DecisionProgress) : Prop :=
  (∃ id, note = { decision, wrote := some id, logged := true }) ∨
    note = { decision } ∧ ∀ detail, r ≠ .ok (some detail)

variable {c : PromotionCall}

section Follows

variable {P : ReadinessPlatform} {α β : Type}

variable {Q : Except String α → DecisionProgress → Prop} {note : DecisionProgress}
  (decision : PromotionDecision) (venueId : String)

theorem uses_findVenue :
    (RuntimeStore.findVenue venueId).Uses fun c => c.quiet = true :=
  Task.Uses.bind (Task.Uses.call_bind rfl fun _ => trivial) fun _ => trivial

theorem uses_getLatestVenuePromotionRow :
    (RuntimeStore.getLatestVenuePromotionRow venueId).Uses fun c => c.quiet = true :=
  Task.Uses.bind (Task.Uses.call_bind rfl fun _ => trivial) fun _ => trivial

theorem uses_getConnectorPromotion :
    (RuntimeStore.getConnectorPromotion P venueId).Uses fun c => c.quiet = true := by
  refine Task.Uses.bind (uses_findVenue venueId) fun venue => ?_
  cases venue with
  | none => trivial
  | some venue =>
    refine Task.Uses.bind ?_ fun _ => trivial
    refine Task.Uses.bind (Task.Uses.call_bind rfl fun _ => trivial) fun _ => ?_
    exact Task.Uses.call_bind rfl fun _ => trivial

theorem uses_promotionToDecide (actorRole : OperatorRole) :
    (RuntimeControlPlane.promotionToDecide P decision venueId actorRole).Uses
      fun c => c.quiet = true := by
  unfold RuntimeControlPlane.promotionToDecide
  split_ifs
  · trivial
  refine Task.Uses.bind (uses_getConnectorPromotion venueId) fun detail => ?_
  cases detail with
  | none => trivial
  | some detail =>
    show Task.Uses _ (if _ then _ else _)
    split_ifs <;> trivial

theorem uses_auditPromotion (updated : Option ConnectorPromotionDetail)
    (eventType actorId : String) (data : List (String × Json)) :
    (RuntimeControlPlane.auditPromotion updated eventType actorId data).Uses
      fun c => c.quiet = true := by
  cases updated with
  | none => trivial
  | some detail => exact Task.Uses.call_bind rfl fun _ => trivial

theorem quiet_call (hc : c.quiet = true) (note : DecisionProgress) :
    promotionContract.permits c note ∧
      ∀ r, promotionContract.note c r note = note := by
  cases c with
  | updatePromotion | insertPromotionEvent | insertPromotion | persistSnapshots => cases hc
  | _ => exact ⟨rfl, fun _ => rfl⟩

theorem followsTo_quiet_bind {t : PromotionTask β} (ht : t.Uses fun c => c.quiet = true)
    {f : β → PromotionTask α} (hfail : ∀ e, Q (.error e) note)
    (hf : ∀ b, promotionContract.FollowsTo Q (f b) note) :
    promotionContract.FollowsTo Q (t >>= f) note := by
  refine Contract.followsTo_uses_bind (G := fun later => later = note) ?_ ?_ ht ?_ rfl
  · rintro c _ hc rfl
    exact ⟨(quiet_call hc _).1, (quiet_call hc _).2⟩
  · rintro e _ rfl
    exact hfail e
  · rintro b _ rfl
    exact hf b

theorem followsTo_quiet {t : PromotionTask α} (ht : t.Uses fun c => c.quiet = true)
    (hQ : ∀ r, Q r note) : promotionContract.FollowsTo Q t note := by
  refine Contract.followsTo_of_uses (G := fun later => later = note) ?_ ?_ ht rfl
  · rintro c _ hc rfl
    exact ⟨(quiet_call hc _).1, (quiet_call hc _).2⟩
  · rintro r _ rfl
    exact hQ r

section

variable (venueId actorId : String) (note : Option String)

theorem followsTo_recordDecision (venue : VenueInventoryCore) (current : ConnectorPromotionRow) :
    promotionContract.FollowsTo (DecisionOutcome decision)
      (RuntimeStore.recordDecision P decision venueId actorId note venue current)
      { decision } := by
  refine Contract.followsTo_call_bind ⟨rfl, rfl, rfl⟩ (fun _ _ => ?_) (fun _ h => by cases h)
  refine Contract.followsTo_call_bind ⟨rfl, current.id, rfl, fun _ => ⟨rfl, rfl⟩⟩ (fun _ _ => ?_)
    (fun _ h => by cases h)
  exact followsTo_quiet (uses_getConnectorPromotion venueId) fun _ => Or.inl ⟨current.id, rfl⟩

theorem followsTo_decideConnectorPromotion :
    promotionContract.FollowsTo (DecisionOutcome decision)
      (RuntimeStore.decideConnectorPromotion P decision venueId actorId note) { decision } := by
  have herror : ∀ e, DecisionOutcome decision (.error e) { decision } := fun e =>
    Or.inr ⟨rfl, by simp⟩
  have hnone : DecisionOutcome decision (.ok none) { decision } := Or.inr ⟨rfl, by simp⟩
  refine followsTo_quiet_bind (uses_findVenue venueId) herror fun venue => ?_
  cases venue with
  | none => exact hnone
  | some venue =>
    refine followsTo_quiet_bind (uses_getLatestVenuePromotionRow venueId) herror fun current => ?_
    cases current with
    | none => exact hnone
    | some current => exact followsTo_recordDecision decision venueId actorId note venue current

theorem followsTo_audited (eventType : String) (data : List (String × Json)) :
    promotionContract.FollowsTo (DecisionOutcome decision)
      (RuntimeStore.decideConnectorPromotion P decision venueId actorId note >>= fun updated =>
        RuntimeControlPlane.auditPromotion updated eventType actorId data) { decision } := by
  refine (followsTo_decideConnectorPromotion decision venueId actorId note).bind ?_ ?_
  · rintro updated later (⟨id, rfl⟩ | ⟨rfl, hnone⟩)
    · exact followsTo_quiet (uses_auditPromotion updated eventType actorId data) fun _ =>
        Or.inl ⟨id, rfl⟩
    · cases updated with
      | none => exact Or.inr ⟨rfl, by simp⟩
      | some detail => exact absurd rfl (hnone detail)
  · rintro e later (⟨id, rfl⟩ | ⟨rfl, -⟩)
    · exact Or.inl ⟨id, rfl⟩
    · exact Or.inr ⟨rfl, by simp⟩

end

theorem DecisionCall.followsTo (call : DecisionCall) :
    promotionContract.FollowsTo (DecisionOutcome call.decision) (call.task P)
      { decision := call.decision } := by
  have herror (decision : PromotionDecision) (e : String) :
      DecisionOutcome decision (.error e) { decision } := Or.inr ⟨rfl, by simp⟩
  have hnone (decision : PromotionDecision) :
      DecisionOutcome decision (.ok none) { decision } := Or.inr ⟨rfl, by simp⟩
  cases call with
  | approve venueId actorId actorRole note =>
    refine followsTo_quiet_bind (uses_promotionToDecide ..) (herror _) fun detail => ?_
    cases detail with
    | none => exact hnone _
    | some detail =>
      show promotionContract.FollowsTo _ (if _ then _ else _) _
      split_ifs
      · exact herror _ _
      · exact followsTo_audited .approve venueId actorId note _ _
  | reject venueId actorId actorRole note =>
    refine followsTo_quiet_bind (uses_promotionToDecide ..) (herror _) fun detail => ?_
    cases detail with
    | none => exact hnone _
    | some detail => exact followsTo_audited .reject venueId actorId (some note) _ _
  | suspend venueId actorId actorRole note =>
    refine followsTo_quiet_bind (uses_promotionToDecide ..) (herror _) fun detail => ?_
    cases detail with
    | none => exact hnone _
    | some detail => exact followsTo_audited .suspend venueId actorId (some note) _ _

end Follows

/-! ## What the calls do to a promotion -/

section Calls

variable (clock : ℕ → Date) (w : PromotionWorld)

theorem handlePromotion_quiet (hc : c.quiet = true) :
    (handlePromotion clock c w).2.promotions = w.promotions ∧
      (handlePromotion clock c w).2.events = w.events := by
  cases c with
  | updatePromotion | insertPromotionEvent | insertPromotion | persistSnapshots => cases hc
  | _ => exact ⟨rfl, rfl⟩

theorem findPromotion_update (id id' : ℕ) (decision : PromotionDecision) (actorId : String)
    (note : Option String) :
    (handlePromotion clock (.updatePromotion id decision actorId note) w).2.findPromotion id' =
      (w.findPromotion id').map fun row => if id' = id then
        decision.patch actorId note (clock w.calls) row else row :=
  Rows.find_update (patch_id decision actorId note (clock w.calls)) id id' w.promotions

theorem lastEventOf_insert (event : Date → ConnectorPromotionEvent) (id : ℕ) :
    (handlePromotion clock (.insertPromotionEvent event) w).2.lastEventOf id =
      if (event (clock w.calls)).promotionId = id then some (event (clock w.calls))
      else w.lastEventOf id := by
  show (List.filter _ (w.events ++ [event (clock w.calls)])).getLast? = _
  rw [List.filter_append]
  by_cases hid : (event (clock w.calls)).promotionId = id
  · simp [hid]
  · simp [hid, PromotionWorld.lastEventOf]

end Calls

/-- How far a promotion has come. -/
def PromotionStatus.rank : PromotionStatus → ℕ
  | .notRequested => 0
  | .pendingReview => 1
  | .approved => 2
  | .rejected => 3
  | .suspended => 3

theorem PromotionDecision.rank_lt (decision : PromotionDecision) :
    decision.requiredStatus.rank < decision.toStatus.rank := by
  cases decision <;> decide

/-! ## The invariant -/

section Invariant

variable {ι : Type} {clock : ℕ → Date} {w : PromotionWorld}

/-- What holds of the promotions, the log, the calls' notes and the events so far. -/
structure PromotionRaceInv (notes : ι → DecisionProgress) (events : List (ι × PromotionPoolEvent))
    (w : PromotionWorld) : Prop where
  passed : ∀ i id, (notes i).wrote = some id → ∃ status,
    (w.findPromotion id).map ConnectorPromotionRow.promotionStatus = some status ∧
      (notes i).decision.requiredStatus.rank < status.rank
  exclusive : ∀ i j id, (notes i).wrote = some id → (notes j).wrote = some id →
    (notes i).decision.requiredStatus = (notes j).decision.requiredStatus → i = j
  unlogged : ∀ i id, (notes i).wrote = some id → (notes i).logged = false →
    (w.findPromotion id).map ConnectorPromotionRow.promotionStatus =
        some (notes i).decision.toStatus ∧
      (w.lastEventOf id).map ConnectorPromotionEvent.toStatus =
        some (notes i).decision.requiredStatus
  settled : ∀ i id, (notes i).wrote = some id →
    (∀ j, (notes j).wrote = some id → (notes j).logged = true) → ∃ status, w.Logged id status
  traced : ∀ i id, (notes i).wrote = some id ↔ ∃ x ∈ events, x.1 = i ∧ x.2.call.Decides id

namespace PromotionRaceInv

variable {notes notes' : ι → DecisionProgress} {events : List (ι × PromotionPoolEvent)}

variable {i : ι} {id : ℕ}

theorem eq_of_unlogged (inv : PromotionRaceInv notes events w) {j : ι}
    (hi : (notes i).wrote = some id) (hi' : (notes i).logged = false)
    (hj : (notes j).wrote = some id) (hj' : (notes j).logged = false) : i = j := by
  apply inv.exclusive i j id hi hj
  have hlast := (inv.unlogged i id hi hi').2
  rw [(inv.unlogged j id hj hj').2] at hlast
  exact (Option.some.inj hlast).symm

theorem logged_of_inOrder (inv : PromotionRaceInv notes events w) {status : PromotionStatus}
    (h : w.Logged id status) {j : ι} (hj : (notes j).wrote = some id) :
    (notes j).logged = true := by
  by_contra hnot
  obtain ⟨hrow, hlast⟩ := inv.unlogged j id hj (Bool.eq_false_iff.2 hnot)
  rw [h.1] at hrow
  rw [h.2] at hlast
  have hlt := (notes j).decision.rank_lt
  rw [← Option.some.inj hrow, ← Option.some.inj hlast] at hlt
  exact lt_irrefl _ hlt

theorem traced_append (i j : ι) (id : ℕ) (e : PromotionPoolEvent) :
    (∃ x ∈ events ++ [(i, e)], x.1 = j ∧ x.2.call.Decides id) ↔
      (∃ x ∈ events, x.1 = j ∧ x.2.call.Decides id) ∨ i = j ∧ e.call.Decides id := by
  simp only [List.mem_append, List.mem_singleton, or_and_right, exists_or, exists_eq_left]

theorem step_quiet (inv : PromotionRaceInv notes events w) (hc : c.quiet = true) (i : ι) :
    PromotionRaceInv notes
      (events ++ [(i, ⟨w, c, (handlePromotion clock c w).1, (handlePromotion clock c w).2⟩)])
      (handlePromotion clock c w).2 := by
  obtain ⟨hpromotions, hevents⟩ := handlePromotion_quiet clock w hc
  have hfind (id : ℕ) : (handlePromotion clock c w).2.findPromotion id = w.findPromotion id := by
    rw [PromotionWorld.findPromotion, hpromotions]
    rfl
  have hlast (id : ℕ) : (handlePromotion clock c w).2.lastEventOf id = w.lastEventOf id := by
    rw [PromotionWorld.lastEventOf, hevents]
    rfl
  have hdecides (id : ℕ) : ¬ c.Decides id := by
    rintro ⟨decision, actorId, note, rfl⟩
    cases hc
  constructor
  · intro j id hj
    rw [hfind]
    exact inv.passed j id hj
  · exact inv.exclusive
  · intro j id hj hlogged
    rw [hfind, hlast]
    exact inv.unlogged j id hj hlogged
  · intro j id hj hall
    obtain ⟨status, hstatus⟩ := inv.settled j id hj hall
    refine ⟨status, ?_⟩
    rw [PromotionWorld.Logged, hfind, hlast]
    exact hstatus
  · intro j id
    rw [traced_append, inv.traced j id]
    simp [hdecides]

theorem step_update (inv : PromotionRaceInv notes events w) {decision : PromotionDecision}
    (actorId : String) (note : Option String) (hdecision : decision = (notes i).decision)
    (hwrote : (notes i).wrote = none) (hlogged : (notes i).logged = false)
    (horder : w.Logged id decision.requiredStatus)
    (hself : notes' i = { notes i with wrote := some id })
    (hother : ∀ j, j ≠ i → notes' j = notes j) :
    let c := PromotionCall.updatePromotion id decision actorId note
    PromotionRaceInv notes'
      (events ++ [(i, ⟨w, c, (handlePromotion clock c w).1, (handlePromotion clock c w).2⟩)])
      (handlePromotion clock c w).2 := by
  intro c
  subst hdecision
  have hsame : ((handlePromotion clock c w).2.findPromotion id).map
      ConnectorPromotionRow.promotionStatus = some (notes i).decision.toStatus := by
    obtain ⟨row, hrow, -⟩ := Option.map_eq_some_iff.1 horder.1
    rw [findPromotion_update, hrow]
    simp [patch_promotionStatus]
  have hdiff {id' : ℕ} (hne : id' ≠ id) :
      (handlePromotion clock c w).2.findPromotion id' = w.findPromotion id' := by
    rw [findPromotion_update]
    simp [hne]
  have hlast (id' : ℕ) : (handlePromotion clock c w).2.lastEventOf id' = w.lastEventOf id' := rfl
  -- Whoever decided before has passed the status that this decision requires.
  have hpassed {j : ι} (hj : (notes j).wrote = some id) :
      (notes j).decision.requiredStatus.rank < (notes i).decision.requiredStatus.rank := by
    obtain ⟨status, hstatus, hlt⟩ := inv.passed j id hj
    rw [horder.1] at hstatus
    rwa [← Option.some.inj hstatus] at hlt
  have hcases {j : ι} {id' : ℕ} (hj : (notes' j).wrote = some id') :
      j = i ∧ id' = id ∨ j ≠ i ∧ (notes j).wrote = some id' := by
    by_cases hji : j = i
    · subst hji
      rw [hself] at hj
      exact Or.inl ⟨rfl, (Option.some.inj hj).symm⟩
    · rw [hother j hji] at hj
      exact Or.inr ⟨hji, hj⟩
  have hdec (j : ι) : (notes' j).decision = (notes j).decision := by
    by_cases hji : j = i
    · subst hji
      rw [hself]
    · rw [hother j hji]
  constructor
  · intro j id' hj
    rw [hdec]
    rcases hcases hj with ⟨rfl, rfl⟩ | ⟨-, hj⟩
    · exact ⟨_, hsame, (notes j).decision.rank_lt⟩
    · by_cases hid : id' = id
      · subst hid
        exact ⟨_, hsame, (hpassed hj).trans (notes i).decision.rank_lt⟩
      · rw [hdiff hid]
        exact inv.passed j id' hj
  · intro j k id' hj hk hrequired
    rw [hdec, hdec] at hrequired
    rcases hcases hj with ⟨rfl, rfl⟩ | ⟨-, hj⟩
    · rcases hcases hk with ⟨rfl, -⟩ | ⟨-, hk⟩
      · rfl
      · have hlt := hpassed hk
        rw [hrequired] at hlt
        exact absurd hlt (lt_irrefl _)
    · rcases hcases hk with ⟨rfl, rfl⟩ | ⟨-, hk⟩
      · have hlt := hpassed hj
        rw [hrequired] at hlt
        exact absurd hlt (lt_irrefl _)
      · exact inv.exclusive j k id' hj hk hrequired
  · intro j id' hj hlogged
    rw [hdec, hlast]
    rcases hcases hj with ⟨rfl, rfl⟩ | ⟨hji, hj⟩
    · exact ⟨hsame, horder.2⟩
    · rw [hother j hji] at hlogged
      by_cases hid : id' = id
      · subst hid
        rw [inv.logged_of_inOrder horder hj] at hlogged
        cases hlogged
      · rw [hdiff hid]
        exact inv.unlogged j id' hj hlogged
  · intro j id' hj hall
    by_cases hid : id' = id
    · subst hid
      have hnow := hall i (by rw [hself])
      rw [hself, hlogged] at hnow
      cases hnow
    · obtain ⟨-, hid'⟩ | ⟨-, hj⟩ := hcases hj
      · exact absurd hid' hid
      obtain ⟨status, hstatus⟩ := inv.settled j id' hj fun k hk => by
        have hki : k ≠ i := by
          rintro rfl
          rw [hwrote] at hk
          cases hk
        rw [← hother k hki] at hk ⊢
        exact hall k hk
      refine ⟨status, ?_⟩
      rw [PromotionWorld.Logged, hdiff hid, hlast]
      exact hstatus
  · intro j id'
    have hdecides : c.Decides id' ↔ id' = id := by
      constructor
      · rintro ⟨_, _, _, h⟩
        injection h with hid
        exact hid.symm
      · rintro rfl
        exact ⟨_, _, _, rfl⟩
    rw [traced_append, ← inv.traced j id']
    by_cases hji : j = i
    · subst hji
      rw [hself, hwrote]
      simp [hdecides, eq_comm]
    · rw [hother j hji]
      simp [Ne.symm hji]

theorem step_event (inv : PromotionRaceInv notes events w) {event : Date → ConnectorPromotionEvent}
    (hwrote : (notes i).wrote = some id) (hlogged : (notes i).logged = false)
    (hevent : ∀ now, (event now).promotionId = id ∧
      (event now).toStatus = (notes i).decision.toStatus)
    (hself : notes' i = { notes i with logged := true }) (hother : ∀ j, j ≠ i →
      notes' j = notes j) :
    let c := PromotionCall.insertPromotionEvent event
    PromotionRaceInv notes'
      (events ++ [(i, ⟨w, c, (handlePromotion clock c w).1, (handlePromotion clock c w).2⟩)])
      (handlePromotion clock c w).2 := by
  intro c
  have hfind (id' : ℕ) : (handlePromotion clock c w).2.findPromotion id' = w.findPromotion id' :=
    rfl
  have hwrites (j : ι) : (notes' j).wrote = (notes j).wrote := by
    by_cases hji : j = i
    · subst hji
      rw [hself]
    · rw [hother j hji]
  have hdec (j : ι) : (notes' j).decision = (notes j).decision := by
    by_cases hji : j = i
    · subst hji
      rw [hself]
    · rw [hother j hji]
  have hdecides (id : ℕ) : ¬ c.Decides id := by
    rintro ⟨decision, actorId, note, h⟩
    injection h
  have hlast {id' : ℕ} (hne : id' ≠ id) :
      (handlePromotion clock c w).2.lastEventOf id' = w.lastEventOf id' := by
    rw [lastEventOf_insert, if_neg]
    rw [(hevent _).1]
    exact hne.symm
  constructor
  · intro j id' hj
    rw [hwrites] at hj
    rw [hdec, hfind]
    exact inv.passed j id' hj
  · intro j k id' hj hk hrequired
    rw [hwrites] at hj hk
    rw [hdec, hdec] at hrequired
    exact inv.exclusive j k id' hj hk hrequired
  · intro j id' hj hnot
    have hji : j ≠ i := by
      rintro rfl
      rw [hself] at hnot
      cases hnot
    rw [hother j hji] at hj hnot ⊢
    have hid : id' ≠ id := by
      rintro rfl
      exact hji (inv.eq_of_unlogged hj hnot hwrote hlogged)
    rw [hfind, hlast hid]
    exact inv.unlogged j id' hj hnot
  · intro j id' hj hall
    rw [hwrites] at hj
    by_cases hid : id' = id
    · subst hid
      refine ⟨(notes i).decision.toStatus, (inv.unlogged i id' hwrote hlogged).1, ?_⟩
      rw [lastEventOf_insert, if_pos (hevent _).1, Option.map_some, (hevent _).2]
    · obtain ⟨status, hstatus⟩ := inv.settled j id' hj fun k hk => by
        have hki : k ≠ i := by
          rintro rfl
          rw [hwrote] at hk
          exact hid (Option.some.inj hk).symm
        rw [← hother k hki] at hk ⊢
        exact hall k hk
      refine ⟨status, ?_⟩
      rw [PromotionWorld.Logged, hfind, hlast hid]
      exact hstatus
  · intro j id'
    rw [hwrites, traced_append, inv.traced j id']
    simp [hdecides]

end PromotionRaceInv

end Invariant

/-! ## Every schedule -/

/-- The call has written a decision to the promotion. -/
def Wrote {ι : Type} (events : List (ι × PromotionPoolEvent)) (i : ι) (promotionId : ℕ) : Prop :=
  ∃ x ∈ events, x.1 = i ∧ x.2.call.Decides promotionId

section Schedules

variable {ι : Type} [DecidableEq ι]

def decisionNotes (calls : ι → DecisionCall) (i : ι) : DecisionProgress :=
  { decision := (calls i).decision }

theorem note_decision (c : PromotionCall) (r : Except String c.Reply) (note : DecisionProgress) :
    (promotionContract.note c r note).decision = note.decision := by
  cases c <;> rfl

theorem decision_noteOf (calls : ι → DecisionCall) (events : List (ι × PromotionPoolEvent)) (i : ι) :
    (promotionContract.noteOf (decisionNotes calls) events i).decision = (calls i).decision := by
  induction events using List.reverseRecOn with
  | nil => rfl
  | append_singleton events x ih =>
    obtain ⟨j, e⟩ := x
    by_cases hji : i = j
    · subst hji
      rw [Contract.noteOf_append, note_decision, ih]
    · rw [Contract.noteOf_append_of_ne hji, ih]

theorem raceInv_step {clock : ℕ → Date} {calls : ι → DecisionCall}
    {events : List (ι × PromotionPoolEvent)} {w : PromotionWorld} {i : ι}
    (inv : PromotionRaceInv (promotionContract.noteOf (decisionNotes calls) events) events w)
    (hpermits : DecisionPermitted c (promotionContract.noteOf (decisionNotes calls) events i))
    (horder : DecidedInOrder c w) : let events' := events ++
      [(i, ⟨w, c, (handlePromotion clock c w).1, (handlePromotion clock c w).2⟩)]
    PromotionRaceInv (promotionContract.noteOf (decisionNotes calls) events') events'
      (handlePromotion clock c w).2 := by
  intro events'
  have hself : promotionContract.noteOf (decisionNotes calls) events' i =
      promotionContract.note c (handlePromotion clock c w).1
        (promotionContract.noteOf (decisionNotes calls) events i) :=
    Contract.noteOf_append events i _
  have hother (j : ι) (hj : j ≠ i) : promotionContract.noteOf (decisionNotes calls) events' j =
      promotionContract.noteOf (decisionNotes calls) events j :=
    Contract.noteOf_append_of_ne hj events _
  by_cases hquiet : c.quiet = true
  · have hnotes : promotionContract.noteOf (decisionNotes calls) events' =
        promotionContract.noteOf (decisionNotes calls) events := by
      funext j
      by_cases hj : j = i
      · subst hj
        rw [hself, (quiet_call hquiet _).2]
      · exact hother j hj
    rw [hnotes]
    exact inv.step_quiet hquiet i
  cases c with
  | updatePromotion id decision actorId note =>
    exact inv.step_update actorId note hpermits.1 hpermits.2.1 hpermits.2.2 horder hself hother
  | insertPromotionEvent event =>
    obtain ⟨hlogged, id, hwrote, hevent⟩ := hpermits
    exact inv.step_event hwrote hlogged hevent hself hother
  | _ => exact absurd hpermits hquiet

/-- If every update finds the status that its decision requires, and the decisions before it in the log,
then a call that succeeds has written its decision, two calls whose decisions are legal in the same
status do not both write one to the same promotion, and when all calls have ended, every promotion that
was decided on has the status of its last event. -/
theorem decisions_exclusive (P : ReadinessPlatform) (clock : ℕ → Date) (start : PromotionWorld)
    (calls : ι → DecisionCall) (sched : List ι)
    (horder : ∀ x ∈ poolEvents (handlePromotion clock) sched (fun i => (calls i).task P) start,
      DecidedInOrder x.2.call x.2.before) :
    let events := poolEvents (handlePromotion clock) sched (fun i => (calls i).task P) start
    let pool := runPool (handlePromotion clock) sched (fun i => (calls i).task P) start
    (∀ i, Succeeded (pool.1 i) → ∃ id, Wrote events i id) ∧
    (∀ i j id, Wrote events i id → Wrote events j id →
      (calls i).decision.requiredStatus = (calls j).decision.requiredStatus → i = j) ∧
    ((∀ i, (pool.1 i).result?.isSome = true) →
      ∀ i id, Wrote events i id → ∃ status, pool.2.Logged id status) := by
  intro events pool
  obtain ⟨inv, houtcome⟩ := Contract.runPool_of_meets (K := promotionContract)
    (h := handlePromotion clock)
    (A := fun c s _ => DecidedInOrder c s) (g := decisionNotes calls)
    (J := fun events w =>
      PromotionRaceInv (promotionContract.noteOf (decisionNotes calls) events) events w)
    (Q := fun i => DecisionOutcome (calls i).decision) (fun _ _ _ _ => rfl)
    (fun events i c w inv hpermits hmeets => raceInv_step inv hpermits hmeets)
    (promotionContract.scheduleMeets_of_events horder) (fun i => (calls i).followsTo)
    ⟨by simp [Contract.noteOf, decisionNotes], by simp [Contract.noteOf, decisionNotes],
      by simp [Contract.noteOf, decisionNotes], by simp [Contract.noteOf, decisionNotes],
      by simp [Contract.noteOf, decisionNotes]⟩
  refine ⟨?_, ?_, ?_⟩
  · rintro i ⟨detail, hdetail⟩
    rcases (houtcome i).result hdetail with ⟨id, hnote⟩ | ⟨-, hnone⟩
    · exact ⟨id, (inv.traced i id).1 (by rw [hnote])⟩
    · exact absurd rfl (hnone detail)
  · intro i j id hi hj hrequired
    refine inv.exclusive i j id ((inv.traced i id).2 hi) ((inv.traced j id).2 hj) ?_
    rw [decision_noteOf, decision_noteOf]
    exact hrequired
  · intro hended i id hi
    refine inv.settled i id ((inv.traced i id).2 hi) fun j hj => ?_
    obtain ⟨r, hr⟩ := Option.isSome_iff_exists.1 (hended j)
    rcases (houtcome j).result hr with ⟨id', hnote⟩ | ⟨hnote, -⟩
    · rw [hnote]
    · rw [hnote] at hj
      cases hj

end Schedules

/-! ### Samples -/

def succeeds (t : PromotionTask (Option ConnectorPromotionDetail)) : Bool :=
  match t.result? with
  | some (.ok (some _)) => true
  | _ => false

theorem succeeded_of_succeeds {t : PromotionTask (Option ConnectorPromotionDetail)}
    (h : succeeds t = true) : Succeeded t := by
  unfold succeeds at h
  split at h
  · exact ⟨_, ‹_›⟩
  · cases h

instance (c : PromotionCall) (id : ℕ) : Decidable (c.Decides id) :=
  match c with
  | .updatePromotion id' decision actorId note =>
    decidable_of_iff (id' = id) ⟨fun h => h ▸ ⟨decision, actorId, note, rfl⟩, by
      rintro ⟨_, _, _, h⟩
      injection h⟩
  | .selectSnapshots | .selectPromotions _ | .selectPromotionEvents _ | .insertPromotion _ _ _
  | .insertPromotionEvent _ | .persistSnapshots _ | .auditWrite _ =>
    .isFalse fun ⟨_, _, _, h⟩ => by injection h

instance {ι : Type} [DecidableEq ι] (events : List (ι × PromotionPoolEvent)) (i : ι) (id : ℕ) :
    Decidable (Wrote events i id) :=
  inferInstanceAs (Decidable (∃ x ∈ events, x.1 = i ∧ x.2.call.Decides id))

instance (w : PromotionWorld) (id : ℕ) (status : PromotionStatus) :
    Decidable (w.Logged id status) :=
  inferInstanceAs (Decidable (_ ∧ _))

instance : (c : PromotionCall) → (w : PromotionWorld) → Decidable (DecidedInOrder c w)
  | .updatePromotion id decision _ _, w =>
    inferInstanceAs (Decidable (w.Logged id decision.requiredStatus))
  | .selectSnapshots, _ | .selectPromotions _, _ | .selectPromotionEvents _, _
  | .insertPromotion _ _ _, _ | .insertPromotionEvent _, _ | .persistSnapshots _, _
  | .auditWrite _, _ => .isTrue trivial

/-- A promotion of the venue `"drift"` is requested. -/
def requestedPromotion : PromotionWorld :=
  runPromotions plainPlatform (fun _ => 0)
    [.persist [sampleSnapshot 0 true []], .request "drift" "operator-1" .operator none] {}

/-- One admin approves the promotion, another one rejects it. -/
def sampleCalls (rejects : Bool) : DecisionCall :=
  if rejects then .reject "drift" "admin-2" .admin "not yet"
  else .approve "drift" "admin-1" .admin none

/-- The approval runs first; the rejection reads its result. -/
theorem decisions_exclusive_sample :
    let sched := List.replicate 11 false ++ List.replicate 3 true
    let events := poolEvents (handlePromotion fun _ => 0) sched
      (fun i => (sampleCalls i).task plainPlatform) requestedPromotion
    let pool := runPool (handlePromotion fun _ => 0) sched
      (fun i => (sampleCalls i).task plainPlatform) requestedPromotion
    Wrote events false 0 ∧ ∃ status, pool.2.Logged 0 status := by
  intro sched events pool
  have horder : ∀ x ∈ events, DecidedInOrder x.2.call x.2.before := by decide +kernel
  obtain ⟨-, -, hsettled⟩ := decisions_exclusive plainPlatform (fun _ => 0) requestedPromotion
    sampleCalls sched horder
  have hwrote : Wrote events false 0 := by decide +kernel
  have hended : ∀ i, (pool.1 i).result?.isSome = true := by decide +kernel
  exact ⟨hwrote, hsettled hended false 0 hwrote⟩

/-- Both admins read `pending_review`; the rejection is the last update, and the approval appends the
last event. Both calls succeed, and the promotion is rejected while the log ends with an approval. -/
theorem decisions_overlap :
    let sched := List.replicate 3 false ++ List.replicate 3 true ++ List.replicate 3 false ++
      List.replicate 8 true ++ List.replicate 5 false
    let events := poolEvents (handlePromotion fun _ => 0) sched
      (fun i => (sampleCalls i).task plainPlatform) requestedPromotion
    let pool := runPool (handlePromotion fun _ => 0) sched
      (fun i => (sampleCalls i).task plainPlatform) requestedPromotion
    (sampleCalls false).decision.requiredStatus = (sampleCalls true).decision.requiredStatus ∧
      Wrote events false 0 ∧ Wrote events true 0 ∧ Succeeded (pool.1 false) ∧
      Succeeded (pool.1 true) ∧ ¬ ∃ status, pool.2.Logged 0 status := by
  intro sched events pool
  refine ⟨rfl, by decide +kernel, by decide +kernel, succeeded_of_succeeds (by decide +kernel),
    succeeded_of_succeeds (by decide +kernel), ?_⟩
  rintro ⟨status, hrow, hlast⟩
  have hdiffer : (pool.2.findPromotion 0).map ConnectorPromotionRow.promotionStatus ≠
      (pool.2.lastEventOf 0).map ConnectorPromotionEvent.toStatus := by decide +kernel
  exact hdiffer (hrow.trans hlast.symm)

end SentinelApex
