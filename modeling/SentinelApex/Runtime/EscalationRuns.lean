import SentinelApex.Runtime.BundleEscalations

/-!
# Runs of resolution requests and escalation operations

What a run of requests keeps of the record of a bundle (`Consistent`): all escalations but the last
are resolved, the bundle's row mirrors the last one, and the events of each escalation chain from
its creation to its status.

A bundle whose escalation is open is in the state `escalated` until a request to accept it or to
mark it as resolved gets through; this leaves the escalation open, and its owner cannot close it
until the bundle is escalated again (`run_escalations`, `run_escalations_marked`).
-/

namespace SentinelApex

/-! ## Requests and runs -/

inductive BundleRequestKind where
  | resolve (actionType : RebalanceBundleResolutionActionType) (note : String)
  | escalation (operation : EscalationOperation)

structure BundleRequest where
  kind : BundleRequestKind
  actor : BundleActor
  reading : BundleReading

namespace RebalanceBundleRecord

/-- The record that a request leaves, whether it returns or throws. -/
def after (record : RebalanceBundleRecord) (request : BundleRequest) : RebalanceBundleRecord :=
  match request.kind with
  | .resolve actionType note =>
    (requestRebalanceBundleResolutionAction request.reading actionType note request.actor record).2
  | .escalation operation =>
    (operateEscalation request.reading operation request.actor record).2

def run (requests : List BundleRequest) (record : RebalanceBundleRecord) : RebalanceBundleRecord :=
  requests.foldl after record

structure Untouched (record : RebalanceBundleRecord) : Prop where
  escalations : record.escalations = []
  events : record.events = []
  resolutionActions : record.resolutionActions = []
  resolution : record.bundle.resolutionState = .unresolved
  latestAction : record.bundle.latestResolutionActionId = none
  latestEscalation : record.bundle.latestEscalationId = none
  escalationStatus : record.bundle.escalationStatus = none
  escalationOwner : record.bundle.escalationOwnerId = none

end RebalanceBundleRecord

/-! ## The log -/

/-- The events lead from a status to another, without a gap. -/
def ChainsTo (final : RebalanceBundleEscalationStatus) :
    Option RebalanceBundleEscalationStatus → List RebalanceBundleEscalationEvent → Prop
  | status, [] => status = some final
  | status, event :: events => event.fromStatus = status ∧ ChainsTo final (some event.toStatus) events

theorem chainsTo_append {final next : RebalanceBundleEscalationStatus}
    {event : RebalanceBundleEscalationEvent} (hevent : event.fromStatus = some final)
    (hnext : event.toStatus = next) {start : Option RebalanceBundleEscalationStatus}
    {events : List RebalanceBundleEscalationEvent} (h : ChainsTo final start events) :
    ChainsTo next start (events ++ [event]) := by
  induction events generalizing start with
  | nil => exact ⟨hevent.trans h.symm, congrArg some hnext⟩
  | cons first events ih => exact ⟨h.1, ih h.2⟩

variable {escalations : List RebalanceBundleEscalation} {action : RebalanceBundleResolutionAction}

namespace RebalanceBundleRecord

variable (record : RebalanceBundleRecord)

def eventsOf (escalationId : ℕ) : List RebalanceBundleEscalationEvent :=
  record.events.filter fun event => decide (event.escalationId = escalationId)

/-- The request that the bundle's row names was granted after the escalation was asked for, and was
not an escalation. -/
def DecidedSince (escalation : RebalanceBundleEscalation) : Prop :=
  ∃ action ∈ record.resolutionActions, ∃ source,
    record.bundle.latestResolutionActionId = some action.id ∧ action.status = .completed ∧
      action.resolutionActionType ≠ .escalateBundleForReview ∧
        escalation.sourceResolutionActionId = some source ∧ source < action.id

/-! ## The invariant -/

/-- The row mirrors the last escalation. -/
structure Mirrors : Prop where
  status : record.bundle.escalationStatus =
    record.escalations.getLast?.map fun escalation => escalation.status
  owner : record.bundle.escalationOwnerId =
    record.escalations.getLast?.bind fun escalation => escalation.ownerId

/-- The request that the row names led to the state of the bundle, and no escalation was asked for
later. -/
structure Resolved (action : RebalanceBundleResolutionAction) : Prop where
  mem : action ∈ record.resolutionActions
  completed : action.status = .completed
  state : record.bundle.resolutionState = action.resolutionActionType.target
  sources : ∀ escalation ∈ record.escalations, ∀ source,
    escalation.sourceResolutionActionId = some source →
      source < action.id ∨ record.bundle.resolutionState = .escalated

structure Consistent : Prop where
  closed : ∀ escalation ∈ record.escalations.dropLast, escalation.status = .resolved
  distinct : (record.escalations.map fun escalation => escalation.id).Nodup
  fresh : ∀ escalation ∈ record.escalations, escalation.id < record.nextId
  eventsFresh : ∀ event ∈ record.events, event.escalationId < record.nextId
  owned : ∀ escalation ∈ record.escalations, escalation.ownerId.isSome
  sourced : ∀ escalation ∈ record.escalations, ∃ source,
    escalation.sourceResolutionActionId = some source ∧ source < record.nextId
  mirrored : record.Mirrors
  chained : ∀ escalation ∈ record.escalations,
    ChainsTo escalation.status none (record.eventsOf escalation.id)
  resolution : record.escalations = [] ∨ ∃ action,
    record.bundle.latestResolutionActionId = some action.id ∧ record.Resolved action

variable {record}

theorem Untouched.consistent (h : record.Untouched) : record.Consistent where
  closed := by simp [h.escalations]
  distinct := by simp [h.escalations]
  fresh := by simp [h.escalations]
  eventsFresh := by simp [h.events]
  owned := by simp [h.escalations]
  sourced := by simp [h.escalations]
  mirrored := ⟨by simp [h.escalations, h.escalationStatus],
    by simp [h.escalations, h.escalationOwner]⟩
  chained := by simp [h.escalations]
  resolution := Or.inl h.escalations

/-! ## Writes -/

theorem Consistent.syncRebalanceBundle (h : record.Consistent) (reading : BundleReading) :
    (record.syncRebalanceBundle reading).Consistent :=
  { h with
    mirrored := ⟨h.mirrored.status, h.mirrored.owner⟩
    resolution := h.resolution.imp_right fun ⟨action, hlatest, hresolved⟩ =>
      ⟨action, hlatest, hresolved.mem, hresolved.completed, hresolved.state, hresolved.sources⟩ }

theorem Consistent.createRebalanceBundleResolutionAction (h : record.Consistent)
    (row : ℕ → RebalanceBundleResolutionAction) :
    (record.createRebalanceBundleResolutionAction row).Consistent :=
  { h with
    fresh := fun escalation hmem => Nat.lt_succ_of_lt (h.fresh escalation hmem)
    eventsFresh := fun event hmem => Nat.lt_succ_of_lt (h.eventsFresh event hmem)
    sourced := fun escalation hmem => by
      obtain ⟨source, hsource, hlt⟩ := h.sourced escalation hmem
      exact ⟨source, hsource, Nat.lt_succ_of_lt hlt⟩
    mirrored := ⟨h.mirrored.status, h.mirrored.owner⟩
    resolution := h.resolution.imp_right fun ⟨action, hlatest, hresolved⟩ =>
      ⟨action, hlatest, List.mem_append_left _ hresolved.mem, hresolved.completed, hresolved.state,
        hresolved.sources⟩ }

/-- The state of the bundle after a request that is granted, when the request is later than those
that the escalations stem from. -/
theorem Consistent.updateRebalanceBundleResolutionState (h : record.Consistent)
    (hmem : action ∈ record.resolutionActions) (hcompleted : action.status = .completed)
    (hlater : ∀ escalation ∈ record.escalations, ∀ source,
      escalation.sourceResolutionActionId = some source → source < action.id)
    (note actorId : String) (now : Date) :
    (record.updateRebalanceBundleResolutionState action.resolutionActionType.target action.id note
      actorId now).Consistent :=
  { h with
    mirrored := ⟨h.mirrored.status, h.mirrored.owner⟩
    resolution := Or.inr ⟨action, rfl, hmem, hcompleted, rfl, fun escalation he source hsource =>
      Or.inl (hlater escalation he source hsource)⟩ }

/-! ## The open escalation -/

variable {escalation : RebalanceBundleEscalation}

theorem Consistent.exists_init (h : record.Consistent) (hmem : escalation ∈ record.escalations)
    (hopen : escalation.status ≠ .resolved) :
    ∃ init, record.escalations = init ++ [escalation] := by
  rcases List.eq_nil_or_concat record.escalations with hnil | ⟨init, last, hlist⟩
  · rw [hnil] at hmem
    cases hmem
  · rw [List.concat_eq_append] at hlist
    have hclosed := h.closed
    rw [hlist, List.dropLast_concat] at hclosed
    rw [hlist, List.mem_append, List.mem_singleton] at hmem
    rcases hmem with hmem | rfl
    · exact absurd (hclosed escalation hmem) hopen
    · exact ⟨init, hlist⟩

theorem latestCreated_mem (h : latestCreated escalations = some escalation) :
    escalation ∈ escalations := by
  induction escalations with
  | nil => cases h
  | cons first rest ih =>
    unfold latestCreated at h
    cases hrest : latestCreated rest with
    | none =>
      rw [hrest] at h
      rw [← Option.some.inj h]
      exact List.mem_cons_self
    | some latest =>
      rw [hrest] at h ih
      dsimp only at h
      split_ifs at h
      · exact List.mem_cons_of_mem _ (ih h)
      · rw [← Option.some.inj h]
        exact List.mem_cons_self

theorem latestCreated_eq_none (h : latestCreated escalations = none) : escalations = [] := by
  cases escalations with
  | nil => rfl
  | cons first rest =>
    unfold latestCreated at h
    split at h
    · cases h
    · split_ifs at h

theorem resolved_of_getOpen (h : record.getOpenRebalanceBundleEscalation = none) :
    ∀ escalation ∈ record.escalations, escalation.status = .resolved := by
  intro escalation hmem
  have hnil := latestCreated_eq_none h
  rw [List.filter_eq_nil_iff] at hnil
  simpa [RebalanceBundleEscalation.isOpen] using hnil escalation hmem

theorem Consistent.openEscalation (h : record.Consistent)
    (hresolved : ∀ escalation ∈ record.escalations, escalation.status = .resolved)
    (hlatest : record.bundle.latestResolutionActionId = some action.id)
    (haction : record.Resolved action) (hfresh : action.id < record.nextId)
    (hstate : record.bundle.resolutionState = .escalated) (note : String) (actor : BundleActor) :
    (record.openEscalation action.id note actor).Consistent := by
  have hid : ∀ escalation ∈ record.escalations, escalation.id ≠ record.nextId :=
    fun escalation hmem => (h.fresh escalation hmem).ne
  constructor
  case closed =>
    intro escalation hmem
    apply hresolved
    simpa [RebalanceBundleRecord.openEscalation, createRebalanceBundleEscalation,
      recordRebalanceBundleEscalationEvent, updateRebalanceBundleEscalationState] using hmem
  case distinct =>
    show ((record.escalations ++ [_]).map _).Nodup
    rw [List.map_append, List.nodup_append]
    refine ⟨h.distinct, by simp, ?_⟩
    simpa using hid
  case fresh =>
    intro escalation hmem
    rcases List.mem_append.1 hmem with hmem | hmem
    · exact Nat.lt_succ_of_lt (h.fresh escalation hmem)
    · rw [List.mem_singleton.1 hmem]
      exact Nat.lt_succ_self _
  case eventsFresh =>
    intro event hmem
    rcases List.mem_append.1 hmem with hmem | hmem
    · exact Nat.lt_succ_of_lt (h.eventsFresh event hmem)
    · rw [List.mem_singleton.1 hmem]
      exact Nat.lt_succ_self _
  case owned =>
    intro escalation hmem
    rcases List.mem_append.1 hmem with hmem | hmem
    · exact h.owned escalation hmem
    · rw [List.mem_singleton.1 hmem]
      rfl
  case sourced =>
    intro escalation hmem
    rcases List.mem_append.1 hmem with hmem | hmem
    · obtain ⟨source, hsource, hlt⟩ := h.sourced escalation hmem
      exact ⟨source, hsource, Nat.lt_succ_of_lt hlt⟩
    · rw [List.mem_singleton.1 hmem]
      exact ⟨action.id, rfl, Nat.lt_succ_of_lt hfresh⟩
  case mirrored =>
    constructor <;>
      simp [RebalanceBundleRecord.openEscalation, createRebalanceBundleEscalation,
        recordRebalanceBundleEscalationEvent, updateRebalanceBundleEscalationState]
  case chained =>
    intro escalation hmem
    have hevents : ∀ id, (record.openEscalation action.id note actor).eventsOf id =
        record.eventsOf id ++ if record.nextId = id then [⟨record.nextId, .created, none, .open,
          actor.actorId, some actor.actorId, some note, none, actor.now⟩] else [] := by
      intro id
      show List.filter _ (record.events ++ [_]) = _
      rw [List.filter_append, List.filter_singleton]
      simp [eventsOf]
    rcases List.mem_append.1 hmem with hmem | hmem
    · rw [hevents, if_neg (hid escalation hmem).symm, List.append_nil]
      exact h.chained escalation hmem
    · rw [List.mem_singleton.1 hmem]
      have hnone : record.eventsOf record.nextId = [] := by
        rw [eventsOf, List.filter_eq_nil_iff]
        intro event hevent
        simpa using (h.eventsFresh event hevent).ne
      rw [hevents, hnone, if_pos rfl]
      exact ⟨rfl, rfl⟩
  case resolution =>
    exact Or.inr ⟨action, hlatest, haction.mem, haction.completed, haction.state,
      fun _ _ _ _ => Or.inr hstate⟩

theorem Consistent.relinkEscalation (h : record.Consistent) {existing : RebalanceBundleEscalation}
    (hexisting : record.getOpenRebalanceBundleEscalation = some existing) (note : String) :
    (record.relinkEscalation existing note).Consistent :=
  { h with
    mirrored := by
      obtain ⟨hmem, hopen⟩ := List.mem_filter.1 (latestCreated_mem hexisting)
      obtain ⟨init, hlist⟩ := h.exists_init hmem (of_decide_eq_true hopen)
      have hlast : record.escalations.getLast? = some existing := by
        rw [hlist, List.getLast?_concat]
      constructor <;>
        simp [RebalanceBundleRecord.relinkEscalation, updateRebalanceBundleEscalationState, hlast]
    resolution := h.resolution.imp_right fun ⟨action, hlatest, hresolved⟩ =>
      ⟨action, hlatest, hresolved.mem, hresolved.completed, hresolved.state, hresolved.sources⟩ }

/-! ## Operations on the escalation -/

end RebalanceBundleRecord

/-- What an operation may write to an escalation. -/
structure EscalationChange.Lawful (change : EscalationChange)
    (escalation : RebalanceBundleEscalation) : Prop where
  id : ∀ row, (change.patch row).id = row.id
  source : ∀ row : RebalanceBundleEscalation,
    (change.patch row).sourceResolutionActionId = row.sourceResolutionActionId
  created : ∀ row, (change.patch row).createdAt = row.createdAt
  owned : ∀ row : RebalanceBundleEscalation,
    row.ownerId.isSome = true → (change.patch row).ownerId.isSome = true
  forward : escalation.status.rank ≤ (change.patch escalation).status.rank

theorem except_bind_ok {ε α β : Type} {t : Except ε α} {f : α → Except ε β} {b : β} :
    (t >>= f) = .ok b ↔ ∃ a, t = .ok a ∧ f a = .ok b := by
  cases t with
  | error e | ok a => simp [bind, Except.bind]

theorem throwIf_ok {p : Prop} [Decidable p] {message : String} {u : Unit} :
    throwIf p message = .ok u ↔ ¬ p := by
  unfold throwIf
  split_ifs with h <;> simp [h]

theorem reasonIf_eq_nil {p : Prop} [Decidable p] {code category message operatorAction : String}
    {details : List (String × Json)} :
    RecoveryChild.reasonIf p code category message operatorAction details = [] ↔ ¬ p := by
  unfold RecoveryChild.reasonIf
  split_ifs with h <;> simp [h]

structure TransitionReady (transitionType : RebalanceBundleEscalationTransitionType)
    (bundle : RebalanceBundleRow) (escalation : RebalanceBundleEscalation) : Prop where
  escalated : bundle.resolutionState = .escalated
  isOpen : escalation.status ≠ .resolved
  owned : transitionType ≠ .assign → escalation.ownerId ≠ none
  acknowledge : transitionType = .acknowledge → escalation.status = .open
  startReview : transitionType = .startReview →
    escalation.status = .open ∨ escalation.status = .acknowledged

section Checks

variable {record : RebalanceBundleRecord} {reading : BundleReading} {actor : BundleActor}
  {transitionType : RebalanceBundleEscalationTransitionType} {name : String}
  {transition : RebalanceBundleEscalationTransition} {escalation : RebalanceBundleEscalation}

theorem find_transition {bundle : RebalanceBundleRow}
    (h : (buildBundleEscalationTransitions bundle (some escalation)).find? (fun transition =>
      decide (transition.transitionType = transitionType)) = some transition) :
    transition.eligible = true ↔ bundle.resolutionState = .escalated ∧
      (transitionBlockedReasons transitionType escalation).isEmpty = true := by
  have hreasons : transition.eligible = (RecoveryChild.reasonIf
      (bundle.resolutionState ≠ .escalated) "bundle_not_escalated" "bundle_state"
      "Bundle is not currently in an escalated resolution state."
      "Only use escalation workflow actions on bundles that are explicitly escalated."
      [("resolutionState", .str bundle.resolutionState.text)] ++
        transitionBlockedReasons transitionType escalation).isEmpty := by
    cases transitionType <;> simp [buildBundleEscalationTransitions] at h <;> subst h <;> rfl
  rw [hreasons, List.isEmpty_iff, List.isEmpty_iff, List.append_eq_nil_iff, reasonIf_eq_nil,
    not_not]

theorem transitionBlockedReasons_isEmpty :
    (transitionBlockedReasons transitionType escalation).isEmpty = true ↔
      escalation.status ≠ .resolved ∧ (transitionType ≠ .assign → escalation.ownerId ≠ none) ∧
        (transitionType = .acknowledge → escalation.status = .open) ∧
          (transitionType = .startReview →
            escalation.status = .open ∨ escalation.status = .acknowledged) := by
  unfold transitionBlockedReasons
  simp only [List.isEmpty_iff, List.append_eq_nil_iff, reasonIf_eq_nil, not_and, not_not,
    RebalanceBundleEscalation.isOpen, decide_eq_false_iff_not, List.mem_cons, List.not_mem_nil,
    or_false, and_assoc, ne_eq]

/-- The transition of a type is eligible exactly if the bundle is escalated and the escalation is
ready for it. -/
theorem checkTransition_ok
    (h : checkTransition (record.detail reading) transitionType name actor =
      .ok (transition, escalation)) :
    record.getRebalanceBundleEscalation = some escalation ∧
      (transition.eligible = true ↔
        TransitionReady transitionType record.bundle escalation) := by
  unfold checkTransition at h
  split at h
  · cases h
  · rename_i found hfind
    obtain ⟨-, -, h⟩ := except_bind_ok.1 h
    split at h
    · cases h
    · rename_i latest hlatest
      obtain ⟨rfl, rfl⟩ := Prod.mk.inj (Except.ok.inj h)
      have hlatest : record.getRebalanceBundleEscalation = some latest := hlatest
      refine ⟨hlatest, ?_⟩
      simp only [RebalanceBundleRecord.detail, hlatest] at hfind
      rw [find_transition hfind, transitionBlockedReasons_isEmpty]
      exact ⟨fun ⟨h₁, h₂, h₃, h₄, h₅⟩ => ⟨h₁, h₂, h₃, h₄, h₅⟩,
        fun ⟨h₁, h₂, h₃, h₄, h₅⟩ => ⟨h₁, h₂, h₃, h₄, h₅⟩⟩

theorem check_ok {operation : EscalationOperation} {change : EscalationChange}
    (h : operation.check (record.detail reading) actor = .ok (escalation, change)) :
    record.getRebalanceBundleEscalation = some escalation ∧ escalation.status ≠ .resolved ∧
      change.Lawful escalation := by
  cases operation with
  | assign ownerId note dueAt =>
    obtain ⟨⟨transition, latest⟩, htransition, h⟩ := except_bind_ok.1 h
    simp only [except_bind_ok, throwIf_ok, checkEligible] at h
    obtain ⟨-, -, -, -, -, heligible, -, -, -, -, h⟩ := h
    obtain ⟨rfl, rfl⟩ := Prod.mk.inj (Except.ok.inj h)
    obtain ⟨hlatest, hready⟩ := checkTransition_ok htransition
    have hready := hready.1 (by simpa using heligible)
    exact ⟨hlatest, hready.isOpen, fun _ => rfl, fun _ => rfl, fun _ => rfl, fun _ _ => rfl, le_refl _⟩
  | acknowledge note =>
    obtain ⟨⟨transition, latest⟩, htransition, h⟩ := except_bind_ok.1 h
    simp only [except_bind_ok, throwIf_ok, checkEligible, checkOwner] at h
    obtain ⟨-, heligible, -, -, h⟩ := h
    obtain ⟨rfl, rfl⟩ := Prod.mk.inj (Except.ok.inj h)
    obtain ⟨hlatest, hready⟩ := checkTransition_ok htransition
    have hready := hready.1 (by simpa using heligible)
    refine ⟨hlatest, hready.isOpen, fun _ => rfl, fun _ => rfl, fun _ => rfl, fun _ h => h, ?_⟩
    rw [hready.acknowledge rfl]
    exact Nat.zero_le _
  | startReview note =>
    obtain ⟨⟨transition, latest⟩, htransition, h⟩ := except_bind_ok.1 h
    simp only [except_bind_ok, throwIf_ok, checkEligible, checkOwner] at h
    obtain ⟨-, heligible, -, -, h⟩ := h
    obtain ⟨rfl, rfl⟩ := Prod.mk.inj (Except.ok.inj h)
    obtain ⟨hlatest, hready⟩ := checkTransition_ok htransition
    have hready := hready.1 (by simpa using heligible)
    refine ⟨hlatest, hready.isOpen, fun _ => rfl, fun _ => rfl, fun _ => rfl, fun _ h => h, ?_⟩
    rcases hready.startReview rfl with hstatus | hstatus
    · rw [hstatus]
      exact Nat.zero_le _
    · rw [hstatus]
      exact Nat.le_succ 1
  | close note =>
    obtain ⟨⟨transition, latest⟩, htransition, h⟩ := except_bind_ok.1 h
    simp only [except_bind_ok, throwIf_ok, checkEligible, checkOwner] at h
    obtain ⟨-, heligible, -, -, -, -, h⟩ := h
    obtain ⟨rfl, rfl⟩ := Prod.mk.inj (Except.ok.inj h)
    obtain ⟨hlatest, hready⟩ := checkTransition_ok htransition
    have hready := hready.1 (by simpa using heligible)
    refine ⟨hlatest, hready.isOpen, fun _ => rfl, fun _ => rfl, fun _ => rfl, fun _ h => h, ?_⟩
    have hrank : ∀ status : RebalanceBundleEscalationStatus, status.rank ≤ 3 := by
      intro status
      cases status <;> decide
    exact hrank _

end Checks

variable {option : RebalanceBundleResolutionOption}

namespace RebalanceBundleRecord

variable {record : RebalanceBundleRecord} {escalation : RebalanceBundleEscalation}
  {change : EscalationChange}

section

variable (h : record.Consistent) (hmem : escalation ∈ record.escalations)
  (hopen : escalation.status ≠ .resolved)

include h hmem hopen

theorem Consistent.escalations_applyChange (change : EscalationChange) (actor : BundleActor) :
    ∃ init, record.escalations = init ++ [escalation] ∧ (∀ row ∈ init, row.id ≠ escalation.id) ∧
      (record.applyChange escalation change actor).escalations =
        init ++ [change.patch escalation] := by
  obtain ⟨init, hlist⟩ := h.exists_init hmem hopen
  have hdistinct := h.distinct
  rw [hlist, List.map_append, List.nodup_append] at hdistinct
  have hother : ∀ row ∈ init, row.id ≠ escalation.id := by
    intro row hrow
    exact hdistinct.2.2 row.id (List.mem_map_of_mem hrow) escalation.id (by simp)
  refine ⟨init, hlist, hother, ?_⟩
  show Rows.update RebalanceBundleEscalation.id escalation.id change.patch record.escalations = _
  have hinit : init.map (fun row => if row.id = escalation.id then change.patch row else row) =
      init := by
    conv_rhs => rw [← List.map_id init]
    exact List.map_congr_left fun row hrow => if_neg (hother row hrow)
  rw [hlist, Rows.update, List.map_append, hinit]
  simp

theorem Consistent.applyChange (hchange : change.Lawful escalation) (actor : BundleActor) :
    (record.applyChange escalation change actor).Consistent := by
  obtain ⟨init, hlist, hother, hnew⟩ := h.escalations_applyChange hmem hopen change actor
  have hdistinct := h.distinct
  rw [hlist] at hdistinct
  have hold : ∀ row ∈ init, row ∈ record.escalations :=
    fun row hrow => hlist ▸ List.mem_append_left _ hrow
  -- A property of the old rows and of the patched one holds of all new rows.
  have hall : ∀ P : RebalanceBundleEscalation → Prop,
      (∀ row ∈ init, P row) → P (change.patch escalation) →
        ∀ row ∈ (record.applyChange escalation change actor).escalations, P row := by
    intro P hinit hpatched row hrow
    rw [hnew, List.mem_append, List.mem_singleton] at hrow
    rcases hrow with hrow | rfl
    · exact hinit row hrow
    · exact hpatched
  have hid := hchange.id escalation
  constructor
  case closed =>
    rw [hnew, List.dropLast_concat]
    have hclosed := h.closed
    rwa [hlist, List.dropLast_concat] at hclosed
  case distinct =>
    rw [hnew]
    simpa [hid] using hdistinct
  case fresh =>
    refine hall _ (fun row hrow => h.fresh row (hold row hrow)) ?_
    rw [hid]
    exact h.fresh escalation hmem
  case eventsFresh =>
    intro event hevent
    rcases List.mem_append.1 hevent with hevent | hevent
    · exact h.eventsFresh event hevent
    · rw [List.mem_singleton.1 hevent]
      exact h.fresh escalation hmem
  case owned =>
    refine hall _ (fun row hrow => h.owned row (hold row hrow)) ?_
    exact hchange.owned escalation (h.owned escalation hmem)
  case sourced =>
    refine hall _ (fun row hrow => h.sourced row (hold row hrow)) ?_
    rw [hchange.source escalation]
    exact h.sourced escalation hmem
  case mirrored =>
    constructor
    all_goals
      rw [hnew, List.getLast?_concat]
      rfl
  case chained =>
    have hevents : ∀ id, (record.applyChange escalation change actor).eventsOf id =
        record.eventsOf id ++ if escalation.id = id then [⟨escalation.id, change.eventType,
          some escalation.status, (change.patch escalation).status, actor.actorId,
          (change.patch escalation).ownerId, change.note, (change.patch escalation).dueAt,
          actor.now⟩] else [] := by
      intro id
      show List.filter _ (record.events ++ [_]) = _
      rw [List.filter_append, List.filter_singleton]
      simp [eventsOf]
    refine hall _ (fun row hrow => ?_) ?_
    · rw [hevents, if_neg (hother row hrow).symm, List.append_nil]
      exact h.chained row (hold row hrow)
    · rw [hevents, hid, if_pos rfl]
      refine chainsTo_append ?_ ?_ (h.chained escalation hmem)
      · rfl
      · rfl
  case resolution =>
    rcases h.resolution with hnil | ⟨action, hlatest, hresolved⟩
    · rw [hnil] at hmem
      cases hmem
    · refine Or.inr ⟨action, hlatest, hresolved.mem, hresolved.completed, hresolved.state, ?_⟩
      refine hall _ (fun row hrow => hresolved.sources row (hold row hrow)) ?_
      rw [hchange.source escalation]
      exact hresolved.sources escalation hmem

end

/-! ## Forward moves -/

/-- Every escalation is kept, with a status that is not earlier. -/
def Forward (record later : RebalanceBundleRecord) : Prop :=
  ∀ escalation ∈ record.escalations, ∃ moved ∈ later.escalations,
    moved.id = escalation.id ∧ escalation.status.rank ≤ moved.status.rank

variable {actor : BundleActor} {later : RebalanceBundleRecord}

theorem Forward.of_subset (h : ∀ escalation ∈ record.escalations, escalation ∈ later.escalations) :
    record.Forward later :=
  fun escalation hmem => ⟨escalation, h escalation hmem, rfl, le_refl _⟩

theorem Forward.trans {middle : RebalanceBundleRecord} (h : record.Forward middle)
    (h' : middle.Forward later) : record.Forward later := by
  intro escalation hmem
  obtain ⟨moved, hmoved, hid, hrank⟩ := h escalation hmem
  obtain ⟨final, hfinal, hid', hrank'⟩ := h' moved hmoved
  exact ⟨final, hfinal, hid'.trans hid, hrank.trans hrank'⟩

theorem Consistent.forward_applyChange (h : record.Consistent)
    (hmem : escalation ∈ record.escalations) (hopen : escalation.status ≠ .resolved)
    (hchange : change.Lawful escalation) (actor : BundleActor) :
    record.Forward (record.applyChange escalation change actor) := by
  obtain ⟨init, hlist, -, hnew⟩ := h.escalations_applyChange hmem hopen change actor
  intro row hrow
  rw [hlist, List.mem_append, List.mem_singleton] at hrow
  rw [hnew]
  rcases hrow with hrow | rfl
  · exact ⟨row, List.mem_append_left _ hrow, rfl, le_refl _⟩
  · exact ⟨change.patch row, by simp, hchange.id row, hchange.forward⟩

/-! ## Requests -/

theorem mem_of_getRebalanceBundleEscalation
    (h : record.getRebalanceBundleEscalation = some escalation) :
    escalation ∈ record.escalations := latestCreated_mem h

theorem Consistent.operateEscalation (h : record.Consistent) (reading : BundleReading)
    (operation : EscalationOperation) (actor : BundleActor) :
    (operateEscalation reading operation actor record).2.Consistent ∧
      record.Forward (operateEscalation reading operation actor record).2 := by
  have hsynced := h.syncRebalanceBundle reading
  have hsame : record.Forward (record.syncRebalanceBundle reading) :=
    Forward.of_subset fun _ hmem => hmem
  unfold SentinelApex.operateEscalation
  dsimp only
  split
  · exact ⟨hsynced, hsame⟩
  · rename_i escalation change hcheck
    obtain ⟨hlatest, hopen, hlawful⟩ := check_ok hcheck
    have hmem := mem_of_getRebalanceBundleEscalation hlatest
    have hchanged := hsynced.applyChange hmem hopen hlawful actor
    refine ⟨hchanged.syncRebalanceBundle reading, hsame.trans ?_⟩
    exact (hsynced.forward_applyChange hmem hopen hlawful actor).trans
      (Forward.of_subset fun _ hmem => hmem)

/-- The option of a request that passes the checks is the one of its type. -/
theorem checkResolution_ok {detail : BundleDetail}
    {actionType : RebalanceBundleResolutionActionType} {note trimmed : String}
    (h : checkResolution detail actionType note actor = .ok (option, trimmed)) :
    option ∈ detail.resolutionOptions := by
  unfold checkResolution at h
  split at h
  · cases h
  · rename_i found hfind
    simp only [except_bind_ok] at h
    obtain ⟨-, -, -, -, h⟩ := h
    obtain ⟨rfl, -⟩ := Prod.mk.inj (Except.ok.inj h)
    exact List.mem_of_find?_eq_some hfind

theorem target_of_mem_options {bundle : RebalanceBundleRow}
    {progress : RebalanceBundlePartialProgress}
    (h : option ∈ buildBundleResolutionOptions bundle progress) :
    option.targetResolutionState = option.resolutionActionType.target := by
  simp only [buildBundleResolutionOptions, List.mem_cons, List.not_mem_nil, or_false] at h
  rcases h with rfl | rfl | rfl <;> rfl

theorem Consistent.recordResolution (h : record.Consistent)
    (hmem : action ∈ record.resolutionActions) (hcompleted : action.status = .completed)
    (hfresh : action.id < record.nextId) (hlater : ∀ escalation ∈ record.escalations, ∀ source,
      escalation.sourceResolutionActionId = some source → source < action.id)
    (htype : action.resolutionActionType = option.resolutionActionType)
    (htarget : option.targetResolutionState = option.resolutionActionType.target) (note : String)
    (actor : BundleActor) :
    (record.recordResolution option action.id note actor).Consistent ∧
      record.Forward (record.recordResolution option action.id note actor) := by
  have hresolved := h.updateRebalanceBundleResolutionState hmem hcompleted hlater note
    actor.actorId actor.now
  unfold RebalanceBundleRecord.recordResolution
  dsimp only
  rw [htarget, ← htype]
  generalize hnext : record.updateRebalanceBundleResolutionState action.resolutionActionType.target
    action.id note actor.actorId actor.now = next at hresolved
  have hescalations : next.escalations = record.escalations := by rw [← hnext]; rfl
  split_ifs with hescalate
  · cases hopen : next.getOpenRebalanceBundleEscalation with
    | none =>
      have hstate : next.bundle.resolutionState = .escalated := by
        rw [← hnext]
        show action.resolutionActionType.target = _
        rw [hescalate]
        rfl
      have haction : next.Resolved action := by
        rw [← hnext]
        exact ⟨hmem, hcompleted, rfl, fun e he source hsource =>
          Or.inl (hlater e he source hsource)⟩
      refine ⟨hresolved.openEscalation (resolved_of_getOpen hopen) ?_ haction ?_ hstate note actor,
        Forward.of_subset fun e he => ?_⟩
      · rw [← hnext]
        rfl
      · rw [← hnext]
        exact hfresh
      · exact List.mem_append_left _ (hescalations ▸ he)
    | some existing =>
      exact ⟨hresolved.relinkEscalation hopen note,
        Forward.of_subset fun e he => hescalations ▸ he⟩
  · exact ⟨hresolved, Forward.of_subset fun e he => hescalations ▸ he⟩

theorem Consistent.requestRebalanceBundleResolutionAction (h : record.Consistent)
    (reading : BundleReading) (actionType : RebalanceBundleResolutionActionType) (note : String)
    (actor : BundleActor) :
    (requestRebalanceBundleResolutionAction reading actionType note actor record).2.Consistent ∧
      record.Forward
        (requestRebalanceBundleResolutionAction reading actionType note actor record).2 := by
  have hsynced := h.syncRebalanceBundle reading
  have hsame : record.Forward (record.syncRebalanceBundle reading) :=
    Forward.of_subset fun _ hmem => hmem
  unfold SentinelApex.requestRebalanceBundleResolutionAction
  dsimp only
  split
  · exact ⟨hsynced, hsame⟩
  · rename_i option trimmed hcheck
    have htarget := target_of_mem_options (checkResolution_ok hcheck)
    generalize hstart : record.syncRebalanceBundle reading = start at hsynced hsame ⊢
    have hcreated := hsynced.createRebalanceBundleResolutionAction
      (resolutionActionRow (start.detail reading) option trimmed actor)
    have hkept : start.Forward (start.createRebalanceBundleResolutionAction
        (resolutionActionRow (start.detail reading) option trimmed actor)) :=
      Forward.of_subset fun _ hmem => hmem
    split_ifs with heligible
    · have hlater : ∀ escalation ∈ start.escalations, ∀ source,
          escalation.sourceResolutionActionId = some source → source < start.nextId := by
        intro escalation hmem source hsource
        obtain ⟨source', hsource', hlt⟩ := hsynced.sourced escalation hmem
        rw [hsource] at hsource'
        rw [Option.some.inj hsource']
        exact hlt
      have hmem : resolutionActionRow (start.detail reading) option trimmed actor start.nextId ∈
          (start.createRebalanceBundleResolutionAction
            (resolutionActionRow (start.detail reading) option trimmed actor)).resolutionActions :=
        List.mem_append_right _ List.mem_cons_self
      obtain ⟨hrecorded, hforward⟩ := hcreated.recordResolution hmem (if_pos heligible)
        (Nat.lt_succ_self _) hlater rfl htarget trimmed actor
      refine ⟨hrecorded.syncRebalanceBundle reading, hsame.trans (hkept.trans (hforward.trans ?_))⟩
      exact Forward.of_subset fun _ hmem => hmem
    · refine ⟨hcreated.syncRebalanceBundle reading, hsame.trans (hkept.trans ?_)⟩
      exact Forward.of_subset fun _ hmem => hmem

theorem Consistent.after (h : record.Consistent) (request : BundleRequest) :
    (record.after request).Consistent ∧ record.Forward (record.after request) := by
  unfold RebalanceBundleRecord.after
  cases request.kind with
  | resolve actionType note => exact h.requestRebalanceBundleResolutionAction _ _ _ _
  | escalation operation => exact h.operateEscalation _ _ _

theorem Consistent.run (h : record.Consistent) (requests : List BundleRequest) :
    (record.run requests).Consistent ∧ record.Forward (record.run requests) := by
  induction requests generalizing record with
  | nil => exact ⟨h, Forward.of_subset fun _ hmem => hmem⟩
  | cons request requests ih =>
    obtain ⟨hnext, hforward⟩ := h.after request
    obtain ⟨hlast, hrest⟩ := ih hnext
    exact ⟨hlast, hforward.trans hrest⟩

/-! ## Times of creation -/

def creationTimes (record : RebalanceBundleRecord) : List Date :=
  record.escalations.map fun escalation => escalation.createdAt

theorem creationTimes_applyChange (record : RebalanceBundleRecord)
    (hchange : change.Lawful escalation) (actor : BundleActor) :
    (record.applyChange escalation change actor).creationTimes = record.creationTimes := by
  show (Rows.update RebalanceBundleEscalation.id escalation.id change.patch
    record.escalations).map _ = record.escalations.map _
  unfold Rows.update
  rw [List.map_map]
  refine List.map_congr_left fun row _ => ?_
  rw [Function.comp_apply]
  split_ifs
  · exact hchange.created row
  · rfl

theorem creationTimes_recordResolution (record : RebalanceBundleRecord)
    (option : RebalanceBundleResolutionOption) (actionId : ℕ) (note : String)
    (actor : BundleActor) :
    (record.recordResolution option actionId note actor).creationTimes = record.creationTimes ∨
      (record.recordResolution option actionId note actor).creationTimes =
        record.creationTimes ++ [actor.now] := by
  unfold RebalanceBundleRecord.recordResolution
  dsimp only
  split_ifs with hescalate
  · split
    · exact Or.inr (List.map_append ..)
    · exact Or.inl rfl
  · exact Or.inl rfl

/-- A request creates at most one escalation, at its time. -/
theorem creationTimes_after (record : RebalanceBundleRecord) (request : BundleRequest) :
    (record.after request).creationTimes = record.creationTimes ∨
      (record.after request).creationTimes = record.creationTimes ++ [request.actor.now] := by
  unfold RebalanceBundleRecord.after
  cases request.kind with
  | resolve actionType note =>
    unfold SentinelApex.requestRebalanceBundleResolutionAction
    dsimp only
    split
    · exact Or.inl rfl
    · split_ifs
      · exact creationTimes_recordResolution _ _ _ _ _
      · exact Or.inl rfl
  | escalation operation =>
    unfold SentinelApex.operateEscalation
    dsimp only
    split
    · exact Or.inl rfl
    · rename_i escalation change hcheck
      exact Or.inl (creationTimes_applyChange _ (check_ok hcheck).2.2 request.actor)

/-- When the escalations are created one after the other, the latest one is the last one. -/
theorem latestCreated_eq_getLast
    (h : (escalations.map fun escalation => escalation.createdAt).Pairwise (· < ·)) :
    latestCreated escalations = escalations.getLast? := by
  induction escalations with
  | nil => rfl
  | cons first rest ih =>
    rw [List.map_cons, List.pairwise_cons] at h
    unfold latestCreated
    rw [ih h.2]
    cases hlast : rest.getLast? with
    | none =>
      rw [List.getLast?_eq_none_iff] at hlast
      rw [hlast]
      rfl
    | some last =>
      have hmem : last ∈ rest := List.mem_of_getLast? hlast
      have hlater : first.createdAt < last.createdAt := h.1 _ (List.mem_map_of_mem hmem)
      rw [List.getLast?_cons, hlast]
      simp [hlater]

theorem creationTimes_run (requests : List BundleRequest)
    (hrecord : record.creationTimes.Pairwise (· < ·))
    (hrequests : (requests.map fun request => request.actor.now).Pairwise (· < ·))
    (hearlier : ∀ date ∈ record.creationTimes, ∀ request ∈ requests, date < request.actor.now) :
    (record.run requests).creationTimes.Pairwise (· < ·) := by
  induction requests generalizing record with
  | nil => exact hrecord
  | cons request requests ih =>
    rw [List.map_cons, List.pairwise_cons] at hrequests
    have hnow : ∀ later ∈ requests, request.actor.now < later.actor.now :=
      fun later hlater => hrequests.1 _ (List.mem_map_of_mem hlater)
    have hold : ∀ date ∈ record.creationTimes, ∀ later ∈ requests, date < later.actor.now :=
      fun date hdate later hlater => hearlier date hdate later (List.mem_cons_of_mem _ hlater)
    rcases record.creationTimes_after request with hsame | hadded
    · refine ih ?_ hrequests.2 ?_
      · rwa [hsame]
      · rwa [hsame]
    · refine ih ?_ hrequests.2 ?_
      · rw [hadded, List.pairwise_append]
        refine ⟨hrecord, List.pairwise_singleton _ _, ?_⟩
        intro date hdate added hmem
        rw [List.mem_singleton.1 hmem]
        exact hearlier date hdate request List.mem_cons_self
      · intro date hdate later hlater
        rw [hadded, List.mem_append, List.mem_singleton] at hdate
        rcases hdate with hdate | rfl
        · exact hold date hdate later hlater
        · exact hnow later hlater

/-! ## Closing -/

theorem exists_transition (bundle : RebalanceBundleRow)
    (transitionType : RebalanceBundleEscalationTransitionType)
    (escalation : Option RebalanceBundleEscalation) :
    ∃ transition, (buildBundleEscalationTransitions bundle escalation).find? (fun transition =>
        decide (transition.transitionType = transitionType)) = some transition ∧
      transition.approvalRequirement = .operator := by
  cases transitionType <;> simp [buildBundleEscalationTransitions]

/-- The latest escalation has an owner, who can close it with a note, unless it is resolved. -/
def Closable (record : RebalanceBundleRecord) : Prop :=
  ∀ shown, record.getRebalanceBundleEscalation = some shown → shown.status ≠ .resolved →
    ∃ owner, shown.ownerId = some owner ∧ ∀ actor : BundleActor, actor.actorId = owner →
      canSatisfyApprovalRequirement actor.actorRole .operator = true →
        ∀ note, Json.trim note ≠ "" → ∀ reading, ∃ closed,
          (SentinelApex.operateEscalation reading (.close note) actor record).1 = .ok closed ∧
            closed.id = shown.id ∧ closed.status = .resolved

/-- While the bundle is escalated, the owner of the escalation shown can close it. -/
theorem close_ok {shown : RebalanceBundleEscalation} {note : String}
    (hshown : record.getRebalanceBundleEscalation = some shown) (hopen : shown.status ≠ .resolved)
    (hstate : record.bundle.resolutionState = .escalated)
    (howner : shown.ownerId = some actor.actorId)
    (hrole : canSatisfyApprovalRequirement actor.actorRole .operator = true)
    (hnote : Json.trim note ≠ "") (reading : BundleReading) :
    ∃ closed, (SentinelApex.operateEscalation reading (.close note) actor record).1 = .ok closed ∧
      closed.id = shown.id ∧ closed.status = .resolved := by
  have hdetail : ((record.syncRebalanceBundle reading).detail reading).escalation = some shown :=
    hshown
  obtain ⟨transition, hfind, hrequirement⟩ := exists_transition
    (record.syncRebalanceBundle reading).bundle .close (some shown)
  have htransition : checkTransition ((record.syncRebalanceBundle reading).detail reading) .close
      "close" actor = .ok (transition, shown) := by
    unfold checkTransition
    rw [hdetail]
    have hfind : ((record.syncRebalanceBundle reading).detail reading).escalationTransitions.find?
        (fun transition => decide (transition.transitionType = .close)) = some transition := by
      rw [← hfind, ← hshown]
      rfl
    rw [hfind]
    simp [hrequirement, hrole, throwIf, bind, Except.bind, pure, Except.pure]
  have heligible : transition.eligible = true := by
    rw [find_transition hfind, transitionBlockedReasons_isEmpty]
    refine ⟨hstate, hopen, fun _ => ?_, fun h => ?_, fun h => ?_⟩
    · rw [howner]
      exact Option.some_ne_none _
    · cases h
    · cases h
  refine ⟨{ shown with
    status := .resolved
    resolutionNote := some (Json.trim note)
    closedBy := some actor.actorId
    closedAt := some actor.now }, ?_, rfl, rfl⟩
  unfold SentinelApex.operateEscalation
  simp only [EscalationOperation.check, closeRebalanceBundleEscalation, htransition, bind,
    Except.bind, checkEligible, heligible, checkOwner, throwIf, hnote]
  simp [pure, Except.pure, howner]

theorem Consistent.closable (h : record.Consistent)
    (hstate : record.bundle.resolutionState = .escalated) : record.Closable := by
  intro shown hshown hopen
  obtain ⟨owner, howner⟩ :=
    Option.isSome_iff_exists.1 (h.owned shown (mem_of_getRebalanceBundleEscalation hshown))
  refine ⟨owner, howner, ?_⟩
  intro actor hactor hrole note hnote reading
  rw [← hactor] at howner
  exact close_ok hshown hopen hstate howner hrole hnote reading

/-! ## Runs -/

theorem Consistent.filter_isOpen_length (h : record.Consistent) :
    (record.escalations.filter fun escalation => escalation.isOpen).length ≤ 1 := by
  rcases List.eq_nil_or_concat record.escalations with hnil | ⟨init, last, hlist⟩
  · simp [hnil]
  · rw [List.concat_eq_append] at hlist
    have hclosed := h.closed
    rw [hlist, List.dropLast_concat] at hclosed
    have hinit : init.filter (fun escalation => escalation.isOpen) = [] := by
      rw [List.filter_eq_nil_iff]
      intro escalation hmem
      simp [RebalanceBundleEscalation.isOpen, hclosed escalation hmem]
    rw [hlist, List.filter_append, hinit, List.nil_append]
    exact List.length_filter_le _ [last]

/-- The bundle of an escalation that is not resolved is escalated, or another request was granted
after the one that the escalation stems from. -/
theorem Consistent.escalated_or_decided (h : record.Consistent)
    (hmem : escalation ∈ record.escalations) :
    record.bundle.resolutionState = .escalated ∨ record.DecidedSince escalation := by
  by_cases hstate : record.bundle.resolutionState = .escalated
  · exact Or.inl hstate
  · rcases h.resolution with hnil | ⟨action, hlatest, haction⟩
    · rw [hnil] at hmem
      cases hmem
    · obtain ⟨source, hsource, -⟩ := h.sourced escalation hmem
      have hearlier : source < action.id :=
        (haction.sources escalation hmem source hsource).resolve_right hstate
      have htype : action.resolutionActionType ≠ .escalateBundleForReview := by
        intro htype
        apply hstate
        rw [haction.state, htype]
        rfl
      exact Or.inr ⟨action, haction.mem, source, hlatest, haction.completed, htype, hsource,
        hearlier⟩

/-- At most one escalation of a bundle is not resolved, the statuses move forward, the row mirrors
the last escalation, the events of each escalation chain, and the bundle of an escalation that is
not resolved is escalated unless another request was granted since. Whenever it is escalated, the
owner of the escalation shown can close it; this is the last one if the clock has moved between the
requests. -/
theorem run_escalations (h : record.Untouched) (requests further : List BundleRequest) :
    ((record.run requests).escalations.filter fun escalation => escalation.isOpen).length ≤ 1 ∧
      (record.run requests).Forward ((record.run requests).run further) ∧
        (record.run requests).Mirrors ∧
      (∀ escalation ∈ (record.run requests).escalations,
        ChainsTo escalation.status none ((record.run requests).eventsOf escalation.id)) ∧
      (∀ escalation ∈ (record.run requests).escalations, escalation.status ≠ .resolved →
        (record.run requests).bundle.resolutionState = .escalated ∨
          (record.run requests).DecidedSince escalation) ∧
      ((record.run requests).bundle.resolutionState = .escalated →
        (record.run requests).Closable) ∧
      ((requests.map fun request => request.actor.now).Pairwise (· < ·) →
        (record.run requests).getRebalanceBundleEscalation =
          (record.run requests).escalations.getLast?) := by
  have hfinal := (h.consistent.run requests).1
  refine ⟨hfinal.filter_isOpen_length, (hfinal.run further).2, hfinal.mirrored, hfinal.chained,
    fun escalation hmem _ => hfinal.escalated_or_decided hmem, hfinal.closable, ?_⟩
  intro hrequests
  have hnone : record.creationTimes = [] := by
    unfold creationTimes
    rw [h.escalations]
    rfl
  apply latestCreated_eq_getLast
  apply creationTimes_run requests _ hrequests
  · rw [hnone]
    simp
  · rw [hnone]
    exact List.Pairwise.nil

/-! ## An open escalation that cannot be closed -/

/-- The bundle of a failed proposal without children. -/
def sampleBundleRecord : RebalanceBundleRecord where
  bundle :=
    { id := "b", proposalId := "p"
      snapshot := deriveRebalanceBundleSnapshot
        (RebalanceExecutionGraph.sampleBudgetGraph .failed [])
      resolutionState := .unresolved, latestResolutionActionId := none, resolutionSummary := none
      resolvedBy := none, resolvedAt := none, latestEscalationId := none
      escalationStatus := none, escalationOwnerId := none, escalationAssignedAt := none
      escalationDueAt := none, escalationSummary := none }
  escalations := []
  events := []
  resolutionActions := []
  nextId := 0

def sampleBundleRequest (now : Date) (kind : BundleRequestKind) : BundleRequest where
  kind
  actor := { actorId := "ops", actorRole := .operator, now }
  reading :=
    { graph := RebalanceExecutionGraph.sampleBudgetGraph .failed []
      recoveryCandidates := [], recoveryActionIds := [] }

/-- An escalation is closed, the bundle is marked as resolved and escalated again. -/
def sampleReopened : List BundleRequest :=
  [sampleBundleRequest 0 (.resolve .escalateBundleForReview "review"),
    sampleBundleRequest 1 (.escalation (.acknowledge (some "seen"))),
    sampleBundleRequest 2 (.escalation (.close "closed")),
    sampleBundleRequest 3 (.resolve .markBundleManuallyResolved "done"),
    sampleBundleRequest 4 (.resolve .escalateBundleForReview "again")]

/-- The new escalation is the one that is not resolved, and the run goes on with its close. -/
theorem run_escalations_sample :
    let record := sampleBundleRecord.run sampleReopened
    let further := [sampleBundleRequest 5 (.escalation (.close "closed again"))]
    record.escalations.map (fun escalation => escalation.status) = [.resolved, .open] ∧
      (record.run further).escalations.map (fun escalation => escalation.status) =
        [.resolved, .resolved] ∧
      (record.escalations.filter fun escalation => escalation.isOpen).length ≤ 1 ∧
      record.Forward (record.run further) ∧ record.Mirrors ∧
      (∀ escalation ∈ record.escalations,
        ChainsTo escalation.status none (record.eventsOf escalation.id)) ∧
      (∀ escalation ∈ record.escalations, escalation.status ≠ .resolved →
        record.bundle.resolutionState = .escalated ∨ record.DecidedSince escalation) ∧
      record.bundle.resolutionState = .escalated ∧ record.Closable ∧
      record.getRebalanceBundleEscalation = record.escalations.getLast? := by
  have huntouched : sampleBundleRecord.Untouched :=
    ⟨rfl, rfl, rfl, rfl, rfl, rfl, rfl, rfl⟩
  obtain ⟨hone, hforward, hmirrors, hchained, hdecided, hclosable, hlast⟩ :=
    run_escalations huntouched sampleReopened
      [sampleBundleRequest 5 (.escalation (.close "closed again"))]
  have hescalated : (sampleBundleRecord.run sampleReopened).bundle.resolutionState = .escalated := by
    decide +kernel
  refine ⟨by decide +kernel, by decide +kernel, hone, hforward, hmirrors, hchained, hdecided,
    hescalated, hclosable hescalated, hlast (by decide)⟩

/-- An escalated bundle is marked as resolved. -/
def sampleMarked : RebalanceBundleRecord :=
  sampleBundleRecord.run [sampleBundleRequest 0 (.resolve .escalateBundleForReview "review"),
    sampleBundleRequest 1 (.resolve .markBundleManuallyResolved "done")]

/-- Its escalation is open, and its owner cannot close it. -/
theorem run_escalations_marked :
    (¬ ∀ record : RebalanceBundleRecord, record.Untouched → ∀ requests,
      ∀ escalation ∈ (record.run requests).escalations, escalation.status ≠ .resolved →
        (record.run requests).bundle.resolutionState = .escalated) ∧
      ¬ ∀ record : RebalanceBundleRecord, record.Untouched → ∀ requests,
        (record.run requests).Closable := by
  have huntouched : sampleBundleRecord.Untouched :=
    ⟨rfl, rfl, rfl, rfl, rfl, rfl, rfl, rfl⟩
  constructor
  · intro hescalated
    have hstate := hescalated sampleBundleRecord huntouched
      [sampleBundleRequest 0 (.resolve .escalateBundleForReview "review"),
        sampleBundleRequest 1 (.resolve .markBundleManuallyResolved "done")]
    revert hstate
    decide +kernel
  · intro hclosable
    have hmarked : sampleMarked.Closable := hclosable sampleBundleRecord huntouched _
    cases hshown : sampleMarked.getRebalanceBundleEscalation with
    | none =>
      have hsome : sampleMarked.getRebalanceBundleEscalation.isSome = true := by decide +kernel
      rw [hshown] at hsome
      cases hsome
    | some shown =>
      have hopen : sampleMarked.getRebalanceBundleEscalation.map (fun shown => shown.status) =
        some .open := by decide +kernel
      have howner : sampleMarked.getRebalanceBundleEscalation.bind (fun shown => shown.ownerId) =
        some "ops" := by decide +kernel
      rw [hshown] at hopen howner
      have hopen : shown.status = .open := Option.some.inj hopen
      have howner : shown.ownerId = some "ops" := howner
      obtain ⟨owner, hown, hclose⟩ := hmarked shown hshown (by rw [hopen]; decide)
      rw [howner] at hown
      obtain ⟨closed, hclosed, -⟩ := hclose ⟨"ops", .operator, 2⟩ (Option.some.inj hown) rfl
        "closed" (by decide +kernel) ⟨RebalanceExecutionGraph.sampleBudgetGraph .failed [], [], []⟩
      have hrefused : (SentinelApex.operateEscalation
          ⟨RebalanceExecutionGraph.sampleBudgetGraph .failed [], [], []⟩ (.close "closed")
            ⟨"ops", .operator, 2⟩ sampleMarked).1.isOk = false := by decide +kernel
      rw [hclosed] at hrefused
      cases hrefused

end RebalanceBundleRecord

end SentinelApex
