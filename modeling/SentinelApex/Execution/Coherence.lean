import SentinelApex.Execution.Terminal

/-!
# Coherence of order records

A record is coherent when its `filledSize` covers the recorded fills and, once the order is filled,
the size of the intent. Three operations can break this, since each writes only a part of the
record: a placement answer replaces `filledSize` and the status, a polled answer only the status,
and a fill only the status and the list of fills.
-/

namespace SentinelApex

open Async OrderStatus

/-- The sum of the recorded fill sizes. -/
def fillsTotal (fills : List OrderFill) : Decimal := (fills.map fun fill => fill.filledSize).sum

structure OrderRecord.Coherent (record : OrderRecord) : Prop where
  filled : record.status = .filled → record.intent.size ≤ record.filledSize
  fills : fillsTotal record.fills ≤ record.filledSize

def CoherentStore (store : InMemoryOrderStore) : Prop :=
  ∀ id record, store.get? id = some record → record.Coherent

theorem coherentStore_empty : CoherentStore OrderedMap.empty := by
  intro id record h
  simp at h

variable {record : OrderRecord} {id : String}

theorem CoherentStore.set {store : InMemoryOrderStore} (h : CoherentStore store)
    (hrecord : record.Coherent) : CoherentStore (OrderedMap.set store id record) := by
  intro id' record' hget
  rw [OrderedMap.get?_set] at hget
  split_ifs at hget
  · cases hget
    exact hrecord
  · exact h id' record' hget

theorem OrderRecord.coherent_create (intent : OrderIntent) : (create intent).Coherent := by
  constructor
  · intro h
    cases h
  · exact le_rfl

/-! ## When an operation is covered -/

/-- A placement answer reports at least the recorded fills and, if it reports the order filled, at
least the size of the recorded intent. -/
def placementCovered : ExecEvent → Bool
  | ⟨w, .placeOrder params, .ok result, _⟩ =>
    (w.store.get? params.clientOrderId).all fun record =>
      decide (fillsTotal record.fills ≤ result.filledSize) &&
        decide (result.status = .filled → record.intent.size ≤ result.filledSize)
  | _ => true

/-- A polled answer reports the order filled only when the recorded `filledSize` has reached the
size. -/
def pollCovered (id : String) : ExecEvent → Bool
  | ⟨w, .getOrder _, .ok (some result), _⟩ =>
    (w.store.get? id).all fun record =>
      decide (result.status = .filled → record.intent.size ≤ record.filledSize)
  | _ => true

/-- A fill that an open order records fits into the recorded `filledSize`, and if it completes the
order, `filledSize` has reached the size. -/
def fillCovered (id : String) (fill : OrderFill) (w : World) : Bool :=
  (w.store.get? id).all fun record =>
    decide (record.status ∉ [submitted, partiallyFilled]) ||
    (record.fills.any fun existing => existing.fillId = fill.fillId) ||
    (decide (fillsTotal (record.fills ++ [fill]) ≤ record.filledSize) &&
      (!OrderExecutor.isFullyFilled (record.fills ++ [fill]) record.intent.size ||
        decide (record.intent.size ≤ record.filledSize)))

variable {result : PlaceOrderResult}

theorem placementCovered_sizes {w w' : World} {params : PlaceOrderParams}
    (h : placementCovered ⟨w, .placeOrder params, .ok result, w'⟩ = true)
    (hget : w.store.get? params.clientOrderId = some record) :
    fillsTotal record.fills ≤ result.filledSize ∧
      (result.status = .filled → record.intent.size ≤ result.filledSize) := by
  simp only [placementCovered, hget, Option.all_some, Bool.and_eq_true, decide_eq_true_eq] at h
  exact h

theorem pollCovered_size {id venueOrderId : String} {w w' : World}
    (h : pollCovered id ⟨w, .getOrder venueOrderId, .ok (some result), w'⟩ = true)
    (hresult : result.status = .filled) (hget : w.store.get? id = some record) :
    record.intent.size ≤ record.filledSize := by
  simp only [pollCovered, hget, Option.all_some, decide_eq_true_eq] at h
  exact h hresult

theorem fillCovered_sizes {fill : OrderFill} {w : World} (h : fillCovered id fill w = true)
    (hget : w.store.get? id = some record) (hopen : record.status ∈ [submitted, partiallyFilled])
    (hnew : ¬ (record.fills.any fun existing => existing.fillId = fill.fillId) = true) :
    fillsTotal (record.fills ++ [fill]) ≤ record.filledSize ∧
      (OrderExecutor.isFullyFilled (record.fills ++ [fill]) record.intent.size = true →
        record.intent.size ≤ record.filledSize) := by
  simp only [fillCovered, hget, Option.all_some, hopen, not_true, decide_false, hnew,
    Bool.false_or, Bool.and_eq_true, Bool.or_eq_true, Bool.not_eq_true', decide_eq_true_eq] at h
  refine ⟨h.1, fun hfull => ?_⟩
  rcases h.2 with hnot | hsize
  · rw [hfull] at hnot
    cases hnot
  · exact hsize

namespace OrderExecutor

variable (executor : OrderExecutor) (env : Environment)

def operationCovered (operation : Operation) (w : World) : Bool :=
  match operation with
  | .submitIntent intent clock =>
    ((executor.submitIntent intent clock).trace (handle env reliable) w).all placementCovered
  | .pollOrderStatus id now =>
    ((pollOrderStatus id now).trace (handle env reliable) w).all (pollCovered id)
  | .processFill id fill _ => fillCovered id fill w
  | .cancelOrder _ _ => true

def sessionCovered : List Operation → World → Bool
  | [], _ => true
  | operation :: operations, w =>
    executor.operationCovered env operation w &&
      sessionCovered operations ((executor.task operation).run (handle env reliable) w).2

end OrderExecutor

/-! ## Updates -/

variable {updates : OrderUpdates} {status : OrderStatus}

section

variable {env : Environment}

theorem coherentStore_updateStatus {w : World} (hw : CoherentStore w.store)
    (hmerge : ∀ existing, w.store.get? id = some existing →
      existing.status.isValidStatusTransition status = true →
        (existing.merge status updates).Coherent) :
    CoherentStore (handle env reliable (.updateStatus id status updates) w).2.store := by
  rcases handle_updateStatus_cases env reliable id status updates w with
    ⟨-, hstore⟩ | ⟨existing, hget, hvalid, hstore⟩
  · rwa [hstore]
  · rw [hstore]
    exact hw.set (hmerge existing hget hvalid)

/-- An update that writes neither the sizes nor the status `filled`. -/
structure OrderUpdates.Plain (updates : OrderUpdates) (status : OrderStatus) : Prop where
  status : status ≠ .filled
  intent : updates.intent = none
  filledSize : updates.filledSize = none
  fills : updates.fills = none

theorem OrderRecord.Coherent.merge (h : record.Coherent) (hupdates : updates.Plain status) :
    (record.merge status updates).Coherent := by
  refine ⟨fun hfilled => absurd hfilled hupdates.status, ?_⟩
  simpa [OrderRecord.merge, hupdates.fills, hupdates.filledSize] using h.fills

/-- The call is not a `save`, and its update is plain. -/
def Call.KeepsCoherent : Call → Prop
  | .save _ => False
  | .updateStatus _ status updates => updates.Plain status
  | _ => True

theorem Call.keepsCoherent_of_not_isWrite (c : Call) (h : c.isWrite = false) :
    c.KeepsCoherent := by
  cases c with
  | save record | updateStatus id status updates => cases h
  | _ => trivial

theorem coherentStore_of_keepsCoherent (c : Call) (w : World) (hc : c.KeepsCoherent)
    (hw : CoherentStore w.store) : CoherentStore (handle env reliable c w).2.store := by
  cases c with
  | save record => exact absurd hc not_false
  | updateStatus id status updates =>
    exact coherentStore_updateStatus hw fun existing hget _ => (hw id existing hget).merge hc
  | _ => exact hw

end

/-! ## The operations -/

variable {intent : OrderIntent} {size : Decimal}

namespace OrderExecutor

variable (executor : OrderExecutor) {env : Environment}

/-- As long as the events satisfy `H`, every store on the way is coherent. -/
abbrev CoherentWp (env : Environment) (H : ExecEvent → Prop) (t : ExecTask OrderRecord)
    (w : World) : Prop :=
  t.wp (handle env reliable) H (fun e => CoherentStore e.after.store)
    (fun _ w' => CoherentStore w'.store) w

variable {H : ExecEvent → Prop} {w : World}

theorem coherentWp_of_keepsCoherent {t : ExecTask OrderRecord} (ht : t.Uses Call.KeepsCoherent)
    (hw : CoherentStore w.store) : CoherentWp env H t w :=
  ht.wp (I := fun w => CoherentStore w.store)
    (fun c w' hc hw' => ⟨coherentStore_of_keepsCoherent c w' hc hw',
      coherentStore_of_keepsCoherent c w' hc hw'⟩) hw

theorem CoherentWp.call_bind {c : Call} {f : c.Reply → ExecTask OrderRecord}
    (hc : H ⟨w, c, (handle env reliable c w).1, (handle env reliable c w).2⟩ →
      CoherentStore (handle env reliable c w).2.store)
    (hf : H ⟨w, c, (handle env reliable c w).1, (handle env reliable c w).2⟩ →
      CoherentStore (handle env reliable c w).2.store →
      ∀ a, (handle env reliable c w).1 = .ok a →
        CoherentWp env H (f a) (handle env reliable c w).2) :
    CoherentWp env H (Task.call c >>= f) w :=
  Task.wp_call_bind hc (fun hH => hf hH (hc hH)) fun hH _ _ => hc hH

theorem coherentWp_updateStatus {f : Unit → ExecTask OrderRecord} (hw : CoherentStore w.store)
    (hget : w.store.get? id = some record)
    (hmerge : record.status.isValidStatusTransition status = true →
      (record.merge status updates).Coherent) (hf : (f ()).Uses Call.KeepsCoherent) :
    CoherentWp env H (call (.updateStatus id status updates) >>= f) w := by
  refine CoherentWp.call_bind (fun _ => ?_) fun _ hafter _ _ =>
    coherentWp_of_keepsCoherent hf hafter
  refine coherentStore_updateStatus hw fun existing hex hvalid => ?_
  obtain rfl : record = existing := Option.some.inj (hget.symm.trans hex)
  exact hmerge hvalid

theorem pollOrderStatus_coherentWp (id : String) (now : Date) (hw : CoherentStore w.store) :
    CoherentWp env (fun e => pollCovered id e = true) (pollOrderStatus id now) w := by
  refine CoherentWp.call_bind (fun _ => hw) fun _ _ record hr => ?_
  have hget : w.store.get? id = record := Except.ok.inj hr
  cases record with
  | none => exact hw
  | some record =>
    dsimp only
    cases record.venueOrderId with
    | none => exact hw
    | some venueOrderId =>
      refine CoherentWp.call_bind (fun _ => hw) fun hcov _ venueResult hr' => ?_
      rw [hr'] at hcov
      cases venueResult with
      | none => exact hw
      | some result =>
        refine coherentWp_updateStatus hw hget (fun _ => ⟨fun hfilled => ?_, ?_⟩)
          (Task.Uses.call_bind trivial fun _ => trivial)
        · replace hfilled : polledStatus record.status result.status = .filled := hfilled
          cases hs : result.status with
          | filled =>
            have hsize : record.intent.size ≤ record.filledSize := pollCovered_size hcov hs hget
            exact hsize
          | submitted =>
            rw [hs] at hfilled
            exact (hw id record hget).filled hfilled
          | _ => simp [polledStatus, hs] at hfilled
        · exact (hw id record hget).fills

theorem cancelOrder_keepsCoherent (id : String) (now : Date) :
    (cancelOrder id now).Uses Call.KeepsCoherent :=
  cancelOrder_uses Call.keepsCoherent_of_not_isWrite ⟨by decide, rfl, rfl, rfl⟩

/-- Of the orders whose fills are not ignored, only submitted and partially filled ones can take
the status that a fill gives them. -/
theorem open_of_filledStatus {source : OrderStatus} {fills : List OrderFill}
    (hopen : source ∉ [filled, cancelled, failed])
    (hvalid : source.isValidStatusTransition (filledStatus fills size) = true) :
    source ∈ [submitted, partiallyFilled] := by
  have htarget :
      filledStatus fills size = .filled ∨ filledStatus fills size = .partiallyFilled := by
    unfold filledStatus
    split_ifs
    · exact Or.inl rfl
    · exact Or.inr rfl
  revert hopen hvalid
  rcases htarget with h | h <;> rw [h] <;> cases source <;> decide

theorem processFill_coherentWp {fill : OrderFill} (now : Date) (hw : CoherentStore w.store)
    (hcov : fillCovered id fill w = true) : CoherentWp env H (processFill id fill now) w := by
  refine CoherentWp.call_bind (fun _ => hw) fun _ _ record hr => ?_
  have hget : w.store.get? id = record := Except.ok.inj hr
  cases record with
  | none => exact hw
  | some record =>
    dsimp only
    split
    · exact hw
    split
    · exact hw
    rename_i hopen hnew
    refine coherentWp_updateStatus hw hget (fun hvalid => ?_)
      (Task.Uses.call_bind trivial fun _ => Task.Uses.call_bind trivial fun _ => trivial)
    obtain ⟨htotal, hfull⟩ :=
      fillCovered_sizes hcov hget (open_of_filledStatus hopen hvalid) hnew
    refine ⟨fun hfilled => hfull ?_, htotal⟩
    by_contra hne
    replace hfilled : filledStatus (record.fills ++ [fill]) record.intent.size = .filled := hfilled
    simp [filledStatus, hne] at hfilled

/-! ## submitIntent -/

def StoredSize (id : String) (size : Decimal) (store : InMemoryOrderStore) : Prop :=
  ∃ record, store.get? id = some record ∧ record.intent.size = size

theorem storedSize_updateStatus (hw : StoredSize id size w.store)
    (hintent : ∀ intent, updates.intent = some intent → intent.size = size) :
    StoredSize id size (handle env reliable (.updateStatus id status updates) w).2.store := by
  rcases handle_updateStatus_cases env reliable id status updates w with
    ⟨-, hstore⟩ | ⟨existing, hget, -, hstore⟩
  · rwa [hstore]
  · rw [hstore]
    refine ⟨_, OrderedMap.get?_set_self _ _ _, ?_⟩
    obtain ⟨record, hget', hsize⟩ := hw
    obtain rfl : existing = record := Option.some.inj (hget.symm.trans hget')
    cases hi : updates.intent with
    | none => simpa [OrderRecord.merge, hi] using hsize
    | some intent => simpa [OrderRecord.merge, hi] using hintent intent hi

/-- What the retry loop keeps: coherent records, and the order with the size of its intent. -/
def LoopInvariant (id : String) (size : Decimal) (w : World) : Prop :=
  CoherentStore w.store ∧ StoredSize id size w.store

abbrev LoopWp (env : Environment) (id : String) (size : Decimal) (t : ExecTask OrderRecord)
    (w : World) : Prop :=
  t.wp (handle env reliable) (fun e => placementCovered e = true)
    (fun e => CoherentStore e.after.store) (fun _ => LoopInvariant id size) w

theorem LoopWp.call_bind {c : Call} {f : c.Reply → ExecTask OrderRecord}
    (hc : LoopInvariant id size (handle env reliable c w).2)
    (hf : placementCovered ⟨w, c, (handle env reliable c w).1, (handle env reliable c w).2⟩ = true →
      ∀ a, (handle env reliable c w).1 = .ok a → LoopWp env id size (f a)
        (handle env reliable c w).2) : LoopWp env id size (Task.call c >>= f) w :=
  Task.wp_call_bind (fun _ => hc.1) hf fun _ _ _ => hc

theorem loopInvariant_plain (env : Environment) (hupdates : updates.Plain status)
    (hw : LoopInvariant id size w) :
    LoopInvariant id size (handle env reliable (.updateStatus id status updates) w).2 := by
  refine ⟨coherentStore_of_keepsCoherent _ w hupdates hw.1, storedSize_updateStatus hw.2 ?_⟩
  intro intent hintent
  rw [hupdates.intent] at hintent
  cases hintent

variable (clock : SubmitClock)

theorem recordPlacement_loopWp (attempt : ℕ)
    (hw : LoopInvariant intent.intentId record.intent.size w)
    (hcov : ∀ stored, w.store.get? intent.intentId = some stored →
      fillsTotal stored.fills ≤ result.filledSize ∧ (result.status = .filled →
      stored.intent.size ≤ result.filledSize)) :
    LoopWp env intent.intentId record.intent.size
      (executor.recordPlacement intent record clock attempt result) w := by
  have hafter : LoopInvariant intent.intentId record.intent.size
      (handle env reliable (.updateStatus intent.intentId (placedStatus result.status)
        (executor.placedUpdates record (runtimeOrderIdentity record.intent) result
          (clock.completedAt attempt))) w).2 := by
    refine ⟨coherentStore_updateStatus hw.1 fun stored hget _ => ?_,
      storedSize_updateStatus hw.2 fun i hi => ?_⟩
    · obtain ⟨htotal, hfilled⟩ := hcov stored hget
      refine ⟨fun hs => ?_, htotal⟩
      obtain ⟨stored', hget', hsize⟩ := hw.2
      obtain rfl : stored = stored' := Option.some.inj (hget.symm.trans hget')
      have hresult : result.status = .filled := by
        cases hr : result.status with
        | filled => rfl
        | _ => simp [OrderRecord.merge, placedStatus, hr] at hs
      calc record.intent.size = stored.intent.size := hsize.symm
        _ ≤ result.filledSize := hfilled hresult
    · obtain rfl := Option.some.inj hi
      rfl
  refine LoopWp.call_bind hafter fun _ _ _ => ?_
  refine LoopWp.call_bind hafter fun _ _ _ => ?_
  exact LoopWp.call_bind hafter fun _ _ _ => hafter

theorem attemptSubmit_loopWp (attempt : ℕ) (hw : LoopInvariant intent.intentId record.intent.size w) :
    LoopWp env intent.intentId record.intent.size
      (executor.attemptSubmit intent record clock attempt) w := by
  have hplain : OrderUpdates.Plain
      { submittedAt := some (some (clock.submittedAt attempt)), attemptCount := some attempt }
      .submitted := ⟨by decide, rfl, rfl, rfl⟩
  have hafter := loopInvariant_plain env hplain hw
  refine LoopWp.call_bind hafter fun _ _ _ => ?_
  refine LoopWp.call_bind hafter fun hcov result hr => ?_
  rw [hr] at hcov
  exact executor.recordPlacement_loopWp clock attempt hafter fun stored hget =>
    placementCovered_sizes hcov hget

theorem failedUpdates_plain (lastError : String) (failedAt : Date) : OrderUpdates.Plain
    { lastError := some (some lastError), completedAt := some (some failedAt) } .failed :=
  ⟨by decide, rfl, rfl, rfl⟩

theorem submitLoop_loopWp (attempt retries : ℕ)
    (hw : LoopInvariant intent.intentId record.intent.size w) :
    LoopWp env intent.intentId record.intent.size
      (executor.submitLoop intent record clock attempt retries) w := by
  induction retries generalizing attempt w
  all_goals
    unfold submitLoop
    refine Task.wp_tryCatch (executor.attemptSubmit_loopWp clock attempt hw) (fun _ _ h => h)
      fun lastError w' hw' => ?_
    have hafter :=
      loopInvariant_plain env (failedUpdates_plain lastError (clock.failedAt attempt)) hw'
    refine LoopWp.call_bind hafter fun _ _ _ => ?_
  case zero => exact LoopWp.call_bind hafter fun _ _ _ => hafter
  case succ retries ih _ _ _ => exact LoopWp.call_bind hafter fun _ _ _ => ih _ hafter

theorem save_loopWp (hid : record.intent.intentId = intent.intentId) (hrecord : record.Coherent)
    (clock : SubmitClock) (hw : CoherentStore w.store) :
    LoopWp env intent.intentId record.intent.size (do
      call (.save record)
      executor.submitLoop intent record clock 1 executor.config.maxRetries) w := by
  have hafter : LoopInvariant intent.intentId record.intent.size
      (handle env reliable (.save record) w).2 := by
    refine ⟨hw.set hrecord, record, ?_, rfl⟩
    show (OrderedMap.set w.store record.intent.intentId record).get? intent.intentId = _
    rw [hid, OrderedMap.get?_set_self]
  exact LoopWp.call_bind hafter fun _ _ _ => executor.submitLoop_loopWp clock _ _ hafter

theorem submitIntent_coherentWp (intent : OrderIntent) (clock : SubmitClock)
    (hkeyed : w.store.Keyed) (hw : CoherentStore w.store) :
    CoherentWp env (fun e => placementCovered e = true) (executor.submitIntent intent clock) w := by
  refine CoherentWp.call_bind (fun _ => hw) fun _ _ existing hr => ?_
  have hget : w.store.get? intent.intentId = existing := Except.ok.inj hr
  cases existing with
  | none =>
    exact Task.wp_mono (executor.save_loopWp rfl (OrderRecord.coherent_create intent) clock hw)
      fun _ _ h => h.1
  | some record =>
    by_cases hskip : record.status ≠ .pending ∧ record.status ≠ .failed
    · simp only [if_pos hskip]
      exact hw
    · simp only [if_neg hskip]
      exact Task.wp_mono (executor.save_loopWp (hkeyed _ _ hget) (hw _ _ hget) clock hw)
        fun _ _ h => h.1

/-! ## Sessions -/

theorem task_coherent (operation : Operation) (hkeyed : w.store.Keyed)
    (hw : CoherentStore w.store) (hcov : executor.operationCovered env operation w = true) :
    (∀ e ∈ (executor.task operation).trace (handle env reliable) w,
        CoherentStore e.after.store) ∧
      CoherentStore ((executor.task operation).run (handle env reliable) w).2.store := by
  cases operation with
  | submitIntent intent clock =>
    exact Task.wp_sound (executor.submitIntent_coherentWp intent clock hkeyed hw)
      (List.all_eq_true.1 hcov)
  | pollOrderStatus id now =>
    exact Task.wp_sound (pollOrderStatus_coherentWp id now hw) (List.all_eq_true.1 hcov)
  | cancelOrder id now =>
    exact Task.wp_sound (H := fun _ => True)
      (coherentWp_of_keepsCoherent (cancelOrder_keepsCoherent id now) hw) fun _ _ => trivial
  | processFill id fill now =>
    exact Task.wp_sound (H := fun _ => True) (processFill_coherentWp now hw hcov)
      fun _ _ => trivial

/-- In every session whose operations are covered, whatever the venue answers, every record of
every reached store is coherent. -/
theorem session_coherent (env : Environment) (operations : List Operation) (w : World)
    (hkeyed : w.store.Keyed) (hw : CoherentStore w.store)
    (hcov : executor.sessionCovered env operations w = true) :
    ∀ e ∈ executor.session env reliable operations w, CoherentStore e.after.store := by
  induction operations generalizing w with
  | nil => simp [session, traceAll]
  | cons operation operations ih =>
    obtain ⟨hop, hrest⟩ := (Bool.and_eq_true_iff).1 hcov
    obtain ⟨hevents, hfinal⟩ := executor.task_coherent operation hkeyed hw hop
    have hkeyed' := (Task.wp_sound (executor.task_terminalWp env operation hkeyed)
      fun _ _ => trivial).2
    intro e he
    rcases List.mem_append.1 he with he | he
    · exact hevents e he
    · exact ih _ hkeyed' hfinal hrest e he

def coherentAt (id : String) (e : ExecEvent) : Bool :=
  (e.after.store.get? id).all fun record =>
    decide (record.status = .filled → record.intent.size ≤ record.filledSize) &&
      decide (fillsTotal record.fills ≤ record.filledSize)

theorem coherentAt_of_coherentStore {e : ExecEvent} (h : CoherentStore e.after.store)
    (id : String) : coherentAt id e = true := by
  unfold coherentAt
  cases hget : e.after.store.get? id with
  | none => rfl
  | some record =>
    obtain ⟨hfilled, hfills⟩ := h id record hget
    simp only [Option.all_some, Bool.and_eq_true, decide_eq_true_eq]
    exact ⟨hfilled, hfills⟩

def sampleFill : OrderFill where
  fillId := "fill-1"
  orderId := "venue-order-1"
  filledSize := 2
  fillPrice := 100
  fee := 0
  feeAsset := "USDC"
  filledAt := 0

/-- An accepted order whose whole size arrives as a fill: the record is `filled` with a
`filledSize` of zero. -/
theorem fill_breaks_coherence :
    ¬ ∀ e ∈ sampleExecutor.session (sampleEnvironment .submitted 0) reliable
      [.submitIntent sampleIntent stoppedClock, .processFill "order-1" sampleFill 0] emptyWorld,
        CoherentStore e.after.store := by
  intro h
  have hall : (sampleExecutor.session (sampleEnvironment .submitted 0) reliable
      [.submitIntent sampleIntent stoppedClock, .processFill "order-1" sampleFill 0]
      emptyWorld).all (coherentAt "order-1") = true :=
    List.all_eq_true.2 fun e he => coherentAt_of_coherentStore (h e he) "order-1"
  revert hall
  decide +kernel

/-- A placement that the venue reports filled with its whole size, polled afterwards. -/
theorem session_coherent_filled_order :
    (statusHistory "order-1" (sampleExecutor.session (sampleEnvironment .filled 2) reliable
      [.submitIntent sampleIntent stoppedClock, .pollOrderStatus "order-1" 0]
      emptyWorld)).getLast? = some (some .filled) ∧
    ∀ e ∈ sampleExecutor.session (sampleEnvironment .filled 2) reliable
      [.submitIntent sampleIntent stoppedClock, .pollOrderStatus "order-1" 0] emptyWorld,
        CoherentStore e.after.store :=
  ⟨by decide +kernel, sampleExecutor.session_coherent (sampleEnvironment .filled 2)
    [.submitIntent sampleIntent stoppedClock, .pollOrderStatus "order-1" 0] emptyWorld
    InMemoryOrderStore.keyed_empty coherentStore_empty (by decide +kernel)⟩

end OrderExecutor

end SentinelApex
