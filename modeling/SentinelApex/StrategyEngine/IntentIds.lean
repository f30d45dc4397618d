import SentinelApex.Execution.Placement
import SentinelApex.Lib.Separated
import SentinelApex.StrategyEngine.JointRisk

/-!
# Identity of intents

An intent id joins the opportunity's asset and type, the order side and the millisecond at which
the legs are built, and leaves out the venue. The id determines these four values
(`LegKey.intentId_injective`), so two intents of a cycle share an id exactly when their legs agree
in all four; the executor then takes the second for the first and places no order for it.
-/

namespace SentinelApex

open Async Separated

/-- After a dash, an integer is its digits after a last dash, with one more dash before it for the
minus sign. -/
theorem dash_cons_repr (k : ℤ) : ∃ (s : List Char) (d : ℕ),
    (s = [] ∧ k = d ∨ s = ['-'] ∧ k = -d) ∧
      '-' :: (Int.repr k).toList = s ++ '-' :: d.repr.toList := by
  cases k with
  | ofNat d => exact ⟨[], d, Or.inl ⟨rfl, rfl⟩, rfl⟩
  | negSucc d => exact ⟨['-'], d + 1, Or.inr ⟨rfl, rfl⟩, by simp [Int.repr]⟩

/-- A text that does not end in a dash can be told from the integer that follows it. -/
theorem append_dash_repr_inj (x₁ x₂ : List Char) {c₁ c₂ : Char} (hc₁ : c₁ ≠ '-') (hc₂ : c₂ ≠ '-')
    {m n : ℤ} (h : (x₁ ++ [c₁]) ++ '-' :: (Int.repr m).toList =
      (x₂ ++ [c₂]) ++ '-' :: (Int.repr n).toList) : x₁ ++ [c₁] = x₂ ++ [c₂] ∧ m = n := by
  obtain ⟨s₁, d₁, hs₁, hm⟩ := dash_cons_repr m
  obtain ⟨s₂, d₂, hs₂, hn⟩ := dash_cons_repr n
  rw [hm, hn, ← List.append_assoc, ← List.append_assoc] at h
  obtain ⟨hx, hd⟩ :=
    append_cons_inj_of_notMem_tails (notMem_natRepr rfl d₁) (notMem_natRepr rfl d₂) h
  have hd := natRepr_toList_inj hd
  rcases hs₁ with ⟨rfl, hm⟩ | ⟨rfl, hm⟩ <;> rcases hs₂ with ⟨rfl, hn⟩ | ⟨rfl, hn⟩
  · exact ⟨by simpa using hx, by omega⟩
  · -- One text would end in the other's minus sign.
    rw [List.append_nil] at hx
    exact absurd (List.append_inj' hx rfl).2 (by simpa using hc₁)
  · rw [List.append_nil (x₂ ++ [c₂])] at hx
    exact absurd (List.append_inj' hx rfl).2.symm (by simpa using hc₂)
  · exact ⟨(List.append_inj' hx rfl).1, by omega⟩

/-- The data of a leg that its id is made of. -/
structure LegKey where
  asset : String
  type : OpportunityType
  side : LegSide
  builtAt : Date
  deriving DecidableEq

def LegKey.intentId (k : LegKey) : String := buildIntentId k.asset k.type k.side k.builtAt

theorem OpportunityType.dash_notMem_text (type : OpportunityType) : '-' ∉ type.text.toList := by
  cases type <;> decide

theorem OpportunityType.text_injective : Function.Injective OpportunityType.text := by
  intro t t' h
  cases t <;> cases t' <;> first | rfl | exact absurd h (by decide)

theorem OrderSide.dash_notMem_text (side : OrderSide) : '-' ∉ side.text.toList := by
  cases side <;> decide

theorem LegSide.orderSide_text_injective :
    Function.Injective fun side : LegSide => side.orderSide.text := by
  intro s s' h
  cases s <;> cases s' <;> first | rfl | exact absurd h (by decide)

theorem OrderSide.text_eq_append (side : OrderSide) :
    ∃ (x : List Char) (c : Char), c ≠ '-' ∧ side.text.toList = x ++ [c] := by
  cases side with
  | buy => exact ⟨['b', 'u'], 'y', by decide, by decide⟩
  | sell => exact ⟨['s', 'e', 'l'], 'l', by decide, by decide⟩

theorem LegKey.toList_intentId (k : LegKey) :
    k.intentId.toList =
      (k.asset.toList ++ '-' :: k.type.text.toList ++ '-' :: k.side.orderSide.text.toList) ++
        '-' :: (Int.repr k.builtAt).toList := by
  simp [LegKey.intentId, buildIntentId, toString]

/-- An id determines asset, type, side and millisecond: only the asset may contain a dash, so the
other fields are read from the right. -/
theorem LegKey.intentId_injective : Function.Injective LegKey.intentId := by
  intro k k' h
  have hlist := congrArg String.toList h
  rw [toList_intentId, toList_intentId] at hlist
  obtain ⟨x, c, hc, hword⟩ := k.side.orderSide.text_eq_append
  obtain ⟨x', c', hc', hword'⟩ := k'.side.orderSide.text_eq_append
  have hfields :
      k.asset.toList ++ '-' :: k.type.text.toList ++ '-' :: k.side.orderSide.text.toList =
        k'.asset.toList ++ '-' :: k'.type.text.toList ++ '-' :: k'.side.orderSide.text.toList ∧
      k.builtAt = k'.builtAt := by
    rw [hword, hword'] at hlist ⊢
    have hinj := append_dash_repr_inj (k.asset.toList ++ '-' :: k.type.text.toList ++ '-' :: x)
      (k'.asset.toList ++ '-' :: k'.type.text.toList ++ '-' :: x') hc hc' (by simpa using hlist)
    simpa using hinj
  obtain ⟨hhead, hside⟩ := append_cons_inj_of_notMem_tails k.side.orderSide.dash_notMem_text
    k'.side.orderSide.dash_notMem_text hfields.1
  obtain ⟨hasset, htype⟩ := append_cons_inj_of_notMem_tails k.type.dash_notMem_text
    k'.type.dash_notMem_text hhead
  cases k
  cases k'
  simp only [LegKey.mk.injEq]
  exact ⟨String.toList_inj.1 hasset, OpportunityType.text_injective (String.toList_inj.1 htype),
    LegSide.orderSide_text_injective (String.toList_inj.1 hside), hfields.2⟩

def legKeys (allocations : List PortfolioCapitalAllocation) (builtAt : ℕ → Date) : List LegKey :=
  allocations.zipIdx.flatMap fun e => e.1.opportunity.legs.map fun leg =>
    { asset := e.1.opportunity.asset
      type := e.1.opportunity.type
      side := leg.side
      builtAt := builtAt e.2 }

theorem generateIntents_intentIds (pipeline : StrategyPipeline)
    (allocations : List PortfolioCapitalAllocation) (builtAt : ℕ → Date) :
    (pipeline.generateIntents allocations builtAt).map (fun intent => intent.intentId) =
      (legKeys allocations builtAt).map LegKey.intentId := by
  simp only [StrategyPipeline.generateIntents, legKeys, List.map_flatMap,
    buildIntentsFromOpportunity, List.map_map]
  rfl

/-- An intent given to the executor of its venue. -/
structure Submission where
  executor : OrderExecutor
  intent : OrderIntent
  clock : SubmitClock

def Submission.task (s : Submission) : ExecTask OrderRecord :=
  s.executor.submitIntent s.intent s.clock

def droppedIntents (env : Environment) : List Submission → World → List OrderIntent
  | [], _ => []
  | s :: rest, w =>
    let dropped := droppedIntents env rest (s.task.run (handle env reliable) w).2
    if (s.task.trace (handle env reliable) w).any (isPlacement s.intent.intentId) then dropped
    else s.intent :: dropped

def Call.WritesOnly (id : String) : Call → Prop
  | .save record => record.intent.intentId = id
  | .updateStatus id' _ _ => id' = id
  | _ => True

theorem Call.writesOnly_of_not_isWrite (id : String) (c : Call) (h : c.isWrite = false) :
    c.WritesOnly id := by
  cases c with
  | save record | updateStatus id' status updates => cases h
  | _ => trivial

theorem handle_get?_of_writesOnly {env : Environment} {faults : ℕ → Option StoreFault}
    {id id' : String} (hne : id ≠ id') {c : Call} (hc : c.WritesOnly id) (w : World) :
    (handle env faults c w).2.store.get? id' = w.store.get? id' := by
  cases c with
  | save record =>
    obtain rfl : record.intent.intentId = id := hc
    exact OrderedMap.get?_set_of_ne _ hne _
  | updateStatus id'' status updates =>
    obtain rfl : id'' = id := hc
    rcases handle_updateStatus_cases env faults id'' status updates w with
      ⟨-, hstore⟩ | ⟨existing, -, -, hstore⟩
    · rw [hstore]
    · rw [hstore, OrderedMap.get?_set_of_ne _ hne]
  | _ => rfl

namespace OrderExecutor

variable (executor : OrderExecutor) (intent : OrderIntent) (record : OrderRecord)
  (clock : SubmitClock)

theorem attemptSubmit_writesOnly (attempt : ℕ) :
    (executor.attemptSubmit intent record clock attempt).Uses
      (Call.WritesOnly intent.intentId) := by
  refine Task.Uses.call_bind rfl fun _ => ?_
  refine Task.Uses.call_bind trivial fun _ => ?_
  refine Task.Uses.call_bind rfl fun _ => ?_
  refine Task.Uses.call_bind trivial fun _ => ?_
  exact Task.Uses.call_bind trivial fun _ => trivial

theorem submitLoop_writesOnly (attempt retries : ℕ) :
    (executor.submitLoop intent record clock attempt retries).Uses
      (Call.WritesOnly intent.intentId) :=
  executor.submitLoop_uses (Call.writesOnly_of_not_isWrite intent.intentId)
    (executor.attemptSubmit_writesOnly intent record clock) (fun _ _ => rfl) attempt retries

variable (env : Environment) {w : World}

theorem submitIntent_get?_of_ne (hnew : w.store.get? intent.intentId = none) {id : String}
    (hne : intent.intentId ≠ id) :
    ((executor.submitIntent intent clock).run (handle env reliable) w).2.store.get? id =
      w.store.get? id := by
  have hread : (handle env reliable (.getByClientId intent.intentId) w).1 = .ok none :=
    congrArg Except.ok hnew
  rw [submitIntent, Task.run_call_bind, hread]
  -- From here on every write is under the intent's own id.
  have huses : (do
      call (.save (OrderRecord.create intent))
      executor.submitLoop intent (OrderRecord.create intent) clock 1 executor.config.maxRetries :
        ExecTask OrderRecord).Uses (Call.WritesOnly intent.intentId) :=
    Task.Uses.call_bind rfl fun _ => executor.submitLoop_writesOnly intent _ clock 1 _
  refine (Task.wp_sound (H := fun _ => True) (G := fun _ => True)
    (huses.wp (I := fun w' : World => w'.store.get? id = w.store.get? id)
      (fun c w' hc hw' => ⟨trivial, ?_⟩) ?_) fun _ _ => trivial).2
  · rw [handle_get?_of_writesOnly hne hc, hw']
  · rfl

theorem attemptSubmit_places (attempt : ℕ) {existing : OrderRecord}
    (hget : w.store.get? intent.intentId = some existing) (hpending : existing.status = .pending) :
    ((executor.attemptSubmit intent record clock attempt).trace (handle env reliable) w).any
      (isPlacement intent.intentId) = true := by
  have hupdate : ∀ updates, (handle env reliable (.updateStatus intent.intentId .submitted updates)
      w).1 = .ok () := by
    intro updates
    simp [handle, reliable, faultyUpdate, InMemoryOrderStore.updateStatus, hget, hpending,
      OrderStatus.isValidStatusTransition, OrderStatus.terminalOrderStatuses]
  rw [attemptSubmit, Task.trace_call_bind, hupdate]
  dsimp only
  rw [Task.trace_call_bind]
  simp [isPlacement, placeOrderParams]

theorem submitLoop_places (attempt retries : ℕ) {existing : OrderRecord}
    (hget : w.store.get? intent.intentId = some existing) (hpending : existing.status = .pending) :
    ((executor.submitLoop intent record clock attempt retries).trace (handle env reliable) w).any
      (isPlacement intent.intentId) = true := by
  have hattempt :=
    executor.attemptSubmit_places intent record clock env attempt hget hpending
  cases retries <;> rw [submitLoop, Task.trace_tryCatch, List.any_append, hattempt, Bool.true_or]

theorem submitIntent_places (hnew : w.store.get? intent.intentId = none) :
    ((executor.submitIntent intent clock).trace (handle env reliable) w).any
      (isPlacement intent.intentId) = true := by
  have hread : (handle env reliable (.getByClientId intent.intentId) w).1 = .ok none :=
    congrArg Except.ok hnew
  have hsaved : (handle env reliable (.save (OrderRecord.create intent))
      (handle env reliable (.getByClientId intent.intentId) w).2).2.store.get? intent.intentId =
        some (OrderRecord.create intent) := OrderedMap.get?_set_self _ _ _
  have hloop := executor.submitLoop_places intent (OrderRecord.create intent) clock env 1
    executor.config.maxRetries hsaved rfl
  rw [submitIntent, Task.trace_call_bind, hread]
  dsimp only
  rw [Task.trace_call_bind, List.any_cons, List.any_cons]
  simp only [Bool.or_eq_true]
  exact Or.inr (Or.inr hloop)

end OrderExecutor

theorem droppedIntents_eq_nil (env : Environment) {submissions : List Submission} {w : World}
    (hnodup : (submissions.map fun s => s.intent.intentId).Nodup)
    (hnew : ∀ s ∈ submissions, w.store.get? s.intent.intentId = none) :
    droppedIntents env submissions w = [] := by
  induction submissions generalizing w with
  | nil => rfl
  | cons s rest ih =>
    obtain ⟨hs, hrest⟩ := List.forall_mem_cons.1 hnew
    obtain ⟨hnotMem, hnodup'⟩ := List.nodup_cons.1 hnodup
    have hplaces := s.executor.submitIntent_places s.intent s.clock env hs
    have hlater : droppedIntents env rest (s.task.run (handle env reliable) w).2 = [] := by
      refine ih hnodup' fun s' hs' => ?_
      have hne : s.intent.intentId ≠ s'.intent.intentId := fun heq =>
        hnotMem (List.mem_map.2 ⟨s', hs', heq.symm⟩)
      exact (s.executor.submitIntent_get?_of_ne s.intent s.clock env hs hne).trans (hrest s' hs')
    rw [droppedIntents, hlater, Submission.task, hplaces]
    rfl

/-- The intents of a cycle have distinct ids, and none of them is dropped when some of them are
submitted to a store that knows none of their ids, exactly when no two legs of the cycle agree in
the opportunity's asset and type, in the side and in the millisecond at which they are built. -/
theorem intentIds_identify_orders_iff (pipeline : StrategyPipeline)
    (allocations : List PortfolioCapitalAllocation) (builtAt : ℕ → Date) :
    (((pipeline.generateIntents allocations builtAt).map fun intent => intent.intentId).Nodup ∧
      ∀ (env : Environment) (submissions : List Submission) (w : World),
        (submissions.map fun s => s.intent.intentId).Sublist
          ((pipeline.generateIntents allocations builtAt).map fun intent => intent.intentId) →
        (∀ s ∈ submissions, w.store.get? s.intent.intentId = none) →
        droppedIntents env submissions w = []) ↔
      (legKeys allocations builtAt).Nodup := by
  rw [generateIntents_intentIds, List.nodup_map_iff LegKey.intentId_injective]
  constructor
  · exact fun h => h.1
  · intro h
    refine ⟨h, fun env submissions w hsub hnew => ?_⟩
    exact droppedIntents_eq_nil env ((h.map LegKey.intentId_injective).sublist hsub) hnew

namespace StrategyPipeline

/-- The same funding-rate opportunity on two venues. -/
def twinCandidates : List CarryOpportunityCandidate :=
  [fundingOpportunity "venue-a", fundingOpportunity "venue-b"]

/-- A portfolio with room for both opportunities. -/
def twinState : PortfolioState :=
  { sampleState with
    grossExposure := 12000
    liquidityReserve := 80000
    venueExposures := OrderedMap.ofList [("venue-c", 6000), ("venue-d", 6000)]
    assetExposures := OrderedMap.ofList [("ETH", 6000), ("SOL", 6000)] }

/-- The intents given to the executors of their venues. -/
def submissionsOf (intents : List OrderIntent) : List Submission :=
  intents.map fun intent =>
    { executor := { sampleExecutor with venueId := intent.venueId }, intent, clock := stoppedClock }

/-- Both opportunities are selected and built in the same millisecond, and all four legs are
approved; the legs on the second venue have the ids of the first and are never placed. -/
theorem twin_opportunities_share_ids :
    (samplePipeline.planCycle twinCandidates twinState sampleClock).map (fun plan =>
      (plan.approvedIntents.map fun intent => (intent.intentId, intent.venueId),
        (droppedIntents (sampleEnvironment .submitted 0) (submissionsOf plan.approvedIntents)
          emptyWorld).map fun intent => (intent.intentId, intent.venueId))) =
      some ([("BTC-funding_rate_arb-sell-0", "venue-a"), ("BTC-funding_rate_arb-buy-0", "venue-a"),
          ("BTC-funding_rate_arb-sell-0", "venue-b"), ("BTC-funding_rate_arb-buy-0", "venue-b")],
        [("BTC-funding_rate_arb-sell-0", "venue-b"),
          ("BTC-funding_rate_arb-buy-0", "venue-b")]) := by
  decide +kernel

end StrategyPipeline

end SentinelApex
