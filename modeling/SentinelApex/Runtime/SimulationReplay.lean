import SentinelApex.Runtime.CumulativePnl
import SentinelApex.Runtime.CarryExecution
import SentinelApex.Lib.Rows
import SentinelApex.Lib.StableSort

/-!
# Restoring the simulated venues

At startup the runtime empties its simulated venues and replays into them the fills of the table
`fills`: the latest ones, up to a limit, in the order of their times.

The book of a venue, its balances and positions, is moved by fills alone (`applyFill_sameBook`), so
a venue is restored when the fills that it made are the rows that are replayed into it, in the same
order. `restored_sameBook` reduces a restart to that.
-/

namespace SentinelApex

/-- The most fills to replay, from the text of the setting; `none` is no limit. -/
def getSimulationReplayLimit (raw : Option String) : Option ℕ :=
  match raw with
  | none => some 1000
  | some raw =>
    if Json.trim raw = "" then some 1000
    else
      match Json.parseInt (Json.trim raw) with
      | none => some 1000
      | some parsed =>
        -- From `2 ^ 1024 - 2 ^ 970` on the parsed number is infinite.
        if parsed < 0 ∨ 2 ^ 1024 - 2 ^ 970 ≤ parsed then some 1000
        else if parsed = 0 then none else some parsed.toNat

/-- A row of the fill history as it is replayed. -/
def toReplay (fill : InternalDerivativeFillRecord) : ReplayFillParams where
  venueOrderId := fill.venueOrderId
  clientOrderId := fill.clientOrderId
  asset := fill.asset
  side := fill.side
  size := fill.size
  fillPrice := fill.price
  fee := fill.fee
  reduceOnly := fill.reduceOnly
  submittedAt := fill.filledAt
  marketIdentity := fill.marketIdentity

def replayFill (adapters : SimulatedAdapters) (fill : InternalDerivativeFillRecord) :
    SimulatedAdapters :=
  match adapters.get? fill.venueId with
  | none => adapters
  | some adapter => adapters.set fill.venueId (adapter.replayFilledOrder (toReplay fill))

def restoreAdaptersFromPersistence (replayLimit : Option String) (orders : RuntimeOrderStore)
    (adapters : SimulatedAdapters) : SimulatedAdapters :=
  if adapters.entries = [] then adapters
  else
    let fillHistory := orders.listFillHistoryForVenues
      (adapters.values.map fun adapter => adapter.config.venueId)
      ((getSimulationReplayLimit replayLimit).getD 0)
    fillHistory.foldl replayFill (adapters.mapValues SimulatedVenue.resetSimulationState)

/-- The venues that a new process builds from the same configuration. -/
def recreate (adapters : SimulatedAdapters) : SimulatedAdapters :=
  adapters.mapValues fun adapter => (SimulatedVenue.create adapter.config).connect

def restart (replayLimit : Option String) (orders : RuntimeOrderStore)
    (adapters : SimulatedAdapters) : SimulatedAdapters :=
  restoreAdaptersFromPersistence replayLimit orders (recreate adapters)

def replayInto (venueId : String) (rows : List InternalDerivativeFillRecord)
    (venue : SimulatedVenue) : SimulatedVenue :=
  rows.foldl (fun venue fill =>
    if fill.venueId = venueId then venue.replayFilledOrder (toReplay fill) else venue) venue

theorem replayFill_get? (adapters : SimulatedAdapters) (fill : InternalDerivativeFillRecord)
    (venueId : String) :
    (replayFill adapters fill).get? venueId =
      (adapters.get? venueId).map (replayInto venueId [fill]) := by
  unfold replayFill replayInto
  simp only [List.foldl_cons, List.foldl_nil]
  by_cases hvenue : fill.venueId = venueId
  · subst hvenue
    cases hget : adapters.get? fill.venueId with
    | none => simp [hget]
    | some adapter => simp
  · simp only [if_neg hvenue, Option.map_id']
    cases adapters.get? fill.venueId with
    | none => rfl
    | some adapter => exact adapters.get?_set_of_ne hvenue _

theorem foldl_replayFill_get? (rows : List InternalDerivativeFillRecord)
    (adapters : SimulatedAdapters) (venueId : String) :
    (rows.foldl replayFill adapters).get? venueId =
      (adapters.get? venueId).map (replayInto venueId rows) := by
  induction rows generalizing adapters with
  | nil =>
    simp only [List.foldl_nil]
    cases adapters.get? venueId <;> rfl
  | cons fill rows ih =>
    rw [List.foldl_cons, ih, replayFill_get?]
    cases adapters.get? venueId <;> rfl

theorem replayInto_sameBook {v w : SimulatedVenue} (h : SameBook v w) (venueId : String)
    (rows : List InternalDerivativeFillRecord) :
    SameBook (replayInto venueId rows v) (replayInto venueId rows w) := by
  induction rows generalizing v w with
  | nil => exact h
  | cons fill rows ih =>
    refine ih ?_
    dsimp only
    split_ifs
    · have hv := SimulatedVenue.replayFilledOrder_sameBook h (toReplay fill)
      have hw := SimulatedVenue.replayFilledOrder_sameBook (SameBook.refl w) (toReplay fill)
      exact hv.trans hw.symm
    · exact h

variable {venue : SimulatedVenue} {venueId : String} {adapters : SimulatedAdapters}

/-- Rows of other venues may be left out. -/
theorem replayInto_filter {p : InternalDerivativeFillRecord → Bool}
    (hp : ∀ fill, fill.venueId = venueId → p fill = true) (rows : List InternalDerivativeFillRecord)
    (venue : SimulatedVenue) :
    replayInto venueId (rows.filter p) venue = replayInto venueId rows venue := by
  unfold replayInto
  induction rows generalizing venue with
  | nil => rfl
  | cons fill rows ih =>
    by_cases hvenue : fill.venueId = venueId
    · simp only [List.filter_cons, hp fill hvenue, if_true, List.foldl_cons, hvenue, ih]
    · cases hfill : p fill with
      | true => simp only [List.filter_cons, hfill, if_true, List.foldl_cons, hvenue, ih]
      | false =>
        simp only [List.filter_cons, hfill, Bool.false_eq_true, if_false, List.foldl_cons, hvenue,
          ih]

/-- The fill came later, or was stored later when it came at the same time. -/
def Later (a b : FillRow) : Prop :=
  a.filledAt < b.filledAt ∨ a.filledAt = b.filledAt ∧ a.createdAt < b.createdAt

instance (a b : FillRow) : Decidable (Later a b) := inferInstanceAs (Decidable (_ ∨ _))

namespace RuntimeOrderStore

variable {store : RuntimeOrderStore}

/-- Every order has one row, and the fills are stored in the order of their times. -/
structure InOrder (store : RuntimeOrderStore) : Prop where
  unique : (store.orders.map fun row => row.clientOrderId).Nodup
  times : store.fills.Pairwise Later

theorem filter_of_unique (h : (store.orders.map fun row => row.clientOrderId).Nodup)
    (clientOrderId : String) :
    store.orders.filter (fun row => decide (clientOrderId = row.clientOrderId)) =
      (store.orderRow clientOrderId).toList := by
  have hfind : store.orders.filter (fun row => decide (row.clientOrderId = clientOrderId)) =
      (store.orderRow clientOrderId).toList := Rows.filter_of_unique h clientOrderId
  rw [← hfind]
  exact List.filter_congr fun row _ => decide_eq_decide.2 eq_comm

theorem fillsWithOrders_eq (h : store.InOrder) :
    store.fillsWithOrders = store.fills.flatMap fun fill =>
      ((store.orderRow fill.clientOrderId).toList.map fun order => (fill, order)) := by
  unfold fillsWithOrders
  refine List.flatMap_congr fun fill _ => ?_
  rw [filter_of_unique h.unique]

theorem not_fillBefore_of_later {a b : FillRow × OrderRow} (h : Later a.1 b.1) :
    ¬ fillBefore a b = true := by
  intro hbefore
  rcases of_decide_eq_true hbefore with hlt | ⟨heq, hle⟩
  · rcases h with h | ⟨h, -⟩
    · exact lt_asymm h hlt
    · exact absurd h (ne_of_gt hlt)
  · rcases h with h | ⟨-, h⟩
    · exact absurd heq (ne_of_gt h)
    · exact absurd hle (not_le_of_gt h)

theorem fillsWithOrders_pairwise (h : store.InOrder) :
    store.fillsWithOrders.Pairwise fun a b => ¬ fillBefore a b = true := by
  rw [fillsWithOrders_eq h, List.pairwise_flatMap]
  constructor
  · intro fill _
    cases store.orderRow fill.clientOrderId <;> simp
  · refine h.times.imp fun {a b} hlater x hx y hy => ?_
    obtain ⟨order, -, rfl⟩ := List.mem_map.1 hx
    obtain ⟨order', -, rfl⟩ := List.mem_map.1 hy
    exact not_fillBefore_of_later hlater

/-- Without a limit that cuts rows off, the history has the rows of the venues as they were
stored. -/
theorem listFillHistoryForVenues_eq (h : store.InOrder) (venueIds : List String) (limit : ℕ)
    (hlimit : limit = 0 ∨ (store.fillsWithOrders.filter fun row =>
      decide (venueIds = [] ∨ row.2.venueId ∈ venueIds)).length ≤ limit) :
    store.listFillHistoryForVenues venueIds limit =
      (store.fillsWithOrders.map historyRecord).filter fun fill =>
        decide (venueIds = [] ∨ fill.venueId ∈ venueIds) := by
  set rows := store.fillsWithOrders.filter fun row =>
    decide (venueIds = [] ∨ row.2.venueId ∈ venueIds) with hrows
  have hsort : rows.insertionSort (fun a b => fillBefore a b = true) = rows.reverse :=
    StableSort.insertionSort_of_pairwise_not ((fillsWithOrders_pairwise h).filter _)
  have htaken : (if 0 < limit then rows.reverse.take limit else rows.reverse) = rows.reverse := by
    rcases hlimit with rfl | hle
    · simp
    · split_ifs
      · exact List.take_of_length_le (by simpa using hle)
      · rfl
  have hmap : rows.map historyRecord = (store.fillsWithOrders.map historyRecord).filter
      fun fill => decide (venueIds = [] ∨ fill.venueId ∈ venueIds) := by
    rw [hrows, List.filter_map]
    rfl
  unfold listFillHistoryForVenues
  simp only [← hrows, hsort, htaken, List.reverse_reverse, hmap]

end RuntimeOrderStore

/-- Every venue is kept under its own id. -/
def Keyed (adapters : SimulatedAdapters) : Prop :=
  ∀ venueId venue, adapters.get? venueId = some venue → venue.config.venueId = venueId

def replayedRows (orders : RuntimeOrderStore) (adapters : SimulatedAdapters) :
    List (FillRow × OrderRow) :=
  orders.fillsWithOrders.filter fun row =>
    decide (row.2.venueId ∈ adapters.values.map fun adapter => adapter.config.venueId)

/-- The setting is no limit, or one that the rows to be replayed do not exceed. -/
def WithinLimit (replayLimit : Option String) (orders : RuntimeOrderStore)
    (adapters : SimulatedAdapters) : Prop :=
  ∀ limit ∈ getSimulationReplayLimit replayLimit, (replayedRows orders adapters).length ≤ limit

instance (replayLimit : Option String) (orders : RuntimeOrderStore)
    (adapters : SimulatedAdapters) : Decidable (WithinLimit replayLimit orders adapters) :=
  inferInstanceAs (Decidable (∀ limit ∈ _, _))

theorem mem_values_of_get? (h : adapters.get? venueId = some venue) :
    venue ∈ adapters.values :=
  List.mem_map_of_mem (OrderedMap.mem_entries_of_get? h)

theorem restart_get? {replayLimit : Option String} {orders : RuntimeOrderStore}
    (horder : orders.InOrder) (hkeyed : Keyed adapters)
    (hlimit : WithinLimit replayLimit orders adapters) (hvenue : adapters.get? venueId =
      some venue) :
    ∃ restored, (restart replayLimit orders adapters).get? venueId = some restored ∧
      SameBook restored (replayInto venueId
        (orders.fillsWithOrders.map RuntimeOrderStore.historyRecord)
        venue.resetSimulationState) := by
  set venueIds := adapters.values.map fun adapter => adapter.config.venueId
  have hmem : venueId ∈ venueIds := by
    rw [← hkeyed venueId venue hvenue]
    exact List.mem_map_of_mem (mem_values_of_get? hvenue)
  have hids : ((recreate adapters).values.map fun adapter => adapter.config.venueId) = venueIds := by
    simp [recreate, OrderedMap.mapValues, OrderedMap.values, venueIds, Function.comp_def,
      SimulatedVenue.connect, SimulatedVenue.create]
  have hnonempty : venueIds ≠ [] := List.ne_nil_of_mem hmem
  have hentries : (recreate adapters).entries ≠ [] := by
    intro hnil
    apply hnonempty
    rw [← hids, OrderedMap.values, hnil]
    rfl
  have hcut : (getSimulationReplayLimit replayLimit).getD 0 = 0 ∨
      (orders.fillsWithOrders.filter fun row =>
        decide (venueIds = [] ∨ row.2.venueId ∈ venueIds)).length ≤
          (getSimulationReplayLimit replayLimit).getD 0 := by
    cases hraw : getSimulationReplayLimit replayLimit with
    | none => exact Or.inl rfl
    | some limit =>
      right
      have hle := hlimit limit hraw
      simp only [hnonempty, false_or]
      exact hle
  unfold restart restoreAdaptersFromPersistence
  rw [if_neg hentries, hids, RuntimeOrderStore.listFillHistoryForVenues_eq horder _ _ hcut]
  dsimp only
  rw [foldl_replayFill_get?, OrderedMap.get?_mapValues, recreate, OrderedMap.get?_mapValues,
    hvenue]
  refine ⟨_, rfl, ?_⟩
  rw [replayInto_filter]
  · apply replayInto_sameBook
    exact ⟨rfl, rfl⟩
  · intro fill hfill
    rw [hfill]
    simp [hmem]

end SentinelApex
