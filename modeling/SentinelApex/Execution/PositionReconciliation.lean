import SentinelApex.Execution.Reconciler
import SentinelApex.Domain.Places
import SentinelApex.Lib.Rounds
import SentinelApex.Lib.Rows
import Mathlib.Data.List.Duplicate

/-!
# What the position reconciliation compares

Both lists are read into maps by asset, where the last position of an asset wins (`get?_byAsset`). A
reconciliation that reports nothing has compared these last positions (`legSize`): each side of each
asset agrees within the tolerance (`within_of_no_discrepancy`).
-/

namespace SentinelApex

open Async Rounds

variable {localPositions venuePositions positions : List VenuePosition} {asset : String}

namespace Reconciler

/-! ## The last position of an asset -/

theorem get?_byAsset (positions : List VenuePosition) (asset : String) :
    (byAsset positions).get? asset =
      Rows.find (fun pos => pos.asset) asset positions.reverse := by
  induction positions using List.reverseRecOn with
  | nil => rfl
  | append_singleton positions pos ih =>
    have hset : byAsset (positions ++ [pos]) = (byAsset positions).set pos.asset pos := by
      simp [byAsset, OrderedMap.ofList]
    rw [hset, OrderedMap.get?_set, ih, List.reverse_concat, Rows.find, Rows.find,
      List.find?_cons]
    by_cases h : pos.asset = asset
    · simp [h]
    · simp [h]

theorem nodup_reverse_assets (h : (positions.map fun pos => pos.asset).Nodup) :
    (positions.reverse.map fun pos => pos.asset).Nodup := by
  rw [List.map_reverse]
  exact List.nodup_reverse.2 h

theorem get?_byAsset_eq_some_iff (h : (positions.map fun pos => pos.asset).Nodup)
    {pos : VenuePosition} :
    (byAsset positions).get? asset = some pos ↔ pos ∈ positions ∧ pos.asset = asset := by
  rw [get?_byAsset]
  constructor
  · intro hfind
    exact ⟨List.mem_reverse.1 (Rows.mem_of_find hfind), Rows.key_of_find hfind⟩
  · rintro ⟨hmem, rfl⟩
    exact Rows.find_of_unique (nodup_reverse_assets h) (List.mem_reverse.2 hmem)

theorem get?_byAsset_perm {positions' : List VenuePosition}
    (h : (positions.map fun pos => pos.asset).Nodup) (hperm : positions'.Perm positions)
    (asset : String) : (byAsset positions').get? asset = (byAsset positions).get? asset := by
  have h' : (positions'.map fun pos => pos.asset).Nodup := (hperm.map _).nodup_iff.2 h
  refine Option.ext fun pos => ?_
  rw [get?_byAsset_eq_some_iff h', get?_byAsset_eq_some_iff h, hperm.mem_iff]

/-! ## The same maps in another order -/

variable {localByAsset venueByAsset : OrderedMap String VenuePosition}
  {localPositions' venuePositions' : List VenuePosition}

theorem checkLocal_congr {venueByAsset' : OrderedMap String VenuePosition}
    (h : ∀ asset, venueByAsset'.get? asset = venueByAsset.get? asset) :
    checkLocal venueByAsset' = checkLocal venueByAsset := by
  funext e
  rw [checkLocal, checkLocal, h]

theorem checkVenue_congr {localByAsset' : OrderedMap String VenuePosition}
    (h : ∀ asset, localByAsset'.get? asset = localByAsset.get? asset) :
    checkVenue localByAsset' = checkVenue localByAsset := by
  funext e
  rw [checkVenue, checkVenue, h]

theorem sameUpToOrder_positionDiscrepancies
    (hlocal : ∀ asset, (byAsset localPositions').get? asset = (byAsset localPositions).get? asset)
    (hvenue : ∀ asset, (byAsset venuePositions').get? asset = (byAsset venuePositions).get? asset) :
    SameUpToOrder (positionDiscrepancies localPositions' venuePositions')
      (positionDiscrepancies localPositions venuePositions) := by
  simp only [positionDiscrepancies]
  rw [checkLocal_congr hvenue, checkVenue_congr hlocal]
  exact (sameUpToOrder_mapM (OrderedMap.entries_perm_of_get?_eq hlocal)).flatten_append
    (sameUpToOrder_mapM (OrderedMap.entries_perm_of_get?_eq hvenue))

/-! ## A reconciliation that reports nothing -/

def WithinTolerance (localSize venueSize : Decimal) : Prop :=
  sizeDiff localSize venueSize ≤ positionSizeTolerance ∨
    relDiff localSize venueSize ≤ positionRelativeTolerance

theorem exceedsTolerance_eq_false_iff {localSize venueSize : Decimal} :
    exceedsTolerance localSize venueSize = false ↔ WithinTolerance localSize venueSize := by
  simp [exceedsTolerance, WithinTolerance, imp_iff_not_or]

theorem withinTolerance_self (size : Decimal) : WithinTolerance size size := by
  left
  rw [sizeDiff, Decimal.minus, sub_self, decimalJs.round_zero, abs_zero, positionSizeTolerance]
  norm_num

def legSize (pos : Option VenuePosition) (side : PositionSide) : Decimal :=
  match pos with
  | none => 0
  | some pos => if pos.side = side then pos.size.getD 0 else 0

theorem eq_zero_of_no_discrepancy {size : Decimal} {discrepancy : Discrepancy}
    (h : (pure (if size ≠ 0 then [discrepancy] else []) : Except String (List Discrepancy)) =
      .ok []) : size = 0 := by
  by_contra hne
  rw [if_pos hne] at h
  cases h

theorem within_of_checkLocal {localPos : VenuePosition}
    (h : checkLocal venueByAsset (asset, localPos) = .ok []) (side : PositionSide) :
    WithinTolerance (legSize (some localPos) side) (legSize (venueByAsset.get? asset) side) := by
  rw [checkLocal] at h
  cases hvenue : venueByAsset.get? asset with
  | none =>
    rw [hvenue] at h
    obtain ⟨size, hsize, hround⟩ := newDecimal_bind_ok h
    have hzero : size = 0 := eq_zero_of_no_discrepancy hround
    simpa [legSize, hsize, hzero] using withinTolerance_self 0
  | some venuePos =>
    rw [hvenue] at h
    obtain ⟨localSize, hlocal, h⟩ := newDecimal_bind_ok h
    obtain ⟨venueSize, hvenueSize, h⟩ := newDecimal_bind_ok h
    obtain ⟨entryPrice, -, h⟩ := newDecimal_bind_ok h
    split_ifs at h with hside hexceeds
    · cases h
    · cases h
    · have hsame : venuePos.side = localPos.side := (not_not.1 hside).symm
      rw [Bool.not_eq_true, exceedsTolerance_eq_false_iff] at hexceeds
      rw [legSize, legSize, hsame, hlocal, hvenueSize]
      split_ifs
      · exact hexceeds
      · exact withinTolerance_self 0

theorem within_of_checkVenue {venuePos : VenuePosition} (hlocal : localByAsset.get? asset = none)
    (h : checkVenue localByAsset (asset, venuePos) = .ok []) (side : PositionSide) :
    WithinTolerance 0 (legSize (some venuePos) side) := by
  rw [checkVenue, hlocal] at h
  obtain ⟨size, hsize, hround⟩ := newDecimal_bind_ok h
  have hzero : size = 0 := eq_zero_of_no_discrepancy hround
  simpa [legSize, hsize, hzero] using withinTolerance_self 0

theorem rounds_of_no_discrepancy (h : positionDiscrepancies localPositions venuePositions = .ok []) :
    (∀ e ∈ (byAsset localPositions).entries, checkLocal (byAsset venuePositions) e = .ok []) ∧
      ∀ e ∈ (byAsset venuePositions).entries, checkVenue (byAsset localPositions) e = .ok [] := by
  simp only [positionDiscrepancies] at h
  cases hfirst : (byAsset localPositions).entries.mapM (checkLocal (byAsset venuePositions)) with
  | error e => rw [hfirst] at h; cases h
  | ok ofLocal =>
    cases hsecond :
        (byAsset venuePositions).entries.mapM (checkVenue (byAsset localPositions)) with
    | error e => rw [hfirst, hsecond] at h; cases h
    | ok ofVenue =>
      rw [hfirst, hsecond] at h
      obtain ⟨hlocal, hvenue⟩ := List.append_eq_nil_iff.1 (Except.ok.inj h)
      constructor
      · intro e he
        obtain ⟨ds, hds, hround⟩ := exists_of_mem_left (mapM_eq_ok_iff.1 hfirst) he
        rw [hround, List.flatten_eq_nil_iff.1 hlocal ds hds]
      · intro e he
        obtain ⟨ds, hds, hround⟩ := exists_of_mem_left (mapM_eq_ok_iff.1 hsecond) he
        rw [hround, List.flatten_eq_nil_iff.1 hvenue ds hds]

theorem within_of_no_discrepancy (h : positionDiscrepancies localPositions venuePositions = .ok [])
    (asset : String) (side : PositionSide) :
    WithinTolerance (legSize ((byAsset localPositions).get? asset) side)
      (legSize ((byAsset venuePositions).get? asset) side) := by
  obtain ⟨hlocal, hvenue⟩ := rounds_of_no_discrepancy h
  cases hget : (byAsset localPositions).get? asset with
  | some localPos =>
    exact within_of_checkLocal (hlocal _ (OrderedMap.mem_entries_of_get? hget)) side
  | none =>
    cases hget' : (byAsset venuePositions).get? asset with
    | none => exact withinTolerance_self 0
    | some venuePos =>
      exact within_of_checkVenue hget (hvenue _ (OrderedMap.mem_entries_of_get? hget')) side

/-! ## Totals -/

def totalSize (positions : List VenuePosition) (asset : String) (side : PositionSide) : Decimal :=
  ((positions.filter fun pos => pos.asset = asset ∧ pos.side = side).map fun pos =>
    pos.size.getD 0).sum

theorem totalSize_eq_legSize (h : (positions.map fun pos => pos.asset).Nodup) (asset : String)
    (side : PositionSide) :
    totalSize positions asset side = legSize ((byAsset positions).get? asset) side := by
  have hfind : (byAsset positions).get? asset =
      Rows.find (fun pos => pos.asset) asset positions := by
    rw [← get?_byAsset_perm h (List.reverse_perm positions), get?_byAsset, List.reverse_reverse]
  have hfilter : (positions.filter fun pos => decide (pos.asset = asset ∧ pos.side = side)) =
      (Rows.find (fun pos => pos.asset) asset positions).toList.filter
        fun pos => decide (pos.side = side) := by
    rw [← Rows.filter_of_unique h, List.filter_filter]
    refine List.filter_congr fun pos _ => ?_
    rw [Bool.decide_and, Bool.and_comm]
  rw [totalSize, hfilter, hfind]
  cases Rows.find (fun pos => pos.asset) asset positions with
  | none => rfl
  | some pos =>
    by_cases hside : pos.side = side
    · simp [legSize, hside]
    · simp [legSize, hside]

/-! ## An overwritten position -/

def longPosition (asset : String) (size : Decimal) : VenuePosition where
  venueId := "recon-sim"
  asset
  side := .long
  size := some size
  entryPrice := some 1
  markPrice := some 1
  unrealizedPnl := some 0
  marginUsed := some 0
  liquidationPrice := none

def emptyPositions (assets : List String) : List VenuePosition :=
  assets.map fun asset => longPosition asset 0

/-- The position of size one is overwritten when its asset occurs again. -/
def overwritten (earlier : List String) (asset : String) (later : List String) :
    List VenuePosition :=
  emptyPositions earlier ++ longPosition asset 1 :: emptyPositions later

/-- The same positions, with the one of size one at the end. -/
def overwriting (earlier : List String) (asset : String) (later : List String) :
    List VenuePosition :=
  emptyPositions earlier ++ (emptyPositions later ++ [longPosition asset 1])

variable (assets : List String) (earlier : List String)

theorem overwriting_perm (asset : String) (later : List String) :
    (overwriting earlier asset later).Perm (overwritten earlier asset later) :=
  List.Perm.append_left _ (List.perm_append_singleton _ _)

theorem map_asset_emptyPositions :
    (emptyPositions assets).map (fun pos => pos.asset) = assets := by
  simp [emptyPositions, longPosition, Function.comp_def]

theorem map_asset_overwritten (asset : String) (later : List String) :
    (overwritten earlier asset later).map (fun pos => pos.asset) = earlier ++ asset :: later := by
  simp [overwritten, map_asset_emptyPositions, longPosition]

def AllEmpty (positions : List VenuePosition) : Prop :=
  ∀ asset pos, (byAsset positions).get? asset = some pos → pos = longPosition asset 0

theorem eq_of_find_emptyPositions {assets : List String} {pos : VenuePosition}
    (h : Rows.find (fun pos => pos.asset) asset (emptyPositions assets).reverse = some pos) :
    pos = longPosition asset 0 := by
  obtain ⟨asset', -, rfl⟩ :=
    List.mem_map.1 (List.mem_reverse.1 (Rows.mem_of_find h))
  have hkey : asset' = asset := Rows.key_of_find h
  rw [hkey]

theorem allEmpty_emptyPositions : AllEmpty (emptyPositions assets) := by
  intro asset pos h
  rw [get?_byAsset] at h
  exact eq_of_find_emptyPositions h

theorem allEmpty_overwritten {later : List String} (h : asset ∈ later) :
    AllEmpty (overwritten earlier asset later) := by
  intro asset' pos hget
  rw [get?_byAsset, overwritten, List.reverse_append, List.reverse_cons, List.append_assoc,
    Rows.find, List.find?_append] at hget
  cases hlater : Rows.find (fun pos => pos.asset) asset' (emptyPositions later).reverse with
  | some pos' =>
    rw [Rows.find] at hlater
    rw [hlater, Option.some_or] at hget
    obtain rfl := Option.some.inj hget
    exact eq_of_find_emptyPositions hlater
  | none =>
    have hne : asset ≠ asset' := by
      rintro rfl
      refine absurd (List.find?_eq_none.1 hlater (longPosition asset 0) ?_) (by simp [longPosition])
      exact List.mem_reverse.2 (List.mem_map.2 ⟨asset, h, rfl⟩)
    rw [Rows.find] at hlater
    have hskip : decide ((longPosition asset 1).asset = asset') = false := decide_eq_false hne
    rw [hlater, Option.none_or, List.singleton_append, List.find?_cons, hskip] at hget
    exact eq_of_find_emptyPositions hget

theorem get?_byAsset_overwriting (asset : String) (later : List String) :
    (byAsset (overwriting earlier asset later)).get? asset = some (longPosition asset 1) := by
  simp [get?_byAsset, overwriting, Rows.find, longPosition]

theorem positionDiscrepancies_of_allEmpty (hlocal : AllEmpty localPositions)
    (hvenue : AllEmpty venuePositions) :
    positionDiscrepancies localPositions venuePositions = .ok [] := by
  have hfirst : ∀ e ∈ (byAsset localPositions).entries,
      checkLocal (byAsset venuePositions) e = .ok [] := by
    rintro ⟨asset, pos⟩ he
    obtain rfl := hlocal asset pos (OrderedMap.get?_eq_some_iff.2 he)
    rw [checkLocal]
    cases hget : (byAsset venuePositions).get? asset with
    | none => rfl
    | some venuePos =>
      obtain rfl := hvenue asset venuePos hget
      have hwithin := exceedsTolerance_eq_false_iff.2 (withinTolerance_self 0)
      simp [longPosition, newDecimal, bind, Except.bind, pure, Except.pure, hwithin]
  have hsecond : ∀ e ∈ (byAsset venuePositions).entries,
      checkVenue (byAsset localPositions) e = .ok [] := by
    rintro ⟨asset, pos⟩ he
    obtain rfl := hvenue asset pos (OrderedMap.get?_eq_some_iff.2 he)
    rw [checkVenue]
    cases (byAsset localPositions).get? asset with
    | none | some _ => rfl
  simp only [positionDiscrepancies]
  rw [mapM_eq_ok_of_forall hfirst, mapM_eq_ok_of_forall hsecond]
  simp [bind, Except.bind, pure, Except.pure]

/-! ## The order of the lists -/

def reportPositions (venueId : String) (timestamp : Date) (w : ReconcilerWorld)
    (localPositions venuePositions : List VenuePosition) : Except String (List Discrepancy) :=
  (((reconcilePositions venueId localPositions timestamp).run reconcilerHandler
    { w with getPositions := .ok venuePositions }).1).map fun result => result.discrepancies

theorem reportPositions_eq (venueId : String) (timestamp : Date) (w : ReconcilerWorld)
    (localPositions venuePositions : List VenuePosition) :
    reportPositions venueId timestamp w localPositions venuePositions =
      positionDiscrepancies localPositions venuePositions := by
  rw [reportPositions, reconcilePositions, call, Task.run_call_bind]
  cases h : positionDiscrepancies localPositions venuePositions with
  | error e =>
    simp only [reconcilerHandler, h, Task.ofExcept, Task.fail_bind, Task.run_fail]
    rfl
  | ok discrepancies =>
    simp only [reconcilerHandler, h, Task.ofExcept, Task.done_bind, report, call,
      Task.run_call_bind]
    rfl

/-- The reconciliation depends on no order, and when it reports nothing the totals of each side of
each asset agree within the tolerance. -/
structure PositionsReconciled (venueId : String) (timestamp : Date) (w : ReconcilerWorld)
    (localPositions venuePositions : List VenuePosition) : Prop where
  orderFree : ∀ localPositions' venuePositions', localPositions'.Perm localPositions →
    venuePositions'.Perm venuePositions →
      SameUpToOrder (reportPositions venueId timestamp w localPositions' venuePositions')
        (reportPositions venueId timestamp w localPositions venuePositions)
  complete : reportPositions venueId timestamp w localPositions venuePositions = .ok [] →
    ∀ asset side, WithinTolerance (totalSize localPositions asset side)
      (totalSize venuePositions asset side)

/-- Two orders of the lists of which one reports nothing: the other compares sizes within the
tolerance. -/
theorem PositionsReconciled.within {venueId : String} {timestamp : Date} {w : ReconcilerWorld}
    (h : PositionsReconciled venueId timestamp w localPositions venuePositions)
    (hlocal : AllEmpty localPositions) (hvenue : AllEmpty venuePositions)
    (hlocal' : localPositions'.Perm localPositions) (hvenue' : venuePositions'.Perm venuePositions)
    (asset : String) :
    WithinTolerance (legSize ((byAsset localPositions').get? asset) .long)
      (legSize ((byAsset venuePositions').get? asset) .long) := by
  have horder := h.orderFree localPositions' venuePositions' hlocal' hvenue'
  rw [reportPositions_eq, reportPositions_eq,
    positionDiscrepancies_of_allEmpty hlocal hvenue] at horder
  cases hreport : positionDiscrepancies localPositions' venuePositions' with
  | error e =>
    rw [hreport] at horder
    exact False.elim horder
  | ok discrepancies =>
    rw [hreport] at horder
    rw [List.perm_nil.1 horder] at hreport
    exact within_of_no_discrepancy hreport asset .long

theorem AllEmpty.legSize_eq (h : AllEmpty positions) (asset : String) :
    legSize ((byAsset positions).get? asset) .long = 0 := by
  cases hget : (byAsset positions).get? asset with
  | none => rfl
  | some pos =>
    rw [h asset pos hget]
    rfl

instance (localSize venueSize : Decimal) : Decidable (WithinTolerance localSize venueSize) :=
  inferInstanceAs (Decidable (_ ∨ _))

theorem exists_split_of_not_nodup {assets : List String} (h : ¬ assets.Nodup) :
    ∃ earlier asset later, assets = earlier ++ asset :: later ∧ asset ∈ later := by
  obtain ⟨asset, hduplicate⟩ := List.exists_duplicate_iff_not_nodup.2 h
  induction hduplicate with
  | @cons_mem l hmem => exact ⟨[], asset, l, rfl, hmem⟩
  | @cons_duplicate y l hl ih =>
    obtain ⟨earlier, asset', later, hsplit, hmem⟩ := ih hl.not_nodup
    exact ⟨y :: earlier, asset', later, by rw [hsplit, List.cons_append], hmem⟩

/-- The positions of two lists of assets are reconciled, whatever their sides and sizes, if and only
if no asset occurs twice in a list. -/
theorem positions_reconciled_iff (venueId : String) (timestamp : Date) (w : ReconcilerWorld)
    (localAssets venueAssets : List String) :
    (∀ localPositions venuePositions,
      localPositions.map (fun pos => pos.asset) = localAssets →
      venuePositions.map (fun pos => pos.asset) = venueAssets →
        PositionsReconciled venueId timestamp w localPositions venuePositions) ↔
      localAssets.Nodup ∧ venueAssets.Nodup := by
  constructor
  · intro h
    constructor
    · by_contra hduplicate
      obtain ⟨earlier, asset, later, rfl, hmem⟩ := exists_split_of_not_nodup hduplicate
      have hwithin := (h (overwritten earlier asset later) (emptyPositions venueAssets)
        (map_asset_overwritten earlier asset later) (map_asset_emptyPositions venueAssets)).within
        (allEmpty_overwritten earlier hmem) (allEmpty_emptyPositions venueAssets)
        (overwriting_perm earlier asset later) (List.Perm.refl _) asset
      rw [get?_byAsset_overwriting, (allEmpty_emptyPositions venueAssets).legSize_eq] at hwithin
      exact absurd hwithin (by decide +kernel : ¬ WithinTolerance 1 0)
    · by_contra hduplicate
      obtain ⟨earlier, asset, later, rfl, hmem⟩ := exists_split_of_not_nodup hduplicate
      have hwithin := (h (emptyPositions localAssets) (overwritten earlier asset later)
        (map_asset_emptyPositions localAssets) (map_asset_overwritten earlier asset later)).within
        (allEmpty_emptyPositions localAssets) (allEmpty_overwritten earlier hmem)
        (List.Perm.refl _) (overwriting_perm earlier asset later) asset
      rw [get?_byAsset_overwriting, (allEmpty_emptyPositions localAssets).legSize_eq] at hwithin
      exact absurd hwithin (by decide +kernel : ¬ WithinTolerance 0 1)
  · rintro ⟨hlocalNodup, hvenueNodup⟩ localPositions venuePositions rfl rfl
    constructor
    · intro localPositions' venuePositions' hlocal hvenue
      rw [reportPositions_eq, reportPositions_eq]
      exact sameUpToOrder_positionDiscrepancies (get?_byAsset_perm hlocalNodup hlocal)
        (get?_byAsset_perm hvenueNodup hvenue)
    · intro hreport asset side
      rw [reportPositions_eq] at hreport
      rw [totalSize_eq_legSize hlocalNodup, totalSize_eq_legSize hvenueNodup]
      exact within_of_no_discrepancy hreport asset side

/-- The local book has a short leg beside the long one, the venue has not, and nothing is
reported. -/
theorem short_leg_not_compared :
    ¬ PositionsReconciled "recon-sim" 0
      { store := OrderedMap.empty, getOrder := fun _ => .ok none, getPositions := .ok [] }
      [{ longPosition "SOL" 3 with side := .short }, longPosition "SOL" 2]
      [longPosition "SOL" 2] := by
  intro h
  have hreport : positionDiscrepancies
      [{ longPosition "SOL" 3 with side := .short }, longPosition "SOL" 2]
      [longPosition "SOL" 2] = .ok [] := by decide +kernel
  have hwithin := h.complete (by rw [reportPositions_eq, hreport]) "SOL" .short
  exact absurd hwithin (by decide +kernel)

end Reconciler

end SentinelApex
