import SentinelApex.Lib.StableSort
import SentinelApex.Runtime.Store

/-!
# The gate of critical mismatches

The planners of the carry and the allocator evaluation are told how many critical mismatches there
are. `runCarryEvaluation` counts the ones with status `open`; `runAllocatorEvaluation` takes the
twenty critical mismatches that were detected last and counts those that are not verified.
-/

namespace SentinelApex.Runtime

/-- The filters of `listMismatches`; a filter that is not given selects every row. -/
structure MismatchFilters where
  status : Option RuntimeMismatchStatus := none
  severity : Option String := none
  sourceKind : Option RuntimeMismatchSourceKind := none
  category : Option String := none

def MismatchFilters.selects (filters : MismatchFilters) (row : RuntimeMismatch) : Bool :=
  filters.status.all (fun status => decide (row.status = status)) &&
    filters.severity.all (fun severity => decide (row.severity = severity)) &&
    filters.sourceKind.all (fun sourceKind => decide (row.sourceKind = sourceKind)) &&
    filters.category.all (fun category => decide (row.category = category))

namespace Database

variable (db : Database)

/-- The rows that the filters select, the ones detected last first; rows that were detected at the
same time stay in the order of the table. -/
def listMismatches (limit : ℕ) (filters : MismatchFilters) : List RuntimeMismatch :=
  ((db.mismatches.filter filters.selects).insertionSort
    fun a b => b.lastDetectedAt ≤ a.lastDetectedAt).take limit

def countOpenMismatches (severity : Option String) : ℕ :=
  (db.mismatches.filter fun row =>
    decide (row.status = .opened) && severity.all fun s => decide (row.severity = s)).length

/-- The count that `runCarryEvaluation` hands to the carry execution planner. -/
def carryCriticalMismatchCount : ℕ := db.countOpenMismatches (some "critical")

/-- The count that `runAllocatorEvaluation` hands to the allocator and the rebalance planner. -/
def allocatorCriticalMismatchCount : ℕ :=
  ((db.listMismatches 20 { severity := some "critical" }).filter
    fun mismatch => decide (mismatch.status ≠ .verified)).length

/-- Some critical mismatch is neither resolved nor verified. -/
def Unsettled : Prop :=
  ∃ row ∈ db.mismatches, row.severity = "critical" ∧ row.status ≠ .resolved ∧ row.status ≠ .verified

/-- A critical mismatch that is not settled shows in both counts. -/
def Gated : Prop :=
  db.Unsettled → 0 < db.carryCriticalMismatchCount ∧ 0 < db.allocatorCriticalMismatchCount

theorem carryCriticalMismatchCount_pos_iff :
    0 < db.carryCriticalMismatchCount ↔
      ∃ row ∈ db.mismatches, row.severity = "critical" ∧ row.status = .opened := by
  simp only [carryCriticalMismatchCount, countOpenMismatches, List.length_pos_iff_exists_mem,
    List.mem_filter, Option.all_some, Bool.and_eq_true, decide_eq_true_eq]
  constructor
  · rintro ⟨row, hrow, hopened, hcritical⟩
    exact ⟨row, hrow, hcritical, hopened⟩
  · rintro ⟨row, hrow, hcritical, hopened⟩
    exact ⟨row, hrow, hopened, hcritical⟩

/-- Among the critical mismatches, fewer than `limit` verified ones come before some unverified one:
those detected later, and those detected at the same time that are stored before it. -/
def UnverifiedAmong (limit : ℕ) : Prop :=
  ∃ before row after, db.mismatches.filter (fun row => decide (row.severity = "critical")) =
      before ++ row :: after ∧ row.status ≠ .verified ∧
    before.countP (fun other => decide (other.status = .verified ∧
        row.lastDetectedAt ≤ other.lastDetectedAt)) +
      after.countP (fun other => decide (other.status = .verified ∧
        row.lastDetectedAt < other.lastDetectedAt)) < limit

theorem allocatorCriticalMismatchCount_pos_iff :
    0 < db.allocatorCriticalMismatchCount ↔ db.UnverifiedAmong 20 := by
  have : Std.Total fun a b : RuntimeMismatch => b.lastDetectedAt ≤ a.lastDetectedAt :=
    ⟨fun a b => le_total _ _⟩
  have : IsTrans RuntimeMismatch fun a b => b.lastDetectedAt ≤ a.lastDetectedAt :=
    ⟨fun a b c hab hbc => hbc.trans hab⟩
  have hselects : MismatchFilters.selects { severity := some "critical" } =
      fun row => decide (row.severity = "critical") := by
    funext row
    simp [MismatchFilters.selects]
  have htake : 0 < db.allocatorCriticalMismatchCount ↔
      ∃ row ∈ db.listMismatches 20 { severity := some "critical" }, ¬ row.status = .verified := by
    simp only [allocatorCriticalMismatchCount, List.length_pos_iff_exists_mem, List.mem_filter,
      decide_eq_true_eq, ne_eq]
  rw [htake, listMismatches, hselects]
  refine (StableSort.exists_mem_take_insertionSort_iff
    (fun row : RuntimeMismatch => row.status = .verified) _ _).trans ?_
  simp only [not_le, UnverifiedAmong, ne_eq]

/-- The gate holds exactly when, unless all critical mismatches are settled, some critical mismatch
is open, and fewer than twenty verified critical mismatches were detected after some unverified
one. -/
theorem gated_iff :
    db.Gated ↔ (db.Unsettled →
      (∃ row ∈ db.mismatches, row.severity = "critical" ∧ row.status = .opened) ∧
        db.UnverifiedAmong 20) := by
  rw [Gated, carryCriticalMismatchCount_pos_iff, allocatorCriticalMismatchCount_pos_iff]

end Database

def sampleCritical (id : String) (detectedAt : Date) : RuntimeMismatch :=
  MismatchInput.toRow
    { dedupeKey := id, category := "position", severity := "critical", sourceKind := none
      sourceComponent := "reconciliation", entityType := none, entityId := none
      summary := "", details := [], detectedAt }
    id detectedAt

def sampleMismatches (mismatches : List RuntimeMismatch) : Database :=
  { sampleQueue [] with mismatches }

/-- The only critical mismatch is acknowledged, and the carry count drops to zero; or it stays open
while twenty critical mismatches detected later are verified, and the allocator count is zero. -/
theorem critical_gate_passed :
    ¬ ((sampleMismatches [sampleCritical "a" 0]).updateMismatchById "a"
        { status := some .acknowledged } 1).Gated ∧
      ¬ (sampleMismatches (sampleCritical "a" 0 ::
        List.replicate 20 { sampleCritical "b" 1 with status := .verified })).Gated := by
  constructor
  · intro h
    have hunsettled : ((sampleMismatches [sampleCritical "a" 0]).updateMismatchById "a"
        { status := some .acknowledged } 1).Unsettled :=
      ⟨_, List.mem_cons_self, rfl, by decide, by decide⟩
    exact absurd (h hunsettled).1 (by decide)
  · intro h
    have hunsettled : (sampleMismatches (sampleCritical "a" 0 ::
        List.replicate 20 { sampleCritical "b" 1 with status := .verified })).Unsettled :=
      ⟨_, List.mem_cons_self, rfl, by decide, by decide⟩
    exact absurd (h hunsettled).2 (by decide)

end SentinelApex.Runtime
