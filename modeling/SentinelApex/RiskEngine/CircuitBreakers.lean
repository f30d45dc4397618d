import SentinelApex.RiskEngine.Limits

/-!
# Runs of the circuit breaker registry

The four mutations of the registry (`trip`, `reset`, `evaluateAutoResets`, `confirmReset`) act on
each breaker separately: `get_step` says what an operation does to one breaker, whatever the state
of the others.
-/

namespace SentinelApex

namespace CircuitBreakerRegistry

variable (reg : CircuitBreakerRegistry)

/-- `get(name)`: every name is registered. -/
def get (name : CircuitBreakerName) : CircuitBreaker := reg.breakers name

/-- `this.breakers.set(name, breaker)`. -/
def set (name : CircuitBreakerName) (breaker : CircuitBreaker) : CircuitBreakerRegistry :=
  ⟨Function.update reg.breakers name breaker⟩

@[simp] theorem get_set (name name' : CircuitBreakerName) (breaker : CircuitBreaker) :
    (reg.set name breaker).get name' = if name' = name then breaker else reg.get name' := by
  simp only [get, set, Function.update_apply]

end CircuitBreakerRegistry

namespace CircuitBreaker

/-- The breaker after a trip at `now`. -/
def tripped (breaker : CircuitBreaker) (now : Date) : CircuitBreaker :=
  { breaker with
    state := .opened
    trippedAt := some now
    resetAt := breaker.autoResetAfterMs.map fun ms => now + (ms : ℤ)
    tripCount := breaker.tripCount + 1 }

/-- The breaker after a manual or a confirmed reset. -/
def cleared (breaker : CircuitBreaker) : CircuitBreaker :=
  { breaker with state := .closed, trippedAt := none, resetAt := none }

/-- The breaker that `evaluateAutoResets` puts in place of this one, if any. -/
def autoReset (breaker : CircuitBreaker) (now : Date) : Option CircuitBreaker :=
  if breaker.state ≠ .opened then none
  else
    match breaker.resetAt with
    | none => none
    | some resetAt => if resetAt ≤ now then some { breaker with state := .halfOpen } else none

end CircuitBreaker

namespace CircuitBreakerRegistry

/-- The reason is accepted but not stored. -/
def trip (reg : CircuitBreakerRegistry) (name : CircuitBreakerName) (_reason : String)
    (now : Date) : CircuitBreaker × CircuitBreakerRegistry :=
  let updated := (reg.get name).tripped now
  (updated, reg.set name updated)

def reset (reg : CircuitBreakerRegistry) (name : CircuitBreakerName) :
    CircuitBreaker × CircuitBreakerRegistry :=
  let updated := (reg.get name).cleared
  (updated, reg.set name updated)

/-- The breakers in registration order, each put to half open when its reset time has come; the
first component lists the changed ones. -/
def evaluateAutoResets (reg : CircuitBreakerRegistry) (now : Date) :
    List CircuitBreaker × CircuitBreakerRegistry :=
  go CircuitBreakerName.all [] reg
where
  go : List CircuitBreakerName → List CircuitBreaker → CircuitBreakerRegistry →
      List CircuitBreaker × CircuitBreakerRegistry
    | [], changed, reg => (changed, reg)
    | name :: names, changed, reg =>
      match (reg.get name).autoReset now with
      | none => go names changed reg
      | some updated => go names (changed ++ [updated]) (reg.set name updated)

/-- No-op unless the breaker is half open. -/
def confirmReset (reg : CircuitBreakerRegistry) (name : CircuitBreakerName) :
    CircuitBreaker × CircuitBreakerRegistry :=
  let existing := reg.get name
  if existing.state ≠ .halfOpen then (existing, reg)
  else (existing.cleared, reg.set name existing.cleared)

end CircuitBreakerRegistry

/-- A mutation of the registry with its arguments and the clock value it uses. -/
inductive BreakerOp where
  | trip (name : CircuitBreakerName) (reason : String) (now : Date)
  | reset (name : CircuitBreakerName)
  | evaluateAutoResets (now : Date)
  | confirmReset (name : CircuitBreakerName)
  deriving DecidableEq

namespace BreakerOp

def time? : BreakerOp → Option Date
  | trip _ _ now => some now
  | evaluateAutoResets now => some now
  | _ => none

def trips (name : CircuitBreakerName) : BreakerOp → Bool
  | trip name' _ _ => name' = name
  | _ => false

end BreakerOp

def breakerTimes (ops : List BreakerOp) : List Date := ops.filterMap BreakerOp.time?

namespace CircuitBreakerRegistry

def step (reg : CircuitBreakerRegistry) : BreakerOp → CircuitBreakerRegistry
  | .trip name reason now => (reg.trip name reason now).2
  | .reset name => (reg.reset name).2
  | .evaluateAutoResets now => (reg.evaluateAutoResets now).2
  | .confirmReset name => (reg.confirmReset name).2

def run (reg : CircuitBreakerRegistry) (ops : List BreakerOp) : CircuitBreakerRegistry :=
  ops.foldl step reg

theorem run_append (reg : CircuitBreakerRegistry) (ops ops' : List BreakerOp) :
    reg.run (ops ++ ops') = (reg.run ops).run ops' :=
  List.foldl_append

theorem run_concat (reg : CircuitBreakerRegistry) (ops : List BreakerOp) (op : BreakerOp) :
    reg.run (ops ++ [op]) = (reg.run ops).step op := by
  rw [run_append]
  rfl

end CircuitBreakerRegistry

def CircuitBreaker.next (name : CircuitBreakerName) (breaker : CircuitBreaker) :
    BreakerOp → CircuitBreaker
  | .trip name' _ now => if name = name' then breaker.tripped now else breaker
  | .reset name' => if name = name' then breaker.cleared else breaker
  | .evaluateAutoResets now => (breaker.autoReset now).getD breaker
  | .confirmReset name' =>
    if name = name' ∧ breaker.state = .halfOpen then breaker.cleared else breaker

namespace CircuitBreakerRegistry

/-- One pass over distinct breakers puts each of them to its own auto-reset. -/
theorem get_autoResets_go (now : Date) (name : CircuitBreakerName)
    {names : List CircuitBreakerName} (hnodup : names.Nodup) (changed : List CircuitBreaker)
    (reg : CircuitBreakerRegistry) :
    (evaluateAutoResets.go now names changed reg).2.get name =
      if name ∈ names then ((reg.get name).autoReset now).getD (reg.get name)
      else reg.get name := by
  induction names generalizing changed reg with
  | nil => simp [evaluateAutoResets.go]
  | cons n names ih =>
    obtain ⟨hn, hnames⟩ := List.nodup_cons.1 hnodup
    rw [evaluateAutoResets.go]
    by_cases hname : name = n
    · subst hname
      cases (reg.get name).autoReset now with
      | none | some updated => simp [ih hnames, hn]
    · cases (reg.get n).autoReset now with
      | none | some updated => simp [ih hnames, hname]

theorem get_step (reg : CircuitBreakerRegistry) (op : BreakerOp) (name : CircuitBreakerName) :
    (reg.step op).get name = (reg.get name).next name op := by
  cases op with
  | trip name' reason now =>
    by_cases h : name = name'
    · subst h
      simp [step, trip, CircuitBreaker.next]
    · simp [step, trip, CircuitBreaker.next, h]
  | reset name' =>
    by_cases h : name = name'
    · subst h
      simp [step, reset, CircuitBreaker.next]
    · simp [step, reset, CircuitBreaker.next, h]
  | evaluateAutoResets now =>
    have hall : name ∈ CircuitBreakerName.all := by cases name <;> decide
    have hnodup : CircuitBreakerName.all.Nodup := by decide
    have hgo := get_autoResets_go now name hnodup [] reg
    rw [if_pos hall] at hgo
    exact hgo
  | confirmReset name' =>
    simp only [step, confirmReset, CircuitBreaker.next]
    by_cases h : name = name'
    · subst h
      split_ifs with h1 h2 h2 <;> simp_all
    · split_ifs with h1 h2 h2 <;> simp_all

end CircuitBreakerRegistry

structure BreakerInv (ops : List BreakerOp) (name : CircuitBreakerName) (b : CircuitBreaker) :
    Prop where
  window : b.autoResetAfterMs = defaultAutoResetMs name
  tripCount : b.tripCount = ops.countP (BreakerOp.trips name)
  tripped : (b.state = .opened ∨ b.state = .halfOpen) ↔ b.trippedAt.isSome = true
  resetAt : ∀ t, b.trippedAt = some t →
    b.resetAt = (defaultAutoResetMs name).map fun ms => t + (ms : ℤ)
  halfOpen : b.state = .halfOpen →
    ∃ r now, b.resetAt = some r ∧ (breakerTimes ops).getLast? = some now ∧ r ≤ now

variable {op : BreakerOp}

namespace BreakerInv

variable {ops : List BreakerOp} {name : CircuitBreakerName} {b : CircuitBreaker}

theorem create (limits : RiskLimits) (name : CircuitBreakerName) :
    BreakerInv [] name ((CircuitBreakerRegistry.create limits).get name) where
  window := rfl
  tripCount := rfl
  tripped := by simp [CircuitBreakerRegistry.get, CircuitBreakerRegistry.create]
  resetAt := by simp [CircuitBreakerRegistry.get, CircuitBreakerRegistry.create]
  halfOpen := by simp [CircuitBreakerRegistry.get, CircuitBreakerRegistry.create]

variable {now : Date} {updated : CircuitBreaker}

theorem le_lastTime (htimes : (breakerTimes (ops ++ [op])).Pairwise (· ≤ ·)) {r : Date}
    (hnow : (breakerTimes ops).getLast? = some now) (hr : r ≤ now) :
    ∃ now', (breakerTimes (ops ++ [op])).getLast? = some now' ∧ r ≤ now' := by
  unfold breakerTimes at *
  rw [List.filterMap_append] at htimes ⊢
  cases ht : op.time? with
  | none => exact ⟨now, by simpa [ht] using hnow, hr⟩
  | some t =>
    have hle : now ≤ t :=
      (List.pairwise_append.1 htimes).2.2 now (List.mem_of_getLast? hnow) t (by simp [ht])
    exact ⟨t, by simp [ht], hr.trans hle⟩

theorem unchanged (h : BreakerInv ops name b)
    (htimes : (breakerTimes (ops ++ [op])).Pairwise (· ≤ ·)) (hop : op.trips name = false) :
    BreakerInv (ops ++ [op]) name b where
  window := h.window
  tripCount := by simp [List.countP_append, hop, h.tripCount]
  tripped := h.tripped
  resetAt := h.resetAt
  halfOpen hs := by
    obtain ⟨r, now, hr, hnow, hle⟩ := h.halfOpen hs
    obtain ⟨now', hnow', hle'⟩ := le_lastTime htimes hnow hle
    exact ⟨r, now', hr, hnow', hle'⟩

theorem tripped_step {reason : String} (h : BreakerInv ops name b) :
    BreakerInv (ops ++ [.trip name reason now]) name (b.tripped now) where
  window := h.window
  tripCount := by simp [List.countP_append, BreakerOp.trips, CircuitBreaker.tripped, h.tripCount]
  tripped := by simp [CircuitBreaker.tripped]
  resetAt := by
    intro t ht
    obtain rfl := Option.some.inj ht
    simp [CircuitBreaker.tripped, h.window]
  halfOpen := by simp [CircuitBreaker.tripped]

theorem cleared_step (h : BreakerInv ops name b) (hop : op.trips name = false) :
    BreakerInv (ops ++ [op]) name b.cleared where
  window := h.window
  tripCount := by simp [List.countP_append, hop, CircuitBreaker.cleared, h.tripCount]
  tripped := by simp [CircuitBreaker.cleared]
  resetAt := by simp [CircuitBreaker.cleared]
  halfOpen := by simp [CircuitBreaker.cleared]

/-- The auto-reset puts an open breaker to half open once its reset time has come. -/
theorem autoReset_eq_some (h : b.autoReset now = some updated) :
    b.state = .opened ∧ (∃ r, b.resetAt = some r ∧ r ≤ now) ∧
      updated = { b with state := .halfOpen } := by
  unfold CircuitBreaker.autoReset at h
  by_cases hs : b.state = .opened
  · rw [if_neg (not_not.2 hs)] at h
    cases hr : b.resetAt with
    | none => simp [hr] at h
    | some r =>
      simp only [hr] at h
      by_cases hle : r ≤ now
      · rw [if_pos hle] at h
        exact ⟨hs, ⟨r, rfl, hle⟩, (Option.some.inj h).symm⟩
      · rw [if_neg hle] at h
        cases h
  · rw [if_pos hs] at h
    cases h

theorem autoReset_step (h : BreakerInv ops name b) (hu : b.autoReset now = some updated) :
    BreakerInv (ops ++ [.evaluateAutoResets now]) name updated := by
  obtain ⟨hs, ⟨r, hr, hle⟩, rfl⟩ := autoReset_eq_some hu
  exact
    { window := h.window
      tripCount := by simp [List.countP_append, BreakerOp.trips, h.tripCount]
      tripped := by simpa [hs] using h.tripped
      resetAt := h.resetAt
      halfOpen := fun _ => ⟨r, now, hr, by simp [breakerTimes, BreakerOp.time?], hle⟩ }

theorem next (h : BreakerInv ops name b) (htimes : (breakerTimes (ops ++ [op])).Pairwise (· ≤ ·)) :
    BreakerInv (ops ++ [op]) name (b.next name op) := by
  cases op with
  | trip name' reason now =>
    simp only [CircuitBreaker.next]
    split_ifs with hname
    · subst hname
      exact h.tripped_step
    · exact h.unchanged htimes (by simp [BreakerOp.trips, Ne.symm hname])
  | reset name' =>
    simp only [CircuitBreaker.next]
    split_ifs with hname
    · exact h.cleared_step rfl
    · exact h.unchanged htimes rfl
  | evaluateAutoResets now =>
    simp only [CircuitBreaker.next]
    cases hu : b.autoReset now with
    | none => simpa using h.unchanged htimes rfl
    | some updated => simpa using h.autoReset_step hu
  | confirmReset name' =>
    simp only [CircuitBreaker.next]
    split_ifs with hname
    · exact h.cleared_step rfl
    · exact h.unchanged htimes rfl

end BreakerInv

namespace CircuitBreakerRegistry

variable {limits : RiskLimits} {name : CircuitBreakerName}

theorem run_inv {ops : List BreakerOp} (htimes : (breakerTimes ops).Pairwise (· ≤ ·)) :
    BreakerInv ops name (((create limits).run ops).get name) := by
  induction ops using List.reverseRecOn with
  | nil => exact BreakerInv.create limits name
  | append_singleton ops op ih =>
    rw [run_concat, get_step]
    refine (ih ?_).next htimes
    rw [breakerTimes, List.filterMap_append] at htimes
    exact (List.pairwise_append.1 htimes).1

/-- A breaker without a reset time that is open stays so, whatever is done to it except a
manual reset. -/
theorem run_opened (reg : CircuitBreakerRegistry) {ops : List BreakerOp}
    (hwindow : (reg.get name).autoResetAfterMs = none)
    (hstate : (reg.get name).state = .opened) (hreset : (reg.get name).resetAt = none)
    (hops : .reset name ∉ ops) : ((reg.run ops).get name).state = .opened := by
  induction ops generalizing reg with
  | nil => exact hstate
  | cons op ops ih =>
    obtain ⟨hop, hops⟩ := not_or.1 (mt List.mem_cons.2 hops)
    -- The operation re-trips the breaker or leaves it as it was.
    have hnext : (reg.get name).next name op = reg.get name ∨
        ∃ now, (reg.get name).next name op = (reg.get name).tripped now := by
      cases op with
      | trip name' reason now =>
        by_cases hname : name = name'
        · exact Or.inr ⟨now, by simp [CircuitBreaker.next, hname]⟩
        · exact Or.inl (by simp [CircuitBreaker.next, hname])
      | reset name' =>
        have hname : name ≠ name' := fun h => hop (by rw [h])
        exact Or.inl (by simp [CircuitBreaker.next, hname])
      | evaluateAutoResets now =>
        exact Or.inl (by simp [CircuitBreaker.next, CircuitBreaker.autoReset, hstate, hreset])
      | confirmReset name' => exact Or.inl (by simp [CircuitBreaker.next, hstate])
    rw [← get_step] at hnext
    rcases hnext with h | ⟨now, h⟩
    · exact ih _ (by rw [h]; exact hwindow) (by rw [h]; exact hstate) (by rw [h]; exact hreset) hops
    · exact ih _ (by rw [h]; exact hwindow) (by rw [h]; rfl)
        (by rw [h]; simp [CircuitBreaker.tripped, hwindow]) hops

/-- In every run with non-decreasing times, every breaker counts its trips, is tripped exactly
while it has a trip time, is due for its auto-reset one window after that time and is half open
only from then on; one without an auto-reset stays open until it is reset by hand. -/
theorem run_breaker (limits : RiskLimits) (ops : List BreakerOp)
    (htimes : (breakerTimes ops).Pairwise (· ≤ ·)) (name : CircuitBreakerName) :
    let b := ((create limits).run ops).get name
    b.tripCount = ops.countP (BreakerOp.trips name) ∧
    ((b.state = .opened ∨ b.state = .halfOpen) ↔ b.trippedAt.isSome = true) ∧
    (∀ window t, defaultAutoResetMs name = some window → b.trippedAt = some t →
      b.resetAt = some (t + (window : ℤ))) ∧
    (b.state = .halfOpen →
      ∃ r now, b.resetAt = some r ∧ (breakerTimes ops).getLast? = some now ∧ r ≤ now) ∧
    (defaultAutoResetMs name = none → ∀ pre reason now post,
      ops = pre ++ .trip name reason now :: post → .reset name ∉ post → b.state = .opened) := by
  have hinv : BreakerInv ops name (((create limits).run ops).get name) := run_inv htimes
  refine ⟨hinv.tripCount, hinv.tripped, ?_, hinv.halfOpen, ?_⟩
  · intro window t hwindow ht
    rw [hinv.resetAt t ht, hwindow]
    rfl
  · rintro hwindow pre reason now post rfl hpost
    have hpre : BreakerInv pre name (((create limits).run pre).get name) := by
      refine run_inv ?_
      rw [breakerTimes, List.filterMap_append] at htimes
      exact (List.pairwise_append.1 htimes).1
    have hget : (((create limits).run pre).step (.trip name reason now)).get name =
        (((create limits).run pre).get name).tripped now := by
      rw [get_step]
      simp [CircuitBreaker.next]
    rw [run_append]
    refine run_opened (((create limits).run pre).step (.trip name reason now)) ?_ ?_ ?_ hpost
    · rw [hget, ← hwindow]
      exact hpre.window
    · rw [hget]
      rfl
    · rw [hget]
      simp [CircuitBreaker.tripped, hpre.window, hwindow]

/-- A data feed goes stale, the breaker is due five minutes later and is confirmed, while the
weekly drawdown breaker is left to an operator. -/
theorem run_breaker_sample :
    let ops : List BreakerOp := [.trip .dataStaleness "stale" 0, .trip .weeklyDrawdown "loss" 1000,
      .evaluateAutoResets 300000, .confirmReset .dataStaleness, .confirmReset .weeklyDrawdown]
    (breakerTimes ops).Pairwise (· ≤ ·) ∧
      (((create defaultRiskLimits).run ops).get .weeklyDrawdown).state = .opened := by
  refine ⟨by decide, ?_⟩
  exact (run_breaker defaultRiskLimits _ (by decide) .weeklyDrawdown).2.2.2.2 rfl
    [.trip .dataStaleness "stale" 0] "loss" 1000
    [.evaluateAutoResets 300000, .confirmReset .dataStaleness, .confirmReset .weeklyDrawdown]
    rfl (by decide)

end CircuitBreakerRegistry

end SentinelApex
