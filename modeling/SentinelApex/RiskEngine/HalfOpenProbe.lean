import SentinelApex.RiskEngine.CircuitBreakers
import SentinelApex.RiskEngine.Engine

/-!
# Probes of a half-open breaker

A half-open breaker is meant to let a single probe through. The registry does not see the
assessments and the gate of `assessOrderIntent` asks for open breakers only, so a half-open breaker
lets every order through that is within the limits: `singleProbe_iff` says that the single probe
is left to the caller.
-/

namespace SentinelApex

/-- An operation on the breakers, or an assessment at the given clock value. -/
inductive EngineOp where
  | breaker (op : BreakerOp)
  | assess (context : OrderIntentContext) (state : PortfolioState) (now : Date)

namespace RiskEngine

/-- Assessments leave the engine as it is. -/
def next (engine : RiskEngine) : EngineOp → RiskEngine
  | .breaker op => { engine with circuitBreakers := engine.circuitBreakers.step op }
  | .assess _ _ _ => engine

/-- The engine after a run of operations. -/
def after (engine : RiskEngine) (ops : List EngineOp) : RiskEngine := ops.foldl next engine

/-- The operation is an assessment that does not reject the order. -/
def passes (engine : RiskEngine) : EngineOp → Bool
  | .breaker _ => false
  | .assess context state now =>
    (engine.assessOrderIntent context state now).overallStatus ≠ .failed

/-- The number of orders that the assessments of a run do not reject. -/
def passCount (engine : RiskEngine) : List EngineOp → ℕ
  | [] => 0
  | op :: ops => (if engine.passes op then 1 else 0) + passCount (engine.next op) ops

def staysHalfOpen (name : CircuitBreakerName) (engine : RiskEngine) : List EngineOp → Bool
  | [] => (engine.circuitBreakers.get name).state = .halfOpen
  | op :: ops =>
    (engine.circuitBreakers.get name).state = .halfOpen && staysHalfOpen name (engine.next op) ops

/-- While a breaker is half open, at most one assessment does not reject its order. -/
def SingleProbe (engine : RiskEngine) (ops : List EngineOp) : Prop :=
  ∀ name pre window post, ops = pre ++ window ++ post →
    staysHalfOpen name (engine.after pre) window = true → (engine.after pre).passCount window ≤ 1

/-- The breaker is half open since before the last assessment of an admissible order. -/
def Probed (engine : RiskEngine) (name : CircuitBreakerName) (ops : List EngineOp) : Prop :=
  ∃ pre context state now post, ops = pre ++ .assess context state now :: post ∧
    staysHalfOpen name (engine.after pre) (.assess context state now :: post) = true ∧
    (engine.after pre).Admissible context state now

variable (engine : RiskEngine)

theorem after_append (ops ops' : List EngineOp) :
    engine.after (ops ++ ops') = (engine.after ops).after ops' :=
  List.foldl_append

theorem passes_assess_iff (context : OrderIntentContext) (state : PortfolioState) (now : Date) :
    engine.passes (.assess context state now) = true ↔ engine.Admissible context state now := by
  rw [← engine.assessOrderIntent_ne_failed_iff]
  simp [passes]

theorem passCount_append (ops ops' : List EngineOp) :
    engine.passCount (ops ++ ops') = engine.passCount ops + (engine.after ops).passCount ops' := by
  induction ops generalizing engine with
  | nil => simp [passCount, after]
  | cons op ops ih =>
    rw [List.cons_append, passCount, passCount, ih, after, after, List.foldl_cons, Nat.add_assoc]

theorem staysHalfOpen_append (name : CircuitBreakerName) (ops ops' : List EngineOp) :
    staysHalfOpen name engine (ops ++ ops') = true ↔
      staysHalfOpen name engine ops = true ∧ staysHalfOpen name (engine.after ops) ops' = true := by
  induction ops generalizing engine with
  | nil =>
    refine ⟨fun h => ⟨?_, h⟩, fun h => h.2⟩
    cases ops' with
    | nil => exact h
    | cons op ops' => exact (Bool.and_eq_true_iff.1 h).1
  | cons op ops ih =>
    simp only [List.cons_append, staysHalfOpen, Bool.and_eq_true, ih, and_assoc]
    rfl

/-- The first order that a run does not reject is admissible. -/
theorem exists_first_admissible {ops : List EngineOp} (h : 0 < engine.passCount ops) :
    ∃ pre context state now post, ops = pre ++ .assess context state now :: post ∧
      engine.passCount pre = 0 ∧ (engine.after pre).Admissible context state now := by
  induction ops generalizing engine with
  | nil => simp [passCount] at h
  | cons op ops ih =>
    by_cases hpass : engine.passes op = true
    · cases op with
      | breaker op => cases hpass
      | assess context state now =>
        exact ⟨[], context, state, now, ops, rfl, rfl,
          (engine.passes_assess_iff context state now).1 hpass⟩
    · rw [passCount, if_neg hpass, Nat.zero_add] at h
      obtain ⟨pre, context, state, now, post, rfl, hpre, hadm⟩ := ih (engine.next op) h
      refine ⟨op :: pre, context, state, now, post, rfl, ?_, hadm⟩
      rw [passCount, if_neg hpass, hpre]

/-- Callers keep to a single probe exactly when no assessment that finds a breaker half open and
already probed is of an admissible order. -/
theorem singleProbe_iff (ops : List EngineOp) :
    engine.SingleProbe ops ↔
      ∀ pre context state now post, ops = pre ++ .assess context state now :: post →
        (∃ name, engine.Probed name pre) → ¬ (engine.after pre).Admissible context state now := by
  constructor
  · rintro hsingle pre context state now post rfl
      ⟨name, p, context', state', now', q, rfl, hstays, hadm'⟩ hadm
    -- The window from the earlier probe up to this assessment passes two orders.
    have hwindow : staysHalfOpen name (engine.after p)
        (.assess context' state' now' :: q ++ [.assess context state now]) = true := by
      rw [staysHalfOpen_append]
      refine ⟨hstays, ?_⟩
      have hlast : staysHalfOpen name
          ((engine.after p).after (.assess context' state' now' :: q)) [] = true := by
        rw [← List.append_nil (EngineOp.assess context' state' now' :: q),
          staysHalfOpen_append] at hstays
        exact hstays.2
      exact Bool.and_eq_true_iff.2 ⟨hlast, hlast⟩
    have hle := hsingle name p _ post (by simp) hwindow
    rw [passCount_append, passCount, passCount,
      if_pos ((passes_assess_iff _ _ _ _).2 hadm'), ← after_append,
      if_pos ((passes_assess_iff _ _ _ _).2 hadm)] at hle
    omega
  · rintro hcond name pre window post rfl hstays
    by_contra hlt
    have hpos : 0 < (engine.after pre).passCount window := by omega
    obtain ⟨p, context, state, now, q, rfl, hp, hadm⟩ := exists_first_admissible _ hpos
    rw [passCount_append, hp, passCount, Nat.zero_add] at hlt
    have hq : 0 < (((engine.after pre).after p).next (.assess context state now)).passCount q := by
      split_ifs at hlt <;> omega
    obtain ⟨p', context', state', now', q', rfl, -, hadm'⟩ := exists_first_admissible _ hq
    rw [← after_append] at hadm
    refine hcond (pre ++ p ++ .assess context state now :: p') context' state' now' (q' ++ post)
      (by simp) ⟨name, pre ++ p, context, state, now, p', rfl, ?_, hadm⟩ ?_
    · rw [staysHalfOpen_append] at hstays
      have hrest := hstays.2
      rw [← List.cons_append, staysHalfOpen_append, ← after_append] at hrest
      exact hrest.1
    · rw [after_append, after_append]
      exact hadm'

/-- A portfolio well within the default limits. -/
def probeState : PortfolioState where
  totalNav := 100000
  grossExposure := 10000
  netExposure := 0
  liquidityReserve := 80000
  currentDailyDrawdownPct := 0
  currentWeeklyDrawdownPct := 0
  currentPortfolioDrawdownPct := 0
  venueExposures := OrderedMap.ofList [("venue-a", 5000), ("venue-b", 5000)]
  assetExposures := OrderedMap.ofList [("BTC", 5000), ("ETH", 5000)]
  sleeveNav := OrderedMap.ofList [("carry", 100000)]
  openPositionCount := 2

/-- A market buy of 1000 USD on a third venue. -/
def probeContext : OrderIntentContext where
  intent :=
    { intentId := "SOL-funding_rate_arb-buy-0", venueId := "venue-c", asset := "SOL", side := .buy,
      type := .market, size := 10, limitPrice := none, opportunityId := "SOL-funding_rate_arb-0",
      reduceOnly := false, createdAt := 0
      metadata := OrderedMap.ofList
        [("sleeveId", .str "carry"), ("positionSizeUsd", .decimal 1000)] }
  venueId := "venue-c"
  assetSymbol := "SOL"
  positionSizeUsd := 1000
  deltaUsd := 1000
  requiredMarginUsd := 1000
  lastPriceUpdate := 300000

/-- Stale data trips a breaker, which is half open five minutes later; then the same order is
assessed twice. -/
def twoProbes : List EngineOp :=
  [.breaker (.trip .dataStaleness "stale" 0), .breaker (.evaluateAutoResets 300000),
    .assess probeContext probeState 300000, .assess probeContext probeState 300000]

theorem twoProbes_both_pass :
    ¬ (⟨defaultRiskLimits, CircuitBreakerRegistry.create defaultRiskLimits⟩ :
      RiskEngine).SingleProbe twoProbes := by
  intro h
  have hle := h .dataStaleness (twoProbes.take 2) (twoProbes.drop 2) [] rfl (by decide +kernel)
  revert hle
  decide +kernel

end RiskEngine

end SentinelApex
