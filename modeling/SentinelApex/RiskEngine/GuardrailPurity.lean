import SentinelApex.RiskEngine.GuardrailScopes

/-!
# Checks as observations

`check` rewrites the failure counter and the daily window of the configurations it reads. What
later operations can tell of a configuration is its form as of their time (`asOf`): failures that
have expired read as none, a daily window that is over as a new one. A check does not change this
form (`asOf_check`), so that checks can be put into a run or left out (`observations_eq_filter`).
-/

namespace SentinelApex

namespace LocalCalendar

variable (cal : LocalCalendar)

/-- The midnight at which the local day of `t` began. -/
def midnight (t : Date) : Date := cal.startOfDay (cal.day t)

theorem day_midnight (t : Date) : cal.day (cal.midnight t) = cal.day t :=
  le_antisymm (cal.day_mono (cal.startOfDay_le_iff.2 le_rfl)) (cal.startOfDay_le_iff.1 le_rfl)

theorem midnight_congr {t t' : Date} (h : cal.day t = cal.day t') :
    cal.midnight t = cal.midnight t' :=
  congrArg cal.startOfDay h

end LocalCalendar

variable {c c' : GuardrailConfig} {op : GuardrailOp}

namespace GuardrailConfig

variable (cal : LocalCalendar) (config : GuardrailConfig) {t now : Date}

/-! ## A configuration as of a time -/

/-- An enabled breaker needs at least one failure to open. -/
def Sound : Prop := config.circuitBreakerEnabled = true → 0 < config.maxFailuresBeforeBreaker

/-- The failure counter and the last failure; expired failures read as none. -/
def failuresAsOf (now : Date) : ℤ × Option Date :=
  if config.failuresExpired now ∧ 0 ≤ config.failureCount then (0, none)
  else (config.failureCount, config.lastFailureAt)

/-- The daily notional and the day it is of; a window that is over reads as a new one. -/
def dailyAsOf (now : Date) : Decimal × Date :=
  if cal.day config.dailyResetAt < cal.day now then (0, cal.midnight now)
  else (config.dailyNotionalUsd, cal.midnight config.dailyResetAt)

/-- The configuration as operations at `now` see it. -/
def asOf (now : Date) : GuardrailConfig :=
  { config with
    failureCount := (config.failuresAsOf now).1
    lastFailureAt := (config.failuresAsOf now).2
    dailyNotionalUsd := (config.dailyAsOf cal now).1
    dailyResetAt := (config.dailyAsOf cal now).2 }

theorem asOf_congr (hcore : c.core = c'.core) (hfailures : c.failuresAsOf now = c'.failuresAsOf now)
    (hdaily : c.dailyAsOf cal now = c'.dailyAsOf cal now) : c.asOf cal now = c'.asOf cal now := by
  have hasOf : ∀ c : GuardrailConfig, c.asOf cal now =
      { c.core with
        failureCount := (c.failuresAsOf now).1
        lastFailureAt := (c.failuresAsOf now).2
        dailyNotionalUsd := (c.dailyAsOf cal now).1
        dailyResetAt := (c.dailyAsOf cal now).2 } := fun _ => rfl
  rw [hasOf, hasOf, hcore, hfailures, hdaily]

theorem resetDailyNotionalIfNeeded_eq :
    config.resetDailyNotionalIfNeeded cal now =
      if cal.day config.dailyResetAt < cal.day now then
        { config with dailyNotionalUsd := 0, dailyResetAt := now }
      else config := by
  simp only [resetDailyNotionalIfNeeded, cal.nextMidnight_le_iff]

theorem dailyNotionalUsd_reset :
    (config.resetDailyNotionalIfNeeded cal now).dailyNotionalUsd =
      (config.dailyAsOf cal now).1 := by
  rw [resetDailyNotionalIfNeeded_eq, dailyAsOf]
  split_ifs <;> rfl

theorem failuresExpired_mono (h : config.failuresExpired t = true) (ht : t ≤ now) :
    config.failuresExpired now = true := by
  unfold failuresExpired at h ⊢
  cases hlast : config.lastFailureAt with
  | none => simp [hlast] at h
  | some failureAt =>
    simp only [hlast, decide_eq_true_eq] at h ⊢
    refine h.trans_le (binary64.round_mono ?_)
    have hcast : ((t - failureAt : ℤ) : ℚ) ≤ ((now - failureAt : ℤ) : ℚ) := by
      exact_mod_cast Int.sub_le_sub_right ht failureAt
    linarith

theorem dailyAsOf_congr (hdaily : c.dailyNotionalUsd = c'.dailyNotionalUsd)
    (hday : cal.day c.dailyResetAt = cal.day c'.dailyResetAt) :
    c.dailyAsOf cal now = c'.dailyAsOf cal now := by
  rw [dailyAsOf, dailyAsOf, hdaily, hday, cal.midnight_congr hday]

theorem dailyAsOf_eq_of_dailyAsOf (ht : t ≤ now)
    (hdaily : c'.dailyNotionalUsd = (c.dailyAsOf cal t).1)
    (hreset : cal.day c'.dailyResetAt = cal.day (c.dailyAsOf cal t).2) :
    c'.dailyAsOf cal now = c.dailyAsOf cal now := by
  have hday := cal.day_mono ht
  by_cases hover : cal.day c.dailyResetAt < cal.day t
  · rw [dailyAsOf, if_pos hover] at hdaily hreset
    rw [cal.day_midnight] at hreset
    rw [dailyAsOf, dailyAsOf, if_pos (hover.trans_le hday), hdaily, hreset]
    split_ifs with hlater
    · rfl
    · rw [cal.midnight_congr (hreset.trans (le_antisymm hday (not_lt.1 hlater)))]
  · rw [dailyAsOf, if_neg hover] at hdaily hreset
    rw [cal.day_midnight] at hreset
    exact dailyAsOf_congr cal hdaily hreset

theorem failuresExpired_congr
    (hminutes : c.circuitBreakerResetMinutes = c'.circuitBreakerResetMinutes)
    (hlast : c.lastFailureAt = c'.lastFailureAt) :
    c.failuresExpired now = c'.failuresExpired now := by
  rw [failuresExpired, failuresExpired, hminutes, hlast]

theorem failuresAsOf_congr (hminutes : c.circuitBreakerResetMinutes = c'.circuitBreakerResetMinutes)
    (hcount : c.failureCount = c'.failureCount) (hlast : c.lastFailureAt = c'.lastFailureAt) :
    c.failuresAsOf now = c'.failuresAsOf now := by
  rw [failuresAsOf, failuresAsOf, failuresExpired_congr hminutes hlast, hcount, hlast]

theorem failuresExpired_of_last_none (h : config.lastFailureAt = none) :
    config.failuresExpired now = false := by
  rw [failuresExpired, h]

theorem asOf_failures_cases (t : Date) :
    (config.failuresExpired t = true ∧ 0 ≤ config.failureCount) ∧
        (config.asOf cal t).failureCount = 0 ∧ (config.asOf cal t).lastFailureAt = none ∨
      ¬ (config.failuresExpired t = true ∧ 0 ≤ config.failureCount) ∧
        (config.asOf cal t).failureCount = config.failureCount ∧
        (config.asOf cal t).lastFailureAt = config.lastFailureAt := by
  by_cases hold : config.failuresExpired t = true ∧ 0 ≤ config.failureCount
  · have hasOf : config.failuresAsOf t = (0, none) := if_pos hold
    exact Or.inl ⟨hold, congrArg Prod.fst hasOf, congrArg Prod.snd hasOf⟩
  · have hasOf : config.failuresAsOf t = (config.failureCount, config.lastFailureAt) := if_neg hold
    exact Or.inr ⟨hold, congrArg Prod.fst hasOf, congrArg Prod.snd hasOf⟩

theorem failuresAsOf_asOf (ht : t ≤ now) :
    (config.asOf cal t).failuresAsOf now = config.failuresAsOf now := by
  rcases config.asOf_failures_cases cal t with ⟨hold, hcount, hlast⟩ | ⟨-, hcount, hlast⟩
  · have hnow : config.failuresAsOf now = (0, none) :=
      if_pos ⟨config.failuresExpired_mono hold.1 ht, hold.2⟩
    rw [hnow, failuresAsOf, failuresExpired_of_last_none _ hlast, hcount, hlast, if_neg (by simp)]
  · exact failuresAsOf_congr rfl hcount hlast

theorem dailyAsOf_asOf (ht : t ≤ now) :
    (config.asOf cal t).dailyAsOf cal now = config.dailyAsOf cal now :=
  dailyAsOf_eq_of_dailyAsOf cal ht rfl rfl

theorem asOf_asOf (ht : t ≤ now) : (config.asOf cal t).asOf cal now = config.asOf cal now :=
  asOf_congr cal rfl (config.failuresAsOf_asOf cal ht) (config.dailyAsOf_asOf cal ht)

/-! ## Checks do not change it -/

theorem isCircuitBreakerOpen_cases (hsound : config.Sound) :
    (config.isCircuitBreakerOpen t).2 = config ∨
      (config.failuresExpired t = true ∧ 0 ≤ config.failureCount) ∧
        config.isCircuitBreakerOpen t = (false, { config with failureCount := 0 }) := by
  unfold isCircuitBreakerOpen
  split_ifs with henabled hcount hexpired
  · exact Or.inl rfl
  · exact Or.inl rfl
  · refine Or.inr ⟨⟨hexpired, ?_⟩, rfl⟩
    have hmax : 0 < Number.ofDecimal config.maxFailuresBeforeBreaker :=
      binary64.round_pos (hsound (by simpa using henabled))
    have hpos : (0 : ℚ) ≤ config.failureCount := hmax.le.trans (not_lt.1 hcount)
    exact_mod_cast hpos
  · exact Or.inl rfl

theorem failuresAsOf_isCircuitBreakerOpen (hsound : config.Sound) (ht : t ≤ now) :
    (config.isCircuitBreakerOpen t).2.failuresAsOf now = config.failuresAsOf now := by
  rcases config.isCircuitBreakerOpen_cases (t := t) hsound with h | ⟨⟨hexpired, hcount⟩, h⟩
  · rw [h]
  · have hnow := config.failuresExpired_mono hexpired ht
    rw [h, failuresAsOf, if_pos ⟨hnow, le_rfl⟩, failuresAsOf, if_pos ⟨hnow, hcount⟩]

theorem dailyAsOf_isCircuitBreakerOpen :
    (config.isCircuitBreakerOpen t).2.dailyAsOf cal now = config.dailyAsOf cal now := by
  unfold isCircuitBreakerOpen
  split_ifs <;> rfl

theorem dailyAsOf_resetDailyNotionalIfNeeded (ht : t ≤ now) :
    (config.resetDailyNotionalIfNeeded cal t).dailyAsOf cal now = config.dailyAsOf cal now := by
  refine dailyAsOf_eq_of_dailyAsOf cal ht (config.dailyNotionalUsd_reset cal) ?_
  rw [resetDailyNotionalIfNeeded_eq, dailyAsOf]
  split_ifs <;> rw [cal.day_midnight]

theorem failuresAsOf_resetDailyNotionalIfNeeded :
    (config.resetDailyNotionalIfNeeded cal t).failuresAsOf now = config.failuresAsOf now := by
  unfold resetDailyNotionalIfNeeded
  split_ifs <;> rfl

theorem dailyAsOf_check (input : GuardrailCheckInput) (ht : t ≤ now) :
    (config.check cal input t).config.dailyAsOf cal now = config.dailyAsOf cal now := by
  unfold check
  dsimp only
  split_ifs
  · rfl
  · exact config.dailyAsOf_isCircuitBreakerOpen cal
  · split
    · exact config.dailyAsOf_isCircuitBreakerOpen cal
    · rw [dailyAsOf_resetDailyNotionalIfNeeded cal _ ht, dailyAsOf_isCircuitBreakerOpen]

theorem failuresAsOf_check (hsound : config.Sound) (input : GuardrailCheckInput) (ht : t ≤ now) :
    (config.check cal input t).config.failuresAsOf now = config.failuresAsOf now := by
  unfold check
  dsimp only
  split_ifs
  · rfl
  · exact config.failuresAsOf_isCircuitBreakerOpen hsound ht
  · split
    · exact config.failuresAsOf_isCircuitBreakerOpen hsound ht
    · rw [failuresAsOf_resetDailyNotionalIfNeeded,
        config.failuresAsOf_isCircuitBreakerOpen hsound ht]

theorem asOf_check (hsound : config.Sound) (input : GuardrailCheckInput) (ht : t ≤ now) :
    (config.check cal input t).config.asOf cal now = config.asOf cal now :=
  asOf_congr cal (config.core_check cal input t) (config.failuresAsOf_check cal hsound input ht)
    (config.dailyAsOf_check cal input ht)

/-! ## Operations depend on nothing else -/

theorem isCircuitBreakerOpen_fst_iff :
    (config.isCircuitBreakerOpen t).1 = true ↔ config.circuitBreakerEnabled = true ∧
      Number.ofDecimal config.maxFailuresBeforeBreaker ≤ config.failureCount ∧
      config.failuresExpired t = false := by
  unfold isCircuitBreakerOpen
  split_ifs with henabled hcount hexpired
  · simp_all
  · simp [not_le.2 hcount]
  · simp [hexpired]
  · simp_all

theorem isCircuitBreakerOpen_snd_of_open (h : (config.isCircuitBreakerOpen t).1 = true) :
    (config.isCircuitBreakerOpen t).2 = config := by
  unfold isCircuitBreakerOpen at h ⊢
  split_ifs at h ⊢
  rfl

theorem isCircuitBreakerOpen_asOf (hsound : config.Sound) :
    ((config.asOf cal t).isCircuitBreakerOpen t).1 = (config.isCircuitBreakerOpen t).1 := by
  rw [Bool.eq_iff_iff, isCircuitBreakerOpen_fst_iff, isCircuitBreakerOpen_fst_iff]
  refine and_congr_right fun henabled => ?_
  rcases config.asOf_failures_cases cal t with ⟨hold, hcount, hlast⟩ | ⟨-, hcount, hlast⟩
  · -- The failures have expired: the breaker is closed, as it is without failures.
    have hmax : 0 < Number.ofDecimal config.maxFailuresBeforeBreaker :=
      binary64.round_pos (hsound henabled)
    rw [hcount, hold.1, Int.cast_zero]
    exact ⟨fun h => absurd hmax (not_lt.2 h.1), fun h => absurd h.2 (by simp)⟩
  · have hexpired : (config.asOf cal t).failuresExpired t = config.failuresExpired t :=
      failuresExpired_congr rfl hlast
    rw [hcount, hexpired]
    exact Iff.rfl

theorem violations_check (input : GuardrailCheckInput) :
    (config.check cal input t).violations =
      if config.switchOn then [config.killSwitchViolation]
      else if (config.isCircuitBreakerOpen t).1 then [config.circuitBreakerViolation]
      else config.actionViolations input.notionalUsd ++
        match config.maxDailyNotionalUsd with
        | none => []
        | some limit =>
          { config with dailyNotionalUsd := (config.dailyAsOf cal t).1 }.dailyViolations
            input.notionalUsd limit := by
  unfold check
  by_cases hswitch : config.switchOn = true
  · rw [if_pos hswitch]
    exact congrArg Findings.violations (if_pos hswitch)
  rw [if_neg hswitch]
  refine (congrArg Findings.violations (if_neg hswitch)).trans ?_
  dsimp only
  split_ifs with hopen
  · rw [config.isCircuitBreakerOpen_snd_of_open hopen]
  · have haction : (config.isCircuitBreakerOpen t).2.actionViolations input.notionalUsd =
        config.actionViolations input.notionalUsd := by
      unfold isCircuitBreakerOpen
      split_ifs <;> rfl
    have hmax : (config.isCircuitBreakerOpen t).2.maxDailyNotionalUsd =
        config.maxDailyNotionalUsd := by
      unfold isCircuitBreakerOpen
      split_ifs <;> rfl
    rw [haction, hmax]
    cases config.maxDailyNotionalUsd with
    | none => exact (List.append_nil _).symm
    | some limit =>
      simp only [dailyViolations, dailyNotionalUsd_reset, dailyAsOf_isCircuitBreakerOpen]

theorem violations_check_asOf (hsound : config.Sound) (input : GuardrailCheckInput) :
    ((config.asOf cal t).check cal input t).violations = (config.check cal input t).violations := by
  rw [violations_check, violations_check, isCircuitBreakerOpen_asOf cal config hsound,
    dailyAsOf_asOf cal config le_rfl]
  have hbreaker : (config.isCircuitBreakerOpen t).1 = true →
      (config.asOf cal t).circuitBreakerViolation = config.circuitBreakerViolation := by
    intro hopen
    have hexpired := (config.isCircuitBreakerOpen_fst_iff.1 hopen).2.2
    rcases config.asOf_failures_cases cal t with ⟨hold, -⟩ | ⟨-, hcount, hlast⟩
    · rw [hexpired] at hold
      exact absurd hold.1 Bool.false_ne_true
    · simp only [circuitBreakerViolation, getCircuitBreakerResetTime, hcount, hlast]
      rfl
  refine if_congr Iff.rfl rfl ?_
  by_cases hopen : (config.isCircuitBreakerOpen t).1 = true
  · rw [if_pos hopen, if_pos hopen, hbreaker hopen]
  · rw [if_neg hopen, if_neg hopen]
    rfl

theorem failureCount_afterFailure_asOf :
    ((config.asOf cal t).afterFailure t).failureCount = (config.afterFailure t).failureCount := by
  rcases config.asOf_failures_cases cal t with ⟨hold, hcount, hlast⟩ | ⟨-, hcount, hlast⟩
  · simp only [afterFailure, hold.1, hcount, if_true, ite_self]
  · have hexpired : (config.asOf cal t).failuresExpired t = config.failuresExpired t :=
      failuresExpired_congr rfl hlast
    simp only [afterFailure, hexpired, hcount]

theorem asOf_afterFailure (ht : t ≤ now) :
    ((config.asOf cal t).afterFailure t).asOf cal now = (config.afterFailure t).asOf cal now :=
  asOf_congr cal rfl (failuresAsOf_congr rfl (config.failureCount_afterFailure_asOf cal) rfl)
    (config.dailyAsOf_asOf cal ht)

/-! A success clears the failures if there are any, and adds to the day's notional. -/

section AfterSuccess

variable (notionalUsd : Decimal)

theorem failureCount_afterSuccess :
    (config.afterSuccess cal notionalUsd t).failureCount =
      if 0 < config.failureCount then 0 else config.failureCount := by
  unfold afterSuccess resetDailyNotionalIfNeeded
  dsimp only
  split_ifs <;> rfl

theorem lastFailureAt_afterSuccess :
    (config.afterSuccess cal notionalUsd t).lastFailureAt =
      if 0 < config.failureCount then none else config.lastFailureAt := by
  unfold afterSuccess resetDailyNotionalIfNeeded
  dsimp only
  split_ifs <;> rfl

theorem dailyNotionalUsd_afterSuccess :
    (config.afterSuccess cal notionalUsd t).dailyNotionalUsd =
      (config.dailyAsOf cal t).1.plus notionalUsd := by
  rw [← dailyNotionalUsd_reset, resetDailyNotionalIfNeeded_eq]
  unfold afterSuccess
  dsimp only
  rw [resetDailyNotionalIfNeeded_eq]
  split_ifs <;> rfl

theorem day_dailyResetAt_afterSuccess :
    cal.day (config.afterSuccess cal notionalUsd t).dailyResetAt =
      cal.day (config.dailyAsOf cal t).2 := by
  unfold afterSuccess dailyAsOf
  dsimp only
  rw [resetDailyNotionalIfNeeded_eq]
  split_ifs <;> rw [cal.day_midnight]

theorem failureCount_afterSuccess_asOf :
    ((config.asOf cal t).afterSuccess cal notionalUsd t).failureCount =
      (config.afterSuccess cal notionalUsd t).failureCount := by
  rw [failureCount_afterSuccess, failureCount_afterSuccess]
  rcases config.asOf_failures_cases cal t with ⟨hold, hcount, -⟩ | ⟨-, hcount, -⟩
  · rw [hcount, ite_self]
    split_ifs with hpos
    · rfl
    · exact le_antisymm hold.2 (not_lt.1 hpos)
  · rw [hcount]

theorem circuitBreakerResetMinutes_afterSuccess :
    (config.afterSuccess cal notionalUsd t).circuitBreakerResetMinutes =
      config.circuitBreakerResetMinutes := by
  have hminutes := congrArg (fun c : GuardrailConfig => c.circuitBreakerResetMinutes)
    (config.core_afterSuccess cal notionalUsd t)
  exact hminutes

/-- Failures that have expired are cleared by a success or stay expired. -/
theorem failuresAsOf_afterSuccess_of_expired (hexpired : config.failuresExpired t = true)
    (hcount : 0 ≤ config.failureCount) (ht : t ≤ now) :
    (config.afterSuccess cal notionalUsd t).failuresAsOf now = (0, none) := by
  by_cases hpos : 0 < config.failureCount
  · have hlast : (config.afterSuccess cal notionalUsd t).lastFailureAt = none := by
      rw [lastFailureAt_afterSuccess, if_pos hpos]
    rw [failuresAsOf, failuresExpired_of_last_none _ hlast, hlast, failureCount_afterSuccess,
      if_pos hpos]
    rfl
  · have hexpired' : (config.afterSuccess cal notionalUsd t).failuresExpired now = true := by
      rw [failuresExpired_congr (config.circuitBreakerResetMinutes_afterSuccess cal notionalUsd)
        ((config.lastFailureAt_afterSuccess cal notionalUsd).trans (if_neg hpos))]
      exact config.failuresExpired_mono hexpired ht
    refine if_pos ⟨hexpired', ?_⟩
    rw [failureCount_afterSuccess, if_neg hpos]
    exact hcount

theorem asOf_afterSuccess (ht : t ≤ now) :
    ((config.asOf cal t).afterSuccess cal notionalUsd t).asOf cal now =
      (config.afterSuccess cal notionalUsd t).asOf cal now := by
  refine asOf_congr cal ?_ ?_ ?_
  · rw [core_afterSuccess, core_afterSuccess]
    rfl
  · rcases config.asOf_failures_cases cal t with ⟨hold, hcount, hlast⟩ | ⟨-, hcount, hlast⟩
    · have hnone : ((config.asOf cal t).afterSuccess cal notionalUsd t).lastFailureAt = none := by
        rw [lastFailureAt_afterSuccess, hlast, ite_self]
      rw [config.failuresAsOf_afterSuccess_of_expired cal notionalUsd hold.1 hold.2 ht,
        failuresAsOf, failuresExpired_of_last_none _ hnone, hnone, failureCount_afterSuccess,
        hcount]
      rfl
    · refine failuresAsOf_congr ?_ ?_ ?_
      · rw [circuitBreakerResetMinutes_afterSuccess, circuitBreakerResetMinutes_afterSuccess]
        rfl
      · exact config.failureCount_afterSuccess_asOf cal notionalUsd
      · rw [lastFailureAt_afterSuccess, lastFailureAt_afterSuccess, hcount, hlast]
  · refine dailyAsOf_congr cal ?_ ?_
    · rw [dailyNotionalUsd_afterSuccess, dailyNotionalUsd_afterSuccess,
        config.dailyAsOf_asOf cal le_rfl]
    · rw [day_dailyResetAt_afterSuccess, day_dailyResetAt_afterSuccess,
        config.dailyAsOf_asOf cal le_rfl]

end AfterSuccess

theorem asOf_ite_congr {p : Prop} [Decidable p] {a a' b b' : GuardrailConfig}
    (ha : a.asOf cal now = a'.asOf cal now) (hb : b.asOf cal now = b'.asOf cal now) :
    (if p then a else b).asOf cal now = (if p then a' else b').asOf cal now := by
  split_ifs
  · exact ha
  · exact hb

/-- What an operation makes of a configuration depends on its form as of the operation's time. -/
theorem asOf_after (hsound : config.Sound) (ht : op.time ≤ now) :
    ((config.asOf cal op.time).after cal op).asOf cal now = (config.after cal op).asOf cal now := by
  have hself := config.asOf_asOf cal ht
  have hfailures := config.failuresAsOf_asOf cal ht
  have hdaily := config.dailyAsOf_asOf cal ht
  cases op with
  | createConfig | checkPartialFill => exact hself
  | triggerKillSwitch configId triggeredBy reason t | resetKillSwitch configId resetBy t =>
    exact asOf_ite_congr cal (asOf_congr cal rfl hfailures hdaily) hself
  | recordFailure configId t => exact asOf_ite_congr cal (config.asOf_afterFailure cal ht) hself
  | recordSuccess configId notionalUsd t =>
    exact asOf_ite_congr cal (config.asOf_afterSuccess cal notionalUsd ht) hself
  | check input t =>
    refine asOf_ite_congr cal ?_ hself
    exact (asOf_check cal (config.asOf cal t) hsound input ht).trans
      (hself.trans (config.asOf_check cal hsound input ht).symm)

theorem Sound.after {config : GuardrailConfig} (hsound : config.Sound) (op : GuardrailOp) :
    (config.after cal op).Sound := by
  have hsettings : (config.after cal op).settings.Sound :=
    (config.settings_after cal op).symm ▸ (hsound : config.settings.Sound)
  exact hsettings

end GuardrailConfig

/-! ## Runs with and without checks -/

/-- What the caller of an operation is told: the result of a check, and the failure counter and the
daily notional of the configuration that a record returns. The notional after a failure is read as
of its time. -/
inductive GuardrailObservation where
  | check (allowed : Bool) (violations : List GuardrailViolationInput)
  | record (value : Option (ℤ × Decimal))
  | other
  deriving DecidableEq

namespace ExecutionGuardrailEngine

variable (cal : LocalCalendar) {W U : ExecutionGuardrailEngine} {t : Date}

def observe (engine : ExecutionGuardrailEngine) : GuardrailOp → GuardrailObservation
  | .check input now =>
    .check (engine.check cal input now).1.allowed (engine.check cal input now).1.violations
  | .recordFailure configId now =>
    .record ((engine.recordFailure configId now).1.map fun c =>
      (c.failureCount, (c.resetDailyNotionalIfNeeded cal now).dailyNotionalUsd))
  | .recordSuccess configId notionalUsd now =>
    .record ((engine.recordSuccess cal configId notionalUsd now).1.map fun c =>
      (c.failureCount, c.dailyNotionalUsd))
  | _ => .other

/-- The observations of those operations of a run that are marked. -/
def observations : ExecutionGuardrailEngine → List (GuardrailOp × Bool) → List GuardrailObservation
  | _, [] => []
  | engine, (op, marked) :: ops =>
    if marked then observe cal engine op :: observations (engine.step cal op) ops
    else observations (engine.step cal op) ops

/-- The engines look alike from `t` on. -/
def Alike (t : Date) (W U : ExecutionGuardrailEngine) : Prop :=
  ∀ scope now, t ≤ now →
    (W.configOf scope).map (fun c => c.asOf cal now) =
      (U.configOf scope).map fun c => c.asOf cal now

def Sound (engine : ExecutionGuardrailEngine) : Prop :=
  ∀ scope c, engine.configOf scope = some c → c.Sound

theorem Sound.step (h : Keyed W) (hsound : Sound W)
    (hop : ∀ input now, op = .createConfig input now → (input.toConfig now).Sound) :
    Sound (W.step cal op) := by
  intro scope c hc
  rw [(keyed_configOf_step cal h op).2] at hc
  rcases creates_or_updates scope op with ⟨input, now, rfl, hs⟩ | hupdates
  · rw [stepOf, if_pos hs] at hc
    rw [← Option.some.inj hc]
    exact hop input now rfl
  · rw [stepOf_eq_map cal hupdates] at hc
    obtain ⟨c₀, hc₀, rfl⟩ := Option.map_eq_some_iff.1 hc
    exact (hsound scope c₀ hc₀).after cal op

theorem Alike.get? (hW : Keyed W) (hU : Keyed U) (halike : Alike cal t W U) (id : String) :
    (W.configs.get? id).map (fun c => c.asOf cal t) =
      (U.configs.get? id).map fun c => c.asOf cal t := by
  have hdir : ∀ {W U : ExecutionGuardrailEngine}, Keyed W → Keyed U → Alike cal t W U → ∀ c,
      W.configs.get? id = some c →
        ∃ u, U.configs.get? id = some u ∧ u.asOf cal t = c.asOf cal t := by
    intro W U hW hU halike c hc
    obtain ⟨hscope, hid⟩ := (get?_eq_some_iff hW).1 hc
    have hmap := halike c.scope t le_rfl
    rw [hscope, Option.map_some, eq_comm] at hmap
    obtain ⟨u, hu, hasOf⟩ := Option.map_eq_some_iff.1 hmap
    have huid := congrArg GuardrailConfig.id hasOf
    exact ⟨u, (get?_eq_some_iff hU).2
      ⟨((configOf_eq_some_iff hU).1 hu).2 ▸ hu, huid.trans hid⟩, hasOf⟩
  cases hw : W.configs.get? id with
  | some c =>
    obtain ⟨u, hu, hasOf⟩ := hdir hW hU halike c hw
    rw [hu, Option.map_some, Option.map_some, hasOf]
  | none =>
    cases hu : U.configs.get? id with
    | none => rfl
    | some u =>
      obtain ⟨c, hc, -⟩ := hdir hU hW (fun scope now ht => (halike scope now ht).symm) u hu
      rw [hw] at hc
      cases hc

theorem violations_check_eq (hsound : Sound W) (input : GuardrailCheckInput) :
    (W.check cal input t).1.violations =
      (((scopesOf input).filterMap fun scope =>
        (W.configOf scope).map fun c => c.asOf cal t).flatMap fun c =>
          (c.check cal input t).violations) := by
  rw [← List.map_filterMap, List.flatMap_map]
  simp only [check, List.flatMap_map]
  refine List.flatMap_congr fun c hc => ?_
  obtain ⟨scope, -, hscope⟩ := List.mem_filterMap.1 hc
  exact (c.violations_check_asOf cal (hsound scope c hscope) input).symm

theorem observe_recordFailure (engine : ExecutionGuardrailEngine) (configId : String) (now : Date) :
    observe cal engine (.recordFailure configId now) =
      .record (((engine.configs.get? configId).map fun c => c.asOf cal now).bind fun c =>
        if c.circuitBreakerEnabled then
          some ((c.afterFailure now).failureCount, (c.dailyAsOf cal now).1)
        else none) := by
  simp only [observe, recordFailure]
  cases engine.configs.get? configId with
  | none => rfl
  | some c =>
    have henabled : (c.asOf cal now).circuitBreakerEnabled = c.circuitBreakerEnabled := rfl
    have hdaily : (c.afterFailure now).dailyAsOf cal now = c.dailyAsOf cal now := rfl
    simp only [Option.map_some, Option.bind_some, henabled]
    cases c.circuitBreakerEnabled with
    | false => rfl
    | true =>
      simp [GuardrailConfig.dailyNotionalUsd_reset, hdaily, c.dailyAsOf_asOf cal le_rfl,
        c.failureCount_afterFailure_asOf cal]

theorem observe_recordSuccess (engine : ExecutionGuardrailEngine) (configId : String)
    (notionalUsd : Decimal) (now : Date) :
    observe cal engine (.recordSuccess configId notionalUsd now) =
      .record (((engine.configs.get? configId).map fun c => c.asOf cal now).map fun c =>
        ((c.afterSuccess cal notionalUsd now).failureCount,
          (c.afterSuccess cal notionalUsd now).dailyNotionalUsd)) := by
  simp only [observe, recordSuccess]
  cases engine.configs.get? configId with
  | none => rfl
  | some c =>
    simp only [Option.map_some, c.failureCount_afterSuccess_asOf cal,
      GuardrailConfig.dailyNotionalUsd_afterSuccess, c.dailyAsOf_asOf cal le_rfl]

theorem Alike.observe_eq (hW : Keyed W) (hU : Keyed U) (hsW : Sound W) (hsU : Sound U)
    (halike : Alike cal op.time W U) : observe cal W op = observe cal U op := by
  cases op with
  | createConfig | checkPartialFill | triggerKillSwitch | resetKillSwitch => rfl
  | check input now =>
    have hviolations : (W.check cal input now).1.violations =
        (U.check cal input now).1.violations := by
      rw [violations_check_eq cal hsW, violations_check_eq cal hsU]
      simp only [fun scope => halike scope now le_rfl]
    have hallowed : ∀ engine : ExecutionGuardrailEngine, (engine.check cal input now).1.allowed =
        !(engine.check cal input now).1.violations.any fun v => v.blocked := fun _ => rfl
    simp only [observe, hallowed, hviolations]
  | recordFailure configId now =>
    have hget := Alike.get? cal (t := now) hW hU halike configId
    rw [observe_recordFailure, observe_recordFailure, hget]
  | recordSuccess configId notionalUsd now =>
    have hget := Alike.get? cal (t := now) hW hU halike configId
    rw [observe_recordSuccess, observe_recordSuccess, hget]

theorem Alike.step (hW : Keyed W) (hU : Keyed U) (hsW : Sound W) (hsU : Sound U)
    (halike : Alike cal op.time W U) : Alike cal op.time (W.step cal op) (U.step cal op) := by
  intro scope now ht
  rw [(keyed_configOf_step cal hW op).2, (keyed_configOf_step cal hU op).2]
  rcases creates_or_updates scope op with ⟨input, t, rfl, hs⟩ | hupdates
  · rw [stepOf, stepOf, if_pos hs, if_pos hs]
  · have hmap : ∀ {engine : ExecutionGuardrailEngine}, Sound engine →
        (stepOf cal scope (engine.configOf scope) op).map (fun c => c.asOf cal now) =
          ((engine.configOf scope).map fun c => c.asOf cal op.time).map fun c =>
            (c.after cal op).asOf cal now := by
      intro engine hsound
      rw [stepOf_eq_map cal hupdates]
      cases hc : engine.configOf scope with
      | none => rfl
      | some c => exact congrArg some (c.asOf_after cal (hsound scope c hc) ht).symm
    rw [hmap hsW, hmap hsU, halike scope op.time le_rfl]

theorem Alike.check (hW : Keyed W) (hsW : Sound W) {input : GuardrailCheckInput}
    (halike : Alike cal t W U) : Alike cal t (W.step cal (.check input t)) U := by
  intro scope now ht
  rw [(keyed_configOf_step cal hW _).2, ← halike scope now ht, stepOf, Option.map_map]
  · cases hc : W.configOf scope with
    | none => rfl
    | some c =>
      refine congrArg some ?_
      simp only [Function.comp, GuardrailConfig.after]
      split_ifs
      · exact c.asOf_check cal (hsW scope c hc) input ht
      · rfl
  · simp

theorem Alike.mono {t' : Date} (halike : Alike cal t W U) (ht : t ≤ t') : Alike cal t' W U :=
  fun scope now hnow => halike scope now (ht.trans hnow)

/-- The observations of a run do not depend on the checks that are not marked. -/
theorem Alike.observations_eq (hW : Keyed W) (hU : Keyed U) (hsW : Sound W) (hsU : Sound U)
    (halike : Alike cal t W U) {ops : List (GuardrailOp × Bool)}
    (hmarked : ∀ op ∈ ops, op.2 = false → ∃ input now, op.1 = .check input now)
    (htimes : (t :: ops.map fun op => op.1.time).Pairwise (· ≤ ·))
    (hcreate : ∀ op ∈ ops, ∀ input now, op.1 = .createConfig input now →
      (input.toConfig now).Sound) :
    observations cal W ops = observations cal U (ops.filter fun op => op.2) := by
  induction ops generalizing W U t with
  | nil => rfl
  | cons op ops ih =>
    obtain ⟨op, marked⟩ := op
    simp only [List.map_cons, List.pairwise_cons, List.forall_mem_cons] at hmarked htimes hcreate
    have halike := halike.mono cal htimes.1.1
    have hW' := (keyed_configOf_step cal hW op).1
    have hsW' := hsW.step cal hW hcreate.1
    have htimes' := List.pairwise_cons.2 htimes.2
    cases marked with
    | true =>
      have hU' := (keyed_configOf_step cal hU op).1
      have hsU' := hsU.step cal hU hcreate.1
      simp only [List.filter_cons_of_pos, observations, if_true]
      rw [halike.observe_eq cal hW hU hsW hsU,
        ih hW' hU' hsW' hsU' (halike.step cal hW hU hsW hsU) hmarked.2 htimes' hcreate.2]
    | false =>
      obtain ⟨input, now, rfl⟩ := hmarked.1 rfl
      simp only [Bool.false_eq_true, not_false_eq_true, List.filter_cons_of_neg, observations,
        if_false]
      exact ih hW' hU hsW' hsU (halike.check cal hW hsW) hmarked.2 htimes' hcreate.2

theorem sound_create (loadedAt createdAt : Date) : Sound (create loadedAt createdAt) := by
  intro scope c hc
  rw [create, configOf_createConfig keyed_empty] at hc
  split_ifs at hc
  · rw [← Option.some.inj hc]
    intro _
    exact show (0 : ℚ) < 3 by norm_num
  · cases hc

/-- For a clock that does not go back and breakers that need a failure to open, leaving out checks
changes no other check and no record of a failure or a success. -/
theorem observations_eq_filter (cal : LocalCalendar) (loadedAt createdAt : Date)
    {ops : List (GuardrailOp × Bool)}
    (hmarked : ∀ op ∈ ops, op.2 = false → ∃ input now, op.1 = .check input now)
    (htimes : (ops.map fun op => op.1.time).Pairwise (· ≤ ·))
    (hcreate : ∀ op ∈ ops, ∀ input now, op.1 = .createConfig input now →
      input.circuitBreakerEnabled = true → 0 < input.maxFailuresBeforeBreaker) :
    observations cal (create loadedAt createdAt) ops =
      observations cal (create loadedAt createdAt) (ops.filter fun op => op.2) := by
  have hkeyed := keyed_create loadedAt createdAt
  have hsound := sound_create loadedAt createdAt
  cases ops with
  | nil => rfl
  | cons op ops =>
    have halike : Alike cal op.1.time (create loadedAt createdAt) (create loadedAt createdAt) :=
      fun _ _ _ => rfl
    refine halike.observations_eq cal hkeyed hkeyed hsound hsound hmarked ?_ hcreate
    rw [List.map_cons, List.pairwise_cons] at htimes ⊢
    exact ⟨List.forall_mem_cons.2 ⟨le_rfl, htimes.1⟩, List.pairwise_cons.2 htimes⟩

def dayMs : Date := 86400000

/-- A check on the second day does not show in the record of the success after it. -/
theorem observations_eq_filter_sample :
    observations (.fixedOffset 0) (create 0 0)
      [(.recordSuccess "guardrail_global_default_0" 100 0, true), (.check plainCheck dayMs, false),
        (.recordSuccess "guardrail_global_default_0" 100 dayMs, true)] =
    observations (.fixedOffset 0) (create 0 0)
      [(.recordSuccess "guardrail_global_default_0" 100 0, true),
        (.recordSuccess "guardrail_global_default_0" 100 dayMs, true)] := by
  refine observations_eq_filter (.fixedOffset 0) 0 0 ?_ (by decide) ?_
  · simp
  · simp

def openBreakerInput : GuardrailInput :=
  { defaultGlobalGuardrailConfig 0 with
    maxFailuresBeforeBreaker := 0, circuitBreakerResetMinutes := 1 }

/-- A check before it changes the daily notional that `recordFailure` returns on the next day; and
where a breaker opens without a failure, a check changes what later checks find. -/
theorem checks_show :
    ((((create 0 0).run (.fixedOffset 0)
        [.recordSuccess "guardrail_global_default_0" 100 0, .check plainCheck dayMs]).recordFailure
      "guardrail_global_default_0" dayMs).1.map fun c => c.dailyNotionalUsd) = some 0 ∧
    ((((create 0 0).run (.fixedOffset 0)
        [.recordSuccess "guardrail_global_default_0" 100 0]).recordFailure
      "guardrail_global_default_0" dayMs).1.map fun c => c.dailyNotionalUsd) = some 100 ∧
    (((create 0 0).run (.fixedOffset 0)
        [.createConfig openBreakerInput 1, .recordFailure "guardrail_global_default_1" 1,
          .check plainCheck 120001, .recordSuccess "guardrail_global_default_1" 100 120001]).check
      (.fixedOffset 0) plainCheck 120001).1.allowed = true ∧
    (((create 0 0).run (.fixedOffset 0)
        [.createConfig openBreakerInput 1, .recordFailure "guardrail_global_default_1" 1,
          .recordSuccess "guardrail_global_default_1" 100 120001]).check
      (.fixedOffset 0) plainCheck 120001).1.allowed = false := by
  decide +kernel

end ExecutionGuardrailEngine

end SentinelApex
