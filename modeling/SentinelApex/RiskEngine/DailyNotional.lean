import SentinelApex.RiskEngine.GuardrailPurity
import Mathlib.Algebra.Group.Submonoid.BigOperators

/-!
# The daily notional cap

The daily window of a configuration is rolled lazily, by checks and by successes, and starts at the
first such operation of the new day. When every success is directly preceded by an allowed check of
the same notional, the notionals recorded on one local day stay within the cap
(`dailyNotional_capped`), also when check and success lie on different sides of midnight.

The sum is the one that `decimal.js` adds up. It is exact for notionals on a common grid of decimal
places; a notional beyond its twentieth digit is lost in it.
-/

namespace SentinelApex

namespace Decimal

theorem plus_le_plus {x y : Decimal} (h : x ≤ y) (z : Decimal) : x.plus z ≤ y.plus z :=
  decimalJs.round_mono (by linarith)

theorem plus_nonneg {x y : Decimal} (hx : 0 ≤ x) (hy : 0 ≤ y) : 0 ≤ x.plus y :=
  decimalJs.round_nonneg (add_nonneg hx hy)

/-- The running sum of decimals. -/
def total (xs : List Decimal) : Decimal := xs.foldl plus 0

@[simp] theorem total_nil : total [] = 0 := rfl

@[simp] theorem total_concat (xs : List Decimal) (x : Decimal) :
    total (xs ++ [x]) = (total xs).plus x := by
  simp [total]

theorem exact_pow (k : ℤ) : Exact k (10 ^ (k + 20)) := by
  refine ⟨decimalJs.mem_grid_iff.2 ⟨10 ^ 20, ?_⟩, (abs_of_pos (zpow_pos (by norm_num) _)).le⟩
  rw [zpow_add₀ (by norm_num), mul_comm]
  norm_num [decimalJs]

/-- On a grid the running sum is exact until it exceeds twenty digits, and then it stays large. -/
theorem total_eq_sum_or_le {k : ℤ} {xs : List Decimal} (hgrid : ∀ x ∈ xs, x ∈ decimalJs.grid k)
    (hnonneg : ∀ x ∈ xs, 0 ≤ x) : total xs = xs.sum ∨ 10 ^ (k + 20) ≤ total xs := by
  induction xs using List.reverseRecOn with
  | nil => exact Or.inl rfl
  | append_singleton xs x ih =>
    simp only [List.mem_append, List.mem_singleton, or_imp, forall_and, forall_eq] at hgrid hnonneg
    have hlarge : ∀ {y : Decimal}, 10 ^ (k + 20) ≤ y → 10 ^ (k + 20) ≤ decimalJs.round y := by
      intro y hy
      calc (10 : Decimal) ^ (k + 20) = decimalJs.round (10 ^ (k + 20)) :=
            (round_of_exact (exact_pow k)).symm
        _ ≤ decimalJs.round y := decimalJs.round_mono hy
    rw [total_concat, List.sum_append, List.sum_singleton]
    rcases ih hgrid.1 hnonneg.1 with heq | hle
    · rw [heq]
      by_cases hb : xs.sum + x ≤ 10 ^ (k + 20)
      · left
        have hsum : 0 ≤ xs.sum + x := add_nonneg (List.sum_nonneg hnonneg.1) hnonneg.2
        exact plus_eq_add ⟨add_mem (list_sum_mem hgrid.1) hgrid.2, (abs_of_nonneg hsum).le.trans hb⟩
      · exact Or.inr (hlarge (not_le.1 hb).le)
    · exact Or.inr (hlarge (hle.trans (le_add_of_nonneg_right hnonneg.2)))

end Decimal

variable {limit : Decimal}

namespace GuardrailConfig

variable (cal : LocalCalendar) (config : GuardrailConfig) {t now : Date}

theorem dailyAsOf_nonneg (h : 0 ≤ config.dailyNotionalUsd) : 0 ≤ (config.dailyAsOf cal now).1 := by
  unfold dailyAsOf
  split_ifs
  · exact le_rfl
  · exact h

theorem dailyAsOf_anti (h : 0 ≤ (config.dailyAsOf cal t).1) (ht : t ≤ now) :
    (config.dailyAsOf cal now).1 ≤ (config.dailyAsOf cal t).1 := by
  by_cases hover : cal.day config.dailyResetAt < cal.day t
  · rw [dailyAsOf, if_pos (hover.trans_le (cal.day_mono ht))]
    exact h
  · have hnow : (config.dailyAsOf cal t).1 = config.dailyNotionalUsd := by
      rw [dailyAsOf, if_neg hover]
    rw [hnow] at h ⊢
    rw [dailyAsOf]
    split_ifs
    · exact h
    · exact le_rfl

theorem dailyAsOf_after {op : GuardrailOp} (hop : ∀ n t, op ≠ .recordSuccess config.id n t)
    (ht : op.time ≤ now) : (config.after cal op).dailyAsOf cal now = config.dailyAsOf cal now := by
  cases op with
  | createConfig | checkPartialFill => rfl
  | triggerKillSwitch | resetKillSwitch | recordFailure =>
    simp only [after]
    split_ifs <;> rfl
  | recordSuccess configId n t =>
    simp only [after]
    rw [if_neg fun h => hop n t (by rw [h])]
  | check input t =>
    simp only [after]
    split_ifs
    · exact config.dailyAsOf_check cal input ht
    · rfl

theorem dailyAsOf_afterSuccess (n : Decimal) (t now : Date) :
    ((config.afterSuccess cal n t).dailyAsOf cal now).1 = (config.dailyAsOf cal t).1.plus n ∨
      cal.day t < cal.day now ∧ ((config.afterSuccess cal n t).dailyAsOf cal now).1 = 0 := by
  have hday : cal.day t ≤ cal.day (config.dailyAsOf cal t).2 := by
    unfold dailyAsOf
    split_ifs with hover
    · rw [cal.day_midnight]
    · rw [cal.day_midnight]
      exact not_lt.1 hover
  rw [dailyAsOf, day_dailyResetAt_afterSuccess, dailyNotionalUsd_afterSuccess]
  split_ifs with hover
  · exact Or.inr ⟨hday.trans_lt hover, rfl⟩
  · exact Or.inl rfl

theorem exists_blocked_of_exceeds (input : GuardrailCheckInput)
    (hlimit : config.maxDailyNotionalUsd = some limit)
    (h : limit < (config.dailyAsOf cal t).1.plus input.notionalUsd) :
    ∃ v ∈ (config.check cal input t).violations, v.blocked = true := by
  rw [violations_check]
  split_ifs
  · exact ⟨_, List.mem_singleton_self _, rfl⟩
  · exact ⟨_, List.mem_singleton_self _, rfl⟩
  · rw [hlimit]
    simp only [dailyViolations, if_pos h]
    exact ⟨_, List.mem_append_right _ (List.mem_singleton_self _), rfl⟩

end GuardrailConfig

variable {ops : List GuardrailOp} {config c : GuardrailConfig}

namespace ExecutionGuardrailEngine

variable (cal : LocalCalendar) {engine : ExecutionGuardrailEngine}

/-- The notionals that successes record on a configuration within one local day. -/
def dayNotionals (id : String) (day : ℤ) (ops : List GuardrailOp) : List Decimal :=
  ops.filterMap fun op =>
    match op with
    | .recordSuccess configId n now => if configId = id ∧ cal.day now = day then some n else none
    | _ => none

/-- Each success on the configuration is directly preceded by an allowed check of its notional to
which the configuration applies. -/
def Guarded (engine : ExecutionGuardrailEngine) (config : GuardrailConfig)
    (ops : List GuardrailOp) : Prop :=
  ∀ pre n now post, ops = pre ++ .recordSuccess config.id n now :: post →
    0 ≤ n ∧ ∃ pre' input now', pre = pre' ++ [.check input now'] ∧ input.notionalUsd = n ∧
      config.scope ∈ scopesOf input ∧ ((engine.run cal pre').check cal input now').1.allowed = true

theorem projected_le_of_allowed {input : GuardrailCheckInput} {t : Date}
    (hc : engine.configOf c.scope = some c) (hscope : c.scope ∈ scopesOf input)
    (hlimit : c.maxDailyNotionalUsd = some limit)
    (hallowed : (engine.check cal input t).1.allowed = true) :
    (c.dailyAsOf cal t).1.plus input.notionalUsd ≤ limit := by
  by_contra hexceeds
  obtain ⟨v, hv, hblocked⟩ := c.exists_blocked_of_exceeds cal input hlimit (not_le.1 hexceeds)
  have hmem : c ∈ engine.getApplicableConfigs input := List.mem_filterMap.2 ⟨c.scope, hscope, hc⟩
  have hany : (engine.check cal input t).1.violations.any (fun v => v.blocked) = true :=
    List.any_eq_true.2 ⟨v, List.mem_flatMap.2 ⟨_, List.mem_map_of_mem hmem, hv⟩, hblocked⟩
  have hrefused : (engine.check cal input t).1.allowed = false := by
    rw [← Bool.not_true, ← hany]
    rfl
  rw [hrefused] at hallowed
  exact absurd hallowed Bool.false_ne_true

theorem dayNotionals_concat (id : String) (day : ℤ) (ops : List GuardrailOp) (op : GuardrailOp) :
    dayNotionals cal id day (ops ++ [op]) =
      dayNotionals cal id day ops ++ dayNotionals cal id day [op] :=
  List.filterMap_append

theorem dayNotionals_success (id : String) (day : ℤ) (n : Decimal) (now : Date) :
    dayNotionals cal id day [.recordSuccess id n now] = if cal.day now = day then [n] else [] := by
  by_cases h : cal.day now = day <;> simp [dayNotionals, h]

theorem dayNotionals_other {id : String} {op : GuardrailOp}
    (h : ∀ n now, op ≠ .recordSuccess id n now) (day : ℤ) : dayNotionals cal id day [op] = [] := by
  cases op with
  | recordSuccess configId n now =>
    have hne : configId ≠ id := fun hid => h n now (by rw [hid])
    simp [dayNotionals, hne]
  | _ => rfl

theorem dayNotionals_future {id : String} {day : ℤ} (h : ∀ op ∈ ops, cal.day op.time < day) :
    dayNotionals cal id day ops = [] := by
  refine List.filterMap_eq_nil_iff.2 fun op hop => ?_
  have hlt := h op hop
  cases op with
  | recordSuccess configId n now => exact if_neg fun hday => hlt.ne hday.2
  | _ => rfl

/-- After a run from `config` the window of its successor `c` covers what was recorded. -/
structure WithinCap (engine : ExecutionGuardrailEngine) (config : GuardrailConfig) (limit : Decimal)
    (ops : List GuardrailOp) (c : GuardrailConfig) : Prop where
  settings : c.settings = config.settings
  nonneg : ∀ now, (∀ op ∈ ops, op.time ≤ now) → 0 ≤ (c.dailyAsOf cal now).1
  today : ∀ now, (∀ op ∈ ops, op.time ≤ now) →
    Decimal.total (dayNotionals cal config.id (cal.day now) ops) ≤ (c.dailyAsOf cal now).1
  capped : ∀ day, dayNotionals cal config.id day ops ≠ [] →
    Decimal.total (dayNotionals cal config.id day ops) ≤ limit
  /-- An allowed check leaves room for its notional. -/
  cleared : ∀ pre input t, ops = pre ++ [.check input t] → config.scope ∈ scopesOf input →
    ((engine.run cal pre).check cal input t).1.allowed = true →
    ∀ now, t ≤ now → (c.dailyAsOf cal now).1.plus input.notionalUsd ≤ limit

theorem WithinCap.same (h : WithinCap cal engine config limit ops c) :
    c.id = config.id ∧ c.scope = config.scope ∧
      c.maxDailyNotionalUsd = config.maxDailyNotionalUsd := by
  have hid := congrArg (fun c : GuardrailConfig => c.id) h.settings
  have hscope := congrArg GuardrailConfig.scope h.settings
  have hmax := congrArg (fun c : GuardrailConfig => c.maxDailyNotionalUsd) h.settings
  exact ⟨hid, hscope, hmax⟩

theorem WithinCap.success {n : Decimal} {t : Date} (h : WithinCap cal engine config limit ops c)
    (ht : ∀ op ∈ ops, op.time ≤ t) (hn : 0 ≤ n) (hroom : (c.dailyAsOf cal t).1.plus n ≤ limit) :
    WithinCap cal engine config limit (ops ++ [.recordSuccess config.id n t])
      (c.afterSuccess cal n t) := by
  have hplus := Decimal.plus_nonneg (h.nonneg t ht) hn
  have hday : Decimal.total (dayNotionals cal config.id (cal.day t)
      (ops ++ [.recordSuccess config.id n t])) ≤ (c.dailyAsOf cal t).1.plus n := by
    rw [dayNotionals_concat, dayNotionals_success, if_pos rfl, Decimal.total_concat]
    exact Decimal.plus_le_plus (h.today t ht) n
  refine ⟨?_, ?_, ?_, ?_, ?_⟩
  · have hsettings := c.settings_after cal (.recordSuccess c.id n t)
    rw [GuardrailConfig.after, if_pos rfl] at hsettings
    exact hsettings.trans h.settings
  · intro now _
    rcases c.dailyAsOf_afterSuccess cal n t now with heq | ⟨-, heq⟩ <;> rw [heq]
    exact hplus
  · intro now hnow
    have htnow : t ≤ now := hnow _ (List.mem_append_right _ (List.mem_singleton_self _))
    rcases (cal.day_mono htnow).eq_or_lt with heq | hlt
    · rcases c.dailyAsOf_afterSuccess cal n t now with hdaily | ⟨hlt, -⟩
      · rw [hdaily, ← heq]
        exact hday
      · exact absurd heq hlt.ne
    · -- The day of `now` has not come at `t`.
      have hempty : dayNotionals cal config.id (cal.day now)
          (ops ++ [.recordSuccess config.id n t]) = [] := by
        refine dayNotionals_future cal fun op hop => ?_
        rcases List.mem_append.1 hop with hop | hop
        · exact (cal.day_mono (ht op hop)).trans_lt hlt
        · rw [List.mem_singleton.1 hop]
          exact hlt
      rw [hempty, Decimal.total_nil]
      rcases c.dailyAsOf_afterSuccess cal n t now with heq | ⟨-, heq⟩ <;> rw [heq]
      exact hplus
  · intro day hne
    by_cases heq : cal.day t = day
    · subst heq
      exact hday.trans hroom
    · rw [dayNotionals_concat, dayNotionals_success, if_neg heq, List.append_nil] at hne ⊢
      exact h.capped day hne
  · intro pre input t' heq
    exact absurd (List.append_inj_right' heq rfl) (by simp)

theorem WithinCap.other {op : GuardrailOp} (h : WithinCap cal engine config limit ops c)
    (hc : (engine.run cal ops).configOf config.scope = some c)
    (hlimit : config.maxDailyNotionalUsd = some limit) (ht : ∀ op' ∈ ops, op'.time ≤ op.time)
    (hop : ∀ n t, op ≠ .recordSuccess config.id n t) :
    WithinCap cal engine config limit (ops ++ [op]) (c.after cal op) := by
  obtain ⟨hid, hscope, hmax⟩ := h.same
  have hdaily : ∀ {now}, op.time ≤ now →
      (c.after cal op).dailyAsOf cal now = c.dailyAsOf cal now :=
    fun hnow => c.dailyAsOf_after cal (hid ▸ hop) hnow
  have hnotionals : ∀ day, dayNotionals cal config.id day (ops ++ [op]) =
      dayNotionals cal config.id day ops := by
    intro day
    rw [dayNotionals_concat, dayNotionals_other cal hop, List.append_nil]
  have hpast : ∀ {now}, (∀ op' ∈ ops ++ [op], op'.time ≤ now) →
      (∀ op' ∈ ops, op'.time ≤ now) ∧ op.time ≤ now := by
    intro now hnow
    exact ⟨fun op' hop' => hnow op' (List.mem_append_left _ hop'),
      hnow op (List.mem_append_right _ (List.mem_singleton_self _))⟩
  refine ⟨(c.settings_after cal op).trans h.settings, ?_, ?_, ?_, ?_⟩
  · intro now hnow
    rw [hdaily (hpast hnow).2]
    exact h.nonneg now (hpast hnow).1
  · intro now hnow
    rw [hdaily (hpast hnow).2, hnotionals]
    exact h.today now (hpast hnow).1
  · intro day hne
    rw [hnotionals] at hne ⊢
    exact h.capped day hne
  · intro pre input t heq hin hallowed now hnow
    obtain ⟨rfl, hlast⟩ := List.append_inj' heq rfl
    obtain rfl : op = .check input t := List.singleton_inj.1 hlast
    have hroom := projected_le_of_allowed cal (hscope.symm ▸ hc) (hscope.symm ▸ hin)
      (hmax.trans hlimit) hallowed
    rw [hdaily hnow]
    exact (Decimal.plus_le_plus (c.dailyAsOf_anti cal (h.nonneg t ht) hnow) _).trans hroom

/-- The window covers what was recorded, after every run. -/
theorem withinCap_run (hkeyed : Keyed engine) (hconfig : engine.configOf config.scope = some config)
    (hstart : 0 ≤ config.dailyNotionalUsd) (hlimit : config.maxDailyNotionalUsd = some limit)
    (htimes : (ops.map GuardrailOp.time).Pairwise (· ≤ ·))
    (hkeep : ∀ op ∈ ops, ∀ input now, op = .createConfig input now → input.scope ≠ config.scope)
    (hguard : Guarded cal engine config ops) :
    ∃ c, (engine.run cal ops).configOf config.scope = some c ∧
      WithinCap cal engine config limit ops c := by
  induction ops using List.reverseRecOn with
  | nil =>
    refine ⟨config, hconfig, rfl, ?_, ?_, ?_, ?_⟩
    · exact fun now _ => config.dailyAsOf_nonneg cal hstart
    · exact fun now _ => config.dailyAsOf_nonneg cal hstart
    · exact fun day hne => absurd rfl hne
    · intro pre input t heq
      exact absurd heq (by simp)
  | append_singleton ops op ih =>
    simp only [List.map_append, List.map_cons, List.map_nil, List.pairwise_append,
      List.forall_mem_map, List.mem_singleton, forall_eq] at htimes
    have hguard' : Guarded cal engine config ops := by
      intro pre n now post heq
      exact hguard pre n now (post ++ [op]) (by rw [heq, List.append_assoc, List.cons_append])
    obtain ⟨c, hc, hcap⟩ := ih htimes.1
      (fun op' hop' => hkeep op' (List.mem_append_left _ hop')) hguard'
    have hstep : (engine.run cal (ops ++ [op])).configOf config.scope = some (c.after cal op) := by
      have hrun := (keyed_configOf_run cal hkeyed ops).1
      have hop := hkeep op (List.mem_append_right _ (List.mem_singleton_self _))
      rw [run_append]
      refine ((keyed_configOf_step cal hrun op).2 _).trans ?_
      rw [hc, stepOf_eq_map cal hop]
      rfl
    refine ⟨_, hstep, ?_⟩
    by_cases hsuccess : ∃ n t, op = .recordSuccess config.id n t
    · obtain ⟨n, t, rfl⟩ := hsuccess
      obtain ⟨hn, pre, input, t', heq, rfl, hin, hallowed⟩ := hguard ops n t [] rfl
      have ht : t' ≤ t := htimes.2.2 (.check input t') (by rw [heq]; simp)
      have hroom := hcap.cleared pre input t' heq hin hallowed t ht
      rw [GuardrailConfig.after, if_pos hcap.same.1]
      exact hcap.success cal htimes.2.2 hn hroom
    · exact hcap.other cal hc hlimit htimes.2.2 fun n t heq => hsuccess ⟨n, t, heq⟩

theorem Guarded.nonneg (h : Guarded cal engine config ops) (day : ℤ) :
    ∀ n ∈ dayNotionals cal config.id day ops, 0 ≤ n := by
  intro n hn
  obtain ⟨op, hop, hsome⟩ := List.mem_filterMap.1 hn
  obtain ⟨pre, post, rfl⟩ := List.append_of_mem hop
  cases op with
  | recordSuccess configId n' now =>
    simp only [Option.ite_none_right_eq_some, Option.some.injEq] at hsome
    obtain ⟨⟨rfl, -⟩, rfl⟩ := hsome
    exact (h pre n' now post rfl).1
  | _ => cases hsome

/-- The cap of a configuration from its creation on, until its scope gets another one. The clock
does not go back, the window starts with a nonnegative notional and every success is directly
preceded by an allowed check. -/
theorem dailyNotional_capped (cal : LocalCalendar) (pre : List GuardrailOp) {input : GuardrailInput}
    {createdAt : Date} (hstart : 0 ≤ input.dailyNotionalUsd) {limit : Decimal}
    (hlimit : input.maxDailyNotionalUsd = some limit) {ops : List GuardrailOp}
    (htimes : (ops.map GuardrailOp.time).Pairwise (· ≤ ·))
    (hkeep : ∀ op ∈ ops, ∀ input' now, op = .createConfig input' now → input'.scope ≠ input.scope)
    (hguard : Guarded cal
      ((⟨OrderedMap.empty⟩ : ExecutionGuardrailEngine).run cal
        (pre ++ [.createConfig input createdAt]))
      (input.toConfig createdAt) ops)
    {day : ℤ} (hday : dayNotionals cal (input.toConfig createdAt).id day ops ≠ []) :
    Decimal.total (dayNotionals cal (input.toConfig createdAt).id day ops) ≤ limit ∧
      ∀ k : ℤ,
        (∀ n ∈ dayNotionals cal (input.toConfig createdAt).id day ops, n ∈ decimalJs.grid k) →
        limit < 10 ^ (k + 20) →
        (dayNotionals cal (input.toConfig createdAt).id day ops).sum ≤ limit := by
  have hkeyed := (keyed_configOf_run cal keyed_empty pre).1
  rw [run_append] at hguard
  have hcreate : (((⟨OrderedMap.empty⟩ : ExecutionGuardrailEngine).run cal pre).createConfig input
      createdAt).2.configOf (input.toConfig createdAt).scope = some (input.toConfig createdAt) :=
    (configOf_createConfig hkeyed input createdAt _).trans (if_pos rfl)
  obtain ⟨c, -, hcap⟩ := withinCap_run cal (hkeyed.createConfig input createdAt) hcreate hstart
    hlimit htimes hkeep hguard
  have htotal := hcap.capped day hday
  refine ⟨htotal, fun k hgrid hlt => ?_⟩
  rcases Decimal.total_eq_sum_or_le hgrid (hguard.nonneg cal day) with heq | hle
  · rw [← heq]
    exact htotal
  · exact absurd (htotal.trans_lt hlt) (not_lt.2 hle)

theorem Guarded.concat (h : Guarded cal engine config ops) {input : GuardrailCheckInput}
    {t now : Date} (hn : 0 ≤ input.notionalUsd) (hscope : config.scope ∈ scopesOf input)
    (hallowed : ((engine.run cal ops).check cal input t).1.allowed = true) :
    Guarded cal engine config
      (ops ++ [.check input t, .recordSuccess config.id input.notionalUsd now]) := by
  intro pre n now' post heq
  rw [List.append_cons] at heq
  rcases post.eq_nil_or_concat' with rfl | ⟨post, last, rfl⟩
  · obtain ⟨rfl, hlast⟩ := List.append_inj' heq rfl
    injection List.head_eq_of_cons_eq hlast with _ hnotional _
    exact ⟨hnotional ▸ hn, ops, input, t, rfl, hnotional, hscope, hallowed⟩
  · rw [← List.cons_append, ← List.append_assoc] at heq
    obtain ⟨heq, -⟩ := List.append_inj' heq rfl
    rcases post.eq_nil_or_concat' with rfl | ⟨post, last, rfl⟩
    · obtain ⟨-, hlast⟩ := List.append_inj' heq rfl
      cases List.head_eq_of_cons_eq hlast
    · rw [← List.cons_append, ← List.append_assoc] at heq
      exact h pre n now' post (List.append_inj' heq rfl).1

def capOfOne (dailyNotionalUsd : Decimal) : GuardrailInput :=
  { defaultGlobalGuardrailConfig 0 with
    maxSingleActionNotionalUsd := none
    minActionNotionalUsd := none
    maxDailyNotionalUsd := some 1
    dailyNotionalUsd }

def checkOf (notionalUsd : Decimal) : GuardrailCheckInput := { plainCheck with notionalUsd }

def engineOf (input : GuardrailInput) : ExecutionGuardrailEngine :=
  ((⟨OrderedMap.empty⟩ : ExecutionGuardrailEngine).createConfig input 0).2

def checkedSuccess (notionalUsd : Decimal) (now : Date) : List GuardrailOp :=
  [.check (checkOf notionalUsd) now, .recordSuccess "guardrail_global_default_0" notionalUsd now]

/-- Two successes reach the cap just before midnight, and a third one reaches it again after it. -/
theorem dailyNotional_capped_sample :
    let ops := checkedSuccess (2 / 5) (dayMs - 2) ++ checkedSuccess (3 / 5) (dayMs - 1) ++
      checkedSuccess 1 dayMs
    ∀ day ∈ [0, 1], dayNotionals (.fixedOffset 0) "guardrail_global_default_0" day ops ≠ [] ∧
      Decimal.total (dayNotionals (.fixedOffset 0) "guardrail_global_default_0" day ops) ≤ 1 := by
  intro ops day hday
  have hstep {ops : List GuardrailOp} {n : Decimal} {now : Date} (hn : 0 ≤ n)
      (hallowed : (((engineOf (capOfOne 0)).run (.fixedOffset 0) ops).check (.fixedOffset 0)
        (checkOf n) now).1.allowed = true)
      (h : Guarded (.fixedOffset 0) (engineOf (capOfOne 0)) ((capOfOne 0).toConfig 0) ops) :
      Guarded (.fixedOffset 0) (engineOf (capOfOne 0)) ((capOfOne 0).toConfig 0)
        (ops ++ checkedSuccess n now) :=
    h.concat (.fixedOffset 0) hn List.mem_cons_self hallowed
  have hfirst : Guarded (.fixedOffset 0) (engineOf (capOfOne 0)) ((capOfOne 0).toConfig 0)
      ([] ++ checkedSuccess (2 / 5) (dayMs - 2)) :=
    hstep (by norm_num) (by decide +kernel) fun pre n now post heq => by simp at heq
  have hguard : Guarded (.fixedOffset 0) (engineOf (capOfOne 0)) ((capOfOne 0).toConfig 0) ops :=
    hstep (by norm_num) (by decide +kernel) (hstep (by norm_num) (by decide +kernel) hfirst)
  have hne : dayNotionals (.fixedOffset 0) "guardrail_global_default_0" day ops ≠ [] := by
    revert day
    decide +kernel
  exact ⟨hne, (dailyNotional_capped (.fixedOffset 0) [] (by decide +kernel) rfl (by decide +kernel)
    (by simp [ops, checkedSuccess]) hguard hne).1⟩

/-- The sum of one day exceeds the cap of 1 after checks that were all allowed: by a notional beyond
the twentieth digit, by a window that starts below zero, and by a clock that goes back to a day
whose window was rolled over. -/
theorem dailyNotional_exceeds :
    ((engineOf (capOfOne 0)).check (.fixedOffset 0) (checkOf 1) 0).1.allowed = true ∧
    (((engineOf (capOfOne 0)).run (.fixedOffset 0) (checkedSuccess 1 0)).check (.fixedOffset 0)
      (checkOf (1 / 10 ^ 21)) 0).1.allowed = true ∧
    1 < (dayNotionals (.fixedOffset 0) "guardrail_global_default_0" 0
      (checkedSuccess 1 0 ++ checkedSuccess (1 / 10 ^ 21) 0)).sum ∧
    ((engineOf (capOfOne (-1))).check (.fixedOffset 0) (checkOf 2) 0).1.allowed = true ∧
    1 < (dayNotionals (.fixedOffset 0) "guardrail_global_default_0" 0 (checkedSuccess 2 0)).sum ∧
    (((engineOf (capOfOne 0)).run (.fixedOffset 0)
      (checkedSuccess 1 0 ++ [.check (checkOf 1) dayMs])).check (.fixedOffset 0)
      (checkOf 1) 0).1.allowed = true ∧
    1 < (dayNotionals (.fixedOffset 0) "guardrail_global_default_0" 0
      (checkedSuccess 1 0 ++ [.check (checkOf 1) dayMs] ++ checkedSuccess 1 0)).sum := by
  decide +kernel

end ExecutionGuardrailEngine

end SentinelApex
