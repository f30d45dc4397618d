import SentinelApex.RiskEngine.Guardrails
import SentinelApex.Lib.Separated

/-!
# Guardrails by scope

The engine looks configurations up by id and by scope. In every engine that operations build
(`Keyed`) an id names its scope and no scope has two configurations. Hence an operation acts on
each scope by itself (`configOf_step`), and a run of the engine is, for each scope, a run on one
configuration (`configOf_run`).

A triggered kill switch blocks every check under its scope until the scope's configuration is reset
or replaced by one whose own switch is not on (`killSwitch_persists`).
-/

namespace SentinelApex

open Separated

/-! ## Ids -/

theorem GuardrailScope.text_injective : Function.Injective GuardrailScope.text := by
  intro s s' h
  cases s <;> cases s' <;> first | rfl | exact absurd h (by decide)

theorem GuardrailScope.underscore_notMem_text (s : GuardrailScope) : '_' ∉ s.text.toList := by
  cases s <;> decide

theorem toList_guardrailId (s : GuardrailScope) (id : String) (t : Date) :
    (guardrailId s id t).toList =
      "guardrail_".toList ++
        (s.text.toList ++ '_' :: (id.toList ++ '_' :: (Int.repr t).toList)) := by
  simp [guardrailId, toString]

/-- An id determines its scope: the type is read from the left and the time from the right. -/
theorem guardrailId_inj {s s' : GuardrailScope} {id id' : String} {t t' : Date}
    (h : guardrailId s id t = guardrailId s' id' t') : (s, id) = (s', id') := by
  have hlist := congrArg String.toList h
  rw [toList_guardrailId, toList_guardrailId] at hlist
  obtain ⟨hs, hrest⟩ := append_cons_inj_of_notMem_heads s.underscore_notMem_text
    s'.underscore_notMem_text (List.append_cancel_left hlist)
  obtain ⟨hid, -⟩ := append_cons_inj_of_notMem_tails (notMem_intRepr rfl (by decide) t)
    (notMem_intRepr rfl (by decide) t') hrest
  rw [GuardrailScope.text_injective (String.toList_inj.1 hs), String.toList_inj.1 hid]

/-! ## Operations on one configuration -/

namespace GuardrailConfig

variable (cal : LocalCalendar) (config : GuardrailConfig)

/-- What an operation other than a creation does to a configuration. -/
def after (op : GuardrailOp) : GuardrailConfig :=
  match op with
  | .triggerKillSwitch configId triggeredBy reason now =>
    if config.id = configId ∧ config.killSwitchEnabled then
      config.afterTrigger triggeredBy reason now
    else config
  | .resetKillSwitch configId _ now =>
    if config.id = configId then config.afterReset now else config
  | .recordFailure configId now =>
    if config.id = configId ∧ config.circuitBreakerEnabled then config.afterFailure now else config
  | .recordSuccess configId notionalUsd now =>
    if config.id = configId then config.afterSuccess cal notionalUsd now else config
  | .check input now =>
    if config.scope ∈ ExecutionGuardrailEngine.scopesOf input then
      (config.check cal input now).config
    else config
  | .createConfig _ _ => config
  | .checkPartialFill _ _ _ _ => config

/-- A configuration without its failure counter and its daily window. -/
def core : GuardrailConfig :=
  { config with failureCount := 0, lastFailureAt := none, dailyNotionalUsd := 0, dailyResetAt := 0 }

theorem core_resetDailyNotionalIfNeeded (now : Date) :
    (config.resetDailyNotionalIfNeeded cal now).core = config.core := by
  unfold resetDailyNotionalIfNeeded
  split_ifs <;> rfl

theorem core_isCircuitBreakerOpen (now : Date) :
    (config.isCircuitBreakerOpen now).2.core = config.core := by
  unfold isCircuitBreakerOpen
  split_ifs <;> rfl

theorem core_check (input : GuardrailCheckInput) (now : Date) :
    (config.check cal input now).config.core = config.core := by
  unfold check
  dsimp only
  split_ifs
  · rfl
  · exact config.core_isCircuitBreakerOpen now
  · split
    · exact config.core_isCircuitBreakerOpen now
    · rw [core_resetDailyNotionalIfNeeded, core_isCircuitBreakerOpen]

theorem core_afterSuccess (notionalUsd : Decimal) (now : Date) :
    (config.afterSuccess cal notionalUsd now).core = { config.core with updatedAt := now } := by
  unfold afterSuccess resetDailyNotionalIfNeeded
  dsimp only
  split_ifs <;> rfl

/-- What no operation changes. -/
def settings : GuardrailConfig :=
  { config.core with
    killSwitchTriggered := false
    killSwitchTriggeredAt := none
    killSwitchTriggeredBy := none
    killSwitchReason := none
    updatedAt := 0 }

theorem settings_after (op : GuardrailOp) : (config.after cal op).settings = config.settings := by
  have hcore : ∀ c : GuardrailConfig, c.settings = c.core.settings := fun _ => rfl
  cases op with
  | createConfig | checkPartialFill => rfl
  | triggerKillSwitch | resetKillSwitch | recordFailure =>
    simp only [after]
    split_ifs <;> rfl
  | recordSuccess =>
    simp only [after]
    split_ifs
    · rw [hcore, core_afterSuccess]
      rfl
    · rfl
  | check =>
    simp only [after]
    split_ifs
    · rw [hcore, core_check]
      rfl
    · rfl

/-- Two configurations are the same one at different times. -/
def SameKey (c c' : GuardrailConfig) : Prop := c'.id = c.id ∧ c'.scope = c.scope

theorem SameKey.of_core {c c' : GuardrailConfig} (h : SameKey c.core c'.core) : SameKey c c' := h

theorem check_sameKey (input : GuardrailCheckInput) (now : Date) :
    SameKey config (config.check cal input now).config :=
  SameKey.of_core (config.core_check cal input now ▸ ⟨rfl, rfl⟩)

theorem afterSuccess_sameKey (notionalUsd : Decimal) (now : Date) :
    SameKey config (config.afterSuccess cal notionalUsd now) :=
  SameKey.of_core (config.core_afterSuccess cal notionalUsd now ▸ ⟨rfl, rfl⟩)

def switchOn : Bool := config.killSwitchEnabled && config.killSwitchTriggered

/-- No operation but a reset of the configuration turns its switch off. -/
theorem switchOn_after {op : GuardrailOp} (hon : config.switchOn = true)
    (hreset : ∀ resetBy now, op ≠ .resetKillSwitch config.id resetBy now) :
    (config.after cal op).switchOn = true := by
  have hcore : ∀ c : GuardrailConfig, c.core.switchOn = true → c.switchOn = true := fun _ h => h
  cases op with
  | createConfig | checkPartialFill => exact hon
  | triggerKillSwitch =>
    simp only [after]
    split_ifs with h
    · exact (Bool.and_true _).trans h.2
    · exact hon
  | resetKillSwitch configId resetBy now =>
    simp only [after]
    rw [if_neg fun h => hreset resetBy now (by rw [h])]
    exact hon
  | recordFailure =>
    simp only [after]
    split_ifs <;> exact hon
  | recordSuccess =>
    simp only [after]
    split_ifs
    · exact hcore _ (config.core_afterSuccess cal _ _ ▸ hon)
    · exact hon
  | check =>
    simp only [after]
    split_ifs
    · exact hcore _ (config.core_check cal _ _ ▸ hon)
    · exact hon

end GuardrailConfig

def GuardrailInput.scope (input : GuardrailInput) : GuardrailScope × String :=
  (input.scopeType, input.scopeId)

variable {scope : GuardrailScope × String} {c : GuardrailConfig}

namespace ExecutionGuardrailEngine

variable (cal : LocalCalendar) {engine : ExecutionGuardrailEngine}

/-! ## Configurations by scope -/

def configOf (engine : ExecutionGuardrailEngine) (scope : GuardrailScope × String) :
    Option GuardrailConfig :=
  engine.getConfig scope.1 scope.2

/-- A configuration is stored under its id, the id names its scope, and a scope has at most one. -/
structure Keyed (engine : ExecutionGuardrailEngine) : Prop where
  key_eq : ∀ e ∈ engine.configs.entries, e.1 = e.2.id
  id_eq : ∀ e ∈ engine.configs.entries, ∃ t, e.2.id = guardrailId e.2.scopeType e.2.scopeId t
  unique : ∀ e ∈ engine.configs.entries, ∀ e' ∈ engine.configs.entries,
    e.2.scope = e'.2.scope → e = e'

theorem mem_values_of_configOf (h : engine.configOf scope = some c) :
    c ∈ engine.configs.values ∧ c.scope = scope := by
  have hscope := List.find?_some (p := fun c : GuardrailConfig =>
    decide (c.scopeType = scope.1 ∧ c.scopeId = scope.2)) h
  exact ⟨List.mem_of_find?_eq_some h, Prod.ext_iff.2 (of_decide_eq_true hscope)⟩

theorem configOf_eq_some_iff (h : Keyed engine) :
    engine.configOf scope = some c ↔ (c.id, c) ∈ engine.configs.entries ∧ c.scope = scope := by
  constructor
  · intro hc
    obtain ⟨hmem, hscope⟩ := mem_values_of_configOf hc
    obtain ⟨e, he, rfl⟩ := List.mem_map.1 hmem
    exact ⟨h.key_eq e he ▸ he, hscope⟩
  · rintro ⟨hmem, rfl⟩
    cases hc : engine.configOf c.scope with
    | none =>
      have hnone := List.find?_eq_none.1 hc c (List.mem_map.2 ⟨_, hmem, rfl⟩)
      exact absurd (by simp [GuardrailConfig.scope]) hnone
    | some c' =>
      obtain ⟨hmem', hscope⟩ := mem_values_of_configOf hc
      obtain ⟨e, he, rfl⟩ := List.mem_map.1 hmem'
      rw [h.unique e he _ hmem hscope]

theorem get?_eq_some_iff (h : Keyed engine) {id : String} :
    engine.configs.get? id = some c ↔ engine.configOf c.scope = some c ∧ c.id = id := by
  rw [OrderedMap.get?_eq_some_iff, configOf_eq_some_iff h]
  constructor
  · intro hmem
    obtain rfl : id = c.id := h.key_eq _ hmem
    exact ⟨⟨hmem, rfl⟩, rfl⟩
  · rintro ⟨⟨hmem, -⟩, rfl⟩
    exact hmem

/-! ## Writing a configuration -/

/-- The second engine is the first with `c` as the configuration of its scope. -/
def Replaces (engine engine' : ExecutionGuardrailEngine) (c : GuardrailConfig) : Prop :=
  ∀ e, e ∈ engine'.configs.entries ↔
    e = (c.id, c) ∨ e.2.scope ≠ c.scope ∧ e ∈ engine.configs.entries

variable {engine' : ExecutionGuardrailEngine}

theorem Keyed.of_replaces (h : Keyed engine) (hid : ∃ t, c.id = guardrailId c.scopeType c.scopeId t)
    (hrep : Replaces engine engine' c) :
    Keyed engine' where
  key_eq e he := by
    rcases (hrep e).1 he with rfl | ⟨-, he⟩
    · rfl
    · exact h.key_eq e he
  id_eq e he := by
    rcases (hrep e).1 he with rfl | ⟨-, he⟩
    · exact hid
    · exact h.id_eq e he
  unique e he e' he' hscope := by
    rcases (hrep e).1 he with rfl | ⟨hne, he⟩ <;> rcases (hrep e').1 he' with rfl | ⟨hne', he'⟩
    · rfl
    · exact absurd hscope.symm hne'
    · exact absurd hscope hne
    · exact h.unique e he e' he' hscope

theorem configOf_of_replaces (h : Keyed engine) (h' : Keyed engine')
    (hrep : Replaces engine engine' c) (scope : GuardrailScope × String) :
    engine'.configOf scope = if c.scope = scope then some c else engine.configOf scope := by
  ext c'
  rw [configOf_eq_some_iff h', hrep]
  split_ifs with hs
  · subst hs
    constructor
    · rintro ⟨heq | ⟨hne, -⟩, hscope⟩
      · rw [(Prod.mk.inj heq).2]
      · exact absurd hscope hne
    · intro heq
      rw [Option.some.inj heq]
      exact ⟨Or.inl rfl, rfl⟩
  · rw [configOf_eq_some_iff h]
    constructor
    · rintro ⟨heq | ⟨-, hmem⟩, rfl⟩
      · exact absurd (by rw [(Prod.mk.inj heq).2]) hs
      · exact ⟨hmem, rfl⟩
    · rintro ⟨hmem, rfl⟩
      exact ⟨Or.inr ⟨Ne.symm hs, hmem⟩, rfl⟩

theorem Keyed.scope_eq_of_key_eq (h : Keyed engine) {e : String × GuardrailConfig}
    (he : e ∈ engine.configs.entries) (hid : ∃ t, c.id = guardrailId c.scopeType c.scopeId t)
    (hkey : e.1 = c.id) : e.2.scope = c.scope := by
  obtain ⟨t, ht⟩ := hid
  obtain ⟨t', ht'⟩ := h.id_eq e he
  rw [h.key_eq e he, ht, ht'] at hkey
  exact guardrailId_inj hkey

variable {c c' : GuardrailConfig}

section

variable (h : Keyed engine) (hc : engine.configOf c.scope = some c) (hkey : c.SameKey c')

include h hc hkey

theorem replaces_put : Replaces engine (engine.put c') c' := by
  intro e
  obtain ⟨hmem, -⟩ := (configOf_eq_some_iff h).1 hc
  rw [put, OrderedMap.mem_entries_set, hkey.1, hkey.2]
  refine or_congr_right (and_congr_left fun he => not_congr ⟨fun hid => ?_, fun hs => ?_⟩)
  · exact h.scope_eq_of_key_eq he (h.id_eq _ hmem) hid
  · rw [h.unique e he _ hmem hs]

theorem Keyed.put :
    Keyed (engine.put c') := by
  refine h.of_replaces ?_ (replaces_put h hc hkey)
  obtain ⟨t, ht⟩ := h.id_eq _ ((configOf_eq_some_iff h).1 hc).1
  obtain ⟨hst, hsi⟩ := Prod.mk.inj hkey.2
  exact ⟨t, by rw [hkey.1, hst, hsi]; exact ht⟩

theorem configOf_put (scope : GuardrailScope × String) :
    (engine.put c').configOf scope =
      if c.scope = scope then some c' else engine.configOf scope := by
  rw [configOf_of_replaces h (h.put hc hkey) (replaces_put h hc hkey), hkey.2]

end

section

variable (h : Keyed engine) (input : GuardrailInput) (now : Date)

include h

theorem replaces_createConfig :
    Replaces engine (engine.createConfig input now).2 (input.toConfig now) := by
  intro e
  have hfilter : e ∈ (engine.configs.filter fun existing =>
      !(decide (existing.scopeType = input.scopeType ∧ existing.scopeId = input.scopeId))).entries ↔
      e.2.scope ≠ (input.toConfig now).scope ∧ e ∈ engine.configs.entries := by
    rw [OrderedMap.filter, List.mem_filter, and_comm, GuardrailConfig.scope,
      GuardrailConfig.scope, ne_eq, Prod.mk.injEq, Bool.not_eq_true', decide_eq_false_iff_not]
    rfl
  rw [createConfig, OrderedMap.mem_entries_set, hfilter]
  refine or_congr_right ⟨fun he => he.2, fun he => ⟨fun hid => ?_, he⟩⟩
  exact he.1 (h.scope_eq_of_key_eq he.2 ⟨now, rfl⟩ hid)

theorem Keyed.createConfig :
    Keyed (engine.createConfig input now).2 :=
  h.of_replaces ⟨now, rfl⟩ (replaces_createConfig h input now)

theorem configOf_createConfig (scope : GuardrailScope × String) :
    (engine.createConfig input now).2.configOf scope =
      if input.scope = scope then some (input.toConfig now) else engine.configOf scope :=
  configOf_of_replaces h (h.createConfig input now) (replaces_createConfig h input now) scope

end

theorem keyed_empty : Keyed ⟨OrderedMap.empty⟩ where
  key_eq _ he := absurd he List.not_mem_nil
  id_eq _ he := absurd he List.not_mem_nil
  unique _ he := absurd he List.not_mem_nil

theorem keyed_create (loadedAt now : Date) : Keyed (create loadedAt now) :=
  keyed_empty.createConfig _ _

/-! ## Steps and runs, scope by scope -/

def stepOf (scope : GuardrailScope × String) (config : Option GuardrailConfig) (op : GuardrailOp) :
    Option GuardrailConfig :=
  match op with
  | .createConfig input now => if input.scope = scope then some (input.toConfig now) else config
  | op => config.map fun c => c.after cal op

theorem stepOf_eq_map {op : GuardrailOp}
    (hop : ∀ input now, op = .createConfig input now → input.scope ≠ scope)
    (config : Option GuardrailConfig) :
    stepOf cal scope config op = config.map fun c => c.after cal op := by
  cases op with
  | createConfig input now =>
    refine (if_neg (hop input now rfl)).trans ?_
    cases config <;> rfl
  | _ => rfl

theorem creates_or_updates (scope : GuardrailScope × String) (op : GuardrailOp) :
    (∃ input now, op = .createConfig input now ∧ input.scope = scope) ∨
      ∀ input now, op = .createConfig input now → input.scope ≠ scope := by
  by_cases hcreate : ∃ input now, op = .createConfig input now ∧ input.scope = scope
  · exact Or.inl hcreate
  · exact Or.inr fun input now hop hscope => hcreate ⟨input, now, hop, hscope⟩

/-- Update the configuration that an id names, when `p` holds of it. -/
def update (engine : ExecutionGuardrailEngine) (id : String) (p : GuardrailConfig → Bool)
    (f : GuardrailConfig → GuardrailConfig) : ExecutionGuardrailEngine :=
  match engine.configs.get? id with
  | none => engine
  | some c => if p c then engine.put (f c) else engine

/-- An update reaches the one configuration with the id. -/
theorem keyed_configOf_update (h : Keyed engine) (id : String) (p : GuardrailConfig → Bool)
    (f : GuardrailConfig → GuardrailConfig) (hf : ∀ c : GuardrailConfig, c.SameKey (f c)) :
    Keyed (engine.update id p f) ∧ ∀ scope,
      (engine.update id p f).configOf scope =
        (engine.configOf scope).map fun c => if c.id = id ∧ p c then f c else c := by
  -- A scope whose configuration is not written keeps it.
  have hkeep : ∀ scope, (∀ c, engine.configOf scope = some c → ¬ (c.id = id ∧ p c)) →
      engine.configOf scope =
        (engine.configOf scope).map fun c => if c.id = id ∧ p c then f c else c := by
    intro scope hne
    cases hc : engine.configOf scope with
    | none => rfl
    | some c => rw [Option.map_some, if_neg (hne c hc)]
  have hget : ∀ {scope c}, engine.configOf scope = some c → c.id = id →
      engine.configs.get? id = some c := by
    rintro scope c hc rfl
    obtain ⟨-, rfl⟩ := (configOf_eq_some_iff h).1 hc
    exact (get?_eq_some_iff h).2 ⟨hc, rfl⟩
  unfold update
  split
  · next hnone =>
    refine ⟨h, fun scope => hkeep scope fun c hc hid => ?_⟩
    rw [hget hc hid.1] at hnone
    cases hnone
  · next c hsome =>
    split_ifs with hp
    · obtain ⟨hc, hid⟩ := (get?_eq_some_iff h).1 hsome
      refine ⟨h.put hc (hf c), fun scope => ?_⟩
      rw [configOf_put h hc (hf c)]
      split_ifs with hs
      · rw [← hs, hc, Option.map_some, if_pos ⟨hid, hp⟩]
      · refine hkeep scope fun c' hc' hid' => hs ?_
        rw [← Option.some.inj ((hget hc' hid'.1).symm.trans hsome)]
        exact ((configOf_eq_some_iff h).1 hc').2
    · refine ⟨h, fun scope => hkeep scope fun c' hc' hid' => hp ?_⟩
      rw [← Option.some.inj ((hget hc' hid'.1).symm.trans hsome)]
      exact hid'.2

theorem map_scope_filterMap_configOf (h : Keyed engine) (scopes : List (GuardrailScope × String)) :
    (scopes.filterMap engine.configOf).map GuardrailConfig.scope =
      scopes.filter fun scope => (engine.configOf scope).isSome := by
  induction scopes with
  | nil => rfl
  | cons scope scopes ih =>
    cases hc : engine.configOf scope with
    | none => simp [hc, ih]
    | some c => simp [hc, ih, ((configOf_eq_some_iff h).1 hc).2]

theorem keyed_configOf_foldl_put (f : GuardrailConfig → GuardrailConfig)
    (hf : ∀ c : GuardrailConfig, c.SameKey (f c)) (cs : List GuardrailConfig)
    (hnodup : (cs.map GuardrailConfig.scope).Nodup) (h : Keyed engine)
    (hcs : ∀ c ∈ cs, engine.configOf c.scope = some c) :
    Keyed (cs.foldl (fun engine c => engine.put (f c)) engine) ∧ ∀ scope,
      (cs.foldl (fun engine c => engine.put (f c)) engine).configOf scope =
        (engine.configOf scope).map fun c =>
          if scope ∈ cs.map GuardrailConfig.scope then f c else c := by
  induction cs generalizing engine with
  | nil => exact ⟨h, by simp⟩
  | cons c cs ih =>
    rw [List.map_cons, List.nodup_cons] at hnodup
    have hc := hcs c List.mem_cons_self
    have hput := configOf_put h hc (hf c)
    -- The other configurations are those of other scopes, which are as they were.
    obtain ⟨hkeyed, hscopes⟩ := ih hnodup.2 (h.put hc (hf c)) (by
      intro c' hc'
      have hne : c.scope ≠ c'.scope := fun hs => hnodup.1 (hs ▸ List.mem_map_of_mem hc')
      rw [hput, if_neg hne]
      exact hcs c' (List.mem_cons_of_mem c hc'))
    refine ⟨hkeyed, fun scope => ?_⟩
    rw [List.foldl_cons, hscopes, hput]
    by_cases hs : c.scope = scope
    · subst hs
      simp [hc, hnodup.1]
    · simp [hs, Ne.symm hs]

theorem namedScope_cases (scopeType : GuardrailScope) (id : Option String) :
    namedScope scopeType id = [] ∨ ∃ name, namedScope scopeType id = [(scopeType, name)] := by
  cases id with
  | none => exact Or.inl rfl
  | some id =>
    by_cases hid : id = ""
    · exact Or.inl (if_pos hid)
    · exact Or.inr ⟨id, if_neg hid⟩

theorem nodup_scopesOf (input : GuardrailCheckInput) : (scopesOf input).Nodup := by
  unfold scopesOf
  rcases namedScope_cases .venue input.venueId with hv | ⟨v, hv⟩ <;>
    rcases namedScope_cases .sleeve input.sleeveId with hs | ⟨s, hs⟩ <;>
    rcases namedScope_cases .strategy input.strategyId with ht | ⟨t, ht⟩ <;>
    simp [hv, hs, ht]

theorem keyed_configOf_check (h : Keyed engine) (input : GuardrailCheckInput) (now : Date) :
    Keyed (engine.check cal input now).2 ∧ ∀ scope,
      (engine.check cal input now).2.configOf scope =
        (engine.configOf scope).map fun c => c.after cal (.check input now) := by
  have hscopes : (engine.getApplicableConfigs input).map GuardrailConfig.scope = _ :=
    map_scope_filterMap_configOf h (scopesOf input)
  obtain ⟨hkeyed, hconfig⟩ := keyed_configOf_foldl_put
    (fun c => (c.check cal input now).config) (fun c => c.check_sameKey cal input now)
    (engine.getApplicableConfigs input) (hscopes ▸ (nodup_scopesOf input).filter _) h (by
      intro c hc
      obtain ⟨scope, -, hscope⟩ := List.mem_filterMap.1 hc
      exact ((configOf_eq_some_iff h).1 hscope).2 ▸ hscope)
  simp only [check, List.foldl_map]
  refine ⟨hkeyed, fun scope => ?_⟩
  rw [hconfig, hscopes]
  cases hc : engine.configOf scope with
  | none => rfl
  | some c =>
    obtain ⟨-, rfl⟩ := (configOf_eq_some_iff h).1 hc
    simp [GuardrailConfig.after, hc]

/-! The operations that take an id are updates. -/

section Updates

variable (engine) (configId : String) (now : Date)

theorem triggerKillSwitch_eq_update (triggeredBy reason : String) :
    (engine.triggerKillSwitch configId triggeredBy reason now).2 =
      engine.update configId (fun c => c.killSwitchEnabled)
        fun c => c.afterTrigger triggeredBy reason now := by
  unfold triggerKillSwitch update
  cases engine.configs.get? configId with
  | none => rfl
  | some c => by_cases hp : c.killSwitchEnabled <;> simp [hp]

theorem resetKillSwitch_eq_update (resetBy : String) :
    (engine.resetKillSwitch configId resetBy now).2 =
      engine.update configId (fun _ => true) fun c => c.afterReset now := by
  unfold resetKillSwitch update
  cases engine.configs.get? configId <;> rfl

theorem recordFailure_eq_update :
    (engine.recordFailure configId now).2 =
      engine.update configId (fun c => c.circuitBreakerEnabled) fun c => c.afterFailure now := by
  unfold recordFailure update
  cases engine.configs.get? configId with
  | none => rfl
  | some c => by_cases hp : c.circuitBreakerEnabled <;> simp [hp]

theorem recordSuccess_eq_update (notionalUsd : Decimal) :
    (engine.recordSuccess cal configId notionalUsd now).2 =
      engine.update configId (fun _ => true) fun c => c.afterSuccess cal notionalUsd now := by
  unfold recordSuccess update
  cases engine.configs.get? configId <;> rfl

end Updates

theorem keyed_configOf_step (h : Keyed engine) (op : GuardrailOp) :
    Keyed (engine.step cal op) ∧ ∀ scope,
      (engine.step cal op).configOf scope = stepOf cal scope (engine.configOf scope) op := by
  cases op with
  | createConfig input now => exact ⟨h.createConfig input now, configOf_createConfig h input now⟩
  | triggerKillSwitch configId triggeredBy reason now =>
    rw [step, triggerKillSwitch_eq_update]
    exact keyed_configOf_update h _ _ _ fun _ => ⟨rfl, rfl⟩
  | resetKillSwitch configId resetBy now =>
    rw [step, resetKillSwitch_eq_update]
    simpa [stepOf, GuardrailConfig.after] using keyed_configOf_update h configId (fun _ => true)
      (fun c => c.afterReset now) fun _ => ⟨rfl, rfl⟩
  | recordFailure configId now =>
    rw [step, recordFailure_eq_update]
    exact keyed_configOf_update h _ _ _ fun _ => ⟨rfl, rfl⟩
  | recordSuccess configId notionalUsd now =>
    rw [step, recordSuccess_eq_update]
    simpa [stepOf, GuardrailConfig.after] using keyed_configOf_update h configId (fun _ => true)
      (fun c => c.afterSuccess cal notionalUsd now)
      fun c => c.afterSuccess_sameKey cal notionalUsd now
  | check input now => exact keyed_configOf_check cal h input now
  | checkPartialFill configId targetSize filledSize now =>
    exact ⟨h, fun scope => by simp [step, stepOf, GuardrailConfig.after]⟩

theorem keyed_configOf_run (h : Keyed engine) (ops : List GuardrailOp) :
    Keyed (engine.run cal ops) ∧ ∀ scope,
      (engine.run cal ops).configOf scope =
        ops.foldl (stepOf cal scope) (engine.configOf scope) := by
  induction ops generalizing engine with
  | nil => exact ⟨h, fun _ => rfl⟩
  | cons op ops ih =>
    obtain ⟨hkeyed, hstep⟩ := keyed_configOf_step cal h op
    obtain ⟨hrun, hconfig⟩ := ih hkeyed
    refine ⟨hrun, fun scope => ?_⟩
    rw [List.foldl_cons, ← hstep]
    exact hconfig scope

/-! ## The kill switch -/

def SwitchOn (engine : ExecutionGuardrailEngine) (scope : GuardrailScope × String) : Prop :=
  ∃ c, engine.configOf scope = some c ∧ c.switchOn = true

/-- The operation resets the switch of a scope, or replaces the scope's configuration by one whose
own switch is not on. -/
def Releases (engine : ExecutionGuardrailEngine) (scope : GuardrailScope × String) :
    GuardrailOp → Prop
  | .resetKillSwitch configId _ _ =>
    ∃ c, engine.configs.get? configId = some c ∧ c.scope = scope
  | .createConfig input _ =>
    input.scope = scope ∧ (input.killSwitchEnabled && input.killSwitchTriggered) = false
  | _ => False

/-- A property of every operation of a run and the engine it meets. -/
def Along (P : ExecutionGuardrailEngine → GuardrailOp → Prop) :
    ExecutionGuardrailEngine → List GuardrailOp → Prop
  | _, [] => True
  | engine, op :: ops => P engine op ∧ Along P (engine.step cal op) ops

theorem SwitchOn.step (h : Keyed engine) (hon : SwitchOn engine scope) {op : GuardrailOp}
    (hop : ¬ Releases engine scope op) : SwitchOn (engine.step cal op) scope := by
  obtain ⟨c, hc, hon⟩ := hon
  obtain ⟨-, hscope⟩ := (configOf_eq_some_iff h).1 hc
  unfold SwitchOn
  rw [(keyed_configOf_step cal h op).2]
  rcases creates_or_updates scope op with ⟨input, now, rfl, hs⟩ | hupdates
  · exact ⟨_, if_pos hs, Bool.not_eq_false _ ▸ fun hoff => hop ⟨hs, hoff⟩⟩
  · rw [stepOf_eq_map cal hupdates, hc]
    refine ⟨_, rfl, c.switchOn_after cal hon ?_⟩
    rintro resetBy now rfl
    exact hop ⟨c, (get?_eq_some_iff h).2 ⟨hscope ▸ hc, rfl⟩, hscope⟩

theorem SwitchOn.run (h : Keyed engine) (hon : SwitchOn engine scope) {ops : List GuardrailOp}
    (hops : Along cal (fun engine op => ¬ Releases engine scope op) engine ops) :
    SwitchOn (engine.run cal ops) scope := by
  induction ops generalizing engine with
  | nil => exact hon
  | cons op ops ih => exact ih (keyed_configOf_step cal h op).1 (hon.step cal h hops.1) hops.2

theorem SwitchOn.check_not_allowed (hon : SwitchOn engine scope) {input : GuardrailCheckInput}
    (hscope : scope ∈ scopesOf input) (now : Date) :
    (engine.check cal input now).1.allowed = false := by
  obtain ⟨c, hc, hon⟩ := hon
  have hmem : c ∈ engine.getApplicableConfigs input := List.mem_filterMap.2 ⟨scope, hscope, hc⟩
  have hfound : (c.check cal input now).violations = [c.killSwitchViolation] :=
    congrArg GuardrailConfig.Findings.violations (if_pos hon)
  simp only [check, Bool.not_eq_false', List.any_eq_true, List.mem_flatMap, List.mem_map]
  exact ⟨c.killSwitchViolation, ⟨_, ⟨c, hmem, rfl⟩, by simp [hfound]⟩, rfl⟩

theorem switchOn_of_trigger (h : Keyed engine) {configId triggeredBy reason : String} {now : Date}
    {config : GuardrailConfig}
    (hok : (engine.triggerKillSwitch configId triggeredBy reason now).1 = .ok config) :
    SwitchOn (engine.triggerKillSwitch configId triggeredBy reason now).2 config.scope := by
  revert hok
  unfold triggerKillSwitch
  cases hget : engine.configs.get? configId with
  | none => simp
  | some c =>
    by_cases hp : c.killSwitchEnabled
    · simp only [hp, Bool.not_true, Bool.false_eq_true, if_false, Except.ok.injEq]
      rintro rfl
      obtain ⟨hc, -⟩ := (get?_eq_some_iff h).1 hget
      have hkey : c.SameKey (c.afterTrigger triggeredBy reason now) := ⟨rfl, rfl⟩
      exact ⟨_, (configOf_put h hc hkey _).trans (if_pos hkey.2.symm), (Bool.and_true _).trans hp⟩
    · simp [hp]

/-- From a successful trigger on, every check under the scope is refused, until an operation
releases the switch. -/
theorem killSwitch_persists (cal : LocalCalendar) (loadedAt createdAt : Date)
    (ops : List GuardrailOp) {configId triggeredBy reason : String} {now : Date}
    {config : GuardrailConfig}
    (hok : (((create loadedAt createdAt).run cal ops).triggerKillSwitch configId triggeredBy reason
      now).1 = .ok config)
    {ops' : List GuardrailOp}
    (hops : Along cal (fun engine op => ¬ Releases engine config.scope op)
      ((create loadedAt createdAt).run cal
        (ops ++ [.triggerKillSwitch configId triggeredBy reason now])) ops')
    {input : GuardrailCheckInput} (hscope : config.scope ∈ scopesOf input) (later : Date) :
    (((create loadedAt createdAt).run cal
      (ops ++ .triggerKillSwitch configId triggeredBy reason now :: ops')).check cal input
        later).1.allowed = false := by
  obtain ⟨hkeyed, -⟩ := keyed_configOf_run cal (keyed_create loadedAt createdAt) ops
  rw [run_append] at hops
  rw [run_append]
  have hon := switchOn_of_trigger hkeyed hok
  have hkeyed' := (keyed_configOf_step cal hkeyed
    (.triggerKillSwitch configId triggeredBy reason now)).1
  exact (SwitchOn.run cal hkeyed' hon hops).check_not_allowed cal hscope later

/-- An order of 10000 on no particular venue. -/
def plainCheck : GuardrailCheckInput where
  venueId := none
  sleeveId := none
  strategyId := none
  notionalUsd := 10000
  isExecution := true

/-- After a trigger on the default configuration, a failure, a check and another configuration for
a venue leave every order refused. -/
theorem killSwitch_persists_sample :
    (((create 0 0).run (.fixedOffset 0)
      [.triggerKillSwitch "guardrail_global_default_0" "ops" "halt" 1,
        .recordFailure "guardrail_global_default_0" 2, .check plainCheck 3,
        .createConfig { defaultGlobalGuardrailConfig 0 with scopeType := .venue } 4]).check
      (.fixedOffset 0) plainCheck 5).1.allowed = false := by
  refine killSwitch_persists (.fixedOffset 0) 0 0 [] rfl ?_ (List.mem_cons_self ..) 5
  refine ⟨id, id, ?_, trivial⟩
  rintro ⟨h, -⟩
  exact absurd h (by decide)

/-- Creating the configuration of the scope again, with a switch that is not triggered, lets orders
through without a reset. -/
theorem killSwitch_lost_on_replace :
    (((create 0 0).triggerKillSwitch "guardrail_global_default_0" "ops" "halt" 1).1.toOption.map
      GuardrailConfig.scope) = some (.global, "default") ∧
    (.global, "default") ∈ scopesOf plainCheck ∧
    (((create 0 0).run (.fixedOffset 0)
      [.triggerKillSwitch "guardrail_global_default_0" "ops" "halt" 1,
        .createConfig (defaultGlobalGuardrailConfig 0) 2]).check (.fixedOffset 0) plainCheck
      3).1.allowed = true := by
  decide +kernel

end ExecutionGuardrailEngine

end SentinelApex
