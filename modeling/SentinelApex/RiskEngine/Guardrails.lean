import SentinelApex.Domain.Json

/-!
# Execution guardrails

`ExecutionGuardrailEngine` holds at most one configuration for each scope, with its limits, its kill
switch, its failure counter and its daily notional. `check` rewrites two of these lazily: it
forgets failures that lie further back than the reset time, and it starts a new daily window when
the local day of the current one is over.

A synchronous operation is taken to happen at one instant: its readings of the clock are one
argument. Days are local days of a `LocalCalendar`.
-/

namespace SentinelApex

/-- Local calendar days: a local day begins at an instant, and the days follow one another. -/
structure LocalCalendar where
  day : Date → ℤ
  startOfDay : ℤ → Date
  startOfDay_le_iff : ∀ {d : ℤ} {t : Date}, startOfDay d ≤ t ↔ d ≤ day t

namespace LocalCalendar

variable (cal : LocalCalendar)

/-- Midnight after `t`: `setDate(getDate() + 1)` and `setHours(0, 0, 0, 0)`. -/
def nextMidnight (t : Date) : Date := cal.startOfDay (cal.day t + 1)

theorem day_mono {t t' : Date} (h : t ≤ t') : cal.day t ≤ cal.day t' :=
  cal.startOfDay_le_iff.1 ((cal.startOfDay_le_iff.2 le_rfl).trans h)

theorem nextMidnight_le_iff {t t' : Date} : cal.nextMidnight t ≤ t' ↔ cal.day t < cal.day t' := by
  rw [nextMidnight, cal.startOfDay_le_iff, Int.add_one_le_iff]

def fixedOffset (offsetMs : ℤ) : LocalCalendar where
  day t := (t + offsetMs) / 86400000
  startOfDay d := d * 86400000 - offsetMs
  startOfDay_le_iff := by
    intro d t
    rw [Int.le_ediv_iff_mul_le (by norm_num), sub_le_iff_le_add]

end LocalCalendar

/-! ## Types -/

inductive GuardrailScope where
  | global
  | venue
  | sleeve
  | strategy
  deriving DecidableEq, Repr

def GuardrailScope.text : GuardrailScope → String
  | global => "global"
  | venue => "venue"
  | sleeve => "sleeve"
  | strategy => "strategy"

inductive ViolationType where
  | maxNotional
  | minNotional
  | circuitBreaker
  | killSwitch
  deriving DecidableEq, Repr

inductive PartialFillAction where
  | continue
  | block
  | rollback
  deriving DecidableEq, Repr

/-- `Omit<GuardrailConfig, 'id' | 'createdAt' | 'updatedAt'>`. -/
structure GuardrailInput where
  scopeType : GuardrailScope
  scopeId : String
  maxSingleActionNotionalUsd : Option Decimal
  maxDailyNotionalUsd : Option Decimal
  minActionNotionalUsd : Option Decimal
  maxConcurrentExecutions : Option Number
  circuitBreakerEnabled : Bool
  maxFailuresBeforeBreaker : Number
  circuitBreakerResetMinutes : Number
  killSwitchEnabled : Bool
  killSwitchTriggered : Bool
  killSwitchTriggeredAt : Option Date
  killSwitchTriggeredBy : Option String
  killSwitchReason : Option String
  partialFillAction : PartialFillAction
  minFillPctRequired : Decimal
  failureCount : ℤ
  lastFailureAt : Option Date
  dailyNotionalUsd : Decimal
  dailyResetAt : Date
  deriving DecidableEq

structure GuardrailConfig extends GuardrailInput where
  id : String
  createdAt : Date
  updatedAt : Date
  deriving DecidableEq

structure GuardrailCheckInput where
  venueId : Option String
  sleeveId : Option String
  strategyId : Option String
  notionalUsd : Decimal
  isExecution : Bool

inductive ViolationDetails where
  | killSwitch (triggeredAt : Option Date) (triggeredBy : Option String)
  | circuitBreaker (failureCount : ℤ) (resetAt : Option Date)
  | notional (attempted limit : String)
  | daily (currentDaily attempted limit : String)
  deriving DecidableEq

structure GuardrailViolationInput where
  type : ViolationType
  message : String
  blocked : Bool
  details : ViolationDetails
  deriving DecidableEq

structure GuardrailCheckResult where
  allowed : Bool
  violations : List GuardrailViolationInput
  warnings : List String
  deriving DecidableEq

/-- `x.toString()` of a decimal: the notation is that of numbers. -/
def Decimal.toText (x : Decimal) : String := Number.toText x

/-- `DEFAULT_GLOBAL_GUARDRAIL_CONFIG`, loaded at the given time. -/
def defaultGlobalGuardrailConfig (loadedAt : Date) : GuardrailInput where
  scopeType := .global
  scopeId := "default"
  maxSingleActionNotionalUsd := some 100000
  maxDailyNotionalUsd := some 500000
  minActionNotionalUsd := some 1000
  maxConcurrentExecutions := some 3
  circuitBreakerEnabled := true
  maxFailuresBeforeBreaker := 3
  circuitBreakerResetMinutes := 30
  killSwitchEnabled := true
  killSwitchTriggered := false
  killSwitchTriggeredAt := none
  killSwitchTriggeredBy := none
  killSwitchReason := none
  partialFillAction := .continue
  minFillPctRequired := 95
  failureCount := 0
  lastFailureAt := none
  dailyNotionalUsd := 0
  dailyResetAt := loadedAt

/-! ## One configuration -/

namespace GuardrailConfig

variable (config : GuardrailConfig)

def scope : GuardrailScope × String := (config.scopeType, config.scopeId)

/-- Minutes from a failure to `now`. -/
def minutesSince (failureAt now : Date) : Number := Number.div ((now - failureAt : ℤ) : ℚ) 60000

/-- The last failure lies further back than the reset time. -/
def failuresExpired (now : Date) : Bool :=
  match config.lastFailureAt with
  | none => false
  | some failureAt =>
    Number.ofDecimal config.circuitBreakerResetMinutes < minutesSince failureAt now

/-- Whether the breaker is open; expired failures are forgotten on the way. -/
def isCircuitBreakerOpen (now : Date) : Bool × GuardrailConfig :=
  if !config.circuitBreakerEnabled then (false, config)
  else if (config.failureCount : ℚ) < Number.ofDecimal config.maxFailuresBeforeBreaker then
    (false, config)
  else if config.failuresExpired now then (false, { config with failureCount := 0 })
  else (true, config)

/-- The time at which the breaker would close, as a date in whole milliseconds. -/
def getCircuitBreakerResetTime : Option Date :=
  config.lastFailureAt.map fun failureAt =>
    Json.truncate (Number.add (failureAt : ℚ)
      (((Number.ofDecimal config.circuitBreakerResetMinutes).mul 60).mul 1000))

def resetDailyNotionalIfNeeded (cal : LocalCalendar) (now : Date) : GuardrailConfig :=
  if cal.nextMidnight config.dailyResetAt ≤ now then
    { config with dailyNotionalUsd := 0, dailyResetAt := now }
  else config

/-- The configuration with the kill switch triggered. -/
def afterTrigger (triggeredBy reason : String) (now : Date) : GuardrailConfig :=
  { config with
    killSwitchTriggered := true
    killSwitchTriggeredAt := some now
    killSwitchTriggeredBy := some triggeredBy
    killSwitchReason := some reason
    updatedAt := now }

/-- The configuration with the kill switch reset. -/
def afterReset (now : Date) : GuardrailConfig :=
  { config with
    killSwitchTriggered := false
    killSwitchTriggeredAt := none
    killSwitchTriggeredBy := none
    killSwitchReason := none
    updatedAt := now }

/-- The configuration after a failure at `now`. -/
def afterFailure (now : Date) : GuardrailConfig :=
  { config with
    failureCount := (if config.failuresExpired now then 0 else config.failureCount) + 1
    lastFailureAt := some now
    updatedAt := now }

/-- The configuration after a success, which resets the failure counter. -/
def afterSuccess (cal : LocalCalendar) (notionalUsd : Decimal) (now : Date) : GuardrailConfig :=
  let config :=
    if 0 < config.failureCount then { config with failureCount := 0, lastFailureAt := none }
    else config
  let config := config.resetDailyNotionalIfNeeded cal now
  { config with dailyNotionalUsd := config.dailyNotionalUsd.plus notionalUsd, updatedAt := now }

/-- What `check` finds on one configuration. -/
structure Findings where
  config : GuardrailConfig
  violations : List GuardrailViolationInput
  warnings : List String

def killSwitchViolation : GuardrailViolationInput where
  type := .killSwitch
  message :=
    "Kill switch active: " ++ config.killSwitchReason.getD "Emergency halt triggered"
  blocked := true
  details := .killSwitch config.killSwitchTriggeredAt config.killSwitchTriggeredBy

def circuitBreakerViolation : GuardrailViolationInput where
  type := .circuitBreaker
  message :=
    s!"Circuit breaker open after {config.maxFailuresBeforeBreaker.toText} failures"
  blocked := true
  details := .circuitBreaker config.failureCount config.getCircuitBreakerResetTime

def actionViolations (notional : Decimal) : List GuardrailViolationInput :=
  (match config.maxSingleActionNotionalUsd with
    | none => []
    | some limit =>
      if limit < notional then
        [{ type := .maxNotional
           message := s!"Action notional {notional.toText} exceeds maximum {limit.toText}"
           blocked := true
           details := .notional notional.toText limit.toText }]
      else []) ++
  match config.minActionNotionalUsd with
  | none => []
  | some limit =>
    if notional < limit then
      [{ type := .minNotional
         message := s!"Action notional {notional.toText} below minimum {limit.toText}"
         blocked := true
         details := .notional notional.toText limit.toText }]
    else []

def dailyViolations (notional limit : Decimal) : List GuardrailViolationInput :=
  let projectedDaily := config.dailyNotionalUsd.plus notional
  if limit < projectedDaily then
    [{ type := .maxNotional
       message := s!"Daily notional would exceed limit: {projectedDaily.toText} > {limit.toText}"
       blocked := true
       details := .daily config.dailyNotionalUsd.toText notional.toText limit.toText }]
  else []

/-- A limit of zero executions reads as no limit. -/
def concurrencyWarnings (isExecution : Bool) : List String :=
  match config.maxConcurrentExecutions with
  | none => []
  | some limit =>
    if limit ≠ 0 ∧ isExecution then [s!"Concurrency check: max {limit.toText} executions"] else []

/-- The body of the loop of `check`; kill switch and breaker skip the other checks. -/
def check (cal : LocalCalendar) (input : GuardrailCheckInput) (now : Date) : Findings :=
  if config.killSwitchEnabled && config.killSwitchTriggered then
    { config, violations := [config.killSwitchViolation], warnings := [] }
  else
    let breaker := config.isCircuitBreakerOpen now
    let config := breaker.2
    if breaker.1 then
      { config, violations := [config.circuitBreakerViolation], warnings := [] }
    else
      let violations := config.actionViolations input.notionalUsd
      let warnings := config.concurrencyWarnings input.isExecution
      match config.maxDailyNotionalUsd with
      | none => { config, violations, warnings }
      | some limit =>
        let config := config.resetDailyNotionalIfNeeded cal now
        { config
          violations := violations ++ config.dailyViolations input.notionalUsd limit
          warnings }

end GuardrailConfig

/-! ## The engine -/

def guardrailId (scopeType : GuardrailScope) (scopeId : String) (now : Date) : String :=
  s!"guardrail_{scopeType.text}_{scopeId}_{now}"

def GuardrailInput.toConfig (input : GuardrailInput) (now : Date) : GuardrailConfig :=
  { input with
    id := guardrailId input.scopeType input.scopeId now, createdAt := now, updatedAt := now }

/-- The configurations by id. -/
structure ExecutionGuardrailEngine where
  configs : OrderedMap String GuardrailConfig

namespace ExecutionGuardrailEngine

variable (cal : LocalCalendar) (engine : ExecutionGuardrailEngine)

/-- Replaces the configurations of the same scope. -/
def createConfig (input : GuardrailInput) (now : Date) :
    GuardrailConfig × ExecutionGuardrailEngine :=
  let others := engine.configs.filter fun existing =>
    !(decide (existing.scopeType = input.scopeType ∧ existing.scopeId = input.scopeId))
  let config := input.toConfig now
  (config, ⟨others.set config.id config⟩)

/-- `new ExecutionGuardrailEngine()`. -/
def create (loadedAt now : Date) : ExecutionGuardrailEngine :=
  ((⟨OrderedMap.empty⟩ : ExecutionGuardrailEngine).createConfig
    (defaultGlobalGuardrailConfig loadedAt) now).2

def getConfig (scopeType : GuardrailScope) (scopeId : String) : Option GuardrailConfig :=
  engine.configs.values.find? fun config =>
    decide (config.scopeType = scopeType ∧ config.scopeId = scopeId)

/-- The scope that an optional id names; an empty id counts as absent. -/
def namedScope (scopeType : GuardrailScope) : Option String → List (GuardrailScope × String)
  | none => []
  | some id => if id = "" then [] else [(scopeType, id)]

def scopesOf (input : GuardrailCheckInput) : List (GuardrailScope × String) :=
  (GuardrailScope.global, "default") :: namedScope .venue input.venueId ++
    namedScope .sleeve input.sleeveId ++ namedScope .strategy input.strategyId

def getApplicableConfigs (input : GuardrailCheckInput) : List GuardrailConfig :=
  (scopesOf input).filterMap fun scope => engine.getConfig scope.1 scope.2

/-- The mutations of a configuration object are written back under its id. -/
def put (config : GuardrailConfig) : ExecutionGuardrailEngine :=
  ⟨engine.configs.set config.id config⟩

/-- The configurations belong to different scopes, so what is found on one does not depend on the
others. -/
def check (input : GuardrailCheckInput) (now : Date) :
    GuardrailCheckResult × ExecutionGuardrailEngine :=
  let findings := (engine.getApplicableConfigs input).map fun config => config.check cal input now
  let violations := findings.flatMap fun f => f.violations
  ({ allowed := !violations.any fun v => v.blocked
     violations
     warnings := findings.flatMap fun f => f.warnings },
    findings.foldl (fun engine f => engine.put f.config) engine)

def triggerKillSwitch (configId triggeredBy reason : String) (now : Date) :
    Except String GuardrailConfig × ExecutionGuardrailEngine :=
  match engine.configs.get? configId with
  | none => (.error s!"Guardrail config not found: {configId}", engine)
  | some config =>
    if !config.killSwitchEnabled then
      (.error s!"Kill switch not enabled for config: {configId}", engine)
    else
      let config := config.afterTrigger triggeredBy reason now
      (.ok config, engine.put config)

/-- `resetBy` is only logged. -/
def resetKillSwitch (configId _resetBy : String) (now : Date) :
    Except String GuardrailConfig × ExecutionGuardrailEngine :=
  match engine.configs.get? configId with
  | none => (.error s!"Guardrail config not found: {configId}", engine)
  | some config =>
    let config := config.afterReset now
    (.ok config, engine.put config)

/-- Without an enabled breaker failures are not counted. -/
def recordFailure (configId : String) (now : Date) :
    Option GuardrailConfig × ExecutionGuardrailEngine :=
  match engine.configs.get? configId with
  | none => (none, engine)
  | some config =>
    if !config.circuitBreakerEnabled then (none, engine)
    else (some (config.afterFailure now), engine.put (config.afterFailure now))

def recordSuccess (configId : String) (notionalUsd : Decimal) (now : Date) :
    Option GuardrailConfig × ExecutionGuardrailEngine :=
  match engine.configs.get? configId with
  | none => (none, engine)
  | some config =>
    let config := config.afterSuccess cal notionalUsd now
    (some config, engine.put config)

def checkPartialFill (configId : String) (targetSize filledSize : Decimal) :
    Except String (PartialFillAction × Option String) :=
  match engine.configs.get? configId with
  | none => .error s!"Guardrail config not found: {configId}"
  | some config =>
    if targetSize ≤ 0 then .ok (config.partialFillAction, none)
    else
      let fillPct := (filledSize.div targetSize).times 100
      if config.minFillPctRequired ≤ fillPct then .ok (.continue, none)
      else
        .ok (config.partialFillAction,
          some (s!"Partial fill {fillPct.toFixed 2}% below minimum " ++
            s!"{config.minFillPctRequired.toText}%"))

end ExecutionGuardrailEngine

/-! ## Runs -/

/-- An operation with its arguments and its time. -/
inductive GuardrailOp where
  | createConfig (input : GuardrailInput) (now : Date)
  | triggerKillSwitch (configId triggeredBy reason : String) (now : Date)
  | resetKillSwitch (configId resetBy : String) (now : Date)
  | recordFailure (configId : String) (now : Date)
  | recordSuccess (configId : String) (notionalUsd : Decimal) (now : Date)
  | check (input : GuardrailCheckInput) (now : Date)
  | checkPartialFill (configId : String) (targetSize filledSize : Decimal) (now : Date)

def GuardrailOp.time : GuardrailOp → Date
  | createConfig _ now => now
  | triggerKillSwitch _ _ _ now => now
  | resetKillSwitch _ _ now => now
  | recordFailure _ now => now
  | recordSuccess _ _ now => now
  | check _ now => now
  | checkPartialFill _ _ _ now => now

namespace ExecutionGuardrailEngine

variable (cal : LocalCalendar)

def step (engine : ExecutionGuardrailEngine) : GuardrailOp → ExecutionGuardrailEngine
  | .createConfig input now => (engine.createConfig input now).2
  | .triggerKillSwitch configId triggeredBy reason now =>
    (engine.triggerKillSwitch configId triggeredBy reason now).2
  | .resetKillSwitch configId resetBy now => (engine.resetKillSwitch configId resetBy now).2
  | .recordFailure configId now => (engine.recordFailure configId now).2
  | .recordSuccess configId notionalUsd now => (engine.recordSuccess cal configId notionalUsd now).2
  | .check input now => (engine.check cal input now).2
  | .checkPartialFill _ _ _ _ => engine

def run (engine : ExecutionGuardrailEngine) (ops : List GuardrailOp) : ExecutionGuardrailEngine :=
  ops.foldl (step cal) engine

theorem run_append (engine : ExecutionGuardrailEngine) (ops ops' : List GuardrailOp) :
    engine.run cal (ops ++ ops') = (engine.run cal ops).run cal ops' :=
  List.foldl_append

end ExecutionGuardrailEngine

end SentinelApex
