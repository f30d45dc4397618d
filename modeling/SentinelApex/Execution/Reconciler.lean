import SentinelApex.Execution.Executor

/-!
# Reconciler

What the order store and a list of local positions say, compared with the venue: the two
reconciliations as tasks over the calls that they await. The log lines are left out.

A size is printed as the number it denotes.
-/

namespace SentinelApex

open Async

inductive DiscrepancyType where
  | positionMismatch
  | balanceMismatch
  | missingOrder
  | unknownOrder
  deriving DecidableEq, Repr

def DiscrepancyType.text : DiscrepancyType → String
  | .positionMismatch => "position_mismatch"
  | .balanceMismatch => "balance_mismatch"
  | .missingOrder => "missing_order"
  | .unknownOrder => "unknown_order"

inductive DiscrepancySeverity where
  | low
  | medium
  | high
  | critical
  deriving DecidableEq, Repr

def DiscrepancySeverity.text : DiscrepancySeverity → String
  | .low => "low"
  | .medium => "medium"
  | .high => "high"
  | .critical => "critical"

structure Discrepancy where
  type : DiscrepancyType
  description : String
  localValue : String
  venueValue : String
  severity : DiscrepancySeverity
  deriving DecidableEq, Repr

structure ReconciliationResult where
  timestamp : Date
  venueId : String
  discrepancies : List Discrepancy
  healthy : Bool
  deriving DecidableEq, Repr

inductive ReconcilerCall where
  | listByStatus (status : OrderStatus)
  | getOrder (venueOrderId : String)
  | getPositions
  | auditWrite (event : AuditEvent)

abbrev ReconcilerCall.Reply : ReconcilerCall → Type
  | .listByStatus _ => List OrderRecord
  | .getOrder _ => Option PlaceOrderResult
  | .getPositions => List VenuePosition
  | .auditWrite _ => Unit

abbrev ReconcilerTask := Task ReconcilerCall ReconcilerCall.Reply String

namespace Reconciler

def call (c : ReconcilerCall) : ReconcilerTask c.Reply := Task.call c

def discrepancyJson (d : Discrepancy) : Json :=
  .obj [("type", .str d.type.text), ("description", .str d.description),
    ("localValue", .str d.localValue), ("venueValue", .str d.venueValue),
    ("severity", .str d.severity.text)]

def auditEvent (venueId eventType : String) (discrepancies : List Discrepancy) : AuditEvent where
  eventType
  actorType := "system"
  actorId := "reconciler"
  data :=
    [("venueId", .str venueId), ("discrepancyCount", .num discrepancies.length),
      ("discrepancies", .arr (discrepancies.map discrepancyJson))]

def isHealthy (discrepancies : List Discrepancy) : Bool :=
  !discrepancies.any fun d => d.severity = .high || d.severity = .critical

def report (venueId eventType : String) (timestamp : Date) (discrepancies : List Discrepancy) :
    ReconcilerTask ReconciliationResult := do
  call (.auditWrite (auditEvent venueId eventType discrepancies))
  return { timestamp, venueId, discrepancies, healthy := isHealthy discrepancies }

/-! ## reconcileOrders -/

/-- The statuses of a local order that is not yet in a terminal state. -/
def openStatuses : List OrderStatus := [.pending, .submitted, .partiallyFilled]

/-- `localOpenOrders` maps the client order id to the venue order id. -/
def addOpenOrder (venueId : String) (localOpenOrders : OrderedMap String String)
    (record : OrderRecord) : OrderedMap String String :=
  match record.venueOrderId with
  | none => localOpenOrders
  | some venueOrderId =>
    if record.intent.venueId = venueId then
      localOpenOrders.set record.intent.intentId venueOrderId
    else localOpenOrders

def gatherOpenOrders (venueId : String) :
    List OrderStatus → OrderedMap String String → ReconcilerTask (OrderedMap String String)
  | [], localOpenOrders => return localOpenOrders
  | status :: statuses, localOpenOrders => do
    let records ← call (.listByStatus status)
    gatherOpenOrders venueId statuses (records.foldl (addOpenOrder venueId) localOpenOrders)

/-- What the answer of the venue says against an order that is open locally. -/
def orderDiscrepancies (clientOrderId venueOrderId : String) :
    Option PlaceOrderResult → List Discrepancy
  | none =>
    [{ type := .missingOrder
       description := "Order \"" ++ venueOrderId ++ "\" is open locally but not found at venue"
       localValue := "open (clientOrderId=" ++ clientOrderId ++ ")"
       venueValue := "not found"
       severity := .high }]
  | some venueOrder =>
    if venueOrder.status = .filled then
      [{ type := .missingOrder
         description :=
           "Order \"" ++ venueOrderId ++ "\" is open locally but already filled at venue"
         localValue := "open"
         venueValue := "filled"
         severity := .medium }]
    else []

def checkOrders : List (String × String) → ReconcilerTask (List Discrepancy)
  | [] => return []
  | (clientOrderId, venueOrderId) :: orders => do
    let venueOrder ← call (.getOrder venueOrderId)
    let discrepancies ← checkOrders orders
    return orderDiscrepancies clientOrderId venueOrderId venueOrder ++ discrepancies

def reconcileOrders (venueId : String) (timestamp : Date) :
    ReconcilerTask ReconciliationResult := do
  let localOpenOrders ← gatherOpenOrders venueId openStatuses OrderedMap.empty
  let discrepancies ← checkOrders localOpenOrders.entries
  report venueId "reconcile.orders" timestamp discrepancies

/-! ## reconcilePositions -/

def positionSizeTolerance : Decimal := 1 / 10 ^ 6

def positionRelativeTolerance : Decimal := 1 / 10 ^ 3

def classifyPositionSeverity (localSize venueSize entryPrice : Decimal) : DiscrepancySeverity :=
  let diff := |localSize.minus venueSize|
  if diff ≤ positionSizeTolerance then .low
  else
    let notionalDiff := diff.times entryPrice
    if notionalDiff < 100 then .medium
    else if notionalDiff < 10000 then .high
    else .critical

/-- A later position of an asset overwrites an earlier one. -/
def byAsset (positions : List VenuePosition) : OrderedMap String VenuePosition :=
  OrderedMap.ofList (positions.map fun pos => (pos.asset, pos))

def sizeDiff (localSize venueSize : Decimal) : Decimal := |localSize.minus venueSize|

def relDiff (localSize venueSize : Decimal) : Decimal :=
  let ref := max localSize venueSize
  if ref = 0 then 0 else (sizeDiff localSize venueSize).div ref

def exceedsTolerance (localSize venueSize : Decimal) : Bool :=
  positionSizeTolerance < sizeDiff localSize venueSize ∧
    positionRelativeTolerance < relDiff localSize venueSize

def missingAtVenue (asset : String) (side : PositionSide) (size : Decimal) : Discrepancy where
  type := .positionMismatch
  description := "Local has " ++ asset ++ " " ++ side.text ++ " position of " ++ size.toFixedAll ++
    " but venue reports none"
  localValue := side.text ++ " " ++ size.toFixedAll
  venueValue := "none"
  severity := if 1 < size then .critical else .high

def sideMismatch (asset : String) (localSide venueSide : PositionSide) : Discrepancy where
  type := .positionMismatch
  description := asset ++ " position side mismatch: local=" ++ localSide.text ++ ", venue=" ++
    venueSide.text
  localValue := localSide.text
  venueValue := venueSide.text
  severity := .critical

def sizeMismatch (asset : String) (localSize venueSize entryPrice : Decimal) : Discrepancy where
  type := .positionMismatch
  description := asset ++ " position size mismatch: local=" ++ localSize.toFixedAll ++ ", venue=" ++
    venueSize.toFixedAll
  localValue := localSize.toFixedAll
  venueValue := venueSize.toFixedAll
  severity := classifyPositionSeverity localSize venueSize entryPrice

def unknownAtVenue (asset : String) (side : PositionSide) (size : Decimal) : Discrepancy where
  type := .unknownOrder
  description := "Venue has " ++ asset ++ " " ++ side.text ++ " position of " ++ size.toFixedAll ++
    " but no local record exists"
  localValue := "none"
  venueValue := side.text ++ " " ++ size.toFixedAll
  severity := .high

def checkLocal (venueByAsset : OrderedMap String VenuePosition) (e : String × VenuePosition) :
    Except String (List Discrepancy) :=
  let (asset, localPos) := e
  match venueByAsset.get? asset with
  | none => do
    let localSize ← newDecimal localPos.size
    return if localSize ≠ 0 then [missingAtVenue asset localPos.side localSize] else []
  | some venuePos => do
    let localSize ← newDecimal localPos.size
    let venueSize ← newDecimal venuePos.size
    let entryPrice ← newDecimal venuePos.entryPrice
    if localPos.side ≠ venuePos.side then
      return [sideMismatch asset localPos.side venuePos.side]
    else if exceedsTolerance localSize venueSize then
      return [sizeMismatch asset localSize venueSize entryPrice]
    else return []

def checkVenue (localByAsset : OrderedMap String VenuePosition) (e : String × VenuePosition) :
    Except String (List Discrepancy) :=
  let (asset, venuePos) := e
  match localByAsset.get? asset with
  | some _ => return []
  | none => do
    let venueSize ← newDecimal venuePos.size
    return if venueSize ≠ 0 then [unknownAtVenue asset venuePos.side venueSize] else []

def positionDiscrepancies (localPositions venuePositions : List VenuePosition) :
    Except String (List Discrepancy) := do
  let localByAsset := byAsset localPositions
  let venueByAsset := byAsset venuePositions
  let ofLocal ← localByAsset.entries.mapM (checkLocal venueByAsset)
  let ofVenue ← venueByAsset.entries.mapM (checkVenue localByAsset)
  return ofLocal.flatten ++ ofVenue.flatten

def reconcilePositions (venueId : String) (localPositions : List VenuePosition)
    (timestamp : Date) : ReconcilerTask ReconciliationResult := do
  let venuePositions ← call .getPositions
  let discrepancies ← Task.ofExcept (positionDiscrepancies localPositions venuePositions)
  report venueId "reconcile.positions" timestamp discrepancies

end Reconciler

/-! ## What answers the calls -/

/-- The store, what the venue answers, and the audit log. -/
structure ReconcilerWorld where
  store : InMemoryOrderStore
  getOrder : String → Except String (Option PlaceOrderResult)
  getPositions : Except String (List VenuePosition)
  audit : List AuditEvent := []

def reconcilerHandler : Handler ReconcilerCall ReconcilerCall.Reply String ReconcilerWorld
  | .listByStatus status, w => (.ok (w.store.listByStatus status), w)
  | .getOrder venueOrderId, w => (w.getOrder venueOrderId, w)
  | .getPositions, w => (w.getPositions, w)
  | .auditWrite event, w => (.ok (), { w with audit := w.audit ++ [event] })

end SentinelApex
