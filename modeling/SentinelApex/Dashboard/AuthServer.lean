import SentinelApex.Domain.Json
import SentinelApex.Lib.Hex
import SentinelApex.Lib.Rows
import SentinelApex.Shared.OpsAuth

/-!
# Operators and their sessions on the dashboard

The tables of operators and sessions with their constraints, and the functions of the dashboard on
them: operators are provisioned by id or by e-mail, sign in by e-mail and password, and hold sessions
under a token of which only the hash is stored. Random values and the readings of the clock are
arguments.
-/

namespace SentinelApex.Dashboard

/-! ## The platform -/

/-- `createHash('sha256')` in hexadecimal digits, `scryptSync` with the cost of the server,
`toLowerCase`, and the configured life of a session. -/
structure AuthPlatform where
  sha256 : String → String
  scrypt : String → String → List UInt8
  toLowerCase : String → String
  sessionTtlHours : ℤ

def sessionTouchIntervalMs : ℤ := 5 * 60 * 1000

/-- `s.length`: the characters outside of the basic plane count twice. -/
def jsLength (s : String) : ℕ := (s.toList.map fun c => if c.toNat < 65536 then 1 else 2).sum

/-! ## Passwords -/

def passwordPrefix : String := "scrypt"

def passwordCost : String := "16384"

def passwordBlockSize : String := "8"

def passwordParallelization : String := "1"

namespace AuthPlatform

variable (P : AuthPlatform)

def createPasswordHashBuffer (password saltHex : String) : List UInt8 := P.scrypt password saltHex

def hashPassword (password : String) (salt : List UInt8) : Except String String :=
  if jsLength password < 12 then .error "Operator passwords must be at least 12 characters."
  else
    let saltHex := String.ofList (Hex.encode salt)
    .ok ("$".intercalate [passwordPrefix, passwordCost, passwordBlockSize,
      passwordParallelization, saltHex,
      String.ofList (Hex.encode (P.createPasswordHashBuffer password saltHex))])

/-- The salt and the derived key of a stored hash; further parts are not looked at. -/
def parsePasswordHash (hash : String) : Except String (String × String) :=
  match (hash.toList.splitOn '$').map String.ofList with
  | algorithm :: cost :: blockSize :: parallelization :: saltHex :: derivedHex :: _ =>
    if algorithm ≠ passwordPrefix ∨ cost ≠ passwordCost ∨ blockSize ≠ passwordBlockSize ∨
        parallelization ≠ passwordParallelization then
      .error "Unsupported password hash format."
    else .ok (saltHex, derivedHex)
  | _ => .error "Unsupported password hash format."

def verifyPassword (password encodedHash : String) : Except String Bool :=
  match parsePasswordHash encodedHash with
  | .error message => .error message
  | .ok (saltHex, derivedHex) =>
    let actual := P.createPasswordHashBuffer password saltHex
    let expected := Hex.decode derivedHex.toList
    if actual.length ≠ expected.length then .ok false else .ok (decide (actual = expected))

theorem verifyPassword_hashPassword {password hash : String} {salt : List UInt8}
    (h : P.hashPassword password salt = .ok hash) :
    P.verifyPassword password hash = .ok true := by
  unfold hashPassword at h
  split_ifs at h
  cases h
  have hhex (bytes : List UInt8) : '$' ∉ Hex.encode bytes := Hex.notMem_encode (by decide) bytes
  have hprefix : '$' ∉ passwordPrefix.toList ∧ '$' ∉ passwordCost.toList ∧
      '$' ∉ passwordBlockSize.toList ∧ '$' ∉ passwordParallelization.toList := by decide
  generalize hsalt : String.ofList (Hex.encode salt) = saltHex
  have hparts : (("$".intercalate [passwordPrefix, passwordCost, passwordBlockSize,
      passwordParallelization, saltHex,
      String.ofList (Hex.encode (P.createPasswordHashBuffer password saltHex))]).toList.splitOn
        '$').map String.ofList = [passwordPrefix, passwordCost, passwordBlockSize,
          passwordParallelization, saltHex,
          String.ofList (Hex.encode (P.createPasswordHashBuffer password saltHex))] := by
    rw [String.toList_intercalate, show "$".toList = ['$'] from rfl, List.splitOn_intercalate]
    · simp
    · simp [hhex, ← hsalt, hprefix]
    · simp
  unfold verifyPassword parsePasswordHash
  rw [hparts]
  simp [Hex.decode_encode]

end AuthPlatform

/-! ## Tables -/

/-- A row of `ops_operators`. -/
structure OperatorRow where
  id : ℕ
  operatorId : String
  email : String
  displayName : String
  role : OpsOperatorRole
  passwordHash : String
  active : Bool

/-- A row of `ops_operator_sessions`. -/
structure SessionRow where
  sessionId : String
  operatorId : String
  tokenHash : String
  expiresAt : Date
  lastSeenAt : Date
  revokedAt : Option Date

structure AuthTables where
  operators : List OperatorRow
  sessions : List SessionRow
  nextId : ℕ

structure DashboardOperatorIdentity where
  operatorId : String
  email : String
  displayName : String
  role : OpsOperatorRole
  active : Bool
  deriving DecidableEq

def OperatorRow.identity (row : OperatorRow) : DashboardOperatorIdentity :=
  { operatorId := row.operatorId, email := row.email, displayName := row.displayName
    role := row.role, active := row.active }

structure DashboardSession where
  sessionId : String
  expiresAt : Date
  operator : DashboardOperatorIdentity
  deriving DecidableEq

def buildDashboardSession (session : SessionRow) (operator : OperatorRow) : DashboardSession :=
  { sessionId := session.sessionId, expiresAt := session.expiresAt
    operator := operator.identity }

namespace AuthTables

variable (tables : AuthTables)

def findOperator (operatorId : String) : Option OperatorRow :=
  Rows.find OperatorRow.operatorId operatorId tables.operators

def uniqueViolation (column : String) : String :=
  s!"duplicate key value violates unique constraint on {column}"

/-- An insertion, under the constraints of the columns `operator_id` and `email`. -/
def insertOperator (row : OperatorRow) : Except String AuthTables :=
  if (tables.operators.any fun other => decide (other.operatorId = row.operatorId)) = true then
    .error (uniqueViolation "operator_id")
  else if (tables.operators.any fun other => decide (other.email = row.email)) = true then
    .error (uniqueViolation "email")
  else .ok { tables with operators := tables.operators ++ [row], nextId := tables.nextId + 1 }

/-- The update of one row, under the same constraints and that of the sessions that refer to it. -/
def updateOperator (existing updated : OperatorRow) : Except String AuthTables :=
  let others := tables.operators.filter fun other => decide (other.id ≠ existing.id)
  if (others.any fun other => decide (other.operatorId = updated.operatorId)) = true then
    .error (uniqueViolation "operator_id")
  else if (others.any fun other => decide (other.email = updated.email)) = true then
    .error (uniqueViolation "email")
  else if updated.operatorId ≠ existing.operatorId ∧
      (tables.sessions.any fun session => decide (session.operatorId = existing.operatorId)) =
        true then
    .error "update on table ops_operators violates foreign key constraint"
  else .ok { tables with
    operators := Rows.update OperatorRow.id existing.id (fun _ => updated) tables.operators }

/-- An insertion, under the constraints of the columns `session_id` and `token_hash`. -/
def insertSession (row : SessionRow) : Except String AuthTables :=
  if (tables.sessions.any fun other => decide (other.sessionId = row.sessionId)) = true then
    .error (uniqueViolation "session_id")
  else if (tables.sessions.any fun other => decide (other.tokenHash = row.tokenHash)) = true then
    .error (uniqueViolation "token_hash")
  else .ok { tables with sessions := tables.sessions ++ [row] }

end AuthTables

/-! ## Operators -/

structure UpsertOperatorInput where
  operatorId : String
  email : String
  displayName : String
  role : OpsOperatorRole
  password : String
  active : Option Bool

namespace AuthPlatform

variable (P : AuthPlatform)

/-- The row that is written for an operator: a new one, or the first that has its id or e-mail. -/
def writeOperator (input : UpsertOperatorInput) (passwordHash : String) (tables : AuthTables) :
    Except String AuthTables :=
  match tables.operators.find? fun row =>
      decide (row.operatorId = input.operatorId) || decide (row.email = input.email) with
  | none =>
    tables.insertOperator
      { id := tables.nextId
        operatorId := input.operatorId
        email := input.email
        displayName := input.displayName
        role := input.role
        passwordHash
        active := input.active.getD true }
  | some existing =>
    tables.updateOperator existing
      { id := existing.id
        operatorId := input.operatorId
        email := input.email
        displayName := input.displayName
        role := input.role
        passwordHash
        active := input.active.getD existing.active }

def upsertOperator (input : UpsertOperatorInput) (salt : List UInt8) (tables : AuthTables) :
    Except String DashboardOperatorIdentity × AuthTables :=
  match P.hashPassword input.password salt with
  | .error message => (.error message, tables)
  | .ok passwordHash =>
    match writeOperator input passwordHash tables with
    | .error message => (.error message, tables)
    | .ok written =>
      match written.findOperator input.operatorId with
      | none => (.error s!"Failed to persist operator \"{input.operatorId}\".", written)
      | some operator => (.ok operator.identity, written)

def normalizeEmail (email : String) : String := P.toLowerCase (Json.trim email)

def authenticateOperatorCredentials (email password : String) (tables : AuthTables) :
    Except String (Option DashboardOperatorIdentity) :=
  match Rows.find OperatorRow.email (P.normalizeEmail email) tables.operators with
  | none => .ok none
  | some operator =>
    if !operator.active then .ok none
    else
      match P.verifyPassword password operator.passwordHash with
      | .error message => .error message
      | .ok false => .ok none
      | .ok true => .ok (some operator.identity)

/-! ## Sessions -/

def hashSessionToken (rawToken : String) : String := P.sha256 rawToken

def createDashboardSession (operatorId rawToken sessionId : String) (now : Date)
    (tables : AuthTables) : Except String (DashboardSession × String) × AuthTables :=
  match tables.findOperator operatorId with
  | none => (.error s!"Operator \"{operatorId}\" is not active.", tables)
  | some operator =>
    if !operator.active then (.error s!"Operator \"{operatorId}\" is not active.", tables)
    else
      let row : SessionRow :=
        { sessionId
          operatorId := operator.operatorId
          tokenHash := P.hashSessionToken rawToken
          expiresAt := now + P.sessionTtlHours * 60 * 60 * 1000
          lastSeenAt := now
          revokedAt := none }
      match tables.insertSession row with
      | .error message => (.error message, tables)
      | .ok inserted => (.ok (buildDashboardSession row operator, rawToken), inserted)

end AuthPlatform

namespace AuthTables

variable (tables : AuthTables)

/-- Sets `revoked_at` of the sessions that satisfy the condition. -/
def revokeWhere (p : SessionRow → Bool) (now : Date) : AuthTables :=
  { tables with
    sessions := tables.sessions.map fun row =>
      if p row = true then { row with revokedAt := some now } else row }

def revokeDashboardSessionById (sessionId : String) (now : Date) : AuthTables :=
  tables.revokeWhere (fun row => decide (row.sessionId = sessionId)) now

def touchSessionIfNeeded (sessionId : String) (lastSeenAt now : Date) : AuthTables :=
  if now - lastSeenAt < sessionTouchIntervalMs then tables
  else { tables with
    sessions := Rows.update SessionRow.sessionId sessionId
      (fun row => { row with lastSeenAt := now }) tables.sessions }

end AuthTables

namespace AuthPlatform

variable (P : AuthPlatform)

def revokeDashboardSessionByToken (rawToken : String) (now : Date) (tables : AuthTables) :
    AuthTables :=
  tables.revokeWhere (fun row => decide (row.tokenHash = P.hashSessionToken rawToken)) now

/-- The session of a token; a session whose operator is gone or not active is revoked. -/
def getDashboardSessionFromToken (rawToken : Option String) (now : Date) (tables : AuthTables) :
    Option DashboardSession × AuthTables :=
  match rawToken with
  | none => (none, tables)
  | some rawToken =>
    if Json.trim rawToken = "" then (none, tables)
    else
      match tables.sessions.find? fun row =>
          decide (row.tokenHash = P.hashSessionToken rawToken) && decide (now < row.expiresAt) &&
            row.revokedAt.isNone with
      | none => (none, tables)
      | some session =>
        match tables.operators.find? fun row =>
            decide (row.operatorId = session.operatorId) && row.active with
        | none => (none, tables.revokeDashboardSessionById session.sessionId now)
        | some operator =>
          (some (buildDashboardSession session operator),
            tables.touchSessionIfNeeded session.sessionId session.lastSeenAt now)

end AuthPlatform

end SentinelApex.Dashboard
