import Mathlib
import SentinelApex.Domain.Numbers
import SentinelApex.Lib.Separated

/-!
# Signed operator headers

The dashboard signs every request that it makes for an operator, and the API verifies the signature
over the method, the path and the identity in the headers. The signature itself, the parser of dates
and the table of upper case letters belong to the platform.
-/

namespace SentinelApex

/-- `createHmac('sha256', secret).update(payload).digest('hex')`, `Date.parse` (`none` is `NaN`), and
the upper case of every character, of which no other character than a line feed contains one. -/
structure SigningPlatform where
  createHmac : String → String → String
  dateParse : String → Option Date
  upperChar : Char → List Char
  upperChar_newline : upperChar '\n' = ['\n']
  newline_notMem_upperChar : ∀ c, c ≠ '\n' → '\n' ∉ upperChar c

def SigningPlatform.toUpperCase (P : SigningPlatform) (s : String) : String :=
  String.ofList (s.toList.flatMap P.upperChar)

inductive OpsOperatorRole where
  | viewer
  | operator
  | admin
  deriving DecidableEq, Repr

def OpsOperatorRole.text : OpsOperatorRole → String
  | .viewer => "viewer"
  | .operator => "operator"
  | .admin => "admin"

def opsOperatorRoles : List OpsOperatorRole := [.viewer, .operator, .admin]

/-- The role that a header names, if it names one (`isOpsOperatorRole`). -/
def opsOperatorRole? (value : String) : Option OpsOperatorRole :=
  opsOperatorRoles.find? fun role => decide (role.text = value)

structure SignedOperatorContext where
  operatorId : String
  role : OpsOperatorRole
  sessionId : String
  deriving DecidableEq

structure SignedOperatorHeaders where
  operatorId : String
  role : String
  sessionId : String
  issuedAt : String
  signature : String

namespace SigningPlatform

variable (P : SigningPlatform)

def buildSigningPayload (method path issuedAt operatorId role sessionId : String) : String :=
  "\n".intercalate [P.toUpperCase method, path, issuedAt, operatorId, role, sessionId]

def signPayload (secret payload : String) : String := P.createHmac secret payload

end SigningPlatform

/-- Buffers of different lengths are not compared. -/
def timingSafeStringEqual (a b : String) : Bool :=
  let bufferA := a.toUTF8
  let bufferB := b.toUTF8
  if bufferA.size ≠ bufferB.size then false else decide (bufferA = bufferB)

theorem timingSafeStringEqual_iff {a b : String} : timingSafeStringEqual a b = true ↔ a = b := by
  unfold timingSafeStringEqual
  constructor
  · intro h
    by_cases hsize : a.toUTF8.size ≠ b.toUTF8.size
    · rw [if_pos hsize] at h
      cases h
    · rw [if_neg hsize] at h
      exact String.toByteArray_inj.1 (of_decide_eq_true h)
  · rintro rfl
    simp

namespace SigningPlatform

variable (P : SigningPlatform)

def createSignedOperatorHeaders (context : SignedOperatorContext)
    (secret method path issuedAt : String) : SignedOperatorHeaders where
  operatorId := context.operatorId
  role := context.role.text
  sessionId := context.sessionId
  issuedAt
  signature := P.signPayload secret (P.buildSigningPayload method path issuedAt
    context.operatorId context.role.text context.sessionId)

def defaultMaxSkewMs : ℤ := 5 * 60 * 1000

/-- The context of the headers, at the time `now`. -/
def verifySignedOperatorHeaders (headers : SignedOperatorHeaders) (secret method path : String)
    (maxSkewMs : ℤ) (now : Date) : Except String SignedOperatorContext :=
  match opsOperatorRole? headers.role with
  | none => .error s!"Invalid operator role \"{headers.role}\"."
  | some role =>
    match P.dateParse headers.issuedAt with
    | none => .error "Invalid operator signature timestamp."
    | some issuedAtMs =>
      if maxSkewMs < |now - issuedAtMs| then .error "Operator signature is expired."
      else
        let expectedSignature := P.signPayload secret (P.buildSigningPayload method path
          headers.issuedAt headers.operatorId headers.role headers.sessionId)
        if !timingSafeStringEqual headers.signature expectedSignature then
          .error "Invalid operator signature."
        else .ok { operatorId := headers.operatorId, role, sessionId := headers.sessionId }

end SigningPlatform

theorem opsOperatorRole?_text (role : OpsOperatorRole) : opsOperatorRole? role.text = some role := by
  cases role <;> decide

theorem text_of_opsOperatorRole? {value : String} {role : OpsOperatorRole}
    (h : opsOperatorRole? value = some role) : value = role.text := by
  have htext := List.find?_some h
  exact (of_decide_eq_true htext).symm

namespace SigningPlatform

variable {P : SigningPlatform} {headers : SignedOperatorHeaders} {secret method path : String}
  {maxSkewMs : ℤ} {now : Date} {context : SignedOperatorContext}

/-- Accepted headers name a role and carry the signature of the request. -/
theorem signature_of_verify
    (h : P.verifySignedOperatorHeaders headers secret method path maxSkewMs now = .ok context) :
    headers.role = context.role.text ∧
      headers.signature = P.signPayload secret (P.buildSigningPayload method path headers.issuedAt
        headers.operatorId headers.role headers.sessionId) := by
  unfold verifySignedOperatorHeaders at h
  split at h
  · cases h
  rename_i role hrole
  split at h
  · cases h
  rename_i issuedAtMs hdate
  by_cases hskew : maxSkewMs < |now - issuedAtMs|
  · rw [if_pos hskew] at h
    cases h
  rw [if_neg hskew] at h
  by_cases hsignature : (!timingSafeStringEqual headers.signature
      (P.signPayload secret (P.buildSigningPayload method path headers.issuedAt
        headers.operatorId headers.role headers.sessionId))) = true
  · rw [if_pos hsignature] at h
    cases h
  · rw [if_neg hsignature] at h
    cases h
    exact ⟨text_of_opsOperatorRole? hrole,
      timingSafeStringEqual_iff.1 (by simpa using hsignature)⟩

/-- Headers are accepted for the request they were created for, as long as they are not too old. -/
theorem verify_createSignedOperatorHeaders {issuedAt method' : String} {issuedAtMs : Date}
    (hdate : P.dateParse issuedAt = some issuedAtMs) (hskew : |now - issuedAtMs| ≤ maxSkewMs)
    (hmethod : P.toUpperCase method' = P.toUpperCase method) :
    P.verifySignedOperatorHeaders
        (P.createSignedOperatorHeaders context secret method path issuedAt) secret method' path
        maxSkewMs now = .ok context := by
  have hrole : opsOperatorRole? (P.createSignedOperatorHeaders context secret method path
      issuedAt).role = some context.role := opsOperatorRole?_text context.role
  have hparsed : P.dateParse (P.createSignedOperatorHeaders context secret method path
      issuedAt).issuedAt = some issuedAtMs := hdate
  unfold verifySignedOperatorHeaders
  simp only [hrole, hparsed]
  have hsame : (P.createSignedOperatorHeaders context secret method path issuedAt).signature =
      P.signPayload secret (P.buildSigningPayload method' path issuedAt context.operatorId
        context.role.text context.sessionId) := by
    rw [buildSigningPayload, hmethod]
    rfl
  rw [if_neg (not_lt.2 hskew), if_neg]
  · rfl
  · show ¬ (!timingSafeStringEqual
      (P.createSignedOperatorHeaders context secret method path issuedAt).signature
      (P.signPayload secret (P.buildSigningPayload method' path issuedAt context.operatorId
        context.role.text context.sessionId))) = true
    rw [timingSafeStringEqual_iff.2 hsame]
    exact Bool.false_ne_true

end SigningPlatform

end SentinelApex
