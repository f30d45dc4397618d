import SentinelApex.Shared.OpsAuth

/-!
# What a signature binds

If signatures cannot be forged and do not collide, then the accepted headers carry the signed text
of some call of `createSignedOperatorHeaders`. The text joins its fields with line feeds, and a
field may contain line feeds itself: an operator id that ends in a line with the name of a role
lends that role to whoever signs in under the rest of it (`identity_shifted`).

A signature binds the whole identity if and only if its text has one reading
(`operatorSignature_binds_iff`).
-/

namespace SentinelApex

open SigningPlatform

/-- A call of `createSignedOperatorHeaders`. -/
structure SignCall where
  context : SignedOperatorContext
  method : String
  path : String
  issuedAt : String

namespace SignCall

variable (P : SigningPlatform) (call : SignCall)

def headers (secret : String) : SignedOperatorHeaders :=
  P.createSignedOperatorHeaders call.context secret call.method call.path call.issuedAt

def payload : String :=
  P.buildSigningPayload call.method call.path call.issuedAt call.context.operatorId
    call.context.role.text call.context.sessionId

/-- The call was made with exactly the identity in the headers, for the request. -/
structure Matches (headers : SignedOperatorHeaders) (method path : String) : Prop where
  operatorId : call.context.operatorId = headers.operatorId
  role : call.context.role.text = headers.role
  sessionId : call.context.sessionId = headers.sessionId
  issuedAt : call.issuedAt = headers.issuedAt
  path : call.path = path
  method : P.toUpperCase call.method = P.toUpperCase method

end SignCall

namespace SigningPlatform

variable (P : SigningPlatform)

/-- Whoever presents the signature of some text has it from a call. -/
def NoForgery (secret : String) (calls : List SignCall) (signature : String) : Prop :=
  ∀ payload, signature = P.signPayload secret payload →
    ∃ call ∈ calls, (call.headers P secret).signature = signature

/-- The text that is verified. -/
def payloadOf (headers : SignedOperatorHeaders) (method path : String) : String :=
  P.buildSigningPayload method path headers.issuedAt headers.operatorId headers.role
    headers.sessionId

/-- Whatever calls were made, one of them was made with the identity in the headers. -/
def BindsIdentity (headers : SignedOperatorHeaders) (secret method path : String) : Prop :=
  ∀ calls, P.NoForgery secret calls headers.signature →
    ∃ call ∈ calls, call.Matches P headers method path

end SigningPlatform

/-- The signed text has one reading: no field before the role contains a line feed, and no line of
the session id but the last one is the name of a role. -/
structure OneReading (headers : SignedOperatorHeaders) (method path : String) : Prop where
  method : '\n' ∉ method.toList
  path : '\n' ∉ path.toList
  issuedAt : '\n' ∉ headers.issuedAt.toList
  operatorId : '\n' ∉ headers.operatorId.toList
  sessionId : ∀ role : OpsOperatorRole,
    role.text.toList ∉ (headers.sessionId.toList.splitOn '\n').dropLast

theorem toList_buildSigningPayload (P : SigningPlatform)
    (method path issuedAt operatorId role sessionId : String) :
    (P.buildSigningPayload method path issuedAt operatorId role sessionId).toList =
      ['\n'].intercalate ([(P.toUpperCase method).toList, path.toList, issuedAt.toList,
        operatorId.toList] ++ [role.toList, sessionId.toList]) := by
  rw [SigningPlatform.buildSigningPayload, String.toList_intercalate]
  rfl

theorem toList_toUpperCase (P : SigningPlatform) (s : String) :
    (P.toUpperCase s).toList = s.toList.flatMap P.upperChar := String.toList_ofList

theorem newline_mem_toUpperCase (P : SigningPlatform) (s : String) :
    '\n' ∈ (P.toUpperCase s).toList ↔ '\n' ∈ s.toList := by
  rw [toList_toUpperCase, List.mem_flatMap]
  constructor
  · rintro ⟨c, hc, hnewline⟩
    by_cases h : c = '\n'
    · rwa [← h]
    · exact absurd hnewline (P.newline_notMem_upperChar c h)
  · intro h
    exact ⟨'\n', h, by rw [P.upperChar_newline]; exact List.mem_singleton_self _⟩

theorem newline_notMem_roleText (role : OpsOperatorRole) : '\n' ∉ role.text.toList := by
  cases role <;> decide

section Binding

variable {P : SigningPlatform} {headers : SignedOperatorHeaders} {secret method path : String}
  {role : OpsOperatorRole}

/-- The identity is bound if and only if every call with the same text was made with it. -/
theorem bindsIdentity_iff_payload (hcollisions : Function.Injective (P.createHmac secret))
    (hsignature : headers.signature = P.signPayload secret (P.payloadOf headers method path)) :
    P.BindsIdentity headers secret method path ↔
      ∀ call : SignCall, call.payload P = P.payloadOf headers method path →
        call.Matches P headers method path := by
  constructor
  · intro hbinds call hcall
    have hsame : (call.headers P secret).signature = headers.signature := by
      rw [hsignature, ← hcall]
      rfl
    obtain ⟨found, hfound, hmatches⟩ := hbinds [call] fun _ _ =>
      ⟨call, List.mem_singleton_self _, hsame⟩
    obtain rfl := List.mem_singleton.1 hfound
    exact hmatches
  · intro hall calls hforgery
    obtain ⟨call, hcall, hsame⟩ := hforgery _ hsignature
    refine ⟨call, hcall, hall call (hcollisions ?_)⟩
    exact hsame.trans hsignature

/-- A text with one reading is read as it was written. -/
theorem matches_of_oneReading (hrole : headers.role = role.text)
    (hreading : OneReading headers method path) {call : SignCall}
    (hcall : call.payload P = P.payloadOf headers method path) :
    call.Matches P headers method path := by
  have htext := congrArg String.toList hcall
  rw [SignCall.payload, SigningPlatform.payloadOf, toList_buildSigningPayload,
    toList_buildSigningPayload] at htext
  have hmethod : '\n' ∉ (P.toUpperCase method).toList := fun h =>
    hreading.method ((newline_mem_toUpperCase P method).1 h)
  have hrole' : '\n' ∉ headers.role.toList := by
    rw [hrole]
    exact newline_notMem_roleText role
  have hheads : ∀ head ∈ [(P.toUpperCase method).toList, path.toList, headers.issuedAt.toList,
      headers.operatorId.toList], '\n' ∉ head := by
    simp [hmethod, hreading.path, hreading.issuedAt, hreading.operatorId]
  obtain ⟨hsame, hmark, hrest⟩ := Separated.heads_mark_rest_inj
    (by simp only [List.length_cons, List.length_nil]) hheads hrole'
    (newline_notMem_roleText call.context.role) (hreading.sessionId call.context.role) htext
  injection hsame with hmethods hsame
  injection hsame with hpaths hsame
  injection hsame with htimes hsame
  injection hsame with hoperators _
  exact ⟨String.toList_inj.1 hoperators, String.toList_inj.1 hmark, String.toList_inj.1 hrest,
    String.toList_inj.1 htimes, String.toList_inj.1 hpaths, String.toList_inj.1 hmethods⟩

theorem payload_eq_of_toList {call : SignCall}
    (h : ['\n'].intercalate [(P.toUpperCase call.method).toList, call.path.toList,
        call.issuedAt.toList, call.context.operatorId.toList, call.context.role.text.toList,
        call.context.sessionId.toList] =
      ['\n'].intercalate [(P.toUpperCase method).toList, path.toList, headers.issuedAt.toList,
        headers.operatorId.toList, headers.role.toList, headers.sessionId.toList]) :
    call.payload P = P.payloadOf headers method path := by
  rw [← String.toList_inj, SignCall.payload, SigningPlatform.payloadOf,
    toList_buildSigningPayload, toList_buildSigningPayload]
  exact h

theorem exists_cut {s : String} (h : '\n' ∈ s.toList) :
    ∃ u v : String, s.toList = u.toList ++ '\n' :: v.toList := by
  obtain ⟨u, v, huv⟩ := List.append_of_mem h
  refine ⟨String.ofList u, String.ofList v, ?_⟩
  rw [String.toList_ofList, String.toList_ofList, huv]

section

variable {s u v : String} (h : s.toList = u.toList ++ '\n' :: v.toList)

include h

theorem ne_left_of_cut : u ≠ s := by
  rintro rfl
  have hlength := congrArg List.length h
  simp at hlength

theorem ne_right_of_cut : v ≠ s := by
  rintro rfl
  have hlength := congrArg List.length h
  simp only [List.length_append, List.length_cons] at hlength
  omega

theorem toList_toUpperCase_of_cut :
    (P.toUpperCase s).toList = (P.toUpperCase u).toList ++ '\n' :: (P.toUpperCase v).toList := by
  rw [toList_toUpperCase, toList_toUpperCase, toList_toUpperCase, h, List.flatMap_append,
    List.flatMap_cons, P.upperChar_newline, List.singleton_append]

end

section Matches

variable (hrole : headers.role = role.text)
  (hall : ∀ call : SignCall, call.payload P = P.payloadOf headers method path →
    call.Matches P headers method path)

include hrole hall

/-- Otherwise the line with the name of a role would be taken for the role, and the lines before it
for lines of the operator id. -/
theorem role_notMem_of_matches (other : OpsOperatorRole) :
    other.text.toList ∉ (headers.sessionId.toList.splitOn '\n').dropLast := by
  intro h
  obtain ⟨before, after, hlines⟩ := List.append_of_mem h
  have hne := List.splitOn_ne_nil '\n' headers.sessionId.toList
  have hsplit : headers.sessionId.toList.splitOn '\n' = before ++ other.text.toList ::
      (after ++ [(headers.sessionId.toList.splitOn '\n').getLast hne]) := by
    rw [← List.cons_append, ← List.append_assoc, ← hlines, List.dropLast_append_getLast]
  generalize hrest : after ++ [(headers.sessionId.toList.splitOn '\n').getLast hne] = rest
    at hsplit
  have hrest_ne : rest ≠ [] := by
    rw [← hrest]
    simp
  have hjoin : ['\n'].intercalate (headers.operatorId.toList :: role.text.toList :: before) ++
      '\n' :: (other.text.toList ++ '\n' :: ['\n'].intercalate rest) =
        headers.operatorId.toList ++ '\n' :: (role.text.toList ++
          '\n' :: headers.sessionId.toList) := by
    have hsession : ['\n'].intercalate (before ++ other.text.toList :: rest) =
        headers.sessionId.toList := by
      rw [← hsplit, List.intercalate_splitOn]
    have hlast : ['\n'].intercalate (other.text.toList :: rest) =
        other.text.toList ++ '\n' :: ['\n'].intercalate rest := by
      rw [List.intercalate_cons_of_ne_nil hrest_ne]
      simp
    rw [← hlast, ← Separated.intercalate_append (by simp) (by simp), List.cons_append,
      List.cons_append, List.intercalate_cons_cons, List.intercalate_cons_of_ne_nil (by simp),
      hsession]
    simp
  have hlonger : headers.operatorId.toList.length < (['\n'].intercalate
      (headers.operatorId.toList :: role.text.toList :: before)).length := by
    rw [List.intercalate_cons_cons]
    simp
  generalize ['\n'].intercalate (headers.operatorId.toList :: role.text.toList :: before) =
    operatorId at hjoin hlonger
  have hmatches := hall
    ⟨⟨String.ofList operatorId, other, String.ofList (['\n'].intercalate rest)⟩, method, path,
      headers.issuedAt⟩
    (payload_eq_of_toList (by simp [hrole, String.toList_ofList, hjoin]))
  have hsame := congrArg (fun s => s.toList.length) hmatches.operatorId
  simp only [String.toList_ofList] at hsame
  omega

/-- A text that is read only as it was written has one reading: otherwise a line feed would be taken
for the end of a field, or for no end of one. -/
theorem oneReading_of_matches : OneReading headers method path := by
  constructor
  · intro h
    obtain ⟨u, v, huv⟩ := exists_cut h
    have hupper := toList_toUpperCase_of_cut (P := P) huv
    have hmatches := hall
      ⟨⟨headers.operatorId, role, headers.sessionId⟩, u,
        String.ofList ((P.toUpperCase v).toList ++ '\n' :: path.toList), headers.issuedAt⟩
      (payload_eq_of_toList (by simp [hupper, hrole]))
    exact ne_left_of_cut hupper hmatches.method
  · intro h
    obtain ⟨u, v, huv⟩ := exists_cut h
    have hmatches := hall
      ⟨⟨headers.operatorId, role, headers.sessionId⟩, method, u,
        String.ofList (v.toList ++ '\n' :: headers.issuedAt.toList)⟩
      (payload_eq_of_toList (by simp [huv, hrole]))
    exact ne_left_of_cut huv hmatches.path
  · intro h
    obtain ⟨u, v, huv⟩ := exists_cut h
    have hmatches := hall
      ⟨⟨String.ofList (v.toList ++ '\n' :: headers.operatorId.toList), role, headers.sessionId⟩,
        method, path, u⟩
      (payload_eq_of_toList (by simp [huv, hrole]))
    exact ne_left_of_cut huv hmatches.issuedAt
  · intro h
    obtain ⟨u, v, huv⟩ := exists_cut h
    have hmatches := hall
      ⟨⟨v, role, headers.sessionId⟩, method, path,
        String.ofList (headers.issuedAt.toList ++ '\n' :: u.toList)⟩
      (payload_eq_of_toList (by simp [huv, hrole]))
    exact ne_right_of_cut huv hmatches.operatorId
  · exact role_notMem_of_matches hrole hall

end Matches

end Binding

/-- Accepted headers bind the identity if and only if their text has one reading, and headers that
were created for a request are accepted for it within the allowed skew. -/
theorem operatorSignature_binds_iff (P : SigningPlatform) (secret : String)
    (hcollisions : Function.Injective (P.createHmac secret)) :
    (∀ headers method path maxSkewMs now context,
      P.verifySignedOperatorHeaders headers secret method path maxSkewMs now = .ok context →
        (P.BindsIdentity headers secret method path ↔ OneReading headers method path)) ∧
      ∀ (call : SignCall) method maxSkewMs now issuedAtMs,
        P.dateParse call.issuedAt = some issuedAtMs → |now - issuedAtMs| ≤ maxSkewMs →
          P.toUpperCase method = P.toUpperCase call.method →
            P.verifySignedOperatorHeaders (call.headers P secret) secret method call.path maxSkewMs
              now = .ok call.context := by
  constructor
  · intro headers method path maxSkewMs now context haccepted
    obtain ⟨hrole, hsignature⟩ := signature_of_verify haccepted
    rw [bindsIdentity_iff_payload hcollisions hsignature]
    exact ⟨oneReading_of_matches hrole, fun hreading _ => matches_of_oneReading hrole hreading⟩
  · intro call method maxSkewMs now issuedAtMs hdate hskew hmethod
    exact verify_createSignedOperatorHeaders hdate hskew hmethod

theorem newline_notMem_toUpper {c : Char} (h : c ≠ '\n') : '\n' ∉ [c.toUpper] := by
  intro hmem
  have hc := List.mem_singleton.1 hmem
  unfold Char.toUpper at hc
  split at hc
  · rename_i hlower
    have hlow : 97 ≤ c.val.toNat := UInt32.le_iff_toNat_le.1 hlower.1
    have hhigh : c.val.toNat ≤ 122 := UInt32.le_iff_toNat_le.1 hlower.2
    have hval := congrArg (fun d : Char => d.val.toNat) hc
    have hsum : (c.val + ('A'.val - 'a'.val)).toNat = (c.val.toNat + 4294967264) % 4294967296 :=
      UInt32.toNat_add _ _
    rw [hsum] at hval
    have hnewline : '\n'.val.toNat = 10 := rfl
    omega
  · exact h hc.symm

/-- Signatures are their own texts, and only one date is parsed. -/
def samplePlatform : SigningPlatform where
  createHmac secret payload := secret ++ payload
  dateParse s := if s = "2024-05-01T00:00:00.000Z" then some 1714521600000 else none
  upperChar c := [c.toUpper]
  upperChar_newline := by decide
  newline_notMem_upperChar _ h := newline_notMem_toUpper h

theorem injective_samplePlatform (secret : String) :
    Function.Injective (samplePlatform.createHmac secret) := by
  intro a b h
  have hlist := congrArg String.toList h
  rw [← String.toList_inj]
  simpa [samplePlatform] using hlist

/-- A viewer whose operator id has a second line. -/
def sampleSignCall : SignCall where
  context := { operatorId := "mallory\nadmin", role := .viewer, sessionId := "s-1" }
  method := "post"
  path := "/control/kill-switch"
  issuedAt := "2024-05-01T00:00:00.000Z"

theorem operatorSignature_binds_iff_sample :
    samplePlatform.verifySignedOperatorHeaders (sampleSignCall.headers samplePlatform "secret")
      "secret" "POST" "/control/kill-switch" SigningPlatform.defaultMaxSkewMs 1714521600001 =
        .ok sampleSignCall.context ∧
      (samplePlatform.BindsIdentity (sampleSignCall.headers samplePlatform "secret") "secret" "POST"
        "/control/kill-switch" ↔
          OneReading (sampleSignCall.headers samplePlatform "secret") "POST"
            "/control/kill-switch") := by
  obtain ⟨hbinds, haccepts⟩ := operatorSignature_binds_iff samplePlatform "secret"
    (injective_samplePlatform "secret")
  have haccepted := haccepts sampleSignCall "POST" SigningPlatform.defaultMaxSkewMs 1714521600001
    1714521600000 rfl (by decide) (by decide +kernel)
  exact ⟨haccepted, hbinds _ _ _ _ _ _ haccepted⟩

/-- The same signature with the lines of the text taken for other fields. -/
def shiftedHeaders : SignedOperatorHeaders where
  operatorId := "mallory"
  role := "admin"
  sessionId := "viewer\ns-1"
  issuedAt := "2024-05-01T00:00:00.000Z"
  signature := (sampleSignCall.headers samplePlatform "secret").signature

/-- The viewer is accepted as an admin. -/
theorem identity_shifted :
    samplePlatform.verifySignedOperatorHeaders shiftedHeaders "secret" "POST"
        "/control/kill-switch" SigningPlatform.defaultMaxSkewMs 1714521600001 =
      .ok { operatorId := "mallory", role := .admin, sessionId := "viewer\ns-1" } ∧
    ¬ samplePlatform.BindsIdentity shiftedHeaders "secret" "POST" "/control/kill-switch" := by
  refine ⟨by decide +kernel, fun hbinds => ?_⟩
  obtain ⟨call, hcall, hmatches⟩ := hbinds [sampleSignCall] fun _ _ =>
    ⟨sampleSignCall, List.mem_singleton_self _, rfl⟩
  obtain rfl := List.mem_singleton.1 hcall
  exact absurd hmatches.operatorId (by decide)

end SentinelApex
