import SentinelApex.Dashboard.AuthServer

/-!
# Runs of the dashboard's authentication

A run performs operations on the tables, from empty ones. What the rows of the sessions say is read
off from the run: every row was inserted by a call that issued its token, none of whose sessions was
revoked since as long as the row says so, and its operator is still the one that the token was
issued for, because the database keeps the ids of operators that have sessions.

An operator signs in under the e-mail that was provisioned if and only if it is its own normal form
(`dashboardAuth_sound`).
-/

namespace SentinelApex.Dashboard

/-! ## Operations -/

inductive AuthOperation where
  | upsertOperator (input : UpsertOperatorInput) (salt : List UInt8)
  | authenticateOperatorCredentials (email password : String)
  | createDashboardSession (operatorId rawToken sessionId : String) (now : Date)
  | revokeDashboardSessionByToken (rawToken : String) (now : Date)
  | revokeDashboardSessionById (sessionId : String) (now : Date)
  | getDashboardSessionFromToken (rawToken : Option String) (now : Date)

inductive AuthReply where
  | operator (identity : DashboardOperatorIdentity)
  | credentials (identity : Option DashboardOperatorIdentity)
  | created (session : DashboardSession) (token : String)
  | revoked
  | session (session : Option DashboardSession)

/-- An operation with its reply and the tables around it. -/
structure AuthEvent where
  before : AuthTables
  operation : AuthOperation
  reply : Except String AuthReply
  after : AuthTables

namespace AuthPlatform

variable (P : AuthPlatform)

def perform (tables : AuthTables) : AuthOperation → Except String AuthReply × AuthTables
  | .upsertOperator input salt =>
    let answer := P.upsertOperator input salt tables
    (answer.1.map .operator, answer.2)
  | .authenticateOperatorCredentials email password =>
    ((P.authenticateOperatorCredentials email password tables).map .credentials, tables)
  | .createDashboardSession operatorId rawToken sessionId now =>
    let answer := P.createDashboardSession operatorId rawToken sessionId now tables
    (answer.1.map fun created => .created created.1 created.2, answer.2)
  | .revokeDashboardSessionByToken rawToken now =>
    (.ok .revoked, P.revokeDashboardSessionByToken rawToken now tables)
  | .revokeDashboardSessionById sessionId now =>
    (.ok .revoked, tables.revokeDashboardSessionById sessionId now)
  | .getDashboardSessionFromToken rawToken now =>
    let answer := P.getDashboardSessionFromToken rawToken now tables
    (.ok (.session answer.1), answer.2)

def event (tables : AuthTables) (operation : AuthOperation) : AuthEvent :=
  ⟨tables, operation, (P.perform tables operation).1, (P.perform tables operation).2⟩

def events : List AuthOperation → AuthTables → List AuthEvent
  | [], _ => []
  | operation :: rest, tables =>
    P.event tables operation :: events rest (P.perform tables operation).2

end AuthPlatform

def emptyTables : AuthTables := { operators := [], sessions := [], nextId := 0 }

def AuthOperation.Revokes (rawToken sessionId : String) : AuthOperation → Prop
  | .revokeDashboardSessionByToken token _ => token = rawToken
  | .revokeDashboardSessionById id _ => id = sessionId
  | _ => False

/-! ## Issued tokens -/

/-- The past of a run issued a token for an operator: the event that did it, what followed it, and the
key that the operator had. -/
structure Issue (P : AuthPlatform) (past : List AuthEvent)
    (rawToken sessionId operatorId : String) (expiresAt : Date) (key : ℕ) where
  earlier : List AuthEvent
  event : AuthEvent
  later : List AuthEvent
  issuedAt : Date
  session : DashboardSession
  split : past = earlier ++ event :: later
  operation : event.operation = .createDashboardSession operatorId rawToken sessionId issuedAt
  reply : event.reply = .ok (.created session rawToken)
  expires : expiresAt = issuedAt + P.sessionTtlHours * 60 * 60 * 1000
  holder : ∃ row ∈ event.before.operators, row.operatorId = operatorId ∧ row.id = key

/-- A session that is yielded at the time `now` is sound: its token was issued for its operator, it is
not expired, it was not revoked since, and the operator, which is the one that the token was issued
for, is active and has the role that the session says. -/
def SoundSession (P : AuthPlatform) (past : List AuthEvent) (tables : AuthTables)
    (rawToken : String) (now : Date) (session : DashboardSession) : Prop :=
  ∃ row ∈ tables.operators, row.active = true ∧ session.operator = row.identity ∧
    ∃ issue : Issue P past rawToken session.sessionId row.operatorId session.expiresAt row.id,
      now < session.expiresAt ∧
        ∀ e ∈ issue.later, ¬ e.operation.Revokes rawToken session.sessionId

/-! ## The invariant -/

def IssuedRow (P : AuthPlatform) (past : List AuthEvent) (operators : List OperatorRow)
    (r : SessionRow) : Prop :=
  ∃ rawToken, r.tokenHash = P.hashSessionToken rawToken ∧ ∃ row ∈ operators,
    row.operatorId = r.operatorId ∧
      ∃ issue : Issue P past rawToken r.sessionId r.operatorId r.expiresAt row.id,
        r.revokedAt = none → ∀ e ∈ issue.later, ¬ e.operation.Revokes rawToken r.sessionId

/-- The constraints of the operators' columns. -/
structure UniqueOperators (tables : AuthTables) : Prop where
  key : ∀ a ∈ tables.operators, ∀ b ∈ tables.operators, a.id = b.id → a = b
  operatorId : ∀ a ∈ tables.operators, ∀ b ∈ tables.operators,
    a.operatorId = b.operatorId → a = b
  email : ∀ a ∈ tables.operators, ∀ b ∈ tables.operators, a.email = b.email → a = b
  fresh : ∀ a ∈ tables.operators, a.id < tables.nextId

structure AuthInv (P : AuthPlatform) (past : List AuthEvent) (tables : AuthTables) : Prop where
  unique : UniqueOperators tables
  issued : ∀ r ∈ tables.sessions, IssuedRow P past tables.operators r

variable {written : AuthTables}

section Steps

variable {P : AuthPlatform} {past : List AuthEvent} {tables : AuthTables}

/-- A row stays issued after an event that keeps its operator, if it does not revoke it behind the
row's back. -/
theorem IssuedRow.append {operators operators' : List OperatorRow} {r r' : SessionRow}
    (h : IssuedRow P past operators r) (e : AuthEvent)
    (hsession : r'.sessionId = r.sessionId) (hoperator : r'.operatorId = r.operatorId)
    (htoken : r'.tokenHash = r.tokenHash) (hexpires : r'.expiresAt = r.expiresAt)
    (hkept : ∀ row ∈ operators, row.operatorId = r.operatorId →
      ∃ row' ∈ operators', row'.operatorId = r.operatorId ∧ row'.id = row.id)
    (hrevoked : r'.revokedAt = none → r.revokedAt = none ∧
      ∀ rawToken, r.tokenHash = P.hashSessionToken rawToken →
        ¬ e.operation.Revokes rawToken r.sessionId) :
    IssuedRow P (past ++ [e]) operators' r' := by
  obtain ⟨rawToken, hhash, row, hrow, hid, issue, hlive⟩ := h
  obtain ⟨row', hrow', hid', hkey⟩ := hkept row hrow hid
  refine ⟨rawToken, htoken.trans hhash, row', hrow', hid'.trans hoperator.symm, ?_⟩
  rw [hsession, hoperator, hexpires, hkey]
  have hsplit : past ++ [e] = issue.earlier ++ issue.event :: (issue.later ++ [e]) := by
    have h := congrArg (fun l => l ++ [e]) issue.split
    simpa using h
  refine ⟨{ issue with later := issue.later ++ [e], split := hsplit }, ?_⟩
  intro hnone e' he'
  obtain ⟨hnone, hnot⟩ := hrevoked hnone
  rcases List.mem_append.1 he' with he' | he'
  · exact hlive hnone e' he'
  · obtain rfl := List.mem_singleton.1 he'
    exact hnot rawToken hhash

theorem AuthInv.mapSessions (inv : AuthInv P past tables) (e : AuthEvent)
    {f : SessionRow → SessionRow} (hsession : ∀ r, (f r).sessionId = r.sessionId)
    (hoperator : ∀ r, (f r).operatorId = r.operatorId)
    (htoken : ∀ r, (f r).tokenHash = r.tokenHash) (hexpires : ∀ r, (f r).expiresAt = r.expiresAt)
    (hrevoked : ∀ r, (f r).revokedAt = none → r.revokedAt = none ∧
      ∀ rawToken, r.tokenHash = P.hashSessionToken rawToken →
        ¬ e.operation.Revokes rawToken r.sessionId) :
    AuthInv P (past ++ [e]) { tables with sessions := tables.sessions.map f } := by
  refine ⟨⟨inv.unique.key, inv.unique.operatorId, inv.unique.email, inv.unique.fresh⟩, ?_⟩
  intro r' hr'
  obtain ⟨r, hr, rfl⟩ := List.mem_map.1 hr'
  exact (inv.issued r hr).append e (hsession r) (hoperator r) (htoken r) (hexpires r)
    (fun row hrow hid => ⟨row, hrow, hid, rfl⟩) (hrevoked r)

variable {e : AuthEvent} {now : Date} {input : UpsertOperatorInput} {session : DashboardSession}
  {rawToken : String}

theorem AuthInv.append (inv : AuthInv P past tables)
    (hnot : ∀ rawToken sessionId, ¬ e.operation.Revokes rawToken sessionId) :
    AuthInv P (past ++ [e]) tables := by
  refine ⟨inv.unique, fun r hr => ?_⟩
  exact (inv.issued r hr).append e rfl rfl rfl rfl (fun row hrow hid => ⟨row, hrow, hid, rfl⟩)
    fun hnone => ⟨hnone, fun _ _ => hnot _ _⟩

theorem insertOperator_keeps {row : OperatorRow} (hunique : UniqueOperators tables)
    (h : tables.insertOperator row = .ok written) (hkey : row.id = tables.nextId) :
    UniqueOperators written ∧ written.operators = tables.operators ++ [row] ∧
      written.sessions = tables.sessions := by
  unfold AuthTables.insertOperator at h
  split_ifs at h with hid hemail
  cases h
  have hids (a : OperatorRow) (ha : a ∈ tables.operators) : a.operatorId ≠ row.operatorId := by
    intro hsame
    exact hid (List.any_eq_true.2 ⟨a, ha, by simp [hsame]⟩)
  have hemails (a : OperatorRow) (ha : a ∈ tables.operators) : a.email ≠ row.email := by
    intro hsame
    exact hemail (List.any_eq_true.2 ⟨a, ha, by simp [hsame]⟩)
  have hkeys (a : OperatorRow) (ha : a ∈ tables.operators) : a.id ≠ row.id := by
    have hfresh := hunique.fresh a ha
    omega
  have hpairs {β : Type} (f : OperatorRow → β)
      (hf : ∀ a ∈ tables.operators, ∀ b ∈ tables.operators, f a = f b → a = b)
      (hnew : ∀ a ∈ tables.operators, f a ≠ f row) :
      ∀ a ∈ tables.operators ++ [row], ∀ b ∈ tables.operators ++ [row], f a = f b → a = b := by
    intro a ha b hb hab
    rcases List.mem_append.1 ha with hold | hadded <;>
      rcases List.mem_append.1 hb with hold' | hadded'
    · exact hf a hold b hold' hab
    · rw [List.mem_singleton.1 hadded'] at hab
      exact absurd hab (hnew a hold)
    · rw [List.mem_singleton.1 hadded] at hab
      exact absurd hab.symm (hnew b hold')
    · rw [List.mem_singleton.1 hadded, List.mem_singleton.1 hadded']
  refine ⟨⟨hpairs _ hunique.key hkeys, hpairs _ hunique.operatorId hids,
    hpairs _ hunique.email hemails, ?_⟩, rfl, rfl⟩
  intro a ha
  rcases List.mem_append.1 ha with ha | ha
  · exact Nat.lt_succ_of_lt (hunique.fresh a ha)
  · obtain rfl := List.mem_singleton.1 ha
    exact Nat.lt_succ_of_le hkey.le

theorem updateOperator_keeps {existing updated : OperatorRow} (hunique : UniqueOperators tables)
    (hmem : existing ∈ tables.operators) (h : tables.updateOperator existing updated = .ok written)
    (hkey : updated.id = existing.id) :
    UniqueOperators written ∧
      (∀ row, row ∈ written.operators ↔ row = updated ∨ row ∈ tables.operators ∧ row ≠ existing) ∧
      written.sessions = tables.sessions ∧
      ∀ r ∈ tables.sessions, existing.operatorId = r.operatorId →
        updated.operatorId = r.operatorId := by
  unfold AuthTables.updateOperator at h
  simp only at h
  split_ifs at h with hid hemail hforeign
  cases h
  have hothers (a : OperatorRow) (ha : a ∈ tables.operators) (hne : a ≠ existing) :
      a.id ≠ existing.id := fun hsame => hne (hunique.key a ha existing hmem hsame)
  have hids (a : OperatorRow) (ha : a ∈ tables.operators) (hne : a ≠ existing) :
      a.operatorId ≠ updated.operatorId := by
    intro hsame
    exact hid (List.any_eq_true.2 ⟨a, List.mem_filter.2 ⟨ha, by simp [hothers a ha hne]⟩,
      by simp [hsame]⟩)
  have hemails (a : OperatorRow) (ha : a ∈ tables.operators) (hne : a ≠ existing) :
      a.email ≠ updated.email := by
    intro hsame
    exact hemail (List.any_eq_true.2 ⟨a, List.mem_filter.2 ⟨ha, by simp [hothers a ha hne]⟩,
      by simp [hsame]⟩)
  have hrows (row : OperatorRow) :
      row ∈ Rows.update OperatorRow.id existing.id (fun _ => updated) tables.operators ↔
        row = updated ∨ row ∈ tables.operators ∧ row ≠ existing := by
    rw [Rows.mem_update]
    constructor
    · rintro ⟨old, hold, rfl⟩
      by_cases hsame : old.id = existing.id
      · rw [if_pos hsame]
        exact Or.inl rfl
      · rw [if_neg hsame]
        exact Or.inr ⟨hold, fun h => hsame (by rw [h])⟩
    · rintro (rfl | ⟨hrow, hne⟩)
      · exact ⟨existing, hmem, if_pos rfl⟩
      · exact ⟨row, hrow, if_neg (hothers row hrow hne)⟩
  have hpairs {β : Type} (f : OperatorRow → β)
      (hf : ∀ a ∈ tables.operators, ∀ b ∈ tables.operators, f a = f b → a = b)
      (hnew : ∀ a ∈ tables.operators, a ≠ existing → f a ≠ f updated) (a b : OperatorRow)
      (ha : a = updated ∨ a ∈ tables.operators ∧ a ≠ existing)
      (hb : b = updated ∨ b ∈ tables.operators ∧ b ≠ existing) (hab : f a = f b) : a = b := by
    rcases ha with rfl | ⟨ha, hane⟩ <;> rcases hb with rfl | ⟨hb, hbne⟩
    · rfl
    · exact absurd hab.symm (hnew b hb hbne)
    · exact absurd hab (hnew a ha hane)
    · exact hf a ha b hb hab
  refine ⟨⟨?_, ?_, ?_, ?_⟩, hrows, rfl, ?_⟩
  · exact fun a ha b hb => hpairs _ hunique.key
      (fun c hc hne => by rw [hkey]; exact hothers c hc hne) a b ((hrows a).1 ha) ((hrows b).1 hb)
  · exact fun a ha b hb => hpairs _ hunique.operatorId hids a b ((hrows a).1 ha) ((hrows b).1 hb)
  · exact fun a ha b hb => hpairs _ hunique.email hemails a b ((hrows a).1 ha) ((hrows b).1 hb)
  · intro a ha
    rcases (hrows a).1 ha with rfl | ⟨ha, -⟩
    · rw [hkey]
      exact hunique.fresh existing hmem
    · exact hunique.fresh a ha
  · intro r hr hrefers
    by_contra hgone
    refine hforeign ⟨fun hsame => hgone (hsame.trans hrefers), ?_⟩
    exact List.any_eq_true.2 ⟨r, hr, by simp [hrefers]⟩

theorem writeOperator_keeps {passwordHash : String} (hunique : UniqueOperators tables)
    (h : AuthPlatform.writeOperator input passwordHash tables = .ok written) :
    UniqueOperators written ∧ written.sessions = tables.sessions ∧
      (∃ row ∈ written.operators, row.operatorId = input.operatorId ∧ row.email = input.email ∧
        row.passwordHash = passwordHash) ∧
      ∀ r ∈ tables.sessions, ∀ row ∈ tables.operators, row.operatorId = r.operatorId →
        ∃ row' ∈ written.operators, row'.operatorId = r.operatorId ∧ row'.id = row.id := by
  unfold AuthPlatform.writeOperator at h
  split at h
  · obtain ⟨hkeeps, hrows, hsessions⟩ := insertOperator_keeps hunique h rfl
    refine ⟨hkeeps, hsessions, ?_, fun r _ row hrow hid => ?_⟩
    · rw [hrows]
      exact ⟨_, List.mem_append_right _ (List.mem_singleton_self _), rfl, rfl, rfl⟩
    · refine ⟨row, ?_, hid, rfl⟩
      rw [hrows]
      exact List.mem_append_left _ hrow
  · rename_i existing hfound
    have hmem := List.mem_of_find?_eq_some hfound
    obtain ⟨hkeeps, hrows, hsessions, hforeign⟩ := updateOperator_keeps hunique hmem h rfl
    refine ⟨hkeeps, hsessions, ⟨_, (hrows _).2 (Or.inl rfl), rfl, rfl, rfl⟩,
      fun r hr row hrow hid => ?_⟩
    by_cases hsame : row = existing
    · subst hsame
      exact ⟨_, (hrows _).2 (Or.inl rfl), hforeign r hr hid, rfl⟩
    · exact ⟨row, (hrows row).2 (Or.inr ⟨hrow, hsame⟩), hid, rfl⟩

section

variable (inv : AuthInv P past tables)

include inv

theorem AuthInv.upsertOperator (input : UpsertOperatorInput) (salt : List UInt8) (e : AuthEvent)
    (he : e.operation = .upsertOperator input salt) :
    AuthInv P (past ++ [e]) (P.upsertOperator input salt tables).2 := by
  have hnot : ∀ rawToken sessionId, ¬ e.operation.Revokes rawToken sessionId := by
    intro _ _ hrevokes
    rw [he] at hrevokes
    exact hrevokes
  unfold AuthPlatform.upsertOperator
  split
  · exact inv.append hnot
  split
  · exact inv.append hnot
  rename_i passwordHash _ _ written hwritten
  obtain ⟨hunique, hsessions, -, hkept⟩ := writeOperator_keeps inv.unique hwritten
  have hwrittenInv : AuthInv P (past ++ [e]) written := by
    refine ⟨hunique, fun r hr => ?_⟩
    rw [hsessions] at hr
    exact (inv.issued r hr).append e rfl rfl rfl rfl (hkept r hr)
      fun hnone => ⟨hnone, fun _ _ => hnot _ _⟩
  split
  · exact hwrittenInv
  · exact hwrittenInv

theorem AuthInv.revokeWhere {p : SessionRow → Bool} (e : AuthEvent)
    (hall : ∀ r rawToken, r.tokenHash = P.hashSessionToken rawToken →
      e.operation.Revokes rawToken r.sessionId → p r = true) :
    AuthInv P (past ++ [e]) (tables.revokeWhere p now) := by
  refine inv.mapSessions e (fun r => ?_) (fun r => ?_) (fun r => ?_) (fun r => ?_) fun r hnone => ?_
  · split_ifs <;> rfl
  · split_ifs <;> rfl
  · split_ifs <;> rfl
  · split_ifs <;> rfl
  · by_cases hp : p r = true
    · rw [if_pos hp] at hnone
      cases hnone
    · rw [if_neg hp] at hnone
      exact ⟨hnone, fun rawToken hhash hrevokes => hp (hall r rawToken hhash hrevokes)⟩

theorem AuthInv.touchSessionIfNeeded (sessionId : String) (lastSeenAt now : Date)
    (hnot : ∀ rawToken sessionId, ¬ e.operation.Revokes rawToken sessionId) :
    AuthInv P (past ++ [e]) (tables.touchSessionIfNeeded sessionId lastSeenAt now) := by
  unfold AuthTables.touchSessionIfNeeded
  split_ifs
  · exact inv.append hnot
  · refine inv.mapSessions e (fun r => ?_) (fun r => ?_) (fun r => ?_) (fun r => ?_)
      fun r hnone => ?_
    · split_ifs <;> rfl
    · split_ifs <;> rfl
    · split_ifs <;> rfl
    · split_ifs <;> rfl
    · refine ⟨?_, fun _ _ => hnot _ _⟩
      split_ifs at hnone <;> exact hnone

theorem AuthInv.getDashboardSessionFromToken (rawToken : Option String) (now : Date) (e : AuthEvent)
    (he : e.operation = .getDashboardSessionFromToken rawToken now) :
    AuthInv P (past ++ [e]) (P.getDashboardSessionFromToken rawToken now tables).2 := by
  have hnot : ∀ rawToken sessionId, ¬ e.operation.Revokes rawToken sessionId := by
    intro _ _ hrevokes
    rw [he] at hrevokes
    exact hrevokes
  unfold AuthPlatform.getDashboardSessionFromToken
  split
  · exact inv.append hnot
  split_ifs
  · exact inv.append hnot
  split
  · exact inv.append hnot
  split
  · exact inv.revokeWhere e fun _ _ _ hrevokes => absurd hrevokes (hnot _ _)
  · exact inv.touchSessionIfNeeded _ _ _ hnot

end

theorem createDashboardSession_cases (P : AuthPlatform) (operatorId rawToken sessionId : String)
    (now : Date) (tables : AuthTables) :
    (∃ message, P.createDashboardSession operatorId rawToken sessionId now tables =
        (.error message, tables)) ∨
      ∃ operator ∈ tables.operators, operator.operatorId = operatorId ∧ ∃ row : SessionRow,
        row.sessionId = sessionId ∧ row.operatorId = operatorId ∧
          row.tokenHash = P.hashSessionToken rawToken ∧
          row.expiresAt = now + P.sessionTtlHours * 60 * 60 * 1000 ∧
          P.createDashboardSession operatorId rawToken sessionId now tables =
            (.ok (buildDashboardSession row operator, rawToken),
              { tables with sessions := tables.sessions ++ [row] }) := by
  unfold AuthPlatform.createDashboardSession
  cases hfound : tables.findOperator operatorId with
  | none => exact Or.inl ⟨_, rfl⟩
  | some operator =>
    have hid : operator.operatorId = operatorId := Rows.key_of_find hfound
    by_cases hactive : (!operator.active) = true
    · exact Or.inl ⟨_, by simp only [if_pos hactive]; rfl⟩
    simp only [if_neg hactive]
    unfold AuthTables.insertSession
    split_ifs
    · exact Or.inl ⟨_, rfl⟩
    · exact Or.inl ⟨_, rfl⟩
    · exact Or.inr ⟨operator, Rows.mem_of_find hfound, hid, _, rfl, hid, rfl, rfl, rfl⟩

/-- A session that is created is issued by this very event. -/
theorem AuthInv.createDashboardSession (inv : AuthInv P past tables)
    (operatorId rawToken sessionId : String) (now : Date) (e : AuthEvent)
    (he : e = P.event tables (.createDashboardSession operatorId rawToken sessionId now)) :
    AuthInv P (past ++ [e])
      (P.createDashboardSession operatorId rawToken sessionId now tables).2 := by
  have hnot : ∀ rawToken sessionId, ¬ e.operation.Revokes rawToken sessionId := by
    intro _ _ hrevokes
    rw [he] at hrevokes
    exact hrevokes
  rcases createDashboardSession_cases P operatorId rawToken sessionId now tables with
    ⟨message, hfailed⟩ | ⟨operator, hmem, hid, row, hsession, hrow, hhash, hexpires, hcreated⟩
  · rw [hfailed]
    exact inv.append hnot
  rw [hcreated]
  refine ⟨⟨inv.unique.key, inv.unique.operatorId, inv.unique.email, inv.unique.fresh⟩, ?_⟩
  intro r hr
  rcases List.mem_append.1 hr with hr | hr
  · exact (inv.issued r hr).append e rfl rfl rfl rfl (fun row hrow hid => ⟨row, hrow, hid, rfl⟩)
      fun hnone => ⟨hnone, fun _ _ => hnot _ _⟩
  · obtain rfl := List.mem_singleton.1 hr
    have hreply : e.reply = .ok (.created (buildDashboardSession r operator) rawToken) := by
      rw [he]
      show Except.map _ (P.createDashboardSession operatorId rawToken sessionId now tables).1 = _
      rw [hcreated]
      rfl
    refine ⟨rawToken, hhash, operator, hmem, hid.trans hrow.symm, ⟨past, e, [], now, _, rfl, ?_,
      hreply, hexpires, operator, ?_, hid.trans hrow.symm, rfl⟩, fun _ => by simp⟩
    · rw [he, hrow, hsession]
      rfl
    · rw [he]
      exact hmem

theorem AuthInv.step (inv : AuthInv P past tables) (operation : AuthOperation) :
    AuthInv P (past ++ [P.event tables operation]) (P.perform tables operation).2 := by
  cases operation with
  | upsertOperator input salt => exact inv.upsertOperator input salt _ rfl
  | authenticateOperatorCredentials email password => exact inv.append fun _ _ h => h
  | createDashboardSession operatorId rawToken sessionId now =>
    exact inv.createDashboardSession operatorId rawToken sessionId now _ rfl
  | revokeDashboardSessionByToken rawToken now =>
    refine inv.revokeWhere _ fun r token hhash hrevokes => decide_eq_true ?_
    obtain rfl : rawToken = token := hrevokes
    exact hhash
  | revokeDashboardSessionById sessionId now =>
    exact inv.revokeWhere _ fun r token _ hrevokes => decide_eq_true (Eq.symm hrevokes)
  | getDashboardSessionFromToken rawToken now =>
    exact inv.getDashboardSessionFromToken rawToken now _ rfl

theorem authInv_events (P : AuthPlatform) {operations : List AuthOperation}
    (inv : AuthInv P past tables) {earlier later : List AuthEvent}
    (h : P.events operations tables = earlier ++ e :: later) :
    AuthInv P (past ++ earlier) e.before ∧ e = P.event e.before e.operation := by
  induction operations generalizing past tables earlier with
  | nil =>
    have hlength := congrArg List.length h
    simp [AuthPlatform.events] at hlength
  | cons operation rest ih =>
    rw [AuthPlatform.events] at h
    cases earlier with
    | nil =>
      obtain ⟨he, -⟩ := List.cons.inj h
      subst he
      rw [List.append_nil]
      exact ⟨inv, rfl⟩
    | cons first earlier =>
      obtain ⟨hfirst, hrest⟩ := List.cons.inj h
      subst hfirst
      have hnext := ih (inv.step operation) hrest
      rwa [List.append_assoc, List.singleton_append] at hnext

/-! ## Sessions that are yielded -/

theorem rows_of_getDashboardSession
    (h : (P.getDashboardSessionFromToken (some rawToken) now tables).1 = some session) :
    ∃ r ∈ tables.sessions, r.tokenHash = P.hashSessionToken rawToken ∧ now < r.expiresAt ∧
      r.revokedAt = none ∧ ∃ operator ∈ tables.operators,
        operator.operatorId = r.operatorId ∧ operator.active = true ∧
          session = buildDashboardSession r operator := by
  unfold AuthPlatform.getDashboardSessionFromToken at h
  simp only at h
  split_ifs at h
  split at h
  · cases h
  rename_i r hr
  split at h
  · cases h
  rename_i operator hoperator
  have hrow := List.find?_some hr
  have hfound := List.find?_some hoperator
  simp only [Bool.and_eq_true, decide_eq_true_eq, Option.isNone_iff_eq_none] at hrow hfound
  exact ⟨r, List.mem_of_find?_eq_some hr, hrow.1.1, hrow.1.2, hrow.2, operator,
    List.mem_of_find?_eq_some hoperator, hfound.1, hfound.2, (Option.some.inj h).symm⟩

theorem AuthInv.soundSession (inv : AuthInv P past tables) (hsha : Function.Injective P.sha256)
    (h : (P.getDashboardSessionFromToken (some rawToken) now tables).1 = some session) :
    SoundSession P past tables rawToken now session := by
  obtain ⟨r, hr, hhash, hlive, hnone, operator, hoperator, hid, hactive, rfl⟩ :=
    rows_of_getDashboardSession h
  obtain ⟨token, htoken, row, hrow, hrowId, issue, hnot⟩ := inv.issued r hr
  obtain rfl : token = rawToken := hsha (htoken.symm.trans hhash)
  -- The operator that is found is the one of the row.
  obtain rfl := inv.unique.operatorId operator hoperator row hrow (hid.trans hrowId.symm)
  refine ⟨operator, hoperator, hactive, rfl, ?_⟩
  rw [hid]
  exact ⟨issue, hlive, hnot hnone⟩

/-! ## Signing in -/

/-- The operator that was provisioned signs in if and only if its e-mail is its own normal form. -/
theorem authenticate_upsertOperator_iff (hunique : UniqueOperators tables) {salt : List UInt8}
    {identity : DashboardOperatorIdentity}
    (h : (P.upsertOperator input salt tables).1 = .ok identity) (hactive : identity.active = true) :
    P.authenticateOperatorCredentials input.email input.password
        (P.upsertOperator input salt tables).2 = .ok (some identity) ↔
      P.normalizeEmail input.email = input.email := by
  unfold AuthPlatform.upsertOperator at h ⊢
  cases hhash : P.hashPassword input.password salt with
  | error message =>
    simp only [hhash] at h
    cases h
  | ok passwordHash =>
  simp only [hhash] at h ⊢
  cases hwritten : AuthPlatform.writeOperator input passwordHash tables with
  | error message =>
    simp only [hwritten] at h
    cases h
  | ok written =>
  simp only [hwritten] at h ⊢
  obtain ⟨hkeeps, -, ⟨row, hrow, hid, hemail, hrowHash⟩, -⟩ := writeOperator_keeps hunique hwritten
  cases hfound : written.findOperator input.operatorId with
  | none =>
    simp only [hfound] at h
    cases h
  | some operator =>
  simp only [hfound] at h ⊢
  cases h
  have hsame : operator = row := hkeeps.operatorId operator (Rows.mem_of_find hfound) row hrow
    ((Rows.key_of_find hfound).trans hid.symm)
  subst hsame
  unfold AuthPlatform.authenticateOperatorCredentials
  constructor
  · intro hauth
    cases hlookup : Rows.find OperatorRow.email (P.normalizeEmail input.email)
        written.operators with
    | none =>
      simp only [hlookup] at hauth
      cases hauth
    | some other =>
      simp only [hlookup] at hauth
      have hother : other.identity = operator.identity := by
        split_ifs at hauth
        · cases hauth
        · split at hauth
          · cases hauth
          · cases hauth
          · exact Option.some.inj (Except.ok.inj hauth)
      have hemails : other.email = operator.email :=
        congrArg DashboardOperatorIdentity.email hother
      rw [← Rows.key_of_find hlookup, hemails, hemail]
  · intro hnormal
    have hexists : ∃ found, Rows.find OperatorRow.email input.email written.operators =
        some found := by
      rw [← Option.isSome_iff_exists, Rows.find, List.find?_isSome]
      exact ⟨operator, hrow, by simp [hemail]⟩
    obtain ⟨found, hfound'⟩ := hexists
    have hsame : found = operator := hkeeps.email found (Rows.mem_of_find hfound') operator hrow
      ((Rows.key_of_find hfound').trans hemail.symm)
    subst hsame
    have hverified : P.verifyPassword input.password found.passwordHash = .ok true := by
      rw [hrowHash]
      exact P.verifyPassword_hashPassword hhash
    have hnotInactive : ¬ (!found.active) = true := by
      have : found.active = true := hactive
      simp [this]
    rw [hnormal, hfound']
    simp only [if_neg hnotInactive, hverified]

end Steps

/-- In every run from empty tables: a session that a token yields is sound; and an active operator
that was provisioned signs in with the same e-mail and password if and only if the e-mail is its own
normal form. -/
theorem dashboardAuth_sound (P : AuthPlatform) (hsha : Function.Injective P.sha256)
    (operations : List AuthOperation) (earlier : List AuthEvent) (e : AuthEvent)
    (later : List AuthEvent) (hevents : P.events operations emptyTables = earlier ++ e :: later) :
    (∀ rawToken now session,
      e.operation = .getDashboardSessionFromToken (some rawToken) now →
        e.reply = .ok (.session (some session)) →
          SoundSession P earlier e.before rawToken now session) ∧
      ∀ input salt identity, e.operation = .upsertOperator input salt →
        e.reply = .ok (.operator identity) → identity.active = true →
          (P.authenticateOperatorCredentials input.email input.password e.after =
              .ok (some identity) ↔ P.normalizeEmail input.email = input.email) := by
  have hempty : AuthInv P [] emptyTables := by
    refine ⟨⟨?_, ?_, ?_, ?_⟩, ?_⟩ <;> simp [emptyTables]
  obtain ⟨inv, he⟩ := authInv_events P hempty hevents
  rw [List.nil_append] at inv
  constructor
  · intro rawToken now session hoperation hreply
    rw [he, hoperation] at hreply
    have hyields : (P.getDashboardSessionFromToken (some rawToken) now e.before).1 =
        some session := by
      have hok : Except.ok (AuthReply.session
          (P.getDashboardSessionFromToken (some rawToken) now e.before).1) =
            (Except.ok (AuthReply.session (some session)) : Except String AuthReply) := hreply
      injection Except.ok.inj hok
    exact inv.soundSession hsha hyields
  · intro input salt identity hoperation hreply hactive
    rw [he, hoperation] at hreply ⊢
    have hok : (P.upsertOperator input salt e.before).1 = .ok identity := by
      have hmap : ((P.upsertOperator input salt e.before).1).map AuthReply.operator =
          .ok (.operator identity) := hreply
      cases hresult : (P.upsertOperator input salt e.before).1 with
      | error message =>
        rw [hresult] at hmap
        cases hmap
      | ok found =>
        rw [hresult] at hmap
        cases hmap
        rfl
    exact authenticate_upsertOperator_iff inv.unique hok hactive

/-! ### An operator with a session -/

/-- Hashes are their own texts, and letters are those of ASCII. -/
def samplePlatform : AuthPlatform where
  sha256 s := s
  scrypt password _ := password.toUTF8.toList
  toLowerCase s := String.ofList (s.toList.map Char.toLower)
  sessionTtlHours := 12

def sampleOperator (email : String) : UpsertOperatorInput where
  operatorId := "alice"
  email
  displayName := "Alice"
  role := .operator
  password := "super-secure-password"
  active := some true

def sampleSignIn : List AuthOperation :=
  [.upsertOperator (sampleOperator "alice@example.com") [],
    .createDashboardSession "alice" "token-1" "session-1" 0,
    .getDashboardSessionFromToken (some "token-1") 1000]

def sampleProvisioned : AuthEvent :=
  samplePlatform.event emptyTables (.upsertOperator (sampleOperator "alice@example.com") [])

def sampleCreated : AuthEvent :=
  samplePlatform.event sampleProvisioned.after
    (.createDashboardSession "alice" "token-1" "session-1" 0)

def sampleYielded : AuthEvent :=
  samplePlatform.event sampleCreated.after (.getDashboardSessionFromToken (some "token-1") 1000)

def sampleIdentity : DashboardOperatorIdentity :=
  ⟨"alice", "alice@example.com", "Alice", .operator, true⟩

/-- The token yields its session, and the e-mail signs in. -/
theorem dashboardAuth_sound_sample :
    SoundSession samplePlatform [sampleProvisioned, sampleCreated] sampleCreated.after "token-1" 1000
        ⟨"session-1", 43200000, sampleIdentity⟩ ∧
      samplePlatform.authenticateOperatorCredentials "alice@example.com" "super-secure-password"
        sampleProvisioned.after = .ok (some sampleIdentity) := by
  have hsha : Function.Injective samplePlatform.sha256 := fun _ _ h => h
  have hyielded := dashboardAuth_sound samplePlatform hsha sampleSignIn
    [sampleProvisioned, sampleCreated] sampleYielded [] rfl
  have hprovisioned := dashboardAuth_sound samplePlatform hsha sampleSignIn []
    sampleProvisioned [sampleCreated, sampleYielded] rfl
  have hreply : sampleYielded.reply =
      .ok (.session (some ⟨"session-1", 43200000, sampleIdentity⟩)) := by
    have hsession : (samplePlatform.getDashboardSessionFromToken (some "token-1") 1000
        sampleCreated.after).1 = some ⟨"session-1", 43200000, sampleIdentity⟩ := by
      decide +kernel
    exact congrArg (fun session => Except.ok (AuthReply.session session)) hsession
  have hidentity : sampleProvisioned.reply = .ok (.operator sampleIdentity) := by
    have hupsert : (samplePlatform.upsertOperator (sampleOperator "alice@example.com") []
        emptyTables).1 = .ok sampleIdentity := by
      decide +kernel
    exact congrArg (Except.map AuthReply.operator) hupsert
  exact ⟨hyielded.1 "token-1" 1000 _ rfl hreply,
    (hprovisioned.2 _ _ _ rfl hidentity rfl).2 (by decide +kernel)⟩

/-- An operator that is provisioned with capital letters in its e-mail cannot sign in with it. -/
theorem signIn_refused :
    (samplePlatform.upsertOperator (sampleOperator "Alice@Example.com") [] emptyTables).1 =
        .ok ⟨"alice", "Alice@Example.com", "Alice", .operator, true⟩ ∧
      samplePlatform.authenticateOperatorCredentials "Alice@Example.com" "super-secure-password"
        (samplePlatform.upsertOperator (sampleOperator "Alice@Example.com") [] emptyTables).2 =
          .ok none := by
  constructor <;> decide +kernel

end SentinelApex.Dashboard
