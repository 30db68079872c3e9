import AuthzKit.Relational.Expiring
import AuthzKit.Security.Issuance
import AuthzKit.Security.JwtValidation
import AuthzKit.Security.LoginAttempts
import AuthzKit.Service.Callers

/-!
`AdminSessionService` (`authzkit/security/sessions.py`): the logins that have been sent to the
identity provider, and the sessions of the admins who have come back.

* `AdminTables`: the two tables, and what each operation does to them.
* `Ledger`: what the tables are for. Here nothing is deleted because it has expired.
* `SessionStore`: the operations as the routes call them, on either of the two.
* `AdminTables.Keeps`: the tables show a ledger; each operation keeps it and returns what the same
  operation on the ledger returns, if no token is drawn twice.
-/

namespace AuthzKit

open Delegations Text

/-! ### Rows -/

/-- A row of `admin_sessions`. -/
structure AdminSessionRow where
  id : String
  subject : String
  email : Option String
  issuer : String
  scopes : String
  rawClaims : List (String × Json)
  csrfToken : String
  createdAt : DateTime
  expiresAt : DateTime
  lastSeenAt : Option DateTime

/-- `AdminSession`. -/
structure AdminSession where
  id : String
  subject : String
  email : Option String
  issuer : String
  scopes : List String
  rawClaims : List (String × Json)
  csrfToken : String
  createdAt : DateTime
  expiresAt : DateTime
  lastSeenAt : Option DateTime

/-- The session that `lookup_session` makes of a row. -/
def AdminSessionRow.session (row : AdminSessionRow) : AdminSession where
  id := row.id
  subject := row.subject
  email := row.email
  issuer := row.issuer
  scopes := parseScopes row.scopes
  rawClaims := row.rawClaims
  csrfToken := row.csrfToken
  createdAt := row.createdAt
  expiresAt := row.expiresAt
  lastSeenAt := row.lastSeenAt

/-- The row that `create_session` makes of a session. -/
def AdminSession.row (session : AdminSession) : AdminSessionRow where
  id := session.id
  subject := session.subject
  email := session.email
  issuer := session.issuer
  scopes := ",".intercalate session.scopes
  rawClaims := session.rawClaims
  csrfToken := session.csrfToken
  createdAt := session.createdAt
  expiresAt := session.expiresAt
  lastSeenAt := session.lastSeenAt

/-- `to_principal`. -/
def AdminSession.toPrincipal (session : AdminSession) : SessionPrincipal where
  subject := session.subject
  email := session.email
  scopes := session.scopes
  sessionId := session.id
  csrfToken := session.csrfToken
  issuer := some session.issuer

/-- What a row is good for, and until when. -/
def AdminSessionRow.grant (row : AdminSessionRow) : SessionPrincipal × DateTime :=
  (row.session.toPrincipal, row.expiresAt)

/-- The arguments of `create_login_attempt`, and the cookie that it draws. -/
structure NewLogin where
  cookieId : String
  state : String
  codeVerifier : String
  nonce : String
  returnTo : String

/-- The arguments of `create_session`, and the tokens that it draws. -/
structure NewSession where
  sid : String
  csrf : String
  subject : String
  email : Option String
  issuer : String
  scopes : List String
  rawClaims : List (String × Json)

/-- The settings of `AdminSessionService`, in seconds, and the rows that its backend takes: a column
may be too narrow for a value. -/
structure AdminSessionService where
  sessionTtl : ℤ
  attemptTtl : ℤ
  takesAttempt : LoginAttempt → Bool
  takesSession : AdminSessionRow → Bool

namespace AdminSessionService

variable (service : AdminSessionService)

/-- The attempt that `create_login_attempt` records. -/
def attempt (now : DateTime) (new : NewLogin) : LoginAttempt where
  id := new.cookieId
  state := new.state
  codeVerifier := new.codeVerifier
  nonce := new.nonce
  returnTo := new.returnTo
  expiresAt := now + service.attemptTtl * second

/-- The session that `create_session` returns. -/
def session (now : DateTime) (new : NewSession) : AdminSession where
  id := new.sid
  subject := new.subject
  email := new.email
  issuer := new.issuer
  scopes := new.scopes
  rawClaims := new.rawClaims
  csrfToken := new.csrf
  createdAt := now
  expiresAt := now + service.sessionTtl * second
  lastSeenAt := none

end AdminSessionService

/-! ### The tables -/

/-- `admin_login_attempts` and `admin_sessions`. -/
structure AdminTables where
  attempts : Table LoginAttempt.id
  sessions : Table AdminSessionRow.id

namespace AdminTables

/-- Before the first login. -/
def empty : AdminTables := ⟨Table.empty, Table.empty⟩

/-- `create_login_attempt`, if the row can be added. -/
def createLoginAttempt (service : AdminSessionService) (t : AdminTables) (now : DateTime)
    (new : NewLogin) : Option (AdminTables × LoginAttempt) :=
  let attempt := service.attempt now new
  if service.takesAttempt attempt && attempt.state ∉ t.attempts.rows.map LoginAttempt.state then
    (t.attempts.insert attempt).map fun attempts => ({ t with attempts }, attempt)
  else none

/-- `consume_login_attempt`. -/
def consumeLoginAttempt (t : AdminTables) (now : DateTime) (cookieId state : String) :
    AdminTables × Option LoginAttempt :=
  match t.attempts.get cookieId with
  | none => (t, none)
  | some row => ({ t with attempts := t.attempts.remove row.id }, row.accepted state now)

/-- `create_session`, if the row can be added. -/
def createSession (service : AdminSessionService) (t : AdminTables) (now : DateTime)
    (new : NewSession) : Option (AdminTables × AdminSession) :=
  let session := service.session now new
  if service.takesSession session.row then
    (t.sessions.insert session.row).map fun sessions => ({ t with sessions }, session)
  else none

/-- `lookup_session`. -/
def lookupSession (t : AdminTables) (now : DateTime) (sessionId : String) :
    AdminTables × Option AdminSession :=
  match t.sessions.get sessionId with
  | none => (t, none)
  | some row =>
      if row.expiresAt < now then ({ t with sessions := t.sessions.remove row.id }, none)
      else
        let row := { row with lastSeenAt := some now }
        ({ t with sessions := t.sessions.write row }, some row.session)

/-- `delete_session`. -/
def deleteSession (t : AdminTables) (sessionId : String) : AdminTables × Bool :=
  match t.sessions.get sessionId with
  | none => (t, false)
  | some row => ({ t with sessions := t.sessions.remove row.id }, true)

/-- `prune_expired`, with the number of rows that it removes. -/
def pruneExpired (t : AdminTables) (now : DateTime) : AdminTables × ℕ :=
  let sessions := t.sessions.sweep AdminSessionRow.expiresAt now
  let attempts := t.attempts.sweep LoginAttempt.expiresAt now
  (⟨attempts, sessions⟩, t.sessions.rows.length - sessions.rows.length +
    (t.attempts.rows.length - attempts.rows.length))

/-- One call is the steps that it takes when it is not interrupted. -/
lemma consumeLoginAttempt_rows (t : AdminTables) (now : DateTime) (cookieId state : String) :
    ((t.consumeLoginAttempt now cookieId state).1.attempts.rows,
      (t.consumeLoginAttempt now cookieId state).2) =
      AuthzKit.consumeLoginAttempt t.attempts.rows cookieId state now := by
  rw [consumeLoginAttempt, AuthzKit.consumeLoginAttempt, Table.get]
  cases Keyed.lookup LoginAttempt.id t.attempts.rows cookieId with
  | none => rfl
  | some row => rfl

end AdminTables

/-! ### The ledger -/

/-- Who has been sent to the identity provider and has not come back, and who is logged in. -/
structure Ledger where
  pending : String → Option LoginAttempt
  sessions : String → Option (SessionPrincipal × DateTime)

namespace Ledger

def empty : Ledger := ⟨fun _ => none, fun _ => none⟩

def createLoginAttempt (service : AdminSessionService) (l : Ledger) (now : DateTime)
    (new : NewLogin) : Option (Ledger × LoginAttempt) :=
  let attempt := service.attempt now new
  if service.takesAttempt attempt then
    some ({ l with pending := Function.update l.pending attempt.id (some attempt) }, attempt)
  else none

def consumeLoginAttempt (l : Ledger) (now : DateTime) (cookieId state : String) :
    Ledger × Option LoginAttempt :=
  ({ l with pending := Function.update l.pending cookieId none },
    (l.pending cookieId).bind fun attempt => attempt.accepted state now)

def createSession (service : AdminSessionService) (l : Ledger) (now : DateTime)
    (new : NewSession) : Option (Ledger × AdminSession) :=
  let session := service.session now new
  let grant := (session.toPrincipal, session.expiresAt)
  if service.takesSession session.row then
    some ({ l with sessions := Function.update l.sessions session.id (some grant) }, session)
  else none

/-- Who is logged in with a cookie. -/
def principal? (l : Ledger) (now : DateTime) (sessionId : String) : Option SessionPrincipal :=
  ((l.sessions sessionId).filter fun grant => now ≤ grant.2).map Prod.fst

def deleteSession (l : Ledger) (sessionId : String) : Ledger :=
  { l with sessions := Function.update l.sessions sessionId none }

end Ledger

/-! ### Stores -/

/-- `AdminSessionService` as the routes use it, with the state of its store. -/
structure SessionStore (σ : Type) where
  createLoginAttempt : σ → DateTime → NewLogin → Option (σ × LoginAttempt)
  consumeLoginAttempt : σ → DateTime → (cookieId state : String) → σ × Option LoginAttempt
  createSession : σ → DateTime → NewSession → Option (σ × AdminSession)
  /-- `lookup_session` and `to_principal`. -/
  lookupSession : σ → DateTime → (sessionId : String) → σ × Option SessionPrincipal
  deleteSession : σ → (sessionId : String) → σ
  pruneExpired : σ → DateTime → σ

/-- The store of the service. -/
def AdminSessionService.tables (service : AdminSessionService) : SessionStore AdminTables where
  createLoginAttempt := AdminTables.createLoginAttempt service
  consumeLoginAttempt := AdminTables.consumeLoginAttempt
  createSession := AdminTables.createSession service
  lookupSession := fun t now sessionId =>
    ((t.lookupSession now sessionId).1,
      (t.lookupSession now sessionId).2.map AdminSession.toPrincipal)
  deleteSession := fun t sessionId => (t.deleteSession sessionId).1
  pruneExpired := fun t now => (t.pruneExpired now).1

/-- The ledger as a store. -/
def AdminSessionService.ledger (service : AdminSessionService) : SessionStore Ledger where
  createLoginAttempt := Ledger.createLoginAttempt service
  consumeLoginAttempt := Ledger.consumeLoginAttempt
  createSession := Ledger.createSession service
  lookupSession := fun l now sessionId => (l, l.principal? now sessionId)
  deleteSession := Ledger.deleteSession
  pruneExpired := fun l _ => l

/-! ### The tables show a ledger -/

namespace AdminTables

/-- **The tables show the ledger** from `clock` on, and hold no token that has not been drawn. -/
structure Keeps (t : AdminTables) (l : Ledger) (clock : DateTime) (drawn : List String) : Prop where
  attempts : t.attempts.Shows id LoginAttempt.expiresAt l.pending clock
  sessions : t.sessions.Shows AdminSessionRow.grant Prod.snd l.sessions clock
  cookies : ∀ row ∈ t.attempts.rows, row.id ∈ drawn
  states : ∀ row ∈ t.attempts.rows, row.state ∈ drawn
  ids : ∀ row ∈ t.sessions.rows, row.id ∈ drawn

variable {t t' : AdminTables} {l : Ledger} {clock now : DateTime}
  {drawn : List String} {cookieId state sessionId : String}

lemma keeps_empty : empty.Keeps Ledger.empty clock [] where
  attempts := Table.shows_empty
  sessions := Table.shows_empty
  cookies := by rintro row ⟨⟩
  states := by rintro row ⟨⟩
  ids := by rintro row ⟨⟩

/-- Time passes, and tokens are drawn. -/
lemma Keeps.later (h : t.Keeps l clock drawn) (hnow : clock ≤ now) {drawn' : List String}
    (hdrawn : drawn ⊆ drawn') : t.Keeps l now drawn' where
  attempts := h.attempts.later hnow
  sessions := h.sessions.later hnow
  cookies := fun row hrow => hdrawn (h.cookies row hrow)
  states := fun row hrow => hdrawn (h.states row hrow)
  ids := fun row hrow => hdrawn (h.ids row hrow)

/-- Rows that have gone. -/
lemma Keeps.shrink {l' : Ledger} (h : t.Keeps l clock drawn)
    (hattempts : t'.attempts.Shows id LoginAttempt.expiresAt l'.pending now)
    (hsessions : t'.sessions.Shows AdminSessionRow.grant Prod.snd l'.sessions now)
    (hrows : t'.attempts.rows ⊆ t.attempts.rows)
    (hids : t'.sessions.rows.map AdminSessionRow.id ⊆ t.sessions.rows.map AdminSessionRow.id) :
    t'.Keeps l' now drawn where
  attempts := hattempts
  sessions := hsessions
  cookies := fun row hrow => h.cookies row (hrows hrow)
  states := fun row hrow => h.states row (hrows hrow)
  ids := fun row hrow => by
    obtain ⟨row', hrow', hid⟩ := List.mem_map.mp (hids (List.mem_map_of_mem hrow))
    exact hid ▸ h.ids row' hrow'

/-- `create_login_attempt` with tokens that are new. -/
lemma Keeps.createLoginAttempt (h : t.Keeps l now drawn) (service : AdminSessionService)
    (new : NewLogin) (hcookie : new.cookieId ∉ drawn) (hstate : new.state ∉ drawn) :
    (t.createLoginAttempt service now new = none ∧ l.createLoginAttempt service now new = none) ∨
    ∃ t' l' attempt, t.createLoginAttempt service now new = some (t', attempt) ∧
      l.createLoginAttempt service now new = some (l', attempt) ∧
      t'.Keeps l' now (new.cookieId :: new.state :: drawn) := by
  rw [AdminTables.createLoginAttempt, Ledger.createLoginAttempt]
  have hfree : new.state ∉ t.attempts.rows.map LoginAttempt.state := by
    intro hmem
    obtain ⟨row, hrow, hrowState⟩ := List.mem_map.mp hmem
    exact hstate (hrowState ▸ h.states row hrow)
  cases htakes : service.takesAttempt (service.attempt now new) with
  | false => exact Or.inl ⟨by simp, by simp⟩
  | true =>
      right
      cases hinsert : t.attempts.insert (service.attempt now new) with
      | none =>
          obtain ⟨row, hrow, hid⟩ := List.mem_map.mp (Table.insert_eq_none_iff.mp hinsert)
          have hdrawn : row.id ∈ drawn := h.cookies row hrow
          rw [hid] at hdrawn
          exact absurd hdrawn hcookie
      | some attempts =>
          have hcond : (true && decide ((service.attempt now new).state ∉
              t.attempts.rows.map LoginAttempt.state)) = true := by
            simpa [AdminSessionService.attempt] using hfree
          rw [if_pos hcond, if_pos rfl]
          refine ⟨_, _, _, rfl, rfl, h.attempts.insert hinsert, h.sessions, ?_, ?_, ?_⟩
          · intro row hrow
            rw [Table.rows_insert hinsert, List.mem_append, List.mem_singleton] at hrow
            rcases hrow with hrow | rfl
            · exact List.mem_cons_of_mem _ (List.mem_cons_of_mem _ (h.cookies row hrow))
            · exact List.mem_cons_self
          · intro row hrow
            rw [Table.rows_insert hinsert, List.mem_append, List.mem_singleton] at hrow
            rcases hrow with hrow | rfl
            · exact List.mem_cons_of_mem _ (List.mem_cons_of_mem _ (h.states row hrow))
            · exact List.mem_cons_of_mem _ List.mem_cons_self
          · exact fun row hrow =>
              List.mem_cons_of_mem _ (List.mem_cons_of_mem _ (h.ids row hrow))

/-- A row is accepted only before it expires. -/
lemma accepted_eq_none_of_expired {attempt : LoginAttempt} (h : attempt.expiresAt < now) :
    attempt.accepted state now = none := by
  rw [LoginAttempt.accepted, if_pos h, ite_self]

/-- `consume_login_attempt`. -/
lemma Keeps.consumeLoginAttempt (h : t.Keeps l now drawn) (cookieId state : String) :
    (t.consumeLoginAttempt now cookieId state).2 = (l.consumeLoginAttempt now cookieId state).2 ∧
      (t.consumeLoginAttempt now cookieId state).1.Keeps
        (l.consumeLoginAttempt now cookieId state).1 now drawn := by
  rw [AdminTables.consumeLoginAttempt, Ledger.consumeLoginAttempt]
  have hrefused : (∀ row, t.attempts.get cookieId = some row → row.expiresAt < now) →
      ((l.pending cookieId).bind fun attempt => attempt.accepted state now) = none := by
    intro hdead
    rw [Option.bind_eq_none_iff]
    exact fun attempt hattempt =>
      accepted_eq_none_of_expired (h.attempts.expired hdead attempt hattempt)
  cases hget : t.attempts.get cookieId with
  | none =>
      refine ⟨(hrefused (by rw [hget]; rintro row ⟨⟩)).symm, ?_⟩
      exact h.shrink (h.attempts.erase hget) h.sessions (List.Subset.refl _) (List.Subset.refl _)
  | some row =>
      have hid : row.id = cookieId := Table.key_of_get hget
      constructor
      · by_cases hexpired : row.expiresAt < now
        · rw [hrefused fun row' hrow' => by
            rw [hget, Option.some.injEq] at hrow'
            exact hrow' ▸ hexpired]
          exact accepted_eq_none_of_expired hexpired
        · rw [h.attempts.get_of_alive hget (not_lt.mp hexpired)]
          rfl
      · dsimp only
        rw [hid]
        exact h.shrink (h.attempts.remove cookieId) h.sessions List.filter_sublist.subset
          (List.Subset.refl _)

/-- `create_session` with a token that is new, and scopes that can be read back. -/
lemma Keeps.createSession (h : t.Keeps l now drawn) (service : AdminSessionService)
    (new : NewSession) (hsid : new.sid ∉ drawn)
    (hscopes : parseScopes (",".intercalate new.scopes) = new.scopes) :
    (t.createSession service now new = none ∧ l.createSession service now new = none) ∨
    ∃ t' l' session, t.createSession service now new = some (t', session) ∧
      l.createSession service now new = some (l', session) ∧
      t'.Keeps l' now (new.sid :: drawn) := by
  rw [AdminTables.createSession, Ledger.createSession]
  cases htakes : service.takesSession (service.session now new).row with
  | false => exact Or.inl ⟨by simp, by simp⟩
  | true =>
      right
      rw [if_pos rfl, if_pos rfl]
      cases hinsert : t.sessions.insert (service.session now new).row with
      | none =>
          obtain ⟨row, hrow, hid⟩ := List.mem_map.mp (Table.insert_eq_none_iff.mp hinsert)
          have hdrawn : row.id ∈ drawn := h.ids row hrow
          rw [hid] at hdrawn
          exact absurd hdrawn hsid
      | some sessions =>
          have hgrant : (service.session now new).row.grant =
              ((service.session now new).toPrincipal, (service.session now new).expiresAt) := by
            simp only [AdminSessionRow.grant, AdminSessionRow.session, AdminSession.row,
              AdminSession.toPrincipal, AdminSessionService.session, hscopes]
          refine ⟨_, _, _, rfl, rfl, h.attempts, ?_, ?_, ?_, ?_⟩
          · rw [← hgrant]
            exact h.sessions.insert hinsert
          · exact fun row hrow => List.mem_cons_of_mem _ (h.cookies row hrow)
          · exact fun row hrow => List.mem_cons_of_mem _ (h.states row hrow)
          · intro row hrow
            rw [Table.rows_insert hinsert, List.mem_append, List.mem_singleton] at hrow
            rcases hrow with hrow | rfl
            · exact List.mem_cons_of_mem _ (h.ids row hrow)
            · exact List.mem_cons_self

/-- `lookup_session`: an expired row is deleted, and another one is written back. -/
lemma Keeps.lookupSession (h : t.Keeps l now drawn) (sessionId : String) :
    (t.lookupSession now sessionId).2.map AdminSession.toPrincipal = l.principal? now sessionId ∧
      (t.lookupSession now sessionId).1.Keeps l now drawn := by
  rw [AdminTables.lookupSession, Ledger.principal?]
  have hrefused : (∀ row, t.sessions.get sessionId = some row → row.expiresAt < now) →
      ((l.sessions sessionId).filter fun grant => now ≤ grant.2) = none := by
    intro hdead
    rw [Option.filter_eq_none_iff]
    intro grant hgrant
    simpa using h.sessions.expired hdead grant hgrant
  cases hget : t.sessions.get sessionId with
  | none =>
      rw [hrefused (by rw [hget]; rintro row ⟨⟩)]
      exact ⟨rfl, h⟩
  | some row =>
      have hid : row.id = sessionId := Table.key_of_get hget
      dsimp only
      split_ifs with hexpired
      · have hdead : ∀ row', t.sessions.get sessionId = some row' → row'.expiresAt < now := by
          intro row' hrow'
          rw [hget, Option.some.injEq] at hrow'
          exact hrow' ▸ hexpired
        rw [hrefused hdead, hid]
        exact ⟨rfl, h.shrink h.attempts (h.sessions.removeExpired le_rfl hdead)
          (List.Subset.refl _) ((List.filter_sublist.map _).subset)⟩
      · have halive : now ≤ (AdminSessionRow.grant row).2 := not_lt.mp hexpired
        rw [h.sessions.get_of_alive hget halive, Option.filter_some,
          if_pos (decide_eq_true halive)]
        refine ⟨rfl, h.shrink h.attempts (h.sessions.write fun row' hrow' => ?_)
          (List.Subset.refl _) ?_⟩
        · rw [hid, hget, Option.some.injEq] at hrow'
          rw [← hrow']
          rfl
        · rw [Table.write, Keyed.map_update AdminSessionRow.id fun _ _ hkey => hkey]
          exact List.Subset.refl _

/-- `delete_session`. -/
lemma Keeps.deleteSession (h : t.Keeps l now drawn) (sessionId : String) :
    (t.deleteSession sessionId).1.Keeps (l.deleteSession sessionId) now drawn := by
  rw [AdminTables.deleteSession]
  cases hget : t.sessions.get sessionId with
  | none =>
      exact h.shrink h.attempts (h.sessions.erase hget) (List.Subset.refl _) (List.Subset.refl _)
  | some row =>
      have hid : row.id = sessionId := Table.key_of_get hget
      rw [← hid]
      exact h.shrink h.attempts (h.sessions.remove row.id) (List.Subset.refl _)
        (List.filter_sublist.map _).subset

/-- `prune_expired` is not noticed. -/
lemma Keeps.pruneExpired (h : t.Keeps l now drawn) : (t.pruneExpired now).1.Keeps l now drawn :=
  h.shrink (h.attempts.sweep le_rfl) (h.sessions.sweep le_rfl) List.filter_sublist.subset
    (List.filter_sublist.map _).subset

end AdminTables

end AuthzKit
