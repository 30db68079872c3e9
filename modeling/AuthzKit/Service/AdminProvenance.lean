import AuthzKit.Service.AdminLoginRuns

/-!
Where the sessions of admins come from.

* `AdminApp.Started`: a login was started with a cookie, and the cookie has not been presented
  since.
* `AdminApp.LetsIn`: what a callback has checked of whom it lets in.
* `AdminApp.Minted`: a callback has given out a session, and it has not been ended since.
* `Sourced`: every row of the tables has such a source; `Sourced.step` for one call.
* `served_provenance`, `redirect_sameOrigin`: what follows for the answers of a run.
-/

namespace AuthzKit

open Delegations Text

namespace AdminApp

variable (app : AdminApp)

/-- A login was started with the cookie of an attempt, which no callback has presented since. -/
def Started (history : List AdminEvent) (attempt : LoginAttempt) : Prop :=
  ∃ (earlier later : List AdminEvent) (returnTo : String) (input : LoginInput)
      (redirect : LoginRedirect),
    history = earlier ++ (.login returnTo input, .sent redirect) :: later ∧
    redirect.attempt = attempt ∧ attempt.id = input.cookieId ∧ attempt.state = input.state ∧
    attempt.nonce = input.nonce ∧ attempt.codeVerifier = input.codeVerifier ∧
    attempt.expiresAt = input.now + app.service.attemptTtl * second ∧
    ∀ event ∈ later, event.1.presents app.oidc ≠ some attempt.id

/-- **Whom a callback lets in**: the cookie and the state are those of the attempt, in time, the
code was redeemed with its verifier for an ID token that the validator took, with its nonce, and
the claims are those of an admin. -/
structure LetsIn (request : CallbackRequest) (input : CallbackInput) (attempt : LoginAttempt)
    (session : AdminSession) : Prop where
  redeemed : ∃ code tokenUrl answer idToken,
    request.presented app.oidc = .ok ⟨code, attempt.state, attempt.id⟩ ∧
    exchangeCode (input.exchange tokenUrl (app.tokenForm code attempt)) = .ok answer ∧
    answer.truthy "id_token" = some idToken ∧ input.validate idToken = .ok session.rawClaims
  inTime : input.now ≤ attempt.expiresAt
  nonce : session.rawClaims.lookup "nonce" = some (.str attempt.nonce)
  admits : app.oidc.Admits app.lib.lower session.rawClaims
  subject : session.subject = subjectOf app.lib session.rawClaims
  scopes : session.scopes = [scopeAdmin]
  expires : session.expiresAt = input.created + app.service.sessionTtl * second

/-- A callback has given out a session, after a login that was started for it, and the session has
not been ended since. -/
def Minted (history : List AdminEvent) (grant : SessionPrincipal × DateTime) : Prop :=
  ∃ earlier later request input session returnTo attempt,
    history = earlier ++ (.callback request input, .loggedIn session returnTo) :: later ∧
    app.Started earlier attempt ∧ app.LetsIn request input attempt session ∧
    (session.toPrincipal, session.expiresAt) = grant ∧
    ∀ event ∈ later, endedBy event ≠ some session.id

/-- A path that begins with one slash. -/
def IsPath (target : String) : Prop :=
  ∃ rest, target.toList = '/' :: rest ∧ ∀ c ∈ rest.head?, isSlash c = false

/-- **Every row has a source** in what has happened. -/
structure Sourced (history : List AdminEvent) (t : AdminTables) : Prop where
  attempts : ∀ row ∈ t.attempts.rows, app.Started history row ∧ IsPath row.returnTo
  sessions : ∀ row ∈ t.sessions.rows, app.Minted history row.grant

variable {app} {history : List AdminEvent} {event : AdminEvent} {attempt : LoginAttempt}
  {grant : SessionPrincipal × DateTime} {w : AdminState AdminTables} {t : AdminTables}
  {now : DateTime}

lemma Started.append (h : app.Started history attempt)
    (hevent : event.1.presents app.oidc ≠ some attempt.id) :
    app.Started (history ++ [event]) attempt := by
  obtain ⟨earlier, later, returnTo, input, redirect, rfl, hattempt, hid, hstate, hnonce, hverifier,
    hexpires, hlater⟩ := h
  refine ⟨earlier, later ++ [event], returnTo, input, redirect, by simp, hattempt, hid, hstate,
    hnonce, hverifier, hexpires, fun e he => ?_⟩
  rcases List.mem_append.mp he with he | he
  · exact hlater e he
  · rw [List.mem_singleton.mp he]
    exact hevent

lemma Minted.append (h : app.Minted history grant)
    (hevent : endedBy event ≠ some grant.1.sessionId) : app.Minted (history ++ [event]) grant := by
  obtain ⟨earlier, later, request, input, session, returnTo, attempt, rfl, hstarted, hlets, rfl,
    hlater⟩ := h
  refine ⟨earlier, later ++ [event], request, input, session, returnTo, attempt, by simp, hstarted,
    hlets, rfl, fun e he => ?_⟩
  rcases List.mem_append.mp he with he | he
  · exact hlater e he
  · rw [List.mem_singleton.mp he]
    exact hevent

/-- An event that neither presents a cookie nor ends a session leaves the sources of the rows that
stay. -/
lemma Sourced.shrink {t' : AdminTables} (h : app.Sourced history t)
    (hattempts : ∀ row ∈ t'.attempts.rows, row ∈ t.attempts.rows ∧
      event.1.presents app.oidc ≠ some row.id)
    (hsessions : ∀ row ∈ t'.sessions.rows, (∃ row' ∈ t.sessions.rows, row'.grant = row.grant) ∧
      endedBy event ≠ some row.id) :
    app.Sourced (history ++ [event]) t' where
  attempts := by
    intro row hrow
    obtain ⟨hold, hevent⟩ := hattempts row hrow
    exact ⟨(h.attempts row hold).1.append hevent, (h.attempts row hold).2⟩
  sessions := by
    intro row hrow
    obtain ⟨⟨row', hrow', hgrant⟩, hevent⟩ := hsessions row hrow
    exact hgrant ▸ (h.sessions row' hrow').append (by rw [hgrant]; exact hevent)

/-! ### The operations -/

lemma createLoginAttempt_eq_some {new : NewLogin} {t' : AdminTables}
    (h : t.createLoginAttempt app.service now new = some (t', attempt)) :
    attempt = app.service.attempt now new ∧ t'.attempts.rows = t.attempts.rows ++ [attempt] ∧
      t'.sessions = t.sessions := by
  rw [AdminTables.createLoginAttempt] at h
  split_ifs at h
  cases hinsert : t.attempts.insert (app.service.attempt now new) with
  | none =>
      rw [hinsert] at h
      cases h
  | some attempts =>
      rw [hinsert] at h
      obtain ⟨rfl, rfl⟩ := Prod.mk.inj (Option.some.inj h)
      exact ⟨rfl, Table.rows_insert hinsert, rfl⟩

lemma createSession_eq_some {new : NewSession} {t' : AdminTables} {session : AdminSession}
    (h : t.createSession app.service now new = some (t', session)) :
    session = app.service.session now new ∧ t'.attempts = t.attempts ∧
      t'.sessions.rows = t.sessions.rows ++ [session.row] := by
  rw [AdminTables.createSession] at h
  split_ifs at h
  cases hinsert : t.sessions.insert (app.service.session now new).row with
  | none =>
      rw [hinsert] at h
      cases h
  | some sessions =>
      rw [hinsert] at h
      obtain ⟨rfl, rfl⟩ := Prod.mk.inj (Option.some.inj h)
      exact ⟨rfl, rfl, Table.rows_insert hinsert⟩

/-- `consume_login_attempt` leaves no row with the cookie. -/
lemma mem_consumed {cookieId state : String} {row : LoginAttempt}
    (h : row ∈ (t.consumeLoginAttempt now cookieId state).1.attempts.rows) :
    row ∈ t.attempts.rows ∧ row.id ≠ cookieId := by
  rw [AdminTables.consumeLoginAttempt] at h
  cases hget : t.attempts.get cookieId with
  | none =>
      rw [hget] at h
      refine ⟨h, fun hid => ?_⟩
      rw [Table.get_eq_some_iff.mpr ⟨h, hid⟩] at hget
      cases hget
  | some found =>
      rw [hget] at h
      obtain ⟨hrow, hne⟩ := List.mem_filter.mp h
      rw [decide_eq_true_iff, Table.key_of_get hget] at hne
      exact ⟨hrow, hne⟩

variable (t now) in
lemma consumed_sessions (cookieId state : String) :
    (t.consumeLoginAttempt now cookieId state).1.sessions = t.sessions := by
  rw [AdminTables.consumeLoginAttempt]
  cases t.attempts.get cookieId with
  | none => rfl
  | some found => rfl

/-- What `consume_login_attempt` returns was there, with the state and in time. -/
lemma consumed_eq_some {cookieId state : String}
    (h : (t.consumeLoginAttempt now cookieId state).2 = some attempt) :
    attempt ∈ t.attempts.rows ∧ attempt.id = cookieId ∧ attempt.state = state ∧
      now ≤ attempt.expiresAt := by
  rw [AdminTables.consumeLoginAttempt] at h
  cases hget : t.attempts.get cookieId with
  | none =>
      rw [hget] at h
      cases h
  | some row =>
      rw [hget] at h
      dsimp only at h
      rw [LoginAttempt.accepted] at h
      split_ifs at h with hstate hexpired
      obtain rfl := Option.some.inj h
      obtain ⟨hrow, hid⟩ := Table.get_eq_some_iff.mp hget
      exact ⟨hrow, hid, not_not.mp hstate, not_lt.mp hexpired⟩

/-- `lookup_session` keeps what the rows are good for. -/
lemma looked_up {sessionId : String} :
    (t.lookupSession now sessionId).1.attempts = t.attempts ∧
      ∀ row ∈ (t.lookupSession now sessionId).1.sessions.rows,
        ∃ row' ∈ t.sessions.rows, row'.grant = row.grant := by
  rw [AdminTables.lookupSession]
  cases hget : t.sessions.get sessionId with
  | none => exact ⟨rfl, fun row hrow => ⟨row, hrow, rfl⟩⟩
  | some found =>
      dsimp only
      split_ifs
      · exact ⟨rfl, fun row hrow => ⟨row, (List.mem_filter.mp hrow).1, rfl⟩⟩
      · refine ⟨rfl, fun row hrow => ?_⟩
        rcases Keyed.mem_update.mp hrow with ⟨rfl, -⟩ | ⟨hrow, -⟩
        · exact ⟨found, (Table.get_eq_some_iff.mp hget).1, rfl⟩
        · exact ⟨row, hrow, rfl⟩

/-- What `lookup_session` returns is good for now. -/
lemma found_of_lookup {sessionId : String} {principal : SessionPrincipal}
    (h : (t.lookupSession now sessionId).2.map AdminSession.toPrincipal = some principal) :
    ∃ row ∈ t.sessions.rows, row.grant.1 = principal ∧ principal.sessionId = sessionId ∧
      now ≤ row.grant.2 := by
  rw [AdminTables.lookupSession] at h
  cases hget : t.sessions.get sessionId with
  | none =>
      rw [hget] at h
      cases h
  | some found =>
      rw [hget] at h
      dsimp only at h
      by_cases hexpired : found.expiresAt < now
      · rw [if_pos hexpired] at h
        cases h
      · rw [if_neg hexpired] at h
        obtain ⟨hmem, hid⟩ := Table.get_eq_some_iff.mp hget
        obtain rfl := Option.some.inj h
        exact ⟨found, hmem, rfl, hid, not_lt.mp hexpired⟩

lemma mem_deleted {sessionId : String} {row : AdminSessionRow}
    (h : row ∈ (t.deleteSession sessionId).1.sessions.rows) :
    row ∈ t.sessions.rows ∧ row.id ≠ sessionId := by
  rw [AdminTables.deleteSession] at h
  cases hget : t.sessions.get sessionId with
  | none =>
      rw [hget] at h
      refine ⟨h, fun hid => ?_⟩
      rw [Table.get_eq_some_iff.mpr ⟨h, hid⟩] at hget
      cases hget
  | some found =>
      rw [hget] at h
      obtain ⟨hrow, hne⟩ := List.mem_filter.mp h
      rw [decide_eq_true_iff, Table.key_of_get hget] at hne
      exact ⟨hrow, hne⟩

lemma deleted_attempts {sessionId : String} :
    (t.deleteSession sessionId).1.attempts = t.attempts := by
  rw [AdminTables.deleteSession]
  cases t.sessions.get sessionId with
  | none => rfl
  | some found => rfl

variable (app t now) in
/-- `require_caller` keeps what the rows are good for. -/
lemma callerOf_rows (ctx : CallerContext) (request : HttpRequest) :
    (callerOf app.service.tables ctx t now request).2.attempts = t.attempts ∧
      ∀ row ∈ (callerOf app.service.tables ctx t now request).2.sessions.rows,
        ∃ row' ∈ t.sessions.rows, row'.grant = row.grant := by
  rw [callerOf]
  cases ctx.sessionAsked request with
  | none => exact ⟨rfl, fun row hrow => ⟨row, hrow, rfl⟩⟩
  | some sessionId => exact looked_up

/-! ### The calls -/

/-- A login is sent to return to a path. -/
lemma isPath_of_safe {lib : LoginLibraries} {target : String} {safe : Bool}
    (h : isSafeReturnTo lib target = .ok safe) : IsPath (if safe then target else "/admin/") := by
  cases safe with
  | false =>
      rw [if_neg Bool.false_ne_true]
      refine ⟨"admin/".toList, by decide, fun c hc => ?_⟩
      have hhead : "admin/".toList.head? = some 'a' := by decide
      rw [hhead] at hc
      obtain rfl := Option.some.inj hc
      decide
  | true =>
      rw [if_pos rfl]
      rw [isSafeReturnTo] at h
      split at h
      · rename_i rest hrest
        by_cases hslash : rest.head?.any isSlash = true
        · rw [if_pos hslash] at h
          cases h
        · refine ⟨rest, hrest, fun c hc => ?_⟩
          rw [Option.mem_def] at hc
          simpa [hc] using hslash
      · cases h

variable (app) in
/-- **What a login does**: it adds the attempt that it has sent on, or nothing. -/
lemma oidcLogin_cases (w : AdminState AdminTables) (returnTo : String) (input : LoginInput) :
    (∃ e, (app.oidcLogin app.service.tables w returnTo input).1 = .error e ∧
      (app.oidcLogin app.service.tables w returnTo input).2.store = w.store) ∨
    ∃ redirect target, (app.oidcLogin app.service.tables w returnTo input).1 = .ok redirect ∧
      redirect.attempt = app.service.attempt input.now
        ⟨input.cookieId, input.state, input.codeVerifier, input.nonce, target⟩ ∧ IsPath target ∧
      (app.oidcLogin app.service.tables w returnTo input).2.store.attempts.rows =
        w.store.attempts.rows ++ [redirect.attempt] ∧
      (app.oidcLogin app.service.tables w returnTo input).2.store.sessions = w.store.sessions := by
  rw [oidcLogin]
  split_ifs
  · cases hsafe : isSafeReturnTo app.lib returnTo with
    | error e => exact Or.inl ⟨_, rfl, rfl⟩
    | ok safe =>
        dsimp only
        rcases oidcDiscover app.oidc.issuer input.discovery w.discovery with ⟨e | document, discovery⟩
        · exact Or.inl ⟨_, rfl, rfl⟩
        · dsimp only
          cases document.truthy "authorization_endpoint" with
          | none => exact Or.inl ⟨_, rfl, rfl⟩
          | some authUrl =>
              dsimp only [AdminSessionService.tables]
              cases hcreate : w.store.createLoginAttempt app.service input.now
                  ⟨input.cookieId, input.state, input.codeVerifier, input.nonce,
                    if safe = true then returnTo else "/admin/"⟩ with
              | none => exact Or.inl ⟨_, rfl, rfl⟩
              | some created =>
                  obtain ⟨t', attempt⟩ := created
                  obtain ⟨hattempt, hrows, hsessions⟩ := createLoginAttempt_eq_some hcreate
                  exact Or.inr ⟨_, _, rfl, hattempt, isPath_of_safe hsafe, hrows, hsessions⟩
  · exact Or.inl ⟨_, rfl, rfl⟩

variable (app) in
/-- **What a callback does**: it consumes the attempt of its cookie, and may add the session of
someone whom it lets in. -/
lemma oidcCallback_cases (w : AdminState AdminTables) (request : CallbackRequest)
    (input : CallbackInput) :
    (∃ e, (app.oidcCallback app.service.tables w request input).1 = .error e ∧
      ((request.presented app.oidc).toOption = none ∧
        (app.oidcCallback app.service.tables w request input).2.store = w.store ∨
      ∃ p, request.presented app.oidc = .ok p ∧
        (app.oidcCallback app.service.tables w request input).2.store =
          (w.store.consumeLoginAttempt input.now p.cookieId p.state).1)) ∨
    ∃ p session attempt, request.presented app.oidc = .ok p ∧
      (app.oidcCallback app.service.tables w request input).1 = .ok (session, attempt.returnTo) ∧
      attempt ∈ w.store.attempts.rows ∧ app.LetsIn request input attempt session ∧
      (app.oidcCallback app.service.tables w request input).2.store.attempts =
        (w.store.consumeLoginAttempt input.now p.cookieId p.state).1.attempts ∧
      (app.oidcCallback app.service.tables w request input).2.store.sessions.rows =
        w.store.sessions.rows ++ [session.row] := by
  rw [oidcCallback]
  cases hpresented : request.presented app.oidc with
  | error e => exact Or.inl ⟨e, rfl, Or.inl ⟨rfl, rfl⟩⟩
  | ok p =>
      dsimp only [AdminSessionService.tables]
      have hsessions := consumed_sessions w.store input.now p.cookieId p.state
      cases hconsume : w.store.consumeLoginAttempt input.now p.cookieId p.state with
      | mk store found =>
      rw [hconsume] at hsessions
      have hstore : store = (w.store.consumeLoginAttempt input.now p.cookieId p.state).1 := by
        rw [hconsume]
      cases found with
      | none => exact Or.inl ⟨_, rfl, Or.inr ⟨p, rfl, hstore⟩⟩
      | some attempt =>
          obtain ⟨hattempt, hid, hstate, htime⟩ :=
            consumed_eq_some (congrArg Prod.snd hconsume)
          dsimp only
          rcases oidcDiscover app.oidc.issuer input.discovery w.discovery with
            ⟨e | document, discovery⟩
          · exact Or.inl ⟨_, rfl, Or.inr ⟨p, rfl, hstore⟩⟩
          · dsimp only
            cases hopened : app.newSession document p.code attempt input with
            | error e => exact Or.inl ⟨_, rfl, Or.inr ⟨p, rfl, hstore⟩⟩
            | ok new =>
                obtain ⟨tokenUrl, answer, idToken, hexchange, hidToken, hvalidate, hnonce, hadmits,
                  hscopes, -, hsubject⟩ := newSession_eq_ok hopened
                dsimp only
                cases hcreate : store.createSession app.service input.created new with
                | none => exact Or.inl ⟨_, rfl, Or.inr ⟨p, rfl, hstore⟩⟩
                | some created =>
                    obtain ⟨t', session⟩ := created
                    obtain ⟨rfl, hattempts, hrows⟩ := createSession_eq_some hcreate
                    refine Or.inr ⟨p, _, attempt, rfl, rfl, hattempt, ?_,
                      hattempts.trans (congrArg AdminTables.attempts hstore), ?_⟩
                    · refine ⟨⟨p.code, tokenUrl, answer, idToken, ?_, hexchange, hidToken,
                        hvalidate⟩, htime, hnonce, hadmits, hsubject, hscopes, rfl⟩
                      rw [hpresented, hid, hstate]
                    · rw [← hsessions]
                      exact hrows

lemma Sourced.login (h : app.Sourced history w.store) (returnTo : String) (input : LoginInput) :
    app.Sourced (history ++ [(.login returnTo input,
        (app.step app.service.tables w (.login returnTo input)).1)])
      (app.step app.service.tables w (.login returnTo input)).2.store := by
  rw [step]
  rcases oidcLogin_cases app w returnTo input with
    ⟨e, hanswer, hstore⟩ | ⟨redirect, target, hanswer, hattempt, hpath, hrows, hsessions⟩
  · rw [hanswer]
    dsimp only
    rw [hstore]
    exact h.shrink (fun row hrow => ⟨hrow, by simp⟩) fun row hrow => ⟨⟨row, hrow, rfl⟩, by simp⟩
  · rw [hanswer]
    refine ⟨fun row hrow => ?_, fun row hrow => ?_⟩
    · rw [hrows, List.mem_append, List.mem_singleton] at hrow
      rcases hrow with hrow | rfl
      · exact ⟨(h.attempts row hrow).1.append (by simp), (h.attempts row hrow).2⟩
      · rw [hattempt]
        refine ⟨⟨history, [], returnTo, input, redirect, rfl, hattempt, rfl, rfl, rfl, rfl, rfl,
          fun event hevent => absurd hevent List.not_mem_nil⟩, hpath⟩
    · rw [hsessions] at hrow
      exact (h.sessions row hrow).append (by simp)

/-- A callback that has got as far as to consume an attempt leaves no row with its cookie. -/
lemma Sourced.consume (h : app.Sourced history w.store) {request : CallbackRequest}
    {input : CallbackInput} {p : Presented} (hpresented : request.presented app.oidc = .ok p)
    {row : LoginAttempt} {answer : AdminAnswer}
    (hrow : row ∈ (w.store.consumeLoginAttempt input.now p.cookieId p.state).1.attempts.rows) :
    app.Started (history ++ [(.callback request input, answer)]) row ∧ IsPath row.returnTo := by
  obtain ⟨hold, hne⟩ := mem_consumed hrow
  refine ⟨(h.attempts row hold).1.append ?_, (h.attempts row hold).2⟩
  rw [AdminCall.presents, hpresented]
  exact fun heq => hne (Option.some.inj heq).symm

lemma Sourced.callback (h : app.Sourced history w.store) (request : CallbackRequest)
    (input : CallbackInput) :
    app.Sourced (history ++ [(.callback request input,
        (app.step app.service.tables w (.callback request input)).1)])
      (app.step app.service.tables w (.callback request input)).2.store := by
  rw [step]
  rcases oidcCallback_cases app w request input with
    ⟨e, hanswer, ⟨hpresented, hstore⟩ | ⟨p, hpresented, hstore⟩⟩ |
    ⟨p, session, attempt, hpresented, hanswer, hattempt, hlets, hattempts, hsessions⟩
  · rw [hanswer]
    dsimp only
    rw [hstore]
    refine h.shrink (fun row hrow => ⟨hrow, ?_⟩) fun row hrow => ⟨⟨row, hrow, rfl⟩, by simp⟩
    rw [AdminCall.presents, hpresented]
    exact (Option.some_ne_none _).symm
  · rw [hanswer]
    dsimp only
    rw [hstore]
    refine ⟨fun row hrow => h.consume hpresented hrow, fun row hrow => ?_⟩
    rw [consumed_sessions] at hrow
    exact (h.sessions row hrow).append (by simp)
  · rw [hanswer]
    refine ⟨fun row hrow => ?_, fun row hrow => ?_⟩
    · rw [hattempts] at hrow
      exact h.consume hpresented hrow
    · rw [hsessions, List.mem_append, List.mem_singleton] at hrow
      rcases hrow with hrow | rfl
      · exact (h.sessions row hrow).append (by simp)
      · refine ⟨history, [], request, input, session, attempt.returnTo, attempt, rfl,
          (h.attempts attempt hattempt).1, hlets, ?_,
          fun event hevent => absurd hevent List.not_mem_nil⟩
        simp only [AdminSessionRow.grant, AdminSessionRow.session, AdminSession.row,
          AdminSession.toPrincipal, hlets.scopes, parseScopes_admin]

lemma Sourced.request (h : app.Sourced history w.store) (ctx : CallerContext)
    (request : HttpRequest) (now : DateTime) :
    app.Sourced (history ++ [(.request ctx request now,
        (app.step app.service.tables w (.request ctx request now)).1)])
      (app.step app.service.tables w (.request ctx request now)).2.store := by
  obtain ⟨hattempts, hsessions⟩ := callerOf_rows app w.store now ctx request
  rw [step]
  exact h.shrink (fun row hrow => ⟨hattempts ▸ hrow, by simp⟩) fun row hrow =>
    ⟨hsessions row hrow, by simp⟩

lemma Sourced.logout (h : app.Sourced history w.store) (ctx : CallerContext)
    (request : HttpRequest) (now : DateTime) :
    app.Sourced (history ++ [(.logout ctx request now,
        (app.step app.service.tables w (.logout ctx request now)).1)])
      (app.step app.service.tables w (.logout ctx request now)).2.store := by
  obtain ⟨hattempts, hsessions⟩ := callerOf_rows app w.store now ctx request
  rw [step, oidcLogout]
  revert hattempts hsessions
  rcases callerOf app.service.tables ctx w.store now request with ⟨result, store⟩
  intro hattempts hsessions
  cases result with
  | error e =>
      refine h.shrink (fun row hrow => ⟨hattempts ▸ hrow, by simp⟩) fun row hrow =>
        ⟨hsessions row hrow, ?_⟩
      exact (Option.some_ne_none _).symm
  | ok caller =>
      dsimp only [mapError_ok, AdminAnswer.of]
      cases hended : ended request caller with
      | none =>
          refine h.shrink (fun row hrow => ⟨hattempts ▸ hrow, by simp⟩) fun row hrow =>
            ⟨hsessions row hrow, ?_⟩
          rw [endedBy, hended]
          exact (Option.some_ne_none _).symm
      | some sessionId =>
          refine h.shrink (fun row hrow => ?_) fun row hrow => ?_
          · rw [Option.elim_some, AdminSessionService.tables, deleted_attempts] at hrow
            exact ⟨hattempts ▸ hrow, by simp⟩
          · obtain ⟨hold, hne⟩ := mem_deleted hrow
            refine ⟨hsessions row hold, ?_⟩
            rw [endedBy, hended]
            exact fun heq => hne (Option.some.inj heq).symm

/-- **One call** leaves every row with a source. -/
lemma Sourced.step (h : app.Sourced history w.store) (call : AdminCall) :
    app.Sourced (history ++ [(call, (app.step app.service.tables w call).1)])
      (app.step app.service.tables w call).2.store := by
  cases call with
  | login returnTo input => exact h.login returnTo input
  | callback request input => exact h.callback request input
  | request ctx request now => exact h.request ctx request now
  | logout ctx request now => exact h.logout ctx request now
  | prune now =>
      exact h.shrink (fun row hrow => ⟨(List.mem_filter.mp hrow).1, by simp⟩) fun row hrow =>
        ⟨⟨row, (List.mem_filter.mp hrow).1, rfl⟩, by simp⟩

lemma sourced_initial : app.Sourced [] initialTables.store :=
  ⟨fun _ hrow => absurd hrow List.not_mem_nil, fun _ hrow => absurd hrow List.not_mem_nil⟩

/-- **A run** leaves every row with a source. -/
lemma Sourced.run (h : app.Sourced history w.store) (calls : List AdminCall) :
    app.Sourced (history ++ app.history app.service.tables w calls)
      (app.after app.service.tables w calls).store := by
  induction calls generalizing w history with
  | nil => rwa [AdminApp.history, List.append_nil]
  | cons call calls ih =>
      have hrest := ih (h.step call)
      rwa [List.append_assoc, List.singleton_append] at hrest

variable (app) in
lemma sourced_after (calls : List AdminCall) :
    app.Sourced (app.history app.service.tables initialTables calls)
      (app.after app.service.tables initialTables calls).store :=
  sourced_initial.run calls

/-- **Whose session is accepted** after a run presents the cookie of the session and no other
credential, has come back from a login that was started with the same cookie, in time and only once,
is an admin, and has not logged out; a request that changes something carries the CSRF token of the
session. -/
theorem served_provenance (app : AdminApp) (calls : List AdminCall) {ctx : CallerContext}
    {request : HttpRequest} {principal : SessionPrincipal}
    (h : (app.step app.service.tables (app.after app.service.tables initialTables calls)
      (.request ctx request now)).1 = .served (.session principal)) :
    request.sessionCookie = some principal.sessionId ∧
      extractCredential request.authorization request.xApiKey = none ∧
      ∃ expiresAt,
        app.Minted (app.history app.service.tables initialTables calls) (principal, expiresAt) ∧
        now ≤ expiresAt ∧ (request.method ∈ ["POST", "PUT", "PATCH", "DELETE"] →
          (request.headers.lookup "X-CSRF-Token").getD "" = principal.csrfToken) := by
  rw [step] at h
  cases hcaller : (callerOf app.service.tables ctx
      (app.after app.service.tables initialTables calls).store now request).1 with
  | error e =>
      rw [hcaller] at h
      cases h
  | ok caller =>
      rw [hcaller] at h
      obtain rfl : caller = .session principal := by injection h
      obtain ⟨sessionId, hasked, hsession, hcsrf⟩ := CallerContext.asked_of_session hcaller
      obtain ⟨row, hrow, rfl, rfl, htime⟩ := found_of_lookup hsession
      obtain ⟨hcookie, hnone⟩ := CallerContext.presents_of_asked hasked
      refine ⟨hcookie, hnone, row.grant.2, (sourced_after app calls).sessions row hrow, htime,
        fun hmethod => ?_⟩
      rw [enforceCsrf, if_neg (not_not.mpr hmethod)] at hcsrf
      dsimp only at hcsrf
      split_ifs at hcsrf with _ htoken
      exact htoken

/-- **After the login the browser stays on the origin**, whatever it was asked to return to. -/
theorem redirect_sameOrigin (app : AdminApp) {safe : List Char}
    (hsafe : ∀ c ∈ safe, isStripped c = false) (hslash : '/' ∈ safe) (calls : List AdminCall)
    {request : CallbackRequest} {input : CallbackInput} {session : AdminSession} {returnTo : String}
    (h : (app.step app.service.tables (app.after app.service.tables initialTables calls)
      (.callback request input)).1 = .loggedIn session returnTo) :
    SameOrigin (quote safe returnTo) := by
  rw [step] at h
  rcases oidcCallback_cases app (app.after app.service.tables initialTables calls) request input with
    ⟨e, hresult, -⟩ | ⟨p, session', attempt, -, hresult, hattempt, -⟩
  · rw [hresult] at h
    cases h
  · rw [hresult] at h
    injection h with _ hreturn
    obtain ⟨rest, hrest, hhead⟩ := ((sourced_after app calls).attempts attempt hattempt).2
    rw [← hreturn]
    exact sameOrigin_quote hsafe hslash hrest hhead

end AdminApp

/-! ### The sample -/

/-- The session of a served request. -/
def AdminAnswer.principal? : AdminAnswer → Option SessionPrincipal
  | .served (.session principal) => some principal
  | _ => none

/-- Where a callback sends the browser to. -/
def AdminAnswer.returnTo? : AdminAnswer → Option String
  | .loggedIn _ returnTo => some returnTo
  | _ => none

lemma served_of_principal? {answer : AdminAnswer} {principal : SessionPrincipal}
    (h : answer.principal? = some principal) : answer = .served (.session principal) := by
  unfold AdminAnswer.principal? at h
  split at h
  · rw [Option.some.inj h]
  · cases h

lemma loggedIn_of_returnTo? {answer : AdminAnswer} {returnTo : String}
    (h : answer.returnTo? = some returnTo) : ∃ session, answer = .loggedIn session returnTo := by
  unfold AdminAnswer.returnTo? at h
  split at h
  · exact ⟨_, by rw [Option.some.inj h]⟩
  · cases h

lemma sample_served : (oidcSample.step oidcSample.service.tables
      (oidcSample.after oidcSample.service.tables AdminApp.initialTables
        [oidcSample.login, .prune 1,
          .callback oidcSample.callbackRequest oidcSample.callbackInput])
      (.request oidcSample.context oidcSample.request 3)).1 =
    .served (.session ⟨"ada", none, ["admin"], "sid", "csrf", some "https://idp.example"⟩) :=
  served_of_principal? (by decide +kernel)

lemma sample_loggedIn : ∃ session, (oidcSample.step oidcSample.service.tables
      (oidcSample.after oidcSample.service.tables AdminApp.initialTables [oidcSample.login])
      (.callback oidcSample.callbackRequest oidcSample.callbackInput)).1 =
    .loggedIn session "/admin/roles" :=
  loggedIn_of_returnTo? (by decide +kernel)

/-- Ada's session comes from her login. -/
theorem sample_provenance :
    oidcSample.request.sessionCookie = some "sid" ∧
      extractCredential oidcSample.request.authorization oidcSample.request.xApiKey = none ∧
      ∃ expiresAt,
        oidcSample.Minted (oidcSample.history oidcSample.service.tables AdminApp.initialTables
            [oidcSample.login, .prune 1,
              .callback oidcSample.callbackRequest oidcSample.callbackInput])
          (⟨"ada", none, ["admin"], "sid", "csrf", some "https://idp.example"⟩, expiresAt) ∧
        (3 : DateTime) ≤ expiresAt ∧
        (oidcSample.request.method ∈ ["POST", "PUT", "PATCH", "DELETE"] →
          (oidcSample.request.headers.lookup "X-CSRF-Token").getD "" = "csrf") :=
  AdminApp.served_provenance oidcSample _ sample_served

/-- The letters that the redirect leaves as they are. -/
def redirectSafe : List Char := ":/%#?=@[]!$&'()*+,;".toList

theorem sample_redirect_sameOrigin : SameOrigin (quote redirectSafe "/admin/roles") := by
  obtain ⟨session, h⟩ := sample_loggedIn
  have hsafe : ∀ c ∈ redirectSafe, isStripped c = false := not_stripped_of_all (by decide)
  exact AdminApp.redirect_sameOrigin oidcSample hsafe (by decide) [oidcSample.login] h

end AuthzKit
