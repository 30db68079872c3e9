import AuthzKit.Service.AdminSessions
import AuthzKit.Text.Urls

/-!
The routes of the admin login (`authz_service/api/oauth.py`), on a store of attempts and sessions,
and the session cookie in `require_caller`.

* `oidcDiscover`, `isSafeReturnTo`, `exchangeCode`, `validateAdminIdToken`,
  `adminScopesFromClaims`: the parts of the flow, with everything that may be raised.
* `AdminApp.oidcLogin`, `AdminApp.oidcCallback`, `AdminApp.oidcLogout`: the routes.
* `AdminOidcSettings.Admits`: who is an admin; `newSession_eq_ok` says what is known of whom the
  callback lets in.
* `AdminApp.callerOf`: `require_caller`, and what it does to the sessions.
-/

namespace AuthzKit

open Delegations Text

/-- A JSON object. -/
abbrev Document := List (String × Json)

/-- What a route raises. -/
inductive RouteError where
  | http (e : HttpException)
  | raised (e : Raised)
  /-- A commit that fails. -/
  | database
deriving DecidableEq, Repr

/-- An `HTTPException` whose detail has only its `error`. -/
def httpError (statusCode : ℕ) (error : String) : RouteError := .http ⟨statusCode, [("error", error)]⟩

/-- The settings `admin_oidc_*`. -/
structure AdminOidcSettings where
  issuer : String
  clientId : String
  clientSecret : String
  redirectUri : String
  scopes : String
  groupsClaim : String
  adminGroups : List String
  emailAllowlist : List String

/-- Python and its libraries, and the database driver, where the routes call them. -/
structure LoginLibraries where
  /-- `str.lower`. -/
  lower : String → String
  /-- `str` of a value that is no text. -/
  str : Json → String
  /-- `urlparse` raises no `ValueError` for the host. -/
  validHost : String → Bool
  /-- The PKCE challenge of a verifier. -/
  challenge : String → String
  /-- What the driver stores of an e-mail that is no text, unless it raises. -/
  emailColumn : Json → Option (Option String)

/-- `_admin_oidc_configured`. -/
def AdminOidcSettings.configured (settings : AdminOidcSettings) : Bool :=
  settings.issuer ≠ "" && settings.clientId ≠ "" && settings.clientSecret ≠ "" &&
    settings.redirectUri ≠ ""

/-! ### Discovery -/

/-- `_OIDC_DISCOVERY_TTL_SECONDS`, in microseconds. -/
def oidcDiscoveryTtl : ℤ := 3600 * second

/-- `_OIDC_DISCOVERY_CACHE`: documents and when they expire, by issuer. -/
abbrev DiscoveryCache := String → Option (Document × ℤ)

/-- What `_oidc_discover` reads: the monotonic clock, and the answer to its request. -/
structure DiscoveryExchange where
  now : ℤ
  get : (url : String) → Except String Response

/-- The object in an answer that is no failure. -/
def discovered (issuer : String) (response : Response) : Except RouteError Document :=
  if 400 ≤ response.status then
    .error (.http ⟨502, [("error", "oidc_discovery_failed"), ("issuer", issuer),
      ("status", toString response.status)]⟩)
  else
    match response.json with
    | .error .notJson => .error (.raised .valueError)
    | .error .tooDeep => .error (.raised .recursionError)
    | .ok (.obj fields) => .ok fields
    | .ok _ => .error (.http ⟨502, [("error", "oidc_discovery_invalid"), ("issuer", issuer)]⟩)

/-- `_oidc_discover`. -/
def oidcDiscover (issuer : String) (x : DiscoveryExchange) (cache : DiscoveryCache) :
    Except RouteError Document × DiscoveryCache :=
  match (cache issuer).filter fun cached => x.now < cached.2 with
  | some cached => (.ok cached.1, cache)
  | none =>
      let url := String.ofList (issuer.toList.rdropWhile (· = '/')) ++
        "/.well-known/openid-configuration"
      match x.get url with
      | .error text => (.error (.raised (.httpxError text)), cache)
      | .ok response =>
          match discovered issuer response with
          | .error e => (.error e, cache)
          | .ok payload =>
              (.ok payload, Function.update cache issuer (some (payload, x.now + oidcDiscoveryTtl)))

/-- A field that is there and true. -/
def Document.truthy (document : Document) (name : String) : Option Json :=
  (document.lookup name).filter Json.truthy

/-! ### Where a login returns to -/

/-- `_is_safe_return_to`. -/
def isSafeReturnTo (lib : LoginLibraries) (target : String) : Except Raised Bool :=
  match target.toList with
  | '/' :: rest =>
      if rest.head?.any isSlash then .ok false
      else
        let (scheme, host) := urlParse target
        if lib.validHost host then .ok (scheme = "" && host = "") else .error .valueError
  | _ => .ok false

/-! ### Who comes back -/

/-- The form that `_exchange_code` posts. -/
structure TokenForm where
  grantType : String
  code : String
  redirectUri : String
  clientId : String
  clientSecret : String
  codeVerifier : String
deriving DecidableEq

/-- `_exchange_code`, with the answer of the token endpoint and its text. -/
def exchangeCode (answer : Except String (Response × String)) : Except RouteError Document :=
  match answer with
  | .error text => .error (.raised (.httpxError text))
  | .ok (response, text) =>
      if 400 ≤ response.status then
        .error (.http ⟨400, [("error", "token_exchange_failed"),
          ("status", toString response.status), ("body", text)]⟩)
      else
        match response.json with
        | .error .notJson => .error (.raised .valueError)
        | .error .tooDeep => .error (.raised .recursionError)
        | .ok (.obj fields) => .ok fields
        | .ok _ => .error (httpError 502 "token_exchange_invalid")

/-- `_validate_admin_id_token`, with what the validator returns. -/
def validateAdminIdToken (validated : Except Raised Document) (nonce : String) :
    Except RouteError Document :=
  match validated with
  | .error (.jwtValidationError text) =>
      .error (.http ⟨400, [("error", "invalid_id_token"), ("reason", text)]⟩)
  | .error e => .error (.raised e)
  | .ok claims =>
      match claims.lookup "nonce" with
      | some (.str value) =>
          if value = nonce then .ok claims else .error (httpError 400 "nonce_mismatch")
      | _ => .error (httpError 400 "nonce_mismatch")

/-- `any(g in admin_groups for g in raw_groups)`: a list or a `dict` cannot be looked up in a
set. -/
def anyAdminGroup (adminGroups : List String) : List Json → Except Raised Bool
  | [] => .ok false
  | .arr _ :: _ | .obj _ :: _ => .error .typeError
  | .str group :: rest => if group ∈ adminGroups then .ok true else anyAdminGroup adminGroups rest
  | _ :: rest => anyAdminGroup adminGroups rest

/-- `raw_groups` of `_admin_scopes_from_claims`, if it can be gone through. -/
def rawGroups (groups : Option Json) : Except Raised (List Json) :=
  match groups with
  | none => .ok []
  | some (.str group) => .ok [.str group]
  | some groups => groups.elements.elim (.error .typeError) .ok

/-- The e-mail is verified and on the allowlist. -/
def emailAdmitted (lib : LoginLibraries) (settings : AdminOidcSettings) (claims : Document) :
    Except Raised Bool :=
  match claims.truthy "email", claims.lookup "email_verified" with
  | some (.str email), some (.bool true) =>
      .ok (lib.lower email ∈ settings.emailAllowlist.map lib.lower)
  | some _, some (.bool true) => .error .attributeError
  | _, _ => .ok false

/-- `_admin_scopes_from_claims`. -/
def adminScopesFromClaims (lib : LoginLibraries) (settings : AdminOidcSettings)
    (claims : Document) : Except Raised (List String) := do
  let groups ← rawGroups (claims.truthy settings.groupsClaim)
  if ← anyAdminGroup settings.adminGroups groups then .ok [scopeAdmin]
  else if ← emailAdmitted lib settings claims then .ok [scopeAdmin]
  else .ok []

/-- `claims.get("email")`, as it is stored. -/
def emailColumn (lib : LoginLibraries) (claims : Document) : Option (Option String) :=
  match claims.lookup "email" with
  | none | some .null => some none
  | some (.str email) => some (some email)
  | some email => lib.emailColumn email

/-- `str(claims.get("sub", ""))`. -/
def subjectOf (lib : LoginLibraries) (claims : Document) : String :=
  match claims.lookup "sub" with
  | none => ""
  | some (.str subject) => subject
  | some subject => lib.str subject

/-- A claim names a group. -/
def Json.Names (group : String) : Json → Prop
  | .str value => value = group ∧ group ≠ ""
  | .arr items => Json.str group ∈ items
  | .obj fields => group ∈ fields.map Prod.fst
  | _ => False

/-- **Who is an admin**: a member of an admin group, or the owner of a verified e-mail on the
allowlist. -/
def AdminOidcSettings.Admits (settings : AdminOidcSettings) (lower : String → String)
    (claims : Document) : Prop :=
  (∃ group ∈ settings.adminGroups, ∃ value, claims.lookup settings.groupsClaim = some value ∧
    value.Names group) ∨
  ∃ email allowed, claims.lookup "email" = some (.str email) ∧
    claims.lookup "email_verified" = some (.bool true) ∧ allowed ∈ settings.emailAllowlist ∧
    lower email = lower allowed

section Admission

variable {lib : LoginLibraries} {settings : AdminOidcSettings} {claims : Document}

lemma validateAdminIdToken_eq_ok {validated : Except Raised Document} {nonce : String}
    (h : validateAdminIdToken validated nonce = .ok claims) :
    validated = .ok claims ∧ claims.lookup "nonce" = some (.str nonce) := by
  cases validated with
  | error e =>
      cases e with
      | jwtValidationError text => cases h
      | pyJwtError text => cases h
      | httpxError text => cases h
      | valueError => cases h
      | typeError => cases h
      | attributeError => cases h
      | recursionError => cases h
  | ok found =>
      rw [validateAdminIdToken] at h
      split at h
      · rename_i value hnonce
        split_ifs at h with hvalue
        obtain rfl := Except.ok.inj h
        exact ⟨rfl, hvalue ▸ hnonce⟩
      · cases h

lemma str_mem_of_anyAdminGroup {groups : List Json} {adminGroups : List String}
    (h : anyAdminGroup adminGroups groups = .ok true) :
    ∃ group ∈ adminGroups, Json.str group ∈ groups := by
  induction groups with
  | nil => cases h
  | cons head rest ih =>
      have hrest : anyAdminGroup adminGroups rest = .ok true →
          ∃ group ∈ adminGroups, Json.str group ∈ head :: rest := by
        intro h
        obtain ⟨group, hgroup, hmem⟩ := ih h
        exact ⟨group, hgroup, List.mem_cons_of_mem _ hmem⟩
      cases head with
      | str group =>
          rw [anyAdminGroup] at h
          split_ifs at h with hgroup
          · exact ⟨group, hgroup, List.mem_cons_self⟩
          · exact hrest h
      | arr items => cases h
      | obj fields => cases h
      | null => exact hrest h
      | bool value => exact hrest h
      | number zero => exact hrest h

lemma names_of_rawGroups {value : Json} {groups : List Json} {group : String}
    (htruthy : value.truthy = true) (h : rawGroups (some value) = .ok groups)
    (hmem : Json.str group ∈ groups) : value.Names group := by
  cases value with
  | str text =>
      injection h with h
      rw [← h, List.mem_singleton, Json.str.injEq] at hmem
      subst hmem
      exact ⟨rfl, by simpa [Json.truthy] using htruthy⟩
  | arr items =>
      injection h with h
      exact h ▸ hmem
  | obj fields =>
      injection h with h
      rw [← h] at hmem
      obtain ⟨field, hfield, hname⟩ := List.mem_map.mp hmem
      rw [Json.str.injEq] at hname
      exact List.mem_map.mpr ⟨field, hfield, hname⟩
  | null => cases h
  | bool value => cases h
  | number zero => cases h

/-- **Whoever gets scopes is an admin**, and `admin` is the only scope. -/
lemma admits_of_scopes {scopes : List String}
    (h : adminScopesFromClaims lib settings claims = .ok scopes) (hne : scopes ≠ []) :
    scopes = [scopeAdmin] ∧ settings.Admits lib.lower claims := by
  obtain ⟨groups, hgroups, h⟩ := bind_eq_ok_iff.mp h
  obtain ⟨anyGroup, hany, h⟩ := bind_eq_ok_iff.mp h
  cases anyGroup with
  | true =>
      obtain ⟨group, hgroup, hmem⟩ := str_mem_of_anyAdminGroup hany
      cases hclaim : claims.truthy settings.groupsClaim with
      | none =>
          rw [hclaim] at hgroups
          cases hgroups
          cases hmem
      | some value =>
          rw [hclaim] at hgroups
          obtain ⟨hlookup, htruthy⟩ := Option.filter_eq_some_iff.mp hclaim
          exact ⟨(Except.ok.inj h).symm, Or.inl ⟨group, hgroup, value, hlookup,
            names_of_rawGroups htruthy hgroups hmem⟩⟩
  | false =>
      obtain ⟨admitted, hadmitted, h⟩ := bind_eq_ok_iff.mp h
      cases admitted with
      | false =>
          cases h
          exact absurd rfl hne
      | true =>
          refine ⟨(Except.ok.inj h).symm, Or.inr ?_⟩
          rw [emailAdmitted] at hadmitted
          split at hadmitted
          · rename_i email hemail hverified
            obtain ⟨allowed, hallowed, hlower⟩ := List.mem_map.mp
              (of_decide_eq_true (Except.ok.inj hadmitted))
            exact ⟨email, allowed, (Option.filter_eq_some_iff.mp hemail).1, hverified, hallowed,
              hlower.symm⟩
          · cases hadmitted
          · cases hadmitted

end Admission

/-! ### The routes -/

/-- The service, as far as the admin login depends on it. -/
structure AdminApp where
  oidc : AdminOidcSettings
  lib : LoginLibraries
  service : AdminSessionService

/-- A store, and the discovery cache. -/
structure AdminState (σ : Type) where
  store : σ
  discovery : DiscoveryCache

/-- What `oidc_login` reads: the clocks, the identity provider, and the tokens it draws. -/
structure LoginInput where
  now : DateTime
  discovery : DiscoveryExchange
  state : String
  nonce : String
  codeVerifier : String
  cookieId : String

/-- The redirect to the identity provider: its authorization endpoint, the parameters, and the
attempt whose id is the cookie. -/
structure LoginRedirect where
  attempt : LoginAttempt
  authUrl : Json
  params : List (String × String)

/-- The query and the cookie of a callback. -/
structure CallbackRequest where
  code : Option String
  state : Option String
  error : Option String
  errorDescription : Option String
  loginCookie : Option String

/-- What `oidc_callback` reads: the clock at its two calls of the service, the identity provider,
what the validator returns for an ID token, and the tokens that are drawn. -/
structure CallbackInput where
  now : DateTime
  discovery : DiscoveryExchange
  exchange : (tokenUrl : Json) → TokenForm → Except String (Response × String)
  validate : (idToken : Json) → Except Raised Document
  created : DateTime
  sid : String
  csrf : String

/-- A callback that has a code, a state and a cookie. -/
structure Presented where
  code : String
  state : String
  cookieId : String

/-- The checks of `oidc_callback` before it consumes the attempt. -/
def CallbackRequest.presented (settings : AdminOidcSettings) (request : CallbackRequest) :
    Except RouteError Presented :=
  if settings.configured then
    match request.error.filter (· ≠ "") with
    | some error =>
        .error (.http ⟨400, [("error", error),
          ("error_description", request.errorDescription.getD "")]⟩)
    | none =>
        match request.code.filter (· ≠ ""), request.state.filter (· ≠ "") with
        | some code, some state =>
            match request.loginCookie.filter (· ≠ "") with
            | some cookieId => .ok ⟨code, state, cookieId⟩
            | none => .error (httpError 400 "missing_login_cookie")
        | _, _ => .error (httpError 400 "missing_code_or_state")
  else .error (httpError 503 "admin_oidc_not_configured")

namespace AdminApp

variable {σ : Type} (app : AdminApp) (A : SessionStore σ)

/-- `oidc_login`. -/
def oidcLogin (w : AdminState σ) (returnTo : String) (input : LoginInput) :
    Except RouteError LoginRedirect × AdminState σ :=
  if app.oidc.configured then
    match isSafeReturnTo app.lib returnTo with
    | .error e => (.error (.raised e), w)
    | .ok safe =>
        match oidcDiscover app.oidc.issuer input.discovery w.discovery with
        | (.error e, discovery) => (.error e, { w with discovery })
        | (.ok document, discovery) =>
            match document.truthy "authorization_endpoint" with
            | none => (.error (httpError 502 "no_authorization_endpoint"), { w with discovery })
            | some authUrl =>
                match A.createLoginAttempt w.store input.now
                    { cookieId := input.cookieId
                      state := input.state
                      codeVerifier := input.codeVerifier
                      nonce := input.nonce
                      returnTo := if safe then returnTo else "/admin/" } with
                | none => (.error .database, { w with discovery })
                | some (store, attempt) =>
                    (.ok
                      { attempt
                        authUrl
                        params :=
                          [("response_type", "code"), ("client_id", app.oidc.clientId),
                            ("redirect_uri", app.oidc.redirectUri), ("scope", app.oidc.scopes),
                            ("state", input.state), ("nonce", input.nonce),
                            ("code_challenge", app.lib.challenge input.codeVerifier),
                            ("code_challenge_method", "S256")] },
                      ⟨store, discovery⟩)
  else (.error (httpError 503 "admin_oidc_not_configured"), w)

/-- The form of a code, with the verifier of the attempt. -/
def tokenForm (code : String) (attempt : LoginAttempt) : TokenForm where
  grantType := "authorization_code"
  code := code
  redirectUri := app.oidc.redirectUri
  clientId := app.oidc.clientId
  clientSecret := app.oidc.clientSecret
  codeVerifier := attempt.codeVerifier

/-- `oidc_callback` from the discovery document to the arguments of `create_session`. -/
def newSession (document : Document) (code : String) (attempt : LoginAttempt)
    (input : CallbackInput) : Except RouteError NewSession := do
  let tokenUrl ← (document.truthy "token_endpoint").elim
    (.error (httpError 502 "no_token_endpoint")) .ok
  let answer ← exchangeCode (input.exchange tokenUrl (app.tokenForm code attempt))
  let idToken ← (answer.truthy "id_token").elim (.error (httpError 502 "no_id_token")) .ok
  let claims ← validateAdminIdToken (input.validate idToken) attempt.nonce
  let scopes ← (adminScopesFromClaims app.lib app.oidc claims).mapError .raised
  if scopes = [] then
    .error (.http ⟨403, [("error", "admin_access_denied"), ("reason", "no admin claims")]⟩)
  else
    match emailColumn app.lib claims with
    | none => .error .database
    | some email =>
        .ok
          { sid := input.sid
            csrf := input.csrf
            subject := subjectOf app.lib claims
            email
            issuer := app.oidc.issuer
            scopes
            rawClaims := claims }

/-- `oidc_callback`: the session, and where the browser is sent to. -/
def oidcCallback (w : AdminState σ) (request : CallbackRequest) (input : CallbackInput) :
    Except RouteError (AdminSession × String) × AdminState σ :=
  match request.presented app.oidc with
  | .error e => (.error e, w)
  | .ok p =>
      match A.consumeLoginAttempt w.store input.now p.cookieId p.state with
      | (store, none) => (.error (httpError 400 "invalid_state"), { w with store })
      | (store, some attempt) =>
          match oidcDiscover app.oidc.issuer input.discovery w.discovery with
          | (.error e, discovery) => (.error e, ⟨store, discovery⟩)
          | (.ok document, discovery) =>
              match app.newSession document p.code attempt input with
              | .error e => (.error e, ⟨store, discovery⟩)
              | .ok new =>
                  match A.createSession store input.created new with
                  | none => (.error .database, ⟨store, discovery⟩)
                  | some (store, session) =>
                      (.ok (session, attempt.returnTo), ⟨store, discovery⟩)

variable {app}

/-- **What is known of whom the callback lets in.** -/
lemma newSession_eq_ok {document : Document} {code : String} {attempt : LoginAttempt}
    {input : CallbackInput} {new : NewSession}
    (h : app.newSession document code attempt input = .ok new) :
    ∃ tokenUrl answer idToken,
      exchangeCode (input.exchange tokenUrl (app.tokenForm code attempt)) = .ok answer ∧
      answer.truthy "id_token" = some idToken ∧ input.validate idToken = .ok new.rawClaims ∧
      new.rawClaims.lookup "nonce" = some (.str attempt.nonce) ∧
      app.oidc.Admits app.lib.lower new.rawClaims ∧ new.scopes = [scopeAdmin] ∧
      new.sid = input.sid ∧ new.subject = subjectOf app.lib new.rawClaims := by
  obtain ⟨tokenUrl, -, h⟩ := bind_eq_ok_iff.mp h
  obtain ⟨answer, hanswer, h⟩ := bind_eq_ok_iff.mp h
  obtain ⟨idToken, hidToken, h⟩ := bind_eq_ok_iff.mp h
  obtain ⟨claims, hclaims, h⟩ := bind_eq_ok_iff.mp h
  obtain ⟨scopes, hscopes, h⟩ := bind_eq_ok_iff.mp h
  split_ifs at h with hempty
  obtain ⟨rfl, hadmits⟩ := admits_of_scopes (mapError_eq_ok_iff.mp hscopes) hempty
  have hidToken' : answer.truthy "id_token" = some idToken := by
    cases hfound : answer.truthy "id_token" with
    | none =>
        rw [hfound] at hidToken
        cases hidToken
    | some found =>
        rw [hfound] at hidToken
        exact congrArg some (Except.ok.inj hidToken)
  obtain ⟨hvalidate, hnonce⟩ := validateAdminIdToken_eq_ok hclaims
  cases hemail : emailColumn app.lib claims with
  | none =>
      rw [hemail] at h
      cases h
  | some email =>
      rw [hemail] at h
      obtain rfl := Except.ok.inj h
      exact ⟨tokenUrl, answer, idToken, hanswer, hidToken', hvalidate, hnonce, hadmits, rfl, rfl,
        rfl⟩

end AdminApp

/-! ### Callers -/

/-- What `require_caller` depends on besides the sessions. -/
structure CallerContext where
  settings : Settings
  hash : String → String
  jwt : BearerJwt
  publicJwks : List Jwk
  apiKeys : ApiKeyTable
  now : ℕ

namespace CallerContext

variable (ctx : CallerContext)

/-- The sources, with a session lookup. -/
def sources (session : String → Option SessionPrincipal) : CallerSources where
  hash := ctx.hash
  jwt := ctx.jwt
  publicJwks := ctx.publicJwks
  session := session

/-- The session cookie that `require_caller` looks up, if it comes to that. -/
def sessionAsked (request : HttpRequest) : Option String :=
  match getJwtResolver ctx.settings ctx.publicJwks with
  | .error () => none
  | .ok resolver =>
      if devBypassActive ctx.settings ctx.apiKeys resolver then none
      else
        match extractCredential request.authorization request.xApiKey with
        | some _ => none
        | none => request.sessionCookie.filter (· ≠ "")

variable {ctx} {request : HttpRequest} {sessionId : String}

/-- The cookie that is looked up is that of the request, which has no other credential. -/
lemma presents_of_asked (h : ctx.sessionAsked request = some sessionId) :
    request.sessionCookie = some sessionId ∧
      extractCredential request.authorization request.xApiKey = none := by
  rw [sessionAsked] at h
  split at h
  · cases h
  · split_ifs at h
    split at h
    · cases h
    · rename_i hcredential
      exact ⟨(Option.filter_eq_some_iff.mp h).1, hcredential⟩

/-- **A request that is authenticated by its session cookie.** -/
lemma requireCaller_of_asked (h : ctx.sessionAsked request = some sessionId)
    (session : String → Option SessionPrincipal) :
    (requireCaller ctx.settings (ctx.sources session) ctx.apiKeys ctx.now request).1 =
      match session sessionId with
      | none => .error missingApiKey
      | some principal => (enforceCsrf request principal).map fun _ => .session principal := by
  rw [sessionAsked] at h
  rw [requireCaller]
  have hkeys : (ctx.sources session).publicJwks = ctx.publicJwks := rfl
  rw [hkeys]
  cases hresolver : getJwtResolver ctx.settings ctx.publicJwks with
  | error e =>
      rw [hresolver] at h
      cases h
  | ok resolver =>
      rw [hresolver] at h
      dsimp only at h ⊢
      split_ifs at h with hbypass
      rw [if_neg hbypass]
      cases hcred : extractCredential request.authorization request.xApiKey with
      | some cred =>
          rw [hcred] at h
          cases h
      | none =>
          rw [hcred] at h
          dsimp only at h ⊢
          rw [sessionCaller, h]
          rfl

/-- **A request that is not.** -/
lemma requireCaller_of_not_asked (h : ctx.sessionAsked request = none)
    (session session' : String → Option SessionPrincipal) :
    (requireCaller ctx.settings (ctx.sources session) ctx.apiKeys ctx.now request).1 =
      (requireCaller ctx.settings (ctx.sources session') ctx.apiKeys ctx.now request).1 := by
  rw [sessionAsked] at h
  rw [requireCaller, requireCaller]
  have hkeys : ∀ session, (ctx.sources session).publicJwks = ctx.publicJwks := fun _ => rfl
  rw [hkeys, hkeys]
  cases hresolver : getJwtResolver ctx.settings ctx.publicJwks with
  | error e => rfl
  | ok resolver =>
      rw [hresolver] at h
      dsimp only at h ⊢
      split_ifs at h ⊢ with hbypass
      · rfl
      · cases hcred : extractCredential request.authorization request.xApiKey with
        | some cred =>
            obtain ⟨kind, value⟩ := cred
            cases kind with
            | apiKey => rfl
            | jwt => rfl
        | none =>
            rw [hcred] at h
            dsimp only at h ⊢
            rw [sessionCaller, sessionCaller, h]
            rfl

/-- Only the cookie that is looked up makes a caller with a session. -/
lemma asked_of_session {session : String → Option SessionPrincipal} {principal : SessionPrincipal}
    (h : (requireCaller ctx.settings (ctx.sources session) ctx.apiKeys ctx.now request).1 =
      .ok (.session principal)) :
    ∃ sessionId, ctx.sessionAsked request = some sessionId ∧
      session sessionId = some principal ∧ enforceCsrf request principal = .ok () := by
  cases hasked : ctx.sessionAsked request with
  | none =>
      -- without a cookie to look up the caller is the same when there are no sessions
      rw [requireCaller_of_not_asked hasked session fun _ => none] at h
      rcases requireCaller_cases h with ⟨record, hrecord⟩ | ⟨_, _, _, _, _, htoken⟩ |
        ⟨_, _, hnone, -⟩
      · cases hrecord
      · cases htoken
      · cases hnone
  | some sessionId =>
      rw [requireCaller_of_asked hasked] at h
      cases hsession : session sessionId with
      | none =>
          rw [hsession] at h
          cases h
      | some found =>
          rw [hsession] at h
          dsimp only at h
          cases hcsrf : enforceCsrf request found with
          | error e =>
              rw [hcsrf] at h
              cases h
          | ok =>
              rw [hcsrf] at h
              injection h with h
              injection h with h
              subst h
              exact ⟨sessionId, rfl, hsession, hcsrf⟩

end CallerContext

namespace AdminApp

variable {σ : Type} (A : SessionStore σ)

/-- `require_caller`, and the store after it. -/
def callerOf (ctx : CallerContext) (store : σ) (now : DateTime) (request : HttpRequest) :
    Except HttpException Caller × σ :=
  ((requireCaller ctx.settings (ctx.sources fun sessionId => (A.lookupSession store now sessionId).2)
      ctx.apiKeys ctx.now request).1,
    match ctx.sessionAsked request with
    | none => store
    | some sessionId => (A.lookupSession store now sessionId).1)

/-- The session that `oidc_logout` deletes. -/
def ended (request : HttpRequest) : Caller → Option String
  | .session principal => some principal.sessionId
  | _ => request.sessionCookie.filter (· ≠ "")

/-- `oidc_logout`. -/
def oidcLogout (ctx : CallerContext) (store : σ) (now : DateTime) (request : HttpRequest) :
    Except HttpException Caller × σ :=
  match callerOf A ctx store now request with
  | (.error e, store) => (.error e, store)
  | (.ok caller, store) =>
      (.ok caller, (ended request caller).elim store (A.deleteSession store))

end AdminApp

end AuthzKit
