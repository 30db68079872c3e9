import AuthzKit.Security.ApiKeys
import AuthzKit.Security.OauthResource
import AuthzKit.Service.Middleware
import AuthzKit.Service.Schemas

/-!
Who calls (`authz_service/dependencies.py`): the credential of a request, and `require_caller`.

* `extractCredential`: `X-API-Key`, else a bearer key or JWT.
* `getJwtResolver`: the resolver of the configured issuers, and of this service.
* `requireCaller`: the caller of a request, or a refusal; `requireCaller_cases` says where a
  caller comes from.
* `requireCaller_revoked`: a revoked key is refused.
-/

namespace AuthzKit

open Text

/-! ### Callers -/

/-- `SessionPrincipal`. -/
structure SessionPrincipal where
  subject : String
  email : Option String
  scopes : List String
  sessionId : String
  csrfToken : String
  issuer : Option String
deriving DecidableEq, Repr

/-- What `require_caller` returns. -/
inductive Caller where
  | apiKey (record : ApiKeyRecord)
  | token (principal : TokenPrincipal)
  | session (principal : SessionPrincipal)
deriving DecidableEq, Repr

/-- What the handlers read of a caller. -/
def Caller.principal : Caller → Principal
  | .apiKey record => .apiKey record.id record.scopes record.tenantId
  | .token p => .token p.issuer p.subject p.clientId p.scopes p.tenantId
  | .session p => .session p.subject p.scopes

/-- `Settings`, as far as callers depend on it. -/
structure Settings where
  devMode : Bool
  apiKeys : List String
  oauthAsEnabled : Bool
  oauthIssuer : String
  oauthAudience : String
  oauthAccessTokenTtlSeconds : ℕ
  /-- `load_issuer_configs`. -/
  resourceIssuers : List IssuerConfig
  /-- `oauth_resource_is_enabled`. -/
  oauthResourceEnabled : Bool
  /-- `admin_oidc_is_enabled`. -/
  adminOidcEnabled : Bool
deriving DecidableEq

/-- `settings.oauth_audience or settings.oauth_issuer`. -/
def Settings.audience (settings : Settings) : String :=
  if settings.oauthAudience = "" then settings.oauthIssuer else settings.oauthAudience

/-- `self_issuer` of `get_jwt_resolver`. -/
def Settings.selfIssuer (settings : Settings) : Option String :=
  if settings.oauthAsEnabled then some settings.oauthIssuer else none

/-- The `IssuerConfig` that `get_jwt_resolver` adds for this service. -/
def Settings.selfIssuerConfig (settings : Settings) (issuer : String) : IssuerConfig where
  issuer
  audience := [settings.audience]
  scopeClaim := "scope"
  scopeSeparator := some ' '
  scopeMap := []
  tenantClaim := some "tenant_id"
  tenantPrefix := ""

/-! ### Credentials -/

inductive CredentialKind where
  | apiKey
  | jwt
deriving DecidableEq, Repr

/-- A letter of `[A-Za-z0-9_\-=]`. -/
def isJwtLetter (c : Char) : Bool := c.isAlphanum || c == '_' || c == '-' || c == '='

/-- `_looks_like_jwt`; the candidate has been stripped. -/
def looksLikeJwt (candidate : String) : Bool :=
  match candidate.toList.splitOn '.' with
  | [header, payload, signature] =>
      [header, payload, signature].all fun segment => segment != [] && segment.all isJwtLetter
  | _ => false

/-- `_extract_credential`. -/
def extractCredential (authorization xApiKey : Option String) :
    Option (CredentialKind × String) :=
  match xApiKey.filter (· ≠ "") with
  | some key => some (.apiKey, key)
  | none =>
      match authorization with
      | none => none
      | some authorization =>
          if (authorization.toList.take 7).map Char.toLower = "bearer ".toList then
            let value := strip (String.ofList (authorization.toList.drop 7))
            if value = "" then none
            else some (if looksLikeJwt value then .jwt else .apiKey, value)
          else none

/-- `_env_key_record`. -/
def envKeyRecord (candidate : String) (envKeys : List String) : Option ApiKeyRecord :=
  if candidate ∈ envKeys then
    some
      { id := "env"
        name := "env-bootstrap-key"
        keyPrefix := String.ofList (candidate.toList.take 8)
        scopes := [scopeAdmin]
        tenantId := none
        status := apiKeyStatusActive
        expiresAt := none
        lastUsedAt := none
        rotates := none }
  else none

/-- `_dev_bypass_principal`. -/
def devBypassPrincipal : ApiKeyRecord where
  id := "dev"
  name := "dev-mode"
  keyPrefix := "dev"
  scopes := [scopeAdmin]
  tenantId := none
  status := apiKeyStatusActive
  expiresAt := none
  lastUsedAt := none
  rotates := none

/-- `get_jwt_resolver`, with the keys this service publishes; an error is the `ValueError` of
`JwtResolver.__init__`. -/
def getJwtResolver (settings : Settings) (publicJwks : List Delegations.Jwk) :
    Except Unit (Option JwtResolver) :=
  let selfIssuer := settings.selfIssuer
  let self : Option String := selfIssuer.filter (· ≠ "")
  let issuers : List IssuerConfig :=
    match self with
    | none => settings.resourceIssuers
    | some issuer =>
        if ∃ config ∈ settings.resourceIssuers, config.issuer = issuer then
          settings.resourceIssuers
        else settings.resourceIssuers ++ [settings.selfIssuerConfig issuer]
  if issuers = [] then .ok none
  else if ∃ issuer ∈ selfIssuer, JwtResolver.Collides issuers issuer then .error ()
  else .ok (some ⟨issuers, selfIssuer, if self.isSome then publicJwks else []⟩)

/-! ### `require_caller` -/

/-- What `require_caller` depends on besides the API keys. -/
structure CallerSources where
  hash : String → String
  jwt : BearerJwt
  publicJwks : List Delegations.Jwk
  /-- `lookup_session` and `to_principal`. -/
  session : (sessionId : String) → Option SessionPrincipal

/-- `_resolve_api_key`. -/
def resolveApiKey (hash : String → String) (settings : Settings) (table : ApiKeyTable) (now : ℕ)
    (candidate : String) : Option ApiKeyRecord × ApiKeyTable :=
  match envKeyRecord candidate settings.apiKeys with
  | some record => (some record, table)
  | none => ApiKeyService.findActive hash table now candidate

/-- `_dev_bypass_active`. -/
def devBypassActive (settings : Settings) (table : ApiKeyTable) (resolver : Option JwtResolver) :
    Bool :=
  settings.devMode && settings.apiKeys == [] &&
    !(table.rows.any fun row => row.status == apiKeyStatusActive) &&
    !(resolver.any fun r => r.issuers != []) && !settings.oauthResourceEnabled &&
    !settings.adminOidcEnabled

def missingApiKey : HttpException := ⟨401, [("error", "missing_or_invalid_api_key")]⟩

/-- `_bearer_401`. -/
def bearer401 (description : String) : HttpException :=
  ⟨401, [("error", "invalid_token"), ("error_description", description)]⟩

/-- `hmac.compare_digest` takes texts of ASCII only. -/
def isAscii (text : String) : Bool := text.toList.all fun c => c.toNat < 128

/-- `_enforce_csrf`; the `TypeError` of `hmac.compare_digest` is caught by nobody. -/
def enforceCsrf (request : HttpRequest) (principal : SessionPrincipal) :
    Except HttpException Unit :=
  if request.method ∉ ["POST", "PUT", "PATCH", "DELETE"] then .ok ()
  else
    let presented := (request.headers.lookup "X-CSRF-Token").getD ""
    if !(isAscii presented && isAscii principal.csrfToken) then .error ⟨500, []⟩
    else if presented = principal.csrfToken then .ok ()
    else .error ⟨403, [("error", "csrf_token_required")]⟩

/-- The last part of `require_caller`: the session cookie. -/
def sessionCaller (sources : CallerSources) (request : HttpRequest) :
    Except HttpException Caller :=
  match (request.sessionCookie.filter (· ≠ "")).bind sources.session with
  | none => .error missingApiKey
  | some principal => (enforceCsrf request principal).map fun _ => .session principal

/-- `require_caller`, with the keys after it. -/
def requireCaller (settings : Settings) (sources : CallerSources) (table : ApiKeyTable) (now : ℕ)
    (request : HttpRequest) : Except HttpException Caller × ApiKeyTable :=
  match getJwtResolver settings sources.publicJwks with
  | .error () => (.error ⟨500, []⟩, table)
  | .ok resolver =>
      if devBypassActive settings table resolver then (.ok (.apiKey devBypassPrincipal), table)
      else
        match extractCredential request.authorization request.xApiKey with
        | some (.apiKey, value) =>
            let (record, table) := resolveApiKey sources.hash settings table now value
            match record with
            | some record => (.ok (.apiKey record), table)
            | none => (.error missingApiKey, table)
        | some (.jwt, value) =>
            match resolver with
            | none => (.error (bearer401 "Bearer JWT auth is not configured on this service"), table)
            | some resolver =>
                match resolver.resolve sources.jwt value with
                | .ok principal => (.ok (.token principal), table)
                | .error e => (.error (bearer401 e), table)
        | none => (sessionCaller sources request, table)

variable {settings : Settings} {sources : CallerSources} {table : ApiKeyTable} {now : ℕ}
  {request : HttpRequest} {keyId keyHash plaintext : String}

/-- **Where a caller comes from**: the API keys, a token that `JwtResolver` took, or a session. -/
theorem requireCaller_cases {caller : Caller}
    (h : (requireCaller settings sources table now request).1 = .ok caller) :
    (∃ record, caller = .apiKey record) ∨
      (∃ resolver token principal,
        getJwtResolver settings sources.publicJwks = .ok (some resolver) ∧
        resolver.resolve sources.jwt token = .ok principal ∧ caller = .token principal) ∨
      ∃ sessionId principal, sources.session sessionId = some principal ∧
        caller = .session principal := by
  rw [requireCaller] at h
  split at h
  · cases h
  rename_i resolver hresolver
  split_ifs at h
  · injection h with h
    exact Or.inl ⟨_, h.symm⟩
  split at h
  · dsimp only at h
    split at h
    · injection h with h
      exact Or.inl ⟨_, h.symm⟩
    · cases h
  · rename_i token _
    split at h
    · cases h
    · split at h
      · rename_i principal hresolve
        injection h with h
        exact Or.inr (Or.inl ⟨_, token, principal, hresolver, hresolve, h.symm⟩)
      · cases h
  · dsimp only at h
    rw [sessionCaller] at h
    split at h
    · cases h
    · rename_i principal hsession
      obtain ⟨sessionId, -, hlookup⟩ := Option.bind_eq_some_iff.mp hsession
      cases hcsrf : enforceCsrf request principal with
      | error e =>
          rw [hcsrf] at h
          cases h
      | ok =>
          rw [hcsrf] at h
          injection h with h
          exact Or.inr (Or.inr ⟨sessionId, principal, hlookup, h.symm⟩)

/-- Authentication keeps what is revoked. -/
lemma revoked_requireCaller (h : table.Revoked keyId keyHash) :
    (requireCaller settings sources table now request).2.Revoked keyId keyHash := by
  have hkey : ∀ value,
      (resolveApiKey sources.hash settings table now value).2.Revoked keyId keyHash := by
    intro value
    rw [resolveApiKey]
    split
    · exact h
    · exact ApiKeyService.revoked_findActive h
  rw [requireCaller]
  split
  · exact h
  · split_ifs
    · exact h
    · split
      · dsimp only
        split <;> exact hkey _
      · split
        · exact h
        · split <;> exact h
      · exact h

/-- A refusal has one of three statuses. -/
lemma requireCaller_error {e : HttpException}
    (h : (requireCaller settings sources table now request).1 = .error e) :
    e.statusCode ∈ [401, 403, 500] := by
  rw [requireCaller] at h
  split at h
  · cases h
    decide
  · split_ifs at h
    split at h
    · dsimp only at h
      split at h
      · cases h
      · cases h
        decide
    · split at h
      · cases h
        decide
      · split at h
        · cases h
        · cases h
          exact (by decide : 401 ∈ [401, 403, 500])
    · dsimp only at h
      rw [sessionCaller] at h
      split at h
      · cases h
        decide
      · rw [enforceCsrf] at h
        dsimp only at h
        split_ifs at h <;> cases h
        · decide
        · decide

/-- **A revoked key is refused**, with dev mode off, unless it is also an environment key. -/
theorem requireCaller_revoked (hdev : settings.devMode = false)
    (henv : plaintext ∉ settings.apiKeys)
    (hpresents : extractCredential request.authorization request.xApiKey =
      some (.apiKey, plaintext))
    (h : table.Revoked keyId (sources.hash plaintext))
    (hconfigured : ∃ resolver, getJwtResolver settings sources.publicJwks = .ok resolver) :
    requireCaller settings sources table now request = (.error missingApiKey, table) := by
  obtain ⟨resolver, hresolver⟩ := hconfigured
  have hbypass : devBypassActive settings table resolver = false := by
    rw [devBypassActive, hdev]
    rfl
  have hnone : resolveApiKey sources.hash settings table now plaintext = (none, table) := by
    rw [resolveApiKey, envKeyRecord, if_neg henv]
    exact ApiKeyService.findActive_revoked h
  rw [requireCaller, hresolver]
  simp only [hbypass, hpresents, hnone, Bool.false_eq_true, if_false]

end AuthzKit
