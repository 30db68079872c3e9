import AuthzKit.Security.OauthClients
import AuthzKit.Service.Callers

/-!
`POST /oauth/token` (`authz_service/api/oauth.py`), and the scopes on their way from the
registration of a client to the principal of its token.

The key that signs, PyJWT and the rate limiter are parameters.

* `parseScopeRequest`, `bindTenant`: the scopes of a token; `spells_requested` says which ones
  can be read in them again.
* `tokenEndpoint`: the endpoint; `tokenEndpoint_granted` says what a token that was issued is.
* `Attenuated`, `Hidden`: `scopes_attenuated` says that a principal has no scopes but those of
  its client exactly when none is hidden in another text.
-/

namespace AuthzKit

open Text

/-! ### Requests and responses -/

/-- The form of `POST /oauth/token`. -/
structure TokenRequest where
  grantType : String
  scope : Option String
  clientId : Option String
  clientSecret : Option String
  /-- `_parse_basic_auth` of the Authorization header. -/
  basic : Option (String × String)
deriving DecidableEq

inductive TokenResponse where
  | oauthError (error description : String) (statusCode : ℕ)
  | rateLimited (retryAfter : ℕ)
  | granted (accessToken : String) (expiresIn : ℕ) (scope : String)
deriving DecidableEq

/-- What the endpoint depends on besides the clients. -/
structure TokenSources where
  hash : String → String
  /-- `SigningKeyService.sign`; none is a `SigningKeyError`. -/
  sign : ClaimSet → Option String
  /-- `limiter.allow`: when a refused key may try again. -/
  limiter : (key : String) → Option ℕ
  /-- `uuid.uuid4()`. -/
  jti : String
  repr : String → String

/-- The credentials: those of the header, else those of the form. -/
def TokenRequest.credentials (request : TokenRequest) : Option (String × String) :=
  let (clientId, clientSecret) :=
    match request.basic with
    | some (clientId, clientSecret) => (some clientId, some clientSecret)
    | none => (request.clientId, request.clientSecret)
  match clientId.filter (· ≠ ""), clientSecret.filter (· ≠ "") with
  | some clientId, some clientSecret => some (clientId, clientSecret)
  | _, _ => none

/-! ### Scopes -/

/-- `f"tenant:{client.tenant_id}"`, of a client with a tenant. -/
def tenantScope (tenantId : Option String) : Option String := tenantId.map ("tenant:" ++ ·)

/-- `_parse_scope_request`. -/
def parseScopeRequest (scope : Option String) (owned : List String) : Option (List String) :=
  match scope.filter (strip · ≠ "") with
  | none => some owned
  | some scope =>
      let requested := (split ' ' scope).filter (· ≠ "")
      if requested = [] then some owned
      else if ∀ s ∈ requested, s ∈ owned then some requested
      else none

/-- The tenant of a client among the scopes of its token; none when another tenant is asked
for. -/
def bindTenant (tenantId : Option String) (requested : List String) : Option (List String) :=
  match tenantScope tenantId with
  | none => some requested
  | some scope =>
      if ∃ s ∈ requested, "tenant:".toList.isPrefixOf s.toList ∧ s ≠ scope then none
      else if scope ∈ requested then some requested
      else some (requested ++ [scope])

/-- The claims of an access token. -/
def accessTokenClaims (settings : Settings) (jti : String) (now : ℕ) (client : OAuthClientRecord)
    (requested : List String) : ClaimSet :=
  [("iss", ClaimValue.str settings.oauthIssuer), ("sub", .str client.clientId),
    ("aud", .str settings.audience), ("exp", .int (now + settings.oauthAccessTokenTtlSeconds)),
    ("iat", .int now), ("nbf", .int now), ("jti", .str jti),
    ("scope", .str (" ".intercalate requested)), ("client_id", .str client.clientId)] ++
    (client.tenantId.map fun tenantId => ("tenant_id", ClaimValue.str tenantId)).toList

/-! ### The endpoint -/

/-- The endpoint behind the authentication of the client. -/
def issueToken (settings : Settings) (sources : TokenSources) (now : ℕ) (scope : Option String)
    (client : OAuthClientRecord) : TokenResponse :=
  match sources.limiter ("oauth:" ++ client.clientId) with
  | some retryAfter => .rateLimited retryAfter
  | none =>
      match parseScopeRequest scope client.scopes with
      | none => .oauthError "invalid_scope" "requested scope is not allowed for this client" 400
      | some requested =>
          match bindTenant client.tenantId requested with
          | none => .oauthError "invalid_scope" "client is bound to a different tenant" 400
          | some requested =>
              match sources.sign (accessTokenClaims settings sources.jti now client requested) with
              | none => .oauthError "server_error" "signing key unavailable" 500
              | some token =>
                  .granted token settings.oauthAccessTokenTtlSeconds (" ".intercalate requested)

/-- `token_endpoint`, with the clients after it. -/
def tokenEndpoint (settings : Settings) (sources : TokenSources) (table : OAuthClientTable)
    (now : ℕ) (request : TokenRequest) : TokenResponse × OAuthClientTable :=
  if request.grantType ≠ "client_credentials" then
    (.oauthError "unsupported_grant_type"
      ("grant_type " ++ sources.repr request.grantType ++ " not supported") 400, table)
  else
    match request.credentials with
    | none => (.oauthError "invalid_client" "client authentication required" 401, table)
    | some (clientId, clientSecret) =>
        let (client, table) :=
          OAuthClientService.authenticate sources.hash table now clientId clientSecret
        match client with
        | none => (.oauthError "invalid_client" "client authentication failed" 401, table)
        | some client => (issueToken settings sources now request.scope client, table)

variable {settings : Settings} {sources : TokenSources} {table : OAuthClientTable} {now : ℕ}
  {request : TokenRequest} {token text : String} {expiresIn : ℕ}

lemma issueToken_granted {scope : Option String} {client : OAuthClientRecord}
    (h : issueToken settings sources now scope client = .granted token expiresIn text) :
    ∃ asked requested, parseScopeRequest scope client.scopes = some asked ∧
      bindTenant client.tenantId asked = some requested ∧
      sources.sign (accessTokenClaims settings sources.jti now client requested) = some token := by
  rw [issueToken] at h
  split at h
  · cases h
  split at h
  · cases h
  rename_i asked hasked
  split at h
  · cases h
  rename_i requested hrequested
  split at h
  · cases h
  rename_i token' hsign
  obtain ⟨rfl, -, -⟩ := TokenResponse.granted.inj h
  exact ⟨asked, requested, hasked, hrequested, hsign⟩

/-- **What an issued token is**: the claims of an authenticated client, with its scopes, signed. -/
theorem tokenEndpoint_granted
    (h : (tokenEndpoint settings sources table now request).1 = .granted token expiresIn text) :
    ∃ clientId clientSecret client asked requested,
      request.credentials = some (clientId, clientSecret) ∧
      (OAuthClientService.authenticate sources.hash table now clientId clientSecret).1 =
        some client ∧
      parseScopeRequest request.scope client.scopes = some asked ∧
      bindTenant client.tenantId asked = some requested ∧
      sources.sign (accessTokenClaims settings sources.jti now client requested) = some token := by
  rw [tokenEndpoint] at h
  split_ifs at h
  split at h
  · cases h
  rename_i clientId clientSecret hcredentials
  dsimp only at h
  split at h
  · cases h
  rename_i client hclient
  obtain ⟨asked, requested, hasked, hrequested, hsign⟩ := issueToken_granted h
  exact ⟨clientId, clientSecret, client, asked, requested, hcredentials, hclient, hasked,
    hrequested, hsign⟩

/-! ### What can be read in a text -/

/-- The scope is a word of the text. -/
def Spells (text scope : String) : Prop := ∃ word ∈ split ' ' text, strip word = scope

instance (text scope : String) : Decidable (Spells text scope) :=
  inferInstanceAs (Decidable (∃ word ∈ split ' ' text, strip word = scope))

/-- The texts that the scopes of a token are read in: what is asked for, or else what stands
between the commas of the registered scopes. -/
def askedTexts (scopes : List String) (scope : Option String) : List String :=
  match scope.filter (strip · ≠ "") with
  | none => scopes.flatMap fun s => (split ',' s).map strip
  | some scope => [scope]

variable {scopes : List String} {scope tenantId : Option String} {asked requested : List String}
  {x : String}

lemma spells_empty : Spells "" x ↔ x = "" := by
  have hsplit : split ' ' "" = [""] := rfl
  rw [Spells, hsplit]
  constructor
  · rintro ⟨word, hword, rfl⟩
    rw [List.mem_singleton.mp hword]
    rfl
  · rintro rfl
    exact ⟨"", List.mem_singleton_self "", rfl⟩

/-- What has been joined spells what its parts spell. -/
lemma spells_join (hx : x ≠ "") :
    Spells (" ".intercalate requested) x ↔ ∃ s ∈ requested, Spells s x := by
  by_cases hnil : requested = []
  · rw [hnil, String.intercalate_nil, spells_empty]
    exact ⟨fun h => absurd h hx, fun ⟨s, hs, _⟩ => absurd hs List.not_mem_nil⟩
  · have hsplit : split ' ' (" ".intercalate requested) = _ := split_intercalate hnil
    rw [Spells, hsplit]
    constructor
    · rintro ⟨word, hword, hstrip⟩
      obtain ⟨s, hs, hword⟩ := List.mem_flatMap.mp hword
      exact ⟨s, hs, word, hword, hstrip⟩
    · rintro ⟨s, hs, word, hword, hstrip⟩
      exact ⟨word, List.mem_flatMap.mpr ⟨s, hs, hword⟩, hstrip⟩

/-- The scopes that are asked for spell what the texts spell. -/
lemma spells_asked (hx : x ≠ "")
    (h : parseScopeRequest scope (parseScopes (serializeScopes scopes)) = some asked) :
    (∃ s ∈ asked, Spells s x) ↔ ∃ s ∈ askedTexts scopes scope, Spells s x := by
  rw [parseScopeRequest] at h
  rw [askedTexts]
  split at h
  · obtain rfl := Option.some.inj h
    constructor
    · rintro ⟨s, hs, hspells⟩
      obtain ⟨-, member, hmember, piece, hpiece, rfl⟩ := mem_parseScopes_serializeScopes.mp hs
      exact ⟨strip piece,
        List.mem_flatMap.mpr ⟨member, hmember, List.mem_map_of_mem hpiece⟩, hspells⟩
    · rintro ⟨s, hs, hspells⟩
      obtain ⟨member, hmember, hs⟩ := List.mem_flatMap.mp hs
      obtain ⟨piece, hpiece, rfl⟩ := List.mem_map.mp hs
      have hne : strip piece ≠ "" := by
        intro hempty
        rw [hempty, spells_empty] at hspells
        exact hx hspells
      exact ⟨strip piece,
        mem_parseScopes_serializeScopes.mpr ⟨hne, member, hmember, piece, hpiece, rfl⟩, hspells⟩
  · rename_i asks hasks
    have hstrip : strip asks ≠ "" := by
      simpa using (Option.filter_eq_some_iff.mp hasks).2
    have hwords : (split ' ' asks).filter (· ≠ "") ≠ [] := by
      intro hnil
      refine hstrip (strip_of_split_empty fun part hpart => ?_)
      simpa using List.filter_eq_nil_iff.mp hnil part hpart
    rw [if_neg hwords] at h
    split_ifs at h
    obtain rfl := Option.some.inj h
    constructor
    · rintro ⟨s, hs, word, hword, hstrip⟩
      have hs := (List.mem_filter.mp hs).1
      rw [split_of_mem_split hs, List.mem_singleton] at hword
      exact ⟨asks, List.mem_singleton_self asks, s, hs, hword ▸ hstrip⟩
    · rintro ⟨s, hs, word, hword, hstrip⟩
      rw [List.mem_singleton.mp hs] at hword
      have hne : word ≠ "" := by
        rintro rfl
        exact hx hstrip.symm
      exact ⟨word, List.mem_filter.mpr ⟨hword, decide_eq_true hne⟩, word,
        by rw [split_of_mem_split hword]; exact List.mem_singleton_self word, hstrip⟩

/-- The tenant of the client comes with them. -/
lemma spells_bindTenant (h : bindTenant tenantId asked = some requested) :
    (∃ s ∈ requested, Spells s x) ↔
      (∃ s ∈ asked, Spells s x) ∨ ∃ s ∈ tenantScope tenantId, Spells s x := by
  rw [bindTenant] at h
  split at h
  · rename_i hnone
    obtain rfl := Option.some.inj h
    rw [hnone]
    simp
  · rename_i own hown
    rw [hown]
    split_ifs at h with hforeign hmem
    · obtain rfl := Option.some.inj h
      constructor
      · exact Or.inl
      · rintro (hasked | ⟨s, hs, hspells⟩)
        · exact hasked
        · exact ⟨own, hmem, by rwa [← Option.some.inj hs] at hspells⟩
    · obtain rfl := Option.some.inj h
      simp [or_and_right, exists_or]

/-! ### The principal of a token -/

/-- PyJWT reads the claims that the service has signed. -/
structure ReadsSigned (jwt : BearerJwt) (sign : ClaimSet → Option String) : Prop where
  unverified : ∀ {claims token}, sign claims = some token → jwt.unverified token = .ok claims
  decode : ∀ {claims token config key claims'}, sign claims = some token →
    jwt.decode config key token = .ok claims' → claims' = claims

/-- The principal of an access token with these scopes. -/
def accessTokenPrincipal (settings : Settings) (jti : String) (now : ℕ)
    (client : OAuthClientRecord) (requested : List String) : TokenPrincipal :=
  JwtResolver.project (settings.selfIssuerConfig settings.oauthIssuer)
    (accessTokenClaims settings jti now client requested)

variable {jwt : BearerJwt} {publicJwks : List Delegations.Jwk} {resolver : JwtResolver}
  {principal : TokenPrincipal} {client : OAuthClientRecord}

/-- The resolver of a service that issues tokens under an issuer of its own. -/
lemma getJwtResolver_self (hserver : settings.oauthAsEnabled) (hissuer : settings.oauthIssuer ≠ "")
    (hown : ∀ config ∈ settings.resourceIssuers, config.issuer ≠ settings.oauthIssuer)
    (h : getJwtResolver settings publicJwks = .ok (some resolver)) :
    resolver.selfIssuer = some settings.oauthIssuer ∧
      resolver.config? settings.oauthIssuer =
        some (settings.selfIssuerConfig settings.oauthIssuer) := by
  have hself : settings.selfIssuer = some settings.oauthIssuer := if_pos hserver
  have hfilter : (some settings.oauthIssuer).filter (· ≠ "") = some settings.oauthIssuer := by
    rw [Option.filter_some, if_pos (decide_eq_true hissuer)]
  have hnew : ¬∃ config ∈ settings.resourceIssuers, config.issuer = settings.oauthIssuer :=
    fun ⟨config, hconfig, heq⟩ => hown config hconfig heq
  rw [getJwtResolver] at h
  simp only [hself, hfilter, if_neg hnew, List.append_eq_nil_iff, List.cons_ne_nil, and_false,
    if_false, Option.isSome_some, if_true] at h
  split_ifs at h
  injection h with h
  obtain rfl := Option.some.inj h
  refine ⟨rfl, ?_⟩
  rw [JwtResolver.config?, List.reverse_append, List.reverse_singleton, List.singleton_append]
  exact List.find?_cons_of_pos (decide_eq_true rfl)

/-- **What an access token resolves to.** -/
theorem resolve_accessToken (hserver : settings.oauthAsEnabled)
    (hissuer : settings.oauthIssuer ≠ "")
    (hown : ∀ config ∈ settings.resourceIssuers, config.issuer ≠ settings.oauthIssuer)
    (hresolver : getJwtResolver settings publicJwks = .ok (some resolver))
    (hreads : ReadsSigned jwt sources.sign)
    (hsign : sources.sign (accessTokenClaims settings sources.jti now client requested) =
      some token)
    (h : resolver.resolve jwt token = .ok principal) :
    principal = accessTokenPrincipal settings sources.jti now client requested := by
  obtain ⟨hself, hconfig⟩ := getJwtResolver_self hserver hissuer hown hresolver
  obtain ⟨issuer, config, claims, hpeek, hconfig', rfl, hverified⟩ := JwtResolver.resolve_eq_ok h
  have hiss : (accessTokenClaims settings sources.jti now client requested).lookup "iss" =
      some (.str settings.oauthIssuer) := rfl
  have hissuer' : issuer = some settings.oauthIssuer := by
    rw [BearerJwt.peekIssuer, hreads.unverified hsign] at hpeek
    injection hpeek with hpeek
    dsimp only at hpeek
    have htruthy : (ClaimValue.str settings.oauthIssuer).truthy = true := decide_eq_true hissuer
    rw [hiss, Option.filter_some, if_pos htruthy] at hpeek
    exact hpeek.symm
  rw [hissuer', Option.getD_some, hconfig] at hconfig'
  obtain rfl := Option.some.inj hconfig'
  rw [if_pos ⟨by rw [hself]; rfl, hissuer'.trans hself.symm⟩] at hverified
  obtain ⟨key, -, hdecode⟩ := hverified
  rw [hreads.decode hsign hdecode]
  rfl

lemma accessTokenPrincipal_tenantId (jti : String) :
    (accessTokenPrincipal settings jti now client requested).tenantId = client.tenantId := by
  have hlookup : (accessTokenClaims settings jti now client requested).lookup "tenant_id" =
      client.tenantId.map ClaimValue.str := by
    rw [accessTokenClaims]
    cases client.tenantId <;> rfl
  have hprincipal : (accessTokenPrincipal settings jti now client requested).tenantId =
      extractTenant (accessTokenClaims settings jti now client requested)
        (settings.selfIssuerConfig settings.oauthIssuer) := rfl
  rw [hprincipal, extractTenant, Settings.selfIssuerConfig]
  simp only [hlookup]
  cases client.tenantId with
  | none => rfl
  | some tenantId => exact congrArg some (String.empty_append)

/-- The scopes of the principal: the internal ones that the claim spells; without any, the
scope of the tenant. -/
lemma mem_accessTokenPrincipal_scopes {jti : String} :
    x ∈ (accessTokenPrincipal settings jti now client requested).scopes ↔
      (isInternalScope x ∧ ∃ s ∈ requested, Spells s x) ∨
        (x ∈ tenantScope client.tenantId ∧
          ∀ y, isInternalScope y → ¬∃ s ∈ requested, Spells s y) := by
  have hne : ∀ {y}, isInternalScope y → y ≠ "" := by
    rintro y hy rfl
    exact absurd hy (by decide)
  have hmap : ∀ y, y ∈ mapScopes (accessTokenClaims settings jti now client requested)
      (settings.selfIssuerConfig settings.oauthIssuer) ↔
        isInternalScope y ∧ ∃ s ∈ requested, Spells s y := by
    intro y
    have hscopes : mapScopes (accessTokenClaims settings jti now client requested)
        (settings.selfIssuerConfig settings.oauthIssuer) =
        collectScopes [] [] (split ' ' (" ".intercalate requested)) := rfl
    rw [hscopes, mem_collectScopes]
    constructor
    · rintro (h | ⟨word, hword, -, rfl, hinternal⟩)
      · cases h
      · exact ⟨hinternal, (spells_join (hne hinternal)).mp ⟨word, hword, rfl⟩⟩
    · rintro ⟨hinternal, hspells⟩
      obtain ⟨word, hword, rfl⟩ := (spells_join (hne hinternal)).mpr hspells
      exact Or.inr ⟨word, hword, hne hinternal, rfl, hinternal⟩
  have htenant := @accessTokenPrincipal_tenantId settings now requested client jti
  rw [accessTokenPrincipal, JwtResolver.project] at htenant ⊢
  dsimp only at htenant ⊢
  rw [htenant]
  cases client.tenantId with
  | none => simp [hmap, tenantScope]
  | some tenant =>
      dsimp only
      split_ifs with hnil
      · have hnone : ∀ y, isInternalScope y → ¬∃ s ∈ requested, Spells s y := by
          intro y hinternal hspells
          have hy := (hmap y).mpr ⟨hinternal, hspells⟩
          rw [hnil] at hy
          cases hy
        rw [List.mem_singleton]
        constructor
        · rintro rfl
          exact Or.inr ⟨rfl, hnone⟩
        · rintro (⟨hinternal, hspells⟩ | ⟨htenant, -⟩)
          · exact absurd hspells (hnone x hinternal)
          · exact (Option.some.inj htenant).symm
      · obtain ⟨y, hy⟩ := List.exists_mem_of_ne_nil _ hnil
        obtain ⟨hinternal, hspells⟩ := (hmap y).mp hy
        rw [hmap]
        exact ⟨Or.inl, fun h => h.resolve_right fun h => h.2 y hinternal hspells⟩

/-! ### Attenuation -/

/-- The principal of a client that was issued with these scopes and this tenant has gained
nothing. -/
structure Attenuated (scopes : List String) (tenantId : Option String)
    (principal : TokenPrincipal) : Prop where
  contained : ∀ x ∈ principal.scopes, x ∈ scopes.map strip ∨ x ∈ tenantScope tenantId
  pinned : ∀ tenant ∈ tenantId, principal.tenantId = some tenant
  gained : ∀ x ∈ principal.scopes,
    x = "admin" ∨ x = "runtime" ∨ ("tenant:".toList.isPrefixOf x.toList ∧ x ∉ tenantScope tenantId) →
      x ∈ scopes

/-- An internal scope that is no scope of the client, but a word of a text its token's scopes
are read in. -/
def Hidden (scopes : List String) (tenantId scope : Option String) (x : String) : Prop :=
  isInternalScope x ∧ x ∉ scopes ∧ x ∉ tenantScope tenantId ∧
    ((∃ s ∈ askedTexts scopes scope, Spells s x) ∨ ∃ s ∈ tenantScope tenantId, Spells s x)

lemma isInternalScope_cases (h : isInternalScope x) :
    x = "admin" ∨ x = "runtime" ∨ "tenant:".toList.isPrefixOf x.toList := by
  rw [isInternalScope, Bool.or_eq_true, Bool.or_eq_true, beq_iff_eq, beq_iff_eq, or_assoc] at h
  refine h.imp_right (Or.imp_right fun htenant => ?_)
  rw [isTenantScope, Bool.and_eq_true, Bool.and_eq_true, beq_iff_eq] at htenant
  rw [List.isPrefixOf_iff_prefix, ← htenant.1.1]
  exact List.take_prefix 7 x.toList

lemma strip_of_spells {s : String} (h : Spells s x) : strip x = x := by
  obtain ⟨word, -, rfl⟩ := h
  exact strip_strip word

/-- A tenant's scope is neither of the other two. -/
lemma tenantScope_ne (h : x ∈ tenantScope tenantId) : x ≠ "admin" ∧ x ≠ "runtime" := by
  obtain ⟨tenant, -, rfl⟩ := Option.map_eq_some_iff.mp h
  have hhead : ("tenant:" ++ tenant).toList.head? = some 't' := by
    rw [String.toList_append]
    rfl
  constructor
  · intro heq
    rw [heq] at hhead
    cases hhead
  · intro heq
    rw [heq] at hhead
    cases hhead

/-- The principal has gained nothing exactly when its scopes are scopes of the client, or its
tenant's. -/
lemma attenuated_iff
    (hasked : parseScopeRequest scope (parseScopes (serializeScopes scopes)) = some asked)
    (hbound : bindTenant client.tenantId asked = some requested) {jti : String} :
    Attenuated scopes client.tenantId
        (accessTokenPrincipal settings jti now client requested) ↔
      ∀ x, ¬Hidden scopes client.tenantId scope x := by
  have hne : ∀ {y}, isInternalScope y → y ≠ "" := by
    rintro y hy rfl
    exact absurd hy (by decide)
  -- the internal scopes of the claim are the ones the texts spell
  have hspells : ∀ {y}, isInternalScope y → ((∃ s ∈ requested, Spells s y) ↔
      (∃ s ∈ askedTexts scopes scope, Spells s y) ∨
        ∃ s ∈ tenantScope client.tenantId, Spells s y) := by
    intro y hinternal
    rw [spells_bindTenant hbound, spells_asked (hne hinternal) hasked]
  constructor
  · rintro h x ⟨hinternal, hscopes, htenant, htexts⟩
    have hx : x ∈ (accessTokenPrincipal settings jti now client requested).scopes :=
      mem_accessTokenPrincipal_scopes.mpr (Or.inl ⟨hinternal, (hspells hinternal).mpr htexts⟩)
    refine hscopes (h.gained x hx ?_)
    exact (isInternalScope_cases hinternal).imp_right (Or.imp_right fun hbegins =>
      ⟨hbegins, htenant⟩)
  · intro h
    have hmem : ∀ x ∈ (accessTokenPrincipal settings jti now client requested).scopes,
        (x ∈ scopes ∧ strip x = x) ∨ x ∈ tenantScope client.tenantId := by
      intro x hx
      rcases mem_accessTokenPrincipal_scopes.mp hx with ⟨hinternal, htexts⟩ | ⟨htenant, -⟩
      · by_cases htenant : x ∈ tenantScope client.tenantId
        · exact Or.inr htenant
        · by_cases hscopes : x ∈ scopes
          · obtain ⟨s, -, hs⟩ := htexts
            exact Or.inl ⟨hscopes, strip_of_spells hs⟩
          · exact absurd ⟨hinternal, hscopes, htenant, (hspells hinternal).mp htexts⟩ (h x)
      · exact Or.inr htenant
    refine ⟨fun x hx => ?_, fun tenant htenant => ?_, fun x hx hgained => ?_⟩
    · exact (hmem x hx).imp_left fun ⟨hscopes, hstrip⟩ => hstrip ▸ List.mem_map_of_mem hscopes
    · rw [accessTokenPrincipal_tenantId]
      exact htenant
    · rcases hmem x hx with ⟨hscopes, -⟩ | htenant
      · exact hscopes
      · rcases hgained with hadmin | hruntime | ⟨-, hforeign⟩
        · exact absurd hadmin (tenantScope_ne htenant).1
        · exact absurd hruntime (tenantScope_ne htenant).2
        · exact absurd htenant hforeign

variable {table' : OAuthClientTable} {draw : OAuthClientService.Draw} {name : String}
  {expiresAt : Option ℕ} {clientId : Option String} {record : OAuthClientRecord}

/-- **Scopes are only attenuated exactly when none is hidden**: of a client that was issued with
some scopes and a tenant, whatever happened to the clients since, the principal that a token
resolves to has gained nothing exactly when no internal scope that is not the client's is a word
of a text that its token's scopes are read in. -/
theorem scopes_attenuated
    (hissue : OAuthClientService.issue sources.hash table draw name scopes tenantId expiresAt
      clientId = some (record, table'))
    (operations : List OAuthClientService.Operation)
    (hgranted : (tokenEndpoint settings sources
      (OAuthClientService.run sources.hash table' operations) now request).1 =
      .granted token expiresIn text)
    (hclient : request.credentials.map Prod.fst = some record.clientId)
    (hserver : settings.oauthAsEnabled) (hissuer : settings.oauthIssuer ≠ "")
    (hown : ∀ config ∈ settings.resourceIssuers, config.issuer ≠ settings.oauthIssuer)
    (hresolver : getJwtResolver settings publicJwks = .ok (some resolver))
    (hreads : ReadsSigned jwt sources.sign)
    (hresolve : resolver.resolve jwt token = .ok principal) :
    Attenuated scopes tenantId principal ↔ ∀ x, ¬Hidden scopes tenantId request.scope x := by
  obtain ⟨asClient, clientSecret, client, asked, requested, hcredentials, hauthenticated, hasked,
    hbound, hsign⟩ := tokenEndpoint_granted hgranted
  rw [hcredentials] at hclient
  obtain rfl : asClient = record.clientId := Option.some.inj hclient
  have hregistered : (OAuthClientService.run sources.hash table' operations).Registered
      record.clientId scopes tenantId :=
    OAuthClientService.registered_run operations (OAuthClientService.registered_issue hissue)
  obtain ⟨-, hscopes, rfl⟩ := OAuthClientService.authenticate_registered hregistered hauthenticated
  rw [hscopes] at hasked
  rw [resolve_accessToken hserver hissuer hown hresolver hreads hsign hresolve]
  exact attenuated_iff hasked hbound

section Examples

namespace TokenEndpoint

/-- A service that issues tokens. -/
def issuing : Settings := ⟨false, [], true, "https://authz", "", 900, [], false, false⟩

/-- The claims of a token with these scopes. -/
def signedClaims (scope : String) (tenantId : Option String) : ClaimSet :=
  [("iss", ClaimValue.str "https://authz"), ("sub", .str "oc_1"), ("aud", .str "https://authz"),
    ("exp", .int 1000), ("iat", .int 100), ("nbf", .int 100), ("jti", .str "jti"),
    ("scope", .str scope), ("client_id", .str "oc_1")] ++
    (tenantId.map fun tenantId => ("tenant_id", ClaimValue.str tenantId)).toList

/-- A service that signs these claims. -/
def signing (claims : ClaimSet) : TokenSources where
  hash := id
  sign := fun claims' => if claims' = claims then some "token" else none
  limiter := fun _ => none
  jti := "jti"
  repr := id

/-- PyJWT, for the token of these claims. -/
def reading (claims : ClaimSet) : BearerJwt where
  getUnverifiedHeader := fun _ => .ok ⟨some "JWT", some "kid"⟩
  unverified := fun _ => .ok claims
  validate := fun _ _ => .error ""
  decode := fun _ _ _ => .ok claims

lemma reading_signing (claims : ClaimSet) : ReadsSigned (reading claims) (signing claims).sign := by
  have hsigned : ∀ {claims' token}, (signing claims).sign claims' = some token →
      claims' = claims := by
    intro claims' token h
    rw [signing] at h
    dsimp only at h
    split_ifs at h with heq
    exact heq
  refine ⟨fun h => ?_, fun h hdecode => ?_⟩
  · rw [hsigned h]
    rfl
  · rw [hsigned h]
    injection hdecode with hdecode
    exact hdecode.symm

/-- The client with one text as its scopes. -/
def registered (scope : String) (tenantId : Option String) : OAuthClient :=
  ⟨"id", "oc_1", "secret", "pep", scope, tenantId, "active", none, none⟩

lemma issue_registered {scope : String} (h : scope ≠ "") (tenantId : Option String) :
    OAuthClientService.issue id ⟨[], List.nodup_nil⟩ ⟨"id", "oc_1", "secret"⟩ "pep" [scope] tenantId
      none none =
      some ((registered scope tenantId).toRecord,
        ⟨[registered scope tenantId], List.nodup_singleton _⟩) := by
  rw [OAuthClientService.issue, serializeScopes_singleton h]
  rfl

/-- A request for all scopes of the client. -/
def allScopes : TokenRequest := ⟨"client_credentials", none, some "oc_1", some "secret", none⟩

end TokenEndpoint

open TokenEndpoint in
/-- A token of a runtime client has the scope `runtime`. -/
theorem scopes_attenuated_runtime :
    Attenuated ["runtime"] none ⟨"https://authz", "oc_1", some "oc_1", ["runtime"], none⟩ := by
  have hhidden : ∀ x, ¬Hidden ["runtime"] none allScopes.scope x := by
    rintro x ⟨-, hscopes, -, ⟨s, hs, word, hword, rfl⟩ | ⟨s, hs, -⟩⟩
    · have htexts : askedTexts ["runtime"] none = ["runtime"] := by decide +kernel
      have hsplit : split ' ' "runtime" = ["runtime"] := by decide +kernel
      have hstrip : strip "runtime" = "runtime" := by decide +kernel
      obtain rfl : s = "runtime" := List.mem_singleton.mp (htexts ▸ hs)
      obtain rfl : word = "runtime" := List.mem_singleton.mp (hsplit ▸ hword)
      exact hscopes (hstrip ▸ List.mem_singleton_self _)
    · cases hs
  have hissue := issue_registered (by decide : "runtime" ≠ "") none
  have hgranted : (tokenEndpoint issuing (signing (signedClaims "runtime" none))
      (OAuthClientService.run id ⟨[registered "runtime" none], List.nodup_singleton _⟩ []) 100
      allScopes).1 = .granted "token" 900 "runtime" := by decide +kernel
  have hresolver : getJwtResolver issuing [⟨some "kid", ""⟩] =
      .ok (some ⟨[issuing.selfIssuerConfig "https://authz"], some "https://authz",
        [⟨some "kid", ""⟩]⟩) := rfl
  exact (scopes_attenuated hissue [] hgranted rfl rfl (by decide) nofun hresolver
    (reading_signing (signedClaims "runtime" none)) (by decide +kernel)).mpr hhidden

open TokenEndpoint in
/-- A client of the tenant `acme` with a blank in its scope resolves to a principal of another
tenant. -/
theorem blank_in_scope_gains_tenant :
    ∃ (sources : TokenSources) (jwt : BearerJwt) (resolver : JwtResolver)
      (record : OAuthClientRecord) (table' : OAuthClientTable) (token text : String)
      (principal : TokenPrincipal),
      OAuthClientService.issue sources.hash ⟨[], List.nodup_nil⟩ ⟨"id", "oc_1", "secret"⟩ "pep"
        ["runtime tenant:other"] (some "acme") none none = some (record, table') ∧
      (tokenEndpoint issuing sources table' 100 allScopes).1 = .granted token 900 text ∧
      getJwtResolver issuing [⟨some "kid", ""⟩] = .ok (some resolver) ∧
      ReadsSigned jwt sources.sign ∧ resolver.resolve jwt token = .ok principal ∧
      "tenant:other" ∈ principal.scopes ∧
      ¬Attenuated ["runtime tenant:other"] (some "acme") principal := by
  have hgranted : (tokenEndpoint issuing
      (signing (signedClaims "runtime tenant:other tenant:acme" (some "acme")))
      ⟨[registered "runtime tenant:other" (some "acme")], List.nodup_singleton _⟩ 100
      allScopes).1 =
      .granted "token" 900 "runtime tenant:other tenant:acme" := by decide +kernel
  refine ⟨_, reading (signedClaims "runtime tenant:other tenant:acme" (some "acme")),
    ⟨[issuing.selfIssuerConfig "https://authz"], some "https://authz", [⟨some "kid", ""⟩]⟩,
    _, _, _, _, ⟨"https://authz", "oc_1", some "oc_1", ["runtime", "tenant:other", "tenant:acme"],
      some "acme"⟩, issue_registered (by decide) (some "acme"), hgranted, rfl,
    reading_signing _, by decide +kernel, by decide, fun h => ?_⟩
  have hgained := h.gained "tenant:other" (by decide) (by decide +kernel)
  exact absurd hgained (by decide)

end Examples

end AuthzKit
