import AuthzKit.Security.ClientRuns
import AuthzKit.Service.BasicAuth

/-!
Runs of the authorization server: the clients are managed, and ask for tokens.

* `TokenServer.Moment`: a call of `OAuthClientService` or of `POST /oauth/token`, with its time.
* `answer_granted_iff`: which requests are answered with a token, from the calls before.
* `token_backed`: the client of a token that is accepted was good for it a short time ago.
-/

namespace AuthzKit

/-! ### The endpoint -/

variable {settings : Settings} {sources : TokenSources} {table : OAuthClientTable} {now : ℕ}
  {request : TokenRequest} {token text : String} {expiresIn : ℕ}

/-- The token of a client. -/
structure Issued (settings : Settings) (sources : TokenSources) (now : ℕ) (scope : Option String)
    (client : OAuthClientRecord) (requested : List String) (token : String) : Prop where
  allowed : sources.limiter ("oauth:" ++ client.clientId) = none
  bound : ∃ asked, parseScopeRequest scope client.scopes = some asked ∧
    bindTenant client.tenantId asked = some requested
  signed : sources.sign (accessTokenClaims settings sources.jti now client requested) = some token

/-- `issueToken` answers with a token exactly when there is one. -/
lemma issueToken_granted_iff {scope : Option String} {client : OAuthClientRecord} :
    issueToken settings sources now scope client = .granted token expiresIn text ↔
      ∃ requested, Issued settings sources now scope client requested token ∧
        expiresIn = settings.oauthAccessTokenTtlSeconds ∧ text = " ".intercalate requested := by
  rw [issueToken]
  constructor
  · intro h
    split at h
    · cases h
    rename_i hlimiter
    split at h
    · cases h
    rename_i asked hasked
    split at h
    · cases h
    rename_i requested hrequested
    split at h
    · cases h
    rename_i token' hsign
    obtain ⟨rfl, rfl, rfl⟩ := TokenResponse.granted.inj h
    exact ⟨requested, ⟨hlimiter, ⟨asked, hasked, hrequested⟩, hsign⟩, rfl, rfl⟩
  · rintro ⟨requested, ⟨hlimiter, ⟨asked, hasked, hrequested⟩, hsign⟩, rfl, rfl⟩
    rw [hlimiter]
    dsimp only
    rw [hasked]
    dsimp only
    rw [hrequested]
    dsimp only
    rw [hsign]

/-- So does the endpoint, of an authenticated client. -/
lemma tokenEndpoint_granted_iff :
    (tokenEndpoint settings sources table now request).1 = .granted token expiresIn text ↔
      request.grantType = "client_credentials" ∧ ∃ clientId clientSecret client,
        request.credentials = some (clientId, clientSecret) ∧
        (OAuthClientService.authenticate sources.hash table now clientId clientSecret).1 =
          some client ∧
        issueToken settings sources now request.scope client = .granted token expiresIn text := by
  rw [tokenEndpoint]
  constructor
  · intro h
    split_ifs at h with hgrant
    split at h
    · cases h
    rename_i clientId clientSecret hcredentials
    dsimp only at h
    split at h
    · cases h
    rename_i client hclient
    exact ⟨not_not.mp hgrant, clientId, clientSecret, client, hcredentials, hclient, h⟩
  · rintro ⟨hgrant, clientId, clientSecret, client, hcredentials, hclient, h⟩
    rw [if_neg (not_not.mpr hgrant), hcredentials]
    dsimp only
    rw [hclient]
    exact h

/-! ### Runs -/

namespace TokenServer

/-- What a request draws: the id of the token, the key that signs, the rate limiter. -/
structure Draw where
  sign : ClaimSet → Option String
  limiter : (key : String) → Option ℕ
  jti : String

inductive Event where
  | manage (operation : OAuthClientService.Operation)
  | request (draw : Draw) (request : TokenRequest)

structure Moment where
  time : ℕ
  event : Event

variable (settings : Settings) (hash repr : String → String)

/-- What the endpoint depends on in a request. -/
def Draw.tokenSources (draw : Draw) : TokenSources where
  hash
  sign := draw.sign
  limiter := draw.limiter
  jti := draw.jti
  repr

/-- The clients after a moment. -/
def step (table : OAuthClientTable) (moment : Moment) : OAuthClientTable :=
  match moment.event with
  | .manage operation => OAuthClientService.apply hash table operation
  | .request draw request =>
      (tokenEndpoint settings (draw.tokenSources hash repr) table moment.time request).2

/-- The clients after a run. -/
def clients (moments : List Moment) : OAuthClientTable :=
  moments.foldl (step settings hash repr) OAuthClientTable.empty

/-- The answer to a request after a run. -/
def answer (before : List Moment) (now : ℕ) (draw : Draw) (request : TokenRequest) :
    TokenResponse :=
  (tokenEndpoint settings (draw.tokenSources hash repr) (clients settings hash repr before) now
    request).1

/-- The call of `OAuthClientService` that a moment makes. -/
def Moment.operation? (moment : Moment) : Option OAuthClientService.Operation :=
  match moment.event with
  | .manage operation => some operation
  | .request _ request =>
      if request.grantType = "client_credentials" then
        request.credentials.map fun (clientId, clientSecret) =>
          .authenticate moment.time clientId clientSecret
      else none

/-- The calls of a run. -/
def operations (moments : List Moment) : List OAuthClientService.Operation :=
  moments.filterMap Moment.operation?

variable {settings hash repr} {moment : Moment} {before moments : List Moment} {draw : Draw}

/-- A moment does to the clients what its call does. -/
lemma step_eq : step settings hash repr table moment =
    moment.operation?.elim table (OAuthClientService.apply hash table) := by
  rw [step, Moment.operation?]
  cases moment.event with
  | manage operation => rfl
  | request draw request =>
      dsimp only
      rw [tokenEndpoint]
      by_cases hgrant : request.grantType = "client_credentials"
      · rw [if_pos hgrant, if_neg (not_not.mpr hgrant)]
        cases request.credentials with
        | none => rfl
        | some credentials =>
            rw [Option.map_some, Option.elim_some]
            dsimp only
            split <;> rfl
      · rw [if_neg hgrant, if_pos hgrant]
        rfl

/-- The clients are what the calls make of them. -/
lemma clients_eq :
    clients settings hash repr moments = OAuthClientService.after hash (operations moments) := by
  rw [clients, OAuthClientService.after, OAuthClientService.run, operations,
    List.foldl_filterMap]
  congr 1
  funext table moment
  rw [step_eq]
  cases moment.operation? <;> rfl

/-- The request presents the client id and the secret, in the header if that has credentials and
in its form otherwise. -/
def Presents (request : TokenRequest) (header : Option String) (clientId clientSecret : String) :
    Prop :=
  clientId ≠ "" ∧ clientSecret ≠ "" ∧
    (parseBasicAuth header = some (clientId, clientSecret) ∨
      parseBasicAuth header = none ∧ request.clientId = some clientId ∧
        request.clientSecret = some clientSecret)

lemma credentials_eq_some_iff {header : Option String} {clientId clientSecret : String} :
    (request.withHeader header).credentials = some (clientId, clientSecret) ↔
      Presents request header clientId clientSecret := by
  rw [TokenRequest.credentials, TokenRequest.withHeader, Presents]
  cases parseBasicAuth header with
  | some credentials =>
      obtain ⟨cid, secret⟩ := credentials
      grind [Option.filter]
  | none => cases request.clientId <;> cases request.clientSecret <;> grind [Option.filter]

/-- **Which requests are answered with a token**: those that present the last secret of a client
that was issued in the run, and has neither been revoked nor expired, for scopes that the client
has and that name no other tenant, when the limiter has room and there is a key to sign with. -/
theorem answer_granted_iff {header : Option String} :
    answer settings hash repr before now draw (request.withHeader header) =
        .granted token expiresIn text ↔
      request.grantType = "client_credentials" ∧ ∃ clientId clientSecret issuance requested,
        Presents request header clientId clientSecret ∧
        OAuthClientService.Admits hash (operations before) now clientId clientSecret issuance ∧
        Issued settings (draw.tokenSources hash repr) now request.scope (issuance.record now)
          requested token ∧
        expiresIn = settings.oauthAccessTokenTtlSeconds ∧ text = " ".intercalate requested := by
  rw [answer, tokenEndpoint_granted_iff, clients_eq]
  simp only [credentials_eq_some_iff]
  refine and_congr_right fun _ => ?_
  constructor
  · rintro ⟨clientId, clientSecret, client, hcredentials, hclient, hissue⟩
    obtain ⟨issuance, hadmits, rfl⟩ := OAuthClientService.authenticate_eq_some_iff.mp hclient
    obtain ⟨requested, hissued⟩ := issueToken_granted_iff.mp hissue
    exact ⟨clientId, clientSecret, issuance, requested, hcredentials, hadmits, hissued⟩
  · rintro ⟨clientId, clientSecret, issuance, requested, hcredentials, hadmits, hissued⟩
    exact ⟨clientId, clientSecret, issuance.record now, hcredentials,
      OAuthClientService.authenticate_eq_some_iff.mpr ⟨issuance, hadmits, rfl⟩,
      issueToken_granted_iff.mpr ⟨requested, hissued⟩⟩

/-! ### Tokens that are accepted -/

/-- PyJWT refuses a token whose time ended before the leeway. -/
def RefusesExpired (jwt : BearerJwt) (leeway now : ℕ) : Prop :=
  ∀ config key token claims (expires : ℤ), jwt.decode config key token = .ok claims →
    claims.lookup "exp" = some (.int expires) → (now : ℤ) < expires + leeway

/-- An issuance is the call of a moment of the run. -/
lemma issuance_split {issuance : OAuthClientService.Issuance} {clientId : String}
    {since : List OAuthClientService.Operation}
    (h : OAuthClientService.IssuedBy hash (operations before) clientId issuance since) :
    ∃ earlier registeredAt between,
      before = earlier ++ ⟨registeredAt, .manage issuance.operation⟩ :: between ∧
      operations between = since := by
  obtain ⟨⟨first, hsplit, -⟩, -⟩ := h
  obtain ⟨earlier, rest, rfl, -, hrest⟩ := List.filterMap_eq_append_iff.mp hsplit
  obtain ⟨idle, moment, between, rfl, -, hmoment, hbetween⟩ := List.filterMap_eq_cons_iff.mp hrest
  obtain ⟨registeredAt, event⟩ := moment
  have hevent : event = .manage issuance.operation := by
    rw [Moment.operation?] at hmoment
    cases event with
    | manage operation => rw [Option.some.inj hmoment]
    | request draw request =>
        dsimp only at hmoment
        split_ifs at hmoment
        obtain ⟨credentials, -, hcall⟩ := Option.map_eq_some_iff.mp hmoment
        cases hcall
  exact ⟨earlier ++ idle, registeredAt, between, by rw [hevent, List.append_assoc], hbetween⟩

/-- The claims that are read of an access token. -/
lemma accessTokenPrincipal_clientId {client : OAuthClientRecord} {requested : List String}
    {jti : String} (h : client.clientId ≠ "") :
    (accessTokenPrincipal settings jti now client requested).clientId = some client.clientId := by
  have hclaim : (accessTokenClaims settings jti now client requested).lookup "client_id" =
      some (.str client.clientId) := rfl
  have htruthy : (ClaimValue.str client.clientId).truthy = true := decide_eq_true h
  rw [accessTokenPrincipal, JwtResolver.project, hclaim, Option.filter_some, if_pos htruthy,
    Option.some_or]
  rfl

lemma clientId_ne_of_credentials {clientId secret : String}
    (h : request.credentials = some (clientId, secret)) : clientId ≠ "" := by
  rw [TokenRequest.credentials] at h
  dsimp only at h
  split at h
  · rename_i hclientId hsecret
    obtain ⟨rfl, -⟩ := Prod.mk.inj (Option.some.inj h)
    exact of_decide_eq_true (Option.filter_eq_some_iff.mp hclientId).2
  · cases h

variable {later between : List Moment} {issuedAt leeway : ℕ} {jwt : BearerJwt}
  {resolver : JwtResolver} {publicJwks : List Delegations.Jwk} {principal : TokenPrincipal}

/-- An access token that is accepted has been decoded. -/
lemma resolve_decodes {jti : String} {client : OAuthClientRecord} {requested : List String}
    {sign : ClaimSet → Option String}
    (hserver : settings.oauthAsEnabled) (hissuer : settings.oauthIssuer ≠ "")
    (hown : ∀ config ∈ settings.resourceIssuers, config.issuer ≠ settings.oauthIssuer)
    (hresolver : getJwtResolver settings publicJwks = .ok (some resolver))
    (hreads : ReadsSigned jwt sign)
    (hsign : sign (accessTokenClaims settings jti issuedAt client requested) = some token)
    (hresolve : resolver.resolve jwt token = .ok principal) :
    ∃ config key, jwt.decode config key token =
      .ok (accessTokenClaims settings jti issuedAt client requested) := by
  obtain ⟨issuer, config, claims, hpeek, -, -, hverified⟩ := JwtResolver.resolve_eq_ok hresolve
  have hself := (getJwtResolver_self hserver hissuer hown hresolver).1
  have hiss : (accessTokenClaims settings jti issuedAt client requested).lookup "iss" =
      some (.str settings.oauthIssuer) := rfl
  have htruthy : (ClaimValue.str settings.oauthIssuer).truthy = true := decide_eq_true hissuer
  rw [BearerJwt.peekIssuer, hreads.unverified hsign] at hpeek
  injection hpeek with hpeek
  dsimp only at hpeek
  rw [hiss, Option.filter_some, if_pos htruthy] at hpeek
  rw [if_pos ⟨by rw [hself]; rfl, hpeek.symm.trans hself.symm⟩] at hverified
  obtain ⟨key, -, hdecode⟩ := hverified
  exact ⟨config, key, hreads.decode hsign hdecode ▸ hdecode⟩

/-- What stands behind a token that is accepted, when tokens are accepted for `lifetime`. -/
structure Backed (hash : String → String) (before later : List Moment)
    (issuedAt lifetime now : ℕ) (request : TokenRequest) (principal : TokenPrincipal)
    (issuance : OAuthClientService.Issuance) (secret : String) (between : List Moment) :
    Prop where
  registered : ∃ earlier registeredAt,
    before = earlier ++ ⟨registeredAt, .manage issuance.operation⟩ :: between
  presented : request.credentials = some (issuance.clientId, secret)
  current : hash secret = hash (OAuthClientService.secretAfter issuance.clientId
    issuance.draw.clientSecret (operations between))
  clientId : principal.clientId = some issuance.clientId
  tenantId : principal.tenantId = issuance.tenantId
  recent : now < issuedAt + lifetime
  revoked : ∀ moment ∈ between ++ later,
    moment.event = .manage (.revoke issuance.clientId) → now < moment.time + lifetime
  expires : ∀ expires ∈ issuance.expiresAt, now < expires + lifetime

/-- **A token outlives what it was issued for by less than its lifetime**: it stands for a client
that was issued with its tenant and whose secret was presented for it, and where the client has
been revoked, or has expired, that was less than the lifetime ago. -/
theorem token_backed
    (hsorted : (before ++ ⟨issuedAt, .request draw request⟩ :: later).Pairwise
      (·.time ≤ ·.time))
    (hgranted : answer settings hash repr before issuedAt draw request =
      .granted token expiresIn text)
    (hserver : settings.oauthAsEnabled) (hissuer : settings.oauthIssuer ≠ "")
    (hown : ∀ config ∈ settings.resourceIssuers, config.issuer ≠ settings.oauthIssuer)
    (hresolver : getJwtResolver settings publicJwks = .ok (some resolver))
    (hreads : ReadsSigned jwt draw.sign) (hexpired : RefusesExpired jwt leeway now)
    (hresolve : resolver.resolve jwt token = .ok principal) :
    ∃ issuance secret between,
      Backed hash before later issuedAt (settings.oauthAccessTokenTtlSeconds + leeway) now request
        principal issuance secret between := by
  rw [answer, tokenEndpoint_granted_iff, clients_eq] at hgranted
  obtain ⟨-, clientId, secret, client, hcredentials, hclient, hissue⟩ := hgranted
  obtain ⟨issuance, ⟨⟨since, hby, hsecret, hrevoke⟩, hunexpired⟩, rfl⟩ :=
    OAuthClientService.authenticate_eq_some_iff.mp hclient
  obtain ⟨requested, hissued, -, -⟩ := issueToken_granted_iff.mp hissue
  obtain ⟨earlier, registeredAt, between, hsplit, rfl⟩ := issuance_split hby
  obtain rfl : issuance.clientId = clientId := hby.id
  have hprincipal := resolve_accessToken hserver hissuer hown hresolver hreads hissued.signed
    hresolve
  obtain ⟨config, key, hdecode⟩ :=
    resolve_decodes hserver hissuer hown hresolver hreads hissued.signed hresolve
  have hrecent : now < issuedAt + (settings.oauthAccessTokenTtlSeconds + leeway) := by
    have htime := hexpired config key token _ _ hdecode rfl
    omega
  refine ⟨issuance, secret, between, ⟨earlier, registeredAt, hsplit⟩, hcredentials, hsecret,
    ?_, ?_, hrecent, ?_, ?_⟩
  · rw [hprincipal]
    exact accessTokenPrincipal_clientId (clientId_ne_of_credentials hcredentials)
  · rw [hprincipal]
    exact accessTokenPrincipal_tenantId _
  · intro moment hmoment hevent
    rcases List.mem_append.mp hmoment with hbetween | hlater
    · refine absurd (List.mem_filterMap.mpr ⟨moment, hbetween, ?_⟩) hrevoke
      rw [Moment.operation?, hevent]
    · have htime : issuedAt ≤ moment.time :=
        List.rel_of_pairwise_cons (List.pairwise_append.mp hsorted).2.1 hlater
      omega
  · intro expires hexpires
    have htime := hunexpired expires hexpires
    omega

section Examples

open TokenEndpoint

/-- A client without a tenant is issued at 50. -/
def issuesPep : OAuthClientService.Issuance :=
  ⟨⟨"id", "oc_1", "secret"⟩, "pep", ["runtime"], none, none, none⟩

/-- It asks for a token at 100. -/
def asksPep : Draw := ⟨(signing (signedClaims "runtime" none)).sign, fun _ => none, "jti"⟩

/-- It is revoked at 150; its token is accepted at 200. -/
theorem token_backed_revoked : ∃ issuance secret between,
    Backed id [⟨50, .manage issuesPep.operation⟩] [⟨150, .manage (.revoke "oc_1")⟩] 100 (900 + 30)
      200 allScopes ⟨"https://authz", "oc_1", some "oc_1", ["runtime"], none⟩ issuance secret
      between := by
  have hgranted : answer issuing id id [⟨50, .manage issuesPep.operation⟩] 100 asksPep allScopes =
      .granted "token" 900 "runtime" := by decide +kernel
  have hresolver : getJwtResolver issuing [⟨some "kid", ""⟩] =
      .ok (some ⟨[issuing.selfIssuerConfig "https://authz"], some "https://authz",
        [⟨some "kid", ""⟩]⟩) := rfl
  have hexpired : RefusesExpired (reading (signedClaims "runtime" none)) 30 200 := by
    intro config key token claims expires hdecode hclaim
    injection hdecode with hdecode
    rw [← hdecode] at hclaim
    obtain rfl : (1000 : ℤ) = expires := ClaimValue.int.inj (Option.some.inj hclaim)
    decide
  exact token_backed (by simp) hgranted rfl (by decide) (by decide) hresolver
    (reading_signing (signedClaims "runtime" none)) hexpired (by decide +kernel)

end Examples

end TokenServer

end AuthzKit
