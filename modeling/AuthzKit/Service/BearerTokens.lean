import AuthzKit.Security.JwtValidation
import AuthzKit.Service.Callers

/-!
Bearer tokens of configured issuers, with everything that may be raised on the way: `JwtResolver`
of `authzkit/security/oauth_resource.py` over `JWTValidator`, and the part of `require_caller`
that asks it.

* `ResourceResolver.resolve`: the principal of a token and its claims, and the cache after it.
* `resolve_refines`: where nothing but a `JWTValidationError` is raised, `JwtResolver.resolve` says
  the same.
* `OneFailureMode`: a token is refused as documented, or it has been checked in full;
  `oneFailureMode_iff` says when.
-/

namespace AuthzKit

open Delegations Text

/-! ### Configuration -/

/-- `IssuerConfig`, with everything that is read of it. -/
structure ResourceIssuer where
  issuer : String
  audience : List String
  jwksUrl : Option String
  algorithms : List String
  leewaySeconds : ℤ
  scopeClaim : String
  scopeSeparator : Option String
  scopeMap : List (String × String)
  tenantClaim : Option String
  tenantPrefix : String
deriving DecidableEq

namespace ResourceIssuer

/-- The `JWTValidatorConfig` that `JwtResolver.__init__` makes. -/
def validatorConfig (config : ResourceIssuer) : JwtValidatorConfig where
  issuer := config.issuer
  audience := some config.audience
  jwksUrl := config.jwksUrl
  algorithms := config.algorithms
  leewaySeconds := config.leewaySeconds

/-- The part that is read after the signature check, with the first letter of the separator. -/
def issuerConfig (config : ResourceIssuer) : IssuerConfig where
  issuer := config.issuer
  audience := config.audience
  scopeClaim := config.scopeClaim
  scopeSeparator := config.scopeSeparator.bind fun sep => sep.toList.head?
  scopeMap := config.scopeMap
  tenantClaim := config.tenantClaim
  tenantPrefix := config.tenantPrefix

/-- `_map_scopes`: a text cannot be split at an empty separator. -/
def mapScopes (config : ResourceIssuer) (claims : ClaimSet) : Except Raised (List String) :=
  match claims.lookup config.scopeClaim with
  | none => .ok []
  | some (.str value) =>
      match config.scopeSeparator with
      | none => .ok (collectScopes config.scopeMap [] [value])
      | some sep =>
          if sep = "" then .error .valueError
          else .ok (collectScopes config.scopeMap [] (value.splitOn sep))
  | some raw => .ok (collectScopes config.scopeMap [] (scopeTokens raw none))

/-- The principal of verified claims, with the scopes they map to. -/
def principal (config : ResourceIssuer) (claims : ClaimSet) (scopes : List String) :
    TokenPrincipal :=
  let tenantId := extractTenant claims config.issuerConfig
  let scopes :=
    match tenantId with
    | some tenant => if scopes = [] then ["tenant:" ++ tenant] else scopes
    | none => scopes
  let clientId :=
    (((claims.lookup "client_id").filter ClaimValue.truthy).or
      ((claims.lookup "azp").filter ClaimValue.truthy)).map ClaimValue.text
  let subject := (((claims.lookup "sub").filter ClaimValue.truthy).map ClaimValue.text).getD ""
  { issuer := config.issuer, subject, clientId, scopes, tenantId }

/-- The end of `resolve`. -/
def project (config : ResourceIssuer) (claims : ClaimSet) : Except Raised TokenPrincipal :=
  (config.mapScopes claims).map (config.principal claims)

/-- The scope claim is no text, or there is something to split it at. -/
def Splits (config : ResourceIssuer) (claims : ClaimSet) : Prop :=
  config.scopeSeparator = some "" → ∀ value, claims.lookup config.scopeClaim ≠ some (.str value)

variable {config : ResourceIssuer} {claims : ClaimSet}

/-- Scopes are found, or the separator is empty. -/
lemma mapScopes_cases (config : ResourceIssuer) (claims : ClaimSet) :
    config.Splits claims ∧ (∃ scopes, config.mapScopes claims = .ok scopes) ∨
      ¬config.Splits claims ∧ config.mapScopes claims = .error .valueError := by
  rw [mapScopes, Splits]
  cases claims.lookup config.scopeClaim with
  | none => simp
  | some raw =>
      cases raw with
      | str value =>
          cases config.scopeSeparator with
          | none => simp
          | some sep =>
              by_cases hempty : sep = ""
              · simp [hempty]
              · simp [hempty]
      | int value => simp
      | bool value => simp
      | list members => simp
      | other text truthy => simp

/-- A principal is made of the claims exactly if the scope claim can be split. -/
lemma ends_project {Q : TokenPrincipal → Prop} :
    Ends Q Raised.Documented (config.project claims) ↔
      config.Splits claims ∧ ∃ principal, config.project claims = .ok principal ∧ Q principal := by
  rw [project]
  rcases config.mapScopes_cases claims with ⟨hsplits, scopes, hscopes⟩ | ⟨hnot, herror⟩
  · rw [hscopes, and_iff_right hsplits]
    refine ⟨fun h => ⟨_, rfl, h⟩, ?_⟩
    rintro ⟨principal, hprincipal, h⟩
    rw [hprincipal]
    exact h
  · rw [herror]
    exact iff_of_false not_documented_valueError fun h => hnot h.1

/-- **The scopes of a separator of one letter** are those that `mapScopes` finds. -/
lemma mapScopes_eq (hsep : ∀ sep ∈ config.scopeSeparator, ∃ c, sep = String.singleton c) :
    config.mapScopes claims = .ok (AuthzKit.mapScopes claims config.issuerConfig) := by
  rw [mapScopes, AuthzKit.mapScopes]
  have hclaim : config.issuerConfig.scopeClaim = config.scopeClaim := rfl
  rw [hclaim]
  cases claims.lookup config.scopeClaim with
  | none => rfl
  | some raw =>
      cases raw with
      | str value =>
          rw [issuerConfig]
          cases hseparator : config.scopeSeparator with
          | none => rfl
          | some sep =>
              obtain ⟨c, rfl⟩ := hsep sep hseparator
              have hne : String.singleton c ≠ "" := by simp
              simp only [if_neg hne, splitOn_singleton]
              simp [scopeTokens]
      | int value => rfl
      | bool value => rfl
      | list members => rfl
      | other text truthy => rfl

end ResourceIssuer

/-! ### Resolving a token -/

/-- `JwtResolver`, with what `self_jwks_provider` returns, if there is one. -/
structure ResourceResolver where
  issuers : List ResourceIssuer
  selfIssuer : Option String
  selfJwks : Option Jwks
  jwksTtl : ℤ

namespace ResourceResolver

variable {PublicKey : Type} (lib : Libraries PublicKey) (r : ResourceResolver)

/-- `self._configs.get(issuer)`: of two configs for an issuer, the last one. -/
def config? (issuer : String) : Option ResourceIssuer :=
  r.issuers.reverse.find? (·.issuer = issuer)

/-- The `JWTValidator` of the external issuers. -/
def validator : JwtValidator where
  configs := (r.issuers.filter fun config => some config.issuer ≠ r.selfIssuer).map
    ResourceIssuer.validatorConfig
  jwksTtl := r.jwksTtl

/-- `_reject_delegation_token`. -/
def rejectDelegationToken (token : String) : Except Raised Unit := do
  let header ← (lib.getUnverifiedHeader token).mapError
    fun e => .jwtValidationError ("malformed token: " ++ e)
  if header.typ = some delegationTokenType then
    .error (.jwtValidationError "delegation grants are not access tokens")
  else .ok ()

/-- The `iss` claim of a payload, if it is truthy. -/
def issuerClaim (payload : ClaimSet) : Option String :=
  ((payload.lookup "iss").filter ClaimValue.truthy).map ClaimValue.text

/-- `_peek_issuer`. -/
def peekIssuer (token : String) : Except Raised (Option String) :=
  ((lib.unverified token).mapError fun e => .jwtValidationError ("malformed token: " ++ e)).map
    issuerClaim

/-- `_validate_self_issued`. -/
def validateSelfIssued (token : String) (config : ResourceIssuer) (wallClock : ℤ) :
    Except Raised ClaimSet :=
  match r.selfJwks with
  | none => .error (.jwtValidationError "self-issuer configured without JWKS provider")
  | some jwks => do
      let header ← (lib.getUnverifiedHeader token).mapError
        fun e => .jwtValidationError ("malformed token: " ++ e)
      match ← selectKey jwks header.kid with
      | none =>
          .error (.jwtValidationError
            ("no self-issued key matches kid=" ++ header.kid.getD "None"))
      | some key =>
          let publicKey ← (lib.pyJwk key).mapError .pyJwtError
          (lib.decode
            { token, key := publicKey, algorithms := config.algorithms,
              audience := if config.audience = [] then none else some config.audience,
              issuer := config.issuer, leeway := config.leewaySeconds, wallClock }).mapError
            fun e => .jwtValidationError ("invalid self-issued token: " ++ e)

/-- The claims of a token, checked by the path its issuer takes. -/
def verified (token : String) (issuer : Option String) (config : ResourceIssuer)
    (input : ValidateInput) (cache : JwksCache) : Except Raised ClaimSet × JwksCache :=
  if r.selfIssuer.isSome ∧ issuer = r.selfIssuer then
    (r.validateSelfIssued lib token config input.wallClock, cache)
  else r.validator.validate lib token (some config.issuer) input cache

/-- `resolve`: the principal with its claims, and the cache after the call. -/
def resolve (token : String) (input : ValidateInput) (cache : JwksCache) :
    Except Raised (TokenPrincipal × ClaimSet) × JwksCache :=
  match rejectDelegationToken lib token with
  | .error e => (.error e, cache)
  | .ok () =>
      match peekIssuer lib token with
      | .error e => (.error e, cache)
      | .ok issuer =>
          match r.config? (issuer.getD "") with
          | none =>
              (.error (.jwtValidationError ("unknown issuer: " ++ issuer.getD "None")), cache)
          | some config =>
              match r.verified lib token issuer config input cache with
              | (.error e, cache) => (.error e, cache)
              | (.ok claims, cache) =>
                  ((config.project claims).map fun principal => (principal, claims), cache)

/-- The token names a configured issuer that is not this service. -/
def External (token : String) (config : ResourceIssuer) : Prop :=
  ∃ payload, lib.unverified token = .ok payload ∧
    r.config? ((issuerClaim payload).getD "") = some config ∧ some config.issuer ≠ r.selfIssuer

variable {lib r} {token : String} {config : ResourceIssuer} {input : ValidateInput}
  {cache : JwksCache}

lemma config?_issuer {issuer : String} (h : r.config? issuer = some config) :
    config.issuer = issuer := by simpa using List.find?_some h

/-- The validator has the config of an external issuer. -/
lemma validator_config? (h : r.config? config.issuer = some config)
    (hexternal : some config.issuer ≠ r.selfIssuer) :
    r.validator.config? config.issuer = some config.validatorConfig := by
  have hfind : (fun other : ResourceIssuer => decide (decide (some other.issuer ≠ r.selfIssuer) =
      true ∧ decide (other.issuer = config.issuer) = true)) =
      fun other : ResourceIssuer => decide (other.issuer = config.issuer) := by
    funext other
    by_cases hissuer : other.issuer = config.issuer
    · simp [hissuer, hexternal]
    · simp [hissuer]
  have hcomp : ((fun other : JwtValidatorConfig => decide (other.issuer = config.issuer)) ∘
      ResourceIssuer.validatorConfig) =
      fun other : ResourceIssuer => decide (other.issuer = config.issuer) := rfl
  rw [JwtValidator.config?, validator, ← List.map_reverse, List.find?_map, hcomp,
    ← List.filter_reverse, List.find?_filter, hfind]
  rw [config?] at h
  rw [h]
  rfl

/-- What `validate` of the validator does with a token that the resolver hands on. -/
lemma validate_external {header : Header} (hheader : lib.getUnverifiedHeader token = .ok header)
    (h : r.config? config.issuer = some config) (hexternal : some config.issuer ≠ r.selfIssuer) :
    r.validator.validate lib token (some config.issuer) input cache =
      r.validator.validateFor lib config.validatorConfig header.kid token input cache := by
  have hconfig := validator_config? h hexternal
  have hof : r.validator.configOf (some (.str config.issuer)) =
      .ok (some config.validatorConfig) := by
    rw [JwtValidator.configOf]
    by_cases hempty : config.issuer = ""
    · simp [ClaimValue.truthy, Option.filter, hempty, ← hconfig]
    · simp [ClaimValue.truthy, Option.filter, hempty, hconfig]
  rw [JwtValidator.validate, JwtValidator.route, hheader]
  simp only [mapError_ok, bind, Except.bind, hof]

/-- An external issuer is not the one of this service. -/
lemma not_self {issuer : Option String} (h : r.config? (issuer.getD "") = some config)
    (hexternal : some config.issuer ≠ r.selfIssuer) :
    ¬(r.selfIssuer.isSome ∧ issuer = r.selfIssuer) := by
  rintro ⟨hsome, hself⟩
  obtain ⟨self, hself'⟩ := Option.isSome_iff_exists.mp hsome
  have hissuer := config?_issuer h
  rw [hself, hself', Option.getD_some] at hissuer
  exact hexternal (hself'.trans (congrArg some hissuer.symm)).symm

/-- What `resolve` returns or raises for a token of an external issuer. -/
lemma resolve_external (h : r.External lib token config) :
    (r.resolve lib token input cache).1 =
      (lib.getUnverifiedHeader token).mapError
        (fun e => .jwtValidationError ("malformed token: " ++ e)) >>= fun header =>
      if header.typ = some delegationTokenType then
        .error (.jwtValidationError "delegation grants are not access tokens")
      else (r.validator.validateFor lib config.validatorConfig header.kid token input cache).1 >>=
        fun claims => (config.project claims).map fun principal => (principal, claims) := by
  obtain ⟨payload, hpayload, hconfig, hexternal⟩ := h
  have hissuer := config?_issuer hconfig
  have hpeek : peekIssuer lib token = .ok (issuerClaim payload) := by
    rw [peekIssuer, hpayload]
    rfl
  have hnot := not_self hconfig hexternal
  rw [resolve, rejectDelegationToken]
  cases hheader : lib.getUnverifiedHeader token with
  | error e => rfl
  | ok header =>
      simp only [mapError_ok, bind, Except.bind]
      split_ifs with htyp
      · rfl
      · rw [← hissuer] at hconfig
        simp only [hpeek, hissuer ▸ hconfig, verified, if_neg hnot,
          validate_external hheader hconfig hexternal]
        cases r.validator.validateFor lib config.validatorConfig header.kid token input cache with
        | mk result cache' => cases result <;> rfl

/-! ### The resolver without its exceptions -/

/-- The text of a `JWTValidationError`. -/
def textOf : Raised → String
  | .jwtValidationError text => text
  | _ => ""

/-- PyJWT and the keys of the external issuers, as `JwtResolver` uses them: it is not said which
exception is raised. -/
def bearerJwt (lib : Libraries PublicKey) (r : ResourceResolver) (input : ValidateInput)
    (cache : JwksCache) (decode : IssuerConfig → Jwk → String → Except String ClaimSet) :
    BearerJwt where
  getUnverifiedHeader := lib.getUnverifiedHeader
  unverified := lib.unverified
  validate := fun config token =>
    (r.validator.validate lib token (some config.issuer) input cache).1.mapError textOf
  decode := decode

/-- The issuers and keys that `JwtResolver` knows of. -/
def jwtResolver (r : ResourceResolver) (selfJwks : List Jwk) : JwtResolver where
  issuers := r.issuers.map ResourceIssuer.issuerConfig
  selfIssuer := r.selfIssuer
  selfJwks := selfJwks

/-- **`JwtResolver.resolve` is `resolve`**, up to what is raised, for a separator of one letter. -/
theorem resolve_refines (h : r.External lib token config)
    (hsep : ∀ sep ∈ config.scopeSeparator, ∃ c, sep = String.singleton c) (selfJwks : List Jwk)
    (decode : IssuerConfig → Jwk → String → Except String ClaimSet) :
    (r.jwtResolver selfJwks).resolve (r.bearerJwt lib input cache decode) token =
      ((r.resolve lib token input cache).1.map Prod.fst).mapError textOf := by
  rw [resolve_external h, JwtResolver.resolve]
  obtain ⟨payload, hpayload, hconfig, hexternal⟩ := h
  have hissuer := config?_issuer hconfig
  have hheaders : (r.bearerJwt lib input cache decode).getUnverifiedHeader token =
      lib.getUnverifiedHeader token := rfl
  have hunverified : (r.bearerJwt lib input cache decode).unverified token =
      lib.unverified token := rfl
  have hpeek : (r.bearerJwt lib input cache decode).peekIssuer token =
      .ok (issuerClaim payload) := by
    rw [BearerJwt.peekIssuer, hunverified, hpayload]
    rfl
  have hconfig' : (r.jwtResolver selfJwks).config? ((issuerClaim payload).getD "") =
      some config.issuerConfig := by
    rw [JwtResolver.config?, jwtResolver, ← List.map_reverse, List.find?_map]
    rw [config?] at hconfig
    exact congrArg (Option.map ResourceIssuer.issuerConfig) hconfig
  have hnot : ¬((r.jwtResolver selfJwks).selfIssuer.isSome ∧
      issuerClaim payload = (r.jwtResolver selfJwks).selfIssuer) := not_self hconfig hexternal
  rw [hheaders]
  cases hheader : lib.getUnverifiedHeader token with
  | error e => rfl
  | ok header =>
      simp only [hpeek, hconfig', mapError_ok, bind, Except.bind]
      split_ifs with htyp
      · rfl
      · rw [← hissuer] at hconfig
        have hvalidate : (r.bearerJwt lib input cache decode).validate config.issuerConfig token =
            ((r.validator.validateFor lib config.validatorConfig header.kid token input
              cache).1).mapError textOf := by
          rw [← validate_external hheader hconfig hexternal]
          rfl
        rw [JwtResolver.verified, if_neg hnot, hvalidate]
        cases (r.validator.validateFor lib config.validatorConfig header.kid token input cache).1 with
        | error e => rfl
        | ok claims =>
            simp only [ResourceIssuer.project, ResourceIssuer.mapScopes_eq hsep]
            rfl

end ResourceResolver

/-! ### A resolver -/

/-- An identity provider whose keys are discovered. -/
def idp : ResourceIssuer where
  issuer := "https://idp.example"
  audience := ["authz"]
  jwksUrl := none
  algorithms := ["RS256", "ES256"]
  leewaySeconds := 30
  scopeClaim := "scope"
  scopeSeparator := none
  scopeMap := []
  tenantClaim := none
  tenantPrefix := ""

/-- A resolver of its tokens. -/
def idpResolver : ResourceResolver where
  issuers := [idp]
  selfIssuer := some "https://authz.example"
  selfJwks := some []
  jwksTtl := 600

lemma external_idpToken :
    idpResolver.External (SignedJwt.libraries [idpToken]) idpToken.text idp :=
  ⟨idpToken.claims, rfl, rfl, by decide⟩

/-! ### One failure mode -/

/-- **The claims carry a verified signature, issuer, audience and expiry.** -/
structure Verified {PublicKey : Type} (lib : Libraries PublicKey) (spec : Verification PublicKey)
    (config : ResourceIssuer) (token : String) (input : ValidateInput) (cache : JwksCache)
    (claims : ClaimSet) : Prop where
  signature : ∃ header jwks key publicKey, lib.getUnverifiedHeader token = .ok header ∧
    lib.Reads config.validatorConfig header.kid input cache jwks ∧
    jwks.key? header.kid = some key ∧ lib.pyJwk key = .ok publicKey ∧
    spec.signs publicKey config.algorithms token claims
  issuer : claims.lookup "iss" = some (.str config.issuer)
  audience : ∃ audience ∈ config.audience, hasAudience claims audience = true
  expiry : ∃ value exp, claims.lookup "exp" = some value ∧ spec.int value = some exp ∧
    input.wallClock - config.leewaySeconds < exp

/-- What `require_caller` makes of the outcome of `resolve`. -/
def bearerCaller : Except Raised TokenPrincipal → Except Raised (Except HttpException Caller)
  | .ok principal => .ok (.ok (.token principal))
  | .error (.jwtValidationError text) => .ok (.error (bearer401 text))
  | .error e => .error e

/-- A principal, or a 401. -/
def Answered (outcome : Except Raised (Except HttpException Caller)) : Prop :=
  (∃ principal, outcome = .ok (.ok (.token principal))) ∨
    ∃ text, outcome = .ok (.error (bearer401 text))

/-- **One failure mode**: `resolve` returns a principal of verified claims or raises a
`JWTValidationError`, and `require_caller` answers with a principal or a 401. -/
def OneFailureMode {PublicKey : Type} (lib : Libraries PublicKey) (spec : Verification PublicKey)
    (r : ResourceResolver) (config : ResourceIssuer) (token : String) (input : ValidateInput)
    (cache : JwksCache) : Prop :=
  Ends (fun result => config.project result.2 = .ok result.1 ∧
      Verified lib spec config token input cache result.2)
    Raised.Documented (r.resolve lib token input cache).1 ∧
  Answered (bearerCaller ((r.resolve lib token input cache).1.map Prod.fst))

section

variable {PublicKey : Type} {lib : Libraries PublicKey} {spec : Verification PublicKey}
  {r : ResourceResolver} {config : ResourceIssuer} {token : String} {input : ValidateInput}
  {cache : JwksCache}

/-- `require_caller` answers when nothing but a `JWTValidationError` is raised. -/
lemma answered_of_ends {α : Type} {Q : TokenPrincipal × α → Prop}
    {outcome : Except Raised (TokenPrincipal × α)} (h : Ends Q Raised.Documented outcome) :
    Answered (bearerCaller (outcome.map Prod.fst)) := by
  cases outcome with
  | ok result => exact Or.inl ⟨result.1, rfl⟩
  | error e =>
      obtain ⟨text, rfl⟩ := h
      exact Or.inr ⟨text, rfl⟩

/-- Claims that were validated are verified exactly if there is an expiry. -/
lemma verified_iff (hchecks : lib.Checks spec) {header : Header}
    (hheader : lib.getUnverifiedHeader token = .ok header) {v : JwtValidator} {claims : ClaimSet}
    (h : (v.validateFor lib config.validatorConfig header.kid token input cache).1 = .ok claims) :
    Verified lib spec config token input cache claims ↔ (claims.lookup "exp").isSome := by
  obtain ⟨jwks, key, hreads, -, hkey, hdecode⟩ := JwtValidator.validateFor_eq_ok h
  obtain ⟨publicKey, hpublicKey, hdecode⟩ := bind_eq_ok_iff.mp hdecode
  have hpublicKey := mapError_eq_ok_iff.mp hpublicKey
  have hdecode := mapError_eq_ok_iff.mp hdecode
  constructor
  · rintro ⟨-, -, -, value, exp, hvalue, -⟩
    rw [hvalue]
    rfl
  · intro hexp
    obtain ⟨value, hvalue⟩ := Option.isSome_iff_exists.mp hexp
    obtain ⟨exp, hint, hfresh⟩ := hchecks.expiry _ _ hdecode value hvalue
    exact ⟨⟨header, jwks, key, publicKey, hheader, hreads, hkey, hpublicKey,
      hchecks.signature _ _ hdecode⟩, hchecks.issuer _ _ hdecode,
      hchecks.audience _ _ hdecode _ rfl, value, exp, hvalue, hint, hfresh⟩

/-- **When a token of an external issuer has one failure mode**: whatever the cache holds and the
endpoints answer, exactly when nothing goes wrong on its way, accepted claims have an expiry, and
the scope claim can be split. -/
theorem oneFailureMode_iff (hchecks : lib.Checks spec) (h : r.External lib token config) :
    OneFailureMode lib spec r config token input cache ↔
      ∀ header, lib.getUnverifiedHeader token = .ok header →
        header.typ ≠ some delegationTokenType →
        lib.Orderly config.validatorConfig header.kid token input cache fun claims =>
          (claims.lookup "exp").isSome ∧ config.Splits claims := by
  rw [OneFailureMode, and_iff_left_of_imp answered_of_ends,
    ResourceResolver.resolve_external h, ends_bind, ends_mapError]
  simp only [documented_jwtValidationError, ends_true_iff]
  refine forall_congr' fun header => forall_congr' fun hheader => ?_
  by_cases htyp : header.typ = some delegationTokenType
  · simp [htyp]
  · rw [if_neg htyp, ends_bind, forall_prop_of_true htyp, ← JwtValidator.ends_validateFor]
    refine Ends.congr_ok fun claims hclaims => ?_
    rw [ends_map, ResourceIssuer.ends_project]
    simp only [verified_iff hchecks hheader hclaims]
    constructor
    · rintro ⟨hsplits, principal, -, -, hexp⟩
      exact ⟨hexp, hsplits⟩
    · rintro ⟨hexp, hsplits⟩
      obtain ⟨scopes, hscopes⟩ := ((config.mapScopes_cases claims).resolve_right
        fun hnot => hnot.1 hsplits).2
      refine ⟨hsplits, _, congrArg (Except.map _) hscopes, congrArg (Except.map _) hscopes, hexp⟩

/-- A token that is accepted with the key that is fetched for it. -/
theorem oneFailureMode_idpToken :
    OneFailureMode (SignedJwt.libraries [idpToken]) (SignedJwt.verification [idpToken]) idpResolver
      idp idpToken.text ⟨served idpJwks 0, unreachable 0, 0⟩ fun _ => none := by
  refine (oneFailureMode_iff (SignedJwt.checks_libraries _) external_idpToken).mpr ?_
  intro header hheader _
  obtain rfl := Except.ok.inj hheader
  refine (JwtValidator.ends_validateFor (v := idpResolver.validator)).mp ?_
  have hclaims : (idpResolver.validator.validateFor (SignedJwt.libraries [idpToken])
      idp.validatorConfig idpToken.header.kid idpToken.text
      ⟨served idpJwks 0, unreachable 0, 0⟩ fun _ => none).1 = .ok idpToken.claims := by decide +kernel
  rw [hclaims]
  exact ⟨rfl, nofun⟩

/-- An issuer that cannot be reached: the transport error of `httpx` is not turned into a
`JWTValidationError`, and no 401 is answered. -/
theorem idp_unreachable :
    (SignedJwt.libraries [idpToken]).Checks (SignedJwt.verification [idpToken]) ∧
      idpResolver.External (SignedJwt.libraries [idpToken]) idpToken.text idp ∧
      ¬OneFailureMode (SignedJwt.libraries [idpToken]) (SignedJwt.verification [idpToken])
        idpResolver idp idpToken.text ⟨unreachable 0, unreachable 0, 0⟩ fun _ => none := by
  refine ⟨SignedJwt.checks_libraries _, external_idpToken, ?_⟩
  rintro ⟨hends, -⟩
  have hresolve : (idpResolver.resolve (SignedJwt.libraries [idpToken]) idpToken.text
      ⟨unreachable 0, unreachable 0, 0⟩ fun _ => none).1 =
        .error (.httpxError "connection refused") := by decide +kernel
  rw [hresolve] at hends
  exact not_documented_httpxError _ hends

/-- **`require_caller` hands on what `resolve` says**: where nothing but a `JWTValidationError` is
raised, a request with the token of an external issuer is answered so. -/
theorem requireCaller_external {settings : Settings} {sources : CallerSources}
    {table : ApiKeyTable} {now : ℕ} {request : HttpRequest} {selfJwks : List Jwk}
    {decode : IssuerConfig → Jwk → String → Except String ClaimSet}
    (h : r.External lib token config)
    (hsep : ∀ sep ∈ config.scopeSeparator, ∃ c, sep = String.singleton c)
    (hjwt : sources.jwt = r.bearerJwt lib input cache decode)
    (hresolver : getJwtResolver settings sources.publicJwks = .ok (some (r.jwtResolver selfJwks)))
    (hbypass : devBypassActive settings table (some (r.jwtResolver selfJwks)) = false)
    (hcredential : extractCredential request.authorization request.xApiKey = some (.jwt, token))
    {Q : TokenPrincipal × ClaimSet → Prop}
    (hends : Ends Q Raised.Documented (r.resolve lib token input cache).1) :
    bearerCaller ((r.resolve lib token input cache).1.map Prod.fst) =
      .ok (requireCaller settings sources table now request).1 := by
  rw [requireCaller, hresolver]
  dsimp only
  rw [if_neg (by simp [hbypass]), hcredential]
  dsimp only
  rw [hjwt, ResourceResolver.resolve_refines h hsep]
  cases hresolve : (r.resolve lib token input cache).1 with
  | ok result => rfl
  | error e =>
      rw [hresolve] at hends
      obtain ⟨text, rfl⟩ := hends
      rfl

end

end AuthzKit
