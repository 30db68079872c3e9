import AuthzKit.Security.Delegations
import AuthzKit.Text.Words

/-!
`JwtResolver` of `authzkit/security/oauth_resource.py`: a bearer JWT is checked and its claims
are mapped onto scopes, a tenant, and the identity of the caller.

PyJWT and the keys of the external issuers are a parameter (`BearerJwt`).

* `mapScopes`, `extractTenant`: the claims in the terms of this service;
  `mem_collectScopes` says which scopes come out.
* `JwtResolver.resolve`: the principal of a token; `resolve_eq_ok` says what a token that
  passed is.
-/

namespace AuthzKit

open Delegations Text

/-- The value of a claim. -/
inductive ClaimValue where
  | str (value : String)
  | int (value : ℤ)
  | bool (value : Bool)
  /-- A list, by the `str` and the `repr` of its members. -/
  | list (members : List (String × String))
  /-- Anything else, by its text and its truth value; a null is an absent claim. -/
  | other (text : String) (truthy : Bool)
deriving DecidableEq, Repr

/-- `str(value)`. -/
def ClaimValue.text : ClaimValue → String
  | .str value => value
  | .int value => toString value
  | .bool value => if value then "True" else "False"
  | .list members => "[" ++ ", ".intercalate (members.map Prod.snd) ++ "]"
  | .other text _ => text

/-- `bool(value)`. -/
def ClaimValue.truthy : ClaimValue → Bool
  | .str value => value ≠ ""
  | .int value => value ≠ 0
  | .bool value => value
  | .list members => members ≠ []
  | .other _ truthy => truthy

/-- A decoded payload. -/
abbrev ClaimSet := List (String × ClaimValue)

/-- `IssuerConfig`, as far as it is read after the signature check. -/
structure IssuerConfig where
  issuer : String
  audience : List String
  scopeClaim : String
  scopeSeparator : Option Char
  scopeMap : List (String × String)
  tenantClaim : Option String
  tenantPrefix : String
deriving DecidableEq, Repr

/-- `TokenPrincipal`; its claims are read by nobody after this. The client is only asked for its
truth value before it is written out, so that one that is not true is none. -/
structure TokenPrincipal where
  issuer : String
  subject : String
  clientId : Option String
  scopes : List String
  tenantId : Option String
deriving DecidableEq, Repr

/-! ### Scopes and tenants -/

/-- The letters of `[A-Za-z0-9_\-:]`. -/
def isTenantScopeLetter (c : Char) : Bool := c.isAlphanum || c == '_' || c == '-' || c == ':'

/-- `_TENANT_SCOPE_RE.match`; its `$` also matches before a line feed at the end. -/
def isTenantScope (value : String) : Bool :=
  let rest := value.toList.drop 7
  let id := if rest.getLast? = some '\n' then rest.dropLast else rest
  value.toList.take 7 == "tenant:".toList && id != [] && id.all isTenantScopeLetter

/-- The scopes a mapped token may have. -/
def isInternalScope (value : String) : Bool :=
  value == "admin" || value == "runtime" || isTenantScope value

/-- The texts of the scope claim. -/
def scopeTokens (raw : ClaimValue) (scopeSeparator : Option Char) : List String :=
  match raw with
  | .str value =>
      match scopeSeparator with
      | none => [value]
      | some sep => split sep value
  | .list members => members.map Prod.fst
  | raw => [raw.text]

/-- The loop of `_map_scopes`. -/
def collectScopes (scopeMap : List (String × String)) : List String → List String → List String
  | mapped, [] => mapped
  | mapped, token :: tokens =>
      let token := strip token
      if token = "" then collectScopes scopeMap mapped tokens
      else
        let mappedValue := (scopeMap.lookup token).getD token
        if mappedValue ∈ mapped then collectScopes scopeMap mapped tokens
        else if isInternalScope mappedValue then
          collectScopes scopeMap (mapped ++ [mappedValue]) tokens
        else collectScopes scopeMap mapped tokens

/-- `_map_scopes`. -/
def mapScopes (claims : ClaimSet) (config : IssuerConfig) : List String :=
  match claims.lookup config.scopeClaim with
  | none => []
  | some raw => collectScopes config.scopeMap [] (scopeTokens raw config.scopeSeparator)

/-- `_extract_tenant`; a `bool` is an `int`. -/
def extractTenant (claims : ClaimSet) (config : IssuerConfig) : Option String :=
  match config.tenantClaim with
  | none => none
  | some claim =>
      match claims.lookup claim with
      | some (.str value) => some (config.tenantPrefix ++ value)
      | some (.int value) => some (config.tenantPrefix ++ toString value)
      | some (.bool value) => some (config.tenantPrefix ++ (ClaimValue.bool value).text)
      | _ => none

lemma mem_collectScopes {scopeMap : List (String × String)} {mapped tokens : List String}
    {scope : String} :
    scope ∈ collectScopes scopeMap mapped tokens ↔
      scope ∈ mapped ∨ ∃ token ∈ tokens, strip token ≠ "" ∧
        scope = (scopeMap.lookup (strip token)).getD (strip token) ∧ isInternalScope scope := by
  induction tokens generalizing mapped with
  | nil => simp [collectScopes]
  | cons token tokens ih =>
      rw [collectScopes]
      simp only [List.exists_mem_cons_iff]
      split_ifs with hempty hseen hinternal
      · rw [ih]
        simp [hempty]
      · rw [ih]
        constructor
        · rintro (h | h)
          · exact Or.inl h
          · exact Or.inr (Or.inr h)
        · rintro (h | ⟨-, rfl, -⟩ | h)
          · exact Or.inl h
          · exact Or.inl hseen
          · exact Or.inr h
      · rw [ih, List.mem_append, List.mem_singleton, or_assoc]
        refine or_congr_right (or_congr_left ⟨?_, fun h => h.2.1⟩)
        rintro rfl
        exact ⟨hempty, rfl, hinternal⟩
      · rw [ih]
        refine or_congr_right ⟨Or.inr, ?_⟩
        rintro (⟨-, rfl, h⟩ | h)
        · exact absurd h hinternal
        · exact h

/-! ### Tokens -/

/-- PyJWT, and the keys of the external issuers as `JWTValidator` fetches them. -/
structure BearerJwt where
  /-- `jwt.get_unverified_header`. -/
  getUnverifiedHeader : (token : String) → Except String Header
  /-- `jwt.decode` without verification. -/
  unverified : (token : String) → Except String ClaimSet
  /-- `JWTValidator.validate` for the issuer of a config. -/
  validate : IssuerConfig → (token : String) → Except String ClaimSet
  /-- `jwt.decode` with one key. -/
  decode : IssuerConfig → Jwk → (token : String) → Except String ClaimSet

/-- `_peek_issuer`. -/
def BearerJwt.peekIssuer (jwt : BearerJwt) (token : String) : Except String (Option String) :=
  (jwt.unverified token).map fun payload =>
    ((payload.lookup "iss").filter ClaimValue.truthy).map ClaimValue.text

/-- `JwtResolver`, with the keys `self_jwks_provider` returns. -/
structure JwtResolver where
  issuers : List IssuerConfig
  selfIssuer : Option String
  selfJwks : List Jwk
deriving DecidableEq

namespace JwtResolver

/-- What `__init__` refuses: a self-issuer that is also configured in another way. -/
def Collides (issuers : List IssuerConfig) (selfIssuer : String) : Prop :=
  ∃ config ∈ issuers, config.issuer = selfIssuer ∧
    (config.scopeClaim ≠ "scope" ∨ config.tenantClaim ≠ some "tenant_id" ∨ config.scopeMap ≠ [])

instance (issuers : List IssuerConfig) (selfIssuer : String) :
    Decidable (Collides issuers selfIssuer) :=
  inferInstanceAs (Decidable (∃ config ∈ issuers, _ ∧ _))

/-- `self._configs.get(issuer)`: of two configs for an issuer, the last one. -/
def config? (resolver : JwtResolver) (issuer : String) : Option IssuerConfig :=
  resolver.issuers.reverse.find? (·.issuer = issuer)

variable (jwt : BearerJwt) (resolver : JwtResolver)

/-- `_validate_self_issued`. -/
def validateSelfIssued (token : String) (config : IssuerConfig) : Except String ClaimSet :=
  match jwt.getUnverifiedHeader token with
  | .error e => .error ("malformed token: " ++ e)
  | .ok header =>
      match resolver.selfJwks.find? (·.kid = header.kid) with
      | none => .error ("no self-issued key matches kid=" ++ header.kid.getD "None")
      | some key =>
          match jwt.decode config key token with
          | .error e => .error ("invalid self-issued token: " ++ e)
          | .ok claims => .ok claims

/-- The claims of a token, checked by the path its issuer takes. -/
def verified (token : String) (issuer : Option String) (config : IssuerConfig) :
    Except String ClaimSet :=
  if resolver.selfIssuer.isSome ∧ issuer = resolver.selfIssuer then
    resolver.validateSelfIssued jwt token config
  else jwt.validate config token

/-- What `resolve` makes of verified claims. -/
def project (config : IssuerConfig) (claims : ClaimSet) : TokenPrincipal :=
  let scopes := mapScopes claims config
  let tenantId := extractTenant claims config
  let scopes :=
    match tenantId with
    | some tenant => if scopes = [] then ["tenant:" ++ tenant] else scopes
    | none => scopes
  let clientId :=
    (((claims.lookup "client_id").filter ClaimValue.truthy).or
      ((claims.lookup "azp").filter ClaimValue.truthy)).map ClaimValue.text
  let subject := (((claims.lookup "sub").filter ClaimValue.truthy).map ClaimValue.text).getD ""
  { issuer := config.issuer, subject, clientId, scopes, tenantId }

/-- `resolve`, with the text of the `JWTValidationError`. -/
def resolve (token : String) : Except String TokenPrincipal :=
  match jwt.getUnverifiedHeader token with
  | .error e => .error ("malformed token: " ++ e)
  | .ok header =>
      if header.typ = some delegationTokenType then
        .error "delegation grants are not access tokens"
      else
        match jwt.peekIssuer token with
        | .error e => .error ("malformed token: " ++ e)
        | .ok issuer =>
            match resolver.config? (issuer.getD "") with
            | none => .error ("unknown issuer: " ++ issuer.getD "None")
            | some config =>
                (resolver.verified jwt token issuer config).map (project config)

variable {jwt resolver}

/-- A token that has been checked with one of the service's own keys. -/
def SelfIssued (jwt : BearerJwt) (resolver : JwtResolver) (principal : TokenPrincipal) : Prop :=
  ∃ token config key claims, key ∈ resolver.selfJwks ∧ jwt.decode config key token = .ok claims ∧
    principal = project config claims

lemma config?_issuer {issuer : String} {config : IssuerConfig}
    (h : resolver.config? issuer = some config) :
    config ∈ resolver.issuers ∧ config.issuer = issuer :=
  ⟨List.mem_reverse.mp (List.mem_of_find?_eq_some h), by simpa using List.find?_some h⟩

/-- A self-issued token that passed was checked with one of the service's keys. -/
lemma validateSelfIssued_eq_ok {token : String} {config : IssuerConfig} {claims : ClaimSet}
    (h : resolver.validateSelfIssued jwt token config = .ok claims) :
    ∃ key ∈ resolver.selfJwks, jwt.decode config key token = .ok claims := by
  rw [validateSelfIssued] at h
  split at h
  · cases h
  · split at h
    · cases h
    · rename_i key hkey
      split at h
      · cases h
      · rename_i claims' hdecode
        cases h
        exact ⟨key, List.mem_of_find?_eq_some hkey, hdecode⟩

/-- **What a resolved token is**: the claims that were checked with the keys of the issuer it
names, which is this service itself or a configured one. -/
theorem resolve_eq_ok {token : String} {principal : TokenPrincipal}
    (h : resolver.resolve jwt token = .ok principal) :
    ∃ issuer config claims, jwt.peekIssuer token = .ok issuer ∧
      resolver.config? (issuer.getD "") = some config ∧ principal = project config claims ∧
      (if resolver.selfIssuer.isSome ∧ issuer = resolver.selfIssuer then
        ∃ key ∈ resolver.selfJwks, jwt.decode config key token = .ok claims
      else jwt.validate config token = .ok claims) := by
  rw [resolve] at h
  split at h
  · cases h
  split_ifs at h
  split at h
  · cases h
  rename_i issuer hissuer
  split at h
  · cases h
  rename_i config hconfig
  cases hclaims : resolver.verified jwt token issuer config with
  | error e =>
      rw [hclaims] at h
      cases h
  | ok claims =>
      rw [hclaims] at h
      obtain rfl : project config claims = principal := by injection h
      refine ⟨issuer, config, claims, hissuer, hconfig, rfl, ?_⟩
      rw [verified] at hclaims
      split_ifs at hclaims ⊢ with hself
      · exact validateSelfIssued_eq_ok hclaims
      · exact hclaims

end JwtResolver

end AuthzKit
