import AuthzKit.Effects.Outcomes
import AuthzKit.Security.OauthResource

/-!
`JWTValidator` of `authzkit/identity/jwt_validation.py`: a token is checked with the keys that its
issuer publishes, which are kept for a while.

PyJWT and `urljoin` are parameters (`Libraries`), and so is what the clocks read and the endpoints
of the issuer answer (`Exchange`).

* `JwtValidator.getJwks`: the keys of an issuer, from the cache or from its endpoints;
  `ends_fetchJwks` says when fetching them raises nothing but a `JWTValidationError`.
* `selectKey`: the scan for the key of a token; `ends_selectKey`.
* `JwtValidator.validate`: the claims of a token, and the cache after it; `ends_validateFor`.
* `Libraries.Checks`: what `jwt.decode` checks; `SignedJwt.libraries` does.
-/

namespace AuthzKit

open Delegations Text

/-! ### Values and exceptions -/

/-- A decoded JSON value; of numbers only their truth value is read. -/
inductive Json where
  | null
  | bool (value : Bool)
  | number (zero : Bool)
  | str (value : String)
  | arr (items : List Json)
  /-- A `dict`, with different keys. -/
  | obj (fields : List (String × Json))

/-- The exceptions that may leave a call. -/
inductive Raised where
  | jwtValidationError (text : String)
  /-- A `PyJWTError`. -/
  | pyJwtError (text : String)
  /-- Of `httpx`: a transport error, an invalid URL, or one that is no string. -/
  | httpxError (text : String)
  | valueError
  | typeError
  | attributeError
  | recursionError
deriving DecidableEq, Repr

/-- The one exception that `resolve` documents. -/
def Raised.Documented (e : Raised) : Prop := ∃ text, e = .jwtValidationError text

@[simp] lemma documented_jwtValidationError (text : String) :
    (Raised.jwtValidationError text).Documented := ⟨text, rfl⟩

@[simp] lemma not_documented_pyJwtError (text : String) : ¬(Raised.pyJwtError text).Documented :=
  nofun

@[simp] lemma not_documented_httpxError (text : String) : ¬(Raised.httpxError text).Documented :=
  nofun

@[simp] lemma not_documented_valueError : ¬Raised.valueError.Documented := nofun

@[simp] lemma not_documented_typeError : ¬Raised.typeError.Documented := nofun

@[simp] lemma not_documented_attributeError : ¬Raised.attributeError.Documented := nofun

@[simp] lemma not_documented_recursionError : ¬Raised.recursionError.Documented := nofun

namespace Json

/-- `bool(value)`. -/
def truthy : Json → Bool
  | .null => false
  | .bool value => value
  | .number zero => !zero
  | .str value => value ≠ ""
  | .arr items => !items.isEmpty
  | .obj fields => !fields.isEmpty

/-- What `for k in value` goes through, if it can. -/
def elements : Json → Option (List Json)
  | .arr items => some items
  | .obj fields => some (fields.map fun field => .str field.1)
  | .str value => some (value.toList.map fun c => .str (String.singleton c))
  | _ => none

/-- `isinstance(value, dict)`. -/
def isObject : Json → Bool
  | .obj _ => true
  | _ => false

/-- The value is a `dict`, and `k.get("kid") == kid`. -/
def hasKid (kid : Option String) : Json → Bool
  | .obj fields =>
      match fields.lookup "kid", kid with
      | none, none => true
      | some .null, none => true
      | some (.str value), some kid => value = kid
      | _, _ => false
  | _ => false

end Json

/-! ### The issuer's endpoints -/

/-- What `response.json()` raises. -/
inductive JsonError where
  /-- A `ValueError`. -/
  | notJson
  /-- A `RecursionError`: the document is nested too deeply. -/
  | tooDeep
deriving DecidableEq, Repr

/-- An answer. -/
structure Response where
  status : ℕ
  json : Except JsonError Json

namespace Response

/-- The part that `_resolve_jwks_url` and `_get_jwks` share: the status, `_decode_json` and the
check that the payload is an object. -/
def fields (response : Response) (failed what : String) : Except Raised (List (String × Json)) :=
  if 400 ≤ response.status then .error (.jwtValidationError failed)
  else
    match response.json with
    | .error .notJson => .error (.jwtValidationError (what ++ " returned non-JSON response"))
    | .error .tooDeep => .error .recursionError
    | .ok (.obj fields) => .ok fields
    | .ok _ => .error (.jwtValidationError (what ++ " returned non-object payload"))

/-- The object in the body of an answer that is no failure. -/
def payload (response : Response) : Option (List (String × Json)) :=
  if 400 ≤ response.status then none
  else
    match response.json with
    | .ok (.obj fields) => some fields
    | _ => none

/-- The body is not read, or it is not nested too deeply. -/
def Readable (response : Response) : Prop :=
  400 ≤ response.status ∨ response.json ≠ .error .tooDeep

variable {response : Response} {failed what : String}

lemma ends_fields {Q : List (String × Json) → Prop} :
    Ends Q Raised.Documented (response.fields failed what) ↔
      response.Readable ∧ ∀ fields, response.payload = some fields → Q fields := by
  rw [fields, payload, Readable]
  by_cases hstatus : 400 ≤ response.status
  · rw [if_pos hstatus, if_pos hstatus]
    simp [hstatus]
  · rw [if_neg hstatus, if_neg hstatus]
    cases response.json with
    | error e => cases e <;> simp [hstatus]
    | ok value => cases value <;> simp

lemma fields_eq_ok_iff {fields : List (String × Json)} :
    response.fields failed what = .ok fields ↔ response.payload = some fields := by
  rw [Response.fields, payload]
  by_cases hstatus : 400 ≤ response.status
  · rw [if_pos hstatus, if_pos hstatus]
    exact iff_of_false nofun nofun
  · rw [if_neg hstatus, if_neg hstatus]
    cases response.json with
    | error e => cases e <;> simp
    | ok value => cases value <;> simp

end Response

/-! ### Libraries and configuration -/

/-- A call of `jwt.decode` with a key. -/
structure DecodeCall (PublicKey : Type) where
  token : String
  key : PublicKey
  algorithms : List String
  /-- The accepted audiences; without them `verify_aud` is off. -/
  audience : Option (List String)
  issuer : String
  leeway : ℤ
  /-- The time that `jwt.decode` reads. -/
  wallClock : ℤ

/-- PyJWT and `urllib`; what PyJWT raises is given by its text. -/
structure Libraries (PublicKey : Type) where
  /-- `jwt.get_unverified_header`. -/
  getUnverifiedHeader : (token : String) → Except String Header
  /-- `jwt.decode` without verification. -/
  unverified : (token : String) → Except String ClaimSet
  /-- `jwt.PyJWK(key).key`. -/
  pyJwk : Json → Except String PublicKey
  /-- `jwt.decode`. -/
  decode : DecodeCall PublicKey → Except String ClaimSet
  /-- `urljoin`, which may raise a `ValueError`. -/
  urljoin : (base url : String) → Except Unit String

/-- `JWTValidatorConfig`. -/
structure JwtValidatorConfig where
  issuer : String
  audience : Option (List String)
  jwksUrl : Option String
  algorithms : List String
  leewaySeconds : ℤ
deriving DecidableEq

/-- `config.jwks_url`, if it is not empty. -/
def JwtValidatorConfig.url? (config : JwtValidatorConfig) : Option String :=
  config.jwksUrl.filter (· ≠ "")

/-- The base that the discovery path is joined to. -/
def JwtValidatorConfig.base (config : JwtValidatorConfig) : String :=
  String.ofList (config.issuer.toList.rdropWhile (· = '/')) ++ "/"

/-- What one call of `_get_jwks` reads: the monotonic clock, and what `self._http.get` returns for
the discovery URL and for the one of the keys. -/
structure Exchange where
  now : ℤ
  discovery : (url : String) → Except String Response
  jwks : (url : Json) → Except String Response

/-- The fields of a JWKS document. -/
abbrev Jwks := List (String × Json)

/-- `_jwks_cache`: documents and when they expire, by issuer. -/
abbrev JwksCache := String → Option (Jwks × ℤ)

/-- The cached document of an issuer, unless it has expired. -/
def JwksCache.current (cache : JwksCache) (issuer : String) (now : ℤ) : Option Jwks :=
  (cache issuer).bind fun cached => if now < cached.2 then some cached.1 else none

/-- `self._jwks_cache.pop(issuer, None)`. -/
def JwksCache.pop (cache : JwksCache) (issuer : String) : JwksCache :=
  Function.update cache issuer none

/-- `JWTValidator`. -/
structure JwtValidator where
  configs : List JwtValidatorConfig
  jwksTtl : ℤ

/-- What one call of `validate` reads: in its two calls of `_get_jwks`, and the time. -/
structure ValidateInput where
  first : Exchange
  second : Exchange
  wallClock : ℤ

namespace Libraries

variable {PublicKey : Type} (lib : Libraries PublicKey)

/-! ### Fetching keys -/

/-- `_resolve_jwks_url`. -/
def resolveJwksUrl (config : JwtValidatorConfig) (x : Exchange) : Except Raised Json :=
  match config.url? with
  | some url => .ok (.str url)
  | none => do
      let url ← (lib.urljoin config.base ".well-known/openid-configuration").mapError
        fun _ => .valueError
      let response ← (x.discovery url).mapError .httpxError
      let what := "OIDC discovery for " ++ config.issuer
      let payload ← response.fields
        ("OIDC discovery failed for " ++ config.issuer ++ ": " ++ toString response.status) what
      match (payload.lookup "jwks_uri").filter Json.truthy with
      | none => .error (.jwtValidationError (what ++ " returned no jwks_uri"))
      | some uri => .ok uri

/-- The part of `_get_jwks` that asks the issuer. -/
def fetchJwks (config : JwtValidatorConfig) (x : Exchange) : Except Raised Jwks := do
  let url ← lib.resolveJwksUrl config x
  let response ← (x.jwks url).mapError .httpxError
  response.fields ("JWKS fetch failed: " ++ toString response.status) "JWKS endpoint"

/-- The URL of the keys, as it is configured or as the discovery document says. -/
inductive Names (config : JwtValidatorConfig) (x : Exchange) : Json → Prop where
  | configured {url : String} : config.url? = some url → Names config x (.str url)
  | discovered {url : String} {response : Response} {payload : List (String × Json)} {uri : Json} :
      config.url? = none → lib.urljoin config.base ".well-known/openid-configuration" = .ok url →
      x.discovery url = .ok response → response.payload = some payload →
      payload.lookup "jwks_uri" = some uri → uri.truthy = true → Names config x uri

/-- The document that the endpoint of the keys serves. -/
def Serves (config : JwtValidatorConfig) (x : Exchange) (jwks : Jwks) : Prop :=
  ∃ url response, lib.Names config x url ∧ x.jwks url = .ok response ∧
    response.payload = some jwks

/-- Every request that is made gets an answer, and one that can be read. -/
structure Answers (config : JwtValidatorConfig) (x : Exchange) : Prop where
  discovery : config.url? = none →
    ∃ url response, lib.urljoin config.base ".well-known/openid-configuration" = .ok url ∧
      x.discovery url = .ok response ∧ response.Readable
  jwks : ∀ url, lib.Names config x url → ∃ response, x.jwks url = .ok response ∧ response.Readable

variable {lib} {config : JwtValidatorConfig} {x : Exchange}

lemma resolveJwksUrl_eq_ok_iff {url : Json} :
    lib.resolveJwksUrl config x = .ok url ↔ lib.Names config x url := by
  rw [resolveJwksUrl]
  cases hurl : config.url? with
  | some own =>
      refine ⟨fun h => ?_, fun h => ?_⟩
      · obtain rfl := Except.ok.inj h
        exact .configured hurl
      · cases h with
        | configured h => rw [Option.some.inj (h.symm.trans hurl)]
        | discovered h => cases h.symm.trans hurl
  | none =>
      simp only [bind_eq_ok_iff, mapError_eq_ok_iff, Response.fields_eq_ok_iff]
      constructor
      · rintro ⟨own, hown, response, hresponse, payload, hpayload, h⟩
        cases huri : (payload.lookup "jwks_uri").filter Json.truthy with
        | none =>
            rw [huri] at h
            cases h
        | some uri =>
            rw [huri] at h
            obtain rfl := Except.ok.inj h
            obtain ⟨hlookup, htruthy⟩ := Option.filter_eq_some_iff.mp huri
            exact .discovered hurl hown hresponse hpayload hlookup htruthy
      · intro h
        cases h with
        | configured h => cases h.symm.trans hurl
        | @discovered own response payload _ _ hown hresponse hpayload hlookup htruthy =>
            refine ⟨own, hown, response, hresponse, payload, hpayload, ?_⟩
            rw [Option.filter_eq_some_iff.mpr ⟨hlookup, htruthy⟩]

lemma ends_resolveJwksUrl {Q : Json → Prop} :
    Ends Q Raised.Documented (lib.resolveJwksUrl config x) ↔
      (config.url? = none →
        ∃ url response, lib.urljoin config.base ".well-known/openid-configuration" = .ok url ∧
          x.discovery url = .ok response ∧ response.Readable) ∧
      ∀ url, lib.Names config x url → Q url := by
  rw [ends_iff]
  simp only [resolveJwksUrl_eq_ok_iff]
  refine and_congr_left fun _ => ?_
  rw [resolveJwksUrl]
  cases hurl : config.url? with
  | some own => simp
  | none =>
      -- whatever a readable discovery document says, nothing else is raised
      have hlast : ∀ (what : String) (payload : List (String × Json)),
          Ends (fun _ => True) Raised.Documented
            (match (payload.lookup "jwks_uri").filter Json.truthy with
            | none => .error (.jwtValidationError (what ++ " returned no jwks_uri"))
            | some uri => .ok uri) := by
        intro what payload
        cases (payload.lookup "jwks_uri").filter Json.truthy <;> simp
      simp only [ends_bind, ends_mapError, Response.ends_fields, hlast, implies_true, and_true,
        not_documented_valueError, not_documented_httpxError, ends_false_iff, true_implies,
        exists_and_left]

/-- **What is fetched** is the document that is served. -/
lemma fetchJwks_eq_ok_iff {jwks : Jwks} :
    lib.fetchJwks config x = .ok jwks ↔ lib.Serves config x jwks := by
  simp only [fetchJwks, bind_eq_ok_iff, mapError_eq_ok_iff, Response.fields_eq_ok_iff,
    resolveJwksUrl_eq_ok_iff, Serves, exists_and_left]

/-- **Fetching keys** raises what is documented exactly if every request gets an answer. -/
lemma ends_fetchJwks {Q : Jwks → Prop} :
    Ends Q Raised.Documented (lib.fetchJwks config x) ↔
      lib.Answers config x ∧ ∀ jwks, lib.Serves config x jwks → Q jwks := by
  rw [ends_iff]
  simp only [fetchJwks_eq_ok_iff]
  refine and_congr_left fun _ => ?_
  simp only [fetchJwks, ends_bind, ends_mapError, Response.ends_fields, implies_true, and_true,
    not_documented_httpxError, ends_false_iff, ends_resolveJwksUrl]
  exact ⟨fun h => ⟨h.1, h.2⟩, fun h => ⟨h.discovery, h.jwks⟩⟩

end Libraries

/-! ### The key of a token -/

/-- `jwks.get("keys", [])`, as what a loop goes through, if it can. -/
def Jwks.entries (jwks : Jwks) : Option (List Json) :=
  match jwks.lookup "keys" with
  | none => some []
  | some keys => keys.elements

/-- `next((k for k in keys if k.get("kid") == kid), None)`. -/
def firstKey (kid : Option String) : List Json → Except Raised (Option Json)
  | [] => .ok none
  | k :: ks =>
      if k.isObject then if k.hasKid kid then .ok (some k) else firstKey kid ks
      else .error .attributeError

/-- The scan of `validate`. -/
def selectKey (jwks : Jwks) (kid : Option String) : Except Raised (Option Json) :=
  match jwks.entries with
  | none => .error .typeError
  | some keys => firstKey kid keys

namespace Jwks

/-- The entry that belongs to a `kid`. -/
def key? (jwks : Jwks) (kid : Option String) : Option Json :=
  (jwks.entries.getD []).find? (Json.hasKid kid)

/-- There are entries, and up to the one with this `kid` all of them are objects. -/
def Scannable (jwks : Jwks) (kid : Option String) : Prop :=
  ∃ keys, jwks.entries = some keys ∧
    ∀ k ∈ keys.takeWhile (fun k : Json => !k.hasKid kid), k.isObject = true

end Jwks

variable {kid : Option String} {jwks : Jwks}

lemma isObject_of_hasKid {k : Json} (h : k.hasKid kid = true) : k.isObject = true := by
  cases k <;> first | rfl | cases h

/-- A scan finds the first entry with the `kid`, unless something that is no object comes before
it. -/
lemma firstKey_eq (keys : List Json) : firstKey kid keys =
    if ∀ k ∈ keys.takeWhile (fun k : Json => !k.hasKid kid), k.isObject = true then
      .ok (keys.find? (Json.hasKid kid))
    else .error .attributeError := by
  induction keys with
  | nil => rfl
  | cons k ks ih =>
      rw [firstKey]
      cases hkid : k.hasKid kid with
      | true => simp [isObject_of_hasKid hkid, hkid]
      | false =>
          cases hobject : k.isObject with
          | true => simp [hkid, hobject, ih]
          | false => simp [hkid, hobject]

/-- **A scan** raises nothing exactly if the document can be scanned. -/
lemma ends_selectKey {Q : Option Json → Prop} :
    Ends Q Raised.Documented (selectKey jwks kid) ↔ jwks.Scannable kid ∧ Q (jwks.key? kid) := by
  rw [selectKey, Jwks.Scannable, Jwks.key?]
  cases jwks.entries with
  | none => simp
  | some keys =>
      simp only [firstKey_eq, Option.some.injEq, exists_eq_left', Option.getD_some]
      split_ifs with hscan
      · exact (and_iff_right hscan).symm
      · exact iff_of_false not_documented_attributeError fun h => hscan h.1

lemma selectKey_eq_ok_iff {found : Option Json} :
    selectKey jwks kid = .ok found ↔ jwks.Scannable kid ∧ jwks.key? kid = found := by
  rw [selectKey, Jwks.Scannable, Jwks.key?]
  cases jwks.entries with
  | none => simp
  | some keys =>
      simp only [firstKey_eq, Option.some.injEq, exists_eq_left', Option.getD_some]
      split_ifs with hscan
      · rw [Except.ok.injEq]
        exact (and_iff_right hscan).symm
      · exact iff_of_false nofun fun h => hscan h.1

/-! ### Validating a token -/

namespace Libraries

variable {PublicKey : Type} (lib : Libraries PublicKey)

/-- The end of `validate`: `jwt.PyJWK(key)` and `jwt.decode`. -/
def decodeWith (config : JwtValidatorConfig) (token : String) (wallClock : ℤ) (key : Json) :
    Except Raised ClaimSet := do
  let publicKey ← (lib.pyJwk key).mapError .pyJwtError
  (lib.decode
    { token, key := publicKey, algorithms := config.algorithms, audience := config.audience,
      issuer := config.issuer, leeway := config.leewaySeconds, wallClock }).mapError
    fun e => .jwtValidationError ("invalid token: " ++ e)

variable {lib} {config : JwtValidatorConfig} {token : String} {wallClock : ℤ} {key : Json}

lemma ends_decodeWith {Q : ClaimSet → Prop} :
    Ends Q Raised.Documented (lib.decodeWith config token wallClock key) ↔
      (∃ publicKey, lib.pyJwk key = .ok publicKey) ∧
        ∀ claims, lib.decodeWith config token wallClock key = .ok claims → Q claims := by
  rw [ends_iff]
  refine and_congr_left fun _ => ?_
  simp only [decodeWith, ends_bind, ends_mapError, not_documented_pyJwtError, ends_false_iff,
    documented_jwtValidationError, ends_true_iff, implies_true, and_true]

end Libraries

namespace JwtValidator

variable {PublicKey : Type} (lib : Libraries PublicKey) (v : JwtValidator)

/-- `self._configs.get(issuer)`: of two configs for an issuer, the last one. -/
def config? (issuer : String) : Option JwtValidatorConfig :=
  v.configs.reverse.find? (·.issuer = issuer)

/-- `self._configs.get(expected_issuer or "")`; a list or a `dict` is no key of a `dict`. -/
def configOf (issuer : Option ClaimValue) : Except Raised (Option JwtValidatorConfig) :=
  match issuer.filter ClaimValue.truthy with
  | none => .ok (v.config? "")
  | some (.str issuer) => .ok (v.config? issuer)
  | some (.int _) => .ok none
  | some (.bool _) => .ok none
  | some (.list _) => .error .typeError
  | some (.other text _) => if text.toList.head? = some '{' then .error .typeError else .ok none

/-- The part of `validate` that reads the token: its `kid`, and the config it is checked with. -/
def route (token : String) (expectedIssuer : Option String) :
    Except Raised (Option String × JwtValidatorConfig) := do
  let header ← (lib.getUnverifiedHeader token).mapError .pyJwtError
  let issuer ←
    match expectedIssuer with
    | some issuer => .ok (some (.str issuer))
    | none => ((lib.unverified token).mapError .pyJwtError).map fun claims => claims.lookup "iss"
  match ← v.configOf issuer with
  | none =>
      .error (.jwtValidationError ("unknown issuer: " ++ (issuer.map ClaimValue.text).getD "None"))
  | some config => .ok (header.kid, config)

/-- `_get_jwks`. -/
def getJwks (config : JwtValidatorConfig) (x : Exchange) (cache : JwksCache) :
    Except Raised Jwks × JwksCache :=
  match cache.current config.issuer x.now with
  | some jwks => (.ok jwks, cache)
  | none =>
      match lib.fetchJwks config x with
      | .error e => (.error e, cache)
      | .ok jwks =>
          (.ok jwks, Function.update cache config.issuer (some (jwks, x.now + v.jwksTtl)))

/-- The part of `validate` after the config is found. -/
def validateFor (config : JwtValidatorConfig) (kid : Option String) (token : String)
    (input : ValidateInput) (cache : JwksCache) : Except Raised ClaimSet × JwksCache :=
  match v.getJwks lib config input.first cache with
  | (.error e, cache) => (.error e, cache)
  | (.ok jwks, cache) =>
      match selectKey jwks kid with
      | .error e => (.error e, cache)
      | .ok (some key) => (lib.decodeWith config token input.wallClock key, cache)
      | .ok none =>
          match v.getJwks lib config input.second (cache.pop config.issuer) with
          | (.error e, cache) => (.error e, cache)
          | (.ok jwks, cache) =>
              match selectKey jwks kid with
              | .error e => (.error e, cache)
              | .ok (some key) => (lib.decodeWith config token input.wallClock key, cache)
              | .ok none =>
                  (.error (.jwtValidationError ("no JWKS key matches kid=" ++ kid.getD "None")),
                    cache)

/-- `validate`: the claims, and the cache after the call. -/
def validate (token : String) (expectedIssuer : Option String) (input : ValidateInput)
    (cache : JwksCache) : Except Raised ClaimSet × JwksCache :=
  match v.route lib token expectedIssuer with
  | .error e => (.error e, cache)
  | .ok (kid, config) => v.validateFor lib config kid token input cache

end JwtValidator

/-- The documents that `validate` may begin with: the cached one, or the one that is served. -/
def Libraries.Begins {PublicKey : Type} (lib : Libraries PublicKey) (config : JwtValidatorConfig)
    (input : ValidateInput) (cache : JwksCache) (jwks : Jwks) : Prop :=
  cache.current config.issuer input.first.now = some jwks ∨
    cache.current config.issuer input.first.now = none ∧ lib.Serves config input.first jwks

/-- The documents that it may look for the key in: that one, and when the key is not there the one
that is served then. -/
def Libraries.Reads {PublicKey : Type} (lib : Libraries PublicKey) (config : JwtValidatorConfig)
    (kid : Option String) (input : ValidateInput) (cache : JwksCache) (jwks : Jwks) : Prop :=
  lib.Begins config input cache jwks ∨
    ∃ old, lib.Begins config input cache old ∧ old.key? kid = none ∧
      lib.Serves config input.second jwks

/-- **What must not go wrong on the way of a token**: each request that is made is answered, the
documents can be scanned, and the key that is found is one; `Q` is for the claims. -/
structure Libraries.Orderly {PublicKey : Type} (lib : Libraries PublicKey)
    (config : JwtValidatorConfig) (kid : Option String) (token : String) (input : ValidateInput)
    (cache : JwksCache) (Q : ClaimSet → Prop) : Prop where
  first : cache.current config.issuer input.first.now = none → lib.Answers config input.first
  second : ∀ jwks, lib.Begins config input cache jwks → jwks.key? kid = none →
    lib.Answers config input.second
  scans : ∀ jwks, lib.Reads config kid input cache jwks → jwks.Scannable kid
  keys : ∀ jwks key, lib.Reads config kid input cache jwks → jwks.key? kid = some key →
    ∃ publicKey, lib.pyJwk key = .ok publicKey
  claims : ∀ jwks key claims, lib.Reads config kid input cache jwks → jwks.key? kid = some key →
    lib.decodeWith config token input.wallClock key = .ok claims → Q claims

/-! ### What `validate` raises -/

section

variable {PublicKey : Type} {lib : Libraries PublicKey} {v : JwtValidator}
  {config : JwtValidatorConfig} {token : String} {input : ValidateInput} {cache : JwksCache}
  {x : Exchange}

lemma JwksCache.current_pop (cache : JwksCache) (issuer : String) (now : ℤ) :
    (cache.pop issuer).current issuer now = none := by
  rw [current, pop, Function.update_self, Option.bind_none]

namespace JwtValidator

variable (lib v config x cache) in
/-- What `_get_jwks` returns or raises. -/
lemma getJwks_fst : (v.getJwks lib config x cache).1 =
    match cache.current config.issuer x.now with
    | some jwks => .ok jwks
    | none => lib.fetchJwks config x := by
  rw [getJwks]
  cases cache.current config.issuer x.now with
  | some jwks => rfl
  | none =>
      cases hfetch : lib.fetchJwks config x with
      | error e => rfl
      | ok jwks => rfl

/-- The claims of a token with the key that was found, if one was. -/
def claimsWith (lib : Libraries PublicKey) (config : JwtValidatorConfig) (token : String)
    (wallClock : ℤ) (otherwise : Except Raised ClaimSet) : Option Json → Except Raised ClaimSet
  | some key => lib.decodeWith config token wallClock key
  | none => otherwise

/-- What `validate` returns or raises, without the cache. -/
lemma validateFor_fst : (v.validateFor lib config kid token input cache).1 =
    (v.getJwks lib config input.first cache).1 >>= fun jwks => selectKey jwks kid >>=
      claimsWith lib config token input.wallClock
        (lib.fetchJwks config input.second >>= fun jwks => selectKey jwks kid >>=
          claimsWith lib config token input.wallClock
            (.error (.jwtValidationError ("no JWKS key matches kid=" ++ kid.getD "None")))) := by
  rw [validateFor]
  cases hfirst : v.getJwks lib config input.first cache with
  | mk result cache' =>
      cases result with
      | error e => rfl
      | ok jwks =>
          simp only [bind, Except.bind]
          cases selectKey jwks kid with
          | error e => rfl
          | ok found =>
              cases found with
              | some key => rfl
              | none =>
                  have hsecond :=
                    getJwks_fst lib v config (cache'.pop config.issuer) input.second
                  rw [JwksCache.current_pop] at hsecond
                  simp only [claimsWith, ← hsecond]
                  cases v.getJwks lib config input.second (cache'.pop config.issuer) with
                  | mk result cache'' =>
                      cases result with
                      | error e => rfl
                      | ok jwks' =>
                          simp only
                          cases selectKey jwks' kid with
                          | error e => rfl
                          | ok found => cases found <;> rfl

lemma ends_claimsWith {Q : ClaimSet → Prop} {otherwise : Except Raised ClaimSet} {wallClock : ℤ}
    {found : Option Json} :
    Ends Q Raised.Documented (claimsWith lib config token wallClock otherwise found) ↔
      (∀ key, found = some key → (∃ publicKey, lib.pyJwk key = .ok publicKey) ∧
        ∀ claims, lib.decodeWith config token wallClock key = .ok claims → Q claims) ∧
      (found = none → Ends Q Raised.Documented otherwise) := by
  cases found with
  | none => simp [claimsWith]
  | some key => simp [claimsWith, Libraries.ends_decodeWith]

/-- **When validating a token raises nothing but a `JWTValidationError`.** -/
theorem ends_validateFor {Q : ClaimSet → Prop} :
    Ends Q Raised.Documented (v.validateFor lib config kid token input cache).1 ↔
      lib.Orderly config kid token input cache Q := by
  have hbegins : ∀ Q' : Jwks → Prop,
      Ends Q' Raised.Documented (v.getJwks lib config input.first cache).1 ↔
        (cache.current config.issuer input.first.now = none → lib.Answers config input.first) ∧
          ∀ jwks, lib.Begins config input cache jwks → Q' jwks := by
    intro Q'
    rw [getJwks_fst]
    simp only [Libraries.Begins]
    cases cache.current config.issuer input.first.now with
    | some jwks => simp
    | none => simp [Libraries.ends_fetchJwks]
  rw [validateFor_fst, ends_bind, hbegins]
  simp only [ends_bind, ends_selectKey, ends_claimsWith, Libraries.ends_fetchJwks, ends_error,
    documented_jwtValidationError, implies_true, and_true]
  constructor
  · rintro ⟨hfirst, hrest⟩
    refine ⟨hfirst, fun jwks hbegin hnone => ((hrest jwks hbegin).2.2 hnone).1, ?_, ?_, ?_⟩
    · rintro jwks (hbegin | ⟨old, hbegin, hnone, hserves⟩)
      · exact (hrest jwks hbegin).1
      · exact (((hrest old hbegin).2.2 hnone).2 jwks hserves).1
    · rintro jwks key (hbegin | ⟨old, hbegin, hnone, hserves⟩) hkey
      · exact ((hrest jwks hbegin).2.1 key hkey).1
      · exact ((((hrest old hbegin).2.2 hnone).2 jwks hserves).2 key hkey).1
    · rintro jwks key claims (hbegin | ⟨old, hbegin, hnone, hserves⟩) hkey hclaims
      · exact ((hrest jwks hbegin).2.1 key hkey).2 claims hclaims
      · exact ((((hrest old hbegin).2.2 hnone).2 jwks hserves).2 key hkey).2 claims hclaims
  · intro h
    refine ⟨h.first, fun jwks hbegin => ⟨h.scans jwks (Or.inl hbegin), fun key hkey =>
      ⟨h.keys jwks key (Or.inl hbegin) hkey, fun claims hclaims =>
        h.claims jwks key claims (Or.inl hbegin) hkey hclaims⟩, fun hnone =>
          ⟨h.second jwks hbegin hnone, fun jwks' hserves => ?_⟩⟩⟩
    have hreads : lib.Reads config kid input cache jwks' :=
      Or.inr ⟨jwks, hbegin, hnone, hserves⟩
    exact ⟨h.scans jwks' hreads, fun key hkey => ⟨h.keys jwks' key hreads hkey, fun claims hclaims =>
      h.claims jwks' key claims hreads hkey hclaims⟩⟩

/-- **What validated claims are**: the token was decoded with the key of its `kid`, in a document
that was read. -/
theorem validateFor_eq_ok {claims : ClaimSet}
    (h : (v.validateFor lib config kid token input cache).1 = .ok claims) :
    ∃ jwks key, lib.Reads config kid input cache jwks ∧ jwks.Scannable kid ∧
      jwks.key? kid = some key ∧ lib.decodeWith config token input.wallClock key = .ok claims := by
  rw [validateFor_fst, bind_eq_ok_iff] at h
  obtain ⟨jwks, hjwks, h⟩ := h
  obtain ⟨found, hfound, h⟩ := bind_eq_ok_iff.mp h
  have hbegin : lib.Begins config input cache jwks := by
    rw [getJwks_fst] at hjwks
    cases hcurrent : cache.current config.issuer input.first.now with
    | some old =>
        rw [hcurrent] at hjwks
        exact Or.inl (hcurrent.trans (congrArg some (Except.ok.inj hjwks)))
    | none =>
        rw [hcurrent] at hjwks
        exact Or.inr ⟨hcurrent, Libraries.fetchJwks_eq_ok_iff.mp hjwks⟩
  obtain ⟨hscan, hkey⟩ := selectKey_eq_ok_iff.mp hfound
  cases found with
  | some key => exact ⟨jwks, key, Or.inl hbegin, hscan, hkey, h⟩
  | none =>
      obtain ⟨jwks', hserves, h⟩ := bind_eq_ok_iff.mp h
      obtain ⟨found, hfound, h⟩ := bind_eq_ok_iff.mp h
      obtain ⟨hscan', hkey'⟩ := selectKey_eq_ok_iff.mp hfound
      cases found with
      | some key =>
          exact ⟨jwks', key, Or.inr ⟨jwks, hbegin, hkey, Libraries.fetchJwks_eq_ok_iff.mp hserves⟩,
            hscan', hkey', h⟩
      | none => cases h

end JwtValidator

end

/-! ### What PyJWT checks -/

/-- What PyJWT means by its checks: whom a signature is by, and `int(value)`. -/
structure Verification (PublicKey : Type) where
  signs : (key : PublicKey) → (algorithms : List String) → (token : String) → ClaimSet → Prop
  int : ClaimValue → Option ℤ

/-- The `aud` claim is this audience, or has it. -/
def hasAudience (claims : ClaimSet) (audience : String) : Bool :=
  match claims.lookup "aud" with
  | some (.str value) => value = audience
  | some (.list members) => audience ∈ members.map Prod.fst
  | _ => false

/-- What `jwt.decode` checks before it returns the claims of a token; an `exp` claim only if there
is one. -/
structure Libraries.Checks {PublicKey : Type} (lib : Libraries PublicKey)
    (spec : Verification PublicKey) : Prop where
  signature : ∀ call claims, lib.decode call = .ok claims →
    spec.signs call.key call.algorithms call.token claims
  issuer : ∀ call claims, lib.decode call = .ok claims →
    claims.lookup "iss" = some (.str call.issuer)
  audience : ∀ call claims, lib.decode call = .ok claims → ∀ accepted ∈ call.audience,
    ∃ audience ∈ accepted, hasAudience claims audience = true
  expiry : ∀ call claims, lib.decode call = .ok claims → ∀ value, claims.lookup "exp" = some value →
    ∃ exp, spec.int value = some exp ∧ call.wallClock - call.leeway < exp

/-- A token, with the modulus of the key that signed it. -/
structure SignedJwt where
  text : String
  header : Header
  signer : String
  claims : ClaimSet

namespace SignedJwt

/-- `int(value)` of a number. -/
def int : ClaimValue → Option ℤ
  | .int value => some value
  | _ => none

/-- A call of `jwt.decode` accepts the token. -/
def Accepted (t : SignedJwt) (call : DecodeCall String) : Prop :=
  t.signer = call.key ∧ t.claims.lookup "iss" = some (.str call.issuer) ∧
    (∀ accepted ∈ call.audience, ∃ audience ∈ accepted, hasAudience t.claims audience = true) ∧
    ∀ value ∈ t.claims.lookup "exp", ∃ exp ∈ int value, call.wallClock - call.leeway < exp

instance (t : SignedJwt) (call : DecodeCall String) : Decidable (t.Accepted call) :=
  inferInstanceAs (Decidable (_ ∧ _ ∧ _ ∧ _))

/-- PyJWT where nobody has signed anything but these tokens. -/
def libraries (tokens : List SignedJwt) : Libraries String where
  getUnverifiedHeader := fun token =>
    match tokens.find? (·.text = token) with
    | none => .error "Not enough segments"
    | some t => .ok t.header
  unverified := fun token =>
    match tokens.find? (·.text = token) with
    | none => .error "Not enough segments"
    | some t => .ok t.claims
  pyJwk := fun key =>
    match key with
    | .obj fields =>
        match fields.lookup "n" with
        | some (.str modulus) => .ok modulus
        | _ => .error "kty is not found"
    | _ => .error "kty is not found"
  decode := fun call =>
    match tokens.find? (·.text = call.token) with
    | none => .error "Not enough segments"
    | some t => if t.Accepted call then .ok t.claims else .error "Signature verification failed"
  urljoin := fun base url => .ok (base ++ url)

/-- What these signatures mean. -/
def verification (tokens : List SignedJwt) : Verification String where
  signs := fun key _ token claims =>
    ∃ t ∈ tokens, t.text = token ∧ t.signer = key ∧ t.claims = claims
  int := int

variable {tokens : List SignedJwt} {call : DecodeCall String} {claims : ClaimSet}

lemma decode_eq_ok (h : (libraries tokens).decode call = .ok claims) :
    ∃ t ∈ tokens, t.text = call.token ∧ t.Accepted call ∧ t.claims = claims := by
  rw [libraries] at h
  dsimp only at h
  cases hfind : tokens.find? (·.text = call.token) with
  | none =>
      rw [hfind] at h
      cases h
  | some t =>
      rw [hfind] at h
      dsimp only at h
      split_ifs at h with haccepted
      exact ⟨t, List.mem_of_find?_eq_some hfind, by simpa using List.find?_some hfind, haccepted,
        Except.ok.inj h⟩

/-- These signatures are checked as PyJWT does. -/
lemma checks_libraries (tokens : List SignedJwt) :
    (libraries tokens).Checks (verification tokens) where
  signature := by
    intro call claims h
    obtain ⟨t, ht, htext, haccepted, hclaims⟩ := decode_eq_ok h
    exact ⟨t, ht, htext, haccepted.1, hclaims⟩
  issuer := by
    intro call claims h
    obtain ⟨t, -, -, haccepted, rfl⟩ := decode_eq_ok h
    exact haccepted.2.1
  audience := by
    intro call claims h
    obtain ⟨t, -, -, haccepted, rfl⟩ := decode_eq_ok h
    exact haccepted.2.2.1
  expiry := by
    intro call claims h value hvalue
    obtain ⟨t, -, -, haccepted, rfl⟩ := decode_eq_ok h
    exact haccepted.2.2.2 value hvalue

end SignedJwt

/-! ### An identity provider -/

/-- A token of an administrator. -/
def idpToken : SignedJwt where
  text := "header.payload.signature"
  header := ⟨some "JWT", some "k1"⟩
  signer := "modulus"
  claims := [("iss", .str "https://idp.example"), ("aud", .str "authz"), ("sub", .str "alice"),
    ("scope", .str "admin"), ("exp", .int 1000)]

/-- The keys of the identity provider. -/
def idpJwks : Jwks :=
  [("keys", .arr [.obj [("kid", .str "k1"), ("kty", .str "RSA"), ("n", .str "modulus")]])]

/-- Both endpoints answer. -/
def served (jwks : Jwks) (now : ℤ) : Exchange where
  now
  discovery := fun _ => .ok ⟨200, .ok (.obj [("jwks_uri", .str "https://idp.example/keys")])⟩
  jwks := fun _ => .ok ⟨200, .ok (.obj jwks)⟩

/-- Neither endpoint can be reached. -/
def unreachable (now : ℤ) : Exchange where
  now
  discovery := fun _ => .error "connection refused"
  jwks := fun _ => .error "connection refused"

end AuthzKit
