import AuthzKit.Relational.Runs
import AuthzKit.Security.JwtValidation

/-!
What one token does to the others: `JWTValidator.validate` asks an issuer again when the cached
document does not have the key of a token, and drops the document before it does.

* `validateFor_snd_cases`: what a call does to the cache.
* `JwtValidator.calls`: the runs of a validator; `fresh_of_reachable`: no document is kept for
  longer than the time to live.
* `Validates`: a token is accepted from the cache, with no endpoint to be reached;
  `validates_iff`, `validates_until`.
* `undisturbed_iff`: when every other token that the cache was enough for is accepted as long as
  before; `validates_of_undisturbing` is for a run of calls.
-/

namespace AuthzKit

open Delegations

variable {PublicKey : Type} {lib : Libraries PublicKey} {v : JwtValidator}
  {config : JwtValidatorConfig} {token : String} {kid issuer : Option String}
  {input : ValidateInput} {cache : JwksCache} {x : Exchange} {jwks : Jwks}

/-! ### The cache after a call -/

namespace JwtValidator

/-- What `_get_jwks` leaves of an entry. -/
lemma getJwks_snd_apply (name : String) :
    (v.getJwks lib config x cache).2 name = cache name ∨
      name = config.issuer ∧
        ∃ jwks, (v.getJwks lib config x cache).2 name = some (jwks, x.now + v.jwksTtl) := by
  rw [getJwks]
  cases cache.current config.issuer x.now with
  | some jwks => exact Or.inl rfl
  | none =>
      cases lib.fetchJwks config x with
      | error e => exact Or.inl rfl
      | ok jwks =>
          by_cases hname : name = config.issuer
          · subst hname
            exact Or.inr ⟨rfl, jwks, Function.update_self ..⟩
          · exact Or.inl (Function.update_of_ne hname ..)

variable (lib v config token kid input cache) in
/-- **What a call does to the cache**: the issuer is asked again exactly if the document does not
have the key, and before that the document is dropped. -/
lemma validateFor_snd_cases :
    (∃ jwks, (v.getJwks lib config input.first cache).1 = .ok jwks ∧ jwks.Scannable kid ∧
        jwks.key? kid = none) ∧
      (v.validateFor lib config kid token input cache).2 =
        (v.getJwks lib config input.second
          ((v.getJwks lib config input.first cache).2.pop config.issuer)).2 ∨
    (∀ jwks, (v.getJwks lib config input.first cache).1 = .ok jwks → jwks.Scannable kid →
        jwks.key? kid ≠ none) ∧
      (v.validateFor lib config kid token input cache).2 =
        (v.getJwks lib config input.first cache).2 := by
  rw [validateFor]
  cases v.getJwks lib config input.first cache with
  | mk result cache' =>
      cases result with
      | error e => exact Or.inr ⟨by rintro jwks ⟨⟩, rfl⟩
      | ok jwks =>
          dsimp only
          cases hselect : selectKey jwks kid with
          | error e =>
              refine Or.inr ⟨fun jwks' h hscan => ?_, rfl⟩
              obtain rfl := Except.ok.inj h
              rw [selectKey_eq_ok_iff.mpr ⟨hscan, rfl⟩] at hselect
              cases hselect
          | ok found =>
              obtain ⟨hscan, hkey⟩ := selectKey_eq_ok_iff.mp hselect
              cases found with
              | some key =>
                  refine Or.inr ⟨fun jwks' h _ => ?_, rfl⟩
                  obtain rfl := Except.ok.inj h
                  rw [hkey]
                  exact Option.some_ne_none key
              | none =>
                  refine Or.inl ⟨⟨jwks, rfl, hscan, hkey⟩, ?_⟩
                  dsimp only
                  cases v.getJwks lib config input.second (cache'.pop config.issuer) with
                  | mk result cache'' =>
                      cases result with
                      | error e => rfl
                      | ok jwks' =>
                          dsimp only
                          cases selectKey jwks' kid with
                          | error e => rfl
                          | ok found => cases found <;> rfl

/-- The entries of other issuers stay. -/
lemma validateFor_snd_of_ne {name : String} (hname : name ≠ config.issuer) :
    (v.validateFor lib config kid token input cache).2 name = cache name := by
  have hget : ∀ x cache, (v.getJwks lib config x cache).2 name = cache name := fun x cache =>
    (getJwks_snd_apply name).resolve_right fun h => hname h.1
  rcases validateFor_snd_cases lib v config token kid input cache with ⟨-, h⟩ | ⟨-, h⟩
  · rw [h, hget, JwksCache.pop, Function.update_of_ne hname, hget]
  · rw [h, hget]

/-- An entry that is there after a call was there before, or it has been fetched. -/
lemma expiry_validateFor {name : String} {expiry : ℤ}
    (h : (v.validateFor lib config kid token input cache).2 name = some (jwks, expiry)) :
    cache name = some (jwks, expiry) ∨ expiry = input.first.now + v.jwksTtl ∨
      expiry = input.second.now + v.jwksTtl := by
  have hget : ∀ x cache, (v.getJwks lib config x cache).2 name = some (jwks, expiry) →
      cache name = some (jwks, expiry) ∨ expiry = x.now + v.jwksTtl := by
    intro x cache hentry
    rcases getJwks_snd_apply name with hkept | ⟨-, jwks', hnew⟩
    · exact Or.inl (hkept.symm.trans hentry)
    · rw [hnew] at hentry
      exact Or.inr (congrArg Prod.snd (Option.some.inj hentry)).symm
  rcases validateFor_snd_cases lib v config token kid input cache with ⟨-, hcall⟩ | ⟨-, hcall⟩
  · rw [hcall] at h
    rcases hget _ _ h with hpopped | hexpiry
    · by_cases hname : name = config.issuer
      · rw [hname, JwksCache.pop, Function.update_self] at hpopped
        cases hpopped
      · rw [JwksCache.pop, Function.update_of_ne hname] at hpopped
        exact (hget _ _ hpopped).imp_right Or.inl
    · exact Or.inr (Or.inr hexpiry)
  · rw [hcall] at h
    exact (hget _ _ h).imp_right Or.inl

/-! ### Runs -/

/-- A validator between two calls: its cache, and what the clock read last. -/
structure State where
  cache : JwksCache
  clock : ℤ

/-- A call of `validate`. -/
structure Call where
  token : String
  expectedIssuer : Option String
  input : ValidateInput

/-- The clock does not go back. -/
def State.MayCall (s : State) (call : Call) : Prop :=
  s.clock ≤ call.input.first.now ∧ call.input.first.now ≤ call.input.second.now

variable (lib v) in
/-- The validator after a call. -/
def State.after (s : State) (call : Call) : State where
  cache := (v.validate lib call.token call.expectedIssuer call.input s.cache).2
  clock := call.input.second.now

variable (lib v) in
/-- The runs of a validator, from an empty cache. -/
def calls : Machine State Call where
  initial := fun s => s.cache = fun _ => none
  step := fun s call s' => s.MayCall call ∧ s' = s.after lib v call

/-- No document is kept for longer than the time to live. -/
def State.Fresh (v : JwtValidator) (s : State) : Prop :=
  ∀ name jwks expiry, s.cache name = some (jwks, expiry) → expiry ≤ s.clock + v.jwksTtl

/-- A call keeps every document fresh. -/
lemma State.Fresh.after {s : State} {call : Call} (h : s.Fresh v) (hmay : s.MayCall call) :
    (s.after lib v call).Fresh v := by
  obtain ⟨hfirst, hsecond⟩ := hmay
  intro name jwks expiry hentry
  have hclock : (s.after lib v call).clock = call.input.second.now := rfl
  rw [State.after] at hentry
  dsimp only at hentry
  rw [validate] at hentry
  have hold : s.cache name = some (jwks, expiry) → expiry ≤ s.clock + v.jwksTtl := h name jwks expiry
  cases hroute : v.route lib call.token call.expectedIssuer with
  | error e =>
      rw [hroute] at hentry
      have := hold hentry
      omega
  | ok found =>
      rw [hroute] at hentry
      rcases expiry_validateFor hentry with hkept | hexpiry | hexpiry
      · have := hold hkept
        omega
      · omega
      · omega

/-- **In every reachable state** the documents are fresh. -/
theorem fresh_of_reachable {s : State} (h : (v.calls lib).Reachable s) : s.Fresh v := by
  refine h.invariant ?_ ?_
  · intro s hinit name jwks expiry hentry
    rw [hinit] at hentry
    cases hentry
  · rintro s call s' - hfresh ⟨hmay, rfl⟩
    exact hfresh.after hmay

/-! ### Validating from the cache -/

variable (lib v) in
/-- The token is accepted from the cache, at some times of the two clocks, with no endpoint to be
reached. -/
def Validates (cache : JwksCache) (token : String) (issuer : Option String) (now wallClock : ℤ) :
    Prop :=
  ∃ claims, (v.validate lib token issuer ⟨unreachable now, unreachable now, wallClock⟩ cache).1 =
    .ok claims

end JwtValidator

/-- The token is accepted with its key in a document. -/
def Libraries.Takes (lib : Libraries PublicKey) (config : JwtValidatorConfig) (jwks : Jwks)
    (kid : Option String) (token : String) (wallClock : ℤ) : Prop :=
  jwks.Scannable kid ∧ ∃ key claims, jwks.key? kid = some key ∧
    lib.decodeWith config token wallClock key = .ok claims

lemma Libraries.not_serves_unreachable {now : ℤ} : ¬lib.Serves config (unreachable now) jwks := by
  rintro ⟨url, response, -, hresponse, -⟩
  cases hresponse

namespace JwtValidator

variable {now before wallClock : ℤ}

/-- **What is accepted from the cache** is what the cached document takes. -/
lemma validates_iff : v.Validates lib cache token issuer now wallClock ↔
    ∃ kid config jwks, v.route lib token issuer = .ok (kid, config) ∧
      cache.current config.issuer now = some jwks ∧ lib.Takes config jwks kid token wallClock := by
  constructor
  · rintro ⟨claims, h⟩
    rw [validate] at h
    cases hroute : v.route lib token issuer with
    | error e =>
        rw [hroute] at h
        cases h
    | ok found =>
        rw [hroute] at h
        obtain ⟨jwks, key, hreads, hscan, hkey, hdecode⟩ := validateFor_eq_ok h
        rcases hreads with (hcurrent | ⟨-, hserves⟩) | ⟨old, -, -, hserves⟩
        · exact ⟨found.1, found.2, jwks, rfl, hcurrent, hscan, key, claims, hkey, hdecode⟩
        · exact absurd hserves Libraries.not_serves_unreachable
        · exact absurd hserves Libraries.not_serves_unreachable
  · rintro ⟨kid, config, jwks, hroute, hcurrent, hscan, key, claims, hkey, hdecode⟩
    refine ⟨claims, ?_⟩
    have hfirst : cache.current config.issuer (unreachable now).now = some jwks := hcurrent
    rw [validate, hroute]
    dsimp only
    rw [validateFor_fst, getJwks_fst, hfirst]
    dsimp only [bind, Except.bind]
    rw [selectKey_eq_ok_iff.mpr ⟨hscan, hkey⟩]
    exact hdecode

lemma config?_of_configOf {claimed : Option ClaimValue}
    (h : v.configOf claimed = .ok (some config)) : v.config? config.issuer = some config := by
  have hname : ∃ name, v.config? name = some config := by
    rw [configOf] at h
    split at h
    · exact ⟨_, Except.ok.inj h⟩
    · exact ⟨_, Except.ok.inj h⟩
    · cases h
    · cases h
    · cases h
    · split_ifs at h
      cases h
  obtain ⟨name, hname⟩ := hname
  have hissuer : config.issuer = name := by
    rw [config?] at hname
    simpa using List.find?_some hname
  rw [hissuer, hname]

/-- A token is checked with the config of its issuer. -/
lemma config?_of_route (h : v.route lib token issuer = .ok (kid, config)) :
    v.config? config.issuer = some config := by
  obtain ⟨header, -, h⟩ := bind_eq_ok_iff.mp h
  -- the issuer is a hint, or it is claimed
  cases issuer
  all_goals
    obtain ⟨claimed, -, h⟩ := bind_eq_ok_iff.mp h
    obtain ⟨found, hof, h⟩ := bind_eq_ok_iff.mp h
    cases found with
    | none => cases h
    | some config' =>
        obtain ⟨-, rfl⟩ := Prod.mk.inj (Except.ok.inj h)
        exact config?_of_configOf hof

/-- **Until the cached document expires** a token is accepted as it was before. -/
theorem validates_until {expiry : ℤ} (hroute : v.route lib token issuer = .ok (kid, config))
    (hcached : cache config.issuer = some (jwks, expiry)) (hbefore : before < expiry) :
    v.Validates lib cache token issuer now wallClock ↔
      now < expiry ∧ v.Validates lib cache token issuer before wallClock := by
  have hcurrent : ∀ time, cache.current config.issuer time =
      if time < expiry then some jwks else none := by
    intro time
    rw [JwksCache.current, hcached]
    rfl
  have hiff : ∀ time, v.Validates lib cache token issuer time wallClock ↔
      time < expiry ∧ lib.Takes config jwks kid token wallClock := by
    intro time
    rw [validates_iff]
    constructor
    · rintro ⟨kid', config', jwks', hroute', hcurrent', htakes⟩
      obtain ⟨rfl, rfl⟩ := Prod.mk.inj (Except.ok.inj (hroute.symm.trans hroute'))
      rw [hcurrent] at hcurrent'
      split_ifs at hcurrent' with htime
      obtain rfl := Option.some.inj hcurrent'
      exact ⟨htime, htakes⟩
    · rintro ⟨htime, htakes⟩
      exact ⟨kid, config, jwks, hroute, (hcurrent time).trans (if_pos htime), htakes⟩
  rw [hiff now, hiff before, and_iff_right hbefore]

/-! ### Other tokens -/

variable (lib v) in
/-- **A call does not disturb other tokens**: whatever the cache is enough for stays accepted,
with no endpoint to be reached, as long as it would have been from the cache as it was. -/
def Undisturbed (cache : JwksCache) (call : Call) : Prop :=
  ∀ other issuer now wallClock, other ≠ call.token → call.input.second.now ≤ now →
    v.Validates lib cache other issuer now wallClock →
      v.Validates lib (v.validate lib call.token call.expectedIssuer call.input cache).2 other
        issuer now wallClock

variable (lib v) in
/-- A document is served that takes every other token that this one takes. -/
def Replaced (config : JwtValidatorConfig) (token : String) (x : Exchange) (jwks : Jwks) : Prop :=
  ∀ other issuer kid wallClock, other ≠ token → v.route lib other issuer = .ok (kid, config) →
    lib.Takes config jwks kid other wallClock →
      ∃ fresh, lib.Serves config x fresh ∧ lib.Takes config fresh kid other wallClock

variable (lib v) in
/-- A cached document that a call drops before it expires is replaced. -/
def Harmless (cache : JwksCache) (call : Call) : Prop :=
  ∀ kid config jwks expiry, v.route lib call.token call.expectedIssuer = .ok (kid, config) →
    cache config.issuer = some (jwks, expiry) → call.input.second.now < expiry →
    jwks.Scannable kid → jwks.key? kid = none →
      v.Replaced lib config call.token call.input.second jwks

lemma current_eq_some_iff {name : String} : cache.current name now = some jwks ↔
    ∃ expiry, cache name = some (jwks, expiry) ∧ now < expiry := by
  rw [JwksCache.current]
  cases cache name with
  | none => simp
  | some cached =>
      obtain ⟨old, expiry⟩ := cached
      by_cases hnow : now < expiry
      · simp [hnow, and_comm]
      · simp only [Option.bind_some, if_neg hnow, Option.some.injEq, Prod.mk.injEq]
        refine iff_of_false (by rintro ⟨⟩) ?_
        rintro ⟨_, ⟨-, rfl⟩, h⟩
        exact hnow h

/-- The document of an issuer that has been dropped and asked for again. -/
lemma current_refreshed {fresh : Jwks} :
    (v.getJwks lib config x (cache.pop config.issuer)).2.current config.issuer now = some fresh ↔
      lib.Serves config x fresh ∧ now < x.now + v.jwksTtl := by
  rw [getJwks, JwksCache.current_pop, ← Libraries.fetchJwks_eq_ok_iff]
  cases lib.fetchJwks config x with
  | error e =>
      dsimp only
      rw [JwksCache.current_pop]
      exact iff_of_false (by rintro ⟨⟩) (by rintro ⟨⟨⟩, -⟩)
  | ok jwks => simp [current_eq_some_iff]

/-- A call with a cached document leaves it or asks for it again. -/
lemma validateFor_snd_of_current (h : cache.current config.issuer input.first.now = some jwks) :
    (jwks.Scannable kid ∧ jwks.key? kid = none) ∧
      (v.validateFor lib config kid token input cache).2 =
        (v.getJwks lib config input.second (cache.pop config.issuer)).2 ∨
    ¬(jwks.Scannable kid ∧ jwks.key? kid = none) ∧
      (v.validateFor lib config kid token input cache).2 = cache := by
  have hget : v.getJwks lib config input.first cache = (.ok jwks, cache) := by rw [getJwks, h]
  have hcases := validateFor_snd_cases lib v config token kid input cache
  rw [hget] at hcases
  rcases hcases with ⟨⟨jwks', hjwks, hdropped⟩, hcall⟩ | ⟨hkept, hcall⟩
  · obtain rfl := Except.ok.inj hjwks
    exact Or.inl ⟨hdropped, hcall⟩
  · exact Or.inr ⟨fun hdropped => hkept jwks rfl hdropped.1 hdropped.2, hcall⟩

/-- A call that disturbs no token drops no document that is not replaced. -/
lemma harmless_of_undisturbed {s : State} {call : Call} (hmay : s.MayCall call)
    (hundisturbed : v.Undisturbed lib s.cache call) : v.Harmless lib s.cache call := by
  obtain ⟨hfirst, hsecond⟩ := hmay
  intro kid config jwks expiry hroute hcached hlt hscan hnone other issuer kid'
    wallClock hother hroute' htakes
  have hbefore : v.Validates lib s.cache other issuer call.input.second.now wallClock :=
    validates_iff.mpr ⟨kid', config, jwks, hroute',
      current_eq_some_iff.mpr ⟨expiry, hcached, hlt⟩, htakes⟩
  obtain ⟨_, _, fresh, hroute'', hcurrent, htakes'⟩ :=
    validates_iff.mp (hundisturbed other issuer _ wallClock hother le_rfl hbefore)
  obtain ⟨rfl, rfl⟩ := Prod.mk.inj (Except.ok.inj (hroute'.symm.trans hroute''))
  have hunexpired : s.cache.current config.issuer call.input.first.now = some jwks :=
    current_eq_some_iff.mpr ⟨expiry, hcached, by omega⟩
  rcases validateFor_snd_of_current hunexpired with ⟨-, hcall⟩ | ⟨hkept, -⟩
  · rw [validate, hroute] at hcurrent
    dsimp only at hcurrent
    rw [hcall] at hcurrent
    exact ⟨fresh, (current_refreshed.mp hcurrent).1, htakes'⟩
  · exact absurd ⟨hscan, hnone⟩ hkept

/-- **A call that replaces what it drops** disturbs no token. -/
lemma undisturbed_of_harmless {s : State} {call : Call} (hfresh : s.Fresh v)
    (hmay : s.MayCall call) (hharmless : v.Harmless lib s.cache call) :
    v.Undisturbed lib s.cache call := by
  obtain ⟨hfirst, hsecond⟩ := hmay
  intro other issuer now wallClock hother hnow hbefore
  obtain ⟨kid', config', jwks, hroute', hcurrent, htakes⟩ := validates_iff.mp hbefore
  obtain ⟨expiry, hcached, hlt⟩ := current_eq_some_iff.mp hcurrent
  rw [validate]
  cases hroute : v.route lib call.token call.expectedIssuer with
  | error e => exact hbefore
  | ok found =>
      obtain ⟨kid, config⟩ := found
      dsimp only
      rw [validates_iff]
      by_cases hissuer : config'.issuer = config.issuer
      · have hconfig : config' = config := by
          have hof := config?_of_route hroute'
          rw [hissuer, config?_of_route hroute] at hof
          exact (Option.some.inj hof).symm
        subst hconfig
        have hunexpired : s.cache.current config'.issuer call.input.first.now = some jwks :=
          current_eq_some_iff.mpr ⟨expiry, hcached, by omega⟩
        rcases validateFor_snd_of_current hunexpired with ⟨⟨hscan, hnone⟩, hcall⟩ | ⟨-, hcall⟩
        · obtain ⟨fresh, hserves, htakes'⟩ := hharmless kid config' jwks expiry hroute hcached
            (by omega) hscan hnone other issuer kid' wallClock hother hroute' htakes
          have hexpiry := hfresh _ _ _ hcached
          refine ⟨kid', config', fresh, hroute', ?_, htakes'⟩
          rw [hcall]
          exact current_refreshed.mpr ⟨hserves, by omega⟩
        · exact ⟨kid', config', jwks, hroute', by rw [hcall]; exact hcurrent, htakes⟩
      · refine ⟨kid', config', jwks, hroute', ?_, htakes⟩
        rw [JwksCache.current, validateFor_snd_of_ne hissuer]
        exact hcurrent

/-- **When a call does not disturb other tokens**, in every reachable state: exactly if a document
that it drops is replaced by one that takes the same tokens. -/
theorem undisturbed_iff {s : State} {call : Call} (h : (v.calls lib).Reachable s)
    (hmay : s.MayCall call) : v.Undisturbed lib s.cache call ↔ v.Harmless lib s.cache call :=
  ⟨harmless_of_undisturbed hmay, undisturbed_of_harmless (fresh_of_reachable h) hmay⟩

/-- An identity provider whose keys are discovered. -/
def idpConfig : JwtValidatorConfig where
  issuer := "https://idp.example"
  audience := some ["authz"]
  jwksUrl := none
  algorithms := ["RS256", "ES256"]
  leewaySeconds := 30

/-- A validator of its tokens. -/
def ofIdp : JwtValidator := ⟨[idpConfig], 600⟩

/-- A token with a `kid` that the identity provider does not have. -/
def forged : SignedJwt where
  text := "forged.payload.signature"
  header := ⟨some "JWT", some "k2"⟩
  signer := "another modulus"
  claims := idpToken.claims

/-- PyJWT, with both tokens. -/
def bothTokens : Libraries String := SignedJwt.libraries [idpToken, forged]

/-- A call with the forged token, a second after the keys were cached. -/
def forgedCall (second : Exchange) : Call := ⟨forged.text, none, unreachable 1, second, 1⟩

/-- The validator after a call with a good token. -/
def cachedState : State :=
  State.after bothTokens ofIdp ⟨fun _ => none, 0⟩
    ⟨idpToken.text, none, served idpJwks 0, served idpJwks 0, 0⟩

lemma reachable_cachedState : (ofIdp.calls bothTokens).Reachable cachedState := by
  have hinit : (ofIdp.calls bothTokens).initial ⟨fun _ => none, 0⟩ := rfl
  exact .step (.init hinit) ⟨⟨le_rfl, le_rfl⟩, rfl⟩

lemma cachedState_idp : cachedState.cache "https://idp.example" = some (idpJwks, 600) := by
  rfl

/-- The document is served again, so the good token stays accepted. -/
theorem undisturbed_served :
    ofIdp.Undisturbed bothTokens cachedState.cache (forgedCall (served idpJwks 1)) := by
  refine (undisturbed_iff reachable_cachedState ⟨by decide, by decide⟩).mpr ?_
  intro kid config jwks expiry hroute hcached _ _ _ other issuer kid' wallClock _ _ htakes
  have hforged : ofIdp.route bothTokens forged.text none = .ok (some "k2", idpConfig) := by
    decide +kernel
  obtain ⟨rfl, rfl⟩ := Prod.mk.inj (Except.ok.inj (hforged.symm.trans hroute))
  obtain ⟨rfl, rfl⟩ := Prod.mk.inj (Option.some.inj (cachedState_idp.symm.trans hcached))
  exact ⟨idpJwks, ⟨_, _, .discovered rfl rfl rfl rfl rfl rfl, rfl, rfl⟩, htakes⟩

/-- **A forged token empties the cache**: its `kid` is unknown, the endpoints cannot be reached,
and after that the good token is no longer accepted, long before the document expires. -/
theorem forged_kid_empties_cache :
    (ofIdp.calls bothTokens).Reachable cachedState ∧
      cachedState.cache "https://idp.example" = some (idpJwks, 600) ∧
      (ofIdp.validate bothTokens forged.text none (forgedCall (unreachable 1)).input
        cachedState.cache).1 = .error (.httpxError "connection refused") ∧
      ofIdp.Validates bothTokens cachedState.cache idpToken.text none 1 1 ∧
      ¬ofIdp.Undisturbed bothTokens cachedState.cache (forgedCall (unreachable 1)) := by
  have hgood : ofIdp.Validates bothTokens cachedState.cache idpToken.text none 1 1 :=
    ⟨idpToken.claims, by decide +kernel⟩
  refine ⟨reachable_cachedState, cachedState_idp, by decide +kernel, hgood, fun h => ?_⟩
  obtain ⟨claims, hclaims⟩ := h idpToken.text none 1 1 (by decide) le_rfl hgood
  have hrefused : (ofIdp.validate bothTokens idpToken.text none ⟨unreachable 1, unreachable 1, 1⟩
      (ofIdp.validate bothTokens forged.text none (forgedCall (unreachable 1)).input
        cachedState.cache).2).1 = .error (.httpxError "connection refused") := by
    decide +kernel
  cases hclaims.symm.trans hrefused

/-! ### Runs of calls -/

variable (lib v) in
/-- A run of calls none of which drops a document that is not replaced. -/
inductive Undisturbing : State → List Call → State → Prop where
  | nil (s : State) : Undisturbing s [] s
  | cons {s s' : State} {call : Call} {calls : List Call} : s.MayCall call →
      v.Harmless lib s.cache call → Undisturbing (s.after lib v call) calls s' →
      Undisturbing s (call :: calls) s'

lemma clock_le_of_undisturbing {s s' : State} {calls : List Call}
    (h : v.Undisturbing lib s calls s') : s.clock ≤ s'.clock := by
  induction h with
  | nil s => exact le_rfl
  | cons hmay _ _ ih => exact (hmay.1.trans hmay.2).trans ih

/-- **A run of harmless calls** keeps every token that the cache was enough for, other than those
it is made with, accepted as long as before. -/
theorem validates_of_undisturbing {s s' : State} {calls : List Call} {other : String}
    (hfresh : s.Fresh v) (hrun : v.Undisturbing lib s calls s')
    (hother : ∀ call ∈ calls, other ≠ call.token) (hnow : s'.clock ≤ now)
    (h : v.Validates lib s.cache other issuer now wallClock) :
    v.Validates lib s'.cache other issuer now wallClock := by
  induction hrun with
  | nil s => exact h
  | cons hmay hharmless hrest ih =>
      have hclock := (clock_le_of_undisturbing hrest).trans hnow
      have hafter := undisturbed_of_harmless hfresh hmay hharmless other issuer now wallClock
        (hother _ List.mem_cons_self) hclock h
      exact ih (hfresh.after hmay)
        (fun call hcall => hother call (List.mem_cons_of_mem _ hcall)) hnow hafter

end JwtValidator

end AuthzKit
