import AuthzKit.Security.JwksRefresh

/-!
Where the keys come from that a `JWTValidator` checks tokens with, over the runs of its cache.

* `JwtValidator.cacheAfter`: the cache after some calls.
* `JwtValidator.ServedIn`: a document that the issuer has served in one of them; every cached
  document is one, and expires the time to live after it was served.
* `accepted_key_served`: a token is accepted with a key that its issuer has served, not longer ago
  than the time to live.
-/

namespace AuthzKit

open Delegations

namespace JwtValidator

variable {PublicKey : Type} {lib : Libraries PublicKey} {v : JwtValidator}
  {config : JwtValidatorConfig} {cache : JwksCache} {x : Exchange} {jwks : Jwks} {name : String}
  {expiry : ℤ} {calls : List Call} {call : Call}

/-- The two exchanges of a call. -/
def Call.Exchanges (call : Call) (x : Exchange) : Prop := x = call.input.first ∨ x = call.input.second

/-- A document was served for a config in an exchange of one of the calls. -/
def ServedIn (lib : Libraries PublicKey) (config : JwtValidatorConfig) (calls : List Call)
    (x : Exchange) (jwks : Jwks) : Prop :=
  (∃ call ∈ calls, call.Exchanges x) ∧ lib.Serves config x jwks

/-- Every cached document was served in one of the calls. -/
def Sourced (lib : Libraries PublicKey) (v : JwtValidator) (calls : List Call)
    (cache : JwksCache) : Prop :=
  ∀ config jwks expiry, v.config? config.issuer = some config →
    cache config.issuer = some (jwks, expiry) →
      ∃ x, ServedIn lib config calls x jwks ∧ expiry = x.now + v.jwksTtl

variable (lib v) in
/-- The cache after some calls, which was empty before. -/
def cacheAfter (calls : List Call) : JwksCache :=
  calls.foldl (fun cache call => (v.validate lib call.token call.expectedIssuer call.input cache).2)
    fun _ => none

lemma ServedIn.append (h : ServedIn lib config calls x jwks) (call : Call) :
    ServedIn lib config (calls ++ [call]) x jwks := by
  obtain ⟨⟨earlier, hearlier, hx⟩, hserves⟩ := h
  exact ⟨⟨earlier, List.mem_append_left _ hearlier, hx⟩, hserves⟩

lemma servedIn_last (h : call.Exchanges x) (hserves : lib.Serves config x jwks) :
    ServedIn lib config (calls ++ [call]) x jwks :=
  ⟨⟨call, List.mem_append_right _ List.mem_cons_self, h⟩, hserves⟩

/-- An entry that `_get_jwks` leaves was there before, or it has been served. -/
lemma getJwks_entry
    (h : (v.getJwks lib config x cache).2 config.issuer = some (jwks, expiry)) :
    cache config.issuer = some (jwks, expiry) ∨
      lib.Serves config x jwks ∧ expiry = x.now + v.jwksTtl := by
  rw [getJwks] at h
  cases hcurrent : cache.current config.issuer x.now with
  | some old =>
      rw [hcurrent] at h
      exact Or.inl h
  | none =>
      rw [hcurrent] at h
      cases hfetch : lib.fetchJwks config x with
      | error e =>
          rw [hfetch] at h
          exact Or.inl h
      | ok fetched =>
          rw [hfetch] at h
          dsimp only at h
          rw [Function.update_self, Option.some.injEq, Prod.mk.injEq] at h
          obtain ⟨rfl, rfl⟩ := h
          exact Or.inr ⟨Libraries.fetchJwks_eq_ok_iff.mp hfetch, rfl⟩

/-- An entry that a call leaves was there before, or one of its exchanges has served it. -/
lemma validateFor_entry {kid : Option String} {token : String} {input : ValidateInput}
    (h : (v.validateFor lib config kid token input cache).2 config.issuer = some (jwks, expiry)) :
    cache config.issuer = some (jwks, expiry) ∨
      ∃ x, (x = input.first ∨ x = input.second) ∧ lib.Serves config x jwks ∧
        expiry = x.now + v.jwksTtl := by
  rcases validateFor_snd_cases lib v config token kid input cache with ⟨-, hcall⟩ | ⟨-, hcall⟩
  · rw [hcall] at h
    rcases getJwks_entry h with hpopped | hserved
    · rw [JwksCache.pop, Function.update_self] at hpopped
      cases hpopped
    · exact Or.inr ⟨input.second, Or.inr rfl, hserved⟩
  · rw [hcall] at h
    exact (getJwks_entry h).imp_right fun hserved => ⟨input.first, Or.inl rfl, hserved⟩

/-- **One call** leaves every cached document with a source. -/
lemma Sourced.validate (h : v.Sourced lib calls cache) (call : Call) :
    v.Sourced lib (calls ++ [call])
      (v.validate lib call.token call.expectedIssuer call.input cache).2 := by
  intro config jwks expiry hconfig hentry
  have hold : cache config.issuer = some (jwks, expiry) →
      ∃ x, ServedIn lib config (calls ++ [call]) x jwks ∧ expiry = x.now + v.jwksTtl := by
    intro hcached
    obtain ⟨x, hserved, hexpiry⟩ := h config jwks expiry hconfig hcached
    exact ⟨x, hserved.append call, hexpiry⟩
  rw [JwtValidator.validate] at hentry
  cases hroute : v.route lib call.token call.expectedIssuer with
  | error e =>
      rw [hroute] at hentry
      exact hold hentry
  | ok found =>
      obtain ⟨kid, routed⟩ := found
      rw [hroute] at hentry
      dsimp only at hentry
      by_cases hissuer : config.issuer = routed.issuer
      · -- one issuer has one config
        have hrouted := config?_of_route hroute
        rw [← hissuer, hconfig, Option.some.injEq] at hrouted
        subst hrouted
        rcases validateFor_entry hentry with hcached | ⟨x, hx, hserves, hexpiry⟩
        · exact hold hcached
        · exact ⟨x, servedIn_last hx hserves, hexpiry⟩
      · rw [validateFor_snd_of_ne hissuer] at hentry
        exact hold hentry

/-- **After any calls** every cached document has a source. -/
lemma sourced_cacheAfter (calls : List Call) : v.Sourced lib calls (v.cacheAfter lib calls) := by
  induction calls using List.reverseRecOn with
  | nil =>
      intro config jwks expiry _ hentry
      cases hentry
  | append_singleton calls call ih =>
      rw [cacheAfter, List.foldl_append]
      exact ih.validate call

/-- **A token is accepted with a key that its issuer has served**: in this call, or in an earlier
one that is not longer ago than the time to live. -/
theorem accepted_key_served (calls : List Call) {call : Call} {claims : ClaimSet}
    (h : (v.validate lib call.token call.expectedIssuer call.input (v.cacheAfter lib calls)).1 =
      .ok claims) :
    ∃ kid config x jwks key, v.route lib call.token call.expectedIssuer = .ok (kid, config) ∧
      lib.Serves config x jwks ∧
      ((∃ earlier ∈ calls, earlier.Exchanges x) ∧ call.input.first.now < x.now + v.jwksTtl ∨
        call.Exchanges x) ∧
      jwks.key? kid = some key ∧
      lib.decodeWith config call.token call.input.wallClock key = .ok claims := by
  rw [validate] at h
  cases hroute : v.route lib call.token call.expectedIssuer with
  | error e =>
      rw [hroute] at h
      cases h
  | ok found =>
      obtain ⟨kid, config⟩ := found
      rw [hroute] at h
      obtain ⟨jwks, key, hreads, -, hkey, hdecode⟩ := validateFor_eq_ok h
      rcases hreads with (hcurrent | ⟨-, hserves⟩) | ⟨_, -, -, hserves⟩
      · obtain ⟨expiry, hcached, hlt⟩ := current_eq_some_iff.mp hcurrent
        obtain ⟨x, ⟨hearlier, hserves⟩, rfl⟩ :=
          sourced_cacheAfter calls config jwks expiry (config?_of_route hroute) hcached
        exact ⟨kid, config, x, jwks, key, rfl, hserves, Or.inl ⟨hearlier, hlt⟩, hkey, hdecode⟩
      · exact ⟨kid, config, _, jwks, key, rfl, hserves, Or.inr (Or.inl rfl), hkey, hdecode⟩
      · exact ⟨kid, config, _, jwks, key, rfl, hserves, Or.inr (Or.inr rfl), hkey, hdecode⟩

/-- A call that fetches the keys. -/
def fetchingCall : Call := ⟨idpToken.text, none, served idpJwks 0, served idpJwks 0, 0⟩

/-- A call a second later, when the identity provider cannot be reached. -/
def offlineCall : Call := ⟨idpToken.text, none, unreachable 1, unreachable 1, 1⟩

lemma offlineCall_accepted : (ofIdp.validate bothTokens offlineCall.token offlineCall.expectedIssuer
    offlineCall.input (ofIdp.cacheAfter bothTokens [fetchingCall])).1 = .ok idpToken.claims := by
  decide +kernel

/-- The key of the second call was served in the first one. -/
theorem offlineCall_key_served :
    ∃ kid config x jwks key, ofIdp.route bothTokens idpToken.text none = .ok (kid, config) ∧
      bothTokens.Serves config x jwks ∧
      ((∃ earlier ∈ [fetchingCall], earlier.Exchanges x) ∧ (1 : ℤ) < x.now + ofIdp.jwksTtl ∨
        offlineCall.Exchanges x) ∧
      jwks.key? kid = some key ∧
      bothTokens.decodeWith config idpToken.text 1 key = .ok idpToken.claims :=
  accepted_key_served [fetchingCall] offlineCall_accepted

end JwtValidator

end AuthzKit
