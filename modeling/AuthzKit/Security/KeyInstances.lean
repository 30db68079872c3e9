import AuthzKit.Relational.Runs
import AuthzKit.Security.SigningKeys

/-!
Many `SigningKeyService` instances on one database: service workers, the janitor and the
command line, each with its own cache and its own environment.

An instance signs with the key it holds, and only its own rotation clears its cache, so a
worker may sign with a key that another instance has retired or that was revoked since.

* `KeyInstance`: the operations of an instance with its environment key.
* `KeyCluster.machine`: signing, loading, generating, rotating, pruning and waiting in every
  order, with the tokens that were signed.
* `KeyCluster.listedUntil_act`: what one event keeps of a key that is listed for some time.
* `KeyCluster.tokens_verifiable`: every token is verifiable for its lifetime in every run in
  which an instance signs with a key it holds only while that key is listed for that long;
  any other signature can be followed by a state in which its key is missing.
-/

namespace AuthzKit

open Delegations

/-! ### One instance -/

/-- How an instance is constructed; `envPem` is stripped, and empty when not set. -/
structure KeyInstance where
  envPem : String
  devMode : Bool
  databaseUrl : String

namespace KeyInstance

variable (rsa : Rsa) (inst : KeyInstance) (service : SigningKeyService) (now : DateTime)
  (pem : String)

/-- `_load_env_key`; the loaded key has no creation time, and nobody reads it. -/
def loadEnvKey : OAuthSigningKey := SigningKeyService.newKey rsa 0 inst.envPem

/-- Dev mode on SQLite. -/
def bootstraps : Bool := inst.devMode && inst.databaseUrl.startsWith "sqlite"

/-- `active_signing_key`. -/
def activeSigningKey : Except SigningKeyError (SigningKeyService × OAuthSigningKey) :=
  match service.cached with
  | some key => .ok (service, key)
  | none =>
      if inst.envPem ≠ "" then
        .ok ({ service with cached := some (inst.loadEnvKey rsa) }, inst.loadEnvKey rsa)
      else service.activeSigningKey rsa now pem inst.bootstraps

/-- `generate_if_missing`. -/
def generateIfMissing : Except SigningKeyError (SigningKeyService × OAuthSigningKey) :=
  match inst.activeSigningKey rsa service now pem with
  | .error .signingKeyError => service.generateAndPersist rsa now pem
  | result => result

/-- `rotate`; an environment key is not rotatable. -/
def rotate : Except SigningKeyError SigningKeyService :=
  if inst.envPem ≠ "" then .error .signingKeyError
  else
    match service.rotate rsa now pem with
    | .error e => .error (.store e)
    | .ok service => .ok service

/-- `all_public_jwks`: the environment key first, then the rows with another id. -/
def allPublicJwks : List Jwk :=
  if inst.envPem ≠ "" then
    rsa.jwk inst.envPem :: ((service.keys.filter fun k => k.Published ∧
      k.kid ≠ rsa.deriveKid inst.envPem).map OAuthSigningKey.publicJwk)
  else service.allPublicJwks

end KeyInstance

/-! ### The instances and their database -/

/-- A token, by the key it was signed with; times in microseconds. -/
structure SignedToken where
  privatePem : String
  signedAt : DateTime
  lifetime : ℕ
deriving DecidableEq

/-- The instances of a deployment, and the `max_token_ttl_seconds` its prunes are called
with. -/
structure KeyCluster (ι : Type*) where
  rsa : Rsa
  instances : ι → KeyInstance
  maxTokenTtlSeconds : ℤ

/-- The keys in the database, the cache of each instance, the time and the tokens. -/
structure ClusterState (ι : Type*) where
  keys : List OAuthSigningKey
  caches : ι → Option OAuthSigningKey
  now : DateTime
  tokens : List SignedToken

/-- What may happen next; a new RSA key is the PEM that is drawn. -/
inductive ClusterEvent (ι : Type*) where
  | wait (microseconds : ℕ)
  | activeSigningKey (i : ι) (pem : String)
  | generateIfMissing (i : ι) (pem : String)
  | sign (i : ι) (pem : String) (lifetime : ℕ)
  | rotate (i : ι) (pem : String)
  | pruneRetiring (i : ι)

/-- The state after an operation of an instance. -/
def ClusterState.after {ι : Type*} [DecidableEq ι] (st : ClusterState ι) (i : ι)
    (service : SigningKeyService) : ClusterState ι :=
  { st with keys := service.keys, caches := Function.update st.caches i service.cached }

/-- The row is published for some time, whatever is pruned: it is active, or it retired less
than its grace period before the end of that time. -/
def OAuthSigningKey.ListedUntil (maxTokenTtlSeconds : ℤ) (expires : DateTime)
    (key : OAuthSigningKey) : Prop :=
  key.status = statusActive ∨ key.status = statusRetiring ∧
    ∀ rotated, key.rotatedAt = some rotated → expires < rotated + 2 * maxTokenTtlSeconds * second

namespace KeyCluster

variable {ι : Type*} [DecidableEq ι] (cluster : KeyCluster ι)

/-- An instance, with the keys in the database. -/
def service (st : ClusterState ι) (i : ι) : SigningKeyService := ⟨st.keys, st.caches i⟩

/-- The state after an event; one that raises changes nothing. -/
def act (st : ClusterState ι) : ClusterEvent ι → ClusterState ι
  | .wait microseconds => { st with now := st.now + microseconds }
  | .activeSigningKey i pem =>
      match (cluster.instances i).activeSigningKey cluster.rsa (service st i) st.now pem with
      | .error _ => st
      | .ok (service, _) => st.after i service
  | .generateIfMissing i pem =>
      match (cluster.instances i).generateIfMissing cluster.rsa (service st i) st.now pem with
      | .error _ => st
      | .ok (service, _) => st.after i service
  | .sign i pem lifetime =>
      match (cluster.instances i).activeSigningKey cluster.rsa (service st i) st.now pem with
      | .error _ => st
      | .ok (service, key) =>
          let st' := st.after i service
          { st' with tokens := st.tokens ++ [⟨key.privatePem, st.now, lifetime⟩] }
  | .rotate i pem =>
      match (cluster.instances i).rotate cluster.rsa (service st i) st.now pem with
      | .error _ => st
      | .ok service => st.after i service
  | .pruneRetiring i =>
      st.after i ((service st i).pruneRetiring st.now cluster.maxTokenTtlSeconds)

/-- A token lives for `max_token_ttl_seconds` at most. -/
def Admits : ClusterEvent ι → Prop
  | .sign _ _ lifetime => (lifetime : ℤ) ≤ cluster.maxTokenTtlSeconds * second
  | _ => True

/-- The runs of the instances, from any database, with nothing cached yet. -/
def machine : Machine (ClusterState ι) (ClusterEvent ι) where
  initial := fun st => SigningKeyService.KeysWellFormed cluster.rsa ⟨st.keys, none⟩ ∧
    (∀ i, st.caches i = none) ∧ st.tokens = []
  step := fun st e st' => cluster.Admits e ∧ st' = cluster.act st e

/-- The key of every token that has not expired is in the JWKS of every instance. -/
def Verifiable (st : ClusterState ι) : Prop :=
  ∀ token ∈ st.tokens, st.now ≤ token.signedAt + token.lifetime →
    ∀ i, cluster.rsa.jwk token.privatePem ∈
      (cluster.instances i).allPublicJwks cluster.rsa (service st i)

/-- The key is in the environment of every instance, or its row is published for some
time. -/
def ListedUntil (st : ClusterState ι) (pem : String) (expires : DateTime) : Prop :=
  (∀ i, (cluster.instances i).envPem ≠ "" ∧
      cluster.rsa.jwk (cluster.instances i).envPem = cluster.rsa.jwk pem) ∨
    ∃ row ∈ st.keys, row.publicJwk = cluster.rsa.jwk pem ∧
      row.ListedUntil cluster.maxTokenTtlSeconds expires

/-- The key an instance signs with without a look at the database. -/
def held (st : ClusterState ι) (i : ι) : Option String :=
  match st.caches i with
  | some key => some key.privatePem
  | none =>
      if (cluster.instances i).envPem ≠ "" then some (cluster.instances i).envPem else none

/-- The condition on a step: who signs with a key it holds finds it listed for the lifetime
of the token. -/
def Fresh (st : ClusterState ι) : ClusterEvent ι → Prop
  | .sign i _ lifetime =>
      ∀ pem, cluster.held st i = some pem → cluster.ListedUntil st pem (st.now + lifetime)
  | _ => True

end KeyCluster

/-- No two private keys with different public halves share an id. -/
def Rsa.KidsDistinct (rsa : Rsa) : Prop :=
  ∀ p q, rsa.deriveKid p = rsa.deriveKid q → rsa.publicMaterial p = rsa.publicMaterial q

/-! ### What an instance does to the keys -/

/-- What an operation does to the keys in the database. -/
structure KeysMove (rsa : Rsa) (now : DateTime) (ttl : ℤ) (keys keys' : List OAuthSigningKey) :
    Prop where
  wellFormed : SigningKeyService.KeysWellFormed rsa ⟨keys', none⟩
  kept : ∀ k ∈ keys, ∃ k' ∈ keys', k'.publicJwk = k.publicJwk ∧
    (k' = k ∨ k'.status = statusRetiring ∧ k'.rotatedAt = some now ∨
      SigningKeyService.GraceOver now ttl k)

namespace KeyInstance

variable {rsa : Rsa} {inst : KeyInstance} {service service' : SigningKeyService} {now : DateTime}
  {pem : String} {keys keys' : List OAuthSigningKey} {key : OAuthSigningKey} {ttl : ℤ}

lemma keysMove_refl (hw : SigningKeyService.KeysWellFormed rsa ⟨keys, none⟩) :
    KeysMove rsa now ttl keys keys :=
  ⟨hw, fun k hk => ⟨k, hk, rfl, Or.inl rfl⟩⟩

lemma keysMove_of_kept (hw : SigningKeyService.KeysWellFormed rsa ⟨keys, none⟩)
    (hw' : SigningKeyService.KeysWellFormed rsa ⟨keys', none⟩) (h : Kept now keys keys') :
    KeysMove rsa now ttl keys keys' := by
  refine ⟨hw', fun k hk => ?_⟩
  obtain ⟨k', hk', -, hpem, hrest⟩ := h k hk
  refine ⟨k', hk', ?_, hrest.imp id Or.inl⟩
  rw [(hw'.pairs k' hk').2, (hw.pairs k hk).2, hpem]

/-- The database part of what an operation keeps. -/
lemma wellFormed_uncached (hw : SigningKeyService.KeysWellFormed rsa service) :
    SigningKeyService.KeysWellFormed rsa ⟨service.keys, none⟩ :=
  ⟨hw.kids, hw.pairs, fun _ h => by cases h⟩

lemma generateAndPersist_spec (hw : SigningKeyService.KeysWellFormed rsa ⟨service.keys, none⟩)
    (h : service.generateAndPersist rsa now pem = .ok (service', key)) :
    KeysMove rsa now ttl service.keys service'.keys ∧
      ∃ row ∈ service'.keys, row.privatePem = key.privatePem ∧ row.status = statusActive := by
  obtain ⟨hw', hkept, row, hrow, -, hpem, hactive⟩ :=
    SigningKeyService.generateAndPersist_signs ⟨service.keys, none⟩ hw h
  exact ⟨keysMove_of_kept hw (wellFormed_uncached hw') hkept, row, hrow, hpem, hactive⟩

variable (service ttl) in
/-- What an instance signs with: the key it holds, or a row that is active. -/
lemma activeSigningKey_spec (hw : SigningKeyService.KeysWellFormed rsa ⟨service.keys, none⟩)
    (h : inst.activeSigningKey rsa service now pem = .ok (service', key)) :
    KeysMove rsa now ttl service.keys service'.keys ∧
      (service'.keys = service.keys ∧
          (service.cached = some key ∨
            service.cached = none ∧ inst.envPem ≠ "" ∧ key.privatePem = inst.envPem) ∨
        service.cached = none ∧ inst.envPem = "" ∧
          ∃ row ∈ service'.keys, row.privatePem = key.privatePem ∧ row.status = statusActive) := by
  rw [activeSigningKey] at h
  split at h
  · rename_i cached hcached
    obtain ⟨rfl, rfl⟩ := Prod.mk.inj (Except.ok.inj h)
    exact ⟨keysMove_refl hw, Or.inl ⟨rfl, Or.inl hcached⟩⟩
  · rename_i hcached
    split at h
    · rename_i henv
      obtain ⟨rfl, rfl⟩ := Prod.mk.inj (Except.ok.inj h)
      exact ⟨keysMove_refl hw, Or.inl ⟨rfl, Or.inr ⟨hcached, henv, rfl⟩⟩⟩
    · rename_i henv
      have hservice : (⟨service.keys, none⟩ : SigningKeyService) = service := by
        rw [← hcached]
      rw [← hservice] at h
      obtain ⟨hw', hkept, row, hrow, -, hpem, hactive⟩ :=
        SigningKeyService.activeSigningKey_signs hw h
      exact ⟨keysMove_of_kept hw (wellFormed_uncached hw') hkept,
        Or.inr ⟨hcached, not_not.mp henv, row, hrow, hpem, hactive⟩⟩

variable (service ttl) in
lemma generateIfMissing_spec (hw : SigningKeyService.KeysWellFormed rsa ⟨service.keys, none⟩)
    (h : inst.generateIfMissing rsa service now pem = .ok (service', key)) :
    KeysMove rsa now ttl service.keys service'.keys := by
  rw [generateIfMissing] at h
  split at h
  · exact (generateAndPersist_spec hw h).1
  · exact (activeSigningKey_spec service ttl hw h).1

variable (service ttl) in
lemma rotate_spec (hw : SigningKeyService.KeysWellFormed rsa ⟨service.keys, none⟩)
    (h : inst.rotate rsa service now pem = .ok service') :
    KeysMove rsa now ttl service.keys service'.keys := by
  rw [rotate] at h
  split at h
  · cases h
  · split at h
    · cases h
    · rename_i rotated hrotate
      obtain rfl := Except.ok.inj h
      obtain ⟨hw', hkept⟩ :=
        SigningKeyService.rotate_spec ⟨service.keys, none⟩ hw hrotate
      exact keysMove_of_kept hw (wellFormed_uncached hw') hkept

variable (service now ttl) in
lemma pruneRetiring_spec (hw : SigningKeyService.KeysWellFormed rsa ⟨service.keys, none⟩) :
    KeysMove rsa now ttl service.keys (service.pruneRetiring now ttl).keys := by
  obtain ⟨hw', hpruned⟩ := SigningKeyService.pruneRetiring_spec
    ⟨service.keys, none⟩ now ttl hw
  refine ⟨⟨hw'.kids, hw'.pairs, fun _ h => by cases h⟩, fun k hk => ?_⟩
  obtain ⟨k', hk', -, hpem, hrest⟩ := hpruned k hk
  refine ⟨k', hk', ?_, ?_⟩
  · rw [(hw'.pairs k' hk').2, (hw.pairs k hk).2, hpem]
  · rcases hrest with ⟨-, rfl⟩ | ⟨hgrace, -⟩
    · exact Or.inl rfl
    · exact Or.inr (Or.inr hgrace)

variable (service) in
/-- **The JWKS of an instance**, for a key in its environment or in the database. -/
lemma mem_allPublicJwks (hkids : rsa.KidsDistinct)
    (hw : SigningKeyService.KeysWellFormed rsa ⟨service.keys, none⟩) :
    rsa.jwk pem ∈ inst.allPublicJwks rsa service ↔
      inst.envPem ≠ "" ∧ rsa.jwk inst.envPem = rsa.jwk pem ∨
        ∃ row ∈ service.keys, row.publicJwk = rsa.jwk pem ∧ row.Published := by
  rw [allPublicJwks]
  split
  · rename_i henv
    rw [List.mem_cons]
    constructor
    · rintro (hhead | hrow)
      · exact Or.inl ⟨henv, hhead.symm⟩
      · obtain ⟨row, hrow, hjwk⟩ := List.mem_map.mp hrow
        obtain ⟨hmem, hkeep⟩ := List.mem_filter.mp hrow
        exact Or.inr ⟨row, hmem, hjwk, (of_decide_eq_true hkeep).1⟩
    · rintro (⟨-, hjwk⟩ | ⟨row, hrow, hjwk, hpublished⟩)
      · exact Or.inl hjwk.symm
      · by_cases hkid : row.kid = rsa.deriveKid inst.envPem
        · -- the row is left out for the environment key, which is the same key
          have hpair := hw.pairs row hrow
          have hsame : rsa.jwk row.privatePem = rsa.jwk inst.envPem := by
            have hids : rsa.deriveKid row.privatePem = rsa.deriveKid inst.envPem :=
              hpair.1.symm.trans hkid
            rw [Rsa.jwk, Rsa.jwk, hids, hkids _ _ hids]
          exact Or.inl (hjwk.symm.trans (hpair.2.trans hsame))
        · exact Or.inr (List.mem_map.mpr ⟨row,
            List.mem_filter.mpr ⟨hrow, decide_eq_true ⟨hpublished, hkid⟩⟩, hjwk⟩)
  · rename_i henv
    rw [SigningKeyService.allPublicJwks, List.mem_map]
    constructor
    · rintro ⟨row, hrow, hjwk⟩
      obtain ⟨hmem, hpublished⟩ := List.mem_filter.mp hrow
      exact Or.inr ⟨row, hmem, hjwk, of_decide_eq_true hpublished⟩
    · rintro (⟨hset, -⟩ | ⟨row, hrow, hjwk, hpublished⟩)
      · exact absurd hset henv
      · exact ⟨row, List.mem_filter.mpr ⟨hrow, decide_eq_true hpublished⟩, hjwk⟩

end KeyInstance

/-! ### Steps -/

namespace KeyCluster

variable {ι : Type*} [DecidableEq ι] {cluster : KeyCluster ι} {st st' : ClusterState ι}
  {e : ClusterEvent ι} {pem : String} {expires : DateTime}

variable (cluster) in
/-- What holds of keys and tokens in every state. -/
structure Sound (st : ClusterState ι) : Prop where
  wellFormed : SigningKeyService.KeysWellFormed cluster.rsa ⟨st.keys, none⟩
  /-- A token was signed in the past, and expires within `max_token_ttl_seconds`. -/
  tokens : ∀ token ∈ st.tokens,
    token.signedAt + token.lifetime ≤ st.now + cluster.maxTokenTtlSeconds * second

variable (cluster) in
/-- What an event does to the keys. -/
lemma keysMove_act (hw : SigningKeyService.KeysWellFormed cluster.rsa ⟨st.keys, none⟩)
    (e : ClusterEvent ι) :
    KeysMove cluster.rsa st.now cluster.maxTokenTtlSeconds st.keys (cluster.act st e).keys := by
  cases e with
  | wait microseconds => exact KeyInstance.keysMove_refl hw
  | activeSigningKey i pem =>
      rw [act]
      split
      · exact KeyInstance.keysMove_refl hw
      · rename_i service key h
        exact (KeyInstance.activeSigningKey_spec (KeyCluster.service st i) _ hw h).1
  | generateIfMissing i pem =>
      rw [act]
      split
      · exact KeyInstance.keysMove_refl hw
      · rename_i service key h
        exact KeyInstance.generateIfMissing_spec (KeyCluster.service st i) _ hw h
  | sign i pem lifetime =>
      rw [act]
      split
      · exact KeyInstance.keysMove_refl hw
      · rename_i service key h
        exact (KeyInstance.activeSigningKey_spec (KeyCluster.service st i) _ hw h).1
  | rotate i pem =>
      rw [act]
      split
      · exact KeyInstance.keysMove_refl hw
      · rename_i service h
        exact KeyInstance.rotate_spec (KeyCluster.service st i) _ hw h
  | pruneRetiring i => exact KeyInstance.pruneRetiring_spec (KeyCluster.service st i) _ _ hw

/-- Time goes forward. -/
lemma now_le_act (st : ClusterState ι) (e : ClusterEvent ι) : st.now ≤ (cluster.act st e).now := by
  cases e with
  | wait microseconds => exact Int.le_add_of_nonneg_right (Int.natCast_nonneg _)
  | pruneRetiring i => exact le_rfl
  | _ =>
      rw [act]
      split <;> exact le_rfl

variable (cluster pem) in
/-- A signature: with the key the instance holds, or with an active row. -/
lemma act_sign (i : ι) (lifetime : ℕ)
    (hw : SigningKeyService.KeysWellFormed cluster.rsa ⟨st.keys, none⟩) :
    (cluster.act st (.sign i pem lifetime)).tokens = st.tokens ∧ cluster.held st i = none ∨
      ∃ privatePem, (cluster.act st (.sign i pem lifetime)).tokens =
          st.tokens ++ [⟨privatePem, st.now, lifetime⟩] ∧
        (cluster.held st i = some privatePem ∧
            (cluster.act st (.sign i pem lifetime)).keys = st.keys ∨
          cluster.held st i = none ∧ ∃ row ∈ (cluster.act st (.sign i pem lifetime)).keys,
            row.privatePem = privatePem ∧ row.status = statusActive) := by
  rw [act]
  split
  · rename_i hraised
    refine Or.inl ⟨rfl, ?_⟩
    rw [KeyInstance.activeSigningKey] at hraised
    rw [held]
    split at hraised
    · cases hraised
    · rename_i hcached
      have hcached : st.caches i = none := hcached
      rw [hcached]
      split at hraised
      · cases hraised
      · rename_i henv
        exact if_neg henv
  · rename_i service key h
    refine Or.inr ⟨key.privatePem, rfl, ?_⟩
    obtain ⟨-, hkey⟩ := KeyInstance.activeSigningKey_spec (KeyCluster.service st i)
      cluster.maxTokenTtlSeconds hw h
    rcases hkey with ⟨hkeys, hcached | ⟨hcached, henv, hpem⟩⟩ | ⟨hcached, henv, hrow⟩
    · have hcached : st.caches i = some key := hcached
      exact Or.inl ⟨by rw [held, hcached], hkeys⟩
    · have hcached : st.caches i = none := hcached
      refine Or.inl ⟨?_, hkeys⟩
      rw [held, hcached, hpem]
      exact if_pos henv
    · have hcached : st.caches i = none := hcached
      refine Or.inr ⟨?_, hrow⟩
      rw [held, hcached]
      exact if_neg (not_not.mpr henv)

variable (cluster st) in
/-- Only a signature adds a token. -/
lemma tokens_act (e : ClusterEvent ι) :
    (cluster.act st e).tokens = st.tokens ∨ ∃ i pem lifetime, e = .sign i pem lifetime := by
  cases e with
  | sign i pem lifetime => exact Or.inr ⟨i, pem, lifetime, rfl⟩
  | wait microseconds => exact Or.inl rfl
  | pruneRetiring i => exact Or.inl rfl
  | _ =>
      refine Or.inl ?_
      rw [act]
      split <;> rfl

/-- **What one event keeps of a listed key**, as long as its time has not passed. -/
lemma listedUntil_act (httl : 0 < cluster.maxTokenTtlSeconds)
    (hw : SigningKeyService.KeysWellFormed cluster.rsa ⟨st.keys, none⟩) (hnow : st.now ≤ expires)
    (hexpires : expires ≤ st.now + cluster.maxTokenTtlSeconds * second)
    (h : cluster.ListedUntil st pem expires) (e : ClusterEvent ι) :
    cluster.ListedUntil (cluster.act st e) pem expires := by
  refine h.imp id ?_
  rintro ⟨row, hrow, hjwk, hlisted⟩
  obtain ⟨row', hrow', hjwk', hrest⟩ := (keysMove_act cluster hw e).kept row hrow
  refine ⟨row', hrow', hjwk'.trans hjwk, ?_⟩
  rcases hrest with rfl | ⟨hretiring, hrotated⟩ | ⟨hretiring, rotated, hrotated, hover⟩
  · exact hlisted
  · refine Or.inr ⟨hretiring, fun r hr => ?_⟩
    obtain rfl := Option.some.inj (hrotated.symm.trans hr)
    have hpos : 0 < cluster.maxTokenTtlSeconds * second := Int.mul_pos httl (by decide)
    calc
      expires ≤ st.now + cluster.maxTokenTtlSeconds * second := hexpires
      _ < st.now + 2 * cluster.maxTokenTtlSeconds * second := by
        rw [Int.mul_assoc]
        exact Int.add_lt_add_left (by omega) _
  · rcases hlisted with hactive | ⟨-, hgrace⟩
    · exact absurd (hactive.symm.trans hretiring) (by decide)
    · have hlt : expires < rotated + 2 * cluster.maxTokenTtlSeconds * second :=
        hgrace rotated hrotated
      exact absurd (lt_of_le_of_lt hnow hlt) (not_lt.mpr (le_sub_iff_add_le.mp hover))

/-! ### Runs -/

lemma sound_act (hsound : cluster.Sound st) (hadmits : cluster.Admits e) :
    cluster.Sound (cluster.act st e) := by
  refine ⟨(keysMove_act cluster hsound.wellFormed e).wellFormed, fun token htoken => ?_⟩
  have hold : ∀ token ∈ st.tokens, token.signedAt + token.lifetime ≤
      (cluster.act st e).now + cluster.maxTokenTtlSeconds * second := fun token htoken =>
    le_trans (hsound.tokens token htoken) (Int.add_le_add_right (now_le_act st e) _)
  rcases tokens_act cluster st e with hsame | ⟨i, pem, lifetime, rfl⟩
  · exact hold token (hsame ▸ htoken)
  · rcases act_sign cluster pem i lifetime
      hsound.wellFormed with ⟨hsame, -⟩ | ⟨privatePem, hadded, -⟩
    · exact hold token (hsame ▸ htoken)
    · rw [hadded] at htoken
      rcases List.mem_append.mp htoken with htoken | hnew
      · exact hold token htoken
      · rw [List.mem_singleton.mp hnew]
        exact Int.add_le_add (now_le_act st _) hadmits

/-- An invariant of every run. -/
theorem sound_of_reachable (h : cluster.machine.Reachable st) : cluster.Sound st := by
  refine h.invariant ?_ ?_
  · rintro st ⟨hw, -, hnone⟩
    refine ⟨hw, fun token htoken => ?_⟩
    rw [hnone] at htoken
    cases htoken
  · rintro st e st' - hsound ⟨hadmits, rfl⟩
    exact sound_act hsound hadmits

variable (cluster) in
/-- The keys of the tokens that have not expired are listed for as long. -/
def Covered (st : ClusterState ι) : Prop :=
  ∀ token ∈ st.tokens, st.now ≤ token.signedAt + token.lifetime →
    cluster.ListedUntil st token.privatePem (token.signedAt + token.lifetime)

/-- A fresh event leaves the keys of all tokens listed for their lifetime. -/
lemma covered_act (httl : 0 < cluster.maxTokenTtlSeconds) (hsound : cluster.Sound st)
    (hcovered : cluster.Covered st) (hadmits : cluster.Admits e) (hfresh : cluster.Fresh st e) :
    cluster.Covered (cluster.act st e) := by
  have hold : ∀ token ∈ st.tokens,
      (cluster.act st e).now ≤ token.signedAt + token.lifetime →
        cluster.ListedUntil (cluster.act st e) token.privatePem
          (token.signedAt + token.lifetime) := by
    intro token htoken hlive
    have hlive' := le_trans (now_le_act st e) hlive
    exact listedUntil_act httl hsound.wellFormed hlive' (hsound.tokens token htoken)
      (hcovered token htoken hlive') e
  intro token htoken hlive
  rcases tokens_act cluster st e with hsame | ⟨i, pem, lifetime, rfl⟩
  · exact hold token (hsame ▸ htoken) hlive
  · rcases act_sign cluster pem i lifetime
      hsound.wellFormed with ⟨hsame, -⟩ | ⟨privatePem, hadded, hkey⟩
    · exact hold token (hsame ▸ htoken) hlive
    · rw [hadded] at htoken
      rcases List.mem_append.mp htoken with htoken | hnew
      · exact hold token htoken hlive
      · obtain rfl := List.mem_singleton.mp hnew
        rcases hkey with ⟨hheld, -⟩ | ⟨-, row, hrow, hpem, hactive⟩
        · exact listedUntil_act httl hsound.wellFormed
            (Int.le_add_of_nonneg_right (Int.natCast_nonneg _)) (Int.add_le_add_left hadmits _)
            (hfresh privatePem hheld) _
        · have hw' := (keysMove_act cluster hsound.wellFormed
            (.sign i pem lifetime)).wellFormed
          exact Or.inr ⟨row, hrow, by rw [(hw'.pairs row hrow).2, hpem], Or.inl hactive⟩

omit [DecidableEq ι] in
/-- A listed key is in the JWKS of every instance. -/
lemma ListedUntil.listed (hkids : cluster.rsa.KidsDistinct)
    (hw : SigningKeyService.KeysWellFormed cluster.rsa ⟨st.keys, none⟩)
    (h : cluster.ListedUntil st pem expires) (i : ι) :
    cluster.rsa.jwk pem ∈ (cluster.instances i).allPublicJwks cluster.rsa (service st i) := by
  refine (KeyInstance.mem_allPublicJwks (service st i) hkids hw).mpr ?_
  rcases h with henv | ⟨row, hrow, hjwk, hlisted⟩
  · exact Or.inl (henv i)
  · exact Or.inr ⟨row, hrow, hjwk, hlisted.imp id And.left⟩

/-- A key that is listed now, but not for some time: pruning at the end of its grace period
takes it out of a JWKS. -/
lemma exists_unlisted (hkids : cluster.rsa.KidsDistinct)
    (hw : SigningKeyService.KeysWellFormed cluster.rsa ⟨st.keys, none⟩) (hnow : st.now ≤ expires)
    (h : ¬cluster.ListedUntil st pem expires) : ∃ events : List (ClusterEvent ι), ∃ i,
      (∀ e ∈ events, cluster.Admits e) ∧ (events.foldl cluster.act st).tokens = st.tokens ∧
        (events.foldl cluster.act st).now ≤ expires ∧
        cluster.rsa.jwk pem ∉ (cluster.instances i).allPublicJwks cluster.rsa
          (service (events.foldl cluster.act st) i) := by
  rw [ListedUntil, not_or] at h
  obtain ⟨henv, hrows⟩ := h
  obtain ⟨i, henv⟩ := not_forall.mp henv
  by_cases hpublished : ∃ row ∈ st.keys, row.publicJwk = cluster.rsa.jwk pem ∧ row.Published
  · obtain ⟨row, hrow, hjwk, hpublished⟩ := hpublished
    have hlapses : ¬row.ListedUntil cluster.maxTokenTtlSeconds expires := fun hlisted =>
      hrows ⟨row, hrow, hjwk, hlisted⟩
    rw [OAuthSigningKey.ListedUntil, not_or, not_and] at hlapses
    have hretiring : row.status = statusRetiring := hpublished.resolve_left hlapses.1
    have hrotated := hlapses.2 hretiring
    push Not at hrotated
    obtain ⟨rotated, hrotated, hover⟩ := hrotated
    have hover : rotated + 2 * cluster.maxTokenTtlSeconds * second ≤ expires := hover
    set elapsed := (rotated + 2 * cluster.maxTokenTtlSeconds * second - st.now).toNat
      with helapsed
    have hlate : rotated + 2 * cluster.maxTokenTtlSeconds * second ≤ st.now + elapsed :=
      sub_le_iff_le_add'.mp (Int.self_le_toNat _)
    refine ⟨[.wait elapsed, .pruneRetiring i], i, fun e he => ?_, rfl, ?_, fun hmem => ?_⟩
    · rcases List.mem_pair.mp he with rfl | rfl <;> exact trivial
    · change st.now + elapsed ≤ expires
      rcases Int.le_total 0 (rotated + 2 * cluster.maxTokenTtlSeconds * second - st.now) with
        hpos | hneg
      · rw [helapsed, Int.toNat_of_nonneg hpos]
        exact (add_sub_cancel _ _).trans_le hover
      · rw [helapsed, Int.toNat_of_nonpos hneg]
        exact (add_zero _).trans_le hnow
    · have hw' := (KeyInstance.pruneRetiring_spec (service st i) (st.now + elapsed)
        cluster.maxTokenTtlSeconds hw).wellFormed
      rcases (KeyInstance.mem_allPublicJwks ((service st i).pruneRetiring
        (st.now + elapsed) cluster.maxTokenTtlSeconds) hkids hw').mp hmem with
        h | ⟨row', hrow', hjwk', hpublished'⟩
      · exact henv h
      · obtain ⟨k, hk, rfl⟩ := List.mem_map.mp hrow'
        have hk : k ∈ st.keys := hk
        have hkjwk : k.publicJwk = row.publicJwk := by
          rw [hjwk, ← hjwk']
          split <;> rfl
        have hkid : k.kid = row.kid := by
          have hjwks := hkjwk
          rw [(hw.pairs k hk).2, (hw.pairs row hrow).2] at hjwks
          rw [(hw.pairs k hk).1, (hw.pairs row hrow).1]
          exact Option.some.inj (congrArg Jwk.kid hjwks)
        obtain rfl := List.inj_on_of_nodup_map hw.kids hk hrow hkid
        have hgrace : SigningKeyService.GraceOver (st.now + elapsed) cluster.maxTokenTtlSeconds k :=
          ⟨hretiring, rotated, hrotated, le_sub_iff_add_le.mpr hlate⟩
        rw [if_pos hgrace] at hpublished'
        rcases hpublished' with h | h <;>
          exact absurd (show statusRevoked = _ from h) (by decide)
  · refine ⟨[], i, (fun _ h => by cases h), rfl, hnow, fun hmem => ?_⟩
    rcases (KeyInstance.mem_allPublicJwks (service st i) hkids hw).mp hmem with h | h
    · exact henv h
    · exact hpublished h

/-- **Tokens stay verifiable where no one signs with a stale key**: in a run in which whoever
signs with a key it holds finds it listed for the lifetime of the token, the key of every
token is in every JWKS until the token expires; any other signature can be followed by a
state in which it is missing before that. -/
theorem tokens_verifiable (cluster : KeyCluster ι) (hkids : cluster.rsa.KidsDistinct)
    (httl : 0 < cluster.maxTokenTtlSeconds) :
    (∀ st, (cluster.machine.restrict cluster.Fresh).Reachable st → cluster.Verifiable st) ∧
      ∀ st e st', cluster.machine.Reachable st → cluster.machine.step st e st' →
        ¬cluster.Fresh st e → ∃ events : List (ClusterEvent ι),
          (∀ e' ∈ events, cluster.Admits e') ∧
            ¬cluster.Verifiable (events.foldl cluster.act st') := by
  refine ⟨fun st h => ?_, ?_⟩
  · have hcovered : cluster.Covered st := by
      refine h.invariant ?_ ?_
      · rintro st ⟨-, -, hnone⟩ token htoken
        rw [hnone] at htoken
        cases htoken
      · rintro st e st' hreach hcovered ⟨⟨hadmits, rfl⟩, hfresh⟩
        exact covered_act httl (sound_of_reachable hreach.of_restrict) hcovered hadmits hfresh
    intro token htoken hlive i
    exact (hcovered token htoken hlive).listed hkids
      (sound_of_reachable h.of_restrict).wellFormed i
  · rintro st e st' hreach ⟨-, rfl⟩ hstale
    cases e with
    | sign i pem lifetime =>
        rw [Fresh] at hstale
        push Not at hstale
        obtain ⟨privatePem, hheld, hunlisted⟩ := hstale
        have hw := (sound_of_reachable hreach).wellFormed
        rcases act_sign cluster pem i lifetime hw with
          ⟨-, hnone⟩ | ⟨used, htokens, ⟨hused, hkeys⟩ | ⟨hnone, -⟩⟩
        · exact absurd (hheld.symm.trans hnone) (by simp)
        · obtain rfl := Option.some.inj (hheld.symm.trans hused)
          have hnow : (cluster.act st (.sign i pem lifetime)).now = st.now := by
            rw [act]
            split <;> rfl
          have hunlisted' : ¬cluster.ListedUntil (cluster.act st (.sign i pem lifetime)) privatePem
              (st.now + lifetime) := by
            rw [ListedUntil, hkeys]
            exact hunlisted
          obtain ⟨events, j, hadmits, hsame, hlive, hmissing⟩ := exists_unlisted hkids
            (keysMove_act cluster hw _).wellFormed
            (hnow.trans_le (Int.le_add_of_nonneg_right (Int.natCast_nonneg _))) hunlisted'
          refine ⟨events, hadmits, fun hverifiable => hmissing ?_⟩
          refine hverifiable ⟨privatePem, st.now, lifetime⟩ ?_ hlive j
          rw [hsame, htokens]
          exact List.mem_append_right _ (List.mem_singleton_self _)
        · exact absurd (hheld.symm.trans hnone) (by simp)
    | _ => exact absurd trivial hstale

/-! ### A worker that never looks -/

/-- Two instances without an environment key: a worker and the command line. -/
def twoInstances : KeyCluster Bool where
  rsa := ⟨id, id⟩
  instances := fun _ => ⟨"", false, "postgresql://db"⟩
  maxTokenTtlSeconds := 3600

theorem tokens_verifiable_twoInstances :
    (∀ st, (twoInstances.machine.restrict twoInstances.Fresh).Reachable st →
        twoInstances.Verifiable st) ∧
      ∀ st e st', twoInstances.machine.Reachable st → twoInstances.machine.step st e st' →
        ¬twoInstances.Fresh st e → ∃ events : List (ClusterEvent Bool),
          (∀ e' ∈ events, twoInstances.Admits e') ∧
            ¬twoInstances.Verifiable (events.foldl twoInstances.act st') :=
  tokens_verifiable twoInstances (fun _ _ h => h) (by decide)

/-- One key, not cached by anyone. -/
def oneKey : ClusterState Bool :=
  ⟨[SigningKeyService.newKey ⟨id, id⟩ 0 "first"], fun _ => none, 0, []⟩

/-- The worker signs, the command line rotates, the grace period passes and the keys are
pruned; then the worker signs again. -/
def staleWorker : List (ClusterEvent Bool) :=
  [.sign true "" 3600000000, .rotate false "second", .wait 7200000000, .pruneRetiring false,
    .sign true "" 3600000000]

/-- The worker's second token names a revoked key. -/
theorem staleWorker_not_verifiable :
    ¬∀ st, twoInstances.machine.Reachable st → twoInstances.Verifiable st := by
  intro h
  have hinitial : twoInstances.machine.initial oneKey :=
    ⟨⟨by decide, by decide, fun _ hk => by cases hk⟩, fun _ => rfl, rfl⟩
  have hreach : twoInstances.machine.Reachable (staleWorker.foldl twoInstances.act oneKey) := by
    refine Machine.Reachable.foldl (fun st e he => ?_) (.init hinitial)
    fin_cases he
    · exact ⟨le_refl (3600000000 : ℤ), rfl⟩
    · exact ⟨trivial, rfl⟩
    · exact ⟨trivial, rfl⟩
    · exact ⟨trivial, rfl⟩
    · exact ⟨le_refl (3600000000 : ℤ), rfl⟩
  have hmem := h _ hreach ⟨"first", 7200000000, 3600000000⟩ (by decide) (by decide) true
  exact absurd hmem (by decide)

end KeyCluster

end AuthzKit
