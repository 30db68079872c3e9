import AuthzKit.Security.Issuance

/-!
`SigningKeyService` of `authzkit/security/signing_keys.py` with keys in the database:
the key new tokens are signed with, rotation, and the pruning of retired keys.

The RSA functions are a parameter (`Rsa`): an RSA key pair is given by its private PEM,
and a new pair is the PEM an operation draws.

* `activeSigningKey`, `rotate`, `pruneRetiring`: the operations.
* `KeysWellFormed`: what they keep; `Grows` says what happens to the keys that are there.
-/

namespace AuthzKit

open Delegations

/-- `_derive_kid` and the public half of a private PEM. -/
structure Rsa where
  deriveKid : (pem : String) → String
  publicMaterial : (pem : String) → String

/-- The public JWK of a private PEM. -/
def Rsa.jwk (rsa : Rsa) (pem : String) : Jwk := ⟨some (rsa.deriveKid pem), rsa.publicMaterial pem⟩

/-- A row of `oauth_signing_keys`. -/
structure OAuthSigningKey where
  kid : String
  publicJwk : Jwk
  privatePem : String
  status : String
  createdAt : DateTime
  rotatedAt : Option DateTime
deriving DecidableEq, Repr

def statusRetiring : String := "retiring"

def statusRevoked : String := "revoked"

/-- Its public half is in the JWKS. -/
def OAuthSigningKey.Published (key : OAuthSigningKey) : Prop :=
  key.status = statusActive ∨ key.status = statusRetiring

instance : DecidablePred OAuthSigningKey.Published := fun key =>
  inferInstanceAs (Decidable (key.status = statusActive ∨ key.status = statusRetiring))

inductive SigningKeyError where
  | signingKeyError
  | store (e : StoreError)
deriving DecidableEq

/-- The keys in the database, and the one the process has cached. -/
structure SigningKeyService where
  keys : List OAuthSigningKey
  cached : Option OAuthSigningKey
deriving DecidableEq

namespace SigningKeyService

variable (rsa : Rsa) (service : SigningKeyService) (now : DateTime) (pem : String)

/-- The row of a new key pair. -/
def newKey : OAuthSigningKey where
  kid := rsa.deriveKid pem
  publicJwk := rsa.jwk pem
  privatePem := pem
  status := statusActive
  createdAt := now
  rotatedAt := none

/-- The keys with a new active one: `kid` is the primary key, and a partial unique index
allows one active row. -/
def insertActive (keys : List OAuthSigningKey) (key : OAuthSigningKey) :
    Except StoreError (List OAuthSigningKey) :=
  if ∃ k ∈ keys, k.kid = key.kid ∨ k.status = statusActive then .error .integrityError
  else .ok (keys ++ [key])

/-- `_load_db_active`; the index leaves its `ORDER BY` one row at most. -/
def loadDbActive : Option OAuthSigningKey := service.keys.find? fun k => k.status = statusActive

/-- `_generate_and_persist`, with the new key cached by the caller. -/
def generateAndPersist : Except SigningKeyError (SigningKeyService × OAuthSigningKey) :=
  let key := newKey rsa now pem
  match insertActive service.keys key with
  | .error e => .error (.store e)
  | .ok keys => .ok (⟨keys, some key⟩, key)

/-- `active_signing_key`; `devMode` says that the process runs in dev mode on SQLite. -/
def activeSigningKey (devMode : Bool) :
    Except SigningKeyError (SigningKeyService × OAuthSigningKey) :=
  match service.cached with
  | some key => .ok (service, key)
  | none =>
      match service.loadDbActive with
      | some key => .ok ({ service with cached := some key }, key)
      | none =>
          if devMode then service.generateAndPersist rsa now pem
          else .error .signingKeyError

/-- `generate_if_missing`. -/
def generateIfMissing (devMode : Bool) :
    Except SigningKeyError (SigningKeyService × OAuthSigningKey) :=
  match service.activeSigningKey rsa now pem devMode with
  | .error .signingKeyError => service.generateAndPersist rsa now pem
  | result => result

/-- The current active key retires. -/
def demote (keys : List OAuthSigningKey) : List OAuthSigningKey :=
  match keys.find? fun k => k.status = statusActive with
  | none => keys
  | some current =>
      Keyed.update OAuthSigningKey.kid keys
        { current with status := statusRetiring, rotatedAt := some now }

/-- `rotate`. -/
def rotate : Except StoreError SigningKeyService :=
  match insertActive (demote now service.keys) (newKey rsa now pem) with
  | .error e => .error e
  | .ok keys => .ok ⟨keys, none⟩

/-- The grace period of a retiring key is over: twice the given token lifetime has passed
since its rotation. -/
def GraceOver (maxTokenTtlSeconds : ℤ) (key : OAuthSigningKey) : Prop :=
  key.status = statusRetiring ∧
    ∃ rotated, key.rotatedAt = some rotated ∧ rotated ≤ now - 2 * maxTokenTtlSeconds * second

instance (maxTokenTtlSeconds : ℤ) : DecidablePred (GraceOver now maxTokenTtlSeconds) := fun key =>
  match h : key.rotatedAt with
  | none => isFalse fun ⟨_, r, hr, _⟩ => by simp [h] at hr
  | some r =>
      decidable_of_iff (key.status = statusRetiring ∧ r ≤ now - 2 * maxTokenTtlSeconds * second) (by
        simp [GraceOver, h])

/-- `prune_retiring`. -/
def pruneRetiring (maxTokenTtlSeconds : ℤ) : SigningKeyService :=
  { service with keys := service.keys.map fun k =>
      if GraceOver now maxTokenTtlSeconds k then { k with status := statusRevoked } else k }

/-- `all_public_jwks`. -/
def allPublicJwks : List Jwk :=
  (service.keys.filter fun k => k.Published).map OAuthSigningKey.publicJwk

end SigningKeyService

/-! ### What the operations keep -/

/-- The keys have distinct ids and are RSA pairs, and the cached key is the active one. -/
structure SigningKeyService.KeysWellFormed (rsa : Rsa) (service : SigningKeyService) : Prop where
  kids : (service.keys.map OAuthSigningKey.kid).Nodup
  pairs : ∀ k ∈ service.keys, k.kid = rsa.deriveKid k.privatePem ∧ k.publicJwk = rsa.jwk k.privatePem
  cached : ∀ k, service.cached = some k → ∃ row ∈ service.keys,
    row.kid = k.kid ∧ row.privatePem = k.privatePem ∧ row.status = statusActive

/-- The keys that are there stay, except that one may retire now. -/
def Kept (now : DateTime) (keys keys' : List OAuthSigningKey) : Prop :=
  ∀ k ∈ keys, ∃ k' ∈ keys', k'.kid = k.kid ∧ k'.privatePem = k.privatePem ∧
    (k' = k ∨ k'.status = statusRetiring ∧ k'.rotatedAt = some now)

namespace Kept

variable {now : DateTime} {keys keys' : List OAuthSigningKey}

lemma refl (now : DateTime) (keys : List OAuthSigningKey) : Kept now keys keys :=
  fun k hk => ⟨k, hk, rfl, rfl, Or.inl rfl⟩

lemma append (h : Kept now keys keys') (new : List OAuthSigningKey) :
    Kept now keys (keys' ++ new) := by
  intro k hk
  obtain ⟨k', hk', hrest⟩ := h k hk
  exact ⟨k', List.mem_append_left _ hk', hrest⟩

end Kept

namespace SigningKeyService

open Keyed

variable {rsa : Rsa} {service service' : SigningKeyService} {now : DateTime} {pem : String}
  {keys keys' : List OAuthSigningKey} {key : OAuthSigningKey}

lemma of_insertActive (h : insertActive keys key = .ok keys') :
    keys' = keys ++ [key] ∧ ∀ k ∈ keys, k.kid ≠ key.kid := by
  rw [insertActive] at h
  split at h
  · cases h
  · rename_i hno
    exact ⟨(Except.ok.inj h).symm, fun k hk hkid => hno ⟨k, hk, Or.inl hkid⟩⟩

/-- The keys after a rotation, up to the new one, are the old ones with one retired. -/
lemma demote_spec (now : DateTime) (hkids : (keys.map OAuthSigningKey.kid).Nodup) :
    (demote now keys).map OAuthSigningKey.kid = keys.map OAuthSigningKey.kid ∧
      Kept now keys (demote now keys) ∧
      ∀ k' ∈ demote now keys, ∃ k ∈ keys, k'.kid = k.kid ∧ k'.privatePem = k.privatePem ∧
        k'.publicJwk = k.publicJwk := by
  rw [demote]
  cases hfind : keys.find? fun k => k.status = statusActive with
  | none => exact ⟨rfl, Kept.refl now keys, fun k hk => ⟨k, hk, rfl, rfl, rfl⟩⟩
  | some current =>
      have hmem := List.mem_of_find?_eq_some hfind
      dsimp only
      refine ⟨map_update _ fun r _ h => h, fun k hk => ?_, fun k' hk' => ?_⟩
      · by_cases hkid : k.kid = current.kid
        · obtain rfl := List.inj_on_of_nodup_map hkids hk hmem hkid
          exact ⟨{ k with status := statusRetiring, rotatedAt := some now },
            mem_update.mpr (Or.inl ⟨rfl, k, hk, rfl⟩), rfl, rfl, Or.inr ⟨rfl, rfl⟩⟩
        · exact ⟨k, mem_update.mpr (Or.inr ⟨hk, hkid⟩), rfl, rfl, Or.inl rfl⟩
      · rcases mem_update.mp hk' with ⟨rfl, -⟩ | ⟨hold, -⟩
        · exact ⟨current, hmem, rfl, rfl, rfl⟩
        · exact ⟨k', hold, rfl, rfl, rfl⟩

/-- A new active key among others. -/
lemma KeysWellFormed.insert {cached : Option OAuthSigningKey}
    (hkids : (keys.map OAuthSigningKey.kid).Nodup)
    (hpairs : ∀ k ∈ keys, k.kid = rsa.deriveKid k.privatePem ∧ k.publicJwk = rsa.jwk k.privatePem)
    (h : insertActive keys (newKey rsa now pem) = .ok keys')
    (hcached : ∀ k, cached = some k → k = newKey rsa now pem) :
    KeysWellFormed rsa ⟨keys', cached⟩ := by
  obtain ⟨rfl, hnew⟩ := of_insertActive h
  refine ⟨?_, fun k hk => ?_, fun k hk => ?_⟩
  · rw [List.map_append]
    refine List.nodup_append.mpr ⟨hkids, List.nodup_singleton _, fun i hi j hj hij => ?_⟩
    obtain ⟨k, hk, rfl⟩ := List.mem_map.mp hi
    exact hnew k hk (hij.trans (List.mem_singleton.mp hj))
  · rcases List.mem_append.mp hk with hold | hadded
    · exact hpairs k hold
    · rw [List.mem_singleton.mp hadded]
      exact ⟨rfl, rfl⟩
  · rw [hcached k hk]
    exact ⟨_, List.mem_append_right _ (List.mem_singleton_self _), rfl, rfl, rfl⟩

/-- What a key for signing is: the active row. -/
structure Signs (rsa : Rsa) (now : DateTime) (service service' : SigningKeyService)
    (key : OAuthSigningKey) : Prop where
  wellFormed : KeysWellFormed rsa service'
  kept : Kept now service.keys service'.keys
  active : ∃ row ∈ service'.keys,
    row.kid = key.kid ∧ row.privatePem = key.privatePem ∧ row.status = statusActive

variable (service) in
lemma generateAndPersist_signs (hw : KeysWellFormed rsa service)
    (h : service.generateAndPersist rsa now pem = .ok (service', key)) :
    Signs rsa now service service' key := by
  rw [generateAndPersist] at h
  split at h
  · cases h
  · rename_i keys' hinsert
    obtain ⟨rfl, rfl⟩ := Prod.mk.inj (Except.ok.inj h)
    have hkeys := (of_insertActive hinsert).1
    exact ⟨KeysWellFormed.insert hw.kids hw.pairs hinsert fun k hk => (Option.some.inj hk).symm,
      hkeys ▸ (Kept.refl now _).append _,
      ⟨_, hkeys ▸ List.mem_append_right _ (List.mem_singleton_self _), rfl, rfl, rfl⟩⟩

lemma activeSigningKey_signs {devMode : Bool} (hw : KeysWellFormed rsa service)
    (h : service.activeSigningKey rsa now pem devMode = .ok (service', key)) :
    Signs rsa now service service' key := by
  rw [activeSigningKey] at h
  split at h
  · rename_i cached hcached
    obtain ⟨rfl, rfl⟩ := Prod.mk.inj (Except.ok.inj h)
    exact ⟨hw, Kept.refl now _, hw.cached _ hcached⟩
  · split at h
    · rename_i row hload
      obtain ⟨rfl, rfl⟩ := Prod.mk.inj (Except.ok.inj h)
      have hrow : row ∈ service.keys ∧ row.status = statusActive :=
        ⟨List.mem_of_find?_eq_some hload, by simpa using List.find?_some hload⟩
      exact ⟨⟨hw.kids, hw.pairs, fun k hk => ⟨row, hrow.1, by rw [← Option.some.inj hk],
        by rw [← Option.some.inj hk], hrow.2⟩⟩, Kept.refl now _, row, hrow.1, rfl, rfl, hrow.2⟩
    · split at h
      · exact generateAndPersist_signs _ hw h
      · cases h

lemma generateIfMissing_signs {devMode : Bool} (hw : KeysWellFormed rsa service)
    (h : service.generateIfMissing rsa now pem devMode = .ok (service', key)) :
    Signs rsa now service service' key := by
  rw [generateIfMissing] at h
  split at h
  · exact generateAndPersist_signs _ hw h
  · exact activeSigningKey_signs hw h

variable (service) in
/-- A rotation retires the active key now and adds a new one. -/
lemma rotate_spec (hw : KeysWellFormed rsa service)
    (h : service.rotate rsa now pem = .ok service') :
    KeysWellFormed rsa service' ∧ Kept now service.keys service'.keys := by
  rw [rotate] at h
  split at h
  · cases h
  · rename_i keys' hinsert
    obtain rfl := Except.ok.inj h
    obtain ⟨hkids, hkept, hpairs⟩ := demote_spec now hw.kids
    refine ⟨KeysWellFormed.insert (hkids ▸ hw.kids) (fun k' hk' => ?_) hinsert
      (fun k hk => (by cases hk)), (of_insertActive hinsert).1 ▸ hkept.append _⟩
    obtain ⟨k, hk, hkid, hpem, hjwk⟩ := hpairs k' hk'
    rw [hkid, hpem, hjwk]
    exact hw.pairs k hk

variable (service now) in
/-- Pruning revokes the keys whose grace period is over, and touches no other. -/
lemma pruneRetiring_spec (maxTokenTtlSeconds : ℤ) (hw : KeysWellFormed rsa service) :
    KeysWellFormed rsa (service.pruneRetiring now maxTokenTtlSeconds) ∧
      ∀ k ∈ service.keys, ∃ k' ∈ (service.pruneRetiring now maxTokenTtlSeconds).keys,
        k'.kid = k.kid ∧ k'.privatePem = k.privatePem ∧
          (¬GraceOver now maxTokenTtlSeconds k ∧ k' = k ∨
            GraceOver now maxTokenTtlSeconds k ∧ k'.status = statusRevoked) := by
  have hrow : ∀ k : OAuthSigningKey,
      let k' := if GraceOver now maxTokenTtlSeconds k then { k with status := statusRevoked } else k
      k'.kid = k.kid ∧ k'.privatePem = k.privatePem ∧ k'.publicJwk = k.publicJwk ∧
        (¬GraceOver now maxTokenTtlSeconds k ∧ k' = k ∨
          GraceOver now maxTokenTtlSeconds k ∧ k'.status = statusRevoked) := by
    intro k
    by_cases hgrace : GraceOver now maxTokenTtlSeconds k
    · simp [hgrace]
    · simp [hgrace]
  refine ⟨⟨?_, fun k' hk' => ?_, fun k hk => ?_⟩, fun k hk => ?_⟩
  · rw [pruneRetiring, List.map_map]
    have hkid : (OAuthSigningKey.kid ∘ fun k =>
        if GraceOver now maxTokenTtlSeconds k then { k with status := statusRevoked } else k) =
        OAuthSigningKey.kid := funext fun k => (hrow k).1
    rw [hkid]
    exact hw.kids
  · obtain ⟨k, hk, rfl⟩ := List.mem_map.mp hk'
    rw [(hrow k).1, (hrow k).2.1, (hrow k).2.2.1]
    exact hw.pairs k hk
  · obtain ⟨row, hmem, hkid, hpem, hactive⟩ := hw.cached k hk
    refine ⟨row, List.mem_map.mpr ⟨row, hmem, if_neg fun hgrace => ?_⟩, hkid, hpem, hactive⟩
    exact absurd (hactive.symm.trans hgrace.1) (by decide)
  · exact ⟨_, List.mem_map_of_mem hk, (hrow k).1, (hrow k).2.1, (hrow k).2.2.2⟩

/-! ### The published keys -/

/-- A token's key is found by its id exactly when the row is published. -/
lemma find_allPublicJwks (hw : KeysWellFormed rsa service) (hkey : key ∈ service.keys) :
    (service.allPublicJwks.find? fun j => j.kid = some key.kid) =
      if key.Published then some (rsa.jwk key.privatePem) else none := by
  have hjwk : ∀ k ∈ service.keys, k.publicJwk.kid = some k.kid := by
    intro k hk
    rw [(hw.pairs k hk).2, (hw.pairs k hk).1]
    rfl
  split
  · rename_i hpublished
    have hmem : key.publicJwk ∈ service.allPublicJwks :=
      List.mem_map_of_mem (List.mem_filter.mpr ⟨hkey, decide_eq_true hpublished⟩)
    cases hfind : service.allPublicJwks.find? fun j => j.kid = some key.kid with
    | none =>
        have hno := List.find?_eq_none.mp hfind _ hmem
        simp [hjwk key hkey] at hno
    | some j =>
        obtain ⟨k, hk, rfl⟩ := List.mem_map.mp (List.mem_of_find?_eq_some hfind)
        have hk' := (List.mem_filter.mp hk).1
        have hkid : k.publicJwk.kid = some key.kid := by simpa using List.find?_some hfind
        rw [hjwk k hk'] at hkid
        rw [List.inj_on_of_nodup_map hw.kids hk' hkey (Option.some.inj hkid), (hw.pairs key hkey).2]
  · rename_i hhidden
    rw [List.find?_eq_none]
    intro j hj
    obtain ⟨k, hk, rfl⟩ := List.mem_map.mp hj
    obtain ⟨hk', hpublished⟩ := List.mem_filter.mp hk
    simp only [decide_eq_true_eq] at hpublished ⊢
    rw [hjwk k hk']
    intro hkid
    exact hhidden (List.inj_on_of_nodup_map hw.kids hk' hkey (Option.some.inj hkid) ▸ hpublished)

end SigningKeyService

end AuthzKit
