import AuthzKit.Relational.Interleaving
import AuthzKit.Security.KeyInstances

/-!
The calls that read and write the signing keys, statement by statement, from any number of
instances.

A call reads a committed state and from then on works with what it has read. Its writes are
pending until it commits. The lock that `rotate` asks for is ignored, and no statement waits
for another transaction: an engine that blocks removes schedules and adds none. The partial
unique index and the primary key are checked when a row is inserted and again at the commit.
Each instance keeps its cache and its environment key, and looks at the database only without
either.

* `KeyCall.act`: the next statement of a call; one that raises rolls the call back.
* `Evolves`: what a commit may do to the keys.
* `KeyCall.statement_spec`, `KeyCall.statement_holds`, `KeyCall.statement_revoked`: what one
  statement does to the keys, which keys it caches or returns, and which it revokes.
-/

namespace AuthzKit

open Delegations Interleaving

/-! ### Calls -/

/-- A pending write of a transaction. -/
inductive KeyWrite where
  /-- The `UPDATE` of `rotate`. -/
  | retire (kid : String) (rotatedAt : DateTime)
  /-- One `UPDATE` of `prune_retiring`. -/
  | revoke (kid : String)
  | insert (row : OAuthSigningKey)
deriving DecidableEq

/-- The keys after a write; the updates are by primary key and look at nothing else. -/
def KeyWrite.apply (keys : List OAuthSigningKey) : KeyWrite → List OAuthSigningKey
  | .retire kid rotatedAt => keys.map fun k =>
      if k.kid = kid then { k with status := statusRetiring, rotatedAt := some rotatedAt } else k
  | .revoke kid => keys.map fun k =>
      if k.kid = kid then { k with status := statusRevoked } else k
  | .insert row => keys ++ [row]

/-- The keys as a transaction sees them, over a committed state. -/
def withWrites (keys : List OAuthSigningKey) (writes : List KeyWrite) : List OAuthSigningKey :=
  writes.foldl KeyWrite.apply keys

/-- The primary key and the partial unique index on `status = 'active'`. -/
structure KeyConstraints (keys : List OAuthSigningKey) : Prop where
  kid : (keys.map OAuthSigningKey.kid).Nodup
  active : (keys.filter fun k => k.status = statusActive).length ≤ 1

instance (keys : List OAuthSigningKey) : Decidable (KeyConstraints keys) :=
  decidable_of_iff ((keys.map OAuthSigningKey.kid).Nodup ∧
      (keys.filter fun k => k.status = statusActive).length ≤ 1)
    ⟨fun h => ⟨h.1, h.2⟩, fun h => ⟨h.kid, h.active⟩⟩

/-- How `_load_env_key` ends, where an environment key is set. -/
inductive EnvLoad where
  | loads
  /-- A private key of another kind: `SigningKeyError`. -/
  | notRsa
  /-- No private key at all: an error that nobody catches. -/
  | unreadable
deriving DecidableEq

/-- An instance and how its environment key loads. -/
structure KeyHost extends KeyInstance where
  envLoad : EnvLoad

/-- The keys in the database and the cache of each instance. -/
structure KeyBase (ι : Type*) where
  keys : List OAuthSigningKey
  caches : ι → Option OAuthSigningKey

namespace KeyBase

variable {ι : Type*} (base : KeyBase ι)

/-- An instance, with the keys in the database. -/
def service (i : ι) : SigningKeyService := ⟨base.keys, base.caches i⟩

/-- The state after a statement of an instance. -/
def after [DecidableEq ι] (i : ι) (service : SigningKeyService) : KeyBase ι :=
  ⟨service.keys, Function.update base.caches i service.cached⟩

end KeyBase

/-- How the first statement of `active_signing_key` ends. -/
inductive KeyLookup where
  | found (key : OAuthSigningKey)
  /-- No key, in dev mode on SQLite. -/
  | bootstraps
  | signingKeyError
  | raises

namespace KeyHost

variable (rsa : Rsa) (host : KeyHost) (service : SigningKeyService)

/-- `active_signing_key`, up to the generation of a key. -/
def lookup : KeyLookup :=
  match service.cached with
  | some key => .found key
  | none =>
      if host.envPem ≠ "" then
        match host.envLoad with
        | .loads => .found (host.loadEnvKey rsa)
        | .notRsa => .signingKeyError
        | .unreadable => .raises
      else
        match service.loadDbActive with
        | some key => .found key
        | none => if host.bootstraps then .bootstraps else .signingKeyError

/-- `all_public_jwks`; none where the environment key does not load. -/
def allPublicJwks : Option (List Jwk) :=
  if host.envPem ≠ "" ∧ host.envLoad ≠ .loads then none
  else some (host.toKeyInstance.allPublicJwks rsa service)

/-- The instance has the key of this id without a look at the database, in its cache or in its
environment. -/
def Holds (cached : Option OAuthSigningKey) (kid : String) : Prop :=
  (∃ key, cached = some key ∧ key.kid = kid) ∨
    host.envPem ≠ "" ∧ host.envLoad = .loads ∧ rsa.deriveKid host.envPem = kid

end KeyHost

/-- A call, by the statement it executes next. -/
inductive KeyCall where
  | activeSigningKey
  | generateIfMissing
  /-- `rotate` selects the active row. -/
  | rotate
  /-- It flushes the demotion of the row it has read. -/
  | demote (current : OAuthSigningKey)
  /-- A rotation, or `_generate_and_persist`, flushes its new row. -/
  | insertActive (rotates : Bool) (writes : List KeyWrite)
  | commit (rotates : Bool) (writes : List KeyWrite) (row : OAuthSigningKey)
  /-- `prune_retiring` selects the retiring rows. -/
  | pruneRetiring (maxTokenTtlSeconds : ℤ)
  /-- It revokes the rows it has read, one after the other. -/
  | revoke (kids : List String) (writes : List KeyWrite)
  | commitRevoked (writes : List KeyWrite)
  | returned (key : OAuthSigningKey)
  /-- The call is over: it has raised, or its result is in use. -/
  | done
deriving DecidableEq

/-- What a statement reads besides the database: the clock, a new key pair, and whether it
fails for a reason of its own (a lost connection, a lock timeout). -/
structure KeyInput where
  now : DateTime
  pem : String
  fails : Bool
deriving DecidableEq

/-- The next statement of a call of an instance. -/
def KeyCall.statement (rsa : Rsa) (host : KeyHost) (service : SigningKeyService)
    (input : KeyInput) : KeyCall → SigningKeyService × KeyCall
  | .activeSigningKey =>
      match host.lookup rsa service with
      | .found key => ({ service with cached := some key }, .returned key)
      | .bootstraps => (service, .insertActive false [])
      | .signingKeyError | .raises => (service, .done)
  | .generateIfMissing =>
      match host.lookup rsa service with
      | .found key => ({ service with cached := some key }, .returned key)
      | .bootstraps | .signingKeyError => (service, .insertActive false [])
      | .raises => (service, .done)
  | .rotate =>
      if host.envPem ≠ "" then (service, .done)
      else
        match service.loadDbActive with
        | none => (service, .insertActive true [])
        | some current => (service, .demote current)
  | .demote current => (service, .insertActive true [.retire current.kid input.now])
  | .insertActive rotates writes =>
      let row := SigningKeyService.newKey rsa input.now input.pem
      match SigningKeyService.insertActive (withWrites service.keys writes) row with
      | .error _ => (service, .done)
      | .ok _ => (service, .commit rotates writes row)
  | .commit rotates writes row =>
      let keys := withWrites service.keys (writes ++ [.insert row])
      if KeyConstraints keys then
        (⟨keys, if rotates then none else some row⟩, .returned row)
      else (service, .done)
  | .pruneRetiring maxTokenTtlSeconds =>
      let hits := service.keys.filter fun k =>
        SigningKeyService.GraceOver input.now maxTokenTtlSeconds k
      (service, .revoke (hits.map OAuthSigningKey.kid) [])
  | .revoke [] writes => (service, .commitRevoked writes)
  | .revoke (kid :: kids) writes => (service, .revoke kids (writes ++ [.revoke kid]))
  | .commitRevoked writes =>
      let keys := withWrites service.keys writes
      if KeyConstraints keys then ({ service with keys := keys }, .done) else (service, .done)
  | .returned _ | .done => (service, .done)

/-- A statement that fails ends the call, and its pending writes are lost. -/
def KeyCall.act {ι : Type*} [DecidableEq ι] (rsa : Rsa) (hosts : ι → KeyHost)
    (base : KeyBase ι) (process : ι × KeyCall) (input : KeyInput) : KeyBase ι × ι × KeyCall :=
  if input.fails then (base, process.1, .done)
  else
    let result := process.2.statement rsa (hosts process.1) (base.service process.1) input
    (base.after process.1 result.1, process.1, result.2)

/-- A call that has not begun. -/
def KeyCall.Arrives : KeyCall → Prop
  | .activeSigningKey | .generateIfMissing | .rotate | .pruneRetiring _ => True
  | _ => False

instance : DecidablePred KeyCall.Arrives
  | .activeSigningKey | .generateIfMissing | .rotate | .pruneRetiring _ => isTrue trivial
  | .demote _ | .insertActive _ _ | .commit _ _ _ | .revoke _ _ | .commitRevoked _
  | .returned _ | .done => isFalse id

/-- Keys as the service writes them: within the constraints, each with its id in its JWK. -/
structure KeysSound (keys : List OAuthSigningKey) : Prop extends KeyConstraints keys where
  named : ∀ k ∈ keys, k.publicJwk.kid = some k.kid

section Calls

variable {ι : Type*} [DecidableEq ι] (rsa : Rsa) (hosts : ι → KeyHost)

/-- Calls of the instances on one database, in every interleaving of their statements; at
first no instance has cached a key. -/
def keyCalls : Interleaving (KeyBase ι) (ι × KeyCall) KeyInput where
  initial := fun base => KeysSound base.keys ∧ ∀ i, base.caches i = none
  arrives := fun process => process.2.Arrives
  admits := fun _ _ _ => True
  act := KeyCall.act rsa hosts

instance : DecidablePred (keyCalls rsa hosts).arrives := fun process =>
  inferInstanceAs (Decidable process.2.Arrives)

instance (base : KeyBase ι) (process : ι × KeyCall) (input : KeyInput) :
    Decidable ((keyCalls rsa hosts).admits base process input) := isTrue trivial

end Calls

/-! ### Commits -/

/-- One step of the life cycle of a key. -/
def StatusStep (status status' : String) : Prop :=
  status' = status ∨ status = statusActive ∧ status' = statusRetiring ∨
    status = statusRetiring ∧ status' = statusRevoked

lemma StatusStep.refl (status : String) : StatusStep status status := Or.inl rfl

/-- Some key is active. -/
def HasActive (keys : List OAuthSigningKey) : Prop := ∃ k ∈ keys, k.status = statusActive

/-- The key of this id has been active and is not any more. -/
def Past (keys : List OAuthSigningKey) (kid : String) : Prop :=
  ∃ k ∈ keys, k.kid = kid ∧ (k.status = statusRetiring ∨ k.status = statusRevoked)

/-- The key of this id is revoked. -/
def Revoked (keys : List OAuthSigningKey) (kid : String) : Prop :=
  ∃ k ∈ keys, k.kid = kid ∧ k.status = statusRevoked

/-- What a commit may do to the keys. -/
structure Evolves (keys keys' : List OAuthSigningKey) : Prop where
  sound : KeysSound keys'
  rows : ∀ k ∈ keys, ∃ k' ∈ keys', k'.kid = k.kid ∧ StatusStep k.status k'.status
  active : HasActive keys → HasActive keys'

variable {keys keys' : List OAuthSigningKey} {kid : String} {writes : List KeyWrite}
  {row : OAuthSigningKey}

lemma Evolves.refl (h : KeysSound keys) : Evolves keys keys :=
  ⟨h, fun k hk => ⟨k, hk, rfl, StatusStep.refl _⟩, id⟩

/-- A key that is past stays past. -/
lemma Past.evolves (h : Past keys kid) (hevolves : Evolves keys keys') : Past keys' kid := by
  obtain ⟨k, hk, hkid, hstatus⟩ := h
  obtain ⟨k', hk', hkid', hstep⟩ := hevolves.rows k hk
  refine ⟨k', hk', hkid'.trans hkid, ?_⟩
  rcases hstep with hsame | ⟨hactive, -⟩ | ⟨-, hrevoked⟩
  · exact hstatus.imp hsame.trans hsame.trans
  · rcases hstatus with h | h <;> exact absurd (h.symm.trans hactive) (by decide)
  · exact Or.inr hrevoked

/-- A key that is past is not active. -/
lemma Past.not_active (h : Past keys kid) (hkids : (keys.map OAuthSigningKey.kid).Nodup)
    {k : OAuthSigningKey} (hk : k ∈ keys) (hkid : k.kid = kid) :
    k.status = statusRetiring ∨ k.status = statusRevoked := by
  obtain ⟨k₀, hk₀, hkid₀, hstatus⟩ := h
  obtain rfl := List.inj_on_of_nodup_map hkids hk hk₀ (hkid.trans hkid₀.symm)
  exact hstatus

/-- The index allows one active key. -/
lemma KeyConstraints.active_unique (h : KeyConstraints keys) {a b : OAuthSigningKey}
    (ha : a ∈ keys) (hb : b ∈ keys) (hactive : a.status = statusActive)
    (hactive' : b.status = statusActive) : a = b := by
  have hmem : ∀ k ∈ keys, k.status = statusActive →
      k ∈ keys.filter fun k => k.status = statusActive := fun k hk hstatus =>
    List.mem_filter.mpr ⟨hk, decide_eq_true hstatus⟩
  cases hfilter : keys.filter fun k => k.status = statusActive with
  | nil =>
      have hnone := hmem a ha hactive
      rw [hfilter] at hnone
      cases hnone
  | cons x xs =>
      have hlength := h.active
      rw [hfilter, List.length_cons] at hlength
      obtain rfl : xs = [] := List.eq_nil_of_length_eq_zero (by omega)
      have hx := hmem a ha hactive
      have hy := hmem b hb hactive'
      rw [hfilter] at hx hy
      rw [List.mem_singleton.mp hx, List.mem_singleton.mp hy]

/-- The updates of a prune, all at once. -/
lemma withWrites_revoke (kids : List String) :
    ∀ keys, withWrites keys (kids.map KeyWrite.revoke) =
      keys.map fun k => if k.kid ∈ kids then { k with status := statusRevoked } else k := by
  induction kids with
  | nil =>
      intro keys
      simp [withWrites]
  | cons kid kids ih =>
      intro keys
      have htail := ih (KeyWrite.apply keys (.revoke kid))
      rw [withWrites] at htail ⊢
      rw [List.map_cons, List.foldl_cons, htail, KeyWrite.apply, List.map_map]
      refine List.map_congr_left fun k _ => ?_
      by_cases hkid : k.kid = kid
      · simp [hkid]
      · simp [hkid]

/-- The pending writes of a rotation or a generation before its insertion: it has demoted a
key only if it has read an active one. -/
def Demotes (keys : List OAuthSigningKey) (writes : List KeyWrite) : Prop :=
  writes = [] ∨ ∃ kid rotatedAt, writes = [.retire kid rotatedAt] ∧ HasActive keys

/-- The pending writes of a prune: it has read the keys as retiring. -/
def Prunes (keys : List OAuthSigningKey) (writes : List KeyWrite) : Prop :=
  ∃ kids : List String, writes = kids.map .revoke ∧ ∀ kid ∈ kids, Past keys kid

/-- The updates keep the ids and the JWKs. -/
lemma named_withWrites (h : ∀ k ∈ keys, k.publicJwk.kid = some k.kid)
    (hwrites : ∀ row, .insert row ∈ writes → row.publicJwk.kid = some row.kid) :
    ∀ k ∈ withWrites keys writes, k.publicJwk.kid = some k.kid := by
  induction writes generalizing keys with
  | nil => exact h
  | cons write writes ih =>
      refine ih (fun k hk => ?_) fun row hrow => hwrites row (List.mem_cons_of_mem _ hrow)
      cases write with
      | insert row =>
          rcases List.mem_append.mp hk with hk | hk
          · exact h k hk
          · rw [List.mem_singleton.mp hk]
            exact hwrites row List.mem_cons_self
      | _ =>
          obtain ⟨k₀, hk₀, rfl⟩ := List.mem_map.mp hk
          split <;> exact h k₀ hk₀

/-- **A rotation that commits retires the active key**: when the row it has demoted is not the
active one any more, the index refuses the new row. -/
lemma rotation_evolves (h : KeysSound keys) (hwrites : Demotes keys writes)
    (hrow : row.status = statusActive) (hnamed : row.publicJwk.kid = some row.kid)
    (h' : KeyConstraints (withWrites keys (writes ++ [.insert row]))) :
    Evolves keys (withWrites keys (writes ++ [.insert row])) := by
  have hrows : ∀ other, .insert other ∈ writes ++ [.insert row] →
      other.publicJwk.kid = some other.kid := by
    intro other hother
    rcases List.mem_append.mp hother with hold | hnew
    · rcases hwrites with rfl | ⟨kid, rotatedAt, rfl, -⟩
      · cases hold
      · cases List.mem_singleton.mp hold
    · cases List.mem_singleton.mp hnew
      exact hnamed
  refine ⟨⟨h', named_withWrites h.named hrows⟩, ?_, fun _ => ?_⟩
  · rcases hwrites with rfl | ⟨kid, rotatedAt, rfl, active, hactive, hstatus⟩
    · exact fun k hk => ⟨k, List.mem_append_left _ hk, rfl, StatusStep.refl _⟩
    · intro k hk
      set retire : OAuthSigningKey → OAuthSigningKey := fun k =>
        if k.kid = kid then { k with status := statusRetiring, rotatedAt := some rotatedAt } else k
        with hretire
      have hkeys : withWrites keys ([.retire kid rotatedAt] ++ [.insert row]) =
          keys.map retire ++ [row] := rfl
      rw [hkeys] at h' ⊢
      refine ⟨retire k, List.mem_append_left _ (List.mem_map_of_mem hk), ?_, ?_⟩
      · simp only [hretire]
        split <;> rfl
      · by_cases hkid : k.kid = kid
        · have hcurrent : active.kid = kid := by
            by_contra hother
            have hstays : retire active = active := if_neg hother
            have hmem : active ∈ keys.map retire := hstays ▸ List.mem_map_of_mem hactive
            obtain rfl := h'.active_unique (List.mem_append_left _ hmem)
              (List.mem_append_right _ (List.mem_singleton_self _)) hstatus hrow
            have hkids := h'.kid
            rw [List.map_append, List.nodup_append] at hkids
            exact hkids.2.2 _ (List.mem_map_of_mem hmem) _ (List.mem_singleton_self _) rfl
          obtain rfl := List.inj_on_of_nodup_map h.kid hk hactive (hkid.trans hcurrent.symm)
          refine Or.inr (Or.inl ⟨hstatus, ?_⟩)
          simp only [hretire]
          rw [if_pos hkid]
        · simp only [hretire]
          rw [if_neg hkid]
          exact StatusStep.refl _
  · refine ⟨row, ?_, hrow⟩
    rw [withWrites, List.foldl_append]
    exact List.mem_append_right _ (List.mem_singleton_self _)

/-- A prune that commits revokes keys that have retired. -/
lemma prune_evolves (h : KeysSound keys) (hwrites : Prunes keys writes)
    (h' : KeyConstraints (withWrites keys writes)) : Evolves keys (withWrites keys writes) := by
  obtain ⟨kids, rfl, hpast⟩ := hwrites
  have hnamed : ∀ k ∈ withWrites keys (kids.map KeyWrite.revoke), k.publicJwk.kid = some k.kid :=
    named_withWrites h.named fun row hrow => by simp at hrow
  rw [withWrites_revoke] at h' hnamed ⊢
  refine ⟨⟨h', hnamed⟩, fun k hk => ⟨_, List.mem_map_of_mem hk, ?_, ?_⟩, fun ⟨k, hk, hactive⟩ => ?_⟩
  · split <;> rfl
  · split
    · rename_i hkid
      rcases (hpast _ hkid).not_active h.kid hk rfl with hretiring | hrevoked
      · exact Or.inr (Or.inr ⟨hretiring, rfl⟩)
      · exact Or.inl hrevoked.symm
    · exact StatusStep.refl _
  · refine ⟨k, List.mem_map.mpr ⟨k, hk, if_neg fun hkid => ?_⟩, hactive⟩
    rcases (hpast _ hkid).not_active h.kid hk rfl with hretiring | hrevoked
    · exact absurd (hactive.symm.trans hretiring) (by decide)
    · exact absurd (hactive.symm.trans hrevoked) (by decide)

/-- The constraints let every prune through. -/
lemma constraints_revoked (h : KeyConstraints keys) (kids : List String) :
    KeyConstraints (withWrites keys (kids.map KeyWrite.revoke)) := by
  rw [withWrites_revoke]
  set revoke : OAuthSigningKey → OAuthSigningKey := fun k =>
    if k.kid ∈ kids then { k with status := statusRevoked } else k with hrevoke
  have hkid : OAuthSigningKey.kid ∘ revoke = OAuthSigningKey.kid := by
    funext k
    simp only [hrevoke, Function.comp_apply]
    split <;> rfl
  have hactive : ∀ k, (revoke k).status = statusActive → k.status = statusActive := by
    intro k hk
    simp only [hrevoke] at hk
    split at hk
    · exact absurd hk (by decide : statusRevoked ≠ statusActive)
    · exact hk
  refine ⟨?_, ?_⟩
  · rw [List.map_map, hkid]
    exact h.kid
  · rw [List.filter_map, List.length_map]
    refine le_trans (List.Sublist.length_le ?_) h.active
    exact List.monotone_filter_right keys fun k hk =>
      decide_eq_true (hactive k (of_decide_eq_true hk))

/-- A published key is not revoked. -/
lemma KeyConstraints.not_revoked (h : KeyConstraints keys) {k : OAuthSigningKey} (hk : k ∈ keys)
    (hpublished : k.Published) : ¬Revoked keys k.kid := by
  rintro ⟨k', hk', hkid, hrevoked⟩
  obtain rfl := List.inj_on_of_nodup_map h.kid hk' hk hkid
  rw [OAuthSigningKey.Published, hrevoked] at hpublished
  exact absurd hpublished (by decide)

/-- A JWK that is listed is that of the environment key or of a published row. -/
lemma KeyHost.mem_allPublicJwks {rsa : Rsa} {host : KeyHost} {service : SigningKeyService}
    {jwks : List Jwk} {jwk : Jwk} (h : host.allPublicJwks rsa service = some jwks)
    (hjwk : jwk ∈ jwks) :
    host.envPem ≠ "" ∧ host.envLoad = .loads ∧ jwk = rsa.jwk host.envPem ∨
      ∃ row ∈ service.keys, row.Published ∧ jwk = row.publicJwk := by
  rw [KeyHost.allPublicJwks] at h
  split at h
  · cases h
  · rename_i hloads
    obtain rfl := Option.some.inj h
    rw [KeyInstance.allPublicJwks] at hjwk
    split at hjwk
    · rename_i henv
      rcases List.mem_cons.mp hjwk with rfl | hrow
      · exact Or.inl ⟨henv, of_not_not fun hload => hloads ⟨henv, hload⟩, rfl⟩
      · obtain ⟨row, hlisted, rfl⟩ := List.mem_map.mp hrow
        obtain ⟨hmem, hkeep⟩ := List.mem_filter.mp hlisted
        exact Or.inr ⟨row, hmem, (of_decide_eq_true hkeep).1, rfl⟩
    · obtain ⟨row, hrow, rfl⟩ := List.mem_map.mp hjwk
      obtain ⟨hmem, hpublished⟩ := List.mem_filter.mp hrow
      exact Or.inr ⟨row, hmem, of_decide_eq_true hpublished, rfl⟩

/-! ### Interleavings -/

namespace KeyCall

variable {rsa : Rsa} {host : KeyHost} {service : SigningKeyService} {call other : KeyCall}
  {input : KeyInput} {key : OAuthSigningKey}

/-- What a call may rely on between its statements. -/
def Sound (keys : List OAuthSigningKey) : KeyCall → Prop
  | .demote _ => HasActive keys
  | .insertActive _ writes => Demotes keys writes
  | .commit _ writes row => Demotes keys writes ∧ row.status = statusActive ∧
      row.publicJwk.kid = some row.kid
  | .revoke kids writes => (∀ kid ∈ kids, Past keys kid) ∧ Prunes keys writes
  | .commitRevoked writes => Prunes keys writes
  | _ => True

lemma demotes_evolves (h : Demotes keys writes) (hevolves : Evolves keys keys') :
    Demotes keys' writes := by
  rcases h with rfl | ⟨kid, rotatedAt, rfl, hactive⟩
  · exact Or.inl rfl
  · exact Or.inr ⟨kid, rotatedAt, rfl, hevolves.active hactive⟩

lemma prunes_evolves (h : Prunes keys writes) (hevolves : Evolves keys keys') :
    Prunes keys' writes := by
  obtain ⟨kids, rfl, hpast⟩ := h
  exact ⟨kids, rfl, fun kid hkid => (hpast kid hkid).evolves hevolves⟩

/-- The commits of the others do not disturb a call. -/
lemma Sound.evolves (h : Sound keys call) (hevolves : Evolves keys keys') : Sound keys' call := by
  cases call with
  | demote current => exact hevolves.active h
  | insertActive rotates writes => exact demotes_evolves h hevolves
  | commit rotates writes row => exact ⟨demotes_evolves h.1 hevolves, h.2⟩
  | revoke kids writes =>
      exact ⟨fun kid hkid => (h.1 kid hkid).evolves hevolves, prunes_evolves h.2 hevolves⟩
  | commitRevoked writes => exact prunes_evolves h hevolves
  | _ => trivial

/-- The key a lookup finds is held, or it is the active row. -/
lemma of_lookup (h : host.lookup rsa service = .found key) :
    host.Holds rsa service.cached key.kid ∨ key ∈ service.keys ∧ key.status = statusActive := by
  rw [KeyHost.lookup] at h
  split at h
  · rename_i cached hcached
    obtain rfl := KeyLookup.found.inj h
    exact Or.inl (Or.inl ⟨cached, hcached, rfl⟩)
  · split at h
    · rename_i henv
      cases hload : host.envLoad with
      | loads =>
          simp only [hload] at h
          obtain rfl := KeyLookup.found.inj h
          exact Or.inl (Or.inr ⟨henv, hload, rfl⟩)
      | _ =>
          simp only [hload] at h
          cases h
    · split at h
      · rename_i row hactive
        obtain rfl := KeyLookup.found.inj h
        exact Or.inr ⟨List.mem_of_find?_eq_some hactive, by simpa using List.find?_some hactive⟩
      · split at h <;> cases h

/-- **One statement** of a sound call, on the keys. -/
lemma statement_spec (service : SigningKeyService) (hkeys : KeysSound service.keys)
    (h : Sound service.keys call) :
    Evolves service.keys (statement rsa host service input call).1.keys ∧
      Sound (statement rsa host service input call).1.keys
        (statement rsa host service input call).2 := by
  have hstays : Evolves service.keys service.keys := Evolves.refl hkeys
  cases call with
  | activeSigningKey =>
      rw [statement]
      split
      · exact ⟨hstays, trivial⟩
      · exact ⟨hstays, Or.inl rfl⟩
      · exact ⟨hstays, trivial⟩
      · exact ⟨hstays, trivial⟩
  | generateIfMissing =>
      rw [statement]
      split
      · exact ⟨hstays, trivial⟩
      · exact ⟨hstays, Or.inl rfl⟩
      · exact ⟨hstays, Or.inl rfl⟩
      · exact ⟨hstays, trivial⟩
  | rotate =>
      rw [statement]
      split
      · exact ⟨hstays, trivial⟩
      · split
        · exact ⟨hstays, Or.inl rfl⟩
        · rename_i current hfind
          exact ⟨hstays, current, List.mem_of_find?_eq_some hfind,
            by simpa using List.find?_some hfind⟩
  | demote current => exact ⟨hstays, Or.inr ⟨_, _, rfl, h⟩⟩
  | insertActive rotates writes =>
      rw [statement]
      split
      · exact ⟨hstays, trivial⟩
      · exact ⟨hstays, h, rfl, rfl⟩
  | commit rotates writes row =>
      rw [statement]
      split
      · rename_i hcommits
        exact ⟨rotation_evolves hkeys h.1 h.2.1 h.2.2 hcommits, trivial⟩
      · exact ⟨hstays, trivial⟩
  | pruneRetiring maxTokenTtlSeconds =>
      refine ⟨hstays, fun kid hkid => ?_, [], rfl, fun _ hkid => by cases hkid⟩
      obtain ⟨k, hk, rfl⟩ := List.mem_map.mp hkid
      obtain ⟨hmem, hgrace⟩ := List.mem_filter.mp hk
      exact ⟨k, hmem, rfl, Or.inl (of_decide_eq_true hgrace).1⟩
  | revoke kids writes =>
      cases kids with
      | nil => exact ⟨hstays, h.2⟩
      | cons kid kids =>
          obtain ⟨hpast, revoked, rfl, hrevoked⟩ := h
          refine ⟨hstays, fun k hk => hpast k (List.mem_cons_of_mem _ hk), revoked ++ [kid],
            by rw [List.map_append]; rfl, fun k hk => ?_⟩
          rcases List.mem_append.mp hk with hk | hk
          · exact hrevoked k hk
          · exact hpast k (List.mem_singleton.mp hk ▸ List.mem_cons_self)
  | commitRevoked writes =>
      rw [statement]
      split
      · rename_i hcommits
        exact ⟨prune_evolves hkeys h hcommits, trivial⟩
      · exact ⟨hstays, trivial⟩
  | returned key => exact ⟨hstays, trivial⟩
  | done => exact ⟨hstays, trivial⟩

/-- **One statement**, on the instance: the key it caches or returns is one it held before, or
one that is active. -/
lemma statement_holds (service : SigningKeyService) (input : KeyInput)
    (h : Sound service.keys call)
    (hkey : (statement rsa host service input call).1.cached = some key ∨
      (statement rsa host service input call).2 = .returned key) :
    host.Holds rsa service.cached key.kid ∨
      key ∈ (statement rsa host service input call).1.keys ∧ key.status = statusActive := by
  have hkept : service.cached = some key → host.Holds rsa service.cached key.kid := fun hcached =>
    Or.inl ⟨key, hcached, rfl⟩
  cases call with
  | activeSigningKey | generateIfMissing =>
      rw [statement] at hkey ⊢
      split at hkey
      · rename_i found hfound
        obtain rfl : found = key := hkey.elim Option.some.inj KeyCall.returned.inj
        exact of_lookup hfound
      all_goals exact Or.inl (hkey.elim hkept (by rintro ⟨⟩))
  | rotate =>
      rw [statement] at hkey
      split at hkey
      · exact Or.inl (hkey.elim hkept (by rintro ⟨⟩))
      · split at hkey <;> exact Or.inl (hkey.elim hkept (by rintro ⟨⟩))
  | insertActive rotates writes =>
      rw [statement] at hkey
      split at hkey <;> exact Or.inl (hkey.elim hkept (by rintro ⟨⟩))
  | commit rotates writes row =>
      rw [statement] at hkey ⊢
      split at hkey
      · rename_i hcommits
        rw [if_pos hcommits]
        have hrow : row = key := by
          rcases hkey with hcached | hreturned
          · cases rotates with
            | false => exact Option.some.inj hcached
            | true => cases hcached
          · exact KeyCall.returned.inj hreturned
        refine Or.inr ⟨?_, hrow ▸ h.2.1⟩
        rw [withWrites, List.foldl_append]
        exact List.mem_append_right _ (List.mem_singleton.mpr hrow.symm)
      · exact Or.inl (hkey.elim hkept (by rintro ⟨⟩))
  | revoke kids writes => cases kids <;> exact Or.inl (hkey.elim hkept (by rintro ⟨⟩))
  | commitRevoked writes =>
      rw [statement] at hkey
      split at hkey <;> exact Or.inl (hkey.elim hkept (by rintro ⟨⟩))
  | _ => exact Or.inl (hkey.elim hkept (by rintro ⟨⟩))

/-- Only a prune revokes. -/
lemma statement_revoked (service : SigningKeyService) (h : Sound service.keys call)
    (hrevoked : Revoked (statement rsa host service input call).1.keys kid) :
    Revoked service.keys kid ∨ ∃ writes, call = .commitRevoked writes ∧
      KeyWrite.revoke kid ∈ writes := by
  cases call with
  | commit rotates writes row =>
      rw [statement] at hrevoked
      split at hrevoked
      · obtain ⟨hwrites, hactive, -⟩ := h
        obtain ⟨k', hk', hkid, hstatus⟩ := hrevoked
        rw [withWrites, List.foldl_append] at hk'
        rcases List.mem_append.mp hk' with hold | hnew
        · rcases hwrites with rfl | ⟨demoted, rotatedAt, rfl, -⟩
          · exact Or.inl ⟨k', hold, hkid, hstatus⟩
          · obtain ⟨k, hk, rfl⟩ := List.mem_map.mp hold
            split at hstatus
            · exact absurd hstatus (by decide : statusRetiring ≠ statusRevoked)
            · rename_i hother
              rw [if_neg hother] at hkid
              exact Or.inl ⟨k, hk, hkid, hstatus⟩
        · rw [List.mem_singleton.mp hnew, hactive] at hstatus
          exact absurd hstatus (by decide)
      · exact Or.inl hrevoked
  | commitRevoked writes =>
      rw [statement] at hrevoked
      split at hrevoked
      · obtain ⟨kids, rfl, -⟩ := h
        dsimp only at hrevoked
        rw [withWrites_revoke] at hrevoked
        obtain ⟨k', hk', hkid, hstatus⟩ := hrevoked
        obtain ⟨k, hk, rfl⟩ := List.mem_map.mp hk'
        by_cases hmem : k.kid ∈ kids
        · rw [if_pos hmem] at hkid
          exact Or.inr ⟨_, rfl, List.mem_map.mpr ⟨kid, hkid ▸ hmem, rfl⟩⟩
        · rw [if_neg hmem] at hkid hstatus
          exact Or.inl ⟨k, hk, hkid, hstatus⟩
      · exact Or.inl hrevoked
  | rotate =>
      rw [statement] at hrevoked
      split at hrevoked
      · exact Or.inl hrevoked
      · split at hrevoked <;> exact Or.inl hrevoked
  | activeSigningKey | generateIfMissing | insertActive rotates writes =>
      rw [statement] at hrevoked
      split at hrevoked <;> exact Or.inl hrevoked
  | revoke kids writes => cases kids <;> exact Or.inl hrevoked
  | _ => exact Or.inl hrevoked

end KeyCall

end AuthzKit
