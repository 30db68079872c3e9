import AuthzKit.Relational.Runs
import AuthzKit.Security.SigningKeys

/-!
Grants and the keys they are signed with, over time: one service process with its signing
keys in the database, and the janitor that prunes retired keys with the lifetime of
access tokens.

* `JwtLaws`: what the model relies on of PyJWT.
* `KeyProcess.machine`: issuing, revoking, rotating, pruning and waiting in every order.
* `KeyProcess.verify_issued`: the token of a grant that is neither revoked nor expired is
  accepted exactly when its key is published.
* `KeyProcess.act_moves`: what an event does to keys, grants and tokens.
-/

namespace AuthzKit

open Keyed Delegations

/-- `jwt.encode(claims, private_pem, headers={kid, typ})`. -/
abbrev JwtEncode := (claims : IssuedClaims) → (privatePem kid typ : String) → String

/-- What `verify` reads of the claims of a grant. -/
def Delegations.IssuedClaims.read (c : IssuedClaims) : Claims :=
  ⟨c.sub, c.act, c.jti, c.tenantId, c.applicationId, c.permissions⟩

/-- PyJWT reads back what it signed: the header, and under the public half of the key the
claims, from `nbf` and `iat` until `exp`, the leeway included. -/
structure JwtLaws (jwt : Jwt) (encode : JwtEncode) (rsa : Rsa) : Prop where
  header : ∀ claims pem kid typ,
    jwt.getUnverifiedHeader (encode claims pem kid typ) = .ok ⟨some typ, some kid⟩
  decode : ∀ (claims : IssuedClaims) (pem kid typ : String) (leewaySeconds : ℕ) (now : DateTime),
    claims.iat * second ≤ now + leewaySeconds * second →
    claims.nbf * second ≤ now + leewaySeconds * second →
    now - leewaySeconds * second < claims.exp * second →
    jwt.decode (encode claims pem kid typ) (rsa.jwk pem) claims.aud claims.iss leewaySeconds now =
      .ok claims.read

/-- What a service process is started with. -/
structure KeyProcess where
  jwt : Jwt
  encode : JwtEncode
  rsa : Rsa
  issuer : String
  leewaySeconds : ℕ
  accessTokenTtlSeconds : ℤ
  delegationMaxTtlSeconds : ℤ
  /-- Dev mode on SQLite. -/
  devMode : Bool
  sqlite : Bool

/-- The database, the process's key cache, the time, and the tokens handed out so far. -/
structure KeyState where
  store : SqlAlchemyStore
  signingKeys : SigningKeyService
  now : DateTime
  issued : List (Id × String)

/-- What may happen next; a new RSA key is the PEM that is drawn. -/
inductive KeyEvent where
  | wait (microseconds : ℕ)
  | issue (request : GrantRequest) (pem : String) (uuid4 : UuidSource)
  | revoke (grantId : Id)
  | revokeMatching (tenantId : Id) (userId agentId : Option Id)
  | rotate (pem : String)
  /-- `SigningKeyJanitor._tick`. -/
  | janitor

namespace KeyProcess

variable (process : KeyProcess)

/-- `get_delegation_service`. -/
def service (st : KeyState) : DelegationService where
  jwt := process.jwt
  publicJwks := st.signingKeys.allPublicJwks
  issuer := process.issuer
  leewaySeconds := process.leewaySeconds

/-- The key `create_delegation` signs with: SQLite bootstraps one. -/
def signingKey (st : KeyState) (pem : String) :
    Except SigningKeyError (SigningKeyService × OAuthSigningKey) :=
  if process.sqlite then
    st.signingKeys.generateIfMissing process.rsa st.now pem process.devMode
  else st.signingKeys.activeSigningKey process.rsa st.now pem process.devMode

/-- The state after an event; one that raises changes nothing, a key it found or made
apart. -/
def act (st : KeyState) : KeyEvent → KeyState
  | .wait microseconds => { st with now := st.now + microseconds }
  | .issue request pem uuid4 =>
      match process.signingKey st pem with
      | .error _ => st
      | .ok (signingKeys, key) =>
          match (process.service st).issue st.store st.now
              (fun claims => process.encode claims key.privatePem key.kid delegationTokenType)
              request uuid4 with
          | .error _ => { st with signingKeys }
          | .ok (store, grant, token) =>
              { st with store, signingKeys, issued := st.issued ++ [(grant.id, token)] }
  | .revoke grantId =>
      let revoked := st.store.transaction fun t => t.revokeGrant st.now grantId
      { st with store := st.store.after revoked }
  | .revokeMatching tenantId userId agentId =>
      let revoked := st.store.transaction fun t => t.revokeMatching st.now tenantId userId agentId
      { st with store := st.store.after revoked }
  | .rotate pem =>
      match st.signingKeys.rotate process.rsa st.now pem with
      | .error _ => st
      | .ok signingKeys => { st with signingKeys }
  | .janitor =>
      { st with signingKeys :=
          st.signingKeys.pruneRetiring st.now process.accessTokenTtlSeconds }

/-- A grant is issued for no longer than the configured maximum. -/
def Admits : KeyEvent → Prop
  | .issue request _ _ => request.ttlSeconds ≤ process.delegationMaxTtlSeconds
  | _ => True

/-- The runs of the process, from any database. -/
def machine : Machine KeyState KeyEvent where
  initial := fun st =>
    st.signingKeys.KeysWellFormed process.rsa ∧ st.signingKeys.cached = none ∧ st.issued = []
  step := fun st e st' => process.Admits e ∧ st' = process.act st e

/-- The row of a grant is neither revoked nor expired. -/
def Alive (st : KeyState) (row : DelegationGrant) : Prop :=
  row.status ≠ "revoked" ∧ st.now < row.expiresAt

/-- Every issued grant that is neither revoked nor expired is accepted. -/
def Accepts (st : KeyState) : Prop :=
  ∀ issued ∈ st.issued, ∀ row ∈ st.store.tables.delegationGrants, row.id = issued.1 →
    Alive st row → (process.service st).verify st.store.tables st.now issued.2 = .ok (toGrant row)

/-- The key signed the token: the header names it. -/
def SignedBy (token : String) (key : OAuthSigningKey) : Prop :=
  ∃ header, process.jwt.getUnverifiedHeader token = .ok header ∧ header.kid = some key.kid

/-- No key whose grace period is over has signed a grant that is neither revoked nor
expired. -/
def GraceSuffices (st : KeyState) : Prop :=
  ∀ issued ∈ st.issued, ∀ row ∈ st.store.tables.delegationGrants, row.id = issued.1 →
    Alive st row → ∀ key ∈ st.signingKeys.keys, process.SignedBy issued.2 key →
      ¬SigningKeyService.GraceOver st.now process.accessTokenTtlSeconds key

/-- The condition on a step: a janitor tick finds no live grant behind a key it prunes. -/
def Covers (st : KeyState) : KeyEvent → Prop
  | .janitor => process.GraceSuffices st
  | _ => True

end KeyProcess

/-! ### Issued tokens -/

/-- The columns of a grant that no operation changes. -/
abbrev DelegationGrant.columns (g : DelegationGrant) :
    Id × Id × Id × Id × Id × List String × DateTime :=
  (g.id, g.userId, g.agentId, g.tenantId, g.applicationId, g.permissions, g.expiresAt)

/-- The same columns as a token carries them. -/
abbrev Delegations.IssuedClaims.columns (c : IssuedClaims) :
    Id × Id × Id × Id × Id × List String × DateTime :=
  (c.jti, c.sub, c.act, c.tenantId, c.applicationId, c.permissions, c.exp * second)

namespace DelegationService

variable {verifier : DelegationService} {rsa : Rsa} {encode : JwtEncode} {key : OAuthSigningKey}
  {claims : IssuedClaims} {t : Tables} {now : DateTime} {row : DelegationGrant}

/-- The claims agree with the row they were signed for. -/
lemma claimsMatch_of_columns (h : row.columns = claims.columns) :
    claimsMatch claims.read (toGrant row) = true := by
  simp only [DelegationGrant.columns, IssuedClaims.columns, Prod.mk.injEq] at h
  obtain ⟨-, huser, hagent, htenant, happ, hpermissions, -⟩ := h
  simp [claimsMatch, IssuedClaims.read, toGrant, huser, hagent, htenant, happ, hpermissions]

/-- **A token that decodes**: the row of its grant decides. -/
lemma verify_decoded (hjwt : JwtLaws verifier.jwt encode rsa)
    (hfind : (verifier.publicJwks.find? fun k => k.kid = some key.kid) =
      some (rsa.jwk key.privatePem))
    (hdecode : verifier.jwt.decode (encode claims key.privatePem key.kid delegationTokenType)
      (rsa.jwk key.privatePem) delegationAudience verifier.issuer verifier.leewaySeconds now =
        .ok claims.read)
    (hc : t.Constraints) (hrow : row ∈ t.delegationGrants)
    (hcolumns : row.columns = claims.columns) :
    verifier.verify t now (encode claims key.privatePem key.kid delegationTokenType) =
      if row.status = "revoked" then .error reasonRevoked
      else if row.expiresAt ≤ now then .error reasonExpired
      else .ok (toGrant row) := by
  have hid : row.id = claims.jti := congrArg Prod.fst hcolumns
  have hget : DelegationService.get t claims.jti = some (toGrant row) := by
    rw [DelegationService.get, ← hid, (lookup_eq_some_iff hc.grantId).mpr ⟨hrow, rfl⟩]
    rfl
  have hmatch := claimsMatch_of_columns hcolumns
  rw [IssuedClaims.read] at hmatch
  rw [verify, hjwt.header]
  simp only [ne_eq, not_true_eq_false, if_false, hfind, hdecode, IssuedClaims.read, hget]
  rw [hmatch]
  rfl

end DelegationService

namespace KeyProcess

variable (process : KeyProcess)

/-- What stays true of a token from its issuance on. -/
structure IssuedToken (st : KeyState) (issued : Id × String) (claims : IssuedClaims)
    (key : OAuthSigningKey) : Prop where
  token : issued.2 = process.encode claims key.privatePem key.kid delegationTokenType
  mem : key ∈ st.signingKeys.keys
  iss : claims.iss = process.issuer
  aud : claims.aud = delegationAudience
  jti : claims.jti = issued.1
  iat : claims.iat * second ≤ st.now
  nbf : claims.nbf = claims.iat
  exp : claims.exp ≤ claims.iat + process.delegationMaxTtlSeconds
  row : claims.columns ∈ st.store.tables.delegationGrants.map DelegationGrant.columns
  /-- A key that retired did so after it signed the token. -/
  rotated : ∀ r, key.status = statusRetiring → key.rotatedAt = some r → claims.iat * second ≤ r

variable {process} {st : KeyState} {issued : Id × String} {claims : IssuedClaims}
  {key : OAuthSigningKey}

/-- **A live grant is accepted exactly when its key is published.** -/
theorem verify_issued (hjwt : JwtLaws process.jwt process.encode process.rsa)
    (hkeys : st.signingKeys.KeysWellFormed process.rsa)
    (h : process.IssuedToken st issued claims key) {row : DelegationGrant}
    (hrow : row ∈ st.store.tables.delegationGrants) (hid : row.id = issued.1)
    (hlive : Alive st row) :
    (process.service st).verify st.store.tables st.now issued.2 =
      if key.Published then .ok (toGrant row) else .error reasonInvalid := by
  obtain ⟨row', hrow', hcolumns⟩ := List.mem_map.mp h.row
  have hid' : row'.id = claims.jti := congrArg Prod.fst hcolumns
  obtain rfl : row = row' := List.inj_on_of_nodup_map st.store.constraints.grantId hrow hrow'
    (hid.trans (h.jti.symm.trans hid'.symm))
  have hexpires : row.expiresAt = claims.exp * second :=
    congrArg (fun c => c.2.2.2.2.2.2) hcolumns
  have hfind := SigningKeyService.find_allPublicJwks hkeys h.mem
  have hleeway : (0 : ℤ) ≤ process.leewaySeconds * second :=
    mul_nonneg (Int.natCast_nonneg _) (by decide)
  have hunexp : (st.now : ℤ) < claims.exp * second := hexpires ▸ hlive.2
  have hdecode := hjwt.decode claims key.privatePem key.kid delegationTokenType
    process.leewaySeconds st.now (by have := h.iat; omega) (by have := h.iat; rw [h.nbf]; omega)
    (lt_of_le_of_lt (sub_le_self _ hleeway) hunexp)
  rw [h.aud, h.iss] at hdecode
  rw [h.token]
  by_cases hpublished : key.Published
  · rw [if_pos hpublished] at hfind ⊢
    have hverify : (process.service st).verify st.store.tables st.now
        (process.encode claims key.privatePem key.kid delegationTokenType) = _ :=
      DelegationService.verify_decoded hjwt hfind hdecode st.store.constraints hrow hcolumns
    rw [hverify, if_neg hlive.1, if_neg (not_le.mpr hlive.2)]
  · rw [if_neg hpublished] at hfind ⊢
    rw [DelegationService.verify]
    simp only [service, hjwt.header, ne_eq, not_true_eq_false, if_false, hfind]

/-! ### What the events do to grants -/

/-- Grants keep their columns, and a revoked one stays revoked. -/
structure GrantsKept (t t' : Tables) : Prop where
  columns : t.delegationGrants.map DelegationGrant.columns ⊆
    t'.delegationGrants.map DelegationGrant.columns
  revoked : ∀ row' ∈ t'.delegationGrants, row'.id ∈ t.delegationGrants.map DelegationGrant.id →
    ∃ row ∈ t.delegationGrants, row.columns = row'.columns ∧
      (row.status = "revoked" → row'.status = "revoked")

variable {t t' : Tables}

lemma GrantsKept.refl (t : Tables) : GrantsKept t t :=
  ⟨List.Subset.refl _, fun row hrow _ => ⟨row, hrow, rfl, fun h => h⟩⟩

/-- A revocation changes no other column. -/
lemma grantsKept_of_map {f : DelegationGrant → DelegationGrant}
    (h : t'.delegationGrants = t.delegationGrants.map f)
    (hf : ∀ g, (f g).columns = g.columns ∧ (g.status = "revoked" → (f g).status = "revoked")) :
    GrantsKept t t' := by
  refine ⟨fun c hc => ?_, fun row' hrow' _ => ?_⟩
  · obtain ⟨g, hg, rfl⟩ := List.mem_map.mp hc
    rw [h, List.map_map]
    exact List.mem_map.mpr ⟨g, hg, (hf g).1⟩
  · rw [h] at hrow'
    obtain ⟨g, hg, rfl⟩ := List.mem_map.mp hrow'
    exact ⟨g, hg, (hf g).1.symm, (hf g).2⟩

lemma revokeGrant_kept {now : DateTime} {grantId : Id} {grant : Option Grant}
    (hc : t.Constraints) (h : t.revokeGrant now grantId = .ok (t', grant)) : GrantsKept t t' := by
  rw [Tables.revokeGrant] at h
  split at h
  · obtain ⟨rfl, -⟩ := Prod.mk.inj (Except.ok.inj h)
    exact GrantsKept.refl t
  · rename_i row hl
    obtain ⟨rfl, -⟩ := Prod.mk.inj (Except.ok.inj h)
    have hrow : row ∈ t.delegationGrants := mem_of_lookup hl
    refine grantsKept_of_map (f := fun g => if g.id = row.id then
      (if g.status ≠ "revoked" then { g with status := "revoked", revokedAt := some now } else g)
      else g) (List.map_congr_left fun g hg => ?_) fun g => ?_
    · by_cases hid : g.id = row.id
      · obtain rfl := List.inj_on_of_nodup_map hc.grantId hg hrow hid
        split_ifs <;> rfl
      · split_ifs <;> simp_all
    · split
      · split
        · exact ⟨rfl, fun _ => rfl⟩
        · exact ⟨rfl, fun h => h⟩
      · exact ⟨rfl, fun h => h⟩

lemma revokeMatching_kept {now : DateTime} {tenantId : Id} {userId agentId : Option Id} {n : ℕ}
    (h : t.revokeMatching now tenantId userId agentId = .ok (t', n)) : GrantsKept t t' := by
  obtain ⟨rfl, -⟩ := Prod.mk.inj (Except.ok.inj h)
  refine grantsKept_of_map rfl fun g => ?_
  split
  · exact ⟨rfl, fun _ => rfl⟩
  · exact ⟨rfl, fun h => h⟩

/-- A recorded grant is a new row. -/
lemma grantsKept_of_append {row : DelegationGrant} (hc : t'.Constraints)
    (h : t'.delegationGrants = t.delegationGrants ++ [row]) : GrantsKept t t' := by
  refine ⟨fun c hcol => ?_, fun row' hrow' hold => ?_⟩
  · rw [h, List.map_append]
    exact List.mem_append_left _ hcol
  · rw [h] at hrow'
    rcases List.mem_append.mp hrow' with hrow' | hnew
    · exact ⟨row', hrow', rfl, fun h => h⟩
    · have hids := hc.grantId
      rw [h, List.map_append, List.nodup_append] at hids
      rw [List.mem_singleton.mp hnew] at hold
      exact absurd rfl (hids.2.2 _ hold _ (List.mem_singleton_self _))

/-! ### Steps -/

variable (process) in
/-- What one event does to keys, grants and tokens. -/
structure Moves (st : KeyState) (e : KeyEvent) (st' : KeyState) : Prop where
  wellFormed : st'.signingKeys.KeysWellFormed process.rsa
  later : st.now ≤ st'.now
  grants : GrantsKept st.store.tables st'.store.tables
  /-- A key that is no longer published was revoked by the janitor. -/
  keys : ∀ k ∈ st.signingKeys.keys, ∃ k' ∈ st'.signingKeys.keys,
    k'.kid = k.kid ∧ k'.privatePem = k.privatePem ∧
      (k' = k ∨ k'.status = statusRetiring ∧ k'.rotatedAt = some st.now ∨
        k'.status = statusRevoked ∧ e = .janitor ∧
          SigningKeyService.GraceOver st.now process.accessTokenTtlSeconds k)
  /-- A new token is signed with the active key. -/
  issued : ∀ i ∈ st'.issued, i ∈ st.issued ∨
    ∃ claims key, process.IssuedToken st' i claims key ∧ key.status = statusActive

variable {e : KeyEvent} {st' : KeyState}

/-- An event that keeps the keys that are there and hands out no token. -/
lemma Moves.of_kept {signingKeys : SigningKeyService} {store : SqlAlchemyStore} {now : DateTime}
    (hw : signingKeys.KeysWellFormed process.rsa) (hlater : st.now ≤ now)
    (hgrants : GrantsKept st.store.tables store.tables)
    (hkept : Kept st.now st.signingKeys.keys signingKeys.keys) :
    process.Moves st e ⟨store, signingKeys, now, st.issued⟩ where
  wellFormed := hw
  later := hlater
  grants := hgrants
  keys := fun k hk => by
    obtain ⟨k', hk', hkid, hpem, hrest⟩ := hkept k hk
    exact ⟨k', hk', hkid, hpem, hrest.imp id Or.inl⟩
  issued := fun _ hi => Or.inl hi

/-- A revocation in a transaction, whether it commits or not. -/
lemma moves_after {α : Type} (hw : st.signingKeys.KeysWellFormed process.rsa)
    {body : Tables → Except StoreError (Tables × α)}
    (hbody : ∀ t' a, body st.store.tables = .ok (t', a) → GrantsKept st.store.tables t') :
    process.Moves st e { st with store := st.store.after (st.store.transaction body) } := by
  refine Moves.of_kept hw le_rfl ?_ (Kept.refl _ _)
  cases h : st.store.transaction body with
  | error _ => exact GrantsKept.refl _
  | ok r => exact hbody _ r.2 (SqlAlchemyStore.transaction_eq_ok_iff.mp h).2

/-- The key an issue signs with. -/
lemma signingKey_signs {pem : String} {service' : SigningKeyService}
    (hw : st.signingKeys.KeysWellFormed process.rsa)
    (h : process.signingKey st pem = .ok (service', key)) :
    SigningKeyService.Signs process.rsa st.now st.signingKeys service' key := by
  rw [signingKey] at h
  split at h
  · exact SigningKeyService.generateIfMissing_signs hw h
  · exact SigningKeyService.activeSigningKey_signs hw h

/-- A grant that was issued, with the key that signed it. -/
lemma issuedToken_issue {signingKeys : SigningKeyService} {request : GrantRequest}
    {uuid4 : UuidSource} {store : SqlAlchemyStore} {grant : Grant} {token : String}
    (hadmits : request.ttlSeconds ≤ process.delegationMaxTtlSeconds)
    (hkey : key ∈ signingKeys.keys) (hactive : key.status = statusActive)
    (h : (process.service st).issue st.store st.now
      (fun claims => process.encode claims key.privatePem key.kid delegationTokenType)
      request uuid4 = .ok (store, grant, token)) (more : List (Id × String)) :
    GrantsKept st.store.tables store.tables ∧
      process.IssuedToken ⟨store, signingKeys, st.now, more⟩ (grant.id, token)
        (issuedClaims process.issuer (st.now / second) request (uuid4 .row)) key := by
  simp only [DelegationService.issue] at h
  split at h
  · cases h
  · rename_i store' grant' hcommit
    simp only [Except.ok.injEq, Prod.mk.injEq] at h
    obtain ⟨rfl, rfl, rfl⟩ := h
    obtain ⟨-, hbody⟩ := SqlAlchemyStore.transaction_eq_ok_iff.mp hcommit
    simp only [Tables.issueGrant, Except.ok.injEq, Prod.mk.injEq] at hbody
    obtain ⟨htables, rfl⟩ := hbody
    have hrows := congrArg Tables.delegationGrants htables.symm
    have hsecond : st.now / second * second ≤ st.now :=
      Int.ediv_mul_le st.now (by decide)
    refine ⟨grantsKept_of_append store'.constraints hrows, ?_⟩
    exact
      { token := rfl
        mem := hkey
        iss := rfl
        aud := rfl
        jti := rfl
        iat := hsecond
        nbf := rfl
        exp := Int.add_le_add_left hadmits _
        row := by
          dsimp only
          rw [hrows, List.map_append]
          exact List.mem_append_right _ (List.mem_singleton_self _)
        rotated := fun r hretiring _ =>
          absurd (hactive.symm.trans hretiring) (by decide) }

/-- **What an event does**, one case for each. -/
theorem act_moves (hw : st.signingKeys.KeysWellFormed process.rsa) (hadmits : process.Admits e) :
    process.Moves st e (process.act st e) := by
  cases e with
  | wait microseconds =>
      exact Moves.of_kept hw (Int.le_add_of_nonneg_right (Int.natCast_nonneg _))
        (GrantsKept.refl _) (Kept.refl _ _)
  | issue request pem uuid4 =>
      rw [act]
      split
      · exact Moves.of_kept hw le_rfl (GrantsKept.refl _) (Kept.refl _ _)
      · rename_i signingKeys key hkey
        obtain ⟨hw', hkept, row, hrow, hkid, hpem, hactive⟩ := signingKey_signs hw hkey
        split
        · exact Moves.of_kept hw' le_rfl (GrantsKept.refl _) hkept
        · rename_i store grant token hissue
          rw [← hkid, ← hpem] at hissue
          obtain ⟨hgrants, htoken⟩ := issuedToken_issue hadmits hrow hactive hissue
            (st.issued ++ [(grant.id, token)])
          have hmoves : process.Moves st (.issue request pem uuid4)
              ⟨store, signingKeys, st.now, st.issued⟩ :=
            Moves.of_kept hw' le_rfl hgrants hkept
          refine { hmoves with issued := fun i hi => ?_ }
          rcases List.mem_append.mp hi with hi | hi
          · exact Or.inl hi
          · rw [List.mem_singleton.mp hi]
            exact Or.inr ⟨_, row, htoken, hactive⟩
  | revoke grantId =>
      exact moves_after hw fun t' grant h => revokeGrant_kept st.store.constraints h
  | revokeMatching tenantId userId agentId =>
      exact moves_after hw fun t' n h => revokeMatching_kept h
  | rotate pem =>
      rw [act]
      split
      · exact Moves.of_kept hw le_rfl (GrantsKept.refl _) (Kept.refl _ _)
      · rename_i signingKeys hrotate
        obtain ⟨hw', hkept⟩ := SigningKeyService.rotate_spec _ hw hrotate
        exact Moves.of_kept hw' le_rfl (GrantsKept.refl _) hkept
  | janitor =>
      obtain ⟨hw', hpruned⟩ :=
        SigningKeyService.pruneRetiring_spec _ st.now process.accessTokenTtlSeconds hw
      refine ⟨hw', le_rfl, GrantsKept.refl _, fun k hk => ?_, fun _ hi => Or.inl hi⟩
      obtain ⟨k', hk', hkid, hpem, hrest⟩ := hpruned k hk
      refine ⟨k', hk', hkid, hpem, ?_⟩
      rcases hrest with ⟨-, rfl⟩ | ⟨hgrace, hrevoked⟩
      · exact Or.inl rfl
      · exact Or.inr (Or.inr ⟨hrevoked, rfl, hgrace⟩)

/-- A token keeps its grant and its key, whatever happens. -/
lemma IssuedToken.moves (h : process.IssuedToken st issued claims key)
    (hmoves : process.Moves st e st') : ∃ key', process.IssuedToken st' issued claims key' ∧
      key'.kid = key.kid ∧ (key.Published → key'.Published ∨
        e = .janitor ∧ SigningKeyService.GraceOver st.now process.accessTokenTtlSeconds key) := by
  obtain ⟨key', hmem, hkid, hpem, hrest⟩ := hmoves.keys key h.mem
  refine ⟨key', ?_, hkid, fun hpublished => ?_⟩
  · refine
      { h with
        token := by rw [h.token, hkid, hpem]
        mem := hmem
        iat := le_trans h.iat hmoves.later
        row := hmoves.grants.columns h.row
        rotated := fun r hretiring hr => ?_ }
    rcases hrest with rfl | ⟨-, hnow⟩ | ⟨hrevoked, -⟩
    · exact h.rotated r hretiring hr
    · obtain rfl := Option.some.inj (hnow.symm.trans hr)
      exact h.iat
    · exact absurd (hretiring.symm.trans hrevoked) (by decide)
  · rcases hrest with rfl | ⟨hretiring, -⟩ | ⟨-, he, hgrace⟩
    · exact Or.inl hpublished
    · exact Or.inl (Or.inr hretiring)
    · exact Or.inr ⟨he, hgrace⟩

/-- A live grant that is not new was live before. -/
lemma Moves.alive (hmoves : process.Moves st e st')
    (h : process.IssuedToken st issued claims key) {row' : DelegationGrant}
    (hrow' : row' ∈ st'.store.tables.delegationGrants) (hid : row'.id = issued.1)
    (hlive : Alive st' row') :
    ∃ row ∈ st.store.tables.delegationGrants, row.id = issued.1 ∧ Alive st row := by
  obtain ⟨row₀, hrow₀, hcolumns₀⟩ := List.mem_map.mp h.row
  simp only [DelegationGrant.columns, IssuedClaims.columns, Prod.mk.injEq] at hcolumns₀
  obtain ⟨row, hrow, hcolumns, hrevoked⟩ := hmoves.grants.revoked row' hrow'
    (List.mem_map.mpr ⟨row₀, hrow₀, by rw [hcolumns₀.1, h.jti, hid]⟩)
  simp only [DelegationGrant.columns, Prod.mk.injEq] at hcolumns
  refine ⟨row, hrow, hcolumns.1.trans hid, fun hstatus => hlive.1 (hrevoked hstatus), ?_⟩
  rw [hcolumns.2.2.2.2.2.2]
  exact lt_of_le_of_lt hmoves.later hlive.2

end KeyProcess

end AuthzKit
