import AuthzKit.Security.KeyRotation

/-!
Whether grants outlive key rotation, over whole runs of `KeyProcess.machine`.

The grace period of a retired key is twice the lifetime of access tokens, but a grant may
live as long as `delegation_max_ttl_seconds`. A grant that outlives the grace period of its
key is refused from the janitor's next tick on (`grant_refused_after_rotation`).

* `KeyProcess.sound_of_reachable`: keys and tokens are as the service writes them.
* `KeyProcess.grants_outlive_rotation`: every live grant is accepted in every run in which
  no janitor tick finds one behind a key whose grace period is over; the first tick that
  does makes it refused.
* `KeyProcess.graceSuffices_of_ttl`: there is no such tick when grants are issued for at most
  twice the lifetime of access tokens.
-/

namespace AuthzKit

open Keyed Delegations

namespace KeyProcess

variable {process : KeyProcess} {st st' : KeyState} {e : KeyEvent} {issued : Id × String}
  {claims : IssuedClaims} {key : OAuthSigningKey}

/-- Keys and tokens are as the service writes them. -/
structure Sound (process : KeyProcess) (st : KeyState) : Prop where
  wellFormed : st.signingKeys.KeysWellFormed process.rsa
  tokens : ∀ i ∈ st.issued, ∃ claims key, process.IssuedToken st i claims key

/-- The live grants are behind published keys. -/
def Behind (process : KeyProcess) (st : KeyState) : Prop :=
  ∀ i ∈ st.issued, ∀ claims key, process.IssuedToken st i claims key →
    ∀ row ∈ st.store.tables.delegationGrants, row.id = i.1 → Alive st row → key.Published

/-- An invariant of every run. -/
theorem sound_of_reachable (h : process.machine.Reachable st) : process.Sound st := by
  refine h.invariant ?_ ?_
  · rintro st ⟨hw, -, hnone⟩
    refine ⟨hw, fun i hi => ?_⟩
    rw [hnone] at hi
    cases hi
  · rintro st e st' - hsound ⟨hadmits, rfl⟩
    have hmoves := act_moves hsound.wellFormed hadmits
    refine ⟨hmoves.wellFormed, fun i hi => ?_⟩
    rcases hmoves.issued i hi with hold | ⟨claims, key, htoken, -⟩
    · obtain ⟨claims, key, htoken⟩ := hsound.tokens i hold
      obtain ⟨key', htoken', -⟩ := htoken.moves hmoves
      exact ⟨claims, key', htoken'⟩
    · exact ⟨claims, key, htoken⟩

/-- A token names one key. -/
lemma IssuedToken.signedBy (hjwt : JwtLaws process.jwt process.encode process.rsa)
    (h : process.IssuedToken st issued claims key) : process.SignedBy issued.2 key :=
  ⟨_, h.token ▸ hjwt.header _ _ _ _, rfl⟩

lemma IssuedToken.eq_of_signedBy (hjwt : JwtLaws process.jwt process.encode process.rsa)
    (hw : st.signingKeys.KeysWellFormed process.rsa)
    (h : process.IssuedToken st issued claims key) {k : OAuthSigningKey}
    (hk : k ∈ st.signingKeys.keys) (hsigned : process.SignedBy issued.2 k) : k = key := by
  obtain ⟨header, hheader, hkid⟩ := hsigned
  rw [h.token, hjwt.header] at hheader
  obtain rfl := Except.ok.inj hheader
  exact List.inj_on_of_nodup_map hw.kids hk h.mem (Option.some.inj hkid).symm

/-- Acceptance of the live grants, by what verification reads. -/
theorem accepts_iff_behind (hjwt : JwtLaws process.jwt process.encode process.rsa)
    (hsound : process.Sound st) : process.Accepts st ↔ process.Behind st := by
  constructor
  · intro h i hi claims key htoken row hrow hid hlive
    by_contra hhidden
    have hverify := verify_issued hjwt hsound.wellFormed htoken hrow hid hlive
    rw [if_neg hhidden, h i hi row hrow hid hlive] at hverify
    cases hverify
  · intro h i hi row hrow hid hlive
    obtain ⟨claims, key, htoken⟩ := hsound.tokens i hi
    rw [verify_issued hjwt hsound.wellFormed htoken hrow hid hlive,
      if_pos (h i hi claims key htoken row hrow hid hlive)]

/-- A covered event leaves every live grant behind a published key. -/
lemma behind_step (hjwt : JwtLaws process.jwt process.encode process.rsa)
    (hsound : process.Sound st) (hbehind : process.Behind st) (hadmits : process.Admits e)
    (hcovers : process.Covers st e) : process.Behind (process.act st e) := by
  intro i hi claims key htoken row' hrow' hid hlive
  have hmoves := act_moves hsound.wellFormed hadmits
  have hsame : ∀ {claims₁ key₁}, process.IssuedToken (process.act st e) i claims₁ key₁ →
      key = key₁ := fun h =>
    h.eq_of_signedBy hjwt hmoves.wellFormed htoken.mem (htoken.signedBy hjwt)
  rcases hmoves.issued i hi with hold | ⟨claims₁, key₁, hnew, hactive⟩
  · obtain ⟨claims₀, key₀, htoken₀⟩ := hsound.tokens i hold
    obtain ⟨row, hrow, hid₀, hlive₀⟩ := hmoves.alive htoken₀ hrow' hid hlive
    obtain ⟨key₁, htoken₁, -, hkept⟩ := htoken₀.moves hmoves
    rw [hsame htoken₁]
    rcases hkept (hbehind i hold claims₀ key₀ htoken₀ row hrow hid₀ hlive₀) with h | ⟨rfl, hgrace⟩
    · exact h
    · exact absurd hgrace
        (hcovers i hold row hrow hid₀ hlive₀ key₀ htoken₀.mem (htoken₀.signedBy hjwt))
  · rw [hsame hnew]
    exact Or.inl hactive

/-- A tick that finds a live grant behind a key it prunes leaves it refused. -/
lemma not_accepts_of_not_covers (hjwt : JwtLaws process.jwt process.encode process.rsa)
    (hsound : process.Sound st) (hcovers : ¬process.Covers st e) :
    ¬process.Accepts (process.act st e) := by
  cases e with
  | janitor =>
      rw [Covers, GraceSuffices] at hcovers
      push Not at hcovers
      obtain ⟨i, hi, row, hrow, hid, hlive, key, hkey, hsigned, hgrace⟩ := hcovers
      obtain ⟨claims, key₀, htoken⟩ := hsound.tokens i hi
      obtain rfl := htoken.eq_of_signedBy hjwt hsound.wellFormed hkey hsigned
      have hmoves : process.Moves st .janitor (process.act st .janitor) :=
        act_moves hsound.wellFormed trivial
      obtain ⟨key', htoken', hkid', -⟩ := htoken.moves hmoves
      obtain ⟨pruned, hpruned, hkid, -, hrest⟩ := (SigningKeyService.pruneRetiring_spec
        _ st.now process.accessTokenTtlSeconds hsound.wellFormed).2 key hkey
      have hrevoked : pruned.status = statusRevoked :=
        hrest.elim (fun h => absurd hgrace h.1) fun h => h.2
      have heq : key' = pruned := List.inj_on_of_nodup_map hmoves.wellFormed.kids htoken'.mem
        hpruned (hkid'.trans hkid.symm)
      intro haccepts
      have hsound' : process.Sound (process.act st .janitor) :=
        ⟨hmoves.wellFormed, fun j hj =>
          have ⟨c, k, hc⟩ := hsound.tokens j hj
          have ⟨k', hk', _⟩ := hc.moves hmoves
          ⟨c, k', hk'⟩⟩
      have hpublished : pruned.Published :=
        heq ▸ (accepts_iff_behind hjwt hsound').mp haccepts i hi claims key' htoken' row hrow hid
          hlive
      rw [OAuthSigningKey.Published, hrevoked] at hpublished
      exact absurd hpublished (by decide)
  | _ => exact absurd trivial hcovers

/-- **Grants outlive rotation as far as the grace period reaches**: in a run in which no
janitor tick finds a live grant behind a key whose grace period is over, every live grant is
accepted; after a tick that does, one is refused. -/
theorem grants_outlive_rotation (process : KeyProcess)
    (hjwt : JwtLaws process.jwt process.encode process.rsa) :
    (∀ st, (process.machine.restrict process.Covers).Reachable st → process.Accepts st) ∧
      ∀ st e st', process.machine.Reachable st → process.machine.step st e st' →
        ¬process.Covers st e → ¬process.Accepts st' := by
  refine ⟨fun st h => ?_, ?_⟩
  · have hsound := sound_of_reachable h.of_restrict
    refine (accepts_iff_behind hjwt hsound).mpr (h.invariant ?_ ?_)
    · rintro st ⟨-, -, hnone⟩ i hi
      rw [hnone] at hi
      cases hi
    · rintro st e st' hreach hbehind ⟨⟨hadmits, rfl⟩, hcovers⟩
      exact behind_step hjwt (sound_of_reachable hreach.of_restrict) hbehind hadmits hcovers
  · rintro st e st' hreach ⟨-, rfl⟩ hcovers
    exact not_accepts_of_not_covers hjwt (sound_of_reachable hreach) hcovers

/-- With grants no longer than twice the lifetime of access tokens every tick is covered. -/
theorem graceSuffices_of_ttl (hjwt : JwtLaws process.jwt process.encode process.rsa)
    (httl : process.delegationMaxTtlSeconds ≤ 2 * process.accessTokenTtlSeconds)
    (h : process.machine.Reachable st) : process.GraceSuffices st := by
  intro i hi row hrow hid hlive key hkey hsigned ⟨hretiring, r, hr, hover⟩
  have hsound := sound_of_reachable h
  obtain ⟨claims, key₀, htoken⟩ := hsound.tokens i hi
  obtain rfl := htoken.eq_of_signedBy hjwt hsound.wellFormed hkey hsigned
  obtain ⟨row₀, hrow₀, hcolumns⟩ := List.mem_map.mp htoken.row
  simp only [DelegationGrant.columns, IssuedClaims.columns, Prod.mk.injEq] at hcolumns
  obtain rfl := List.inj_on_of_nodup_map st.store.constraints.grantId hrow hrow₀
    (hid.trans (htoken.jti.symm.trans hcolumns.1.symm))
  have hexpires : row.expiresAt = claims.exp * second := hcolumns.2.2.2.2.2.2
  have hsigned : claims.iat * second ≤ r := htoken.rotated r hretiring hr
  have hlifetime : claims.exp ≤ claims.iat + process.delegationMaxTtlSeconds := htoken.exp
  have : row.expiresAt ≤ st.now := calc
    row.expiresAt = claims.exp * second := hexpires
    _ ≤ (claims.iat + 2 * process.accessTokenTtlSeconds) * second :=
      Int.mul_le_mul_of_nonneg_right (by omega) (by decide)
    _ = claims.iat * second + 2 * process.accessTokenTtlSeconds * second := Int.add_mul _ _ _
    _ ≤ r + 2 * process.accessTokenTtlSeconds * second := Int.add_le_add_right hsigned _
    _ ≤ st.now := le_sub_iff_add_le.mp hover
  exact absurd hlive.2 (not_lt.mpr this)

/-! ### A rotation during a grant of a day -/

/-- A process with the default settings. -/
def defaultProcess (jwt : Jwt) (encode : JwtEncode) : KeyProcess where
  jwt := jwt
  encode := encode
  rsa := ⟨id, id⟩
  issuer := "urn:authz"
  leewaySeconds := 30
  accessTokenTtlSeconds := 3600
  delegationMaxTtlSeconds := 86400
  devMode := true
  sqlite := true

def dayLongRequest : GrantRequest where
  tenantId := "acme"
  applicationId := "crm"
  userId := "anna"
  agentId := "copilot"
  permissions := ∅
  ttlSeconds := 86400
  purpose := none
  issuedBy := "apikey:k1"

/-- A grant for a day, a rotation at once, and two hours. -/
def rotatedEarly : List KeyEvent :=
  [.issue dayLongRequest "first" fun _ => "grant-1", .rotate "second", .wait 7200000000]

def startState : KeyState := ⟨SqlAlchemyStore.empty ⟨false⟩, ⟨[], none⟩, 0, []⟩

/-- The state after a list of events. -/
def run (process : KeyProcess) (st : KeyState) (events : List KeyEvent) : KeyState :=
  events.foldl process.act st

lemma reachable_run {events : List KeyEvent} (h : process.machine.Reachable st)
    (hadmits : ∀ e ∈ events, process.Admits e) :
    process.machine.Reachable (process.run st events) := by
  refine Machine.Reachable.foldl (fun st e he => ?_) h
  exact ⟨hadmits e he, rfl⟩

/-- The janitor's next tick finds the grant behind the retired key. -/
lemma rotatedEarly_uncovered {jwt : Jwt} {encode : JwtEncode}
    (hjwt : JwtLaws jwt encode ⟨id, id⟩) :
    let process := defaultProcess jwt encode
    process.machine.Reachable (process.run startState rotatedEarly) ∧
      ¬process.Covers (process.run startState rotatedEarly) .janitor := by
  intro process
  refine ⟨reachable_run (.init ⟨⟨List.nodup_nil, fun k hk => ?_, fun k hk => ?_⟩, rfl, rfl⟩)
    (fun e he => ?_), fun hcovers => ?_⟩
  · cases hk
  · cases hk
  · fin_cases he
    · exact le_refl (86400 : ℤ)
    · exact trivial
    · exact trivial
  · have hissued : (process.run startState rotatedEarly).issued =
        [("grant-1", encode (issuedClaims "urn:authz" 0 dayLongRequest "grant-1") "first" "first"
          delegationTokenType)] := rfl
    have hgrants : (process.run startState rotatedEarly).store.tables.delegationGrants =
        [{ id := "grant-1", tenantId := "acme", applicationId := "crm", userId := "anna",
           agentId := "copilot", permissions := (∅ : Finset String).sort (· ≤ ·), purpose := none,
           issuedBy := some "apikey:k1", status := "active", expiresAt := 86400 * second,
           revokedAt := none, createdAt := some 0 }] :=
      rfl
    have hkeys : (process.run startState rotatedEarly).signingKeys.keys =
        [⟨"first", ⟨some "first", "first"⟩, "first", statusRetiring, 0, some 0⟩,
          ⟨"second", ⟨some "second", "second"⟩, "second", statusActive, 0, none⟩] :=
      rfl
    have hnow : (process.run startState rotatedEarly).now = 7200 * second := rfl
    rw [Covers, GraceSuffices, hissued, hgrants, hkeys] at hcovers
    refine hcovers _ List.mem_cons_self _ List.mem_cons_self rfl ⟨by decide, ?_⟩ _
      List.mem_cons_self ⟨_, hjwt.header _ _ _ _, rfl⟩ ⟨rfl, 0, rfl, ?_⟩
    · exact hnow ▸ (by decide : (7200 * second : ℤ) < 86400 * second)
    · exact hnow ▸ (by decide : (0 : ℤ) ≤ 7200 * second - 2 * 3600 * second)

/-- With the default settings a live grant is refused two hours after its key retired. -/
theorem grant_refused_after_rotation {jwt : Jwt} {encode : JwtEncode}
    (hjwt : JwtLaws jwt encode ⟨id, id⟩) :
    ∃ st, (defaultProcess jwt encode).machine.Reachable st ∧
      ¬(defaultProcess jwt encode).Accepts st := by
  obtain ⟨hreach, hcovers⟩ := rotatedEarly_uncovered hjwt
  exact ⟨_, hreach.step (i := .janitor) ⟨trivial, rfl⟩,
    not_accepts_of_not_covers hjwt (sound_of_reachable hreach) hcovers⟩

end KeyProcess

/-! ### Tokens without secrets -/

namespace PlainJwt

/-- Characters as numbers. -/
instance encodableString : Encodable String :=
  Encodable.ofLeftInverse (fun s : String => s.toList.map Char.toNat)
    (fun l => String.ofList (l.map Char.ofNat)) fun s => by
      simp [List.map_map, Function.comp_def, Char.ofNat_toNat]

/-- What a token carries. -/
abbrev Content := (String × String × String) × (String × String × Id × Id × Id) ×
  (ℤ × ℤ × ℤ) × Id × Id × List String × Option String

def content (c : IssuedClaims) (pem kid typ : String) : Content :=
  ((pem, kid, typ), (c.iss, c.aud, c.sub, c.act, c.jti), (c.iat, c.nbf, c.exp), c.tenantId,
    c.applicationId, c.permissions, c.purpose)

/-- A token as long as the number of its content. -/
def encode : JwtEncode := fun c pem kid typ =>
  String.ofList (List.replicate (Encodable.encode (content c pem kid typ)) 'a')

def read (token : String) : Option Content := Encodable.decode token.length

lemma read_encode (c : IssuedClaims) (pem kid typ : String) :
    read (encode c pem kid typ) = some (content c pem kid typ) := by
  rw [read, encode, String.length_ofList, List.length_replicate, Encodable.encodek]

/-- The checks of `jwt.decode`. -/
def jwt : Jwt where
  getUnverifiedHeader := fun token =>
    match read token with
    | none => .error .pyJwtError
    | some ((_, kid, typ), _) => .ok ⟨some typ, some kid⟩
  decode := fun token key audience issuer leewaySeconds now =>
    match read token with
    | none => .error .pyJwtError
    | some ((pem, _, _), (iss, aud, sub, act, jti), (iat, nbf, exp), tenantId, applicationId,
        permissions, _) =>
        if key.material ≠ pem ∨ aud ≠ audience ∨ iss ≠ issuer ∨
            now + leewaySeconds * second < iat * second ∨
            now + leewaySeconds * second < nbf * second then .error .pyJwtError
        else if exp * second ≤ now - leewaySeconds * second then .error .expiredSignature
        else .ok ⟨sub, act, jti, tenantId, applicationId, permissions⟩

lemma laws : JwtLaws jwt encode ⟨id, id⟩ where
  header := fun c pem kid typ => by simp [jwt, read_encode, content]
  decode := fun c pem kid typ leewaySeconds now hiat hnbf hexp => by
    simp [jwt, read_encode, content, IssuedClaims.read, Rsa.jwk, not_lt.mpr hiat,
      not_lt.mpr hnbf, not_le.mpr hexp]

end PlainJwt

namespace KeyProcess

theorem grants_outlive_rotation_plain :
    let process := defaultProcess PlainJwt.jwt PlainJwt.encode
    (∀ st, (process.machine.restrict process.Covers).Reachable st → process.Accepts st) ∧
      ∀ st e st', process.machine.Reachable st → process.machine.step st e st' →
        ¬process.Covers st e → ¬process.Accepts st' :=
  grants_outlive_rotation (defaultProcess PlainJwt.jwt PlainJwt.encode) PlainJwt.laws

/-- Not every live grant is accepted. -/
theorem grant_refused_two_hours_later :
    ¬∀ st, (defaultProcess PlainJwt.jwt PlainJwt.encode).machine.Reachable st →
      (defaultProcess PlainJwt.jwt PlainJwt.encode).Accepts st := by
  intro h
  obtain ⟨st, hreach, hrefused⟩ := grant_refused_after_rotation PlainJwt.laws
  exact hrefused (h st hreach)

end KeyProcess

end AuthzKit
