import AuthzKit.Storage.Sqlalchemy

/-!
Delegation grants of `authzkit/security/delegations.py`: a user's time-boxed
hand-off of a permission subset to an agent, recorded as a row and carried by a
signed token.

PyJWT and the published keys are a parameter (`Jwt`). Signatures are taken to be
unforgeable, so the payload of a token that verifies has the keys `issue` writes.

* `DelegationService.verify`: the checks of a token; `verify_eq_ok` says what a
  grant that passed them is.
* `Tables.issueGrant`, `Tables.revokeGrant`, `Tables.revokeMatching`: the writes.
-/

namespace AuthzKit

open Keyed

namespace Delegations

def delegationTokenType : String := "authz-delegation+jwt"

def delegationAudience : String := "urn:authz:delegation"

def reasonInvalid : String := "delegation_invalid"

def reasonExpired : String := "delegation_expired"

def reasonRevoked : String := "delegation_revoked"

def reasonMismatch : String := "delegation_mismatch"

def reasonRequired : String := "delegation_required"

/-- `DelegationGrant`, the stored row as the service hands it out. -/
structure Grant where
  id : Id
  tenantId : Id
  applicationId : Id
  userId : Id
  agentId : Id
  permissions : Finset String
  purpose : Option String
  issuedBy : Option String
  status : String
  expiresAt : DateTime
  revokedAt : Option DateTime
  createdAt : Option DateTime
deriving DecidableEq

/-- `_to_grant`. -/
def toGrant (row : DelegationGrant) : Grant where
  id := row.id
  tenantId := row.tenantId
  applicationId := row.applicationId
  userId := row.userId
  agentId := row.agentId
  permissions := row.permissions.toFinset
  purpose := row.purpose
  issuedBy := row.issuedBy
  status := row.status
  expiresAt := row.expiresAt
  revokedAt := row.revokedAt
  createdAt := row.createdAt

/-! ### Tokens -/

/-- The header of a token, before its signature is checked. -/
structure Header where
  typ : Option String
  kid : Option String
deriving DecidableEq, Repr

/-- A published verification key. -/
structure Jwk where
  kid : Option String
  material : String
deriving DecidableEq, Repr

/-- The payload `issue` signs, as far as `verify` reads it after `jwt.decode` has
checked issuer, audience and times. -/
structure Claims where
  sub : Id
  act : Id
  jti : Id
  tenantId : Id
  applicationId : Id
  permissions : List String
deriving DecidableEq, Repr

/-- `ExpiredSignatureError` and every other `PyJWTError`. -/
inductive JwtError where
  | expiredSignature
  | pyJwtError
deriving DecidableEq, Repr

/-- What the service uses of PyJWT; `decode` depends on the time it runs at. -/
structure Jwt where
  getUnverifiedHeader : (token : String) → Except JwtError Header
  decode : (token : String) → (key : Jwk) → (audience issuer : String) → (leewaySeconds : ℕ) →
    (now : DateTime) → Except JwtError Claims

end Delegations

open Delegations

/-- `DelegationService`, with the keys `all_public_jwks` publishes. -/
structure DelegationService where
  jwt : Jwt
  publicJwks : List Jwk
  issuer : String
  leewaySeconds : ℕ

namespace DelegationService

variable (service : DelegationService)

/-- `get`. -/
def get (t : Tables) (grantId : Id) : Option Grant :=
  (lookup DelegationGrant.id t.delegationGrants grantId).map toGrant

/-- The signed claims agree with the stored row. -/
def claimsMatch (claims : Claims) (grant : Grant) : Bool :=
  claims.sub == grant.userId && claims.act == grant.agentId &&
    claims.tenantId == grant.tenantId && claims.applicationId == grant.applicationId &&
    claims.permissions.toFinset == grant.permissions

/-- `verify`: the grant of a token, or the reason it is refused. -/
def verify (t : Tables) (now : DateTime) (token : String) : Except String Grant :=
  match service.jwt.getUnverifiedHeader token with
  | .error _ => .error reasonInvalid
  | .ok header =>
      if header.typ ≠ some delegationTokenType then .error reasonInvalid
      else
        match service.publicJwks.find? fun k => k.kid = header.kid with
        | none => .error reasonInvalid
        | some jwk =>
            match service.jwt.decode token jwk delegationAudience service.issuer
                service.leewaySeconds now with
            | .error .expiredSignature => .error reasonExpired
            | .error .pyJwtError => .error reasonInvalid
            | .ok claims =>
                match get t claims.jti with
                | none => .error reasonInvalid
                | some grant =>
                    if grant.status = "revoked" then .error reasonRevoked
                    else if grant.expiresAt ≤ now then .error reasonExpired
                    else if !claimsMatch claims grant then .error reasonInvalid
                    else .ok grant

variable {service}

/-- A grant a token verified to is a stored row, neither revoked nor expired. -/
theorem verify_eq_ok {t : Tables} {now : DateTime} {token : String} {grant : Grant}
    (h : service.verify t now token = .ok grant) :
    (∃ row ∈ t.delegationGrants, grant = toGrant row) ∧ grant.status ≠ "revoked" ∧
      now < grant.expiresAt := by
  rw [verify] at h
  split at h
  · cases h
  · split at h
    · cases h
    · split at h
      · cases h
      · split at h
        · cases h
        · cases h
        · split at h
          · cases h
          · rename_i claims _ _ grant' hget
            split_ifs at h with hrevoked hexpired
            obtain rfl := Except.ok.inj h
            obtain ⟨row, hrow, rfl⟩ := Option.map_eq_some_iff.mp hget
            exact ⟨⟨row, mem_of_lookup hrow, rfl⟩, hrevoked, not_le.mp hexpired⟩

end DelegationService

/-! ### Writes -/

namespace Tables

/-- The row `DelegationService.issue` records, under the id it signs. -/
def issueGrant (t : Tables) (uuid4 : UuidSource) (tenantId applicationId userId agentId : Id)
    (permissions : Finset String) (expiresAt now : DateTime) (purpose issuedBy : Option String) :
    Except StoreError (Tables × Grant) :=
  let row : DelegationGrant :=
    { id := uuid4 .row, tenantId, applicationId, userId, agentId,
      permissions := permissions.sort (· ≤ ·), purpose, issuedBy, status := "active", expiresAt,
      revokedAt := none, createdAt := some now }
  .ok ({ t with delegationGrants := t.delegationGrants ++ [row] }, toGrant row)

/-- `DelegationService.revoke`. -/
def revokeGrant (t : Tables) (now : DateTime) (grantId : Id) :
    Except StoreError (Tables × Option Grant) :=
  match lookup DelegationGrant.id t.delegationGrants grantId with
  | none => .ok (t, none)
  | some row =>
      let row :=
        if row.status ≠ "revoked" then { row with status := "revoked", revokedAt := some now }
        else row
      .ok ({ t with delegationGrants := update DelegationGrant.id t.delegationGrants row },
        some (toGrant row))

/-- `DelegationService.revoke_matching`: the active grants of a tenant, and of a
user or an agent when one is given. -/
def revokeMatching (t : Tables) (now : DateTime) (tenantId : Id) (userId agentId : Option Id) :
    Except StoreError (Tables × ℕ) :=
  let given := fun id : Option Id => id.filter fun i => i ≠ ""
  let hit := fun g : DelegationGrant =>
    decide (g.tenantId = tenantId ∧ g.status = "active" ∧
      (∀ u ∈ given userId, g.userId = u) ∧ ∀ a ∈ given agentId, g.agentId = a)
  .ok ({ t with
      delegationGrants := t.delegationGrants.map fun g =>
        if hit g then { g with status := "revoked", revokedAt := some now } else g },
    (t.delegationGrants.filter hit).length)

end Tables

end AuthzKit
