import AuthzKit.Security.Delegations

/-!
`DelegationService.issue`: a grant is signed first, then recorded, so that a missing
signing key leaves no row behind.

Signing is a function of the claims (`Signer`); which key it uses is up to the caller.
-/

namespace AuthzKit

open Delegations

namespace Delegations

/-- Microseconds of one second. -/
def second : ℤ := 1000000

/-- The claims `issue` signs; times in seconds. -/
structure IssuedClaims where
  iss : String
  aud : String
  sub : Id
  act : Id
  jti : Id
  iat : ℤ
  nbf : ℤ
  exp : ℤ
  tenantId : Id
  applicationId : Id
  permissions : List String
  purpose : Option String
deriving DecidableEq

/-- `jwt.encode` under one key. -/
abbrev Signer := IssuedClaims → String

/-- The arguments of `issue`. -/
structure GrantRequest where
  tenantId : Id
  applicationId : Id
  userId : Id
  agentId : Id
  permissions : Finset String
  ttlSeconds : ℤ
  purpose : Option String
  issuedBy : String
deriving DecidableEq

/-- The claims of a grant issued at a time in whole seconds. -/
def issuedClaims (issuer : String) (now : ℤ) (request : GrantRequest) (grantId : Id) :
    IssuedClaims where
  iss := issuer
  aud := delegationAudience
  sub := request.userId
  act := request.agentId
  jti := grantId
  iat := now
  nbf := now
  exp := now + request.ttlSeconds
  tenantId := request.tenantId
  applicationId := request.applicationId
  permissions := request.permissions.sort (· ≤ ·)
  purpose := request.purpose.filter fun p => p ≠ ""

end Delegations

/-- `issue`: the store with the new row, the grant and its token. -/
def DelegationService.issue (service : DelegationService) (s : SqlAlchemyStore) (now : DateTime)
    (signer : Signer) (request : GrantRequest) (uuid4 : UuidSource) :
    Except StoreError (SqlAlchemyStore × Grant × String) :=
  let now := now / second
  let token := signer (issuedClaims service.issuer now request (uuid4 .row))
  match s.transaction fun t => t.issueGrant uuid4 request.tenantId request.applicationId
      request.userId request.agentId request.permissions ((now + request.ttlSeconds) * second)
      (now * second) request.purpose (some request.issuedBy) with
  | .error e => .error e
  | .ok (s, grant) => .ok (s, grant, token)

end AuthzKit
