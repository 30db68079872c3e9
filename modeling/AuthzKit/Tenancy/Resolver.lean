import AuthzKit.Storage.Reads

/-!
`TenantContextResolver` of `authzkit/tenancy/resolver.py`: from a normalized identity
to a user, a tenant, a membership and its permissions.

* `resolveUser`: the user of an identity, created when there is none and the settings
  allow it.
* `resolveTenant`: the tenant asked for, else the one the identity's IdP tenant maps
  to, else the only one the user is an active member of.
* `contextIn`: what follows once the application and the user are known.
-/

namespace AuthzKit

open Keyed

/-- `IdentityPrincipal`, as far as the resolver reads it. -/
structure IdentityPrincipal where
  provider : String
  issuer : String
  subject : String
  email : Option String
  externalTenantId : Option String
deriving DecidableEq, Repr

/-- The identity as the key of `external_identities`. -/
def IdentityPrincipal.ref (p : IdentityPrincipal) : UserRef := ⟨p.provider, p.issuer, p.subject⟩

/-- `UserContext`. -/
structure UserContext where
  tenantId : Id
  applicationId : Id
  userId : Id
  roles : Finset String
  permissions : Finset String
deriving DecidableEq

/-- What `resolve` raises. -/
inductive ContextError where
  | invalidRequest (message : String)
  | tenantNotActive
  | noActiveMembership
  | store (e : StoreError)
deriving DecidableEq

/-- `if value:` of an optional string. -/
def given (value : Option String) : Option String := value.filter fun v => v ≠ ""

namespace TenantContextResolver

/-- `_resolve_user`. -/
def resolveUser (s : SqlAlchemyStore) (allowAutoProvisionUser : Bool) (uuid4 : UuidSource)
    (principal : IdentityPrincipal) : Except ContextError (SqlAlchemyStore × User) :=
  match s.tables.findUserByExternalIdentity principal.ref with
  | some existing => .ok (s, existing)
  | none =>
      if !allowAutoProvisionUser then .error .noActiveMembership
      else
        match s.transaction fun t => t.upsertUserFromIdentity uuid4 principal.ref principal.email
            principal.externalTenantId none with
        | .error e => .error (.store e)
        | .ok (s', user, _) => .ok (s', user)

section Tables

variable (t : Tables) (mappings : List TenantIdentityMapping)

/-- The tenants of the active memberships of the identity's user. -/
def uniqueTenants (principal : IdentityPrincipal) : Finset Id :=
  match t.findUserByExternalIdentity principal.ref with
  | none => ∅
  | some user =>
      (((t.listMembershipsForUser user.id).filter fun m => m.status = statusActive).map
        Membership.tenantId).toFinset

/-- The only tenant of a user without ambiguity. -/
def singleTenant (principal : IdentityPrincipal) : Option Tenant :=
  (t.tenants.find? fun tn => uniqueTenants t principal = {tn.id})

/-- `_resolve_tenant`. -/
def resolveTenant (principal : IdentityPrincipal) (explicitTenantId : Option String) :
    Except ContextError Tenant :=
  match given explicitTenantId with
  | some tenantId =>
      match t.getTenant tenantId with
      | none => .error (.invalidRequest ("unknown tenant: " ++ tenantId))
      | some tenant => .ok tenant
  | none =>
      let mapped := (given principal.externalTenantId).bind
        (t.findTenantByExternal mappings principal.provider principal.issuer)
      match mapped.or (singleTenant t principal) with
      | none => .error .noActiveMembership
      | some tenant => .ok tenant

/-- The membership that scopes a user to a tenant and an application: the one of the
application, else the tenant-wide one. -/
def membershipIn (tenantId applicationId userId : Id) : Option Membership :=
  (t.membershipOf tenantId (some applicationId) userId).or (t.membershipOf tenantId none userId)

/-- `resolve_membership_permissions`. -/
def membershipPermissions (m : Membership) : Finset String :=
  match m.applicationId with
  | none => ∅
  | some a => t.resolveUserPermissions m.tenantId a m.userId

/-- `resolve`, once the application and the user are known. -/
def contextIn (principal : IdentityPrincipal) (explicitTenantId : Option String)
    (application : Application) (user : User) : Except ContextError UserContext :=
  match resolveTenant t mappings principal explicitTenantId with
  | .error e => .error e
  | .ok tenant =>
      if tenant.status ≠ statusActive then .error .tenantNotActive
      else
        match membershipIn t tenant.id application.id user.id with
        | none => .error .noActiveMembership
        | some m =>
            if m.status ≠ statusActive then .error .noActiveMembership
            else .ok ⟨tenant.id, application.id, user.id, t.membershipRoleNames m.id,
              membershipPermissions t m⟩

end Tables

/-- `resolve`: the store afterwards, and the context or what is raised. -/
def resolve (s : SqlAlchemyStore) (mappings : List TenantIdentityMapping)
    (allowAutoProvisionUser : Bool) (uuid4 : UuidSource) (principal : IdentityPrincipal)
    (applicationSlug : String) (explicitTenantId : Option String) :
    SqlAlchemyStore × Except ContextError UserContext :=
  match s.tables.getApplicationBySlug applicationSlug with
  | none => (s, .error (.invalidRequest ("unknown application: " ++ applicationSlug)))
  | some application =>
      match resolveUser s allowAutoProvisionUser uuid4 principal with
      | .error e => (s, .error e)
      | .ok (s', user) =>
          (s', contextIn s'.tables mappings principal explicitTenantId application user)

end TenantContextResolver

end AuthzKit
