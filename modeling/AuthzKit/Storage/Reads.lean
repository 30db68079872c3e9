import AuthzKit.Storage.Resolve

/-!
The reads of `SqlAlchemyStore` that the runtime routes make besides decisions: rows
by id, slug, identity or name, the memberships of a user, and the default roles of an
application as a tenant sees them.
-/

namespace AuthzKit

open Keyed

/-- `TenantIdentityMapping`: the tenant of an IdP's own tenant. -/
structure TenantIdentityMapping where
  tenantId : Id
  provider : String
  issuer : String
  externalTenantId : String
deriving DecidableEq, Repr

/-- `TenantRoleView`: a default role as one tenant sees it. -/
structure TenantRoleView where
  name : String
  source : String
  permissions : List String
  defaultPermissions : List String
deriving DecidableEq, Repr

namespace Tables

variable (t : Tables)

/-! ### Rows -/

/-- `get_tenant`. -/
def getTenant (tenantId : Id) : Option Tenant := lookup Tenant.id t.tenants tenantId

/-- `get_application_by_slug`. -/
def getApplicationBySlug (slug : String) : Option Application :=
  lookup Application.slug t.applications slug

/-- `find_user_by_external_identity`. -/
def findUserByExternalIdentity (ref : UserRef) : Option User :=
  (lookup ExternalIdentity.ref t.externalIdentities ref).bind fun i => lookup User.id t.users i.userId

/-- `find_tenant_by_external`. -/
def findTenantByExternal (mappings : List TenantIdentityMapping)
    (provider issuer externalTenantId : String) : Option Tenant :=
  (mappings.find? fun m =>
    m.provider = provider ∧ m.issuer = issuer ∧ m.externalTenantId = externalTenantId).bind
      fun m => t.getTenant m.tenantId

/-- `find_agent_by_name`. -/
def findAgentByName (tenantId applicationId : Id) (name : String) : Option Agent :=
  t.agents.find? fun a =>
    a.tenantId = tenantId ∧ a.applicationId = applicationId ∧ a.name = name

/-- `list_memberships_for_user`. -/
def listMembershipsForUser (userId : Id) : List Membership :=
  t.memberships.filter fun m => m.userId = userId

/-! ### Roles of a tenant -/

/-- The sorted names of the active permissions of a role. -/
def rolePermissionNames (roleId : Id) : List String :=
  ((t.permissions.filter fun p => (roleId, p.id) ∈ t.rolePermissions ∧ p.active).map
    Permission.name).insertionSort (· ≤ ·)

/-- `list_tenant_roles`. -/
def listTenantRoles (tenantId applicationId : Id) : List TenantRoleView :=
  let defaults := (t.namedRoles (some applicationId) none).insertionSort fun r r' => r.name ≤ r'.name
  let overrides := ofList Role.name (t.namedRoles (some applicationId) (some tenantId))
  defaults.map fun d =>
    let defaultPermissions := t.rolePermissionNames d.id
    match lookup Role.name overrides d.name with
    | none => ⟨d.name, "application", defaultPermissions, defaultPermissions⟩
    | some override => ⟨d.name, "tenant", t.rolePermissionNames override.id, defaultPermissions⟩

end Tables

end AuthzKit
