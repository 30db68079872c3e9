import AuthzKit.Storage.Sqlalchemy

/-!
A tenant's overrides of default roles: `set_tenant_role_override` and
`delete_tenant_role_override`.
-/

namespace AuthzKit

open Keyed

/-- The loop body of `delete_tenant_role_override` for one link table: holders of
the override that lack the default role get it, then the override's links go. -/
def moveHolders (links : Multiset (Id × Id)) (overrideId : Id) (default : Option Role) :
    Multiset (Id × Id) :=
  let holders := ((links.filter fun p => p.2 = overrideId).map Prod.fst).toFinset
  let moved :=
    match default with
    | none => 0
    | some role => (holders.filter fun o => (o, role.id) ∉ links).val.map fun o => (o, role.id)
  (links + moved).filter fun p => p.2 ≠ overrideId

namespace Tables

/-- The override of a name: the tenant's role, or a new one that takes the
description of the default. The roles with it, and its id. -/
def overrideRole (t : Tables) (uuid4 : UuidSource) (tenantId applicationId : Id) (name : String) :
    List Role × Id :=
  match t.roleByName (some applicationId) (some tenantId) name with
  | some role => (t.roles, role.id)
  | none =>
      let default := t.roleByName (some applicationId) none name
      let role : Role :=
        { id := uuid4 .row, tenantId := some tenantId, applicationId := some applicationId,
          name, scope := .tenant, description := default.bind Role.description,
          isSystem := false, agentId := none }
      (t.roles ++ [role], role.id)

/-- `set_tenant_role_override`. -/
def setTenantRoleOverride (t : Tables) (uuid4 : UuidSource) (tenantId applicationId : Id)
    (name : String) (permissions : Finset String) : Except StoreError (Tables × Unit) :=
  let rows := t.activePermissions (some applicationId) permissions
  match checkNames "permission" permissions (rows.map Permission.name).toFinset with
  | .error e => .error e
  | .ok () =>
      let (roles, roleId) := t.overrideRole uuid4 tenantId applicationId name
      .ok ({ t with
        roles
        rolePermissions := Links.replace t.rolePermissions roleId (permissionIds rows)
          (Links.others t.rolePermissions roleId) }, ())

/-- `delete_tenant_role_override`. -/
def deleteTenantRoleOverride (t : Tables) (tenantId applicationId : Id) (name : String) :
    Except StoreError (Tables × Unit) :=
  match t.roleByName (some applicationId) (some tenantId) name with
  | none => .ok (t, ())
  | some override =>
      let default := t.roleByName (some applicationId) none name
      .ok ({ t with
        membershipRoles := moveHolders t.membershipRoles override.id default
        agentRoles := moveHolders t.agentRoles override.id default
        rolePermissions := t.rolePermissions.filter fun p => p.1 ≠ override.id
        roles := t.roles.filter fun r => r.id ≠ override.id }, ())

end Tables

end AuthzKit
