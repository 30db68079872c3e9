import AuthzKit.Rbac.Requests
import AuthzKit.Storage.Sqlalchemy

/-!
The reads of `SqlAlchemyStore` a decision is made from: the activity of tenants,
applications, memberships and agents, the permission sets of users, agents and
tenants, and the resolution of references.

SQL joins return a row once for each match; where the source collects a set from
them the model asks for a match instead.
-/

namespace AuthzKit

open Keyed

namespace Tables

/-! ### Activity -/

/-- `is_tenant_active`. -/
def isTenantActive (t : Tables) (tenantId : Id) : Bool :=
  match lookup Tenant.id t.tenants tenantId with
  | none => false
  | some row => row.status == statusActive

/-- `is_application_active`. -/
def isApplicationActive (t : Tables) (applicationId : Id) : Bool :=
  match lookup Application.id t.applications applicationId with
  | none => false
  | some row => row.status == statusActive

/-- The first membership of a user in a tenant that has the given application. -/
def membershipOf (t : Tables) (tenantId : Id) (applicationId : Option Id) (userId : Id) :
    Option Membership :=
  t.memberships.find? fun m =>
    m.tenantId = tenantId ∧ m.userId = userId ∧ m.applicationId = applicationId

/-- `is_user_membership_active`: the membership of the application, else the
tenant-wide one. -/
def isUserMembershipActive (t : Tables) (tenantId applicationId userId : Id) : Bool :=
  let row := (t.membershipOf tenantId (some applicationId) userId).or
    (t.membershipOf tenantId none userId)
  match row with
  | none => false
  | some m => m.status == statusActive

/-- `get_agent`. -/
def getAgent (t : Tables) (tenantId applicationId agentId : Id) : Option Agent :=
  match lookup Agent.id t.agents agentId with
  | none => none
  | some row => if row.tenantId ≠ tenantId ∨ row.applicationId ≠ applicationId then none else some row

/-- `is_agent_active`. -/
def isAgentActive (t : Tables) (tenantId applicationId agentId : Id) : Bool :=
  match t.getAgent tenantId applicationId agentId with
  | none => false
  | some agent => agent.status == statusActive

/-! ### Permission sets -/

/-- `_effective_role_ids`: the role ids that grant permissions for links in a
tenant. A tenant role named like a linked application-wide role overrides it;
links to another tenant's role grant nothing. -/
def effectiveRoleIds (t : Tables) (tenantId : Id) (linked : List Role) : Finset Id :=
  let own := linked.filter fun r => r.tenantId = none ∨ r.tenantId = some tenantId
  let names :=
    ((own.filter fun r => r.tenantId = none ∧ r.agentId = none).map Role.name).toFinset
  let overrides :=
    if names.Nonempty then
      ofList (fun o => (o.applicationId, o.name)) <| t.roles.filter fun o =>
        o.tenantId = some tenantId ∧ o.agentId = none ∧ o.name ∈ names
    else []
  (own.map fun r =>
    if r.tenantId = none ∧ r.agentId = none then
      ((lookup (fun o => (o.applicationId, o.name)) overrides (r.applicationId, r.name)).map
        Role.id).getD r.id
    else r.id).toFinset

/-- The roles linked to one of the owners `ids`. -/
def linkedRoles (t : Tables) (links : Multiset (Id × Id)) (ids : List Id) : List Role :=
  t.roles.filter fun r => ∃ i ∈ ids, (i, r.id) ∈ links

/-- The memberships that count for a user in a pair: active, and scoped to the
application or tenant-wide. -/
def eligibleMemberships (t : Tables) (tenantId applicationId userId : Id) : List Membership :=
  t.memberships.filter fun m =>
    m.tenantId = tenantId ∧ m.userId = userId ∧ m.status = statusActive ∧
      (m.applicationId = some applicationId ∨ m.applicationId = none)

/-- `resolve_user_permissions`. -/
def resolveUserPermissions (t : Tables) (tenantId applicationId userId : Id) : Finset String :=
  let ids := (t.eligibleMemberships tenantId applicationId userId).map Membership.id
  if ids = [] then ∅
  else
    let roleIds := t.effectiveRoleIds tenantId (t.linkedRoles t.membershipRoles ids)
    if roleIds = ∅ then ∅
    else
      ((t.permissions.filter fun p =>
        (∃ r ∈ roleIds, (r, p.id) ∈ t.rolePermissions) ∧ p.active ∧
          (p.applicationId = some applicationId ∨ p.applicationId = none)).map
        Permission.name).toFinset

/-- `resolve_agent_permissions`. -/
def resolveAgentPermissions (t : Tables) (tenantId applicationId agentId : Id) : Finset String :=
  match t.getAgent tenantId applicationId agentId with
  | none => ∅
  | some agent =>
      let roleIds := t.effectiveRoleIds tenantId (t.linkedRoles t.agentRoles [agent.id])
      if roleIds = ∅ then ∅
      else
        ((t.permissions.filter fun p =>
          (∃ r ∈ roleIds, (r, p.id) ∈ t.rolePermissions) ∧ p.active).map
          Permission.name).toFinset

/-- `resolve_tenant_permissions`. -/
def resolveTenantPermissions (t : Tables) (tenantId applicationId : Id) : Finset String :=
  (t.tenantPermissionMasks.filter fun m =>
    m.tenantId = tenantId ∧ m.applicationId = applicationId).image
    TenantPermissionMask.permissionName

/-! ### References -/

/-- `_by_id_or_slug`: the row whose id or slug is `ref`; the id wins if both match
different rows, and is only compared when `ref` parses as a UUID. -/
def byIdOrSlug {α : Type} (id slug : α → String) (rows : List α) (ref : String) : Option α :=
  let found := rows.filter fun r => (Uuid.parsesAsUuid ref ∧ id r = ref) ∨ slug r = ref
  (lookup id found ref).or found.head?

/-- `find_tenant`. -/
def findTenant (t : Tables) (ref : String) : Option Tenant :=
  byIdOrSlug Tenant.id Tenant.slug t.tenants ref

/-- `find_application`. -/
def findApplication (t : Tables) (ref : String) : Option Application :=
  byIdOrSlug Application.id Application.slug t.applications ref

/-- The agent of a resolved tenant and application that has the given name. -/
def agentByName (t : Tables) (tenant : Option Tenant) (application : Option Application)
    (name : String) : Option Agent :=
  match tenant, application with
  | some tenant, some application =>
      t.agents.find? fun a =>
        a.tenantId = tenant.id ∧ a.applicationId = application.id ∧ a.name = name
  | _, _ => none

/-- `resolve_references`: `userRef` and `agentName` replace `userId` and `agentId`
when given. -/
def resolveReferences (t : Tables) (tenant application : String) (userId : Option Id)
    (userRef : Option UserRef) (agentId : Option Id) (agentName : Option String) :
    ResolvedReferences :=
  let found := t.findTenant tenant
  let app := t.findApplication application
  let userId :=
    match userRef with
    | none => userId
    | some ref =>
        (lookup ExternalIdentity.ref t.externalIdentities ref).map ExternalIdentity.userId
  let agent := agentName.bind (t.agentByName found app)
  let agentId := if agentName.isSome then agent.map Agent.id else agentId
  { tenantId := (found.map Tenant.id).getD tenant
    applicationId := (app.map Application.id).getD application
    tenantStatus := found.map Tenant.status
    applicationStatus := app.map Application.status
    userId
    userMissing := userRef.isSome && userId.isNone
    agentId
    agentStatus := agent.map Agent.status
    agentMissing := agentName.isSome && agentId.isNone }

end Tables

end AuthzKit
