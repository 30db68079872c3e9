import AuthzKit.Storage.Sqlalchemy

/-!
`SqlAlchemyStore.apply_application_catalog`: an application's complete
vocabulary, its permissions and default roles, written in one transaction.

The permissions are diffed against the rows read at the start; `listed` is a
dictionary, so the iterations of that loop are about different names and
`permissionRow` gives each its row. The loop over the default roles does depend
on its earlier iterations, a repeated name finds the role that was just created,
and is a fold (`catalogRole`).
-/

namespace AuthzKit

open Keyed

/-- The problems of a catalog, in the order they are reported. -/
def catalogIssues (permissions : List CatalogPermission) (defaultRoles : List CatalogRole) :
    List ProvisioningIssue :=
  (permissions.zipIdx.filterMap fun (p, i) =>
    match Permission.fromName p.name with
    | .ok _ => none
    | .error message =>
        some ⟨"permissions[" ++ toString i ++ "].name", "invalid_permission_name", message⟩) ++
  defaultRoles.zipIdx.flatMap fun (r, i) =>
    r.permissions.zipIdx.filterMap fun (perm, j) =>
      if perm ∈ permissions.map CatalogPermission.name then none
      else
        some ⟨"default_roles[" ++ toString i ++ "].permissions[" ++ toString j ++ "]",
          "unknown_permission", "permission " ++ pyRepr perm ++ " is not in the catalog"⟩

/-- The row the permission loop leaves for one listed name, and whether it is
new. -/
def permissionRow (uuid4 : UuidSource) (applicationId : Id) (existing : List Permission)
    (spec : CatalogPermission) (i : ℕ) : Permission × Bool :=
  match lookup Permission.name existing spec.name with
  | some row =>
      ({ row with
          description := spec.description
          critical := spec.critical
          deprecated := false }, false)
  | none =>
      let parsed := (Permission.fromName spec.name).toOption.getD ⟨"", ""⟩
      ({ id := uuid4 (.permission i), applicationId := some applicationId, name := spec.name,
          resource := parsed.resource, action := parsed.action, description := spec.description,
          deprecated := false, critical := spec.critical }, true)

/-- What the loop over the default roles keeps: the roles it found, those it has
added, and the counts. -/
structure CatalogRoles where
  found : List Role
  added : List Role
  created : ℕ
  updated : ℕ

/-- One iteration of the loop over the default roles. -/
def catalogRole (uuid4 : UuidSource) (applicationId : Id) (acc : CatalogRoles)
    (spec : CatalogRole × ℕ) : CatalogRoles :=
  match lookup Role.name (acc.found ++ acc.added) spec.1.name with
  | none =>
      let role : Role :=
        { id := uuid4 (.role spec.2), tenantId := none, applicationId := some applicationId,
          name := spec.1.name, scope := .application, description := spec.1.description,
          isSystem := false, agentId := none }
      { acc with added := acc.added ++ [role], created := acc.created + 1 }
  | some role =>
      let role := { role with description := spec.1.description }
      { acc with
        found := update Role.name acc.found role
        added := update Role.name acc.added role
        updated := acc.updated + 1 }

namespace Tables

/-- The application row of a catalog: found by slug and renamed, or new. -/
def catalogApplication (t : Tables) (uuid4 : UuidSource) (slug name : String)
    (managedBy : Option String) : List Application × Id :=
  match lookup Application.slug t.applications slug with
  | none =>
      let app : Application :=
        { id := uuid4 .application, slug, name, status := statusActive, managedBy }
      (t.applications ++ [app], app.id)
  | some app => (update Application.id t.applications { app with name }, app.id)

/-- `existing`: the permissions of the application, keyed by name. -/
def catalogExisting (t : Tables) (appId : Id) : List Permission :=
  ofList Permission.name (t.permissions.filter fun p => p.applicationId = some appId)

/-- The rows the permission loop leaves for the listed names. -/
def catalogRows (t : Tables) (uuid4 : UuidSource) (appId : Id)
    (permissions : List CatalogPermission) : List (Permission × Bool) :=
  (ofList CatalogPermission.name permissions).zipIdx.map fun (spec, i) =>
    permissionRow uuid4 appId (t.catalogExisting appId) spec i

/-- The listed permissions that were there. -/
def catalogWritten (t : Tables) (uuid4 : UuidSource) (appId : Id)
    (permissions : List CatalogPermission) : List Permission :=
  ((t.catalogRows uuid4 appId permissions).filter fun p => !p.2).map Prod.fst

/-- The listed permissions that are new. -/
def catalogNew (t : Tables) (uuid4 : UuidSource) (appId : Id)
    (permissions : List CatalogPermission) : List Permission :=
  ((t.catalogRows uuid4 appId permissions).filter fun p => p.2).map Prod.fst

/-- The permissions that are no longer listed. -/
def catalogDeprecated (t : Tables) (appId : Id) (permissions : List CatalogPermission) :
    List Permission :=
  ((t.catalogExisting appId).filter fun p =>
      p.name ∉ permissions.map CatalogPermission.name ∧ !p.deprecated).map
    fun p => { p with deprecated := true }

/-- `roles`: the default roles of the application, keyed by name. -/
def catalogFound (t : Tables) (appId : Id) : List Role :=
  ofList Role.name (t.namedRoles (some appId) none)

/-- What the loop over the default roles leaves. -/
def catalogRoles (t : Tables) (uuid4 : UuidSource) (appId : Id)
    (defaultRoles : List CatalogRole) : CatalogRoles :=
  defaultRoles.zipIdx.foldl (catalogRole uuid4 appId) ⟨t.catalogFound appId, [], 0, 0⟩

/-- The links the last loop writes: each default role gets its listed permissions;
`current` was read before the roles were created. -/
def catalogChanges (t : Tables) (uuid4 : UuidSource) (appId : Id)
    (permissions : List CatalogPermission) (defaultRoles : List CatalogRole) :
    List (Links.Change Id Id) :=
  let roles := t.catalogRoles uuid4 appId defaultRoles
  let rows := t.catalogExisting appId ++ t.catalogNew uuid4 appId permissions
  defaultRoles.filterMap fun spec =>
    (lookup Role.name (roles.found ++ roles.added) spec.name).map fun role =>
      { owner := role.id
        ids := permissionIds (spec.permissions.filterMap (lookup Permission.name rows))
        current :=
          if role.id ∈ (t.catalogFound appId).map Role.id then
            Links.others t.rolePermissions role.id
          else ∅ }

/-- `apply_application_catalog`. -/
def applyApplicationCatalog (t : Tables) (uuid4 : UuidSource) (slug name : String)
    (permissions : List CatalogPermission) (defaultRoles : List CatalogRole)
    (managedBy : Option String) : Except StoreError (Tables × CatalogResult) :=
  let errors := catalogIssues permissions defaultRoles
  if errors ≠ [] then .error (.provisioningError errors)
  else
    let (applications, appId) := t.catalogApplication uuid4 slug name managedBy
    let new := t.catalogNew uuid4 appId permissions
    let deprecated := t.catalogDeprecated appId permissions
    let roles := t.catalogRoles uuid4 appId defaultRoles
    .ok ({ t with
        applications
        permissions := updateAll Permission.id t.permissions
          (t.catalogWritten uuid4 appId permissions ++ deprecated) ++ new
        roles := updateAll Role.id t.roles roles.found ++ roles.added
        rolePermissions := Links.replaceAll t.rolePermissions
          (t.catalogChanges uuid4 appId permissions defaultRoles) },
      { applicationId := appId, permissionsCreated := new.length,
        permissionsDeprecated := deprecated.length, rolesCreated := roles.created,
        rolesUpdated := roles.updated })

end Tables

end AuthzKit
