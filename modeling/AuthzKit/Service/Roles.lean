import AuthzKit.Service.AssignmentRoutes

/-!
The role routes of `authz_service/api/roles.py` besides the assignment of permissions: `GET` and
`POST /v1/applications/{id}/roles`.

The database lists the rows of a query in some order; `Listing` is what it promises.

* `listRoles`: every role of the application, whoever it belongs to.
* `createRole`: a named role; `createRole_ok` says when a request for an application-wide one
  goes through, and what it leaves.
-/

namespace AuthzKit

open Keyed Links

/-- `RoleScope(value)`. -/
def RoleScope.ofValue : String → Option RoleScope
  | "platform" => some .platform
  | "application" => some .application
  | "tenant" => some .tenant
  | "agent" => some .agent
  | _ => none

/-- `RoleIn`. -/
structure Service.RoleIn where
  name : String
  scope : String
  description : Option String
  tenantId : Option Id
deriving DecidableEq, Repr

/-- `RoleOut`. -/
structure RoleOut where
  id : Id
  name : String
  scope : RoleScope
  applicationId : Option Id
  tenantId : Option Id
  description : Option String
  isSystem : Bool
deriving DecidableEq, Repr

/-- A role as the service shows it. -/
def Role.out (r : Role) : RoleOut :=
  ⟨r.id, r.name, r.scope, r.applicationId, r.tenantId, r.description, r.isSystem⟩

/-- The order in which the database lists the rows of a query. -/
structure Listing where
  order : List Role → List Role
  perm : ∀ rows, (order rows).Perm rows

/-- `list_roles_for_application`, in one order. -/
def Tables.listRolesForApplication (t : Tables) (listing : Listing) (applicationId : Id) :
    List Role :=
  listing.order (t.roles.filter fun r => r.applicationId = some applicationId)

/-- `list_roles`. -/
def listRoles (principal : Principal) (t : Tables) (listing : Listing) (applicationId : String) :
    Except HttpException (List RoleOut) := do
  requireAdmin principal
  let app ← requireApplication t applicationId
  pure ((t.listRolesForApplication listing app.id).map Role.out)

/-- `create_role`. -/
def createRole (oauthIssuer : String) (principal : Principal) (s : SqlAlchemyStore)
    (uuid4 : UuidSource) (applicationId : String) (body : Service.RoleIn) :
    SqlAlchemyStore × Except AssignmentError RoleOut :=
  let guarded : Except HttpException (Application × RoleScope) := do
    requireAdmin principal
    let app ← ManagementGuard.application (callerLabel oauthIssuer principal) s.tables applicationId
    match RoleScope.ofValue body.scope with
    | none => .error ⟨400, [("reason", "invalid_scope")]⟩
    | some scope => .ok (app, scope)
  match guarded with
  | .error e => (s, .error (.http e))
  | .ok (app, scope) =>
      match s.transaction fun t =>
          t.createRole uuid4 body.name scope (some app.id) body.tenantId body.description with
      | .error e => (s, .error (.ofStore e))
      | .ok (s', row) => (s', .ok row.out)

lemma mem_listRolesForApplication {t : Tables} {listing : Listing} {applicationId : Id} {r : Role} :
    r ∈ t.listRolesForApplication listing applicationId ↔
      r ∈ t.roles ∧ r.applicationId = some applicationId := by
  rw [Tables.listRolesForApplication, (listing.perm _).mem_iff, List.mem_filter, decide_eq_true_eq]

/-! ### Callers who may write an application -/

/-- The caller may write the application of a reference. -/
structure MayWrite (oauthIssuer : String) (principal : Principal) (t : Tables) (ref : String)
    (app : Application) : Prop where
  admin : scopeAdmin ∈ principal.scopes
  found : t.findApplication ref = some app
  manager : app.managedBy = none ∨ app.managedBy = some (callerLabel oauthIssuer principal)

namespace MayWrite

variable {oauthIssuer : String} {principal : Principal} {s : SqlAlchemyStore} {ref : String}
  {app : Application} {uuid4 : UuidSource}

lemma requireAdmin_eq (h : MayWrite oauthIssuer principal s.tables ref app) :
    requireAdmin principal = .ok () := if_pos h.admin

lemma check_eq (h : MayWrite oauthIssuer principal s.tables ref app) :
    ManagementGuard.check (callerLabel oauthIssuer principal) app = .ok app :=
  ManagementGuard.check_eq_ok_iff.mpr ⟨rfl, h.manager⟩

lemma app_mem (h : MayWrite oauthIssuer principal s.tables ref app) :
    app ∈ s.tables.applications := (Tables.of_byIdOrSlug h.found).1

/-- The list that such a caller gets. -/
lemma listRoles_eq (h : MayWrite oauthIssuer principal s.tables ref app) (listing : Listing) :
    listRoles principal s.tables listing ref =
      .ok ((s.tables.listRolesForApplication listing app.id).map Role.out) := by
  rw [listRoles, h.requireAdmin_eq, requireApplication, h.found]
  rfl

/-- An application-wide role is created for such a caller. -/
lemma createRole_ok (h : MayWrite oauthIssuer principal s.tables ref app)
    (hf : Fresh uuid4 s.tables (Draw.Within 0)) (body : Service.RoleIn) {scope : RoleScope}
    (hscope : RoleScope.ofValue body.scope = some scope) (htenant : body.tenantId = none) :
    ∃ s' role, createRole oauthIssuer principal s uuid4 ref body = (s', .ok role.out) ∧
      role.id = uuid4 .row ∧ role.name = body.name ∧ role.applicationId = some app.id ∧
      role.tenantId = none ∧ role.agentId = none ∧ s'.engine = s.engine ∧
      s'.tables = { s.tables with roles := s.tables.roles ++ [role] } := by
  have hunused := hf.unused .row (Nat.zero_le 0)
  obtain ⟨role, hrole⟩ : ∃ role : Role, role =
      { id := uuid4 .row, tenantId := body.tenantId, applicationId := some app.id,
        name := body.name, scope, description := body.description, isSystem := false,
        agentId := none } := ⟨_, rfl⟩
  have hc : ({ s.tables with roles := s.tables.roles ++ [role] } : Tables).Constraints := by
    refine { s.constraints with roleId := ?_, roleKey := ?_ }
    · rw [List.map_append]
      refine List.Nodup.append s.constraints.roleId (List.nodup_singleton _) ?_
      rintro i hi hi'
      obtain ⟨r, hr, rfl⟩ := List.mem_map.mp hi
      rw [hrole] at hi'
      exact (hunused.roles r hr).1 (by simpa using hi')
    · refine s.constraints.roleKey.append_one fun r _ k _ hk => ?_
      rw [hrole, Role.uniqueKey, htenant] at hk
      cases hk
  have hfk : s.engine.foreignKeys = true →
      ({ s.tables with roles := s.tables.roles ++ [role] } : Tables).ForeignKeys := fun hengine =>
    { s.foreignKeys hengine with
      roles := fun r hr => by
        rcases List.mem_append.mp hr with hr | hr
        · exact (s.foreignKeys hengine).roles r hr
        · obtain rfl := List.mem_singleton.mp hr
          rw [hrole, htenant]
          exact ⟨trivial, List.mem_map_of_mem h.app_mem, trivial⟩
      membershipRoles := fun p hp => by
        have hold := (s.foreignKeys hengine).membershipRoles p hp
        exact ⟨hold.1, by simp [hold.2]⟩
      rolePermissions := fun p hp => by
        have hold := (s.foreignKeys hengine).rolePermissions p hp
        exact ⟨by simp [hold.1], hold.2⟩
      agentRoles := fun p hp => by
        have hold := (s.foreignKeys hengine).agentRoles p hp
        exact ⟨hold.1, by simp [hold.2]⟩ }
  have htransaction : s.transaction (fun t => t.createRole uuid4 body.name scope (some app.id)
      body.tenantId body.description) = .ok (⟨s.engine, _, hc, hfk⟩, role) :=
    SqlAlchemyStore.transaction_eq_ok_iff.mpr ⟨rfl, by rw [Tables.createRole, ← hrole]⟩
  refine ⟨⟨s.engine, _, hc, hfk⟩, role, ?_, ?_, ?_, ?_, ?_, ?_, rfl, rfl⟩
  · rw [createRole, h.requireAdmin_eq, ManagementGuard.application, requireApplication, h.found]
    simp only [h.check_eq, hscope, bind, Except.bind, htransaction]
  all_goals rw [hrole]
  exact htenant

variable (uuid4) in
/-- The permissions of a role of the application are replaced for such a caller, when every name
is known. -/
lemma setRolePermissions_ok (h : MayWrite oauthIssuer principal s.tables ref app) {role : Role}
    (hrole : role ∈ s.tables.roles) (happ : role.applicationId = some app.id)
    {permissions : List String}
    (hknown : ∀ n ∈ permissions, s.tables.activePermission (some app.id) n ≠ none) :
    ∃ s' out, (AssignmentRequest.setRolePermissions role.id permissions).handle oauthIssuer
        principal s uuid4 = (s', .ok out) ∧ s'.engine = s.engine ∧
      s'.tables = { s.tables with
        rolePermissions := replace s.tables.rolePermissions role.id
          (Tables.permissionIds (s.tables.activePermissions (some app.id) permissions.toFinset))
          (others s.tables.rolePermissions role.id) } := by
  have hlookup : lookup Role.id s.tables.roles role.id = some role :=
    (lookup_eq_some_iff s.constraints.roleId).mpr ⟨hrole, rfl⟩
  have hguard : ManagementGuard.applicationId (callerLabel oauthIssuer principal) s.tables
      role.applicationId = .ok () := by
    rw [ManagementGuard.applicationId, happ]
    by_cases hempty : app.id = ""
    · simp [Option.filter, hempty]
    · have hfound : lookup Application.id s.tables.applications app.id = some app :=
        (lookup_eq_some_iff s.constraints.applicationId).mpr ⟨h.app_mem, rfl⟩
      simp [Option.filter, hempty, hfound, h.check_eq, Except.map]
  have hnames : ∀ n ∈ permissions.toFinset,
      s.tables.activePermission role.applicationId n ≠ none := fun n hn =>
    happ ▸ hknown n (List.mem_toFinset.mp hn)
  obtain ⟨s', hperform, hengine, htables⟩ :=
    Assignment.setRolePermissions_known uuid4 hlookup hnames
  have hassign : (AssignmentRequest.setRolePermissions role.id permissions).assignment oauthIssuer
      principal s.tables = .ok (some (.setRolePermissions role.id permissions.toFinset)) := by
    rw [AssignmentRequest.assignment, h.requireAdmin_eq]
    simp only [managedRole, managedRow, hlookup, hguard, bind, Except.bind, Except.map, pure,
      Except.pure]
  obtain ⟨out, hout⟩ : ∃ out, (AssignmentRequest.setRolePermissions role.id permissions).out
      s'.tables uuid4 = .ok out := ⟨_, rfl⟩
  refine ⟨s', out, ?_, hengine, happ ▸ htables⟩
  rw [AssignmentRequest.handle, hassign]
  simp only [AssignmentRequest.writeStatus, hperform, hout]

end MayWrite

end AuthzKit
