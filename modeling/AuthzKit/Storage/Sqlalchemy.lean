import AuthzKit.Provisioning
import AuthzKit.Rbac.Models

/-!
`SqlAlchemyStore` of `authzkit/storage/sqlalchemy.py`: its state, its
transactions and the operations that write one row or one set of links. The
declarative operations follow in `Catalog`, `TenantState` and `RoleOverrides`.

A store is a set of tables that satisfies the constraints of the database. An
operation computes new tables from the old ones inside a session; `commit` keeps
them when the constraints hold and raises `integrityError` otherwise. No modelled
transaction removes a row that it has inserted, so checking the constraints once
at the end refuses the same transactions as checking them at each flush.

* `transaction_eq_ok_iff`: what a returning transaction did.
* `SqlAlchemyStore.after`: the state after a call; a call that raises leaves the
  store as it was.
-/

namespace AuthzKit

/-- The database engine; `foreignKeys` says whether it enforces references
(SQLite, as `create_engine_from_url` opens it, does not). -/
structure Engine where
  foreignKeys : Bool
deriving DecidableEq, Repr

/-- A committed state of the database. -/
structure SqlAlchemyStore where
  engine : Engine
  tables : Tables
  constraints : tables.Constraints
  foreignKeys : engine.foreignKeys = true → tables.ForeignKeys

namespace SqlAlchemyStore

@[ext]
lemma ext' {s s' : SqlAlchemyStore} (he : s.engine = s'.engine) (ht : s.tables = s'.tables) :
    s = s' := by
  obtain ⟨e, t, _, _⟩ := s
  obtain ⟨e', t', _, _⟩ := s'
  simp only at he ht
  subst he
  subst ht
  rfl

/-- The store after `init_schema`. -/
def empty (engine : Engine) : SqlAlchemyStore where
  engine := engine
  tables := Tables.empty
  constraints := by decide
  foreignKeys := fun _ => by decide

/-- `s.commit()`: the new tables, if the database accepts them. -/
def commit (s : SqlAlchemyStore) (t : Tables) : Except StoreError SqlAlchemyStore :=
  if h : t.Constraints ∧ (s.engine.foreignKeys = true → t.ForeignKeys) then
    .ok ⟨s.engine, t, h.1, h.2⟩
  else .error .integrityError

/-- `with self.session() as s: ...; s.commit()`. -/
def transaction {α : Type} (s : SqlAlchemyStore)
    (body : Tables → Except StoreError (Tables × α)) : Except StoreError (SqlAlchemyStore × α) :=
  match body s.tables with
  | .error e => .error e
  | .ok (t, a) =>
      match s.commit t with
      | .error e => .error e
      | .ok s' => .ok (s', a)

/-- The store after a call: a session that raises is rolled back. -/
def after {α : Type} (s : SqlAlchemyStore) : Except StoreError (SqlAlchemyStore × α) →
    SqlAlchemyStore
  | .ok (s', _) => s'
  | .error _ => s

lemma commit_eq_ok_iff {s s' : SqlAlchemyStore} {t : Tables} :
    s.commit t = .ok s' ↔ s'.engine = s.engine ∧ s'.tables = t := by
  rw [commit]
  split
  · rename_i h
    rw [Except.ok.injEq]
    exact ⟨fun he => he ▸ ⟨rfl, rfl⟩, fun he => ext' he.1.symm he.2.symm⟩
  · rename_i h
    refine ⟨fun he => (by cases he), ?_⟩
    rintro ⟨he, rfl⟩
    exact absurd ⟨s'.constraints, he ▸ s'.foreignKeys⟩ h

/-- A commit succeeds exactly on tables that satisfy the constraints. -/
lemma commit_isOk_iff {s : SqlAlchemyStore} {t : Tables} :
    (∃ s', s.commit t = .ok s') ↔
      t.Constraints ∧ (s.engine.foreignKeys = true → t.ForeignKeys) := by
  rw [commit]
  split
  · rename_i h
    exact ⟨fun _ => h, fun _ => ⟨_, rfl⟩⟩
  · rename_i h
    exact ⟨fun ⟨_, he⟩ => (by cases he), fun h' => absurd h' h⟩

/-- **What a returning transaction did**: the body returned, and its tables are
the new state. -/
theorem transaction_eq_ok_iff {α : Type} {s s' : SqlAlchemyStore} {a : α}
    {body : Tables → Except StoreError (Tables × α)} :
    s.transaction body = .ok (s', a) ↔
      s'.engine = s.engine ∧ body s.tables = .ok (s'.tables, a) := by
  rw [transaction]
  cases hb : body s.tables with
  | error e => simp
  | ok r =>
      obtain ⟨t, b⟩ := r
      simp only
      cases hc : s.commit t with
      | error e =>
          refine ⟨fun h => (by cases h), ?_⟩
          rintro ⟨he, h⟩
          obtain ⟨rfl, rfl⟩ := Prod.mk.inj (Except.ok.inj h)
          rw [commit_eq_ok_iff.mpr ⟨he, rfl⟩] at hc
          cases hc
      | ok s₁ =>
          obtain ⟨he, rfl⟩ := commit_eq_ok_iff.mp hc
          simp only [Except.ok.injEq, Prod.mk.injEq]
          constructor
          · rintro ⟨rfl, rfl⟩
            exact ⟨he, rfl, rfl⟩
          · rintro ⟨he', ht, rfl⟩
            exact ⟨ext' (he.trans he'.symm) ht, rfl⟩

/-- A transaction returns exactly when its body does and the database accepts the
result. -/
theorem transaction_isOk_iff {α : Type} {s : SqlAlchemyStore}
    {body : Tables → Except StoreError (Tables × α)} :
    (∃ r, s.transaction body = .ok r) ↔
      ∃ t a, body s.tables = .ok (t, a) ∧ t.Constraints ∧
        (s.engine.foreignKeys = true → t.ForeignKeys) := by
  constructor
  · rintro ⟨⟨s', a⟩, h⟩
    obtain ⟨he, hb⟩ := transaction_eq_ok_iff.mp h
    exact ⟨s'.tables, a, hb, s'.constraints, he ▸ s'.foreignKeys⟩
  · rintro ⟨t, a, hb, hc⟩
    obtain ⟨s', hs'⟩ := commit_isOk_iff.mpr hc
    obtain ⟨he, rfl⟩ := commit_eq_ok_iff.mp hs'
    exact ⟨(s', a), transaction_eq_ok_iff.mpr ⟨he, hb⟩⟩

end SqlAlchemyStore

namespace Tables

open Keyed

/-! ### Tenants, applications, users -/

/-- `create_tenant`. -/
def createTenant (t : Tables) (uuid4 : UuidSource) (slug name status : String) :
    Except StoreError (Tables × Tenant) :=
  let row : Tenant := { id := uuid4 .row, slug, name, status }
  .ok ({ t with tenants := t.tenants ++ [row] }, row)

/-- `create_application`. -/
def createApplication (t : Tables) (uuid4 : UuidSource) (slug name status : String)
    (managedBy : Option String) : Except StoreError (Tables × Application) :=
  let row : Application := { id := uuid4 .row, slug, name, status, managedBy }
  .ok ({ t with applications := t.applications ++ [row] }, row)

/-- `set_application_managed_by`. -/
def setApplicationManagedBy (t : Tables) (applicationId : Id) (managedBy : Option String) :
    Except StoreError (Tables × Unit) :=
  match lookup Application.id t.applications applicationId with
  | none => .ok (t, ())
  | some row =>
      .ok ({ t with
        applications := update Application.id t.applications { row with managedBy } }, ())

/-- `claim_application_management`: an update of the rows with this id and no
manager, then a read. -/
def claimApplicationManagement (t : Tables) (applicationId : Id) (managedBy : String) :
    Except StoreError (Tables × Option String) :=
  let applications := t.applications.map fun r =>
    if r.id = applicationId ∧ r.managedBy = none then { r with managedBy := some managedBy } else r
  .ok ({ t with applications },
    (lookup Application.id applications applicationId).bind Application.managedBy)

/-- The new user and identity of `_upsert_identity` for a reference nobody has. -/
def newIdentity (userId identityId : Id) (ref : UserRef)
    (email externalTenantId displayName : Option String) : User × ExternalIdentity :=
  ({ id := userId, displayName, email, status := statusActive },
    { id := identityId, userId, provider := ref.provider, issuer := ref.issuer,
      subject := ref.subject, externalTenantId, email })

/-- `upsert_user_from_identity`. -/
def upsertUserFromIdentity (t : Tables) (uuid4 : UuidSource) (ref : UserRef)
    (email externalTenantId displayName : Option String) :
    Except StoreError (Tables × User × ExternalIdentity) :=
  match lookup ExternalIdentity.ref t.externalIdentities ref with
  | some existing =>
      match lookup User.id t.users existing.userId with
      | some user => .ok (t, user, existing)
      | none => .error .noResultFound
  | none =>
      let (user, ident) :=
        newIdentity (uuid4 (.user 0)) (uuid4 (.identity 0)) ref email externalTenantId displayName
      .ok ({ t with
        users := t.users ++ [user]
        externalIdentities := t.externalIdentities ++ [ident] }, user, ident)

/-! ### Roles and permissions by name -/

/-- `_assignable_roles`: role names resolved tenant-first, keyed by name. Internal
per-agent roles are not assignable by name. -/
def assignableRoles (t : Tables) (tenantId applicationId : Option Id) (names : Finset String) :
    List Role :=
  let rows := t.roles.filter fun r =>
    r.applicationId = applicationId ∧ r.name ∈ names ∧ r.agentId = none ∧
      (r.tenantId = tenantId ∨ r.tenantId = none)
  rows.foldl (fun found r =>
    if r.tenantId ≠ none ∨ lookup Role.name found r.name = none then insertKey Role.name found r
    else found) []

/-- `_named_roles`: named roles of an application, application-wide
(`tenantId = none`) or bound to one tenant. -/
def namedRoles (t : Tables) (applicationId tenantId : Option Id) : List Role :=
  t.roles.filter fun r =>
    r.applicationId = applicationId ∧ r.tenantId = tenantId ∧ r.agentId = none

/-- `_role_by_name`. -/
def roleByName (t : Tables) (applicationId tenantId : Option Id) (name : String) : Option Role :=
  lookup Role.name (t.namedRoles applicationId tenantId) name

/-- `_active_permissions`: assignable permissions of an application, keyed by
name. -/
def activePermissions (t : Tables) (applicationId : Option Id) (names : Finset String) :
    List Permission :=
  ofList Permission.name <| t.permissions.filter fun p =>
    p.applicationId = applicationId ∧ p.active ∧ p.name ∈ names

/-- `{r.id for r in rows}`. -/
def roleIds (rows : List Role) : Finset Id := (rows.map Role.id).toFinset

/-- `{p.id for p in rows}`. -/
def permissionIds (rows : List Permission) : Finset Id := (rows.map Permission.id).toFinset

/-! ### Memberships -/

/-- `membership_role_names`. -/
def membershipRoleNames (t : Tables) (membershipId : Id) : Finset String :=
  ((t.roles.filter fun r => (membershipId, r.id) ∈ t.membershipRoles).map Role.name).toFinset

/-- `create_membership`; names that do not resolve are dropped. -/
def createMembership (t : Tables) (uuid4 : UuidSource) (tenantId : Id) (applicationId : Option Id)
    (userId : Id) (status : String) (roles : Finset String) :
    Except StoreError (Tables × Membership × Finset String) :=
  let row : Membership := { id := uuid4 .row, tenantId, applicationId, userId, status }
  let t := { t with memberships := t.memberships ++ [row] }
  let t :=
    if roles.Nonempty then
      { t with
        membershipRoles := Links.replace t.membershipRoles row.id
          (roleIds (t.assignableRoles (some tenantId) applicationId roles)) ∅ }
    else t
  .ok (t, row, t.membershipRoleNames row.id)

/-- `set_membership_roles`. -/
def setMembershipRoles (t : Tables) (membershipId : Id) (roleNames : Finset String) :
    Except StoreError (Tables × Unit) :=
  match lookup Membership.id t.memberships membershipId with
  | none => .ok (t, ())
  | some membership =>
      let rows := t.assignableRoles (some membership.tenantId) membership.applicationId roleNames
      .ok ({ t with
        membershipRoles := Links.replace t.membershipRoles membershipId (roleIds rows)
          (Links.others t.membershipRoles membershipId) }, ())

/-! ### Roles and permissions -/

/-- `create_role`. -/
def createRole (t : Tables) (uuid4 : UuidSource) (name : String) (scope : RoleScope)
    (applicationId tenantId : Option Id) (description : Option String) :
    Except StoreError (Tables × Role) :=
  let row : Role :=
    { id := uuid4 .row, tenantId, applicationId, name, scope, description, isSystem := false,
      agentId := none }
  .ok ({ t with roles := t.roles ++ [row] }, row)

/-- `create_permission`. -/
def createPermission (t : Tables) (uuid4 : UuidSource) (name : String) (applicationId : Option Id)
    (description : Option String) : Except StoreError (Tables × Permission) :=
  match Permission.fromName name with
  | .error message => .error (.valueError message)
  | .ok parsed =>
      let row : Permission :=
        { id := uuid4 .row, applicationId, name, resource := parsed.resource,
          action := parsed.action, description, deprecated := false, critical := false }
      .ok ({ t with permissions := t.permissions ++ [row] }, row)

/-- `set_role_permissions`. -/
def setRolePermissions (t : Tables) (roleId : Id) (permissionNames : Finset String) :
    Except StoreError (Tables × Unit) :=
  match lookup Role.id t.roles roleId with
  | none => .ok (t, ())
  | some role =>
      let rows := t.activePermissions role.applicationId permissionNames
      match checkNames "permission" permissionNames (rows.map Permission.name).toFinset with
      | .error e => .error e
      | .ok () =>
          .ok ({ t with
            rolePermissions := Links.replace t.rolePermissions roleId (permissionIds rows)
              (Links.others t.rolePermissions roleId) }, ())

/-- `set_tenant_permission_mask`. -/
def setTenantPermissionMask (t : Tables) (tenantId applicationId : Id)
    (permissions : Finset String) : Except StoreError (Tables × Unit) :=
  let kept := t.tenantPermissionMasks.filter fun m =>
    ¬(m.tenantId = tenantId ∧ m.applicationId = applicationId)
  .ok ({ t with
    tenantPermissionMasks := kept ∪ permissions.image fun n => ⟨tenantId, applicationId, n⟩ }, ())

/-! ### Agents -/

/-- `create_agent`. -/
def createAgent (t : Tables) (uuid4 : UuidSource) (tenantId applicationId : Id)
    (name role status : String) (createdByUserId : Option Id) (displayName : Option String) :
    Except StoreError (Tables × Agent) :=
  let row : Agent :=
    { id := uuid4 .row, tenantId, applicationId, name, displayName, status, roleLabel := role,
      createdByUserId }
  .ok ({ t with agents := t.agents ++ [row] }, row)

/-- `set_agent_roles`. -/
def setAgentRoles (t : Tables) (agentId : Id) (roleNames : Finset String) :
    Except StoreError (Tables × Unit) :=
  match lookup Agent.id t.agents agentId with
  | none => .ok (t, ())
  | some agent =>
      let rows := t.assignableRoles (some agent.tenantId) (some agent.applicationId) roleNames
      match checkNames "role" roleNames (rows.map Role.name).toFinset with
      | .error e => .error e
      | .ok () =>
          .ok ({ t with
            agentRoles := Links.replace t.agentRoles agentId (roleIds rows)
              (Links.others t.agentRoles agentId) }, ())

end Tables

end AuthzKit
