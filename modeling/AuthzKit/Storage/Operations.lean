import AuthzKit.Relational.Runs
import AuthzKit.Security.Delegations
import AuthzKit.Storage.Catalog
import AuthzKit.Storage.RoleOverrides
import AuthzKit.Storage.TenantState

/-!
The runs of a store: every operation that writes one of the modelled tables, as
one atomic transaction after the other.

* `Op`: the operations of `SqlAlchemyStore`, the tenant, application and membership
  updates of the service and the writes of `DelegationService`.
* `SqlAlchemyStore.perform`: one operation; one that raises changes nothing.
* `SqlAlchemyStore.Reachable`: the states of the runs from an empty database, with
  new row ids at every call.
-/

namespace AuthzKit

open Keyed

namespace Tables

/-! ### Updates by the service -/

/-- `update_tenant` of `authz_service/api/tenants.py`. -/
def updateTenant (t : Tables) (tenantId : Id) (name status : Option String) :
    Except StoreError (Tables × Unit) :=
  match lookup Tenant.id t.tenants tenantId with
  | none => .ok (t, ())
  | some row =>
      let row := { row with name := name.getD row.name, status := status.getD row.status }
      .ok ({ t with tenants := update Tenant.id t.tenants row }, ())

/-- `update_application` of `authz_service/api/applications.py`. -/
def updateApplication (t : Tables) (applicationId : Id) (name status : Option String) :
    Except StoreError (Tables × Unit) :=
  match lookup Application.id t.applications applicationId with
  | none => .ok (t, ())
  | some row =>
      let row := { row with name := name.getD row.name, status := status.getD row.status }
      .ok ({ t with applications := update Application.id t.applications row }, ())

/-- The session of `update_membership` of `authz_service/api/policies.py` that writes the status. -/
def setMembershipStatus (t : Tables) (membershipId : Id) (status : Option String) :
    Except StoreError (Tables × Unit) :=
  match lookup Membership.id t.memberships membershipId with
  | none => .error .noResultFound
  | some row =>
      let row := { row with status := status.getD row.status }
      .ok ({ t with memberships := update Membership.id t.memberships row }, ())

end Tables

/-! ### Operations -/

/-- An operation and its arguments. -/
inductive Op where
  | createTenant (slug name status : String)
  | updateTenant (tenantId : Id) (name status : Option String)
  | createApplication (slug name status : String) (managedBy : Option String)
  | updateApplication (applicationId : Id) (name status : Option String)
  | setApplicationManagedBy (applicationId : Id) (managedBy : Option String)
  | claimApplicationManagement (applicationId : Id) (managedBy : String)
  | upsertUserFromIdentity (ref : UserRef) (email externalTenantId displayName : Option String)
  | createMembership (tenantId : Id) (applicationId : Option Id) (userId : Id) (status : String)
      (roles : Finset String)
  | setMembershipRoles (membershipId : Id) (roleNames : Finset String)
  | setMembershipStatus (membershipId : Id) (status : Option String)
  | createRole (name : String) (scope : RoleScope) (applicationId tenantId : Option Id)
      (description : Option String)
  | createPermission (name : String) (applicationId : Option Id) (description : Option String)
  | setRolePermissions (roleId : Id) (permissionNames : Finset String)
  | setTenantPermissionMask (tenantId applicationId : Id) (permissions : Finset String)
  | createAgent (tenantId applicationId : Id) (name role status : String)
      (createdByUserId : Option Id) (displayName : Option String)
  | setAgentRoles (agentId : Id) (roleNames : Finset String)
  | applyApplicationCatalog (slug name : String) (permissions : List CatalogPermission)
      (defaultRoles : List CatalogRole) (managedBy : Option String)
  | applyTenantState (applicationId : Id) (tenantSlug : String) (state : TenantState)
  | setTenantRoleOverride (tenantId applicationId : Id) (name : String)
      (permissions : Finset String)
  | deleteTenantRoleOverride (tenantId applicationId : Id) (name : String)
  | issueGrant (tenantId applicationId userId agentId : Id) (permissions : Finset String)
      (expiresAt now : DateTime) (purpose issuedBy : Option String)
  | revokeGrant (now : DateTime) (grantId : Id)
  | revokeMatching (now : DateTime) (tenantId : Id) (userId agentId : Option Id)

namespace Op

/-- The highest iteration in which the operation draws a row id. -/
def size : Op → ℕ
  | applyApplicationCatalog _ _ permissions defaultRoles _ =>
      max permissions.length defaultRoles.length
  | applyTenantState _ _ state => max state.members.length state.agents.length
  | _ => 0

/-- The tables an operation leaves in its session. -/
def tables (uuid4 : UuidSource) (t : Tables) : Op → Except StoreError Tables
  | createTenant slug name status => (t.createTenant uuid4 slug name status).map Prod.fst
  | updateTenant tenantId name status => (t.updateTenant tenantId name status).map Prod.fst
  | createApplication slug name status managedBy =>
      (t.createApplication uuid4 slug name status managedBy).map Prod.fst
  | updateApplication applicationId name status =>
      (t.updateApplication applicationId name status).map Prod.fst
  | setApplicationManagedBy applicationId managedBy =>
      (t.setApplicationManagedBy applicationId managedBy).map Prod.fst
  | claimApplicationManagement applicationId managedBy =>
      (t.claimApplicationManagement applicationId managedBy).map Prod.fst
  | upsertUserFromIdentity ref email externalTenantId displayName =>
      (t.upsertUserFromIdentity uuid4 ref email externalTenantId displayName).map Prod.fst
  | createMembership tenantId applicationId userId status roles =>
      (t.createMembership uuid4 tenantId applicationId userId status roles).map Prod.fst
  | setMembershipRoles membershipId roleNames =>
      (t.setMembershipRoles membershipId roleNames).map Prod.fst
  | setMembershipStatus membershipId status =>
      (t.setMembershipStatus membershipId status).map Prod.fst
  | createRole name scope applicationId tenantId description =>
      (t.createRole uuid4 name scope applicationId tenantId description).map Prod.fst
  | createPermission name applicationId description =>
      (t.createPermission uuid4 name applicationId description).map Prod.fst
  | setRolePermissions roleId permissionNames =>
      (t.setRolePermissions roleId permissionNames).map Prod.fst
  | setTenantPermissionMask tenantId applicationId permissions =>
      (t.setTenantPermissionMask tenantId applicationId permissions).map Prod.fst
  | createAgent tenantId applicationId name role status createdByUserId displayName =>
      (t.createAgent uuid4 tenantId applicationId name role status createdByUserId
        displayName).map Prod.fst
  | setAgentRoles agentId roleNames => (t.setAgentRoles agentId roleNames).map Prod.fst
  | applyApplicationCatalog slug name permissions defaultRoles managedBy =>
      (t.applyApplicationCatalog uuid4 slug name permissions defaultRoles managedBy).map Prod.fst
  | applyTenantState applicationId tenantSlug state =>
      (t.applyTenantState uuid4 applicationId tenantSlug state).map Prod.fst
  | setTenantRoleOverride tenantId applicationId name permissions =>
      (t.setTenantRoleOverride uuid4 tenantId applicationId name permissions).map Prod.fst
  | deleteTenantRoleOverride tenantId applicationId name =>
      (t.deleteTenantRoleOverride tenantId applicationId name).map Prod.fst
  | issueGrant tenantId applicationId userId agentId permissions expiresAt now purpose issuedBy =>
      (t.issueGrant uuid4 tenantId applicationId userId agentId permissions expiresAt now purpose
        issuedBy).map Prod.fst
  | revokeGrant now grantId => (t.revokeGrant now grantId).map Prod.fst
  | revokeMatching now tenantId userId agentId =>
      (t.revokeMatching now tenantId userId agentId).map Prod.fst

end Op

/-! ### Runs -/

namespace SqlAlchemyStore

/-- The store after an operation, or what it raised. -/
def perform (s : SqlAlchemyStore) (op : Op) (uuid4 : UuidSource) :
    Except StoreError SqlAlchemyStore :=
  (s.transaction fun t => (op.tables uuid4 t).map fun t' => (t', ())).map Prod.fst

/-- An operation returns exactly with tables the database accepts. -/
lemma perform_eq_ok_iff {s s' : SqlAlchemyStore} {op : Op} {uuid4 : UuidSource} :
    s.perform op uuid4 = .ok s' ↔
      s'.engine = s.engine ∧ op.tables uuid4 s.tables = .ok s'.tables := by
  have hmap : s.perform op uuid4 = .ok s' ↔
      s.transaction (fun t => (op.tables uuid4 t).map fun t' => (t', ())) = .ok (s', ()) := by
    rw [perform]
    cases s.transaction fun t => (op.tables uuid4 t).map fun t' => (t', ()) with
    | error e => simp [Except.map]
    | ok r => simp [Except.map, Prod.ext_iff]
  rw [hmap, transaction_eq_ok_iff]
  cases op.tables uuid4 s.tables with
  | error e => simp [Except.map]
  | ok t => simp [Except.map]

/-- The store after a call: a call that raises changes nothing. -/
def next (s : SqlAlchemyStore) (op : Op) (uuid4 : UuidSource) : SqlAlchemyStore :=
  match s.perform op uuid4 with
  | .ok s' => s'
  | .error _ => s

/-- A call that returns leads to the next state. -/
lemma perform_next {s : SqlAlchemyStore} {op : Op} {uuid4 : UuidSource}
    (h : (s.perform op uuid4).isOk = true) : s.perform op uuid4 = .ok (s.next op uuid4) := by
  rw [next]
  cases hp : s.perform op uuid4 with
  | error e =>
      rw [hp] at h
      cases h
  | ok s' => rfl

/-- The runs of a store: it starts empty, and each step is one call whose row ids
are new. -/
def machine : Machine SqlAlchemyStore (Op × UuidSource) where
  initial := fun s => ∃ engine, s = empty engine
  step := fun s call s' => Fresh call.2 s.tables (Draw.Within call.1.size) ∧ s' = s.next call.1 call.2

/-- The states of the runs. -/
abbrev Reachable (s : SqlAlchemyStore) : Prop := machine.Reachable s

/-- The store after several calls. -/
def run (s : SqlAlchemyStore) : List (Op × UuidSource) → SqlAlchemyStore
  | [] => s
  | call :: calls => (s.next call.1 call.2).run calls

/-- Each call draws row ids that are new when it is made. -/
def FreshRun (s : SqlAlchemyStore) : List (Op × UuidSource) → Prop
  | [] => True
  | call :: calls => Fresh call.2 s.tables (Draw.Within call.1.size) ∧
      FreshRun (s.next call.1 call.2) calls

instance decidableFreshRun : ∀ (s : SqlAlchemyStore) (calls : List (Op × UuidSource)),
    Decidable (s.FreshRun calls)
  | _, [] => isTrue trivial
  | s, call :: calls =>
      have := decidableFreshRun (s.next call.1 call.2) calls
      inferInstanceAs (Decidable (_ ∧ _))

/-- The state after a run is reachable. -/
lemma Reachable.run {s : SqlAlchemyStore} (h : s.Reachable) :
    ∀ {calls : List (Op × UuidSource)}, s.FreshRun calls → (s.run calls).Reachable
  | [], _ => h
  | _ :: _, hf => Reachable.run (Machine.Reachable.step h ⟨hf.1, rfl⟩) hf.2

/-- **The invariant rule of the store**: what holds of the empty tables and is kept
by each operation that returns holds in every reachable state. -/
theorem Reachable.tables_invariant {P : Tables → Prop} (hempty : P Tables.empty)
    (hop : ∀ (t : Tables) (op : Op) (uuid4 : UuidSource) (t' : Tables), t.Constraints →
      Fresh uuid4 t (Draw.Within op.size) → P t → op.tables uuid4 t = .ok t' → P t')
    {s : SqlAlchemyStore} (h : s.Reachable) :
    P s.tables := by
  refine Machine.Reachable.invariant (P := fun s => P s.tables) ?_ ?_ h
  · rintro s ⟨engine, rfl⟩
    exact hempty
  · rintro s ⟨op, uuid4⟩ s' - hs ⟨hfresh, rfl⟩
    rw [next]
    cases hp : s.perform op uuid4 with
    | error e => exact hs
    | ok s' => exact hop _ op uuid4 _ s.constraints hfresh hs (perform_eq_ok_iff.mp hp).2

/-! ### A run -/

/-- Row ids for the `k`-th call of a run. -/
def sampleIds (k : ℕ) : UuidSource := fun d =>
  let n : ℕ := match d with
    | .row => 10
    | .tenant => 11
    | .application => 12
    | .user i => 20 + i
    | .identity i => 30 + i
    | .membership i => 40 + i
    | .agent i => 50 + i
    | .role i => 60 + i
    | .permission i => 70 + i
  toString (1000000 * n + k) ++ "-0000-4000-8000-000000000000"

/-- A tenant and an application, a role of the tenant that is named like an internal
one, a member, an agent and a delegation grant from one to the other. -/
def acmeCalls : List (Op × UuidSource) :=
  [(.createTenant "acme" "Acme" "active", sampleIds 0),
    (.applyApplicationCatalog "crm" "CRM" [⟨"deal.read", none, false⟩]
      [⟨"viewer", none, ["deal.read"]⟩] none, sampleIds 1),
    (.createRole "agent:bot" .tenant (some (sampleIds 1 .application)) (some (sampleIds 0 .row))
      none, sampleIds 2),
    (.applyTenantState (sampleIds 1 .application) "acme"
      ⟨"Acme", "active", [⟨⟨"oidc", "https://idp", "alice"⟩, ["viewer"], some "Alice", none, "active"⟩],
        [⟨"helper", ["deal.read"], none, "active"⟩]⟩, sampleIds 3),
    (.issueGrant (sampleIds 0 .row) (sampleIds 1 .application) (sampleIds 3 (.user 0))
      (sampleIds 3 (.agent 0)) {"deal.read"} 100 0 none none, sampleIds 4)]

/-- The store after these calls. -/
def acmeStore : SqlAlchemyStore := (empty ⟨true⟩).run acmeCalls

lemma acmeStore_reachable : acmeStore.Reachable :=
  Reachable.run (Machine.Reachable.init ⟨_, rfl⟩)
    (show (empty ⟨true⟩).FreshRun acmeCalls by decide +kernel)

end SqlAlchemyStore

end AuthzKit
