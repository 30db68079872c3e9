import AuthzKit.Storage.CatalogSpec
import AuthzKit.Storage.StateSpec

/-!
Every reachable store is well formed.

* `wellFormed_tables`: each operation that returns keeps the invariant.
* `SqlAlchemyStore.Reachable.wellFormed`, and from it
  `SqlAlchemyStore.Reachable.links_within`: links never leave their tenant and
  application.
-/

namespace AuthzKit

namespace Tables

variable {t t' : Tables}

/-- A result without its value. -/
lemma map_fst_eq_ok {α : Type} {r : Except StoreError (Tables × α)}
    (h : r.map Prod.fst = .ok t') : ∃ a, r = .ok (t', a) := by
  cases r with
  | error e => cases h
  | ok p => exact ⟨p.2, congrArg Except.ok (Prod.ext (Except.ok.inj h) rfl)⟩

/-- What a returning `apply_tenant_state` did. -/
lemma of_applyTenantState_ok {uuid4 : UuidSource} {applicationId : Id} {tenantSlug : String}
    {state : TenantState} {result : TenantStateResult}
    (h : t.applyTenantState uuid4 applicationId tenantSlug state = .ok (t', result)) :
    tenantStateIssues state (t.stateRoleRows applicationId tenantSlug state)
        (t.statePermRows applicationId state) = [] ∧
      t' = t.stateTables uuid4 applicationId tenantSlug state ∧
      result = t.stateResult uuid4 applicationId tenantSlug state := by
  by_cases hissues : tenantStateIssues state (t.stateRoleRows applicationId tenantSlug state)
      (t.statePermRows applicationId state) = []
  · rw [applyTenantState_eq hissues] at h
    obtain ⟨ht, hr⟩ := Prod.mk.inj (Except.ok.inj h)
    exact ⟨hissues, ht.symm, hr.symm⟩
  · rw [applyTenantState_error hissues] at h
    cases h

/-- **Each operation that returns keeps the tables well formed.** -/
theorem wellFormed_tables {op : Op} {uuid4 : UuidSource} (hc : t.Constraints)
    (hf : Fresh uuid4 t (Draw.Within op.size)) (hw : t.WellFormed)
    (h : op.tables uuid4 t = .ok t') : t'.WellFormed := by
  cases op with
  | createTenant slug name status =>
      rw [Op.tables] at h
      obtain ⟨_, h⟩ := map_fst_eq_ok h
      exact (createTenant_evolves hf h).wellFormed hw
  | updateTenant tenantId name status =>
      rw [Op.tables] at h
      obtain ⟨_, h⟩ := map_fst_eq_ok h
      exact (updateTenant_evolves h).wellFormed hw
  | createApplication slug name status managedBy =>
      rw [Op.tables] at h
      obtain ⟨_, h⟩ := map_fst_eq_ok h
      exact (createApplication_evolves hf h).wellFormed hw
  | updateApplication applicationId name status =>
      rw [Op.tables] at h
      obtain ⟨_, h⟩ := map_fst_eq_ok h
      exact (updateApplication_evolves h).wellFormed hw
  | setApplicationManagedBy applicationId managedBy =>
      rw [Op.tables] at h
      obtain ⟨_, h⟩ := map_fst_eq_ok h
      exact (setApplicationManagedBy_evolves h).wellFormed hw
  | claimApplicationManagement applicationId managedBy =>
      rw [Op.tables] at h
      obtain ⟨_, h⟩ := map_fst_eq_ok h
      exact (claimApplicationManagement_evolves h).wellFormed hw
  | upsertUserFromIdentity ref email externalTenantId displayName =>
      rw [Op.tables] at h
      obtain ⟨_, h⟩ := map_fst_eq_ok h
      exact (upsertUserFromIdentity_evolves hf h).wellFormed hw
  | createMembership tenantId applicationId userId status roles =>
      rw [Op.tables] at h
      obtain ⟨_, h⟩ := map_fst_eq_ok h
      exact (createMembership_evolves h).wellFormed hw
  | setMembershipRoles membershipId roleNames =>
      rw [Op.tables] at h
      obtain ⟨_, h⟩ := map_fst_eq_ok h
      exact (setMembershipRoles_evolves h).wellFormed hw
  | setMembershipStatus membershipId status =>
      rw [Op.tables] at h
      obtain ⟨_, h⟩ := map_fst_eq_ok h
      exact (setMembershipStatus_evolves hc h).wellFormed hw
  | createRole name scope applicationId tenantId description =>
      rw [Op.tables] at h
      obtain ⟨_, h⟩ := map_fst_eq_ok h
      exact (createRole_evolves h).wellFormed hw
  | createPermission name applicationId description =>
      rw [Op.tables] at h
      obtain ⟨_, h⟩ := map_fst_eq_ok h
      exact (createPermission_evolves h).wellFormed hw
  | setRolePermissions roleId permissionNames =>
      rw [Op.tables] at h
      obtain ⟨_, h⟩ := map_fst_eq_ok h
      exact (setRolePermissions_evolves h).wellFormed hw
  | setTenantPermissionMask tenantId applicationId permissions =>
      rw [Op.tables] at h
      obtain ⟨_, h⟩ := map_fst_eq_ok h
      exact (setTenantPermissionMask_evolves h).wellFormed hw
  | createAgent tenantId applicationId name role status createdByUserId displayName =>
      rw [Op.tables] at h
      obtain ⟨_, h⟩ := map_fst_eq_ok h
      exact (createAgent_evolves h).wellFormed hw
  | setAgentRoles agentId roleNames =>
      rw [Op.tables] at h
      obtain ⟨_, h⟩ := map_fst_eq_ok h
      exact (setAgentRoles_evolves h).wellFormed hw
  | applyApplicationCatalog slug name permissions defaultRoles managedBy =>
      rw [Op.tables] at h
      obtain ⟨_, h⟩ := map_fst_eq_ok h
      exact (applyApplicationCatalog_effect hc hf h).evolves.wellFormed hw
  | applyTenantState applicationId tenantSlug state =>
      rw [Op.tables] at h
      obtain ⟨_, h⟩ := map_fst_eq_ok h
      obtain ⟨hissues, rfl, -⟩ := of_applyTenantState_ok h
      exact (StateInput.of_issues hc hw hf hissues).wellFormed_after
  | setTenantRoleOverride tenantId applicationId name permissions =>
      rw [Op.tables] at h
      obtain ⟨_, h⟩ := map_fst_eq_ok h
      exact (setTenantRoleOverride_evolves h).wellFormed hw
  | deleteTenantRoleOverride tenantId applicationId name =>
      rw [Op.tables] at h
      obtain ⟨_, h⟩ := map_fst_eq_ok h
      exact (deleteTenantRoleOverride_evolves hc hw h).wellFormed hw
  | issueGrant tenantId applicationId userId agentId permissions expiresAt now purpose issuedBy =>
      rw [Op.tables] at h
      obtain ⟨_, h⟩ := map_fst_eq_ok h
      exact (issueGrant_evolves h).wellFormed hw
  | revokeGrant now grantId =>
      rw [Op.tables] at h
      obtain ⟨_, h⟩ := map_fst_eq_ok h
      exact (revokeGrant_evolves h).wellFormed hw
  | revokeMatching now tenantId userId agentId =>
      rw [Op.tables] at h
      obtain ⟨_, h⟩ := map_fst_eq_ok h
      exact (revokeMatching_evolves h).wellFormed hw

end Tables

namespace SqlAlchemyStore

/-- **Every reachable store is well formed.** -/
theorem Reachable.wellFormed {s : SqlAlchemyStore} (h : s.Reachable) : s.tables.WellFormed :=
  h.tables_invariant Tables.wellFormed_empty
    fun _ _ _ _ hc hf hw hop => Tables.wellFormed_tables hc hf hw hop

/-- **Links never leave their tenant and application.** A membership's role is of its
application, of its tenant or application-wide, and not internal; an agent's
likewise, or its own internal role; a permission is of the role's application. -/
theorem Reachable.links_within {s : SqlAlchemyStore} (h : s.Reachable) :
    (∀ p ∈ s.tables.membershipRoles, ∃ m ∈ s.tables.memberships, ∃ r ∈ s.tables.roles,
      m.id = p.1 ∧ r.id = p.2 ∧ r.applicationId = m.applicationId ∧
        (r.tenantId = none ∨ r.tenantId = some m.tenantId) ∧ r.agentId = none) ∧
    (∀ p ∈ s.tables.agentRoles, ∃ a ∈ s.tables.agents, ∃ r ∈ s.tables.roles,
      a.id = p.1 ∧ r.id = p.2 ∧ r.applicationId = some a.applicationId ∧
        (r.tenantId = none ∨ r.tenantId = some a.tenantId) ∧
        (r.agentId = none ∨ r.agentId = some a.id)) ∧
    (∀ p ∈ s.tables.rolePermissions, ∃ r ∈ s.tables.roles, ∃ q ∈ s.tables.permissions,
      r.id = p.1 ∧ q.id = p.2 ∧ r.applicationId = q.applicationId) := by
  have hw := h.wellFormed
  exact ⟨hw.membershipLinks, hw.agentLinks, hw.permissionLinks⟩

/-- The links of the store: one of a member, one of an agent, and those of the default
role and the internal role. -/
theorem acmeStore_links_within :
    (acmeStore.tables.membershipRoles.card = 1 ∧ acmeStore.tables.agentRoles.card = 1 ∧
      acmeStore.tables.rolePermissions.card = 2) ∧
    (∀ p ∈ acmeStore.tables.membershipRoles, ∃ m ∈ acmeStore.tables.memberships,
      ∃ r ∈ acmeStore.tables.roles, m.id = p.1 ∧ r.id = p.2 ∧ r.applicationId = m.applicationId ∧
        (r.tenantId = none ∨ r.tenantId = some m.tenantId) ∧ r.agentId = none) :=
  ⟨by decide +kernel, acmeStore_reachable.links_within.1⟩

end SqlAlchemyStore

end AuthzKit
