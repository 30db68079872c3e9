import AuthzKit.Storage.Permissions

/-!
What the permission reads of one tenant and application depend on.

* `SameView`: two sets of tables with the same rows and links a pair's reads can
  reach: memberships of the tenant, roles that can count in it, permissions, agents
  and masks.
* `SameReads`: every read of the pair gives the same answer.
* `SameView.reads`: the same view gives the same reads. Links stay inside the view
  because the tables are well formed.
-/

namespace AuthzKit

open Keyed

/-- Filed under the application, or under none. -/
def InScope (applicationId : Id) (a : Option Id) : Prop := a = some applicationId ∨ a = none

instance (applicationId : Id) : DecidablePred (InScope applicationId) := fun a =>
  inferInstanceAs (Decidable (a = some applicationId ∨ a = none))

/-- A membership the pair reads. -/
def Membership.ReadBy (tenantId applicationId : Id) (m : Membership) : Prop :=
  m.tenantId = tenantId ∧ InScope applicationId m.applicationId

/-- A role the pair reads. -/
def Role.ReadBy (tenantId applicationId : Id) (r : Role) : Prop :=
  RoleIn tenantId r ∧ InScope applicationId r.applicationId

/-- A permission the application reads. -/
def Permission.ReadBy (applicationId : Id) (q : Permission) : Prop :=
  InScope applicationId q.applicationId

/-- An agent the pair reads. -/
def Agent.ReadBy (tenantId applicationId : Id) (a : Agent) : Prop :=
  a.tenantId = tenantId ∧ a.applicationId = applicationId

instance (tenantId applicationId : Id) : DecidablePred (Membership.ReadBy tenantId applicationId) :=
  fun _ => inferInstanceAs (Decidable (_ ∧ _))

instance (tenantId applicationId : Id) : DecidablePred (Role.ReadBy tenantId applicationId) :=
  fun _ => inferInstanceAs (Decidable (_ ∧ _))

instance (applicationId : Id) : DecidablePred (Permission.ReadBy applicationId) :=
  fun q => inferInstanceAs (Decidable (InScope applicationId q.applicationId))

instance (tenantId applicationId : Id) : DecidablePred (Agent.ReadBy tenantId applicationId) :=
  fun _ => inferInstanceAs (Decidable (_ ∧ _))

/-! Whether a row is read depends on its identity only. -/

lemma Membership.readBy_congr {tenantId applicationId : Id} {m m' : Membership}
    (h : m.ident = m'.ident) :
    decide (m.ReadBy tenantId applicationId) = decide (m'.ReadBy tenantId applicationId) := by
  simp only [Membership.ident, Prod.mk.injEq] at h
  exact decide_eq_decide.mpr (by simp only [Membership.ReadBy, h])

lemma Role.readBy_congr {tenantId applicationId : Id} {r r' : Role} (h : r.ident = r'.ident) :
    decide (r.ReadBy tenantId applicationId) = decide (r'.ReadBy tenantId applicationId) := by
  simp only [Role.ident, Prod.mk.injEq] at h
  exact decide_eq_decide.mpr (by simp only [Role.ReadBy, RoleIn, h])

lemma Permission.readBy_congr {applicationId : Id} {q q' : Permission} (h : q.ident = q'.ident) :
    decide (q.ReadBy applicationId) = decide (q'.ReadBy applicationId) := by
  simp only [Permission.ident, Prod.mk.injEq] at h
  exact decide_eq_decide.mpr (by simp only [Permission.ReadBy, h])

lemma Agent.readBy_congr {tenantId applicationId : Id} {a a' : Agent} (h : a.ident = a'.ident) :
    decide (a.ReadBy tenantId applicationId) = decide (a'.ReadBy tenantId applicationId) := by
  simp only [Agent.ident, Prod.mk.injEq] at h
  exact decide_eq_decide.mpr (by simp only [Agent.ReadBy, h])

namespace Tables

/-- The same rows and links as far as the reads of a pair reach. -/
structure SameView (tenantId applicationId : Id) (t t' : Tables) : Prop where
  memberships : t'.memberships.filter (Membership.ReadBy tenantId applicationId) =
    t.memberships.filter (Membership.ReadBy tenantId applicationId)
  roles : t'.roles.filter (Role.ReadBy tenantId applicationId) =
    t.roles.filter (Role.ReadBy tenantId applicationId)
  permissions : t'.permissions.filter (Permission.ReadBy applicationId) =
    t.permissions.filter (Permission.ReadBy applicationId)
  agents : t'.agents.filter (Agent.ReadBy tenantId applicationId) =
    t.agents.filter (Agent.ReadBy tenantId applicationId)
  membershipRoles : ∀ m ∈ t.memberships, m.ReadBy tenantId applicationId →
    ∀ i, (m.id, i) ∈ t'.membershipRoles ↔ (m.id, i) ∈ t.membershipRoles
  agentRoles : ∀ a ∈ t.agents, a.ReadBy tenantId applicationId →
    ∀ i, (a.id, i) ∈ t'.agentRoles ↔ (a.id, i) ∈ t.agentRoles
  rolePermissions : ∀ r ∈ t.roles, r.ReadBy tenantId applicationId →
    ∀ i, (r.id, i) ∈ t'.rolePermissions ↔ (r.id, i) ∈ t.rolePermissions
  masks : ∀ n, (⟨tenantId, applicationId, n⟩ : TenantPermissionMask) ∈ t'.tenantPermissionMasks ↔
    (⟨tenantId, applicationId, n⟩ : TenantPermissionMask) ∈ t.tenantPermissionMasks

/-- The reads of a pair give the same answers, for every user and agent. -/
structure SameReads (tenantId applicationId : Id) (t t' : Tables) : Prop where
  userPermissions : ∀ userId, t'.resolveUserPermissions tenantId applicationId userId =
    t.resolveUserPermissions tenantId applicationId userId
  agentPermissions : ∀ agentId, t'.resolveAgentPermissions tenantId applicationId agentId =
    t.resolveAgentPermissions tenantId applicationId agentId
  tenantPermissions : t'.resolveTenantPermissions tenantId applicationId =
    t.resolveTenantPermissions tenantId applicationId
  membershipActive : ∀ userId, t'.isUserMembershipActive tenantId applicationId userId =
    t.isUserMembershipActive tenantId applicationId userId
  agentActive : ∀ agentId, t'.isAgentActive tenantId applicationId agentId =
    t.isAgentActive tenantId applicationId agentId

lemma SameReads.refl (tenantId applicationId : Id) (t : Tables) :
    SameReads tenantId applicationId t t :=
  ⟨fun _ => rfl, fun _ => rfl, rfl, fun _ => rfl, fun _ => rfl⟩

namespace SameView

variable {t t' : Tables} {tenantId applicationId : Id}

lemma refl (tenantId applicationId : Id) (t : Tables) : SameView tenantId applicationId t t where
  memberships := rfl
  roles := rfl
  permissions := rfl
  agents := rfl
  membershipRoles := fun _ _ _ _ => Iff.rfl
  agentRoles := fun _ _ _ _ => Iff.rfl
  rolePermissions := fun _ _ _ _ => Iff.rfl
  masks := fun _ => Iff.rfl

/-! ### Rows in view -/

lemma mem_memberships (h : SameView tenantId applicationId t t') {m : Membership}
    (hm : m.ReadBy tenantId applicationId) : m ∈ t'.memberships ↔ m ∈ t.memberships :=
  mem_iff_of_filter_eq h.memberships (decide_eq_true hm)

lemma mem_roles (h : SameView tenantId applicationId t t') {r : Role}
    (hr : r.ReadBy tenantId applicationId) : r ∈ t'.roles ↔ r ∈ t.roles :=
  mem_iff_of_filter_eq h.roles (decide_eq_true hr)

lemma mem_permissions (h : SameView tenantId applicationId t t') {q : Permission}
    (hq : q.ReadBy applicationId) : q ∈ t'.permissions ↔ q ∈ t.permissions :=
  mem_iff_of_filter_eq h.permissions (decide_eq_true hq)

lemma mem_agents (h : SameView tenantId applicationId t t') {a : Agent}
    (ha : a.ReadBy tenantId applicationId) : a ∈ t'.agents ↔ a ∈ t.agents :=
  mem_iff_of_filter_eq h.agents (decide_eq_true ha)

lemma symm (h : SameView tenantId applicationId t t') : SameView tenantId applicationId t' t where
  memberships := h.memberships.symm
  roles := h.roles.symm
  permissions := h.permissions.symm
  agents := h.agents.symm
  membershipRoles := fun m hm hv i => (h.membershipRoles m ((h.mem_memberships hv).mp hm) hv i).symm
  agentRoles := fun a ha hv i => (h.agentRoles a ((h.mem_agents hv).mp ha) hv i).symm
  rolePermissions := fun r hr hv i => (h.rolePermissions r ((h.mem_roles hv).mp hr) hv i).symm
  masks := fun n => (h.masks n).symm

/-! ### Roles and permissions -/

/-- The override of a role in view is in view. -/
lemma effectiveRoleId_eq (h : SameView tenantId applicationId t t') {r : Role}
    (hr : InScope applicationId r.applicationId) :
    t'.effectiveRoleId tenantId r = t.effectiveRoleId tenantId r := by
  have hoverride : t'.overrideOf tenantId r = t.overrideOf tenantId r := by
    refine congrArg List.getLast? (filter_eq_of_filter_eq h.roles fun o ho => ?_)
    simp only [decide_eq_true_eq] at ho ⊢
    exact ⟨Or.inr ho.1, ho.2.2.1 ▸ hr⟩
  rw [effectiveRoleId, effectiveRoleId, hoverride]

/-- What counts for a link to `r` is a role with the application of `r`. -/
lemma exists_effectiveRole {r : Role} (hr : r ∈ t.roles) (hin : RoleIn tenantId r) :
    ∃ e ∈ t.roles, e.id = t.effectiveRoleId tenantId r ∧ RoleIn tenantId e ∧
      e.applicationId = r.applicationId := by
  rw [effectiveRoleId]
  split_ifs with hwide
  · cases ho : t.overrideOf tenantId r with
    | none => exact ⟨r, hr, rfl, hin, rfl⟩
    | some o =>
        have hmem := List.mem_filter.mp (List.mem_of_getLast? ho)
        simp only [decide_eq_true_eq] at hmem
        exact ⟨o, hmem.1, rfl, Or.inr hmem.2.1, hmem.2.2.2.1⟩
  · exact ⟨r, hr, rfl, hin, rfl⟩

/-- A grant through links that stay in view is there in both tables. -/
lemma grants (h : SameView tenantId applicationId t t') (hc : t.Constraints) (hw : t.WellFormed)
    {links links' : Multiset (Id × Id)} {owner : Id} {q : Permission}
    (hlinks : ∀ i, (owner, i) ∈ links' ↔ (owner, i) ∈ links)
    (hscope : ∀ r ∈ t.roles, (owner, r.id) ∈ links → InScope applicationId r.applicationId)
    (hq : t.Grants links tenantId owner q) : t'.Grants links' tenantId owner q := by
  obtain ⟨r, hr, hlink, hin, hq, hactive, hrq⟩ := hq
  have hrscope := hscope r hr hlink
  obtain ⟨e, he, heid, hein, heapp⟩ := exists_effectiveRole hr hin
  have hescope : InScope applicationId e.applicationId := heapp.symm ▸ hrscope
  -- the permission is filed like the role that carries it
  obtain ⟨e', he', q', hq', hid, hqid, hcarry⟩ := hw.permissionLinks _ hrq
  obtain rfl := List.inj_on_of_nodup_map hc.roleId he' he (hid.trans heid.symm)
  obtain rfl := List.inj_on_of_nodup_map hc.permissionId hq' hq hqid
  have hqscope : q'.ReadBy applicationId := by
    rw [Permission.ReadBy, ← show e'.applicationId = q'.applicationId from hcarry]
    exact hescope
  refine ⟨r, (h.mem_roles ⟨hin, hrscope⟩).mpr hr, (hlinks r.id).mpr hlink, hin,
    (h.mem_permissions hqscope).mpr hq, hactive, ?_⟩
  rw [h.effectiveRoleId_eq hrscope, ← heid, h.rolePermissions e' he ⟨hein, hescope⟩, heid]
  exact hrq

/-- The roles linked to a membership in view are in view. -/
lemma membership_scope (hc : t.Constraints) (hw : t.WellFormed) {m : Membership}
    (hm : m ∈ t.memberships) (hv : m.ReadBy tenantId applicationId) :
    ∀ r ∈ t.roles, (m.id, r.id) ∈ t.membershipRoles → InScope applicationId r.applicationId := by
  intro r hr hlink
  obtain ⟨m', hm', r', hr', hmid, hrid, happ, -⟩ := hw.membershipLinks _ hlink
  obtain rfl := List.inj_on_of_nodup_map hc.membershipId hm' hm hmid
  obtain rfl := List.inj_on_of_nodup_map hc.roleId hr' hr hrid
  exact happ ▸ hv.2

/-- The roles linked to an agent in view are in view. -/
lemma agent_scope (hc : t.Constraints) (hw : t.WellFormed) {a : Agent}
    (ha : a ∈ t.agents) (hv : a.ReadBy tenantId applicationId) :
    ∀ r ∈ t.roles, (a.id, r.id) ∈ t.agentRoles → InScope applicationId r.applicationId := by
  intro r hr hlink
  obtain ⟨a', ha', r', hr', haid, hrid, happ, -⟩ := hw.agentLinks _ hlink
  obtain rfl := List.inj_on_of_nodup_map hc.agentId ha' ha haid
  obtain rfl := List.inj_on_of_nodup_map hc.roleId hr' hr hrid
  exact Or.inl (happ.trans (congrArg some hv.2))

/-! ### The reads -/

lemma eligibleMemberships_eq (h : SameView tenantId applicationId t t') (userId : Id) :
    t'.eligibleMemberships tenantId applicationId userId =
      t.eligibleMemberships tenantId applicationId userId := by
  refine filter_eq_of_filter_eq h.memberships fun m hm => ?_
  simp only [decide_eq_true_eq] at hm ⊢
  exact ⟨hm.1, hm.2.2.2⟩

lemma membershipOf_eq (h : SameView tenantId applicationId t t') {a : Option Id}
    (ha : InScope applicationId a) (userId : Id) :
    t'.membershipOf tenantId a userId = t.membershipOf tenantId a userId := by
  have hfilter := filter_eq_of_filter_eq (q := fun m => decide (m.tenantId = tenantId ∧
      m.userId = userId ∧ m.applicationId = a)) h.memberships fun m hm => by
    simp only [decide_eq_true_eq] at hm ⊢
    exact ⟨hm.1, hm.2.2 ▸ ha⟩
  rw [membershipOf, membershipOf, ← List.head?_filter, ← List.head?_filter, hfilter]

lemma userPermissions_subset (h : SameView tenantId applicationId t t') (hc : t.Constraints)
    (hw : t.WellFormed) (userId : Id) :
    t.resolveUserPermissions tenantId applicationId userId ⊆
      t'.resolveUserPermissions tenantId applicationId userId := by
  intro p hp
  obtain ⟨m, hm, q, hq, happ, rfl⟩ := mem_resolveUserPermissions.mp hp
  obtain ⟨hmem, hfields⟩ := List.mem_filter.mp hm
  have hv : m.ReadBy tenantId applicationId := by
    simp only [decide_eq_true_eq] at hfields
    exact ⟨hfields.1, hfields.2.2.2⟩
  rw [← h.eligibleMemberships_eq] at hm
  exact mem_resolveUserPermissions.mpr ⟨m, hm, q, h.grants hc hw (h.membershipRoles m hmem hv)
    (membership_scope hc hw hmem hv) hq, happ, rfl⟩

lemma getAgent_eq (h : SameView tenantId applicationId t t') (hc : t.Constraints)
    (hc' : t'.Constraints) (agentId : Id) :
    t'.getAgent tenantId applicationId agentId = t.getAgent tenantId applicationId agentId := by
  refine Option.ext fun a => ?_
  rw [getAgent_eq_some_iff hc', getAgent_eq_some_iff hc]
  refine and_congr_left fun ha => ?_
  exact h.mem_agents ⟨ha.2.1, ha.2.2⟩

lemma agentPermissions_subset (h : SameView tenantId applicationId t t') (hc : t.Constraints)
    (hc' : t'.Constraints) (hw : t.WellFormed) (agentId : Id) :
    t.resolveAgentPermissions tenantId applicationId agentId ⊆
      t'.resolveAgentPermissions tenantId applicationId agentId := by
  intro p hp
  obtain ⟨a, ha, q, hq, rfl⟩ := mem_resolveAgentPermissions.mp hp
  obtain ⟨hmem, -, ht, happ⟩ := (getAgent_eq_some_iff hc).mp ha
  have hv : a.ReadBy tenantId applicationId := ⟨ht, happ⟩
  rw [← h.getAgent_eq hc hc'] at ha
  exact mem_resolveAgentPermissions.mpr ⟨a, ha, q, h.grants hc hw (h.agentRoles a hmem hv)
    (agent_scope hc hw hmem hv) hq, rfl⟩

/-- **The same view gives the same reads.** -/
theorem reads (h : SameView tenantId applicationId t t') (hc : t.Constraints) (hw : t.WellFormed)
    (hc' : t'.Constraints) (hw' : t'.WellFormed) : SameReads tenantId applicationId t t' where
  userPermissions := fun userId => Finset.Subset.antisymm
    (h.symm.userPermissions_subset hc' hw' userId) (h.userPermissions_subset hc hw userId)
  agentPermissions := fun agentId => Finset.Subset.antisymm
    (h.symm.agentPermissions_subset hc' hc hw' agentId)
    (h.agentPermissions_subset hc hc' hw agentId)
  tenantPermissions := by
    ext p
    rw [mem_resolveTenantPermissions, mem_resolveTenantPermissions, h.masks p]
  membershipActive := fun userId => by
    rw [isUserMembershipActive, isUserMembershipActive, h.membershipOf_eq (Or.inl rfl),
      h.membershipOf_eq (Or.inr rfl)]
  agentActive := fun agentId => by
    rw [isAgentActive, isAgentActive, h.getAgent_eq hc hc']

end SameView

end Tables

end AuthzKit
