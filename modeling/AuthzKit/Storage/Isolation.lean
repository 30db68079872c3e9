import AuthzKit.Storage.Invariant
import AuthzKit.Storage.Views

/-!
Writes stay inside their application and tenant.

* `Op.OnVocabulary`, `Op.OnPair`: the operations on the permissions and roles of an
  application, and those on the members, agents and overrides of one pair.
* `vocabulary_view`, `pair_view`: the former keep the view of every pair with
  another application, the latter that of every other pair.
* `Reachable.isolation`: hence the reads of those pairs, in every reachable store.
-/

namespace AuthzKit

open Keyed Links

namespace Op

/-- The operation is on the vocabulary of the application; `t` are the tables after
it, since a catalog may create its application. -/
def OnVocabulary (t : Tables) (applicationId : Id) : Op → Prop
  | applyApplicationCatalog slug _ _ _ _ =>
      ∃ app ∈ t.applications, app.slug = slug ∧ app.id = applicationId
  | setRolePermissions roleId _ =>
      ∃ role ∈ t.roles, role.id = roleId ∧ role.applicationId = some applicationId
  | createPermission _ app _ => app = some applicationId
  | createRole _ _ app _ _ => app = some applicationId
  | _ => False

/-- The operation is on the pair; `t` are the tables after it, since a state may
create its tenant. -/
def OnPair (t : Tables) (tenantId applicationId : Id) : Op → Prop
  | applyTenantState app slug _ =>
      app = applicationId ∧ ∃ tenant ∈ t.tenants, tenant.slug = slug ∧ tenant.id = tenantId
  | setTenantRoleOverride tenant app _ _ => tenant = tenantId ∧ app = applicationId
  | deleteTenantRoleOverride tenant app _ => tenant = tenantId ∧ app = applicationId
  | createMembership tenant app _ _ _ => tenant = tenantId ∧ app = some applicationId
  | setMembershipRoles membershipId _ | setMembershipStatus membershipId _ =>
      ∃ m ∈ t.memberships, m.id = membershipId ∧ m.tenantId = tenantId ∧
        m.applicationId = some applicationId
  | createAgent tenant app _ _ _ _ _ => tenant = tenantId ∧ app = applicationId
  | setAgentRoles agentId _ =>
      ∃ a ∈ t.agents, a.id = agentId ∧ a.tenantId = tenantId ∧ a.applicationId = applicationId
  | setTenantPermissionMask tenant app _ => tenant = tenantId ∧ app = applicationId
  | _ => False

end Op

namespace Tables

variable {t t' : Tables} {tenantId applicationId otherTenant otherApp : Id}

/-! ### Rows out of view -/

lemma not_inScope (h : otherApp ≠ applicationId) : ¬InScope otherApp (some applicationId) := by
  rintro (heq | heq)
  · exact h (Option.some.inj heq).symm
  · cases heq

/-- A membership of one pair is out of view of every other. -/
lemma membership_not_readBy (hne : (otherTenant, otherApp) ≠ (tenantId, applicationId))
    {m : Membership} (ht : m.tenantId = tenantId) (happ : m.applicationId = some applicationId) :
    ¬m.ReadBy otherTenant otherApp := by
  rintro ⟨ht', happ'⟩
  rw [happ] at happ'
  refine not_inScope (fun heq => hne ?_) happ'
  rw [← ht', ht, heq]

/-- A role of one pair is out of view of every other. -/
lemma role_not_readBy (hne : (otherTenant, otherApp) ≠ (tenantId, applicationId)) {r : Role}
    (ht : r.tenantId = some tenantId) (happ : r.applicationId = some applicationId) :
    ¬r.ReadBy otherTenant otherApp := by
  rintro ⟨ht', happ'⟩
  rw [happ] at happ'
  refine not_inScope (fun heq => hne ?_) happ'
  rcases ht' with ht' | ht'
  · rw [ht] at ht'
    cases ht'
  · rw [← Option.some.inj (ht.symm.trans ht'), heq]

/-- An agent of one pair is out of view of every other. -/
lemma agent_not_readBy (hne : (otherTenant, otherApp) ≠ (tenantId, applicationId)) {a : Agent}
    (ht : a.tenantId = tenantId) (happ : a.applicationId = applicationId) :
    ¬a.ReadBy otherTenant otherApp := by
  rintro ⟨ht', happ'⟩
  exact hne (by rw [← ht', ← happ', ht, happ])

/-! ### The vocabulary of an application -/

lemma createRole_view {uuid4 : UuidSource} {name : String} {scope : RoleScope}
    {tenant : Option Id} {description : Option String} {row : Role}
    (h : t.createRole uuid4 name scope (some applicationId) tenant description = .ok (t', row))
    (hne : otherApp ≠ applicationId) : SameView otherTenant otherApp t t' := by
  obtain ⟨rfl, -⟩ := Prod.mk.inj (Except.ok.inj h)
  refine { SameView.refl otherTenant otherApp t with roles := filter_append_of_not fun r hr => ?_ }
  obtain rfl := List.mem_singleton.mp hr
  exact fun hv => not_inScope hne hv.2

lemma createPermission_view {uuid4 : UuidSource} {name : String} {description : Option String}
    {row : Permission}
    (h : t.createPermission uuid4 name (some applicationId) description = .ok (t', row))
    (hne : otherApp ≠ applicationId) : SameView otherTenant otherApp t t' := by
  rw [createPermission] at h
  split at h
  · cases h
  · obtain ⟨rfl, -⟩ := Prod.mk.inj (Except.ok.inj h)
    refine { SameView.refl otherTenant otherApp t with
      permissions := filter_append_of_not fun q hq => ?_ }
    obtain rfl := List.mem_singleton.mp hq
    exact not_inScope hne

lemma setRolePermissions_view {roleId : Id} {permissionNames : Finset String} {u : Unit}
    {role : Role} (hc : t.Constraints)
    (h : t.setRolePermissions roleId permissionNames = .ok (t', u)) (hrole : role ∈ t'.roles)
    (hid : role.id = roleId) (happ : role.applicationId = some applicationId)
    (hne : otherApp ≠ applicationId) : SameView otherTenant otherApp t t' := by
  rw [setRolePermissions] at h
  split at h
  · obtain ⟨rfl, -⟩ := Prod.mk.inj (Except.ok.inj h)
    exact SameView.refl _ _ _
  · simp only at h
    split at h
    · cases h
    · obtain ⟨rfl, -⟩ := Prod.mk.inj (Except.ok.inj h)
      refine { SameView.refl otherTenant otherApp t with
        rolePermissions := fun r hr hv i => mem_replace_of_ne fun heq => ?_ }
      rw [List.inj_on_of_nodup_map hc.roleId hr hrole (heq.trans hid.symm), Role.ReadBy, happ] at hv
      exact not_inScope hne hv.2

/-- A catalog keeps the view of every pair with another application. -/
lemma CatalogEffect.view {uuid4 : UuidSource} (h : CatalogEffect t t' uuid4 applicationId)
    (hne : otherApp ≠ applicationId) : SameView otherTenant otherApp t t' where
  memberships := by rw [h.memberships]
  roles := by
    refine h.otherRoles _ (fun _ _ => Role.readBy_congr) fun r hr => decide_eq_false fun hv => ?_
    rw [Role.ReadBy, hr.1] at hv
    exact not_inScope hne hv.2
  permissions := by
    refine h.otherPermissions _ (fun _ _ => Permission.readBy_congr) fun q hq =>
      decide_eq_false fun hv => ?_
    rw [Permission.ReadBy, hq] at hv
    exact not_inScope hne hv
  agents := by rw [h.agents]
  membershipRoles := fun _ _ _ _ => by rw [h.membershipRoles]
  agentRoles := fun _ _ _ _ => by rw [h.agentRoles]
  rolePermissions := fun r hr hv i => by
    refine h.otherLinks r hr (fun hdef => ?_) i
    rw [Role.ReadBy, hdef.1] at hv
    exact not_inScope hne hv.2
  masks := fun _ => by rw [h.masks]

/-! ### One pair -/

lemma createMembership_view {uuid4 : UuidSource} {userId : Id} {status : String}
    {roles : Finset String} {r : Membership × Finset String} {n : ℕ}
    (hf : Fresh uuid4 t (Draw.Within n))
    (h : t.createMembership uuid4 tenantId (some applicationId) userId status roles = .ok (t', r))
    (hne : (otherTenant, otherApp) ≠ (tenantId, applicationId)) :
    SameView otherTenant otherApp t t' := by
  have hrow : ∀ m : Membership,
      m ∈ [({ id := uuid4 .row, tenantId, applicationId := some applicationId, userId, status } :
        Membership)] → ¬m.ReadBy otherTenant otherApp := fun m hm => by
    obtain rfl := List.mem_singleton.mp hm
    exact membership_not_readBy hne rfl rfl
  rw [createMembership] at h
  simp only [Except.ok.injEq, Prod.mk.injEq] at h
  obtain ⟨rfl, -⟩ := h
  split
  · exact { SameView.refl otherTenant otherApp t with
      memberships := filter_append_of_not hrow
      membershipRoles := fun m hm _ i =>
        mem_replace_of_ne ((hf.unused .row (Nat.zero_le n)).memberships m hm).1 }
  · exact { SameView.refl otherTenant otherApp t with memberships := filter_append_of_not hrow }

lemma setMembershipRoles_view {membershipId : Id} {roleNames : Finset String} {u : Unit}
    {m : Membership} (hc : t.Constraints)
    (h : t.setMembershipRoles membershipId roleNames = .ok (t', u)) (hm : m ∈ t'.memberships)
    (hid : m.id = membershipId) (ht : m.tenantId = tenantId)
    (happ : m.applicationId = some applicationId)
    (hne : (otherTenant, otherApp) ≠ (tenantId, applicationId)) :
    SameView otherTenant otherApp t t' := by
  rw [setMembershipRoles] at h
  split at h
  · obtain ⟨rfl, -⟩ := Prod.mk.inj (Except.ok.inj h)
    exact SameView.refl _ _ _
  · obtain ⟨rfl, -⟩ := Prod.mk.inj (Except.ok.inj h)
    refine { SameView.refl otherTenant otherApp t with
      membershipRoles := fun m' hm' hv i => mem_replace_of_ne fun heq => ?_ }
    rw [List.inj_on_of_nodup_map hc.membershipId hm' hm (heq.trans hid.symm)] at hv
    exact membership_not_readBy hne ht happ hv

lemma setMembershipStatus_view {membershipId : Id} {status : Option String} {u : Unit}
    {m : Membership} (hc : t.Constraints)
    (h : t.setMembershipStatus membershipId status = .ok (t', u)) (hm : m ∈ t'.memberships)
    (hid : m.id = membershipId) (ht : m.tenantId = tenantId)
    (happ : m.applicationId = some applicationId)
    (hne : (otherTenant, otherApp) ≠ (tenantId, applicationId)) :
    SameView otherTenant otherApp t t' := by
  rw [setMembershipStatus] at h
  split at h
  · cases h
  · rename_i row hrow
    obtain ⟨rfl, -⟩ := Prod.mk.inj (Except.ok.inj h)
    have hwritten : ∀ x ∈ [{ row with status := status.getD row.status }],
        x.ident ∈ t.memberships.map Membership.ident ∧
          decide (x.ReadBy otherTenant otherApp) = false := by
      intro x hx
      obtain rfl := List.mem_singleton.mp hx
      refine ⟨List.mem_map.mpr ⟨row, mem_of_lookup hrow, rfl⟩, decide_eq_false ?_⟩
      rcases mem_update.mp hm with ⟨rfl, -⟩ | ⟨-, hother⟩
      · exact membership_not_readBy hne ht happ
      · exact absurd (hid.trans (key_of_lookup hrow).symm) hother
    exact { SameView.refl otherTenant otherApp t with
      memberships := filter_updateAll_ident (fun _ _ hab => (Prod.mk.inj hab).1)
        (fun _ _ => Membership.readBy_congr) hc.membershipId hwritten }

lemma createAgent_view {uuid4 : UuidSource} {name role status : String}
    {createdByUserId displayName : Option String} {row : Agent}
    (h : t.createAgent uuid4 tenantId applicationId name role status createdByUserId displayName
      = .ok (t', row)) (hne : (otherTenant, otherApp) ≠ (tenantId, applicationId)) :
    SameView otherTenant otherApp t t' := by
  obtain ⟨rfl, -⟩ := Prod.mk.inj (Except.ok.inj h)
  refine { SameView.refl otherTenant otherApp t with agents := filter_append_of_not fun a ha => ?_ }
  obtain rfl := List.mem_singleton.mp ha
  exact agent_not_readBy hne rfl rfl

lemma setAgentRoles_view {agentId : Id} {roleNames : Finset String} {u : Unit} {a : Agent}
    (hc : t.Constraints) (h : t.setAgentRoles agentId roleNames = .ok (t', u))
    (ha : a ∈ t'.agents) (hid : a.id = agentId) (ht : a.tenantId = tenantId)
    (happ : a.applicationId = applicationId)
    (hne : (otherTenant, otherApp) ≠ (tenantId, applicationId)) :
    SameView otherTenant otherApp t t' := by
  rw [setAgentRoles] at h
  split at h
  · obtain ⟨rfl, -⟩ := Prod.mk.inj (Except.ok.inj h)
    exact SameView.refl _ _ _
  · simp only at h
    split at h
    · cases h
    · obtain ⟨rfl, -⟩ := Prod.mk.inj (Except.ok.inj h)
      refine { SameView.refl otherTenant otherApp t with
        agentRoles := fun a' ha' hv i => mem_replace_of_ne fun heq => ?_ }
      rw [List.inj_on_of_nodup_map hc.agentId ha' ha (heq.trans hid.symm)] at hv
      exact agent_not_readBy hne ht happ hv

lemma setTenantPermissionMask_view {permissions : Finset String} {u : Unit}
    (h : t.setTenantPermissionMask tenantId applicationId permissions = .ok (t', u))
    (hne : (otherTenant, otherApp) ≠ (tenantId, applicationId)) :
    SameView otherTenant otherApp t t' := by
  obtain ⟨rfl, -⟩ := Prod.mk.inj (Except.ok.inj h)
  refine { SameView.refl otherTenant otherApp t with masks := fun n => ?_ }
  have hpair : ¬(otherTenant = tenantId ∧ otherApp = applicationId) := fun ⟨ht, happ⟩ =>
    hne (by rw [ht, happ])
  simp only [Finset.mem_union, Finset.mem_filter, Finset.mem_image, TenantPermissionMask.mk.injEq,
    hpair, not_false_eq_true, and_true, or_iff_left_iff_imp]
  rintro ⟨_, -, ht, happ, -⟩
  exact absurd ⟨ht.symm, happ.symm⟩ hpair

lemma setTenantRoleOverride_view {uuid4 : UuidSource} {name : String}
    {permissions : Finset String} {u : Unit} (hc' : t'.Constraints)
    (h : t.setTenantRoleOverride uuid4 tenantId applicationId name permissions = .ok (t', u))
    (hne : (otherTenant, otherApp) ≠ (tenantId, applicationId)) :
    SameView otherTenant otherApp t t' := by
  rw [setTenantRoleOverride] at h
  simp only at h
  split at h
  · cases h
  · obtain ⟨rfl, -⟩ := Prod.mk.inj (Except.ok.inj h)
    obtain ⟨new, hroles, hnew, role, hrole, hid, ht, happ⟩ :=
      t.overrideRole_spec uuid4 tenantId applicationId name
    refine { SameView.refl otherTenant otherApp t with
      roles := ?_
      rolePermissions := fun r hr hv i => mem_replace_of_ne fun heq => ?_ }
    · simp only [hroles]
      exact filter_append_of_not fun r hr => role_not_readBy hne (hnew r hr).1 (hnew r hr).2.1
    · have hnodup := hc'.roleId
      simp only [hroles] at hnodup
      rw [List.inj_on_of_nodup_map hnodup (List.mem_append_left _ hr) hrole (heq.trans hid.symm)]
        at hv
      exact role_not_readBy hne ht happ hv

/-- An owner without a link to the override keeps its links. -/
lemma mem_moveHolders_of_not {links : Multiset (Id × Id)} {overrideId : Id} {default : Option Role}
    {o i : Id} (ho : (o, overrideId) ∉ links) :
    (o, i) ∈ moveHolders links overrideId default ↔ (o, i) ∈ links := by
  constructor
  · intro h
    rcases (of_mem_moveHolders h).2 with h | ⟨_, -, -, h⟩
    · exact h
    · exact absurd h ho
  · intro h
    refine Multiset.mem_filter.mpr ⟨Multiset.mem_add.mpr (Or.inl h), fun heq => ho ?_⟩
    exact heq ▸ h

lemma deleteTenantRoleOverride_view {name : String} {u : Unit} (hc : t.Constraints)
    (hw : t.WellFormed) (h : t.deleteTenantRoleOverride tenantId applicationId name = .ok (t', u))
    (hne : (otherTenant, otherApp) ≠ (tenantId, applicationId)) :
    SameView otherTenant otherApp t t' := by
  rw [deleteTenantRoleOverride] at h
  split at h
  · obtain ⟨rfl, -⟩ := Prod.mk.inj (Except.ok.inj h)
    exact SameView.refl _ _ _
  · rename_i override hoverride
    obtain ⟨rfl, -⟩ := Prod.mk.inj (Except.ok.inj h)
    obtain ⟨hmem, happ, hten, -, -⟩ := of_roleByName hoverride
    have hout := role_not_readBy hne hten happ
    have hrole : ∀ r ∈ t.roles, r.ReadBy otherTenant otherApp → r.id ≠ override.id :=
      fun r hr hv hid => hout (List.inj_on_of_nodup_map hc.roleId hr hmem hid ▸ hv)
    -- whoever holds the override is of its pair
    refine { SameView.refl otherTenant otherApp t with
      roles := ?_
      membershipRoles := fun m hm hv i => mem_moveHolders_of_not fun hlink => hout ?_
      agentRoles := fun a ha hv i => mem_moveHolders_of_not fun hlink => hout ?_
      rolePermissions := fun r hr hv i => ?_ }
    · rw [List.filter_filter]
      refine List.filter_congr fun r hr => ?_
      by_cases hv : r.ReadBy otherTenant otherApp
      · simp [hrole r hr hv]
      · simp [hv]
    · obtain ⟨m', hm', r, hr, hmid, hrid, hmay, hin, -⟩ := hw.membershipLinks _ hlink
      obtain rfl := List.inj_on_of_nodup_map hc.membershipId hm' hm hmid
      obtain rfl := List.inj_on_of_nodup_map hc.roleId hr hmem hrid
      exact ⟨hv.1 ▸ hin, hmay ▸ hv.2⟩
    · obtain ⟨a', ha', r, hr, haid, hrid, hmay, hin, -⟩ := hw.agentLinks _ hlink
      obtain rfl := List.inj_on_of_nodup_map hc.agentId ha' ha haid
      obtain rfl := List.inj_on_of_nodup_map hc.roleId hr hmem hrid
      exact ⟨hv.1 ▸ hin, Or.inl (hmay.trans (congrArg some hv.2))⟩
    · rw [Multiset.mem_filter, and_iff_left (hrole r hr hv)]

/-- A state keeps the view of every other pair. -/
lemma StateInput.view {uuid4 : UuidSource} {tenantSlug : String} {state : TenantState}
    (h : StateInput t uuid4 applicationId tenantSlug state)
    (hc' : (t.stateTables uuid4 applicationId tenantSlug state).Constraints)
    (hne : (otherTenant, otherApp) ≠ (t.stateTenantId uuid4 tenantSlug state, applicationId)) :
    SameView otherTenant otherApp t (t.stateTables uuid4 applicationId tenantSlug state) := by
  have hmemberships : (t.stateTables uuid4 applicationId tenantSlug state).memberships.filter
      (Membership.ReadBy otherTenant otherApp) =
      t.memberships.filter (Membership.ReadBy otherTenant otherApp) := by
    rw [stateTables_memberships, memberTables, h.membersInput.filter_applyMembers
      (fun _ _ => Membership.readBy_congr)
      fun m ht happ => decide_eq_false (membership_not_readBy hne ht happ), tenantTables_eq]
  have hagents : (t.stateTables uuid4 applicationId tenantSlug state).agents.filter
      (Agent.ReadBy otherTenant otherApp) = t.agents.filter (Agent.ReadBy otherTenant otherApp) := by
    rw [stateTables, h.agentsInput.filter_applyAgents (fun _ _ => Agent.readBy_congr)
      fun a ht happ => decide_eq_false (agent_not_readBy hne ht happ), memberTables_eq]
  have hroles : (t.stateTables uuid4 applicationId tenantSlug state).roles.filter
      (Role.ReadBy otherTenant otherApp) = t.roles.filter (Role.ReadBy otherTenant otherApp) := by
    rw [stateTables, applyAgents_tables, memberTables_roles]
    refine filter_append_of_not fun r hr => ?_
    obtain ⟨e, he, -, rfl⟩ := AgentsInput.mem_roleCreates.mp hr
    obtain ⟨ht, happ, -⟩ := h.agentsInput.role_ident _ he
    exact role_not_readBy hne ht happ
  -- no row that an entry is about is in view, and ids are unique after the step
  exact
    { memberships := hmemberships
      roles := hroles
      permissions := by rw [stateTables_eq]
      agents := hagents
      membershipRoles := fun m hm hv i => by
        have hlinks : (t.stateTables uuid4 applicationId tenantSlug state).membershipRoles =
            (t.memberTables uuid4 applicationId tenantSlug state).membershipRoles := by
          rw [stateTables_eq]
        rw [hlinks, memberTables, MembersInput.mem_applyMembers_links fun e he heq => ?_,
          tenantTables_eq]
        have hrow := h.membersInput.mem_applyMembers_memberships.mpr (Or.inl ⟨e, he, rfl⟩)
        rw [← memberTables, ← stateTables_memberships] at hrow
        have hplan := h.membersInput.memberPlanned he
        have hm' := (mem_iff_of_filter_eq hmemberships (decide_eq_true hv)).mpr hm
        rw [List.inj_on_of_nodup_map hc'.membershipId hm' hrow heq] at hv
        exact membership_not_readBy hne hplan.tenant hplan.application hv
      agentRoles := fun a ha hv i => by
        rw [stateTables, AgentsInput.mem_applyAgents_roles fun e he heq => ?_, memberTables_eq]
        have hrow := (h.agentsInput.mem_applyAgents_of_plan
          (t.stateTenantId uuid4 tenantSlug state) he).1
        have hplan := h.agentsInput.agentPlanned
          (t.stateTenantId uuid4 tenantSlug state) he
        have ha' := (mem_iff_of_filter_eq hagents (decide_eq_true hv)).mpr ha
        rw [List.inj_on_of_nodup_map hc'.agentId ha' hrow heq] at hv
        exact agent_not_readBy hne hplan.tenant hplan.application hv
      rolePermissions := fun r hr hv i => by
        rw [stateTables, AgentsInput.mem_applyAgents_permissions fun e he heq => ?_,
          memberTables_eq]
        have hrow := (h.agentsInput.mem_applyAgents_of_plan
          (t.stateTenantId uuid4 tenantSlug state) he).2
        obtain ⟨ht, happ, -⟩ := h.agentsInput.role_ident
          (t.stateTenantId uuid4 tenantSlug state) he
        have hr' := (mem_iff_of_filter_eq hroles (decide_eq_true hv)).mpr hr
        rw [List.inj_on_of_nodup_map hc'.roleId hr' hrow heq] at hv
        exact role_not_readBy hne ht happ hv
      masks := fun n => by rw [stateTables_eq] }

/-! ### All of them -/

/-- The application of a catalog is the one with its slug. -/
lemma catalogApplication_slug (t : Tables) (uuid4 : UuidSource) (slug name : String)
    (managedBy : Option String) :
    ∃ app ∈ (t.catalogApplication uuid4 slug name managedBy).1, app.slug = slug ∧
      app.id = (t.catalogApplication uuid4 slug name managedBy).2 := by
  rw [catalogApplication]
  cases hl : lookup Application.slug t.applications slug with
  | none => exact ⟨_, List.mem_append_right _ (List.mem_singleton_self _), rfl, rfl⟩
  | some app =>
      have hslug : app.slug = slug := key_of_lookup hl
      exact ⟨{ app with name }, mem_update.mpr (Or.inl ⟨rfl, app, mem_of_lookup hl, rfl⟩), hslug,
        rfl⟩

/-- A returning catalog is applied to the application with its slug. -/
lemma applyApplicationCatalog_slug {uuid4 : UuidSource} {slug name : String}
    {permissions : List CatalogPermission} {defaultRoles : List CatalogRole}
    {managedBy : Option String} {result : CatalogResult}
    (h : t.applyApplicationCatalog uuid4 slug name permissions defaultRoles managedBy
      = .ok (t', result)) :
    ∃ app ∈ t'.applications, app.slug = slug ∧ app.id = result.applicationId := by
  rw [applyApplicationCatalog] at h
  simp only at h
  split at h
  · cases h
  · obtain ⟨rfl, rfl⟩ := Prod.mk.inj (Except.ok.inj h)
    exact catalogApplication_slug t uuid4 slug name managedBy

/-- **An operation on the vocabulary of an application** keeps the view of every
pair with another one. -/
theorem vocabulary_view {op : Op} {uuid4 : UuidSource} (hc : t.Constraints)
    (hc' : t'.Constraints) (hf : Fresh uuid4 t (Draw.Within op.size))
    (h : op.tables uuid4 t = .ok t') (hop : op.OnVocabulary t' applicationId)
    (hne : otherApp ≠ applicationId) : SameView otherTenant otherApp t t' := by
  cases op with
  | applyApplicationCatalog slug name permissions defaultRoles managedBy =>
      rw [Op.tables] at h
      obtain ⟨result, h⟩ := map_fst_eq_ok h
      obtain ⟨app, happ, hslug, rfl⟩ := hop
      obtain ⟨app', happ', hslug', hid⟩ := applyApplicationCatalog_slug h
      rw [List.inj_on_of_nodup_map hc'.applicationSlug happ happ' (hslug.trans hslug'.symm), hid]
        at hne
      exact (applyApplicationCatalog_effect hc hf h).view hne
  | setRolePermissions roleId permissionNames =>
      rw [Op.tables] at h
      obtain ⟨_, h⟩ := map_fst_eq_ok h
      obtain ⟨role, hrole, hid, happ⟩ := hop
      exact setRolePermissions_view hc h hrole hid happ hne
  | createPermission name app description =>
      rw [Op.tables] at h
      obtain ⟨_, h⟩ := map_fst_eq_ok h
      obtain rfl : app = some applicationId := hop
      exact createPermission_view h hne
  | createRole name scope app tenant description =>
      rw [Op.tables] at h
      obtain ⟨_, h⟩ := map_fst_eq_ok h
      obtain rfl : app = some applicationId := hop
      exact createRole_view h hne
  | _ => exact False.elim hop

/-- **An operation on a pair** keeps the view of every other pair. -/
theorem pair_view {op : Op} {uuid4 : UuidSource} (hc : t.Constraints) (hw : t.WellFormed)
    (hc' : t'.Constraints) (hf : Fresh uuid4 t (Draw.Within op.size))
    (h : op.tables uuid4 t = .ok t') (hop : op.OnPair t' tenantId applicationId)
    (hne : (otherTenant, otherApp) ≠ (tenantId, applicationId)) :
    SameView otherTenant otherApp t t' := by
  cases op with
  | applyTenantState app slug state =>
      rw [Op.tables] at h
      obtain ⟨_, h⟩ := map_fst_eq_ok h
      obtain ⟨rfl, tenant, htenant, hslug, rfl⟩ := hop
      obtain ⟨hissues, rfl, -⟩ := of_applyTenantState_ok h
      obtain ⟨tenant', htenant', hslug', hid⟩ := exists_stateTenant t uuid4 slug state
      have hmem : tenant' ∈ (t.stateTables uuid4 app slug state).tenants := by
        rw [stateTables_eq]
        exact htenant'
      rw [List.inj_on_of_nodup_map hc'.tenantSlug htenant hmem (hslug.trans hslug'.symm), hid] at hne
      exact (StateInput.of_issues hc hw hf hissues).view hc' hne
  | setTenantRoleOverride tenant app name permissions =>
      rw [Op.tables] at h
      obtain ⟨_, h⟩ := map_fst_eq_ok h
      obtain ⟨rfl, rfl⟩ := hop
      exact setTenantRoleOverride_view hc' h hne
  | deleteTenantRoleOverride tenant app name =>
      rw [Op.tables] at h
      obtain ⟨_, h⟩ := map_fst_eq_ok h
      obtain ⟨rfl, rfl⟩ := hop
      exact deleteTenantRoleOverride_view hc hw h hne
  | createMembership tenant app userId status roles =>
      rw [Op.tables] at h
      obtain ⟨_, h⟩ := map_fst_eq_ok h
      obtain ⟨rfl, rfl⟩ := hop
      exact createMembership_view hf h hne
  | setMembershipRoles membershipId roleNames =>
      rw [Op.tables] at h
      obtain ⟨_, h⟩ := map_fst_eq_ok h
      obtain ⟨m, hm, hid, ht, happ⟩ := hop
      exact setMembershipRoles_view hc h hm hid ht happ hne
  | setMembershipStatus membershipId status =>
      rw [Op.tables] at h
      obtain ⟨_, h⟩ := map_fst_eq_ok h
      obtain ⟨m, hm, hid, ht, happ⟩ := hop
      exact setMembershipStatus_view hc h hm hid ht happ hne
  | createAgent tenant app name role status createdByUserId displayName =>
      rw [Op.tables] at h
      obtain ⟨_, h⟩ := map_fst_eq_ok h
      obtain ⟨rfl, rfl⟩ := hop
      exact createAgent_view h hne
  | setAgentRoles agentId roleNames =>
      rw [Op.tables] at h
      obtain ⟨_, h⟩ := map_fst_eq_ok h
      obtain ⟨a, ha, hid, ht, happ⟩ := hop
      exact setAgentRoles_view hc h ha hid ht happ hne
  | setTenantPermissionMask tenant app permissions =>
      rw [Op.tables] at h
      obtain ⟨_, h⟩ := map_fst_eq_ok h
      obtain ⟨rfl, rfl⟩ := hop
      exact setTenantPermissionMask_view h hne
  | _ => exact False.elim hop

/-! ### Tenants and users -/

/-- The tenants, users and identities that were there stay as they are. -/
structure SameDirectory (t t' : Tables) : Prop where
  tenants : t.tenants ⊆ t'.tenants
  users : t.users ⊆ t'.users
  identities : t.externalIdentities ⊆ t'.externalIdentities

lemma SameDirectory.of_eq (ht : t'.tenants = t.tenants) (hu : t'.users = t.users)
    (hi : t'.externalIdentities = t.externalIdentities) : SameDirectory t t' :=
  ⟨ht ▸ List.Subset.refl _, hu ▸ List.Subset.refl _, hi ▸ List.Subset.refl _⟩

/-- A state adds tenants, users and identities only. -/
lemma stateTables_directory {uuid4 : UuidSource} {tenantSlug : String} {state : TenantState} :
    SameDirectory t (t.stateTables uuid4 applicationId tenantSlug state) := by
  rw [stateTables_eq]
  refine ⟨?_, ?_, ?_⟩
  · rcases stateTenant_cases t uuid4 tenantSlug state
      with ⟨-, -, -, htab, -⟩ | ⟨-, -, htab⟩
    · rw [htab]
      exact List.Subset.refl _
    · rw [htab]
      exact List.subset_append_left _ _
  · rw [memberTables, applyMembers_tables, tenantTables_eq]
    exact List.subset_append_left _ _
  · rw [memberTables, applyMembers_tables, tenantTables_eq]
    exact List.subset_append_left _ _

/-- **An operation on a vocabulary or a pair** keeps the tenants and users. -/
theorem directory_of_scoped {op : Op} {uuid4 : UuidSource} (hc : t.Constraints)
    (hf : Fresh uuid4 t (Draw.Within op.size)) (h : op.tables uuid4 t = .ok t')
    (hop : op.OnVocabulary t' applicationId ∨ op.OnPair t' tenantId applicationId) :
    SameDirectory t t' := by
  cases op with
  | applyApplicationCatalog slug name permissions defaultRoles managedBy =>
      rw [Op.tables] at h
      obtain ⟨_, h⟩ := map_fst_eq_ok h
      have heffect := applyApplicationCatalog_effect hc hf h
      exact SameDirectory.of_eq heffect.tenants heffect.users heffect.externalIdentities
  | setRolePermissions roleId permissionNames =>
      rw [Op.tables] at h
      obtain ⟨_, h⟩ := map_fst_eq_ok h
      rw [setRolePermissions] at h
      split at h
      · obtain ⟨rfl, -⟩ := Prod.mk.inj (Except.ok.inj h)
        exact SameDirectory.of_eq rfl rfl rfl
      · simp only at h
        split at h
        · cases h
        · obtain ⟨rfl, -⟩ := Prod.mk.inj (Except.ok.inj h)
          exact SameDirectory.of_eq rfl rfl rfl
  | createPermission name app description =>
      rw [Op.tables] at h
      obtain ⟨_, h⟩ := map_fst_eq_ok h
      rw [createPermission] at h
      split at h
      · cases h
      · obtain ⟨rfl, -⟩ := Prod.mk.inj (Except.ok.inj h)
        exact SameDirectory.of_eq rfl rfl rfl
  | createRole name scope app tenant description =>
      obtain rfl := Except.ok.inj h
      exact SameDirectory.of_eq rfl rfl rfl
  | applyTenantState app slug state =>
      rw [Op.tables] at h
      obtain ⟨_, h⟩ := map_fst_eq_ok h
      obtain ⟨-, rfl, -⟩ := of_applyTenantState_ok h
      exact stateTables_directory
  | setTenantRoleOverride tenant app name permissions =>
      rw [Op.tables] at h
      obtain ⟨_, h⟩ := map_fst_eq_ok h
      rw [setTenantRoleOverride] at h
      simp only at h
      split at h
      · cases h
      · obtain ⟨rfl, -⟩ := Prod.mk.inj (Except.ok.inj h)
        exact SameDirectory.of_eq rfl rfl rfl
  | deleteTenantRoleOverride tenant app name =>
      rw [Op.tables] at h
      obtain ⟨_, h⟩ := map_fst_eq_ok h
      rw [deleteTenantRoleOverride] at h
      split at h
      · obtain ⟨rfl, -⟩ := Prod.mk.inj (Except.ok.inj h)
        exact SameDirectory.of_eq rfl rfl rfl
      · obtain ⟨rfl, -⟩ := Prod.mk.inj (Except.ok.inj h)
        exact SameDirectory.of_eq rfl rfl rfl
  | createMembership tenant app userId status roles =>
      rw [Op.tables] at h
      obtain ⟨_, h⟩ := map_fst_eq_ok h
      rw [createMembership] at h
      simp only [Except.ok.injEq, Prod.mk.injEq] at h
      obtain ⟨rfl, -⟩ := h
      split
      · exact SameDirectory.of_eq rfl rfl rfl
      · exact SameDirectory.of_eq rfl rfl rfl
  | setMembershipRoles membershipId roleNames =>
      rw [Op.tables] at h
      obtain ⟨_, h⟩ := map_fst_eq_ok h
      rw [setMembershipRoles] at h
      split at h
      · obtain ⟨rfl, -⟩ := Prod.mk.inj (Except.ok.inj h)
        exact SameDirectory.of_eq rfl rfl rfl
      · obtain ⟨rfl, -⟩ := Prod.mk.inj (Except.ok.inj h)
        exact SameDirectory.of_eq rfl rfl rfl
  | setMembershipStatus membershipId status =>
      rw [Op.tables] at h
      obtain ⟨_, h⟩ := map_fst_eq_ok h
      rw [setMembershipStatus] at h
      split at h
      · cases h
      · obtain ⟨rfl, -⟩ := Prod.mk.inj (Except.ok.inj h)
        exact SameDirectory.of_eq rfl rfl rfl
  | createAgent tenant app name role status createdByUserId displayName =>
      obtain rfl := Except.ok.inj h
      exact SameDirectory.of_eq rfl rfl rfl
  | setAgentRoles agentId roleNames =>
      rw [Op.tables] at h
      obtain ⟨_, h⟩ := map_fst_eq_ok h
      rw [setAgentRoles] at h
      split at h
      · obtain ⟨rfl, -⟩ := Prod.mk.inj (Except.ok.inj h)
        exact SameDirectory.of_eq rfl rfl rfl
      · simp only at h
        split at h
        · cases h
        · obtain ⟨rfl, -⟩ := Prod.mk.inj (Except.ok.inj h)
          exact SameDirectory.of_eq rfl rfl rfl
  | setTenantPermissionMask tenant app permissions =>
      obtain rfl := Except.ok.inj h
      exact SameDirectory.of_eq rfl rfl rfl
  | _ => exact (hop.elim id id).elim

end Tables

namespace SqlAlchemyStore

/-- **Writes stay inside their application and tenant.** In every reachable store, an
operation on the vocabulary of an application changes no read of a pair with another
one, an operation on a pair changes no read of another pair, and neither changes a
tenant, user or identity that is there. -/
theorem Reachable.isolation {s : SqlAlchemyStore} (h : s.Reachable) {op : Op} {uuid4 : UuidSource}
    (hf : Fresh uuid4 s.tables (Draw.Within op.size)) :
    let t' := (s.next op uuid4).tables
    (∀ applicationId, op.OnVocabulary t' applicationId →
      ∀ otherTenant otherApp, otherApp ≠ applicationId →
        Tables.SameReads otherTenant otherApp s.tables t') ∧
    (∀ tenantId applicationId, op.OnPair t' tenantId applicationId →
      ∀ otherTenant otherApp, (otherTenant, otherApp) ≠ (tenantId, applicationId) →
        Tables.SameReads otherTenant otherApp s.tables t') ∧
    (∀ tenantId applicationId,
      op.OnVocabulary t' applicationId ∨ op.OnPair t' tenantId applicationId →
        (∀ tenant ∈ s.tables.tenants, tenant ∈ t'.tenants) ∧
        (∀ user ∈ s.tables.users, user ∈ t'.users) ∧
        ∀ i ∈ s.tables.externalIdentities, i ∈ t'.externalIdentities) := by
  intro t'
  have hw := h.wellFormed
  have hw' : (s.next op uuid4).tables.WellFormed :=
    Reachable.wellFormed (Machine.Reachable.step (i := (op, uuid4)) h ⟨hf, rfl⟩)
  have hc' := (s.next op uuid4).constraints
  -- a call that raises changes nothing
  have hstep : s.next op uuid4 = s ∨ op.tables uuid4 s.tables = .ok t' := by
    simp only [t', next]
    cases hp : s.perform op uuid4 with
    | error e => exact Or.inl rfl
    | ok s' => exact Or.inr (perform_eq_ok_iff.mp hp).2
  rcases hstep with hsame | htables
  · simp only [t', hsame]
    exact ⟨fun _ _ _ _ _ => Tables.SameReads.refl _ _ _, fun _ _ _ _ _ _ =>
      Tables.SameReads.refl _ _ _, fun _ _ _ => ⟨fun _ h => h, fun _ h => h, fun _ h => h⟩⟩
  · refine ⟨fun B hop T A hne => ?_, fun T' B hop T A hne => ?_, fun T B hop => ?_⟩
    · exact (Tables.vocabulary_view s.constraints hc' hf htables hop hne).reads s.constraints hw
        hc' hw'
    · exact (Tables.pair_view s.constraints hw hc' hf htables hop hne).reads s.constraints hw hc' hw'
    · have hdir := Tables.directory_of_scoped s.constraints hf htables hop
      exact ⟨hdir.tenants, hdir.users, hdir.identities⟩

/-- A catalog of a new application with the permission and role names of an old one
leaves the reads of the old one. -/
theorem isolation_acme :
    let op := Op.applyApplicationCatalog "erp" "ERP" [⟨"deal.read", none, false⟩]
      [⟨"viewer", none, []⟩] none
    let s' := acmeStore.next op (sampleIds 5)
    s'.tables.permissions.length = 2 ∧
      Tables.SameReads (sampleIds 0 .row) (sampleIds 1 .application) acmeStore.tables s'.tables := by
  intro op s'
  have hf : Fresh (sampleIds 5) acmeStore.tables (Draw.Within op.size) := by decide +kernel
  have hop : op.OnVocabulary s'.tables (sampleIds 5 .application) :=
    show ∃ app ∈ s'.tables.applications, app.slug = "erp" ∧ app.id = sampleIds 5 .application by
      decide +kernel
  exact ⟨by decide +kernel, (acmeStore_reachable.isolation hf).1 _ hop _ _ (by decide +kernel)⟩

end SqlAlchemyStore

end AuthzKit
