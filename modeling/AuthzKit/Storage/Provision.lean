import AuthzKit.Storage.Counts
import AuthzKit.Storage.Invariant

/-!
`apply_tenant_state` over whole runs.

* `StateApplied`: what a returning call leaves behind.
* `StateInput.applied`: a valid state whose tables the database accepts is applied;
  `StateInput.again`: applying it again changes nothing.
* `Reachable.applyTenantState_spec`: all or nothing, and what is reported.
* `Reachable.applyTenantState_returns_iff`: when a state that passes the validation is
  applied. An internal role may need a name that a role created by hand has taken.
-/

namespace AuthzKit

open Keyed Links

namespace Tables

variable {t t' : Tables} {tenantId applicationId : Id}

/-! ### Names before and after -/

/-- Named roles decide what role names resolve to. -/
lemma resolveRole_congr
    (h : t'.roles.filter (fun r => r.agentId = none) = t.roles.filter fun r => r.agentId = none)
    (tenantId applicationId : Id) (n : String) :
    t'.resolveRole tenantId applicationId n = t.resolveRole tenantId applicationId n := by
  have hnamed : ∀ a b : Option Id, t'.namedRoles a b = t.namedRoles a b := fun a b =>
    filter_eq_of_filter_eq h fun r hr => by
      simp only [decide_eq_true_eq] at hr ⊢
      exact hr.2.2
  simp only [resolveRole, roleByName, hnamed]

/-- A requested permission name is looked up among the active permissions. -/
lemma lookup_activePermissions (hc : t.Constraints) {names : Finset String} {n : String}
    (hn : n ∈ names) {q : Permission} :
    lookup Permission.name (t.activePermissions (some applicationId) names) n = some q ↔
      q ∈ t.permissions ∧ q.applicationId = some applicationId ∧ q.active = true ∧ q.name = n := by
  have hfound : ∀ q', lookup Permission.name (t.activePermissions (some applicationId) names) n =
      some q' → q' ∈ t.permissions ∧ q'.applicationId = some applicationId ∧ q'.active = true ∧
        q'.name = n := fun q' hq' => by
    obtain ⟨hmem, happ, hactive, -⟩ := of_mem_activePermissions (mem_of_lookup hq')
    exact ⟨hmem, happ, hactive, key_of_lookup hq'⟩
  constructor
  · exact hfound q
  · rintro ⟨hmem, happ, hactive, rfl⟩
    cases hl : lookup Permission.name (t.activePermissions (some applicationId) names) q.name with
    | none =>
        have hkey : q.name ∈ (t.activePermissions (some applicationId) names).map Permission.name :=
          mem_keys_ofList.mpr (List.mem_map_of_mem (List.mem_filter.mpr
            ⟨hmem, decide_eq_true ⟨happ, hactive, hn⟩⟩))
        obtain ⟨q', hq', hname⟩ := List.mem_map.mp hkey
        exact absurd hname (lookup_eq_none_iff.mp hl q' hq')
    | some q' =>
        obtain ⟨hmem', happ', -, hname'⟩ := hfound q' hl
        rw [hc.permissionName.eq_of_key hmem' hmem (k := (applicationId, q.name))
          (by simp [Permission.nameKey, happ', hname']) (by simp [Permission.nameKey, happ])]

/-- Matching is about the rows of memberships, their links and what names resolve
to. -/
lemma MembersMatch.congr {members : List DesiredMember}
    (h : MembersMatch t tenantId applicationId members) (hm : t'.memberships = t.memberships)
    (hi : t'.externalIdentities = t.externalIdentities)
    (hl : t'.membershipRoles = t.membershipRoles)
    (hr : ∀ n, t'.resolveRole tenantId applicationId n = t.resolveRole tenantId applicationId n) :
    MembersMatch t' tenantId applicationId members where
  listed := by simpa only [hm, hi, hl, hr] using h.listed
  unlisted := by simpa only [hm, hi, ListedMember] using h.unlisted

/-! ### What a returning call leaves behind -/

/-- What a returning `apply_tenant_state` leaves behind. -/
structure StateApplied (t t' : Tables) (applicationId : Id) (tenantSlug : String)
    (state : TenantState) (result : TenantStateResult) : Prop where
  tenant : ∃ tenant ∈ t'.tenants, tenant.slug = tenantSlug ∧ tenant.id = result.tenantId
  members : MembersMatch t' result.tenantId applicationId state.members
  roleNames : ∀ n, t'.resolveRole result.tenantId applicationId n =
    t.resolveRole result.tenantId applicationId n
  agents : AgentsMatch t' result.tenantId applicationId state.agents
  agentPermissions : ∀ d ∈ state.agents, ∀ a ∈ t'.agents, a.tenantId = result.tenantId →
    a.applicationId = applicationId → a.name = d.name →
      t'.resolveAgentPermissions result.tenantId applicationId a.id = d.permissions.toFinset
  memberLinks : ∀ m ∈ t'.memberships, m.tenantId = result.tenantId →
    m.applicationId = some applicationId → ¬t'.ListedMember state.members m →
      ∀ j, (m.id, j) ∈ t'.membershipRoles ↔ (m.id, j) ∈ t.membershipRoles
  agentLinks : ∀ a ∈ t'.agents, a.tenantId = result.tenantId → a.applicationId = applicationId →
    a.name ∉ state.agents.map DesiredAgent.name →
      (∀ j, (a.id, j) ∈ t'.agentRoles ↔ (a.id, j) ∈ t.agentRoles) ∧
        ∀ r ∈ t'.roles, r.agentId = some a.id →
          ∀ j, (r.id, j) ∈ t'.rolePermissions ↔ (r.id, j) ∈ t.rolePermissions
  membershipsKept : Keeps Membership.ident t.memberships t'.memberships
  agentsKept : Keeps Agent.ident t.agents t'.agents
  tenants : t.tenants <+: t'.tenants
  users : t.users <+: t'.users
  identities : t.externalIdentities <+: t'.externalIdentities
  memberCounts : result.members = t.memberCounts t' result.tenantId applicationId state.members
  agentCounts : result.agents = t.agentCounts t' result.tenantId applicationId state.agents

namespace StateInput

variable {uuid4 uuid4' : UuidSource} {tenantSlug : String} {state : TenantState}

/-- The role names of the members are looked up as in the tables of the step. -/
lemma lookup_stateRoleRows (h : StateInput t uuid4 applicationId tenantSlug state) :
    ∀ d ∈ state.members, ∀ n ∈ d.roles,
      lookup Role.name (t.stateRoleRows applicationId tenantSlug state) n =
        (t.tenantTables uuid4 tenantSlug state).resolveRole (t.stateTenantId uuid4 tenantSlug state)
          applicationId n := by
  intro d hd n hn
  have hn' : n ∈ (state.members.flatMap DesiredMember.roles).toFinset := by
    simpa using ⟨d, hd, hn⟩
  have hroles : (t.tenantTables uuid4 tenantSlug state).resolveRole
      (t.stateTenantId uuid4 tenantSlug state) applicationId n =
      t.resolveRole (t.stateTenantId uuid4 tenantSlug state) applicationId n :=
    resolveRole_congr (by rw [tenantTables_eq]) _ _ _
  rw [hroles, stateRoleRows]
  rcases stateTenant_cases t uuid4 tenantSlug state with
    ⟨tenant, hmem, hslug, -, hid⟩ | ⟨hslug, hid, -⟩
  · rw [(lookup_slug_iff h.constraints).mpr ⟨hmem, hslug⟩, hid]
    exact lookup_assignableRoles_eq h.constraints hn'
  · -- a new tenant has no roles of its own
    have hnone : lookup Tenant.slug t.tenants tenantSlug = none := lookup_eq_none_iff.mpr hslug
    have hown : t.roleByName (some applicationId) (some (t.stateTenantId uuid4 tenantSlug state)) n =
        none := lookup_eq_none_iff.mpr fun r hr _ => by
      obtain ⟨hr, -, hten, -⟩ := of_mem_namedRoles hr
      rw [hid] at hten
      exact ((h.fresh.unused .tenant (Nat.zero_le _)).roles r hr).2.1 hten
    have hempty : (t.roles.filter fun r => r.applicationId = some applicationId ∧ r.agentId = none ∧
        r.tenantId = (none : Option Id) ∧ r.tenantId ≠ none ∧ r.name = n) = [] :=
      List.filter_eq_nil_iff.mpr fun r _ hcond =>
        (of_decide_eq_true hcond).2.2.2.1 (of_decide_eq_true hcond).2.2.1
    rw [hnone, Option.map_none, lookup_assignableRoles hn', hempty, resolveRole, hown]
    rfl

/-- The permission names of the agents are looked up as in the tables of the step. -/
lemma lookup_statePermRows (h : StateInput t uuid4 applicationId tenantSlug state) :
    ∀ d ∈ state.agents, ∀ n ∈ d.permissions, ∀ q,
      lookup Permission.name (t.statePermRows applicationId state) n = some q ↔
        q ∈ (t.memberTables uuid4 applicationId tenantSlug state).permissions ∧
          q.applicationId = some applicationId ∧ q.active = true ∧ q.name = n := by
  intro d hd n hn q
  rw [statePermRows, lookup_activePermissions h.constraints (by simpa using ⟨d, hd, hn⟩),
    memberTables_eq]

/-- Only internal roles are added. -/
lemma resolveRole_stateTables (h : StateInput t uuid4 applicationId tenantSlug state)
    (tenantId : Id) (n : String) :
    (t.stateTables uuid4 applicationId tenantSlug state).resolveRole tenantId applicationId n =
      t.resolveRole tenantId applicationId n := by
  refine resolveRole_congr ?_ _ _ _
  rw [stateTables, applyAgents_tables, memberTables_roles]
  refine filter_append_of_not fun r hr => ?_
  obtain ⟨e, he, -, rfl⟩ := AgentsInput.mem_roleCreates.mp hr
  obtain ⟨-, -, -, hagent⟩ := h.agentsInput.role_ident
    (t.stateTenantId uuid4 tenantSlug state) he
  simp [hagent]

/-- The listed references denote the same users after the last step. -/
lemma listedMember_stateTables {m : Membership} :
    (t.stateTables uuid4 applicationId tenantSlug state).ListedMember state.members m ↔
      (t.memberTables uuid4 applicationId tenantSlug state).ListedMember state.members m := by
  rw [ListedMember, ListedMember, stateTables_eq]

/-- The counts of a call are the differences between the tables. -/
lemma stateResult_eq (h : StateInput t uuid4 applicationId tenantSlug state)
    (hc' : (t.stateTables uuid4 applicationId tenantSlug state).Constraints) :
    t.stateResult uuid4 applicationId tenantSlug state =
      { tenantId := t.stateTenantId uuid4 tenantSlug state
        members := t.memberCounts (t.stateTables uuid4 applicationId tenantSlug state)
          (t.stateTenantId uuid4 tenantSlug state) applicationId state.members
        agents := t.agentCounts (t.stateTables uuid4 applicationId tenantSlug state)
          (t.stateTenantId uuid4 tenantSlug state) applicationId state.agents } := by
  have hmembers := h.membersInput.counts_eq
  have hagents := h.agentsInput.counts_eq (t.stateTenantId uuid4 tenantSlug state) hc'
  rw [← memberTables] at hmembers
  rw [← stateTables] at hagents
  have hm : (t.tenantTables uuid4 tenantSlug state).memberCounts
      (t.memberTables uuid4 applicationId tenantSlug state)
      (t.stateTenantId uuid4 tenantSlug state) applicationId state.members =
      t.memberCounts (t.stateTables uuid4 applicationId tenantSlug state)
        (t.stateTenantId uuid4 tenantSlug state) applicationId state.members := by
    rw [stateTables_eq, tenantTables_eq]
    rfl
  have ha : (t.memberTables uuid4 applicationId tenantSlug state).agentCounts
      (t.stateTables uuid4 applicationId tenantSlug state)
      (t.stateTenantId uuid4 tenantSlug state) applicationId state.agents =
      t.agentCounts (t.stateTables uuid4 applicationId tenantSlug state)
        (t.stateTenantId uuid4 tenantSlug state) applicationId state.agents := by
    rw [memberTables_eq]
    rfl
  rw [stateResult, hmembers, hagents, hm, ha]

/-- **A valid state is applied**, if the database accepts the tables. -/
theorem applied (h : StateInput t uuid4 applicationId tenantSlug state)
    (hc' : (t.stateTables uuid4 applicationId tenantSlug state).Constraints) :
    StateApplied t (t.stateTables uuid4 applicationId tenantSlug state) applicationId tenantSlug
      state (t.stateResult uuid4 applicationId tenantSlug state) := by
  have hresult := h.stateResult_eq hc'
  have hmembers : MembersMatch (t.memberTables uuid4 applicationId tenantSlug state)
      (t.stateTenantId uuid4 tenantSlug state) applicationId state.members :=
    h.membersInput.matches_after h.lookup_stateRoleRows
  have hagents : AgentsMatch (t.stateTables uuid4 applicationId tenantSlug state)
      (t.stateTenantId uuid4 tenantSlug state) applicationId state.agents :=
    h.agentsInput.matches_after h.lookup_statePermRows
  have hmemberRoles : ∀ n, (t.memberTables uuid4 applicationId tenantSlug state).resolveRole
      (t.stateTenantId uuid4 tenantSlug state) applicationId n =
      t.resolveRole (t.stateTenantId uuid4 tenantSlug state) applicationId n := fun n =>
    resolveRole_congr (by rw [memberTables_roles]) _ _ _
  have hmemberLinks : (t.stateTables uuid4 applicationId tenantSlug state).membershipRoles =
      (t.memberTables uuid4 applicationId tenantSlug state).membershipRoles := by
    rw [stateTables_eq]
  have hactive : ∀ d ∈ state.agents, ∀ n ∈ d.permissions,
      (t.stateTables uuid4 applicationId tenantSlug state).PermissionActive applicationId n := by
    intro d hd n hn
    rw [PermissionActive, stateTables_eq]
    exact h.permission_active hd hn
  have htables : (t.tenantTables uuid4 tenantSlug state).membershipRoles = t.membershipRoles := by
    rw [tenantTables_eq]
  have hrolesTable : (t.memberTables uuid4 applicationId tenantSlug state).agentRoles =
      t.agentRoles ∧ (t.memberTables uuid4 applicationId tenantSlug state).rolePermissions =
      t.rolePermissions := by
    rw [memberTables_eq]
    exact ⟨rfl, rfl⟩
  exact
    { tenant := by
        obtain ⟨tenant, hmem, hslug, hid⟩ := exists_stateTenant t uuid4 tenantSlug state
        refine ⟨tenant, ?_, hslug, hid⟩
        rw [stateTables_eq]
        exact hmem
      members := hmembers.congr stateTables_memberships (by rw [stateTables_eq]) hmemberLinks
        fun n => (h.resolveRole_stateTables _ n).trans (hmemberRoles n).symm
      roleNames := fun n => h.resolveRole_stateTables _ n
      agents := hagents
      agentPermissions := fun d hd a ha ht happ hname =>
        hagents.resolveAgentPermissions_eq hc' h.wellFormed_after hd (hactive d hd) ha ht happ hname
      memberLinks := fun m hm ht happ hlisted j => by
        rw [stateTables_memberships] at hm
        rw [listedMember_stateTables] at hlisted
        rw [hmemberLinks, memberTables, MembersInput.mem_applyMembers_links fun e he =>
          h.membersInput.plan_id_ne hm hlisted he, htables]
      agentLinks := fun a ha ht happ hname => by
        have hne : ∀ e ∈ state.agents.zipIdx, a.id ≠
            ((t.memberTables uuid4 applicationId tenantSlug state).agentPlan uuid4
              (t.stateTenantId uuid4 tenantSlug state) applicationId
              (t.statePermRows applicationId state) e).agent.id := fun e he heq => by
          have hrow := (h.agentsInput.mem_applyAgents_of_plan
            (t.stateTenantId uuid4 tenantSlug state) he).1
          refine hname (List.mem_map.mpr ⟨e.1, AgentsInput.mem_agents_of_entry he, ?_⟩)
          rw [List.inj_on_of_nodup_map hc'.agentId ha hrow heq, (h.agentsInput.agentPlanned _ he).name]
        refine ⟨fun j => ?_, fun r hr hagent j => ?_⟩
        · rw [stateTables, AgentsInput.mem_applyAgents_roles hne, hrolesTable.1]
        · rw [stateTables, AgentsInput.mem_applyAgents_permissions fun e he heq => ?_,
            hrolesTable.2]
          have hrole := (h.agentsInput.mem_applyAgents_of_plan
            (t.stateTenantId uuid4 tenantSlug state) he).2
          rw [List.inj_on_of_nodup_map hc'.roleId hr hrole heq,
            (h.agentsInput.role_ident (t.stateTenantId uuid4 tenantSlug state) he).2.2.2]
            at hagent
          exact hne e he (Option.some.inj hagent).symm
      membershipsKept := by
        have hkeeps := h.membersInput.evolves.memberships
        rw [← memberTables, ← stateTables_memberships, tenantTables_eq] at hkeeps
        exact hkeeps
      agentsKept := by
        have hkeeps := (h.agentsInput.evolves
          (t.stateTenantId uuid4 tenantSlug state)).agents
        rw [← stateTables, memberTables_eq] at hkeeps
        exact hkeeps
      tenants := by
        rw [stateTables_eq]
        rcases stateTenant_cases t uuid4 tenantSlug state with ⟨-, -, -, htab, -⟩ | ⟨-, -, htab⟩
        · rw [htab]
        · rw [htab]
          exact List.prefix_append _ _
      users := by
        rw [stateTables_eq, memberTables, applyMembers_tables, tenantTables_eq]
        exact List.prefix_append _ _
      identities := by
        rw [stateTables_eq, memberTables, applyMembers_tables, tenantTables_eq]
        exact List.prefix_append _ _
      memberCounts := by rw [hresult]
      agentCounts := by rw [hresult] }

/-! ### A second time -/

/-- What is wrong with a state after it was applied was wrong before. -/
lemma violates_stateTables {v : Violation}
    (h : (t.stateTables uuid4 applicationId tenantSlug state).Violates applicationId tenantSlug state
      v) : t.Violates applicationId tenantSlug state v := by
  have hrole : ∀ n, t.RoleResolves applicationId tenantSlug n →
      (t.stateTables uuid4 applicationId tenantSlug state).RoleResolves applicationId tenantSlug n := by
    rintro n ⟨r, hr, happ, hname, hagent, hten⟩
    refine ⟨r, ?_, happ, hname, hagent, hten.imp_right fun ⟨tenant, hmem, hslug, hid⟩ =>
      ⟨tenant, ?_, hslug, hid⟩⟩
    · rw [stateTables, applyAgents_tables, memberTables_roles]
      exact List.mem_append_left _ hr
    · rw [stateTables_eq]
      rcases stateTenant_cases t uuid4 tenantSlug state with ⟨-, -, -, htab, -⟩ | ⟨-, -, htab⟩
      · rw [htab]
        exact hmem
      · rw [htab]
        exact List.mem_append_left _ hmem
  cases v with
  | memberRole i j =>
      obtain ⟨m, hm, n, hn, hnot⟩ := h
      exact ⟨m, hm, n, hn, fun hres => hnot (hrole n hres)⟩
  | agentPermission i j =>
      obtain ⟨a, ha, n, hn, hnot⟩ := h
      rw [PermissionActive, stateTables_eq] at hnot
      exact ⟨a, ha, n, hn, hnot⟩
  | tenantStatus => exact h
  | memberRepeated i => exact h
  | memberStatus i => exact h
  | agentRepeated i => exact h
  | agentStatus i => exact h

/-- Where the state matches already, the tables stay as they are. -/
lemma stateTables_eq_self (h : StateInput t uuid4 applicationId tenantSlug state) {tenant : Tenant}
    (hmem : tenant ∈ t.tenants) (hslug : tenant.slug = tenantSlug)
    (hmembers : MembersMatch t tenant.id applicationId state.members)
    (hagents : AgentsMatch t tenant.id applicationId state.agents) :
    t.stateTables uuid4 applicationId tenantSlug state = t ∧
      t.stateTenantId uuid4 tenantSlug state = tenant.id := by
  rcases stateTenant_cases t uuid4 tenantSlug state with
    ⟨tenant', hmem', hslug', htab, hid⟩ | ⟨hnone, -⟩
  · obtain rfl := List.inj_on_of_nodup_map h.constraints.tenantSlug hmem' hmem
      (hslug'.trans hslug.symm)
    have hinput := h.membersInput
    have hrows := h.lookup_stateRoleRows
    rw [htab, hid] at hinput hrows
    have hmemberTables : t.memberTables uuid4 applicationId tenantSlug state = t := by
      rw [memberTables, htab, hid]
      exact hinput.unchanged hrows hmembers
    have hinput' := h.agentsInput
    have hrows' := h.lookup_statePermRows
    rw [hmemberTables] at hinput' hrows'
    refine ⟨?_, hid⟩
    rw [stateTables, hmemberTables, hid]
    exact hinput'.unchanged hrows' hagents
  · exact absurd hslug (hnone tenant hmem)

/-- **Applying a state again changes nothing**, and nothing is counted. -/
theorem again (h : StateInput t uuid4 applicationId tenantSlug state)
    (hc' : (t.stateTables uuid4 applicationId tenantSlug state).Constraints)
    (hf : Fresh uuid4' (t.stateTables uuid4 applicationId tenantSlug state)
      (Draw.Within (max state.members.length state.agents.length))) :
    (t.stateTables uuid4 applicationId tenantSlug state).applyTenantState uuid4' applicationId
        tenantSlug state =
      .ok (t.stateTables uuid4 applicationId tenantSlug state,
        ⟨t.stateTenantId uuid4 tenantSlug state, ⟨0, 0, 0⟩, ⟨0, 0, 0⟩⟩) := by
  have happlied := h.applied hc'
  have hvalid : ∀ v, ¬(t.stateTables uuid4 applicationId tenantSlug state).Violates applicationId
      tenantSlug state v := fun v hv => h.valid v (violates_stateTables hv)
  have h' : StateInput (t.stateTables uuid4 applicationId tenantSlug state) uuid4' applicationId
      tenantSlug state := ⟨hc', h.wellFormed_after, hf, hvalid⟩
  obtain ⟨tenant, hmem, hslug, hid⟩ := happlied.tenant
  obtain ⟨hself, htenant⟩ := h'.stateTables_eq_self hmem hslug (hid.symm ▸ happlied.members)
    (hid.symm ▸ happlied.agents)
  have hissues : tenantStateIssues state
      ((t.stateTables uuid4 applicationId tenantSlug state).stateRoleRows applicationId tenantSlug
        state)
      ((t.stateTables uuid4 applicationId tenantSlug state).statePermRows applicationId state) =
      [] := by
    obtain ⟨vs, hvs, -, hv⟩ := stateIssues_report hc' applicationId tenantSlug state
    rw [hvs, List.map_eq_nil_iff, List.eq_nil_iff_forall_not_mem]
    exact fun v hmem => hvalid v ((hv v).mp hmem)
  rw [applyTenantState_eq hissues, h'.stateResult_eq (hself.symm ▸ hc'), hself, htenant, hid,
    memberCounts_self, agentCounts_self]
  rfl

end StateInput

end Tables

namespace SqlAlchemyStore

/-- `apply_tenant_state` as one transaction. -/
def applyTenantState (s : SqlAlchemyStore) (uuid4 : UuidSource) (applicationId : Id)
    (tenantSlug : String) (state : TenantState) :
    Except StoreError (SqlAlchemyStore × TenantStateResult) :=
  s.transaction fun t => t.applyTenantState uuid4 applicationId tenantSlug state

variable {s s' : SqlAlchemyStore} {uuid4 : UuidSource} {applicationId : Id} {tenantSlug : String}
  {state : TenantState}

/-- The problems `_validate_tenant_state` finds in a store. -/
def tenantStateIssues (s : SqlAlchemyStore) (applicationId : Id) (tenantSlug : String)
    (state : TenantState) : List ProvisioningIssue :=
  AuthzKit.tenantStateIssues state (s.tables.stateRoleRows applicationId tenantSlug state)
    (s.tables.statePermRows applicationId state)

/-- A call raises `ProvisioningError` exactly when the validation finds problems, and
with these. -/
lemma applyTenantState_provisioningError_iff {issues : List ProvisioningIssue} :
    s.applyTenantState uuid4 applicationId tenantSlug state = .error (.provisioningError issues) ↔
      issues ≠ [] ∧ issues = s.tenantStateIssues applicationId tenantSlug state := by
  rw [applyTenantState, transaction]
  by_cases hissues : s.tenantStateIssues applicationId tenantSlug state = []
  · rw [Tables.applyTenantState_eq hissues]
    simp only [hissues]
    refine ⟨fun h => ?_, fun h => absurd h.2 h.1⟩
    rw [commit] at h
    split at h
    · rename_i e he
      split at he
      · cases he
      · cases he
        cases h
    · cases h
  · rw [Tables.applyTenantState_error hissues]
    simp only [Except.error.injEq, StoreError.provisioningError.injEq]
    constructor
    · rintro rfl
      exact ⟨hissues, rfl⟩
    · exact fun h => h.2.symm

/-- A valid state starts from well-formed tables. -/
lemma Reachable.stateInput (h : s.Reachable)
    (hf : Fresh uuid4 s.tables (Draw.Within (max state.members.length state.agents.length)))
    (hissues : s.tenantStateIssues applicationId tenantSlug state = []) :
    s.tables.StateInput uuid4 applicationId tenantSlug state :=
  Tables.StateInput.of_issues s.constraints h.wellFormed hf hissues

/-- **A state is applied completely or not at all.** In every reachable store a call that
raises leaves the store as it was; a `ProvisioningError` reports exactly the violations of
the state, each once and in order; and a call that returns leaves what the state asks
for, so that the same call again changes nothing. -/
theorem Reachable.applyTenantState_spec (h : s.Reachable) (applicationId : Id) (tenantSlug : String)
    (state : TenantState)
    (hf : Fresh uuid4 s.tables (Draw.Within (max state.members.length state.agents.length))) :
    (∀ e, s.applyTenantState uuid4 applicationId tenantSlug state = .error e →
      s.next (.applyTenantState applicationId tenantSlug state) uuid4 = s) ∧
    (∀ issues, s.applyTenantState uuid4 applicationId tenantSlug state =
        .error (.provisioningError issues) →
      ∃ vs : List Violation, issues = vs.map (Violation.issue state) ∧
        vs.Pairwise (fun v w => v.place < w.place) ∧
        ∀ v, v ∈ vs ↔ s.tables.Violates applicationId tenantSlug state v) ∧
    ((∃ issues, s.applyTenantState uuid4 applicationId tenantSlug state =
        .error (.provisioningError issues)) ↔
      ∃ v, s.tables.Violates applicationId tenantSlug state v) ∧
    ∀ s' result, s.applyTenantState uuid4 applicationId tenantSlug state = .ok (s', result) →
      s.next (.applyTenantState applicationId tenantSlug state) uuid4 = s' ∧
        Tables.StateApplied s.tables s'.tables applicationId tenantSlug state result ∧
        ∀ uuid4' : UuidSource,
          Fresh uuid4' s'.tables (Draw.Within (max state.members.length state.agents.length)) →
          s'.applyTenantState uuid4' applicationId tenantSlug state =
            .ok (s', ⟨result.tenantId, ⟨0, 0, 0⟩, ⟨0, 0, 0⟩⟩) := by
  obtain ⟨vs, hvs, hsorted, hviolates⟩ :=
    Tables.stateIssues_report s.constraints applicationId tenantSlug state
  have hnext : s.perform (.applyTenantState applicationId tenantSlug state) uuid4 =
      (s.applyTenantState uuid4 applicationId tenantSlug state).map Prod.fst := by
    rw [perform, applyTenantState, transaction, transaction, Op.tables]
    cases s.tables.applyTenantState uuid4 applicationId tenantSlug state with
    | error e => rfl
    | ok r =>
        simp only [Except.map]
        cases s.commit r.1 with
        | error e => rfl
        | ok s' => rfl
  refine ⟨fun e he => ?_, fun issues he => ?_, ?_, fun s' result hok => ?_⟩
  · rw [next, hnext, he]
    rfl
  · exact ⟨vs, (applyTenantState_provisioningError_iff.mp he).2.trans hvs, hsorted, hviolates⟩
  · constructor
    · rintro ⟨issues, he⟩
      obtain ⟨hne, rfl⟩ := applyTenantState_provisioningError_iff.mp he
      rw [tenantStateIssues, hvs, ne_eq, List.map_eq_nil_iff] at hne
      obtain ⟨v, hv⟩ := List.exists_mem_of_ne_nil vs hne
      exact ⟨v, (hviolates v).mp hv⟩
    · rintro ⟨v, hv⟩
      refine ⟨_, applyTenantState_provisioningError_iff.mpr ⟨fun hnil => ?_, rfl⟩⟩
      rw [tenantStateIssues, hvs, List.map_eq_nil_iff] at hnil
      exact absurd ((hviolates v).mpr hv) (hnil ▸ List.not_mem_nil)
  · obtain ⟨hengine, hbody⟩ := transaction_eq_ok_iff.mp hok
    obtain ⟨hissues, htables, hresult⟩ := Tables.of_applyTenantState_ok hbody
    have hinput := h.stateInput hf hissues
    have hc' := s'.constraints
    refine ⟨?_, ?_, fun uuid4' hf' => ?_⟩
    · rw [next, hnext, hok]
      rfl
    · rw [htables] at hc' ⊢
      exact hresult ▸ hinput.applied hc'
    · refine transaction_eq_ok_iff.mpr ⟨rfl, ?_⟩
      rw [htables] at hc' hf' ⊢
      rw [hresult]
      exact hinput.again hc' hf'

/-- A state that drops the member, keeps the agent and brings in another. -/
def acmeState : TenantState :=
  ⟨"Acme", "active", [⟨⟨"oidc", "https://idp", "bob"⟩, ["viewer"], none, none, "active"⟩],
    [⟨"helper", [], none, "active"⟩]⟩

/-- It is applied, with one membership created and one disabled, and one agent
updated. -/
theorem applyTenantState_spec_acme :
    ∃ s' result, acmeStore.applyTenantState (sampleIds 5) (sampleIds 1 .application) "acme"
        acmeState = .ok (s', result) ∧
      Tables.StateApplied acmeStore.tables s'.tables (sampleIds 1 .application) "acme" acmeState
        result ∧
      result.members = ⟨1, 0, 1⟩ ∧ result.agents = ⟨0, 1, 0⟩ := by
  have hf : Fresh (sampleIds 5) acmeStore.tables
      (Draw.Within (max acmeState.members.length acmeState.agents.length)) := by decide +kernel
  have hresult : (acmeStore.applyTenantState (sampleIds 5) (sampleIds 1 .application) "acme"
      acmeState).map (fun r => (r.2.members, r.2.agents)) =
      .ok ((⟨1, 0, 1⟩, ⟨0, 1, 0⟩) : ChangeCounts × ChangeCounts) := by decide +kernel
  cases hcall : acmeStore.applyTenantState (sampleIds 5) (sampleIds 1 .application) "acme"
      acmeState with
  | error e =>
      rw [hcall] at hresult
      cases hresult
  | ok r =>
      obtain ⟨s', result⟩ := r
      rw [hcall] at hresult
      have hcounts := Prod.mk.inj (Except.ok.inj hresult)
      exact ⟨s', result, rfl,
        ((acmeStore_reachable.applyTenantState_spec _ _ _ hf).2.2.2 s' result hcall).2.1, hcounts⟩

/-! ### When a valid state is applied -/

/-- **When a state that passes the validation is applied**: exactly when no role that is
not internal has taken the name of a listed agent's internal role and, where the
database enforces references, the application exists or nothing is listed. -/
theorem Reachable.applyTenantState_returns_iff (h : s.Reachable)
    (hf : Fresh uuid4 s.tables (Draw.Within (max state.members.length state.agents.length)))
    (hvalid : s.tenantStateIssues applicationId tenantSlug state = []) :
    (∃ r, s.applyTenantState uuid4 applicationId tenantSlug state = .ok r) ↔
      (∀ tenant ∈ s.tables.tenants, tenant.slug = tenantSlug → ∀ a ∈ state.agents,
        ∀ r ∈ s.tables.roles, r.tenantId = some tenant.id →
          r.applicationId = some applicationId → r.name = agentRoleName a.name → r.agentId ≠ none) ∧
      (s.engine.foreignKeys = true →
        applicationId ∈ s.tables.applications.map Application.id ∨
          state.members = [] ∧ state.agents = []) := by
  have hinput := h.stateInput hf hvalid
  rw [applyTenantState, transaction_isOk_iff, Tables.applyTenantState_eq hvalid]
  constructor
  · rintro ⟨t, a, hok, hc, hfk⟩
    obtain ⟨rfl, -⟩ := Prod.mk.inj (Except.ok.inj hok)
    exact ⟨hinput.constraints_iff.mp hc, fun he =>
      (hinput.foreignKeys_iff (s.foreignKeys he)).mp (hfk he)⟩
  · rintro ⟨hfree, hfk⟩
    exact ⟨_, _, rfl, hinput.constraints_iff.mpr hfree, fun he =>
      (hinput.foreignKeys_iff (s.foreignKeys he)).mpr (hfk he)⟩

/-- A state with one agent of the given name. -/
def agentState (name : String) : TenantState :=
  ⟨"Acme", "active", [], [⟨name, ["deal.read"], none, "active"⟩]⟩

/-- An agent whose internal role name is free is applied. -/
theorem applyTenantState_returns_robot :
    ∃ r, acmeStore.applyTenantState (sampleIds 5) (sampleIds 1 .application) "acme"
      (agentState "robot") = .ok r :=
  (acmeStore_reachable.applyTenantState_returns_iff (by decide +kernel) (by decide +kernel)).mpr
    ⟨by decide +kernel, by decide +kernel⟩

/-- A role `agent:bot` was created by hand, so a valid state with an agent `bot` fails
with an error of the database. -/
theorem applyTenantState_bot_collides :
    acmeStore.Reachable ∧
    Fresh (sampleIds 5) acmeStore.tables (Draw.Within 1) ∧
    acmeStore.tenantStateIssues (sampleIds 1 .application) "acme" (agentState "bot") = [] ∧
    (acmeStore.applyTenantState (sampleIds 5) (sampleIds 1 .application) "acme"
      (agentState "bot")).map (fun _ => ()) = .error .integrityError :=
  ⟨acmeStore_reachable, by decide +kernel, by decide +kernel, by decide +kernel⟩

end SqlAlchemyStore

end AuthzKit
