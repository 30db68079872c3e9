import AuthzKit.Storage.OverrideErasure
import AuthzKit.Storage.StateSpec

/-!
`apply_tenant_state` around the deletion of an override: a state applied before it leaves the
tables that the state applied after it leaves.

The roles the members' names resolve to are other rows afterwards, and the links read at the start
of the call are the moved ones, so the batched diffs differ on both sides. What they do to the
links agrees (`redirect_replaceAll`); the counts of changed members and agents need not.

* `MemberPlan.rows`, `AgentPlan.rows`: what an iteration decides without regard to links.
* `applyMembers_without`, `applyAgents_without`, `applyTenantState_without`.
-/

namespace AuthzKit

open Keyed Links

/-! ### Plans and links -/

/-- What an iteration over the members decides without regard to links. -/
def MemberPlan.rows (p : MemberPlan) : Option (User × ExternalIdentity) × Membership × Bool :=
  (p.identity, p.membership, p.created)

/-- The change of the links of a membership. -/
def MemberPlan.change (p : MemberPlan) : Change Id Id := ⟨p.membership.id, p.roleIds, p.current⟩

/-- What an iteration over the agents decides without regard to links. -/
def AgentPlan.rows (p : AgentPlan) : Agent × Bool × Role × Bool × Finset Id :=
  (p.agent, p.created, p.role, p.roleCreated, p.permissionIds)

/-- The change of the permissions of an internal role. -/
def AgentPlan.permissionChange (p : AgentPlan) : Change Id Id :=
  ⟨p.role.id, p.permissionIds, p.currentPermissions⟩

/-- The change of the links of an agent. -/
def AgentPlan.roleChange (p : AgentPlan) : Change Id Id := ⟨p.agent.id, {p.role.id}, p.currentRoles⟩

section Plans

variable {uuid4 : UuidSource} {tenantId applicationId : Id} {identities : List ExternalIdentity}
  {memberships : List Membership} {links links' : Multiset (Id × Id)}
  {roleRows roleRows' : List Role} {m : DesiredMember} {i : ℕ}

lemma planMember_rows :
    (planMember uuid4 tenantId applicationId identities memberships links roleRows m i).rows =
      (planMember uuid4 tenantId applicationId identities memberships links' roleRows' m i).rows := by
  rw [planMember, planMember]
  obtain ⟨userId, identity⟩ := memberIdentity uuid4 identities m i
  dsimp only
  cases lookup Membership.userId memberships userId with
  | none => rfl
  | some membership => rfl

lemma planMember_roleIds :
    (planMember uuid4 tenantId applicationId identities memberships links roleRows m i).roleIds =
      Tables.roleIds (m.roles.filterMap (lookup Role.name roleRows)) := by
  rw [planMember]
  obtain ⟨userId, identity⟩ := memberIdentity uuid4 identities m i
  dsimp only
  cases lookup Membership.userId memberships userId with
  | none => rfl
  | some membership => rfl

lemma planMember_current :
    let p := planMember uuid4 tenantId applicationId identities memberships links roleRows m i
    p.current = if p.created then ∅ else others links p.membership.id := by
  intro p
  simp only [p, planMember]
  obtain ⟨userId, identity⟩ := memberIdentity uuid4 identities m i
  dsimp only
  cases lookup Membership.userId memberships userId with
  | none => rfl
  | some membership => rfl

variable {existing : List Agent} {internalRoles : List Role}
  {agentRoles agentRoles' rolePermissions rolePermissions' : Multiset (Id × Id)}
  {permRows : List Permission} {a : DesiredAgent}

lemma planAgent_rows :
    (planAgent uuid4 tenantId applicationId existing internalRoles agentRoles rolePermissions
        permRows a i).rows =
      (planAgent uuid4 tenantId applicationId existing internalRoles agentRoles' rolePermissions'
        permRows a i).rows := rfl

end Plans

namespace Tables

/-! ### The rows a step writes follow from the rows of its plans -/

section Rows

variable {t t' : Tables} {uuid4 : UuidSource} {tenantId applicationId : Id}
  {members : List DesiredMember} {roleRows roleRows' : List Role} {agents : List DesiredAgent}
  {permRows : List Permission}

lemma memberNews_congr
    (h : (t'.memberPlans uuid4 tenantId applicationId members roleRows').map MemberPlan.rows =
      (t.memberPlans uuid4 tenantId applicationId members roleRows).map MemberPlan.rows) :
    t'.memberNews uuid4 tenantId applicationId members roleRows' =
      t.memberNews uuid4 tenantId applicationId members roleRows := by
  have hidentity := congrArg (List.filterMap Prod.fst) h
  rwa [List.filterMap_map, List.filterMap_map] at hidentity

lemma memberCreates_congr
    (h : (t'.memberPlans uuid4 tenantId applicationId members roleRows').map MemberPlan.rows =
      (t.memberPlans uuid4 tenantId applicationId members roleRows).map MemberPlan.rows) :
    t'.memberCreates uuid4 tenantId applicationId members roleRows' =
      t.memberCreates uuid4 tenantId applicationId members roleRows := by
  have hcreated := congrArg (fun rows => (rows.filter fun q => q.2.2).map fun q => q.2.1) h
  rwa [List.filter_map, List.filter_map, List.map_map, List.map_map] at hcreated

lemma memberWrites_congr (hmemberships : t'.memberships = t.memberships)
    (h : (t'.memberPlans uuid4 tenantId applicationId members roleRows').map MemberPlan.rows =
      (t.memberPlans uuid4 tenantId applicationId members roleRows).map MemberPlan.rows) :
    t'.memberWrites uuid4 tenantId applicationId members roleRows' =
      t.memberWrites uuid4 tenantId applicationId members roleRows := by
  have hwritten := congrArg (fun rows => (rows.filter fun q => !q.2.2).map fun q => q.2.1) h
  have husers := congrArg (List.map fun q => q.2.1.userId) h
  rw [List.filter_map, List.filter_map, List.map_map, List.map_map] at hwritten
  rw [List.map_map, List.map_map] at husers
  rw [memberWrites, memberWrites]
  refine congrArg₂ (· ++ ·) hwritten (congrArg (List.map _) ?_)
  rw [unlistedMembers, unlistedMembers, pairMemberships, pairMemberships, hmemberships]
  refine List.filter_congr fun m _ => ?_
  exact congrArg (fun users => decide (m.userId ∉ users ∧ m.status ≠ statusDisabled)) husers

end Rows

/-- The rows written and the changes of links follow from the plans of the agents. -/
lemma applyAgents_congr {t t' : Tables} {uuid4 : UuidSource} {tenantId applicationId : Id}
    {agents : List DesiredAgent} {permRows : List Permission} (hagents : t'.agents = t.agents)
    (h : (t'.agentPlans uuid4 tenantId applicationId agents permRows).map AgentPlan.rows =
      (t.agentPlans uuid4 tenantId applicationId agents permRows).map AgentPlan.rows) :
    t'.agentWrites uuid4 tenantId applicationId agents permRows =
        t.agentWrites uuid4 tenantId applicationId agents permRows ∧
      t'.agentCreates uuid4 tenantId applicationId agents permRows =
        t.agentCreates uuid4 tenantId applicationId agents permRows ∧
      t'.roleCreates uuid4 tenantId applicationId agents permRows =
        t.roleCreates uuid4 tenantId applicationId agents permRows := by
  have hwritten := congrArg (fun rows => (rows.filter fun q => !q.2.1).map Prod.fst) h
  have hcreated := congrArg (fun rows => (rows.filter fun q => q.2.1).map Prod.fst) h
  have hroles := congrArg (fun rows => (rows.filter fun q => q.2.2.2.1).map fun q => q.2.2.1) h
  rw [List.filter_map, List.filter_map, List.map_map, List.map_map] at hwritten hcreated hroles
  refine ⟨?_, hcreated, hroles⟩
  rw [agentWrites, agentWrites, unlistedAgents, unlistedAgents, pairAgents, pairAgents, hagents]
  exact congrArg (· ++ _) hwritten

namespace Overridden

variable {t : Tables} {tenantId applicationId : Id} {name : String} {o d : Role}
  (h : t.Overridden tenantId applicationId name o d)

include h

/-! ### Members -/

lemma roleIds_filterMap {roleRows roleRows' : List Role} {names : List String}
    (hrows : ∀ n ∈ names, lookup Role.name roleRows' n =
      (lookup Role.name roleRows n).map (standIn o d)) (hmem : ∀ r ∈ roleRows, r ∈ t.roles) :
    roleIds (names.filterMap (lookup Role.name roleRows')) =
      (roleIds (names.filterMap (lookup Role.name roleRows))).image (moved o.id d.id) := by
  have hnamed : names.filterMap (lookup Role.name roleRows') =
      (names.filterMap (lookup Role.name roleRows)).map (standIn o d) := by
    rw [List.map_filterMap]
    exact List.filterMap_congr hrows
  ext i
  rw [hnamed, mem_roleIds, Finset.mem_image]
  simp only [mem_roleIds, List.mem_map]
  constructor
  · rintro ⟨_, ⟨r, hr, rfl⟩, rfl⟩
    obtain ⟨n, -, hl⟩ := List.mem_filterMap.mp hr
    exact ⟨r.id, ⟨r, hr, rfl⟩, (h.id_standIn (hmem r (mem_of_lookup hl))).symm⟩
  · rintro ⟨_, ⟨r, hr, rfl⟩, rfl⟩
    obtain ⟨n, -, hl⟩ := List.mem_filterMap.mp hr
    exact ⟨_, ⟨r, hr, rfl⟩, h.id_standIn (hmem r (mem_of_lookup hl))⟩

/-- The plans of the members, and with them the changes, before and after the deletion. -/
lemma memberPlan_without {uuid4 : UuidSource} {tenant application : Id}
    {members : List DesiredMember} {roleRows roleRows' : List Role} {entry : DesiredMember × ℕ}
    (hrows : ∀ n ∈ entry.1.roles, lookup Role.name roleRows' n =
      (lookup Role.name roleRows n).map (standIn o d)) (hmem : ∀ r ∈ roleRows, r ∈ t.roles) :
    let p := t.memberPlan uuid4 tenant application members roleRows entry
    let p' := (t.withoutOverride o d).memberPlan uuid4 tenant application members roleRows' entry
    p'.rows = p.rows ∧ p'.change = p.change.redirect o.id d.id := by
  intro p p'
  have hplan : p'.rows = p.rows := planMember_rows
  obtain ⟨-, hmembership, hcreated⟩ : p'.identity = p.identity ∧ p'.membership = p.membership ∧
      p'.created = p.created := by
    simpa only [MemberPlan.rows, Prod.mk.injEq] using hplan
  have hids : p'.roleIds = p.roleIds.image (moved o.id d.id) := by
    rw [show p'.roleIds = _ from planMember_roleIds, show p.roleIds = _ from planMember_roleIds]
    exact h.roleIds_filterMap hrows hmem
  have hcurrent : p'.current = p.current.image (moved o.id d.id) := by
    rw [show p'.current = _ from planMember_current, show p.current = _ from planMember_current]
    change (if p'.created then ∅ else others (redirect t.membershipRoles o.id d.id)
      p'.membership.id) = (if p.created then ∅ else others t.membershipRoles p.membership.id).image _
    rw [hcreated, hmembership, others_redirect h.default_id_ne]
    split
    · rfl
    · rfl
  refine ⟨hplan, ?_⟩
  rw [MemberPlan.change, hids, hcurrent, hmembership]
  rfl

/-- **The step over the members** may run before or after the deletion. -/
lemma applyMembers_without {uuid4 : UuidSource} {tenant application : Id}
    {members : List DesiredMember} {roleRows roleRows' : List Role}
    (hin : MembersInput t uuid4 tenant application members roleRows)
    (hrows : ∀ n ∈ members.flatMap DesiredMember.roles, lookup Role.name roleRows' n =
      (lookup Role.name roleRows n).map (standIn o d)) :
    ((t.withoutOverride o d).applyMembers uuid4 tenant application members roleRows').1 =
      (t.applyMembers uuid4 tenant application members roleRows).1.withoutOverride o d := by
  have hplan : ∀ e ∈ members.zipIdx,
      let p := t.memberPlan uuid4 tenant application members roleRows e
      let p' := (t.withoutOverride o d).memberPlan uuid4 tenant application members roleRows' e
      p'.rows = p.rows ∧ p'.change = p.change.redirect o.id d.id := fun e he =>
    h.memberPlan_without
      (fun n hn => hrows n (List.mem_flatMap.mpr ⟨e.1, List.fst_mem_of_mem_zipIdx he, hn⟩))
      fun r hr => (hin.roles r hr).1
  have hplans : ((t.withoutOverride o d).memberPlans uuid4 tenant application members
        roleRows').map MemberPlan.rows =
      (t.memberPlans uuid4 tenant application members roleRows).map MemberPlan.rows := by
    rw [memberPlans, memberPlans, List.map_map, List.map_map]
    exact List.map_congr_left fun e he => (hplan e he).1
  have hchanges : (t.withoutOverride o d).memberChanges uuid4 tenant application members roleRows' =
      (t.memberChanges uuid4 tenant application members roleRows).map
        (Change.redirect o.id d.id) := by
    rw [memberChanges, memberChanges, memberPlans, memberPlans, List.map_map, List.map_map,
      List.map_map]
    exact List.map_congr_left fun e he => (hplan e he).2
  have hlinks := redirect_replaceAll h.default_id_ne h.constraints.membershipRoles
    hin.nodup_memberChanges hin.current_memberChanges
  have hmemberships : (t.withoutOverride o d).memberships = t.memberships := rfl
  rw [applyMembers_tables, applyMembers_tables, memberNews_congr hplans, memberCreates_congr hplans,
    memberWrites_congr hmemberships hplans, hchanges]
  simp only [withoutOverride, hlinks]

/-! ### Agents -/

/-- The internal roles are not the override. -/
lemma internalRoles_without (tenant application : Id) :
    (t.withoutOverride o d).internalRoles tenant application =
      t.internalRoles tenant application := by
  have hnone : ¬o.agentId ∈ ((t.pairAgents tenant application).map Agent.id).map some := by
    rw [h.override_spec.2.2.2.1, List.mem_map]
    rintro ⟨_, -, hsome⟩
    cases hsome
  exact congrArg (ofList Role.agentId) (h.filter_without
    (p := fun r => r.agentId ∈ ((t.pairAgents tenant application).map Agent.id).map some) hnone)

/-- The internal role of a plan is not the override. -/
lemma plan_role_ne {uuid4 : UuidSource} {tenant application : Id} {agents : List DesiredAgent}
    {permRows : List Permission} (hin : AgentsInput t uuid4 application agents permRows)
    {entry : DesiredAgent × ℕ} (hentry : entry ∈ agents.zipIdx) :
    (t.agentPlan uuid4 tenant application permRows entry).role.id ≠ o.id := by
  intro hid
  rcases (hin.agentPlanned tenant hentry).role with ⟨-, hrole, hagent, -, -⟩ | ⟨-, hnew, -⟩
  · rw [h.eq_override hrole hid, h.override_spec.2.2.2.1] at hagent
    cases hagent
  · refine hin.role_new hentry ?_
    rw [← hnew, hid]
    exact List.mem_map_of_mem h.override_spec.1

/-- The plans of the agents, and with them the changes, before and after the deletion. -/
lemma agentPlan_without {uuid4 : UuidSource} {tenant application : Id} {agents : List DesiredAgent}
    {permRows : List Permission} (hin : AgentsInput t uuid4 application agents permRows)
    {entry : DesiredAgent × ℕ} (hentry : entry ∈ agents.zipIdx) :
    let p := t.agentPlan uuid4 tenant application permRows entry
    let p' := (t.withoutOverride o d).agentPlan uuid4 tenant application permRows entry
    p'.rows = p.rows ∧ p'.permissionChange = p.permissionChange ∧
      p'.roleChange = p.roleChange.redirect o.id d.id := by
  intro p p'
  have hne : p.role.id ≠ o.id := h.plan_role_ne hin hentry
  have hplan : p'.rows = p.rows := by
    change (planAgent uuid4 tenant application (t.pairAgents tenant application)
      ((t.withoutOverride o d).internalRoles tenant application) (t.withoutOverride o d).agentRoles
      (t.withoutOverride o d).rolePermissions permRows entry.1 entry.2).rows = _
    rw [h.internalRoles_without]
    exact planAgent_rows
  obtain ⟨hagent, hcreated, hrole, hroleCreated, hids⟩ : p'.agent = p.agent ∧
      p'.created = p.created ∧ p'.role = p.role ∧ p'.roleCreated = p.roleCreated ∧
        p'.permissionIds = p.permissionIds := by
    simpa only [AgentPlan.rows, Prod.mk.injEq] using hplan
  have hpermissions : p'.currentPermissions = p.currentPermissions := by
    change (if p'.roleCreated then ∅ else others (t.rolePermissions.filter fun q => q.1 ≠ o.id)
      p'.role.id) = if p.roleCreated then ∅ else others t.rolePermissions p.role.id
    rw [hrole, hroleCreated]
    congr 1
    ext i
    rw [mem_others, mem_others, Multiset.mem_filter]
    exact and_iff_left hne
  have hroles : p'.currentRoles = p.currentRoles.image (moved o.id d.id) := by
    change (if p'.created then ∅ else others (redirect t.agentRoles o.id d.id) p'.agent.id) =
      (if p.created then ∅ else others t.agentRoles p.agent.id).image _
    rw [hcreated, hagent, others_redirect h.default_id_ne]
    split
    · rfl
    · rfl
  refine ⟨hplan, ?_, ?_⟩
  · rw [AgentPlan.permissionChange, hids, hpermissions, hrole]
    rfl
  · rw [AgentPlan.roleChange, hroles, hagent, hrole, AgentPlan.roleChange, Change.redirect]
    dsimp only
    rw [Finset.image_singleton, moved_of_ne hne]

/-- **The step over the agents** may run before or after the deletion. -/
lemma applyAgents_without {uuid4 : UuidSource} {tenant application : Id}
    {agents : List DesiredAgent} {permRows : List Permission}
    (hin : AgentsInput t uuid4 application agents permRows) :
    ((t.withoutOverride o d).applyAgents uuid4 tenant application agents permRows).1 =
      (t.applyAgents uuid4 tenant application agents permRows).1.withoutOverride o d := by
  have hplans : ((t.withoutOverride o d).agentPlans uuid4 tenant application agents
        permRows).map AgentPlan.rows =
      (t.agentPlans uuid4 tenant application agents permRows).map AgentPlan.rows := by
    rw [agentPlans, agentPlans, List.map_map, List.map_map]
    exact List.map_congr_left fun e he => (h.agentPlan_without hin he).1
  have hpermissions :
      (t.withoutOverride o d).permissionChanges uuid4 tenant application agents permRows =
        t.permissionChanges uuid4 tenant application agents permRows := by
    rw [permissionChanges, permissionChanges, agentPlans, agentPlans, List.map_map, List.map_map]
    exact List.map_congr_left fun e he => (h.agentPlan_without hin he).2.1
  have hroles : (t.withoutOverride o d).agentRoleChanges uuid4 tenant application agents permRows =
      (t.agentRoleChanges uuid4 tenant application agents permRows).map
        (Change.redirect o.id d.id) := by
    rw [agentRoleChanges, agentRoleChanges, agentPlans, agentPlans, List.map_map, List.map_map,
      List.map_map]
    exact List.map_congr_left fun e he => (h.agentPlan_without hin he).2.2
  have hlinks : redirect (replaceAll t.agentRoles
        (t.agentRoleChanges uuid4 tenant application agents permRows)) o.id d.id =
      replaceAll (redirect t.agentRoles o.id d.id)
        ((t.agentRoleChanges uuid4 tenant application agents permRows).map
          (Change.redirect o.id d.id)) :=
    redirect_replaceAll h.default_id_ne h.constraints.agentRoles hin.nodup_agentRoleChanges
      hin.current_agentRoleChanges
  have howners : ∀ c ∈ t.permissionChanges uuid4 tenant application agents permRows,
      c.owner ≠ o.id := by
    intro c hc
    obtain ⟨e, he, howner, -⟩ := AgentsInput.mem_permissionChanges.mp hc
    exact howner ▸ h.plan_role_ne hin he
  have hcarried : (replaceAll t.rolePermissions
        (t.permissionChanges uuid4 tenant application agents permRows)).filter (fun p => p.1 ≠ o.id) =
      replaceAll (t.rolePermissions.filter fun p => p.1 ≠ o.id)
        (t.permissionChanges uuid4 tenant application agents permRows) := filter_replaceAll howners
  have hcreates : ∀ r ∈ t.roleCreates uuid4 tenant application agents permRows, r.id ≠ o.id := by
    intro r hr
    obtain ⟨e, he, -, rfl⟩ := AgentsInput.mem_roleCreates.mp hr
    exact h.plan_role_ne hin he
  have hrows : (t.roles ++ t.roleCreates uuid4 tenant application agents permRows).filter
        (fun r => r.id ≠ o.id) =
      (t.roles.filter fun r => r.id ≠ o.id) ++
        t.roleCreates uuid4 tenant application agents permRows := by
    rw [List.filter_append, List.filter_eq_self.mpr fun r hr => decide_eq_true (hcreates r hr)]
  have hagents : (t.withoutOverride o d).agents = t.agents := rfl
  obtain ⟨hwrites, hnew, hnewRoles⟩ := applyAgents_congr hagents hplans
  rw [applyAgents_tables, applyAgents_tables, hwrites, hnew, hnewRoles, hpermissions, hroles]
  simp only [withoutOverride, hlinks, hcarried, hrows]

/-! ### The transaction -/

omit h in
lemma tenantTables_without (uuid4 : UuidSource) (tenantSlug : String) (state : TenantState) :
    (t.withoutOverride o d).tenantTables uuid4 tenantSlug state =
        (t.tenantTables uuid4 tenantSlug state).withoutOverride o d ∧
      (t.withoutOverride o d).stateTenantId uuid4 tenantSlug state =
        t.stateTenantId uuid4 tenantSlug state := by
  have hslug : lookup Tenant.slug (t.withoutOverride o d).tenants tenantSlug =
      lookup Tenant.slug t.tenants tenantSlug := rfl
  rw [tenantTables, tenantTables, stateTenantId, stateTenantId, stateTenant, stateTenant, hslug]
  cases lookup Tenant.slug t.tenants tenantSlug with
  | some tenant => exact ⟨rfl, rfl⟩
  | none => exact ⟨rfl, rfl⟩

/-- **A state** that is applied before the deletion can be applied after it. -/
theorem applyTenantState_without {t' : Tables} {uuid4 : UuidSource} {application : Id}
    {tenantSlug : String} {state : TenantState} {r : TenantStateResult}
    (hf : Fresh uuid4 t (Draw.Within (max state.members.length state.agents.length)))
    (hop : t.applyTenantState uuid4 application tenantSlug state = .ok (t', r)) :
    ∃ r', (t.withoutOverride o d).applyTenantState uuid4 application tenantSlug state =
      .ok (t'.withoutOverride o d, r') := by
  obtain ⟨hissues, rfl, -⟩ := of_applyTenantState_ok hop
  have hin := StateInput.of_issues h.constraints h.wellFormed hf hissues
  obtain ⟨htenant, htenantId⟩ := tenantTables_without uuid4 tenantSlug state
  have hroles : (t.tenantTables uuid4 tenantSlug state).roles = t.roles := by
    rw [tenantTables_eq]
  have hmembers : (t.withoutOverride o d).memberTables uuid4 application tenantSlug state =
      (t.memberTables uuid4 application tenantSlug state).withoutOverride o d := by
    rw [memberTables, memberTables, htenant, htenantId]
    have hbefore := h.of_roles_eq hin.membersInput.constraints hin.membersInput.wellFormed hroles
    exact hbefore.applyMembers_without hin.membersInput fun n hn =>
      h.stateRoleRows_without application tenantSlug state hn
  have hstate : (t.withoutOverride o d).stateTables uuid4 application tenantSlug state =
      (t.stateTables uuid4 application tenantSlug state).withoutOverride o d := by
    rw [stateTables, stateTables, hmembers, htenantId]
    have hbefore := h.of_roles_eq hin.agentsInput.constraints hin.agentsInput.wellFormed
      memberTables_roles
    exact hbefore.applyAgents_without hin.agentsInput
  rw [← h.issues_without] at hissues
  exact ⟨_, (applyTenantState_eq hissues).trans (congrArg (fun u => Except.ok (u, _)) hstate)⟩

end Overridden

end Tables

end AuthzKit
