import AuthzKit.Storage.Matching

/-!
The counts that `apply_tenant_state` reports, as the difference between the tables
before and after.

* `memberCounts`, `agentCounts`: new rows of the pair, listed rows that changed
  themselves or in their links, and unlisted rows that changed.
* `MembersInput.counts_eq`, `AgentsInput.counts_eq`: the loops count exactly these.
-/

namespace AuthzKit

open Keyed Links

namespace Tables

/-! ### Differences -/

/-- The memberships of a pair that are new, that are listed and changed, and that are
not listed and changed, from `t` to `t'`. -/
def memberCounts (t t' : Tables) (tenantId applicationId : Id) (members : List DesiredMember) :
    ChangeCounts where
  created := (t'.memberships.filter fun m =>
    m.tenantId = tenantId ∧ m.applicationId = some applicationId ∧
      m.id ∉ t.memberships.map Membership.id).length
  updated := (t.memberships.filter fun m =>
    m.tenantId = tenantId ∧ m.applicationId = some applicationId ∧ t'.ListedMember members m ∧
      (m ∉ t'.memberships ∨ others t'.membershipRoles m.id ≠ others t.membershipRoles m.id)).length
  disabled := (t.memberships.filter fun m =>
    m.tenantId = tenantId ∧ m.applicationId = some applicationId ∧ ¬t'.ListedMember members m ∧
      m ∉ t'.memberships).length

/-- The agents of a pair that are new, that are listed and changed in their row, their
links or the permissions of their internal role, and that are not listed and changed,
from `t` to `t'`. -/
def agentCounts (t t' : Tables) (tenantId applicationId : Id) (agents : List DesiredAgent) :
    ChangeCounts where
  created := (t'.agents.filter fun a =>
    a.tenantId = tenantId ∧ a.applicationId = applicationId ∧ a.id ∉ t.agents.map Agent.id).length
  updated := (t.agents.filter fun a =>
    a.tenantId = tenantId ∧ a.applicationId = applicationId ∧
      a.name ∈ agents.map DesiredAgent.name ∧
      (a ∉ t'.agents ∨ others t'.agentRoles a.id ≠ others t.agentRoles a.id ∨
        ∃ r ∈ t'.roles, r.agentId = some a.id ∧
          others t'.rolePermissions r.id ≠ others t.rolePermissions r.id)).length
  disabled := (t.agents.filter fun a =>
    a.tenantId = tenantId ∧ a.applicationId = applicationId ∧
      a.name ∉ agents.map DesiredAgent.name ∧ a ∉ t'.agents).length

namespace MembersInput

variable {t : Tables} {uuid4 : UuidSource} {tenantId applicationId : Id}
  {members : List DesiredMember} {roleRows : List Role} {entry : DesiredMember × ℕ}

/-! ### Members -/

/-- The new memberships of the pair are the rows inserted. -/
lemma created_eq (h : MembersInput t uuid4 tenantId applicationId members roleRows) :
    (t.applyMembers uuid4 tenantId applicationId members roleRows).1.memberships.filter (fun m =>
        m.tenantId = tenantId ∧ m.applicationId = some applicationId ∧
          m.id ∉ t.memberships.map Membership.id) =
      t.memberCreates uuid4 tenantId applicationId members roleRows := by
  rw [applyMembers_tables, List.filter_append]
  have hold : (updateAll Membership.id t.memberships
      (t.memberWrites uuid4 tenantId applicationId members roleRows)).filter (fun m =>
        m.tenantId = tenantId ∧ m.applicationId = some applicationId ∧
          m.id ∉ t.memberships.map Membership.id) = [] := by
    refine List.filter_eq_nil_iff.mpr fun m hm hp => ?_
    obtain ⟨m', hm', hident⟩ := List.mem_map.mp
      (h.map_ident_applyMembers ▸ List.mem_map_of_mem hm)
    refine (of_decide_eq_true hp).2.2 (List.mem_map.mpr ⟨m', hm', (Prod.mk.inj hident).1⟩)
  rw [hold, List.nil_append, List.filter_eq_self]
  intro m hm
  obtain ⟨e, he, hcreated, rfl⟩ := mem_memberCreates.mp hm
  have hplan := h.memberPlanned he
  refine decide_eq_true ⟨hplan.tenant, hplan.application, fun hid => ?_⟩
  rcases hplan.row with ⟨hfalse, -⟩ | ⟨-, hnew, -⟩
  · rw [hcreated] at hfalse
    cases hfalse
  · exact h.ids.new _ (ofMember he (Or.inr (Or.inr rfl))) (id_mem_rowIds
      (Or.inr (Or.inr (Or.inr (Or.inl (hnew ▸ hid))))))

/-- The row of an entry changed exactly when its iteration says so. -/
lemma changed_iff (h : MembersInput t uuid4 tenantId applicationId members roleRows)
    (hentry : entry ∈ members.zipIdx) {m : Membership} (hm : m ∈ t.memberships)
    (hid : m.id = (t.memberPlan uuid4 tenantId applicationId members roleRows entry).membership.id) :
    (t.memberPlan uuid4 tenantId applicationId members roleRows entry).changed = true ↔
      m ∉ (t.applyMembers uuid4 tenantId applicationId members roleRows).1.memberships ∨
        others (t.applyMembers uuid4 tenantId applicationId members roleRows).1.membershipRoles m.id ≠
          others t.membershipRoles m.id := by
  have hplan := h.memberPlanned hentry
  have hrow := h.mem_applyMembers_memberships.mpr (Or.inl ⟨entry, hentry, rfl⟩)
  rcases hplan.row with ⟨-, m', hm', hident, hcurrent, hchanged⟩ | ⟨-, hnew, -⟩
  · obtain rfl := List.inj_on_of_nodup_map h.constraints.membershipId hm hm'
      (hid.trans (Prod.mk.inj hident).1.symm)
    have hmem : m ∉ (t.applyMembers uuid4 tenantId applicationId members roleRows).1.memberships ↔
        m.status ≠
          (t.memberPlan uuid4 tenantId applicationId members roleRows entry).membership.status := by
      refine not_congr ⟨fun hm' => ?_, fun hstatus => ?_⟩
      · rw [List.inj_on_of_nodup_map h.constraints_after.membershipId hm' hrow hid]
      · rw [Membership.eq_of_ident hident hstatus]
        exact hrow
    rw [hchanged, decide_eq_true_eq, hmem, hid, h.others_applyMembers hentry, ← hid, hcurrent,
      or_comm]
    exact or_congr_right ne_comm
  · exact absurd (List.mem_map_of_mem hm) fun hmem => h.ids.new _
      (ofMember hentry (Or.inr (Or.inr rfl))) (id_mem_rowIds
        (Or.inr (Or.inr (Or.inr (Or.inl (hnew ▸ hid ▸ hmem))))))

/-- The listed memberships that changed are those counted. -/
lemma updated_eq (h : MembersInput t uuid4 tenantId applicationId members roleRows) :
    ((t.memberPlans uuid4 tenantId applicationId members roleRows).filter fun p =>
        !p.created && p.changed).length =
      (t.memberCounts (t.applyMembers uuid4 tenantId applicationId members roleRows).1 tenantId
        applicationId members).updated := by
  refine length_eq_of_keys (fun p : MemberPlan => p.membership.id) Membership.id ?_
    (h.constraints.membershipId.sublist (List.filter_sublist.map _)) fun k => ?_
  · refine List.Nodup.sublist (List.filter_sublist.map _) ?_
    rw [memberPlans, List.map_map]
    exact nodup_map_zipIdx h.refs fun e he e' he' => h.memberPlan_id_injOn he he'
  · constructor
    · intro hk
      obtain ⟨p, hp, rfl⟩ := List.mem_map.mp hk
      obtain ⟨hp, hflags⟩ := List.mem_filter.mp hp
      obtain ⟨e, he, rfl⟩ := mem_memberPlans.mp hp
      simp only [Bool.and_eq_true, Bool.not_eq_true'] at hflags
      have hplan := h.memberPlanned he
      rcases hplan.row with ⟨-, m, hm, hident, -⟩ | ⟨htrue, -⟩
      · have hchanged := (h.changed_iff he hm (Prod.mk.inj hident).1).mp hflags.2
        simp only [Membership.ident, Prod.mk.injEq] at hident
        refine List.mem_map.mpr ⟨m, List.mem_filter.mpr ⟨hm, decide_eq_true ⟨?_, ?_, ?_, hchanged⟩⟩,
          hident.1⟩
        · exact hident.2.1.trans hplan.tenant
        · exact hident.2.2.1.trans hplan.application
        · rw [h.listedMember_iff]
          exact List.mem_map.mpr ⟨e, he, hplan.user.symm.trans hident.2.2.2.symm⟩
      · rw [hflags.1] at htrue
        cases htrue
    · intro hk
      obtain ⟨m, hm, rfl⟩ := List.mem_map.mp hk
      obtain ⟨hm, hcond⟩ := List.mem_filter.mp hm
      obtain ⟨ht, happ, hlisted, hchanged⟩ := of_decide_eq_true hcond
      obtain ⟨e, he, huser⟩ := List.mem_map.mp (h.listedMember_iff.mp hlisted)
      obtain ⟨hcreated, hident⟩ := h.ident_of_user he hm ht happ huser.symm
      have hid := (Prod.mk.inj hident).1
      refine List.mem_map.mpr ⟨_, List.mem_filter.mpr ⟨mem_memberPlans.mpr ⟨e, he, rfl⟩, ?_⟩,
        hid.symm⟩
      rw [hcreated, (h.changed_iff he hm hid).mpr hchanged]
      rfl

/-- The unlisted memberships that changed are those disabled. -/
lemma disabled_eq (h : MembersInput t uuid4 tenantId applicationId members roleRows) :
    (t.unlistedMembers tenantId applicationId
        (t.memberPlans uuid4 tenantId applicationId members roleRows)).length =
      (t.memberCounts (t.applyMembers uuid4 tenantId applicationId members roleRows).1 tenantId
        applicationId members).disabled := by
  rw [unlistedMembers, pairMemberships_eq h.constraints, List.filter_filter, memberCounts]
  refine congrArg List.length (List.filter_congr fun m hm => ?_)
  rw [← Bool.decide_and, decide_eq_decide, h.plans_userId, ← h.listedMember_iff]
  constructor
  · rintro ⟨⟨hlisted, hstatus⟩, ht, happ⟩
    refine ⟨ht, happ, hlisted, fun hm' => hstatus ?_⟩
    rcases h.mem_applyMembers_memberships.mp hm' with ⟨e, he, rfl⟩ | ⟨m, -, rfl⟩ | ⟨-, hpair⟩
    · exact absurd rfl (h.plan_id_ne hm' hlisted he)
    · rfl
    · exact absurd ⟨ht, happ⟩ hpair
  · rintro ⟨ht, happ, hlisted, hchanged⟩
    refine ⟨⟨hlisted, fun hstatus => hchanged ?_⟩, ht, happ⟩
    refine h.mem_applyMembers_memberships.mpr (Or.inr (Or.inl ⟨m, ⟨hm, ht, happ, ?_⟩, ?_⟩))
    · exact fun hu => hlisted (h.listedMember_iff.mpr hu)
    · rw [← hstatus]

/-- **The member counts** are the differences between the tables. -/
theorem counts_eq (h : MembersInput t uuid4 tenantId applicationId members roleRows) :
    (t.applyMembers uuid4 tenantId applicationId members roleRows).2 =
      t.memberCounts (t.applyMembers uuid4 tenantId applicationId members roleRows).1 tenantId
        applicationId members := by
  have hupdated := h.updated_eq
  have hdisabled := h.disabled_eq
  rw [memberCounts] at hupdated hdisabled ⊢
  rw [h.created_eq]
  simp only [applyMembers, List.length_map, ChangeCounts.mk.injEq, memberCreates]
  exact ⟨trivial, hupdated, hdisabled⟩

end MembersInput

namespace AgentsInput

variable {t : Tables} {uuid4 : UuidSource} {tenantId applicationId : Id}
  {agents : List DesiredAgent} {permRows : List Permission} {entry : DesiredAgent × ℕ}

/-! ### Agents -/

/-- The new agents of the pair are the rows inserted. -/
lemma created_eq (h : AgentsInput t uuid4 applicationId agents permRows) :
    (t.applyAgents uuid4 tenantId applicationId agents permRows).1.agents.filter (fun a =>
        a.tenantId = tenantId ∧ a.applicationId = applicationId ∧ a.id ∉ t.agents.map Agent.id) =
      t.agentCreates uuid4 tenantId applicationId agents permRows := by
  rw [applyAgents_tables, List.filter_append]
  have hold : (updateAll Agent.id t.agents
      (t.agentWrites uuid4 tenantId applicationId agents permRows)).filter (fun a =>
        a.tenantId = tenantId ∧ a.applicationId = applicationId ∧ a.id ∉ t.agents.map Agent.id) =
      [] := by
    refine List.filter_eq_nil_iff.mpr fun a ha hp => ?_
    obtain ⟨a', ha', hident⟩ := List.mem_map.mp
      (h.map_ident_applyAgents _ ▸ List.mem_map_of_mem ha)
    exact (of_decide_eq_true hp).2.2 (List.mem_map.mpr ⟨a', ha', (Prod.mk.inj hident).1⟩)
  rw [hold, List.nil_append, List.filter_eq_self]
  intro a ha
  obtain ⟨e, he, hcreated, rfl⟩ := mem_agentCreates.mp ha
  have hplan := h.agentPlanned tenantId he
  refine decide_eq_true ⟨hplan.tenant, hplan.application, fun hid => ?_⟩
  rcases hplan.row with ⟨hfalse, -⟩ | ⟨-, hnew, -⟩
  · rw [hcreated] at hfalse
    cases hfalse
  · exact (h.agent_new he).1 (hnew ▸ hid)

/-- The internal role of a listed agent is the only one filed under it. -/
lemma role_unique (h : AgentsInput t uuid4 applicationId agents permRows)
    (hc : (t.applyAgents uuid4 tenantId applicationId agents permRows).1.Constraints)
    (hentry : entry ∈ agents.zipIdx) {r : Role}
    (hr : r ∈ (t.applyAgents uuid4 tenantId applicationId agents permRows).1.roles)
    (hagent : r.agentId =
      some (t.agentPlan uuid4 tenantId applicationId permRows entry).agent.id) :
    r = (t.agentPlan uuid4 tenantId applicationId permRows entry).role := by
  have hplan := h.agentPlanned tenantId hentry
  obtain ⟨ha, hrole⟩ := h.mem_applyAgents_of_plan tenantId hentry
  obtain ⟨ht, happ, hname, -⟩ := h.role_ident tenantId hentry
  have hw := (h.evolves tenantId).wellFormed h.wellFormed
  obtain ⟨a, ha', haid, hat, haa, han⟩ := hw.internalRoles r hr _ hagent
  obtain rfl := List.inj_on_of_nodup_map hc.agentId ha' ha haid
  refine hc.roleKey.eq_of_key hr hrole (k := (tenantId, applicationId, agentRoleName entry.1.name))
    ?_ ?_
  · simp [Role.uniqueKey, hat, haa, han, hplan.tenant, hplan.application, hplan.name]
  · simp [Role.uniqueKey, ht, happ, hname]

/-- The row of an entry, its links or its permissions changed exactly when its
iteration says so. -/
lemma changed_iff (h : AgentsInput t uuid4 applicationId agents permRows)
    (hc : (t.applyAgents uuid4 tenantId applicationId agents permRows).1.Constraints)
    (hentry : entry ∈ agents.zipIdx) {a : Agent} (ha : a ∈ t.agents)
    (hid : a.id = (t.agentPlan uuid4 tenantId applicationId permRows entry).agent.id) :
    (t.agentPlan uuid4 tenantId applicationId permRows entry).changed = true ↔
      a ∉ (t.applyAgents uuid4 tenantId applicationId agents permRows).1.agents ∨
      others (t.applyAgents uuid4 tenantId applicationId agents permRows).1.agentRoles a.id ≠
        others t.agentRoles a.id ∨
      ∃ r ∈ (t.applyAgents uuid4 tenantId applicationId agents permRows).1.roles,
        r.agentId = some a.id ∧
          others (t.applyAgents uuid4 tenantId applicationId agents permRows).1.rolePermissions r.id ≠
            others t.rolePermissions r.id := by
  have hplan := h.agentPlanned tenantId hentry
  obtain ⟨hrow, hrole⟩ := h.mem_applyAgents_of_plan tenantId hentry
  obtain ⟨-, -, -, hagent⟩ := h.role_ident tenantId hentry
  have hcurrent : (t.agentPlan uuid4 tenantId applicationId permRows entry).currentPermissions =
      others t.rolePermissions (t.agentPlan uuid4 tenantId applicationId permRows entry).role.id :=
    h.current_permissionChanges ⟨_, _, _⟩
      (mem_permissionChanges.mpr ⟨entry, hentry, rfl, rfl, rfl⟩)
  rcases hplan.row with ⟨-, a', ha', hident, -, hlinks, hchanged⟩ | ⟨-, hnew, -⟩
  · obtain rfl := List.inj_on_of_nodup_map h.constraints.agentId ha ha'
      (hid.trans (Prod.mk.inj hident).1.symm)
    have hmem : a ∉ (t.applyAgents uuid4 tenantId applicationId agents permRows).1.agents ↔
        a ≠ (t.agentPlan uuid4 tenantId applicationId permRows entry).agent :=
      not_congr ⟨fun hm => List.inj_on_of_nodup_map hc.agentId hm hrow hid, fun heq => heq ▸ hrow⟩
    have hperms : (∃ r ∈ (t.applyAgents uuid4 tenantId applicationId agents permRows).1.roles,
        r.agentId = some a.id ∧
          others (t.applyAgents uuid4 tenantId applicationId agents permRows).1.rolePermissions r.id ≠
            others t.rolePermissions r.id) ↔
        (t.agentPlan uuid4 tenantId applicationId permRows entry).currentPermissions ≠
          (t.agentPlan uuid4 tenantId applicationId permRows entry).permissionIds := by
      rw [hcurrent, ← h.others_applyAgents_permissions hentry]
      constructor
      · rintro ⟨r, hr, hra, hne⟩
        rw [h.role_unique hc hentry hr (hra.trans (congrArg some hid))] at hne
        exact hne.symm
      · exact fun hne => ⟨_, hrole, hagent.trans (congrArg some hid.symm), hne.symm⟩
    have hroles : others (t.applyAgents uuid4 tenantId applicationId agents permRows).1.agentRoles
        a.id ≠ others t.agentRoles a.id ↔
        (t.agentPlan uuid4 tenantId applicationId permRows entry).currentRoles ≠
          {(t.agentPlan uuid4 tenantId applicationId permRows entry).role.id} := by
      rw [hlinks, hid, h.others_applyAgents_roles hentry]
      exact ne_comm
    rw [hchanged, hmem, hperms, hroles]
    exact or_congr_right or_comm
  · exact absurd (hnew ▸ hid ▸ List.mem_map_of_mem ha) (h.agent_new hentry).1

/-- The listed agents that changed are those counted. -/
lemma updated_eq (h : AgentsInput t uuid4 applicationId agents permRows)
    (hc : (t.applyAgents uuid4 tenantId applicationId agents permRows).1.Constraints) :
    ((t.agentPlans uuid4 tenantId applicationId agents permRows).filter fun p =>
        !p.created && p.changed).length =
      (t.agentCounts (t.applyAgents uuid4 tenantId applicationId agents permRows).1 tenantId
        applicationId agents).updated := by
  refine length_eq_of_keys (fun p : AgentPlan => p.agent.id) Agent.id ?_
    (h.constraints.agentId.sublist (List.filter_sublist.map _)) fun k => ?_
  · refine List.Nodup.sublist (List.filter_sublist.map _) ?_
    rw [agentPlans, List.map_map]
    exact nodup_map_zipIdx h.names fun e he e' he' => h.agentPlan_id_injOn he he'
  · constructor
    · intro hk
      obtain ⟨p, hp, rfl⟩ := List.mem_map.mp hk
      obtain ⟨hp, hflags⟩ := List.mem_filter.mp hp
      obtain ⟨e, he, rfl⟩ := mem_agentPlans.mp hp
      simp only [Bool.and_eq_true, Bool.not_eq_true'] at hflags
      have hplan := h.agentPlanned tenantId he
      rcases hplan.row with ⟨-, a, ha, hident, -⟩ | ⟨htrue, -⟩
      · have hchanged := (h.changed_iff hc he ha (Prod.mk.inj hident).1).mp hflags.2
        simp only [Agent.ident, Prod.mk.injEq] at hident
        refine List.mem_map.mpr ⟨a, List.mem_filter.mpr ⟨ha, decide_eq_true ⟨?_, ?_, ?_, hchanged⟩⟩,
          hident.1⟩
        · exact hident.2.1.trans hplan.tenant
        · exact hident.2.2.1.trans hplan.application
        · exact List.mem_map.mpr ⟨e.1, mem_agents_of_entry he,
            hplan.name.symm.trans hident.2.2.2.symm⟩
      · rw [hflags.1] at htrue
        cases htrue
    · intro hk
      obtain ⟨a, ha, rfl⟩ := List.mem_map.mp hk
      obtain ⟨ha, hcond⟩ := List.mem_filter.mp ha
      obtain ⟨ht, happ, hlisted, hchanged⟩ := of_decide_eq_true hcond
      obtain ⟨d, hd, hname⟩ := List.mem_map.mp hlisted
      obtain ⟨i, hi⟩ := List.mem_iff_getElem?.mp hd
      have he : (d, i) ∈ agents.zipIdx := List.mk_mem_zipIdx_iff_getElem?.mpr hi
      obtain ⟨hcreated, hident⟩ := h.ident_of_name he ha ht happ hname.symm
      have hid := (Prod.mk.inj hident).1
      refine List.mem_map.mpr ⟨_, List.mem_filter.mpr ⟨mem_agentPlans.mpr ⟨_, he, rfl⟩, ?_⟩,
        hid.symm⟩
      rw [hcreated, (h.changed_iff hc he ha hid).mpr hchanged]
      rfl

/-- The unlisted agents that changed are those disabled. -/
lemma disabled_eq (h : AgentsInput t uuid4 applicationId agents permRows) (tenantId : Id) :
    (t.unlistedAgents tenantId applicationId agents).length =
      (t.agentCounts (t.applyAgents uuid4 tenantId applicationId agents permRows).1 tenantId
        applicationId agents).disabled := by
  rw [unlistedAgents, pairAgents_eq h.constraints, List.filter_filter, agentCounts]
  refine congrArg List.length (List.filter_congr fun a ha => ?_)
  rw [← Bool.decide_and, decide_eq_decide]
  constructor
  · rintro ⟨⟨hlisted, hstatus⟩, ht, happ⟩
    refine ⟨ht, happ, hlisted, fun ha' => hstatus ?_⟩
    rcases h.mem_applyAgents_agents.mp ha' with ⟨e, he, rfl⟩ | ⟨a, -, rfl⟩ | ⟨-, hpair⟩
    · refine absurd (List.mem_map.mpr ⟨e.1, mem_agents_of_entry he, ?_⟩) hlisted
      exact (h.agentPlanned tenantId he).name.symm
    · rfl
    · exact absurd ⟨ht, happ⟩ hpair
  · rintro ⟨ht, happ, hlisted, hchanged⟩
    refine ⟨⟨hlisted, fun hstatus => hchanged ?_⟩, ht, happ⟩
    exact h.mem_applyAgents_agents.mpr (Or.inr (Or.inl ⟨a, ⟨ha, ht, happ, hlisted⟩, by
      rw [← hstatus]⟩))

/-- **The agent counts** are the differences between the tables. -/
theorem counts_eq (h : AgentsInput t uuid4 applicationId agents permRows) (tenantId : Id)
    (hc : (t.applyAgents uuid4 tenantId applicationId agents permRows).1.Constraints) :
    (t.applyAgents uuid4 tenantId applicationId agents permRows).2 =
      t.agentCounts (t.applyAgents uuid4 tenantId applicationId agents permRows).1 tenantId
        applicationId agents := by
  have hupdated := h.updated_eq hc
  have hdisabled := h.disabled_eq tenantId
  rw [agentCounts] at hupdated hdisabled ⊢
  rw [h.created_eq]
  simp only [applyAgents, List.length_map, ChangeCounts.mk.injEq, agentCreates]
  exact ⟨trivial, hupdated, hdisabled⟩

end AgentsInput

/-! ### No difference -/

/-- Tables that did not change have no differences. -/
lemma memberCounts_self (t : Tables) (tenantId applicationId : Id) (members : List DesiredMember) :
    t.memberCounts t tenantId applicationId members = ⟨0, 0, 0⟩ := by
  simp only [memberCounts, ChangeCounts.mk.injEq, List.length_eq_zero_iff, List.filter_eq_nil_iff,
    decide_eq_true_eq]
  refine ⟨fun m hm h => h.2.2 (List.mem_map_of_mem hm), fun m hm h => ?_, fun m hm h => h.2.2.2 hm⟩
  exact h.2.2.2.elim (fun h => h hm) fun h => h rfl

lemma agentCounts_self (t : Tables) (tenantId applicationId : Id) (agents : List DesiredAgent) :
    t.agentCounts t tenantId applicationId agents = ⟨0, 0, 0⟩ := by
  simp only [agentCounts, ChangeCounts.mk.injEq, List.length_eq_zero_iff, List.filter_eq_nil_iff,
    decide_eq_true_eq]
  refine ⟨fun a ha h => h.2.2 (List.mem_map_of_mem ha), fun a ha h => ?_, fun a ha h => h.2.2.2 ha⟩
  rcases h.2.2.2 with h | h | ⟨r, -, -, h⟩
  · exact h ha
  · exact h rfl
  · exact h rfl

end Tables

end AuthzKit
