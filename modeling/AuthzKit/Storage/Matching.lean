import AuthzKit.Storage.Permissions
import AuthzKit.Storage.StateSpec

/-!
What `apply_tenant_state` is for: the tables of a pair match the desired members and
agents.

* `MembersMatch`, `AgentsMatch`: that, said of the tables alone.
* `MembersInput.matches_after`, `AgentsInput.matches_after`: the steps establish it.
* `MembersInput.unchanged`, `AgentsInput.unchanged`: where it holds already, they
  change nothing.
* `AgentsMatch.resolveAgentPermissions_eq`: an agent that matches has the listed
  permissions.
-/

namespace AuthzKit

open Keyed Links

/-- A membership is its identity and its status. -/
lemma Membership.eq_of_ident {m m' : Membership} (h : m.ident = m'.ident)
    (hstatus : m.status = m'.status) : m = m' := by
  cases m
  cases m'
  simp_all

namespace Tables

/-! ### Matching -/

/-- One of the listed references denotes the user of the membership. -/
def ListedMember (t : Tables) (members : List DesiredMember) (m : Membership) : Prop :=
  ∃ d ∈ members, ∃ i ∈ t.externalIdentities, i.ref = d.userRef ∧ i.userId = m.userId

instance (t : Tables) (members : List DesiredMember) : DecidablePred (t.ListedMember members) :=
  fun m => inferInstanceAs (Decidable
    (∃ d ∈ members, ∃ i ∈ t.externalIdentities, i.ref = d.userRef ∧ i.userId = m.userId))

/-- The memberships of a pair are the listed ones, with their status and exactly the
roles their names resolve to; all others are disabled. -/
structure MembersMatch (t : Tables) (tenantId applicationId : Id) (members : List DesiredMember) :
    Prop where
  listed : ∀ d ∈ members, ∃ i ∈ t.externalIdentities, i.ref = d.userRef ∧ ∃ m ∈ t.memberships,
    m.tenantId = tenantId ∧ m.applicationId = some applicationId ∧ m.userId = i.userId ∧
      m.status = d.status ∧ ∀ j, (m.id, j) ∈ t.membershipRoles ↔
        ∃ n ∈ d.roles, ∃ r, t.resolveRole tenantId applicationId n = some r ∧ r.id = j
  unlisted : ∀ m ∈ t.memberships, m.tenantId = tenantId → m.applicationId = some applicationId →
    ¬t.ListedMember members m → m.status = statusDisabled

/-- The agents of a pair are the listed ones, with their status, display name and an
internal role that carries exactly the listed permissions; all others are
disabled. -/
structure AgentsMatch (t : Tables) (tenantId applicationId : Id) (agents : List DesiredAgent) :
    Prop where
  listed : ∀ d ∈ agents, ∃ a ∈ t.agents, a.tenantId = tenantId ∧ a.applicationId = applicationId ∧
    a.name = d.name ∧ a.status = d.status ∧ a.displayName = d.displayName ∧
      ∃ r ∈ t.roles, r.agentId = some a.id ∧ (∀ j, (a.id, j) ∈ t.agentRoles ↔ j = r.id) ∧
        ∀ j, (r.id, j) ∈ t.rolePermissions ↔ ∃ q ∈ t.permissions,
          q.applicationId = some applicationId ∧ q.active = true ∧ q.name ∈ d.permissions ∧ q.id = j
  unlisted : ∀ a ∈ t.agents, a.tenantId = tenantId → a.applicationId = applicationId →
    a.name ∉ agents.map DesiredAgent.name → a.status = statusDisabled

namespace MembersInput

variable {t : Tables} {uuid4 : UuidSource} {tenantId applicationId : Id}
  {members : List DesiredMember} {roleRows : List Role} {entry : DesiredMember × ℕ}

/-! ### Members -/

/-- After the step a reference denotes one user. -/
lemma userId_eq (h : MembersInput t uuid4 tenantId applicationId members roleRows)
    (hentry : entry ∈ members.zipIdx) {i : ExternalIdentity}
    (hi : i ∈ (t.applyMembers uuid4 tenantId applicationId members roleRows).1.externalIdentities)
    (href : i.ref = entry.1.userRef) : i.userId = t.memberUser uuid4 entry := by
  obtain ⟨i', hi', href', huser⟩ := h.exists_identity hentry
  rw [List.inj_on_of_nodup_map h.constraints_after.identityRef hi hi' (href.trans href'.symm), huser]

/-- The users of the entries are those the listed references denote. -/
lemma listedMember_iff (h : MembersInput t uuid4 tenantId applicationId members roleRows)
    {m : Membership} :
    (t.applyMembers uuid4 tenantId applicationId members roleRows).1.ListedMember members m ↔
      m.userId ∈ members.zipIdx.map (t.memberUser uuid4) := by
  constructor
  · rintro ⟨d, hd, i, hi, href, huser⟩
    obtain ⟨k, hk⟩ := List.mem_iff_getElem?.mp hd
    have he : (d, k) ∈ members.zipIdx := List.mk_mem_zipIdx_iff_getElem?.mpr hk
    exact List.mem_map.mpr ⟨_, he, (h.userId_eq he hi href).symm.trans huser⟩
  · intro hm
    obtain ⟨e, he, huser⟩ := List.mem_map.mp hm
    obtain ⟨i, hi, href, hiuser⟩ := h.exists_identity he
    exact ⟨e.1, List.mem_of_getElem? (List.mem_zipIdx_iff_getElem?.mp he), i, hi, href,
      hiuser.trans huser⟩

/-- A membership of the pair that no reference denotes is not that of an entry. -/
lemma plan_id_ne (h : MembersInput t uuid4 tenantId applicationId members roleRows)
    {m : Membership}
    (hm : m ∈ (t.applyMembers uuid4 tenantId applicationId members roleRows).1.memberships)
    (hlisted : ¬(t.applyMembers uuid4 tenantId applicationId members roleRows).1.ListedMember
      members m) (hentry : entry ∈ members.zipIdx) :
    m.id ≠ (t.memberPlan uuid4 tenantId applicationId members roleRows entry).membership.id := by
  intro heq
  have hrow := h.mem_applyMembers_memberships.mpr (Or.inl ⟨entry, hentry, rfl⟩)
  rw [List.inj_on_of_nodup_map h.constraints_after.membershipId hm hrow heq,
    h.listedMember_iff] at hlisted
  exact hlisted (List.mem_map.mpr ⟨entry, hentry, (h.memberPlanned hentry).user.symm⟩)

/-- The links of an entry's plan are the roles its names resolve to. -/
lemma mem_plan_roleIds (h : MembersInput t uuid4 tenantId applicationId members roleRows)
    (hrows : ∀ d ∈ members, ∀ n ∈ d.roles,
      lookup Role.name roleRows n = t.resolveRole tenantId applicationId n)
    (hentry : entry ∈ members.zipIdx) {j : Id} :
    j ∈ (t.memberPlan uuid4 tenantId applicationId members roleRows entry).roleIds ↔
      ∃ n ∈ entry.1.roles, ∃ r, t.resolveRole tenantId applicationId n = some r ∧ r.id = j := by
  have hmem : entry.1 ∈ members := List.mem_of_getElem? (List.mem_zipIdx_iff_getElem?.mp hentry)
  rw [(h.memberPlanned hentry).roleIds, mem_roleIds]
  constructor
  · rintro ⟨r, hr, hid⟩
    obtain ⟨n, hn, hl⟩ := List.mem_filterMap.mp hr
    exact ⟨n, hn, r, (hrows _ hmem n hn).symm.trans hl, hid⟩
  · rintro ⟨n, hn, r, hr, hid⟩
    exact ⟨r, List.mem_filterMap.mpr ⟨n, hn, (hrows _ hmem n hn).trans hr⟩, hid⟩

/-- **The step makes the memberships match.** -/
theorem matches_after (h : MembersInput t uuid4 tenantId applicationId members roleRows)
    (hrows : ∀ d ∈ members, ∀ n ∈ d.roles,
      lookup Role.name roleRows n = t.resolveRole tenantId applicationId n) :
    MembersMatch (t.applyMembers uuid4 tenantId applicationId members roleRows).1 tenantId
      applicationId members where
  listed := fun d hd => by
    obtain ⟨k, hk⟩ := List.mem_iff_getElem?.mp hd
    have he : (d, k) ∈ members.zipIdx := List.mk_mem_zipIdx_iff_getElem?.mpr hk
    have hplan := h.memberPlanned he
    obtain ⟨i, hi, href, huser⟩ := h.exists_identity he
    refine ⟨i, hi, href, _, h.mem_applyMembers_memberships.mpr (Or.inl ⟨_, he, rfl⟩), hplan.tenant,
      hplan.application, hplan.user.trans huser.symm, hplan.status, fun j => ?_⟩
    rw [← mem_others, h.others_applyMembers he, h.mem_plan_roleIds hrows he]
    rfl
  unlisted := fun m hm ht happ hlisted => by
    rcases h.mem_applyMembers_memberships.mp hm with ⟨e, he, rfl⟩ | ⟨m, -, rfl⟩ | ⟨-, hpair⟩
    · exact absurd rfl (h.plan_id_ne hm hlisted he)
    · rfl
    · exact absurd ⟨ht, happ⟩ hpair

/-- **Where the memberships match, the step changes nothing.** -/
theorem unchanged (h : MembersInput t uuid4 tenantId applicationId members roleRows)
    (hrows : ∀ d ∈ members, ∀ n ∈ d.roles,
      lookup Role.name roleRows n = t.resolveRole tenantId applicationId n)
    (hmatch : MembersMatch t tenantId applicationId members) :
    (t.applyMembers uuid4 tenantId applicationId members roleRows).1 = t := by
  -- each entry finds its user and its membership, with the listed status and links
  have hfound : ∀ e ∈ members.zipIdx, t.memberNew uuid4 e = none ∧
      (t.memberPlan uuid4 tenantId applicationId members roleRows e).created = false ∧
      (t.memberPlan uuid4 tenantId applicationId members roleRows e).membership ∈ t.memberships ∧
      (t.memberPlan uuid4 tenantId applicationId members roleRows e).current =
        (t.memberPlan uuid4 tenantId applicationId members roleRows e).roleIds := by
    intro e he
    obtain ⟨i, hi, href, m, hm, ht, happ, huser, hstatus, hlinks⟩ := hmatch.listed e.1
      (List.mem_of_getElem? (List.mem_zipIdx_iff_getElem?.mp he))
    have hl : lookup ExternalIdentity.ref t.externalIdentities e.1.userRef = some i :=
      (lookup_eq_some_iff h.constraints.identityRef).mpr ⟨hi, href⟩
    have hplan := h.memberPlanned he
    obtain ⟨hcreated, hident⟩ := h.ident_of_user he hm ht happ (by rw [huser, memberUser, hl])
    have hrow := Membership.eq_of_ident hident (hstatus.trans hplan.status.symm)
    refine ⟨by rw [memberNew, hl], hcreated, hrow ▸ hm, ?_⟩
    rcases hplan.row with ⟨-, m', -, hident', hcurrent, -⟩ | ⟨htrue, -⟩
    · ext j
      rw [hcurrent, mem_others, (Prod.mk.inj hident').1, ← hrow, hlinks, h.mem_plan_roleIds hrows he]
    · rw [hcreated] at htrue
      cases htrue
  have hlistedUser : ∀ m : Membership, m.userId ∉ members.zipIdx.map (t.memberUser uuid4) →
      ¬t.ListedMember members m := by
    rintro m hm ⟨d, hd, i, hi, href, huser⟩
    obtain ⟨k, hk⟩ := List.mem_iff_getElem?.mp hd
    have hl : lookup ExternalIdentity.ref t.externalIdentities d.userRef = some i :=
      (lookup_eq_some_iff h.constraints.identityRef).mpr ⟨hi, href⟩
    exact hm (List.mem_map.mpr ⟨(d, k), List.mk_mem_zipIdx_iff_getElem?.mpr hk, by
      rw [memberUser, hl, ← huser]⟩)
  have hnews : t.memberNews uuid4 tenantId applicationId members roleRows = [] :=
    List.eq_nil_iff_forall_not_mem.mpr fun x hx => by
      obtain ⟨e, he, hnew⟩ := h.mem_memberNews.mp hx
      rw [(hfound e he).1] at hnew
      cases hnew
  have hcreates : t.memberCreates uuid4 tenantId applicationId members roleRows = [] :=
    List.eq_nil_iff_forall_not_mem.mpr fun x hx => by
      obtain ⟨e, he, hcreated, -⟩ := mem_memberCreates.mp hx
      rw [(hfound e he).2.1] at hcreated
      cases hcreated
  have hwrites : ∀ x ∈ t.memberWrites uuid4 tenantId applicationId members roleRows,
      x ∈ t.memberships := fun x hx => by
    rcases h.mem_memberWrites.mp hx with ⟨e, he, -, rfl⟩ | ⟨m, ⟨hm, ht, happ, hun⟩, hstatus, -⟩
    · exact (hfound e he).2.2.1
    · exact absurd (hmatch.unlisted m hm ht happ (hlistedUser m hun)) hstatus
  have hchanges : ∀ c ∈ t.memberChanges uuid4 tenantId applicationId members roleRows,
      c.current = c.ids := fun c hc => by
    obtain ⟨e, he, -, hids, hcur⟩ := mem_memberChanges.mp hc
    rw [hids, hcur, (hfound e he).2.2.2]
  rw [applyMembers_tables, hnews, hcreates, updateAll_eq_self h.constraints.membershipId hwrites,
    replaceAll_eq_self hchanges]
  simp

end MembersInput

namespace AgentsInput

variable {t : Tables} {uuid4 : UuidSource} {tenantId applicationId : Id}
  {agents : List DesiredAgent} {permRows : List Permission} {entry : DesiredAgent × ℕ}

/-! ### Agents -/

lemma mem_agents_of_entry (hentry : entry ∈ agents.zipIdx) : entry.1 ∈ agents :=
  List.mem_of_getElem? (List.mem_zipIdx_iff_getElem?.mp hentry)

/-- The permissions of an entry's plan are the active ones with a listed name. -/
lemma mem_plan_permissionIds (h : AgentsInput t uuid4 applicationId agents permRows)
    (hrows : ∀ d ∈ agents, ∀ n ∈ d.permissions, ∀ q, lookup Permission.name permRows n = some q ↔
      q ∈ t.permissions ∧ q.applicationId = some applicationId ∧ q.active = true ∧ q.name = n)
    (hentry : entry ∈ agents.zipIdx) {j : Id} :
    j ∈ (t.agentPlan uuid4 tenantId applicationId permRows entry).permissionIds ↔
      ∃ q ∈ t.permissions, q.applicationId = some applicationId ∧ q.active = true ∧
        q.name ∈ entry.1.permissions ∧ q.id = j := by
  rw [(h.agentPlanned _ hentry).permissionIds, mem_permissionIds]
  constructor
  · rintro ⟨q, hq, hid⟩
    obtain ⟨n, hn, hl⟩ := List.mem_filterMap.mp hq
    obtain ⟨hmem, happ, hactive, rfl⟩ := (hrows _ (mem_agents_of_entry hentry) n hn q).mp hl
    exact ⟨q, hmem, happ, hactive, hn, hid⟩
  · rintro ⟨q, hmem, happ, hactive, hn, hid⟩
    exact ⟨q, List.mem_filterMap.mpr ⟨q.name, hn,
      (hrows _ (mem_agents_of_entry hentry) _ hn q).mpr ⟨hmem, happ, hactive, rfl⟩⟩, hid⟩

/-- **The step makes the agents match.** -/
theorem matches_after (h : AgentsInput t uuid4 applicationId agents permRows)
    (hrows : ∀ d ∈ agents, ∀ n ∈ d.permissions, ∀ q, lookup Permission.name permRows n = some q ↔
      q ∈ t.permissions ∧ q.applicationId = some applicationId ∧ q.active = true ∧ q.name = n) :
    AgentsMatch (t.applyAgents uuid4 tenantId applicationId agents permRows).1 tenantId
      applicationId agents where
  listed := fun d hd => by
    obtain ⟨k, hk⟩ := List.mem_iff_getElem?.mp hd
    have he : (d, k) ∈ agents.zipIdx := List.mk_mem_zipIdx_iff_getElem?.mpr hk
    have hplan := h.agentPlanned tenantId he
    obtain ⟨ha, hr⟩ := h.mem_applyAgents_of_plan tenantId he
    refine ⟨_, ha, hplan.tenant, hplan.application, hplan.name, hplan.status, hplan.displayName, _,
      hr, (h.role_ident _ he).2.2.2, fun j => ?_, fun j => ?_⟩
    · rw [← mem_others, h.others_applyAgents_roles he, Finset.mem_singleton]
    · rw [← mem_others, h.others_applyAgents_permissions he, h.mem_plan_permissionIds hrows he]
      rfl
  unlisted := fun a ha ht happ hname => by
    rcases h.mem_applyAgents_agents.mp ha with ⟨e, he, rfl⟩ | ⟨a, -, rfl⟩ | ⟨-, hpair⟩
    · refine absurd (List.mem_map.mpr ⟨e.1, mem_agents_of_entry he, ?_⟩) hname
      exact (h.agentPlanned tenantId he).name.symm
    · rfl
    · exact absurd ⟨ht, happ⟩ hpair

/-- **Where the agents match, the step changes nothing.** -/
theorem unchanged (h : AgentsInput t uuid4 applicationId agents permRows)
    (hrows : ∀ d ∈ agents, ∀ n ∈ d.permissions, ∀ q, lookup Permission.name permRows n = some q ↔
      q ∈ t.permissions ∧ q.applicationId = some applicationId ∧ q.active = true ∧ q.name = n)
    (hmatch : AgentsMatch t tenantId applicationId agents) :
    (t.applyAgents uuid4 tenantId applicationId agents permRows).1 = t := by
  -- each entry finds its agent and its internal role, with the listed links
  have hfound : ∀ e ∈ agents.zipIdx,
      (t.agentPlan uuid4 tenantId applicationId permRows e).created = false ∧
      (t.agentPlan uuid4 tenantId applicationId permRows e).agent ∈ t.agents ∧
      (t.agentPlan uuid4 tenantId applicationId permRows e).roleCreated = false ∧
      (t.agentPlan uuid4 tenantId applicationId permRows e).currentRoles =
        {(t.agentPlan uuid4 tenantId applicationId permRows e).role.id} ∧
      (t.agentPlan uuid4 tenantId applicationId permRows e).currentPermissions =
        (t.agentPlan uuid4 tenantId applicationId permRows e).permissionIds := by
    intro e he
    obtain ⟨a, ha, ht, happ, hname, hstatus, hdisplay, r, hr, hagent, hlinks, hperms⟩ :=
      hmatch.listed e.1 (mem_agents_of_entry he)
    have hplan := h.agentPlanned tenantId he
    obtain ⟨hcreated, hident⟩ := h.ident_of_name he ha ht happ hname
    have hid := (Prod.mk.inj hident).1
    obtain ⟨hroleTenant, hroleApp, hroleName, hroleAgent⟩ := h.role_ident tenantId he
    have hrow : (t.agentPlan uuid4 tenantId applicationId permRows e).agent = a ∧
        (t.agentPlan uuid4 tenantId applicationId permRows e).currentRoles =
          others t.agentRoles a.id := by
      rcases hplan.row with ⟨-, a', ha', hident', hrow, hcurrent, -⟩ | ⟨htrue, -⟩
      · obtain rfl := List.inj_on_of_nodup_map h.constraints.agentId ha ha'
          (hid.trans (Prod.mk.inj hident').1.symm)
        exact ⟨by rw [hrow, ← hstatus, ← hdisplay], hcurrent⟩
      · rw [hcreated] at htrue
        cases htrue
    rcases hplan.role with ⟨hroleCreated, hrole, -, hcurrent, -⟩ | ⟨-, -, -, -, -, -, -, hnone⟩
    · -- an agent has one internal role, for its name is taken from the agent
      obtain ⟨a', ha', haid, hat, haa, han⟩ := h.wellFormed.internalRoles r hr _ hagent
      obtain rfl := List.inj_on_of_nodup_map h.constraints.agentId ha' ha haid
      have hsame : (t.agentPlan uuid4 tenantId applicationId permRows e).role = r := by
        refine h.constraints.roleKey.eq_of_key hrole hr (k := (tenantId, applicationId,
          agentRoleName e.1.name)) ?_ ?_
        · simp [Role.uniqueKey, hroleTenant, hroleApp, hroleName]
        · simp [Role.uniqueKey, hat, haa, han, ht, happ, hname]
      refine ⟨hcreated, hrow.1 ▸ ha, hroleCreated, ?_, ?_⟩
      · ext j
        rw [hrow.2, mem_others, hlinks, hsame, Finset.mem_singleton]
      · ext j
        rw [hcurrent, mem_others, hsame, hperms, h.mem_plan_permissionIds hrows he]
    · exact absurd (hagent.trans (congrArg some hid)) (hnone r hr)
  have hcreates : t.agentCreates uuid4 tenantId applicationId agents permRows = [] :=
    List.eq_nil_iff_forall_not_mem.mpr fun x hx => by
      obtain ⟨e, he, hcreated, -⟩ := mem_agentCreates.mp hx
      rw [(hfound e he).1] at hcreated
      cases hcreated
  have hroleCreates : t.roleCreates uuid4 tenantId applicationId agents permRows = [] :=
    List.eq_nil_iff_forall_not_mem.mpr fun r hr => by
      obtain ⟨e, he, hcreated, -⟩ := mem_roleCreates.mp hr
      rw [(hfound e he).2.2.1] at hcreated
      cases hcreated
  have hwrites : ∀ x ∈ t.agentWrites uuid4 tenantId applicationId agents permRows,
      x ∈ t.agents := fun x hx => by
    rcases (mem_agentWrites h.constraints).mp hx with
      ⟨e, he, -, rfl⟩ | ⟨a, ⟨ha, ht, happ, hname⟩, hstatus, -⟩
    · exact (hfound e he).2.1
    · exact absurd (hmatch.unlisted a ha ht happ hname) hstatus
  have hpermissionChanges : ∀ c ∈ t.permissionChanges uuid4 tenantId applicationId agents permRows,
      c.current = c.ids := fun c hc => by
    obtain ⟨e, he, -, hids, hcur⟩ := mem_permissionChanges.mp hc
    rw [hids, hcur, (hfound e he).2.2.2.2]
  have hroleChanges : ∀ c ∈ t.agentRoleChanges uuid4 tenantId applicationId agents permRows,
      c.current = c.ids := fun c hc => by
    obtain ⟨e, he, -, hids, hcur⟩ := mem_agentRoleChanges.mp hc
    rw [hids, hcur, (hfound e he).2.2.2.1]
  rw [applyAgents_tables, hcreates, hroleCreates, updateAll_eq_self h.constraints.agentId hwrites,
    replaceAll_eq_self hpermissionChanges, replaceAll_eq_self hroleChanges]
  simp

end AgentsInput

/-! ### What matching agents may do -/

/-- **An agent that matches has exactly the listed permissions.** -/
theorem AgentsMatch.resolveAgentPermissions_eq {t : Tables} {tenantId applicationId : Id}
    {agents : List DesiredAgent} (h : AgentsMatch t tenantId applicationId agents)
    (hc : t.Constraints) (hw : t.WellFormed) {d : DesiredAgent} (hd : d ∈ agents)
    (hactive : ∀ n ∈ d.permissions, t.PermissionActive applicationId n) {a : Agent}
    (ha : a ∈ t.agents) (ht : a.tenantId = tenantId) (happ : a.applicationId = applicationId)
    (hname : a.name = d.name) :
    t.resolveAgentPermissions tenantId applicationId a.id = d.permissions.toFinset := by
  obtain ⟨a', ha', ht', happ', hname', -, -, r, hr, hagent, hlinks, hperms⟩ := h.listed d hd
  obtain rfl := List.inj_on_of_nodup_map hc.agentKey ha ha' (by
    simp [Agent.uniqueKey, ht, happ, hname, ht', happ', hname'])
  have hget : t.getAgent tenantId applicationId a.id = some a :=
    (getAgent_eq_some_iff hc).mpr ⟨ha, rfl, ht, happ⟩
  -- an internal role is of its agent's tenant and is not overridden
  have hrole : RoleIn tenantId r ∧ t.effectiveRoleId tenantId r = r.id := by
    obtain ⟨b, hb, hbid, hbt, -⟩ := hw.internalRoles r hr _ hagent
    obtain rfl := List.inj_on_of_nodup_map hc.agentId hb ha hbid
    exact ⟨Or.inr (hbt.trans (congrArg some ht)), by rw [effectiveRoleId, if_neg (by simp [hagent])]⟩
  ext p
  rw [mem_resolveAgentPermissions, List.mem_toFinset]
  constructor
  · rintro ⟨b, hb, q, ⟨r', hr', hlink, -, hq, -, hrq⟩, rfl⟩
    obtain rfl := Option.some.inj (hget.symm.trans hb)
    obtain rfl := List.inj_on_of_nodup_map hc.roleId hr' hr ((hlinks _).mp hlink)
    rw [hrole.2] at hrq
    obtain ⟨q', hq', -, -, hn, hid⟩ := (hperms _).mp hrq
    obtain rfl := List.inj_on_of_nodup_map hc.permissionId hq' hq hid
    exact hn
  · intro hp
    obtain ⟨q, hq, hqapp, rfl, hdep⟩ := hactive p hp
    have hqactive : q.active = true := by simp [Permission.active, hdep]
    refine ⟨a, hget, q, ⟨r, hr, (hlinks _).mpr rfl, hrole.1, hq, hqactive, ?_⟩, rfl⟩
    rw [hrole.2]
    exact (hperms _).mpr ⟨q, hq, hqapp, hqactive, hp, rfl⟩

end Tables

end AuthzKit
