import AuthzKit.Storage.Evolution

/-!
What the step over the agents of `apply_tenant_state` does.

* `AgentsInput`: what the step starts from.
* `AgentPlanned`: what one iteration decides; different entries decide about
  different agents and different internal roles.
* `mem_applyAgents_agents`, `others_applyAgents_roles`,
  `others_applyAgents_permissions`: its agents, their links and those of their internal
  roles, exactly.
* `evolves`, `constraints_after_iff`, `foreignKeys_after`: the tables after it. A role
  that is not internal may hold the name an internal role needs; the constraints
  are kept exactly when none does.
-/

namespace AuthzKit

open Keyed Links

/-- The draws of a loop over `n` agents. -/
def Draw.OfAgent (n : ℕ) (d : Draw) : Prop := ∃ i < n, d = .agent i ∨ d = .role i

namespace Tables

/-- What the step over the agents starts from: `permRows` are active permissions of
the application. -/
structure AgentsInput (t : Tables) (uuid4 : UuidSource) (applicationId : Id)
    (agents : List DesiredAgent) (permRows : List Permission) : Prop where
  constraints : t.Constraints
  wellFormed : t.WellFormed
  ids : NewIds uuid4 t (Draw.OfAgent agents.length)
  names : (agents.map DesiredAgent.name).Nodup
  permissions : ∀ q ∈ permRows, q ∈ t.permissions ∧ q.applicationId = some applicationId ∧
    q.active = true

/-! ### The rows of a pair -/

section Pair

variable {t : Tables} {tenantId applicationId : Id}

lemma pairAgents_eq (hc : t.Constraints) :
    t.pairAgents tenantId applicationId = t.agents.filter fun a =>
      a.tenantId = tenantId ∧ a.applicationId = applicationId := by
  refine ofList_eq_self (List.Nodup.map_on (fun a ha b hb hab => ?_) ?_)
  · simp only [List.mem_filter, decide_eq_true_eq] at ha hb
    refine List.inj_on_of_nodup_map hc.agentKey ha.1 hb.1 ?_
    simp [Agent.uniqueKey, ha, hb, hab]
  · exact (List.Nodup.of_map _ hc.agentId).filter _

lemma mem_pairAgents (hc : t.Constraints) {a : Agent} :
    a ∈ t.pairAgents tenantId applicationId ↔
      a ∈ t.agents ∧ a.tenantId = tenantId ∧ a.applicationId = applicationId := by
  rw [pairAgents_eq hc]
  simp

end Pair

/-! ### What the step writes -/

section Writes

variable (t : Tables) (uuid4 : UuidSource) (tenantId applicationId : Id)
  (agents : List DesiredAgent) (permRows : List Permission)

/-- The plan of one entry. -/
def agentPlan (entry : DesiredAgent × ℕ) : AgentPlan :=
  planAgent uuid4 tenantId applicationId (t.pairAgents tenantId applicationId)
    (t.internalRoles tenantId applicationId) t.agentRoles t.rolePermissions permRows entry.1 entry.2

/-- The agent rows written back: the listed ones, and the others that are
disabled. -/
def agentWrites : List Agent :=
  ((t.agentPlans uuid4 tenantId applicationId agents permRows).filter fun p => !p.created).map
      AgentPlan.agent ++
    (t.unlistedAgents tenantId applicationId agents).map fun a => { a with status := statusDisabled }

/-- The new agent rows. -/
def agentCreates : List Agent :=
  ((t.agentPlans uuid4 tenantId applicationId agents permRows).filter fun p => p.created).map
    AgentPlan.agent

/-- The new internal roles. -/
def roleCreates : List Role :=
  ((t.agentPlans uuid4 tenantId applicationId agents permRows).filter fun p => p.roleCreated).map
    AgentPlan.role

/-- The changes of the permissions of internal roles. -/
def permissionChanges : List (Change Id Id) :=
  (t.agentPlans uuid4 tenantId applicationId agents permRows).map fun p =>
    ⟨p.role.id, p.permissionIds, p.currentPermissions⟩

/-- The changes of the agents' roles. -/
def agentRoleChanges : List (Change Id Id) :=
  (t.agentPlans uuid4 tenantId applicationId agents permRows).map fun p =>
    ⟨p.agent.id, {p.role.id}, p.currentRoles⟩

lemma applyAgents_tables :
    (t.applyAgents uuid4 tenantId applicationId agents permRows).1 =
      { t with
        agents := updateAll Agent.id t.agents
            (t.agentWrites uuid4 tenantId applicationId agents permRows) ++
          t.agentCreates uuid4 tenantId applicationId agents permRows
        roles := t.roles ++ t.roleCreates uuid4 tenantId applicationId agents permRows
        rolePermissions := replaceAll t.rolePermissions
          (t.permissionChanges uuid4 tenantId applicationId agents permRows)
        agentRoles := replaceAll t.agentRoles
          (t.agentRoleChanges uuid4 tenantId applicationId agents permRows) } := rfl

end Writes

/-! ### The plans -/

lemma mem_agentPlans {t : Tables} {uuid4 : UuidSource} {tenantId applicationId : Id}
    {agents : List DesiredAgent} {permRows : List Permission} {p : AgentPlan} :
    p ∈ t.agentPlans uuid4 tenantId applicationId agents permRows ↔
      ∃ e ∈ agents.zipIdx, t.agentPlan uuid4 tenantId applicationId permRows e = p :=
  List.mem_map

/-- What one iteration decides about its entry. -/
structure AgentPlanned (t : Tables) (uuid4 : UuidSource) (tenantId applicationId : Id)
    (permRows : List Permission) (entry : DesiredAgent × ℕ) (p : AgentPlan) : Prop where
  tenant : p.agent.tenantId = tenantId
  application : p.agent.applicationId = applicationId
  name : p.agent.name = entry.1.name
  status : p.agent.status = entry.1.status
  displayName : p.agent.displayName = entry.1.displayName
  permissionIds :
    p.permissionIds = permissionIds (entry.1.permissions.filterMap (lookup Permission.name permRows))
  row : (p.created = false ∧ ∃ a ∈ t.agents, a.ident = p.agent.ident ∧
      p.agent = { a with status := entry.1.status, displayName := entry.1.displayName } ∧
      p.currentRoles = others t.agentRoles a.id ∧
      (p.changed = true ↔ a ≠ p.agent ∨ p.currentPermissions ≠ p.permissionIds ∨
        p.currentRoles ≠ {p.role.id})) ∨
    (p.created = true ∧ p.agent.id = uuid4 (.agent entry.2) ∧ p.currentRoles = ∅ ∧
      p.agent.createdByUserId = none ∧
      ∀ a ∈ t.agents, a.tenantId = tenantId → a.applicationId = applicationId →
        a.name ≠ p.agent.name)
  role : (p.roleCreated = false ∧ p.role ∈ t.roles ∧ p.role.agentId = some p.agent.id ∧
      p.currentPermissions = others t.rolePermissions p.role.id ∧
      (t.roles.filter fun r => r.agentId = some p.agent.id).getLast? = some p.role) ∨
    (p.roleCreated = true ∧ p.role.id = uuid4 (.role entry.2) ∧
      p.role.tenantId = some tenantId ∧ p.role.applicationId = some applicationId ∧
      p.role.name = agentRoleName entry.1.name ∧ p.role.agentId = some p.agent.id ∧
      p.currentPermissions = ∅ ∧ ∀ r ∈ t.roles, r.agentId ≠ some p.agent.id)

namespace AgentsInput

variable {t : Tables} {uuid4 : UuidSource} {tenantId applicationId : Id}
  {agents : List DesiredAgent} {permRows : List Permission} {entry entry' : DesiredAgent × ℕ}

lemma ofAgent (hentry : entry ∈ agents.zipIdx) {d : Draw}
    (hd : d = .agent entry.2 ∨ d = .role entry.2) : Draw.OfAgent agents.length d :=
  ⟨entry.2, by simpa using List.snd_lt_of_mem_zipIdx hentry, hd⟩

/-- The position of an entry is its own. -/
lemma entry_eq (hentry : entry ∈ agents.zipIdx) (hentry' : entry' ∈ agents.zipIdx)
    (h : entry.2 = entry'.2) : entry = entry' := by
  rw [List.mem_zipIdx_iff_getElem?] at hentry hentry'
  rw [h, hentry'] at hentry
  exact Prod.ext (Option.some.inj hentry).symm h

/-- No row has the id of a new agent, and no role belongs to it. -/
lemma agent_new (h : AgentsInput t uuid4 applicationId agents permRows)
    (hentry : entry ∈ agents.zipIdx) :
    uuid4 (.agent entry.2) ∉ t.agents.map Agent.id ∧
      ∀ r ∈ t.roles, r.agentId ≠ some (uuid4 (.agent entry.2)) := by
  have hnew : uuid4 (.agent entry.2) ∉ t.agents.map Agent.id := fun hm =>
    h.ids.new _ (ofAgent hentry (Or.inl rfl))
      (id_mem_rowIds (Or.inr (Or.inr (Or.inr (Or.inr (Or.inr hm))))))
  refine ⟨hnew, fun r hr hid => hnew ?_⟩
  obtain ⟨a, ha, haid, -⟩ := h.wellFormed.internalRoles r hr _ hid
  exact haid ▸ List.mem_map_of_mem ha

lemma role_new (h : AgentsInput t uuid4 applicationId agents permRows)
    (hentry : entry ∈ agents.zipIdx) : uuid4 (.role entry.2) ∉ t.roles.map Role.id := fun hm =>
  h.ids.new _ (ofAgent hentry (Or.inr rfl))
    (id_mem_rowIds (Or.inr (Or.inr (Or.inr (Or.inr (Or.inl hm))))))

/-- The internal role of an agent of the pair is the last one filed under it. -/
lemma lookup_internalRoles {i : Id}
    (hi : i ∈ (t.pairAgents tenantId applicationId).map Agent.id) :
    lookup Role.agentId (t.internalRoles tenantId applicationId) (some i) =
      (t.roles.filter fun r => r.agentId = some i).getLast? := by
  rw [internalRoles, lookup_ofList, List.filter_filter]
  congr 1
  refine List.filter_congr fun r _ => ?_
  by_cases hr : r.agentId = some i
  · simpa [hr] using hi
  · simp [hr]

lemma of_mem_internalRoles {r : Role} (hr : r ∈ t.internalRoles tenantId applicationId) :
    r ∈ t.roles := (List.mem_filter.mp (mem_of_mem_ofList hr)).1

lemma agentPlanned (h : AgentsInput t uuid4 applicationId agents permRows) (tenantId : Id)
    (hentry : entry ∈ agents.zipIdx) :
    AgentPlanned t uuid4 tenantId applicationId permRows entry
      (t.agentPlan uuid4 tenantId applicationId permRows entry) := by
  rw [agentPlan, planAgent, agentRow]
  cases hl : lookup Agent.name (t.pairAgents tenantId applicationId) entry.1.name with
  | none =>
      obtain ⟨-, hroles⟩ := h.agent_new hentry
      have hnone : lookup Role.agentId (t.internalRoles tenantId applicationId)
          (some (uuid4 (.agent entry.2))) = none :=
        lookup_eq_none_iff.mpr fun r hr => hroles r (of_mem_internalRoles hr)
      simp only [internalRole, hnone]
      refine ⟨rfl, rfl, rfl, rfl, rfl, rfl, Or.inr ⟨rfl, rfl, rfl, rfl, fun a ha ht happ => ?_⟩,
        Or.inr ⟨rfl, rfl, rfl, rfl, rfl, rfl, rfl, hroles⟩⟩
      exact lookup_eq_none_iff.mp hl a ((mem_pairAgents h.constraints).mpr ⟨ha, ht, happ⟩)
  | some a =>
      obtain ⟨ha, ht, happ⟩ := (mem_pairAgents h.constraints).mp (mem_of_lookup hl)
      have hname : a.name = entry.1.name := key_of_lookup hl
      have hids := List.mem_map_of_mem (f := Agent.id) (mem_of_lookup hl)
      have hlast := lookup_internalRoles hids
      -- the row changed exactly when one of its two columns does
      have hrow : ∀ b c : Prop, [Decidable b] → [Decidable c] →
          ((decide (a.status ≠ entry.1.status ∨ a.displayName ≠ entry.1.displayName) ||
            decide (b ∨ c)) = true ↔
          a ≠ { a with status := entry.1.status, displayName := entry.1.displayName } ∨ b ∨ c) := by
        intro b c _ _
        rw [Bool.or_eq_true, decide_eq_true_eq, decide_eq_true_eq]
        refine or_congr_left ?_
        obtain ⟨id, tenantId, applicationId, name, displayName, status, roleLabel, createdBy⟩ := a
        simp only [ne_eq, Agent.mk.injEq, true_and, and_true]
        tauto
      cases hr : lookup Role.agentId (t.internalRoles tenantId applicationId) (some a.id) with
      | some role =>
          have hrole : internalRole uuid4 tenantId applicationId
              (t.internalRoles tenantId applicationId)
              { a with status := entry.1.status, displayName := entry.1.displayName } entry.1.name
              entry.2 = (role, false) := by rw [internalRole, hr]
          simp only [hrole]
          exact ⟨ht, happ, hname, rfl, rfl, rfl,
            Or.inl ⟨rfl, a, ha, rfl, rfl, rfl, hrow _ _⟩,
            Or.inl ⟨rfl, of_mem_internalRoles (mem_of_lookup hr), key_of_lookup hr, rfl,
              hlast.symm.trans hr⟩⟩
      | none =>
          simp only [internalRole, hr]
          refine ⟨ht, happ, hname, rfl, rfl, rfl, Or.inl ⟨rfl, a, ha, rfl, rfl, rfl, hrow _ _⟩,
            Or.inr ⟨rfl, rfl, rfl, rfl, rfl, rfl, rfl, fun r hr' hid => ?_⟩⟩
          rw [hr, eq_comm, List.getLast?_eq_none_iff] at hlast
          exact List.filter_eq_nil_iff.mp hlast r hr' (by simpa using hid)

/-- Different entries decide about different agents. -/
lemma agentPlan_id_injOn (h : AgentsInput t uuid4 applicationId agents permRows)
    (hentry : entry ∈ agents.zipIdx) (hentry' : entry' ∈ agents.zipIdx)
    (heq : (t.agentPlan uuid4 tenantId applicationId permRows entry).agent.id =
      (t.agentPlan uuid4 tenantId applicationId permRows entry').agent.id) :
    entry.1.name = entry'.1.name := by
  have hp := h.agentPlanned tenantId hentry
  have hp' := h.agentPlanned tenantId hentry'
  rcases hp.row with ⟨-, a, ha, hident, -⟩ | ⟨-, hid, -⟩
  · rcases hp'.row with ⟨-, a', ha', hident', -⟩ | ⟨-, hid', -⟩
    · simp only [Agent.ident, Prod.mk.injEq] at hident hident'
      have haa := List.inj_on_of_nodup_map h.constraints.agentId ha ha'
        (hident.1.trans (heq.trans hident'.1.symm))
      rw [← hp.name, ← hp'.name, ← hident.2.2.2, ← hident'.2.2.2, haa]
    · simp only [Agent.ident, Prod.mk.injEq] at hident
      exact absurd (List.mem_map.mpr ⟨a, ha, hident.1.trans (heq.trans hid')⟩) (h.agent_new hentry').1
  · rcases hp'.row with ⟨-, a', ha', hident', -⟩ | ⟨-, hid', -⟩
    · simp only [Agent.ident, Prod.mk.injEq] at hident'
      exact absurd (List.mem_map.mpr ⟨a', ha', hident'.1.trans (heq.symm.trans hid)⟩)
        (h.agent_new hentry).1
    · have hd := h.ids.injOn _ _ (ofAgent hentry (Or.inl rfl)) (ofAgent hentry' (Or.inl rfl))
        (hid.symm.trans (heq.trans hid'))
      rw [entry_eq hentry hentry' (Draw.agent.inj hd)]

/-- Different entries decide about different internal roles. -/
lemma agentPlan_role_injOn (h : AgentsInput t uuid4 applicationId agents permRows)
    (hentry : entry ∈ agents.zipIdx) (hentry' : entry' ∈ agents.zipIdx)
    (heq : (t.agentPlan uuid4 tenantId applicationId permRows entry).role.id =
      (t.agentPlan uuid4 tenantId applicationId permRows entry').role.id) :
    entry.1.name = entry'.1.name := by
  have hp := h.agentPlanned tenantId hentry
  have hp' := h.agentPlanned tenantId hentry'
  rcases hp.role with ⟨-, hr, hagent, -⟩ | ⟨-, hid, -⟩
  · rcases hp'.role with ⟨-, hr', hagent', -⟩ | ⟨-, hid', -⟩
    · have hrr := List.inj_on_of_nodup_map h.constraints.roleId hr hr' heq
      rw [hrr, hagent'] at hagent
      exact h.agentPlan_id_injOn hentry hentry' (Option.some.inj hagent).symm
    · exact absurd (List.mem_map.mpr ⟨_, hr, heq.trans hid'⟩) (h.role_new hentry')
  · rcases hp'.role with ⟨-, hr', hagent', -⟩ | ⟨-, hid', -⟩
    · exact absurd (List.mem_map.mpr ⟨_, hr', heq.symm.trans hid⟩) (h.role_new hentry)
    · have hd := h.ids.injOn _ _ (ofAgent hentry (Or.inr rfl)) (ofAgent hentry' (Or.inr rfl))
        (hid.symm.trans (heq.trans hid'))
      rw [entry_eq hentry hentry' (Draw.role.inj hd)]

/-- The internal role of a plan belongs to its agent and to the pair. -/
lemma role_ident (h : AgentsInput t uuid4 applicationId agents permRows) (tenantId : Id)
    (hentry : entry ∈ agents.zipIdx) :
    (t.agentPlan uuid4 tenantId applicationId permRows entry).role.tenantId = some tenantId ∧
      (t.agentPlan uuid4 tenantId applicationId permRows entry).role.applicationId =
        some applicationId ∧
      (t.agentPlan uuid4 tenantId applicationId permRows entry).role.name =
        agentRoleName entry.1.name ∧
      (t.agentPlan uuid4 tenantId applicationId permRows entry).role.agentId =
        some (t.agentPlan uuid4 tenantId applicationId permRows entry).agent.id := by
  have hp := h.agentPlanned tenantId hentry
  rcases hp.role with ⟨-, hr, hagent, -⟩ | ⟨-, -, ht, ha, hn, hagent, -⟩
  · obtain ⟨a, ha, hid, hten, happ, hname⟩ := h.wellFormed.internalRoles _ hr _ hagent
    rcases hp.row with ⟨-, a', ha', hident, -⟩ | ⟨-, hnew, -⟩
    · simp only [Agent.ident, Prod.mk.injEq] at hident
      obtain rfl := List.inj_on_of_nodup_map h.constraints.agentId ha ha'
        (hid.trans hident.1.symm)
      rw [hten, happ, hname, hident.2.1, hident.2.2.1, hident.2.2.2, hp.tenant, hp.application,
        hp.name]
      exact ⟨rfl, rfl, rfl, hagent⟩
    · exact absurd (List.mem_map.mpr ⟨a, ha, hid.trans hnew⟩) (h.agent_new hentry).1
  · exact ⟨ht, ha, hn, hagent⟩

/-- A row of the pair with the name of an entry is the row of its plan. -/
lemma ident_of_name (h : AgentsInput t uuid4 applicationId agents permRows)
    (hentry : entry ∈ agents.zipIdx) {a : Agent} (ha : a ∈ t.agents)
    (ht : a.tenantId = tenantId) (happ : a.applicationId = applicationId)
    (hname : a.name = entry.1.name) :
    (t.agentPlan uuid4 tenantId applicationId permRows entry).created = false ∧
      a.ident = (t.agentPlan uuid4 tenantId applicationId permRows entry).agent.ident := by
  have hp := h.agentPlanned tenantId hentry
  rcases hp.row with ⟨hcreated, a', ha', hident, -⟩ | ⟨-, -, -, -, hnone⟩
  · refine ⟨hcreated, ?_⟩
    rw [← hident]
    simp only [Agent.ident, Prod.mk.injEq] at hident
    refine congrArg _ (List.inj_on_of_nodup_map h.constraints.agentKey ha ha' ?_)
    simp [Agent.uniqueKey, hident, hp.tenant, hp.application, hp.name, ht, happ, hname]
  · exact absurd (hname.trans hp.name.symm) (hnone a ha ht happ)

/-! ### The rows written -/

lemma mem_agentCreates {x : Agent} :
    x ∈ t.agentCreates uuid4 tenantId applicationId agents permRows ↔
      ∃ e ∈ agents.zipIdx, (t.agentPlan uuid4 tenantId applicationId permRows e).created = true ∧
        x = (t.agentPlan uuid4 tenantId applicationId permRows e).agent := by
  constructor
  · intro hx
    obtain ⟨p, hp, rfl⟩ := List.mem_map.mp hx
    obtain ⟨hp, hcreated⟩ := List.mem_filter.mp hp
    obtain ⟨e, he, rfl⟩ := mem_agentPlans.mp hp
    exact ⟨e, he, hcreated, rfl⟩
  · rintro ⟨e, he, hcreated, rfl⟩
    exact List.mem_map_of_mem (List.mem_filter.mpr ⟨mem_agentPlans.mpr ⟨e, he, rfl⟩, hcreated⟩)

lemma mem_roleCreates {r : Role} :
    r ∈ t.roleCreates uuid4 tenantId applicationId agents permRows ↔
      ∃ e ∈ agents.zipIdx,
        (t.agentPlan uuid4 tenantId applicationId permRows e).roleCreated = true ∧
          r = (t.agentPlan uuid4 tenantId applicationId permRows e).role := by
  constructor
  · intro hx
    obtain ⟨p, hp, rfl⟩ := List.mem_map.mp hx
    obtain ⟨hp, hcreated⟩ := List.mem_filter.mp hp
    obtain ⟨e, he, rfl⟩ := mem_agentPlans.mp hp
    exact ⟨e, he, hcreated, rfl⟩
  · rintro ⟨e, he, hcreated, rfl⟩
    exact List.mem_map_of_mem (List.mem_filter.mpr ⟨mem_agentPlans.mpr ⟨e, he, rfl⟩, hcreated⟩)

/-- The agents of the pair that the entries leave out. -/
def Unlisted (t : Tables) (tenantId applicationId : Id) (agents : List DesiredAgent) (a : Agent) :
    Prop :=
  a ∈ t.agents ∧ a.tenantId = tenantId ∧ a.applicationId = applicationId ∧
    a.name ∉ agents.map DesiredAgent.name

lemma mem_unlistedAgents (hc : t.Constraints) {a : Agent} :
    a ∈ t.unlistedAgents tenantId applicationId agents ↔
      Unlisted t tenantId applicationId agents a ∧ a.status ≠ statusDisabled := by
  rw [unlistedAgents, List.mem_filter, mem_pairAgents hc, decide_eq_true_eq, Unlisted]
  tauto

lemma mem_agentWrites (hc : t.Constraints) {x : Agent} :
    x ∈ t.agentWrites uuid4 tenantId applicationId agents permRows ↔
      (∃ e ∈ agents.zipIdx, (t.agentPlan uuid4 tenantId applicationId permRows e).created = false ∧
          x = (t.agentPlan uuid4 tenantId applicationId permRows e).agent) ∨
      ∃ a, Unlisted t tenantId applicationId agents a ∧ a.status ≠ statusDisabled ∧
        x = { a with status := statusDisabled } := by
  rw [agentWrites, List.mem_append]
  refine or_congr ⟨fun hx => ?_, ?_⟩ ⟨fun hx => ?_, ?_⟩
  · obtain ⟨p, hp, rfl⟩ := List.mem_map.mp hx
    obtain ⟨hp, hcreated⟩ := List.mem_filter.mp hp
    obtain ⟨e, he, rfl⟩ := mem_agentPlans.mp hp
    exact ⟨e, he, by simpa using hcreated, rfl⟩
  · rintro ⟨e, he, hcreated, rfl⟩
    exact List.mem_map_of_mem
      (List.mem_filter.mpr ⟨mem_agentPlans.mpr ⟨e, he, rfl⟩, by simp [hcreated]⟩)
  · obtain ⟨a, ha, rfl⟩ := List.mem_map.mp hx
    exact ⟨a, ((mem_unlistedAgents hc).mp ha).1, ((mem_unlistedAgents hc).mp ha).2, rfl⟩
  · rintro ⟨a, ha, hstatus, rfl⟩
    exact List.mem_map_of_mem (f := fun a : Agent => { a with status := statusDisabled })
      ((mem_unlistedAgents hc).mpr ⟨ha, hstatus⟩)

/-- The rows written back are rows of the pair that are there. -/
lemma of_mem_agentWrites (h : AgentsInput t uuid4 applicationId agents permRows) {x : Agent}
    (hx : x ∈ t.agentWrites uuid4 tenantId applicationId agents permRows) :
    x.ident ∈ t.agents.map Agent.ident ∧ x.tenantId = tenantId ∧ x.applicationId = applicationId := by
  rcases (mem_agentWrites h.constraints).mp hx with
    ⟨e, he, hcreated, rfl⟩ | ⟨a, ⟨ha, ht, happ, -⟩, -, rfl⟩
  · have hp := h.agentPlanned tenantId he
    rcases hp.row with ⟨-, a, ha, hident, -⟩ | ⟨htrue, -⟩
    · exact ⟨hident ▸ List.mem_map_of_mem ha, hp.tenant, hp.application⟩
    · rw [hcreated] at htrue
      cases htrue
  · exact ⟨List.mem_map.mpr ⟨a, ha, rfl⟩, ht, happ⟩

/-- No row is written twice. -/
lemma nodup_agentWrites (h : AgentsInput t uuid4 applicationId agents permRows) :
    ((t.agentWrites uuid4 tenantId applicationId agents permRows).map Agent.id).Nodup := by
  have hplans : ((t.agentPlans uuid4 tenantId applicationId agents permRows).map
      fun p => p.agent.id).Nodup := by
    rw [agentPlans, List.map_map]
    exact nodup_map_zipIdx h.names fun e he e' he' => h.agentPlan_id_injOn he he'
  have hpair : ((t.pairAgents tenantId applicationId).map Agent.id).Nodup := by
    rw [pairAgents_eq h.constraints]
    exact h.constraints.agentId.sublist (List.filter_sublist.map _)
  rw [agentWrites, List.map_append, List.map_map, List.map_map]
  refine List.Nodup.append (hplans.sublist (List.filter_sublist.map _))
    (hpair.sublist (List.filter_sublist.map _)) ?_
  intro i hi hi'
  obtain ⟨p, hp, rfl⟩ := List.mem_map.mp hi
  obtain ⟨hp, hcreated⟩ := List.mem_filter.mp hp
  obtain ⟨e, he, rfl⟩ := mem_agentPlans.mp hp
  obtain ⟨a, ha, haid⟩ := List.mem_map.mp hi'
  obtain ⟨⟨ha, -, -, hunlisted⟩, -⟩ := (mem_unlistedAgents h.constraints).mp ha
  have hplan := h.agentPlanned tenantId he
  rcases hplan.row with ⟨-, a', ha', hident, -⟩ | ⟨htrue, -⟩
  · simp only [Agent.ident, Prod.mk.injEq] at hident
    have haa := List.inj_on_of_nodup_map h.constraints.agentId ha' ha
      (hident.1.trans haid.symm)
    refine hunlisted (List.mem_map.mpr ⟨e.1, ?_, ?_⟩)
    · exact List.mem_of_getElem? (List.mem_zipIdx_iff_getElem?.mp he)
    · rw [← hplan.name, ← hident.2.2.2, haa]
  · simp [htrue] at hcreated

/-! ### The agents -/

/-- **The agents after the step**: the listed ones, with the listed status and
display name; the others of the pair, disabled; and those of other pairs. -/
theorem mem_applyAgents_agents (h : AgentsInput t uuid4 applicationId agents permRows) {x : Agent} :
    x ∈ (t.applyAgents uuid4 tenantId applicationId agents permRows).1.agents ↔
      (∃ e ∈ agents.zipIdx, x = (t.agentPlan uuid4 tenantId applicationId permRows e).agent) ∨
      (∃ a, Unlisted t tenantId applicationId agents a ∧ x = { a with status := statusDisabled }) ∨
      (x ∈ t.agents ∧ ¬(x.tenantId = tenantId ∧ x.applicationId = applicationId)) := by
  have hwrites : (t.agentWrites uuid4 tenantId applicationId agents permRows).map Agent.id ⊆
      t.agents.map Agent.id := by
    intro i hi
    obtain ⟨x, hx, rfl⟩ := List.mem_map.mp hi
    obtain ⟨a, ha, hident⟩ := List.mem_map.mp (h.of_mem_agentWrites hx).1
    exact List.mem_map.mpr ⟨a, ha, (Prod.mk.inj hident).1⟩
  -- a row with the id of a written one is the row it replaces
  have hreplaced : ∀ y ∈ t.agentWrites uuid4 tenantId applicationId agents permRows,
      ∀ a ∈ t.agents, a.id = y.id → a.ident = y.ident := by
    intro y hy a ha hid
    obtain ⟨a', ha', hident⟩ := List.mem_map.mp (h.of_mem_agentWrites hy).1
    rw [← hident, List.inj_on_of_nodup_map h.constraints.agentId ha ha'
      (hid.trans (Prod.mk.inj hident).1.symm)]
  rw [applyAgents_tables, List.mem_append, mem_updateAll_of_keys h.nodup_agentWrites hwrites,
    mem_agentWrites h.constraints, mem_agentCreates]
  constructor
  · rintro (((⟨e, he, -, rfl⟩ | ⟨a, ha, -, rfl⟩) | ⟨hx, hid⟩) | ⟨e, he, -, rfl⟩)
    · exact Or.inl ⟨e, he, rfl⟩
    · exact Or.inr (Or.inl ⟨a, ha, rfl⟩)
    · by_cases hpair : x.tenantId = tenantId ∧ x.applicationId = applicationId
      · by_cases hlisted : x.name ∈ agents.map DesiredAgent.name
        · obtain ⟨d, hd, hname⟩ := List.mem_map.mp hlisted
          obtain ⟨i, hi⟩ := List.mem_iff_getElem?.mp hd
          have he : (d, i) ∈ agents.zipIdx := List.mk_mem_zipIdx_iff_getElem?.mpr hi
          obtain ⟨hcreated, hident⟩ := h.ident_of_name he hx hpair.1 hpair.2 hname.symm
          refine absurd (List.mem_map.mpr ⟨_, (mem_agentWrites h.constraints).mpr
            (Or.inl ⟨(d, i), he, hcreated, rfl⟩), ?_⟩) hid
          exact (Prod.mk.inj hident).1.symm
        · have hun : Unlisted t tenantId applicationId agents x :=
            ⟨hx, hpair.1, hpair.2, hlisted⟩
          by_cases hstatus : x.status = statusDisabled
          · exact Or.inr (Or.inl ⟨x, hun, by rw [← hstatus]⟩)
          · exact absurd (List.mem_map.mpr ⟨{ x with status := statusDisabled },
              (mem_agentWrites h.constraints).mpr (Or.inr ⟨x, hun, hstatus, rfl⟩), rfl⟩) hid
      · exact Or.inr (Or.inr ⟨hx, hpair⟩)
    · exact Or.inl ⟨e, he, rfl⟩
  · rintro (⟨e, he, rfl⟩ | ⟨a, ha, rfl⟩ | ⟨hx, hpair⟩)
    · cases hcreated : (t.agentPlan uuid4 tenantId applicationId permRows e).created with
      | true => exact Or.inr ⟨e, he, hcreated, rfl⟩
      | false => exact Or.inl (Or.inl (Or.inl ⟨e, he, hcreated, rfl⟩))
    · by_cases hstatus : a.status = statusDisabled
      · have hself : { a with status := statusDisabled } = a := by rw [← hstatus]
        rw [hself]
        refine Or.inl (Or.inr ⟨ha.1, fun hid => ?_⟩)
        obtain ⟨y, hy, hyid⟩ := List.mem_map.mp hid
        have hident := hreplaced y hy a ha.1 hyid.symm
        rcases (mem_agentWrites h.constraints).mp hy with ⟨e, he, -, rfl⟩ | ⟨a', ha', hstatus', rfl⟩
        · simp only [Agent.ident, Prod.mk.injEq] at hident
          refine ha.2.2.2 (List.mem_map.mpr ⟨e.1, ?_, ?_⟩)
          · exact List.mem_of_getElem? (List.mem_zipIdx_iff_getElem?.mp he)
          · rw [← (h.agentPlanned tenantId he).name, hident.2.2.2]
        · rw [List.inj_on_of_nodup_map h.constraints.agentId ha'.1 ha.1 hyid] at hstatus'
          exact hstatus' hstatus
      · exact Or.inl (Or.inl (Or.inr ⟨a, ha, hstatus, rfl⟩))
    · refine Or.inl (Or.inr ⟨hx, fun hid => hpair ?_⟩)
      obtain ⟨y, hy, hyid⟩ := List.mem_map.mp hid
      have hident := hreplaced y hy x hx hyid.symm
      simp only [Agent.ident, Prod.mk.injEq] at hident
      rw [hident.2.1, hident.2.2.1]
      exact (h.of_mem_agentWrites hy).2

/-- The rows that were there keep their identity, in place. -/
lemma map_ident_applyAgents (h : AgentsInput t uuid4 applicationId agents permRows) (tenantId : Id) :
    (updateAll Agent.id t.agents
      (t.agentWrites uuid4 tenantId applicationId agents permRows)).map Agent.ident =
      t.agents.map Agent.ident :=
  map_updateAll_ident (fun _ _ hab => (Prod.mk.inj hab).1) h.constraints.agentId
    fun _ hx => (h.of_mem_agentWrites hx).1

/-- The agents of other pairs stay as they are. -/
lemma filter_applyAgents (h : AgentsInput t uuid4 applicationId agents permRows)
    {p : Agent → Bool} (hident : ∀ a b, a.ident = b.ident → p a = p b)
    (hpair : ∀ a, a.tenantId = tenantId → a.applicationId = applicationId → p a = false) :
    (t.applyAgents uuid4 tenantId applicationId agents permRows).1.agents.filter p =
      t.agents.filter p := by
  have hnew : (t.agentCreates uuid4 tenantId applicationId agents permRows).filter p = [] :=
    List.filter_eq_nil_iff.mpr fun x hx => by
      obtain ⟨e, he, -, rfl⟩ := mem_agentCreates.mp hx
      have hplan := h.agentPlanned tenantId he
      simp [hpair _ hplan.tenant hplan.application]
  rw [applyAgents_tables, List.filter_append,
    filter_updateAll_ident (fun _ _ hab => (Prod.mk.inj hab).1) hident h.constraints.agentId
      fun x hx => ⟨(h.of_mem_agentWrites hx).1, hpair x (h.of_mem_agentWrites hx).2.1
        (h.of_mem_agentWrites hx).2.2⟩, hnew, List.append_nil]

/-! ### The links of the agents -/

lemma mem_agentRoleChanges {c : Change Id Id} :
    c ∈ t.agentRoleChanges uuid4 tenantId applicationId agents permRows ↔
      ∃ e ∈ agents.zipIdx,
        c.owner = (t.agentPlan uuid4 tenantId applicationId permRows e).agent.id ∧
        c.ids = {(t.agentPlan uuid4 tenantId applicationId permRows e).role.id} ∧
        c.current = (t.agentPlan uuid4 tenantId applicationId permRows e).currentRoles := by
  constructor
  · intro hc
    obtain ⟨p, hp, rfl⟩ := List.mem_map.mp hc
    obtain ⟨e, he, rfl⟩ := mem_agentPlans.mp hp
    exact ⟨e, he, rfl, rfl, rfl⟩
  · rintro ⟨e, he, ho, hi, hcur⟩
    refine List.mem_map.mpr ⟨_, mem_agentPlans.mpr ⟨e, he, rfl⟩, ?_⟩
    cases c
    simp_all

lemma nodup_agentRoleChanges (h : AgentsInput t uuid4 applicationId agents permRows) :
    ((t.agentRoleChanges uuid4 tenantId applicationId agents permRows).map Change.owner).Nodup := by
  rw [agentRoleChanges, agentPlans, List.map_map, List.map_map]
  exact nodup_map_zipIdx h.names fun e he e' he' => h.agentPlan_id_injOn he he'

/-- The links read before the writes are those of the agent. -/
lemma current_agentRoleChanges (h : AgentsInput t uuid4 applicationId agents permRows) :
    ∀ c ∈ t.agentRoleChanges uuid4 tenantId applicationId agents permRows,
      c.current = others t.agentRoles c.owner := by
  intro c hc
  obtain ⟨e, he, ho, -, hcur⟩ := mem_agentRoleChanges.mp hc
  rw [ho, hcur]
  rcases (h.agentPlanned tenantId he).row with
    ⟨-, a, -, hident, -, hcurrent, -⟩ | ⟨-, hid, hcurrent, -⟩
  · rw [hcurrent, (Prod.mk.inj hident).1]
  · rw [hcurrent, hid, eq_comm, Finset.eq_empty_iff_forall_notMem]
    exact fun i hi => (h.agent_new he).1 (linked_ids (h.wellFormed.agentLinks _ (mem_others.mp hi))).1

/-- **The links of a listed agent**: its internal role and nothing else. -/
theorem others_applyAgents_roles (h : AgentsInput t uuid4 applicationId agents permRows)
    (hentry : entry ∈ agents.zipIdx) :
    others (t.applyAgents uuid4 tenantId applicationId agents permRows).1.agentRoles
        (t.agentPlan uuid4 tenantId applicationId permRows entry).agent.id =
      {(t.agentPlan uuid4 tenantId applicationId permRows entry).role.id} := by
  ext i
  rw [mem_others, applyAgents_tables]
  exact mem_replaceAll h.nodup_agentRoleChanges h.current_agentRoleChanges
    ⟨_, _, _⟩ (mem_agentRoleChanges.mpr ⟨entry, hentry, rfl, rfl, rfl⟩) i

/-- Agents that no entry is about keep their links. -/
lemma mem_applyAgents_roles {o i : Id}
    (ho : ∀ e ∈ agents.zipIdx, o ≠ (t.agentPlan uuid4 tenantId applicationId permRows e).agent.id) :
    (o, i) ∈ (t.applyAgents uuid4 tenantId applicationId agents permRows).1.agentRoles ↔
      (o, i) ∈ t.agentRoles := by
  rw [applyAgents_tables]
  refine mem_replaceAll_of_forall_ne fun c hc => ?_
  obtain ⟨e, he, howner, -⟩ := mem_agentRoleChanges.mp hc
  exact howner ▸ ho e he

/-! ### The permissions of the internal roles -/

lemma mem_permissionChanges {c : Change Id Id} :
    c ∈ t.permissionChanges uuid4 tenantId applicationId agents permRows ↔
      ∃ e ∈ agents.zipIdx,
        c.owner = (t.agentPlan uuid4 tenantId applicationId permRows e).role.id ∧
        c.ids = (t.agentPlan uuid4 tenantId applicationId permRows e).permissionIds ∧
        c.current = (t.agentPlan uuid4 tenantId applicationId permRows e).currentPermissions := by
  constructor
  · intro hc
    obtain ⟨p, hp, rfl⟩ := List.mem_map.mp hc
    obtain ⟨e, he, rfl⟩ := mem_agentPlans.mp hp
    exact ⟨e, he, rfl, rfl, rfl⟩
  · rintro ⟨e, he, ho, hi, hcur⟩
    refine List.mem_map.mpr ⟨_, mem_agentPlans.mpr ⟨e, he, rfl⟩, ?_⟩
    cases c
    simp_all

lemma nodup_permissionChanges (h : AgentsInput t uuid4 applicationId agents permRows) :
    ((t.permissionChanges uuid4 tenantId applicationId agents permRows).map Change.owner).Nodup := by
  rw [permissionChanges, agentPlans, List.map_map, List.map_map]
  exact nodup_map_zipIdx h.names fun e he e' he' => h.agentPlan_role_injOn he he'

/-- The permissions read before the writes are those of the role. -/
lemma current_permissionChanges (h : AgentsInput t uuid4 applicationId agents permRows) :
    ∀ c ∈ t.permissionChanges uuid4 tenantId applicationId agents permRows,
      c.current = others t.rolePermissions c.owner := by
  intro c hc
  obtain ⟨e, he, ho, -, hcur⟩ := mem_permissionChanges.mp hc
  rw [ho, hcur]
  rcases (h.agentPlanned tenantId he).role with
    ⟨-, -, -, hcurrent, -⟩ | ⟨-, hid, -, -, -, -, hcurrent, -⟩
  · exact hcurrent
  · rw [hcurrent, hid, eq_comm, Finset.eq_empty_iff_forall_notMem]
    exact fun i hi => h.role_new he (linked_ids (h.wellFormed.permissionLinks _ (mem_others.mp hi))).1

/-- **The permissions of a listed agent's internal role** are exactly the resolved
ones. -/
theorem others_applyAgents_permissions (h : AgentsInput t uuid4 applicationId agents permRows)
    (hentry : entry ∈ agents.zipIdx) :
    others (t.applyAgents uuid4 tenantId applicationId agents permRows).1.rolePermissions
        (t.agentPlan uuid4 tenantId applicationId permRows entry).role.id =
      (t.agentPlan uuid4 tenantId applicationId permRows entry).permissionIds := by
  ext i
  rw [mem_others, applyAgents_tables]
  exact mem_replaceAll h.nodup_permissionChanges h.current_permissionChanges
    ⟨_, _, _⟩ (mem_permissionChanges.mpr ⟨entry, hentry, rfl, rfl, rfl⟩) i

/-- Roles that no entry is about keep their permissions. -/
lemma mem_applyAgents_permissions {o i : Id}
    (ho : ∀ e ∈ agents.zipIdx, o ≠ (t.agentPlan uuid4 tenantId applicationId permRows e).role.id) :
    (o, i) ∈ (t.applyAgents uuid4 tenantId applicationId agents permRows).1.rolePermissions ↔
      (o, i) ∈ t.rolePermissions := by
  rw [applyAgents_tables]
  refine mem_replaceAll_of_forall_ne fun c hc => ?_
  obtain ⟨e, he, howner, -⟩ := mem_permissionChanges.mp hc
  exact howner ▸ ho e he

/-- A resolved permission of an entry is one of `permRows`. -/
lemma of_mem_permissionIds (h : AgentsInput t uuid4 applicationId agents permRows)
    (hentry : entry ∈ agents.zipIdx) {i : Id}
    (hi : i ∈ (t.agentPlan uuid4 tenantId applicationId permRows entry).permissionIds) :
    ∃ q ∈ permRows, q.id = i := by
  rw [(h.agentPlanned _ hentry).permissionIds] at hi
  obtain ⟨q, hq, rfl⟩ := mem_permissionIds.mp hi
  obtain ⟨n, -, hl⟩ := List.mem_filterMap.mp hq
  exact ⟨q, mem_of_lookup hl, rfl⟩

/-! ### The tables -/

lemma mem_applyAgents_of_plan (h : AgentsInput t uuid4 applicationId agents permRows) (tenantId : Id)
    (hentry : entry ∈ agents.zipIdx) :
    (t.agentPlan uuid4 tenantId applicationId permRows entry).agent ∈
        (t.applyAgents uuid4 tenantId applicationId agents permRows).1.agents ∧
      (t.agentPlan uuid4 tenantId applicationId permRows entry).role ∈
        (t.applyAgents uuid4 tenantId applicationId agents permRows).1.roles := by
  refine ⟨h.mem_applyAgents_agents.mpr (Or.inl ⟨entry, hentry, rfl⟩), ?_⟩
  rw [applyAgents_tables]
  rcases (h.agentPlanned tenantId hentry).role with ⟨-, hr, -⟩ | ⟨hcreated, -⟩
  · exact List.mem_append_left _ hr
  · exact List.mem_append_right _ (mem_roleCreates.mpr ⟨entry, hentry, hcreated, rfl⟩)

/-- The step keeps the tables well formed. -/
theorem evolves (h : AgentsInput t uuid4 applicationId agents permRows) (tenantId : Id) :
    Evolves t (t.applyAgents uuid4 tenantId applicationId agents permRows).1 := by
  have hroles : Keeps Role.ident t.roles
      (t.applyAgents uuid4 tenantId applicationId agents permRows).1.roles := by
    rw [applyAgents_tables]
    exact keeps_append _ _ _
  refine { Evolves.refl t with
    agents := ?_
    roles := fun r hr => ?_
    membershipRoles := links_unchanged rfl hroles
    agentRoles := ?_
    rolePermissions := ?_ }
  · rw [applyAgents_tables, Keeps, List.map_append, h.map_ident_applyAgents tenantId]
    exact List.subset_append_left _ _
  · rw [applyAgents_tables] at hr
    rcases List.mem_append.mp hr with hr | hr
    · exact Or.inl (List.mem_map_of_mem hr)
    · obtain ⟨e, he, -, rfl⟩ := mem_roleCreates.mp hr
      obtain ⟨ht, happ, hname, hagent⟩ := h.role_ident tenantId he
      have hplan := h.agentPlanned tenantId he
      refine Or.inr fun i hi => ⟨_, (h.mem_applyAgents_of_plan _ he).1, ?_, ?_, ?_, ?_⟩
      · exact Option.some.inj (hagent.symm.trans hi)
      · rw [ht, hplan.tenant]
      · rw [happ, hplan.application]
      · rw [hname, hplan.name]
  · rintro ⟨o, i⟩ hp
    rw [applyAgents_tables] at hp
    rcases mem_of_mem_replaceAll hp with hp | ⟨c, hc, ho, hi⟩
    · exact Or.inl ⟨hp, fun r hr _ => hroles (List.mem_map_of_mem hr)⟩
    · obtain ⟨e, he, howner, hids, -⟩ := mem_agentRoleChanges.mp hc
      obtain ⟨ht, happ, -, hagent⟩ := h.role_ident tenantId he
      have hplan := h.agentPlanned tenantId he
      have hrow := h.mem_applyAgents_of_plan tenantId he
      rw [hids, Finset.mem_singleton] at hi
      exact Or.inr ⟨_, hrow.1, _, hrow.2, (ho.trans howner).symm, hi.symm,
        happ.trans (congrArg some hplan.application.symm),
        Or.inr (ht.trans (congrArg some hplan.tenant.symm)), Or.inr hagent⟩
  · rintro ⟨o, i⟩ hp
    rw [applyAgents_tables] at hp
    rcases mem_of_mem_replaceAll hp with hp | ⟨c, hc, ho, hi⟩
    · exact Or.inl ⟨hp, fun r hr _ => hroles (List.mem_map_of_mem hr)⟩
    · obtain ⟨e, he, howner, hids, -⟩ := mem_permissionChanges.mp hc
      obtain ⟨q, hq, hqid⟩ := h.of_mem_permissionIds he (hids ▸ hi)
      obtain ⟨hq, hqapp, -⟩ := h.permissions q hq
      obtain ⟨-, happ, -⟩ := h.role_ident tenantId he
      exact Or.inr ⟨_, (h.mem_applyAgents_of_plan tenantId he).2, q, hq,
        (ho.trans howner).symm, hqid, happ.trans hqapp.symm⟩

/-! ### The constraints -/

lemma nodup_applyAgents_id (h : AgentsInput t uuid4 applicationId agents permRows) :
    ((t.applyAgents uuid4 tenantId applicationId agents permRows).1.agents.map Agent.id).Nodup := by
  have hids : (updateAll Agent.id t.agents
      (t.agentWrites uuid4 tenantId applicationId agents permRows)).map Agent.id =
      t.agents.map Agent.id := by
    have := congrArg (List.map Prod.fst) (h.map_ident_applyAgents tenantId)
    simpa [List.map_map, Function.comp_def] using this
  rw [applyAgents_tables, List.map_append, hids]
  refine h.constraints.agentId.append ?_ fun i hi hi' => ?_
  · rw [agentCreates, agentPlans, List.map_map]
    refine List.Nodup.sublist (List.filter_sublist.map _) ?_
    rw [List.map_map]
    exact nodup_map_zipIdx h.names fun e he e' he' => h.agentPlan_id_injOn he he'
  · obtain ⟨x, hx, rfl⟩ := List.mem_map.mp hi'
    obtain ⟨e, he, hcreated, rfl⟩ := mem_agentCreates.mp hx
    rcases (h.agentPlanned tenantId he).row with ⟨hfalse, -⟩ | ⟨-, hid, -⟩
    · rw [hcreated] at hfalse
      cases hfalse
    · exact (h.agent_new he).1 (hid ▸ hi)

lemma nodup_applyAgents_key (h : AgentsInput t uuid4 applicationId agents permRows) :
    ((t.applyAgents uuid4 tenantId applicationId agents permRows).1.agents.map
      Agent.uniqueKey).Nodup := by
  have hkeys : (updateAll Agent.id t.agents
      (t.agentWrites uuid4 tenantId applicationId agents permRows)).map Agent.uniqueKey =
      t.agents.map Agent.uniqueKey := by
    have hsnd := congrArg (List.map Prod.snd) (h.map_ident_applyAgents tenantId)
    rw [List.map_map, List.map_map] at hsnd
    exact hsnd
  rw [applyAgents_tables, List.map_append, hkeys]
  refine h.constraints.agentKey.append ?_ fun k hk hk' => ?_
  · rw [agentCreates, agentPlans, List.map_map]
    refine List.Nodup.sublist (List.filter_sublist.map _) ?_
    rw [List.map_map]
    refine nodup_map_zipIdx h.names fun e he e' he' heq => ?_
    rw [← (h.agentPlanned tenantId he).name,
      ← (h.agentPlanned tenantId he').name]
    exact congrArg (fun k => k.2.2) heq
  · obtain ⟨x, hx, rfl⟩ := List.mem_map.mp hk'
    obtain ⟨e, he, hcreated, rfl⟩ := mem_agentCreates.mp hx
    obtain ⟨a, ha, hak⟩ := List.mem_map.mp hk
    have hplan := h.agentPlanned tenantId he
    rcases hplan.row with ⟨hfalse, -⟩ | ⟨-, -, -, -, hnone⟩
    · rw [hcreated] at hfalse
      cases hfalse
    · simp only [Agent.uniqueKey, Prod.mk.injEq] at hak
      exact hnone a ha (hak.1.trans hplan.tenant) (hak.2.1.trans hplan.application) hak.2.2

lemma nodup_roleCreates_id (h : AgentsInput t uuid4 applicationId agents permRows) :
    ((t.applyAgents uuid4 tenantId applicationId agents permRows).1.roles.map Role.id).Nodup := by
  rw [applyAgents_tables, List.map_append]
  refine h.constraints.roleId.append ?_ fun i hi hi' => ?_
  · rw [roleCreates, agentPlans, List.map_map]
    refine List.Nodup.sublist (List.filter_sublist.map _) ?_
    rw [List.map_map]
    exact nodup_map_zipIdx h.names fun e he e' he' => h.agentPlan_role_injOn he he'
  · obtain ⟨x, hx, rfl⟩ := List.mem_map.mp hi'
    obtain ⟨e, he, hcreated, rfl⟩ := mem_roleCreates.mp hx
    rcases (h.agentPlanned tenantId he).role with ⟨hfalse, -⟩ | ⟨-, hid, -⟩
    · rw [hcreated] at hfalse
      cases hfalse
    · exact h.role_new he (hid ▸ hi)

/-- No role that is not internal has a name that the internal role of a listed agent
takes. -/
def NamesFree (t : Tables) (tenantId applicationId : Id) (agents : List DesiredAgent) : Prop :=
  ∀ a ∈ agents, ∀ r ∈ t.roles, r.tenantId = some tenantId → r.applicationId = some applicationId →
    r.name = agentRoleName a.name → r.agentId ≠ none

/-- Where the names are free, a new internal role has a name nobody has. -/
lemma name_free (h : AgentsInput t uuid4 applicationId agents permRows)
    (hfree : NamesFree t tenantId applicationId agents) (hentry : entry ∈ agents.zipIdx)
    (hcreated : (t.agentPlan uuid4 tenantId applicationId permRows entry).roleCreated = true)
    {r : Role} (hr : r ∈ t.roles) (ht : r.tenantId = some tenantId)
    (happ : r.applicationId = some applicationId) : r.name ≠ agentRoleName entry.1.name := by
  intro hname
  have hmem : entry.1 ∈ agents := List.mem_of_getElem? (List.mem_zipIdx_iff_getElem?.mp hentry)
  cases hid : r.agentId with
  | none => exact hfree entry.1 hmem r hr ht happ hname hid
  | some i =>
      -- an internal role of that name is the agent's own, which then is not new
      obtain ⟨a, ha, hai, hat, haa, han⟩ := h.wellFormed.internalRoles r hr i hid
      have hplan := h.agentPlanned tenantId hentry
      rcases hplan.role with ⟨hfalse, -⟩ | ⟨-, -, -, -, -, -, -, hnone⟩
      · rw [hcreated] at hfalse
        cases hfalse
      · refine hnone r hr ?_
        obtain ⟨-, hident⟩ := h.ident_of_name hentry ha
          (Option.some.inj (hat.symm.trans ht)) (Option.some.inj (haa.symm.trans happ))
          (agentRoleName_injective (han.symm.trans hname))
        rw [hid, ← hai, (Prod.mk.inj hident).1]

lemma unique_applyAgents_roleKey (h : AgentsInput t uuid4 applicationId agents permRows)
    (hfree : NamesFree t tenantId applicationId agents) :
    Unique Role.uniqueKey (t.applyAgents uuid4 tenantId applicationId agents permRows).1.roles := by
  rw [applyAgents_tables]
  refine h.constraints.roleKey.append ?_ ?_
  · have hmap : ((t.roleCreates uuid4 tenantId applicationId agents permRows).filterMap
        Role.uniqueKey).map (fun k => k.2.2) =
        (t.roleCreates uuid4 tenantId applicationId agents permRows).map Role.name := by
      rw [List.map_filterMap, ← List.filterMap_eq_map]
      refine List.filterMap_congr fun r hr => ?_
      obtain ⟨e, he, -, rfl⟩ := mem_roleCreates.mp hr
      obtain ⟨ht, happ, -⟩ := h.role_ident tenantId he
      simp [Role.uniqueKey, ht, happ]
    refine List.Nodup.of_map (fun k : Id × Id × String => k.2.2) ?_
    rw [hmap, roleCreates, agentPlans, List.map_map]
    refine List.Nodup.sublist (List.filter_sublist.map _) ?_
    rw [List.map_map]
    refine nodup_map_zipIdx h.names fun e he e' he' heq => agentRoleName_injective ?_
    rw [← (h.role_ident tenantId he).2.2.1,
      ← (h.role_ident tenantId he').2.2.1]
    exact heq
  · intro r hr r' hr' k hk hk'
    obtain ⟨e, he, hcreated, rfl⟩ := mem_roleCreates.mp hr'
    obtain ⟨ht, happ, hname, -⟩ := h.role_ident tenantId he
    simp only [Role.uniqueKey, ht, happ, hname, Option.bind_some, Option.map_some,
      Option.some.injEq] at hk'
    simp only [Role.uniqueKey, Option.bind_eq_some_iff, Option.map_eq_some_iff] at hk
    obtain ⟨x, hx, y, hy, hxy⟩ := hk
    simp only [← hk', Prod.mk.injEq] at hxy
    obtain ⟨rfl, rfl, hrname⟩ := hxy
    exact h.name_free hfree he hcreated hr hx hy hrname

/-- **When the step keeps the constraints of the database**: exactly when the names
of its internal roles are free. -/
theorem constraints_after_iff (h : AgentsInput t uuid4 applicationId agents permRows) :
    (t.applyAgents uuid4 tenantId applicationId agents permRows).1.Constraints ↔
      NamesFree t tenantId applicationId agents := by
  constructor
  · intro hc d hd r hr ht happ hname hagent
    obtain ⟨i, hi⟩ := List.mem_iff_getElem?.mp hd
    have he : (d, i) ∈ agents.zipIdx := List.mk_mem_zipIdx_iff_getElem?.mpr hi
    obtain ⟨ht', happ', hname', hagent'⟩ := h.role_ident tenantId he
    have hr' : r ∈ (t.applyAgents uuid4 tenantId applicationId agents permRows).1.roles := by
      rw [applyAgents_tables]
      exact List.mem_append_left _ hr
    have hkey : r.uniqueKey = some (tenantId, applicationId, agentRoleName d.name) := by
      simp [Role.uniqueKey, ht, happ, hname]
    have hrow := hc.roleKey.eq_of_key hr' (h.mem_applyAgents_of_plan _ he).2 hkey
      (by simp [Role.uniqueKey, ht', happ', hname'])
    rw [hrow, hagent'] at hagent
    cases hagent
  · intro hfree
    exact
      { tenantId := h.constraints.tenantId
        tenantSlug := h.constraints.tenantSlug
        applicationId := h.constraints.applicationId
        applicationSlug := h.constraints.applicationSlug
        userId := h.constraints.userId
        identityId := h.constraints.identityId
        identityRef := h.constraints.identityRef
        membershipId := h.constraints.membershipId
        membershipKey := h.constraints.membershipKey
        roleId := h.nodup_roleCreates_id
        roleKey := h.unique_applyAgents_roleKey hfree
        membershipRoles := h.constraints.membershipRoles
        permissionId := h.constraints.permissionId
        permissionName := h.constraints.permissionName
        permissionAction := h.constraints.permissionAction
        rolePermissions := by
          rw [applyAgents_tables]
          exact nodup_replaceAll h.nodup_permissionChanges h.constraints.rolePermissions
            h.current_permissionChanges
        agentId := h.nodup_applyAgents_id
        agentKey := h.nodup_applyAgents_key
        agentRoles := by
          rw [applyAgents_tables]
          exact nodup_replaceAll h.nodup_agentRoleChanges h.constraints.agentRoles
            h.current_agentRoleChanges
        grantId := h.constraints.grantId }

/-- The step keeps the references, when the tenant and, for a listed agent, the
application are there. -/
theorem foreignKeys_after (h : AgentsInput t uuid4 applicationId agents permRows)
    (hfk : t.ForeignKeys) (ht : tenantId ∈ t.tenants.map Tenant.id)
    (happ : agents ≠ [] → applicationId ∈ t.applications.map Application.id) :
    (t.applyAgents uuid4 tenantId applicationId agents permRows).1.ForeignKeys := by
  have hagents : t.agents.map Agent.id ⊆
      (t.applyAgents uuid4 tenantId applicationId agents permRows).1.agents.map Agent.id := by
    intro i hi
    obtain ⟨a, ha, rfl⟩ := List.mem_map.mp hi
    obtain ⟨a', ha', hident⟩ := List.mem_map.mp
      ((h.evolves tenantId).agents (List.mem_map_of_mem ha))
    exact List.mem_map.mpr ⟨a', ha', (Prod.mk.inj hident).1⟩
  have hroles : t.roles.map Role.id ⊆
      (t.applyAgents uuid4 tenantId applicationId agents permRows).1.roles.map Role.id := by
    rw [applyAgents_tables, List.map_append]
    exact List.subset_append_left _ _
  have hw := (h.evolves tenantId).wellFormed h.wellFormed
  have hne : ∀ e ∈ agents.zipIdx, agents ≠ [] := fun e he hnil => by simp [hnil] at he
  exact { hfk with
    roles := fun r hr => by
      rw [applyAgents_tables] at hr
      rcases List.mem_append.mp hr with hr | hr
      · exact ⟨(hfk.roles r hr).1, (hfk.roles r hr).2.1, refersTo_mono hagents (hfk.roles r hr).2.2⟩
      · obtain ⟨e, he, -, rfl⟩ := mem_roleCreates.mp hr
        obtain ⟨hten, happ', -, hagent⟩ := h.role_ident tenantId he
        rw [hten, happ', hagent]
        exact ⟨ht, happ (hne e he), List.mem_map_of_mem (h.mem_applyAgents_of_plan _ he).1⟩
    membershipRoles := fun p hp =>
      ⟨(hfk.membershipRoles p hp).1, hroles (hfk.membershipRoles p hp).2⟩
    rolePermissions := fun p hp => linked_ids (hw.permissionLinks p hp)
    agents := fun x hx => by
      rcases h.mem_applyAgents_agents.mp hx with ⟨e, he, rfl⟩ | ⟨a, ⟨ha, -⟩, rfl⟩ | ⟨ha, -⟩
      · have hplan := h.agentPlanned tenantId he
        rw [hplan.tenant, hplan.application]
        refine ⟨ht, happ (hne e he), ?_⟩
        rcases hplan.row with ⟨-, a, ha, -, hrow, -⟩ | ⟨-, -, -, hnone, -⟩
        · rw [hrow]
          exact (hfk.agents a ha).2.2
        · rw [hnone]
          trivial
      · exact hfk.agents a ha
      · exact hfk.agents x ha
    agentRoles := fun p hp => linked_ids (hw.agentLinks p hp)
    grants := fun g hg => ⟨(hfk.grants g hg).1, (hfk.grants g hg).2.1, (hfk.grants g hg).2.2.1,
      hagents (hfk.grants g hg).2.2.2⟩ }

end AgentsInput

end Tables

end AuthzKit
