import AuthzKit.Storage.AgentsSpec
import AuthzKit.Storage.MembersSpec
import AuthzKit.Storage.Validation

/-!
`apply_tenant_state` as a whole: the tenant, then the members, then the agents.

* `StateInput`: well-formed tables, new row ids and a state without violations.
* `stateTables`: the tables of the steps; `applyTenantState_eq`: a valid state is
  applied by them.
* `membersInput`, `agentsInput`: each step starts from what the one before leaves.
* `StateInput.evolves`, `StateInput.constraints_iff`, `StateInput.foreignKeys_iff`.
-/

namespace AuthzKit

open Keyed Links

namespace Tables

/-! ### The steps -/

section Steps

variable (t : Tables) (uuid4 : UuidSource) (applicationId : Id) (tenantSlug : String)
  (state : TenantState)

/-- The tenant of the call. -/
def stateTenantId : Id := (t.stateTenant uuid4 tenantSlug state.name).2

/-- The tables with the tenant. -/
def tenantTables : Tables := (t.stateTenant uuid4 tenantSlug state.name).1

/-- The tables after the members. -/
def memberTables : Tables :=
  ((t.tenantTables uuid4 tenantSlug state).applyMembers uuid4 (t.stateTenantId uuid4 tenantSlug state)
    applicationId state.members (t.stateRoleRows applicationId tenantSlug state)).1

/-- The tables after the agents. -/
def stateTables : Tables :=
  ((t.memberTables uuid4 applicationId tenantSlug state).applyAgents uuid4
    (t.stateTenantId uuid4 tenantSlug state) applicationId state.agents
    (t.statePermRows applicationId state)).1

/-- The counts of the call. -/
def stateResult : TenantStateResult where
  tenantId := t.stateTenantId uuid4 tenantSlug state
  members := ((t.tenantTables uuid4 tenantSlug state).applyMembers uuid4
    (t.stateTenantId uuid4 tenantSlug state) applicationId state.members
    (t.stateRoleRows applicationId tenantSlug state)).2
  agents := ((t.memberTables uuid4 applicationId tenantSlug state).applyAgents uuid4
    (t.stateTenantId uuid4 tenantSlug state) applicationId state.agents
    (t.statePermRows applicationId state)).2

variable {t uuid4 applicationId tenantSlug state}

/-- A state without issues is applied. -/
lemma applyTenantState_eq
    (h : tenantStateIssues state (t.stateRoleRows applicationId tenantSlug state)
      (t.statePermRows applicationId state) = []) :
    t.applyTenantState uuid4 applicationId tenantSlug state =
      .ok (t.stateTables uuid4 applicationId tenantSlug state,
        t.stateResult uuid4 applicationId tenantSlug state) := by
  rw [applyTenantState]
  simp only [h, ne_eq, not_true_eq_false, if_false]
  rfl

/-- A state with issues is refused with all of them. -/
lemma applyTenantState_error
    (h : tenantStateIssues state (t.stateRoleRows applicationId tenantSlug state)
      (t.statePermRows applicationId state) ≠ []) :
    t.applyTenantState uuid4 applicationId tenantSlug state =
      .error (.provisioningError (tenantStateIssues state
        (t.stateRoleRows applicationId tenantSlug state) (t.statePermRows applicationId state))) := by
  rw [applyTenantState]
  simp only [ne_eq, h, not_false_eq_true, if_true]

variable (t uuid4 tenantSlug state) in
/-- The tenant is the one with the slug, or a new row. -/
lemma stateTenant_cases :
    (∃ tenant ∈ t.tenants, tenant.slug = tenantSlug ∧ t.tenantTables uuid4 tenantSlug state = t ∧
        t.stateTenantId uuid4 tenantSlug state = tenant.id) ∨
      ((∀ tenant ∈ t.tenants, tenant.slug ≠ tenantSlug) ∧
        t.stateTenantId uuid4 tenantSlug state = uuid4 .tenant ∧
        t.tenantTables uuid4 tenantSlug state = { t with
          tenants := t.tenants ++ [⟨uuid4 .tenant, tenantSlug, state.name, statusActive⟩] }) := by
  rw [tenantTables, stateTenantId, stateTenant]
  cases hl : lookup Tenant.slug t.tenants tenantSlug with
  | some tenant => exact Or.inl ⟨tenant, mem_of_lookup hl, key_of_lookup hl, rfl, rfl⟩
  | none => exact Or.inr ⟨lookup_eq_none_iff.mp hl, rfl, rfl⟩

variable (t uuid4 tenantSlug state) in
/-- The tenant of the call is there. -/
lemma exists_stateTenant :
    ∃ tenant ∈ (t.tenantTables uuid4 tenantSlug state).tenants, tenant.slug = tenantSlug ∧
      tenant.id = t.stateTenantId uuid4 tenantSlug state := by
  rcases stateTenant_cases t uuid4 tenantSlug state with
    ⟨tenant, hmem, hslug, htab, hid⟩ | ⟨-, hid, htab⟩
  · exact ⟨tenant, htab.symm ▸ hmem, hslug, hid.symm⟩
  · rw [htab, hid]
    exact ⟨_, List.mem_append_right _ (List.mem_singleton_self _), rfl, rfl⟩

/-! What each step leaves alone. -/

lemma tenantTables_eq : t.tenantTables uuid4 tenantSlug state =
    { t with tenants := (t.tenantTables uuid4 tenantSlug state).tenants } := by
  rcases stateTenant_cases t uuid4 tenantSlug state with
    ⟨-, -, -, htab, -⟩ | ⟨-, -, htab⟩
  · rw [htab]
  · rw [htab]

lemma memberTables_eq : t.memberTables uuid4 applicationId tenantSlug state =
    { t with
      tenants := (t.tenantTables uuid4 tenantSlug state).tenants
      users := (t.memberTables uuid4 applicationId tenantSlug state).users
      externalIdentities := (t.memberTables uuid4 applicationId tenantSlug state).externalIdentities
      memberships := (t.memberTables uuid4 applicationId tenantSlug state).memberships
      membershipRoles := (t.memberTables uuid4 applicationId tenantSlug state).membershipRoles } := by
  rw [memberTables, applyMembers_tables, tenantTables_eq]

lemma stateTables_eq : t.stateTables uuid4 applicationId tenantSlug state =
    { t with
      tenants := (t.tenantTables uuid4 tenantSlug state).tenants
      users := (t.memberTables uuid4 applicationId tenantSlug state).users
      externalIdentities := (t.memberTables uuid4 applicationId tenantSlug state).externalIdentities
      memberships := (t.memberTables uuid4 applicationId tenantSlug state).memberships
      membershipRoles := (t.memberTables uuid4 applicationId tenantSlug state).membershipRoles
      agents := (t.stateTables uuid4 applicationId tenantSlug state).agents
      agentRoles := (t.stateTables uuid4 applicationId tenantSlug state).agentRoles
      roles := (t.stateTables uuid4 applicationId tenantSlug state).roles
      rolePermissions := (t.stateTables uuid4 applicationId tenantSlug state).rolePermissions } := by
  rw [stateTables, applyAgents_tables, memberTables_eq]

lemma memberTables_roles : (t.memberTables uuid4 applicationId tenantSlug state).roles = t.roles := by
  rw [memberTables_eq]

lemma stateTables_applications :
    (t.stateTables uuid4 applicationId tenantSlug state).applications = t.applications := by
  rw [stateTables_eq]

lemma stateTables_memberships : (t.stateTables uuid4 applicationId tenantSlug state).memberships =
    (t.memberTables uuid4 applicationId tenantSlug state).memberships := by
  rw [stateTables_eq]

end Steps

/-- What `apply_tenant_state` starts from when it does not refuse the state. -/
structure StateInput (t : Tables) (uuid4 : UuidSource) (applicationId : Id) (tenantSlug : String)
    (state : TenantState) : Prop where
  constraints : t.Constraints
  wellFormed : t.WellFormed
  fresh : Fresh uuid4 t (Draw.Within (max state.members.length state.agents.length))
  valid : ∀ v, ¬t.Violates applicationId tenantSlug state v

namespace StateInput

variable {t : Tables} {uuid4 : UuidSource} {applicationId : Id} {tenantSlug : String}
  {state : TenantState}

lemma of_issues (hc : t.Constraints) (hw : t.WellFormed)
    (hf : Fresh uuid4 t (Draw.Within (max state.members.length state.agents.length)))
    (h : tenantStateIssues state (t.stateRoleRows applicationId tenantSlug state)
      (t.statePermRows applicationId state) = []) :
    StateInput t uuid4 applicationId tenantSlug state := by
  refine ⟨hc, hw, hf, fun v hv => ?_⟩
  obtain ⟨vs, hissues, -, hmem⟩ := stateIssues_report hc applicationId tenantSlug state
  rw [h, eq_comm, List.map_eq_nil_iff] at hissues
  have hnil := (hmem v).mpr hv
  rw [hissues] at hnil
  cases hnil

/-! ### What a valid state says -/

lemma refs_nodup (h : StateInput t uuid4 applicationId tenantSlug state) :
    (state.members.map DesiredMember.userRef).Nodup := by
  rw [List.Nodup, List.pairwise_map, List.pairwise_iff_getElem]
  intro i j hi hj hij heq
  exact h.valid (.memberRepeated j) ⟨_, List.getElem?_eq_getElem hj, i, hij, _,
    List.getElem?_eq_getElem hi, heq⟩

lemma names_nodup (h : StateInput t uuid4 applicationId tenantSlug state) :
    (state.agents.map DesiredAgent.name).Nodup := by
  rw [List.Nodup, List.pairwise_map, List.pairwise_iff_getElem]
  intro i j hi hj hij heq
  exact h.valid (.agentRepeated j) ⟨_, List.getElem?_eq_getElem hj, i, hij, _,
    List.getElem?_eq_getElem hi, heq⟩

lemma permission_active (h : StateInput t uuid4 applicationId tenantSlug state) {a : DesiredAgent}
    (ha : a ∈ state.agents) {n : String} (hn : n ∈ a.permissions) :
    t.PermissionActive applicationId n := by
  obtain ⟨i, hi⟩ := List.mem_iff_getElem?.mp ha
  obtain ⟨j, hj⟩ := List.mem_iff_getElem?.mp hn
  exact not_not.mp fun hnot => h.valid (.agentPermission i j) ⟨a, hi, n, hj, hnot⟩

/-! ### The tenant -/

lemma canonical_tenant (h : StateInput t uuid4 applicationId tenantSlug state) :
    Uuid.Canonical (uuid4 .tenant) := h.fresh.canonical .tenant (Nat.zero_le _)

lemma tenant_evolves (h : StateInput t uuid4 applicationId tenantSlug state) :
    Evolves t (t.tenantTables uuid4 tenantSlug state) := by
  rcases stateTenant_cases t uuid4 tenantSlug state with
    ⟨-, -, -, htab, -⟩ | ⟨-, -, htab⟩
  · rw [htab]
    exact Evolves.refl t
  · rw [htab]
    refine { Evolves.refl t with tenants := fun r hr => ?_ }
    rcases List.mem_append.mp hr with hr | hr
    · exact Or.inl (List.mem_map_of_mem hr)
    · obtain rfl := List.mem_singleton.mp hr
      exact Or.inr h.canonical_tenant

lemma tenant_constraints (h : StateInput t uuid4 applicationId tenantSlug state) :
    (t.tenantTables uuid4 tenantSlug state).Constraints := by
  rcases stateTenant_cases t uuid4 tenantSlug state with
    ⟨-, -, -, htab, -⟩ | ⟨hslug, -, htab⟩
  · rw [htab]
    exact h.constraints
  · rw [htab]
    refine { h.constraints with tenantId := ?_, tenantSlug := ?_ }
    · rw [List.map_append]
      refine h.constraints.tenantId.append (List.nodup_singleton _) fun i hi hi' => ?_
      obtain rfl := List.mem_singleton.mp hi'
      obtain ⟨r, hr, hid⟩ := List.mem_map.mp hi
      exact (h.fresh.unused .tenant (Nat.zero_le _)).tenants r hr hid
    · rw [List.map_append]
      refine h.constraints.tenantSlug.append (List.nodup_singleton _) fun s hs hs' => ?_
      obtain rfl := List.mem_singleton.mp hs'
      obtain ⟨r, hr, hrs⟩ := List.mem_map.mp hs
      exact hslug r hr hrs

lemma tenant_foreignKeys (hfk : t.ForeignKeys) :
    (t.tenantTables uuid4 tenantSlug state).ForeignKeys := by
  rcases stateTenant_cases t uuid4 tenantSlug state with
    ⟨-, -, -, htab, -⟩ | ⟨-, -, htab⟩
  · rw [htab]
    exact hfk
  · rw [htab]
    have htenants := keeps_append Tenant.id t.tenants
      [⟨uuid4 .tenant, tenantSlug, state.name, statusActive⟩]
    exact { hfk with
      memberships := fun m hm => ⟨htenants (hfk.memberships m hm).1, (hfk.memberships m hm).2⟩
      roles := fun r hr => ⟨refersTo_mono htenants (hfk.roles r hr).1, (hfk.roles r hr).2⟩
      agents := fun a ha => ⟨htenants (hfk.agents a ha).1, (hfk.agents a ha).2⟩
      masks := fun m hm => ⟨htenants (hfk.masks m hm).1, (hfk.masks m hm).2⟩
      grants := fun g hg => ⟨htenants (hfk.grants g hg).1, (hfk.grants g hg).2⟩ }

lemma tenant_rowIds {i : Id} (hi : i ∈ (t.tenantTables uuid4 tenantSlug state).rowIds) :
    i ∈ t.rowIds ∨ i = uuid4 .tenant := by
  rcases stateTenant_cases t uuid4 tenantSlug state with
    ⟨-, -, -, htab, -⟩ | ⟨-, -, htab⟩
  · exact Or.inl (htab ▸ hi)
  · rw [htab] at hi
    simp only [rowIds, List.map_append, List.map_cons, List.map_nil, List.mem_append,
      List.mem_singleton] at hi ⊢
    rcases hi with (((((((( hi | hi) | hi) | hi) | hi) | hi) | hi) | hi) | hi) | hi
    · exact Or.inl (by simp only [hi, true_or])
    · exact Or.inr hi
    all_goals exact Or.inl (by simp only [hi, true_or, or_true])

/-! ### The members -/

lemma within_of_member {n : ℕ} {d : Draw} (hd : Draw.OfMember n d) {k : ℕ} (h : n ≤ k) :
    Draw.Within k d ∧ d ≠ .tenant := by
  obtain ⟨i, hi, rfl | rfl | rfl⟩ := hd
  · exact ⟨hi.le.trans h, by simp⟩
  · exact ⟨hi.le.trans h, by simp⟩
  · exact ⟨hi.le.trans h, by simp⟩

lemma within_of_agent {n : ℕ} {d : Draw} (hd : Draw.OfAgent n d) {k : ℕ} (h : n ≤ k) :
    Draw.Within k d ∧ d ≠ .tenant ∧ ∀ m, ¬Draw.OfMember m d := by
  obtain ⟨i, hi, rfl | rfl⟩ := hd
  · exact ⟨hi.le.trans h, by simp, by simp [Draw.OfMember]⟩
  · exact ⟨hi.le.trans h, by simp, by simp [Draw.OfMember]⟩

lemma membersInput (h : StateInput t uuid4 applicationId tenantSlug state) :
    MembersInput (t.tenantTables uuid4 tenantSlug state) uuid4
      (t.stateTenantId uuid4 tenantSlug state) applicationId state.members
      (t.stateRoleRows applicationId tenantSlug state) where
  constraints := h.tenant_constraints
  wellFormed := h.tenant_evolves.wellFormed h.wellFormed
  ids :=
    { injOn := fun d e hd he => h.fresh.injOn d e (within_of_member hd (le_max_left _ _)).1
        (within_of_member he (le_max_left _ _)).1
      new := fun d hd hi => by
        obtain ⟨hwithin, hne⟩ := within_of_member hd (le_max_left _ state.agents.length)
        rcases tenant_rowIds hi with hi | hi
        · exact (NewIds.of_fresh h.fresh fun _ hd => hd).new d hwithin hi
        · exact hne (h.fresh.injOn d .tenant hwithin (Nat.zero_le _) hi) }
  refs := h.refs_nodup
  roles := fun r hr => by
    obtain ⟨hr, happ, -, hagent, hten⟩ := of_mem_assignableRoles hr
    rcases stateTenant_cases t uuid4 tenantSlug state
      with ⟨tenant, hmem, hslug, htab, hid⟩ | ⟨hslug, hid, htab⟩
    · rw [htab]
      refine ⟨hr, happ, ?_, hagent⟩
      rw [(lookup_slug_iff h.constraints).mpr ⟨hmem, hslug⟩] at hten
      exact hten.symm.imp_right fun hten => by rw [hten, hid]; rfl
    · have hnone : lookup Tenant.slug t.tenants tenantSlug = none :=
        lookup_eq_none_iff.mpr hslug
      rw [hnone] at hten
      rw [htab]
      exact ⟨hr, happ, Or.inl (hten.elim id id), hagent⟩

/-! ### The agents -/

lemma agentsInput (h : StateInput t uuid4 applicationId tenantSlug state) :
    AgentsInput (t.memberTables uuid4 applicationId tenantSlug state) uuid4 applicationId
      state.agents (t.statePermRows applicationId state) where
  constraints := h.membersInput.constraints_after
  wellFormed := h.membersInput.evolves.wellFormed h.membersInput.wellFormed
  ids :=
    { injOn := fun d e hd he => h.fresh.injOn d e (within_of_agent hd (le_max_right _ _)).1
        (within_of_agent he (le_max_right _ _)).1
      new := fun d hd hi => by
        obtain ⟨hwithin, hne, hmember⟩ := within_of_agent hd (le_max_right state.members.length _)
        rcases h.membersInput.rowIds_after hi with hi | ⟨e, he, hde⟩
        · rcases tenant_rowIds hi with hi | hi
          · exact (NewIds.of_fresh h.fresh fun _ hd => hd).new d hwithin hi
          · exact hne (h.fresh.injOn d .tenant hwithin (Nat.zero_le _) hi)
        · have hd := h.fresh.injOn d e hwithin (within_of_member he (le_max_left _ _)).1 hde
          exact hmember _ (hd ▸ he) }
  names := h.names_nodup
  permissions := fun q hq => by
    obtain ⟨hq, happ, hactive, -⟩ := of_mem_activePermissions hq
    refine ⟨?_, happ, hactive⟩
    rw [memberTables, applyMembers_tables]
    rcases stateTenant_cases t uuid4 tenantSlug state
      with ⟨-, -, -, htab, -⟩ | ⟨-, -, htab⟩
    · rw [htab]
      exact hq
    · rw [htab]
      exact hq

/-! ### The tables -/

/-- A valid state leaves the tables well formed. -/
theorem wellFormed_after (h : StateInput t uuid4 applicationId tenantSlug state) :
    (t.stateTables uuid4 applicationId tenantSlug state).WellFormed :=
  (h.agentsInput.evolves _).wellFormed h.agentsInput.wellFormed

/-- **When a valid state keeps the constraints of the database**: exactly when no role
that is not internal has the name of an internal role of a listed agent. -/
theorem constraints_iff (h : StateInput t uuid4 applicationId tenantSlug state) :
    (t.stateTables uuid4 applicationId tenantSlug state).Constraints ↔
      ∀ tenant ∈ t.tenants, tenant.slug = tenantSlug →
        AgentsInput.NamesFree t tenant.id applicationId state.agents := by
  rw [stateTables, h.agentsInput.constraints_after_iff, AgentsInput.NamesFree, memberTables_roles]
  rcases stateTenant_cases t uuid4 tenantSlug state with
    ⟨tenant, hmem, hslug, -, hid⟩ | ⟨hslug, hid, -⟩
  · rw [hid]
    refine ⟨fun hfree tenant' hmem' hslug' => ?_, fun hfree => hfree tenant hmem hslug⟩
    rw [List.inj_on_of_nodup_map h.constraints.tenantSlug hmem' hmem (hslug'.trans hslug.symm)]
    exact hfree
  · refine ⟨fun _ tenant hmem hs => absurd hs (hslug tenant hmem), fun _ a _ r hr hten => ?_⟩
    exact absurd (hten.trans (congrArg some hid))
      ((h.fresh.unused .tenant (Nat.zero_le _)).roles r hr).2.1

/-- **When a valid state keeps the references**: exactly when the application is
there, or nothing is listed. -/
theorem foreignKeys_iff (h : StateInput t uuid4 applicationId tenantSlug state)
    (hfk : t.ForeignKeys) :
    (t.stateTables uuid4 applicationId tenantSlug state).ForeignKeys ↔
      (applicationId ∈ t.applications.map Application.id ∨
        state.members = [] ∧ state.agents = []) := by
  have htenant : t.stateTenantId uuid4 tenantSlug state ∈
      (t.tenantTables uuid4 tenantSlug state).tenants.map Tenant.id := by
    obtain ⟨tenant, hmem, -, hid⟩ := exists_stateTenant t uuid4 tenantSlug state
    exact hid ▸ List.mem_map_of_mem hmem
  constructor
  · intro hfk'
    by_cases hmembers : state.members = []
    · by_cases hagents : state.agents = []
      · exact Or.inr ⟨hmembers, hagents⟩
      · obtain ⟨a, rest, hcons⟩ := List.exists_cons_of_ne_nil hagents
        have he : (a, 0) ∈ state.agents.zipIdx := by simp [hcons]
        have hrow := (hfk'.agents _ (h.agentsInput.mem_applyAgents_of_plan _ he).1).2.1
        rw [(h.agentsInput.agentPlanned _ he).application, stateTables_applications] at hrow
        exact Or.inl hrow
    · obtain ⟨m, rest, hcons⟩ := List.exists_cons_of_ne_nil hmembers
      have he : (m, 0) ∈ state.members.zipIdx := by simp [hcons]
      have hmem := h.membersInput.mem_applyMembers_memberships.mpr (Or.inl ⟨_, he, rfl⟩)
      have hrow := (hfk'.memberships _ (stateTables_memberships.symm ▸ hmem)).2.1
      rw [(h.membersInput.memberPlanned he).application, stateTables_applications] at hrow
      exact Or.inl hrow
  · intro hcond
    have hmembers := h.membersInput.foreignKeys_after (tenant_foreignKeys hfk) htenant
      fun hne => hcond.elim (fun ha => by rw [tenantTables_eq]; exact ha)
        fun hnil => absurd hnil.1 hne
    refine h.agentsInput.foreignKeys_after hmembers ?_ fun hne =>
      hcond.elim (fun ha => ?_) fun hnil => absurd hnil.2 hne
    · rw [memberTables_eq]
      exact htenant
    · rw [memberTables_eq]
      exact ha

end StateInput

end Tables

end AuthzKit
