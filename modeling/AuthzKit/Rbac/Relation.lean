import AuthzKit.Rbac.Decisions
import AuthzKit.Storage.Operations
import AuthzKit.Storage.Permissions

/-!
Who may do what, as a relation over the stored rows, and the decision point as
its implementation.

The relation follows the decision algorithm of the documentation: active tenant
and application, the membership that decides, role links with tenant overrides,
the mask of the pair, and for an agent the intersection with its own grants. It
speaks of one link at a time and of no query.

* `UserMay`, `AgentGrant`: the relation.
* `effectivePermissions_iff`: `AuthorizationEngine.effectivePermissions` over the
  store computes it, when the keys of memberships and roles are unique with null
  as a value.
-/

namespace AuthzKit

open Keyed AuthorizationEngine

namespace Tables

/-- The tables as the repository of a decision point. -/
def repository (t : Tables) : RBACRepository where
  resolveUserPermissions := t.resolveUserPermissions
  resolveAgentPermissions := t.resolveAgentPermissions
  resolveTenantPermissions := t.resolveTenantPermissions
  isTenantActive := t.isTenantActive
  isApplicationActive := t.isApplicationActive
  isUserMembershipActive := t.isUserMembershipActive
  isAgentActive := t.isAgentActive

variable (t : Tables)

/-! ### The relation -/

def TenantActive (tenantId : Id) : Prop :=
  ∃ row ∈ t.tenants, row.id = tenantId ∧ row.status = statusActive

def ApplicationActive (applicationId : Id) : Prop :=
  ∃ row ∈ t.applications, row.id = applicationId ∧ row.status = statusActive

/-- The membership that decides whether a user is active in a pair: the one
scoped to the application if it exists, otherwise the tenant-wide one. -/
def Decides (tenantId applicationId userId : Id) (m : Membership) : Prop :=
  m ∈ t.memberships ∧ m.tenantId = tenantId ∧ m.userId = userId ∧
    (m.applicationId = some applicationId ∨
      m.applicationId = none ∧ ∀ m' ∈ t.memberships,
        m'.tenantId = tenantId → m'.userId = userId → m'.applicationId ≠ some applicationId)

/-- A named role of the tenant with the application and name of `r`. -/
def Override (tenantId : Id) (r o : Role) : Prop :=
  o ∈ t.roles ∧ o.tenantId = some tenantId ∧ o.agentId = none ∧
    o.applicationId = r.applicationId ∧ o.name = r.name

/-- The role effective for `r` in a tenant: the tenant's override of an
application-wide role that is not internal, otherwise the role itself. -/
def EffectiveRole (tenantId : Id) (r e : Role) : Prop :=
  (r.tenantId = none ∧ r.agentId = none ∧ t.Override tenantId r e) ∨
    (e = r ∧ ¬(r.tenantId = none ∧ r.agentId = none ∧ ∃ o, t.Override tenantId r o))

/-- A role of the owner's links carries `q` in a tenant: through the role
effective for it, and only if `q` is not deprecated. -/
def Carries (links : Multiset (Id × Id)) (tenantId owner : Id) (q : Permission) : Prop :=
  ∃ r ∈ t.roles, (owner, r.id) ∈ links ∧ (r.tenantId = none ∨ r.tenantId = some tenantId) ∧
    ∃ e, t.EffectiveRole tenantId r e ∧ q ∈ t.permissions ∧ q.deprecated = false ∧
      (e.id, q.id) ∈ t.rolePermissions

/-- An active membership of the user grants a permission filed under the
application or under none. -/
def UserGrant (tenantId applicationId userId : Id) (p : String) : Prop :=
  ∃ m ∈ t.memberships, m.tenantId = tenantId ∧ m.userId = userId ∧ m.status = statusActive ∧
    (m.applicationId = some applicationId ∨ m.applicationId = none) ∧
    ∃ q, t.Carries t.membershipRoles tenantId m.id q ∧
      (q.applicationId = some applicationId ∨ q.applicationId = none) ∧ q.name = p

/-- The active agent of the pair is granted the permission. -/
def AgentGrant (tenantId applicationId agentId : Id) (p : String) : Prop :=
  ∃ a ∈ t.agents, a.id = agentId ∧ a.tenantId = tenantId ∧ a.applicationId = applicationId ∧
    a.status = statusActive ∧ ∃ q, t.Carries t.agentRoles tenantId a.id q ∧ q.name = p

/-- The mask of the pair is empty or has the permission. -/
def MaskAllows (tenantId applicationId : Id) (p : String) : Prop :=
  (∀ n, (⟨tenantId, applicationId, n⟩ : TenantPermissionMask) ∉ t.tenantPermissionMasks) ∨
    (⟨tenantId, applicationId, p⟩ : TenantPermissionMask) ∈ t.tenantPermissionMasks

/-- What a user may do in a pair. -/
def UserMay (tenantId applicationId userId : Id) (p : String) : Prop :=
  t.TenantActive tenantId ∧ t.ApplicationActive applicationId ∧
    (∃ m, t.Decides tenantId applicationId userId m ∧ m.status = statusActive) ∧
    t.UserGrant tenantId applicationId userId p ∧ t.MaskAllows tenantId applicationId p

/-! ### Unique keys with null as a value -/

/-- `(tenant, application, user)` of memberships. -/
def UniqueMemberships : Prop :=
  (t.memberships.map fun m => (m.tenantId, m.applicationId, m.userId)).Nodup

/-- `(tenant, application, name)` of roles. -/
def UniqueRoles : Prop := (t.roles.map fun r => (r.tenantId, r.applicationId, r.name)).Nodup

instance : Decidable t.UniqueMemberships := inferInstanceAs (Decidable (List.Nodup _))

instance : Decidable t.UniqueRoles := inferInstanceAs (Decidable (List.Nodup _))

variable {t}

/-! ### The reads compute the relation -/

lemma overrideOf_eq_some_iff (h : t.UniqueRoles) {tenantId : Id} {r o : Role} :
    t.overrideOf tenantId r = some o ↔ t.Override tenantId r o := by
  have hmem : ∀ x, x ∈ (t.roles.filter fun o => o.tenantId = some tenantId ∧ o.agentId = none ∧
      o.applicationId = r.applicationId ∧ o.name = r.name) ↔ t.Override tenantId r x :=
    fun x => by simp [Override]
  rw [overrideOf]
  constructor
  · exact fun ho => (hmem o).mp (List.mem_of_getLast? ho)
  · intro ho
    cases hl : (t.roles.filter fun o => o.tenantId = some tenantId ∧ o.agentId = none ∧
        o.applicationId = r.applicationId ∧ o.name = r.name).getLast? with
    | none =>
        have hnil := List.getLast?_eq_none_iff.mp hl
        have := (hmem o).mpr ho
        rw [hnil] at this
        simp at this
    | some x =>
        obtain ⟨hx, hxt, -, hxa, hxn⟩ := (hmem x).mp (List.mem_of_getLast? hl)
        obtain ⟨ho, hot, -, hoa, hon⟩ := ho
        rw [List.inj_on_of_nodup_map h hx ho]
        simp [hxt, hot, hxa, hoa, hxn, hon]

/-- The role id the store computes for a link is that of the effective role. -/
lemma effectiveRole_iff (h : t.UniqueRoles) {tenantId : Id} {r : Role} {i : Id} :
    (∃ e, t.EffectiveRole tenantId r e ∧ e.id = i) ↔ t.effectiveRoleId tenantId r = i := by
  rw [effectiveRoleId]
  by_cases hwide : r.tenantId = none ∧ r.agentId = none
  · rw [if_pos hwide]
    cases ho : t.overrideOf tenantId r with
    | none =>
        have hno : ∀ o, ¬t.Override tenantId r o := fun o hov => by
          rw [(overrideOf_eq_some_iff h).mpr hov] at ho
          cases ho
        simp [EffectiveRole, hno]
    | some o =>
        have hov := (overrideOf_eq_some_iff h).mp ho
        have huniq : ∀ e, t.Override tenantId r e ↔ o = e := fun e => by
          rw [← overrideOf_eq_some_iff h, ho, Option.some.injEq]
        simp [EffectiveRole, huniq, hwide]
  · rw [if_neg hwide]
    have hno : ∀ o, ¬(r.tenantId = none ∧ r.agentId = none ∧ t.Override tenantId r o) :=
      fun o ho => hwide ⟨ho.1, ho.2.1⟩
    simp only [EffectiveRole, hno, false_or]
    constructor
    · rintro ⟨e, ⟨rfl, -⟩, hi⟩
      exact hi
    · exact fun hi => ⟨r, ⟨rfl, fun h' => hwide ⟨h'.1, h'.2.1⟩⟩, hi⟩

lemma grants_iff (h : t.UniqueRoles) {links : Multiset (Id × Id)} {tenantId owner : Id}
    {q : Permission} : t.Grants links tenantId owner q ↔ t.Carries links tenantId owner q := by
  refine exists_congr fun r => and_congr_right fun _ => and_congr_right fun _ =>
    and_congr_right fun _ => ?_
  have hactive : q.active = true ↔ q.deprecated = false := by simp [Permission.active]
  rw [hactive]
  constructor
  · rintro ⟨hq, hdep, hlink⟩
    obtain ⟨e, he, hid⟩ := (effectiveRole_iff h).mpr (rfl : t.effectiveRoleId tenantId r = _)
    exact ⟨e, he, hq, hdep, hid ▸ hlink⟩
  · rintro ⟨e, he, hq, hdep, hlink⟩
    exact ⟨hq, hdep, (effectiveRole_iff h).mp ⟨e, he, rfl⟩ ▸ hlink⟩

lemma mem_resolveUserPermissions_iff (h : t.UniqueRoles) {tenantId applicationId userId : Id}
    {p : String} :
    p ∈ t.resolveUserPermissions tenantId applicationId userId ↔
      t.UserGrant tenantId applicationId userId p := by
  simp only [mem_resolveUserPermissions, eligibleMemberships, List.mem_filter, decide_eq_true_eq,
    grants_iff h, UserGrant, and_assoc]

lemma mem_resolveAgentPermissions_iff (hc : t.Constraints) (h : t.UniqueRoles)
    {tenantId applicationId agentId : Id} {p : String} :
    t.isAgentActive tenantId applicationId agentId = true ∧
        p ∈ t.resolveAgentPermissions tenantId applicationId agentId ↔
      t.AgentGrant tenantId applicationId agentId p := by
  rw [isAgentActive_iff hc]
  simp only [mem_resolveAgentPermissions, getAgent_eq_some_iff hc, grants_iff h]
  constructor
  · rintro ⟨⟨a, ha, hid, ht, happ, hs⟩, a', ⟨ha', hid', -, -⟩, q, hq⟩
    obtain rfl := List.inj_on_of_nodup_map hc.agentId ha ha' (hid.trans hid'.symm)
    exact ⟨a, ha, hid, ht, happ, hs, q, hq⟩
  · rintro ⟨a, ha, hid, ht, happ, hs, q, hq⟩
    exact ⟨⟨a, ha, hid, ht, happ, hs⟩, a, ⟨ha, hid, ht, happ⟩, q, hq⟩

/-- The membership found first is the only one with its key. -/
lemma membershipOf_eq_some_iff (h : t.UniqueMemberships) {tenantId : Id}
    {applicationId : Option Id} {userId : Id} {m : Membership} :
    t.membershipOf tenantId applicationId userId = some m ↔
      m ∈ t.memberships ∧ m.tenantId = tenantId ∧ m.userId = userId ∧
        m.applicationId = applicationId := by
  have hfound : ∀ x, t.membershipOf tenantId applicationId userId = some x →
      x ∈ t.memberships ∧ x.tenantId = tenantId ∧ x.userId = userId ∧
        x.applicationId = applicationId := fun x hx =>
    ⟨List.mem_of_find?_eq_some hx, by simpa using List.find?_some hx⟩
  constructor
  · exact hfound m
  · rintro ⟨hm, ht, hu, ha⟩
    cases hf : t.membershipOf tenantId applicationId userId with
    | none =>
        rw [membershipOf, List.find?_eq_none] at hf
        exact absurd (by simp [ht, hu, ha]) (hf m hm)
    | some m' =>
        obtain ⟨hm', ht', hu', ha'⟩ := hfound m' hf
        rw [List.inj_on_of_nodup_map h hm' hm]
        simp [ht, hu, ha, ht', hu', ha']

lemma isUserMembershipActive_iff (h : t.UniqueMemberships) {tenantId applicationId userId : Id} :
    t.isUserMembershipActive tenantId applicationId userId = true ↔
      ∃ m, t.Decides tenantId applicationId userId m ∧ m.status = statusActive := by
  have happ : ∀ m, t.membershipOf tenantId (some applicationId) userId = some m ↔ _ :=
    fun m => membershipOf_eq_some_iff h
  have hwide : ∀ m, t.membershipOf tenantId none userId = some m ↔ _ :=
    fun m => membershipOf_eq_some_iff h
  rw [isUserMembershipActive]
  cases ha : t.membershipOf tenantId (some applicationId) userId with
  | some m =>
      obtain ⟨hm, ht, hu, hma⟩ := (happ m).mp ha
      simp only [Option.some_or, beq_iff_eq]
      constructor
      · exact fun hs => ⟨m, ⟨hm, ht, hu, Or.inl hma⟩, hs⟩
      · rintro ⟨m', ⟨hm', ht', hu', hma' | ⟨-, hno⟩⟩, hs⟩
        · have := (happ m').mpr ⟨hm', ht', hu', hma'⟩
          rw [ha] at this
          exact Option.some.inj this ▸ hs
        · exact absurd hma (hno m hm ht hu)
  | none =>
      have hno : ∀ m' ∈ t.memberships, m'.tenantId = tenantId → m'.userId = userId →
          m'.applicationId ≠ some applicationId := fun m' hm' ht' hu' hma' => by
        rw [(happ m').mpr ⟨hm', ht', hu', hma'⟩] at ha
        cases ha
      rw [Option.none_or]
      cases hw : t.membershipOf tenantId none userId with
      | none =>
          simp only [Bool.false_eq_true, false_iff]
          rintro ⟨m, ⟨hm, ht, hu, hma | ⟨hma, -⟩⟩, -⟩
          · exact hno m hm ht hu hma
          · rw [(hwide m).mpr ⟨hm, ht, hu, hma⟩] at hw
            cases hw
      | some m =>
          obtain ⟨hm, ht, hu, hma⟩ := (hwide m).mp hw
          simp only [beq_iff_eq]
          constructor
          · exact fun hs => ⟨m, ⟨hm, ht, hu, Or.inr ⟨hma, hno⟩⟩, hs⟩
          · rintro ⟨m', ⟨hm', ht', hu', hma' | ⟨hma', -⟩⟩, hs⟩
            · exact absurd hma' (hno m' hm' ht' hu')
            · have := (hwide m').mpr ⟨hm', ht', hu', hma'⟩
              rw [hw] at this
              exact Option.some.inj this ▸ hs

lemma mem_masked_iff (tenantId applicationId : Id) (permissions : Finset String) (p : String) :
    p ∈ masked (t.resolveTenantPermissions tenantId applicationId) permissions ↔
      p ∈ permissions ∧ t.MaskAllows tenantId applicationId p := by
  rw [masked, MaskAllows]
  split_ifs with hne
  · obtain ⟨n, hn⟩ := hne
    rw [Finset.mem_inter, mem_resolveTenantPermissions]
    have hsome : ¬∀ n, (⟨tenantId, applicationId, n⟩ : TenantPermissionMask) ∉
        t.tenantPermissionMasks := fun hno => hno n (mem_resolveTenantPermissions.mp hn)
    simp [hsome]
  · rw [Finset.not_nonempty_iff_eq_empty] at hne
    have hno : ∀ n, (⟨tenantId, applicationId, n⟩ : TenantPermissionMask) ∉
        t.tenantPermissionMasks := fun n hn => by
      rw [← mem_resolveTenantPermissions, hne] at hn
      exact absurd hn (Finset.notMem_empty n)
    simp [hno]

/-! ### The decision point computes the relation -/

/-- **The decision point over the store computes the relation**: what it lists
for a user is what the user may do, and for an agent what the user may do and the
agent is granted. -/
theorem effectivePermissions_iff (s : SqlAlchemyStore) (policyEngine : PolicyEngine)
    (hm : s.tables.UniqueMemberships) (hr : s.tables.UniqueRoles)
    (tenantId applicationId userId agentId : Id) (serviceAccountId : Option Id) (p : String) :
    let engine : AuthorizationEngine := ⟨s.tables.repository, policyEngine⟩
    (∀ agent, p ∈ engine.effectivePermissions tenantId applicationId
        ⟨subjectUser, some userId, agent, serviceAccountId⟩ none none ↔
      s.tables.UserMay tenantId applicationId userId p) ∧
    (p ∈ engine.effectivePermissions tenantId applicationId
        ⟨subjectAgent, some userId, some agentId, serviceAccountId⟩ none none ↔
      s.tables.UserMay tenantId applicationId userId p ∧
        s.tables.AgentGrant tenantId applicationId agentId p) := by
  intro engine
  have hc := s.constraints
  rw [UserMay, TenantActive, ApplicationActive, ← isTenantActive_iff hc,
    ← isApplicationActive_iff hc, ← isUserMembershipActive_iff hm,
    ← mem_resolveUserPermissions_iff hr, ← mem_resolveAgentPermissions_iff hc hr]
  refine ⟨fun agent => ?_, ?_⟩
  · rw [engine.mem_effectivePermissions_user]
    exact and_congr_right fun _ => and_congr_right fun _ => and_congr_right fun _ =>
      mem_masked_iff ..
  · rw [engine.mem_effectivePermissions_agent]
    have hmask := mem_masked_iff (t := s.tables) tenantId applicationId
      (s.tables.resolveUserPermissions tenantId applicationId userId ∩
        s.tables.resolveAgentPermissions tenantId applicationId agentId) p
    rw [Finset.mem_inter] at hmask
    constructor
    · rintro ⟨ht, happ, hmember, hact, hp⟩
      obtain ⟨⟨hu, hag⟩, hall⟩ := hmask.mp hp
      exact ⟨⟨ht, happ, hmember, hu, hall⟩, hact, hag⟩
    · rintro ⟨⟨ht, happ, hmember, hu, hall⟩, hact, hag⟩
      exact ⟨ht, happ, hmember, hact, hmask.mpr ⟨⟨hu, hag⟩, hall⟩⟩

/-- The permission of a member and an agent, as listed and as related. -/
theorem effectivePermissions_iff_acme :
    let engine : AuthorizationEngine :=
      ⟨SqlAlchemyStore.acmeStore.tables.repository, ⟨[], fun _ _ => .none⟩⟩
    let tenantId := SqlAlchemyStore.sampleIds 0 .row
    let applicationId := SqlAlchemyStore.sampleIds 1 .application
    let userId := SqlAlchemyStore.sampleIds 3 (.user 0)
    let agentId := SqlAlchemyStore.sampleIds 3 (.agent 0)
    (∀ agent, "deal.read" ∈ engine.effectivePermissions tenantId applicationId
        ⟨subjectUser, some userId, agent, none⟩ none none ↔
      SqlAlchemyStore.acmeStore.tables.UserMay tenantId applicationId userId "deal.read") ∧
    ("deal.read" ∈ engine.effectivePermissions tenantId applicationId
        ⟨subjectAgent, some userId, some agentId, none⟩ none none ↔
      SqlAlchemyStore.acmeStore.tables.UserMay tenantId applicationId userId "deal.read" ∧
        SqlAlchemyStore.acmeStore.tables.AgentGrant tenantId applicationId agentId "deal.read") :=
  effectivePermissions_iff SqlAlchemyStore.acmeStore _ (by decide +kernel) (by decide +kernel) _ _ _
    _ none _

end Tables

end AuthzKit
