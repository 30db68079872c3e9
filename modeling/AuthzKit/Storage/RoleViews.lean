import AuthzKit.Storage.Invariant
import AuthzKit.Storage.Permissions
import AuthzKit.Storage.Reads

/-!
`list_tenant_roles` and the decisions: the roles a tenant sees have the permissions their
holders resolve to.

The listing finds overrides by name and filters permissions by activity only; the resolution
rewrites each link and asks for the application as well. They agree because an override has one
row and a role carries permissions of its own application only.

* `roleByName_eq_some_iff`, `overrideOf_eq`: the row of an override.
* `effectiveRoleId_eq`: the role that counts for a holder of a default role or of its override.
* `listTenantRoles_truthful`: the views of a tenant.
-/

namespace AuthzKit

open Keyed

namespace Tables

variable {t : Tables} {tenantId applicationId : Id} {name : String}

/-- No two application-wide roles of one application have a name in common. -/
def UniqueDefaults (t : Tables) : Prop :=
  ∀ applicationId, ((t.namedRoles (some applicationId) none).map Role.name).Nodup

/-! ### The row of an override -/

lemma mem_namedRoles {application tenant : Option Id} {r : Role} :
    r ∈ t.namedRoles application tenant ↔
      r ∈ t.roles ∧ r.applicationId = application ∧ r.tenantId = tenant ∧ r.agentId = none := by
  simp [namedRoles]

lemma uniqueDefaults_of_nodup (h : ((t.roles.filter fun r =>
    r.tenantId = none ∧ r.agentId = none).map fun r => (r.applicationId, r.name)).Nodup) :
    t.UniqueDefaults := by
  intro applicationId
  have hsub : (t.namedRoles (some applicationId) none).Sublist
      (t.roles.filter fun r => r.tenantId = none ∧ r.agentId = none) :=
    List.monotone_filter_right _ fun r hr =>
      decide_eq_true (of_decide_eq_true hr).2
  have hpairs : (t.namedRoles (some applicationId) none).map (fun r => (r.applicationId, r.name)) =
      ((t.namedRoles (some applicationId) none).map Role.name).map (Prod.mk (some applicationId)) := by
    rw [List.map_map]
    exact List.map_congr_left fun r hr => Prod.ext (mem_namedRoles.mp hr).2.1 rfl
  exact List.Nodup.of_map _ (hpairs ▸ h.sublist (hsub.map _))

/-- The overrides of a tenant have distinct names. -/
lemma nodup_overrides (hc : t.Constraints) (tenantId applicationId : Id) :
    ((t.namedRoles (some applicationId) (some tenantId)).map Role.name).Nodup := by
  refine (hc.roleKey.filter _).nodup_map fun r hr r' hr' hname => ?_
  obtain ⟨-, happ, hten, -⟩ := mem_namedRoles.mp hr
  obtain ⟨-, happ', hten', -⟩ := mem_namedRoles.mp hr'
  refine ⟨(tenantId, applicationId, r.name), ?_, ?_⟩
  · rw [Role.uniqueKey, hten, happ]
    rfl
  · rw [Role.uniqueKey, hten', happ', hname]
    rfl

/-- The override of a name is the named role of the pair. -/
lemma roleByName_eq_some_iff (hc : t.Constraints) {o : Role} :
    t.roleByName (some applicationId) (some tenantId) name = some o ↔
      o ∈ t.namedRoles (some applicationId) (some tenantId) ∧ o.name = name := by
  rw [roleByName]
  exact lookup_eq_some_iff (nodup_overrides hc tenantId applicationId)

/-- The batched reads find the override that a lookup by name finds. -/
lemma overrideOf_eq (hc : t.Constraints) {r : Role} (happ : r.applicationId = some applicationId) :
    t.overrideOf tenantId r = t.roleByName (some applicationId) (some tenantId) r.name := by
  have hrows : t.overrideOf tenantId r =
      ((t.namedRoles (some applicationId) (some tenantId)).filter fun o =>
        o.name = r.name).getLast? := by
    rw [overrideOf, namedRoles, List.filter_filter, happ]
    congr 1
    refine List.filter_congr fun o _ => ?_
    rw [← Bool.decide_and, decide_eq_decide]
    tauto
  rw [hrows, ← lookup_ofList, ofList_eq_self (nodup_overrides hc tenantId applicationId), roleByName]

/-! ### Holders -/

/-- The role a name stands for in a tenant: the default role, or the tenant's override. -/
def StandsFor (t : Tables) (tenantId applicationId : Id) (name : String) (r : Role) : Prop :=
  r ∈ t.roles ∧ r.applicationId = some applicationId ∧ r.name = name ∧ r.agentId = none ∧
    RoleIn tenantId r

/-- The owner is linked to exactly the role a name stands for. -/
def LinkedTo (t : Tables) (links : Multiset (Id × Id)) (tenantId applicationId : Id)
    (name : String) (owner : Id) : Prop :=
  (∃ i, (owner, i) ∈ links) ∧
    ∀ i, (owner, i) ∈ links → ∃ r, t.StandsFor tenantId applicationId name r ∧ r.id = i

/-- A user's only active membership in a tenant is one of the application. -/
structure SoleMembership (t : Tables) (tenantId applicationId userId : Id) (m : Membership) :
    Prop where
  mem : m ∈ t.memberships
  tenant : m.tenantId = tenantId
  user : m.userId = userId
  application : m.applicationId = some applicationId
  active : m.status = statusActive
  sole : ∀ m' ∈ t.memberships, m'.tenantId = tenantId → m'.userId = userId →
    m'.status = statusActive → m' = m

/-- The id of the role whose permissions count: the override's, else the default's. -/
def countingId (t : Tables) (tenantId applicationId : Id) (d : Role) : Id :=
  ((t.roleByName (some applicationId) (some tenantId) d.name).map Role.id).getD d.id

/-- The role that counts does not depend on which of the two is linked. -/
lemma effectiveRoleId_eq (hc : t.Constraints) (hu : t.UniqueDefaults) {d r : Role}
    (hd : d ∈ t.namedRoles (some applicationId) none)
    (hr : t.StandsFor tenantId applicationId d.name r) :
    t.effectiveRoleId tenantId r = t.countingId tenantId applicationId d := by
  obtain ⟨hmem, happ, hname, hagent, hwide | hown⟩ := hr
  · rw [effectiveRoleId, if_pos ⟨hwide, hagent⟩, overrideOf_eq hc happ, hname, countingId]
    obtain rfl : r = d := List.inj_on_of_nodup_map (hu applicationId)
      (mem_namedRoles.mpr ⟨hmem, happ, hwide, hagent⟩) hd hname
    rfl
  · have hoverride : t.roleByName (some applicationId) (some tenantId) d.name = some r :=
      (roleByName_eq_some_iff hc).mpr ⟨mem_namedRoles.mpr ⟨hmem, happ, hown, hagent⟩, hname⟩
    rw [effectiveRoleId, if_neg (by simp [hown]), countingId, hoverride]
    rfl

/-- What the links of a holder carry. -/
lemma grants_iff_of_linkedTo (hc : t.Constraints) (hu : t.UniqueDefaults)
    {links : Multiset (Id × Id)} {owner : Id} {d : Role}
    (hd : d ∈ t.namedRoles (some applicationId) none)
    (hlinked : t.LinkedTo links tenantId applicationId d.name owner) {q : Permission} :
    t.Grants links tenantId owner q ↔ q ∈ t.permissions ∧ q.active = true ∧
      (t.countingId tenantId applicationId d, q.id) ∈ t.rolePermissions := by
  constructor
  · rintro ⟨r, hr, hlink, -, hq, hactive, hcarries⟩
    obtain ⟨r', hstands, hid⟩ := hlinked.2 r.id hlink
    obtain rfl := List.inj_on_of_nodup_map hc.roleId hstands.1 hr hid
    exact ⟨hq, hactive, effectiveRoleId_eq hc hu hd hstands ▸ hcarries⟩
  · rintro ⟨hq, hactive, hcarries⟩
    obtain ⟨i, hlink⟩ := hlinked.1
    obtain ⟨r, hstands, rfl⟩ := hlinked.2 i hlink
    exact ⟨r, hstands.1, hlink, hstands.2.2.2.2, hq, hactive,
      (effectiveRoleId_eq hc hu hd hstands).symm ▸ hcarries⟩

/-! ### Views -/

/-- A role of the application. -/
def OfApplication (t : Tables) (applicationId i : Id) : Prop :=
  ∀ r ∈ t.roles, r.id = i → r.applicationId = some applicationId

lemma ofApplication_of_mem (hc : t.Constraints) {tenant : Option Id} {r : Role}
    (hr : r ∈ t.namedRoles (some applicationId) tenant) : t.OfApplication applicationId r.id := by
  intro r' hr' hid
  obtain ⟨hmem, happ, -⟩ := mem_namedRoles.mp hr
  rwa [List.inj_on_of_nodup_map hc.roleId hr' hmem hid]

lemma ofApplication_countingId (hc : t.Constraints) {d : Role}
    (hd : d ∈ t.namedRoles (some applicationId) none) :
    t.OfApplication applicationId (t.countingId tenantId applicationId d) := by
  rw [countingId]
  cases hoverride : t.roleByName (some applicationId) (some tenantId) d.name with
  | none => exact ofApplication_of_mem hc hd
  | some o => exact ofApplication_of_mem hc ((roleByName_eq_some_iff hc).mp hoverride).1

/-- A role of the application carries permissions of the application. -/
lemma application_of_carried (hc : t.Constraints) (hw : t.WellFormed) {i : Id}
    (hi : t.OfApplication applicationId i) {q : Permission} (hq : q ∈ t.permissions)
    (hlink : (i, q.id) ∈ t.rolePermissions) : q.applicationId = some applicationId := by
  obtain ⟨r, hr, q', hq', hrid, hqid, hcarries⟩ := hw.permissionLinks _ hlink
  obtain rfl := List.inj_on_of_nodup_map hc.permissionId hq' hq hqid
  exact hcarries.symm.trans (hi r hr hrid)

/-- The names of a role's permissions, listed once and in order. -/
lemma sort_eq_rolePermissionNames (hc : t.Constraints) (hw : t.WellFormed) {i : Id}
    (hi : t.OfApplication applicationId i) {names : Finset String}
    (hnames : ∀ p, p ∈ names ↔ ∃ q ∈ t.permissions, q.active = true ∧
      (i, q.id) ∈ t.rolePermissions ∧ q.name = p) :
    names.sort (· ≤ ·) = t.rolePermissionNames i := by
  have hnodup : ((t.permissions.filter fun p =>
      (i, p.id) ∈ t.rolePermissions ∧ p.active).map Permission.name).Nodup := by
    refine (hc.permissionName.filter _).nodup_map fun q hq q' hq' hname => ?_
    obtain ⟨hq, hlink⟩ := List.mem_filter.mp hq
    obtain ⟨hq', hlink'⟩ := List.mem_filter.mp hq'
    refine ⟨(applicationId, q.name), ?_, ?_⟩
    · rw [Permission.nameKey, application_of_carried hc hw hi hq (of_decide_eq_true hlink).1]
      rfl
    · rw [Permission.nameKey, application_of_carried hc hw hi hq' (of_decide_eq_true hlink').1,
        hname]
      rfl
  have hset : names = (t.rolePermissionNames i).toFinset := by
    ext p
    rw [hnames, rolePermissionNames, List.mem_toFinset, List.mem_insertionSort, List.mem_map]
    simp only [List.mem_filter, decide_eq_true_eq]
    constructor
    · rintro ⟨q, hq, hactive, hlink, rfl⟩
      exact ⟨q, ⟨hq, hlink, hactive⟩, rfl⟩
    · rintro ⟨q, ⟨hq, hlink, hactive⟩, rfl⟩
      exact ⟨q, hq, hactive, hlink, rfl⟩
  rw [hset]
  refine (List.toFinset_sort _ ?_).mpr (List.pairwise_insertionSort _ _)
  exact (List.perm_insertionSort _ _).nodup_iff.mpr hnodup

/-- A user whose only active membership holds a role has the permissions that count. -/
lemma user_permissions_eq (hc : t.Constraints) (hw : t.WellFormed) (hu : t.UniqueDefaults)
    {d : Role} (hd : d ∈ t.namedRoles (some applicationId) none) {userId : Id} {m : Membership}
    (hsole : t.SoleMembership tenantId applicationId userId m)
    (hlinked : t.LinkedTo t.membershipRoles tenantId applicationId d.name m.id) :
    (t.resolveUserPermissions tenantId applicationId userId).sort (· ≤ ·) =
      t.rolePermissionNames (t.countingId tenantId applicationId d) := by
  have hi : t.OfApplication applicationId (t.countingId tenantId applicationId d) :=
    ofApplication_countingId hc hd
  refine sort_eq_rolePermissionNames hc hw hi fun p => ?_
  rw [mem_resolveUserPermissions]
  constructor
  · rintro ⟨m', hm', q, hgrants, -, rfl⟩
    simp only [eligibleMemberships, List.mem_filter, decide_eq_true_eq] at hm'
    obtain rfl := hsole.sole m' hm'.1 hm'.2.1 hm'.2.2.1 hm'.2.2.2.1
    obtain ⟨hq, hactive, hlink⟩ := (grants_iff_of_linkedTo hc hu hd hlinked).mp hgrants
    exact ⟨q, hq, hactive, hlink, rfl⟩
  · rintro ⟨q, hq, hactive, hlink, rfl⟩
    have heligible : m ∈ t.eligibleMemberships tenantId applicationId userId :=
      List.mem_filter.mpr ⟨hsole.mem, decide_eq_true
        ⟨hsole.tenant, hsole.user, hsole.active, Or.inl hsole.application⟩⟩
    exact ⟨m, heligible, q, (grants_iff_of_linkedTo hc hu hd hlinked).mpr ⟨hq, hactive, hlink⟩,
      Or.inl (application_of_carried hc hw hi hq hlink), rfl⟩

/-- An agent that holds a role has the permissions that count. -/
lemma agent_permissions_eq (hc : t.Constraints) (hw : t.WellFormed) (hu : t.UniqueDefaults)
    {d : Role} (hd : d ∈ t.namedRoles (some applicationId) none) {a : Agent} (ha : a ∈ t.agents)
    (hten : a.tenantId = tenantId) (happ : a.applicationId = applicationId)
    (hlinked : t.LinkedTo t.agentRoles tenantId applicationId d.name a.id) :
    (t.resolveAgentPermissions tenantId applicationId a.id).sort (· ≤ ·) =
      t.rolePermissionNames (t.countingId tenantId applicationId d) := by
  refine sort_eq_rolePermissionNames hc hw (ofApplication_countingId hc hd) fun p => ?_
  have hget : t.getAgent tenantId applicationId a.id = some a :=
    (getAgent_eq_some_iff hc).mpr ⟨ha, rfl, hten, happ⟩
  rw [mem_resolveAgentPermissions]
  constructor
  · rintro ⟨a', ha', q, hgrants, rfl⟩
    obtain rfl := Option.some.inj (hget.symm.trans ha')
    obtain ⟨hq, hactive, hlink⟩ := (grants_iff_of_linkedTo hc hu hd hlinked).mp hgrants
    exact ⟨q, hq, hactive, hlink, rfl⟩
  · rintro ⟨q, hq, hactive, hlink, rfl⟩
    exact ⟨a, hget, q, (grants_iff_of_linkedTo hc hu hd hlinked).mpr ⟨hq, hactive, hlink⟩, rfl⟩

/-- A view is about a default role, and lists the role that counts. -/
lemma of_mem_listTenantRoles (hc : t.Constraints) {v : TenantRoleView}
    (hv : v ∈ t.listTenantRoles tenantId applicationId) :
    ∃ d ∈ t.namedRoles (some applicationId) none, v.name = d.name ∧
      v.permissions = t.rolePermissionNames (t.countingId tenantId applicationId d) ∧
      v.defaultPermissions = t.rolePermissionNames d.id := by
  simp only [listTenantRoles, List.mem_map, List.mem_insertionSort] at hv
  obtain ⟨d, hd, rfl⟩ := hv
  refine ⟨d, hd, ?_⟩
  rw [ofList_eq_self (nodup_overrides hc tenantId applicationId), countingId, roleByName]
  cases lookup Role.name (t.namedRoles (some applicationId) (some tenantId)) d.name with
  | none => exact ⟨rfl, rfl, rfl⟩
  | some o => exact ⟨rfl, rfl, rfl⟩

/-- The permissions a name stands for are those of its holders in the pair. -/
structure HoldersHave (t : Tables) (tenantId applicationId : Id) (name : String)
    (permissions : List String) : Prop where
  users : ∀ userId m, t.SoleMembership tenantId applicationId userId m →
    t.LinkedTo t.membershipRoles tenantId applicationId name m.id →
    (t.resolveUserPermissions tenantId applicationId userId).sort (· ≤ ·) = permissions
  agents : ∀ a ∈ t.agents, a.tenantId = tenantId → a.applicationId = applicationId →
    t.LinkedTo t.agentRoles tenantId applicationId name a.id →
    (t.resolveAgentPermissions tenantId applicationId a.id).sort (· ≤ ·) = permissions

lemma holdersHave_of_default (hc : t.Constraints) (hw : t.WellFormed) (hu : t.UniqueDefaults)
    {d : Role} (hd : d ∈ t.namedRoles (some applicationId) none) :
    t.HoldersHave tenantId applicationId d.name
      (t.rolePermissionNames (t.countingId tenantId applicationId d)) where
  users := fun _ _ hsole hlinked => user_permissions_eq hc hw hu hd hsole hlinked
  agents := fun _ ha hten happ hlinked => agent_permissions_eq hc hw hu hd ha hten happ hlinked

end Tables

/-- **The tenant role view tells the truth about decisions**: the holders of a name in the tenant
resolve to the listed permissions, and in every tenant without an override to the default ones. -/
theorem SqlAlchemyStore.Reachable.listTenantRoles_truthful {s : SqlAlchemyStore}
    (h : s.Reachable) (hu : s.tables.UniqueDefaults) {tenantId applicationId : Id}
    {v : TenantRoleView} (hv : v ∈ s.tables.listTenantRoles tenantId applicationId) :
    s.tables.HoldersHave tenantId applicationId v.name v.permissions ∧
      ∀ other, s.tables.roleByName (some applicationId) (some other) v.name = none →
        s.tables.HoldersHave other applicationId v.name v.defaultPermissions := by
  obtain ⟨d, hd, hname, hpermissions, hdefaults⟩ := Tables.of_mem_listTenantRoles s.constraints hv
  rw [hname, hpermissions, hdefaults]
  refine ⟨Tables.holdersHave_of_default s.constraints h.wellFormed hu hd, fun other hnone => ?_⟩
  have hholders : s.tables.HoldersHave other applicationId d.name
      (s.tables.rolePermissionNames (s.tables.countingId other applicationId d)) :=
    Tables.holdersHave_of_default s.constraints h.wellFormed hu hd
  rwa [Tables.countingId, hnone] at hholders

namespace SqlAlchemyStore

/-- The store with an override that takes the viewers' permission away. -/
def mutedViewers : SqlAlchemyStore :=
  acmeStore.next (.setTenantRoleOverride (sampleIds 0 .row) (sampleIds 1 .application) "viewer" ∅)
    (sampleIds 5)

lemma mutedViewers_reachable : mutedViewers.Reachable :=
  Machine.Reachable.step (i := (.setTenantRoleOverride (sampleIds 0 .row)
    (sampleIds 1 .application) "viewer" ∅, sampleIds 5)) acmeStore_reachable
    ⟨by decide +kernel, rfl⟩

/-- The viewers of that tenant have nothing, those of others the default. -/
theorem listTenantRoles_truthful_mutedViewers :
    mutedViewers.tables.HoldersHave (sampleIds 0 .row) (sampleIds 1 .application) "viewer" [] ∧
      ∀ other, mutedViewers.tables.roleByName (some (sampleIds 1 .application)) (some other)
          "viewer" = none →
        mutedViewers.tables.HoldersHave other (sampleIds 1 .application) "viewer" ["deal.read"] :=
  mutedViewers_reachable.listTenantRoles_truthful
    (Tables.uniqueDefaults_of_nodup (by decide +kernel))
    (show ⟨"viewer", "tenant", [], ["deal.read"]⟩ ∈ mutedViewers.tables.listTenantRoles
      (sampleIds 0 .row) (sampleIds 1 .application) by decide +kernel)

end SqlAlchemyStore

end AuthzKit
