import AuthzKit.Storage.Resolve
import AuthzKit.Storage.WellFormed

/-!
The permission reads of the store, link by link.

The source answers each question with a few set-based queries. Here every read is
restated over the single rows and links it depends on.

* `overrideOf`, `effectiveRoleId`: which role counts for one link;
  `mem_effectiveRoleIds` says the batched lookup agrees with it.
* `Grants`: a link of an owner that carries a permission.
* `mem_resolveUserPermissions`, `mem_resolveAgentPermissions`,
  `mem_resolveTenantPermissions`.
* `isTenantActive_iff`, `isApplicationActive_iff`, `isUserMembershipActive_iff`,
  `isAgentActive_iff`.
-/

namespace AuthzKit

open Keyed

namespace Tables

variable {t : Tables}

/-! ### The role that counts for a link -/

/-- The named role of a tenant that overrides `r`, when there is one: the last
with the application and name of `r`. -/
def overrideOf (t : Tables) (tenantId : Id) (r : Role) : Option Role :=
  (t.roles.filter fun o =>
    o.tenantId = some tenantId ∧ o.agentId = none ∧ o.applicationId = r.applicationId ∧
      o.name = r.name).getLast?

/-- The id of the role that counts in a tenant for a link to `r`. -/
def effectiveRoleId (t : Tables) (tenantId : Id) (r : Role) : Id :=
  if r.tenantId = none ∧ r.agentId = none then
    ((t.overrideOf tenantId r).map Role.id).getD r.id
  else r.id

/-- Among the overrides of a set of names, those of a name in the set are found by
application and name. -/
lemma lookup_overrides {tenantId : Id} {names : Finset String} {r : Role} (h : r.name ∈ names) :
    lookup (fun o : Role => (o.applicationId, o.name))
        (ofList (fun o => (o.applicationId, o.name)) (t.roles.filter fun o =>
          o.tenantId = some tenantId ∧ o.agentId = none ∧ o.name ∈ names))
        (r.applicationId, r.name)
      = t.overrideOf tenantId r := by
  rw [lookup_ofList, List.filter_filter, overrideOf]
  congr 1
  refine List.filter_congr fun o _ => ?_
  rw [← Bool.decide_and, decide_eq_decide, Prod.mk.injEq]
  constructor
  · rintro ⟨⟨ha, hn⟩, ht, hag, -⟩
    exact ⟨ht, hag, ha, hn⟩
  · rintro ⟨ht, hag, ha, hn⟩
    exact ⟨⟨ha, hn⟩, ht, hag, hn ▸ h⟩

/-- The dictionary of overrides, built from all names at once, agrees with the
override of each link. -/
theorem mem_effectiveRoleIds {tenantId : Id} {linked : List Role} {i : Id} :
    i ∈ t.effectiveRoleIds tenantId linked ↔
      ∃ r ∈ linked, RoleIn tenantId r ∧ t.effectiveRoleId tenantId r = i := by
  unfold effectiveRoleIds
  extract_lets own names overrides
  have hown : ∀ r, r ∈ own ↔ r ∈ linked ∧ RoleIn tenantId r := fun r => by simp [own, RoleIn]
  rw [List.mem_toFinset, List.mem_map]
  simp only [hown, and_assoc]
  refine exists_congr fun r => and_congr_right fun hr => and_congr_right fun hin => ?_
  rw [effectiveRoleId]
  by_cases hwide : r.tenantId = none ∧ r.agentId = none
  · have hname : r.name ∈ names := List.mem_toFinset.mpr <| List.mem_map_of_mem <|
      List.mem_filter.mpr ⟨(hown r).mpr ⟨hr, hin⟩, by simpa using hwide⟩
    rw [if_pos hwide, if_pos hwide]
    simp only [overrides, if_pos (show names.Nonempty from ⟨r.name, hname⟩),
      lookup_overrides hname]
  · rw [if_neg hwide, if_neg hwide]

/-! ### Permission sets -/

/-- A link of the owner `owner` carries the permission `q` in a tenant. -/
def Grants (t : Tables) (links : Multiset (Id × Id)) (tenantId owner : Id) (q : Permission) :
    Prop :=
  ∃ r ∈ t.roles, (owner, r.id) ∈ links ∧ RoleIn tenantId r ∧ q ∈ t.permissions ∧
    q.active = true ∧ (t.effectiveRoleId tenantId r, q.id) ∈ t.rolePermissions

lemma mem_linkedRoles {links : Multiset (Id × Id)} {ids : List Id} {r : Role} :
    r ∈ t.linkedRoles links ids ↔ r ∈ t.roles ∧ ∃ i ∈ ids, (i, r.id) ∈ links := by
  simp [linkedRoles]

/-- The permissions filed under an application or under none, that some link of a
counting membership carries. -/
theorem mem_resolveUserPermissions {tenantId applicationId userId : Id} {p : String} :
    p ∈ t.resolveUserPermissions tenantId applicationId userId ↔
      ∃ m ∈ t.eligibleMemberships tenantId applicationId userId, ∃ q,
        t.Grants t.membershipRoles tenantId m.id q ∧
          (q.applicationId = some applicationId ∨ q.applicationId = none) ∧ q.name = p := by
  rw [resolveUserPermissions]
  simp only
  split_ifs with hids hroles
  · rw [List.map_eq_nil_iff] at hids
    simp [hids]
  · refine ⟨fun h => absurd h (Finset.notMem_empty p), ?_⟩
    rintro ⟨m, hm, q, ⟨r, hr, hlink, hin, -⟩, -⟩
    have hmem : t.effectiveRoleId tenantId r ∈ t.effectiveRoleIds tenantId
        (t.linkedRoles t.membershipRoles
          ((t.eligibleMemberships tenantId applicationId userId).map Membership.id)) :=
      mem_effectiveRoleIds.mpr
        ⟨r, mem_linkedRoles.mpr ⟨hr, m.id, List.mem_map_of_mem hm, hlink⟩, hin, rfl⟩
    rw [hroles] at hmem
    exact absurd hmem (Finset.notMem_empty _)
  · simp only [List.mem_toFinset, List.mem_map, List.mem_filter, decide_eq_true_eq]
    constructor
    · rintro ⟨q, ⟨hq, ⟨i, hi, hqi⟩, hact, happ⟩, rfl⟩
      obtain ⟨r, hr, hin, rfl⟩ := mem_effectiveRoleIds.mp hi
      obtain ⟨hr, i, hi, hlink⟩ := mem_linkedRoles.mp hr
      obtain ⟨m, hm, rfl⟩ := List.mem_map.mp hi
      exact ⟨m, hm, q, ⟨r, hr, hlink, hin, hq, hact, hqi⟩, happ, rfl⟩
    · rintro ⟨m, hm, q, ⟨r, hr, hlink, hin, hq, hact, hqi⟩, happ, rfl⟩
      refine ⟨q, ⟨hq, ⟨_, mem_effectiveRoleIds.mpr ⟨r, ?_, hin, rfl⟩, hqi⟩, hact, happ⟩, rfl⟩
      exact mem_linkedRoles.mpr ⟨hr, m.id, List.mem_map_of_mem hm, hlink⟩

/-- The permissions some link of the agent carries; their application is not
asked for. -/
theorem mem_resolveAgentPermissions {tenantId applicationId agentId : Id} {p : String} :
    p ∈ t.resolveAgentPermissions tenantId applicationId agentId ↔
      ∃ a, t.getAgent tenantId applicationId agentId = some a ∧ ∃ q,
        t.Grants t.agentRoles tenantId a.id q ∧ q.name = p := by
  rw [resolveAgentPermissions]
  cases t.getAgent tenantId applicationId agentId with
  | none => simp
  | some a =>
      simp only [Option.some.injEq, exists_eq_left']
      split_ifs with hroles
      · refine ⟨fun h => absurd h (Finset.notMem_empty p), ?_⟩
        rintro ⟨q, ⟨r, hr, hlink, hin, -⟩, -⟩
        have hmem : t.effectiveRoleId tenantId r ∈
            t.effectiveRoleIds tenantId (t.linkedRoles t.agentRoles [a.id]) :=
          mem_effectiveRoleIds.mpr
            ⟨r, mem_linkedRoles.mpr ⟨hr, a.id, List.mem_singleton_self _, hlink⟩, hin, rfl⟩
        rw [hroles] at hmem
        exact absurd hmem (Finset.notMem_empty _)
      · simp only [List.mem_toFinset, List.mem_map, List.mem_filter, decide_eq_true_eq]
        constructor
        · rintro ⟨q, ⟨hq, ⟨i, hi, hqi⟩, hact⟩, rfl⟩
          obtain ⟨r, hr, hin, rfl⟩ := mem_effectiveRoleIds.mp hi
          obtain ⟨hr, i, hi, hlink⟩ := mem_linkedRoles.mp hr
          obtain rfl := List.mem_singleton.mp hi
          exact ⟨q, ⟨r, hr, hlink, hin, hq, hact, hqi⟩, rfl⟩
        · rintro ⟨q, ⟨r, hr, hlink, hin, hq, hact, hqi⟩, rfl⟩
          refine ⟨q, ⟨hq, ⟨_, mem_effectiveRoleIds.mpr ⟨r, ?_, hin, rfl⟩, hqi⟩, hact⟩, rfl⟩
          exact mem_linkedRoles.mpr ⟨hr, a.id, List.mem_singleton_self _, hlink⟩

lemma mem_resolveTenantPermissions {tenantId applicationId : Id} {p : String} :
    p ∈ t.resolveTenantPermissions tenantId applicationId ↔
      (⟨tenantId, applicationId, p⟩ : TenantPermissionMask) ∈ t.tenantPermissionMasks := by
  simp only [resolveTenantPermissions, Finset.mem_image, Finset.mem_filter]
  constructor
  · rintro ⟨⟨tenant, app, name⟩, ⟨hm, rfl, rfl⟩, rfl⟩
    exact hm
  · exact fun hm => ⟨_, ⟨hm, rfl, rfl⟩, rfl⟩

/-! ### Activity -/

/-- A row with this id exists and is active. -/
lemma isTenantActive_iff (h : t.Constraints) {tenantId : Id} :
    t.isTenantActive tenantId = true ↔
      ∃ row ∈ t.tenants, row.id = tenantId ∧ row.status = statusActive := by
  rw [isTenantActive]
  cases hl : lookup Tenant.id t.tenants tenantId with
  | none =>
      have hnone := lookup_eq_none_iff.mp hl
      simp only [Bool.false_eq_true, false_iff]
      rintro ⟨row, hrow, hid, -⟩
      exact hnone row hrow hid
  | some row =>
      obtain ⟨hrow, hid⟩ := (lookup_eq_some_iff h.tenantId).mp hl
      simp only [beq_iff_eq]
      constructor
      · exact fun hs => ⟨row, hrow, hid, hs⟩
      · rintro ⟨row', hrow', hid', hs⟩
        rwa [List.inj_on_of_nodup_map h.tenantId hrow hrow' (hid.trans hid'.symm)]

lemma isApplicationActive_iff (h : t.Constraints) {applicationId : Id} :
    t.isApplicationActive applicationId = true ↔
      ∃ row ∈ t.applications, row.id = applicationId ∧ row.status = statusActive := by
  rw [isApplicationActive]
  cases hl : lookup Application.id t.applications applicationId with
  | none =>
      have hnone := lookup_eq_none_iff.mp hl
      simp only [Bool.false_eq_true, false_iff]
      rintro ⟨row, hrow, hid, -⟩
      exact hnone row hrow hid
  | some row =>
      obtain ⟨hrow, hid⟩ := (lookup_eq_some_iff h.applicationId).mp hl
      simp only [beq_iff_eq]
      constructor
      · exact fun hs => ⟨row, hrow, hid, hs⟩
      · rintro ⟨row', hrow', hid', hs⟩
        rwa [List.inj_on_of_nodup_map h.applicationId hrow hrow' (hid.trans hid'.symm)]

/-- An agent of the pair. -/
lemma getAgent_eq_some_iff (h : t.Constraints) {tenantId applicationId agentId : Id} {a : Agent} :
    t.getAgent tenantId applicationId agentId = some a ↔
      a ∈ t.agents ∧ a.id = agentId ∧ a.tenantId = tenantId ∧ a.applicationId = applicationId := by
  rw [getAgent]
  cases hl : lookup Agent.id t.agents agentId with
  | none =>
      have hnone := lookup_eq_none_iff.mp hl
      simp only [reduceCtorEq, false_iff]
      rintro ⟨ha, hid, -⟩
      exact hnone a ha hid
  | some row =>
      obtain ⟨hrow, hid⟩ := (lookup_eq_some_iff h.agentId).mp hl
      simp only
      constructor
      · intro he
        split_ifs at he with hne
        obtain rfl := Option.some.inj he
        simp only [not_or, not_not] at hne
        exact ⟨hrow, hid, hne.1, hne.2⟩
      · rintro ⟨ha, hid', ht, happ⟩
        obtain rfl := List.inj_on_of_nodup_map h.agentId hrow ha (hid.trans hid'.symm)
        rw [if_neg (by simp [ht, happ])]

lemma isAgentActive_iff (h : t.Constraints) {tenantId applicationId agentId : Id} :
    t.isAgentActive tenantId applicationId agentId = true ↔
      ∃ a ∈ t.agents, a.id = agentId ∧ a.tenantId = tenantId ∧ a.applicationId = applicationId ∧
        a.status = statusActive := by
  rw [isAgentActive]
  cases hg : t.getAgent tenantId applicationId agentId with
  | none =>
      simp only [Bool.false_eq_true, false_iff]
      rintro ⟨a, ha, hid, ht, happ, -⟩
      rw [(getAgent_eq_some_iff h).mpr ⟨ha, hid, ht, happ⟩] at hg
      cases hg
  | some a =>
      obtain ⟨ha, hid, ht, happ⟩ := (getAgent_eq_some_iff h).mp hg
      simp only [beq_iff_eq]
      constructor
      · exact fun hs => ⟨a, ha, hid, ht, happ, hs⟩
      · rintro ⟨a', ha', hid', -, -, hs⟩
        rwa [List.inj_on_of_nodup_map h.agentId ha ha' (hid.trans hid'.symm)]

end Tables

end AuthzKit
