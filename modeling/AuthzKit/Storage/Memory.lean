import AuthzKit.Rbac.Relation
import AuthzKit.Storage.Validation

/-!
`authzkit/storage/memory.py`: how the in-memory store resolves roles, beside the SQL store.

The SQL store reads the overrides of all links with one query and files them under application and
name; the in-memory store scans its roles once for each link. Both collect names into a dictionary
as the rows come.

* `memory_overrideOf_eq`: under unique keys the dictionary and the scan find the one override.
* `lookup_assignableRoles_iff`: what a name resolves to, said of the rows as a set.
* `resolution_agrees`: the two stores resolve alike, whatever the order of the rows.
-/

namespace AuthzKit

open Keyed

/-- The roles of an in-memory store; the values of a dictionary keyed by id. -/
structure InMemoryStore where
  roles : List Role
deriving DecidableEq, Repr

namespace InMemoryStore

/-- `find_assignable_roles`: role names resolved tenant-first, keyed by name. -/
def findAssignableRoles (store : InMemoryStore) (tenantId : Id) (applicationId : Option Id)
    (names : Finset String) : List Role :=
  store.roles.foldl (fun found r =>
    if r.name ∈ names ∧ r.applicationId = applicationId ∧ r.agentId = none ∧
        (r.tenantId = none ∨ r.tenantId = some tenantId) ∧
        (r.tenantId ≠ none ∨ lookup Role.name found r.name = none) then
      insertKey Role.name found r
    else found) []

/-- The tenant's role that overrides an application-wide one: the first in the scan. -/
def overrideOf (store : InMemoryStore) (tenantId : Id) (role : Role) : Option Role :=
  store.roles.find? fun o =>
    o.tenantId = some tenantId ∧ o.agentId = none ∧ o.applicationId = role.applicationId ∧
      o.name = role.name

/-- `_effective_role_ids`: a tenant role named like a linked application-wide role overrides it;
links to another tenant's role grant nothing. -/
def effectiveRoleIds (store : InMemoryStore) (tenantId : Id) (roleIds : List Id) : Finset Id :=
  roleIds.foldl (fun effective rid =>
    match lookup Role.id store.roles rid with
    | none => effective
    | some role =>
        if role.tenantId ≠ none ∧ role.tenantId ≠ some tenantId then effective
        else if role.tenantId = none ∧ role.agentId = none then
          insert ((store.overrideOf tenantId role).getD role).id effective
        else insert role.id effective) ∅

end InMemoryStore

namespace Tables

variable {t : Tables} {store : InMemoryStore} {tenantId : Id}

/-- Where one element at most has a property, a scan for it finds it. -/
lemma find?_eq_some_iff_of_unique {α : Type} {xs : List α} {p : α → Bool}
    (h : ∀ a ∈ xs, ∀ b ∈ xs, p a = true → p b = true → a = b) {x : α} :
    xs.find? p = some x ↔ x ∈ xs ∧ p x = true := by
  constructor
  · exact fun hx => ⟨List.mem_of_find?_eq_some hx, List.find?_some hx⟩
  · rintro ⟨hmem, hx⟩
    obtain ⟨y, hy⟩ := Option.isSome_iff_exists.mp (List.find?_isSome.mpr ⟨x, hmem, hx⟩)
    rw [hy, h y (List.mem_of_find?_eq_some hy) x hmem (List.find?_some hy) hx]

/-! ### Links -/

/-- Roles of one key are one row. -/
lemma UniqueRoles.eq (h : t.UniqueRoles) {r r' : Role} (hr : r ∈ t.roles) (hr' : r' ∈ t.roles)
    (htenant : r.tenantId = r'.tenantId) (happ : r.applicationId = r'.applicationId)
    (hname : r.name = r'.name) : r = r' :=
  List.inj_on_of_nodup_map h hr hr' (by rw [htenant, happ, hname])

/-- The override of a role is the same row for both stores. -/
lemma memory_overrideOf_eq (hperm : store.roles.Perm t.roles) (hunique : t.UniqueRoles) (r : Role) :
    store.overrideOf tenantId r = t.overrideOf tenantId r := by
  refine Option.ext fun o => ?_
  rw [overrideOf_eq_some_iff hunique, InMemoryStore.overrideOf, find?_eq_some_iff_of_unique]
  · simp [Override, hperm.mem_iff]
  · intro a ha b hb hpa hpb
    simp only [decide_eq_true_eq] at hpa hpb
    exact hunique.eq (hperm.mem_iff.mp ha) (hperm.mem_iff.mp hb) (hpa.1.trans hpb.1.symm)
      (hpa.2.2.1.trans hpb.2.2.1.symm) (hpa.2.2.2.trans hpb.2.2.2.symm)

/-- The role id that the in-memory store computes for one link. -/
def linkId (store : InMemoryStore) (tenantId : Id) (r : Role) : Id :=
  if r.tenantId = none ∧ r.agentId = none then ((store.overrideOf tenantId r).getD r).id else r.id

/-- The loop over the links adds one id for each role it finds. -/
lemma mem_foldl_links {ids : List Id} {i : Id} : ∀ {acc : Finset Id},
    i ∈ ids.foldl (fun effective rid =>
      match lookup Role.id store.roles rid with
      | none => effective
      | some role =>
          if role.tenantId ≠ none ∧ role.tenantId ≠ some tenantId then effective
          else if role.tenantId = none ∧ role.agentId = none then
            insert ((store.overrideOf tenantId role).getD role).id effective
          else insert role.id effective) acc ↔
      i ∈ acc ∨ ∃ rid ∈ ids, ∃ r, lookup Role.id store.roles rid = some r ∧ RoleIn tenantId r ∧
        linkId store tenantId r = i := by
  induction ids with
  | nil => simp
  | cons rid ids ih =>
      intro acc
      rw [List.foldl_cons, ih]
      have hstep : ∀ r, lookup Role.id store.roles rid = some r →
          (i ∈ (if r.tenantId ≠ none ∧ r.tenantId ≠ some tenantId then acc
            else if r.tenantId = none ∧ r.agentId = none then
              insert ((store.overrideOf tenantId r).getD r).id acc
            else insert r.id acc) ↔ i ∈ acc ∨ RoleIn tenantId r ∧ linkId store tenantId r = i) := by
        intro r _
        by_cases hin : RoleIn tenantId r
        · have hnot : ¬(r.tenantId ≠ none ∧ r.tenantId ≠ some tenantId) := by
            rintro ⟨h1, h2⟩
            exact hin.elim h1 h2
          rw [if_neg hnot, linkId]
          split_ifs <;> simp [hin, or_comm, eq_comm]
        · have hout : r.tenantId ≠ none ∧ r.tenantId ≠ some tenantId := by
            simpa [RoleIn] using hin
          simp [hout, hin]
      cases hl : lookup Role.id store.roles rid with
      | none => simp [hl]
      | some r =>
          simp only [hstep r hl, List.mem_cons, exists_eq_or_imp, hl, Option.some.injEq,
            exists_eq_left', or_assoc]

/-- The roles of the links, one by one. -/
lemma mem_memory_effectiveRoleIds {ids : List Id} {i : Id} :
    i ∈ store.effectiveRoleIds tenantId ids ↔
      ∃ rid ∈ ids, ∃ r, lookup Role.id store.roles rid = some r ∧ RoleIn tenantId r ∧
        linkId store tenantId r = i := by
  rw [InMemoryStore.effectiveRoleIds, mem_foldl_links]
  simp

/-- Both stores count the same roles for a set of links. -/
theorem effectiveRoleIds_eq (hperm : store.roles.Perm t.roles)
    (hid : (t.roles.map Role.id).Nodup) (hunique : t.UniqueRoles) {linked : List Role}
    {ids : List Id} (hlinked : ∀ r, r ∈ linked ↔ r ∈ t.roles ∧ r.id ∈ ids) :
    t.effectiveRoleIds tenantId linked = store.effectiveRoleIds tenantId ids := by
  ext i
  have hlookup : ∀ rid r, lookup Role.id store.roles rid = some r ↔ r ∈ t.roles ∧ r.id = rid :=
    fun rid r => by
      rw [lookup_eq_some_iff ((hperm.map Role.id).nodup_iff.mpr hid), hperm.mem_iff]
  have hlink : ∀ r, linkId store tenantId r = t.effectiveRoleId tenantId r := by
    intro r
    rw [linkId, effectiveRoleId, memory_overrideOf_eq hperm hunique]
    cases t.overrideOf tenantId r <;> rfl
  rw [mem_effectiveRoleIds, mem_memory_effectiveRoleIds]
  simp only [hlookup, hlink, hlinked]
  constructor
  · rintro ⟨r, ⟨hr, hmem⟩, hin, hi⟩
    exact ⟨r.id, hmem, r, ⟨hr, rfl⟩, hin, hi⟩
  · rintro ⟨rid, hmem, r, ⟨hr, rfl⟩, hin, hi⟩
    exact ⟨r, ⟨hr, hmem⟩, hin, hi⟩

/-! ### Names -/

/-- A name resolves to the role `r` of a pair: the tenant's, or else the application-wide one. -/
def ResolvesName (t : Tables) (tenantId : Id) (applicationId : Option Id) (n : String) (r : Role) :
    Prop :=
  r ∈ t.roles ∧ r.applicationId = applicationId ∧ r.agentId = none ∧ r.name = n ∧
    (r.tenantId = some tenantId ∨
      r.tenantId = none ∧ ∀ o ∈ t.roles, o.applicationId = applicationId → o.agentId = none →
        o.name = n → o.tenantId ≠ some tenantId)

/-- What a name resolves to, said of the rows as a set. -/
theorem lookup_assignableRoles_iff (hunique : t.UniqueRoles) {applicationId : Option Id}
    {names : Finset String} {n : String} (hn : n ∈ names) {r : Role} :
    lookup Role.name (t.assignableRoles (some tenantId) applicationId names) n = some r ↔
      t.ResolvesName tenantId applicationId n r := by
  have hwide : ∀ x, t.roleByName applicationId none n = some x ↔
      x ∈ t.roles ∧ x.applicationId = applicationId ∧ x.agentId = none ∧ x.name = n ∧
        x.tenantId = none := by
    intro x
    rw [roleByName, lookup, find?_eq_some_iff_of_unique]
    · simp only [namedRoles, List.mem_filter, decide_eq_true_eq]
      constructor
      · rintro ⟨⟨hx, ha, ht, hg⟩, hname⟩
        exact ⟨hx, ha, hg, hname, ht⟩
      · rintro ⟨hx, ha, hg, hname, ht⟩
        exact ⟨⟨hx, ha, ht, hg⟩, hname⟩
    · intro a ha b hb hna hnb
      simp only [namedRoles, List.mem_filter, decide_eq_true_eq] at ha hb hna hnb
      exact hunique.eq ha.1 hb.1 (ha.2.2.1.trans hb.2.2.1.symm) (ha.2.1.trans hb.2.1.symm)
        (hna.trans hnb.symm)
  have hown : ∀ x, x ∈ (t.roles.filter fun r => r.applicationId = applicationId ∧
      r.agentId = none ∧ r.tenantId = some tenantId ∧ r.tenantId ≠ none ∧ r.name = n) ↔
        x ∈ t.roles ∧ x.applicationId = applicationId ∧ x.agentId = none ∧ x.name = n ∧
          x.tenantId = some tenantId := by
    intro x
    simp only [List.mem_filter, decide_eq_true_eq]
    constructor
    · rintro ⟨hx, ha, hg, ht, -, hname⟩
      exact ⟨hx, ha, hg, hname, ht⟩
    · rintro ⟨hx, ha, hg, hname, ht⟩
      exact ⟨hx, ha, hg, ht, by simp [ht], hname⟩
  rw [lookup_assignableRoles hn]
  cases hlast : (t.roles.filter fun r => r.applicationId = applicationId ∧ r.agentId = none ∧
      r.tenantId = some tenantId ∧ r.tenantId ≠ none ∧ r.name = n).getLast? with
  | none =>
      rw [List.getLast?_eq_none_iff] at hlast
      have hno : ∀ o ∈ t.roles, o.applicationId = applicationId → o.agentId = none → o.name = n →
          o.tenantId ≠ some tenantId := by
        intro o ho ha hg hname ht
        have hmem := (hown o).mpr ⟨ho, ha, hg, hname, ht⟩
        rw [hlast] at hmem
        cases hmem
      rw [Option.none_or, hwide]
      constructor
      · rintro ⟨hr, ha, hg, hname, ht⟩
        exact ⟨hr, ha, hg, hname, Or.inr ⟨ht, hno⟩⟩
      · rintro ⟨hr, ha, hg, hname, ht | ⟨ht, -⟩⟩
        · exact absurd ht (hno r hr ha hg hname)
        · exact ⟨hr, ha, hg, hname, ht⟩
  | some x =>
      obtain ⟨hx, hxa, hxg, hxn, hxt⟩ := (hown x).mp (List.mem_of_getLast? hlast)
      rw [Option.some_or, Option.some.injEq]
      constructor
      · rintro rfl
        exact ⟨hx, hxa, hxg, hxn, Or.inl hxt⟩
      · rintro ⟨hr, ha, hg, hname, ht | ⟨-, hno⟩⟩
        · exact hunique.eq hx hr (hxt.trans ht.symm) (hxa.trans ha.symm) (hxn.trans hname.symm)
        · exact absurd hxt (hno x hx hxa hxg hxn)

/-- The in-memory scan filters and collects in one pass. -/
lemma findAssignableRoles_eq (store : InMemoryStore) (t : Tables) (tenantId : Id)
    (applicationId : Option Id) (names : Finset String) :
    store.findAssignableRoles tenantId applicationId names =
      { t with roles := store.roles }.assignableRoles (some tenantId) applicationId names := by
  rw [InMemoryStore.findAssignableRoles, assignableRoles, List.foldl_filter]
  congr 1
  funext found r
  by_cases hmatch : r.applicationId = applicationId ∧ r.name ∈ names ∧ r.agentId = none ∧
      (r.tenantId = some tenantId ∨ r.tenantId = none)
  · have hmatch' : r.name ∈ names ∧ r.applicationId = applicationId ∧ r.agentId = none ∧
        (r.tenantId = none ∨ r.tenantId = some tenantId) :=
      ⟨hmatch.2.1, hmatch.1, hmatch.2.2.1, hmatch.2.2.2.symm⟩
    simp [hmatch, hmatch']
  · have hmatch' : ¬(r.name ∈ names ∧ r.applicationId = applicationId ∧ r.agentId = none ∧
        (r.tenantId = none ∨ r.tenantId = some tenantId) ∧
          (r.tenantId ≠ none ∨ lookup Role.name found r.name = none)) := fun h =>
      hmatch ⟨h.2.1, h.1, h.2.2.1, h.2.2.2.1.symm⟩
    rw [if_neg hmatch', if_neg (by simpa using hmatch)]

/-- **Both stores resolve roles alike**, whatever the order of their rows: links count the same
roles, and names resolve to the tenant's role, or else to the application-wide one. -/
theorem resolution_agrees (t : Tables) (store : InMemoryStore)
    (hperm : store.roles.Perm t.roles) (hid : (t.roles.map Role.id).Nodup)
    (hunique : t.UniqueRoles) (tenantId : Id) (applicationId : Option Id) (names : Finset String)
    (linked : List Role) (ids : List Id)
    (hlinked : ∀ r, r ∈ linked ↔ r ∈ t.roles ∧ r.id ∈ ids) :
    t.effectiveRoleIds tenantId linked = store.effectiveRoleIds tenantId ids ∧
    (∀ n, lookup Role.name (t.assignableRoles (some tenantId) applicationId names) n =
      lookup Role.name (store.findAssignableRoles tenantId applicationId names) n) ∧
    (∀ n ∈ names, ∀ r,
      lookup Role.name (t.assignableRoles (some tenantId) applicationId names) n = some r ↔
        t.ResolvesName tenantId applicationId n r) ∧
    ∀ n ∉ names,
      lookup Role.name (t.assignableRoles (some tenantId) applicationId names) n = none := by
  have hout : ∀ (u : Tables) (n : String), n ∉ names →
      lookup Role.name (u.assignableRoles (some tenantId) applicationId names) n = none := by
    intro u n hn
    refine lookup_eq_none_iff.mpr fun r hr hname => ?_
    exact hn (hname ▸ (of_mem_assignableRoles hr).2.2.1)
  refine ⟨effectiveRoleIds_eq hperm hid hunique hlinked, fun n => ?_,
    fun n hn r => lookup_assignableRoles_iff hunique hn, hout t⟩
  rw [findAssignableRoles_eq store t]
  by_cases hn : n ∈ names
  · have hunique' : { t with roles := store.roles }.UniqueRoles :=
      (hperm.map _).nodup_iff.mpr hunique
    refine Option.ext fun r => ?_
    rw [lookup_assignableRoles_iff hunique hn, lookup_assignableRoles_iff hunique' hn]
    simp only [ResolvesName, hperm.mem_iff]
  · rw [hout t n hn, hout _ n hn]

/-- A default, the overrides of two tenants and the internal role of an agent. -/
def viewers : List Role :=
  [⟨"1", none, some "crm", "viewer", .application, none, false, none⟩,
    ⟨"2", some "acme", some "crm", "viewer", .tenant, none, false, none⟩,
    ⟨"3", some "globex", some "crm", "viewer", .tenant, none, false, none⟩,
    ⟨"4", some "acme", some "crm", "agent:bot", .agent, none, true, some "bot"⟩]

/-- Links to all of them and to a role that is gone, in the opposite order of rows. -/
theorem resolution_agrees_viewers :
    let t : Tables := { (SqlAlchemyStore.empty ⟨true⟩).tables with roles := viewers }
    let store : InMemoryStore := ⟨viewers.reverse⟩
    t.effectiveRoleIds "acme" viewers = store.effectiveRoleIds "acme" ["5", "4", "3", "2", "1"] ∧
    (∀ n, lookup Role.name (t.assignableRoles (some "acme") (some "crm") {"viewer"}) n =
      lookup Role.name (store.findAssignableRoles "acme" (some "crm") {"viewer"}) n) ∧
    (∀ n ∈ ({"viewer"} : Finset String), ∀ r,
      lookup Role.name (t.assignableRoles (some "acme") (some "crm") {"viewer"}) n = some r ↔
        t.ResolvesName "acme" (some "crm") n r) ∧
    ∀ n ∉ ({"viewer"} : Finset String),
      lookup Role.name (t.assignableRoles (some "acme") (some "crm") {"viewer"}) n = none :=
  resolution_agrees { (SqlAlchemyStore.empty ⟨true⟩).tables with roles := viewers }
    ⟨viewers.reverse⟩ (List.reverse_perm _) (by decide) (by decide) "acme" (some "crm") {"viewer"}
    viewers ["5", "4", "3", "2", "1"] fun r => by
      refine ⟨fun hr => ⟨hr, ?_⟩, fun hr => hr.1⟩
      simp only [viewers, List.mem_cons, List.not_mem_nil, or_false] at hr
      rcases hr with rfl | rfl | rfl | rfl <;> decide

end Tables

end AuthzKit
