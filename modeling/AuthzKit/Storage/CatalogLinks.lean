import AuthzKit.Storage.CatalogRoles

/-!
The links a catalog leaves.

The last loop of the call replaces the links of each entry's role from the links
that were read before the first write. Two entries of one name therefore insert one
row twice, or leave the union of what they want.

* `CatalogInput.mem_links_iff`: the links of a written role afterwards.
* `CatalogInput.constraints_iff`: the database accepts the call exactly if no link is
  inserted twice.
* `CatalogInput.again_iff`: the same call again changes nothing exactly if every entry
  wants what its role carries.
-/

namespace AuthzKit

open Keyed Links

namespace Tables

variable {t t' : Tables} {uuid4 : UuidSource} {slug name : String}
  {permissions : List CatalogPermission} {defaultRoles : List CatalogRole}
  {managedBy : Option String} {appId : Id}

/-! ### What a role carries -/

/-- The names of the permissions a role carries. -/
def carried (t : Tables) (roleId : Id) : Finset String :=
  ((t.permissions.filter fun q => (roleId, q.id) ∈ t.rolePermissions).map Permission.name).toFinset

/-- The role carries exactly the permissions of the application with these names. -/
def CarriesNames (t : Tables) (appId roleId : Id) (names : List String) : Prop :=
  ∀ i, (roleId, i) ∈ t.rolePermissions ↔
    ∃ q ∈ t.permissions, q.applicationId = some appId ∧ q.id = i ∧ q.name ∈ names

/-! ### The links -/

/-- The role a catalog writes for a name. -/
def writtenRole (t : Tables) (uuid4 : UuidSource) (appId : Id) (defaultRoles : List CatalogRole)
    (n : String) : Option Role :=
  lookup Role.name ((t.catalogRoles uuid4 appId defaultRoles).found ++
    (t.catalogRoles uuid4 appId defaultRoles).added) n

/-- The permission ids an entry wants. -/
def wantedIds (t : Tables) (uuid4 : UuidSource) (appId : Id)
    (permissions : List CatalogPermission) (names : List String) : Finset Id :=
  permissionIds (names.filterMap (lookup Permission.name
    (t.catalogExisting appId ++ t.catalogNew uuid4 appId permissions)))

namespace CatalogInput

/-- Every listed name has a role. -/
lemma exists_writtenRole (h : CatalogInput t uuid4 permissions defaultRoles) (appId : Id)
    {e : CatalogRole} (he : e ∈ defaultRoles) :
    ∃ role, t.writtenRole uuid4 appId defaultRoles e.name = some role := by
  obtain ⟨r, hr, hname⟩ := List.mem_map.mp ((h.rolesDone appId).listed e he)
  exact ⟨r, (lookup_eq_some_iff (h.rolesDone appId).names).mpr ⟨hr, hname⟩⟩

/-- A written role is one that was found or has an id that no row has. -/
lemma writtenRole_cases (h : CatalogInput t uuid4 permissions defaultRoles) {n : String}
    {role : Role} (hrole : t.writtenRole uuid4 appId defaultRoles n = some role) :
    (∃ r, lookup Role.name (t.catalogFound appId) n = some r ∧ r.id = role.id) ∨
      (lookup Role.name (t.catalogFound appId) n = none ∧ t.Unused role.id) := by
  have hname : role.name = n := key_of_lookup hrole
  rcases List.mem_append.mp (mem_of_lookup hrole) with hr | hr
  · obtain ⟨r, hfound, rfl⟩ := h.of_mem_found hr
    refine Or.inl ⟨r, (lookup_eq_some_iff (nodup_ofList _)).mpr ⟨hfound, ?_⟩,
      (id_described _ r).symm⟩
    rwa [name_described] at hname
  · refine Or.inr ⟨lookup_eq_none_iff.mpr fun r hr' hrn => ?_, h.added_fresh hr⟩
    have hnames := (h.rolesDone appId).names
    rw [List.map_append] at hnames
    refine List.disjoint_of_nodup_append hnames ?_ (List.mem_map_of_mem hr)
    rw [(h.rolesDone appId).found, List.map_map]
    refine List.mem_map.mpr ⟨r, hr', ?_⟩
    rw [Function.comp_apply, name_described, hrn, hname]

/-- Entries of one name have one role, and only they. -/
lemma writtenRole_id_iff (h : CatalogInput t uuid4 permissions defaultRoles) {n n' : String}
    {role role' : Role} (hrole : t.writtenRole uuid4 appId defaultRoles n = some role)
    (hrole' : t.writtenRole uuid4 appId defaultRoles n' = some role') :
    role.id = role'.id ↔ n = n' := by
  have hname : role.name = n := key_of_lookup hrole
  have hname' : role'.name = n' := key_of_lookup hrole'
  constructor
  · intro hid
    rw [← hname, ← hname']
    exact h.name_eq_of_id (mem_of_lookup hrole) (mem_of_lookup hrole') hid
  · rintro rfl
    rw [Option.some.inj (hrole.symm.trans hrole')]

/-- The changes of the last loop: for each entry its role's wanted links, against the
links the role has. -/
lemma catalogChanges_eq (h : CatalogInput t uuid4 permissions defaultRoles) (appId : Id) :
    t.catalogChanges uuid4 appId permissions defaultRoles =
      defaultRoles.filterMap fun e =>
        (t.writtenRole uuid4 appId defaultRoles e.name).map fun role =>
          ⟨role.id, t.wantedIds uuid4 appId permissions e.permissions,
            others t.rolePermissions role.id⟩ := by
  rw [catalogChanges]
  refine List.filterMap_congr fun e _ => ?_
  rw [writtenRole, wantedIds]
  cases hl : lookup Role.name ((t.catalogRoles uuid4 appId defaultRoles).found ++
      (t.catalogRoles uuid4 appId defaultRoles).added) e.name with
  | none => rfl
  | some role =>
      rw [Option.map_some, Option.map_some]
      congr 2
      split
      · rfl
      · rename_i hnot
        rcases h.writtenRole_cases hl with ⟨r, hr, hid⟩ | ⟨-, hunused⟩
        · exact absurd (hid ▸ List.mem_map_of_mem (mem_of_lookup hr)) hnot
        · refine (Finset.eq_empty_of_forall_notMem fun i hi => ?_).symm
          exact (hunused.rolePermissions _ (mem_others.mp hi)).1 rfl

lemma catalogChanges_current (h : CatalogInput t uuid4 permissions defaultRoles) (appId : Id) :
    ∀ c ∈ t.catalogChanges uuid4 appId permissions defaultRoles,
      c.current = others t.rolePermissions c.owner := by
  intro c hc
  rw [h.catalogChanges_eq] at hc
  obtain ⟨e, -, hc⟩ := List.mem_filterMap.mp hc
  obtain ⟨role, -, rfl⟩ := Option.map_eq_some_iff.mp hc
  rfl

/-- A wanted id is that of a permission with a listed name. -/
lemma mem_wantedIds (h : CatalogInput t uuid4 permissions defaultRoles) {names : List String}
    {i : Id} : i ∈ t.wantedIds uuid4 appId permissions names ↔
      ∃ q ∈ t.catalogPermissions uuid4 permissions appId, q.applicationId = some appId ∧
        q.id = i ∧ q.name ∈ names := h.mem_wanted_iff

/-- Whether the role of a name had a permission, in terms of names. -/
lemma link_iff (h : CatalogInput t uuid4 permissions defaultRoles) {n : String} {role : Role}
    (hrole : t.writtenRole uuid4 appId defaultRoles n = some role) {q : Permission}
    (hq : q ∈ t.catalogPermissions uuid4 permissions appId)
    (happ : q.applicationId = some appId) :
    (role.id, q.id) ∈ t.rolePermissions ↔
      ∃ r, lookup Role.name (t.catalogFound appId) n = some r ∧ q.name ∈ t.carried r.id := by
  obtain ⟨e, he, hident⟩ := h.ident_iff.mp ⟨q, hq, happ, rfl⟩
  simp only [Permission.ident, Prod.mk.injEq] at hident
  constructor
  · intro hlink
    rcases h.writtenRole_cases hrole with ⟨r, hr, hid⟩ | ⟨-, hunused⟩
    · refine ⟨r, hr, ?_⟩
      obtain ⟨r', hr', q', hq', hrid, hqid, -⟩ := h.wellFormed.permissionLinks _ hlink
      have hold : e ∈ t.permissions := by
        rcases List.mem_append.mp he with he | he
        · exact (of_mem_catalogExisting he).1
        · obtain ⟨-, k, hk, hek, -⟩ := of_mem_catalogNew he
          have hunused := h.fresh.unused (.permission k) (hk.le.trans (le_max_left _ _))
          exact absurd (hqid.trans (hident.1.symm.trans hek)) (hunused.permissions q' hq').1
      refine List.mem_toFinset.mpr (List.mem_map.mpr ⟨e, List.mem_filter.mpr ⟨hold, ?_⟩,
        hident.2.2.1⟩)
      rw [decide_eq_true_eq, hid, hident.1]
      exact hlink
    · exact absurd rfl (hunused.rolePermissions _ hlink).1
  · rintro ⟨r, hr, hcarried⟩
    obtain ⟨q', hfilter, hname⟩ := List.mem_map.mp (List.mem_toFinset.mp hcarried)
    obtain ⟨hq', hlink⟩ := List.mem_filter.mp hfilter
    rw [decide_eq_true_eq] at hlink
    obtain ⟨hrmem, hdef⟩ := of_mem_catalogFound (mem_of_lookup hr)
    obtain ⟨r', hr', q'', hq'', hrid, hqid, hmay⟩ := h.wellFormed.permissionLinks _ hlink
    obtain rfl : r' = r := List.inj_on_of_nodup_map h.constraints.roleId hr' hrmem hrid
    obtain rfl : q'' = q' := List.inj_on_of_nodup_map h.constraints.permissionId hq'' hq' hqid
    have hexisting : q'' ∈ t.catalogExisting appId :=
      (mem_catalogExisting h.constraints).mpr ⟨hq', hmay.symm.trans hdef.1⟩
    have hsame : q'' = e := List.inj_on_of_nodup_map (h.nodup_rows_names appId)
      (List.mem_append_left _ hexisting) he (hname.trans hident.2.2.1.symm)
    rcases h.writtenRole_cases hrole with ⟨r₀, hr₀, hid⟩ | ⟨hnone, -⟩
    · obtain rfl := Option.some.inj (hr.symm.trans hr₀)
      rw [← hid, ← hident.1, ← hsame]
      exact hlink
    · rw [hnone] at hr
      cases hr

/-- **No link is inserted twice** exactly if entries of one name share only permissions
that the role had. -/
theorem nodup_links_iff (h : CatalogInput t uuid4 permissions defaultRoles) (appId : Id) :
    (replaceAll t.rolePermissions
        (t.catalogChanges uuid4 appId permissions defaultRoles)).Nodup ↔
      defaultRoles.Pairwise fun e e' => e.name = e'.name → ∀ n ∈ e.permissions,
        n ∈ e'.permissions → ∃ r, lookup Role.name (t.catalogFound appId) e.name = some r ∧
          n ∈ t.carried r.id := by
  rw [nodup_replaceAll_iff h.constraints.rolePermissions (h.catalogChanges_current appId),
    h.catalogChanges_eq, List.pairwise_filterMap]
  refine List.Pairwise.iff_of_mem fun {e e'} he he' => ?_
  obtain ⟨role, hrole⟩ := h.exists_writtenRole appId he
  obtain ⟨role', hrole'⟩ := h.exists_writtenRole appId he'
  constructor
  · intro hpair hname n hn hn'
    obtain ⟨q, hq, happ, rfl, -⟩ := (h.active_iff appId).mpr (h.listed e he n hn)
    rw [hrole, hrole', Option.map_some, Option.map_some] at hpair
    rw [← h.link_iff hrole hq happ, ← mem_others]
    have hwanted := h.mem_wantedIds.mpr ⟨q, hq, happ, rfl, hn⟩
    have hwanted' := h.mem_wantedIds.mpr ⟨q, hq, happ, rfl, hn'⟩
    exact hpair _ rfl _ rfl ((h.writtenRole_id_iff hrole hrole').mpr hname)
      (Finset.mem_inter.mpr ⟨hwanted, hwanted'⟩)
  · intro hpair c hc d hd howner i hi
    rw [hrole, Option.map_some, Option.some.injEq] at hc
    rw [hrole', Option.map_some, Option.some.injEq] at hd
    subst hc hd
    obtain ⟨hi, hi'⟩ := Finset.mem_inter.mp hi
    obtain ⟨q, hq, happ, rfl, hn⟩ := h.mem_wantedIds.mp hi
    obtain ⟨q', hq', -, hid, hn'⟩ := h.mem_wantedIds.mp hi'
    obtain rfl : q' = q := List.inj_on_of_nodup_map (h.nodup_permissions_id appId) hq' hq hid
    rw [mem_others, h.link_iff hrole hq happ]
    exact hpair ((h.writtenRole_id_iff hrole hrole').mp howner) _ hn hn'

/-- The links of a written role afterwards. -/
lemma mem_links_iff (h : CatalogInput t uuid4 permissions defaultRoles) {n : String} {role : Role}
    (hrole : t.writtenRole uuid4 appId defaultRoles n = some role) {i : Id} :
    (role.id, i) ∈ replaceAll t.rolePermissions
        (t.catalogChanges uuid4 appId permissions defaultRoles) ↔
      ((role.id, i) ∈ t.rolePermissions ∧ ∀ e ∈ defaultRoles, e.name = n →
        i ∈ t.wantedIds uuid4 appId permissions e.permissions) ∨
      ((role.id, i) ∉ t.rolePermissions ∧ ∃ e ∈ defaultRoles, e.name = n ∧
        i ∈ t.wantedIds uuid4 appId permissions e.permissions) := by
  have hchange : ∀ {p : Finset Id → Prop}, (∃ c ∈ t.catalogChanges uuid4 appId permissions
      defaultRoles, c.owner = role.id ∧ p c.ids) ↔ ∃ e ∈ defaultRoles, e.name = n ∧
        p (t.wantedIds uuid4 appId permissions e.permissions) := by
    intro p
    rw [h.catalogChanges_eq]
    constructor
    · rintro ⟨c, hc, howner, hp⟩
      obtain ⟨e, he, hc⟩ := List.mem_filterMap.mp hc
      obtain ⟨role', hrole', rfl⟩ := Option.map_eq_some_iff.mp hc
      exact ⟨e, he, (h.writtenRole_id_iff hrole' hrole).mp howner, hp⟩
    · rintro ⟨e, he, rfl, hp⟩
      exact ⟨_, List.mem_filterMap.mpr ⟨e, he, by rw [hrole]; rfl⟩, rfl, hp⟩
  have hall : (∀ c ∈ t.catalogChanges uuid4 appId permissions defaultRoles, c.owner = role.id →
      i ∈ c.ids) ↔ ∀ e ∈ defaultRoles, e.name = n →
        i ∈ t.wantedIds uuid4 appId permissions e.permissions := by
    have hnot := not_congr (hchange (p := fun ids => i ∉ ids))
    push Not at hnot
    exact hnot
  rw [mem_replaceAll_iff (h.catalogChanges_current appId), hall, hchange (p := fun ids => i ∈ ids)]

/-- A role that no entry names keeps its links. -/
lemma mem_links_of_unlisted (h : CatalogInput t uuid4 permissions defaultRoles) {o : Id}
    (ho : ∀ e ∈ defaultRoles, ∀ role, t.writtenRole uuid4 appId defaultRoles e.name = some role →
      role.id ≠ o) (i : Id) :
    (o, i) ∈ replaceAll t.rolePermissions
        (t.catalogChanges uuid4 appId permissions defaultRoles) ↔
      (o, i) ∈ t.rolePermissions := by
  refine mem_replaceAll_of_forall_ne fun c hc => ?_
  rw [h.catalogChanges_eq] at hc
  obtain ⟨e, he, hc⟩ := List.mem_filterMap.mp hc
  obtain ⟨role, hrole, rfl⟩ := Option.map_eq_some_iff.mp hc
  exact (ho e he role hrole).symm

/-- Entries of one name that list the same permissions: the role ends with these. -/
lemma carries_of_same (h : CatalogInput t uuid4 permissions defaultRoles)
    (hlinks : t'.rolePermissions = replaceAll t.rolePermissions
      (t.catalogChanges uuid4 appId permissions defaultRoles))
    (hpermissions : t'.permissions = t.catalogPermissions uuid4 permissions appId)
    {e : CatalogRole} (he : e ∈ defaultRoles)
    (hsame : ∀ e' ∈ defaultRoles, e'.name = e.name →
      e'.permissions.toFinset = e.permissions.toFinset)
    {role : Role} (hrole : t.writtenRole uuid4 appId defaultRoles e.name = some role) :
    t'.CarriesNames appId role.id e.permissions := by
  intro i
  have hids : ∀ e' ∈ defaultRoles, e'.name = e.name →
      (i ∈ t.wantedIds uuid4 appId permissions e'.permissions ↔
        i ∈ t.wantedIds uuid4 appId permissions e.permissions) := fun e' he' hname => by
    have hmem : ∀ n, n ∈ e'.permissions ↔ n ∈ e.permissions := fun n => by
      rw [← List.mem_toFinset, hsame e' he' hname, List.mem_toFinset]
    simp only [h.mem_wantedIds, hmem]
  rw [hlinks, hpermissions, h.mem_links_iff hrole, ← h.mem_wantedIds]
  constructor
  · rintro (⟨-, hall⟩ | ⟨-, e', he', hname, hi⟩)
    · exact hall e he rfl
    · exact (hids e' he' hname).mp hi
  · intro hi
    by_cases hlink : (role.id, i) ∈ t.rolePermissions
    · exact Or.inl ⟨hlink, fun e' he' hname => (hids e' he' hname).mpr hi⟩
    · exact Or.inr ⟨hlink, e, he, rfl, hi⟩

/-! ### The constraints -/

/-- The applications afterwards have distinct ids and slugs. -/
lemma nodup_applications (h : CatalogInput t uuid4 permissions defaultRoles) (slug name : String)
    (managedBy : Option String) :
    ((t.catalogApplication uuid4 slug name managedBy).1.map Application.id).Nodup ∧
      ((t.catalogApplication uuid4 slug name managedBy).1.map Application.slug).Nodup := by
  rcases catalogApplication_cases t uuid4 slug name managedBy with
    ⟨app, happ, -, heq⟩ | ⟨hslug, heq⟩
  · rw [heq]
    refine ⟨?_, ?_⟩
    · rw [map_update Application.id fun r _ hid => hid]
      exact h.constraints.applicationId
    rw [map_update Application.slug fun r hr hid => ?_]
    · exact h.constraints.applicationSlug
    · rw [List.inj_on_of_nodup_map h.constraints.applicationId hr happ hid]
  · rw [heq, List.map_append, List.map_append]
    refine ⟨List.Nodup.append h.constraints.applicationId (List.nodup_singleton _) ?_,
      List.Nodup.append h.constraints.applicationSlug (List.nodup_singleton _) ?_⟩
    · intro i hi hi'
      obtain ⟨r, hr, rfl⟩ := List.mem_map.mp hi
      exact (h.fresh.unused .application (Nat.zero_le _)).applications r hr (by simpa using hi')
    · intro n hn hn'
      obtain ⟨r, hr, rfl⟩ := List.mem_map.mp hn
      exact hslug r hr (by simpa using hn')

/-- The columns of the permissions afterwards are the parts of their names. -/
lemma parsed_after (h : CatalogInput t uuid4 permissions defaultRoles) (appId : Id) :
    Parsed { t with permissions := t.catalogPermissions uuid4 permissions appId } := by
  intro q hq
  rcases List.mem_append.mp hq with hq | hq
  · have hident := List.mem_map_of_mem (f := Permission.ident) hq
    rw [h.map_ident_permissions] at hident
    obtain ⟨e, he, heq⟩ := List.mem_map.mp hident
    simp only [Permission.ident, Prod.mk.injEq] at heq
    rw [← heq.2.2.1, ← heq.2.2.2.1, ← heq.2.2.2.2]
    exact h.parsed e he
  · exact parsed_of_mem_catalogNew h.names hq

/-- **The database accepts a catalog** exactly if no link is inserted twice. -/
theorem constraints_iff (h : CatalogInput t uuid4 permissions defaultRoles) :
    (t.catalogTables uuid4 slug name permissions defaultRoles managedBy).Constraints ↔
      (replaceAll t.rolePermissions (t.catalogChanges uuid4
        (t.catalogId uuid4 slug name managedBy) permissions defaultRoles)).Nodup := by
  constructor
  · exact fun hc => hc.rolePermissions
  · intro hlinks
    obtain ⟨happId, happSlug⟩ := h.nodup_applications slug name managedBy
    have hpermission := h.unique_permissions_name (t.catalogId uuid4 slug name managedBy)
    exact
      { tenantId := h.constraints.tenantId
        tenantSlug := h.constraints.tenantSlug
        applicationId := happId
        applicationSlug := happSlug
        userId := h.constraints.userId
        identityId := h.constraints.identityId
        identityRef := h.constraints.identityRef
        membershipId := h.constraints.membershipId
        membershipKey := h.constraints.membershipKey
        roleId := h.nodup_roles_id _
        roleKey := h.unique_roles_key _
        membershipRoles := h.constraints.membershipRoles
        permissionId := h.nodup_permissions_id _
        permissionName := hpermission
        permissionAction := (h.parsed_after _).unique_action hpermission
        rolePermissions := hlinks
        agentId := h.constraints.agentId
        agentKey := h.constraints.agentKey
        agentRoles := h.constraints.agentRoles
        grantId := h.constraints.grantId }

/-- What a catalog without issues may change. -/
lemma effect (h : CatalogInput t uuid4 permissions defaultRoles) (slug name : String)
    (managedBy : Option String) :
    CatalogEffect t (t.catalogTables uuid4 slug name permissions defaultRoles managedBy) uuid4
      (t.catalogId uuid4 slug name managedBy) := by
  have hok : t.applyApplicationCatalog uuid4 slug name permissions defaultRoles managedBy =
      .ok (_, _) :=
    applyApplicationCatalog_eq (catalogIssues_eq_nil_iff.mpr ⟨h.names, h.listed⟩)
  exact applyApplicationCatalog_effect h.constraints h.fresh hok

/-- The ids of the applications only grow. -/
lemma applications_subset (t : Tables) (uuid4 : UuidSource) (slug name : String)
    (managedBy : Option String) :
    t.applications.map Application.id ⊆
        (t.catalogApplication uuid4 slug name managedBy).1.map Application.id ∧
      (t.catalogApplication uuid4 slug name managedBy).2 ∈
        (t.catalogApplication uuid4 slug name managedBy).1.map Application.id := by
  rcases catalogApplication_cases t uuid4 slug name managedBy with
    ⟨app, happ, -, heq⟩ | ⟨-, heq⟩
  · rw [heq, map_update Application.id fun r _ hid => hid]
    exact ⟨List.Subset.refl _, List.mem_map_of_mem happ⟩
  · rw [heq, List.map_append]
    exact ⟨List.subset_append_left _ _, List.mem_append_right _ (by simp)⟩

/-- A catalog keeps the references of the tables. -/
theorem foreignKeys_after (h : CatalogInput t uuid4 permissions defaultRoles)
    (hfk : t.ForeignKeys) :
    (t.catalogTables uuid4 slug name permissions defaultRoles managedBy).ForeignKeys := by
  obtain ⟨happs, hself⟩ := applications_subset t uuid4 slug name managedBy
  have heffect := h.effect slug name managedBy
  have hroleIds : t.roles.map Role.id ⊆ (t.catalogTables uuid4 slug name permissions defaultRoles
      managedBy).roles.map Role.id := fun i hi => by
    obtain ⟨r, hr, rfl⟩ := List.mem_map.mp hi
    obtain ⟨r', hr', hident⟩ := List.mem_map.mp (heffect.roles (List.mem_map_of_mem hr))
    exact (Prod.mk.inj hident).1 ▸ List.mem_map_of_mem hr'
  have hpermissionIds : t.permissions.map Permission.id ⊆ (t.catalogTables uuid4 slug name
      permissions defaultRoles managedBy).permissions.map Permission.id := fun i hi => by
    obtain ⟨q, hq, rfl⟩ := List.mem_map.mp hi
    obtain ⟨q', hq', hident⟩ := List.mem_map.mp (heffect.permissions (List.mem_map_of_mem hq))
    exact (Prod.mk.inj hident).1 ▸ List.mem_map_of_mem hq'
  exact
    { identities := hfk.identities
      memberships := fun m hm => by
        obtain ⟨ht, happ, hu⟩ := hfk.memberships m hm
        exact ⟨ht, refersTo_mono happs happ, hu⟩
      roles := fun r hr => by
        rcases heffect.newRoles r hr with hident | hdef
        · obtain ⟨r₀, hr₀, hident⟩ := List.mem_map.mp hident
          simp only [Role.ident, Prod.mk.injEq] at hident
          obtain ⟨ht, happ, hagent⟩ := hfk.roles r₀ hr₀
          exact ⟨hident.2.1 ▸ ht, hident.2.2.1 ▸ refersTo_mono happs happ, hident.2.2.2.2 ▸ hagent⟩
        · refine ⟨hdef.2.1 ▸ trivial, ?_, hdef.2.2 ▸ trivial⟩
          rw [hdef.1]
          exact hself
      membershipRoles := fun p hp =>
        ⟨(hfk.membershipRoles p hp).1, hroleIds (hfk.membershipRoles p hp).2⟩
      permissions := fun q hq => by
        rcases List.mem_append.mp hq with hold | hnew
        · have hident := List.mem_map_of_mem (f := Permission.ident) hold
          rw [h.map_ident_permissions] at hident
          obtain ⟨e, he, heq⟩ := List.mem_map.mp hident
          simp only [Permission.ident, Prod.mk.injEq] at heq
          exact heq.2.1 ▸ refersTo_mono happs (hfk.permissions e he)
        · rw [applicationId_of_mem_catalogNew hnew]
          exact hself
      rolePermissions := fun p hp => by
        rcases heffect.links p hp with hold | hlink
        · exact ⟨hroleIds (hfk.rolePermissions p hold).1,
            hpermissionIds (hfk.rolePermissions p hold).2⟩
        · exact linked_ids hlink
      agents := fun a ha => by
        obtain ⟨ht, happ, hu⟩ := hfk.agents a ha
        exact ⟨ht, happs happ, hu⟩
      agentRoles := fun p hp => ⟨(hfk.agentRoles p hp).1, hroleIds (hfk.agentRoles p hp).2⟩
      masks := fun m hm => ⟨(hfk.masks m hm).1, happs (hfk.masks m hm).2⟩
      grants := fun g hg => by
        obtain ⟨ht, happ, hrest⟩ := hfk.grants g hg
        exact ⟨ht, happs happ, hrest⟩ }

/-! ### The same call again -/

/-- A second call finds the application, and its name. -/
lemma application_again (_ : CatalogInput t uuid4 permissions defaultRoles)
    (hc : (t.catalogTables uuid4 slug name permissions defaultRoles managedBy).Constraints)
    (uuid4' : UuidSource) :
    (t.catalogTables uuid4 slug name permissions defaultRoles managedBy).catalogApplication uuid4'
        slug name managedBy =
      ((t.catalogTables uuid4 slug name permissions defaultRoles managedBy).applications,
        t.catalogId uuid4 slug name managedBy) := by
  have hfound : ∃ app ∈ (t.catalogApplication uuid4 slug name managedBy).1, app.slug = slug ∧
      app.name = name ∧ app.id = (t.catalogApplication uuid4 slug name managedBy).2 := by
    rcases catalogApplication_cases t uuid4 slug name managedBy with
      ⟨app, happ, hslug, heq⟩ | ⟨-, heq⟩
    · rw [heq]
      exact ⟨{ app with name }, mem_update.mpr (Or.inl ⟨rfl, app, happ, rfl⟩), hslug, rfl, rfl⟩
    · rw [heq]
      exact ⟨_, List.mem_append_right _ (List.mem_singleton_self _), rfl, rfl, rfl⟩
  obtain ⟨app, happ, hslug, rfl, hid⟩ := hfound
  have hlookup : lookup Application.slug (t.catalogTables uuid4 slug app.name permissions
      defaultRoles managedBy).applications slug = some app :=
    (lookup_eq_some_iff hc.applicationSlug).mpr ⟨happ, hslug⟩
  rw [catalogApplication, hlookup]
  exact Prod.ext (update_eq_self hc.applicationId happ) hid

/-- A second call finds every permission as it wants it. -/
lemma permissions_again (h : CatalogInput t uuid4 permissions defaultRoles)
    (hc : t'.Constraints)
    (hpermissions : t'.permissions = t.catalogPermissions uuid4 permissions appId)
    (uuid4' : UuidSource) :
    (∀ q ∈ t'.catalogWritten uuid4' appId permissions, q ∈ t'.permissions) ∧
      t'.catalogNew uuid4' appId permissions = [] ∧ t'.catalogDeprecated appId permissions = [] := by
  have hrow : ∀ p ∈ t'.catalogRows uuid4' appId permissions,
      p.2 = false ∧ p.1 ∈ t'.permissions := by
    intro p hp
    obtain ⟨⟨spec, i⟩, hspec, rfl⟩ := List.mem_map.mp hp
    have hmem : permissionRow uuid4 appId (t.catalogExisting appId) spec i ∈
        t.catalogRows uuid4 appId permissions := List.mem_map_of_mem (f := fun p =>
      permissionRow uuid4 appId (t.catalogExisting appId) p.1 p.2) hspec
    obtain ⟨hq, happ⟩ := h.mem_permissions_iff.mpr (Or.inl ⟨_, hmem, rfl⟩)
    have hname : (permissionRow uuid4 appId (t.catalogExisting appId) spec i).1.name = spec.name :=
      permissionRow_name spec i
    have hlookup : lookup Permission.name (t'.catalogExisting appId) spec.name =
        some (permissionRow uuid4 appId (t.catalogExisting appId) spec i).1 :=
      (lookup_eq_some_iff (nodup_ofList _)).mpr
        ⟨(mem_catalogExisting hc).mpr ⟨hpermissions ▸ hq, happ⟩, hname⟩
    dsimp only
    have hagain : permissionRow uuid4' appId (t'.catalogExisting appId) spec i =
        ((permissionRow uuid4 appId (t.catalogExisting appId) spec i).1, false) := by
      rw [permissionRow, hlookup]
      refine Prod.ext ?_ rfl
      rw [permissionRow]
      cases lookup Permission.name (t.catalogExisting appId) spec.name with
      | some row => rfl
      | none => rfl
    rw [hagain]
    exact ⟨rfl, hpermissions ▸ hq⟩
  refine ⟨fun q hq => (hrow _ (mem_catalogWritten.mp hq)).2, ?_, ?_⟩
  · refine List.eq_nil_iff_forall_not_mem.mpr fun q hq => ?_
    have hfalse := (hrow _ (mem_catalogNew.mp hq)).1
    cases hfalse
  · rw [catalogDeprecated, List.map_eq_nil_iff]
    refine List.filter_eq_nil_iff.mpr fun q hq hcond => ?_
    simp only [decide_eq_true_eq] at hcond
    obtain ⟨hmem, happ⟩ := (mem_catalogExisting hc).mp hq
    rcases h.mem_permissions_iff.mp ⟨hpermissions ▸ hmem, happ⟩ with
      ⟨p, hp, rfl⟩ | ⟨e, -, -, rfl⟩
    · exact hcond.1 ((mem_catalogRows_names _ _ _).mp ⟨p, hp, rfl⟩)
    · simp at hcond

/-- A second call finds every default role as it wants it. -/
lemma roles_again (h : CatalogInput t uuid4 permissions defaultRoles)
    (hroles : t'.roles = t.catalogRoleRows uuid4 defaultRoles appId) (uuid4' : UuidSource) :
    t'.catalogRoles uuid4' appId defaultRoles =
      ⟨t'.catalogFound appId, [], 0, defaultRoles.length⟩ := by
  have hnames : ((t'.catalogFound appId).map Role.name).Nodup := nodup_ofList _
  have hdescribed : (t'.catalogFound appId).map (described defaultRoles) =
      t'.catalogFound appId := by
    conv_rhs => rw [← List.map_id (t'.catalogFound appId)]
    refine List.map_congr_left fun r hr => ?_
    have hlookup := (lookup_eq_some_iff hnames).mpr ⟨hr, rfl⟩
    rw [h.lookup_catalogFound hroles] at hlookup
    rcases List.mem_append.mp (mem_of_lookup hlookup) with hfound | hadded
    · obtain ⟨r₀, -, rfl⟩ := h.of_mem_found hfound
      exact described_described defaultRoles r₀
    · exact ((h.rolesDone appId).added r hadded).2.1
  have hfound : ∀ e ∈ defaultRoles, e.name ∈ (t'.catalogFound appId).map Role.name := by
    intro e he
    obtain ⟨role, hrole⟩ := h.exists_writtenRole appId he
    rw [writtenRole, ← h.lookup_catalogFound hroles] at hrole
    have hname : role.name = e.name := key_of_lookup hrole
    exact hname ▸ List.mem_map_of_mem (mem_of_lookup hrole)
  exact (rolesFrom_of_found hnames defaultRoles hfound).trans (by rw [hdescribed])

/-- What the second call wants for a role is what the names stand for. -/
lemma wanted_eq_others_iff (hc : t'.Constraints) {roleId : Id} {names : List String} :
    permissionIds (names.filterMap (lookup Permission.name (t'.catalogExisting appId))) =
      others t'.rolePermissions roleId ↔ t'.CarriesNames appId roleId names := by
  rw [Finset.ext_iff]
  refine forall_congr' fun i => ?_
  have hids : i ∈ permissionIds (names.filterMap (lookup Permission.name
      (t'.catalogExisting appId))) ↔ ∃ q ∈ t'.permissions, q.applicationId = some appId ∧
        q.id = i ∧ q.name ∈ names := by
    rw [mem_permissionIds]
    constructor
    · rintro ⟨q, hq, rfl⟩
      obtain ⟨n, hn, hlook⟩ := List.mem_filterMap.mp hq
      obtain ⟨hq, happ⟩ := (mem_catalogExisting hc).mp (mem_of_lookup hlook)
      have hname : q.name = n := key_of_lookup hlook
      exact ⟨q, hq, happ, rfl, hname ▸ hn⟩
    · rintro ⟨q, hq, happ, rfl, hn⟩
      have hlook := (lookup_eq_some_iff (nodup_ofList _)).mpr
        ⟨(mem_catalogExisting hc).mpr ⟨hq, happ⟩, rfl⟩
      exact ⟨q, List.mem_filterMap.mpr ⟨q.name, hn, hlook⟩, rfl⟩
  rw [hids, mem_others]
  exact iff_comm

/-- The changes of the second call. -/
lemma catalogChanges_again (h : CatalogInput t uuid4 permissions defaultRoles)
    (hc : t'.Constraints)
    (hpermissions : t'.permissions = t.catalogPermissions uuid4 permissions appId)
    (hroles : t'.roles = t.catalogRoleRows uuid4 defaultRoles appId) (uuid4' : UuidSource) :
    t'.catalogChanges uuid4' appId permissions defaultRoles =
      defaultRoles.filterMap fun e => (t.writtenRole uuid4 appId defaultRoles e.name).map fun role =>
        ⟨role.id, permissionIds (e.permissions.filterMap (lookup Permission.name
          (t'.catalogExisting appId))), others t'.rolePermissions role.id⟩ := by
  rw [catalogChanges]
  refine List.filterMap_congr fun e _ => ?_
  rw [h.roles_again hroles, (h.permissions_again hc hpermissions uuid4').2.1, List.append_nil,
    List.append_nil, h.lookup_catalogFound hroles, ← writtenRole]
  cases hrole : t.writtenRole uuid4 appId defaultRoles e.name with
  | none => rfl
  | some role =>
      rw [writtenRole, ← h.lookup_catalogFound hroles] at hrole
      rw [Option.map_some, Option.map_some, if_pos (List.mem_map_of_mem (mem_of_lookup hrole))]

/-- The second call rewrites the links and nothing else. -/
lemma catalog_again (h : CatalogInput t uuid4 permissions defaultRoles) (hc : t'.Constraints)
    (ht' : t' = t.catalogTables uuid4 slug name permissions defaultRoles managedBy)
    (happId : appId = t.catalogId uuid4 slug name managedBy) (uuid4' : UuidSource) :
    t'.applyApplicationCatalog uuid4' slug name permissions defaultRoles managedBy =
      .ok ({ t' with
          rolePermissions := replaceAll t'.rolePermissions
            (t'.catalogChanges uuid4' appId permissions defaultRoles) },
        ⟨appId, 0, 0, 0, defaultRoles.length⟩) := by
  have hpermissions : t'.permissions = t.catalogPermissions uuid4 permissions appId := by
    rw [ht', happId, catalogTables]
  have hroleRows : t'.roles = t.catalogRoleRows uuid4 defaultRoles appId := by
    rw [ht', happId, catalogTables]
  obtain ⟨hwritten, hnew, hdeprecated⟩ := h.permissions_again hc hpermissions uuid4'
  have happ : t'.catalogApplication uuid4' slug name managedBy = (t'.applications, appId) := by
    subst ht' happId
    exact h.application_again hc uuid4'
  have hroles := h.roles_again hroleRows uuid4'
  have hid : t'.catalogId uuid4' slug name managedBy = appId := congrArg Prod.snd happ
  rw [applyApplicationCatalog_eq (catalogIssues_eq_nil_iff.mpr ⟨h.names, h.listed⟩),
    catalogTables, catalogResult]
  simp only [hid, happ, catalogPermissions, catalogRoleRows, hroles, hnew, hdeprecated,
    List.append_nil, List.length_nil]
  rw [updateAll_eq_self hc.permissionId hwritten,
    updateAll_eq_self hc.roleId fun r hr => (of_mem_catalogFound hr).1]

/-- **The same call again changes nothing** exactly if every entry lists what its role
carries. -/
theorem again_iff (h : CatalogInput t uuid4 permissions defaultRoles) (hc : t'.Constraints)
    (ht' : t' = t.catalogTables uuid4 slug name permissions defaultRoles managedBy)
    (happId : appId = t.catalogId uuid4 slug name managedBy) (uuid4' : UuidSource) :
    t'.applyApplicationCatalog uuid4' slug name permissions defaultRoles managedBy =
        .ok (t', ⟨appId, 0, 0, 0, defaultRoles.length⟩) ↔
      ∀ e ∈ defaultRoles, ∀ role, t.writtenRole uuid4 appId defaultRoles e.name = some role →
        t'.CarriesNames appId role.id e.permissions := by
  have hpermissions : t'.permissions = t.catalogPermissions uuid4 permissions appId := by
    rw [ht', happId, catalogTables]
  have hroles : t'.roles = t.catalogRoleRows uuid4 defaultRoles appId := by
    rw [ht', happId, catalogTables]
  have hchanges := h.catalogChanges_again hc hpermissions hroles uuid4'
  have hcurrent : ∀ c ∈ t'.catalogChanges uuid4' appId permissions defaultRoles,
      c.current = others t'.rolePermissions c.owner := by
    intro c hmem
    rw [hchanges] at hmem
    obtain ⟨e, -, hmem⟩ := List.mem_filterMap.mp hmem
    obtain ⟨role, -, rfl⟩ := Option.map_eq_some_iff.mp hmem
    rfl
  rw [h.catalog_again hc ht' happId]
  constructor
  · intro heq e he role hrole
    have hlinks : replaceAll t'.rolePermissions
        (t'.catalogChanges uuid4' appId permissions defaultRoles) = t'.rolePermissions :=
      congrArg Tables.rolePermissions (Prod.mk.inj (Except.ok.inj heq)).1
    have hmem : (⟨role.id, permissionIds (e.permissions.filterMap (lookup Permission.name
        (t'.catalogExisting appId))), others t'.rolePermissions role.id⟩ : Change Id Id) ∈
          t'.catalogChanges uuid4' appId permissions defaultRoles := by
      rw [hchanges]
      exact List.mem_filterMap.mpr ⟨e, he, by rw [hrole]; rfl⟩
    exact (wanted_eq_others_iff hc).mp (ids_eq_of_replaceAll_eq hcurrent hlinks hmem)
  · intro hall
    have hsame : ∀ c ∈ t'.catalogChanges uuid4' appId permissions defaultRoles,
        c.current = c.ids := by
      intro c hmem
      rw [hchanges] at hmem
      obtain ⟨e, he, hmem⟩ := List.mem_filterMap.mp hmem
      obtain ⟨role, hrole, rfl⟩ := Option.map_eq_some_iff.mp hmem
      exact ((wanted_eq_others_iff hc).mpr (hall e he role hrole)).symm
    rw [replaceAll_eq_self hsame]

end CatalogInput

end Tables

end AuthzKit
