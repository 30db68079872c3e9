import AuthzKit.Storage.CatalogLinks

/-!
When a catalog call is exact.

* `CatalogApplied`: what a returning call shall leave.
* `SqlAlchemyStore.Reachable.applyApplicationCatalog_exact_iff`: **a call without
  violations is exact** exactly when its catalog is `CatalogUnambiguous`.
-/

namespace AuthzKit

open Keyed Links

namespace Tables

variable {t t' : Tables} {uuid4 : UuidSource} {slug name : String}
  {permissions : List CatalogPermission} {defaultRoles : List CatalogRole}
  {managedBy : Option String} {appId : Id}

/-! ### Statements -/

/-- What a returning catalog call shall leave. -/
structure CatalogApplied (t t' : Tables) (slug name : String)
    (permissions : List CatalogPermission) (defaultRoles : List CatalogRole) (appId : Id) :
    Prop where
  application : ∃ app ∈ t'.applications, app.id = appId ∧ app.slug = slug ∧ app.name = name
  existing : ∀ app ∈ t.applications, ∃ app' ∈ t'.applications, app'.id = app.id ∧
    app'.slug = app.slug ∧ app'.status = app.status ∧ app'.managedBy = app.managedBy
  permissions : ∀ n, (∃ q ∈ t'.permissions, q.applicationId = some appId ∧ q.name = n ∧
    q.deprecated = false) ↔ n ∈ permissions.map CatalogPermission.name
  roles : ∀ spec ∈ defaultRoles, ∃ r ∈ t'.roles, DefaultRole appId r ∧ r.name = spec.name
  links : ∀ r ∈ t'.roles, DefaultRole appId r → r.name ∈ defaultRoles.map CatalogRole.name →
    ∃ spec ∈ defaultRoles, spec.name = r.name ∧ t'.CarriesNames appId r.id spec.permissions
  otherLinks : ∀ r ∈ t.roles,
    ¬(DefaultRole appId r ∧ r.name ∈ defaultRoles.map CatalogRole.name) →
      ∀ i, (r.id, i) ∈ t'.rolePermissions ↔ (r.id, i) ∈ t.rolePermissions
  otherApplications : t'.applications.filter (fun app => app.id ≠ appId) =
    t.applications.filter fun app => app.id ≠ appId
  otherPermissions : t'.permissions.filter (fun q => q.applicationId ≠ some appId) =
    t.permissions.filter fun q => q.applicationId ≠ some appId
  otherRoles : t'.roles.filter (fun r => r.applicationId ≠ some appId) =
    t.roles.filter fun r => r.applicationId ≠ some appId
  rest : t' = { t with
    applications := t'.applications
    permissions := t'.permissions
    roles := t'.roles
    rolePermissions := t'.rolePermissions }

/-- The default role of that name which a catalog finds: the last one of the query. -/
def defaultRole (t : Tables) (slug name : String) : Option Role :=
  (lookup Application.slug t.applications slug).bind fun app =>
    lookup Role.name (t.catalogFound app.id) name

/-- Nothing about a default role is said twice: entries of one name list the same
permissions, which the role has, and other default roles of that name already have
what an entry lists. -/
structure CatalogUnambiguous (t : Tables) (slug : String) (defaultRoles : List CatalogRole) :
    Prop where
  repeated : defaultRoles.Pairwise fun e e' => e.name = e'.name →
    e.permissions.toFinset = e'.permissions.toFinset ∧
      ∀ n ∈ e.permissions, ∃ r, t.defaultRole slug e.name = some r ∧ n ∈ t.carried r.id
  shadowed : ∀ app ∈ t.applications, app.slug = slug → ∀ r ∈ t.roles, DefaultRole app.id r →
    t.defaultRole slug r.name ≠ some r → r.name ∈ defaultRoles.map CatalogRole.name →
      ∃ e ∈ defaultRoles, e.name = r.name ∧ t.carried r.id = e.permissions.toFinset

namespace CatalogInput

/-! ### The roles of the store -/

/-- What a catalog finds for a name is the default role of that name. -/
lemma lookup_catalogFound_eq_defaultRole (h : CatalogInput t uuid4 permissions defaultRoles)
    (happId : appId = t.catalogId uuid4 slug name managedBy) (n : String) :
    lookup Role.name (t.catalogFound appId) n = t.defaultRole slug n := by
  rw [happId, defaultRole, catalogId, catalogApplication]
  cases hl : lookup Application.slug t.applications slug with
  | some app => rfl
  | none =>
      refine lookup_eq_none_iff.mpr fun r hr => ?_
      obtain ⟨hr, happ, -⟩ := of_mem_catalogFound hr
      exact absurd happ ((h.fresh.unused .application (Nat.zero_le _)).roles r hr).2.2.1

/-- A role of the store with the id of a written role is the default role of its name. -/
lemma defaultRole_of_writtenRole_id (h : CatalogInput t uuid4 permissions defaultRoles)
    (happId : appId = t.catalogId uuid4 slug name managedBy) {n : String} {role r : Role}
    (hrole : t.writtenRole uuid4 appId defaultRoles n = some role) (hr : r ∈ t.roles)
    (hid : r.id = role.id) : DefaultRole appId r ∧ r.name = n ∧ t.defaultRole slug n = some r := by
  rcases h.writtenRole_cases hrole with ⟨r', hr', hid'⟩ | ⟨-, hunused⟩
  · obtain ⟨hmem, hdef⟩ := of_mem_catalogFound (mem_of_lookup hr')
    obtain rfl : r' = r :=
      List.inj_on_of_nodup_map h.constraints.roleId hmem hr (hid'.trans hid.symm)
    exact ⟨hdef, key_of_lookup hr', h.lookup_catalogFound_eq_defaultRole happId n ▸ hr'⟩
  · exact absurd hid (hunused.roles r hr).1

/-- A written role is a default role of the store afterwards. -/
lemma writtenRole_mem (h : CatalogInput t uuid4 permissions defaultRoles) {n : String}
    {role : Role} (hrole : t.writtenRole uuid4 appId defaultRoles n = some role) :
    role ∈ t.catalogRoleRows uuid4 defaultRoles appId ∧ DefaultRole appId role := by
  rcases List.mem_append.mp (mem_of_lookup hrole) with hr | hr
  · have hids := (h.nodup_catalogRoles_id appId).sublist ((List.sublist_append_left _ _).map _)
    have hsub : (t.catalogRoles uuid4 appId defaultRoles).found.map Role.id ⊆
        t.roles.map Role.id := fun i hi => by
      obtain ⟨r, hr, rfl⟩ := List.mem_map.mp hi
      obtain ⟨r₀, hr₀, hident⟩ := List.mem_map.mp (h.found_ident hr)
      exact (Prod.mk.inj hident).1 ▸ List.mem_map_of_mem hr₀
    refine ⟨List.mem_append_left _ ((mem_updateAll_of_keys hids hsub).mpr (Or.inl hr)), ?_⟩
    obtain ⟨r₀, hr₀, rfl⟩ := h.of_mem_found hr
    have hident := ident_described defaultRoles r₀
    simp only [Role.ident, Prod.mk.injEq] at hident
    obtain ⟨-, hdef⟩ := of_mem_catalogFound hr₀
    exact ⟨hident.2.2.1.trans hdef.1, hident.2.1.trans hdef.2.1, hident.2.2.2.2.trans hdef.2.2⟩
  · exact ⟨List.mem_append_right _ hr, ((h.rolesDone appId).added role hr).1⟩

/-- A permission that a default role carries belongs to its application. -/
lemma applicationId_of_link (h : CatalogInput t uuid4 permissions defaultRoles) {r : Role}
    (hr : r ∈ t.roles) (hdef : DefaultRole appId r) {q : Permission} (hq : q ∈ t.permissions)
    (hlink : (r.id, q.id) ∈ t.rolePermissions) : q.applicationId = some appId := by
  obtain ⟨r', hr', q', hq', hrid, hqid, hmay⟩ := h.wellFormed.permissionLinks _ hlink
  obtain rfl : r' = r := List.inj_on_of_nodup_map h.constraints.roleId hr' hr hrid
  obtain rfl : q' = q := List.inj_on_of_nodup_map h.constraints.permissionId hq' hq hqid
  exact hmay.symm.trans hdef.1

/-- The permission a default role carries is, afterwards, one of the application. -/
lemma exists_linked (h : CatalogInput t uuid4 permissions defaultRoles) {r : Role}
    (hr : r ∈ t.roles) (hdef : DefaultRole appId r) {q : Permission} (hq : q ∈ t.permissions)
    (hlink : (r.id, q.id) ∈ t.rolePermissions) :
    ∃ q' ∈ t.catalogPermissions uuid4 permissions appId, q'.applicationId = some appId ∧
      q'.id = q.id ∧ q'.name = q.name := by
  have happ : q.applicationId = some appId := h.applicationId_of_link hr hdef hq hlink
  obtain ⟨q', hq', happ', hident⟩ := h.ident_iff.mpr
    ⟨q, List.mem_append_left _ ((mem_catalogExisting h.constraints).mpr ⟨hq, happ⟩), rfl⟩
  simp only [Permission.ident, Prod.mk.injEq] at hident
  exact ⟨q', hq', happ', hident.1, hident.2.2.1⟩

/-- A link of a default role, by the name of the permission. -/
lemma link_iff_carried (h : CatalogInput t uuid4 permissions defaultRoles) {r : Role}
    (hr : r ∈ t.roles) (hdef : DefaultRole appId r) {q : Permission}
    (hq : q ∈ t.catalogPermissions uuid4 permissions appId)
    (happ : q.applicationId = some appId) :
    (r.id, q.id) ∈ t.rolePermissions ↔ q.name ∈ t.carried r.id := by
  constructor
  · intro hin
    obtain ⟨-, -, q₀, hq₀, -, hid, -⟩ := h.wellFormed.permissionLinks _ hin
    have hin₀ : (r.id, q₀.id) ∈ t.rolePermissions := hid ▸ hin
    obtain ⟨q₁, hq₁, -, hid₁, hname₁⟩ := h.exists_linked hr hdef hq₀ hin₀
    have hsame : q₁ = q :=
      List.inj_on_of_nodup_map (h.nodup_permissions_id appId) hq₁ hq (hid₁.trans hid)
    refine List.mem_toFinset.mpr (List.mem_map.mpr ⟨q₀, List.mem_filter.mpr ⟨hq₀, ?_⟩, ?_⟩)
    · exact decide_eq_true hin₀
    · rw [← hname₁, hsame]
  · intro hcarried
    obtain ⟨q₀, hfilter, hname⟩ := List.mem_map.mp (List.mem_toFinset.mp hcarried)
    obtain ⟨hq₀, hin⟩ := List.mem_filter.mp hfilter
    rw [decide_eq_true_eq] at hin
    obtain ⟨q₁, hq₁, happ₁, hid₁, hname₁⟩ := h.exists_linked hr hdef hq₀ hin
    have hsame : q₁ = q := by
      refine (h.unique_permissions_name appId).eq_of_key hq₁ hq (k := (appId, q.name)) ?_ ?_
      · rw [Permission.nameKey, happ₁, hname₁, hname]
        rfl
      · rw [Permission.nameKey, happ]
        rfl
    rw [← hsame, hid₁]
    exact hin

/-- A role of the store that is not written carries what it carried. -/
lemma carries_iff_carried (h : CatalogInput t uuid4 permissions defaultRoles)
    (hpermissions : t'.permissions = t.catalogPermissions uuid4 permissions appId) {r : Role}
    (hr : r ∈ t.roles) (hdef : DefaultRole appId r)
    (hlinks : ∀ i, (r.id, i) ∈ t'.rolePermissions ↔ (r.id, i) ∈ t.rolePermissions)
    {names : List String} (hlisted : ∀ n ∈ names, n ∈ permissions.map CatalogPermission.name) :
    t'.CarriesNames appId r.id names ↔ t.carried r.id = names.toFinset := by
  have hmem : ∀ {q}, q ∈ t'.permissions ↔ q ∈ t.catalogPermissions uuid4 permissions appId :=
    fun {q} => by rw [hpermissions]
  constructor
  · intro hcarries
    ext n
    rw [List.mem_toFinset]
    constructor
    · intro hn
      obtain ⟨q₀, hfilter, rfl⟩ := List.mem_map.mp (List.mem_toFinset.mp hn)
      obtain ⟨hq₀, hin⟩ := List.mem_filter.mp hfilter
      rw [decide_eq_true_eq] at hin
      obtain ⟨q, hq, -, hid, hname⟩ := (hcarries q₀.id).mp ((hlinks _).mpr hin)
      obtain ⟨q₁, hq₁, -, hid₁, hname₁⟩ := h.exists_linked hr hdef hq₀ hin
      have hsame : q₁ = q := List.inj_on_of_nodup_map (h.nodup_permissions_id appId) hq₁
        (hmem.mp hq) (hid₁.trans hid.symm)
      rw [← hname₁, hsame]
      exact hname
    · intro hn
      obtain ⟨q, hq, happ, rfl, -⟩ := (h.active_iff appId).mpr (hlisted n hn)
      have hin := (hlinks q.id).mp ((hcarries q.id).mpr ⟨q, hmem.mpr hq, happ, rfl, hn⟩)
      exact (h.link_iff_carried hr hdef hq happ).mp hin
  · intro hcarried i
    rw [hlinks]
    constructor
    · intro hin
      obtain ⟨-, -, q₀, hq₀, -, rfl, -⟩ := h.wellFormed.permissionLinks _ hin
      obtain ⟨q, hq, happ, hid, -⟩ := h.exists_linked hr hdef hq₀ hin
      refine ⟨q, hmem.mpr hq, happ, hid, ?_⟩
      rw [← List.mem_toFinset, ← hcarried]
      exact (h.link_iff_carried hr hdef hq happ).mp (hid ▸ hin)
    · rintro ⟨q, hq, happ, rfl, hn⟩
      rw [← List.mem_toFinset, ← hcarried] at hn
      exact (h.link_iff_carried hr hdef (hmem.mp hq) happ).mpr hn

/-! ### When the catalog is applied -/

/-- What a role carries says which listed names it was given. -/
lemma toFinset_eq_of_carriesNames (h : CatalogInput t uuid4 permissions defaultRoles)
    (hpermissions : t'.permissions = t.catalogPermissions uuid4 permissions appId) {roleId : Id}
    {names names' : List String}
    (hlisted : ∀ n ∈ names, n ∈ permissions.map CatalogPermission.name)
    (hlisted' : ∀ n ∈ names', n ∈ permissions.map CatalogPermission.name)
    (hcarries : t'.CarriesNames appId roleId names)
    (hcarries' : t'.CarriesNames appId roleId names') : names.toFinset = names'.toFinset := by
  have hsub : ∀ {as bs : List String}, (∀ n ∈ as, n ∈ permissions.map CatalogPermission.name) →
      t'.CarriesNames appId roleId as → t'.CarriesNames appId roleId bs → ∀ n ∈ as, n ∈ bs := by
    intro as bs hlisted has hbs n hn
    obtain ⟨q, hq, happ, rfl, -⟩ := (h.active_iff appId).mpr (hlisted n hn)
    rw [← hpermissions] at hq
    obtain ⟨q', hq', -, hid, hn'⟩ := (hbs q.id).mp ((has q.id).mpr ⟨q, hq, happ, rfl, hn⟩)
    rw [hpermissions] at hq hq'
    obtain rfl : q' = q := List.inj_on_of_nodup_map (h.nodup_permissions_id appId) hq' hq hid
    exact hn'
  ext n
  rw [List.mem_toFinset, List.mem_toFinset]
  exact ⟨hsub hlisted hcarries hcarries' n, hsub hlisted' hcarries' hcarries n⟩

/-- **The database accepts a catalog that says the same for its roles again** exactly if
entries of one name list the same permissions, which the role has. -/
theorem repeated_iff (h : CatalogInput t uuid4 permissions defaultRoles)
    (ht' : t' = t.catalogTables uuid4 slug name permissions defaultRoles managedBy)
    (happId : appId = t.catalogId uuid4 slug name managedBy) :
    (t'.Constraints ∧ ∀ e ∈ defaultRoles, ∀ role,
        t.writtenRole uuid4 appId defaultRoles e.name = some role →
          t'.CarriesNames appId role.id e.permissions) ↔
      defaultRoles.Pairwise fun e e' => e.name = e'.name →
        e.permissions.toFinset = e'.permissions.toFinset ∧
          ∀ n ∈ e.permissions, ∃ r, t.defaultRole slug e.name = some r ∧ n ∈ t.carried r.id := by
  have hpermissions : t'.permissions = t.catalogPermissions uuid4 permissions appId := by
    rw [ht', happId, catalogTables]
  have hlinks : t'.rolePermissions = replaceAll t.rolePermissions
      (t.catalogChanges uuid4 appId permissions defaultRoles) := by
    rw [ht', happId, catalogTables]
  have hconstraints : t'.Constraints ↔ defaultRoles.Pairwise fun e e' => e.name = e'.name →
      ∀ n ∈ e.permissions, n ∈ e'.permissions →
        ∃ r, t.defaultRole slug e.name = some r ∧ n ∈ t.carried r.id := by
    rw [ht', h.constraints_iff, ← happId, h.nodup_links_iff appId]
    simp only [h.lookup_catalogFound_eq_defaultRole happId]
  rw [hconstraints]
  constructor
  · rintro ⟨hpair, hcarries⟩
    refine hpair.imp_of_mem fun {e e'} he he' hshared hname => ?_
    obtain ⟨role, hrole⟩ := h.exists_writtenRole appId he
    have hsame : e.permissions.toFinset = e'.permissions.toFinset :=
      h.toFinset_eq_of_carriesNames hpermissions (h.listed e he) (h.listed e' he')
        (hcarries e he role hrole) (hcarries e' he' role (hname ▸ hrole))
    refine ⟨hsame, fun n hn => hshared hname n hn ?_⟩
    rwa [← List.mem_toFinset, ← hsame, List.mem_toFinset]
  · intro hpair
    have hsame : ∀ e ∈ defaultRoles, ∀ e' ∈ defaultRoles, e.name = e'.name →
        e.permissions.toFinset = e'.permissions.toFinset := by
      intro e he e' he'
      have hsymm : Std.Symm fun e e' : CatalogRole => e.name = e'.name →
          e.permissions.toFinset = e'.permissions.toFinset :=
        ⟨fun _ _ hee hname => (hee hname.symm).symm⟩
      exact List.Pairwise.forall_of_forall (fun _ _ _ => rfl)
        (hpair.imp fun hee hname => (hee hname).1) he he'
    refine ⟨hpair.imp fun hee hname n hn _ => (hee hname).2 n hn, fun e he role hrole => ?_⟩
    exact h.carries_of_same hlinks hpermissions he (fun e' he' => hsame e' he' e he) hrole

/-- Other default roles of the application keep their links. -/
lemma links_kept (h : CatalogInput t uuid4 permissions defaultRoles)
    (happId : appId = t.catalogId uuid4 slug name managedBy) {r : Role} (hr : r ∈ t.roles)
    (hkept : DefaultRole appId r → r.name ∈ defaultRoles.map CatalogRole.name →
      t.defaultRole slug r.name ≠ some r) (i : Id) :
    (r.id, i) ∈ replaceAll t.rolePermissions
        (t.catalogChanges uuid4 appId permissions defaultRoles) ↔
      (r.id, i) ∈ t.rolePermissions := by
  refine h.mem_links_of_unlisted (fun e he role hrole hid => ?_) i
  obtain ⟨hdef, hname, hfound⟩ := h.defaultRole_of_writtenRole_id happId hrole hr hid.symm
  exact hkept hdef (hname ▸ List.mem_map_of_mem he) (hname ▸ hfound)

/-- The application of the catalog, and those that existed. -/
lemma applications_applied (h : CatalogInput t uuid4 permissions defaultRoles) (slug name : String)
    (managedBy : Option String) :
    (∃ app ∈ (t.catalogApplication uuid4 slug name managedBy).1,
      app.id = t.catalogId uuid4 slug name managedBy ∧ app.slug = slug ∧ app.name = name) ∧
    (∀ app ∈ t.applications, ∃ app' ∈ (t.catalogApplication uuid4 slug name managedBy).1,
      app'.id = app.id ∧ app'.slug = app.slug ∧ app'.status = app.status ∧
        app'.managedBy = app.managedBy) ∧
    (t.catalogApplication uuid4 slug name managedBy).1.filter
        (fun app => app.id ≠ t.catalogId uuid4 slug name managedBy) =
      t.applications.filter fun app => app.id ≠ t.catalogId uuid4 slug name managedBy := by
  rw [catalogId]
  rcases catalogApplication_cases t uuid4 slug name managedBy with
    ⟨app, happ, hslug, heq⟩ | ⟨-, heq⟩
  · rw [heq]
    refine ⟨⟨{ app with name }, mem_update.mpr (Or.inl ⟨rfl, app, happ, rfl⟩), rfl, hslug, rfl⟩,
      fun app' happ' => ?_, ?_⟩
    · by_cases hid : app'.id = app.id
      · obtain rfl : app' = app :=
          List.inj_on_of_nodup_map h.constraints.applicationId happ' happ hid
        exact ⟨{ app' with name }, mem_update.mpr (Or.inl ⟨rfl, app', happ, rfl⟩), rfl, rfl, rfl,
          rfl⟩
      · exact ⟨app', mem_update.mpr (Or.inr ⟨happ', hid⟩), rfl, rfl, rfl, rfl⟩
    · have hothers : (updateAll Application.id t.applications [{ app with name }]).filter
          (fun r => decide (r.id ≠ app.id)) =
          t.applications.filter fun r => decide (r.id ≠ app.id) := by
        refine filter_updateAll _ (fun x hx => ?_) fun x hx r _ hid => ?_
        · rw [List.mem_singleton.mp hx]
          simp
        · rw [List.mem_singleton.mp hx] at hid
          simpa using hid
      exact hothers
  · rw [heq]
    refine ⟨⟨_, List.mem_append_right _ (List.mem_singleton_self _), rfl, rfl, rfl⟩,
      fun app' happ' => ⟨app', List.mem_append_left _ happ', rfl, rfl, rfl, rfl⟩, ?_⟩
    exact filter_append_of_not fun x hx => by
      rw [List.mem_singleton.mp hx]
      simp

/-- A default role afterwards is the one written for its name, or another default role
of the store, as it was. -/
lemma default_role_cases (h : CatalogInput t uuid4 permissions defaultRoles)
    (happId : appId = t.catalogId uuid4 slug name managedBy) {r : Role}
    (hr : r ∈ t.catalogRoleRows uuid4 defaultRoles appId) (hdef : DefaultRole appId r)
    (hname : r.name ∈ defaultRoles.map CatalogRole.name) :
    (∃ role, t.writtenRole uuid4 appId defaultRoles r.name = some role ∧ role.id = r.id) ∨
      ∃ r₀ ∈ t.roles, r₀.id = r.id ∧ r₀.name = r.name ∧ DefaultRole appId r₀ ∧
        t.defaultRole slug r₀.name ≠ some r₀ := by
  rcases List.mem_append.mp hr with hold | hadded
  · have hident := List.mem_map_of_mem (f := Role.ident) hold
    rw [h.map_ident_roles] at hident
    obtain ⟨r₀, hr₀, hident⟩ := List.mem_map.mp hident
    simp only [Role.ident, Prod.mk.injEq] at hident
    obtain ⟨hid, htenant, happ, hsame, hagent⟩ := hident
    by_cases hfound : t.defaultRole slug r₀.name = some r₀
    · left
      obtain ⟨e, he, hen⟩ := List.mem_map.mp hname
      obtain ⟨role, hrole⟩ := h.exists_writtenRole appId he
      rw [hen] at hrole
      rw [← h.lookup_catalogFound_eq_defaultRole happId, hsame] at hfound
      rcases h.writtenRole_cases hrole with ⟨r', hr', hid'⟩ | ⟨hnone, -⟩
      · obtain rfl := Option.some.inj (hfound.symm.trans hr')
        exact ⟨role, hrole, hid'.symm.trans hid⟩
      · rw [hnone] at hfound
        cases hfound
    · exact Or.inr ⟨r₀, hr₀, hid, hsame,
        ⟨happ.trans hdef.1, htenant.trans hdef.2.1, hagent.trans hdef.2.2⟩, hfound⟩
  · exact Or.inl ⟨r, (lookup_eq_some_iff (h.rolesDone appId).names).mpr
      ⟨List.mem_append_right _ hadded, rfl⟩, rfl⟩

/-- The application of a catalog that finds a default role has the slug. -/
lemma exists_application (h : CatalogInput t uuid4 permissions defaultRoles)
    (happId : appId = t.catalogId uuid4 slug name managedBy) {r : Role} (hr : r ∈ t.roles)
    (hdef : DefaultRole appId r) : ∃ app ∈ t.applications, app.slug = slug ∧ app.id = appId := by
  rcases catalogApplication_cases t uuid4 slug name managedBy with
    ⟨app, happ, hslug, heq⟩ | ⟨-, heq⟩
  · exact ⟨app, happ, hslug, by rw [happId, catalogId, heq]⟩
  · refine absurd ?_ ((h.fresh.unused .application (Nat.zero_le _)).roles r hr).2.2.1
    rw [hdef.1, happId, catalogId, heq]

/-- **What a catalog leaves** is what it says, if entries of one name agree and other
default roles of a listed name already carry what an entry lists. -/
theorem applied_iff (h : CatalogInput t uuid4 permissions defaultRoles)
    (ht' : t' = t.catalogTables uuid4 slug name permissions defaultRoles managedBy)
    (happId : appId = t.catalogId uuid4 slug name managedBy)
    (hcarries : ∀ e ∈ defaultRoles, ∀ role,
      t.writtenRole uuid4 appId defaultRoles e.name = some role →
        t'.CarriesNames appId role.id e.permissions) :
    CatalogApplied t t' slug name permissions defaultRoles appId ↔
      ∀ app ∈ t.applications, app.slug = slug → ∀ r ∈ t.roles, DefaultRole app.id r →
        t.defaultRole slug r.name ≠ some r → r.name ∈ defaultRoles.map CatalogRole.name →
          ∃ e ∈ defaultRoles, e.name = r.name ∧ t.carried r.id = e.permissions.toFinset := by
  obtain ⟨happlication, hexisting, hothers⟩ := h.applications_applied slug name managedBy
  have heffect := h.effect slug name managedBy
  rw [← ht', ← happId] at heffect
  have hpermissions : t'.permissions = t.catalogPermissions uuid4 permissions appId := by
    rw [ht', happId, catalogTables]
  have hroles : t'.roles = t.catalogRoleRows uuid4 defaultRoles appId := by
    rw [ht', happId, catalogTables]
  have hkept : ∀ r ∈ t.roles, (DefaultRole appId r →
      r.name ∈ defaultRoles.map CatalogRole.name → t.defaultRole slug r.name ≠ some r) →
        ∀ i, (r.id, i) ∈ t'.rolePermissions ↔ (r.id, i) ∈ t.rolePermissions := by
    intro r hr hnot i
    rw [ht', catalogTables, ← happId]
    exact h.links_kept happId hr hnot i
  constructor
  · intro happlied app happ hslug r hr hdef hnot hname
    have hself : app.id = appId := by
      rw [happId, catalogId, catalogApplication,
        (lookup_eq_some_iff h.constraints.applicationSlug).mpr ⟨happ, hslug⟩]
    rw [hself] at hdef
    obtain ⟨r', hr', hident⟩ := List.mem_map.mp (heffect.roles (List.mem_map_of_mem hr))
    simp only [Role.ident, Prod.mk.injEq] at hident
    have hdef' : DefaultRole appId r' :=
      ⟨hident.2.2.1.trans hdef.1, hident.2.1.trans hdef.2.1, hident.2.2.2.2.trans hdef.2.2⟩
    obtain ⟨e, he, hen, hcarried⟩ := happlied.links r' hr' hdef' (hident.2.2.2.1 ▸ hname)
    rw [hident.1] at hcarried
    exact ⟨e, he, hen.trans hident.2.2.2.1, (h.carries_iff_carried hpermissions hr hdef
      (hkept r hr fun _ _ => hnot) (h.listed e he)).mp hcarried⟩
  · intro hshadowed
    refine
      { application := by rw [ht', happId]; exact happlication
        existing := by rw [ht']; exact hexisting
        permissions := fun n => by rw [hpermissions]; exact h.active_iff _
        roles := fun e he => ?_
        links := fun r hr hdef hname => ?_
        otherLinks := fun r hr hnot => hkept r hr fun hdef hname => absurd ⟨hdef, hname⟩ hnot
        otherApplications := by rw [ht', happId]; exact hothers
        otherPermissions := heffect.otherPermissions _ ?_ ?_
        otherRoles := heffect.otherRoles _ ?_ ?_
        rest := by rw [ht']; rfl }
    · obtain ⟨role, hrole⟩ := h.exists_writtenRole appId he
      obtain ⟨hmem, hdef⟩ := h.writtenRole_mem hrole
      exact ⟨role, hroles ▸ hmem, hdef, key_of_lookup hrole⟩
    · rw [hroles] at hr
      rcases h.default_role_cases happId hr hdef hname with
        ⟨role, hrole, hid⟩ | ⟨r₀, hr₀, hid, hsame, hdef₀, hnot⟩
      · obtain ⟨e, he, hen⟩ := List.mem_map.mp hname
        exact ⟨e, he, hen, hid ▸ hcarries e he role (hen ▸ hrole)⟩
      · obtain ⟨app, happ, hslug, hself⟩ := h.exists_application happId hr₀ hdef₀
        rw [← hid, ← hsame]
        obtain ⟨e, he, hen, hcarried⟩ :=
          hshadowed app happ hslug r₀ hr₀ (hself ▸ hdef₀) hnot (hsame ▸ hname)
        exact ⟨e, he, hen, (h.carries_iff_carried hpermissions hr₀ hdef₀
          (hkept r₀ hr₀ fun _ _ => hnot) (h.listed e he)).mpr hcarried⟩
    · intro q q' hident
      simp only [Permission.ident, Prod.mk.injEq] at hident
      rw [hident.2.1]
    · intro q happ
      simp [happ]
    · intro r r' hident
      simp only [Role.ident, Prod.mk.injEq] at hident
      rw [hident.2.2.1]
    · intro r hdef
      simp [hdef.1]

end CatalogInput

end Tables

namespace SqlAlchemyStore

/-- `apply_application_catalog` as one transaction. -/
def applyApplicationCatalog (s : SqlAlchemyStore) (uuid4 : UuidSource) (slug name : String)
    (permissions : List CatalogPermission) (defaultRoles : List CatalogRole)
    (managedBy : Option String) : Except StoreError (SqlAlchemyStore × CatalogResult) :=
  s.transaction fun t =>
    t.applyApplicationCatalog uuid4 slug name permissions defaultRoles managedBy

/-- A catalog call is exact: it raises a `ProvisioningError` that reports the violations
of the catalog, each once and in order, and changes nothing, or it leaves what the
catalog says, so that the same call again changes nothing. -/
def CatalogExact (s : SqlAlchemyStore) (uuid4 : UuidSource) (slug name : String)
    (permissions : List CatalogPermission) (defaultRoles : List CatalogRole)
    (managedBy : Option String) : Prop :=
  (∃ vs : List CatalogViolation, vs ≠ [] ∧
    vs.Pairwise (fun v w => v.place < w.place) ∧
    (∀ v, v ∈ vs ↔ CatalogViolates permissions defaultRoles v) ∧
    s.applyApplicationCatalog uuid4 slug name permissions defaultRoles managedBy =
      .error (.provisioningError (vs.map (CatalogViolation.issue permissions defaultRoles))) ∧
    s.next (.applyApplicationCatalog slug name permissions defaultRoles managedBy) uuid4 = s) ∨
  ∃ s' result,
    s.applyApplicationCatalog uuid4 slug name permissions defaultRoles managedBy =
      .ok (s', result) ∧
    s.next (.applyApplicationCatalog slug name permissions defaultRoles managedBy) uuid4 = s' ∧
    Tables.CatalogApplied s.tables s'.tables slug name permissions defaultRoles
      result.applicationId ∧
    ∀ uuid4' : UuidSource,
      s'.applyApplicationCatalog uuid4' slug name permissions defaultRoles managedBy =
        .ok (s', ⟨result.applicationId, 0, 0, 0, defaultRoles.length⟩)

variable {s s' : SqlAlchemyStore} {uuid4 : UuidSource} {slug name : String}
  {permissions : List CatalogPermission} {defaultRoles : List CatalogRole}
  {managedBy : Option String}

lemma next_applyApplicationCatalog (s : SqlAlchemyStore) (uuid4 : UuidSource) (slug name : String)
    (permissions : List CatalogPermission) (defaultRoles : List CatalogRole)
    (managedBy : Option String) :
    s.next (.applyApplicationCatalog slug name permissions defaultRoles managedBy) uuid4 =
      s.after (s.applyApplicationCatalog uuid4 slug name permissions defaultRoles managedBy) := by
  rw [next, perform, applyApplicationCatalog, transaction, transaction, Op.tables]
  cases s.tables.applyApplicationCatalog uuid4 slug name permissions defaultRoles managedBy with
  | error e => rfl
  | ok r =>
      simp only [Except.map]
      cases s.commit r.1 with
      | error e => rfl
      | ok s' => rfl

/-- A catalog with violations is refused with its report. -/
lemma catalogExact_of_violates
    (h : ∃ v, CatalogViolates permissions defaultRoles v) :
    s.CatalogExact uuid4 slug name permissions defaultRoles managedBy := by
  obtain ⟨vs, hvs, hsorted, hviolates⟩ := catalogIssues_report permissions defaultRoles
  obtain ⟨v, hv⟩ := h
  have hne : vs ≠ [] := List.ne_nil_of_mem ((hviolates v).mpr hv)
  have herror : s.applyApplicationCatalog uuid4 slug name permissions defaultRoles managedBy =
      .error (.provisioningError (vs.map (CatalogViolation.issue permissions defaultRoles))) := by
    rw [applyApplicationCatalog, transaction, Tables.applyApplicationCatalog_error, hvs]
    rw [hvs, ne_eq, List.map_eq_nil_iff]
    exact hne
  refine Or.inl ⟨vs, hne, hsorted, hviolates, herror, ?_⟩
  rw [next_applyApplicationCatalog, herror]
  rfl

/-- What a catalog without violations starts from. -/
lemma Reachable.catalogInput (h : s.Reachable)
    (hf : Fresh uuid4 s.tables (Draw.Within (max permissions.length defaultRoles.length)))
    (hissues : catalogIssues permissions defaultRoles = []) :
    s.tables.CatalogInput uuid4 permissions defaultRoles :=
  { constraints := s.constraints
    wellFormed := h.wellFormed
    parsed := h.parsed
    fresh := hf
    names := (catalogIssues_eq_nil_iff.mp hissues).1
    listed := (catalogIssues_eq_nil_iff.mp hissues).2 }

/-- **When a catalog call is exact**: exactly when the catalog has a violation, or says
nothing about a default role twice. -/
theorem Reachable.applyApplicationCatalog_exact_iff (h : s.Reachable)
    (hf : Fresh uuid4 s.tables (Draw.Within (max permissions.length defaultRoles.length))) :
    s.CatalogExact uuid4 slug name permissions defaultRoles managedBy ↔
      (∃ v, CatalogViolates permissions defaultRoles v) ∨
        s.tables.CatalogUnambiguous slug defaultRoles := by
  by_cases hviolates : ∃ v, CatalogViolates permissions defaultRoles v
  · exact iff_of_true (catalogExact_of_violates hviolates) (Or.inl hviolates)
  rw [or_iff_right hviolates]
  have hissues : catalogIssues permissions defaultRoles = [] := by
    obtain ⟨vs, hvs, -, hmem⟩ := catalogIssues_report permissions defaultRoles
    rw [hvs, List.map_eq_nil_iff, List.eq_nil_iff_forall_not_mem]
    exact fun v hv => hviolates ⟨v, (hmem v).mp hv⟩
  have hinput := h.catalogInput hf hissues
  have happly : s.tables.applyApplicationCatalog uuid4 slug name permissions defaultRoles managedBy =
      .ok (s.tables.catalogTables uuid4 slug name permissions defaultRoles managedBy,
        s.tables.catalogResult uuid4 slug name permissions defaultRoles managedBy) :=
    Tables.applyApplicationCatalog_eq hissues
  constructor
  · rintro (⟨vs, hne, -, hmem, -⟩ | ⟨s', result, hcall, -, happlied, hagain⟩)
    · obtain ⟨v, hv⟩ := List.exists_mem_of_ne_nil vs hne
      exact absurd ⟨v, (hmem v).mp hv⟩ hviolates
    · rw [applyApplicationCatalog, transaction_eq_ok_iff, happly] at hcall
      obtain ⟨ht', rfl⟩ := Prod.mk.inj (Except.ok.inj hcall.2)
      have hcarries := (hinput.again_iff s'.constraints ht'.symm rfl uuid4).mp
        (transaction_eq_ok_iff.mp (hagain uuid4)).2
      exact
        { repeated := (hinput.repeated_iff ht'.symm rfl).mp ⟨s'.constraints, hcarries⟩
          shadowed := (hinput.applied_iff ht'.symm rfl hcarries).mp happlied }
  · intro hunambiguous
    obtain ⟨hconstraints, hcarries⟩ := (hinput.repeated_iff
      (Eq.refl (s.tables.catalogTables uuid4 slug name permissions defaultRoles managedBy))
      (Eq.refl (s.tables.catalogId uuid4 slug name managedBy))).mpr hunambiguous.repeated
    have hok : ∃ r, s.applyApplicationCatalog uuid4 slug name permissions defaultRoles managedBy =
        .ok r := by
      rw [applyApplicationCatalog, transaction_isOk_iff]
      exact ⟨_, _, happly, hconstraints, fun he => hinput.foreignKeys_after (s.foreignKeys he)⟩
    obtain ⟨⟨s', result⟩, hcall⟩ := hok
    have hnext : s.next (.applyApplicationCatalog slug name permissions defaultRoles managedBy)
        uuid4 = s' := by
      rw [next_applyApplicationCatalog, hcall]
      rfl
    have htables := (transaction_eq_ok_iff.mp hcall).2
    rw [happly] at htables
    obtain ⟨ht', rfl⟩ := Prod.mk.inj (Except.ok.inj htables)
    rw [ht'] at hcarries
    refine Or.inr ⟨s', _, hcall, hnext, ?_, fun uuid4' => transaction_eq_ok_iff.mpr ⟨rfl, ?_⟩⟩
    · exact (hinput.applied_iff ht'.symm rfl hcarries).mpr hunambiguous.shadowed
    · exact (hinput.again_iff s'.constraints ht'.symm rfl uuid4').mpr hcarries

/-- A catalog that lists each default role once is exact. -/
theorem applyApplicationCatalog_exact_crm :
    acmeStore.CatalogExact (sampleIds 5) "crm" "CRM"
      [⟨"deal.read", none, false⟩, ⟨"deal.write", none, false⟩]
      [⟨"viewer", none, ["deal.read"]⟩, ⟨"editor", none, ["deal.read", "deal.write"]⟩] none :=
  (acmeStore_reachable.applyApplicationCatalog_exact_iff (by decide +kernel)).mpr
    (Or.inr ⟨by simp, by unfold Tables.DefaultRole; decide +kernel⟩)

/-- A default role that is listed twice with the same permission: its link is inserted
twice, and the database refuses it. -/
theorem applyApplicationCatalog_editor_twice :
    acmeStore.Reachable ∧ Fresh (sampleIds 5) acmeStore.tables (Draw.Within 2) ∧
      ¬acmeStore.CatalogExact (sampleIds 5) "crm" "CRM" [⟨"deal.read", none, false⟩]
        [⟨"editor", none, ["deal.read"]⟩, ⟨"editor", none, ["deal.read"]⟩] none := by
  refine ⟨acmeStore_reachable, by decide +kernel, ?_⟩
  have herror : (acmeStore.applyApplicationCatalog (sampleIds 5) "crm" "CRM"
      [⟨"deal.read", none, false⟩] [⟨"editor", none, ["deal.read"]⟩,
        ⟨"editor", none, ["deal.read"]⟩] none).map (fun _ => ()) = .error .integrityError := by
    decide +kernel
  rintro (⟨vs, -, -, -, hcall, -⟩ | ⟨s', result, hcall, -⟩)
  · rw [hcall] at herror
    cases herror
  · rw [hcall] at herror
    cases herror

end SqlAlchemyStore

end AuthzKit
