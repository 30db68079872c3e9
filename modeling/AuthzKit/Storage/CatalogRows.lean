import AuthzKit.Storage.CatalogReport
import AuthzKit.Storage.Invariant

/-!
The permission rows a catalog leaves.

* `SqlAlchemyStore.Reachable.parsed`: the columns `resource` and `action` of a
  permission are the parts of its name, so that they collide with nothing the name
  does not collide with.
* `catalogTables`: the tables of a catalog without issues.
* `CatalogInput`: what such a catalog starts from.
* `CatalogInput.mem_permissions_iff`: the permissions of the application afterwards;
  those that are not deprecated are the listed ones (`active_iff`).
-/

namespace AuthzKit

open Keyed Links

namespace Tables

variable {t t' : Tables} {uuid4 : UuidSource}

/-! ### Names and their parts -/

/-- The columns `resource` and `action` are the parts of the name. -/
def Parsed (t : Tables) : Prop :=
  ∀ q ∈ t.permissions, Permission.fromName q.name = .ok ⟨q.resource, q.action⟩

/-- Where names are distinct and split into the columns, the columns are distinct. -/
lemma Parsed.unique_action (h : t.Parsed) (hname : Unique Permission.nameKey t.permissions) :
    Unique Permission.actionKey t.permissions := by
  rw [Unique, List.Nodup, List.pairwise_filterMap] at hname ⊢
  refine hname.imp_of_mem fun {a b} ha hb hne k hka k' hkb hk => ?_
  obtain ⟨app, happ, rfl⟩ := Option.map_eq_some_iff.mp hka
  obtain ⟨app', happ', rfl⟩ := Option.map_eq_some_iff.mp hkb
  obtain ⟨rfl, hresource, haction⟩ : app = app' ∧ a.resource = b.resource ∧ a.action = b.action := by
    simpa using hk
  have hnames : a.name = b.name := by
    rw [← Permission.fromName_spec (h a ha), ← Permission.fromName_spec (h b hb), hresource, haction]
  exact hne (app, a.name) (by simp [Permission.nameKey, happ]) (app, b.name)
    (by simp [Permission.nameKey, happ']) (by rw [hnames])

/-- A new permission of a catalog has the parts of its name. -/
lemma parsed_of_mem_catalogNew {appId : Id} {permissions : List CatalogPermission} {q : Permission}
    (hnames : ∀ p ∈ permissions, '.' ∈ p.name.toList)
    (h : q ∈ t.catalogNew uuid4 appId permissions) :
    Permission.fromName q.name = .ok ⟨q.resource, q.action⟩ := by
  obtain ⟨p, hp, rfl⟩ := List.mem_map.mp h
  obtain ⟨hp, hnew⟩ := List.mem_filter.mp hp
  obtain ⟨⟨spec, i⟩, hspec, rfl⟩ := List.mem_map.mp hp
  have hmem : spec ∈ permissions := mem_of_mem_ofList (List.fst_mem_of_mem_zipIdx hspec)
  obtain ⟨parsed, hparsed⟩ := Permission.fromName_isOk_iff.mpr (hnames spec hmem)
  dsimp only at hnew ⊢
  rw [permissionRow] at hnew ⊢
  cases hl : lookup Permission.name (t.catalogExisting appId) spec.name with
  | some row =>
      rw [hl] at hnew
      cases hnew
  | none => simp only [hparsed, Except.toOption, Option.getD_some]

/-- **Each operation that returns keeps it.** -/
theorem parsed_tables {op : Op} (hc : t.Constraints) (hp : t.Parsed)
    (h : op.tables uuid4 t = .ok t') : t'.Parsed := by
  have hkeep : t'.permissions = t.permissions → t'.Parsed := fun heq q hq => hp q (heq ▸ hq)
  cases op with
  | createPermission name applicationId description =>
      rw [Op.tables] at h
      obtain ⟨_, h⟩ := map_fst_eq_ok h
      rw [createPermission] at h
      cases hparse : Permission.fromName name with
      | error e => simp [hparse] at h
      | ok parsed =>
          simp only [hparse] at h
          obtain ⟨rfl, -⟩ := Prod.mk.inj (Except.ok.inj h)
          intro q hq
          rcases List.mem_append.mp hq with hq | hq
          · exact hp q hq
          · obtain rfl := List.mem_singleton.mp hq
            exact hparse
  | applyApplicationCatalog slug name permissions defaultRoles managedBy =>
      rw [Op.tables] at h
      obtain ⟨_, h⟩ := map_fst_eq_ok h
      rw [applyApplicationCatalog] at h
      simp only at h
      split at h
      · cases h
      · rename_i hissues
        obtain ⟨rfl, -⟩ := Prod.mk.inj (Except.ok.inj h)
        intro q hq
        rcases List.mem_append.mp hq with hq | hq
        · have hident := List.mem_map_of_mem (f := Permission.ident) hq
          rw [map_updateAll_ident (fun a b hab => (Prod.mk.inj hab).1) hc.permissionId
            fun r hr => (of_mem_catalogWrites hr).1] at hident
          obtain ⟨q', hq', heq⟩ := List.mem_map.mp hident
          simp only [Permission.ident, Prod.mk.injEq] at heq
          rw [← heq.2.2.1, ← heq.2.2.2.1, ← heq.2.2.2.2]
          exact hp q' hq'
        · exact parsed_of_mem_catalogNew (catalogIssues_eq_nil_iff.mp (not_not.mp hissues)).1 hq
  | setRolePermissions roleId permissionNames =>
      rw [Op.tables] at h
      obtain ⟨_, h⟩ := map_fst_eq_ok h
      rw [setRolePermissions] at h
      split at h
      · exact hkeep (by cases h; rfl)
      · dsimp only at h
        split at h
        · cases h
        · exact hkeep (by cases h; rfl)
  | setAgentRoles agentId roleNames =>
      rw [Op.tables] at h
      obtain ⟨_, h⟩ := map_fst_eq_ok h
      rw [setAgentRoles] at h
      split at h
      · exact hkeep (by cases h; rfl)
      · dsimp only at h
        split at h
        · cases h
        · exact hkeep (by cases h; rfl)
  | setTenantRoleOverride tenantId applicationId name permissions =>
      rw [Op.tables] at h
      obtain ⟨_, h⟩ := map_fst_eq_ok h
      rw [setTenantRoleOverride] at h
      dsimp only at h
      split at h
      · cases h
      · exact hkeep (by cases h; rfl)
  | applyTenantState applicationId tenantSlug state =>
      rw [Op.tables] at h
      obtain ⟨_, h⟩ := map_fst_eq_ok h
      obtain ⟨-, rfl, -⟩ := of_applyTenantState_ok h
      exact hkeep (by rw [stateTables_eq])
  | upsertUserFromIdentity ref email externalTenantId displayName =>
      rw [Op.tables] at h
      obtain ⟨_, h⟩ := map_fst_eq_ok h
      rw [upsertUserFromIdentity] at h
      split at h
      · split at h
        · exact hkeep (by cases h; rfl)
        · cases h
      · exact hkeep (by cases h; rfl)
  | createMembership tenantId applicationId userId status roles =>
      rw [Op.tables] at h
      obtain ⟨_, h⟩ := map_fst_eq_ok h
      rw [createMembership] at h
      dsimp only at h
      split at h
      · exact hkeep (by cases h; rfl)
      · exact hkeep (by cases h; rfl)
  | setMembershipStatus membershipId status =>
      rw [Op.tables] at h
      obtain ⟨_, h⟩ := map_fst_eq_ok h
      rw [setMembershipStatus] at h
      split at h
      · cases h
      · exact hkeep (by cases h; rfl)
  | updateTenant | updateApplication | setApplicationManagedBy | setMembershipRoles
  | deleteTenantRoleOverride | revokeGrant =>
      rw [Op.tables] at h
      obtain ⟨_, h⟩ := map_fst_eq_ok h
      simp only [updateTenant, updateApplication, setApplicationManagedBy, setMembershipRoles,
        deleteTenantRoleOverride, revokeGrant] at h
      split at h
      · exact hkeep (by cases h; rfl)
      · exact hkeep (by cases h; rfl)
  | createTenant | createApplication | claimApplicationManagement | createRole
  | setTenantPermissionMask | createAgent | issueGrant | revokeMatching =>
      rw [Op.tables] at h
      obtain ⟨_, h⟩ := map_fst_eq_ok h
      exact hkeep (by cases h; rfl)

/-! ### The tables of a catalog -/

section

variable (t uuid4) (slug name : String) (permissions : List CatalogPermission)
  (defaultRoles : List CatalogRole) (managedBy : Option String)

/-- The permissions after a catalog of the application `appId`. -/
def catalogPermissions (appId : Id) : List Permission :=
  updateAll Permission.id t.permissions
    (t.catalogWritten uuid4 appId permissions ++ t.catalogDeprecated appId permissions) ++
      t.catalogNew uuid4 appId permissions

/-- The roles after a catalog of the application `appId`. -/
def catalogRoleRows (appId : Id) : List Role :=
  updateAll Role.id t.roles (t.catalogRoles uuid4 appId defaultRoles).found ++
    (t.catalogRoles uuid4 appId defaultRoles).added

/-- The application of a catalog. -/
def catalogId : Id := (t.catalogApplication uuid4 slug name managedBy).2

/-- The tables after a catalog without issues. -/
def catalogTables : Tables :=
  let appId := t.catalogId uuid4 slug name managedBy
  { t with
    applications := (t.catalogApplication uuid4 slug name managedBy).1
    permissions := t.catalogPermissions uuid4 permissions appId
    roles := t.catalogRoleRows uuid4 defaultRoles appId
    rolePermissions := replaceAll t.rolePermissions
      (t.catalogChanges uuid4 appId permissions defaultRoles) }

/-- What a catalog without issues reports. -/
def catalogResult : CatalogResult :=
  let appId := t.catalogId uuid4 slug name managedBy
  { applicationId := appId
    permissionsCreated := (t.catalogNew uuid4 appId permissions).length
    permissionsDeprecated := (t.catalogDeprecated appId permissions).length
    rolesCreated := (t.catalogRoles uuid4 appId defaultRoles).created
    rolesUpdated := (t.catalogRoles uuid4 appId defaultRoles).updated }

end

variable {slug name : String} {permissions : List CatalogPermission}
  {defaultRoles : List CatalogRole} {managedBy : Option String}

/-- A catalog without issues is applied. -/
lemma applyApplicationCatalog_eq (h : catalogIssues permissions defaultRoles = []) :
    t.applyApplicationCatalog uuid4 slug name permissions defaultRoles managedBy =
      .ok (t.catalogTables uuid4 slug name permissions defaultRoles managedBy,
        t.catalogResult uuid4 slug name permissions defaultRoles managedBy) := by
  rw [applyApplicationCatalog]
  simp only [h, ne_eq, not_true_eq_false, if_false]
  rfl

/-- A catalog with issues is refused with all of them. -/
lemma applyApplicationCatalog_error (h : catalogIssues permissions defaultRoles ≠ []) :
    t.applyApplicationCatalog uuid4 slug name permissions defaultRoles managedBy =
      .error (.provisioningError (catalogIssues permissions defaultRoles)) := by
  rw [applyApplicationCatalog]
  simp only [ne_eq, h, not_false_eq_true, if_true]

/-- The application of a catalog is the one with the slug, or new. -/
lemma catalogApplication_cases (t : Tables) (uuid4 : UuidSource) (slug name : String)
    (managedBy : Option String) :
    (∃ app ∈ t.applications, app.slug = slug ∧
      t.catalogApplication uuid4 slug name managedBy =
        (update Application.id t.applications { app with name }, app.id)) ∨
      ((∀ app ∈ t.applications, app.slug ≠ slug) ∧
        t.catalogApplication uuid4 slug name managedBy =
          (t.applications ++ [⟨uuid4 .application, slug, name, statusActive, managedBy⟩],
            uuid4 .application)) := by
  rw [catalogApplication]
  cases hl : lookup Application.slug t.applications slug with
  | some app => exact Or.inl ⟨app, mem_of_lookup hl, key_of_lookup hl, rfl⟩
  | none => exact Or.inr ⟨lookup_eq_none_iff.mp hl, rfl⟩

/-- What a catalog without issues starts from. -/
structure CatalogInput (t : Tables) (uuid4 : UuidSource) (permissions : List CatalogPermission)
    (defaultRoles : List CatalogRole) : Prop where
  constraints : t.Constraints
  wellFormed : t.WellFormed
  parsed : t.Parsed
  fresh : Fresh uuid4 t (Draw.Within (max permissions.length defaultRoles.length))
  names : ∀ p ∈ permissions, '.' ∈ p.name.toList
  listed : ∀ r ∈ defaultRoles, ∀ n ∈ r.permissions, n ∈ permissions.map CatalogPermission.name

/-! ### The permissions of the application -/

/-- The permissions of an application have distinct names. -/
lemma nodup_permission_names (hc : t.Constraints) (appId : Id) :
    ((t.permissions.filter fun q => q.applicationId = some appId).map Permission.name).Nodup := by
  refine (hc.permissionName.filter _).nodup_map fun a ha b hb hname => ?_
  obtain ⟨-, ha⟩ := List.mem_filter.mp ha
  obtain ⟨-, hb⟩ := List.mem_filter.mp hb
  simp only [decide_eq_true_eq] at ha hb
  exact ⟨(appId, a.name), by simp [Permission.nameKey, ha], by simp [Permission.nameKey, hb, hname]⟩

lemma catalogExisting_eq (hc : t.Constraints) (appId : Id) :
    t.catalogExisting appId = t.permissions.filter fun q => q.applicationId = some appId :=
  ofList_eq_self (nodup_permission_names hc appId)

lemma mem_catalogExisting (hc : t.Constraints) {appId : Id} {q : Permission} :
    q ∈ t.catalogExisting appId ↔ q ∈ t.permissions ∧ q.applicationId = some appId := by
  rw [catalogExisting_eq hc]
  simp

/-- The row of a listed name has that name. -/
lemma permissionRow_name {appId : Id} {existing : List Permission} (spec : CatalogPermission)
    (i : ℕ) : (permissionRow uuid4 appId existing spec i).1.name = spec.name := by
  rw [permissionRow]
  cases hl : lookup Permission.name existing spec.name with
  | some row =>
      have hname : row.name = spec.name := key_of_lookup hl
      exact hname
  | none => rfl

lemma nodup_catalogRows_names (t : Tables) (uuid4 : UuidSource) (appId : Id)
    (permissions : List CatalogPermission) :
    ((t.catalogRows uuid4 appId permissions).map fun p => p.1.name).Nodup := by
  have hnames : (t.catalogRows uuid4 appId permissions).map (fun p => p.1.name) =
      (ofList CatalogPermission.name permissions).zipIdx.map fun p => p.1.name := by
    rw [catalogRows, List.map_map]
    exact List.map_congr_left fun p _ => permissionRow_name p.1 p.2
  rw [hnames]
  exact nodup_key_zipIdx (nodup_ofList permissions)

/-- The names of the rows are the listed ones. -/
lemma mem_catalogRows_names (t : Tables) (uuid4 : UuidSource) (appId : Id) {n : String} :
    (∃ p ∈ t.catalogRows uuid4 appId permissions, p.1.name = n) ↔
      n ∈ permissions.map CatalogPermission.name := by
  rw [← mem_keys_ofList, List.mem_map]
  constructor
  · rintro ⟨p, hp, rfl⟩
    obtain ⟨⟨spec, i⟩, hspec, rfl⟩ := List.mem_map.mp hp
    exact ⟨spec, List.fst_mem_of_mem_zipIdx hspec, (permissionRow_name spec i).symm⟩
  · rintro ⟨spec, hspec, rfl⟩
    obtain ⟨i, hi⟩ := List.mem_iff_getElem?.mp hspec
    exact ⟨_, List.mem_map_of_mem (List.mk_mem_zipIdx_iff_getElem?.mpr hi),
      permissionRow_name spec i⟩

lemma mem_catalogWritten {appId : Id} {q : Permission} :
    q ∈ t.catalogWritten uuid4 appId permissions ↔
      (q, false) ∈ t.catalogRows uuid4 appId permissions := by
  simp [catalogWritten]

lemma mem_catalogNew {appId : Id} {q : Permission} :
    q ∈ t.catalogNew uuid4 appId permissions ↔
      (q, true) ∈ t.catalogRows uuid4 appId permissions := by
  simp [catalogNew]

/-- A new permission has a name that no permission of the application has, and the id
drawn at the position of that name. -/
lemma of_mem_catalogNew {appId : Id} {q : Permission}
    (h : q ∈ t.catalogNew uuid4 appId permissions) :
    (∀ e ∈ t.catalogExisting appId, e.name ≠ q.name) ∧
      ∃ i < permissions.length, q.id = uuid4 (.permission i) ∧
        (ofList CatalogPermission.name permissions)[i]?.map CatalogPermission.name =
          some q.name := by
  obtain ⟨⟨spec, i⟩, hspec, hrow⟩ := List.mem_map.mp (mem_catalogNew.mp h)
  have hget := List.mk_mem_zipIdx_iff_getElem?.mp hspec
  have hi : i < permissions.length :=
    (List.getElem?_eq_some_iff.mp hget).1.trans_le (length_ofList_le permissions)
  have hname : (permissionRow uuid4 appId (t.catalogExisting appId) spec i).1.name = spec.name :=
    permissionRow_name spec i
  dsimp only at hrow
  rw [hrow] at hname
  rw [permissionRow] at hrow
  cases hl : lookup Permission.name (t.catalogExisting appId) spec.name with
  | some row => simp [hl] at hrow
  | none =>
      rw [hl] at hrow
      refine ⟨fun e he => hname ▸ lookup_eq_none_iff.mp hl e he, i, hi, ?_, ?_⟩
      · rw [← (Prod.mk.inj hrow).1]
      · rw [hget, Option.map_some, hname]

/-- The rows a catalog writes back have distinct ids. -/
lemma nodup_catalogWrites (hc : t.Constraints) (uuid4 : UuidSource) (appId : Id)
    (permissions : List CatalogPermission) :
    ((t.catalogWritten uuid4 appId permissions ++ t.catalogDeprecated appId permissions).map
      Permission.id).Nodup := by
  have hnames : ((t.catalogWritten uuid4 appId permissions ++
      t.catalogDeprecated appId permissions).map Permission.name).Nodup := by
    rw [List.map_append]
    refine List.Nodup.append ?_ ?_ fun n hn hn' => ?_
    · rw [catalogWritten, List.map_map]
      exact (nodup_catalogRows_names t uuid4 appId permissions).sublist
        (List.filter_sublist.map _)
    · rw [catalogDeprecated, List.map_map]
      refine List.Nodup.sublist (List.filter_sublist.map _) ?_
      exact catalogExisting_eq hc appId ▸ nodup_permission_names hc appId
    · obtain ⟨q, hq, rfl⟩ := List.mem_map.mp hn
      obtain ⟨q', hq', hname⟩ := List.mem_map.mp hn'
      obtain ⟨e, he, rfl⟩ := List.mem_map.mp hq'
      have hlisted := (mem_catalogRows_names _ _ _).mp ⟨_, mem_catalogWritten.mp hq, rfl⟩
      have hunlisted := (List.mem_filter.mp he).2
      simp only [decide_eq_true_eq] at hunlisted
      exact hunlisted.1 (hname ▸ hlisted)
  rw [List.Nodup, List.pairwise_map] at hnames ⊢
  refine hnames.imp_of_mem fun {a b} ha hb hne hid => hne ?_
  obtain ⟨a', ha', hident⟩ := List.mem_map.mp (of_mem_catalogWrites ha).1
  obtain ⟨b', hb', hident'⟩ := List.mem_map.mp (of_mem_catalogWrites hb).1
  simp only [Permission.ident, Prod.mk.injEq] at hident hident'
  have heq : a' = b' :=
    List.inj_on_of_nodup_map hc.permissionId ha' hb' (by rw [hident.1, hident'.1, hid])
  rw [← hident.2.2.1, ← hident'.2.2.1, heq]

namespace CatalogInput

variable {appId : Id}

/-- The permissions that were there and the new ones have distinct names in the
application. -/
lemma nodup_rows_names (h : CatalogInput t uuid4 permissions defaultRoles) (appId : Id) :
    ((t.catalogExisting appId ++ t.catalogNew uuid4 appId permissions).map
      Permission.name).Nodup := by
  rw [List.map_append]
  refine List.Nodup.append ?_ ?_ fun n hn hn' => ?_
  · exact catalogExisting_eq h.constraints appId ▸ nodup_permission_names h.constraints appId
  · rw [catalogNew, List.map_map]
    exact (nodup_catalogRows_names t uuid4 appId permissions).sublist (List.filter_sublist.map _)
  · obtain ⟨e, he, rfl⟩ := List.mem_map.mp hn
    obtain ⟨q, hq, hname⟩ := List.mem_map.mp hn'
    exact (of_mem_catalogNew hq).1 e he hname.symm

/-- The rows written back keep the identity of the rows they replace. -/
lemma map_ident_permissions (h : CatalogInput t uuid4 permissions defaultRoles) (appId : Id) :
    (updateAll Permission.id t.permissions (t.catalogWritten uuid4 appId permissions ++
      t.catalogDeprecated appId permissions)).map Permission.ident =
      t.permissions.map Permission.ident :=
  map_updateAll_ident (fun _ _ hab => (Prod.mk.inj hab).1) h.constraints.permissionId
    fun _ hq => (of_mem_catalogWrites hq).1

/-- Up to identity, the permissions of the application afterwards are those that were
there and the new ones. -/
lemma ident_iff (h : CatalogInput t uuid4 permissions defaultRoles)
    {k : Id × Option Id × String × String × String} :
    (∃ q ∈ t.catalogPermissions uuid4 permissions appId, q.applicationId = some appId ∧
        q.ident = k) ↔
      ∃ q ∈ t.catalogExisting appId ++ t.catalogNew uuid4 appId permissions, q.ident = k := by
  constructor
  · rintro ⟨q, hq, happ, rfl⟩
    rcases List.mem_append.mp hq with hq | hq
    · have hident := List.mem_map_of_mem (f := Permission.ident) hq
      rw [h.map_ident_permissions] at hident
      obtain ⟨e, he, heq⟩ := List.mem_map.mp hident
      simp only [Permission.ident, Prod.mk.injEq] at heq
      refine ⟨e, List.mem_append_left _ ((mem_catalogExisting h.constraints).mpr
        ⟨he, heq.2.1.trans happ⟩), ?_⟩
      simp only [Permission.ident, heq]
    · exact ⟨q, List.mem_append_right _ hq, rfl⟩
  · rintro ⟨q, hq, rfl⟩
    rcases List.mem_append.mp hq with hq | hq
    · obtain ⟨hq, happ⟩ := (mem_catalogExisting h.constraints).mp hq
      have hident := List.mem_map_of_mem (f := Permission.ident) hq
      rw [← h.map_ident_permissions appId] at hident
      obtain ⟨e, he, heq⟩ := List.mem_map.mp hident
      refine ⟨e, List.mem_append_left _ he, ?_, heq⟩
      simp only [Permission.ident, Prod.mk.injEq] at heq
      exact heq.2.1.trans happ
    · exact ⟨q, List.mem_append_right _ hq, applicationId_of_mem_catalogNew hq, rfl⟩

/-- **The permissions of the application afterwards**: the row of each listed name, and
the unlisted ones, deprecated. -/
theorem mem_permissions_iff (h : CatalogInput t uuid4 permissions defaultRoles)
    {q : Permission} :
    (q ∈ t.catalogPermissions uuid4 permissions appId ∧ q.applicationId = some appId) ↔
      (∃ p ∈ t.catalogRows uuid4 appId permissions, p.1 = q) ∨
        ∃ e ∈ t.catalogExisting appId, e.name ∉ permissions.map CatalogPermission.name ∧
          q = { e with deprecated := true } := by
  have hids : ∀ {a b : Permission}, a ∈ t.permissions → b ∈ t.permissions → a.id = b.id → a = b :=
    fun ha hb hid => List.inj_on_of_nodup_map h.constraints.permissionId ha hb hid
  have hsub : (t.catalogWritten uuid4 appId permissions ++
      t.catalogDeprecated appId permissions).map Permission.id ⊆
        t.permissions.map Permission.id := by
    intro i hi
    obtain ⟨q, hq, rfl⟩ := List.mem_map.mp hi
    obtain ⟨e, he, hident⟩ := List.mem_map.mp (of_mem_catalogWrites hq).1
    exact (Prod.mk.inj hident).1 ▸ List.mem_map_of_mem he
  rw [catalogPermissions, List.mem_append, mem_updateAll_of_keys
    (nodup_catalogWrites h.constraints uuid4 appId permissions) hsub, List.mem_append]
  constructor
  · rintro ⟨((hq | hq) | ⟨hq, hunwritten⟩) | hq, happ⟩
    · exact Or.inl ⟨_, mem_catalogWritten.mp hq, rfl⟩
    · obtain ⟨e, he, rfl⟩ := List.mem_map.mp hq
      obtain ⟨he, hcond⟩ := List.mem_filter.mp he
      simp only [decide_eq_true_eq] at hcond
      exact Or.inr ⟨e, he, hcond.1, rfl⟩
    · -- a permission that is not written is not listed, and was deprecated before
      have hexisting := (mem_catalogExisting h.constraints).mpr ⟨hq, happ⟩
      have hunlisted : q.name ∉ permissions.map CatalogPermission.name := fun hlisted => by
        obtain ⟨⟨r, new⟩, hr, hname⟩ := (mem_catalogRows_names t uuid4 appId).mpr
          hlisted
        dsimp only at hname
        cases new with
        | true => exact (of_mem_catalogNew (mem_catalogNew.mpr hr)).1 q hexisting hname.symm
        | false =>
            obtain ⟨-, e, he, hident⟩ | ⟨htrue, -⟩ := of_mem_catalogRows hr
            · simp only [Permission.ident, Prod.mk.injEq] at hident
              have hsame : e = q := List.inj_on_of_nodup_map
                (catalogExisting_eq h.constraints appId ▸
                  nodup_permission_names h.constraints appId) he hexisting
                (hident.2.2.1.symm.trans hname)
              refine hunwritten (List.mem_map.mpr ⟨r, ?_, hident.1.trans (hsame ▸ rfl)⟩)
              exact List.mem_append_left _ (mem_catalogWritten.mpr hr)
            · cases htrue
      refine Or.inr ⟨q, hexisting, hunlisted, ?_⟩
      have hdep : q.deprecated = true := by
        by_contra hactive
        refine hunwritten (List.mem_map.mpr ⟨{ q with deprecated := true }, ?_, rfl⟩)
        refine List.mem_append_right _ (List.mem_map.mpr ⟨q, List.mem_filter.mpr ⟨hexisting, ?_⟩, rfl⟩)
        simpa [hunlisted] using hactive
      rw [← hdep]
    · exact Or.inl ⟨_, mem_catalogNew.mp hq, rfl⟩
  · rintro (⟨⟨r, new⟩, hr, rfl⟩ | ⟨e, he, hunlisted, rfl⟩)
    · cases new with
      | true =>
          have hnew := mem_catalogNew.mpr hr
          exact ⟨Or.inr hnew, applicationId_of_mem_catalogNew hnew⟩
      | false =>
          have hwritten := mem_catalogWritten.mpr hr
          exact ⟨Or.inl (Or.inl (Or.inl hwritten)),
            (of_mem_catalogWrites (List.mem_append_left _ hwritten)).2⟩
    · obtain ⟨hmem, happ⟩ := (mem_catalogExisting h.constraints).mp he
      refine ⟨?_, happ⟩
      by_cases hdep : e.deprecated = true
      · have hsame : ({ e with deprecated := true } : Permission) = e := by rw [← hdep]
        rw [hsame]
        refine Or.inl (Or.inr ⟨hmem, fun hkey => ?_⟩)
        obtain ⟨w, hw, hid⟩ := List.mem_map.mp hkey
        obtain ⟨e', he', hident⟩ := List.mem_map.mp (of_mem_catalogWrites hw).1
        simp only [Permission.ident, Prod.mk.injEq] at hident
        obtain rfl := hids he' hmem (hident.1.trans hid)
        rcases List.mem_append.mp hw with hw | hw
        · refine hunlisted ((mem_catalogRows_names _ _ _).mp ⟨_, mem_catalogWritten.mp hw, ?_⟩)
          exact hident.2.2.1.symm
        · obtain ⟨d, hd, rfl⟩ := List.mem_map.mp hw
          obtain ⟨hd, hcond⟩ := List.mem_filter.mp hd
          obtain rfl := hids (of_mem_catalogExisting hd).1 hmem hid
          simp [hdep] at hcond
      · refine Or.inl (Or.inl (Or.inr (List.mem_map.mpr
          ⟨e, List.mem_filter.mpr ⟨he, ?_⟩, rfl⟩)))
        simpa [hunlisted] using hdep

/-- **The permissions that are not deprecated are the listed ones.** -/
theorem active_iff (h : CatalogInput t uuid4 permissions defaultRoles) (appId : Id) {n : String} :
    (∃ q ∈ t.catalogPermissions uuid4 permissions appId, q.applicationId = some appId ∧
        q.name = n ∧ q.deprecated = false) ↔ n ∈ permissions.map CatalogPermission.name := by
  rw [← mem_catalogRows_names t uuid4 appId]
  constructor
  · rintro ⟨q, hq, happ, rfl, hactive⟩
    rcases h.mem_permissions_iff.mp ⟨hq, happ⟩ with ⟨p, hp, rfl⟩ | ⟨e, -, -, rfl⟩
    · exact ⟨p, hp, rfl⟩
    · cases hactive
  · rintro ⟨p, hp, rfl⟩
    obtain ⟨hq, happ⟩ := h.mem_permissions_iff.mpr (Or.inl ⟨p, hp, rfl⟩)
    refine ⟨p.1, hq, happ, rfl, ?_⟩
    obtain ⟨⟨spec, i⟩, -, rfl⟩ := List.mem_map.mp hp
    dsimp only
    rw [permissionRow]
    cases lookup Permission.name (t.catalogExisting appId) spec.name with
    | some row => rfl
    | none => rfl

/-- A wanted permission: the ids a default role's names are turned into. -/
lemma mem_wanted_iff (h : CatalogInput t uuid4 permissions defaultRoles) {names : List String}
    {i : Id} :
    i ∈ permissionIds (names.filterMap (lookup Permission.name
        (t.catalogExisting appId ++ t.catalogNew uuid4 appId permissions))) ↔
      ∃ q ∈ t.catalogPermissions uuid4 permissions appId, q.applicationId = some appId ∧
        q.id = i ∧ q.name ∈ names := by
  rw [mem_permissionIds]
  constructor
  · rintro ⟨q, hq, rfl⟩
    obtain ⟨n, hn, hlook⟩ := List.mem_filterMap.mp hq
    obtain ⟨q', hq', happ, hident⟩ := h.ident_iff.mpr
      ⟨q, mem_of_lookup hlook, rfl⟩
    simp only [Permission.ident, Prod.mk.injEq] at hident
    refine ⟨q', hq', happ, hident.1, ?_⟩
    have hname : q.name = n := key_of_lookup hlook
    rw [hident.2.2.1, hname]
    exact hn
  · rintro ⟨q, hq, happ, rfl, hname⟩
    obtain ⟨e, he, hident⟩ := h.ident_iff.mp ⟨q, hq, happ, rfl⟩
    simp only [Permission.ident, Prod.mk.injEq] at hident
    refine ⟨e, List.mem_filterMap.mpr ⟨q.name, hname, ?_⟩, hident.1⟩
    exact (lookup_eq_some_iff (h.nodup_rows_names appId)).mpr ⟨he, hident.2.2.1⟩

/-! ### The constraints on the permissions -/

/-- The permissions have distinct ids. -/
lemma nodup_permissions_id (h : CatalogInput t uuid4 permissions defaultRoles) (appId : Id) :
    ((t.catalogPermissions uuid4 permissions appId).map Permission.id).Nodup := by
  have hold := congrArg (List.map Prod.fst) (h.map_ident_permissions appId)
  rw [List.map_map, List.map_map] at hold
  have hwithin : ∀ i < permissions.length,
      Draw.Within (max permissions.length defaultRoles.length) (.permission i) :=
    fun i hi => hi.le.trans (le_max_left _ _)
  rw [catalogPermissions, List.map_append]
  refine List.Nodup.append ?_ ?_ fun i hi hi' => ?_
  · exact hold ▸ h.constraints.permissionId
  · have hnames : ((t.catalogNew uuid4 appId permissions).map Permission.name).Nodup :=
      (h.nodup_rows_names appId).sublist ((List.sublist_append_right _ _).map _)
    rw [List.Nodup, List.pairwise_map] at hnames ⊢
    refine hnames.imp_of_mem fun {a b} ha hb hne hid => hne ?_
    obtain ⟨-, i, hi, hia, hna⟩ := of_mem_catalogNew ha
    obtain ⟨-, j, hj, hjb, hnb⟩ := of_mem_catalogNew hb
    have hij := h.fresh.injOn _ _ (hwithin i hi) (hwithin j hj) (hia.symm.trans (hid.trans hjb))
    obtain rfl := Draw.permission.inj hij
    exact Option.some.inj (hna.symm.trans hnb)
  · obtain ⟨q, hq, rfl⟩ := List.mem_map.mp hi'
    obtain ⟨-, k, hk, hid, -⟩ := of_mem_catalogNew hq
    obtain ⟨e, he, heq⟩ := List.mem_map.mp (hold ▸ hi)
    exact ((h.fresh.unused _ (hwithin k hk)).permissions e he).1 (heq.trans hid)

/-- The permissions of each application have distinct names. -/
lemma unique_permissions_name (h : CatalogInput t uuid4 permissions defaultRoles) (appId : Id) :
    Unique Permission.nameKey (t.catalogPermissions uuid4 permissions appId) := by
  refine Unique.append (Unique.of_map_eq (fun a b hab => ?_) (h.map_ident_permissions appId)
    h.constraints.permissionName) ?_ fun a ha b hb k hka hkb => ?_
  · simp only [Permission.ident, Prod.mk.injEq] at hab
    rw [Permission.nameKey, Permission.nameKey, hab.2.1, hab.2.2.1]
  · have hnames : ((t.catalogNew uuid4 appId permissions).map Permission.name).Nodup :=
      (h.nodup_rows_names appId).sublist ((List.sublist_append_right _ _).map _)
    rw [Unique, List.Nodup, List.pairwise_filterMap]
    rw [List.Nodup, List.pairwise_map] at hnames
    refine hnames.imp fun {a b} hne k hka k' hkb hk => hne ?_
    obtain ⟨_, _, rfl⟩ := Option.map_eq_some_iff.mp hka
    obtain ⟨_, _, rfl⟩ := Option.map_eq_some_iff.mp hkb
    exact (Prod.mk.inj hk).2
  · obtain ⟨app, happ, rfl⟩ := Option.map_eq_some_iff.mp hka
    obtain ⟨app', happ', hk⟩ := Option.map_eq_some_iff.mp hkb
    obtain ⟨rfl, hname⟩ := Prod.mk.inj hk
    obtain ⟨hnew, -⟩ := of_mem_catalogNew hb
    have hident := List.mem_map_of_mem (f := Permission.ident) ha
    rw [h.map_ident_permissions] at hident
    obtain ⟨e, he, heq⟩ := List.mem_map.mp hident
    simp only [Permission.ident, Prod.mk.injEq] at heq
    have hb' := (applicationId_of_mem_catalogNew hb).symm.trans happ'
    refine hnew e ((mem_catalogExisting h.constraints).mpr ⟨he, ?_⟩) ?_
    · exact heq.2.1.trans (happ.trans hb'.symm)
    · exact heq.2.2.1.trans hname.symm

end CatalogInput

end Tables

namespace SqlAlchemyStore

/-- In every reachable store the columns of a permission are the parts of its name. -/
theorem Reachable.parsed {s : SqlAlchemyStore} (h : s.Reachable) : s.tables.Parsed :=
  h.tables_invariant (by simp [Tables.Parsed, Tables.empty])
    fun _ _ _ _ hc _ hp hop => Tables.parsed_tables hc hp hop

end SqlAlchemyStore

end AuthzKit
