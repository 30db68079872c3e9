import AuthzKit.Storage.Evolution

/-!
What `apply_application_catalog` may do.

Everything it writes is filed under one application: permissions of that
application, its default roles, and the links of those roles.

* `CatalogEffect`: that, table by table; `applyApplicationCatalog_effect`.
* `applyApplicationCatalog_evolves`: it keeps the tables well formed.
-/

namespace AuthzKit

open Keyed Links

namespace Tables

variable {t t' : Tables} {uuid4 : UuidSource} {appId : Id} {permissions : List CatalogPermission}
  {defaultRoles : List CatalogRole}

/-- A default role of the application. -/
def DefaultRole (appId : Id) (r : Role) : Prop :=
  r.applicationId = some appId ∧ r.tenantId = none ∧ r.agentId = none

/-! ### Permissions -/

lemma of_mem_catalogExisting {q : Permission} (h : q ∈ t.catalogExisting appId) :
    q ∈ t.permissions ∧ q.applicationId = some appId := by
  simpa using mem_of_mem_ofList h

/-- A row the permission loop leaves is an existing one or new, of the
application. -/
lemma permissionRow_cases {existing : List Permission} (spec : CatalogPermission) (i : ℕ) :
    ((permissionRow uuid4 appId existing spec i).2 = false ∧
        ∃ e ∈ existing, (permissionRow uuid4 appId existing spec i).1.ident = e.ident) ∨
      ((permissionRow uuid4 appId existing spec i).2 = true ∧
        (permissionRow uuid4 appId existing spec i).1.applicationId = some appId) := by
  rw [permissionRow]
  cases hl : lookup Permission.name existing spec.name with
  | some row => exact Or.inl ⟨rfl, row, mem_of_lookup hl, rfl⟩
  | none => exact Or.inr ⟨rfl, rfl⟩

lemma of_mem_catalogRows {p : Permission × Bool} (h : p ∈ t.catalogRows uuid4 appId permissions) :
    (p.2 = false ∧ ∃ e ∈ t.catalogExisting appId, p.1.ident = e.ident) ∨
      (p.2 = true ∧ p.1.applicationId = some appId) := by
  obtain ⟨⟨spec, i⟩, -, rfl⟩ := List.mem_map.mp h
  exact permissionRow_cases spec i

/-- The rows written back are permissions of the application. -/
lemma of_mem_catalogWrites {q : Permission}
    (h : q ∈ t.catalogWritten uuid4 appId permissions ++ t.catalogDeprecated appId permissions) :
    q.ident ∈ t.permissions.map Permission.ident ∧ q.applicationId = some appId := by
  have hident : ∃ e ∈ t.catalogExisting appId, q.ident = e.ident := by
    rcases List.mem_append.mp h with h | h
    · obtain ⟨p, hp, rfl⟩ := List.mem_map.mp h
      obtain ⟨hp, hflag⟩ := List.mem_filter.mp hp
      rcases of_mem_catalogRows hp with ⟨-, he⟩ | ⟨htrue, -⟩
      · exact he
      · simp [htrue] at hflag
    · obtain ⟨e, he, rfl⟩ := List.mem_map.mp h
      exact ⟨e, (List.mem_filter.mp he).1, rfl⟩
  obtain ⟨e, he, hq⟩ := hident
  obtain ⟨hmem, happ⟩ := of_mem_catalogExisting he
  simp only [Permission.ident, Prod.mk.injEq] at hq
  exact ⟨List.mem_map.mpr ⟨e, hmem, by simp [Permission.ident, hq]⟩, hq.2.1.trans happ⟩

lemma applicationId_of_mem_catalogNew {q : Permission}
    (h : q ∈ t.catalogNew uuid4 appId permissions) : q.applicationId = some appId := by
  obtain ⟨p, hp, rfl⟩ := List.mem_map.mp h
  obtain ⟨hp, hflag⟩ := List.mem_filter.mp hp
  rcases of_mem_catalogRows hp with ⟨hfalse, -⟩ | ⟨-, happ⟩
  · simp [hfalse] at hflag
  · exact happ

/-! ### Default roles -/

lemma of_mem_catalogFound {r : Role} (h : r ∈ t.catalogFound appId) :
    r ∈ t.roles ∧ DefaultRole appId r := by
  obtain ⟨hr, happ, hten, hagent⟩ := of_mem_namedRoles (mem_of_mem_ofList h)
  exact ⟨hr, happ, hten, hagent⟩

/-- What the loop over the default roles keeps true: the roles found keep their
identity, and those added are default roles with new ids and new names. -/
structure CatalogRolesInv (uuid4 : UuidSource) (appId : Id) (rows : List Role) (n : ℕ)
    (acc : CatalogRoles) : Prop where
  found : acc.found.map Role.ident = rows.map Role.ident
  added : ∀ r ∈ acc.added, DefaultRole appId r ∧ (∃ i < n, r.id = uuid4 (.role i)) ∧
    r.name ∉ rows.map Role.name

/-- One iteration keeps it. -/
lemma catalogRole_inv {found : List Role} {n : ℕ} {acc : CatalogRoles} {spec : CatalogRole}
    (hnodup : (found.map Role.name).Nodup) (h : CatalogRolesInv uuid4 appId found n acc) :
    CatalogRolesInv uuid4 appId found (n + 1) (catalogRole uuid4 appId acc (spec, n)) := by
  have hnames : acc.found.map Role.name = found.map Role.name := by
    have := congrArg (List.map fun i => i.2.2.2.1) h.found
    simpa [List.map_map, Function.comp_def] using this
  have hadded : ∀ r ∈ acc.added, DefaultRole appId r ∧ (∃ i < n + 1, r.id = uuid4 (.role i)) ∧
      r.name ∉ found.map Role.name := fun r hr => by
    obtain ⟨hdef, ⟨i, hi, hid⟩, hname⟩ := h.added r hr
    exact ⟨hdef, ⟨i, Nat.lt_succ_of_lt hi, hid⟩, hname⟩
  rw [catalogRole]
  cases hl : lookup Role.name (acc.found ++ acc.added) spec.name with
  | none =>
      refine ⟨h.found, fun r hr => ?_⟩
      rcases List.mem_append.mp hr with hr | hr
      · exact hadded r hr
      · obtain rfl := List.mem_singleton.mp hr
        refine ⟨⟨rfl, rfl, rfl⟩, ⟨n, Nat.lt_succ_self n, rfl⟩, fun hname => ?_⟩
        obtain ⟨r₀, hr₀, hname⟩ := List.mem_map.mp (hnames ▸ hname)
        exact lookup_eq_none_iff.mp hl r₀ (List.mem_append_left _ hr₀) hname
  | some role =>
      -- a name is found or added, never both, so one of the two writes does nothing
      rcases List.mem_append.mp (mem_of_lookup hl) with hrole | hrole
      · have hupdate : update Role.name acc.added
            { role with description := spec.description } = acc.added := by
          rw [update]
          conv_rhs => rw [← List.map_id acc.added]
          refine List.map_congr_left fun r hr => if_neg fun hname => (h.added r hr).2.2 ?_
          rw [← hnames, show r.name = role.name from hname]
          exact List.mem_map_of_mem hrole
        refine ⟨?_, by simpa only [hupdate] using hadded⟩
        rw [← h.found]
        refine map_update _ fun r hr hname => ?_
        rw [List.inj_on_of_nodup_map (hnames ▸ hnodup) hr hrole hname]
      · have hnew := (h.added role hrole).2.2
        refine ⟨?_, fun r hr => ?_⟩
        · rw [← h.found]
          refine map_update _ fun r hr hname => absurd ?_ hnew
          exact hnames ▸ hname ▸ List.mem_map_of_mem hr
        · rcases mem_update.mp hr with ⟨rfl, -⟩ | ⟨hr, -⟩
          · exact hadded role hrole
          · exact hadded r hr

variable (t uuid4 appId defaultRoles) in
/-- The loop over the default roles keeps it. -/
lemma catalogRoles_inv :
    CatalogRolesInv uuid4 appId (t.catalogFound appId) defaultRoles.length
      (t.catalogRoles uuid4 appId defaultRoles) := by
  have haux : ∀ (specs : List CatalogRole) (n : ℕ) (acc : CatalogRoles),
      CatalogRolesInv uuid4 appId (t.catalogFound appId) n acc →
      CatalogRolesInv uuid4 appId (t.catalogFound appId) (n + specs.length)
        ((specs.zipIdx n).foldl (catalogRole uuid4 appId) acc) := by
    intro specs
    induction specs with
    | nil => exact fun n acc h => h
    | cons spec specs ih =>
        intro n acc h
        rw [List.zipIdx_cons, List.foldl_cons, List.length_cons, Nat.add_comm specs.length 1,
          ← Nat.add_assoc]
        exact ih (n + 1) _ (catalogRole_inv (nodup_ofList _) h)
  simpa [catalogRoles] using
    haux defaultRoles 0 ⟨t.catalogFound appId, [], 0, 0⟩ ⟨rfl, by simp⟩

/-! ### The effect -/

/-- What a catalog of the application `appId` may change. -/
structure CatalogEffect (t t' : Tables) (uuid4 : UuidSource) (appId : Id) : Prop where
  applications :
    ∀ r ∈ t'.applications, r.id ∈ t.applications.map Application.id ∨ Uuid.Canonical r.id
  permissions : Keeps Permission.ident t.permissions t'.permissions
  otherPermissions : ∀ p : Permission → Bool, (∀ q q', q.ident = q'.ident → p q = p q') →
    (∀ q, q.applicationId = some appId → p q = false) →
    t'.permissions.filter p = t.permissions.filter p
  roles : Keeps Role.ident t.roles t'.roles
  newRoles : ∀ r ∈ t'.roles, r.ident ∈ t.roles.map Role.ident ∨ DefaultRole appId r
  otherRoles : ∀ p : Role → Bool, (∀ r r', r.ident = r'.ident → p r = p r') →
    (∀ r, DefaultRole appId r → p r = false) → t'.roles.filter p = t.roles.filter p
  links : ∀ p ∈ t'.rolePermissions, p ∈ t.rolePermissions ∨ t'.PermissionLink p
  otherLinks : ∀ r ∈ t.roles, ¬DefaultRole appId r →
    ∀ i, (r.id, i) ∈ t'.rolePermissions ↔ (r.id, i) ∈ t.rolePermissions
  tenants : t'.tenants = t.tenants
  users : t'.users = t.users
  externalIdentities : t'.externalIdentities = t.externalIdentities
  memberships : t'.memberships = t.memberships
  membershipRoles : t'.membershipRoles = t.membershipRoles
  agents : t'.agents = t.agents
  agentRoles : t'.agentRoles = t.agentRoles
  masks : t'.tenantPermissionMasks = t.tenantPermissionMasks

lemma catalogApplication_ids (slug name : String) (managedBy : Option String)
    {drawn : Draw → Prop} (hf : Fresh uuid4 t drawn) (hd : drawn .application) :
    ∀ r ∈ (t.catalogApplication uuid4 slug name managedBy).1,
      r.id ∈ t.applications.map Application.id ∨ Uuid.Canonical r.id := by
  intro r hr
  rw [catalogApplication] at hr
  cases hl : lookup Application.slug t.applications slug with
  | none =>
      rw [hl] at hr
      rcases List.mem_append.mp hr with hr | hr
      · exact Or.inl (List.mem_map_of_mem hr)
      · obtain rfl := List.mem_singleton.mp hr
        exact Or.inr (hf.canonical .application hd)
  | some app =>
      rw [hl] at hr
      exact Or.inl (mem_update_id hr)

/-- **A catalog writes under its application only.** -/
theorem applyApplicationCatalog_effect {slug name : String} {managedBy : Option String}
    {result : CatalogResult} (hc : t.Constraints)
    (hf : Fresh uuid4 t (Draw.Within (max permissions.length defaultRoles.length)))
    (h : t.applyApplicationCatalog uuid4 slug name permissions defaultRoles managedBy
      = .ok (t', result)) : CatalogEffect t t' uuid4 result.applicationId := by
  rw [applyApplicationCatalog] at h
  simp only at h
  split at h
  · cases h
  · obtain ⟨rfl, rfl⟩ := Prod.mk.inj (Except.ok.inj h)
    have happs := catalogApplication_ids slug name managedBy hf (Nat.zero_le _)
    generalize (t.catalogApplication uuid4 slug name managedBy).2 = appId at *
    generalize (t.catalogApplication uuid4 slug name managedBy).1 = applications at *
    have hpident : ∀ a b : Permission, a.ident = b.ident → a.id = b.id :=
      fun a b hab => (Prod.mk.inj hab).1
    have hrident : ∀ a b : Role, a.ident = b.ident → a.id = b.id :=
      fun a b hab => (Prod.mk.inj hab).1
    have hinv := catalogRoles_inv t uuid4 appId defaultRoles
    -- the roles written back are default roles that were there
    have hfound : ∀ r ∈ (t.catalogRoles uuid4 appId defaultRoles).found,
        r.ident ∈ t.roles.map Role.ident ∧ DefaultRole appId r := by
      intro r hr
      have hmem : r.ident ∈ (t.catalogFound appId).map Role.ident :=
        hinv.found ▸ List.mem_map_of_mem hr
      obtain ⟨r₀, hr₀, hident⟩ := List.mem_map.mp hmem
      obtain ⟨hr₀, hdef⟩ := of_mem_catalogFound hr₀
      refine ⟨hident ▸ List.mem_map_of_mem hr₀, ?_⟩
      simp only [Role.ident, Prod.mk.injEq] at hident
      exact ⟨hident.2.2.1 ▸ hdef.1, hident.2.1 ▸ hdef.2.1, hident.2.2.2.2 ▸ hdef.2.2⟩
    have hadded := hinv.added
    have hwrites : ∀ q ∈ t.catalogWritten uuid4 appId permissions ++
        t.catalogDeprecated appId permissions, q.ident ∈ t.permissions.map Permission.ident :=
      fun q hq => (of_mem_catalogWrites hq).1
    have hpmap := map_updateAll_ident hpident hc.permissionId hwrites
    have hrmap := map_updateAll_ident hrident hc.roleId fun r hr => (hfound r hr).1
    have hrole : ∀ r, r ∈ (t.catalogRoles uuid4 appId defaultRoles).found ++
        (t.catalogRoles uuid4 appId defaultRoles).added → DefaultRole appId r ∧
          (r.ident ∈ t.roles.map Role.ident ∨ ∃ i < defaultRoles.length, r.id = uuid4 (.role i)) :=
      fun r hr => (List.mem_append.mp hr).elim
        (fun hr => ⟨(hfound r hr).2, Or.inl (hfound r hr).1⟩)
        (fun hr => ⟨(hadded r hr).1, Or.inr (hadded r hr).2.1⟩)
    exact
      { applications := happs
        permissions := by
          rw [Keeps, List.map_append, hpmap]
          exact List.subset_append_left _ _
        otherPermissions := fun p hident happ => by
          have hnew : (t.catalogNew uuid4 appId permissions).filter p = [] :=
            List.filter_eq_nil_iff.mpr fun q hq => by
              simp [happ q (applicationId_of_mem_catalogNew hq)]
          rw [List.filter_append, filter_updateAll_ident hpident hident hc.permissionId
            fun q hq => ⟨(of_mem_catalogWrites hq).1, happ q (of_mem_catalogWrites hq).2⟩,
            hnew, List.append_nil]
        roles := by
          rw [Keeps, List.map_append, hrmap]
          exact List.subset_append_left _ _
        newRoles := fun r hr => by
          rcases List.mem_append.mp hr with hr | hr
          · exact Or.inl (hrmap ▸ List.mem_map_of_mem hr)
          · exact Or.inr (hadded r hr).1
        otherRoles := fun p hident hdef => by
          have hnew : (t.catalogRoles uuid4 appId defaultRoles).added.filter p = [] :=
            List.filter_eq_nil_iff.mpr fun r hr => by simp [hdef r (hadded r hr).1]
          rw [List.filter_append, filter_updateAll_ident hrident hident hc.roleId
            fun r hr => ⟨(hfound r hr).1, hdef r (hfound r hr).2⟩, hnew, List.append_nil]
        links := fun p hp => by
          rcases mem_of_mem_replaceAll hp with hp | ⟨c, hc', hp1, hp2⟩
          · exact Or.inl hp
          · obtain ⟨spec, -, hspec⟩ := List.mem_filterMap.mp hc'
            obtain ⟨role, hlook, rfl⟩ := Option.map_eq_some_iff.mp hspec
            obtain ⟨q, hq, hqid⟩ := mem_permissionIds.mp hp2
            obtain ⟨perm, -, hq⟩ := List.mem_filterMap.mp hq
            have hq := List.mem_append.mp (mem_of_lookup hq)
            have hr := mem_of_lookup hlook
            have hpair : p = (role.id, q.id) := Prod.ext hp1 hqid.symm
            rw [hpair]
            refine Or.inr (permissionLink_of_ident ?_ ?_ ?_)
            · rw [List.map_append, hrmap]
              rcases List.mem_append.mp hr with hr | hr
              · exact List.mem_append_left _ (hfound role hr).1
              · exact List.mem_append_right _ (List.mem_map_of_mem hr)
            · rw [List.map_append, hpmap]
              rcases hq with hq | hq
              · exact List.mem_append_left _ (List.mem_map_of_mem (of_mem_catalogExisting hq).1)
              · exact List.mem_append_right _ (List.mem_map_of_mem hq)
            · refine (hrole role hr).1.1.trans ?_
              rcases hq with hq | hq
              · exact (of_mem_catalogExisting hq).2.symm
              · exact (applicationId_of_mem_catalogNew hq).symm
        otherLinks := fun r hr hother i => by
          refine mem_replaceAll_of_forall_ne fun c hc' heq => ?_
          obtain ⟨spec, -, hspec⟩ := List.mem_filterMap.mp hc'
          obtain ⟨role, hlook, rfl⟩ := Option.map_eq_some_iff.mp hspec
          obtain ⟨hdef, hident | ⟨k, hk, hid⟩⟩ := hrole role (mem_of_lookup hlook)
          · obtain ⟨r₀, hr₀, hident⟩ := List.mem_map.mp hident
            have hid := (hrident r₀ role hident).trans heq.symm
            rw [List.inj_on_of_nodup_map hc.roleId hr₀ hr hid] at hident
            simp only [Role.ident, Prod.mk.injEq] at hident
            exact hother ⟨hident.2.2.1.trans hdef.1, hident.2.1.trans hdef.2.1,
              hident.2.2.2.2.trans hdef.2.2⟩
          · exact ((hf.unused (.role k) (hk.le.trans (le_max_right _ _))).roles r hr).1
              (heq.trans hid)
        tenants := rfl
        users := rfl
        externalIdentities := rfl
        memberships := rfl
        membershipRoles := rfl
        agents := rfl
        agentRoles := rfl
        masks := rfl }

/-- A catalog keeps the tables well formed. -/
lemma CatalogEffect.evolves (h : CatalogEffect t t' uuid4 appId) : Evolves t t' where
  tenants := fun r hr => Or.inl (List.mem_map_of_mem (h.tenants ▸ hr))
  applications := h.applications
  users := by rw [h.users]; exact List.Subset.refl _
  identities := ⟨[], by simp [h.externalIdentities]⟩
  memberships := by rw [h.memberships]; exact List.Subset.refl _
  permissions := h.permissions
  agents := by rw [h.agents]; exact List.Subset.refl _
  roles := fun r hr => (h.newRoles r hr).imp_right fun hdef => internalRole_of_named hdef.2.2
  membershipRoles := links_unchanged h.membershipRoles h.roles
  agentRoles := links_unchanged h.agentRoles h.roles
  rolePermissions := fun p hp => (h.links p hp).imp_left fun hp =>
    ⟨hp, fun _ hr _ => h.roles (List.mem_map_of_mem hr)⟩

end Tables

end AuthzKit
