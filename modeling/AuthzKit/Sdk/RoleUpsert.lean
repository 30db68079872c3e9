import AuthzKit.Service.Roles

/-!
`AuthzAdminClient.upsert_role_with_permissions` of `authz_sdk/admin.py`, which the `bootstrap`
command runs for every role of its file.

The client looks for the name among all roles of the application, in the order in which the server
lists them: application-wide roles, the roles of every tenant and the internal roles of agents. The
first one gets the permissions; the other kinds are told apart by columns it does not read.

* `AdminClient.upsertRoleWithPermissions`: one call.
* `AdminClient.Reconciles`: what a call should come to; `Unambiguous` is when it does.
* `AdminClient.reconciles_iff`: whatever the order of the two lists, then and then only.
-/

namespace AuthzKit

open Keyed Links SqlAlchemyStore

namespace Tables

/-- The names of the permissions that a role is linked to. -/
def carriedNames (t : Tables) (roleId : Id) : Finset String :=
  ((t.permissions.filter fun q => (roleId, q.id) ∈ t.rolePermissions).map Permission.name).toFinset

/-- The tables with the links of one role made those of the given names. -/
def reconciled (t : Tables) (applicationId : Id) (permissions : Finset String) (roleId : Id) :
    Tables :=
  { t with
    rolePermissions := replace t.rolePermissions roleId
      (permissionIds (t.activePermissions (some applicationId) permissions))
      (others t.rolePermissions roleId) }

section Reconciled

variable {t : Tables} {applicationId : Id} {permissions : Finset String} {roleId : Id}

lemma others_reconciled_self : others (t.reconciled applicationId permissions roleId).rolePermissions
    roleId = permissionIds (t.activePermissions (some applicationId) permissions) :=
  others_replace

lemma others_reconciled_of_ne {other : Id} (h : other ≠ roleId) :
    others (t.reconciled applicationId permissions roleId).rolePermissions other =
      others t.rolePermissions other :=
  others_congr fun _ => mem_replace_of_ne h

/-- Links that are the wanted ones already stay as they are. -/
lemma reconciled_eq_self (h : others t.rolePermissions roleId =
    permissionIds (t.activePermissions (some applicationId) permissions)) :
    t.reconciled applicationId permissions roleId = t := by
  rw [reconciled, h, replace_self]

/-- Every name that is known is found. -/
lemma exists_active (hknown : ∀ n ∈ permissions, t.activePermission (some applicationId) n ≠ none)
    {n : String} (hn : n ∈ permissions) :
    ∃ q ∈ t.activePermissions (some applicationId) permissions, q.name = n := by
  obtain ⟨q, hq⟩ := Option.ne_none_iff_exists'.mp (hknown n hn)
  have hanswer := (t.answers_permissions (some applicationId) permissions).lookup n hn
  exact ⟨q, mem_of_lookup (hanswer.trans hq), key_of_lookup (hanswer.trans hq)⟩

/-- A role that is linked to the rows found carries exactly the names. -/
lemma carriedNames_of_others (hid : (t.permissions.map Permission.id).Nodup)
    (hknown : ∀ n ∈ permissions, t.activePermission (some applicationId) n ≠ none)
    (hothers : others t.rolePermissions roleId =
      permissionIds (t.activePermissions (some applicationId) permissions)) :
    t.carriedNames roleId = permissions := by
  ext n
  rw [carriedNames, List.mem_toFinset, List.mem_map]
  constructor
  · rintro ⟨q, hq, rfl⟩
    obtain ⟨hmem, hlink⟩ := List.mem_filter.mp hq
    have hi : q.id ∈ others t.rolePermissions roleId := mem_others.mpr (of_decide_eq_true hlink)
    rw [hothers, mem_permissionIds] at hi
    obtain ⟨q', hq', hids⟩ := hi
    obtain ⟨hmem', -, -, hname⟩ := of_mem_activePermissions hq'
    rwa [← List.inj_on_of_nodup_map hid hmem' hmem hids]
  · intro hn
    obtain ⟨q, hq, rfl⟩ := exists_active hknown hn
    have hi : q.id ∈ others t.rolePermissions roleId := by
      rw [hothers, mem_permissionIds]
      exact ⟨q, hq, rfl⟩
    refine ⟨q, List.mem_filter.mpr ⟨(of_mem_activePermissions hq).1, ?_⟩, rfl⟩
    exact decide_eq_true (mem_others.mp hi)

/-- A role of the application carries exactly the names when its links are the rows they find. -/
lemma carriedNames_eq_iff (hc : t.Constraints) (hw : t.WellFormed) {r : Role} (hr : r ∈ t.roles)
    (happ : r.applicationId = some applicationId)
    (hknown : ∀ n ∈ permissions, t.activePermission (some applicationId) n ≠ none) :
    t.carriedNames r.id = permissions ↔ others t.rolePermissions r.id =
      permissionIds (t.activePermissions (some applicationId) permissions) := by
  refine ⟨fun hnames => ?_, carriedNames_of_others hc.permissionId hknown⟩
  have hcarried : ∀ i, (r.id, i) ∈ t.rolePermissions → ∃ q ∈ t.permissions, q.id = i ∧
      q.applicationId = some applicationId := by
    intro i hi
    obtain ⟨r', hr', q, hq, hrid, hqid, htog⟩ := hw.permissionLinks _ hi
    obtain rfl := List.inj_on_of_nodup_map hc.roleId hr' hr hrid
    exact ⟨q, hq, hqid, htog.symm.trans happ⟩
  have hsame : ∀ q ∈ t.permissions, ∀ q' ∈ t.permissions, q.applicationId = some applicationId →
      q'.applicationId = some applicationId → q.name = q'.name → q = q' := by
    intro q hq q' hq' ha ha' hname
    exact hc.permissionName.eq_of_key hq hq' (k := (applicationId, q.name))
      (by simp [Permission.nameKey, ha]) (by simp [Permission.nameKey, ha', hname])
  ext i
  rw [mem_others, mem_permissionIds]
  constructor
  · intro hi
    obtain ⟨q, hq, rfl, happq⟩ := hcarried i hi
    have hname : q.name ∈ permissions := by
      rw [← hnames, carriedNames, List.mem_toFinset]
      exact List.mem_map_of_mem (by simp [hq, hi])
    obtain ⟨q', hq', hname'⟩ := exists_active hknown hname
    obtain ⟨hmem', happ', -, -⟩ := of_mem_activePermissions hq'
    exact ⟨q', hq', congrArg Permission.id (hsame q' hmem' q hq happ' happq hname')⟩
  · rintro ⟨q, hq, rfl⟩
    obtain ⟨hmem, happq, -, hname⟩ := of_mem_activePermissions hq
    rw [← hnames, carriedNames, List.mem_toFinset, List.mem_map] at hname
    obtain ⟨q', hq', hname'⟩ := hname
    obtain ⟨hmem', hlink⟩ := List.mem_filter.mp hq'
    have hlink' := of_decide_eq_true hlink
    obtain ⟨q'', hq'', hid, happ''⟩ := hcarried _ hlink'
    obtain rfl := List.inj_on_of_nodup_map hc.permissionId hq'' hmem' hid
    rwa [← hsame q'' hmem' q hmem happ'' happq hname']

end Reconciled

end Tables

/-! ### The client -/

/-- `AuthzAdminClient`: whom its credentials make it, at a service with an OAuth issuer. -/
structure AdminClient where
  oauthIssuer : String
  principal : Principal

/-- The arguments of `upsert_role_with_permissions`. -/
structure RoleUpsert where
  applicationId : String
  name : String
  permissions : List String
  scope : String
  description : Option String

namespace AdminClient

variable (c : AdminClient)

/-- The end of `upsert_role_with_permissions`: `set_role_permissions`, then the role. -/
def setPermissions (s : SqlAlchemyStore) (uuid4 : UuidSource) (permissions : List String)
    (role : RoleOut) : SqlAlchemyStore × Except AssignmentError RoleOut :=
  match (AssignmentRequest.setRolePermissions role.id permissions).handle c.oauthIssuer c.principal
      s uuid4 with
  | (s, .error e) => (s, .error e)
  | (s, .ok _) => (s, .ok role)

/-- `upsert_role_with_permissions`. -/
def upsertRoleWithPermissions (s : SqlAlchemyStore) (listing : Listing) (uuid4 : UuidSource)
    (u : RoleUpsert) : SqlAlchemyStore × Except AssignmentError RoleOut :=
  match listRoles c.principal s.tables listing u.applicationId with
  | .error e => (s, .error (.http e))
  | .ok roles =>
      match roles.find? fun r => r.name = u.name with
      | some role => c.setPermissions s uuid4 u.permissions role
      | none =>
          match createRole c.oauthIssuer c.principal s uuid4 u.applicationId
              ⟨u.name, u.scope, u.description, none⟩ with
          | (s, .error e) => (s, .error e)
          | (s, .ok role) => c.setPermissions s uuid4 u.permissions role

/-- **What a call should come to**: it returns; the application has an application-wide role of
that name that carries exactly the permissions; the permissions of the tenants' roles and of the
internal ones are what they were; and a second call changes nothing. -/
def Reconciles (s : SqlAlchemyStore) (listing listing' : Listing) (uuid4 uuid4' : UuidSource)
    (u : RoleUpsert) (app : Application) : Prop :=
  ∃ s₁ role, c.upsertRoleWithPermissions s listing uuid4 u = (s₁, .ok role) ∧
    (∃ r ∈ s₁.tables.roles, r.applicationId = some app.id ∧ r.name = u.name ∧ r.tenantId = none ∧
      r.agentId = none ∧ s₁.tables.carriedNames r.id = u.permissions.toFinset) ∧
    (∀ r ∈ s.tables.roles, (r.tenantId ≠ none ∨ r.agentId ≠ none) →
      others s₁.tables.rolePermissions r.id = others s.tables.rolePermissions r.id) ∧
    (c.upsertRoleWithPermissions s₁ listing' uuid4' u).1 = s₁

/-- The roles of the application that have the name. -/
def candidates (t : Tables) (app : Application) (u : RoleUpsert) : List Role :=
  t.roles.filter fun r => r.applicationId = some app.id ∧ r.name = u.name

/-- The name says which role is meant: no role of the application has it; or an application-wide
one has, and it is the only one, or all that have it carry exactly the permissions already. -/
def Unambiguous (t : Tables) (app : Application) (u : RoleUpsert) : Prop :=
  candidates t app u = [] ∨
    ∃ d ∈ candidates t app u, d.tenantId = none ∧ d.agentId = none ∧
      ((∀ r ∈ candidates t app u, r = d) ∨
        ∀ r ∈ candidates t app u, t.carriedNames r.id = u.permissions.toFinset)

/-- What the server accepts: the caller may write the application, the permissions are names of
active ones, and the scope is one. -/
structure Accepted (s : SqlAlchemyStore) (u : RoleUpsert) (app : Application) : Prop where
  mayWrite : MayWrite c.oauthIssuer c.principal s.tables u.applicationId app
  known : ∀ n ∈ u.permissions, s.tables.activePermission (some app.id) n ≠ none
  scope : (RoleScope.ofValue u.scope).isSome

variable {c} {s s' : SqlAlchemyStore} {listing : Listing} {uuid4 : UuidSource} {u : RoleUpsert}
  {app : Application}

lemma mem_candidates {t : Tables} {r : Role} :
    r ∈ candidates t app u ↔ r ∈ t.roles ∧ r.applicationId = some app.id ∧ r.name = u.name := by
  simp [candidates]

/-- A server that has the same applications and permissions accepts the same. -/
lemma Accepted.congr (h : c.Accepted s u app)
    (happs : s'.tables.applications = s.tables.applications)
    (hperms : s'.tables.permissions = s.tables.permissions) : c.Accepted s' u app where
  mayWrite :=
    { admin := h.mayWrite.admin
      found := by rw [Tables.findApplication, happs]; exact h.mayWrite.found
      manager := h.mayWrite.manager }
  known := fun n hn => by
    rw [Tables.activePermission, Tables.activePermissions, hperms]
    exact h.known n hn
  scope := h.scope

/-! ### One call -/

/-- The role that the client finds: the first one of that name. -/
def first (s : SqlAlchemyStore) (listing : Listing) (app : Application) (u : RoleUpsert) :
    Option Role :=
  (s.tables.listRolesForApplication listing app.id).find? fun r => r.name = u.name

lemma mem_of_first {r : Role} (h : first s listing app u = some r) :
    r ∈ candidates s.tables app u := by
  obtain ⟨hmem, happ⟩ := mem_listRolesForApplication.mp (List.mem_of_find?_eq_some h)
  exact mem_candidates.mpr ⟨hmem, happ, by simpa using List.find?_some h⟩

lemma first_eq_none_iff : first s listing app u = none ↔ candidates s.tables app u = [] := by
  rw [first, List.find?_eq_none, candidates, List.filter_eq_nil_iff]
  simp only [mem_listRolesForApplication, decide_eq_true_eq]
  exact ⟨fun h r hr hboth => h r ⟨hr, hboth.1⟩ hboth.2, fun h r hr hname => h r hr.1 ⟨hr.2, hname⟩⟩

variable (listing) in
/-- The list that the client reads, and what it finds there. -/
lemma find_listRoles (h : c.Accepted s u app) :
    ∃ roles, listRoles c.principal s.tables listing u.applicationId = .ok roles ∧
      (roles.find? fun r => r.name = u.name) = (first s listing app u).map Role.out := by
  refine ⟨_, h.mayWrite.listRoles_eq listing, ?_⟩
  rw [List.find?_map, first]
  rfl

variable (uuid4) in
/-- `set_role_permissions` for a role of the application. -/
lemma setPermissions_ok (h : c.Accepted s u app) {r : Role} (hr : r ∈ s.tables.roles)
    (happ : r.applicationId = some app.id) :
    ∃ s₁, c.setPermissions s uuid4 u.permissions r.out = (s₁, .ok r.out) ∧
      s₁.engine = s.engine ∧
      s₁.tables = s.tables.reconciled app.id u.permissions.toFinset r.id := by
  obtain ⟨s₁, out, hhandle, hengine, htables⟩ :=
    h.mayWrite.setRolePermissions_ok uuid4 hr happ h.known
  refine ⟨s₁, ?_, hengine, htables⟩
  have hid : r.out.id = r.id := rfl
  rw [setPermissions, hid, hhandle]

variable (uuid4) in
/-- **A call that finds the name** replaces the permissions of the first role that has it. -/
lemma upsert_found (h : c.Accepted s u app) {r : Role} (hfirst : first s listing app u = some r) :
    ∃ s₁, c.upsertRoleWithPermissions s listing uuid4 u = (s₁, .ok r.out) ∧
      s₁.engine = s.engine ∧
      s₁.tables = s.tables.reconciled app.id u.permissions.toFinset r.id := by
  obtain ⟨hr, happ, -⟩ := mem_candidates.mp (mem_of_first hfirst)
  obtain ⟨roles, hroles, hfind⟩ := find_listRoles listing h
  obtain ⟨s₁, hset, hrest⟩ := setPermissions_ok uuid4 h hr happ
  refine ⟨s₁, ?_, hrest⟩
  rw [upsertRoleWithPermissions, hroles]
  simp only [hfind, hfirst, Option.map_some, hset]

/-- A call that finds the name at a role whose links are the wanted ones changes nothing. -/
lemma upsert_found_self (h : c.Accepted s u app) {r : Role}
    (hfirst : first s listing app u = some r)
    (hids : others s.tables.rolePermissions r.id =
      Tables.permissionIds (s.tables.activePermissions (some app.id) u.permissions.toFinset)) :
    c.upsertRoleWithPermissions s listing uuid4 u = (s, .ok r.out) := by
  obtain ⟨s₁, hcall, hengine, htables⟩ := upsert_found uuid4 h hfirst
  rw [Tables.reconciled_eq_self hids] at htables
  rw [hcall, SqlAlchemyStore.ext' hengine htables]

variable (listing) in
/-- **A call that does not find the name** creates an application-wide role with the permissions. -/
lemma upsert_missing (h : c.Accepted s u app) (hf : Fresh uuid4 s.tables (Draw.Within 0))
    (hnone : candidates s.tables app u = []) :
    ∃ s₁ role, c.upsertRoleWithPermissions s listing uuid4 u = (s₁, .ok role.out) ∧
      role.id = uuid4 .row ∧ role.name = u.name ∧ role.applicationId = some app.id ∧
      role.tenantId = none ∧ role.agentId = none ∧
      s₁.tables = ({ s.tables with roles := s.tables.roles ++ [role] } : Tables).reconciled app.id
        u.permissions.toFinset role.id := by
  obtain ⟨roles, hroles, hfind⟩ := find_listRoles listing h
  obtain ⟨scope, hscope⟩ := Option.isSome_iff_exists.mp h.scope
  obtain ⟨s', role, hcreate, hid, hname, happ, hten, hagent, -, htables⟩ :=
    h.mayWrite.createRole_ok hf ⟨u.name, u.scope, u.description, none⟩ hscope rfl
  have h' : c.Accepted s' u app := h.congr (by rw [htables]) (by rw [htables])
  have hmem : role ∈ s'.tables.roles := by
    rw [htables]
    exact List.mem_append_right _ (List.mem_singleton_self role)
  obtain ⟨s₁, hset, -, htables₁⟩ := setPermissions_ok uuid4 h' hmem happ
  refine ⟨s₁, role, ?_, hid, hname, happ, hten, hagent, htables ▸ htables₁⟩
  rw [upsertRoleWithPermissions, hroles]
  simp only [hfind, first_eq_none_iff.mpr hnone, Option.map_none, hcreate, hset]

/-! ### Two calls -/

/-- The roles of the application do not change when links do. -/
lemma first_congr (h : s'.tables.roles = s.tables.roles) :
    first s' listing app u = first s listing app u := by
  rw [first, first, Tables.listRolesForApplication, Tables.listRolesForApplication, h]

/-- The order that lists a role first, if it lists it at all. -/
def Listing.startingWith (r : Role) : Listing where
  order := fun rows => if r ∈ rows then r :: rows.erase r else rows
  perm := fun rows => by
    split
    · rename_i hr
      exact (List.perm_cons_erase hr).symm
    · exact List.Perm.refl rows

lemma first_startingWith {r : Role} (h : r ∈ candidates s.tables app u) :
    first s (Listing.startingWith r) app u = some r := by
  obtain ⟨hr, happ, hname⟩ := mem_candidates.mp h
  have hmem : r ∈ s.tables.roles.filter fun r => r.applicationId = some app.id := by
    simp [hr, happ]
  rw [first, Tables.listRolesForApplication, Listing.startingWith]
  simp [hmem, hname]

/-- The names that a call has written are carried. -/
lemma carriedNames_reconciled (h : c.Accepted s u app) {id : Id} :
    (s.tables.reconciled app.id u.permissions.toFinset id).carriedNames id =
      u.permissions.toFinset :=
  Tables.carriedNames_of_others (t := s.tables.reconciled app.id u.permissions.toFinset id)
    s.constraints.permissionId (fun n hn => h.known n (List.mem_toFinset.mp hn))
    Tables.others_reconciled_self

/-- The permissions of a candidate, by its links. -/
lemma carries_iff (hreach : s.Reachable) (h : c.Accepted s u app) {r : Role}
    (hr : r ∈ candidates s.tables app u) :
    s.tables.carriedNames r.id = u.permissions.toFinset ↔ others s.tables.rolePermissions r.id =
      Tables.permissionIds (s.tables.activePermissions (some app.id) u.permissions.toFinset) := by
  obtain ⟨hmem, happ, -⟩ := mem_candidates.mp hr
  exact Tables.carriedNames_eq_iff s.constraints hreach.wellFormed hmem happ
    fun n hn => h.known n (List.mem_toFinset.mp hn)

/-- A name that nobody has: the first call creates the role, the second finds it. -/
lemma reconciles_of_missing (h : c.Accepted s u app) (hf : Fresh uuid4 s.tables (Draw.Within 0))
    (hnone : candidates s.tables app u = []) (listing listing' : Listing) (uuid4' : UuidSource) :
    c.Reconciles s listing listing' uuid4 uuid4' u app := by
  obtain ⟨s₁, role, hcall, hid, hname, happ, hten, hagent, htables⟩ :=
    upsert_missing listing h hf hnone
  have hmem : role ∈ s₁.tables.roles := by
    rw [htables]
    exact List.mem_append_right _ (List.mem_singleton_self role)
  have h' : c.Accepted s₁ u app := h.congr (by rw [htables]; rfl) (by rw [htables]; rfl)
  have hothers : others s₁.tables.rolePermissions role.id = Tables.permissionIds
      (s₁.tables.activePermissions (some app.id) u.permissions.toFinset) := by
    rw [htables]
    exact Tables.others_reconciled_self
  refine ⟨s₁, role.out, hcall, ⟨role, hmem, happ, hname, hten, hagent, ?_⟩, ?_, ?_⟩
  · exact Tables.carriedNames_of_others s₁.constraints.permissionId
      (fun n hn => h'.known n (List.mem_toFinset.mp hn)) hothers
  · intro r hr _
    rw [htables]
    exact Tables.others_reconciled_of_ne (hid ▸ (hf.unused .row (Nat.zero_le 0)).roles r hr |>.1)
  · -- the new role is the only one of that name
    have honly : ∀ r ∈ candidates s₁.tables app u, r = role := by
      intro r hr
      obtain ⟨hr, hra, hrn⟩ := mem_candidates.mp hr
      rw [htables] at hr
      rcases List.mem_append.mp hr with hr | hr
      · have hcand : r ∈ candidates s.tables app u := mem_candidates.mpr ⟨hr, hra, hrn⟩
        rw [hnone] at hcand
        cases hcand
      · exact List.mem_singleton.mp hr
    cases hfirst : first s₁ listing' app u with
    | none =>
        have hcand : role ∈ candidates s₁.tables app u := mem_candidates.mpr ⟨hmem, happ, hname⟩
        rw [first_eq_none_iff.mp hfirst] at hcand
        cases hcand
    | some r =>
        obtain rfl := honly r (mem_of_first hfirst)
        rw [upsert_found_self h' hfirst hothers]

/-- **Two calls that find the name**, by the roles they find: each of these carries the
permissions already, or it is the one that the first call writes; and that one is application-wide
unless it is left as it is. -/
lemma reconciles_found_iff (hreach : s.Reachable) (h : c.Accepted s u app)
    {listing' : Listing} {uuid4' : UuidSource} {r r' : Role}
    (hfirst : first s listing app u = some r) (hfirst' : first s listing' app u = some r') :
    c.Reconciles s listing listing' uuid4 uuid4' u app ↔
      (∃ d ∈ candidates s.tables app u, d.tenantId = none ∧ d.agentId = none ∧
        (d = r ∨ s.tables.carriedNames d.id = u.permissions.toFinset)) ∧
      ((r.tenantId = none ∧ r.agentId = none) ∨
        s.tables.carriedNames r.id = u.permissions.toFinset) ∧
      (r' = r ∨ s.tables.carriedNames r'.id = u.permissions.toFinset) := by
  have hr := mem_of_first hfirst
  have hr' := mem_of_first hfirst'
  obtain ⟨s₁, hcall, hengine, htables⟩ := upsert_found uuid4 h hfirst
  have h₁ : c.Accepted s₁ u app := h.congr (by rw [htables]; rfl) (by rw [htables]; rfl)
  have hroles : s₁.tables.roles = s.tables.roles := by rw [htables]; rfl
  have hfirst₁ : first s₁ listing' app u = some r' := (first_congr hroles).trans hfirst'
  obtain ⟨s₂, hcall₂, hengine₂, htables₂⟩ := upsert_found uuid4' h₁ hfirst₁
  have hids : ∀ x ∈ candidates s.tables app u, x.id = r.id → x = r := fun x hx hid =>
    List.inj_on_of_nodup_map s.constraints.roleId (mem_candidates.mp hx).1 (mem_candidates.mp hr).1
      hid
  -- what the roles other than the one written carry, before and after
  have hother : ∀ x ∈ candidates s.tables app u, x ≠ r →
      others s₁.tables.rolePermissions x.id = others s.tables.rolePermissions x.id :=
    fun x hx hne => by
      rw [htables]
      exact Tables.others_reconciled_of_ne fun hid => hne (hids x hx hid)
  have hself : others s₁.tables.rolePermissions r.id = Tables.permissionIds
      (s.tables.activePermissions (some app.id) u.permissions.toFinset) := by
    rw [htables]
    exact Tables.others_reconciled_self
  have hactive : s₁.tables.activePermissions (some app.id) u.permissions.toFinset =
      s.tables.activePermissions (some app.id) u.permissions.toFinset := by rw [htables]; rfl
  have hcarried : ∀ x ∈ candidates s.tables app u,
      s₁.tables.carriedNames x.id = u.permissions.toFinset ↔
        x = r ∨ s.tables.carriedNames x.id = u.permissions.toFinset := by
    intro x hx
    by_cases hxr : x = r
    · subst hxr
      rw [htables]
      exact iff_of_true (carriedNames_reconciled h) (Or.inl rfl)
    · have hperms : s₁.tables.permissions = s.tables.permissions := by rw [htables]; rfl
      have hlinks : ∀ i, (x.id, i) ∈ s₁.tables.rolePermissions ↔
          (x.id, i) ∈ s.tables.rolePermissions := fun i => by
        rw [← mem_others, ← mem_others, hother x hx hxr]
      simp only [hxr, false_or, Tables.carriedNames, hperms, hlinks]
  have hsecond : (c.upsertRoleWithPermissions s₁ listing' uuid4' u).1 = s₁ ↔
      r' = r ∨ s.tables.carriedNames r'.id = u.permissions.toFinset := by
    rw [← hcarried r' hr']
    constructor
    · intro heq
      have hlinks : others s₁.tables.rolePermissions r'.id = Tables.permissionIds
          (s₁.tables.activePermissions (some app.id) u.permissions.toFinset) := by
        conv_lhs => rw [← heq, hcall₂, htables₂]
        exact Tables.others_reconciled_self
      exact Tables.carriedNames_of_others s₁.constraints.permissionId
        (fun n hn => h₁.known n (List.mem_toFinset.mp hn)) hlinks
    · intro hnames
      refine congrArg Prod.fst (upsert_found_self h₁ hfirst₁ ?_)
      rcases (hcarried r' hr').mp hnames with rfl | hold
      · rw [hself, hactive]
      · by_cases hne : r' = r
        · rw [hne, hself, hactive]
        · rw [hother r' hr' hne, hactive]
          exact (carries_iff hreach h hr').mp hold
  constructor
  · rintro ⟨s₁', role, hcall', ⟨d, hd, happ, hname, hten, hagent, hnames⟩, hframe, hagain⟩
    obtain ⟨rfl, -⟩ := Prod.mk.inj (hcall'.symm.trans hcall)
    have hd' : d ∈ candidates s.tables app u := mem_candidates.mpr ⟨hroles ▸ hd, happ, hname⟩
    refine ⟨⟨d, hd', hten, hagent, (hcarried d hd').mp hnames⟩, ?_, hsecond.mp hagain⟩
    by_cases hwide : r.tenantId = none ∧ r.agentId = none
    · exact Or.inl hwide
    · have hbound : r.tenantId ≠ none ∨ r.agentId ≠ none := by tauto
      have hkept := hframe r (mem_candidates.mp hr).1 hbound
      exact Or.inr ((carries_iff hreach h hr).mpr (hkept.symm.trans hself))
  · rintro ⟨⟨d, hd, hten, hagent, hcarries⟩, hwide, hagain⟩
    obtain ⟨hdmem, happ, hname⟩ := mem_candidates.mp hd
    refine ⟨s₁, r.out, hcall, ⟨d, hroles ▸ hdmem, happ, hname, hten, hagent,
      (hcarried d hd).mpr hcarries⟩, fun x hx hbound => ?_, hsecond.mpr hagain⟩
    by_cases hid : x.id = r.id
    · have hxr : x = r :=
        List.inj_on_of_nodup_map s.constraints.roleId hx (mem_candidates.mp hr).1 hid
      subst hxr
      rcases hwide with hwide | hold
      · exact absurd hwide (by tauto)
      · rw [hself, (carries_iff hreach h hr).mp hold]
    · rw [htables]
      exact Tables.others_reconciled_of_ne hid

/-! ### Every order -/

/-- **When `upsert_role_with_permissions` reconciles the application-wide role and nothing else**,
in every reachable state and for what the server accepts: whatever the order of the two lists,
exactly when the name is unambiguous. -/
theorem reconciles_iff (hreach : s.Reachable) (h : c.Accepted s u app)
    (hf : Fresh uuid4 s.tables (Draw.Within 0)) :
    (∀ (listing listing' : Listing) (uuid4' : UuidSource),
      c.Reconciles s listing listing' uuid4 uuid4' u app) ↔ Unambiguous s.tables app u := by
  rw [Unambiguous]
  by_cases hnone : candidates s.tables app u = []
  · exact iff_of_true (fun listing listing' uuid4' =>
      reconciles_of_missing h hf hnone listing listing' uuid4') (Or.inl hnone)
  · rw [or_iff_right hnone]
    constructor
    · intro hall
      have hlaw : ∀ r ∈ candidates s.tables app u, ∀ r' ∈ candidates s.tables app u, _ :=
        fun r hr r' hr' => (reconciles_found_iff hreach h (first_startingWith hr)
          (first_startingWith hr')).mp (hall _ _ uuid4)
      obtain ⟨r, hr⟩ := List.exists_mem_of_ne_nil _ hnone
      obtain ⟨⟨d, hd, hten, hagent, -⟩, -, -⟩ := hlaw r hr r hr
      refine ⟨d, hd, hten, hagent, ?_⟩
      by_cases honly : ∀ x ∈ candidates s.tables app u, x = d
      · exact Or.inl honly
      · push Not at honly
        obtain ⟨x, hx, hxd⟩ := honly
        refine Or.inr fun y hy => ?_
        -- a list that starts with another role finds this one the second time
        by_cases hyd : y = d
        · exact ((hlaw x hx y hy).2.2).resolve_left fun hyx => hxd (hyx ▸ hyd)
        · exact ((hlaw d hd y hy).2.2).resolve_left hyd
    · rintro ⟨d, hd, hten, hagent, hcase⟩ listing listing' uuid4'
      have hsome : ∀ l : Listing, ∃ r, first s l app u = some r := fun l =>
        Option.ne_none_iff_exists'.mp fun hn => hnone (first_eq_none_iff.mp hn)
      obtain ⟨r, hfirst⟩ := hsome listing
      obtain ⟨r', hfirst'⟩ := hsome listing'
      have hr := mem_of_first hfirst
      have hr' := mem_of_first hfirst'
      rw [reconciles_found_iff hreach h hfirst hfirst']
      rcases hcase with honly | hcarried
      · rw [honly r hr, honly r' hr']
        exact ⟨⟨d, hd, hten, hagent, Or.inl rfl⟩, Or.inl ⟨hten, hagent⟩, Or.inl rfl⟩
      · exact ⟨⟨d, hd, hten, hagent, Or.inr (hcarried d hd)⟩, Or.inr (hcarried r hr),
          Or.inr (hcarried r' hr')⟩

/-! ### A run -/

/-- The order of the table. -/
def Listing.plain : Listing := ⟨id, List.Perm.refl⟩

/-- The application of the sample store. -/
def crm : Application := ⟨sampleIds 1 .application, "crm", "CRM", "active", none⟩

/-- An admin key. -/
def adminKey : AdminClient := ⟨"", .apiKey "k" [scopeAdmin] none⟩

/-- A role of this name with the one permission of the application. -/
def reading (name : String) : RoleUpsert := ⟨"crm", name, ["deal.read"], "application", none⟩

lemma accepted_reading (name : String) : adminKey.Accepted acmeStore (reading name) crm where
  mayWrite :=
    { admin := by decide
      found := (by decide +kernel : acmeStore.tables.findApplication "crm" = some crm)
      manager := Or.inl rfl }
  known := (by decide +kernel : ∀ n ∈ ["deal.read"],
    acmeStore.tables.activePermission (some crm.id) n ≠ none)
  scope := (by decide +kernel : (RoleScope.ofValue "application").isSome)

/-- The default role `viewer` is reconciled. -/
theorem reconciles_viewer : adminKey.Reconciles acmeStore Listing.plain Listing.plain (sampleIds 5)
    (sampleIds 6) (reading "viewer") crm :=
  (reconciles_iff acmeStore_reachable (accepted_reading "viewer") (by decide +kernel)).mpr
    (Or.inr ⟨⟨sampleIds 1 (.role 0), none, some (sampleIds 1 .application), "viewer", .application,
      none, false, none⟩, by decide +kernel, rfl, rfl, Or.inl (by decide +kernel)⟩) _ _ _

/-- A name that only a role of a tenant has: this role gets the permissions, and the application
has no role of that name. -/
theorem upsert_overwrites_tenant_role :
    acmeStore.Reachable ∧ adminKey.Accepted acmeStore (reading "agent:bot") crm ∧
      Fresh (sampleIds 5) acmeStore.tables (Draw.Within 0) ∧
      ¬adminKey.Reconciles acmeStore Listing.plain Listing.plain (sampleIds 5) (sampleIds 6)
        (reading "agent:bot") crm := by
  refine ⟨acmeStore_reachable, accepted_reading _, by decide +kernel, fun hlaw => ?_⟩
  have hfirst : first acmeStore Listing.plain crm (reading "agent:bot") =
      some ⟨sampleIds 2 .row, some (sampleIds 0 .row), some (sampleIds 1 .application),
        "agent:bot", .tenant, none, false, none⟩ := by decide +kernel
  obtain ⟨⟨d, hd, hten, -⟩, -⟩ := (reconciles_found_iff acmeStore_reachable (accepted_reading _)
    hfirst hfirst).mp hlaw
  have hbound : ∀ x ∈ candidates acmeStore.tables crm (reading "agent:bot"),
      x.tenantId ≠ none := by decide +kernel
  exact hbound d hd hten

end AdminClient

end AuthzKit
