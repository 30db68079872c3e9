import AuthzKit.Storage.CatalogRows

/-!
The default roles a catalog leaves.

The loop over the default roles finds or adds one role for each name, and a later
entry of a name overwrites the description of an earlier one (`described`).

* `CatalogRolesDone`: what the loop has done; `catalogRoles_done`.
* `CatalogInput.lookup_catalogFound`: a second catalog finds these roles again, and
  `catalogRoles_again`: it leaves them as they are.
-/

namespace AuthzKit

open Keyed Links

namespace Tables

variable {t : Tables} {uuid4 : UuidSource} {appId : Id} {permissions : List CatalogPermission}
  {defaultRoles : List CatalogRole}

/-! ### Descriptions -/

/-- The role with the description one entry gives it. -/
def redescribe (spec : CatalogRole) (r : Role) : Role :=
  if r.name = spec.name then { r with description := spec.description } else r

/-- The role with the description of the last entry of its name. -/
def described (specs : List CatalogRole) (r : Role) : Role := specs.foldl (fun r s => redescribe s r) r

lemma ident_redescribe (spec : CatalogRole) (r : Role) : (redescribe spec r).ident = r.ident := by
  rw [redescribe]
  split <;> rfl

lemma redescribe_of_ne {spec : CatalogRole} {r : Role} (h : r.name ≠ spec.name) :
    redescribe spec r = r := if_neg h

lemma described_concat (specs : List CatalogRole) (spec : CatalogRole) (r : Role) :
    described (specs ++ [spec]) r = redescribe spec (described specs r) := by
  rw [described, List.foldl_append, described]
  rfl

lemma ident_described (specs : List CatalogRole) (r : Role) :
    (described specs r).ident = r.ident := by
  induction specs using List.reverseRecOn with
  | nil => rfl
  | append_singleton specs spec ih => rw [described_concat, ident_redescribe, ih]

lemma name_described (specs : List CatalogRole) (r : Role) : (described specs r).name = r.name := by
  have h := ident_described specs r
  simp only [Role.ident, Prod.mk.injEq] at h
  exact h.2.2.2.1

lemma id_described (specs : List CatalogRole) (r : Role) : (described specs r).id = r.id :=
  (Prod.mk.inj (ident_described specs r)).1

/-- An entry of another name does not touch the role. -/
lemma described_of_notMem {specs : List CatalogRole} {r : Role}
    (h : r.name ∉ specs.map CatalogRole.name) : described specs r = r := by
  induction specs using List.reverseRecOn with
  | nil => rfl
  | append_singleton specs spec ih =>
      rw [List.map_append, List.mem_append, not_or] at h
      have hne : r.name ≠ spec.name := by simpa using h.2
      rw [described_concat, ih h.1, redescribe_of_ne hne]

/-- Describing a role again changes nothing. -/
lemma described_described (specs : List CatalogRole) (r : Role) :
    described specs (described specs r) = described specs r := by
  have hlast : ∀ (specs : List CatalogRole) (r r' : Role), r.name = r'.name →
      r.name ∈ specs.map CatalogRole.name →
      (described specs r).description = (described specs r').description := by
    intro specs
    induction specs using List.reverseRecOn with
    | nil => intro r r' _ hmem; cases hmem
    | append_singleton specs spec ih =>
        intro r r' hname hmem
        rw [described_concat, described_concat, redescribe, redescribe, name_described,
          name_described, ← hname]
        by_cases hspec : r.name = spec.name
        · simp [hspec]
        · rw [if_neg hspec, if_neg hspec]
          refine ih r r' hname ?_
          simpa [hspec] using hmem
  have hext : ∀ a b : Role, a.description = b.description →
      ({ a with description := b.description } : Role) = a := fun a b h => by rw [← h]
  have hshape : ∀ (specs : List CatalogRole) (r : Role),
      described specs r = { r with description := (described specs r).description } := by
    intro specs r
    induction specs using List.reverseRecOn with
    | nil => rfl
    | append_singleton specs spec ih =>
        rw [described_concat, redescribe]
        split
        · conv_lhs => rw [ih]
        · exact ih
  by_cases hmem : r.name ∈ specs.map CatalogRole.name
  · rw [hshape specs (described specs r)]
    exact hext _ _ (hlast specs r (described specs r) (name_described specs r).symm hmem)
  · rw [described_of_notMem hmem, described_of_notMem hmem]

/-! ### The loop -/

/-- The loop over the first entries, from the roles `rows`. -/
def rolesFrom (uuid4 : UuidSource) (appId : Id) (rows : List Role) (specs : List CatalogRole) :
    CatalogRoles :=
  specs.zipIdx.foldl (catalogRole uuid4 appId) ⟨rows, [], 0, 0⟩

lemma rolesFrom_concat (uuid4 : UuidSource) (appId : Id) (rows : List Role)
    (specs : List CatalogRole) (spec : CatalogRole) :
    rolesFrom uuid4 appId rows (specs ++ [spec]) =
      catalogRole uuid4 appId (rolesFrom uuid4 appId rows specs) (spec, specs.length) := by
  rw [rolesFrom, List.zipIdx_append, List.foldl_append, rolesFrom]
  simp

/-- What the loop has done after the entries `specs`. -/
structure CatalogRolesDone (uuid4 : UuidSource) (appId : Id) (rows : List Role)
    (specs : List CatalogRole) (acc : CatalogRoles) : Prop where
  found : acc.found = rows.map (described specs)
  names : ((acc.found ++ acc.added).map Role.name).Nodup
  listed : ∀ s ∈ specs, s.name ∈ (acc.found ++ acc.added).map Role.name
  added : ∀ r ∈ acc.added, DefaultRole appId r ∧ described specs r = r ∧
    ∃ i, r.id = uuid4 (.role i) ∧ specs[i]?.map CatalogRole.name = some r.name

/-- Writing a described role back over rows with distinct names. -/
lemma update_name_eq_map {rows : List Role} {role : Role} {spec : CatalogRole}
    (h : ∀ r ∈ rows, r.name = spec.name → r = role) (hrole : role.name = spec.name) :
    update Role.name rows { role with description := spec.description } =
      rows.map (redescribe spec) := by
  rw [update]
  refine List.map_congr_left fun r hr => ?_
  dsimp only
  rw [redescribe]
  by_cases hname : r.name = spec.name
  · obtain rfl := h r hr hname
    rw [if_pos rfl, if_pos hname]
  · rw [if_neg (hrole ▸ hname), if_neg hname]

/-- **One iteration.** -/
lemma CatalogRolesDone.step {rows : List Role} {specs : List CatalogRole} {acc : CatalogRoles}
    (h : CatalogRolesDone uuid4 appId rows specs acc) (spec : CatalogRole) :
    CatalogRolesDone uuid4 appId rows (specs ++ [spec])
      (catalogRole uuid4 appId acc (spec, specs.length)) := by
  have hfound : acc.found.map (redescribe spec) = rows.map (described (specs ++ [spec])) := by
    rw [h.found, List.map_map]
    exact List.map_congr_left fun r _ => (described_concat specs spec r).symm
  have hadded : ∀ r ∈ acc.added.map (redescribe spec), DefaultRole appId r ∧
      described (specs ++ [spec]) r = r ∧ ∃ i, r.id = uuid4 (.role i) ∧
        (specs ++ [spec])[i]?.map CatalogRole.name = some r.name := by
    intro r hr
    obtain ⟨r, hmem, rfl⟩ := List.mem_map.mp hr
    obtain ⟨hdef, hdesc, i, hid, hname⟩ := h.added r hmem
    have hident := ident_redescribe spec r
    simp only [Role.ident, Prod.mk.injEq] at hident
    refine ⟨⟨hident.2.2.1.trans hdef.1, hident.2.1.trans hdef.2.1,
      hident.2.2.2.2.trans hdef.2.2⟩, ?_, i, hident.1.trans hid, ?_⟩
    · have hagain := described_described (specs ++ [spec]) r
      rwa [described_concat specs spec r, hdesc] at hagain
    · obtain ⟨s, hs, hsn⟩ := Option.map_eq_some_iff.mp hname
      have hi := (List.getElem?_eq_some_iff.mp hs).1
      rw [List.getElem?_append_left hi, hname, hident.2.2.2.1]
  have hnames : ∀ xs : List Role, (xs.map (redescribe spec)).map Role.name = xs.map Role.name := by
    intro xs
    rw [List.map_map]
    refine List.map_congr_left fun r _ => ?_
    have hident := ident_redescribe spec r
    simp only [Role.ident, Prod.mk.injEq] at hident
    exact hident.2.2.2.1
  rw [catalogRole]
  cases hl : lookup Role.name (acc.found ++ acc.added) spec.name with
  | none =>
      have hne := lookup_eq_none_iff.mp hl
      have hsame : ∀ xs : List Role, xs ⊆ acc.found ++ acc.added →
          xs.map (redescribe spec) = xs := fun xs hxs => by
        conv_rhs => rw [← List.map_id xs]
        exact List.map_congr_left fun r hr => redescribe_of_ne (hne r (hxs hr))
      have hkeepFound := hsame acc.found (List.subset_append_left _ _)
      have hkeepAdded := hsame acc.added (List.subset_append_right _ _)
      rw [hkeepAdded] at hadded
      refine ⟨hkeepFound ▸ hfound, ?_, fun s hs => ?_, fun r hr => ?_⟩
      · rw [← List.append_assoc, List.map_append]
        refine List.Nodup.append h.names (List.nodup_singleton _) fun n hn hn' => ?_
        obtain ⟨r, hr, rfl⟩ := List.mem_map.mp hn
        exact hne r hr (by simpa using hn')
      · rw [← List.append_assoc, List.map_append]
        rcases List.mem_append.mp hs with hs | hs
        · exact List.mem_append_left _ (h.listed s hs)
        · exact List.mem_append_right _ (by simp [List.mem_singleton.mp hs])
      · rcases List.mem_append.mp hr with hr | hr
        · exact hadded r hr
        · obtain rfl := List.mem_singleton.mp hr
          refine ⟨⟨rfl, rfl, rfl⟩, ?_, specs.length, rfl, by simp⟩
          have hunlisted : spec.name ∉ specs.map CatalogRole.name := fun hm => by
            obtain ⟨s, hs, hname⟩ := List.mem_map.mp hm
            obtain ⟨r, hr, hrn⟩ := List.mem_map.mp (h.listed s hs)
            exact hne r hr (hrn.trans hname)
          rw [described_concat, described_of_notMem hunlisted]
          exact if_pos rfl
  | some role =>
      have hrole : role.name = spec.name := key_of_lookup hl
      have honly : ∀ xs : List Role, xs ⊆ acc.found ++ acc.added → ∀ r ∈ xs,
          r.name = spec.name → r = role := fun xs hxs r hr hname =>
        List.inj_on_of_nodup_map h.names (hxs hr) (mem_of_lookup hl) (hname.trans hrole.symm)
      have hupdateFound := update_name_eq_map
        (honly acc.found (List.subset_append_left _ _)) hrole
      have hupdateAdded := update_name_eq_map
        (honly acc.added (List.subset_append_right _ _)) hrole
      dsimp only
      rw [hupdateFound, hupdateAdded]
      refine ⟨hfound, ?_, fun s hs => ?_, hadded⟩
      · rw [← List.map_append, hnames]
        exact h.names
      · rw [← List.map_append, hnames]
        rcases List.mem_append.mp hs with hs | hs
        · exact h.listed s hs
        · rw [List.mem_singleton.mp hs, ← hrole]
          exact List.mem_map_of_mem (mem_of_lookup hl)

/-- The loop over all entries. -/
lemma rolesFrom_done {rows : List Role} (hrows : (rows.map Role.name).Nodup)
    (specs : List CatalogRole) :
    CatalogRolesDone uuid4 appId rows specs (rolesFrom uuid4 appId rows specs) := by
  induction specs using List.reverseRecOn with
  | nil => exact ⟨(List.map_id rows).symm, by simpa [rolesFrom] using hrows, by simp,
      by simp [rolesFrom]⟩
  | append_singleton specs spec ih =>
      rw [rolesFrom_concat]
      exact ih.step spec

/-- Entries whose names are all found add nothing. -/
lemma rolesFrom_of_found {rows : List Role} (hrows : (rows.map Role.name).Nodup) :
    ∀ specs : List CatalogRole, (∀ s ∈ specs, s.name ∈ rows.map Role.name) →
      rolesFrom uuid4 appId rows specs = ⟨rows.map (described specs), [], 0, specs.length⟩ := by
  intro specs
  induction specs using List.reverseRecOn with
  | nil => exact fun _ => congrArg (CatalogRoles.mk · [] 0 0) (List.map_id rows).symm
  | append_singleton specs spec ih =>
      intro hfound
      have hprev := ih fun s hs => hfound s (by simp [hs])
      have hdone : CatalogRolesDone uuid4 appId rows (specs ++ [spec])
          (catalogRole uuid4 appId (rolesFrom uuid4 appId rows specs) (spec, specs.length)) :=
        (rolesFrom_done hrows specs).step spec
      rw [rolesFrom_concat]
      rw [hprev] at hdone ⊢
      rw [catalogRole] at hdone ⊢
      cases hl : lookup Role.name (rows.map (described specs) ++ []) spec.name with
      | none =>
          obtain ⟨r, hr, hname⟩ := List.mem_map.mp (hfound spec (by simp))
          refine absurd ?_ (lookup_eq_none_iff.mp hl (described specs r) ?_)
          · rw [name_described, hname]
          · simpa using ⟨r, hr, rfl⟩
      | some role =>
          simp only [List.append_nil] at hl
          simp only [List.append_nil, hl] at hdone ⊢
          have hrows' := hdone.found
          dsimp only at hrows'
          rw [hrows', List.length_append, List.length_singleton]
          rfl

/-! ### The roles afterwards -/

/-- A default role of the application with this name. -/
def defaultNamed (appId : Id) (n : String) (r : Role) : Bool :=
  decide (r.name = n) &&
    decide (r.applicationId = some appId ∧ r.tenantId = none ∧ r.agentId = none)

namespace CatalogInput

/-- What the loop of a catalog has done. -/
lemma rolesDone (_ : CatalogInput t uuid4 permissions defaultRoles) (appId : Id) :
    CatalogRolesDone uuid4 appId (t.catalogFound appId) defaultRoles
      (t.catalogRoles uuid4 appId defaultRoles) :=
  rolesFrom_done (nodup_ofList _) defaultRoles

/-- A role that was found is one of the store, up to its description. -/
lemma of_mem_found (h : CatalogInput t uuid4 permissions defaultRoles) {r : Role}
    (hr : r ∈ (t.catalogRoles uuid4 appId defaultRoles).found) :
    ∃ r₀ ∈ t.catalogFound appId, r = described defaultRoles r₀ := by
  rw [(h.rolesDone appId).found] at hr
  obtain ⟨r₀, hr₀, rfl⟩ := List.mem_map.mp hr
  exact ⟨r₀, hr₀, rfl⟩

lemma found_ident (h : CatalogInput t uuid4 permissions defaultRoles) {r : Role}
    (hr : r ∈ (t.catalogRoles uuid4 appId defaultRoles).found) :
    r.ident ∈ t.roles.map Role.ident := by
  obtain ⟨r₀, hr₀, rfl⟩ := h.of_mem_found hr
  rw [ident_described]
  exact List.mem_map_of_mem (of_mem_catalogFound hr₀).1

/-- A role that was added has an id that no role had. -/
lemma added_fresh (h : CatalogInput t uuid4 permissions defaultRoles) {r : Role}
    (hr : r ∈ (t.catalogRoles uuid4 appId defaultRoles).added) : t.Unused r.id := by
  obtain ⟨-, -, i, hid, hname⟩ := (h.rolesDone appId).added r hr
  obtain ⟨s, hs, -⟩ := Option.map_eq_some_iff.mp hname
  have hi := (List.getElem?_eq_some_iff.mp hs).1
  exact hid ▸ h.fresh.unused _ (hi.le.trans (le_max_right _ _))

/-- Two roles of the catalog with one id have one name. -/
lemma name_eq_of_id (h : CatalogInput t uuid4 permissions defaultRoles) {a b : Role}
    (ha : a ∈ (t.catalogRoles uuid4 appId defaultRoles).found ++
      (t.catalogRoles uuid4 appId defaultRoles).added)
    (hb : b ∈ (t.catalogRoles uuid4 appId defaultRoles).found ++
      (t.catalogRoles uuid4 appId defaultRoles).added) (hid : a.id = b.id) : a.name = b.name := by
  have hnew : ∀ {x y : Role}, x ∈ (t.catalogRoles uuid4 appId defaultRoles).found →
      y ∈ (t.catalogRoles uuid4 appId defaultRoles).added → x.id ≠ y.id := fun hx hy heq => by
    obtain ⟨r, hr, hident⟩ := List.mem_map.mp (h.found_ident hx)
    exact ((h.added_fresh hy).roles r hr).1 ((Prod.mk.inj hident).1.trans heq)
  rcases List.mem_append.mp ha with ha | ha
  · rcases List.mem_append.mp hb with hb | hb
    · obtain ⟨r, hr, hident⟩ := List.mem_map.mp (h.found_ident ha)
      obtain ⟨r', hr', hident'⟩ := List.mem_map.mp (h.found_ident hb)
      simp only [Role.ident, Prod.mk.injEq] at hident hident'
      have heq : r = r' := List.inj_on_of_nodup_map h.constraints.roleId hr hr'
        (hident.1.trans (hid.trans hident'.1.symm))
      rw [← hident.2.2.2.1, ← hident'.2.2.2.1, heq]
    · exact absurd hid (hnew ha hb)
  · rcases List.mem_append.mp hb with hb | hb
    · exact absurd hid.symm (hnew hb ha)
    · obtain ⟨-, -, i, hia, hna⟩ := (h.rolesDone appId).added a ha
      obtain ⟨-, -, j, hjb, hnb⟩ := (h.rolesDone appId).added b hb
      obtain ⟨s, hs, -⟩ := Option.map_eq_some_iff.mp hna
      obtain ⟨s', hs', -⟩ := Option.map_eq_some_iff.mp hnb
      have hij := h.fresh.injOn (.role i) (.role j)
        ((List.getElem?_eq_some_iff.mp hs).1.le.trans (le_max_right _ _))
        ((List.getElem?_eq_some_iff.mp hs').1.le.trans (le_max_right _ _))
        (hia.symm.trans (hid.trans hjb))
      obtain rfl := Draw.role.inj hij
      exact Option.some.inj (hna.symm.trans hnb)

/-- The roles of the catalog have distinct ids. -/
lemma nodup_catalogRoles_id (h : CatalogInput t uuid4 permissions defaultRoles) (appId : Id) :
    (((t.catalogRoles uuid4 appId defaultRoles).found ++
      (t.catalogRoles uuid4 appId defaultRoles).added).map Role.id).Nodup := by
  have hnames := (h.rolesDone appId).names
  rw [List.Nodup, List.pairwise_map] at hnames ⊢
  exact hnames.imp_of_mem fun ha hb hne hid => hne (h.name_eq_of_id ha hb hid)

/-- The roles written back keep the identity of the roles they replace. -/
lemma map_ident_roles (h : CatalogInput t uuid4 permissions defaultRoles) (appId : Id) :
    (updateAll Role.id t.roles (t.catalogRoles uuid4 appId defaultRoles).found).map Role.ident =
      t.roles.map Role.ident :=
  map_updateAll_ident (fun _ _ hab => (Prod.mk.inj hab).1) h.constraints.roleId
    fun _ hr => h.found_ident hr

/-- The roles have distinct ids. -/
lemma nodup_roles_id (h : CatalogInput t uuid4 permissions defaultRoles) (appId : Id) :
    ((t.catalogRoleRows uuid4 defaultRoles appId).map Role.id).Nodup := by
  have hold := congrArg (List.map Prod.fst) (h.map_ident_roles appId)
  rw [List.map_map, List.map_map] at hold
  have hnew := (h.nodup_catalogRoles_id appId).sublist ((List.sublist_append_right _ _).map _)
  rw [catalogRoleRows, List.map_append]
  refine List.Nodup.append (hold ▸ h.constraints.roleId) hnew fun i hi hi' => ?_
  obtain ⟨r, hr, rfl⟩ := List.mem_map.mp hi'
  obtain ⟨r₀, hr₀, hid⟩ := List.mem_map.mp (hold ▸ hi)
  exact ((h.added_fresh hr).roles r₀ hr₀).1 hid

/-- Default roles are outside the unique key of the roles. -/
lemma unique_roles_key (h : CatalogInput t uuid4 permissions defaultRoles) (appId : Id) :
    Unique Role.uniqueKey (t.catalogRoleRows uuid4 defaultRoles appId) := by
  have hnone : ∀ r ∈ (t.catalogRoles uuid4 appId defaultRoles).added, Role.uniqueKey r = none :=
    fun r hr => by simp [Role.uniqueKey, ((h.rolesDone appId).added r hr).1.2.1]
  refine Unique.append (Unique.of_map_eq (fun a b hab => ?_) (h.map_ident_roles appId)
    h.constraints.roleKey) ?_ fun a _ b hb k _ => ?_
  · simp only [Role.ident, Prod.mk.injEq] at hab
    rw [Role.uniqueKey, Role.uniqueKey, hab.2.1, hab.2.2.1, hab.2.2.2.1]
  · rw [Unique, List.filterMap_eq_nil_iff.mpr hnone]
    exact List.nodup_nil
  · rw [hnone b hb]
    exact Option.some_ne_none k ∘ Eq.symm

/-- The default roles of an application with one name, as a second catalog finds
them. -/
lemma lookup_catalogFound_eq (t : Tables) (appId : Id) (n : String) :
    lookup Role.name (t.catalogFound appId) n =
      (t.roles.filter (defaultNamed appId n)).getLast? := by
  rw [catalogFound, lookup_ofList, namedRoles, List.filter_filter]
  rfl

/-- The roles written back are default roles of the same names. -/
lemma filter_updateAll_found (h : CatalogInput t uuid4 permissions defaultRoles) (n : String) :
    (updateAll Role.id t.roles (t.catalogRoles uuid4 appId defaultRoles).found).filter
        (defaultNamed appId n) =
      (t.roles.filter (defaultNamed appId n)).map fun r =>
        (lookup Role.id (t.catalogRoles uuid4 appId defaultRoles).found r.id).getD r := by
  have hids : ((t.catalogRoles uuid4 appId defaultRoles).found.map Role.id).Nodup :=
    (h.nodup_catalogRoles_id appId).sublist ((List.sublist_append_left _ _).map _)
  rw [updateAll_eq_map hids, List.filter_map]
  refine congrArg _ (List.filter_congr fun r hr => ?_)
  rw [Function.comp_apply]
  cases hl : lookup Role.id (t.catalogRoles uuid4 appId defaultRoles).found r.id with
  | none => rfl
  | some x =>
      obtain ⟨r₀, hr₀, hident⟩ := List.mem_map.mp (h.found_ident (mem_of_lookup hl))
      have hid : x.id = r.id := key_of_lookup hl
      obtain rfl : r₀ = r := List.inj_on_of_nodup_map h.constraints.roleId hr₀ hr
        ((Prod.mk.inj hident).1.trans hid)
      simp only [Role.ident, Prod.mk.injEq] at hident
      rw [Option.getD_some, defaultNamed, defaultNamed, hident.2.1, hident.2.2.1, hident.2.2.2.1,
        hident.2.2.2.2]

/-- **A second catalog finds the roles of the first.** -/
theorem lookup_catalogFound (h : CatalogInput t uuid4 permissions defaultRoles) {t' : Tables}
    (hroles : t'.roles = t.catalogRoleRows uuid4 defaultRoles appId) (n : String) :
    lookup Role.name (t'.catalogFound appId) n =
      lookup Role.name ((t.catalogRoles uuid4 appId defaultRoles).found ++
        (t.catalogRoles uuid4 appId defaultRoles).added) n := by
  have hdone := h.rolesDone appId
  have hids : ((t.catalogRoles uuid4 appId defaultRoles).found.map Role.id).Nodup :=
    (h.nodup_catalogRoles_id appId).sublist ((List.sublist_append_left _ _).map _)
  have hadded : (t.catalogRoles uuid4 appId defaultRoles).added.filter (defaultNamed appId n) =
      (t.catalogRoles uuid4 appId defaultRoles).added.filter fun r => r.name = n := by
    refine List.filter_congr fun r hr => ?_
    have hdef := (hdone.added r hr).1
    simp [defaultNamed, hdef.1, hdef.2.1, hdef.2.2]
  rw [lookup_catalogFound_eq t', hroles, catalogRoleRows, List.filter_append,
    h.filter_updateAll_found, hadded]
  cases hl : lookup Role.name (t.catalogFound appId) n with
  | some r₀ =>
      -- a found name is not added
      have hr₀ : r₀.name = n := key_of_lookup hl
      have hmem : described defaultRoles r₀ ∈ (t.catalogRoles uuid4 appId defaultRoles).found :=
        hdone.found ▸ List.mem_map_of_mem (mem_of_lookup hl)
      have hname : (described defaultRoles r₀).name = n := (name_described _ _).trans hr₀
      have hnone : ((t.catalogRoles uuid4 appId defaultRoles).added.filter
          fun r => r.name = n) = [] := by
        refine List.filter_eq_nil_iff.mpr fun r hr hrn => ?_
        have hnames := hdone.names
        rw [List.map_append] at hnames
        refine List.disjoint_of_nodup_append hnames (List.mem_map_of_mem hmem)
          (List.mem_map.mpr ⟨r, hr, ?_⟩)
        simpa [hname] using hrn
      have hwritten : lookup Role.id (t.catalogRoles uuid4 appId defaultRoles).found r₀.id =
          some (described defaultRoles r₀) :=
        (lookup_eq_some_iff hids).mpr ⟨hmem, id_described _ _⟩
      have hlast := (lookup_catalogFound_eq t appId n).symm.trans hl
      rw [hnone, List.append_nil, List.getLast?_map, hlast, Option.map_some, hwritten,
        Option.getD_some]
      exact ((lookup_eq_some_iff hdone.names).mpr ⟨List.mem_append_left _ hmem, hname⟩).symm
  | none =>
      have hnil : t.roles.filter (defaultNamed appId n) = [] :=
        List.getLast?_eq_none_iff.mp ((lookup_catalogFound_eq t appId n).symm.trans hl)
      have hnames : ((t.catalogRoles uuid4 appId defaultRoles).added.map Role.name).Nodup :=
        hdone.names.sublist ((List.sublist_append_right _ _).map _)
      have hnotFound : lookup Role.name (t.catalogRoles uuid4 appId defaultRoles).found n = none := by
        refine lookup_eq_none_iff.mpr fun r hr => ?_
        obtain ⟨r₀, hr₀, rfl⟩ := h.of_mem_found hr
        rw [name_described]
        exact lookup_eq_none_iff.mp hl r₀ hr₀
      rw [hnil, List.map_nil, List.nil_append, ← lookup_ofList, ofList_eq_self hnames]
      rw [lookup] at hnotFound
      rw [lookup, lookup, List.find?_append, hnotFound, Option.none_or]

end CatalogInput

end Tables

end AuthzKit
