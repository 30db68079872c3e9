import AuthzKit.Storage.Catalog
import AuthzKit.Storage.Validation

/-!
The validation of `apply_application_catalog`.

* `CatalogViolation`: what can be wrong with a catalog, and where; `CatalogViolates`
  says when it is.
* `catalogIssues_report`: **the issues of a catalog** are those of its violations,
  each once, malformed names before unlisted permissions.
-/

namespace AuthzKit

open Keyed

/-- What can be wrong with a catalog: the name of the permission `i`, or the
permission `j` of the default role `i`. -/
inductive CatalogViolation where
  | permissionName (i : ℕ)
  | rolePermission (i j : ℕ)
deriving DecidableEq, Repr

namespace CatalogViolation

/-- Where a violation stands in the report. -/
def place : CatalogViolation → List ℕ
  | permissionName i => [0, i]
  | rolePermission i j => [1, i, j]

/-- What is reported about a violation of a catalog. -/
def issue (permissions : List CatalogPermission) (defaultRoles : List CatalogRole) :
    CatalogViolation → ProvisioningIssue
  | permissionName i => ⟨"permissions[" ++ toString i ++ "].name", "invalid_permission_name",
      Permission.nameError ((permissions[i]?.map CatalogPermission.name).getD "")⟩
  | rolePermission i j =>
      ⟨"default_roles[" ++ toString i ++ "].permissions[" ++ toString j ++ "]",
        "unknown_permission",
        "permission " ++ pyRepr ((defaultRoles[i]?.bind fun r => r.permissions[j]?).getD "") ++
          " is not in the catalog"⟩

end CatalogViolation

/-- The catalog is wrong in this way. -/
def CatalogViolates (permissions : List CatalogPermission) (defaultRoles : List CatalogRole) :
    CatalogViolation → Prop
  | .permissionName i => ∃ p, permissions[i]? = some p ∧ '.' ∉ p.name.toList
  | .rolePermission i j => ∃ r, defaultRoles[i]? = some r ∧
      ∃ n, r.permissions[j]? = some n ∧ n ∉ permissions.map CatalogPermission.name

/-- The violations of a catalog in the order of the report. -/
def catalogViolations (permissions : List CatalogPermission) (defaultRoles : List CatalogRole) :
    List CatalogViolation :=
  (permissions.zipIdx.filterMap fun p =>
    if '.' ∈ p.1.name.toList then none else some (.permissionName p.2)) ++
  defaultRoles.zipIdx.flatMap fun r => r.1.permissions.zipIdx.filterMap fun n =>
    if n.1 ∈ permissions.map CatalogPermission.name then none else some (.rolePermission r.2 n.2)

variable {permissions : List CatalogPermission} {defaultRoles : List CatalogRole}

/-- The issues are those of the violations. -/
lemma catalogIssues_eq (permissions : List CatalogPermission) (defaultRoles : List CatalogRole) :
    catalogIssues permissions defaultRoles =
      (catalogViolations permissions defaultRoles).map
        (CatalogViolation.issue permissions defaultRoles) := by
  rw [catalogIssues, catalogViolations, List.map_append, List.map_filterMap, List.map_flatMap]
  congr 1
  · refine List.filterMap_congr fun p hp => ?_
    have hget := List.mem_zipIdx_iff_getElem?.mp hp
    dsimp only
    by_cases hdot : '.' ∈ p.1.name.toList
    · rw [Permission.fromName, if_pos hdot, if_pos hdot, Option.map_none]
    · have hissue : CatalogViolation.issue permissions defaultRoles (.permissionName p.2) =
          ⟨_, _, Permission.nameError ((permissions[p.2]?.map CatalogPermission.name).getD "")⟩ :=
        rfl
      rw [Permission.fromName, if_neg hdot, if_neg hdot, Option.map_some, hissue, hget]
      rfl
  · refine List.flatMap_congr fun r hr => ?_
    rw [List.map_filterMap]
    refine List.filterMap_congr fun n hn => ?_
    have hrole := List.mem_zipIdx_iff_getElem?.mp hr
    have hname := List.mem_zipIdx_iff_getElem?.mp hn
    dsimp only
    by_cases hlisted : n.1 ∈ permissions.map CatalogPermission.name
    · rw [if_pos hlisted, if_pos hlisted, Option.map_none]
    · rw [if_neg hlisted, if_neg hlisted]
      have hissue : CatalogViolation.issue permissions defaultRoles (.rolePermission r.2 n.2) =
          ⟨_, _, "permission " ++
            pyRepr ((defaultRoles[r.2]?.bind fun r => r.permissions[n.2]?).getD "") ++
              " is not in the catalog"⟩ := rfl
      rw [Option.map_some, hissue, hrole, Option.bind_some, hname]
      rfl

/-- The violations stand in the order of the report. -/
lemma pairwise_catalogViolations (permissions : List CatalogPermission)
    (defaultRoles : List CatalogRole) :
    (catalogViolations permissions defaultRoles).Pairwise fun v w => v.place < w.place := by
  have hname : ∀ v ∈ permissions.zipIdx.filterMap (fun p =>
      if '.' ∈ p.1.name.toList then none else some (CatalogViolation.permissionName p.2)),
      ∃ rest, v.place = 0 :: rest := by
    intro v hv
    obtain ⟨p, -, hif⟩ := List.mem_filterMap.mp hv
    split at hif
    · cases hif
    · exact ⟨[p.2], Option.some.inj hif ▸ rfl⟩
  have hrole : ∀ (r : CatalogRole × ℕ) (v : CatalogViolation),
      v ∈ (r.1.permissions.zipIdx.filterMap fun n =>
        if n.1 ∈ permissions.map CatalogPermission.name then none
        else some (CatalogViolation.rolePermission r.2 n.2)) →
      ∃ rest, v.place = 1 :: r.2 :: rest := by
    intro r v hv
    obtain ⟨n, -, hif⟩ := List.mem_filterMap.mp hv
    split at hif
    · cases hif
    · exact ⟨[n.2], Option.some.inj hif ▸ rfl⟩
  refine List.pairwise_append.mpr ⟨?_, List.pairwise_flatMap.mpr ⟨fun r _ => ?_, ?_⟩, ?_⟩
  · rw [List.pairwise_filterMap]
    refine (pairwise_zipIdx permissions).imp fun hlt v hv w hw => ?_
    split at hv
    · cases hv
    · split at hw
      · cases hw
      · rw [← Option.some.inj hv, ← Option.some.inj hw]
        simpa [CatalogViolation.place, List.cons_lt_cons_iff] using hlt
  · rw [List.pairwise_filterMap]
    refine (pairwise_zipIdx r.1.permissions).imp fun hlt v hv w hw => ?_
    split at hv
    · cases hv
    · split at hw
      · cases hw
      · rw [← Option.some.inj hv, ← Option.some.inj hw]
        simpa [CatalogViolation.place, List.cons_lt_cons_iff] using hlt
  · refine (pairwise_zipIdx defaultRoles).imp fun {r r'} hlt v hv w hw => ?_
    obtain ⟨rest, hv⟩ := hrole r v hv
    obtain ⟨rest', hw⟩ := hrole r' w hw
    rw [hv, hw]
    simp [List.cons_lt_cons_iff, hlt]
  · intro v hv w hw
    obtain ⟨rest, hv⟩ := hname v hv
    obtain ⟨r, -, hw⟩ := List.mem_flatMap.mp hw
    obtain ⟨rest', hw⟩ := hrole r w hw
    rw [hv, hw]
    simp [List.cons_lt_cons_iff]

/-- The violations are exactly what is wrong. -/
lemma mem_catalogViolations {v : CatalogViolation} :
    v ∈ catalogViolations permissions defaultRoles ↔
      CatalogViolates permissions defaultRoles v := by
  rw [catalogViolations, List.mem_append, List.mem_filterMap, List.mem_flatMap]
  cases v with
  | permissionName i =>
      have hrole : ¬∃ r ∈ defaultRoles.zipIdx, CatalogViolation.permissionName i ∈
          r.1.permissions.zipIdx.filterMap fun n =>
            if n.1 ∈ permissions.map CatalogPermission.name then none
            else some (CatalogViolation.rolePermission r.2 n.2) := by
        rintro ⟨r, -, hv⟩
        obtain ⟨n, -, hif⟩ := List.mem_filterMap.mp hv
        split at hif <;> cases hif
      rw [or_iff_left hrole, CatalogViolates]
      constructor
      · rintro ⟨⟨p, k⟩, hp, hif⟩
        split at hif
        · cases hif
        · rename_i hdot
          obtain rfl : k = i := by simpa using hif
          exact ⟨p, List.mk_mem_zipIdx_iff_getElem?.mp hp, hdot⟩
      · rintro ⟨p, hp, hdot⟩
        exact ⟨(p, i), List.mk_mem_zipIdx_iff_getElem?.mpr hp, if_neg hdot⟩
  | rolePermission i j =>
      have hname : ¬∃ p ∈ permissions.zipIdx, (if '.' ∈ p.1.name.toList then none
          else some (CatalogViolation.permissionName p.2)) =
            some (CatalogViolation.rolePermission i j) := by
        rintro ⟨p, -, hif⟩
        split at hif <;> cases hif
      rw [or_iff_right hname, CatalogViolates]
      constructor
      · rintro ⟨⟨r, k⟩, hr, hv⟩
        obtain ⟨⟨n, l⟩, hn, hif⟩ := List.mem_filterMap.mp hv
        split at hif
        · cases hif
        · rename_i hlisted
          obtain ⟨rfl, rfl⟩ : k = i ∧ l = j := by simpa using hif
          exact ⟨r, List.mk_mem_zipIdx_iff_getElem?.mp hr, n,
            List.mk_mem_zipIdx_iff_getElem?.mp hn, hlisted⟩
      · rintro ⟨r, hr, n, hn, hlisted⟩
        exact ⟨(r, i), List.mk_mem_zipIdx_iff_getElem?.mpr hr, List.mem_filterMap.mpr
          ⟨(n, j), List.mk_mem_zipIdx_iff_getElem?.mpr hn, if_neg hlisted⟩⟩

/-- **The report of a catalog**: the issues of its violations, each once and in
order. -/
theorem catalogIssues_report (permissions : List CatalogPermission)
    (defaultRoles : List CatalogRole) :
    ∃ vs : List CatalogViolation,
      catalogIssues permissions defaultRoles =
          vs.map (CatalogViolation.issue permissions defaultRoles) ∧
        vs.Pairwise (fun v w => v.place < w.place) ∧
        ∀ v, v ∈ vs ↔ CatalogViolates permissions defaultRoles v :=
  ⟨_, catalogIssues_eq permissions defaultRoles,
    pairwise_catalogViolations permissions defaultRoles, fun _ => mem_catalogViolations⟩

/-- A catalog without issues: every name has a dot, and every role lists permissions of
the catalog. -/
lemma catalogIssues_eq_nil_iff :
    catalogIssues permissions defaultRoles = [] ↔
      (∀ p ∈ permissions, '.' ∈ p.name.toList) ∧
        ∀ r ∈ defaultRoles, ∀ n ∈ r.permissions, n ∈ permissions.map CatalogPermission.name := by
  rw [catalogIssues_eq, List.map_eq_nil_iff, List.eq_nil_iff_forall_not_mem]
  simp only [mem_catalogViolations]
  constructor
  · intro h
    refine ⟨fun p hp => ?_, fun r hr n hn => ?_⟩
    · obtain ⟨i, hi⟩ := List.mem_iff_getElem?.mp hp
      by_contra hdot
      exact h (.permissionName i) ⟨p, hi, hdot⟩
    · obtain ⟨i, hi⟩ := List.mem_iff_getElem?.mp hr
      obtain ⟨j, hj⟩ := List.mem_iff_getElem?.mp hn
      by_contra hlisted
      exact h (.rolePermission i j) ⟨r, hi, n, hj, hlisted⟩
  · rintro ⟨hnames, hroles⟩ v hv
    cases v with
    | permissionName i =>
        obtain ⟨p, hp, hdot⟩ := hv
        exact hdot (hnames p (List.mem_of_getElem? hp))
    | rolePermission i j =>
        obtain ⟨r, hr, n, hn, hlisted⟩ := hv
        exact hlisted (hroles r (List.mem_of_getElem? hr) n (List.mem_of_getElem? hn))

end AuthzKit
