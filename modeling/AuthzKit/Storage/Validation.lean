import AuthzKit.Storage.Evolution

/-!
The validation of `apply_tenant_state`.

* `Violation`: what can be wrong with a desired state, and where; `Violates` says
  when it is, in terms of the rows of the store.
* `Violation.place`: the order of the report.
* `stateIssues_report`: **the issues of a state** are those of its violations, each
  once, in that order.
* `lookup_assignableRoles`: what a role name resolves to, tenant-first.
-/

namespace AuthzKit

open Keyed

/-! ### Violations -/

/-- What can be wrong with a desired state: `i` is the entry, `j` the role or
permission in it. -/
inductive Violation where
  | tenantStatus
  | memberRepeated (i : ℕ)
  | memberStatus (i : ℕ)
  | memberRole (i j : ℕ)
  | agentRepeated (i : ℕ)
  | agentStatus (i : ℕ)
  | agentPermission (i j : ℕ)
deriving DecidableEq, Repr

namespace Violation

/-- Where a violation stands in the report: the tenant, then the members, then the
agents; an entry's repetition before its status before its names. -/
def place : Violation → List ℕ
  | tenantStatus => [0]
  | memberRepeated i => [1, i, 0]
  | memberStatus i => [1, i, 1]
  | memberRole i j => [1, i, 2, j]
  | agentRepeated i => [2, i, 0]
  | agentStatus i => [2, i, 1]
  | agentPermission i j => [2, i, 2, j]

/-- What is reported about a violation of a state. -/
def issue (state : TenantState) : Violation → ProvisioningIssue
  | tenantStatus => ⟨"status", "tenant_status_not_managed",
      "the tenant status belongs to the platform; only 'active' is accepted"⟩
  | memberRepeated i => ⟨"members[" ++ toString i ++ "].user_ref", "duplicate_member",
      "user listed twice"⟩
  | memberStatus i => ⟨"members[" ++ toString i ++ "].status", "invalid_status",
      "unknown status " ++ pyRepr ((state.members[i]?.map DesiredMember.status).getD "")⟩
  | memberRole i j => ⟨"members[" ++ toString i ++ "].roles[" ++ toString j ++ "]", "unknown_role",
      "role " ++ pyRepr ((state.members[i]?.bind fun m => m.roles[j]?).getD "") ++
        " does not exist"⟩
  | agentRepeated i => ⟨"agents[" ++ toString i ++ "].name", "duplicate_agent",
      "agent listed twice"⟩
  | agentStatus i => ⟨"agents[" ++ toString i ++ "].status", "invalid_status",
      "unknown status " ++ pyRepr ((state.agents[i]?.map DesiredAgent.status).getD "")⟩
  | agentPermission i j => ⟨"agents[" ++ toString i ++ "].permissions[" ++ toString j ++ "]",
      "unknown_permission",
      "permission " ++ pyRepr ((state.agents[i]?.bind fun a => a.permissions[j]?).getD "") ++
        " is not in the catalog"⟩

end Violation

namespace Tables

/-- A role name resolves for a tenant, known by its slug, in an application. -/
def RoleResolves (t : Tables) (applicationId : Id) (tenantSlug name : String) : Prop :=
  ∃ r ∈ t.roles, r.applicationId = some applicationId ∧ r.name = name ∧ r.agentId = none ∧
    (r.tenantId = none ∨ ∃ tenant ∈ t.tenants, tenant.slug = tenantSlug ∧
      r.tenantId = some tenant.id)

/-- A permission name is active in an application. -/
def PermissionActive (t : Tables) (applicationId : Id) (name : String) : Prop :=
  ∃ q ∈ t.permissions, q.applicationId = some applicationId ∧ q.name = name ∧ q.deprecated = false

/-- The desired state is wrong in this way. -/
def Violates (t : Tables) (applicationId : Id) (tenantSlug : String) (state : TenantState) :
    Violation → Prop
  | .tenantStatus => state.status ≠ "active"
  | .memberRepeated i => ∃ m, state.members[i]? = some m ∧
      ∃ k < i, ∃ m', state.members[k]? = some m' ∧ m'.userRef = m.userRef
  | .memberStatus i => ∃ m, state.members[i]? = some m ∧ m.status ≠ "active" ∧ m.status ≠ "disabled"
  | .memberRole i j => ∃ m, state.members[i]? = some m ∧
      ∃ n, m.roles[j]? = some n ∧ ¬t.RoleResolves applicationId tenantSlug n
  | .agentRepeated i => ∃ a, state.agents[i]? = some a ∧
      ∃ k < i, ∃ a', state.agents[k]? = some a' ∧ a'.name = a.name
  | .agentStatus i => ∃ a, state.agents[i]? = some a ∧ a.status ≠ "active" ∧ a.status ≠ "disabled"
  | .agentPermission i j => ∃ a, state.agents[i]? = some a ∧
      ∃ p, a.permissions[j]? = some p ∧ ¬t.PermissionActive applicationId p

end Tables

/-! ### The report as a list of violations -/

/-- The violations that a loop over entries reports: a repetition, the status and the
names that do not resolve. -/
def entryViolations {α κ : Type} [DecidableEq κ] (key : α → κ) (status : α → String)
    (names : α → List String) (known : List String) (repeated badStatus : ℕ → Violation)
    (badName : ℕ → ℕ → Violation) (xs : List α) (p : α × ℕ) : List Violation :=
  (if key p.1 ∈ (xs.take p.2).map key then [repeated p.2] else []) ++
  (if status p.1 ∉ desiredStatuses then [badStatus p.2] else []) ++
  (names p.1).zipIdx.filterMap fun n => if n.1 ∈ known then none else some (badName p.2 n.2)

/-- A loop that remembers the entries before the current one, by positions. -/
lemma issuesFrom_eq {α : Type} (issues : List α → α → ℕ → List ProvisioningIssue) :
    ∀ (xs before : List α), issuesFrom issues before xs =
      (xs.zipIdx before.length).flatMap fun p => issues ((before ++ xs).take p.2) p.1 p.2
  | [], _ => rfl
  | x :: rest, before => by
      have htake : (before ++ x :: rest).take before.length = before := List.take_left' rfl
      rw [issuesFrom, issuesFrom_eq issues rest (before ++ [x]), List.zipIdx_cons,
        List.flatMap_cons, htake]
      simp

section Entries

variable {α κ : Type} [DecidableEq κ] {key : α → κ} {status : α → String} {names : α → List String}
  {known : List String} {repeated badStatus : ℕ → Violation} {badName : ℕ → ℕ → Violation}
  {xs : List α}

omit [DecidableEq κ] in
/-- A repetition among the earlier entries, by positions. -/
lemma mem_map_take_iff {k : κ} {i : ℕ} :
    k ∈ (xs.take i).map key ↔ ∃ j < i, ∃ x, xs[j]? = some x ∧ key x = k := by
  constructor
  · intro h
    obtain ⟨x, hx, rfl⟩ := List.mem_map.mp h
    obtain ⟨j, hj⟩ := List.mem_iff_getElem?.mp hx
    rw [List.getElem?_take] at hj
    split at hj
    · rename_i hlt
      exact ⟨j, hlt, x, hj, rfl⟩
    · cases hj
  · rintro ⟨j, hj, x, hx, rfl⟩
    refine List.mem_map_of_mem (List.mem_iff_getElem?.mpr ⟨j, ?_⟩)
    rw [List.getElem?_take, if_pos hj, hx]

/-- The violations of all entries. -/
lemma mem_entryViolations {v : Violation} :
    v ∈ xs.zipIdx.flatMap (entryViolations key status names known repeated badStatus badName xs) ↔
      ∃ i x, xs[i]? = some x ∧
        ((v = repeated i ∧ ∃ j < i, ∃ y, xs[j]? = some y ∧ key y = key x) ∨
          (v = badStatus i ∧ status x ≠ "active" ∧ status x ≠ "disabled") ∨
          ∃ j n, v = badName i j ∧ (names x)[j]? = some n ∧ n ∉ known) := by
  have hstatus : ∀ s : String, s ∉ desiredStatuses ↔ s ≠ "active" ∧ s ≠ "disabled" := by
    simp [desiredStatuses, statusActive, statusDisabled]
  rw [List.mem_flatMap]
  constructor
  · rintro ⟨⟨x, i⟩, hx, hv⟩
    refine ⟨i, x, List.mk_mem_zipIdx_iff_getElem?.mp hx, ?_⟩
    rw [entryViolations, List.mem_append, List.mem_append] at hv
    rcases hv with (hv | hv) | hv
    · split at hv
      · rename_i hrep
        exact Or.inl ⟨List.mem_singleton.mp hv, mem_map_take_iff.mp hrep⟩
      · cases hv
    · split at hv
      · rename_i hbad
        exact Or.inr (Or.inl ⟨List.mem_singleton.mp hv, (hstatus _).mp hbad⟩)
      · cases hv
    · obtain ⟨⟨n, j⟩, hn, hif⟩ := List.mem_filterMap.mp hv
      split at hif
      · cases hif
      · rename_i hunknown
        exact Or.inr (Or.inr ⟨j, n, (Option.some.inj hif).symm,
          List.mk_mem_zipIdx_iff_getElem?.mp hn, hunknown⟩)
  · rintro ⟨i, x, hx, hv⟩
    refine ⟨(x, i), List.mk_mem_zipIdx_iff_getElem?.mpr hx, ?_⟩
    rw [entryViolations, List.mem_append, List.mem_append]
    rcases hv with ⟨rfl, hrep⟩ | ⟨rfl, hbad⟩ | ⟨j, n, rfl, hn, hunknown⟩
    · exact Or.inl (Or.inl (by rw [if_pos (mem_map_take_iff.mpr hrep)]; simp))
    · exact Or.inl (Or.inr (by rw [if_pos ((hstatus _).mpr hbad)]; simp))
    · exact Or.inr (List.mem_filterMap.mpr ⟨(n, j), List.mk_mem_zipIdx_iff_getElem?.mpr hn,
        if_neg hunknown⟩)

omit [DecidableEq κ] in
/-- Positions increase along a list. -/
lemma pairwise_zipIdx {β : Type} (ys : List β) : ys.zipIdx.Pairwise fun p q => p.2 < q.2 := by
  have hsnd : (ys.zipIdx.map Prod.snd).Pairwise (· < ·) := by
    rw [List.zipIdx_map_snd]
    exact List.pairwise_lt_range'
  exact List.pairwise_map.mp hsnd

/-- A violation of an entry stands with that entry. -/
lemma place_entryViolations {c : ℕ} (hrep : ∀ i, (repeated i).place = [c, i, 0])
    (hbad : ∀ i, (badStatus i).place = [c, i, 1])
    (hname : ∀ i j, (badName i j).place = [c, i, 2, j]) {p : α × ℕ} {v : Violation}
    (hv : v ∈ entryViolations key status names known repeated badStatus badName xs p) :
    ∃ rest, v.place = c :: p.2 :: rest := by
  rw [entryViolations, List.mem_append, List.mem_append] at hv
  rcases hv with (hv | hv) | hv
  · split at hv
    · exact ⟨[0], List.mem_singleton.mp hv ▸ hrep p.2⟩
    · cases hv
  · split at hv
    · exact ⟨[1], List.mem_singleton.mp hv ▸ hbad p.2⟩
    · cases hv
  · obtain ⟨⟨n, j⟩, -, hif⟩ := List.mem_filterMap.mp hv
    split at hif
    · cases hif
    · exact ⟨[2, j], Option.some.inj hif ▸ hname p.2 j⟩

/-- The violations of all entries are in the order of the report. -/
lemma pairwise_entryViolations {c : ℕ} (hrep : ∀ i, (repeated i).place = [c, i, 0])
    (hbad : ∀ i, (badStatus i).place = [c, i, 1])
    (hname : ∀ i j, (badName i j).place = [c, i, 2, j]) :
    (xs.zipIdx.flatMap
      (entryViolations key status names known repeated badStatus badName xs)).Pairwise
      fun v w => v.place < w.place := by
  refine List.pairwise_flatMap.mpr ⟨fun p _ => ?_, (pairwise_zipIdx xs).imp fun hlt v hv w hw => ?_⟩
  · rw [entryViolations, List.pairwise_append, List.pairwise_append]
    refine ⟨⟨?_, ?_, ?_⟩, ?_, ?_⟩
    · split <;> simp
    · split <;> simp
    · intro v hv w hw
      split at hv
      · split at hw
        · rw [List.mem_singleton.mp hv, List.mem_singleton.mp hw, hrep, hbad]
          simp [List.cons_lt_cons_iff]
        · cases hw
      · cases hv
    · rw [List.pairwise_filterMap]
      refine (pairwise_zipIdx (names p.1)).imp fun hlt v hv w hw => ?_
      split at hv
      · cases hv
      · split at hw
        · cases hw
        · rw [← Option.some.inj hv, ← Option.some.inj hw, hname, hname]
          simpa [List.cons_lt_cons_iff] using hlt
    · intro v hv w hw
      obtain ⟨⟨n, j⟩, -, hif⟩ := List.mem_filterMap.mp hw
      split at hif
      · cases hif
      · rw [← Option.some.inj hif, hname]
        rcases List.mem_append.mp hv with hv | hv
        · split at hv
          · rw [List.mem_singleton.mp hv, hrep]
            simp [List.cons_lt_cons_iff]
          · cases hv
        · split at hv
          · rw [List.mem_singleton.mp hv, hbad]
            simp [List.cons_lt_cons_iff]
          · cases hv
  · obtain ⟨rest, hv⟩ := place_entryViolations hrep hbad hname hv
    obtain ⟨rest', hw⟩ := place_entryViolations hrep hbad hname hw
    rw [hv, hw]
    simp [List.cons_lt_cons_iff, hlt]

end Entries

/-- The violations of a desired state, given the names that resolve. -/
def stateViolations (state : TenantState) (roleNames permissionNames : List String) :
    List Violation :=
  (if state.status ≠ statusActive then [.tenantStatus] else []) ++
  state.members.zipIdx.flatMap (entryViolations DesiredMember.userRef DesiredMember.status
    DesiredMember.roles roleNames .memberRepeated .memberStatus .memberRole state.members) ++
  state.agents.zipIdx.flatMap (entryViolations DesiredAgent.name DesiredAgent.status
    DesiredAgent.permissions permissionNames .agentRepeated .agentStatus .agentPermission
    state.agents)

lemma pairwise_stateViolations (state : TenantState) (roleNames permissionNames : List String) :
    (stateViolations state roleNames permissionNames).Pairwise fun v w => v.place < w.place := by
  have hmember : ∀ v ∈ state.members.zipIdx.flatMap (entryViolations DesiredMember.userRef
      DesiredMember.status DesiredMember.roles roleNames .memberRepeated .memberStatus .memberRole
      state.members), ∃ rest, v.place = 1 :: rest := by
    intro v hv
    obtain ⟨p, -, hv⟩ := List.mem_flatMap.mp hv
    obtain ⟨rest, hplace⟩ := place_entryViolations (c := 1) (fun _ => rfl) (fun _ => rfl)
      (fun _ _ => rfl) hv
    exact ⟨_, hplace⟩
  have hagent : ∀ v ∈ state.agents.zipIdx.flatMap (entryViolations DesiredAgent.name
      DesiredAgent.status DesiredAgent.permissions permissionNames .agentRepeated .agentStatus
      .agentPermission state.agents), ∃ rest, v.place = 2 :: rest := by
    intro v hv
    obtain ⟨p, -, hv⟩ := List.mem_flatMap.mp hv
    obtain ⟨rest, hplace⟩ := place_entryViolations (c := 2) (fun _ => rfl) (fun _ => rfl)
      (fun _ _ => rfl) hv
    exact ⟨_, hplace⟩
  have htenant : ∀ v ∈ (if state.status ≠ statusActive then [Violation.tenantStatus] else []),
      v.place = [0] := by
    intro v hv
    split at hv
    · exact List.mem_singleton.mp hv ▸ rfl
    · cases hv
  rw [stateViolations, List.pairwise_append, List.pairwise_append]
  refine ⟨⟨by split <;> simp, pairwise_entryViolations (fun _ => rfl) (fun _ => rfl)
    (fun _ _ => rfl), fun v hv w hw => ?_⟩, pairwise_entryViolations (fun _ => rfl) (fun _ => rfl)
    (fun _ _ => rfl), fun v hv w hw => ?_⟩
  · obtain ⟨rest, hplace⟩ := hmember w hw
    rw [htenant v hv, hplace]
    simp [List.cons_lt_cons_iff]
  · obtain ⟨rest, hplace⟩ := hagent w hw
    rcases List.mem_append.mp hv with hv | hv
    · rw [htenant v hv, hplace]
      simp [List.cons_lt_cons_iff]
    · obtain ⟨rest', hplace'⟩ := hmember v hv
      rw [hplace', hplace]
      simp [List.cons_lt_cons_iff]

/-- The issues are those of the violations. -/
lemma tenantStateIssues_eq (state : TenantState) (roleRows : List Role)
    (permRows : List Permission) :
    tenantStateIssues state roleRows permRows =
      (stateViolations state (roleRows.map Role.name) (permRows.map Permission.name)).map
        (Violation.issue state) := by
  rw [tenantStateIssues, stateViolations, List.map_append, List.map_append, issuesFrom_eq,
    issuesFrom_eq, List.map_flatMap, List.map_flatMap]
  congr 1
  · congr 1
    · split <;> rfl
    · refine List.flatMap_congr fun p hp => ?_
      rw [memberIssues, entryViolations, List.nil_append, List.map_append, List.map_append,
        List.map_filterMap]
      have hget := List.mem_zipIdx_iff_getElem?.mp hp
      congr 1
      · congr 1
        · split <;> rfl
        · split
          · simp [Violation.issue, hget]
          · rfl
      · refine List.filterMap_congr fun ⟨n, j⟩ hn => ?_
        have hn := List.mk_mem_zipIdx_iff_getElem?.mp hn
        dsimp only
        by_cases hknown : n ∈ roleRows.map Role.name
        · rw [if_pos hknown, if_pos hknown, Option.map_none]
        · rw [if_neg hknown, if_neg hknown]
          simp [Violation.issue, hget, hn]
  · refine List.flatMap_congr fun p hp => ?_
    rw [agentIssues, entryViolations, List.nil_append, List.map_append, List.map_append,
      List.map_filterMap]
    have hget := List.mem_zipIdx_iff_getElem?.mp hp
    congr 1
    · congr 1
      · split <;> rfl
      · split
        · simp [Violation.issue, hget]
        · rfl
    · refine List.filterMap_congr fun ⟨n, j⟩ hn => ?_
      have hn := List.mk_mem_zipIdx_iff_getElem?.mp hn
      dsimp only
      by_cases hknown : n ∈ permRows.map Permission.name
      · rw [if_pos hknown, if_pos hknown, Option.map_none]
      · rw [if_neg hknown, if_neg hknown]
        simp [Violation.issue, hget, hn]

/-! ### Names -/

namespace Tables

variable {t : Tables}

/-- What the loop of `_assignable_roles` finds under a name: the last role of the
tenant, else what was there, else the first application-wide role. -/
lemma lookup_foldl_assignable (n : String) : ∀ (rows d : List Role),
    lookup Role.name (rows.foldl (fun found r =>
      if r.tenantId ≠ none ∨ lookup Role.name found r.name = none then insertKey Role.name found r
      else found) d) n =
    ((rows.filter fun r => r.tenantId ≠ none ∧ r.name = n).getLast?).or
      ((lookup Role.name d n).or ((rows.filter fun r => r.tenantId = none).find? fun r => r.name = n))
  | [], d => by simp
  | r :: rows, d => by
      rw [List.foldl_cons, lookup_foldl_assignable n rows]
      by_cases hn : r.name = n
      · by_cases ht : r.tenantId = none
        · cases hl : lookup Role.name d n with
          | none => simp [hn, ht, hl, lookup_insertKey]
          | some x => simp [hn, ht, hl]
        · have hcons : (r :: rows).filter (fun r => r.tenantId ≠ none ∧ r.name = n) =
              r :: rows.filter fun r => r.tenantId ≠ none ∧ r.name = n := by simp [hn, ht]
          rw [hcons, List.getLast?_cons]
          cases (rows.filter fun r => r.tenantId ≠ none ∧ r.name = n).getLast? with
          | none => simp [hn, ht, lookup_insertKey]
          | some x => simp
      · have hsame : lookup Role.name (if r.tenantId ≠ none ∨ lookup Role.name d r.name = none then
            insertKey Role.name d r else d) n = lookup Role.name d n := by
          split
          · rw [lookup_insertKey, if_neg hn]
          · rfl
        rw [hsame]
        by_cases ht : r.tenantId = none <;> simp [hn, ht]

/-- A requested name is looked up among the roles of the tenant, then among the
application-wide ones. -/
lemma lookup_assignableRoles {tenantId applicationId : Option Id} {names : Finset String}
    {n : String} (hn : n ∈ names) :
    lookup Role.name (t.assignableRoles tenantId applicationId names) n =
      ((t.roles.filter fun r => r.applicationId = applicationId ∧ r.agentId = none ∧
          r.tenantId = tenantId ∧ r.tenantId ≠ none ∧ r.name = n).getLast?).or
        (t.roleByName applicationId none n) := by
  rw [assignableRoles, lookup_foldl_assignable, roleByName, namedRoles, lookup, lookup,
    List.find?_nil, Option.none_or, List.filter_filter, List.filter_filter]
  congr 1
  · congr 1
    refine List.filter_congr fun r _ => ?_
    by_cases hr : r.name = n
    · by_cases ht : r.tenantId = none <;> simp [hr, hn, ht, and_comm, and_left_comm]
    · simp [hr]
  · rw [List.find?_filter, List.find?_filter]
    congr 1
    funext r
    by_cases hr : r.name = n
    · by_cases ht : r.tenantId = none <;> simp [hr, hn, ht]
    · simp [hr]

/-- A name resolves to one row. -/
lemma nodup_assignableRoles (t : Tables) (tenant application : Option Id) (names : Finset String) :
    ((t.assignableRoles tenant application names).map Role.name).Nodup := by
  have haux : ∀ (rows found : List Role), (found.map Role.name).Nodup →
      ((rows.foldl (fun found r => if r.tenantId ≠ none ∨ lookup Role.name found r.name = none then
        insertKey Role.name found r else found) found).map Role.name).Nodup := by
    intro rows
    induction rows with
    | nil => exact fun _ hfound => hfound
    | cons r rows ih =>
        intro found hfound
        refine ih _ ?_
        dsimp only
        split
        · exact nodup_insertKey hfound r
        · exact hfound
  exact haux _ [] List.nodup_nil

lemma lookup_of_mem_assignableRoles {tenant application : Option Id} {names : Finset String}
    {r : Role} (hr : r ∈ t.assignableRoles tenant application names) :
    lookup Role.name (t.assignableRoles tenant application names) r.name = some r :=
  (lookup_eq_some_iff (t.nodup_assignableRoles tenant application names)).mpr ⟨hr, rfl⟩

/-- What a role name means for a tenant: its own role of that name, else the
application-wide one. -/
def resolveRole (t : Tables) (tenantId applicationId : Id) (name : String) : Option Role :=
  (t.roleByName (some applicationId) (some tenantId) name).or
    (t.roleByName (some applicationId) none name)

/-- **Role names resolve tenant-first.** -/
theorem lookup_assignableRoles_eq (hc : t.Constraints) {tenantId applicationId : Id}
    {names : Finset String} {n : String} (hn : n ∈ names) :
    lookup Role.name (t.assignableRoles (some tenantId) (some applicationId) names) n =
      t.resolveRole tenantId applicationId n := by
  rw [lookup_assignableRoles hn, resolveRole]
  congr 1
  cases hlast : (t.roles.filter fun r => r.applicationId = some applicationId ∧ r.agentId = none ∧
      r.tenantId = some tenantId ∧ r.tenantId ≠ none ∧ r.name = n).getLast? with
  | none =>
      rw [List.getLast?_eq_none_iff, List.filter_eq_nil_iff] at hlast
      refine (lookup_eq_none_iff.mpr fun r hr hname => ?_).symm
      obtain ⟨hr, ha, ht, hg⟩ := of_mem_namedRoles hr
      exact hlast r hr (by simp [ha, ht, hg, hname])
  | some r =>
      have hr := List.mem_of_getLast? hlast
      simp only [List.mem_filter, decide_eq_true_eq] at hr
      obtain ⟨hr, ha, hg, ht, -, hname⟩ := hr
      cases hl : t.roleByName (some applicationId) (some tenantId) n with
      | none =>
          refine absurd hname (lookup_eq_none_iff.mp hl r ?_)
          simp [namedRoles, hr, ha, hg, ht]
      | some r' =>
          obtain ⟨hr', ha', ht', -, hname'⟩ := of_roleByName hl
          rw [hc.roleKey.eq_of_key hr hr' (k := (tenantId, applicationId, n))
            (by simp [Role.uniqueKey, ha, ht, hname]) (by simp [Role.uniqueKey, ha', ht', hname'])]

/-! ### The report -/

variable {applicationId : Id} {tenantSlug : String} {state : TenantState}

/-- The tenant of a slug. -/
lemma lookup_slug_iff (hc : t.Constraints) {tenant : Tenant} :
    lookup Tenant.slug t.tenants tenantSlug = some tenant ↔
      tenant ∈ t.tenants ∧ tenant.slug = tenantSlug := lookup_eq_some_iff hc.tenantSlug

/-- The role names of a state that are known are those that resolve. -/
lemma mem_stateRoleRows_names (hc : t.Constraints) {n : String}
    (hn : n ∈ state.members.flatMap DesiredMember.roles) :
    n ∈ (t.stateRoleRows applicationId tenantSlug state).map Role.name ↔
      t.RoleResolves applicationId tenantSlug n := by
  have hn' : n ∈ (state.members.flatMap DesiredMember.roles).toFinset := by simpa using hn
  constructor
  · intro h
    obtain ⟨r, hr, rfl⟩ := List.mem_map.mp h
    obtain ⟨hr, ha, -, hg, ht⟩ := of_mem_assignableRoles hr
    refine ⟨r, hr, ha, rfl, hg, ?_⟩
    cases hl : lookup Tenant.slug t.tenants tenantSlug with
    | none => exact Or.inl (ht.elim (fun ht => by simpa [hl] using ht) id)
    | some tenant =>
        obtain ⟨hmem, hslug⟩ := (lookup_slug_iff hc).mp hl
        exact ht.symm.imp_right fun ht => ⟨tenant, hmem, hslug, by simpa [hl] using ht⟩
  · rintro ⟨r, hr, ha, hname, hg, ht⟩
    by_contra hnot
    have hnone : lookup Role.name (t.stateRoleRows applicationId tenantSlug state) n = none :=
      lookup_eq_none_iff.mpr fun r hr hname => hnot (hname ▸ List.mem_map_of_mem hr)
    rw [stateRoleRows, lookup_assignableRoles hn', Option.or_eq_none_iff] at hnone
    obtain ⟨hown, hdefault⟩ := hnone
    rcases ht with ht | ⟨tenant, hmem, hslug, ht⟩
    · refine lookup_eq_none_iff.mp hdefault r ?_ hname
      simp [namedRoles, hr, ha, hg, ht]
    · rw [List.getLast?_eq_none_iff, List.filter_eq_nil_iff] at hown
      refine hown r hr ?_
      simp [ha, hg, ht, hname, (lookup_slug_iff hc).mpr ⟨hmem, hslug⟩]

/-- The permission names of a state that are known are the active ones. -/
lemma mem_statePermRows_names {n : String}
    (hn : n ∈ state.agents.flatMap DesiredAgent.permissions) :
    n ∈ (t.statePermRows applicationId state).map Permission.name ↔
      t.PermissionActive applicationId n := by
  rw [statePermRows, activePermissions, mem_keys_ofList]
  constructor
  · intro h
    obtain ⟨q, hq, rfl⟩ := List.mem_map.mp h
    obtain ⟨hq, hcond⟩ := List.mem_filter.mp hq
    obtain ⟨ha, hactive, -⟩ := of_decide_eq_true hcond
    exact ⟨q, hq, ha, rfl, by simpa [Permission.active] using hactive⟩
  · rintro ⟨q, hq, ha, rfl, hd⟩
    exact List.mem_map_of_mem (List.mem_filter.mpr
      ⟨hq, decide_eq_true ⟨ha, by simp [Permission.active, hd], by simpa using hn⟩⟩)

/-- **The issues of a state** are those of its violations, each once, in the order of
the report. -/
theorem stateIssues_report (hc : t.Constraints) (applicationId : Id) (tenantSlug : String)
    (state : TenantState) :
    ∃ vs : List Violation,
      tenantStateIssues state (t.stateRoleRows applicationId tenantSlug state)
          (t.statePermRows applicationId state) = vs.map (Violation.issue state) ∧
        vs.Pairwise (fun v w => v.place < w.place) ∧
        ∀ v, v ∈ vs ↔ t.Violates applicationId tenantSlug state v := by
  refine ⟨_, tenantStateIssues_eq _ _ _, pairwise_stateViolations _ _ _, fun v => ?_⟩
  have hrole : ∀ {i j : ℕ} {m : DesiredMember} {n : String}, state.members[i]? = some m →
      m.roles[j]? = some n →
      (n ∉ (t.stateRoleRows applicationId tenantSlug state).map Role.name ↔
        ¬t.RoleResolves applicationId tenantSlug n) := fun hm hn => not_congr
    (mem_stateRoleRows_names hc (List.mem_flatMap.mpr
      ⟨_, List.mem_of_getElem? hm, List.mem_of_getElem? hn⟩))
  have hperm : ∀ {i j : ℕ} {a : DesiredAgent} {n : String}, state.agents[i]? = some a →
      a.permissions[j]? = some n →
      (n ∉ (t.statePermRows applicationId state).map Permission.name ↔
        ¬t.PermissionActive applicationId n) := fun ha hn => not_congr
    (mem_statePermRows_names (List.mem_flatMap.mpr
      ⟨_, List.mem_of_getElem? ha, List.mem_of_getElem? hn⟩))
  have htenant : v ∈ (if state.status ≠ statusActive then [Violation.tenantStatus] else []) ↔
      v = .tenantStatus ∧ state.status ≠ "active" := by
    by_cases hs : state.status = statusActive
    · simp [hs, statusActive]
    · simp only [ne_eq, hs, not_false_eq_true, if_true, List.mem_singleton]
      simpa [statusActive] using fun _ => hs
  rw [stateViolations, List.mem_append, List.mem_append, mem_entryViolations, mem_entryViolations,
    htenant]
  cases v with
  | tenantStatus => simp [Violates]
  | memberRepeated i => simp [Violates]
  | memberStatus i => simp [Violates]
  | memberRole i j =>
      simp only [Violates, reduceCtorEq, false_and, false_or, Violation.memberRole.injEq, or_false,
        and_false, exists_false]
      constructor
      · rintro ⟨i', m, hm, j', n, ⟨rfl, rfl⟩, hn, hunknown⟩
        exact ⟨m, hm, n, hn, (hrole hm hn).mp hunknown⟩
      · rintro ⟨m, hm, n, hn, hunresolved⟩
        exact ⟨i, m, hm, j, n, ⟨rfl, rfl⟩, hn, (hrole hm hn).mpr hunresolved⟩
  | agentRepeated i => simp [Violates]
  | agentStatus i => simp [Violates]
  | agentPermission i j =>
      simp only [Violates, reduceCtorEq, false_and, false_or, Violation.agentPermission.injEq,
        and_false, exists_false]
      constructor
      · rintro ⟨i', a, ha, j', n, ⟨rfl, rfl⟩, hn, hunknown⟩
        exact ⟨a, ha, n, hn, (hperm ha hn).mp hunknown⟩
      · rintro ⟨a, ha, n, hn, hinactive⟩
        exact ⟨i, a, ha, j, n, ⟨rfl, rfl⟩, hn, (hperm ha hn).mpr hinactive⟩

end Tables

end AuthzKit
