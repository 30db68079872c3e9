import AuthzKit.Relational.Redirect
import AuthzKit.Storage.Isolation
import AuthzKit.Storage.RoleViews

/-!
Deleting a tenant's override of a default role commutes with role assignments.

While the override is there, the tenant's assignments of its name link its row; afterwards they
link the default row. Deleting it moves the first to the second, so an assignment may as well run
after the deletion: it resolves the name to the default, and its diffs start from the moved links.

* `Overridden`: the override `o` of the default role `d`, in tables the operations left.
* `withoutOverride`: the tables `delete_tenant_role_override` leaves.
* `lookup_assignableRoles_without`: what a name resolves to afterwards.
* `createMembership_without`, `setMembershipRoles_without`, `setAgentRoles_without`: single
  assignments.
* `otherReads_without`: the reads of other pairs do not see the override.
* `overridden_of_set`: what `set_tenant_role_override` adds, the deletion takes away.
-/

namespace AuthzKit

open Keyed Links

namespace Tables

variable {t t' : Tables} {tenantId applicationId : Id} {name : String} {o d : Role}

/-- The tables without the override `o` of the default role `d`. -/
def withoutOverride (t : Tables) (o d : Role) : Tables :=
  { t with
    membershipRoles := redirect t.membershipRoles o.id d.id
    agentRoles := redirect t.agentRoles o.id d.id
    rolePermissions := t.rolePermissions.filter fun p => p.1 ≠ o.id
    roles := t.roles.filter fun r => r.id ≠ o.id }

/-- The tenant overrides a default role, in tables that the operations left. -/
structure Overridden (t : Tables) (tenantId applicationId : Id) (name : String) (o d : Role) :
    Prop where
  constraints : t.Constraints
  wellFormed : t.WellFormed
  override : t.roleByName (some applicationId) (some tenantId) name = some o
  default : t.roleByName (some applicationId) none name = some d

/-- The row that takes the place of a role. -/
def standIn (o d r : Role) : Role := if r = o then d else r

namespace Overridden

variable (h : t.Overridden tenantId applicationId name o d)

include h

lemma override_spec : o ∈ t.roles ∧ o.applicationId = some applicationId ∧
    o.tenantId = some tenantId ∧ o.agentId = none ∧ o.name = name := of_roleByName h.override

lemma default_spec : d ∈ t.roles ∧ d.applicationId = some applicationId ∧ d.tenantId = none ∧
    d.agentId = none ∧ d.name = name := of_roleByName h.default

/-- A row with the id of the override is the override. -/
lemma eq_override {r : Role} (hr : r ∈ t.roles) (hid : r.id = o.id) : r = o :=
  List.inj_on_of_nodup_map h.constraints.roleId hr h.override_spec.1 hid

lemma default_ne : d ≠ o := by
  intro heq
  have hten := h.override_spec.2.2.1
  rw [← heq, h.default_spec.2.2.1] at hten
  cases hten

lemma default_id_ne : d.id ≠ o.id := fun hid =>
  h.default_ne (h.eq_override h.default_spec.1 hid)

/-- `delete_tenant_role_override`. -/
theorem delete_eq : t.deleteTenantRoleOverride tenantId applicationId name =
    .ok (t.withoutOverride o d, ()) := by
  rw [deleteTenantRoleOverride, h.override]
  simp only [h.default]
  rfl

/-- Internal roles may come in between. -/
lemma of_roles {u : Tables} (hc : u.Constraints) (hw : u.WellFormed) {new : List Role}
    (hroles : u.roles = t.roles ++ new) (hnew : ∀ r ∈ new, r.agentId ≠ none) :
    u.Overridden tenantId applicationId name o d := by
  have hnamed : ∀ application tenant, u.namedRoles application tenant =
      t.namedRoles application tenant := by
    intro application tenant
    have hnone : new.filter (fun r => r.applicationId = application ∧ r.tenantId = tenant ∧
        r.agentId = none) = [] :=
      List.filter_eq_nil_iff.mpr fun r hr hp => hnew r hr (of_decide_eq_true hp).2.2
    rw [namedRoles, namedRoles, hroles, List.filter_append, hnone, List.append_nil]
  refine ⟨hc, hw, ?_, ?_⟩
  · rw [roleByName, hnamed]
    exact h.override
  · rw [roleByName, hnamed]
    exact h.default

lemma of_roles_eq {u : Tables} (hc : u.Constraints) (hw : u.WellFormed)
    (hroles : u.roles = t.roles) : u.Overridden tenantId applicationId name o d :=
  h.of_roles hc hw (hroles.trans (List.append_nil _).symm) fun _ hr => absurd hr List.not_mem_nil

lemma id_standIn {r : Role} (hr : r ∈ t.roles) : (standIn o d r).id = moved o.id d.id r.id := by
  rw [standIn]
  split
  · rename_i heq
    rw [heq, moved_self]
  · rename_i hne
    rw [moved_of_ne fun hid => hne (h.eq_override hr hid)]

lemma name_standIn (r : Role) : (standIn o d r).name = r.name := by
  rw [standIn]
  split
  · rename_i heq
    rw [heq, h.default_spec.2.2.2.2, h.override_spec.2.2.2.2]
  · rfl

/-! ### Names -/

/-- Rows that are not the override stay. -/
lemma filter_without {p : Role → Prop} [DecidablePred p] (hp : ¬p o) :
    (t.withoutOverride o d).roles.filter (fun r => p r) = t.roles.filter fun r => p r := by
  rw [withoutOverride, List.filter_filter]
  refine List.filter_congr fun r hr => ?_
  by_cases hid : r.id = o.id
  · rw [h.eq_override hr hid]
    simp [hp]
  · simp [hid]

lemma defaultByName_without (application : Option Id) (n : String) :
    (t.withoutOverride o d).roleByName application none n = t.roleByName application none n := by
  rw [roleByName, roleByName, namedRoles, namedRoles, h.filter_without]
  rintro ⟨-, hten, -⟩
  rw [h.override_spec.2.2.1] at hten
  cases hten

/-- The tables without the override meet the constraints of the database. -/
lemma constraints_without : (t.withoutOverride o d).Constraints :=
  { h.constraints with
    roleId := h.constraints.roleId.sublist (List.filter_sublist.map _)
    roleKey := h.constraints.roleKey.filter _
    membershipRoles := nodup_redirect h.constraints.membershipRoles
    rolePermissions := h.constraints.rolePermissions.filter _
    agentRoles := nodup_redirect h.constraints.agentRoles }

/-- No override of the name is left. -/
lemma overrideByName_without :
    (t.withoutOverride o d).roleByName (some applicationId) (some tenantId) name = none := by
  refine lookup_eq_none_iff.mpr fun r hr hname => ?_
  obtain ⟨hmem, happ, hten, -⟩ := of_mem_namedRoles hr
  obtain ⟨hr, hid⟩ := List.mem_filter.mp hmem
  obtain ⟨ho, hoapp, hoten, -, honame⟩ := h.override_spec
  have heq : r = o := h.constraints.roleKey.eq_of_key hr ho (k := (tenantId, applicationId, name))
    (by simp [Role.uniqueKey, happ, hten, hname]) (by simp [Role.uniqueKey, hoapp, hoten, honame])
  exact of_decide_eq_true hid (congrArg Role.id heq)

/-- **What a name resolves to without the override**: the row that takes the place. -/
theorem lookup_assignableRoles_without (tenant application : Option Id) {names : Finset String}
    {n : String} (hn : n ∈ names) :
    lookup Role.name ((t.withoutOverride o d).assignableRoles tenant application names) n =
      (lookup Role.name (t.assignableRoles tenant application names) n).map (standIn o d) := by
  obtain ⟨ho, happ, hten, hagent, hname⟩ := h.override_spec
  by_cases hpair : tenant = some tenantId ∧ application = some applicationId ∧ n = name
  · obtain ⟨rfl, rfl, rfl⟩ := hpair
    rw [lookup_assignableRoles_eq h.constraints_without hn, lookup_assignableRoles_eq h.constraints hn,
      resolveRole, resolveRole, h.overrideByName_without, h.defaultByName_without, h.override,
      h.default]
    simp [standIn]
  · have hother : ∀ r, (lookup Role.name (t.assignableRoles tenant application names) n) = some r →
        standIn o d r = r := by
      intro r hl
      refine if_neg fun heq => ?_
      obtain ⟨-, hrapp, -, -, hrten⟩ := of_mem_assignableRoles (mem_of_lookup hl)
      rw [heq] at hrapp hrten
      refine hpair ⟨?_, hrapp.symm.trans happ, (key_of_lookup hl).symm.trans (heq ▸ hname)⟩
      exact hrten.elim (fun h' => h'.symm.trans hten) fun h' => by rw [hten] at h'; cases h'
    have hsame : lookup Role.name ((t.withoutOverride o d).assignableRoles tenant application names) n =
        lookup Role.name (t.assignableRoles tenant application names) n := by
      rw [lookup_assignableRoles hn, lookup_assignableRoles hn, h.defaultByName_without,
        h.filter_without fun hp => hpair
          ⟨hp.2.2.1.symm.trans hten, hp.1.symm.trans happ, hp.2.2.2.2.symm.trans hname⟩]
    rw [hsame]
    cases hl : lookup Role.name (t.assignableRoles tenant application names) n with
    | none => rfl
    | some r => rw [Option.map_some, hother r hl]

/-- A row that resolves without the override takes the place of one that resolves with it. -/
lemma mem_assignableRoles_without {tenant application : Option Id} {names : Finset String}
    {r' : Role} : r' ∈ (t.withoutOverride o d).assignableRoles tenant application names ↔
      ∃ r ∈ t.assignableRoles tenant application names, standIn o d r = r' := by
  constructor
  · intro hr'
    have hname := (of_mem_assignableRoles hr').2.2.1
    have hl := lookup_of_mem_assignableRoles hr'
    rw [h.lookup_assignableRoles_without tenant application hname] at hl
    obtain ⟨r, hr, hstands⟩ := Option.map_eq_some_iff.mp hl
    exact ⟨r, mem_of_lookup hr, hstands⟩
  · rintro ⟨r, hr, rfl⟩
    have hname := (of_mem_assignableRoles hr).2.2.1
    have hl := h.lookup_assignableRoles_without tenant application hname
    rw [lookup_of_mem_assignableRoles hr, Option.map_some] at hl
    exact mem_of_lookup hl

lemma roleIds_without (tenant application : Option Id) (names : Finset String) :
    roleIds ((t.withoutOverride o d).assignableRoles tenant application names) =
      (roleIds (t.assignableRoles tenant application names)).image (moved o.id d.id) := by
  ext i
  rw [mem_roleIds, Finset.mem_image]
  constructor
  · rintro ⟨r', hr', rfl⟩
    obtain ⟨r, hr, rfl⟩ := h.mem_assignableRoles_without.mp hr'
    exact ⟨r.id, mem_roleIds.mpr ⟨r, hr, rfl⟩, (h.id_standIn (of_mem_assignableRoles hr).1).symm⟩
  · rintro ⟨_, hi, rfl⟩
    obtain ⟨r, hr, rfl⟩ := mem_roleIds.mp hi
    exact ⟨_, h.mem_assignableRoles_without.mpr ⟨r, hr, rfl⟩,
      h.id_standIn (of_mem_assignableRoles hr).1⟩

/-- The same names resolve. -/
lemma names_without (tenant application : Option Id) (names : Finset String) {n : String} :
    n ∈ ((t.withoutOverride o d).assignableRoles tenant application names).map Role.name ↔
      n ∈ (t.assignableRoles tenant application names).map Role.name := by
  rw [List.mem_map, List.mem_map]
  constructor
  · rintro ⟨r', hr', rfl⟩
    obtain ⟨r, hr, rfl⟩ := h.mem_assignableRoles_without.mp hr'
    exact ⟨r, hr, (h.name_standIn r).symm⟩
  · rintro ⟨r, hr, rfl⟩
    exact ⟨_, h.mem_assignableRoles_without.mpr ⟨r, hr, rfl⟩, h.name_standIn r⟩

/-! ### Single assignments -/

/-- Assigning names to one owner, before or after the deletion. -/
lemma redirect_assigned {links : Multiset (Id × Id)} (hlinks : links.Nodup) (owner : Id)
    (tenant application : Option Id) (names : Finset String) :
    redirect (replace links owner (roleIds (t.assignableRoles tenant application names))
        (others links owner)) o.id d.id =
      replace (redirect links o.id d.id) owner
        (roleIds ((t.withoutOverride o d).assignableRoles tenant application names))
        (others (redirect links o.id d.id) owner) := by
  rw [redirect_replace h.default_id_ne hlinks rfl, h.roleIds_without, others_redirect h.default_id_ne]

lemma createMembership_without {uuid4 : UuidSource} {tenant user : Id} {application : Option Id}
    {status : String} {roles : Finset String} {r : Membership × Finset String}
    (hfresh : ∀ i, (uuid4 .row, i) ∉ t.membershipRoles)
    (hop : t.createMembership uuid4 tenant application user status roles = .ok (t', r)) :
    ∃ r', (t.withoutOverride o d).createMembership uuid4 tenant application user status roles =
      .ok (t'.withoutOverride o d, r') := by
  obtain ⟨rfl, -⟩ := Prod.mk.inj (Except.ok.inj hop)
  refine ⟨_, congrArg Except.ok (Prod.ext ?_ rfl)⟩
  dsimp only
  by_cases hroles : roles.Nonempty
  · have hcur : others t.membershipRoles (uuid4 .row) = ∅ :=
      Finset.eq_empty_iff_forall_notMem.mpr fun i hi => hfresh i (mem_others.mp hi)
    have hlinks := h.redirect_assigned h.constraints.membershipRoles (uuid4 .row) (some tenant)
      application roles
    rw [others_redirect h.default_id_ne, hcur, Finset.image_empty] at hlinks
    rw [if_pos hroles, if_pos hroles]
    exact congrArg (fun links => { t.withoutOverride o d with
      memberships := t.memberships ++ [Membership.mk (uuid4 .row) tenant application user status]
      membershipRoles := links }) hlinks.symm
  · rw [if_neg hroles, if_neg hroles]
    rfl

lemma setMembershipRoles_without {membershipId : Id} {names : Finset String} {u : Unit}
    (hop : t.setMembershipRoles membershipId names = .ok (t', u)) :
    (t.withoutOverride o d).setMembershipRoles membershipId names =
      .ok (t'.withoutOverride o d, ()) := by
  rw [setMembershipRoles] at hop ⊢
  have hmemberships : lookup Membership.id (t.withoutOverride o d).memberships membershipId =
      lookup Membership.id t.memberships membershipId := rfl
  rw [hmemberships]
  cases hl : lookup Membership.id t.memberships membershipId with
  | none =>
      rw [hl] at hop
      obtain ⟨rfl, -⟩ := Prod.mk.inj (Except.ok.inj hop)
      rfl
  | some m =>
      rw [hl] at hop
      obtain ⟨rfl, -⟩ := Prod.mk.inj (Except.ok.inj hop)
      have hlinks := h.redirect_assigned h.constraints.membershipRoles membershipId
        (some m.tenantId) m.applicationId names
      exact congrArg (fun links => (Except.ok ({ t.withoutOverride o d with
        membershipRoles := links }, ()) : Except StoreError (Tables × Unit))) hlinks.symm

lemma setAgentRoles_without {agentId : Id} {names : Finset String} {u : Unit}
    (hop : t.setAgentRoles agentId names = .ok (t', u)) :
    (t.withoutOverride o d).setAgentRoles agentId names = .ok (t'.withoutOverride o d, ()) := by
  rw [setAgentRoles] at hop ⊢
  have hagents : lookup Agent.id (t.withoutOverride o d).agents agentId =
      lookup Agent.id t.agents agentId := rfl
  rw [hagents]
  cases hl : lookup Agent.id t.agents agentId with
  | none =>
      rw [hl] at hop
      obtain ⟨rfl, -⟩ := Prod.mk.inj (Except.ok.inj hop)
      rfl
  | some a =>
      rw [hl] at hop
      have hnames : (((t.withoutOverride o d).assignableRoles (some a.tenantId)
          (some a.applicationId) names).map Role.name).toFinset =
          ((t.assignableRoles (some a.tenantId) (some a.applicationId) names).map
            Role.name).toFinset := by
        ext n
        rw [List.mem_toFinset, List.mem_toFinset, h.names_without]
      dsimp only at hop ⊢
      rw [hnames]
      split at hop
      · cases hop
      · obtain ⟨rfl, -⟩ := Prod.mk.inj (Except.ok.inj hop)
        have hlinks := h.redirect_assigned h.constraints.agentRoles agentId (some a.tenantId)
          (some a.applicationId) names
        exact congrArg (fun links => (Except.ok ({ t.withoutOverride o d with
          agentRoles := links }, ()) : Except StoreError (Tables × Unit))) hlinks.symm

/-! ### Desired states -/

/-- The roles of a state resolve as they do without the override. -/
lemma stateRoleRows_without (application : Id) (tenantSlug : String) (state : TenantState)
    {n : String} (hn : n ∈ state.members.flatMap DesiredMember.roles) :
    lookup Role.name ((t.withoutOverride o d).stateRoleRows application tenantSlug state) n =
      (lookup Role.name (t.stateRoleRows application tenantSlug state) n).map (standIn o d) :=
  h.lookup_assignableRoles_without _ _ (List.mem_toFinset.mpr hn)

/-- A state has the same issues without the override. -/
lemma issues_without (application : Id) (tenantSlug : String) (state : TenantState) :
    tenantStateIssues state ((t.withoutOverride o d).stateRoleRows application tenantSlug state)
        ((t.withoutOverride o d).statePermRows application state) =
      tenantStateIssues state (t.stateRoleRows application tenantSlug state)
        (t.statePermRows application state) := by
  have hmembers : memberIssues ((t.withoutOverride o d).stateRoleRows application tenantSlug state) =
      memberIssues (t.stateRoleRows application tenantSlug state) := by
    funext before m i
    rw [memberIssues, memberIssues]
    congr 1
    refine List.filterMap_congr fun p _ => ?_
    refine if_congr ?_ rfl rfl
    exact h.names_without _ _ _
  rw [tenantStateIssues, tenantStateIssues, hmembers]
  rfl

/-! ### What else the deletion leaves -/

omit h in
lemma mem_roleIds_without {i : Id} (hi : i ∈ t.roles.map Role.id) (hne : i ≠ o.id) :
    i ∈ (t.withoutOverride o d).roles.map Role.id := by
  obtain ⟨r, hr, rfl⟩ := List.mem_map.mp hi
  exact List.mem_map_of_mem (List.mem_filter.mpr ⟨hr, decide_eq_true hne⟩)

lemma redirect_refers {links : Multiset (Id × Id)} {owners : List Id}
    (hlinks : ∀ p ∈ links, p.1 ∈ owners ∧ p.2 ∈ t.roles.map Role.id) :
    ∀ p ∈ redirect links o.id d.id,
      p.1 ∈ owners ∧ p.2 ∈ (t.withoutOverride o d).roles.map Role.id := by
  rintro ⟨x, i⟩ hp
  obtain ⟨hne, hlink | ⟨rfl, hlink⟩⟩ := mem_redirect.mp hp
  · exact ⟨(hlinks _ hlink).1, mem_roleIds_without (hlinks _ hlink).2 hne⟩
  · exact ⟨(hlinks _ hlink).1,
      mem_roleIds_without (List.mem_map_of_mem h.default_spec.1) h.default_id_ne⟩

/-- References stay good. -/
lemma foreignKeys_without (hfk : t.ForeignKeys) : (t.withoutOverride o d).ForeignKeys :=
  { hfk with
    roles := fun r hr => hfk.roles r (List.mem_filter.mp hr).1
    membershipRoles := h.redirect_refers hfk.membershipRoles
    rolePermissions := fun p hp => by
      obtain ⟨hp, hne⟩ := Multiset.mem_filter.mp hp
      exact ⟨mem_roleIds_without (hfk.rolePermissions p hp).1 hne, (hfk.rolePermissions p hp).2⟩
    agentRoles := h.redirect_refers hfk.agentRoles }

/-- **No other pair reads the override.** -/
theorem otherReads_without {otherTenant otherApp : Id}
    (hne : (otherTenant, otherApp) ≠ (tenantId, applicationId)) :
    SameReads otherTenant otherApp t (t.withoutOverride o d) := by
  have hview := deleteTenantRoleOverride_view h.constraints h.wellFormed h.delete_eq hne
  have hevolves := deleteTenantRoleOverride_evolves h.constraints h.wellFormed h.delete_eq
  exact hview.reads h.constraints h.wellFormed h.constraints_without
    (hevolves.wellFormed h.wellFormed)

end Overridden

/-! ### Setting the override -/

/-- **What a new override adds, its deletion takes away.** -/
theorem overridden_of_set {uuid4 : UuidSource} {permissions : Finset String} {u : Unit}
    (hw : t.WellFormed) (hc' : t'.Constraints) (hf : t.Unused (uuid4 .row))
    (hd : t.roleByName (some applicationId) none name = some d)
    (hnone : t.roleByName (some applicationId) (some tenantId) name = none)
    (hop : t.setTenantRoleOverride uuid4 tenantId applicationId name permissions = .ok (t', u)) :
    ∃ o, t'.Overridden tenantId applicationId name o d ∧ t'.withoutOverride o d = t := by
  have hw' := (setTenantRoleOverride_evolves hop).wellFormed hw
  rw [setTenantRoleOverride, overrideRole, hnone] at hop
  dsimp only at hop
  split at hop
  · cases hop
  obtain ⟨rfl, -⟩ := Prod.mk.inj (Except.ok.inj hop)
  have hnot : ∀ {links : Multiset (Id × Id)}, (∀ p ∈ links, p.1 ≠ uuid4 .row ∧ p.2 ≠ uuid4 .row) →
      ∀ x, (x, uuid4 .row) ∉ links := fun hlinks x hx => (hlinks _ hx).2 rfl
  have howner : ∀ i, (uuid4 .row, i) ∉ t.rolePermissions := fun i hi =>
    (hf.rolePermissions _ hi).1 rfl
  have hcur : others t.rolePermissions (uuid4 .row) = ∅ :=
    Finset.eq_empty_iff_forall_notMem.mpr fun i hi => howner i (mem_others.mp hi)
  refine ⟨_, ⟨hc', hw', (roleByName_eq_some_iff hc').mpr ⟨mem_namedRoles.mpr
    ⟨List.mem_append_right _ (List.mem_singleton_self _), rfl, rfl, rfl⟩, rfl⟩, ?_⟩, ?_⟩
  · rw [roleByName, namedRoles, List.filter_append, List.filter_cons_of_neg (by simp),
      List.filter_nil, List.append_nil]
    exact hd
  · have hrows : ∀ o : Role, o.id = uuid4 .row →
        (t.roles ++ [o]).filter (fun r => r.id ≠ uuid4 .row) = t.roles := by
      intro o ho
      rw [List.filter_append, List.filter_cons_of_neg (by simp [ho]), List.filter_nil,
        List.append_nil]
      exact List.filter_eq_self.mpr fun r hr => decide_eq_true (hf.roles r hr).1
    rw [withoutOverride]
    simp only [redirect_of_not_held (hnot hf.membershipRoles),
      redirect_of_not_held (hnot hf.agentRoles), hcur, filter_replace_self howner, hrows]

end Tables

end AuthzKit
