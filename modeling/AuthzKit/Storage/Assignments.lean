import AuthzKit.Storage.Invariant
import AuthzKit.Storage.Validation

/-!
The operations that assign roles and permissions by name.

`create_membership`, `set_membership_roles`, `set_agent_roles`, `set_role_permissions` and
`set_tenant_role_override` resolve the given names and make the links of an owner those of the rows
they found. The last three ask `UnknownNamesError.check` first; the two about memberships do not.

* `Assignment`: the five operations; `Assignment.target` is the row a name resolves to.
* `Assignment.NotSilent`: an assignment reports the names it does not know and writes nothing, or
  it leaves exactly one link for each name.
* `Assignment.Resolves`: when it does; `Reachable.notSilent_iff` says that it does then only.
-/

namespace AuthzKit

open Keyed Links

/-- A row whose key no other row has keeps the key unique. -/
theorem Unique.append_one {α κ : Type*} {key : α → Option κ} {rows : List α} (h : Unique key rows)
    {x : α} (hx : ∀ a ∈ rows, ∀ k, key a = some k → key x ≠ some k) : Unique key (rows ++ [x]) := by
  refine h.append ?_ fun a ha b hb k hk => ?_
  · rw [Unique, List.filterMap_cons]
    cases key x with
    | none => exact List.nodup_nil
    | some k => exact List.nodup_singleton k
  · obtain rfl := List.mem_singleton.mp hb
    exact hx a ha k hk

/-! ### Names and the rows they resolve to -/

/-- The answer to a query by several names: at most one row for each name, the one that a query
by this name alone finds. -/
structure Answers {α : Type} (key : α → String) (rows : List α) (names : Finset String)
    (find : String → Option α) : Prop where
  nodup : (rows.map key).Nodup
  keys : ∀ r ∈ rows, key r ∈ names
  lookup : ∀ n ∈ names, lookup key rows n = find n

namespace Answers

variable {α : Type} {key : α → String} {rows : List α} {names : Finset String}
  {find : String → Option α} {id : α → Id}

/-- The names without a row. -/
lemma sdiff_eq (h : Answers key rows names find) :
    names \ (rows.map key).toFinset = names.filter fun n => find n = none := by
  ext n
  rw [Finset.mem_sdiff, Finset.mem_filter, List.mem_toFinset]
  refine and_congr_right fun hn => ?_
  rw [← h.lookup n hn, lookup_eq_none_iff, List.mem_map]
  push Not
  exact Iff.rfl

/-- A row of the answer is the one its name finds. -/
lemma find_key (h : Answers key rows names find) {r : α} (hr : r ∈ rows) :
    find (key r) = some r := by
  rw [← h.lookup _ (h.keys r hr)]
  exact (lookup_eq_some_iff h.nodup).mpr ⟨hr, rfl⟩

/-- When every name finds a row, the ids of the rows are those of the names, one by one. -/
lemma exists_row (h : Answers key rows names find) (hall : ∀ n ∈ names, find n ≠ none)
    (hid : ∀ r ∈ rows, ∀ r' ∈ rows, id r = id r' → r = r') (owner : Id) :
    ∃ row : String → Id, (∀ n ∈ names, (find n).map id = some (row n)) ∧
      (rows.map id).toFinset.val.map (owner, ·) = names.val.map fun n => (owner, row n) := by
  have hrow : ∀ n ∈ names, ∃ r ∈ rows, key r = n ∧ find n = some r := by
    intro n hn
    obtain ⟨r, hr⟩ := Option.ne_none_iff_exists'.mp (hall n hn)
    obtain ⟨hmem, hkey⟩ := (lookup_eq_some_iff h.nodup).mp ((h.lookup n hn).trans hr)
    exact ⟨r, hmem, hkey, hr⟩
  refine ⟨fun n => ((find n).map id).getD "", fun n hn => ?_, ?_⟩
  · obtain ⟨r, -, -, hfind⟩ := hrow n hn
    simp only [hfind, Option.map_some, Option.getD_some]
  · have hleft : ((rows.map id).toFinset.val.map (owner, ·)).Nodup :=
      (rows.map id).toFinset.nodup.map fun a b hab => (Prod.mk.inj hab).2
    have hright : (names.val.map fun n => (owner, ((find n).map id).getD "")).Nodup := by
      refine Multiset.Nodup.map_on (fun n hn n' hn' heq => ?_) names.nodup
      obtain ⟨r, hr, hkey, hfind⟩ := hrow n hn
      obtain ⟨r', hr', hkey', hfind'⟩ := hrow n' hn'
      have hids : id r = id r' := by simpa [hfind, hfind'] using heq
      rw [← hkey, ← hkey', hid r hr r' hr' hids]
    refine (Multiset.Nodup.ext hleft hright).mpr fun p => ?_
    simp only [Multiset.mem_map, Finset.mem_val, List.mem_toFinset, List.mem_map]
    constructor
    · rintro ⟨i, ⟨r, hr, rfl⟩, rfl⟩
      exact ⟨key r, h.keys r hr, by rw [h.find_key hr]; rfl⟩
    · rintro ⟨n, hn, rfl⟩
      obtain ⟨r, hr, -, hfind⟩ := hrow n hn
      exact ⟨id r, ⟨r, hr, rfl⟩, by rw [hfind]; rfl⟩

/-- The check of the names given. -/
lemma checkNames_eq (h : Answers key rows names find) (kind : String) :
    checkNames kind names (rows.map key).toFinset =
      if (names.filter fun n => find n = none).Nonempty then
        .error (.unknownNames kind ((names.filter fun n => find n = none).sort (· ≤ ·)))
      else .ok () := by
  rw [checkNames, h.sdiff_eq]

/-- Two answers to queries of one table have the same ids exactly if they ask for the same among
the names that find a row. -/
lemma ids_eq_iff {rows' : List α} {names' : Finset String} (h : Answers key rows names find)
    (h' : Answers key rows' names' find)
    (hid : ∀ r ∈ rows, ∀ r' ∈ rows', id r = id r' → r = r') :
    (rows.map id).toFinset = (rows'.map id).toFinset ↔
      ∀ n, find n ≠ none → (n ∈ names ↔ n ∈ names') := by
  have hmem : ∀ {rows : List α} {names : Finset String}, Answers key rows names find →
      ∀ {n r}, n ∈ names → find n = some r → r ∈ rows ∧ key r = n := by
    intro rows names h n r hn hr
    exact (lookup_eq_some_iff h.nodup).mp ((h.lookup n hn).trans hr)
  constructor
  · intro heq n hn
    obtain ⟨r, hr⟩ := Option.ne_none_iff_exists'.mp hn
    constructor
    · intro hn
      obtain ⟨hrow, rfl⟩ := hmem h hn hr
      have hids : id r ∈ (rows'.map id).toFinset :=
        heq ▸ List.mem_toFinset.mpr (List.mem_map_of_mem hrow)
      obtain ⟨r', hr', hsame⟩ := List.mem_map.mp (List.mem_toFinset.mp hids)
      rw [hid r hrow r' hr' hsame.symm]
      exact h'.keys r' hr'
    · intro hn
      obtain ⟨hrow, rfl⟩ := hmem h' hn hr
      have hids : id r ∈ (rows.map id).toFinset :=
        heq ▸ List.mem_toFinset.mpr (List.mem_map_of_mem hrow)
      obtain ⟨r', hr', hsame⟩ := List.mem_map.mp (List.mem_toFinset.mp hids)
      rw [← hid r' hr' r hrow hsame]
      exact h.keys r' hr'
  · intro hsame
    ext i
    simp only [List.mem_toFinset, List.mem_map]
    constructor
    · rintro ⟨r, hr, rfl⟩
      have hfind := h.find_key hr
      have hn := (hsame (key r) (by simp [hfind])).mp (h.keys r hr)
      exact ⟨r, (hmem h' hn hfind).1, rfl⟩
    · rintro ⟨r, hr, rfl⟩
      have hfind := h'.find_key hr
      have hn := (hsame (key r) (by simp [hfind])).mpr (h'.keys r hr)
      exact ⟨r, (hmem h hn hfind).1, rfl⟩

/-- The diff to the rows found leaves one link for each name exactly if every name finds a row. -/
lemma replace_iff (h : Answers key rows names find) {links : Multiset (Id × Id)} {owner : Id}
    (hlinks : links.Nodup) (hid : ∀ r ∈ rows, ∀ r' ∈ rows, id r = id r' → r = r') :
    (∃ row : String → Id, (∀ n ∈ names, (find n).map id = some (row n)) ∧
      ((replace links owner (rows.map id).toFinset (others links owner)).filter
        fun p => p.1 = owner) = names.val.map fun n => (owner, row n)) ↔
      (names.filter fun n => find n = none) = ∅ := by
  rw [Finset.filter_eq_empty_iff]
  constructor
  · rintro ⟨row, hrow, -⟩ n hn hnone
    have hsome := hrow n hn
    rw [hnone] at hsome
    cases hsome
  · intro hall
    obtain ⟨row, hrow, hmap⟩ := h.exists_row (fun n hn => hall hn) hid owner
    refine ⟨row, hrow, ?_⟩
    rw [filter_owner (nodup_replace hlinks rfl), others_replace, hmap]

end Answers

/-- The diff of the links of one owner keeps references to rows that are there. -/
lemma refers_replace {links : Multiset (Id × Id)} {owner : Id} {ids current : Finset Id}
    {ownerIds otherIds : List Id} (h : ∀ p ∈ links, p.1 ∈ ownerIds ∧ p.2 ∈ otherIds)
    (howner : owner ∈ ownerIds) (hids : ∀ i ∈ ids, i ∈ otherIds) :
    ∀ p ∈ replace links owner ids current, p.1 ∈ ownerIds ∧ p.2 ∈ otherIds := by
  intro p hp
  rcases mem_of_mem_replace hp with hp | ⟨rfl, hi⟩
  · exact h p hp
  · exact ⟨howner, hids p.2 hi⟩

namespace Tables

variable {t : Tables}

/-- What `_assignable_roles` finds under one name. -/
def assignableRole (t : Tables) (tenantId applicationId : Option Id) (name : String) :
    Option Role :=
  lookup Role.name (t.assignableRoles tenantId applicationId {name}) name

/-- What `_active_permissions` finds under one name. -/
def activePermission (t : Tables) (applicationId : Option Id) (name : String) :
    Option Permission :=
  lookup Permission.name (t.activePermissions applicationId {name}) name

lemma answers_roles (t : Tables) (tenantId applicationId : Option Id) (names : Finset String) :
    Answers Role.name (t.assignableRoles tenantId applicationId names) names
      (t.assignableRole tenantId applicationId) where
  nodup := t.nodup_assignableRoles tenantId applicationId names
  keys := fun _ hr => (of_mem_assignableRoles hr).2.2.1
  lookup := fun n hn => by
    rw [assignableRole, lookup_assignableRoles hn, lookup_assignableRoles (by simp)]

lemma answers_permissions (t : Tables) (applicationId : Option Id) (names : Finset String) :
    Answers Permission.name (t.activePermissions applicationId names) names
      (t.activePermission applicationId) where
  nodup := nodup_ofList _
  keys := fun _ hq => (of_mem_activePermissions hq).2.2.2
  lookup := fun n hn => by
    rw [activePermission, activePermissions, activePermissions, lookup_ofList, lookup_ofList,
      List.filter_filter, List.filter_filter]
    refine congrArg List.getLast? (List.filter_congr fun q _ => ?_)
    by_cases hq : q.name = n
    · simp [hq, hn]
    · simp [hq]

/-- A role name is known exactly if the tenant or the application has a role of that name; the
internal roles of agents and the roles of other tenants do not count. -/
lemma assignableRole_eq_none_iff {tenantId applicationId : Option Id} {name : String} :
    t.assignableRole tenantId applicationId name = none ↔
      ∀ r ∈ t.roles, r.applicationId = applicationId → r.name = name → r.agentId = none →
        ¬(r.tenantId = tenantId ∨ r.tenantId = none) := by
  rw [assignableRole, lookup_assignableRoles (by simp), Option.or_eq_none_iff,
    List.getLast?_eq_none_iff, List.filter_eq_nil_iff, roleByName, lookup_eq_none_iff]
  simp only [namedRoles, List.mem_filter, decide_eq_true_eq]
  constructor
  · rintro ⟨hown, hwide⟩ r hr happ hname hagent (hten | hten)
    · by_cases hnone : r.tenantId = none
      · exact hwide r ⟨hr, happ, hnone, hagent⟩ hname
      · exact hown r hr ⟨happ, hagent, hten, hnone, hname⟩
    · exact hwide r ⟨hr, happ, hten, hagent⟩ hname
  · intro h
    refine ⟨fun r hr hown => ?_, fun r hr hname => ?_⟩
    · exact h r hr hown.1 hown.2.2.2.2 hown.2.1 (Or.inl hown.2.2.1)
    · exact h r hr.1 hr.2.1 hname hr.2.2.2 (Or.inr hr.2.2.1)

/-- A permission name is known exactly if the application has an active permission of that name:
deprecated ones do not count. -/
lemma activePermission_eq_none_iff {applicationId : Option Id} {name : String} :
    t.activePermission applicationId name = none ↔
      ∀ q ∈ t.permissions, q.applicationId = applicationId → q.name = name → q.active = false := by
  rw [activePermission, activePermissions, lookup_ofList, List.getLast?_eq_none_iff,
    List.filter_eq_nil_iff]
  simp only [List.mem_filter, decide_eq_true_eq, Finset.mem_singleton]
  constructor
  · intro h q hq happ hname
    by_contra hactive
    exact h q ⟨hq, happ, by simpa using hactive, hname⟩ hname
  · rintro h q ⟨hq, happ, hactive, hname⟩ -
    rw [h q hq happ hname] at hactive
    cases hactive

end Tables

/-! ### The five operations -/

/-- An assignment of names, with its arguments. -/
inductive Assignment where
  | createMembership (tenantId : Id) (applicationId : Option Id) (userId : Id) (status : String)
      (roles : Finset String)
  | setMembershipRoles (membershipId : Id) (roleNames : Finset String)
  | setAgentRoles (agentId : Id) (roleNames : Finset String)
  | setRolePermissions (roleId : Id) (permissionNames : Finset String)
  | setTenantRoleOverride (tenantId applicationId : Id) (name : String)
      (permissions : Finset String)
deriving DecidableEq

namespace Assignment

/-- The operation of the store. -/
def op : Assignment → Op
  | createMembership tenantId applicationId userId status roles =>
      .createMembership tenantId applicationId userId status roles
  | setMembershipRoles membershipId roleNames => .setMembershipRoles membershipId roleNames
  | setAgentRoles agentId roleNames => .setAgentRoles agentId roleNames
  | setRolePermissions roleId permissionNames => .setRolePermissions roleId permissionNames
  | setTenantRoleOverride tenantId applicationId name permissions =>
      .setTenantRoleOverride tenantId applicationId name permissions

/-- The names that are given. -/
def names : Assignment → Finset String
  | createMembership _ _ _ _ roles => roles
  | setMembershipRoles _ roleNames => roleNames
  | setAgentRoles _ roleNames => roleNames
  | setRolePermissions _ permissionNames => permissionNames
  | setTenantRoleOverride _ _ _ permissions => permissions

/-- What the names stand for, as an `UnknownNamesError` says it. -/
def kind : Assignment → String
  | createMembership .. | setMembershipRoles .. | setAgentRoles .. => "role"
  | setRolePermissions .. | setTenantRoleOverride .. => "permission"

/-- The link table that is written. -/
def links (t : Tables) : Assignment → Multiset (Id × Id)
  | createMembership .. | setMembershipRoles .. => t.membershipRoles
  | setAgentRoles .. => t.agentRoles
  | setRolePermissions .. | setTenantRoleOverride .. => t.rolePermissions

/-- The row whose links are written. -/
def owner (t : Tables) (uuid4 : UuidSource) : Assignment → Id
  | createMembership .. => uuid4 .row
  | setMembershipRoles membershipId _ => membershipId
  | setAgentRoles agentId _ => agentId
  | setRolePermissions roleId _ => roleId
  | setTenantRoleOverride tenantId applicationId name _ =>
      (t.overrideRole uuid4 tenantId applicationId name).2

/-- The row that a name resolves to; no name resolves for an owner that is not there. -/
def target (t : Tables) : Assignment → String → Option Id
  | createMembership tenantId applicationId _ _ _, n =>
      (t.assignableRole (some tenantId) applicationId n).map Role.id
  | setMembershipRoles membershipId _, n =>
      (lookup Membership.id t.memberships membershipId).bind fun m =>
        (t.assignableRole (some m.tenantId) m.applicationId n).map Role.id
  | setAgentRoles agentId _, n =>
      (lookup Agent.id t.agents agentId).bind fun a =>
        (t.assignableRole (some a.tenantId) (some a.applicationId) n).map Role.id
  | setRolePermissions roleId _, n =>
      (lookup Role.id t.roles roleId).bind fun r =>
        (t.activePermission r.applicationId n).map Permission.id
  | setTenantRoleOverride _ applicationId _ _, n =>
      (t.activePermission (some applicationId) n).map Permission.id

/-- The names that do not resolve. -/
def unknown (t : Tables) (a : Assignment) : Finset String :=
  a.names.filter fun n => a.target t n = none

/-- The owner is linked to one row for each name, and to nothing else. -/
def LinkedExactly (t : Tables) (uuid4 : UuidSource) (t' : Tables) (a : Assignment) : Prop :=
  ∃ row : String → Id, (∀ n ∈ a.names, a.target t n = some (row n)) ∧
    ((a.links t').filter fun p => p.1 = a.owner t uuid4) =
      a.names.val.map fun n => (a.owner t uuid4, row n)

/-- **No silent success**: the operation raises an `UnknownNamesError` that lists exactly the names
that do not resolve, and writes nothing; or it returns, and the owner is linked to exactly one row
for each name. -/
def NotSilent (s : SqlAlchemyStore) (uuid4 : UuidSource) (a : Assignment) : Prop :=
  match s.perform a.op uuid4 with
  | .error e =>
      (a.unknown s.tables).Nonempty ∧
        e = .unknownNames a.kind ((a.unknown s.tables).sort (· ≤ ·)) ∧ s.next a.op uuid4 = s
  | .ok s' => a.LinkedExactly s.tables uuid4 s'.tables

/-- The database takes the row that the operation inserts, if it inserts one: a membership of
nobody who has one in the application, or an override whose name no internal role has; and what
the row refers to is there, where references are enforced. -/
def Insertable (s : SqlAlchemyStore) : Assignment → Prop
  | createMembership tenantId applicationId userId _ _ =>
      (∀ m ∈ s.tables.memberships, applicationId ≠ none →
        ¬(m.tenantId = tenantId ∧ m.applicationId = applicationId ∧ m.userId = userId)) ∧
      (s.engine.foreignKeys = true → tenantId ∈ s.tables.tenants.map Tenant.id ∧
        RefersTo (s.tables.applications.map Application.id) applicationId ∧
        userId ∈ s.tables.users.map User.id)
  | setTenantRoleOverride tenantId applicationId name _ =>
      (∀ r ∈ s.tables.roles, r.tenantId = some tenantId → r.applicationId = some applicationId →
        r.name = name → r.agentId = none) ∧
      (s.engine.foreignKeys = true → tenantId ∈ s.tables.tenants.map Tenant.id ∧
        applicationId ∈ s.tables.applications.map Application.id)
  | _ => True

/-- When an assignment is not silent. The two operations on memberships need names that all
resolve; the others need an owner that is there. -/
def Resolves (s : SqlAlchemyStore) (a : Assignment) : Prop :=
  match a with
  | createMembership .. => a.unknown s.tables = ∅ ∧ a.Insertable s
  | setMembershipRoles .. => a.unknown s.tables = ∅
  | setAgentRoles agentId roleNames =>
      agentId ∈ s.tables.agents.map Agent.id ∨ roleNames = ∅
  | setRolePermissions roleId permissionNames =>
      roleId ∈ s.tables.roles.map Role.id ∨ permissionNames = ∅
  | setTenantRoleOverride .. => (a.unknown s.tables).Nonempty ∨ a.Insertable s

end Assignment

/-! ### What an operation returns -/

namespace SqlAlchemyStore

variable {s : SqlAlchemyStore} {op : Op} {uuid4 : UuidSource} {t' : Tables} {e : StoreError}

/-- Tables that the database accepts are the new state. -/
lemma perform_ok (h : op.tables uuid4 s.tables = .ok t') (hc : t'.Constraints)
    (hfk : s.engine.foreignKeys = true → t'.ForeignKeys) :
    s.perform op uuid4 = .ok ⟨s.engine, t', hc, hfk⟩ :=
  perform_eq_ok_iff.mpr ⟨rfl, h⟩

/-- An operation raises what its body raises. -/
lemma perform_error (h : op.tables uuid4 s.tables = .error e) : s.perform op uuid4 = .error e := by
  rw [perform, transaction, h]
  rfl

/-- Tables that the database does not accept are an `IntegrityError`. -/
lemma perform_refused (h : op.tables uuid4 s.tables = .ok t')
    (hno : ¬(t'.Constraints ∧ (s.engine.foreignKeys = true → t'.ForeignKeys))) :
    s.perform op uuid4 = .error .integrityError := by
  rw [perform, transaction, h]
  simp only [Except.map, commit, dif_neg hno]

end SqlAlchemyStore

namespace Assignment

variable {s : SqlAlchemyStore} {uuid4 : UuidSource} {a : Assignment}

lemma notSilent_of_ok {s' : SqlAlchemyStore} (h : s.perform a.op uuid4 = .ok s') :
    a.NotSilent s uuid4 ↔ a.LinkedExactly s.tables uuid4 s'.tables := by
  rw [NotSilent, h]

lemma notSilent_of_error {e : StoreError} (h : s.perform a.op uuid4 = .error e) :
    a.NotSilent s uuid4 ↔ (a.unknown s.tables).Nonempty ∧
      e = .unknownNames a.kind ((a.unknown s.tables).sort (· ≤ ·)) := by
  rw [NotSilent, SqlAlchemyStore.next, h]
  simp

/-- A call for an owner that is not there returns without a link: that is silent unless no names
were given. -/
lemma notSilent_absent (hop : a.op.tables uuid4 s.tables = .ok s.tables)
    (hnone : ∀ n, a.target s.tables n = none)
    (hlinks : ∀ i, (a.owner s.tables uuid4, i) ∉ a.links s.tables) :
    a.NotSilent s uuid4 ↔ a.names = ∅ := by
  rw [notSilent_of_ok (SqlAlchemyStore.perform_ok hop s.constraints s.foreignKeys)]
  constructor
  · rintro ⟨row, hrow, -⟩
    refine Finset.eq_empty_of_forall_notMem fun n hn => ?_
    have hsome := hrow n hn
    rw [hnone n] at hsome
    cases hsome
  · intro hempty
    refine ⟨fun _ => "", by simp [hempty], ?_⟩
    rw [hempty, Finset.empty_val, Multiset.map_zero, Multiset.filter_eq_nil]
    rintro ⟨o, i⟩ hp rfl
    exact hlinks i hp

/-! ### Links of an owner that is there -/

/-- A role found by name is a row of the table. -/
lemma roles_refer {tenantId applicationId : Option Id} {names : Finset String} :
    ∀ i ∈ Tables.roleIds (s.tables.assignableRoles tenantId applicationId names),
      i ∈ s.tables.roles.map Role.id := by
  intro i hi
  obtain ⟨r, hr, rfl⟩ := Tables.mem_roleIds.mp hi
  exact List.mem_map_of_mem (Tables.of_mem_assignableRoles hr).1

/-- A permission found by name is a row of the table. -/
lemma permissions_refer {applicationId : Option Id} {names : Finset String} :
    ∀ i ∈ Tables.permissionIds (s.tables.activePermissions applicationId names),
      i ∈ s.tables.permissions.map Permission.id := by
  intro i hi
  obtain ⟨q, hq, rfl⟩ := Tables.mem_permissionIds.mp hi
  exact List.mem_map_of_mem (Tables.of_mem_activePermissions hq).1

lemma roles_inj {tenantId applicationId : Option Id} {names : Finset String} :
    ∀ r ∈ s.tables.assignableRoles tenantId applicationId names,
      ∀ r' ∈ s.tables.assignableRoles tenantId applicationId names, r.id = r'.id → r = r' :=
  fun _ hr _ hr' hid => List.inj_on_of_nodup_map s.constraints.roleId
    (Tables.of_mem_assignableRoles hr).1 (Tables.of_mem_assignableRoles hr').1 hid

lemma permissions_inj {applicationId : Option Id} {names : Finset String} :
    ∀ q ∈ s.tables.activePermissions applicationId names,
      ∀ q' ∈ s.tables.activePermissions applicationId names, q.id = q'.id → q = q' :=
  fun _ hq _ hq' hid => List.inj_on_of_nodup_map s.constraints.permissionId
    (Tables.of_mem_activePermissions hq).1 (Tables.of_mem_activePermissions hq').1 hid

/-- The unknown names of an assignment whose names are resolved by `find`. -/
lemma unknown_eq {α : Type} {find : String → Option α} {id : α → Id}
    (htarget : ∀ n, a.target s.tables n = (find n).map id) :
    a.unknown s.tables = a.names.filter fun n => find n = none := by
  rw [unknown]
  refine Finset.filter_congr fun n _ => ?_
  rw [htarget, Option.map_eq_none_iff]

variable (uuid4) in
/-- What `set_membership_roles` does for a membership that is there. -/
lemma setMembershipRoles_present {membershipId : Id} (roleNames : Finset String) {m : Membership}
    (hm : lookup Membership.id s.tables.memberships membershipId = some m) :
    (∃ s', s.perform (setMembershipRoles membershipId roleNames).op uuid4 = .ok s') ∧
      ((setMembershipRoles membershipId roleNames).NotSilent s uuid4 ↔
        (setMembershipRoles membershipId roleNames).unknown s.tables = ∅) := by
  have hid : membershipId ∈ s.tables.memberships.map Membership.id :=
    key_of_lookup hm ▸ List.mem_map_of_mem (mem_of_lookup hm)
  have htarget : ∀ n, (setMembershipRoles membershipId roleNames).target s.tables n =
      (s.tables.assignableRole (some m.tenantId) m.applicationId n).map Role.id :=
    fun n => by rw [target, hm, Option.bind_some]
  have hop : (setMembershipRoles membershipId roleNames).op.tables uuid4 s.tables =
      .ok { s.tables with
        membershipRoles := replace s.tables.membershipRoles membershipId
          (Tables.roleIds (s.tables.assignableRoles (some m.tenantId) m.applicationId roleNames))
          (others s.tables.membershipRoles membershipId) } := by
    rw [op, Op.tables, Tables.setMembershipRoles, hm]
    rfl
  have hperform := SqlAlchemyStore.perform_ok hop
    { s.constraints with membershipRoles := nodup_replace s.constraints.membershipRoles rfl }
    fun hfk => { s.foreignKeys hfk with
      membershipRoles := refers_replace (s.foreignKeys hfk).membershipRoles hid roles_refer }
  refine ⟨⟨_, hperform⟩, ?_⟩
  rw [notSilent_of_ok hperform, unknown_eq htarget]
  simp only [LinkedExactly, htarget]
  exact (s.tables.answers_roles _ _ roleNames).replace_iff s.constraints.membershipRoles roles_inj

/-- **`set_membership_roles`** drops the names it does not know. -/
lemma setMembershipRoles_iff (hw : s.tables.WellFormed) {membershipId : Id}
    {roleNames : Finset String} :
    (setMembershipRoles membershipId roleNames).NotSilent s uuid4 ↔
      (setMembershipRoles membershipId roleNames).Resolves s := by
  rw [Resolves]
  cases hm : lookup Membership.id s.tables.memberships membershipId with
  | none =>
      have htarget : ∀ n, (setMembershipRoles membershipId roleNames).target s.tables n = none :=
        fun n => by rw [target, hm, Option.bind_none]
      have hunknown : (setMembershipRoles membershipId roleNames).unknown s.tables = roleNames := by
        rw [unknown, Finset.filter_true_of_mem fun n _ => htarget n, names]
      rw [hunknown]
      refine notSilent_absent ?_ htarget fun i hp => ?_
      · rw [op, Op.tables, Tables.setMembershipRoles, hm]
        rfl
      · obtain ⟨m, hmem, -, -, hid, -⟩ := hw.membershipLinks _ hp
        exact lookup_eq_none_iff.mp hm m hmem hid
  | some m => exact (setMembershipRoles_present uuid4 roleNames hm).2

/-- **An operation that checks the names first** is never silent for an owner that is there. -/
lemma notSilent_checked {α : Type} {key : α → String} {rows : List α}
    {find : String → Option α} (id : α → Id) (t' : Tables) (h : Answers key rows a.names find)
    (htarget : ∀ n, a.target s.tables n = (find n).map id)
    (hid : ∀ r ∈ rows, ∀ r' ∈ rows, id r = id r' → r = r')
    (hop : a.op.tables uuid4 s.tables =
      match checkNames a.kind a.names (rows.map key).toFinset with
      | .error e => .error e
      | .ok () => .ok t')
    (hlinks : (a.links s.tables).Nodup)
    (hreplace : a.links t' = replace (a.links s.tables) (a.owner s.tables uuid4)
      (rows.map id).toFinset (others (a.links s.tables) (a.owner s.tables uuid4)))
    (hc : t'.Constraints) (hfk : s.engine.foreignKeys = true → t'.ForeignKeys) :
    a.NotSilent s uuid4 := by
  rw [h.checkNames_eq, ← unknown_eq htarget] at hop
  by_cases hunknown : (a.unknown s.tables).Nonempty
  · rw [if_pos hunknown] at hop
    exact (notSilent_of_error (SqlAlchemyStore.perform_error hop)).mpr ⟨hunknown, rfl⟩
  · rw [if_neg hunknown] at hop
    rw [notSilent_of_ok (SqlAlchemyStore.perform_ok hop hc hfk)]
    rw [Finset.not_nonempty_iff_eq_empty, unknown_eq htarget] at hunknown
    simp only [LinkedExactly, htarget, hreplace]
    exact (h.replace_iff hlinks hid).mpr hunknown

/-- **`set_agent_roles`** is not silent for an agent that is there. -/
lemma setAgentRoles_iff (hw : s.tables.WellFormed) {agentId : Id} {roleNames : Finset String} :
    (setAgentRoles agentId roleNames).NotSilent s uuid4 ↔
      (setAgentRoles agentId roleNames).Resolves s := by
  rw [Resolves]
  cases ha : lookup Agent.id s.tables.agents agentId with
  | none =>
      have habsent : agentId ∉ s.tables.agents.map Agent.id := fun hmem => by
        obtain ⟨a, hmem, hid⟩ := List.mem_map.mp hmem
        exact lookup_eq_none_iff.mp ha a hmem hid
      rw [or_iff_right habsent]
      refine notSilent_absent ?_ (fun n => ?_) fun i hp => ?_
      · rw [op, Op.tables, Tables.setAgentRoles, ha]
        rfl
      · rw [target, ha, Option.bind_none]
      · exact habsent (Tables.linked_ids (hw.agentLinks _ hp)).1
  | some agent =>
      have hmem : agentId ∈ s.tables.agents.map Agent.id :=
        key_of_lookup ha ▸ List.mem_map_of_mem (mem_of_lookup ha)
      refine iff_of_true ?_ (Or.inl hmem)
      refine notSilent_checked Role.id
        { s.tables with
          agentRoles := replace s.tables.agentRoles agentId
            (Tables.roleIds (s.tables.assignableRoles (some agent.tenantId)
              (some agent.applicationId) roleNames)) (others s.tables.agentRoles agentId) }
        (s.tables.answers_roles (some agent.tenantId) (some agent.applicationId) roleNames)
        (fun n => ?_) roles_inj ?_ s.constraints.agentRoles rfl
        { s.constraints with agentRoles := nodup_replace s.constraints.agentRoles rfl }
        fun hfk => { s.foreignKeys hfk with
          agentRoles := refers_replace (s.foreignKeys hfk).agentRoles hmem roles_refer }
      · rw [target, ha, Option.bind_some]
      · rw [op, Op.tables, Tables.setAgentRoles, ha]
        simp only [kind, names]
        cases checkNames "role" roleNames ((s.tables.assignableRoles (some agent.tenantId)
          (some agent.applicationId) roleNames).map Role.name).toFinset with
        | error e => rfl
        | ok _ => rfl

/-- **`set_role_permissions`** is not silent for a role that is there. -/
lemma setRolePermissions_iff (hw : s.tables.WellFormed) {roleId : Id}
    {permissionNames : Finset String} :
    (setRolePermissions roleId permissionNames).NotSilent s uuid4 ↔
      (setRolePermissions roleId permissionNames).Resolves s := by
  rw [Resolves]
  cases hr : lookup Role.id s.tables.roles roleId with
  | none =>
      have habsent : roleId ∉ s.tables.roles.map Role.id := fun hmem => by
        obtain ⟨r, hmem, hid⟩ := List.mem_map.mp hmem
        exact lookup_eq_none_iff.mp hr r hmem hid
      rw [or_iff_right habsent]
      refine notSilent_absent ?_ (fun n => ?_) fun i hp => ?_
      · rw [op, Op.tables, Tables.setRolePermissions, hr]
        rfl
      · rw [target, hr, Option.bind_none]
      · exact habsent (Tables.linked_ids (hw.permissionLinks _ hp)).1
  | some role =>
      have hmem : roleId ∈ s.tables.roles.map Role.id :=
        key_of_lookup hr ▸ List.mem_map_of_mem (mem_of_lookup hr)
      refine iff_of_true ?_ (Or.inl hmem)
      refine notSilent_checked Permission.id
        { s.tables with
          rolePermissions := replace s.tables.rolePermissions roleId
            (Tables.permissionIds (s.tables.activePermissions role.applicationId permissionNames))
            (others s.tables.rolePermissions roleId) }
        (s.tables.answers_permissions role.applicationId permissionNames) (fun n => ?_)
        permissions_inj ?_ s.constraints.rolePermissions rfl
        { s.constraints with rolePermissions := nodup_replace s.constraints.rolePermissions rfl }
        fun hfk => { s.foreignKeys hfk with
          rolePermissions := refers_replace (s.foreignKeys hfk).rolePermissions hmem
            permissions_refer }
      · rw [target, hr, Option.bind_some]
      · rw [op, Op.tables, Tables.setRolePermissions, hr]
        simp only [kind, names]
        cases checkNames "permission" permissionNames ((s.tables.activePermissions
          role.applicationId permissionNames).map Permission.name).toFinset with
        | error e => rfl
        | ok _ => rfl

variable (uuid4) in
/-- What `set_role_permissions` leaves when every name is known. -/
lemma setRolePermissions_known {roleId : Id} {permissionNames : Finset String} {role : Role}
    (hr : lookup Role.id s.tables.roles roleId = some role)
    (hknown : ∀ n ∈ permissionNames, s.tables.activePermission role.applicationId n ≠ none) :
    ∃ s', s.perform (setRolePermissions roleId permissionNames).op uuid4 = .ok s' ∧
      s'.engine = s.engine ∧ s'.tables = { s.tables with
        rolePermissions := replace s.tables.rolePermissions roleId
          (Tables.permissionIds (s.tables.activePermissions role.applicationId permissionNames))
          (others s.tables.rolePermissions roleId) } := by
  have hmem : roleId ∈ s.tables.roles.map Role.id :=
    key_of_lookup hr ▸ List.mem_map_of_mem (mem_of_lookup hr)
  have hnone : ¬(permissionNames.filter fun n =>
      s.tables.activePermission role.applicationId n = none).Nonempty := by
    rw [Finset.not_nonempty_iff_eq_empty, Finset.filter_eq_empty_iff]
    exact hknown
  have hop : (setRolePermissions roleId permissionNames).op.tables uuid4 s.tables =
      .ok { s.tables with
        rolePermissions := replace s.tables.rolePermissions roleId
          (Tables.permissionIds (s.tables.activePermissions role.applicationId permissionNames))
          (others s.tables.rolePermissions roleId) } := by
    rw [op, Op.tables, Tables.setRolePermissions, hr]
    simp only [(s.tables.answers_permissions role.applicationId permissionNames).checkNames_eq,
      if_neg hnone]
    rfl
  exact ⟨_, SqlAlchemyStore.perform_ok hop
    { s.constraints with rolePermissions := nodup_replace s.constraints.rolePermissions rfl }
    fun hfk => { s.foreignKeys hfk with
      rolePermissions := refers_replace (s.foreignKeys hfk).rolePermissions hmem
        permissions_refer }, rfl, rfl⟩

/-! ### Operations that insert a row -/

/-- What `create_membership` leaves: the new membership, and the links to the roles it found. -/
lemma createMembership_tables {tenantId userId : Id} {applicationId : Option Id} {status : String}
    {roles : Finset String} {n : ℕ} (hf : Fresh uuid4 s.tables (Draw.Within n)) :
    (createMembership tenantId applicationId userId status roles).op.tables uuid4 s.tables =
      .ok { s.tables with
        memberships := s.tables.memberships ++
          [{ id := uuid4 .row, tenantId, applicationId, userId, status }]
        membershipRoles := replace s.tables.membershipRoles (uuid4 .row)
          (Tables.roleIds (s.tables.assignableRoles (some tenantId) applicationId roles))
          (others s.tables.membershipRoles (uuid4 .row)) } := by
  have hothers : others s.tables.membershipRoles (uuid4 .row) = ∅ := by
    refine Finset.eq_empty_of_forall_notMem fun i hi => ?_
    exact ((hf.unused .row (Nat.zero_le n)).membershipRoles _ (mem_others.mp hi)).1 rfl
  rw [op, Op.tables, Tables.createMembership, hothers]
  by_cases hroles : roles.Nonempty
  · simp only [if_pos hroles]
    rfl
  · have hempty : roles = ∅ := Finset.not_nonempty_iff_eq_empty.mp hroles
    have hnone : Tables.roleIds (s.tables.assignableRoles (some tenantId) applicationId ∅) = ∅ := by
      refine Finset.eq_empty_of_forall_notMem fun i hi => ?_
      obtain ⟨r, hr, -⟩ := Tables.mem_roleIds.mp hi
      exact Finset.notMem_empty _ (Tables.of_mem_assignableRoles hr).2.2.1
    simp only [hempty, hnone, replace_self]
    rfl

/-- The database takes the tables of `create_membership` exactly if it takes the membership. -/
lemma createMembership_accepted {tenantId userId : Id} {applicationId : Option Id} {status : String}
    {roles : Finset String} {n : ℕ} (hf : Fresh uuid4 s.tables (Draw.Within n)) {t' : Tables}
    (ht' : (createMembership tenantId applicationId userId status roles).op.tables uuid4 s.tables =
      .ok t') :
    (t'.Constraints ∧ (s.engine.foreignKeys = true → t'.ForeignKeys)) ↔
      (createMembership tenantId applicationId userId status roles).Insertable s := by
  rw [createMembership_tables hf] at ht'
  obtain rfl := Except.ok.inj ht'
  have hunused := hf.unused .row (Nat.zero_le n)
  rw [Insertable]
  constructor
  · rintro ⟨hc, hfk⟩
    refine ⟨fun m hm happ hkey => ?_, fun hengine => ?_⟩
    · obtain ⟨app, rfl⟩ := Option.ne_none_iff_exists'.mp happ
      obtain ⟨hten, happ, huser⟩ := hkey
      have heq := hc.membershipKey.eq_of_key (List.mem_append_left _ hm)
        (List.mem_append_right _ (List.mem_singleton_self _)) (k := (tenantId, app, userId))
        (by simp [Membership.uniqueKey, hten, happ, huser]) (by simp [Membership.uniqueKey])
      exact (hunused.memberships m hm).1 (congrArg Membership.id heq)
    · exact (hfk hengine).memberships _ (List.mem_append_right _ (List.mem_singleton_self _))
  · rintro ⟨hkey, hrefers⟩
    refine ⟨{ s.constraints with
      membershipId := ?_
      membershipKey := ?_
      membershipRoles := nodup_replace s.constraints.membershipRoles rfl }, fun hengine =>
      { s.foreignKeys hengine with
        memberships := ?_
        membershipRoles := ?_ }⟩
    · rw [List.map_append]
      refine List.Nodup.append s.constraints.membershipId (List.nodup_singleton _) ?_
      rintro i hi hi'
      obtain ⟨m, hm, rfl⟩ := List.mem_map.mp hi
      exact (hunused.memberships m hm).1 (by simpa using hi')
    · refine s.constraints.membershipKey.append_one fun m hm k hk hk' => ?_
      obtain ⟨app, happ, rfl⟩ := Option.map_eq_some_iff.mp hk'
      obtain ⟨app', happ', hkeys⟩ := Option.map_eq_some_iff.mp hk
      simp only [Prod.mk.injEq] at hkeys
      obtain ⟨hten, rfl, huser⟩ := hkeys
      exact hkey m hm (Option.ne_none_iff_exists'.mpr ⟨app', happ⟩)
        ⟨hten, happ'.trans happ.symm, huser⟩
    · intro m hm
      rcases List.mem_append.mp hm with hm | hm
      · exact (s.foreignKeys hengine).memberships m hm
      · obtain rfl := List.mem_singleton.mp hm
        exact hrefers hengine
    · refine refers_replace (fun p hp => ?_) ?_ roles_refer
      · have hold := (s.foreignKeys hengine).membershipRoles p hp
        exact ⟨by simp [hold.1], hold.2⟩
      · simp

/-- **`create_membership`** drops the names it does not know, too. -/
lemma createMembership_iff {tenantId userId : Id} {applicationId : Option Id} {status : String}
    {roles : Finset String} {n : ℕ} (hf : Fresh uuid4 s.tables (Draw.Within n)) :
    (createMembership tenantId applicationId userId status roles).NotSilent s uuid4 ↔
      (createMembership tenantId applicationId userId status roles).Resolves s := by
  have hop : (createMembership tenantId applicationId userId status roles).op.tables uuid4
      s.tables = .ok _ := createMembership_tables hf
  have haccepted := createMembership_accepted hf hop
  rw [Resolves]
  by_cases hinsert : (createMembership tenantId applicationId userId status roles).Insertable s
  · obtain ⟨hc, hfk⟩ := haccepted.mpr hinsert
    have htarget : ∀ n, (createMembership tenantId applicationId userId status roles).target
        s.tables n = (s.tables.assignableRole (some tenantId) applicationId n).map Role.id :=
      fun n => rfl
    rw [notSilent_of_ok (SqlAlchemyStore.perform_ok hop hc hfk), and_iff_left hinsert,
      unknown_eq htarget]
    exact (s.tables.answers_roles _ _ roles).replace_iff s.constraints.membershipRoles roles_inj
  · rw [notSilent_of_error (SqlAlchemyStore.perform_refused hop fun h => hinsert (haccepted.mp h))]
    refine iff_of_false ?_ fun h => hinsert h.2
    rintro ⟨-, he⟩
    cases he

/-- The tables of `set_tenant_role_override` when all names resolve. -/
def overrideTables (t : Tables) (uuid4 : UuidSource) (tenantId applicationId : Id) (name : String)
    (permissions : Finset String) : Tables :=
  { t with
    roles := (t.overrideRole uuid4 tenantId applicationId name).1
    rolePermissions := replace t.rolePermissions
      (t.overrideRole uuid4 tenantId applicationId name).2
      (Tables.permissionIds (t.activePermissions (some applicationId) permissions))
      (others t.rolePermissions (t.overrideRole uuid4 tenantId applicationId name).2) }

/-- The database takes the tables of `set_tenant_role_override` exactly if it takes the override,
or the override is there already. -/
lemma override_accepted {tenantId applicationId : Id} {name : String} {permissions : Finset String}
    {n : ℕ} (hf : Fresh uuid4 s.tables (Draw.Within n)) :
    ((overrideTables s.tables uuid4 tenantId applicationId name permissions).Constraints ∧
      (s.engine.foreignKeys = true →
        (overrideTables s.tables uuid4 tenantId applicationId name permissions).ForeignKeys)) ↔
      (setTenantRoleOverride tenantId applicationId name permissions).Insertable s := by
  have hunused := hf.unused .row (Nat.zero_le n)
  rw [Insertable, overrideTables, Tables.overrideRole]
  cases hrole : s.tables.roleByName (some applicationId) (some tenantId) name with
  | some o =>
      obtain ⟨hmem, happ, hten, hagent, hname⟩ := Tables.of_roleByName hrole
      refine iff_of_true ⟨?_, fun hengine => ?_⟩ ⟨fun r hr hrten hrapp hrname => ?_, fun hengine => ?_⟩
      · exact { s.constraints with
          rolePermissions := nodup_replace s.constraints.rolePermissions rfl }
      · exact { s.foreignKeys hengine with
          rolePermissions := refers_replace (s.foreignKeys hengine).rolePermissions
            (List.mem_map_of_mem hmem) permissions_refer }
      · have heq := s.constraints.roleKey.eq_of_key hr hmem (k := (tenantId, applicationId, name))
          (by simp [Role.uniqueKey, hrten, hrapp, hrname])
          (by simp [Role.uniqueKey, hten, happ, hname])
        rw [heq, hagent]
      · have hrefers := (s.foreignKeys hengine).roles o hmem
        rw [hten, happ] at hrefers
        exact ⟨hrefers.1, hrefers.2.1⟩
  | none =>
      constructor
      · rintro ⟨hc, hfk⟩
        refine ⟨fun r hr hrten hrapp hrname => ?_, fun hengine => ?_⟩
        · have heq := hc.roleKey.eq_of_key (List.mem_append_left _ hr)
            (List.mem_append_right _ (List.mem_singleton_self _))
            (k := (tenantId, applicationId, name))
            (by simp [Role.uniqueKey, hrten, hrapp, hrname]) (by simp [Role.uniqueKey])
          exact congrArg Role.agentId heq
        · have hrefers := (hfk hengine).roles _
            (List.mem_append_right _ (List.mem_singleton_self _))
          exact ⟨hrefers.1, hrefers.2.1⟩
      · rintro ⟨hkey, hrefers⟩
        refine ⟨{ s.constraints with
          roleId := ?_
          roleKey := ?_
          rolePermissions := nodup_replace s.constraints.rolePermissions rfl }, fun hengine =>
          { s.foreignKeys hengine with
            roles := ?_
            membershipRoles := ?_
            rolePermissions := ?_
            agentRoles := ?_ }⟩
        · rw [List.map_append]
          refine List.Nodup.append s.constraints.roleId (List.nodup_singleton _) ?_
          rintro i hi hi'
          obtain ⟨r, hr, rfl⟩ := List.mem_map.mp hi
          exact (hunused.roles r hr).1 (by simpa using hi')
        · refine s.constraints.roleKey.append_one fun r hr k hk hk' => ?_
          simp only [Role.uniqueKey, Option.bind_some, Option.map_some, Option.some.injEq] at hk'
          subst hk'
          obtain ⟨ten, hten, hk⟩ := Option.bind_eq_some_iff.mp hk
          obtain ⟨app, happ, hk⟩ := Option.map_eq_some_iff.mp hk
          simp only [Prod.mk.injEq] at hk
          obtain ⟨rfl, rfl, hname⟩ := hk
          refine lookup_eq_none_iff.mp hrole r ?_ hname
          simp [Tables.namedRoles, hr, hten, happ, hkey r hr hten happ hname]
        · intro r hr
          rcases List.mem_append.mp hr with hr | hr
          · exact (s.foreignKeys hengine).roles r hr
          · obtain rfl := List.mem_singleton.mp hr
            exact ⟨(hrefers hengine).1, (hrefers hengine).2, trivial⟩
        · intro p hp
          have hold := (s.foreignKeys hengine).membershipRoles p hp
          exact ⟨hold.1, by simp [hold.2]⟩
        · refine refers_replace (fun p hp => ?_) (by simp) permissions_refer
          have hold := (s.foreignKeys hengine).rolePermissions p hp
          exact ⟨by simp [hold.1], hold.2⟩
        · intro p hp
          have hold := (s.foreignKeys hengine).agentRoles p hp
          exact ⟨hold.1, by simp [hold.2]⟩

/-- **`set_tenant_role_override`** is not silent where its override is accepted or its names are
refused before. -/
lemma setTenantRoleOverride_iff {tenantId applicationId : Id} {name : String}
    {permissions : Finset String} {n : ℕ} (hf : Fresh uuid4 s.tables (Draw.Within n)) :
    (setTenantRoleOverride tenantId applicationId name permissions).NotSilent s uuid4 ↔
      (setTenantRoleOverride tenantId applicationId name permissions).Resolves s := by
  have htarget : ∀ n, (setTenantRoleOverride tenantId applicationId name permissions).target
      s.tables n = (s.tables.activePermission (some applicationId) n).map Permission.id :=
    fun n => rfl
  have hanswers := s.tables.answers_permissions (some applicationId) permissions
  have hop : (setTenantRoleOverride tenantId applicationId name permissions).op.tables uuid4
      s.tables =
      match checkNames "permission" permissions
        ((s.tables.activePermissions (some applicationId) permissions).map
          Permission.name).toFinset with
      | .error e => .error e
      | .ok () => .ok (overrideTables s.tables uuid4 tenantId applicationId name permissions) := by
    rw [op, Op.tables, Tables.setTenantRoleOverride]
    cases checkNames "permission" permissions ((s.tables.activePermissions (some applicationId)
      permissions).map Permission.name).toFinset with
    | error e => rfl
    | ok _ => rfl
  rw [Resolves]
  by_cases hinsert :
      (setTenantRoleOverride tenantId applicationId name permissions).Insertable s
  · obtain ⟨hc, hfk⟩ := (override_accepted hf).mpr hinsert
    refine iff_of_true ?_ (Or.inr hinsert)
    exact notSilent_checked Permission.id
      (overrideTables s.tables uuid4 tenantId applicationId name permissions) hanswers htarget
      permissions_inj hop s.constraints.rolePermissions rfl hc hfk
  · rw [or_iff_left hinsert]
    have hfilter : (setTenantRoleOverride tenantId applicationId name permissions).unknown s.tables =
        permissions.filter fun n => s.tables.activePermission (some applicationId) n = none :=
      unknown_eq htarget
    rw [hanswers.checkNames_eq, ← hfilter] at hop
    by_cases hunknown :
        ((setTenantRoleOverride tenantId applicationId name permissions).unknown s.tables).Nonempty
    · rw [if_pos hunknown] at hop
      refine iff_of_true ?_ hunknown
      exact (notSilent_of_error (SqlAlchemyStore.perform_error hop)).mpr ⟨hunknown, rfl⟩
    · rw [if_neg hunknown] at hop
      rw [notSilent_of_error (SqlAlchemyStore.perform_refused hop
        fun h => hinsert ((override_accepted hf).mp h))]
      exact and_iff_left_of_imp fun h => absurd h hunknown

end Assignment

/-! ### Every reachable store -/

/-- **When an assignment of names is not silent**, in every reachable store. -/
theorem SqlAlchemyStore.Reachable.notSilent_iff {s : SqlAlchemyStore} (h : s.Reachable)
    {uuid4 : UuidSource} (a : Assignment) (hf : Fresh uuid4 s.tables (Draw.Within 0)) :
    a.NotSilent s uuid4 ↔ a.Resolves s := by
  cases a with
  | createMembership tenantId applicationId userId status roles =>
      exact Assignment.createMembership_iff hf
  | setMembershipRoles membershipId roleNames =>
      exact Assignment.setMembershipRoles_iff h.wellFormed
  | setAgentRoles agentId roleNames => exact Assignment.setAgentRoles_iff h.wellFormed
  | setRolePermissions roleId permissionNames =>
      exact Assignment.setRolePermissions_iff h.wellFormed
  | setTenantRoleOverride tenantId applicationId name permissions =>
      exact Assignment.setTenantRoleOverride_iff hf

end AuthzKit
