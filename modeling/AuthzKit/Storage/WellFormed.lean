import AuthzKit.Provisioning

/-!
The invariant of the tables, and what one transaction may do to them.

The database knows primary keys and unique columns only. That a link joins rows
of one tenant and one application, that an internal role belongs to an agent, that
a user has one identity: these are up to the operations.

* `Tables.WellFormed`: the invariant. `Linked` says what a link joins.
* `Tables.Evolves`: what an operation may do. Rows keep their identity (`ident`),
  and what is new is well formed.
* `Evolves.wellFormed`: an evolution keeps the invariant.
-/

namespace AuthzKit

/-! ### The columns no operation changes -/

abbrev Membership.ident (m : Membership) : Id × Id × Option Id × Id :=
  (m.id, m.tenantId, m.applicationId, m.userId)

abbrev Role.ident (r : Role) : Id × Option Id × Option Id × String × Option Id :=
  (r.id, r.tenantId, r.applicationId, r.name, r.agentId)

abbrev Permission.ident (q : Permission) : Id × Option Id × String × String × String :=
  (q.id, q.applicationId, q.name, q.resource, q.action)

abbrev Agent.ident (a : Agent) : Id × Id × Id × String :=
  (a.id, a.tenantId, a.applicationId, a.name)

/-- A role can count in a tenant: application-wide, or the tenant's own. -/
def RoleIn (tenantId : Id) (r : Role) : Prop := r.tenantId = none ∨ r.tenantId = some tenantId

instance (tenantId : Id) : DecidablePred (RoleIn tenantId) := fun r =>
  inferInstanceAs (Decidable (r.tenantId = none ∨ r.tenantId = some tenantId))

/-- A link joins a row of `owners` and a row of `others` that belong together. -/
def Linked {α β : Type} (owners : List α) (ownerId : α → Id) (others : List β) (otherId : β → Id)
    (together : α → β → Prop) (p : Id × Id) : Prop :=
  ∃ a ∈ owners, ∃ b ∈ others, ownerId a = p.1 ∧ otherId b = p.2 ∧ together a b

/-- A role a membership may hold: of its application, of its tenant or
application-wide, and not internal. -/
def Membership.MayHold (m : Membership) (r : Role) : Prop :=
  r.applicationId = m.applicationId ∧ RoleIn m.tenantId r ∧ r.agentId = none

/-- A role an agent may hold: of its application, of its tenant or
application-wide, and internal only if it is the agent's own. -/
def Agent.MayHold (a : Agent) (r : Role) : Prop :=
  r.applicationId = some a.applicationId ∧ RoleIn a.tenantId r ∧
    (r.agentId = none ∨ r.agentId = some a.id)

/-- A permission a role may carry: of its application. -/
def Role.MayCarry (r : Role) (q : Permission) : Prop := r.applicationId = q.applicationId

namespace Tables

/-- The link joins a membership and a role it may hold. -/
abbrev MembershipLink (t : Tables) : Id × Id → Prop :=
  Linked t.memberships Membership.id t.roles Role.id Membership.MayHold

/-- The link joins an agent and a role it may hold. -/
abbrev AgentLink (t : Tables) : Id × Id → Prop :=
  Linked t.agents Agent.id t.roles Role.id Agent.MayHold

/-- The link joins a role and a permission it may carry. -/
abbrev PermissionLink (t : Tables) : Id × Id → Prop :=
  Linked t.roles Role.id t.permissions Permission.id Role.MayCarry

/-- An internal role belongs to an agent of its tenant and application, and has the
name made from the agent's. -/
def InternalRole (t : Tables) (r : Role) : Prop :=
  ∀ i, r.agentId = some i → ∃ a ∈ t.agents, a.id = i ∧ r.tenantId = some a.tenantId ∧
    r.applicationId = some a.applicationId ∧ r.name = agentRoleName a.name

/-! ### The invariant -/

/-- What the operations keep true beyond the constraints of the database. -/
structure WellFormed (t : Tables) : Prop where
  tenantIds : ∀ r ∈ t.tenants, Uuid.Canonical r.id
  applicationIds : ∀ r ∈ t.applications, Uuid.Canonical r.id
  identityUsers : ∀ i ∈ t.externalIdentities, i.userId ∈ t.users.map User.id
  identityUnique : (t.externalIdentities.map ExternalIdentity.userId).Nodup
  internalRoles : ∀ r ∈ t.roles, t.InternalRole r
  membershipLinks : ∀ p ∈ t.membershipRoles, t.MembershipLink p
  agentLinks : ∀ p ∈ t.agentRoles, t.AgentLink p
  permissionLinks : ∀ p ∈ t.rolePermissions, t.PermissionLink p

lemma wellFormed_empty : WellFormed empty where
  tenantIds := by simp [empty]
  applicationIds := by simp [empty]
  identityUsers := by simp [empty]
  identityUnique := by simp [empty]
  internalRoles := by simp [empty]
  membershipLinks := by simp [empty]
  agentLinks := by simp [empty]
  permissionLinks := by simp [empty]

lemma refersTo_mono {ids ids' : List Id} (h : ids ⊆ ids') : ∀ {i : Option Id},
    RefersTo ids i → RefersTo ids' i
  | none, _ => trivial
  | some _, hi => h hi

/-- A link joins the ids of rows. -/
lemma linked_ids {α β : Type} {owners : List α} {ownerId : α → Id} {others : List β}
    {otherId : β → Id} {together : α → β → Prop} {p : Id × Id}
    (h : Linked owners ownerId others otherId together p) :
    p.1 ∈ owners.map ownerId ∧ p.2 ∈ others.map otherId := by
  obtain ⟨a, ha, b, hb, hap, hbp, -⟩ := h
  exact ⟨hap ▸ List.mem_map_of_mem ha, hbp ▸ List.mem_map_of_mem hb⟩

/-! ### Row ids -/

/-- The ids of the rows of every entity table. -/
def rowIds (t : Tables) : List Id :=
  t.tenants.map Tenant.id ++ t.applications.map Application.id ++ t.users.map User.id ++
    t.externalIdentities.map ExternalIdentity.id ++ t.memberships.map Membership.id ++
    t.roles.map Role.id ++ t.permissions.map Permission.id ++ t.agents.map Agent.id ++
    t.delegationGrants.map DelegationGrant.id

lemma id_mem_rowIds {t : Tables} {i : Id}
    (h : i ∈ t.tenants.map Tenant.id ∨ i ∈ t.users.map User.id ∨
      i ∈ t.externalIdentities.map ExternalIdentity.id ∨ i ∈ t.memberships.map Membership.id ∨
      i ∈ t.roles.map Role.id ∨ i ∈ t.agents.map Agent.id) : i ∈ t.rowIds := by
  simp only [rowIds, List.mem_append]
  tauto

/-- The draws are pairwise distinct and name no row. In well-formed tables this is
all a step needs to know about them, since links join rows that are there. -/
structure NewIds (uuid4 : UuidSource) (t : Tables) (drawn : Draw → Prop) : Prop where
  injOn : ∀ d e, drawn d → drawn e → uuid4 d = uuid4 e → d = e
  new : ∀ d, drawn d → uuid4 d ∉ t.rowIds

lemma NewIds.of_fresh {uuid4 : UuidSource} {t : Tables} {drawn drawn' : Draw → Prop}
    (h : Fresh uuid4 t drawn) (hsub : ∀ d, drawn' d → drawn d) : NewIds uuid4 t drawn' where
  injOn := fun d e hd he => h.injOn d e (hsub d hd) (hsub e he)
  new := fun d hd hm => by
    have hu := h.unused d (hsub d hd)
    simp only [rowIds, List.mem_append, List.mem_map] at hm
    rcases hm with (((((((⟨r, hr, hid⟩ | ⟨r, hr, hid⟩) | ⟨r, hr, hid⟩) | ⟨r, hr, hid⟩) |
      ⟨r, hr, hid⟩) | ⟨r, hr, hid⟩) | ⟨r, hr, hid⟩) | ⟨r, hr, hid⟩) | ⟨r, hr, hid⟩
    · exact hu.tenants r hr hid
    · exact hu.applications r hr hid
    · exact hu.users r hr hid
    · exact (hu.externalIdentities r hr).1 hid
    · exact (hu.memberships r hr).1 hid
    · exact (hu.roles r hr).1 hid
    · exact (hu.permissions r hr).1 hid
    · exact (hu.agents r hr).1 hid
    · exact (hu.grants r hr).1 hid

/-! ### Links between rows known by their identity -/

section Idents

variable {t : Tables}

lemma permissionLink_of_ident {r : Role} {q : Permission} (hr : r.ident ∈ t.roles.map Role.ident)
    (hq : q.ident ∈ t.permissions.map Permission.ident) (h : r.MayCarry q) :
    t.PermissionLink (r.id, q.id) := by
  obtain ⟨r', hr', hri⟩ := List.mem_map.mp hr
  obtain ⟨q', hq', hqi⟩ := List.mem_map.mp hq
  simp only [Permission.ident, Role.ident, Prod.mk.injEq] at hqi hri
  exact ⟨r', hr', q', hq', hri.1, hqi.1, by simp_all [Role.MayCarry]⟩

end Idents

/-! ### Evolutions -/

/-- Every row of `rows` is still there, with the same identity. -/
abbrev Keeps {α β : Type} (ident : α → β) (rows rows' : List α) : Prop :=
  rows.map ident ⊆ rows'.map ident

/-- What an operation may do to well-formed tables. Roles may go, but with
their links. -/
structure Evolves (t t' : Tables) : Prop where
  tenants : ∀ r ∈ t'.tenants, r.id ∈ t.tenants.map Tenant.id ∨ Uuid.Canonical r.id
  applications :
    ∀ r ∈ t'.applications, r.id ∈ t.applications.map Application.id ∨ Uuid.Canonical r.id
  users : Keeps User.id t.users t'.users
  identities : ∃ new, t'.externalIdentities = t.externalIdentities ++ new ∧
    (new.map ExternalIdentity.userId).Nodup ∧
    ∀ i ∈ new, i.userId ∈ t'.users.map User.id ∧ i.userId ∉ t.users.map User.id
  memberships : Keeps Membership.ident t.memberships t'.memberships
  permissions : Keeps Permission.ident t.permissions t'.permissions
  agents : Keeps Agent.ident t.agents t'.agents
  roles : ∀ r ∈ t'.roles, r.ident ∈ t.roles.map Role.ident ∨ t'.InternalRole r
  membershipRoles : ∀ p ∈ t'.membershipRoles,
    (p ∈ t.membershipRoles ∧ ∀ r ∈ t.roles, r.id = p.2 → r.ident ∈ t'.roles.map Role.ident) ∨
      t'.MembershipLink p
  agentRoles : ∀ p ∈ t'.agentRoles,
    (p ∈ t.agentRoles ∧ ∀ r ∈ t.roles, r.id = p.2 → r.ident ∈ t'.roles.map Role.ident) ∨
      t'.AgentLink p
  rolePermissions : ∀ p ∈ t'.rolePermissions,
    (p ∈ t.rolePermissions ∧ ∀ r ∈ t.roles, r.id = p.1 → r.ident ∈ t'.roles.map Role.ident) ∨
      t'.PermissionLink p

namespace Evolves

variable {t t' : Tables}

/-- Doing nothing is an evolution. -/
lemma refl (t : Tables) : Evolves t t where
  tenants := fun _ hr => Or.inl (List.mem_map_of_mem hr)
  applications := fun _ hr => Or.inl (List.mem_map_of_mem hr)
  users := fun _ h => h
  identities := ⟨[], by simp⟩
  memberships := fun _ h => h
  permissions := fun _ h => h
  agents := fun _ h => h
  roles := fun _ hr => Or.inl (List.mem_map_of_mem hr)
  membershipRoles := fun _ hp => Or.inl ⟨hp, fun _ hr _ => List.mem_map_of_mem hr⟩
  agentRoles := fun _ hp => Or.inl ⟨hp, fun _ hr _ => List.mem_map_of_mem hr⟩
  rolePermissions := fun _ hp => Or.inl ⟨hp, fun _ hr _ => List.mem_map_of_mem hr⟩

/-- A link whose rows are still there joins rows that belong together. -/
lemma linked {α β γ δ : Type} {owners owners' : List α} {ownerId : α → Id} {others others' : List β}
    {otherId : β → Id} {together : α → β → Prop} {ownerIdent : α → γ} {otherIdent : β → δ}
    {p : Id × Id} (h : Linked owners ownerId others otherId together p)
    (howner : ∀ a ∈ owners, ownerId a = p.1 → ownerIdent a ∈ owners'.map ownerIdent)
    (hother : ∀ b ∈ others, otherId b = p.2 → otherIdent b ∈ others'.map otherIdent)
    (hcongr : ∀ a a' b b', ownerIdent a = ownerIdent a' → otherIdent b = otherIdent b' →
      ownerId a = ownerId a' ∧ otherId b = otherId b' ∧ (together a b → together a' b')) :
    Linked owners' ownerId others' otherId together p := by
  obtain ⟨a, ha, b, hb, hap, hbp, hab⟩ := h
  obtain ⟨a', ha', hea⟩ := List.mem_map.mp (howner a ha hap)
  obtain ⟨b', hb', heb⟩ := List.mem_map.mp (hother b hb hbp)
  obtain ⟨hia, hib, htog⟩ := hcongr a a' b b' hea.symm heb.symm
  exact ⟨a', ha', b', hb', hia ▸ hap, hib ▸ hbp, htog hab⟩

lemma internalRole (he : Evolves t t') {r r' : Role} (h : t.InternalRole r)
    (hident : r.ident = r'.ident) : t'.InternalRole r' := by
  simp only [Role.ident, Prod.mk.injEq] at hident
  obtain ⟨-, ht, happ, hname, hagent⟩ := hident
  intro i hi
  obtain ⟨a, ha, hid, hat, haa, han⟩ := h i (hagent ▸ hi)
  obtain ⟨a', ha', hident'⟩ := List.mem_map.mp (he.agents (List.mem_map_of_mem ha))
  simp only [Agent.ident, Prod.mk.injEq] at hident'
  exact ⟨a', ha', hident'.1.trans hid, by rw [← ht, hat, hident'.2.1],
    by rw [← happ, haa, hident'.2.2.1], by rw [← hname, han, hident'.2.2.2]⟩

/-- **An evolution keeps the tables well formed.** -/
theorem wellFormed (he : Evolves t t') (h : t.WellFormed) : t'.WellFormed where
  tenantIds := fun r hr => (he.tenants r hr).elim
    (fun hm => by
      obtain ⟨r', hr', hid⟩ := List.mem_map.mp hm
      exact hid ▸ h.tenantIds r' hr') id
  applicationIds := fun r hr => (he.applications r hr).elim
    (fun hm => by
      obtain ⟨r', hr', hid⟩ := List.mem_map.mp hm
      exact hid ▸ h.applicationIds r' hr') id
  identityUsers := by
    obtain ⟨new, hnew, -, husers⟩ := he.identities
    intro i hi
    rw [hnew] at hi
    rcases List.mem_append.mp hi with hi | hi
    · exact he.users (h.identityUsers i hi)
    · exact (husers i hi).1
  identityUnique := by
    obtain ⟨new, hnew, hnodup, husers⟩ := he.identities
    rw [hnew, List.map_append]
    refine List.Nodup.append h.identityUnique hnodup fun u hu hu' => ?_
    obtain ⟨i, hi, rfl⟩ := List.mem_map.mp hu
    obtain ⟨j, hj, hji⟩ := List.mem_map.mp hu'
    exact (husers j hj).2 (hji ▸ h.identityUsers i hi)
  internalRoles := fun r hr => (he.roles r hr).elim
    (fun hm => by
      obtain ⟨r₀, hr₀, hident⟩ := List.mem_map.mp hm
      exact he.internalRole (h.internalRoles r₀ hr₀) hident) id
  membershipLinks := fun p hp => (he.membershipRoles p hp).elim
    (fun ⟨hp, hrole⟩ => linked (h.membershipLinks p hp)
      (fun m hm _ => he.memberships (List.mem_map_of_mem hm)) hrole (by
        intro m m' r r' hm hr
        simp only [Membership.ident, Role.ident, Prod.mk.injEq] at hm hr
        simp_all [Membership.MayHold, RoleIn])) id
  agentLinks := fun p hp => (he.agentRoles p hp).elim
    (fun ⟨hp, hrole⟩ => linked (h.agentLinks p hp)
      (fun a ha _ => he.agents (List.mem_map_of_mem ha)) hrole (by
        intro a a' r r' ha hr
        simp only [Agent.ident, Role.ident, Prod.mk.injEq] at ha hr
        simp_all [Agent.MayHold, RoleIn])) id
  permissionLinks := fun p hp => (he.rolePermissions p hp).elim
    (fun ⟨hp, hrole⟩ => linked (h.permissionLinks p hp) hrole
      (fun q hq _ => he.permissions (List.mem_map_of_mem hq)) (by
        intro r r' q q' hr hq
        simp only [Permission.ident, Role.ident, Prod.mk.injEq] at hq hr
        simp_all [Role.MayCarry])) id

end Evolves

end Tables

end AuthzKit
