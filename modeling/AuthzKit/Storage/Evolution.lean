import AuthzKit.Storage.Operations
import AuthzKit.Storage.WellFormed

/-!
Every operation keeps the tables well formed.

Each operation that writes single rows or the links of one owner has its
`_evolves` lemma; `wellFormed_tables` puts them together with those of the
declarative operations.
-/

namespace AuthzKit

open Keyed Links

namespace Tables

variable {t t' : Tables}

/-! ### Names and the rows they resolve to -/

/-- A name resolves to a named role of the application that the tenant may use. -/
lemma of_mem_assignableRoles {tenantId applicationId : Option Id} {names : Finset String} {r : Role}
    (h : r ∈ t.assignableRoles tenantId applicationId names) :
    r ∈ t.roles ∧ r.applicationId = applicationId ∧ r.name ∈ names ∧ r.agentId = none ∧
      (r.tenantId = tenantId ∨ r.tenantId = none) := by
  have haux : ∀ (rows d : List Role), r ∈ rows.foldl (fun found r =>
      if r.tenantId ≠ none ∨ lookup Role.name found r.name = none then insertKey Role.name found r
      else found) d → r ∈ d ∨ r ∈ rows := by
    intro rows
    induction rows with
    | nil => exact fun d h => Or.inl h
    | cons x rows ih =>
        intro d h
        rw [List.foldl_cons] at h
        by_cases hx : x.tenantId ≠ none ∨ lookup Role.name d x.name = none
        · rw [if_pos hx] at h
          rcases ih _ h with h | h
          · exact (mem_of_mem_insertKey h).symm.imp_right fun hr => List.mem_cons.mpr (Or.inl hr)
          · exact Or.inr (List.mem_cons_of_mem x h)
        · rw [if_neg hx] at h
          exact (ih _ h).imp_right (List.mem_cons_of_mem x)
  have hr := (haux _ _ h).resolve_left (List.not_mem_nil)
  simpa using hr

/-- A permission name resolves to an active permission of the application. -/
lemma of_mem_activePermissions {applicationId : Option Id} {names : Finset String} {q : Permission}
    (h : q ∈ t.activePermissions applicationId names) :
    q ∈ t.permissions ∧ q.applicationId = applicationId ∧ q.active = true ∧ q.name ∈ names := by
  simpa using mem_of_mem_ofList h

lemma mem_roleIds {rows : List Role} {i : Id} : i ∈ roleIds rows ↔ ∃ r ∈ rows, r.id = i := by
  simp [roleIds]

lemma mem_permissionIds {rows : List Permission} {i : Id} :
    i ∈ permissionIds rows ↔ ∃ q ∈ rows, q.id = i := by
  simp [permissionIds]

lemma of_mem_namedRoles {applicationId tenantId : Option Id} {r : Role}
    (h : r ∈ t.namedRoles applicationId tenantId) :
    r ∈ t.roles ∧ r.applicationId = applicationId ∧ r.tenantId = tenantId ∧ r.agentId = none := by
  simpa [namedRoles] using h

lemma of_roleByName {applicationId tenantId : Option Id} {name : String} {r : Role}
    (h : t.roleByName applicationId tenantId name = some r) :
    r ∈ t.roles ∧ r.applicationId = applicationId ∧ r.tenantId = tenantId ∧ r.agentId = none ∧
      r.name = name := by
  obtain ⟨hr, ha, ht, hg⟩ := of_mem_namedRoles (mem_of_lookup h)
  exact ⟨hr, ha, ht, hg, key_of_lookup h⟩

/-! ### Rows that stay -/

/-- New rows keep the old ones. -/
lemma keeps_append {α β : Type} (ident : α → β) (rows new : List α) :
    Keeps ident rows (rows ++ new) := by
  rw [Keeps, List.map_append]
  exact List.subset_append_left _ _

/-- A row written in place keeps its reference. -/
lemma keeps_update {α β : Type} {key : α → Id} {reference : α → β} {rows : List α} {row x : α}
    (hnodup : (rows.map key).Nodup) (hrow : row ∈ rows) (hkey : key x = key row)
    (hreference : reference x = reference row) :
    Keeps reference rows (update key rows x) := by
  have hsame : ∀ r ∈ rows, key r = key x → reference r = reference x := by
    intro r hr hrx
    rw [List.inj_on_of_nodup_map hnodup hr hrow (hrx.trans hkey), hreference]
  rw [Keeps, map_update reference hsame]
  exact List.Subset.refl _

/-- Unchanged roles are well formed where the agents stay. -/
lemma roles_unchanged (h : t'.roles = t.roles) :
    ∀ r ∈ t'.roles, r.ident ∈ t.roles.map Role.ident ∨ t'.InternalRole r :=
  fun _ hr => Or.inl (List.mem_map_of_mem (h ▸ hr))

/-- A named role needs no agent. -/
lemma internalRole_of_named {r : Role} (h : r.agentId = none) : t.InternalRole r := by
  intro i hi
  rw [h] at hi
  cases hi

/-- Links stay where the roles do. -/
lemma links_unchanged {links links' : Multiset (Id × Id)} {column : Id × Id → Id}
    {ok : Id × Id → Prop} (hlinks : links' = links) (hroles : Keeps Role.ident t.roles t'.roles) :
    ∀ p ∈ links', (p ∈ links ∧ ∀ r ∈ t.roles, r.id = column p →
      r.ident ∈ t'.roles.map Role.ident) ∨ ok p :=
  fun _ hp => Or.inl ⟨hlinks ▸ hp, fun _ hr _ => hroles (List.mem_map_of_mem hr)⟩

/-- Replacing the links of one owner brings new links of that owner only. -/
lemma links_replaced {links : Multiset (Id × Id)} {owner : Id} {ids current : Finset Id}
    {column : Id × Id → Id} {ok : Id × Id → Prop} (hroles : Keeps Role.ident t.roles t'.roles)
    (hok : ∀ i ∈ ids, ok (owner, i)) :
    ∀ p ∈ replace links owner ids current, (p ∈ links ∧ ∀ r ∈ t.roles, r.id = column p →
      r.ident ∈ t'.roles.map Role.ident) ∨ ok p := by
  rintro ⟨o, i⟩ hp
  rcases mem_of_mem_replace hp with hp | ⟨rfl, hi⟩
  · exact Or.inl ⟨hp, fun _ hr _ => hroles (List.mem_map_of_mem hr)⟩
  · exact Or.inr (hok i hi)

/-- A row of an entity table replaced by one that only differs in columns outside
the key. -/
lemma mem_update_id {α : Type} {key : α → Id} {rows : List α} {x r : α}
    (h : r ∈ update key rows x) : key r ∈ rows.map key := by
  rcases mem_update.mp h with ⟨rfl, r₀, hr₀, hk⟩ | ⟨hr, -⟩
  · exact hk ▸ List.mem_map_of_mem hr₀
  · exact List.mem_map_of_mem hr

/-! ### Tenants, applications, users -/

lemma createTenant_evolves {uuid4 : UuidSource} {slug name status : String} {row : Tenant} {n : ℕ}
    (hf : Fresh uuid4 t (Draw.Within n)) (h : t.createTenant uuid4 slug name status = .ok (t', row)) :
    Evolves t t' := by
  obtain ⟨rfl, rfl⟩ := Prod.mk.inj (Except.ok.inj h)
  refine { Evolves.refl t with tenants := fun r hr => ?_ }
  rcases List.mem_append.mp hr with hr | hr
  · exact Or.inl (List.mem_map_of_mem hr)
  · obtain rfl := List.mem_singleton.mp hr
    exact Or.inr (hf.canonical .row (Nat.zero_le n))

lemma updateTenant_evolves {tenantId : Id} {name status : Option String} {u : Unit}
    (h : t.updateTenant tenantId name status = .ok (t', u)) : Evolves t t' := by
  rw [updateTenant] at h
  split at h
  · obtain ⟨rfl, -⟩ := Prod.mk.inj (Except.ok.inj h)
    exact Evolves.refl t
  · obtain ⟨rfl, -⟩ := Prod.mk.inj (Except.ok.inj h)
    exact { Evolves.refl t with tenants := fun r hr => Or.inl (mem_update_id hr) }

lemma createApplication_evolves {uuid4 : UuidSource} {slug name status : String}
    {managedBy : Option String} {row : Application} {n : ℕ} (hf : Fresh uuid4 t (Draw.Within n))
    (h : t.createApplication uuid4 slug name status managedBy = .ok (t', row)) :
    Evolves t t' := by
  obtain ⟨rfl, rfl⟩ := Prod.mk.inj (Except.ok.inj h)
  refine { Evolves.refl t with applications := fun r hr => ?_ }
  rcases List.mem_append.mp hr with hr | hr
  · exact Or.inl (List.mem_map_of_mem hr)
  · obtain rfl := List.mem_singleton.mp hr
    exact Or.inr (hf.canonical .row (Nat.zero_le n))

lemma updateApplication_evolves {applicationId : Id} {name status : Option String} {u : Unit}
    (h : t.updateApplication applicationId name status = .ok (t', u)) : Evolves t t' := by
  rw [updateApplication] at h
  split at h
  · obtain ⟨rfl, -⟩ := Prod.mk.inj (Except.ok.inj h)
    exact Evolves.refl t
  · obtain ⟨rfl, -⟩ := Prod.mk.inj (Except.ok.inj h)
    exact { Evolves.refl t with applications := fun r hr => Or.inl (mem_update_id hr) }

lemma setApplicationManagedBy_evolves {applicationId : Id} {managedBy : Option String} {u : Unit}
    (h : t.setApplicationManagedBy applicationId managedBy = .ok (t', u)) : Evolves t t' := by
  rw [setApplicationManagedBy] at h
  split at h
  · obtain ⟨rfl, -⟩ := Prod.mk.inj (Except.ok.inj h)
    exact Evolves.refl t
  · obtain ⟨rfl, -⟩ := Prod.mk.inj (Except.ok.inj h)
    exact { Evolves.refl t with applications := fun r hr => Or.inl (mem_update_id hr) }

lemma claimApplicationManagement_evolves {applicationId : Id} {managedBy : String}
    {o : Option String} (h : t.claimApplicationManagement applicationId managedBy = .ok (t', o)) :
    Evolves t t' := by
  obtain ⟨rfl, -⟩ := Prod.mk.inj (Except.ok.inj h)
  refine { Evolves.refl t with applications := fun r hr => Or.inl ?_ }
  obtain ⟨r₀, hr₀, rfl⟩ := List.mem_map.mp hr
  refine List.mem_map.mpr ⟨r₀, hr₀, ?_⟩
  split <;> rfl

lemma upsertUserFromIdentity_evolves {uuid4 : UuidSource} {ref : UserRef}
    {email externalTenantId displayName : Option String} {r : User × ExternalIdentity} {n : ℕ}
    (hf : Fresh uuid4 t (Draw.Within n))
    (h : t.upsertUserFromIdentity uuid4 ref email externalTenantId displayName = .ok (t', r)) :
    Evolves t t' := by
  rw [upsertUserFromIdentity] at h
  split at h
  · split at h
    · obtain ⟨rfl, -⟩ := Prod.mk.inj (Except.ok.inj h)
      exact Evolves.refl t
    · cases h
  · obtain ⟨rfl, -⟩ := Prod.mk.inj (Except.ok.inj h)
    refine { Evolves.refl t with users := keeps_append _ _ _, identities := ⟨_, rfl, ?_, ?_⟩ }
    · exact List.nodup_singleton _
    · rintro i hi
      obtain rfl := List.mem_singleton.mp hi
      refine ⟨by simp, fun hm => ?_⟩
      obtain ⟨u, hu, hid⟩ := List.mem_map.mp hm
      exact (hf.unused (.user 0) (Nat.zero_le n)).users u hu hid

/-! ### Memberships -/

lemma createMembership_evolves {uuid4 : UuidSource} {tenantId userId : Id}
    {applicationId : Option Id} {status : String} {roles : Finset String}
    {r : Membership × Finset String}
    (h : t.createMembership uuid4 tenantId applicationId userId status roles = .ok (t', r)) :
    Evolves t t' := by
  rw [createMembership] at h
  simp only [Except.ok.injEq, Prod.mk.injEq] at h
  obtain ⟨rfl, -⟩ := h
  split
  · refine { Evolves.refl t with
      memberships := keeps_append _ _ _
      membershipRoles := links_replaced (fun _ h => h) fun i hi => ?_ }
    obtain ⟨role, hrole, rfl⟩ := mem_roleIds.mp hi
    obtain ⟨hmem, ha, -, hg, ht⟩ := of_mem_assignableRoles hrole
    exact ⟨_, List.mem_append_right _ (List.mem_singleton_self _), role, hmem, rfl, rfl, ha,
      ht.symm, hg⟩
  · exact { Evolves.refl t with
      memberships := keeps_append _ _ _
      membershipRoles := links_unchanged rfl (List.Subset.refl _) }

lemma setMembershipRoles_evolves {membershipId : Id} {roleNames : Finset String} {u : Unit}
    (h : t.setMembershipRoles membershipId roleNames = .ok (t', u)) : Evolves t t' := by
  rw [setMembershipRoles] at h
  split at h
  · obtain ⟨rfl, -⟩ := Prod.mk.inj (Except.ok.inj h)
    exact Evolves.refl t
  · rename_i m hm
    obtain ⟨rfl, -⟩ := Prod.mk.inj (Except.ok.inj h)
    refine { Evolves.refl t with
      membershipRoles := links_replaced (fun _ h => h) fun i hi => ?_ }
    obtain ⟨role, hrole, rfl⟩ := mem_roleIds.mp hi
    obtain ⟨hmem, ha, -, hg, ht⟩ := of_mem_assignableRoles hrole
    exact ⟨m, mem_of_lookup hm, role, hmem, key_of_lookup hm, rfl, ha, ht.symm, hg⟩

lemma setMembershipStatus_evolves {membershipId : Id} {status : Option String} {u : Unit}
    (hc : t.Constraints) (h : t.setMembershipStatus membershipId status = .ok (t', u)) :
    Evolves t t' := by
  rw [setMembershipStatus] at h
  split at h
  · cases h
  · rename_i row hrow
    obtain ⟨rfl, -⟩ := Prod.mk.inj (Except.ok.inj h)
    exact { Evolves.refl t with
      memberships := keeps_update hc.membershipId (mem_of_lookup hrow) rfl rfl
      membershipRoles := links_unchanged rfl (List.Subset.refl _) }

/-! ### Roles, permissions, masks -/

lemma createRole_evolves {uuid4 : UuidSource} {name : String} {scope : RoleScope}
    {applicationId tenantId description : Option String} {row : Role}
    (h : t.createRole uuid4 name scope applicationId tenantId description = .ok (t', row)) :
    Evolves t t' := by
  obtain ⟨rfl, rfl⟩ := Prod.mk.inj (Except.ok.inj h)
  refine { Evolves.refl t with
    roles := fun r hr => ?_
    membershipRoles := links_unchanged rfl (keeps_append _ _ _)
    agentRoles := links_unchanged rfl (keeps_append _ _ _)
    rolePermissions := links_unchanged rfl (keeps_append _ _ _) }
  rcases List.mem_append.mp hr with hr | hr
  · exact Or.inl (List.mem_map_of_mem hr)
  · obtain rfl := List.mem_singleton.mp hr
    exact Or.inr (internalRole_of_named rfl)

lemma createPermission_evolves {uuid4 : UuidSource} {name : String}
    {applicationId description : Option String} {row : Permission}
    (h : t.createPermission uuid4 name applicationId description = .ok (t', row)) :
    Evolves t t' := by
  rw [createPermission] at h
  split at h
  · cases h
  · obtain ⟨rfl, -⟩ := Prod.mk.inj (Except.ok.inj h)
    exact { Evolves.refl t with
      permissions := keeps_append _ _ _
      rolePermissions := links_unchanged rfl (List.Subset.refl _) }

lemma setRolePermissions_evolves {roleId : Id} {permissionNames : Finset String} {u : Unit}
    (h : t.setRolePermissions roleId permissionNames = .ok (t', u)) : Evolves t t' := by
  rw [setRolePermissions] at h
  split at h
  · obtain ⟨rfl, -⟩ := Prod.mk.inj (Except.ok.inj h)
    exact Evolves.refl t
  · rename_i role hrole
    simp only at h
    split at h
    · cases h
    · obtain ⟨rfl, -⟩ := Prod.mk.inj (Except.ok.inj h)
      refine { Evolves.refl t with
        rolePermissions := links_replaced (fun _ h => h) fun i hi => ?_ }
      obtain ⟨q, hq, rfl⟩ := mem_permissionIds.mp hi
      obtain ⟨hmem, ha, -, -⟩ := of_mem_activePermissions hq
      exact ⟨role, mem_of_lookup hrole, q, hmem, key_of_lookup hrole, rfl, ha.symm⟩

lemma setTenantPermissionMask_evolves {tenantId applicationId : Id} {permissions : Finset String}
    {u : Unit} (h : t.setTenantPermissionMask tenantId applicationId permissions = .ok (t', u)) :
    Evolves t t' := by
  obtain ⟨rfl, -⟩ := Prod.mk.inj (Except.ok.inj h)
  exact { Evolves.refl t with }

/-! ### Agents -/

lemma createAgent_evolves {uuid4 : UuidSource} {tenantId applicationId : Id}
    {name role status : String} {createdByUserId displayName : Option String} {row : Agent}
    (h : t.createAgent uuid4 tenantId applicationId name role status createdByUserId displayName
      = .ok (t', row)) : Evolves t t' := by
  obtain ⟨rfl, -⟩ := Prod.mk.inj (Except.ok.inj h)
  exact { Evolves.refl t with
    agents := keeps_append _ _ _
    roles := roles_unchanged rfl
    agentRoles := links_unchanged rfl (List.Subset.refl _) }

lemma setAgentRoles_evolves {agentId : Id} {roleNames : Finset String} {u : Unit}
    (h : t.setAgentRoles agentId roleNames = .ok (t', u)) : Evolves t t' := by
  rw [setAgentRoles] at h
  split at h
  · obtain ⟨rfl, -⟩ := Prod.mk.inj (Except.ok.inj h)
    exact Evolves.refl t
  · rename_i a ha
    simp only at h
    split at h
    · cases h
    · obtain ⟨rfl, -⟩ := Prod.mk.inj (Except.ok.inj h)
      refine { Evolves.refl t with
        agentRoles := links_replaced (fun _ h => h) fun i hi => ?_ }
      obtain ⟨role, hrole, rfl⟩ := mem_roleIds.mp hi
      obtain ⟨hmem, happ, -, hg, ht⟩ := of_mem_assignableRoles hrole
      exact ⟨a, mem_of_lookup ha, role, hmem, key_of_lookup ha, rfl, happ, ht.symm, Or.inl hg⟩

/-! ### Delegation grants -/

lemma issueGrant_evolves {uuid4 : UuidSource} {tenantId applicationId userId agentId : Id}
    {permissions : Finset String} {expiresAt now : DateTime} {purpose issuedBy : Option String}
    {g : Delegations.Grant}
    (h : t.issueGrant uuid4 tenantId applicationId userId agentId permissions expiresAt now purpose
      issuedBy = .ok (t', g)) : Evolves t t' := by
  obtain ⟨rfl, -⟩ := Prod.mk.inj (Except.ok.inj h)
  exact { Evolves.refl t with }

lemma revokeGrant_evolves {now : DateTime} {grantId : Id} {g : Option Delegations.Grant}
    (h : t.revokeGrant now grantId = .ok (t', g)) : Evolves t t' := by
  rw [revokeGrant] at h
  split at h
  · obtain ⟨rfl, -⟩ := Prod.mk.inj (Except.ok.inj h)
    exact Evolves.refl t
  · obtain ⟨rfl, -⟩ := Prod.mk.inj (Except.ok.inj h)
    exact { Evolves.refl t with }

lemma revokeMatching_evolves {now : DateTime} {tenantId : Id} {userId agentId : Option Id} {n : ℕ}
    (h : t.revokeMatching now tenantId userId agentId = .ok (t', n)) : Evolves t t' := by
  obtain ⟨rfl, -⟩ := Prod.mk.inj (Except.ok.inj h)
  exact { Evolves.refl t with }

/-! ### Overrides of default roles -/

/-- The override of a name is a named role of the pair; it is there or is added. -/
lemma overrideRole_spec (uuid4 : UuidSource) (tenantId applicationId : Id) (name : String) :
    ∃ new : List Role, (t.overrideRole uuid4 tenantId applicationId name).1 = t.roles ++ new ∧
      (∀ r ∈ new, r.tenantId = some tenantId ∧ r.applicationId = some applicationId ∧
        r.agentId = none) ∧
      ∃ r ∈ t.roles ++ new, r.id = (t.overrideRole uuid4 tenantId applicationId name).2 ∧
        r.tenantId = some tenantId ∧ r.applicationId = some applicationId := by
  rw [overrideRole]
  cases hrole : t.roleByName (some applicationId) (some tenantId) name with
  | some role =>
      obtain ⟨hmem, happ, hten, -⟩ := of_roleByName hrole
      exact ⟨[], by simp, by simp, role, by simpa using hmem, rfl, hten, happ⟩
  | none =>
      exact ⟨[_], rfl, by simp, _, List.mem_append_right _ (List.mem_singleton_self _), rfl, rfl,
        rfl⟩

lemma setTenantRoleOverride_evolves {uuid4 : UuidSource} {tenantId applicationId : Id}
    {name : String} {permissions : Finset String} {u : Unit}
    (h : t.setTenantRoleOverride uuid4 tenantId applicationId name permissions = .ok (t', u)) :
    Evolves t t' := by
  rw [setTenantRoleOverride] at h
  simp only at h
  split at h
  · cases h
  · obtain ⟨rfl, -⟩ := Prod.mk.inj (Except.ok.inj h)
    obtain ⟨new, hroles, hnew, role, hrole, hid, -, happ⟩ :=
      t.overrideRole_spec uuid4 tenantId applicationId name
    have hkeeps : Keeps Role.ident t.roles (t.overrideRole uuid4 tenantId applicationId name).1 :=
      hroles ▸ keeps_append _ _ _
    refine { Evolves.refl t with
      roles := fun r hr => ?_
      membershipRoles := links_unchanged rfl hkeeps
      agentRoles := links_unchanged rfl hkeeps
      rolePermissions := links_replaced hkeeps fun i hi => ?_ }
    · rcases List.mem_append.mp (hroles ▸ hr) with hr | hr
      · exact Or.inl (List.mem_map_of_mem hr)
      · exact Or.inr (internalRole_of_named (hnew r hr).2.2)
    · obtain ⟨q, hq, rfl⟩ := mem_permissionIds.mp hi
      obtain ⟨hmem, ha, -, -⟩ := of_mem_activePermissions hq
      exact ⟨role, hroles ▸ hrole, q, hmem, hid, rfl, happ.trans ha.symm⟩

/-- A link after the holders of an override were moved: another link, or one to the
default role of a holder. -/
lemma of_mem_moveHolders {links : Multiset (Id × Id)} {overrideId : Id} {default : Option Role}
    {p : Id × Id} (h : p ∈ moveHolders links overrideId default) :
    p.2 ≠ overrideId ∧ (p ∈ links ∨
      ∃ role, default = some role ∧ p.2 = role.id ∧ (p.1, overrideId) ∈ links) := by
  obtain ⟨h, hne⟩ := Multiset.mem_filter.mp h
  refine ⟨hne, (Multiset.mem_add.mp h).imp_right fun h => ?_⟩
  cases default with
  | none => simp at h
  | some role =>
      obtain ⟨o, ho, rfl⟩ := Multiset.mem_map.mp h
      obtain ⟨ho, -⟩ := Finset.mem_filter.mp (Finset.mem_val.mp ho)
      simp only [Multiset.mem_toFinset, Multiset.mem_map, Multiset.mem_filter] at ho
      obtain ⟨⟨o', i⟩, ⟨hlink, rfl⟩, rfl⟩ := ho
      exact ⟨role, rfl, rfl, hlink⟩

lemma deleteTenantRoleOverride_evolves {tenantId applicationId : Id} {name : String} {u : Unit}
    (hc : t.Constraints) (hw : t.WellFormed)
    (h : t.deleteTenantRoleOverride tenantId applicationId name = .ok (t', u)) :
    Evolves t t' := by
  rw [deleteTenantRoleOverride] at h
  split at h
  · obtain ⟨rfl, -⟩ := Prod.mk.inj (Except.ok.inj h)
    exact Evolves.refl t
  · rename_i override hoverride
    obtain ⟨rfl, -⟩ := Prod.mk.inj (Except.ok.inj h)
    obtain ⟨hmem, happ, hten, hagent, -⟩ := of_roleByName hoverride
    have hkept : ∀ r ∈ t.roles, r.id ≠ override.id → r ∈ t.roles.filter fun r => r.id ≠ override.id :=
      fun r hr hne => List.mem_filter.mpr ⟨hr, by simpa using hne⟩
    -- what is linked to the override may hold the default role as well
    have hrole : ∀ r ∈ t.roles, r.id = override.id → r = override := fun r hr hid =>
      List.inj_on_of_nodup_map hc.roleId hr hmem hid
    refine { Evolves.refl t with
      roles := fun r hr => Or.inl (List.mem_map_of_mem (List.mem_filter.mp hr).1)
      membershipRoles := ?_
      agentRoles := ?_
      rolePermissions := ?_ }
    · rintro ⟨o, i⟩ hp
      obtain ⟨hne, hp | ⟨role, hdefault, rfl, hp⟩⟩ := of_mem_moveHolders hp
      · exact Or.inl ⟨hp, fun r hr hid => List.mem_map_of_mem (hkept r hr (hid ▸ hne))⟩
      · obtain ⟨hdef, hdapp, hdten, hdagent, -⟩ := of_roleByName hdefault
        obtain ⟨m, hm, r, hr, hmid, hrid, hmay, -, -⟩ := hw.membershipLinks _ hp
        obtain rfl := hrole r hr hrid
        exact Or.inr ⟨m, hm, role, hkept role hdef hne, hmid, rfl,
          hdapp.trans (happ.symm.trans hmay), Or.inl hdten, hdagent⟩
    · rintro ⟨o, i⟩ hp
      obtain ⟨hne, hp | ⟨role, hdefault, rfl, hp⟩⟩ := of_mem_moveHolders hp
      · exact Or.inl ⟨hp, fun r hr hid => List.mem_map_of_mem (hkept r hr (hid ▸ hne))⟩
      · obtain ⟨hdef, hdapp, hdten, hdagent, -⟩ := of_roleByName hdefault
        obtain ⟨a, ha, r, hr, haid, hrid, hmay, -, -⟩ := hw.agentLinks _ hp
        obtain rfl := hrole r hr hrid
        exact Or.inr ⟨a, ha, role, hkept role hdef hne, haid, rfl,
          hdapp.trans (happ.symm.trans hmay), Or.inl hdten, Or.inl hdagent⟩
    · rintro ⟨o, i⟩ hp
      obtain ⟨hp, hne⟩ := Multiset.mem_filter.mp hp
      exact Or.inl ⟨hp, fun r hr hid => List.mem_map_of_mem (hkept r hr (hid ▸ hne))⟩

end Tables

end AuthzKit
