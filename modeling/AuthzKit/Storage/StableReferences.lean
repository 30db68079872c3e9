import AuthzKit.Rbac.References
import AuthzKit.Storage.Isolation

/-!
References keep their meaning.

Tenants, applications, identities and agents are never deleted, and their ids, slugs and names are
never written again. A reference that has named a row goes on naming it, unless a row is created
whose id it is.

* `Tables.Grows`: what every operation keeps of these rows (`grows_tables`), and every run
  (`grows_run`).
* `references_stable`: when the references of a request name the same rows after a run.
-/

namespace AuthzKit

open Keyed

/-- What a tenant is referred to by. -/
def Tenant.reference (r : Tenant) : Id × String := (r.id, r.slug)

/-- What an application is referred to by. -/
def Application.reference (r : Application) : Id × String := (r.id, r.slug)

namespace Tables

variable {t t' t'' : Tables}

/-- The rows that can be referred to stay. -/
structure Grows (t t' : Tables) : Prop where
  tenants : Keeps Tenant.reference t.tenants t'.tenants
  applications : Keeps Application.reference t.applications t'.applications
  identities : t.externalIdentities ⊆ t'.externalIdentities
  agents : Keeps Agent.ident t.agents t'.agents

namespace Grows

lemma refl (t : Tables) : Grows t t where
  tenants := fun _ h => h
  applications := fun _ h => h
  identities := fun _ h => h
  agents := fun _ h => h

lemma trans (h : Grows t t') (h' : Grows t' t'') : Grows t t'' where
  tenants := List.Subset.trans h.tenants h'.tenants
  applications := List.Subset.trans h.applications h'.applications
  identities := List.Subset.trans h.identities h'.identities
  agents := List.Subset.trans h.agents h'.agents

end Grows

/-- An evolution that keeps tenants and applications. -/
lemma Evolves.grows (he : Evolves t t') (ht : Keeps Tenant.reference t.tenants t'.tenants)
    (ha : Keeps Application.reference t.applications t'.applications) : Grows t t' where
  tenants := ht
  applications := ha
  identities := by
    obtain ⟨new, hnew, -⟩ := he.identities
    rw [hnew]
    exact List.subset_append_left _ _
  agents := he.agents

/-- Most operations write neither tenants nor applications. -/
lemma Evolves.grows_of_eq (he : Evolves t t') (ht : t'.tenants = t.tenants)
    (ha : t'.applications = t.applications) : Grows t t' :=
  he.grows (by rw [ht]; exact List.Subset.refl _) (by rw [ha]; exact List.Subset.refl _)

/-- **Every operation keeps the rows that can be referred to.** -/
theorem grows_tables {op : Op} {uuid4 : UuidSource} (hc : t.Constraints)
    (hf : Fresh uuid4 t (Draw.Within op.size)) (hw : t.WellFormed)
    (h : op.tables uuid4 t = .ok t') : Grows t t' := by
  cases op with
  | createTenant slug name status =>
      rw [Op.tables] at h
      obtain ⟨_, h⟩ := map_fst_eq_ok h
      have he := createTenant_evolves hf h
      obtain ⟨rfl, -⟩ := Prod.mk.inj (Except.ok.inj h)
      exact he.grows (keeps_append _ _ _) (List.Subset.refl _)
  | updateTenant tenantId name status =>
      rw [Op.tables] at h
      obtain ⟨_, h⟩ := map_fst_eq_ok h
      have he := updateTenant_evolves h
      rw [updateTenant] at h
      split at h
      · obtain ⟨rfl, -⟩ := Prod.mk.inj (Except.ok.inj h)
        exact Grows.refl t
      · rename_i row hrow
        obtain ⟨rfl, -⟩ := Prod.mk.inj (Except.ok.inj h)
        exact he.grows (keeps_update hc.tenantId (mem_of_lookup hrow) rfl rfl) (List.Subset.refl _)
  | createApplication slug name status managedBy =>
      rw [Op.tables] at h
      obtain ⟨_, h⟩ := map_fst_eq_ok h
      have he := createApplication_evolves hf h
      obtain ⟨rfl, -⟩ := Prod.mk.inj (Except.ok.inj h)
      exact he.grows (List.Subset.refl _) (keeps_append _ _ _)
  | updateApplication applicationId name status =>
      rw [Op.tables] at h
      obtain ⟨_, h⟩ := map_fst_eq_ok h
      have he := updateApplication_evolves h
      rw [updateApplication] at h
      split at h
      · obtain ⟨rfl, -⟩ := Prod.mk.inj (Except.ok.inj h)
        exact Grows.refl t
      · rename_i row hrow
        obtain ⟨rfl, -⟩ := Prod.mk.inj (Except.ok.inj h)
        exact he.grows (List.Subset.refl _)
          (keeps_update hc.applicationId (mem_of_lookup hrow) rfl rfl)
  | setApplicationManagedBy applicationId managedBy =>
      rw [Op.tables] at h
      obtain ⟨_, h⟩ := map_fst_eq_ok h
      have he := setApplicationManagedBy_evolves h
      rw [setApplicationManagedBy] at h
      split at h
      · obtain ⟨rfl, -⟩ := Prod.mk.inj (Except.ok.inj h)
        exact Grows.refl t
      · rename_i row hrow
        obtain ⟨rfl, -⟩ := Prod.mk.inj (Except.ok.inj h)
        exact he.grows (List.Subset.refl _)
          (keeps_update hc.applicationId (mem_of_lookup hrow) rfl rfl)
  | claimApplicationManagement applicationId managedBy =>
      rw [Op.tables] at h
      obtain ⟨_, h⟩ := map_fst_eq_ok h
      have he := claimApplicationManagement_evolves h
      obtain ⟨rfl, -⟩ := Prod.mk.inj (Except.ok.inj h)
      refine he.grows (List.Subset.refl _) ?_
      rw [Keeps, List.map_map]
      intro reference hreference
      obtain ⟨r, hr, rfl⟩ := List.mem_map.mp hreference
      refine List.mem_map.mpr ⟨r, hr, ?_⟩
      rw [Function.comp_apply]
      split <;> rfl
  | upsertUserFromIdentity ref email externalTenantId displayName =>
      rw [Op.tables] at h
      obtain ⟨_, h⟩ := map_fst_eq_ok h
      have he := upsertUserFromIdentity_evolves hf h
      rw [upsertUserFromIdentity] at h
      split at h
      · split at h
        · obtain ⟨rfl, -⟩ := Prod.mk.inj (Except.ok.inj h)
          exact Grows.refl t
        · cases h
      · obtain ⟨rfl, -⟩ := Prod.mk.inj (Except.ok.inj h)
        exact he.grows_of_eq rfl rfl
  | createMembership tenantId applicationId userId status roles =>
      rw [Op.tables] at h
      obtain ⟨_, h⟩ := map_fst_eq_ok h
      have he := createMembership_evolves h
      rw [createMembership] at h
      simp only [Except.ok.injEq, Prod.mk.injEq] at h
      obtain ⟨rfl, -⟩ := h
      refine he.grows_of_eq ?_ ?_
      · split <;> rfl
      · split <;> rfl
  | setMembershipRoles membershipId roleNames =>
      rw [Op.tables] at h
      obtain ⟨_, h⟩ := map_fst_eq_ok h
      have he := setMembershipRoles_evolves h
      rw [setMembershipRoles] at h
      split at h
      · obtain ⟨rfl, -⟩ := Prod.mk.inj (Except.ok.inj h)
        exact Grows.refl t
      · obtain ⟨rfl, -⟩ := Prod.mk.inj (Except.ok.inj h)
        exact he.grows_of_eq rfl rfl
  | setMembershipStatus membershipId status =>
      rw [Op.tables] at h
      obtain ⟨_, h⟩ := map_fst_eq_ok h
      have he := setMembershipStatus_evolves hc h
      rw [setMembershipStatus] at h
      split at h
      · cases h
      · obtain ⟨rfl, -⟩ := Prod.mk.inj (Except.ok.inj h)
        exact he.grows_of_eq rfl rfl
  | createRole name scope applicationId tenantId description =>
      rw [Op.tables] at h
      obtain ⟨_, h⟩ := map_fst_eq_ok h
      have he := createRole_evolves h
      obtain ⟨rfl, -⟩ := Prod.mk.inj (Except.ok.inj h)
      exact he.grows_of_eq rfl rfl
  | createPermission name applicationId description =>
      rw [Op.tables] at h
      obtain ⟨_, h⟩ := map_fst_eq_ok h
      have he := createPermission_evolves h
      rw [createPermission] at h
      split at h
      · cases h
      · obtain ⟨rfl, -⟩ := Prod.mk.inj (Except.ok.inj h)
        exact he.grows_of_eq rfl rfl
  | setRolePermissions roleId permissionNames =>
      rw [Op.tables] at h
      obtain ⟨_, h⟩ := map_fst_eq_ok h
      have he := setRolePermissions_evolves h
      rw [setRolePermissions] at h
      split at h
      · obtain ⟨rfl, -⟩ := Prod.mk.inj (Except.ok.inj h)
        exact Grows.refl t
      · simp only at h
        split at h
        · cases h
        · obtain ⟨rfl, -⟩ := Prod.mk.inj (Except.ok.inj h)
          exact he.grows_of_eq rfl rfl
  | setTenantPermissionMask tenantId applicationId permissions =>
      rw [Op.tables] at h
      obtain ⟨_, h⟩ := map_fst_eq_ok h
      have he := setTenantPermissionMask_evolves h
      obtain ⟨rfl, -⟩ := Prod.mk.inj (Except.ok.inj h)
      exact he.grows_of_eq rfl rfl
  | createAgent tenantId applicationId name role status createdByUserId displayName =>
      rw [Op.tables] at h
      obtain ⟨_, h⟩ := map_fst_eq_ok h
      have he := createAgent_evolves h
      obtain ⟨rfl, -⟩ := Prod.mk.inj (Except.ok.inj h)
      exact he.grows_of_eq rfl rfl
  | setAgentRoles agentId roleNames =>
      rw [Op.tables] at h
      obtain ⟨_, h⟩ := map_fst_eq_ok h
      have he := setAgentRoles_evolves h
      rw [setAgentRoles] at h
      split at h
      · obtain ⟨rfl, -⟩ := Prod.mk.inj (Except.ok.inj h)
        exact Grows.refl t
      · simp only at h
        split at h
        · cases h
        · obtain ⟨rfl, -⟩ := Prod.mk.inj (Except.ok.inj h)
          exact he.grows_of_eq rfl rfl
  | applyApplicationCatalog slug name permissions defaultRoles managedBy =>
      rw [Op.tables] at h
      obtain ⟨_, h⟩ := map_fst_eq_ok h
      have heffect := applyApplicationCatalog_effect hc hf h
      refine heffect.evolves.grows (by rw [heffect.tenants]; exact List.Subset.refl _) ?_
      rw [applyApplicationCatalog] at h
      simp only at h
      split at h
      · cases h
      · obtain ⟨rfl, -⟩ := Prod.mk.inj (Except.ok.inj h)
        rw [catalogApplication]
        cases hl : lookup Application.slug t.applications slug with
        | none => exact keeps_append _ _ _
        | some app => exact keeps_update hc.applicationId (mem_of_lookup hl) rfl rfl
  | applyTenantState applicationId tenantSlug state =>
      rw [Op.tables] at h
      obtain ⟨_, h⟩ := map_fst_eq_ok h
      obtain ⟨hissues, rfl, -⟩ := of_applyTenantState_ok h
      have hinput := StateInput.of_issues hc hw hf hissues
      have hdirectory := @stateTables_directory t applicationId uuid4 tenantSlug state
      refine ⟨?_, ?_, hdirectory.identities, ?_⟩
      · exact List.map_subset _ hdirectory.tenants
      · rw [stateTables_applications]
        exact List.Subset.refl _
      · have hagents := (hinput.agentsInput.evolves
          (t.stateTenantId uuid4 tenantSlug state)).agents
        have hmembers : (t.memberTables uuid4 applicationId tenantSlug state).agents = t.agents := by
          rw [memberTables_eq]
        rw [hmembers] at hagents
        exact hagents
  | setTenantRoleOverride tenantId applicationId name permissions =>
      rw [Op.tables] at h
      obtain ⟨_, h⟩ := map_fst_eq_ok h
      have he := setTenantRoleOverride_evolves h
      rw [setTenantRoleOverride] at h
      simp only at h
      split at h
      · cases h
      · obtain ⟨rfl, -⟩ := Prod.mk.inj (Except.ok.inj h)
        exact he.grows_of_eq rfl rfl
  | deleteTenantRoleOverride tenantId applicationId name =>
      rw [Op.tables] at h
      obtain ⟨_, h⟩ := map_fst_eq_ok h
      have he := deleteTenantRoleOverride_evolves hc hw h
      rw [deleteTenantRoleOverride] at h
      split at h
      · obtain ⟨rfl, -⟩ := Prod.mk.inj (Except.ok.inj h)
        exact Grows.refl t
      · obtain ⟨rfl, -⟩ := Prod.mk.inj (Except.ok.inj h)
        exact he.grows_of_eq rfl rfl
  | issueGrant tenantId applicationId userId agentId permissions expiresAt now purpose issuedBy =>
      rw [Op.tables] at h
      obtain ⟨_, h⟩ := map_fst_eq_ok h
      have he := issueGrant_evolves h
      obtain ⟨rfl, -⟩ := Prod.mk.inj (Except.ok.inj h)
      exact he.grows_of_eq rfl rfl
  | revokeGrant now grantId =>
      rw [Op.tables] at h
      obtain ⟨_, h⟩ := map_fst_eq_ok h
      have he := revokeGrant_evolves h
      rw [revokeGrant] at h
      split at h
      · obtain ⟨rfl, -⟩ := Prod.mk.inj (Except.ok.inj h)
        exact Grows.refl t
      · obtain ⟨rfl, -⟩ := Prod.mk.inj (Except.ok.inj h)
        exact he.grows_of_eq rfl rfl
  | revokeMatching now tenantId userId agentId =>
      rw [Op.tables] at h
      obtain ⟨_, h⟩ := map_fst_eq_ok h
      have he := revokeMatching_evolves h
      obtain ⟨rfl, -⟩ := Prod.mk.inj (Except.ok.inj h)
      exact he.grows_of_eq rfl rfl

/-! ### What a reference names later -/

/-- Among rows that stay, a reference names the same row unless another one has it as its id. -/
lemma byIdOrSlug_later {α : Type} {id slug : α → String} {rows rows' : List α} {ref : String}
    {r : α} (hid : (rows.map id).Nodup) (hslug : (rows.map slug).Nodup)
    (huuid : ∀ r ∈ rows, Uuid.Canonical (id r)) (hid' : (rows'.map id).Nodup)
    (hslug' : (rows'.map slug).Nodup) (huuid' : ∀ r ∈ rows', Uuid.Canonical (id r))
    (hkeeps : Keeps (fun r => (id r, slug r)) rows rows')
    (h : byIdOrSlug id slug rows ref = some r) :
    ∃ r', byIdOrSlug id slug rows' ref = some r' ∧
      (id r' = id r ↔ ∀ x ∈ rows', id x = ref → id x = id r) := by
  obtain ⟨hr, hnames⟩ := (byIdOrSlug_eq_some_iff hid hslug huuid).mp h
  obtain ⟨kept, hkept, heq⟩ := List.mem_map.mp (hkeeps (List.mem_map_of_mem hr))
  obtain ⟨hkeptId, hkeptSlug⟩ := Prod.mk.inj heq
  by_cases hnew : ∃ x ∈ rows', id x = ref
  · obtain ⟨x, hx, hxref⟩ := hnew
    refine ⟨x, (byIdOrSlug_eq_some_iff hid' hslug' huuid').mpr ⟨hx, Or.inl hxref⟩, ?_⟩
    constructor
    · exact fun hsame y _ hyref => hyref.trans (hxref.symm.trans hsame)
    · exact fun hall => hall x hx hxref
  · push Not at hnew
    have hslugref : slug kept = ref := by
      rcases hnames with hidref | ⟨hslugref, -⟩
      · exact absurd (hkeptId.trans hidref) (hnew kept hkept)
      · exact hkeptSlug.trans hslugref
    refine ⟨kept, (byIdOrSlug_eq_some_iff hid' hslug' huuid').mpr
      ⟨hkept, Or.inr ⟨hslugref, hnew⟩⟩, ?_⟩
    exact ⟨fun _ x hx hxref => absurd hxref (hnew x hx), fun _ => hkeptId⟩

/-- An identity has the same user later. -/
lemma identity_later {ref : UserRef} {i : ExternalIdentity} (hg : Grows t t') (hc' : t'.Constraints)
    (h : lookup ExternalIdentity.ref t.externalIdentities ref = some i) :
    lookup ExternalIdentity.ref t'.externalIdentities ref = some i :=
  (lookup_eq_some_iff hc'.identityRef).mpr
    ⟨hg.identities (mem_of_lookup h), key_of_lookup h⟩

/-- A name is the name of the same agent later. -/
lemma agentByName_later {tenant tenant' : Tenant} {application application' : Application}
    {name : String} {a : Agent} (hg : Grows t t') (hc' : t'.Constraints)
    (htenant : tenant'.id = tenant.id) (happlication : application'.id = application.id)
    (h : t.agentByName (some tenant) (some application) name = some a) :
    ∃ a', t'.agentByName (some tenant') (some application') name = some a' ∧ a'.id = a.id := by
  obtain ⟨_, _, htn, hap, ha, hat, haa, han⟩ := of_agentByName h
  obtain rfl := Option.some.inj htn
  obtain rfl := Option.some.inj hap
  obtain ⟨kept, hkept, heq⟩ := List.mem_map.mp (hg.agents (List.mem_map_of_mem ha))
  obtain ⟨hid, hkt, hka, hkn⟩ := Prod.mk.inj heq |>.imp_right fun h =>
    (Prod.mk.inj h).imp_right Prod.mk.inj
  cases hfound : t'.agentByName (some tenant') (some application') name with
  | none =>
      rw [agentByName, List.find?_eq_none] at hfound
      refine absurd (hfound kept hkept) ?_
      simp [hkt, hka, hkn, hat, haa, han, htenant, happlication]
  | some a' =>
      obtain ⟨_, _, htn, hap, ha', hat', haa', han'⟩ := of_agentByName hfound
      obtain rfl := Option.some.inj htn
      obtain rfl := Option.some.inj hap
      refine ⟨a', rfl, ?_⟩
      have hsame : a' = kept := List.inj_on_of_nodup_map hc'.agentKey ha' hkept (by
        simp only [Agent.uniqueKey, hkt, hka, hkn, hat, haa, han, hat', haa', han', htenant,
          happlication])
      rw [hsame, hid]

/-- References to the same tenant and application name the same user and agent later. -/
lemma resolveReferences_later {tenant application : String} {userId agentId : Option Id}
    {userRef : Option UserRef} {agentName : Option String} {tn tn' : Tenant}
    {app app' : Application} (hg : Grows t t') (hc' : t'.Constraints)
    (htn : t.findTenant tenant = some tn) (htn' : t'.findTenant tenant = some tn')
    (hap : t.findApplication application = some app)
    (hap' : t'.findApplication application = some app') (htenant : tn'.id = tn.id)
    (happlication : app'.id = app.id)
    (hcomplete : (t.resolveReferences tenant application userId userRef agentId
      agentName).complete = true) :
    (t'.resolveReferences tenant application userId userRef agentId agentName).complete = true ∧
      (t'.resolveReferences tenant application userId userRef agentId agentName).userId =
        (t.resolveReferences tenant application userId userRef agentId agentName).userId ∧
      (t'.resolveReferences tenant application userId userRef agentId agentName).agentId =
        (t.resolveReferences tenant application userId userRef agentId agentName).agentId := by
  obtain ⟨-, -, huser, hagent⟩ := complete_iff.mp hcomplete
  -- the user of the identity
  have huserId : (t'.resolveReferences tenant application userId userRef agentId agentName).userId =
      (t.resolveReferences tenant application userId userRef agentId agentName).userId := by
    cases userRef with
    | none => rfl
    | some ref =>
        cases hi : lookup ExternalIdentity.ref t.externalIdentities ref with
        | none => simp [resolveReferences, hi] at huser
        | some i => simp only [resolveReferences, hi, identity_later hg hc' hi]
  -- the agent of the name
  have hagentId : (t'.resolveReferences tenant application userId userRef agentId
      agentName).agentId =
      (t.resolveReferences tenant application userId userRef agentId agentName).agentId := by
    cases agentName with
    | none => rfl
    | some name =>
        cases ha : t.agentByName (some tn) (some app) name with
        | none => simp [resolveReferences, htn, hap, ha] at hagent
        | some a =>
            obtain ⟨a', ha', hid⟩ := agentByName_later hg hc' htenant happlication ha
            simp only [resolveReferences, htn, hap, htn', hap', Option.bind_some, ha, ha',
              Option.isSome_some, if_true, Option.map_some, hid]
  refine ⟨complete_iff.mpr ⟨?_, ?_, ?_, ?_⟩, huserId, hagentId⟩
  · simp [resolveReferences, htn']
  · simp [resolveReferences, hap']
  · rw [← huser]
    have hmissing : ∀ t : Tables, (t.resolveReferences tenant application userId userRef agentId
        agentName).userMissing = (userRef.isSome && (t.resolveReferences tenant application userId
        userRef agentId agentName).userId.isNone) := fun _ => rfl
    rw [hmissing, hmissing, huserId]
  · rw [← hagent]
    have hmissing : ∀ t : Tables, (t.resolveReferences tenant application userId userRef agentId
        agentName).agentMissing = (agentName.isSome && (t.resolveReferences tenant application
        userId userRef agentId agentName).agentId.isNone) := fun _ => rfl
    rw [hmissing, hmissing, hagentId]

end Tables

namespace SqlAlchemyStore

open Tables

variable {s : SqlAlchemyStore} {calls : List (Op × UuidSource)}

/-- Every run keeps the rows that can be referred to. -/
theorem grows_run (h : s.Reachable) (hf : s.FreshRun calls) :
    Grows s.tables (s.run calls).tables := by
  induction calls generalizing s with
  | nil => exact Grows.refl s.tables
  | cons call calls ih =>
      obtain ⟨hfresh, hrest⟩ := hf
      refine Grows.trans ?_ (ih (Machine.Reachable.step h ⟨hfresh, rfl⟩) hrest)
      rw [next]
      cases hp : s.perform call.1 call.2 with
      | error e => exact Grows.refl s.tables
      | ok s' =>
          exact grows_tables s.constraints hfresh h.wellFormed (perform_eq_ok_iff.mp hp).2

/-- **References keep their meaning**: those of a request that resolved before a run resolve to the
same rows after it exactly when no other tenant and no other application has been given the
reference as its id. -/
theorem Reachable.references_stable (h : s.Reachable) (hf : s.FreshRun calls)
    (tenant application : String) (userId agentId : Option Id) (userRef : Option UserRef)
    (agentName : Option String) :
    let refs := s.tables.resolveReferences tenant application userId userRef agentId agentName
    let refs' := (s.run calls).tables.resolveReferences tenant application userId userRef agentId
      agentName
    refs.complete = true →
      ((refs'.complete = true ∧ refs'.tenantId = refs.tenantId ∧
          refs'.applicationId = refs.applicationId ∧ refs'.userId = refs.userId ∧
          refs'.agentId = refs.agentId) ↔
        (∀ row ∈ (s.run calls).tables.tenants, row.id = tenant → row.id = refs.tenantId) ∧
          ∀ row ∈ (s.run calls).tables.applications, row.id = application →
            row.id = refs.applicationId) := by
  intro refs refs' hcomplete
  have hg := grows_run h hf
  have hc := s.constraints
  have hc' := (s.run calls).constraints
  have hw := h.wellFormed
  have hw' := (h.run hf).wellFormed
  simp only [refs']
  generalize (s.run calls).tables = t' at *
  obtain ⟨htenantFound, hfound, -, -⟩ := complete_iff.mp hcomplete
  simp only [refs, resolveReferences, Option.isSome_map] at htenantFound hfound
  obtain ⟨tn, htn⟩ := Option.isSome_iff_exists.mp htenantFound
  obtain ⟨app, hap⟩ := Option.isSome_iff_exists.mp hfound
  obtain ⟨tn', htn', htenant⟩ := byIdOrSlug_later hc.tenantId hc.tenantSlug hw.tenantIds
    hc'.tenantId hc'.tenantSlug hw'.tenantIds hg.tenants htn
  obtain ⟨app', hap', happlication⟩ := byIdOrSlug_later hc.applicationId hc.applicationSlug
    hw.applicationIds hc'.applicationId hc'.applicationSlug hw'.applicationIds hg.applications hap
  have htn'' : t'.findTenant tenant = some tn' := htn'
  have hap'' : t'.findApplication application = some app' := hap'
  have hids : refs.tenantId = tn.id ∧ refs.applicationId = app.id := by
    simp only [refs, resolveReferences, htn, hap, Option.map_some, Option.getD_some, and_self]
  have hids' : (t'.resolveReferences tenant application userId userRef agentId
      agentName).tenantId = tn'.id ∧ (t'.resolveReferences tenant application userId userRef agentId
      agentName).applicationId = app'.id := by
    simp only [resolveReferences, htn'', hap'', Option.map_some, Option.getD_some, and_self]
  rw [hids.1, hids.2, hids'.1, hids'.2, ← htenant, ← happlication]
  constructor
  · rintro ⟨-, hsame, hsame', -, -⟩
    exact ⟨hsame, hsame'⟩
  · rintro ⟨hsame, hsame'⟩
    obtain ⟨hcomplete', huser, hagent⟩ :=
      resolveReferences_later hg hc' htn htn'' hap hap'' hsame hsame' hcomplete
    exact ⟨hcomplete', hsame, hsame', huser, hagent⟩

/-- The references of the first tenant, after it was renamed and suspended and a second one was
created. -/
theorem references_stable_acme :
    let calls : List (Op × UuidSource) :=
      [(.updateTenant (sampleIds 0 .row) (some "Acme Ltd") (some "suspended"), sampleIds 5),
        (.createTenant "globex" "Globex" "active", sampleIds 6)]
    let resolve := fun t : Tables => t.resolveReferences "acme" "crm" none
      (some ⟨"oidc", "https://idp", "alice"⟩) none (some "helper")
    (resolve (acmeStore.run calls).tables).tenantStatus = some "suspended" ∧
      (resolve (acmeStore.run calls).tables).complete = true ∧
      (resolve (acmeStore.run calls).tables).tenantId = (resolve acmeStore.tables).tenantId ∧
      (resolve (acmeStore.run calls).tables).applicationId =
        (resolve acmeStore.tables).applicationId ∧
      (resolve (acmeStore.run calls).tables).userId = (resolve acmeStore.tables).userId ∧
      (resolve (acmeStore.run calls).tables).agentId = (resolve acmeStore.tables).agentId := by
  intro calls resolve
  exact ⟨by decide +kernel, (Reachable.references_stable acmeStore_reachable (by decide +kernel)
    "acme" "crm" none none (some ⟨"oidc", "https://idp", "alice"⟩) (some "helper")
    (by decide +kernel)).mpr ⟨by decide +kernel, by decide +kernel⟩⟩

end SqlAlchemyStore

end AuthzKit
