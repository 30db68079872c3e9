import AuthzKit.Service.Probes

/-!
What `POST /v1/resolve-context` tells a caller that is bound to one tenant about
another.

The binding is checked last, after three exits of their own: the tenant is unknown, it is
not active, the user has no active membership in it. `TenantStanding` is what a request
finds at the other tenant, and each finding has its own answer
(`resolveContext_standing`).

* `SameStanding`: a request finds the same in two stores.
* `resolveContext_answer_eq_iff`: the answers are the same exactly then, or when the
  request is answered before the tenant is looked up.
* `resolveContext_answers_differ`: the existence of another tenant shows.
-/

namespace AuthzKit

open Keyed Delegations

/-- What a request finds at a tenant that is not the caller's. -/
inductive TenantStanding where
  | unknown
  | suspended
  | stranger
  | member (tenantId : Id)
deriving DecidableEq, Repr

namespace TenantContextResolver

/-- The user of the identity is an active member of the tenant. -/
def isActiveMember (t : Tables) (principal : IdentityPrincipal) (tenantId applicationId : Id) :
    Bool :=
  (t.findUserByExternalIdentity principal.ref).any fun user =>
    (membershipIn t tenantId applicationId user.id).any fun m => m.status = statusActive

variable (t : Tables) (mappings : List TenantIdentityMapping) (body : ResolveContextRequestSchema)

/-- The tenant a request resolves to. -/
abbrev tenantFor : Except ContextError Tenant :=
  resolveTenant t mappings body.identity body.explicitTenantId

/-- The request asks for a tenant that is not there. -/
def Unknown : Prop :=
  ∃ tenantId, given body.explicitTenantId = some tenantId ∧ ∀ row ∈ t.tenants, row.id ≠ tenantId

/-- The tenant of the request is not active. -/
def Suspended : Prop :=
  ∃ tenant, tenantFor t mappings body = .ok tenant ∧ tenant.status ≠ statusActive

/-- The tenant of the request is active, and the user an active member of it. -/
def MemberOf (applicationId tenantId : Id) : Prop :=
  ∃ tenant, tenantFor t mappings body = .ok tenant ∧ tenant.id = tenantId ∧
    tenant.status = statusActive ∧ isActiveMember t body.identity tenantId applicationId = true

/-- What the request finds. -/
def standing (applicationId : Id) : TenantStanding :=
  match tenantFor t mappings body with
  | .error _ => if given body.explicitTenantId = none then .stranger else .unknown
  | .ok tenant =>
      if tenant.status ≠ statusActive then .suspended
      else if isActiveMember t body.identity tenant.id applicationId then .member tenant.id
      else .stranger

variable {t mappings body} {applicationId : Id}

/-- The resolution of a tenant fails in two ways. -/
lemma tenantFor_error {e : ContextError} (h : tenantFor t mappings body = .error e) :
    (given body.explicitTenantId = none ∧ e = .noActiveMembership) ∨
      ∃ tenantId, given body.explicitTenantId = some tenantId ∧
        (∀ row ∈ t.tenants, row.id ≠ tenantId) ∧
          e = .invalidRequest ("unknown tenant: " ++ tenantId) := by
  rw [tenantFor, resolveTenant] at h
  split at h
  · rename_i tenantId hgiven
    split at h
    · rename_i hnone
      exact Or.inr ⟨tenantId, hgiven, lookup_eq_none_iff.mp hnone, (Except.error.inj h).symm⟩
    · cases h
  · rename_i hgiven
    dsimp only at h
    split at h
    · exact Or.inl ⟨hgiven, (Except.error.inj h).symm⟩
    · cases h

/-- A tenant that is asked for and found is there. -/
lemma not_unknown_of_ok {tenant : Tenant} (h : tenantFor t mappings body = .ok tenant) :
    ¬Unknown t body := by
  rintro ⟨tenantId, hgiven, hno⟩
  rw [tenantFor, resolveTenant, hgiven] at h
  dsimp only at h
  split at h
  · cases h
  · rename_i row hrow
    exact hno row (mem_of_lookup hrow) (key_of_lookup hrow)

lemma standing_eq_unknown_iff :
    standing t mappings body applicationId = .unknown ↔ Unknown t body := by
  rw [standing]
  cases hfor : tenantFor t mappings body with
  | error e =>
      rcases tenantFor_error hfor with ⟨hnone, -⟩ | ⟨tenantId, hgiven, hno, -⟩
      · simp [hnone, Unknown]
      · simp only [hgiven, reduceCtorEq, if_false, true_iff]
        exact ⟨tenantId, hgiven, hno⟩
  | ok tenant =>
      have hnot := not_unknown_of_ok hfor
      dsimp only
      split_ifs <;> simp [hnot]

lemma standing_eq_suspended_iff :
    standing t mappings body applicationId = .suspended ↔ Suspended t mappings body := by
  rw [standing, Suspended]
  cases hfor : tenantFor t mappings body with
  | error e =>
      dsimp only
      split_ifs <;> simp
  | ok tenant =>
      simp only [Except.ok.injEq, exists_eq_left']
      split_ifs <;> simp_all

lemma standing_eq_member_iff {tenantId : Id} :
    standing t mappings body applicationId = .member tenantId ↔
      MemberOf t mappings body applicationId tenantId := by
  rw [standing, MemberOf]
  cases hfor : tenantFor t mappings body with
  | error e =>
      dsimp only
      split_ifs <;> simp
  | ok tenant =>
      simp only [Except.ok.injEq, exists_eq_left']
      constructor
      · intro h
        split_ifs at h with hactive hmember
        obtain rfl := TenantStanding.member.inj h
        exact ⟨rfl, not_not.mp hactive, hmember⟩
      · rintro ⟨rfl, hactive, hmember⟩
        rw [if_neg (not_not.mpr hactive), if_pos hmember]

/-- A request finds the same in two stores. -/
structure SameStanding (t : Tables) (mappings : List TenantIdentityMapping) (t' : Tables)
    (mappings' : List TenantIdentityMapping) (body : ResolveContextRequestSchema)
    (applicationId : Id) : Prop where
  unknown : Unknown t body ↔ Unknown t' body
  suspended : Suspended t mappings body ↔ Suspended t' mappings' body
  member : ∀ tenantId, MemberOf t mappings body applicationId tenantId ↔
    MemberOf t' mappings' body applicationId tenantId

lemma sameStanding_iff {t' : Tables} {mappings' : List TenantIdentityMapping} :
    SameStanding t mappings t' mappings' body applicationId ↔
      standing t mappings body applicationId = standing t' mappings' body applicationId := by
  constructor
  · rintro ⟨hunknown, hsuspended, hmember⟩
    rw [← standing_eq_unknown_iff, ← standing_eq_unknown_iff] at hunknown
    rw [← standing_eq_suspended_iff, ← standing_eq_suspended_iff] at hsuspended
    simp only [← standing_eq_member_iff] at hmember
    cases hst : standing t mappings body applicationId with
    | unknown => exact (hunknown.mp hst).symm
    | suspended => exact (hsuspended.mp hst).symm
    | member tenantId => exact ((hmember tenantId).mp hst).symm
    | stranger =>
        cases hst' : standing t' mappings' body applicationId with
        | unknown => exact hst.symm.trans (hunknown.mpr hst')
        | suspended => exact hst.symm.trans (hsuspended.mpr hst')
        | member tenantId => exact hst.symm.trans ((hmember tenantId).mpr hst')
        | stranger => rfl
  · intro h
    refine ⟨?_, ?_, fun tenantId => ?_⟩
    · rw [← standing_eq_unknown_iff, h, standing_eq_unknown_iff]
    · rw [← standing_eq_suspended_iff, h, standing_eq_suspended_iff]
    · rw [← standing_eq_member_iff, h, standing_eq_member_iff]

/-! ### A user that is provisioned on the way -/

section Provisioned

variable {s : SqlAlchemyStore} {uuid4 : UuidSource} {principal : IdentityPrincipal}

/-- The user and the identity that provisioning adds. -/
abbrev provisioned (uuid4 : UuidSource) (principal : IdentityPrincipal) : User × ExternalIdentity :=
  Tables.newIdentity (uuid4 (.user 0)) (uuid4 (.identity 0)) principal.ref principal.email
    principal.externalTenantId none

/-- The tables after provisioning. -/
abbrev provisionedTables (t : Tables) (uuid4 : UuidSource) (principal : IdentityPrincipal) : Tables :=
  { t with
    users := t.users ++ [(provisioned uuid4 principal).1]
    externalIdentities := t.externalIdentities ++ [(provisioned uuid4 principal).2] }

/-- In a reachable store, an identity without a user is in no row. -/
lemma identity_of_user_none (hs : s.Reachable)
    (h : s.tables.findUserByExternalIdentity principal.ref = none) :
    lookup ExternalIdentity.ref s.tables.externalIdentities principal.ref = none := by
  cases hl : lookup ExternalIdentity.ref s.tables.externalIdentities principal.ref with
  | none => rfl
  | some i =>
      rw [Tables.findUserByExternalIdentity, hl, Option.bind_some, lookup_eq_none_iff] at h
      obtain ⟨user, huser, hid⟩ := List.mem_map.mp (hs.wellFormed.identityUsers i (mem_of_lookup hl))
      exact absurd hid (h user huser)

/-- The database accepts the new user. -/
lemma provisionedTables_constraints (principal : IdentityPrincipal)
    (hc : s.tables.Constraints) (hf : Fresh uuid4 s.tables (Draw.Within 0))
    (hnone : lookup ExternalIdentity.ref s.tables.externalIdentities principal.ref = none) :
    (provisionedTables s.tables uuid4 principal).Constraints where
  __ := hc
  userId := by
    rw [List.map_append]
    refine List.nodup_append.mpr ⟨hc.userId, List.nodup_singleton _, fun i hi j hj hij => ?_⟩
    obtain ⟨user, huser, rfl⟩ := List.mem_map.mp hi
    exact (hf.unused (.user 0) (Nat.le_refl 0)).users user huser (hij.trans (List.mem_singleton.mp hj))
  identityId := by
    rw [List.map_append]
    refine List.nodup_append.mpr ⟨hc.identityId, List.nodup_singleton _, fun i hi j hj hij => ?_⟩
    obtain ⟨row, hrow, rfl⟩ := List.mem_map.mp hi
    exact ((hf.unused (.identity 0) (Nat.le_refl 0)).externalIdentities row hrow).1
      (hij.trans (List.mem_singleton.mp hj))
  identityRef := by
    rw [List.map_append]
    refine List.nodup_append.mpr ⟨hc.identityRef, List.nodup_singleton _, fun i hi j hj hij => ?_⟩
    obtain ⟨row, hrow, rfl⟩ := List.mem_map.mp hi
    exact lookup_eq_none_iff.mp hnone row hrow (hij.trans (List.mem_singleton.mp hj))

lemma provisionedTables_foreignKeys (h : s.tables.ForeignKeys) :
    (provisionedTables s.tables uuid4 principal).ForeignKeys := by
  have husers : s.tables.users.map User.id ⊆
      (provisionedTables s.tables uuid4 principal).users.map User.id :=
    List.map_subset _ (List.subset_append_left _ _)
  refine { h with identities := ?_, memberships := ?_, agents := ?_, grants := ?_ }
  · intro i hi
    rcases List.mem_append.mp hi with hold | hnew
    · exact husers (h.identities i hold)
    · rw [List.mem_singleton.mp hnew]
      exact List.mem_map.mpr ⟨_, List.mem_append_right _ (List.mem_singleton_self _), rfl⟩
  · exact fun m hm => ⟨(h.memberships m hm).1, (h.memberships m hm).2.1,
      husers (h.memberships m hm).2.2⟩
  · exact fun a ha => ⟨(h.agents a ha).1, (h.agents a ha).2.1,
      Tables.refersTo_mono husers (h.agents a ha).2.2⟩
  · exact fun g hg => ⟨(h.grants g hg).1, (h.grants g hg).2.1, husers (h.grants g hg).2.2.1,
      (h.grants g hg).2.2.2⟩

/-- Provisioning adds the user. -/
lemma resolveUser_provisions (principal : IdentityPrincipal) (hs : s.Reachable)
    (hf : Fresh uuid4 s.tables (Draw.Within 0))
    (h : s.tables.findUserByExternalIdentity principal.ref = none) :
    ∃ s', resolveUser s true uuid4 principal = .ok (s', (provisioned uuid4 principal).1) ∧
      s'.tables = provisionedTables s.tables uuid4 principal := by
  have hnone := identity_of_user_none hs h
  obtain ⟨s', hcommit⟩ := SqlAlchemyStore.commit_isOk_iff.mpr
    ⟨provisionedTables_constraints principal s.constraints hf hnone,
      fun hfk => provisionedTables_foreignKeys (s.foreignKeys hfk)⟩
  obtain ⟨hengine, htables⟩ := SqlAlchemyStore.commit_eq_ok_iff.mp hcommit
  have hcall : s.transaction (fun t => t.upsertUserFromIdentity uuid4 principal.ref principal.email
      principal.externalTenantId none) = .ok (s', provisioned uuid4 principal) := by
    rw [SqlAlchemyStore.transaction_eq_ok_iff, htables, Tables.upsertUserFromIdentity, hnone]
    exact ⟨hengine, rfl⟩
  refine ⟨s', ?_, htables⟩
  rw [resolveUser, h]
  simp only [Bool.not_true, Bool.false_eq_true, if_false, hcall]

/-- The new user is the one the identity is found by, and has no membership. -/
lemma provisioned_memberships (principal : IdentityPrincipal)
    (hf : Fresh uuid4 s.tables (Draw.Within 0)) (tenantId : Id)
    (applicationId : Option Id) :
    (provisionedTables s.tables uuid4 principal).membershipOf tenantId applicationId
      (uuid4 (.user 0)) = none := by
  rw [Tables.membershipOf, List.find?_eq_none]
  intro m hm
  have hne := ((hf.unused (.user 0) (Nat.le_refl 0)).memberships m hm).2.2.2
  simp [hne]

/-- Provisioning does not change which tenant a request resolves to. -/
lemma resolveTenant_provisioned (hs : s.Reachable) (hf : Fresh uuid4 s.tables (Draw.Within 0))
    (h : s.tables.findUserByExternalIdentity principal.ref = none)
    (mappings : List TenantIdentityMapping) (explicitTenantId : Option String) :
    resolveTenant (provisionedTables s.tables uuid4 principal) mappings principal explicitTenantId =
      resolveTenant s.tables mappings principal explicitTenantId := by
  have hno : ∀ user : User, user.id = uuid4 (.user 0) →
      (provisionedTables s.tables uuid4 principal).listMembershipsForUser user.id = [] := by
    intro user hid
    rw [Tables.listMembershipsForUser, List.filter_eq_nil_iff]
    intro m hm
    have hne := ((hf.unused (.user 0) (Nat.le_refl 0)).memberships m hm).2.2.2
    simp [hid, hne]
  have hunique : uniqueTenants (provisionedTables s.tables uuid4 principal) principal =
      uniqueTenants s.tables principal := by
    rw [uniqueTenants, uniqueTenants, h]
    split
    · rfl
    · rename_i user huser
      obtain ⟨i, hi, hu⟩ := Option.bind_eq_some_iff.mp huser
      have hnew : i = (provisioned uuid4 principal).2 := by
        rcases List.mem_append.mp (mem_of_lookup hi) with hold | hnew
        · exact absurd (key_of_lookup hi)
            (lookup_eq_none_iff.mp (identity_of_user_none hs h) i hold)
        · exact List.mem_singleton.mp hnew
      have hid : user.id = uuid4 (.user 0) := (key_of_lookup hu).trans (hnew ▸ rfl)
      rw [hno user hid]
      rfl
  have hsingle : singleTenant (provisionedTables s.tables uuid4 principal) principal =
      singleTenant s.tables principal := by
    rw [singleTenant, singleTenant, hunique]
  rw [resolveTenant, resolveTenant, hsingle]
  rfl

end Provisioned

end TenantContextResolver

open TenantContextResolver

/-- The answer to what a request finds at another tenant. -/
def TenantStanding.refusal (body : ResolveContextRequestSchema) : TenantStanding → HttpException
  | unknown => ⟨400, [("reason", "invalid_request"),
      ("message", "unknown tenant: " ++ (given body.explicitTenantId).getD "")]⟩
  | suspended => ⟨404, [("reason", "tenant_not_active")]⟩
  | stranger => ⟨404, [("reason", "no_active_membership")]⟩
  | member tenantId => Runtime.mismatch tenantId

/-- Each finding has its own answer. -/
lemma TenantStanding.refusal_inj {body : ResolveContextRequestSchema} {st st' : TenantStanding} :
    st.refusal body = st'.refusal body ↔ st = st' := by
  cases st <;> cases st' <;> simp [refusal, Runtime.mismatch]

namespace Runtime

variable {principal : Principal} {body : ResolveContextRequestSchema} {uuid4 : UuidSource}
  {tenantId : Id}

/-- The answer of a resolver that finds the same tenant and the same activity as the
request does. -/
lemma contextAnswer_of_standing {t t' : Tables} {mappings : List TenantIdentityMapping}
    {application : Application} {user : User} (hbound : principal.BoundOnlyTo tenantId)
    (helse : ∀ tenant, tenantFor t mappings body = .ok tenant → tenant.id ≠ tenantId)
    (htenant : tenantFor t' mappings body = tenantFor t mappings body)
    (hmember : ∀ x, ((membershipIn t' x application.id user.id).any fun m =>
      m.status = statusActive) = isActiveMember t body.identity x application.id) :
    contextAnswer principal
        (contextIn t' mappings body.identity body.explicitTenantId application user) =
      .error (.http ((standing t mappings body application.id).refusal body)) := by
  rw [contextIn, standing, show resolveTenant t' mappings body.identity body.explicitTenantId =
    tenantFor t mappings body from htenant]
  cases hfor : tenantFor t mappings body with
  | error e =>
      rcases tenantFor_error hfor with ⟨hnone, rfl⟩ | ⟨x, hgiven, -, rfl⟩
      · simp only [hnone, if_true]
        rfl
      · simp only [hgiven, reduceCtorEq, if_false, TenantStanding.refusal, Option.getD_some]
        rfl
  | ok tenant =>
      dsimp only
      by_cases hactive : tenant.status = statusActive
      · have hm := hmember tenant.id
        rw [if_neg (not_not.mpr hactive), if_neg (not_not.mpr hactive), ← hm]
        cases membershipIn t' tenant.id application.id user.id with
        | none => rfl
        | some m =>
            by_cases hms : m.status = statusActive
            · have hrefused := enforceTenantScopeBinding_of_not
                fun hto => helse tenant hfor (hbound.eq hto)
              simp only [Option.any_some, hms, not_true_eq_false, decide_true, if_true, if_false,
                ne_eq, contextAnswer, hrefused, TenantStanding.refusal, mismatch]
            · simp only [Option.any_some, hms, not_false_eq_true, decide_false, if_true,
                Bool.false_eq_true, if_false, ne_eq, contextAnswer, TenantStanding.refusal]
      · rw [if_pos hactive, if_pos hactive]
        rfl

/-- **The answer to a request about another tenant** is what the request finds there. -/
theorem resolveContext_standing (service : Runtime) (hs : service.store.Reachable)
    (hf : Fresh uuid4 service.store.tables (Draw.Within 0)) (hbound : principal.BoundOnlyTo tenantId)
    (helse : ∀ tenant, tenantFor service.store.tables service.tenantIdentityMappings body =
      .ok tenant → tenant.id ≠ tenantId)
    (hruntime : requireRuntime principal = .ok ()) {application : Application}
    (happ : service.store.tables.getApplicationBySlug body.applicationId = some application)
    (huser : service.store.tables.findUserByExternalIdentity body.identity.ref ≠ none ∨
      service.autoProvisionUser = true) :
    (service.handle principal (.resolveContext body) uuid4).2 =
      .error (.http ((standing service.store.tables service.tenantIdentityMappings body
        application.id).refusal body)) := by
  unfold handle
  rw [hruntime]
  simp only [resolveContext, resolve, happ]
  cases hfound : service.store.tables.findUserByExternalIdentity body.identity.ref with
  | some user =>
      simp only [resolveUser, hfound]
      refine contextAnswer_of_standing hbound helse rfl fun x => ?_
      rw [isActiveMember, hfound, Option.any_some]
  | none =>
      have hauto := huser.resolve_left (not_not.mpr hfound)
      obtain ⟨s', hresolve, htables⟩ := resolveUser_provisions body.identity hs hf hfound
      rw [hauto, hresolve]
      dsimp only
      rw [htables]
      refine contextAnswer_of_standing hbound helse ?_ fun x => ?_
      · exact resolveTenant_provisioned hs hf hfound _ _
      · rw [isActiveMember, hfound, membershipIn]
        have hno := provisioned_memberships body.identity hf
        simp only [Tables.newIdentity] at hno ⊢
        rw [hno, hno]
        rfl

/-- A request that is answered before its tenant is looked up. -/
lemma resolveContext_early (service : Runtime) (body : ResolveContextRequestSchema)
    (uuid4 : UuidSource) (hruntime : requireRuntime principal = .ok ()) :
    (service.store.tables.getApplicationBySlug body.applicationId = none →
      (service.handle principal (.resolveContext body) uuid4).2 =
        .error (.http ⟨400, [("reason", "invalid_request"),
          ("message", "unknown application: " ++ body.applicationId)]⟩)) ∧
    ∀ application,
      service.store.tables.getApplicationBySlug body.applicationId = some application →
      service.store.tables.findUserByExternalIdentity body.identity.ref = none →
      service.autoProvisionUser = false →
      (service.handle principal (.resolveContext body) uuid4).2 =
        .error (.http ⟨404, [("reason", "no_active_membership")]⟩) := by
  unfold handle
  rw [hruntime]
  simp only [resolveContext, resolve]
  constructor
  · intro happ
    rw [happ]
    rfl
  · intro application happ huser hauto
    rw [happ]
    simp only [resolveUser, huser, hauto]
    rfl

/-- **When resolve-context tells nothing of another tenant.** Two stores agree on the
caller's tenant, on the applications and on the identity's user, and in neither the
request resolves to the caller's tenant. The answers are the same exactly when the caller
lacks the runtime scope, the application is unknown, the identity has no user and none is
provisioned, or the request finds the same in both: the tenant it asks for is unknown in
both or in neither, the tenant it resolves to is inactive in both or in neither, and the
user is an active member of it, and of which, in both or in neither. -/
theorem resolveContext_answer_eq_iff (service : Runtime) (store' : SqlAlchemyStore)
    (mappings' : List TenantIdentityMapping) (hs : service.store.Reachable)
    (hs' : store'.Reachable) (uuid4 uuid4' : UuidSource)
    (hf : Fresh uuid4 service.store.tables (Draw.Within 0))
    (hf' : Fresh uuid4' store'.tables (Draw.Within 0)) (tenantId : Id)
    (hagree : Tables.AgreeOn tenantId service.store.tables store'.tables) (principal : Principal)
    (hbound : principal.BoundOnlyTo tenantId) (body : ResolveContextRequestSchema)
    (huser : store'.tables.findUserByExternalIdentity body.identity.ref =
      service.store.tables.findUserByExternalIdentity body.identity.ref)
    (helse : ∀ tenant, tenantFor service.store.tables service.tenantIdentityMappings body =
      .ok tenant → tenant.id ≠ tenantId)
    (helse' : ∀ tenant, tenantFor store'.tables mappings' body = .ok tenant →
      tenant.id ≠ tenantId) :
    let service' : Runtime :=
      { service with store := store', tenantIdentityMappings := mappings' }
    (service.handle principal (.resolveContext body) uuid4).2 =
        (service'.handle principal (.resolveContext body) uuid4').2 ↔
      requireRuntime principal ≠ .ok () ∨
      service.store.tables.getApplicationBySlug body.applicationId = none ∨
      (service.store.tables.findUserByExternalIdentity body.identity.ref = none ∧
        service.autoProvisionUser = false) ∨
      ∃ application,
        service.store.tables.getApplicationBySlug body.applicationId = some application ∧
        SameStanding service.store.tables service.tenantIdentityMappings store'.tables mappings' body
          application.id := by
  intro service'
  have happs : service'.store.tables.getApplicationBySlug body.applicationId =
      service.store.tables.getApplicationBySlug body.applicationId := by
    rw [Tables.getApplicationBySlug, Tables.getApplicationBySlug, hagree.applications]
  cases hruntime : requireRuntime principal with
  | error e => simp [answer_of_scope _ hruntime]
  | ok _ =>
      have hearly := resolveContext_early service body uuid4 hruntime
      have hearly' := resolveContext_early service' body uuid4' hruntime
      cases happ : service.store.tables.getApplicationBySlug body.applicationId with
      | none =>
          rw [hearly.1 happ, hearly'.1 (happs.trans happ)]
          simp
      | some application =>
          by_cases hprovision :
              service.store.tables.findUserByExternalIdentity body.identity.ref = none ∧
                service.autoProvisionUser = false
          · rw [hearly.2 application happ hprovision.1 hprovision.2,
              hearly'.2 application (happs.trans happ) (huser.trans hprovision.1) hprovision.2]
            simp [hprovision]
          · have hknown : service.store.tables.findUserByExternalIdentity body.identity.ref ≠ none ∨
                service.autoProvisionUser = true := by
              rw [not_and_or, Bool.not_eq_false] at hprovision
              exact hprovision
            have hknown' : service'.store.tables.findUserByExternalIdentity body.identity.ref ≠ none ∨
                service'.autoProvisionUser = true :=
              hknown.imp_left fun h h' => h (huser.symm.trans h')
            rw [resolveContext_standing service hs hf hbound helse hruntime happ hknown,
              resolveContext_standing service' hs' hf' hbound helse' hruntime
                (happs.trans happ) hknown']
            simp only [Except.error.injEq, Refusal.http.injEq, TenantStanding.refusal_inj,
              ← sameStanding_iff, hprovision, ne_eq, not_true_eq_false, reduceCtorEq, false_or,
              Option.some.injEq, exists_eq_left']
            exact Iff.rfl

/-- The identity of the first tenant's member, asking for the second tenant by id. -/
def globexContext : ResolveContextRequestSchema :=
  ⟨"crm", "oidc", "https://idp", "alice", none, none, some (SqlAlchemyStore.sampleIds 5 .row)⟩

/-- It resolves to the first tenant in neither store. -/
lemma globexContext_elsewhere :
    (∀ tenant, tenantFor SqlAlchemyStore.acmeStore.tables [] globexContext = .ok tenant →
        tenant.id ≠ SqlAlchemyStore.sampleIds 0 .row) ∧
      ∀ tenant, tenantFor globexStore.tables [] globexContext = .ok tenant →
        tenant.id ≠ SqlAlchemyStore.sampleIds 0 .row := by
  have hfor : ∀ (t : Tables) (tenant : Tenant), tenantFor t [] globexContext = .ok tenant →
      tenant.id = SqlAlchemyStore.sampleIds 5 .row := by
    intro t tenant h
    have hgiven : given globexContext.explicitTenantId =
      some (SqlAlchemyStore.sampleIds 5 .row) := by decide
    rw [tenantFor, resolveTenant, hgiven] at h
    dsimp only at h
    split at h
    · cases h
    · rename_i row hrow
      obtain rfl := Except.ok.inj h
      exact key_of_lookup hrow
  have hne : SqlAlchemyStore.sampleIds 5 .row ≠ SqlAlchemyStore.sampleIds 0 .row := by decide
  exact ⟨fun tenant h => hfor _ tenant h ▸ hne, fun tenant h => hfor _ tenant h ▸ hne⟩

/-- The second tenant asked for before and after it is created. -/
theorem resolveContext_answer_eq_iff_globex :
    (acmeRuntime.handle acmeTenantKey (.resolveContext globexContext)
          (SqlAlchemyStore.sampleIds 9)).2 =
        (globexRuntime.handle acmeTenantKey (.resolveContext globexContext)
          (SqlAlchemyStore.sampleIds 9)).2 ↔
      requireRuntime acmeTenantKey ≠ .ok () ∨
      SqlAlchemyStore.acmeStore.tables.getApplicationBySlug "crm" = none ∨
      (SqlAlchemyStore.acmeStore.tables.findUserByExternalIdentity globexContext.identity.ref = none ∧
        true = false) ∨
      ∃ application,
        SqlAlchemyStore.acmeStore.tables.getApplicationBySlug "crm" = some application ∧
        SameStanding SqlAlchemyStore.acmeStore.tables [] globexStore.tables [] globexContext
          application.id :=
  resolveContext_answer_eq_iff acmeRuntime globexStore [] SqlAlchemyStore.acmeStore_reachable
    globexStore_reachable (SqlAlchemyStore.sampleIds 9) (SqlAlchemyStore.sampleIds 9)
    (by decide +kernel) (by decide +kernel) (SqlAlchemyStore.sampleIds 0 .row) globexStore_agree
    acmeTenantKey acmeTenantKey_boundOnlyTo globexContext (by decide +kernel)
    globexContext_elsewhere.1 globexContext_elsewhere.2

/-- **resolve-context tells whether another tenant exists.** The stores agree on the
caller's tenant, on the applications and on the identity's user, and the caller asks for
another tenant by id: 400 while there is none, 404 once there is. -/
theorem resolveContext_answers_differ :
    SqlAlchemyStore.acmeStore.Reachable ∧ globexStore.Reachable ∧
      Tables.AgreeOn (SqlAlchemyStore.sampleIds 0 .row) SqlAlchemyStore.acmeStore.tables
        globexStore.tables ∧
      acmeTenantKey.BoundOnlyTo (SqlAlchemyStore.sampleIds 0 .row) ∧
      globexContext.explicitTenantId = some (SqlAlchemyStore.sampleIds 5 .row) ∧
      SqlAlchemyStore.sampleIds 5 .row ≠ SqlAlchemyStore.sampleIds 0 .row ∧
      globexStore.tables.findUserByExternalIdentity globexContext.identity.ref =
        SqlAlchemyStore.acmeStore.tables.findUserByExternalIdentity globexContext.identity.ref ∧
      (acmeRuntime.handle acmeTenantKey (.resolveContext globexContext)
          (SqlAlchemyStore.sampleIds 9)).2 =
        .error (.http ⟨400, [("reason", "invalid_request"),
          ("message", "unknown tenant: " ++ SqlAlchemyStore.sampleIds 5 .row)]⟩) ∧
      (globexRuntime.handle acmeTenantKey (.resolveContext globexContext)
          (SqlAlchemyStore.sampleIds 9)).2 =
        .error (.http ⟨404, [("reason", "no_active_membership")]⟩) :=
  ⟨SqlAlchemyStore.acmeStore_reachable, globexStore_reachable, globexStore_agree,
    acmeTenantKey_boundOnlyTo, by decide, by decide, by decide +kernel, by decide +kernel,
    by decide +kernel⟩

end Runtime

end AuthzKit
