import AuthzKit.Rbac.References
import AuthzKit.Service.TenantBinding
import AuthzKit.Storage.Invariant

/-!
What a caller that is bound to one tenant learns about the others: the answers to its
requests about other tenants, in two stores that agree on its own tenant.

A refused binding names the tenant it was asked for, and it is asked for the tenant a
reference denotes. So a slug of another tenant is answered with that tenant's id
(`otherTenant_answers_differ`), and the stores are told apart by it.

* `Tables.AgreeOn`: the rows of one tenant, and the applications, are the same.
* `Runtime.Refused`: the answer to a request about another tenant.
* `Runtime.otherTenant_answer_eq_iff`: the two answers are the same exactly when the
  request names no row whose tenant differs.
-/

namespace AuthzKit

open Keyed Delegations

/-- The caller is bound to one tenant only: by its pin, or by its scopes. -/
def Principal.BoundOnlyTo (principal : Principal) (tenantId : Id) : Prop :=
  principal.tenantId = some tenantId ∨
    principal.tenantId = none ∧ ∀ scope ∈ principal.scopes, scope = "tenant:" ++ tenantId

namespace Principal

variable {principal : Principal} {tenantId x : Id}

/-- The scope of a tenant is neither of the unrestricted ones. -/
lemma tenant_scope_ne (tenantId : Id) :
    "tenant:" ++ tenantId ≠ scopeAdmin ∧ "tenant:" ++ tenantId ≠ scopeRuntime := by
  have hfirst : ∀ s : String, s.toList.head? ≠ some 't' → "tenant:" ++ tenantId ≠ s := by
    rintro s hs rfl
    exact hs (by rw [String.toList_append]; rfl)
  exact ⟨hfirst _ (by decide), hfirst _ (by decide)⟩

/-- A caller bound to one tenant only is bound to no other. -/
lemma BoundOnlyTo.eq (h : principal.BoundOnlyTo tenantId) (hx : principal.BoundTo x) :
    x = tenantId := by
  rcases h with hpin | ⟨-, hscopes⟩
  · exact hx.1 tenantId hpin
  · have hadmin : scopeAdmin ∉ principal.scopes := fun hmem =>
      (tenant_scope_ne tenantId).1 (hscopes _ hmem).symm
    have hruntime : scopeRuntime ∉ principal.scopes := fun hmem =>
      (tenant_scope_ne tenantId).2 (hscopes _ hmem).symm
    exact String.append_right_inj _ |>.mp (hscopes _ (hx.2 hadmin hruntime))

end Principal

namespace Tables

/-- Two sets of tables agree on the rows of a tenant and on the applications. -/
structure AgreeOn (tenantId : Id) (t t' : Tables) : Prop where
  applications : t'.applications = t.applications
  tenants : t'.tenants.filter (·.id = tenantId) = t.tenants.filter (·.id = tenantId)
  memberships : t'.memberships.filter (·.tenantId = tenantId) =
    t.memberships.filter (·.tenantId = tenantId)
  roles : t'.roles.filter (·.tenantId = some tenantId) = t.roles.filter (·.tenantId = some tenantId)
  agents : t'.agents.filter (·.tenantId = tenantId) = t.agents.filter (·.tenantId = tenantId)
  tenantPermissionMasks : t'.tenantPermissionMasks.filter (·.tenantId = tenantId) =
    t.tenantPermissionMasks.filter (·.tenantId = tenantId)
  delegationGrants : t'.delegationGrants.filter (·.tenantId = tenantId) =
    t.delegationGrants.filter (·.tenantId = tenantId)
  membershipRoles : ∀ m ∈ t.memberships, m.tenantId = tenantId →
    ∀ i, (m.id, i) ∈ t'.membershipRoles ↔ (m.id, i) ∈ t.membershipRoles
  agentRoles : ∀ a ∈ t.agents, a.tenantId = tenantId →
    ∀ i, (a.id, i) ∈ t'.agentRoles ↔ (a.id, i) ∈ t.agentRoles
  rolePermissions : ∀ r ∈ t.roles, r.tenantId = some tenantId →
    ∀ i, (r.id, i) ∈ t'.rolePermissions ↔ (r.id, i) ∈ t.rolePermissions

variable {t t' : Tables} {tenantId : Id} {ref : String}

/-- The tenant is in both sets of tables, or in neither. -/
lemma AgreeOn.tenant_mem (h : AgreeOn tenantId t t') (hmem : tenantId ∈ t.tenants.map Tenant.id) :
    tenantId ∈ t'.tenants.map Tenant.id := by
  obtain ⟨row, hrow, hid⟩ := List.mem_map.mp hmem
  have hfilter : row ∈ t'.tenants.filter (·.id = tenantId) := by
    rw [h.tenants]
    exact List.mem_filter.mpr ⟨hrow, decide_eq_true hid⟩
  exact List.mem_map.mpr ⟨row, (List.mem_filter.mp hfilter).1, hid⟩

/-- A reference that does not denote a tenant resolves to another id than its. -/
lemma resolvedTenantId_ne (hc : t.Constraints) (hw : t.WellFormed)
    (hmem : tenantId ∈ t.tenants.map Tenant.id)
    (h : ∀ row, t.findTenant ref = some row → row.id ≠ tenantId) :
    resolvedTenantId t ref ≠ tenantId := by
  rw [resolvedTenantId]
  cases hfound : t.findTenant ref with
  | some row => exact h row hfound
  | none =>
      rintro rfl
      obtain ⟨row, hrow, hid⟩ := List.mem_map.mp hmem
      have hself := (byIdOrSlug_eq_some_iff hc.tenantId hc.tenantSlug hw.tenantIds).mpr
        ⟨hrow, Or.inl hid⟩
      have hnone := hfound.symm.trans hself
      cases hnone

end Tables

/-! ### Requests about other tenants -/

/-- The tenant reference of a request, or the grant its id names, is not the tenant's. -/
def RuntimeRequest.Elsewhere (t : Tables) (tenantId : Id) (request : RuntimeRequest) : Prop :=
  (∀ ref, request.tenantRef = some ref → ∀ row, t.findTenant ref = some row → row.id ≠ tenantId) ∧
    ∀ grantId, request.grantId = some grantId →
      ∀ g, lookup DelegationGrant.id t.delegationGrants grantId = some g → g.tenantId ≠ tenantId

/-- A reference tells one set of tables from another by nothing: what it denotes in the
one has the reference as its id, or the id of what it denotes in the other. -/
def Untold (t t' : Tables) (ref : String) : Prop :=
  ∀ row, t.findTenant ref = some row →
    row.id = ref ∨ ∃ row', t'.findTenant ref = some row' ∧ row'.id = row.id

lemma resolvedTenantId_eq_iff {t t' : Tables} {ref : String} :
    resolvedTenantId t ref = resolvedTenantId t' ref ↔ Untold t t' ref ∧ Untold t' t ref := by
  rw [resolvedTenantId, resolvedTenantId, Untold, Untold]
  cases hfound : t.findTenant ref with
  | none =>
      cases hfound' : t'.findTenant ref with
      | none => simp
      | some row' => simp [eq_comm]
  | some row =>
      cases hfound' : t'.findTenant ref with
      | none => simp
      | some row' =>
          simp only [Option.map_some, Option.getD_some, Option.some.injEq, forall_eq',
            exists_eq_left']
          constructor
          · exact fun h => ⟨Or.inr h.symm, Or.inr h⟩
          · rintro ⟨h | h, h' | h'⟩
            · exact h.trans h'.symm
            · exact h'
            · exact h.symm
            · exact h.symm

/-- The tenant of the grant with an id, if there is one. -/
def grantTenant (t : Tables) (grantId : Id) : Option Id :=
  (lookup DelegationGrant.id t.delegationGrants grantId).map DelegationGrant.tenantId

/-- What a request names does not tell two sets of tables apart. The roles of a tenant
are looked for only once the application is found. -/
def RuntimeRequest.SameTarget (t t' : Tables) : RuntimeRequest → Prop
  | getDelegation grantId | revokeDelegation grantId =>
      grantTenant t grantId = grantTenant t' grantId
  | listTenantRoles appSlug tenantSlug =>
      t.findApplication appSlug = none ∨ Untold t t' tenantSlug ∧ Untold t' t tenantSlug
  | request => ∀ ref, request.tenantRef = some ref → Untold t t' ref ∧ Untold t' t ref

namespace Runtime

variable (service : Runtime) {principal : Principal} {request : RuntimeRequest}
  {uuid4 : UuidSource} {e : HttpException}

/-- A caller without the runtime scope is answered before anything is looked up. -/
lemma answer_of_scope (h : requireRuntime principal = .error e) :
    (service.handle principal request uuid4).2 = .error (.http e) := by
  unfold handle
  rw [h]

/-- The refusal of the binding. -/
def mismatch (tenantId : Id) : HttpException :=
  ⟨403, [("error", "tenant_scope_mismatch"), ("tenant_id", tenantId)]⟩

lemma mismatch_injective {x y : Id} : mismatch x = mismatch y ↔ x = y := by
  simp [mismatch]

lemma requireBoundTenant_of_error {t : Tables} {ref : String}
    (h : enforceTenantScopeBinding principal (resolvedTenantId t ref) = .error e) :
    requireBoundTenant t ref principal = .error e := by
  rw [requireBoundTenant, h]

/-- A refused binding is the answer of every route that takes a tenant reference; the
roles of a tenant ask for the application first. -/
lemma answer_of_ref (hruntime : requireRuntime principal = .ok ()) {ref : String}
    (href : request.tenantRef = some ref)
    (hbinding : enforceTenantScopeBinding principal (resolvedTenantId service.store.tables ref) =
      .error e)
    (happ : ∀ appSlug tenantSlug, request = .listTenantRoles appSlug tenantSlug →
      service.store.tables.findApplication appSlug ≠ none) :
    (service.handle principal request uuid4).2 = .error (.http e) := by
  unfold handle
  rw [hruntime]
  cases request with
  | authorize body token =>
      obtain rfl := Option.some.inj href
      have hrefs : enforceTenantScopeBinding principal (resolveDecisionRefs service.store.tables
          body.tenantId body.applicationId body.subject).1.tenantId = .error e := hbinding
      simp only [Service.authorize, hruntime, hrefs, Except.map, orRefuse]
  | bulkAuthorize body token =>
      obtain rfl := Option.some.inj href
      have hrefs : enforceTenantScopeBinding principal (resolveDecisionRefs service.store.tables
          body.tenantId body.applicationId body.subject).1.tenantId = .error e := hbinding
      simp only [Service.bulkAuthorize, hruntime, hrefs, Except.map, orRefuse]
  | effectivePermissions body token =>
      obtain rfl := Option.some.inj href
      have hrefs : enforceTenantScopeBinding principal (resolveDecisionRefs service.store.tables
          body.tenantId body.applicationId body.subject).1.tenantId = .error e := hbinding
      simp only [Service.effectivePermissions, hruntime, hrefs, Except.map, orRefuse]
  | createDelegation body =>
      obtain rfl := Option.some.inj href
      simp only [createDelegation, grantRequest, requireBoundTenant_of_error hbinding, orRefuse,
        bind, Except.bind]
  | revokeDelegations body =>
      obtain rfl := Option.some.inj href
      simp only [revokeDelegations, revokeRequest, requireBoundTenant_of_error hbinding, bind,
        Except.bind]
  | listTenantRoles appSlug tenantSlug =>
      obtain rfl := Option.some.inj href
      obtain ⟨app, hfound⟩ := Option.ne_none_iff_exists'.mp (happ appSlug _ rfl)
      simp only [listTenantRoles, requireApplication, hfound, requireBoundTenant_of_error hbinding,
        orRefuse, bind, Except.bind]
  | resolveContext body => cases href
  | introspectDelegation token => cases href
  | getDelegation grantId => cases href
  | revokeDelegation grantId => cases href

/-- An unknown application is the answer to a request for the roles of a tenant. -/
lemma answer_of_application (hruntime : requireRuntime principal = .ok ()) {appSlug : String}
    (h : service.store.tables.findApplication appSlug = none) (tenantSlug : String) :
    (service.handle principal (.listTenantRoles appSlug tenantSlug) uuid4).2 =
      .error (.http ⟨404, [("reason", "application_not_found")]⟩) := by
  unfold handle
  rw [hruntime]
  simp only [listTenantRoles, requireApplication, h, orRefuse, bind, Except.bind]

/-- The answer to a request for a grant of another tenant. -/
lemma answer_of_grant (hruntime : requireRuntime principal = .ok ()) {grantId : Id}
    (hgrant : request.grantId = some grantId)
    (hbinding : ∀ x, grantTenant service.store.tables grantId = some x → ¬principal.BoundTo x) :
    (service.handle principal request uuid4).2 = .error (.http
      ((grantTenant service.store.tables grantId).elim delegationNotFound mismatch)) := by
  have hcaller : service.grantForCaller grantId principal =
      .error ((grantTenant service.store.tables grantId).elim delegationNotFound mismatch) := by
    rw [grantForCaller, DelegationService.get, grantTenant]
    cases hl : lookup DelegationGrant.id service.store.tables.delegationGrants grantId with
    | none => rfl
    | some g =>
        have hx : grantTenant service.store.tables grantId = some g.tenantId := by
          rw [grantTenant, hl]
          rfl
        have hrefused := enforceTenantScopeBinding_of_not (hbinding _ hx)
        simp only [Option.map_some, toGrant, hrefused]
        rfl
  unfold handle
  rw [hruntime]
  cases request with
  | getDelegation id =>
      obtain rfl := Option.some.inj hgrant
      simp only [getDelegation, hcaller, Except.map, orRefuse]
  | revokeDelegation id =>
      obtain rfl := Option.some.inj hgrant
      simp only [revokeDelegation, hcaller]
  | _ => cases hgrant

/-- A caller bound to one tenant only is refused a reference to another. -/
lemma refused_of_elsewhere {tenantId : Id} (hs : service.store.Reachable)
    (hmem : tenantId ∈ service.store.tables.tenants.map Tenant.id)
    (hbound : principal.BoundOnlyTo tenantId)
    (helse : request.Elsewhere service.store.tables tenantId) {ref : String}
    (href : request.tenantRef = some ref) :
    enforceTenantScopeBinding principal (resolvedTenantId service.store.tables ref) =
      .error (mismatch (resolvedTenantId service.store.tables ref)) :=
  enforceTenantScopeBinding_of_not fun hto =>
    Tables.resolvedTenantId_ne service.store.constraints hs.wellFormed hmem (helse.1 ref href)
      (hbound.eq hto)

/-- The grant a request names is not one of the caller's tenant. -/
lemma not_boundTo_of_elsewhere {tenantId : Id} (hbound : principal.BoundOnlyTo tenantId)
    (helse : request.Elsewhere service.store.tables tenantId) {grantId : Id}
    (hgrant : request.grantId = some grantId) {x : Id}
    (hx : grantTenant service.store.tables grantId = some x) : ¬principal.BoundTo x := by
  obtain ⟨g, hl, rfl⟩ := Option.map_eq_some_iff.mp hx
  exact fun hto => helse.2 grantId hgrant g hl (hbound.eq hto)

/-- The answers about a grant are told apart by its tenant. -/
lemma grant_answer_inj {x x' : Option Id} :
    x.elim delegationNotFound mismatch = x'.elim delegationNotFound mismatch ↔ x = x' := by
  cases x with
  | none =>
      cases x' with
      | none => simp
      | some y => simp [delegationNotFound, mismatch]
  | some y =>
      cases x' with
      | none => simp [delegationNotFound, mismatch]
      | some y' => simp [mismatch_injective]

/-- **When a tenant-bound caller learns nothing about other tenants.** Two stores agree
on the caller's tenant and on the applications. A request whose tenant reference or grant
id denotes nothing in that tenant is answered alike in both exactly when the caller lacks
the runtime scope, or the request names the same tenant in both: each tenant that the
reference denotes has the reference as its id, or is one that it denotes in the other
store too; the grant is of the same tenant, or missing, in both. The roles of a tenant
are also answered alike when the application is unknown. -/
theorem otherTenant_answer_eq_iff (service : Runtime) (store' : SqlAlchemyStore)
    (mappings' : List TenantIdentityMapping) (hs : service.store.Reachable)
    (hs' : store'.Reachable) (tenantId : Id)
    (hmem : tenantId ∈ service.store.tables.tenants.map Tenant.id)
    (hagree : Tables.AgreeOn tenantId service.store.tables store'.tables) (principal : Principal)
    (hbound : principal.BoundOnlyTo tenantId) (request : RuntimeRequest)
    (hrequest : request.tenantRef ≠ none ∨ request.grantId ≠ none)
    (helse : request.Elsewhere service.store.tables tenantId)
    (helse' : request.Elsewhere store'.tables tenantId) (uuid4 uuid4' : UuidSource) :
    let service' : Runtime :=
      { service with store := store', tenantIdentityMappings := mappings' }
    (service.handle principal request uuid4).2 = (service'.handle principal request uuid4').2 ↔
      requireRuntime principal ≠ .ok () ∨
        request.SameTarget service.store.tables store'.tables := by
  intro service'
  cases hruntime : requireRuntime principal with
  | error e => simp [answer_of_scope _ hruntime]
  | ok _ =>
      have href_iff : ∀ ref, request.tenantRef = some ref →
          (∀ appSlug tenantSlug, request = .listTenantRoles appSlug tenantSlug →
            service.store.tables.findApplication appSlug ≠ none) →
          ((service.handle principal request uuid4).2 = (service'.handle principal request uuid4').2 ↔
            Untold service.store.tables store'.tables ref ∧
              Untold store'.tables service.store.tables ref) := by
        intro ref href happ
        have happ' : ∀ appSlug tenantSlug, request = .listTenantRoles appSlug tenantSlug →
            service'.store.tables.findApplication appSlug ≠ none := by
          intro appSlug tenantSlug hroles
          have hsame : service'.store.tables.findApplication appSlug =
              service.store.tables.findApplication appSlug := by
            rw [Tables.findApplication, Tables.findApplication, hagree.applications]
          rw [hsame]
          exact happ appSlug tenantSlug hroles
        rw [answer_of_ref service hruntime href
              (refused_of_elsewhere service hs hmem hbound helse href) happ,
          answer_of_ref service' hruntime href
            (refused_of_elsewhere service' hs' (hagree.tenant_mem hmem) hbound helse' href) happ',
          ← resolvedTenantId_eq_iff]
        simp [mismatch_injective, service']
      have hgrant_iff : ∀ grantId, request.grantId = some grantId →
          ((service.handle principal request uuid4).2 = (service'.handle principal request uuid4').2 ↔
            grantTenant service.store.tables grantId = grantTenant store'.tables grantId) := by
        intro grantId hgrant
        rw [answer_of_grant service hruntime hgrant fun x hx =>
            not_boundTo_of_elsewhere service hbound helse hgrant hx,
          answer_of_grant service' hruntime hgrant fun x hx =>
            not_boundTo_of_elsewhere service' hbound helse' hgrant hx,
          ← grant_answer_inj]
        simp [service']
      simp only [ne_eq, not_true_eq_false, false_or]
      cases request with
      | getDelegation grantId => exact hgrant_iff grantId rfl
      | revokeDelegation grantId => exact hgrant_iff grantId rfl
      | listTenantRoles appSlug tenantSlug =>
          by_cases happ : service.store.tables.findApplication appSlug = none
          · have happ' : service'.store.tables.findApplication appSlug = none := by
              rw [← happ, Tables.findApplication, Tables.findApplication, hagree.applications]
            rw [answer_of_application service hruntime happ,
              answer_of_application service' hruntime happ']
            exact iff_of_true rfl (Or.inl happ)
          · rw [href_iff tenantSlug rfl fun _ _ h => by
              obtain ⟨rfl, -⟩ := RuntimeRequest.listTenantRoles.inj h
              exact happ]
            exact (or_iff_right happ).symm
      | resolveContext body => simp [RuntimeRequest.tenantRef, RuntimeRequest.grantId] at hrequest
      | introspectDelegation token =>
          simp [RuntimeRequest.tenantRef, RuntimeRequest.grantId] at hrequest
      | authorize body token =>
          rw [href_iff body.tenantId rfl fun _ _ h => (by cases h)]
          exact ⟨fun h _ href => Option.some.inj href ▸ h, fun h => h _ rfl⟩
      | bulkAuthorize body token =>
          rw [href_iff body.tenantId rfl fun _ _ h => (by cases h)]
          exact ⟨fun h _ href => Option.some.inj href ▸ h, fun h => h _ rfl⟩
      | effectivePermissions body token =>
          rw [href_iff body.tenantId rfl fun _ _ h => (by cases h)]
          exact ⟨fun h _ href => Option.some.inj href ▸ h, fun h => h _ rfl⟩
      | createDelegation body =>
          rw [href_iff body.tenantId rfl fun _ _ h => (by cases h)]
          exact ⟨fun h _ href => Option.some.inj href ▸ h, fun h => h _ rfl⟩
      | revokeDelegations body =>
          rw [href_iff body.tenantId rfl fun _ _ h => (by cases h)]
          exact ⟨fun h _ href => Option.some.inj href ▸ h, fun h => h _ rfl⟩

/-- The store with a second tenant. -/
def globexStore : SqlAlchemyStore :=
  SqlAlchemyStore.acmeStore.next (.createTenant "globex" "Globex" "active")
    (SqlAlchemyStore.sampleIds 5)

lemma globexStore_reachable : globexStore.Reachable :=
  Machine.Reachable.step
    (i := (.createTenant "globex" "Globex" "active", SqlAlchemyStore.sampleIds 5))
    SqlAlchemyStore.acmeStore_reachable ⟨by decide +kernel, rfl⟩

/-- The second tenant changes nothing of the first. -/
lemma globexStore_agree : Tables.AgreeOn (SqlAlchemyStore.sampleIds 0 .row)
    SqlAlchemyStore.acmeStore.tables globexStore.tables where
  applications := by decide +kernel
  tenants := by decide +kernel
  memberships := by decide +kernel
  roles := by decide +kernel
  agents := by decide +kernel
  tenantPermissionMasks := by decide +kernel
  delegationGrants := by decide +kernel
  membershipRoles := by
    have h : globexStore.tables.membershipRoles =
      SqlAlchemyStore.acmeStore.tables.membershipRoles := by decide +kernel
    simp [h]
  agentRoles := by
    have h : globexStore.tables.agentRoles = SqlAlchemyStore.acmeStore.tables.agentRoles := by
      decide +kernel
    simp [h]
  rolePermissions := by
    have h : globexStore.tables.rolePermissions =
      SqlAlchemyStore.acmeStore.tables.rolePermissions := by decide +kernel
    simp [h]

/-- The service over the store with the second tenant. -/
def globexRuntime : Runtime :=
  { acmeRuntime with store := globexStore, tenantIdentityMappings := [] }

lemma acmeTenantKey_boundOnlyTo :
    acmeTenantKey.BoundOnlyTo (SqlAlchemyStore.sampleIds 0 .row) :=
  Or.inr ⟨rfl, fun _ h => List.mem_singleton.mp h⟩

/-- Neither store has a row of the first tenant behind the slug of the second. -/
lemma globex_elsewhere :
    (RuntimeRequest.listTenantRoles "crm" "globex").Elsewhere SqlAlchemyStore.acmeStore.tables
        (SqlAlchemyStore.sampleIds 0 .row) ∧
      (RuntimeRequest.listTenantRoles "crm" "globex").Elsewhere globexStore.tables
        (SqlAlchemyStore.sampleIds 0 .row) := by
  have hnone : SqlAlchemyStore.acmeStore.tables.findTenant "globex" = none := by decide +kernel
  have hsome : (globexStore.tables.findTenant "globex").map Tenant.id =
      some (SqlAlchemyStore.sampleIds 5 .row) := by decide +kernel
  refine ⟨⟨fun ref href row hrow => ?_, fun _ h => (by cases h)⟩,
    ⟨fun ref href row hrow => ?_, fun _ h => (by cases h)⟩⟩
  · obtain rfl := Option.some.inj href
    rw [hnone] at hrow
    cases hrow
  · obtain rfl := Option.some.inj href
    rw [hrow] at hsome
    rw [Option.some.inj hsome]
    decide

/-- The roles of a second tenant, asked for by its slug before and after it is created. -/
theorem otherTenant_answer_eq_iff_globex :
    (acmeRuntime.handle acmeTenantKey (.listTenantRoles "crm" "globex")
          (SqlAlchemyStore.sampleIds 9)).2 =
        (globexRuntime.handle acmeTenantKey (.listTenantRoles "crm" "globex")
          (SqlAlchemyStore.sampleIds 9)).2 ↔
      requireRuntime acmeTenantKey ≠ .ok () ∨
        (RuntimeRequest.listTenantRoles "crm" "globex").SameTarget
          SqlAlchemyStore.acmeStore.tables globexStore.tables :=
  otherTenant_answer_eq_iff acmeRuntime globexStore [] SqlAlchemyStore.acmeStore_reachable
    globexStore_reachable (SqlAlchemyStore.sampleIds 0 .row) (by decide +kernel) globexStore_agree
    acmeTenantKey acmeTenantKey_boundOnlyTo _ (Or.inl (by simp [RuntimeRequest.tenantRef]))
    globex_elsewhere.1 globex_elsewhere.2 _ _

/-- **A tenant-bound caller learns the id of another tenant from its slug.** The stores
agree on the caller's tenant and on the applications, and the slug denotes nothing in
that tenant. Without a tenant of that slug the refusal names the slug, with one it names
the tenant's id. -/
theorem otherTenant_answers_differ :
    SqlAlchemyStore.acmeStore.Reachable ∧ globexStore.Reachable ∧
      Tables.AgreeOn (SqlAlchemyStore.sampleIds 0 .row) SqlAlchemyStore.acmeStore.tables
        globexStore.tables ∧
      acmeTenantKey.BoundOnlyTo (SqlAlchemyStore.sampleIds 0 .row) ∧
      (RuntimeRequest.listTenantRoles "crm" "globex").Elsewhere SqlAlchemyStore.acmeStore.tables
        (SqlAlchemyStore.sampleIds 0 .row) ∧
      (RuntimeRequest.listTenantRoles "crm" "globex").Elsewhere globexStore.tables
        (SqlAlchemyStore.sampleIds 0 .row) ∧
      (acmeRuntime.handle acmeTenantKey (.listTenantRoles "crm" "globex")
          (SqlAlchemyStore.sampleIds 9)).2 = .error (.http (mismatch "globex")) ∧
      (globexRuntime.handle acmeTenantKey (.listTenantRoles "crm" "globex")
          (SqlAlchemyStore.sampleIds 9)).2 =
        .error (.http (mismatch (SqlAlchemyStore.sampleIds 5 .row))) ∧
      mismatch "globex" ≠ mismatch (SqlAlchemyStore.sampleIds 5 .row) :=
  ⟨SqlAlchemyStore.acmeStore_reachable, globexStore_reachable, globexStore_agree,
    acmeTenantKey_boundOnlyTo, globex_elsewhere.1, globex_elsewhere.2, by decide +kernel,
    by decide +kernel, by decide +kernel⟩

end Runtime

end AuthzKit
