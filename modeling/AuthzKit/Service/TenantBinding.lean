import AuthzKit.Service.Endpoints
import AuthzKit.Service.Runtime

/-!
A runtime call that succeeds stays inside the caller's tenant.

* `Principal.BoundTo`: what the tenant binding asks of a tenant;
  `enforceTenantScopeBinding_eq_ok_iff` says that the check asks exactly this.
* `Runtime.Concerns`: the tenants that a successful call refers to, discloses or
  writes grants of.
* `Runtime.AnswersFrom`: what a call answers is what the engine, the resolver and the
  store answer for a tenant.
* `Runtime.handle_within`: there is one such tenant, the answer is of that tenant, and
  the caller is bound to it.
-/

namespace AuthzKit

open Keyed Delegations

/-- The pin of the caller, if it has one, is the tenant, and so is one of its
`tenant:<id>` scopes unless a scope of it is unrestricted. -/
def Principal.BoundTo (principal : Principal) (tenantId : Id) : Prop :=
  (∀ pin, principal.tenantId = some pin → tenantId = pin) ∧
    (scopeAdmin ∉ principal.scopes → scopeRuntime ∉ principal.scopes →
      ("tenant:" ++ tenantId) ∈ principal.scopes)

/-- The tenant binding admits exactly the tenants the caller is bound to. -/
lemma enforceTenantScopeBinding_eq_ok_iff {principal : Principal} {tenantId : Id} :
    enforceTenantScopeBinding principal tenantId = .ok () ↔ principal.BoundTo tenantId := by
  have hpin : principal.tenantId.any (· ≠ tenantId) = true ↔
      ¬∀ pin, principal.tenantId = some pin → tenantId = pin := by
    cases principal.tenantId with
    | none => simp
    | some pin =>
        rw [Option.any_some, decide_eq_true_eq]
        exact not_congr ⟨fun h p hp => h.symm.trans (Option.some.inj hp), fun h => (h pin rfl).symm⟩
  have hscopes : tenantScopeMatches principal.scopes tenantId = true ↔
      (scopeAdmin ∉ principal.scopes → scopeRuntime ∉ principal.scopes →
        ("tenant:" ++ tenantId) ∈ principal.scopes) := by
    simp only [tenantScopeMatches, Bool.or_eq_true, decide_eq_true_eq]
    tauto
  rw [enforceTenantScopeBinding, Principal.BoundTo, ← hscopes]
  split
  · rename_i h
    exact ⟨fun h' => (by cases h'), fun h' => absurd h'.1 (hpin.mp h)⟩
  · rename_i h
    have hfree := not_not.mp fun hn => h (hpin.mpr hn)
    split
    · rename_i hscope
      exact ⟨fun h' => (by cases h'), fun h' => by simp [h'.2] at hscope⟩
    · rename_i hscope
      exact ⟨fun _ => ⟨hfree, by simpa using hscope⟩, fun _ => rfl⟩

/-- A refused binding names the tenant it was asked for. -/
lemma enforceTenantScopeBinding_of_not {principal : Principal} {tenantId : Id}
    (h : ¬principal.BoundTo tenantId) : enforceTenantScopeBinding principal tenantId =
      .error ⟨403, [("error", "tenant_scope_mismatch"), ("tenant_id", tenantId)]⟩ := by
  have hne := mt enforceTenantScopeBinding_eq_ok_iff.mp h
  rw [enforceTenantScopeBinding] at hne ⊢
  split
  · rfl
  · split
    · rfl
    · rename_i h₁ h₂
      rw [if_neg h₁, if_neg h₂] at hne
      exact absurd rfl hne

/-! ### What a call concerns -/

/-- The tenant reference of a request. -/
def RuntimeRequest.tenantRef : RuntimeRequest → Option String
  | authorize body _ => some body.tenantId
  | bulkAuthorize body _ => some body.tenantId
  | effectivePermissions body _ => some body.tenantId
  | createDelegation body => some body.tenantId
  | revokeDelegations body => some body.tenantId
  | listTenantRoles _ tenantSlug => some tenantSlug
  | resolveContext _ | introspectDelegation _ | getDelegation _ | revokeDelegation _ => none

/-- The grant id of a request. -/
def RuntimeRequest.grantId : RuntimeRequest → Option Id
  | getDelegation grantId | revokeDelegation grantId => some grantId
  | _ => none

/-- The tenant an answer names. -/
def RuntimeAnswer.tenantId : RuntimeAnswer → Option Id
  | permissions out => some out.tenantId
  | context out => some out.tenantId
  | created out _ | active out | delegation out => some out.tenantId
  | decision _ | decisions _ | revoked _ | inactive _ | noContent | roles _ => none

namespace Service

variable (service : Service)

/-- What is decided of a check in a tenant: what the engine decides there, unless the
delegation denies. -/
def decisionIn (tenantId : Id) (body : AuthorizeRequestSchema) (token : Option String) :
    Except PyError AuthorizeDecision :=
  let refs := service.refs body.tenantId body.applicationId body.subject
  let delegation := service.applyDelegation token tenantId refs.applicationId
    (resolveDecisionRefs service.store.tables body.tenantId body.applicationId body.subject).2
  match delegationDeny refs delegation with
  | some reason => .ok (.deny reason (permissionName body.resource body.action))
  | none => service.engine.authorize
      { tenantId
        applicationId := refs.applicationId
        subject := delegation.subject.toSubject
        resource := body.resource
        action := body.action
        context := body.context
        delegatedPermissions := delegation.permissions
        references := some refs }

/-- A decision in the tenant of the reference, as the endpoints make it. -/
lemma decisionIn_eq (body : AuthorizeRequestSchema) (token : Option String) :
    let resolved := resolveDecisionRefs service.store.tables body.tenantId body.applicationId
      body.subject
    let delegation := service.applyDelegation token resolved.1.tenantId resolved.1.applicationId
      resolved.2
    service.decisionIn (resolvedTenantId service.store.tables body.tenantId) body token =
      match Service.delegationDeny resolved.1 delegation with
      | some reason => .ok (.deny reason (permissionName body.resource body.action))
      | none => service.engine.authorize
          { tenantId := resolved.1.tenantId
            applicationId := resolved.1.applicationId
            subject := delegation.subject.toSubject
            resource := body.resource
            action := body.action
            context := body.context
            delegatedPermissions := delegation.permissions
            references := some resolved.1 } := rfl

/-- The permissions that a request may list in a tenant. -/
def permissionsIn (tenantId : Id) (body : EffectivePermissionsRequestSchema)
    (token : Option String) : Finset String :=
  let refs := service.refs body.tenantId body.applicationId body.subject
  let delegation := service.applyDelegation token tenantId refs.applicationId
    (resolveDecisionRefs service.store.tables body.tenantId body.applicationId body.subject).2
  if refs.complete then
    service.engine.effectivePermissions tenantId refs.applicationId delegation.subject.toSubject
      delegation.permissions (some refs)
  else ∅

end Service

namespace Runtime

/-- The tenants a call that leaves the store `s'` and answers `answer` concerns. -/
inductive Concerns (service : Runtime) (request : RuntimeRequest) (s' : SqlAlchemyStore)
    (answer : RuntimeAnswer) : Id → Prop where
  /-- It refers to the tenant. -/
  | referred (ref : String) (h : request.tenantRef = some ref) :
      Concerns service request s' answer (resolvedTenantId service.store.tables ref)
  /-- It discloses a context, permissions or a grant of the tenant. -/
  | disclosed (tenantId : Id) (h : answer.tenantId = some tenantId) :
      Concerns service request s' answer tenantId
  /-- It is about a grant of the tenant. -/
  | asked (g : DelegationGrant) (h : request.grantId = some g.id)
      (mem : g ∈ service.store.tables.delegationGrants) :
      Concerns service request s' answer g.tenantId
  /-- It creates or changes a grant of the tenant. -/
  | written (g : DelegationGrant) (mem : g ∈ s'.tables.delegationGrants)
      (new : g ∉ service.store.tables.delegationGrants) :
      Concerns service request s' answer g.tenantId
  /-- It changes or removes a grant of the tenant. -/
  | overwritten (g : DelegationGrant) (mem : g ∈ service.store.tables.delegationGrants)
      (gone : g ∉ s'.tables.delegationGrants) :
      Concerns service request s' answer g.tenantId

/-- A context is that of an active membership in the tenant. -/
def ContextOf (t : Tables) (tenantId : Id) (out : ResolveContextResponseSchema) : Prop :=
  out.tenantId = tenantId ∧ ∃ m ∈ t.memberships, m.tenantId = tenantId ∧ m.userId = out.userId ∧
    (m.applicationId = some out.applicationId ∨ m.applicationId = none) ∧ m.status = statusActive ∧
    out.roles = (t.membershipRoleNames m.id).sort (· ≤ ·) ∧
    out.permissions = (TenantContextResolver.membershipPermissions t m).sort (· ≤ ·)

/-- A grant that is shown is one of the tenant. -/
def GrantOf (t : Tables) (now : DateTime) (tenantId : Id) (out : DelegationOut) : Prop :=
  ∃ g ∈ t.delegationGrants, g.tenantId = tenantId ∧
    out = delegationOut now (toGrant g)

/-- **An answer is of a tenant**: decisions and permissions are those of the engine there, a
context is that of a membership there, and grants and roles are the tenant's. -/
def AnswersFrom (service : Runtime) (s' : SqlAlchemyStore) (tenantId : Id) :
    RuntimeRequest → RuntimeAnswer → Prop
  | .authorize body token, .decision out =>
      ∃ d, service.decisionIn tenantId body token = .ok d ∧ out = Service.toResponse d
  | .bulkAuthorize body token, .decisions out =>
      List.Forall₂ (fun (check : BulkCheckSchema) (result : BulkCheckResultSchema) =>
        ∃ d, service.decisionIn tenantId ⟨body.tenantId, body.applicationId, body.subject,
            check.resource, check.action, body.context⟩ token = .ok d ∧
          result = ⟨check.resource, check.action, d.allowed, d.reason⟩) body.checks out.results
  | .effectivePermissions body token, .permissions out =>
      out.tenantId = tenantId ∧
        out.permissions = (service.permissionsIn tenantId body token).sort (· ≤ ·)
  | .resolveContext _, .context out => ContextOf s'.tables tenantId out
  | .createDelegation _, .created out _ => GrantOf s'.tables service.now tenantId out
  | .introspectDelegation _, .active out => GrantOf s'.tables service.now tenantId out
  | .getDelegation _, .delegation out => GrantOf s'.tables service.now tenantId out
  | .revokeDelegations _, .revoked _ => True
  | .revokeDelegation _, .noContent => True
  | .listTenantRoles appSlug _, .roles out =>
      ∃ app, service.store.tables.findApplication appSlug = some app ∧
        out = service.store.tables.listTenantRoles tenantId app.id
  | _, _ => False

/-- The call concerns one tenant, its answer is of that tenant, and the caller is bound to it. -/
def Within (service : Runtime) (principal : Principal) (request : RuntimeRequest)
    (s' : SqlAlchemyStore) (answer : RuntimeAnswer) : Prop :=
  ∃ tenantId, principal.BoundTo tenantId ∧
    (∀ x, service.Concerns request s' answer x → x = tenantId) ∧
    service.AnswersFrom s' tenantId request answer

variable {service : Runtime} {principal : Principal} {request : RuntimeRequest}
  {s' : SqlAlchemyStore} {answer : RuntimeAnswer}

/-- What is to be shown of a call. -/
lemma within_of {tenantId : Id} (hbound : principal.BoundTo tenantId)
    (hreferred : ∀ ref, request.tenantRef = some ref →
      resolvedTenantId service.store.tables ref = tenantId)
    (hdisclosed : ∀ x, answer.tenantId = some x → x = tenantId)
    (hasked : ∀ g ∈ service.store.tables.delegationGrants, request.grantId = some g.id →
      g.tenantId = tenantId)
    (hgrants : ∀ g : DelegationGrant, g.tenantId ≠ tenantId →
      (g ∈ s'.tables.delegationGrants ↔ g ∈ service.store.tables.delegationGrants))
    (hanswers : service.AnswersFrom s' tenantId request answer) :
    service.Within principal request s' answer := by
  refine ⟨tenantId, hbound, fun x hx => ?_, hanswers⟩
  cases hx with
  | referred ref h => exact hreferred ref h
  | disclosed x h => exact hdisclosed x h
  | asked g h mem => exact hasked g mem h
  | written g mem new => exact not_not.mp fun hne => new ((hgrants g hne).mp mem)
  | overwritten g mem gone => exact not_not.mp fun hne => gone ((hgrants g hne).mpr mem)

/-! ### What the routes write -/

/-- Resolving a context writes no grant. -/
lemma resolve_grants (s : SqlAlchemyStore) (mappings : List TenantIdentityMapping) (auto : Bool)
    (uuid4 : UuidSource) (identity : IdentityPrincipal) (slug : String)
    (explicitTenantId : Option String) :
    (TenantContextResolver.resolve s mappings auto uuid4 identity slug
      explicitTenantId).1.tables.delegationGrants = s.tables.delegationGrants := by
  rw [TenantContextResolver.resolve]
  split
  · rfl
  · split
    · rfl
    · rename_i s' user huser
      rw [TenantContextResolver.resolveUser] at huser
      split at huser
      · obtain ⟨rfl, -⟩ := Prod.mk.inj (Except.ok.inj huser)
        rfl
      · split at huser
        · cases huser
        · split at huser
          · cases huser
          · rename_i s₁ user₁ ident₁ hcall
            obtain ⟨rfl, -⟩ := Prod.mk.inj (Except.ok.inj huser)
            have htables := (SqlAlchemyStore.transaction_eq_ok_iff.mp hcall).2
            rw [Tables.upsertUserFromIdentity] at htables
            split at htables
            · split at htables
              · obtain ⟨ht, -⟩ := Prod.mk.inj (Except.ok.inj htables)
                rw [← ht]
              · cases htables
            · obtain ⟨ht, -⟩ := Prod.mk.inj (Except.ok.inj htables)
              rw [← ht]

end Runtime

namespace Tables

variable {t t' : Tables} {g : DelegationGrant} {tenantId : Id}

/-- A grant is issued in its own tenant only. -/
lemma issueGrant_frame {uuid4 : UuidSource} {applicationId userId agentId : Id}
    {permissions : Finset String} {expiresAt now : DateTime} {purpose issuedBy : Option String}
    {grant : Grant} (h : t.issueGrant uuid4 tenantId applicationId userId agentId permissions
      expiresAt now purpose issuedBy = .ok (t', grant)) :
    grant.tenantId = tenantId ∧ ∀ g : DelegationGrant, g.tenantId ≠ tenantId →
      (g ∈ t'.delegationGrants ↔ g ∈ t.delegationGrants) := by
  obtain ⟨rfl, rfl⟩ := Prod.mk.inj (Except.ok.inj h)
  refine ⟨rfl, fun g hg => ?_⟩
  rw [List.mem_append, List.mem_singleton]
  exact or_iff_left fun heq => hg (heq ▸ rfl)

/-- The grant that is returned is that of the new row. -/
lemma issueGrant_row {uuid4 : UuidSource} {applicationId userId agentId : Id}
    {permissions : Finset String} {expiresAt now : DateTime} {purpose issuedBy : Option String}
    {grant : Grant} (h : t.issueGrant uuid4 tenantId applicationId userId agentId permissions
      expiresAt now purpose issuedBy = .ok (t', grant)) :
    ∃ row ∈ t'.delegationGrants, grant = toGrant row := by
  obtain ⟨rfl, rfl⟩ := Prod.mk.inj (Except.ok.inj h)
  exact ⟨_, List.mem_append_right _ (List.mem_singleton_self _), rfl⟩

/-- The kill switch of a tenant leaves the grants of the others. -/
lemma revokeMatching_frame {now : DateTime} {userId agentId : Option Id} {count : ℕ}
    (h : t.revokeMatching now tenantId userId agentId = .ok (t', count)) (hg : g.tenantId ≠ tenantId) :
    g ∈ t'.delegationGrants ↔ g ∈ t.delegationGrants := by
  obtain ⟨rfl, -⟩ := Prod.mk.inj (Except.ok.inj h)
  rw [List.mem_map]
  constructor
  · rintro ⟨g', hmem, rfl⟩
    split at hg
    · rename_i hhit
      exact absurd (of_decide_eq_true hhit).1 hg
    · rename_i hhit
      rw [if_neg hhit]
      exact hmem
  · intro hmem
    exact ⟨g, hmem, if_neg fun hhit => hg (of_decide_eq_true hhit).1⟩

/-- A revocation leaves the grants of other tenants than the grant's own. -/
lemma revokeGrant_frame {now : DateTime} {grantId : Id} {grant : Option Grant}
    (h : t.revokeGrant now grantId = .ok (t', grant))
    (hrow : ∀ row ∈ t.delegationGrants, row.id = grantId → row.tenantId = tenantId)
    (hg : g.tenantId ≠ tenantId) : g ∈ t'.delegationGrants ↔ g ∈ t.delegationGrants := by
  rw [revokeGrant] at h
  split at h
  · obtain ⟨rfl, -⟩ := Prod.mk.inj (Except.ok.inj h)
    exact Iff.rfl
  · rename_i row hl
    obtain ⟨rfl, -⟩ := Prod.mk.inj (Except.ok.inj h)
    have hid := key_of_lookup hl
    have htenant := hrow row (mem_of_lookup hl) hid
    generalize hrow' : (if row.status ≠ "revoked" then
        { row with status := "revoked", revokedAt := some now } else row) = row'
    have hrow'id : row'.id = grantId ∧ row'.tenantId = tenantId := by
      rw [← hrow']
      split
      · exact ⟨hid, htenant⟩
      · exact ⟨hid, htenant⟩
    rw [mem_update, hrow'id.1]
    constructor
    · rintro (⟨rfl, -⟩ | ⟨hmem, -⟩)
      · exact absurd hrow'id.2 hg
      · exact hmem
    · exact fun hmem => Or.inr ⟨hmem, fun hgid => hg (hrow g hmem hgid)⟩

end Tables

namespace Runtime

variable {service : Runtime} {principal : Principal} {s' : SqlAlchemyStore}
  {answer : RuntimeAnswer}

/-! ### The routes -/

lemma requireApplication_eq_ok {t : Tables} {ref : String} {app : Application}
    (h : requireApplication t ref = .ok app) : t.findApplication ref = some app := by
  rw [requireApplication] at h
  split at h
  · cases h
  · rename_i found hfound
    rw [hfound, Except.ok.inj h]

lemma of_requireBoundTenant {t : Tables} {ref : String} {tenant : Tenant}
    (h : requireBoundTenant t ref principal = .ok tenant) :
    principal.BoundTo tenant.id ∧ resolvedTenantId t ref = tenant.id := by
  rw [requireBoundTenant] at h
  split at h
  · cases h
  · rename_i hbound
    have hto := enforceTenantScopeBinding_eq_ok_iff.mp hbound
    split at h
    · cases h
    · rename_i tn hfound
      obtain rfl := Except.ok.inj h
      have hid : resolvedTenantId t ref = tn.id := by
        rw [resolvedTenantId, hfound]
        rfl
      exact ⟨hid ▸ hto, hid⟩

/-- An answer of a decision endpoint. -/
lemma decided_within {request : RuntimeRequest} {ref : String} (href : request.tenantRef = some ref)
    (hgrant : request.grantId = none)
    (hbound : enforceTenantScopeBinding principal (resolvedTenantId service.store.tables ref) = .ok ())
    (hanswer : ∀ x, answer.tenantId = some x → x = resolvedTenantId service.store.tables ref)
    (hanswers : service.AnswersFrom service.store (resolvedTenantId service.store.tables ref)
      request answer) :
    service.Within principal request service.store answer := by
  refine within_of (enforceTenantScopeBinding_eq_ok_iff.mp hbound) (fun ref' href' => ?_) hanswer
    (fun g _ h => ?_) (fun g _ => Iff.rfl) hanswers
  · rw [Option.some.inj (href.symm.trans href')]
  · rw [hgrant] at h
    cases h

/-- A single decision is made in the tenant of the reference. -/
lemma authorize_decisionIn {body : AuthorizeRequestSchema} {token : Option String}
    {res : AuthorizeResponseSchema} (h : service.authorize principal body token = .ok res) :
    ∃ d, service.decisionIn (resolvedTenantId service.store.tables body.tenantId) body token =
      .ok d ∧ res = Service.toResponse d := by
  have hadmits := service.admits_of_authorize h
  rw [Service.authorize, hadmits.1] at h
  simp only [hadmits.2] at h
  split at h
  · cases h
  · rename_i d hd
    exact ⟨d, hd, (Except.ok.inj h).symm⟩

/-- So is each decision of a bulk request. -/
lemma bulkAuthorize_decisionIn {body : BulkAuthorizeRequestSchema} {token : Option String}
    {res : BulkAuthorizeResponseSchema} (h : service.bulkAuthorize principal body token = .ok res) :
    List.Forall₂ (fun (check : BulkCheckSchema) (result : BulkCheckResultSchema) =>
      ∃ d, service.decisionIn (resolvedTenantId service.store.tables body.tenantId)
          ⟨body.tenantId, body.applicationId, body.subject, check.resource, check.action,
            body.context⟩ token = .ok d ∧
        result = ⟨check.resource, check.action, d.allowed, d.reason⟩) body.checks res.results := by
  -- the results of the decisions, check by check
  have hzip : ∀ (P : BulkCheckSchema → AuthorizeDecision → Prop) (checks : List BulkCheckSchema)
      (decisions : List AuthorizeDecision), List.Forall₂ P checks decisions →
      List.Forall₂ (fun check (result : BulkCheckResultSchema) => ∃ d, P check d ∧
        result = ⟨check.resource, check.action, d.allowed, d.reason⟩) checks
        ((checks.zip decisions).map fun c =>
          ⟨c.1.resource, c.1.action, c.2.allowed, c.2.reason⟩) := by
    intro P checks decisions hall
    induction hall with
    | nil => exact .nil
    | cons hd _ ih => exact .cons ⟨_, hd, rfl⟩ ih
  have hadmits := service.admits_of_bulkAuthorize h
  rw [Service.bulkAuthorize, hadmits.1] at h
  simp only [hadmits.2] at h
  split at h
  · cases h
  · rename_i ds hds
    obtain rfl := Except.ok.inj h
    have hdecision := fun check : BulkCheckSchema => service.decisionIn_eq ⟨body.tenantId,
      body.applicationId, body.subject, check.resource, check.action, body.context⟩ token
    refine hzip (fun check d => service.decisionIn
      (resolvedTenantId service.store.tables body.tenantId) ⟨body.tenantId, body.applicationId,
        body.subject, check.resource, check.action, body.context⟩ token = .ok d) _ _ ?_
    split at hds
    · rename_i reason hdeny
      obtain rfl := Except.ok.inj hds
      rw [List.forall₂_map_right_iff, List.forall₂_same]
      intro check _
      refine (hdecision check).trans ?_
      dsimp only
      rw [hdeny]
    · rename_i hdeny
      rw [AuthorizationEngine.bulkAuthorize_eq_mapM] at hds
      have hall := mapM_eq_ok_iff.mp hds
      rw [List.forall₂_map_left_iff] at hall
      refine hall.imp fun check d hd => ?_
      refine (hdecision check).trans ?_
      dsimp only
      rw [hdeny]
      exact hd

/-- So is a list of permissions. -/
lemma effectivePermissions_permissionsIn {body : EffectivePermissionsRequestSchema}
    {token : Option String} {res : EffectivePermissionsResponseSchema}
    (h : service.effectivePermissions principal body token = .ok res) :
    res.tenantId = resolvedTenantId service.store.tables body.tenantId ∧
      res.permissions = (service.permissionsIn
        (resolvedTenantId service.store.tables body.tenantId) body token).sort (· ≤ ·) := by
  have hadmits := service.admits_of_effectivePermissions h
  rw [Service.effectivePermissions, hadmits.1] at h
  simp only [hadmits.2] at h
  rw [Service.permissionsIn]
  split at h
  · rename_i hincomplete
    obtain rfl := Except.ok.inj h
    rw [if_neg (by simpa using hincomplete)]
    exact ⟨rfl, Finset.sort_empty _ |>.symm⟩
  · rename_i hcomplete
    rw [if_pos (by simpa using hcomplete)]
    split at h
    · cases h
    · obtain rfl := Except.ok.inj h
      exact ⟨rfl, rfl⟩

/-- A context is resolved in one tenant. -/
lemma contextOf_of_contextIn {t : Tables} {mappings : List TenantIdentityMapping}
    {identity : IdentityPrincipal} {explicitTenantId : Option String} {application : Application}
    {user : User} {ctx : UserContext} (h : TenantContextResolver.contextIn t mappings identity
      explicitTenantId application user = .ok ctx) :
    ContextOf t ctx.tenantId ⟨ctx.tenantId, ctx.applicationId, ctx.userId,
      ctx.roles.sort (· ≤ ·), ctx.permissions.sort (· ≤ ·)⟩ := by
  rw [TenantContextResolver.contextIn] at h
  split at h
  · cases h
  · rename_i tenant _
    split_ifs at h
    split at h
    · cases h
    · rename_i m hm
      split_ifs at h with hstatus
      obtain rfl := Except.ok.inj h
      refine ⟨rfl, m, ?_⟩
      rw [TenantContextResolver.membershipIn, Option.or_eq_some_iff] at hm
      rcases hm with hm | ⟨-, hm⟩
      · rw [Tables.membershipOf] at hm
        have hkey := List.find?_some hm
        rw [decide_eq_true_eq] at hkey
        exact ⟨List.mem_of_find?_eq_some hm, hkey.1, hkey.2.1, Or.inl hkey.2.2, not_not.mp hstatus,
          rfl, rfl⟩
      · rw [Tables.membershipOf] at hm
        have hkey := List.find?_some hm
        rw [decide_eq_true_eq] at hkey
        exact ⟨List.mem_of_find?_eq_some hm, hkey.1, hkey.2.1, Or.inr hkey.2.2, not_not.mp hstatus,
          rfl, rfl⟩

lemma contextOf_of_resolve {s : SqlAlchemyStore} {mappings : List TenantIdentityMapping}
    {auto : Bool} {uuid4 : UuidSource} {identity : IdentityPrincipal} {slug : String}
    {explicitTenantId : Option String} {ctx : UserContext}
    (h : (TenantContextResolver.resolve s mappings auto uuid4 identity slug explicitTenantId).2 =
      .ok ctx) :
    ContextOf (TenantContextResolver.resolve s mappings auto uuid4 identity slug
        explicitTenantId).1.tables ctx.tenantId ⟨ctx.tenantId, ctx.applicationId, ctx.userId,
      ctx.roles.sort (· ≤ ·), ctx.permissions.sort (· ≤ ·)⟩ := by
  rw [TenantContextResolver.resolve] at h ⊢
  split at h
  · cases h
  · rename_i application happ
    split at h
    · cases h
    · exact contextOf_of_contextIn h

lemma resolveContext_within {body : ResolveContextRequestSchema} {uuid4 : UuidSource}
    (h : service.resolveContext principal body uuid4 = (s', .ok answer)) :
    service.Within principal (.resolveContext body) s' answer := by
  obtain ⟨hs, hanswer⟩ := Prod.mk.inj h
  rw [contextAnswer.eq_def] at hanswer
  split at hanswer
  · cases hanswer
  · cases hanswer
  · cases hanswer
  · cases hanswer
  · rename_i ctx hctx
    split at hanswer
    · cases hanswer
    · rename_i hbound
      obtain rfl := Except.ok.inj hanswer
      refine within_of (enforceTenantScopeBinding_eq_ok_iff.mp hbound) (fun _ h => (by cases h))
        (fun x hx => (Option.some.inj hx).symm) (fun _ _ h => (by cases h)) (fun g _ => ?_) ?_
      · rw [← hs, resolve_grants]
      · rw [← hs]
        exact contextOf_of_resolve hctx

/-- **What the checks of `create_delegation` establish**, in their order. -/
lemma grantRequest_eq_ok {body : DelegationIn} {request : GrantRequest}
    (h : service.grantRequest principal body = .ok request) :
    ∃ tenant application agent,
      requireBoundTenant service.store.tables body.tenantId principal = .ok tenant ∧
      delegate service.store.tables tenant.id application body.agentId body.agentName =
        .ok agent ∧
      service.store.tables.isUserMembershipActive tenant.id application request.userId = true ∧
      agent.status = statusActive ∧
      request.ttlSeconds ≤ service.delegationMaxTtlSeconds ∧
      request.permissions ⊆ service.engine.effectivePermissions tenant.id application
        ⟨subjectAgent, some request.userId, some agent.id, none⟩ none none ∧
      request.tenantId = tenant.id ∧ request.applicationId = application ∧
      request.agentId = agent.id ∧
      request.ttlSeconds = body.ttlSeconds.getD service.delegationDefaultTtlSeconds := by
  simp only [grantRequest, bind, Except.bind] at h
  split at h
  · cases h
  · rename_i tenant htenant
    split at h
    · cases h
    · rename_i application _
      split at h
      · cases h
      · split at h
        · cases h
        · rename_i agent hagent
          split at h
          · cases h
          · rename_i userId hmember
            split at h
            · cases h
            · rename_i hactive
              split at h
              · cases h
              · rename_i hmaximum
                split at h
                · cases h
                · rename_i hdelegable
                  obtain rfl := Except.ok.inj h
                  exact ⟨tenant, application.id, agent, orRefuse_eq_ok_iff.mp htenant,
                    orRefuse_eq_ok_iff.mp hagent, (Option.filter_eq_some_iff.mp hmember).2,
                    not_not.mp hactive, not_lt.mp hmaximum,
                    Finset.sdiff_eq_empty_iff_subset.mp (not_not.mp hdelegable), rfl, rfl, rfl,
                    rfl⟩

/-- They end in the tenant of the reference. -/
lemma of_grantRequest {body : DelegationIn} {request : GrantRequest}
    (h : service.grantRequest principal body = .ok request) :
    principal.BoundTo request.tenantId ∧
      resolvedTenantId service.store.tables body.tenantId = request.tenantId := by
  obtain ⟨tenant, -, -, htenant, -, -, -, -, -, hid, -⟩ := grantRequest_eq_ok h
  rw [hid]
  exact of_requireBoundTenant htenant

lemma createDelegation_within {body : DelegationIn} {uuid4 : UuidSource}
    (h : service.createDelegation principal body uuid4 = (s', .ok answer)) :
    service.Within principal (.createDelegation body) s' answer := by
  rw [createDelegation] at h
  split at h
  · cases (Prod.mk.inj h).2
  · rename_i request hrequest
    split at h
    · cases (Prod.mk.inj h).2
    · split at h
      · cases (Prod.mk.inj h).2
      · rename_i s grant token hissue
        obtain ⟨rfl, hanswer⟩ := Prod.mk.inj h
        obtain rfl := Except.ok.inj hanswer
        obtain ⟨hbound, hid⟩ := of_grantRequest hrequest
        rw [DelegationService.issue] at hissue
        split at hissue
        · cases hissue
        · rename_i s₁ grant₁ hcall
          obtain ⟨rfl, hpair⟩ := Prod.mk.inj (Except.ok.inj hissue)
          obtain ⟨rfl, -⟩ := Prod.mk.inj hpair
          obtain ⟨htenant, hframe⟩ :=
            Tables.issueGrant_frame (SqlAlchemyStore.transaction_eq_ok_iff.mp hcall).2
          refine within_of hbound (fun ref href => ?_) (fun x hx => ?_) (fun _ _ h => (by cases h))
            hframe ?_
          · rw [← Option.some.inj href, hid]
          · rw [← Option.some.inj hx, ← htenant]
            rfl
          · obtain ⟨row, hrow, hgrant⟩ :=
              Tables.issueGrant_row (SqlAlchemyStore.transaction_eq_ok_iff.mp hcall).2
            exact ⟨row, hrow, by rw [← htenant, hgrant]; rfl, by rw [hgrant]⟩

lemma of_revokeRequest {body : RevokeIn} {tenantId : Id} {userId agentId : Option Id}
    (h : service.revokeRequest principal body = .ok (tenantId, userId, agentId)) :
    principal.BoundTo tenantId ∧
      resolvedTenantId service.store.tables body.tenantId = tenantId := by
  simp only [revokeRequest, bind, Except.bind] at h
  split at h
  · cases h
  · rename_i tenant htenant
    have hto := of_requireBoundTenant htenant
    split at h
    · cases h
    · split at h
      · split at h
        · cases h
        · split at h
          · cases h
          · obtain ⟨rfl, -⟩ := Prod.mk.inj (Except.ok.inj h)
            exact hto
      · obtain ⟨rfl, -⟩ := Prod.mk.inj (Except.ok.inj h)
        exact hto

lemma revokeDelegations_within {body : RevokeIn}
    (h : service.revokeDelegations principal body = (s', .ok answer)) :
    service.Within principal (.revokeDelegations body) s' answer := by
  rw [revokeDelegations] at h
  split at h
  · cases (Prod.mk.inj h).2
  · rename_i tenantId userId agentId hrequest
    split at h
    · cases (Prod.mk.inj h).2
    · rename_i s count hcall
      obtain ⟨rfl, hanswer⟩ := Prod.mk.inj h
      obtain rfl := Except.ok.inj hanswer
      obtain ⟨hbound, hid⟩ := of_revokeRequest hrequest
      refine within_of hbound (fun ref href => ?_) (fun x hx => (by cases hx))
        (fun _ _ h => (by cases h)) (fun g hg => ?_) trivial
      · rw [← Option.some.inj href, hid]
      · exact Tables.revokeMatching_frame (SqlAlchemyStore.transaction_eq_ok_iff.mp hcall).2 hg

lemma introspectDelegation_within {token : String}
    (h : service.introspectDelegation principal token = .ok answer)
    (hactive : ∀ reason, answer ≠ .inactive reason) :
    service.Within principal (.introspectDelegation token) service.store answer := by
  rw [introspectDelegation] at h
  split at h
  · exact absurd (Except.ok.inj h).symm (hactive _)
  · split at h
    · cases h
    · rename_i hverify _ hbound
      obtain rfl := Except.ok.inj h
      obtain ⟨⟨row, hrow, rfl⟩, -, -⟩ := DelegationService.verify_eq_ok hverify
      exact within_of (enforceTenantScopeBinding_eq_ok_iff.mp hbound) (fun _ h => (by cases h))
        (fun x hx => (Option.some.inj hx).symm) (fun _ _ h => (by cases h)) (fun g _ => Iff.rfl)
        ⟨row, hrow, rfl, rfl⟩

/-- The grant of a caller is the row with that id. -/
lemma of_grantForCaller {grantId : Id} {grant : Grant}
    (h : service.grantForCaller grantId principal = .ok grant) :
    principal.BoundTo grant.tenantId ∧
      (∀ g ∈ service.store.tables.delegationGrants, g.id = grantId →
        g.tenantId = grant.tenantId) ∧
      ∃ g ∈ service.store.tables.delegationGrants, toGrant g = grant := by
  rw [grantForCaller] at h
  split at h
  · cases h
  · rename_i grant' hget
    split at h
    · cases h
    · rename_i hbound
      obtain rfl := Except.ok.inj h
      obtain ⟨row, hl, hrow⟩ := Option.map_eq_some_iff.mp hget
      refine ⟨enforceTenantScopeBinding_eq_ok_iff.mp hbound, fun g hg hid => ?_, row,
        mem_of_lookup hl, hrow⟩
      have hunique := service.store.constraints.grantId
      rw [← hrow, List.inj_on_of_nodup_map hunique hg (mem_of_lookup hl)
        (hid.trans (key_of_lookup hl).symm)]
      rfl

lemma getDelegation_within {grantId : Id}
    (h : service.getDelegation principal grantId = .ok answer) :
    service.Within principal (.getDelegation grantId) service.store answer := by
  rw [getDelegation] at h
  cases hgrant : service.grantForCaller grantId principal with
  | error e =>
      rw [hgrant] at h
      cases h
  | ok grant =>
      rw [hgrant] at h
      obtain rfl := Except.ok.inj h
      obtain ⟨hbound, hrow, row, hmem, rfl⟩ := of_grantForCaller hgrant
      exact within_of hbound (fun _ h => (by cases h)) (fun x hx => (Option.some.inj hx).symm)
        (fun g hg hid => hrow g hg (Option.some.inj hid).symm) (fun g _ => Iff.rfl)
        ⟨row, hmem, rfl, rfl⟩

lemma revokeDelegation_within {grantId : Id}
    (h : service.revokeDelegation principal grantId = (s', .ok answer)) :
    service.Within principal (.revokeDelegation grantId) s' answer := by
  rw [revokeDelegation] at h
  split at h
  · cases (Prod.mk.inj h).2
  · rename_i grant hgrant
    split at h
    · cases (Prod.mk.inj h).2
    · rename_i s grant' hcall
      obtain ⟨rfl, hanswer⟩ := Prod.mk.inj h
      obtain rfl := Except.ok.inj hanswer
      obtain ⟨hbound, hrow, -⟩ := of_grantForCaller hgrant
      have htables := (SqlAlchemyStore.transaction_eq_ok_iff.mp hcall).2
      exact within_of hbound (fun _ h => (by cases h)) (fun x hx => (by cases hx))
        (fun g hg hid => hrow g hg (Option.some.inj hid).symm)
        (fun g hg => Tables.revokeGrant_frame htables hrow hg) trivial

lemma listTenantRoles_within {appSlug tenantSlug : String}
    (h : service.listTenantRoles principal appSlug tenantSlug = .ok answer) :
    service.Within principal (.listTenantRoles appSlug tenantSlug) service.store answer := by
  simp only [listTenantRoles, bind, Except.bind] at h
  split at h
  · cases h
  · rename_i app happ
    split at h
    · cases h
    · rename_i tenant htenant
      obtain rfl := Except.ok.inj h
      obtain ⟨hbound, hid⟩ := of_requireBoundTenant htenant
      refine within_of hbound (fun ref href => ?_) (fun x hx => (by cases hx))
        (fun _ _ h => (by cases h)) (fun g _ => Iff.rfl) ⟨app, requireApplication_eq_ok happ, rfl⟩
      rw [← Option.some.inj href, hid]

/-- **A successful runtime call stays inside the caller's tenant.** Whatever the store,
the references and the caller: when a call succeeds, there is one tenant that it refers
to, discloses or writes grants of, its answer is that of the engine, the resolver and the
store for this tenant, and the caller is bound to it. -/
theorem handle_within (service : Runtime) (principal : Principal) (request : RuntimeRequest)
    (uuid4 : UuidSource) (s' : SqlAlchemyStore) (answer : RuntimeAnswer)
    (h : service.handle principal request uuid4 = (s', .ok answer))
    (hactive : ∀ reason, answer ≠ .inactive reason) :
    service.Within principal request s' answer := by
  unfold handle at h
  split at h
  · cases (Prod.mk.inj h).2
  · cases request with
    | authorize body token =>
        obtain ⟨rfl, hanswer⟩ := Prod.mk.inj h
        obtain ⟨out, hout, rfl⟩ := map_eq_ok_iff.mp (orRefuse_eq_ok_iff.mp hanswer)
        exact decided_within rfl rfl (service.admits_of_authorize hout).2 (fun x hx => (by cases hx))
          (authorize_decisionIn hout)
    | bulkAuthorize body token =>
        obtain ⟨rfl, hanswer⟩ := Prod.mk.inj h
        obtain ⟨out, hout, rfl⟩ := map_eq_ok_iff.mp (orRefuse_eq_ok_iff.mp hanswer)
        exact decided_within rfl rfl (service.admits_of_bulkAuthorize hout).2
          (fun x hx => (by cases hx)) (bulkAuthorize_decisionIn hout)
    | effectivePermissions body token =>
        obtain ⟨rfl, hanswer⟩ := Prod.mk.inj h
        obtain ⟨out, hout, rfl⟩ := map_eq_ok_iff.mp (orRefuse_eq_ok_iff.mp hanswer)
        exact decided_within rfl rfl (service.admits_of_effectivePermissions hout).2
          (fun x hx => (Option.some.inj hx).symm.trans (effectivePermissions_permissionsIn hout).1)
          (effectivePermissions_permissionsIn hout)
    | resolveContext body => exact resolveContext_within h
    | createDelegation body => exact createDelegation_within h
    | revokeDelegations body => exact revokeDelegations_within h
    | introspectDelegation token =>
        obtain ⟨rfl, hanswer⟩ := Prod.mk.inj h
        exact introspectDelegation_within (orRefuse_eq_ok_iff.mp hanswer) hactive
    | getDelegation grantId =>
        obtain ⟨rfl, hanswer⟩ := Prod.mk.inj h
        exact getDelegation_within (orRefuse_eq_ok_iff.mp hanswer)
    | revokeDelegation grantId => exact revokeDelegation_within h
    | listTenantRoles appSlug tenantSlug =>
        obtain ⟨rfl, hanswer⟩ := Prod.mk.inj h
        exact listTenantRoles_within (orRefuse_eq_ok_iff.mp hanswer)

/-- A runtime service over the store of one tenant. -/
def acmeRuntime : Runtime where
  toService := Service.acmeService
  tenantIdentityMappings := []
  autoProvisionUser := true
  delegationDefaultTtlSeconds := 3600
  delegationMaxTtlSeconds := 86400
  sqlite := true
  activeSigner := some fun claims => claims.jti
  generatedSigner := fun claims => claims.jti

/-- A key of the one tenant only. -/
def acmeTenantKey : Principal :=
  .apiKey "tenant-key" ["tenant:" ++ SqlAlchemyStore.sampleIds 0 .row] none

/-- A decision in that tenant, and its kill switch. -/
theorem handle_within_acme :
    let request : RuntimeRequest :=
      .authorize ⟨"acme", "crm", Service.acmeAgent, "deal", "read", []⟩ (some "grant")
    let body : RevokeIn :=
      ⟨"acme", none, none, none, none, none, Or.inl rfl, Or.inl rfl, (by decide)⟩
    acmeRuntime.Within acmeTenantKey request acmeRuntime.store
        (.decision ⟨true, "allow", "permission_granted", "deal.read", ["deal.read"]⟩) ∧
      acmeRuntime.Within acmeTenantKey (.revokeDelegations body)
        (acmeRuntime.handle acmeTenantKey (.revokeDelegations body) (SqlAlchemyStore.sampleIds 9)).1
        (.revoked 1) :=
  ⟨handle_within acmeRuntime acmeTenantKey _ (SqlAlchemyStore.sampleIds 9) _ _
      (Prod.ext rfl (by decide +kernel)) (fun _ h => (by cases h)),
    handle_within acmeRuntime acmeTenantKey _ (SqlAlchemyStore.sampleIds 9) _ _
      (Prod.ext rfl (by decide +kernel)) (fun _ h => (by cases h))⟩

end Runtime

end AuthzKit
