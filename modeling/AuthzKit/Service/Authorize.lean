import AuthzKit.Rbac.Relation
import AuthzKit.Security.Delegations
import AuthzKit.Service.Schemas

/-!
`POST /v1/authorize`, `/v1/bulk-authorize` and `/v1/effective-permissions`
(`authz_service/api/authorize.py`), with the tenant binding of
`authz_service/dependencies.py`, the reference resolution of
`authz_service/references.py` and `apply_delegation`.

A handler starts from a validated body and an authenticated principal. What is decided is
here; the audit rows that are written before it is answered, and that the database may
refuse, are in `AuthzKit.Service.AuditTrail`. Metrics are left out: nothing reads them.
-/

namespace AuthzKit

open Delegations

/-! ### The caller -/

/-- `scope_allows` of the runtime surface, with no tenant requested. -/
def scopeAllowsRuntime (scopes : List String) : Bool :=
  scopeAdmin ∈ scopes || scopeRuntime ∈ scopes ||
    scopes.any fun s => "tenant:".toList.isPrefixOf s.toList

/-- `require_runtime`. -/
def requireRuntime (principal : Principal) : Except HttpException Unit :=
  if scopeAllowsRuntime principal.scopes then .ok ()
  else .error ⟨403, [("error", "scope_required"), ("scope", scopeRuntime)]⟩

/-- `tenant_scope_matches`. -/
def tenantScopeMatches (scopes : List String) (tenantId : Id) : Bool :=
  scopeAdmin ∈ scopes || scopeRuntime ∈ scopes || ("tenant:" ++ tenantId) ∈ scopes

/-- `enforce_tenant_scope_binding`: the pin of the principal, then its scopes. -/
def enforceTenantScopeBinding (principal : Principal) (tenantId : Id) : Except HttpException Unit :=
  let mismatch : HttpException :=
    ⟨403, [("error", "tenant_scope_mismatch"), ("tenant_id", tenantId)]⟩
  if principal.tenantId.any (· ≠ tenantId) then .error mismatch
  else if !tenantScopeMatches principal.scopes tenantId then .error mismatch
  else .ok ()

/-! ### References and delegation -/

/-- `resolve_decision_refs`: the resolved references and the subject in id form. -/
def resolveDecisionRefs (t : Tables) (tenant application : String) (subject : SubjectSchema) :
    ResolvedReferences × SubjectSchema :=
  let refs := t.resolveReferences tenant application subject.userId
    (subject.userRef.map UserRefSchema.toRef) subject.agentId subject.agentName
  (refs, subject.withIds refs.userId refs.agentId)

/-- `DelegationOutcome`; no permissions without a grant in play. -/
structure DelegationOutcome where
  permissions : Option (Finset String)
  grantId : Option Id
  denyReason : Option String
  subject : SubjectSchema

/-- `subject.user_id or grant.user_id`. -/
def orGranted (given : Option Id) (granted : Id) : Id :=
  match given with
  | none => granted
  | some i => if i = "" then granted else i

/-- What a request handler depends on besides the body: the store at the moment of
the request, the delegation service, the settings and the time. -/
structure Service where
  store : SqlAlchemyStore
  delegations : DelegationService
  delegationRequired : Bool
  now : DateTime

namespace Service

variable (service : Service)

/-- `get_authorization_engine`: an engine with an empty rule list. -/
def engine : AuthorizationEngine :=
  ⟨service.store.tables.repository, ⟨[], fun _ _ => .none⟩⟩

/-- `apply_delegation`: the grant checked against the request, and the subset to
apply. An agent subject may omit its ids, they are filled in from the grant. -/
def applyDelegation (token : Option String) (tenantId applicationId : Id)
    (subject : SubjectSchema) : DelegationOutcome :=
  match token.filter fun t => t ≠ "" with
  | none =>
      if service.delegationRequired && subject.type == subjectAgent then
        ⟨none, none, some reasonRequired, subject⟩
      else ⟨none, none, none, subject⟩
  | some token =>
      match service.delegations.verify service.store.tables service.now token with
      | .error reason => ⟨none, none, some reason, subject⟩
      | .ok grant =>
          if subject.type ≠ subjectAgent then
            ⟨none, some grant.id, some reasonMismatch, subject⟩
          else
            let userId := orGranted subject.userId grant.userId
            let agentId := orGranted subject.agentId grant.agentId
            let filled := subject.withIds (some userId) (some agentId)
            if tenantId ≠ grant.tenantId ∨ applicationId ≠ grant.applicationId ∨
                userId ≠ grant.userId ∨ agentId ≠ grant.agentId then
              ⟨none, some grant.id, some reasonMismatch, filled⟩
            else ⟨some grant.permissions, some grant.id, none, filled⟩

/-- `_delegation_deny`: an unknown reference outranks a delegation problem. -/
def delegationDeny (refs : ResolvedReferences) (delegation : DelegationOutcome) : Option String :=
  if refs.complete then delegation.denyReason else none

/-! ### Endpoints -/

/-- An exception no handler catches. -/
def internalServerError : HttpException := ⟨500, []⟩

/-- A decision as the response of `/v1/authorize`. -/
def toResponse (decision : AuthorizeDecision) : AuthorizeResponseSchema where
  allowed := decision.allowed
  decision := decision.decision
  reason := decision.reason
  requiredPermission := decision.requiredPermission
  matchedPermissions := decision.matchedPermissions.sort (· ≤ ·)

/-- What `POST /v1/authorize` answers when its audit row is taken; `authorizeAudited` writes it. -/
def authorize (principal : Principal) (request : AuthorizeRequestSchema)
    (token : Option String) : Except HttpException AuthorizeResponseSchema :=
  match requireRuntime principal with
  | .error e => .error e
  | .ok () =>
      let (refs, subject) := resolveDecisionRefs service.store.tables request.tenantId
        request.applicationId request.subject
      match enforceTenantScopeBinding principal refs.tenantId with
      | .error e => .error e
      | .ok () =>
          let delegation :=
            service.applyDelegation token refs.tenantId refs.applicationId subject
          let decision : Except PyError AuthorizeDecision :=
            match delegationDeny refs delegation with
            | some reason => .ok (.deny reason (permissionName request.resource request.action))
            | none => service.engine.authorize
                { tenantId := refs.tenantId
                  applicationId := refs.applicationId
                  subject := delegation.subject.toSubject
                  resource := request.resource
                  action := request.action
                  context := request.context
                  delegatedPermissions := delegation.permissions
                  references := some refs }
          match decision with
          | .error _ => .error internalServerError
          | .ok decision => .ok (toResponse decision)

/-- The same of `POST /v1/bulk-authorize` and `bulkAuthorizeAudited`. -/
def bulkAuthorize (principal : Principal) (request : BulkAuthorizeRequestSchema)
    (token : Option String) : Except HttpException BulkAuthorizeResponseSchema :=
  match requireRuntime principal with
  | .error e => .error e
  | .ok () =>
      let (refs, subject) := resolveDecisionRefs service.store.tables request.tenantId
        request.applicationId request.subject
      match enforceTenantScopeBinding principal refs.tenantId with
      | .error e => .error e
      | .ok () =>
          let delegation :=
            service.applyDelegation token refs.tenantId refs.applicationId subject
          let decisions : Except PyError (List AuthorizeDecision) :=
            match delegationDeny refs delegation with
            | some reason => .ok (request.checks.map fun c =>
                AuthorizeDecision.deny reason (permissionName c.resource c.action))
            | none => service.engine.bulkAuthorize
                { tenantId := refs.tenantId
                  applicationId := refs.applicationId
                  subject := delegation.subject.toSubject
                  checks := request.checks.map fun c => (c.resource, c.action)
                  context := request.context
                  delegatedPermissions := delegation.permissions
                  references := some refs }
          match decisions with
          | .error _ => .error internalServerError
          | .ok decisions => .ok ⟨(request.checks.zip decisions).map fun (check, decision) =>
              ⟨check.resource, check.action, decision.allowed, decision.reason⟩⟩

/-- `POST /v1/effective-permissions`. -/
def effectivePermissions (principal : Principal) (request : EffectivePermissionsRequestSchema)
    (token : Option String) : Except HttpException EffectivePermissionsResponseSchema :=
  match requireRuntime principal with
  | .error e => .error e
  | .ok () =>
      let (refs, subject) := resolveDecisionRefs service.store.tables request.tenantId
        request.applicationId request.subject
      match enforceTenantScopeBinding principal refs.tenantId with
      | .error e => .error e
      | .ok () =>
          if !refs.complete then .ok ⟨refs.tenantId, refs.applicationId, subject, []⟩
          else
            let delegation :=
              service.applyDelegation token refs.tenantId refs.applicationId subject
            match delegation.denyReason with
            | some reason => .error ⟨403, [("error", reason)]⟩
            | none =>
                let permissions := service.engine.effectivePermissions refs.tenantId
                  refs.applicationId delegation.subject.toSubject delegation.permissions (some refs)
                .ok ⟨refs.tenantId, refs.applicationId, delegation.subject,
                  permissions.sort (· ≤ ·)⟩

end Service

end AuthzKit
