import AuthzKit.Security.Issuance
import AuthzKit.Service.Authorize
import AuthzKit.Tenancy.Resolver

/-!
The routes of the runtime surface: the three decision endpoints, `POST
/v1/resolve-context` (`authz_service/api/context.py`), the delegation routes
(`authz_service/api/delegations.py`) and `GET .../tenants/{tenant}/roles`
(`authz_service/api/provisioning.py`).

* `requireBoundTenant`: the tenant of a reference, after the tenant binding.
* `Runtime.handle`: the store after a request, and its answer.

A request reads the clock once. Signing a grant is a parameter: a function of the
claims, if there is a key.
-/

namespace AuthzKit

open Keyed Delegations

/-! ### Bodies -/

/-- `ResolveContextRequestSchema`; `claims` are read by no one. -/
structure ResolveContextRequestSchema where
  applicationId : String
  provider : String
  issuer : String
  subject : String
  email : Option String
  externalTenantId : Option String
  explicitTenantId : Option String
deriving DecidableEq, Repr

/-- The identity of a request. -/
def ResolveContextRequestSchema.identity (r : ResolveContextRequestSchema) : IdentityPrincipal :=
  ⟨r.provider, r.issuer, r.subject, r.email, r.externalTenantId⟩

structure ResolveContextResponseSchema where
  tenantId : Id
  applicationId : Id
  userId : Id
  roles : List String
  permissions : List String
deriving DecidableEq, Repr

structure DelegationIn where
  tenantId : String
  applicationId : String
  userId : Option Id
  userRef : Option UserRefSchema
  agentId : Option Id
  agentName : Option String
  permissions : Option (List String)
  ttlSeconds : Option ℤ
  purpose : Option String
  /-- `one_form(user_id, user_ref, required=True)` -/
  oneUser : userId.isSome ≠ userRef.isSome
  /-- `one_form(agent_id, agent_name, required=True)` -/
  oneAgent : agentId.isSome ≠ agentName.isSome
  one_le_ttlSeconds : ∀ s ∈ ttlSeconds, 1 ≤ s
  purpose_length_le : ∀ p ∈ purpose, p.length ≤ 1024

structure RevokeIn where
  tenantId : String
  applicationId : Option String
  userId : Option Id
  userRef : Option UserRefSchema
  agentId : Option Id
  agentName : Option String
  /-- `one_form(user_id, user_ref)` -/
  oneUser : userId = none ∨ userRef = none
  /-- `one_form(agent_id, agent_name)` -/
  oneAgent : agentId = none ∨ agentName = none
  /-- `agent_name needs application_id` -/
  application : agentName.isSome = true → applicationId.isSome = true

/-- `DelegationOut`. -/
structure DelegationOut where
  id : Id
  tenantId : Id
  applicationId : Id
  userId : Id
  agentId : Id
  permissions : List String
  purpose : Option String
  issuedBy : Option String
  status : String
  active : Bool
  expiresAt : DateTime
  revokedAt : Option DateTime
  createdAt : Option DateTime
deriving DecidableEq

/-- `_out`. -/
def delegationOut (now : DateTime) (grant : Grant) : DelegationOut where
  id := grant.id
  tenantId := grant.tenantId
  applicationId := grant.applicationId
  userId := grant.userId
  agentId := grant.agentId
  permissions := grant.permissions.sort (· ≤ ·)
  purpose := grant.purpose
  issuedBy := grant.issuedBy
  status := grant.status
  active := grant.status = "active" ∧ now < grant.expiresAt
  expiresAt := grant.expiresAt
  revokedAt := grant.revokedAt
  createdAt := grant.createdAt

/-- A request, once authenticated and validated. -/
inductive RuntimeRequest where
  | authorize (body : AuthorizeRequestSchema) (token : Option String)
  | bulkAuthorize (body : BulkAuthorizeRequestSchema) (token : Option String)
  | effectivePermissions (body : EffectivePermissionsRequestSchema) (token : Option String)
  | resolveContext (body : ResolveContextRequestSchema)
  | createDelegation (body : DelegationIn)
  | revokeDelegations (body : RevokeIn)
  | introspectDelegation (token : String)
  | getDelegation (grantId : Id)
  | revokeDelegation (grantId : Id)
  | listTenantRoles (appSlug tenantSlug : String)

/-- An answer with a 2xx status. -/
inductive RuntimeAnswer where
  | decision (out : AuthorizeResponseSchema)
  | decisions (out : BulkAuthorizeResponseSchema)
  | permissions (out : EffectivePermissionsResponseSchema)
  | context (out : ResolveContextResponseSchema)
  /-- `DelegationCreated` -/
  | created (out : DelegationOut) (token : String)
  | revoked (count : ℕ)
  | inactive (reason : String)
  | active (out : DelegationOut)
  | delegation (out : DelegationOut)
  | noContent
  | roles (out : List TenantRoleView)
deriving DecidableEq

/-- An error answer; the last two have a detail that is not only text. -/
inductive Refusal where
  | http (e : HttpException)
  | ttlTooLong (maxTtlSeconds : ℤ)
  | permissionsNotDelegable (permissions : List String)
deriving DecidableEq

/-- A check that raises in a handler. -/
def orRefuse {α : Type} : Except HttpException α → Except Refusal α
  | .ok a => .ok a
  | .error e => .error (.http e)

lemma orRefuse_eq_ok_iff {α : Type} {x : Except HttpException α} {a : α} :
    orRefuse x = .ok a ↔ x = .ok a := by
  cases x <;> simp [orRefuse]

lemma map_eq_ok_iff {ε α β : Type} {x : Except ε α} {f : α → β} {b : β} :
    x.map f = .ok b ↔ ∃ a, x = .ok a ∧ f a = b := by
  cases x <;> simp [Except.map]

/-! ### Required references -/

def tenantNotFound : HttpException := ⟨404, [("reason", "tenant_not_found")]⟩

def userNotFound : HttpException := ⟨404, [("reason", "user_not_found")]⟩

def agentNotFound : HttpException := ⟨404, [("reason", "agent_not_found")]⟩

def delegationNotFound : HttpException := ⟨404, [("reason", "delegation_not_found")]⟩

section References

variable (t : Tables)

/-- The id a tenant reference resolves to, the reference itself when it is unknown. -/
def resolvedTenantId (ref : String) : Id := ((t.findTenant ref).map Tenant.id).getD ref

/-- `require_bound_tenant`: the tenant, after the caller's tenant scope binding. -/
def requireBoundTenant (ref : String) (principal : Principal) : Except HttpException Tenant :=
  match enforceTenantScopeBinding principal (resolvedTenantId t ref) with
  | .error e => .error e
  | .ok () =>
      match t.findTenant ref with
      | none => .error tenantNotFound
      | some tenant => .ok tenant

/-- `require_application`. -/
def requireApplication (ref : String) : Except HttpException Application :=
  match t.findApplication ref with
  | none => .error ⟨404, [("reason", "application_not_found")]⟩
  | some app => .ok app

/-- The user of a body: its id as given, or `require_user_id` of its reference. -/
def bodyUserId (userId : Option Id) (userRef : Option UserRefSchema) :
    Except HttpException (Option Id) :=
  match userRef with
  | none => .ok userId
  | some ref =>
      match t.findUserByExternalIdentity ref.toRef with
      | none => .error userNotFound
      | some user => .ok (some user.id)

/-- `require_agent_id`. -/
def requireAgentId (tenantId applicationId : Id) (name : String) : Except HttpException Id :=
  match t.findAgentByName tenantId applicationId name with
  | none => .error agentNotFound
  | some agent => .ok agent.id

end References

/-- `principal_subject_label`. -/
def principalSubjectLabel : Principal → String
  | .token _ subject clientId _ _ =>
      "token:" ++ (clientId.filter fun c => c ≠ "").getD subject
  | .session subject _ => "session:" ++ subject
  | .apiKey id _ _ => "apikey:" ++ id

/-! ### The service -/

/-- What the handlers of the runtime routes depend on: the tenant mappings of the
store, the settings, and the signing keys. -/
structure Runtime extends Service where
  tenantIdentityMappings : List TenantIdentityMapping
  autoProvisionUser : Bool
  delegationDefaultTtlSeconds : ℤ
  delegationMaxTtlSeconds : ℤ
  /-- `settings.database_url.startswith("sqlite")` -/
  sqlite : Bool
  /-- `active_signing_key()`, if it does not raise. -/
  activeSigner : Option Signer
  /-- The key `generate_if_missing()` leaves active. -/
  generatedSigner : Signer

namespace Runtime

variable (service : Runtime)

/-- The answer of `resolve_context` to what the resolver returned or raised. -/
def contextAnswer (caller : Principal) : Except ContextError UserContext →
    Except Refusal RuntimeAnswer
  | .error .tenantNotActive => .error (.http ⟨404, [("reason", "tenant_not_active")]⟩)
  | .error .noActiveMembership => .error (.http ⟨404, [("reason", "no_active_membership")]⟩)
  | .error (.invalidRequest message) =>
      .error (.http ⟨400, [("reason", "invalid_request"), ("message", message)]⟩)
  | .error (.store _) => .error (.http Service.internalServerError)
  | .ok ctx =>
      match enforceTenantScopeBinding caller ctx.tenantId with
      | .error e => .error (.http e)
      | .ok () => .ok (.context ⟨ctx.tenantId, ctx.applicationId, ctx.userId,
          ctx.roles.sort (· ≤ ·), ctx.permissions.sort (· ≤ ·)⟩)

/-- `POST /v1/resolve-context`. -/
def resolveContext (caller : Principal) (request : ResolveContextRequestSchema)
    (uuid4 : UuidSource) : SqlAlchemyStore × Except Refusal RuntimeAnswer :=
  let resolved := TenantContextResolver.resolve service.store service.tenantIdentityMappings
    service.autoProvisionUser uuid4 request.identity request.applicationId request.explicitTenantId
  (resolved.1, contextAnswer caller resolved.2)

/-- The agent of a body, with its row. -/
def delegate (t : Tables) (tenantId applicationId : Id) (agentId : Option Id)
    (agentName : Option String) : Except HttpException Agent := do
  let agentId ← match agentName with
    | none => pure agentId
    | some name => some <$> requireAgentId t tenantId applicationId name
  match agentId.bind (t.getAgent tenantId applicationId) with
  | none => .error agentNotFound
  | some agent => .ok agent

/-- The checks of `create_delegation`, in their order. -/
def grantRequest (principal : Principal) (body : DelegationIn) : Except Refusal GrantRequest := do
  let t := service.store.tables
  let tenant ← orRefuse (requireBoundTenant t body.tenantId principal)
  let application ← orRefuse (requireApplication t body.applicationId)
  let userId ← orRefuse (bodyUserId t body.userId body.userRef)
  let agent ← orRefuse (delegate t tenant.id application.id body.agentId body.agentName)
  match userId.filter fun u => t.isUserMembershipActive tenant.id application.id u with
  | none => .error (.http ⟨409, [("error", "no_active_user_membership")]⟩)
  | some userId =>
      if agent.status ≠ statusActive then .error (.http ⟨409, [("error", "agent_not_active")]⟩)
      else
        let ttl := body.ttlSeconds.getD service.delegationDefaultTtlSeconds
        if service.delegationMaxTtlSeconds < ttl then
          .error (.ttlTooLong service.delegationMaxTtlSeconds)
        else
          let available := service.engine.effectivePermissions tenant.id application.id
            ⟨subjectAgent, some userId, some agent.id, none⟩ none none
          let requested := (body.permissions.map List.toFinset).getD available
          if requested \ available ≠ ∅ then
            .error (.permissionsNotDelegable ((requested \ available).sort (· ≤ ·)))
          else .ok ⟨tenant.id, application.id, userId, agent.id, requested, ttl, body.purpose,
            principalSubjectLabel principal⟩

/-- The key a grant is signed with: SQLite bootstraps one. -/
def signer : Except HttpException Signer :=
  match service.activeSigner with
  | some signer => .ok signer
  | none =>
      if service.sqlite then .ok service.generatedSigner
      else .error ⟨503, [("error", "signing_key_unavailable"),
        ("hint", "set AUTHZ_OAUTH_SIGNING_KEY_PEM or run `authz oauth signing-key generate`")]⟩

/-- `POST /v1/delegations`. -/
def createDelegation (principal : Principal) (body : DelegationIn) (uuid4 : UuidSource) :
    SqlAlchemyStore × Except Refusal RuntimeAnswer :=
  match service.grantRequest principal body with
  | .error e => (service.store, .error e)
  | .ok request =>
      match service.signer with
      | .error e => (service.store, .error (.http e))
      | .ok signer =>
          match service.delegations.issue service.store service.now signer request uuid4 with
          | .error _ => (service.store, .error (.http Service.internalServerError))
          | .ok (s, grant, token) => (s, .ok (.created (delegationOut service.now grant) token))

/-- What `revoke_delegations` passes to `revoke_matching`. -/
def revokeRequest (principal : Principal) (body : RevokeIn) :
    Except HttpException (Id × Option Id × Option Id) := do
  let t := service.store.tables
  let tenant ← requireBoundTenant t body.tenantId principal
  let userId ← bodyUserId t body.userId body.userRef
  match body.agentName, body.applicationId with
  | some name, some ref =>
      let application ← requireApplication t ref
      let agentId ← requireAgentId t tenant.id application.id name
      pure (tenant.id, userId, some agentId)
  | _, _ => pure (tenant.id, userId, body.agentId)

/-- `POST /v1/delegations/revoke`. -/
def revokeDelegations (principal : Principal) (body : RevokeIn) :
    SqlAlchemyStore × Except Refusal RuntimeAnswer :=
  match service.revokeRequest principal body with
  | .error e => (service.store, .error (.http e))
  | .ok (tenantId, userId, agentId) =>
      match service.store.transaction fun t => t.revokeMatching service.now tenantId userId agentId with
      | .error _ => (service.store, .error (.http Service.internalServerError))
      | .ok (s, count) => (s, .ok (.revoked count))

/-- `POST /v1/delegations/introspect`. -/
def introspectDelegation (principal : Principal) (token : String) :
    Except HttpException RuntimeAnswer :=
  match service.delegations.verify service.store.tables service.now token with
  | .error reason => .ok (.inactive reason)
  | .ok grant =>
      match enforceTenantScopeBinding principal grant.tenantId with
      | .error e => .error e
      | .ok () => .ok (.active (delegationOut service.now grant))

/-- `_grant_for_caller`. -/
def grantForCaller (grantId : Id) (principal : Principal) : Except HttpException Grant :=
  match DelegationService.get service.store.tables grantId with
  | none => .error delegationNotFound
  | some grant =>
      match enforceTenantScopeBinding principal grant.tenantId with
      | .error e => .error e
      | .ok () => .ok grant

/-- `GET /v1/delegations/{id}`. -/
def getDelegation (principal : Principal) (grantId : Id) : Except HttpException RuntimeAnswer :=
  (service.grantForCaller grantId principal).map fun grant =>
    .delegation (delegationOut service.now grant)

/-- `DELETE /v1/delegations/{id}`. -/
def revokeDelegation (principal : Principal) (grantId : Id) :
    SqlAlchemyStore × Except Refusal RuntimeAnswer :=
  match service.grantForCaller grantId principal with
  | .error e => (service.store, .error (.http e))
  | .ok _ =>
      match service.store.transaction fun t => t.revokeGrant service.now grantId with
      | .error _ => (service.store, .error (.http Service.internalServerError))
      | .ok (s, _) => (s, .ok .noContent)

/-- `GET .../tenants/{tenant}/roles`. -/
def listTenantRoles (principal : Principal) (appSlug tenantSlug : String) :
    Except HttpException RuntimeAnswer := do
  let t := service.store.tables
  let app ← requireApplication t appSlug
  let tenant ← requireBoundTenant t tenantSlug principal
  pure (.roles (t.listTenantRoles tenant.id app.id))

/-- A request behind `require_runtime`: the store afterwards, and the answer. -/
def handle (principal : Principal) (request : RuntimeRequest) (uuid4 : UuidSource) :
    SqlAlchemyStore × Except Refusal RuntimeAnswer :=
  match requireRuntime principal with
  | .error e => (service.store, .error (.http e))
  | .ok () =>
      match request with
      | .authorize body token => (service.store,
          orRefuse ((service.authorize principal body token).map .decision))
      | .bulkAuthorize body token => (service.store,
          orRefuse ((service.bulkAuthorize principal body token).map .decisions))
      | .effectivePermissions body token => (service.store,
          orRefuse ((service.effectivePermissions principal body token).map .permissions))
      | .resolveContext body => service.resolveContext principal body uuid4
      | .createDelegation body => service.createDelegation principal body uuid4
      | .revokeDelegations body => service.revokeDelegations principal body
      | .introspectDelegation token =>
          (service.store, orRefuse (service.introspectDelegation principal token))
      | .getDelegation grantId => (service.store, orRefuse (service.getDelegation principal grantId))
      | .revokeDelegation grantId => service.revokeDelegation principal grantId
      | .listTenantRoles appSlug tenantSlug =>
          (service.store, orRefuse (service.listTenantRoles principal appSlug tenantSlug))

end Runtime

end AuthzKit
