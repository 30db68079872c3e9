import AuthzKit.Rbac.Requests
import AuthzKit.Storage.Orm

/-!
The request and response bodies of `authzkit/service/schemas.py` that the decision
endpoints use, the caller's principal, and HTTP errors.

A validated body keeps what its validator checked as fields: `UserRefSchema` has
no empty column, and `SubjectSchema` names the user and the agent in at most one
form each.
-/

namespace AuthzKit

/-! ### Bodies -/

/-- A user by identity at its IdP instead of the authz user id. -/
structure UserRefSchema where
  provider : String
  issuer : String
  subject : String
  provider_ne : provider ≠ ""
  issuer_ne : issuer ≠ ""
  subject_ne : subject ≠ ""
deriving DecidableEq

/-- `UserRef(**schema.model_dump())`. -/
def UserRefSchema.toRef (r : UserRefSchema) : UserRef := ⟨r.provider, r.issuer, r.subject⟩

structure SubjectSchema where
  type : String
  userId : Option Id
  userRef : Option UserRefSchema
  agentId : Option Id
  agentName : Option String
  serviceAccountId : Option Id
  /-- `one_form(user_id, user_ref)` -/
  oneUser : userId = none ∨ userRef = none
  /-- `one_form(agent_id, agent_name)` -/
  oneAgent : agentId = none ∨ agentName = none
deriving DecidableEq

namespace SubjectSchema

@[ext]
lemma ext' {s s' : SubjectSchema} (ht : s.type = s'.type) (hu : s.userId = s'.userId)
    (hur : s.userRef = s'.userRef) (ha : s.agentId = s'.agentId)
    (han : s.agentName = s'.agentName) (hsa : s.serviceAccountId = s'.serviceAccountId) :
    s = s' := by
  cases s
  cases s'
  simp only at ht hu hur ha han hsa
  subst ht hu hur ha han hsa
  rfl

/-- `model_copy` with both references replaced by ids. -/
def withIds (s : SubjectSchema) (userId agentId : Option Id) : SubjectSchema where
  type := s.type
  userId := userId
  userRef := none
  agentId := agentId
  agentName := none
  serviceAccountId := s.serviceAccountId
  oneUser := Or.inr rfl
  oneAgent := Or.inr rfl

/-- `_to_subject`. -/
def toSubject (s : SubjectSchema) : Subject := ⟨s.type, s.userId, s.agentId, s.serviceAccountId⟩

end SubjectSchema

structure AuthorizeRequestSchema where
  tenantId : String
  applicationId : String
  subject : SubjectSchema
  resource : String
  action : String
  context : Context

structure AuthorizeResponseSchema where
  allowed : Bool
  decision : String
  reason : String
  requiredPermission : String
  matchedPermissions : List String
deriving DecidableEq

structure BulkCheckSchema where
  resource : String
  action : String
deriving DecidableEq

structure BulkAuthorizeRequestSchema where
  tenantId : String
  applicationId : String
  subject : SubjectSchema
  checks : List BulkCheckSchema
  context : Context

structure BulkCheckResultSchema where
  resource : String
  action : String
  allowed : Bool
  reason : String
deriving DecidableEq

structure BulkAuthorizeResponseSchema where
  results : List BulkCheckResultSchema
deriving DecidableEq

structure EffectivePermissionsRequestSchema where
  tenantId : String
  applicationId : String
  subject : SubjectSchema

structure EffectivePermissionsResponseSchema where
  tenantId : Id
  applicationId : Id
  subject : SubjectSchema
  permissions : List String
deriving DecidableEq

/-! ### Callers and errors -/

/-- `ApiKeyRecord | TokenPrincipal | SessionPrincipal`: what identifies the caller, its
scopes, and the tenant a key or a token is bound to. -/
inductive Principal where
  | apiKey (id : Id) (scopes : List String) (tenantId : Option Id)
  | token (issuer subject : String) (clientId : Option String) (scopes : List String)
      (tenantId : Option Id)
  | session (subject : String) (scopes : List String)
deriving DecidableEq, Repr

namespace Principal

def scopes : Principal → List String
  | apiKey _ scopes _ | token _ _ _ scopes _ | session _ scopes => scopes

/-- `getattr(principal, "tenant_id", None)`. -/
def tenantId : Principal → Option Id
  | apiKey _ _ tenantId | token _ _ _ _ tenantId => tenantId
  | session _ _ => none

end Principal

def scopeAdmin : String := "admin"

def scopeRuntime : String := "runtime"

/-- `HTTPException`: a status code and the fields of `detail`. -/
structure HttpException where
  statusCode : ℕ
  detail : List (String × String)
deriving DecidableEq, Repr

end AuthzKit
