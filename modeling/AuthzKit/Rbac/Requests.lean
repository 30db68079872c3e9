import AuthzKit.Policies.Expressions
import AuthzKit.Storage.Uuid

/-!
What the decision point of `authzkit/rbac/checker.py` is asked and answers.
-/

namespace AuthzKit

def subjectUser : String := "user"

def subjectAgent : String := "agent"

/-- Who is acting. `type` selects the algorithm branch. -/
structure Subject where
  type : String
  userId : Option Id
  agentId : Option Id
  serviceAccountId : Option Id
deriving DecidableEq, Repr

/-- A decision's references, resolved by the store in one session. An unknown
tenant or application keeps the raw value, an unknown user or agent is null. -/
structure ResolvedReferences where
  tenantId : Id
  applicationId : Id
  /-- null: unknown reference -/
  tenantStatus : Option String
  applicationStatus : Option String
  userId : Option Id
  userMissing : Bool
  agentId : Option Id
  /-- set when resolved by name -/
  agentStatus : Option String
  agentMissing : Bool
deriving DecidableEq, Repr

/-- Every reference matched a row. -/
def ResolvedReferences.complete (refs : ResolvedReferences) : Bool :=
  refs.tenantStatus.isSome && refs.applicationStatus.isSome && !refs.userMissing &&
    !refs.agentMissing

/-- `context: dict[str, Any]`. -/
abbrev Context := List (String × PyValue)

/-- `delegatedPermissions` is null without a delegation grant. -/
structure AuthorizeRequest where
  tenantId : Id
  applicationId : Id
  subject : Subject
  resource : String
  action : String
  context : Context
  delegatedPermissions : Option (Finset String)
  references : Option ResolvedReferences

structure BulkAuthorizeRequest where
  tenantId : Id
  applicationId : Id
  subject : Subject
  checks : List (String × String)
  context : Context
  delegatedPermissions : Option (Finset String)
  references : Option ResolvedReferences

structure AuthorizeDecision where
  allowed : Bool
  decision : String
  reason : String
  requiredPermission : String
  matchedPermissions : Finset String
deriving DecidableEq

namespace AuthorizeDecision

/-- `AuthorizeDecision.allow`; an empty match set stands for the permission
itself. -/
def allow (required : String) (matched : Finset String) : AuthorizeDecision :=
  ⟨true, "allow", "permission_granted", required, if matched.Nonempty then matched else {required}⟩

/-- `AuthorizeDecision.deny`. -/
def deny (reason required : String) : AuthorizeDecision := ⟨false, "deny", reason, required, ∅⟩

@[simp] lemma allowed_allow (required : String) (matched : Finset String) :
    (allow required matched).allowed = true := rfl

@[simp] lemma allowed_deny (reason required : String) : (deny reason required).allowed = false := rfl

@[simp] lemma reason_deny (reason required : String) : (deny reason required).reason = reason := rfl

end AuthorizeDecision

end AuthzKit
