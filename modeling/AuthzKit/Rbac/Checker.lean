import AuthzKit.Policies.Engine
import AuthzKit.Rbac.Models

/-!
`AuthorizationEngine` of `authzkit/rbac/checker.py`, the central policy decision
point, over any repository.

`authorize` decides one check, `bulkAuthorize` many with the subject's
permissions resolved once, and `effectivePermissions` lists what the subject may
do before ABAC. Evaluating a rule can raise, so the first two can too.
-/

namespace AuthzKit

/-- The reads of `RBACRepository` the engine makes. -/
structure RBACRepository where
  resolveUserPermissions : (tenantId applicationId userId : Id) → Finset String
  resolveAgentPermissions : (tenantId applicationId agentId : Id) → Finset String
  resolveTenantPermissions : (tenantId applicationId : Id) → Finset String
  isTenantActive : Id → Bool
  isApplicationActive : Id → Bool
  isUserMembershipActive : (tenantId applicationId userId : Id) → Bool
  isAgentActive : (tenantId applicationId agentId : Id) → Bool

structure AuthorizationEngine where
  repository : RBACRepository
  policyEngine : PolicyEngine

namespace AuthorizationEngine

open AuthorizeDecision

variable (engine : AuthorizationEngine)

/-! ### Internal branches -/

/-- `_inactive`: the deny reason for an inactive (or unknown) tenant or
application. -/
def inactive (tenantId applicationId : Id) : Option ResolvedReferences → Option String
  | none =>
      if !engine.repository.isTenantActive tenantId then some "tenant_not_active"
      else if !engine.repository.isApplicationActive applicationId then some "application_not_active"
      else none
  | some refs =>
      if refs.tenantStatus ≠ some "active" then some "tenant_not_active"
      else if refs.applicationStatus ≠ some "active" then some "application_not_active"
      else none

/-- `refs is not None and refs.user_missing`. -/
def userMissing (refs : Option ResolvedReferences) : Bool := refs.any (·.userMissing)

/-- `refs is not None and refs.agent_missing`. -/
def agentMissing (refs : Option ResolvedReferences) : Bool := refs.any (·.agentMissing)

/-- `_membership_active`. -/
def membershipActive (tenantId applicationId userId : Id) (refs : Option ResolvedReferences) :
    Bool :=
  if userMissing refs then false
  else engine.repository.isUserMembershipActive tenantId applicationId userId

/-- The status of an agent read while its name was resolved. -/
def resolvedAgentStatus (agentId : Id) (refs : Option ResolvedReferences) : Option String :=
  refs.bind fun refs => if some agentId = refs.agentId then refs.agentStatus else none

/-- `_agent_active`. -/
def agentActive (tenantId applicationId agentId : Id) (refs : Option ResolvedReferences) : Bool :=
  if agentMissing refs then false
  else
    match resolvedAgentStatus agentId refs with
    | some status => status == "active"
    | none => engine.repository.isAgentActive tenantId applicationId agentId

/-- `_resolve_user`: the permission set, or the deny decision. -/
def resolveUser (request : AuthorizeRequest) : Except AuthorizeDecision (Finset String) :=
  let required := permissionName request.resource request.action
  let refs := request.references
  match request.subject.userId with
  | none =>
      if !userMissing refs then .error (deny "invalid_subject" required)
      else .error (deny "no_active_membership" required)
  | some userId =>
      if !engine.membershipActive request.tenantId request.applicationId userId refs then
        .error (deny "no_active_membership" required)
      else if agentMissing refs then .error (deny "agent_not_active" required)
      else
        .ok (engine.repository.resolveUserPermissions request.tenantId request.applicationId userId)

/-- `_resolve_agent`: the permission set, or the deny decision. A reference that
matched nothing still names the user or agent. -/
def resolveAgent (request : AuthorizeRequest) : Except AuthorizeDecision (Finset String) :=
  let required := permissionName request.resource request.action
  let refs := request.references
  if (request.subject.userId.isNone && !userMissing refs) ||
      (request.subject.agentId.isNone && !agentMissing refs) then
    .error (deny "invalid_subject" required)
  else
    match request.subject.userId with
    | none => .error (deny "no_active_user_membership" required)
    | some userId =>
        if !engine.membershipActive request.tenantId request.applicationId userId refs then
          .error (deny "no_active_user_membership" required)
        else
          match request.subject.agentId with
          | none => .error (deny "agent_not_active" required)
          | some agentId =>
              if !engine.agentActive request.tenantId request.applicationId agentId refs then
                .error (deny "agent_not_active" required)
              else
                .ok (engine.repository.resolveUserPermissions request.tenantId
                    request.applicationId userId ∩
                  engine.repository.resolveAgentPermissions request.tenantId
                    request.applicationId agentId)

/-- The set under the tenant mask; an empty mask is unrestricted. -/
def masked (tenantPermissions permissions : Finset String) : Finset String :=
  if tenantPermissions.Nonempty then permissions ∩ tenantPermissions else permissions

/-- The set narrowed by a delegation grant, when there is one. -/
def delegated (grant : Option (Finset String)) (permissions : Finset String) : Finset String :=
  match grant with
  | none => permissions
  | some g => permissions ∩ g

/-- Why a permission is not in the effective set. -/
def denyReason (tenantPermissions permissions undelegated : Finset String) (required : String) :
    String :=
  if required ∈ undelegated then "not_delegated"
  else if tenantPermissions.Nonempty ∧ required ∈ permissions ∧ required ∉ tenantPermissions then
    "tenant_feature_disabled"
  else "missing_permission"

/-! ### Decisions -/

/-- `authorize`. -/
def authorize (request : AuthorizeRequest) : Except PyError AuthorizeDecision :=
  let required := permissionName request.resource request.action
  match engine.inactive request.tenantId request.applicationId request.references with
  | some reason => .ok (deny reason required)
  | none =>
      let permissions :=
        if request.subject.type = subjectUser then engine.resolveUser request
        else if request.subject.type = subjectAgent then engine.resolveAgent request
        else .error (deny "invalid_subject" required)
      match permissions with
      | .error decision => .ok decision
      | .ok permissions =>
          let tenantPermissions :=
            engine.repository.resolveTenantPermissions request.tenantId request.applicationId
          let undelegated := masked tenantPermissions permissions
          let effective := delegated request.delegatedPermissions undelegated
          if required ∉ effective then
            .ok (deny (denyReason tenantPermissions permissions undelegated required) required)
          else
            match engine.policyEngine.evaluate request effective with
            | .error e => .error e
            | .ok false => .ok (deny "policy_condition_failed" required)
            | .ok true => .ok (allow required {required})

/-- `_subject_permissions_or_deny`: the permission set of the subject, resolved
with a marker request. -/
def subjectPermissionsOrDeny (subject : Subject) (request : BulkAuthorizeRequest) :
    Except AuthorizeDecision (Finset String) :=
  let marker : AuthorizeRequest :=
    { tenantId := request.tenantId, applicationId := request.applicationId, subject,
      resource := "_bulk", action := "_marker", context := [], delegatedPermissions := none,
      references := request.references }
  if subject.type = subjectUser then engine.resolveUser marker
  else if subject.type = subjectAgent then engine.resolveAgent marker
  else .error (deny "invalid_subject" (permissionName "_bulk" "_marker"))

/-- One iteration of the loop of `bulk_authorize`. -/
def bulkCheck (request : BulkAuthorizeRequest)
    (tenantPermissions subjectPerms undelegated effective : Finset String)
    (check : String × String) : Except PyError AuthorizeDecision :=
  let required := permissionName check.1 check.2
  if required ∈ effective then
    let single : AuthorizeRequest :=
      { tenantId := request.tenantId, applicationId := request.applicationId,
        subject := request.subject, resource := check.1, action := check.2,
        context := request.context, delegatedPermissions := none, references := none }
    match engine.policyEngine.evaluate single effective with
    | .error e => .error e
    | .ok false => .ok (deny "policy_condition_failed" required)
    | .ok true => .ok (allow required {required})
  else .ok (deny (denyReason tenantPermissions subjectPerms undelegated required) required)

/-- `bulk_authorize`. -/
def bulkAuthorize (request : BulkAuthorizeRequest) : Except PyError (List AuthorizeDecision) :=
  match engine.inactive request.tenantId request.applicationId request.references with
  | some reason => .ok (request.checks.map fun c => deny reason (permissionName c.1 c.2))
  | none =>
      match engine.subjectPermissionsOrDeny request.subject request with
      | .error decision =>
          .ok (request.checks.map fun c => deny decision.reason (permissionName c.1 c.2))
      | .ok subjectPerms =>
          let tenantPermissions :=
            engine.repository.resolveTenantPermissions request.tenantId request.applicationId
          let undelegated := masked tenantPermissions subjectPerms
          let effective := delegated request.delegatedPermissions undelegated
          request.checks.mapM
            (engine.bulkCheck request tenantPermissions subjectPerms undelegated effective)

/-- `_effective_permissions`. -/
def effectivePermissionsUndelegated (tenantId applicationId : Id) (subject : Subject)
    (refs : Option ResolvedReferences) : Finset String :=
  if (engine.inactive tenantId applicationId refs).isSome then ∅
  else
    let masks := masked (engine.repository.resolveTenantPermissions tenantId applicationId)
    if subject.type = subjectUser then
      match subject.userId with
      | none => ∅
      | some userId =>
          if !engine.membershipActive tenantId applicationId userId refs then ∅
          else masks (engine.repository.resolveUserPermissions tenantId applicationId userId)
    else if subject.type = subjectAgent then
      match subject.userId, subject.agentId with
      | some userId, some agentId =>
          if !engine.membershipActive tenantId applicationId userId refs then ∅
          else if !engine.agentActive tenantId applicationId agentId refs then ∅
          else
            masks (engine.repository.resolveUserPermissions tenantId applicationId userId ∩
              engine.repository.resolveAgentPermissions tenantId applicationId agentId)
      | _, _ => ∅
    else ∅

/-- `effective_permissions`: the set the subject can hit at this moment. -/
def effectivePermissions (tenantId applicationId : Id) (subject : Subject)
    (grant : Option (Finset String)) (refs : Option ResolvedReferences) : Finset String :=
  delegated grant (engine.effectivePermissionsUndelegated tenantId applicationId subject refs)

end AuthorizationEngine

end AuthzKit
