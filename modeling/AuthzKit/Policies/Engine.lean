import AuthzKit.Rbac.Requests

/-!
`authzkit/policies/engine.py`: ABAC rules applied after RBAC has matched.

`evaluate_congr`: the evaluation reads the tenant, application, subject, resource,
action and context of a request, and neither its delegated permissions nor its
references.
-/

namespace AuthzKit

open Policies

/-- One ABAC rule; the effect is `"allow"` or `"deny"`. -/
structure PolicyRule where
  name : String
  effect : String
  resource : String
  action : String
  condition : PyValue
  tenantId : Option Id
  applicationId : Option Id

structure PolicyEngine where
  rules : List PolicyRule
  getattr : GetAttr

namespace PolicyEngine

/-- A nullable string as a Python value. -/
def pyOption : Option String → PyValue
  | none => .none
  | some s => .str s

/-- `_matches_target`. -/
def matchesTarget (rule : PolicyRule) (request : AuthorizeRequest) : Bool :=
  (rule.tenantId.isNone || rule.tenantId == some request.tenantId) &&
    (rule.applicationId.isNone || rule.applicationId == some request.applicationId) &&
    (rule.resource == "*" || rule.resource == request.resource) &&
    (rule.action == "*" || rule.action == request.action)

/-- The mapping path operands are resolved against. -/
def policyVariables (request : AuthorizeRequest) : List (String × PyValue) :=
  let part := fun key => (request.context.lookup key).getD (.dict [])
  [("resource", part "resource"),
    ("subject", .dict [("type", .str request.subject.type),
      ("user_id", pyOption request.subject.userId), ("agent_id", pyOption request.subject.agentId)]),
    ("context", .dict request.context),
    ("agent", part "agent"),
    ("user", part "user"),
    ("tenant", .dict [("id", .str request.tenantId)])]

/-- A loop over the rules with one effect: it ends with `true` at the first
condition whose value is `stop`. -/
def scan (getattr : GetAttr) (vars : List (String × PyValue)) (effect : String) (stop : Bool) :
    List PolicyRule → Except PyError Bool
  | [] => .ok false
  | rule :: rest =>
      if rule.effect = effect then
        match evaluateExpression getattr vars rule.condition with
        | .error e => .error e
        | .ok b => if b = stop then .ok true else scan getattr vars effect stop rest
      else scan getattr vars effect stop rest

/-- `evaluate`: deny rules win when their condition is satisfied, and every
applicable allow-rule must hold. -/
def evaluate (engine : PolicyEngine) (request : AuthorizeRequest) (_matched : Finset String) :
    Except PyError Bool :=
  if engine.rules.isEmpty then .ok true
  else
    let applicable := engine.rules.filter fun r => matchesTarget r request
    if applicable.isEmpty then .ok true
    else
      let vars := policyVariables request
      match scan engine.getattr vars "deny" true applicable with
      | .error e => .error e
      | .ok true => .ok false
      | .ok false => (scan engine.getattr vars "allow" false applicable).map (!·)

/-- Requests that differ in delegated permissions and references only evaluate
alike, whatever has matched. -/
theorem evaluate_congr (engine : PolicyEngine) (request : AuthorizeRequest)
    (delegated : Option (Finset String)) (references : Option ResolvedReferences)
    (matched matched' : Finset String) :
    engine.evaluate
        { request with delegatedPermissions := delegated, references := references } matched'
      = engine.evaluate request matched := rfl

/-- The engine of the service, without rules, accepts every request. -/
@[simp] lemma evaluate_of_rules_nil {engine : PolicyEngine} (h : engine.rules = [])
    (request : AuthorizeRequest) (matched : Finset String) :
    engine.evaluate request matched = .ok true := by
  rw [evaluate, h]
  rfl

end PolicyEngine

end AuthzKit
