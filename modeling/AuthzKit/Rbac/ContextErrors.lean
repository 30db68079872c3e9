import AuthzKit.Policies.Operands
import AuthzKit.Rbac.PolicyRules

/-!
Contexts that make a decision fail.

A context is what the caller sends, and a comparison raises on values that Python does not compare.
Neither the evaluation nor a decision catches it, and a bulk request loses all its answers.

* `Consulted`: the rules whose conditions a decision evaluates; `evaluate_returns_iff` says that
  the evaluation returns when they do.
* `Reached`: the comparisons a decision comes to.
* `tolerant_iff`: decisions tolerate operands of unexpected types exactly where those they come to
  are harmless.
-/

namespace AuthzKit

open Policies PolicyEngine

/-! ### Rules -/

/-- A rule that lets a request pass: a deny rule that is false, or an allow rule that is true. -/
def PolicyRule.Passes (getattr : GetAttr) (request : AuthorizeRequest) (rule : PolicyRule) : Prop :=
  rule.value getattr request = .ok (!decide (rule.effect = "deny"))

namespace PolicyEngine

variable {engine : PolicyEngine} {request : AuthorizeRequest} {matched : Finset String}
  {rule : PolicyRule}

/-- The rules in the order of the two loops: the deny rules that apply, then the allow rules. -/
def ordered (engine : PolicyEngine) (request : AuthorizeRequest) : List PolicyRule :=
  let applicable := engine.rules.filter fun r => matchesTarget r request
  applicable.filter (fun r => r.effect = "deny") ++ applicable.filter (fun r => r.effect = "allow")

/-- The rules the loops come to: all before them let the request pass. -/
def Consulted (engine : PolicyEngine) (request : AuthorizeRequest) (rule : PolicyRule) : Prop :=
  ∃ before after, engine.ordered request = before ++ rule :: after ∧
    ∀ r ∈ before, r.Passes engine.getattr request

lemma mem_of_mem_ordered (h : rule ∈ engine.ordered request) : rule ∈ engine.rules := by
  rw [ordered, List.mem_append] at h
  rcases h with h | h
  · exact (List.mem_filter.mp (List.mem_filter.mp h).1).1
  · exact (List.mem_filter.mp (List.mem_filter.mp h).1).1

lemma Consulted.mem (h : engine.Consulted request rule) : rule ∈ engine.rules := by
  obtain ⟨before, after, heq, -⟩ := h
  exact mem_of_mem_ordered (by rw [heq]; simp)

/-- The decisive rule is the first one in order that does not let the request pass. -/
lemma decisive_eq_find? (engine : PolicyEngine) (request : AuthorizeRequest) :
    engine.decisive request =
      (engine.ordered request).find? fun r =>
        r.value engine.getattr request ≠ .ok (!decide (r.effect = "deny")) := by
  rw [decisive, ordered]
  generalize engine.rules.filter (fun r => matchesTarget r request) = applicable
  have hfind : ∀ effect stop, (∀ r : PolicyRule, r.effect = effect →
        (!decide (r.effect = "deny")) = !stop) →
      (applicable.find? fun r => r.effect = effect ∧ r.value engine.getattr request ≠ .ok (!stop)) =
        (applicable.filter fun r => r.effect = effect).find? fun r =>
          r.value engine.getattr request ≠ .ok (!decide (r.effect = "deny")) := by
    intro effect stop hstop
    rw [List.find?_filter]
    congr 1
    funext r
    by_cases heffect : r.effect = effect
    · rw [hstop r heffect]
      simp [heffect]
    · simp [heffect]
  rw [List.find?_append, ← hfind "deny" true, ← hfind "allow" false]
  · rfl
  · intro r hr
    simp [hr]
  · intro r hr
    simp [hr]

/-- **An evaluation returns** when the condition of every rule it comes to does. -/
theorem evaluate_returns_iff :
    (∃ b, engine.evaluate request matched = .ok b) ↔
      ∀ rule, engine.Consulted request rule → ∃ b, rule.value engine.getattr request = .ok b := by
  have hdecides : (∃ b, engine.evaluate request matched = .ok b) ↔
      ∀ rule, engine.decisive request = some rule →
        ∃ b, rule.value engine.getattr request = .ok b := by
    rw [evaluate_eq_decisive]
    cases engine.decisive request with
    | none => simp
    | some rule => cases hvalue : rule.value engine.getattr request <;> simp [hvalue, Except.map]
  rw [hdecides]
  constructor
  · rintro h rule ⟨before, after, heq, hpass⟩
    by_cases hrule : rule.Passes engine.getattr request
    · exact ⟨_, hrule⟩
    · refine h rule ?_
      rw [decisive_eq_find?, List.find?_eq_some_iff_append]
      exact ⟨by simpa [PolicyRule.Passes] using hrule, before, after, heq, fun r hr => by
        simpa [PolicyRule.Passes] using hpass r hr⟩
  · intro h rule hdecisive
    rw [decisive_eq_find?, List.find?_eq_some_iff_append] at hdecisive
    obtain ⟨-, before, after, heq, hpass⟩ := hdecisive
    exact h rule ⟨before, after, heq, fun r hr => by
      simpa [PolicyRule.Passes] using hpass r hr⟩

/-- The conditions whose evaluation is come to tolerate operands of unexpected types exactly where
the comparisons in them are harmless. -/
lemma evaluate_tolerates_iff (h : ∀ rule ∈ engine.rules, WellFormed rule.condition) :
    ((∃ b, engine.evaluate request matched = .ok b) ∧
      ∀ rule, engine.Consulted request rule → ∀ c,
        Reaches engine.getattr (policyVariables request) rule.condition c →
          Mistyped c.1 (resolve engine.getattr (policyVariables request) c.2.1)
            (resolve engine.getattr (policyVariables request) c.2.2) →
          c.value engine.getattr (policyVariables request) = .ok false) ↔
      ∀ rule, engine.Consulted request rule → ∀ c,
        Reaches engine.getattr (policyVariables request) rule.condition c →
          Harmless c.1 (resolve engine.getattr (policyVariables request) c.2.1)
            (resolve engine.getattr (policyVariables request) c.2.2) := by
  rw [evaluate_returns_iff, ← forall_and]
  refine forall_congr' fun rule => ?_
  rw [← imp_and]
  exact imp_congr_right fun hrule => tolerates_iff (h rule hrule.mem)

end PolicyEngine

/-! ### Decisions -/

namespace AuthorizationEngine

variable (engine : AuthorizationEngine)

/-- RBAC grants the permission of a request, and the rules are asked. -/
def Granted (request : AuthorizeRequest) : Prop :=
  permissionName request.resource request.action ∈
    engine.effective request.tenantId request.applicationId request.delegatedPermissions
      (engine.standing request.tenantId request.applicationId request.subject request.references)

/-- The comparisons a decision comes to. -/
def Reached (request : AuthorizeRequest) (c : Comparison) : Prop :=
  engine.Granted request ∧ ∃ rule, engine.policyEngine.Consulted request rule ∧
    Reaches engine.policyEngine.getattr (policyVariables request) rule.condition c

/-- A path operand leads to its value in the context of a request, any other operand is itself. -/
def operand (request : AuthorizeRequest) (v : PyValue) : PyValue :=
  Policies.resolve engine.policyEngine.getattr (policyVariables request) v

/-- The comparisons of unexpected types that a decision comes to are false. -/
def MistypedFalse (request : AuthorizeRequest) : Prop :=
  ∀ c, engine.Reached request c →
    Mistyped c.1 (engine.operand request c.2.1) (engine.operand request c.2.2) →
      c.value engine.policyEngine.getattr (policyVariables request) = .ok false

/-- The comparisons that a decision comes to are harmless. -/
def ReachesHarmless (request : AuthorizeRequest) : Prop :=
  ∀ c, engine.Reached request c →
    Harmless c.1 (engine.operand request c.2.1) (engine.operand request c.2.2)

variable {engine}

lemma authorize_returns_iff {request : AuthorizeRequest} :
    (∃ d, engine.authorize request = .ok d) ↔
      (engine.Granted request → ∃ b, engine.policyEngine.evaluate request ∅ = .ok b) := by
  rw [authorize_eq, Granted]
  cases engine.standing request.tenantId request.applicationId request.subject
      request.references with
  | error reason => simp [effective]
  | ok permissions =>
      simp only [effective]
      by_cases hmem : permissionName request.resource request.action ∈
          delegated request.delegatedPermissions (masked
            (engine.repository.resolveTenantPermissions request.tenantId request.applicationId)
            permissions)
      · have houtcome := @decide_outcome_of_mem engine _ _ hmem
        simp only [hmem, forall_const]
        cases hvalue : engine.policyEngine.evaluate request ∅ <;>
          cases hdecide : engine.decide request permissions <;>
          simp_all [Except.map]
      · simp only [hmem, false_imp_iff, iff_true]
        exact ⟨_, decide_of_notMem hmem⟩

/-- One decision. -/
lemma authorize_tolerates_iff (h : ∀ rule ∈ engine.policyEngine.rules, WellFormed rule.condition)
    (request : AuthorizeRequest) :
    ((∃ d, engine.authorize request = .ok d) ∧ engine.MistypedFalse request) ↔
      engine.ReachesHarmless request := by
  rw [authorize_returns_iff, MistypedFalse, ReachesHarmless]
  by_cases hgranted : engine.Granted request
  · have hrules := @evaluate_tolerates_iff engine.policyEngine request ∅ h
    simp only [Reached, hgranted, true_and, forall_const, forall_exists_index, and_imp]
    refine Iff.trans (and_congr_right fun _ => ?_) (hrules.trans ?_)
    · exact ⟨fun h rule hrule c => h c rule hrule, fun h c rule hrule => h rule hrule c⟩
    · exact ⟨fun h c rule hrule => h rule hrule c, fun h rule hrule c => h c rule hrule⟩
  · simp [Reached, hgranted]

/-- **Operands of unexpected types**: decisions, alone and in bulk, return and hold their
comparisons false exactly where the comparisons they come to are harmless. -/
theorem tolerant_iff (engine : AuthorizationEngine)
    (h : ∀ rule ∈ engine.policyEngine.rules, WellFormed rule.condition) :
    (∀ request : AuthorizeRequest,
      ((∃ d, engine.authorize request = .ok d) ∧ engine.MistypedFalse request) ↔
        engine.ReachesHarmless request) ∧
    ∀ request : BulkAuthorizeRequest,
      ((∃ ds, engine.bulkAuthorize request = .ok ds ∧ ds.length = request.checks.length) ∧
        ∀ check ∈ request.checks, engine.MistypedFalse (request.single check)) ↔
        ∀ check ∈ request.checks, engine.ReachesHarmless (request.single check) := by
  refine ⟨authorize_tolerates_iff h, fun request => ?_⟩
  have hbulk : (∃ ds, engine.bulkAuthorize request = .ok ds ∧
      ds.length = request.checks.length) ↔
        ∀ check ∈ request.checks, ∃ d, engine.authorize (request.single check) = .ok d := by
    rw [bulkAuthorize_eq_mapM]
    constructor
    · rintro ⟨ds, hds, -⟩ check hcheck
      obtain ⟨i, hi, rfl⟩ := List.getElem_of_mem hcheck
      have hall := mapM_eq_ok_iff.mp hds
      exact ⟨_, List.Forall₂.get hall hi (hall.length_eq ▸ hi)⟩
    · intro hall
      obtain ⟨ds, hds⟩ := exists_mapM_eq_ok _ hall
      exact ⟨ds, hds, (mapM_eq_ok_iff.mp hds).length_eq.symm⟩
  rw [hbulk, ← forall₂_and]
  exact forall₂_congr fun check _ => authorize_tolerates_iff h (request.single check)

section Examples

/-- Small amounts only, on the GitHub server. -/
def amountEngine : AuthorizationEngine where
  repository :=
    { resolveUserPermissions := fun _ _ _ => {"chat.use", "mcp.github.create_issue"}
      resolveAgentPermissions := fun _ _ _ => ∅
      resolveTenantPermissions := fun _ _ => ∅
      isTenantActive := fun _ => true
      isApplicationActive := fun _ => true
      isUserMembershipActive := fun _ _ _ => true
      isAgentActive := fun _ _ _ => false }
  policyEngine :=
    ⟨[⟨"small amounts", "allow", "mcp.github", "*",
        Comparison.expression ("lt", .str "context.amount", .num 100), none, none⟩],
      fun _ _ => .none⟩

/-- Two checks of one user. -/
def amountRequest (amount : PyValue) : BulkAuthorizeRequest where
  tenantId := "acme"
  applicationId := "chat"
  subject := ⟨subjectUser, some "alice", none, none⟩
  checks := [("chat", "use"), ("mcp.github", "create_issue")]
  context := [("amount", amount)]
  delegatedPermissions := none
  references := none

lemma amountEngine_wellFormed :
    ∀ rule ∈ amountEngine.policyEngine.rules, WellFormed rule.condition := by
  intro rule hrule
  rw [List.mem_singleton.mp hrule]
  exact .comparison (by decide)

/-- An amount that is a number, and one that is a text. -/
theorem tolerant_amounts :
    (((∃ d, amountEngine.authorize ((amountRequest (.num 7)).single ("mcp.github", "create_issue"))
          = .ok d) ∧
        amountEngine.MistypedFalse
          ((amountRequest (.num 7)).single ("mcp.github", "create_issue"))) ↔
      amountEngine.ReachesHarmless
        ((amountRequest (.num 7)).single ("mcp.github", "create_issue"))) ∧
    (((∃ ds, amountEngine.bulkAuthorize (amountRequest (.str "7")) = .ok ds ∧
        ds.length = (amountRequest (.str "7")).checks.length) ∧
      ∀ check ∈ (amountRequest (.str "7")).checks,
        amountEngine.MistypedFalse ((amountRequest (.str "7")).single check)) ↔
      ∀ check ∈ (amountRequest (.str "7")).checks,
        amountEngine.ReachesHarmless ((amountRequest (.str "7")).single check)) :=
  have h := tolerant_iff amountEngine amountEngine_wellFormed
  ⟨h.1 _, h.2 _⟩

/-- A text in place of a number makes the decision raise, and the bulk request lose the answer to
its other check. -/
theorem text_amount_raises :
    (∀ rule ∈ amountEngine.policyEngine.rules, WellFormed rule.condition) ∧
      (amountEngine.authorize ((amountRequest (.str "7")).single ("chat", "use"))).map
        AuthorizeDecision.outcome = .ok (true, "permission_granted") ∧
      amountEngine.authorize ((amountRequest (.str "7")).single ("mcp.github", "create_issue")) =
        .error .typeError ∧
      amountEngine.bulkAuthorize (amountRequest (.str "7")) = .error .typeError :=
  ⟨amountEngine_wellFormed, by rfl, by rfl, by rfl⟩

end Examples

end AuthorizationEngine

end AuthzKit
