import AuthzKit.Policies.Engine

/-!
What a list of ABAC rules says about a request.

* `decisive`: the first rule that keeps the evaluation from being true; `evaluate_eq_decisive`
  says that it alone decides.
* `evaluate_eq_true_iff`: a request passes when every applicable rule lets it pass.
* `evaluate_of_mem_iff`, `evaluate_of_subset`: neither the order nor the number of the rules
  matters, and more rules let less pass.
-/

namespace AuthzKit

open Policies

/-- The value of a rule's condition on a request. -/
def PolicyRule.value (getattr : GetAttr) (request : AuthorizeRequest) (rule : PolicyRule) :
    Except PyError Bool :=
  evaluateExpression getattr (PolicyEngine.policyVariables request) rule.condition

namespace PolicyEngine

variable {getattr : GetAttr} {rules rules' : List PolicyRule} {request : AuthorizeRequest}
  {matched : Finset String} {rule : PolicyRule}

/-! ### The rule that decides -/

/-- The first deny rule that applies and is not false, or else the first allow rule that applies
and is not true. -/
def decisive (engine : PolicyEngine) (request : AuthorizeRequest) : Option PolicyRule :=
  let applicable := engine.rules.filter fun r => matchesTarget r request
  (applicable.find? fun r => r.effect = "deny" ∧ r.value engine.getattr request ≠ .ok false).or
    (applicable.find? fun r => r.effect = "allow" ∧ r.value engine.getattr request ≠ .ok true)

/-- A scan stops at the first rule of its effect whose value is not the other one. -/
lemma scan_eq (effect : String) (stop : Bool) (rules : List PolicyRule) :
    scan getattr (policyVariables request) effect stop rules =
      match rules.find? fun r => r.effect = effect ∧ r.value getattr request ≠ .ok (!stop) with
      | none => .ok false
      | some rule => (rule.value getattr request).map fun _ => true := by
  induction rules with
  | nil => rfl
  | cons rule rules ih =>
      rw [scan, List.find?_cons]
      have hvalue : evaluateExpression getattr (policyVariables request) rule.condition =
          rule.value getattr request := rfl
      by_cases heffect : rule.effect = effect
      · rw [if_pos heffect, hvalue]
        cases hcond : rule.value getattr request with
        | error e => simp [heffect, hcond, Except.map]
        | ok b =>
            by_cases hb : b = stop
            · simp [heffect, hcond, hb, Except.map]
            · have hb' : b = !stop := by
                cases b <;> cases stop <;> simp_all
              simp [heffect, hb', ih]
      · simp [heffect, ih]

/-- **One rule decides.** -/
theorem evaluate_eq_decisive (engine : PolicyEngine) (request : AuthorizeRequest)
    (matched : Finset String) :
    engine.evaluate request matched =
      match engine.decisive request with
      | none => .ok true
      | some rule => (rule.value engine.getattr request).map fun _ => false := by
  rw [evaluate, decisive]
  by_cases hrules : engine.rules.isEmpty
  · rw [if_pos hrules, List.isEmpty_iff.mp hrules]
    rfl
  rw [if_neg hrules]
  dsimp only
  by_cases happlicable : (engine.rules.filter fun r => matchesTarget r request).isEmpty
  · rw [if_pos happlicable, List.isEmpty_iff.mp happlicable]
    rfl
  rw [if_neg happlicable, scan_eq, scan_eq]
  cases hdeny : (engine.rules.filter fun r => matchesTarget r request).find? fun r =>
      r.effect = "deny" ∧ r.value engine.getattr request ≠ .ok (!true) with
  | some rule =>
      have hdeny' := hdeny
      rw [Bool.not_true] at hdeny'
      rw [hdeny', Option.some_or]
      cases hvalue : rule.value engine.getattr request <;> simp [hvalue, Except.map]
  | none =>
      have hdeny' := hdeny
      rw [Bool.not_true] at hdeny'
      rw [hdeny', Option.none_or, Bool.not_false]
      cases (engine.rules.filter fun r => matchesTarget r request).find? fun r =>
          r.effect = "allow" ∧ r.value engine.getattr request ≠ .ok true with
      | none => rfl
      | some rule =>
          cases hvalue : rule.value engine.getattr request <;> simp [hvalue, Except.map]

lemma decisive_eq_none_iff {engine : PolicyEngine} :
    engine.decisive request = none ↔
      ∀ rule ∈ engine.rules, matchesTarget rule request →
        (rule.effect = "deny" → rule.value engine.getattr request = .ok false) ∧
          (rule.effect = "allow" → rule.value engine.getattr request = .ok true) := by
  rw [decisive, Option.or_eq_none_iff, List.find?_eq_none, List.find?_eq_none]
  simp only [List.mem_filter, decide_eq_true_eq, not_and, not_not, and_imp]
  exact ⟨fun h rule hrule happlies => ⟨h.1 rule hrule happlies, h.2 rule hrule happlies⟩,
    fun h => ⟨fun rule hrule happlies => (h rule hrule happlies).1,
      fun rule hrule happlies => (h rule hrule happlies).2⟩⟩

/-! ### What passes -/

/-- **What passes**: no rule that applies stops it. -/
theorem evaluate_eq_true_iff {engine : PolicyEngine} :
    engine.evaluate request matched = .ok true ↔
      ∀ rule ∈ engine.rules, matchesTarget rule request →
        (rule.effect = "deny" → rule.value engine.getattr request = .ok false) ∧
          (rule.effect = "allow" → rule.value engine.getattr request = .ok true) := by
  rw [evaluate_eq_decisive, ← decisive_eq_none_iff]
  cases engine.decisive request with
  | none => simp
  | some rule => cases hvalue : rule.value engine.getattr request <;> simp [hvalue, Except.map]

/-- Where no condition raises, the evaluation returns. -/
lemma exists_evaluate {engine : PolicyEngine}
    (h : ∀ rule ∈ engine.rules, ∃ b, rule.value engine.getattr request = .ok b) :
    ∃ b, engine.evaluate request matched = .ok b := by
  rw [evaluate_eq_decisive]
  cases hdecisive : engine.decisive request with
  | none => exact ⟨true, rfl⟩
  | some rule =>
      have hmem : rule ∈ engine.rules := by
        rw [decisive, Option.or_eq_some_iff] at hdecisive
        rcases hdecisive with hfind | ⟨-, hfind⟩
        · exact (List.mem_filter.mp (List.mem_of_find?_eq_some hfind)).1
        · exact (List.mem_filter.mp (List.mem_of_find?_eq_some hfind)).1
      obtain ⟨b, hb⟩ := h rule hmem
      exact ⟨false, by simp [hb, Except.map]⟩

/-- More rules let less pass. -/
theorem evaluate_of_subset (hsubset : ∀ rule ∈ rules, rule ∈ rules')
    (h : evaluate ⟨rules', getattr⟩ request matched = .ok true) :
    evaluate ⟨rules, getattr⟩ request matched = .ok true :=
  evaluate_eq_true_iff.mpr fun rule hrule =>
    evaluate_eq_true_iff.mp h rule (hsubset rule hrule)

/-- Neither the order of the rules nor their number matters. -/
theorem evaluate_of_mem_iff (h : ∀ rule ∈ rules, ∃ b, rule.value getattr request = .ok b)
    (hmem : ∀ rule, rule ∈ rules' ↔ rule ∈ rules) :
    evaluate ⟨rules', getattr⟩ request matched = evaluate ⟨rules, getattr⟩ request matched := by
  have h' : ∀ rule ∈ rules', ∃ b, rule.value getattr request = .ok b :=
    fun rule hrule => h rule ((hmem rule).mp hrule)
  obtain ⟨b, hb⟩ : ∃ b, evaluate ⟨rules, getattr⟩ request matched = .ok b := exists_evaluate h
  obtain ⟨b', hb'⟩ : ∃ b, evaluate ⟨rules', getattr⟩ request matched = .ok b := exists_evaluate h'
  have htrue : evaluate ⟨rules', getattr⟩ request matched = .ok true ↔
      evaluate ⟨rules, getattr⟩ request matched = .ok true :=
    ⟨evaluate_of_subset fun rule hrule => (hmem rule).mpr hrule,
      evaluate_of_subset fun rule hrule => (hmem rule).mp hrule⟩
  rw [hb, hb'] at htrue ⊢
  cases b <;> cases b' <;> simp_all

end PolicyEngine

end AuthzKit
