import AuthzKit.Policies.RuleSemantics
import AuthzKit.Rbac.Decisions

/-!
What the ABAC rules do to a decision.

* `rules_only_restrict`: the value of a rule list is that of its applicable rules, whatever their
  order and number, and no rule ever widens what may be done.
* `split_irrelevant_iff`: RBAC compares the joined name of a permission and a rule the two parts
  of it, so two splits of one name get one decision exactly where the rules whose targets match
  them let both pass, stop both, or raise the same error on both.
-/

namespace AuthzKit

open PolicyEngine

/-! ### Rules only restrict -/

/-- What `authorize` allows under a list of rules it allows without rules. -/
lemma AuthorizationEngine.allowed_without_rules {repository : RBACRepository} {getattr : GetAttr}
    {rules : List PolicyRule} {request : AuthorizeRequest} {d : AuthorizeDecision}
    (hd : AuthorizationEngine.authorize ⟨repository, ⟨rules, getattr⟩⟩ request = .ok d)
    (hallowed : d.allowed = true) :
    ∃ d', AuthorizationEngine.authorize ⟨repository, ⟨[], getattr⟩⟩ request = .ok d' ∧
      d'.allowed = true := by
  have h := (AuthorizationEngine.authorize_allowed_iff _ _).mp ⟨d, hd, hallowed⟩
  exact (AuthorizationEngine.authorize_allowed_iff _ _).mpr
    ⟨h.1, evaluate_of_rules_nil rfl request ∅⟩

/-- **Rules only restrict**: a rule list whose conditions do not raise passes a request exactly
when every applicable allow rule holds and no applicable deny rule does; another list of the same
rules gives the same value; a further rule never makes a false value true; and no rule list makes
`authorize` allow what the empty one denies. -/
theorem rules_only_restrict {getattr : GetAttr} {rules : List PolicyRule}
    {request : AuthorizeRequest} {matched : Finset String}
    (h : ∀ rule ∈ rules, ∃ b, rule.value getattr request = .ok b) :
    (∃ b, evaluate ⟨rules, getattr⟩ request matched = .ok b ∧
      (b = true ↔
        (∀ rule ∈ rules, matchesTarget rule request → rule.effect = "allow" →
          rule.value getattr request = .ok true) ∧
        ¬ ∃ rule ∈ rules, matchesTarget rule request ∧ rule.effect = "deny" ∧
          rule.value getattr request = .ok true)) ∧
    (∀ rules', (∀ rule, rule ∈ rules' ↔ rule ∈ rules) →
      evaluate ⟨rules', getattr⟩ request matched = evaluate ⟨rules, getattr⟩ request matched) ∧
    (∀ before after rule, rules = before ++ after →
      (∃ b, rule.value getattr request = .ok b) →
      evaluate ⟨rules, getattr⟩ request matched = .ok false →
        evaluate ⟨before ++ rule :: after, getattr⟩ request matched = .ok false) ∧
    ∀ (repository : RBACRepository) (rules' : List PolicyRule) (d : AuthorizeDecision),
      AuthorizationEngine.authorize ⟨repository, ⟨[], getattr⟩⟩ request = .ok d →
      d.allowed = false →
      ∀ d', AuthorizationEngine.authorize ⟨repository, ⟨rules', getattr⟩⟩ request = .ok d' →
        d'.allowed = false := by
  refine ⟨?_, fun rules' => evaluate_of_mem_iff h, ?_, ?_⟩
  · obtain ⟨b, hb⟩ : ∃ b, evaluate ⟨rules, getattr⟩ request matched = .ok b := exists_evaluate h
    refine ⟨b, hb, ?_⟩
    have hiff : b = true ↔ evaluate ⟨rules, getattr⟩ request matched = .ok true := by
      rw [hb]
      exact ⟨fun hb => hb ▸ rfl, fun hb => Except.ok.inj hb⟩
    rw [hiff, evaluate_eq_true_iff]
    constructor
    · intro hall
      refine ⟨fun rule hrule happlies => (hall rule hrule happlies).2, ?_⟩
      rintro ⟨rule, hrule, happlies, heffect, hvalue⟩
      have hfalse := (hall rule hrule happlies).1 heffect
      rw [hvalue] at hfalse
      cases hfalse
    · rintro ⟨hallow, hdeny⟩ rule hrule happlies
      refine ⟨fun heffect => ?_, hallow rule hrule happlies⟩
      obtain ⟨b', hb'⟩ := h rule hrule
      cases b' with
      | false => exact hb'
      | true => exact absurd ⟨rule, hrule, happlies, heffect, hb'⟩ hdeny
  · rintro before after rule rfl hrule hfalse
    have h' : ∀ r ∈ before ++ rule :: after, ∃ b, r.value getattr request = .ok b := by
      intro r hr
      rcases List.mem_append.mp hr with hr | hr
      · exact h r (List.mem_append_left _ hr)
      · rcases List.mem_cons.mp hr with rfl | hr
        · exact hrule
        · exact h r (List.mem_append_right _ hr)
    obtain ⟨b, hb⟩ : ∃ b, evaluate ⟨before ++ rule :: after, getattr⟩ request matched = .ok b :=
      exists_evaluate h'
    cases b with
    | false => exact hb
    | true =>
        have hsubset : ∀ r ∈ before ++ after, r ∈ before ++ rule :: after := by
          intro r hr
          rcases List.mem_append.mp hr with hr | hr
          · exact List.mem_append_left _ hr
          · exact List.mem_append_right _ (List.mem_cons_of_mem _ hr)
        have htrue := evaluate_of_subset hsubset hb
        rw [hfalse] at htrue
        cases htrue
  · intro repository rules' d hd hdenied d' hd'
    by_contra hallowed
    rw [Bool.not_eq_false] at hallowed
    obtain ⟨d'', hd'', htrue⟩ := AuthorizationEngine.allowed_without_rules hd' hallowed
    rw [hd] at hd''
    rw [← Except.ok.inj hd'', hdenied] at htrue
    cases htrue

/-- A veto without a second factor and a constraint on the cost center. -/
theorem rules_only_restrict_mfa :
    let rules : List PolicyRule :=
      [⟨"mfa", "deny", "*", "*", .dict [("eq", .list [.str "context.mfa", .bool false])], none,
        none⟩,
      ⟨"center", "allow", "docs", "read",
        .dict [("not", .dict [("in", .list [.str "resource.center", .list [.num 7]])])], none,
        some "chat"⟩]
    let request : AuthorizeRequest :=
      { tenantId := "acme", applicationId := "chat"
        subject := ⟨subjectUser, some "alice", none, none⟩, resource := "docs", action := "read"
        context := [("mfa", .bool true), ("resource", .dict [("center", .num 7)])]
        delegatedPermissions := none, references := none }
    ∀ matched, ∃ b, evaluate ⟨rules, fun _ _ => .none⟩ request matched = .ok b ∧
      (b = true ↔
        (∀ rule ∈ rules, matchesTarget rule request → rule.effect = "allow" →
          rule.value (fun _ _ => .none) request = .ok true) ∧
        ¬ ∃ rule ∈ rules, matchesTarget rule request ∧ rule.effect = "deny" ∧
          rule.value (fun _ _ => .none) request = .ok true) := by
  intro rules request matched
  refine (rules_only_restrict ?_).1
  intro rule hrule
  simp only [rules, List.mem_cons, List.not_mem_nil, or_false] at hrule
  rcases hrule with rfl | rfl
  · exact ⟨false, by rfl⟩
  · exact ⟨false, by rfl⟩

/-! ### Splits of a permission name -/

/-- What a caller sees of a decision. -/
def AuthorizeDecision.outcome (d : AuthorizeDecision) : Bool × String := (d.allowed, d.reason)

/-- How the rules stand to a request: none decides, or the one that does holds or raises. -/
def PolicyEngine.verdict (engine : PolicyEngine) (request : AuthorizeRequest) :
    Option (Except PyError Unit) :=
  (engine.decisive request).map fun rule => (rule.value engine.getattr request).map fun _ => ()

/-- The evaluation tells the verdict. -/
lemma PolicyEngine.evaluate_eq_iff_verdict (engine : PolicyEngine)
    {request request' : AuthorizeRequest} (matched : Finset String) :
    engine.evaluate request matched = engine.evaluate request' matched ↔
      engine.verdict request = engine.verdict request' := by
  rw [evaluate_eq_decisive, evaluate_eq_decisive, verdict, verdict]
  cases engine.decisive request with
  | none =>
      cases engine.decisive request' with
      | none => simp
      | some rule' =>
          cases hvalue : rule'.value engine.getattr request' <;> simp [hvalue, Except.map]
  | some rule =>
      cases engine.decisive request' with
      | none => cases hvalue : rule.value engine.getattr request <;> simp [hvalue, Except.map]
      | some rule' =>
          cases hvalue : rule.value engine.getattr request <;>
            cases hvalue' : rule'.value engine.getattr request' <;>
            simp [hvalue, hvalue', Except.map]

/-- Every rule whose target matches lets the request pass: no deny condition holds or raises, and
no allow condition fails or raises. -/
def PolicyEngine.Passes (engine : PolicyEngine) (request : AuthorizeRequest) : Prop :=
  ∀ rule ∈ engine.rules, matchesTarget rule request →
    (rule.effect = "deny" → rule.value engine.getattr request = .ok false) ∧
      (rule.effect = "allow" → rule.value engine.getattr request = .ok true)

/-- The rule is the first of its effect whose target matches and whose condition has another value
than the one that lets a request pass. -/
def PolicyEngine.StopsAt (engine : PolicyEngine) (request : AuthorizeRequest) (effect : String)
    (lets : Bool) (rule : PolicyRule) : Prop :=
  (matchesTarget rule request ∧ rule.effect = effect ∧
      rule.value engine.getattr request ≠ .ok lets) ∧
    ∃ before after, engine.rules = before ++ rule :: after ∧
      ∀ r ∈ before, matchesTarget r request → r.effect = effect →
        r.value engine.getattr request = .ok lets

/-- The rules raise this error: the first deny rule that stops the request raises it, or none does
and the first allow rule that stops it. -/
def PolicyEngine.Raises (engine : PolicyEngine) (request : AuthorizeRequest) (e : PyError) : Prop :=
  ∃ rule, rule.value engine.getattr request = .error e ∧
    (engine.StopsAt request "deny" false rule ∨
      (∀ r ∈ engine.rules, matchesTarget r request → r.effect = "deny" →
        r.value engine.getattr request = .ok false) ∧ engine.StopsAt request "allow" true rule)

/-- The scan of one effect stops at the first rule that stops the request. -/
lemma PolicyEngine.find_eq_some_iff {engine : PolicyEngine} {request : AuthorizeRequest}
    {effect : String} {lets : Bool} {rule : PolicyRule} :
    ((engine.rules.filter fun r => matchesTarget r request).find? fun r =>
        r.effect = effect ∧ r.value engine.getattr request ≠ .ok lets) = some rule ↔
      engine.StopsAt request effect lets rule := by
  rw [List.find?_filter, List.find?_eq_some_iff_append, StopsAt]
  simp only [decide_eq_true_eq, Bool.not_eq_true', decide_eq_false_iff_not]
  refine and_congr Iff.rfl (exists_congr fun before => exists_congr fun after =>
    and_congr_right fun _ => forall₂_congr fun r _ => ?_)
  grind

lemma PolicyEngine.verdict_eq_none_iff {engine : PolicyEngine} {request : AuthorizeRequest} :
    engine.verdict request = none ↔ engine.Passes request := by
  rw [verdict, Option.map_eq_none_iff, decisive_eq_none_iff, Passes]

lemma PolicyEngine.verdict_eq_error_iff {engine : PolicyEngine} {request : AuthorizeRequest}
    {e : PyError} : engine.verdict request = some (.error e) ↔ engine.Raises request e := by
  have hvalue : ∀ rule : PolicyRule,
      ((rule.value engine.getattr request).map fun _ => ()) = .error e ↔
        rule.value engine.getattr request = .error e := by
    intro rule
    cases rule.value engine.getattr request <;> simp [Except.map]
  rw [verdict, Option.map_eq_some_iff, Raises]
  refine exists_congr fun rule => ?_
  rw [hvalue, and_comm]
  refine and_congr_right fun _ => ?_
  rw [decisive, Option.or_eq_some_iff, find_eq_some_iff, find_eq_some_iff, List.find?_eq_none]
  simp only [List.mem_filter, decide_eq_true_eq, not_and, not_not, and_imp]

/-- The verdicts on two requests agree where the rules let both pass or neither, and raise the
same errors. -/
lemma PolicyEngine.verdict_eq_iff (engine : PolicyEngine) (request request' : AuthorizeRequest) :
    engine.verdict request = engine.verdict request' ↔
      (engine.Passes request ↔ engine.Passes request') ∧
        ∀ e, engine.Raises request e ↔ engine.Raises request' e := by
  simp only [← verdict_eq_none_iff, ← verdict_eq_error_iff]
  constructor
  · intro h
    simp [h]
  · rintro ⟨hpasses, hraises⟩
    cases hverdict : engine.verdict request with
    | none => exact (hpasses.mp hverdict).symm
    | some result =>
        cases result with
        | error e => exact ((hraises e).mp hverdict).symm
        | ok value =>
            cases hverdict' : engine.verdict request' with
            | none => rw [hpasses.mpr hverdict'] at hverdict; cases hverdict
            | some result' =>
                cases result' with
                | error e => rw [(hraises e).mpr hverdict'] at hverdict; cases hverdict
                | ok value' => rfl

/-- A map that can raise, followed by a map of its results. -/
lemma map_mapM_except {ε α β γ : Type} (f : α → Except ε β) (g : β → γ) (xs : List α) :
    (xs.mapM f).map (List.map g) = xs.mapM fun x => (f x).map g := by
  induction xs with
  | nil => rfl
  | cons x xs ih =>
      rw [List.mapM_cons, List.mapM_cons, ← ih]
      cases f x with
      | error e => rfl
      | ok y => cases xs.mapM f <;> rfl

namespace AuthorizationEngine

open AuthorizeDecision

/-- The permissions of a bulk request's subject under the mask and the grant. -/
def bulkEffective (engine : AuthorizationEngine) (request : BulkAuthorizeRequest) :
    Finset String :=
  engine.effective request.tenantId request.applicationId request.delegatedPermissions
    (engine.standing request.tenantId request.applicationId request.subject request.references)

variable {engine : AuthorizationEngine} {request : BulkAuthorizeRequest}
  {split split' : String × String}

/-- A granted permission is decided by the rules. -/
lemma decide_outcome_of_mem {r : AuthorizeRequest} {permissions : Finset String}
    (hmem : permissionName r.resource r.action ∈ delegated r.delegatedPermissions
      (masked (engine.repository.resolveTenantPermissions r.tenantId r.applicationId)
        permissions)) :
    (engine.decide r permissions).map AuthorizeDecision.outcome =
      (engine.policyEngine.evaluate r ∅).map fun b =>
        (b, if b then "permission_granted" else "policy_condition_failed") := by
  rw [decide, if_neg (not_not.mpr hmem)]
  have hmatched := engine.policyEngine.evaluate_congr r r.delegatedPermissions r.references ∅
    (delegated r.delegatedPermissions (masked
      (engine.repository.resolveTenantPermissions r.tenantId r.applicationId) permissions))
  rw [hmatched]
  cases engine.policyEngine.evaluate r ∅ with
  | error e => rfl
  | ok b => cases b <;> rfl

/-- A permission that is not granted is denied whatever the rules say. -/
lemma decide_of_notMem {r : AuthorizeRequest} {permissions : Finset String}
    (hmem : permissionName r.resource r.action ∉ delegated r.delegatedPermissions
      (masked (engine.repository.resolveTenantPermissions r.tenantId r.applicationId)
        permissions)) :
    engine.decide r permissions =
      .ok (deny (denyReason (engine.repository.resolveTenantPermissions r.tenantId r.applicationId)
        permissions (masked (engine.repository.resolveTenantPermissions r.tenantId
          r.applicationId) permissions) (permissionName r.resource r.action))
        (permissionName r.resource r.action)) := by
  rw [decide, if_pos hmem]

/-- One check, decided under both splits. -/
lemma outcome_eq_iff (hname : permissionName split.1 split.2 = permissionName split'.1 split'.2) :
    (engine.authorize (request.single split)).map AuthorizeDecision.outcome =
        (engine.authorize (request.single split')).map AuthorizeDecision.outcome ↔
      (permissionName split.1 split.2 ∈ engine.bulkEffective request →
        engine.policyEngine.verdict (request.single split) =
          engine.policyEngine.verdict (request.single split')) := by
  rw [authorize_eq, authorize_eq, bulkEffective]
  have hstanding : engine.standing (request.single split).tenantId
      (request.single split).applicationId (request.single split).subject
      (request.single split).references = engine.standing request.tenantId request.applicationId
        request.subject request.references := rfl
  have hstanding' : engine.standing (request.single split').tenantId
      (request.single split').applicationId (request.single split').subject
      (request.single split').references = engine.standing request.tenantId request.applicationId
        request.subject request.references := rfl
  rw [hstanding, hstanding']
  cases engine.standing request.tenantId request.applicationId request.subject
      request.references with
  | error reason => simp [effective, Except.map, AuthorizeDecision.outcome]
  | ok permissions =>
      by_cases hmem : permissionName split.1 split.2 ∈ delegated request.delegatedPermissions
          (masked (engine.repository.resolveTenantPermissions request.tenantId
            request.applicationId) permissions)
      · have hmem' := hmem
        rw [hname] at hmem'
        have houtcome := decide_outcome_of_mem (r := request.single split) hmem
        have houtcome' := decide_outcome_of_mem (r := request.single split') hmem'
        rw [← engine.policyEngine.evaluate_eq_iff_verdict ∅]
        simp only [effective, hmem, forall_const]
        rw [houtcome, houtcome']
        constructor
        · intro h
          cases hvalue : engine.policyEngine.evaluate (request.single split) ∅ <;>
            cases hvalue' : engine.policyEngine.evaluate (request.single split') ∅ <;>
            simp_all [Except.map]
        · intro h
          rw [h]
      · have hmem' := hmem
        rw [hname] at hmem'
        simp only [effective, hmem, false_imp_iff, iff_true]
        rw [decide_of_notMem (r := request.single split) hmem,
          decide_of_notMem (r := request.single split') hmem']
        simp [BulkAuthorizeRequest.single, hname]

/-- The bulk answer hangs on each check through its outcome only. -/
lemma bulk_outcome_congr
    (h : (engine.authorize (request.single split)).map AuthorizeDecision.outcome =
      (engine.authorize (request.single split')).map AuthorizeDecision.outcome)
    (before after : List (String × String)) :
    (engine.bulkAuthorize { request with checks := before ++ split :: after }).map
        (List.map AuthorizeDecision.outcome) =
      (engine.bulkAuthorize { request with checks := before ++ split' :: after }).map
        (List.map AuthorizeDecision.outcome) := by
  have hmapM : ∀ checks : List (String × String),
      (engine.bulkAuthorize { request with checks }).map (List.map AuthorizeDecision.outcome) =
        checks.mapM fun c =>
          (engine.authorize (request.single c)).map AuthorizeDecision.outcome := by
    intro checks
    rw [bulkAuthorize_eq_mapM, map_mapM_except]
    rfl
  rw [hmapM, hmapM, List.mapM_append, List.mapM_append, List.mapM_cons, List.mapM_cons, h]

/-- **Splits of a name**: two splits of one permission name get the same decision, alone and in any
bulk request, exactly where the permission is not granted or the rules whose targets match let both
splits pass, or neither, and raise the same error on both. -/
theorem split_irrelevant_iff (engine : AuthorizationEngine) (request : BulkAuthorizeRequest)
    {split split' : String × String}
    (hname : permissionName split.1 split.2 = permissionName split'.1 split'.2) :
    ((engine.authorize (request.single split)).map AuthorizeDecision.outcome =
        (engine.authorize (request.single split')).map AuthorizeDecision.outcome ∧
      ∀ before after : List (String × String),
        (engine.bulkAuthorize { request with checks := before ++ split :: after }).map
            (List.map AuthorizeDecision.outcome) =
          (engine.bulkAuthorize { request with checks := before ++ split' :: after }).map
            (List.map AuthorizeDecision.outcome)) ↔
      (permissionName split.1 split.2 ∈ engine.bulkEffective request →
        (engine.policyEngine.Passes (request.single split) ↔
            engine.policyEngine.Passes (request.single split')) ∧
          ∀ e, engine.policyEngine.Raises (request.single split) e ↔
            engine.policyEngine.Raises (request.single split') e) := by
  rw [← PolicyEngine.verdict_eq_iff, ← outcome_eq_iff hname]
  exact ⟨And.left, fun h => ⟨h, bulk_outcome_congr h⟩⟩

section Examples

/-- Everyone may create issues on the GitHub server, which rules veto. -/
def gitHubEngine (resource action : String) : AuthorizationEngine where
  repository :=
    { resolveUserPermissions := fun _ _ _ => {"mcp.github.issues.create"}
      resolveAgentPermissions := fun _ _ _ => ∅
      resolveTenantPermissions := fun _ _ => ∅
      isTenantActive := fun _ => true
      isApplicationActive := fun _ => true
      isUserMembershipActive := fun _ _ _ => true
      isAgentActive := fun _ _ _ => false }
  policyEngine := ⟨[⟨"veto", "deny", resource, action, .none, none, none⟩], fun _ _ => .none⟩

def gitHubRequest : BulkAuthorizeRequest where
  tenantId := "acme"
  applicationId := "chat"
  subject := ⟨subjectUser, some "alice", none, none⟩
  checks := []
  context := []
  delegatedPermissions := none
  references := none

/-- A rule on every target vetoes both splits. -/
theorem split_irrelevant_wildcard :
    ((gitHubEngine "*" "*").authorize (gitHubRequest.single ("mcp.github", "issues.create"))).map
          AuthorizeDecision.outcome =
        ((gitHubEngine "*" "*").authorize
          (gitHubRequest.single ("mcp.github.issues", "create"))).map AuthorizeDecision.outcome ∧
      (permissionName "mcp.github" "issues.create" ∈
          (gitHubEngine "*" "*").bulkEffective gitHubRequest →
        ((gitHubEngine "*" "*").policyEngine.Passes
            (gitHubRequest.single ("mcp.github", "issues.create")) ↔
          (gitHubEngine "*" "*").policyEngine.Passes
            (gitHubRequest.single ("mcp.github.issues", "create"))) ∧
        ∀ e, (gitHubEngine "*" "*").policyEngine.Raises
            (gitHubRequest.single ("mcp.github", "issues.create")) e ↔
          (gitHubEngine "*" "*").policyEngine.Raises
            (gitHubRequest.single ("mcp.github.issues", "create")) e) := by
  have h := @split_irrelevant_iff (gitHubEngine "*" "*") gitHubRequest
    ("mcp.github", "issues.create") ("mcp.github.issues", "create") (by decide)
  have hrules := (gitHubEngine "*" "*").policyEngine.verdict_eq_iff
    (gitHubRequest.single ("mcp.github", "issues.create"))
    (gitHubRequest.single ("mcp.github.issues", "create"))
  exact ⟨(h.mpr fun _ => hrules.mp (by rfl)).1, fun _ => hrules.mp (by rfl)⟩

/-- A rule on the GitHub server vetoes the one split and not the other. -/
theorem moved_dot_avoids_veto :
    permissionName "mcp.github" "issues.create" = permissionName "mcp.github.issues" "create" ∧
      ((gitHubEngine "mcp.github" "*").authorize
          (gitHubRequest.single ("mcp.github", "issues.create"))).map AuthorizeDecision.outcome =
        .ok (false, "policy_condition_failed") ∧
      ((gitHubEngine "mcp.github" "*").authorize
          (gitHubRequest.single ("mcp.github.issues", "create"))).map AuthorizeDecision.outcome =
        .ok (true, "permission_granted") := by
  refine ⟨by decide, by rfl, by rfl⟩

end Examples

end AuthorizationEngine

end AuthzKit
