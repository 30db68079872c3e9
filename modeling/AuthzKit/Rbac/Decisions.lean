import AuthzKit.Rbac.Checker

/-!
How the answers of the decision point hang together, for every repository and
every list of policy rules.

* `standing`: what a subject brings to a pair before its mask, a permission set
  or the reason of a deny. All three entry points go through it: `authorize_eq`,
  `bulkAuthorize_eq_mapM`, `effectivePermissions_eq`.
* `bulkAuthorize_pointwise`: a bulk decision is the list of the single ones.
* `standing_of_incomplete`: a reference that matched nothing always denies.
* `authorize_allowed_iff`: what an allow needs.
-/

namespace AuthzKit

/-- The check of a bulk request as a request of its own. -/
def BulkAuthorizeRequest.single (request : BulkAuthorizeRequest) (check : String × String) :
    AuthorizeRequest where
  tenantId := request.tenantId
  applicationId := request.applicationId
  subject := request.subject
  resource := check.1
  action := check.2
  context := request.context
  delegatedPermissions := request.delegatedPermissions
  references := request.references

/-- A map that can raise returns exactly when it returns at every element, with
the results in order. -/
lemma mapM_eq_ok_iff {ε α β : Type} {f : α → Except ε β} :
    ∀ {xs : List α} {ys : List β},
      xs.mapM f = .ok ys ↔ List.Forall₂ (fun x y => f x = .ok y) xs ys
  | [], ys => by
      rw [List.mapM_nil, List.forall₂_nil_left_iff]
      exact ⟨fun h => (Except.ok.inj h).symm, fun h => h ▸ rfl⟩
  | x :: xs, ys => by
      rw [List.mapM_cons, List.forall₂_cons_left_iff]
      cases hx : f x with
      | error e =>
          refine ⟨fun h => (by cases h), ?_⟩
          rintro ⟨y, ys', hy, -⟩
          cases hy
      | ok y =>
          cases hxs : xs.mapM f with
          | error e =>
              refine ⟨fun h => (by cases h), ?_⟩
              rintro ⟨y', ys', -, hys, -⟩
              rw [← mapM_eq_ok_iff, hxs] at hys
              cases hys
          | ok ys' =>
              constructor
              · intro h
                exact ⟨y, ys', rfl, mapM_eq_ok_iff.mp hxs, (Except.ok.inj h).symm⟩
              · rintro ⟨y', ys'', hy, hys, rfl⟩
                rw [← mapM_eq_ok_iff, hxs] at hys
                rw [Except.ok.inj hy, Except.ok.inj hys]
                rfl

/-- A map that raises nowhere returns a list. -/
lemma exists_mapM_eq_ok {ε α β : Type} {f : α → Except ε β} :
    ∀ xs : List α, (∀ x ∈ xs, ∃ y, f x = .ok y) → ∃ ys, xs.mapM f = .ok ys
  | [], _ => ⟨[], rfl⟩
  | x :: xs, h => by
      obtain ⟨y, hy⟩ := h x (by simp)
      obtain ⟨ys, hys⟩ := exists_mapM_eq_ok xs fun x' hx' =>
        h x' (List.mem_cons_of_mem x hx')
      exact ⟨y :: ys, by rw [List.mapM_cons, hy, hys]; rfl⟩

namespace AuthorizationEngine

open AuthorizeDecision

variable (engine : AuthorizationEngine)

/-! ### The standing of a subject -/

/-- The permission set of the acting subject, or the reason of the deny. -/
def subjectStanding (tenantId applicationId : Id) (subject : Subject)
    (refs : Option ResolvedReferences) : Except String (Finset String) :=
  if subject.type = subjectUser then
    match subject.userId with
    | none => .error (if !userMissing refs then "invalid_subject" else "no_active_membership")
    | some userId =>
        if !engine.membershipActive tenantId applicationId userId refs then
          .error "no_active_membership"
        else if agentMissing refs then .error "agent_not_active"
        else .ok (engine.repository.resolveUserPermissions tenantId applicationId userId)
  else if subject.type = subjectAgent then
    if (subject.userId.isNone && !userMissing refs) ||
        (subject.agentId.isNone && !agentMissing refs) then .error "invalid_subject"
    else
      match subject.userId with
      | none => .error "no_active_user_membership"
      | some userId =>
          if !engine.membershipActive tenantId applicationId userId refs then
            .error "no_active_user_membership"
          else
            match subject.agentId with
            | none => .error "agent_not_active"
            | some agentId =>
                if !engine.agentActive tenantId applicationId agentId refs then
                  .error "agent_not_active"
                else
                  .ok (engine.repository.resolveUserPermissions tenantId applicationId userId ∩
                    engine.repository.resolveAgentPermissions tenantId applicationId agentId)
  else .error "invalid_subject"

/-- The standing of a subject in a pair: inactive tenants and applications come
first. -/
def standing (tenantId applicationId : Id) (subject : Subject)
    (refs : Option ResolvedReferences) : Except String (Finset String) :=
  match engine.inactive tenantId applicationId refs with
  | some reason => .error reason
  | none => engine.subjectStanding tenantId applicationId subject refs

/-- A deny reason made the deny decision of a check. -/
def orDeny (required : String) :
    Except String (Finset String) → Except AuthorizeDecision (Finset String)
  | .error reason => .error (deny reason required)
  | .ok permissions => .ok permissions

lemma resolveUser_eq {request : AuthorizeRequest} (h : request.subject.type = subjectUser) :
    engine.resolveUser request = orDeny (permissionName request.resource request.action)
      (engine.subjectStanding request.tenantId request.applicationId request.subject
        request.references) := by
  rw [resolveUser, subjectStanding, if_pos h]
  cases request.subject.userId with
  | none => simp only; split <;> rfl
  | some userId => simp only; split_ifs <;> rfl

lemma resolveAgent_eq {request : AuthorizeRequest} (h : request.subject.type = subjectAgent) :
    engine.resolveAgent request = orDeny (permissionName request.resource request.action)
      (engine.subjectStanding request.tenantId request.applicationId request.subject
        request.references) := by
  have hne : request.subject.type ≠ subjectUser := by rw [h]; decide
  rw [resolveAgent, subjectStanding, if_neg hne, if_pos h]
  split_ifs
  · rfl
  · cases request.subject.userId with
    | none => rfl
    | some userId =>
        cases request.subject.agentId with
        | none => simp only; split_ifs <;> rfl
        | some agentId => simp only; split_ifs <;> rfl

/-- What is left of a decision once the subject's permissions are known. -/
def decide (request : AuthorizeRequest) (permissions : Finset String) :
    Except PyError AuthorizeDecision :=
  let required := permissionName request.resource request.action
  let tenantPermissions :=
    engine.repository.resolveTenantPermissions request.tenantId request.applicationId
  let undelegated := masked tenantPermissions permissions
  let effective := delegated request.delegatedPermissions undelegated
  if required ∉ effective then
    .ok (deny (denyReason tenantPermissions permissions undelegated required) required)
  else
    match engine.policyEngine.evaluate request effective with
    | .error e => .error e
    | .ok false => .ok (deny "policy_condition_failed" required)
    | .ok true => .ok (allow required {required})

/-- `authorize` is a decision from the standing. -/
theorem authorize_eq (request : AuthorizeRequest) :
    engine.authorize request =
      match engine.standing request.tenantId request.applicationId request.subject
          request.references with
      | .error reason => .ok (deny reason (permissionName request.resource request.action))
      | .ok permissions => engine.decide request permissions := by
  rw [authorize, standing]
  cases engine.inactive request.tenantId request.applicationId request.references with
  | some reason => rfl
  | none =>
      simp only
      by_cases hu : request.subject.type = subjectUser
      · rw [if_pos hu, engine.resolveUser_eq hu]
        cases engine.subjectStanding request.tenantId request.applicationId request.subject
          request.references <;> rfl
      · by_cases ha : request.subject.type = subjectAgent
        · rw [if_neg hu, if_pos ha, engine.resolveAgent_eq ha]
          cases engine.subjectStanding request.tenantId request.applicationId request.subject
            request.references <;> rfl
        · rw [if_neg hu, if_neg ha, subjectStanding, if_neg hu, if_neg ha]

/-! ### Bulk decisions -/

lemma subjectPermissionsOrDeny_eq (request : BulkAuthorizeRequest) :
    engine.subjectPermissionsOrDeny request.subject request =
      orDeny (permissionName "_bulk" "_marker")
        (engine.subjectStanding request.tenantId request.applicationId request.subject
          request.references) := by
  rw [subjectPermissionsOrDeny]
  by_cases hu : request.subject.type = subjectUser
  · rw [if_pos hu, engine.resolveUser_eq hu]
  · by_cases ha : request.subject.type = subjectAgent
    · rw [if_neg hu, if_pos ha, engine.resolveAgent_eq ha]
    · rw [if_neg hu, if_neg ha, subjectStanding, if_neg hu, if_neg ha]
      rfl

/-- One iteration of the bulk loop is the decision of its check. -/
lemma bulkCheck_eq (request : BulkAuthorizeRequest) (permissions : Finset String)
    (check : String × String) :
    let tenantPermissions :=
      engine.repository.resolveTenantPermissions request.tenantId request.applicationId
    let undelegated := masked tenantPermissions permissions
    engine.bulkCheck request tenantPermissions permissions undelegated
        (delegated request.delegatedPermissions undelegated) check
      = engine.decide (request.single check) permissions := by
  intro tenantPermissions undelegated
  by_cases h : permissionName check.1 check.2 ∈ delegated request.delegatedPermissions undelegated
  · exact (if_pos h).trans (if_neg (not_not.mpr h)).symm
  · exact (if_neg h).trans (if_pos h).symm

/-- The bulk endpoint is the single one, check by check, also where a rule
raises. -/
theorem bulkAuthorize_eq_mapM (request : BulkAuthorizeRequest) :
    engine.bulkAuthorize request =
      request.checks.mapM fun c => engine.authorize (request.single c) := by
  have hconst : ∀ f : String × String → AuthorizeDecision,
      (.ok (request.checks.map f) : Except PyError _) = request.checks.mapM fun c => .ok (f c) :=
    fun f => (List.mapM_pure (m := Except PyError) (f := f)).symm
  simp only [authorize_eq, standing, BulkAuthorizeRequest.single]
  rw [bulkAuthorize]
  cases engine.inactive request.tenantId request.applicationId request.references with
  | some reason => exact hconst _
  | none =>
      rw [subjectPermissionsOrDeny_eq]
      cases engine.subjectStanding request.tenantId request.applicationId request.subject
          request.references with
      | error reason => exact hconst _
      | ok permissions =>
          simp only [orDeny]
          congr 1
          funext c
          exact engine.bulkCheck_eq request permissions c

/-- A decision raises only where its rules do. -/
lemma exists_authorize_eq_ok (request : AuthorizeRequest)
    (h : ∀ matched, ∃ b, engine.policyEngine.evaluate request matched = .ok b) :
    ∃ d, engine.authorize request = .ok d := by
  rw [authorize_eq]
  cases engine.standing request.tenantId request.applicationId request.subject
      request.references with
  | error reason => exact ⟨_, rfl⟩
  | ok permissions =>
      simp only [decide]
      split
      · exact ⟨_, rfl⟩
      · obtain ⟨b, hb⟩ := h _
        rw [hb]
        cases b with
        | false => exact ⟨_, rfl⟩
        | true => exact ⟨_, rfl⟩

/-- **Bulk decisions are pointwise**: where no rule raises on a check, the bulk
answer has one decision for each check, the one `authorize` makes for it. -/
theorem bulkAuthorize_pointwise (request : BulkAuthorizeRequest)
    (h : ∀ c ∈ request.checks, ∀ matched,
      ∃ b, engine.policyEngine.evaluate (request.single c) matched = .ok b) :
    ∃ ds, engine.bulkAuthorize request = .ok ds ∧ ds.length = request.checks.length ∧
      ∀ (i : ℕ) (c : String × String), request.checks[i]? = some c →
        ∃ d, ds[i]? = some d ∧ engine.authorize (request.single c) = .ok d := by
  rw [bulkAuthorize_eq_mapM]
  obtain ⟨ds, hds⟩ := exists_mapM_eq_ok _ fun c hc => engine.exists_authorize_eq_ok _ (h c hc)
  have hall := mapM_eq_ok_iff.mp hds
  refine ⟨ds, hds, hall.length_eq.symm, fun i c hc => ?_⟩
  obtain ⟨hi, rfl⟩ := List.getElem?_eq_some_iff.mp hc
  have hi' : i < ds.length := hall.length_eq ▸ hi
  exact ⟨ds[i], List.getElem?_eq_getElem hi', List.Forall₂.get hall hi hi'⟩

/-- Two equal checks and one that is not granted, under a deny rule that asks for
a second factor. -/
theorem bulkAuthorize_pointwise_mfa :
    let engine : AuthorizationEngine :=
      { repository :=
          { resolveUserPermissions := fun _ _ _ => {"mcp.github.create_issue"}
            resolveAgentPermissions := fun _ _ _ => ∅
            resolveTenantPermissions := fun _ _ => ∅
            isTenantActive := fun _ => true
            isApplicationActive := fun _ => true
            isUserMembershipActive := fun _ _ _ => true
            isAgentActive := fun _ _ _ => false }
        policyEngine :=
          { rules := [⟨"mfa", "deny", "mcp.github", "*",
              .dict [("eq", .list [.str "context.mfa", .bool false])], none, none⟩]
            getattr := fun _ _ => .none } }
    let request : BulkAuthorizeRequest :=
      { tenantId := "acme", applicationId := "chat"
        subject := ⟨subjectUser, some "alice", none, none⟩
        checks := [("mcp.github", "create_issue"), ("mcp.github", "create_issue"), ("chat", "use")]
        context := [("mfa", .bool true)]
        delegatedPermissions := none
        references := none }
    ∃ ds, engine.bulkAuthorize request = .ok ds ∧ ds.length = request.checks.length ∧
      ∀ (i : ℕ) (c : String × String), request.checks[i]? = some c →
        ∃ d, ds[i]? = some d ∧ engine.authorize (request.single c) = .ok d :=
  bulkAuthorize_pointwise _ _ fun c hc matched => ⟨true, by
    simp only [List.mem_cons, List.not_mem_nil, or_false] at hc
    rcases hc with rfl | rfl | rfl <;> rfl⟩

/-! ### What is allowed -/

/-- The permissions a standing amounts to under the mask of the pair and a
grant. -/
def effective (tenantId applicationId : Id) (grant : Option (Finset String)) :
    Except String (Finset String) → Finset String
  | .error _ => ∅
  | .ok permissions =>
      delegated grant
        (masked (engine.repository.resolveTenantPermissions tenantId applicationId) permissions)

lemma delegated_empty (grant : Option (Finset String)) : delegated grant ∅ = ∅ := by
  cases grant <;> simp [delegated]

/-- The list of permissions is what the standing amounts to, unless the agent of a
user subject was not found: a decision denies there, the list does not ask. -/
theorem effectivePermissions_eq {tenantId applicationId : Id} {subject : Subject}
    {grant : Option (Finset String)} {refs : Option ResolvedReferences}
    (h : agentMissing refs = false) :
    engine.effectivePermissions tenantId applicationId subject grant refs =
      engine.effective tenantId applicationId grant
        (engine.standing tenantId applicationId subject refs) := by
  rw [effectivePermissions, effectivePermissionsUndelegated, standing]
  cases engine.inactive tenantId applicationId refs with
  | some reason => exact delegated_empty grant
  | none =>
      simp only [subjectStanding, h, Option.isSome_none, Bool.false_eq_true, if_false]
      by_cases hu : subject.type = subjectUser
      · simp only [if_pos hu]
        cases subject.userId with
        | none => exact delegated_empty grant
        | some userId => simp only; split_ifs <;> simp [effective, delegated_empty]
      · simp only [if_neg hu]
        by_cases ha : subject.type = subjectAgent
        · simp only [if_pos ha]
          cases subject.userId with
          | none => simp only; split_ifs <;> simp [effective, delegated_empty]
          | some userId =>
              cases subject.agentId with
              | none => simp [effective, delegated_empty]
              | some agentId =>
                  simp only [Option.isNone_some, Bool.false_and, Bool.or_self, Bool.false_eq_true,
                    if_false]
                  split_ifs <;> simp [effective, delegated_empty]
        · simp only [if_neg ha]
          exact delegated_empty grant

/-- The list of a user subject in id form. -/
lemma mem_effectivePermissions_user {tenantId applicationId userId : Id}
    {agentId serviceAccountId : Option Id} {p : String} :
    p ∈ engine.effectivePermissions tenantId applicationId
        ⟨subjectUser, some userId, agentId, serviceAccountId⟩ none none ↔
      engine.repository.isTenantActive tenantId = true ∧
        engine.repository.isApplicationActive applicationId = true ∧
        engine.repository.isUserMembershipActive tenantId applicationId userId = true ∧
        p ∈ masked (engine.repository.resolveTenantPermissions tenantId applicationId)
          (engine.repository.resolveUserPermissions tenantId applicationId userId) := by
  rw [effectivePermissions, delegated, effectivePermissionsUndelegated, inactive]
  cases engine.repository.isTenantActive tenantId <;>
    cases engine.repository.isApplicationActive applicationId <;>
    cases hm : engine.repository.isUserMembershipActive tenantId applicationId userId <;>
    simp [membershipActive, userMissing, hm]

/-- The list of an agent subject in id form. -/
lemma mem_effectivePermissions_agent {tenantId applicationId userId agentId : Id}
    {serviceAccountId : Option Id} {p : String} :
    p ∈ engine.effectivePermissions tenantId applicationId
        ⟨subjectAgent, some userId, some agentId, serviceAccountId⟩ none none ↔
      engine.repository.isTenantActive tenantId = true ∧
        engine.repository.isApplicationActive applicationId = true ∧
        engine.repository.isUserMembershipActive tenantId applicationId userId = true ∧
        engine.repository.isAgentActive tenantId applicationId agentId = true ∧
        p ∈ masked (engine.repository.resolveTenantPermissions tenantId applicationId)
          (engine.repository.resolveUserPermissions tenantId applicationId userId ∩
            engine.repository.resolveAgentPermissions tenantId applicationId agentId) := by
  have hne : subjectAgent ≠ subjectUser := by decide
  rw [effectivePermissions, delegated, effectivePermissionsUndelegated, inactive]
  cases engine.repository.isTenantActive tenantId <;>
    cases engine.repository.isApplicationActive applicationId <;>
    cases hm : engine.repository.isUserMembershipActive tenantId applicationId userId <;>
    cases ha : engine.repository.isAgentActive tenantId applicationId agentId <;>
    simp [membershipActive, agentActive, userMissing, agentMissing, resolvedAgentStatus, hm, ha,
      hne]

/-- An allow needs the permission in the effective set and the rules' consent. -/
theorem authorize_allowed_iff (request : AuthorizeRequest) :
    (∃ d, engine.authorize request = .ok d ∧ d.allowed = true) ↔
      permissionName request.resource request.action ∈
          engine.effective request.tenantId request.applicationId request.delegatedPermissions
            (engine.standing request.tenantId request.applicationId request.subject
              request.references) ∧
        engine.policyEngine.evaluate request ∅ = .ok true := by
  rw [authorize_eq]
  cases engine.standing request.tenantId request.applicationId request.subject
      request.references with
  | error reason => simp [effective]
  | ok permissions =>
      simp only [decide, effective]
      split
      · rename_i hreq
        simp [hreq]
      · rename_i hreq
        rw [engine.policyEngine.evaluate_congr request request.delegatedPermissions
          request.references ∅]
        rw [not_not] at hreq
        cases engine.policyEngine.evaluate request ∅ with
        | error e => simp
        | ok b => cases b <;> simp [hreq]

/-- Without rules every decision is made, and allows exactly the effective set. -/
theorem authorize_of_rules_nil (h : engine.policyEngine.rules = []) (request : AuthorizeRequest) :
    ∃ d, engine.authorize request = .ok d ∧
      (d.allowed = true ↔ permissionName request.resource request.action ∈
        engine.effective request.tenantId request.applicationId request.delegatedPermissions
          (engine.standing request.tenantId request.applicationId request.subject
            request.references)) := by
  obtain ⟨d, hd⟩ := engine.exists_authorize_eq_ok request fun matched =>
    ⟨true, PolicyEngine.evaluate_of_rules_nil h request matched⟩
  refine ⟨d, hd, ?_⟩
  have hiff := engine.authorize_allowed_iff request
  rw [PolicyEngine.evaluate_of_rules_nil h, hd, and_iff_left rfl] at hiff
  rw [← hiff]
  simp

/-! ### Missing references -/

/-- A missing user or agent leaves no subject type a standing: each branch asks
for both flags before it reads a permission set. -/
lemma subjectStanding_of_missing {refs : Option ResolvedReferences}
    (h : userMissing refs = true ∨ agentMissing refs = true)
    (tenantId applicationId : Id) (subject : Subject) :
    ∃ reason, engine.subjectStanding tenantId applicationId subject refs = .error reason := by
  have hmember : userMissing refs = true → ∀ userId,
      engine.membershipActive tenantId applicationId userId refs = false :=
    fun hm userId => by rw [membershipActive, if_pos hm]
  have hagent : agentMissing refs = true → ∀ agentId,
      engine.agentActive tenantId applicationId agentId refs = false :=
    fun hm agentId => by rw [agentActive, if_pos hm]
  rw [subjectStanding]
  by_cases hu : subject.type = subjectUser
  · rw [if_pos hu]
    cases subject.userId with
    | none => exact ⟨_, rfl⟩
    | some userId =>
        rcases h with hm | hm
        · exact ⟨"no_active_membership", by simp [hmember hm]⟩
        · simp only [hm, if_true]
          split <;> exact ⟨_, rfl⟩
  · rw [if_neg hu]
    by_cases ha : subject.type = subjectAgent
    · rw [if_pos ha]
      split
      · exact ⟨_, rfl⟩
      · cases subject.userId with
        | none => exact ⟨_, rfl⟩
        | some userId =>
            rcases h with hm | hm
            · exact ⟨"no_active_user_membership", by simp [hmember hm]⟩
            · simp only
              split
              · exact ⟨_, rfl⟩
              · cases subject.agentId with
                | none => exact ⟨_, rfl⟩
                | some agentId => exact ⟨"agent_not_active", by simp [hagent hm]⟩
    · rw [if_neg ha]
      exact ⟨_, rfl⟩

/-- A reference that matched nothing leaves no subject type a standing. -/
theorem standing_of_incomplete {refs : ResolvedReferences} (h : refs.complete = false)
    (tenantId applicationId : Id) (subject : Subject) :
    ∃ reason, engine.standing tenantId applicationId subject (some refs) = .error reason := by
  rw [standing]
  cases hi : engine.inactive tenantId applicationId (some refs) with
  | some reason => exact ⟨reason, rfl⟩
  | none =>
      simp only [inactive] at hi
      split_ifs at hi with ht ha
      rw [not_not] at ht ha
      refine engine.subjectStanding_of_missing ?_ tenantId applicationId subject
      simp only [userMissing, agentMissing, Option.any_some]
      by_contra hno
      simp only [not_or, Bool.not_eq_true] at hno
      simp [ResolvedReferences.complete, ht, ha, hno.1, hno.2] at h

end AuthorizationEngine

end AuthzKit
