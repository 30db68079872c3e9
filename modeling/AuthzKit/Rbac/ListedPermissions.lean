import AuthzKit.Rbac.Relation

/-!
The list of permissions beside the decisions, from resolved references.

A decision asks for both missing flags whatever the type of its subject, the list for the flag of
an agent only where the subject is one.

* `listed_iff_allowed`: with complete references the list holds what is allowed.
* `UncheckedAgent`: a user that is named together with an agent that was not found.
* `list_agrees_iff`: this is the only case in which the two differ.
-/

namespace AuthzKit

namespace AuthorizationEngine

variable (engine : AuthorizationEngine) (tenantId applicationId : Id) (subject : Subject)
  (grant : Option (Finset String)) (refs : ResolvedReferences)

/-- The user holds a permission that the mask of the pair and the grant let through. -/
def HoldsPermission (userId : Id) : Prop :=
  ∃ p ∈ engine.repository.resolveUserPermissions tenantId applicationId userId,
    ((engine.repository.resolveTenantPermissions tenantId applicationId).Nonempty →
      p ∈ engine.repository.resolveTenantPermissions tenantId applicationId) ∧
    ∀ g, grant = some g → p ∈ g

/-- A user with permissions, named together with an agent that was not found. -/
structure UncheckedAgent : Prop where
  tenant : refs.tenantStatus = some "active"
  application : refs.applicationStatus = some "active"
  type : subject.type = subjectUser
  user : refs.userMissing = false
  agent : refs.agentMissing = true
  member : ∃ userId, subject.userId = some userId ∧
    engine.repository.isUserMembershipActive tenantId applicationId userId = true ∧
    engine.HoldsPermission tenantId applicationId grant userId

variable {engine tenantId applicationId subject grant refs}

lemma mem_masked_iff {tenantPermissions permissions : Finset String} {p : String} :
    p ∈ masked tenantPermissions permissions ↔
      p ∈ permissions ∧ (tenantPermissions.Nonempty → p ∈ tenantPermissions) := by
  by_cases h : tenantPermissions.Nonempty
  · simp [masked, h]
  · simp [masked, h]

lemma mem_delegated_iff {permissions : Finset String} {p : String} :
    p ∈ delegated grant permissions ↔ p ∈ permissions ∧ ∀ g, grant = some g → p ∈ g := by
  cases grant <;> simp [delegated]

/-- The list of a user, whatever is known of an agent. -/
lemma effectivePermissions_user (htype : subject.type = subjectUser)
    (htenant : refs.tenantStatus = some "active")
    (happlication : refs.applicationStatus = some "active") (huser : refs.userMissing = false)
    {userId : Id} (hid : subject.userId = some userId)
    (hmember : engine.repository.isUserMembershipActive tenantId applicationId userId = true) :
    engine.effectivePermissions tenantId applicationId subject grant (some refs) =
      delegated grant (masked
        (engine.repository.resolveTenantPermissions tenantId applicationId)
        (engine.repository.resolveUserPermissions tenantId applicationId userId)) := by
  have hactive : engine.inactive tenantId applicationId (some refs) = none := by
    simp [inactive, htenant, happlication]
  have hmembership : engine.membershipActive tenantId applicationId userId (some refs) = true := by
    simp [membershipActive, userMissing, huser, hmember]
  rw [effectivePermissions, effectivePermissionsUndelegated, hactive, if_pos htype, hid]
  simp [hmembership]

/-- The list asks for the missing agent unless the subject is a user in good standing. -/
lemma effectivePermissions_of_agentMissing (h : refs.agentMissing = true)
    (hcase : ¬UncheckedAgent engine tenantId applicationId subject grant refs) :
    engine.effectivePermissions tenantId applicationId subject grant (some refs) = ∅ := by
  rw [Finset.eq_empty_iff_forall_notMem]
  intro p hp
  have hlisted := hp
  rw [effectivePermissions, mem_delegated_iff, effectivePermissionsUndelegated] at hp
  cases hinactive : engine.inactive tenantId applicationId (some refs) with
  | some reason => simp [hinactive] at hp
  | none =>
      have htenant : refs.tenantStatus = some "active" := by
        by_contra hno
        simp [inactive, hno] at hinactive
      have happlication : refs.applicationStatus = some "active" := by
        by_contra hno
        simp [inactive, htenant, hno] at hinactive
      simp only [hinactive, Option.isSome_none, Bool.false_eq_true, if_false] at hp
      by_cases hu : subject.type = subjectUser
      · rw [if_pos hu] at hp
        cases hid : subject.userId with
        | none => simp [hid] at hp
        | some userId =>
            simp only [hid] at hp
            cases hmissing : refs.userMissing with
            | true => simp [membershipActive, userMissing, hmissing] at hp
            | false =>
                cases hmember : engine.repository.isUserMembershipActive tenantId applicationId
                    userId with
                | false => simp [membershipActive, userMissing, hmissing, hmember] at hp
                | true =>
                    rw [effectivePermissions_user hu htenant happlication hmissing hid hmember,
                      mem_delegated_iff, mem_masked_iff, and_assoc] at hlisted
                    exact hcase ⟨htenant, happlication, hu, hmissing, h, userId, hid, hmember, p,
                      hlisted⟩
      · rw [if_neg hu] at hp
        by_cases ha : subject.type = subjectAgent
        · rw [if_pos ha] at hp
          -- the check of the agent asks for the flag
          cases hid : subject.userId with
          | none => simp [hid] at hp
          | some userId =>
              cases hagent : subject.agentId with
              | none => simp [hid, hagent] at hp
              | some agentId =>
                  have hno : engine.agentActive tenantId applicationId agentId (some refs) =
                      false := by
                    simp [agentActive, agentMissing, h]
                  simp [hid, hagent, hno] at hp
        · simp [ha] at hp

/-- Where no agent is missing, the list holds what is allowed. -/
lemma listed_iff_allowed (h : refs.agentMissing = false)
    (hrules : engine.policyEngine.rules = []) (resource action : String) (context : Context) :
    permissionName resource action ∈
        engine.effectivePermissions tenantId applicationId subject grant (some refs) ↔
      ∃ d, engine.authorize ⟨tenantId, applicationId, subject, resource, action, context, grant,
        some refs⟩ = .ok d ∧ d.allowed = true := by
  have hmissing : agentMissing (some refs) = false := h
  rw [authorize_allowed_iff, engine.effectivePermissions_eq hmissing,
    PolicyEngine.evaluate_of_rules_nil hrules, and_iff_left rfl]

/-- References with a missing agent allow nothing. -/
lemma not_allowed_of_incomplete (h : refs.complete = false) (resource action : String)
    (context : Context) :
    ¬∃ d, engine.authorize ⟨tenantId, applicationId, subject, resource, action, context, grant,
      some refs⟩ = .ok d ∧ d.allowed = true := by
  obtain ⟨reason, hreason⟩ := engine.standing_of_incomplete h tenantId applicationId subject
  rw [authorize_allowed_iff]
  simp [hreason, effective]

/-- **The list and the decisions agree**, and the list of incomplete references is empty, unless a
user with permissions is named together with an agent that was not found. -/
theorem list_agrees_iff (repository : RBACRepository) (getattr : GetAttr)
    (tenantId applicationId : Id) (subject : Subject) (grant : Option (Finset String))
    (refs : ResolvedReferences) :
    let engine : AuthorizationEngine := ⟨repository, ⟨[], getattr⟩⟩
    ((∀ (resource action : String) (context : Context),
      permissionName resource action ∈
          engine.effectivePermissions tenantId applicationId subject grant (some refs) ↔
        ∃ d, engine.authorize ⟨tenantId, applicationId, subject, resource, action, context, grant,
          some refs⟩ = .ok d ∧ d.allowed = true) ∧
      (refs.complete = false →
        engine.effectivePermissions tenantId applicationId subject grant (some refs) = ∅)) ↔
      ¬UncheckedAgent engine tenantId applicationId subject grant refs := by
  intro engine
  constructor
  · rintro ⟨-, hempty⟩ hcase
    obtain ⟨userId, hid, hmember, p, hp⟩ := hcase.member
    have hincomplete : refs.complete = false := by
      simp [ResolvedReferences.complete, hcase.agent]
    have hlisted : p ∈ engine.effectivePermissions tenantId applicationId subject grant
        (some refs) := by
      rw [effectivePermissions_user hcase.type hcase.tenant hcase.application hcase.user hid hmember,
        mem_delegated_iff, mem_masked_iff, and_assoc]
      exact hp
    rw [hempty hincomplete] at hlisted
    exact absurd hlisted (Finset.notMem_empty p)
  · intro hcase
    cases h : refs.agentMissing with
    | false =>
        refine ⟨listed_iff_allowed h rfl, fun hincomplete => ?_⟩
        obtain ⟨reason, hreason⟩ :=
          engine.standing_of_incomplete hincomplete tenantId applicationId subject
        have hmissing : agentMissing (some refs) = false := h
        rw [engine.effectivePermissions_eq hmissing, hreason, effective]
    | true =>
        have hempty := effectivePermissions_of_agentMissing h hcase
        have hincomplete : refs.complete = false := by
          simp [ResolvedReferences.complete, h]
        refine ⟨fun resource action context => ?_, fun _ => hempty⟩
        rw [hempty]
        exact iff_of_false (Finset.notMem_empty _)
          (not_allowed_of_incomplete hincomplete resource action context)

/-- Alice, and a name that no agent has: the list holds what every decision denies. -/
theorem unknown_agent_lists :
    let t := SqlAlchemyStore.acmeStore.tables
    let engine : AuthorizationEngine := ⟨t.repository, ⟨[], fun _ _ => .none⟩⟩
    let userId := SqlAlchemyStore.sampleIds 3 (.user 0)
    let refs := t.resolveReferences "acme" "crm" (some userId) none none (some "ghost")
    let subject : Subject := ⟨subjectUser, some userId, none, none⟩
    permissionName "deal" "read" ∈
        engine.effectivePermissions refs.tenantId refs.applicationId subject none (some refs) ∧
      engine.authorize ⟨refs.tenantId, refs.applicationId, subject, "deal", "read", [], none,
        some refs⟩ = .ok (AuthorizeDecision.deny "agent_not_active" "deal.read") ∧
      refs.complete = false := by
  decide +kernel

end AuthorizationEngine

end AuthzKit
