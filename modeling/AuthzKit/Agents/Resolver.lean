import AuthzKit.Rbac.ListedPermissions

/-!
`authzkit/agents/`: the snapshot of an agent run, and the guard that enforces it.

The resolver makes the checks of the engine a second time, without the one of the application.

* `resolve_eq`: the resolver as a chain of checks.
* `standing_agent`: what the engine says of the same subject.
* `snapshot_agrees_iff`: the two agree unless only the application is inactive.
-/

namespace AuthzKit

open AuthorizationEngine

/-! ### Model -/

/-- The materialized authorization context used during an agent run. -/
structure AgentContext where
  tenantId : Id
  applicationId : Id
  userId : Id
  userRoles : Finset String
  userPermissions : Finset String
  agentId : Id
  agentRole : String
  agentPermissions : Finset String
  effectivePermissions : Finset String

/-- What `resolve` raises, with the argument of the exception. -/
inductive AgentContextError where
  | tenantNotActive (tenantId : Id)
  | noActiveMembership (userId : Id)
  | agentNotFound (agentId : Id)
  | agentNotActive (agentId : Id)
deriving DecidableEq, Repr

structure AgentRepository where
  getAgent : (tenantId applicationId agentId : Id) → Option Agent

structure AgentContextResolver where
  rbac : RBACRepository
  agents : AgentRepository

/-- `resolve`. The roles of the user are left to callers that need them. -/
def AgentContextResolver.resolve (resolver : AgentContextResolver)
    (tenantId applicationId userId agentId : Id) : Except AgentContextError AgentContext :=
  if !resolver.rbac.isTenantActive tenantId then .error (.tenantNotActive tenantId)
  else if !resolver.rbac.isUserMembershipActive tenantId applicationId userId then
    .error (.noActiveMembership userId)
  else
    match resolver.agents.getAgent tenantId applicationId agentId with
    | none => .error (.agentNotFound agentId)
    | some agent =>
        if agent.status ≠ "active" then .error (.agentNotActive agentId)
        else
          let userPerms := resolver.rbac.resolveUserPermissions tenantId applicationId userId
          let agentPerms := resolver.rbac.resolveAgentPermissions tenantId applicationId agentId
          let tenantPerms := resolver.rbac.resolveTenantPermissions tenantId applicationId
          let effective := userPerms ∩ agentPerms
          .ok
            { tenantId
              applicationId
              userId
              userRoles := ∅
              userPermissions := userPerms
              agentId
              agentRole := agent.roleLabel
              agentPermissions := agentPerms
              effectivePermissions :=
                if tenantPerms.Nonempty then effective ∩ tenantPerms else effective }

/-- `PermissionDeniedError`. -/
structure PermissionDenied where
  permission : String
  message : String
deriving DecidableEq, Repr

structure AgentGuard where
  context : AgentContext
  permissions : Finset String
  criticalActions : Finset String
  revalidate : Option (AgentContext → String → String → Bool)

namespace AgentGuard

/-- `AgentGuard(context, critical_actions=…, revalidate=…)`. -/
def init (context : AgentContext) (criticalActions : Finset String)
    (revalidate : Option (AgentContext → String → String → Bool)) : AgentGuard where
  context
  permissions := context.effectivePermissions
  criticalActions
  revalidate

def isAllowed (guard : AgentGuard) (resource action : String) : Bool :=
  decide (permissionName resource action ∈ guard.permissions)

/-- `require`: an action that is critical asks the hook again, when there is one. -/
def require (guard : AgentGuard) (resource action : String) (critical : Bool) :
    Except PermissionDenied Unit :=
  let permission := permissionName resource action
  if permission ∉ guard.permissions then
    .error ⟨permission, "Permission denied: " ++ permission⟩
  else
    match guard.revalidate with
    | some revalidate =>
        if (critical || decide (permission ∈ guard.criticalActions)) &&
            !revalidate guard.context resource action then
          .error ⟨permission, "revalidation denied"⟩
        else .ok ()
    | none => .ok ()

variable {guard : AgentGuard} {resource action : String}

/-- A guard requires what it allows, and the consent of its hook to a critical action. -/
lemma require_eq_ok_iff {critical : Bool} :
    guard.require resource action critical = .ok () ↔
      guard.isAllowed resource action = true ∧ ∀ revalidate, guard.revalidate = some revalidate →
        (critical = true ∨ permissionName resource action ∈ guard.criticalActions) →
          revalidate guard.context resource action = true := by
  rw [require, isAllowed, decide_eq_true_iff]
  by_cases hmem : permissionName resource action ∈ guard.permissions
  · simp only [hmem, not_true_eq_false, if_false, true_and]
    cases guard.revalidate with
    | none => simp
    | some revalidate =>
        cases hconsent : revalidate guard.context resource action <;> simp [hconsent]
  · simp [hmem]

end AgentGuard

namespace Tables

/-- The tables as the repositories of a resolver. -/
def contextResolver (t : Tables) : AgentContextResolver := ⟨t.repository, ⟨t.getAgent⟩⟩

variable {t : Tables} {tenantId applicationId userId agentId : Id}

/-! ### The resolver and the engine -/

/-- The snapshot of a pair of a user and an agent. -/
def snapshot (t : Tables) (tenantId applicationId userId agentId : Id) (agent : Agent) :
    AgentContext where
  tenantId
  applicationId
  userId
  userRoles := ∅
  userPermissions := t.resolveUserPermissions tenantId applicationId userId
  agentId
  agentRole := agent.roleLabel
  agentPermissions := t.resolveAgentPermissions tenantId applicationId agentId
  effectivePermissions := masked (t.resolveTenantPermissions tenantId applicationId)
    (t.resolveUserPermissions tenantId applicationId userId ∩
      t.resolveAgentPermissions tenantId applicationId agentId)

/-- A context is returned to an active agent of an active member of an active tenant. -/
lemma resolve_eq_ok_iff {ctx : AgentContext} :
    t.contextResolver.resolve tenantId applicationId userId agentId = .ok ctx ↔
      t.isTenantActive tenantId = true ∧
        t.isUserMembershipActive tenantId applicationId userId = true ∧
        ∃ agent, t.getAgent tenantId applicationId agentId = some agent ∧
          agent.status = "active" ∧
          ctx = t.snapshot tenantId applicationId userId agentId agent := by
  by_cases ht : t.isTenantActive tenantId = true
  · by_cases hm : t.isUserMembershipActive tenantId applicationId userId = true
    · cases hget : t.getAgent tenantId applicationId agentId with
      | none =>
          simp [AgentContextResolver.resolve, contextResolver, repository, ht, hm, hget]
      | some agent =>
          by_cases hstatus : agent.status = "active"
          · simp [AgentContextResolver.resolve, contextResolver, repository, ht, hm, hget, hstatus,
              snapshot, masked, eq_comm]
          · simp [AgentContextResolver.resolve, contextResolver, repository, ht, hm, hget, hstatus]
    · simp [AgentContextResolver.resolve, contextResolver, repository, ht, hm]
  · simp [AgentContextResolver.resolve, contextResolver, repository, ht]

lemma isAgentActive_iff_getAgent :
    t.isAgentActive tenantId applicationId agentId = true ↔
      ∃ agent, t.getAgent tenantId applicationId agentId = some agent ∧
        agent.status = "active" := by
  rw [isAgentActive]
  cases t.getAgent tenantId applicationId agentId <;> simp [statusActive]

/-- A context is returned, whatever the status of the application. -/
lemma exists_resolve_iff :
    (∃ ctx, t.contextResolver.resolve tenantId applicationId userId agentId = .ok ctx) ↔
      t.isTenantActive tenantId = true ∧
        t.isUserMembershipActive tenantId applicationId userId = true ∧
        t.isAgentActive tenantId applicationId agentId = true := by
  simp only [resolve_eq_ok_iff, isAgentActive_iff_getAgent]
  constructor
  · rintro ⟨ctx, ht, hm, agent, hget, hstatus, -⟩
    exact ⟨ht, hm, agent, hget, hstatus⟩
  · rintro ⟨ht, hm, agent, hget, hstatus⟩
    exact ⟨_, ht, hm, agent, hget, hstatus, rfl⟩

/-- The deny reasons of an inactive tenant, application, membership or agent. -/
def inactiveReasons : List String :=
  ["tenant_not_active", "application_not_active", "no_active_user_membership", "agent_not_active"]

/-- The engine without rules, over the tables. -/
def engine (t : Tables) (getattr : GetAttr) : AuthorizationEngine := ⟨t.repository, ⟨[], getattr⟩⟩

/-- An agent that acts for a user. -/
def agentSubject (userId agentId : Id) : Subject := ⟨subjectAgent, some userId, some agentId, none⟩

/-- The request of an agent, in id form. -/
def agentRequest (tenantId applicationId userId agentId : Id) (resource action : String)
    (context : Context) : AuthorizeRequest :=
  ⟨tenantId, applicationId, agentSubject userId agentId, resource, action, context, none, none⟩

/-- A decision denies the agent because something is inactive. -/
def DeniesInactive (t : Tables) (getattr : GetAttr) (tenantId applicationId userId agentId : Id) :
    Prop :=
  ∃ resource action context d,
    (t.engine getattr).authorize
        (agentRequest tenantId applicationId userId agentId resource action context) = .ok d ∧
      d.reason ∈ inactiveReasons

/-- The standing of an agent in id form. -/
lemma standing_agent (getattr : GetAttr) :
    (t.engine getattr).standing tenantId applicationId (agentSubject userId agentId) none =
      if t.isTenantActive tenantId = false then .error "tenant_not_active"
      else if t.isApplicationActive applicationId = false then .error "application_not_active"
      else if t.isUserMembershipActive tenantId applicationId userId = false then
        .error "no_active_user_membership"
      else if t.isAgentActive tenantId applicationId agentId = false then
        .error "agent_not_active"
      else .ok (t.resolveUserPermissions tenantId applicationId userId ∩
        t.resolveAgentPermissions tenantId applicationId agentId) := by
  have hne : subjectAgent ≠ subjectUser := by decide
  have hmembership : (t.engine getattr).membershipActive tenantId applicationId userId none =
      t.isUserMembershipActive tenantId applicationId userId := rfl
  have hagent : (t.engine getattr).agentActive tenantId applicationId agentId none =
      t.isAgentActive tenantId applicationId agentId := rfl
  have hinactive : (t.engine getattr).inactive tenantId applicationId none =
      if !t.isTenantActive tenantId then some "tenant_not_active"
      else if !t.isApplicationActive applicationId then some "application_not_active"
      else none := rfl
  rw [standing, hinactive]
  by_cases ht : t.isTenantActive tenantId = true
  · by_cases ha : t.isApplicationActive applicationId = true
    · simp only [ht, ha, Bool.not_true, Bool.false_eq_true, if_false, subjectStanding, agentSubject,
        hne, if_true, hmembership, hagent, Option.isNone_some, Bool.false_and, Bool.or_self,
        Bool.not_eq_true', Bool.true_eq_false]
      rfl
    · simp [ht, ha]
  · simp [ht]

/-- All four are active. -/
def AllActive (t : Tables) (tenantId applicationId userId agentId : Id) : Prop :=
  t.isTenantActive tenantId = true ∧ t.isApplicationActive applicationId = true ∧
    t.isUserMembershipActive tenantId applicationId userId = true ∧
    t.isAgentActive tenantId applicationId agentId = true

lemma standing_of_allActive (getattr : GetAttr)
    (h : t.AllActive tenantId applicationId userId agentId) :
    (t.engine getattr).standing tenantId applicationId (agentSubject userId agentId) none =
      .ok (t.resolveUserPermissions tenantId applicationId userId ∩
        t.resolveAgentPermissions tenantId applicationId agentId) := by
  obtain ⟨ht, ha, hm, hg⟩ := h
  rw [standing_agent]
  simp [ht, ha, hm, hg]

lemma standing_of_not_allActive (getattr : GetAttr)
    (h : ¬t.AllActive tenantId applicationId userId agentId) :
    ∃ reason ∈ inactiveReasons,
      (t.engine getattr).standing tenantId applicationId (agentSubject userId agentId) none =
        .error reason := by
  rw [standing_agent]
  split_ifs with ht ha hm hg
  · exact ⟨_, by decide, rfl⟩
  · exact ⟨_, by decide, rfl⟩
  · exact ⟨_, by decide, rfl⟩
  · exact ⟨_, by decide, rfl⟩
  · rw [Bool.not_eq_false] at ht ha hm hg
    exact absurd ⟨ht, ha, hm, hg⟩ h

/-- Once the permissions are known, nothing is denied for being inactive. -/
lemma reason_notMem_of_decide {getattr : GetAttr} {request : AuthorizeRequest}
    {permissions : Finset String} {d : AuthorizeDecision}
    (h : (t.engine getattr).decide request permissions = .ok d) : d.reason ∉ inactiveReasons := by
  rw [AuthorizationEngine.decide] at h
  split at h
  · rw [← Except.ok.inj h, AuthorizeDecision.deny, denyReason]
    split_ifs <;> simp [inactiveReasons]
  · rw [PolicyEngine.evaluate_of_rules_nil rfl] at h
    rw [← Except.ok.inj h]
    simp [AuthorizeDecision.allow, inactiveReasons]

/-- The engine asks for the application as well. -/
lemma not_deniesInactive_iff (getattr : GetAttr) :
    ¬t.DeniesInactive getattr tenantId applicationId userId agentId ↔
      t.AllActive tenantId applicationId userId agentId := by
  constructor
  · intro h
    by_contra hno
    obtain ⟨reason, hmem, hstanding⟩ := standing_of_not_allActive getattr hno
    refine h ⟨"", "", [], AuthorizeDecision.deny reason (permissionName "" ""), ?_, hmem⟩
    rw [authorize_eq]
    simp only [agentRequest, hstanding]
  · rintro h ⟨resource, action, context, d, hd, hmem⟩
    have hstanding := standing_of_allActive getattr h
    rw [authorize_eq] at hd
    simp only [agentRequest, hstanding] at hd
    exact reason_notMem_of_decide hd hmem

/-- Where all are active, the snapshot is what the engine lists. -/
lemma snapshot_eq (getattr : GetAttr) (h : t.AllActive tenantId applicationId userId agentId)
    (agent : Agent) :
    (t.snapshot tenantId applicationId userId agentId agent).effectivePermissions =
      (t.engine getattr).effectivePermissions tenantId applicationId
        (agentSubject userId agentId) none none := by
  have hmissing : agentMissing none = false := rfl
  rw [(t.engine getattr).effectivePermissions_eq hmissing, standing_of_allActive getattr h]
  rfl

/-- What the engine allows an agent is what it lists. -/
lemma agent_allowed_iff (getattr : GetAttr) (resource action : String) (context : Context) :
    (∃ d, (t.engine getattr).authorize
        (agentRequest tenantId applicationId userId agentId resource action context) = .ok d ∧
          d.allowed = true) ↔
      permissionName resource action ∈ (t.engine getattr).effectivePermissions tenantId
        applicationId (agentSubject userId agentId) none none := by
  have hmissing : agentMissing none = false := rfl
  rw [authorize_allowed_iff, PolicyEngine.evaluate_of_rules_nil rfl, and_iff_left rfl,
    (t.engine getattr).effectivePermissions_eq hmissing]
  rfl

/-- **The snapshot agrees with the engine**, and so does a guard built from it, unless the
application is inactive and nothing else is. -/
theorem snapshot_agrees_iff (t : Tables) (getattr : GetAttr)
    (tenantId applicationId userId agentId : Id) :
    (((∃ ctx, t.contextResolver.resolve tenantId applicationId userId agentId = .ok ctx) ↔
        ¬t.DeniesInactive getattr tenantId applicationId userId agentId) ∧
      ∀ ctx, t.contextResolver.resolve tenantId applicationId userId agentId = .ok ctx →
        ctx.effectivePermissions = (t.engine getattr).effectivePermissions tenantId applicationId
          (agentSubject userId agentId) none none ∧
        ∀ (criticalActions : Finset String) (resource action : String) (context : Context),
          (∀ revalidate, (AgentGuard.init ctx criticalActions revalidate).isAllowed resource action =
              true ↔
            ∃ d, (t.engine getattr).authorize
              (agentRequest tenantId applicationId userId agentId resource action context) = .ok d ∧
                d.allowed = true) ∧
          ∀ critical,
            (AgentGuard.init ctx criticalActions none).require resource action critical = .ok () ↔
              ∃ d, (t.engine getattr).authorize
                (agentRequest tenantId applicationId userId agentId resource action context) =
                  .ok d ∧ d.allowed = true) ↔
      (t.isApplicationActive applicationId = true ∨ t.isTenantActive tenantId = false ∨
        t.isUserMembershipActive tenantId applicationId userId = false ∨
        t.isAgentActive tenantId applicationId agentId = false) := by
  rw [exists_resolve_iff, not_deniesInactive_iff]
  constructor
  · rintro ⟨hiff, -⟩
    by_contra hno
    simp only [not_or, Bool.not_eq_false] at hno
    exact hno.1 (hiff.mp ⟨hno.2.1, hno.2.2.1, hno.2.2.2⟩).2.1
  · intro hactive
    have hall : t.isTenantActive tenantId = true ∧
        t.isUserMembershipActive tenantId applicationId userId = true ∧
        t.isAgentActive tenantId applicationId agentId = true ↔
          t.AllActive tenantId applicationId userId agentId := by
      refine ⟨fun ⟨ht, hm, hg⟩ => ⟨ht, ?_, hm, hg⟩, fun ⟨ht, _, hm, hg⟩ => ⟨ht, hm, hg⟩⟩
      simpa [ht, hm, hg] using hactive
    refine ⟨hall, fun ctx hctx => ?_⟩
    have hactive := hall.mp (exists_resolve_iff.mp ⟨ctx, hctx⟩)
    obtain ⟨-, -, agent, -, -, rfl⟩ := resolve_eq_ok_iff.mp hctx
    have hset := snapshot_eq getattr hactive agent
    have hguard : ∀ criticalActions revalidate resource action,
        (AgentGuard.init (t.snapshot tenantId applicationId userId agentId agent) criticalActions
          revalidate).isAllowed resource action = true ↔
        permissionName resource action ∈ (t.engine getattr).effectivePermissions tenantId
          applicationId (agentSubject userId agentId) none none := by
      intro criticalActions revalidate resource action
      rw [AgentGuard.isAllowed, decide_eq_true_iff, AgentGuard.init, hset]
    refine ⟨hset, fun criticalActions resource action context => ⟨fun revalidate => ?_,
      fun critical => ?_⟩⟩
    · rw [agent_allowed_iff, hguard]
    · rw [agent_allowed_iff, AgentGuard.require_eq_ok_iff, hguard]
      refine and_iff_left fun revalidate hrevalidate => ?_
      cases hrevalidate

/-- A store whose application is switched off. -/
def switchedOff : SqlAlchemyStore :=
  (SqlAlchemyStore.empty ⟨true⟩).run (SqlAlchemyStore.acmeCalls ++
    [(.updateApplication (SqlAlchemyStore.sampleIds 1 .application) none (some "disabled"),
      SqlAlchemyStore.sampleIds 5)])

/-- Switched off, the application still gives its agents a snapshot. -/
theorem switched_off_snapshot :
    let t := switchedOff.tables
    let tenantId := SqlAlchemyStore.sampleIds 0 .row
    let applicationId := SqlAlchemyStore.sampleIds 1 .application
    let userId := SqlAlchemyStore.sampleIds 3 (.user 0)
    let agentId := SqlAlchemyStore.sampleIds 3 (.agent 0)
    (t.contextResolver.resolve tenantId applicationId userId agentId).map
        AgentContext.effectivePermissions = .ok {"deal.read"} ∧
      (t.engine fun _ _ => .none).effectivePermissions tenantId applicationId
        (agentSubject userId agentId) none none = ∅ ∧
      (t.engine fun _ _ => .none).authorize
          (agentRequest tenantId applicationId userId agentId "deal" "read" []) =
        .ok (AuthorizeDecision.deny "application_not_active" "deal.read") := by
  decide +kernel

end Tables

end AuthzKit
