import AuthzKit.Storage.Sqlalchemy

/-!
`SqlAlchemyStore.apply_tenant_state`: one tenant's members and agents of an
application, made to match a desired state in one transaction.

Both halves are set-based: what the loop needs is read first, each iteration
decides about its entry from those reads alone (`planMember`, `planAgent`), and
the session then writes new rows, changed rows and links. Rows of the pair that
the state does not list are disabled.
-/

namespace AuthzKit

open Keyed

/-! ### Validation -/

/-- The problems of one member, in the order they are reported; `before` are the
members listed earlier. -/
def memberIssues (roleRows : List Role) (before : List DesiredMember) (m : DesiredMember) (i : ℕ) :
    List ProvisioningIssue :=
  (if m.userRef ∈ before.map DesiredMember.userRef then
    [⟨"members[" ++ toString i ++ "].user_ref", "duplicate_member", "user listed twice"⟩] else []) ++
  (if m.status ∉ desiredStatuses then
    [⟨"members[" ++ toString i ++ "].status", "invalid_status",
      "unknown status " ++ pyRepr m.status⟩] else []) ++
  m.roles.zipIdx.filterMap fun (role, j) =>
    if role ∈ roleRows.map Role.name then none
    else
      some ⟨"members[" ++ toString i ++ "].roles[" ++ toString j ++ "]", "unknown_role",
        "role " ++ pyRepr role ++ " does not exist"⟩

/-- The problems of one agent, in the order they are reported. -/
def agentIssues (permRows : List Permission) (before : List DesiredAgent) (a : DesiredAgent)
    (i : ℕ) : List ProvisioningIssue :=
  (if a.name ∈ before.map DesiredAgent.name then
    [⟨"agents[" ++ toString i ++ "].name", "duplicate_agent", "agent listed twice"⟩] else []) ++
  (if a.status ∉ desiredStatuses then
    [⟨"agents[" ++ toString i ++ "].status", "invalid_status",
      "unknown status " ++ pyRepr a.status⟩] else []) ++
  a.permissions.zipIdx.filterMap fun (perm, j) =>
    if perm ∈ permRows.map Permission.name then none
    else
      some ⟨"agents[" ++ toString i ++ "].permissions[" ++ toString j ++ "]",
        "unknown_permission", "permission " ++ pyRepr perm ++ " is not in the catalog"⟩

/-- A loop over entries that remembers the entries before the current one (the
sets `seen_users` and `seen_agents`) and appends each entry's problems. -/
def issuesFrom {α : Type} (issues : List α → α → ℕ → List ProvisioningIssue) :
    List α → List α → List ProvisioningIssue
  | _, [] => []
  | before, x :: rest =>
      issues before x before.length ++ issuesFrom issues (before ++ [x]) rest

/-- `_validate_tenant_state`: all problems of a state; the state is valid when
there are none. -/
def tenantStateIssues (state : TenantState) (roleRows : List Role) (permRows : List Permission) :
    List ProvisioningIssue :=
  (if state.status ≠ statusActive then
    [⟨"status", "tenant_status_not_managed",
      "the tenant status belongs to the platform; only 'active' is accepted"⟩] else []) ++
  issuesFrom (memberIssues roleRows) [] state.members ++
  issuesFrom (agentIssues permRows) [] state.agents

/-! ### Members -/

/-- What one iteration of the loop over the members leaves in the session: the
pending user and identity of a reference nobody had, the membership with the
listed status, pending when `created`, and the links it shall have and has. -/
structure MemberPlan where
  identity : Option (User × ExternalIdentity)
  membership : Membership
  created : Bool
  changed : Bool
  roleIds : Finset Id
  current : Finset Id

/-- The user of a reference: the one an identity names, or a new one. -/
def memberIdentity (uuid4 : UuidSource) (identities : List ExternalIdentity) (m : DesiredMember)
    (i : ℕ) : Id × Option (User × ExternalIdentity) :=
  match lookup ExternalIdentity.ref identities m.userRef with
  | some ident => (ident.userId, none)
  | none =>
      let new := Tables.newIdentity (uuid4 (.user i)) (uuid4 (.identity i)) m.userRef m.email none
        m.displayName
      (new.2.userId, some new)

/-- One iteration of the loop over the members. -/
def planMember (uuid4 : UuidSource) (tenantId applicationId : Id)
    (identities : List ExternalIdentity) (memberships : List Membership)
    (links : Multiset (Id × Id)) (roleRows : List Role) (m : DesiredMember) (i : ℕ) : MemberPlan :=
  let (userId, identity) := memberIdentity uuid4 identities m i
  let roleIds := Tables.roleIds (m.roles.filterMap (lookup Role.name roleRows))
  match lookup Membership.userId memberships userId with
  | none =>
      { identity
        membership :=
          { id := uuid4 (.membership i), tenantId, applicationId := some applicationId, userId,
            status := m.status }
        created := true, changed := false, roleIds, current := ∅ }
  | some membership =>
      let current := Links.others links membership.id
      { identity
        membership := { membership with status := m.status }
        created := false
        changed := decide (current ≠ roleIds ∨ membership.status ≠ m.status)
        roleIds, current }

namespace Tables

/-- The memberships of a pair, keyed by user. -/
def pairMemberships (t : Tables) (tenantId applicationId : Id) : List Membership :=
  ofList Membership.userId <| t.memberships.filter fun m =>
    m.tenantId = tenantId ∧ m.applicationId = some applicationId

/-- The plans of all listed members. -/
def memberPlans (t : Tables) (uuid4 : UuidSource) (tenantId applicationId : Id)
    (members : List DesiredMember) (roleRows : List Role) : List MemberPlan :=
  let refs := members.map DesiredMember.userRef
  let identities :=
    ofList ExternalIdentity.ref (t.externalIdentities.filter fun i => i.ref ∈ refs)
  members.zipIdx.map fun (m, i) =>
    planMember uuid4 tenantId applicationId identities (t.pairMemberships tenantId applicationId)
      t.membershipRoles roleRows m i

/-- The memberships of a pair that the state does not list and that are not yet
disabled. -/
def unlistedMembers (t : Tables) (tenantId applicationId : Id) (plans : List MemberPlan) :
    List Membership :=
  (t.pairMemberships tenantId applicationId).filter fun m =>
    m.userId ∉ plans.map (fun p => p.membership.userId) ∧ m.status ≠ statusDisabled

/-- `_apply_members`. -/
def applyMembers (t : Tables) (uuid4 : UuidSource) (tenantId applicationId : Id)
    (members : List DesiredMember) (roleRows : List Role) : Tables × ChangeCounts :=
  let plans := t.memberPlans uuid4 tenantId applicationId members roleRows
  let written := (plans.filter fun p => !p.created).map MemberPlan.membership
  let new := (plans.filter fun p => p.created).map MemberPlan.membership
  let disabled := (t.unlistedMembers tenantId applicationId plans).map fun m =>
    { m with status := statusDisabled }
  ({ t with
      users := t.users ++ plans.filterMap fun p => p.identity.map Prod.fst
      externalIdentities := t.externalIdentities ++ plans.filterMap fun p => p.identity.map Prod.snd
      memberships := updateAll Membership.id t.memberships (written ++ disabled) ++ new
      membershipRoles := Links.replaceAll t.membershipRoles
        (plans.map fun p => ⟨p.membership.id, p.roleIds, p.current⟩) },
    { created := new.length
      updated := (plans.filter fun p => !p.created && p.changed).length
      disabled := disabled.length })

end Tables

/-! ### Agents -/

/-- What one iteration of the loops over the agents leaves in the session: the
agent, its internal role, the permissions of that role and the links of the
agent. -/
structure AgentPlan where
  agent : Agent
  created : Bool
  changed : Bool
  role : Role
  roleCreated : Bool
  permissionIds : Finset Id
  currentPermissions : Finset Id
  currentRoles : Finset Id

/-- The agent row of one entry: found by name, or new. -/
def agentRow (uuid4 : UuidSource) (tenantId applicationId : Id) (existing : List Agent)
    (a : DesiredAgent) (i : ℕ) : Agent × Bool × Bool :=
  match lookup Agent.name existing a.name with
  | none =>
      ({ id := uuid4 (.agent i), tenantId, applicationId, name := a.name,
          displayName := a.displayName, status := a.status, roleLabel := "",
          createdByUserId := none }, true, false)
  | some agent =>
      ({ agent with status := a.status, displayName := a.displayName }, false,
        decide (agent.status ≠ a.status ∨ agent.displayName ≠ a.displayName))

/-- The internal role of an agent: found by agent id, or new. -/
def internalRole (uuid4 : UuidSource) (tenantId applicationId : Id) (internalRoles : List Role)
    (agent : Agent) (name : String) (i : ℕ) : Role × Bool :=
  match lookup Role.agentId internalRoles (some agent.id) with
  | some role => (role, false)
  | none =>
      ({ id := uuid4 (.role i), tenantId := some tenantId, applicationId := some applicationId,
          name := agentRoleName name, scope := .agent,
          description := some "Internal: permissions of a provisioned agent", isSystem := true,
          agentId := some agent.id }, true)

/-- One iteration of the loops over the agents. -/
def planAgent (uuid4 : UuidSource) (tenantId applicationId : Id) (existing : List Agent)
    (internalRoles : List Role) (agentRoles rolePermissions : Multiset (Id × Id))
    (permRows : List Permission) (a : DesiredAgent) (i : ℕ) : AgentPlan :=
  let (agent, created, changed) := agentRow uuid4 tenantId applicationId existing a i
  let (role, roleCreated) :=
    internalRole uuid4 tenantId applicationId internalRoles agent a.name i
  let permissionIds := Tables.permissionIds (a.permissions.filterMap (lookup Permission.name permRows))
  let currentPermissions := if roleCreated then ∅ else Links.others rolePermissions role.id
  let currentRoles := if created then ∅ else Links.others agentRoles agent.id
  { agent, created
    changed := changed || decide (currentPermissions ≠ permissionIds ∨ currentRoles ≠ {role.id})
    role, roleCreated, permissionIds, currentPermissions, currentRoles }

namespace Tables

/-- The agents of a pair, keyed by name. -/
def pairAgents (t : Tables) (tenantId applicationId : Id) : List Agent :=
  ofList Agent.name <| t.agents.filter fun a =>
    a.tenantId = tenantId ∧ a.applicationId = applicationId

/-- The internal roles of the agents of a pair, keyed by agent. -/
def internalRoles (t : Tables) (tenantId applicationId : Id) : List Role :=
  let ids := (t.pairAgents tenantId applicationId).map Agent.id
  ofList Role.agentId (t.roles.filter fun r => r.agentId ∈ ids.map some)

/-- The plans of all listed agents. -/
def agentPlans (t : Tables) (uuid4 : UuidSource) (tenantId applicationId : Id)
    (agents : List DesiredAgent) (permRows : List Permission) : List AgentPlan :=
  agents.zipIdx.map fun (a, i) =>
    planAgent uuid4 tenantId applicationId (t.pairAgents tenantId applicationId)
      (t.internalRoles tenantId applicationId) t.agentRoles t.rolePermissions permRows a i

/-- The agents of a pair that the state does not list and that are not yet
disabled. -/
def unlistedAgents (t : Tables) (tenantId applicationId : Id) (agents : List DesiredAgent) :
    List Agent :=
  (t.pairAgents tenantId applicationId).filter fun a =>
    a.name ∉ agents.map DesiredAgent.name ∧ a.status ≠ statusDisabled

/-- `_apply_agents`. -/
def applyAgents (t : Tables) (uuid4 : UuidSource) (tenantId applicationId : Id)
    (agents : List DesiredAgent) (permRows : List Permission) : Tables × ChangeCounts :=
  let plans := t.agentPlans uuid4 tenantId applicationId agents permRows
  let written := (plans.filter fun p => !p.created).map AgentPlan.agent
  let new := (plans.filter fun p => p.created).map AgentPlan.agent
  let disabled := (t.unlistedAgents tenantId applicationId agents).map fun a =>
    { a with status := statusDisabled }
  ({ t with
      agents := updateAll Agent.id t.agents (written ++ disabled) ++ new
      roles := t.roles ++ (plans.filter fun p => p.roleCreated).map AgentPlan.role
      rolePermissions := Links.replaceAll t.rolePermissions
        (plans.map fun p => ⟨p.role.id, p.permissionIds, p.currentPermissions⟩)
      agentRoles := Links.replaceAll t.agentRoles
        (plans.map fun p => ⟨p.agent.id, {p.role.id}, p.currentRoles⟩) },
    { created := new.length
      updated := (plans.filter fun p => !p.created && p.changed).length
      disabled := disabled.length })

/-! ### The transaction -/

/-- The roles the members' names resolve to, before the tenant is created. -/
def stateRoleRows (t : Tables) (applicationId : Id) (tenantSlug : String) (state : TenantState) :
    List Role :=
  t.assignableRoles ((lookup Tenant.slug t.tenants tenantSlug).map Tenant.id) (some applicationId)
    (state.members.flatMap DesiredMember.roles).toFinset

/-- The permissions the agents' names resolve to. -/
def statePermRows (t : Tables) (applicationId : Id) (state : TenantState) : List Permission :=
  t.activePermissions (some applicationId) (state.agents.flatMap DesiredAgent.permissions).toFinset

/-- The tenant of a state: found by slug, or created. -/
def stateTenant (t : Tables) (uuid4 : UuidSource) (tenantSlug name : String) : Tables × Id :=
  match lookup Tenant.slug t.tenants tenantSlug with
  | some tenant => (t, tenant.id)
  | none =>
      let tenant : Tenant := { id := uuid4 .tenant, slug := tenantSlug, name, status := statusActive }
      ({ t with tenants := t.tenants ++ [tenant] }, tenant.id)

/-- `apply_tenant_state`. -/
def applyTenantState (t : Tables) (uuid4 : UuidSource) (applicationId : Id) (tenantSlug : String)
    (state : TenantState) : Except StoreError (Tables × TenantStateResult) :=
  let roleRows := t.stateRoleRows applicationId tenantSlug state
  let permRows := t.statePermRows applicationId state
  let errors := tenantStateIssues state roleRows permRows
  if errors ≠ [] then .error (.provisioningError errors)
  else
    let (t, tenantId) := t.stateTenant uuid4 tenantSlug state.name
    let (t, members) := t.applyMembers uuid4 tenantId applicationId state.members roleRows
    let (t, agents) := t.applyAgents uuid4 tenantId applicationId state.agents permRows
    .ok (t, { tenantId, members, agents })

end Tables

end AuthzKit
