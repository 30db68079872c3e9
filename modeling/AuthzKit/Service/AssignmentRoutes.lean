import AuthzKit.Effects.Outcomes
import AuthzKit.Service.GrantPages
import AuthzKit.Storage.Assignments

/-!
The routes that assign roles and permissions by name: `POST .../memberships`, `PATCH
/v1/memberships/{id}` (`authz_service/api/policies.py`), `PUT /v1/agents/{id}/roles`
(`authz_service/api/agents.py`) and `PUT /v1/roles/{id}/permissions`
(`authz_service/api/roles.py`).

* `managedRole`, `managedAgent`, `managedMembership`: the row that a route writes, for a caller
  who may.
* `AssignmentRequest.assignment`: the assignment that a request comes to.
* `AssignmentRequest.handle`: the store after a request, and its answer.
* `assignments_notSilent_iff`: when no assignment succeeds silently, by operation and by route.
-/

namespace AuthzKit

open Keyed Links

/-! ### Rows under management -/

namespace ManagementGuard

/-- `application`. -/
def application (caller : String) (t : Tables) (ref : String) : Except HttpException Application :=
  match requireApplication t ref with
  | .error e => .error e
  | .ok app => check caller app

/-- `application_id`: the check of the application that an existing row belongs to. -/
def applicationId (caller : String) (t : Tables) (applicationId : Option Id) :
    Except HttpException Unit :=
  match (applicationId.filter (· ≠ "")).bind (lookup Application.id t.applications) with
  | none => .ok ()
  | some app => (check caller app).map fun _ => ()

end ManagementGuard

/-- A row that is there, whose application the caller may write. -/
def managedRow {α : Type} (caller : String) (t : Tables) (row : Option α) (missing : HttpException)
    (applicationId : α → Option Id) : Except HttpException α :=
  match row with
  | none => .error missing
  | some row => (ManagementGuard.applicationId caller t (applicationId row)).map fun _ => row

/-- `managed_role`. -/
def managedRole (caller : String) (t : Tables) (roleId : Id) : Except HttpException Role :=
  managedRow caller t (lookup Role.id t.roles roleId) ⟨404, [("reason", "role_not_found")]⟩
    Role.applicationId

/-- `managed_agent`. -/
def managedAgent (caller : String) (t : Tables) (agentId : Id) : Except HttpException Agent :=
  managedRow caller t (lookup Agent.id t.agents agentId) ⟨404, [("reason", "agent_not_found")]⟩
    fun agent => some agent.applicationId

/-- `managed_membership`. -/
def managedMembership (caller : String) (t : Tables) (membershipId : Id) :
    Except HttpException Membership :=
  managedRow caller t (lookup Membership.id t.memberships membershipId)
    ⟨404, [("reason", "membership_not_found")]⟩ Membership.applicationId

lemma managedRow_eq_ok {α : Type} {caller : String} {t : Tables} {row : Option α}
    {missing : HttpException} {applicationId : α → Option Id} {r : α}
    (h : managedRow caller t row missing applicationId = .ok r) : row = some r := by
  cases row with
  | none => cases h
  | some r' =>
      obtain ⟨_, -, rfl⟩ := map_eq_ok_iff.mp h
      rfl

/-! ### Requests and answers -/

/-- `MembershipIn`. -/
structure MembershipIn where
  userId : Id
  applicationId : Option String
  roles : List String
  status : String
deriving DecidableEq, Repr

/-- `MembershipPatch`. -/
structure MembershipPatch where
  roles : Option (List String)
  status : Option String
deriving DecidableEq, Repr

/-- A request of one of the four routes. -/
inductive AssignmentRequest where
  | createMembership (tenantId : String) (body : MembershipIn)
  | updateMembership (membershipId : Id) (body : MembershipPatch)
  | setAgentRoles (agentId : Id) (roles : List String)
  | setRolePermissions (roleId : Id) (permissions : List String)
deriving DecidableEq, Repr

/-- `MembershipOut`, and the answers of the other two routes. -/
inductive AssignmentOut where
  | membership (id tenantId : Id) (applicationId : Option Id) (userId : Id) (roles : List String)
      (status : String)
  | agentRoles (agentId : Id) (roles : List String)
  | rolePermissions (roleId : Id) (permissions : List String)
deriving DecidableEq, Repr

/-- What a route refuses with. -/
inductive AssignmentError where
  | http (e : HttpException)
  /-- `unknown_names` of `main.py`: a 422 whose detail has the code of the error, and the names
  under a key that says what they are. -/
  | unknownNames (error key : String) (names : List String)
deriving DecidableEq, Repr

/-- The answer to an exception of the store. -/
def AssignmentError.ofStore : StoreError → AssignmentError
  | .unknownNames kind names => .unknownNames ("unknown_" ++ kind) (kind ++ "s") names
  | _ => .http Service.internalServerError

/-- `_membership_application`: none for a tenant-wide membership. -/
def membershipApplication (caller : String) (t : Tables) (body : MembershipIn) :
    Except HttpException (Option Application) :=
  match body.applicationId.filter (· ≠ "") with
  | none => .ok none
  | some ref => (ManagementGuard.application caller t ref).map some

namespace AssignmentRequest

/-- What a request assigns, when the caller may: nothing if it only writes a status. -/
def assignment (oauthIssuer : String) (principal : Principal) (t : Tables) :
    AssignmentRequest → Except HttpException (Option Assignment)
  | createMembership tenantId body => do
      requireAdmin principal
      let caller := callerLabel oauthIssuer principal
      let app ← membershipApplication caller t body
      let tenant ← requireTenant t tenantId
      pure (some (.createMembership tenant.id (app.map Application.id) body.userId body.status
        body.roles.toFinset))
  | updateMembership membershipId body => do
      requireAdmin principal
      let _ ← managedMembership (callerLabel oauthIssuer principal) t membershipId
      pure (body.roles.map fun roles => .setMembershipRoles membershipId roles.toFinset)
  | setAgentRoles agentId roles => do
      requireAdmin principal
      let _ ← managedAgent (callerLabel oauthIssuer principal) t agentId
      pure (some (.setAgentRoles agentId roles.toFinset))
  | setRolePermissions roleId permissions => do
      requireAdmin principal
      let _ ← managedRole (callerLabel oauthIssuer principal) t roleId
      pure (some (.setRolePermissions roleId permissions.toFinset))

/-- The session before the assignment: `update_membership` commits the status first. -/
def writeStatus (s : SqlAlchemyStore) : AssignmentRequest → SqlAlchemyStore
  | updateMembership membershipId body =>
      s.after (s.transaction fun t => t.setMembershipStatus membershipId body.status)
  | _ => s

/-- A membership as the service shows it. -/
def membershipOut (t : Tables) (membershipId : Id) : Except AssignmentError AssignmentOut :=
  match lookup Membership.id t.memberships membershipId with
  | none => .error (.http Service.internalServerError)
  | some m =>
      .ok (.membership m.id m.tenantId m.applicationId m.userId
        ((t.membershipRoleNames m.id).sort (· ≤ ·)) m.status)

/-- The answer of a request that went through. -/
def out (t : Tables) (uuid4 : UuidSource) : AssignmentRequest → Except AssignmentError AssignmentOut
  | createMembership _ _ => membershipOut t (uuid4 .row)
  | updateMembership membershipId _ => membershipOut t membershipId
  | setAgentRoles agentId roles => .ok (.agentRoles agentId (roles.mergeSort fun a b => a ≤ b))
  | setRolePermissions roleId _ =>
      .ok (.rolePermissions roleId
        (((t.permissions.filter fun q => (roleId, q.id) ∈ t.rolePermissions).map
          Permission.name).mergeSort fun a b => a ≤ b))

/-- The store after a request, and its answer. -/
def handle (oauthIssuer : String) (principal : Principal) (s : SqlAlchemyStore)
    (uuid4 : UuidSource) (request : AssignmentRequest) :
    SqlAlchemyStore × Except AssignmentError AssignmentOut :=
  match request.assignment oauthIssuer principal s.tables with
  | .error e => (s, .error (.http e))
  | .ok a =>
      let s := request.writeStatus s
      match a with
      | none => (s, request.out s.tables uuid4)
      | some a =>
          match s.perform a.op uuid4 with
          | .error e => (s, .error (.ofStore e))
          | .ok s' => (s', request.out s'.tables uuid4)

/-- **No silent success of a request**: it is answered with the names that do not resolve, and
nothing is written, or the owner is linked to exactly one row for each name. -/
def NotSilent (oauthIssuer : String) (principal : Principal) (s : SqlAlchemyStore)
    (uuid4 : UuidSource) (a : Assignment) (request : AssignmentRequest) : Prop :=
  match request.handle oauthIssuer principal s uuid4 with
  | (s', .error e) =>
      (a.unknown s.tables).Nonempty ∧ s' = s ∧
        e = .unknownNames ("unknown_" ++ a.kind) (a.kind ++ "s")
          ((a.unknown s.tables).sort (· ≤ ·))
  | (s', .ok _) => a.LinkedExactly s.tables uuid4 s'.tables

/-! ### The assignment of a request -/

variable {oauthIssuer : String} {principal : Principal} {s : SqlAlchemyStore} {uuid4 : UuidSource}
  {a : Assignment} {request : AssignmentRequest}

/-- The row that the answer shows is there. -/
lemma membershipOut_isOk {t : Tables} {membershipId : Id}
    (h : membershipId ∈ t.memberships.map Membership.id) :
    ∃ out, membershipOut t membershipId = .ok out := by
  rw [membershipOut]
  cases hm : lookup Membership.id t.memberships membershipId with
  | none =>
      obtain ⟨m, hmem, hid⟩ := List.mem_map.mp h
      exact absurd hid (lookup_eq_none_iff.mp hm m hmem)
  | some m => exact ⟨_, rfl⟩

/-- **A request whose status is written by nobody is as silent as its assignment.** -/
lemma notSilent_iff_of_writeStatus
    (ha : request.assignment oauthIssuer principal s.tables = .ok (some a))
    (hstatus : request.writeStatus s = s)
    (hout : ∀ s', s.perform a.op uuid4 = .ok s' → ∃ out, request.out s'.tables uuid4 = .ok out) :
    request.NotSilent oauthIssuer principal s uuid4 a ↔ a.NotSilent s uuid4 := by
  rw [NotSilent, handle, ha]
  simp only [hstatus]
  cases hp : s.perform a.op uuid4 with
  | error e =>
      rw [Assignment.notSilent_of_error hp]
      refine and_congr_right fun _ => ?_
      simp only [true_and]
      constructor
      · intro he
        cases e with
        | unknownNames kind names =>
            simp only [AssignmentError.ofStore, AssignmentError.unknownNames.injEq,
              String.append_right_inj] at he
            rw [he.1, he.2.2]
        | _ => cases he
      · rintro rfl
        rfl
  | ok s' =>
      obtain ⟨out, hout⟩ := hout s' hp
      rw [Assignment.notSilent_of_ok hp]
      simp only [hout]

/-- Writing the status of a membership leaves what its role names resolve to. -/
lemma writeStatus_spec {membershipId : Id} (body : MembershipPatch) {m : Membership}
    (hm : lookup Membership.id s.tables.memberships membershipId = some m) :
    ∃ m', lookup Membership.id
        ((updateMembership membershipId body).writeStatus s).tables.memberships membershipId =
          some m' ∧
      m'.tenantId = m.tenantId ∧ m'.applicationId = m.applicationId ∧
      ((updateMembership membershipId body).writeStatus s).tables.roles = s.tables.roles := by
  rw [writeStatus]
  cases hw : s.transaction fun t => t.setMembershipStatus membershipId body.status with
  | error e => exact ⟨m, hm, rfl, rfl, rfl⟩
  | ok r =>
      have htables := (SqlAlchemyStore.transaction_eq_ok_iff.mp hw).2
      rw [Tables.setMembershipStatus, hm] at htables
      obtain ⟨ht, -⟩ := Prod.mk.inj (Except.ok.inj htables)
      rw [SqlAlchemyStore.after, ← ht]
      refine ⟨{ m with status := body.status.getD m.status }, ?_, rfl, rfl, rfl⟩
      rw [lookup_update, if_pos (key_of_lookup hm), hm, Option.map_some]

/-- What `PATCH /v1/memberships/{id}` assigns. -/
lemma of_updateMembership {membershipId : Id} {body : MembershipPatch}
    (ha : (updateMembership membershipId body).assignment oauthIssuer principal s.tables =
      .ok (some a)) :
    ∃ roles m, a = .setMembershipRoles membershipId roles ∧
      lookup Membership.id s.tables.memberships membershipId = some m := by
  rw [assignment] at ha
  obtain ⟨_, -, ha⟩ := bind_eq_ok_iff.mp ha
  obtain ⟨m, hm, ha⟩ := bind_eq_ok_iff.mp ha
  obtain ⟨roles, -, rfl⟩ := Option.map_eq_some_iff.mp (Except.ok.inj ha)
  exact ⟨_, m, rfl, managedRow_eq_ok hm⟩

/-- `PATCH /v1/memberships/{id}` drops the names it does not know. -/
lemma updateMembership_iff {membershipId : Id} {body : MembershipPatch}
    (ha : (updateMembership membershipId body).assignment oauthIssuer principal s.tables =
      .ok (some a)) :
    (updateMembership membershipId body).NotSilent oauthIssuer principal s uuid4 a ↔
      a.Resolves s := by
  obtain ⟨roles, m, rfl, hm⟩ := of_updateMembership ha
  obtain ⟨m', hm', htenant, happ, hroles⟩ := writeStatus_spec body hm
  generalize hs₁ : (updateMembership membershipId body).writeStatus s = s₁ at hm' hroles
  obtain ⟨⟨s', hp⟩, hiff⟩ :=
    Assignment.setMembershipRoles_present uuid4 roles hm'
  have htarget : ∀ n, (Assignment.setMembershipRoles membershipId roles).target s₁.tables n =
      (Assignment.setMembershipRoles membershipId roles).target s.tables n := by
    intro n
    simp only [Assignment.target, hm, hm', Option.bind_some, htenant, happ, Tables.assignableRole,
      Tables.assignableRoles, hroles]
  have hunknown : (Assignment.setMembershipRoles membershipId roles).unknown s₁.tables =
      (Assignment.setMembershipRoles membershipId roles).unknown s.tables := by
    simp only [Assignment.unknown, htarget]
  have hmemberships : s'.tables.memberships = s₁.tables.memberships := by
    have htables := (SqlAlchemyStore.perform_eq_ok_iff.mp hp).2
    rw [Assignment.op, Op.tables, Tables.setMembershipRoles, hm'] at htables
    rw [← Except.ok.inj htables]
  obtain ⟨out, hout⟩ : ∃ out, membershipOut s'.tables membershipId = .ok out := by
    refine membershipOut_isOk ?_
    rw [hmemberships]
    exact key_of_lookup hm' ▸ List.mem_map_of_mem (mem_of_lookup hm')
  rw [Assignment.Resolves, ← hunknown, ← hiff, Assignment.notSilent_of_ok hp, NotSilent, handle, ha]
  simp only [hs₁, hp, AssignmentRequest.out, hout, Assignment.LinkedExactly, htarget]
  rfl

/-- `POST .../memberships` drops the names it does not know. -/
lemma createMembership_iff {tenantId : String} {body : MembershipIn} {n : ℕ}
    (hf : Fresh uuid4 s.tables (Draw.Within n))
    (ha : (createMembership tenantId body).assignment oauthIssuer principal s.tables =
      .ok (some a)) :
    (createMembership tenantId body).NotSilent oauthIssuer principal s uuid4 a ↔
      a.Resolves s := by
  obtain ⟨tenant, app, rfl⟩ : ∃ tenant app, a = .createMembership tenant app body.userId body.status
      body.roles.toFinset := by
    have hassign := ha
    rw [assignment] at hassign
    obtain ⟨_, -, hassign⟩ := bind_eq_ok_iff.mp hassign
    obtain ⟨app, -, hassign⟩ := bind_eq_ok_iff.mp hassign
    obtain ⟨tenant, -, hassign⟩ := bind_eq_ok_iff.mp hassign
    exact ⟨_, _, (Option.some.inj (Except.ok.inj hassign)).symm⟩
  rw [notSilent_iff_of_writeStatus ha rfl fun s' hp => ?_, Assignment.createMembership_iff hf]
  have htables := (SqlAlchemyStore.perform_eq_ok_iff.mp hp).2
  rw [Assignment.createMembership_tables hf] at htables
  rw [out, ← Except.ok.inj htables]
  exact membershipOut_isOk (by simp)

/-- What `PUT /v1/agents/{id}/roles` and `PUT /v1/roles/{id}/permissions` assign is never
silent: their owner is there. -/
lemma notSilent_of_owner (hw : s.tables.WellFormed) {id : Id} {names : List String}
    (hrequest : request = setAgentRoles id names ∨ request = setRolePermissions id names)
    (ha : request.assignment oauthIssuer principal s.tables = .ok (some a)) :
    request.NotSilent oauthIssuer principal s uuid4 a ∧ a.Resolves s := by
  rcases hrequest with rfl | rfl
  · have hassign := ha
    rw [assignment] at hassign
    obtain ⟨_, -, hassign⟩ := bind_eq_ok_iff.mp hassign
    obtain ⟨agent, hagent, hassign⟩ := bind_eq_ok_iff.mp hassign
    obtain rfl := Option.some.inj (Except.ok.inj hassign)
    have hl := managedRow_eq_ok hagent
    have hresolves : (Assignment.setAgentRoles id names.toFinset).Resolves s :=
      Or.inl (key_of_lookup hl ▸ List.mem_map_of_mem (mem_of_lookup hl))
    refine ⟨?_, hresolves⟩
    rw [notSilent_iff_of_writeStatus ha rfl fun s' _ => ⟨_, rfl⟩, Assignment.setAgentRoles_iff hw]
    exact hresolves
  · have hassign := ha
    rw [assignment] at hassign
    obtain ⟨_, -, hassign⟩ := bind_eq_ok_iff.mp hassign
    obtain ⟨role, hrole, hassign⟩ := bind_eq_ok_iff.mp hassign
    obtain rfl := Option.some.inj (Except.ok.inj hassign)
    have hl := managedRow_eq_ok hrole
    have hresolves : (Assignment.setRolePermissions id names.toFinset).Resolves s :=
      Or.inl (key_of_lookup hl ▸ List.mem_map_of_mem (mem_of_lookup hl))
    refine ⟨?_, hresolves⟩
    rw [notSilent_iff_of_writeStatus ha rfl fun s' _ => ⟨_, rfl⟩,
      Assignment.setRolePermissions_iff hw]
    exact hresolves

/-- **When a request is not silent**: exactly when its assignment is not. -/
lemma notSilent_iff (hw : s.tables.WellFormed) (hf : Fresh uuid4 s.tables (Draw.Within 0))
    (ha : request.assignment oauthIssuer principal s.tables = .ok (some a)) :
    request.NotSilent oauthIssuer principal s uuid4 a ↔ a.Resolves s := by
  cases request with
  | createMembership tenantId body => exact createMembership_iff hf ha
  | updateMembership membershipId body => exact updateMembership_iff ha
  | setAgentRoles agentId roles =>
      obtain ⟨hlaw, hresolves⟩ := notSilent_of_owner hw (Or.inl rfl) ha
      exact iff_of_true hlaw hresolves
  | setRolePermissions roleId permissions =>
      obtain ⟨hlaw, hresolves⟩ := notSilent_of_owner hw (Or.inr rfl) ha
      exact iff_of_true hlaw hresolves

end AssignmentRequest

/-! ### Every reachable store -/

/-- **When no assignment of names succeeds silently**, in every reachable store: by operation, and
by the routes that call them. -/
theorem assignments_notSilent_iff {s : SqlAlchemyStore} (h : s.Reachable) {uuid4 : UuidSource}
    (hf : Fresh uuid4 s.tables (Draw.Within 0)) :
    (∀ a : Assignment, a.NotSilent s uuid4 ↔ a.Resolves s) ∧
      ∀ oauthIssuer principal (request : AssignmentRequest) a,
        request.assignment oauthIssuer principal s.tables = .ok (some a) →
        (request.NotSilent oauthIssuer principal s uuid4 a ↔ a.Resolves s) :=
  ⟨fun a => h.notSilent_iff a hf,
    fun _ _ _ _ ha => AssignmentRequest.notSilent_iff h.wellFormed hf ha⟩

/-- An agent is given a role that exists and one that does not, and a member a role that exists. -/
theorem assignments_notSilent_acme :
    (Assignment.setAgentRoles (SqlAlchemyStore.sampleIds 3 (.agent 0)) {"viewer", "ghost"}).NotSilent
        SqlAlchemyStore.acmeStore (SqlAlchemyStore.sampleIds 5) ∧
      (AssignmentRequest.updateMembership (SqlAlchemyStore.sampleIds 3 (.membership 0))
          ⟨some ["viewer"], none⟩).NotSilent "" (.apiKey "k" [scopeAdmin] none)
        SqlAlchemyStore.acmeStore (SqlAlchemyStore.sampleIds 5)
        (.setMembershipRoles (SqlAlchemyStore.sampleIds 3 (.membership 0)) {"viewer"}) :=
  have hf : Fresh (SqlAlchemyStore.sampleIds 5) SqlAlchemyStore.acmeStore.tables
      (Draw.Within 0) := by decide +kernel
  have h := assignments_notSilent_iff SqlAlchemyStore.acmeStore_reachable hf
  have hknown : (Assignment.setMembershipRoles (SqlAlchemyStore.sampleIds 3 (.membership 0))
      {"viewer"}).unknown SqlAlchemyStore.acmeStore.tables = ∅ := by decide +kernel
  ⟨(h.1 _).mpr (Or.inl (by decide +kernel)), (h.2 _ _ _ _ (by decide +kernel)).mpr hknown⟩

/-- A member's roles are replaced by a name that does not exist: the call returns, and the member
has no role left. -/
theorem setMembershipRoles_drops_unknown :
    SqlAlchemyStore.acmeStore.Reachable ∧
      Fresh (SqlAlchemyStore.sampleIds 5) SqlAlchemyStore.acmeStore.tables (Draw.Within 0) ∧
      ¬(Assignment.setMembershipRoles (SqlAlchemyStore.sampleIds 3 (.membership 0))
        {"ghost"}).NotSilent SqlAlchemyStore.acmeStore (SqlAlchemyStore.sampleIds 5) ∧
      (others SqlAlchemyStore.acmeStore.tables.membershipRoles
        (SqlAlchemyStore.sampleIds 3 (.membership 0))).card = 1 ∧
      others (SqlAlchemyStore.acmeStore.next
          (.setMembershipRoles (SqlAlchemyStore.sampleIds 3 (.membership 0)) {"ghost"})
          (SqlAlchemyStore.sampleIds 5)).tables.membershipRoles
        (SqlAlchemyStore.sampleIds 3 (.membership 0)) = ∅ := by
  refine ⟨SqlAlchemyStore.acmeStore_reachable, by decide +kernel, fun h => ?_, by decide +kernel,
    by decide +kernel⟩
  have hresolves := (Assignment.setMembershipRoles_iff
    SqlAlchemyStore.acmeStore_reachable.wellFormed).mp h
  have hunknown : (Assignment.setMembershipRoles (SqlAlchemyStore.sampleIds 3 (.membership 0))
      {"ghost"}).unknown SqlAlchemyStore.acmeStore.tables ≠ ∅ := by decide +kernel
  exact hunknown hresolves

end AuthzKit
