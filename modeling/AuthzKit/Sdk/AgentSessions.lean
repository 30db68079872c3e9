import AuthzKit.Agents.Resolver
import AuthzKit.Sdk.PythonStaleness
import AuthzKit.Service.Endpoints

/-!
Agent runs over the Python client (`authz_sdk/agent_session.py`): a session takes a snapshot of the
permissions when it starts and asks the service again for critical actions only.

A runtime holds one client and its sessions; between its calls the service changes in any way, and a
request may not reach it.

* `Link`: what a request of the client meets; `Link.Allows` is what the service behind it allows.
* `AgentSession.require`: the guard of a session with its hook.
* `startAgentSession`, `startDelegatedAgentSession`: how a session starts, the second from the
  claims of a grant that nobody has verified.
* `AgentRuntime.Opened`: where a session of a run comes from.
* `session_permits`: what a session permits, and how old that is.
-/

namespace AuthzKit

namespace Sdk

namespace Python

open Caching

/-! ### Requests -/

/-- What a request of the client meets: nothing, an error in front of the endpoint, or the service
as it is then, and the principal of the client's key. -/
inductive Link where
  | down
  | refused (statusCode : ℕ)
  | up (service : Service) (principal : Principal)

/-- The body of a user reference; an empty column is refused. -/
def UserRef.validated (ref : UserRef) : Option UserRefSchema :=
  if h : ref.provider ≠ "" ∧ ref.issuer ≠ "" ∧ ref.subject ≠ "" then
    some ⟨ref.provider, ref.issuer, ref.subject, h.1, h.2.1, h.2.2⟩
  else none

/-- The body of a subject (`to_dict`) as the service validates it. -/
def Subject.validated (s : Subject) : Option SubjectSchema :=
  let withRef (userRef : Option UserRefSchema) : Option SubjectSchema :=
    if h : (s.userId = none ∨ userRef = none) ∧ (s.agentId = none ∨ s.agentName = none) then
      some
        { type := s.type
          userId := s.userId
          userRef
          agentId := s.agentId
          agentName := s.agentName
          serviceAccountId := s.serviceAccountId
          oneUser := h.1
          oneAgent := h.2 }
    else none
  match s.userRef with
  | none => withRef none
  | some ref => ref.validated.bind fun ref => withRef (some ref)

namespace Link

variable (link : Link)

/-- The service behind the gate of the runtime surface. -/
def reach : Except ClientError (Service × Principal) :=
  match link with
  | .down => .error .transport
  | .refused statusCode => .error (.serviceError statusCode)
  | .up service principal =>
      match requireRuntime principal with
      | .error e => .error (.serviceError e.statusCode)
      | .ok () => .ok (service, principal)

/-- A request about a subject, to an endpoint. -/
def send {α : Type} (subject : Subject)
    (endpoint : Service → Principal → SubjectSchema → Except HttpException α) :
    Except ClientError α :=
  match link.reach with
  | .error e => .error e
  | .ok (service, principal) =>
      match subject.validated with
      | none => .error (.serviceError 422)
      | some subject =>
          match endpoint service principal subject with
          | .error e => .error (.serviceError e.statusCode)
          | .ok answer => .ok answer

/-- `_post("v1/effective-permissions", …)`. -/
def post : Post := fun wire =>
  (link.send wire.subject fun service principal subject =>
    service.effectivePermissions principal ⟨wire.tenantId, wire.applicationId, subject⟩
      wire.delegationToken).map fun answer => answer.permissions.toFinset

/-- `authorize`. -/
def authorize (wire : Wire) (resource action : String) : Except ClientError Bool :=
  (link.send wire.subject fun service principal subject =>
    service.authorize principal ⟨wire.tenantId, wire.applicationId, subject, resource, action, []⟩
      wire.delegationToken).map fun answer => answer.allowed

/-- What is raised for a body without a tenant or an application. -/
def invalidBody : ClientError :=
  match link.reach with
  | .error e => e
  | .ok _ => .serviceError 422

/-- The service allows a request a permission. -/
def Allows (wire : Wire) (p : String) : Prop :=
  ∃ service principal subject, link = .up service principal ∧
    wire.subject.validated = some subject ∧
    Service.Admits principal (service.refs wire.tenantId wire.applicationId subject).tenantId ∧
    p ∈ service.allowedSet wire.tenantId wire.applicationId subject wire.delegationToken

/-- The token of a request verified to a grant that binds it and has the permission. -/
def Binds (wire : Wire) (token p : String) : Prop :=
  ∃ service principal subject grant, link = .up service principal ∧
    wire.subject.validated = some subject ∧
    service.Binds wire.tenantId wire.applicationId subject token grant p

variable {link} {wire : Wire} {resource action p : String}

lemma reach_eq_ok {service : Service} {principal : Principal}
    (h : link.reach = .ok (service, principal)) :
    link = .up service principal ∧ requireRuntime principal = .ok () := by
  cases link with
  | down => cases h
  | refused statusCode => cases h
  | up service' principal' =>
      simp only [reach] at h
      split at h
      · cases h
      · rename_i hruntime
        obtain ⟨rfl, rfl⟩ := Prod.mk.inj (Except.ok.inj h)
        exact ⟨rfl, hruntime⟩

lemma reach_up {service : Service} {principal : Principal}
    (h : requireRuntime principal = .ok ()) :
    (Link.up service principal).reach = .ok (service, principal) := by
  simp only [reach, h]

/-- A request that is answered reached the endpoint, with a valid body. -/
lemma send_eq_ok {α : Type} {subject : Subject}
    {endpoint : Service → Principal → SubjectSchema → Except HttpException α} {answer : α}
    (h : link.send subject endpoint = .ok answer) :
    ∃ service principal subject', link = .up service principal ∧
      subject.validated = some subject' ∧ endpoint service principal subject' = .ok answer := by
  rw [send] at h
  split at h
  · cases h
  · rename_i service principal hreach
    split at h
    · cases h
    · rename_i subject' hsubject
      split at h
      · cases h
      · rename_i answer' hanswer
        exact ⟨service, principal, subject', (reach_eq_ok hreach).1, hsubject,
          Except.ok.inj h ▸ hanswer⟩

lemma send_up {α : Type} {service : Service} {principal : Principal} {subject : Subject}
    {subject' : SubjectSchema} (hruntime : requireRuntime principal = .ok ())
    (hsubject : subject.validated = some subject')
    (endpoint : Service → Principal → SubjectSchema → Except HttpException α) :
    (Link.up service principal).send subject endpoint =
      match endpoint service principal subject' with
      | .error e => .error (.serviceError e.statusCode)
      | .ok answer => .ok answer := by
  simp only [send, reach_up hruntime, hsubject]

/-- **The list the client is answered** has what the service allows. -/
lemma mem_of_post_eq_ok {permissions : Finset String} (h : link.post wire = .ok permissions) :
    p ∈ permissions ↔ link.Allows wire p := by
  rw [post] at h
  cases hsend : link.send wire.subject fun service principal subject =>
      service.effectivePermissions principal ⟨wire.tenantId, wire.applicationId, subject⟩
        wire.delegationToken with
  | error e =>
      rw [hsend] at h
      cases h
  | ok answer =>
      rw [hsend] at h
      obtain rfl := Except.ok.inj h
      obtain ⟨service, principal, subject, rfl, hsubject, hanswer⟩ := send_eq_ok hsend
      have hadmits := service.admits_of_effectivePermissions hanswer
      have hlist : p ∈ answer.permissions ↔
          p ∈ service.allowedSet wire.tenantId wire.applicationId subject wire.delegationToken := by
        rcases service.effectivePermissions_of_admits _ wire.delegationToken hadmits with
          ⟨answer', hanswer', hlist⟩ | ⟨reason, hreason, -⟩
        · rw [Except.ok.inj (hanswer.symm.trans hanswer')]
          exact hlist p
        · cases hanswer.symm.trans hreason
      rw [List.mem_toFinset, hlist]
      constructor
      · intro hp
        exact ⟨service, principal, subject, rfl, hsubject, hadmits, hp⟩
      · rintro ⟨service', principal', subject', hlink, hsubject', -, hp⟩
        obtain ⟨rfl, rfl⟩ := Link.up.inj hlink
        obtain rfl := Option.some.inj (hsubject.symm.trans hsubject')
        exact hp

/-- **The consent the client is given** is what the service allows. -/
lemma authorize_eq_ok_true_iff :
    link.authorize wire resource action = .ok true ↔
      link.Allows wire (permissionName resource action) := by
  rw [authorize]
  constructor
  · intro h
    cases hsend : link.send wire.subject fun service principal subject =>
        service.authorize principal
          ⟨wire.tenantId, wire.applicationId, subject, resource, action, []⟩
          wire.delegationToken with
    | error e =>
        rw [hsend] at h
        cases h
    | ok answer =>
        rw [hsend] at h
        obtain ⟨service, principal, subject, rfl, hsubject, hanswer⟩ := send_eq_ok hsend
        have hadmits := service.admits_of_authorize hanswer
        obtain ⟨answer', hanswer', hallowed⟩ :=
          service.authorize_of_admits _ wire.delegationToken hadmits
        rw [Except.ok.inj (hanswer.symm.trans hanswer')] at h
        exact ⟨service, principal, subject, rfl, hsubject, hadmits,
          hallowed.mp (Except.ok.inj h)⟩
  · rintro ⟨service, principal, subject, rfl, hsubject, hadmits, hp⟩
    obtain ⟨answer, hanswer, hallowed⟩ := service.authorize_of_admits
      ⟨wire.tenantId, wire.applicationId, subject, resource, action, []⟩ wire.delegationToken
      hadmits
    rw [send_up hadmits.1 hsubject]
    simp only [hanswer, Except.map, hallowed.mpr hp]

/-- What is allowed under a token, a grant behind the token binds. -/
lemma Allows.binds {token : String} (h : link.Allows wire p)
    (htoken : wire.delegationToken = some token) (hne : token ≠ "") : link.Binds wire token p := by
  obtain ⟨service, principal, subject, rfl, hsubject, -, hp⟩ := h
  rw [htoken] at hp
  obtain ⟨grant, hbinds, -⟩ := service.allowedSet_narrows hne hp
  exact ⟨service, principal, subject, grant, rfl, hsubject, hbinds⟩

end Link

/-! ### Sessions -/

/-- The guard a session is: its snapshot, and the request its hook sends. -/
structure AgentSession where
  request : Request
  agentRole : String
  permissions : Finset String
  criticalActions : Finset String
deriving DecidableEq

/-- What a session raises. -/
inductive SessionError where
  /-- `jwt.decode` raises -/
  | undecodable
  | client (e : ClientError)
  | denied (e : PermissionDenied)
deriving DecidableEq, Repr

namespace AgentSession

variable (session : AgentSession)

/-- The context of a session; a user or an agent nobody named is empty. -/
def context : AgentContext where
  tenantId := session.request.tenantId
  applicationId := session.request.applicationId
  userId := session.request.subject.userId.getD ""
  userRoles := ∅
  userPermissions := ∅
  agentId := session.request.subject.agentId.getD ""
  agentRole := session.agentRole
  agentPermissions := ∅
  effectivePermissions := session.permissions

/-- `is_allowed`. -/
def isAllowed (resource action : String) : Bool :=
  decide (permissionName resource action ∈ session.permissions)

/-- `require`, with the hook of the session: a critical action is asked for again. -/
def require (link : Link) (resource action : String) (critical : Bool) :
    Except SessionError Unit :=
  let permission := permissionName resource action
  if permission ∉ session.permissions then
    .error (.denied ⟨permission, "Permission denied: " ++ permission⟩)
  else if critical || decide (permission ∈ session.criticalActions) then
    match link.authorize session.request.wire resource action with
    | .error e => .error (.client e)
    | .ok allowed =>
        if allowed then .ok () else .error (.denied ⟨permission, "revalidation denied"⟩)
  else .ok ()

variable {session} {link : Link} {resource action : String} {critical : Bool}

/-- **What a session permits**: what its snapshot has and, of a critical action, what the service
allows it now. -/
lemma require_eq_ok_iff :
    session.require link resource action critical = .ok () ↔
      permissionName resource action ∈ session.permissions ∧
        (critical = true ∨ permissionName resource action ∈ session.criticalActions →
          link.Allows session.request.wire (permissionName resource action)) := by
  rw [require, ← Link.authorize_eq_ok_true_iff]
  by_cases hmem : permissionName resource action ∈ session.permissions
  · simp only [hmem, not_true_eq_false, if_false, true_and, Bool.or_eq_true, decide_eq_true_eq]
    by_cases hcritical : critical = true ∨ permissionName resource action ∈ session.criticalActions
    · simp only [hcritical, if_true, true_implies]
      rcases link.authorize session.request.wire resource action with e | _ | _
      · simp
      · simp
      · simp
    · simp [hcritical]
  · simp [hmem]

end AgentSession

/-- The circumstances of a call: what its request meets, and the times it looks the cache up and
stores the answer. -/
structure Moment where
  link : Link
  start : ℚ
  finish : ℚ

/-- `delegation_claims`, as far as a session reads it. -/
structure UnverifiedClaims where
  tenantId : Option String
  applicationId : Option String
  userId : Option Id
  agentId : Option Id

/-- The request of a session. -/
def sessionRequest (tenantId applicationId : String) (userId agentId : Option Id)
    (delegationToken : Option String) : Request where
  tenantId
  applicationId
  subject := ⟨subjectAgent, userId, agentId, none, none, none⟩
  delegationToken

section Start

-- `jwt.decode` without the signature, none where it raises
variable (options : Options) (decode : String → Option UnverifiedClaims)

/-- The permissions of a session that starts. -/
def Moment.preload (moment : Moment) (request : Request) (c : Cache) :
    Except ClientError (Finset String) × Cache :=
  fetchEffectivePermissions options moment.link.post request ⟨false, moment.start, moment.finish⟩ c

/-- `start_agent_session`. -/
def startAgentSession (moment : Moment) (tenantId applicationId : String)
    (userId agentId : Option Id) (agentRole : String) (criticalActions : Finset String)
    (delegationToken : Option String) (c : Cache) : Except SessionError AgentSession × Cache :=
  let request := sessionRequest tenantId applicationId userId agentId delegationToken
  match moment.preload options request c with
  | (.error e, c) => (.error (.client e), c)
  | (.ok permissions, c) => (.ok ⟨request, agentRole, permissions, criticalActions⟩, c)

/-- `start_delegated_agent_session`; a body without a tenant or an application is refused. -/
def startDelegatedAgentSession (moment : Moment) (delegationToken agentRole : String)
    (criticalActions : Finset String) (c : Cache) : Except SessionError AgentSession × Cache :=
  match decode delegationToken with
  | none => (.error .undecodable, c)
  | some claims =>
      match claims.tenantId, claims.applicationId with
      | some tenantId, some applicationId =>
          startAgentSession options moment tenantId applicationId claims.userId claims.agentId
            agentRole criticalActions (some delegationToken) c
      | _, _ => (.error (.client moment.link.invalidBody), c)

end Start

/-! ### A runtime -/

/-- A client and the sessions started over it. -/
structure AgentRuntime where
  cache : Cache
  sessions : List AgentSession

/-- What the code of an agent does; a session is named by its number. -/
inductive AgentCall where
  | start (tenantId applicationId : String) (userId agentId : Id) (agentRole : String)
      (criticalActions : Finset String) (delegationToken : Option String)
  | startDelegated (delegationToken agentRole : String) (criticalActions : Finset String)
  | isAllowed (session : ℕ) (resource action : String)
  | require (session : ℕ) (resource action : String) (critical : Bool)
  | getEffectivePermissions (request : Request) (bypassCache : Bool)
  | invalidate (tenantId applicationId : Option String)

inductive AgentAnswer where
  | started (session : ℕ)
  | raised (e : SessionError)
  | allowed (value : Bool)
  | permitted
  | permissions (permissions : Finset String)
  | none
deriving DecidableEq

namespace AgentRuntime

section Step

variable (options : Options) (decode : String → Option UnverifiedClaims) (runtime : AgentRuntime)

/-- A session that was asked for, kept where it started. -/
def opened : Except SessionError AgentSession × Cache → AgentAnswer × AgentRuntime
  | (.error e, cache) => (.raised e, ⟨cache, runtime.sessions⟩)
  | (.ok session, cache) =>
      (.started runtime.sessions.length, ⟨cache, runtime.sessions ++ [session]⟩)

/-- A call and what it leaves. -/
def step (moment : Moment) : AgentCall → AgentAnswer × AgentRuntime
  | .start tenantId applicationId userId agentId agentRole criticalActions token =>
      runtime.opened (startAgentSession options moment tenantId applicationId (some userId)
        (some agentId) agentRole criticalActions token runtime.cache)
  | .startDelegated token agentRole criticalActions =>
      runtime.opened (startDelegatedAgentSession options decode moment token agentRole
        criticalActions runtime.cache)
  | .isAllowed session resource action =>
      match runtime.sessions[session]? with
      | none => (.none, runtime)
      | some session => (.allowed (session.isAllowed resource action), runtime)
  | .require session resource action critical =>
      match runtime.sessions[session]? with
      | none => (.none, runtime)
      | some session =>
          match session.require moment.link resource action critical with
          | .error e => (.raised e, runtime)
          | .ok () => (.permitted, runtime)
  | .getEffectivePermissions request bypassCache =>
      match fetchEffectivePermissions options moment.link.post request
          ⟨bypassCache, moment.start, moment.finish⟩ runtime.cache with
      | (.error e, cache) => (.raised (.client e), ⟨cache, runtime.sessions⟩)
      | (.ok permissions, cache) => (.permissions permissions, ⟨cache, runtime.sessions⟩)
  | .invalidate tenantId applicationId =>
      (.none, ⟨runtime.cache.cacheInvalidate tenantId applicationId, runtime.sessions⟩)

end Step

variable (options : Options) (decode : String → Option UnverifiedClaims)
  (calls : ℕ → AgentCall × Moment)

/-- The runtime at each moment of a run. -/
def states : ℕ → AgentRuntime :=
  timeline (fun runtime call => (runtime.step options decode call.2 call.1).2) ⟨[], []⟩ calls

/-- The answers of a run. -/
def answers (i : ℕ) : AgentAnswer :=
  ((states options decode calls i).step options decode (calls i).2 (calls i).1).1

end AgentRuntime

/-- The session a call asks for: its request, its role and its critical actions. -/
def AgentCall.opens (decode : String → Option UnverifiedClaims) :
    AgentCall → Option (Request × String × Finset String)
  | .start tenantId applicationId userId agentId agentRole criticalActions token =>
      some (sessionRequest tenantId applicationId (some userId) (some agentId) token, agentRole,
        criticalActions)
  | .startDelegated token agentRole criticalActions =>
      (decode token).bind fun claims => claims.tenantId.bind fun tenantId =>
        claims.applicationId.map fun applicationId =>
          (sessionRequest tenantId applicationId claims.userId claims.agentId (some token),
            agentRole, criticalActions)
  | _ => none

/-- The call as a use of the client. -/
def AgentCall.use (decode : String → Option UnverifiedClaims) (moment : Moment)
    (call : AgentCall) : Use :=
  match call.opens decode, call with
  | some (request, _, _), _ =>
      .call moment.link.post request ⟨false, moment.start, moment.finish⟩
  | none, .getEffectivePermissions request bypassCache =>
      .call moment.link.post request ⟨bypassCache, moment.start, moment.finish⟩
  | none, .invalidate tenantId applicationId => .invalidate tenantId applicationId
  | none, _ => .other

namespace AgentRuntime

variable {options : Options} {decode : String → Option UnverifiedClaims}
  {calls : ℕ → AgentCall × Moment} {runtime : AgentRuntime}

lemma use_of_opens {moment : Moment} {call : AgentCall} {request : Request} {agentRole : String}
    {criticalActions : Finset String}
    (h : call.opens decode = some (request, agentRole, criticalActions)) :
    call.use decode moment =
      .call moment.link.post request ⟨false, moment.start, moment.finish⟩ := by
  simp only [AgentCall.use, h]

/-- **A call that asks for a session** opens it where its permissions can be had. -/
lemma step_opens {moment : Moment} {call : AgentCall} {request : Request} {agentRole : String}
    {criticalActions : Finset String}
    (h : call.opens decode = some (request, agentRole, criticalActions)) :
    runtime.step options decode moment call =
      runtime.opened (match moment.preload options request runtime.cache with
        | (.error e, c) => (.error (.client e), c)
        | (.ok permissions, c) => (.ok ⟨request, agentRole, permissions, criticalActions⟩, c)) := by
  cases call with
  | start tenantId applicationId userId agentId agentRole' criticalActions' token =>
      obtain ⟨rfl, hrest⟩ := Prod.mk.inj (Option.some.inj h)
      obtain ⟨rfl, rfl⟩ := Prod.mk.inj hrest
      rfl
  | startDelegated token agentRole' criticalActions' =>
      obtain ⟨claims, hclaims, h⟩ := Option.bind_eq_some_iff.mp h
      obtain ⟨tenantId, htenant, h⟩ := Option.bind_eq_some_iff.mp h
      obtain ⟨applicationId, happlication, h⟩ := Option.map_eq_some_iff.mp h
      obtain ⟨rfl, hrest⟩ := Prod.mk.inj h
      obtain ⟨rfl, rfl⟩ := Prod.mk.inj hrest
      simp only [step, startDelegatedAgentSession, hclaims, htenant, happlication]
      rfl
  | isAllowed session resource action => cases h
  | require session resource action critical => cases h
  | getEffectivePermissions request bypassCache => cases h
  | invalidate tenantId applicationId => cases h

/-- Claims that name no tenant or no application start no session. -/
lemma startDelegated_of_opens_none (options : Options) (moment : Moment) (c : Cache)
    {token agentRole : String} {criticalActions : Finset String}
    (h : (AgentCall.startDelegated token agentRole criticalActions).opens decode = none) :
    ∃ e, startDelegatedAgentSession options decode moment token agentRole criticalActions c =
      (.error e, c) := by
  rw [startDelegatedAgentSession]
  cases hclaims : decode token with
  | none => exact ⟨_, rfl⟩
  | some claims =>
      cases htenant : claims.tenantId with
      | none =>
          simp only [htenant]
          exact ⟨_, rfl⟩
      | some tenantId =>
          cases happlication : claims.applicationId with
          | none =>
              simp only [htenant, happlication]
              exact ⟨_, rfl⟩
          | some applicationId =>
              simp [AgentCall.opens, hclaims, htenant, happlication] at h

/-- A requirement leaves the runtime as it is. -/
lemma step_require {moment : Moment} {k : ℕ} {resource action : String} {critical : Bool} :
    (runtime.step options decode moment (.require k resource action critical)).2 = runtime := by
  simp only [step]
  cases runtime.sessions[k]? with
  | none => rfl
  | some session =>
      dsimp only
      cases session.require moment.link resource action critical with
      | error e => rfl
      | ok _ => rfl

/-- Any other call opens none. -/
lemma sessions_step_of_opens_none {moment : Moment} {call : AgentCall}
    (h : call.opens decode = none) :
    (runtime.step options decode moment call).2.sessions = runtime.sessions := by
  cases call with
  | start tenantId applicationId userId agentId agentRole criticalActions token => cases h
  | startDelegated token agentRole criticalActions =>
      obtain ⟨e, he⟩ := startDelegated_of_opens_none options moment runtime.cache h
      simp only [step, he]
      rfl
  | isAllowed session resource action =>
      simp only [step]
      cases runtime.sessions[session]? <;> rfl
  | require session resource action critical => rw [step_require]
  | getEffectivePermissions request bypassCache =>
      simp only [step]
      rcases fetchEffectivePermissions options moment.link.post request
        ⟨bypassCache, moment.start, moment.finish⟩ runtime.cache with ⟨_ | permissions, c⟩ <;> rfl
  | invalidate tenantId applicationId => rfl

lemma cache_opened (opening : Except SessionError AgentSession × Cache) :
    (runtime.opened opening).2.cache = opening.2 := by
  rcases opening with ⟨_ | session, c⟩ <;> rfl

/-- **The cache of a runtime** is that of its client. -/
lemma cache_step {moment : Moment} {call : AgentCall} :
    (runtime.step options decode moment call).2.cache =
      (call.use decode moment).act options runtime.cache := by
  cases hopens : call.opens decode with
  | some opening =>
      obtain ⟨request, agentRole, criticalActions⟩ := opening
      rw [step_opens hopens, cache_opened, use_of_opens hopens]
      simp only [Use.act, Moment.preload]
      rcases fetchEffectivePermissions options moment.link.post request
        ⟨false, moment.start, moment.finish⟩ runtime.cache with ⟨_ | permissions, c⟩ <;> rfl
  | none =>
      cases call with
      | start tenantId applicationId userId agentId agentRole criticalActions token => cases hopens
      | startDelegated token agentRole criticalActions =>
          obtain ⟨e, he⟩ := startDelegated_of_opens_none options moment runtime.cache hopens
          simp only [step, he, AgentCall.use, hopens]
          rfl
      | isAllowed session resource action =>
          simp only [step]
          cases runtime.sessions[session]? <;> rfl
      | require session resource action critical =>
          rw [step_require]
          rfl
      | getEffectivePermissions request bypassCache =>
          simp only [step, AgentCall.use, hopens, Use.act]
          rcases fetchEffectivePermissions options moment.link.post request
            ⟨bypassCache, moment.start, moment.finish⟩ runtime.cache with ⟨_ | permissions, c⟩ <;>
            rfl
      | invalidate tenantId applicationId => rfl

variable (decode calls) in
/-- The run as a history of the client. -/
abbrev uses (i : ℕ) : Use := (calls i).1.use decode (calls i).2

lemma cache_states (i : ℕ) :
    (states options decode calls i).cache = caches options (uses decode calls) i := by
  induction i with
  | zero => rfl
  | succ i ih =>
      rw [states, timeline_succ, ← states, cache_step, ih, caches, timeline_succ]

/-! ### Where a session comes from -/

variable (options decode calls) in
/-- A session was opened by a call of the run. -/
structure Opened (j : ℕ) (session : AgentSession) : Prop where
  asked : (calls j).1.opens decode =
    some (session.request, session.agentRole, session.criticalActions)
  fetched : ((calls j).2.preload options session.request
    (states options decode calls j).cache).1 = .ok session.permissions

/-- **A session of a run was opened** by an earlier call. -/
theorem opened_of_mem {i : ℕ} {session : AgentSession}
    (h : session ∈ (states options decode calls i).sessions) :
    ∃ j < i, Opened options decode calls j session := by
  induction i with
  | zero => exact absurd h List.not_mem_nil
  | succ i ih =>
      have hearlier : session ∈ (states options decode calls i).sessions →
          ∃ j < i + 1, Opened options decode calls j session := by
        intro hmem
        obtain ⟨j, hlt, hopened⟩ := ih hmem
        exact ⟨j, Nat.lt_succ_of_lt hlt, hopened⟩
      rw [states, timeline_succ, ← states] at h
      cases hopens : (calls i).1.opens decode with
      | none =>
          rw [sessions_step_of_opens_none hopens] at h
          exact hearlier h
      | some opening =>
          obtain ⟨request, agentRole, criticalActions⟩ := opening
          rw [step_opens hopens] at h
          cases hfetch : (calls i).2.preload options request
              (states options decode calls i).cache with
          | mk fetched c =>
              rw [hfetch] at h
              cases fetched with
              | error e => exact hearlier h
              | ok permissions =>
                  rcases List.mem_append.mp h with h | h
                  · exact hearlier h
                  · obtain rfl := List.mem_singleton.mp h
                    exact ⟨i, Nat.lt_succ_self i, hopens, congrArg Prod.fst hfetch⟩

/-- A use that asks sends its request over the link of its moment. -/
lemma link_of_use {m : ℕ} {post : Post} {r : Request} {t : Timing}
    (h : uses decode calls m = .call post r t) :
    post = (calls m).2.link.post ∧ t.finish = (calls m).2.finish := by
  unfold uses AgentCall.use at h
  split at h
  · obtain ⟨rfl, -, rfl⟩ := Use.call.inj h
    exact ⟨rfl, rfl⟩
  · obtain ⟨rfl, -, rfl⟩ := Use.call.inj h
    exact ⟨rfl, rfl⟩
  · cases h
  · cases h

/-- **A snapshot is what the service allowed** when the session started or, where the cache had it,
less than the lifetime of an entry before. -/
lemma Opened.source {j : ℕ} {session : AgentSession} (h : Opened options decode calls j session)
    (hkeys : options.cacheTtl ≤ 0 ∨
      Separates (cacheKey options.isPrintable options.digest) Request.wire
        {r | ∃ i post t, uses decode calls i = .call post r t}) :
    ∃ m ≤ j, (m = j ∨ (calls j).2.start < (calls m).2.finish + options.cacheTtl) ∧
      ∀ p, p ∈ session.permissions ↔ (calls m).2.link.Allows session.request.wire p := by
  have hfetched := h.fetched
  rw [Moment.preload, fetch_fst, cache_states] at hfetched
  cases hcached : (cached options session.request ⟨false, (calls j).2.start, (calls j).2.finish⟩
      (caches options (uses decode calls) j)).1 with
  | none =>
      rw [hcached] at hfetched
      exact ⟨j, le_rfl, Or.inl rfl, fun p => Link.mem_of_post_eq_ok hfetched⟩
  | some permissions =>
      rw [hcached] at hfetched
      obtain ⟨hon, -, entry, m, hstored, rfl, post, r, t, huse, hkey, hpost, hfresh⟩ :=
        cached_source hcached
      obtain ⟨rfl, hfinish⟩ := link_of_use huse
      have hseparates := hkeys.resolve_left (not_le.mpr hon)
      have hwire : r.wire = session.request.wire :=
        hseparates r ⟨m, _, _, huse⟩ session.request ⟨j, _, _, use_of_opens h.asked⟩ hkey
      refine ⟨m, hstored.lt.le, Or.inr (hfinish ▸ hfresh), fun p => ?_⟩
      rw [← Except.ok.inj hfetched, ← hwire]
      exact Link.mem_of_post_eq_ok hpost

/-- A requirement permits what its session does. -/
lemma answers_require {i k : ℕ} {session : AgentSession} {resource action : String}
    {critical : Bool} {moment : Moment}
    (hcall : calls i = (.require k resource action critical, moment))
    (hsession : (states options decode calls i).sessions[k]? = some session) :
    answers options decode calls i = .permitted ↔
      session.require moment.link resource action critical = .ok () := by
  rw [answers, hcall]
  simp only [step, hsession]
  cases session.require moment.link resource action critical with
  | error e => simp
  | ok _ => simp

/-- **What a session permits, and how old that is**: in every run of a runtime, over any service at
each moment and however the unverified claims read, a session permits exactly what the service
allowed its request at some moment, when the session started or less than the lifetime of an entry
before, and of a critical action what it also allows now. Under a token, a grant that verified then
has the permission and binds the request, and of a critical action one that verifies now. -/
theorem session_permits (options : Options) (decode : String → Option UnverifiedClaims)
    (calls : ℕ → AgentCall × Moment)
    (hkeys : options.cacheTtl ≤ 0 ∨
      Separates (cacheKey options.isPrintable options.digest) Request.wire
        {r | ∃ i post t, uses decode calls i = .call post r t})
    {i k : ℕ} {session : AgentSession} {resource action : String} {critical : Bool}
    {moment : Moment} (hcall : calls i = (.require k resource action critical, moment))
    (hsession : (states options decode calls i).sessions[k]? = some session) :
    let wire := session.request.wire
    let p := permissionName resource action
    ∃ j < i, ∃ m ≤ j,
      (calls j).1.opens decode =
        some (session.request, session.agentRole, session.criticalActions) ∧
      (m = j ∨ (calls j).2.start < (calls m).2.finish + options.cacheTtl) ∧
      (answers options decode calls i = .permitted ↔
        (calls m).2.link.Allows wire p ∧
          (critical = true ∨ p ∈ session.criticalActions → moment.link.Allows wire p)) ∧
      ∀ token, wire.delegationToken = some token → answers options decode calls i = .permitted →
        (calls m).2.link.Binds wire token p ∧
          (critical = true ∨ p ∈ session.criticalActions → moment.link.Binds wire token p) := by
  intro wire p
  obtain ⟨j, hlt, hopened⟩ := opened_of_mem (List.mem_of_getElem? hsession)
  obtain ⟨m, hle, hrecent, hsnapshot⟩ := hopened.source hkeys
  have hpermitted : answers options decode calls i = .permitted ↔
      (calls m).2.link.Allows wire p ∧
        (critical = true ∨ p ∈ session.criticalActions → moment.link.Allows wire p) := by
    rw [answers_require hcall hsession, AgentSession.require_eq_ok_iff, hsnapshot]
  refine ⟨j, hlt, m, hle, hopened.asked, hrecent, hpermitted, fun token htoken hanswer => ?_⟩
  have hne : token ≠ "" := by
    have hfilter : session.request.delegationToken.filter (· ≠ "") = some token := htoken
    exact of_decide_eq_true (Option.filter_eq_some_iff.mp hfilter).2
  obtain ⟨hthen, hnow⟩ := hpermitted.mp hanswer
  exact ⟨hthen.binds htoken hne, fun hcritical => (hnow hcritical).binds htoken hne⟩

/-! ### A session that outlives its grant -/

section Examples

open SqlAlchemyStore

/-- The claims of the grant, as they stand in its token. -/
def readOpenly (token : String) : Option UnverifiedClaims :=
  if token = "grant" then
    some ⟨some (sampleIds 0 .row), some (sampleIds 1 .application), some (sampleIds 3 (.user 0)),
      some (sampleIds 3 (.agent 0))⟩
  else none

/-- The service once the grant is revoked. -/
def grantRevoked : Service :=
  { Service.acmeService with
    store := acmeStore.run [(.revokeGrant 50 (sampleIds 4 .row), sampleIds 5)] }

/-- A session starts from its grant and reads a deal three times: as a critical action, without the
service, and as a critical action again once the grant is revoked. -/
def readsDeals : ℕ → AgentCall × Moment
  | 0 => (.startDelegated "grant" "" ∅, ⟨.up Service.acmeService Service.acmeKey, 0, 1⟩)
  | 1 => (.require 0 "deal" "read" true, ⟨.up Service.acmeService Service.acmeKey, 2, 3⟩)
  | 2 => (.require 0 "deal" "read" false, ⟨.down, 4, 5⟩)
  | _ => (.require 0 "deal" "read" true, ⟨.up grantRevoked Service.acmeKey, 6, 7⟩)

/-- The session of the grant. -/
def dealReader : AgentSession where
  request := sessionRequest (sampleIds 0 .row) (sampleIds 1 .application)
    (some (sampleIds 3 (.user 0))) (some (sampleIds 3 (.agent 0))) (some "grant")
  agentRole := ""
  permissions := {"deal.read"}
  criticalActions := ∅

/-- No cache. -/
def uncached : Options := { sampleOptions with cacheTtl := 0 }

/-- The last reading is refused; the first one a grant bound, at the start and when it was made. -/
theorem session_permits_dealReader :
    answers uncached readOpenly readsDeals 1 = .permitted ∧
      answers uncached readOpenly readsDeals 2 = .permitted ∧
      answers uncached readOpenly readsDeals 3 =
        .raised (.denied ⟨"deal.read", "revalidation denied"⟩) ∧
      (readsDeals 0).2.link.Binds dealReader.request.wire "grant" "deal.read" ∧
      (readsDeals 1).2.link.Binds dealReader.request.wire "grant" "deal.read" := by
  have hpermitted : answers uncached readOpenly readsDeals 1 = .permitted := by decide +kernel
  have hsession : (states uncached readOpenly readsDeals 1).sessions[0]? = some dealReader := by
    decide +kernel
  have htoken : dealReader.request.wire.delegationToken = some "grant" := by decide +kernel
  refine ⟨hpermitted, by decide +kernel, by decide +kernel, ?_⟩
  obtain ⟨j, hlt, m, hle, -, -, -, hbinds⟩ :=
    session_permits uncached readOpenly readsDeals (Or.inl le_rfl) rfl hsession
  obtain rfl : j = 0 := Nat.lt_one_iff.mp hlt
  obtain rfl : m = 0 := Nat.le_zero.mp hle
  obtain ⟨hthen, hnow⟩ := hbinds "grant" htoken hpermitted
  exact ⟨hthen, hnow (Or.inl rfl)⟩

end Examples

end AgentRuntime

end Python

end Sdk

end AuthzKit
