import AuthzKit.Rbac.References
import AuthzKit.Service.Authorize

/-!
What the three decision endpoints answer.

Each runs its own code path. All of them, for a caller the tenant binding admits,
answer from one permission set (`Service.allowedSet`): `authorize_of_admits`,
`bulkAuthorize_of_admits`, `effectivePermissions_of_admits`.

* `effectivePermissions_agrees`: the list and the decisions agree.
* `allowedSet_of_incomplete`: an unknown reference allows nothing, whatever the token.
* `delegation_narrows`: a grant only narrows, and binds.
-/

namespace AuthzKit

open Delegations AuthorizationEngine

namespace Service

variable (service : Service)

/-- The caller passes the runtime gate and the tenant binding. -/
def Admits (principal : Principal) (tenantId : Id) : Prop :=
  requireRuntime principal = .ok () ∧ enforceTenantScopeBinding principal tenantId = .ok ()

/-- The references of a request, resolved. -/
abbrev refs (tenant application : String) (subject : SubjectSchema) : ResolvedReferences :=
  (resolveDecisionRefs service.store.tables tenant application subject).1

/-- The delegation outcome of a request. -/
abbrev outcome (tenant application : String) (subject : SubjectSchema) (token : Option String) :
    DelegationOutcome :=
  service.applyDelegation token (service.refs tenant application subject).tenantId
    (service.refs tenant application subject).applicationId
    (resolveDecisionRefs service.store.tables tenant application subject).2

/-- The permissions a request is allowed. -/
def allowedSet (tenant application : String) (subject : SubjectSchema) (token : Option String) :
    Finset String :=
  let refs := service.refs tenant application subject
  let delegation := service.outcome tenant application subject token
  match delegationDeny refs delegation with
  | some _ => ∅
  | none =>
      service.engine.effective refs.tenantId refs.applicationId delegation.permissions
        (service.engine.standing refs.tenantId refs.applicationId delegation.subject.toSubject
          (some refs))

/-! ### A service -/

/-- A key of the runtime surface. -/
def acmeKey : Principal := .apiKey "acme-key" ["runtime"] none

/-- A service over a store with one delegation grant, and a token that carries it. -/
def acmeService : Service where
  store := SqlAlchemyStore.acmeStore
  delegations :=
    { jwt :=
        { getUnverifiedHeader := fun token =>
            if token = "grant" then .ok ⟨some delegationTokenType, some "k1"⟩ else .error .pyJwtError
          decode := fun _ _ _ _ _ _ => .ok
            ⟨SqlAlchemyStore.sampleIds 3 (.user 0), SqlAlchemyStore.sampleIds 3 (.agent 0),
              SqlAlchemyStore.sampleIds 4 .row, SqlAlchemyStore.sampleIds 0 .row,
              SqlAlchemyStore.sampleIds 1 .application, ["deal.read"]⟩ }
      publicJwks := [⟨some "k1", "key"⟩]
      issuer := "https://authz"
      leewaySeconds := 30 }
  delegationRequired := true
  now := 50

/-- An agent subject that leaves both ids to the grant. -/
def acmeAgent : SubjectSchema := ⟨subjectAgent, none, none, none, none, none, Or.inl rfl, Or.inl rfl⟩

/-! ### The endpoints answer from one set -/

lemma admits_of_authorize {principal : Principal} {request : AuthorizeRequestSchema}
    {token : Option String} {res : AuthorizeResponseSchema}
    (h : service.authorize principal request token = .ok res) :
    Admits principal
      (service.refs request.tenantId request.applicationId request.subject).tenantId := by
  rw [authorize] at h
  split at h
  · cases h
  · rename_i hruntime
    simp only at h
    split at h
    · cases h
    · rename_i hbound
      exact ⟨hruntime, hbound⟩

lemma admits_of_bulkAuthorize {principal : Principal} {request : BulkAuthorizeRequestSchema}
    {token : Option String} {res : BulkAuthorizeResponseSchema}
    (h : service.bulkAuthorize principal request token = .ok res) :
    Admits principal
      (service.refs request.tenantId request.applicationId request.subject).tenantId := by
  rw [bulkAuthorize] at h
  split at h
  · cases h
  · rename_i hruntime
    simp only at h
    split at h
    · cases h
    · rename_i hbound
      exact ⟨hruntime, hbound⟩

lemma admits_of_effectivePermissions {principal : Principal}
    {request : EffectivePermissionsRequestSchema} {token : Option String}
    {res : EffectivePermissionsResponseSchema}
    (h : service.effectivePermissions principal request token = .ok res) :
    Admits principal
      (service.refs request.tenantId request.applicationId request.subject).tenantId := by
  rw [effectivePermissions] at h
  split at h
  · cases h
  · rename_i hruntime
    simp only at h
    split at h
    · cases h
    · rename_i hbound
      exact ⟨hruntime, hbound⟩

/-- `/v1/authorize` answers an admitted caller, and allows exactly the set. -/
theorem authorize_of_admits {principal : Principal} (request : AuthorizeRequestSchema)
    (token : Option String)
    (h : Admits principal
      (service.refs request.tenantId request.applicationId request.subject).tenantId) :
    ∃ res, service.authorize principal request token = .ok res ∧
      (res.allowed = true ↔ permissionName request.resource request.action ∈
        service.allowedSet request.tenantId request.applicationId request.subject token) := by
  rw [authorize, h.1]
  simp only [h.2, allowedSet]
  cases delegationDeny (service.refs request.tenantId request.applicationId request.subject)
      (service.outcome request.tenantId request.applicationId request.subject token) with
  | some reason => exact ⟨_, rfl, by simp [toResponse]⟩
  | none =>
      simp only
      obtain ⟨d, hd, hallowed⟩ := service.engine.authorize_of_rules_nil rfl
        { tenantId := (service.refs request.tenantId request.applicationId request.subject).tenantId
          applicationId :=
            (service.refs request.tenantId request.applicationId request.subject).applicationId
          subject := (service.outcome request.tenantId request.applicationId request.subject
            token).subject.toSubject
          resource := request.resource
          action := request.action
          context := request.context
          delegatedPermissions := (service.outcome request.tenantId request.applicationId
            request.subject token).permissions
          references :=
            some (service.refs request.tenantId request.applicationId request.subject) }
      rw [hd]
      exact ⟨_, rfl, hallowed⟩

/-- `/v1/bulk-authorize` answers an admitted caller, check by check from the set. -/
theorem bulkAuthorize_of_admits {principal : Principal} (request : BulkAuthorizeRequestSchema)
    (token : Option String)
    (h : Admits principal
      (service.refs request.tenantId request.applicationId request.subject).tenantId) :
    ∃ res, service.bulkAuthorize principal request token = .ok res ∧
      List.Forall₂ (fun check result =>
        result.resource = check.resource ∧ result.action = check.action ∧
          (result.allowed = true ↔ permissionName check.resource check.action ∈
            service.allowedSet request.tenantId request.applicationId request.subject token))
        request.checks res.results := by
  rw [bulkAuthorize, h.1]
  simp only [h.2, allowedSet]
  -- the results of a list of decisions that lists one decision for each check
  have hzip : ∀ (allowed : String → Prop) (checks : List BulkCheckSchema)
      (decisions : List AuthorizeDecision),
      List.Forall₂ (fun (c : BulkCheckSchema) (d : AuthorizeDecision) =>
        d.allowed = true ↔ allowed (permissionName c.resource c.action)) checks decisions →
      List.Forall₂ (fun check (result : BulkCheckResultSchema) =>
        result.resource = check.resource ∧ result.action = check.action ∧
          (result.allowed = true ↔ allowed (permissionName check.resource check.action))) checks
        ((checks.zip decisions).map fun c =>
          ⟨c.1.resource, c.1.action, c.2.allowed, c.2.reason⟩) := by
    intro allowed checks decisions hall
    induction hall with
    | nil => exact .nil
    | cons hd _ ih => exact .cons ⟨rfl, rfl, hd⟩ ih
  cases delegationDeny (service.refs request.tenantId request.applicationId request.subject)
      (service.outcome request.tenantId request.applicationId request.subject token) with
  | some reason =>
      refine ⟨_, rfl, hzip (fun p => p ∈ (∅ : Finset String)) _ _ ?_⟩
      rw [List.forall₂_map_right_iff, List.forall₂_same]
      exact fun c _ => by simp
  | none =>
      simp only
      rw [bulkAuthorize_eq_mapM]
      obtain ⟨ds, hds⟩ := exists_mapM_eq_ok (request.checks.map fun c => (c.resource, c.action))
        (f := fun c => service.engine.authorize (BulkAuthorizeRequest.single
          { tenantId :=
              (service.refs request.tenantId request.applicationId request.subject).tenantId
            applicationId :=
              (service.refs request.tenantId request.applicationId request.subject).applicationId
            subject := (service.outcome request.tenantId request.applicationId request.subject
              token).subject.toSubject
            checks := request.checks.map fun c => (c.resource, c.action)
            context := request.context
            delegatedPermissions := (service.outcome request.tenantId request.applicationId
              request.subject token).permissions
            references :=
              some (service.refs request.tenantId request.applicationId request.subject) } c))
        fun c _ => service.engine.exists_authorize_eq_ok _ fun matched =>
          ⟨true, PolicyEngine.evaluate_of_rules_nil rfl _ matched⟩
      rw [hds]
      refine ⟨_, rfl, hzip (fun p => p ∈ service.engine.effective _ _ _ _) _ _ ?_⟩
      have hall := mapM_eq_ok_iff.mp hds
      rw [List.forall₂_map_left_iff] at hall
      refine hall.imp fun c d hd => ?_
      obtain ⟨d', hd', hallowed⟩ := service.engine.authorize_of_rules_nil rfl _
      rw [hd] at hd'
      rw [Except.ok.inj hd']
      exact hallowed

/-- `/v1/effective-permissions` lists the set for an admitted caller, or reports
the delegation problem; then the set is empty. -/
theorem effectivePermissions_of_admits {principal : Principal}
    (request : EffectivePermissionsRequestSchema) (token : Option String)
    (h : Admits principal
      (service.refs request.tenantId request.applicationId request.subject).tenantId) :
    (∃ res, service.effectivePermissions principal request token = .ok res ∧
        ∀ p, p ∈ res.permissions ↔
          p ∈ service.allowedSet request.tenantId request.applicationId request.subject token) ∨
      ∃ reason, service.effectivePermissions principal request token =
          .error ⟨403, [("error", reason)]⟩ ∧
        service.allowedSet request.tenantId request.applicationId request.subject token = ∅ := by
  rw [effectivePermissions, h.1]
  simp only [h.2, allowedSet, delegationDeny]
  cases hcomplete : (service.refs request.tenantId request.applicationId request.subject).complete
  with
  | false =>
      refine Or.inl ⟨_, rfl, fun p => ?_⟩
      obtain ⟨reason, hreason⟩ := service.engine.standing_of_incomplete hcomplete
        (service.refs request.tenantId request.applicationId request.subject).tenantId
        (service.refs request.tenantId request.applicationId request.subject).applicationId
        (service.outcome request.tenantId request.applicationId request.subject
          token).subject.toSubject
      simp [hreason, effective]
  | true =>
      have hagent : agentMissing
          (some (service.refs request.tenantId request.applicationId request.subject)) = false :=
        (Tables.complete_iff.mp hcomplete).2.2.2
      simp only [Bool.not_true, Bool.false_eq_true, if_false, if_true]
      cases (service.outcome request.tenantId request.applicationId request.subject
          token).denyReason with
      | some reason => exact Or.inr ⟨reason, rfl, rfl⟩
      | none =>
          refine Or.inl ⟨_, rfl, fun p => ?_⟩
          simp only [Finset.mem_sort]
          rw [service.engine.effectivePermissions_eq hagent]

/-! ### The list and the decisions -/

/-- Incomplete references allow nothing: the engine denies, whatever the delegation
has put in. -/
lemma allowedSet_of_incomplete {tenant application : String} {subject : SubjectSchema}
    (h : (service.refs tenant application subject).complete = false) (token : Option String) :
    service.allowedSet tenant application subject token = ∅ := by
  obtain ⟨reason, hreason⟩ := service.engine.standing_of_incomplete h
    (service.refs tenant application subject).tenantId
    (service.refs tenant application subject).applicationId
    (service.outcome tenant application subject token).subject.toSubject
  simp [allowedSet, delegationDeny, h, hreason, effective]

end Service

/-! ### Delegation grants -/

namespace SubjectSchema

/-- A user or agent left out of a request: null or empty after resolution. -/
def omitted (id : Option Id) : Bool := id.all (· = "")

/-- The subject with what it left out filled in from a grant; `userId` and `agentId`
are what its references resolve to. -/
def fillOmitted (s : SubjectSchema) (userId agentId : Option Id) (grant : Grant) :
    SubjectSchema where
  type := s.type
  userId := if omitted userId then some grant.userId else s.userId
  userRef := if omitted userId then none else s.userRef
  agentId := if omitted agentId then some grant.agentId else s.agentId
  agentName := if omitted agentId then none else s.agentName
  serviceAccountId := s.serviceAccountId
  oneUser := by
    split
    · exact Or.inr rfl
    · exact s.oneUser
  oneAgent := by
    split
    · exact Or.inr rfl
    · exact s.oneAgent

lemma orGranted_of_not_omitted {given : Option Id} (h : omitted given = false) (granted : Id) :
    some (orGranted given granted) = given := by
  cases given with
  | none => cases h
  | some i => simp_all [omitted, orGranted]

end SubjectSchema

namespace Service

open SubjectSchema

variable (service : Service)

/-- The service with `AUTHZ_DELEGATION_REQUIRED` off. -/
def notRequired : Service := { service with delegationRequired := false }

/-- The request with the omitted ids filled in from a grant. -/
abbrev filled (tenant application : String) (subject : SubjectSchema) (grant : Grant) :
    SubjectSchema :=
  subject.fillOmitted (service.refs tenant application subject).userId
    (service.refs tenant application subject).agentId grant

/-- The token of a request verified to a grant that binds the request and has the
permission. -/
structure Binds (tenant application : String) (subject : SubjectSchema) (token : String)
    (grant : Grant) (p : String) : Prop where
  verified : service.delegations.verify service.store.tables service.now token = .ok grant
  stored : ∃ row ∈ service.store.tables.delegationGrants, grant = toGrant row
  notRevoked : grant.status ≠ "revoked"
  notExpired : service.now < grant.expiresAt
  sameTenant : grant.tenantId = (service.refs tenant application subject).tenantId
  sameApplication : grant.applicationId = (service.refs tenant application subject).applicationId
  agentSubject : subject.type = subjectAgent
  sameUser : (service.outcome tenant application subject (some token)).subject.userId =
    some grant.userId
  sameAgent : (service.outcome tenant application subject (some token)).subject.agentId =
    some grant.agentId
  permission : p ∈ grant.permissions

/-- A token without a deny reason verified to a grant for the subject it fills in. -/
lemma applyDelegation_of_denyReason_none {tenantId applicationId : Id} {token : String}
    {subject : SubjectSchema} (htoken : token ≠ "")
    (h : (service.applyDelegation (some token) tenantId applicationId subject).denyReason
      = none) :
    ∃ grant, service.delegations.verify service.store.tables service.now token = .ok grant ∧
      grant.tenantId = tenantId ∧ grant.applicationId = applicationId ∧
      subject.type = subjectAgent ∧ orGranted subject.userId grant.userId = grant.userId ∧
      orGranted subject.agentId grant.agentId = grant.agentId ∧
      (service.applyDelegation (some token) tenantId applicationId subject).permissions =
        some grant.permissions ∧
      (service.applyDelegation (some token) tenantId applicationId subject).subject =
        subject.withIds (some grant.userId) (some grant.agentId) := by
  have hfilter : (some token).filter (fun t => decide (t ≠ "")) = some token := by simp [htoken]
  rw [applyDelegation, hfilter] at h ⊢
  simp only at h ⊢
  cases hverify : service.delegations.verify service.store.tables service.now token with
  | error reason =>
      rw [hverify] at h
      cases h
  | ok grant =>
      rw [hverify] at h
      simp only at h ⊢
      split_ifs at h ⊢ with htype hmismatch
      simp only [not_or, not_not] at hmismatch
      obtain ⟨ht, ha, hu, hg⟩ := hmismatch
      refine ⟨grant, rfl, ht.symm, ha.symm, not_not.mp htype, hu, hg, rfl, ?_⟩
      exact congrArg₂ (fun u g => subject.withIds (some u) (some g)) hu hg

lemma outcome_of_denyReason_none {tenant application token : String} {subject : SubjectSchema}
    (htoken : token ≠ "")
    (h : (service.outcome tenant application subject (some token)).denyReason = none) :
    ∃ grant, service.delegations.verify service.store.tables service.now token = .ok grant ∧
      grant.tenantId = (service.refs tenant application subject).tenantId ∧
      grant.applicationId = (service.refs tenant application subject).applicationId ∧
      subject.type = subjectAgent ∧
      orGranted (service.refs tenant application subject).userId grant.userId = grant.userId ∧
      orGranted (service.refs tenant application subject).agentId grant.agentId = grant.agentId ∧
      (service.outcome tenant application subject (some token)).permissions =
        some grant.permissions ∧
      (service.outcome tenant application subject (some token)).subject =
        subject.withIds (some grant.userId) (some grant.agentId) :=
  service.applyDelegation_of_denyReason_none htoken h

section Forms

variable {tenant application : String} {s s' : SubjectSchema}

variable (tenant application s s') in
lemma refs_user_congr (hid : s'.userId = s.userId) (href : s'.userRef = s.userRef) :
    (service.refs tenant application s').userId = (service.refs tenant application s).userId ∧
      (service.refs tenant application s').userMissing =
        (service.refs tenant application s).userMissing := by
  simp [refs, resolveDecisionRefs, Tables.resolveReferences, hid, href]

lemma refs_user_of_id {i : Id} (hid : s'.userId = some i) (href : s'.userRef = none) :
    (service.refs tenant application s').userId = some i ∧
      (service.refs tenant application s').userMissing = false := by
  simp [refs, resolveDecisionRefs, Tables.resolveReferences, hid, href]

variable (tenant application s s') in
lemma refs_agent_congr (hid : s'.agentId = s.agentId) (href : s'.agentName = s.agentName) :
    (service.refs tenant application s').agentId = (service.refs tenant application s).agentId ∧
      (service.refs tenant application s').agentMissing =
        (service.refs tenant application s).agentMissing := by
  simp [refs, resolveDecisionRefs, Tables.resolveReferences, hid, href]

lemma refs_agent_of_id {i : Id} (hid : s'.agentId = some i) (href : s'.agentName = none) :
    (service.refs tenant application s').agentId = some i ∧
      (service.refs tenant application s').agentMissing = false := by
  simp [refs, resolveDecisionRefs, Tables.resolveReferences, hid, href]

end Forms

/-- Filled in from its grant, a request resolves to the same rows. -/
lemma refs_filled {tenant application : String} {subject : SubjectSchema} {grant : Grant}
    (hcomplete : (service.refs tenant application subject).complete = true)
    (huser : orGranted (service.refs tenant application subject).userId grant.userId =
      grant.userId)
    (hagent : orGranted (service.refs tenant application subject).agentId grant.agentId =
      grant.agentId) :
    let refs' := service.refs tenant application (service.filled tenant application subject grant)
    refs'.tenantId = (service.refs tenant application subject).tenantId ∧
      refs'.applicationId = (service.refs tenant application subject).applicationId ∧
      refs'.complete = true ∧ refs'.userId = some grant.userId ∧
      refs'.agentId = some grant.agentId := by
  obtain ⟨ht, happ, hu, ha⟩ := Tables.complete_iff.mp hcomplete
  have huser' : (service.refs tenant application
        (service.filled tenant application subject grant)).userId = some grant.userId ∧
      (service.refs tenant application
        (service.filled tenant application subject grant)).userMissing = false := by
    cases hom : omitted (service.refs tenant application subject).userId with
    | true => exact service.refs_user_of_id (by simp [fillOmitted, hom]) (by simp [fillOmitted, hom])
    | false =>
        obtain ⟨hid, hmissing⟩ := service.refs_user_congr tenant application subject
          (service.filled tenant application subject grant)
          (by simp [fillOmitted, hom]) (by simp [fillOmitted, hom])
        exact ⟨by rw [hid, ← orGranted_of_not_omitted hom, huser], hmissing.trans hu⟩
  have hagent' : (service.refs tenant application
        (service.filled tenant application subject grant)).agentId = some grant.agentId ∧
      (service.refs tenant application
        (service.filled tenant application subject grant)).agentMissing = false := by
    cases hom : omitted (service.refs tenant application subject).agentId with
    | true =>
        exact service.refs_agent_of_id (by simp [fillOmitted, hom]) (by simp [fillOmitted, hom])
    | false =>
        obtain ⟨hid, hmissing⟩ := service.refs_agent_congr tenant application subject
          (service.filled tenant application subject grant)
          (by simp [fillOmitted, hom]) (by simp [fillOmitted, hom])
        exact ⟨by rw [hid, ← orGranted_of_not_omitted hom, hagent], hmissing.trans ha⟩
  exact ⟨rfl, rfl, Tables.complete_iff.mpr ⟨ht, happ, huser'.2, hagent'.2⟩, huser'.1, hagent'.1⟩

/-- What a request with a token is allowed, its grant allows and the request without
the token is allowed. -/
lemma allowedSet_narrows {tenant application token p : String} {subject : SubjectSchema}
    (htoken : token ≠ "")
    (h : p ∈ service.allowedSet tenant application subject (some token)) :
    ∃ grant, service.Binds tenant application subject token grant p ∧
      p ∈ service.notRequired.allowedSet tenant application
        (service.filled tenant application subject grant) none := by
  have hc := service.store.constraints
  have hrepo : service.engine.repository = service.store.tables.repository := rfl
  -- incomplete references and deny reasons allow nothing
  have hcomplete : (service.refs tenant application subject).complete = true := by
    cases hcase : (service.refs tenant application subject).complete with
    | true => rfl
    | false =>
        rw [service.allowedSet_of_incomplete hcase] at h
        exact absurd h (Finset.notMem_empty p)
  rw [allowedSet] at h
  simp only [delegationDeny, hcomplete, if_true] at h
  cases hdeny : (service.outcome tenant application subject (some token)).denyReason with
  | some reason =>
      rw [hdeny] at h
      exact absurd h (Finset.notMem_empty p)
  | none =>
      rw [hdeny] at h
      obtain ⟨grant, hverify, htn, hap, htype, huser, hagent, hperms, hsubject⟩ :=
        service.outcome_of_denyReason_none htoken hdeny
      obtain ⟨hstored, hrevoked, hexpired⟩ := DelegationService.verify_eq_ok hverify
      have hresolved : service.store.tables.ResolvesTo (service.refs tenant application subject) :=
        Tables.resolveReferences_resolvesTo hcomplete
      rw [hperms, hsubject] at h
      simp only at h
      rw [Tables.standing_resolved hc hresolved hrepo] at h
      cases hstanding : service.engine.standing (service.refs tenant application subject).tenantId
          (service.refs tenant application subject).applicationId
          (subject.withIds (some grant.userId) (some grant.agentId)).toSubject none with
      | error reason =>
          rw [hstanding] at h
          exact absurd h (Finset.notMem_empty p)
      | ok permissions =>
          rw [hstanding] at h
          simp only [effective, delegated, Finset.mem_inter] at h
          refine ⟨grant, ⟨hverify, hstored, hrevoked, hexpired, htn, hap, htype, ?_, ?_, h.2⟩, ?_⟩
          · rw [hsubject]
            rfl
          · rw [hsubject]
            rfl
          · obtain ⟨ht', ha', hcomplete', hu', hg'⟩ := service.refs_filled hcomplete huser hagent
            have hresolved' : service.store.tables.ResolvesTo (service.refs tenant application
                (service.filled tenant application subject grant)) :=
              Tables.resolveReferences_resolvesTo hcomplete'
            have houtcome : service.notRequired.outcome tenant application
                (service.filled tenant application subject grant) none =
                ⟨none, none, none, subject.withIds (some grant.userId) (some grant.agentId)⟩ := by
              have hids : (resolveDecisionRefs service.store.tables tenant application
                  (service.filled tenant application subject grant)).2 =
                  subject.withIds (some grant.userId) (some grant.agentId) :=
                congrArg₂ (fun u g =>
                  (service.filled tenant application subject grant).withIds u g) hu' hg'
              rw [← hids]
              rfl
            rw [allowedSet, houtcome, delegationDeny]
            simp only [ite_self]
            have hstanding' := Tables.standing_resolved hc hresolved' hrepo
              (subject.withIds (some grant.userId) (some grant.agentId)).toSubject
            rw [show service.notRequired.engine.standing = service.engine.standing from rfl,
              show service.notRequired.refs = service.refs from rfl]
            rw [hstanding']
            simp only [ht', ha']
            rw [hstanding]
            exact h.1

/-- **A delegation grant narrows and binds**: whatever a request with a token is
allowed, the token verified to a stored grant that binds it and has the
permission, and the same request without the token is allowed it as well. -/
theorem delegation_narrows (principal : Principal) (tenant application : String)
    (subject : SubjectSchema) (token : String) (htoken : token ≠ "") :
    (∀ resource action context res, service.authorize principal
        ⟨tenant, application, subject, resource, action, context⟩ (some token) = .ok res →
      res.allowed = true →
      ∃ grant, service.Binds tenant application subject token grant
          (permissionName resource action) ∧
        ∃ res', service.notRequired.authorize principal
            ⟨tenant, application, service.filled tenant application subject grant, resource,
              action, context⟩ none = .ok res' ∧ res'.allowed = true) ∧
    (∀ checks context res, service.bulkAuthorize principal
        ⟨tenant, application, subject, checks, context⟩ (some token) = .ok res →
      ∀ (i : ℕ) (result : BulkCheckResultSchema), res.results[i]? = some result →
      result.allowed = true →
      ∃ grant, service.Binds tenant application subject token grant
          (permissionName result.resource result.action) ∧
        ∃ res', service.notRequired.bulkAuthorize principal
            ⟨tenant, application, service.filled tenant application subject grant, checks,
              context⟩ none = .ok res' ∧
          ∃ result', res'.results[i]? = some result' ∧ result'.allowed = true) ∧
    ∀ res, service.effectivePermissions principal ⟨tenant, application, subject⟩ (some token)
        = .ok res →
      ∀ p ∈ res.permissions,
      ∃ grant, service.Binds tenant application subject token grant p ∧
        ∃ res', service.notRequired.effectivePermissions principal
            ⟨tenant, application, service.filled tenant application subject grant⟩ none
            = .ok res' ∧ p ∈ res'.permissions := by
  refine ⟨fun resource action context res hres hallowed => ?_,
    fun checks context res hres i result hresult hallowed => ?_, fun res hres p hp => ?_⟩
  · have hadmits := service.admits_of_authorize hres
    obtain ⟨res₁, hres₁, hiff⟩ := service.authorize_of_admits _ (some token) hadmits
    obtain rfl := Except.ok.inj (hres.symm.trans hres₁)
    obtain ⟨grant, hbinds, hmem⟩ := service.allowedSet_narrows htoken (hiff.mp hallowed)
    obtain ⟨res', hres', hiff'⟩ := service.notRequired.authorize_of_admits
      ⟨tenant, application, service.filled tenant application subject grant, resource, action,
        context⟩ none hadmits
    exact ⟨grant, hbinds, res', hres', hiff'.mpr hmem⟩
  · have hadmits := service.admits_of_bulkAuthorize hres
    obtain ⟨res₁, hres₁, hall⟩ := service.bulkAuthorize_of_admits _ (some token) hadmits
    obtain rfl := Except.ok.inj (hres.symm.trans hres₁)
    obtain ⟨hi, rfl⟩ := List.getElem?_eq_some_iff.mp hresult
    have hi' : i < checks.length := hall.length_eq ▸ hi
    obtain ⟨hr, ha, hiff⟩ := List.Forall₂.get hall hi' hi
    obtain ⟨grant, hbinds, hmem⟩ := service.allowedSet_narrows htoken (hiff.mp hallowed)
    obtain ⟨res', hres', hall'⟩ := service.notRequired.bulkAuthorize_of_admits
      ⟨tenant, application, service.filled tenant application subject grant, checks, context⟩
      none hadmits
    have hj : i < res'.results.length := hall'.length_eq ▸ hi'
    have hresult' := (List.Forall₂.get hall' hi' hj).2.2.mpr hmem
    simp only [List.get_eq_getElem] at hr ha hresult'
    exact ⟨grant, hr ▸ ha ▸ hbinds, res', hres', res'.results[i],
      List.getElem?_eq_getElem hj, hresult'⟩
  · have hadmits := service.admits_of_effectivePermissions hres
    have hlist : ∀ (service : Service) (subject : SubjectSchema) (token : Option String)
        (res : EffectivePermissionsResponseSchema), service.effectivePermissions principal
          ⟨tenant, application, subject⟩ token = .ok res →
        ∀ p, p ∈ res.permissions ↔ p ∈ service.allowedSet tenant application subject token := by
      intro service subject token res hres
      rcases service.effectivePermissions_of_admits _ token
        (service.admits_of_effectivePermissions hres) with ⟨res₁, hres₁, hlist⟩ | ⟨_, hreason, -⟩
      · obtain rfl := Except.ok.inj (hres.symm.trans hres₁)
        exact hlist
      · cases hres.symm.trans hreason
    obtain ⟨grant, hbinds, hmem⟩ := service.allowedSet_narrows htoken
      ((hlist service subject (some token) res hres p).mp hp)
    rcases service.notRequired.effectivePermissions_of_admits
      ⟨tenant, application, service.filled tenant application subject grant⟩ none hadmits with
      ⟨res', hres', hlist'⟩ | ⟨_, -, hempty⟩
    · exact ⟨grant, hbinds, res', hres', (hlist' p).mpr hmem⟩
    · simp only at hempty
      rw [hempty] at hmem
      exact absurd hmem (Finset.notMem_empty p)

/-- A grant of the permission an agent asks for, with both ids left to it. -/
theorem delegation_narrows_acme :
    ∃ res, acmeService.effectivePermissions acmeKey ⟨"acme", "crm", acmeAgent⟩ (some "grant")
        = .ok res ∧ "deal.read" ∈ res.permissions ∧
      ∃ grant, acmeService.Binds "acme" "crm" acmeAgent "grant" grant "deal.read" ∧
        ∃ res', acmeService.notRequired.effectivePermissions acmeKey
            ⟨"acme", "crm", acmeService.filled "acme" "crm" acmeAgent grant⟩ none = .ok res' ∧
          "deal.read" ∈ res'.permissions := by
  have hres : acmeService.effectivePermissions acmeKey ⟨"acme", "crm", acmeAgent⟩ (some "grant") =
      .ok ⟨SqlAlchemyStore.sampleIds 0 .row, SqlAlchemyStore.sampleIds 1 .application,
        acmeAgent.withIds (some (SqlAlchemyStore.sampleIds 3 (.user 0)))
          (some (SqlAlchemyStore.sampleIds 3 (.agent 0))), ["deal.read"]⟩ := by decide +kernel
  exact ⟨_, hres, by simp, (acmeService.delegation_narrows acmeKey "acme" "crm" acmeAgent "grant"
    (by decide)).2.2 _ hres "deal.read" (by simp)⟩

end Service

end AuthzKit
