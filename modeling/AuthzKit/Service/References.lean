import AuthzKit.Service.Endpoints
import AuthzKit.Storage.Invariant

/-!
The forms of a decision request: each of its references by name or by id.

* `Form`: which references are replaced by the ids they denote.
* `resolveDecisionRefs_form`: every form resolves to the same rows; only whether
  the status of the agent was read on the way differs.
* `forms_agree`: reference forms do not change a decision.
-/

namespace AuthzKit

open Delegations

/-- The references of a request that are replaced by ids. -/
structure Form where
  tenant : Bool
  application : Bool
  user : Bool
  agent : Bool
deriving DecidableEq, Repr

namespace Form

variable (form : Form) (refs : ResolvedReferences)

/-- The tenant of the request in this form. -/
def tenantRef (tenant : String) : String := if form.tenant then refs.tenantId else tenant

/-- The application of the request in this form. -/
def applicationRef (application : String) : String :=
  if form.application then refs.applicationId else application

/-- The subject of the request in this form. -/
def subject (s : SubjectSchema) : SubjectSchema where
  type := s.type
  userId := if form.user then refs.userId else s.userId
  userRef := if form.user then none else s.userRef
  agentId := if form.agent then refs.agentId else s.agentId
  agentName := if form.agent then none else s.agentName
  serviceAccountId := s.serviceAccountId
  oneUser := by
    split
    · exact Or.inr rfl
    · exact s.oneUser
  oneAgent := by
    split
    · exact Or.inr rfl
    · exact s.oneAgent

end Form

namespace Tables

variable {t : Tables}

/-- The id of a row denotes the row, whatever slugs there are. -/
lemma byIdOrSlug_id {α : Type} {id slug : α → String} {rows : List α}
    (hid : (rows.map id).Nodup) (hslug : (rows.map slug).Nodup)
    (huuid : ∀ r ∈ rows, Uuid.Canonical (id r)) {r : α} (hr : r ∈ rows) :
    byIdOrSlug id slug rows (id r) = some r :=
  (byIdOrSlug_eq_some_iff hid hslug huuid).mpr ⟨hr, Or.inl rfl⟩

/-- **Every form of a request resolves to the same rows.** The status of the agent is
read only when it is given by name. -/
theorem resolveDecisionRefs_form (hc : t.Constraints) (hw : t.WellFormed)
    {tenant application : String} {s : SubjectSchema}
    (hcomplete : (resolveDecisionRefs t tenant application s).1.complete = true) (form : Form) :
    ∃ agentStatus, resolveDecisionRefs t
        (form.tenantRef (resolveDecisionRefs t tenant application s).1 tenant)
        (form.applicationRef (resolveDecisionRefs t tenant application s).1 application)
        (form.subject (resolveDecisionRefs t tenant application s).1 s) =
      ({ (resolveDecisionRefs t tenant application s).1 with agentStatus },
        (resolveDecisionRefs t tenant application s).2) := by
  obtain ⟨ht, happ, hu, ha⟩ := complete_iff.mp hcomplete
  simp only [resolveDecisionRefs, resolveReferences, Option.isSome_map] at ht happ hu ha
  obtain ⟨tn, htn⟩ := Option.isSome_iff_exists.mp ht
  obtain ⟨app, hap⟩ := Option.isSome_iff_exists.mp happ
  have htenant : t.findTenant
      (form.tenantRef (resolveDecisionRefs t tenant application s).1 tenant) = some tn := by
    rw [Form.tenantRef]
    split
    · simp only [resolveDecisionRefs, resolveReferences, htn, Option.map_some, Option.getD_some]
      exact byIdOrSlug_id hc.tenantId hc.tenantSlug hw.tenantIds (of_byIdOrSlug htn).1
    · exact htn
  have happlication : t.findApplication
      (form.applicationRef (resolveDecisionRefs t tenant application s).1 application) = some app := by
    rw [Form.applicationRef]
    split
    · simp only [resolveDecisionRefs, resolveReferences, hap, Option.map_some, Option.getD_some]
      exact byIdOrSlug_id hc.applicationId hc.applicationSlug hw.applicationIds (of_byIdOrSlug hap).1
    · exact hap
  refine ⟨if form.agent then none else
    (resolveDecisionRefs t tenant application s).1.agentStatus, ?_⟩
  generalize form.tenantRef (resolveDecisionRefs t tenant application s).1 tenant = tenant' at *
  generalize form.applicationRef (resolveDecisionRefs t tenant application s).1 application =
    application' at *
  rw [htn, hap] at ha
  simp only [resolveDecisionRefs, resolveReferences, htenant, happlication, htn, hap, Form.subject,
    SubjectSchema.withIds, Prod.mk.injEq, ResolvedReferences.mk.injEq, SubjectSchema.mk.injEq,
    Option.map_some, Option.getD_some, true_and, and_true]
  obtain ⟨_, _, byUserId, byAgentId⟩ := form
  cases byUserId <;> cases byAgentId <;> simp only [Bool.false_eq_true, if_true, if_false]
  · trivial
  · cases hname : s.agentName with
    | none => simp
    | some name => simpa [hname] using ha
  · cases href : s.userRef with
    | none => simp
    | some ref => simpa [href] using hu
  · cases hname : s.agentName with
    | none =>
        cases href : s.userRef with
        | none => simp
        | some ref => simpa [href] using hu
    | some name =>
        cases href : s.userRef with
        | none => simpa [hname] using ha
        | some ref =>
            have hfound : (Keyed.lookup ExternalIdentity.ref t.externalIdentities
                ref.toRef).isSome = true := by simpa [href] using hu
            have hnamed : (t.agentByName (some tn) (some app) name).isSome = true := by
              simpa [hname] using ha
            simp [hfound, hnamed]

end Tables

namespace Service

variable (service : Service)

section Endpoints

variable {tenant application tenant' application' : String} {s s' : SubjectSchema}
  {refs refs' : ResolvedReferences} {subject : SubjectSchema}

/-- Two resolutions that know the same rows, the status of the agent apart. -/
structure SameRows (t : Tables) (refs refs' : ResolvedReferences) : Prop where
  resolves : t.ResolvesTo refs
  resolves' : t.ResolvesTo refs'
  tenantId : refs'.tenantId = refs.tenantId
  applicationId : refs'.applicationId = refs.applicationId
  complete : refs.complete = true
  complete' : refs'.complete = true

/-- The engine decides alike from both, and as it does from the ids alone. -/
lemma SameRows.authorize {t : Tables} (h : SameRows t refs refs') (hc : t.Constraints)
    {engine : AuthorizationEngine} (he : engine.repository = t.repository)
    (request : AuthorizeRequest) (ht : request.tenantId = refs.tenantId)
    (ha : request.applicationId = refs.applicationId) :
    engine.authorize { request with references := some refs' } =
      engine.authorize { request with references := some refs } := by
  rw [Tables.authorize_resolved hc h.resolves' he _ (ht.trans h.tenantId.symm)
    (ha.trans h.applicationId.symm), Tables.authorize_resolved hc h.resolves he _ ht ha]

lemma SameRows.bulkAuthorize {t : Tables} (h : SameRows t refs refs') (hc : t.Constraints)
    {engine : AuthorizationEngine} (he : engine.repository = t.repository)
    (request : BulkAuthorizeRequest) (ht : request.tenantId = refs.tenantId)
    (ha : request.applicationId = refs.applicationId) :
    engine.bulkAuthorize { request with references := some refs' } =
      engine.bulkAuthorize { request with references := some refs } := by
  rw [Tables.bulkAuthorize_resolved hc h.resolves' he _ (ht.trans h.tenantId.symm)
    (ha.trans h.applicationId.symm), Tables.bulkAuthorize_resolved hc h.resolves he _ ht ha]

lemma SameRows.effectivePermissions {t : Tables} (h : SameRows t refs refs') (hc : t.Constraints)
    {engine : AuthorizationEngine} (he : engine.repository = t.repository) (subject : Subject)
    (grant : Option (Finset String)) :
    engine.effectivePermissions refs.tenantId refs.applicationId subject grant (some refs') =
      engine.effectivePermissions refs.tenantId refs.applicationId subject grant (some refs) := by
  rw [← h.tenantId, ← h.applicationId, Tables.effectivePermissions_resolved hc h.resolves' he,
    h.tenantId, h.applicationId, Tables.effectivePermissions_resolved hc h.resolves he]

/-- Requests that resolve to the same rows and ids are answered alike. -/
lemma endpoints_congr (hrows : SameRows service.store.tables refs refs')
    (hs : resolveDecisionRefs service.store.tables tenant application s = (refs, subject))
    (hs' : resolveDecisionRefs service.store.tables tenant' application' s' = (refs', subject))
    (principal : Principal) (token : Option String) :
    (∀ resource action context, service.authorize principal
        ⟨tenant', application', s', resource, action, context⟩ token =
      service.authorize principal ⟨tenant, application, s, resource, action, context⟩ token) ∧
    (∀ checks context, service.bulkAuthorize principal
        ⟨tenant', application', s', checks, context⟩ token =
      service.bulkAuthorize principal ⟨tenant, application, s, checks, context⟩ token) ∧
    service.effectivePermissions principal ⟨tenant', application', s'⟩ token =
      service.effectivePermissions principal ⟨tenant, application, s⟩ token := by
  have hc := service.store.constraints
  have hrepo : service.engine.repository = service.store.tables.repository := rfl
  refine ⟨fun resource action context => ?_, fun checks context => ?_, ?_⟩
  · simp only [authorize, hs, hs', delegationDeny, hrows.complete, hrows.complete', hrows.tenantId,
      hrows.applicationId]
    rw [hrows.authorize hc hrepo ⟨refs.tenantId, refs.applicationId, _, resource, action, context, _,
      none⟩ rfl rfl]
  · simp only [bulkAuthorize, hs, hs', delegationDeny, hrows.complete, hrows.complete',
      hrows.tenantId, hrows.applicationId]
    rw [hrows.bulkAuthorize hc hrepo ⟨refs.tenantId, refs.applicationId, _, _, context, _, none⟩ rfl
      rfl]
  · simp only [effectivePermissions, hs, hs', hrows.complete, hrows.complete', hrows.tenantId,
      hrows.applicationId]
    rw [hrows.effectivePermissions hc hrepo]

end Endpoints

/-- **Reference forms do not change a decision.** In a reachable store, a request
whose references all resolve is answered alike in every form, by each endpoint; and
an engine over the store decides from the references of any form as it decides from
the ids without references. What a tenant or application reference denotes is the row
with that id, else the row with that slug. -/
theorem forms_agree (hs : service.store.Reachable) (tenant application : String)
    (subject : SubjectSchema)
    (hcomplete : (service.refs tenant application subject).complete = true) (form : Form) :
    let refs := service.refs tenant application subject
    let tenant' := form.tenantRef refs tenant
    let application' := form.applicationRef refs application
    let subject' := form.subject refs subject
    let refs' := service.refs tenant' application' subject'
    (∀ principal token,
      (∀ resource action context, service.authorize principal
          ⟨tenant', application', subject', resource, action, context⟩ token =
        service.authorize principal ⟨tenant, application, subject, resource, action, context⟩
          token) ∧
      (∀ checks context, service.bulkAuthorize principal
          ⟨tenant', application', subject', checks, context⟩ token =
        service.bulkAuthorize principal ⟨tenant, application, subject, checks, context⟩ token) ∧
      service.effectivePermissions principal ⟨tenant', application', subject'⟩ token =
        service.effectivePermissions principal ⟨tenant, application, subject⟩ token) ∧
    (∀ engine : AuthorizationEngine, engine.repository = service.store.tables.repository →
      ∀ (subject : Subject) (context : Context) (grant : Option (Finset String)),
        (∀ resource action, engine.authorize
            ⟨refs.tenantId, refs.applicationId, subject, resource, action, context, grant,
              some refs'⟩ =
          engine.authorize
            ⟨refs.tenantId, refs.applicationId, subject, resource, action, context, grant, none⟩) ∧
        (∀ checks, engine.bulkAuthorize
            ⟨refs.tenantId, refs.applicationId, subject, checks, context, grant, some refs'⟩ =
          engine.bulkAuthorize
            ⟨refs.tenantId, refs.applicationId, subject, checks, context, grant, none⟩) ∧
        engine.effectivePermissions refs.tenantId refs.applicationId subject grant (some refs') =
          engine.effectivePermissions refs.tenantId refs.applicationId subject grant none) ∧
    (∀ ref row, service.store.tables.findTenant ref = some row ↔
      row ∈ service.store.tables.tenants ∧ (row.id = ref ∨
        row.slug = ref ∧ ∀ other ∈ service.store.tables.tenants, other.id ≠ ref)) ∧
    ∀ ref row, service.store.tables.findApplication ref = some row ↔
      row ∈ service.store.tables.applications ∧ (row.id = ref ∨
        row.slug = ref ∧ ∀ other ∈ service.store.tables.applications, other.id ≠ ref) := by
  have hc := service.store.constraints
  have hw := hs.wellFormed
  obtain ⟨agentStatus, hform⟩ := Tables.resolveDecisionRefs_form hc hw hcomplete form
  have hrows : SameRows service.store.tables (service.refs tenant application subject)
      { service.refs tenant application subject with agentStatus } := by
    have hresolves := Tables.resolveReferences_resolvesTo
      ((congrArg (fun r => r.1.complete) hform).trans hcomplete)
    have hrefs' := congrArg service.store.tables.ResolvesTo (congrArg Prod.fst hform)
    exact ⟨Tables.resolveReferences_resolvesTo hcomplete, hrefs'.mp hresolves, rfl, rfl, hcomplete,
      hcomplete⟩
  refine ⟨fun principal token => service.endpoints_congr hrows rfl hform principal token,
    fun engine he s context grant => ?_, fun ref row => ?_, fun ref row => ?_⟩
  · have hrefs' := congrArg Prod.fst hform
    simp only [refs] at hrefs' ⊢
    rw [hrefs']
    exact ⟨fun resource action =>
        Tables.authorize_resolved hc hrows.resolves' he
          ⟨_, _, s, resource, action, context, grant, none⟩ rfl rfl,
      fun checks =>
        Tables.bulkAuthorize_resolved hc hrows.resolves' he
          ⟨_, _, s, checks, context, grant, none⟩ rfl rfl,
      Tables.effectivePermissions_resolved hc hrows.resolves' he s grant⟩
  · exact Tables.byIdOrSlug_eq_some_iff hc.tenantId hc.tenantSlug hw.tenantIds
  · exact Tables.byIdOrSlug_eq_some_iff hc.applicationId hc.applicationSlug hw.applicationIds

/-- The member and the agent of a request by reference and by name, and all its
references by id. -/
theorem forms_agree_acme :
    let subject : SubjectSchema :=
      ⟨subjectAgent, none, some ⟨"oidc", "https://idp", "alice", by decide, by decide, by decide⟩,
        none, some "helper", none, Or.inl rfl, Or.inl rfl⟩
    let form : Form := ⟨true, true, true, true⟩
    let refs := acmeService.refs "acme" "crm" subject
    acmeService.authorize acmeKey
        ⟨form.tenantRef refs "acme", form.applicationRef refs "crm", form.subject refs subject, "deal",
          "read", []⟩ (some "grant") =
      acmeService.authorize acmeKey ⟨"acme", "crm", subject, "deal", "read", []⟩ (some "grant") :=
  ((acmeService.forms_agree SqlAlchemyStore.acmeStore_reachable "acme" "crm" _ (by decide +kernel)
    ⟨true, true, true, true⟩).1 acmeKey (some "grant")).1 "deal" "read" []

end Service

end AuthzKit
