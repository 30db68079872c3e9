import AuthzKit.Service.AuditTrail

/-!
Requests that name something that is not there: the tenant, the application, the user reference or
the agent name matches no row.

Every such request is denied before it is answered, and a deny is written before it is answered.
The row of the deny carries the texts of the request where a reference matched nothing, and the
columns of the database may refuse it: on Postgres the id columns of `audit_log` take UUIDs only.

* `authorize_of_unmatched`, `bulkDecisions_of_unmatched`: what is decided, whatever the delegation
  token has put in.
* `TakesDeny`, `TakesDenies`: the database takes the rows of the denies.
* `unknown_references_denied`: the requests are denied exactly where it does, and fail otherwise;
  the list of permissions is empty in any case.
* `takesDeny_iff_of_looksAtIds`: what this says of the references, over columns that look at ids.
-/

namespace AuthzKit

open Delegations AuthorizationEngine

namespace Service

variable (service : Service)

/-! ### The references -/

/-- The tenant, the application, the user reference or the agent name of a request
matches no row. -/
def Unmatched (t : Tables) (tenant application : String) (subject : SubjectSchema) : Prop :=
  (∀ row ∈ t.tenants, ¬(Uuid.parsesAsUuid tenant = true ∧ row.id = tenant ∨ row.slug = tenant)) ∨
  (∀ row ∈ t.applications,
    ¬(Uuid.parsesAsUuid application = true ∧ row.id = application ∨ row.slug = application)) ∨
  (∃ ref, subject.userRef = some ref ∧ ∀ i ∈ t.externalIdentities, i.ref ≠ ref.toRef) ∨
  ∃ name, subject.agentName = some name ∧ ∀ tn app, t.findTenant tenant = some tn →
    t.findApplication application = some app →
    ∀ a ∈ t.agents, ¬(a.tenantId = tn.id ∧ a.applicationId = app.id ∧ a.name = name)

lemma complete_of_unmatched {tenant application : String} {subject : SubjectSchema}
    (h : Unmatched service.store.tables tenant application subject) :
    (service.refs tenant application subject).complete = false := by
  rw [Bool.eq_false_iff]
  intro hcomplete
  obtain ⟨ht, happ, hu, ha⟩ := Tables.complete_iff.mp hcomplete
  simp only [refs, resolveDecisionRefs, Tables.resolveReferences, Option.isSome_map] at ht happ hu ha
  obtain ⟨tn, htn⟩ := Option.isSome_iff_exists.mp ht
  obtain ⟨app, hap⟩ := Option.isSome_iff_exists.mp happ
  rcases h with h | h | ⟨ref, href, h⟩ | ⟨name, hname, h⟩
  · obtain ⟨hrow, hmatch⟩ := Tables.of_byIdOrSlug htn
    exact h tn hrow hmatch
  · obtain ⟨hrow, hmatch⟩ := Tables.of_byIdOrSlug hap
    exact h app hrow hmatch
  · have hnone : Keyed.lookup ExternalIdentity.ref service.store.tables.externalIdentities
        ref.toRef = none := Keyed.lookup_eq_none_iff.mpr h
    simp [href, hnone] at hu
  · cases hagent : service.store.tables.agentByName (some tn) (some app) name with
    | none => simp [hname, htn, hap, hagent] at ha
    | some a =>
        obtain ⟨tn', app', htn', happ', hmem, hat, haa, han⟩ := Tables.of_agentByName hagent
        obtain rfl := Option.some.inj htn'
        obtain rfl := Option.some.inj happ'
        exact h tn app htn hap a hmem ⟨hat, haa, han⟩

/-- A tenant that matches no row keeps its text. -/
lemma refs_tenantId_of_unmatched {tenant application : String} {subject : SubjectSchema}
    (h : ∀ row ∈ service.store.tables.tenants,
      ¬(Uuid.parsesAsUuid tenant = true ∧ row.id = tenant ∨ row.slug = tenant)) :
    (service.refs tenant application subject).tenantId = tenant := by
  have hnone : service.store.tables.findTenant tenant = none := by
    rw [Option.eq_none_iff_forall_ne_some]
    intro row hrow
    obtain ⟨hmem, hmatch⟩ := Tables.of_byIdOrSlug hrow
    exact h row hmem hmatch
  simp only [refs, resolveDecisionRefs, Tables.resolveReferences, hnone, Option.map_none,
    Option.getD_none]

/-! ### The decisions -/

/-- The subject of a request, with what its delegation has filled in, has no standing, for this
reason. -/
def NoStanding (tenant application : String) (subject : SubjectSchema) (token : Option String)
    (reason : String) : Prop :=
  service.engine.standing (service.refs tenant application subject).tenantId
      (service.refs tenant application subject).applicationId
      (service.outcome tenant application subject token).subject.toSubject
      (some (service.refs tenant application subject)) = .error reason

section Decisions

variable {service} {principal : Principal} {token : Option String} {reason : String}

lemma exists_noStanding {tenant application : String} {subject : SubjectSchema}
    (h : (service.refs tenant application subject).complete = false) (token : Option String) :
    ∃ reason, service.NoStanding tenant application subject token reason :=
  service.engine.standing_of_incomplete h _ _ _

/-- **An unknown reference is denied**: the delegation problem is ignored, and the engine has its
own reason. -/
lemma authorize_of_unmatched {request : AuthorizeRequestSchema}
    (h : (service.refs request.tenantId request.applicationId request.subject).complete = false)
    (hadmits : Admits principal
      (service.refs request.tenantId request.applicationId request.subject).tenantId)
    (hreason : service.NoStanding request.tenantId request.applicationId request.subject token
      reason) :
    service.authorize principal request token =
      .ok (toResponse (.deny reason (permissionName request.resource request.action))) := by
  rw [NoStanding] at hreason
  rw [authorize, hadmits.1]
  simp only [hadmits.2, delegationDeny, h, Bool.false_eq_true, if_false, authorize_eq, hreason]

/-- Every check of a bulk request is denied with the same reason. -/
lemma bulkDecisions_of_unmatched {request : BulkAuthorizeRequestSchema}
    (h : (service.refs request.tenantId request.applicationId request.subject).complete = false)
    (hreason : service.NoStanding request.tenantId request.applicationId request.subject token
      reason) :
    service.bulkDecisions request token = .ok (request.checks.map fun c =>
      AuthorizeDecision.deny reason (permissionName c.resource c.action)) := by
  rw [NoStanding] at hreason
  simp only [bulkDecisions, delegationDeny, h, Bool.false_eq_true, if_false, bulkAuthorize_eq_mapM,
    authorize_eq, BulkAuthorizeRequest.single, hreason]
  rw [List.mapM_map]
  exact List.mapM_pure

end Decisions

/-! ### Their rows -/

/-- The row of the deny of `POST /v1/authorize`. -/
def denyRow (request : AuthorizeRequestSchema) (token requestId : Option String) (draw : AuditDraw)
    (reason : String) : AuditLog :=
  (service.authorizeEntry request token requestId draw
    (toResponse (.deny reason (permissionName request.resource request.action)))).row draw
      requestId 0

/-- The row of the deny of the check `k` of `POST /v1/bulk-authorize`. -/
def checkDenyRow (request : BulkAuthorizeRequestSchema) (token requestId : Option String)
    (draw : AuditDraw) (reason : String) (k : ℕ) (check : BulkCheckSchema) : AuditLog :=
  (service.checkEntry request token requestId check
    (.deny reason (permissionName check.resource check.action))).row draw requestId k

/-- The database takes the row of the deny. -/
def TakesDeny (sink : AuditSink) (request : AuthorizeRequestSchema)
    (token requestId : Option String) (draw : AuditDraw) : Prop :=
  ∀ reason, service.NoStanding request.tenantId request.applicationId request.subject token reason →
    sink.fits (service.denyRow request token requestId draw reason) = true

/-- The database takes the row of the deny of each check. -/
def TakesDenies (sink : AuditSink) (request : BulkAuthorizeRequestSchema)
    (token requestId : Option String) (draw : AuditDraw) : Prop :=
  ∀ reason, service.NoStanding request.tenantId request.applicationId request.subject token reason →
    ∀ k check, request.checks[k]? = some check →
      sink.fits (service.checkDenyRow request token requestId draw reason k check) = true

end Service

namespace AuditSink

variable {sink : AuditSink}

/-- A request is answered exactly if all of its rows are taken. -/
lemma audited_fst {α : Type} (answer : α) (rows : List AuditLog) :
    (sink.audited answer rows).1 =
      if ∀ row ∈ rows, sink.fits row = true then .ok answer
      else .error Service.internalServerError := by
  simp only [audited, List.all_eq_true]

/-- Denies are written whatever the sink wants. -/
lemma rows_of_deny (draw : AuditDraw) (requestId : Option String) {entries : List AuditEntry}
    (h : ∀ entry ∈ entries, entry.decision = "deny") :
    sink.rows draw requestId entries =
      entries.zipIdx.map fun (entry, k) => entry.row draw requestId k := by
  have hall : entries.filter sink.wants = entries := by
    refine List.filter_eq_self.mpr fun entry hentry => ?_
    rw [wants, h entry hentry]
    rfl
  rw [rows, hall]

end AuditSink

namespace Service

variable {service : Service} {sink : AuditSink} {principal : Principal}
  {token requestId : Option String} {draw : AuditDraw}

open scoped Classical in
/-- `POST /v1/authorize` on an unknown reference: the deny where the database takes its row, and
otherwise a failure. -/
lemma authorizeAudited_of_unmatched (request : AuthorizeRequestSchema) {reason : String}
    (h : (service.refs request.tenantId request.applicationId request.subject).complete = false)
    (hadmits : Admits principal
      (service.refs request.tenantId request.applicationId request.subject).tenantId)
    (hreason : service.NoStanding request.tenantId request.applicationId request.subject token
      reason) :
    (service.authorizeAudited sink principal request token requestId draw).1 =
      if service.TakesDeny sink request token requestId draw then
        .ok (toResponse (.deny reason (permissionName request.resource request.action)))
      else .error internalServerError := by
  have htakes : service.TakesDeny sink request token requestId draw ↔
      ∀ row ∈ [service.denyRow request token requestId draw reason], sink.fits row = true := by
    rw [List.forall_mem_singleton, TakesDeny]
    refine ⟨fun htakes => htakes reason hreason, fun hfits reason' hreason' => ?_⟩
    obtain rfl := Except.error.inj (hreason.symm.trans hreason')
    exact hfits
  rw [authorizeAudited, authorize_of_unmatched h hadmits hreason]
  dsimp only
  rw [AuditSink.rows_of_deny draw requestId (List.forall_mem_singleton.mpr rfl),
    AuditSink.audited_fst]
  exact if_congr htakes.symm rfl rfl

open scoped Classical in
/-- `POST /v1/bulk-authorize` on an unknown reference. -/
lemma bulkAuthorizeAudited_of_unmatched (request : BulkAuthorizeRequestSchema) {reason : String}
    (h : (service.refs request.tenantId request.applicationId request.subject).complete = false)
    (hadmits : Admits principal
      (service.refs request.tenantId request.applicationId request.subject).tenantId)
    (hreason : service.NoStanding request.tenantId request.applicationId request.subject token
      reason) :
    (service.bulkAuthorizeAudited sink principal request token requestId draw).1 =
      if service.TakesDenies sink request token requestId draw then
        .ok ⟨request.checks.map fun c => bulkResult c
          (.deny reason (permissionName c.resource c.action))⟩
      else .error internalServerError := by
  have hzip : request.checks.zip (request.checks.map fun c =>
        AuthorizeDecision.deny reason (permissionName c.resource c.action)) =
      request.checks.map fun c =>
        (c, AuthorizeDecision.deny reason (permissionName c.resource c.action)) := by
    induction request.checks with
    | nil => rfl
    | cons c checks ih => rw [List.map_cons, List.zip_cons_cons, ih, List.map_cons]
  rw [bulkAuthorizeAudited_eq hadmits (bulkDecisions_of_unmatched h hreason), hzip, List.map_map,
    List.map_map, AuditSink.rows_of_deny, AuditSink.audited_fst]
  · refine if_congr ?_ rfl rfl
    constructor
    · intro hfits reason' hreason' k check hcheck
      obtain rfl := Except.error.inj (hreason.symm.trans hreason')
      refine hfits _ (List.mem_map.mpr ⟨(_, k), List.mem_zipIdx_iff_getElem?.mpr ?_, rfl⟩)
      rw [List.getElem?_map, hcheck]
      rfl
    · intro htakes row hrow
      obtain ⟨⟨entry, k⟩, hentry, rfl⟩ := List.mem_map.mp hrow
      have hentry := List.mem_zipIdx_iff_getElem?.mp hentry
      rw [List.getElem?_map, Option.map_eq_some_iff] at hentry
      obtain ⟨check, hcheck, rfl⟩ := hentry
      exact htakes reason hreason k check hcheck
  · intro entry hentry
    obtain ⟨check, -, rfl⟩ := List.mem_map.mp hentry
    rfl

/-! ### What is answered -/

variable (service sink) in
/-- **Unknown references fail closed where the database takes the rows of the denies**: for an
admitted caller `POST /v1/authorize` and every check of `POST /v1/bulk-authorize` are denied exactly
then, whatever the token and the settings, and otherwise the requests fail; the list of permissions
is empty in any case. -/
theorem unknown_references_denied (principal : Principal) (tenant application : String)
    (subject : SubjectSchema) (token requestId : Option String) (draw : AuditDraw)
    (h : Unmatched service.store.tables tenant application subject)
    (hadmits : Admits principal (service.refs tenant application subject).tenantId) :
    (∀ resource action context,
      let request : AuthorizeRequestSchema :=
        ⟨tenant, application, subject, resource, action, context⟩
      let answer := (service.authorizeAudited sink principal request token requestId draw).1
      ((∃ res, answer = .ok res ∧ res.allowed = false) ↔
          service.TakesDeny sink request token requestId draw) ∧
        (¬service.TakesDeny sink request token requestId draw →
          answer = .error internalServerError)) ∧
    (∀ checks context,
      let request : BulkAuthorizeRequestSchema := ⟨tenant, application, subject, checks, context⟩
      let answer := (service.bulkAuthorizeAudited sink principal request token requestId draw).1
      ((∃ res, answer = .ok res ∧ res.results.length = checks.length ∧
            ∀ result ∈ res.results, result.allowed = false) ↔
          service.TakesDenies sink request token requestId draw) ∧
        (¬service.TakesDenies sink request token requestId draw →
          answer = .error internalServerError)) ∧
    ∃ res, service.effectivePermissions principal ⟨tenant, application, subject⟩ token = .ok res ∧
      res.permissions = [] := by
  have hincomplete := service.complete_of_unmatched h
  obtain ⟨reason, hreason⟩ := exists_noStanding hincomplete token
  refine ⟨fun resource action context => ?_, fun checks context => ?_, ?_⟩
  · dsimp only
    rw [authorizeAudited_of_unmatched ⟨tenant, application, subject, resource, action, context⟩
      hincomplete hadmits hreason]
    by_cases htakes : service.TakesDeny sink ⟨tenant, application, subject, resource, action,
        context⟩ token requestId draw
    · rw [if_pos htakes]
      exact ⟨iff_of_true ⟨_, rfl, rfl⟩ htakes, fun hnot => absurd htakes hnot⟩
    · rw [if_neg htakes]
      refine ⟨iff_of_false ?_ htakes, fun _ => rfl⟩
      rintro ⟨res, hres, -⟩
      cases hres
  · dsimp only
    rw [bulkAuthorizeAudited_of_unmatched ⟨tenant, application, subject, checks, context⟩
      hincomplete hadmits hreason]
    by_cases htakes : service.TakesDenies sink ⟨tenant, application, subject, checks, context⟩ token
        requestId draw
    · rw [if_pos htakes]
      refine ⟨iff_of_true ⟨_, rfl, List.length_map _, fun result hresult => ?_⟩ htakes,
        fun hnot => absurd htakes hnot⟩
      obtain ⟨check, -, rfl⟩ := List.mem_map.mp hresult
      rfl
    · rw [if_neg htakes]
      refine ⟨iff_of_false ?_ htakes, fun _ => rfl⟩
      rintro ⟨res, hres, -⟩
      cases hres
  · rw [effectivePermissions, hadmits.1]
    simp only [hadmits.2, hincomplete]
    exact ⟨_, rfl, rfl⟩

/-! ### Columns that look at ids -/

/-- The columns of the database that may refuse a row are those of its ids. -/
def LooksAtIds (sink : AuditSink) (takes : Id → Bool) : Prop :=
  ∀ row, sink.fits row = [row.entry.tenantId, row.entry.applicationId, row.entry.userId,
    row.entry.agentId].all fun id => id.all takes

/-- The columns take the ids of a request: those of the rows it names, the texts of the references
that matched none, and what its grant has filled in. -/
def TakesIds (takes : Id → Bool) (tenant application : String) (subject : SubjectSchema)
    (token : Option String) : Prop :=
  takes (service.refs tenant application subject).tenantId = true ∧
    takes (service.refs tenant application subject).applicationId = true ∧
    (service.outcome tenant application subject token).subject.userId.all takes = true ∧
    (service.outcome tenant application subject token).subject.agentId.all takes = true

/-- **Over columns that look at ids**, the row of a deny is taken if they take the ids of the
request. -/
theorem takesDeny_iff_of_looksAtIds {takes : Id → Bool} (hcolumns : LooksAtIds sink takes)
    {request : AuthorizeRequestSchema}
    (h : (service.refs request.tenantId request.applicationId request.subject).complete = false) :
    service.TakesDeny sink request token requestId draw ↔
      service.TakesIds takes request.tenantId request.applicationId request.subject token := by
  have hrow : ∀ reason, sink.fits (service.denyRow request token requestId draw reason) = true ↔
      service.TakesIds takes request.tenantId request.applicationId request.subject token := by
    intro reason
    rw [hcolumns, TakesIds]
    simp only [List.all_cons, List.all_nil, Bool.and_true, Bool.and_eq_true]
    rfl
  obtain ⟨reason, hreason⟩ := exists_noStanding h token
  exact ⟨fun htakes => (hrow reason).mp (htakes reason hreason),
    fun hids reason' _ => (hrow reason').mpr hids⟩

/-- The same of a bulk request that asks for anything. -/
theorem takesDenies_iff_of_looksAtIds {takes : Id → Bool} (hcolumns : LooksAtIds sink takes)
    {request : BulkAuthorizeRequestSchema}
    (h : (service.refs request.tenantId request.applicationId request.subject).complete = false) :
    service.TakesDenies sink request token requestId draw ↔
      request.checks = [] ∨
        service.TakesIds takes request.tenantId request.applicationId request.subject token := by
  have hrow : ∀ reason k check,
      sink.fits (service.checkDenyRow request token requestId draw reason k check) = true ↔
        service.TakesIds takes request.tenantId request.applicationId request.subject token := by
    intro reason k check
    rw [hcolumns, TakesIds]
    simp only [List.all_cons, List.all_nil, Bool.and_true, Bool.and_eq_true]
    rfl
  obtain ⟨reason, hreason⟩ := exists_noStanding h token
  constructor
  · intro htakes
    cases hchecks : request.checks with
    | nil => exact Or.inl rfl
    | cons check checks =>
        exact Or.inr ((hrow reason 0 check).mp (htakes reason hreason 0 check (by rw [hchecks]; rfl)))
  · rintro (hnil | hids) reason' - k check hcheck
    · rw [hnil] at hcheck
      cases hcheck
    · exact (hrow reason' k check).mpr hids

/-- **An unknown tenant fails where the column does not take its text.** -/
theorem unknown_tenant_fails {takes : Id → Bool} (hcolumns : LooksAtIds sink takes)
    {request : AuthorizeRequestSchema}
    (htenant : ∀ row ∈ service.store.tables.tenants,
      ¬(Uuid.parsesAsUuid request.tenantId = true ∧ row.id = request.tenantId ∨
        row.slug = request.tenantId))
    (hadmits : Admits principal request.tenantId) (hrefused : takes request.tenantId = false) :
    (service.authorizeAudited sink principal request token requestId draw).1 =
      .error internalServerError := by
  have hunmatched : Unmatched service.store.tables request.tenantId request.applicationId
      request.subject := Or.inl htenant
  have hincomplete := service.complete_of_unmatched hunmatched
  have htext : (service.refs request.tenantId request.applicationId request.subject).tenantId =
      request.tenantId := service.refs_tenantId_of_unmatched htenant
  obtain ⟨reason, hreason⟩ := exists_noStanding hincomplete token
  rw [authorizeAudited_of_unmatched request hincomplete (by rw [htext]; exact hadmits) hreason,
    if_neg]
  rw [takesDeny_iff_of_looksAtIds hcolumns hincomplete, TakesIds, htext, hrefused]
  rintro ⟨⟨⟩, -⟩

/-! ### A request for a tenant that is not there -/

section Examples

/-- A database whose id columns take the texts `takes`. -/
def idColumns (takes : Id → Bool) : AuditSink where
  auditAll := false
  fits row := [row.entry.tenantId, row.entry.applicationId, row.entry.userId,
    row.entry.agentId].all fun id => id.all takes
  retentionDays := 90

/-- The columns of Postgres take the form in which ids are written; the other spellings of a UUID
that it reads are left out. -/
def postgresSink : AuditSink := idColumns fun id => decide (Uuid.Canonical id)

/-- The columns of SQLite take any text. -/
def sqliteSink : AuditSink := idColumns fun _ => true

lemma sqliteSink_fits (row : AuditLog) : sqliteSink.fits row = true := by
  simp [sqliteSink, idColumns]

/-- The one row of a request. -/
def oneRow : AuditDraw := ⟨fun _ => SqlAlchemyStore.sampleIds 9 .row, fun _ => 50, "request"⟩

/-- No tenant is called globex. The request is denied, but Postgres does not take the row of the
deny, and the request fails. -/
theorem unknown_tenant_not_denied :
    Unmatched acmeService.store.tables "globex" "crm" acmeAgent ∧
      Admits acmeKey (acmeService.refs "globex" "crm" acmeAgent).tenantId ∧
      ¬∃ res, (acmeService.authorizeAudited postgresSink acmeKey
          ⟨"globex", "crm", acmeAgent, "deal", "read", []⟩ (some "grant") none oneRow).1 = .ok res ∧
        res.allowed = false := by
  refine ⟨Or.inl (by decide +kernel), ⟨rfl, by decide +kernel⟩, ?_⟩
  have hcolumns : LooksAtIds postgresSink fun id => decide (Uuid.Canonical id) := fun _ => rfl
  rw [unknown_tenant_fails hcolumns (by decide +kernel) ⟨rfl, by decide +kernel⟩
    (by decide +kernel)]
  rintro ⟨res, ⟨⟩, -⟩

/-- On SQLite it is denied, with a token that is a valid grant elsewhere. -/
theorem unknown_references_denied_globex :
    (∃ res, (acmeService.authorizeAudited sqliteSink acmeKey
        ⟨"globex", "crm", acmeAgent, "deal", "read", []⟩ (some "grant") none oneRow).1 = .ok res ∧
      res.allowed = false) ∧
    ∃ res, acmeService.effectivePermissions acmeKey ⟨"globex", "crm", acmeAgent⟩ (some "grant")
        = .ok res ∧ res.permissions = [] := by
  have hdenied := acmeService.unknown_references_denied sqliteSink acmeKey "globex" "crm" acmeAgent
    (some "grant") none oneRow (Or.inl (by decide +kernel)) ⟨rfl, by decide +kernel⟩
  exact ⟨(hdenied.1 "deal" "read" []).1.mpr fun _ _ => sqliteSink_fits _, hdenied.2.2⟩

end Examples

end Service

end AuthzKit
