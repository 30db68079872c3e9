import AuthzKit.Security.Issuance
import AuthzKit.Service.Endpoints
import Mathlib.Data.List.TakeWhile

/-!
The audit log: `AuditSink` of `authz_service/dependencies.py`, `write_audit` of
`authzkit/storage/sqlalchemy.py`, the entries the decision endpoints write, and the pruning of
`authz_service/audit_retention.py`.

A decision is written before it is answered. The columns of the database may refuse a row, then the
request fails; the rows of a bulk request that were written before stay.

* `authorizeAudited`, `bulkAuthorizeAudited`: the endpoints with the rows they write. They answer as
  the endpoints without a log, or fail (`authorizeAudited_eq_ok`, `bulkAuthorizeAudited_eq_ok`).
* `AuditSink.step`: one event of the log; `mem_log` says which rows are there after a run.
* `audit_trail`: every deny that was answered is in the log until it is older than the retention,
  and nothing is in the log that was not decided.
-/

namespace AuthzKit

open Delegations

/-! ### Entries and rows -/

/-- The payload of the request and of the response of an entry. -/
inductive AuditPayload where
  | authorize (request : AuthorizeRequestSchema) (delegationId : Option Id)
      (response : AuthorizeResponseSchema)
  | check (request : BulkAuthorizeRequestSchema) (delegationId : Option Id)
      (result : BulkCheckResultSchema)
  /-- a change of `managed_by`, and who made it -/
  | management (request response : List (String × Option String))

/-- `AuditEntry`. -/
structure AuditEntry where
  decision : String
  reason : String
  resource : String
  action : String
  tenantId : Option Id
  applicationId : Option Id
  userId : Option Id
  agentId : Option Id
  payload : AuditPayload
  requestId : Option String

/-- A row of `audit_log`. -/
structure AuditLog where
  id : Id
  entry : AuditEntry
  requestId : Option String
  createdAt : DateTime

/-- What the writes of a request draw: the ids of its rows, the times they are written, and the id
of a request that has none. -/
structure AuditDraw where
  ids : ℕ → Id
  writtenAt : ℕ → DateTime
  requestId : String

/-- `AuditSink`, over a database whose columns take certain rows, and the retention. -/
structure AuditSink where
  auditAll : Bool
  fits : AuditLog → Bool
  retentionDays : ℤ

/-- A text that is neither null nor empty (`a or b`). -/
def nonEmptyText (text : Option String) : Option String := text.filter (· ≠ "")

/-- The row `write_audit` adds. -/
def AuditEntry.row (entry : AuditEntry) (draw : AuditDraw) (requestId : Option String) (k : ℕ) :
    AuditLog where
  id := draw.ids k
  entry
  requestId := (nonEmptyText requestId).or entry.requestId
  createdAt := draw.writtenAt k

namespace AuditSink

variable (sink : AuditSink)

/-- The condition of `write`. -/
def wants (entry : AuditEntry) : Bool := entry.decision ≠ "allow" || sink.auditAll

/-- The rows of the entries of a request, in the order they are written. -/
def rows (draw : AuditDraw) (requestId : Option String) (entries : List AuditEntry) :
    List AuditLog :=
  (entries.filter sink.wants).zipIdx.map fun (entry, k) => entry.row draw requestId k

/-- What becomes of a request that has its answer and writes its rows, the first that fails ending
it. -/
def audited {α : Type} (answer : α) (rows : List AuditLog) :
    Except HttpException α × List AuditLog :=
  (if rows.all sink.fits then .ok answer else .error Service.internalServerError,
    rows.takeWhile sink.fits)

end AuditSink

/-! ### The endpoints -/

namespace Service

variable (service : Service)

/-- The entry of one decision. -/
def auditEntry (tenant application : String) (subject : SubjectSchema) (token : Option String)
    (decision reason resource action : String) (payload : AuditPayload)
    (requestId : Option String) : AuditEntry where
  decision
  reason
  resource
  action
  tenantId := some (service.refs tenant application subject).tenantId
  applicationId := some (service.refs tenant application subject).applicationId
  userId := (service.outcome tenant application subject token).subject.userId
  agentId := (service.outcome tenant application subject token).subject.agentId
  payload
  requestId

/-- The entry of `POST /v1/authorize`. -/
def authorizeEntry (request : AuthorizeRequestSchema) (token requestId : Option String)
    (draw : AuditDraw) (response : AuthorizeResponseSchema) : AuditEntry :=
  service.auditEntry request.tenantId request.applicationId request.subject token
    response.decision response.reason request.resource request.action
    (.authorize request
      (service.outcome request.tenantId request.applicationId request.subject token).grantId
      response)
    ((nonEmptyText requestId).or (some draw.requestId))

/-- `POST /v1/authorize`, with its row. -/
def authorizeAudited (sink : AuditSink) (principal : Principal) (request : AuthorizeRequestSchema)
    (token requestId : Option String) (draw : AuditDraw) :
    Except HttpException AuthorizeResponseSchema × List AuditLog :=
  match service.authorize principal request token with
  | .error e => (.error e, [])
  | .ok response =>
      sink.audited response
        (sink.rows draw requestId [service.authorizeEntry request token requestId draw response])

/-- The decisions of `POST /v1/bulk-authorize`. -/
def bulkDecisions (request : BulkAuthorizeRequestSchema) (token : Option String) :
    Except PyError (List AuthorizeDecision) :=
  let refs := service.refs request.tenantId request.applicationId request.subject
  let delegation := service.outcome request.tenantId request.applicationId request.subject token
  match delegationDeny refs delegation with
  | some reason => .ok (request.checks.map fun c =>
      AuthorizeDecision.deny reason (permissionName c.resource c.action))
  | none => service.engine.bulkAuthorize
      { tenantId := refs.tenantId
        applicationId := refs.applicationId
        subject := delegation.subject.toSubject
        checks := request.checks.map fun c => (c.resource, c.action)
        context := request.context
        delegatedPermissions := delegation.permissions
        references := some refs }

/-- The result of a check. -/
def bulkResult (check : BulkCheckSchema) (decision : AuthorizeDecision) : BulkCheckResultSchema :=
  ⟨check.resource, check.action, decision.allowed, decision.reason⟩

/-- The entry of a check of `POST /v1/bulk-authorize`. -/
def checkEntry (request : BulkAuthorizeRequestSchema) (token requestId : Option String)
    (check : BulkCheckSchema) (decision : AuthorizeDecision) : AuditEntry :=
  service.auditEntry request.tenantId request.applicationId request.subject token
    decision.decision decision.reason check.resource check.action
    (.check request
      (service.outcome request.tenantId request.applicationId request.subject token).grantId
      (bulkResult check decision))
    requestId

/-- `POST /v1/bulk-authorize`, with a row for each check. -/
def bulkAuthorizeAudited (sink : AuditSink) (principal : Principal)
    (request : BulkAuthorizeRequestSchema) (token requestId : Option String) (draw : AuditDraw) :
    Except HttpException BulkAuthorizeResponseSchema × List AuditLog :=
  match requireRuntime principal with
  | .error e => (.error e, [])
  | .ok () =>
      let refs := service.refs request.tenantId request.applicationId request.subject
      match enforceTenantScopeBinding principal refs.tenantId with
      | .error e => (.error e, [])
      | .ok () =>
          match service.bulkDecisions request token with
          | .error _ => (.error internalServerError, [])
          | .ok decisions =>
              let decided := request.checks.zip decisions
              sink.audited ⟨decided.map fun (check, decision) => bulkResult check decision⟩
                (sink.rows draw requestId (decided.map fun (check, decision) =>
                  service.checkEntry request token requestId check decision))

/-- The endpoint without a log, from the same decisions. -/
lemma bulkAuthorize_eq (principal : Principal) (request : BulkAuthorizeRequestSchema)
    (token : Option String) :
    service.bulkAuthorize principal request token =
      match requireRuntime principal with
      | .error e => .error e
      | .ok () =>
          match enforceTenantScopeBinding principal
              (service.refs request.tenantId request.applicationId request.subject).tenantId with
          | .error e => .error e
          | .ok () =>
              match service.bulkDecisions request token with
              | .error _ => .error internalServerError
              | .ok decisions => .ok ⟨(request.checks.zip decisions).map fun (check, decision) =>
                  bulkResult check decision⟩ := rfl

end Service

/-! ### The log -/

/-- What happens to the log; a change of `managed_by` is written whatever the sink wants. -/
inductive AuditEvent where
  | authorize (service : Service) (principal : Principal) (request : AuthorizeRequestSchema)
      (token requestId : Option String) (draw : AuditDraw)
  | bulkAuthorize (service : Service) (principal : Principal)
      (request : BulkAuthorizeRequestSchema) (token requestId : Option String) (draw : AuditDraw)
  | management (entry : AuditEntry) (draw : AuditDraw)
  | prune (now : DateTime)

/-- Microseconds of a day. -/
def day : ℤ := 86400 * second

namespace AuditSink

variable (sink : AuditSink)

/-- The rows an event writes. -/
def written : AuditEvent → List AuditLog
  | .authorize service principal request token requestId draw =>
      (service.authorizeAudited sink principal request token requestId draw).2
  | .bulkAuthorize service principal request token requestId draw =>
      (service.bulkAuthorizeAudited sink principal request token requestId draw).2
  | .management entry draw => [entry.row draw none 0].takeWhile sink.fits
  | .prune _ => []

/-- `prune_audit_log`. -/
def pruneAuditLog (now : DateTime) (log : List AuditLog) : List AuditLog :=
  if sink.retentionDays ≤ 0 then log
  else log.filter fun row => ¬row.createdAt < now - sink.retentionDays * day

/-- One event of the log. -/
def step (log : List AuditLog) : AuditEvent → List AuditLog
  | .prune now => sink.pruneAuditLog now log
  | event => log ++ sink.written event

/-- The log after the first events of a run. -/
def log (events : ℕ → AuditEvent) : ℕ → List AuditLog
  | 0 => []
  | n + 1 => sink.step (log events n) (events n)

/-- An event prunes a row. -/
def Prunes (row : AuditLog) (event : AuditEvent) : Prop :=
  ∃ now, event = .prune now ∧ 0 < sink.retentionDays ∧
    row.createdAt < now - sink.retentionDays * day

variable {sink} {row : AuditLog} {event : AuditEvent} {events : ℕ → AuditEvent}

lemma mem_step {log : List AuditLog} :
    row ∈ sink.step log event ↔ row ∈ log ∧ ¬sink.Prunes row event ∨ row ∈ sink.written event := by
  cases event with
  | prune now =>
      have hprunes : sink.Prunes row (.prune now) ↔ 0 < sink.retentionDays ∧
          row.createdAt < now - sink.retentionDays * day := by
        constructor
        · rintro ⟨now', hnow, h⟩
          rwa [AuditEvent.prune.inj hnow]
        · exact fun h => ⟨now, rfl, h⟩
      have hwritten : row ∉ sink.written (.prune now) := List.not_mem_nil
      rw [step, pruneAuditLog, hprunes, or_iff_left hwritten]
      by_cases hoff : sink.retentionDays ≤ 0
      · rw [if_pos hoff, and_iff_left fun h => absurd hoff (not_le.mpr h.1)]
      · rw [if_neg hoff, List.mem_filter, decide_eq_true_iff]
        rw [not_le] at hoff
        simp only [hoff, true_and]
  | authorize service principal request token requestId draw =>
      have hkeeps : ¬sink.Prunes row (.authorize service principal request token requestId draw) := by
        rintro ⟨now, hnow, -⟩
        cases hnow
      rw [step, List.mem_append, and_iff_left hkeeps]
      · rintro now ⟨⟩
  | bulkAuthorize service principal request token requestId draw =>
      have hkeeps : ¬sink.Prunes row
          (.bulkAuthorize service principal request token requestId draw) := by
        rintro ⟨now, hnow, -⟩
        cases hnow
      rw [step, List.mem_append, and_iff_left hkeeps]
      · rintro now ⟨⟩
  | management entry draw =>
      have hkeeps : ¬sink.Prunes row (.management entry draw) := by
        rintro ⟨now, hnow, -⟩
        cases hnow
      rw [step, List.mem_append, and_iff_left hkeeps]
      · rintro now ⟨⟩

/-- **The rows of the log** are those that were written and that nothing has pruned since. -/
theorem mem_log (n : ℕ) :
    row ∈ sink.log events n ↔
      ∃ i < n, row ∈ sink.written (events i) ∧ ∀ j, i < j → j < n → ¬sink.Prunes row (events j) := by
  induction n with
  | zero =>
      constructor
      · exact fun h => absurd h List.not_mem_nil
      · rintro ⟨i, hi, -⟩
        exact absurd hi (Nat.not_lt_zero i)
  | succ n ih =>
      rw [log, mem_step, ih]
      constructor
      · rintro (⟨⟨i, hi, hwritten, hkept⟩, hnow⟩ | hwritten)
        · refine ⟨i, Nat.lt_succ_of_lt hi, hwritten, fun j hij hj => ?_⟩
          rcases Nat.lt_succ_iff_lt_or_eq.mp hj with hlt | rfl
          · exact hkept j hij hlt
          · exact hnow
        · exact ⟨n, Nat.lt_succ_self n, hwritten,
            fun j hij hj => absurd hij (not_lt.mpr (Nat.lt_succ_iff.mp hj))⟩
      · rintro ⟨i, hi, hwritten, hkept⟩
        rcases Nat.lt_succ_iff_lt_or_eq.mp hi with hlt | rfl
        · exact Or.inl ⟨⟨i, hlt, hwritten,
            fun j hij hj => hkept j hij (Nat.lt_succ_of_lt hj)⟩, hkept n hlt (Nat.lt_succ_self n)⟩
        · exact Or.inr hwritten

/-- A row that was written is in the log, or was pruned since. -/
lemma mem_log_or_pruned {i n : ℕ} (hi : i < n) (h : row ∈ sink.written (events i)) :
    row ∈ sink.log events n ∨ ∃ j, i < j ∧ j < n ∧ sink.Prunes row (events j) := by
  by_cases hpruned : ∃ j, i < j ∧ j < n ∧ sink.Prunes row (events j)
  · exact Or.inr hpruned
  · push Not at hpruned
    exact Or.inl ((mem_log n).mpr ⟨i, hi, h, hpruned⟩)

end AuditSink

/-! ### Decisions and their rows -/

/-- The decision of an allowed or a denied check. -/
def decisionName (allowed : Bool) : String := if allowed then "allow" else "deny"

namespace AuthorizationEngine

variable {engine : AuthorizationEngine}

/-- A decision says whether it allows. -/
lemma decision_of_authorize {request : AuthorizeRequest} {d : AuthorizeDecision}
    (h : engine.authorize request = .ok d) : d.decision = decisionName d.allowed := by
  rw [authorize_eq] at h
  split at h
  · rw [← Except.ok.inj h]
    rfl
  · rw [decide] at h
    split_ifs at h
    · split at h
      · cases h
      · rw [← Except.ok.inj h]
        rfl
      · rw [← Except.ok.inj h]
        rfl
    · rw [← Except.ok.inj h]
      rfl

lemma decision_of_bulkAuthorize {request : BulkAuthorizeRequest} {ds : List AuthorizeDecision}
    (h : engine.bulkAuthorize request = .ok ds) {d : AuthorizeDecision} (hd : d ∈ ds) :
    d.decision = decisionName d.allowed := by
  rw [bulkAuthorize_eq_mapM] at h
  have hall := mapM_eq_ok_iff.mp h
  clear h
  generalize request.checks = checks at hall
  induction hall with
  | nil => exact absurd hd List.not_mem_nil
  | cons hcheck _ ih =>
      rcases List.mem_cons.mp hd with rfl | hd
      · exact decision_of_authorize hcheck
      · exact ih hd

end AuthorizationEngine

namespace AuditSink

variable {sink : AuditSink} {draw : AuditDraw} {requestId : Option String} {row : AuditLog}
  {entries : List AuditEntry} {entry : AuditEntry}

lemma wants_iff {allowed : Bool} (h : entry.decision = decisionName allowed) :
    sink.wants entry = true ↔ allowed = false ∨ sink.auditAll = true := by
  rw [wants, h, Bool.or_eq_true]
  cases allowed with
  | true => simp [decisionName]
  | false => simp [decisionName]

variable (draw requestId) in
/-- An entry that is wanted has its row. -/
lemma exists_row (hentry : entry ∈ entries) (hwants : sink.wants entry = true) :
    ∃ k, entry.row draw requestId k ∈ sink.rows draw requestId entries := by
  have hmem : entry ∈ entries.filter sink.wants := List.mem_filter.mpr ⟨hentry, hwants⟩
  obtain ⟨k, hk⟩ := List.mem_iff_getElem?.mp hmem
  exact ⟨k, List.mem_map.mpr ⟨(entry, k), List.mem_zipIdx_iff_getElem?.mpr hk, rfl⟩⟩

/-- Every row is that of an entry that is wanted. -/
lemma exists_entry (h : row ∈ sink.rows draw requestId entries) :
    ∃ entry ∈ entries, sink.wants entry = true ∧ ∃ k, row = entry.row draw requestId k := by
  obtain ⟨⟨entry, k⟩, hmem, rfl⟩ := List.mem_map.mp h
  have hentry := List.mem_of_getElem? (List.mem_zipIdx_iff_getElem?.mp hmem)
  obtain ⟨hentry, hwants⟩ := List.mem_filter.mp hentry
  exact ⟨entry, hentry, hwants, k, rfl⟩

/-- A request is answered once all of its rows are written. -/
lemma audited_eq_ok {α : Type} {answer response : α} {rows : List AuditLog}
    (h : (sink.audited answer rows).1 = .ok response) :
    answer = response ∧ (sink.audited answer rows).2 = rows := by
  rw [audited] at h ⊢
  dsimp only at h ⊢
  split_ifs at h with hall
  exact ⟨Except.ok.inj h, List.takeWhile_eq_self_iff.mpr (List.all_eq_true.mp hall)⟩

lemma mem_of_mem_audited {α : Type} {answer : α} {rows : List AuditLog}
    (h : row ∈ (sink.audited answer rows).2) : row ∈ rows :=
  (List.takeWhile_sublist _).subset h

end AuditSink

namespace Service

variable {service : Service} {sink : AuditSink} {principal : Principal}
  {token requestId : Option String} {draw : AuditDraw} {row : AuditLog}

section Authorize

variable {request : AuthorizeRequestSchema} {response : AuthorizeResponseSchema}

lemma decision_of_authorize (h : service.authorize principal request token = .ok response) :
    response.decision = decisionName response.allowed := by
  rw [authorize] at h
  split at h
  · cases h
  · dsimp only at h
    split at h
    · cases h
    · split at h
      · cases h
      · rename_i d hd
        rw [← Except.ok.inj h]
        split at hd
        · rw [← Except.ok.inj hd]
          rfl
        · exact AuthorizationEngine.decision_of_authorize hd

/-- **An answered decision** is that of the endpoint without a log, and its row is written. -/
lemma authorizeAudited_eq_ok
    (h : (service.authorizeAudited sink principal request token requestId draw).1 = .ok response) :
    service.authorize principal request token = .ok response ∧
      (response.allowed = false ∨ sink.auditAll = true →
        ∃ k, (service.authorizeEntry request token requestId draw response).row draw requestId k ∈
          (service.authorizeAudited sink principal request token requestId draw).2) := by
  rw [authorizeAudited] at h ⊢
  cases hdecision : service.authorize principal request token with
  | error e =>
      rw [hdecision] at h
      cases h
  | ok response' =>
      rw [hdecision] at h
      dsimp only at h ⊢
      obtain ⟨rfl, hrows⟩ := AuditSink.audited_eq_ok h
      refine ⟨rfl, fun hwanted => ?_⟩
      rw [hrows]
      exact AuditSink.exists_row draw requestId (List.mem_singleton_self _)
        ((AuditSink.wants_iff (decision_of_authorize hdecision)).mpr hwanted)

/-- A row that the endpoint writes is that of its decision. -/
lemma mem_authorizeAudited
    (h : row ∈ (service.authorizeAudited sink principal request token requestId draw).2) :
    ∃ response, service.authorize principal request token = .ok response ∧
      (response.allowed = false ∨ sink.auditAll = true) ∧
      ∃ k, row = (service.authorizeEntry request token requestId draw response).row draw
        requestId k := by
  rw [authorizeAudited] at h
  cases hdecision : service.authorize principal request token with
  | error e =>
      rw [hdecision] at h
      exact absurd h List.not_mem_nil
  | ok response =>
      rw [hdecision] at h
      obtain ⟨entry, hentry, hwants, k, rfl⟩ :=
        AuditSink.exists_entry (AuditSink.mem_of_mem_audited h)
      obtain rfl := List.mem_singleton.mp hentry
      exact ⟨response, rfl, (AuditSink.wants_iff (decision_of_authorize hdecision)).mp hwants, k, rfl⟩

end Authorize

section Bulk

variable {request : BulkAuthorizeRequestSchema} {response : BulkAuthorizeResponseSchema}

lemma decision_of_bulkDecisions {ds : List AuthorizeDecision} {d : AuthorizeDecision}
    (h : service.bulkDecisions request token = .ok ds) (hd : d ∈ ds) :
    d.decision = decisionName d.allowed := by
  rw [bulkDecisions] at h
  split at h
  · rw [← Except.ok.inj h] at hd
    obtain ⟨check, -, rfl⟩ := List.mem_map.mp hd
    rfl
  · exact AuthorizationEngine.decision_of_bulkAuthorize h hd

/-- The endpoint behind its gate. -/
lemma bulkAuthorizeAudited_eq (hadmits : Admits principal
      (service.refs request.tenantId request.applicationId request.subject).tenantId)
    {ds : List AuthorizeDecision} (hds : service.bulkDecisions request token = .ok ds) :
    service.bulkAuthorizeAudited sink principal request token requestId draw =
      sink.audited ⟨(request.checks.zip ds).map fun (check, decision) => bulkResult check decision⟩
        (sink.rows draw requestId ((request.checks.zip ds).map fun (check, decision) =>
          service.checkEntry request token requestId check decision)) := by
  rw [bulkAuthorizeAudited, hadmits.1]
  simp only [hadmits.2, hds]

variable (service sink principal request token requestId draw) in
/-- Without the gate, or where a rule raises, nothing is answered and nothing written. -/
lemma bulkAuthorizeAudited_cases :
    (∃ e, service.bulkAuthorizeAudited sink principal request token requestId draw =
        (.error e, [])) ∨
      Admits principal
        (service.refs request.tenantId request.applicationId request.subject).tenantId ∧
      ∃ ds, service.bulkDecisions request token = .ok ds := by
  rw [bulkAuthorizeAudited]
  cases hruntime : requireRuntime principal with
  | error e => exact Or.inl ⟨e, rfl⟩
  | ok _ =>
      cases hbound : enforceTenantScopeBinding principal
          (service.refs request.tenantId request.applicationId request.subject).tenantId with
      | error e => exact Or.inl ⟨e, by simp only [hbound]⟩
      | ok _ =>
          cases hds : service.bulkDecisions request token with
          | error e => exact Or.inl ⟨internalServerError, by simp only [hbound]⟩
          | ok ds => exact Or.inr ⟨⟨hruntime, hbound⟩, ds, rfl⟩

/-- **An answered bulk request** is that of the endpoint without a log, and each of its results that
is wanted has its row. -/
lemma bulkAuthorizeAudited_eq_ok
    (h : (service.bulkAuthorizeAudited sink principal request token requestId draw).1 =
      .ok response) :
    service.bulkAuthorize principal request token = .ok response ∧
      ∀ (i : ℕ) (check : BulkCheckSchema) (result : BulkCheckResultSchema),
        request.checks[i]? = some check → response.results[i]? = some result →
        result.allowed = false ∨ sink.auditAll = true →
        ∃ decision k, result = bulkResult check decision ∧
          decision.decision = decisionName result.allowed ∧
          (service.checkEntry request token requestId check decision).row draw requestId k ∈
            (service.bulkAuthorizeAudited sink principal request token requestId draw).2 := by
  obtain ⟨e, he⟩ | ⟨hadmits, ds, hds⟩ := service.bulkAuthorizeAudited_cases sink principal token
    requestId draw request
  · rw [he] at h
    cases h
  · rw [bulkAuthorizeAudited_eq hadmits hds] at h ⊢
    obtain ⟨rfl, hrows⟩ := AuditSink.audited_eq_ok h
    refine ⟨?_, fun i check result hcheck hresult hwanted => ?_⟩
    · rw [bulkAuthorize_eq, hadmits.1]
      simp only [hadmits.2, hds]
    · rw [hrows]
      rw [List.getElem?_map, Option.map_eq_some_iff] at hresult
      obtain ⟨⟨check', decision⟩, hzip, rfl⟩ := hresult
      obtain ⟨hcheck', hdecision⟩ := List.getElem?_zip_eq_some.mp hzip
      obtain rfl := Option.some.inj (hcheck.symm.trans hcheck')
      have hname := decision_of_bulkDecisions hds (List.mem_of_getElem? hdecision)
      have hwants : sink.wants (service.checkEntry request token requestId check decision) = true :=
        (AuditSink.wants_iff hname).mpr hwanted
      have hentry : service.checkEntry request token requestId check decision ∈
          (request.checks.zip ds).map fun (check, decision) =>
            service.checkEntry request token requestId check decision :=
        List.mem_map.mpr ⟨(check, decision), List.mem_of_getElem? hzip, rfl⟩
      obtain ⟨k, hk⟩ := AuditSink.exists_row draw requestId hentry hwants
      exact ⟨decision, k, rfl, hname, hk⟩

/-- A row that the endpoint writes is that of one of its decisions. -/
lemma mem_bulkAuthorizeAudited
    (h : row ∈ (service.bulkAuthorizeAudited sink principal request token requestId draw).2) :
    ∃ ds check decision, service.bulkDecisions request token = .ok ds ∧
      (check, decision) ∈ request.checks.zip ds ∧
      (decision.allowed = false ∨ sink.auditAll = true) ∧
      ∃ k, row = (service.checkEntry request token requestId check decision).row draw
        requestId k := by
  obtain ⟨e, he⟩ | ⟨hadmits, ds, hds⟩ := service.bulkAuthorizeAudited_cases sink principal token
    requestId draw request
  · rw [he] at h
    exact absurd h List.not_mem_nil
  · rw [bulkAuthorizeAudited_eq hadmits hds] at h
    obtain ⟨entry, hentry, hwants, k, rfl⟩ :=
      AuditSink.exists_entry (AuditSink.mem_of_mem_audited h)
    obtain ⟨⟨check, decision⟩, hzip, rfl⟩ := List.mem_map.mp hentry
    have hname := decision_of_bulkDecisions hds (List.of_mem_zip hzip).2
    exact ⟨ds, check, decision, hds, hzip, (AuditSink.wants_iff hname).mp hwants, k, rfl⟩

end Bulk

end Service

/-! ### The trail -/

namespace AuditSink

/-- The row was written by the event `i` of a run, and is in the log before the event `n` unless it
was pruned in between. -/
def OnRecord (sink : AuditSink) (events : ℕ → AuditEvent) (n i : ℕ) (row : AuditLog) : Prop :=
  row ∈ sink.written (events i) ∧
    (row ∈ sink.log events n ∨ ∃ j, i < j ∧ j < n ∧ sink.Prunes row (events j))

/-- The row is that of a decision of the event, or of the change the event is about. -/
def Decides (sink : AuditSink) (row : AuditLog) : AuditEvent → Prop
  | .authorize service principal request token requestId draw =>
      ∃ response, service.authorize principal request token = .ok response ∧
        (response.allowed = false ∨ sink.auditAll = true) ∧
        ∃ k, row = (service.authorizeEntry request token requestId draw response).row draw
          requestId k
  | .bulkAuthorize service _ request token requestId draw =>
      ∃ decisions check decision, service.bulkDecisions request token = .ok decisions ∧
        (check, decision) ∈ request.checks.zip decisions ∧
        (decision.allowed = false ∨ sink.auditAll = true) ∧
        ∃ k, row = (service.checkEntry request token requestId check decision).row draw requestId k
  | .management entry draw => row = entry.row draw none 0
  | .prune _ => False

/-- **The audit trail is complete and exact**: in every run, a decision that was answered is that of
the endpoint without a log, and if it is a deny, or everything is audited, its row stays in the log
until it is older than the retention; and there is no row but of such a decision, or of a change of
`managed_by`. -/
theorem audit_trail (sink : AuditSink) (events : ℕ → AuditEvent) (n : ℕ) :
    (∀ i < n, ∀ service principal request token requestId draw response,
      events i = .authorize service principal request token requestId draw →
      (service.authorizeAudited sink principal request token requestId draw).1 = .ok response →
      service.authorize principal request token = .ok response ∧
        (response.allowed = false ∨ sink.auditAll = true → ∃ k, sink.OnRecord events n i
          ((service.authorizeEntry request token requestId draw response).row draw requestId k))) ∧
    (∀ i < n, ∀ service principal request token requestId draw response,
      events i = .bulkAuthorize service principal request token requestId draw →
      (service.bulkAuthorizeAudited sink principal request token requestId draw).1 = .ok response →
      service.bulkAuthorize principal request token = .ok response ∧
        ∀ (l : ℕ) (check : BulkCheckSchema) (result : BulkCheckResultSchema),
          request.checks[l]? = some check → response.results[l]? = some result →
          result.allowed = false ∨ sink.auditAll = true →
          ∃ decision k, result = Service.bulkResult check decision ∧
            decision.decision = decisionName result.allowed ∧ sink.OnRecord events n i
              ((service.checkEntry request token requestId check decision).row draw requestId k)) ∧
    ∀ row ∈ sink.log events n, ∃ i < n, sink.Decides row (events i) := by
  refine ⟨?_, ?_, ?_⟩
  · intro i hi service principal request token requestId draw response hevent hanswer
    obtain ⟨hsame, hrow⟩ := Service.authorizeAudited_eq_ok hanswer
    refine ⟨hsame, fun hwanted => ?_⟩
    obtain ⟨k, hk⟩ := hrow hwanted
    have hwritten : (service.authorizeEntry request token requestId draw response).row draw
        requestId k ∈ sink.written (events i) := by
      rw [hevent]
      exact hk
    exact ⟨k, hwritten, mem_log_or_pruned hi hwritten⟩
  · intro i hi service principal request token requestId draw response hevent hanswer
    obtain ⟨hsame, hrow⟩ := Service.bulkAuthorizeAudited_eq_ok hanswer
    refine ⟨hsame, fun l check result hcheck hresult hwanted => ?_⟩
    obtain ⟨decision, k, hdecision, hname, hk⟩ := hrow l check result hcheck hresult hwanted
    have hwritten : (service.checkEntry request token requestId check decision).row draw
        requestId k ∈ sink.written (events i) := by
      rw [hevent]
      exact hk
    exact ⟨decision, k, hdecision, hname, hwritten, mem_log_or_pruned hi hwritten⟩
  · intro row hrow
    obtain ⟨i, hi, hwritten, -⟩ := (mem_log n).mp hrow
    refine ⟨i, hi, ?_⟩
    cases hevent : events i with
    | authorize service principal request token requestId draw =>
        rw [hevent] at hwritten
        exact Service.mem_authorizeAudited hwritten
    | bulkAuthorize service principal request token requestId draw =>
        rw [hevent] at hwritten
        exact Service.mem_bulkAuthorizeAudited hwritten
    | management entry draw =>
        rw [hevent] at hwritten
        exact List.mem_singleton.mp ((List.takeWhile_sublist _).subset hwritten)
    | prune now =>
        rw [hevent] at hwritten
        exact absurd hwritten List.not_mem_nil

/-! ### A deny and its retention -/

section Examples

/-- Denies only, for ninety days. -/
def denySink : AuditSink := ⟨false, fun _ => true, 90⟩

/-- The first row of a request, written at the epoch. -/
def epochDraw : AuditDraw := ⟨fun _ => "row", fun _ => 0, "request"⟩

/-- The agent asks for two permissions, one of which it has. -/
def twoChecks : BulkAuthorizeRequestSchema :=
  ⟨"acme", "crm", Service.acmeAgent, [⟨"deal", "read"⟩, ⟨"deal", "delete"⟩], []⟩

/-- It asks, and a hundred days later the log is pruned. -/
def askedOnce : ℕ → AuditEvent
  | 0 => .bulkAuthorize Service.acmeService Service.acmeKey twoChecks (some "grant") none epochDraw
  | _ => .prune (100 * day)

/-- The deny is written and later pruned; the permission it has leaves no row. -/
theorem audit_trail_askedOnce :
    (denySink.log askedOnce 1).map (fun row => (row.entry.decision, row.entry.action)) =
        [("deny", "delete")] ∧
      (denySink.log askedOnce 2).length = 0 ∧
      ∃ decision k, denySink.OnRecord askedOnce 2 0
        ((Service.acmeService.checkEntry twoChecks (some "grant") none ⟨"deal", "delete"⟩
          decision).row epochDraw none k) := by
  have hanswer : (Service.acmeService.bulkAuthorizeAudited denySink Service.acmeKey twoChecks
      (some "grant") none epochDraw).1 = .ok ⟨[⟨"deal", "read", true, "permission_granted"⟩,
        ⟨"deal", "delete", false, "missing_permission"⟩]⟩ := by
    decide +kernel
  refine ⟨by decide +kernel, by decide +kernel, ?_⟩
  obtain ⟨-, hrow⟩ := (audit_trail denySink askedOnce 2).2.1 0 (by decide) Service.acmeService
    Service.acmeKey twoChecks (some "grant") none epochDraw _ rfl hanswer
  obtain ⟨decision, k, -, -, hk⟩ := hrow 1 _ _ rfl rfl (Or.inl rfl)
  exact ⟨decision, k, hk⟩

end Examples

end AuditSink

end AuthzKit
