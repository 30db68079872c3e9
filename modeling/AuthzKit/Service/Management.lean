import AuthzKit.Rbac.References
import AuthzKit.Relational.Interleaving
import AuthzKit.Service.Authorize
import AuthzKit.Storage.CatalogExact

/-!
Management ownership of applications (`authz_service/management.py`): an application
with a `managed_by` is written by that caller only.

`PUT /v1/applications/{slug}/catalog`, `POST .../claim-management` and
`POST .../release-management` are modelled by their database sessions: a `Call` is a
request together with the session that comes next, and `Call.act` is that session.
Audit rows are left out.

* `callerLabel`: the identity of a caller as stored in `managed_by`.
* `ManagementGuard.check`: the check that every write to an application passes.
* `Hands`: what one session may do to the managers of the applications; `act_hands`
  says that it does nothing else.
-/

namespace AuthzKit

open Keyed

/-! ### Callers and errors -/

/-- `require_admin`. -/
def requireAdmin (principal : Principal) : Except HttpException Unit :=
  if scopeAdmin ∈ principal.scopes then .ok ()
  else .error ⟨403, [("error", "scope_required"), ("scope", scopeAdmin)]⟩

/-- `caller_label`: the stable identity of a caller. A client is one only in tokens
this service issued itself. -/
def callerLabel (oauthIssuer : String) : Principal → String
  | .apiKey id _ _ => "apikey:" ++ id
  | .session subject _ => "session:" ++ subject
  | .token issuer subject clientId _ _ =>
      match clientId.filter fun c => c ≠ "" with
      | none => "token:" ++ issuer ++ "#" ++ subject
      | some client =>
          if oauthIssuer ≠ "" ∧ issuer = oauthIssuer then "client:" ++ client
          else "token:" ++ issuer ++ "#" ++ client

/-- A label is never empty. -/
lemma callerLabel_ne_empty (oauthIssuer : String) (principal : Principal) :
    callerLabel oauthIssuer principal ≠ "" := by
  have hlabel : ∀ c s : String, c ≠ "" → c ++ s ≠ "" := fun c s hc hs =>
    hc (String.append_eq_empty_iff.mp hs).1
  cases principal with
  | apiKey id _ _ => exact hlabel _ _ (by decide)
  | session subject _ => exact hlabel _ _ (by decide)
  | token issuer subject clientId _ _ =>
      rw [callerLabel]
      split
      · exact hlabel _ _ (hlabel _ _ (hlabel _ _ (by decide)))
      · split
        · exact hlabel _ _ (by decide)
        · exact hlabel _ _ (hlabel _ _ (hlabel _ _ (by decide)))

/-- `managed_externally`. -/
def managedExternally (managedBy : String) (statusCode : ℕ) : HttpException :=
  ⟨statusCode, [("error", "application_managed_externally"), ("managed_by", managedBy)]⟩

def applicationNotFound : HttpException := ⟨404, [("reason", "application_not_found")]⟩

namespace ManagementGuard

/-- `ManagementGuard.check`: writes to a managed application by anyone but its manager
are rejected. -/
def check (caller : String) (app : Application) : Except HttpException Application :=
  match app.managedBy with
  | none => .ok app
  | some m => if m = caller then .ok app else .error (managedExternally m 403)

lemma check_eq_ok_iff {caller : String} {app app' : Application} :
    check caller app = .ok app' ↔
      app' = app ∧ (app.managedBy = none ∨ app.managedBy = some caller) := by
  rw [check]
  cases hm : app.managedBy with
  | none => simp [eq_comm]
  | some m =>
      by_cases hcaller : m = caller
      · simp [hcaller, eq_comm]
      · simp [hcaller]

end ManagementGuard

/-! ### Requests by their sessions -/

/-- `CatalogIn`. -/
structure CatalogIn where
  name : String
  permissions : List CatalogPermission
  defaultRoles : List CatalogRole
deriving DecidableEq

/-- `ApplicationOut`. -/
structure ApplicationOut where
  id : Id
  slug : String
  name : String
  status : String
  managedBy : Option String
deriving DecidableEq, Repr

/-- What one of the three routes answers. -/
inductive ManagementResponse where
  | application (out : ApplicationOut)
  | catalog (result : CatalogResult)
  /-- `_invalid`: a 422 with the report of a `ProvisioningError`. -/
  | invalid (error : String) (errors : List ProvisioningIssue)
  | error (e : HttpException)
deriving DecidableEq

/-- A request that is under way, by what it does next. -/
inductive Call where
  /-- `put_catalog`: its guard reads the application. -/
  | putCatalog (principal : Principal) (appSlug : String) (body : CatalogIn)
  /-- The guard has passed; `apply_application_catalog` is next. -/
  | applyCatalog (caller slug : String) (body : CatalogIn)
  /-- `claim_management`: it reads the application. -/
  | claimManagement (principal : Principal) (applicationId : String)
  /-- The application had no manager; the conditional update is next. -/
  | claim (caller : String) (app : Application)
  /-- The update is committed; the manager is read again. -/
  | manager (caller : String) (app : Application)
  /-- `release_management`: it reads the application. -/
  | releaseManagement (principal : Principal) (applicationId : String)
  /-- `set_application_managed_by` is next. -/
  | release (app : Application)
  | answered (response : ManagementResponse)
deriving DecidableEq

namespace Call

/-- The end of `claim_management`. -/
def claimed (caller : String) (app : Application) (managedBy : Option String) :
    ManagementResponse :=
  if managedBy = some caller then
    .application ⟨app.id, app.slug, app.name, app.status, managedBy⟩
  else .error (managedExternally (managedBy.getD "") 409)

/-- A request as it arrives. -/
def Arrives : Call → Prop
  | putCatalog .. | claimManagement .. | releaseManagement .. => True
  | _ => False

instance : DecidablePred Arrives := fun call => by
  cases call <;> unfold Arrives <;> infer_instance

/-- The highest iteration in which the next session draws a row id. -/
def size : Call → ℕ
  | applyCatalog _ _ body => max body.permissions.length body.defaultRoles.length
  | _ => 0

/-- The manager of an application, if it exists and has one. -/
def managerOf (t : Tables) (applicationId : Id) : Option String :=
  (lookup Application.id t.applications applicationId).bind Application.managedBy

/-- The next session of a request: the store it commits, and what the request does
next. -/
def act (oauthIssuer : String) (s : SqlAlchemyStore) (call : Call) (uuid4 : UuidSource) :
    SqlAlchemyStore × Call :=
  match call with
  | putCatalog principal appSlug body =>
      match requireAdmin principal with
      | .error e => (s, answered (.error e))
      | .ok () =>
          let caller := callerLabel oauthIssuer principal
          match s.tables.findApplication appSlug with
          | none => (s, applyCatalog caller appSlug body)
          | some app =>
              match ManagementGuard.check caller app with
              | .error e => (s, answered (.error e))
              | .ok app => (s, applyCatalog caller app.slug body)
  | applyCatalog caller slug body =>
      match s.applyApplicationCatalog uuid4 slug body.name body.permissions body.defaultRoles
          (some caller) with
      | .ok (s', result) => (s', answered (.catalog result))
      | .error (.provisioningError errors) => (s, answered (.invalid "invalid_catalog" errors))
      | .error _ => (s, answered (.error Service.internalServerError))
  | claimManagement principal applicationId =>
      match requireAdmin principal with
      | .error e => (s, answered (.error e))
      | .ok () =>
          let caller := callerLabel oauthIssuer principal
          match s.tables.findApplication applicationId with
          | none => (s, answered (.error applicationNotFound))
          | some app =>
              if app.managedBy = none then (s, claim caller app)
              else (s, answered (claimed caller app app.managedBy))
  | claim caller app =>
      match s.perform (.claimApplicationManagement app.id caller) uuid4 with
      | .ok s' => (s', manager caller app)
      | .error _ => (s, answered (.error Service.internalServerError))
  | manager caller app => (s, answered (claimed caller app (managerOf s.tables app.id)))
  | releaseManagement principal applicationId =>
      match requireAdmin principal with
      | .error e => (s, answered (.error e))
      | .ok () =>
          match s.tables.findApplication applicationId with
          | none => (s, answered (.error applicationNotFound))
          | some app => (s, release app)
  | release app =>
      match s.perform (.setApplicationManagedBy app.id none) uuid4 with
      | .ok s' => (s', answered (.application ⟨app.id, app.slug, app.name, app.status, none⟩))
      | .error _ => (s, answered (.error Service.internalServerError))
  | answered response => (s, answered response)

end Call

/-! ### What a session does to the managers -/

/-- How an application of the store after a session comes from the store before it. -/
inductive Hands (s : SqlAlchemyStore) (call : Call) (uuid4 : UuidSource) (app' : Application) :
    Prop where
  /-- It keeps its manager. -/
  | kept (app : Application) (mem : app ∈ s.tables.applications) (id : app'.id = app.id)
      (slug : app'.slug = app.slug) (managedBy : app'.managedBy = app.managedBy)
  /-- It is released. -/
  | released (app : Application) (mem : app ∈ s.tables.applications) (id : app'.id = app.id)
      (slug : app'.slug = app.slug) (managedBy : app'.managedBy = none)
  /-- It had no manager and is claimed. -/
  | claimed (app : Application) (mem : app ∈ s.tables.applications) (id : app'.id = app.id)
      (slug : app'.slug = app.slug) (free : app.managedBy = none) (caller : String)
      (row : Application) (call : call = .claim caller row) (row : row.id = app.id)
      (managedBy : app'.managedBy = some caller)
  /-- A catalog created it. -/
  | created (caller slug : String) (body : CatalogIn) (call : call = .applyCatalog caller slug body)
      (valid : catalogIssues body.permissions body.defaultRoles = [])
      (new : ∀ app ∈ s.tables.applications, app.slug ≠ slug) (id : app'.id = uuid4 .application)
      (slug' : app'.slug = slug) (managedBy : app'.managedBy = some caller)

namespace Call

variable {oauthIssuer : String} {s s' : SqlAlchemyStore} {call : Call} {uuid4 : UuidSource}
  {app' : Application}

/-- A session that does not write. -/
lemma hands_of_mem (h : app' ∈ s.tables.applications) : Hands s call uuid4 app' :=
  .kept app' h rfl rfl rfl

/-- A catalog keeps the managers of the applications that exist. -/
lemma applyCatalog_hands {caller slug : String} {body : CatalogIn} {result : CatalogResult}
    (h : s.applyApplicationCatalog uuid4 slug body.name body.permissions body.defaultRoles
      (some caller) = .ok (s', result)) (happ : app' ∈ s'.tables.applications) :
    Hands s (.applyCatalog caller slug body) uuid4 app' := by
  have htables := (SqlAlchemyStore.transaction_eq_ok_iff.mp h).2
  by_cases hissues : catalogIssues body.permissions body.defaultRoles = []
  · rw [Tables.applyApplicationCatalog_eq hissues] at htables
    obtain ⟨ht, -⟩ := Prod.mk.inj (Except.ok.inj htables)
    rw [← ht] at happ
    rcases Tables.catalogApplication_cases s.tables uuid4 slug body.name (some caller) with
      ⟨app, hmem, -, heq⟩ | ⟨hnew, heq⟩
    · rw [Tables.catalogTables, heq] at happ
      rcases mem_update.mp happ with ⟨rfl, -⟩ | ⟨hold, -⟩
      · exact .kept app hmem rfl rfl rfl
      · exact hands_of_mem hold
    · rw [Tables.catalogTables, heq] at happ
      rcases List.mem_append.mp happ with hold | hadded
      · exact hands_of_mem hold
      · rw [List.mem_singleton.mp hadded]
        exact .created caller slug body rfl hissues hnew rfl rfl rfl
  · rw [Tables.applyApplicationCatalog_error hissues] at htables
    cases htables

/-- A claim gives an application without a manager to the caller. -/
lemma claim_hands {caller : String} {row : Application}
    (h : s.perform (.claimApplicationManagement row.id caller) uuid4 = .ok s')
    (happ : app' ∈ s'.tables.applications) : Hands s (.claim caller row) uuid4 app' := by
  have htables := (SqlAlchemyStore.perform_eq_ok_iff.mp h).2
  have ht := Except.ok.inj htables
  rw [← ht] at happ
  obtain ⟨app, hmem, rfl⟩ := List.mem_map.mp happ
  by_cases hfree : app.id = row.id ∧ app.managedBy = none
  · rw [if_pos hfree]
    exact .claimed app hmem rfl rfl hfree.2 caller row rfl hfree.1.symm rfl
  · rw [if_neg hfree]
    exact hands_of_mem hmem

/-- A release takes the manager of one application away. -/
lemma release_hands {row : Application}
    (h : s.perform (.setApplicationManagedBy row.id none) uuid4 = .ok s')
    (happ : app' ∈ s'.tables.applications) : Hands s (.release row) uuid4 app' := by
  obtain ⟨_, htables⟩ := Tables.map_fst_eq_ok (SqlAlchemyStore.perform_eq_ok_iff.mp h).2
  rw [Tables.setApplicationManagedBy] at htables
  split at htables
  · obtain ⟨ht, -⟩ := Prod.mk.inj (Except.ok.inj htables)
    rw [← ht] at happ
    exact hands_of_mem happ
  · rename_i app hl
    obtain ⟨ht, -⟩ := Prod.mk.inj (Except.ok.inj htables)
    rw [← ht] at happ
    rcases mem_update.mp happ with ⟨rfl, -⟩ | ⟨hold, -⟩
    · exact .released app (mem_of_lookup hl) rfl rfl rfl
    · exact hands_of_mem hold

/-- **What one session does to the managers.** -/
theorem act_hands (happ : app' ∈ (act oauthIssuer s call uuid4).1.tables.applications) :
    Hands s call uuid4 app' := by
  cases call with
  | putCatalog principal appSlug body =>
      refine hands_of_mem ?_
      rw [act] at happ
      split at happ
      · exact happ
      · dsimp only at happ
        split at happ
        · exact happ
        · split at happ
          · exact happ
          · exact happ
  | applyCatalog caller slug body =>
      rw [act] at happ
      split at happ
      · rename_i s' result hcall
        exact applyCatalog_hands hcall happ
      · exact hands_of_mem happ
      · exact hands_of_mem happ
  | claimManagement principal applicationId =>
      refine hands_of_mem ?_
      rw [act] at happ
      split at happ
      · exact happ
      · dsimp only at happ
        split at happ
        · exact happ
        · split at happ
          · exact happ
          · exact happ
  | claim caller app =>
      rw [act] at happ
      split at happ
      · rename_i s' hcall
        exact claim_hands hcall happ
      · exact hands_of_mem happ
  | manager caller app => exact hands_of_mem happ
  | releaseManagement principal applicationId =>
      refine hands_of_mem ?_
      rw [act] at happ
      split at happ
      · exact happ
      · split at happ
        · exact happ
        · exact happ
  | release app =>
      rw [act] at happ
      split at happ
      · rename_i s' hcall
        exact release_hands hcall happ
      · exact hands_of_mem happ
  | answered response => exact hands_of_mem happ

end Call

/-- Requests to the three routes in every order of their sessions, from any reachable
store. -/
def managementRequests (oauthIssuer : String) : Interleaving SqlAlchemyStore Call UuidSource where
  initial := SqlAlchemyStore.Reachable
  arrives := Call.Arrives
  admits := fun s call uuid4 => Fresh uuid4 s.tables (Draw.Within call.size)
  act := Call.act oauthIssuer

end AuthzKit
