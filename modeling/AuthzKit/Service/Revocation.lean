import AuthzKit.Service.Callers
import AuthzKit.Service.Management
import AuthzKit.Service.Stack

/-!
The revocation of an API key, as the callers of the whole service see it.

FastAPI's routing and the handlers of the other routes are parameters; the routes of
`/v1/api-keys` and `require_caller` are modelled.

* `RoutedService.handle`: one request behind the middleware; `handle_revoked` says that a
  revoked key reaches no handler.
* `RoutedService.Denies`: the step of a request that leads to a 401; `denies_iff` says that no
  other one does.
* `revoked_key_unauthorized`: after a key has been revoked, a request that presents it is
  answered 401 exactly when each of its steps denies it.
-/

namespace AuthzKit

open Interleaving

/-- A route that depends on `require_caller`. -/
inductive GuardedRoute where
  | createApiKey (name : String) (scopes : List String) (tenantId : Option String)
      (expiresAt : Option ℕ)
  | listApiKeys
  | rotateApiKey (keyId : String)
  | revokeApiKey (keyId : String)
  | other
deriving DecidableEq

/-- The database: the API keys, and the rest. -/
structure AppState (β : Type*) where
  apiKeys : ApiKeyTable
  rest : β

/-- The service without its middleware. -/
structure RoutedService (β ι : Type*) where
  settings : Settings
  hash : String → String
  /-- Where FastAPI sends a request; `none` for the routes without a caller (health checks,
  static files, the OAuth endpoints), unknown paths and unreadable bodies. -/
  route : HttpRequest → Option GuardedRoute
  /-- What a new API key is made of. -/
  draw : StepInput ι → ApiKeyService.Draw
  jwt : β → StepInput ι → BearerJwt
  publicJwks : β → List Delegations.Jwk
  session : β → StepInput ι → (sessionId : String) → Option SessionPrincipal
  /-- The handlers of the other routes. -/
  openHandler : β → StepInput ι → HttpRequest → β × HttpResponse
  guardedHandler : β → StepInput ι → Caller → HttpRequest → β × HttpResponse
  open_final : ∀ rest d request, 200 ≤ (openHandler rest d request).2.status
  guarded_final : ∀ rest d caller request, 200 ≤ (guardedHandler rest d caller request).2.status
  /-- The JSON text of a response. -/
  detailJson : List (String × String) → String
  recordJson : ApiKeyRecord → Option String → String
  digest : String → String
  backend : Backend

namespace RoutedService

variable {β ι : Type*} (service : RoutedService β ι)

/-- The response to an `HTTPException`. -/
def errorResponse (e : HttpException) : HttpResponse :=
  ⟨e.statusCode, .bytes (service.detailJson e.detail), "application/json", []⟩

/-- What `require_caller` reads now. -/
def sources (s : AppState β) (d : StepInput ι) : CallerSources where
  hash := service.hash
  jwt := service.jwt s.rest d
  publicJwks := service.publicJwks s.rest
  session := service.session s.rest d

def apiKeyNotFound : HttpException := ⟨404, [("reason", "api_key_not_found")]⟩

/-- The answer with a new key, or the 500 of an insert that failed. -/
def created (s : AppState β) (d : StepInput ι) :
    Option (ApiKeyRecord × ApiKeyTable) → AppState β × HttpResponse
  | none => (s, service.errorResponse ⟨500, []⟩)
  | some (record, apiKeys) =>
      ({ s with apiKeys },
        ⟨201, .bytes (service.recordJson record (some (service.draw d).plaintext)),
          "application/json", []⟩)

/-- The handlers of `/v1/api-keys`, for an admin. -/
def apiKeyHandler (s : AppState β) (d : StepInput ι) (caller : Caller) (request : HttpRequest) :
    GuardedRoute → AppState β × HttpResponse
  | .createApiKey name scopes tenantId expiresAt =>
      service.created s d (ApiKeyService.issue service.hash s.apiKeys (service.draw d) name scopes
        tenantId expiresAt none)
  | .listApiKeys =>
      (s, ⟨200, .bytes ("[" ++ ", ".intercalate (s.apiKeys.rows.map fun row =>
        service.recordJson row.toRecord none) ++ "]"), "application/json", []⟩)
  | .rotateApiKey keyId =>
      match ApiKeyService.rotate service.hash s.apiKeys (service.draw d) keyId with
      | none => (s, service.errorResponse apiKeyNotFound)
      | some issued => service.created s d issued
  | .revokeApiKey keyId =>
      if (ApiKeyService.revoke s.apiKeys keyId).1 then
        ({ s with apiKeys := (ApiKeyService.revoke s.apiKeys keyId).2 }, ⟨204, .bytes "", "", []⟩)
      else (s, service.errorResponse apiKeyNotFound)
  | .other =>
      let (rest, response) := service.guardedHandler s.rest d caller request
      ({ s with rest }, response)

/-- A route behind `require_caller`; those of `/v1/api-keys` depend on `require_admin`. -/
def authenticated (s : AppState β) (d : StepInput ι) (caller : Caller) (request : HttpRequest)
    (route : GuardedRoute) : AppState β × HttpResponse :=
  if route = .other then service.apiKeyHandler s d caller request route
  else
    match requireAdmin caller.principal with
    | .error e => (s, service.errorResponse e)
    | .ok () => service.apiKeyHandler s d caller request route

/-- The routes. -/
def handle (s : AppState β) (d : StepInput ι) (request : HttpRequest) :
    AppState β × HttpResponse :=
  match service.route request with
  | none =>
      let (rest, response) := service.openHandler s.rest d request
      ({ s with rest }, response)
  | some route =>
      let (caller, apiKeys) :=
        requireCaller service.settings (service.sources s d) s.apiKeys d.now request
      match caller with
      | .error e => ({ s with apiKeys }, service.errorResponse e)
      | .ok caller => service.authenticated { s with apiKeys } d caller request route

/-! ### What a request does -/

variable {service} {s : AppState β} {d : StepInput ι} {request : HttpRequest}
  {keyId keyHash plaintext : String}

lemma created_final (s : AppState β) (d : StepInput ι)
    (issued : Option (ApiKeyRecord × ApiKeyTable)) :
    200 ≤ (service.created s d issued).2.status := by
  cases issued with
  | none => exact (by decide : 200 ≤ 500)
  | some issued => exact (by decide : 200 ≤ 201)

/-- The handlers answer with final responses. -/
lemma apiKeyHandler_final (s : AppState β) (d : StepInput ι) (caller : Caller)
    (request : HttpRequest) (route : GuardedRoute) :
    200 ≤ (service.apiKeyHandler s d caller request route).2.status := by
  cases route with
  | createApiKey name scopes tenantId expiresAt => exact created_final s d _
  | listApiKeys => exact (by decide : 200 ≤ 200)
  | rotateApiKey keyId =>
      rw [apiKeyHandler]
      split
      · exact (by decide : 200 ≤ 404)
      · exact created_final s d _
  | revokeApiKey keyId =>
      rw [apiKeyHandler]
      split_ifs
      · exact (by decide : 200 ≤ 204)
      · exact (by decide : 200 ≤ 404)
  | other => exact service.guarded_final s.rest d caller request

/-- A caller that is no admin is answered 403 by the routes of `/v1/api-keys`. -/
lemma authenticated_cases (s : AppState β) (d : StepInput ι) (caller : Caller)
    (request : HttpRequest) (route : GuardedRoute) :
    service.authenticated s d caller request route =
        service.apiKeyHandler s d caller request route ∨
      ∃ e : HttpException, e.statusCode = 403 ∧
        service.authenticated s d caller request route = (s, service.errorResponse e) := by
  rw [authenticated]
  split_ifs
  · exact Or.inl rfl
  · rw [requireAdmin]
    split_ifs
    · exact Or.inl rfl
    · exact Or.inr ⟨_, rfl, rfl⟩

/-- Every request gets a final response. -/
lemma handle_final (s : AppState β) (d : StepInput ι) (request : HttpRequest) :
    200 ≤ (service.handle s d request).2.status := by
  rw [handle]
  split
  · exact service.open_final s.rest d request
  · rename_i route _
    cases hcaller : requireCaller service.settings (service.sources s d) s.apiKeys d.now request
      with
    | mk caller apiKeys =>
        cases caller with
        | error e =>
            have hstatus := requireCaller_error (e := e) (by rw [hcaller])
            have hle : ∀ status ∈ [401, 403, 500], 200 ≤ status := by decide
            exact hle e.statusCode hstatus
        | ok caller =>
            rcases service.authenticated_cases { s with apiKeys } d caller request route with
              h | ⟨e, he, h⟩
            · simp only [h]
              exact apiKeyHandler_final _ d caller request route
            · simp only [h]
              exact (by decide : 200 ≤ 403).trans he.ge

variable (service) in
/-- The service behind its middleware. -/
def stack : Stack (AppState β) ι where
  digest := service.digest
  backend := service.backend
  handle := service.handle
  final := handle_final

/-! ### What stays revoked -/

lemma revoked_created {issued : Option (ApiKeyRecord × ApiKeyTable)}
    (h : s.apiKeys.Revoked keyId keyHash)
    (hissued : ∀ record apiKeys, issued = some (record, apiKeys) →
      apiKeys.Revoked keyId keyHash) :
    (service.created s d issued).1.apiKeys.Revoked keyId keyHash := by
  cases issued with
  | none => exact h
  | some issued => exact hissued issued.1 issued.2 rfl

/-- The handlers keep what is revoked. -/
lemma revoked_apiKeyHandler {caller : Caller} {route : GuardedRoute}
    (h : s.apiKeys.Revoked keyId keyHash) :
    (service.apiKeyHandler s d caller request route).1.apiKeys.Revoked keyId keyHash := by
  cases route with
  | createApiKey name scopes tenantId expiresAt =>
      exact revoked_created h fun _ _ hissue => ApiKeyService.revoked_issue h hissue
  | listApiKeys => exact h
  | rotateApiKey keyId =>
      rw [apiKeyHandler]
      split
      · exact h
      · rename_i issued hrotate
        refine revoked_created h fun record apiKeys hissued => ?_
        obtain ⟨old, -, rfl⟩ := Option.map_eq_some_iff.mp hrotate
        exact ApiKeyService.revoked_issue h hissued
  | revokeApiKey keyId =>
      rw [apiKeyHandler]
      split_ifs
      · exact ApiKeyService.revoked_revoke h
      · exact h
  | other => exact h

/-- So does every request. -/
theorem revoked_handle (h : s.apiKeys.Revoked keyId keyHash) :
    (service.handle s d request).1.apiKeys.Revoked keyId keyHash := by
  rw [handle]
  split
  · exact h
  · rename_i route _
    have hcaller : (requireCaller service.settings (service.sources s d) s.apiKeys d.now
        request).2.Revoked keyId keyHash := revoked_requireCaller h
    split
    rename_i heq
    rw [heq] at hcaller
    split
    · exact hcaller
    · rename_i caller
      rcases service.authenticated_cases { s with apiKeys := _ } d caller request route with
        h' | ⟨e, -, h'⟩
      · rw [h']
        exact revoked_apiKeyHandler hcaller
      · rw [h']
        exact hcaller

/-- **A revoked key reaches no handler**: it is answered 401, and nothing changes. -/
theorem handle_revoked (hdev : service.settings.devMode = false)
    (henv : plaintext ∉ service.settings.apiKeys)
    (hconfigured : ∃ resolver,
      getJwtResolver service.settings (service.publicJwks s.rest) = .ok resolver)
    (hpresents : extractCredential request.authorization request.xApiKey =
      some (.apiKey, plaintext))
    (hguarded : (service.route request).isSome)
    (h : s.apiKeys.Revoked keyId (service.hash plaintext)) :
    service.handle s d request = (s, service.errorResponse missingApiKey) := by
  obtain ⟨route, hroute⟩ := Option.isSome_iff_exists.mp hguarded
  have hcaller : requireCaller service.settings (service.sources s d) s.apiKeys d.now request =
      (.error missingApiKey, s.apiKeys) :=
    requireCaller_revoked hdev henv hpresents h hconfigured
  rw [handle, hroute]
  simp only [hcaller]

/-- A key that has been deleted with a 204 is revoked. -/
theorem handle_revokes (hroute : service.route request = some (.revokeApiKey keyId))
    (h204 : (service.handle s d request).2.status = 204) :
    ∃ keyHash, (service.handle s d request).1.apiKeys.Revoked keyId keyHash := by
  rw [handle, hroute] at h204 ⊢
  cases hcaller : requireCaller service.settings (service.sources s d) s.apiKeys d.now request with
  | mk caller apiKeys =>
      rw [hcaller] at h204
      cases caller with
      | error e =>
          have hstatus := requireCaller_error (e := e) (by rw [hcaller])
          have h204 : e.statusCode = 204 := h204
          rw [h204] at hstatus
          exact absurd hstatus (by decide)
      | ok caller =>
          dsimp only at h204 ⊢
          rcases service.authenticated_cases { s with apiKeys } d caller request
            (.revokeApiKey keyId) with h | ⟨e, he, h⟩
          · rw [h] at h204 ⊢
            rw [apiKeyHandler] at h204 ⊢
            split_ifs at h204 ⊢ with hrevoked
            · exact ApiKeyService.revoke_revoked hrevoked
            · cases h204
          · rw [h] at h204
            exact absurd (he.symm.trans h204) (by decide)

end RoutedService

/-! ### Runs -/

variable {β ι : Type*} {service : RoutedService β ι}
variable {c c' : Config (Shared (AppState β)) HttpCall} {keyId keyHash plaintext : String}

namespace RoutedService

/-- A step keeps what is revoked. -/
lemma revoked_act {s : Shared (AppState β)} {call : HttpCall} {d : StepInput ι}
    (h : s.app.apiKeys.Revoked keyId keyHash) :
    (service.stack.act s call d).1.app.apiKeys.Revoked keyId keyHash := by
  by_cases hhandling : ∃ remaining, call.phase = .handling remaining
  · obtain ⟨remaining, hphase⟩ := hhandling
    obtain ⟨_, -, -, happ, -⟩ := Stack.act_handling service.stack s d hphase
    rw [happ]
    exact revoked_handle h
  · rw [Stack.act_app fun remaining hphase => hhandling ⟨remaining, hphase⟩]
    exact h

/-- What is revoked stays revoked. -/
lemma revoked_step {e : Event HttpCall (StepInput ι)}
    (h : c.shared.app.apiKeys.Revoked keyId keyHash)
    (hstep : service.stack.interleaving.machine.step c e c') :
    c'.shared.app.apiKeys.Revoked keyId keyHash := by
  cases e with
  | arrive q =>
      obtain ⟨-, rfl⟩ := hstep
      exact h
  | act i d =>
      obtain ⟨p, -, -, rfl⟩ := hstep
      exact revoked_act h

/-- The request has deleted the key with this id. -/
def Deleted (service : RoutedService β ι) (keyId : String) (call : HttpCall) : Prop :=
  service.route call.request = some (.revokeApiKey keyId) ∧
    ∃ response, call.produced = some response ∧ response.status = 204

/-- A deleted key is revoked. -/
theorem revoked_of_deleted (h : service.stack.interleaving.machine.Reachable c) :
    ∀ p ∈ c.processes, service.Deleted keyId p →
      ∃ keyHash, c.shared.app.apiKeys.Revoked keyId keyHash := by
  refine h.invariant (P := fun c => ∀ p ∈ c.processes, service.Deleted keyId p →
    ∃ keyHash, c.shared.app.apiKeys.Revoked keyId keyHash) ?_ ?_
  · rintro c ⟨-, hnone⟩ p hp
    rw [hnone] at hp
    cases hp
  · rintro c e c' - hc hstep p hp hdeleted
    obtain ⟨i, hi⟩ := List.getElem?_of_mem hp
    have hold : (∃ q ∈ c.processes, service.Deleted keyId q) →
        ∃ keyHash, c'.shared.app.apiKeys.Revoked keyId keyHash := by
      rintro ⟨q, hq, hq'⟩
      obtain ⟨keyHash, hrevoked⟩ := hc q hq hq'
      exact ⟨keyHash, revoked_step hrevoked hstep⟩
    rcases getElem?_of_step hstep hi with hsame | ⟨-, harrived⟩ | ⟨q, d, rfl, hq, rfl⟩
    · exact hold ⟨p, List.mem_of_getElem? hsame, hdeleted⟩
    · have harrived : p = .sent p.request := harrived
      obtain ⟨-, response, hresponse, -⟩ := hdeleted
      rw [harrived] at hresponse
      cases hresponse
    · obtain ⟨hroute, response, hresponse, h204⟩ := hdeleted
      have hroute : service.route q.request = some (.revokeApiKey keyId) := by
        rw [← hroute]
        exact congrArg service.route Stack.act_request.symm
      rcases Stack.produced_act hresponse with hhad | ⟨_, rfl⟩ | ⟨remaining, hphase, hstored⟩
      · exact hold ⟨q, List.mem_of_getElem? hq, hroute, response, hhad, h204⟩
      · exact absurd h204 (by decide : ¬429 = 204)
      · obtain ⟨q', hq', -, rfl⟩ := hstep
        obtain rfl : q = q' := Option.some.inj (hq.symm.trans hq')
        have hstatus : (service.handle c.shared.app d q.request).2.status = 204 :=
          (congrArg StoredResponse.status hstored).symm.trans h204
        obtain ⟨_, -, -, happ, -⟩ :=
          Stack.act_handling service.stack c.shared d hphase
        obtain ⟨keyHash, hrevoked⟩ := handle_revokes hroute hstatus
        have hafter : (service.stack.act c.shared q d).1.app.apiKeys.Revoked keyId keyHash := by
          rw [happ]
          exact hrevoked
        exact ⟨keyHash, hafter⟩

/-- The configuration of the issuers is one that `JwtResolver` takes. -/
def Configured (service : RoutedService β ι) : Prop :=
  ∀ publicJwks, ∃ resolver, getJwtResolver service.settings publicJwks = .ok resolver

/-- The step of a request leads to a 401: no stored answer but a 401 is alive under its cache
key, the rate limiter has room, and a route without a caller refuses it by itself. -/
def Denies (service : RoutedService β ι) (s : Shared (AppState β)) (call : HttpCall)
    (d : StepInput ι) : Prop :=
  match call.phase with
  | .received => ∀ key stored, service.stack.keyOf call = some key →
      (s.store.get d.now key).1 = some stored → stored.status = 401
  | .limiting => s.limiter.limit ≤ 0 ∨
      s.limiter.HasRoom service.backend d.now (rateLimitKey call.request)
  | .handling _ => service.route call.request = none →
      (service.openHandler s.app.rest d call.request).2.status = 401
  | .storing _ _ | .answered _ _ _ => True

/-- A request with a response is past the steps that decide. -/
lemma denies_of_response {s : Shared (AppState β)} {call : HttpCall} {d : StepInput ι}
    {r : HttpResponse} (h : call.response = some r) : service.Denies s call d := by
  cases hphase : call.phase with
  | storing origin response =>
      rw [Denies, hphase]
      trivial
  | answered origin response time =>
      rw [Denies, hphase]
      trivial
  | _ =>
      rw [HttpCall.response, hphase] at h
      cases h

/-- **One step** of a request with a revoked key: what it is answered is a 401 exactly when the
step denies it, and a step without an answer does. -/
lemma denies_iff {s : Shared (AppState β)} {call : HttpCall} {d : StepInput ι}
    (hdev : service.settings.devMode = false) (hconfigured : service.Configured)
    (henv : plaintext ∉ service.settings.apiKeys)
    (hpresents : extractCredential call.request.authorization call.request.xApiKey =
      some (.apiKey, plaintext))
    (hrevoked : s.app.apiKeys.Revoked keyId (service.hash plaintext))
    (hnone : call.response = none) :
    ((service.stack.act s call d).2.response = none → service.Denies s call d) ∧
      ∀ r, (service.stack.act s call d).2.response = some r →
        (r.status = 401 ↔ service.Denies s call d) := by
  rw [Denies]
  cases hphase : call.phase with
  | received =>
      rcases Stack.act_received service.stack s d hphase with
        ⟨hact, hmissed⟩ | ⟨key, stored, hkey, hget, hact⟩
      · rw [hact]
        refine ⟨fun _ key' stored' hkey' hget' => ?_, fun r hr => by cases hr⟩
        rw [hmissed key' hkey'] at hget'
        cases hget'
      · rw [hact]
        refine ⟨fun h => (by cases h), fun r hr => ?_⟩
        obtain rfl : stored.replay = r := Option.some.inj hr
        refine ⟨fun hstatus key' stored' hkey' hget' => ?_, fun h => h key stored hkey hget⟩
        obtain rfl := Option.some.inj (hkey.symm.trans hkey')
        obtain rfl := Option.some.inj (hget.symm.trans hget')
        exact hstatus
  | limiting =>
      rcases Stack.act_limiting service.stack s d hphase with
        ⟨remaining, hact⟩ | ⟨retryAfter, hlimit, hroom, hact⟩
      · rw [hact]
        refine ⟨fun _ => ?_, fun r hr => by cases hr⟩
        by_contra hrefused
        rw [not_or, not_le] at hrefused
        obtain ⟨retryAfter, hallow⟩ := RateLimiter.allow_of_not_hasRoom hrefused.2
        have hresponse : (service.stack.act s call d).2.response =
            some (rateLimitedResponse retryAfter) := by
          rw [Stack.act, hphase]
          simp only [Stack.limit, if_neg (not_le.mpr hrefused.1)]
          rw [show service.stack.backend = service.backend from rfl]
          simp only [hallow]
          exact Stack.response_respond
        rw [hact] at hresponse
        cases hresponse
      · rw [hact]
        refine ⟨fun h => ?_, fun r hr => ?_⟩
        · rw [Stack.response_respond] at h
          cases h
        · rw [Stack.response_respond] at hr
          obtain rfl := Option.some.inj hr
          refine ⟨fun h => absurd h (by decide : ¬429 = 401), fun h => ?_⟩
          exact absurd h (not_or.mpr ⟨not_le.mpr hlimit, hroom⟩)
  | handling remaining =>
      obtain ⟨response, -, hstored, -, hact⟩ := Stack.act_handling service.stack s d hphase
      rw [hact]
      refine ⟨fun h => ?_, fun r hr => ?_⟩
      · rw [Stack.response_respond] at h
        cases h
      · rw [Stack.response_respond] at hr
        obtain rfl := Option.some.inj hr
        have hstatus : response.status = (service.handle s.app d call.request).2.status :=
          congrArg StoredResponse.status hstored
        rw [hstatus]
        cases hroute : service.route call.request with
        | none =>
            rw [handle, hroute]
            exact ⟨fun h _ => h, fun h => h rfl⟩
        | some route =>
            have hguarded : (service.route call.request).isSome := by
              rw [hroute]
              rfl
            rw [handle_revoked hdev henv (hconfigured _) hpresents hguarded hrevoked]
            exact ⟨fun _ hnone => (by cases hnone), fun _ => rfl⟩
  | _ =>
      rw [HttpCall.response, hphase] at hnone
      cases hnone

end RoutedService

variable {states : ℕ → Config (Shared (AppState β)) HttpCall} {n : ℕ}

/-- The steps of the request at `j` that a run takes from one state to the next all deny it. -/
def RoutedService.DeniesAt (service : RoutedService β ι)
    (states : ℕ → Config (Shared (AppState β)) HttpCall) (j k : ℕ) : Prop :=
  ∀ call d, (states k).processes[j]? = some call →
    service.stack.interleaving.machine.step (states k) (.act j d) (states (k + 1)) →
      service.Denies (states k).shared call d

/-- What a run knows of the request at `j`: as long as it has no response, its steps have denied
it, and a response is a 401 exactly when they have. -/
def RoutedService.Tracks (service : RoutedService β ι)
    (states : ℕ → Config (Shared (AppState β)) HttpCall) (plaintext : String) (j m k : ℕ) : Prop :=
  ((states k).processes[j]? = none → ∀ l, m ≤ l → l < k → service.DeniesAt states j l) ∧
    ∀ q, (states k).processes[j]? = some q →
      extractCredential q.request.authorization q.request.xApiKey = some (.apiKey, plaintext) →
      (q.response = none → ∀ l, m ≤ l → l < k → service.DeniesAt states j l) ∧
        ∀ r, q.response = some r →
          (r.status = 401 ↔ ∀ l, m ≤ l → l < k → service.DeniesAt states j l)

namespace RoutedService

variable {j m k : ℕ}

/-- A request takes its step when it is its turn. -/
lemma eq_of_step {call q : HttpCall} {d : StepInput ι} (hget : c.processes[j]? = some call)
    (hstep : service.stack.interleaving.machine.step c (.act j d) c')
    (hq : c'.processes[j]? = some q) : q = (service.stack.act c.shared call d).2 := by
  obtain ⟨call', hget', -, rfl⟩ := hstep
  obtain rfl := Option.some.inj (hget.symm.trans hget')
  exact Option.some.inj (hq.symm.trans (getElem?_after_self hget))

lemma deniesAt_succ (hmk : m ≤ k) : (∀ l, m ≤ l → l < k + 1 → service.DeniesAt states j l) ↔
    (∀ l, m ≤ l → l < k → service.DeniesAt states j l) ∧ service.DeniesAt states j k := by
  refine ⟨fun hall => ⟨fun l hl hlk => hall l hl (by omega), hall k hmk (by omega)⟩, ?_⟩
  rintro ⟨hbefore, hk⟩ l hl hlk
  rcases Nat.lt_succ_iff_lt_or_eq.mp hlk with hlt | rfl
  · exact hbefore l hl hlt
  · exact hk

/-- A request that has not arrived takes no step. -/
lemma deniesAt_of_absent (hnone : (states k).processes[j]? = none) :
    service.DeniesAt states j k := by
  intro call d hget _
  rw [hnone] at hget
  cases hget

/-- A request with a response waits for nothing. -/
lemma deniesAt_of_response {call : HttpCall} {r : HttpResponse}
    (hget : (states k).processes[j]? = some call) (hresponse : call.response = some r) :
    service.DeniesAt states j k := by
  intro call' d hget' _
  obtain rfl := Option.some.inj (hget.symm.trans hget')
  exact denies_of_response hresponse

/-- A request that does not move has a response, or it is not its turn. -/
lemma deniesAt_of_same {q : HttpCall} (hsame : (states k).processes[j]? = some q)
    (hq : (states (k + 1)).processes[j]? = some q) : service.DeniesAt states j k := by
  cases hresponse : q.response with
  | some r => exact deniesAt_of_response hsame hresponse
  | none =>
      have hopen : q.answer = none := by
        cases hanswer : q.answer with
        | none => rfl
        | some r =>
            rw [HttpCall.response_of_answer hanswer] at hresponse
            cases hresponse
      intro call d hget hturn
      have hmoves := Stack.act_phase_ne service.stack (states k).shared d hopen
      rw [← eq_of_step hsame hturn hq] at hmoves
      exact absurd rfl hmoves

/-- A request without a response takes a step that denies it, or one that ends in another
response than a 401. -/
lemma deniesAt_of_turn (hdev : service.settings.devMode = false)
    (hconfigured : service.Configured) (henv : plaintext ∉ service.settings.apiKeys)
    {call q : HttpCall} {d : StepInput ι} (hget : (states k).processes[j]? = some call)
    (hq : (states (k + 1)).processes[j]? = some q)
    (hstep : service.stack.interleaving.machine.step (states k) (.act j d) (states (k + 1)))
    (hpresents : extractCredential call.request.authorization call.request.xApiKey =
      some (.apiKey, plaintext))
    (hrevoked : (states k).shared.app.apiKeys.Revoked keyId (service.hash plaintext))
    (hresponse : call.response = none) :
    (q.response = none → service.DeniesAt states j k) ∧
      ∀ r, q.response = some r → (r.status = 401 ↔ service.DeniesAt states j k) := by
  have hturn : ∀ d', service.stack.interleaving.machine.step (states k) (.act j d')
      (states (k + 1)) → (q.response = none → service.Denies (states k).shared call d') ∧
        ∀ r, q.response = some r → (r.status = 401 ↔ service.Denies (states k).shared call d') := by
    intro d' hstep'
    rw [eq_of_step hget hstep' hq]
    exact denies_iff hdev hconfigured henv hpresents hrevoked hresponse
  have hall : (∀ d', service.stack.interleaving.machine.step (states k) (.act j d')
      (states (k + 1)) → service.Denies (states k).shared call d') →
      service.DeniesAt states j k := by
    intro hdenies call' d' hget' hstep'
    obtain rfl := Option.some.inj (hget.symm.trans hget')
    exact hdenies d' hstep'
  refine ⟨fun hnone => hall fun d' hd' => (hturn d' hd').1 hnone, fun r hr => ⟨fun h401 => ?_,
    fun hdenies => ?_⟩⟩
  · exact hall fun d' hd' => ((hturn d' hd').2 r hr).mp h401
  · exact ((hturn d hstep).2 r hr).mpr (hdenies call d hget hstep)

/-- A run goes on knowing it. -/
lemma tracks_step (hdev : service.settings.devMode = false) (hconfigured : service.Configured)
    (henv : plaintext ∉ service.settings.apiKeys) (hmk : m ≤ k) {e : Event HttpCall (StepInput ι)}
    (hstep : service.stack.interleaving.machine.step (states k) e (states (k + 1)))
    (hrevoked : (states k).shared.app.apiKeys.Revoked keyId (service.hash plaintext))
    (h : service.Tracks states plaintext j m k) : service.Tracks states plaintext j m (k + 1) := by
  refine ⟨fun hnone => ?_, fun q hq hpresents => ?_⟩
  · have hbefore : (states k).processes[j]? = none := by
      cases hget : (states k).processes[j]? with
      | none => rfl
      | some call =>
          rcases getElem?_step hstep hget with hsame | ⟨d, -, -, hsame⟩ <;>
            rw [hnone] at hsame <;> cases hsame
    exact (deniesAt_succ hmk).mpr ⟨h.1 hbefore, deniesAt_of_absent hbefore⟩
  · rw [deniesAt_succ hmk]
    rcases getElem?_of_step hstep hq with hsame | ⟨hnone, harrives⟩ | ⟨call, d, rfl, hget, hact⟩
    · -- the request does not move
      have hk : service.DeniesAt states j k := deniesAt_of_same hsame hq
      obtain ⟨hopen, hdone⟩ := h.2 q hsame hpresents
      exact ⟨fun hnone => ⟨hopen hnone, hk⟩, fun r hr => (hdone r hr).trans
        ⟨fun hall => ⟨hall, hk⟩, And.left⟩⟩
    · -- it arrives
      have harrives : q = .sent q.request := harrives
      have hresponse : q.response = none := by
        rw [harrives]
        rfl
      refine ⟨fun _ => ⟨h.1 hnone, deniesAt_of_absent hnone⟩, fun r hr => ?_⟩
      rw [hresponse] at hr
      cases hr
    · -- it takes its step
      have hrequest : q.request = call.request := by
        rw [hact]
        exact Stack.act_request
      rw [hrequest] at hpresents
      obtain ⟨hopen, hdone⟩ := h.2 call hget hpresents
      cases hresponse : call.response with
      | some r =>
          have hk : service.DeniesAt states j k := deniesAt_of_response hget hresponse
          have hkept : q.response = some r := hact ▸ Stack.response_act hresponse
          rw [hkept]
          refine ⟨fun hnone => (by cases hnone), fun r' hr => ?_⟩
          obtain rfl := Option.some.inj hr
          exact (hdone r hresponse).trans ⟨fun hall => ⟨hall, hk⟩, And.left⟩
      | none =>
          obtain ⟨hdenied, hended⟩ := deniesAt_of_turn hdev hconfigured henv hget hq hstep hpresents
            hrevoked hresponse
          exact ⟨fun hnone => ⟨hopen hresponse, hdenied hnone⟩, fun r hr => (hended r hr).trans
            ⟨fun hk => ⟨hopen hresponse, hk⟩, And.right⟩⟩

end RoutedService

/-- **Revocation is immediate where nothing answers before the caller is resolved**: once the
deletion of a key has been answered 204, a later request that presents it is answered 401 exactly
when each of its steps denies it. -/
theorem revoked_key_unauthorized (service : RoutedService β ι)
    (hdev : service.settings.devMode = false) (hconfigured : service.Configured)
    (h : service.stack.interleaving.machine.Trace states n) {m m' : ℕ} (hm : m ≤ m')
    (hm' : m' ≤ n) {p q : HttpCall} {i j : ℕ} {response answer : HttpResponse} {time : ℕ}
    (hp : (states m).processes[i]? = some p)
    (hroute : service.route p.request = some (.revokeApiKey keyId))
    (hanswered : p.phase = .answered .handled response time) (h204 : response.status = 204)
    {row : ApiKey} (hrow : row ∈ (states m).shared.app.apiKeys.rows) (hid : row.id = keyId)
    (hhash : row.keyHash = service.hash plaintext) (henv : plaintext ∉ service.settings.apiKeys)
    (hlater : (states m).processes[j]? = none) (hq : (states m').processes[j]? = some q)
    (hpresents : extractCredential q.request.authorization q.request.xApiKey =
      some (.apiKey, plaintext))
    (hanswer : q.answer = some answer) :
    answer.status = 401 ↔ ∀ k, m ≤ k → k < m' → service.DeniesAt states j k := by
  have hdeleted : service.Deleted keyId p :=
    ⟨hroute, response, by rw [HttpCall.produced, hanswered], h204⟩
  obtain ⟨keyHash, row', hrow', hid', rfl, hstatus⟩ := RoutedService.revoked_of_deleted
    (h.reachable (hm.trans hm')) p (List.mem_of_getElem? hp) hdeleted
  obtain rfl : row = row' := ApiKeyTable.eq_of_id hrow hrow' (hid.trans hid'.symm)
  have hrun : (states m').shared.app.apiKeys.Revoked keyId (service.hash plaintext) ∧
      service.Tracks states plaintext j m m' := by
    refine h.from_moment (P := fun k c => c.shared.app.apiKeys.Revoked keyId
      (service.hash plaintext) ∧ service.Tracks states plaintext j m k)
      ⟨⟨row, hrow, hid, hhash, hstatus⟩, ?_, ?_⟩ ?_ hm hm'
    · exact fun _ l hl hlm => absurd hlm (not_lt.mpr hl)
    · intro q hq
      rw [hlater] at hq
      cases hq
    · rintro k e hmk - ⟨hrevoked, htracks⟩ hstep
      exact ⟨RoutedService.revoked_step hrevoked hstep,
        RoutedService.tracks_step hdev hconfigured henv hmk hstep hrevoked htracks⟩
  exact (hrun.2.2 q hq hpresents).2 answer (HttpCall.response_of_answer hanswer)

section Examples

namespace RoutedService

/-- PyJWT when no token is well-formed. -/
def noJwt : BearerJwt where
  getUnverifiedHeader := fun _ => .error "Not enough segments"
  unverified := fun _ => .error "Not enough segments"
  validate := fun _ _ => .error "Not enough segments"
  decode := fun _ _ _ => .error "Not enough segments"

/-- A service with one bootstrap key, a health check, and the deletion of the key `k1`. -/
def sample : RoutedService Unit Unit where
  settings := ⟨false, ["bootstrap"], false, "", "", 900, [], false, false⟩
  hash := fun plaintext =>
    if plaintext = "azk_runtime" then
      "4a3012494c50bc12e86bb264b0f50202c98dea54df1ad6f542a3fe6e7e75e708"
    else plaintext
  route := fun request =>
    if request.path = "/healthz" then none
    else if request.method = "DELETE" ∧ request.path = "/v1/api-keys/k1" then
      some (.revokeApiKey "k1")
    else some .other
  draw := fun _ => ⟨"", ""⟩
  jwt := fun _ _ => noJwt
  publicJwks := fun _ => []
  session := fun _ _ _ => none
  openHandler := fun _ _ _ => ((), ⟨200, .bytes "ok", "application/json", []⟩)
  guardedHandler := fun _ _ _ _ => ((), ⟨200, .bytes "", "application/json", []⟩)
  open_final := fun _ _ _ => (by decide : 200 ≤ 200)
  guarded_final := fun _ _ _ _ => (by decide : 200 ≤ 200)
  detailJson := fun _ => "detail"
  recordJson := fun record _ => record.id
  digest := fun _ => "bc55b5516d428662b5b4d564d5ce4368"
  backend := .memory

/-- The key `k1`. -/
def sampleKey : ApiKey :=
  ⟨"k1", "runtime", sample.hash "azk_runtime", "azk_run", "runtime", none, "active", none, none,
    none⟩

def start : Config (Shared (AppState Unit)) HttpCall :=
  ⟨⟨⟨⟨[sampleKey], List.nodup_singleton _, List.nodup_singleton _⟩, ()⟩, ⟨0, fun _ => []⟩, [], 0⟩,
    []⟩

def deletion : HttpRequest :=
  ⟨"DELETE", "/v1/api-keys/k1", some "bootstrap", none, none, none, none, [], ""⟩

/-- A GET with the key. -/
def keyed (path : String) : HttpRequest :=
  ⟨"GET", path, some "azk_runtime", none, none, none, none, [], ""⟩

/-- The key is deleted; then a request with it is sent. -/
def afterDeletion (path : String) : List (Event HttpCall (StepInput Unit)) :=
  [.arrive (.sent deletion), .act 0 ⟨1, ()⟩, .act 0 ⟨2, ()⟩, .act 0 ⟨3, ()⟩,
    .arrive (.sent (keyed path)), .act 1 ⟨4, ()⟩, .act 1 ⟨5, ()⟩, .act 1 ⟨6, ()⟩]

/-- What the request is answered. -/
def answered (path : String) (status : ℕ) (body : String) : HttpCall :=
  ⟨keyed path, .answered .handled ⟨status, .bytes body, "application/json", []⟩ 6, 1⟩

/-- A POST with the key and an `Idempotency-Key`. -/
def keyedPost : HttpRequest :=
  ⟨"POST", "/v1/authorize", some "azk_runtime", none, none, some "i1", none, [], ""⟩

/-- The POST is answered, the key is deleted, and the POST is sent again. -/
def aroundDeletion : List (Event HttpCall (StepInput Unit)) :=
  [.arrive (.sent keyedPost), .act 0 ⟨1, ()⟩, .act 0 ⟨2, ()⟩, .act 0 ⟨3, ()⟩, .act 0 ⟨4, ()⟩,
    .arrive (.sent deletion), .act 1 ⟨5, ()⟩, .act 1 ⟨6, ()⟩, .act 1 ⟨7, ()⟩,
    .arrive (.sent keyedPost), .act 2 ⟨8, ()⟩]

end RoutedService

open RoutedService in
/-- A deleted key is answered 401 on `/v1/tenants`: every step of the request denies it. -/
theorem revoked_key_unauthorized_tenants :
    let states := fun k =>
      sample.stack.interleaving.run start ((afterDeletion "/v1/tenants").take k)
    (states 8).processes[1]? = some (answered "/v1/tenants" 401 "detail") ∧
      ∀ k, 4 ≤ k → k < 8 → sample.DeniesAt states 1 k := by
  have htrace : sample.stack.interleaving.machine.Trace
      (fun k => sample.stack.interleaving.run start ((afterDeletion "/v1/tenants").take k)) 8 :=
    trace_run ⟨rfl, rfl⟩ (by decide +kernel)
  have hrow : sampleKey.revoke ∈ (sample.stack.interleaving.run start
      ((afterDeletion "/v1/tenants").take 4)).shared.app.apiKeys.rows := List.mem_singleton.mpr rfl
  have hhash : sampleKey.revoke.keyHash = sample.hash "azk_runtime" := rfl
  refine ⟨by decide +kernel, (revoked_key_unauthorized sample rfl (fun _ => ⟨none, rfl⟩) htrace
    (show 4 ≤ 8 by decide) le_rfl (i := 0) (j := 1)
    (p := ⟨deletion, .answered .handled ⟨204, .bytes "", "", []⟩ 3, 1⟩)
    (q := answered "/v1/tenants" 401 "detail") (by decide +kernel) (by decide +kernel) rfl rfl
    hrow rfl hhash (by decide) (by decide +kernel) (by decide +kernel) (by decide +kernel) rfl).mp
    rfl⟩

open RoutedService in
/-- The answer to a POST is replayed to the key that was deleted since. -/
theorem replayed_after_deletion :
    ∃ (states : ℕ → Config (Shared (AppState Unit)) HttpCall) (n : ℕ),
      sample.stack.interleaving.machine.Trace states n ∧
      (∃ p : HttpCall, (states 9).processes[1]? = some p ∧ p.request = deletion ∧
        ∃ response, p.answer = some response ∧ response.status = 204) ∧
      (states 9).processes[2]? = none ∧
      ∃ q : HttpCall, (states n).processes[2]? = some q ∧
        extractCredential q.request.authorization q.request.xApiKey =
          some (.apiKey, "azk_runtime") ∧
        (sample.route q.request).isSome ∧
        ∃ response, q.answer = some response ∧ response.status = 200 :=
  ⟨fun k => sample.stack.interleaving.run start (aroundDeletion.take k), 11,
    trace_run ⟨rfl, rfl⟩ (by decide +kernel),
    ⟨⟨deletion, .answered .handled ⟨204, .bytes "", "", []⟩ 7, 1⟩, by decide +kernel, rfl, _, rfl,
      rfl⟩,
    by decide +kernel,
    ⟨keyedPost, .answered .replayed ⟨200, .bytes "", "application/json",
      [("Idempotent-Replay", "true")]⟩ 8, 0⟩,
    by decide +kernel, by decide +kernel, by decide +kernel, _, rfl, rfl⟩

end Examples

end AuthzKit
