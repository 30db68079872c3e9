import AuthzKit.Service.AdminLogin

/-!
Runs of the admin login: logins, callbacks, requests, logouts and sweeps of the janitor, in any
order.

* `AdminApp.step`: one call; `AdminApp.answers` and `AdminApp.history`: a run.
* `answers_eq_ledger`: the tables answer every run as the ledger does.
* `answers_without_sweeps`: nobody notices whether the janitor runs.
-/

namespace AuthzKit

open Delegations Text

/-! ### Calls and answers -/

inductive AdminCall where
  | login (returnTo : String) (input : LoginInput)
  | callback (request : CallbackRequest) (input : CallbackInput)
  /-- A request to a route behind `require_caller`. -/
  | request (ctx : CallerContext) (request : HttpRequest) (now : DateTime)
  | logout (ctx : CallerContext) (request : HttpRequest) (now : DateTime)
  /-- `AdminSessionJanitor._tick`. -/
  | prune (now : DateTime)

inductive AdminAnswer where
  | refused (e : RouteError)
  | sent (redirect : LoginRedirect)
  | loggedIn (session : AdminSession) (returnTo : String)
  | served (caller : Caller)
  | loggedOut (caller : Caller)
  | pruned

/-- The answer to a call that returns or raises. -/
def AdminAnswer.of {α : Type} (f : α → AdminAnswer) : Except RouteError α → AdminAnswer
  | .ok a => f a
  | .error e => .refused e

/-- A call and its answer. -/
abbrev AdminEvent := AdminCall × AdminAnswer

namespace AdminCall

/-- When a call reads the clock first. -/
def starts : AdminCall → DateTime
  | .login _ input => input.now
  | .callback _ input => input.now
  | .request _ _ now => now
  | .logout _ _ now => now
  | .prune now => now

/-- When a call reads the clock last. -/
def ends : AdminCall → DateTime
  | .login _ input => input.now
  | .callback _ input => input.created
  | .request _ _ now => now
  | .logout _ _ now => now
  | .prune now => now

/-- The tokens that are drawn for keys of the tables. -/
def drawn : AdminCall → List String
  | .login _ input => [input.cookieId, input.state]
  | .callback _ input => [input.sid]
  | _ => []

def isPrune : AdminCall → Bool
  | .prune _ => true
  | _ => false

/-- The login cookie of a callback that gets as far as to consume it. -/
def presents (settings : AdminOidcSettings) : AdminCall → Option String
  | .callback query _ => (query.presented settings).toOption.map Presented.cookieId
  | _ => none

end AdminCall

section Presents

variable (settings : AdminOidcSettings)

@[simp] lemma presents_login (returnTo : String) (input : LoginInput) :
    (AdminCall.login returnTo input).presents settings = none := rfl

@[simp] lemma presents_request (ctx : CallerContext) (request : HttpRequest) (now : DateTime) :
    (AdminCall.request ctx request now).presents settings = none := rfl

@[simp] lemma presents_logout (ctx : CallerContext) (request : HttpRequest) (now : DateTime) :
    (AdminCall.logout ctx request now).presents settings = none := rfl

@[simp] lemma presents_prune (now : DateTime) :
    (AdminCall.prune now).presents settings = none := rfl

end Presents

/-- The session that ends with a logout. -/
def endedBy : AdminEvent → Option String
  | (.logout _ request _, .loggedOut caller) => AdminApp.ended request caller
  | _ => none

section EndedBy

variable (answer : AdminAnswer)

@[simp] lemma endedBy_login (returnTo : String) (input : LoginInput) :
    endedBy (.login returnTo input, answer) = none := rfl

@[simp] lemma endedBy_callback (request : CallbackRequest) (input : CallbackInput) :
    endedBy (.callback request input, answer) = none := rfl

@[simp] lemma endedBy_request (ctx : CallerContext) (request : HttpRequest) (now : DateTime) :
    endedBy (.request ctx request now, answer) = none := rfl

@[simp] lemma endedBy_prune (now : DateTime) : endedBy (.prune now, answer) = none := rfl

end EndedBy

/-- The clock does not go back. -/
def Timely : DateTime → List AdminCall → Prop
  | _, [] => True
  | clock, call :: calls => clock ≤ call.starts ∧ call.starts ≤ call.ends ∧ Timely call.ends calls

lemma Timely.earlier {clock before : DateTime} {calls : List AdminCall} (h : Timely clock calls)
    (hbefore : before ≤ clock) : Timely before calls := by
  cases calls with
  | nil => trivial
  | cons call calls => exact ⟨hbefore.trans h.1, h.2⟩

lemma Timely.filter {clock : DateTime} {calls : List AdminCall} (h : Timely clock calls)
    (p : AdminCall → Bool) : Timely clock (calls.filter p) := by
  induction calls generalizing clock with
  | nil => exact h
  | cons call calls ih =>
      obtain ⟨hstarts, hends, hrest⟩ := h
      rw [List.filter_cons]
      split_ifs
      · exact ⟨hstarts, hends, ih hrest⟩
      · exact (ih hrest).earlier (hstarts.trans hends)

namespace AdminApp

section Runs

variable {σ : Type} (app : AdminApp) (A : SessionStore σ)

/-- One call. -/
def step (w : AdminState σ) : AdminCall → AdminAnswer × AdminState σ
  | .login returnTo input =>
      (.of .sent (app.oidcLogin A w returnTo input).1, (app.oidcLogin A w returnTo input).2)
  | .callback request input =>
      (.of (fun result => .loggedIn result.1 result.2) (app.oidcCallback A w request input).1,
        (app.oidcCallback A w request input).2)
  | .request ctx request now =>
      (.of .served ((callerOf A ctx w.store now request).1.mapError .http),
        { w with store := (callerOf A ctx w.store now request).2 })
  | .logout ctx request now =>
      (.of .loggedOut ((oidcLogout A ctx w.store now request).1.mapError .http),
        { w with store := (oidcLogout A ctx w.store now request).2 })
  | .prune now => (.pruned, { w with store := A.pruneExpired w.store now })

/-- The calls of a run with their answers. -/
def history (w : AdminState σ) : List AdminCall → List AdminEvent
  | [] => []
  | call :: calls => (call, (app.step A w call).1) :: history (app.step A w call).2 calls

/-- The state after a run. -/
def after (w : AdminState σ) (calls : List AdminCall) : AdminState σ :=
  calls.foldl (fun w call => (app.step A w call).2) w

/-- The answers of a run. -/
def answers (w : AdminState σ) (calls : List AdminCall) : List AdminAnswer :=
  (app.history A w calls).map Prod.snd

/-- The answers of a run to everyone but the janitor. -/
def visible (w : AdminState σ) (calls : List AdminCall) : List AdminAnswer :=
  ((app.history A w calls).filter fun event => !event.1.isPrune).map Prod.snd

end Runs

/-- The tables before the first login, with nothing discovered. -/
def initialTables : AdminState AdminTables := ⟨AdminTables.empty, fun _ => none⟩

/-- The ledger before the first login, with nothing discovered. -/
def initialLedger : AdminState Ledger := ⟨Ledger.empty, fun _ => none⟩

/-! ### The tables and the ledger -/

/-- The tables show the ledger, and both know the same discovery documents. -/
structure Alike (w : AdminState AdminTables) (v : AdminState Ledger) (clock : DateTime)
    (drawn : List String) : Prop where
  store : w.store.Keeps v.store clock drawn
  discovery : w.discovery = v.discovery

variable {app : AdminApp} {w : AdminState AdminTables} {v : AdminState Ledger}
  {clock now : DateTime} {drawn : List String} {calls : List AdminCall}

lemma Alike.later (h : Alike w v clock drawn) (hnow : clock ≤ now) {drawn' : List String}
    (hdrawn : drawn ⊆ drawn') : Alike w v now drawn' :=
  ⟨h.store.later hnow hdrawn, h.discovery⟩

variable (app) in
lemma Alike.oidcLogin {returnTo : String} {input : LoginInput} (h : Alike w v input.now drawn)
    (hcookie : input.cookieId ∉ drawn) (hstate : input.state ∉ drawn) :
    (app.oidcLogin app.service.tables w returnTo input).1 =
        (app.oidcLogin app.service.ledger v returnTo input).1 ∧
      Alike (app.oidcLogin app.service.tables w returnTo input).2
        (app.oidcLogin app.service.ledger v returnTo input).2 input.now
        (input.cookieId :: input.state :: drawn) := by
  have hdrawn : drawn ⊆ input.cookieId :: input.state :: drawn :=
    List.Subset.trans (List.subset_cons_self _ _) (List.subset_cons_self _ _)
  have hsame : ∀ discovery, Alike ⟨w.store, discovery⟩ ⟨v.store, discovery⟩ input.now
      (input.cookieId :: input.state :: drawn) :=
    fun discovery => ⟨h.store.later le_rfl hdrawn, rfl⟩
  rw [AdminApp.oidcLogin, AdminApp.oidcLogin, ← h.discovery]
  split_ifs with hconfigured
  · cases isSafeReturnTo app.lib returnTo with
    | error e => exact ⟨rfl, h.later le_rfl hdrawn⟩
    | ok safe =>
        dsimp only
        rcases oidcDiscover app.oidc.issuer input.discovery w.discovery with ⟨e | document, discovery⟩
        · exact ⟨rfl, hsame discovery⟩
        · dsimp only
          cases document.truthy "authorization_endpoint" with
          | none => exact ⟨rfl, hsame discovery⟩
          | some authUrl =>
              dsimp only [AdminSessionService.tables, AdminSessionService.ledger]
              rcases h.store.createLoginAttempt app.service
                ⟨input.cookieId, input.state, input.codeVerifier, input.nonce,
                  if safe then returnTo else "/admin/"⟩ hcookie hstate with
                ⟨ht, hl⟩ | ⟨t', l', attempt, ht, hl, hkeeps⟩
              · rw [ht, hl]
                exact ⟨rfl, hsame discovery⟩
              · rw [ht, hl]
                exact ⟨rfl, hkeeps, rfl⟩
  · exact ⟨rfl, h.later le_rfl hdrawn⟩

/-- The only scope of an admin is stored and read back. -/
lemma parseScopes_admin : parseScopes (",".intercalate [scopeAdmin]) = [scopeAdmin] := by
  decide +kernel

variable (app) in
lemma Alike.oidcCallback {request : CallbackRequest} {input : CallbackInput}
    (h : Alike w v input.now drawn) (htime : input.now ≤ input.created) (hsid : input.sid ∉ drawn) :
    (app.oidcCallback app.service.tables w request input).1 =
        (app.oidcCallback app.service.ledger v request input).1 ∧
      Alike (app.oidcCallback app.service.tables w request input).2
        (app.oidcCallback app.service.ledger v request input).2 input.created
        (input.sid :: drawn) := by
  have hdrawn : drawn ⊆ input.sid :: drawn := List.subset_cons_self _ _
  rw [AdminApp.oidcCallback, AdminApp.oidcCallback, ← h.discovery]
  cases request.presented app.oidc with
  | error e => exact ⟨rfl, h.later htime hdrawn⟩
  | ok p =>
      dsimp only [AdminSessionService.tables, AdminSessionService.ledger]
      obtain ⟨hconsumed, hkeeps⟩ := h.store.consumeLoginAttempt p.cookieId p.state
      revert hconsumed hkeeps
      rcases w.store.consumeLoginAttempt input.now p.cookieId p.state with ⟨t, found⟩
      rcases v.store.consumeLoginAttempt input.now p.cookieId p.state with ⟨l, found'⟩
      dsimp only
      rintro rfl hkeeps
      have hsame : ∀ discovery, Alike ⟨t, discovery⟩ ⟨l, discovery⟩ input.created
          (input.sid :: drawn) := fun discovery => ⟨hkeeps.later htime hdrawn, rfl⟩
      cases found with
      | none => exact ⟨rfl, hsame w.discovery⟩
      | some attempt =>
          dsimp only
          rcases oidcDiscover app.oidc.issuer input.discovery w.discovery with
            ⟨e | document, discovery⟩
          · exact ⟨rfl, hsame discovery⟩
          · dsimp only
            cases hopened : app.newSession document p.code attempt input with
            | error e => exact ⟨rfl, hsame discovery⟩
            | ok new =>
                obtain ⟨-, -, -, -, -, -, -, -, hscopes, hnew, -⟩ := newSession_eq_ok hopened
                dsimp only
                rcases (hkeeps.later htime (List.Subset.refl _)).createSession app.service new
                  (hnew ▸ hsid) (by rw [hscopes, parseScopes_admin]) with
                  ⟨ht, hl⟩ | ⟨t', l', session, ht, hl, hkeeps'⟩
                · rw [ht, hl]
                  exact ⟨rfl, hsame discovery⟩
                · rw [ht, hl]
                  exact ⟨rfl, hnew ▸ hkeeps', rfl⟩

variable (app) in
lemma Alike.callerOf (h : Alike w v now drawn) (ctx : CallerContext) (request : HttpRequest) :
    (callerOf app.service.tables ctx w.store now request).1 =
        (callerOf app.service.ledger ctx v.store now request).1 ∧
      (callerOf app.service.tables ctx w.store now request).2.Keeps
        (callerOf app.service.ledger ctx v.store now request).2 now drawn := by
  rw [AdminApp.callerOf, AdminApp.callerOf]
  cases hasked : ctx.sessionAsked request with
  | none => exact ⟨CallerContext.requireCaller_of_not_asked hasked _ _, h.store⟩
  | some sessionId =>
      obtain ⟨hfound, hkeeps⟩ := h.store.lookupSession sessionId
      refine ⟨?_, hkeeps⟩
      dsimp only
      rw [CallerContext.requireCaller_of_asked hasked, CallerContext.requireCaller_of_asked hasked]
      dsimp only [AdminSessionService.tables, AdminSessionService.ledger]
      rw [hfound]

variable (app) in
lemma Alike.oidcLogout (h : Alike w v now drawn) (ctx : CallerContext) (request : HttpRequest) :
    (oidcLogout app.service.tables ctx w.store now request).1 =
        (oidcLogout app.service.ledger ctx v.store now request).1 ∧
      (oidcLogout app.service.tables ctx w.store now request).2.Keeps
        (oidcLogout app.service.ledger ctx v.store now request).2 now drawn := by
  obtain ⟨hcaller, hkeeps⟩ := h.callerOf app ctx request
  rw [AdminApp.oidcLogout, AdminApp.oidcLogout]
  revert hcaller hkeeps
  rcases AdminApp.callerOf app.service.tables ctx w.store now request with ⟨result, t⟩
  rcases AdminApp.callerOf app.service.ledger ctx v.store now request with ⟨result', l⟩
  dsimp only
  rintro rfl hkeeps
  cases result with
  | error e => exact ⟨rfl, hkeeps⟩
  | ok caller =>
      refine ⟨rfl, ?_⟩
      dsimp only
      cases ended request caller with
      | none => exact hkeeps
      | some sessionId => exact hkeeps.deleteSession sessionId

variable (app) in
/-- **One call**: the tables and the ledger answer the same, and stay alike. -/
lemma Alike.step {call : AdminCall} (h : Alike w v call.starts drawn)
    (htime : call.starts ≤ call.ends) (hfresh : ∀ token ∈ call.drawn, token ∉ drawn) :
    (app.step app.service.tables w call).1 = (app.step app.service.ledger v call).1 ∧
      Alike (app.step app.service.tables w call).2 (app.step app.service.ledger v call).2 call.ends
        (call.drawn ++ drawn) := by
  cases call with
  | login returnTo input =>
      obtain ⟨hanswer, halike⟩ := h.oidcLogin app
        (hfresh _ List.mem_cons_self) (hfresh _ (List.mem_cons_of_mem _ List.mem_cons_self))
      exact ⟨congrArg (AdminAnswer.of AdminAnswer.sent) hanswer, halike⟩
  | callback request input =>
      obtain ⟨hanswer, halike⟩ := h.oidcCallback app htime
        (hfresh _ List.mem_cons_self)
      exact ⟨congrArg (AdminAnswer.of _) hanswer, halike⟩
  | request ctx request now =>
      have hnow : Alike w v now drawn := h
      obtain ⟨hanswer, hkeeps⟩ := hnow.callerOf app ctx request
      refine ⟨?_, hkeeps, h.discovery⟩
      rw [AdminApp.step, AdminApp.step, hanswer]
  | logout ctx request now =>
      have hnow : Alike w v now drawn := h
      obtain ⟨hanswer, hkeeps⟩ := hnow.oidcLogout app ctx request
      refine ⟨?_, hkeeps, h.discovery⟩
      rw [AdminApp.step, AdminApp.step, hanswer]
  | prune now => exact ⟨rfl, h.store.pruneExpired, h.discovery⟩

variable (app) in
/-- A run of the tables and the ledger. -/
lemma Alike.history (h : Alike w v clock drawn) (htime : Timely clock calls)
    (hfresh : (calls.flatMap AdminCall.drawn).Nodup)
    (hnew : ∀ token ∈ calls.flatMap AdminCall.drawn, token ∉ drawn) :
    app.history app.service.tables w calls = app.history app.service.ledger v calls := by
  induction calls generalizing w v clock drawn with
  | nil => rfl
  | cons call calls ih =>
      obtain ⟨hstarts, hends, hrest⟩ := htime
      rw [List.flatMap_cons] at hfresh hnew
      obtain ⟨hanswer, halike⟩ := (h.later hstarts (List.Subset.refl _)).step app hends
        fun token htoken => hnew token (List.mem_append_left _ htoken)
      rw [AdminApp.history, AdminApp.history, hanswer]
      have hnodup := (List.nodup_append.mp hfresh).2.1
      refine congrArg _ (ih halike hrest hnodup fun token htoken hmem => ?_)
      rcases List.mem_append.mp hmem with hcall | hold
      · exact (List.nodup_append.mp hfresh).2.2 token hcall token htoken rfl
      · exact hnew token (List.mem_append_right _ htoken) hold

lemma alike_initial : Alike initialTables initialLedger clock [] :=
  ⟨AdminTables.keeps_empty, rfl⟩

/-- **The tables answer as the ledger does**, every run of calls with a clock that does not go back
and no token drawn twice: who is sent on, who is let in, whose session is accepted and who has
logged out does not depend on when expired rows are deleted. -/
theorem answers_eq_ledger (app : AdminApp) (htime : Timely clock calls)
    (hfresh : (calls.flatMap AdminCall.drawn).Nodup) :
    app.answers app.service.tables initialTables calls =
      app.answers app.service.ledger initialLedger calls :=
  congrArg (List.map Prod.snd)
    (alike_initial.history app htime hfresh fun _ _ hmem => List.not_mem_nil hmem)

/-! ### The janitor -/

/-- The ledger has nothing to sweep. -/
lemma visible_ledger : app.visible app.service.ledger v calls =
    app.answers app.service.ledger v (calls.filter fun call => !call.isPrune) := by
  induction calls generalizing v with
  | nil => rfl
  | cons call calls ih =>
      rw [visible, AdminApp.history, List.filter_cons, List.filter_cons]
      cases hprune : call.isPrune with
      | false =>
          rw [if_pos (by simp), if_pos (by simp), List.map_cons]
          rw [answers, AdminApp.history, List.map_cons]
          exact congrArg _ ih
      | true =>
          rw [if_neg (by simp), if_neg (by simp)]
          cases call with
          | prune now => exact ih
          | login returnTo input => cases hprune
          | callback request input => cases hprune
          | request ctx request now => cases hprune
          | logout ctx request now => cases hprune

/-- **Nobody notices the janitor**: a run is answered as if its sweeps were left out. -/
theorem answers_without_sweeps (app : AdminApp) (htime : Timely clock calls)
    (hfresh : (calls.flatMap AdminCall.drawn).Nodup) :
    app.visible app.service.tables initialTables calls =
      app.answers app.service.tables initialTables (calls.filter fun call => !call.isPrune) := by
  have hfresh' : ((calls.filter fun call => !call.isPrune).flatMap AdminCall.drawn).Nodup :=
    hfresh.sublist (List.filter_sublist.flatMap _)
  have hnone : ∀ tokens : List String, ∀ token ∈ tokens, token ∉ ([] : List String) :=
    fun _ _ _ => List.not_mem_nil
  rw [visible, alike_initial.history app htime hfresh (hnone _), answers,
    alike_initial.history app (htime.filter _) hfresh' (hnone _)]
  exact visible_ledger

end AdminApp

/-! ### An identity provider -/

/-- An identity provider, as Python and the database see it; the code is redeemed for the ID token
`"jwt"`, of a member of the group `authz-admins`. -/
def oidcSample : AdminApp where
  oidc :=
    { issuer := "https://idp.example"
      clientId := "authz-ui"
      clientSecret := "s3cret"
      redirectUri := "https://authz.example/oauth/callback"
      scopes := "openid email profile"
      groupsClaim := "groups"
      adminGroups := ["authz-admins"]
      emailAllowlist := [] }
  lib :=
    { lower := fun s => String.ofList (s.toList.map Char.toLower)
      str := fun _ => ""
      validHost := fun _ => true
      challenge := fun _ => "iMnq5o6zALKXGivsnlom_0F5_WYda32GHkxlV7mq7hQ"
      emailColumn := fun _ => none }
  service :=
    { sessionTtl := 28800
      attemptTtl := 600
      takesAttempt := fun _ => true
      takesSession := fun _ => true }

namespace oidcSample

/-- What the identity provider publishes. -/
def discovery : DiscoveryExchange where
  now := 0
  get := fun _ => .ok ⟨200, .ok (.obj [("authorization_endpoint", .str "https://idp.example/auth"),
    ("token_endpoint", .str "https://idp.example/token")])⟩

def claims : Document :=
  [("sub", .str "ada"), ("nonce", .str "nonce"), ("groups", .arr [.str "authz-admins"])]

def login : AdminCall :=
  .login "/admin/roles"
    { now := 0, discovery, state := "state", nonce := "nonce", codeVerifier := "verifier",
      cookieId := "cookie" }

def callbackRequest : CallbackRequest where
  code := some "code"
  state := some "state"
  error := none
  errorDescription := none
  loginCookie := some "cookie"

def callbackInput : CallbackInput where
  now := 1
  discovery := discovery
  exchange := fun _ _ => .ok (⟨200, .ok (.obj [("id_token", .str "jwt")])⟩, "")
  validate := fun _ => .ok claims
  created := 2
  sid := "sid"
  csrf := "csrf"

/-- A service without API keys and tokens, with the admin login. -/
def context : CallerContext where
  settings := ⟨false, [], false, "", "", 900, [], false, true⟩
  hash := id
  jwt :=
    { getUnverifiedHeader := fun _ => .error "Not enough segments"
      unverified := fun _ => .error "Not enough segments"
      validate := fun _ _ => .error "Not enough segments"
      decode := fun _ _ _ => .error "Not enough segments" }
  publicJwks := []
  apiKeys := ⟨[], List.nodup_nil, List.nodup_nil⟩
  now := 0

/-- A request that changes something, with the session and its CSRF token. -/
def request : HttpRequest where
  method := "POST"
  path := "/v1/admin/roles"
  xApiKey := none
  authorization := none
  sessionCookie := some "sid"
  idempotencyKey := none
  clientHost := none
  headers := [("X-CSRF-Token", "csrf")]
  body := ""

/-- A login, and a sweep in the middle of it. -/
def run : List AdminCall :=
  [login, .prune 1, .callback callbackRequest callbackInput, .request context request 3,
    .logout context request 4, .request context request 5]

lemma timely_run : Timely 0 run :=
  ⟨by decide, by decide, by decide, by decide, by decide, by decide, by decide, by decide,
    by decide, by decide, by decide, by decide, trivial⟩

lemma nodup_run : (run.flatMap AdminCall.drawn).Nodup := by decide

end oidcSample

/-- The run of the sample is answered as by the ledger. -/
theorem sample_answers_eq_ledger :
    oidcSample.answers oidcSample.service.tables AdminApp.initialTables oidcSample.run =
      oidcSample.answers oidcSample.service.ledger AdminApp.initialLedger oidcSample.run :=
  AdminApp.answers_eq_ledger oidcSample oidcSample.timely_run oidcSample.nodup_run

/-- Its sweep is not noticed. -/
theorem sample_without_sweeps :
    oidcSample.visible oidcSample.service.tables AdminApp.initialTables oidcSample.run =
      oidcSample.answers oidcSample.service.tables AdminApp.initialTables
        (oidcSample.run.filter fun call => !call.isPrune) :=
  AdminApp.answers_without_sweeps oidcSample oidcSample.timely_run oidcSample.nodup_run

end AuthzKit
