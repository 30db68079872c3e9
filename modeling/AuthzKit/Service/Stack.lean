import AuthzKit.Relational.Interleaving
import AuthzKit.Service.Middleware

/-!
The middleware around the routes (`create_app` in `authz_service/main.py`): from the outside,
idempotency, rate limit, and the request context with the routes. CORS lets a request
through and is left out.

A request looks up its cache key, asks the rate limiter, runs its handler and stores the
response, as separate steps; other requests take theirs in between.

* `Stack.act`: the next step of a request. Its phases are what each middleware is waiting for.
* `Stack.interleaving`: all requests of a deployment, in every interleaving.
* `act_received`, `act_limiting`, `act_handling`, `act_storing`: what each step does to the
  request; `lookup_act`: what it does to the store.
* `wellPhased`: what a phase says about the response and the handler.
-/

namespace AuthzKit

/-- Who made the response to a request: the store, the rate limiter or a handler. -/
inductive Origin where
  | replayed
  | refused
  | handled
deriving DecidableEq, Repr

/-- Where a request is. -/
inductive Phase where
  /-- `self._store.get` is next. -/
  | received
  /-- `self._limiter.allow` is next. -/
  | limiting
  /-- The limiter has let the request through; the handler is next. -/
  | handling (remaining : Option ℤ)
  /-- `self._store.put` is next. -/
  | storing (origin : Origin) (response : HttpResponse)
  | answered (origin : Origin) (response : HttpResponse) (time : ℕ)
deriving DecidableEq, Repr

/-- A request that has been sent. -/
structure HttpCall where
  request : HttpRequest
  phase : Phase
  /-- How often a handler has run for it. -/
  handlerRuns : ℕ
deriving DecidableEq, Repr

/-- The state all requests share. -/
structure Shared (α : Type*) where
  app : α
  limiter : RateLimiter
  store : IdempotencyStore
  /-- The last reading of the clock. -/
  now : ℕ

/-- What a step reads: the clock, and what a handler reads from outside. -/
structure StepInput (ι : Type*) where
  now : ℕ
  outside : ι

/-- A service with state `α`, behind its middleware. -/
structure Stack (α ι : Type*) where
  /-- The truncated SHA-256. -/
  digest : String → String
  backend : Backend
  /-- `RequestContextMiddleware` and the routes, one request at a time. A handler that
  raises answers 500. -/
  handle : α → StepInput ι → HttpRequest → α × HttpResponse
  /-- A handler answers with a final response. -/
  final : ∀ app d request, 200 ≤ (handle app d request).2.status

namespace HttpCall

/-- A request that has just been sent. -/
def sent (request : HttpRequest) : HttpCall := ⟨request, .received, 0⟩

/-- The request is between a missed lookup and its response. -/
def Pending (call : HttpCall) : Prop :=
  match call.phase with
  | .limiting | .handling _ => True
  | _ => False

/-- The response the request has got past the store: from its handler or the limiter. -/
def produced (call : HttpCall) : Option HttpResponse :=
  match call.phase with
  | .storing _ response => some response
  | .answered .replayed _ _ => none
  | .answered _ response _ => some response
  | _ => none

/-- The response waits to be stored. -/
def Storing (call : HttpCall) : Prop :=
  match call.phase with
  | .storing _ _ => True
  | _ => False

/-- The response of the request has been stored. -/
def Stored (call : HttpCall) : Prop :=
  match call.phase with
  | .answered origin response _ => origin ≠ .replayed ∧ response.Cacheable
  | _ => False

/-- The response the caller has received. -/
def answer (call : HttpCall) : Option HttpResponse :=
  match call.phase with
  | .answered _ response _ => some response
  | _ => none

/-- The request has got a response below 500 past the store. -/
def Succeeded (call : HttpCall) : Prop :=
  ∃ response, call.produced = some response ∧ response.status < 500

/-- The refusal the caller has received, and when. -/
def refusal (call : HttpCall) : Option (HttpResponse × ℕ) :=
  match call.phase with
  | .answered .refused response time => some (response, time)
  | _ => none

/-- The response of the request, received or still to be stored. -/
def response (call : HttpCall) : Option HttpResponse :=
  match call.phase with
  | .storing _ response | .answered _ response _ => some response
  | _ => none

/-- The rate limiter has refused the request. -/
def Refused (call : HttpCall) : Prop :=
  match call.phase with
  | .storing .refused _ | .answered .refused _ _ => True
  | _ => False

instance decidablePending : ∀ call : HttpCall, Decidable call.Pending
  | ⟨_, .limiting, _⟩ => isTrue trivial
  | ⟨_, .handling _, _⟩ => isTrue trivial
  | ⟨_, .received, _⟩ => isFalse id
  | ⟨_, .storing _ _, _⟩ => isFalse id
  | ⟨_, .answered _ _ _, _⟩ => isFalse id

instance decidableStoring : ∀ call : HttpCall, Decidable call.Storing
  | ⟨_, .storing _ _, _⟩ => isTrue trivial
  | ⟨_, .received, _⟩ => isFalse id
  | ⟨_, .limiting, _⟩ => isFalse id
  | ⟨_, .handling _, _⟩ => isFalse id
  | ⟨_, .answered _ _ _, _⟩ => isFalse id

instance decidableStored : ∀ call : HttpCall, Decidable call.Stored
  | ⟨_, .answered origin response _, _⟩ =>
      inferInstanceAs (Decidable (origin ≠ .replayed ∧ response.Cacheable))
  | ⟨_, .received, _⟩ => isFalse id
  | ⟨_, .limiting, _⟩ => isFalse id
  | ⟨_, .handling _, _⟩ => isFalse id
  | ⟨_, .storing _ _, _⟩ => isFalse id

instance (call : HttpCall) : Decidable call.Succeeded :=
  inferInstanceAs (Decidable (∃ response ∈ call.produced, response.status < 500))

/-- What the caller has received is the response. -/
lemma response_of_answer {call : HttpCall} {response : HttpResponse}
    (h : call.answer = some response) : call.response = some response := by
  rw [answer] at h
  split at h
  · rename_i hphase
    rw [HttpCall.response, hphase]
    exact h
  · cases h

lemma Stored.phase {call : HttpCall} (h : call.Stored) :
    ∃ origin response time, call.phase = .answered origin response time ∧ origin ≠ .replayed ∧
      response.Cacheable := by
  rw [Stored] at h
  split at h
  · exact ⟨_, _, _, ‹_›, h⟩
  · exact h.elim

end HttpCall

namespace Stack

variable {α ι : Type*} (stack : Stack α ι)

/-- The cache key of a request. -/
def keyOf (call : HttpCall) : Option String := idempotencyCacheKey stack.digest call.request

/-- The tail of `IdempotencyMiddleware.dispatch`: what is to be stored, and what is not. -/
def respond (call : HttpCall) (origin : Origin) (response : HttpResponse) (now : ℕ) : Phase :=
  if (stack.keyOf call).isSome ∧ response.Cacheable then .storing origin response
  else .answered origin response now

/-- `IdempotencyMiddleware.dispatch` up to `call_next`. -/
def lookup (s : Shared α) (call : HttpCall) (now : ℕ) : Shared α × HttpCall :=
  match stack.keyOf call with
  | none => ({ s with now }, { call with phase := .limiting })
  | some key =>
      match (s.store.get now key).1 with
      | some stored =>
          ({ s with store := (s.store.get now key).2, now },
            { call with phase := .answered .replayed stored.replay now })
      | none =>
          ({ s with store := (s.store.get now key).2, now }, { call with phase := .limiting })

/-- `RateLimitMiddleware.dispatch` up to `call_next`. -/
def limit (s : Shared α) (call : HttpCall) (now : ℕ) : Shared α × HttpCall :=
  if s.limiter.limit ≤ 0 then ({ s with now }, { call with phase := .handling none })
  else
    let (allowed, limiter) := s.limiter.allow stack.backend now (rateLimitKey call.request)
    match allowed with
    | .ok remaining =>
        ({ s with limiter, now }, { call with phase := .handling (some remaining) })
    | .error retryAfter =>
        ({ s with limiter, now },
          { call with phase := stack.respond call .refused (rateLimitedResponse retryAfter) now })

/-- The handler, and the headers of `RateLimitMiddleware.dispatch`. -/
def run (s : Shared α) (call : HttpCall) (remaining : Option ℤ) (d : StepInput ι) :
    Shared α × HttpCall :=
  let (app, response) := stack.handle s.app d call.request
  let response :=
    match remaining with
    | none => response
    | some remaining => response.withRateLimit s.limiter.limit remaining
  ({ s with app, now := d.now },
    { call with
      phase := stack.respond call .handled response d.now
      handlerRuns := call.handlerRuns + 1 })

/-- `self._store.put`. -/
def store (s : Shared α) (call : HttpCall) (origin : Origin) (response : HttpResponse)
    (now : ℕ) : Shared α × HttpCall :=
  let answered := { call with phase := .answered origin response now }
  match stack.keyOf call with
  | none => ({ s with now }, answered)
  | some key =>
      ({ s with store := s.store.put stack.backend now key response.stored, now }, answered)

/-- The next step of a request. -/
def act (s : Shared α) (call : HttpCall) (d : StepInput ι) : Shared α × HttpCall :=
  match call.phase with
  | .received => stack.lookup s call d.now
  | .limiting => stack.limit s call d.now
  | .handling remaining => stack.run s call remaining d
  | .storing origin response => stack.store s call origin response d.now
  | .answered _ _ _ => (s, call)

/-- All requests of a deployment, from an empty store; the clock does not go back. -/
def interleaving : Interleaving (Shared α) HttpCall (StepInput ι) where
  initial := fun s => s.store = []
  arrives := fun call => call = .sent call.request
  admits := fun s _ d => s.now ≤ d.now
  act := stack.act

instance : DecidablePred stack.interleaving.arrives :=
  fun call => inferInstanceAs (Decidable (call = .sent call.request))

instance (s : Shared α) (call : HttpCall) (d : StepInput ι) :
    Decidable (stack.interleaving.admits s call d) :=
  inferInstanceAs (Decidable (s.now ≤ d.now))

/-! ### What a step does -/

variable {stack} {s : Shared α} {call : HttpCall} {d : StepInput ι}

lemma respond_cases (stack : Stack α ι) (call : HttpCall) (origin : Origin)
    (response : HttpResponse) (now : ℕ) :
    (∃ key, stack.keyOf call = some key ∧ response.Cacheable ∧
        stack.respond call origin response now = .storing origin response) ∨
      (stack.keyOf call = none ∨ ¬response.Cacheable) ∧
        stack.respond call origin response now = .answered origin response now := by
  rw [respond]
  split_ifs with h
  · obtain ⟨key, hkey⟩ := Option.isSome_iff_exists.mp h.1
    exact Or.inl ⟨key, hkey, h.2, rfl⟩
  · refine Or.inr ⟨?_, rfl⟩
    rw [Classical.not_and_iff_not_or_not, Option.not_isSome_iff_eq_none] at h
    exact h

variable (stack s d) in
/-- A lookup misses, or the request is answered with a stored response. -/
lemma act_received (hphase : call.phase = .received) :
    (stack.act s call d).2 = { call with phase := .limiting } ∧
        (∀ key, stack.keyOf call = some key → (s.store.get d.now key).1 = none) ∨
      ∃ key stored, stack.keyOf call = some key ∧ (s.store.get d.now key).1 = some stored ∧
        (stack.act s call d).2 = { call with phase := .answered .replayed stored.replay d.now } := by
  rw [act, hphase]
  simp only [lookup]
  cases hkey : stack.keyOf call with
  | none => exact Or.inl ⟨rfl, nofun⟩
  | some key =>
      cases hget : (s.store.get d.now key).1 with
      | none =>
          refine Or.inl ⟨by simp only [hget], fun key' h => ?_⟩
          rwa [← Option.some.inj h]
      | some stored => exact Or.inr ⟨key, stored, rfl, hget, by simp only [hget]⟩

variable (stack s d) in
/-- The limiter lets a request through, or has no room and refuses it. -/
lemma act_limiting (hphase : call.phase = .limiting) :
    (∃ remaining, (stack.act s call d).2 = { call with phase := .handling remaining }) ∨
      ∃ retryAfter, 0 < s.limiter.limit ∧
        ¬s.limiter.HasRoom stack.backend d.now (rateLimitKey call.request) ∧
        (stack.act s call d).2 = { call with
          phase := stack.respond call .refused (rateLimitedResponse retryAfter) d.now } := by
  rw [act, hphase]
  simp only [limit]
  split_ifs with hdisabled
  · exact Or.inl ⟨none, rfl⟩
  · by_cases hroom : s.limiter.HasRoom stack.backend d.now (rateLimitKey call.request)
    · obtain ⟨remaining, hallow⟩ := RateLimiter.allow_of_hasRoom hroom
      exact Or.inl ⟨some remaining, by simp only [hallow]⟩
    · obtain ⟨retryAfter, hallow⟩ := RateLimiter.allow_of_not_hasRoom hroom
      exact Or.inr ⟨retryAfter, not_le.mp hdisabled, hroom, by simp only [hallow]⟩

variable (stack s d) in
/-- The handler runs once and its response goes on. -/
lemma act_handling {remaining : Option ℤ} (hphase : call.phase = .handling remaining) :
    ∃ response : HttpResponse, 200 ≤ response.status ∧
      response.stored = (stack.handle s.app d call.request).2.stored ∧
      (stack.act s call d).1.app = (stack.handle s.app d call.request).1 ∧
      (stack.act s call d).2 = { call with
        phase := stack.respond call .handled response d.now
        handlerRuns := call.handlerRuns + 1 } := by
  rw [act, hphase]
  cases remaining with
  | none => exact ⟨_, stack.final s.app d call.request, rfl, rfl, rfl⟩
  | some remaining =>
      exact ⟨(stack.handle s.app d call.request).2.withRateLimit s.limiter.limit remaining,
        stack.final s.app d call.request, rfl, rfl, rfl⟩

lemma act_storing {origin : Origin} {response : HttpResponse}
    (hphase : call.phase = .storing origin response) :
    (stack.act s call d).2 = { call with phase := .answered origin response d.now } := by
  rw [act, hphase]
  simp only [store]
  split <;> rfl

lemma act_answered {origin : Origin} {response : HttpResponse} {time : ℕ}
    (hphase : call.phase = .answered origin response time) :
    stack.act s call d = (s, call) := by
  rw [act, hphase]

variable (stack s d) in
/-- A request that has not been answered goes on. -/
lemma act_phase_ne (hopen : call.answer = none) : (stack.act s call d).2.phase ≠ call.phase := by
  have hrespond : ∀ origin response, stack.respond call origin response d.now ≠ .limiting ∧
      ∀ remaining, stack.respond call origin response d.now ≠ .handling remaining := by
    intro origin response
    rw [respond]
    split_ifs <;> exact ⟨nofun, nofun⟩
  cases hphase : call.phase with
  | received =>
      rcases act_received stack s d hphase with
        ⟨h, -⟩ | ⟨_, _, -, -, h⟩ <;> rw [h] <;> exact nofun
  | limiting =>
      rcases act_limiting stack s d hphase with ⟨_, h⟩ | ⟨_, -, -, h⟩
      · rw [h]
        exact nofun
      · rw [h]
        exact (hrespond _ _).1
  | handling remaining =>
      obtain ⟨_, -, -, -, h⟩ := act_handling stack s d hphase
      rw [h]
      exact (hrespond _ _).2 remaining
  | storing origin response =>
      rw [act_storing hphase]
      exact nofun
  | answered origin response time =>
      rw [HttpCall.answer, hphase] at hopen
      cases hopen

/-- A step does not change the request. -/
@[simp] lemma act_request : (stack.act s call d).2.request = call.request := by
  cases hphase : call.phase with
  | received =>
      rcases act_received stack s d hphase with
        ⟨h, -⟩ | ⟨_, _, -, -, h⟩ <;> rw [h]
  | limiting =>
      rcases act_limiting stack s d hphase with
        ⟨_, h⟩ | ⟨_, -, -, h⟩ <;> rw [h]
  | handling remaining =>
      obtain ⟨_, -, -, -, h⟩ := act_handling stack s d hphase
      rw [h]
  | storing origin response => rw [act_storing hphase]
  | answered origin response time => rw [act_answered hphase]

@[simp] lemma keyOf_act : stack.keyOf (stack.act s call d).2 = stack.keyOf call := by
  rw [keyOf, keyOf, act_request]

/-- A step of a request that has not been answered reads the clock. -/
lemma act_now (hopen : call.answer = none) : (stack.act s call d).1.now = d.now := by
  rw [act]
  split
  · simp only [lookup]
    split
    · rfl
    · split <;> rfl
  · simp only [limit]
    split_ifs
    · rfl
    · split <;> rfl
  · rfl
  · simp only [store]
    split <;> rfl
  · rename_i hphase
    rw [HttpCall.answer, hphase] at hopen
    cases hopen

/-- The clock does not go back. -/
lemma now_le_act (h : s.now ≤ d.now) : s.now ≤ (stack.act s call d).1.now := by
  cases hanswer : call.answer with
  | none => rwa [act_now hanswer]
  | some a =>
      rw [HttpCall.answer] at hanswer
      split at hanswer
      · rw [act_answered ‹_›]
      · cases hanswer

variable (stack s d) in
/-- Only a lookup and a put touch the store. -/
lemma act_store_eq (hreceived : call.phase ≠ .received)
    (hstoring : ∀ origin response, call.phase ≠ .storing origin response) :
    (stack.act s call d).1.store = s.store := by
  rw [act]
  split
  · exact absurd ‹_› hreceived
  · simp only [limit]
    split_ifs
    · rfl
    · split <;> rfl
  · rfl
  · exact absurd ‹_› (hstoring _ _)
  · rfl

/-- Only a handler touches the state of the service. -/
lemma act_app (h : ∀ remaining, call.phase ≠ .handling remaining) :
    (stack.act s call d).1.app = s.app := by
  rw [act]
  split
  · simp only [lookup]
    split
    · rfl
    · split <;> rfl
  · simp only [limit]
    split_ifs
    · rfl
    · split <;> rfl
  · exact absurd ‹_› (h _)
  · simp only [store]
    split <;> rfl
  · rfl

lemma produced_respond {origin : Origin} {response r : HttpResponse} {now runs : ℕ}
    (h : HttpCall.produced ⟨call.request, stack.respond call origin response now, runs⟩ = some r) :
    r = response := by
  rcases stack.respond_cases call origin response now with ⟨_, -, -, heq⟩ | ⟨-, heq⟩
  · rw [heq] at h
    exact (Option.some.inj h).symm
  · rw [heq] at h
    cases origin with
    | replayed => cases h
    | _ => exact (Option.some.inj h).symm

/-- Where the response of a request comes from: it had it, the limiter refused it, or its
handler has run. -/
theorem produced_act {r : HttpResponse} (h : (stack.act s call d).2.produced = some r) :
    call.produced = some r ∨
      (∃ retryAfter, r = rateLimitedResponse retryAfter) ∨
      ∃ remaining, call.phase = .handling remaining ∧
        r.stored = (stack.handle s.app d call.request).2.stored := by
  cases hphase : call.phase with
  | received =>
      rcases act_received stack s d hphase with
        ⟨hact, -⟩ | ⟨_, _, -, -, hact⟩
      · rw [hact] at h
        cases h
      · rw [hact] at h
        cases h
  | limiting =>
      rcases act_limiting stack s d hphase with
        ⟨_, hact⟩ | ⟨retryAfter, -, -, hact⟩
      · rw [hact] at h
        cases h
      · rw [hact] at h
        exact Or.inr (Or.inl ⟨retryAfter, produced_respond h⟩)
  | handling remaining =>
      obtain ⟨response, -, hstored, -, hact⟩ :=
        act_handling stack s d hphase
      rw [hact] at h
      exact Or.inr (Or.inr ⟨remaining, rfl, by rw [produced_respond h, hstored]⟩)
  | storing origin response =>
      rw [act_storing hphase] at h
      refine Or.inl ?_
      rw [HttpCall.produced, hphase]
      cases origin with
      | replayed => cases h
      | _ => exact h
  | answered origin response time =>
      rw [act_answered hphase] at h
      exact Or.inl h

lemma response_respond {origin : Origin} {response : HttpResponse} {now runs : ℕ} :
    HttpCall.response ⟨call.request, stack.respond call origin response now, runs⟩ =
      some response := by
  rcases stack.respond_cases call origin response now with ⟨_, -, -, h⟩ | ⟨-, h⟩ <;> rw [h] <;> rfl

/-- A response stays as it is. -/
lemma response_act {r : HttpResponse} (h : call.response = some r) :
    (stack.act s call d).2.response = some r := by
  cases hphase : call.phase with
  | storing origin response =>
      rw [HttpCall.response, hphase] at h
      rw [act_storing hphase]
      exact h
  | answered origin response time =>
      rw [act_answered hphase]
      exact h
  | _ =>
      rw [HttpCall.response, hphase] at h
      cases h

/-- A missed lookup leaves no entry. -/
lemma store_of_missed {key : String} (hphase : call.phase = .received)
    (hkey : stack.keyOf call = some key) (hmissed : (s.store.get d.now key).1 = none) :
    (stack.act s call d).1.store.lookup key = none := by
  rw [act, hphase]
  simp only [lookup, hkey, hmissed]
  exact IdempotencyStore.lookup_get_of_none hmissed

/-- **What is in the store after a step**: an entry from before it, or the response that has
just been put. -/
theorem lookup_act {key : String} {entry : CacheEntry}
    (h : (stack.act s call d).1.store.lookup key = some entry) :
    (∃ origin response, call.phase = .storing origin response ∧ stack.keyOf call = some key ∧
        entry = ⟨response.stored, d.now + idempotencyTtl⟩) ∨
      s.store.lookup key = some entry ∧
        ∀ origin response, call.phase = .storing origin response → stack.keyOf call ≠ some key := by
  cases hphase : call.phase with
  | received =>
      refine Or.inr ⟨?_, nofun⟩
      rw [act, hphase] at h
      simp only [lookup] at h
      split at h
      · exact h
      · split at h <;> exact IdempotencyStore.lookup_get h
  | storing origin response =>
      rw [act, hphase] at h
      simp only [store] at h
      split at h
      · rename_i hkey
        exact Or.inr ⟨h, fun _ _ _ => by rw [hkey]; exact nofun⟩
      · rename_i key' hkey
        rcases IdempotencyStore.lookup_put h with ⟨rfl, hentry⟩ | ⟨hne, hlookup⟩
        · exact Or.inl ⟨origin, response, rfl, hkey, hentry⟩
        · refine Or.inr ⟨hlookup, fun _ _ _ heq => hne ?_⟩
          exact Option.some.inj (heq.symm.trans hkey)
  | limiting =>
      rw [act_store_eq _ _ _ (by simp [hphase]) (by simp [hphase])] at h
      exact Or.inr ⟨h, nofun⟩
  | handling remaining =>
      rw [act_store_eq _ _ _ (by simp [hphase]) (by simp [hphase])] at h
      exact Or.inr ⟨h, nofun⟩
  | answered origin response time =>
      rw [act_store_eq _ _ _ (by simp [hphase]) (by simp [hphase])] at h
      exact Or.inr ⟨h, nofun⟩

/-! ### What a phase says -/

variable (stack) in
/-- What holds of a request in its phase: what is to be stored may be stored, and the handler
has run once if the response is its own. -/
def WellPhased (call : HttpCall) : Prop :=
  match call.phase with
  | .storing origin response =>
      origin ≠ .replayed ∧ response.Cacheable ∧ (stack.keyOf call).isSome ∧
        (call.handlerRuns = if origin = .handled then 1 else 0)
  | .answered origin response _ =>
      (origin ≠ .replayed → 200 ≤ response.status) ∧
        (call.handlerRuns = if origin = .handled then 1 else 0)
  | _ => call.handlerRuns = 0

/-- A handler runs once at most for a request. -/
lemma WellPhased.handlerRuns_le (h : stack.WellPhased call) : call.handlerRuns ≤ 1 := by
  have hone : ∀ origin : Origin, (if origin = .handled then 1 else 0) ≤ 1 := by
    intro origin
    split_ifs <;> decide
  rw [WellPhased] at h
  split at h
  · exact h.2.2.2.le.trans (hone _)
  · exact h.2.le.trans (hone _)
  · exact h.le.trans (Nat.zero_le 1)

lemma wellPhased_respond {origin : Origin} {response : HttpResponse} {runs : ℕ}
    (horigin : origin ≠ .replayed) (hfinal : 200 ≤ response.status)
    (hruns : runs = if origin = .handled then 1 else 0) :
    stack.WellPhased ⟨call.request, stack.respond call origin response d.now, runs⟩ := by
  rcases stack.respond_cases call origin response d.now with
    ⟨key, hkey, hcacheable, h⟩ | ⟨-, h⟩
  · rw [h]
    exact ⟨horigin, hcacheable, Option.isSome_iff_exists.mpr ⟨key, hkey⟩, hruns⟩
  · rw [h]
    exact ⟨fun _ => hfinal, hruns⟩

/-- A step keeps it. -/
lemma wellPhased_act (h : stack.WellPhased call) : stack.WellPhased (stack.act s call d).2 := by
  cases hphase : call.phase with
  | received =>
      rw [WellPhased, hphase] at h
      rcases act_received stack s d hphase with
        ⟨hact, -⟩ | ⟨_, _, -, -, hact⟩
      · rw [hact]
        exact h
      · rw [hact]
        exact ⟨nofun, h⟩
  | limiting =>
      rw [WellPhased, hphase] at h
      rcases act_limiting stack s d hphase with
        ⟨_, hact⟩ | ⟨retryAfter, -, -, hact⟩
      · rw [hact]
        exact h
      · rw [hact]
        exact wellPhased_respond (by decide) (rateLimitedResponse_cacheable retryAfter).1 h
  | handling remaining =>
      rw [WellPhased, hphase] at h
      obtain ⟨response, hfinal, -, -, hact⟩ :=
        act_handling stack s d hphase
      rw [hact]
      exact wellPhased_respond (by decide) hfinal (by rw [h]; rfl)
  | storing origin response =>
      rw [WellPhased, hphase] at h
      rw [act_storing hphase]
      exact ⟨fun _ => h.2.1.1, h.2.2.2⟩
  | answered origin response time =>
      rw [act_answered hphase]
      exact h

/-- It holds of all requests at all times. -/
theorem wellPhased {c : Interleaving.Config (Shared α) HttpCall}
    (h : stack.interleaving.machine.Reachable c) : ∀ call ∈ c.processes, stack.WellPhased call := by
  refine Interleaving.process_invariant (I := stack.interleaving) (C := fun _ _ => True)
    (P := fun _ call => stack.WellPhased call) ?_ ?_ ?_ (h.restrict fun _ _ => trivial)
  · intro s call hcall
    have hcall : call = .sent call.request := hcall
    rw [hcall]
    rfl
  · exact fun s call d h _ => wellPhased_act h
  · exact fun c i d p q _ _ _ _ _ _ hq => hq

end Stack

end AuthzKit
