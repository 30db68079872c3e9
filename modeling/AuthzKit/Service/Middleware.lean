import Mathlib.Tactic

/-!
Rate limiting and idempotency keys (`authz_service/middleware.py`): the two backends, their
keys, and the responses they make themselves. Clocks read nanoseconds.

* `credentialPartition`, `idempotencyCacheKey`: what a replay is looked up by.
* `IdempotencyStore.get` and `IdempotencyStore.put`: a lookup answers an entry that has not
  expired (`get_eq_some`), and only `put` makes an entry (`lookup_put`).
* `RateLimiter.allow`: the sliding window.
-/

namespace AuthzKit

/-! ### Requests and responses -/

/-- What the middleware and the routes read of a request. -/
structure HttpRequest where
  method : String
  path : String
  xApiKey : Option String
  authorization : Option String
  /-- The cookie `authz_session`. -/
  sessionCookie : Option String
  idempotencyKey : Option String
  clientHost : Option String
  /-- The other headers. -/
  headers : List (String × String)
  body : String
deriving DecidableEq, Repr

/-- A response. The body of a refusal by the rate limiter is
`{"error": "rate_limited", "retry_after": …}`, here with nanoseconds. -/
inductive HttpBody where
  | bytes (content : String)
  | rateLimited (retryAfter : ℕ)
deriving DecidableEq, Repr

/-- The field `retry_after` of a refusal. -/
def HttpBody.retryAfter : HttpBody → Option ℕ
  | .bytes _ => none
  | .rateLimited retryAfter => some retryAfter

structure HttpResponse where
  status : ℕ
  body : HttpBody
  contentType : String
  /-- The other headers. -/
  headers : List (String × String)
deriving DecidableEq, Repr

/-- `response.headers[name] = value`. -/
def HttpResponse.setHeader (response : HttpResponse) (name value : String) : HttpResponse :=
  { response with headers := response.headers.filter (·.1 ≠ name) ++ [(name, value)] }

@[simp] lemma HttpResponse.setHeader_status (response : HttpResponse) (name value : String) :
    (response.setHeader name value).status = response.status := rfl

@[simp] lemma HttpResponse.setHeader_body (response : HttpResponse) (name value : String) :
    (response.setHeader name value).body = response.body := rfl

@[simp] lemma HttpResponse.setHeader_contentType (response : HttpResponse) (name value : String) :
    (response.setHeader name value).contentType = response.contentType := rfl

/-- The backends: in this process, or Redis. -/
inductive Backend where
  | memory
  | redis
deriving DecidableEq, Repr

/-! ### Idempotency -/

section CacheKey

/-- `payload` in `_credential_partition`; an absent header reads as the empty one. -/
def credentialPayload (request : HttpRequest) : String :=
  let apiKeyHeader := request.xApiKey.getD ""
  let authHeader := request.authorization.getD ""
  let sessionCookie := request.sessionCookie.getD ""
  "x=" ++ apiKeyHeader ++ "|a=" ++ authHeader ++ "|s=" ++ sessionCookie

variable (digest : String → String)

/-- `_credential_partition`; `digest` is the truncated SHA-256 in hexadecimal. -/
def credentialPartition (request : HttpRequest) : String :=
  digest (credentialPayload request)

/-- The cache key of `IdempotencyMiddleware.dispatch`; only a POST with a non-empty
`Idempotency-Key` has one. -/
def idempotencyCacheKey (request : HttpRequest) : Option String :=
  if request.method ≠ "POST" then none
  else
    match request.idempotencyKey with
    | none => none
    | some idempotencyKey =>
        if idempotencyKey = "" then none
        else some (credentialPartition digest request ++ ":" ++ request.path ++ ":"
          ++ idempotencyKey)

/-- Which requests have which cache key. -/
lemma idempotencyCacheKey_eq_some {request : HttpRequest} {key : String} :
    idempotencyCacheKey digest request = some key ↔
      request.method = "POST" ∧ request.idempotencyKey.getD "" ≠ "" ∧
        credentialPartition digest request ++ ":" ++ request.path ++ ":"
          ++ request.idempotencyKey.getD "" = key := by
  rw [idempotencyCacheKey]
  split_ifs with hmethod
  · exact ⟨nofun, fun h => absurd h.1 hmethod⟩
  · cases hkey : request.idempotencyKey with
    | none => simp
    | some k =>
        by_cases hempty : k = ""
        · simp [hempty]
        · simp [hempty, not_not.mp hmethod]

end CacheKey

/-- What is kept of a response. -/
structure StoredResponse where
  status : ℕ
  body : HttpBody
  contentType : String
deriving DecidableEq, Repr

structure CacheEntry where
  response : StoredResponse
  expiresAt : ℕ
deriving DecidableEq, Repr

/-- `ttl_seconds = 300.0`. -/
def idempotencyTtl : ℕ := 300 * 10 ^ 9

/-- `_MemoryIdempotencyStore(max_entries=1024)`; Redis keeps what has not expired. -/
def Backend.maxEntries : Backend → Option ℕ
  | .memory => some 1024
  | .redis => none

/-- The entries, in the order of a Python dict. -/
abbrev IdempotencyStore := List (String × CacheEntry)

namespace IdempotencyStore

/-- `self._cache[key] = entry`. -/
def set (key : String) (entry : CacheEntry) : IdempotencyStore → IdempotencyStore
  | [] => [(key, entry)]
  | (k, e) :: rest => if k = key then (key, entry) :: rest else (k, e) :: set key entry rest

/-- `self._cache.pop(key, None)`. -/
def pop (store : IdempotencyStore) (key : String) : IdempotencyStore :=
  store.filter (·.1 ≠ key)

/-- One round of the loop of `put`: the entry that expires first makes room. -/
def popOldest (store : IdempotencyStore) : IdempotencyStore :=
  match store.argmin (·.2.expiresAt) with
  | none => store
  | some oldest => store.pop oldest.1

/-- The loop `while len(self._cache) > self._max`; each round pops one entry. -/
def evict (store : IdempotencyStore) : Option ℕ → IdempotencyStore
  | none => store
  | some max => popOldest^[store.length - max] store

/-- `get`: an expired entry is dropped. -/
def get (store : IdempotencyStore) (now : ℕ) (key : String) :
    Option StoredResponse × IdempotencyStore :=
  match store.lookup key with
  | none => (none, store)
  | some entry =>
      if entry.expiresAt ≤ now then (none, store.pop key) else (some entry.response, store)

/-- `put`. -/
def put (store : IdempotencyStore) (backend : Backend) (now : ℕ) (key : String)
    (response : StoredResponse) : IdempotencyStore :=
  (store.set key ⟨response, now + idempotencyTtl⟩).evict backend.maxEntries

variable {store : IdempotencyStore} {key key' : String} {entry : CacheEntry} {now : ℕ}

lemma lookup_set_self : (store.set key entry).lookup key = some entry := by
  induction store with
  | nil => simp [set]
  | cons head rest ih =>
      rw [set]
      split_ifs with hhead
      · simp
      · rw [List.lookup_cons, beq_eq_false_iff_ne.mpr (Ne.symm hhead)]
        exact ih

lemma lookup_set_of_ne (hne : key' ≠ key) : (store.set key entry).lookup key' = store.lookup key' := by
  induction store with
  | nil => simp [set, List.lookup_cons, beq_eq_false_iff_ne.mpr hne]
  | cons head rest ih =>
      rw [set]
      split_ifs with hhead
      · rw [List.lookup_cons, List.lookup_cons, hhead, beq_eq_false_iff_ne.mpr hne]
      · rw [List.lookup_cons, List.lookup_cons, ih]

lemma lookup_pop_self : (store.pop key).lookup key = none := by
  rw [pop, List.lookup_eq_none_iff]
  intro p hp
  have hne : p.1 ≠ key := by simpa using (List.mem_filter.mp hp).2
  exact bne_iff_ne.mpr (Ne.symm hne)

lemma lookup_pop_of_ne (hne : key' ≠ key) : (store.pop key).lookup key' = store.lookup key' := by
  induction store with
  | nil => rfl
  | cons head rest ih =>
      rw [pop, List.filter_cons]
      by_cases hhead : head.1 = key
      · rw [if_neg (by simpa using hhead), List.lookup_cons, hhead,
          beq_eq_false_iff_ne.mpr hne]
        exact ih
      · rw [if_pos (by simpa using hhead), List.lookup_cons, List.lookup_cons]
        split
        · rfl
        · exact ih

/-- Removing an entry makes no other. -/
lemma lookup_pop (h : (store.pop key).lookup key' = some entry) :
    store.lookup key' = some entry := by
  by_cases hne : key' = key
  · rw [hne, lookup_pop_self] at h
    cases h
  · rwa [lookup_pop_of_ne hne] at h

lemma lookup_popOldest (h : store.popOldest.lookup key = some entry) :
    store.lookup key = some entry := by
  rw [popOldest] at h
  split at h
  · exact h
  · exact lookup_pop h

/-- Eviction makes no entry. -/
lemma lookup_evict {max : Option ℕ} (h : (store.evict max).lookup key = some entry) :
    store.lookup key = some entry := by
  cases max with
  | none => exact h
  | some max =>
      rw [evict] at h
      generalize store.length - max = rounds at h
      induction rounds generalizing store with
      | zero => exact h
      | succ rounds ih => exact lookup_popOldest (ih h)

/-- **What is stored after `put`**: the new entry or an old one of another key. -/
theorem lookup_put {backend : Backend} {response : StoredResponse}
    (h : (store.put backend now key response).lookup key' = some entry) :
    key' = key ∧ entry = ⟨response, now + idempotencyTtl⟩ ∨
      key' ≠ key ∧ store.lookup key' = some entry := by
  have h := lookup_evict h
  by_cases hne : key' = key
  · subst hne
    rw [lookup_set_self] at h
    exact Or.inl ⟨rfl, (Option.some.inj h).symm⟩
  · rw [lookup_set_of_ne hne] at h
    exact Or.inr ⟨hne, h⟩

/-- An answer of `get`: an entry that has not expired. -/
theorem get_eq_some {response : StoredResponse} :
    (store.get now key).1 = some response ↔
      ∃ e, store.lookup key = some e ∧ now < e.expiresAt ∧ e.response = response := by
  rw [get]
  cases hlookup : store.lookup key with
  | none => simp
  | some e =>
      simp only [Option.some.injEq, exists_eq_left']
      split_ifs with hexpired
      · exact ⟨nofun, fun h => absurd h.1 (Nat.not_lt.mpr hexpired)⟩
      · exact ⟨fun h => ⟨Nat.lt_of_not_le hexpired, Option.some.inj h⟩, fun h => congrArg some h.2⟩

/-- `get` makes no entry. -/
lemma lookup_get (h : (store.get now key).2.lookup key' = some entry) :
    store.lookup key' = some entry := by
  rw [get] at h
  split at h
  · exact h
  · split at h
    · exact lookup_pop h
    · exact h

/-- A missed lookup leaves no entry. -/
lemma lookup_get_of_none (h : (store.get now key).1 = none) :
    (store.get now key).2.lookup key = none := by
  rw [get] at h ⊢
  cases hlookup : store.lookup key with
  | none => exact hlookup
  | some e =>
      simp only [hlookup] at h ⊢
      split_ifs at h ⊢ with hexpired
      exact lookup_pop_self

end IdempotencyStore

/-- `200 <= response.status_code < 500`. -/
def HttpResponse.Cacheable (response : HttpResponse) : Prop :=
  200 ≤ response.status ∧ response.status < 500

instance (response : HttpResponse) : Decidable response.Cacheable :=
  inferInstanceAs (Decidable (_ ∧ _))

def HttpResponse.stored (response : HttpResponse) : StoredResponse :=
  ⟨response.status, response.body, response.contentType⟩

/-- What the middleware answers from the store. -/
def StoredResponse.replay (stored : StoredResponse) : HttpResponse where
  status := stored.status
  body := stored.body
  contentType := stored.contentType
  headers := [("Idempotent-Replay", "true")]

@[simp] lemma StoredResponse.stored_replay (stored : StoredResponse) :
    stored.replay.stored = stored := rfl

@[simp] lemma HttpResponse.stored_setHeader (response : HttpResponse) (name value : String) :
    (response.setHeader name value).stored = response.stored := rfl

/-! ### Rate limiting -/

/-- `_SlidingWindowLimiter` and `_RedisRateLimiter`: the readings of the requests let through
in the last window, per key. -/
structure RateLimiter where
  limit : ℤ
  buckets : String → List ℕ

namespace RateLimiter

/-- What a backend reads on a clock: floating seconds, or whole milliseconds. -/
def reading : Backend → ℕ → ℕ
  | .memory, now => now
  | .redis, now => now / 10 ^ 6

/-- `window_seconds = 60.0`, in the units of a reading. -/
def window : Backend → ℕ
  | .memory => 60 * 10 ^ 9
  | .redis => 60 * 10 ^ 3

/-- The readings still in the window. -/
def trim : Backend → ℕ → List ℕ → List ℕ
  | .memory, now, bucket => bucket.dropWhile fun t => t + window .memory ≤ now
  | .redis, now, bucket => bucket.filter fun t => ¬t + window .redis ≤ now

/-- `bucket.append(now)`, or `ZADD`: every run of the script draws the same number, so one
millisecond is one member. -/
def insert : Backend → ℕ → List ℕ → List ℕ
  | .memory, now, bucket => bucket ++ [now]
  | .redis, now, bucket => if now ∈ bucket then bucket else bucket.orderedInsert (· ≤ ·) now

/-- The time until the oldest reading leaves the window, in nanoseconds. -/
def retryAfter : Backend → ℕ → List ℕ → ℕ
  | .memory, now, bucket => max (10 ^ 6) (bucket.headD 0 + window .memory - now)
  | .redis, now, bucket => (bucket.headD 0 + window .redis - now) * 10 ^ 6

/-- `RateLimiter.allow`: what is left of the limit, or when to come back. -/
def allow (limiter : RateLimiter) (backend : Backend) (now : ℕ) (key : String) :
    Except ℕ ℤ × RateLimiter :=
  let now := reading backend now
  let bucket := trim backend now (limiter.buckets key)
  if limiter.limit ≤ bucket.length then
    (.error (retryAfter backend now bucket),
      { limiter with buckets := Function.update limiter.buckets key bucket })
  else
    (.ok (limiter.limit - bucket.length - 1),
      { limiter with
        buckets := Function.update limiter.buckets key (insert backend now bucket) })

/-- The limiter has room for one more request of the key. -/
def HasRoom (limiter : RateLimiter) (backend : Backend) (now : ℕ) (key : String) : Prop :=
  (trim backend (reading backend now) (limiter.buckets key)).length < limiter.limit

instance (limiter : RateLimiter) (backend : Backend) (now : ℕ) (key : String) :
    Decidable (limiter.HasRoom backend now key) :=
  inferInstanceAs (Decidable (_ < _))

@[simp] lemma allow_limit (limiter : RateLimiter) (backend : Backend) (now : ℕ) (key : String) :
    (limiter.allow backend now key).2.limit = limiter.limit := by
  rw [allow]
  split <;> rfl

/-- A limiter with room lets a request through. -/
lemma allow_of_hasRoom {limiter : RateLimiter} {backend : Backend} {now : ℕ} {key : String}
    (h : limiter.HasRoom backend now key) :
    ∃ remaining, (limiter.allow backend now key).1 = .ok remaining := by
  rw [allow, if_neg (not_le.mpr h)]
  exact ⟨_, rfl⟩

lemma allow_of_not_hasRoom {limiter : RateLimiter} {backend : Backend} {now : ℕ} {key : String}
    (h : ¬limiter.HasRoom backend now key) :
    ∃ retryAfter, (limiter.allow backend now key).1 = .error retryAfter := by
  rw [allow, if_pos (not_lt.mp h)]
  exact ⟨_, rfl⟩

end RateLimiter

/-- The bucket of a request: its API key, else its address. -/
def rateLimitKey (request : HttpRequest) : String :=
  match request.xApiKey.filter (· ≠ "") with
  | some key => key
  | none => (request.clientHost.filter (· ≠ "")).getD "anonymous"

/-- Nanoseconds as whole seconds, rounded half to even (`f"{retry_after:.0f}"`). -/
def roundedSeconds (time : ℕ) : ℕ :=
  let seconds := time / 10 ^ 9
  let rest := 2 * (time % 10 ^ 9)
  if rest < 10 ^ 9 then seconds
  else if 10 ^ 9 < rest then seconds + 1
  else seconds + seconds % 2

/-- The refusal of `RateLimitMiddleware.dispatch`. -/
def rateLimitedResponse (retryAfter : ℕ) : HttpResponse where
  status := 429
  body := .rateLimited retryAfter
  contentType := "application/json"
  headers := [("Retry-After", toString (roundedSeconds retryAfter))]

/-- What `RateLimitMiddleware.dispatch` adds to a response. -/
def HttpResponse.withRateLimit (response : HttpResponse) (limit remaining : ℤ) : HttpResponse :=
  (response.setHeader "X-RateLimit-Limit" (toString limit)).setHeader "X-RateLimit-Remaining"
    (toString remaining)

/-- A refusal is stored like any answer below 500. -/
lemma rateLimitedResponse_cacheable (retryAfter : ℕ) :
    (rateLimitedResponse retryAfter).Cacheable :=
  ⟨(by decide : 200 ≤ 429), (by decide : 429 < 500)⟩

end AuthzKit
