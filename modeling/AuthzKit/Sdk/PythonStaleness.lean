import AuthzKit.Sdk.PythonCache

/-!
How old an answer of the Python client may be, where the service changes between the calls and a
request may fail.

* `fetchEffectivePermissions`: `get_effective_permissions` over a request that may raise.
* `Use`, `caches`: a history of calls and invalidations, each call with the service it meets.
* `lifetimes`: each entry was stored by a call that asked, the last one of its key.
* `answer_recent`: a call answers what the service answers it now, or what it answered the last call
  of the key that asked, less than the lifetime of an entry ago.
-/

namespace AuthzKit

namespace Sdk

namespace Python

open Caching

/-! ### A service that changes -/

/-- What `_request` raises: a transport error after the retries, or an error status. -/
inductive ClientError where
  | transport
  | serviceError (statusCode : ℕ)
deriving DecidableEq, Repr

/-- The request for the permissions, as it goes at some moment. -/
abbrev Post := Wire → Except ClientError (Finset String)

/-- The key of an entry. -/
abbrev Key := String × String × String

variable (options : Options)

/-- What the cache has for a call, and the cache without what is past. -/
def cached (r : Request) (t : Timing) (c : Cache) : Option (Finset String) × Cache :=
  if options.cacheTtl > 0 ∧ t.bypassCache = false then
    c.cacheGet t.start (cacheKey options.isPrintable options.digest r)
  else (none, c)

/-- `get_effective_permissions` over a request that may raise. -/
def fetchEffectivePermissions (post : Post) (r : Request) (t : Timing) (c : Cache) :
    Except ClientError (Finset String) × Cache :=
  match cached options r t c with
  | (some permissions, c) => (.ok permissions, c)
  | (none, c) =>
      match post r.wire with
      | .error e => (.error e, c)
      | .ok permissions =>
          (.ok permissions,
            if options.cacheTtl > 0 then
              c.cachePut options t.finish (cacheKey options.isPrintable options.digest r) permissions
            else c)

/-- What a client is asked to do; a call goes to the service as it is then. -/
inductive Use where
  | call (post : Post) (r : Request) (t : Timing)
  | invalidate (tenantId applicationId : Option String)
  /-- Any other request, which leaves the cache alone. -/
  | other

namespace Use

def act (c : Cache) : Use → Cache
  | call post r t => (fetchEffectivePermissions options post r t c).2
  | invalidate tenantId applicationId => c.cacheInvalidate tenantId applicationId
  | other => c

/-- What a call answers. -/
def answer (c : Cache) : Use → Option (Except ClientError (Finset String))
  | call post r t => some (fetchEffectivePermissions options post r t c).1
  | invalidate _ _ | other => none

/-- What a use stores: the answer of a service that was asked. -/
def stores (c : Cache) : Use → Option (Key × CacheEntry)
  | call post r t =>
      match (cached options r t c).1, post r.wire with
      | none, .ok permissions =>
          if options.cacheTtl > 0 then
            some (cacheKey options.isPrintable options.digest r,
              ⟨permissions, t.finish + options.cacheTtl⟩)
          else none
      | _, _ => none
  | invalidate _ _ | other => none

end Use

/-- The cache at each moment of a history. -/
def caches (uses : ℕ → Use) : ℕ → Cache := timeline (Use.act options) [] uses

/-- The answers of a history. -/
def answers (uses : ℕ → Use) (i : ℕ) : Option (Except ClientError (Finset String)) :=
  (uses i).answer options (caches options uses i)

/-! ### Entries and what stored them -/

section Laws

variable {options} {post : Post} {r : Request} {t : Timing} {c : Cache}

/-- A hit is an entry of the key that is not past, found where the cache is on. -/
lemma cacheGet_eq_some {now : ℚ} {key : Key} {permissions : Finset String}
    (h : (c.cacheGet now key).1 = some permissions) :
    ∃ entry : CacheEntry, (key, entry) ∈ c ∧ now < entry.expiresAt ∧
      entry.permissions = permissions := by
  rw [Cache.cacheGet] at h
  cases hlookup : Keyed.lookup Prod.fst c key with
  | none =>
      rw [hlookup] at h
      cases h
  | some found =>
      obtain ⟨k, entry⟩ := found
      obtain rfl : k = key := Keyed.key_of_lookup hlookup
      rw [hlookup] at h
      dsimp only at h
      split_ifs at h with hpast
      exact ⟨entry, Keyed.mem_of_lookup hlookup, not_le.mp hpast, Option.some.inj h⟩

lemma cached_eq_some {permissions : Finset String}
    (h : (cached options r t c).1 = some permissions) :
    options.cacheTtl > 0 ∧ t.bypassCache = false ∧ ∃ entry : CacheEntry,
      (cacheKey options.isPrintable options.digest r, entry) ∈ c ∧ t.start < entry.expiresAt ∧
        entry.permissions = permissions := by
  rw [cached] at h
  split_ifs at h with hon
  exact ⟨hon.1, hon.2, cacheGet_eq_some h⟩

/-- Looking an entry up makes none. -/
lemma mem_of_mem_cached {e : Key × CacheEntry} (h : e ∈ (cached options r t c).2) : e ∈ c := by
  rw [cached] at h
  split_ifs at h
  · exact (cacheGet_spec c _ _).2 e h
  · exact h

/-- Storing replaces the entry of the key. -/
lemma eq_or_mem_of_mem_cachePut {now : ℚ} {key : Key} {permissions : Finset String}
    {e : Key × CacheEntry} (h : e ∈ c.cachePut options now key permissions) :
    e = (key, ⟨permissions, now + options.cacheTtl⟩) ∨ e ∈ c ∧ e.1 ≠ key :=
  mem_insertKey (mem_of_mem_moveToEnd (mem_of_mem_popFirst h))

/-- **A call** leaves what it stored and old entries of other keys. -/
lemma mem_act {u : Use} {e : Key × CacheEntry} (h : e ∈ u.act options c) :
    u.stores options c = some e ∨ e ∈ c ∧ ∀ entry, u.stores options c ≠ some (e.1, entry) := by
  cases u with
  | invalidate tenantId applicationId =>
      refine Or.inr ⟨(mem_cacheInvalidate.mp h).1, fun entry hentry => ?_⟩
      cases hentry
  | other => exact Or.inr ⟨h, fun entry hentry => by cases hentry⟩
  | call post r t =>
      have hold : ∀ e ∈ (cached options r t c).2, e ∈ c := fun e => mem_of_mem_cached
      simp only [Use.act, fetchEffectivePermissions] at h
      simp only [Use.stores]
      rcases hcached : cached options r t c with ⟨_ | permissions, c'⟩
      · rw [hcached] at h hold
        dsimp only at h hold ⊢
        cases hpost : post r.wire with
        | error e' =>
            rw [hpost] at h
            exact Or.inr ⟨hold e h, fun entry hentry => by cases hentry⟩
        | ok permissions =>
            rw [hpost] at h
            dsimp only at h ⊢
            split_ifs at h ⊢ with hon
            · rcases eq_or_mem_of_mem_cachePut h with rfl | ⟨hmem, hne⟩
              · exact Or.inl rfl
              · refine Or.inr ⟨hold e hmem, fun entry hentry => hne ?_⟩
                exact (congrArg Prod.fst (Option.some.inj hentry)).symm
            · exact Or.inr ⟨hold e h, fun entry hentry => by cases hentry⟩
      · rw [hcached] at h hold
        exact Or.inr ⟨hold e h, fun entry hentry => by cases hentry⟩

/-! ### Histories -/

variable (options) in
/-- **Each entry was stored**, and it was the last of its key. -/
def lifetimes (uses : ℕ → Use) : Lifetimes Key CacheEntry where
  entries := fun i => {e | e ∈ caches options uses i}
  stored := fun i => (uses i).stores options (caches options uses i)
  start := Set.eq_empty_iff_forall_notMem.mpr fun _ he => List.not_mem_nil he
  next := fun _ _ he => mem_act he

/-- What was stored is what a call was answered that asked. -/
lemma stores_eq_some {u : Use} {key : Key} {entry : CacheEntry}
    (h : u.stores options c = some (key, entry)) :
    ∃ post r t, u = .call post r t ∧ cacheKey options.isPrintable options.digest r = key ∧
      post r.wire = .ok entry.permissions ∧ entry.expiresAt = t.finish + options.cacheTtl := by
  cases u with
  | invalidate tenantId applicationId => cases h
  | other => cases h
  | call post r t =>
      rw [Use.stores] at h
      split at h
      · rename_i permissions _ hpost
        split_ifs at h
        obtain ⟨rfl, rfl⟩ := Prod.mk.inj (Option.some.inj h)
        exact ⟨post, r, t, rfl, rfl, hpost, rfl⟩
      · cases h

/-- A call that asks and is answered stores the answer, where the cache is on. -/
lemma stores_of_asked {permissions : Finset String} (hon : options.cacheTtl > 0)
    (hmiss : (cached options r t c).1 = none) (hpost : post r.wire = .ok permissions) :
    (Use.call post r t).stores options c =
      some (cacheKey options.isPrintable options.digest r,
        ⟨permissions, t.finish + options.cacheTtl⟩) := by
  simp only [Use.stores, hmiss, hpost, if_pos hon]

/-- What a call answers: what the cache has, else what the service answers. -/
lemma fetch_fst :
    (fetchEffectivePermissions options post r t c).1 =
      match (cached options r t c).1 with
      | some permissions => .ok permissions
      | none => post r.wire := by
  rw [fetchEffectivePermissions]
  rcases cached options r t c with ⟨_ | permissions, c'⟩
  · cases hpost : post r.wire with
    | error e => rfl
    | ok permissions => rfl
  · rfl

/-- Two entries of a key at one moment are one. -/
lemma entry_unique {uses : ℕ → Use} {i : ℕ} {key : Key} {entry entry' : CacheEntry}
    (h : (key, entry) ∈ caches options uses i) (h' : (key, entry') ∈ caches options uses i) :
    entry = entry' := by
  obtain ⟨j, hj⟩ := (lifetimes options uses).since_stored h
  obtain ⟨j', hj'⟩ := (lifetimes options uses).since_stored h'
  rcases lt_trichotomy j j' with hlt | rfl | hlt
  · exact absurd hj'.stored (hj.last j' hlt hj'.lt entry')
  · exact (Prod.mk.inj (Option.some.inj (hj.stored.symm.trans hj'.stored))).2
  · exact absurd hj.stored (hj'.last j hlt hj.lt entry)

/-- A hit was stored by an earlier call of the key that asked, and is not past. -/
lemma cached_source {uses : ℕ → Use} {i : ℕ} {permissions : Finset String}
    (h : (cached options r t (caches options uses i)).1 = some permissions) :
    options.cacheTtl > 0 ∧ t.bypassCache = false ∧ ∃ (entry : CacheEntry) (j : ℕ),
      (lifetimes options uses).StoredAt i j
        (cacheKey options.isPrintable options.digest r, entry) ∧
      entry.permissions = permissions ∧ ∃ post' r' t', uses j = .call post' r' t' ∧
        cacheKey options.isPrintable options.digest r' =
          cacheKey options.isPrintable options.digest r ∧
        post' r'.wire = .ok permissions ∧ t.start < t'.finish + options.cacheTtl := by
  obtain ⟨hon, hbypass, entry, hmem, hfresh, rfl⟩ := cached_eq_some h
  obtain ⟨j, hj⟩ := (lifetimes options uses).since_stored hmem
  obtain ⟨post', r', t', huse, hkey, hpost, hexpires⟩ := stores_eq_some hj.stored
  exact ⟨hon, hbypass, entry, j, hj, rfl, post', r', t', huse, hkey, hpost, hexpires ▸ hfresh⟩

lemma answers_of_call {uses : ℕ → Use} {i : ℕ} (h : uses i = .call post r t) :
    answers options uses i = some (match (cached options r t (caches options uses i)).1 with
      | some permissions => .ok permissions
      | none => post r.wire) := by
  rw [answers, h, Use.answer, fetch_fst]

end Laws

/-! ### The age of an answer -/

/-- **No answer is older than an entry lives**: in every history, with any service at each moment, a
call answers what the service answers it now, or what it answered an earlier call of the key, less
than the lifetime of an entry ago; since then no invalidation met the key, and every call of the
key answered the same or failed. -/
theorem answer_recent (options : Options) (uses : ℕ → Use) {i : ℕ} {post : Post} {r : Request}
    {t : Timing} {permissions : Finset String} (hcall : uses i = .call post r t)
    (hanswer : answers options uses i = some (.ok permissions)) :
    post r.wire = .ok permissions ∨
      t.bypassCache = false ∧ ∃ j < i, ∃ post' r' t', uses j = .call post' r' t' ∧
        cacheKey options.isPrintable options.digest r' =
          cacheKey options.isPrintable options.digest r ∧
        post' r'.wire = .ok permissions ∧ t.start < t'.finish + options.cacheTtl ∧
        ∀ m, j < m → m < i →
          (∀ tenantId applicationId, uses m = .invalidate tenantId applicationId →
            ¬((tenantId = none ∨ tenantId = some r.tenantId) ∧
              (applicationId = none ∨ applicationId = some r.applicationId))) ∧
          ∀ post'' r'' t'', uses m = .call post'' r'' t'' →
            cacheKey options.isPrintable options.digest r'' =
              cacheKey options.isPrintable options.digest r →
            answers options uses m = some (.ok permissions) ∨
              ∃ e, answers options uses m = some (.error e) := by
  rw [answers_of_call hcall] at hanswer
  replace hanswer := Option.some.inj hanswer
  cases hcached : (cached options r t (caches options uses i)).1 with
  | none =>
      rw [hcached] at hanswer
      exact Or.inl hanswer
  | some found =>
      rw [hcached] at hanswer
      obtain rfl := Except.ok.inj hanswer
      obtain ⟨hon, hbypass, entry, j, hj, rfl, post', r', t', huse, hkey, hpost, hfresh⟩ :=
        cached_source hcached
      refine Or.inr ⟨hbypass, j, hj.lt, post', r', t', huse, hkey, hpost, hfresh,
        fun m hjm hmi => ⟨fun tenantId applicationId hinvalidate => ?_,
          fun post'' r'' t'' hcall' hkey' => ?_⟩⟩
      · -- the entry is still there after the invalidation
        have hkept : (cacheKey options.isPrintable options.digest r, entry) ∈
            caches options uses (m + 1) :=
          hj.since (m + 1) (Nat.lt_succ_of_lt hjm) hmi
        rw [caches, timeline_succ, hinvalidate, Use.act, mem_cacheInvalidate] at hkept
        exact hkept.2
      · rw [answers_of_call hcall']
        cases hcached' : (cached options r'' t'' (caches options uses m)).1 with
        | some found =>
            obtain ⟨-, -, entry', hmem', -, rfl⟩ := cached_eq_some hcached'
            rw [hkey'] at hmem'
            rw [entry_unique hmem' (hj.since m hjm hmi.le)]
            exact Or.inl rfl
        | none =>
            cases hpost'' : post'' r''.wire with
            | error e => exact Or.inr ⟨e, rfl⟩
            | ok permissions =>
                have hstores := stores_of_asked hon hcached' hpost''
                rw [hkey', ← hcall'] at hstores
                exact absurd hstores (hj.last m hjm hmi _)

section Examples

/-- An agent is asked for twice, half a minute apart; between the calls it loses its permission. -/
def agentDemoted : ℕ → Use
  | 0 => .call (fun _ => .ok {"docs.delete"}) (ofAgent "u" "a") ⟨false, 0, 0⟩
  | _ => .call (fun _ => .ok ∅) (ofAgent "u" "a") ⟨false, 30, 30⟩

/-- The second answer is the first one, less than a minute old. -/
theorem answer_recent_demoted :
    answers sampleOptions agentDemoted 1 = some (.ok {"docs.delete"}) ∧
      ∃ j < 1, ∃ post' r' t', agentDemoted j = .call post' r' t' ∧
        post' r'.wire = .ok {"docs.delete"} ∧ (30 : ℚ) < t'.finish + 60 := by
  have hanswer : answers sampleOptions agentDemoted 1 = some (.ok {"docs.delete"}) := by
    decide +kernel
  have hcall : agentDemoted 1 = .call (fun _ => .ok ∅) (ofAgent "u" "a") ⟨false, 30, 30⟩ := rfl
  refine ⟨hanswer, ?_⟩
  rcases answer_recent sampleOptions agentDemoted hcall hanswer with
    hnow | ⟨-, j, hlt, post', r', t', huse, -, hpost, hfresh, -⟩
  · exact absurd (Except.ok.inj hnow) (by decide)
  · exact ⟨j, hlt, post', r', t', huse, hpost, hfresh⟩

end Examples

end Python

end Sdk

end AuthzKit
