import AuthzKit.Sdk.CSharpCache

/-!
Histories of the C# client's cache: calls and invalidations in any order, at any times.

* `reply_cases`: a call is a hit, a request without a cache, or a request whose answer is stored.
* `lifetimes`, `recency`: the history as one of entries and one of keys.
* `cache_transparent_bounded_lru`: answers are those of the service, the two structures agree within
  the bound, and an entry leaves only for one of the reasons of `Departs`.
-/

namespace AuthzKit

namespace Sdk

namespace CSharp

open Caching

/-- A call reads the clock twice, when it looks the key up and when it stores the answer. -/
inductive Event where
  | call (request : EffectivePermissionsRequest) (start finish : ℤ)
  | invalidate (tenantId applicationId : Option String)

section Calls

variable {options : Options} {serve : Wire → Finset String}

/-- The entry a call stores. -/
def Options.newEntry (options : Options) (serve : Wire → Finset String)
    (request : EffectivePermissionsRequest) (finish : ℤ) : CacheEntry where
  key := options.cacheKey request
  tenantId := request.tenantId
  applicationId := request.applicationId
  permissions := serve request.wire
  expiresAt := finish + options.cacheTtl

/-- What is kept of a list of nodes when an entry is stored under a key. -/
def kept (cacheMax : ℤ) (lru : List Node) (key : String) : List Node :=
  (lru.filter (·.value.key ≠ key)).drop
    ((lru.filter (·.value.key ≠ key)).length + 1 - cacheMax.toNat)

lemma kept_sublist (cacheMax : ℤ) (lru : List Node) (key : String) :
    (kept cacheMax lru key).Sublist (lru.filter (·.value.key ≠ key)) := List.drop_sublist _ _

lemma kept_filter (cacheMax : ℤ) (lru : List Node) (key : String) :
    kept cacheMax (lru.filter (·.value.key ≠ key)) key = kept cacheMax lru key := by
  rw [kept, List.filter_filter]
  simp only [Bool.and_self]
  rfl

lemma one_le_cacheMax : 1 ≤ options.cacheMax := le_max_left _ _

/-- A call answered from the cache. -/
structure Hit (options : Options) (request : EffectivePermissionsRequest) (start : ℤ) (c : Cache)
    (reply : Reply) (node : Node) : Prop where
  enabled : 0 < options.cacheTtl
  mem : node ∈ c.lru
  key : node.value.key = options.cacheKey request
  live : start < node.value.expiresAt
  permissions : reply.permissions = node.value.permissions
  requests : reply.requests = []
  lru : reply.cache.lru = c.lru.filter (·.value.key ≠ options.cacheKey request) ++ [node]

/-- A call whose answer is stored. -/
structure Stored (options : Options) (serve : Wire → Finset String)
    (request : EffectivePermissionsRequest) (start finish : ℤ) (c : Cache) (reply : Reply) :
    Prop where
  enabled : 0 < options.cacheTtl
  permissions : reply.permissions = serve request.wire
  requests : reply.requests = [request.wire]
  replaced : ∀ n ∈ c.lru, n.value.key = options.cacheKey request →
    request.bypassCache = true ∨ n.value.expiresAt ≤ start
  lru : reply.cache.lru = kept options.cacheMax c.lru (options.cacheKey request) ++
    [⟨c.nextNode, options.newEntry serve request finish⟩]

/-- **A call** is a hit, a plain request where there is no cache, or a request whose answer is
stored. -/
theorem reply_cases {c : Cache} (h : Cache.Coupled options.cacheMax c)
    (request : EffectivePermissionsRequest) (start finish : ℤ) :
    let reply := options.getEffectivePermissions serve request start finish c
    Cache.Coupled options.cacheMax reply.cache ∧
      ((∃ node, Hit options request start c reply node) ∨
        (options.cacheTtl ≤ 0 ∧ reply = ⟨serve request.wire, [request.wire], c⟩) ∨
        Stored options serve request start finish c reply) := by
  intro reply
  have hmax : 1 ≤ options.cacheMax := one_le_cacheMax
  by_cases henabled : options.cacheTtl > 0
  · by_cases hbypass : request.bypassCache = false
    · have hlookup := Cache.tryGetCached_spec h start (options.cacheKey request)
      have hreply : reply = options.getEffectivePermissions serve request start finish c := rfl
      rw [Options.getEffectivePermissions] at hreply
      simp only [henabled, hbypass, and_self, if_true] at hreply
      obtain ⟨hcoupled, hnext, hcases⟩ := hlookup
      rcases hcases with ⟨node, hmem, hkey, hlive, hsome, hlru⟩ | ⟨hnone, hexpired, hlru⟩
      · rw [hsome] at hreply
        rw [hreply]
        exact ⟨hcoupled, Or.inl ⟨node, henabled, hmem, hkey, hlive, rfl, rfl, hlru⟩⟩
      · rw [hnone] at hreply
        obtain ⟨hcoupled', hput⟩ := Cache.put_spec hcoupled hmax
          (options.newEntry serve request finish)
        have hput' : _ = kept options.cacheMax (c.tryGetCached start (options.cacheKey request)).2.lru
            (options.cacheKey request) ++ _ := hput
        rw [hlru, kept_filter, hnext] at hput'
        rw [hreply]
        exact ⟨hcoupled', Or.inr (Or.inr
          { enabled := henabled
            permissions := rfl
            requests := rfl
            replaced := fun n hn hkey => Or.inr (hexpired n hn hkey)
            lru := hput' })⟩
    · have hreply : reply = options.getEffectivePermissions serve request start finish c := rfl
      rw [Options.getEffectivePermissions] at hreply
      simp only [henabled, hbypass, if_true] at hreply
      obtain ⟨hcoupled', hput⟩ := Cache.put_spec h hmax (options.newEntry serve request finish)
      rw [hreply]
      rw [Bool.not_eq_false] at hbypass
      exact ⟨hcoupled', Or.inr (Or.inr
        { enabled := henabled
          permissions := rfl
          requests := rfl
          replaced := fun n hn hkey => Or.inl hbypass
          lru := hput })⟩
  · have hreply : reply = options.getEffectivePermissions serve request start finish c := rfl
    rw [Options.getEffectivePermissions] at hreply
    simp only [henabled, false_and, if_false] at hreply
    rw [hreply]
    exact ⟨h, Or.inr (Or.inl ⟨not_lt.mp henabled, rfl⟩)⟩

end Calls

/-! ### Histories -/

section Histories

variable (options : Options) (serve : Wire → Finset String) (events : ℕ → Event)

/-- One event. -/
def Options.act (c : Cache) : Event → Cache
  | .call request start finish =>
      (options.getEffectivePermissions serve request start finish c).cache
  | .invalidate tenantId applicationId => c.invalidateCache tenantId applicationId

/-- The cache of a new client after the first events. -/
def Options.states : ℕ → Cache := timeline (options.act serve) Cache.empty events

/-- The reply to a call at a moment. -/
def Options.replyAt (i : ℕ) (request : EffectivePermissionsRequest) (start finish : ℤ) : Reply :=
  options.getEffectivePermissions serve request start finish (options.states serve events i)

/-- The entry an event stores. -/
def Options.storedAt (i : ℕ) : Option (String × Node) :=
  match events i with
  | .call request start finish =>
      if 0 < options.cacheTtl ∧ (options.replyAt serve events i request start finish).requests ≠ []
      then some (options.cacheKey request,
        ⟨(options.states serve events i).nextNode, options.newEntry serve request finish⟩)
      else none
  | .invalidate _ _ => none

/-- The key a call uses: it finds an entry under it or stores one. -/
def Options.usedAt (i : ℕ) : Option String :=
  match events i with
  | .call request _ _ => if 0 < options.cacheTtl then some (options.cacheKey request) else none
  | .invalidate _ _ => none

variable {options serve events}

theorem states_coupled (i : ℕ) :
    Cache.Coupled options.cacheMax (options.states serve events i) := by
  have hmax : 1 ≤ options.cacheMax := one_le_cacheMax
  refine timeline_invariant (P := Cache.Coupled options.cacheMax)
    (Cache.coupled_empty (le_trans zero_le_one hmax)) (fun i c h => ?_) i
  cases events i with
  | call request start finish => exact (reply_cases h request start finish).1
  | invalidate tenantId applicationId =>
      exact (Cache.invalidateCache_spec h tenantId applicationId).1

lemma states_call {i : ℕ} {request : EffectivePermissionsRequest} {start finish : ℤ}
    (hevent : events i = .call request start finish) :
    options.states serve events (i + 1) =
      (options.replyAt serve events i request start finish).cache := by
  rw [Options.states, timeline_succ, hevent]
  rfl

lemma states_invalidate {i : ℕ} {tenantId applicationId : Option String}
    (hevent : events i = .invalidate tenantId applicationId) :
    (options.states serve events (i + 1)).lru = (options.states serve events i).lru.filter
      fun n => !Cache.invalidates tenantId applicationId n.value := by
  have hact : options.states serve events (i + 1) =
      (options.states serve events i).invalidateCache tenantId applicationId := by
    rw [Options.states, timeline_succ, hevent]
    rfl
  rw [hact]
  exact (Cache.invalidateCache_spec (states_coupled i) tenantId applicationId).2

/-- Each event at a moment, by its kinds. -/
lemma reply_cases_at (options : Options) (serve : Wire → Finset String) (events : ℕ → Event)
    (i : ℕ) (request : EffectivePermissionsRequest) (start finish : ℤ) :
    let c := options.states serve events i
    let reply := options.replyAt serve events i request start finish
    (∃ node, Hit options request start c reply node) ∨
      (options.cacheTtl ≤ 0 ∧ reply = ⟨serve request.wire, [request.wire], c⟩) ∨
      Stored options serve request start finish c reply :=
  (reply_cases (states_coupled i) request start finish).2

/-- What is in the list was there before, under another key than the stored one, or is stored. -/
lemma entries_next (i : ℕ) (e : String × Node)
    (he : e.2 ∈ (options.states serve events (i + 1)).lru ∧ e.2.value.key = e.1) :
    options.storedAt serve events i = some e ∨
      (e.2 ∈ (options.states serve events i).lru ∧ e.2.value.key = e.1) ∧
        ∀ v, options.storedAt serve events i ≠ some (e.1, v) := by
  obtain ⟨key, node⟩ := e
  obtain ⟨hmem, hkey⟩ := he
  dsimp only at hmem hkey
  rw [Options.storedAt]
  cases hevent : events i with
  | invalidate tenantId applicationId =>
      rw [states_invalidate hevent] at hmem
      exact Or.inr ⟨⟨(List.mem_filter.mp hmem).1, hkey⟩, fun _ => nofun⟩
  | call request start finish =>
      rw [states_call hevent] at hmem
      rcases reply_cases_at options serve events i request
        start finish with ⟨found, hhit⟩ | ⟨hoff, hplain⟩ | hstored
      · rw [hhit.lru] at hmem
        simp only [hhit.requests, ne_eq, not_true_eq_false, and_false, if_false]
        refine Or.inr ⟨⟨?_, hkey⟩, fun _ => nofun⟩
        rcases List.mem_append.mp hmem with hmem | hmem
        · exact (List.mem_filter.mp hmem).1
        · rw [List.mem_singleton.mp hmem]
          exact hhit.mem
      · rw [hplain] at hmem
        simp only [not_lt.mpr hoff, false_and, if_false]
        exact Or.inr ⟨⟨hmem, hkey⟩, fun _ => nofun⟩
      · rw [hstored.lru] at hmem
        simp only [hstored.enabled, hstored.requests, ne_eq, List.cons_ne_nil, not_false_iff,
          and_self, if_true]
        rcases List.mem_append.mp hmem with hmem | hmem
        · have hmem' := List.mem_filter.mp ((kept_sublist _ _ _).subset hmem)
          refine Or.inr ⟨⟨hmem'.1, hkey⟩, fun v hv => ?_⟩
          rw [Option.some.injEq, Prod.mk.injEq] at hv
          rw [hv.1, hkey] at hmem'
          simp at hmem'
        · obtain rfl := List.mem_singleton.mp hmem
          refine Or.inl ?_
          rw [← hkey]
          rfl

lemma keys_unused (i : ℕ) (hused : options.usedAt events i = none) :
    ((options.states serve events (i + 1)).lru.map (·.value.key)).Sublist
      ((options.states serve events i).lru.map (·.value.key)) := by
  rw [Options.usedAt] at hused
  cases hevent : events i with
  | invalidate tenantId applicationId =>
      rw [states_invalidate hevent]
      exact List.filter_sublist.map _
  | call request start finish =>
      rw [hevent] at hused
      rw [states_call hevent]
      rcases reply_cases_at options serve events i request
        start finish with ⟨found, hhit⟩ | ⟨-, hplain⟩ | hstored
      · simp [hhit.enabled] at hused
      · rw [hplain]
      · simp [hstored.enabled] at hused

lemma keys_use (i : ℕ) (key : String) (hused : options.usedAt events i = some key) :
    ∃ others : List String,
      others.Sublist ((options.states serve events i).lru.map (·.value.key)) ∧ key ∉ others ∧
        (options.states serve events (i + 1)).lru.map (·.value.key) = others ++ [key] := by
  rw [Options.usedAt] at hused
  cases hevent : events i with
  | invalidate tenantId applicationId =>
      rw [hevent] at hused
      cases hused
  | call request start finish =>
      rw [hevent] at hused
      rw [states_call hevent]
      have hnotMem : ∀ {l : List Node}, l.Sublist ((options.states serve events i).lru.filter
          (·.value.key ≠ options.cacheKey request)) →
          options.cacheKey request ∉ l.map (·.value.key) := by
        intro l hl hmem
        obtain ⟨n, hn, hkey⟩ := List.mem_map.mp hmem
        simpa [hkey] using (List.mem_filter.mp (hl.subset hn)).2
      rcases reply_cases_at options serve events i request
        start finish with ⟨found, hhit⟩ | ⟨hoff, -⟩ | hstored
      · simp only [hhit.enabled, if_true, Option.some.injEq] at hused
        subst hused
        refine ⟨_, List.filter_sublist.map _, hnotMem (List.Sublist.refl _), ?_⟩
        rw [hhit.lru, List.map_append, List.map_singleton, hhit.key]
      · simp [not_lt.mpr hoff] at hused
      · simp only [hstored.enabled, if_true, Option.some.injEq] at hused
        subst hused
        refine ⟨(kept options.cacheMax (options.states serve events i).lru
            (options.cacheKey request)).map (·.value.key),
          ((kept_sublist _ _ _).trans List.filter_sublist).map _, hnotMem (kept_sublist _ _ _), ?_⟩
        rw [hstored.lru, List.map_append, List.map_singleton]
        rfl

variable (options serve events)

/-- The entries of the list and what the calls store. -/
def Options.lifetimes : Lifetimes String Node where
  entries := fun i =>
    {e | e.2 ∈ (options.states serve events i).lru ∧ e.2.value.key = e.1}
  stored := options.storedAt serve events
  start := by
    ext e
    simp [Options.states, Cache.empty]
  next := entries_next

/-- The keys of the list, which a use takes to the end. -/
def Options.recency : Recency String where
  keys := fun i => (options.states serve events i).lru.map (·.value.key)
  used := options.usedAt events
  start := rfl
  unused := keys_unused
  use := keys_use

/-! ### Answers -/

/-- The requests of a history. -/
def Asked (events : ℕ → Event) (request : EffectivePermissionsRequest) : Prop :=
  ∃ i start finish, events i = .call request start finish

/-- An invalidation that takes in the entries of a request. -/
def Matches (tenantId applicationId : Option String) (request : EffectivePermissionsRequest) :
    Prop :=
  (tenantId = none ∨ tenantId = some request.tenantId) ∧
    (applicationId = none ∨ applicationId = some request.applicationId)

variable {options serve events}

lemma invalidates_newEntry {tenantId applicationId : Option String}
    {request : EffectivePermissionsRequest} {finish : ℤ} :
    Cache.invalidates tenantId applicationId (options.newEntry serve request finish) = true ↔
      Matches tenantId applicationId request := by
  simp only [Cache.invalidates, Options.newEntry, Matches, Bool.and_eq_true, Bool.or_eq_true,
    Option.isNone_iff_eq_none, beq_iff_eq]
  exact and_congr (or_congr Iff.rfl eq_comm) (or_congr Iff.rfl eq_comm)

/-- One array, one request as the service sees it. -/
lemma wire_eq_of_components {r r' : EffectivePermissionsRequest}
    (hsha256 : ∀ token ∈ r.grant, ∀ token' ∈ r'.grant,
      options.sha256 token = options.sha256 token' → token = token')
    (h : options.components r = options.components r') : r.wire = r'.wire := by
  simp only [Options.components, List.cons.injEq, Option.some.injEq, and_true] at h
  obtain ⟨htenant, happlication, htype, huser, hagent, haccount, hprovider, hissuer, hsubject,
    hname, hgrant⟩ := h
  have hgrants : r.grant = r'.grant := by
    cases hr : r.grant with
    | none =>
        rw [hr, Option.map_none, eq_comm, Option.map_eq_none_iff] at hgrant
        exact hgrant.symm
    | some token =>
        rw [hr, Option.map_some, eq_comm, Option.map_eq_some_iff] at hgrant
        obtain ⟨token', hr', heq⟩ := hgrant
        rw [hr', hsha256 token hr token' hr' heq.symm]
  have href : r.subject.userRef = r'.subject.userRef := by
    cases hr : r.subject.userRef with
    | none =>
        rw [hr, Option.map_none, eq_comm, Option.map_eq_none_iff] at hprovider
        exact hprovider.symm
    | some ref =>
        cases hr' : r'.subject.userRef with
        | none => simp [hr, hr'] at hprovider
        | some ref' =>
            simp only [hr, hr', Option.map_some, Option.some.injEq] at hprovider hissuer hsubject
            rw [UserRef.ext hprovider hissuer hsubject]
  have hsubjects : r.subject = r'.subject :=
    Subject.ext htype huser hagent haccount href hname
  simp only [EffectivePermissionsRequest.wire, htenant, happlication, hsubjects, hgrants]

/-- Where an entry came from: a request whose answer was stored, under the key of the entry. -/
lemma origin {i : ℕ} {node : Node} (hnode : node ∈ (options.states serve events i).lru) :
    ∃ j < i, ∃ request start finish, events j = .call request start finish ∧
      (options.replyAt serve events j request start finish).requests = [request.wire] ∧
      node.value = options.newEntry serve request finish ∧
      ∀ m, j < m → m < i → ∀ tenantId applicationId,
        events m = .invalidate tenantId applicationId → ¬ Matches tenantId applicationId request := by
  obtain ⟨j, hat⟩ := (options.lifetimes serve events).since_stored
    (show (node.value.key, node) ∈ (options.lifetimes serve events).entries i from ⟨hnode, rfl⟩)
  have hstored : options.storedAt serve events j = some (node.value.key, node) := hat.stored
  rw [Options.storedAt] at hstored
  cases hevent : events j with
  | invalidate tenantId applicationId =>
      rw [hevent] at hstored
      cases hstored
  | call request start finish =>
      rw [hevent] at hstored
      dsimp only at hstored
      split_ifs at hstored with hmissed
      rw [Option.some.injEq, Prod.mk.injEq] at hstored
      have hvalue : node.value = options.newEntry serve request finish := by rw [← hstored.2]
      refine ⟨j, hat.lt, request, start, finish, hevent, ?_, hvalue, ?_⟩
      · rcases reply_cases_at options serve events j request
          start finish with ⟨found, hhit⟩ | ⟨hoff, -⟩ | hnew
        · exact absurd hhit.requests hmissed.2
        · exact absurd hmissed.1 (not_lt.mpr hoff)
        · exact hnew.requests
      · intro m hjm hmi tenantId applicationId hinvalidate hmatches
        have hthere : node ∈ (options.states serve events (m + 1)).lru :=
          (hat.since (m + 1) (Nat.lt_succ_of_lt hjm) hmi).1
        rw [states_invalidate hinvalidate] at hthere
        have hnot := (List.mem_filter.mp hthere).2
        rw [hvalue, invalidates_newEntry.mpr hmatches] at hnot
        cases hnot

/-- Why an entry leaves the cache between two moments: a lookup found it expired, an invalidation
took it in, its key was stored again, or a new key was stored in a full cache whose least recently
used entry it was. -/
inductive Departs (options : Options) (used : ℕ → Option String) (i : ℕ) (c c' : Cache)
    (node : Node) : Event → Prop
  | expired {request : EffectivePermissionsRequest} {start finish : ℤ}
      (hlookup : request.bypassCache = false)
      (hkey : node.value.key = options.cacheKey request)
      (hexpired : node.value.expiresAt ≤ start) :
      Departs options used i c c' node (.call request start finish)
  | invalidated {tenantId applicationId : Option String}
      (hmatches : Cache.invalidates tenantId applicationId node.value = true) :
      Departs options used i c c' node (.invalidate tenantId applicationId)
  | overwritten {request : EffectivePermissionsRequest} {start finish : ℤ}
      (hkey : node.value.key = options.cacheKey request)
      (hnew : ∃ new ∈ c'.lru, new ∉ c.lru ∧ new.value.key = options.cacheKey request) :
      Departs options used i c c' node (.call request start finish)
  | evicted {request : EffectivePermissionsRequest} {start finish : ℤ}
      (hnew : ∃ new ∈ c'.lru, new ∉ c.lru ∧ new.value.key = options.cacheKey request)
      (habsent : ∀ n ∈ c.lru, n.value.key ≠ options.cacheKey request)
      (hfull : (c.lru.length : ℤ) = options.cacheMax)
      (hleast : ∀ other ∈ c.lru, other ≠ node →
        UsedSince used i node.value.key other.value.key) :
      Departs options used i c c' node (.call request start finish)

/-- **Departures**: an entry leaves the cache only for one of the four reasons. -/
theorem departs {i : ℕ} {node : Node} (hnode : node ∈ (options.states serve events i).lru)
    (hgone : node ∉ (options.states serve events (i + 1)).lru) :
    Departs options (options.usedAt events) i (options.states serve events i)
      (options.states serve events (i + 1)) node (events i) := by
  have hcoupled : Cache.Coupled options.cacheMax (options.states serve events i) :=
    states_coupled i
  cases hevent : events i with
  | invalidate tenantId applicationId =>
      rw [states_invalidate hevent, List.mem_filter, not_and, Bool.not_eq_true,
        Bool.not_eq_false'] at hgone
      exact .invalidated (hgone hnode)
  | call request start finish =>
      have hnext : options.states serve events (i + 1) =
          (options.replyAt serve events i request start finish).cache := states_call hevent
      rw [hnext] at hgone ⊢
      rcases reply_cases_at options serve events i request
        start finish with ⟨found, hhit⟩ | ⟨-, hplain⟩ | hstored
      · rw [hhit.lru, List.mem_append, not_or, List.mem_singleton, List.mem_filter, not_and,
          decide_eq_true_eq, not_not] at hgone
        have hkey := hgone.1 hnode
        rw [← hhit.key] at hkey
        exact absurd (List.inj_on_of_nodup_map hcoupled.keys hnode hhit.mem hkey) hgone.2
      · rw [hplain] at hgone
        exact absurd hnode hgone
      · have hnew : ∃ new ∈ (options.replyAt serve events i request start finish).cache.lru,
            new ∉ (options.states serve events i).lru ∧
              new.value.key = options.cacheKey request := by
          refine ⟨⟨(options.states serve events i).nextNode, options.newEntry serve request finish⟩,
            ?_, fun hmem => ?_, rfl⟩
          · rw [hstored.lru]
            exact List.mem_append_right _ (List.mem_singleton.mpr rfl)
          · exact lt_irrefl _ (hcoupled.fresh _ hmem)
        by_cases hkey : node.value.key = options.cacheKey request
        · cases hbypass : request.bypassCache with
          | true => exact .overwritten hkey hnew
          | false =>
              refine .expired hbypass hkey ((hstored.replaced node hnode hkey).resolve_left ?_)
              rw [hbypass]
              exact Bool.false_ne_true
        · rw [hstored.lru, List.mem_append, not_or] at hgone
          have hmem : node ∈ (options.states serve events i).lru.filter
              (·.value.key ≠ options.cacheKey request) :=
            List.mem_filter.mpr ⟨hnode, decide_eq_true hkey⟩
          have hbound := hcoupled.bounded
          have hle := List.length_filter_le (fun n : Node =>
            decide (n.value.key ≠ options.cacheKey request)) (options.states serve events i).lru
          -- something is dropped, so nothing had the key and the cache was full
          have hdropped : 0 < ((options.states serve events i).lru.filter
              (·.value.key ≠ options.cacheKey request)).length + 1 - options.cacheMax.toNat := by
            by_contra hzero
            have hnone : ((options.states serve events i).lru.filter
                (·.value.key ≠ options.cacheKey request)).length + 1 - options.cacheMax.toNat = 0 :=
              Nat.eq_zero_of_not_pos hzero
            rw [kept, hnone, List.drop_zero] at hgone
            exact hgone.1 hmem
          have hfilter : (options.states serve events i).lru.filter
              (·.value.key ≠ options.cacheKey request) = (options.states serve events i).lru :=
            List.filter_sublist.eq_of_length (by omega)
          have hone : ((options.states serve events i).lru.filter
              (·.value.key ≠ options.cacheKey request)).length + 1 - options.cacheMax.toNat = 1 := by
            omega
          rw [kept, hone, hfilter] at hgone
          refine .evicted hnew (fun n hn => ?_) (by omega) fun other hother hne => ?_
          · rw [← hfilter] at hn
            exact of_decide_eq_true (List.mem_filter.mp hn).2
          · have horder := (options.recency serve events).pairwise i
            have hkeys : (options.recency serve events).keys i =
                (options.states serve events i).lru.map (·.value.key) := rfl
            rw [hkeys] at horder
            cases hlru : (options.states serve events i).lru with
            | nil =>
                rw [hlru] at hnode
                exact absurd hnode List.not_mem_nil
            | cons first rest =>
                rw [hlru] at hnode hother hgone horder
                rw [List.drop_succ_cons, List.drop_zero] at hgone
                obtain rfl : node = first :=
                  (List.mem_cons.mp hnode).resolve_right hgone.1
                rw [List.map_cons, List.pairwise_cons] at horder
                exact horder.1 _ (List.mem_map.mpr
                  ⟨other, (List.mem_cons.mp hother).resolve_left hne, rfl⟩)

/-- **The cache of the C# client**: in every history whose keys do not collide, both structures hold
the same entries within the bound; every call returns what the service answers; an answer without a
request is that of an earlier request that is the same for the service, stored less than the lifetime
ago and not invalidated since; and entries leave only for the four reasons. -/
theorem cache_transparent_bounded_lru (options : Options) (serve : Wire → Finset String)
    (events : ℕ → Event)
    (hserialize : ∀ r r', Asked events r → Asked events r' →
      options.serialize (options.components r) = options.serialize (options.components r') →
        options.components r = options.components r')
    (hsha256 : ∀ r r', Asked events r → Asked events r' → ∀ token ∈ r.grant, ∀ token' ∈ r'.grant,
      options.sha256 token = options.sha256 token' → token = token') (i : ℕ) :
    let c := options.states serve events i
    let c' := options.states serve events (i + 1)
    (c.cache.Perm (c.lru.map fun n => (n.value.key, n)) ∧ (c.cache.map Prod.fst).Nodup ∧
      (c.cache.length : ℤ) ≤ max 1 options.cacheMaxEntries) ∧
    (∀ request start finish, events i = .call request start finish →
      let reply := options.replyAt serve events i request start finish
      reply.permissions = serve request.wire ∧
      (reply.requests = [] → ∃ j < i, ∃ request' start' finish',
        events j = .call request' start' finish' ∧ request'.wire = request.wire ∧
        (options.replyAt serve events j request' start' finish').requests = [request'.wire] ∧
        start - finish' < options.cacheTtl ∧
        ∀ m, j < m → m < i → ∀ tenantId applicationId,
          events m = .invalidate tenantId applicationId →
            ¬ Matches tenantId applicationId request)) ∧
    ∀ node ∈ c.lru, node ∉ c'.lru →
      Departs options (options.usedAt events) i c c' node (events i) := by
  intro c c'
  have hcoupled : Cache.Coupled options.cacheMax (options.states serve events i) :=
    states_coupled i
  refine ⟨⟨hcoupled.same, ?_, ?_⟩, ?_, fun node hnode hgone => departs hnode hgone⟩
  · rw [(hcoupled.same.map Prod.fst).nodup_iff, Cache.indexed_keys]
    exact hcoupled.keys
  · rw [hcoupled.same.length_eq, Cache.indexed, List.length_map]
    exact hcoupled.bounded
  · intro request start finish hevent reply
    rcases reply_cases_at options serve events i request
      start finish with ⟨node, hhit⟩ | ⟨-, hplain⟩ | hstored
    · obtain ⟨j, hlt, request', start', finish', hevent', hrequests', hvalue, hsince⟩ :=
        origin hhit.mem
      have hasked : Asked events request := ⟨i, start, finish, hevent⟩
      have hasked' : Asked events request' := ⟨j, start', finish', hevent'⟩
      have hkey : options.cacheKey request' = options.cacheKey request := by
        rw [← hhit.key, hvalue]
        rfl
      have hwire : request'.wire = request.wire :=
        wire_eq_of_components (hsha256 request' request hasked' hasked)
          (hserialize request' request hasked' hasked hkey)
      refine ⟨?_, fun _ => ⟨j, hlt, request', start', finish', hevent', hwire, hrequests', ?_, ?_⟩⟩
      · have hanswer : reply.permissions = node.value.permissions := hhit.permissions
        rw [hanswer, hvalue, ← hwire]
        rfl
      · have hlive := hhit.live
        rw [hvalue, Options.newEntry] at hlive
        dsimp only at hlive
        omega
      · intro m hjm hmi tenantId applicationId hinvalidate hmatches
        refine hsince m hjm hmi tenantId applicationId hinvalidate ?_
        have htenant : request'.tenantId = request.tenantId := congrArg Wire.tenantId hwire
        have happlication : request'.applicationId = request.applicationId :=
          congrArg Wire.applicationId hwire
        rw [Matches, htenant, happlication]
        exact hmatches
    · have hreply : reply = ⟨serve request.wire, [request.wire], c⟩ := hplain
      rw [hreply]
      exact ⟨rfl, fun hnone => by cases hnone⟩
    · have hrequests : reply.requests = [request.wire] := hstored.requests
      refine ⟨hstored.permissions, fun hnone => ?_⟩
      rw [hrequests] at hnone
      cases hnone

end Histories

section Examples

/-- The JSON text of an array of strings without quotes, backslashes and control characters. -/
def plainJson (components : List (Option String)) : String :=
  "[" ++ ",".intercalate (components.map fun
    | none => "null"
    | some s => "\"" ++ s ++ "\"") ++ "]"

def sampleOptions : Options where
  cacheTtl := 60
  cacheMaxEntries := 1
  serialize := plainJson
  sha256 := fun text => text

/-- What a user may do in the chat of a tenant. -/
def ofUser (userId : String) : EffectivePermissionsRequest where
  tenantId := "acme"
  applicationId := "chat"
  subject := ⟨"user", some userId, none, none, none, none⟩
  bypassCache := false
  delegationToken := none

/-- Alice twice, an invalidation, and then Bob. -/
def sampleEvents : ℕ → Event
  | 0 => .call (ofUser "alice") 0 1
  | 1 => .call (ofUser "alice") 5 5
  | 2 => .invalidate (some "acme") none
  | i => .call (ofUser "bob") i i

def sampleServe (wire : Wire) : Finset String :=
  if wire.subject.userId = some "alice" then {"chat.use"} else ∅

lemma asked_sampleEvents {r : EffectivePermissionsRequest} (h : Asked sampleEvents r) :
    r = ofUser "alice" ∨ r = ofUser "bob" := by
  obtain ⟨i, start, finish, hevent⟩ := h
  match i with
  | 0 => exact Or.inl (Event.call.inj hevent).1.symm
  | 1 => exact Or.inl (Event.call.inj hevent).1.symm
  | 2 => cases hevent
  | _ + 3 => exact Or.inr (Event.call.inj hevent).1.symm

/-- The second answer to Alice takes no request, and is that of the service. -/
theorem cache_transparent_alice :
    let reply := sampleOptions.replyAt sampleServe sampleEvents 1 (ofUser "alice") 5 5
    reply.requests = [] ∧ reply.permissions = sampleServe (ofUser "alice").wire := by
  refine ⟨by decide +kernel, ?_⟩
  refine ((cache_transparent_bounded_lru sampleOptions sampleServe sampleEvents
    (fun r r' hr hr' => ?_) (fun r r' hr hr' => ?_) 1).2.1 (ofUser "alice") 5 5 rfl).1
  · rcases asked_sampleEvents hr with rfl | rfl <;>
      rcases asked_sampleEvents hr' with rfl | rfl <;> decide +kernel
  · rcases asked_sampleEvents hr with rfl | rfl <;> exact nofun

end Examples

end CSharp

end Sdk

end AuthzKit
