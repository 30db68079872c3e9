import AuthzKit.Caching.History
import AuthzKit.Relational.Keyed

/-!
The permission cache of `AuthzClient` in `csharp/src/Authz.Sdk/AuthzClient.cs`: a dictionary of
list nodes and a linked list of them, the most recently used last.

* `Coupled`: the dictionary and the list hold the same entries, at most `cacheMax` of them.
* `tryGetCached_spec`, `put_spec`, `invalidateCache_spec`: what each operation does to the list;
  all keep `Coupled`.
-/

namespace AuthzKit

namespace Sdk

namespace CSharp

/-! ### Requests -/

@[ext]
structure UserRef where
  provider : String
  issuer : String
  subject : String
deriving DecidableEq

@[ext]
structure Subject where
  type : String
  userId : Option String
  agentId : Option String
  serviceAccountId : Option String
  userRef : Option UserRef
  agentName : Option String
deriving DecidableEq

structure EffectivePermissionsRequest where
  tenantId : String
  applicationId : String
  subject : Subject
  bypassCache : Bool
  delegationToken : Option String
deriving DecidableEq

/-- What the service is sent: the JSON body, null fields left out, and the header
`X-Delegation-Token`. -/
structure Wire where
  tenantId : String
  applicationId : String
  subject : Subject
  delegationToken : Option String
deriving DecidableEq

/-- An empty token is no token. -/
def EffectivePermissionsRequest.grant (request : EffectivePermissionsRequest) : Option String :=
  request.delegationToken.filter (· ≠ "")

def EffectivePermissionsRequest.wire (request : EffectivePermissionsRequest) : Wire where
  tenantId := request.tenantId
  applicationId := request.applicationId
  subject := request.subject
  delegationToken := request.grant

/-! ### The cache -/

/-- Times are in ticks. -/
structure CacheEntry where
  key : String
  tenantId : String
  applicationId : String
  permissions : Finset String
  expiresAt : ℤ
deriving DecidableEq

/-- A `LinkedListNode`, an object with an identity. -/
structure Node where
  id : ℕ
  value : CacheEntry
deriving DecidableEq

/-- `_cache` and `_lru`; `nextNode` is the identity of the next node to be allocated. -/
structure Cache where
  cache : List (String × Node)
  lru : List Node
  nextNode : ℕ

def Cache.empty : Cache := ⟨[], [], 0⟩

/-- The options the cache reads, and the two functions of the platform it calls: the JSON text of an
array of nullable strings, and the SHA-256 of a text in hexadecimal. -/
structure Options where
  cacheTtl : ℤ
  cacheMaxEntries : ℤ
  serialize : List (Option String) → String
  sha256 : String → String

/-- `_cacheMax`. -/
def Options.cacheMax (options : Options) : ℤ := max 1 options.cacheMaxEntries

/-- The array `CacheKey` serializes. -/
def Options.components (options : Options) (r : EffectivePermissionsRequest) :
    List (Option String) :=
  let s := r.subject
  [some r.tenantId, some r.applicationId, some s.type, s.userId, s.agentId, s.serviceAccountId,
    s.userRef.map (·.provider), s.userRef.map (·.issuer), s.userRef.map (·.subject), s.agentName,
    r.grant.map options.sha256]

/-- `CacheKey`. -/
def Options.cacheKey (options : Options) (r : EffectivePermissionsRequest) : String :=
  options.serialize (options.components r)

namespace Cache

/-- `TryGetCached`. -/
def tryGetCached (c : Cache) (now : ℤ) (key : String) : Option (Finset String) × Cache :=
  match Keyed.lookup Prod.fst c.cache key with
  | some (_, node) =>
      if node.value.expiresAt > now then
        (some node.value.permissions,
          { c with lru := c.lru.filter (·.id ≠ node.id) ++ [node] })
      else
        (none, { c with
          lru := c.lru.filter (·.id ≠ node.id)
          cache := c.cache.filter (·.1 ≠ key) })
  | none => (none, c)

/-- The loop of `Put` that removes the first nodes while the dictionary is too large. -/
def evict (cacheMax : ℤ) (cache : List (String × Node)) :
    List Node → List (String × Node) × List Node
  | [] => (cache, [])
  | oldest :: rest =>
      if (cache.length : ℤ) > cacheMax then
        evict cacheMax (cache.filter (·.1 ≠ oldest.value.key)) rest
      else (cache, oldest :: rest)

/-- `Put`. -/
def put (c : Cache) (cacheMax : ℤ) (entry : CacheEntry) : Cache :=
  let c :=
    match Keyed.lookup Prod.fst c.cache entry.key with
    | some (_, old) =>
        { c with
          cache := c.cache.filter (·.1 ≠ entry.key)
          lru := c.lru.filter (·.id ≠ old.id) }
    | none => c
  let node : Node := ⟨c.nextNode, entry⟩
  let held := evict cacheMax (c.cache.filter (·.1 ≠ entry.key) ++ [(entry.key, node)])
    (c.lru ++ [node])
  ⟨held.1, held.2, c.nextNode + 1⟩

/-- The condition of `InvalidateCache`; null matches all. -/
def invalidates (tenantId applicationId : Option String) (e : CacheEntry) : Bool :=
  (tenantId.isNone || some e.tenantId == tenantId) &&
    (applicationId.isNone || some e.applicationId == applicationId)

/-- The walk of `InvalidateCache` along the list. -/
def invalidateFrom (tenantId applicationId : Option String) (cache : List (String × Node)) :
    List Node → List (String × Node) × List Node
  | [] => (cache, [])
  | node :: next =>
      if invalidates tenantId applicationId node.value then
        invalidateFrom tenantId applicationId (cache.filter (·.1 ≠ node.value.key)) next
      else
        let held := invalidateFrom tenantId applicationId cache next
        (held.1, node :: held.2)

/-- `InvalidateCache`. -/
def invalidateCache (c : Cache) (tenantId applicationId : Option String) : Cache :=
  let held := invalidateFrom tenantId applicationId c.cache c.lru
  { c with cache := held.1, lru := held.2 }

end Cache

/-- What a call returns, the requests it made and the cache it leaves. -/
structure Reply where
  permissions : Finset String
  requests : List Wire
  cache : Cache

/-- `GetEffectivePermissionsAsync`: the cache is read at `start` and written at `finish`. -/
def Options.getEffectivePermissions (options : Options) (serve : Wire → Finset String)
    (request : EffectivePermissionsRequest) (start finish : ℤ) (c : Cache) : Reply :=
  let key := options.cacheKey request
  let cached :=
    if options.cacheTtl > 0 ∧ request.bypassCache = false then c.tryGetCached start key
    else (none, c)
  match cached.1 with
  | some permissions => ⟨permissions, [], cached.2⟩
  | none =>
      let permissions := serve request.wire
      ⟨permissions, [request.wire],
        if options.cacheTtl > 0 then
          cached.2.put options.cacheMax
            ⟨key, request.tenantId, request.applicationId, permissions, finish + options.cacheTtl⟩
        else cached.2⟩

/-! ### The dictionary and the list -/

namespace Cache

/-- The dictionary of a list of nodes. -/
def indexed (lru : List Node) : List (String × Node) := lru.map fun n => (n.value.key, n)

@[simp] lemma indexed_keys (lru : List Node) :
    (indexed lru).map Prod.fst = lru.map (·.value.key) := by
  rw [indexed, List.map_map]
  rfl

lemma mem_indexed {lru : List Node} {e : String × Node} :
    e ∈ indexed lru ↔ e.2 ∈ lru ∧ e.2.value.key = e.1 := by
  obtain ⟨k, n⟩ := e
  simp only [indexed, List.mem_map, Prod.mk.injEq]
  constructor
  · rintro ⟨n', hn', rfl, rfl⟩
    exact ⟨hn', rfl⟩
  · rintro ⟨hn, hk⟩
    exact ⟨n, hn, hk, rfl⟩

lemma filter_indexed (lru : List Node) (key : String) :
    (indexed lru).filter (·.1 ≠ key) = indexed (lru.filter (·.value.key ≠ key)) := by
  rw [indexed, List.filter_map]
  rfl

/-- The dictionary and the list hold the same entries, under different keys and of different
identities, and no more of them than the bound. -/
structure Coupled (cacheMax : ℤ) (c : Cache) : Prop where
  same : c.cache.Perm (indexed c.lru)
  keys : (c.lru.map (·.value.key)).Nodup
  ids : (c.lru.map (·.id)).Nodup
  fresh : ∀ n ∈ c.lru, n.id < c.nextNode
  bounded : (c.lru.length : ℤ) ≤ cacheMax

variable {cacheMax : ℤ} {c : Cache} {key : String} {now : ℤ}

lemma coupled_empty (h : 0 ≤ cacheMax) : Coupled cacheMax empty where
  same := List.Perm.refl _
  keys := List.nodup_nil
  ids := List.nodup_nil
  fresh := fun _ hn => absurd hn List.not_mem_nil
  bounded := h

namespace Coupled

variable (h : Coupled cacheMax c)

include h

/-- The entries of a coupled cache under a key. -/
lemma lookup_eq_some_iff {e : String × Node} :
    Keyed.lookup Prod.fst c.cache key = some e ↔
      e.1 = key ∧ e.2 ∈ c.lru ∧ e.2.value.key = key := by
  have hnodup : (c.cache.map Prod.fst).Nodup := by
    rw [(h.same.map Prod.fst).nodup_iff, indexed_keys]
    exact h.keys
  rw [Keyed.lookup_eq_some_iff hnodup, h.same.mem_iff, mem_indexed]
  constructor
  · rintro ⟨⟨hmem, hkey⟩, rfl⟩
    exact ⟨rfl, hmem, hkey⟩
  · rintro ⟨rfl, hmem, hkey⟩
    exact ⟨⟨hmem, hkey⟩, rfl⟩

lemma lookup_eq_none_iff :
    Keyed.lookup Prod.fst c.cache key = none ↔ ∀ n ∈ c.lru, n.value.key ≠ key := by
  rw [Keyed.lookup_eq_none_iff]
  constructor
  · intro hnone n hn
    exact hnone (n.value.key, n) (h.same.mem_iff.mpr (mem_indexed.mpr ⟨hn, rfl⟩))
  · intro hnone e he
    obtain ⟨hmem, hkey⟩ := mem_indexed.mp (h.same.mem_iff.mp he)
    exact hkey ▸ hnone e.2 hmem

/-- Removing the node of a key removes the key. -/
lemma remove_eq {node : Node} (hnode : node ∈ c.lru) :
    c.lru.filter (·.id ≠ node.id) = c.lru.filter (·.value.key ≠ node.value.key) := by
  refine List.filter_congr fun n hn => ?_
  have hid : n.id = node.id ↔ n = node :=
    ⟨fun hid => List.inj_on_of_nodup_map h.ids hn hnode hid, fun heq => heq ▸ rfl⟩
  have hkey : n.value.key = node.value.key ↔ n = node :=
    ⟨fun hkey => List.inj_on_of_nodup_map h.keys hn hnode hkey, fun heq => heq ▸ rfl⟩
  rw [decide_eq_decide, ne_eq, ne_eq, hid, hkey]

/-- A dictionary and a list without a key. -/
lemma without (key : String) :
    Coupled cacheMax { c with
      cache := c.cache.filter (·.1 ≠ key)
      lru := c.lru.filter (·.value.key ≠ key) } where
  same := by
    rw [← filter_indexed]
    exact h.same.filter _
  keys := h.keys.sublist (List.filter_sublist.map _)
  ids := h.ids.sublist (List.filter_sublist.map _)
  fresh := fun n hn => h.fresh n (List.mem_filter.mp hn).1
  bounded := le_trans (Int.ofNat_le.mpr (List.length_filter_le _ _)) h.bounded

/-- A node moved to the end of the list. -/
lemma moved {node : Node} (hnode : node ∈ c.lru) :
    Coupled cacheMax { c with
      lru := c.lru.filter (·.value.key ≠ node.value.key) ++ [node] } := by
  have hperm : (c.lru.filter (·.value.key ≠ node.value.key) ++ [node]).Perm c.lru := by
    refine (List.perm_ext_iff_of_nodup ?_ h.keys.of_map).mpr fun n => ?_
    · refine List.Nodup.append (h.keys.of_map.filter _) (List.nodup_singleton _) ?_
      intro n hn hn'
      rw [List.mem_singleton.mp hn'] at hn
      simpa using (List.mem_filter.mp hn).2
    · simp only [List.mem_append, List.mem_filter, List.mem_singleton, decide_eq_true_eq]
      constructor
      · rintro (⟨hn, -⟩ | rfl)
        · exact hn
        · exact hnode
      · intro hn
        by_cases hkey : n.value.key = node.value.key
        · exact Or.inr (List.inj_on_of_nodup_map h.keys hn hnode hkey)
        · exact Or.inl ⟨hn, hkey⟩
  exact
    { same := h.same.trans (hperm.map _).symm
      keys := (hperm.map _).nodup_iff.mpr h.keys
      ids := (hperm.map _).nodup_iff.mpr h.ids
      fresh := fun n hn => h.fresh n (hperm.mem_iff.mp hn)
      bounded := by
        rw [hperm.length_eq]
        exact h.bounded }

end Coupled

/-! ### The operations -/

/-- **A lookup** moves a live entry to the end, removes one that has expired, and leaves the cache as
it is where there is none. -/
theorem tryGetCached_spec (h : Coupled cacheMax c) (now : ℤ) (key : String) :
    Coupled cacheMax (c.tryGetCached now key).2 ∧
      (c.tryGetCached now key).2.nextNode = c.nextNode ∧
      ((∃ node ∈ c.lru, node.value.key = key ∧ now < node.value.expiresAt ∧
          (c.tryGetCached now key).1 = some node.value.permissions ∧
          (c.tryGetCached now key).2.lru = c.lru.filter (·.value.key ≠ key) ++ [node]) ∨
        ((c.tryGetCached now key).1 = none ∧
          (∀ n ∈ c.lru, n.value.key = key → n.value.expiresAt ≤ now) ∧
          (c.tryGetCached now key).2.lru = c.lru.filter (·.value.key ≠ key))) := by
  rw [tryGetCached]
  cases hlookup : Keyed.lookup Prod.fst c.cache key with
  | none =>
      have hnone := h.lookup_eq_none_iff.mp hlookup
      refine ⟨h, rfl, Or.inr ⟨rfl, fun n hn hkey => absurd hkey (hnone n hn), ?_⟩⟩
      exact (List.filter_eq_self.mpr fun n hn => by simpa using hnone n hn).symm
  | some e =>
      obtain ⟨k, node⟩ := e
      obtain ⟨-, hnode, rfl⟩ := h.lookup_eq_some_iff.mp hlookup
      dsimp only
      rw [h.remove_eq hnode]
      by_cases hlive : node.value.expiresAt > now
      · rw [if_pos hlive]
        exact ⟨h.moved hnode, rfl, Or.inl ⟨node, hnode, rfl, hlive, rfl, rfl⟩⟩
      · rw [if_neg hlive]
        refine ⟨h.without node.value.key, rfl, Or.inr ⟨rfl, fun n hn hkey => ?_, rfl⟩⟩
        obtain rfl := List.inj_on_of_nodup_map h.keys hn hnode hkey
        exact not_lt.mp hlive

/-- The eviction loop drops the first nodes down to the bound, in both structures. -/
lemma evict_spec (hmax : 0 ≤ cacheMax) : ∀ {lru : List Node} {cache : List (String × Node)},
    cache.Perm (indexed lru) → (lru.map (·.value.key)).Nodup →
      (evict cacheMax cache lru).1.Perm (indexed (evict cacheMax cache lru).2) ∧
        (evict cacheMax cache lru).2 = lru.drop (lru.length - cacheMax.toNat)
  | [], cache, hsame, _ => ⟨hsame, (List.drop_nil).symm⟩
  | oldest :: rest, cache, hsame, hkeys => by
      have hlength : cache.length = rest.length + 1 := by
        rw [hsame.length_eq, indexed, List.length_map, List.length_cons]
      rw [List.map_cons, List.nodup_cons] at hkeys
      rw [evict]
      by_cases hover : (cache.length : ℤ) > cacheMax
      · rw [if_pos hover]
        have hrest : (cache.filter (·.1 ≠ oldest.value.key)).Perm (indexed rest) := by
          refine (hsame.filter _).trans ?_
          rw [filter_indexed, List.filter_cons_of_neg (by simp), List.filter_eq_self.mpr]
          intro n hn
          rw [decide_eq_true_eq]
          exact fun hkey => hkeys.1 (List.mem_map.mpr ⟨n, hn, hkey⟩)
        obtain ⟨hperm, hdrop⟩ := evict_spec hmax hrest hkeys.2
        refine ⟨hperm, hdrop.trans ?_⟩
        have hsucc : (oldest :: rest).length - cacheMax.toNat =
            rest.length - cacheMax.toNat + 1 := by
          rw [List.length_cons]
          omega
        rw [hsucc, List.drop_succ_cons]
      · rw [if_neg hover]
        refine ⟨hsame, ?_⟩
        have hzero : (oldest :: rest).length - cacheMax.toNat = 0 := by
          rw [List.length_cons]
          omega
        rw [hzero, List.drop_zero]

/-- **A store** replaces the entry of the key, puts the new one at the end and drops from the front
what is over the bound. -/
theorem put_spec (h : Coupled cacheMax c) (hmax : 1 ≤ cacheMax) (entry : CacheEntry) :
    Coupled cacheMax (c.put cacheMax entry) ∧
      (c.put cacheMax entry).lru =
        (c.lru.filter (·.value.key ≠ entry.key)).drop
          ((c.lru.filter (·.value.key ≠ entry.key)).length + 1 - cacheMax.toNat) ++
        [⟨c.nextNode, entry⟩] := by
  have hbase : c.put cacheMax entry =
      let node : Node := ⟨c.nextNode, entry⟩
      let held := evict cacheMax (c.cache.filter (·.1 ≠ entry.key) ++ [(entry.key, node)])
        (c.lru.filter (·.value.key ≠ entry.key) ++ [node])
      ⟨held.1, held.2, c.nextNode + 1⟩ := by
    rw [put]
    cases hlookup : Keyed.lookup Prod.fst c.cache entry.key with
    | none =>
        have hnone := h.lookup_eq_none_iff.mp hlookup
        dsimp only
        rw [(List.filter_eq_self (l := c.lru)).mpr fun n hn => by simpa using hnone n hn]
    | some e =>
        obtain ⟨k, old⟩ := e
        obtain ⟨-, hold, hkey⟩ := h.lookup_eq_some_iff.mp hlookup
        dsimp only
        rw [h.remove_eq hold, hkey, List.filter_filter]
        simp only [Bool.and_self]
  have hw := h.without entry.key
  have hsame : (c.cache.filter (·.1 ≠ entry.key) ++
      [(entry.key, (⟨c.nextNode, entry⟩ : Node))]).Perm
      (indexed (c.lru.filter (·.value.key ≠ entry.key) ++ [⟨c.nextNode, entry⟩])) := by
    rw [indexed, List.map_append]
    exact hw.same.append (List.Perm.refl _)
  have hkeys : ((c.lru.filter (·.value.key ≠ entry.key) ++
      [(⟨c.nextNode, entry⟩ : Node)]).map (·.value.key)).Nodup := by
    rw [List.map_append]
    refine hw.keys.append (List.nodup_singleton _) fun k hk hk' => ?_
    obtain ⟨n, hn, rfl⟩ := List.mem_map.mp hk
    rw [List.map_singleton, List.mem_singleton] at hk'
    simpa [hk'] using (List.mem_filter.mp hn).2
  have hids : ((c.lru.filter (·.value.key ≠ entry.key) ++
      [(⟨c.nextNode, entry⟩ : Node)]).map (·.id)).Nodup := by
    rw [List.map_append]
    refine hw.ids.append (List.nodup_singleton _) fun k hk hk' => ?_
    obtain ⟨n, hn, rfl⟩ := List.mem_map.mp hk
    rw [List.map_singleton, List.mem_singleton] at hk'
    exact absurd hk' (Nat.ne_of_lt (hw.fresh n hn))
  obtain ⟨hperm, hdrop⟩ := evict_spec (le_trans zero_le_one hmax) hsame hkeys
  have hsublist := List.drop_sublist ((c.lru.filter (·.value.key ≠ entry.key) ++
    [(⟨c.nextNode, entry⟩ : Node)]).length - cacheMax.toNat)
    (c.lru.filter (·.value.key ≠ entry.key) ++ [(⟨c.nextNode, entry⟩ : Node)])
  rw [← hdrop] at hsublist
  have hlru : (c.put cacheMax entry).lru = (evict cacheMax (c.cache.filter (·.1 ≠ entry.key) ++
      [(entry.key, (⟨c.nextNode, entry⟩ : Node))])
      (c.lru.filter (·.value.key ≠ entry.key) ++ [⟨c.nextNode, entry⟩])).2 := by rw [hbase]
  refine ⟨?_, ?_⟩
  · rw [hbase]
    exact
      { same := hperm
        keys := hkeys.sublist (hsublist.map _)
        ids := hids.sublist (hsublist.map _)
        fresh := fun n hn => by
          rcases List.mem_append.mp (hsublist.subset hn) with hn | hn
          · exact Nat.lt_succ_of_lt (hw.fresh n hn)
          · rw [List.mem_singleton.mp hn]
            exact Nat.lt_succ_self _
        bounded := by
          dsimp only
          rw [hdrop, List.length_drop]
          omega }
  · rw [hlru, hdrop, List.length_append, List.length_singleton,
      List.drop_append_of_le_length (by omega)]

/-- The walk of an invalidation. -/
lemma invalidateFrom_eq (tenantId applicationId : Option String) :
    ∀ (lru : List Node) (cache : List (String × Node)),
      invalidateFrom tenantId applicationId cache lru =
        (cache.filter fun e => ∀ n ∈ lru, invalidates tenantId applicationId n.value = true →
            n.value.key ≠ e.1,
          lru.filter fun n => !invalidates tenantId applicationId n.value)
  | [], cache => by
      rw [invalidateFrom, List.filter_nil, List.filter_eq_self.mpr]
      intro e _
      simp
  | node :: next, cache => by
      rw [invalidateFrom]
      by_cases hnode : invalidates tenantId applicationId node.value = true
      · rw [if_pos hnode, invalidateFrom_eq tenantId applicationId next, List.filter_filter,
          List.filter_cons_of_neg (by simp [hnode])]
        congr 1
        refine List.filter_congr fun e _ => ?_
        simp only [List.forall_mem_cons, hnode, forall_const, Bool.decide_and, ne_comm]
        exact Bool.and_comm _ _
      · rw [if_neg hnode, invalidateFrom_eq tenantId applicationId next,
          List.filter_cons_of_pos (by simp [hnode])]
        refine Prod.ext ?_ rfl
        refine List.filter_congr fun e _ => ?_
        simp only [List.forall_mem_cons, hnode, Bool.false_eq_true, false_imp_iff, true_and]

/-- **An invalidation** removes the matching entries from both structures and keeps the others in
their order. -/
theorem invalidateCache_spec (h : Coupled cacheMax c) (tenantId applicationId : Option String) :
    Coupled cacheMax (c.invalidateCache tenantId applicationId) ∧
      (c.invalidateCache tenantId applicationId).lru =
        c.lru.filter fun n => !invalidates tenantId applicationId n.value := by
  rw [invalidateCache, invalidateFrom_eq]
  have hsublist : (c.lru.filter fun n => !invalidates tenantId applicationId n.value).Sublist
      c.lru := List.filter_sublist
  refine ⟨?_, rfl⟩
  exact
    { same := by
        refine (h.same.filter _).trans ?_
        rw [indexed, List.filter_map]
        refine List.Perm.of_eq (congrArg _ (List.filter_congr fun n hn => ?_))
        rw [Bool.eq_iff_iff, Function.comp_apply, decide_eq_true_eq, Bool.not_eq_true']
        constructor
        · intro hnone
          by_contra hmatches
          rw [Bool.not_eq_false] at hmatches
          exact hnone n hn hmatches rfl
        · intro hnot n' hn' hmatches hkey
          rw [List.inj_on_of_nodup_map h.keys hn' hn hkey, hnot] at hmatches
          cases hmatches
      keys := h.keys.sublist (hsublist.map _)
      ids := h.ids.sublist (hsublist.map _)
      fresh := fun n hn => h.fresh n (hsublist.subset hn)
      bounded := le_trans (Int.ofNat_le.mpr hsublist.length_le) h.bounded }

end Cache

end CSharp

end Sdk

end AuthzKit
