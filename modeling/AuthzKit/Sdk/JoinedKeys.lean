import AuthzKit.Caching.Client
import AuthzKit.Caching.OrderedMap
import AuthzKit.Text.Delimited

/-!
The permission caches of the Go and the TypeScript client, `go/authz/client.go` and
`typescript/src/client.ts`, whose keys join the tenant, the application and parts of the subject
with bars, and whose invalidations take the keys apart again.

* `Go.client`, `Typescript.client`: the two clients, as clients of `Caching`.
* `caches_exact_iff`: when they answer as the service and invalidate what is meant.
* `Go.wire_eq_of_cacheKey`, `Go.removes_iff_meant`, and the same of `Typescript`: texts without
  bars are safe, for requests without a service account.
-/

namespace AuthzKit

namespace Sdk

open Caching Delimited

/-- A text without bars. -/
def Barless (s : String) : Prop := '|' ∉ s.toList

lemma toList_bar : ("|" : String).toList = ['|'] := by rfl

/-! ### Go -/

namespace Go

structure Subject where
  type : String
  userId : String
  agentId : String
  serviceAccount : String
deriving DecidableEq

structure EffectivePermissionsRequest where
  tenantId : String
  applicationId : String
  subject : Subject
deriving DecidableEq

/-- The body of the request; the ids are `omitempty`. -/
structure Wire where
  tenantId : String
  applicationId : String
  type : String
  userId : Option String
  agentId : Option String
  serviceAccountId : Option String
deriving DecidableEq

def omitEmpty (s : String) : Option String := if s = "" then none else some s

def EffectivePermissionsRequest.wire (r : EffectivePermissionsRequest) : Wire :=
  ⟨r.tenantId, r.applicationId, r.subject.type, omitEmpty r.subject.userId,
    omitEmpty r.subject.agentId, omitEmpty r.subject.serviceAccount⟩

/-- `cacheKey`. -/
def cacheKey (r : EffectivePermissionsRequest) : String :=
  r.tenantId ++ "|" ++ r.applicationId ++ "|" ++ r.subject.type ++ "|" ++ r.subject.userId ++ "|" ++
    r.subject.agentId

/-- Times are in nanoseconds. -/
structure CacheEntry where
  permissions : Finset String
  expiresAt : ℤ

abbrev Cache := List (String × CacheEntry)

structure Options where
  cacheTtl : ℤ
  cacheMax : ℤ

/-- When a call looks its key up and when it stores the answer, and in what order the loop over the
map visits the entries. -/
structure Timing where
  start : ℤ
  finish : ℤ
  order : Cache → Cache

/-- The loop that looks for the entry that expires first. -/
def oldest (entries : Cache) : Option (String × ℤ) :=
  entries.foldl (fun found e =>
    match found with
    | none => some (e.1, e.2.expiresAt)
    | some (key, time) =>
        if e.2.expiresAt < time then some (e.1, e.2.expiresAt) else some (key, time)) none

/-- `GetEffectivePermissions`. -/
def getEffectivePermissions (options : Options) (serve : Wire → Finset String)
    (r : EffectivePermissionsRequest) (t : Timing) (c : Cache) : Finset String × Cache :=
  let key := cacheKey r
  let cached : Option (Finset String) × Cache :=
    if options.cacheTtl > 0 then
      match Keyed.lookup Prod.fst c key with
      | some (_, entry) =>
          if entry.expiresAt > t.start then (some entry.permissions, c) else (none, without c key)
      | none => (none, c)
    else (none, c)
  match cached.1 with
  | some permissions => (permissions, cached.2)
  | none =>
      let permissions := serve r.wire
      (permissions,
        if options.cacheTtl > 0 then
          let roomy : Cache :=
            if (cached.2.length : ℤ) ≥ options.cacheMax then
              without cached.2 (((oldest (t.order cached.2)).map Prod.fst).getD "")
            else cached.2
          Keyed.insertKey Prod.fst roomy (key, ⟨permissions, t.finish + options.cacheTtl⟩)
        else cached.2)

/-- The first string starts with the second. -/
def startsWith (s start : List Char) : Bool :=
  start.length ≤ s.length && s.take start.length == start

/-- `indexOf`. -/
def indexOf (s sep : List Char) : Option ℕ :=
  (List.range (s.length + 1)).find? fun i =>
    i + sep.length ≤ s.length && (s.drop i).take sep.length == sep

/-- `containsAfter`. -/
def containsAfter (s sep target : List Char) : Bool :=
  match indexOf s sep with
  | none => false
  | some i => startsWith (s.drop (i + 1)) target

/-- The condition of `CacheInvalidate` on a key; the empty string matches all. -/
def removes (tenantId applicationId : String) (key : String) : Bool :=
  (tenantId == "" || startsWith key.toList (tenantId ++ "|").toList) &&
    (applicationId == "" || containsAfter key.toList "|".toList (applicationId ++ "|").toList)

/-- `CacheInvalidate`. -/
def cacheInvalidate (c : Cache) (tenantId applicationId : String) : Cache :=
  c.filter fun e => !removes tenantId applicationId e.1

/-- What an invalidation is meant for. -/
def Meant (x : String × String) (r : EffectivePermissionsRequest) : Prop :=
  (x.1 = "" ∨ x.1 = r.tenantId) ∧ (x.2 = "" ∨ x.2 = r.applicationId)

def client (options : Options) :
    CachedClient EffectivePermissionsRequest String CacheEntry (Finset String) Wire Timing
      (String × String) where
  key := cacheKey
  wire := EffectivePermissionsRequest.wire
  value := CacheEntry.permissions
  call := getEffectivePermissions options
  invalidate := fun x c => cacheInvalidate c x.1 x.2
  removes := fun x key => removes x.1 x.2 key = true

variable {options : Options} {serve : Wire → Finset String}

/-- **A call** answers an entry or asks the service, and stores what the service answers. -/
theorem getEffectivePermissions_cases (r : EffectivePermissionsRequest) (t : Timing) (c : Cache) :
    let reply := getEffectivePermissions options serve r t c
    ((∃ v : CacheEntry, (cacheKey r, v) ∈ c ∧ reply.1 = v.permissions) ∨ reply.1 = serve r.wire) ∧
      ∀ e ∈ reply.2, e ∈ c ∨ e.1 = cacheKey r ∧ e.2.permissions = serve r.wire := by
  intro reply
  have hreply : reply = getEffectivePermissions options serve r t c := rfl
  rw [getEffectivePermissions] at hreply
  have hstored : ∀ c' : Cache, (∀ e ∈ c', e ∈ c) → ∀ e ∈ Keyed.insertKey Prod.fst
      (if (c'.length : ℤ) ≥ options.cacheMax then
        without c' (((oldest (t.order c')).map Prod.fst).getD "") else c')
      (cacheKey r, (⟨serve r.wire, t.finish + options.cacheTtl⟩ : CacheEntry)),
        e ∈ c ∨ e.1 = cacheKey r ∧ e.2.permissions = serve r.wire := by
    intro c' hc' e he
    rcases mem_insertKey he with rfl | ⟨hmem, -⟩
    · exact Or.inr ⟨rfl, rfl⟩
    · split_ifs at hmem
      · exact Or.inl (hc' e (mem_without.mp hmem).1)
      · exact Or.inl (hc' e hmem)
  by_cases httl : options.cacheTtl > 0
  · simp only [if_pos httl] at hreply
    cases hlookup : Keyed.lookup Prod.fst c (cacheKey r) with
    | none =>
        rw [hlookup] at hreply
        rw [hreply]
        exact ⟨Or.inr rfl, hstored c fun e he => he⟩
    | some found =>
        obtain ⟨key, entry⟩ := found
        obtain rfl : key = cacheKey r := Keyed.key_of_lookup hlookup
        rw [hlookup] at hreply
        by_cases hlive : entry.expiresAt > t.start
        · simp only [if_pos hlive] at hreply
          rw [hreply]
          exact ⟨Or.inl ⟨entry, Keyed.mem_of_lookup hlookup, rfl⟩, fun e he => Or.inl he⟩
        · simp only [if_neg hlive] at hreply
          rw [hreply]
          exact ⟨Or.inr rfl, hstored _ fun e he => (mem_without.mp he).1⟩
  · simp only [if_neg httl] at hreply
    rw [hreply]
    exact ⟨Or.inr rfl, fun e he => Or.inl he⟩

lemma client_lawful (options : Options) : (client options).Lawful where
  call_cases := fun _ r t c => getEffectivePermissions_cases r t c
  mem_invalidate := by
    intro x c e
    simp [client, cacheInvalidate]

/-- With a lifetime the first answer is remembered. -/
lemma client_live (httl : 0 < options.cacheTtl) : (client options).Live ⟨0, 0, id⟩ where
  remembers := by
    intro serve r
    refine ⟨⟨serve r.wire, options.cacheTtl⟩, rfl, ?_, fun r' hkey => ?_⟩
    · simp [client, getEffectivePermissions, Keyed.lookup, Keyed.insertKey, without, httl]
    · have hkey' : cacheKey r' = cacheKey r := hkey
      simp [client, getEffectivePermissions, Keyed.lookup, httl, hkey']

lemma client_off (httl : options.cacheTtl ≤ 0) : (client options).Off where
  forgets := by
    intro serve r t
    simp [client, getEffectivePermissions, not_lt.mpr httl]

/-! ### Texts without bars -/

/-- A request without bars and without a service account, which the key leaves out. -/
structure EffectivePermissionsRequest.Plain (r : EffectivePermissionsRequest) : Prop where
  tenantId : Barless r.tenantId
  applicationId : Barless r.applicationId
  type : Barless r.subject.type
  userId : Barless r.subject.userId
  serviceAccount : r.subject.serviceAccount = ""

/-- **Which strings are safe**: the keys of plain requests tell them apart. -/
theorem wire_eq_of_cacheKey {r r' : EffectivePermissionsRequest} (h : r.Plain) (h' : r'.Plain)
    (hkey : cacheKey r = cacheKey r') : r.wire = r'.wire := by
  simp only [cacheKey, String.append_assoc] at hkey
  obtain ⟨htenant, hkey⟩ := string_join_inj toList_bar h.tenantId h'.tenantId hkey
  obtain ⟨happlication, hkey⟩ := string_join_inj toList_bar h.applicationId h'.applicationId hkey
  obtain ⟨htype, hkey⟩ := string_join_inj toList_bar h.type h'.type hkey
  obtain ⟨huser, hagent⟩ := string_join_inj toList_bar h.userId h'.userId hkey
  simp only [EffectivePermissionsRequest.wire, htenant, happlication, htype, huser, hagent,
    h.serviceAccount, h'.serviceAccount]

lemma startsWith_iff {s start : List Char} : startsWith s start = true ↔ start <+: s := by
  rw [startsWith, Bool.and_eq_true, decide_eq_true_eq, beq_iff_eq, List.prefix_iff_eq_take]
  constructor
  · rintro ⟨-, h⟩
    exact h.symm
  · intro h
    have hlength := congrArg List.length h
    rw [List.length_take] at hlength
    exact ⟨by omega, h.symm⟩

lemma startsWith_bar {x target : List Char} (a : List Char) (hx : '|' ∉ x) (ht : '|' ∉ target) :
    startsWith (x ++ '|' :: a) (target ++ ['|']) = true ↔ target = x := by
  rw [startsWith_iff]
  constructor
  · rintro ⟨rest, hrest⟩
    rw [List.append_assoc, List.singleton_append] at hrest
    exact (join_inj ht hx hrest).1
  · rintro rfl
    exact ⟨a, by simp⟩

/-- The first bar. -/
lemma indexOf_bar {x : List Char} (a : List Char) (hx : '|' ∉ x) :
    indexOf (x ++ '|' :: a) ['|'] = some x.length := by
  rw [indexOf, List.find?_range_eq_some]
  refine ⟨by simp, by simp, fun j hj => ?_⟩
  rw [Bool.not_eq_true', Bool.and_eq_false_iff]
  refine Or.inr (beq_eq_false_iff_ne.mpr fun h => hx ?_)
  rw [List.drop_append_of_le_length hj.le, List.drop_eq_getElem_cons hj, List.length_singleton,
    List.cons_append, List.take_succ_cons] at h
  exact (List.cons.inj h).1 ▸ List.getElem_mem hj

/-- **Which strings are safe to invalidate by**: the key of a plain request is taken for a match
exactly where the request is meant. -/
theorem removes_iff_meant {x : String × String} {r : EffectivePermissionsRequest} (h : r.Plain)
    (htenant : Barless x.1) (happlication : Barless x.2) :
    removes x.1 x.2 (cacheKey r) = true ↔ Meant x r := by
  obtain ⟨rest, hkey⟩ : ∃ rest, (cacheKey r).toList =
      r.tenantId.toList ++ '|' :: (r.applicationId.toList ++ '|' :: rest) :=
    ⟨(r.subject.type ++ "|" ++ r.subject.userId ++ "|" ++ r.subject.agentId).toList,
      by simp [cacheKey, String.toList_append]⟩
  have hdrop : (r.tenantId.toList ++ '|' :: (r.applicationId.toList ++ '|' :: rest)).drop
      (r.tenantId.toList.length + 1) = r.applicationId.toList ++ '|' :: rest := by
    rw [List.append_cons, List.drop_left' (by simp)]
  have hmarked : ∀ s : String, (s ++ "|").toList = s.toList ++ ['|'] := fun s => by
    rw [String.toList_append, toList_bar]
  rw [removes, hkey, containsAfter, toList_bar, indexOf_bar _ h.tenantId]
  dsimp only
  rw [hdrop, hmarked, hmarked, Bool.and_eq_true, Bool.or_eq_true, Bool.or_eq_true,
    startsWith_bar _ h.tenantId htenant, startsWith_bar _ h.applicationId happlication, beq_iff_eq,
    beq_iff_eq, String.toList_inj, String.toList_inj, Meant]

end Go

/-! ### TypeScript -/

namespace Typescript

@[ext]
structure Subject where
  type : String
  userId : Option String
  agentId : Option String
  serviceAccountId : Option String
deriving DecidableEq

/-- The arguments of `getEffectivePermissions`, `bypassCache` apart. -/
@[ext]
structure Request where
  tenantId : String
  applicationId : String
  subject : Subject
deriving DecidableEq

/-- The key of a call. -/
def cacheKey (r : Request) : String :=
  r.tenantId ++ "|" ++ r.applicationId ++ "|" ++ r.subject.type ++ "|" ++
    r.subject.userId.getD "" ++ "|" ++ r.subject.agentId.getD ""

/-- Times are in milliseconds. -/
structure CacheEntry where
  permissions : Finset String
  expiresAt : ℚ

/-- The entries in the order of the `Map`. -/
abbrev Cache := List (String × CacheEntry)

structure Options where
  cacheTtl : ℚ
  cacheMax : ℚ

/-- Whether a call bypasses the cache, and the times it looks the key up and stores the answer. -/
structure Timing where
  bypassCache : Bool
  start : ℚ
  finish : ℚ

/-- `getEffectivePermissions`; the body of its request has the fields of the arguments, the absent
ones left out, so that it is the arguments themselves. -/
def getEffectivePermissions (options : Options) (serve : Request → Finset String) (r : Request)
    (t : Timing) (c : Cache) : Finset String × Cache :=
  let key := cacheKey r
  let cached : Option (Finset String) × Cache :=
    if options.cacheTtl > 0 ∧ t.bypassCache = false then
      match Keyed.lookup Prod.fst c key with
      | some (_, entry) =>
          if entry.expiresAt > t.start then
            (some entry.permissions, Keyed.insertKey Prod.fst (without c key) (key, entry))
          else (none, without c key)
      | none => (none, without c key)
    else (none, c)
  match cached.1 with
  | some permissions => (permissions, cached.2)
  | none =>
      let permissions := serve r
      (permissions,
        if options.cacheTtl > 0 then
          popFirst (fun size => (size : ℚ) > options.cacheMax)
            (Keyed.insertKey Prod.fst cached.2 (key, ⟨permissions, t.finish + options.cacheTtl⟩))
        else cached.2)

/-- `key.split("|")`. -/
def splitBars (key : String) : List String := (key.toList.splitOn '|').map String.ofList

/-- The condition of `cacheInvalidate` on a key. -/
def removes (tenantId applicationId : Option String) (key : String) : Bool :=
  let parts := splitBars key
  (tenantId.isNone || parts[0]? == tenantId) && (applicationId.isNone || parts[1]? == applicationId)

/-- `cacheInvalidate`. -/
def cacheInvalidate (c : Cache) (tenantId applicationId : Option String) : Cache :=
  c.filter fun e => !removes tenantId applicationId e.1

/-- What an invalidation is meant for. -/
def Meant (x : Option String × Option String) (r : Request) : Prop :=
  (x.1 = none ∨ x.1 = some r.tenantId) ∧ (x.2 = none ∨ x.2 = some r.applicationId)

def client (options : Options) :
    CachedClient Request String CacheEntry (Finset String) Request Timing
      (Option String × Option String) where
  key := cacheKey
  wire := id
  value := CacheEntry.permissions
  call := getEffectivePermissions options
  invalidate := fun x c => cacheInvalidate c x.1 x.2
  removes := fun x key => removes x.1 x.2 key = true

variable {options : Options} {serve : Request → Finset String}

/-- **A call** answers an entry or asks the service, and stores what the service answers. -/
theorem getEffectivePermissions_cases (r : Request) (t : Timing) (c : Cache) :
    let reply := getEffectivePermissions options serve r t c
    ((∃ v : CacheEntry, (cacheKey r, v) ∈ c ∧ reply.1 = v.permissions) ∨ reply.1 = serve r) ∧
      ∀ e ∈ reply.2, e ∈ c ∨ e.1 = cacheKey r ∧ e.2.permissions = serve r := by
  intro reply
  have hreply : reply = getEffectivePermissions options serve r t c := rfl
  rw [getEffectivePermissions] at hreply
  have hstored : ∀ c' : Cache, (∀ e ∈ c', e ∈ c) → ∀ e ∈
      (if options.cacheTtl > 0 then
        popFirst (fun size => (size : ℚ) > options.cacheMax) (Keyed.insertKey Prod.fst c'
          (cacheKey r, (⟨serve r, t.finish + options.cacheTtl⟩ : CacheEntry)))
      else c'), e ∈ c ∨ e.1 = cacheKey r ∧ e.2.permissions = serve r := by
    intro c' hc' e he
    split_ifs at he
    · rcases mem_insertKey (mem_of_mem_popFirst he) with rfl | ⟨hmem, -⟩
      · exact Or.inr ⟨rfl, rfl⟩
      · exact Or.inl (hc' e hmem)
    · exact Or.inl (hc' e he)
  have hwithout : ∀ e ∈ without c (cacheKey r), e ∈ c := fun e he => (mem_without.mp he).1
  by_cases hlookup : options.cacheTtl > 0 ∧ t.bypassCache = false
  · simp only [if_pos hlookup] at hreply
    cases hfound : Keyed.lookup Prod.fst c (cacheKey r) with
    | none =>
        rw [hfound] at hreply
        rw [hreply]
        exact ⟨Or.inr rfl, hstored _ hwithout⟩
    | some found =>
        obtain ⟨key, entry⟩ := found
        obtain rfl : key = cacheKey r := Keyed.key_of_lookup hfound
        rw [hfound] at hreply
        by_cases hlive : entry.expiresAt > t.start
        · simp only [if_pos hlive] at hreply
          rw [hreply]
          refine ⟨Or.inl ⟨entry, Keyed.mem_of_lookup hfound, rfl⟩, fun e he => Or.inl ?_⟩
          rcases mem_insertKey he with rfl | ⟨hmem, -⟩
          · exact Keyed.mem_of_lookup hfound
          · exact hwithout e hmem
        · simp only [if_neg hlive] at hreply
          rw [hreply]
          exact ⟨Or.inr rfl, hstored _ hwithout⟩
  · simp only [if_neg hlookup] at hreply
    rw [hreply]
    exact ⟨Or.inr rfl, hstored c fun e he => he⟩

lemma client_lawful (options : Options) : (client options).Lawful where
  call_cases := fun _ r t c => getEffectivePermissions_cases r t c
  mem_invalidate := by
    intro x c e
    simp [client, cacheInvalidate]

/-- With a lifetime and room the first answer is remembered. -/
lemma client_live (httl : 0 < options.cacheTtl) (hmax : 1 ≤ options.cacheMax) :
    (client options).Live ⟨false, 0, 0⟩ where
  remembers := by
    intro serve r
    refine ⟨⟨serve r, options.cacheTtl⟩, rfl, ?_, fun r' hkey => ?_⟩
    · simp [client, getEffectivePermissions, Keyed.lookup, Keyed.insertKey, without, popFirst, httl,
        not_lt.mpr hmax]
    · have hkey' : cacheKey r' = cacheKey r := hkey
      simp [client, getEffectivePermissions, Keyed.lookup, httl, hkey']

/-- Without a lifetime or without room nothing is. -/
lemma client_off (h : options.cacheTtl ≤ 0 ∨ options.cacheMax < 1) : (client options).Off where
  forgets := by
    intro serve r t
    have hnone : Keyed.lookup Prod.fst ([] : Cache) (cacheKey r) = none := rfl
    have hnil : without ([] : Cache) (cacheKey r) = [] := rfl
    simp only [client, getEffectivePermissions, hnone, hnil, ite_self, id_eq]
    rcases h with httl | hmax
    · rw [if_neg (not_lt.mpr httl)]
    · have hmany : ∀ n : ℕ, ((n + 1 : ℕ) : ℚ) > options.cacheMax := by
        intro n
        refine lt_of_lt_of_le hmax ?_
        exact_mod_cast Nat.succ_le_succ (Nat.zero_le n)
      rw [popFirst_eq_nil hmany, ite_self]

/-! ### Texts without bars -/

/-- A request without bars, empty ids and a service account, which the key leaves out. -/
structure Request.Plain (r : Request) : Prop where
  tenantId : Barless r.tenantId
  applicationId : Barless r.applicationId
  type : Barless r.subject.type
  userId : ∀ s ∈ r.subject.userId, Barless s ∧ s ≠ ""
  agentId : r.subject.agentId ≠ some ""
  serviceAccountId : r.subject.serviceAccountId = none

lemma getD_inj {id id' : Option String} (h : id ≠ some "") (h' : id' ≠ some "")
    (heq : id.getD "" = id'.getD "") : id = id' := by
  cases id <;> cases id' <;> simp_all

/-- **Which strings are safe**: the keys of plain requests tell them apart. -/
theorem eq_of_cacheKey {r r' : Request} (h : r.Plain) (h' : r'.Plain)
    (hkey : cacheKey r = cacheKey r') : r = r' := by
  have hbarless : ∀ {r : Request}, r.Plain →
      Barless (r.subject.userId.getD "") ∧ r.subject.userId ≠ some "" := by
    intro r h
    cases hid : r.subject.userId with
    | none => exact ⟨by rw [Barless]; decide, by simp⟩
    | some s =>
        obtain ⟨hs, hne⟩ := h.userId s hid
        exact ⟨hs, fun heq => hne (Option.some.inj heq)⟩
  simp only [cacheKey, String.append_assoc] at hkey
  obtain ⟨htenant, hkey⟩ := string_join_inj toList_bar h.tenantId h'.tenantId hkey
  obtain ⟨happlication, hkey⟩ := string_join_inj toList_bar h.applicationId h'.applicationId hkey
  obtain ⟨htype, hkey⟩ := string_join_inj toList_bar h.type h'.type hkey
  obtain ⟨huser, hagent⟩ := string_join_inj toList_bar (hbarless h).1 (hbarless h').1 hkey
  exact Request.ext htenant happlication (Subject.ext htype
    (getD_inj (hbarless h).2 (hbarless h').2 huser) (getD_inj h.agentId h'.agentId hagent)
    (h.serviceAccountId.trans h'.serviceAccountId.symm))

/-- **Which strings are safe to invalidate by**: the key of a plain request is taken for a match
exactly where the request is meant, whatever the invalidation names. -/
theorem removes_iff_meant {x : Option String × Option String} {r : Request} (h : r.Plain) :
    removes x.1 x.2 (cacheKey r) = true ↔ Meant x r := by
  obtain ⟨others, hkey⟩ : ∃ others, (cacheKey r).toList =
      r.tenantId.toList ++ '|' :: (r.applicationId.toList ++ '|' :: others) :=
    ⟨(r.subject.type ++ "|" ++ r.subject.userId.getD "" ++ "|" ++
      r.subject.agentId.getD "").toList, by simp [cacheKey, String.toList_append]⟩
  have hparts : ∃ rest, splitBars (cacheKey r) = r.tenantId :: r.applicationId :: rest := by
    rw [splitBars, hkey, List.splitOn_append_cons_self_of_not_mem h.tenantId,
      List.splitOn_append_cons_self_of_not_mem h.applicationId]
    exact ⟨_, by rw [List.map_cons, List.map_cons, String.ofList_toList, String.ofList_toList]⟩
  obtain ⟨rest, hparts⟩ := hparts
  rw [removes, hparts, Meant]
  simp only [List.getElem?_cons_zero, List.getElem?_cons_succ, Bool.and_eq_true, Bool.or_eq_true,
    Option.isNone_iff_eq_none, beq_iff_eq]
  exact and_congr (or_congr Iff.rfl eq_comm) (or_congr Iff.rfl eq_comm)

end Typescript

/-! ### Both -/

/-- **When the two caches are transparent and exact**: a cache is off, or no two of the requests
asked have one key and differ on the wire, and an invalidation takes a key of theirs for a match
exactly where it is meant for the request. -/
theorem caches_exact_iff (go : Go.Options) (ts : Typescript.Options)
    (askedGo : Set Go.EffectivePermissionsRequest) (invalidatedGo : Set (String × String))
    (askedTs : Set Typescript.Request) (invalidatedTs : Set (Option String × Option String)) :
    ((Go.client go).Transparent askedGo invalidatedGo ∧
        (Go.client go).Exact askedGo invalidatedGo Go.Meant ↔
      go.cacheTtl ≤ 0 ∨
        (∀ r ∈ askedGo, ∀ r' ∈ askedGo, Go.cacheKey r = Go.cacheKey r' → r.wire = r'.wire) ∧
        ∀ r ∈ askedGo, ∀ x ∈ invalidatedGo,
          Go.removes x.1 x.2 (Go.cacheKey r) = true ↔ Go.Meant x r) ∧
    ((Typescript.client ts).Transparent askedTs invalidatedTs ∧
        (Typescript.client ts).Exact askedTs invalidatedTs Typescript.Meant ↔
      (ts.cacheTtl ≤ 0 ∨ ts.cacheMax < 1) ∨
        (∀ r ∈ askedTs, ∀ r' ∈ askedTs,
          Typescript.cacheKey r = Typescript.cacheKey r' → r = r') ∧
        ∀ r ∈ askedTs, ∀ x ∈ invalidatedTs,
          Typescript.removes x.1 x.2 (Typescript.cacheKey r) = true ↔ Typescript.Meant x r) := by
  constructor
  · have hlawful := Go.client_lawful go
    by_cases httl : go.cacheTtl ≤ 0
    · have hoff := Go.client_off httl
      exact iff_of_true ⟨hoff.transparent hlawful, hoff.exact hlawful _⟩ (Or.inl httl)
    · rw [or_iff_right httl]
      have hlive := Go.client_live (not_le.mp httl)
      exact and_congr (CachedClient.transparent_iff hlawful hlive)
        (CachedClient.exact_iff hlawful hlive)
  · have hlawful := Typescript.client_lawful ts
    by_cases hnone : ts.cacheTtl ≤ 0 ∨ ts.cacheMax < 1
    · have hoff := Typescript.client_off hnone
      exact iff_of_true ⟨hoff.transparent hlawful, hoff.exact hlawful _⟩ (Or.inl hnone)
    · rw [or_iff_right hnone]
      rw [not_or, not_le, not_lt] at hnone
      have hlive := Typescript.client_live hnone.1 hnone.2
      exact and_congr (CachedClient.transparent_iff hlawful hlive)
        (CachedClient.exact_iff hlawful hlive)

section Examples

/-- A service account that acts for a user. -/
def ofAccount (serviceAccount : String) : Go.EffectivePermissionsRequest :=
  ⟨"acme", "chat", ⟨"service_account", "u", "", serviceAccount⟩⟩

/-- Only the account `reports` may export. -/
def serveReports (wire : Go.Wire) : Finset String :=
  if wire.serviceAccountId = some "reports" then {"reports.export"} else ∅

/-- The account is not in the key: the second one is served the set of the first. An invalidation
of the tenant `acme|eu` finds no entry of its own in the TypeScript cache. -/
theorem account_not_in_key :
    let options : Go.Options := ⟨60, 1024⟩
    let first := Go.getEffectivePermissions options serveReports (ofAccount "reports") ⟨0, 0, id⟩ []
    let eu : Typescript.Request := ⟨"acme|eu", "chat", ⟨"user", some "u", none, none⟩⟩
    (ofAccount "reports").wire ≠ (ofAccount "mail").wire ∧
      (Go.getEffectivePermissions options serveReports (ofAccount "mail") ⟨1, 1, id⟩ first.2).1 =
        {"reports.export"} ∧
      serveReports (ofAccount "mail").wire = ∅ ∧
      Typescript.Meant (some "acme|eu", none) eu ∧
      Typescript.removes (some "acme|eu") none (Typescript.cacheKey eu) = false := by
  refine ⟨by decide, by decide +kernel, by decide +kernel, ⟨Or.inr rfl, Or.inl rfl⟩,
    by decide +kernel⟩

end Examples

end Sdk

end AuthzKit
