import AuthzKit.Caching.Client
import AuthzKit.Caching.OrderedMap
import AuthzKit.Text.Delimited

/-!
The permission cache of `AuthzClient` in `authz_sdk/client.py`: an `OrderedDict` whose key renders
the subject as text.

* `cacheKey`: the key of a call; the parts of a subject are joined by colons, an absent one reads
  `None`.
* `cache_transparent_iff`: a client that is asked certain requests answers as the service does
  exactly where no two of them have one key and differ on the wire.
* `wire_eq_of_cacheKey`: requests whose ids have no colon and do not read `None` never do.
-/

namespace AuthzKit

namespace Sdk

namespace Python

open Caching Delimited

/-! ### Requests -/

structure UserRef where
  provider : String
  issuer : String
  subject : String
deriving DecidableEq

@[ext]
structure Subject where
  type : String
  userId : Option String
  agentId : Option String
  serviceAccountId : Option String
  userRef : Option UserRef
  agentName : Option String
deriving DecidableEq

/-- The arguments of `get_effective_permissions`, `bypass_cache` apart. -/
structure Request where
  tenantId : String
  applicationId : String
  subject : Subject
  delegationToken : Option String
deriving DecidableEq

/-- A non-empty token. -/
def Request.grant (r : Request) : Option String := r.delegationToken.filter (· ≠ "")

/-- What the service is sent: the body, absent fields left out, and the header
`X-Delegation-Token`. -/
structure Wire where
  tenantId : String
  applicationId : String
  subject : Subject
  delegationToken : Option String
deriving DecidableEq

def Request.wire (r : Request) : Wire := ⟨r.tenantId, r.applicationId, r.subject, r.grant⟩

/-! ### The key -/

/-- The hexadecimal digits of a code point, at least `width` of them. -/
def hexDigits (width : ℕ) (n : ℕ) : List Char :=
  let digits := Nat.toDigits 16 n
  List.replicate (width - digits.length) '0' ++ digits

section Key

-- `str.isprintable` beyond ASCII, and the first 24 hexadecimal digits of a SHA-256
variable (isPrintable : Char → Bool) (digest : String → String)

/-- A character in `repr` of a string in the given quotes. -/
def reprChar (quote c : Char) : List Char :=
  let backslash := Char.ofNat 92
  if c = quote ∨ c = backslash then [backslash, c]
  else if c.toNat = 9 then [backslash, 't']
  else if c.toNat = 10 then [backslash, 'n']
  else if c.toNat = 13 then [backslash, 'r']
  else if c.toNat < 32 ∨ c.toNat = 127 then backslash :: 'x' :: hexDigits 2 c.toNat
  else if c.toNat < 128 ∨ isPrintable c then [c]
  else if c.toNat ≤ 0xff then backslash :: 'x' :: hexDigits 2 c.toNat
  else if c.toNat ≤ 0xffff then backslash :: 'u' :: hexDigits 4 c.toNat
  else backslash :: 'U' :: hexDigits 8 c.toNat

/-- `repr` of a string: in double quotes where it has single quotes only. -/
def reprString (s : String) : String :=
  let single := Char.ofNat 39
  let double := Char.ofNat 34
  let quote := if single ∈ s.toList ∧ double ∉ s.toList then double else single
  String.ofList ([quote] ++ s.toList.flatMap (reprChar isPrintable quote) ++ [quote])

/-- A nullable string in an f-string. -/
def formatOption : Option String → String
  | none => "None"
  | some s => s

/-- The dataclass in an f-string. -/
def formatUserRef : Option UserRef → String
  | none => "None"
  | some ref =>
      "UserRef(provider=" ++ reprString isPrintable ref.provider ++ ", issuer=" ++
        reprString isPrintable ref.issuer ++ ", subject=" ++ reprString isPrintable ref.subject ++ ")"

/-- `cache_key` of `get_effective_permissions`. -/
def cacheKey (r : Request) : String × String × String :=
  let s := r.subject
  (r.tenantId, r.applicationId,
    s.type ++ ":" ++ formatOption s.userId ++ ":" ++ formatOption s.agentId ++ ":" ++
      formatOption s.serviceAccountId ++ ":" ++ formatUserRef isPrintable s.userRef ++ ":" ++
      formatOption s.agentName ++
      match r.grant with
      | some token => ":d=" ++ digest token
      | none => "")

end Key

/-! ### The cache -/

/-- Times are seconds of the monotonic clock. -/
structure CacheEntry where
  permissions : Finset String
  expiresAt : ℚ

/-- The entries in the order of the `OrderedDict`. -/
abbrev Cache := List ((String × String × String) × CacheEntry)

structure Options where
  cacheTtl : ℚ
  cacheMaxEntries : ℕ
  isPrintable : Char → Bool
  digest : String → String

namespace Cache

/-- `_cache_get`. -/
def cacheGet (c : Cache) (now : ℚ) (key : String × String × String) :
    Option (Finset String) × Cache :=
  match Keyed.lookup Prod.fst c key with
  | none => (none, c)
  | some (_, entry) =>
      if entry.expiresAt ≤ now then (none, without c key)
      else (some entry.permissions, moveToEnd c key)

/-- `_cache_put`. -/
def cachePut (c : Cache) (options : Options) (now : ℚ) (key : String × String × String)
    (permissions : Finset String) : Cache :=
  popFirst (· > options.cacheMaxEntries)
    (moveToEnd (Keyed.insertKey Prod.fst c (key, ⟨permissions, now + options.cacheTtl⟩)) key)

/-- `cache_invalidate`; `None` matches all. -/
def cacheInvalidate (c : Cache) (tenantId applicationId : Option String) : Cache :=
  c.filter fun e => !((tenantId.isNone || some e.1.1 == tenantId) &&
    (applicationId.isNone || some e.1.2.1 == applicationId))

end Cache

/-- `get_effective_permissions`: the answer and the cache it leaves. -/
def getEffectivePermissions (options : Options) (serve : Wire → Finset String) (r : Request)
    (bypassCache : Bool) (start finish : ℚ) (c : Cache) : Finset String × Cache :=
  let key := cacheKey options.isPrintable options.digest r
  let cached :=
    if options.cacheTtl > 0 ∧ bypassCache = false then c.cacheGet start key else (none, c)
  match cached.1 with
  | some permissions => (permissions, cached.2)
  | none =>
      let permissions := serve r.wire
      (permissions,
        if options.cacheTtl > 0 then cached.2.cachePut options finish key permissions
        else cached.2)

/-! ### The client -/

/-- Whether a call bypasses the cache, and the times it looks the key up and stores the answer. -/
structure Timing where
  bypassCache : Bool
  start : ℚ
  finish : ℚ

/-- The client; an invalidation names a tenant, an application, both or none. -/
def client (options : Options) :
    CachedClient Request (String × String × String) CacheEntry (Finset String) Wire Timing
      (Option String × Option String) where
  key := cacheKey options.isPrintable options.digest
  wire := Request.wire
  value := CacheEntry.permissions
  call := fun serve r t c =>
    getEffectivePermissions options serve r t.bypassCache t.start t.finish c
  invalidate := fun x c => Cache.cacheInvalidate c x.1 x.2
  removes := fun x key =>
    (x.1 = none ∨ x.1 = some key.1) ∧ (x.2 = none ∨ x.2 = some key.2.1)

section Laws

variable {options : Options} {serve : Wire → Finset String} {c : Cache}

/-- A lookup answers an entry of the cache and makes none. -/
lemma cacheGet_spec (c : Cache) (now : ℚ) (key : String × String × String) :
    (∀ permissions, (c.cacheGet now key).1 = some permissions →
      ∃ entry : CacheEntry, (key, entry) ∈ c ∧ permissions = entry.permissions) ∧
      ∀ e ∈ (c.cacheGet now key).2, e ∈ c := by
  rw [Cache.cacheGet]
  cases hlookup : Keyed.lookup Prod.fst c key with
  | none => exact ⟨by rintro permissions ⟨⟩, fun e he => he⟩
  | some found =>
      obtain ⟨k, entry⟩ := found
      obtain rfl : k = key := Keyed.key_of_lookup hlookup
      dsimp only
      split_ifs
      · exact ⟨by rintro permissions ⟨⟩, fun e he => (mem_without.mp he).1⟩
      · refine ⟨fun permissions h => ?_, fun e he => mem_of_mem_moveToEnd he⟩
        exact ⟨entry, Keyed.mem_of_lookup hlookup, (Option.some.inj h).symm⟩

lemma mem_cachePut {now : ℚ} {key : String × String × String} {permissions : Finset String}
    {e : (String × String × String) × CacheEntry}
    (he : e ∈ c.cachePut options now key permissions) :
    e ∈ c ∨ e.1 = key ∧ e.2.permissions = permissions := by
  rcases mem_insertKey (mem_of_mem_moveToEnd (mem_of_mem_popFirst he)) with rfl | ⟨hmem, -⟩
  · exact Or.inr ⟨rfl, rfl⟩
  · exact Or.inl hmem

/-- **A call** answers an entry or asks the service, and stores what the service answers. -/
theorem getEffectivePermissions_cases (r : Request) (t : Timing) (c : Cache) :
    let reply := getEffectivePermissions options serve r t.bypassCache t.start t.finish c
    let key := cacheKey options.isPrintable options.digest r
    ((∃ v : CacheEntry, (key, v) ∈ c ∧ reply.1 = v.permissions) ∨ reply.1 = serve r.wire) ∧
      ∀ e ∈ reply.2, e ∈ c ∨ e.1 = key ∧ e.2.permissions = serve r.wire := by
  intro reply key
  obtain ⟨hget, hsubset⟩ := cacheGet_spec c t.start key
  have hmiss : ∀ c' : Cache, (∀ e ∈ c', e ∈ c) →
      ∀ e ∈ (if options.cacheTtl > 0 then c'.cachePut options t.finish key (serve r.wire) else c'),
        e ∈ c ∨ e.1 = key ∧ e.2.permissions = serve r.wire := by
    intro c' hc' e he
    split_ifs at he
    · exact (mem_cachePut he).imp_left (hc' e)
    · exact Or.inl (hc' e he)
  have hreply : reply = getEffectivePermissions options serve r t.bypassCache t.start t.finish c :=
    rfl
  rw [getEffectivePermissions] at hreply
  by_cases hlookup : options.cacheTtl > 0 ∧ t.bypassCache = false
  · simp only [if_pos hlookup] at hreply
    cases hcached : (c.cacheGet t.start key).1 with
    | some permissions =>
        rw [hcached] at hreply
        rw [hreply]
        obtain ⟨entry, hmem, hentry⟩ := hget permissions hcached
        exact ⟨Or.inl ⟨entry, hmem, hentry⟩, fun e he => Or.inl (hsubset e he)⟩
    | none =>
        rw [hcached] at hreply
        rw [hreply]
        exact ⟨Or.inr rfl, hmiss _ hsubset⟩
  · simp only [if_neg hlookup] at hreply
    rw [hreply]
    exact ⟨Or.inr rfl, hmiss c fun e he => he⟩

lemma mem_cacheInvalidate {tenantId applicationId : Option String}
    {e : (String × String × String) × CacheEntry} :
    e ∈ c.cacheInvalidate tenantId applicationId ↔ e ∈ c ∧
      ¬ ((tenantId = none ∨ tenantId = some e.1.1) ∧
        (applicationId = none ∨ applicationId = some e.1.2.1)) := by
  rw [Cache.cacheInvalidate, List.mem_filter, Bool.not_eq_true', ← Bool.not_eq_true]
  simp only [Bool.and_eq_true, Bool.or_eq_true, Option.isNone_iff_eq_none, beq_iff_eq]
  exact and_congr_right fun _ =>
    not_congr (and_congr (or_congr Iff.rfl eq_comm) (or_congr Iff.rfl eq_comm))

lemma client_lawful (options : Options) : (client options).Lawful where
  call_cases := fun _ r t c => getEffectivePermissions_cases r t c
  mem_invalidate := fun _ _ _ => mem_cacheInvalidate

/-- With a lifetime and room the first answer is remembered. -/
lemma client_live (httl : 0 < options.cacheTtl) (hmax : options.cacheMaxEntries ≠ 0) :
    (client options).Live ⟨false, 0, 0⟩ where
  remembers := by
    intro serve r
    have hmax' : ¬ 1 > options.cacheMaxEntries := by omega
    refine ⟨⟨serve r.wire, options.cacheTtl⟩, rfl, ?_, fun r' hkey => ?_⟩
    · simp [client, getEffectivePermissions, Cache.cacheGet, Cache.cachePut, Keyed.lookup,
        Keyed.insertKey, moveToEnd, without, popFirst, httl, hmax']
    · have hkey' : cacheKey options.isPrintable options.digest r' =
          cacheKey options.isPrintable options.digest r := hkey
      simp [client, getEffectivePermissions, Cache.cacheGet, Keyed.lookup, httl, not_le.mpr httl,
        hkey']

/-- Without a lifetime or without room nothing is. -/
lemma client_off (h : options.cacheTtl ≤ 0 ∨ options.cacheMaxEntries = 0) :
    (client options).Off where
  forgets := by
    intro serve r t
    have hnone : Cache.cacheGet [] t.start (cacheKey options.isPrintable options.digest r) =
        (none, []) := rfl
    simp only [client, getEffectivePermissions, hnone, ite_self]
    rcases h with httl | hmax
    · rw [if_neg (not_lt.mpr httl)]
    · have hput : Cache.cachePut [] options t.finish
          (cacheKey options.isPrintable options.digest r) (serve r.wire) = [] :=
        popFirst_eq_nil (fun n => by rw [hmax]; exact Nat.succ_pos n) _
      rw [hput, ite_self]

/-- A call that bypasses the cache answers as the service. -/
lemma bypass_eq (serve : Wire → Finset String) (r : Request) (start finish : ℚ) (c : Cache) :
    (getEffectivePermissions options serve r true start finish c).1 = serve r.wire := by
  simp [getEffectivePermissions]

end Laws

/-- **When the cache of the Python client is transparent**: in all histories of calls for certain
requests and of invalidations, each call answers as one that bypasses the cache, exactly where the
cache is off or no two of the requests have one key and differ on the wire. -/
theorem cache_transparent_iff (options : Options) (Q : Set Request) :
    (∀ (serve : Wire → Finset String) (events : ℕ → CachedClient.Event Request Timing _),
      CachedClient.Within Q Set.univ events →
        ∀ i r t, events i = .call r t →
          let c := (client options).states serve events i
          (getEffectivePermissions options serve r t.bypassCache t.start t.finish c).1 =
            (getEffectivePermissions options serve r true t.start t.finish c).1) ↔
      options.cacheTtl ≤ 0 ∨ options.cacheMaxEntries = 0 ∨
        ∀ r ∈ Q, ∀ r' ∈ Q, cacheKey options.isPrintable options.digest r =
          cacheKey options.isPrintable options.digest r' → r.wire = r'.wire := by
  simp only [bypass_eq]
  have hlawful := client_lawful options
  by_cases hoff : options.cacheTtl ≤ 0 ∨ options.cacheMaxEntries = 0
  · refine iff_of_true ((client_off hoff).transparent hlawful) ?_
    exact hoff.imp_right Or.inl
  · rw [not_or, not_le] at hoff
    rw [or_iff_right (not_le.mpr hoff.1), or_iff_right hoff.2]
    exact CachedClient.transparent_iff hlawful (client_live hoff.1 hoff.2)

/-! ### Plain requests -/

/-- A request whose key can be read: without a user reference, the ids and the name have no colon
and do not read `None`. -/
structure Request.Plain (r : Request) : Prop where
  userRef : r.subject.userRef = none
  type : ':' ∉ r.subject.type.toList
  ids : ∀ id ∈ [r.subject.userId, r.subject.agentId, r.subject.serviceAccountId,
    r.subject.agentName], id ≠ some "None" ∧ ∀ s ∈ id, ':' ∉ s.toList

lemma formatOption_inj {id id' : Option String} (h : id ≠ some "None") (h' : id' ≠ some "None")
    (heq : formatOption id = formatOption id') : id = id' := by
  cases id <;> cases id' <;> simp_all [formatOption]

lemma colon_notMem_formatOption {id : Option String} (h : ∀ s ∈ id, ':' ∉ s.toList) :
    ':' ∉ (formatOption id).toList := by
  cases id with
  | none => decide
  | some s => exact h s rfl

/-- The key of a request, part by part. -/
lemma cacheKey_eq {isPrintable : Char → Bool} {digest : String → String} (r : Request) :
    cacheKey isPrintable digest r = (r.tenantId, r.applicationId,
      r.subject.type ++ (":" ++ (formatOption r.subject.userId ++ (":" ++
        (formatOption r.subject.agentId ++ (":" ++ (formatOption r.subject.serviceAccountId ++
          (":" ++ (formatUserRef isPrintable r.subject.userRef ++ (":" ++
            (formatOption r.subject.agentName ++
              r.grant.elim "" fun token => ":" ++ ("d=" ++ digest token)))))))))))) := by
  have hgrant : (match r.grant with | some token => ":d=" ++ digest token | none => "") =
      r.grant.elim "" fun token => ":" ++ ("d=" ++ digest token) := by
    cases r.grant with
    | none => rfl
    | some token =>
        dsimp only [Option.elim_some]
        rw [← String.append_assoc]
        rfl
  simp only [cacheKey, String.append_assoc, hgrant]

/-- The name and the token at the end of a key. -/
lemma name_grant_inj {digest : String → String} (hdigest : Function.Injective digest)
    {name name' : String} {grant grant' : Option String} (hname : ':' ∉ name.toList)
    (hname' : ':' ∉ name'.toList)
    (h : (name ++ grant.elim "" fun token => ":" ++ ("d=" ++ digest token)) =
      name' ++ grant'.elim "" fun token => ":" ++ ("d=" ++ digest token)) :
    name = name' ∧ grant = grant' := by
  have hcolon : ∀ {x text y : String}, x ++ (":" ++ text) = y → ':' ∈ y.toList := by
    rintro x text y rfl
    simp
  cases grant with
  | none =>
      cases grant' with
      | none => simpa using h
      | some token' =>
          rw [Option.elim_none, Option.elim_some, String.append_empty] at h
          exact absurd (hcolon h.symm) hname
  | some token =>
      cases grant' with
      | none =>
          rw [Option.elim_none, Option.elim_some, String.append_empty] at h
          exact absurd (hcolon h) hname'
      | some token' =>
          rw [Option.elim_some, Option.elim_some] at h
          have hletter : ":".toList = [':'] := rfl
          obtain ⟨hsame, hrest⟩ := string_join_inj hletter hname hname' h
          have htoken : token = token' := hdigest (by simpa using hrest)
          exact ⟨hsame, by rw [htoken]⟩

/-- **Which strings are safe**: the keys of plain requests tell them apart. -/
theorem wire_eq_of_cacheKey {isPrintable : Char → Bool} {digest : String → String}
    (hdigest : Function.Injective digest) {r r' : Request} (h : r.Plain) (h' : r'.Plain)
    (hkey : cacheKey isPrintable digest r = cacheKey isPrintable digest r') : r.wire = r'.wire := by
  rw [cacheKey_eq, cacheKey_eq] at hkey
  obtain ⟨htenant, hkey⟩ := Prod.mk.inj hkey
  obtain ⟨happlication, hkey⟩ := Prod.mk.inj hkey
  have hids := h.ids
  have hids' := h'.ids
  simp only [List.forall_mem_cons, List.not_mem_nil, false_imp_iff, implies_true, and_true]
    at hids hids'
  obtain ⟨huser, hagent, haccount, hname⟩ := hids
  obtain ⟨huser', hagent', haccount', hname'⟩ := hids'
  have hcolon : (":" : String).toList = [':'] := by rfl
  obtain ⟨htype, hkey⟩ := string_join_inj hcolon h.type h'.type hkey
  obtain ⟨heqUser, hkey⟩ := string_join_inj hcolon (colon_notMem_formatOption huser.2)
    (colon_notMem_formatOption huser'.2) hkey
  obtain ⟨heqAgent, hkey⟩ := string_join_inj hcolon (colon_notMem_formatOption hagent.2)
    (colon_notMem_formatOption hagent'.2) hkey
  obtain ⟨heqAccount, hkey⟩ := string_join_inj hcolon (colon_notMem_formatOption haccount.2)
    (colon_notMem_formatOption haccount'.2) hkey
  have hnone : ∀ {r : Request}, r.Plain →
      ':' ∉ (formatUserRef isPrintable r.subject.userRef).toList := by
    intro r h
    have htext : formatUserRef isPrintable none = "None" := rfl
    rw [h.userRef, htext]
    decide
  obtain ⟨-, hkey⟩ := string_join_inj hcolon (hnone h) (hnone h') hkey
  obtain ⟨heqName, hgrant⟩ := name_grant_inj hdigest (colon_notMem_formatOption hname.2)
    (colon_notMem_formatOption hname'.2) hkey
  have hsubject : r.subject = r'.subject :=
    Subject.ext htype (formatOption_inj huser.1 huser'.1 heqUser)
      (formatOption_inj hagent.1 hagent'.1 heqAgent)
      (formatOption_inj haccount.1 haccount'.1 heqAccount) (h.userRef.trans h'.userRef.symm)
      (formatOption_inj hname.1 hname'.1 heqName)
  rw [Request.wire, Request.wire, htenant, happlication, hsubject, hgrant]

section Examples

def sampleOptions : Options where
  cacheTtl := 60
  cacheMaxEntries := 1024
  isPrintable := fun _ => true
  digest := fun token => token

/-- An agent of a user in the chat of a tenant. -/
def ofAgent (userId agentId : String) : Request where
  tenantId := "acme"
  applicationId := "chat"
  subject := ⟨"agent", some userId, some agentId, none, none, none⟩
  delegationToken := none

/-- Only the agent `a:b` of the user `u` may delete documents. -/
def sampleServe (wire : Wire) : Finset String :=
  if wire.subject.userId = some "u" then {"docs.delete"} else ∅

/-- Both agents are `agent:u:a:b:None:None:None` in the key: the second is served the set of the
first. -/
theorem colon_in_id_serves_foreign_set :
    let first := getEffectivePermissions sampleOptions sampleServe (ofAgent "u" "a:b") false 0 0 []
    (ofAgent "u" "a:b").wire ≠ (ofAgent "u:a" "b").wire ∧
      (getEffectivePermissions sampleOptions sampleServe (ofAgent "u:a" "b") false 1 1 first.2).1 =
        {"docs.delete"} ∧
      (getEffectivePermissions sampleOptions sampleServe (ofAgent "u:a" "b") true 1 1 first.2).1 =
        ∅ := by
  refine ⟨by decide, by decide +kernel, by decide +kernel⟩

end Examples

end Python

end Sdk

end AuthzKit
