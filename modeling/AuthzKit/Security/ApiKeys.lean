import AuthzKit.Text.Words

/-!
API keys (`authzkit/security/api_keys.py`): the table `api_keys` and the service over it.
A plaintext and an id are drawn by the caller, and the clock is read by it.

* `mem_parseScopes_serializeScopes`: the scopes that come back from the column.
* `ApiKeyTable`: rows with different ids and hashes.
* `findActive_revoked`: a plaintext whose row is revoked is not found.
* `Revoked`: a row that is revoked; every operation keeps it (`revoked_findActive`,
  `revoked_issue`, `revoked_revoke`).
-/

namespace AuthzKit

open Text

def apiKeyStatusActive : String := "active"

def apiKeyStatusRevoked : String := "revoked"

/-- A row of `api_keys`. -/
structure ApiKey where
  id : String
  name : String
  keyHash : String
  keyPrefix : String
  scopes : String
  tenantId : Option String
  status : String
  expiresAt : Option ℕ
  lastUsedAt : Option ℕ
  rotates : Option String
deriving DecidableEq, Repr

/-- `ApiKeyRecord`. -/
structure ApiKeyRecord where
  id : String
  name : String
  keyPrefix : String
  scopes : List String
  tenantId : Option String
  status : String
  expiresAt : Option ℕ
  lastUsedAt : Option ℕ
  rotates : Option String
deriving DecidableEq, Repr

/-- `parse_scopes`. -/
def parseScopes (value : String) : List String :=
  ((split ',' value).map strip).filter (· ≠ "")

/-- `serialize_scopes`. -/
def serializeScopes (scopes : List String) : String :=
  ",".intercalate ((scopes.filter (· ≠ "")).toFinset.sort (· ≤ ·))

/-- **What comes back of stored scopes**: the pieces between their commas. -/
theorem mem_parseScopes_serializeScopes {scopes : List String} {scope : String} :
    scope ∈ parseScopes (serializeScopes scopes) ↔
      scope ≠ "" ∧ ∃ s ∈ scopes, ∃ piece ∈ split ',' s, strip piece = scope := by
  have hmem : ∀ s, s ∈ (scopes.filter (· ≠ "")).toFinset.sort (· ≤ ·) ↔ s ∈ scopes ∧ s ≠ "" := by
    intro s
    rw [Finset.mem_sort, List.mem_toFinset, List.mem_filter, decide_eq_true_iff]
  have hparse : scope ∈ parseScopes (serializeScopes scopes) ↔
      scope ≠ "" ∧ ∃ piece ∈ split ',' (serializeScopes scopes), strip piece = scope := by
    rw [parseScopes, List.mem_filter, List.mem_map, decide_eq_true_iff, and_comm]
  rw [hparse]
  refine and_congr_right fun hscope => ?_
  have hpieces : ∀ {piece}, strip piece = scope →
      (piece ∈ split ',' (serializeScopes scopes) ↔
        ∃ s, (s ∈ scopes ∧ s ≠ "") ∧ piece ∈ split ',' s) := by
    rintro piece rfl
    have hpiece : piece ≠ "" := fun hempty => hscope (by rw [hempty]; rfl)
    simp only [← hmem]
    exact mem_split_intercalate hpiece
  constructor
  · rintro ⟨piece, hpiece, hstrip⟩
    obtain ⟨s, ⟨hs, -⟩, hpiece⟩ := (hpieces hstrip).mp hpiece
    exact ⟨s, hs, piece, hpiece, hstrip⟩
  · rintro ⟨s, hs, piece, hpiece, hstrip⟩
    refine ⟨piece, (hpieces hstrip).mpr ⟨s, ⟨hs, ?_⟩, hpiece⟩, hstrip⟩
    -- of an empty scope only an empty piece would come
    rintro rfl
    rw [split_of_notMem (by simp), List.mem_singleton] at hpiece
    exact hscope (by rw [← hstrip, hpiece]; rfl)

/-- One scope is stored as it is. -/
lemma serializeScopes_singleton {scope : String} (h : scope ≠ "") :
    serializeScopes [scope] = scope := by
  have hfilter : [scope].filter (· ≠ "") = [scope] :=
    List.filter_eq_self.mpr fun s hs => by simpa [List.mem_singleton.mp hs] using h
  rw [serializeScopes, hfilter, List.toFinset_cons, List.toFinset_nil, insert_empty_eq,
    Finset.sort_singleton, String.intercalate_singleton]

/-- `_to_record`. -/
def ApiKey.toRecord (row : ApiKey) : ApiKeyRecord where
  id := row.id
  name := row.name
  keyPrefix := row.keyPrefix
  scopes := parseScopes row.scopes
  tenantId := row.tenantId
  status := row.status
  expiresAt := row.expiresAt
  lastUsedAt := row.lastUsedAt
  rotates := row.rotates

/-- `row.last_used_at = now`. -/
def ApiKey.touch (now : ℕ) (row : ApiKey) : ApiKey := { row with lastUsedAt := some now }

/-- `row.status = "revoked"`. -/
def ApiKey.revoke (row : ApiKey) : ApiKey := { row with status := apiKeyStatusRevoked }

lemma ApiKey.touch_keys (now : ℕ) (row : ApiKey) :
    (row.touch now).id = row.id ∧ (row.touch now).keyHash = row.keyHash := ⟨rfl, rfl⟩

lemma ApiKey.revoke_keys (row : ApiKey) :
    row.revoke.id = row.id ∧ row.revoke.keyHash = row.keyHash := ⟨rfl, rfl⟩

/-- The table `api_keys`. -/
structure ApiKeyTable where
  rows : List ApiKey
  /-- `id` is the primary key. -/
  ids_nodup : (rows.map ApiKey.id).Nodup
  /-- `key_hash` is unique. -/
  hashes_nodup : (rows.map ApiKey.keyHash).Nodup

namespace ApiKeyTable

def empty : ApiKeyTable := ⟨[], List.nodup_nil, List.nodup_nil⟩

/-- An update of the row with an id, of neither its id nor its hash. -/
def update (table : ApiKeyTable) (id : String) (f : ApiKey → ApiKey)
    (hf : ∀ row, (f row).id = row.id ∧ (f row).keyHash = row.keyHash) : ApiKeyTable where
  rows := table.rows.map fun row => if row.id = id then f row else row
  ids_nodup := by
    rw [List.map_map]
    convert table.ids_nodup using 2
    funext row
    rw [Function.comp_apply]
    split_ifs
    · exact (hf row).1
    · rfl
  hashes_nodup := by
    rw [List.map_map]
    convert table.hashes_nodup using 2
    funext row
    rw [Function.comp_apply]
    split_ifs
    · exact (hf row).2
    · rfl

/-- `s.add(row)`: none when the id or the hash is taken. -/
def insert (table : ApiKeyTable) (row : ApiKey) : Option ApiKeyTable :=
  if h : row.id ∉ table.rows.map ApiKey.id ∧ row.keyHash ∉ table.rows.map ApiKey.keyHash then
    some
      { rows := row :: table.rows
        ids_nodup := List.nodup_cons.mpr ⟨h.1, table.ids_nodup⟩
        hashes_nodup := List.nodup_cons.mpr ⟨h.2, table.hashes_nodup⟩ }
  else none

/-- The row with this id and hash is revoked. -/
def Revoked (table : ApiKeyTable) (keyId keyHash : String) : Prop :=
  ∃ row ∈ table.rows, row.id = keyId ∧ row.keyHash = keyHash ∧ row.status = apiKeyStatusRevoked

variable {table : ApiKeyTable} {row row' : ApiKey} {keyId keyHash : String}

/-- A hash has one row. -/
lemma eq_of_keyHash (hrow : row ∈ table.rows) (hrow' : row' ∈ table.rows)
    (h : row.keyHash = row'.keyHash) : row = row' :=
  List.inj_on_of_nodup_map table.hashes_nodup hrow hrow' h

/-- An id has one row. -/
lemma eq_of_id (hrow : row ∈ table.rows) (hrow' : row' ∈ table.rows) (h : row.id = row'.id) :
    row = row' :=
  List.inj_on_of_nodup_map table.ids_nodup hrow hrow' h

lemma mem_update {id : String} {f : ApiKey → ApiKey}
    (hf : ∀ row, (f row).id = row.id ∧ (f row).keyHash = row.keyHash) (hrow : row ∈ table.rows) :
    (if row.id = id then f row else row) ∈ (table.update id f hf).rows :=
  List.mem_map_of_mem hrow

/-- An update that keeps the status, or revokes, keeps what is revoked. -/
lemma Revoked.update {id : String} {f : ApiKey → ApiKey}
    (hf : ∀ row, (f row).id = row.id ∧ (f row).keyHash = row.keyHash)
    (hstatus : ∀ row, row.status = apiKeyStatusRevoked → (f row).status = apiKeyStatusRevoked)
    (h : table.Revoked keyId keyHash) : (table.update id f hf).Revoked keyId keyHash := by
  obtain ⟨row, hrow, hid, hhash, hrevoked⟩ := h
  refine ⟨_, mem_update hf hrow, ?_, ?_, ?_⟩
  · split_ifs
    · exact (hf row).1.trans hid
    · exact hid
  · split_ifs
    · exact (hf row).2.trans hhash
    · exact hhash
  · split_ifs
    · exact hstatus row hrevoked
    · exact hrevoked

lemma Revoked.insert {table' : ApiKeyTable} (h : table.Revoked keyId keyHash)
    (hinsert : table.insert row = some table') : table'.Revoked keyId keyHash := by
  rw [ApiKeyTable.insert] at hinsert
  split_ifs at hinsert
  obtain rfl := Option.some.inj hinsert
  obtain ⟨row', hrow', hrevoked⟩ := h
  exact ⟨row', List.mem_cons_of_mem row hrow', hrevoked⟩

end ApiKeyTable

/-! ### The service -/

namespace ApiKeyService

variable (hash : String → String)

/-- What `generate_api_key` and the database draw for a new key. -/
structure Draw where
  id : String
  plaintext : String
deriving DecidableEq

/-- `issue`; none when the insert fails. -/
def issue (table : ApiKeyTable) (draw : Draw) (name : String) (scopes : List String)
    (tenantId : Option String) (expiresAt : Option ℕ) (rotates : Option String) :
    Option (ApiKeyRecord × ApiKeyTable) :=
  let row : ApiKey :=
    { id := draw.id
      name
      keyHash := hash draw.plaintext
      keyPrefix := String.ofList (draw.plaintext.toList.take ("azk".length + 7))
      scopes := serializeScopes scopes
      tenantId
      status := apiKeyStatusActive
      expiresAt
      lastUsedAt := none
      rotates }
  (table.insert row).map fun table => (row.toRecord, table)

/-- `find_active`. -/
def findActive (table : ApiKeyTable) (now : ℕ) (plaintext : String) :
    Option ApiKeyRecord × ApiKeyTable :=
  match table.rows.find? (·.keyHash = hash plaintext) with
  | none => (none, table)
  | some row =>
      if row.status ≠ apiKeyStatusActive then (none, table)
      else if row.expiresAt.any (· < now) then (none, table)
      else
        (some (row.touch now).toRecord, table.update row.id (ApiKey.touch now) (ApiKey.touch_keys now))

/-- `revoke`. -/
def revoke (table : ApiKeyTable) (keyId : String) : Bool × ApiKeyTable :=
  match table.rows.find? (·.id = keyId) with
  | none => (false, table)
  | some row => (true, table.update row.id ApiKey.revoke ApiKey.revoke_keys)

/-- `rotate`; none is the `ValueError` of an unknown key, and `some none` a failed insert. -/
def rotate (table : ApiKeyTable) (draw : Draw) (oldKeyId : String) :
    Option (Option (ApiKeyRecord × ApiKeyTable)) :=
  (table.rows.find? (·.id = oldKeyId)).map fun old =>
    issue hash table draw (old.name ++ " (rotated)") (parseScopes old.scopes) old.tenantId none
      (some oldKeyId)

variable {hash} {table table' : ApiKeyTable} {keyId keyHash plaintext : String} {now : ℕ}

/-- A revoked key is not found. -/
theorem findActive_revoked (h : table.Revoked keyId (hash plaintext)) :
    findActive hash table now plaintext = (none, table) := by
  obtain ⟨row, hrow, -, hhash, hrevoked⟩ := h
  rw [findActive]
  cases hfind : table.rows.find? (·.keyHash = hash plaintext) with
  | none => rfl
  | some row' =>
      have hhash' : row'.keyHash = hash plaintext := by simpa using List.find?_some hfind
      obtain rfl := table.eq_of_keyHash hrow (List.mem_of_find?_eq_some hfind)
        (hhash.trans hhash'.symm)
      exact if_pos (by rw [hrevoked]; decide)

lemma revoked_findActive (h : table.Revoked keyId keyHash) :
    (findActive hash table now plaintext).2.Revoked keyId keyHash := by
  rw [findActive]
  split
  · exact h
  · split_ifs
    · exact h
    · exact h
    · exact h.update (ApiKey.touch_keys now) fun _ hrow => hrow

lemma revoked_revoke {keyId' : String} (h : table.Revoked keyId keyHash) :
    (revoke table keyId').2.Revoked keyId keyHash := by
  rw [revoke]
  split
  · exact h
  · exact h.update ApiKey.revoke_keys fun _ _ => rfl

lemma revoked_issue {draw : Draw} {name : String} {scopes : List String}
    {tenantId : Option String} {expiresAt : Option ℕ} {rotates : Option String}
    {record : ApiKeyRecord} (h : table.Revoked keyId keyHash)
    (hissue : issue hash table draw name scopes tenantId expiresAt rotates =
      some (record, table')) : table'.Revoked keyId keyHash := by
  obtain ⟨inserted, hinsert, heq⟩ := Option.map_eq_some_iff.mp hissue
  obtain rfl : inserted = table' := congrArg Prod.snd heq
  exact h.insert hinsert

/-- A key that `revoke` finds is revoked. -/
theorem revoke_revoked (h : (revoke table keyId).1 = true) :
    ∃ keyHash, (revoke table keyId).2.Revoked keyId keyHash := by
  cases hfind : table.rows.find? (·.id = keyId) with
  | none =>
      rw [revoke, hfind] at h
      cases h
  | some row =>
      have hrow := List.mem_of_find?_eq_some hfind
      have hid : row.id = keyId := by simpa using List.find?_some hfind
      rw [revoke, hfind]
      refine ⟨row.keyHash, _, ApiKeyTable.mem_update ApiKey.revoke_keys hrow, ?_⟩
      rw [if_pos rfl]
      exact ⟨hid, rfl, rfl⟩

end ApiKeyService

end AuthzKit
