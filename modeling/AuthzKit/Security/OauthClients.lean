import AuthzKit.Security.ApiKeys

/-!
OAuth clients (`authzkit/security/oauth_clients.py`): the table `oauth_clients` and the service
over it. Ids and secrets are drawn by the caller.

* `OAuthClientTable`: rows with different client ids.
* `OAuthClientService.Operation`: what the service does to the table.
* `OAuthClientTable.Registered`: a client with the scopes and the tenant it was issued with;
  `registered_run` says that it keeps them.
* `authenticate_registered`: an authenticated client has the scopes and the tenant it was
  issued with.
-/

namespace AuthzKit

/-- A row of `oauth_clients`. -/
structure OAuthClient where
  id : String
  clientId : String
  secretHash : String
  name : String
  scopes : String
  tenantId : Option String
  status : String
  expiresAt : Option ℕ
  lastUsedAt : Option ℕ
deriving DecidableEq, Repr

/-- `OAuthClientRecord`. -/
structure OAuthClientRecord where
  id : String
  clientId : String
  name : String
  scopes : List String
  tenantId : Option String
  status : String
  expiresAt : Option ℕ
  lastUsedAt : Option ℕ
deriving DecidableEq, Repr

namespace OAuthClient

/-- `_to_record`. -/
def toRecord (row : OAuthClient) : OAuthClientRecord where
  id := row.id
  clientId := row.clientId
  name := row.name
  scopes := parseScopes row.scopes
  tenantId := row.tenantId
  status := row.status
  expiresAt := row.expiresAt
  lastUsedAt := row.lastUsedAt

/-- `row.last_used_at = now`. -/
def touch (now : ℕ) (row : OAuthClient) : OAuthClient := { row with lastUsedAt := some now }

/-- `row.status = "revoked"`. -/
def revoke (row : OAuthClient) : OAuthClient := { row with status := "revoked" }

/-- `row.secret_hash = _hash(secret)`. -/
def setSecretHash (secretHash : String) (row : OAuthClient) : OAuthClient :=
  { row with secretHash }

/-- An update of neither the id, nor the scopes, nor the tenant of a client. -/
def Keeps (f : OAuthClient → OAuthClient) : Prop :=
  ∀ row, (f row).clientId = row.clientId ∧ (f row).scopes = row.scopes ∧
    (f row).tenantId = row.tenantId

lemma keeps_touch (now : ℕ) : Keeps (touch now) := fun _ => ⟨rfl, rfl, rfl⟩

lemma keeps_revoke : Keeps revoke := fun _ => ⟨rfl, rfl, rfl⟩

lemma keeps_setSecretHash (secretHash : String) : Keeps (setSecretHash secretHash) :=
  fun _ => ⟨rfl, rfl, rfl⟩

end OAuthClient

/-- The table `oauth_clients`. -/
structure OAuthClientTable where
  rows : List OAuthClient
  /-- `client_id` is unique. -/
  clientIds_nodup : (rows.map OAuthClient.clientId).Nodup

namespace OAuthClientTable

/-- The row of a client id. -/
def find? (table : OAuthClientTable) (clientId : String) : Option OAuthClient :=
  table.rows.find? (·.clientId = clientId)

/-- An update of the row of a client id. -/
def update (table : OAuthClientTable) (clientId : String) (f : OAuthClient → OAuthClient)
    (hf : OAuthClient.Keeps f) : OAuthClientTable where
  rows := table.rows.map fun row => if row.clientId = clientId then f row else row
  clientIds_nodup := by
    rw [List.map_map]
    convert table.clientIds_nodup using 2
    funext row
    rw [Function.comp_apply]
    split_ifs
    · exact (hf row).1
    · rfl

/-- `s.add(row)`: none when the id or the client id is taken. -/
def insert (table : OAuthClientTable) (row : OAuthClient) : Option OAuthClientTable :=
  if h : row.clientId ∉ table.rows.map OAuthClient.clientId then
    if row.id ∈ table.rows.map OAuthClient.id then none
    else some ⟨row :: table.rows, List.nodup_cons.mpr ⟨h, table.clientIds_nodup⟩⟩
  else none

/-- The client was issued with these scopes and this tenant. -/
def Registered (table : OAuthClientTable) (clientId : String) (scopes : List String)
    (tenantId : Option String) : Prop :=
  ∃ row ∈ table.rows, row.clientId = clientId ∧ row.scopes = serializeScopes scopes ∧
    row.tenantId = tenantId

variable {table table' : OAuthClientTable} {row : OAuthClient} {clientId : String}
  {scopes : List String} {tenantId : Option String}

lemma Registered.update {clientId' : String} {f : OAuthClient → OAuthClient}
    (hf : OAuthClient.Keeps f) (h : table.Registered clientId scopes tenantId) :
    (table.update clientId' f hf).Registered clientId scopes tenantId := by
  obtain ⟨row, hrow, hid, hscopes, htenant⟩ := h
  refine ⟨_, List.mem_map_of_mem hrow, ?_⟩
  split_ifs
  · obtain ⟨hid', hscopes', htenant'⟩ := hf row
    exact ⟨hid'.trans hid, hscopes'.trans hscopes, htenant'.trans htenant⟩
  · exact ⟨hid, hscopes, htenant⟩

lemma insert_rows (h : table.insert row = some table') : table'.rows = row :: table.rows := by
  rw [insert] at h
  split_ifs at h
  rw [← Option.some.inj h]

lemma Registered.insert (h : table.Registered clientId scopes tenantId)
    (hinsert : table.insert row = some table') : table'.Registered clientId scopes tenantId := by
  obtain ⟨row', hrow', hregistered⟩ := h
  exact ⟨row', insert_rows hinsert ▸ List.mem_cons_of_mem row hrow', hregistered⟩

/-- A client id has one row. -/
lemma registered_of_find? (h : table.Registered clientId scopes tenantId)
    (hfind : table.find? clientId = some row) :
    row.clientId = clientId ∧ row.scopes = serializeScopes scopes ∧ row.tenantId = tenantId := by
  obtain ⟨row', hrow', hid', hscopes, htenant⟩ := h
  have hid : row.clientId = clientId := by simpa using List.find?_some hfind
  obtain rfl : row' = row := List.inj_on_of_nodup_map table.clientIds_nodup hrow'
    (List.mem_of_find?_eq_some hfind) (hid'.trans hid.symm)
  exact ⟨hid', hscopes, htenant⟩

end OAuthClientTable

/-! ### The service -/

namespace OAuthClientService

variable (hash : String → String)

/-- What `_generate_client_id`, `_generate_client_secret` and the database draw. -/
structure Draw where
  id : String
  clientId : String
  clientSecret : String
deriving DecidableEq

/-- `issue`; none when the insert fails. -/
def issue (table : OAuthClientTable) (draw : Draw) (name : String) (scopes : List String)
    (tenantId : Option String) (expiresAt : Option ℕ) (clientId : Option String) :
    Option (OAuthClientRecord × OAuthClientTable) :=
  let row : OAuthClient :=
    { id := draw.id
      clientId := (clientId.filter (· ≠ "")).getD draw.clientId
      secretHash := hash draw.clientSecret
      name
      scopes := serializeScopes scopes
      tenantId
      status := "active"
      expiresAt
      lastUsedAt := none }
  (table.insert row).map fun table => (row.toRecord, table)

/-- `authenticate`. -/
def authenticate (table : OAuthClientTable) (now : ℕ) (clientId clientSecret : String) :
    Option OAuthClientRecord × OAuthClientTable :=
  match table.find? clientId with
  | none => (none, table)
  | some row =>
      if row.secretHash ≠ hash clientSecret then (none, table)
      else if row.status ≠ "active" then (none, table)
      else if row.expiresAt.any (· < now) then (none, table)
      else
        (some (row.touch now).toRecord,
          table.update clientId (OAuthClient.touch now) (OAuthClient.keeps_touch now))

/-- `revoke`. -/
def revoke (table : OAuthClientTable) (clientId : String) : Bool × OAuthClientTable :=
  match table.find? clientId with
  | none => (false, table)
  | some _ => (true, table.update clientId OAuthClient.revoke OAuthClient.keeps_revoke)

/-- `rotate_secret`, with the new secret. -/
def rotateSecret (table : OAuthClientTable) (secret clientId : String) :
    Option OAuthClientRecord × OAuthClientTable :=
  match table.find? clientId with
  | none => (none, table)
  | some row =>
      (some (row.setSecretHash (hash secret)).toRecord,
        table.update clientId (OAuthClient.setSecretHash (hash secret))
          (OAuthClient.keeps_setSecretHash _))

/-- A call of the service. -/
inductive Operation where
  | issue (draw : Draw) (name : String) (scopes : List String) (tenantId : Option String)
      (expiresAt : Option ℕ) (clientId : Option String)
  | authenticate (now : ℕ) (clientId clientSecret : String)
  | revoke (clientId : String)
  | rotateSecret (secret clientId : String)

/-- What a call leaves in the table. -/
def apply (table : OAuthClientTable) : Operation → OAuthClientTable
  | .issue draw name scopes tenantId expiresAt clientId =>
      match OAuthClientService.issue hash table draw name scopes tenantId expiresAt clientId with
      | none => table
      | some (_, table) => table
  | .authenticate now clientId clientSecret =>
      (OAuthClientService.authenticate hash table now clientId clientSecret).2
  | .revoke clientId => (OAuthClientService.revoke table clientId).2
  | .rotateSecret secret clientId => (OAuthClientService.rotateSecret hash table secret clientId).2

/-- What a list of calls leaves in the table. -/
def run (table : OAuthClientTable) (operations : List Operation) : OAuthClientTable :=
  operations.foldl (apply hash) table

variable {hash} {table table' : OAuthClientTable} {clientId : String} {scopes : List String}
  {tenantId : Option String}

/-- An issued client is registered. -/
lemma registered_issue {draw : Draw} {name : String} {expiresAt : Option ℕ}
    {asked : Option String} {record : OAuthClientRecord}
    (h : issue hash table draw name scopes tenantId expiresAt asked = some (record, table')) :
    table'.Registered record.clientId scopes tenantId := by
  obtain ⟨table'', hinsert, heq⟩ := Option.map_eq_some_iff.mp h
  obtain ⟨rfl, rfl⟩ := Prod.mk.inj heq
  exact ⟨_, OAuthClientTable.insert_rows hinsert ▸ List.mem_cons_self, rfl, rfl, rfl⟩

/-- Every call keeps what is registered. -/
lemma registered_apply (operation : Operation) (h : table.Registered clientId scopes tenantId) :
    (apply hash table operation).Registered clientId scopes tenantId := by
  cases operation with
  | issue draw name scopes' tenantId' expiresAt asked =>
      rw [apply]
      split
      · exact h
      · rename_i heq
        obtain ⟨_, hinsert, heq⟩ := Option.map_eq_some_iff.mp heq
        obtain ⟨-, rfl⟩ := Prod.mk.inj heq
        exact h.insert hinsert
  | authenticate now clientId' clientSecret =>
      rw [apply, authenticate]
      split
      · exact h
      · split_ifs
        · exact h
        · exact h
        · exact h
        · exact h.update (OAuthClient.keeps_touch now)
  | revoke clientId' =>
      rw [apply, revoke]
      split
      · exact h
      · exact h.update OAuthClient.keeps_revoke
  | rotateSecret secret clientId' =>
      rw [apply, rotateSecret]
      split
      · exact h
      · exact h.update (OAuthClient.keeps_setSecretHash (hash secret))

/-- **A client keeps the scopes and the tenant it was issued with.** -/
theorem registered_run (operations : List Operation)
    (h : table.Registered clientId scopes tenantId) :
    (run hash table operations).Registered clientId scopes tenantId := by
  induction operations generalizing table with
  | nil => exact h
  | cons operation operations ih => exact ih (registered_apply operation h)

/-- An authenticated client has what it was issued with. -/
theorem authenticate_registered {now : ℕ} {clientSecret : String} {record : OAuthClientRecord}
    (h : table.Registered clientId scopes tenantId)
    (hrecord : (authenticate hash table now clientId clientSecret).1 = some record) :
    record.clientId = clientId ∧ record.scopes = parseScopes (serializeScopes scopes) ∧
      record.tenantId = tenantId := by
  rw [authenticate] at hrecord
  split at hrecord
  · cases hrecord
  · rename_i row hfind
    obtain ⟨hid, hscopes, htenant⟩ := OAuthClientTable.registered_of_find? h hfind
    split_ifs at hrecord
    obtain rfl := Option.some.inj hrecord
    exact ⟨hid, congrArg parseScopes hscopes, htenant⟩

end OAuthClientService

end AuthzKit
