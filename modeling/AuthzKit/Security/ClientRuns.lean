import AuthzKit.Security.OauthClients

/-!
Runs of `OAuthClientService`: which secret of a client is good after which calls.

* `Issuance`: the arguments of a call that issues a client, and the record of it later.
* `secretAfter`: the secret of a client after some calls.
* `IssuedBy`: the calls of a run after the one that issued a client; `row_of_issuedBy` and
  `issuedBy_of_row` say that the row of the client is what these calls make of it.
* `authenticate_eq_some_iff`: who is authenticated, from the calls alone.
-/

namespace AuthzKit

/-- A database without clients. -/
def OAuthClientTable.empty : OAuthClientTable := ⟨[], List.nodup_nil⟩

/-- An update of the row of a client id, read back. -/
lemma OAuthClientTable.find?_update (table : OAuthClientTable) (clientId clientId' : String)
    {f : OAuthClient → OAuthClient} (hf : OAuthClient.Keeps f) :
    (table.update clientId' f hf).find? clientId =
      (table.find? clientId).map fun row => if clientId = clientId' then f row else row := by
  rw [find?, update, List.find?_map]
  have hsame : ((fun row : OAuthClient => decide (row.clientId = clientId)) ∘ fun row =>
      if row.clientId = clientId' then f row else row) =
      fun row => decide (row.clientId = clientId) := by
    funext row
    rw [Function.comp_apply]
    split_ifs
    · rw [(hf row).1]
    · rfl
  rw [hsame, ← find?]
  cases hfind : table.find? clientId with
  | none => rfl
  | some row =>
      have hid : row.clientId = clientId := by simpa using List.find?_some hfind
      rw [Option.map_some, Option.map_some, hid]

namespace OAuthClientService

/-! ### Calls that issue a client -/

/-- The arguments of `issue`, with what it draws. -/
structure Issuance where
  draw : Draw
  name : String
  scopes : List String
  tenantId : Option String
  expiresAt : Option ℕ
  asked : Option String

namespace Issuance

variable (issuance : Issuance)

def operation : Operation :=
  .issue issuance.draw issuance.name issuance.scopes issuance.tenantId issuance.expiresAt
    issuance.asked

/-- The client id: the one asked for, else the one drawn. -/
def clientId : String := (issuance.asked.filter (· ≠ "")).getD issuance.draw.clientId

/-- The record of the client when it was last used. -/
def record (now : ℕ) : OAuthClientRecord where
  id := issuance.draw.id
  clientId := issuance.clientId
  name := issuance.name
  scopes := parseScopes (serializeScopes issuance.scopes)
  tenantId := issuance.tenantId
  status := "active"
  expiresAt := issuance.expiresAt
  lastUsedAt := some now

/-- The row `issue` adds. -/
def row (hash : String → String) : OAuthClient where
  id := issuance.draw.id
  clientId := issuance.clientId
  secretHash := hash issuance.draw.clientSecret
  name := issuance.name
  scopes := serializeScopes issuance.scopes
  tenantId := issuance.tenantId
  status := "active"
  expiresAt := issuance.expiresAt
  lastUsedAt := none

end Issuance

/-- The secret of a client after some calls. -/
def secretAfter (clientId : String) : String → List Operation → String
  | secret, [] => secret
  | secret, .rotateSecret new clientId' :: operations =>
      secretAfter clientId (if clientId' = clientId then new else secret) operations
  | secret, _ :: operations => secretAfter clientId secret operations

/-- A call revokes the client. -/
def Operation.revokes (clientId : String) : Operation → Bool
  | .revoke clientId' => clientId' = clientId
  | _ => false

section Runs

variable (hash : String → String)

/-- The table after a run from an empty one. -/
abbrev after (operations : List Operation) : OAuthClientTable :=
  run hash OAuthClientTable.empty operations

/-- The client was issued in a run, and these calls came after. -/
structure IssuedBy (operations : List Operation) (clientId : String) (issuance : Issuance)
    (later : List Operation) : Prop where
  split : ∃ before, operations = before ++ issuance.operation :: later ∧
    ((after hash before).insert (issuance.row hash)).isSome
  id : issuance.clientId = clientId

/-- The row is what the calls since its issuance make of it. -/
structure Describes (client : String) (issuance : Issuance) (later : List Operation)
    (row : OAuthClient) : Prop where
  id : row.id = issuance.draw.id
  clientId : row.clientId = client
  secretHash : row.secretHash = hash (secretAfter client issuance.draw.clientSecret later)
  name : row.name = issuance.name
  scopes : row.scopes = serializeScopes issuance.scopes
  tenantId : row.tenantId = issuance.tenantId
  status : row.status = if later.any (·.revokes client) then "revoked" else "active"
  expiresAt : row.expiresAt = issuance.expiresAt

variable {hash} {table : OAuthClientTable} {clientId secret : String} {operation : Operation}
  {operations later : List Operation} {issuance : Issuance} {row : OAuthClient}

lemma secretAfter_append (operations later : List Operation) :
    secretAfter clientId secret (operations ++ later) =
      secretAfter clientId (secretAfter clientId secret operations) later := by
  induction operations generalizing secret with
  | nil => rfl
  | cons operation operations ih =>
      cases operation with
      | rotateSecret new clientId' => exact ih
      | issue draw name scopes tenantId expiresAt asked => exact ih
      | authenticate now clientId' clientSecret => exact ih
      | revoke clientId' => exact ih

lemma any_revokes_iff : later.any (·.revokes clientId) = true ↔ .revoke clientId ∈ later := by
  rw [List.any_eq_true]
  constructor
  · rintro ⟨operation, hmem, hrevokes⟩
    cases operation with
    | revoke clientId' =>
        rw [Operation.revokes, decide_eq_true_iff] at hrevokes
        exact hrevokes ▸ hmem
    | issue draw name scopes tenantId expiresAt asked => cases hrevokes
    | authenticate now clientId' clientSecret => cases hrevokes
    | rotateSecret new clientId' => cases hrevokes
  · exact fun h => ⟨_, h, decide_eq_true rfl⟩

/-- Issuing is inserting the row. -/
lemma apply_issue : apply hash table issuance.operation =
    (table.insert (issuance.row hash)).getD table := by
  rw [Issuance.operation, apply, issue]
  have hrow : table.insert (issuance.row hash) = table.insert
      { id := issuance.draw.id
        clientId := (issuance.asked.filter (· ≠ "")).getD issuance.draw.clientId
        secretHash := hash issuance.draw.clientSecret
        name := issuance.name
        scopes := serializeScopes issuance.scopes
        tenantId := issuance.tenantId
        status := "active"
        expiresAt := issuance.expiresAt
        lastUsedAt := none } := rfl
  rw [← hrow]
  cases table.insert (issuance.row hash) <;> rfl

/-! ### One call more -/

lemma after_append : after hash (operations ++ [operation]) =
    apply hash (after hash operations) operation := by
  rw [after, run, List.foldl_append]
  rfl

/-- A client of a longer run was issued before the last call or by it. -/
lemma issuedBy_append : IssuedBy hash (operations ++ [operation]) clientId issuance later ↔
    (∃ earlier, later = earlier ++ [operation] ∧
      IssuedBy hash operations clientId issuance earlier) ∨
    later = [] ∧ operation = issuance.operation ∧ issuance.clientId = clientId ∧
      ((after hash operations).insert (issuance.row hash)).isSome := by
  constructor
  · rintro ⟨⟨before, hsplit, hinserted⟩, hid⟩
    rcases List.eq_nil_or_concat later with rfl | ⟨earlier, last, rfl⟩
    · obtain ⟨rfl, hlast⟩ := List.append_inj' hsplit rfl
      exact Or.inr ⟨rfl, List.singleton_inj.mp hlast, hid, hinserted⟩
    · rw [List.concat_eq_append] at hsplit ⊢
      have hsplit' : operations ++ [operation] =
          (before ++ issuance.operation :: earlier) ++ [last] :=
        by rw [hsplit, List.append_assoc, List.cons_append]
      obtain ⟨hinit, hlast⟩ := List.append_inj' hsplit' rfl
      obtain rfl := List.singleton_inj.mp hlast
      exact Or.inl ⟨earlier, rfl, ⟨before, hinit, hinserted⟩, hid⟩
  · rintro (⟨earlier, rfl, ⟨before, rfl, hinserted⟩, hid⟩ | ⟨rfl, rfl, hid, hinserted⟩)
    · exact ⟨⟨before, by rw [List.append_assoc, List.cons_append], hinserted⟩, hid⟩
    · exact ⟨⟨operations, rfl, hinserted⟩, hid⟩

/-! ### One call -/

/-- An insertion, read back. -/
lemma find?_insert {table' : OAuthClientTable} (h : table.insert row = some table') :
    table.find? row.clientId = none ∧
      table'.find? clientId =
        if row.clientId = clientId then some row else table.find? clientId := by
  have hrows := OAuthClientTable.insert_rows h
  rw [OAuthClientTable.insert] at h
  split_ifs at h with hfresh
  refine ⟨?_, ?_⟩
  · rw [OAuthClientTable.find?, List.find?_eq_none]
    intro row' hrow' hid
    exact hfresh (of_decide_eq_true hid ▸ List.mem_map_of_mem hrow')
  · rw [OAuthClientTable.find?, hrows, List.find?_cons]
    split_ifs with hid
    · rw [decide_eq_true hid]
    · rw [decide_eq_false hid]
      rfl

/-- The row of a client after a call is what the call makes of it. -/
lemma describes_apply (hfind : table.find? clientId = some row)
    (h : Describes hash clientId issuance later row) :
    ∃ row', (apply hash table operation).find? clientId = some row' ∧
      Describes hash clientId issuance (later ++ [operation]) row' := by
  have hrotate : ∀ new, Describes hash clientId issuance (later ++ [.rotateSecret new clientId])
      (row.setSecretHash (hash new)) := by
    intro new
    refine ⟨h.id, h.clientId, ?_, h.name, h.scopes, h.tenantId, ?_, h.expiresAt⟩
    · rw [secretAfter_append, secretAfter, if_pos rfl]
      rfl
    · rw [List.any_append]
      exact h.status.trans (by simp [Operation.revokes])
  have hrevoke : Describes hash clientId issuance (later ++ [.revoke clientId]) row.revoke := by
    refine ⟨h.id, h.clientId, ?_, h.name, h.scopes, h.tenantId, ?_, h.expiresAt⟩
    · rw [secretAfter_append]
      exact h.secretHash
    · rw [List.any_append]
      simp [Operation.revokes, OAuthClient.revoke]
  -- a call that neither rotates the secret of the client nor revokes it
  have hother : ∀ row', Describes hash clientId issuance later row' →
      secretAfter clientId (secretAfter clientId issuance.draw.clientSecret later) [operation] =
        secretAfter clientId issuance.draw.clientSecret later →
      operation.revokes clientId = false →
      Describes hash clientId issuance (later ++ [operation]) row' := by
    intro row' h' hsecret hrevokes
    refine ⟨h'.id, h'.clientId, ?_, h'.name, h'.scopes, h'.tenantId, ?_, h'.expiresAt⟩
    · rw [secretAfter_append, hsecret]
      exact h'.secretHash
    · rw [List.any_append, List.any_cons, hrevokes, List.any_nil, Bool.or_false, Bool.or_false]
      exact h'.status
  cases operation with
  | issue draw name scopes tenantId expiresAt asked =>
      refine ⟨row, ?_, hother row h rfl rfl⟩
      have hissue := @apply_issue hash table
        ⟨draw, name, scopes, tenantId, expiresAt, asked⟩
      rw [Issuance.operation] at hissue
      rw [hissue]
      cases hinsert : table.insert
          (Issuance.row ⟨draw, name, scopes, tenantId, expiresAt, asked⟩ hash) with
      | none => exact hfind
      | some table' =>
          obtain ⟨hfresh, hread⟩ := @find?_insert table clientId _ table' hinsert
          rw [Option.getD_some, hread, if_neg, hfind]
          intro hid
          rw [hid, hfind] at hfresh
          cases hfresh
  | authenticate now clientId' clientSecret =>
      rw [apply, authenticate]
      split
      · exact ⟨row, hfind, hother row h rfl rfl⟩
      · split_ifs
        · exact ⟨row, hfind, hother row h rfl rfl⟩
        · exact ⟨row, hfind, hother row h rfl rfl⟩
        · exact ⟨row, hfind, hother row h rfl rfl⟩
        · refine ⟨_, by rw [OAuthClientTable.find?_update, hfind, Option.map_some], ?_⟩
          have htouched : Describes hash clientId issuance later (row.touch now) :=
            ⟨h.id, h.clientId, h.secretHash, h.name, h.scopes, h.tenantId, h.status,
              h.expiresAt⟩
          split_ifs
          · exact hother _ htouched rfl rfl
          · exact hother _ h rfl rfl
  | revoke clientId' =>
      rw [apply, revoke]
      split
      · rename_i hnone
        refine ⟨row, hfind, hother row h rfl (decide_eq_false fun heq => ?_)⟩
        rw [heq, hfind] at hnone
        cases hnone
      · refine ⟨_, by rw [OAuthClientTable.find?_update, hfind, Option.map_some], ?_⟩
        split_ifs with hid
        · exact hid ▸ hrevoke
        · exact hother row h rfl (decide_eq_false fun heq => hid heq.symm)
  | rotateSecret new clientId' =>
      rw [apply, rotateSecret]
      split
      · rename_i hnone
        refine ⟨row, hfind, hother row h ?_ rfl⟩
        rw [secretAfter, if_neg]
        · rfl
        · intro heq
          rw [heq, hfind] at hnone
          cases hnone
      · refine ⟨_, by rw [OAuthClientTable.find?_update, hfind, Option.map_some], ?_⟩
        split_ifs with hid
        · exact hid ▸ hrotate new
        · refine hother row h ?_ rfl
          rw [secretAfter, if_neg fun heq => hid heq.symm]
          rfl

/-- Only an issuance adds a client. -/
lemma find?_apply_of_none (hnone : table.find? clientId = none)
    (hfind : (apply hash table operation).find? clientId = some row) :
    ∃ issuance : Issuance, operation = issuance.operation ∧ issuance.clientId = clientId ∧
      (table.insert (issuance.row hash)).isSome ∧ row = issuance.row hash := by
  have hupdate : ∀ {client : String} {f : OAuthClient → OAuthClient} (hf : OAuthClient.Keeps f),
      (table.update client f hf).find? clientId ≠ some row := by
    intro client f hf h
    rw [OAuthClientTable.find?_update, hnone] at h
    cases h
  have hsame : table.find? clientId ≠ some row := by
    rw [hnone]
    exact Option.some_ne_none row |>.symm
  cases operation with
  | issue draw name scopes tenantId expiresAt asked =>
      have hissue := @apply_issue hash table
        ⟨draw, name, scopes, tenantId, expiresAt, asked⟩
      rw [Issuance.operation] at hissue
      rw [hissue] at hfind
      refine ⟨⟨draw, name, scopes, tenantId, expiresAt, asked⟩, rfl, ?_⟩
      cases hinsert : table.insert
          (Issuance.row ⟨draw, name, scopes, tenantId, expiresAt, asked⟩ hash) with
      | none =>
          rw [hinsert] at hfind
          exact absurd hfind hsame
      | some table' =>
          rw [hinsert, Option.getD_some, (find?_insert hinsert).2] at hfind
          split_ifs at hfind with hid
          · exact ⟨hid, rfl, (Option.some.inj hfind).symm⟩
          · exact absurd hfind hsame
  | authenticate now clientId' clientSecret =>
      rw [apply, authenticate] at hfind
      split at hfind
      · exact absurd hfind hsame
      · split_ifs at hfind
        · exact absurd hfind hsame
        · exact absurd hfind hsame
        · exact absurd hfind hsame
        · exact absurd hfind (hupdate (OAuthClient.keeps_touch now))
  | revoke clientId' =>
      rw [apply, revoke] at hfind
      split at hfind
      · exact absurd hfind hsame
      · exact absurd hfind (hupdate OAuthClient.keeps_revoke)
  | rotateSecret new clientId' =>
      rw [apply, rotateSecret] at hfind
      split at hfind
      · exact absurd hfind hsame
      · exact absurd hfind (hupdate (OAuthClient.keeps_setSecretHash (hash new)))

/-! ### Runs -/

/-- A client that was issued has the row that the calls since then describe. -/
theorem row_of_issuedBy (h : IssuedBy hash operations clientId issuance later) :
    ∃ row, (after hash operations).find? clientId = some row ∧
      Describes hash clientId issuance later row := by
  induction operations using List.reverseRecOn generalizing later with
  | nil =>
      obtain ⟨⟨before, hsplit, -⟩, -⟩ := h
      exact absurd hsplit.symm (by simp)
  | append_singleton operations operation ih =>
      rw [after_append]
      rcases issuedBy_append.mp h with ⟨earlier, rfl, hearlier⟩ | ⟨rfl, rfl, hid, hinserted⟩
      · obtain ⟨row, hfind, hrow⟩ := ih hearlier
        exact describes_apply hfind hrow
      · obtain ⟨table', hinsert⟩ := Option.isSome_iff_exists.mp hinserted
        refine ⟨issuance.row hash, ?_, rfl, hid, rfl, rfl, rfl, rfl, rfl, rfl⟩
        have hrow : (issuance.row hash).clientId = clientId := hid
        rw [apply_issue, hinsert, Option.getD_some, (find?_insert hinsert).2, if_pos hrow]

/-- A row that is there was issued. -/
theorem issuedBy_of_row (h : (after hash operations).find? clientId = some row) :
    ∃ issuance later, IssuedBy hash operations clientId issuance later ∧
      Describes hash clientId issuance later row := by
  induction operations using List.reverseRecOn generalizing row with
  | nil => cases h
  | append_singleton operations operation ih =>
      rw [after_append] at h
      cases hfind : (after hash operations).find? clientId with
      | some row' =>
          obtain ⟨issuance, earlier, hearlier, hrow'⟩ := ih hfind
          obtain ⟨row'', hfind'', hrow''⟩ :=
            @describes_apply _ _ _ operation _ _ _ hfind hrow'
          obtain rfl : row'' = row := Option.some.inj (hfind''.symm.trans h)
          exact ⟨issuance, _, issuedBy_append.mpr (Or.inl ⟨earlier, rfl, hearlier⟩), hrow''⟩
      | none =>
          obtain ⟨issuance, rfl, hid, hinserted, rfl⟩ := find?_apply_of_none hfind h
          exact ⟨issuance, [], issuedBy_append.mpr (Or.inr ⟨rfl, rfl, hid, hinserted⟩),
            rfl, hid, rfl, rfl, rfl, rfl, rfl, rfl⟩

/-- The client has been issued and not revoked, its last secret has this hash, and it has not
expired. -/
structure Admits (hash : String → String) (operations : List Operation) (now : ℕ)
    (clientId clientSecret : String) (issuance : Issuance) : Prop where
  issued : ∃ later, IssuedBy hash operations clientId issuance later ∧
    hash clientSecret = hash (secretAfter clientId issuance.draw.clientSecret later) ∧
    .revoke clientId ∉ later
  unexpired : ∀ expires ∈ issuance.expiresAt, now ≤ expires

/-- What `authenticate` asks of a row that is described. -/
lemma Describes.admitted_iff {now : ℕ} (h : Describes hash clientId issuance later row) :
    ¬row.secretHash ≠ hash secret ∧ ¬row.status ≠ "active" ∧
        ¬row.expiresAt.any (· < now) = true ↔
      hash secret = hash (secretAfter clientId issuance.draw.clientSecret later) ∧
        .revoke clientId ∉ later ∧ ∀ expires ∈ issuance.expiresAt, now ≤ expires := by
  rw [not_not, not_not, h.secretHash, h.status, h.expiresAt, ← any_revokes_iff]
  refine and_congr eq_comm (and_congr ?_ ?_)
  · cases later.any (·.revokes clientId) <;> simp
  · cases issuance.expiresAt <;> simp

/-- The record of an active row that is described. -/
lemma Describes.toRecord {now : ℕ} (h : Describes hash clientId issuance later row)
    (hid : issuance.clientId = clientId) (hactive : row.status = "active") :
    (row.touch now).toRecord = issuance.record now := by
  rw [OAuthClient.toRecord, OAuthClient.touch, Issuance.record, h.id, h.clientId, h.name,
    h.scopes, h.tenantId, h.expiresAt, hactive, hid]

/-- **Who is authenticated**, from the calls alone. -/
theorem authenticate_eq_some_iff {now : ℕ} {record : OAuthClientRecord} :
    (authenticate hash (after hash operations) now clientId secret).1 = some record ↔
      ∃ issuance, Admits hash operations now clientId secret issuance ∧
        record = issuance.record now := by
  rw [authenticate]
  constructor
  · intro h
    split at h
    · cases h
    · rename_i row hfind
      obtain ⟨issuance, later, hissued, hrow⟩ := issuedBy_of_row hfind
      split_ifs at h with hsecret hstatus hexpired
      obtain ⟨hsecret', hrevoke, hunexpired⟩ :=
        hrow.admitted_iff.mp ⟨hsecret, hstatus, hexpired⟩
      refine ⟨issuance, ⟨⟨later, hissued, hsecret', hrevoke⟩, hunexpired⟩, ?_⟩
      rw [← hrow.toRecord hissued.id (not_not.mp hstatus)]
      exact (Option.some.inj h).symm
  · rintro ⟨issuance, ⟨⟨later, hissued, hsecret, hrevoke⟩, hunexpired⟩, rfl⟩
    obtain ⟨row, hfind, hrow⟩ := row_of_issuedBy hissued
    obtain ⟨hsecret', hstatus, hexpired⟩ :=
      hrow.admitted_iff.mpr ⟨hsecret, hrevoke, hunexpired⟩
    rw [hfind]
    dsimp only
    rw [if_neg hsecret', if_neg hstatus, if_neg hexpired]
    exact congrArg some (hrow.toRecord hissued.id (not_not.mp hstatus))

end Runs

end OAuthClientService

end AuthzKit
