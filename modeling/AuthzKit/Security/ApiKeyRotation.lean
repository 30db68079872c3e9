import AuthzKit.Security.ApiKeys

/-!
Runs of `ApiKeyService`: keys are issued, rotated, revoked and presented while time passes.

* `RotationKept`: what rotating a key promises of the new one.
* `RunKept`: a run keeps this for each of its rotations, and no chain of rotations gives access
  that outlives a key of the chain or returns after the chain was revoked.
* `rotation_law`: every run that rotates only active keys without an expiry is such a run, and no
  weaker condition on a step will do. `rotate` copies the scopes and the tenant, but neither the
  expiry nor the status.
-/

namespace AuthzKit

open Text Relation

/-! ### Leaves -/

/-- A new leaf, of which nothing comes, is only the end of a chain. -/
lemma reflTransGen_of_leaf {α : Type*} {r r' : α → α → Prop} {leaf x y : α}
    (hadd : ∀ a b, r' a b → b = leaf ∨ r a b) (hleaf : ∀ b, ¬r' leaf b)
    (h : ReflTransGen r' x y) : y = leaf ∨ ReflTransGen r x y := by
  induction h with
  | refl => exact Or.inr .refl
  | @tail b c _ hbc ih =>
      rcases ih with rfl | ih
      · exact absurd hbc (hleaf c)
      · exact (hadd b c hbc).imp id ih.tail

/-! ### Scopes -/

/-- **Scopes that came back once come back again.** -/
lemma mem_parseScopes_again {value scope : String} :
    scope ∈ parseScopes (serializeScopes (parseScopes value)) ↔ scope ∈ parseScopes value := by
  have hpieces : ∀ s ∈ parseScopes value, split ',' s = [s] ∧ strip s = s ∧ s ≠ "" := by
    intro s hs
    obtain ⟨hs, hne⟩ := List.mem_filter.mp hs
    obtain ⟨word, hword, rfl⟩ := List.mem_map.mp hs
    refine ⟨split_of_notMem fun hmem => ?_, strip_strip _, of_decide_eq_true hne⟩
    exact notMem_of_mem_split hword (mem_of_mem_strip hmem)
  rw [mem_parseScopes_serializeScopes]
  constructor
  · rintro ⟨-, s, hs, piece, hpiece, rfl⟩
    obtain ⟨hsplit, hstrip, -⟩ := hpieces s hs
    rw [hsplit, List.mem_singleton] at hpiece
    rw [hpiece, hstrip]
    exact hs
  · intro hs
    obtain ⟨hsplit, hstrip, hne⟩ := hpieces scope hs
    exact ⟨hne, scope, hs, scope, hsplit ▸ List.mem_singleton_self scope, hstrip⟩

/-! ### Rows -/

/-- The columns of a row that no operation writes. -/
def ApiKey.fixed (row : ApiKey) : ApiKey :=
  { row with status := apiKeyStatusActive, lastUsedAt := none }

namespace ApiKeyTable

/-- A key is the rotation of another one. -/
def Rotated (table : ApiKeyTable) (x y : String) : Prop :=
  ∃ row ∈ table.rows, row.id = y ∧ row.rotates = some x

/-- A chain of rotations leads from a key to another one. -/
def Descends (table : ApiKeyTable) : String → String → Prop := ReflTransGen table.Rotated

/-- Every key that comes from this one is revoked. -/
def Dead (table : ApiKeyTable) (keyId : String) : Prop :=
  ∀ row ∈ table.rows, table.Descends keyId row.id → row.status = apiKeyStatusRevoked

/-- Keys come from stored keys without an expiry. -/
def WellRotated (table : ApiKeyTable) : Prop :=
  ∀ row ∈ table.rows, ∀ p ∈ row.rotates, ∃ old ∈ table.rows, old.id = p ∧ old.expiresAt = none

/-- The same rows, perhaps used or revoked. -/
structure Kept (table table' : ApiKeyTable) : Prop where
  fixed : table'.rows.map ApiKey.fixed = table.rows.map ApiKey.fixed
  revoked : ∀ row ∈ table.rows, row.status = apiKeyStatusRevoked →
    ∀ row' ∈ table'.rows, row'.id = row.id → row'.status = apiKeyStatusRevoked

/-- One row more, of a new key or the rotation of an active one without an expiry. -/
structure Added (table : ApiKeyTable) (row : ApiKey) (table' : ApiKeyTable) : Prop where
  rows : table'.rows = row :: table.rows
  fresh : ∀ old ∈ table.rows, old.id ≠ row.id
  parent : ∀ p ∈ row.rotates, ∃ old ∈ table.rows, old.id = p ∧
    old.status = apiKeyStatusActive ∧ old.expiresAt = none

variable {table table' : ApiKeyTable} {row : ApiKey} {keyId : String}

lemma Kept.refl (table : ApiKeyTable) : Kept table table where
  fixed := rfl
  revoked row hrow hrevoked row' hrow' hid := by
    rw [table.eq_of_id hrow' hrow hid]
    exact hrevoked

/-- An update that writes no fixed column, and revives nothing. -/
lemma kept_update {id : String} {f : ApiKey → ApiKey}
    (hf : ∀ row, (f row).id = row.id ∧ (f row).keyHash = row.keyHash)
    (hfixed : ∀ row, (f row).fixed = row.fixed)
    (hstatus : ∀ row, row.status = apiKeyStatusRevoked → (f row).status = apiKeyStatusRevoked) :
    Kept table (table.update id f hf) where
  fixed := by
    rw [update, List.map_map]
    refine List.map_congr_left fun row _ => ?_
    rw [Function.comp_apply]
    split_ifs
    · exact hfixed row
    · rfl
  revoked row hrow hrevoked row' hrow' hid := by
    obtain ⟨old, hold, rfl⟩ := List.mem_map.mp hrow'
    have holdid : old.id = row.id := by
      rw [← hid]
      split_ifs
      · exact (hf old).1.symm
      · rfl
    obtain rfl := table.eq_of_id hold hrow holdid
    split_ifs
    · exact hstatus old hrevoked
    · exact hrevoked

lemma insert_eq_some (h : table.insert row = some table') :
    table'.rows = row :: table.rows ∧ ∀ old ∈ table.rows, old.id ≠ row.id := by
  rw [insert] at h
  split_ifs at h with hfresh
  obtain rfl := Option.some.inj h
  exact ⟨rfl, fun old hold hid => hfresh.1 (hid ▸ List.mem_map_of_mem hold)⟩

/-! ### What a step keeps -/

/-- The row from which a kept one comes. -/
lemma Kept.exists_old (h : Kept table table') {row' : ApiKey} (hrow' : row' ∈ table'.rows) :
    ∃ row ∈ table.rows, row'.fixed = row.fixed := by
  have hmem : row'.fixed ∈ table.rows.map ApiKey.fixed := h.fixed ▸ List.mem_map_of_mem hrow'
  obtain ⟨row, hrow, hfixed⟩ := List.mem_map.mp hmem
  exact ⟨row, hrow, hfixed.symm⟩

lemma Kept.exists_new (h : Kept table table') (hrow : row ∈ table.rows) :
    ∃ row' ∈ table'.rows, row'.fixed = row.fixed := by
  have hmem : row.fixed ∈ table'.rows.map ApiKey.fixed := h.fixed ▸ List.mem_map_of_mem hrow
  exact List.mem_map.mp hmem

lemma id_of_fixed {row row' : ApiKey} (h : row'.fixed = row.fixed) : row'.id = row.id :=
  (congrArg ApiKey.id h :)

lemma expiresAt_of_fixed {row row' : ApiKey} (h : row'.fixed = row.fixed) :
    row'.expiresAt = row.expiresAt :=
  (congrArg ApiKey.expiresAt h :)

lemma rotates_of_fixed {row row' : ApiKey} (h : row'.fixed = row.fixed) :
    row'.rotates = row.rotates :=
  (congrArg ApiKey.rotates h :)

lemma Kept.rotated_iff (h : Kept table table') {x y : String} :
    table'.Rotated x y ↔ table.Rotated x y := by
  constructor
  · rintro ⟨row', hrow', hid, hrotates⟩
    obtain ⟨row, hrow, hfixed⟩ := h.exists_old hrow'
    exact ⟨row, hrow, (id_of_fixed hfixed).symm.trans hid,
      (rotates_of_fixed hfixed).symm.trans hrotates⟩
  · rintro ⟨row, hrow, hid, hrotates⟩
    obtain ⟨row', hrow', hfixed⟩ := h.exists_new hrow
    exact ⟨row', hrow', (id_of_fixed hfixed).trans hid, (rotates_of_fixed hfixed).trans hrotates⟩

lemma Kept.descends_eq (h : Kept table table') : table'.Descends = table.Descends := by
  have hrotated : table'.Rotated = table.Rotated := by
    funext x y
    exact propext h.rotated_iff
  rw [Descends, Descends, hrotated]

lemma Kept.wellRotated (h : Kept table table') (hw : table.WellRotated) : table'.WellRotated := by
  intro row' hrow' p hp
  obtain ⟨row, hrow, hfixed⟩ := h.exists_old hrow'
  obtain ⟨old, hold, hid, hexpires⟩ := hw row hrow p (rotates_of_fixed hfixed ▸ hp)
  obtain ⟨old', hold', hfixed'⟩ := h.exists_new hold
  exact ⟨old', hold', (id_of_fixed hfixed').trans hid,
    (expiresAt_of_fixed hfixed').trans hexpires⟩

lemma Kept.dead (h : Kept table table') (hdead : table.Dead keyId) : table'.Dead keyId := by
  intro row' hrow' hdescends
  obtain ⟨row, hrow, hfixed⟩ := h.exists_old hrow'
  have hid := id_of_fixed hfixed
  rw [h.descends_eq, hid] at hdescends
  exact h.revoked row hrow (hdead row hrow hdescends) row' hrow' hid

lemma Added.wellRotated (h : Added table row table') (hw : table.WellRotated) :
    table'.WellRotated := by
  intro row' hrow' p hp
  rw [h.rows] at hrow' ⊢
  rcases List.mem_cons.mp hrow' with rfl | hrow'
  · obtain ⟨old, hold, hid, -, hexpires⟩ := h.parent p hp
    exact ⟨old, List.mem_cons_of_mem _ hold, hid, hexpires⟩
  · obtain ⟨old, hold, hid, hexpires⟩ := hw row' hrow' p hp
    exact ⟨old, List.mem_cons_of_mem _ hold, hid, hexpires⟩

lemma Added.rotated (h : Added table row table') {x y : String} (hxy : table'.Rotated x y) :
    y = row.id ∧ row.rotates = some x ∨ table.Rotated x y := by
  obtain ⟨row', hrow', hid, hrotates⟩ := hxy
  rw [h.rows] at hrow'
  rcases List.mem_cons.mp hrow' with rfl | hrow'
  · exact Or.inl ⟨hid.symm, hrotates⟩
  · exact Or.inr ⟨row', hrow', hid, hrotates⟩

/-- Nothing comes of a new key yet. -/
lemma Added.descends (h : Added table row table') (hw : table.WellRotated) {x y : String}
    (hxy : table'.Descends x y) : y = row.id ∨ table.Descends x y := by
  refine reflTransGen_of_leaf (fun a b hab => (h.rotated hab).imp And.left id) (fun b hb => ?_) hxy
  have hparent : ∃ old ∈ table.rows, old.id = row.id := by
    rcases h.rotated hb with ⟨-, hrotates⟩ | ⟨row', hrow', -, hrotates⟩
    · obtain ⟨old, hold, hid, -⟩ := h.parent row.id hrotates
      exact ⟨old, hold, hid⟩
    · obtain ⟨old, hold, hid, -⟩ := hw row' hrow' row.id hrotates
      exact ⟨old, hold, hid⟩
  obtain ⟨old, hold, hid⟩ := hparent
  exact h.fresh old hold hid

/-- **A dead chain stays dead**: a key without active relatives is not rotated. -/
lemma Added.dead (h : Added table row table') (hw : table.WellRotated)
    (hkey : keyId ∈ table.rows.map ApiKey.id) (hdead : table.Dead keyId) : table'.Dead keyId := by
  obtain ⟨key, hkeymem, rfl⟩ := List.mem_map.mp hkey
  have hold : ∀ old ∈ table.rows, table'.Descends key.id old.id →
      old.status = apiKeyStatusRevoked := fun old hold hdescends =>
    (h.descends hw hdescends).elim (fun hid => absurd hid (h.fresh old hold)) (hdead old hold)
  intro row' hrow' hdescends
  rw [h.rows] at hrow'
  rcases List.mem_cons.mp hrow' with rfl | hrow'
  · rcases ReflTransGen.cases_tail hdescends with hid | ⟨p, hp, hlast⟩
    · exact absurd hid.symm (h.fresh key hkeymem)
    · obtain ⟨old, holdmem, hid, hactive, -⟩ := h.parent p (by
        rcases h.rotated hlast with ⟨-, hrotates⟩ | ⟨row, hrow, hid, -⟩
        · exact hrotates
        · exact absurd hid (h.fresh row hrow))
      have hrevoked := hold old holdmem (hid ▸ hp)
      rw [hactive] at hrevoked
      exact absurd hrevoked (by decide)
  · exact hold row' hrow' hdescends

end ApiKeyTable

/-! ### Runs -/

namespace ApiKeyService

/-- The table, and the clock. -/
structure State where
  table : ApiKeyTable
  now : ℕ

/-- What happens to a service: `POST /v1/api-keys` and its rotations, revocations and
authentications, and seconds that pass. -/
inductive Action where
  | issue (draw : Draw) (name : String) (scopes : List String) (tenantId : Option String)
      (expiresAt : Option ℕ)
  | rotate (draw : Draw) (oldKeyId : String)
  | revoke (keyId : String)
  | findActive (plaintext : String)
  | wait (seconds : ℕ)
deriving DecidableEq

variable (hash : String → String)

/-- One action. What fails changes nothing. -/
def act (st : State) : Action → State
  | .issue draw name scopes tenantId expiresAt =>
      match issue hash st.table draw name scopes tenantId expiresAt none with
      | some (_, table) => { st with table }
      | none => st
  | .rotate draw oldKeyId =>
      match rotate hash st.table draw oldKeyId with
      | some (some (_, table)) => { st with table }
      | _ => st
  | .revoke keyId => { st with table := (revoke st.table keyId).2 }
  | .findActive plaintext => { st with table := (findActive hash st.table st.now plaintext).2 }
  | .wait seconds => { st with now := st.now + seconds }

/-- A run. -/
def run (st : State) (actions : List Action) : State := actions.foldl (act hash) st

/-- No key yet. -/
def start (now : ℕ) : State := ⟨.empty, now⟩

/-- A key authenticates now. -/
def Authenticates (st : State) (keyId : String) : Prop :=
  ∃ plaintext record, (findActive hash st.table st.now plaintext).1 = some record ∧
    record.id = keyId

/-- **What rotating a key promises** of the new key, later: it has the scopes and the tenant of
the old one, it authenticates only if the old one was active and had not expired, and it does not
after the old one's expiry. -/
structure RotationKept (old : ApiKey) (rotatedAt : ℕ) (record : ApiKeyRecord) (later : State) :
    Prop where
  scopes : ∀ scope, scope ∈ record.scopes ↔ scope ∈ parseScopes old.scopes
  tenantId : record.tenantId = old.tenantId
  found : ∀ plaintext found, (findActive hash later.table later.now plaintext).1 = some found →
    found.id = record.id → found.scopes = record.scopes ∧ found.tenantId = record.tenantId
  active : Authenticates hash later record.id →
    old.status = apiKeyStatusActive ∧ ∀ e ∈ old.expiresAt, rotatedAt ≤ e
  expires : Authenticates hash later record.id → ∀ e ∈ old.expiresAt, later.now ≤ e

/-- **Rotation never widens or resurrects access** in a run, up to its last state. -/
structure RunKept (now : ℕ) (actions : List Action) : Prop where
  rotations : ∀ before draw oldKeyId after, actions = before ++ .rotate draw oldKeyId :: after →
    ∀ old ∈ (run hash (start now) before).table.rows, old.id = oldKeyId →
      ∀ record table, rotate hash (run hash (start now) before).table draw oldKeyId =
          some (some (record, table)) →
        RotationKept hash old (run hash (start now) before).now record
          (run hash (start now) actions)
  /-- No chain of rotations outlives a key of it. -/
  expires : ∀ key ∈ (run hash (start now) actions).table.rows, ∀ keyId,
    (run hash (start now) actions).table.Descends key.id keyId →
      Authenticates hash (run hash (start now) actions) keyId →
        ∀ e ∈ key.expiresAt, (run hash (start now) actions).now ≤ e
  /-- A key that was revoked, with all that was rotated from it before, does not come back. -/
  revoked : ∀ before after, actions = before ++ after →
    ∀ keyId ∈ (run hash (start now) before).table.rows.map ApiKey.id,
      (run hash (start now) before).table.Dead keyId →
        ∀ keyId', (run hash (start now) actions).table.Descends keyId keyId' →
          ¬Authenticates hash (run hash (start now) actions) keyId'

/-- A rotation that succeeds is of an active key without an expiry. -/
def SafeStep (st : State) : Action → Prop
  | .rotate draw oldKeyId => (rotate hash st.table draw oldKeyId).any Option.isSome = true →
      ∀ old ∈ st.table.rows, old.id = oldKeyId →
        old.status = apiKeyStatusActive ∧ old.expiresAt = none
  | _ => True

/-- A run whose steps are safe. -/
def SafeRun : State → List Action → Prop
  | _, [] => True
  | st, action :: actions => SafeStep hash st action ∧ SafeRun (act hash st action) actions

variable {hash} {st : State} {actions actions' : List Action} {action : Action}

lemma run_append : run hash st (actions ++ actions') = run hash (run hash st actions) actions' :=
  List.foldl_append

lemma safeRun_append :
    SafeRun hash st (actions ++ actions') ↔
      SafeRun hash st actions ∧ SafeRun hash (run hash st actions) actions' := by
  induction actions generalizing st with
  | nil => simp [SafeRun, run]
  | cons action actions ih =>
      rw [List.cons_append, SafeRun, SafeRun, ih, and_assoc]
      rfl

/-! ### Steps -/

/-- What `issue` inserts. -/
lemma issue_eq_some {table table' : ApiKeyTable} {draw : Draw} {name : String}
    {scopes : List String} {tenantId : Option String} {expiresAt : Option ℕ}
    {rotates : Option String} {record : ApiKeyRecord}
    (h : issue hash table draw name scopes tenantId expiresAt rotates = some (record, table')) :
    ∃ row, table.insert row = some table' ∧ record = row.toRecord ∧ row.id = draw.id ∧
      row.keyHash = hash draw.plaintext ∧ row.scopes = serializeScopes scopes ∧
      row.tenantId = tenantId ∧ row.status = apiKeyStatusActive ∧ row.expiresAt = expiresAt ∧
      row.rotates = rotates := by
  obtain ⟨inserted, hinsert, heq⟩ := Option.map_eq_some_iff.mp h
  obtain ⟨rfl, rfl⟩ := Prod.mk.inj heq
  exact ⟨_, hinsert, rfl, rfl, rfl, rfl, rfl, rfl, rfl, rfl⟩

/-- A rotation is of a stored key. -/
lemma rotate_eq_some {table table' : ApiKeyTable} {draw : Draw} {oldKeyId : String}
    {record : ApiKeyRecord}
    (h : rotate hash table draw oldKeyId = some (some (record, table'))) :
    ∃ old ∈ table.rows, old.id = oldKeyId ∧
      issue hash table draw (old.name ++ " (rotated)") (parseScopes old.scopes) old.tenantId none
        (some oldKeyId) = some (record, table') := by
  obtain ⟨old, hfind, hissue⟩ := Option.map_eq_some_iff.mp h
  exact ⟨old, List.mem_of_find?_eq_some hfind, by simpa using List.find?_some hfind, hissue⟩

lemma act_rotate {draw : Draw} {oldKeyId : String} {record : ApiKeyRecord}
    {table : ApiKeyTable} (h : rotate hash st.table draw oldKeyId = some (some (record, table))) :
    act hash st (.rotate draw oldKeyId) = { st with table } := by
  rw [act, h]

/-- **What a safe step does to the table.** -/
lemma act_table (h : SafeStep hash st action) :
    ApiKeyTable.Kept st.table (act hash st action).table ∨
      ∃ row, ApiKeyTable.Added st.table row (act hash st action).table := by
  cases action with
  | issue draw name scopes tenantId expiresAt =>
      rw [act]
      split
      · rename_i record table hissue
        obtain ⟨row, hinsert, -, -, -, -, -, -, -, hrotates⟩ := issue_eq_some hissue
        obtain ⟨hrows, hfresh⟩ := ApiKeyTable.insert_eq_some hinsert
        exact Or.inr ⟨row, hrows, hfresh, fun p hp => by rw [hrotates] at hp; cases hp⟩
      · exact Or.inl (ApiKeyTable.Kept.refl _)
  | rotate draw oldKeyId =>
      rw [act]
      split
      · rename_i record table hrotate
        obtain ⟨old, hold, rfl, hissue⟩ := rotate_eq_some hrotate
        obtain ⟨row, hinsert, -, -, -, -, -, -, -, hrotates⟩ := issue_eq_some hissue
        obtain ⟨hrows, hfresh⟩ := ApiKeyTable.insert_eq_some hinsert
        have hsafe := h (by rw [hrotate]; rfl) old hold rfl
        refine Or.inr ⟨row, hrows, hfresh, fun p hp => ⟨old, hold, ?_, hsafe⟩⟩
        exact Option.some.inj (hrotates.symm.trans hp)
      · exact Or.inl (ApiKeyTable.Kept.refl _)
  | revoke keyId =>
      rw [act, revoke]
      refine Or.inl ?_
      split
      · exact ApiKeyTable.Kept.refl _
      · exact ApiKeyTable.kept_update ApiKey.revoke_keys (fun _ => rfl) fun _ _ => rfl
  | findActive plaintext =>
      rw [act, findActive]
      refine Or.inl ?_
      split
      · exact ApiKeyTable.Kept.refl _
      · split_ifs
        · exact ApiKeyTable.Kept.refl _
        · exact ApiKeyTable.Kept.refl _
        · exact ApiKeyTable.kept_update (ApiKey.touch_keys st.now) (fun _ => rfl) fun _ hrow => hrow
  | wait seconds => exact Or.inl (ApiKeyTable.Kept.refl _)

/-- The row that authenticates. -/
lemma findActive_eq_some {table : ApiKeyTable} {now : ℕ} {plaintext : String}
    {record : ApiKeyRecord} (h : (findActive hash table now plaintext).1 = some record) :
    ∃ row ∈ table.rows, record = (row.touch now).toRecord ∧ row.status = apiKeyStatusActive ∧
      ∀ e ∈ row.expiresAt, now ≤ e := by
  rw [findActive] at h
  split at h
  · cases h
  · rename_i row hfind
    split_ifs at h with hactive hexpired
    refine ⟨row, List.mem_of_find?_eq_some hfind, (Option.some.inj h).symm, not_not.mp hactive,
      fun e he => ?_⟩
    rw [Option.mem_def.mp he] at hexpired
    simpa using hexpired

lemma Authenticates.exists_row {keyId : String} (h : Authenticates hash st keyId) :
    ∃ row ∈ st.table.rows, row.id = keyId ∧ row.status = apiKeyStatusActive ∧
      ∀ e ∈ row.expiresAt, st.now ≤ e := by
  obtain ⟨plaintext, record, hfind, rfl⟩ := h
  obtain ⟨row, hrow, rfl, hactive⟩ := findActive_eq_some hfind
  exact ⟨row, hrow, rfl, hactive⟩

/-- A new key without an expiry authenticates at once, and as long as nothing but time passes. -/
lemma authenticates_of_insert {table table' : ApiKeyTable} {row : ApiKey} {plaintext : String}
    {now : ℕ} (hinsert : table.insert row = some table') (hhash : row.keyHash = hash plaintext)
    (hactive : row.status = apiKeyStatusActive) (hexpires : row.expiresAt = none) :
    Authenticates hash ⟨table', now⟩ row.id := by
  have hfind : table'.rows.find? (·.keyHash = hash plaintext) = some row := by
    rw [(ApiKeyTable.insert_eq_some hinsert).1, List.find?_cons_of_pos (by simpa using hhash)]
  refine ⟨plaintext, (row.touch now).toRecord, ?_, rfl⟩
  simp [findActive, hfind, hactive, hexpires]

/-! ### Safe runs -/

lemma wellRotated_run (h : SafeRun hash st actions) (hw : st.table.WellRotated) :
    (run hash st actions).table.WellRotated := by
  induction actions generalizing st with
  | nil => exact hw
  | cons action actions ih =>
      refine ih h.2 ?_
      rcases act_table h.1 with hkept | ⟨row, hadded⟩
      · exact hkept.wellRotated hw
      · exact hadded.wellRotated hw

/-- The fixed columns of a row are there for good. -/
lemma fixed_run (h : SafeRun hash st actions) {row : ApiKey} (hrow : row ∈ st.table.rows) :
    ∃ row' ∈ (run hash st actions).table.rows, row'.fixed = row.fixed := by
  induction actions generalizing st row with
  | nil => exact ⟨row, hrow, rfl⟩
  | cons action actions ih =>
      have hstep : ∃ row' ∈ (act hash st action).table.rows, row'.fixed = row.fixed := by
        rcases act_table h.1 with hkept | ⟨new, hadded⟩
        · exact hkept.exists_new hrow
        · exact ⟨row, hadded.rows ▸ List.mem_cons_of_mem new hrow, rfl⟩
      obtain ⟨row', hrow', hfixed⟩ := hstep
      obtain ⟨row'', hrow'', hfixed'⟩ := ih h.2 hrow'
      exact ⟨row'', hrow'', hfixed'.trans hfixed⟩

lemma dead_run (h : SafeRun hash st actions) (hw : st.table.WellRotated) {keyId : String}
    (hkey : keyId ∈ st.table.rows.map ApiKey.id) (hdead : st.table.Dead keyId) :
    (run hash st actions).table.Dead keyId := by
  induction actions generalizing st with
  | nil => exact hdead
  | cons action actions ih =>
      rcases act_table h.1 with hkept | ⟨row, hadded⟩
      · refine ih h.2 (hkept.wellRotated hw) ?_ (hkept.dead hdead)
        obtain ⟨key, hkeymem, rfl⟩ := List.mem_map.mp hkey
        obtain ⟨key', hkey', hfixed⟩ := hkept.exists_new hkeymem
        exact List.mem_map.mpr ⟨key', hkey', ApiKeyTable.id_of_fixed hfixed⟩
      · refine ih h.2 (hadded.wellRotated hw) ?_ (hadded.dead hw hkey hdead)
        rw [hadded.rows, List.map_cons]
        exact List.mem_cons_of_mem _ hkey

/-- **A rotation of a safe run keeps its promise** from then on. -/
lemma rotationKept_of_safe {draw : Draw} {oldKeyId : String} {old : ApiKey}
    {record : ApiKeyRecord} {table : ApiKeyTable}
    (hsafe : SafeRun hash st (.rotate draw oldKeyId :: actions)) (hold : old ∈ st.table.rows)
    (hid : old.id = oldKeyId) (hrotate : rotate hash st.table draw oldKeyId =
      some (some (record, table))) :
    RotationKept hash old st.now record (run hash st (.rotate draw oldKeyId :: actions)) := by
  obtain ⟨hactive, hexpires⟩ := hsafe.1 (by rw [hrotate]; rfl) old hold hid
  obtain ⟨old', hold', hid', hissue⟩ := rotate_eq_some hrotate
  obtain rfl := st.table.eq_of_id hold hold' (hid.trans hid'.symm)
  obtain ⟨row, hinsert, rfl, -, -, hscopes, htenant, -⟩ := issue_eq_some hissue
  have hrow : row ∈ (act hash st (.rotate draw oldKeyId)).table.rows := by
    rw [act_rotate hrotate, (ApiKeyTable.insert_eq_some hinsert).1]
    exact List.mem_cons_self
  obtain ⟨later, hlater, hfixed⟩ := fixed_run hsafe.2 hrow
  refine ⟨fun scope => ?_, htenant, fun plaintext found hfind hfound => ?_, fun _ => ?_,
    fun _ e he => ?_⟩
  · rw [ApiKey.toRecord, hscopes]
    exact mem_parseScopes_again
  · obtain ⟨row', hrow', rfl, -⟩ := findActive_eq_some hfind
    obtain rfl : row' = later :=
      ApiKeyTable.eq_of_id hrow' hlater (hfound.trans (ApiKeyTable.id_of_fixed hfixed).symm)
    have hsame : row'.scopes = row.scopes := (congrArg ApiKey.scopes hfixed :)
    exact ⟨congrArg parseScopes hsame, (congrArg ApiKey.tenantId hfixed :)⟩
  · refine ⟨hactive, fun e he => ?_⟩
    rw [hexpires] at he
    cases he
  · rw [hexpires] at he
    cases he

lemma wellRotated_start (now : ℕ) : (start now).table.WellRotated := fun _ hrow =>
  absurd hrow List.not_mem_nil

/-- A key with an expiry is alone in its chain. -/
lemma expires_of_wellRotated (hw : st.table.WellRotated) {key : ApiKey}
    (hkey : key ∈ st.table.rows) {keyId : String} (hdescends : st.table.Descends key.id keyId)
    (h : Authenticates hash st keyId) : ∀ e ∈ key.expiresAt, st.now ≤ e := by
  intro e he
  rcases ReflTransGen.cases_head hdescends with hid | ⟨next, ⟨row, hrow, -, hrotates⟩, -⟩
  · obtain ⟨row, hrow, hrowid, -, hexpires⟩ := h.exists_row
    rw [ApiKeyTable.eq_of_id hkey hrow (hid.trans hrowid.symm)] at he
    exact hexpires e he
  · obtain ⟨old, hold, hid, hexpires⟩ := hw row hrow key.id hrotates
    rw [ApiKeyTable.eq_of_id hkey hold hid.symm, hexpires] at he
    cases he

lemma runKept_of_safeRun {now : ℕ} (h : SafeRun hash (start now) actions) :
    RunKept hash now actions where
  rotations before draw oldKeyId after heq old hold hid record table hrotate := by
    subst heq
    rw [run_append]
    exact rotationKept_of_safe (safeRun_append.mp h).2 hold hid hrotate
  expires _ hkey _ :=
    expires_of_wellRotated (wellRotated_run h (wellRotated_start now)) hkey
  revoked before after heq keyId hkey hdead keyId' hdescends hauth := by
    subst heq
    obtain ⟨hbefore, hafter⟩ := safeRun_append.mp h
    have hw := wellRotated_run hbefore (wellRotated_start now)
    rw [run_append] at hdescends hauth
    obtain ⟨row, hrow, rfl, hactive, -⟩ := hauth.exists_row
    have hrevoked := dead_run hafter hw hkey hdead row hrow hdescends
    rw [hactive] at hrevoked
    exact absurd hrevoked (by decide)

/-- A rotation that keeps its promise in the runs that go on from it is safe. -/
lemma safeStep_of_rotationKept {draw : Draw} {oldKeyId : String}
    (h : ∀ old ∈ st.table.rows, old.id = oldKeyId → ∀ record table,
      rotate hash st.table draw oldKeyId = some (some (record, table)) → ∀ seconds,
        RotationKept hash old st.now record ⟨table, st.now + seconds⟩) :
    SafeStep hash st (.rotate draw oldKeyId) := by
  intro hsome old hold hid
  cases hrotate : rotate hash st.table draw oldKeyId with
  | none => simp [hrotate] at hsome
  | some issued =>
      cases issued with
      | none => simp [hrotate] at hsome
      | some issued =>
          obtain ⟨record, table⟩ := issued
          obtain ⟨_, -, -, hissue⟩ := rotate_eq_some hrotate
          obtain ⟨row, hinsert, rfl, -, hhash, -, -, hactive, hexpires, -⟩ := issue_eq_some hissue
          have hauth (seconds : ℕ) : Authenticates hash ⟨table, st.now + seconds⟩ row.id :=
            authenticates_of_insert hinsert hhash hactive hexpires
          have hkept := h old hold hid _ _ hrotate
          refine ⟨((hkept 0).active (hauth 0)).1, Option.eq_none_iff_forall_not_mem.mpr fun e he => ?_⟩
          -- the new key authenticates after the old one has expired
          have hlater : st.now + (e + 1) ≤ e := (hkept (e + 1)).expires (hauth _) e he
          omega

/-- **When rotation never widens or resurrects access**: in every run whose rotations are all of
active keys without an expiry, and no weaker condition on a step will do. -/
theorem rotation_law (hash : String → String) (now : ℕ) :
    (∀ actions, SafeRun hash (start now) actions → RunKept hash now actions) ∧
      ∀ before action, SafeRun hash (start now) before →
        (∀ after, SafeRun hash (run hash (start now) (before ++ [action])) after →
          RunKept hash now (before ++ action :: after)) →
        SafeStep hash (run hash (start now) before) action := by
  refine ⟨fun _ => runKept_of_safeRun, fun before action hbefore hkept => ?_⟩
  cases action with
  | rotate draw oldKeyId =>
      refine safeStep_of_rotationKept fun old hold hid record table hrotate seconds => ?_
      have hlater : run hash (start now) (before ++ [.rotate draw oldKeyId, .wait seconds]) =
          ⟨table, (run hash (start now) before).now + seconds⟩ := by
        rw [run_append, run, List.foldl_cons, act_rotate hrotate]
        rfl
      have hrotations := (hkept [.wait seconds] ⟨trivial, trivial⟩).rotations before draw oldKeyId
        [.wait seconds] rfl old hold hid record table hrotate
      rwa [hlater] at hrotations
  | issue | revoke | findActive | wait => exact trivial

/-- A key with an expiry is rotated, and its time passes. -/
def outlived : List Action :=
  [.issue ⟨"old", "first"⟩ "job" ["runtime"] none (some 10), .rotate ⟨"new", "second"⟩ "old",
    .wait 20]

/-- A key is rotated after its revocation. -/
def revived : List Action :=
  [.issue ⟨"old", "first"⟩ "job" ["runtime"] none none, .revoke "old",
    .rotate ⟨"new", "second"⟩ "old"]

/-- The rotated key authenticates after the old one's expiry, and after its revocation. -/
theorem rotation_widens : ¬RunKept id 0 outlived ∧ ¬RunKept id 0 revived := by
  have hauth : ∀ actions, ((findActive id (run id (start 0) actions).table
      (run id (start 0) actions).now "second").1.map ApiKeyRecord.id) = some "new" →
        Authenticates id (run id (start 0) actions) "new" := fun actions h => by
    obtain ⟨record, hfind, hid⟩ := Option.map_eq_some_iff.mp h
    exact ⟨"second", record, hfind, hid⟩
  have hdescends : ∀ actions, (∃ row ∈ (run id (start 0) actions).table.rows,
      row.id = "new" ∧ row.rotates = some "old") →
        (run id (start 0) actions).table.Descends "old" "new" := fun _ h => .single h
  constructor
  · intro h
    obtain ⟨key, hkey, hid, hexpires⟩ : ∃ key ∈ (run id (start 0) outlived).table.rows,
        key.id = "old" ∧ key.expiresAt = some 10 := by decide +kernel
    have hlate := h.expires key hkey "new" (hid ▸ hdescends outlived (by decide +kernel))
      (hauth outlived (by decide +kernel)) 10 hexpires
    exact absurd hlate (by decide +kernel)
  · intro h
    have hrevoked : ∀ row ∈ (run id (start 0) (revived.take 2)).table.rows,
        row.status = apiKeyStatusRevoked := by decide +kernel
    exact h.revoked (revived.take 2) (revived.drop 2) rfl "old" (by decide +kernel)
      (fun row hrow _ => hrevoked row hrow) "new" (hdescends revived (by decide +kernel))
      (hauth revived (by decide +kernel))

end ApiKeyService

end AuthzKit
