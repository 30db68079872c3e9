import AuthzKit.Relational.Keyed

/-!
Tables whose rows expire.

* `Table`: rows with a primary key; `get`, `insert`, `remove`, `write` and `sweep` are the
  statements a program runs on them, each with one lemma for what is found after it.
* `Table.Shows`: from some time on, a reader that refuses expired rows finds in the table what a
  map holds; `Shows.insert`, `Shows.remove` and `Shows.write` change both.
* `Shows.forget`: rows that have expired may go at any time; `Shows.sweep` deletes them all.
-/

namespace AuthzKit

/-- Rows with a primary key. -/
structure Table {α κ : Type*} (key : α → κ) where
  rows : List α
  distinct : (rows.map key).Nodup

namespace Table

open Keyed

variable {α β κ τ : Type*} [DecidableEq κ] [LinearOrder τ] {key : α → κ}

/-! ### Statements -/

/-- No rows. -/
def empty : Table key := ⟨[], List.nodup_nil⟩

/-- The row of a key. -/
def get (t : Table key) (k : κ) : Option α := lookup key t.rows k

/-- A new row, unless its key is taken. -/
def insert (t : Table key) (x : α) : Option (Table key) :=
  if h : key x ∈ t.rows.map key then none
  else some
    { rows := t.rows ++ [x]
      distinct := by
        rw [List.map_append, List.map_singleton]
        exact t.distinct.append (List.nodup_singleton _) fun k hk hx =>
          h (List.mem_singleton.mp hx ▸ hk) }

/-- The rows of other keys. -/
def remove (t : Table key) (k : κ) : Table key where
  rows := t.rows.filter fun r => key r ≠ k
  distinct := t.distinct.sublist (List.filter_sublist.map key)

/-- A row written back over the one with its key. -/
def write (t : Table key) (x : α) : Table key where
  rows := update key t.rows x
  distinct := by
    rw [map_update key fun r _ hr => hr]
    exact t.distinct

/-- The rows that have not expired. -/
def sweep (t : Table key) (expiry : α → τ) (now : τ) : Table key where
  rows := t.rows.filter fun r => now ≤ expiry r
  distinct := t.distinct.sublist (List.filter_sublist.map key)

/-! ### What is found -/

variable {t t' : Table key} {x r : α} {k : κ}

lemma get_eq_some_iff : t.get k = some r ↔ r ∈ t.rows ∧ key r = k :=
  lookup_eq_some_iff t.distinct

lemma key_of_get (h : t.get k = some r) : key r = k := key_of_lookup h

@[simp] lemma get_empty (k : κ) : (empty : Table key).get k = none := rfl

lemma insert_eq_none_iff : t.insert x = none ↔ key x ∈ t.rows.map key := by
  rw [insert]
  split_ifs with h
  · exact iff_of_true rfl h
  · exact iff_of_false (by rintro ⟨⟩) h

lemma rows_insert (h : t.insert x = some t') : t'.rows = t.rows ++ [x] := by
  rw [insert] at h
  split_ifs at h
  rw [← Option.some.inj h]

lemma get_insert (h : t.insert x = some t') :
    t'.get k = if key x = k then some x else t.get k := by
  have hfree : key x ∉ t.rows.map key := by
    rw [← insert_eq_none_iff, h]
    exact Option.some_ne_none _
  refine Option.ext fun r => ?_
  rw [get_eq_some_iff, rows_insert h, List.mem_append, List.mem_singleton]
  split_ifs with hk
  · rw [Option.some.injEq]
    constructor
    · rintro ⟨hr | rfl, hkey⟩
      · exact absurd (hk.trans hkey.symm ▸ List.mem_map_of_mem hr) hfree
      · rfl
    · rintro rfl
      exact ⟨Or.inr rfl, hk⟩
  · rw [get_eq_some_iff]
    constructor
    · rintro ⟨hr | rfl, hkey⟩
      · exact ⟨hr, hkey⟩
      · exact absurd hkey hk
    · rintro ⟨hr, hkey⟩
      exact ⟨Or.inl hr, hkey⟩

lemma get_remove {k' : κ} : (t.remove k').get k = if k = k' then none else t.get k := by
  refine Option.ext fun r => ?_
  rw [get_eq_some_iff, remove, List.mem_filter, decide_eq_true_iff]
  split_ifs with hk
  · refine iff_of_false ?_ (by rintro ⟨⟩)
    rintro ⟨⟨-, hne⟩, hkey⟩
    exact hne (hkey.trans hk)
  · rw [get_eq_some_iff]
    constructor
    · rintro ⟨⟨hmem, -⟩, hkey⟩
      exact ⟨hmem, hkey⟩
    · rintro ⟨hmem, rfl⟩
      exact ⟨⟨hmem, hk⟩, rfl⟩

lemma get_write : (t.write x).get k = if key x = k then (t.get k).map fun _ => x else t.get k :=
  lookup_update

lemma get_sweep {expiry : α → τ} {now : τ} :
    (t.sweep expiry now).get k = (t.get k).filter fun r => now ≤ expiry r := by
  refine Option.ext fun r => ?_
  rw [get_eq_some_iff, sweep, List.mem_filter, Option.filter_eq_some_iff, get_eq_some_iff]
  exact and_right_comm

/-! ### Readers that refuse expired rows -/

/-- **From `clock` on the table shows a map**: a reader that takes a `view` of a row, and refuses it
when it has expired, finds what the map holds. -/
def Shows (view : α → β) (expiry : β → τ) (t : Table key) (m : κ → Option β) (clock : τ) : Prop :=
  ∀ now k, clock ≤ now → (((t.get k).map view).filter fun b => now ≤ expiry b) =
    (m k).filter fun b => now ≤ expiry b

variable {view : α → β} {expiry : β → τ} {m : κ → Option β} {clock now : τ}

lemma shows_empty : (empty : Table key).Shows view expiry (fun _ => none) clock :=
  fun _ _ _ => rfl

lemma Shows.later (h : t.Shows view expiry m clock) (hnow : clock ≤ now) :
    t.Shows view expiry m now := fun time k htime => h time k (hnow.trans htime)

/-- A row that is found alive. -/
lemma Shows.get_of_alive (h : t.Shows view expiry m clock) (hget : t.get k = some r)
    (halive : clock ≤ expiry (view r)) : m k = some (view r) := by
  have hshows := h clock k le_rfl
  rw [hget, Option.map_some, Option.filter_some, if_pos (decide_eq_true halive)] at hshows
  exact (Option.filter_eq_some_iff.mp hshows.symm).1

/-- A key without a row, or with one that has expired. -/
lemma Shows.expired (h : t.Shows view expiry m clock)
    (hdead : ∀ r, t.get k = some r → expiry (view r) < clock) :
    ∀ b, m k = some b → expiry b < clock := by
  intro b hb
  by_contra hnot
  have hshows := h clock k le_rfl
  rw [hb, Option.filter_some, if_pos (decide_eq_true (not_lt.mp hnot)),
    Option.filter_eq_some_iff, Option.map_eq_some_iff] at hshows
  obtain ⟨⟨r, hr, rfl⟩, -⟩ := hshows
  exact hnot (hdead r hr)

lemma Shows.insert (h : t.Shows view expiry m clock) (hinsert : t.insert x = some t') :
    t'.Shows view expiry (Function.update m (key x) (some (view x))) clock := by
  intro now k hnow
  rw [get_insert hinsert]
  by_cases hk : key x = k
  · subst hk
    rw [if_pos rfl, Function.update_self, Option.map_some]
  · rw [if_neg hk, Function.update_of_ne (Ne.symm hk)]
    exact h now k hnow

lemma Shows.remove (h : t.Shows view expiry m clock) (k' : κ) :
    (t.remove k').Shows view expiry (Function.update m k' none) clock := by
  intro now k hnow
  rw [get_remove]
  by_cases hk : k = k'
  · subst hk
    rw [if_pos rfl, Function.update_self, Option.map_none]
  · rw [if_neg hk, Function.update_of_ne hk]
    exact h now k hnow

/-- A key without a row. -/
lemma Shows.erase (h : t.Shows view expiry m clock) {k' : κ} (hnone : t.get k' = none) :
    t.Shows view expiry (Function.update m k' none) clock := by
  intro now k hnow
  by_cases hk : k = k'
  · subst hk
    rw [hnone, Function.update_self, Option.map_none]
  · rw [Function.update_of_ne hk]
    exact h now k hnow

/-- A row written back that looks the same. -/
lemma Shows.write (h : t.Shows view expiry m clock)
    (hx : ∀ r, t.get (key x) = some r → view x = view r) :
    (t.write x).Shows view expiry m clock := by
  intro now k hnow
  have hview : ((t.write x).get k).map view = (t.get k).map view := by
    rw [get_write]
    split_ifs with hk
    · subst hk
      cases hget : t.get (key x) with
      | none => rfl
      | some r =>
          rw [Option.map_map, Option.map_some, Option.map_some, Function.comp_apply, hx r hget]
    · rfl
  rw [hview]
  exact h now k hnow

/-- **Expired rows may go**: a reader does not notice. -/
lemma Shows.forget (h : t.Shows view expiry m clock) (hnow : clock ≤ now)
    (hget : ∀ k, t'.get k = t.get k ∨
      t'.get k = none ∧ ∀ r, t.get k = some r → expiry (view r) < now) :
    t'.Shows view expiry m now := by
  intro time k htime
  rw [← h time k (hnow.trans htime)]
  rcases hget k with heq | ⟨hnone, hdead⟩
  · rw [heq]
  · rw [hnone, Option.map_none, Option.filter_none]
    cases hr : t.get k with
    | none => rfl
    | some r =>
        have hexpired : ¬time ≤ expiry (view r) := not_le.mpr ((hdead r hr).trans_le htime)
        rw [Option.map_some, Option.filter_some, if_neg (by simpa using hexpired)]

lemma Shows.sweep (h : t.Shows view expiry m clock) (hnow : clock ≤ now) :
    (t.sweep (fun r => expiry (view r)) now).Shows view expiry m now := by
  refine h.forget hnow fun k => ?_
  rw [get_sweep]
  cases hr : t.get k with
  | none => exact Or.inl rfl
  | some r =>
      by_cases halive : now ≤ expiry (view r)
      · left
        rw [Option.filter_some, if_pos (by simpa using halive)]
      · right
        refine ⟨by rw [Option.filter_some, if_neg (by simpa using halive)], ?_⟩
        rintro _ ⟨⟩
        exact not_le.mp halive

/-- A row that has expired is removed. -/
lemma Shows.removeExpired (h : t.Shows view expiry m clock) (hnow : clock ≤ now)
    (hdead : ∀ r, t.get k = some r → expiry (view r) < now) :
    (t.remove k).Shows view expiry m now := by
  refine h.forget hnow fun k' => ?_
  rw [get_remove]
  split_ifs with hk
  · subst hk
    exact Or.inr ⟨rfl, hdead⟩
  · exact Or.inl rfl

end Table

end AuthzKit
