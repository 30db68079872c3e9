import Mathlib.Data.List.Nodup
import Mathlib.Data.List.Basic
import Mathlib.Tactic

/-!
Rows kept in a list and told apart by a key: the tables of a relational store,
and the insertion-ordered dictionaries a program builds from them.

* `Unique`: a column set is unique in the sense of SQL, where a key with a null
  column (`none`) collides with nothing; `Unique.eq_of_key` reads two rows with
  one key as the same row.
* `lookup`: the row with a given key. On a list whose keys are distinct it is
  the membership test `lookup_eq_some_iff`.
* `update`, `updateAll`: dirty rows written back over the rows with their key,
  with the frame rules `filter_updateAll` and `map_updateAll`.
* `insertKey`, `ofList`: the dictionary comprehension `{key(x): x for x in xs}`,
  which on distinct keys is the list itself (`ofList_eq_self`) and in general
  holds the last row of each key (`lookup_ofList`).
-/

namespace AuthzKit

/-! ### Uniqueness with nulls -/

/-- The non-null values of the key occur once: SQL's `UNIQUE`, in which two keys
with a null column are distinct. -/
def Unique {α κ : Type*} (key : α → Option κ) (rows : List α) : Prop :=
  (rows.filterMap key).Nodup

namespace Unique

variable {α κ : Type*} {key : α → Option κ} {rows : List α}

instance [DecidableEq κ] : Decidable (Unique key rows) :=
  inferInstanceAs (Decidable (rows.filterMap key).Nodup)

lemma nil : Unique key [] := List.nodup_nil

/-- Two rows with one non-null key are the same row. -/
theorem eq_of_key (h : Unique key rows) {a b : α} (ha : a ∈ rows) (hb : b ∈ rows) {k : κ}
    (hka : key a = some k) (hkb : key b = some k) : a = b := by
  rw [Unique, List.Nodup, List.pairwise_filterMap] at h
  have hsymm : Std.Symm fun a a' : α => ∀ k, key a = some k → ∀ k', key a' = some k' → k ≠ k' :=
    ⟨fun x y hxy k₁ h₁ k₂ h₂ => (hxy k₂ h₂ k₁ h₁).symm⟩
  by_contra hne
  exact h.forall ha hb hne k hka k hkb rfl

/-- Appending rows keeps a key unique when the new keys are distinct and new. -/
theorem append {new : List α} (h : Unique key rows) (hnew : Unique key new)
    (hdis : ∀ a ∈ rows, ∀ b ∈ new, ∀ k, key a = some k → key b ≠ some k) :
    Unique key (rows ++ new) := by
  rw [Unique, List.filterMap_append]
  refine List.Nodup.append h hnew fun k hk hk' => ?_
  obtain ⟨a, ha, hka⟩ := List.mem_filterMap.mp hk
  obtain ⟨b, hb, hkb⟩ := List.mem_filterMap.mp hk'
  exact hdis a ha b hb k hka hkb

/-- A key that a row map does not change stays unique. -/
theorem map {f : α → α} (h : Unique key rows) (hf : ∀ r ∈ rows, key (f r) = key r) :
    Unique key (rows.map f) := by
  rw [Unique, List.filterMap_map]
  rwa [Unique, ← List.filterMap_congr fun r hr => hf r hr] at h

/-- Deleting rows keeps a key unique. -/
theorem filter (h : Unique key rows) (p : α → Bool) : Unique key (rows.filter p) :=
  List.Nodup.sublist (List.Sublist.filterMap key List.filter_sublist) h

/-- A key read off columns that two lists share is unique in both. -/
theorem of_map_eq {β : Type*} {f : α → β} (hf : ∀ a b, f a = f b → key a = key b) :
    ∀ {rows rows' : List α}, rows'.map f = rows.map f → Unique key rows → Unique key rows' := by
  have haux : ∀ {rows rows' : List α}, rows'.map f = rows.map f →
      rows'.filterMap key = rows.filterMap key := by
    intro rows
    induction rows with
    | nil =>
        intro rows' hmap
        rw [List.map_eq_nil_iff.mp hmap]
    | cons r rows ih =>
        intro rows' hmap
        obtain ⟨r', rest, rfl, hr, hrest⟩ := List.map_eq_cons_iff.mp hmap
        rw [List.filterMap_cons, List.filterMap_cons, hf _ _ hr, ih hrest]
  intro rows rows' hmap h
  rwa [Unique, haux hmap]

/-- Columns that fix a non-null key are distinct. -/
theorem nodup_map {β : Type*} {f : α → β} (h : Unique key rows)
    (hf : ∀ a ∈ rows, ∀ b ∈ rows, f a = f b → ∃ k, key a = some k ∧ key b = some k) :
    (rows.map f).Nodup := by
  rw [Unique, List.Nodup, List.pairwise_filterMap] at h
  rw [List.Nodup, List.pairwise_map]
  refine h.imp_of_mem fun ha hb hab hfab => ?_
  obtain ⟨k, hka, hkb⟩ := hf _ ha _ hb hfab
  exact hab k hka k hkb rfl

end Unique

/-! ### Lookup by key -/

namespace Keyed

variable {α κ : Type*} [DecidableEq κ] {key : α → κ}

/-- The first row with key `k`. -/
def lookup (key : α → κ) (rows : List α) (k : κ) : Option α := rows.find? fun r => key r = k

lemma mem_of_lookup {rows : List α} {k : κ} {r : α} (h : lookup key rows k = some r) :
    r ∈ rows := List.mem_of_find?_eq_some h

lemma key_of_lookup {rows : List α} {k : κ} {r : α} (h : lookup key rows k = some r) :
    key r = k := by simpa using List.find?_some h

lemma lookup_eq_none_iff {rows : List α} {k : κ} :
    lookup key rows k = none ↔ ∀ r ∈ rows, key r ≠ k := by
  simp [lookup, List.find?_eq_none]

/-- On distinct keys, lookup is membership. -/
theorem lookup_eq_some_iff {rows : List α} (h : (rows.map key).Nodup) {k : κ} {r : α} :
    lookup key rows k = some r ↔ r ∈ rows ∧ key r = k := by
  constructor
  · exact fun hr => ⟨mem_of_lookup hr, key_of_lookup hr⟩
  · rintro ⟨hr, rfl⟩
    cases hl : lookup key rows (key r) with
    | none => exact absurd rfl (lookup_eq_none_iff.mp hl r hr)
    | some x => rw [List.inj_on_of_nodup_map h (mem_of_lookup hl) hr (key_of_lookup hl)]

/-- A filter that keeps every row of a key keeps the lookup of that key. -/
lemma lookup_filter {rows : List α} {p : α → Bool} {k : κ}
    (h : ∀ r ∈ rows, key r = k → p r = true) :
    lookup key (rows.filter p) k = lookup key rows k := by
  induction rows with
  | nil => rfl
  | cons r rows ih =>
      have ih' := ih fun r' hr' => h r' (by simp [hr'])
      rw [lookup, lookup] at ih' ⊢
      by_cases hk : key r = k
      · simp [h r (by simp) hk, hk]
      · by_cases hp : p r = true
        · simp [hp, hk, ih']
        · simp [hp, hk, ih']

omit [DecidableEq κ] in
/-- Entries with distinct keys have distinct keys together with their positions. -/
lemma nodup_key_zipIdx {xs : List α} (h : (xs.map key).Nodup) :
    (xs.zipIdx.map fun p => key p.1).Nodup := by
  have hfst : (xs.zipIdx.map fun p => key p.1) = xs.map key := by
    rw [← List.zipIdx_map_fst 0 xs, List.map_map]
    simp [Function.comp_def]
  rwa [hfst]

omit [DecidableEq κ] in
/-- What is made of entries with distinct keys is distinct, when it fixes the key. -/
lemma nodup_map_zipIdx {β : Type*} {xs : List α} (h : (xs.map key).Nodup) {f : α × ℕ → β}
    (hf : ∀ p ∈ xs.zipIdx, ∀ q ∈ xs.zipIdx, f p = f q → key p.1 = key q.1) :
    (xs.zipIdx.map f).Nodup := by
  have hkeys := nodup_key_zipIdx h
  refine List.Nodup.map_on (fun p hp q hq hpq => ?_) (List.Nodup.of_map _ hkeys)
  exact List.inj_on_of_nodup_map hkeys hp hq (hf p hp q hq hpq)

omit [DecidableEq κ] in
/-- The same for entries that something is made of only now and then. -/
lemma nodup_filterMap_zipIdx {β γ : Type*} {xs : List α} (h : (xs.map key).Nodup)
    {f : α × ℕ → Option β} {g : β → γ}
    (hf : ∀ p ∈ xs.zipIdx, ∀ q ∈ xs.zipIdx, ∀ b b', f p = some b → f q = some b' → g b = g b' →
      key p.1 = key q.1) :
    ((xs.zipIdx.filterMap f).map g).Nodup := by
  have hkeys := nodup_key_zipIdx h
  rw [List.Nodup, List.pairwise_map] at hkeys
  rw [List.Nodup, List.pairwise_map, List.pairwise_filterMap]
  exact hkeys.imp_of_mem fun hp hq hne b hb b' hb' hg => hne (hf _ hp _ hq b b' hb hb' hg)

omit [DecidableEq κ] in
/-- Two lists with the same rows in `p` have the same rows in `p`, one by one. -/
lemma mem_iff_of_filter_eq {xs ys : List α} {p : α → Bool} (h : ys.filter p = xs.filter p) {x : α}
    (hx : p x = true) : x ∈ ys ↔ x ∈ xs := by
  have hmem : ∀ zs : List α, x ∈ zs ↔ x ∈ zs.filter p := fun zs => by simp [hx]
  rw [hmem ys, hmem xs, h]

omit [DecidableEq κ] in
/-- Two lists with the same rows in `p` have the same rows in any part of `p`. -/
lemma filter_eq_of_filter_eq {xs ys : List α} {p q : α → Bool} (h : ys.filter p = xs.filter p)
    (hq : ∀ x, q x = true → p x = true) : ys.filter q = xs.filter q := by
  have hsub : ∀ zs : List α, zs.filter q = (zs.filter p).filter q := fun zs => by
    rw [List.filter_filter]
    refine List.filter_congr fun x _ => ?_
    cases hx : q x with
    | false => simp
    | true => simp [hq x hx]
  rw [hsub ys, hsub xs, h]

omit [DecidableEq κ] in
/-- New rows outside `p` do not change the rows in `p`. -/
lemma filter_append_of_not {p : α → Prop} [DecidablePred p] {rows new : List α}
    (h : ∀ x ∈ new, ¬p x) : (rows ++ new).filter p = rows.filter p := by
  have hnew : new.filter p = [] := List.filter_eq_nil_iff.mpr fun x hx => by simpa using h x hx
  rw [List.filter_append, hnew, List.append_nil]

variable (key) in
omit [DecidableEq κ] in
/-- Two lists with the same distinct keys are equally long. -/
lemma length_eq_of_keys {β : Type*} {xs : List α} {ys : List β} (f : β → κ)
    (hxs : (xs.map key).Nodup) (hys : (ys.map f).Nodup)
    (h : ∀ k, k ∈ xs.map key ↔ k ∈ ys.map f) : xs.length = ys.length := by
  have hperm := (List.perm_ext_iff_of_nodup hxs hys).mpr h
  simpa using hperm.length_eq

/-! ### Writing rows back -/

/-- The row `x` written over the row with its key. -/
def update (key : α → κ) (rows : List α) (x : α) : List α :=
  rows.map fun r => if key r = key x then x else r

/-- Several rows written back, one after the other. -/
def updateAll (key : α → κ) (rows xs : List α) : List α := xs.foldl (update key) rows

@[simp] lemma updateAll_nil (rows : List α) : updateAll key rows [] = rows := rfl

@[simp] lemma updateAll_cons (rows xs : List α) (x : α) :
    updateAll key rows (x :: xs) = updateAll key (update key rows x) xs := rfl

/-- A row map that agrees with `update` on some column keeps that column. -/
lemma map_update {β : Type*} (f : α → β) {rows : List α} {x : α}
    (h : ∀ r ∈ rows, key r = key x → f r = f x) : (update key rows x).map f = rows.map f := by
  rw [update, List.map_map]
  refine List.map_congr_left fun r hr => ?_
  by_cases hk : key r = key x
  · simp [hk, h r hr hk]
  · simp [hk]

lemma mem_update {rows : List α} {x r : α} :
    r ∈ update key rows x ↔ (r = x ∧ ∃ r₀ ∈ rows, key r₀ = key x) ∨ (r ∈ rows ∧ key r ≠ key x) := by
  rw [update, List.mem_map]
  constructor
  · rintro ⟨r₀, hr₀, rfl⟩
    by_cases hk : key r₀ = key x
    · exact Or.inl ⟨by simp [hk], r₀, hr₀, hk⟩
    · simp only [hk, if_false]
      exact Or.inr ⟨hr₀, hk⟩
  · rintro (⟨rfl, r₀, hr₀, hk⟩ | ⟨hr, hk⟩)
    · exact ⟨r₀, hr₀, by simp [hk]⟩
    · exact ⟨r, hr, by simp [hk]⟩

/-- Looking up after writing `x` back finds `x` under its key. -/
lemma lookup_update {rows : List α} {x : α} {k : κ} :
    lookup key (update key rows x) k =
      if key x = k then (lookup key rows k).map fun _ => x else lookup key rows k := by
  induction rows with
  | nil => simp [lookup, update]
  | cons r rows ih =>
      rw [lookup, update, lookup] at ih ⊢
      rw [List.map_cons, List.find?_cons, List.find?_cons, ih]
      by_cases hx : key x = k
      · by_cases hr : key r = key x
        · simp [hr, hx]
        · simp [hx, hx ▸ hr]
      · by_cases hr : key r = key x
        · simp [hr, hx]
        · simp [hr, hx]

/-- Writing back a row that is already there changes nothing. -/
lemma update_eq_self {rows : List α} (h : (rows.map key).Nodup) {x : α} (hx : x ∈ rows) :
    update key rows x = rows := by
  rw [update]
  conv_rhs => rw [← List.map_id rows]
  refine List.map_congr_left fun r hr => ?_
  by_cases hk : key r = key x
  · rw [if_pos hk, List.inj_on_of_nodup_map h hr hx hk, id]
  · rw [if_neg hk, id]

/-- Writing rows back keeps every column on which each written row agrees with
the row it replaces. -/
theorem map_updateAll {β : Type*} (f : α → β) {xs : List α} : ∀ {rows : List α},
    (∀ x ∈ xs, ∀ r ∈ rows, key r = key x → f r = f x) →
    (∀ x ∈ xs, ∀ y ∈ xs, key x = key y → f x = f y) →
    (updateAll key rows xs).map f = rows.map f := by
  induction xs with
  | nil => intro rows _ _; rfl
  | cons x xs ih =>
      intro rows h hxs
      rw [updateAll_cons, ih, map_update f (h x (by simp))]
      · intro y hy r hr hk
        rcases mem_update.mp hr with ⟨rfl, -⟩ | ⟨hr, -⟩
        · exact hxs r (by simp) y (by simp [hy]) hk
        · exact h y (by simp [hy]) r hr hk
      · exact fun y hy z hz => hxs y (by simp [hy]) z (by simp [hz])

/-- Writing rows back keeps their identity: columns `f` that fix the key, and that
each written row shares with a row that is there. -/
theorem map_updateAll_ident {β : Type*} {f : α → β} (hf : ∀ a b, f a = f b → key a = key b)
    {rows xs : List α} (h : (rows.map key).Nodup) (hxs : ∀ x ∈ xs, f x ∈ rows.map f) :
    (updateAll key rows xs).map f = rows.map f := by
  have hrow : ∀ x ∈ xs, ∀ r ∈ rows, key r = key x → f r = f x := by
    intro x hx r hr hk
    obtain ⟨r₀, hr₀, hfx⟩ := List.mem_map.mp (hxs x hx)
    rw [← List.inj_on_of_nodup_map h hr₀ hr ((hf r₀ x hfx).trans hk.symm), hfx]
  refine map_updateAll f hrow fun x hx y hy hk => ?_
  obtain ⟨r, hr, hfx⟩ := List.mem_map.mp (hxs x hx)
  rw [← hfx]
  exact hrow y hy r hr ((hf r x hfx).trans hk)

/-- Writing back only rows outside `p` over rows outside `p` keeps the rows in `p`. -/
theorem filter_updateAll (p : α → Bool) {xs : List α} : ∀ {rows : List α},
    (∀ x ∈ xs, p x = false) → (∀ x ∈ xs, ∀ r ∈ rows, key r = key x → p r = false) →
    (updateAll key rows xs).filter p = rows.filter p := by
  induction xs with
  | nil => intro rows _ _; rfl
  | cons x xs ih =>
      intro rows hxs h
      have hstep : (update key rows x).filter p = rows.filter p := by
        have hx := hxs x (by simp)
        have hr := h x (by simp)
        clear ih h hxs
        induction rows with
        | nil => rfl
        | cons r rows ihr =>
            have ih' := ihr fun r' hr' => hr r' (by simp [hr'])
            rw [update] at ih' ⊢
            by_cases hk : key r = key x
            · simp [hk, hx, hr r (by simp) hk, ih']
            · simp [hk, List.filter_cons, ih']
      rw [updateAll_cons, ih (fun y hy => hxs y (by simp [hy])), hstep]
      intro y hy r hr hk
      rcases mem_update.mp hr with ⟨rfl, -⟩ | ⟨hr, -⟩
      · exact hxs r (by simp)
      · exact h y (by simp [hy]) r hr hk

/-- Writing back rows outside `p`, a predicate of the identity, keeps the rows in
`p`. -/
theorem filter_updateAll_ident {β : Type*} {f : α → β} {p : α → Bool}
    (hf : ∀ a b, f a = f b → key a = key b) (hp : ∀ a b, f a = f b → p a = p b)
    {rows xs : List α} (h : (rows.map key).Nodup)
    (hxs : ∀ x ∈ xs, f x ∈ rows.map f ∧ p x = false) :
    (updateAll key rows xs).filter p = rows.filter p := by
  refine filter_updateAll p (fun x hx => (hxs x hx).2) fun x hx r hr hk => ?_
  obtain ⟨r₀, hr₀, hfx⟩ := List.mem_map.mp (hxs x hx).1
  rw [← List.inj_on_of_nodup_map h hr₀ hr ((hf r₀ x hfx).trans hk.symm), hp r₀ x hfx]
  exact (hxs x hx).2

/-- The rows after writing back rows with distinct keys: the written ones that
have a row to replace, and the rows nothing was written over. -/
theorem mem_updateAll {xs : List α} (hxs : (xs.map key).Nodup) : ∀ {rows : List α} {r : α},
    r ∈ updateAll key rows xs ↔
      (r ∈ xs ∧ ∃ r₀ ∈ rows, key r₀ = key r) ∨ (r ∈ rows ∧ ∀ x ∈ xs, key r ≠ key x) := by
  induction xs with
  | nil => intro rows r; simp
  | cons x xs ih =>
      intro rows r
      rw [List.map_cons, List.nodup_cons] at hxs
      have hx : ∀ y ∈ xs, key x ≠ key y := fun y hy he =>
        hxs.1 (he ▸ List.mem_map_of_mem hy)
      rw [updateAll_cons, ih hxs.2]
      constructor
      · rintro (⟨hr, r₀, hr₀, hk⟩ | ⟨hr, hn⟩)
        · rcases mem_update.mp hr₀ with ⟨rfl, -⟩ | ⟨hr₀, -⟩
          · exact absurd hk (hx r hr)
          · exact Or.inl ⟨by simp [hr], r₀, hr₀, hk⟩
        · rcases mem_update.mp hr with ⟨rfl, r₀, hr₀, hk⟩ | ⟨hr, hne⟩
          · exact Or.inl ⟨by simp, r₀, hr₀, hk⟩
          · exact Or.inr ⟨hr, by simpa [hne] using hn⟩
      · rintro (⟨hr, r₀, hr₀, hk⟩ | ⟨hr, hn⟩)
        · rcases List.mem_cons.mp hr with rfl | hr
          · exact Or.inr ⟨mem_update.mpr (Or.inl ⟨rfl, r₀, hr₀, hk⟩), hx⟩
          · refine Or.inl ⟨hr, r₀, mem_update.mpr (Or.inr ⟨hr₀, ?_⟩), hk⟩
            rw [hk]
            exact (hx r hr).symm
        · have hrx := hn x (by simp)
          exact Or.inr ⟨mem_update.mpr (Or.inr ⟨hr, hrx⟩), fun y hy => hn y (by simp [hy])⟩

/-- Rows with distinct keys written back over rows that are there: the written
ones, and the others. -/
theorem mem_updateAll_of_keys {xs rows : List α} (hxs : (xs.map key).Nodup)
    (hrows : xs.map key ⊆ rows.map key) {r : α} :
    r ∈ updateAll key rows xs ↔ r ∈ xs ∨ (r ∈ rows ∧ key r ∉ xs.map key) := by
  rw [mem_updateAll hxs]
  constructor
  · rintro (⟨hr, -⟩ | ⟨hr, hn⟩)
    · exact Or.inl hr
    · refine Or.inr ⟨hr, fun hm => ?_⟩
      obtain ⟨x, hx, hk⟩ := List.mem_map.mp hm
      exact hn x hx hk.symm
  · rintro (hr | ⟨hr, hn⟩)
    · exact Or.inl ⟨hr, by simpa using hrows (List.mem_map_of_mem hr)⟩
    · exact Or.inr ⟨hr, fun x hx hk => hn (hk ▸ List.mem_map_of_mem hx)⟩

/-- Rows with distinct keys written back, row by row. -/
theorem updateAll_eq_map {xs : List α} (hxs : (xs.map key).Nodup) : ∀ rows : List α,
    updateAll key rows xs = rows.map fun r => (lookup key xs (key r)).getD r := by
  induction xs with
  | nil => intro rows; simp [lookup]
  | cons x xs ih =>
      intro rows
      rw [List.map_cons, List.nodup_cons] at hxs
      have hx : lookup key xs (key x) = none :=
        lookup_eq_none_iff.mpr fun y hy hk => hxs.1 (hk ▸ List.mem_map_of_mem hy)
      rw [updateAll_cons, ih hxs.2, update, List.map_map]
      refine List.map_congr_left fun r _ => ?_
      by_cases hk : key r = key x
      · have hfound : lookup key (x :: xs) (key x) = some x := by simp [lookup]
        simp only [Function.comp_apply, hk, if_true]
        rw [hx, hfound]
        rfl
      · have hskip : lookup key (x :: xs) (key r) = lookup key xs (key r) := by
          simp [lookup, Ne.symm hk]
        simp only [Function.comp_apply, hk, if_false]
        rw [hskip]

/-- Writing back rows that are already there changes nothing. -/
theorem updateAll_eq_self {rows : List α} (h : (rows.map key).Nodup) {xs : List α}
    (hxs : ∀ x ∈ xs, x ∈ rows) : updateAll key rows xs = rows := by
  induction xs with
  | nil => rfl
  | cons x xs ih =>
      rw [updateAll_cons, update_eq_self h (hxs x (by simp))]
      exact ih fun y hy => hxs y (by simp [hy])

/-! ### Dictionaries -/

/-- `d[key(x)] = x` on an insertion-ordered dictionary: an existing key keeps its
place. -/
def insertKey (key : α → κ) (d : List α) (x : α) : List α :=
  if key x ∈ d.map key then update key d x else d ++ [x]

/-- The dictionary comprehension `{key(x): x for x in xs}`. -/
def ofList (key : α → κ) (xs : List α) : List α := xs.foldl (insertKey key) []

lemma map_key_insertKey (d : List α) (x : α) :
    (insertKey key d x).map key = if key x ∈ d.map key then d.map key else d.map key ++ [key x] := by
  rw [insertKey]
  split
  · exact map_update key fun _ _ h => h
  · simp

lemma nodup_insertKey {d : List α} (h : (d.map key).Nodup) (x : α) :
    ((insertKey key d x).map key).Nodup := by
  rw [map_key_insertKey]
  split
  · exact h
  · rename_i hx
    exact List.Nodup.append h (List.nodup_singleton _) (by simpa using hx)

lemma mem_of_mem_insertKey {d : List α} {x r : α} (h : r ∈ insertKey key d x) : r = x ∨ r ∈ d := by
  rw [insertKey] at h
  split at h
  · rcases mem_update.mp h with ⟨rfl, -⟩ | ⟨h, -⟩
    · exact Or.inl rfl
    · exact Or.inr h
  · simpa [or_comm] using h

/-- On distinct keys a dictionary has the rows it was built from, in order. -/
theorem ofList_eq_self {xs : List α} (h : (xs.map key).Nodup) : ofList key xs = xs := by
  have haux : ∀ (ys d : List α), ((d ++ ys).map key).Nodup →
      ys.foldl (insertKey key) d = d ++ ys := by
    intro ys
    induction ys with
    | nil => intro d _; simp
    | cons y ys ih =>
        intro d hd
        have hy : key y ∉ d.map key := by
          rw [List.map_append, List.map_cons] at hd
          exact fun hm => (List.disjoint_of_nodup_append hd hm) (by simp)
        rw [List.foldl_cons, insertKey, if_neg hy, ih (d ++ [y]) (by simpa using hd)]
        simp
  simpa [ofList] using haux xs [] (by simpa using h)

lemma foldl_insertKey_sound {xs : List α} : ∀ {d : List α} {r : α},
    r ∈ xs.foldl (insertKey key) d → r ∈ d ∨ r ∈ xs := by
  induction xs with
  | nil => intro d r h; exact Or.inl h
  | cons x xs ih =>
      intro d r h
      rcases ih h with h | h
      · rcases mem_of_mem_insertKey h with rfl | h
        · exact Or.inr (by simp)
        · exact Or.inl h
      · exact Or.inr (by simp [h])

/-- A dictionary has no other rows than the ones it was built from. -/
lemma mem_of_mem_ofList {xs : List α} {r : α} (h : r ∈ ofList key xs) : r ∈ xs := by
  simpa using foldl_insertKey_sound h

/-- A dictionary is no longer than the list it was built from. -/
lemma length_ofList_le (xs : List α) : (ofList key xs).length ≤ xs.length := by
  have haux : ∀ (ys d : List α), (ys.foldl (insertKey key) d).length ≤ d.length + ys.length := by
    intro ys
    induction ys with
    | nil => exact fun d => Nat.le_refl _
    | cons y ys ih =>
        intro d
        have hstep : (insertKey key d y).length ≤ d.length + 1 := by
          rw [insertKey]
          split
          · rw [update, List.length_map]
            omega
          · simp
        have hrest := ih (insertKey key d y)
        rw [List.foldl_cons, List.length_cons]
        omega
  simpa [ofList] using haux xs []

/-- The keys of a dictionary are distinct. -/
lemma nodup_ofList (xs : List α) : ((ofList key xs).map key).Nodup := by
  have haux : ∀ (ys d : List α), (d.map key).Nodup → ((ys.foldl (insertKey key) d).map key).Nodup := by
    intro ys
    induction ys with
    | nil => exact fun _ h => h
    | cons y ys ih => exact fun d h => ih _ (nodup_insertKey h y)
  exact haux xs [] List.nodup_nil

/-- The keys of a dictionary are the keys of the rows it was built from. -/
lemma mem_keys_ofList {xs : List α} {k : κ} : k ∈ (ofList key xs).map key ↔ k ∈ xs.map key := by
  have haux : ∀ (ys d : List α),
      k ∈ (ys.foldl (insertKey key) d).map key ↔ k ∈ d.map key ∨ k ∈ ys.map key := by
    intro ys
    induction ys with
    | nil => intro d; simp
    | cons y ys ih =>
        intro d
        rw [List.foldl_cons, ih, map_key_insertKey]
        split
        · rename_i hy
          rw [List.map_cons, List.mem_cons]
          constructor
          · rintro (h | h)
            · exact Or.inl h
            · exact Or.inr (Or.inr h)
          · rintro (h | rfl | h)
            · exact Or.inl h
            · exact Or.inl hy
            · exact Or.inr h
        · simp [or_assoc]
  simpa [ofList] using haux xs []

/-- Looking up after an insertion finds the inserted row under its key. -/
lemma lookup_insertKey {d : List α} {x : α} {k : κ} :
    lookup key (insertKey key d x) k = if key x = k then some x else lookup key d k := by
  rw [insertKey]
  split
  · rename_i hx
    rw [lookup_update]
    by_cases hk : key x = k
    · cases hl : lookup key d k with
      | some r => simp [hk]
      | none =>
          obtain ⟨r, hr, hrk⟩ := List.mem_map.mp hx
          exact absurd (hrk.trans hk) (lookup_eq_none_iff.mp hl r hr)
    · simp [hk]
  · rename_i hx
    by_cases hk : key x = k
    · have hnone : lookup key d k = none :=
        lookup_eq_none_iff.mpr fun r hr hrk => hx (hk ▸ hrk ▸ List.mem_map_of_mem hr)
      rw [lookup] at hnone ⊢
      simp [List.find?_append, hnone, hk]
    · simp [lookup, List.find?_append, hk]

/-- A dictionary comprehension holds the last row of each key. -/
theorem lookup_ofList {xs : List α} {k : κ} :
    lookup key (ofList key xs) k = (xs.filter fun x => key x = k).getLast? := by
  have haux : ∀ (ys d : List α), lookup key (ys.foldl (insertKey key) d) k =
      ((ys.filter fun x => key x = k).getLast?).or (lookup key d k) := by
    intro ys
    induction ys with
    | nil => intro d; rfl
    | cons y ys ih =>
        intro d
        rw [List.foldl_cons, ih, lookup_insertKey]
        by_cases hk : key y = k
        · cases hl : (ys.filter fun x => key x = k).getLast? <;>
            simp [hk, hl, List.getLast?_cons]
        · simp [hk]
  rw [ofList, haux]
  simp [lookup]

end Keyed

end AuthzKit
