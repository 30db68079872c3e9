import AuthzKit.Relational.Keyed

/-!
Insertion-ordered dictionaries used as caches: entries are taken out, moved to the end, and popped
from the front while there are too many.
-/

namespace AuthzKit

namespace Caching

variable {κ ν : Type*} [DecidableEq κ] {entries : List (κ × ν)} {k : κ} {e : κ × ν}

/-- The dictionary without a key. -/
def without (entries : List (κ × ν)) (k : κ) : List (κ × ν) := entries.filter (·.1 ≠ k)

/-- The entry of a key, moved to the end. -/
def moveToEnd (entries : List (κ × ν)) (k : κ) : List (κ × ν) :=
  match Keyed.lookup Prod.fst entries k with
  | some e => without entries k ++ [e]
  | none => entries

/-- The first entries popped while there are too many. -/
def popFirst (tooMany : ℕ → Prop) [DecidablePred tooMany] : List (κ × ν) → List (κ × ν)
  | [] => []
  | e :: rest => if tooMany (rest.length + 1) then popFirst tooMany rest else e :: rest

lemma mem_without : e ∈ without entries k ↔ e ∈ entries ∧ e.1 ≠ k := by
  rw [without, List.mem_filter, decide_eq_true_eq]

lemma mem_of_mem_moveToEnd (h : e ∈ moveToEnd entries k) : e ∈ entries := by
  rw [moveToEnd] at h
  cases hlookup : Keyed.lookup Prod.fst entries k with
  | none =>
      rw [hlookup] at h
      exact h
  | some found =>
      rw [hlookup] at h
      rcases List.mem_append.mp h with h | h
      · exact (mem_without.mp h).1
      · rw [List.mem_singleton.mp h]
        exact Keyed.mem_of_lookup hlookup

omit [DecidableEq κ] in
lemma mem_of_mem_popFirst {tooMany : ℕ → Prop} [DecidablePred tooMany] :
    ∀ {entries : List (κ × ν)}, e ∈ popFirst tooMany entries → e ∈ entries
  | first :: rest, h => by
      rw [popFirst] at h
      split_ifs at h
      · exact List.mem_cons_of_mem first (mem_of_mem_popFirst h)
      · exact h

omit [DecidableEq κ] in
lemma popFirst_eq_nil {tooMany : ℕ → Prop} [DecidablePred tooMany] (h : ∀ n, tooMany (n + 1)) :
    ∀ entries : List (κ × ν), popFirst tooMany entries = []
  | [] => rfl
  | _ :: rest => by rw [popFirst, if_pos (h rest.length), popFirst_eq_nil h rest]

/-- A stored entry is new or was there under another key. -/
lemma mem_insertKey {v : ν} (h : e ∈ Keyed.insertKey Prod.fst entries (k, v)) :
    e = (k, v) ∨ e ∈ entries ∧ e.1 ≠ k := by
  rw [Keyed.insertKey] at h
  split_ifs at h with hmem
  · rcases Keyed.mem_update.mp h with ⟨rfl, -⟩ | ⟨h, hne⟩
    · exact Or.inl rfl
    · exact Or.inr ⟨h, hne⟩
  · rcases List.mem_append.mp h with h | h
    · exact Or.inr ⟨h, fun hk => hmem (List.mem_map.mpr ⟨e, h, hk⟩)⟩
    · exact Or.inl (List.mem_singleton.mp h)

end Caching

end AuthzKit
