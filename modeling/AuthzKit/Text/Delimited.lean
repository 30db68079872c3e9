import Mathlib.Tactic

/-!
Texts put together with markers between them, and when that can be undone.

* `Unbordered`: a marker whose first letter does not occur in it again, so that it cannot
  overlap itself.
* `Continues`: of two pairs of texts, the second continues the first text of the first pair
  across a marker into its second text.
* `append_marker_eq_iff`: two pairs joined by an unbordered marker give the same text exactly
  when they are equal or one continues the other.
* `join_inj`: a letter joins texts in one way where the first ones do not have it.
-/

namespace AuthzKit

namespace Delimited

variable {α : Type*}

/-- A marker that cannot overlap itself. -/
def Unbordered (m : List α) : Prop := ∃ d r, m = d :: r ∧ d ∉ r

/-- `x'` goes on after `x` with a marker, and `a` is what is between the two markers, and
what follows. -/
def Continues (m x a x' a' : List α) : Prop := ∃ w, x' = x ++ m ++ w ∧ a = w ++ m ++ a'

lemma Continues.append_eq {m x a x' a' : List α} (h : Continues m x a x' a') :
    x ++ m ++ a = x' ++ m ++ a' := by
  obtain ⟨w, rfl, rfl⟩ := h
  simp only [List.append_assoc]

/-- A second text that begins behind a marker begins behind all of it. -/
lemma marker_of_append_eq {m u a a' : List α} (hm : Unbordered m) (hu : u ≠ [])
    (h : m ++ a = u ++ (m ++ a')) : ∃ w, u = m ++ w ∧ a = w ++ m ++ a' := by
  rcases List.append_eq_append_iff.mp h with ⟨w, rfl, rfl⟩ | ⟨v, hm', hv⟩
  · exact ⟨w, rfl, (List.append_assoc _ _ _).symm⟩
  · obtain ⟨d, r, rfl, hd⟩ := hm
    cases v with
    | nil =>
        rw [List.append_nil] at hm'
        exact ⟨[], by rw [hm', List.append_nil], by simpa using hv.symm⟩
    | cons c v =>
        -- the rest of the marker would begin with its first letter
        obtain rfl : d = c := by simpa using congrArg List.head? hv
        cases u with
        | nil => exact absurd rfl hu
        | cons b u =>
            rw [List.cons_append, List.cons.injEq] at hm'
            exact absurd (hm'.2 ▸ List.mem_append_right u List.mem_cons_self) hd

/-- **When two joined pairs are the same text.** -/
theorem append_marker_eq_iff {m x a x' a' : List α} (hm : Unbordered m) :
    x ++ m ++ a = x' ++ m ++ a' ↔
      (x = x' ∧ a = a') ∨ Continues m x a x' a' ∨ Continues m x' a' x a := by
  constructor
  · intro h
    rw [List.append_assoc, List.append_assoc] at h
    rcases List.append_eq_append_iff.mp h with ⟨u, rfl, hu⟩ | ⟨u, rfl, hu⟩
    · by_cases hnil : u = []
      · subst hnil
        exact Or.inl ⟨(List.append_nil x).symm, List.append_cancel_left hu⟩
      · obtain ⟨w, rfl, ha⟩ := marker_of_append_eq hm hnil hu
        exact Or.inr (Or.inl ⟨w, (List.append_assoc _ _ _).symm, ha⟩)
    · by_cases hnil : u = []
      · subst hnil
        exact Or.inl ⟨List.append_nil x', (List.append_cancel_left hu).symm⟩
      · obtain ⟨w, rfl, ha⟩ := marker_of_append_eq hm hnil hu
        exact Or.inr (Or.inr ⟨w, (List.append_assoc _ _ _).symm, ha⟩)
  · rintro (⟨rfl, rfl⟩ | h | h)
    · rfl
    · exact h.append_eq
    · exact h.append_eq.symm

/-- Texts joined by a letter can be taken apart at it where the first ones do not have it. -/
theorem join_inj {letter : α} {x a x' a' : List α} (hx : letter ∉ x) (hx' : letter ∉ x')
    (h : x ++ letter :: a = x' ++ letter :: a') : x = x' ∧ a = a' := by
  have hunbordered : Unbordered [letter] := ⟨letter, [], rfl, List.not_mem_nil⟩
  have hletter : ∀ {x a x' a' : List α}, Continues [letter] x a x' a' → letter ∈ x' := by
    rintro x a x' a' ⟨w, rfl, -⟩
    simp
  rw [List.append_cons, List.append_cons x', append_marker_eq_iff hunbordered] at h
  rcases h with h | h | h
  · exact h
  · exact absurd (hletter h) hx'
  · exact absurd (hletter h) hx

end Delimited

/-! ### Strings -/

namespace Delimited

/-- The same for strings. -/
def StringContinues (m x a x' a' : String) : Prop := ∃ w, x' = x ++ m ++ w ∧ a = w ++ m ++ a'

lemma stringContinues_iff {m x a x' a' : String} :
    StringContinues m x a x' a' ↔
      Continues m.toList x.toList a.toList x'.toList a'.toList := by
  constructor
  · rintro ⟨w, rfl, rfl⟩
    exact ⟨w.toList, by simp only [String.toList_append], by simp only [String.toList_append]⟩
  · rintro ⟨w, hx, ha⟩
    refine ⟨String.ofList w, String.toList_inj.mp ?_, String.toList_inj.mp ?_⟩
    · simp only [String.toList_append, String.toList_ofList, hx]
    · simp only [String.toList_append, String.toList_ofList, ha]

/-- A text that goes on behind a marker is another text. -/
lemma StringContinues.ne {m x a x' a' : String} (h : StringContinues m x a x' a') (hm : m ≠ "") :
    x ≠ x' := by
  obtain ⟨w, rfl, -⟩ := h
  intro heq
  have hlength := congrArg String.length heq
  rw [String.length_append, String.length_append] at hlength
  exact hm (String.length_eq_zero_iff.mp (by omega))

/-- When two joined pairs of strings are the same string. -/
theorem string_append_marker_eq_iff {m x a x' a' : String} (hm : Unbordered m.toList) :
    x ++ m ++ a = x' ++ m ++ a' ↔
      (x = x' ∧ a = a') ∨ StringContinues m x a x' a' ∨ StringContinues m x' a' x a := by
  have h := @append_marker_eq_iff _ m.toList x.toList a.toList x'.toList a'.toList hm
  simp only [← String.toList_append, String.toList_inj] at h
  rw [h, stringContinues_iff, stringContinues_iff]

/-- Strings joined by a letter can be taken apart at it where the first ones do not have it. -/
theorem string_join_inj {letter : Char} {m x a x' a' : String} (hm : m.toList = [letter])
    (hx : letter ∉ x.toList) (hx' : letter ∉ x'.toList) (h : x ++ (m ++ a) = x' ++ (m ++ a')) :
    x = x' ∧ a = a' := by
  have hletters := congrArg String.toList h
  simp only [String.toList_append, hm, List.singleton_append] at hletters
  obtain ⟨hsame, hrest⟩ := join_inj hx hx' hletters
  exact ⟨String.toList_inj.mp hsame, String.toList_inj.mp hrest⟩

end Delimited

end AuthzKit
