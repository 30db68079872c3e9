import Mathlib.Logic.Basic
import Mathlib.Tactic.Lemma

/-!
How a computation that may raise ends: preconditions for `Except`.

* `Ends Q P x`: `x` returns a value with `Q` or raises an exception with `P`.
* `ends_bind`, `ends_map`, `ends_mapError`: the rules for a computation made of others; each is an
  equivalence, so that what they come to is the weakest precondition.
* `ends_iff`: the exceptions and the returned values apart; `bind_eq_ok_iff` and
  `mapError_eq_ok_iff` for the returned values alone.
* `Ends.congr_ok`: the postcondition may use that the value is returned.
-/

namespace AuthzKit

universe u v

variable {ε ε' : Type v} {α β : Type u}

/-- The computation returns a value with `Q`, or raises an exception with `P`. -/
def Ends (Q : α → Prop) (P : ε → Prop) : Except ε α → Prop
  | .ok a => Q a
  | .error e => P e

variable {Q Q' : α → Prop} {P : ε → Prop} {x : Except ε α}

@[simp] lemma ends_ok {a : α} : Ends Q P (.ok a) ↔ Q a := Iff.rfl

@[simp] lemma ends_error {e : ε} : Ends Q P (.error e) ↔ P e := Iff.rfl

/-- One computation after another. -/
lemma ends_bind {Q : β → Prop} {f : α → Except ε β} :
    Ends Q P (x >>= f) ↔ Ends (fun a => Ends Q P (f a)) P x := by
  cases x with
  | ok a => rfl
  | error e => rfl

lemma ends_map {Q : β → Prop} {f : α → β} : Ends Q P (x.map f) ↔ Ends (fun a => Q (f a)) P x := by
  cases x with
  | ok a => rfl
  | error e => rfl

/-- Exceptions that are raised as other ones. -/
lemma ends_mapError {P : ε' → Prop} {f : ε → ε'} :
    Ends Q P (x.mapError f) ↔ Ends Q (fun e => P (f e)) x := by
  cases x with
  | ok a => rfl
  | error e => rfl

/-- A sequence returns exactly when both of its parts do. -/
lemma bind_eq_ok_iff {f : α → Except ε β} {b : β} :
    (x >>= f) = .ok b ↔ ∃ a, x = .ok a ∧ f a = .ok b := by
  cases x with
  | ok a =>
      refine ⟨fun h => ⟨a, rfl, h⟩, ?_⟩
      rintro ⟨a', ha, h⟩
      cases ha
      exact h
  | error e => exact ⟨fun h => (nomatch h), fun ⟨_, h, _⟩ => nomatch h⟩

lemma mapError_ok {f : ε → ε'} {a : α} : (Except.ok a).mapError f = .ok a := rfl

lemma mapError_error {f : ε → ε'} {e : ε} :
    (Except.error e : Except ε α).mapError f = .error (f e) := rfl

lemma mapError_eq_ok_iff {f : ε → ε'} {a : α} : x.mapError f = .ok a ↔ x = .ok a := by
  cases x with
  | ok a' => rw [mapError_ok, Except.ok.injEq, Except.ok.injEq]
  | error e =>
      rw [mapError_error]
      constructor <;> intro h <;> cases h

/-- The exceptions and the returned values apart. -/
lemma ends_iff : Ends Q P x ↔ Ends (fun _ => True) P x ∧ ∀ a, x = .ok a → Q a := by
  cases x with
  | ok a => simp
  | error e => simp

/-- What holds of the returned value may be used. -/
lemma Ends.congr_ok (h : ∀ a, x = .ok a → (Q a ↔ Q' a)) : Ends Q P x ↔ Ends Q' P x := by
  cases x with
  | ok a => exact h a rfl
  | error e => exact Iff.rfl

/-- No exception is allowed. -/
lemma ends_false_iff : Ends Q (fun _ => False) x ↔ ∃ a, x = .ok a ∧ Q a := by
  cases x with
  | ok a =>
      refine ⟨fun h => ⟨a, rfl, h⟩, ?_⟩
      rintro ⟨b, hb, h⟩
      cases hb
      exact h
  | error e => exact ⟨False.elim, fun h => nomatch h⟩

/-- Every exception is allowed. -/
lemma ends_true_iff : Ends Q (fun _ => True) x ↔ ∀ a, x = .ok a → Q a := by
  cases x with
  | ok a =>
      refine ⟨fun h b hb => ?_, fun h => h a rfl⟩
      cases hb
      exact h
  | error e => exact iff_of_true trivial fun a ha => nomatch ha

end AuthzKit
