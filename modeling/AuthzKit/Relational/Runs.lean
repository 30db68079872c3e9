import Mathlib.Tactic

/-!
Transition systems and their runs.

* `Machine`: initial states and labelled steps; `Machine.Reachable`.
* `Reachable.invariant`: a predicate of the initial states that every step from
  a reachable state keeps holds of every reachable state.
* `Machine.restrict`: the runs all of whose steps meet a condition.
* `Machine.Trace`: a run with all its states; `Trace.null_between` and
  `Trace.one_holder` are about a value that changes only through null.
-/

namespace AuthzKit

/-- A transition system with states `σ` and step labels `ι`. -/
structure Machine (σ ι : Type*) where
  initial : σ → Prop
  step : σ → ι → σ → Prop

namespace Machine

variable {σ ι : Type*}

/-- The states of the runs of `M`. -/
inductive Reachable (M : Machine σ ι) : σ → Prop where
  | init {s : σ} : M.initial s → Reachable M s
  | step {s s' : σ} {i : ι} : Reachable M s → M.step s i s' → Reachable M s'

variable {M : Machine σ ι}

/-- **The invariant rule**: what holds initially and is kept by each step from a
reachable state that has it holds in every reachable state. -/
theorem Reachable.invariant {P : σ → Prop} (hinit : ∀ s, M.initial s → P s)
    (hstep : ∀ s i s', Reachable M s → P s → M.step s i s' → P s') {s : σ}
    (h : Reachable M s) : P s := by
  induction h with
  | init h => exact hinit _ h
  | step hs hstep' ih => exact hstep _ _ _ hs ih hstep'

/-- The run of a step function through a list of labels. -/
theorem Reachable.foldl {act : σ → ι → σ} {labels : List ι}
    (hact : ∀ s, ∀ i ∈ labels, M.step s i (act s i)) {s : σ} (h : M.Reachable s) :
    M.Reachable (labels.foldl act s) := by
  induction labels generalizing s with
  | nil => exact h
  | cons i labels ih =>
      exact ih (fun s j hj => hact s j (List.mem_cons_of_mem _ hj))
        (h.step (hact s i List.mem_cons_self))

/-! ### Restricted runs -/

/-- The runs of `M` all of whose steps meet a condition. -/
def restrict (M : Machine σ ι) (C : σ → ι → Prop) : Machine σ ι where
  initial := M.initial
  step := fun s i s' => M.step s i s' ∧ C s i

/-- The states of restricted runs are reachable. -/
lemma Reachable.of_restrict {C : σ → ι → Prop} {s : σ} (h : (M.restrict C).Reachable s) :
    M.Reachable s := by
  induction h with
  | init h => exact .init h
  | step _ hstep ih => exact .step ih hstep.1

/-- A condition that every step meets is no restriction. -/
lemma Reachable.restrict {C : σ → ι → Prop} (hall : ∀ s i, C s i) {s : σ} (h : M.Reachable s) :
    (M.restrict C).Reachable s := by
  induction h with
  | init h => exact .init h
  | step _ hstep ih => exact .step ih ⟨hstep, hall _ _⟩

/-! ### Traces -/

/-- The states of a run of `n` steps. -/
structure Trace (M : Machine σ ι) (states : ℕ → σ) (n : ℕ) : Prop where
  initial : M.initial (states 0)
  step : ∀ k < n, ∃ i, M.step (states k) i (states (k + 1))

namespace Trace

variable {states : ℕ → σ} {n : ℕ}

/-- Each state of a trace is reachable. -/
lemma reachable (h : M.Trace states n) {k : ℕ} (hk : k ≤ n) : M.Reachable (states k) := by
  induction k with
  | zero => exact .init h.initial
  | succ k ih =>
      obtain ⟨i, hi⟩ := h.step k (by omega)
      exact .step (ih (by omega)) hi

/-- A trace under a condition is one under a weaker condition. -/
lemma weaken {C C' : σ → ι → Prop} (hweaker : ∀ s i, C s i → C' s i)
    (h : (M.restrict C).Trace states n) : (M.restrict C').Trace states n := by
  refine ⟨h.initial, fun k hk => ?_⟩
  obtain ⟨i, hstep, hcondition⟩ := h.step k hk
  exact ⟨i, hstep, hweaker _ _ hcondition⟩

/-- What holds at one moment and is kept by each step holds from then on. -/
theorem from_moment (h : M.Trace states n) {P : ℕ → σ → Prop} {a : ℕ} (ha : P a (states a))
    (hstep : ∀ k i, a ≤ k → k < n → P k (states k) → M.step (states k) i (states (k + 1)) →
      P (k + 1) (states (k + 1))) {b : ℕ} (hab : a ≤ b) (hb : b ≤ n) : P b (states b) := by
  induction b, hab using Nat.le_induction with
  | base => exact ha
  | succ k hak ih =>
      obtain ⟨i, hi⟩ := h.step k (by omega)
      exact hstep k i hak (by omega) (ih (by omega)) hi

variable {β : Type*} (value : σ → Option β)

/-- A value that no step replaces directly is null between two different ones. -/
theorem null_between (h : M.Trace states n)
    (hstep : ∀ s i s' a b, M.Reachable s → M.step s i s' → value s = some a →
      value s' = some b → a = b)
    {i j : ℕ} (hij : i ≤ j) (hj : j ≤ n) {a b : β} (ha : value (states i) = some a)
    (hb : value (states j) = some b) (hne : a ≠ b) :
    ∃ k, i < k ∧ k < j ∧ value (states k) = none := by
  by_contra hnone
  push Not at hnone
  have hkept : ∀ k, i ≤ k → k ≤ j → value (states k) = some a := by
    intro k hik
    induction k, hik using Nat.le_induction with
    | base => exact fun _ => ha
    | succ k hik ih =>
        intro hkj
        have hk : value (states k) = some a := ih (by omega)
        obtain ⟨e, he⟩ := h.step k (by omega)
        cases hv : value (states (k + 1)) with
        | some c => rw [hstep _ e _ a c (h.reachable (by omega)) he hk hv]
        | none =>
            rcases Nat.lt_or_ge (k + 1) j with hlt | hge
            · exact absurd hv (hnone (k + 1) (by omega) hlt)
            · obtain rfl : k + 1 = j := by omega
              rw [hb] at hv
              cases hv
  exact hne (Option.some.inj ((hkept j hij le_rfl).symm.trans hb))

/-- Between two consecutive moments at which it is null there is at most one value. -/
theorem one_holder (h : M.Trace states n)
    (hstep : ∀ s i s' a b, M.Reachable s → M.step s i s' → value s = some a →
      value s' = some b → a = b)
    {i j : ℕ} (hj : j ≤ n) (hheld : ∀ k, i < k → k < j → value (states k) ≠ none) :
    ∀ k l a b, i < k → k < j → i < l → l < j → value (states k) = some a →
      value (states l) = some b → a = b := by
  have hforward : ∀ k l a b, i < k → k ≤ l → l < j → value (states k) = some a →
      value (states l) = some b → a = b := by
    intro k l a b hik hkl hlj ha hb
    by_contra hne
    obtain ⟨m, hkm, hml, hnull⟩ := h.null_between value hstep hkl (by omega) ha hb hne
    exact hheld m (by omega) (by omega) hnull
  intro k l a b hik hkj hil hlj ha hb
  rcases Nat.le_total k l with hkl | hlk
  · exact hforward k l a b hik hkl hlj ha hb
  · exact (hforward l k b a hil hlk hkj hb ha).symm

end Trace

end Machine

end AuthzKit
