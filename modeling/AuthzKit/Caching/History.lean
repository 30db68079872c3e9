import Mathlib.Tactic

/-!
Caches over their history, whatever they hold and however they evict.

* `timeline`: the states of a run of a step function, moment by moment.
* `Lifetimes`: what a cache holds at each moment and what each step stores.
  `Lifetimes.since_stored`: an entry has been there since the last step that stored its key.
* `Answers`: the entries are answers to earlier requests; `Answers.eq_answer` is what a key that
  tells the requests apart is good for.
* `Recency`: keys in a list that each step of a use takes to its end. `Recency.pairwise`: the list
  is in the order of the last use, so its head is the least recently used key.
-/

namespace AuthzKit

namespace Caching

/-! ### Timelines -/

section Timeline

variable {σ ε : Type*} (act : σ → ε → σ) (start : σ) (events : ℕ → ε)

/-- The state at a moment: after the events before it. -/
def timeline : ℕ → σ
  | 0 => start
  | i + 1 => act (timeline i) (events i)

variable {act start events}

@[simp] lemma timeline_zero : timeline act start events 0 = start := rfl

lemma timeline_succ (i : ℕ) :
    timeline act start events (i + 1) = act (timeline act start events i) (events i) := rfl

/-- What holds at the start and is kept by each step holds at every moment. -/
theorem timeline_invariant {P : σ → Prop} (hstart : P start)
    (hact : ∀ i s, P s → P (act s (events i))) (i : ℕ) : P (timeline act start events i) := by
  induction i with
  | zero => exact hstart
  | succ i ih => exact hact i _ ih

end Timeline

/-! ### Lifetimes of entries -/

/-- The entries of a cache at each moment and what each step stores: a cache that starts empty and
has no entries but stored ones, a new entry replacing the old one of its key. -/
structure Lifetimes (κ ν : Type*) where
  entries : ℕ → Set (κ × ν)
  stored : ℕ → Option (κ × ν)
  start : entries 0 = ∅
  next : ∀ i e, e ∈ entries (i + 1) →
    stored i = some e ∨ e ∈ entries i ∧ ∀ v, stored i ≠ some (e.1, v)

namespace Lifetimes

variable {κ ν : Type*} (L : Lifetimes κ ν)

/-- The step that stored an entry, none of its key having been stored since. -/
structure StoredAt (i j : ℕ) (e : κ × ν) : Prop where
  lt : j < i
  stored : L.stored j = some e
  last : ∀ m, j < m → m < i → ∀ v, L.stored m ≠ some (e.1, v)
  since : ∀ m, j < m → m ≤ i → e ∈ L.entries m

/-- **An entry was stored**, and has been there since. -/
theorem since_stored {i : ℕ} {e : κ × ν} (h : e ∈ L.entries i) : ∃ j, L.StoredAt i j e := by
  induction i with
  | zero =>
      rw [L.start] at h
      exact absurd h (Set.notMem_empty e)
  | succ i ih =>
      rcases L.next i e h with hstored | ⟨hkept, hnone⟩
      · refine ⟨i, Nat.lt_succ_self i, hstored, fun m hm hm' => ?_, fun m hm hm' => ?_⟩
        · exact absurd hm' (not_lt.mpr (Nat.succ_le_of_lt hm))
        · obtain rfl : m = i + 1 := le_antisymm hm' hm
          exact h
      · obtain ⟨j, hlt, hstored, hlast, hsince⟩ := ih hkept
        refine ⟨j, Nat.lt_succ_of_lt hlt, hstored, fun m hm hm' => ?_, fun m hm hm' => ?_⟩
        · rcases Nat.lt_or_ge m i with hlt' | hge
          · exact hlast m hm hlt'
          · obtain rfl : m = i := le_antisymm (Nat.le_of_lt_succ hm') hge
            exact hnone
        · rcases Nat.lt_or_ge m (i + 1) with hlt' | hge
          · exact hsince m hm (Nat.le_of_lt_succ hlt')
          · obtain rfl : m = i + 1 := le_antisymm hm' hge
            exact h

end Lifetimes

/-! ### Remembered answers -/

section Memo

variable {ρ κ ν α ω : Type*} {key : ρ → κ} {wire : ρ → ω} {answer : ω → α} {value : ν → α}
  {Q : Set ρ} {entries entries' : List (κ × ν)}

/-- Requests with one key are one request for the server. -/
def Separates (key : ρ → κ) (wire : ρ → ω) (Q : Set ρ) : Prop :=
  ∀ r ∈ Q, ∀ r' ∈ Q, key r = key r' → wire r = wire r'

/-- Each entry is the answer to a request that has its key. -/
def Answers (key : ρ → κ) (wire : ρ → ω) (answer : ω → α) (value : ν → α) (Q : Set ρ)
    (entries : List (κ × ν)) : Prop :=
  ∀ e ∈ entries, ∃ r ∈ Q, key r = e.1 ∧ value e.2 = answer (wire r)

lemma Answers.nil : Answers key wire answer value Q [] := fun _ he => absurd he List.not_mem_nil

/-- Entries that were there or are the answer to a request. -/
lemma Answers.next (h : Answers key wire answer value Q entries) {r : ρ} (hr : r ∈ Q)
    (hnext : ∀ e ∈ entries', e ∈ entries ∨ e.1 = key r ∧ value e.2 = answer (wire r)) :
    Answers key wire answer value Q entries' := by
  intro e he
  rcases hnext e he with hkept | ⟨hkey, hvalue⟩
  · exact h e hkept
  · exact ⟨r, hr, hkey.symm, hvalue⟩

lemma Answers.subset (h : Answers key wire answer value Q entries)
    (hsubset : ∀ e ∈ entries', e ∈ entries) : Answers key wire answer value Q entries' :=
  fun e he => h e (hsubset e he)

/-- **A remembered answer is the answer**, where keys tell the requests apart. -/
theorem Answers.eq_answer (h : Answers key wire answer value Q entries)
    (hseparates : Separates key wire Q) {r : ρ} (hr : r ∈ Q) {v : ν} (hv : (key r, v) ∈ entries) :
    value v = answer (wire r) := by
  obtain ⟨r', hr', hkey, hvalue⟩ := h _ hv
  rw [hvalue, hseparates r' hr' r hr hkey]

end Memo

/-! ### The order of use -/

/-- Before moment `i` the key `b` was used after the last use of `a`. -/
def UsedSince {κ : Type*} (used : ℕ → Option κ) (i : ℕ) (a b : κ) : Prop :=
  ∃ j < i, used j = some b ∧ ∀ m, j ≤ m → m < i → used m ≠ some a

/-- A list of keys that a use takes to its end and that otherwise only loses keys. -/
structure Recency (κ : Type*) where
  keys : ℕ → List κ
  used : ℕ → Option κ
  start : keys 0 = []
  unused : ∀ i, used i = none → (keys (i + 1)).Sublist (keys i)
  use : ∀ i k, used i = some k →
    ∃ others : List κ, others.Sublist (keys i) ∧ k ∉ others ∧ keys (i + 1) = others ++ [k]

namespace Recency

variable {κ : Type*} (R : Recency κ)

/-- **The list is in the order of the last use.** -/
theorem pairwise (i : ℕ) : (R.keys i).Pairwise (UsedSince R.used i) := by
  induction i with
  | zero =>
      rw [R.start]
      exact List.Pairwise.nil
  | succ i ih =>
      have hlater : ∀ {a b : κ}, R.used i ≠ some a → UsedSince R.used i a b →
          UsedSince R.used (i + 1) a b := by
        rintro a b hnot ⟨j, hlt, hused, hnone⟩
        refine ⟨j, Nat.lt_succ_of_lt hlt, hused, fun m hm hm' => ?_⟩
        rcases Nat.lt_or_ge m i with hlt' | hge
        · exact hnone m hm hlt'
        · obtain rfl : m = i := le_antisymm (Nat.le_of_lt_succ hm') hge
          exact hnot
      cases hused : R.used i with
      | none =>
          refine (ih.sublist (R.unused i hused)).imp fun {a b} h => ?_
          exact hlater (by rw [hused]; exact nofun) h
      | some k =>
          obtain ⟨others, hsublist, hnotMem, hkeys⟩ := R.use i k hused
          rw [hkeys, List.pairwise_append]
          have hother : ∀ a ∈ others, R.used i ≠ some a := by
            intro a ha h
            rw [hused] at h
            exact hnotMem (Option.some.inj h ▸ ha)
          refine ⟨?_, List.pairwise_singleton _ _, fun a ha b hb => ?_⟩
          · exact (ih.sublist hsublist).imp_of_mem fun {a b} ha _ h => hlater (hother a ha) h
          · obtain rfl := List.mem_singleton.mp hb
            refine ⟨i, Nat.lt_succ_self i, hused, fun m hm hm' => ?_⟩
            obtain rfl : m = i := le_antisymm (Nat.le_of_lt_succ hm') hm
            exact hother a ha

end Recency

end Caching

end AuthzKit
