import AuthzKit.Relational.Runs

/-!
Processes that share a state and take turns.

* `Interleaving`: what a process does next to the shared state, as one atomic step;
  `Interleaving.machine` is the machine of all schedules, with processes arriving at
  any time.
* `Reachable.process_invariant`: what a new process has, its own steps keep and the
  steps of the others do not disturb holds of every process in every reachable state.
* `rely_guarantee`: the same together with an invariant of the shared state.
* `one_owner`: at most one process holds what all of them share.
* `Interleaving.run`: the run of a given schedule; `trace_run` says that it is one.
-/

namespace AuthzKit

/-- Processes `π` over a shared state `σ`; a step reads inputs `δ`. -/
structure Interleaving (σ π δ : Type*) where
  initial : σ → Prop
  /-- How a process starts. -/
  arrives : π → Prop
  /-- The inputs a step may read. -/
  admits : σ → π → δ → Prop
  /-- The next atomic step of a process. -/
  act : σ → π → δ → σ × π

namespace Interleaving

variable {σ π δ : Type*}

/-- The shared state and the processes, in the order of their arrival. -/
@[ext]
structure Config (σ π : Type*) where
  shared : σ
  processes : List π

/-- A process arrives, or the process at a position takes its next step. -/
inductive Event (π δ : Type*) where
  | arrive (p : π)
  | act (i : ℕ) (d : δ)

/-- The configuration after the process `p` at position `i` has taken a step. -/
def after (I : Interleaving σ π δ) (c : Config σ π) (i : ℕ) (p : π) (d : δ) : Config σ π where
  shared := (I.act c.shared p d).1
  processes := c.processes.set i (I.act c.shared p d).2

/-- All schedules. -/
def machine (I : Interleaving σ π δ) : Machine (Config σ π) (Event π δ) where
  initial := fun c => I.initial c.shared ∧ c.processes = []
  step := fun c e c' =>
    match e with
    | .arrive p => I.arrives p ∧ c' = { c with processes := c.processes ++ [p] }
    | .act i d => ∃ p, c.processes[i]? = some p ∧ I.admits c.shared p d ∧ c' = I.after c i p d

variable {I : Interleaving σ π δ} {c c' : Config σ π} {e : Event π δ}

lemma getElem?_after_self {i : ℕ} {p : π} {d : δ} (hp : c.processes[i]? = some p) :
    (I.after c i p d).processes[i]? = some (I.act c.shared p d).2 :=
  List.getElem?_set_self (List.getElem?_eq_some_iff.mp hp).1

lemma getElem?_after_ne {i j : ℕ} {p : π} {d : δ} (hij : i ≠ j) :
    (I.after c i p d).processes[j]? = c.processes[j]? :=
  List.getElem?_set_ne hij

/-- **The processes of all schedules**: what a new process has, its own steps keep and
the steps of the others do not disturb holds of every process, in the runs all of whose
steps meet a condition. -/
theorem process_invariant {C : Config σ π → Event π δ → Prop} {P : σ → π → Prop}
    (harrive : ∀ s p, I.arrives p → P s p)
    (hown : ∀ s p d, P s p → I.admits s p d → P (I.act s p d).1 (I.act s p d).2)
    (hothers : ∀ c i d p q, I.machine.Reachable c → C c (.act i d) → c.processes[i]? = some p →
      q ∈ c.processes → I.admits c.shared p d → P c.shared p → P c.shared q →
        P (I.act c.shared p d).1 q)
    (h : (I.machine.restrict C).Reachable c) : ∀ p ∈ c.processes, P c.shared p := by
  refine h.invariant (P := fun c => ∀ p ∈ c.processes, P c.shared p) ?_ ?_
  · rintro c ⟨-, hnone⟩ p hp
    rw [hnone] at hp
    cases hp
  · rintro c (p | ⟨i, d⟩) c' hreach hc ⟨hstep, hcond⟩
    · obtain ⟨hp, rfl⟩ := hstep
      intro q hq
      rcases List.mem_append.mp hq with hq | hq
      · exact hc q hq
      · obtain rfl := List.mem_singleton.mp hq
        exact harrive _ _ hp
    · obtain ⟨p, hget, hd, rfl⟩ := hstep
      have hp : P c.shared p := hc p (List.mem_of_getElem? hget)
      intro q hq
      rcases List.mem_or_eq_of_mem_set hq with hq | rfl
      · exact hothers c i d p q hreach.of_restrict hcond hget hq hd hp (hc q hq)
      · exact hown _ p d hp hd

/-- **Rely and guarantee**: when a step keeps an invariant of the shared state, what its
process relies on and what every other process relies on, all of it holds in every
reachable state. -/
theorem rely_guarantee {J : σ → Prop} {P : σ → π → Prop} (hinit : ∀ s, I.initial s → J s)
    (harrive : ∀ s p, I.arrives p → P s p)
    (hact : ∀ s p d, J s → P s p → I.admits s p d →
      J (I.act s p d).1 ∧ P (I.act s p d).1 (I.act s p d).2 ∧ ∀ q, P s q → P (I.act s p d).1 q)
    (h : I.machine.Reachable c) : J c.shared ∧ ∀ p ∈ c.processes, P c.shared p := by
  refine h.invariant (P := fun c => J c.shared ∧ ∀ p ∈ c.processes, P c.shared p) ?_ ?_
  · rintro c ⟨hc, hnone⟩
    refine ⟨hinit _ hc, fun p hp => ?_⟩
    rw [hnone] at hp
    cases hp
  · rintro c (p | ⟨i, d⟩) c' - ⟨hJ, hP⟩ hstep
    · obtain ⟨hp, rfl⟩ := hstep
      refine ⟨hJ, fun q hq => ?_⟩
      rcases List.mem_append.mp hq with hq | hq
      · exact hP q hq
      · obtain rfl := List.mem_singleton.mp hq
        exact harrive _ _ hp
    · obtain ⟨p, hget, hd, rfl⟩ := hstep
      obtain ⟨hJ', hown, hothers⟩ := hact _ p d hJ (hP p (List.mem_of_getElem? hget)) hd
      refine ⟨hJ', fun q hq => ?_⟩
      rcases List.mem_or_eq_of_mem_set hq with hq | rfl
      · exact hothers q (hP q hq)
      · exact hown

/-- No process holds, and the shared state is idle; or one process alone holds, and owns. -/
def OneOwner (Holds : π → Prop) (Owns : σ → π → Prop) (Idle : σ → Prop) (c : Config σ π) : Prop :=
  (∀ p ∈ c.processes, ¬Holds p) ∧ Idle c.shared ∨
    ∃ i p, c.processes[i]? = some p ∧ Holds p ∧ Owns c.shared p ∧
      ∀ (j : ℕ) q, c.processes[j]? = some q → Holds q → j = i

/-- **Mutual exclusion**: when a process may begin to hold only from an idle state, the holder
owns what it holds, and nobody else touches that, at most one process holds. -/
theorem one_owner {Holds : π → Prop} {Owns : σ → π → Prop} {Idle : σ → Prop}
    (hinit : ∀ s, I.initial s → Idle s) (harrive : ∀ p, I.arrives p → ¬Holds p)
    (hidle : ∀ c p d, I.machine.Reachable c → p ∈ c.processes → I.admits c.shared p d →
      Idle c.shared → ¬Holds p →
        Holds (I.act c.shared p d).2 ∧ Owns (I.act c.shared p d).1 (I.act c.shared p d).2 ∨
          ¬Holds (I.act c.shared p d).2 ∧ Idle (I.act c.shared p d).1)
    (hother : ∀ c p d q, I.machine.Reachable c → p ∈ c.processes → I.admits c.shared p d →
      ¬Holds p → Holds q → Owns c.shared q →
        ¬Holds (I.act c.shared p d).2 ∧ Owns (I.act c.shared p d).1 q)
    (hown : ∀ c p d, I.machine.Reachable c → p ∈ c.processes → I.admits c.shared p d →
      Holds p → Owns c.shared p →
        Holds (I.act c.shared p d).2 ∧ Owns (I.act c.shared p d).1 (I.act c.shared p d).2 ∨
          ¬Holds (I.act c.shared p d).2 ∧ Idle (I.act c.shared p d).1)
    (h : I.machine.Reachable c) : OneOwner Holds Owns Idle c := by
  refine h.invariant ?_ ?_
  · rintro c ⟨hc, hnone⟩
    refine Or.inl ⟨fun p hp => ?_, hinit _ hc⟩
    rw [hnone] at hp
    cases hp
  · rintro c (p | ⟨i, d⟩) c' hreach hone hstep
    · obtain ⟨hp, rfl⟩ := hstep
      have hnew : ¬Holds p := harrive p hp
      rcases hone with ⟨hnobody, hidle'⟩ | ⟨j, q, hq, hholds, howns, honly⟩
      · refine Or.inl ⟨fun r hr => ?_, hidle'⟩
        rcases List.mem_append.mp hr with hr | hr
        · exact hnobody r hr
        · rw [List.mem_singleton.mp hr]
          exact hnew
      · have hlt : j < c.processes.length := (List.getElem?_eq_some_iff.mp hq).1
        refine Or.inr ⟨j, q, (List.getElem?_append_left hlt).trans hq, hholds, howns,
          fun k r hr hr' => ?_⟩
        rcases Nat.lt_or_ge k c.processes.length with hk | hk
        · exact honly k r ((List.getElem?_append_left hk).symm.trans hr) hr'
        · have hr : (c.processes ++ [p])[k]? = some r := hr
          rw [List.getElem?_append_right hk] at hr
          have hmem : r ∈ [p] := List.mem_of_getElem? hr
          rw [List.mem_singleton.mp hmem] at hr'
          exact absurd hr' hnew
    · obtain ⟨p, hget, hd, rfl⟩ := hstep
      have hp : p ∈ c.processes := List.mem_of_getElem? hget
      have hself : (I.after c i p d).processes[i]? = some (I.act c.shared p d).2 :=
        getElem?_after_self hget
      have hkept : ∀ {k : ℕ}, i ≠ k → (I.after c i p d).processes[k]? = c.processes[k]? :=
        fun hne => getElem?_after_ne hne
      -- after a step of the process at `i` when nobody else holds
      have halone : (∀ (k : ℕ) q, c.processes[k]? = some q → Holds q → k = i) →
          (Holds (I.act c.shared p d).2 ∧ Owns (I.act c.shared p d).1 (I.act c.shared p d).2 ∨
            ¬Holds (I.act c.shared p d).2 ∧ Idle (I.act c.shared p d).1) →
          OneOwner Holds Owns Idle (I.after c i p d) := by
        rintro honly (⟨hholds, howns⟩ | ⟨hfree, hidle'⟩)
        · refine Or.inr ⟨i, _, hself, hholds, howns, fun k q hq hq' => ?_⟩
          by_contra hne
          exact hne (honly k q ((hkept (Ne.symm hne)).symm.trans hq) hq')
        · refine Or.inl ⟨fun q hq hq' => ?_, hidle'⟩
          obtain ⟨k, hk⟩ := List.getElem?_of_mem hq
          by_cases hne : k = i
          · subst hne
            obtain rfl : (I.act c.shared p d).2 = q := Option.some.inj (hself.symm.trans hk)
            exact hfree hq'
          · exact hne (honly k q ((hkept (Ne.symm hne)).symm.trans hk) hq')
      rcases hone with ⟨hnobody, hidle'⟩ | ⟨j, q, hq, hholds, howns, honly⟩
      · exact halone (fun k q hq hq' => absurd hq' (hnobody q (List.mem_of_getElem? hq)))
          (hidle c p d hreach hp hd hidle' (hnobody p hp))
      · by_cases hij : j = i
        · subst hij
          obtain rfl : q = p := Option.some.inj (hq.symm.trans hget)
          exact halone honly (hown c q d hreach hp hd hholds howns)
        · have hfree : ¬Holds p := fun hp' => hij (honly i p hget hp').symm
          obtain ⟨hfree', howns'⟩ := hother c p d q hreach hp hd hfree hholds howns
          refine Or.inr ⟨j, q, (hkept (Ne.symm hij)).trans hq, hholds, howns', fun k r hr hr' => ?_⟩
          by_cases hk : k = i
          · subst hk
            obtain rfl : (I.act c.shared p d).2 = r := Option.some.inj (hself.symm.trans hr)
            exact absurd hr' hfree'
          · exact honly k r ((hkept (Ne.symm hk)).symm.trans hr) hr'

/-- A holder owns what it holds. -/
lemma OneOwner.owns {Holds : π → Prop} {Owns : σ → π → Prop} {Idle : σ → Prop}
    (h : OneOwner Holds Owns Idle c) {p : π} (hp : p ∈ c.processes) (hholds : Holds p) :
    Owns c.shared p := by
  rcases h with ⟨hnobody, -⟩ | ⟨i, q, hq, -, howns, honly⟩
  · exact absurd hholds (hnobody p hp)
  · obtain ⟨k, hk⟩ := List.getElem?_of_mem hp
    obtain rfl := honly k p hk hholds
    obtain rfl : p = q := Option.some.inj (hk.symm.trans hq)
    exact howns

/-- Two holders are one. -/
lemma OneOwner.unique {Holds : π → Prop} {Owns : σ → π → Prop} {Idle : σ → Prop}
    (h : OneOwner Holds Owns Idle c) {i j : ℕ} {p q : π} (hp : c.processes[i]? = some p)
    (hq : c.processes[j]? = some q) (hholds : Holds p) (hholds' : Holds q) : i = j := by
  rcases h with ⟨hnobody, -⟩ | ⟨k, r, -, -, -, honly⟩
  · exact absurd hholds (hnobody p (List.mem_of_getElem? hp))
  · exact (honly i p hp hholds).trans (honly j q hq hholds').symm

/-- A process keeps its position. -/
lemma getElem?_step (hstep : I.machine.step c e c') {i : ℕ} {p : π}
    (hp : c.processes[i]? = some p) :
    c'.processes[i]? = some p ∨
      ∃ d, I.admits c.shared p d ∧ c'.shared = (I.act c.shared p d).1 ∧
        c'.processes[i]? = some (I.act c.shared p d).2 := by
  have hlt : i < c.processes.length := (List.getElem?_eq_some_iff.mp hp).1
  cases e with
  | arrive q =>
      obtain ⟨-, rfl⟩ := hstep
      exact Or.inl ((List.getElem?_append_left hlt).trans hp)
  | act j d =>
      obtain ⟨q, hq, hd, rfl⟩ := hstep
      by_cases hij : j = i
      · subst hij
        obtain rfl : q = p := Option.some.inj (hq.symm.trans hp)
        exact Or.inr ⟨d, hd, rfl, List.getElem?_set_self hlt⟩
      · exact Or.inl ((List.getElem?_set_ne hij).trans hp)

/-- Where a process comes from: it was there, it has arrived, or it has taken a step. -/
lemma getElem?_of_step (hstep : I.machine.step c e c') {i : ℕ} {p : π}
    (hp : c'.processes[i]? = some p) :
    c.processes[i]? = some p ∨ c.processes[i]? = none ∧ I.arrives p ∨
      ∃ q d, e = .act i d ∧ c.processes[i]? = some q ∧ p = (I.act c.shared q d).2 := by
  cases e with
  | arrive q =>
      obtain ⟨hq, rfl⟩ := hstep
      rcases Nat.lt_or_ge i c.processes.length with hlt | hge
      · exact Or.inl ((List.getElem?_append_left hlt).symm.trans hp)
      · have hmem : p ∈ [q] := List.mem_of_getElem? ((List.getElem?_append_right hge).symm.trans hp)
        rw [List.mem_singleton.mp hmem]
        exact Or.inr (Or.inl ⟨List.getElem?_eq_none hge, hq⟩)
  | act j d =>
      obtain ⟨q, hq, -, rfl⟩ := hstep
      by_cases hij : j = i
      · subst hij
        have hself := (List.getElem?_set_self (List.getElem?_eq_some_iff.mp hq).1).symm.trans hp
        exact Or.inr (Or.inr ⟨q, d, rfl, hq, (Option.some.inj hself).symm⟩)
      · exact Or.inl ((List.getElem?_set_ne hij).symm.trans hp)

/-! ### Schedules -/

variable (I)

/-- The configuration after an event. -/
def next (c : Config σ π) : Event π δ → Config σ π
  | .arrive p => { c with processes := c.processes ++ [p] }
  | .act i d =>
      match c.processes[i]? with
      | some p => I.after c i p d
      | none => c

/-- The configuration after the events of a schedule. -/
def run (c : Config σ π) (es : List (Event π δ)) : Config σ π := es.foldl I.next c

/-- The event may happen now. -/
def Enabled (c : Config σ π) : Event π δ → Prop
  | .arrive p => I.arrives p
  | .act i d =>
      match c.processes[i]? with
      | some p => I.admits c.shared p d
      | none => False

/-- Each event of a schedule may happen at its turn. -/
def Runs (c : Config σ π) : List (Event π δ) → Prop
  | [] => True
  | e :: es => I.Enabled c e ∧ Runs (I.next c e) es

instance decidableEnabled [DecidablePred I.arrives] [∀ s p d, Decidable (I.admits s p d)]
    (c : Config σ π) : ∀ e : Event π δ, Decidable (I.Enabled c e)
  | .arrive p => inferInstanceAs (Decidable (I.arrives p))
  | .act i d =>
      match h : c.processes[i]? with
      | some p => decidable_of_iff (I.admits c.shared p d) (by rw [Enabled, h])
      | none => isFalse (by rw [Enabled, h]; exact not_false)

instance decidableRuns [DecidablePred I.arrives] [∀ s p d, Decidable (I.admits s p d)] :
    ∀ (c : Config σ π) (es : List (Event π δ)), Decidable (I.Runs c es)
  | _, [] => isTrue trivial
  | c, e :: es =>
      have := decidableRuns (I.next c e) es
      inferInstanceAs (Decidable (_ ∧ _))

variable {I}

/-- An event that may happen is a step. -/
lemma step_next (h : I.Enabled c e) : I.machine.step c e (I.next c e) := by
  cases e with
  | arrive p => exact ⟨h, rfl⟩
  | act i d =>
      rw [Enabled] at h
      rw [next]
      cases hp : c.processes[i]? with
      | none => simp [hp] at h
      | some p =>
          simp only [hp] at h
          exact ⟨p, hp, h, rfl⟩

variable (I) in
/-- Each event of a schedule may happen at its turn, under a condition. -/
def RunsUnder (C : Config σ π → Event π δ → Prop) (c : Config σ π) : List (Event π δ) → Prop
  | [] => True
  | e :: es => (I.Enabled c e ∧ C c e) ∧ RunsUnder C (I.next c e) es

instance decidableRunsUnder [DecidablePred I.arrives] [∀ s p d, Decidable (I.admits s p d)]
    {C : Config σ π → Event π δ → Prop} [∀ c e, Decidable (C c e)] :
    ∀ (c : Config σ π) (es : List (Event π δ)), Decidable (I.RunsUnder C c es)
  | _, [] => isTrue trivial
  | c, e :: es =>
      have : Decidable (I.RunsUnder C (I.next c e) es) := decidableRunsUnder (I.next c e) es
      inferInstanceAs (Decidable (_ ∧ _))

/-- The states of a schedule under a condition are a restricted trace. -/
theorem trace_runUnder {C : Config σ π → Event π δ → Prop} (hinit : I.machine.initial c)
    {es : List (Event π δ)} (h : I.RunsUnder C c es) :
    (I.machine.restrict C).Trace (fun k => I.run c (es.take k)) es.length := by
  have hstep : ∀ {c : Config σ π} {es : List (Event π δ)}, I.RunsUnder C c es →
      ∀ k < es.length, ∃ e, (I.machine.restrict C).step (I.run c (es.take k)) e
        (I.run c (es.take (k + 1))) := by
    intro c es
    induction es generalizing c with
    | nil => exact fun _ k hk => absurd hk (Nat.not_lt_zero k)
    | cons e es ih =>
        rintro ⟨⟨he, hcond⟩, hes⟩ k hk
        cases k with
        | zero => exact ⟨e, step_next he, hcond⟩
        | succ k => exact ih hes k (Nat.lt_of_succ_lt_succ hk)
  exact ⟨hinit, hstep h⟩

/-- The states of a schedule are a trace. -/
theorem trace_run (hinit : I.machine.initial c) {es : List (Event π δ)} (h : I.Runs c es) :
    I.machine.Trace (fun k => I.run c (es.take k)) es.length := by
  have hstep : ∀ {c : Config σ π} {es : List (Event π δ)}, I.Runs c es → ∀ k < es.length,
      ∃ e, I.machine.step (I.run c (es.take k)) e (I.run c (es.take (k + 1))) := by
    intro c es
    induction es generalizing c with
    | nil => exact fun _ k hk => absurd hk (Nat.not_lt_zero k)
    | cons e es ih =>
        rintro ⟨he, hes⟩ k hk
        cases k with
        | zero => exact ⟨e, step_next he⟩
        | succ k => exact ih hes k (Nat.lt_of_succ_lt_succ hk)
  exact ⟨hinit, hstep h⟩

end Interleaving

end AuthzKit
