import Mathlib.Tactic

/-!
Sliding windows over a log of times.

The times are any ordered monoid in which addition cancels. A log is paced when each of its entries
was made with fewer than `limit` live ones before it; a bucket tracks a log when both have the same
live entries from now on.

* `live`: the entries less than a width old; `live_live` says that trimming early loses nothing,
  `dropWhile_eq_live` that in order the old ones come first.
* `Paced.count_le`: no window of a paced log holds more than the limit.
* `Tracks`: kept by a filter that spares the live entries (`Tracks.filter`) and by a new entry
  (`Tracks.append`).
* `admissions`: the log of one key in a run of calls; `paced_admissions` is the rule for it.
-/

namespace AuthzKit

namespace SlidingWindow

variable {T : Type*} [AddCommMonoid T] [LinearOrder T]

/-! ### Live entries -/

/-- The entries of a log that are less than `width` old. -/
def live (width now : T) (log : List T) : List T := log.filter fun t => now < t + width

@[simp] lemma live_nil (width now : T) : live width now [] = [] := rfl

@[simp] lemma live_append (width now : T) (log log' : List T) :
    live width now (log ++ log') = live width now log ++ live width now log' :=
  List.filter_append ..

lemma live_cons (width now t : T) (log : List T) :
    live width now (t :: log) = if now < t + width then t :: live width now log
      else live width now log := by
  rw [live, live, List.filter_cons]
  simp only [decide_eq_true_eq]

@[simp] lemma mem_live {width now t : T} {log : List T} :
    t ∈ live width now log ↔ t ∈ log ∧ now < t + width := by
  simp [live]

lemma live_sublist (width now : T) (log : List T) : (live width now log).Sublist log :=
  List.filter_sublist

/-- Trimming early loses nothing. -/
lemma live_live {width now now' : T} (h : now ≤ now') (log : List T) :
    live width now' (live width now log) = live width now' log := by
  rw [live, live, List.filter_filter]
  refine List.filter_congr fun t _ => ?_
  rw [Bool.and_eq_left_iff_imp, decide_eq_true_eq, decide_eq_true_eq]
  exact h.trans_lt

/-- In order, the old entries come first. -/
lemma dropWhile_eq_live [IsOrderedAddMonoid T] {width now : T} {log : List T}
    (h : log.Pairwise (· ≤ ·)) : log.dropWhile (fun t => t + width ≤ now) = live width now log := by
  induction log with
  | nil => rfl
  | cons t log ih =>
      rw [List.pairwise_cons] at h
      by_cases ht : t + width ≤ now
      · rw [List.dropWhile_cons_of_pos (by simpa using ht), ih h.2, live_cons,
          if_neg (not_lt.mpr ht)]
      · rw [List.dropWhile_cons_of_neg (by simpa using ht), live_cons, if_pos (not_le.mp ht)]
        refine congrArg (t :: ·) (List.filter_eq_self.mpr fun t' ht' => ?_).symm
        rw [decide_eq_true_eq]
        exact (not_le.mp ht).trans_le (add_le_add_left (h.1 t' ht') width)

/-! ### Windows of a log -/

/-- The number of entries in `(a, a + width]`. -/
def count (width a : T) (log : List T) : ℕ := (log.filter fun t => a < t ∧ t ≤ a + width).length

@[simp] lemma count_nil (width a : T) : count width a [] = 0 := rfl

lemma count_append_singleton (width a t : T) (log : List T) :
    count width a (log ++ [t]) = count width a log + if a < t ∧ t ≤ a + width then 1 else 0 := by
  rw [count, count, List.filter_append, List.length_append]
  split_ifs with h
  · rw [List.filter_cons_of_pos (by simpa using h)]
    rfl
  · rw [List.filter_cons_of_neg (by simpa using h)]
    rfl

/-- Each entry was made with fewer than `limit` live ones before it. -/
def Paced (limit : ℕ) (width : T) (log : List T) : Prop :=
  ∀ before t after, log = before ++ t :: after → (live width t before).length < limit

lemma Paced.nil (limit : ℕ) (width : T) : Paced limit width [] := by
  intro before t after h
  simp at h

lemma Paced.append_singleton {limit : ℕ} {width t : T} {log : List T} (h : Paced limit width log)
    (ht : (live width t log).length < limit) : Paced limit width (log ++ [t]) := by
  intro before t' after heq
  rcases List.eq_nil_or_concat after with rfl | ⟨after', x, rfl⟩
  · obtain ⟨rfl, hlast⟩ := List.append_inj' heq rfl
    rw [← List.singleton_inj.mp hlast]
    exact ht
  · rw [List.concat_eq_append, ← List.cons_append, ← List.append_assoc] at heq
    exact h before t' after' (List.append_inj' heq rfl).1

lemma Paced.of_append {limit : ℕ} {width : T} {log log' : List T}
    (h : Paced limit width (log ++ log')) : Paced limit width log := by
  rintro before t after rfl
  exact h before t (after ++ log') (by simp)

/-- **No window of a paced log holds more than the limit**: the entries before the last one of a
window were live when it was made. -/
theorem Paced.count_le [IsOrderedCancelAddMonoid T] {limit : ℕ} {width : T} {log : List T}
    (h : Paced limit width log) (a : T) : count width a log ≤ limit := by
  induction log using List.reverseRecOn with
  | nil => simp
  | append_singleton log t ih =>
      rw [count_append_singleton]
      split_ifs with ht
      · have hsub : count width a log ≤ (live width t log).length := by
          refine List.Sublist.length_le (List.monotone_filter_right log fun x hx => ?_)
          rw [decide_eq_true_eq] at hx ⊢
          exact ht.2.trans_lt (add_lt_add_left hx.1 width)
        have hlive : (live width t log).length < limit := h log t [] rfl
        omega
      · exact ih h.of_append

/-! ### Buckets -/

/-- From `now` on a bucket has the live entries of a log, in their order. -/
structure Tracks (width now : T) (log bucket : List T) : Prop where
  live_eq : ∀ t, now ≤ t → live width t bucket = live width t log
  sorted : bucket.Pairwise (· ≤ ·)
  le_now : ∀ t ∈ bucket, t ≤ now

namespace Tracks

variable {width now t : T} {log bucket : List T}

lemma nil (width now : T) : Tracks width now [] [] where
  live_eq _ _ := rfl
  sorted := List.Pairwise.nil
  le_now := by simp

lemma mono (h : Tracks width now log bucket) (ht : now ≤ t) : Tracks width t log bucket where
  live_eq t' ht' := h.live_eq t' (ht.trans ht')
  sorted := h.sorted
  le_now x hx := (h.le_now x hx).trans ht

/-- Old entries may go. -/
lemma filter (h : Tracks width now log bucket) (ht : now ≤ t) {p : T → Bool}
    (hp : ∀ x ∈ bucket, t < x + width → p x = true) : Tracks width t log (bucket.filter p) where
  live_eq t' ht' := by
    rw [← h.live_eq t' (ht.trans ht'), live, live, List.filter_filter]
    refine List.filter_congr fun x hx => ?_
    rw [Bool.and_eq_left_iff_imp, decide_eq_true_eq]
    exact fun hlive => hp x hx (ht'.trans_lt hlive)
  sorted := h.sorted.sublist List.filter_sublist
  le_now x hx := (h.le_now x (List.filter_sublist.subset hx)).trans ht

lemma trim (h : Tracks width now log bucket) (ht : now ≤ t) :
    Tracks width t log (live width t log) := by
  rw [← h.live_eq t ht]
  exact h.filter ht fun x _ hx => decide_eq_true hx

/-- A new entry goes to both. -/
lemma append (h : Tracks width now log bucket) :
    Tracks width now (log ++ [now]) (bucket ++ [now]) where
  live_eq t ht := by rw [live_append, live_append, h.live_eq t ht]
  sorted := by
    rw [List.pairwise_append]
    refine ⟨h.sorted, List.pairwise_singleton _ _, fun x hx y hy => ?_⟩
    rw [List.mem_singleton.mp hy]
    exact h.le_now x hx
  le_now x hx := by
    rcases List.mem_append.mp hx with hx | hx
    · exact h.le_now x hx
    · exact (List.mem_singleton.mp hx).le

end Tracks

/-! ### Calls of several keys -/

section Calls

variable {σ κ : Type*}

/-- Times in order. -/
def InOrder (calls : List (κ × T)) : Prop := calls.Pairwise fun c c' => c.2 ≤ c'.2

omit [AddCommMonoid T] in
lemma InOrder.of_append {calls calls' : List (κ × T)} (h : InOrder (calls ++ calls')) :
    InOrder calls := (List.pairwise_append.mp h).1

omit [AddCommMonoid T] in
lemma InOrder.le_last {calls : List (κ × T)} {call : κ × T} (h : InOrder (calls ++ [call])) :
    ∀ c ∈ calls, c.2 ≤ call.2 :=
  fun c hc => (List.pairwise_append.mp h).2.2 c hc call (List.mem_singleton_self _)

/-- The state after a list of calls, each of which is admitted or not. -/
def run (step : σ → κ × T → Bool × σ) (s : σ) (calls : List (κ × T)) : σ :=
  calls.foldl (fun s call => (step s call).2) s

variable [DecidableEq κ]

/-- The times at which calls of a key were admitted. -/
def admissions (step : σ → κ × T → Bool × σ) (s : σ) (key : κ) : List (κ × T) → List T
  | [] => []
  | call :: calls =>
      (if call.1 = key ∧ (step s call).1 = true then [call.2] else []) ++
        admissions step (step s call).2 key calls

variable {step : σ → κ × T → Bool × σ} {s : σ} {key : κ}

omit [AddCommMonoid T] [LinearOrder T] [DecidableEq κ] in
@[simp] lemma run_append_singleton (calls : List (κ × T)) (call : κ × T) :
    run step s (calls ++ [call]) = (step (run step s calls) call).2 := by
  simp [run]

omit [AddCommMonoid T] [LinearOrder T] in
lemma admissions_append_singleton (calls : List (κ × T)) (call : κ × T) :
    admissions step s key (calls ++ [call]) = admissions step s key calls ++
      if call.1 = key ∧ (step (run step s calls) call).1 = true then [call.2] else [] := by
  induction calls generalizing s with
  | nil =>
      simp only [List.nil_append, admissions, List.append_nil]
      rfl
  | cons c calls ih =>
      rw [List.cons_append, admissions, admissions, ih, List.append_assoc]
      rfl

omit [AddCommMonoid T] [LinearOrder T] in
lemma mem_calls_of_mem_admissions {calls : List (κ × T)} {t : T}
    (h : t ∈ admissions step s key calls) : (key, t) ∈ calls := by
  induction calls using List.reverseRecOn with
  | nil => simp [admissions] at h
  | append_singleton calls call ih =>
      rw [admissions_append_singleton, List.mem_append] at h
      rcases h with h | h
      · exact List.mem_append_left _ (ih h)
      · split_ifs at h with hcall
        · rw [List.mem_singleton.mp h, ← hcall.1]
          exact List.mem_append_right _ (List.mem_singleton_self _)
        · cases h

/-- **The rule for a log**: it is paced when each call that is admitted finds room. -/
theorem paced_admissions {limit : ℕ} {width : T} {calls : List (κ × T)}
    (h : ∀ before call after, calls = before ++ call :: after →
      (step (run step s before) call).1 = true →
        (live width call.2 (admissions step s call.1 before)).length < limit) :
    Paced limit width (admissions step s key calls) := by
  induction calls using List.reverseRecOn with
  | nil => exact Paced.nil limit width
  | append_singleton calls call ih =>
      have hcalls := ih fun before c after heq => h before c (after ++ [call]) (by simp [heq])
      rw [admissions_append_singleton]
      split_ifs with hcall
      · obtain ⟨rfl, hadmitted⟩ := hcall
        exact hcalls.append_singleton (h calls call [] rfl hadmitted)
      · rw [List.append_nil]
        exact hcalls

end Calls

end SlidingWindow

end AuthzKit
