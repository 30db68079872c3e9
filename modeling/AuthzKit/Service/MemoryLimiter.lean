import AuthzKit.Policies.Expressions
import AuthzKit.Windows.Sliding

/-!
`_SlidingWindowLimiter` over exact times.

A call trims the bucket of its key and no other, so a bucket keeps entries that are long past until
its key is used again.

* `tracks_run`: still, a bucket has the admissions of its key that are live from now on.
* `paced_run`: each admission was made with fewer than the limit of them.
* `exact_window`: what this says of a run, call by call.
-/

namespace AuthzKit

open SlidingWindow

variable {T : Type*} [Field T] [LinearOrder T]

/-- `_SlidingWindowLimiter`; a key without a bucket has the empty one. -/
structure SlidingWindowLimiter (T : Type*) where
  limit : ℤ
  window : T
  buckets : String → List T

namespace SlidingWindowLimiter

/-- `__init__`. -/
def init (limit : ℤ) (window : T) : SlidingWindowLimiter T := ⟨limit, window, fun _ => []⟩

/-- `allow`: whether the call is let through, what is left of the limit and when to come back. -/
def allow (limiter : SlidingWindowLimiter T) (now : T) (key : String) :
    Except PyError (Bool × ℤ × T) × SlidingWindowLimiter T :=
  let bucket := (limiter.buckets key).dropWhile fun t => t ≤ now - limiter.window
  if limiter.limit ≤ bucket.length then
    (match bucket with
      | [] => .error .indexError
      | oldest :: _ => .ok (false, 0, max (1 / 1000) (oldest + limiter.window - now)),
      { limiter with buckets := Function.update limiter.buckets key bucket })
  else
    let bucket := bucket ++ [now]
    (.ok (true, limiter.limit - bucket.length, 0),
      { limiter with buckets := Function.update limiter.buckets key bucket })

/-- A call is let through. -/
def admits (limiter : SlidingWindowLimiter T) (call : String × T) : Bool :=
  match (limiter.allow call.2 call.1).1 with
  | .ok (allowed, _, _) => allowed
  | .error _ => false

/-- A call, and whether it is let through. -/
def step (limiter : SlidingWindowLimiter T) (call : String × T) : Bool × SlidingWindowLimiter T :=
  (limiter.admits call, (limiter.allow call.2 call.1).2)

/-- The limiter after a list of calls. -/
def run (limiter : SlidingWindowLimiter T) (calls : List (String × T)) :
    SlidingWindowLimiter T := SlidingWindow.run step limiter calls

/-- The times at which calls of a key were let through. -/
def admissions (limiter : SlidingWindowLimiter T) (key : String) (calls : List (String × T)) :
    List T := SlidingWindow.admissions step limiter key calls

variable {limiter : SlidingWindowLimiter T} {now : T} {key : String}

@[simp] lemma run_append_singleton (calls : List (String × T)) (call : String × T) :
    limiter.run (calls ++ [call]) = ((limiter.run calls).allow call.2 call.1).2 :=
  SlidingWindow.run_append_singleton calls call

lemma admissions_append_singleton (calls : List (String × T)) (call : String × T) :
    limiter.admissions key (calls ++ [call]) = limiter.admissions key calls ++
      if call.1 = key ∧ (limiter.run calls).admits call = true then [call.2] else [] :=
  SlidingWindow.admissions_append_singleton calls call

@[simp] lemma allow_limit : (limiter.allow now key).2.limit = limiter.limit := by
  rw [allow]
  split <;> rfl

@[simp] lemma allow_window : (limiter.allow now key).2.window = limiter.window := by
  rw [allow]
  split <;> rfl

lemma run_limit (calls : List (String × T)) : (limiter.run calls).limit = limiter.limit := by
  induction calls using List.reverseRecOn with
  | nil => rfl
  | append_singleton calls call ih => simp [ih]

lemma run_window (calls : List (String × T)) : (limiter.run calls).window = limiter.window := by
  induction calls using List.reverseRecOn with
  | nil => rfl
  | append_singleton calls call ih => simp [ih]

/-! ### One call -/

/-- A call leaves the buckets of other keys alone. -/
lemma allow_buckets_of_ne {key' : String} (h : key' ≠ key) :
    (limiter.allow now key).2.buckets key' = limiter.buckets key' := by
  rw [allow]
  split <;> simp [h]

/-- A call reads the bucket of its key only. -/
lemma allow_congr {limiter' : SlidingWindowLimiter T} (hlimit : limiter.limit = limiter'.limit)
    (hwindow : limiter.window = limiter'.window)
    (hbucket : limiter.buckets key = limiter'.buckets key) :
    (limiter.allow now key).1 = (limiter'.allow now key).1 ∧
      (limiter.allow now key).2.buckets key = (limiter'.allow now key).2.buckets key := by
  rw [allow, allow, hlimit, hwindow, hbucket]
  dsimp only
  split_ifs
  · exact ⟨rfl, by simp⟩
  · exact ⟨rfl, by simp⟩

/-! ### Runs -/

/-- Calls of other keys make no difference to a key. -/
lemma run_filter (calls : List (String × T)) :
    (limiter.run calls).buckets key =
      (limiter.run (calls.filter fun c => c.1 = key)).buckets key := by
  induction calls using List.reverseRecOn with
  | nil => rfl
  | append_singleton calls call ih =>
      rw [List.filter_append, run_append_singleton]
      by_cases hkey : call.1 = key
      · subst hkey
        rw [List.filter_cons_of_pos (by simp), List.filter_nil, run_append_singleton]
        exact (allow_congr (by rw [run_limit, run_limit]) (by rw [run_window, run_window]) ih).2
      · rw [List.filter_cons_of_neg (by simpa using hkey), List.filter_nil, List.append_nil,
          allow_buckets_of_ne (Ne.symm hkey), ih]

/-! ### One call -/

section Tracked

variable [IsStrictOrderedRing T] {log : List T} {earlier window : T} {limit : ℤ}

lemma trim_eq (h : Tracks window earlier log (limiter.buckets key)) (hnow : earlier ≤ now) :
    (limiter.buckets key).dropWhile (fun t => t ≤ now - window) = live window now log := by
  rw [← h.live_eq now hnow, ← dropWhile_eq_live h.sorted]
  simp only [le_sub_iff_add_le]

/-- A call with room for it. -/
lemma allow_of_lt (hlimit : limiter.limit = limit) (hwindow : limiter.window = window)
    (h : Tracks window earlier log (limiter.buckets key)) (hnow : earlier ≤ now)
    (hroom : (live window now log).length < limit) :
    limiter.allow now key =
      (.ok (true, limit - ((live window now log).length + 1 : ℕ), 0),
        { limiter with
          buckets := Function.update limiter.buckets key (live window now log ++ [now]) }) := by
  rw [allow, hwindow, hlimit, trim_eq h hnow]
  dsimp only
  rw [if_neg (not_le.mpr hroom), List.length_append, List.length_singleton]

/-- A call without: as the limit is positive, there is an oldest entry. -/
lemma allow_of_le (hlimit : limiter.limit = limit) (hwindow : limiter.window = window)
    (h : Tracks window earlier log (limiter.buckets key)) (hnow : earlier ≤ now)
    (hpos : 1 ≤ limit) (hfull : limit ≤ (live window now log).length) :
    ∃ oldest rest, live window now log = oldest :: rest ∧
      limiter.allow now key =
        (.ok (false, 0, max (1 / 1000) (oldest + window - now)),
          { limiter with
            buckets := Function.update limiter.buckets key (live window now log) }) := by
  cases hlive : live window now log with
  | nil =>
      rw [hlive, List.length_nil] at hfull
      omega
  | cons oldest rest =>
      rw [hlive] at hfull
      refine ⟨oldest, rest, rfl, ?_⟩
      rw [allow, hwindow, hlimit, trim_eq h hnow, hlive]
      dsimp only
      rw [if_pos hfull]

/-- A call is let through exactly where there is room. -/
lemma admits_iff (hlimit : limiter.limit = limit) (hwindow : limiter.window = window)
    (h : Tracks window earlier log (limiter.buckets key)) (hnow : earlier ≤ now)
    (hpos : 1 ≤ limit) :
    limiter.admits (key, now) = true ↔ (live window now log).length < limit := by
  by_cases hroom : (live window now log).length < limit
  · simp [admits, allow_of_lt hlimit hwindow h hnow hroom, hroom]
  · obtain ⟨oldest, rest, -, hallow⟩ := allow_of_le hlimit hwindow h hnow hpos (not_lt.mp hroom)
    simp [admits, hallow, hroom]

/-- The bucket of a key after a call of it. -/
lemma tracks_allow (hlimit : limiter.limit = limit) (hwindow : limiter.window = window)
    (h : Tracks window earlier log (limiter.buckets key)) (hnow : earlier ≤ now)
    (hpos : 1 ≤ limit) :
    Tracks window now (log ++ if limiter.admits (key, now) then [now] else [])
      ((limiter.allow now key).2.buckets key) := by
  by_cases hroom : (live window now log).length < limit
  · rw [if_pos ((admits_iff hlimit hwindow h hnow hpos).mpr hroom),
      allow_of_lt hlimit hwindow h hnow hroom]
    simp only [Function.update_self]
    exact (h.trim hnow).append
  · obtain ⟨oldest, rest, -, hallow⟩ := allow_of_le hlimit hwindow h hnow hpos (not_lt.mp hroom)
    rw [if_neg (mt (admits_iff hlimit hwindow h hnow hpos).mp hroom), hallow, List.append_nil]
    simp only [Function.update_self]
    exact h.trim hnow

omit [IsStrictOrderedRing T] in
lemma run_init_limit (limit : ℤ) (window : T) (calls : List (String × T)) :
    ((init limit window).run calls).limit = limit := run_limit calls

omit [IsStrictOrderedRing T] in
lemma run_init_window (limit : ℤ) (window : T) (calls : List (String × T)) :
    ((init limit window).run calls).window = window := run_window calls

variable (window) in
/-- **The buckets of a run**: each tracks the admissions of its key. -/
theorem tracks_run (hpos : 1 ≤ limit) {calls : List (String × T)} (hcalls : InOrder calls)
    (hnow : ∀ c ∈ calls, c.2 ≤ now) (key : String) :
    Tracks window now ((init limit window).admissions key calls)
      (((init limit window).run calls).buckets key) := by
  induction calls using List.reverseRecOn generalizing now with
  | nil => exact Tracks.nil window now
  | append_singleton calls call ih =>
      obtain ⟨key', time⟩ := call
      have htime : time ≤ now := hnow _ (List.mem_append_right _ (List.mem_singleton_self _))
      have htracks := ih hcalls.of_append hcalls.le_last
      rw [run_append_singleton, admissions_append_singleton]
      by_cases hkey : key' = key
      · subst hkey
        have hstep := tracks_allow (run_init_limit limit window calls)
          (run_init_window limit window calls) htracks le_rfl hpos
        simpa using hstep.mono htime
      · rw [if_neg fun h => hkey h.1, List.append_nil, allow_buckets_of_ne (Ne.symm hkey)]
        exact htracks.mono htime

variable (window) in
/-- Each admission was made with fewer than the limit of live ones before it. -/
theorem paced_run (hpos : 1 ≤ limit) {calls : List (String × T)} (hcalls : InOrder calls)
    (key : String) :
    Paced limit.toNat window ((init limit window).admissions key calls) := by
  refine paced_admissions fun before call after heq hadmits => ?_
  have hupto : InOrder (before ++ [call]) := by
    rw [heq, List.append_cons] at hcalls
    exact hcalls.of_append
  have htracks := tracks_run window hpos hupto.of_append hupto.le_last call.1
  have hroom : ((live window call.2 ((init limit window).admissions call.1 before)).length : ℤ) <
      limit := (admits_iff (run_init_limit limit window before)
    (run_init_window limit window before) htracks le_rfl hpos).mp hadmits
  rw [admissions] at hroom
  omega

/-! ### What a run shows -/

/-- The number of admissions of a key in `(now - window, now]`. -/
def recent (limit : ℤ) (window : T) (key : String) (now : T) (calls : List (String × T)) : ℕ :=
  count window (now - window) ((init limit window).admissions key calls)

/-- Of admissions up to now, the recent ones are the live ones. -/
lemma recent_eq (limit : ℤ) (window : T) (key : String) {calls : List (String × T)}
    (hnow : ∀ c ∈ calls, c.2 ≤ now) :
    recent limit window key now calls =
      (live window now ((init limit window).admissions key calls)).length := by
  rw [recent, count, live]
  refine congrArg List.length (List.filter_congr fun t ht => ?_)
  have htime : t ≤ now := hnow _ (mem_calls_of_mem_admissions ht)
  rw [decide_eq_decide, sub_add_cancel, sub_lt_iff_lt_add]
  exact and_iff_left htime

lemma recent_le (window now : T) (key : String) (hpos : 1 ≤ limit) {calls : List (String × T)}
    (hcalls : InOrder calls) :
    (recent limit window key now calls : ℤ) ≤ limit := by
  have hcount := (paced_run window hpos hcalls key).count_le (now - window)
  rw [recent]
  omega

/-- When the oldest of a full window has left it, a call is let through. -/
lemma admits_later (hpos : 1 ≤ limit) {calls : List (String × T)} {earlier later oldest : T}
    {rest : List T} (hcalls : InOrder (calls ++ [(key, later)])) (hlater : earlier ≤ later)
    (hlive : live window earlier ((init limit window).admissions key calls) = oldest :: rest)
    (hfull : ((oldest :: rest).length : ℤ) = limit) (holdest : oldest + window ≤ later) :
    ((init limit window).run calls).admits (key, later) = true := by
  have htracks := tracks_run window hpos hcalls.of_append hcalls.le_last key
  rw [admits_iff (run_init_limit limit window calls) (run_init_window limit window calls) htracks
    le_rfl hpos, ← live_live hlater, hlive, live_cons, if_neg (not_lt.mpr holdest)]
  have hrest := (live_sublist window later rest).length_le
  rw [List.length_cons] at hfull
  omega

/-- **An exact sliding window**: no window holds more admissions of a key than the limit. A call is
denied only when its window is full, is told what is left, depends on its key alone, and, when
denied, is told when there is room again. -/
theorem exact_window (limit : ℤ) (window : T) (hlimit : 1 ≤ limit) (hwindow : 0 < window)
    (calls : List (String × T)) (hcalls : InOrder calls) :
    (∀ key a, (count window a ((init limit window).admissions key calls) : ℤ) ≤ limit) ∧
    ∀ before key now after, calls = before ++ (key, now) :: after →
      ∃ allowed remaining retryAfter,
        (((init limit window).run before).allow now key).1 =
          .ok (allowed, remaining, retryAfter) ∧
        (allowed = false → (recent limit window key now before : ℤ) = limit) ∧
        remaining = limit - recent limit window key now (before ++ [(key, now)]) ∧
        (((init limit window).run (before.filter fun c => c.1 = key)).allow now key).1 =
          .ok (allowed, remaining, retryAfter) ∧
        (allowed = false → 0 < retryAfter ∧ ∀ between later,
          InOrder (before ++ (key, now) :: between ++ [(key, later)]) →
          now + retryAfter ≤ later →
          (init limit window).admissions key (before ++ (key, now) :: between) =
            (init limit window).admissions key before →
          ((init limit window).run (before ++ (key, now) :: between)).admits (key, later) =
            true) := by
  refine ⟨fun key a => ?_, ?_⟩
  · have hcount := (paced_run window hlimit hcalls key).count_le a
    omega
  · rintro before key now after rfl
    have hupto : InOrder (before ++ [(key, now)]) := by
      have hsplit : InOrder (before ++ [(key, now)] ++ after) := by
        rw [List.append_assoc]
        exact hcalls
      exact hsplit.of_append
    have hle : ∀ c ∈ before, c.2 ≤ now := hupto.le_last
    have htracks := tracks_run window hlimit hupto.of_append hle key
    have hkey : (((init limit window).run before).allow now key).1 =
        (((init limit window).run (before.filter fun c => c.1 = key)).allow now key).1 :=
      (allow_congr (by rw [run_limit, run_limit]) (by rw [run_window, run_window])
        (run_filter before)).1
    have hrecent := recent_eq limit window key hle
    have hafter : recent limit window key now (before ++ [(key, now)]) =
        recent limit window key now before +
          if ((init limit window).run before).admits (key, now) then 1 else 0 := by
      rw [recent, recent, admissions_append_singleton]
      by_cases hadmits : ((init limit window).run before).admits (key, now) = true
      · rw [if_pos ⟨rfl, hadmits⟩, if_pos hadmits, count_append_singleton, if_pos]
        exact ⟨sub_lt_self now hwindow, (sub_add_cancel now window).ge⟩
      · rw [if_neg fun h => hadmits h.2, if_neg hadmits, List.append_nil, add_zero]
    have hadmits := admits_iff (run_init_limit limit window before)
      (run_init_window limit window before) htracks le_rfl hlimit
    rw [← hkey, hafter]
    by_cases hroom : (live window now ((init limit window).admissions key before)).length < limit
    · have hallow := allow_of_lt (run_init_limit limit window before)
        (run_init_window limit window before) htracks le_rfl hroom
      refine ⟨true, _, 0, by rw [hallow], by simp, ?_, by rw [hallow], by simp⟩
      rw [if_pos (hadmits.mpr hroom), hrecent]
    · obtain ⟨oldest, rest, hlive, hallow⟩ := allow_of_le (run_init_limit limit window before)
        (run_init_window limit window before) htracks le_rfl hlimit (not_lt.mp hroom)
      have hfull : (recent limit window key now before : ℤ) = limit := by
        have hat_most := recent_le window now key hlimit
          hupto.of_append
        rw [hrecent] at hat_most ⊢
        omega
      refine ⟨false, 0, _, by rw [hallow], fun _ => hfull, ?_, by rw [hallow], fun _ => ⟨?_, ?_⟩⟩
      · rw [if_neg (mt hadmits.mp hroom), add_zero, hfull, sub_self]
      · exact lt_max_of_lt_left (by norm_num)
      · intro between later horder hretry hnone
        have hoften : oldest + window ≤ later := by
          have hmax := le_max_right (1 / 1000) (oldest + window - now)
          linarith
        have hnow : now ≤ later := by
          have hmax := le_max_left (1 / 1000) (oldest + window - now)
          linarith
        have hlive' : live window now ((init limit window).admissions key
            (before ++ (key, now) :: between)) = oldest :: rest := by rw [hnone, hlive]
        exact admits_later hlimit horder hnow hlive' (by rw [← hlive, ← hrecent, hfull]) hoften

/-- Two calls a minute: the third call of a key is denied, another key is not asked. -/
def minuteCalls : List (String × ℚ) := [("a", 0), ("b", 1), ("a", 1), ("a", 2), ("a", 61)]

/-- The third call of a key. -/
theorem exact_window_third :
    (∀ key a, (count 60 a ((init 2 (60 : ℚ)).admissions key minuteCalls) : ℤ) ≤ 2) ∧
      ∃ allowed remaining retryAfter,
        (((init 2 (60 : ℚ)).run [("a", 0), ("b", 1), ("a", 1)]).allow 2 "a").1 =
          .ok (allowed, remaining, retryAfter) ∧
        (allowed = false → (recent 2 (60 : ℚ) "a" 2 [("a", 0), ("b", 1), ("a", 1)] : ℤ) = 2) :=
  have horder : InOrder minuteCalls := by
    norm_num [InOrder, minuteCalls]
  have h := exact_window 2 60 (by decide) (by norm_num) minuteCalls horder
  have ⟨allowed, remaining, retryAfter, hallow, hfull, _⟩ :=
    h.2 [("a", 0), ("b", 1), ("a", 1)] "a" 2 [("a", 61)] rfl
  ⟨h.1, allowed, remaining, retryAfter, hallow, hfull⟩

end Tracked

end SlidingWindowLimiter

end AuthzKit
