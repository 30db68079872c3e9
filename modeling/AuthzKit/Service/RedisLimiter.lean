import Mathlib.Tactic
import AuthzKit.Windows.Sliding

/-!
`_RedisRateLimiter`: the script, one sorted set for each key.

A member is the text of a time and what `math.random` draws, which is the same in every run of a
script. Two calls of one millisecond are therefore one member: the second is let through and leaves
the count as it was.

* `Updates`: a call that is let through and finds its member in the set.
* `tracks_run`: without such calls the set holds the admissions of its key that are live.
* `bounded_of_noUpdates`: then no window holds more admissions than the limit.
-/

namespace AuthzKit

open SlidingWindow

/-- What the script reads of its runtime: the text of a number, and the number that `math.random`
draws first. -/
structure LuaRuntime where
  text : ℕ → String
  random : String

/-- `now .. '-' .. math.random()`. -/
def LuaRuntime.member (lua : LuaRuntime) (now : ℕ) : String := lua.text now ++ "-" ++ lua.random

/-- A sorted set: its members with their scores, and when the key expires. -/
structure SortedSet where
  entries : List (String × ℕ)
  expiresAt : Option ℕ
deriving DecidableEq, Repr

namespace SortedSet

def empty : SortedSet := ⟨[], none⟩

/-- The set as a script finds it: gone when it has expired. -/
def atTime (set : SortedSet) (now : ℕ) : SortedSet :=
  if set.expiresAt.any (· ≤ now) then empty else set

/-- `ZREMRANGEBYSCORE key 0 highest`. -/
def removeUpTo (set : SortedSet) (highest : ℤ) : SortedSet :=
  { set with entries := set.entries.filter fun e => ¬(e.2 : ℤ) ≤ highest }

/-- `ZCARD`. -/
def card (set : SortedSet) : ℕ := set.entries.length

/-- `ZRANGE key 0 0 WITHSCORES`: the lowest score. -/
def lowest (set : SortedSet) : Option ℕ := (set.entries.map Prod.snd).min?

/-- `ZADD`: a member that is there gets the new score. -/
def add (set : SortedSet) (score : ℕ) (member : String) : SortedSet :=
  { set with entries := set.entries.filter (fun e => e.1 ≠ member) ++ [(member, score)] }

/-- `PEXPIRE`. -/
def expire (set : SortedSet) (time : ℕ) : SortedSet := { set with expiresAt := some time }

end SortedSet

/-- `_RedisRateLimiter`, with the sets of its keys on the server. -/
structure RedisRateLimiter where
  limit : ℤ
  windowMs : ℕ
  sets : String → SortedSet

namespace RedisRateLimiter

/-- `__init__`, on a server without keys. -/
def init (limit : ℤ) (windowMs : ℕ) : RedisRateLimiter := ⟨limit, windowMs, fun _ => .empty⟩

/-- The set of a key without the entries that are a window old. -/
def trimmed (limiter : RedisRateLimiter) (now : ℕ) (key : String) : SortedSet :=
  ((limiter.sets key).atTime now).removeUpTo (now - limiter.windowMs)

/-- `allow`: whether the call is let through, what is left of the limit and when to come back, in
seconds. Null is an error of the script. -/
def allow (lua : LuaRuntime) (limiter : RedisRateLimiter) (now : ℕ) (key : String) :
    Option (Bool × ℤ × ℚ) × RedisRateLimiter :=
  let set := limiter.trimmed now key
  if limiter.limit ≤ set.card then
    (set.lowest.map fun oldest =>
      (false, 0, max 0 (((oldest + limiter.windowMs - now : ℤ) : ℚ) / 1000)),
      { limiter with sets := Function.update limiter.sets key set })
  else
    (some (true, limiter.limit - set.card - 1, 0),
      { limiter with
        sets := Function.update limiter.sets key
          ((set.add now (lua.member now)).expire (now + limiter.windowMs)) })

/-- A call, and whether it is let through. -/
def step (lua : LuaRuntime) (limiter : RedisRateLimiter) (call : String × ℕ) :
    Bool × RedisRateLimiter :=
  ((limiter.allow lua call.2 call.1).1.any fun reply => reply.1, (limiter.allow lua call.2 call.1).2)

/-- The limiter after a list of calls. -/
def run (lua : LuaRuntime) (limiter : RedisRateLimiter) (calls : List (String × ℕ)) :
    RedisRateLimiter := SlidingWindow.run (step lua) limiter calls

/-- The times at which calls of a key were let through. -/
def admissions (lua : LuaRuntime) (limiter : RedisRateLimiter) (key : String)
    (calls : List (String × ℕ)) : List ℕ := SlidingWindow.admissions (step lua) limiter key calls

/-- There is room for a call, and its member is in the set: `ZADD` does not add. -/
def Updates (lua : LuaRuntime) (limiter : RedisRateLimiter) (now : ℕ) (key : String) : Prop :=
  (limiter.trimmed now key).card < limiter.limit ∧
    lua.member now ∈ (limiter.trimmed now key).entries.map Prod.fst

variable {lua : LuaRuntime} {limiter : RedisRateLimiter} {now : ℕ} {key : String}

@[simp] lemma run_append_singleton (calls : List (String × ℕ)) (call : String × ℕ) :
    limiter.run lua (calls ++ [call]) = ((limiter.run lua calls).allow lua call.2 call.1).2 :=
  SlidingWindow.run_append_singleton calls call

lemma admissions_append_singleton (calls : List (String × ℕ)) (call : String × ℕ) :
    limiter.admissions lua key (calls ++ [call]) = limiter.admissions lua key calls ++
      if call.1 = key ∧ ((limiter.run lua calls).step lua call).1 = true then [call.2] else [] :=
  SlidingWindow.admissions_append_singleton calls call

@[simp] lemma allow_limit : (limiter.allow lua now key).2.limit = limiter.limit := by
  rw [allow]
  split <;> rfl

@[simp] lemma allow_windowMs : (limiter.allow lua now key).2.windowMs = limiter.windowMs := by
  rw [allow]
  split <;> rfl

lemma run_limit (lua : LuaRuntime) (limit : ℤ) (windowMs : ℕ) (calls : List (String × ℕ)) :
    ((init limit windowMs).run lua calls).limit = limit := by
  induction calls using List.reverseRecOn with
  | nil => rfl
  | append_singleton calls call ih => simp [ih]

lemma run_windowMs (lua : LuaRuntime) (limit : ℤ) (windowMs : ℕ) (calls : List (String × ℕ)) :
    ((init limit windowMs).run lua calls).windowMs = windowMs := by
  induction calls using List.reverseRecOn with
  | nil => rfl
  | append_singleton calls call ih => simp [ih]

lemma allow_sets_of_ne {key' : String} (h : key' ≠ key) :
    (limiter.allow lua now key).2.sets key' = limiter.sets key' := by
  rw [allow]
  split_ifs
  · exact Function.update_of_ne h ..
  · exact Function.update_of_ne h ..

/-- A call is let through where the set is smaller than the limit. -/
lemma step_fst : (limiter.step lua (key, now)).1 = true ↔
    (limiter.trimmed now key).card < limiter.limit := by
  rw [step, allow]
  split_ifs with hfull
  · cases (limiter.trimmed now key).lowest <;> simpa using hfull
  · simpa using hfull

/-! ### The set of a key -/

/-- The scores track a log, and the key lives as long as they do. -/
structure Holds (width now : ℕ) (log : List ℕ) (set : SortedSet) : Prop where
  tracks : Tracks width now log (set.entries.map Prod.snd)
  expiry : ∀ e ∈ set.entries, ∃ time, set.expiresAt = some time ∧ e.2 + width ≤ time

namespace Holds

variable {width t : ℕ} {log : List ℕ} {set : SortedSet}

lemma empty (width now : ℕ) : Holds width now [] .empty :=
  ⟨Tracks.nil width now, by simp [SortedSet.empty]⟩

lemma mono (h : Holds width now log set) (ht : now ≤ t) : Holds width t log set :=
  ⟨h.tracks.mono ht, h.expiry⟩

/-- A key that has expired had no live entries left. -/
lemma atTime (h : Holds width now log set) (ht : now ≤ t) : Holds width t log (set.atTime t) := by
  rw [SortedSet.atTime]
  split_ifs with hexpired
  · refine ⟨?_, by simp [SortedSet.empty]⟩
    have hnone := h.tracks.filter ht (p := fun _ => false) fun x hx hlive => by
      obtain ⟨e, he, rfl⟩ := List.mem_map.mp hx
      obtain ⟨time, htime, hle⟩ := h.expiry e he
      rw [htime, Option.any_some, decide_eq_true_eq] at hexpired
      omega
    simpa [SortedSet.empty] using hnone
  · exact h.mono ht

/-- The entries that are a window old go, the others stay. -/
lemma removeUpTo (h : Holds width now log set) :
    Holds width now log (set.removeUpTo (now - width)) := by
  have hscores : (set.removeUpTo (now - width)).entries.map Prod.snd =
      live width now (set.entries.map Prod.snd) := by
    rw [SortedSet.removeUpTo, live, List.filter_map]
    refine congrArg (List.map Prod.snd) (List.filter_congr fun e _ => ?_)
    rw [Function.comp_apply, decide_eq_decide]
    omega
  refine ⟨?_, fun e he => h.expiry e (List.mem_filter.mp he).1⟩
  rw [hscores, h.tracks.live_eq now le_rfl]
  exact h.tracks.trim le_rfl

lemma card_removeUpTo (h : Holds width now log set) :
    (set.removeUpTo (now - width)).card = (live width now log).length := by
  rw [← h.tracks.live_eq now le_rfl, SortedSet.card, SortedSet.removeUpTo, live, List.filter_map,
    List.length_map]
  refine congrArg List.length (List.filter_congr fun e _ => ?_)
  rw [Function.comp_apply, decide_eq_decide]
  omega

/-- A new member is one entry more. -/
lemma add (h : Holds width now log set) {member : String}
    (hnew : member ∉ set.entries.map Prod.fst) :
    Holds width now (log ++ [now]) ((set.add now member).expire (now + width)) := by
  have hentries : (set.add now member).entries = set.entries ++ [(member, now)] := by
    rw [SortedSet.add, List.filter_eq_self.mpr fun e he => ?_]
    simpa using fun heq : e.1 = member => hnew (heq ▸ List.mem_map_of_mem he)
  constructor
  · rw [SortedSet.expire, hentries, List.map_append]
    exact h.tracks.append
  · intro e he
    refine ⟨now + width, rfl, ?_⟩
    rw [SortedSet.expire, hentries] at he
    rcases List.mem_append.mp he with he | he
    · have hle := h.tracks.le_now e.2 (List.mem_map_of_mem he)
      omega
    · rw [List.mem_singleton.mp he]

end Holds

/-! ### Runs -/

/-- No call of a run finds its member in the set. -/
def NoUpdates (lua : LuaRuntime) (limiter : RedisRateLimiter) (calls : List (String × ℕ)) : Prop :=
  ∀ before key now after, calls = before ++ (key, now) :: after →
    ¬(limiter.run lua before).Updates lua now key

lemma NoUpdates.of_append {calls calls' : List (String × ℕ)}
    (h : limiter.NoUpdates lua (calls ++ calls')) : limiter.NoUpdates lua calls := by
  rintro before key now after rfl
  exact h before key now (after ++ calls') (by simp)

variable {limit : ℤ} {windowMs : ℕ} {earlier : ℕ} {log : List ℕ}

lemma holds_trimmed (hwindow : limiter.windowMs = windowMs)
    (h : Holds windowMs earlier log (limiter.sets key)) (hnow : earlier ≤ now) :
    Holds windowMs now log (limiter.trimmed now key) := by
  rw [trimmed, hwindow]
  exact (h.atTime hnow).removeUpTo

lemma card_trimmed (hwindow : limiter.windowMs = windowMs)
    (h : Holds windowMs earlier log (limiter.sets key)) (hnow : earlier ≤ now) :
    (limiter.trimmed now key).card = (live windowMs now log).length := by
  rw [trimmed, hwindow]
  exact (h.atTime hnow).card_removeUpTo

/-- The set of a key after a call of it. -/
lemma holds_allow (hwindow : limiter.windowMs = windowMs)
    (h : Holds windowMs earlier log (limiter.sets key)) (hnow : earlier ≤ now)
    (hnew : ¬limiter.Updates lua now key) :
    Holds windowMs now (log ++ if (limiter.step lua (key, now)).1 = true then [now] else [])
      ((limiter.allow lua now key).2.sets key) := by
  have htrimmed := holds_trimmed hwindow h hnow
  by_cases hroom : (limiter.trimmed now key).card < limiter.limit
  · rw [if_pos (step_fst.mpr hroom), allow, if_neg (not_le.mpr hroom), hwindow]
    simp only [Function.update_self]
    exact htrimmed.add fun hmem => hnew ⟨hroom, hmem⟩
  · rw [if_neg (mt step_fst.mp hroom), allow, if_pos (not_lt.mp hroom), List.append_nil]
    simp only [Function.update_self]
    exact htrimmed

/-- **The sets of a run**: each holds the live admissions of its key. -/
theorem holds_run {calls : List (String × ℕ)} (hcalls : InOrder calls)
    (hnew : (init limit windowMs).NoUpdates lua calls) (hnow : ∀ c ∈ calls, c.2 ≤ now)
    (key : String) :
    Holds windowMs now ((init limit windowMs).admissions lua key calls)
      (((init limit windowMs).run lua calls).sets key) := by
  induction calls using List.reverseRecOn generalizing now with
  | nil => exact Holds.empty windowMs now
  | append_singleton calls call ih =>
      obtain ⟨key', time⟩ := call
      have htime : time ≤ now := hnow _ (List.mem_append_right _ (List.mem_singleton_self _))
      have hholds := ih hcalls.of_append hnew.of_append hcalls.le_last
      rw [run_append_singleton, admissions_append_singleton]
      by_cases hkey : key' = key
      · subst hkey
        have hstep := holds_allow (run_windowMs lua limit windowMs calls) hholds le_rfl
          (hnew calls key' time [] rfl)
        simpa using hstep.mono htime
      · rw [if_neg fun h => hkey h.1, List.append_nil, allow_sets_of_ne (Ne.symm hkey)]
        exact hholds.mono htime

lemma mem_of_mem_trimmed {e : String × ℕ} (h : e ∈ (limiter.trimmed now key).entries) :
    e ∈ (limiter.sets key).entries := by
  have hset := (List.mem_filter.mp h).1
  rw [SortedSet.atTime] at hset
  split_ifs at hset
  · cases hset
  · exact hset

/-- A call brings one entry at most. -/
lemma of_mem_allow {e : String × ℕ} (h : e ∈ ((limiter.allow lua now key).2.sets key).entries) :
    e ∈ (limiter.sets key).entries ∨ e = (lua.member now, now) := by
  rw [allow] at h
  split_ifs at h
  · simp only [Function.update_self] at h
    exact Or.inl (mem_of_mem_trimmed h)
  · simp only [Function.update_self, SortedSet.expire, SortedSet.add] at h
    rcases List.mem_append.mp h with h | h
    · exact Or.inl (mem_of_mem_trimmed (List.mem_filter.mp h).1)
    · exact Or.inr (List.mem_singleton.mp h)

/-- The members of a run are made of the times of its calls. -/
lemma of_mem_sets {calls : List (String × ℕ)} {e : String × ℕ}
    (h : e ∈ (((init limit windowMs).run lua calls).sets key).entries) :
    (key, e.2) ∈ calls ∧ e.1 = lua.member e.2 := by
  induction calls using List.reverseRecOn with
  | nil => simp [run, SlidingWindow.run, init, SortedSet.empty] at h
  | append_singleton calls call ih =>
      obtain ⟨key', time⟩ := call
      rw [run_append_singleton] at h
      by_cases hkey : key = key'
      · subst hkey
        rcases of_mem_allow h with h | rfl
        · exact ⟨List.mem_append_left _ (ih h).1, (ih h).2⟩
        · exact ⟨List.mem_append_right _ (List.mem_singleton_self _), rfl⟩
      · rw [allow_sets_of_ne hkey] at h
        exact ⟨List.mem_append_left _ (ih h).1, (ih h).2⟩

/-- Calls of one key at times that print apart never find their members. -/
lemma noUpdates_of_nodup {calls : List (String × ℕ)} (hcalls : calls.Nodup)
    (htext : ∀ c ∈ calls, ∀ c' ∈ calls, lua.text c.2 = lua.text c'.2 → c.2 = c'.2) :
    (init limit windowMs).NoUpdates lua calls := by
  rintro before key now after rfl ⟨-, hmem⟩
  obtain ⟨e, he, hmember⟩ := List.mem_map.mp hmem
  obtain ⟨hcall, heq⟩ := of_mem_sets (mem_of_mem_trimmed he)
  have htexts : lua.text e.2 = lua.text now := by
    rw [hmember, LuaRuntime.member, LuaRuntime.member, String.append_left_inj,
      String.append_left_inj] at heq
    exact heq.symm
  have htime := htext (key, e.2) (List.mem_append_left _ hcall) (key, now) (by simp) htexts
  rw [htime] at hcall
  exact (List.nodup_append.mp hcalls).2.2 _ hcall _ List.mem_cons_self rfl

/-- **The same bound** as in memory, at every time of every run in which no call is let through
while its member is in the set. -/
theorem bounded_of_noUpdates (lua : LuaRuntime) (limit : ℤ) (windowMs : ℕ) (hlimit : 1 ≤ limit)
    (calls : List (String × ℕ)) (hcalls : InOrder calls)
    (hnew : (init limit windowMs).NoUpdates lua calls) :
    ∀ before after, calls = before ++ after → ∀ key a,
      (count windowMs a ((init limit windowMs).admissions lua key before) : ℤ) ≤ limit := by
  rintro calls after rfl key a
  have hpaced : Paced limit.toNat windowMs
      (SlidingWindow.admissions (step lua) (init limit windowMs) key calls) := by
    refine paced_admissions fun before call after' heq hadmitted => ?_
    have hupto : InOrder (before ++ [call]) := by
      rw [heq, List.append_cons, List.append_assoc] at hcalls
      exact hcalls.of_append
    have hbefore : (init limit windowMs).NoUpdates lua before := by
      rw [heq, List.append_assoc] at hnew
      exact hnew.of_append
    have hholds := holds_run hupto.of_append hbefore hupto.le_last call.1
    have hroom : (((init limit windowMs).run lua before).trimmed call.2 call.1).card <
        ((init limit windowMs).run lua before).limit := step_fst.mp hadmitted
    rw [card_trimmed (run_windowMs lua limit windowMs before) hholds le_rfl,
      run_limit lua limit windowMs before] at hroom
    rw [admissions] at hroom
    omega
  have hcount := hpaced.count_le a
  rw [admissions]
  omega

section Examples

/-- Numbers as they are printed, and one draw. -/
def sampleRuntime : LuaRuntime := ⟨toString, "0.23"⟩

/-- Calls a millisecond apart. -/
theorem bounded_of_noUpdates_apart :
    (count 60000 4 ((init 2 60000).admissions sampleRuntime "a" [("a", 5), ("a", 6), ("a", 7)]) :
      ℤ) ≤ 2 :=
  bounded_of_noUpdates sampleRuntime 2 60000 (by decide)
    [("a", 5), ("a", 6), ("a", 7), ("b", 7)] (by simp [InOrder])
    (noUpdates_of_nodup (by decide) (by decide)) [("a", 5), ("a", 6), ("a", 7)] [("b", 7)] rfl "a" 4

/-- Three calls of one millisecond are all let through, under a limit of two. -/
theorem one_millisecond_exceeds :
    let calls := [("a", 5), ("a", 5), ("a", 5)]
    InOrder calls ∧
      count 60000 4 ((init 2 60000).admissions sampleRuntime "a" calls) = 3 := by
  refine ⟨?_, by decide +kernel⟩
  simp [InOrder]

end Examples

end RedisRateLimiter

end AuthzKit
