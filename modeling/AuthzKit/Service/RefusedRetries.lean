import AuthzKit.Service.StackRuns

/-!
What happens to a request that the rate limiter refused when it is sent again.

* `stored_from`: an entry of the store is the response of a request that has been answered.
* `refused_retry_handled`: a retry with room at the limiter gets its handler's response, when
  no retry that is due is sent while a refusal is stored under its key.
* `trace_of_retriesWait`: no such retry is sent where each waits for the 300 seconds of the
  refusals it repeats.
* `stored_refusal_replayed`: one that is gets the refusal again.
-/

namespace AuthzKit

open Interleaving

variable {α ι : Type*} {stack : Stack α ι} {key : String}
variable {s : Shared α} {call : HttpCall} {d : StepInput ι}
variable {c c' : Config (Shared α) HttpCall} {e : Event HttpCall (StepInput ι)}

namespace Stack

/-! ### Answered requests -/

/-- An answered request stays as it is. -/
lemma answered_mem_step (hstep : stack.interleaving.machine.step c e c') {origin : Origin}
    {response : HttpResponse} {time : ℕ} (hmem : call ∈ c.processes)
    (hphase : call.phase = .answered origin response time) : call ∈ c'.processes := by
  obtain ⟨i, hi⟩ := List.getElem?_of_mem hmem
  rcases getElem?_step hstep hi with h | ⟨d, -, -, h⟩
  · exact List.mem_of_getElem? h
  · have h : c'.processes[i]? = some (stack.act c.shared call d).2 := h
    rw [act_answered hphase] at h
    exact List.mem_of_getElem? h

/-- The store holds an entry for the response of an answered request. -/
def StoredFrom (stack : Stack α ι) (c : Config (Shared α) HttpCall) : Prop :=
  ∀ key entry, c.shared.store.lookup key = some entry →
    ∃ q ∈ c.processes, stack.keyOf q = some key ∧ ∃ origin response time, origin ≠ .replayed ∧
      q.phase = .answered origin response time ∧
      entry = ⟨response.stored, time + idempotencyTtl⟩

/-- Every entry of the store is the response of an answered request. -/
theorem stored_from (h : stack.interleaving.machine.Reachable c) : stack.StoredFrom c := by
  refine h.invariant (P := stack.StoredFrom) ?_ ?_
  · rintro c ⟨hempty, -⟩ key entry hentry
    have hempty : c.shared.store = [] := hempty
    rw [hempty] at hentry
    cases hentry
  · intro c e c' hreach hc hstep key entry hentry
    have hkept : c.shared.store.lookup key = some entry →
        ∃ q ∈ c'.processes, stack.keyOf q = some key ∧ ∃ origin response time,
          origin ≠ .replayed ∧ q.phase = .answered origin response time ∧
          entry = ⟨response.stored, time + idempotencyTtl⟩ := by
      intro hold
      obtain ⟨q, hq, hkey, origin, response, time, horigin, hphase, heq⟩ := hc key entry hold
      exact ⟨q, answered_mem_step hstep hq hphase, hkey, origin, response, time, horigin, hphase,
        heq⟩
    cases e with
    | arrive q =>
        obtain ⟨-, rfl⟩ := hstep
        exact hkept hentry
    | act i d =>
        obtain ⟨p, hp, -, rfl⟩ := id hstep
        rcases lookup_act hentry with ⟨origin, response, hphase, hkey, rfl⟩ | ⟨hold, -⟩
        · have hwell := wellPhased hreach p (List.mem_of_getElem? hp)
          rw [WellPhased, hphase] at hwell
          refine ⟨_, List.mem_of_getElem? (getElem?_after_self hp),
            by rw [← hkey]; exact keyOf_act, origin, response, d.now, hwell.1, ?_, rfl⟩
          exact congrArg HttpCall.phase (act_storing hphase)
        · exact hkept hold

/-! ### Retries -/

variable (stack key)

/-- A request with the key has been refused, and the interval it was told is over. -/
def RetryDue (c : Config (Shared α) HttpCall) (now : ℕ) : Prop :=
  ∃ q ∈ c.processes, stack.keyOf q = some key ∧ ∃ refusal ∈ q.refusal,
    ∃ retryAfter ∈ refusal.1.body.retryAfter, refusal.2 + retryAfter ≤ now

/-- A refusal less than 300 seconds old is stored under the key. -/
def RefusalStored (c : Config (Shared α) HttpCall) (now : ℕ) : Prop :=
  ∃ q ∈ c.processes, stack.keyOf q = some key ∧ ∃ refusal ∈ q.refusal,
    c.shared.store.lookup key = some ⟨refusal.1.stored, refusal.2 + idempotencyTtl⟩ ∧
      now < refusal.2 + idempotencyTtl

/-- No retry that is due, and for which the limiter has room, is sent while a refusal is stored
under its key. -/
def RefusalsExpired (c : Config (Shared α) HttpCall) : Event HttpCall (StepInput ι) → Prop
  | .arrive _ => True
  | .act i d => ∀ p ∈ c.processes[i]?, p.phase = .received → ∀ key ∈ stack.keyOf p,
      c.shared.limiter.HasRoom stack.backend d.now (rateLimitKey p.request) →
      stack.RetryDue key c d.now → ¬stack.RefusalStored key c d.now

instance (c : Config (Shared α) HttpCall) (now : ℕ) : Decidable (stack.RetryDue key c now) :=
  inferInstanceAs (Decidable (∃ q ∈ c.processes, _ ∧ ∃ refusal ∈ q.refusal,
    ∃ retryAfter ∈ refusal.1.body.retryAfter, refusal.2 + retryAfter ≤ now))

instance (c : Config (Shared α) HttpCall) (now : ℕ) : Decidable (stack.RefusalStored key c now) :=
  inferInstanceAs (Decidable (∃ q ∈ c.processes, _ ∧ ∃ refusal ∈ q.refusal, _ ∧ _))

instance decidableRefusalsExpired (c : Config (Shared α) HttpCall) :
    ∀ e : Event HttpCall (StepInput ι), Decidable (stack.RefusalsExpired c e)
  | .arrive _ => isTrue trivial
  | .act i d =>
      inferInstanceAs (Decidable (∀ p ∈ c.processes[i]?, p.phase = .received →
        ∀ key ∈ stack.keyOf p,
          c.shared.limiter.HasRoom stack.backend d.now (rateLimitKey p.request) →
          stack.RetryDue key c d.now → ¬stack.RefusalStored key c d.now))

/-- No retry that is due is sent within 300 seconds of a refusal that it repeats. -/
def RetriesWait (c : Config (Shared α) HttpCall) : Event HttpCall (StepInput ι) → Prop
  | .arrive _ => True
  | .act i d => ∀ p ∈ c.processes[i]?, p.phase = .received → ∀ key ∈ stack.keyOf p,
      stack.RetryDue key c d.now →
      ∀ q ∈ c.processes, stack.keyOf q = some key → ∀ refusal ∈ q.refusal,
        refusal.2 + idempotencyTtl ≤ d.now

/-- A request with the key has missed, or been answered with the response of a handler. -/
def Served (request : HttpRequest) (c : Config (Shared α) HttpCall) (call : HttpCall) : Prop :=
  call.request = request ∧
    match call.phase with
    | .received => False
    | .limiting | .handling _ => True
    | .storing origin _ => origin = .handled
    | .answered origin response _ =>
        origin = .handled ∨ origin = .replayed ∧ ∃ q ∈ c.processes, stack.keyOf q = some key ∧
          ∃ first time, q.phase = .answered .handled first time ∧ response.stored = first.stored

variable {stack key}

lemma served_respond_handled {request : HttpRequest} {response : HttpResponse} {runs : ℕ}
    (h : call.request = request) :
    stack.Served key request c
      ⟨call.request, stack.respond call .handled response d.now, runs⟩ := by
  rcases stack.respond_cases call .handled response d.now with ⟨_, -, -, heq⟩ | ⟨-, heq⟩
  · rw [heq]
    exact ⟨h, rfl⟩
  · rw [heq]
    exact ⟨h, Or.inl rfl⟩

/-- The lookup of a retry that is due. -/
lemma served_lookup {i : ℕ} (hreach : stack.interleaving.machine.Reachable c)
    (hi : c.processes[i]? = some call) (hphase : call.phase = .received)
    (hkey : stack.keyOf call = some key) (hclock : c.shared.now ≤ d.now)
    (hexpired : stack.RefusalsExpired c (.act i d)) (hdue : stack.RetryDue key c d.now)
    (hroom : c.shared.limiter.HasRoom stack.backend d.now (rateLimitKey call.request)) :
    stack.Served key call.request (stack.interleaving.after c i call d)
      (stack.act c.shared call d).2 := by
  have hstep : stack.interleaving.machine.step c (.act i d) (stack.interleaving.after c i call d) :=
    ⟨call, hi, hclock, rfl⟩
  rcases act_received stack c.shared d hphase with
    ⟨hact, -⟩ | ⟨key', stored, hkey', hget, hact⟩
  · rw [hact]
    exact ⟨rfl, trivial⟩
  · obtain rfl : key = key' := Option.some.inj (hkey.symm.trans hkey')
    obtain ⟨entry, hentry, hlive, rfl⟩ := IdempotencyStore.get_eq_some.mp hget
    obtain ⟨q, hq, hqkey, origin, response, time, horigin, hqphase, rfl⟩ :=
      stored_from hreach key entry hentry
    rw [hact]
    refine ⟨rfl, Or.inr ⟨rfl, q, answered_mem_step hstep hq hqphase, hqkey, ?_⟩⟩
    cases origin with
    | replayed => exact absurd rfl horigin
    | handled => exact ⟨response, time, hqphase, rfl⟩
    | refused =>
        -- what is stored would be a refusal, with a retry due
        have hrefusal : q.refusal = some (response, time) := by rw [HttpCall.refusal, hqphase]
        exact absurd ⟨q, hq, hqkey, (response, time), hrefusal, hentry, hlive⟩
          (hexpired call hi hphase key hkey hroom hdue)

/-- The step in which a retry that is due is looked up. -/
lemma served_step {i : ℕ} (hreach : stack.interleaving.machine.Reachable c)
    (hi : c.processes[i]? = some call) (hphase : call.phase = .received)
    (hkey : stack.keyOf call = some key) (hstep : stack.interleaving.machine.step c e c')
    (hexpired : stack.RefusalsExpired c e) (hlookup : c'.processes[i]? ≠ some call)
    (hdue : stack.RetryDue key c c'.shared.now)
    (hroom : c.shared.limiter.HasRoom stack.backend c'.shared.now (rateLimitKey call.request)) :
    ∃ q, c'.processes[i]? = some q ∧ stack.Served key call.request c' q := by
  cases e with
  | arrive q =>
      obtain ⟨-, rfl⟩ := hstep
      exact absurd ((List.getElem?_append_left (List.getElem?_eq_some_iff.mp hi).1).trans hi)
        hlookup
  | act j d =>
      obtain ⟨p, hp, hclock, rfl⟩ := hstep
      by_cases hij : j = i
      · subst hij
        obtain rfl : p = call := Option.some.inj (hp.symm.trans hi)
        have hnow : (stack.interleaving.after c j p d).shared.now = d.now :=
          act_now (by rw [HttpCall.answer, hphase])
        rw [hnow] at hdue hroom
        exact ⟨_, getElem?_after_self hp, served_lookup hreach hp hphase hkey hclock hexpired hdue
          hroom⟩
      · exact absurd ((getElem?_after_ne hij).trans hi) hlookup

/-- The later steps of a retry. -/
lemma Served.act {request : HttpRequest} {i : ℕ} (h : stack.Served key request c call)
    (hi : c.processes[i]? = some call) (hclock : c.shared.now ≤ d.now)
    (hroom : call.phase = .limiting →
      c.shared.limiter.HasRoom stack.backend d.now (rateLimitKey call.request)) :
    stack.Served key request (stack.interleaving.after c i call d)
      (stack.act c.shared call d).2 := by
  have hstep : stack.interleaving.machine.step c (.act i d) (stack.interleaving.after c i call d) :=
    ⟨call, hi, hclock, rfl⟩
  obtain ⟨hrequest, h⟩ := h
  cases hphase : call.phase with
  | received =>
      rw [hphase] at h
      exact h.elim
  | limiting =>
      rcases act_limiting stack c.shared d hphase with
        ⟨_, hact⟩ | ⟨_, -, hnoroom, -⟩
      · rw [hact]
        exact ⟨hrequest, trivial⟩
      · exact absurd (hroom hphase) hnoroom
  | handling remaining =>
      obtain ⟨response, -, -, -, hact⟩ :=
        act_handling stack c.shared d hphase
      rw [hact]
      exact served_respond_handled hrequest
  | storing origin response =>
      rw [hphase] at h
      rw [act_storing hphase]
      exact ⟨hrequest, Or.inl h⟩
  | answered origin response time =>
      rw [act_answered hphase]
      rw [hphase] at h
      refine ⟨hrequest, ?_⟩
      rw [hphase]
      rcases h with hhandled | ⟨hreplayed, q, hq, hqkey, first, time', hqphase, hstored⟩
      · exact Or.inl hhandled
      · exact Or.inr ⟨hreplayed, q, answered_mem_step hstep hq hqphase, hqkey, first, time',
          hqphase, hstored⟩

/-- A retry while any request takes a step. -/
lemma Served.step {request : HttpRequest} {i : ℕ} (h : stack.Served key request c call)
    (hi : c.processes[i]? = some call) (hstep : stack.interleaving.machine.step c e c')
    (hroom : call.phase = .limiting → c'.processes[i]? ≠ some call →
      c.shared.limiter.HasRoom stack.backend c'.shared.now (rateLimitKey call.request)) :
    ∃ q, c'.processes[i]? = some q ∧ stack.Served key request c' q := by
  have hothers : c'.processes[i]? = some call → stack.Served key request c' call := by
    intro hsame
    obtain ⟨hrequest, hphase⟩ := h
    refine ⟨hrequest, ?_⟩
    split at hphase
    · exact hphase
    · exact hphase
    · exact hphase
    · exact hphase
    · rcases hphase with hhandled | ⟨hreplayed, q, hq, hqkey, first, time, hqphase, hstored⟩
      · exact Or.inl hhandled
      · exact Or.inr ⟨hreplayed, q, answered_mem_step hstep hq hqphase, hqkey, first, time,
          hqphase, hstored⟩
  cases e with
  | arrive q =>
      obtain ⟨-, rfl⟩ := id hstep
      have hsame : (c.processes ++ [q])[i]? = some call :=
        (List.getElem?_append_left (List.getElem?_eq_some_iff.mp hi).1).trans hi
      exact ⟨call, hsame, hothers hsame⟩
  | act j d =>
      obtain ⟨p, hp, hclock, rfl⟩ := id hstep
      by_cases hij : j = i
      · subst hij
        obtain rfl : p = call := Option.some.inj (hp.symm.trans hi)
        have hself : (stack.interleaving.after c j p d).processes[j]? =
            some (stack.act c.shared p d).2 := getElem?_after_self hp
        refine ⟨_, hself, h.act hp hclock fun hlimiting => ?_⟩
        have hopen : p.answer = none := by rw [HttpCall.answer, hlimiting]
        have hnow : (stack.interleaving.after c j p d).shared.now = d.now := act_now hopen
        rw [← hnow]
        refine hroom hlimiting fun heq =>
          act_phase_ne stack c.shared d hopen ?_
        rw [hself] at heq
        rw [Option.some.inj heq]
      · have hsame : (stack.interleaving.after c j p d).processes[i]? = some call :=
          (getElem?_after_ne hij).trans hi
        exact ⟨call, hsame, hothers hsame⟩

/-- A refused request has run no handler. -/
lemma WellPhased.not_run (h : stack.WellPhased call) (hrefused : call.Refused) :
    call.handlerRuns = 0 := by
  rw [HttpCall.Refused] at hrefused
  rw [WellPhased] at h
  split at hrefused
  · rename_i hphase
    rw [hphase] at h
    exact h.2.2.2
  · rename_i hphase
    rw [hphase] at h
    exact h.2
  · exact hrefused.elim

end Stack

variable {states : ℕ → Config (Shared α) HttpCall} {n : ℕ}

/-- Retries that wait find no refusal in the store. -/
theorem trace_of_retriesWait
    (h : (stack.interleaving.machine.restrict stack.RetriesWait).Trace states n) :
    (stack.interleaving.machine.restrict stack.RefusalsExpired).Trace states n := by
  refine h.weaken fun c e hwait => ?_
  cases e with
  | arrive q => trivial
  | act i d =>
      rintro p hp hreceived key hkey - hdue ⟨q, hq, hqkey, refusal, hrefusal, -, hlive⟩
      exact absurd (hwait p hp hreceived key hkey hdue q hq hqkey refusal hrefusal)
        (not_le.mpr hlive)

/-- **Refusals do not poison retries** that are not sent while one is stored: a refused request
has run no handler, and a retry with room at the limiter, looked up after the interval, is answered
by its handler or with the response of the handler that ran for its key. -/
theorem refused_retry_handled (stack : Stack α ι)
    (h : (stack.interleaving.machine.restrict stack.RefusalsExpired).Trace states n) :
    (∀ l ≤ n, ∀ q ∈ (states l).processes, q.Refused → q.handlerRuns = 0) ∧
    ∀ (m m' i : ℕ) (p p' : HttpCall) (key : String) (origin : Origin) (response : HttpResponse)
      (time : ℕ), m ≤ m' → m' ≤ n →
      (states m).processes[i]? = some p → p.phase = .received → stack.keyOf p = some key →
      (states (m + 1)).processes[i]? ≠ some p →
      stack.RetryDue key (states m) (states (m + 1)).shared.now →
      (∀ l q, m ≤ l → l < m' → (states l).processes[i]? = some q →
        q.phase = .received ∨ q.phase = .limiting → (states (l + 1)).processes[i]? ≠ some q →
        (states l).shared.limiter.HasRoom stack.backend (states (l + 1)).shared.now
          (rateLimitKey p.request)) →
      (states m').processes[i]? = some p' → p'.phase = .answered origin response time →
      origin = .handled ∧ p'.handlerRuns = 1 ∨
        origin = .replayed ∧ ∃ q ∈ (states m').processes, stack.keyOf q = some key ∧
          q.handlerRuns = 1 ∧ ∃ first time', q.phase = .answered .handled first time' ∧
            response.stored = first.stored := by
  have hwell : ∀ l ≤ n, ∀ q ∈ (states l).processes, stack.WellPhased q :=
    fun l hl => Stack.wellPhased (h.reachable hl).of_restrict
  refine ⟨fun l hl q hq => (hwell l hl q hq).not_run, ?_⟩
  intro m m' i p p' key origin response time hm hm' hp hreceived hkey hlookup hdue hroom hp' hphase
  have hlt : m < m' := by
    refine lt_of_le_of_ne hm fun heq => ?_
    subst heq
    obtain rfl : p = p' := Option.some.inj (hp.symm.trans hp')
    rw [hreceived] at hphase
    cases hphase
  have hfirst : ∃ q, (states (m + 1)).processes[i]? = some q ∧
      stack.Served key p.request (states (m + 1)) q := by
    obtain ⟨e, hstep, hexpired⟩ := h.step m (by omega)
    exact Stack.served_step (h.reachable (by omega)).of_restrict hp hreceived hkey hstep hexpired
      hlookup hdue (hroom m p le_rfl hlt hp (Or.inl hreceived) hlookup)
  have hserved : m' ≤ m' → ∃ q, (states m').processes[i]? = some q ∧
      stack.Served key p.request (states m') q := by
    refine h.from_moment (P := fun l c => l ≤ m' → ∃ q, c.processes[i]? = some q ∧
      stack.Served key p.request c q) (fun _ => hfirst) (fun l e hml hl hinv hstep hlm => ?_)
      (show m + 1 ≤ m' from hlt) hm'
    obtain ⟨q, hq, hprogress⟩ := hinv (by omega)
    refine hprogress.step hq hstep.1 fun hlimiting hne => ?_
    rw [hprogress.1]
    exact hroom l q (by omega) (by omega) hq (Or.inr hlimiting) hne
  obtain ⟨q, hq, hrequest, hresponse⟩ := hserved le_rfl
  obtain rfl : p' = q := Option.some.inj (hp'.symm.trans hq)
  have hruns : ∀ q ∈ (states m').processes, ∀ first time',
      q.phase = .answered .handled first time' → q.handlerRuns = 1 := by
    intro q hq first time' hqphase
    have hq := hwell m' hm' q hq
    rw [Stack.WellPhased, hqphase] at hq
    exact hq.2
  rw [hphase] at hresponse
  rcases hresponse with rfl | ⟨rfl, q, hq, hqkey, first, time', hqphase, hstored⟩
  · exact Or.inl ⟨rfl, hruns p' (List.mem_of_getElem? hp') response time hphase⟩
  · exact Or.inr ⟨rfl, q, hq, hqkey, hruns q hq first time' hqphase, first, time', hqphase,
      hstored⟩

section Examples

namespace countingStack

/-- The same request with another key. -/
def otherRequest : HttpRequest := { request with idempotencyKey := some "k0" }

/-- The limiter lets one request through a minute. -/
def startLimited : Config (Shared ℕ) HttpCall := ⟨⟨0, ⟨1, fun _ => []⟩, [], 0⟩, []⟩

/-- A request takes the only slot at second 1, and the next one is refused at second 2. -/
def refusedOnce : List (Event HttpCall (StepInput Unit)) :=
  [.arrive (.sent otherRequest), step 0 (1 * 10 ^ 9), step 0 (1 * 10 ^ 9), step 0 (1 * 10 ^ 9),
    step 0 (1 * 10 ^ 9), .arrive (.sent request), step 1 (2 * 10 ^ 9), step 1 (2 * 10 ^ 9),
    step 1 (2 * 10 ^ 9), .arrive (.sent request)]

/-- Its retry is looked up at second 400. -/
def retriedLate : List (Event HttpCall (StepInput Unit)) :=
  refusedOnce ++ [step 2 (400 * 10 ^ 9), step 2 (400 * 10 ^ 9), step 2 (400 * 10 ^ 9),
    step 2 (400 * 10 ^ 9)]

/-- Its retry is looked up at second 70. -/
def retriedEarly : List (Event HttpCall (StepInput Unit)) :=
  refusedOnce ++ [step 2 (70 * 10 ^ 9)]

end countingStack

open countingStack in
/-- A retry after 400 seconds runs its handler. -/
theorem refused_retry_handled_late :
    ∃ q, (countingStack.interleaving.run startLimited retriedLate).processes[2]? = some q ∧
      (Origin.handled = .handled ∧ q.handlerRuns = 1 ∨
        Origin.handled = .replayed ∧ ∃ q' ∈
          (countingStack.interleaving.run startLimited retriedLate).processes,
          countingStack.keyOf q' = some requestKey ∧ q'.handlerRuns = 1 ∧ ∃ first time',
            q'.phase = .answered .handled first time' ∧
              (⟨201, .bytes "2", "application/json", [("X-RateLimit-Limit", "1"),
                ("X-RateLimit-Remaining", "0")]⟩ : HttpResponse).stored = first.stored) := by
  have htrace : (countingStack.interleaving.machine.restrict
      countingStack.RefusalsExpired).Trace
        (fun k => countingStack.interleaving.run startLimited (retriedLate.take k)) 14 :=
    trace_runUnder ⟨rfl, rfl⟩ (by decide +kernel)
  have hanswered : (countingStack.interleaving.run startLimited retriedLate).processes[2]? =
      some ⟨request, .answered .handled ⟨201, .bytes "2", "application/json",
        [("X-RateLimit-Limit", "1"), ("X-RateLimit-Remaining", "0")]⟩ (400 * 10 ^ 9), 1⟩ := by
    decide +kernel
  refine ⟨_, hanswered, ?_⟩
  refine (refused_retry_handled countingStack htrace).2 10 14 2 (.sent request) _ requestKey
    .handled _ (400 * 10 ^ 9) (by decide) le_rfl (by decide +kernel) rfl (by decide +kernel)
    (by decide +kernel) (by decide +kernel) (fun l q hl hl' hq hasks _ => ?_) hanswered rfl
  -- it has left the limiter after two steps
  have hleft : ∀ l, l = 12 ∨ l = 13 → ∀ q ∈ (countingStack.interleaving.run startLimited
      (retriedLate.take l)).processes[2]?, ¬(q.phase = .received ∨ q.phase = .limiting) := by
    rintro l (rfl | rfl) <;> decide +kernel
  have hearly : l = 10 ∨ l = 11 := by
    by_contra hlate
    exact hleft l (by omega) q hq hasks
  rcases hearly with rfl | rfl <;> decide +kernel

open countingStack in
/-- A refused request is sent again 68 seconds later, when the limiter has room and the
interval of 59 seconds is over: it gets the stored refusal, and no handler runs. -/
theorem stored_refusal_replayed :
    ∃ (states : ℕ → Config (Shared ℕ) HttpCall) (n : ℕ) (p q : HttpCall),
      countingStack.interleaving.machine.Trace states n ∧
      (states n).processes[1]? = some p ∧ p.Refused ∧ p.handlerRuns = 0 ∧
      (states n).processes[2]? = some q ∧ q.request = p.request ∧
      countingStack.RetryDue requestKey (states (n - 1)) (states n).shared.now ∧
      (states (n - 1)).shared.limiter.HasRoom countingStack.backend (states n).shared.now
        (rateLimitKey q.request) ∧
      q.handlerRuns = 0 ∧ q.answer = some (rateLimitedResponse (59 * 10 ^ 9)).stored.replay :=
  ⟨fun k => countingStack.interleaving.run startLimited (retriedEarly.take k), 11,
    ⟨request, .answered .refused (rateLimitedResponse (59 * 10 ^ 9)) (2 * 10 ^ 9), 0⟩,
    ⟨request, .answered .replayed (rateLimitedResponse (59 * 10 ^ 9)).stored.replay (70 * 10 ^ 9),
      0⟩,
    trace_run ⟨rfl, rfl⟩ (by decide +kernel), by decide +kernel, trivial, rfl,
    by decide +kernel, rfl, by decide +kernel, by decide +kernel, rfl, rfl⟩

end Examples

end AuthzKit
