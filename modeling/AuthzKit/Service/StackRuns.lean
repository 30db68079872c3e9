import AuthzKit.Service.Stack

/-!
What holds of the requests with one cache key, in every interleaving.

* `first_response`: when no two of them overlap around a response below 500, and that
  response stays stored, they run at most one handler to it and all receive it.
* `overlapping_lookups_both_run`: two that overlap both run.
-/

namespace AuthzKit

open Interleaving

variable {α ι : Type*} {stack : Stack α ι} {key : String}
variable {s : Shared α} {call : HttpCall} {d : StepInput ι}
variable {c c' : Config (Shared α) HttpCall}

namespace Stack

variable (stack key)

/-- The requests with the key do not overlap around a response below 500: when one of them
gets such a response, no other is between its lookup and its response, and none is looked up
before that response is stored. -/
def Apart (c : Config (Shared α) HttpCall) : Event HttpCall (StepInput ι) → Prop
  | .arrive _ => True
  | .act i d => ∀ p ∈ c.processes[i]?, stack.keyOf p = some key →
      (p.phase = .received → ∀ q ∈ c.processes, stack.keyOf q = some key → ¬q.Storing) ∧
      (p.Pending → (stack.act c.shared p d).2.Succeeded →
        ∀ q ∈ c.processes.eraseIdx i, stack.keyOf q = some key → ¬q.Pending)

instance decidableApart (c : Config (Shared α) HttpCall) :
    ∀ e : Event HttpCall (StepInput ι), Decidable (stack.Apart key c e)
  | .arrive _ => isTrue trivial
  | .act i _ =>
      inferInstanceAs (Decidable (∀ p ∈ c.processes[i]?, stack.keyOf p = some key → _ ∧ _))

/-- A response stored under the key is still there: it has neither been evicted nor dropped
for its age. -/
def Retained (c : Config (Shared α) HttpCall) : Prop :=
  ∀ p ∈ c.processes, stack.keyOf p = some key → p.Stored →
    c.shared.store.lookup key ≠ none

instance decidableRetained (c : Config (Shared α) HttpCall) : Decidable (stack.Retained key c) :=
  inferInstanceAs (Decidable (∀ p ∈ c.processes, stack.keyOf p = some key → p.Stored → _))

/-- The request that got the first response stores it, or has stored it. -/
def Owner (response : HttpResponse) (s : Shared α) (call : HttpCall) : Prop :=
  stack.keyOf call = some key ∧ response.status < 500 ∧
    ((∃ origin, call.phase = .storing origin response) ∧ s.store.lookup key = none ∨
      call.Stored ∧ call.produced = some response ∧
        ∃ e, s.store.lookup key = some e ∧ e.response = response.stored)

/-- The request at `i` has got the first response below 500. -/
structure First (i : ℕ) (response : HttpResponse) (c : Config (Shared α) HttpCall) : Prop where
  owner : ∃ p, c.processes[i]? = some p ∧ stack.Owner key response c.shared p
  beside : ∀ (j : ℕ) q, j ≠ i → c.processes[j]? = some q → stack.keyOf q = some key →
    ¬q.Pending ∧ ¬q.Succeeded

/-- No request has got a response below 500. -/
structure NoneYet (c : Config (Shared α) HttpCall) : Prop where
  notStored : c.shared.store.lookup key = none
  none : ∀ q ∈ c.processes, stack.keyOf q = some key → ¬q.Succeeded

variable {stack key}

/-- What is being stored is a response below 500. -/
lemma succeeded_of_storing (h : stack.WellPhased call) {origin : Origin}
    {response : HttpResponse} (hphase : call.phase = .storing origin response) :
    call.Succeeded := by
  rw [WellPhased, hphase] at h
  exact ⟨response, by rw [HttpCall.produced, hphase], h.2.1.2⟩

/-- A step of a request with the key, beside the one that got the first response. -/
lemma Owner.act_beside {response : HttpResponse} {p : HttpCall}
    (howner : stack.Owner key response s p) (hkey : stack.keyOf call = some key)
    (hwell : stack.WellPhased call) (hpending : ¬call.Pending) (hfailed : ¬call.Succeeded)
    (hapart : call.phase = .received → ¬p.Storing)
    (hretained : p.Stored → (stack.act s call d).1.store.lookup key ≠ none) :
    ¬(stack.act s call d).2.Pending ∧ ¬(stack.act s call d).2.Succeeded ∧
      (stack.act s call d).2.handlerRuns = call.handlerRuns ∧
      ∀ a, (stack.act s call d).2.answer = some a → call.answer = some a ∨
        a.stored = response.stored := by
  cases hphase : call.phase with
  | received =>
      obtain ⟨-, -, ⟨⟨origin, hstoring⟩, -⟩ | ⟨hstored, -, e, he, hresponse⟩⟩ := howner
      · exact absurd (by rw [HttpCall.Storing, hstoring]; trivial) (hapart hphase)
      · rcases act_received stack s d hphase with
          ⟨-, hmissed⟩ | ⟨key', stored, hkey', hget, hact⟩
        · exact absurd (store_of_missed hphase hkey (hmissed key hkey)) (hretained hstored)
        · obtain rfl : key = key' := Option.some.inj (hkey.symm.trans hkey')
          obtain ⟨e', he', -, rfl⟩ := IdempotencyStore.get_eq_some.mp hget
          obtain rfl : e = e' := Option.some.inj (he.symm.trans he')
          rw [hact]
          refine ⟨id, ?_, rfl, ?_⟩
          · rintro ⟨r, hr, -⟩
            cases hr
          · intro a ha
            rw [← Option.some.inj ha, StoredResponse.stored_replay, hresponse]
            exact Or.inr rfl
  | limiting => exact absurd (by rw [HttpCall.Pending, hphase]; trivial) hpending
  | handling remaining => exact absurd (by rw [HttpCall.Pending, hphase]; trivial) hpending
  | storing origin r => exact absurd (succeeded_of_storing hwell hphase) hfailed
  | answered origin r time =>
      rw [act_answered hphase]
      exact ⟨hpending, hfailed, rfl, fun a ha => Or.inl ha⟩

/-- The owner while another request takes a step. -/
lemma Owner.others {response : HttpResponse} {p : HttpCall}
    (howner : stack.Owner key response s p)
    (hstoring : ∀ origin r, call.phase = .storing origin r → stack.keyOf call ≠ some key)
    (hretained : p.Stored → (stack.act s call d).1.store.lookup key ≠ none) :
    stack.Owner key response (stack.act s call d).1 p := by
  have hold : ∀ e, (stack.act s call d).1.store.lookup key = some e →
      s.store.lookup key = some e := by
    intro e he
    rcases lookup_act he with ⟨origin, r, hphase, hkey, -⟩ | ⟨h, -⟩
    · exact absurd hkey (hstoring origin r hphase)
    · exact h
  obtain ⟨hkey, hstatus, ⟨hp, hnone⟩ | ⟨hstored, hproduced, e, he, hresponse⟩⟩ := howner
  · refine ⟨hkey, hstatus, Or.inl ⟨hp, ?_⟩⟩
    rw [Option.eq_none_iff_forall_ne_some]
    intro e he
    rw [hold e he] at hnone
    cases hnone
  · obtain ⟨e', he'⟩ := Option.ne_none_iff_exists'.mp (hretained hstored)
    obtain rfl : e = e' := Option.some.inj (he.symm.trans (hold e' he'))
    exact ⟨hkey, hstatus, Or.inr ⟨hstored, hproduced, e, he', hresponse⟩⟩

/-- The owner takes a step. -/
lemma Owner.act {response : HttpResponse} (howner : stack.Owner key response s call)
    (hwell : stack.WellPhased call)
    (hretained : (stack.act s call d).2.Stored →
      (stack.act s call d).1.store.lookup key ≠ none) :
    stack.Owner key response (stack.act s call d).1 (stack.act s call d).2 ∧
      (stack.act s call d).2.handlerRuns = call.handlerRuns ∧
      ∀ a, (stack.act s call d).2.answer = some a → call.answer = some a ∨
        a.stored = response.stored := by
  obtain ⟨hkey, hstatus, ⟨⟨origin, hphase⟩, hnone⟩ | ⟨hstored, hproduced, hentry⟩⟩ := howner
  · have hcacheable : origin ≠ .replayed ∧ response.Cacheable := by
      rw [WellPhased, hphase] at hwell
      exact ⟨hwell.1, hwell.2.1⟩
    have hstored : (stack.act s call d).2.Stored := by
      rw [act_storing hphase]
      exact hcacheable
    obtain ⟨e, he⟩ := Option.ne_none_iff_exists'.mp (hretained hstored)
    refine ⟨⟨by rw [keyOf_act, hkey], hstatus, Or.inr ⟨hstored, ?_, e, he, ?_⟩⟩, ?_, ?_⟩
    · rw [act_storing hphase, HttpCall.produced]
      cases origin with
      | replayed => exact absurd rfl hcacheable.1
      | _ => rfl
    · rcases lookup_act he with ⟨origin', r, hphase', -, rfl⟩ | ⟨hlookup, -⟩
      · rw [hphase] at hphase'
        cases hphase'
        rfl
      · rw [hnone] at hlookup
        cases hlookup
    · rw [act_storing hphase]
    · rw [act_storing hphase]
      intro a ha
      rw [← Option.some.inj ha]
      exact Or.inr rfl
  · obtain ⟨origin, r, time, hphase, -⟩ := hstored.phase
    rw [act_answered hphase]
    exact ⟨⟨hkey, hstatus, Or.inr ⟨hstored, hproduced, hentry⟩⟩, rfl, fun a ha => Or.inl ha⟩

/-! ### Steps around the first response -/

/-- How often a handler has run for the request at a position. -/
def runs (c : Config (Shared α) HttpCall) (j : ℕ) : ℕ :=
  (c.processes[j]?.map HttpCall.handlerRuns).getD 0

/-- What the request at a position has been answered. -/
def answerOf (c : Config (Shared α) HttpCall) (j : ℕ) : Option HttpResponse :=
  c.processes[j]?.bind HttpCall.answer

/-- After the first response no handler runs for the key, and every new answer is that
response. -/
def Settled (key : String) (response : HttpResponse) (c c' : Config (Shared α) HttpCall) : Prop :=
  ∀ (j : ℕ) q, c'.processes[j]? = some q → stack.keyOf q = some key →
    q.handlerRuns ≤ runs c j ∧
      ∀ a, q.answer = some a → answerOf c j = some a ∨ a.stored = response.stored

lemma sent_quiet (request : HttpRequest) :
    ¬(HttpCall.sent request).Pending ∧ ¬(HttpCall.sent request).Succeeded := by
  refine ⟨id, ?_⟩
  rintro ⟨r, hr, -⟩
  cases hr

/-- A request that has taken no step. -/
lemma settled_self (response : HttpResponse) : stack.Settled key response c c := by
  intro j q hq _
  rw [runs, answerOf, hq]
  exact ⟨le_rfl, fun a ha => Or.inl ha⟩

/-- A request had its key before. -/
lemma keyOf_before {e : Event HttpCall (StepInput ι)}
    (hstep : stack.interleaving.machine.step c e c') {j : ℕ} (hj : c'.processes[j]? = some call) :
    call = .sent call.request ∨
      ∃ q, c.processes[j]? = some q ∧ stack.keyOf q = stack.keyOf call := by
  rcases getElem?_of_step hstep hj with hold | ⟨-, harrived⟩ | ⟨q, d, -, hq, rfl⟩
  · exact Or.inr ⟨call, hold, rfl⟩
  · exact Or.inl harrived
  · exact Or.inr ⟨q, hq, keyOf_act.symm⟩

lemma Settled.trans_step {response : HttpResponse} {c₀ : Config (Shared α) HttpCall}
    {e : Event HttpCall (StepInput ι)} (h : stack.Settled key response c₀ c)
    (hstep : stack.interleaving.machine.step c e c') (h' : stack.Settled key response c c') :
    stack.Settled key response c₀ c' := by
  intro j q hq hkey
  rcases keyOf_before hstep hq with hsent | ⟨q₀, hq₀, hsame⟩
  · rw [hsent]
    exact ⟨Nat.zero_le _, nofun⟩
  · obtain ⟨hruns, hanswers⟩ := h j q₀ hq₀ (hsame.trans hkey)
    have hq' := h' j q hq hkey
    rw [runs, answerOf, hq₀] at hq'
    refine ⟨hq'.1.trans hruns, fun a ha => ?_⟩
    rcases hq'.2 a ha with hold | hfirst
    · exact hanswers a hold
    · exact Or.inr hfirst

/-- A step of the owner or of a request beside it. -/
lemma First.act {i : ℕ} {response : HttpResponse} {j : ℕ}
    (h : stack.First key i response c) (hreach : stack.interleaving.machine.Reachable c)
    (hj : c.processes[j]? = some call) (hapart : stack.Apart key c (.act j d))
    (hretained : stack.Retained key (stack.interleaving.after c j call d)) :
    (∃ p, (stack.interleaving.after c j call d).processes[i]? = some p ∧
        stack.Owner key response (stack.act c.shared call d).1 p) ∧
      (stack.keyOf call = some key →
        (j ≠ i → ¬(stack.act c.shared call d).2.Pending ∧
          ¬(stack.act c.shared call d).2.Succeeded) ∧
        (stack.act c.shared call d).2.handlerRuns = call.handlerRuns ∧
        ∀ a, (stack.act c.shared call d).2.answer = some a → call.answer = some a ∨
          a.stored = response.stored) := by
  obtain ⟨⟨p, hp, howner⟩, hbeside⟩ := h
  have hwell := wellPhased hreach call (List.mem_of_getElem? hj)
  have hself : (stack.interleaving.after c j call d).processes[j]? =
      some (stack.act c.shared call d).2 := getElem?_after_self hj
  by_cases hij : j = i
  · subst hij
    obtain rfl : p = call := Option.some.inj (hp.symm.trans hj)
    have hkept := howner.act (d := d) hwell
      (hretained _ (List.mem_of_getElem? hself) (by rw [keyOf_act, howner.1]))
    exact ⟨⟨_, hself, hkept.1⟩, fun _ => ⟨fun hne => absurd rfl hne, hkept.2⟩⟩
  · have hsame : (stack.interleaving.after c j call d).processes[i]? = some p :=
      (getElem?_after_ne hij).trans hp
    have hstored := hretained p (List.mem_of_getElem? hsame) howner.1
    refine ⟨⟨p, hsame, howner.others (fun origin r hphase hkey => ?_) hstored⟩, fun hkey => ?_⟩
    · exact (hbeside j call hij hj hkey).2 (succeeded_of_storing hwell hphase)
    · obtain ⟨hpending, hfailed⟩ := hbeside j call hij hj hkey
      obtain ⟨hpending', hfailed', hruns⟩ := howner.act_beside hkey hwell hpending hfailed
        (fun hreceived => (hapart call hj hkey).1 hreceived p (List.mem_of_getElem? hp) howner.1)
        hstored
      exact ⟨fun _ => ⟨hpending', hfailed'⟩, hruns⟩

/-- One step after the first response. -/
lemma First.step {i : ℕ} {response : HttpResponse} {e : Event HttpCall (StepInput ι)}
    (h : stack.First key i response c) (hreach : stack.interleaving.machine.Reachable c)
    (hstep : stack.interleaving.machine.step c e c') (hapart : stack.Apart key c e)
    (hretained : stack.Retained key c') :
    stack.First key i response c' ∧ stack.Settled key response c c' := by
  have hposition : ∀ (j : ℕ) q, c'.processes[j]? = some q → stack.keyOf q = some key →
      (j ≠ i → ¬q.Pending ∧ ¬q.Succeeded) ∧ q.handlerRuns ≤ runs c j ∧
        ∀ a, q.answer = some a → answerOf c j = some a ∨ a.stored = response.stored := by
    intro j q hq hkey
    rcases getElem?_of_step hstep hq with hold | ⟨-, harrived⟩ | ⟨p, d, rfl, hp, rfl⟩
    · exact ⟨fun hne => h.beside j q hne hold hkey, settled_self response j q hold hkey⟩
    · have harrived : q = .sent q.request := harrived
      rw [harrived]
      exact ⟨fun _ => sent_quiet _, Nat.zero_le _, nofun⟩
    · obtain ⟨p', hp', -, rfl⟩ := hstep
      obtain rfl : p = p' := Option.some.inj (hp.symm.trans hp')
      obtain ⟨hbeside, hruns, hanswer⟩ :=
        (h.act hreach hp hapart hretained).2 (by rwa [← keyOf_act (d := d)])
      rw [runs, answerOf, hp]
      exact ⟨hbeside, hruns.le, hanswer⟩
  refine ⟨⟨?_, fun j q hne hq hkey => (hposition j q hq hkey).1 hne⟩,
    fun j q hq hkey => (hposition j q hq hkey).2⟩
  cases e with
  | arrive q =>
      obtain ⟨-, rfl⟩ := hstep
      obtain ⟨p, hp, howner⟩ := h.owner
      exact ⟨p, (List.getElem?_append_left (List.getElem?_eq_some_iff.mp hp).1).trans hp, howner⟩
  | act j d =>
      obtain ⟨q, hq, -, rfl⟩ := hstep
      exact (h.act hreach hq hapart hretained).1

/-- A response below 500 is the step of a pending request. -/
lemma pending_of_succeeded (h : (stack.act s call d).2.Succeeded) :
    call.Succeeded ∨ call.Pending := by
  cases hphase : call.phase with
  | received =>
      obtain ⟨r, hr, -⟩ := h
      rcases act_received stack s d hphase with
        ⟨hact, -⟩ | ⟨_, _, -, -, hact⟩
      · rw [hact] at hr
        cases hr
      · rw [hact] at hr
        cases hr
  | limiting => exact Or.inr (by rw [HttpCall.Pending, hphase]; trivial)
  | handling remaining => exact Or.inr (by rw [HttpCall.Pending, hphase]; trivial)
  | storing origin r =>
      obtain ⟨r', hr', hstatus⟩ := h
      rw [act_storing hphase] at hr'
      refine Or.inl ⟨r, by rw [HttpCall.produced, hphase], ?_⟩
      cases origin with
      | replayed => cases hr'
      | _ =>
          obtain rfl : r = r' := Option.some.inj hr'
          exact hstatus
  | answered origin r time =>
      rw [act_answered hphase] at h
      exact Or.inl h

/-- It is then to be stored. -/
lemma storing_of_succeeded (hkey : stack.keyOf call = some key) (hpending : call.Pending)
    (h : (stack.act s call d).2.Succeeded) :
    ∃ origin response, (stack.act s call d).2.phase = .storing origin response ∧
      response.status < 500 := by
  have hrespond : ∀ {origin : Origin} {response : HttpResponse} {runs : ℕ},
      200 ≤ response.status →
      HttpCall.Succeeded ⟨call.request, stack.respond call origin response d.now, runs⟩ →
      ∃ origin' response', stack.respond call origin response d.now = .storing origin' response' ∧
        response'.status < 500 := by
    rintro origin response runs hfinal ⟨r, hr, hstatus⟩
    rcases stack.respond_cases call origin response d.now with
      ⟨_, -, hcacheable, heq⟩ | ⟨hnone | hnot, heq⟩
    · exact ⟨origin, response, heq, hcacheable.2⟩
    · rw [hkey] at hnone
      cases hnone
    · rw [heq] at hr
      refine absurd ⟨hfinal, ?_⟩ hnot
      cases origin with
      | replayed => cases hr
      | _ =>
          obtain rfl : response = r := Option.some.inj hr
          exact hstatus
  cases hphase : call.phase with
  | limiting =>
      rcases act_limiting stack s d hphase with
        ⟨_, hact⟩ | ⟨retryAfter, -, -, hact⟩
      · obtain ⟨r, hr, -⟩ := h
        rw [hact] at hr
        cases hr
      · rw [hact] at h ⊢
        exact hrespond (rateLimitedResponse_cacheable retryAfter).1 h
  | handling remaining =>
      obtain ⟨response, hfinal, -, -, hact⟩ :=
        act_handling stack s d hphase
      rw [hact] at h ⊢
      exact hrespond hfinal h
  | _ => rw [HttpCall.Pending, hphase] at hpending; exact hpending.elim

/-- One step before it. -/
lemma NoneYet.step {e : Event HttpCall (StepInput ι)} (h : stack.NoneYet key c)
    (hreach : stack.interleaving.machine.Reachable c)
    (hstep : stack.interleaving.machine.step c e c') (hapart : stack.Apart key c e) :
    stack.NoneYet key c' ∨ ∃ i response, stack.First key i response c' := by
  cases e with
  | arrive q =>
      obtain ⟨hq, rfl⟩ := hstep
      have hq : q = .sent q.request := hq
      refine Or.inl ⟨h.notStored, fun p hp hkey => ?_⟩
      rcases List.mem_append.mp hp with hp | hp
      · exact h.none p hp hkey
      · rw [List.mem_singleton.mp hp, hq]
        exact (sent_quiet _).2
  | act j d =>
      obtain ⟨p, hp, -, rfl⟩ := hstep
      have hmem := List.mem_of_getElem? hp
      have hwell := wellPhased hreach p hmem
      have hself : (stack.interleaving.after c j p d).processes[j]? =
          some (stack.act c.shared p d).2 := getElem?_after_self hp
      by_cases hfirst : stack.keyOf p = some key ∧ (stack.act c.shared p d).2.Succeeded
      · obtain ⟨hkey, hsucceeded⟩ := hfirst
        have hpending : p.Pending :=
          (pending_of_succeeded hsucceeded).resolve_left (h.none p hmem hkey)
        obtain ⟨origin, response, hphase, hstatus⟩ := storing_of_succeeded hkey hpending hsucceeded
        refine Or.inr ⟨j, response, ⟨_, hself, by rw [keyOf_act, hkey], hstatus,
          Or.inl ⟨⟨origin, hphase⟩, ?_⟩⟩, fun k q hne hq hqkey => ?_⟩
        · have hstore := act_store_eq stack c.shared d
            (fun h' => by rw [HttpCall.Pending, h'] at hpending; exact hpending)
            (fun _ _ h' => by rw [HttpCall.Pending, h'] at hpending; exact hpending)
          exact (congrArg (List.lookup key) hstore).trans h.notStored
        · have hq : c.processes[k]? = some q := (getElem?_after_ne (Ne.symm hne)).symm.trans hq
          have hother : q ∈ c.processes.eraseIdx j :=
            List.mem_eraseIdx_iff_getElem?.mpr ⟨k, hne, hq⟩
          exact ⟨(hapart p hp hkey).2 hpending hsucceeded q hother hqkey,
            h.none q (List.mem_of_getElem? hq) hqkey⟩
      · refine Or.inl ⟨?_, fun q hq hkey hsucceeded => ?_⟩
        · rw [Option.eq_none_iff_forall_ne_some]
          intro e he
          rcases lookup_act he with ⟨origin, r, hphase, hkey, -⟩ | ⟨hold, -⟩
          · exact h.none p hmem hkey (succeeded_of_storing hwell hphase)
          · rw [h.notStored] at hold
            cases hold
        · rcases List.mem_or_eq_of_mem_set hq with hq | rfl
          · exact h.none q hq hkey hsucceeded
          · exact hfirst ⟨by rwa [← keyOf_act (d := d)], hsucceeded⟩

/-! ### Runs -/

variable {states : ℕ → Config (Shared α) HttpCall} {n : ℕ}

/-- Nobody has a response below 500, or one request has the first. -/
lemma noneYet_or_first (h : (stack.interleaving.machine.restrict (stack.Apart key)).Trace states n)
    (hretained : ∀ l ≤ n, stack.Retained key (states l)) {m : ℕ} (hm : m ≤ n) :
    stack.NoneYet key (states m) ∨ ∃ i response, stack.First key i response (states m) := by
  refine h.from_moment (P := fun _ c => stack.NoneYet key c ∨ ∃ i r, stack.First key i r c)
    (Or.inl ⟨?_, fun q hq => ?_⟩) (fun k e _ hk hinv hstep => ?_) (Nat.zero_le m) hm
  · have hempty : (states 0).shared.store = [] := h.initial.1
    rw [hempty]
    rfl
  · rw [h.initial.2] at hq
    cases hq
  · have hreach := (h.reachable hk.le).of_restrict
    rcases hinv with hnone | ⟨i, response, hfirst⟩
    · exact hnone.step hreach hstep.1 hstep.2
    · exact Or.inr ⟨i, response,
        (hfirst.step hreach hstep.1 hstep.2 (hretained (k + 1) (by omega))).1⟩

/-- The request that got the first response is the owner. -/
lemma First.eq_of_produced {i j : ℕ} {response r : HttpResponse}
    (h : stack.First key i response c) (hj : c.processes[j]? = some call)
    (hkey : stack.keyOf call = some key) (hproduced : call.produced = some r)
    (hstatus : r.status < 500) : j = i ∧ r = response := by
  have hji : j = i := by
    by_contra hne
    exact (h.beside j call hne hj hkey).2 ⟨r, hproduced, hstatus⟩
  subst hji
  obtain ⟨p, hp, -, -, howner⟩ := h.owner
  obtain rfl : p = call := Option.some.inj (hp.symm.trans hj)
  refine ⟨rfl, ?_⟩
  rcases howner with ⟨⟨origin, hphase⟩, -⟩ | ⟨-, hfirst, -⟩
  · rw [HttpCall.produced, hphase] at hproduced
    exact (Option.some.inj hproduced).symm
  · exact Option.some.inj (hproduced.symm.trans hfirst)

end Stack

/-- **An idempotency key means at most one execution** for the requests that do not overlap
around a response below 500, while that response is kept: no other request with the key gets
one, no handler runs for the key after it, and every request answered after it receives it. -/
theorem first_response (stack : Stack α ι) (key : String)
    {states : ℕ → Config (Shared α) HttpCall} {n : ℕ}
    (h : (stack.interleaving.machine.restrict (stack.Apart key)).Trace states n)
    (hretained : ∀ l ≤ n, stack.Retained key (states l)) {m m' : ℕ} (hm : m ≤ m') (hm' : m' ≤ n)
    {i : ℕ} {p : HttpCall} {response : HttpResponse} (hp : (states m).processes[i]? = some p)
    (hkey : stack.keyOf p = some key) (hproduced : p.produced = some response)
    (hstatus : response.status < 500) (j : ℕ) (q : HttpCall)
    (hq : (states m').processes[j]? = some q) (hkey' : stack.keyOf q = some key) :
    (∀ r, q.produced = some r → r.status < 500 → j = i ∧ r = response) ∧
      q.handlerRuns ≤ 1 ∧ q.handlerRuns ≤ Stack.runs (states m) j ∧
      ∀ a, q.answer = some a →
        Stack.answerOf (states m) j = some a ∨ a.stored = response.stored := by
  obtain ⟨i', response', hfirst⟩ :=
    (Stack.noneYet_or_first h hretained (hm.trans hm')).resolve_left fun hnone =>
      hnone.none p (List.mem_of_getElem? hp) hkey ⟨response, hproduced, hstatus⟩
  obtain ⟨rfl, rfl⟩ := hfirst.eq_of_produced hp hkey hproduced hstatus
  have hsettled : stack.First key i response (states m') ∧
      stack.Settled key response (states m) (states m') := by
    refine h.from_moment (P := fun _ c => stack.First key i response c ∧
      stack.Settled key response (states m) c) ⟨hfirst, Stack.settled_self response⟩
      (fun k e _ hk hinv hstep => ?_) hm hm'
    obtain ⟨hfirst', hstep'⟩ := hinv.1.step (h.reachable hk.le).of_restrict hstep.1 hstep.2
      (hretained (k + 1) (by omega))
    exact ⟨hfirst', hinv.2.trans_step hstep.1 hstep'⟩
  have honce : q.handlerRuns ≤ 1 := (Stack.wellPhased (h.reachable hm').of_restrict q
    (List.mem_of_getElem? hq)).handlerRuns_le
  exact ⟨fun r hr hr' => hsettled.1.eq_of_produced hq hkey' hr hr', honce,
    hsettled.2 j q hq hkey'⟩

section Examples

/-- A service that counts its handler runs, without a rate limit. -/
def countingStack : Stack ℕ Unit where
  digest := fun _ => "bc55b5516d428662b5b4d564d5ce4368"
  backend := .memory
  handle := fun runs _ _ => (runs + 1, ⟨201, .bytes (toString (runs + 1)), "application/json", []⟩)
  final := fun _ _ _ => (by decide : 200 ≤ 201)

namespace countingStack

def start : Config (Shared ℕ) HttpCall := ⟨⟨0, ⟨0, fun _ => []⟩, [], 0⟩, []⟩

def request : HttpRequest :=
  ⟨"POST", "/v1/tenants", some "azk_runtime", none, none, some "k1", some "10.0.0.1", [], "{}"⟩

def requestKey : String := "bc55b5516d428662b5b4d564d5ce4368:/v1/tenants:k1"

def step (i now : ℕ) : Event HttpCall (StepInput Unit) := .act i ⟨now, ()⟩

/-- A request, and its retry after it has been answered. -/
def retried : List (Event HttpCall (StepInput Unit)) :=
  [.arrive (.sent request), step 0 1, step 0 2, step 0 3, step 0 4, .arrive (.sent request),
    step 1 5]

/-- The retry is looked up before the first request has been answered. -/
def overlapping : List (Event HttpCall (StepInput Unit)) :=
  [.arrive (.sent request), .arrive (.sent request), step 0 1, step 1 2, step 0 3, step 0 4,
    step 0 5, step 1 6, step 1 7, step 1 8]

end countingStack

open countingStack in
/-- The retry of an answered request receives its response. -/
theorem first_response_retried :
    ∃ q : HttpCall, (countingStack.interleaving.run start retried).processes[1]? = some q ∧
      q.handlerRuns ≤ 1 ∧ q.handlerRuns ≤ 0 ∧ ∀ a, q.answer = some a →
        none = some a ∨ a.stored = ⟨201, .bytes "1", "application/json"⟩ := by
  have htrace : (countingStack.interleaving.machine.restrict
      (countingStack.Apart requestKey)).Trace
        (fun k => countingStack.interleaving.run start (retried.take k)) 7 :=
    trace_runUnder ⟨rfl, rfl⟩ (by decide +kernel)
  refine ⟨_, rfl, ?_⟩
  exact (first_response countingStack requestKey htrace (by decide +kernel)
    (show 4 ≤ 7 by decide) le_rfl (i := 0) rfl rfl rfl (by decide) 1 _ rfl rfl).2

open countingStack in
/-- Two requests with one key that overlap both run the handler, and are answered
differently, while the first response stays stored. -/
theorem overlapping_lookups_both_run :
    ∃ (states : ℕ → Config (Shared ℕ) HttpCall) (n : ℕ),
      countingStack.interleaving.machine.Trace states n ∧
      (∀ l ≤ n, countingStack.Retained requestKey (states l)) ∧
      ∃ p q : HttpCall, (states n).processes = [p, q] ∧ countingStack.keyOf p = some requestKey ∧
        countingStack.keyOf q = some requestKey ∧ p.handlerRuns = 1 ∧ q.handlerRuns = 1 ∧
        p.answer = some ⟨201, .bytes "1", "application/json", []⟩ ∧
        q.answer = some ⟨201, .bytes "2", "application/json", []⟩ := by
  refine ⟨fun k => countingStack.interleaving.run start (overlapping.take k), 10,
    trace_run ⟨rfl, rfl⟩ (by decide +kernel), by decide +kernel, _, _, rfl, rfl, rfl, rfl, rfl,
    rfl, rfl⟩

end Examples

end AuthzKit
