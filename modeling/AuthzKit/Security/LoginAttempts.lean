import AuthzKit.Storage.Orm
import AuthzKit.Relational.Keyed

/-!
`consume_login_attempt`, called twice on a backend without row locks.

A call selects the row of its cookie, deletes it and commits, and then checks what it has selected;
to delete a row that is gone is no error. A schedule lists the steps of two calls with the time at
which each is made.

* `consumeLoginAttempt_eq`: a call that is not interrupted.
* `stage_calm`: before either call deletes, both find the row.
* `exists_missed`: without an overlap one of the calls finds nothing.
* `consumed_once_iff`: both return the attempt exactly when both select before either deletes, and
  the row is one they accept.
-/

namespace AuthzKit

open Keyed

/-! ### Model -/

structure LoginAttempt where
  id : String
  state : String
  codeVerifier : String
  nonce : String
  returnTo : String
  expiresAt : DateTime
deriving DecidableEq, Repr

/-- Where a call stands between its steps. -/
inductive ConsumeStage where
  | start
  | selected (row : LoginAttempt)
  | deleted (row : LoginAttempt)
  | returned (attempt : Option LoginAttempt)
deriving DecidableEq, Repr

/-- The check of a row that has been selected: its state, and whether it has expired. -/
def LoginAttempt.accepted (row : LoginAttempt) (state : String) (now : DateTime) :
    Option LoginAttempt :=
  if row.state ≠ state then none
  else if row.expiresAt < now then none
  else some row

/-- `consume_login_attempt`. -/
def consumeLoginAttempt (rows : List LoginAttempt) (cookieId state : String) (now : DateTime) :
    List LoginAttempt × Option LoginAttempt :=
  match lookup LoginAttempt.id rows cookieId with
  | none => (rows, none)
  | some row => (rows.filter fun r => r.id ≠ row.id, row.accepted state now)

/-- One step of a call. -/
def ConsumeStage.step (cookieId state : String) (rows : List LoginAttempt) (now : DateTime) :
    ConsumeStage → List LoginAttempt × ConsumeStage
  | .start =>
      match lookup LoginAttempt.id rows cookieId with
      | none => (rows, .returned none)
      | some row => (rows, .selected row)
  | .selected row => (rows.filter fun r => r.id ≠ row.id, .deleted row)
  | .deleted row => (rows, .returned (row.accepted state now))
  | .returned attempt => (rows, .returned attempt)

/-- Two calls with one cookie and state, told apart by a flag, and the table. -/
structure Consumers where
  rows : List LoginAttempt
  stage : Bool → ConsumeStage

namespace Consumers

/-- Before the first step. -/
def init (rows : List LoginAttempt) : Consumers := ⟨rows, fun _ => .start⟩

/-- A call takes its next step. -/
def step (cookieId state : String) (c : Consumers) (event : Bool × DateTime) : Consumers where
  rows := ((c.stage event.1).step cookieId state c.rows event.2).1
  stage := Function.update c.stage event.1
    ((c.stage event.1).step cookieId state c.rows event.2).2

/-- The calls after the steps of a schedule. -/
def run (cookieId state : String) (c : Consumers) (schedule : List (Bool × DateTime)) : Consumers :=
  schedule.foldl (step cookieId state) c

/-- The times at which a call has taken its steps. -/
def times (schedule : List (Bool × DateTime)) (call : Bool) : List DateTime :=
  (schedule.filter fun event => event.1 = call).map Prod.snd

/-- At some point each call has selected and neither has deleted. -/
def Overlap (schedule : List (Bool × DateTime)) : Prop :=
  ∃ before after, schedule = before ++ after ∧ ∀ call, (times before call).length = 1

variable {cookieId state : String} {c : Consumers} {call : Bool} {row : LoginAttempt}
  {rows : List LoginAttempt} {schedule : List (Bool × DateTime)}

/-! ### Schedules -/

lemma times_append (schedule schedule' : List (Bool × DateTime)) (call : Bool) :
    times (schedule ++ schedule') call = times schedule call ++ times schedule' call := by
  simp [times]

@[simp] lemma times_singleton_self (call : Bool) (now : DateTime) : times [(call, now)] call = [now] :=
  by simp [times]

lemma times_singleton_of_ne {call' : Bool} (h : call' ≠ call) (now : DateTime) :
    times [(call', now)] call = [] := by
  simp [times, h]

lemma times_cons (event : Bool × DateTime) (schedule : List (Bool × DateTime)) (call : Bool) :
    times (event :: schedule) call =
      if event.1 = call then event.2 :: times schedule call else times schedule call := by
  rw [times, times, List.filter_cons]
  by_cases h : event.1 = call <;> simp [h]

lemma Overlap.append (h : Overlap schedule) (schedule' : List (Bool × DateTime)) :
    Overlap (schedule ++ schedule') := by
  obtain ⟨before, after, rfl, hcalls⟩ := h
  exact ⟨before, after ++ schedule', by simp, hcalls⟩

@[simp] lemma run_append (schedule schedule' : List (Bool × DateTime)) :
    c.run cookieId state (schedule ++ schedule') =
      (c.run cookieId state schedule).run cookieId state schedule' :=
  List.foldl_append ..

lemma run_cons (event : Bool × DateTime) (schedule : List (Bool × DateTime)) :
    c.run cookieId state (event :: schedule) =
      (c.step cookieId state event).run cookieId state schedule := rfl

lemma run_singleton (event : Bool × DateTime) :
    c.run cookieId state [event] = c.step cookieId state event := rfl

/-! ### One call -/

lemma stage_step_of_ne {event : Bool × DateTime} (h : call ≠ event.1) :
    (c.step cookieId state event).stage call = c.stage call :=
  Function.update_of_ne h ..

lemma stage_step_self (event : Bool × DateTime) :
    (c.step cookieId state event).stage event.1 =
      ((c.stage event.1).step cookieId state c.rows event.2).2 :=
  Function.update_self ..

/-- A call that has not begun is where it was. -/
lemma stage_of_times_eq_nil (h : times schedule call = []) :
    (c.run cookieId state schedule).stage call = c.stage call := by
  induction schedule generalizing c with
  | nil => rfl
  | cons event schedule ih =>
      rw [times_cons] at h
      split_ifs at h with hcall
      rw [run_cons, ih h, stage_step_of_ne (Ne.symm hcall)]

/-- What a call has returned stays. -/
lemma stage_of_returned {attempt : Option LoginAttempt} (h : c.stage call = .returned attempt)
    (schedule : List (Bool × DateTime)) :
    (c.run cookieId state schedule).stage call = .returned attempt := by
  induction schedule generalizing c with
  | nil => exact h
  | cons event schedule ih =>
      rw [run_cons]
      refine ih ?_
      by_cases hcall : event.1 = call
      · subst hcall
        rw [stage_step_self, h]
        rfl
      · rw [stage_step_of_ne (Ne.symm hcall), h]

/-- A call that has deleted has one step left. -/
lemma stage_of_deleted (h : c.stage call = .deleted row) (schedule : List (Bool × DateTime)) :
    (c.run cookieId state schedule).stage call =
      match (times schedule call).head? with
      | none => .deleted row
      | some now => .returned (row.accepted state now) := by
  induction schedule generalizing c with
  | nil => exact h
  | cons event schedule ih =>
      rw [run_cons, times_cons]
      by_cases hcall : event.1 = call
      · subst hcall
        rw [if_pos rfl, List.head?_cons]
        refine stage_of_returned ?_ schedule
        rw [stage_step_self, h]
        rfl
      · rw [if_neg hcall]
        exact ih (by rw [stage_step_of_ne (Ne.symm hcall), h])

/-- A call that has selected does not read the table again. -/
lemma stage_of_selected (h : c.stage call = .selected row) {now : DateTime}
    (htimes : (times schedule call)[1]? = some now) :
    (c.run cookieId state schedule).stage call = .returned (row.accepted state now) := by
  induction schedule generalizing c with
  | nil => simp [times] at htimes
  | cons event schedule ih =>
      rw [run_cons]
      rw [times_cons] at htimes
      by_cases hcall : event.1 = call
      · subst hcall
        rw [if_pos rfl, List.getElem?_cons_succ, ← List.head?_eq_getElem?] at htimes
        have hdeleted : (c.step cookieId state event).stage event.1 = .deleted row := by
          rw [stage_step_self, h]
          rfl
        rw [stage_of_deleted hdeleted, htimes]
      · rw [if_neg hcall] at htimes
        exact ih (by rw [stage_step_of_ne (Ne.symm hcall), h]) htimes

lemma not_returned_of_selected (h : c.stage call = .selected row)
    (htimes : (times schedule call)[1]? = none) (attempt : Option LoginAttempt) :
    (c.run cookieId state schedule).stage call ≠ .returned attempt := by
  induction schedule generalizing c with
  | nil => simp [run, h]
  | cons event schedule ih =>
      rw [run_cons]
      rw [times_cons] at htimes
      by_cases hcall : event.1 = call
      · subst hcall
        rw [if_pos rfl, List.getElem?_cons_succ, ← List.head?_eq_getElem?] at htimes
        have hdeleted : (c.step cookieId state event).stage event.1 = .deleted row := by
          rw [stage_step_self, h]
          rfl
        rw [stage_of_deleted hdeleted, htimes]
        simp
      · rw [if_neg hcall] at htimes
        exact ih (by rw [stage_step_of_ne (Ne.symm hcall), h]) htimes

/-- A call that is not interrupted. -/
theorem consumeLoginAttempt_eq (rows : List LoginAttempt) (cookieId state : String)
    (now now' now'' : DateTime) (call : Bool) :
    let c := (init rows).run cookieId state [(call, now), (call, now'), (call, now'')]
    (c.rows, c.stage call) = ((consumeLoginAttempt rows cookieId state now'').1,
      .returned (consumeLoginAttempt rows cookieId state now'').2) := by
  cases hrow : lookup LoginAttempt.id rows cookieId <;>
    simp [run, step, init, ConsumeStage.step, consumeLoginAttempt, hrow]

/-! ### The table -/

lemma rows_step_subset (event : Bool × DateTime) :
    (c.step cookieId state event).rows ⊆ c.rows := by
  rw [step]
  dsimp only
  cases c.stage event.1 with
  | start =>
      rw [ConsumeStage.step]
      split <;> exact List.Subset.refl _
  | selected row => exact List.filter_sublist.subset
  | deleted row => exact List.Subset.refl _
  | returned attempt => exact List.Subset.refl _

/-- A row that is gone stays gone. -/
lemma lookup_step_eq_none (h : lookup LoginAttempt.id c.rows cookieId = none)
    (event : Bool × DateTime) :
    lookup LoginAttempt.id (c.step cookieId state event).rows cookieId = none :=
  lookup_eq_none_iff.mpr fun r hr => lookup_eq_none_iff.mp h r (rows_step_subset event hr)

/-- What the select of a call finds. -/
def selection (rows : List LoginAttempt) (cookieId : String) : ConsumeStage :=
  match lookup LoginAttempt.id rows cookieId with
  | none => .returned none
  | some row => .selected row

lemma step_start (rows : List LoginAttempt) (now : DateTime) :
    ConsumeStage.step cookieId state rows now .start = (rows, selection rows cookieId) := by
  rw [ConsumeStage.step, selection]
  split <;> rfl

/-- Before either call deletes, the table is as it was, and both find what is in it. -/
lemma stage_calm (rows : List LoginAttempt) (cookieId state : String)
    (hcalm : ∀ call, (times schedule call).length ≤ 1) :
    ((init rows).run cookieId state schedule).rows = rows ∧
      ∀ call, ((init rows).run cookieId state schedule).stage call =
        if times schedule call = [] then .start else selection rows cookieId := by
  induction schedule using List.reverseRecOn with
  | nil => simp [run, init, times]
  | append_singleton schedule event ih =>
      obtain ⟨call', now⟩ := event
      have hnone : times schedule call' = [] := by
        have hlength := hcalm call'
        rw [times_append, times_singleton_self, List.length_append, List.length_singleton] at hlength
        exact List.length_eq_zero_iff.mp (by omega)
      obtain ⟨hrows, hstages⟩ := ih fun call => by
        have hlength := hcalm call
        rw [times_append, List.length_append] at hlength
        omega
      have hstart := hstages call'
      rw [if_pos hnone] at hstart
      have hstep : (((init rows).run cookieId state schedule).stage call').step cookieId state
          ((init rows).run cookieId state schedule).rows now =
            (rows, selection rows cookieId) := by
        rw [hstart, hrows, step_start]
      rw [run_append, run_singleton]
      refine ⟨by rw [step, hstep], fun call => ?_⟩
      by_cases hcall : call = call'
      · subst hcall
        rw [stage_step_self, hstep, times_append, times_singleton_self, if_neg (by simp)]
      · rw [stage_step_of_ne hcall, hstages call, times_append,
          times_singleton_of_ne (Ne.symm hcall), List.append_nil]

/-- A call that has deleted while the other had not begun leaves no row behind. -/
lemma lookup_eq_none_of_alone (rows : List LoginAttempt) (cookieId state : String) (call : Bool)
    (hother : times schedule (!call) = [])
    (htimes : 2 ≤ (times schedule call).length) :
    lookup LoginAttempt.id ((init rows).run cookieId state schedule).rows cookieId = none := by
  induction schedule using List.reverseRecOn with
  | nil => simp [times] at htimes
  | append_singleton schedule event ih =>
      obtain ⟨call', now⟩ := event
      rw [times_append, List.append_eq_nil_iff] at hother
      obtain rfl : call' = call := by
        by_contra hne
        have hnot : call' = !call := by
          cases call <;> cases call' <;> simp_all
        rw [hnot, times_singleton_self] at hother
        exact absurd hother.2 (by simp)
      rw [times_append, times_singleton_self, List.length_append, List.length_singleton] at htimes
      rw [run_append, run_singleton]
      by_cases htwice : 2 ≤ (times schedule call').length
      · exact lookup_step_eq_none (ih hother.1 htwice) _
      · have hcalm : ∀ call, (times schedule call).length ≤ 1 := by
          intro call
          by_cases hcall : call = call'
          · rw [hcall]
            omega
          · have hnot : call = !call' := by
              cases call <;> cases call' <;> simp_all
            rw [hnot, hother.1]
            simp
        obtain ⟨hrows, hstages⟩ := stage_calm rows cookieId state hcalm
        have hstage := hstages call'
        have hbegun : times schedule call' ≠ [] := by
          intro hnil
          rw [hnil, List.length_nil] at htimes
          omega
        rw [if_neg hbegun] at hstage
        cases hrow : lookup LoginAttempt.id rows cookieId with
        | none => exact lookup_step_eq_none (by rw [hrows, hrow]) _
        | some row =>
            rw [selection, hrow] at hstage
            rw [step, hstage, ConsumeStage.step]
            refine lookup_eq_none_iff.mpr fun r hr => ?_
            have hne := (List.mem_filter.mp hr).2
            rw [← key_of_lookup hrow]
            simpa using hne

/-- Without an overlap, one of two calls that have begun has found nothing. -/
lemma exists_missed (rows : List LoginAttempt) (hbegun : ∀ call, times schedule call ≠ [])
    (hoverlap : ¬Overlap schedule) :
    ∃ call, ((init rows).run cookieId state schedule).stage call = .returned none := by
  induction schedule using List.reverseRecOn with
  | nil => exact absurd rfl (hbegun true)
  | append_singleton schedule event ih =>
      obtain ⟨call', now⟩ := event
      rw [run_append]
      by_cases hboth : ∀ call, times schedule call ≠ []
      · obtain ⟨call, hcall⟩ := ih hboth fun h => hoverlap (h.append _)
        exact ⟨call, stage_of_returned hcall _⟩
      · push Not at hboth
        obtain ⟨call, hnone⟩ := hboth
        -- the last step is the first of this call
        obtain rfl : call = call' := by
          by_contra hne
          have hnil := hbegun call
          rw [times_append, hnone, times_singleton_of_ne (Ne.symm hne)] at hnil
          exact hnil rfl
        have hother : times schedule (!call) ≠ [] := by
          have hnonempty := hbegun (!call)
          rwa [times_append, times_singleton_of_ne (by cases call <;> simp),
            List.append_nil] at hnonempty
        have htwice : 2 ≤ (times schedule (!call)).length := by
          by_contra hless
          have hpos := List.length_pos_iff.mpr hother
          refine hoverlap ⟨schedule ++ [(call, now)], [], by simp, fun c => ?_⟩
          rw [times_append, List.length_append]
          by_cases hc : c = call
          · rw [hc, hnone, times_singleton_self]
            rfl
          · have hnot : c = !call := by
              cases c <;> cases call <;> simp_all
            rw [hnot, times_singleton_of_ne (by cases call <;> simp), List.length_nil]
            omega
        have hgone := lookup_eq_none_of_alone rows cookieId state (!call) (by rwa [Bool.not_not])
          htwice
        refine ⟨call, ?_⟩
        have hstart : ((init rows).run cookieId state schedule).stage call = .start :=
          stage_of_times_eq_nil hnone
        rw [run_singleton, stage_step_self, hstart, step_start, selection, hgone]

/-! ### Both calls -/

/-- The third step of a call comes when the row has not expired. -/
def ChecksInTime (schedule : List (Bool × DateTime)) (row : LoginAttempt) (call : Bool) : Prop :=
  ∃ now, (times schedule call)[2]? = some now ∧ row.expiresAt ≥ now

/-- Once both have selected, each returns what it accepts. -/
lemma returned_iff_of_overlap (hoverlap : Overlap schedule) (call : Bool) :
    (∃ attempt, ((init rows).run cookieId state schedule).stage call = .returned (some attempt)) ↔
      ∃ row, lookup LoginAttempt.id rows cookieId = some row ∧ row.state = state ∧
        ChecksInTime schedule row call := by
  obtain ⟨before, after, rfl, hcalls⟩ := hoverlap
  obtain ⟨-, hstages⟩ := stage_calm rows cookieId state fun call => (hcalls call).le
  have hbegun : times before call ≠ [] := fun hnil => by
    have hlength := hcalls call
    rw [hnil] at hlength
    cases hlength
  have hstage := hstages call
  rw [if_neg hbegun] at hstage
  have hthird : (times (before ++ after) call)[2]? = (times after call)[1]? := by
    rw [times_append, List.getElem?_append_right (by rw [hcalls call]; omega), hcalls call]
  rw [run_append]
  cases hrow : lookup LoginAttempt.id rows cookieId with
  | none =>
      rw [selection, hrow] at hstage
      rw [stage_of_returned hstage]
      simp
  | some row =>
      rw [selection, hrow] at hstage
      simp only [Option.some.injEq, exists_eq_left', ChecksInTime, hthird]
      cases htimes : (times after call)[1]? with
      | none =>
          refine iff_of_false ?_ (by simp)
          rintro ⟨attempt, hattempt⟩
          exact not_returned_of_selected hstage htimes _ hattempt
      | some now =>
          rw [stage_of_selected hstage htimes, LoginAttempt.accepted]
          by_cases hstate : row.state = state
          · by_cases hexpired : row.expiresAt < now
            · simp [hstate, hexpired]
            · simp [hstate, hexpired, not_lt.mp hexpired]
          · simp [hstate]

/-- A call that has not begun has returned nothing. -/
lemma times_ne_nil_of_returned {attempt : Option LoginAttempt}
    (h : ((init rows).run cookieId state schedule).stage call = .returned attempt) :
    times schedule call ≠ [] := by
  intro hnil
  rw [stage_of_times_eq_nil hnil, init] at h
  cases h

/-- **Consumed once**: at most one of two calls returns the attempt, in every interleaving of their
steps but those in which both select before either deletes a row that both then accept. -/
theorem consumed_once_iff (rows : List LoginAttempt) (cookieId state : String)
    (schedule : List (Bool × DateTime)) :
    (¬∀ call, ∃ attempt,
      ((init rows).run cookieId state schedule).stage call = .returned (some attempt)) ↔
    ¬(Overlap schedule ∧ ∃ row, lookup LoginAttempt.id rows cookieId = some row ∧
      row.state = state ∧ ∀ call, ChecksInTime schedule row call) := by
  rw [not_iff_not]
  constructor
  · intro hreturned
    have hoverlap : Overlap schedule := by
      by_contra hno
      have hbegun : ∀ call, times schedule call ≠ [] := fun call => by
        obtain ⟨attempt, hattempt⟩ := hreturned call
        exact times_ne_nil_of_returned hattempt
      obtain ⟨call, hmissed⟩ := exists_missed rows hbegun hno
      obtain ⟨attempt, hattempt⟩ := hreturned call
      rw [hmissed] at hattempt
      cases hattempt
    obtain ⟨row, hrow, hstate, -⟩ := (returned_iff_of_overlap hoverlap true).mp (hreturned true)
    refine ⟨hoverlap, row, hrow, hstate, fun call => ?_⟩
    obtain ⟨row', hrow', -, hchecks⟩ :=
      (returned_iff_of_overlap hoverlap call).mp (hreturned call)
    rw [hrow, Option.some.injEq] at hrow'
    rwa [hrow']
  · rintro ⟨hoverlap, row, hrow, hstate, hchecks⟩ call
    exact (returned_iff_of_overlap hoverlap call).mpr ⟨row, hrow, hstate, hchecks call⟩

/-- Both calls select, both delete, and both return. -/
theorem both_return :
    let attempt : LoginAttempt := ⟨"cookie", "xyz", "verifier", "nonce", "/admin/", 600⟩
    let schedule : List (Bool × DateTime) :=
      [(true, 1), (false, 1), (true, 2), (false, 2), (true, 3), (false, 3)]
    (((init [attempt]).run "cookie" "xyz" schedule).stage true = .returned (some attempt)) ∧
      ((init [attempt]).run "cookie" "xyz" schedule).stage false = .returned (some attempt) := by
  decide

end Consumers

end AuthzKit
