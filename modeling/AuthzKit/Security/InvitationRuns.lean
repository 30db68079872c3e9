import AuthzKit.Security.Invitations

/-!
What holds of one invitation in every interleaving of accept and revoke calls.

* `claim_owned`: from its claim to its end an accept call is alone, so that only it can make
  the invitation pending again, and only before it has created a membership.
* `one_membership`: an invitation yields one membership at most, to the one accept call that
  returns.
* `revocation_final`: a revocation stands in every run in which no accept call takes its claim
  back after it; one that does makes the invitation pending again.
-/

namespace AuthzKit

open Invitations Interleaving

variable {hash : String → String}

/-! ### Claims -/

/-- Nobody can claim the invitation now. -/
def InvitationState.Taken (s : InvitationState) : Prop :=
  s.row.status ≠ invitationStatusPending ∨
    s.writing.map Invitation.status = some invitationStatusAccepted

namespace InvitationCall

variable {s : InvitationState} {call : InvitationCall} {input : InvitationInput}

/-- The call has claimed the invitation, and has not taken the claim back. -/
def Claims : InvitationCall → Prop
  | .commitClaim _ | .createMembership _ | .revert _ | .commitRevert _ | .accepted _ => True
  | _ => False

/-- The memberships a call with a claim has created. -/
def created : InvitationCall → ℕ
  | .accepted _ => 1
  | _ => 0

/-- What a call with a claim relies on. -/
def OwnsClaim (s : InvitationState) (call : InvitationCall) : Prop :=
  s.Taken ∧ s.memberships.length = call.created

/-- A commit leaves what was written. -/
lemma taken_commit {status : String} (hwritten : s.writing.map Invitation.status = some status)
    (hstatus : status ≠ invitationStatusPending) : s.commit.Taken := by
  obtain ⟨row, hrow, rfl⟩ := Option.map_eq_some_iff.mp hwritten
  refine Or.inl ?_
  rw [InvitationState.commit, hrow]
  exact hstatus

/-- A rollback of anything but a claim. -/
lemma taken_rollback {status : String} (h : s.Taken)
    (hwritten : s.writing.map Invitation.status = some status)
    (hstatus : status ≠ invitationStatusAccepted) : s.rollback.Taken := by
  rcases h with hrow | hclaim
  · exact Or.inl hrow
  · exact absurd (Option.some.inj (hwritten.symm.trans hclaim)) hstatus

variable (hash) in
/-- A step of a call without a claim, while nobody can claim the invitation. -/
lemma act_taken (hadmits : input.fails = false → ¬call.Waits s) (hcall : ¬call.Claims)
    (hwritten : call.writtenStatus.isSome →
      s.writing.map Invitation.status = call.writtenStatus) (h : s.Taken) :
    ¬(act hash s call input).2.Claims ∧ (act hash s call input).1.Taken ∧
      (act hash s call input).1.memberships = s.memberships := by
  by_cases hfails : input.fails = true ∧ ¬call.Ended
  · rw [act_of_fails hfails.1 hfails.2]
    refine ⟨id, ?_, ?_⟩
    · split
      · rename_i hopen
        cases call <;> first
          | exact absurd trivial hcall
          | exact taken_rollback h (hwritten rfl) (by decide)
          | cases hopen
      · exact h
    · split <;> rfl
  · rw [act_of_not_fails hfails]
    have hgoes : ¬call.Ended → ¬call.Waits s := fun hended =>
      hadmits (Bool.eq_false_iff.mpr fun h => hfails ⟨h, hended⟩)
    cases call with
    | accept plaintext userId acceptedAt =>
        rw [statement]
        split_ifs <;> exact ⟨id, h, rfl⟩
    | expire =>
        have hnone : s.writing = none := not_not.mp (hgoes id)
        exact ⟨id, Or.inl (h.resolve_right (by rw [hnone]; rintro ⟨⟩)), rfl⟩
    | commitExpired => exact ⟨id, taken_commit (hwritten rfl) (by decide), rfl⟩
    | claim a =>
        rw [statement]
        split_ifs with hpending
        · have hclaim := h.resolve_left (not_not.mpr hpending)
          have hlocked : s.writing ≠ none := by
            intro hnone
            rw [hnone] at hclaim
            cases hclaim
          exact absurd ⟨hpending, hlocked⟩ (hgoes id)
        · exact ⟨id, h, rfl⟩
    | revoke invitationId =>
        rw [statement]
        split_ifs <;> exact ⟨id, h, rfl⟩
    | revokeWrite =>
        have hnone : s.writing = none := not_not.mp (hgoes id)
        exact ⟨id, Or.inl (h.resolve_right (by rw [hnone]; rintro ⟨⟩)), rfl⟩
    | commitRevoke => exact ⟨id, taken_commit (hwritten rfl) (by decide), rfl⟩
    | raised reason => exact ⟨id, h, rfl⟩
    | revoked found => exact ⟨id, h, rfl⟩
    | _ => exact absurd trivial hcall

/-- A step of a call without a claim, before any membership is created. -/
lemma act_unclaimed (hcall : ¬call.Claims) (h : s.memberships = []) :
    (act hash s call input).2.Claims ∧ OwnsClaim (act hash s call input).1
        (act hash s call input).2 ∨
      ¬(act hash s call input).2.Claims ∧ (act hash s call input).1.memberships = [] := by
  by_cases hfails : input.fails = true ∧ ¬call.Ended
  · rw [act_of_fails hfails.1 hfails.2]
    refine Or.inr ⟨id, ?_⟩
    split <;> exact h
  · rw [act_of_not_fails hfails]
    cases call with
    | accept plaintext userId acceptedAt =>
        rw [statement]
        split_ifs <;> exact Or.inr ⟨id, h⟩
    | claim a =>
        rw [statement]
        split_ifs
        · exact Or.inl ⟨trivial, Or.inr rfl, congrArg List.length h⟩
        · exact Or.inr ⟨id, h⟩
    | revoke invitationId =>
        rw [statement]
        split_ifs <;> exact Or.inr ⟨id, h⟩
    | expire => exact Or.inr ⟨id, h⟩
    | commitExpired => exact Or.inr ⟨id, h⟩
    | revokeWrite => exact Or.inr ⟨id, h⟩
    | commitRevoke => exact Or.inr ⟨id, h⟩
    | raised reason => exact Or.inr ⟨id, h⟩
    | revoked found => exact Or.inr ⟨id, h⟩
    | _ => exact absurd trivial hcall

/-- A step of the call with the claim. -/
lemma act_claimed (hadmits : input.fails = false → ¬call.Waits s) (hcall : call.Claims)
    (hwritten : call.writtenStatus.isSome →
      s.writing.map Invitation.status = call.writtenStatus) (h : OwnsClaim s call) :
    (act hash s call input).2.Claims ∧ OwnsClaim (act hash s call input).1
        (act hash s call input).2 ∨
      ¬(act hash s call input).2.Claims ∧ (act hash s call input).1.memberships = [] := by
  by_cases hfails : input.fails = true ∧ ¬call.Ended
  · rw [act_of_fails hfails.1 hfails.2]
    have hnone : s.memberships = [] := by
      refine List.eq_nil_of_length_eq_zero (h.2.trans ?_)
      cases call <;> first | rfl | exact absurd trivial hfails.2
    refine Or.inr ⟨id, ?_⟩
    split <;> exact hnone
  · rw [act_of_not_fails hfails]
    have hgoes : ¬call.Ended → ¬call.Waits s := fun hended =>
      hadmits (Bool.eq_false_iff.mpr fun h => hfails ⟨h, hended⟩)
    cases call with
    | commitClaim a =>
        exact Or.inl ⟨trivial, taken_commit (hwritten rfl) (by decide), h.2⟩
    | createMembership a =>
        rw [statement]
        split_ifs
        · refine Or.inl ⟨trivial, h.1, ?_⟩
          have hlength : s.memberships.length = 0 := h.2
          simp [created, hlength]
        · exact Or.inl ⟨trivial, h⟩
    | revert a =>
        have hnone : s.writing = none := not_not.mp (hgoes id)
        exact Or.inl ⟨trivial, Or.inl (h.1.resolve_right (by rw [hnone]; rintro ⟨⟩)), h.2⟩
    | commitRevert a => exact Or.inr ⟨id, List.eq_nil_of_length_eq_zero h.2⟩
    | accepted record => exact Or.inl ⟨trivial, h⟩
    | _ => exact absurd hcall id

end InvitationCall

variable {c : Config InvitationState InvitationCall}

/-- **The claim**: at most one call has it, nobody else can get it before it is taken back,
and without it there is no membership. -/
theorem claim_owned (h : (invitationCalls hash).machine.Reachable c) :
    OneOwner InvitationCall.Claims InvitationCall.OwnsClaim (fun s => s.memberships = []) c := by
  refine one_owner (I := invitationCalls hash) (fun s hs => hs.2.2.1) ?_ ?_ ?_ ?_ h
  · intro call harrives
    cases call <;> first | exact absurd harrives id | exact id
  · exact fun c call input _ _ _ hnone hcall => InvitationCall.act_unclaimed hcall hnone
  · intro c call input other hreach hmem hadmits hcall _ howns
    obtain ⟨hcall', htaken, hsame⟩ := InvitationCall.act_taken hash hadmits hcall
      (fun hopen => (writing_owned hreach).owns hmem hopen) howns.1
    exact ⟨hcall', htaken, (congrArg List.length hsame).trans howns.2⟩
  · exact fun c call input hreach hmem hadmits hcall howns =>
      InvitationCall.act_claimed hadmits hcall
        (fun hopen => (writing_owned hreach).owns hmem hopen) howns

/-- **An invitation yields at most one membership**: in every interleaving at most one is
created, and at most one accept call returns normally. -/
theorem one_membership (h : (invitationCalls hash).machine.Reachable c) :
    c.shared.memberships.length ≤ 1 ∧ ∀ (i j : ℕ) record record',
      c.processes[i]? = some (.accepted record) → c.processes[j]? = some (.accepted record') →
        i = j := by
  have hone := claim_owned h
  refine ⟨?_, fun i j record record' hi hj => hone.unique hi hj trivial trivial⟩
  rcases hone with ⟨-, hnone⟩ | ⟨i, call, -, -, ⟨-, hlength⟩, -⟩
  · rw [hnone]
    exact Nat.zero_le 1
  · rw [hlength]
    cases call <;> first | exact Nat.zero_le 1 | exact le_rfl

/-- An invitation whose token hashes to itself. -/
def sampleInvitation : Config InvitationState InvitationCall where
  shared :=
    { row :=
        { id := "inv", tenantId := "acme", applicationId := some "crm", email := "anna@acme.com",
          tokenHash := "token", roles := "reader", status := "pending", invitedByUserId := none,
          expiresAt := 100, acceptedAt := none, acceptedByUserId := none }
      writing := none
      memberships := []
      revoked := false }
  processes := []

/-- A step without incident. -/
abbrev goes : InvitationInput := ⟨0, true, false⟩

/-- Two users accept at once. -/
def racingAccepts : List (Event InvitationCall InvitationInput) :=
  [.arrive (.accept "token" "anna" 0), .arrive (.accept "token" "bert" 0), .act 0 goes, .act 1 goes,
    .act 0 goes, .act 0 goes, .act 1 goes, .act 0 goes]

/-- The second of them has read the invitation as pending, and does not get it. -/
theorem one_membership_race :
    let c := (invitationCalls id).run sampleInvitation racingAccepts
    c.shared.memberships.length = 1 ∧ c.shared.memberships.length ≤ 1 ∧
      ∀ (i j : ℕ) record record', c.processes[i]? = some (.accepted record) →
        c.processes[j]? = some (.accepted record') → i = j := by
  have hruns : (invitationCalls id).Runs sampleInvitation racingAccepts := by decide +kernel
  have hinitial : (invitationCalls id).machine.initial sampleInvitation :=
    ⟨⟨rfl, rfl, rfl, rfl⟩, rfl⟩
  have hreach : (invitationCalls id).machine.Reachable
      ((invitationCalls id).run sampleInvitation racingAccepts) := by
    have htrace := (trace_run hinitial hruns).reachable le_rfl
    rwa [List.take_length] at htrace
  exact ⟨by decide +kernel, one_membership hreach⟩

/-! ### Revocations -/

/-- The condition on a step: no accept call takes its claim back after a revocation has
returned true. -/
def Undone (c : Config InvitationState InvitationCall) : Event InvitationCall InvitationInput → Prop
  | .act i input => ∀ a, c.processes[i]? = some (.revert a) → input.fails = false →
      c.shared.revoked = false
  | .arrive _ => True

/-- The invitation is revoked for good. -/
structure RevokedState (s : InvitationState) : Prop where
  row : s.row.status ≠ invitationStatusPending
  writing : ∀ row, s.writing = some row → row.status ≠ invitationStatusPending

/-- What holds of a revocation in the runs that meet the condition. -/
structure Revocation (s : InvitationState) : Prop where
  stands : s.revoked = true → RevokedState s
  /-- Only a revocation that returns true leaves the row revoked. -/
  returned : s.row.status = invitationStatusRevoked → s.revoked = true

namespace InvitationCall

variable {s : InvitationState} {call : InvitationCall} {input : InvitationInput}

lemma revokedState_commit {row : Invitation} (hrow : s.writing = some row)
    (hstatus : row.status ≠ invitationStatusPending) : RevokedState s.commit := by
  refine ⟨?_, fun row' hrow' => by cases hrow'⟩
  rw [InvitationState.commit, hrow]
  exact hstatus

/-- A commit of anything but a revocation. -/
lemma revocation_commit {status : String} (h : Revocation s)
    (hwritten : s.writing.map Invitation.status = some status)
    (hstatus : status ≠ invitationStatusRevoked) : Revocation s.commit := by
  obtain ⟨row, hrow, rfl⟩ := Option.map_eq_some_iff.mp hwritten
  refine ⟨fun hrevoked => revokedState_commit hrow ((h.stands hrevoked).writing row hrow),
    fun hrevoked => absurd ?_ hstatus⟩
  rw [InvitationState.commit, hrow] at hrevoked
  exact hrevoked

/-- A step that takes no claim back after a revocation. -/
lemma act_revocation (hwritten : call.writtenStatus.isSome →
      s.writing.map Invitation.status = call.writtenStatus)
    (hundone : ∀ a, call = .revert a → input.fails = false → s.revoked = false)
    (h : Revocation s) : Revocation (act hash s call input).1 := by
  by_cases hfails : input.fails = true ∧ ¬call.Ended
  · rw [act_of_fails hfails.1 hfails.2]
    split
    · exact ⟨fun hrevoked => ⟨(h.stands hrevoked).row, fun _ hnone => by cases hnone⟩, h.returned⟩
    · exact h
  · rw [act_of_not_fails hfails]
    cases call with
    | accept plaintext userId acceptedAt =>
        rw [statement]
        split_ifs <;> exact h
    | expire =>
        refine ⟨fun hrevoked => ⟨(h.stands hrevoked).row, fun row hrow => ?_⟩, h.returned⟩
        rw [← Option.some.inj hrow]
        exact (by decide : invitationStatusExpired ≠ invitationStatusPending)
    | claim a =>
        rw [statement]
        split_ifs with hpending
        · exact ⟨fun hrevoked => absurd hpending (h.stands hrevoked).row, h.returned⟩
        · exact h
    | createMembership a =>
        rw [statement]
        split_ifs
        · exact ⟨fun hrevoked => ⟨(h.stands hrevoked).row, (h.stands hrevoked).writing⟩, h.returned⟩
        · exact h
    | revert a =>
        have hnot : s.revoked = false :=
          hundone a rfl (Bool.eq_false_iff.mpr fun h => hfails ⟨h, id⟩)
        exact ⟨fun hrevoked => absurd (hrevoked.symm.trans hnot) (by decide), h.returned⟩
    | revoke invitationId =>
        rw [statement]
        split_ifs with hid hrevoked
        · exact h
        · exact ⟨fun _ => ⟨(h.stands (h.returned hrevoked)).row,
            (h.stands (h.returned hrevoked)).writing⟩, fun _ => rfl⟩
        · exact h
    | revokeWrite =>
        refine ⟨fun hrevoked => ⟨(h.stands hrevoked).row, fun row hrow => ?_⟩, h.returned⟩
        rw [← Option.some.inj hrow]
        exact (by decide : invitationStatusRevoked ≠ invitationStatusPending)
    | commitRevoke =>
        obtain ⟨row, hrow, hstatus⟩ := Option.map_eq_some_iff.mp (hwritten rfl)
        have hstands := revokedState_commit hrow
          (hstatus ▸ (by decide : invitationStatusRevoked ≠ invitationStatusPending))
        exact ⟨fun _ => ⟨hstands.row, hstands.writing⟩, fun _ => rfl⟩
    | commitExpired => exact revocation_commit h (hwritten rfl) (by decide)
    | commitClaim a => exact revocation_commit h (hwritten rfl) (by decide)
    | commitRevert a => exact revocation_commit h (hwritten rfl) (by decide)
    | accepted record => exact h
    | raised reason => exact h
    | revoked found => exact h

/-- The call has not read the invitation as pending. -/
def Late : InvitationCall → Prop
  | .accept _ _ _ | .raised _ | .revoke _ | .revokeWrite | .commitRevoke | .revoked _ => True
  | _ => False

/-- A call that begins after a revocation that stands gets nowhere. -/
lemma act_late (hrow : s.row.status ≠ invitationStatusPending) (hcall : call.Late) :
    (act hash s call input).2.Late := by
  rw [act]
  split
  · trivial
  · cases call with
    | accept plaintext userId acceptedAt =>
        rw [statement]
        split_ifs <;> exact trivial
    | revoke invitationId =>
        rw [statement]
        split_ifs <;> exact trivial
    | raised reason => trivial
    | revokeWrite => trivial
    | commitRevoke => trivial
    | revoked found => trivial
    | _ => exact absurd hcall id

end InvitationCall

/-- Whether a revocation has returned true is not forgotten. -/
lemma InvitationCall.revoked_act {s : InvitationState} (h : s.revoked = true)
    (call : InvitationCall) (input : InvitationInput) : (call.act hash s input).1.revoked = true := by
  rw [act]
  split
  · split <;> exact h
  · cases call <;> first
      | exact h
      | rfl
      | (rw [statement]; split_ifs <;> first | exact h | rfl)

variable (hash) in
/-- A step notes that a revocation returns true. -/
lemma InvitationCall.revoked_of_act {s : InvitationState} {call : InvitationCall}
    (input : InvitationInput) (hcall : call = .revoked true → s.revoked = true) :
    ((call.act hash s input).1.revoked = true → s.revoked = true ∨
        (call.act hash s input).2 = .revoked true) ∧
      ((call.act hash s input).2 = .revoked true → (call.act hash s input).1.revoked = true) := by
  rw [act]
  split
  · refine ⟨fun h => Or.inl ?_, by rintro ⟨⟩⟩
    revert h
    split <;> exact id
  · cases call with
    | revoke invitationId =>
        rw [statement]
        split_ifs
        · exact ⟨Or.inl, by rintro ⟨⟩⟩
        · exact ⟨fun _ => Or.inr rfl, fun _ => rfl⟩
        · exact ⟨Or.inl, by rintro ⟨⟩⟩
    | commitRevoke => exact ⟨fun _ => Or.inr rfl, fun _ => rfl⟩
    | revoked found => exact ⟨Or.inl, hcall⟩
    | accept plaintext userId acceptedAt =>
        rw [statement]
        split_ifs <;> exact ⟨Or.inl, by rintro ⟨⟩⟩
    | claim a =>
        rw [statement]
        split_ifs <;> exact ⟨Or.inl, by rintro ⟨⟩⟩
    | createMembership a =>
        rw [statement]
        split_ifs <;> exact ⟨Or.inl, by rintro ⟨⟩⟩
    | _ => exact ⟨Or.inl, by rintro ⟨⟩⟩

/-- A revocation has returned true to some call. -/
lemma revoked_iff (h : (invitationCalls hash).machine.Reachable c) :
    c.shared.revoked = true ↔ InvitationCall.revoked true ∈ c.processes := by
  refine h.invariant (P := fun c => c.shared.revoked = true ↔
    InvitationCall.revoked true ∈ c.processes) ?_ ?_
  · rintro c ⟨⟨-, -, -, hrevoked⟩, hnone⟩
    rw [hrevoked, hnone]
    exact ⟨by rintro ⟨⟩, by rintro ⟨⟩⟩
  · rintro c (call | ⟨i, input⟩) c' - hc hstep
    · obtain ⟨harrives, rfl⟩ := hstep
      refine hc.trans ⟨List.mem_append_left _, fun hmem => ?_⟩
      rcases List.mem_append.mp hmem with hold | hnew
      · exact hold
      · rw [← List.mem_singleton.mp hnew] at harrives
        exact absurd harrives id
    · obtain ⟨call, hget, -, rfl⟩ := hstep
      have hlt : i < c.processes.length := (List.getElem?_eq_some_iff.mp hget).1
      have hcall : call = .revoked true → c.shared.revoked = true := fun h =>
        hc.mpr (h ▸ List.mem_of_getElem? hget)
      have hself : (call.act hash c.shared input).2 ∈
          ((invitationCalls hash).after c i call input).processes :=
        List.mem_of_getElem? (List.getElem?_set_self hlt)
      obtain ⟨hto, hfrom⟩ := InvitationCall.revoked_of_act hash input hcall
      constructor
      · intro hrevoked
        rcases hto hrevoked with hold | hnew
        · obtain ⟨j, hj⟩ := List.getElem?_of_mem (hc.mp hold)
          by_cases hij : i = j
          · subst hij
            obtain rfl : call = .revoked true := Option.some.inj (hget.symm.trans hj)
            have hstays : ((InvitationCall.revoked true).act hash c.shared input).2 =
                .revoked true := by
              rw [InvitationCall.act, if_neg fun h => h.2 trivial]
              rfl
            rw [hstays] at hself
            exact hself
          · exact List.mem_of_getElem? ((List.getElem?_set_ne hij).trans hj)
        · exact hnew ▸ hself
      · intro hmem
        rcases List.mem_or_eq_of_mem_set hmem with hold | hnew
        · exact InvitationCall.revoked_act (hc.mpr hold) call input
        · exact hfrom hnew.symm

/-- Revocations in the runs that meet the condition. -/
lemma revocation_of_reachable
    (h : ((invitationCalls hash).machine.restrict Undone).Reachable c) : Revocation c.shared := by
  refine h.invariant (P := fun c => Revocation c.shared) ?_ ?_
  · rintro c ⟨⟨hpending, -, -, hrevoked⟩, -⟩
    refine ⟨fun h => ?_, fun h => ?_⟩
    · exact absurd (h.symm.trans hrevoked) (by decide)
    · exact absurd (hpending.symm.trans h) (by decide)
  · rintro c (call | ⟨i, input⟩) c' hreach hc ⟨hstep, hundone⟩
    · obtain ⟨-, rfl⟩ := hstep
      exact hc
    · obtain ⟨call, hget, hadmits, rfl⟩ := hstep
      exact InvitationCall.act_revocation
        (fun hopen => (writing_owned hreach.of_restrict).owns (List.mem_of_getElem? hget) hopen)
        (fun a ha hgoes => hundone a (ha ▸ hget) hgoes) hc

/-- A step that does take a claim back after a revocation makes the invitation pending. -/
lemma pending_after_revert {i : ℕ} {input : InvitationInput} {c' : Config _ _}
    (hstep : (invitationCalls hash).machine.step c (.act i input) c')
    (hundone : ¬Undone c (.act i input)) :
    ∃ c'', (invitationCalls hash).machine.step c' (.act i ⟨0, false, false⟩) c'' ∧
      c''.shared.revoked = true ∧ c''.shared.row.status = invitationStatusPending := by
  rw [Undone] at hundone
  push Not at hundone
  obtain ⟨a, hget, hgoes, hrevoked⟩ := hundone
  obtain ⟨call, hget', hadmits, rfl⟩ := hstep
  obtain rfl : InvitationCall.revert a = call := Option.some.inj (hget.symm.trans hget')
  have hact : (invitationCalls hash).act c.shared (.revert a) input =
      (InvitationCall.revert a).statement hash c.shared input :=
    InvitationCall.act_of_not_fails fun h => absurd (h.1.symm.trans hgoes) (by decide)
  have hlt : i < c.processes.length := (List.getElem?_eq_some_iff.mp hget).1
  have hnext : ((invitationCalls hash).after c i (.revert a) input).processes[i]? =
      some (.commitRevert a) := by
    rw [Interleaving.after, hact]
    exact List.getElem?_set_self hlt
  refine ⟨_, ⟨_, hnext, fun _ => id, rfl⟩, ?_, ?_⟩
  · refine InvitationCall.revoked_act ?_ _ _
    rw [Interleaving.after, hact]
    exact (Bool.not_eq_false _).mp hrevoked
  · simp only [Interleaving.after, hact]
    rfl

/-- **Revoking an invitation is final as long as no accept call takes its claim back
afterwards**: then, once a revocation has returned true, the invitation is never pending again
and no accept call that begins later creates a membership; a claim taken back afterwards makes
it pending again. -/
theorem revocation_final (hash : String → String) :
    (∀ (states : ℕ → Config InvitationState InvitationCall) (n : ℕ),
        ((invitationCalls hash).machine.restrict Undone).Trace states n →
        ∀ i j, i ≤ j → j ≤ n → InvitationCall.revoked true ∈ (states i).processes →
          (states j).shared.row.status ≠ invitationStatusPending ∧
            ∀ (k : ℕ) record, (states i).processes.length ≤ k →
              (states j).processes[k]? ≠ some (.accepted record)) ∧
      ∀ c e c', (invitationCalls hash).machine.Reachable c →
        (invitationCalls hash).machine.step c e c' → ¬Undone c e →
          ∃ e' c'', (invitationCalls hash).machine.step c' e' c'' ∧
            InvitationCall.revoked true ∈ c''.processes ∧
              c''.shared.row.status = invitationStatusPending := by
  constructor
  · intro states n htrace i j hij hj hreturned
    have hrevoked : (states i).shared.revoked = true :=
      (revoked_iff (htrace.reachable (hij.trans hj)).of_restrict).mpr hreturned
    have hlater := htrace.from_moment (P := fun _ c => c.shared.revoked = true ∧
      (states i).processes.length ≤ c.processes.length ∧ ∀ (k : ℕ) call,
        (states i).processes.length ≤ k → c.processes[k]? = some call → call.Late)
      (a := i) ⟨hrevoked, le_rfl, fun k call hk hget => ?_⟩ ?_ hij hj
    · refine ⟨((revocation_of_reachable (htrace.reachable hj)).stands hlater.1).row,
        fun k record hk hget => hlater.2.2 k _ hk hget⟩
    · rw [List.getElem?_eq_none hk] at hget
      cases hget
    · rintro k (call | ⟨m, input⟩) hik hk ⟨hrevoked', hlength, hlate⟩ ⟨hstep, -⟩
      · obtain ⟨harrives, hnext⟩ := hstep
        rw [hnext]
        refine ⟨hrevoked', ?_, fun l other hl hget => ?_⟩
        · rw [List.length_append]
          exact hlength.trans (Nat.le_add_right _ _)
        · have hget : ((states k).processes ++ [call])[l]? = some other := hget
          rcases Nat.lt_or_ge l (states k).processes.length with hold | hnew
          · exact hlate l other hl ((List.getElem?_append_left hold).symm.trans hget)
          · rw [List.getElem?_append_right hnew] at hget
            obtain rfl := List.mem_singleton.mp (List.mem_of_getElem? hget)
            cases other <;> first | exact trivial | exact absurd harrives id
      · obtain ⟨call, hget, hadmits, hnext⟩ := hstep
        rw [hnext]
        refine ⟨InvitationCall.revoked_act hrevoked' call input, ?_, fun l other hl hother => ?_⟩
        · exact hlength.trans (List.length_set ..).ge
        · have hrow := ((revocation_of_reachable (htrace.reachable hk.le)).stands hrevoked').row
          by_cases hml : m = l
          · subst hml
            have hlt : m < (states k).processes.length := (List.getElem?_eq_some_iff.mp hget).1
            obtain rfl : _ = other := Option.some.inj ((List.getElem?_set_self hlt).symm.trans hother)
            exact InvitationCall.act_late hrow (hlate m call hl hget)
          · exact hlate l other hl ((List.getElem?_set_ne hml).symm.trans hother)
  · rintro c (call | ⟨i, input⟩) c' hreach hstep hundone
    · exact absurd trivial hundone
    · obtain ⟨c'', hstep', hrevoked, hpending⟩ := pending_after_revert hstep hundone
      exact ⟨_, c'', hstep', (revoked_iff ((hreach.step hstep).step hstep')).mp hrevoked, hpending⟩

/-- An accept call claims the invitation, which is then revoked; the membership cannot be
created, and the call takes its claim back. -/
def revokedMeanwhile : List (Event InvitationCall InvitationInput) :=
  [.arrive (.accept "token" "anna" 0), .act 0 goes, .act 0 goes, .act 0 goes,
    .arrive (.revoke "inv"), .act 1 goes, .act 1 goes, .act 1 goes, .act 0 ⟨0, false, false⟩,
    .act 0 goes, .act 0 goes]

/-- The revoked invitation is pending again. -/
theorem revoked_pending_again :
    ¬∀ (states : ℕ → Config InvitationState InvitationCall) (n : ℕ),
      (invitationCalls id).machine.Trace states n →
      ∀ i j, i ≤ j → j ≤ n → InvitationCall.revoked true ∈ (states i).processes →
        (states j).shared.row.status ≠ invitationStatusPending ∧
          ∀ (k : ℕ) record, (states i).processes.length ≤ k →
            (states j).processes[k]? ≠ some (.accepted record) := by
  intro h
  have hruns : (invitationCalls id).Runs sampleInvitation revokedMeanwhile := by decide +kernel
  have hinitial : (invitationCalls id).machine.initial sampleInvitation :=
    ⟨⟨rfl, rfl, rfl, rfl⟩, rfl⟩
  exact (h _ _ (trace_run hinitial hruns) 8 11 (by decide) (by decide) (by decide +kernel)).1
    (by decide +kernel)

end AuthzKit
