import AuthzKit.Relational.Interleaving
import AuthzKit.Storage.Orm

/-!
Accepting and revoking one invitation, statement by statement: `InvitationService` of
`authzkit/security/invitations.py`.

The shared state is the row of the invitation, with the version an open transaction has
written and not yet committed. A statement that writes waits until that version is committed
or rolled back; a read returns the committed row, which may have changed when the call acts on
it. `create_membership` is one step that succeeds or fails.

* `InvitationCall.statement`: what a call does next.
* `invitationCalls`: the machine of all interleavings.
* `writing_owned`: the uncommitted version is what its transaction wrote.
* `claim_owned`: between its claim and its end an accept call is alone.
-/

namespace AuthzKit

open Interleaving

namespace Invitations

def invitationStatusPending : String := "pending"

def invitationStatusAccepted : String := "accepted"

def invitationStatusExpired : String := "expired"

def invitationStatusRevoked : String := "revoked"

end Invitations

open Invitations

/-- A row of `invitations`. -/
structure Invitation where
  id : Id
  tenantId : Id
  applicationId : Option Id
  email : String
  tokenHash : String
  /-- Names joined by commas. -/
  roles : String
  status : String
  invitedByUserId : Option Id
  expiresAt : DateTime
  acceptedAt : Option DateTime
  acceptedByUserId : Option Id
deriving DecidableEq

/-- What `create_membership` is called with. -/
structure MembershipRequest where
  tenantId : Id
  applicationId : Option Id
  userId : Id
  roles : List String
deriving DecidableEq

/-- The row, its uncommitted version, the memberships accept calls have created from it, and
whether a revocation of it has returned true. -/
structure InvitationState where
  row : Invitation
  writing : Option Invitation
  memberships : List MembershipRequest
  revoked : Bool
deriving DecidableEq

/-- `[r for r in (row.roles or "").split(",") if r]`. -/
def Invitation.roleNames (row : Invitation) : List String :=
  (row.roles.splitOn ",").filter fun r => r ≠ ""

/-- An accept call that has read a pending row. -/
structure Acceptance where
  seen : Invitation
  userId : Id
  acceptedAt : DateTime
deriving DecidableEq

/-- The call of `create_membership`. -/
def Acceptance.request (a : Acceptance) : MembershipRequest where
  tenantId := a.seen.tenantId
  applicationId := a.seen.applicationId
  userId := a.userId
  roles := a.seen.roleNames

/-- The record `accept` returns. -/
def Acceptance.record (a : Acceptance) : Invitation :=
  { a.seen with
    status := invitationStatusAccepted
    acceptedAt := some a.acceptedAt
    acceptedByUserId := some a.userId }

/-- A call, by what it does next. -/
inductive InvitationCall where
  /-- `accept` selects the row of its token. -/
  | accept (plaintext : String) (userId : Id) (acceptedAt : DateTime)
  | expire
  | commitExpired
  /-- The conditional `UPDATE`. -/
  | claim (a : Acceptance)
  | commitClaim (a : Acceptance)
  | createMembership (a : Acceptance)
  /-- The unconditional `UPDATE` after a failure. -/
  | revert (a : Acceptance)
  | commitRevert (a : Acceptance)
  | accepted (record : Invitation)
  | raised (reason : String)
  /-- `revoke` gets the row. -/
  | revoke (invitationId : Id)
  | revokeWrite
  | commitRevoke
  | revoked (found : Bool)
deriving DecidableEq

/-- What a step reads besides the row: the clock, whether `create_membership` succeeds, and
whether the step fails for a reason of its own. -/
structure InvitationInput where
  now : DateTime
  creates : Bool
  fails : Bool
deriving DecidableEq

namespace InvitationCall

/-- The status that the open transaction of a call has written. -/
def writtenStatus : InvitationCall → Option String
  | .commitExpired => some invitationStatusExpired
  | .commitClaim _ => some invitationStatusAccepted
  | .commitRevert _ => some invitationStatusPending
  | .commitRevoke => some invitationStatusRevoked
  | _ => none

/-- The next statement is an `UPDATE` that waits for other transactions; the conditional one
waits only for a row that it matches. -/
def Waits (s : InvitationState) : InvitationCall → Prop
  | .claim _ => s.row.status = invitationStatusPending ∧ s.writing ≠ none
  | .expire | .revert _ | .revokeWrite => s.writing ≠ none
  | _ => False

end InvitationCall

namespace InvitationState

variable (s : InvitationState)

/-- An `UPDATE` of the row, not yet committed. -/
def write (f : Invitation → Invitation) : InvitationState := { s with writing := some (f s.row) }

def commit : InvitationState :=
  { s with row := s.writing.getD s.row, writing := none }

def rollback : InvitationState := { s with writing := none }

end InvitationState

namespace InvitationCall

/-- The next step of a call; `hash` is `_hash_token`. -/
def statement (hash : String → String) (s : InvitationState) (input : InvitationInput) :
    InvitationCall → InvitationState × InvitationCall
  | .accept plaintext userId acceptedAt =>
      if s.row.tokenHash ≠ hash plaintext then (s, .raised "invalid_token")
      else if s.row.status ≠ invitationStatusPending then (s, .raised "invitation_not_pending")
      else if s.row.expiresAt < input.now then (s, .expire)
      else (s, .claim ⟨s.row, userId, acceptedAt⟩)
  | .expire => (s.write fun row => { row with status := invitationStatusExpired }, .commitExpired)
  | .commitExpired => (s.commit, .raised "invitation_expired")
  | .claim a =>
      if s.row.status = invitationStatusPending then
        (s.write fun row => { row with
          status := invitationStatusAccepted
          acceptedAt := some a.acceptedAt
          acceptedByUserId := some a.userId }, .commitClaim a)
      else (s, .raised "invitation_not_pending")
  | .commitClaim a => (s.commit, .createMembership a)
  | .createMembership a =>
      if input.creates then
        ({ s with memberships := s.memberships ++ [a.request] }, .accepted a.record)
      else (s, .revert a)
  | .revert a =>
      (s.write fun row => { row with
        status := invitationStatusPending
        acceptedAt := none
        acceptedByUserId := none }, .commitRevert a)
  | .commitRevert _ => (s.commit, .raised "membership_creation_failed")
  | .revoke invitationId =>
      if s.row.id ≠ invitationId then (s, .revoked false)
      -- the row is as it should be, so the flush writes nothing
      else if s.row.status = invitationStatusRevoked then ({ s with revoked := true }, .revoked true)
      else (s, .revokeWrite)
  | .revokeWrite =>
      (s.write fun row => { row with status := invitationStatusRevoked }, .commitRevoke)
  | .commitRevoke => ({ s.commit with revoked := true }, .revoked true)
  | .accepted record => (s, .accepted record)
  | .raised reason => (s, .raised reason)
  | .revoked found => (s, .revoked found)

/-- The call has ended. -/
def Ended : InvitationCall → Prop
  | .accepted _ | .raised _ | .revoked _ => True
  | _ => False

instance : DecidablePred Ended
  | .accepted _ | .raised _ | .revoked _ => isTrue trivial
  | .accept _ _ _ | .expire | .commitExpired | .claim _ | .commitClaim _ | .createMembership _
  | .revert _ | .commitRevert _ | .revoke _ | .revokeWrite | .commitRevoke => isFalse id

instance decidableWaits (s : InvitationState) : DecidablePred (Waits s)
  | .claim _ =>
      inferInstanceAs (Decidable (s.row.status = invitationStatusPending ∧ s.writing ≠ none))
  | .expire | .revert _ | .revokeWrite => inferInstanceAs (Decidable (s.writing ≠ none))
  | .accept _ _ _ | .commitExpired | .commitClaim _ | .createMembership _ | .commitRevert _
  | .revoke _ | .commitRevoke | .accepted _ | .raised _ | .revoked _ => isFalse id

/-- A step that fails rolls its open transaction back and ends the call. -/
def act (hash : String → String) (s : InvitationState) (call : InvitationCall)
    (input : InvitationInput) : InvitationState × InvitationCall :=
  if input.fails ∧ ¬call.Ended then
    (if call.writtenStatus.isSome then s.rollback else s, .raised "failed")
  else call.statement hash s input

/-- A call that has not begun. -/
def Arrives : InvitationCall → Prop
  | .accept _ _ _ | .revoke _ => True
  | _ => False

instance : DecidablePred Arrives
  | .accept _ _ _ | .revoke _ => isTrue trivial
  | .expire | .commitExpired | .claim _ | .commitClaim _ | .createMembership _ | .revert _
  | .commitRevert _ | .revokeWrite | .commitRevoke | .accepted _ | .raised _ | .revoked _ =>
      isFalse id

end InvitationCall

/-- Calls on one invitation, in every interleaving; an `UPDATE` waits for the transaction that
has written the row, unless it fails. -/
def invitationCalls (hash : String → String) :
    Interleaving InvitationState InvitationCall InvitationInput where
  initial := fun s => s.row.status = invitationStatusPending ∧ s.writing = none ∧
    s.memberships = [] ∧ s.revoked = false
  arrives := InvitationCall.Arrives
  admits := fun s call input => input.fails = false → ¬call.Waits s
  act := InvitationCall.act hash

instance (hash : String → String) : DecidablePred (invitationCalls hash).arrives :=
  inferInstanceAs (DecidablePred InvitationCall.Arrives)

instance (hash : String → String) (s : InvitationState) (call : InvitationCall)
    (input : InvitationInput) : Decidable ((invitationCalls hash).admits s call input) :=
  inferInstanceAs (Decidable (input.fails = false → ¬call.Waits s))

/-! ### The row lock -/

namespace InvitationCall

variable {hash : String → String} {s : InvitationState} {call : InvitationCall}
  {input : InvitationInput}

/-- A failed step. -/
lemma act_of_fails (h : input.fails = true) (hended : ¬call.Ended) : act hash s call input =
    (if call.writtenStatus.isSome then s.rollback else s, .raised "failed") :=
  if_pos ⟨h, hended⟩

lemma act_of_not_fails (h : ¬(input.fails = true ∧ ¬call.Ended)) :
    act hash s call input = call.statement hash s input := if_neg h

variable (hash) in
/-- What a step does to the uncommitted version of the row. -/
lemma act_writing (hadmits : input.fails = false → ¬call.Waits s)
    (hown : call.writtenStatus.isSome ∨ s.writing = none) :
    (act hash s call input).1.writing.map Invitation.status =
      (act hash s call input).2.writtenStatus := by
  by_cases hfails : input.fails = true ∧ ¬call.Ended
  · rw [act_of_fails hfails.1 hfails.2]
    split
    · rfl
    · rename_i hquiet
      exact (congrArg _ (hown.resolve_left hquiet)).trans rfl
  · rw [act_of_not_fails hfails]
    cases call with
    | accept plaintext userId acceptedAt =>
        have hnone := hown.resolve_left (by simp [writtenStatus])
        rw [statement]
        split_ifs <;> simp [hnone, writtenStatus]
    | claim a =>
        have hnone := hown.resolve_left (by simp [writtenStatus])
        rw [statement]
        split_ifs <;> simp [hnone, writtenStatus, InvitationState.write]
    | createMembership a =>
        have hnone := hown.resolve_left (by simp [writtenStatus])
        rw [statement]
        split_ifs <;> simp [hnone, writtenStatus]
    | revoke invitationId =>
        have hnone := hown.resolve_left (by simp [writtenStatus])
        rw [statement]
        split_ifs <;> simp [hnone, writtenStatus]
    | accepted record => exact (congrArg _ (hown.resolve_left (by simp [writtenStatus]))).trans rfl
    | raised reason => exact (congrArg _ (hown.resolve_left (by simp [writtenStatus]))).trans rfl
    | revoked found => exact (congrArg _ (hown.resolve_left (by simp [writtenStatus]))).trans rfl
    | _ => rfl

variable (hash) in
/-- While another transaction has written the row, no call writes. -/
lemma act_locked (hadmits : input.fails = false → ¬call.Waits s)
    (hquiet : call.writtenStatus = none) (hlocked : s.writing ≠ none) :
    (act hash s call input).2.writtenStatus = none ∧ (act hash s call input).1.row = s.row ∧
      (act hash s call input).1.writing = s.writing := by
  by_cases hfails : input.fails = true ∧ ¬call.Ended
  · rw [act_of_fails hfails.1 hfails.2, hquiet]
    exact ⟨rfl, rfl, rfl⟩
  · rw [act_of_not_fails hfails]
    have hgoes : ¬call.Ended → ¬call.Waits s := fun hended =>
      hadmits (Bool.eq_false_iff.mpr fun h => hfails ⟨h, hended⟩)
    cases call with
    | accept plaintext userId acceptedAt =>
        rw [statement]
        split_ifs <;> exact ⟨rfl, rfl, rfl⟩
    | claim a =>
        rw [statement]
        split_ifs with hpending
        · exact absurd ⟨hpending, hlocked⟩ (hgoes id)
        · exact ⟨rfl, rfl, rfl⟩
    | createMembership a =>
        rw [statement]
        split_ifs <;> exact ⟨rfl, rfl, rfl⟩
    | revoke invitationId =>
        rw [statement]
        split_ifs <;> exact ⟨rfl, rfl, rfl⟩
    | expire => exact absurd hlocked (hgoes id)
    | revert a => exact absurd hlocked (hgoes id)
    | revokeWrite => exact absurd hlocked (hgoes id)
    | accepted record => exact ⟨rfl, rfl, rfl⟩
    | raised reason => exact ⟨rfl, rfl, rfl⟩
    | revoked found => exact ⟨rfl, rfl, rfl⟩
    | commitExpired => cases hquiet
    | commitClaim a => cases hquiet
    | commitRevert a => cases hquiet
    | commitRevoke => cases hquiet

end InvitationCall

variable {hash : String → String} {c : Config InvitationState InvitationCall}

/-- **The row lock**: at most one call has written the row, and the uncommitted version is
what it wrote. -/
theorem writing_owned (h : (invitationCalls hash).machine.Reachable c) :
    OneOwner (fun call => call.writtenStatus.isSome)
      (fun s call => s.writing.map Invitation.status = call.writtenStatus)
      (fun s => s.writing = none) c := by
  have hstep : ∀ (s : InvitationState) (call : InvitationCall) (input : InvitationInput),
      (invitationCalls hash).admits s call input →
      (call.writtenStatus.isSome ∨ s.writing = none) →
        (call.act hash s input).2.writtenStatus.isSome ∧
            (call.act hash s input).1.writing.map Invitation.status =
              (call.act hash s input).2.writtenStatus ∨
          ¬(call.act hash s input).2.writtenStatus.isSome ∧
            (call.act hash s input).1.writing = none := by
    intro s call input hadmits hown
    have hwritten := InvitationCall.act_writing hash hadmits hown
    cases hstatus : (call.act hash s input).2.writtenStatus with
    | some status => exact Or.inl ⟨rfl, hwritten.trans hstatus⟩
    | none =>
        rw [hstatus, Option.map_eq_none_iff] at hwritten
        exact Or.inr ⟨by simp, hwritten⟩
  refine one_owner (I := invitationCalls hash) (fun s hs => hs.2.1) ?_ ?_ ?_ ?_ h
  · intro call harrives
    cases call <;> first | exact absurd harrives id | simp [InvitationCall.writtenStatus]
  · exact fun c call input _ _ hadmits hidle _ => hstep _ call input hadmits (Or.inr hidle)
  · intro c call input other _ _ hadmits hquiet hwrites howns
    have hlocked : c.shared.writing ≠ none := by
      intro hnone
      rw [hnone] at howns
      rw [← howns] at hwrites
      cases hwrites
    obtain ⟨hquiet', -, hkept⟩ := InvitationCall.act_locked hash hadmits
      (Option.not_isSome_iff_eq_none.mp hquiet) hlocked
    exact ⟨Option.not_isSome_iff_eq_none.mpr hquiet', by rw [← howns, ← hkept]; rfl⟩
  · exact fun c call input _ _ hadmits hwrites _ => hstep _ call input hadmits (Or.inl hwrites)

end AuthzKit
