import AuthzKit.Security.InvitationRuns
import AuthzKit.Storage.Assignments
import AuthzKit.Text.Words

/-!
The roles of an invitation, from `InvitationService.create` to the membership that an accept call
creates.

* `InvitationCreation.row`: the row `create` adds, with the names stripped and joined by commas.
* `requested`: whatever else happens to the invitation, an accept call asks for the parts between
  the commas.
* `GrantsInvited`: the membership is linked to the roles that `create_membership` finds for the
  invited names themselves; `grantsInvited_iff` says when.
-/

namespace AuthzKit

open Keyed Links Text Invitations Interleaving

/-- A call of `create`, with the id, the token and the time that it draws and reads. -/
structure InvitationCreation where
  id : Id
  plaintext : String
  now : DateTime
  tenantId : Id
  applicationId : Option Id
  email : String
  roles : List String
  invitedByUserId : Option Id
  ttl : DateTime

/-- The row that `create` adds; `lower` is `str.lower`, `hash` is `_hash_token`. -/
def InvitationCreation.row (lower hash : String → String) (creation : InvitationCreation) :
    Invitation where
  id := creation.id
  tenantId := creation.tenantId
  applicationId := creation.applicationId
  email := strip (lower creation.email)
  tokenHash := hash creation.plaintext
  roles := joined ',' creation.roles
  status := invitationStatusPending
  invitedByUserId := creation.invitedByUserId
  expiresAt := creation.now + creation.ttl
  acceptedAt := none
  acceptedByUserId := none

/-- Calls on the invitation that one call of `create` has made. -/
def createdInvitation (lower hash : String → String) (creation : InvitationCreation) :
    Interleaving InvitationState InvitationCall InvitationInput :=
  { invitationCalls hash with
    initial := fun s => s =
      { row := creation.row lower hash, writing := none, memberships := [], revoked := false } }

instance (lower hash : String → String) (creation : InvitationCreation) :
    DecidablePred (createdInvitation lower hash creation).arrives :=
  inferInstanceAs (DecidablePred InvitationCall.Arrives)

instance (lower hash : String → String) (creation : InvitationCreation) (s : InvitationState)
    (call : InvitationCall) (input : InvitationInput) :
    Decidable ((createdInvitation lower hash creation).admits s call input) :=
  inferInstanceAs (Decidable (input.fails = false → ¬call.Waits s))

/-! ### What an accept call asks for -/

/-- The columns of an invitation that go into the membership; no statement writes them. -/
def Invitation.offer (row : Invitation) : Id × Option Id × String :=
  (row.tenantId, row.applicationId, row.roles)

namespace InvitationCall

/-- The row that an accept call has read. -/
def seen : InvitationCall → Option Invitation
  | .claim a | .commitClaim a | .createMembership a | .revert a | .commitRevert a => some a.seen
  | _ => none

variable {hash : String → String} {s : InvitationState} {call : InvitationCall}
  {input : InvitationInput} {offer : Id × Option Id × String}

variable (hash input) in
/-- A step keeps what the invitation offers, in the row and in what a call has read of it. -/
lemma act_offer (hrow : s.row.offer = offer) (hwriting : ∀ row ∈ s.writing, row.offer = offer)
    (hseen : ∀ row ∈ call.seen, row.offer = offer) :
    ((act hash s call input).1.row.offer = offer ∧
      ∀ row ∈ (act hash s call input).1.writing, row.offer = offer) ∧
      ∀ row ∈ (act hash s call input).2.seen, row.offer = offer := by
  have hnone : ∀ row ∈ (none : Option Invitation), row.offer = offer := fun row h => nomatch h
  have hcommit : s.commit.row.offer = offer ∧ ∀ row ∈ s.commit.writing, row.offer = offer := by
    refine ⟨?_, hnone⟩
    rw [InvitationState.commit]
    cases hw : s.writing with
    | none => exact hrow
    | some row => exact hwriting row hw
  have hwrite : ∀ f : Invitation → Invitation, (∀ row, (f row).offer = row.offer) →
      (s.write f).row.offer = offer ∧ ∀ row ∈ (s.write f).writing, row.offer = offer := by
    refine fun f hf => ⟨hrow, fun row hw => ?_⟩
    rw [← Option.some.inj hw, hf]
    exact hrow
  by_cases hfails : input.fails = true ∧ ¬call.Ended
  · rw [act_of_fails hfails.1 hfails.2]
    refine ⟨?_, hnone⟩
    split
    · exact ⟨hrow, hnone⟩
    · exact ⟨hrow, hwriting⟩
  · rw [act_of_not_fails hfails]
    cases call with
    | accept plaintext userId acceptedAt =>
        rw [statement]
        split_ifs
        · exact ⟨⟨hrow, hwriting⟩, hnone⟩
        · exact ⟨⟨hrow, hwriting⟩, hnone⟩
        · exact ⟨⟨hrow, hwriting⟩, hnone⟩
        · exact ⟨⟨hrow, hwriting⟩, fun row h => Option.some.inj h ▸ hrow⟩
    | claim a =>
        rw [statement]
        split_ifs
        · exact ⟨hwrite _ fun _ => rfl, hseen⟩
        · exact ⟨⟨hrow, hwriting⟩, hnone⟩
    | createMembership a =>
        rw [statement]
        split_ifs
        · exact ⟨⟨hrow, hwriting⟩, hnone⟩
        · exact ⟨⟨hrow, hwriting⟩, hseen⟩
    | revoke invitationId =>
        rw [statement]
        split_ifs
        · exact ⟨⟨hrow, hwriting⟩, hnone⟩
        · exact ⟨⟨hrow, hwriting⟩, hnone⟩
        · exact ⟨⟨hrow, hwriting⟩, hnone⟩
    | expire => exact ⟨hwrite _ fun _ => rfl, hnone⟩
    | commitExpired => exact ⟨hcommit, hnone⟩
    | commitClaim a => exact ⟨hcommit, hseen⟩
    | revert a => exact ⟨hwrite _ fun _ => rfl, hseen⟩
    | commitRevert a => exact ⟨hcommit, hnone⟩
    | revokeWrite => exact ⟨hwrite _ fun _ => rfl, hnone⟩
    | commitRevoke => exact ⟨hcommit, hnone⟩
    | accepted record => exact ⟨⟨hrow, hwriting⟩, hnone⟩
    | raised reason => exact ⟨⟨hrow, hwriting⟩, hnone⟩
    | revoked found => exact ⟨⟨hrow, hwriting⟩, hnone⟩

end InvitationCall

variable {lower hash : String → String} {creation : InvitationCreation}
  {c : Config InvitationState InvitationCall}

/-- In every interleaving an accept call has read what `create` wrote. -/
lemma offer_of_reachable (h : (createdInvitation lower hash creation).machine.Reachable c)
    {call : InvitationCall} (hcall : call ∈ c.processes) (row : Invitation)
    (hrow : row ∈ call.seen) : row.offer = (creation.row lower hash).offer := by
  have hall := rely_guarantee (I := createdInvitation lower hash creation)
    (J := fun s => s.row.offer = (creation.row lower hash).offer ∧
      ∀ row ∈ s.writing, row.offer = (creation.row lower hash).offer)
    (P := fun _ call => ∀ row ∈ call.seen, row.offer = (creation.row lower hash).offer)
    ?_ ?_ ?_ h
  · exact hall.2 call hcall row hrow
  · rintro s rfl
    exact ⟨rfl, nofun⟩
  · intro s call harrives
    cases call <;> first | exact absurd harrives id | exact nofun
  · intro s call input hs hcall _
    obtain ⟨hs', hcall'⟩ := InvitationCall.act_offer hash input hs.1 hs.2 hcall
    exact ⟨hs', hcall', fun _ hother => hother⟩

/-- The roles of the record are the parts of the column. -/
lemma Invitation.roleNames_eq (row : Invitation) : row.roleNames = parts ',' row.roles :=
  congrArg (List.filter _) (splitOn_singleton ',' row.roles)

/-- **What an accept call asks for**, in every interleaving. -/
lemma requested (h : (createdInvitation lower hash creation).machine.Reachable c) {a : Acceptance}
    (hcall : .createMembership a ∈ c.processes) :
    a.request = ⟨creation.tenantId, creation.applicationId, a.userId,
      parts ',' (joined ',' creation.roles)⟩ := by
  have hoffer := offer_of_reachable h hcall a.seen rfl
  obtain ⟨htenant, hrest⟩ := Prod.mk.inj hoffer
  obtain ⟨happ, hroles⟩ := Prod.mk.inj hrest
  rw [Acceptance.request, htenant, happ, Invitation.roleNames_eq, hroles]
  rfl

/-! ### What it gets -/

/-- The call of `create_membership`. -/
def MembershipRequest.op (r : MembershipRequest) : Op :=
  .createMembership r.tenantId r.applicationId r.userId "active" r.roles.toFinset

/-- **An invitation grants the invited roles**: the membership that is created is linked to the
roles that `create_membership` would link it to if it were called with the invited names. -/
def GrantsInvited (s : SqlAlchemyStore) (uuid4 uuid4' : UuidSource) (r : MembershipRequest)
    (names : List String) : Prop :=
  ∃ s' s'', s.perform r.op uuid4 = .ok s' ∧
    s.perform { r with roles := names }.op uuid4' = .ok s'' ∧
    others s'.tables.membershipRoles (uuid4 .row) = others s''.tables.membershipRoles (uuid4' .row)

section

variable {s s' : SqlAlchemyStore} {uuid4 uuid4' : UuidSource} {r : MembershipRequest}
  {names : List String}

/-- The roles that the created membership is linked to. -/
lemma others_of_perform (hf : Fresh uuid4 s.tables (Draw.Within 0))
    (h : s.perform r.op uuid4 = .ok s') : others s'.tables.membershipRoles (uuid4 .row) =
      Tables.roleIds
        (s.tables.assignableRoles (some r.tenantId) r.applicationId r.roles.toFinset) := by
  have htables : r.op.tables uuid4 s.tables = .ok _ := Assignment.createMembership_tables hf
  have heq := (SqlAlchemyStore.perform_eq_ok_iff.mp h).2
  rw [← Except.ok.inj (htables.symm.trans heq)]
  exact others_replace

variable (names) in
/-- Whether a membership can be created does not depend on its roles. -/
lemma perform_names (hf : Fresh uuid4 s.tables (Draw.Within 0))
    (hf' : Fresh uuid4' s.tables (Draw.Within 0)) (h : s.perform r.op uuid4 = .ok s') :
    ∃ s'', s.perform { r with roles := names }.op uuid4' = .ok s'' := by
  have htables : r.op.tables uuid4 s.tables = .ok _ := Assignment.createMembership_tables hf
  have htables' : { r with roles := names }.op.tables uuid4' s.tables = .ok _ :=
    Assignment.createMembership_tables hf'
  have heq := Except.ok.inj
    (htables.symm.trans (SqlAlchemyStore.perform_eq_ok_iff.mp h).2)
  have hinsertable := (Assignment.createMembership_accepted hf htables).mp
    ⟨heq ▸ s'.constraints, fun hfk => heq ▸ s'.foreignKeys
      ((SqlAlchemyStore.perform_eq_ok_iff.mp h).1 ▸ hfk)⟩
  obtain ⟨hc, hfk⟩ := (Assignment.createMembership_accepted hf' htables').mpr hinsertable
  exact ⟨_, SqlAlchemyStore.perform_ok htables' hc hfk⟩

variable (names) in
/-- The grant, by the names that are asked for and the invited ones. -/
lemma grantsInvited_iff_names (hf : Fresh uuid4 s.tables (Draw.Within 0))
    (hf' : Fresh uuid4' s.tables (Draw.Within 0)) (h : s.perform r.op uuid4 = .ok s') :
    GrantsInvited s uuid4 uuid4' r names ↔
      ∀ n, s.tables.assignableRole (some r.tenantId) r.applicationId n ≠ none →
        (n ∈ r.roles ↔ n ∈ names) := by
  obtain ⟨s'', h'⟩ := perform_names names hf hf' h
  have hlinks : GrantsInvited s uuid4 uuid4' r names ↔
      Tables.roleIds (s.tables.assignableRoles (some r.tenantId) r.applicationId
        r.roles.toFinset) =
      Tables.roleIds (s.tables.assignableRoles (some r.tenantId) r.applicationId
        names.toFinset) := by
    rw [← others_of_perform hf h, ← others_of_perform hf' h']
    constructor
    · rintro ⟨t', t'', ht', ht'', hsame⟩
      obtain rfl := Except.ok.inj (ht'.symm.trans h)
      obtain rfl := Except.ok.inj (ht''.symm.trans h')
      exact hsame
    · exact fun hsame => ⟨s', s'', h, h', hsame⟩
  rw [hlinks, Tables.roleIds, Tables.roleIds, (s.tables.answers_roles (some r.tenantId)
    r.applicationId r.roles.toFinset).ids_eq_iff (s.tables.answers_roles (some r.tenantId)
      r.applicationId names.toFinset) fun x hx y hy hid =>
        List.inj_on_of_nodup_map s.constraints.roleId (Tables.of_mem_assignableRoles hx).1
          (Tables.of_mem_assignableRoles hy).1 hid]
  simp only [List.mem_toFinset]

/-- **When an accepted invitation grants the invited roles**: in every interleaving of the calls
on it and in every state of the store, exactly when no name of a role that is there gets lost or
comes up between the commas; for invited names of roles that are there, exactly when each of them
is kept by the column. -/
theorem grantsInvited_iff (h : (createdInvitation lower hash creation).machine.Reachable c)
    {a : Acceptance} (hcall : .createMembership a ∈ c.processes)
    (hf : Fresh uuid4 s.tables (Draw.Within 0)) (hf' : Fresh uuid4' s.tables (Draw.Within 0))
    (hok : s.perform a.request.op uuid4 = .ok s') :
    (GrantsInvited s uuid4 uuid4' a.request creation.roles ↔
      ∀ n, s.tables.assignableRole (some creation.tenantId) creation.applicationId n ≠ none →
        (n ∈ parts ',' (joined ',' creation.roles) ↔ n ∈ creation.roles)) ∧
    ((∀ n ∈ creation.roles,
        s.tables.assignableRole (some creation.tenantId) creation.applicationId n ≠ none) →
      (GrantsInvited s uuid4 uuid4' a.request creation.roles ↔
        ∀ n ∈ creation.roles, Text.Kept ',' n)) := by
  have hnames := grantsInvited_iff_names creation.roles hf hf' hok
  rw [requested h hcall] at hnames ⊢
  refine ⟨hnames, fun hthere => hnames.trans ⟨fun hsame => ?_, fun hkept n _ => ?_⟩⟩
  · exact subset_parts_joined_iff.mp fun n hn => (hsame n (hthere n hn)).mpr hn
  · exact mem_parts_joined_of_kept hkept

end

/-! ### A run -/

open SqlAlchemyStore

/-- The sample store with a role whose name has a comma, and a user who is no member. -/
def invitingStore : SqlAlchemyStore :=
  acmeStore.run
    [(.createRole "sales,viewer" .application (some (sampleIds 1 .application)) none none,
        sampleIds 5),
      (.upsertUserFromIdentity ⟨"oidc", "https://idp", "bob"⟩ none none none, sampleIds 6)]

lemma invitingStore_reachable : invitingStore.Reachable :=
  acmeStore_reachable.run (by decide +kernel)

/-- An invitation to the application of the sample store. -/
def bobsInvitation (roles : List String) : InvitationCreation where
  id := "inv"
  plaintext := "token"
  now := 0
  tenantId := sampleIds 0 .row
  applicationId := some (sampleIds 1 .application)
  email := "bob@acme.com"
  roles := roles
  invitedByUserId := none
  ttl := 604800

/-- What is accepted. -/
def bobsAcceptance (roles : List String) : Acceptance :=
  ⟨(bobsInvitation roles).row id id, sampleIds 6 (.user 0), 1⟩

/-- The invitation before any call on it. -/
def bobInvited (roles : List String) : Config InvitationState InvitationCall :=
  ⟨⟨(bobsInvitation roles).row id id, none, [], false⟩, []⟩

/-- It is accepted, up to the call of `create_membership`. -/
def bobAccepts : List (Event InvitationCall InvitationInput) :=
  [.arrive (.accept "token" (sampleIds 6 (.user 0)) 1), .act 0 goes, .act 0 goes, .act 0 goes]

lemma bobAccepts_reachable {roles : List String}
    (hruns : (createdInvitation id id (bobsInvitation roles)).Runs (bobInvited roles) bobAccepts) :
    (createdInvitation id id (bobsInvitation roles)).machine.Reachable
      ((createdInvitation id id (bobsInvitation roles)).run (bobInvited roles) bobAccepts) := by
  have htrace := (trace_run ⟨rfl, rfl⟩ hruns).reachable le_rfl
  rwa [List.take_length] at htrace

lemma bobsAcceptance_request (roles : List String) : (bobsAcceptance roles).request =
    ⟨sampleIds 0 .row, some (sampleIds 1 .application), sampleIds 6 (.user 0),
      parts ',' (joined ',' roles)⟩ := by
  rw [Acceptance.request, Invitation.roleNames_eq]
  rfl

/-- An invitation as `viewer`. -/
theorem grantsInvited_viewer :
    GrantsInvited invitingStore (sampleIds 7) (sampleIds 8) (bobsAcceptance ["viewer"]).request
      ["viewer"] := by
  have hreach := bobAccepts_reachable (by decide +kernel :
    (createdInvitation id id (bobsInvitation ["viewer"])).Runs (bobInvited ["viewer"]) bobAccepts)
  have hcall : .createMembership (bobsAcceptance ["viewer"]) ∈
      ((createdInvitation id id (bobsInvitation ["viewer"])).run (bobInvited ["viewer"])
        bobAccepts).processes := by decide +kernel
  have hok := perform_next (by rw [bobsAcceptance_request]; decide +kernel :
    (invitingStore.perform (bobsAcceptance ["viewer"]).request.op (sampleIds 7)).isOk = true)
  have hthere : ∀ n ∈ ["viewer"], invitingStore.tables.assignableRole (some (sampleIds 0 .row))
      (some (sampleIds 1 .application)) n ≠ none := by decide +kernel
  have hkept : ∀ n ∈ ["viewer"], Text.Kept ',' n := by
    intro n hn
    rw [List.mem_singleton.mp hn]
    exact ⟨by decide, by decide +kernel, by decide +kernel⟩
  exact ((grantsInvited_iff hreach hcall (by decide +kernel) (by decide +kernel) hok).2
    hthere).mpr hkept

/-- An invitation as `sales,viewer` makes a `viewer`. -/
theorem invited_name_split :
    invitingStore.Reachable ∧
    (createdInvitation id id (bobsInvitation ["sales,viewer"])).machine.Reachable
      ((createdInvitation id id (bobsInvitation ["sales,viewer"])).run (bobInvited ["sales,viewer"])
        bobAccepts) ∧
    .createMembership (bobsAcceptance ["sales,viewer"]) ∈
      ((createdInvitation id id (bobsInvitation ["sales,viewer"])).run (bobInvited ["sales,viewer"])
        bobAccepts).processes ∧
    Fresh (sampleIds 7) invitingStore.tables (Draw.Within 0) ∧
    invitingStore.tables.assignableRole (some (sampleIds 0 .row))
      (some (sampleIds 1 .application)) "sales,viewer" ≠ none ∧
    ¬GrantsInvited invitingStore (sampleIds 7) (sampleIds 7)
      (bobsAcceptance ["sales,viewer"]).request ["sales,viewer"] ∧
    others (invitingStore.next (bobsAcceptance ["sales,viewer"]).request.op
      (sampleIds 7)).tables.membershipRoles (sampleIds 7 .row) = {sampleIds 1 (.role 0)} := by
  have hruns : (createdInvitation id id (bobsInvitation ["sales,viewer"])).Runs
      (bobInvited ["sales,viewer"]) bobAccepts := by decide +kernel
  have hfresh : Fresh (sampleIds 7) invitingStore.tables (Draw.Within 0) := by decide +kernel
  have hok := perform_next (by rw [bobsAcceptance_request]; decide +kernel : (invitingStore.perform
    (bobsAcceptance ["sales,viewer"]).request.op (sampleIds 7)).isOk = true)
  have hthere : invitingStore.tables.assignableRole (some (sampleIds 0 .row))
      (some (sampleIds 1 .application)) "sales,viewer" ≠ none := by decide +kernel
  refine ⟨invitingStore_reachable, bobAccepts_reachable hruns, by decide +kernel, hfresh, hthere,
    fun hlaw => ?_, ?_⟩
  · have hasked := ((grantsInvited_iff_names _ hfresh hfresh hok).mp hlaw "sales,viewer"
      hthere).mpr (List.mem_singleton_self _)
    rw [bobsAcceptance_request] at hasked
    exact absurd hasked (by decide +kernel)
  · rw [bobsAcceptance_request]
    decide +kernel

end AuthzKit
