import AuthzKit.Service.TenantBinding

/-!
The kill switch, `POST /v1/delegations/revoke` over
`DelegationService.revoke_matching`, and the grants its body names.

* `RevokeIn.Names`: a grant matches every reference the body gives.
* `Runtime.KillsNamed`: exactly those among the active grants of the tenant are
  revoked, or the request is refused and nothing is.
* `Runtime.killsNamed_iff`: when this is so. The body and the handler decide by `None`
  whether a reference is given, `revoke_matching` by its truth value, and so it drops a
  reference that is the empty string.
-/

namespace AuthzKit

open Keyed Delegations

/-! ### References of a body -/

/-- A reference, if one is given, stands for this id. One that matches nobody stands for
none. -/
def StandsFor (reference : Option (Option Id)) (id : Id) : Prop :=
  ∀ r ∈ reference, r = some id

instance (reference : Option (Option Id)) (id : Id) : Decidable (StandsFor reference id) :=
  inferInstanceAs (Decidable (∀ r ∈ reference, r = some id))

/-- A reference as its truth value takes it. -/
def truthy (reference : Option (Option Id)) : Option (Option Id) :=
  reference.filter fun r => r ≠ some ""

lemma standsFor_map_some {given : Option Id} {id : Id} :
    StandsFor (given.map some) id ↔ ∀ i ∈ given, id = i := by
  cases given with
  | none => simp [StandsFor]
  | some i => simp [StandsFor, eq_comm]

lemma truthy_map_some (given : Option Id) :
    truthy (given.map some) = (given.filter fun i => i ≠ "").map some := by
  cases given with
  | none => rfl
  | some i =>
      by_cases hi : i = ""
      · subst hi
        rfl
      · simp [truthy, Option.filter, hi]

/-- Dropping the empty string loses one condition. -/
lemma standsFor_iff_truthy {reference : Option (Option Id)} {id : Id} :
    StandsFor reference id ↔
      StandsFor (truthy reference) id ∧ (reference = some (some "") → id = "") := by
  cases reference with
  | none => simp [StandsFor, truthy]
  | some r =>
      by_cases hr : r = some ""
      · subst hr
        have hdropped : truthy (some (some "")) = none := rfl
        simp [StandsFor, hdropped, eq_comm]
      · simp [StandsFor, truthy, Option.filter, hr]

/-- A reference that matches nobody is not dropped. -/
lemma not_standsFor_truthy_some_none (id : Id) : ¬StandsFor (truthy (some none)) id := by
  intro h
  exact absurd (h none rfl) (by simp)

/-- A reference that matches somebody, or is not given. -/
lemma exists_map_some {reference : Option (Option Id)} (h : reference ≠ some none) :
    ∃ given : Option Id, reference = given.map some := by
  match reference with
  | none => exact ⟨none, rfl⟩
  | some none => exact absurd rfl h
  | some (some id) => exact ⟨some id, rfl⟩

namespace RevokeIn

variable (body : RevokeIn) (t : Tables)

/-- The user of a body, given as `user_id` or `user_ref`. -/
def userReference : Option (Option Id) :=
  match body.userRef with
  | none => body.userId.map some
  | some ref => some ((t.findUserByExternalIdentity ref.toRef).map User.id)

/-- The agent of a body, given as `agent_id` or `agent_name`. -/
def agentReference (tenantId : Id) : Option (Option Id) :=
  match body.agentName with
  | none => body.agentId.map some
  | some name => some ((body.applicationId.bind t.findApplication).bind fun app =>
      (t.findAgentByName tenantId app.id name).map Agent.id)

/-- A grant is one of those the body names in this tenant. -/
def Names (tenantId : Id) (grant : DelegationGrant) : Prop :=
  grant.tenantId = tenantId ∧ grant.status = "active" ∧
    StandsFor (body.userReference t) grant.userId ∧
    StandsFor (body.agentReference t tenantId) grant.agentId

instance (tenantId : Id) : DecidablePred (body.Names t tenantId) := fun _ =>
  inferInstanceAs (Decidable (_ ∧ _ ∧ _ ∧ _))

/-- A grant is one of those the nonempty references of the body name. -/
def NamesTruthy (tenantId : Id) (grant : DelegationGrant) : Prop :=
  grant.tenantId = tenantId ∧ grant.status = "active" ∧
    StandsFor (truthy (body.userReference t)) grant.userId ∧
    StandsFor (truthy (body.agentReference t tenantId)) grant.agentId

instance (tenantId : Id) : DecidablePred (body.NamesTruthy t tenantId) := fun _ =>
  inferInstanceAs (Decidable (_ ∧ _ ∧ _ ∧ _))

variable {body t}

lemma names_iff_namesTruthy {tenantId : Id} {grant : DelegationGrant} :
    body.Names t tenantId grant ↔ body.NamesTruthy t tenantId grant ∧
      (body.userReference t = some (some "") → grant.userId = "") ∧
      (body.agentReference t tenantId = some (some "") → grant.agentId = "") := by
  rw [Names, NamesTruthy, @standsFor_iff_truthy (body.userReference t),
    @standsFor_iff_truthy (body.agentReference t tenantId)]
  tauto

/-- A reference that matches nobody never widens the set. -/
lemma not_namesTruthy {tenantId : Id} {grant : DelegationGrant}
    (h : body.userReference t = some none ∨ body.agentReference t tenantId = some none) :
    ¬body.NamesTruthy t tenantId grant := by
  rintro ⟨-, -, huser, hagent⟩
  rcases h with h | h
  · rw [h] at huser
    exact not_standsFor_truthy_some_none _ huser
  · rw [h] at hagent
    exact not_standsFor_truthy_some_none _ hagent

lemma bodyUserId_eq_ok_iff {userId : Option Id} :
    bodyUserId t body.userId body.userRef = .ok userId ↔
      body.userReference t = userId.map some := by
  rw [userReference]
  cases body.userRef with
  | none =>
      simp only [bodyUserId, Except.ok.injEq]
      exact (Option.map_injective (Option.some_injective _)).eq_iff.symm
  | some ref =>
      rw [bodyUserId]
      cases hfind : t.findUserByExternalIdentity ref.toRef <;> cases userId <;> simp [hfind]

end RevokeIn

/-! ### The rows -/

namespace Tables

/-- The rows under a predicate are newly revoked, every other row is as it was, and the
count is theirs. -/
structure Killed (t : Tables) (now : DateTime) (named : DelegationGrant → Prop)
    [DecidablePred named] (t' : Tables) (count : ℕ) : Prop where
  grants : t'.delegationGrants = t.delegationGrants.map fun g =>
    if named g then { g with status := "revoked", revokedAt := some now } else g
  others : t' = { t with delegationGrants := t'.delegationGrants }
  count : count = t.delegationGrants.countP named

variable {t t' : Tables} {now : DateTime} {named named' : DelegationGrant → Prop}
  [DecidablePred named] [DecidablePred named'] {count : ℕ}

/-- The rows of two such updates agree on the active rows of a table. -/
lemma Killed.iff_of_killed (h : t.Killed now named t' count) (h' : t.Killed now named' t' count)
    {g : DelegationGrant} (hg : g ∈ t.delegationGrants) (hactive : g.status = "active") :
    named g ↔ named' g := by
  have hrow := List.map_inj_left.mp (h.grants.symm.trans h'.grants) g hg
  by_cases hn : named g <;> by_cases hn' : named' g
  · exact iff_of_true hn hn'
  · rw [if_pos hn, if_neg hn'] at hrow
    have hrevoked : "revoked" = g.status := congrArg DelegationGrant.status hrow
    exact absurd (hrevoked.trans hactive) (by decide)
  · rw [if_neg hn, if_pos hn'] at hrow
    have hrevoked : g.status = "revoked" := congrArg DelegationGrant.status hrow
    exact absurd (hactive.symm.trans hrevoked) (by decide)
  · exact iff_of_false hn hn'

lemma Killed.of_iff (h : t.Killed now named t' count)
    (hiff : ∀ g ∈ t.delegationGrants, named g ↔ named' g) : t.Killed now named' t' count where
  grants := h.grants.trans (List.map_congr_left fun g hg => by simp only [hiff g hg])
  others := h.others
  count := h.count.trans (List.countP_congr fun g hg => by simp only [decide_eq_true_eq, hiff g hg])

/-- **What `revoke_matching` does.** -/
lemma revokeMatching_killed {body : RevokeIn} {tenantId : Id} {userId agentId : Option Id}
    (huser : body.userReference t = userId.map some)
    (hagent : body.agentReference t tenantId = agentId.map some)
    (h : t.revokeMatching now tenantId userId agentId = .ok (t', count)) :
    t.Killed now (body.NamesTruthy t tenantId) t' count := by
  have hnames : ∀ g : DelegationGrant, (g.tenantId = tenantId ∧ g.status = "active" ∧
      (∀ u ∈ userId.filter fun i => i ≠ "", g.userId = u) ∧
      ∀ a ∈ agentId.filter fun i => i ≠ "", g.agentId = a) ↔ body.NamesTruthy t tenantId g := by
    intro g
    rw [RevokeIn.NamesTruthy, huser, hagent, truthy_map_some, truthy_map_some,
      standsFor_map_some, standsFor_map_some]
  obtain ⟨rfl, rfl⟩ := Prod.mk.inj (Except.ok.inj h)
  refine ⟨List.map_congr_left fun g _ => ?_, rfl, ?_⟩
  · simp only [decide_eq_true_eq, hnames]
  · rw [List.countP_eq_length_filter]
    simp only [hnames]

end Tables

namespace SqlAlchemyStore

/-- A kill switch writes no key column, and so it always commits. -/
lemma revokeMatching_commits (s : SqlAlchemyStore) (now : DateTime) (tenantId : Id)
    (userId agentId : Option Id) :
    ∃ r, s.transaction (fun t => t.revokeMatching now tenantId userId agentId) = .ok r := by
  refine transaction_isOk_iff.mpr ⟨_, _, rfl, { s.constraints with grantId := ?_ }, fun hforeign =>
    { s.foreignKeys hforeign with grants := fun g hg => ?_ }⟩
  · rw [List.map_map]
    refine (congrArg List.Nodup (List.map_congr_left fun g _ => ?_)).mp s.constraints.grantId
    dsimp only [Function.comp]
    split_ifs <;> rfl
  · obtain ⟨g', hg', rfl⟩ := List.mem_map.mp hg
    have hkeys := (s.foreignKeys hforeign).grants g' hg'
    split_ifs
    · exact hkeys
    · exact hkeys

end SqlAlchemyStore

/-! ### The route -/

namespace Runtime

variable (service : Runtime) (principal : Principal) (body : RevokeIn)

/-- **The kill switch revokes exactly what its body names**: among the active grants of
the tenant those that match every reference given, and their number is the answer. A
request that is refused revokes nothing, and it is refused only to a caller without
access to the tenant or for a reference that matches nobody. -/
def KillsNamed (uuid4 : UuidSource) : Prop :=
  match service.handle principal (.revokeDelegations body) uuid4 with
  | (s, .ok answer) =>
      ∃ tenant count, requireBoundTenant service.store.tables body.tenantId principal = .ok tenant ∧
        answer = .revoked count ∧ s.engine = service.store.engine ∧
        service.store.tables.Killed service.now (body.Names service.store.tables tenant.id)
          s.tables count
  | (s, .error _) =>
      s = service.store ∧ (requireRuntime principal = .ok () → ∀ tenant,
        requireBoundTenant service.store.tables body.tenantId principal = .ok tenant →
          body.userReference service.store.tables = some none ∨
            body.agentReference service.store.tables tenant.id = some none)

variable {service principal body}

lemma revokeRequest_eq_ok_iff {tenantId : Id} {userId agentId : Option Id} :
    service.revokeRequest principal body = .ok (tenantId, userId, agentId) ↔
      ∃ tenant, requireBoundTenant service.store.tables body.tenantId principal = .ok tenant ∧
        tenant.id = tenantId ∧ body.userReference service.store.tables = userId.map some ∧
        body.agentReference service.store.tables tenant.id = agentId.map some := by
  simp only [revokeRequest, bind, Except.bind]
  cases htenant : requireBoundTenant service.store.tables body.tenantId principal with
  | error _ => simp
  | ok tenant =>
      have huser (u : Option Id) := @RevokeIn.bodyUserId_eq_ok_iff body service.store.tables u
      cases hbody : bodyUserId service.store.tables body.userId body.userRef with
      | error _ =>
        simp only [hbody, reduceCtorEq, false_iff] at huser
        simp [huser]
      | ok u =>
        simp only [hbody, Except.ok.injEq] at huser
        simp only [RevokeIn.agentReference]
        cases hname : body.agentName with
        | none =>
            simp only [pure, Except.pure, Except.ok.injEq, Prod.mk.injEq, exists_eq_left', huser,
              (Option.map_injective (Option.some_injective Id)).eq_iff]
        | some name =>
            obtain ⟨ref, href⟩ := Option.isSome_iff_exists.mp
              (body.application (by rw [hname]; rfl))
            simp only [href, Option.bind_some, requireApplication, requireAgentId]
            cases happ : service.store.tables.findApplication ref with
            | none => cases agentId <;> simp
            | some app =>
                dsimp only
                cases hagent : service.store.tables.findAgentByName tenant.id app.id name <;>
                  cases agentId <;> simp [huser, hagent, pure, Except.pure]

/-- A request is refused over a reference that matches nobody. -/
lemma unmatched_of_revokeRequest {e : HttpException}
    (h : service.revokeRequest principal body = .error e) {tenant : Tenant}
    (htenant : requireBoundTenant service.store.tables body.tenantId principal = .ok tenant) :
    body.userReference service.store.tables = some none ∨
      body.agentReference service.store.tables tenant.id = some none := by
  by_contra hmatched
  push Not at hmatched
  obtain ⟨userId, huser⟩ := exists_map_some hmatched.1
  obtain ⟨agentId, hagent⟩ := exists_map_some hmatched.2
  have hok := revokeRequest_eq_ok_iff.mpr ⟨tenant, htenant, rfl, huser, hagent⟩
  exact absurd (h.symm.trans hok) (by simp)

lemma handle_revokeDelegations (hruntime : requireRuntime principal = .ok ()) (uuid4 : UuidSource) :
    service.handle principal (.revokeDelegations body) uuid4 =
      service.revokeDelegations principal body := by
  simp only [handle, hruntime]

/-- **When the kill switch revokes exactly what its body names**: unless a reference is
the empty string and an active grant of the tenant that the other one names, if it is
given, is of some other user or agent. -/
theorem killsNamed_iff (service : Runtime) (principal : Principal) (body : RevokeIn)
    (uuid4 : UuidSource) :
    service.KillsNamed principal body uuid4 ↔ (requireRuntime principal = .ok () → ∀ tenant,
      requireBoundTenant service.store.tables body.tenantId principal = .ok tenant →
        ∀ g ∈ service.store.tables.delegationGrants,
          body.NamesTruthy service.store.tables tenant.id g →
            (body.userReference service.store.tables = some (some "") → g.userId = "") ∧
            (body.agentReference service.store.tables tenant.id = some (some "") →
              g.agentId = "")) := by
  by_cases hruntime : requireRuntime principal = .ok ()
  · rw [KillsNamed, handle_revokeDelegations hruntime, revokeDelegations]
    cases hrequest : service.revokeRequest principal body with
    | error e =>
        refine iff_of_true ⟨rfl, fun _ tenant htenant => ?_⟩ fun _ tenant htenant g _ hnames => ?_
        · exact unmatched_of_revokeRequest hrequest htenant
        · exact absurd hnames
            (RevokeIn.not_namesTruthy (unmatched_of_revokeRequest hrequest htenant))
    | ok request =>
        obtain ⟨tenantId, userId, agentId⟩ := request
        obtain ⟨tenant, htenant, rfl, huser, hagent⟩ := revokeRequest_eq_ok_iff.mp hrequest
        obtain ⟨⟨s, count⟩, hcall⟩ :=
          service.store.revokeMatching_commits service.now tenant.id userId agentId
        obtain ⟨hengine, hrows⟩ := SqlAlchemyStore.transaction_eq_ok_iff.mp hcall
        have hkilled := Tables.revokeMatching_killed huser hagent hrows
        simp only [hcall]
        constructor
        · rintro ⟨tenant', count', htenant', hcount, -, hnamed⟩ - tenant'' htenant'' g hg hnames
          obtain rfl : tenant = tenant' := Except.ok.inj (htenant.symm.trans htenant')
          obtain rfl : tenant = tenant'' := Except.ok.inj (htenant.symm.trans htenant'')
          obtain rfl : count = count' := RuntimeAnswer.revoked.inj hcount
          have hnamed' := (hkilled.iff_of_killed hnamed hg hnames.2.1).mp hnames
          exact (RevokeIn.names_iff_namesTruthy.mp hnamed').2
        · intro hempty
          refine ⟨tenant, count, htenant, rfl, hengine, hkilled.of_iff fun g hg => ?_⟩
          rw [RevokeIn.names_iff_namesTruthy]
          exact ⟨fun h => ⟨h, hempty hruntime tenant htenant g hg h⟩, fun h => h.1⟩
  · have hrefused : ∃ e, requireRuntime principal = .error e := by
      cases h : requireRuntime principal with
      | error e => exact ⟨e, rfl⟩
      | ok _ => exact absurd h hruntime
    obtain ⟨e, he⟩ := hrefused
    refine iff_of_true ?_ fun h => absurd h hruntime
    simp only [KillsNamed, handle, he, true_and]
    exact fun h => by cases h

lemma one_form_none : (none : Option Id) = none ∨ (none : Option String) = none := Or.inl rfl

/-- A body that gives its user as the empty string. -/
def emptyUser : RevokeIn :=
  ⟨"acme", none, some "", none, none, none, Or.inr rfl, one_form_none, (by decide)⟩

/-- It names no grant, and one of another user is revoked. -/
theorem emptyUser_kills :
    acmeRuntime.store.tables.delegationGrants.countP
        (emptyUser.Names acmeRuntime.store.tables (SqlAlchemyStore.sampleIds 0 .row)) = 0 ∧
      (acmeRuntime.handle acmeTenantKey (.revokeDelegations emptyUser)
        (SqlAlchemyStore.sampleIds 9)).2 = .ok (.revoked 1) ∧
      ¬acmeRuntime.KillsNamed acmeTenantKey emptyUser (SqlAlchemyStore.sampleIds 9) := by
  have hnames : acmeRuntime.store.tables.delegationGrants.countP
      (emptyUser.Names acmeRuntime.store.tables (SqlAlchemyStore.sampleIds 0 .row)) = 0 := by
    decide +kernel
  have hanswer : (acmeRuntime.handle acmeTenantKey (.revokeDelegations emptyUser)
      (SqlAlchemyStore.sampleIds 9)).2 = .ok (.revoked 1) := by
    decide +kernel
  have hbound : (requireBoundTenant acmeRuntime.store.tables emptyUser.tenantId acmeTenantKey).map
      Tenant.id = .ok (SqlAlchemyStore.sampleIds 0 .row) := by
    decide +kernel
  refine ⟨hnames, hanswer, fun h => ?_⟩
  rw [KillsNamed] at h
  split at h
  · rename_i s answer hhandle
    obtain ⟨tenant, count, htenant, hcount, -, hkilled⟩ := h
    rw [htenant] at hbound
    have hid : tenant.id = SqlAlchemyStore.sampleIds 0 .row := Except.ok.inj hbound
    rw [hhandle, hcount] at hanswer
    have hone : count = 1 := RuntimeAnswer.revoked.inj (Except.ok.inj hanswer)
    have hzero := hkilled.count
    rw [hid, hnames] at hzero
    omega
  · rename_i hhandle
    rw [hhandle] at hanswer
    cases hanswer

end Runtime

end AuthzKit
