import AuthzKit.Storage.Evolution

/-!
What the step over the members of `apply_tenant_state` does.

* `MembersInput`: what the step starts from.
* `MemberPlanned`: what one iteration decides; different entries decide about
  different users and different memberships.
* `applyMembers_evolves`, `applyMembers_constraints`, `applyMembers_foreignKeys`:
  the tables after it.
* `mem_applyMembers_memberships`, `mem_applyMembers_links`: its memberships and their
  links, exactly.
-/

namespace AuthzKit

open Keyed Links

/-- The draws of a loop over `n` members. -/
def Draw.OfMember (n : ℕ) (d : Draw) : Prop :=
  ∃ i < n, d = .user i ∨ d = .identity i ∨ d = .membership i

namespace Tables

/-- What the step over the members starts from: `roleRows` are named roles of the
pair. -/
structure MembersInput (t : Tables) (uuid4 : UuidSource) (tenantId applicationId : Id)
    (members : List DesiredMember) (roleRows : List Role) : Prop where
  constraints : t.Constraints
  wellFormed : t.WellFormed
  ids : NewIds uuid4 t (Draw.OfMember members.length)
  refs : (members.map DesiredMember.userRef).Nodup
  roles : ∀ r ∈ roleRows, r ∈ t.roles ∧ r.applicationId = some applicationId ∧
    RoleIn tenantId r ∧ r.agentId = none

/-! ### The rows of a pair -/

section Pair

variable {t : Tables} {tenantId applicationId : Id}

lemma pairMemberships_eq (hc : t.Constraints) :
    t.pairMemberships tenantId applicationId = t.memberships.filter fun m =>
      m.tenantId = tenantId ∧ m.applicationId = some applicationId := by
  refine ofList_eq_self ((hc.membershipKey.filter _).nodup_map fun a ha b hb hab => ?_)
  simp only [List.mem_filter, decide_eq_true_eq] at ha hb
  exact ⟨(tenantId, applicationId, a.userId), by simp [Membership.uniqueKey, ha],
    by simp [Membership.uniqueKey, hb, hab]⟩

lemma mem_pairMemberships (hc : t.Constraints) {m : Membership} :
    m ∈ t.pairMemberships tenantId applicationId ↔
      m ∈ t.memberships ∧ m.tenantId = tenantId ∧ m.applicationId = some applicationId := by
  rw [pairMemberships_eq hc]
  simp

end Pair

/-! ### What the step writes -/

section Writes

variable (t : Tables) (uuid4 : UuidSource) (tenantId applicationId : Id)
  (members : List DesiredMember) (roleRows : List Role)

/-- The membership rows written back: those of listed users, and the others that
are disabled. -/
def memberWrites : List Membership :=
  let plans := t.memberPlans uuid4 tenantId applicationId members roleRows
  (plans.filter fun p => !p.created).map MemberPlan.membership ++
    (t.unlistedMembers tenantId applicationId plans).map fun m =>
      { m with status := statusDisabled }

/-- The new membership rows. -/
def memberCreates : List Membership :=
  ((t.memberPlans uuid4 tenantId applicationId members roleRows).filter fun p => p.created).map
    MemberPlan.membership

/-- The new users and identities. -/
def memberNews : List (User × ExternalIdentity) :=
  (t.memberPlans uuid4 tenantId applicationId members roleRows).filterMap MemberPlan.identity

/-- The changes of the links. -/
def memberChanges : List (Change Id Id) :=
  (t.memberPlans uuid4 tenantId applicationId members roleRows).map fun p =>
    ⟨p.membership.id, p.roleIds, p.current⟩

lemma applyMembers_tables :
    (t.applyMembers uuid4 tenantId applicationId members roleRows).1 =
      { t with
        users := t.users ++
          (t.memberNews uuid4 tenantId applicationId members roleRows).map Prod.fst
        externalIdentities := t.externalIdentities ++
          (t.memberNews uuid4 tenantId applicationId members roleRows).map Prod.snd
        memberships := updateAll Membership.id t.memberships
            (t.memberWrites uuid4 tenantId applicationId members roleRows) ++
          t.memberCreates uuid4 tenantId applicationId members roleRows
        membershipRoles := replaceAll t.membershipRoles
          (t.memberChanges uuid4 tenantId applicationId members roleRows) } := by
  rw [applyMembers, memberNews, List.map_filterMap, List.map_filterMap]
  rfl

end Writes

/-! ### The users of the references -/

/-- The user of an entry: the one its reference denotes, or a new one. -/
def memberUser (t : Tables) (uuid4 : UuidSource) (entry : DesiredMember × ℕ) : Id :=
  match lookup ExternalIdentity.ref t.externalIdentities entry.1.userRef with
  | some ident => ident.userId
  | none => uuid4 (.user entry.2)

/-- The identity and user an entry brings in. -/
def memberNew (t : Tables) (uuid4 : UuidSource) (entry : DesiredMember × ℕ) :
    Option (User × ExternalIdentity) :=
  match lookup ExternalIdentity.ref t.externalIdentities entry.1.userRef with
  | some _ => none
  | none => some (newIdentity (uuid4 (.user entry.2)) (uuid4 (.identity entry.2)) entry.1.userRef
      entry.1.email none entry.1.displayName)

/-- The plan of one entry. -/
def memberPlan (t : Tables) (uuid4 : UuidSource) (tenantId applicationId : Id)
    (members : List DesiredMember) (roleRows : List Role) (entry : DesiredMember × ℕ) :
    MemberPlan :=
  planMember uuid4 tenantId applicationId
    (ofList ExternalIdentity.ref
      (t.externalIdentities.filter fun i => i.ref ∈ members.map DesiredMember.userRef))
    (t.pairMemberships tenantId applicationId) t.membershipRoles roleRows entry.1 entry.2

lemma mem_memberPlans {t : Tables} {uuid4 : UuidSource} {tenantId applicationId : Id}
    {members : List DesiredMember} {roleRows : List Role} {p : MemberPlan} :
    p ∈ t.memberPlans uuid4 tenantId applicationId members roleRows ↔
      ∃ e ∈ members.zipIdx, t.memberPlan uuid4 tenantId applicationId members roleRows e = p :=
  List.mem_map

/-- What one iteration decides about its entry. -/
structure MemberPlanned (t : Tables) (uuid4 : UuidSource) (tenantId applicationId : Id)
    (roleRows : List Role) (entry : DesiredMember × ℕ) (p : MemberPlan) : Prop where
  identity : p.identity = t.memberNew uuid4 entry
  user : p.membership.userId = t.memberUser uuid4 entry
  tenant : p.membership.tenantId = tenantId
  application : p.membership.applicationId = some applicationId
  status : p.membership.status = entry.1.status
  roleIds : p.roleIds = roleIds (entry.1.roles.filterMap (lookup Role.name roleRows))
  row : (p.created = false ∧ ∃ m ∈ t.memberships, m.ident = p.membership.ident ∧
      p.current = others t.membershipRoles m.id ∧
      p.changed = decide (p.current ≠ p.roleIds ∨ m.status ≠ p.membership.status)) ∨
    (p.created = true ∧ p.membership.id = uuid4 (.membership entry.2) ∧ p.current = ∅ ∧
      ∀ m ∈ t.memberships, m.tenantId = tenantId → m.applicationId = some applicationId →
        m.userId ≠ p.membership.userId)

namespace MembersInput

variable {t : Tables} {uuid4 : UuidSource} {tenantId applicationId : Id}
  {members : List DesiredMember} {roleRows : List Role} {entry entry' : DesiredMember × ℕ}

lemma ofMember (hentry : entry ∈ members.zipIdx) {d : Draw}
    (hd : d = .user entry.2 ∨ d = .identity entry.2 ∨ d = .membership entry.2) :
    Draw.OfMember members.length d :=
  ⟨entry.2, by simpa using List.snd_lt_of_mem_zipIdx hentry, hd⟩

/-- The position of an entry is its own. -/
lemma entry_eq (hentry : entry ∈ members.zipIdx) (hentry' : entry' ∈ members.zipIdx)
    (h : entry.2 = entry'.2) : entry = entry' := by
  rw [List.mem_zipIdx_iff_getElem?] at hentry hentry'
  rw [h, hentry'] at hentry
  exact Prod.ext (Option.some.inj hentry).symm h

/-- Different entries are about different users. -/
lemma memberUser_injOn (h : MembersInput t uuid4 tenantId applicationId members roleRows)
    (hentry : entry ∈ members.zipIdx) (hentry' : entry' ∈ members.zipIdx)
    (heq : t.memberUser uuid4 entry = t.memberUser uuid4 entry') :
    entry.1.userRef = entry'.1.userRef := by
  have hnew : ∀ e ∈ members.zipIdx, ∀ i ∈ t.externalIdentities, i.userId ≠ uuid4 (.user e.2) := by
    intro e he i hi hid
    refine h.ids.new _ (ofMember he (Or.inl rfl)) (id_mem_rowIds (Or.inr (Or.inl ?_)))
    exact hid ▸ h.wellFormed.identityUsers i hi
  rw [memberUser, memberUser] at heq
  cases hl : lookup ExternalIdentity.ref t.externalIdentities entry.1.userRef with
  | some i =>
      rw [hl] at heq
      cases hl' : lookup ExternalIdentity.ref t.externalIdentities entry'.1.userRef with
      | some j =>
          rw [hl'] at heq
          have hij := List.inj_on_of_nodup_map h.wellFormed.identityUnique (mem_of_lookup hl)
            (mem_of_lookup hl') heq
          rw [← key_of_lookup hl, ← key_of_lookup hl', hij]
      | none =>
          rw [hl'] at heq
          exact absurd heq (hnew entry' hentry' i (mem_of_lookup hl))
  | none =>
      rw [hl] at heq
      cases hl' : lookup ExternalIdentity.ref t.externalIdentities entry'.1.userRef with
      | some j =>
          rw [hl'] at heq
          exact absurd heq.symm (hnew entry hentry j (mem_of_lookup hl'))
      | none =>
          rw [hl'] at heq
          have hd := h.ids.injOn _ _ (ofMember hentry (Or.inl rfl)) (ofMember hentry' (Or.inl rfl))
            heq
          rw [entry_eq hentry hentry' (Draw.user.inj hd)]

/-! ### The plans -/

lemma memberIdentity_eq (h : MembersInput t uuid4 tenantId applicationId members roleRows)
    (hentry : entry ∈ members.zipIdx) :
    memberIdentity uuid4 (ofList ExternalIdentity.ref
        (t.externalIdentities.filter fun i => i.ref ∈ members.map DesiredMember.userRef))
      entry.1 entry.2 = (t.memberUser uuid4 entry, t.memberNew uuid4 entry) := by
  have hmem : entry.1 ∈ members := List.mem_of_getElem? (List.mem_zipIdx_iff_getElem?.mp hentry)
  rw [memberIdentity, memberUser, memberNew,
    ofList_eq_self (h.constraints.identityRef.sublist (List.filter_sublist.map _)),
    lookup_filter fun i _ hi => by simpa [hi] using ⟨entry.1, hmem, rfl⟩]
  cases lookup ExternalIdentity.ref t.externalIdentities entry.1.userRef with
  | some ident => rfl
  | none => rfl

lemma memberPlanned (h : MembersInput t uuid4 tenantId applicationId members roleRows)
    (hentry : entry ∈ members.zipIdx) :
    MemberPlanned t uuid4 tenantId applicationId roleRows entry
      (t.memberPlan uuid4 tenantId applicationId members roleRows entry) := by
  rw [memberPlan, planMember, h.memberIdentity_eq hentry]
  simp only
  cases hl : lookup Membership.userId (t.pairMemberships tenantId applicationId)
      (t.memberUser uuid4 entry) with
  | some m =>
      obtain ⟨hm, htenant, happ⟩ := (mem_pairMemberships h.constraints).mp (mem_of_lookup hl)
      have huser : m.userId = t.memberUser uuid4 entry := key_of_lookup hl
      exact ⟨rfl, huser, htenant, happ, rfl, rfl, Or.inl ⟨rfl, m, hm, rfl, rfl, rfl⟩⟩
  | none =>
      refine ⟨rfl, rfl, rfl, rfl, rfl, rfl, Or.inr ⟨rfl, rfl, rfl, fun m hm ht ha => ?_⟩⟩
      exact lookup_eq_none_iff.mp hl m ((mem_pairMemberships h.constraints).mpr ⟨hm, ht, ha⟩)

/-- Different entries decide about different memberships. -/
lemma memberPlan_id_injOn (h : MembersInput t uuid4 tenantId applicationId members roleRows)
    (hentry : entry ∈ members.zipIdx) (hentry' : entry' ∈ members.zipIdx)
    (heq : (t.memberPlan uuid4 tenantId applicationId members roleRows entry).membership.id =
      (t.memberPlan uuid4 tenantId applicationId members roleRows entry').membership.id) :
    entry.1.userRef = entry'.1.userRef := by
  have hp := h.memberPlanned hentry
  have hp' := h.memberPlanned hentry'
  have hnew : ∀ e ∈ members.zipIdx, ∀ m ∈ t.memberships, m.id ≠ uuid4 (.membership e.2) :=
    fun e he m hm hid => h.ids.new _ (ofMember he (Or.inr (Or.inr rfl))) (id_mem_rowIds
      (Or.inr (Or.inr (Or.inr (Or.inl (hid ▸ List.mem_map_of_mem hm))))))
  rcases hp.row with ⟨-, m, hm, hident, -⟩ | ⟨-, hid, -⟩
  · rcases hp'.row with ⟨-, m', hm', hident', -⟩ | ⟨-, hid', -⟩
    · simp only [Membership.ident, Prod.mk.injEq] at hident hident'
      have hmm := List.inj_on_of_nodup_map h.constraints.membershipId hm hm'
        (hident.1.trans (heq.trans hident'.1.symm))
      refine h.memberUser_injOn hentry hentry' ?_
      rw [← hp.user, ← hp'.user, ← hident.2.2.2, ← hident'.2.2.2, hmm]
    · simp only [Membership.ident, Prod.mk.injEq] at hident
      exact absurd (hident.1.trans (heq.trans hid')) (hnew entry' hentry' m hm)
  · rcases hp'.row with ⟨-, m', hm', hident', -⟩ | ⟨-, hid', -⟩
    · simp only [Membership.ident, Prod.mk.injEq] at hident'
      exact absurd (hident'.1.trans (heq.symm.trans hid)) (hnew entry hentry m' hm')
    · have hd := h.ids.injOn _ _ (ofMember hentry (Or.inr (Or.inr rfl)))
        (ofMember hentry' (Or.inr (Or.inr rfl))) (hid.symm.trans (heq.trans hid'))
      rw [entry_eq hentry hentry' (Draw.membership.inj hd)]

/-- A row of the pair with the user of an entry is the row of its plan. -/
lemma ident_of_user (h : MembersInput t uuid4 tenantId applicationId members roleRows)
    (hentry : entry ∈ members.zipIdx) {m : Membership} (hm : m ∈ t.memberships)
    (ht : m.tenantId = tenantId) (ha : m.applicationId = some applicationId)
    (hu : m.userId = t.memberUser uuid4 entry) :
    (t.memberPlan uuid4 tenantId applicationId members roleRows entry).created = false ∧
      m.ident =
        (t.memberPlan uuid4 tenantId applicationId members roleRows entry).membership.ident := by
  have hp := h.memberPlanned hentry
  rcases hp.row with ⟨hcreated, m', hm', hident, -⟩ | ⟨-, -, -, hnone⟩
  · refine ⟨hcreated, ?_⟩
    rw [← hident]
    simp only [Membership.ident, Prod.mk.injEq] at hident
    have hkey : m.uniqueKey = some (tenantId, applicationId, m.userId) := by
      simp [Membership.uniqueKey, ht, ha]
    have hkey' : m'.uniqueKey = some (tenantId, applicationId, m.userId) := by
      simp [Membership.uniqueKey, hident, hp.tenant, hp.application, hp.user, hu]
    rw [h.constraints.membershipKey.eq_of_key hm hm' hkey hkey']
  · exact absurd (hu.trans hp.user.symm) (hnone m hm ht ha)

/-! ### The rows written -/

lemma mem_memberCreates {x : Membership} :
    x ∈ t.memberCreates uuid4 tenantId applicationId members roleRows ↔
      ∃ e ∈ members.zipIdx,
        (t.memberPlan uuid4 tenantId applicationId members roleRows e).created = true ∧
          x = (t.memberPlan uuid4 tenantId applicationId members roleRows e).membership := by
  constructor
  · intro hx
    obtain ⟨p, hp, rfl⟩ := List.mem_map.mp hx
    obtain ⟨hp, hcreated⟩ := List.mem_filter.mp hp
    obtain ⟨e, he, rfl⟩ := mem_memberPlans.mp hp
    exact ⟨e, he, hcreated, rfl⟩
  · rintro ⟨e, he, hcreated, rfl⟩
    exact List.mem_map_of_mem (List.mem_filter.mpr ⟨mem_memberPlans.mpr ⟨e, he, rfl⟩, hcreated⟩)

/-- The memberships of the pair that the entries leave out. -/
def Unlisted (t : Tables) (uuid4 : UuidSource) (tenantId applicationId : Id)
    (members : List DesiredMember) (m : Membership) : Prop :=
  m ∈ t.memberships ∧ m.tenantId = tenantId ∧ m.applicationId = some applicationId ∧
    m.userId ∉ members.zipIdx.map (t.memberUser uuid4)

lemma plans_userId (h : MembersInput t uuid4 tenantId applicationId members roleRows) :
    (t.memberPlans uuid4 tenantId applicationId members roleRows).map (fun p => p.membership.userId)
      = members.zipIdx.map (t.memberUser uuid4) := by
  rw [memberPlans, List.map_map]
  exact List.map_congr_left fun e he => (h.memberPlanned he).user

lemma mem_unlistedMembers (h : MembersInput t uuid4 tenantId applicationId members roleRows)
    {m : Membership} :
    m ∈ t.unlistedMembers tenantId applicationId
        (t.memberPlans uuid4 tenantId applicationId members roleRows) ↔
      Unlisted t uuid4 tenantId applicationId members m ∧ m.status ≠ statusDisabled := by
  rw [unlistedMembers, List.mem_filter, mem_pairMemberships h.constraints, decide_eq_true_eq,
    h.plans_userId, Unlisted]
  tauto

lemma mem_memberWrites (h : MembersInput t uuid4 tenantId applicationId members roleRows)
    {x : Membership} :
    x ∈ t.memberWrites uuid4 tenantId applicationId members roleRows ↔
      (∃ e ∈ members.zipIdx,
        (t.memberPlan uuid4 tenantId applicationId members roleRows e).created = false ∧
          x = (t.memberPlan uuid4 tenantId applicationId members roleRows e).membership) ∨
      ∃ m, Unlisted t uuid4 tenantId applicationId members m ∧ m.status ≠ statusDisabled ∧
        x = { m with status := statusDisabled } := by
  rw [memberWrites, List.mem_append]
  refine or_congr ⟨fun hx => ?_, ?_⟩ ⟨fun hx => ?_, ?_⟩
  · obtain ⟨p, hp, rfl⟩ := List.mem_map.mp hx
    obtain ⟨hp, hcreated⟩ := List.mem_filter.mp hp
    obtain ⟨e, he, rfl⟩ := mem_memberPlans.mp hp
    exact ⟨e, he, by simpa using hcreated, rfl⟩
  · rintro ⟨e, he, hcreated, rfl⟩
    exact List.mem_map_of_mem
      (List.mem_filter.mpr ⟨mem_memberPlans.mpr ⟨e, he, rfl⟩, by simp [hcreated]⟩)
  · obtain ⟨m, hm, rfl⟩ := List.mem_map.mp hx
    exact ⟨m, (h.mem_unlistedMembers.mp hm).1, (h.mem_unlistedMembers.mp hm).2, rfl⟩
  · rintro ⟨m, hm, hstatus, rfl⟩
    exact List.mem_map_of_mem (f := fun m : Membership => { m with status := statusDisabled })
      (h.mem_unlistedMembers.mpr ⟨hm, hstatus⟩)

/-- The rows written back are rows of the pair that are there. -/
lemma of_mem_memberWrites (h : MembersInput t uuid4 tenantId applicationId members roleRows)
    {x : Membership} (hx : x ∈ t.memberWrites uuid4 tenantId applicationId members roleRows) :
    x.ident ∈ t.memberships.map Membership.ident ∧ x.tenantId = tenantId ∧
      x.applicationId = some applicationId := by
  rcases h.mem_memberWrites.mp hx with ⟨e, he, hcreated, rfl⟩ | ⟨m, ⟨hm, ht, ha, -⟩, -, rfl⟩
  · have hp := h.memberPlanned he
    rcases hp.row with ⟨-, m, hm, hident, -⟩ | ⟨htrue, -⟩
    · exact ⟨hident ▸ List.mem_map_of_mem hm, hp.tenant, hp.application⟩
    · rw [hcreated] at htrue
      cases htrue
  · exact ⟨List.mem_map.mpr ⟨m, hm, rfl⟩, ht, ha⟩

/-- No row is written twice. -/
lemma nodup_memberWrites (h : MembersInput t uuid4 tenantId applicationId members roleRows) :
    ((t.memberWrites uuid4 tenantId applicationId members roleRows).map Membership.id).Nodup := by
  have hplans : ((t.memberPlans uuid4 tenantId applicationId members roleRows).map
      fun p => p.membership.id).Nodup := by
    rw [memberPlans, List.map_map]
    exact nodup_map_zipIdx h.refs fun e he e' he' => h.memberPlan_id_injOn he he'
  have hpair : ((t.pairMemberships tenantId applicationId).map Membership.id).Nodup := by
    rw [pairMemberships_eq h.constraints]
    exact h.constraints.membershipId.sublist (List.filter_sublist.map _)
  rw [memberWrites, List.map_append, List.map_map, List.map_map]
  refine List.Nodup.append (hplans.sublist (List.filter_sublist.map _))
    (hpair.sublist (List.filter_sublist.map _)) ?_
  intro i hi hi'
  obtain ⟨p, hp, rfl⟩ := List.mem_map.mp hi
  obtain ⟨hp, hcreated⟩ := List.mem_filter.mp hp
  obtain ⟨e, he, rfl⟩ := mem_memberPlans.mp hp
  obtain ⟨m, hm, hmid⟩ := List.mem_map.mp hi'
  obtain ⟨⟨hm, -, -, hunlisted⟩, -⟩ := h.mem_unlistedMembers.mp hm
  have hplan := h.memberPlanned he
  rcases hplan.row with ⟨-, m', hm', hident, -⟩ | ⟨htrue, -⟩
  · simp only [Membership.ident, Prod.mk.injEq] at hident
    have hmm := List.inj_on_of_nodup_map h.constraints.membershipId hm' hm
      (hident.1.trans hmid.symm)
    exact hunlisted (List.mem_map.mpr ⟨e, he, by rw [← hplan.user, ← hident.2.2.2, hmm]⟩)
  · have hc : (t.memberPlan uuid4 tenantId applicationId members roleRows e).created = false := by
      simpa using hcreated
    rw [hc] at htrue
    cases htrue

/-! ### The memberships -/

/-- **The memberships after the step**: those of the listed users, with the listed
status; the others of the pair, disabled; and those of other pairs. -/
theorem mem_applyMembers_memberships
    (h : MembersInput t uuid4 tenantId applicationId members roleRows) {x : Membership} :
    x ∈ (t.applyMembers uuid4 tenantId applicationId members roleRows).1.memberships ↔
      (∃ e ∈ members.zipIdx,
        x = (t.memberPlan uuid4 tenantId applicationId members roleRows e).membership) ∨
      (∃ m, Unlisted t uuid4 tenantId applicationId members m ∧
        x = { m with status := statusDisabled }) ∨
      (x ∈ t.memberships ∧ ¬(x.tenantId = tenantId ∧ x.applicationId = some applicationId)) := by
  have hwrites : (t.memberWrites uuid4 tenantId applicationId members roleRows).map Membership.id ⊆
      t.memberships.map Membership.id := by
    intro i hi
    obtain ⟨x, hx, rfl⟩ := List.mem_map.mp hi
    obtain ⟨m, hm, hident⟩ := List.mem_map.mp (h.of_mem_memberWrites hx).1
    exact List.mem_map.mpr ⟨m, hm, (Prod.mk.inj hident).1⟩
  -- a row with the id of a written one is the row it replaces
  have hreplaced : ∀ y ∈ t.memberWrites uuid4 tenantId applicationId members roleRows,
      ∀ m ∈ t.memberships, m.id = y.id → m.ident = y.ident := by
    intro y hy m hm hid
    obtain ⟨m', hm', hident⟩ := List.mem_map.mp (h.of_mem_memberWrites hy).1
    rw [← hident, List.inj_on_of_nodup_map h.constraints.membershipId hm hm'
      (hid.trans (Prod.mk.inj hident).1.symm)]
  rw [applyMembers_tables, List.mem_append,
    mem_updateAll_of_keys h.nodup_memberWrites hwrites, h.mem_memberWrites, mem_memberCreates]
  constructor
  · rintro (((⟨e, he, -, rfl⟩ | ⟨m, hm, -, rfl⟩) | ⟨hx, hid⟩) | ⟨e, he, -, rfl⟩)
    · exact Or.inl ⟨e, he, rfl⟩
    · exact Or.inr (Or.inl ⟨m, hm, rfl⟩)
    · by_cases hpair : x.tenantId = tenantId ∧ x.applicationId = some applicationId
      · by_cases hlisted : x.userId ∈ members.zipIdx.map (t.memberUser uuid4)
        · obtain ⟨e, he, hu⟩ := List.mem_map.mp hlisted
          obtain ⟨hcreated, hident⟩ := h.ident_of_user he hx hpair.1 hpair.2 hu.symm
          refine absurd (List.mem_map.mpr ⟨_, h.mem_memberWrites.mpr
            (Or.inl ⟨e, he, hcreated, rfl⟩), ?_⟩) hid
          exact (Prod.mk.inj hident).1.symm
        · have hun : Unlisted t uuid4 tenantId applicationId members x :=
            ⟨hx, hpair.1, hpair.2, hlisted⟩
          by_cases hstatus : x.status = statusDisabled
          · exact Or.inr (Or.inl ⟨x, hun, by rw [← hstatus]⟩)
          · exact absurd (List.mem_map.mpr ⟨{ x with status := statusDisabled },
              h.mem_memberWrites.mpr (Or.inr ⟨x, hun, hstatus, rfl⟩), rfl⟩) hid
      · exact Or.inr (Or.inr ⟨hx, hpair⟩)
    · exact Or.inl ⟨e, he, rfl⟩
  · rintro (⟨e, he, rfl⟩ | ⟨m, hm, rfl⟩ | ⟨hx, hpair⟩)
    · cases hcreated : (t.memberPlan uuid4 tenantId applicationId members roleRows e).created with
      | true => exact Or.inr ⟨e, he, hcreated, rfl⟩
      | false => exact Or.inl (Or.inl (Or.inl ⟨e, he, hcreated, rfl⟩))
    · by_cases hstatus : m.status = statusDisabled
      · have hself : { m with status := statusDisabled } = m := by rw [← hstatus]
        rw [hself]
        refine Or.inl (Or.inr ⟨hm.1, fun hid => ?_⟩)
        obtain ⟨y, hy, hyid⟩ := List.mem_map.mp hid
        have hident := hreplaced y hy m hm.1 hyid.symm
        rcases h.mem_memberWrites.mp hy with ⟨e, he, -, rfl⟩ | ⟨m', hm', hstatus', rfl⟩
        · simp only [Membership.ident, Prod.mk.injEq] at hident
          refine hm.2.2.2 (List.mem_map.mpr ⟨e, he, ?_⟩)
          rw [← (h.memberPlanned he).user, hident.2.2.2]
        · rw [List.inj_on_of_nodup_map h.constraints.membershipId hm'.1 hm.1 hyid] at hstatus'
          exact hstatus' hstatus
      · exact Or.inl (Or.inl (Or.inr ⟨m, hm, hstatus, rfl⟩))
    · refine Or.inl (Or.inr ⟨hx, fun hid => hpair ?_⟩)
      obtain ⟨y, hy, hyid⟩ := List.mem_map.mp hid
      have hident := hreplaced y hy x hx hyid.symm
      simp only [Membership.ident, Prod.mk.injEq] at hident
      rw [hident.2.1, hident.2.2.1]
      exact (h.of_mem_memberWrites hy).2

/-- The rows that were there keep their identity, in place. -/
lemma map_ident_applyMembers (h : MembersInput t uuid4 tenantId applicationId members roleRows) :
    (updateAll Membership.id t.memberships
      (t.memberWrites uuid4 tenantId applicationId members roleRows)).map Membership.ident =
      t.memberships.map Membership.ident :=
  map_updateAll_ident (fun _ _ hab => (Prod.mk.inj hab).1) h.constraints.membershipId
    fun _ hx => (h.of_mem_memberWrites hx).1

/-- The memberships of other pairs stay as they are. -/
lemma filter_applyMembers (h : MembersInput t uuid4 tenantId applicationId members roleRows)
    {p : Membership → Bool} (hident : ∀ a b, a.ident = b.ident → p a = p b)
    (hpair : ∀ m, m.tenantId = tenantId → m.applicationId = some applicationId → p m = false) :
    (t.applyMembers uuid4 tenantId applicationId members roleRows).1.memberships.filter p =
      t.memberships.filter p := by
  have hnew : (t.memberCreates uuid4 tenantId applicationId members roleRows).filter p = [] :=
    List.filter_eq_nil_iff.mpr fun x hx => by
      obtain ⟨e, he, -, rfl⟩ := mem_memberCreates.mp hx
      simp [hpair _ (h.memberPlanned he).tenant (h.memberPlanned he).application]
  rw [applyMembers_tables, List.filter_append,
    filter_updateAll_ident (fun _ _ hab => (Prod.mk.inj hab).1) hident h.constraints.membershipId
      fun x hx => ⟨(h.of_mem_memberWrites hx).1, hpair x (h.of_mem_memberWrites hx).2.1
        (h.of_mem_memberWrites hx).2.2⟩, hnew, List.append_nil]

/-! ### The links -/

lemma mem_memberChanges {c : Change Id Id} :
    c ∈ t.memberChanges uuid4 tenantId applicationId members roleRows ↔
      ∃ e ∈ members.zipIdx,
        c.owner = (t.memberPlan uuid4 tenantId applicationId members roleRows e).membership.id ∧
        c.ids = (t.memberPlan uuid4 tenantId applicationId members roleRows e).roleIds ∧
        c.current = (t.memberPlan uuid4 tenantId applicationId members roleRows e).current := by
  constructor
  · intro hc
    obtain ⟨p, hp, rfl⟩ := List.mem_map.mp hc
    obtain ⟨e, he, rfl⟩ := mem_memberPlans.mp hp
    exact ⟨e, he, rfl, rfl, rfl⟩
  · rintro ⟨e, he, ho, hi, hcur⟩
    refine List.mem_map.mpr ⟨_, mem_memberPlans.mpr ⟨e, he, rfl⟩, ?_⟩
    cases c
    simp_all

lemma nodup_memberChanges (h : MembersInput t uuid4 tenantId applicationId members roleRows) :
    ((t.memberChanges uuid4 tenantId applicationId members roleRows).map Change.owner).Nodup := by
  rw [memberChanges, memberPlans, List.map_map, List.map_map]
  exact nodup_map_zipIdx h.refs fun e he e' he' => h.memberPlan_id_injOn he he'

/-- The links read before the writes are those of the membership. -/
lemma current_memberChanges (h : MembersInput t uuid4 tenantId applicationId members roleRows) :
    ∀ c ∈ t.memberChanges uuid4 tenantId applicationId members roleRows,
      c.current = others t.membershipRoles c.owner := by
  intro c hc
  obtain ⟨e, he, ho, -, hcur⟩ := mem_memberChanges.mp hc
  rw [ho, hcur]
  rcases (h.memberPlanned he).row with ⟨-, m, -, hident, hcurrent, -⟩ | ⟨-, hid, hcurrent, -⟩
  · rw [hcurrent, (Prod.mk.inj hident).1]
  · rw [hcurrent, hid, eq_comm, Finset.eq_empty_iff_forall_notMem]
    intro i hi
    obtain ⟨m, hm, -, -, hmid, -⟩ := h.wellFormed.membershipLinks _ (mem_others.mp hi)
    exact h.ids.new _ (ofMember he (Or.inr (Or.inr rfl))) (id_mem_rowIds
      (Or.inr (Or.inr (Or.inr (Or.inl (List.mem_map.mpr ⟨m, hm, hmid⟩))))))

/-- **The links of a listed member** are exactly its resolved roles. -/
theorem others_applyMembers (h : MembersInput t uuid4 tenantId applicationId members roleRows)
    (hentry : entry ∈ members.zipIdx) :
    others (t.applyMembers uuid4 tenantId applicationId members roleRows).1.membershipRoles
        (t.memberPlan uuid4 tenantId applicationId members roleRows entry).membership.id =
      (t.memberPlan uuid4 tenantId applicationId members roleRows entry).roleIds := by
  ext i
  rw [mem_others, applyMembers_tables]
  exact mem_replaceAll h.nodup_memberChanges h.current_memberChanges
    ⟨_, _, _⟩ (mem_memberChanges.mpr ⟨entry, hentry, rfl, rfl, rfl⟩) i

/-- Memberships that no entry is about keep their links. -/
lemma mem_applyMembers_links {o i : Id}
    (ho : ∀ e ∈ members.zipIdx,
      o ≠ (t.memberPlan uuid4 tenantId applicationId members roleRows e).membership.id) :
    (o, i) ∈ (t.applyMembers uuid4 tenantId applicationId members roleRows).1.membershipRoles ↔
      (o, i) ∈ t.membershipRoles := by
  rw [applyMembers_tables]
  refine mem_replaceAll_of_forall_ne fun c hc => ?_
  obtain ⟨e, he, howner, -⟩ := mem_memberChanges.mp hc
  exact howner ▸ ho e he

/-- A resolved role of an entry is one of `roleRows`. -/
lemma of_mem_roleIds (h : MembersInput t uuid4 tenantId applicationId members roleRows)
    (hentry : entry ∈ members.zipIdx) {i : Id}
    (hi : i ∈ (t.memberPlan uuid4 tenantId applicationId members roleRows entry).roleIds) :
    ∃ r ∈ roleRows, r.id = i := by
  rw [(h.memberPlanned hentry).roleIds] at hi
  obtain ⟨r, hr, rfl⟩ := mem_roleIds.mp hi
  obtain ⟨n, -, hl⟩ := List.mem_filterMap.mp hr
  exact ⟨r, mem_of_lookup hl, rfl⟩

/-! ### Users and identities -/

/-- What an entry brings in is new, and is about its reference. -/
lemma of_memberNew {x : User × ExternalIdentity} (hx : t.memberNew uuid4 entry = some x) :
    (∀ i ∈ t.externalIdentities, i.ref ≠ entry.1.userRef) ∧ x.2.ref = entry.1.userRef ∧
      x.1.id = uuid4 (.user entry.2) ∧ x.2.id = uuid4 (.identity entry.2) ∧ x.2.userId = x.1.id := by
  rw [memberNew] at hx
  cases hl : lookup ExternalIdentity.ref t.externalIdentities entry.1.userRef with
  | some i =>
      rw [hl] at hx
      cases hx
  | none =>
      rw [hl] at hx
      obtain rfl := Option.some.inj hx
      exact ⟨lookup_eq_none_iff.mp hl, rfl, rfl, rfl, rfl⟩

lemma memberNews_eq (h : MembersInput t uuid4 tenantId applicationId members roleRows) :
    t.memberNews uuid4 tenantId applicationId members roleRows =
      members.zipIdx.filterMap (t.memberNew uuid4) := by
  rw [memberNews, memberPlans, List.filterMap_map]
  exact List.filterMap_congr fun e he => (h.memberPlanned he).identity

lemma mem_memberNews (h : MembersInput t uuid4 tenantId applicationId members roleRows)
    {x : User × ExternalIdentity} :
    x ∈ t.memberNews uuid4 tenantId applicationId members roleRows ↔
      ∃ e ∈ members.zipIdx, t.memberNew uuid4 e = some x := by
  rw [h.memberNews_eq, List.mem_filterMap]

/-- The new rows are told apart by their references, and by what is drawn for
them. -/
lemma nodup_memberNews {γ : Type} {g : User × ExternalIdentity → γ}
    (h : MembersInput t uuid4 tenantId applicationId members roleRows)
    (hg : ∀ e ∈ members.zipIdx, ∀ e' ∈ members.zipIdx, ∀ x y, t.memberNew uuid4 e = some x →
      t.memberNew uuid4 e' = some y → g x = g y → e.1.userRef = e'.1.userRef) :
    ((t.memberNews uuid4 tenantId applicationId members roleRows).map g).Nodup := by
  rw [h.memberNews_eq]
  exact nodup_filterMap_zipIdx h.refs hg

lemma nodup_memberNews_users (h : MembersInput t uuid4 tenantId applicationId members roleRows) :
    ((t.memberNews uuid4 tenantId applicationId members roleRows).map fun x => x.1.id).Nodup := by
  refine h.nodup_memberNews fun e he e' he' x y hx hy hxy => ?_
  obtain ⟨-, -, hid, -⟩ := of_memberNew hx
  obtain ⟨-, -, hid', -⟩ := of_memberNew hy
  have hd := h.ids.injOn _ _ (ofMember he (Or.inl rfl)) (ofMember he' (Or.inl rfl))
    (hid.symm.trans (hxy.trans hid'))
  rw [entry_eq he he' (Draw.user.inj hd)]

lemma nodup_memberNews_identities
    (h : MembersInput t uuid4 tenantId applicationId members roleRows) :
    ((t.memberNews uuid4 tenantId applicationId members roleRows).map fun x => x.2.id).Nodup := by
  refine h.nodup_memberNews fun e he e' he' x y hx hy hxy => ?_
  obtain ⟨-, -, -, hid, -⟩ := of_memberNew hx
  obtain ⟨-, -, -, hid', -⟩ := of_memberNew hy
  have hd := h.ids.injOn _ _ (ofMember he (Or.inr (Or.inl rfl)))
    (ofMember he' (Or.inr (Or.inl rfl))) (hid.symm.trans (hxy.trans hid'))
  rw [entry_eq he he' (Draw.identity.inj hd)]

lemma nodup_memberNews_refs (h : MembersInput t uuid4 tenantId applicationId members roleRows) :
    ((t.memberNews uuid4 tenantId applicationId members roleRows).map fun x => x.2.ref).Nodup :=
  h.nodup_memberNews fun _ _ _ _ _ _ hx hy hxy =>
    (of_memberNew hx).2.1.symm.trans (hxy.trans (of_memberNew hy).2.1)

/-- The identity that an entry's reference denotes after the step. -/
lemma exists_identity (h : MembersInput t uuid4 tenantId applicationId members roleRows)
    (hentry : entry ∈ members.zipIdx) :
    ∃ i ∈ (t.applyMembers uuid4 tenantId applicationId members roleRows).1.externalIdentities,
      i.ref = entry.1.userRef ∧ i.userId = t.memberUser uuid4 entry := by
  rw [applyMembers_tables, memberUser]
  cases hl : lookup ExternalIdentity.ref t.externalIdentities entry.1.userRef with
  | some i => exact ⟨i, List.mem_append_left _ (mem_of_lookup hl), key_of_lookup hl, rfl⟩
  | none =>
      have hnew : t.memberNew uuid4 entry = some (newIdentity (uuid4 (.user entry.2))
          (uuid4 (.identity entry.2)) entry.1.userRef entry.1.email none entry.1.displayName) := by
        rw [memberNew, hl]
      refine ⟨_, List.mem_append_right _ (List.mem_map_of_mem
        (h.mem_memberNews.mpr ⟨entry, hentry, hnew⟩)), rfl, rfl⟩

/-! ### The tables -/

/-- The step keeps the tables well formed. -/
theorem evolves (h : MembersInput t uuid4 tenantId applicationId members roleRows) :
    Evolves t (t.applyMembers uuid4 tenantId applicationId members roleRows).1 := by
  rw [applyMembers_tables]
  refine { Evolves.refl t with
    users := keeps_append _ _ _
    identities := ⟨_, rfl, ?_, ?_⟩
    memberships := ?_
    membershipRoles := ?_ }
  · rw [List.map_map]
    refine h.nodup_memberNews fun e he e' he' x y hx hy hxy => ?_
    obtain ⟨-, -, hid, -, huser⟩ := of_memberNew hx
    obtain ⟨-, -, hid', -, huser'⟩ := of_memberNew hy
    have hd := h.ids.injOn _ _ (ofMember he (Or.inl rfl)) (ofMember he' (Or.inl rfl))
      (hid.symm.trans (huser.symm.trans (hxy.trans (huser'.trans hid'))))
    rw [entry_eq he he' (Draw.user.inj hd)]
  · intro i hi
    obtain ⟨x, hx, rfl⟩ := List.mem_map.mp hi
    obtain ⟨e, he, hnew⟩ := h.mem_memberNews.mp hx
    obtain ⟨-, -, hid, -, huser⟩ := of_memberNew hnew
    refine ⟨?_, fun hm => h.ids.new _ (ofMember he (Or.inl rfl)) (id_mem_rowIds
      (Or.inr (Or.inl (hid ▸ huser ▸ hm))))⟩
    rw [huser, List.map_append, List.map_map]
    exact List.mem_append_right _ (List.mem_map_of_mem hx)
  · rw [Keeps, List.map_append, h.map_ident_applyMembers]
    exact List.subset_append_left _ _
  · rintro ⟨o, i⟩ hp
    rcases mem_of_mem_replaceAll hp with hp | ⟨c, hc, ho, hi⟩
    · exact Or.inl ⟨hp, fun r hr _ => List.mem_map_of_mem hr⟩
    · obtain ⟨e, he, howner, hids, -⟩ := mem_memberChanges.mp hc
      obtain ⟨r, hr, rfl⟩ := h.of_mem_roleIds he (hids ▸ hi)
      obtain ⟨hr, happ, hten, hagent⟩ := h.roles r hr
      have hplan := h.memberPlanned he
      have hrow := h.mem_applyMembers_memberships.mpr (Or.inl ⟨e, he, rfl⟩)
      rw [applyMembers_tables] at hrow
      exact Or.inr ⟨_, hrow, r, hr, (ho.trans howner).symm, rfl, happ.trans hplan.application.symm,
        hplan.tenant.symm ▸ hten, hagent⟩

/-- The new memberships are told apart by their users. -/
lemma nodup_memberCreates_userId
    (h : MembersInput t uuid4 tenantId applicationId members roleRows) :
    ((t.memberCreates uuid4 tenantId applicationId members roleRows).map Membership.userId).Nodup := by
  rw [memberCreates, memberPlans, List.map_map]
  refine List.Nodup.sublist (List.filter_sublist.map _) ?_
  rw [List.map_map]
  refine nodup_map_zipIdx h.refs fun e he e' he' heq => h.memberUser_injOn he he' ?_
  rw [← (h.memberPlanned he).user, ← (h.memberPlanned he').user]
  exact heq

lemma nodup_applyMembers_id (h : MembersInput t uuid4 tenantId applicationId members roleRows) :
    ((t.applyMembers uuid4 tenantId applicationId members roleRows).1.memberships.map
      Membership.id).Nodup := by
  have hids : (updateAll Membership.id t.memberships
      (t.memberWrites uuid4 tenantId applicationId members roleRows)).map Membership.id =
      t.memberships.map Membership.id := by
    have := congrArg (List.map Prod.fst) h.map_ident_applyMembers
    simpa [List.map_map, Function.comp_def] using this
  rw [applyMembers_tables, List.map_append, hids]
  refine h.constraints.membershipId.append ?_ fun i hi hi' => ?_
  · rw [memberCreates, memberPlans, List.map_map]
    refine List.Nodup.sublist (List.filter_sublist.map _) ?_
    rw [List.map_map]
    exact nodup_map_zipIdx h.refs fun e he e' he' => h.memberPlan_id_injOn he he'
  · obtain ⟨x, hx, rfl⟩ := List.mem_map.mp hi'
    obtain ⟨e, he, hcreated, rfl⟩ := mem_memberCreates.mp hx
    rcases (h.memberPlanned he).row with ⟨hfalse, -⟩ | ⟨-, hid, -⟩
    · rw [hcreated] at hfalse
      cases hfalse
    · exact h.ids.new _ (ofMember he (Or.inr (Or.inr rfl))) (id_mem_rowIds
        (Or.inr (Or.inr (Or.inr (Or.inl (hid ▸ hi))))))

lemma unique_applyMembers_key (h : MembersInput t uuid4 tenantId applicationId members roleRows) :
    Unique Membership.uniqueKey
      (t.applyMembers uuid4 tenantId applicationId members roleRows).1.memberships := by
  have hkey : ∀ a b : Membership, a.ident = b.ident → a.uniqueKey = b.uniqueKey := by
    intro a b hab
    simp only [Membership.ident, Prod.mk.injEq] at hab
    simp [Membership.uniqueKey, hab]
  have hident := h.map_ident_applyMembers
  rw [applyMembers_tables]
  refine (h.constraints.membershipKey.of_map_eq hkey hident).append ?_ ?_
  · have hmap : ((t.memberCreates uuid4 tenantId applicationId members roleRows).filterMap
        Membership.uniqueKey).map (fun k => k.2.2) =
        (t.memberCreates uuid4 tenantId applicationId members roleRows).map Membership.userId := by
      rw [List.map_filterMap, ← List.filterMap_eq_map]
      refine List.filterMap_congr fun x hx => ?_
      obtain ⟨e, he, -, rfl⟩ := mem_memberCreates.mp hx
      simp [Membership.uniqueKey, (h.memberPlanned he).application]
    refine List.Nodup.of_map (fun k : Id × Id × Id => k.2.2) ?_
    rw [hmap]
    exact h.nodup_memberCreates_userId
  · intro a ha b hb k hka hkb
    obtain ⟨e, he, hcreated, rfl⟩ := mem_memberCreates.mp hb
    obtain ⟨m, hm, hmident⟩ := List.mem_map.mp (hident ▸ List.mem_map_of_mem ha)
    rw [← hkey m a hmident] at hka
    rcases (h.memberPlanned he).row with ⟨hfalse, -⟩ | ⟨-, -, -, hnone⟩
    · rw [hcreated] at hfalse
      cases hfalse
    · simp only [Membership.uniqueKey, Option.map_eq_some_iff] at hka hkb
      obtain ⟨a₁, ha₁, rfl⟩ := hka
      obtain ⟨a₂, ha₂, hk⟩ := hkb
      simp only [Prod.mk.injEq] at hk
      have hplan := h.memberPlanned he
      refine hnone m hm (hk.1.symm.trans hplan.tenant) ?_ hk.2.2.symm
      rw [ha₁, ← hk.2.1, ← ha₂, hplan.application]

/-- The step keeps the constraints of the database. -/
theorem constraints_after (h : MembersInput t uuid4 tenantId applicationId members roleRows) :
    (t.applyMembers uuid4 tenantId applicationId members roleRows).1.Constraints where
  tenantId := h.constraints.tenantId
  tenantSlug := h.constraints.tenantSlug
  applicationId := h.constraints.applicationId
  applicationSlug := h.constraints.applicationSlug
  userId := by
    rw [applyMembers_tables, List.map_append, List.map_map]
    refine h.constraints.userId.append h.nodup_memberNews_users fun i hi hi' => ?_
    obtain ⟨x, hx, rfl⟩ := List.mem_map.mp hi'
    obtain ⟨e, he, hnew⟩ := h.mem_memberNews.mp hx
    exact h.ids.new _ (ofMember he (Or.inl rfl)) (id_mem_rowIds
      (Or.inr (Or.inl ((of_memberNew hnew).2.2.1 ▸ hi))))
  identityId := by
    rw [applyMembers_tables, List.map_append, List.map_map]
    refine h.constraints.identityId.append h.nodup_memberNews_identities fun i hi hi' => ?_
    obtain ⟨x, hx, rfl⟩ := List.mem_map.mp hi'
    obtain ⟨e, he, hnew⟩ := h.mem_memberNews.mp hx
    exact h.ids.new _ (ofMember he (Or.inr (Or.inl rfl))) (id_mem_rowIds
      (Or.inr (Or.inr (Or.inl ((of_memberNew hnew).2.2.2.1 ▸ hi)))))
  identityRef := by
    rw [applyMembers_tables, List.map_append, List.map_map]
    refine h.constraints.identityRef.append h.nodup_memberNews_refs fun k hk hk' => ?_
    obtain ⟨x, hx, rfl⟩ := List.mem_map.mp hk'
    obtain ⟨e, he, hnew⟩ := h.mem_memberNews.mp hx
    obtain ⟨i, hi, hik⟩ := List.mem_map.mp hk
    exact (of_memberNew hnew).1 i hi (hik.trans (of_memberNew hnew).2.1)
  membershipId := h.nodup_applyMembers_id
  membershipKey := h.unique_applyMembers_key
  roleId := h.constraints.roleId
  roleKey := h.constraints.roleKey
  membershipRoles := by
    rw [applyMembers_tables]
    exact nodup_replaceAll h.nodup_memberChanges h.constraints.membershipRoles
      h.current_memberChanges
  permissionId := h.constraints.permissionId
  permissionName := h.constraints.permissionName
  permissionAction := h.constraints.permissionAction
  rolePermissions := h.constraints.rolePermissions
  agentId := h.constraints.agentId
  agentKey := h.constraints.agentKey
  agentRoles := h.constraints.agentRoles
  grantId := h.constraints.grantId

/-- The step keeps the references, when the tenant and, for a new membership, the
application are there. -/
theorem foreignKeys_after (h : MembersInput t uuid4 tenantId applicationId members roleRows)
    (hfk : t.ForeignKeys) (ht : tenantId ∈ t.tenants.map Tenant.id)
    (ha : members ≠ [] → applicationId ∈ t.applications.map Application.id) :
    (t.applyMembers uuid4 tenantId applicationId members roleRows).1.ForeignKeys := by
  have husers : t.users.map User.id ⊆
      (t.applyMembers uuid4 tenantId applicationId members roleRows).1.users.map User.id :=
    h.evolves.users
  have hw := h.evolves.wellFormed h.wellFormed
  refine { hfk with
    identities := hw.identityUsers
    memberships := fun m hm => ?_
    membershipRoles := fun p hp => linked_ids (hw.membershipLinks p hp)
    agents := fun a ha => ⟨(hfk.agents a ha).1, (hfk.agents a ha).2.1,
      refersTo_mono husers (hfk.agents a ha).2.2⟩
    grants := fun g hg => ⟨(hfk.grants g hg).1, (hfk.grants g hg).2.1,
      husers (hfk.grants g hg).2.2.1, (hfk.grants g hg).2.2.2⟩ }
  rcases h.mem_applyMembers_memberships.mp hm with ⟨e, he, rfl⟩ | ⟨m, ⟨hm₀, -⟩, rfl⟩ | ⟨hm₀, -⟩
  · have hplan := h.memberPlanned he
    obtain ⟨i, hi, -, hiuser⟩ := h.exists_identity he
    have hmembers : members ≠ [] := fun hnil => by simp [hnil] at he
    rw [hplan.tenant, hplan.application, hplan.user, ← hiuser]
    exact ⟨ht, ha hmembers, hw.identityUsers i hi⟩
  · exact ⟨(hfk.memberships m hm₀).1, (hfk.memberships m hm₀).2.1,
      husers (hfk.memberships m hm₀).2.2⟩
  · exact ⟨(hfk.memberships m hm₀).1, (hfk.memberships m hm₀).2.1,
      husers (hfk.memberships m hm₀).2.2⟩

/-- The rows after the step have the ids of the rows before, or drawn ones. -/
lemma rowIds_after (h : MembersInput t uuid4 tenantId applicationId members roleRows) {i : Id}
    (hi : i ∈ (t.applyMembers uuid4 tenantId applicationId members roleRows).1.rowIds) :
    i ∈ t.rowIds ∨ ∃ d, Draw.OfMember members.length d ∧ i = uuid4 d := by
  have hids : (updateAll Membership.id t.memberships
      (t.memberWrites uuid4 tenantId applicationId members roleRows)).map Membership.id =
      t.memberships.map Membership.id := by
    have := congrArg (List.map Prod.fst) h.map_ident_applyMembers
    simpa [List.map_map, Function.comp_def] using this
  have husers : ∀ i ∈ ((t.memberNews uuid4 tenantId applicationId members roleRows).map
      Prod.fst).map User.id, ∃ d, Draw.OfMember members.length d ∧ i = uuid4 d := by
    intro i hi
    rw [List.map_map] at hi
    obtain ⟨x, hx, rfl⟩ := List.mem_map.mp hi
    obtain ⟨e, he, hnew⟩ := h.mem_memberNews.mp hx
    exact ⟨_, ofMember he (Or.inl rfl), (of_memberNew hnew).2.2.1⟩
  have hidents : ∀ i ∈ ((t.memberNews uuid4 tenantId applicationId members roleRows).map
      Prod.snd).map ExternalIdentity.id, ∃ d, Draw.OfMember members.length d ∧ i = uuid4 d := by
    intro i hi
    rw [List.map_map] at hi
    obtain ⟨x, hx, rfl⟩ := List.mem_map.mp hi
    obtain ⟨e, he, hnew⟩ := h.mem_memberNews.mp hx
    exact ⟨_, ofMember he (Or.inr (Or.inl rfl)), (of_memberNew hnew).2.2.2.1⟩
  have hmemberships : ∀ i ∈ (t.memberCreates uuid4 tenantId applicationId members roleRows).map
      Membership.id, ∃ d, Draw.OfMember members.length d ∧ i = uuid4 d := by
    intro i hi
    obtain ⟨x, hx, rfl⟩ := List.mem_map.mp hi
    obtain ⟨e, he, hcreated, rfl⟩ := mem_memberCreates.mp hx
    rcases (h.memberPlanned he).row with ⟨hfalse, -⟩ | ⟨-, hid, -⟩
    · rw [hcreated] at hfalse
      cases hfalse
    · exact ⟨_, ofMember he (Or.inr (Or.inr rfl)), hid⟩
  rw [applyMembers_tables] at hi
  simp only [rowIds, List.map_append, List.mem_append, hids] at hi ⊢
  rcases hi with (((((((hi | hi) | (hi | hi)) | (hi | hi)) | (hi | hi)) | hi) | hi) | hi) | hi
  · exact Or.inl (by simp only [hi, true_or])
  · exact Or.inl (by simp only [hi, true_or, or_true])
  · exact Or.inl (by simp only [hi, true_or, or_true])
  · exact Or.inr (husers i hi)
  · exact Or.inl (by simp only [hi, true_or, or_true])
  · exact Or.inr (hidents i hi)
  · exact Or.inl (by simp only [hi, true_or, or_true])
  · exact Or.inr (hmemberships i hi)
  · exact Or.inl (by simp only [hi, true_or, or_true])
  · exact Or.inl (by simp only [hi, true_or, or_true])
  · exact Or.inl (by simp only [hi, true_or, or_true])
  · exact Or.inl (by simp only [hi, or_true])

end MembersInput

end Tables

end AuthzKit
