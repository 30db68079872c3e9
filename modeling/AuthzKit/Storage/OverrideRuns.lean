import AuthzKit.Storage.OverrideStates

/-!
A tenant role override leaves no trace.

Two runs of the same role assignments are compared: one between setting and deleting an override,
one without. They go in lockstep, the second always where the deletion would take the first.

* `tables_without`: the step, one case for each operation that assigns roles.
* `Coupled`: the two stores between the calls; `Coupled.perform`, `Coupled.performAll`: one call
  keeps them coupled, and several do.
* `override_leaves_no_trace`: whole runs.
-/

namespace AuthzKit

open Keyed Links

/-- The operations that assign roles to members and agents. -/
def Op.assignsRoles : Op → Bool
  | createMembership .. | setMembershipRoles .. | setAgentRoles .. | applyTenantState .. => true
  | _ => false

namespace Tables.Overridden

variable {t t' : Tables} {tenantId applicationId : Id} {name : String} {o d : Role} {op : Op}
  {uuid4 : UuidSource}

/-- **An assignment may as well run after the deletion.** -/
theorem tables_without (h : t.Overridden tenantId applicationId name o d)
    (hf : Fresh uuid4 t (Draw.Within op.size)) (hassigns : op.assignsRoles)
    (hop : op.tables uuid4 t = .ok t') :
    op.tables uuid4 (t.withoutOverride o d) = .ok (t'.withoutOverride o d) := by
  cases op with
  | createMembership tenant application user status roles =>
      rw [Op.tables] at hop ⊢
      obtain ⟨r, hop⟩ := map_fst_eq_ok hop
      have hrow := hf.unused .row (Nat.zero_le _)
      obtain ⟨r', hop'⟩ := h.createMembership_without
        (fun i hi => (hrow.membershipRoles _ hi).1 rfl) hop
      rw [hop']
      rfl
  | setMembershipRoles membershipId roleNames =>
      rw [Op.tables] at hop ⊢
      obtain ⟨u, hop⟩ := map_fst_eq_ok hop
      rw [h.setMembershipRoles_without hop]
      rfl
  | setAgentRoles agentId roleNames =>
      rw [Op.tables] at hop ⊢
      obtain ⟨u, hop⟩ := map_fst_eq_ok hop
      rw [h.setAgentRoles_without hop]
      rfl
  | applyTenantState application tenantSlug state =>
      rw [Op.tables] at hop ⊢
      obtain ⟨r, hop⟩ := map_fst_eq_ok hop
      obtain ⟨r', hop'⟩ := h.applyTenantState_without hf hop
      rw [hop']
      rfl
  | _ => cases hassigns

/-- An assignment adds internal roles at most. -/
lemma roles_of_assigns (h : t.Overridden tenantId applicationId name o d)
    (hf : Fresh uuid4 t (Draw.Within op.size)) (hassigns : op.assignsRoles)
    (hop : op.tables uuid4 t = .ok t') :
    ∃ new, t'.roles = t.roles ++ new ∧ ∀ r ∈ new, r.agentId ≠ none := by
  have hsame : t'.roles = t.roles → ∃ new, t'.roles = t.roles ++ new ∧ ∀ r ∈ new, r.agentId ≠ none :=
    fun hroles => ⟨[], hroles.trans (List.append_nil _).symm, fun _ hr => absurd hr List.not_mem_nil⟩
  cases op with
  | createMembership tenant application user status roles =>
      rw [Op.tables] at hop
      obtain ⟨r, hop⟩ := map_fst_eq_ok hop
      obtain ⟨rfl, -⟩ := Prod.mk.inj (Except.ok.inj hop)
      refine hsame ?_
      dsimp only
      split
      · rfl
      · rfl
  | setMembershipRoles membershipId roleNames =>
      rw [Op.tables] at hop
      obtain ⟨u, hop⟩ := map_fst_eq_ok hop
      rw [setMembershipRoles] at hop
      split at hop
      · obtain ⟨rfl, -⟩ := Prod.mk.inj (Except.ok.inj hop)
        exact hsame rfl
      · obtain ⟨rfl, -⟩ := Prod.mk.inj (Except.ok.inj hop)
        exact hsame rfl
  | setAgentRoles agentId roleNames =>
      rw [Op.tables] at hop
      obtain ⟨u, hop⟩ := map_fst_eq_ok hop
      rw [setAgentRoles] at hop
      split at hop
      · obtain ⟨rfl, -⟩ := Prod.mk.inj (Except.ok.inj hop)
        exact hsame rfl
      · dsimp only at hop
        split at hop
        · cases hop
        · obtain ⟨rfl, -⟩ := Prod.mk.inj (Except.ok.inj hop)
          exact hsame rfl
  | applyTenantState application tenantSlug state =>
      rw [Op.tables] at hop
      obtain ⟨r, hop⟩ := map_fst_eq_ok hop
      obtain ⟨hissues, rfl, -⟩ := of_applyTenantState_ok hop
      have hin := StateInput.of_issues h.constraints h.wellFormed hf hissues
      refine ⟨_, by rw [stateTables, applyAgents_tables, memberTables_roles], fun r hr => ?_⟩
      obtain ⟨e, he, hcreated, rfl⟩ := AgentsInput.mem_roleCreates.mp hr
      rcases (hin.agentsInput.agentPlanned _ he).role with ⟨hnot, -⟩ | ⟨-, -, -, -, -, hagent, -⟩
      · rw [hcreated] at hnot
        cases hnot
      · rw [hagent]
        exact Option.some_ne_none _
  | _ => cases hassigns

end Tables.Overridden

namespace SqlAlchemyStore

/-- The store after several calls, or what the first of them to raise raised. -/
def performAll (s : SqlAlchemyStore) : List (Op × UuidSource) → Except StoreError SqlAlchemyStore
  | [] => .ok s
  | call :: calls => (s.perform call.1 call.2).bind fun s' => s'.performAll calls

lemma performAll_cons {s s' : SqlAlchemyStore} {op : Op} {uuid4 : UuidSource}
    {calls : List (Op × UuidSource)} :
    s.performAll ((op, uuid4) :: calls) = .ok s' ↔
      ∃ s'', s.perform op uuid4 = .ok s'' ∧ s''.performAll calls = .ok s' := by
  rw [performAll]
  cases s.perform op uuid4 with
  | error e => simp [Except.bind]
  | ok s'' => simp [Except.bind]

lemma next_of_perform {s s' : SqlAlchemyStore} {op : Op} {uuid4 : UuidSource}
    (h : s.perform op uuid4 = .ok s') : s.next op uuid4 = s' := by
  rw [next, h]

/-- The store `s` between setting and deleting an override, and `s'` without it. -/
structure Coupled (s s' : SqlAlchemyStore) (tenantId applicationId : Id) (name : String)
    (o d : Role) : Prop where
  overridden : s.tables.Overridden tenantId applicationId name o d
  tables : s'.tables = s.tables.withoutOverride o d
  engine : s'.engine = s.engine

section Coupled

variable {s s' t : SqlAlchemyStore} {tenantId applicationId : Id} {name : String} {o d : Role}
  (h : s.Coupled s' tenantId applicationId name o d)

include h

/-- **One assignment** returns in both runs and keeps them coupled. -/
theorem Coupled.perform {op : Op} {uuid4 : UuidSource} (hassigns : op.assignsRoles)
    (hf : Fresh uuid4 s.tables (Draw.Within op.size)) (hop : s.perform op uuid4 = .ok t) :
    ∃ t', s'.perform op uuid4 = .ok t' ∧ t.Coupled t' tenantId applicationId name o d := by
  obtain ⟨hengine, htables⟩ := perform_eq_ok_iff.mp hop
  have hw := Tables.wellFormed_tables s.constraints hf h.overridden.wellFormed htables
  obtain ⟨new, hroles, hnew⟩ := h.overridden.roles_of_assigns hf hassigns htables
  have hover := h.overridden.of_roles t.constraints hw hroles hnew
  have hwithout := h.overridden.tables_without hf hassigns htables
  have hfk : s'.engine.foreignKeys = true → (t.tables.withoutOverride o d).ForeignKeys :=
    fun hon => hover.foreignKeys_without (t.foreignKeys (by rw [hengine, ← h.engine, hon]))
  refine ⟨⟨s'.engine, t.tables.withoutOverride o d, hover.constraints_without, hfk⟩, ?_, hover, rfl,
    ?_⟩
  · exact perform_eq_ok_iff.mpr ⟨rfl, h.tables ▸ hwithout⟩
  · exact h.engine.trans hengine.symm

/-- **Several assignments** do. -/
theorem Coupled.performAll {calls : List (Op × UuidSource)}
    (hassigns : ∀ call ∈ calls, call.1.assignsRoles) (hf : s.FreshRun calls)
    (hcalls : s.performAll calls = .ok t) :
    ∃ t', s'.performAll calls = .ok t' ∧ t.Coupled t' tenantId applicationId name o d := by
  induction calls generalizing s s' with
  | nil => exact ⟨s', rfl, Except.ok.inj hcalls ▸ h⟩
  | cons call calls ih =>
      obtain ⟨s₁, hcall, hrest⟩ := performAll_cons.mp hcalls
      obtain ⟨hf, hfrest⟩ := hf
      rw [next_of_perform hcall] at hfrest
      obtain ⟨s₁', hcall', hcoupled⟩ := h.perform (hassigns call List.mem_cons_self) hf hcall
      obtain ⟨t', hrest', ht⟩ := ih hcoupled
        (fun c hc => hassigns c (List.mem_cons_of_mem call hc)) hfrest hrest
      exact ⟨t', performAll_cons.mpr ⟨s₁', hcall', hrest'⟩, ht⟩

/-- The deletion joins the runs. -/
lemma Coupled.eq_of_delete {uuid4 : UuidSource}
    (hdelete : s.perform (.deleteTenantRoleOverride tenantId applicationId name) uuid4 = .ok t) :
    t = s' := by
  obtain ⟨hengine, htables⟩ := perform_eq_ok_iff.mp hdelete
  rw [Op.tables, h.overridden.delete_eq] at htables
  exact ext' (hengine.trans h.engine.symm) ((Except.ok.inj htables).symm.trans h.tables.symm)

end Coupled

/-- A new override couples the stores around it. -/
lemma coupled_of_set {s s₁ : SqlAlchemyStore} {tenantId applicationId : Id} {name : String}
    {permissions : Finset String} {uuid4 : UuidSource} {d : Role} (hw : s.tables.WellFormed)
    (hf : s.tables.Unused (uuid4 .row))
    (hd : s.tables.roleByName (some applicationId) none name = some d)
    (hnone : s.tables.roleByName (some applicationId) (some tenantId) name = none)
    (hset : s.perform (.setTenantRoleOverride tenantId applicationId name permissions) uuid4 =
      .ok s₁) :
    ∃ o, s₁.Coupled s tenantId applicationId name o d := by
  obtain ⟨hengine, htables⟩ := perform_eq_ok_iff.mp hset
  rw [Op.tables] at htables
  obtain ⟨u, hop⟩ := Tables.map_fst_eq_ok htables
  obtain ⟨o, hover, hwithout⟩ := Tables.overridden_of_set hw s₁.constraints hf hd hnone hop
  exact ⟨o, hover, hwithout.symm, hengine.symm⟩

/-- A prefix of calls that return returns. -/
lemma performAll_before {s t : SqlAlchemyStore} {before after : List (Op × UuidSource)}
    (hcalls : s.performAll (before ++ after) = .ok t) : ∃ t', s.performAll before = .ok t' := by
  induction before generalizing s with
  | nil => exact ⟨s, rfl⟩
  | cons call before ih =>
      obtain ⟨s₁, hcall, hrest⟩ := performAll_cons.mp hcalls
      obtain ⟨t', ht'⟩ := ih hrest
      exact ⟨t', performAll_cons.mpr ⟨s₁, hcall, ht'⟩⟩

lemma freshRun_before {s : SqlAlchemyStore} {before after : List (Op × UuidSource)}
    (hf : s.FreshRun (before ++ after)) : s.FreshRun before := by
  induction before generalizing s with
  | nil => trivial
  | cons call before ih => exact ⟨hf.1, ih hf.2⟩

/-- **An override leaves no trace**: when a tenant overrides a default role for the first time,
roles are assigned and the override is deleted, the store is the one the same assignments leave
without the override; and at every moment in between, no other pair reads anything else. -/
theorem Reachable.override_leaves_no_trace {s s₁ s₂ s₃ : SqlAlchemyStore} (h : s.Reachable)
    {tenantId applicationId : Id} {name : String} {permissions : Finset String} {d : Role}
    (hdefault : s.tables.roleByName (some applicationId) none name = some d)
    (hnone : s.tables.roleByName (some applicationId) (some tenantId) name = none)
    {uuid4 uuid4' : UuidSource} {calls : List (Op × UuidSource)}
    (hassigns : ∀ call ∈ calls, call.1.assignsRoles)
    (hfresh : s.FreshRun
      ((.setTenantRoleOverride tenantId applicationId name permissions, uuid4) :: calls))
    (hset : s.perform (.setTenantRoleOverride tenantId applicationId name permissions) uuid4 =
      .ok s₁)
    (hcalls : s₁.performAll calls = .ok s₂)
    (hdelete : s₂.perform (.deleteTenantRoleOverride tenantId applicationId name) uuid4' =
      .ok s₃) :
    s.performAll calls = .ok s₃ ∧
      ∀ before after, calls = before ++ after → ∃ during without,
        s₁.performAll before = .ok during ∧ s.performAll before = .ok without ∧
          ∀ otherTenant otherApp, (otherTenant, otherApp) ≠ (tenantId, applicationId) →
            Tables.SameReads otherTenant otherApp during.tables without.tables := by
  obtain ⟨hf, hfrest⟩ := hfresh
  rw [next_of_perform hset] at hfrest
  obtain ⟨o, hcoupled⟩ := coupled_of_set h.wellFormed (hf.unused .row (Nat.zero_le _)) hdefault
    hnone hset
  constructor
  · obtain ⟨s', hrun, hlast⟩ := hcoupled.performAll hassigns hfrest hcalls
    rw [hlast.eq_of_delete hdelete]
    exact hrun
  · rintro before after rfl
    obtain ⟨during, hduring⟩ := performAll_before hcalls
    obtain ⟨without, hwithout, hmid⟩ := hcoupled.performAll
      (fun call hc => hassigns call (List.mem_append_left after hc)) (freshRun_before hfrest) hduring
    refine ⟨during, without, hduring, hwithout, fun otherTenant otherApp hne => ?_⟩
    rw [hmid.tables]
    exact hmid.overridden.otherReads_without hne

/-! ### Viewers -/

lemma performAll_run {s : SqlAlchemyStore} {calls : List (Op × UuidSource)}
    (h : (s.performAll calls).isOk = true) : s.performAll calls = .ok (s.run calls) := by
  induction calls generalizing s with
  | nil => rfl
  | cons call calls ih =>
      cases hp : s.perform call.1 call.2 with
      | error e =>
          rw [performAll, hp] at h
          cases h
      | ok s' =>
          rw [performAll, hp] at h
          exact performAll_cons.mpr ⟨s', hp, (ih h).trans (by rw [run, next_of_perform hp])⟩

/-- The viewers change: a member is assigned the role again, a state takes her out and a new one in,
and an agent gets the role. -/
def viewerCalls : List (Op × UuidSource) :=
  [(.setMembershipRoles (sampleIds 3 (.membership 0)) {"viewer"}, sampleIds 6),
    (.applyTenantState (sampleIds 1 .application) "acme"
      ⟨"Acme", "active", [⟨⟨"oidc", "https://idp", "bob"⟩, ["viewer"], none, none, "active"⟩],
        [⟨"helper", [], none, "active"⟩]⟩, sampleIds 7),
    (.setAgentRoles (sampleIds 3 (.agent 0)) {"viewer"}, sampleIds 8)]

/-- The calls after the viewers were muted, and the deletion of the override. -/
theorem override_leaves_no_trace_viewers :
    let tenantId := sampleIds 0 .row
    let applicationId := sampleIds 1 .application
    acmeStore.performAll viewerCalls = .ok ((mutedViewers.run viewerCalls).next
        (.deleteTenantRoleOverride tenantId applicationId "viewer") (sampleIds 9)) ∧
      ∀ before after, viewerCalls = before ++ after → ∃ during without,
        mutedViewers.performAll before = .ok during ∧ acmeStore.performAll before = .ok without ∧
          ∀ otherTenant otherApp, (otherTenant, otherApp) ≠ (tenantId, applicationId) →
            Tables.SameReads otherTenant otherApp during.tables without.tables := by
  intro tenantId applicationId
  have hdefault : ∃ d, acmeStore.tables.roleByName (some applicationId) none "viewer" = some d :=
    Option.isSome_iff_exists.mp (by decide +kernel)
  obtain ⟨d, hd⟩ := hdefault
  exact Reachable.override_leaves_no_trace acmeStore_reachable hd (by decide +kernel)
    (by decide +kernel) (by decide +kernel) (perform_next (by decide +kernel))
    (performAll_run (by decide +kernel)) (perform_next (by decide +kernel))

end SqlAlchemyStore

end AuthzKit
