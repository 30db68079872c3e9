import AuthzKit.Rbac.Relation

/-!
Decisions from resolved references.

With references the engine does not ask the store again: the status of the tenant
and the application comes from the resolution, and so does the status of an agent
given by name. `standing_resolved` says this changes nothing.

* `byIdOrSlug_eq_some_iff`: what a tenant or application reference denotes.
* `ResolvesTo`: what the resolution knows about rows, `resolveReferences_resolvesTo`.
* `standing_resolved`: the standing from complete references is the standing from
  ids alone.
-/

namespace AuthzKit

open Keyed

namespace Tables

variable {t : Tables}

/-! ### What a reference denotes -/

lemma of_byIdOrSlug {α : Type} {id slug : α → String} {rows : List α} {ref : String} {r : α}
    (h : byIdOrSlug id slug rows ref = some r) :
    r ∈ rows ∧ (Uuid.parsesAsUuid ref = true ∧ id r = ref ∨ slug r = ref) := by
  rw [byIdOrSlug] at h
  have hr : r ∈ rows.filter fun r => (Uuid.parsesAsUuid ref ∧ id r = ref) ∨ slug r = ref := by
    rcases Option.or_eq_some_iff.mp h with h | ⟨-, h⟩
    · exact mem_of_lookup h
    · exact List.mem_of_head? h
  simpa using hr

/-- A reference that denotes nothing is no slug. -/
lemma slug_ne_of_byIdOrSlug {α : Type} {id slug : α → String} {rows : List α} {ref : String}
    (h : byIdOrSlug id slug rows ref = none) {r : α} (hr : r ∈ rows) : slug r ≠ ref := by
  rw [byIdOrSlug, Option.or_eq_none_iff, List.head?_eq_none_iff] at h
  intro hslug
  have hfound := List.filter_eq_nil_iff.mp h.2 r hr
  simp [hslug] at hfound

/-- A reference denotes the row with that id when one exists, otherwise the row
with that slug. -/
theorem byIdOrSlug_eq_some_iff {α : Type} {id slug : α → String} {rows : List α} {ref : String}
    (hid : (rows.map id).Nodup) (hslug : (rows.map slug).Nodup)
    (huuid : ∀ r ∈ rows, Uuid.Canonical (id r)) {r : α} :
    byIdOrSlug id slug rows ref = some r ↔
      r ∈ rows ∧ (id r = ref ∨ slug r = ref ∧ ∀ r' ∈ rows, id r' ≠ ref) := by
  have hfound : ∀ x, x ∈ (rows.filter fun r =>
      (Uuid.parsesAsUuid ref ∧ id r = ref) ∨ slug r = ref) ↔
        x ∈ rows ∧ (id x = ref ∨ slug x = ref) := by
    intro x
    simp only [List.mem_filter, decide_eq_true_eq]
    refine and_congr_right fun hx => or_congr_left ⟨fun h => h.2, fun h => ⟨?_, h⟩⟩
    exact h ▸ Uuid.parsesAsUuid_of_canonical (huuid x hx)
  rw [byIdOrSlug]
  cases hl : lookup id (rows.filter fun r =>
      (Uuid.parsesAsUuid ref ∧ id r = ref) ∨ slug r = ref) ref with
  | some x =>
      have hxid := key_of_lookup hl
      have hx := ((hfound x).mp (mem_of_lookup hl)).1
      rw [Option.some_or, Option.some.injEq]
      constructor
      · rintro rfl
        exact ⟨hx, Or.inl hxid⟩
      · rintro ⟨hr, hrid | ⟨-, hno⟩⟩
        · exact List.inj_on_of_nodup_map hid hx hr (hxid.trans hrid.symm)
        · exact absurd hxid (hno x hx)
  | none =>
      have hno : ∀ x ∈ rows, id x ≠ ref := fun x hx hxid =>
        lookup_eq_none_iff.mp hl x ((hfound x).mpr ⟨hx, Or.inl hxid⟩) hxid
      rw [Option.none_or]
      constructor
      · intro h
        obtain ⟨hr, hrid | hrslug⟩ := (hfound r).mp (List.mem_of_head? h)
        · exact absurd hrid (hno r hr)
        · exact ⟨hr, Or.inr ⟨hrslug, hno⟩⟩
      · rintro ⟨hr, hrid | ⟨hrslug, -⟩⟩
        · exact absurd hrid (hno r hr)
        · cases hh : (rows.filter fun r =>
              (Uuid.parsesAsUuid ref ∧ id r = ref) ∨ slug r = ref).head? with
          | none =>
              have hnil := List.head?_eq_none_iff.mp hh
              have hmem := (hfound r).mpr ⟨hr, Or.inr hrslug⟩
              rw [hnil] at hmem
              simp at hmem
          | some x =>
              obtain ⟨hx, hxid | hxslug⟩ := (hfound x).mp (List.mem_of_head? hh)
              · exact absurd hxid (hno x hx)
              · rw [List.inj_on_of_nodup_map hslug hx hr (hxslug.trans hrslug.symm)]

/-! ### What a resolution knows -/

/-- Complete references name rows, and the statuses in them are those of the rows. -/
structure ResolvesTo (t : Tables) (refs : ResolvedReferences) : Prop where
  tenant : ∃ row ∈ t.tenants, row.id = refs.tenantId ∧ refs.tenantStatus = some row.status
  application :
    ∃ row ∈ t.applications, row.id = refs.applicationId ∧ refs.applicationStatus = some row.status
  userMissing : refs.userMissing = false
  agentMissing : refs.agentMissing = false
  agent : ∀ status, refs.agentStatus = some status → ∃ a ∈ t.agents,
    refs.agentId = some a.id ∧ a.tenantId = refs.tenantId ∧
      a.applicationId = refs.applicationId ∧ a.status = status

lemma complete_iff {refs : ResolvedReferences} :
    refs.complete = true ↔ refs.tenantStatus.isSome = true ∧
      refs.applicationStatus.isSome = true ∧ refs.userMissing = false ∧
        refs.agentMissing = false := by
  simp [ResolvedReferences.complete, and_assoc]

lemma of_agentByName {tenant : Option Tenant} {application : Option Application} {name : String}
    {a : Agent} (h : t.agentByName tenant application name = some a) :
    ∃ tn app, tenant = some tn ∧ application = some app ∧ a ∈ t.agents ∧ a.tenantId = tn.id ∧
      a.applicationId = app.id ∧ a.name = name := by
  cases tenant with
  | none => cases h
  | some tn =>
      cases application with
      | none => cases h
      | some app =>
          simp only [agentByName] at h
          exact ⟨tn, app, rfl, rfl, List.mem_of_find?_eq_some h, by simpa using List.find?_some h⟩

theorem resolveReferences_resolvesTo {tenant application : String} {userId : Option Id}
    {userRef : Option UserRef} {agentId : Option Id} {agentName : Option String}
    (h : (t.resolveReferences tenant application userId userRef agentId agentName).complete
      = true) :
    t.ResolvesTo (t.resolveReferences tenant application userId userRef agentId agentName) := by
  obtain ⟨ht, happ, hu, ha⟩ := complete_iff.mp h
  simp only [resolveReferences, Option.isSome_map] at ht happ
  obtain ⟨tn, htn⟩ := Option.isSome_iff_exists.mp ht
  obtain ⟨app, hap⟩ := Option.isSome_iff_exists.mp happ
  refine ⟨⟨tn, (of_byIdOrSlug htn).1, ?_, ?_⟩, ⟨app, (of_byIdOrSlug hap).1, ?_, ?_⟩, hu, ha, ?_⟩
  · simp [resolveReferences, htn]
  · simp [resolveReferences, htn]
  · simp [resolveReferences, hap]
  · simp [resolveReferences, hap]
  · intro status hs
    simp only [resolveReferences, Option.map_eq_some_iff, Option.bind_eq_some_iff] at hs
    obtain ⟨a, ⟨name, rfl, hname⟩, hstatus⟩ := hs
    obtain ⟨tn', app', htn', hap', hmem, hat, haa, -⟩ := of_agentByName hname
    obtain rfl := Option.some.inj (htn.symm.trans htn')
    obtain rfl := Option.some.inj (hap.symm.trans hap')
    exact ⟨a, hmem, by simp [resolveReferences, hname], by simp [resolveReferences, htn, hat],
      by simp [resolveReferences, hap, haa], hstatus⟩

/-! ### The engine and its references -/

section Engine

variable {refs : ResolvedReferences} {engine : AuthorizationEngine}

lemma inactive_resolved (hc : t.Constraints) (h : t.ResolvesTo refs)
    (he : engine.repository = t.repository) :
    engine.inactive refs.tenantId refs.applicationId (some refs) =
      engine.inactive refs.tenantId refs.applicationId none := by
  obtain ⟨tn, htn, hid, hstatus⟩ := h.tenant
  obtain ⟨app, hap, hid', hstatus'⟩ := h.application
  have htenant : lookup Tenant.id t.tenants refs.tenantId = some tn :=
    (lookup_eq_some_iff hc.tenantId).mpr ⟨htn, hid⟩
  have happlication : lookup Application.id t.applications refs.applicationId = some app :=
    (lookup_eq_some_iff hc.applicationId).mpr ⟨hap, hid'⟩
  simp only [AuthorizationEngine.inactive, he, repository, isTenantActive, htenant,
    isApplicationActive, happlication, hstatus, hstatus', statusActive]
  by_cases h1 : tn.status = "active" <;> by_cases h2 : app.status = "active" <;> simp [h1, h2]

lemma membershipActive_resolved (h : t.ResolvesTo refs) (userId : Id) :
    engine.membershipActive refs.tenantId refs.applicationId userId (some refs) =
      engine.membershipActive refs.tenantId refs.applicationId userId none := by
  simp [AuthorizationEngine.membershipActive, AuthorizationEngine.userMissing, h.userMissing]

/-- The status read by name is the one `is_agent_active` reads by id. -/
lemma agentActive_resolved (hc : t.Constraints) (h : t.ResolvesTo refs)
    (he : engine.repository = t.repository) (agentId : Id) :
    engine.agentActive refs.tenantId refs.applicationId agentId (some refs) =
      engine.agentActive refs.tenantId refs.applicationId agentId none := by
  simp only [AuthorizationEngine.agentActive, AuthorizationEngine.agentMissing, Option.any_some,
    h.agentMissing, Bool.false_eq_true, if_false, Option.any_none,
    AuthorizationEngine.resolvedAgentStatus, Option.bind_some, Option.bind_none]
  split_ifs with hid
  · cases hs : refs.agentStatus with
    | none => rfl
    | some status =>
        obtain ⟨a, ha, haid, hat, haa, rfl⟩ := h.agent status hs
        obtain rfl := Option.some.inj (hid.trans haid)
        have hget := (getAgent_eq_some_iff hc).mpr ⟨ha, rfl, hat, haa⟩
        simp [he, repository, isAgentActive, hget, statusActive]
  · rfl

/-- **Resolved references change no standing.** -/
theorem standing_resolved (hc : t.Constraints) (h : t.ResolvesTo refs)
    (he : engine.repository = t.repository) (subject : Subject) :
    engine.standing refs.tenantId refs.applicationId subject (some refs) =
      engine.standing refs.tenantId refs.applicationId subject none := by
  have huser : AuthorizationEngine.userMissing (some refs) = false := h.userMissing
  have hagent : AuthorizationEngine.agentMissing (some refs) = false := h.agentMissing
  have huser' : AuthorizationEngine.userMissing none = false := rfl
  have hagent' : AuthorizationEngine.agentMissing none = false := rfl
  simp only [AuthorizationEngine.standing, AuthorizationEngine.subjectStanding,
    inactive_resolved hc h he, membershipActive_resolved h, agentActive_resolved hc h he, huser,
    hagent, huser', hagent']

/-- A decision from resolved references is the decision from ids alone. -/
theorem authorize_resolved (hc : t.Constraints) (h : t.ResolvesTo refs)
    (he : engine.repository = t.repository) (request : AuthorizeRequest)
    (ht : request.tenantId = refs.tenantId) (ha : request.applicationId = refs.applicationId) :
    engine.authorize { request with references := some refs } =
      engine.authorize { request with references := none } := by
  rw [engine.authorize_eq, engine.authorize_eq]
  simp only [ht, ha, standing_resolved hc h he]
  rfl

theorem bulkAuthorize_resolved (hc : t.Constraints) (h : t.ResolvesTo refs)
    (he : engine.repository = t.repository) (request : BulkAuthorizeRequest)
    (ht : request.tenantId = refs.tenantId) (ha : request.applicationId = refs.applicationId) :
    engine.bulkAuthorize { request with references := some refs } =
      engine.bulkAuthorize { request with references := none } := by
  rw [engine.bulkAuthorize_eq_mapM, engine.bulkAuthorize_eq_mapM]
  refine congrArg (fun f => request.checks.mapM f) (funext fun c => ?_)
  exact authorize_resolved hc h he (request.single c) ht ha

theorem effectivePermissions_resolved (hc : t.Constraints) (h : t.ResolvesTo refs)
    (he : engine.repository = t.repository) (subject : Subject) (grant : Option (Finset String)) :
    engine.effectivePermissions refs.tenantId refs.applicationId subject grant (some refs) =
      engine.effectivePermissions refs.tenantId refs.applicationId subject grant none := by
  have hagent : AuthorizationEngine.agentMissing (some refs) = false := h.agentMissing
  have hagent' : AuthorizationEngine.agentMissing none = false := rfl
  rw [engine.effectivePermissions_eq hagent, engine.effectivePermissions_eq hagent',
    standing_resolved hc h he]

end Engine

end Tables

end AuthzKit
