import AuthzKit.Service.Management

/-!
The three management routes under every schedule of their sessions.

* `management_changes_hands`: **the manager of an application** changes only through
  null, to one label at a time, and a claim that succeeds was the manager.
* `catalog_writes_own`: **catalogs are written to the writer's applications**, in every
  run in which no application changes hands between the guard of a catalog request and
  its write (`Undisturbed`).
* `catalog_write_foreign`: two callers that create one application both pass the guard.
-/

namespace AuthzKit

open Keyed Interleaving

variable {oauthIssuer : String}

namespace Call

/-! ### The manager of an application -/

lemma managerOf_eq_some_iff {t : Tables} (hc : t.Constraints) {applicationId : Id} {m : String} :
    managerOf t applicationId = some m ↔
      ∃ app ∈ t.applications, app.id = applicationId ∧ app.managedBy = some m := by
  rw [managerOf, Option.bind_eq_some_iff]
  constructor
  · rintro ⟨app, hl, hm⟩
    exact ⟨app, mem_of_lookup hl, key_of_lookup hl, hm⟩
  · rintro ⟨app, happ, hid, hm⟩
    exact ⟨app, (lookup_eq_some_iff hc.applicationId).mpr ⟨happ, hid⟩, hm⟩

/-- No session replaces a manager by another one. -/
lemma act_manager {s : SqlAlchemyStore} {call : Call} {uuid4 : UuidSource}
    (hf : Fresh uuid4 s.tables (Draw.Within call.size)) {applicationId : Id} {a b : String}
    (ha : managerOf s.tables applicationId = some a)
    (hb : managerOf (act oauthIssuer s call uuid4).1.tables applicationId = some b) : a = b := by
  obtain ⟨app, happ, hid, hm⟩ := (managerOf_eq_some_iff s.constraints).mp ha
  obtain ⟨app', happ', hid', hm'⟩ := (managerOf_eq_some_iff (SqlAlchemyStore.constraints _)).mp hb
  have hsame : ∀ r ∈ s.tables.applications, app'.id = r.id → r = app := fun r hr hrid =>
    List.inj_on_of_nodup_map s.constraints.applicationId hr happ
      (hrid.symm.trans (hid'.trans hid.symm))
  cases act_hands happ' with
  | kept r mem id _ managedBy =>
      rw [hsame r mem id, hm, hm'] at managedBy
      exact (Option.some.inj managedBy).symm
  | released r mem id _ managedBy =>
      rw [hm'] at managedBy
      cases managedBy
  | claimed r mem id _ free =>
      rw [hsame r mem id, hm] at free
      cases free
  | created _ _ _ _ _ _ id =>
      have hunused := hf.unused .application (Nat.zero_le _)
      exact absurd (hid.trans (hid'.symm.trans id)) (hunused.applications app happ)

/-- The manager changes only through null. -/
lemma step_manager (applicationId : Id) {c c' : Config SqlAlchemyStore Call}
    {e : Event Call UuidSource} {a b : String}
    (hstep : (managementRequests oauthIssuer).machine.step c e c')
    (ha : managerOf c.shared.tables applicationId = some a)
    (hb : managerOf c'.shared.tables applicationId = some b) : a = b := by
  cases e with
  | arrive p =>
      obtain ⟨-, rfl⟩ := hstep
      exact Option.some.inj (ha.symm.trans hb)
  | act i uuid4 =>
      obtain ⟨p, -, hf, rfl⟩ := hstep
      exact act_manager hf ha hb

/-! ### The answers of a claim -/

/-- How far a claim has come, and what it has seen in one of the given states. -/
inductive Claiming (oauthIssuer : String) (principal : Principal) (applicationRef : String)
    (seen : Set Tables) : Call → Prop where
  | arrived : Claiming oauthIssuer principal applicationRef seen
      (.claimManagement principal applicationRef)
  | claim (app : Application) (found : ∃ t ∈ seen, t.findApplication applicationRef = some app) :
      Claiming oauthIssuer principal applicationRef seen
        (.claim (callerLabel oauthIssuer principal) app)
  | manager (app : Application) (found : ∃ t ∈ seen, t.findApplication applicationRef = some app) :
      Claiming oauthIssuer principal applicationRef seen
        (.manager (callerLabel oauthIssuer principal) app)
  | granted (out : ApplicationOut)
      (found : ∃ t ∈ seen, ∃ app, t.findApplication applicationRef = some app ∧ app.id = out.id)
      (own : out.managedBy = some (callerLabel oauthIssuer principal))
      (held : ∃ t ∈ seen, managerOf t out.id = some (callerLabel oauthIssuer principal)) :
      Claiming oauthIssuer principal applicationRef seen (.answered (.application out))
  | refused (e : HttpException)
      (other : e.statusCode = 409 → ∃ m, m ≠ callerLabel oauthIssuer principal ∧
        e = managedExternally m 409 ∧
        (m = "" ∨ ∃ t ∈ seen, ∃ app t', t' ∈ seen ∧ t'.findApplication applicationRef = some app ∧
          managerOf t app.id = some m)) :
      Claiming oauthIssuer principal applicationRef seen (.answered (.error e))

variable {principal : Principal} {applicationRef : String} {seen seen' : Set Tables} {call : Call}

/-- What was seen stays seen. -/
lemma Claiming.mono (h : Claiming oauthIssuer principal applicationRef seen call)
    (hsub : seen ⊆ seen') : Claiming oauthIssuer principal applicationRef seen' call := by
  cases h with
  | arrived => exact .arrived
  | claim app found => exact .claim app (found.imp fun t ht => ⟨hsub ht.1, ht.2⟩)
  | manager app found => exact .manager app (found.imp fun t ht => ⟨hsub ht.1, ht.2⟩)
  | granted out found own held =>
      exact .granted out (found.imp fun t ht => ⟨hsub ht.1, ht.2⟩) own
        (held.imp fun t ht => ⟨hsub ht.1, ht.2⟩)
  | refused e other =>
      refine .refused e fun h409 => ?_
      obtain ⟨m, hne, he, hm⟩ := other h409
      refine ⟨m, hne, he, hm.imp_right ?_⟩
      rintro ⟨t, ht, app, t', ht', hrest⟩
      exact ⟨t, hsub ht, app, t', hsub ht', hrest⟩

/-- The end of a claim that saw the manager it answers with. -/
lemma Claiming.claimed {app : Application}
    (found : ∃ t ∈ seen, t.findApplication applicationRef = some app) {managedBy : Option String}
    (hseen : ∀ m, managedBy = some m → ∃ t ∈ seen, managerOf t app.id = some m) :
    Claiming oauthIssuer principal applicationRef seen
      (.answered (Call.claimed (callerLabel oauthIssuer principal) app managedBy)) := by
  obtain ⟨t', ht', hfind⟩ := found
  rw [Call.claimed]
  split
  · rename_i hown
    exact .granted _ ⟨t', ht', app, hfind, rfl⟩ hown (hseen _ hown)
  · rename_i hother
    refine .refused _ fun _ => ⟨managedBy.getD "", ?_, rfl, ?_⟩
    · cases managedBy with
      | none => exact (callerLabel_ne_empty oauthIssuer principal).symm
      | some m => exact fun hm => hother (congrArg some hm)
    · cases managedBy with
      | none => exact Or.inl rfl
      | some m =>
          obtain ⟨t, ht, hm⟩ := hseen m rfl
          exact Or.inr ⟨t, ht, app, t', ht', hfind, hm⟩

/-- The next session of a claim. -/
lemma Claiming.act {s : SqlAlchemyStore} {uuid4 : UuidSource}
    (h : Claiming oauthIssuer principal applicationRef seen call) (hs : s.tables ∈ seen) :
    Claiming oauthIssuer principal applicationRef seen (act oauthIssuer s call uuid4).2 := by
  cases h with
  | arrived =>
      rw [Call.act]
      cases hadmin : requireAdmin principal with
      | error e =>
          refine .refused e fun h409 => ?_
          rw [requireAdmin] at hadmin
          split at hadmin
          · cases hadmin
          · cases hadmin
            cases h409
      | ok _ =>
          dsimp only
          split
          · exact .refused _ fun h409 => by cases h409
          · rename_i app hfind
            split
            · exact .claim app ⟨_, hs, hfind⟩
            · refine .claimed ⟨_, hs, hfind⟩ fun m hm => ⟨_, hs, ?_⟩
              exact (managerOf_eq_some_iff s.constraints).mpr
                ⟨app, (Tables.of_byIdOrSlug hfind).1, rfl, hm⟩
  | claim app found =>
      rw [Call.act]
      split
      · exact .manager app found
      · exact .refused _ fun h409 => by cases h409
  | manager app found => exact .claimed found fun m hm => ⟨_, hs, hm⟩
  | granted out found own held => exact .granted out found own held
  | refused e other => exact .refused e other

end Call

/-! ### Management changes hands -/

section

variable {states : ℕ → Config SqlAlchemyStore Call} {n : ℕ}

/-- A claim under way has seen only states since it arrived. -/
lemma claiming_trace (h : (managementRequests oauthIssuer).machine.Trace states n) {p i j : ℕ}
    {principal : Principal} {applicationRef : String} (hij : i ≤ j) (hj : j ≤ n)
    (harrived : (states i).processes[p]? = some (.claimManagement principal applicationRef)) :
    ∃ call, (states j).processes[p]? = some call ∧
      Call.Claiming oauthIssuer principal applicationRef
        {t | ∃ k, i ≤ k ∧ k ≤ j ∧ (states k).shared.tables = t} call := by
  refine h.from_moment (P := fun j c => ∃ call, c.processes[p]? = some call ∧
    Call.Claiming oauthIssuer principal applicationRef
      {t | ∃ k, i ≤ k ∧ k ≤ j ∧ (states k).shared.tables = t} call)
    ⟨_, harrived, .arrived⟩ (fun k e hik _ => ?_) hij hj
  rintro ⟨call, hcall, hclaiming⟩ hstep
  have hmono : {t | ∃ l, i ≤ l ∧ l ≤ k ∧ (states l).shared.tables = t} ⊆
      {t | ∃ l, i ≤ l ∧ l ≤ k + 1 ∧ (states l).shared.tables = t} := by
    rintro t ⟨l, hil, hlk, rfl⟩
    exact ⟨l, hil, by omega, rfl⟩
  rcases getElem?_step hstep hcall with hsame | ⟨uuid4, -, -, hnext⟩
  · exact ⟨call, hsame, hclaiming.mono hmono⟩
  · exact ⟨_, hnext, (hclaiming.act ⟨k, hik, le_rfl, rfl⟩).mono hmono⟩

/-- **Management changes hands** only through null and to one label at a time. A claim
that succeeds was the manager at some moment since it arrived; one that is refused with
409 names a manager it saw, or nobody, and never itself. -/
theorem management_changes_hands
    (h : (managementRequests oauthIssuer).machine.Trace states n) :
    (∀ applicationId i j a b, i ≤ j → j ≤ n →
      Call.managerOf (states i).shared.tables applicationId = some a →
      Call.managerOf (states j).shared.tables applicationId = some b → a ≠ b →
      ∃ k, i < k ∧ k < j ∧ Call.managerOf (states k).shared.tables applicationId = none) ∧
    (∀ applicationId i j, j ≤ n →
      (∀ k, i < k → k < j → Call.managerOf (states k).shared.tables applicationId ≠ none) →
      ∀ k l a b, i < k → k < j → i < l → l < j →
        Call.managerOf (states k).shared.tables applicationId = some a →
        Call.managerOf (states l).shared.tables applicationId = some b → a = b) ∧
    ∀ (p i j : ℕ) principal applicationRef, i ≤ j → j ≤ n →
      (states i).processes[p]? = some (.claimManagement principal applicationRef) →
      (∀ out, (states j).processes[p]? = some (.answered (.application out)) →
        out.managedBy = some (callerLabel oauthIssuer principal) ∧
        (∃ k, i ≤ k ∧ k ≤ j ∧ ∃ app, (states k).shared.tables.findApplication applicationRef =
          some app ∧ app.id = out.id) ∧
        ∃ k, i ≤ k ∧ k ≤ j ∧ Call.managerOf (states k).shared.tables out.id =
          some (callerLabel oauthIssuer principal)) ∧
      ∀ e, (states j).processes[p]? = some (.answered (.error e)) → e.statusCode = 409 →
        ∃ m, m ≠ callerLabel oauthIssuer principal ∧ e = managedExternally m 409 ∧
          (m = "" ∨ ∃ k, i ≤ k ∧ k ≤ j ∧ ∃ app l, i ≤ l ∧ l ≤ j ∧
            (states l).shared.tables.findApplication applicationRef = some app ∧
            Call.managerOf (states k).shared.tables app.id = some m) := by
  have hstep : ∀ applicationId (c : Config SqlAlchemyStore Call) e c' a b,
      (managementRequests oauthIssuer).machine.Reachable c →
      (managementRequests oauthIssuer).machine.step c e c' →
      Call.managerOf c.shared.tables applicationId = some a →
      Call.managerOf c'.shared.tables applicationId = some b → a = b :=
    fun applicationId _ _ _ _ _ _ hstep ha hb => Call.step_manager applicationId hstep ha hb
  refine ⟨fun applicationId i j a b hij hj ha hb hne => ?_, fun applicationId i j hj hheld => ?_, ?_⟩
  · exact h.null_between (fun c => Call.managerOf c.shared.tables applicationId)
      (hstep applicationId) hij hj ha hb hne
  · exact h.one_holder (fun c => Call.managerOf c.shared.tables applicationId)
      (hstep applicationId) hj hheld
  intro p i j principal applicationRef hij hj harrived
  obtain ⟨call, hcall, hclaiming⟩ := claiming_trace h hij hj harrived
  constructor
  · intro out hout
    obtain rfl := Option.some.inj (hcall.symm.trans hout)
    cases hclaiming with
    | granted _ found own held =>
        obtain ⟨_, ⟨k, hik, hkj, rfl⟩, app, hfind, hid⟩ := found
        obtain ⟨_, ⟨l, hil, hlj, rfl⟩, hheld⟩ := held
        exact ⟨own, ⟨k, hik, hkj, app, hfind, hid⟩, l, hil, hlj, hheld⟩
  · intro e he h409
    obtain rfl := Option.some.inj (hcall.symm.trans he)
    cases hclaiming with
    | refused _ other =>
        obtain ⟨m, hne, heq, hm⟩ := other h409
        refine ⟨m, hne, heq, hm.imp_right ?_⟩
        rintro ⟨_, ⟨k, hik, hkj, rfl⟩, app, _, ⟨l, hil, hlj, rfl⟩, hfind, hmanager⟩
        exact ⟨k, hik, hkj, app, l, hil, hlj, hfind, hmanager⟩

/-- Two admin keys. -/
def adminKey (id : Id) : Principal := .apiKey id ["admin"] none

/-- Two callers claim one application; both find it without a manager. -/
def rivalClaims : List (Event Call UuidSource) :=
  [.arrive (.claimManagement (adminKey "a") "crm"), .arrive (.claimManagement (adminKey "b") "crm"),
    .act 0 (SqlAlchemyStore.sampleIds 5), .act 1 (SqlAlchemyStore.sampleIds 5),
    .act 0 (SqlAlchemyStore.sampleIds 5), .act 1 (SqlAlchemyStore.sampleIds 5),
    .act 1 (SqlAlchemyStore.sampleIds 5), .act 0 (SqlAlchemyStore.sampleIds 5)]

/-- Nothing is under way over this store. -/
def idle (s : SqlAlchemyStore) : Config SqlAlchemyStore Call := ⟨s, []⟩

instance (s : SqlAlchemyStore) (call : Call) (uuid4 : UuidSource) :
    Decidable ((managementRequests oauthIssuer).admits s call uuid4) :=
  inferInstanceAs (Decidable (Fresh uuid4 s.tables (Draw.Within call.size)))

instance : DecidablePred (managementRequests oauthIssuer).arrives :=
  inferInstanceAs (DecidablePred Call.Arrives)

/-- The states of these claims over the store with the application `crm`. -/
def rivalStates (k : ℕ) : Config SqlAlchemyStore Call :=
  (managementRequests "").run (idle SqlAlchemyStore.acmeStore) (rivalClaims.take k)

/-- The one that is committed first succeeds, and was the manager. -/
theorem management_changes_hands_crm :
    ∃ out, (rivalStates 8).processes[0]? = some (.answered (.application out)) ∧
      ∃ k, 2 ≤ k ∧ k ≤ 8 ∧
        Call.managerOf (rivalStates k).shared.tables out.id = some "apikey:a" := by
  have htrace : (managementRequests "").machine.Trace rivalStates 8 :=
    trace_run ⟨SqlAlchemyStore.acmeStore_reachable, rfl⟩
      (show (managementRequests "").Runs (idle SqlAlchemyStore.acmeStore) rivalClaims by
        decide +kernel)
  have hanswer : (rivalStates 8).processes[0]? = some (.answered (.application
      ⟨SqlAlchemyStore.sampleIds 1 .application, "crm", "CRM", "active", some "apikey:a"⟩)) := by
    decide +kernel
  exact ⟨_, hanswer, (((management_changes_hands htrace).2.2 0 2 8 (adminKey "a") "crm" (by omega)
    le_rfl (by decide +kernel)).1 _ hanswer).2.2⟩

end

/-! ### Catalogs are written to the writer's applications -/

namespace Call

/-- The catalog passes `apply_application_catalog`'s own validation. -/
def CatalogIn.Valid (body : CatalogIn) : Prop :=
  catalogIssues body.permissions body.defaultRoles = []

/-- The session commits a catalog to an application that somebody else manages. -/
def WritesForeign (s : SqlAlchemyStore) (call : Call) (uuid4 : UuidSource) : Prop :=
  ∃ caller slug body s' result, call = .applyCatalog caller slug body ∧
    s.applyApplicationCatalog uuid4 slug body.name body.permissions body.defaultRoles
      (some caller) = .ok (s', result) ∧
    ∃ app ∈ s'.tables.applications, app.id = result.applicationId ∧
      ∃ m, app.managedBy = some m ∧ m ≠ caller

/-- No catalog request of another caller is between its guard and its write to the
application with this slug. -/
def NobodyElseWaits (c : Config SqlAlchemyStore Call) (slug caller : String) : Prop :=
  ∀ caller' body, .applyCatalog caller' slug body ∈ c.processes → CatalogIn.Valid body →
    caller' = caller

/-- The step gives no application to a caller while a catalog request of another caller
has passed its guard: neither by a claim nor by the catalog that creates it. -/
def Undisturbed (c : Config SqlAlchemyStore Call) : Event Call UuidSource → Prop
  | .arrive _ => True
  | .act i _ =>
      (∀ caller row, c.processes[i]? = some (.claim caller row) →
        ∀ app ∈ c.shared.tables.applications, app.id = row.id → app.managedBy = none →
          NobodyElseWaits c app.slug caller) ∧
      ∀ caller slug body, c.processes[i]? = some (.applyCatalog caller slug body) →
        CatalogIn.Valid body → (∀ app ∈ c.shared.tables.applications, app.slug ≠ slug) →
          NobodyElseWaits c slug caller

/-- A catalog request that has passed its guard may still write: its application has no
manager, or the caller manages it. -/
def MayWrite (s : SqlAlchemyStore) (call : Call) : Prop :=
  ∀ caller slug body, call = .applyCatalog caller slug body → CatalogIn.Valid body →
    ∀ app ∈ s.tables.applications, app.slug = slug →
      app.managedBy = none ∨ app.managedBy = some caller

/-- The guard lets a request pass that may write. -/
lemma act_mayWrite (s : SqlAlchemyStore) (call : Call) (uuid4 : UuidSource) :
    MayWrite (act oauthIssuer s call uuid4).1 (act oauthIssuer s call uuid4).2 := by
  intro caller slug body hnext _
  cases call with
  | putCatalog principal appSlug body' =>
      rw [act] at hnext ⊢
      split at hnext
      · cases hnext
      · simp only at hnext ⊢
        cases hfind : s.tables.findApplication appSlug with
        | none =>
            simp only [hfind] at hnext ⊢
            obtain ⟨-, rfl, -⟩ := Call.applyCatalog.inj hnext
            intro app happ hslug
            exact absurd hslug (Tables.slug_ne_of_byIdOrSlug hfind happ)
        | some found =>
            simp only [hfind] at hnext ⊢
            cases hcheck : ManagementGuard.check (callerLabel oauthIssuer principal) found with
            | error e =>
                simp only [hcheck] at hnext
                cases hnext
            | ok app' =>
                simp only [hcheck] at hnext ⊢
                obtain ⟨rfl, hmanager⟩ := ManagementGuard.check_eq_ok_iff.mp hcheck
                obtain ⟨rfl, rfl, -⟩ := Call.applyCatalog.inj hnext
                intro app happ hslug
                obtain rfl : app = app' := List.inj_on_of_nodup_map s.constraints.applicationSlug
                  happ (Tables.of_byIdOrSlug hfind).1 hslug
                exact hmanager
  | applyCatalog _ _ _ | claim _ _ =>
      rw [act] at hnext
      split at hnext <;> cases hnext
  | claimManagement principal applicationId =>
      rw [act] at hnext
      split at hnext
      · cases hnext
      · dsimp only at hnext
        split at hnext
        · cases hnext
        · split at hnext <;> cases hnext
  | manager _ _ => cases hnext
  | releaseManagement principal applicationId =>
      rw [act] at hnext
      split at hnext
      · cases hnext
      · split at hnext <;> cases hnext
  | release _ =>
      rw [act] at hnext
      split at hnext <;> cases hnext
  | answered _ => cases hnext

/-- An undisturbing step of another request leaves a request what it may write. -/
lemma mayWrite_undisturbed {c : Config SqlAlchemyStore Call} {i : ℕ} {uuid4 : UuidSource}
    {call waiting : Call} (hu : Undisturbed c (.act i uuid4)) (hcall : c.processes[i]? = some call)
    (hwaiting : waiting ∈ c.processes) (hmay : MayWrite c.shared waiting) :
    MayWrite (act oauthIssuer c.shared call uuid4).1 waiting := by
  rintro caller slug body rfl hvalid app' happ' hslug
  cases act_hands happ' with
  | kept app mem _ slug' managedBy =>
      rw [managedBy]
      exact hmay caller slug body rfl hvalid app mem (slug'.symm.trans hslug)
  | released app _ _ _ managedBy => exact Or.inl managedBy
  | claimed app mem _ slug' free claimer row hclaim hrow managedBy =>
      subst hclaim
      have hslug' : app.slug = slug := slug'.symm.trans hslug
      have hsame : caller = claimer :=
        hu.1 claimer row hcall app mem hrow.symm free caller body (hslug' ▸ hwaiting) hvalid
      exact Or.inr (hsame ▸ managedBy)
  | created writer slug' body' hwrite valid new _ hslug' managedBy =>
      subst hwrite
      obtain rfl : slug' = slug := hslug'.symm.trans hslug
      have hsame : caller = writer := hu.2 writer slug' body' hcall valid new caller body hwaiting
        hvalid
      exact Or.inr (hsame ▸ managedBy)

/-- A request that may write writes to nobody else's application. -/
lemma MayWrite.not_writesForeign {s : SqlAlchemyStore} {call : Call} {uuid4 : UuidSource}
    (h : MayWrite s call) : ¬WritesForeign s call uuid4 := by
  rintro ⟨caller, slug, body, s', result, rfl, hwrite, app, happ, hid, m, hm, hne⟩
  have htables := (SqlAlchemyStore.transaction_eq_ok_iff.mp hwrite).2
  by_cases hissues : catalogIssues body.permissions body.defaultRoles = []
  · rw [Tables.applyApplicationCatalog_eq hissues] at htables
    obtain ⟨ht, rfl⟩ := Prod.mk.inj (Except.ok.inj htables)
    have happlications : s'.tables.applications = (Tables.catalogApplication s.tables uuid4 slug
        body.name (some caller)).1 := by
      rw [← ht]
      rfl
    have hself : app.id = (Tables.catalogApplication s.tables uuid4 slug body.name
        (some caller)).2 := hid
    rcases Tables.catalogApplication_cases s.tables uuid4 slug body.name (some caller) with
      ⟨row, hrow, hslug, heq⟩ | ⟨-, heq⟩
    · have hmem : { row with name := body.name } ∈ s'.tables.applications := by
        rw [happlications, heq]
        exact mem_update.mpr (Or.inl ⟨rfl, row, hrow, rfl⟩)
      rw [heq] at hself
      obtain rfl : app = { row with name := body.name } :=
        List.inj_on_of_nodup_map s'.constraints.applicationId happ hmem hself
      rcases h caller slug body rfl hissues row hrow hslug with hnone | hown
      · rw [hnone] at hm
        cases hm
      · exact hne (Option.some.inj (hm.symm.trans hown))
    · have hmem : (⟨uuid4 .application, slug, body.name, statusActive, some caller⟩ : Application) ∈
          s'.tables.applications := by
        rw [happlications, heq]
        exact List.mem_append_right _ (List.mem_singleton_self _)
      rw [heq] at hself
      obtain rfl := List.inj_on_of_nodup_map s'.constraints.applicationId happ hmem hself
      exact hne (Option.some.inj hm).symm
  · rw [Tables.applyApplicationCatalog_error hissues] at htables
    cases htables

end Call

/-- **Catalogs are written to the writer's applications**, in every run in which nobody
becomes the manager of an application while a catalog request of another caller is
between its guard and its write. -/
theorem catalog_writes_own {c : Config SqlAlchemyStore Call}
    (h : ((managementRequests oauthIssuer).machine.restrict Call.Undisturbed).Reachable c)
    {call : Call} (hcall : call ∈ c.processes) (uuid4 : UuidSource) :
    ¬call.WritesForeign c.shared uuid4 := by
  refine Call.MayWrite.not_writesForeign ?_
  refine process_invariant (P := Call.MayWrite) ?_ ?_ ?_ h call hcall
  · rintro s p hp caller slug body rfl
    exact hp.elim
  · exact fun s p d _ _ => Call.act_mayWrite s p d
  · exact fun c i d p q _ hu hp hq _ _ hmay => Call.mayWrite_undisturbed hu hp hq hmay

/-- A catalog of one permission. -/
def crmCatalog : CatalogIn := ⟨"CRM", [⟨"deal.read", none, false⟩], []⟩

/-- A catalog request that is alone. -/
theorem catalog_writes_own_crm :
    ¬(Call.applyCatalog "apikey:a" "crm" crmCatalog).WritesForeign SqlAlchemyStore.acmeStore
      (SqlAlchemyStore.sampleIds 5) := by
  have harrived : ((managementRequests "").machine.restrict Call.Undisturbed).Reachable
      ⟨SqlAlchemyStore.acmeStore, [.putCatalog (adminKey "a") "crm" crmCatalog]⟩ :=
    .step (s := idle SqlAlchemyStore.acmeStore)
      (i := .arrive (.putCatalog (adminKey "a") "crm" crmCatalog))
      (.init ⟨SqlAlchemyStore.acmeStore_reachable, rfl⟩) ⟨⟨trivial, rfl⟩, trivial⟩
  have hfind : SqlAlchemyStore.acmeStore.tables.findApplication "crm" =
      some ⟨SqlAlchemyStore.sampleIds 1 .application, "crm", "CRM", "active", none⟩ := by
    decide +kernel
  have hguard : Call.act "" SqlAlchemyStore.acmeStore
      (.putCatalog (adminKey "a") "crm" crmCatalog) (SqlAlchemyStore.sampleIds 5) =
        (SqlAlchemyStore.acmeStore, .applyCatalog "apikey:a" "crm" crmCatalog) := by
    have hadmin : requireAdmin (adminKey "a") = .ok () := rfl
    rw [Call.act, hadmin]
    simp only [hfind]
    rfl
  have hpassed : ((managementRequests "").machine.restrict Call.Undisturbed).Reachable
      ⟨SqlAlchemyStore.acmeStore, [.applyCatalog "apikey:a" "crm" crmCatalog]⟩ := by
    have hundisturbed : Call.Undisturbed ⟨SqlAlchemyStore.acmeStore,
        [.putCatalog (adminKey "a") "crm" crmCatalog]⟩ (.act 0 (SqlAlchemyStore.sampleIds 5)) :=
      ⟨fun _ _ h => (by cases Option.some.inj h), fun _ _ _ h => (by cases Option.some.inj h)⟩
    refine .step (i := .act 0 (SqlAlchemyStore.sampleIds 5)) harrived
      ⟨⟨_, rfl, by decide +kernel, ?_⟩, hundisturbed⟩
    simp only [after, managementRequests, hguard, List.set_cons_zero]
  exact catalog_writes_own hpassed (List.mem_singleton_self _) _

/-- Two callers create one application: both guards find nothing, so that the second
write goes to the application of the first. -/
def rivalCatalogs : List (Event Call UuidSource) :=
  [.arrive (.putCatalog (adminKey "a") "erp" crmCatalog),
    .arrive (.putCatalog (adminKey "b") "erp" crmCatalog),
    .act 0 (SqlAlchemyStore.sampleIds 5), .act 1 (SqlAlchemyStore.sampleIds 5),
    .act 0 (SqlAlchemyStore.sampleIds 5)]

theorem catalog_write_foreign :
    ∃ c call uuid4, (managementRequests "").machine.Reachable c ∧ call ∈ c.processes ∧
      Fresh uuid4 c.shared.tables (Draw.Within call.size) ∧ call.WritesForeign c.shared uuid4 := by
  let c := (managementRequests "").run (idle SqlAlchemyStore.acmeStore) rivalCatalogs
  have hreach : (managementRequests "").machine.Reachable c :=
    (trace_run ⟨SqlAlchemyStore.acmeStore_reachable, rfl⟩
      (show (managementRequests "").Runs (idle SqlAlchemyStore.acmeStore) rivalCatalogs by
        decide +kernel)).reachable le_rfl
  have hmanager : (c.shared.applyApplicationCatalog (SqlAlchemyStore.sampleIds 6) "erp"
      crmCatalog.name crmCatalog.permissions crmCatalog.defaultRoles (some "apikey:b")).map
        (fun r => Call.managerOf r.1.tables r.2.applicationId) = .ok (some "apikey:a") := by
    decide +kernel
  refine ⟨c, .applyCatalog "apikey:b" "erp" crmCatalog, SqlAlchemyStore.sampleIds 6, hreach,
    by decide +kernel, by decide +kernel, ?_⟩
  cases hwrite : c.shared.applyApplicationCatalog (SqlAlchemyStore.sampleIds 6) "erp"
      crmCatalog.name crmCatalog.permissions crmCatalog.defaultRoles (some "apikey:b") with
  | error e =>
      rw [hwrite] at hmanager
      cases hmanager
  | ok r =>
      rw [hwrite] at hmanager
      obtain ⟨app, happ, hid, hm⟩ := (Call.managerOf_eq_some_iff r.1.constraints).mp
        (Except.ok.inj hmanager)
      exact ⟨_, _, _, r.1, r.2, rfl, hwrite, app, happ, hid, _, hm, by decide⟩

end AuthzKit
