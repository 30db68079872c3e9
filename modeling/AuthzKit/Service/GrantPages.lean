import AuthzKit.Paging.Pages
import AuthzKit.Service.Management
import AuthzKit.Service.Runtime

/-!
`GET /v1/delegations` (`authz_service/api/delegations.py`) over `DelegationService.list`:
the grants that match a filter, page after page, the newest first.

The database puts the rows of each query in some order that respects its `ORDER BY`,
which is `created_at` alone; `OrderBy` is what it promises.

* `listDelegations`: one page.
* `GrantQuery.ListsOnce`: the pages up to the first empty one have every matching grant
  once.
* `GrantQuery.listsOnce_iff`: this holds for every such database just when a second
  ends wherever a page does.
-/

namespace AuthzKit

open Keyed Delegations

/-! ### Parameters -/

/-- `paginate_params`: the offset and the limit. -/
def paginateParams (page pageSize : ℤ) : ℤ × ℤ :=
  let page := max 1 page
  let pageSize := max 1 (min 500 pageSize)
  ((page - 1) * pageSize, pageSize)

/-- The parameters of `list_delegations`. -/
structure GrantQuery where
  tenantId : Option String
  userId : Option Id
  userProvider : Option String
  userIssuer : Option String
  userSubject : Option String
  applicationId : Option String
  agentId : Option Id
  agentName : Option String
  activeOnly : Bool
  page : ℤ
  pageSize : ℤ

/-- The ids that `list_delegations` passes on. -/
structure GrantFilter where
  tenantId : Option Id
  userId : Option Id
  agentId : Option Id
deriving DecidableEq, Repr

def invalidUserRef : HttpException :=
  ⟨422, [("error", "invalid_user_ref"),
    ("hint", "user_id or all of user_provider, user_issuer, user_subject")]⟩

def invalidAgentRef : HttpException :=
  ⟨422, [("error", "invalid_agent_ref"),
    ("hint", "agent_name needs tenant_id and application_id, and excludes agent_id")]⟩

/-- `require_tenant`. -/
def requireTenant (t : Tables) (ref : String) : Except HttpException Tenant :=
  match t.findTenant ref with
  | none => .error tenantNotFound
  | some tenant => .ok tenant

namespace GrantQuery

variable (q : GrantQuery)

/-- The user of a query by its identity. The schema refuses an empty column where no
handler expects it to. -/
def userRef : Except HttpException (Option UserRefSchema) :=
  if q.userProvider = none ∧ q.userIssuer = none ∧ q.userSubject = none then .ok none
  else
    match q.userId, q.userProvider, q.userIssuer, q.userSubject with
    | none, some provider, some issuer, some subject =>
        if h : provider ≠ "" ∧ issuer ≠ "" ∧ subject ≠ "" then
          .ok (some ⟨provider, issuer, subject, h.1, h.2.1, h.2.2⟩)
        else .error Service.internalServerError
    | _, _, _, _ => .error invalidUserRef

/-- The agent of a query by its name, with the reference of its application. -/
def agentRef : Except HttpException (Option (String × String)) :=
  match q.agentName with
  | none => .ok none
  | some name =>
      match q.agentId, q.tenantId, q.applicationId with
      | none, some _, some application => .ok (some (application, name))
      | _, _, _ => .error invalidAgentRef

/-- The filter of a query; there is none when a reference matches nobody. -/
def filter (t : Tables) : Except HttpException (Option GrantFilter) := do
  let userRef ← q.userRef
  let agentRef ← q.agentRef
  let tenant ← match q.tenantId.filter fun ref => ref ≠ "" with
    | none => pure none
    | some ref => some <$> requireTenant t ref
  let userId : Option (Option Id) := match userRef with
    | none => some q.userId
    | some ref => (t.findUserByExternalIdentity ref.toRef).map fun user => some user.id
  let agentId : Option (Option Id) := match agentRef with
    | none => some q.agentId
    | some (ref, name) => do
        let app ← t.findApplication ref
        let tenant ← tenant
        let agent ← t.findAgentByName tenant.id app.id name
        pure (some agent.id)
  pure do
    let userId ← userId
    let agentId ← agentId
    pure ⟨tenant.map Tenant.id, userId, agentId⟩

end GrantQuery

/-! ### Queries -/

/-- `ORDER BY created_at DESC`. The column is not null; here a null would come last. -/
def NewestFirst (g g' : DelegationGrant) : Prop :=
  ∀ created' ∈ g'.createdAt, ∃ created ∈ g.createdAt, created' ≤ created

instance : DecidableRel NewestFirst := fun g g' =>
  inferInstanceAs (Decidable (∀ created' ∈ g'.createdAt, ∃ created ∈ g.createdAt,
    created' ≤ created))

instance : Std.Total NewestFirst where
  total g g' := by
    rw [NewestFirst, NewestFirst]
    cases g.createdAt <;> cases g'.createdAt <;> simp [le_total]

instance : IsTrans DelegationGrant NewestFirst where
  trans _ _ _ h h' := fun created'' hcreated'' => by
    obtain ⟨created', hcreated', hle'⟩ := h' created'' hcreated''
    obtain ⟨created, hcreated, hle⟩ := h created' hcreated'
    exact ⟨created, hcreated, hle'.trans hle⟩

/-- What a database promises of its order. -/
def OrderBy (order : List DelegationGrant → List DelegationGrant) : Prop :=
  ∀ rows, Paging.Answers NewestFirst rows (order rows)

namespace DelegationService

/-- The rows `list` selects. -/
def listed (t : Tables) (now : DateTime) (tenantId userId agentId : Option Id)
    (activeOnly : Bool) : List DelegationGrant :=
  let given := fun id : Option Id => id.filter fun i => i ≠ ""
  t.delegationGrants.filter fun g =>
    (∀ i ∈ given tenantId, g.tenantId = i) ∧ (∀ u ∈ given userId, g.userId = u) ∧
      (∀ a ∈ given agentId, g.agentId = a) ∧
      (activeOnly = true → g.status = "active" ∧ now < g.expiresAt)

/-- `list`. -/
def list (t : Tables) (now : DateTime) (order : List DelegationGrant → List DelegationGrant)
    (tenantId userId agentId : Option Id) (activeOnly : Bool) (offset limit : ℤ) : List Grant :=
  (((order (listed t now tenantId userId agentId activeOnly)).drop offset.toNat).take
    limit.toNat).map toGrant

end DelegationService

/-- `GET /v1/delegations`. -/
def listDelegations (t : Tables) (now : DateTime)
    (order : List DelegationGrant → List DelegationGrant) (principal : Principal)
    (q : GrantQuery) : Except HttpException (List DelegationOut) := do
  requireAdmin principal
  match ← q.filter t with
  | none => pure []
  | some f =>
      let (offset, limit) := paginateParams q.page q.pageSize
      pure ((DelegationService.list t now order f.tenantId f.userId f.agentId q.activeOnly
        offset limit).map (delegationOut now))

/-! ### Paging -/

namespace GrantQuery

variable (q : GrantQuery)

/-- The same query for another page. -/
def atPage (page : ℤ) : GrantQuery := { q with page := page }

/-- The rows of a page. -/
def size : ℕ := (paginateParams q.page q.pageSize).2.toNat

/-- The grants a query matches. -/
def matching (t : Tables) (now : DateTime) : List DelegationGrant :=
  match q.filter t with
  | .ok (some f) => DelegationService.listed t now f.tenantId f.userId f.agentId q.activeOnly
  | _ => []

/-- **Paging loses and repeats nothing**: the pages 1, 2, ... up to the first empty one
have every matching grant once. -/
def ListsOnce (t : Tables) (principal : Principal)
    (order : ℕ → List DelegationGrant → List DelegationGrant) (now : ℕ → DateTime) : Prop :=
  ∃ outs : ℕ → List DelegationOut,
    (∀ k : ℕ, listDelegations t (now k) (order k) principal (q.atPage (k + 1)) = .ok (outs k)) ∧
    (∀ k, ∀ out ∈ outs k, ∃ g ∈ q.matching t (now 0), out = delegationOut (now k) (toGrant g)) ∧
    ∃ n, (∀ k < n, outs k ≠ []) ∧ outs n = [] ∧
      (((List.range n).flatMap outs).map DelegationOut.id).Perm
        ((q.matching t (now 0)).map DelegationGrant.id)

variable {q}

lemma size_pos : 0 < q.size := by
  simp only [size, paginateParams]
  omega

/-- One page of a query that is accepted. -/
lemma listDelegations_eq {t : Tables} {now : DateTime}
    {order : List DelegationGrant → List DelegationGrant} {principal : Principal}
    {f : Option GrantFilter} (horder : OrderBy order) (hadmin : requireAdmin principal = .ok ())
    (hq : q.filter t = .ok f) (k : ℕ) :
    listDelegations t now order principal (q.atPage (k + 1)) =
      .ok ((Paging.page (order (q.matching t now)) q.size k).map fun g =>
        delegationOut now (toGrant g)) := by
  have hfilter : (q.atPage (k + 1)).filter t = .ok f := hq
  simp only [listDelegations, hadmin, hfilter, matching, hq, bind, Except.bind]
  cases f with
  | none =>
      have hnil : order [] = [] := List.perm_nil.mp (horder []).perm
      simp [hnil, Paging.page, pure, Except.pure]
  | some f =>
      have hpage : (((max 1 ((k : ℤ) + 1) - 1) * max 1 (min 500 q.pageSize)).toNat) =
          k * (max 1 (min 500 q.pageSize)).toNat := by
        rw [max_eq_right (by omega), add_sub_cancel_right, Int.toNat_mul (by omega) (by omega),
          Int.toNat_natCast]
      simp only [pure, Except.pure, Except.ok.injEq, atPage, paginateParams, size,
        DelegationService.list, Paging.page, List.map_map, hpage]
      rfl

lemma nodup_matching_id {t : Tables} (hc : t.Constraints) (now : DateTime) :
    ((q.matching t now).map DelegationGrant.id).Nodup := by
  rw [matching]
  split
  · exact hc.grantId.sublist (List.filter_sublist.map _)
  · exact List.nodup_nil

/-- There is a first empty page. -/
lemma exists_first_empty (q : GrantQuery) (length : ℕ) :
    ∃ n, length ≤ n * q.size ∧ ∀ k < n, k * q.size < length := by
  have hsome : ∃ n, length ≤ n * q.size := ⟨length, Nat.le_mul_of_pos_right _ size_pos⟩
  exact ⟨Nat.find hsome, Nat.find_spec hsome, fun k hk => not_le.mp (Nat.find_min hsome hk)⟩

/-- **The pages of a query by its answers**: they have every grant once as far as the
answers do. -/
lemma listsOnce_iff_pages {t : Tables} (hc : t.Constraints) {principal : Principal}
    {f : Option GrantFilter} (hadmin : requireAdmin principal = .ok ())
    (hq : q.filter t = .ok f) {now : ℕ → DateTime}
    (hunchanged : ∀ k, q.matching t (now k) = q.matching t (now 0))
    {order : ℕ → List DelegationGrant → List DelegationGrant} (horder : ∀ k, OrderBy (order k))
    {n : ℕ} (hn : (q.matching t (now 0)).length ≤ n * q.size)
    (hfirst : ∀ k < n, k * q.size < (q.matching t (now 0)).length) :
    q.ListsOnce t principal order now ↔
      (Paging.pages (fun k => order k (q.matching t (now 0))) q.size n).Perm
        (q.matching t (now 0)) := by
  let page : ℕ → List DelegationGrant := fun k =>
    Paging.page (order k (q.matching t (now 0))) q.size k
  have hpage : ∀ k, ∀ g ∈ page k, g ∈ q.matching t (now 0) := fun k g hg =>
    (horder k _).perm.subset (List.mem_of_mem_drop (List.mem_of_mem_take hg))
  have hempty : ∀ k, page k = [] ↔ (q.matching t (now 0)).length ≤ k * q.size := fun k => by
    rw [Paging.page_eq_nil_iff size_pos, (horder k _).perm.length_eq]
  have houts : ∀ k : ℕ, listDelegations t (now k) (order k) principal (q.atPage (k + 1)) =
      .ok ((page k).map fun g => delegationOut (now k) (toGrant g)) := fun k => by
    rw [listDelegations_eq (horder k) hadmin hq, hunchanged k]
  have hids : ((List.range n).flatMap fun k =>
      (page k).map fun g => delegationOut (now k) (toGrant g)).map DelegationOut.id =
        (Paging.pages (fun k => order k (q.matching t (now 0))) q.size n).map DelegationGrant.id := by
    simp only [Paging.pages, List.map_flatMap, List.map_map]
    rfl
  constructor
  · rintro ⟨outs, hlisted, -, n', hbefore, hend, hperm⟩
    obtain rfl : outs = fun k => (page k).map fun g => delegationOut (now k) (toGrant g) :=
      funext fun k => Except.ok.inj ((hlisted k).symm.trans (houts k))
    have hn' := (hempty n').mp (List.map_eq_nil_iff.mp hend)
    -- both end at the first empty page
    obtain rfl : n = n' := by
      refine le_antisymm (not_lt.mp fun hlt => ?_) (not_lt.mp fun hlt => ?_)
      · exact absurd (hfirst n' hlt) (not_lt.mpr hn')
      · exact hbefore n hlt (List.map_eq_nil_iff.mpr ((hempty n).mpr hn))
    rw [hids] at hperm
    have hnodup := hperm.nodup_iff.mpr (nodup_matching_id hc (now 0))
    refine (List.subperm_of_subset hnodup.of_map fun g hg => ?_).perm_of_length_le ?_
    · obtain ⟨k, -, hk⟩ := List.mem_flatMap.mp hg
      exact hpage k g hk
    · simpa using hperm.length_eq.ge
  · intro hperm
    refine ⟨_, houts, fun k out hout => ?_, n, fun k hk => ?_, ?_, ?_⟩
    · obtain ⟨g, hg, rfl⟩ := List.mem_map.mp hout
      exact ⟨g, hpage k g hg, rfl⟩
    · rw [ne_eq, List.map_eq_nil_iff, hempty]
      exact not_le.mpr (hfirst k hk)
    · rw [List.map_eq_nil_iff, hempty]
      exact hn
    · rw [hids]
      exact hperm.map _

/-- **When paging loses and repeats nothing**: for every database that keeps to the `ORDER
BY` of each query, just when no second is on both sides of the end of a page. -/
theorem listsOnce_iff (s : SqlAlchemyStore) {principal : Principal} {q : GrantQuery}
    {f : Option GrantFilter} (hadmin : requireAdmin principal = .ok ())
    (hq : q.filter s.tables = .ok f) {now : ℕ → DateTime}
    (hunchanged : ∀ k, q.matching s.tables (now k) = q.matching s.tables (now 0)) :
    (∀ order : ℕ → List DelegationGrant → List DelegationGrant, (∀ k, OrderBy (order k)) →
        q.ListsOnce s.tables principal order now) ↔
      ∀ k, 0 < k → k * q.size < (q.matching s.tables (now 0)).length →
        Paging.Cut NewestFirst (q.matching s.tables (now 0)) (k * q.size) := by
  obtain ⟨n, hn, hfirst⟩ := q.exists_first_empty (q.matching s.tables (now 0)).length
  have hnodup : (q.matching s.tables (now 0)).Nodup :=
    (nodup_matching_id s.constraints (now 0)).of_map
  rw [← Paging.pages_perm_iff hnodup size_pos hn]
  constructor
  · intro hlists rows hrows
    let order : ℕ → List DelegationGrant → List DelegationGrant := fun k all =>
      if all = q.matching s.tables (now 0) then rows k else all.insertionSort NewestFirst
    have horder : ∀ k, OrderBy (order k) := fun k all => by
      dsimp only [order]
      split_ifs with hall
      · exact hall ▸ hrows k
      · exact ⟨List.perm_insertionSort _ _, List.pairwise_insertionSort _ _⟩
    have hpages := (listsOnce_iff_pages s.constraints hadmin hq hunchanged horder hn hfirst).mp
      (hlists order horder)
    simpa only [order, if_pos] using hpages
  · intro hpages order horder
    exact (listsOnce_iff_pages s.constraints hadmin hq hunchanged horder hn hfirst).mpr
      (hpages _ fun k => horder k _)

/-- A store with a second grant of the same second. -/
def twinStore : SqlAlchemyStore :=
  SqlAlchemyStore.acmeStore.next
    (.issueGrant (SqlAlchemyStore.sampleIds 0 .row) (SqlAlchemyStore.sampleIds 1 .application)
      (SqlAlchemyStore.sampleIds 3 (.user 0)) (SqlAlchemyStore.sampleIds 3 (.agent 0)) ∅ 100 0
      none none) (SqlAlchemyStore.sampleIds 5)

/-- All grants, one a page. -/
def oneByOne : GrantQuery :=
  ⟨none, none, none, none, none, none, none, none, false, 1, 1⟩

/-- A caller of the admin surface. -/
def operator : Principal := .apiKey "operator" [scopeAdmin] none

/-- A database that turns ties around from one query to the next. -/
def turning (k : ℕ) (rows : List DelegationGrant) : List DelegationGrant :=
  (if k % 2 = 0 then rows else rows.reverse).insertionSort NewestFirst

lemma orderBy_turning (k : ℕ) : OrderBy (turning k) := fun rows => by
  rw [turning]
  refine ⟨(List.perm_insertionSort _ _).trans ?_, List.pairwise_insertionSort _ _⟩
  split_ifs
  · exact List.Perm.refl _
  · exact List.reverse_perm _

/-- The equivalence for that store. -/
theorem listsOnce_iff_twins :
    (∀ order : ℕ → List DelegationGrant → List DelegationGrant, (∀ k, OrderBy (order k)) →
        oneByOne.ListsOnce twinStore.tables operator order fun _ => 10) ↔
      ∀ k, 0 < k → k * oneByOne.size < (oneByOne.matching twinStore.tables 10).length →
        Paging.Cut NewestFirst (oneByOne.matching twinStore.tables 10) (k * oneByOne.size) :=
  listsOnce_iff twinStore rfl (f := some ⟨none, none, none⟩) rfl (fun _ => rfl)

/-- Two grants of one second: the second page has the first one again. -/
theorem turning_repeats :
    (∀ k, OrderBy (turning k)) ∧
      (oneByOne.matching twinStore.tables 10).length = 2 ∧
      ¬oneByOne.ListsOnce twinStore.tables operator turning fun _ => 10 := by
  have hlength : (oneByOne.matching twinStore.tables 10).length = 2 := by decide +kernel
  have hsize : oneByOne.size = 1 := by decide
  refine ⟨orderBy_turning, hlength, fun h => ?_⟩
  have hpages := (listsOnce_iff_pages twinStore.constraints rfl (f := some ⟨none, none, none⟩) rfl
    (fun _ => rfl) orderBy_turning (n := 2) (by rw [hlength, hsize])
    (fun k hk => by rw [hlength, hsize]; omega)).mp h
  have hrepeated : ¬(Paging.pages (fun k => turning k (oneByOne.matching twinStore.tables 10))
      oneByOne.size 2).Perm (oneByOne.matching twinStore.tables 10) := by
    decide +kernel
  exact hrepeated hpages

end GrantQuery

end AuthzKit
