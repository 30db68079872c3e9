import AuthzKit.Relational.Links

/-!
Redirecting a partner: in a table of links `(owner, other)`, what is linked to `o` is linked to
`d` instead, once.

* `redirect`: the table afterwards; `mem_redirect` says what it holds.
* `moved`: the partner that takes a partner's place; `others_redirect`.
* `redirect_replaceAll`: the diffs that give several owners a set of partners may run before or
  after, each with the partners its owner has then.
-/

namespace AuthzKit

namespace Links

variable {κ ι : Type*} [DecidableEq κ] [DecidableEq ι]

/-- The owners of `o` that lack `d` get it, then the links to `o` go. -/
def redirect (links : Multiset (κ × ι)) (o d : ι) : Multiset (κ × ι) :=
  let holders := ((links.filter fun p => p.2 = o).map Prod.fst).toFinset
  (links + (holders.filter fun x => (x, d) ∉ links).val.map fun x => (x, d)).filter fun p => p.2 ≠ o

/-- The partner that takes the place of `i`. -/
def moved (o d i : ι) : ι := if i = o then d else i

/-- The change that wants and believes the partners after the redirection. -/
def Change.redirect (o d : ι) (c : Change κ ι) : Change κ ι :=
  ⟨c.owner, c.ids.image (moved o d), c.current.image (moved o d)⟩

section Redirect

variable {links : Multiset (κ × ι)} {o d i : ι} {x : κ}

lemma moved_self : moved o d o = d := if_pos rfl

lemma moved_of_ne (h : i ≠ o) : moved o d i = i := if_neg h

lemma mem_image_moved {ids : Finset ι} (hne : d ≠ o) :
    i ∈ ids.image (moved o d) ↔ i ≠ o ∧ (i ∈ ids ∨ i = d ∧ o ∈ ids) := by
  rw [Finset.mem_image]
  constructor
  · rintro ⟨j, hj, rfl⟩
    by_cases hjo : j = o
    · rw [hjo, moved_self]
      exact ⟨hne, Or.inr ⟨rfl, hjo ▸ hj⟩⟩
    · rw [moved_of_ne hjo]
      exact ⟨hjo, Or.inl hj⟩
  · rintro ⟨hio, hi | ⟨rfl, ho⟩⟩
    · exact ⟨i, hi, moved_of_ne hio⟩
    · exact ⟨o, ho, moved_self⟩

lemma mem_holders : x ∈ ((links.filter fun p => p.2 = o).map Prod.fst).toFinset ↔ (x, o) ∈ links := by
  simp only [Multiset.mem_toFinset, Multiset.mem_map, Multiset.mem_filter]
  constructor
  · rintro ⟨⟨x', o'⟩, ⟨h, rfl⟩, rfl⟩
    exact h
  · exact fun h => ⟨(x, o), ⟨h, rfl⟩, rfl⟩

/-- What the table holds afterwards. -/
theorem mem_redirect :
    (x, i) ∈ redirect links o d ↔ i ≠ o ∧ ((x, i) ∈ links ∨ i = d ∧ (x, o) ∈ links) := by
  simp only [redirect, Multiset.mem_filter, Multiset.mem_add, Multiset.mem_map, Finset.mem_val,
    Finset.mem_filter, mem_holders, Prod.mk.injEq]
  rw [and_comm]
  refine and_congr_right fun _ => ?_
  constructor
  · rintro (h | ⟨y, ⟨hy, -⟩, rfl, rfl⟩)
    · exact Or.inl h
    · exact Or.inr ⟨rfl, hy⟩
  · rintro (h | ⟨rfl, h⟩)
    · exact Or.inl h
    · by_cases hd : (x, i) ∈ links
      · exact Or.inl hd
      · exact Or.inr ⟨x, ⟨h, hd⟩, rfl, rfl⟩

/-- No link is there twice afterwards. -/
theorem nodup_redirect (h : links.Nodup) : (redirect links o d).Nodup := by
  refine Multiset.Nodup.filter _ (Multiset.nodup_add.mpr ⟨h, ?_, ?_⟩)
  · exact (Finset.nodup _).map fun a b hab => (Prod.mk.inj hab).1
  · rw [Multiset.disjoint_left]
    intro p hp hp'
    obtain ⟨y, hy, rfl⟩ := Multiset.mem_map.mp hp'
    exact (Finset.mem_filter.mp (Finset.mem_val.mp hy)).2 hp

/-- A table without links to `o` stays as it is. -/
lemma redirect_of_not_held (h : ∀ x, (x, o) ∉ links) : redirect links o d = links := by
  have hnone : ((links.filter fun p => p.2 = o).map Prod.fst).toFinset = ∅ :=
    Finset.eq_empty_iff_forall_notMem.mpr fun x hx => h x (mem_holders.mp hx)
  rw [redirect, hnone]
  simp only [Finset.filter_empty, Finset.empty_val, Multiset.map_zero, add_zero]
  refine Multiset.filter_eq_self.mpr fun p hp ho => h p.1 ?_
  rw [← ho]
  exact hp

/-- The partners of an owner afterwards. -/
lemma others_redirect (hne : d ≠ o) :
    others (redirect links o d) x = (others links x).image (moved o d) := by
  ext i
  rw [mem_others, mem_redirect, mem_image_moved hne, mem_others, mem_others]

/-! ### Redirecting and diffs -/

omit [DecidableEq κ] in
lemma map_owner_redirect (cs : List (Change κ ι)) :
    (cs.map (Change.redirect o d)).map Change.owner = cs.map Change.owner := by
  rw [List.map_map]
  rfl

/-- Changes with right beliefs have right beliefs afterwards. -/
lemma current_redirect (hne : d ≠ o) {cs : List (Change κ ι)}
    (hcur : ∀ c ∈ cs, c.current = others links c.owner) :
    ∀ c ∈ cs.map (Change.redirect o d), c.current = others (redirect links o d) c.owner := by
  intro c hc
  obtain ⟨c₀, hc₀, rfl⟩ := List.mem_map.mp hc
  dsimp only [Change.redirect]
  rw [others_redirect hne, hcur c₀ hc₀]

/-- **Diffs may run before or after a redirection.** -/
theorem redirect_replaceAll (hne : d ≠ o) {cs : List (Change κ ι)} (hlinks : links.Nodup)
    (howners : (cs.map Change.owner).Nodup) (hcur : ∀ c ∈ cs, c.current = others links c.owner) :
    redirect (replaceAll links cs) o d =
      replaceAll (redirect links o d) (cs.map (Change.redirect o d)) := by
  have hcur' := current_redirect hne hcur
  have howners' : ((cs.map (Change.redirect o d)).map Change.owner).Nodup :=
    (map_owner_redirect cs).symm ▸ howners
  refine (Multiset.Nodup.ext (nodup_redirect (nodup_replaceAll howners hlinks hcur))
    (nodup_replaceAll howners' (nodup_redirect hlinks) hcur')).mpr fun ⟨x, i⟩ => ?_
  rw [mem_redirect]
  by_cases hx : ∃ c ∈ cs, c.owner = x
  · obtain ⟨c, hc, rfl⟩ := hx
    rw [mem_replaceAll howners hcur c hc, mem_replaceAll howners hcur c hc]
    have hwanted := mem_replaceAll howners' hcur' (c.redirect o d) (List.mem_map_of_mem hc) i
    rw [show c.owner = (c.redirect o d).owner from rfl, hwanted]
    exact (mem_image_moved hne).symm
  · have hother : ∀ c ∈ cs, x ≠ c.owner := fun c hc hxc => hx ⟨c, hc, hxc.symm⟩
    have hother' : ∀ c ∈ cs.map (Change.redirect o d), x ≠ c.owner := by
      intro c hc
      obtain ⟨c₀, hc₀, rfl⟩ := List.mem_map.mp hc
      exact hother c₀ hc₀
    rw [mem_replaceAll_of_forall_ne hother, mem_replaceAll_of_forall_ne hother,
      mem_replaceAll_of_forall_ne hother', mem_redirect]

/-- One diff before or after a redirection. -/
theorem redirect_replace (hne : d ≠ o) {ids current : Finset ι} (hlinks : links.Nodup)
    (hcur : current = others links x) :
    redirect (replace links x ids current) o d =
      replace (redirect links o d) x (ids.image (moved o d)) (current.image (moved o d)) := by
  have howners : ([(⟨x, ids, current⟩ : Change κ ι)].map Change.owner).Nodup :=
    List.nodup_singleton x
  have hbelief : ∀ c ∈ [(⟨x, ids, current⟩ : Change κ ι)], c.current = others links c.owner :=
    fun _ hc => List.mem_singleton.mp hc ▸ hcur
  have hdiff := redirect_replaceAll hne hlinks howners hbelief
  exact hdiff

end Redirect

/-! ### Dropping an owner -/

section Drop

variable {links : Multiset (κ × ι)} {o : κ}

/-- Diffs of other owners may run before or after an owner's links go. -/
lemma filter_replaceAll {cs : List (Change κ ι)} (h : ∀ c ∈ cs, c.owner ≠ o) :
    (replaceAll links cs).filter (fun p => p.1 ≠ o) =
      replaceAll (links.filter fun p => p.1 ≠ o) cs := by
  induction cs generalizing links with
  | nil => rfl
  | cons c cs ih =>
      rw [replaceAll_cons, replaceAll_cons, ih fun c' hc' => h c' (List.mem_cons_of_mem c hc')]
      congr 1
      have howner := h c List.mem_cons_self
      rw [replace, replace]
      split
      · rfl
      · rw [Multiset.filter_add, Multiset.filter_filter, Multiset.filter_filter]
        congr 1
        · exact Multiset.filter_congr fun p _ => and_comm
        · refine Multiset.filter_eq_self.mpr fun p hp => ?_
          obtain ⟨i, -, rfl⟩ := Multiset.mem_map.mp hp
          exact howner

/-- The diff of an owner without links leaves only that owner's behind. -/
lemma filter_replace_self (h : ∀ i, (o, i) ∉ links) {ids : Finset ι} :
    (replace links o ids ∅).filter (fun p => p.1 ≠ o) = links := by
  have hkept : links.filter (fun p => p.1 ≠ o) = links :=
    Multiset.filter_eq_self.mpr fun p hp ho => h p.2 (ho ▸ hp)
  rw [replace]
  split
  · exact hkept
  · simp only [Finset.empty_sdiff, Finset.notMem_empty, and_false, not_false_eq_true,
      Multiset.filter_true, Finset.sdiff_empty, Multiset.filter_add, hkept]
    refine add_eq_left.mpr (Multiset.filter_eq_nil.mpr fun p hp hne => ?_)
    obtain ⟨i, -, rfl⟩ := Multiset.mem_map.mp hp
    exact hne rfl

end Drop

end Links

end AuthzKit
