import Mathlib.Data.Finset.Basic
import Mathlib.Data.Multiset.Dedup
import Mathlib.Data.Finset.Dedup
import Mathlib.Tactic

/-!
Two-column link tables: bags of pairs `(owner, other)` whose primary key is the
pair, so that a table without repeated rows is a relation.

* `others`: the partners of one owner.
* `replace`: the diff that makes the partners of an owner a given set, starting
  from the set they are believed to be. When that belief is right the result is
  exactly the given set (`mem_replace`) and no row repeats (`nodup_replace`);
  whatever the belief, the links of other owners stay (`mem_replace_of_ne`).
* `replaceAll`: several owners, one after the other. With distinct owners and
  right beliefs, `mem_replaceAll`.
* An owner named several times, each time with the partners it had before the first
  change: a partner it had stays if every change wants it
  (`count_replaceAll_of_mem`), and any other one is inserted once for each change
  that wants it (`count_replaceAll_of_notMem`).
-/

namespace AuthzKit

namespace Links

variable {κ ι : Type*} [DecidableEq κ] [DecidableEq ι]

/-- The partners of the owner `o`. -/
def others (links : Multiset (κ × ι)) (o : κ) : Finset ι :=
  ((links.filter fun p => p.1 = o).map Prod.snd).toFinset

@[simp] lemma mem_others {links : Multiset (κ × ι)} {o : κ} {i : ι} :
    i ∈ others links o ↔ (o, i) ∈ links := by
  simp only [others, Multiset.mem_toFinset, Multiset.mem_map, Multiset.mem_filter]
  constructor
  · rintro ⟨⟨o', i'⟩, ⟨h, rfl⟩, rfl⟩
    exact h
  · exact fun h => ⟨(o, i), ⟨h, rfl⟩, rfl⟩

/-- The rows of one owner: one for each of its partners. -/
lemma filter_owner {links : Multiset (κ × ι)} (h : links.Nodup) (o : κ) :
    (links.filter fun p => p.1 = o) = (others links o).val.map (o, ·) := by
  have hnodup : ((others links o).val.map (o, ·)).Nodup :=
    (others links o).nodup.map fun a b hab => (Prod.mk.inj hab).2
  refine (Multiset.Nodup.ext (h.filter _) hnodup).mpr ?_
  rintro ⟨o', i⟩
  simp only [Multiset.mem_filter, Multiset.mem_map, Finset.mem_val, mem_others, Prod.mk.injEq]
  constructor
  · rintro ⟨hp, rfl⟩
    exact ⟨i, hp, rfl, rfl⟩
  · rintro ⟨j, hp, rfl, rfl⟩
    exact ⟨hp, rfl⟩

/-- Two tables that agree on the links of an owner give it the same partners. -/
lemma others_congr {links links' : Multiset (κ × ι)} {o : κ}
    (h : ∀ i, (o, i) ∈ links ↔ (o, i) ∈ links') : others links o = others links' o := by
  ext i
  rw [mem_others, mem_others, h i]

/-- The diff from `current` to `ids`: delete what is no longer wanted, insert what
is missing. -/
def replace (links : Multiset (κ × ι)) (o : κ) (ids current : Finset ι) : Multiset (κ × ι) :=
  if current = ids then links
  else (links.filter fun p => ¬(p.1 = o ∧ p.2 ∈ current \ ids)) + (ids \ current).val.map (o, ·)

/-- A link after the diff was there before or is one of the wanted ones. -/
lemma mem_of_mem_replace {links : Multiset (κ × ι)} {o : κ} {ids current : Finset ι} {p : κ × ι}
    (h : p ∈ replace links o ids current) : p ∈ links ∨ (p.1 = o ∧ p.2 ∈ ids) := by
  rw [replace] at h
  split at h
  · exact Or.inl h
  · rcases Multiset.mem_add.mp h with h | h
    · exact Or.inl (Multiset.mem_of_mem_filter h)
    · obtain ⟨i, hi, rfl⟩ := Multiset.mem_map.mp h
      exact Or.inr ⟨rfl, (Finset.mem_sdiff.mp hi).1⟩

/-- The diff leaves the links of every other owner. -/
lemma mem_replace_of_ne {links : Multiset (κ × ι)} {o o' : κ} {ids current : Finset ι} {i : ι}
    (h : o' ≠ o) : (o', i) ∈ replace links o ids current ↔ (o', i) ∈ links := by
  rw [replace]
  split
  · rfl
  · simp [h, h.symm]

/-- With the right `current` the diff makes the partners of the owner `ids`. -/
theorem mem_replace {links : Multiset (κ × ι)} {o : κ} {ids current : Finset ι}
    (hcur : current = others links o) {i : ι} :
    (o, i) ∈ replace links o ids current ↔ i ∈ ids := by
  subst hcur
  rw [replace]
  split
  · rename_i h
    rw [← h, mem_others]
  · simp only [Multiset.mem_add, Multiset.mem_filter, true_and, Finset.mem_sdiff, mem_others,
      Multiset.mem_map, Finset.mem_val, Prod.mk.injEq, exists_eq_right]
    tauto

/-- The partners that the diff leaves. -/
lemma others_replace {links : Multiset (κ × ι)} {o : κ} {ids : Finset ι} :
    others (replace links o ids (others links o)) o = ids := by
  ext i
  rw [mem_others, mem_replace rfl]

/-- With the right `current` the diff inserts no row twice. -/
theorem nodup_replace {links : Multiset (κ × ι)} {o : κ} {ids current : Finset ι}
    (h : links.Nodup) (hcur : current = others links o) :
    (replace links o ids current).Nodup := by
  subst hcur
  rw [replace]
  split
  · exact h
  · refine Multiset.nodup_add.mpr ⟨h.filter _, ?_, ?_⟩
    · exact (ids \ others links o).nodup.map fun a b hab => (Prod.mk.inj hab).2
    · rw [Multiset.disjoint_left]
      intro p hp hp'
      obtain ⟨i, hi, rfl⟩ := Multiset.mem_map.mp hp'
      have hi' := (Finset.mem_sdiff.mp hi).2
      exact hi' (mem_others.mpr (Multiset.mem_of_mem_filter hp))

lemma replace_self (links : Multiset (κ × ι)) (o : κ) (ids : Finset ι) :
    replace links o ids ids = links := if_pos rfl

/-! ### Several owners -/

/-- One requested change: an owner, the partners it shall have and those it is
believed to have. -/
structure Change (κ ι : Type*) where
  owner : κ
  ids : Finset ι
  current : Finset ι

/-- The changes applied one after the other. -/
def replaceAll (links : Multiset (κ × ι)) (cs : List (Change κ ι)) : Multiset (κ × ι) :=
  cs.foldl (fun l c => replace l c.owner c.ids c.current) links

@[simp] lemma replaceAll_nil (links : Multiset (κ × ι)) : replaceAll links [] = links := rfl

@[simp] lemma replaceAll_cons (links : Multiset (κ × ι)) (c : Change κ ι) (cs : List (Change κ ι)) :
    replaceAll links (c :: cs) = replaceAll (replace links c.owner c.ids c.current) cs := rfl

/-- A link after all changes was there before or some change wants it. -/
lemma mem_of_mem_replaceAll {cs : List (Change κ ι)} : ∀ {links : Multiset (κ × ι)} {p : κ × ι},
    p ∈ replaceAll links cs → p ∈ links ∨ ∃ c ∈ cs, p.1 = c.owner ∧ p.2 ∈ c.ids := by
  induction cs with
  | nil => intro links p h; exact Or.inl h
  | cons c cs ih =>
      intro links p h
      rcases ih h with h | ⟨c', hc', h⟩
      · rcases mem_of_mem_replace h with h | h
        · exact Or.inl h
        · exact Or.inr ⟨c, by simp, h⟩
      · exact Or.inr ⟨c', by simp [hc'], h⟩

/-- An owner no change names keeps its links. -/
lemma mem_replaceAll_of_forall_ne {cs : List (Change κ ι)} : ∀ {links : Multiset (κ × ι)} {o : κ}
    {i : ι}, (∀ c ∈ cs, o ≠ c.owner) → ((o, i) ∈ replaceAll links cs ↔ (o, i) ∈ links) := by
  induction cs with
  | nil => intro links o i _; rfl
  | cons c cs ih =>
      intro links o i h
      rw [replaceAll_cons, ih fun c' hc' => h c' (by simp [hc']),
        mem_replace_of_ne (h c (by simp))]

/-- Distinct owners with right beliefs end with exactly the wanted partners. -/
theorem mem_replaceAll {cs : List (Change κ ι)} (hcs : (cs.map Change.owner).Nodup) :
    ∀ {links : Multiset (κ × ι)}, (∀ c ∈ cs, c.current = others links c.owner) →
      ∀ c ∈ cs, ∀ i, (c.owner, i) ∈ replaceAll links cs ↔ i ∈ c.ids := by
  induction cs with
  | nil => intro links _ c hc; simp at hc
  | cons c cs ih =>
      intro links hcur c' hc' i
      rw [List.map_cons, List.nodup_cons] at hcs
      have hne : ∀ d ∈ cs, d.owner ≠ c.owner := fun d hd he =>
        hcs.1 (he ▸ List.mem_map_of_mem hd)
      rcases List.mem_cons.mp hc' with rfl | hmem
      · rw [replaceAll_cons, mem_replaceAll_of_forall_ne fun d hd => (hne d hd).symm,
          mem_replace (hcur c' (by simp))]
      · refine ih hcs.2 (fun d hd => ?_) c' hmem i
        rw [hcur d (by simp [hd])]
        exact others_congr fun j => (mem_replace_of_ne (hne d hd)).symm

/-- Distinct owners with right beliefs: no row is inserted twice. -/
theorem nodup_replaceAll {cs : List (Change κ ι)} (hcs : (cs.map Change.owner).Nodup) :
    ∀ {links : Multiset (κ × ι)}, links.Nodup → (∀ c ∈ cs, c.current = others links c.owner) →
      (replaceAll links cs).Nodup := by
  induction cs with
  | nil => exact fun h _ => h
  | cons c cs ih =>
      intro links h hcur
      rw [List.map_cons, List.nodup_cons] at hcs
      refine ih hcs.2 (nodup_replace h (hcur c (by simp))) fun d hd => ?_
      have hne : d.owner ≠ c.owner := fun he => hcs.1 (he ▸ List.mem_map_of_mem hd)
      rw [hcur d (by simp [hd])]
      exact others_congr fun j => (mem_replace_of_ne hne).symm

/-- Changes whose wanted partners are the believed ones do nothing. -/
lemma replaceAll_eq_self {cs : List (Change κ ι)} (h : ∀ c ∈ cs, c.current = c.ids)
    (links : Multiset (κ × ι)) : replaceAll links cs = links := by
  induction cs with
  | nil => rfl
  | cons c cs ih =>
      rw [replaceAll_cons, h c (by simp), replace_self]
      exact ih fun d hd => h d (by simp [hd])

/-! ### One owner several times -/

/-- How often a row occurs after the diff. -/
lemma count_replace {links : Multiset (κ × ι)} {o : κ} {ids current : Finset ι} {p : κ × ι} :
    (replace links o ids current).count p =
      if p.1 = o ∧ p.2 ∈ current \ ids then 0
      else links.count p + if p.1 = o ∧ p.2 ∈ ids \ current then 1 else 0 := by
  rw [replace]
  split
  · rename_i h
    simp [h]
  · have hnew : ((ids \ current).val.map (o, ·)).count p =
        if p.1 = o ∧ p.2 ∈ ids \ current then 1 else 0 := by
      split
      · rename_i h
        obtain ⟨rfl, hi⟩ := h
        refine Multiset.count_eq_one_of_mem ?_ (Multiset.mem_map_of_mem _ hi)
        exact (ids \ current).nodup.map fun a b hab => (Prod.mk.inj hab).2
      · rename_i h
        refine Multiset.count_eq_zero_of_notMem fun hp => h ?_
        obtain ⟨i, hi, rfl⟩ := Multiset.mem_map.mp hp
        exact ⟨rfl, hi⟩
    rw [Multiset.count_add, hnew, Multiset.count_filter]
    by_cases hold : p.1 = o ∧ p.2 ∈ current \ ids
    · have hkept : p.2 ∉ ids \ current := fun hi =>
        (Finset.mem_sdiff.mp hi).2 (Finset.mem_sdiff.mp hold.2).1
      rw [if_neg (not_not.mpr hold), if_neg fun h => hkept h.2, if_pos hold]
    · rw [if_pos hold, if_neg hold]

/-- A partner the owner had before stays exactly if every change wants it. -/
theorem count_replaceAll_of_mem {o : κ} {i : ι} {cs : List (Change κ ι)} :
    ∀ {links : Multiset (κ × ι)}, (∀ c ∈ cs, c.owner = o → i ∈ c.current) →
      (replaceAll links cs).count (o, i) =
        if ∀ c ∈ cs, c.owner = o → i ∈ c.ids then links.count (o, i) else 0 := by
  induction cs with
  | nil => intro links _; simp
  | cons c cs ih =>
      intro links hcur
      rw [replaceAll_cons, ih fun d hd => hcur d (by simp [hd]), count_replace]
      by_cases ho : c.owner = o
      · have hi := hcur c (by simp) ho
        by_cases hids : i ∈ c.ids
        · simp [ho, hi, hids]
        · simp [ho, hi, hids]
      · simp [ho, Ne.symm ho]

/-- A partner the owner did not have is inserted once for each change that wants
it. -/
theorem count_replaceAll_of_notMem {o : κ} {i : ι} {cs : List (Change κ ι)} :
    ∀ {links : Multiset (κ × ι)}, (∀ c ∈ cs, c.owner = o → i ∉ c.current) →
      (replaceAll links cs).count (o, i) =
        links.count (o, i) + cs.countP fun c => c.owner = o ∧ i ∈ c.ids := by
  induction cs with
  | nil => intro links _; simp
  | cons c cs ih =>
      intro links hcur
      rw [replaceAll_cons, ih fun d hd => hcur d (by simp [hd]), count_replace,
        List.countP_cons]
      by_cases ho : c.owner = o
      · have hi := hcur c (by simp) ho
        by_cases hids : i ∈ c.ids
        · simp [ho, hi, hids]
          omega
        · simp [ho, hi, hids]
      · simp [ho, Ne.symm ho]

/-- At most one entry of a list has a property exactly if no two have. -/
lemma countP_le_one_iff {α : Type*} {p : α → Bool} {xs : List α} :
    xs.countP p ≤ 1 ↔ xs.Pairwise fun a b => ¬(p a = true ∧ p b = true) := by
  induction xs with
  | nil => simp
  | cons x xs ih =>
      rw [List.pairwise_cons, ← ih, List.countP_cons]
      by_cases hx : p x = true
      · have hnone : (∀ y ∈ xs, ¬(p x = true ∧ p y = true)) ↔ xs.countP p = 0 := by
          simp [List.countP_eq_zero, hx]
        rw [hnone, if_pos hx]
        omega
      · simp [hx]

/-- **When every change starts from the partners its owner has**, no row is inserted
twice exactly if two changes for one owner both want only partners that it has. -/
theorem nodup_replaceAll_iff {links : Multiset (κ × ι)} {cs : List (Change κ ι)}
    (h : links.Nodup) (hcur : ∀ c ∈ cs, c.current = others links c.owner) :
    (replaceAll links cs).Nodup ↔
      cs.Pairwise fun c d => c.owner = d.owner → c.ids ∩ d.ids ⊆ others links c.owner := by
  have hmem : ∀ {o i}, (o, i) ∈ links → ∀ c ∈ cs, c.owner = o → i ∈ c.current :=
    fun hp c hc ho => by rwa [hcur c hc, mem_others, ho]
  have hnot : ∀ {o i}, (o, i) ∉ links → ∀ c ∈ cs, c.owner = o → i ∉ c.current :=
    fun hp c hc ho => by rwa [hcur c hc, mem_others, ho]
  rw [Multiset.nodup_iff_count_le_one] at h ⊢
  constructor
  · intro hle
    rw [List.pairwise_iff_forall_sublist]
    intro c d hcd howner i hi
    obtain ⟨hic, hid⟩ := Finset.mem_inter.mp hi
    rw [mem_others]
    by_contra hp
    have hcount := hle (c.owner, i)
    rw [count_replaceAll_of_notMem (hnot hp), Multiset.count_eq_zero_of_notMem hp, Nat.zero_add,
      countP_le_one_iff, List.pairwise_iff_forall_sublist] at hcount
    exact hcount hcd (by simp [hic, hid, howner])
  · rintro hpair ⟨o, i⟩
    by_cases hp : (o, i) ∈ links
    · rw [count_replaceAll_of_mem (hmem hp)]
      split
      · exact h (o, i)
      · exact Nat.zero_le 1
    · rw [count_replaceAll_of_notMem (hnot hp), Multiset.count_eq_zero_of_notMem hp, Nat.zero_add,
        countP_le_one_iff]
      refine hpair.imp fun {c d} hcd hboth => ?_
      simp only [decide_eq_true_eq] at hboth
      obtain ⟨⟨rfl, hic⟩, howner, hid⟩ := hboth
      exact hp (mem_others.mp (hcd howner.symm (Finset.mem_inter.mpr ⟨hic, hid⟩)))

/-- When every change starts from the partners its owner has, an owner ends with
those it had and all changes want, and those it had not and some change wants. -/
theorem mem_replaceAll_iff {links : Multiset (κ × ι)} {cs : List (Change κ ι)}
    (hcur : ∀ c ∈ cs, c.current = others links c.owner) {o : κ} {i : ι} :
    (o, i) ∈ replaceAll links cs ↔
      ((o, i) ∈ links ∧ ∀ c ∈ cs, c.owner = o → i ∈ c.ids) ∨
        ((o, i) ∉ links ∧ ∃ c ∈ cs, c.owner = o ∧ i ∈ c.ids) := by
  rw [← Multiset.count_pos]
  by_cases hp : (o, i) ∈ links
  · rw [count_replaceAll_of_mem fun c hc ho => by rwa [hcur c hc, mem_others, ho]]
    have hpos := Multiset.count_pos.mpr hp
    split
    · rename_i hall
      exact ⟨fun _ => Or.inl ⟨hp, hall⟩, fun _ => hpos⟩
    · rename_i hall
      simp [hp, hall]
  · rw [count_replaceAll_of_notMem fun c hc ho => by rwa [hcur c hc, mem_others, ho],
      Multiset.count_eq_zero_of_notMem hp, Nat.zero_add, List.countP_pos_iff]
    simp [hp]

/-- Changes that leave the links as they were want what their owners have. -/
lemma ids_eq_of_replaceAll_eq {links : Multiset (κ × ι)} {cs : List (Change κ ι)}
    (hcur : ∀ c ∈ cs, c.current = others links c.owner) (h : replaceAll links cs = links)
    {c : Change κ ι} (hc : c ∈ cs) : c.ids = others links c.owner := by
  ext i
  have hiff := mem_replaceAll_iff hcur (o := c.owner) (i := i)
  rw [h] at hiff
  rw [mem_others]
  constructor
  · intro hi
    by_contra hp
    exact hp (hiff.mpr (Or.inr ⟨hp, c, hc, rfl, hi⟩))
  · intro hp
    rcases hiff.mp hp with ⟨-, hall⟩ | ⟨hn, -⟩
    · exact hall c hc rfl
    · exact absurd hp hn

end Links

end AuthzKit
