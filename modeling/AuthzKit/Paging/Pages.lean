import Mathlib.Data.List.Sort
import Mathlib.Tactic

/-!
Pages of a query with an order, an offset and a limit.

Each page is a query of its own. A query answers with the rows in some order that respects the
relation it sorts by, a total preorder, and rows that tie may change places from one query to the
next.

* `Answers`: what a query may return before its offset and limit.
* `Cut`: a number of rows that come strictly before the others. `Answers.take_perm` says that two
  answers agree on the rows before a cut, `exists_tie` that an answer has a tie anywhere else.
* `pages_perm_iff`: the pages of any answers have the rows once each just when every end of a page
  is a cut.
-/

namespace AuthzKit

namespace Paging

variable {α : Type*} (r : α → α → Prop)

/-- The rows of a query in an order that respects the relation it sorts by. -/
structure Answers (all rows : List α) : Prop where
  perm : rows.Perm all
  sorted : rows.Pairwise r

/-- The rows up to some row are so many, and the others come strictly after them. -/
def Cut [DecidableRel r] (all : List α) (b : ℕ) : Prop :=
  ∃ c ∈ all, all.countP (fun a => r a c) = b

/-- The page after `k` others. -/
def page (rows : List α) (size k : ℕ) : List α := (rows.drop (k * size)).take size

/-- The first `n` pages, each of an answer of its own. -/
def pages (rows : ℕ → List α) (size n : ℕ) : List α :=
  (List.range n).flatMap fun k => page (rows k) size k

variable {r} {all rows rows' : List α} {size : ℕ}

/-! ### One page -/

lemma page_eq_nil_iff (hsize : 0 < size) {k : ℕ} :
    page rows size k = [] ↔ rows.length ≤ k * size := by
  rw [page, List.take_eq_nil_iff, List.drop_eq_nil_iff]
  omega

/-- A page carries on where the pages before it end. -/
lemma take_append_page (rows : List α) (size k : ℕ) :
    rows.take (k * size) ++ page rows size k = rows.take ((k + 1) * size) := by
  rw [page, ← List.take_add, Nat.succ_mul]

lemma pages_succ (rows : ℕ → List α) (size n : ℕ) :
    pages rows size (n + 1) = pages rows size n ++ page (rows n) size n := by
  simp [pages, List.range_succ]

/-- The rows of a page by their positions. -/
lemma mem_page_of_getElem? {k i : ℕ} {a : α} (ha : rows[i]? = some a) (hge : k * size ≤ i)
    (hlt : i < (k + 1) * size) : a ∈ page rows size k := by
  rw [Nat.succ_mul] at hlt
  refine List.mem_of_getElem? (i := i - k * size) ?_
  rw [page, List.getElem?_take_of_lt (by omega), List.getElem?_drop, Nat.add_sub_of_le hge, ha]

/-! ### Cuts -/

/-- In order, the rows up to a row come first. -/
lemma take_countP_eq_filter [DecidableRel r] [IsTrans α r] (hsorted : rows.Pairwise r) (c : α) :
    rows.take (rows.countP fun a => r a c) = rows.filter fun a => r a c := by
  induction rows with
  | nil => rfl
  | cons a rows ih =>
      obtain ⟨ha, hrows⟩ := List.pairwise_cons.mp hsorted
      by_cases hac : r a c
      · rw [List.countP_cons_of_pos (by simpa using hac), List.take_succ_cons,
          List.filter_cons_of_pos (by simpa using hac), ih hrows]
      · have hafter : ∀ b ∈ rows, ¬r b c := fun b hb hbc => hac (trans_of r (ha b hb) hbc)
        have hcount : (a :: rows).countP (fun a => decide (r a c)) = 0 := by
          rw [List.countP_eq_zero]
          intro b hb
          rcases List.mem_cons.mp hb with rfl | hb
          · simpa using hac
          · simpa using hafter b hb
        rw [hcount, List.take_zero, eq_comm, List.filter_eq_nil_iff]
        exact List.countP_eq_zero.mp hcount

/-- **Answers agree up to a cut**, but for the order of the rows. -/
lemma Answers.take_perm [DecidableRel r] [IsTrans α r] (h : Answers r all rows)
    (h' : Answers r all rows') {b : ℕ} (hb : Cut r all b) : (rows.take b).Perm (rows'.take b) := by
  obtain ⟨c, -, rfl⟩ := hb
  have hcount : rows.countP (fun a => decide (r a c)) = all.countP fun a => decide (r a c) :=
    h.perm.countP_eq _
  have hcount' : rows'.countP (fun a => decide (r a c)) = all.countP fun a => decide (r a c) :=
    h'.perm.countP_eq _
  rw [← hcount, take_countP_eq_filter h.sorted, hcount, ← hcount', take_countP_eq_filter h'.sorted]
  exact (h.perm.trans h'.perm.symm).filter _

/-- In order, a row relates to each row from it on. -/
lemma rel_of_le [Std.Total r] (hsorted : rows.Pairwise r) {i j : ℕ} (hj : j < rows.length)
    (hij : i ≤ j) : r rows[i] rows[j] := by
  rcases hij.lt_or_eq with h | rfl
  · exact List.pairwise_iff_getElem.mp hsorted i j _ hj h
  · exact (total_of r rows[i] rows[i]).elim id id

/-- Anywhere but at a cut, the rows on the two sides tie. -/
lemma Answers.tie_of_not_cut [DecidableRel r] [Std.Total r] [IsTrans α r] (h : Answers r all rows)
    {b : ℕ} (hb : b + 1 < rows.length) (hcut : ¬Cut r all (b + 1)) : r rows[b + 1] rows[b] := by
  by_contra hlast
  refine hcut ⟨rows[b], h.perm.subset (List.getElem_mem _), ?_⟩
  have hbefore : (rows.take (b + 1)).countP (fun a => decide (r a rows[b])) = b + 1 := by
    have hlength : (rows.take (b + 1)).length = b + 1 := by
      rw [List.length_take]
      omega
    rw [List.countP_eq_length.mpr, hlength]
    intro a ha
    obtain ⟨i, hi, rfl⟩ := List.mem_iff_getElem.mp ha
    rw [List.getElem_take, decide_eq_true_eq]
    exact rel_of_le h.sorted _ (by omega)
  have hafter : (rows.drop (b + 1)).countP (fun a => decide (r a rows[b])) = 0 := by
    rw [List.countP_eq_zero]
    intro a ha hrel
    obtain ⟨i, hi, rfl⟩ := List.mem_iff_getElem.mp ha
    rw [List.getElem_drop, decide_eq_true_eq] at hrel
    rw [List.length_drop] at hi
    have hnext : r rows[b + 1] rows[b + 1 + i] := rel_of_le h.sorted (by omega) (by omega)
    exact hlast (trans_of r hnext hrel)
  calc all.countP (fun a => decide (r a rows[b]))
      = rows.countP (fun a => decide (r a rows[b])) := (h.perm.countP_eq _).symm
    _ = (rows.take (b + 1) ++ rows.drop (b + 1)).countP (fun a => decide (r a rows[b])) := by
        rw [List.take_append_drop]
    _ = b + 1 := by rw [List.countP_append, hbefore, hafter]

/-- A tie can be broken either way. -/
lemma Answers.swap (h : Answers r all rows) {b : ℕ} (hb : b + 1 < rows.length)
    (htie : r rows[b + 1] rows[b]) :
    Answers r all (rows.take b ++ rows[b + 1] :: rows[b] :: rows.drop (b + 2)) := by
  have hrows : rows = rows.take b ++ rows[b] :: rows[b + 1] :: rows.drop (b + 2) := by
    rw [← List.drop_eq_getElem_cons hb, ← List.drop_eq_getElem_cons, List.take_append_drop]
  have hsorted := h.sorted
  have hperm := h.perm
  rw [hrows] at hsorted hperm
  refine ⟨(List.Perm.append_left _ (List.Perm.swap _ _ _)).trans hperm, ?_⟩
  simp only [List.pairwise_append, List.pairwise_cons, List.forall_mem_cons] at hsorted ⊢
  obtain ⟨hfirst, ⟨⟨-, hx⟩, hy, hrest⟩, hbetween⟩ := hsorted
  exact ⟨hfirst, ⟨⟨htie, hy⟩, hx, hrest⟩, fun a ha =>
    ⟨(hbetween a ha).2.1, (hbetween a ha).1, (hbetween a ha).2.2⟩⟩

/-- A row that comes before no cut comes one place later in another answer. -/
lemma Answers.exists_later [DecidableRel r] [Std.Total r] [IsTrans α r] (h : Answers r all rows)
    {b : ℕ} (hb : b + 1 < rows.length) (hcut : ¬Cut r all (b + 1)) :
    ∃ rows', Answers r all rows' ∧ rows'[b + 1]? = some rows[b] := by
  refine ⟨_, h.swap hb (h.tie_of_not_cut hb hcut), ?_⟩
  have hlength : (rows.take b).length = b := by
    rw [List.length_take]
    omega
  rw [List.getElem?_append_right (by omega), hlength, Nat.add_sub_cancel_left]
  rfl

/-! ### All pages -/

/-- Where the pages end at cuts, they carry on from any answer. -/
lemma pages_perm_take [DecidableRel r] [IsTrans α r] {rows : ℕ → List α}
    (hrows : ∀ k, Answers r all (rows k))
    (hcut : ∀ k, 0 < k → k * size < all.length → Cut r all (k * size)) (n m : ℕ) :
    (pages rows size n).Perm ((rows m).take (n * size)) := by
  induction n generalizing m with
  | zero => simp [pages]
  | succ n ih =>
      have hpage : (pages rows size (n + 1)).Perm ((rows n).take ((n + 1) * size)) := by
        rw [pages_succ, ← take_append_page]
        exact (ih n).append_right _
      refine hpage.trans ?_
      rcases lt_or_ge ((n + 1) * size) all.length with hlt | hge
      · exact (hrows n).take_perm (hrows m) (hcut _ n.succ_pos hlt)
      · rw [List.take_of_length_le ((hrows n).perm.length_eq.trans_le hge),
          List.take_of_length_le ((hrows m).perm.length_eq.trans_le hge)]
        exact (hrows n).perm.trans (hrows m).perm.symm

/-- A row of two pages is listed twice. -/
lemma not_nodup_pages {rows : ℕ → List α} {n j k : ℕ} (hjk : j < k) (hk : k < n) {a : α}
    (hj : a ∈ page (rows j) size j) (ha : a ∈ page (rows k) size k) :
    ¬(pages rows size n).Nodup := by
  intro hnodup
  have hdisjoint := (List.nodup_flatMap.mp hnodup).2
  have hpages := List.pairwise_iff_getElem.mp hdisjoint j k (by simp; omega) (by simpa) hjk
  simp only [List.getElem_range] at hpages
  exact hpages hj ha

/-- **The pages of a query have its rows once each**, whatever the answers, just when every end of
a page is a cut. -/
theorem pages_perm_iff [DecidableRel r] [Std.Total r] [IsTrans α r] (hall : all.Nodup)
    (hsize : 0 < size) {n : ℕ} (hn : all.length ≤ n * size) :
    (∀ rows : ℕ → List α, (∀ k, Answers r all (rows k)) → (pages rows size n).Perm all) ↔
      ∀ k, 0 < k → k * size < all.length → Cut r all (k * size) := by
  constructor
  · intro hpages k hk hlt
    by_contra hcut
    obtain ⟨b, hb⟩ : ∃ b, k * size = b + 1 := ⟨k * size - 1, by have := Nat.mul_pos hk hsize; omega⟩
    obtain ⟨j, rfl⟩ : ∃ j, k = j + 1 := ⟨k - 1, by omega⟩
    have hl : Answers r all (all.insertionSort r) :=
      ⟨List.perm_insertionSort r all, List.pairwise_insertionSort r all⟩
    generalize all.insertionSort r = l at hl
    have hbl : b + 1 < l.length := by
      rw [hl.perm.length_eq]
      omega
    obtain ⟨l', hl', hlater⟩ := hl.exists_later hbl (hb ▸ hcut)
    -- the last row of a page, if the next query answers with it one place later
    let answer : ℕ → List α := fun i => if i = j + 1 then l' else l
    have hanswer : ∀ i, Answers r all (answer i) := fun i => by
      dsimp only [answer]
      split_ifs
      · exact hl'
      · exact hl
    have hj : l[b] ∈ page (answer j) size j := by
      refine mem_page_of_getElem? (i := b) ?_ ?_ ?_
      · rw [show answer j = l from if_neg (by omega), List.getElem?_eq_getElem]
      · rw [Nat.succ_mul] at hb
        omega
      · omega
    have hk : l[b] ∈ page (answer (j + 1)) size (j + 1) := by
      refine mem_page_of_getElem? (i := b + 1) ?_ ?_ ?_
      · rw [show answer (j + 1) = l' from if_pos rfl, hlater]
      · omega
      · rw [Nat.succ_mul]
        omega
    have hjn : j + 1 < n := Nat.lt_of_mul_lt_mul_right (hlt.trans_le hn)
    exact not_nodup_pages j.lt_succ_self hjn hj hk ((hpages answer hanswer).nodup_iff.mpr hall)
  · intro hcut rows hrows
    have hpages := pages_perm_take hrows hcut n 0
    rw [List.take_of_length_le ((hrows 0).perm.length_eq.trans_le hn)] at hpages
    exact hpages.trans (hrows 0).perm

end Paging

end AuthzKit
