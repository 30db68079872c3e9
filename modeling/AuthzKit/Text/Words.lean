import Mathlib.Data.List.DropRight
import Mathlib.Data.String.Basic
import Mathlib.Tactic

/-!
`str.strip`, `str.split` and `str.join` of Python.

* `strip_strip`: `strip` is idempotent.
* `split_intercalate`: splitting what has been joined at a letter splits each part.
* `split_of_mem_split`: a part is not split again.
* `mem_parts_joined`, `subset_parts_joined_iff`: what comes back of words that a column keeps
  joined, and when these are the words.
-/

namespace AuthzKit

namespace Text

/-- `str.isspace`, of one letter. -/
def isSpace (c : Char) : Bool :=
  let n := c.toNat
  (9 ≤ n && n ≤ 13) || (28 ≤ n && n ≤ 32) || n == 0x85 || n == 0xA0 || n == 0x1680 ||
    (0x2000 ≤ n && n ≤ 0x200A) || n == 0x2028 || n == 0x2029 || n == 0x202F || n == 0x205F ||
    n == 0x3000

/-- `s.strip()`. -/
def strip (s : String) : String :=
  String.ofList ((s.toList.dropWhile isSpace).rdropWhile isSpace)

/-- `s.split(sep)`, with one letter to split at. -/
def split (sep : Char) (s : String) : List String := (s.toList.splitOn sep).map String.ofList

variable {s : String}

/-- **Stripping twice is stripping once.** -/
theorem strip_strip (s : String) : strip (strip s) = strip s := by
  have hleft : ∀ l : List Char, ((l.dropWhile isSpace).rdropWhile isSpace).dropWhile isSpace =
      (l.dropWhile isSpace).rdropWhile isSpace := by
    intro l
    rw [List.dropWhile_eq_self_iff]
    intro hl
    -- the first letter is the one of the longer text
    have hbegins := List.rdropWhile_prefix isSpace (l := l.dropWhile isSpace)
    have hl' : 0 < (l.dropWhile isSpace).length := hl.trans_le hbegins.length_le
    rw [hbegins.getElem]
    exact List.dropWhile_get_zero_not isSpace l hl'
  rw [strip, strip, String.toList_ofList, hleft, List.rdropWhile_idempotent]

/-- Stripping takes letters away. -/
lemma mem_of_mem_strip {c : Char} (h : c ∈ (strip s).toList) : c ∈ s.toList := by
  rw [strip, String.toList_ofList] at h
  exact (List.dropWhile_sublist _).subset ((List.rdropWhile_prefix _ _).subset h)

/-- Of spaces nothing is left. -/
lemma strip_eq_empty (h : ∀ c ∈ s.toList, isSpace c) : strip s = "" := by
  rw [strip, List.dropWhile_eq_nil_iff.mpr h]
  rfl

/-! ### Splitting -/

variable {sep : Char} {word : String} {texts : List String}

/-- **Splitting what has been joined** splits each part. -/
theorem split_intercalate (h : texts ≠ []) :
    split sep ((String.singleton sep).intercalate texts) = texts.flatMap (split sep) := by
  induction texts with
  | nil => exact absurd rfl h
  | cons text texts ih =>
      cases texts with
      | nil => rw [String.intercalate_singleton, List.flatMap_singleton]
      | cons text' texts =>
          rw [String.intercalate_cons_cons, List.flatMap_cons, ← ih (List.cons_ne_nil _ _), split,
            String.toList_append, String.toList_append, String.toList_singleton, List.append_assoc,
            List.singleton_append, List.splitOn_append_cons_self, List.map_append]
          rfl

/-- A text without the letter is not split. -/
lemma split_of_notMem (h : sep ∉ s.toList) : split sep s = [s] := by
  rw [split, List.splitOn_eq_singleton h, List.map_singleton, String.ofList_toList]

lemma notMem_of_mem_splitOn {l part : List Char} (h : part ∈ l.splitOn sep) : sep ∉ part := by
  induction l generalizing part with
  | nil =>
      rw [List.splitOn_nil, List.mem_singleton] at h
      rw [h]
      exact List.not_mem_nil
  | cons c l ih =>
      rw [List.splitOn_cons_eq_if_modifyHead] at h
      split_ifs at h with hc
      · rcases List.mem_cons.mp h with rfl | h
        · exact List.not_mem_nil
        · exact ih h
      · cases hl : l.splitOn sep with
        | nil => exact absurd hl (List.splitOn_ne_nil sep l)
        | cons first rest =>
            rw [hl, List.modifyHead_cons] at h
            rcases List.mem_cons.mp h with rfl | h
            · intro hmem
              rcases List.mem_cons.mp hmem with rfl | hmem
              · exact hc BEq.rfl
              · exact ih (hl ▸ List.mem_cons_self) hmem
            · exact ih (hl ▸ List.mem_cons_of_mem first h)

/-- The separator occurs in no part. -/
lemma notMem_of_mem_split (h : word ∈ split sep s) : sep ∉ word.toList := by
  obtain ⟨part, hpart, rfl⟩ := List.mem_map.mp h
  rw [String.toList_ofList]
  exact notMem_of_mem_splitOn hpart

/-- A part is not split again. -/
lemma split_of_mem_split (h : word ∈ split sep s) : split sep word = [word] :=
  split_of_notMem (notMem_of_mem_split h)

/-- The letters of a text are separators, or in one of its parts. -/
lemma mem_split {c : Char} (h : c ∈ s.toList) :
    c = sep ∨ ∃ part ∈ split sep s, c ∈ part.toList := by
  have hjoin : ∀ parts : List (List Char), c ∈ [sep].intercalate parts →
      c = sep ∨ ∃ part ∈ parts, c ∈ part := by
    intro parts hc
    induction parts with
    | nil => cases hc
    | cons part parts ih =>
        cases parts with
        | nil => exact Or.inr ⟨part, List.mem_cons_self, by simpa using hc⟩
        | cons part' parts =>
            rw [List.intercalate_cons_cons, List.mem_append, List.mem_append,
              List.mem_singleton] at hc
            rcases hc with (hc | hc) | hc
            · exact Or.inr ⟨part, List.mem_cons_self, hc⟩
            · exact Or.inl hc
            · rcases ih hc with hc | ⟨part'', hpart'', hc⟩
              · exact Or.inl hc
              · exact Or.inr ⟨part'', List.mem_cons_of_mem part hpart'', hc⟩
  rcases hjoin (s.toList.splitOn sep) (by rwa [List.intercalate_splitOn]) with hc | ⟨part, hpart, hc⟩
  · exact Or.inl hc
  · exact Or.inr ⟨String.ofList part, List.mem_map_of_mem hpart, by rwa [String.toList_ofList]⟩

/-- The parts of what has been joined, but for empty ones. -/
lemma mem_split_intercalate (hword : word ≠ "") :
    word ∈ split sep ((String.singleton sep).intercalate texts) ↔
      ∃ text ∈ texts, word ∈ split sep text := by
  by_cases hnil : texts = []
  · rw [hnil, String.intercalate_nil]
    refine iff_of_false (fun h => hword ?_) (by simp)
    rwa [split_of_notMem (by simp), List.mem_singleton] at h
  · rw [split_intercalate hnil, List.mem_flatMap]

/-- A text without words is made of spaces. -/
lemma strip_of_split_empty (h : ∀ part ∈ split ' ' s, part = "") : strip s = "" := by
  refine strip_eq_empty fun c hc => ?_
  have hcase : c = ' ' ∨ ∃ part ∈ split ' ' s, c ∈ part.toList := mem_split hc
  rcases hcase with rfl | ⟨part, hpart, hc⟩
  · rfl
  · rw [h part hpart] at hc
    cases hc

/-! ### Lean's `splitOn` -/

section SplitOn

open String

/-- `splitOnAux` with one letter to split at: the current part is `m`, and `r` is to be read. -/
lemma splitOnAux_singleton (sep : Char) (l m r : List Char) (acc : List String) :
    splitOnAux (ofList (l ++ m ++ r)) (String.singleton sep) ⟨utf8Len l⟩
        ⟨utf8Len l + utf8Len m⟩ 0 acc =
      acc.reverse ++ (r.splitOnPPrepend (· == sep) m.reverse).map ofList := by
  have hsep : Pos.Raw.get (String.singleton sep) 0 = sep := get_of_valid [] [sep]
  have hnext : Pos.Raw.next (String.singleton sep) 0 = ⟨sep.utf8Size⟩ := by
    simpa using next_of_valid [] sep []
  have hend : Pos.Raw.atEnd (String.singleton sep) ⟨sep.utf8Size⟩ = true := by
    simpa using (atEnd_of_valid [sep] []).mpr rfl
  induction r generalizing l m acc with
  | nil =>
      have hat : Pos.Raw.atEnd (ofList (l ++ m ++ [])) ⟨utf8Len l + utf8Len m⟩ = true := by
        simpa using (atEnd_of_valid (l ++ m) []).mpr rfl
      rw [splitOnAux, if_pos hat, extract_of_valid, List.splitOnPPrepend_nil, List.reverse_reverse,
        List.reverse_cons, List.map_singleton]
  | cons c r ih =>
      have hat : ¬Pos.Raw.atEnd (ofList (l ++ m ++ c :: r)) ⟨utf8Len l + utf8Len m⟩ = true := by
        simpa using (atEnd_of_valid (l ++ m) (c :: r)).not.mpr (List.cons_ne_nil c r)
      have hget : Pos.Raw.get (ofList (l ++ m ++ c :: r)) ⟨utf8Len l + utf8Len m⟩ = c := by
        simpa using get_of_valid (l ++ m) (c :: r)
      have hi : Pos.Raw.next (ofList (l ++ m ++ c :: r)) ⟨utf8Len l + utf8Len m⟩ =
          ⟨utf8Len l + utf8Len m + c.utf8Size⟩ := by
        simpa using next_of_valid (l ++ m) c r
      rw [splitOnAux, if_neg hat, hget, hsep]
      by_cases hc : c = sep
      · subst hc
        have hb : Pos.Raw.unoffsetBy ⟨utf8Len l + utf8Len m + c.utf8Size⟩ ⟨c.utf8Size⟩ =
            ⟨utf8Len l + utf8Len m⟩ := by
          simp [Pos.Raw.unoffsetBy]
        have hrest := ih (l ++ m ++ [c]) [] (ofList m :: acc)
        rw [if_pos BEq.rfl]
        simp only [hi, hnext, hend, if_true, hb, extract_of_valid]
        rw [List.splitOnPPrepend_cons_pos (by simp)]
        simpa [Nat.add_assoc] using hrest
      · have hb : Pos.Raw.unoffsetBy ⟨utf8Len l + utf8Len m⟩ 0 = ⟨utf8Len l + utf8Len m⟩ := by
          simp [Pos.Raw.unoffsetBy]
        have hrest := ih l (m ++ [c]) acc
        rw [if_neg (by simpa using hc), hb, hi, List.splitOnPPrepend_cons_neg (by simpa using hc)]
        simpa [Nat.add_assoc] using hrest

/-- Lean's `splitOn` is Python's `split`, of one letter. -/
theorem splitOn_singleton (sep : Char) (s : String) :
    s.splitOn (String.singleton sep) = split sep s := by
  have h := splitOnAux_singleton sep [] [] s.toList []
  rw [String.splitOn, if_neg (by simp)]
  simpa [split, List.splitOn_eq_splitOnP] using h

end SplitOn

/-! ### Words in one column -/

-- What `Finset.sort` asks of the order of strings.
instance instIsTransStringLe : IsTrans String (fun a b => a ≤ b) := inferInstance

instance instAntisymmStringLe : Std.Antisymm (fun a b : String => a ≤ b) := inferInstance

instance instTotalStringLe : Std.Total (fun a b : String => a ≤ b) := inferInstance

/-- `sep.join(sorted(set(w.strip() for w in words if w.strip())))`. -/
def joined (sep : Char) (words : List String) : String :=
  (String.singleton sep).intercalate
    (((words.map strip).filter fun w => w ≠ "").toFinset.sort (· ≤ ·))

/-- `[p for p in column.split(sep) if p]`. -/
def parts (sep : Char) (column : String) : List String := (split sep column).filter fun p => p ≠ ""

/-- A word that a column keeps: it is not empty, nothing can be stripped of it, and the separator
does not occur in it. -/
def Kept (sep : Char) (word : String) : Prop := word ≠ "" ∧ strip word = word ∧ sep ∉ word.toList

variable {words : List String}

/-- **What comes back of joined words**: the parts of the stripped words. -/
theorem mem_parts_joined :
    word ∈ parts sep (joined sep words) ↔
      word ≠ "" ∧ ∃ w ∈ words, word ∈ split sep (strip w) := by
  have hmem : ∀ w, w ∈ ((words.map strip).filter fun w => w ≠ "").toFinset.sort (· ≤ ·) ↔
      (∃ w' ∈ words, strip w' = w) ∧ w ≠ "" := by
    intro w
    rw [Finset.mem_sort, List.mem_toFinset, List.mem_filter, List.mem_map, decide_eq_true_iff]
  rw [parts, List.mem_filter, decide_eq_true_iff, and_comm]
  refine and_congr_right fun hword => ?_
  rw [joined, mem_split_intercalate hword]
  constructor
  · rintro ⟨w, hw, hpart⟩
    obtain ⟨⟨w', hw', rfl⟩, -⟩ := (hmem w).mp hw
    exact ⟨w', hw', hpart⟩
  · rintro ⟨w, hw, hpart⟩
    refine ⟨strip w, (hmem _).mpr ⟨⟨w, hw, rfl⟩, fun hempty => hword ?_⟩, hpart⟩
    rwa [hempty, split_of_notMem (by simp), List.mem_singleton] at hpart

/-- A word that is kept has itself as its only part. -/
lemma Kept.split_strip (h : Kept sep word) : split sep (strip word) = [word] := by
  rw [h.2.1, split_of_notMem h.2.2]

/-- **The words come back exactly if each of them is kept.** -/
theorem subset_parts_joined_iff :
    (∀ w ∈ words, w ∈ parts sep (joined sep words)) ↔ ∀ w ∈ words, Kept sep w := by
  constructor
  · intro h
    -- a word with a separator is nowhere a part
    have hsep : ∀ w ∈ words, sep ∉ w.toList := by
      intro w hw
      obtain ⟨-, w', -, hpart⟩ := mem_parts_joined.mp (h w hw)
      exact notMem_of_mem_split hpart
    intro w hw
    obtain ⟨hne, w', hw', hpart⟩ := mem_parts_joined.mp (h w hw)
    have hsep' : sep ∉ (strip w').toList := fun hmem => hsep w' hw' (mem_of_mem_strip hmem)
    rw [split_of_notMem hsep', List.mem_singleton] at hpart
    refine ⟨hne, ?_, hsep w hw⟩
    rw [hpart, strip_strip]
  · intro h w hw
    refine mem_parts_joined.mpr ⟨(h w hw).1, w, hw, ?_⟩
    rw [(h w hw).split_strip]
    exact List.mem_singleton_self w

/-- Words that are kept come back, and nothing else. -/
lemma mem_parts_joined_of_kept (h : ∀ w ∈ words, Kept sep w) :
    word ∈ parts sep (joined sep words) ↔ word ∈ words := by
  refine ⟨fun hword => ?_, fun hword => subset_parts_joined_iff.mpr h word hword⟩
  obtain ⟨-, w, hw, hpart⟩ := mem_parts_joined.mp hword
  rw [(h w hw).split_strip, List.mem_singleton] at hpart
  exact hpart ▸ hw

end Text

end AuthzKit
