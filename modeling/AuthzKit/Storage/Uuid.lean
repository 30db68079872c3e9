import AuthzKit.Text.Words
import Mathlib.Tactic

/-!
Row ids: the strings `str(uuid.uuid4())` writes, and what `uuid.UUID(ref)`
accepts.

* `Canonical`: lower-case hexadecimal digits in groups of 8, 4, 4, 4 and 12.
* `readsHex`: what `int` reads in base 16, a sign, a prefix and underscores included.
* `parsesAsUuid`: 32 letters that `int` reads, in which hyphens, curly braces and a
  URN prefix are optional.
* `parsesAsUuid_of_canonical`: an id of the store is always accepted.
-/

namespace AuthzKit

/-- Ids are `UUIDType` columns, strings of 36 characters. -/
abbrev Id := String

namespace Uuid

/-- Where `str(uuid.UUID)` puts its hyphens: between groups of 8, 4, 4, 4 and 12
digits. -/
def hyphenMask : List Bool :=
  List.replicate 8 false ++ true :: List.replicate 4 false ++ true :: List.replicate 4 false
    ++ true :: List.replicate 4 false ++ true :: List.replicate 12 false

/-- The digits `str(uuid.UUID)` writes. -/
def lowerHexDigits : List Char := "0123456789abcdef".toList

/-- The form of `str(uuid.uuid4())`. -/
def Canonical (id : Id) : Prop :=
  id.toList.map (· == '-') = hyphenMask ∧ ∀ c ∈ id.toList, c = '-' ∨ c ∈ lowerHexDigits

/-! `Canonical` is decided over the bytes of an id: decoding a text is slow to evaluate. -/

/-- The characters that the bytes of an id stand for, when each is one. -/
def asciiChars (id : Id) : List Char := id.toByteArray.data.toList.map fun b => Char.ofNat b.toNat

lemma utf8EncodeChar_ascii : ∀ n < 128, String.utf8EncodeChar (Char.ofNat n) = [UInt8.ofNat n] := by
  decide

lemma toList_eq_asciiChars {id : Id} (h : ∀ b ∈ id.toByteArray.data.toList, b.toNat < 128) :
    id.toList = asciiChars id := by
  have hencode : ∀ bs : List UInt8, (∀ b ∈ bs, b.toNat < 128) →
      (bs.map fun b => Char.ofNat b.toNat).flatMap String.utf8EncodeChar = bs := by
    intro bs
    induction bs with
    | nil => exact fun _ => rfl
    | cons b bs ih =>
        intro hbs
        rw [List.map_cons, List.flatMap_cons, utf8EncodeChar_ascii _ (hbs b List.mem_cons_self),
          ih fun c hc => hbs c (List.mem_cons_of_mem b hc), UInt8.ofNat_toNat]
        rfl
  have hbytes : (asciiChars id).utf8Encode = id.toByteArray := by
    rw [List.utf8Encode, asciiChars, hencode _ h]
    exact ByteArray.ext (by rw [List.data_toByteArray])
  rw [← String.toByteArray_ofList, String.toByteArray_inj] at hbytes
  rw [← hbytes, String.toList_ofList, hbytes]

-- characters and bytes are finitely many, so the instances for `∀ c ∈ s` are named: the other
-- one goes through all of them
instance : DecidablePred Canonical := fun id =>
  @dite _ (∀ b ∈ id.toByteArray.data.toList, b.toNat < 128) (List.decidableBAll _ _)
    (fun h =>
      @decidable_of_iff _ ((asciiChars id).map (· == '-') = hyphenMask ∧
          ∀ c ∈ asciiChars id, c = '-' ∨ c ∈ lowerHexDigits)
        (by rw [Canonical, toList_eq_asciiChars h])
        (@instDecidableAnd _ _ _ (List.decidableBAll _ _)))
    (fun _ => @instDecidableAnd _ _ _ (List.decidableBAll _ _))

/-! ### `int(s, 16)` -/

/-- The digits of base 16. -/
def hexDigits : List Char := "0123456789abcdefABCDEF".toList

/-- The zeros of the decimal digits beyond ASCII, each followed by its nine others. -/
def decimalZeros : List ℕ :=
  [0x660, 0x6F0, 0x7C0, 0x966, 0x9E6, 0xA66, 0xAE6, 0xB66, 0xBE6, 0xC66, 0xCE6, 0xD66, 0xDE6,
    0xE50, 0xED0, 0xF20, 0x1040, 0x1090, 0x17E0, 0x1810, 0x1946, 0x19D0, 0x1A80, 0x1A90, 0x1B50,
    0x1BB0, 0x1C40, 0x1C50, 0xA620, 0xA8D0, 0xA900, 0xA9D0, 0xA9F0, 0xAA50, 0xABF0, 0xFF10,
    0x104A0, 0x10D30, 0x11066, 0x110F0, 0x11136, 0x111D0, 0x112F0, 0x11450, 0x114D0, 0x11650,
    0x116C0, 0x11730, 0x118E0, 0x11950, 0x11C50, 0x11D50, 0x11DA0, 0x16A60, 0x16AC0, 0x16B50,
    0x1D7CE, 0x1D7D8, 0x1D7E2, 0x1D7EC, 0x1D7F6, 0x1E140, 0x1E2F0, 0x1E950, 0x1FBF0]

/-- `Py_UNICODE_TODECIMAL`. -/
def decimal? (c : Char) : Option ℕ :=
  (decimalZeros.find? fun n => n ≤ c.toNat && c.toNat ≤ n + 9).map fun n => c.toNat - n

/-- What a letter is read as: spaces and decimal digits as those of ASCII. -/
def toAscii (c : Char) : Char :=
  if c.toNat < 127 then c
  else if Text.isSpace c then ' '
  else
    match decimal? c with
    | some digit => Char.ofNat (('0').toNat + digit)
    | none => '?'

/-- `Py_ISSPACE`. -/
def isAsciiSpace (c : Char) : Bool := c == ' ' || (9 ≤ c.toNat && c.toNat ≤ 13)

/-- A number may have a sign. -/
def skipSign : List Char → List Char
  | [] => []
  | c :: s => if c = '+' ∨ c = '-' then s else c :: s

/-- It may have a prefix, which may end with an underscore. -/
def skipPrefix : List Char → List Char
  | c :: x :: s =>
      if c = '0' ∧ (x = 'x' ∨ x = 'X') then if s.head? = some '_' then s.tail else s
      else c :: x :: s
  | s => s

/-- `int(s, 16)` does not raise: digits, with single underscores between them. -/
def readsHex (s : List Char) : Bool :=
  let number := ((s.map toAscii).dropWhile isAsciiSpace).rdropWhile isAsciiSpace
  ((skipPrefix (skipSign number)).splitOn '_').all fun digits =>
    !digits.isEmpty && digits.all (· ∈ hexDigits)

/-! ### `uuid.UUID` -/

/-- `s.replace(pat, "")`, one occurrence after the other from the left. -/
def removeAll (pat : List Char) (s : List Char) : List Char :=
  match s with
  | [] => []
  | c :: cs =>
      if pat.isPrefixOf (c :: cs) then removeAll pat (cs.drop (pat.length - 1))
      else c :: removeAll pat cs
termination_by s.length

/-- `s.strip('{}')`. -/
def stripBraces (s : List Char) : List Char :=
  let brace := fun c : Char => c == '{' || c == '}'
  ((s.dropWhile brace).reverse.dropWhile brace).reverse

/-- `uuid.UUID(ref)` does not raise. -/
def parsesAsUuid (ref : String) : Bool :=
  let hex := removeAll "uuid:".toList (removeAll "urn:".toList ref.toList)
  let hex := (stripBraces hex).filter (· ≠ '-')
  hex.length == 32 && readsHex hex

/-- Removing a pattern with a character that does not occur does nothing. -/
lemma removeAll_eq_self {pat : List Char} {x : Char} (hx : x ∈ pat) :
    ∀ s : List Char, x ∉ s → removeAll pat s = s
  | [], _ => by rw [removeAll]
  | c :: cs, h => by
      have hpre : pat.isPrefixOf (c :: cs) = false := by
        rw [Bool.eq_false_iff, ne_eq, List.isPrefixOf_iff_prefix]
        exact fun hp => h (hp.subset hx)
      rw [removeAll, hpre, if_neg (by simp), removeAll_eq_self hx cs fun hc => h (by simp [hc])]

lemma stripBraces_eq_self {s : List Char} (h : ∀ c ∈ s, (c == '{' || c == '}') = false) :
    stripBraces s = s := by
  have hdrop : ∀ l : List Char, (∀ c ∈ l, (c == '{' || c == '}') = false) →
      l.dropWhile (fun c => c == '{' || c == '}') = l := by
    intro l hl
    cases l with
    | nil => rfl
    | cons c l => rw [List.dropWhile_cons_of_neg (by simpa using hl c (by simp))]
  rw [stripBraces, hdrop s h, hdrop s.reverse fun c hc => h c (List.mem_reverse.mp hc),
    List.reverse_reverse]

/-- A canonical UUID has 32 digits. -/
lemma Canonical.length_digits {id : Id} (h : Canonical id) :
    (id.toList.filter (· ≠ '-')).length = 32 := by
  have hmask : ((id.toList.map (· == '-')).filter (!·)).length = 32 := by rw [h.1]; rfl
  rw [List.filter_map, List.length_map] at hmask
  rw [← hmask]
  congr 2
  funext c
  by_cases hc : c = '-' <;> simp [hc]

/-- Plain digits are read. -/
lemma readsHex_of_digits {s : List Char} (hs : s ≠ []) (h : ∀ c ∈ s, c ∈ lowerHexDigits) :
    readsHex s = true := by
  have hplain : lowerHexDigits.all (fun c => toAscii c == c && !isAsciiSpace c && c ≠ '+' &&
      c ≠ '-' && c ≠ 'x' && c ≠ 'X' && c ≠ '_' && c ∈ hexDigits) = true := by decide
  simp only [List.all_eq_true, Bool.and_eq_true, Bool.not_eq_true', beq_iff_eq,
    decide_eq_true_eq, and_assoc] at hplain
  have hmap : s.map toAscii = s := by
    refine (List.map_congr_left fun c hc => ?_).trans (List.map_id s)
    exact (hplain c (h c hc)).1
  have hspace : ∀ c ∈ s, isAsciiSpace c = false := fun c hc => (hplain c (h c hc)).2.1
  have hleft : s.dropWhile isAsciiSpace = s := by
    rw [List.dropWhile_eq_self_iff]
    intro hpos
    rw [hspace _ (List.getElem_mem hpos)]
    exact Bool.false_ne_true
  have hright : s.rdropWhile isAsciiSpace = s := by
    rw [List.rdropWhile_eq_self_iff]
    intro hne
    rw [hspace _ (List.getLast_mem hne)]
    exact Bool.false_ne_true
  have hsign : skipSign s = s := by
    cases s with
    | nil => rfl
    | cons c s =>
        obtain ⟨-, -, hplus, hminus, -⟩ := hplain c (h c List.mem_cons_self)
        rw [skipSign, if_neg (not_or.mpr ⟨hplus, hminus⟩)]
  have hprefix : skipPrefix s = s := by
    cases s with
    | nil => rfl
    | cons c s =>
        cases s with
        | nil => rfl
        | cons x s =>
            obtain ⟨-, -, -, -, hx, hx', -⟩ :=
              hplain x (h x (List.mem_cons_of_mem c List.mem_cons_self))
            rw [skipPrefix, if_neg fun hprefixed => hprefixed.2.elim hx hx']
  have hunderscore : '_' ∉ s := fun hmem => (hplain _ (h _ hmem)).2.2.2.2.2.2.1 rfl
  simp only [readsHex, hmap, hleft, hright, hsign, hprefix, List.splitOn_eq_singleton hunderscore,
    List.all_cons, List.all_nil, Bool.and_true, Bool.and_eq_true, Bool.not_eq_true',
    List.isEmpty_eq_false_iff, List.all_eq_true, decide_eq_true_eq]
  exact ⟨hs, fun c hc => (hplain c (h c hc)).2.2.2.2.2.2.2⟩

/-- `uuid.UUID` accepts every id the store generates. -/
theorem parsesAsUuid_of_canonical {id : Id} (h : Canonical id) : parsesAsUuid id = true := by
  have hnot : ∀ x, x ≠ '-' → x ∉ lowerHexDigits → x ∉ id.toList := fun x hx hx' hm =>
    (h.2 x hm).elim hx hx'
  have hstrip : stripBraces id.toList = id.toList := by
    refine stripBraces_eq_self fun c hc => ?_
    rcases h.2 c hc with rfl | hc
    · decide
    · have hbrace : lowerHexDigits.all (fun d => !(d == '{' || d == '}')) = true := by decide
      simpa using List.all_eq_true.mp hbrace c hc
  have hurn : removeAll "urn:".toList id.toList = id.toList :=
    removeAll_eq_self (x := ':') (by decide) _ (hnot ':' (by decide) (by decide))
  have huuid : removeAll "uuid:".toList id.toList = id.toList :=
    removeAll_eq_self (x := ':') (by decide) _ (hnot ':' (by decide) (by decide))
  simp only [parsesAsUuid, hurn, huuid, hstrip, Bool.and_eq_true, beq_iff_eq]
  refine ⟨h.length_digits, readsHex_of_digits ?_ fun c hc => ?_⟩
  · intro hnil
    have hlength := h.length_digits
    rw [hnil] at hlength
    cases hlength
  · obtain ⟨hc, hne⟩ := List.mem_filter.mp hc
    exact (h.2 c hc).resolve_left (by simpa using hne)

example : Canonical "6f1c0000-0000-4000-8000-000000000001" := by decide

end Uuid

end AuthzKit
