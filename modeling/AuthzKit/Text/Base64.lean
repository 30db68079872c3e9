import Mathlib.Tactic

/-!
Texts as bytes, and bytes as letters: UTF-8 and Base64.

* `utf8`, `ofUtf8?`: `ofUtf8?_utf8` says that a text is read back, and `mem_utf8_iff` that a byte
  below 128 stands for its letter only.
* `Base64.encode`, `Base64.decode?`: the alphabet with `+` and `/`, padded; `decode?_encode` says
  that bytes are read back. Nothing but the alphabet is decoded; the bits that are left over in the
  last letter are ignored, and so is padding behind a quad that needs none.
-/

namespace AuthzKit

namespace Text

/-! ### UTF-8 -/

/-- `s.encode("utf-8")`. -/
def utf8 (s : String) : List UInt8 := s.toList.flatMap String.utf8EncodeChar

/-- `raw.decode("utf-8")`. -/
def ofUtf8? (raw : List UInt8) : Option String :=
  raw.toByteArray.utf8Decode?.map fun letters => String.ofList letters.toList

theorem ofUtf8?_utf8 (s : String) : ofUtf8? (utf8 s) = some s := by
  have hdecode := List.utf8Decode?_utf8Encode (l := s.toList)
  rw [List.utf8Encode] at hdecode
  rw [ofUtf8?, utf8, hdecode, Option.map_some, List.toList_toArray, String.ofList_toList]

/-- Only its own bytes are read as a text. -/
theorem utf8_of_ofUtf8? {raw : List UInt8} {s : String} (h : ofUtf8? raw = some s) :
    utf8 s = raw := by
  obtain ⟨letters, hletters, rfl⟩ := Option.map_eq_some_iff.mp h
  obtain ⟨l, hl⟩ := ByteArray.isSome_utf8Decode?_iff.mp (Option.isSome_of_eq_some hletters)
  rw [hl, List.utf8Decode?_utf8Encode] at hletters
  obtain rfl := Option.some.inj hletters
  rw [utf8, String.toList_ofList, List.toList_toArray]
  rw [List.utf8Encode] at hl
  exact (List.toByteArray_inj.mp hl).symm

lemma utf8_append (s t : String) : utf8 (s ++ t) = utf8 s ++ utf8 t := by
  rw [utf8, String.toList_append, List.flatMap_append]
  rfl

/-- A byte below 128 stands for a letter by itself. -/
lemma mem_utf8EncodeChar {b : UInt8} {c : Char} (hb : b.toNat < 128)
    (h : b ∈ String.utf8EncodeChar c) : c.toNat = b.toNat := by
  have hlarge : ∀ n, 128 ≤ n → n < 256 → b ≠ UInt8.ofNat n := by
    intro n hn hn' heq
    rw [heq, UInt8.toNat_ofNat', Nat.mod_eq_of_lt hn'] at hb
    omega
  have hc : c.toNat = c.val.toNat := rfl
  rw [String.utf8EncodeChar] at h
  rw [hc]
  generalize c.val.toNat = n at *
  split_ifs at h with h1 h2 h3
  · rw [List.mem_singleton] at h
    rw [h, UInt8.toNat_ofNat']
    omega
  all_goals simp only [List.mem_cons, List.not_mem_nil, or_false] at h
  · rcases h with h | h
    · exact absurd h (hlarge _ (by omega) (by omega))
    · exact absurd h (hlarge _ (by omega) (by omega))
  · rcases h with h | h | h
    · exact absurd h (hlarge _ (by omega) (by omega))
    · exact absurd h (hlarge _ (by omega) (by omega))
    · exact absurd h (hlarge _ (by omega) (by omega))
  · rcases h with h | h | h | h
    · exact absurd h (hlarge _ (by omega) (by omega))
    · exact absurd h (hlarge _ (by omega) (by omega))
    · exact absurd h (hlarge _ (by omega) (by omega))
    · exact absurd h (hlarge _ (by omega) (by omega))

/-- So it is one of a text exactly when its letter is. -/
theorem mem_utf8_iff {s : String} {c : Char} (hc : c.toNat < 128) :
    UInt8.ofNat c.toNat ∈ utf8 s ↔ c ∈ s.toList := by
  have hnat : (UInt8.ofNat c.toNat).toNat = c.toNat := by
    rw [UInt8.toNat_ofNat']
    omega
  have hchar : String.utf8EncodeChar c = [UInt8.ofNat c.toNat] := by
    have hle : c.val.toNat ≤ 127 := Nat.lt_succ_iff.mp hc
    rw [String.utf8EncodeChar, if_pos hle]
    rfl
  rw [utf8, List.mem_flatMap]
  constructor
  · rintro ⟨c', hc', hmem⟩
    have hsame := mem_utf8EncodeChar (by rw [hnat]; exact hc) hmem
    rw [hnat] at hsame
    exact Char.toNat_inj.mp hsame ▸ hc'
  · intro h
    exact ⟨c, h, hchar ▸ List.mem_singleton_self _⟩

end Text

/-! ### Base64 -/

namespace Base64

/-- The letters of the digits. -/
def alphabet : List Char :=
  "ABCDEFGHIJKLMNOPQRSTUVWXYZabcdefghijklmnopqrstuvwxyz0123456789+/".toList

/-- The letter of a digit below 64. -/
def letter (digit : ℕ) : Char := alphabet.getD digit '='

/-- The digit of a letter. -/
def digit? (c : Char) : Option ℕ := alphabet.idxOf? c

/-- `base64.b64encode`. -/
def encode : List UInt8 → List Char
  | [] => []
  | [a] => [letter (a.toNat / 4), letter (a.toNat % 4 * 16), '=', '=']
  | [a, b] =>
      [letter (a.toNat / 4), letter (a.toNat % 4 * 16 + b.toNat / 16), letter (b.toNat % 16 * 4),
        '=']
  | a :: b :: c :: bytes =>
      letter (a.toNat / 4) :: letter (a.toNat % 4 * 16 + b.toNat / 16) ::
        letter (b.toNat % 16 * 4 + c.toNat / 64) :: letter (c.toNat % 64) :: encode bytes

/-- The first, the second and the third byte of four digits. -/
def first (a b : ℕ) : UInt8 := UInt8.ofNat (a * 4 + b / 16)

def second (b c : ℕ) : UInt8 := UInt8.ofNat (b % 16 * 16 + c / 4)

def third (c d : ℕ) : UInt8 := UInt8.ofNat (c % 4 * 64 + d)

/-- The quads of `binascii.a2b_base64` in its strict mode. -/
def decodeQuads? : List Char → Option (List UInt8)
  | [] => some []
  | a :: b :: c :: d :: letters =>
      -- padding where a quad would begin is skipped, if nothing else follows
      if (a :: b :: c :: d :: letters).all (· == '=') then some []
      else if letters = [] ∧ d = '=' then
        if c = '=' then do
          let a ← digit? a
          let b ← digit? b
          some [first a b]
        else do
          let a ← digit? a
          let b ← digit? b
          let c ← digit? c
          some [first a b, second b c]
      else do
        let a ← digit? a
        let b ← digit? b
        let c ← digit? c
        let d ← digit? d
        let bytes ← decodeQuads? letters
        some (first a b :: second b c :: third c d :: bytes)
  | letters => if letters.all (· == '=') then some [] else none

/-- `base64.b64decode` with `validate`. -/
def decode? (letters : List Char) : Option (List UInt8) :=
  if letters.head? = some '=' then none else decodeQuads? letters

lemma digit?_letter {n : ℕ} (h : n < 64) : digit? (letter n) = some n := by
  have hall : ∀ n : Fin 64, digit? (letter n) = some (n : ℕ) := by decide +kernel
  exact hall ⟨n, h⟩

lemma letter_mem {n : ℕ} (h : n < 64) : letter n ∈ alphabet := by
  have hall : ∀ n : Fin 64, letter n ∈ alphabet := by decide +kernel
  exact hall ⟨n, h⟩

lemma pad_notMem : '=' ∉ alphabet := by decide +kernel

lemma letter_ne_pad {n : ℕ} (h : n < 64) : letter n ≠ '=' := by
  intro heq
  exact pad_notMem (heq ▸ letter_mem h)

/-- Bytes put together again. -/
lemma first_eq (a : UInt8) {n : ℕ} (h : n < 16) : first (a.toNat / 4) (a.toNat % 4 * 16 + n) = a := by
  rw [first, ← UInt8.toNat_inj, UInt8.toNat_ofNat']
  have ha := a.toNat_lt
  omega

lemma second_eq (b : UInt8) (m : ℕ) {n : ℕ} (h : n < 4) :
    second (m * 16 + b.toNat / 16) (b.toNat % 16 * 4 + n) = b := by
  rw [second, ← UInt8.toNat_inj, UInt8.toNat_ofNat']
  have hb := b.toNat_lt
  omega

lemma third_eq (c : UInt8) (m : ℕ) : third (m * 4 + c.toNat / 64) (c.toNat % 64) = c := by
  rw [third, ← UInt8.toNat_inj, UInt8.toNat_ofNat']
  have hc := c.toNat_lt
  omega

/-- A text that begins with a letter is not all padding. -/
lemma not_all_pad {n : ℕ} (h : n < 64) (letters : List Char) :
    ¬(letter n :: letters).all (· == '=') := by
  intro hall
  have hpad := List.all_eq_true.mp hall (letter n) List.mem_cons_self
  exact letter_ne_pad h (beq_iff_eq.mp hpad)

lemma decodeQuads?_encode (bytes : List UInt8) : decodeQuads? (encode bytes) = some bytes := by
  induction bytes using encode.induct with
  | case1 => rfl
  | case2 a =>
      have ha := a.toNat_lt
      rw [encode, decodeQuads?, if_neg (not_all_pad (by omega) _), if_pos ⟨rfl, rfl⟩, if_pos rfl,
        digit?_letter (by omega), digit?_letter (by omega)]
      have hfirst : first (a.toNat / 4) (a.toNat % 4 * 16) = a := first_eq a (by decide : 0 < 16)
      exact congrArg (fun a => some [a]) hfirst
  | case3 a b =>
      have ha := a.toNat_lt
      have hb := b.toNat_lt
      rw [encode, decodeQuads?, if_neg (not_all_pad (by omega) _), if_pos ⟨rfl, rfl⟩,
        if_neg (letter_ne_pad (by omega)), digit?_letter (by omega), digit?_letter (by omega),
        digit?_letter (by omega)]
      have hfirst := first_eq a (by omega : b.toNat / 16 < 16)
      have hsecond : second (a.toNat % 4 * 16 + b.toNat / 16) (b.toNat % 16 * 4) = b :=
        second_eq b _ (by decide : 0 < 4)
      exact congrArg₂ (fun a b => some [a, b]) hfirst hsecond
  | case4 a b c bytes ih =>
      have ha := a.toNat_lt
      have hb := b.toNat_lt
      have hc := c.toNat_lt
      have hpad : ¬(encode bytes = [] ∧ letter (c.toNat % 64) = '=') := fun h =>
        letter_ne_pad (by omega) h.2
      rw [encode, decodeQuads?, if_neg (not_all_pad (by omega) _), if_neg hpad,
        digit?_letter (by omega), digit?_letter (by omega), digit?_letter (by omega),
        digit?_letter (by omega), ih]
      have hfirst := first_eq a (by omega : b.toNat / 16 < 16)
      have hsecond := second_eq b (a.toNat % 4) (by omega : c.toNat / 64 < 4)
      have hthird := third_eq c (b.toNat % 16)
      exact congrArg some (congrArg₂ List.cons hfirst (congrArg₂ List.cons hsecond
        (congrArg (· :: bytes) hthird)))

/-- An encoding does not begin with padding. -/
lemma head?_encode_ne (bytes : List UInt8) : (encode bytes).head? ≠ some '=' := by
  have hletter : ∀ a : UInt8, letter (a.toNat / 4) ≠ '=' := fun a =>
    letter_ne_pad (Nat.div_lt_of_lt_mul a.toNat_lt)
  intro h
  cases bytes using encode.fun_cases with
  | case1 => cases h
  | case2 a => exact hletter a (Option.some.inj h)
  | case3 a b => exact hletter a (Option.some.inj h)
  | case4 a b c bytes => exact hletter a (Option.some.inj h)

/-- **Bytes are read back.** -/
theorem decode?_encode (bytes : List UInt8) : decode? (encode bytes) = some bytes := by
  rw [decode?, if_neg (head?_encode_ne bytes), decodeQuads?_encode]

/-- The letters of an encoding. -/
lemma mem_of_mem_encode {bytes : List UInt8} {c : Char} (h : c ∈ encode bytes) :
    c ∈ alphabet ∨ c = '=' := by
  induction bytes using encode.induct with
  | case1 => cases h
  | case2 a =>
      have ha := a.toNat_lt
      simp only [encode, List.mem_cons, List.not_mem_nil, or_false] at h
      rcases h with rfl | rfl | h | h
      · exact Or.inl (letter_mem (by omega))
      · exact Or.inl (letter_mem (by omega))
      · exact Or.inr h
      · exact Or.inr h
  | case3 a b =>
      have ha := a.toNat_lt
      have hb := b.toNat_lt
      simp only [encode, List.mem_cons, List.not_mem_nil, or_false] at h
      rcases h with rfl | rfl | rfl | h
      · exact Or.inl (letter_mem (by omega))
      · exact Or.inl (letter_mem (by omega))
      · exact Or.inl (letter_mem (by omega))
      · exact Or.inr h
  | case4 a b c bytes ih =>
      have ha := a.toNat_lt
      have hb := b.toNat_lt
      have hc := c.toNat_lt
      simp only [encode, List.mem_cons] at h
      rcases h with rfl | rfl | rfl | rfl | h
      · exact Or.inl (letter_mem (by omega))
      · exact Or.inl (letter_mem (by omega))
      · exact Or.inl (letter_mem (by omega))
      · exact Or.inl (letter_mem (by omega))
      · exact ih h

end Base64

end AuthzKit
