import Mathlib.Data.List.DropRight
import Mathlib.Data.String.Basic
import Mathlib.Tactic

/-!
References in URLs: how a program quotes them, how it splits them, and where a browser goes with
one.

* `quote`: `urllib.parse.quote`.
* `urlParse`: the scheme and the host that `urllib.parse.urlparse` finds.
* `SameOrigin`: a browser resolves the reference on the origin of the page it stands on.
* `sameOrigin_quote`: a path that is quoted stays on the origin, unless it begins with two slashes.
-/

namespace AuthzKit

namespace Text

/-! ### Quoting -/

/-- The letters that are never quoted. -/
def isUnreserved (c : Char) : Bool := c.isAlphanum || c ∈ ['_', '.', '-', '~']

def hexDigits : List Char :=
  ['0', '1', '2', '3', '4', '5', '6', '7', '8', '9', 'A', 'B', 'C', 'D', 'E', 'F']

/-- A hexadecimal digit. -/
def hexDigit (n : ℕ) : Char := hexDigits.getD n '0'

/-- A byte as `%XX`. -/
def percentByte (b : UInt8) : List Char := ['%', hexDigit (b.toNat / 16), hexDigit (b.toNat % 16)]

/-- One letter, quoted if it has to be. -/
def quoteLetter (safe : List Char) (c : Char) : List Char :=
  if isUnreserved c || safe.contains c then [c]
  else (String.utf8EncodeChar c).flatMap percentByte

/-- `quote(s, safe)`. -/
def quote (safe : List Char) (s : String) : String :=
  String.ofList (s.toList.flatMap (quoteLetter safe))

/-! ### Splitting -/

/-- A control character or a space, which a URL is stripped of. -/
def isStripped (c : Char) : Bool := c.toNat ≤ 32

/-- A tab or a line break, which is removed from a URL. -/
def isRemoved (c : Char) : Bool := c ∈ ['\t', '\n', '\r']

/-- `urlparse(url)`: the scheme and the host. -/
def urlParse (url : String) : String × String :=
  let letters := (url.toList.dropWhile isStripped).filter fun c => !isRemoved c
  let scheme := letters.takeWhile fun c => c ≠ ':'
  let hasScheme := scheme.length < letters.length && scheme.head?.any Char.isAlpha &&
    scheme.all fun c => c.isAlphanum || c ∈ ['+', '-', '.']
  let rest := if hasScheme then letters.drop (scheme.length + 1) else letters
  let host := if rest.take 2 = ['/', '/'] then
      (rest.drop 2).takeWhile fun c => c ∉ ['/', '?', '#']
    else []
  (String.ofList (if hasScheme then scheme else []), String.ofList host)

/-! ### Browsers -/

/-- A browser reads a backslash as a slash. -/
def isSlash (c : Char) : Bool := c ∈ ['/', '\\']

/-- What a browser reads of a reference. -/
def urlLetters (reference : String) : List Char :=
  ((reference.toList.dropWhile isStripped).rdropWhile isStripped).filter fun c => !isRemoved c

/-- **The reference is a path**: it begins with one slash, so that a browser stays on the origin. -/
def SameOrigin (reference : String) : Prop :=
  ∃ c rest, urlLetters reference = c :: rest ∧ isSlash c = true ∧
    ∀ d ∈ rest.head?, isSlash d = false

variable {safe : List Char} {c : Char} {s : String}

/-- A letter that is no control character is neither stripped nor removed. -/
lemma not_removed_of_not_stripped (h : isStripped c = false) : isRemoved c = false := by
  rw [isStripped, decide_eq_false_iff_not] at h
  rw [isRemoved, decide_eq_false_iff_not]
  intro hmem
  simp only [List.mem_cons, List.not_mem_nil, or_false] at hmem
  rcases hmem with rfl | rfl | rfl
  · exact h (by decide)
  · exact h (by decide)
  · exact h (by decide)

/-- A reference without control characters is read as it is. -/
lemma urlLetters_eq {letters : List Char} (h : ∀ c ∈ letters, isStripped c = false) :
    urlLetters (String.ofList letters) = letters := by
  have hdrop : letters.dropWhile isStripped = letters := by
    cases letters with
    | nil => rfl
    | cons c rest => rw [List.dropWhile_cons, if_neg (by simp [h c List.mem_cons_self])]
  have hrdrop : letters.rdropWhile isStripped = letters := by
    rw [List.rdropWhile_eq_self_iff]
    intro hne
    simp [h _ (List.getLast_mem hne)]
  rw [urlLetters, String.toList_ofList, hdrop, hrdrop, List.filter_eq_self]
  intro c hc
  rw [not_removed_of_not_stripped (h c hc)]
  rfl

lemma isUnreserved_not_stripped (h : isUnreserved c = true) : isStripped c = false := by
  have hall : ∀ n < 33, isUnreserved (Char.ofNat n) = false := by decide
  rw [isStripped, decide_eq_false_iff_not]
  intro hle
  have hc := hall c.toNat (by omega)
  rw [Char.ofNat_toNat, h] at hc
  cases hc

/-- What is evaluated on a list of letters holds of each of them. -/
lemma not_stripped_of_all {letters : List Char}
    (h : letters.all (fun c => !isStripped c) = true) : ∀ c ∈ letters, isStripped c = false := by
  intro c hc
  have hc' := List.all_eq_true.mp h c hc
  rwa [Bool.not_eq_true'] at hc'

lemma hexDigit_not_stripped (n : ℕ) : isStripped (hexDigit n) = false := by
  have hall : ∀ c ∈ hexDigits, isStripped c = false := not_stripped_of_all (by decide)
  rw [hexDigit, List.getD_eq_getElem?_getD]
  cases hdigit : hexDigits[n]? with
  | none => decide
  | some c => exact hall c (List.mem_of_getElem? hdigit)

/-- Nothing that is quoted is a control character. -/
lemma not_stripped_of_mem_quoteLetter (hsafe : ∀ d ∈ safe, isStripped d = false) {d : Char}
    (h : d ∈ quoteLetter safe c) : isStripped d = false := by
  rw [quoteLetter] at h
  split_ifs at h with hkept
  · obtain rfl := List.mem_singleton.mp h
    rcases Bool.or_eq_true_iff.mp hkept with hc | hc
    · exact isUnreserved_not_stripped hc
    · exact hsafe d (by simpa using hc)
  · obtain ⟨b, -, hb⟩ := List.mem_flatMap.mp h
    simp only [percentByte, List.mem_cons, List.not_mem_nil, or_false] at hb
    rcases hb with rfl | rfl | rfl
    · decide
    · exact hexDigit_not_stripped _
    · exact hexDigit_not_stripped _

variable (safe) in
/-- A letter is quoted as itself, or from a percent sign on. -/
lemma head?_quoteLetter (c : Char) :
    (quoteLetter safe c).head? = some c ∨ (quoteLetter safe c).head? = some '%' := by
  rw [quoteLetter]
  split_ifs
  · exact Or.inl rfl
  · right
    cases hbytes : String.utf8EncodeChar c with
    | nil => exact absurd hbytes String.utf8EncodeChar_ne_nil
    | cons b bytes => rfl

/-- **A quoted path stays on the origin**, unless it begins with two slashes or backslashes. -/
theorem sameOrigin_quote (hsafe : ∀ d ∈ safe, isStripped d = false) (hslash : '/' ∈ safe)
    {rest : List Char} (hs : s.toList = '/' :: rest) (hrest : ∀ d ∈ rest.head?, isSlash d = false) :
    SameOrigin (quote safe s) := by
  have hfirst : quoteLetter safe '/' = ['/'] := by
    rw [quoteLetter, if_pos]
    simp [hslash]
  refine ⟨'/', rest.flatMap (quoteLetter safe), ?_, by decide, ?_⟩
  · rw [quote, urlLetters_eq, hs, List.flatMap_cons, hfirst, List.singleton_append]
    intro d hd
    obtain ⟨c, -, hc⟩ := List.mem_flatMap.mp hd
    exact not_stripped_of_mem_quoteLetter hsafe hc
  · cases rest with
    | nil => simp
    | cons e rest =>
        intro d hd
        have he := hrest e rfl
        rw [List.flatMap_cons] at hd
        rcases head?_quoteLetter safe e with h | h
        · rw [List.head?_append, h] at hd
          obtain rfl := Option.some.inj hd
          exact he
        · rw [List.head?_append, h] at hd
          obtain rfl := Option.some.inj hd
          decide

end Text

end AuthzKit
