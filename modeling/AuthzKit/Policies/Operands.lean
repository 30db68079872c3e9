import AuthzKit.Policies.Absence

/-!
Conditions on operands of unexpected types.

An ordering expects numbers and a membership test a list; null is let through. What else a path
leads to is left to Python, which compares some values, finds something in some containers and
raises on the rest.

* `Harmless`: the operands on which a comparison of unexpected types is false;
  `compare_mistyped_iff` says that this is exact.
* `Reaches`: the comparisons an evaluation comes to; `evaluateExpression_returns_iff` says that it
  returns when they all do.
* `tolerates_iff`: both, of a well-formed condition.
-/

namespace AuthzKit

namespace PyValue

/-- Numbers and booleans, and null, which an ordering lets through. -/
def NumberOrNone (v : PyValue) : Prop := v = .none ∨ (numeric v).isSome = true

/-- Lists, and null, which a membership test takes for an empty one. -/
def ListOrNone (v : PyValue) : Prop := v = .none ∨ ∃ xs, v = .list xs

/-- Two strings or two lists that are not in order; `orEqual` is the order `≤`. -/
def Unordered (orEqual : Bool) (a b : PyValue) : Prop :=
  (∃ s t, a = .str s ∧ b = .str t ∧ ¬(if orEqual then s ≤ t else s < t)) ∨
    ∃ xs ys, a = .list xs ∧ b = .list ys ∧ lessList orEqual xs ys = .ok false

/-- A text without a part, or a mapping without a key; only scalars are looked up. -/
def Excludes (container needle : PyValue) : Prop :=
  (∃ s part, container = .str s ∧ needle = .str part ∧ ¬part.toList <:+: s.toList) ∨
    ∃ es, container = .dict es ∧ (∀ xs, needle ≠ .list xs) ∧ (∀ fs, needle ≠ .dict fs) ∧
      ∀ key, needle = .str key → key ∉ es.map Prod.fst

/-- A nonempty text with a part, or a mapping with a key. -/
def Includes (container needle : PyValue) : Prop :=
  (∃ s part, container = .str s ∧ s ≠ "" ∧ needle = .str part ∧ part.toList <:+: s.toList) ∨
    ∃ es key, container = .dict es ∧ needle = .str key ∧ key ∈ es.map Prod.fst

lemma infix_iff {part s : List Char} : part <:+: s ↔ ∃ rest, rest <:+ s ∧ part <+: rest := by
  rw [List.infix_iff_prefix_suffix]
  exact exists_congr fun _ => and_comm

/-- Values that are neither two texts nor two lists compare as numbers. -/
lemma less_of_not_sequences {orEqual : Bool} {a b : PyValue}
    (hstr : ¬∃ s t, a = .str s ∧ b = .str t) (hlist : ¬∃ xs ys, a = .list xs ∧ b = .list ys) :
    less orEqual a b = match numeric a, numeric b with
      | some x, some y => .ok (if orEqual then decide (x ≤ y) else decide (x < y))
      | _, _ => .error .typeError := by
  cases a <;> cases b <;>
    first | rfl | exact absurd ⟨_, _, rfl, rfl⟩ hstr | exact absurd ⟨_, _, rfl, rfl⟩ hlist

/-- Numbers are ordered. -/
lemma exists_less {orEqual : Bool} {a b : PyValue} (ha : (numeric a).isSome = true)
    (hb : (numeric b).isSome = true) : ∃ r, less orEqual a b = .ok r := by
  have hstr : ¬∃ s t, a = .str s ∧ b = .str t := by
    rintro ⟨s, t, rfl, rfl⟩
    cases ha
  have hlist : ¬∃ xs ys, a = .list xs ∧ b = .list ys := by
    rintro ⟨xs, ys, rfl, rfl⟩
    cases ha
  obtain ⟨x, hx⟩ := Option.isSome_iff_exists.mp ha
  obtain ⟨y, hy⟩ := Option.isSome_iff_exists.mp hb
  rw [less_of_not_sequences hstr hlist, hx, hy]
  exact ⟨_, rfl⟩

/-- Other values are out of order only where they are unordered. -/
lemma less_eq_false_iff {orEqual : Bool} {a b : PyValue}
    (h : ¬((numeric a).isSome = true ∧ (numeric b).isSome = true)) :
    less orEqual a b = .ok false ↔ Unordered orEqual a b := by
  by_cases hstr : ∃ s t, a = .str s ∧ b = .str t
  · obtain ⟨s, t, rfl, rfl⟩ := hstr
    cases orEqual <;> simp [less, Unordered]
  by_cases hlist : ∃ xs ys, a = .list xs ∧ b = .list ys
  · obtain ⟨xs, ys, rfl, rfl⟩ := hlist
    simp [less, Unordered]
  have hraises : less orEqual a b = .error .typeError := by
    rw [less_of_not_sequences hstr hlist]
    cases hx : numeric a with
    | none => rfl
    | some x =>
        cases hy : numeric b with
        | none => rfl
        | some y => exact absurd ⟨by rw [hx]; rfl, by rw [hy]; rfl⟩ h
  rw [hraises]
  refine iff_of_false (by simp) ?_
  rintro (⟨s, t, ha, hb, -⟩ | ⟨xs, ys, ha, hb, -⟩)
  · exact hstr ⟨s, t, ha, hb⟩
  · exact hlist ⟨xs, ys, ha, hb⟩

end PyValue

namespace Policies

open PyValue

/-! ### One comparison -/

/-- An ordering with an operand that is no number, or a membership test in what is no list. -/
def Mistyped (op : String) (left right : PyValue) : Prop :=
  (op ∈ ["lt", "lte", "gt", "gte"] ∧ ¬(left.NumberOrNone ∧ right.NumberOrNone)) ∨
    (op ∈ ["in", "not_in"] ∧ ¬right.ListOrNone)

/-- The operands of an ordering that Python lets pass without raising and does not find in order. -/
def Disordered (orEqual : Bool) (a b : PyValue) : Prop :=
  (a.NumberOrNone ∧ b.NumberOrNone) ∨ a = .none ∨ b = .none ∨ Unordered orEqual a b

/-- The operands on which a comparison is of the expected types, or false. -/
def Harmless (op : String) (left right : PyValue) : Prop :=
  (op = "lt" → Disordered false left right) ∧ (op = "lte" → Disordered true left right) ∧
  (op = "gt" → Disordered false right left) ∧ (op = "gte" → Disordered true right left) ∧
  (op = "in" → right.ListOrNone ∨ truthy right = false ∨ Excludes right left) ∧
  (op = "not_in" → right.ListOrNone ∨ Includes right left)

lemma present_of_ne {v : PyValue} (h : v ≠ .none) : present v = true := by
  cases v <;> first | rfl | exact absurd rfl h

/-- A comparison of order, as `compare` makes it. -/
lemma ordered_iff {orEqual : Bool} {a b : PyValue} :
    (¬(a.NumberOrNone ∧ b.NumberOrNone) →
        (if present a && present b then less orEqual a b else .ok false) = .ok false) ↔
      Disordered orEqual a b := by
  by_cases ha : a = .none
  · simp [ha, present, Disordered]
  by_cases hb : b = .none
  · simp [hb, present, Disordered]
  rw [present_of_ne ha, present_of_ne hb, Bool.and_true, if_pos rfl, Disordered]
  by_cases hnumbers : a.NumberOrNone ∧ b.NumberOrNone
  · simp [hnumbers]
  · have hnot : ¬((numeric a).isSome = true ∧ (numeric b).isSome = true) := fun h =>
      hnumbers ⟨Or.inr h.1, Or.inr h.2⟩
    simp [hnumbers, ha, hb, less_eq_false_iff hnot]

lemma ordered_returns {orEqual : Bool} {a b : PyValue} (h : a.NumberOrNone ∧ b.NumberOrNone) :
    ∃ r, (if present a && present b then less orEqual a b else .ok false) = .ok r := by
  split
  · rename_i hpresent
    rw [Bool.and_eq_true] at hpresent
    refine exists_less (h.1.resolve_left ?_) (h.2.resolve_left ?_)
    · rintro rfl
      exact absurd hpresent.1 (by decide)
    · rintro rfl
      exact absurd hpresent.2 (by decide)
  · exact ⟨false, rfl⟩

/-- What `in` finds in a container that is no list. -/
lemma contains_eq_false_iff {left right : PyValue} (h : ¬right.ListOrNone) :
    contains left (if truthy right then right else .list []) = .ok false ↔
      truthy right = false ∨ Excludes right left := by
  by_cases htruthy : truthy right = true
  · rw [if_pos htruthy]
    cases right with
    | str s => cases left <;> simp_all [contains, Excludes, ← Bool.not_eq_true, infix_iff]
    | dict es => cases left <;> simp_all [contains, Excludes, ← Bool.not_eq_true]
    | list xs => exact absurd (Or.inr ⟨xs, rfl⟩) h
    | _ => simp_all [contains, Excludes, ListOrNone]
  · simp_all [contains]

lemma contains_eq_true_iff {left right : PyValue} (h : ¬right.ListOrNone) :
    contains left (if truthy right then right else .list []) = .ok true ↔ Includes right left := by
  by_cases htruthy : truthy right = true
  · rw [if_pos htruthy]
    cases right with
    | str s => cases left <;> simp_all [contains, Includes, truthy, infix_iff]
    | dict es => cases left <;> simp_all [contains, Includes]
    | list xs => exact absurd (Or.inr ⟨xs, rfl⟩) h
    | _ => simp_all [contains, Includes, ListOrNone]
  · rw [if_neg htruthy]
    refine ⟨fun h => by simp [contains] at h, ?_⟩
    rintro (⟨s, part, rfl, hs, -, -⟩ | ⟨es, key, rfl, -, hkey⟩)
    · exact absurd (by simpa [truthy] using hs) htruthy
    · cases es with
      | nil => cases hkey
      | cons e es => exact absurd rfl htruthy

/-- **Operands of unexpected types** make a comparison false exactly where they are harmless. -/
theorem compare_mistyped_iff {op : String} {left right : PyValue} (hop : op ∈ comparisonOperators) :
    (Mistyped op left right → compare op left right = .ok false) ↔ Harmless op left right := by
  simp only [comparisonOperators, List.mem_cons, List.not_mem_nil, or_false] at hop
  rcases hop with rfl | rfl | rfl | rfl | rfl | rfl | rfl | rfl
  · simp [Mistyped, Harmless]
  · simp [Mistyped, Harmless]
  · simpa [Mistyped, Harmless, compare] using ordered_iff
  · simpa [Mistyped, Harmless, compare] using ordered_iff
  · have h : (¬(right.NumberOrNone ∧ left.NumberOrNone) → _) ↔ Disordered false right left :=
      ordered_iff
    simpa [Mistyped, Harmless, compare, Bool.and_comm, and_comm] using h
  · have h : (¬(right.NumberOrNone ∧ left.NumberOrNone) → _) ↔ Disordered true right left :=
      ordered_iff
    simpa [Mistyped, Harmless, compare, Bool.and_comm, and_comm] using h
  · by_cases hlist : right.ListOrNone
    · simp [Mistyped, Harmless, hlist]
    · simpa [Mistyped, Harmless, compare, hlist] using contains_eq_false_iff hlist
  · by_cases hlist : right.ListOrNone
    · simp [Mistyped, Harmless, hlist]
    · have h : Except.map (!·) (contains left (if truthy right then right else .list [])) =
          .ok false ↔ Includes right left := by
        rw [← contains_eq_true_iff hlist]
        cases contains left (if truthy right then right else .list []) <;> simp [Except.map]
      simpa [Mistyped, Harmless, compare, hlist] using h

/-- Operands of the expected types are compared. -/
lemma exists_compare {op : String} {left right : PyValue} (hop : op ∈ comparisonOperators)
    (h : ¬Mistyped op left right) : ∃ b, compare op left right = .ok b := by
  simp only [comparisonOperators, List.mem_cons, List.not_mem_nil, or_false] at hop
  rcases hop with rfl | rfl | rfl | rfl | rfl | rfl | rfl | rfl
  · exact ⟨_, rfl⟩
  · exact ⟨_, rfl⟩
  · exact ordered_returns (by simpa [Mistyped] using h)
  · exact ordered_returns (by simpa [Mistyped] using h)
  · have h' : right.NumberOrNone ∧ left.NumberOrNone := by simpa [Mistyped, and_comm] using h
    simpa [compare, Bool.and_comm] using ordered_returns h'
  · have h' : right.NumberOrNone ∧ left.NumberOrNone := by simpa [Mistyped, and_comm] using h
    simpa [compare, Bool.and_comm] using ordered_returns h'
  · obtain rfl | ⟨xs, rfl⟩ : right.ListOrNone := by simpa [Mistyped] using h
    · exact ⟨_, rfl⟩
    · cases xs with
      | nil => exact ⟨_, rfl⟩
      | cons x xs => exact ⟨_, rfl⟩
  · obtain rfl | ⟨xs, rfl⟩ : right.ListOrNone := by simpa [Mistyped] using h
    · exact ⟨_, rfl⟩
    · cases xs with
      | nil => exact ⟨_, rfl⟩
      | cons x xs => exact ⟨_, rfl⟩

/-! ### Conditions -/

/-- The operator that all (`unit = true`) or any of its operands satisfy. -/
def junction (unit : Bool) : String := if unit then "and" else "or"

/-- Conditions of known operators: comparisons of two operands, `and` and `or` of lists, `not`, and
the constants. -/
inductive WellFormed : PyValue → Prop
  | none : WellFormed .none
  | bool (b : Bool) : WellFormed (.bool b)
  | comparison {c : Comparison} (h : c.1 ∈ comparisonOperators) : WellFormed c.expression
  | junction (unit : Bool) {es : List PyValue} (h : ∀ e ∈ es, WellFormed e) :
      WellFormed (.dict [(junction unit, .list es)])
  | not {e : PyValue} (h : WellFormed e) : WellFormed (.dict [("not", e)])
  | notList {e : PyValue} (h : WellFormed e) : WellFormed (.dict [("not", .list [e])])

section Evaluation

variable (getattr : GetAttr) (vars : List (String × PyValue))

/-- The comparisons an evaluation comes to: a junction stops at the first operand that decides. -/
inductive Reaches : PyValue → Comparison → Prop
  | comparison {c : Comparison} (h : c.1 ∈ comparisonOperators) : Reaches c.expression c
  | junction (unit : Bool) {before after : List PyValue} {e : PyValue} {c : Comparison}
      (hbefore : ∀ x ∈ before, evaluateExpression getattr vars x = .ok unit) (h : Reaches e c) :
      Reaches (.dict [(junction unit, .list (before ++ e :: after))]) c
  | not {e : PyValue} {c : Comparison} (h : Reaches e c) : Reaches (.dict [("not", e)]) c
  | notList {e : PyValue} {c : Comparison} (h : Reaches e c) :
      Reaches (.dict [("not", .list [e])]) c

/-- The value of a comparison. -/
def Comparison.value (c : Comparison) : Except PyError Bool :=
  compare c.1 (resolve getattr vars c.2.1) (resolve getattr vars c.2.2)

variable {getattr vars}

lemma junction_not_mem (unit : Bool) : junction unit ∉ comparisonOperators := by
  cases unit <;> decide

lemma not_not_mem : "not" ∉ comparisonOperators := by decide

lemma junction_ne_not (unit : Bool) : junction unit ≠ "not" := by cases unit <;> decide

lemma evaluateExpression_junction (unit : Bool) (es : List PyValue) :
    evaluateExpression getattr vars (.dict [(junction unit, .list es)]) =
      evaluateList getattr vars unit es := by
  cases unit <;> rfl

lemma exists_map_iff {r : Except PyError Bool} : (∃ b, r.map (!·) = .ok b) ↔ ∃ b, r = .ok b := by
  cases r <;> simp [Except.map]

lemma WellFormed.evaluateExpression_not {e : PyValue} (h : WellFormed e) :
    evaluateExpression getattr vars (.dict [("not", e)]) =
      (evaluateExpression getattr vars e).map (!·) := by
  cases h <;> rfl

/-- A well-formed condition is no comparison, junction or negation but the one it is. -/
lemma reaches_iff {e : PyValue} {c : Comparison} :
    Reaches getattr vars e c ↔
      (c.1 ∈ comparisonOperators ∧ e = c.expression) ∨
      (∃ unit before e' after, e = .dict [(junction unit, .list (before ++ e' :: after))] ∧
        (∀ x ∈ before, evaluateExpression getattr vars x = .ok unit) ∧ Reaches getattr vars e' c) ∨
      (∃ e', e = .dict [("not", e')] ∧ Reaches getattr vars e' c) ∨
      ∃ e', e = .dict [("not", .list [e'])] ∧ Reaches getattr vars e' c := by
  constructor
  · rintro (h | ⟨unit, hbefore, h⟩ | h | h)
    · exact Or.inl ⟨h, rfl⟩
    · exact Or.inr (Or.inl ⟨unit, _, _, _, rfl, hbefore, h⟩)
    · exact Or.inr (Or.inr (Or.inl ⟨_, rfl, h⟩))
    · exact Or.inr (Or.inr (Or.inr ⟨_, rfl, h⟩))
  · rintro (⟨h, rfl⟩ | ⟨unit, before, e', after, rfl, hbefore, h⟩ | ⟨e', rfl, h⟩ | ⟨e', rfl, h⟩)
    · exact .comparison h
    · exact .junction unit hbefore h
    · exact .not h
    · exact .notList h

lemma junction_injective {unit unit' : Bool} (h : junction unit = junction unit') : unit = unit' := by
  cases unit <;> cases unit' <;> first | rfl | exact absurd h (by decide)

lemma Reaches.operator_mem {e : PyValue} {c : Comparison} (h : Reaches getattr vars e c) :
    c.1 ∈ comparisonOperators := by
  induction h with
  | comparison h => exact h
  | junction _ _ _ ih => exact ih
  | not _ ih => exact ih
  | notList _ ih => exact ih

/-- A comparison comes to itself. -/
lemma Reaches.eq_of_comparison {c c' : Comparison} (hop : c.1 ∈ comparisonOperators)
    (h : Reaches getattr vars c.expression c') : c' = c := by
  rcases reaches_iff.mp h with ⟨-, heq⟩ | ⟨unit, before, e, after, heq, -⟩ | ⟨e, heq, -⟩ | ⟨e, heq, -⟩
  · simp only [Comparison.expression, PyValue.dict.injEq, List.cons.injEq, Prod.mk.injEq,
      PyValue.list.injEq, and_true] at heq
    exact Prod.ext heq.1.symm (Prod.ext heq.2.1.symm heq.2.2.symm)
  · have hjunction : c.1 = Policies.junction unit := by simp_all [Comparison.expression]
    exact absurd (hjunction ▸ hop) (junction_not_mem unit)
  · have hnot : c.1 = "not" := by simp_all [Comparison.expression]
    exact absurd (hnot ▸ hop) not_not_mem
  · have hnot : c.1 = "not" := by simp_all [Comparison.expression]
    exact absurd (hnot ▸ hop) not_not_mem

lemma reaches_junction_iff {unit : Bool} {es : List PyValue} {c : Comparison} :
    Reaches getattr vars (.dict [(junction unit, .list es)]) c ↔
      ∃ before e after, es = before ++ e :: after ∧
        (∀ x ∈ before, evaluateExpression getattr vars x = .ok unit) ∧ Reaches getattr vars e c := by
  constructor
  · intro h
    rcases reaches_iff.mp h with ⟨hop, heq⟩ | ⟨unit', before, e, after, heq, hbefore, he⟩ |
      ⟨e, heq, -⟩ | ⟨e, heq, -⟩
    · have hjunction : junction unit = c.1 := by simp_all [Comparison.expression]
      exact absurd (hjunction ▸ hop) (junction_not_mem unit)
    · simp only [PyValue.dict.injEq, List.cons.injEq, Prod.mk.injEq, PyValue.list.injEq,
        and_true] at heq
      obtain rfl := junction_injective heq.1
      exact ⟨before, e, after, heq.2, hbefore, he⟩
    · exact absurd (by simp_all : junction unit = "not") (junction_ne_not unit)
    · exact absurd (by simp_all : junction unit = "not") (junction_ne_not unit)
  · rintro ⟨before, e, after, rfl, hbefore, he⟩
    exact .junction unit hbefore he

lemma reaches_not_iff {e : PyValue} {c : Comparison} (h : WellFormed e) :
    Reaches getattr vars (.dict [("not", e)]) c ↔ Reaches getattr vars e c := by
  refine ⟨fun hc => ?_, .not⟩
  rcases reaches_iff.mp hc with ⟨hop, heq⟩ | ⟨unit, before, e', after, heq, -⟩ | ⟨e', heq, he⟩ |
    ⟨e', heq, -⟩
  · exact absurd (by simp_all [Comparison.expression] : c.1 = "not") fun hnot =>
      not_not_mem (hnot ▸ hop)
  · exact absurd (by simp_all : junction unit = "not") (junction_ne_not unit)
  · simp only [PyValue.dict.injEq, List.cons.injEq, Prod.mk.injEq, true_and, and_true] at heq
    exact heq ▸ he
  · simp only [PyValue.dict.injEq, List.cons.injEq, Prod.mk.injEq, true_and, and_true] at heq
    subst heq
    nomatch h

lemma reaches_notList_iff {e : PyValue} {c : Comparison} :
    Reaches getattr vars (.dict [("not", .list [e])]) c ↔ Reaches getattr vars e c := by
  refine ⟨fun hc => ?_, .notList⟩
  rcases reaches_iff.mp hc with ⟨hop, heq⟩ | ⟨unit, before, e', after, heq, -⟩ | ⟨e', heq, he⟩ |
    ⟨e', heq, he⟩
  · exact absurd (by simp_all [Comparison.expression] : c.1 = "not") fun hnot =>
      not_not_mem (hnot ▸ hop)
  · exact absurd (by simp_all : junction unit = "not") (junction_ne_not unit)
  · simp only [PyValue.dict.injEq, List.cons.injEq, Prod.mk.injEq, true_and, and_true] at heq
    subst heq
    nomatch he
  · simp only [PyValue.dict.injEq, List.cons.injEq, Prod.mk.injEq, PyValue.list.injEq, true_and,
      and_true] at heq
    exact heq ▸ he

/-- The loop of `all` and `any` returns when every operand it comes to does. -/
lemma evaluateList_returns_iff {unit : Bool} {es : List PyValue} :
    (∃ b, evaluateList getattr vars unit es = .ok b) ↔
      ∀ before e after, es = before ++ e :: after →
        (∀ x ∈ before, evaluateExpression getattr vars x = .ok unit) →
          ∃ b, evaluateExpression getattr vars e = .ok b := by
  induction es with
  | nil => simp [evaluateList]
  | cons e es ih =>
      rw [evaluateList]
      constructor
      · rintro ⟨b, hb⟩ before e' after heq hbefore
        cases hvalue : evaluateExpression getattr vars e with
        | error x => simp [hvalue] at hb
        | ok b' =>
            cases before with
            | nil =>
                obtain ⟨rfl, -⟩ := List.cons.inj heq
                exact ⟨b', hvalue⟩
            | cons x before =>
                obtain ⟨rfl, hrest⟩ := List.cons.inj heq
                have hunit := hbefore e List.mem_cons_self
                rw [hunit] at hb
                simp only [if_true] at hb
                exact ih.mp ⟨b, hb⟩ before e' after hrest fun y hy =>
                  hbefore y (List.mem_cons_of_mem e hy)
      · intro h
        obtain ⟨b, hb⟩ := h [] e es rfl (by simp)
        rw [hb]
        by_cases hunit : b = unit
        · simp only [hunit, if_true]
          refine ih.mpr fun before e' after heq hbefore => ?_
          refine h (e :: before) e' after (by rw [heq]; rfl) fun x hx => ?_
          rcases List.mem_cons.mp hx with rfl | hx
          · rw [hb, hunit]
          · exact hbefore x hx
        · exact ⟨b, by simp [hunit]⟩

/-- **An evaluation returns** when every comparison it comes to does. -/
theorem evaluateExpression_returns_iff {e : PyValue} (h : WellFormed e) :
    (∃ b, evaluateExpression getattr vars e = .ok b) ↔
      ∀ c, Reaches getattr vars e c → ∃ b, c.value getattr vars = .ok b := by
  induction h with
  | none =>
      refine iff_of_true ⟨true, rfl⟩ fun c hc => ?_
      nomatch hc
  | bool b =>
      refine iff_of_true ⟨b, rfl⟩ fun c hc => ?_
      nomatch hc
  | @comparison c hop =>
      rw [evaluateExpression_comparison hop]
      constructor
      · intro h c' hc'
        rw [hc'.eq_of_comparison hop]
        exact h
      · exact fun h => h c (.comparison hop)
  | @junction unit es _ ih =>
      rw [evaluateExpression_junction, evaluateList_returns_iff]
      constructor
      · intro h c hc
        obtain ⟨before, e, after, rfl, hbefore, he⟩ := reaches_junction_iff.mp hc
        exact (ih e (by simp)).mp (h before e after rfl hbefore) c he
      · rintro h before e after rfl hbefore
        exact (ih e (by simp)).mpr fun c hc => h c (.junction unit hbefore hc)
  | @not e he ih =>
      rw [he.evaluateExpression_not, exists_map_iff, ih]
      exact forall_congr' fun c => by rw [reaches_not_iff he]
  | @notList e he ih =>
      have hvalue : evaluateExpression getattr vars (.dict [("not", .list [e])]) =
          (evaluateExpression getattr vars e).map (!·) := rfl
      rw [hvalue, exists_map_iff, ih]
      exact forall_congr' fun c => by rw [reaches_notList_iff]

/-- **Operands of unexpected types make no difference**: an evaluation returns and makes the
comparisons of unexpected types false exactly where all it comes to are harmless. -/
theorem tolerates_iff {e : PyValue} (h : WellFormed e) :
    ((∃ b, evaluateExpression getattr vars e = .ok b) ∧
      ∀ c, Reaches getattr vars e c →
        Mistyped c.1 (resolve getattr vars c.2.1) (resolve getattr vars c.2.2) →
          c.value getattr vars = .ok false) ↔
      ∀ c, Reaches getattr vars e c →
        Harmless c.1 (resolve getattr vars c.2.1) (resolve getattr vars c.2.2) := by
  constructor
  · rintro ⟨-, hfalse⟩ c hc
    exact (compare_mistyped_iff hc.operator_mem).mp (hfalse c hc)
  · intro hharmless
    have hfalse := fun c hc => (compare_mistyped_iff hc.operator_mem).mpr (hharmless c hc)
    refine ⟨(evaluateExpression_returns_iff h).mpr fun c hc => ?_, hfalse⟩
    by_cases hmistyped : Mistyped c.1 (resolve getattr vars c.2.1) (resolve getattr vars c.2.2)
    · exact ⟨false, hfalse c hc hmistyped⟩
    · exact exists_compare hc.operator_mem hmistyped

end Evaluation

end Policies

end AuthzKit
