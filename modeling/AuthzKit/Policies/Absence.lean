import AuthzKit.Policies.Expressions

/-!
Conditions whose paths lead to nothing.

`resolve` renders a missing attribute as `None`, and each operator of `compare` makes its own of
it. `Fails` says on which operands a comparison with a missing one is false;
`absent_never_satisfies_iff` says that this is exact, and that conditions made of such
comparisons with `and` and `or` are then not satisfied.
-/

namespace AuthzKit

namespace Policies

open PyValue

/-- The operators of a comparison. -/
def comparisonOperators : List String := ["eq", "ne", "lt", "lte", "gt", "gte", "in", "not_in"]

/-- One comparison: its operator and its two operands. -/
abbrev Comparison := String × PyValue × PyValue

/-- The comparison as a condition. -/
def Comparison.expression (c : Comparison) : PyValue := .dict [(c.1, .list [c.2.1, c.2.2])]

/-- The operand is a path that leads to nothing. -/
def Absent (getattr : GetAttr) (vars : List (String × PyValue)) (operand : PyValue) : Prop :=
  (∃ path, operand = .str path ∧ pathPrefixes.any fun p => p.toList.isPrefixOf path.toList) ∧
    resolve getattr vars operand = .none

/-- The comparison has a path operand that leads to nothing. -/
def Missing (getattr : GetAttr) (vars : List (String × PyValue)) (c : Comparison) : Prop :=
  c.1 ∈ comparisonOperators ∧ (Absent getattr vars c.2.1 ∨ Absent getattr vars c.2.2)

/-- The operands on which an operator takes a missing one for a failure: `ne` only where both are
missing, `in` only where the container is none, empty, a mapping or a list without null, and
`not_in` only where null is in the list. -/
def Fails (op : String) (left right : PyValue) : Prop :=
  (op = "eq" → ¬ (left = .none ∧ right = .none)) ∧
  (op = "ne" → left = .none ∧ right = .none) ∧
  (op = "in" → truthy right = true →
    (∃ entries, right = .dict entries) ∨ ∃ xs, right = .list xs ∧ .none ∉ xs) ∧
  (op = "not_in" → ∃ xs, right = .list xs ∧ .none ∈ xs)

/-- Conditions built from comparisons with `and` and `or` only. -/
inductive Composed (comparisons : Set Comparison) : PyValue → Prop
  | comparison {c : Comparison} (h : c ∈ comparisons) : Composed comparisons c.expression
  | and {es : List PyValue} (hne : es ≠ []) (h : ∀ e ∈ es, Composed comparisons e) :
      Composed comparisons (.dict [("and", .list es)])
  | or {es : List PyValue} (h : ∀ e ∈ es, Composed comparisons e) :
      Composed comparisons (.dict [("or", .list es)])

variable {getattr : GetAttr} {vars : List (String × PyValue)}

/-! ### One comparison -/

lemma eqv_none_iff (x : PyValue) : eqv x .none = true ↔ x = .none := by
  cases x <;> simp [eqv, numeric]

lemma none_eqv_iff (x : PyValue) : eqv .none x = true ↔ x = .none := by
  cases x <;> simp [eqv, numeric]

lemma any_eqv_none_iff (xs : List PyValue) : (xs.any fun x => eqv x .none) = true ↔ .none ∈ xs := by
  simp only [List.any_eq_true, eqv_none_iff, exists_eq_right]

lemma evaluateExpression_and (es : List PyValue) :
    evaluateExpression getattr vars (.dict [("and", .list es)]) =
      evaluateList getattr vars true es := rfl

lemma evaluateExpression_or (es : List PyValue) :
    evaluateExpression getattr vars (.dict [("or", .list es)]) =
      evaluateList getattr vars false es := rfl

lemma evaluateExpression_comparison {c : Comparison} (hop : c.1 ∈ comparisonOperators) :
    evaluateExpression getattr vars c.expression =
      compare c.1 (resolve getattr vars c.2.1) (resolve getattr vars c.2.2) := by
  obtain ⟨op, a, b⟩ := c
  have hne : ∀ name : String, name ∉ comparisonOperators → op ≠ name :=
    fun name hname heq => hname (heq ▸ hop)
  have hentry : evaluateExpression getattr vars (Comparison.expression (op, a, b)) =
      if op = "and" then evaluateOperands getattr vars true (.list [a, b])
      else if op = "or" then evaluateOperands getattr vars false (.list [a, b])
      else if op = "not" then (evaluateHead getattr vars [a, b]).map (!·)
      else compare op (resolve getattr vars a) (resolve getattr vars b) := rfl
  rw [hentry, if_neg (hne "and" (by decide)), if_neg (hne "or" (by decide)),
    if_neg (hne "not" (by decide))]

/-- A list container holds a missing needle where it holds null. -/
lemma contains_none (right : PyValue) :
    contains .none (if truthy right then right else .list []) = .ok false ↔
      (truthy right = true →
        (∃ entries, right = .dict entries) ∨ ∃ xs, right = .list xs ∧ .none ∉ xs) := by
  by_cases htruthy : truthy right = true
  · rw [if_pos htruthy, forall_prop_of_true htruthy]
    cases right with
    | list xs =>
        have h := any_eqv_none_iff xs
        cases hany : xs.any fun x => eqv x .none <;> simp_all [contains]
    | _ => simp [contains]
  · rw [if_neg htruthy]
    simp [contains, htruthy]

lemma not_contains_none (right : PyValue) :
    contains .none (if truthy right then right else .list []) = .ok true ↔
      ∃ xs, right = .list xs ∧ .none ∈ xs := by
  by_cases htruthy : truthy right = true
  · rw [if_pos htruthy]
    cases right with
    | list xs =>
        have h := any_eqv_none_iff xs
        cases hany : xs.any fun x => eqv x .none <;> simp_all [contains]
    | _ => simp [contains]
  · rw [if_neg htruthy]
    simp only [contains, List.any_nil, Except.ok.injEq, Bool.false_eq_true, false_iff]
    rintro ⟨xs, rfl, hmem⟩
    cases xs with
    | nil => cases hmem
    | cons x xs => exact htruthy rfl

/-- **A comparison with a missing operand** is false exactly on the operands of `Fails`. -/
lemma compare_missing_iff {op : String} {left right : PyValue} (hop : op ∈ comparisonOperators)
    (hmissing : left = .none ∨ right = .none) :
    compare op left right = .ok false ↔ Fails op left right := by
  have hpresent : (present left && present right) = false := by
    rcases hmissing with rfl | rfl
    · rfl
    · exact Bool.and_false _
  simp only [comparisonOperators, List.mem_cons, List.not_mem_nil, or_false] at hop
  rcases hop with rfl | rfl | rfl | rfl | rfl | rfl | rfl | rfl
  · rcases hmissing with rfl | rfl
    · simp [compare, Fails, ← Bool.not_eq_true, none_eqv_iff]
    · simp [compare, Fails, ← Bool.not_eq_true, eqv_none_iff]
  · rcases hmissing with rfl | rfl
    · simp [compare, Fails, none_eqv_iff]
    · simp [compare, Fails, eqv_none_iff]
  · simp [compare, Fails, hpresent]
  · simp [compare, Fails, hpresent]
  · simp [compare, Fails, hpresent]
  · simp [compare, Fails, hpresent]
  · rcases hmissing with rfl | rfl
    · simp only [compare, Fails]
      simpa using contains_none right
    · simp [compare, Fails, truthy, contains]
  · rcases hmissing with rfl | rfl
    · simp only [compare, Fails]
      have h := not_contains_none right
      cases hcontains : contains .none (if truthy right then right else .list []) with
      | error e => simp_all [Except.map]
      | ok b => cases b <;> simp_all [Except.map]
    · simp [compare, Fails, truthy, contains, Except.map]

/-! ### Conditions -/

lemma evaluateList_and {es : List PyValue} (hne : es ≠ [])
    (h : ∀ e ∈ es, evaluateExpression getattr vars e ≠ .ok true) :
    evaluateList getattr vars true es ≠ .ok true := by
  cases es with
  | nil => exact absurd rfl hne
  | cons e es =>
      have he := h e List.mem_cons_self
      rw [evaluateList]
      cases hvalue : evaluateExpression getattr vars e with
      | error x => simp
      | ok b =>
          rw [hvalue] at he
          cases b with
          | false => simp
          | true => exact absurd rfl he

lemma evaluateList_or {es : List PyValue}
    (h : ∀ e ∈ es, evaluateExpression getattr vars e ≠ .ok true) :
    evaluateList getattr vars false es ≠ .ok true := by
  induction es with
  | nil => simp [evaluateList]
  | cons e es ih =>
      have he := h e List.mem_cons_self
      rw [evaluateList]
      cases hvalue : evaluateExpression getattr vars e with
      | error x => simp
      | ok b =>
          rw [hvalue] at he
          cases b with
          | false =>
              simp only [if_true]
              exact ih fun e' he' => h e' (List.mem_cons_of_mem _ he')
          | true => exact absurd rfl he

/-- A condition made of comparisons that are not satisfied is not. -/
lemma Composed.not_satisfied {comparisons : Set Comparison} {e : PyValue}
    (h : ∀ c ∈ comparisons, evaluateExpression getattr vars (Comparison.expression c) ≠ .ok true)
    (he : Composed comparisons e) : evaluateExpression getattr vars e ≠ .ok true := by
  induction he with
  | comparison hc => exact h _ hc
  | and hne _ ih =>
      rw [evaluateExpression_and]
      exact evaluateList_and hne ih
  | or _ ih =>
      rw [evaluateExpression_or]
      exact evaluateList_or ih

/-- **Missing attributes**: comparisons with a missing path operand are all false, and no
condition made of them with `and` and `or` is satisfied, exactly where each of them has operands
its operator fails on. -/
theorem absent_never_satisfies_iff {comparisons : Set Comparison}
    (hmissing : ∀ c ∈ comparisons, Missing getattr vars c) :
    ((∀ c ∈ comparisons,
        evaluateExpression getattr vars (Comparison.expression c) = .ok false) ∧
      ∀ condition, Composed comparisons condition →
        evaluateExpression getattr vars condition ≠ .ok true) ↔
      ∀ c ∈ comparisons,
        Fails c.1 (resolve getattr vars c.2.1) (resolve getattr vars c.2.2) := by
  have hvalue : ∀ c ∈ comparisons,
      (evaluateExpression getattr vars (Comparison.expression c) = .ok false ↔
        Fails c.1 (resolve getattr vars c.2.1) (resolve getattr vars c.2.2)) := by
    intro c hc
    obtain ⟨hop, habsent⟩ := hmissing c hc
    rw [evaluateExpression_comparison hop]
    exact compare_missing_iff hop (habsent.imp And.right And.right)
  constructor
  · rintro ⟨hfalse, -⟩ c hc
    exact (hvalue c hc).mp (hfalse c hc)
  · intro hfails
    have hfalse : ∀ c ∈ comparisons,
        evaluateExpression getattr vars (Comparison.expression c) = .ok false :=
      fun c hc => (hvalue c hc).mpr (hfails c hc)
    refine ⟨hfalse, fun condition hcondition => hcondition.not_satisfied fun c hc => ?_⟩
    rw [hfalse c hc]
    simp

/-- A region compared with a missing list, and a missing clearance with a level. -/
theorem absent_never_satisfies_region :
    let comparisons : Set Comparison :=
      {("in", .str "context.region", .str "resource.regions"),
        ("gte", .str "subject.clearance", .num 3)}
    let vars : List (String × PyValue) := [("context", .dict [("region", .str "eu")])]
    ((∀ c ∈ comparisons,
        evaluateExpression (fun _ _ => .none) vars (Comparison.expression c) = .ok false) ∧
      ∀ condition, Composed comparisons condition →
        evaluateExpression (fun _ _ => .none) vars condition ≠ .ok true) ↔
      ∀ c ∈ comparisons,
        Fails c.1 (resolve (fun _ _ => .none) vars c.2.1)
          (resolve (fun _ _ => .none) vars c.2.2) := by
  refine absent_never_satisfies_iff fun c hc => ?_
  simp only [Set.mem_insert_iff, Set.mem_singleton_iff] at hc
  rcases hc with rfl | rfl
  · exact ⟨by decide, Or.inr ⟨⟨"resource.regions", rfl, by decide +kernel⟩, by rfl⟩⟩
  · exact ⟨by decide, Or.inl ⟨⟨"subject.clearance", rfl, by decide +kernel⟩, by rfl⟩⟩

/-- An attribute that is not there differs from every value, so the condition holds. -/
theorem missing_attribute_satisfies_ne :
    Missing (fun _ _ => .none) [] ("ne", .str "context.region", .str "eu") ∧
      evaluateExpression (fun _ _ => .none) []
        (.dict [("ne", .list [.str "context.region", .str "eu"])]) = .ok true :=
  ⟨⟨by decide, Or.inl ⟨⟨"context.region", rfl, by decide +kernel⟩, by rfl⟩⟩, by rfl⟩

end Policies

end AuthzKit
