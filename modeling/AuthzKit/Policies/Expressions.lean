import Mathlib.Tactic

/-!
`authzkit/policies/expressions.py`: the evaluator of ABAC conditions.

Conditions and contexts are JSON values as Python holds them (`PyValue`).
Numbers are exact: `int` and `float` compare by value in Python. What attribute
access on a value that is no mapping gives (`getattr(current, key, None)`) is
the interpreter's business and a parameter.
-/

namespace AuthzKit

/-- A Python value a condition can meet; `obj` stands for the objects only an
attribute lookup gives (methods, types). -/
inductive PyValue where
  | none
  | bool (b : Bool)
  | num (q : ℚ)
  | inf (negative : Bool)
  | str (s : String)
  | list (xs : List PyValue)
  | dict (entries : List (String × PyValue))
  | obj (id : ℕ)
deriving Repr

/-- The exceptions an evaluation can raise. -/
inductive PyError where
  | valueError
  | typeError
  | indexError
deriving DecidableEq, Repr

/-- `getattr(value, key, None)` on values that are no mapping. -/
abbrev GetAttr := PyValue → String → PyValue

namespace PyValue

/-- The number a value is in comparisons; `True` and `False` are `1` and `0`. -/
def numeric : PyValue → Option (WithBot (WithTop ℚ))
  | .bool b => some (if b then ((1 : ℚ) : WithTop ℚ) else ((0 : ℚ) : WithTop ℚ))
  | .num q => some (q : WithTop ℚ)
  | .inf negative => some (if negative then ⊥ else ((⊤ : WithTop ℚ) : WithBot (WithTop ℚ)))
  | _ => Option.none

/-- `bool(value)`. -/
def truthy : PyValue → Bool
  | .none => false
  | .bool b => b
  | .num q => q ≠ 0
  | .inf _ => true
  | .str s => s ≠ ""
  | .list xs => !xs.isEmpty
  | .dict es => !es.isEmpty
  | .obj _ => true

mutual

/-- `left == right`. -/
def eqv : PyValue → PyValue → Bool
  | .none, .none => true
  | .str a, .str b => a == b
  | .list xs, .list ys => eqvList xs ys
  | .dict es, .dict fs => es.length == fs.length && eqvDict es fs
  | .obj i, .obj j => i == j
  | a, b =>
      match numeric a, numeric b with
      | some x, some y => x == y
      | _, _ => false
termination_by structural x => x

/-- Lists are equal elementwise. -/
def eqvList : List PyValue → List PyValue → Bool
  | [], [] => true
  | x :: xs, y :: ys => eqv x y && eqvList xs ys
  | _, _ => false
termination_by structural x => x

/-- Every entry of the first mapping is in the second. -/
def eqvDict : List (String × PyValue) → List (String × PyValue) → Bool
  | [], _ => true
  | e :: es, fs => eqvEntry e fs && eqvDict es fs
termination_by structural x => x

/-- The entry is in the mapping. -/
def eqvEntry : String × PyValue → List (String × PyValue) → Bool
  | (k, v), fs =>
      match fs.lookup k with
      | some w => eqv v w
      | Option.none => false
termination_by structural x => x

end

mutual

/-- `left < right`, or `left <= right` with `orEqual`. -/
def less (orEqual : Bool) : PyValue → PyValue → Except PyError Bool
  | .str a, .str b => .ok (if orEqual then decide (a ≤ b) else decide (a < b))
  | .list xs, .list ys => lessList orEqual xs ys
  | a, b =>
      match numeric a, numeric b with
      | some x, some y => .ok (if orEqual then decide (x ≤ y) else decide (x < y))
      | _, _ => .error .typeError
termination_by structural x => x

/-- Lists compare at the first element that differs, else by length. -/
def lessList (orEqual : Bool) : List PyValue → List PyValue → Except PyError Bool
  | [], [] => .ok orEqual
  | [], _ :: _ => .ok true
  | _ :: _, [] => .ok false
  | x :: xs, y :: ys => if eqv x y then lessList orEqual xs ys else less orEqual x y
termination_by structural x => x

end

/-- `left in container`. -/
def contains (left : PyValue) : PyValue → Except PyError Bool
  | .list xs => .ok (xs.any fun x => eqv x left)
  | .dict es =>
      match left with
      | .list _ | .dict _ => .error .typeError
      | .str s => .ok (es.any fun e => e.1 == s)
      | _ => .ok false
  | .str s =>
      match left with
      | .str part => .ok (s.toList.tails.any fun rest => part.toList.isPrefixOf rest)
      | _ => .error .typeError
  | _ => .error .typeError

end PyValue

namespace Policies

open PyValue

/-- `_PATH_PREFIXES`. -/
def pathPrefixes : List String :=
  ["resource.", "subject.", "context.", "agent.", "user.", "tenant."]

/-- `operand.split(".")`: the segments between the dots, at least one. -/
def splitDots : List Char → List (List Char)
  | [] => [[]]
  | c :: cs =>
      match splitDots cs with
      | [] => [[c]]
      | s :: rest => if c = '.' then [] :: s :: rest else (c :: s) :: rest

/-- The walk down a dotted path; a missing node gives `None`. -/
def walk (getattr : GetAttr) : PyValue → List String → PyValue
  | current, [] => current
  | .none, _ :: _ => .none
  | .dict es, key :: rest => walk getattr ((es.lookup key).getD .none) rest
  | current, key :: rest => walk getattr (getattr current key) rest

/-- `_resolve`: a path operand is looked up, any other operand is a literal. -/
def resolve (getattr : GetAttr) (vars : List (String × PyValue)) : PyValue → PyValue
  | .str operand =>
      if pathPrefixes.any fun p => p.toList.isPrefixOf operand.toList then
        match (splitDots operand.toList).map String.ofList with
        | [] => .none
        | root :: keys => walk getattr ((vars.lookup root).getD .none) keys
      else .str operand
  | operand => operand

/-- `operand is not None`. -/
def present : PyValue → Bool
  | .none => false
  | _ => true

/-- The comparison operators on resolved operands. -/
def compare (op : String) (left right : PyValue) : Except PyError Bool :=
  let ordered := fun (orEqual : Bool) (a b : PyValue) =>
    if present left && present right then less orEqual a b else .ok false
  let container := if truthy right then right else .list []
  if op = "eq" then .ok (eqv left right)
  else if op = "ne" then .ok (!eqv left right)
  else if op = "lt" then ordered false left right
  else if op = "lte" then ordered true left right
  else if op = "gt" then ordered false right left
  else if op = "gte" then ordered true right left
  else if op = "in" then contains left container
  else if op = "not_in" then (contains left container).map (!·)
  else .error .valueError

/-- A binary operator: exactly two operands in a list. -/
def evaluateBinary (getattr : GetAttr) (vars : List (String × PyValue)) (op : String) :
    PyValue → Except PyError Bool
  | .list [a, b] => compare op (resolve getattr vars a) (resolve getattr vars b)
  | _ => .error .valueError

mutual

/-- `evaluate_expression`. -/
def evaluateExpression (getattr : GetAttr) (vars : List (String × PyValue)) :
    PyValue → Except PyError Bool
  | .none => .ok true
  | .bool b => .ok b
  | .dict es => evaluateMapping getattr vars es
  | _ => .error .valueError
termination_by structural x => x

/-- A mapping must have exactly one operator. -/
def evaluateMapping (getattr : GetAttr) (vars : List (String × PyValue)) :
    List (String × PyValue) → Except PyError Bool
  | [] => .error .valueError
  | e :: rest => if rest.isEmpty then evaluateEntry getattr vars e else .error .valueError
termination_by structural x => x

/-- One operator and its operands. -/
def evaluateEntry (getattr : GetAttr) (vars : List (String × PyValue)) :
    String × PyValue → Except PyError Bool
  | (op, operands) =>
      if op = "and" then evaluateOperands getattr vars true operands
      else if op = "or" then evaluateOperands getattr vars false operands
      else if op = "not" then
        match operands with
        | .list es => (evaluateHead getattr vars es).map (!·)
        | target => (evaluateExpression getattr vars target).map (!·)
      else evaluateBinary getattr vars op operands
termination_by structural x => x

/-- `operands[0]` of a list. -/
def evaluateHead (getattr : GetAttr) (vars : List (String × PyValue)) :
    List PyValue → Except PyError Bool
  | [] => .error .indexError
  | e :: _ => evaluateExpression getattr vars e
termination_by structural x => x

/-- `all(...)` (`unit = true`) or `any(...)` over the operands. Iterating a string
or a mapping gives strings, which are no expressions; other values do not
iterate. -/
def evaluateOperands (getattr : GetAttr) (vars : List (String × PyValue)) (unit : Bool) :
    PyValue → Except PyError Bool
  | .list es => evaluateList getattr vars unit es
  | .str s => if s = "" then .ok unit else .error .valueError
  | .dict es => if es.isEmpty then .ok unit else .error .valueError
  | _ => .error .typeError
termination_by structural x => x

/-- The loop of `all` and `any`: it stops at the first value other than `unit`. -/
def evaluateList (getattr : GetAttr) (vars : List (String × PyValue)) (unit : Bool) :
    List PyValue → Except PyError Bool
  | [] => .ok unit
  | e :: es =>
      match evaluateExpression getattr vars e with
      | .error x => .error x
      | .ok b => if b = unit then evaluateList getattr vars unit es else .ok b
termination_by structural x => x

end

end Policies

end AuthzKit
