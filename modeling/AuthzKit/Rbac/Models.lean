import Mathlib.Tactic

/-!
Permission names of `authzkit/rbac/models.py`.

* `permissionName`: the full name `resource.action` a decision asks for.
* `fromName`: `Permission.from_name`, the split at the last dot; `fromName_spec`
  gives the name back.
-/

namespace AuthzKit

/-- `f"{resource}.{action}"`. -/
def permissionName (resource action : String) : String := resource ++ "." ++ action

namespace Permission

/-- Resource and action of a permission name: the action is the trailing segment,
everything to its left is the resource. -/
structure Parsed where
  resource : String
  action : String
deriving DecidableEq, Repr

/-- The `ValueError` of a name without a dot. -/
def nameError (name : String) : String := "permission name must contain '.': " ++ name

/-- `Permission.from_name`: `name.rpartition(".")`. -/
def fromName (name : String) : Except String Parsed :=
  if '.' ∈ name.toList then
    let back := name.toList.reverse
    .ok ⟨String.ofList ((back.dropWhile (· ≠ '.')).drop 1).reverse,
      String.ofList (back.takeWhile (· ≠ '.')).reverse⟩
  else .error (nameError name)

/-- A name is accepted exactly when it has a dot. -/
lemma fromName_isOk_iff {name : String} :
    (∃ p, fromName name = .ok p) ↔ '.' ∈ name.toList := by
  rw [fromName]
  split
  · rename_i h; simp [h]
  · rename_i h; simp [h]

/-- A list with an `x` splits at its first `x`. -/
lemma takeWhile_append_cons_dropWhile {α : Type*} [DecidableEq α] {x : α} :
    ∀ {l : List α}, x ∈ l →
      l.takeWhile (· ≠ x) ++ x :: (l.dropWhile (· ≠ x)).drop 1 = l
  | [], h => by simp at h
  | y :: l, h => by
      by_cases hy : y = x
      · simp [hy]
      · have hx : x ∈ l := (List.mem_cons.mp h).resolve_left (Ne.symm hy)
        simpa [hy] using takeWhile_append_cons_dropWhile hx

/-- The parts of an accepted name make the name. -/
theorem fromName_spec {name : String} {p : Parsed} (h : fromName name = .ok p) :
    permissionName p.resource p.action = name := by
  rw [fromName] at h
  split at h
  · rename_i hdot
    obtain rfl := Except.ok.inj h
    have hsplit := takeWhile_append_cons_dropWhile (List.mem_reverse.mpr hdot)
    rw [← String.toList_inj, permissionName, String.toList_append, String.toList_append,
      String.toList_ofList, String.toList_ofList, ← List.reverse_reverse name.toList]
    conv_rhs => rw [← hsplit]
    simp
  · cases h

example : fromName "mcp.github.create_issue" = .ok ⟨"mcp.github", "create_issue"⟩ := by decide

end Permission

end AuthzKit
