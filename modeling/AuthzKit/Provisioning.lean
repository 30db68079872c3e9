import Mathlib.Data.Finset.Sort
import Mathlib.Data.String.Basic
import AuthzKit.Storage.Orm
import AuthzKit.Text.Words

/-!
The desired-state types of `authzkit/provisioning.py` and the exceptions the
store raises.
-/

namespace AuthzKit

def statusActive : String := "active"

def statusDisabled : String := "disabled"

/-- `DESIRED_STATUSES`. -/
def desiredStatuses : List String := [statusActive, statusDisabled]

/-- Name of the internal role carrying a provisioned agent's permissions. -/
def agentRoleName (agentName : String) : String := "agent:" ++ agentName

lemma agentRoleName_injective : Function.Injective agentRoleName := by
  intro a b h
  rw [agentRoleName, agentRoleName, ← String.toList_inj, String.toList_append,
    String.toList_append] at h
  exact String.toList_inj.mp (List.append_cancel_left h)

/-- `repr(s)` of a Python string; characters beyond ASCII are taken as printable. -/
def pyRepr (s : String) : String :=
  let hex := fun n : ℕ => (Nat.toDigits 16 n).getLastD '0'
  let quote := if '\'' ∈ s.toList ∧ '"' ∉ s.toList then '"' else '\''
  let escape := fun c : Char =>
    if c = quote ∨ c = '\\' then ['\\', c]
    else if c = '\n' then ['\\', 'n']
    else if c = '\r' then ['\\', 'r']
    else if c = '\t' then ['\\', 't']
    else if c.toNat < 32 ∨ c.toNat = 127 then ['\\', 'x', hex (c.toNat / 16), hex (c.toNat % 16)]
    else [c]
  String.ofList (quote :: s.toList.flatMap escape ++ [quote])

/-! ### Errors -/

structure ProvisioningIssue where
  path : String
  code : String
  message : String
deriving DecidableEq, Repr

/-- What a store operation raises. -/
inductive StoreError where
  /-- A constraint of the database is violated at flush or commit. -/
  | integrityError
  | provisioningError (errors : List ProvisioningIssue)
  /-- `UnknownNamesError`, a `ProvisioningError` with one issue for each name. -/
  | unknownNames (kind : String) (names : List String)
  | valueError (message : String)
  /-- `Session.get_one` of a row that is not there. -/
  | noResultFound
deriving DecidableEq, Repr

/-- `UnknownNamesError.check`. -/
def checkNames (kind : String) (wanted found : Finset String) : Except StoreError Unit :=
  let unknown := wanted \ found
  if unknown.Nonempty then .error (.unknownNames kind (unknown.sort (· ≤ ·))) else .ok ()

/-! ### Application catalog -/

structure CatalogPermission where
  name : String
  description : Option String
  critical : Bool
deriving DecidableEq, Repr

structure CatalogRole where
  name : String
  description : Option String
  permissions : List String
deriving DecidableEq, Repr

structure CatalogResult where
  applicationId : Id
  permissionsCreated : ℕ
  permissionsDeprecated : ℕ
  rolesCreated : ℕ
  rolesUpdated : ℕ
deriving DecidableEq, Repr

/-! ### Tenant state -/

structure DesiredMember where
  userRef : UserRef
  roles : List String
  displayName : Option String
  email : Option String
  status : String
deriving DecidableEq, Repr

structure DesiredAgent where
  name : String
  permissions : List String
  displayName : Option String
  status : String
deriving DecidableEq, Repr

structure TenantState where
  name : String
  status : String
  members : List DesiredMember
  agents : List DesiredAgent
deriving DecidableEq, Repr

structure ChangeCounts where
  created : ℕ
  updated : ℕ
  disabled : ℕ
deriving DecidableEq, Repr

structure TenantStateResult where
  tenantId : Id
  members : ChangeCounts
  agents : ChangeCounts
deriving DecidableEq, Repr

end AuthzKit
