import PveManager.Models.Records

/-!
# Accounts

Users and their roles, with the permission dictionary of a role.
-/

namespace PveManager

open PveManager.Core

/-- A role's permissions: a JSON dictionary from codes to switches. -/
abbrev PermissionMap := KeyedTable (Prod.fst : String × Bool → String)

/-- `perms.get(code, False)`. -/
def PermissionMap.enabled (perms : PermissionMap) (code : String) : Bool :=
  ((perms.find? code).map Prod.snd).getD false

/-- A role; a null permission column is the empty dictionary. -/
structure Role where
  name : String
  permissions : PermissionMap

/-- An account. -/
structure User where
  id : UserId
  username : String
  isAdmin : Bool
  role : Option Role
  /-- The servers assigned to the account itself. -/
  assignedServers : List ServerId

/-- `role.permissions if role else {}`. -/
def User.permissions (u : User) : PermissionMap := (u.role.map Role.permissions).getD .empty

end PveManager
