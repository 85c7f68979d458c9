import PveManager.Models.Account

/-!
# The permission engine

`PermissionEngine.has_permission`: administrators may do everything, a role may
grant a code itself, all codes of its resource, or the actions that managing the
resource implies.
-/

namespace PveManager.Rbac

/-- `permission.split(':')[0]`. -/
def resourceOf (permission : String) : String :=
  String.ofList (permission.toList.takeWhile (· ≠ ':'))

/-- `permission.split(':')[1]`, where there is a colon. -/
def actionOf (permission : String) : Option String :=
  match permission.toList.dropWhile (· ≠ ':') with
  | [] => none
  | _ :: rest => some (String.ofList (rest.takeWhile (· ≠ ':')))

/-- The actions that `manage` implies. -/
def impliedActions : List String := ["view", "list", "update", "start", "stop", "restart"]

/-- `has_permission`. -/
def hasPermission (user : User) (permission : String) : Bool :=
  user.isAdmin ||
    user.permissions.enabled permission ||
    user.permissions.enabled (resourceOf permission ++ ":*") ||
    (user.permissions.enabled (resourceOf permission ++ ":manage") &&
      (actionOf permission).any fun action => decide (action ∈ impliedActions))

/-- An administrator has every permission. -/
theorem hasPermission_of_isAdmin {user : User} (h : user.isAdmin = true) (permission : String) :
    hasPermission user permission = true := by
  simp [hasPermission, h]

/-- A granted code is a permission. -/
theorem hasPermission_of_enabled {user : User} {permission : String}
    (h : user.permissions.enabled permission = true) : hasPermission user permission = true := by
  simp [hasPermission, h]

end PveManager.Rbac
