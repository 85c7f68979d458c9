import PveManager.Api.Access
import PveManager.Rbac.Engine

/-!
# The global view and the permission engine

The global view belongs to administrators, by their flag or by the name of their role, and to roles
that grant `vm:manage` themselves. The engine knows neither the name of a role nor, on the other side,
the difference between a code and a wildcard.
-/

namespace PveManager.Api

open PveManager.Core PveManager.Rbac

/-- The role of the user is the one of administrators. -/
def NamedAdmin (user : User) : Prop := ∃ role, user.role = some role ∧ role.name = "admin"

/-- The engine grants `vm:manage` by the wildcard for machines and by nothing else. -/
def ByWildcard (user : User) : Prop :=
  user.isAdmin = false ∧ user.permissions.enabled "vm:manage" = false ∧
    user.permissions.enabled "vm:*" = true

/-- Managing is no action that managing implies. -/
theorem hasPermission_manage (user : User) : hasPermission user "vm:manage" =
    (user.isAdmin || user.permissions.enabled "vm:manage" || user.permissions.enabled "vm:*") := by
  have hresource : resourceOf "vm:manage" = "vm" := by decide +kernel
  have haction : ((actionOf "vm:manage").any fun action => decide (action ∈ impliedActions)) =
      false := by decide +kernel
  unfold hasPermission
  rw [haction, Bool.and_false, Bool.or_false, hresource]
  rfl

theorem namedAdmin_iff {user : User} :
    (user.role.any fun role => decide (role.name = "admin")) = true ↔ NamedAdmin user := by
  unfold NamedAdmin
  cases user.role with
  | none => exact iff_of_false Bool.false_ne_true (fun ⟨_, h, _⟩ => Option.some_ne_none _ h.symm)
  | some role =>
    rw [Option.any_some, decide_eq_true_iff]
    exact ⟨fun h => ⟨role, rfl, h⟩, fun ⟨_, hrole, h⟩ => Option.some.inj hrole ▸ h⟩

/-- The global view is the permission to manage machines, other than by a wildcard, or the name of the
role. -/
theorem canViewAllInstances_iff (user : User) : canViewAllInstances user = true ↔
    NamedAdmin user ∨ hasPermission user "vm:manage" = true ∧ ¬ByWildcard user := by
  unfold canViewAllInstances ByWildcard
  rw [Bool.or_eq_true, Bool.or_eq_true, namedAdmin_iff, hasPermission_manage]
  cases user.isAdmin with
  | true => simp
  | false =>
    cases user.permissions.enabled "vm:manage" with
    | true => simp
    | false => simp

/-- A keeper of all machines. -/
def machineKeeper : User := ⟨2, "keeper", false, some ⟨"keeper", KeyedTable.empty.save ("vm:*", true)⟩, []⟩

/-- The engine lets the keeper manage machines, and the view is of own machines only. -/
theorem keeper_not_global :
    hasPermission machineKeeper "vm:manage" = true ∧ canViewAllInstances machineKeeper = false := by
  decide +kernel

end PveManager.Api
