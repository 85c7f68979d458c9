import PveManager.Api.Handler

/-!
# Access to instances

Who may see every instance and who may work on a given one. A user without the
global view has access to the live rows that carry the user as owner, and to
nothing else.
-/

namespace PveManager.Api

open PveManager.Core

/-- `can_view_all_instances`. -/
def canViewAllInstances (user : User) : Bool :=
  user.isAdmin || (user.role.any fun role => decide (role.name = "admin")) ||
    user.permissions.enabled "vm:manage"

/-- `get_vm_instance`: the live row of a guest. -/
def getVmInstance (db : Db) (serverId : ServerId) (vmid : Vmid) : Option VMInstance :=
  (db.vms.find? (serverId, vmid)).filter VMInstance.live

/-- `check_vm_access`. -/
def checkVmAccess (db : Db) (user : User) (serverId : ServerId) (vmid : Vmid) : Bool :=
  canViewAllInstances user ||
    (getVmInstance db serverId vmid).any fun row => decide (row.ownerId = some user.id)

/-- `require_vm_access`. -/
def requireVmAccess {R : Router} (db : Db) (user : User) (serverId : ServerId) (vmid : Vmid) :
    Handler R Unit :=
  Proc.ensure (checkVmAccess db user serverId vmid)
    (.http 403 "You do not have access to this virtual machine")

/-- The user has no access to the guest: neither the global view nor a live row of its own. -/
def Denied (db : Db) (user : User) (serverId : ServerId) (vmid : Vmid) : Prop :=
  checkVmAccess db user serverId vmid = false

/-- Access is denied exactly without the global view and without an own live row. -/
theorem denied_iff {db : Db} {user : User} {serverId : ServerId} {vmid : Vmid} :
    Denied db user serverId vmid ↔
      canViewAllInstances user = false ∧
        ∀ row, getVmInstance db serverId vmid = some row → row.ownerId ≠ some user.id := by
  unfold Denied checkVmAccess
  rw [Bool.or_eq_false_iff, Option.any_eq_false]
  simp

end PveManager.Api
