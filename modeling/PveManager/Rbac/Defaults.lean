import PveManager.Core.Dict
import PveManager.Models.Account

/-!
# Permission tables

The spellings of permissions and the roles that the panel brings along, as the
registry and the migrations list them.
-/

namespace PveManager.Rbac

open PveManager.Core

/-- `LEGACY_PERMISSION_MAP`: old codes and the new ones they stand for. -/
def legacyPermissionMap : List (String × String) := [
  ("dashboard.view", "dashboard:view"), ("proxmox.view", "server:view"),
  ("proxmox.manage", "server:manage"), ("proxmox.servers.add", "server:create"),
  ("proxmox.servers.edit", "server:update"), ("proxmox.servers.delete", "server:delete"),
  ("proxmox.cluster.manage", "cluster:manage"), ("proxmox.vm.manage", "vm:manage"),
  ("vms.view", "vm:view"), ("vms.create", "vm:create"), ("vms.start", "vm:start"),
  ("vms.stop", "vm:stop"), ("vms.restart", "vm:restart"), ("vms.delete", "vm:delete"),
  ("vms.console", "vm:console"), ("vms.migrate", "vm:migrate"),
  ("templates.view", "template:view"), ("templates.manage", "template:manage"),
  ("ipam.view", "ipam:view"), ("ipam.manage", "ipam:manage"), ("logs.view", "log:view"),
  ("logs.export", "log:export"), ("logs.delete", "log:delete"), ("settings.view", "setting:view"),
  ("settings.panel", "setting:update"), ("settings.security", "setting:manage"),
  ("settings.manage", "setting:manage"), ("users.view", "user:view"),
  ("users.create", "user:create"), ("users.edit", "user:update"), ("users.delete", "user:delete"),
  ("users.manage", "user:manage"), ("roles.view", "role:view"), ("roles.manage", "role:manage"),
  ("notifications.manage", "notification:manage")]

/-- A role as the migrations write it. -/
structure RoleDefault where
  name : String
  displayName : String
  description : String
  isSystem : Bool
  permissions : List (String × Bool)

/-! ### The roles of the first version -/

def oldAdmin : RoleDefault where
  name := "admin"
  displayName := "Administrator"
  description := "Full access to all features"
  isSystem := true
  permissions := [
    ("dashboard.view", true), ("proxmox.view", true), ("proxmox.manage", true),
    ("proxmox.servers.add", true), ("proxmox.servers.edit", true),
    ("proxmox.servers.delete", true), ("vms.view", true), ("vms.create", true),
    ("vms.start", true), ("vms.stop", true), ("vms.restart", true), ("vms.delete", true),
    ("vms.console", true), ("vms.migrate", true), ("templates.view", true),
    ("templates.manage", true), ("ipam.view", true), ("ipam.manage", true), ("logs.view", true),
    ("logs.export", true), ("logs.delete", true), ("settings.view", true),
    ("settings.panel", true), ("settings.security", true), ("users.view", true),
    ("users.create", true), ("users.edit", true), ("users.delete", true), ("quota:view", true),
    ("quota:manage", true), ("roles.view", true), ("roles.manage", true),
    ("notifications.manage", true), ("backup:view", true), ("backup:create", true),
    ("backup:restore", true), ("backup:delete", true), ("backup:manage", true)]

def oldModerator : RoleDefault where
  name := "moderator"
  displayName := "Moderator"
  description := "Can manage VMs and view logs"
  isSystem := true
  permissions := [
    ("dashboard.view", true), ("proxmox.view", true), ("proxmox.manage", false),
    ("proxmox.servers.add", false), ("proxmox.servers.edit", false),
    ("proxmox.servers.delete", false), ("vms.view", true), ("vms.create", true),
    ("vms.start", true), ("vms.stop", true), ("vms.restart", true), ("vms.delete", false),
    ("vms.console", true), ("vms.migrate", false), ("templates.view", true),
    ("templates.manage", false), ("ipam.view", true), ("ipam.manage", false), ("logs.view", true),
    ("logs.export", true), ("logs.delete", false), ("settings.view", true),
    ("settings.panel", false), ("settings.security", false), ("users.view", true),
    ("users.create", false), ("users.edit", false), ("users.delete", false),
    ("roles.view", false), ("roles.manage", false), ("notifications.manage", true),
    ("backup:view", true), ("backup:create", true), ("backup:restore", true),
    ("backup:delete", false), ("backup:manage", false)]

def oldUser : RoleDefault where
  name := "user"
  displayName := "User"
  description := "VPS-style user: can only access their own instances"
  isSystem := true
  permissions := [
    ("dashboard.view", false), ("proxmox.view", true), ("proxmox.manage", false),
    ("proxmox.servers.add", false), ("proxmox.servers.edit", false),
    ("proxmox.servers.delete", false), ("vms.view", false), ("vms:view:own", true),
    ("vms.create", false), ("vms.start", true), ("vms:start:own", true), ("vms.stop", true),
    ("vms:stop:own", true), ("vms.restart", true), ("vms:restart:own", true),
    ("vms.delete", false), ("vms.console", true), ("vms:console:own", true),
    ("vms:snapshots:own", true), ("vms.migrate", false), ("templates.view", true),
    ("templates.manage", false), ("ipam.view", false), ("ipam.manage", false),
    ("logs.view", false), ("logs.export", false), ("logs.delete", false), ("settings.view", true),
    ("settings.panel", false), ("settings.security", false), ("users.view", false),
    ("users.create", false), ("users.edit", false), ("users.delete", false),
    ("roles.view", false), ("roles.manage", false), ("notifications.manage", true)]

def oldDemo : RoleDefault where
  name := "demo"
  displayName := "Demo User"
  description := "Read-only access for demonstration"
  isSystem := true
  permissions := [
    ("dashboard.view", true), ("proxmox.view", true), ("proxmox.manage", false),
    ("proxmox.servers.add", false), ("proxmox.servers.edit", false),
    ("proxmox.servers.delete", false), ("vms.view", true), ("vms.create", false),
    ("vms.start", false), ("vms.stop", false), ("vms.restart", false), ("vms.delete", false),
    ("vms.console", false), ("vms.migrate", false), ("templates.view", true),
    ("templates.manage", false), ("ipam.view", true), ("ipam.manage", false),
    ("logs.view", false), ("logs.export", false), ("logs.delete", false),
    ("settings.view", false), ("settings.panel", false), ("settings.security", false),
    ("users.view", false), ("users.create", false), ("users.edit", false),
    ("users.delete", false), ("roles.view", false), ("roles.manage", false),
    ("notifications.manage", false)]

/-- `DEFAULT_ROLES`, in the old spelling. -/
def defaultRoles : List RoleDefault := [oldAdmin, oldModerator, oldUser, oldDemo]

/-! ### The roles of the second version -/

def newAdmin : RoleDefault where
  name := "admin"
  displayName := "Administrator"
  description := "Full access to all features"
  isSystem := true
  permissions := [
    ("dashboard:view", true), ("server:view", true), ("server:create", true),
    ("server:update", true), ("server:delete", true), ("server:manage", true),
    ("cluster:manage", true), ("vm:view", true), ("vm:create", true), ("vm:update", true),
    ("vm:delete", true), ("vm:start", true), ("vm:stop", true), ("vm:restart", true),
    ("vm:console", true), ("vm:migrate", true), ("vm:remote_migrate", true), ("vm:execute", true),
    ("vm:manage", true), ("lxc:view", true), ("lxc:create", true), ("lxc:update", true),
    ("lxc:delete", true), ("lxc:start", true), ("lxc:stop", true), ("lxc:restart", true),
    ("lxc:console", true), ("lxc:migrate", true), ("lxc:remote_migrate", true),
    ("template:view", true), ("template:create", true), ("template:update", true),
    ("template:delete", true), ("template:manage", true), ("storage:view", true),
    ("storage:manage", true), ("firewall:view", true), ("firewall:manage", true),
    ("network:view", true), ("network:manage", true), ("node:view", true), ("node:manage", true),
    ("node:upgrade", true), ("node:power", true), ("pool:view", true), ("pool:manage", true),
    ("access:view", true), ("access:manage", true), ("backup:view", true),
    ("backup:create", true), ("backup:restore", true), ("backup:delete", true),
    ("backup:manage", true), ("ipam:view", true), ("ipam:manage", true), ("user:view", true),
    ("user:create", true), ("user:update", true), ("user:delete", true), ("user:manage", true),
    ("quota:view", true), ("quota:manage", true), ("role:view", true), ("role:create", true),
    ("role:update", true), ("role:delete", true), ("role:manage", true), ("log:view", true),
    ("log:export", true), ("log:delete", true), ("setting:view", true), ("setting:update", true),
    ("setting:manage", true), ("notification:view", true), ("notification:manage", true),
    ("coolify:view", true), ("coolify:control", true), ("coolify:deploy", true),
    ("coolify:manage", true)]

def newModerator : RoleDefault where
  name := "moderator"
  displayName := "Moderator"
  description := "Can manage VMs and view logs"
  isSystem := true
  permissions := [
    ("dashboard:view", true), ("server:view", true), ("vm:view", true), ("vm:create", true),
    ("vm:start", true), ("vm:stop", true), ("vm:restart", true), ("vm:console", true),
    ("lxc:view", true), ("lxc:create", true), ("lxc:start", true), ("lxc:stop", true),
    ("lxc:restart", true), ("lxc:console", true), ("template:view", true), ("storage:view", true),
    ("firewall:view", true), ("node:view", true), ("pool:view", true), ("backup:view", true),
    ("backup:create", true), ("user:view", true), ("log:view", true), ("log:export", true),
    ("setting:view", true), ("notification:view", true), ("notification:manage", true),
    ("coolify:view", true), ("coolify:control", true), ("coolify:deploy", true)]

def newUser : RoleDefault where
  name := "user"
  displayName := "User"
  description := "Standard user with limited access"
  isSystem := true
  permissions := [
    ("dashboard:view", false), ("server:view", true), ("vm:view", true), ("vm:start", true),
    ("vm:stop", true), ("vm:restart", true), ("vm:console", true), ("lxc:view", true),
    ("lxc:start", true), ("lxc:stop", true), ("lxc:restart", true), ("lxc:console", true),
    ("coolify:view", true), ("coolify:control", true), ("coolify:deploy", true),
    ("template:view", true), ("storage:view", true), ("firewall:view", true), ("node:view", true),
    ("pool:view", true), ("notification:view", true), ("notification:manage", true)]

def newDemo : RoleDefault where
  name := "demo"
  displayName := "Demo User"
  description := "Read-only access for demonstration"
  isSystem := true
  permissions := [
    ("dashboard:view", true), ("server:view", true), ("vm:view", true), ("lxc:view", true),
    ("template:view", true), ("storage:view", true), ("firewall:view", true), ("node:view", true),
    ("pool:view", true)]

/-- `NEW_DEFAULT_ROLES`. -/
def newDefaultRoles : List RoleDefault := [newAdmin, newModerator, newUser, newDemo]

/-- `GRANULAR_BACKFILL`: permissions and what was split off from them. -/
def granularBackfill : List (String × List String) := [
  ("server:view", [
    "firewall:view", "node:view", "storage:view"]),
  ("vm:view", [
    "pool:view", "firewall:view"]),
  ("server:manage", [
    "firewall:view", "firewall:manage", "network:view", "network:manage", "node:view",
    "node:manage", "node:upgrade", "node:power", "storage:view", "storage:manage", "pool:view",
    "pool:manage"]),
  ("user:manage", [
    "access:view", "access:manage"])]

end PveManager.Rbac
