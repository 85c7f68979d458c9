import PveManager.Core.KeyedTable

/-!
# Database records

The rows of the panel's database that the modelled code reads and writes. A
column is kept when some modelled function uses it, under its source name; a
nullable column is an `Option`. The unique indexes of the tables are the keys of
the keyed tables that hold the rows.
-/

namespace PveManager

open PveManager.Core

/-- Primary key of a registered Proxmox server. -/
abbrev ServerId := Nat

/-- Proxmox's number of a guest, unique inside one Proxmox cluster. -/
abbrev Vmid := Nat

/-- Primary key of a panel account. -/
abbrev UserId := Nat

/-- A clock reading; only its order and differences are ever used. -/
abbrev Time := Nat

/-- The two kinds of guest. -/
inductive VmType
  | qemu
  | lxc
  deriving DecidableEq, Repr

/-- A registered Proxmox connection. -/
structure ProxmoxServer where
  id : ServerId
  name : String
  hostname : String
  ipAddress : String
  port : Nat
  apiUser : String
  apiTokenName : Option String
  apiTokenValue : Option String
  usePassword : Bool
  password : Option String
  verifySsl : Bool
  clusterName : Option String
  description : Option String
  /-- Null until the first availability check. -/
  isOnline : Option Bool
  lastCheck : Option Time
  lastError : Option String
  /-- `auth` for a refused login, `connection` for an unreachable node. -/
  lastErrorKind : Option String
  deriving DecidableEq, Repr

/-- A nullable text column that Python's truth test accepts. -/
def truthy (o : Option String) : Bool := o.any fun s => decide (s ≠ "")

/-- The characters `str.strip` removes. -/
def isSpace (c : Char) : Bool :=
  decide (c.toNat ∈ [9, 10, 11, 12, 13, 28, 29, 30, 31, 32, 133, 160, 5760, 8192, 8193, 8194, 8195,
    8196, 8197, 8198, 8199, 8200, 8201, 8202, 8232, 8233, 8239, 8287, 12288])

/-- A letter, a digit or an underscore is no whitespace. -/
theorem isSpace_of_word {c : Char} (h : (c.isAlphanum || c == '_') = true) : isSpace c = false := by
  have hwhite : ∀ n ∈ [9, 10, 11, 12, 13, 28, 29, 30, 31, 32, 133, 160, 5760, 8192, 8193, 8194,
      8195, 8196, 8197, 8198, 8199, 8200, 8201, 8202, 8232, 8233, 8239, 8287, 12288],
      ((Char.ofNat n).isAlphanum || Char.ofNat n == '_') = false := by decide +kernel
  refine decide_eq_false fun hmem => ?_
  have hword := hwhite c.toNat hmem
  rw [Char.ofNat_toNat, h] at hword
  cases hword

/-- `str.strip` on characters. -/
def stripChars (chars : List Char) : List Char :=
  ((chars.dropWhile isSpace).reverse.dropWhile isSpace).reverse

theorem dropWhile_isSpace {chars : List Char} (h : ∀ c ∈ chars, isSpace c = false) :
    chars.dropWhile isSpace = chars := by
  cases chars with
  | nil => rfl
  | cons c rest => rw [List.dropWhile_cons, h c List.mem_cons_self, if_neg Bool.false_ne_true]

/-- Text without a space is not stripped. -/
theorem stripChars_of_no_space {chars : List Char} (h : ∀ c ∈ chars, isSpace c = false) :
    stripChars chars = chars := by
  have hreverse : ∀ c ∈ chars.reverse, isSpace c = false :=
    fun c hc => h c (List.mem_reverse.mp hc)
  unfold stripChars
  rw [dropWhile_isSpace h, dropWhile_isSpace hreverse, List.reverse_reverse]

/-- `str.strip`. -/
def strip (s : String) : String := String.ofList (stripChars s.toList)

/-- `ProxmoxServer.update_status`: a success clears the recorded error, a failure
without a text keeps the old one. -/
def ProxmoxServer.updateStatus (s : ProxmoxServer) (now : Time) (isOnline : Bool)
    (error : Option String) (errorKind : Option String) : ProxmoxServer :=
  if truthy error then
    { s with
      isOnline := some isOnline
      lastCheck := some now
      lastError := error
      lastErrorKind := some (if truthy errorKind then errorKind.getD "" else "connection") }
  else if isOnline then
    { s with isOnline := some isOnline, lastCheck := some now, lastError := none,
             lastErrorKind := none }
  else { s with isOnline := some isOnline, lastCheck := some now }

@[simp] theorem ProxmoxServer.id_updateStatus (s : ProxmoxServer) (now : Time) (b : Bool)
    (e k : Option String) : (s.updateStatus now b e k).id = s.id := by
  unfold ProxmoxServer.updateStatus
  split
  · rfl
  · split <;> rfl

@[simp] theorem ProxmoxServer.clusterName_updateStatus (s : ProxmoxServer) (now : Time) (b : Bool)
    (e k : Option String) : (s.updateStatus now b e k).clusterName = s.clusterName := by
  unfold ProxmoxServer.updateStatus
  split
  · rfl
  · split <;> rfl

@[simp] theorem ProxmoxServer.isOnline_updateStatus (s : ProxmoxServer) (now : Time) (b : Bool)
    (e k : Option String) : (s.updateStatus now b e k).isOnline = some b := by
  unfold ProxmoxServer.updateStatus
  split
  · rfl
  · split <;> rfl

/-- The cached record of a guest. -/
structure VMInstance where
  serverId : ServerId
  vmid : Vmid
  node : String
  vmType : VmType
  name : String
  ownerId : Option UserId
  status : String
  isTemplate : Bool
  cores : Option Nat
  /-- Megabytes. -/
  memory : Option Nat
  /-- Gigabytes. -/
  diskSize : Option Nat
  osType : Option String
  ipAddress : Option String
  ipPrefix : Option Nat
  gateway : Option String
  nameserver : Option String
  cloudInitUser : Option String
  cloudInitPassword : Option String
  sshKeys : Option String
  templateId : Option Nat
  templateName : Option String
  description : Option String
  /-- Set when the row is soft-deleted. -/
  deletedAt : Option Time
  lastSyncAt : Option Time
  /-- As JSON text. -/
  extraConfig : Option String := none
  deriving DecidableEq, Repr

namespace VMInstance

/-- The unique index `idx_vm_instance_server_vmid`. -/
def key (r : VMInstance) : ServerId × Vmid := (r.serverId, r.vmid)

/-- A row that is not soft-deleted. -/
def live (r : VMInstance) : Bool := r.deletedAt.isNone

end VMInstance

/-- An allocated address. -/
structure IPAMAllocation where
  id : Nat
  networkId : Nat
  ipAddress : String
  resourceType : Option String
  resourceId : Option Nat
  resourceName : Option String
  proxmoxServerId : Option ServerId
  proxmoxVmid : Option Vmid
  proxmoxNode : Option String
  status : String
  isPrimary : Bool
  poolId : Option Nat := none
  macAddress : Option String := none
  allocationType : String := "static"
  /-- `primary` or `alias`. -/
  assignmentKind : String := "primary"
  targetInterface : Option String := none
  applyStatus : Option String := none
  hostname : Option String := none
  fqdn : Option String := none
  dnsPtrRecord : Bool := false
  allocatedBy : Option String := none
  expiresAt : Option Time := none
  lastSeen : Option Time := none
  notes : Option String := none
  deriving DecidableEq, Repr

namespace IPAMAllocation

/-- The statuses every lookup by guest restricts itself to. -/
def active (a : IPAMAllocation) : Bool := decide (a.status ∈ ["allocated", "reserved"])

/-- The allocation is recorded for this guest of this server. -/
def keyedTo (a : IPAMAllocation) (sid : ServerId) (vmid : Vmid) : Bool :=
  decide (a.proxmoxServerId = some sid ∧ a.proxmoxVmid = some vmid)

end IPAMAllocation

/-- One line of the address history. -/
structure IPAMHistory where
  ipAddress : String
  networkId : Nat
  action : String
  oldResourceType : Option String
  oldResourceName : Option String
  oldStatus : Option String
  oldProxmoxVmid : Option Vmid
  resourceType : Option String
  resourceId : Option Nat
  resourceName : Option String
  performedBy : String
  notes : Option String
  deriving DecidableEq, Repr

/-- The address tables. -/
structure Ipam where
  /-- `ip_address` carries a unique index. -/
  allocations : KeyedTable IPAMAllocation.ipAddress
  history : List IPAMHistory

/-- The tables the server and guest code works on. -/
structure Db where
  servers : KeyedTable ProxmoxServer.id
  vms : KeyedTable VMInstance.key
  ipam : Ipam

end PveManager
