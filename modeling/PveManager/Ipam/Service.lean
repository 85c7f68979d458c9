import PveManager.Core.IpAddress
import PveManager.Ipam.Release

/-!
# The address service

`IPAMService`: choosing and allocating addresses, linking them to the guests
Proxmox reports, editing an allocation and marking the main address of a guest.
A call reads the tables beside the allocations and ends with a result, with the
text of a refusal or with an exception; only a result changes the tables.
-/

namespace PveManager

open PveManager.Core PveManager.Net

/-- A row of `ipam_networks`. -/
structure IPAMNetwork where
  id : Nat
  name : String
  /-- In CIDR notation. -/
  network : String
  gateway : Option String
  dnsDomain : Option String
  isActive : Bool
  deriving DecidableEq, Repr

/-- A row of `ipam_pools`. -/
structure IPAMPool where
  id : Nat
  networkId : Nat
  name : String
  rangeStart : String
  rangeEnd : String
  autoAssign : Bool
  isActive : Bool
  deriving DecidableEq, Repr

namespace Ipam

/-- How a call of the service ends. -/
inductive Outcome (α : Type)
  | done (a : α)
  | refused (error : String)
  | raised (exc : String)

/-- What a call finds beside the allocations. -/
structure Surroundings where
  networks : KeyedTable IPAMNetwork.id
  pools : KeyedTable IPAMPool.id
  vms : KeyedTable VMInstance.key
  servers : KeyedTable ProxmoxServer.id
  now : Time
  /-- The identifier the database gives to a new row. -/
  newId : Nat
  /-- Whether the database takes the commit. -/
  commits : Bool

/-! ### Choosing an address -/

/-- The first address of a range that is free, from a number on. -/
def firstFree (address : Nat → Option IpAddress) (occupied : String → Bool) (start : Nat) :
    Nat → Option String
  | 0 => none
  | count + 1 =>
    match (address start).map IpAddress.text with
    | none => none
    | some ip => if occupied ip then firstFree address occupied (start + 1) count else some ip

/-- The search of one pool; an invalid range has no address. -/
def freeInPool (occupied : String → Bool) (pool : IPAMPool) : Option String :=
  match IpAddress.parse pool.rangeStart, IpAddress.parse pool.rangeEnd with
  | some start, some stop =>
    firstFree IpAddress.ofNat? occupied start.toNat (stop.toNat + 1 - start.toNat)
  | _, _ => none

/-- The pools that give addresses by themselves. -/
def assignPools (sur : Surroundings) (networkId : Nat) (poolId : Option Nat) : List IPAMPool :=
  let pools := sur.pools.rows.filter fun pool =>
    decide (pool.networkId = networkId) && pool.isActive && pool.autoAssign
  match poolId.filter (· ≠ 0) with
  | some id => pools.filter fun pool => pool.id = id
  | none => pools.insertionSort fun a b => a.id ≤ b.id

/-- Every allocated address and the gateway. -/
def occupied (ipam : Ipam) (network : IPAMNetwork) (ip : String) : Bool :=
  (ipam.allocations.rows.any fun a => decide (a.ipAddress = ip)) ||
    (truthy network.gateway && decide (network.gateway = some ip))

/-- The addresses the panel knows from guests and nodes. -/
def known (sur : Surroundings) (ip : String) : Bool :=
  (sur.vms.rows.any fun r => r.live && decide (r.ipAddress = some ip)) ||
    sur.servers.rows.any fun s => decide (s.ipAddress = ip)

/-- `get_next_available_ip`. -/
def getNextAvailableIp (sur : Surroundings) (ipam : Ipam) (networkId : Nat)
    (poolId : Option Nat) (allowNetworkScan : Bool) : Option String :=
  match (sur.networks.find? networkId).filter IPAMNetwork.isActive with
  | none => none
  | some network =>
    let inPools := (assignPools sur networkId poolId).findSome? (freeInPool (ipam.occupied network))
    if allowNetworkScan ∧ (poolId.filter (· ≠ 0)).isNone then
      inPools.or ((IpNetwork.parse network.network).bind fun net =>
        firstFree net.hostAt (fun ip => ipam.occupied network ip || known sur ip) net.hosts.1
          net.hosts.2)
    else inPools

/-! ### Allocating -/

/-- The arguments of `allocate_ip`. -/
structure AllocationRequest where
  ipAddress : String
  networkId : Nat
  poolId : Option Nat := none
  resourceType : Option String := none
  resourceId : Option Nat := none
  resourceName : Option String := none
  hostname : Option String := none
  fqdn : Option String := none
  macAddress : Option String := none
  proxmoxServerId : Option ServerId := none
  proxmoxVmid : Option Vmid := none
  proxmoxNode : Option String := none
  allocationType : String := "static"
  status : String := "allocated"
  allocatedBy : Option String := none
  notes : Option String := none
  isPrimary : Option Bool := none
  assignmentKind : String := "primary"
  targetInterface : Option String := none
  applyStatus : Option String := none

/-- The checks of `allocate_ip`, with the texts of its refusals. -/
def checkAllocation (sur : Surroundings) (ipam : Ipam) (req : AllocationRequest) :
    Except String (IPAMNetwork × IpAddress) :=
  match ipam.allocations.find? req.ipAddress with
  | some existing =>
    let holder := if truthy existing.resourceName then existing.resourceName.getD "" else "unknown"
    .error s!"IP {req.ipAddress} is already allocated to {holder}"
  | none =>
    match sur.networks.find? req.networkId with
    | none => .error s!"Network {req.networkId} not found"
    | some network =>
      match IpNetwork.parse network.network with
      | none =>
        .error s!"Invalid IP or network: '{network.network}' does not appear to be an IPv4 or IPv6 network"
      | some net =>
        match IpAddress.parse req.ipAddress with
        | none =>
          .error s!"Invalid IP or network: '{req.ipAddress}' does not appear to be an IPv4 or IPv6 address"
        | some ip =>
          if net.contains ip = false then
            .error s!"IP {req.ipAddress} is not within network {network.network}"
          else if network.gateway = some req.ipAddress then
            .error s!"IP {req.ipAddress} is the gateway for this network"
          else .ok (network, ip)

/-- The first pool with the address; comparing two versions raises. -/
def poolOf (ip : IpAddress) : List IPAMPool → Except String (Option Nat)
  | [] => .ok none
  | pool :: rest =>
    match IpAddress.parse pool.rangeStart, IpAddress.parse pool.rangeEnd with
    | some start, some stop =>
      match start.le? ip with
      | none => .error "TypeError"
      | some false => poolOf ip rest
      | some true =>
        match ip.le? stop with
        | none => .error "TypeError"
        | some false => poolOf ip rest
        | some true => .ok (some pool.id)
    | _, _ => poolOf ip rest

/-- The pool of a new allocation: the given one, or the first active one around the address. -/
def detectPool (sur : Surroundings) (req : AllocationRequest) (ip : IpAddress) :
    Except String (Option Nat) :=
  match req.poolId.filter (· ≠ 0) with
  | some id => .ok (some id)
  | none =>
    match poolOf ip (sur.pools.rows.filter fun pool =>
        decide (pool.networkId = req.networkId) && pool.isActive) with
    | .error e => .error e
    | .ok found => .ok (found.or req.poolId)

/-- `_has_primary`. -/
def hasPrimary (ipam : Ipam) (sid : Option ServerId) (vmid : Option Vmid) : Bool :=
  vmid.isSome && ipam.allocations.rows.any fun a =>
    decide (a.proxmoxServerId = sid ∧ a.proxmoxVmid = vmid) && a.isPrimary

/-- The row `allocate_ip` inserts. -/
def newAllocation (sur : Surroundings) (ipam : Ipam) (req : AllocationRequest)
    (network : IPAMNetwork) (poolId : Option Nat) : IPAMAllocation where
  id := sur.newId
  networkId := req.networkId
  ipAddress := req.ipAddress
  resourceType := req.resourceType
  resourceId := req.resourceId
  resourceName := req.resourceName
  proxmoxServerId := req.proxmoxServerId
  proxmoxVmid := req.proxmoxVmid
  proxmoxNode := req.proxmoxNode
  status := req.status
  isPrimary := req.isPrimary.getD (decide (req.assignmentKind = "primary") &&
    req.proxmoxVmid.isSome && !ipam.hasPrimary req.proxmoxServerId req.proxmoxVmid)
  poolId := poolId
  macAddress := req.macAddress
  allocationType := req.allocationType
  assignmentKind := req.assignmentKind
  targetInterface := req.targetInterface
  applyStatus := req.applyStatus
  hostname := req.hostname
  fqdn :=
    if truthy req.fqdn = false ∧ truthy req.hostname = true ∧ truthy network.dnsDomain = true then
      some (req.hostname.getD "" ++ "." ++ network.dnsDomain.getD "")
    else req.fqdn
  allocatedBy := req.allocatedBy
  notes := req.notes

/-- `_log_history` for a change of a row; only changed columns have an old value. -/
def changedEntry (a a' : IPAMAllocation) (action : String) (performedBy notes : Option String) :
    IPAMHistory where
  ipAddress := a'.ipAddress
  networkId := a'.networkId
  action := action
  oldResourceType := if a.resourceType = a'.resourceType then none else a.resourceType
  oldResourceName := if a.resourceName = a'.resourceName then none else a.resourceName
  oldStatus := if a.status = a'.status then none else some a.status
  oldProxmoxVmid := if a.proxmoxVmid = a'.proxmoxVmid then none else a.proxmoxVmid
  resourceType := a'.resourceType
  resourceId := a'.resourceId
  resourceName := a'.resourceName
  performedBy := if truthy performedBy then performedBy.getD "" else "system"
  notes := notes

/-- Store a row with its line of history. -/
def record (ipam : Ipam) (a : IPAMAllocation) (entry : IPAMHistory) : Ipam where
  allocations := ipam.allocations.save a
  history := ipam.history ++ [entry]

/-- `allocate_ip`. -/
def allocateIp (sur : Surroundings) (ipam : Ipam) (req : AllocationRequest) :
    Ipam × Outcome IPAMAllocation :=
  match checkAllocation sur ipam req with
  | .error e => (ipam, .refused e)
  | .ok (network, ip) =>
    match detectPool sur req ip with
    | .error e => (ipam, .raised e)
    | .ok poolId =>
      let a := newAllocation sur ipam req network poolId
      if sur.commits && ipam.allocations.rows.all fun b => decide (b.id ≠ sur.newId) then
        (ipam.record a (changedEntry a a "allocated" req.allocatedBy none), .done a)
      else (ipam, .raised "IntegrityError")

/-- `auto_allocate_ip`, which takes fewer arguments than `allocate_ip`. -/
def autoAllocateIp (sur : Surroundings) (ipam : Ipam) (req : AllocationRequest) :
    Ipam × Outcome IPAMAllocation :=
  match getNextAvailableIp sur ipam req.networkId req.poolId false with
  | none => (ipam, .refused s!"No available IP addresses in network {req.networkId}")
  | some ip =>
    allocateIp sur ipam
      { ipAddress := ip
        networkId := req.networkId
        poolId := req.poolId
        resourceType := req.resourceType
        resourceId := req.resourceId
        resourceName := req.resourceName
        hostname := req.hostname
        proxmoxServerId := req.proxmoxServerId
        proxmoxVmid := req.proxmoxVmid
        proxmoxNode := req.proxmoxNode
        allocatedBy := req.allocatedBy
        notes := req.notes }

/-! ### Editing -/

/-- The keyword arguments of `update_allocation`; an absent one is not set. -/
structure AllocationUpdate where
  poolId : Option (Option Nat) := none
  macAddress : Option (Option String) := none
  resourceType : Option (Option String) := none
  resourceId : Option (Option Nat) := none
  resourceName : Option (Option String) := none
  proxmoxServerId : Option (Option ServerId) := none
  proxmoxVmid : Option (Option Vmid) := none
  proxmoxNode : Option (Option String) := none
  status : Option (Option String) := none
  allocationType : Option (Option String) := none
  hostname : Option (Option String) := none
  fqdn : Option (Option String) := none
  dnsPtrRecord : Option (Option Bool) := none
  expiresAt : Option (Option Time) := none
  notes : Option (Option String) := none
  lastSeen : Option (Option Time) := none

/-- No column that must have a value is set to null. -/
def AllocationUpdate.valid (u : AllocationUpdate) : Bool :=
  decide (u.status ≠ some none ∧ u.allocationType ≠ some none ∧ u.dnsPtrRecord ≠ some none)

/-- The row with the given columns set. -/
def AllocationUpdate.apply (u : AllocationUpdate) (a : IPAMAllocation) : IPAMAllocation :=
  { a with
    poolId := u.poolId.getD a.poolId
    macAddress := u.macAddress.getD a.macAddress
    resourceType := u.resourceType.getD a.resourceType
    resourceId := u.resourceId.getD a.resourceId
    resourceName := u.resourceName.getD a.resourceName
    proxmoxServerId := u.proxmoxServerId.getD a.proxmoxServerId
    proxmoxVmid := u.proxmoxVmid.getD a.proxmoxVmid
    proxmoxNode := u.proxmoxNode.getD a.proxmoxNode
    status := u.status.join.getD a.status
    allocationType := u.allocationType.join.getD a.allocationType
    hostname := u.hostname.getD a.hostname
    fqdn := u.fqdn.getD a.fqdn
    dnsPtrRecord := u.dnsPtrRecord.join.getD a.dnsPtrRecord
    expiresAt := u.expiresAt.getD a.expiresAt
    notes := u.notes.getD a.notes
    lastSeen := u.lastSeen.getD a.lastSeen }

/-- `update_allocation`; nothing is logged where no column changes. -/
def updateAllocation (sur : Surroundings) (ipam : Ipam) (ip : String) (updatedBy : Option String)
    (u : AllocationUpdate) : Ipam × Outcome IPAMAllocation :=
  match ipam.allocations.find? ip with
  | none => (ipam, .refused s!"IP {ip} is not allocated")
  | some a =>
    if u.valid && sur.commits then
      if u.apply a = a then (ipam, .done a)
      else (ipam.record (u.apply a) (changedEntry a (u.apply a) "modified" updatedBy none),
        .done (u.apply a))
    else (ipam, .raised "IntegrityError")

/-- The flag that `set_primary` gives to a row. -/
def markPrimary (sid : ServerId) (vmid : Vmid) (allocationId : Nat) (a : IPAMAllocation) :
    IPAMAllocation :=
  if a.keyedTo sid vmid then { a with isPrimary := decide (a.id = allocationId) } else a

theorem ipAddress_markPrimary (sid : ServerId) (vmid : Vmid) (allocationId : Nat)
    (a : IPAMAllocation) : (markPrimary sid vmid allocationId a).ipAddress = a.ipAddress := by
  unfold markPrimary
  split
  · rfl
  · rfl

/-- `set_primary`: the flag moves to the chosen address of the guest. -/
def setPrimary (sur : Surroundings) (ipam : Ipam) (sid : ServerId) (vmid : Vmid)
    (allocationId : Nat) (changedBy : Option String) : Ipam × Outcome IPAMAllocation :=
  match (ipam.allocations.rows.filter fun a => a.keyedTo sid vmid).find? fun a =>
      decide (a.id = allocationId) with
  | none => (ipam, .refused "Allocation does not belong to this guest")
  | some target =>
    if sur.commits then
      ({ allocations := ipam.allocations.mapRows (markPrimary sid vmid allocationId)
           (ipAddress_markPrimary sid vmid allocationId)
         history := ipam.history ++ [changedEntry target target "modified" changedBy
           (some "Marked as primary address")] },
        .done (markPrimary sid vmid allocationId target))
    else (ipam, .raised "IntegrityError")

/-! ### Linking -/

/-- The arguments of `sync_from_proxmox_vm`. -/
structure SyncRequest where
  networkId : Nat
  proxmoxServerId : ServerId
  vmid : Vmid
  vmName : String
  vmType : String
  ipAddress : String
  node : String
  macAddress : Option String
  syncedBy : String
  targetInterface : Option String
  assignmentKind : String

/-- `_guest_exists`. -/
def guestExists (sur : Surroundings) : Option ServerId → Option Vmid → Bool
  | some sid, some vmid => (sur.vms.find? (sid, vmid)).any VMInstance.live
  | _, _ => false

/-- A text column that is filled only where it is empty. -/
def fill (old : Option String) (new : String) : Option String :=
  if truthy old = false ∧ new ≠ "" then some new else old

/-- The edit that hands an allocation to the reported guest. -/
def linkUpdate (sur : Surroundings) (req : SyncRequest) : AllocationUpdate where
  proxmoxServerId := some (some req.proxmoxServerId)
  proxmoxVmid := some (some req.vmid)
  proxmoxNode := some (some req.node)
  resourceType := some (some req.vmType)
  resourceName := some (some req.vmName)
  macAddress := some req.macAddress
  lastSeen := some (some sur.now)

/-- `sync_from_proxmox_vm`. -/
def syncFromProxmoxVm (sur : Surroundings) (ipam : Ipam) (req : SyncRequest) :
    Ipam × Outcome IPAMAllocation :=
  match ipam.allocations.find? req.ipAddress with
  | some existing =>
    if existing.proxmoxVmid.isSome = true ∧ existing.keyedTo req.proxmoxServerId req.vmid = false ∧
        guestExists sur existing.proxmoxServerId existing.proxmoxVmid = true then
      let holder := if truthy existing.resourceName then existing.resourceName.getD "" else "unknown"
      let vmid := existing.proxmoxVmid.getD 0
      (ipam, .refused (s!"IP {req.ipAddress} is already linked to {holder} (VMID {vmid}) — " ++
        "duplicate address, resolve it in Proxmox first"))
    else if existing.keyedTo req.proxmoxServerId req.vmid = false then
      updateAllocation sur ipam req.ipAddress (some req.syncedBy) (linkUpdate sur req)
    else if sur.commits then
      let a := { existing with
        lastSeen := some sur.now
        resourceName := fill existing.resourceName req.vmName
        proxmoxNode := fill existing.proxmoxNode req.node
        resourceType := fill existing.resourceType req.vmType
        macAddress := fill existing.macAddress (req.macAddress.getD "") }
      ({ ipam with allocations := ipam.allocations.save a }, .done a)
    else (ipam, .raised "IntegrityError")
  | none =>
    let hasPrimary := ipam.hasPrimary (some req.proxmoxServerId) (some req.vmid)
    allocateIp sur ipam
      { ipAddress := req.ipAddress
        networkId := req.networkId
        resourceType := some req.vmType
        resourceName := some req.vmName
        proxmoxServerId := some req.proxmoxServerId
        proxmoxVmid := some req.vmid
        proxmoxNode := some req.node
        macAddress := req.macAddress
        allocatedBy := some req.syncedBy
        notes := some "Auto-synced from Proxmox"
        isPrimary := some !hasPrimary
        assignmentKind := if hasPrimary then req.assignmentKind else "primary"
        targetInterface := req.targetInterface }

/-! ### What the calls change -/

section Effects

variable {sur : Surroundings} {ipam : Ipam} {req : AllocationRequest}

/-- An address that passes the checks is new. -/
theorem checkAllocation_ok {network : IPAMNetwork} {ip : IpAddress}
    (h : checkAllocation sur ipam req = .ok (network, ip)) :
    ipam.allocations.find? req.ipAddress = none ∧
      sur.networks.find? req.networkId = some network ∧
      IpAddress.parse req.ipAddress = some ip := by
  unfold checkAllocation at h
  cases hf : ipam.allocations.find? req.ipAddress with
  | some existing => simp [hf] at h
  | none =>
    cases hn : sur.networks.find? req.networkId with
    | none => simp [hf, hn] at h
    | some network' =>
      cases hp : IpNetwork.parse network'.network with
      | none => simp [hf, hn, hp] at h
      | some net =>
        cases ha : IpAddress.parse req.ipAddress with
        | none => simp [hf, hn, hp, ha] at h
        | some ip' =>
          simp only [hf, hn, hp, ha] at h
          split at h
          · cases h
          · split at h
            · cases h
            · cases h
              exact ⟨rfl, rfl, rfl⟩

/-- An allocation is refused or fails and changes nothing, or it adds one row for a new
address. -/
theorem allocateIp_cases (sur : Surroundings) (ipam : Ipam) (req : AllocationRequest) :
    (∃ network poolId, sur.networks.find? req.networkId = some network ∧
      ipam.allocations.find? req.ipAddress = none ∧
      (IpAddress.parse req.ipAddress).isSome = true ∧
      (∀ b ∈ ipam.allocations.rows, b.id ≠ sur.newId) ∧
      allocateIp sur ipam req =
        (ipam.record (newAllocation sur ipam req network poolId)
          (changedEntry (newAllocation sur ipam req network poolId)
            (newAllocation sur ipam req network poolId) "allocated" req.allocatedBy none),
          .done (newAllocation sur ipam req network poolId))) ∨
    (∃ e, allocateIp sur ipam req = (ipam, .refused e)) ∨
    ∃ e, allocateIp sur ipam req = (ipam, .raised e) := by
  unfold allocateIp
  cases hc : checkAllocation sur ipam req with
  | error e => exact Or.inr (Or.inl ⟨e, rfl⟩)
  | ok found =>
    obtain ⟨network, ip⟩ := found
    obtain ⟨hnew, hnet, hip⟩ := checkAllocation_ok hc
    dsimp only
    cases hp : detectPool sur req ip with
    | error e => exact Or.inr (Or.inr ⟨e, rfl⟩)
    | ok poolId =>
      dsimp only
      split
      · rename_i hcommit
        rw [Bool.and_eq_true, List.all_eq_true] at hcommit
        refine Or.inl ⟨network, poolId, hnet, hnew, by rw [hip]; rfl, ?_, rfl⟩
        exact fun b hb => of_decide_eq_true (hcommit.2 b hb)
      · exact Or.inr (Or.inr ⟨_, rfl⟩)

/-- The rows after a row for a new address is stored. -/
theorem rows_record_of_new {a : IPAMAllocation} {entry : IPAMHistory}
    (h : ipam.allocations.find? a.ipAddress = none) :
    (ipam.record a entry).allocations.rows = ipam.allocations.rows ++ [a] := by
  unfold record KeyedTable.save
  rw [dif_neg (by simp [h])]

/-- An edit is refused or fails and changes nothing, or it rewrites the row of the address. -/
theorem updateAllocation_cases (sur : Surroundings) (ipam : Ipam) (ip : String)
    (updatedBy : Option String) (u : AllocationUpdate) :
    (∃ a, ipam.allocations.find? ip = some a ∧ u.valid = true ∧ sur.commits = true ∧
      (updateAllocation sur ipam ip updatedBy u).1.allocations =
        ipam.allocations.save (u.apply a)) ∨
    (updateAllocation sur ipam ip updatedBy u).1 = ipam ∧
      ¬((ipam.allocations.find? ip).isSome = true ∧ u.valid = true ∧ sur.commits = true) := by
  unfold updateAllocation
  cases hf : ipam.allocations.find? ip with
  | none => exact Or.inr ⟨rfl, fun h => by simp at h⟩
  | some a =>
    dsimp only
    split
    · rename_i hok
      rw [Bool.and_eq_true] at hok
      refine Or.inl ⟨a, rfl, hok.1, hok.2, ?_⟩
      split
      · rename_i hsame
        rw [hsame, ipam.allocations.save_of_mem (ipam.allocations.mem_of_find? hf)]
      · rfl
    · rename_i hok
      rw [Bool.and_eq_true] at hok
      exact Or.inr ⟨rfl, fun h => hok h.2⟩

end Effects

/-- One network of private addresses and no pool. -/
def Surroundings.office (newId : Nat) : Surroundings where
  networks := ⟨[⟨1, "office", "10.0.0.0/24", some "10.0.0.1", none, true⟩], by decide⟩
  pools := .empty
  vms := .empty
  servers := .empty
  now := 0
  newId := newId
  commits := true

end Ipam

end PveManager
