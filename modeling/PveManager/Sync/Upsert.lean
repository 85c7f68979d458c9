import PveManager.Ipam.Release
import PveManager.Sync.Collect

/-!
# Writing the collected guests

The upsert loop of `sync_vm_cache`: look the address up in IPAM or ask the
guest's server for it, then refresh the row of the key or create it. The loop
lemmas give the row of every key after the loop; the owner column is the one the
loop never writes.
-/

namespace PveManager.Sync

open PveManager.Core

/-! ## Addresses -/

/-- One interface as the node or the guest agent reports it: type and address pairs. -/
structure Iface where
  name : String
  ips : List (String × String)
  deriving DecidableEq, Repr

/-- What a server answers about the addresses of guests; `none` where the request raises. -/
structure AddressView where
  /-- `get_container_interfaces(node, vmid, include_live)`. -/
  containerInterfaces : String → Vmid → Bool → Option (List Iface)
  /-- `agent('network-get-interfaces')`. -/
  agentInterfaces : String → Vmid → Option (List Iface)

/-- The first non-empty IPv4 address of a container. -/
def firstContainerIpv4 (ifaces : List Iface) : Option String :=
  ((ifaces.flatMap Iface.ips).find? fun i => i.1 = "ipv4" ∧ i.2 ≠ "").map Prod.snd

/-- The first IPv4 address the guest agent reports outside loopback. -/
def firstAgentIpv4 (ifaces : List Iface) : Option String :=
  (((ifaces.filter fun i => i.name ≠ "lo").flatMap Iface.ips).find? fun i =>
    i.1 = "ipv4" ∧ i.2 ≠ "" ∧ ¬"127.".toList <+: i.2.toList).map Prod.snd

/-- Ask one server for a guest's address: containers always, machines while they run. -/
def detectIp (view : AddressView) (node : String) (f : Found) : Option String :=
  match f.vmType with
  | .lxc =>
    (view.containerInterfaces node f.data.vmid (f.data.status = some "running")).bind
      firstContainerIpv4
  | .qemu =>
    if f.data.status = some "running" then
      (view.agentInterfaces node f.data.vmid).bind firstAgentIpv4
    else none

/-- `ipam_by_server_vmid`: among the active allocations of the key the first one, unless a
later main address replaces it. -/
def ipamByServerVmid (ipam : Ipam) (key : ServerId × Vmid) : Option IPAMAllocation :=
  (ipam.allocations.rows.filter fun a => a.active && a.keyedTo key.1 key.2).foldl
    (fun current a =>
      match current with
      | none => some a
      | some c => if a.isPrimary && !c.isPrimary then some a else some c) none

/-- When each guest was last asked for its address. -/
abbrev LastIpDetect := KeyedTable (Prod.fst : (ServerId × Vmid) × Time → ServerId × Vmid)

/-- `IP_DETECT_TTL`, in seconds. -/
def ipDetectTtl : Time := 300

/-- The throttle lets the guest be asked again. -/
def detectDue (clock : Time) (last : LastIpDetect) (key : ServerId × Vmid) : Bool :=
  decide (((last.find? key).map Prod.snd).getD 0 + ipDetectTtl ≤ clock)

/-- Everything one tick reads from outside the database. -/
structure TickEnv where
  probe : ServerId → Probe
  fetch : ServerId → Fetch
  view : ServerId → AddressView
  /-- `utcnow()` at the start of the collection. -/
  syncTime : Time
  /-- `time.monotonic()`. -/
  clock : Time
  /-- Whether the commit after the upserts goes through. -/
  commitOk : Bool

/-- The address the tick gets from Proxmox for a guest, through the client of its storage id. -/
def detectedIp (env : TickEnv) (clients : List (ServerId × ServerId)) (f : Found) :
    Option String :=
  match clients.find? fun c => c.1 = f.serverId with
  | none => none
  | some c =>
    let node := f.data.node.getD ""
    if node = "" then none else detectIp (env.view c.2) node f

/-- The address IPAM records for a guest. -/
def ipamIp (ipam : Ipam) (f : Found) : Option String :=
  (ipamByServerVmid ipam f.key).map IPAMAllocation.ipAddress

/-- Proxmox is asked for the address: IPAM has none and the throttle allows it. -/
def asksProxmox (clock : Time) (ipam : Ipam) (last : LastIpDetect) (f : Found) : Bool :=
  !truthy (ipamIp ipam f) && detectDue clock last f.key

/-- The address of a guest for this tick: IPAM first, then Proxmox when the throttle allows. -/
def ipAddressFor (env : TickEnv) (ipam : Ipam) (clients : List (ServerId × ServerId))
    (last : LastIpDetect) (f : Found) : Option String :=
  if asksProxmox env.clock ipam last f then (detectedIp env clients f).or (ipamIp ipam f)
  else ipamIp ipam f

/-- The throttle marks after looking up one guest. -/
def markDetect (env : TickEnv) (ipam : Ipam) (last : LastIpDetect) (f : Found) : LastIpDetect :=
  if asksProxmox env.clock ipam last f then last.save (f.key, env.clock) else last

/-! ## Rows -/

/-- `round(value / unit)`: halves go to the even neighbour. -/
def roundDiv (value unit : Nat) : Nat :=
  let q := value / unit
  if 2 * (value % unit) < unit then q
  else if unit < 2 * (value % unit) then q + 1
  else if q % 2 = 0 then q else q + 1

/-- `_bytes_to_mb` and `_bytes_to_gb`, by their unit; zero bytes read as unknown. -/
def bytesTo (unit : Nat) : Option Nat → Option Nat
  | none => none
  | some 0 => none
  | some value => some (roundDiv value unit)

def bytesToMb : Option Nat → Option Nat := bytesTo (1024 * 1024)

def bytesToGb : Option Nat → Option Nat := bytesTo (1024 * 1024 * 1024)

/-- `str.capitalize` on ASCII text. -/
def capitalize (s : String) : String :=
  match s.toList with
  | [] => s
  | c :: cs => String.ofList (c.toUpper :: cs.map Char.toLower)

/-- The name a row gets, with the default built from the number. -/
def Found.vmName (f : Found) : String :=
  f.data.name.getD (match f.vmType with
    | .qemu => s!"VM-{f.data.vmid}"
    | .lxc => s!"CT-{f.data.vmid}")

def Found.osType (f : Found) : String :=
  match f.vmType with
  | .qemu => f.data.ostype.getD "QEMU/KVM"
  | .lxc => capitalize (f.data.ostype.getD "Linux")

def Found.newStatus (f : Found) : String := f.data.status.getD "unknown"

def Found.nodeName (f : Found) : String := f.data.node.getD ""

/-- The update of an existing row: every listed column, the address only when one is known,
and the row is live again. -/
def refreshRow (syncTime : Time) (f : Found) (ip : Option String) (row : VMInstance) :
    VMInstance :=
  { row with
    name := f.vmName
    node := f.nodeName
    status := f.newStatus
    cores := f.data.cpus.or f.data.maxcpu
    memory := bytesToMb f.data.maxmem
    diskSize := bytesToGb f.data.maxdisk
    osType := some f.osType
    vmType := f.vmType
    isTemplate := f.data.template
    ipAddress := if truthy ip then ip else row.ipAddress
    lastSyncAt := some syncTime
    deletedAt := none }

/-- A row for a guest seen for the first time; it has no owner. -/
def newRow (syncTime : Time) (f : Found) (ip : Option String) : VMInstance where
  serverId := f.serverId
  vmid := f.data.vmid
  node := f.nodeName
  vmType := f.vmType
  name := f.vmName
  ownerId := none
  status := f.newStatus
  isTemplate := f.data.template
  cores := f.data.cpus.or f.data.maxcpu
  memory := bytesToMb f.data.maxmem
  diskSize := bytesToGb f.data.maxdisk
  osType := some f.osType
  ipAddress := ip
  ipPrefix := some 24
  gateway := none
  nameserver := none
  cloudInitUser := none
  cloudInitPassword := none
  sshKeys := none
  templateId := none
  templateName := none
  description := none
  deletedAt := none
  lastSyncAt := some syncTime

/-- The row written for a guest, from the row of its key if there is one. -/
def upsertRow (syncTime : Time) (f : Found) (ip : Option String) :
    Option VMInstance → VMInstance
  | some row => refreshRow syncTime f ip row
  | none => newRow syncTime f ip

@[simp] theorem live_upsertRow (t : Time) (f : Found) (ip : Option String)
    (o : Option VMInstance) : (upsertRow t f ip o).live = true := by
  cases o <;> rfl

/-- The upsert keeps the owner of an existing row and leaves a new one without. -/
theorem ownerId_upsertRow (t : Time) (f : Found) (ip : Option String) (o : Option VMInstance) :
    (upsertRow t f ip o).ownerId = o.bind VMInstance.ownerId := by
  cases o <;> rfl

theorem key_upsertRow (t : Time) (f : Found) (ip : Option String) (o : Option VMInstance)
    (ho : ∀ r ∈ o, r.key = f.key) : (upsertRow t f ip o).key = f.key := by
  cases o with
  | none => rfl
  | some r => exact ho r rfl

/-- A status change: key, node, old and new status. -/
structure StatusChange where
  serverId : ServerId
  vmid : Vmid
  node : String
  oldStatus : String
  newStatus : String
  deriving DecidableEq, Repr

/-- A guest that appeared or went: key, node, name and kind. -/
structure GuestNotice where
  serverId : ServerId
  vmid : Vmid
  node : String
  name : String
  vmType : VmType
  deriving DecidableEq, Repr

/-- State of the upsert loop. -/
structure Upserted where
  vms : KeyedTable VMInstance.key
  lastIpDetect : LastIpDetect
  statusChanges : List StatusChange
  createdVms : List GuestNotice

/-- The status change a guest is reported with, if its row had another status. -/
def statusChangeOf (f : Found) : Option VMInstance → Option StatusChange
  | some row =>
    if row.status = f.newStatus then none
    else some ⟨f.serverId, f.data.vmid, f.nodeName, row.status, f.newStatus⟩
  | none => none

/-- A guest without a live row is reported as created. -/
def createdOf (f : Found) : Option VMInstance → Option GuestNotice
  | some row =>
    if row.deletedAt = none then none
    else some ⟨f.serverId, f.data.vmid, f.nodeName, f.vmName, f.vmType⟩
  | none => some ⟨f.serverId, f.data.vmid, f.nodeName, f.vmName, f.vmType⟩

/-- One round of the upsert loop. -/
def upsertGuest (env : TickEnv) (ipam : Ipam) (clients : List (ServerId × ServerId))
    (acc : Upserted) (f : Found) : Upserted :=
  let ip := ipAddressFor env ipam clients acc.lastIpDetect f
  let existing := acc.vms.find? f.key
  { vms := acc.vms.save (upsertRow env.syncTime f ip existing)
    lastIpDetect := markDetect env ipam acc.lastIpDetect f
    statusChanges := acc.statusChanges ++ (statusChangeOf f existing).toList
    createdVms := acc.createdVms ++ (createdOf f existing).toList }

/-- The upsert loop over the collected guests. -/
def upsertAll (env : TickEnv) (ipam : Ipam) (clients : List (ServerId × ServerId))
    (vms : KeyedTable VMInstance.key) (last : LastIpDetect) (found : List Found) : Upserted :=
  found.foldl (upsertGuest env ipam clients) ⟨vms, last, [], []⟩

/-! ## The rows after the loop -/

section Loop

variable {env : TickEnv} {ipam : Ipam} {clients : List (ServerId × ServerId)}

/-- One round reads and writes the row of its own key only. -/
theorem find?_upsertGuest (acc : Upserted) (f : Found) (k : ServerId × Vmid) :
    (upsertGuest env ipam clients acc f).vms.find? k =
      if f.key = k then
        some (upsertRow env.syncTime f (ipAddressFor env ipam clients acc.lastIpDetect f)
          (acc.vms.find? f.key))
      else acc.vms.find? k := by
  have hk := key_upsertRow env.syncTime f (ipAddressFor env ipam clients acc.lastIpDetect f)
    (acc.vms.find? f.key) fun r hr => acc.vms.key_of_find? hr
  simp only [upsertGuest, KeyedTable.find?_save, hk]

/-- The throttle mark of another guest stays. -/
theorem find?_markDetect_of_ne (last : LastIpDetect) (f : Found) {k : ServerId × Vmid}
    (h : f.key ≠ k) : (markDetect env ipam last f).find? k = last.find? k := by
  unfold markDetect
  split
  · rw [KeyedTable.find?_save, if_neg h]
  · rfl

/-- The address of a guest depends on its own throttle mark only. -/
theorem ipAddressFor_congr {last last' : LastIpDetect} {f : Found}
    (h : last.find? f.key = last'.find? f.key) :
    ipAddressFor env ipam clients last f = ipAddressFor env ipam clients last' f := by
  have hasks : asksProxmox env.clock ipam last f = asksProxmox env.clock ipam last' f := by
    unfold asksProxmox detectDue
    rw [h]
  unfold ipAddressFor
  rw [hasks]

/-- The address of a guest is IPAM's, or what the client of its storage id answers. -/
theorem ipAddressFor_cases (env : TickEnv) (ipam : Ipam) (clients : List (ServerId × ServerId))
    (last : LastIpDetect) (f : Found) :
    ipAddressFor env ipam clients last f = ipamIp ipam f ∨
      ∃ c ∈ clients, c.1 = f.serverId ∧
        ipAddressFor env ipam clients last f = detectIp (env.view c.2) (f.data.node.getD "") f := by
  unfold ipAddressFor
  split
  · cases hd : detectedIp env clients f with
    | none => exact Or.inl rfl
    | some ip =>
      right
      unfold detectedIp at hd
      split at hd
      · exact absurd hd (by simp)
      · rename_i c hc
        dsimp only at hd
        split at hd
        · exact absurd hd (by simp)
        · exact ⟨c, List.mem_of_find?_eq_some hc, by simpa using List.find?_some hc, hd.symm⟩
  · exact Or.inl rfl

/-- Rows of keys that are not collected stay as they are. -/
theorem find?_foldl_upsertGuest_of_not_mem {found : List Found} {k : ServerId × Vmid}
    (h : k ∉ found.map Found.key) (acc : Upserted) :
    (found.foldl (upsertGuest env ipam clients) acc).vms.find? k = acc.vms.find? k ∧
      (found.foldl (upsertGuest env ipam clients) acc).lastIpDetect.find? k =
        acc.lastIpDetect.find? k := by
  induction found generalizing acc with
  | nil => exact ⟨rfl, rfl⟩
  | cons f rest ih =>
    simp only [List.map_cons, List.mem_cons, not_or] at h
    have hne : f.key ≠ k := fun he => h.1 he.symm
    obtain ⟨h1, h2⟩ := ih h.2 (upsertGuest env ipam clients acc f)
    refine ⟨?_, ?_⟩
    · rw [List.foldl_cons, h1, find?_upsertGuest, if_neg hne]
    · rw [List.foldl_cons, h2]
      exact find?_markDetect_of_ne acc.lastIpDetect f hne

/-- The row of a collected guest after the loop is the upsert of its row before. -/
theorem find?_foldl_upsertGuest_of_mem {found : List Found}
    (hnd : (found.map Found.key).Nodup) {f : Found} (hf : f ∈ found) (acc : Upserted) :
    (found.foldl (upsertGuest env ipam clients) acc).vms.find? f.key =
      some (upsertRow env.syncTime f (ipAddressFor env ipam clients acc.lastIpDetect f)
        (acc.vms.find? f.key)) := by
  induction found generalizing acc with
  | nil => exact absurd hf List.not_mem_nil
  | cons g rest ih =>
    rw [List.map_cons, List.nodup_cons] at hnd
    rw [List.foldl_cons]
    rcases List.mem_cons.mp hf with rfl | hf
    · rw [(find?_foldl_upsertGuest_of_not_mem hnd.1 _).1, find?_upsertGuest, if_pos rfl]
    · have hne : g.key ≠ f.key := fun he => hnd.1 (he ▸ List.mem_map_of_mem hf)
      rw [ih hnd.2 hf, find?_upsertGuest, if_neg hne]
      have hip : ipAddressFor env ipam clients
          (upsertGuest env ipam clients acc g).lastIpDetect f =
          ipAddressFor env ipam clients acc.lastIpDetect f :=
        ipAddressFor_congr (find?_markDetect_of_ne acc.lastIpDetect g hne)
      rw [hip]

/-- The rows after the loop, by key. -/
theorem find?_upsertAll (env : TickEnv) (ipam : Ipam) (clients : List (ServerId × ServerId))
    (vms : KeyedTable VMInstance.key) (last : LastIpDetect) {found : List Found}
    (hnd : (found.map Found.key).Nodup) (k : ServerId × Vmid) :
    (k ∉ found.map Found.key →
      (upsertAll env ipam clients vms last found).vms.find? k = vms.find? k) ∧
    ∀ f ∈ found, f.key = k →
      (upsertAll env ipam clients vms last found).vms.find? k =
        some (upsertRow env.syncTime f (ipAddressFor env ipam clients last f)
          (vms.find? k)) := by
  refine ⟨fun h => (find?_foldl_upsertGuest_of_not_mem h _).1, ?_⟩
  rintro f hf rfl
  exact find?_foldl_upsertGuest_of_mem hnd hf _

end Loop

end PveManager.Sync
