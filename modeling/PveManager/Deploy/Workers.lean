import PveManager.Api.Visibility
import PveManager.Core.Outcome
import PveManager.Ipam.Service

/-!
# The deploy workers

The three workers that create a guest in the background: a container from a
template file, a machine that boots an installer, and a machine cloned from a
template. Each prepares, reserves an address, builds the guest and closes its
task. A worker stops early with a failed task or raises; the handler around it
then closes the task as failed.
-/

namespace PveManager.Deploy

open PveManager.Core PveManager.Ipam

/-- The arguments of `_update_task`. -/
structure TaskUpdate where
  status : String
  step : String
  progress : Nat
  vmid : Option Vmid := none
  node : Option String := none
  error : Option String := none
  deriving DecidableEq, Repr

/-- How a worker stops before its end. -/
inductive Stop
  /-- The task is closed as failed and the worker returns. -/
  | returned (closing : TaskUpdate)
  | raised (err : String)

abbrev Step (α : Type) := Except Stop α

/-- A row of `os_templates`. -/
structure OSTemplate where
  id : Nat
  serverId : ServerId
  name : String
  vmid : Vmid
  node : String
  sourceNode : Option String
  defaultCores : Nat
  defaultMemory : Nat
  defaultDisk : Nat

/-- The arguments of `create_lxc_container`. -/
structure LxcParams where
  node : String
  vmid : Vmid
  ostemplate : String
  hostname : String
  cores : Nat
  memory : Nat
  swap : Nat
  storage : String
  rootfsSize : Nat
  net0 : String
  nameserver : Option String
  searchdomain : Option String
  password : Option String
  sshPublicKeys : Option String
  unprivileged : Bool
  onboot : Bool
  description : String

/-- The arguments of `create_vm_from_iso`. -/
structure IsoParams where
  node : String
  vmid : Vmid
  name : String
  memory : Nat
  cores : Nat
  diskStorage : String
  diskSize : Nat
  isoVolid : String
  bridge : String
  ostype : String
  diskBus : String
  netModel : String
  bios : String
  tpm : Bool
  extraIsoVolid : Option String
  onboot : Bool
  description : String

/-- The arguments of `clone_vm_from_template`. -/
structure CloneParams where
  node : String
  templateVmid : Vmid
  newVmid : Vmid
  name : String
  description : String
  targetStorage : Option String
  targetNode : Option String

/-- The arguments of `configure_vm`. -/
structure ConfigParams where
  node : String
  vmid : Vmid
  cores : Nat
  memory : Nat
  diskSize : Nat
  networkBridge : Option String
  cloudInitUser : Option String
  cloudInitPassword : Option String
  sshKeys : Option String
  ipConfig : String
  onboot : Bool

/-- What `configure_vm` reports: the groups of settings that were applied, and the errors. -/
structure ConfigResult where
  applied : List String
  errors : List (String × String)

/-- The arguments of `save_vm_instance`. -/
structure InstanceParams where
  serverId : ServerId
  vmid : Vmid
  node : String
  vmType : VmType
  name : String
  cores : Nat
  memory : Nat
  diskSize : Nat
  ipAddress : Option String
  ipPrefix : Int
  gateway : Option String
  cloudInitUser : Option String := none
  cloudInitPassword : Option String := none
  sshKeys : Option String := none
  templateId : Option Nat := none
  templateName : String
  description : String
  ownerId : UserId

/-- The answers of everything outside of the worker; an error is an exception. -/
structure World where
  sur : Surroundings
  /-- The writes of a running or completed task. -/
  updateTask : TaskUpdate → Except String Unit
  /-- Whether the database takes the write of a failed task. -/
  recordsFailure : Bool
  /-- Whether the database compares a text with a number, by its decimal digits. -/
  comparesNumbers : Bool
  /-- Whether the server is registered. -/
  server : ServerId → Except String Bool
  template : Nat → Except String (Option OSTemplate)
  isConnected : ServerId → Except String Bool
  nodes : Except String (List String)
  /-- The contents of the storages of a node. -/
  storageContents : String → Except String (List String)
  vmStatus : String → Vmid → Except String Bool
  findTemplateOnNodes : Vmid → Except String (Option String)
  nextVmid : ServerId → Except String Vmid
  createLxcContainer : LxcParams → Except String (Option String)
  createVmFromIso : IsoParams → Except String (Option String)
  cloneVmFromTemplate : CloneParams → Except String (Option String)
  waitForTask : String → String → Except String Bool
  waitForVmUnlock : String → Vmid → Except String Bool
  configureVm : ConfigParams → Except String ConfigResult
  start : String → Vmid → Except String Bool
  saveVmInstance : InstanceParams → Except String Unit
  logCreated : Vmid → Except String Unit

/-- What is asked of the outside may raise. -/
def ask {α : Type} (answer : Except String α) : Step α := answer.mapError .raised

/-- Close the task as failed and return. -/
def fail {α : Type} (step : String) (progress : Nat) (error : String) : Step α :=
  .error (.returned { status := "failed", step := step, progress := progress, error := some error })

/-- `_update_task(task_id, "running", …)`. -/
def World.running (w : World) (step : String) (progress : Nat) (vmid : Option Vmid)
    (node : Option String) : Step Unit :=
  ask (w.updateTask { status := "running", step := step, progress := progress, vmid := vmid,
                      node := node })

/-- A value that is there, or a failed task. -/
def required {α : Type} (value : Option α) (step : String) (progress : Nat) (error : String) :
    Step α :=
  match value with
  | some a => .ok a
  | none => fail step progress error

/-- A condition that holds, or a failed task. -/
def ensured (b : Bool) (step : String) (progress : Nat) (error : String) : Step Unit :=
  if b then .ok () else fail step progress error

/-- A task's identifier that Python's truth test accepts. -/
def upidOf (upid : Option String) : Option String := upid.filter fun s => s ≠ ""

/-! ### Reserving an address -/

/-- What a worker reserves an address for. -/
structure Reservation where
  networkId : Option Nat
  poolId : Option Nat
  ipAddress : Option String
  resourceType : String
  name : String
  server : ServerId
  vmid : Vmid
  node : String
  username : String
  autoNotes : String
  manualNotes : String

namespace Reservation

/-- The arguments for the service. -/
def request (r : Reservation) (networkId : Nat) (ip notes : String) : AllocationRequest where
  ipAddress := ip
  networkId := networkId
  poolId := r.poolId
  resourceType := some r.resourceType
  resourceName := some r.name
  proxmoxServerId := some r.server
  proxmoxVmid := some r.vmid
  proxmoxNode := some r.node
  allocatedBy := some r.username
  notes := some notes

/-- The call of the service: an automatic address without a given one, else the given one. -/
def allocate (r : Reservation) (networkId : Nat) (sur : Surroundings) (ipam : Ipam) :
    Ipam × Outcome IPAMAllocation :=
  if truthy r.ipAddress then
    allocateIp sur ipam (r.request networkId (r.ipAddress.getD "") r.manualNotes)
  else autoAllocateIp sur ipam (r.request networkId "" r.autoNotes)

/-- What the worker goes on with: nothing is reserved without a network, and the text of a
refusal is dropped. -/
def reserve (r : Reservation) (sur : Surroundings) (ipam : Ipam) :
    Ipam × Except String (Option IPAMAllocation) :=
  match r.networkId.filter (· ≠ 0) with
  | none => (ipam, .ok none)
  | some networkId =>
    match r.allocate networkId sur ipam with
    | (ipam', .done a) => (ipam', .ok (some a))
    | (ipam', .refused _) => (ipam', .ok none)
    | (ipam', .raised e) => (ipam', .error e)

/-- `allocated_ip`. -/
def address (r : Reservation) (a : Option IPAMAllocation) : Option String :=
  if truthy r.ipAddress then r.ipAddress else (a.map IPAMAllocation.ipAddress).or r.ipAddress

end Reservation

/-- The address, its prefix length as a text and the gateway. -/
structure NetConfig where
  ip : Option String
  mask : String
  gateway : Option String

/-- The text behind the slash of a network in CIDR notation. -/
def maskOf (network : IPAMNetwork) : String :=
  match network.network.toList.splitOn '/' with
  | _ :: mask :: _ => String.ofList mask
  | _ => "24"

/-- The mask and the gateway of the IPAM network, where there is one to look up. -/
def netConfig (sur : Surroundings) (ip : Option String) (networkId : Option Nat)
    (gateway : Option String) : NetConfig :=
  match (networkId.filter (· ≠ 0)).bind sur.networks.find? with
  | none => ⟨ip, "24", gateway⟩
  | some network =>
    ⟨ip, maskOf network,
      if truthy gateway = false ∧ truthy network.gateway = true then network.gateway else gateway⟩

/-- `ip_config`. -/
def NetConfig.text (c : NetConfig) : String :=
  if truthy c.ip then
    let ip := c.ip.getD ""
    let gateway := c.gateway.getD ""
    if truthy c.gateway then s!"ip={ip}/{c.mask},gw={gateway}" else s!"ip={ip}/{c.mask}"
  else "ip=dhcp"

/-- `int(network_mask)`. -/
def prefixOf (mask : String) : Step Int :=
  match Api.parseInt mask with
  | some n => .ok n
  | none => .error (.raised s!"invalid literal for int() with base 10: '{mask}'")

/-! ### What the workers have in common -/

/-- A guest that was built. -/
structure Deployed where
  /-- The closing update of the task. -/
  closing : TaskUpdate
  server : ServerId
  vmid : Vmid
  /-- The address the guest was given. -/
  address : Option String

/-- A worker by its parts. -/
structure Worker where
  Context : Type
  prepare : Step Context
  reservation : Context → Reservation
  build : Context → Option IPAMAllocation → Step Deployed
  /-- The handler tries to release the allocation. -/
  releases : Bool

/-- What a run leaves behind. -/
structure Result where
  ipam : Ipam
  /-- The closing update of the task, where it was written. -/
  closing : Option TaskUpdate
  /-- The guest of a completed run. -/
  deployed : Option Deployed

/-- `release_ip(ipam_allocation.id)`: the address column is compared with the row's number. -/
def releaseById (w : World) (ipam : Ipam) (a : IPAMAllocation) : Ipam :=
  if w.comparesNumbers then (ipam.releaseIp (toString a.id) none none).1 else ipam

/-- The end of a task whose worker raised. -/
def failedTask (w : World) (err : String) : Option TaskUpdate :=
  if w.recordsFailure then
    some { status := "failed", step := "Ошибка: " ++ String.ofList (err.toList.take 150),
           progress := 0, error := some err }
  else none

/-- A stop before its handler is done; a failed task that is not written raises once more. -/
def stopped (w : World) : Stop → Option TaskUpdate
  | .returned closing => if w.recordsFailure then some closing else none
  | .raised err => failedTask w err

/-- What the handler does to the allocations. -/
def handled (w : World) (releases : Bool) (a : Option IPAMAllocation) (ipam : Ipam) : Ipam :=
  if releases then a.elim ipam (releaseById w ipam) else ipam

/-- The allocations after a stop; an early return whose failure is not written is handled too. -/
def afterStop (w : World) (releases : Bool) (a : Option IPAMAllocation) (ipam : Ipam) :
    Stop → Ipam
  | .returned _ => if w.recordsFailure then ipam else handled w releases a ipam
  | .raised _ => handled w releases a ipam

/-- A run of a worker. -/
def Worker.run (worker : Worker) (w : World) (ipam : Ipam) : Result :=
  match worker.prepare with
  | .error stop => ⟨afterStop w worker.releases none ipam stop, stopped w stop, none⟩
  | .ok ctx =>
    match (worker.reservation ctx).reserve w.sur ipam with
    | (ipam', .error err) => ⟨ipam', failedTask w err, none⟩
    | (ipam', .ok a) =>
      match worker.build ctx a with
      | .ok deployed => ⟨ipam', some deployed.closing, some deployed⟩
      | .error stop => ⟨afterStop w worker.releases a ipam' stop, stopped w stop, none⟩

/-! ### Containers -/

/-- `LXCDeployRequest`. -/
structure LXCDeployRequest where
  serverId : ServerId
  ostemplate : String
  node : Option String
  name : String
  vmid : Option Vmid
  cores : Nat
  memory : Nat
  swap : Nat
  disk : Nat
  storage : String
  bridge : String
  ipAddress : Option String
  gateway : Option String
  ipamNetworkId : Option Nat
  ipamPoolId : Option Nat
  password : Option String
  sshKeys : Option String
  nameserver : Option String
  searchdomain : Option String
  unprivileged : Bool
  startAfterCreate : Bool
  onboot : Bool

/-- Where a guest is built. -/
structure Place where
  server : ServerId
  node : String
  vmid : Vmid

section Common

variable (w : World)

/-- The server of a request, when it is there and answers. -/
def connected (serverId : ServerId) : Step ServerId := do
  let registered ← ask (w.server serverId)
  ensured registered "Сервер не найден" 0 "Сервер Proxmox не найден"
  w.running "Подключение к Proxmox..." 10 none none
  let answers ← ask (w.isConnected serverId)
  ensured answers "Ошибка подключения к Proxmox" 10 "Не удалось подключиться к Proxmox серверу"
  .ok serverId

/-- The given number, or the next free one. -/
def newVmid (server : ServerId) (vmid : Option Vmid) : Step Vmid :=
  match vmid.filter (· ≠ 0) with
  | some vmid => .ok vmid
  | none => ask (w.nextVmid server)

/-- A node has a storage for container templates; one that cannot be asked has none. -/
def hasTemplates (node : String) : Bool :=
  match w.storageContents node with
  | .ok contents => contents.any fun content => (content.splitOn "vztmpl").length ≠ 1
  | .error _ => false

/-- The given node, the first one with templates, or the first one. -/
def deployNode (node : Option String) : Step String :=
  if truthy node then .ok (node.getD "")
  else do
    let nodes ← ask w.nodes
    let first ← required nodes.head? "Нет доступных нод" 15 "Не найдено нод Proxmox"
    .ok ((nodes.find? (hasTemplates w)).getD first)

end Common

/-- The request with the account that sent it. -/
structure Sender where
  userId : UserId
  username : String
  ownerId : Option UserId

/-- `owner_id or user_id`. -/
def Sender.owner (s : Sender) : UserId := (s.ownerId.filter (· ≠ 0)).getD s.userId

/-- Start the guest on request, without a look at the answer. -/
def started (w : World) (start : Bool) (step : String) (progress : Nat) (p : Place) : Step Unit :=
  if start then do
    w.running step progress (some p.vmid) (some p.node)
    let _ ← ask (w.start p.node p.vmid)
    .ok ()
  else .ok ()

/-- The last steps of every worker: start the guest, store its row, log and close the task. -/
def finish (w : World) (start : Bool) (step : String) (progress : Nat) (p : Place) (mask : String)
    (row : Int → InstanceParams) (closing : TaskUpdate) : Step Unit := do
  started w start step progress p
  w.running "Сохранение в базе данных..." 95 (some p.vmid) (some p.node)
  let ipPrefix ← prefixOf mask
  ask (w.saveVmInstance (row ipPrefix))
  ask (w.logCreated p.vmid)
  ask (w.updateTask closing)

section Lxc

variable (w : World) (req : LXCDeployRequest) (sender : Sender)

def lxcPrepare : Step Place := do
  w.running "Подготовка..." 5 none none
  let server ← connected w req.serverId
  let node ← deployNode w req.node
  w.running "Генерация VMID..." 20 none none
  let vmid ← newVmid w server req.vmid
  w.running "Выделение IP-адреса..." 25 none none
  .ok ⟨server, node, vmid⟩

def lxcReservation (p : Place) : Reservation where
  networkId := req.ipamNetworkId
  poolId := req.ipamPoolId
  ipAddress := req.ipAddress
  resourceType := "ct"
  name := req.name
  server := p.server
  vmid := p.vmid
  node := p.node
  username := sender.username
  autoNotes := s!"Auto-allocated for LXC {req.name}"
  manualNotes := s!"Manually assigned for LXC {req.name}"

/-- The network is looked up only for an address. -/
def lxcNet (p : Place) (a : Option IPAMAllocation) : NetConfig :=
  let ip := (lxcReservation req sender p).address a
  netConfig w.sur ip (if truthy ip then req.ipamNetworkId else none) req.gateway

def lxcParams (p : Place) (net : NetConfig) : LxcParams where
  node := p.node
  vmid := p.vmid
  ostemplate := req.ostemplate
  hostname := req.name
  cores := req.cores
  memory := req.memory
  swap := req.swap
  storage := req.storage
  rootfsSize := req.disk
  net0 := s!"name=eth0,bridge={req.bridge},{net.text},firewall=1"
  nameserver := req.nameserver
  searchdomain := req.searchdomain
  password := req.password
  sshPublicKeys := req.sshKeys
  unprivileged := req.unprivileged
  onboot := req.onboot
  description := s!"Created from {req.ostemplate} by {sender.username}"

def lxcInstance (p : Place) (net : NetConfig) (ipPrefix : Int) : InstanceParams where
  serverId := p.server
  vmid := p.vmid
  node := p.node
  vmType := .lxc
  name := req.name
  cores := req.cores
  memory := req.memory
  diskSize := req.disk
  ipAddress := net.ip
  ipPrefix := ipPrefix
  gateway := net.gateway
  cloudInitUser := some "root"
  cloudInitPassword := req.password
  sshKeys := req.sshKeys
  templateName := req.ostemplate
  description := s!"Created from CT template {req.ostemplate}"
  ownerId := sender.owner

/-- Proxmox's refusal to create the container is a failed task of its own. -/
def lxcCreated (answer : Except String (Option String)) : Step String :=
  match answer with
  | .error e => fail "Ошибка создания контейнера" 35 s!"Proxmox: {e}"
  | .ok upid => required (upidOf upid) "Ошибка создания контейнера" 35
      "Proxmox не вернул UPID задачи создания контейнера"

def lxcClosing (p : Place) : TaskUpdate where
  status := "completed"
  step := "Контейнер успешно создан!"
  progress := 100
  vmid := some p.vmid
  node := some p.node

def lxcBuild (p : Place) (a : Option IPAMAllocation) : Step Deployed := do
  let net := lxcNet w req sender p a
  let running := fun step progress => w.running step progress (some p.vmid) (some p.node)
  running s!"Создание LXC контейнера VMID {p.vmid}..." 35
  let upid ← lxcCreated (w.createLxcContainer (lxcParams req sender p net))
  running "Ожидание завершения создания..." 50
  let success ← ask (w.waitForTask p.node upid)
  ensured success "Таймаут создания контейнера" 50 "Создание контейнера заняло слишком долго (>5 мин)"
  running "Контейнер создан" 70
  finish w req.startAfterCreate "Запуск контейнера..." 85 p net.mask (lxcInstance req sender p net)
    (lxcClosing p)
  .ok ⟨lxcClosing p, p.server, p.vmid, net.ip⟩

/-- `_do_lxc_deploy`. -/
def lxcWorker : Worker where
  Context := Place
  prepare := lxcPrepare w req
  reservation := lxcReservation req sender
  build := lxcBuild w req sender
  releases := true

end Lxc

/-! ### Machines from an installer -/

/-- `ISOVMCreateRequest`. -/
structure ISOVMCreateRequest where
  serverId : ServerId
  node : String
  name : String
  iso : String
  vmid : Option Vmid
  cores : Nat
  memory : Nat
  disk : Nat
  storage : String
  bridge : String
  ostype : String
  diskBus : String
  netModel : String
  bios : String
  tpm : Bool
  extraIso : Option String
  ipAddress : Option String
  gateway : Option String
  ipamNetworkId : Option Nat
  ipamPoolId : Option Nat
  startAfterCreate : Bool
  onboot : Bool

/-- The address is chosen by the service. -/
def automatic (networkId : Option Nat) (ip : Option String) : Bool :=
  (networkId.filter (· ≠ 0)).isSome && !truthy ip

/-- Announce that an address is being chosen. -/
def announced (w : World) (networkId : Option Nat) (ip : Option String) (step : String)
    (progress : Nat) (p : Place) : Step Unit :=
  if automatic networkId ip then w.running step progress (some p.vmid) (some p.node) else .ok ()

section Iso

variable (w : World) (req : ISOVMCreateRequest) (sender : Sender)

def isoPrepare : Step Place := do
  w.running "Подготовка..." 5 none none
  let server ← connected w req.serverId
  w.running "Генерация VMID..." 20 none none
  let vmid ← newVmid w server req.vmid
  let p : Place := ⟨server, req.node, vmid⟩
  announced w req.ipamNetworkId req.ipAddress "Резервирование IP-адреса (IPAM)..." 25 p
  .ok p

def isoReservation (p : Place) : Reservation where
  networkId := req.ipamNetworkId
  poolId := req.ipamPoolId
  ipAddress := req.ipAddress
  resourceType := "vm"
  name := req.name
  server := p.server
  vmid := p.vmid
  node := p.node
  username := sender.username
  autoNotes := s!"Reserved for ISO install of VM {req.name}"
  manualNotes := s!"Manually assigned for ISO install of VM {req.name}"

/-- The network is looked up with or without an address. -/
def isoNet (p : Place) (a : Option IPAMAllocation) : NetConfig :=
  netConfig w.sur ((isoReservation req sender p).address a) req.ipamNetworkId req.gateway

/-- The machine gets no address; the installer asks for it. -/
def isoParams (p : Place) : IsoParams where
  node := p.node
  vmid := p.vmid
  name := req.name
  memory := req.memory
  cores := req.cores
  diskStorage := req.storage
  diskSize := req.disk
  isoVolid := req.iso
  bridge := req.bridge
  ostype := req.ostype
  diskBus := req.diskBus
  netModel := req.netModel
  bios := req.bios
  tpm := req.tpm
  extraIsoVolid := req.extraIso
  onboot := req.onboot
  description := s!"Created for ISO install ({req.iso}) by {sender.username}"

def isoInstance (p : Place) (net : NetConfig) (ipPrefix : Int) : InstanceParams where
  serverId := p.server
  vmid := p.vmid
  node := p.node
  vmType := .qemu
  name := req.name
  cores := req.cores
  memory := req.memory
  diskSize := req.disk
  ipAddress := net.ip
  ipPrefix := ipPrefix
  gateway := net.gateway
  templateName := req.iso
  description := s!"Created for ISO install from {req.iso}"
  ownerId := sender.owner

/-- The closing text names the address to enter. -/
def isoDoneStep (net : NetConfig) : String :=
  if truthy net.ip then
    let ip := net.ip.getD ""
    s!"ВМ создана, IP зарезервирован: {ip}/{net.mask}"
  else "ВМ создана — откройте консоль для установки ОС"

def isoClosing (p : Place) (net : NetConfig) : TaskUpdate where
  status := "completed"
  step := isoDoneStep net
  progress := 100
  vmid := some p.vmid
  node := some p.node

def isoBuild (p : Place) (a : Option IPAMAllocation) : Step Deployed := do
  let net := isoNet w req sender p a
  let running := fun step progress => w.running step progress (some p.vmid) (some p.node)
  running s!"Создание ВМ VMID {p.vmid}..." 40
  let upid ← ask (w.createVmFromIso (isoParams req sender p))
  let upid ← required (upidOf upid) "Ошибка создания ВМ" 40
    "Proxmox не вернул UPID задачи создания ВМ"
  running "Ожидание создания диска..." 60
  let success ← ask (w.waitForTask p.node upid)
  ensured success "Таймаут создания ВМ" 60 "Создание ВМ заняло слишком долго (>5 мин)"
  finish w req.startAfterCreate "Запуск ВМ..." 85 p net.mask (isoInstance req sender p net)
    (isoClosing p net)
  .ok ⟨isoClosing p net, p.server, p.vmid, net.ip⟩

/-- `_do_iso_vm_create`. -/
def isoWorker : Worker where
  Context := Place
  prepare := isoPrepare w req
  reservation := isoReservation req sender
  build := isoBuild w req sender
  releases := true

end Iso

/-! ### Machines from a template -/

/-- `VMDeployRequest`. -/
structure VMDeployRequest where
  templateId : Nat
  name : String
  vmid : Option Vmid
  targetNode : Option String
  cores : Option Nat
  memory : Option Nat
  disk : Option Nat
  targetStorage : Option String
  startAfterCreate : Bool
  onboot : Bool
  enableHa : Bool
  networkBridge : Option String
  ipAddress : Option String
  gateway : Option String
  ipamNetworkId : Option Nat
  ipamPoolId : Option Nat
  cloudInitUser : Option String
  cloudInitPassword : Option String
  sshKeys : Option String

/-- A place with the template the guest was cloned from. -/
structure ClonePlace extends Place where
  template : OSTemplate

section Template

variable (w : World) (req : VMDeployRequest) (sender : Sender)

/-- `template.get_source_node()`. -/
def OSTemplate.getSourceNode (t : OSTemplate) : String :=
  if truthy t.sourceNode then t.sourceNode.getD "" else t.node

/-- The node the template is on: its own, or the one where it is found. -/
def templateNode (t : OSTemplate) : Step String := do
  let present ← ask (w.vmStatus t.getSourceNode t.vmid)
  if present then .ok t.getSourceNode
  else do
    let found ← ask (w.findTemplateOnNodes t.vmid)
    required found "Шаблон не найден на Proxmox" 20 s!"VMID {t.vmid} не найден на сервере"

/-- The node the guest is to run on. -/
def targetNode (t : OSTemplate) : String :=
  if truthy req.targetNode then req.targetNode.getD "" else t.getSourceNode

def cloneParams (t : OSTemplate) (sourceNode : String) (vmid : Vmid) : CloneParams where
  node := sourceNode
  templateVmid := t.vmid
  newVmid := vmid
  name := req.name
  description := s!"Deployed from template {t.name} by {sender.username}"
  targetStorage := req.targetStorage
  targetNode := if targetNode req t ≠ sourceNode then some (targetNode req t) else none

/-- The machine is cloned before an address is reserved. -/
def templatePrepare : Step ClonePlace := do
  w.running "Подготовка..." 5 none none
  let template ← ask (w.template req.templateId)
  let t ← required template "Шаблон не найден" 0 "Шаблон не найден"
  let server ← connected w t.serverId
  w.running "Поиск шаблона..." 20 none none
  let sourceNode ← templateNode w t
  w.running "Генерация VMID..." 25 none none
  let vmid ← newVmid w server req.vmid
  w.running s!"Клонирование шаблона → VMID {vmid}..." 30 none none
  let upid ← ask (w.cloneVmFromTemplate (cloneParams req sender t sourceNode vmid))
  let upid ← required (upidOf upid) "Ошибка клонирования" 30
    "Proxmox не вернул UPID задачи клонирования"
  w.running "Клонирование диска..." 45 (some vmid) none
  let success ← ask (w.waitForTask sourceNode upid)
  ensured success "Таймаут клонирования" 45 "Клонирование заняло слишком долго (>5 мин)"
  let p : ClonePlace := ⟨⟨server, targetNode req t, vmid⟩, t⟩
  w.running "Клонирование завершено" 65 (some p.vmid) (some p.node)
  w.running "Ожидание разблокировки VM..." 66 (some p.vmid) (some p.node)
  let _ ← ask (w.waitForVmUnlock p.node p.vmid)
  announced w req.ipamNetworkId req.ipAddress "Выделение IP-адреса (IPAM)..." 68 p.toPlace
  .ok p

def templateReservation (p : ClonePlace) : Reservation where
  networkId := req.ipamNetworkId
  poolId := req.ipamPoolId
  ipAddress := req.ipAddress
  resourceType := "vm"
  name := req.name
  server := p.server
  vmid := p.vmid
  node := p.node
  username := sender.username
  autoNotes := s!"Auto-allocated for VM deployment from template {p.template.name}"
  manualNotes := s!"Manually assigned for VM deployment from template {p.template.name}"

def templateNet (p : ClonePlace) (a : Option IPAMAllocation) : NetConfig :=
  let ip := (templateReservation req sender p).address a
  netConfig w.sur ip (if truthy ip then req.ipamNetworkId else none) req.gateway

def templateCores (t : OSTemplate) : Nat := (req.cores.filter (· ≠ 0)).getD t.defaultCores

def templateMemory (t : OSTemplate) : Nat := (req.memory.filter (· ≠ 0)).getD t.defaultMemory

def templateDisk (t : OSTemplate) : Nat := (req.disk.filter (· ≠ 0)).getD t.defaultDisk

def configParams (p : ClonePlace) (net : NetConfig) : ConfigParams where
  node := p.node
  vmid := p.vmid
  cores := templateCores req p.template
  memory := templateMemory req p.template
  diskSize := templateDisk req p.template
  networkBridge := req.networkBridge
  cloudInitUser := req.cloudInitUser
  cloudInitPassword := req.cloudInitPassword
  sshKeys := req.sshKeys.filter (· ≠ "")
  ipConfig := net.text
  onboot := req.onboot

def templateInstance (p : ClonePlace) (net : NetConfig) (ipPrefix : Int) : InstanceParams where
  serverId := p.server
  vmid := p.vmid
  node := p.node
  vmType := .qemu
  name := req.name
  cores := templateCores req p.template
  memory := templateMemory req p.template
  diskSize := templateDisk req p.template
  ipAddress := net.ip
  ipPrefix := ipPrefix
  gateway := net.gateway
  cloudInitUser := req.cloudInitUser
  cloudInitPassword := req.cloudInitPassword
  sshKeys := req.sshKeys
  templateId := some p.template.id
  templateName := p.template.name
  description := s!"Deployed from template {p.template.name}"
  ownerId := sender.owner

/-- The closing update names the groups of settings that failed. -/
def templateClosing (p : ClonePlace) (errors : List (String × String)) : TaskUpdate :=
  { status := "completed"
    step := if errors = [] then "VM успешно создана!" else "VM создана с предупреждениями"
    progress := 100
    vmid := some p.vmid
    node := some p.node
    error := if errors = [] then none
      else some ("; ".intercalate (errors.map fun e => e.1 ++ ": " ++ e.2)) }

/-- High availability is asked for without a look at the answer. -/
def templateBuild (p : ClonePlace) (a : Option IPAMAllocation) : Step Deployed := do
  let net := templateNet w req sender p a
  let running := fun step progress => w.running step progress (some p.vmid) (some p.node)
  running "Настройка VM (CPU, RAM, Cloud-Init)..." 72
  let result ← ask (w.configureVm (configParams req p net))
  finish w req.startAfterCreate "Запуск VM..." 88 p.toPlace net.mask
    (templateInstance req sender p net) (templateClosing p result.errors)
  .ok ⟨templateClosing p result.errors, p.server, p.vmid, if "cloudinit" ∈ result.applied then net.ip else none⟩

/-- `_do_deploy_sync`; its handler knows of no allocation. -/
def templateWorker : Worker where
  Context := ClonePlace
  prepare := templatePrepare w req sender
  reservation := templateReservation req sender
  build := templateBuild w req sender
  releases := false

end Template

/-! ### Requests -/

/-- A deploy request. -/
inductive Request
  | lxc (req : LXCDeployRequest)
  | iso (req : ISOVMCreateRequest)
  | template (req : VMDeployRequest)

/-- The worker of a request. -/
def Request.worker (w : World) (sender : Sender) : Request → Worker
  | .lxc req => lxcWorker w req sender
  | .iso req => isoWorker w req sender
  | .template req => templateWorker w req sender

/-- A run for a request. -/
def deploy (w : World) (sender : Sender) (request : Request) (ipam : Ipam) : Result :=
  (request.worker w sender).run w ipam

end PveManager.Deploy
