import PveManager.Apps.Engine
import PveManager.Core.Totals
import PveManager.Deploy.Workers
import PveManager.Owners.Instances

/-!
# Quotas

The limits of a user, what the user's guests take up, and the requests that make it
more. The deploy requests ask for the limits before they start their task; cloning,
installing an app and growing a disk do not.
-/

namespace PveManager.Quotas

open PveManager.Core PveManager.Api PveManager.Owners PveManager.Rbac

/-- What is limited. -/
inductive Metric
  | instances
  | cores
  | memoryMb
  | diskGb
  deriving DecidableEq, Repr

/-- In the order of the checks. -/
def Metric.all : List Metric := [.instances, .cores, .memoryMb, .diskGb]

/-- The units in the refusal, in both of its languages. -/
def Metric.units : Metric → String × String
  | .instances => ("инстансов", "instances")
  | .cores => ("vCPU (ядер)", "vCPU")
  | .memoryMb => ("MB памяти", "MB of RAM")
  | .diskGb => ("GB диска", "GB of disk")

/-- A row of `user_quotas`; a null limit is none. -/
structure UserQuota where
  userId : UserId
  maxInstances : Option Nat
  maxCores : Option Nat
  maxMemoryMb : Option Nat
  maxDiskGb : Option Nat
  deriving DecidableEq

def UserQuota.limit (q : UserQuota) : Metric → Option Nat
  | .instances => q.maxInstances
  | .cores => q.maxCores
  | .memoryMb => q.maxMemoryMb
  | .diskGb => q.maxDiskGb

/-- What one guest takes up. -/
def amount (m : Metric) (row : VMInstance) : Nat :=
  match m with
  | .instances => 1
  | .cores => row.cores.getD 0
  | .memoryMb => row.memory.getD 0
  | .diskGb => row.diskSize.getD 0

/-- The rows that count for a user. -/
def counts (userId : UserId) (row : VMInstance) : Bool :=
  decide (row.ownerId = some userId) && row.live && !row.isTemplate

/-- The cached guests. -/
abbrev Instances := KeyedTable VMInstance.key

/-- `get_user_usage`. -/
def getUserUsage (vms : Instances) (userId : UserId) (m : Metric) : Nat :=
  ((vms.rows.filter (counts userId)).map (amount m)).sum

/-- `check_quota`: the first limit that would be passed. -/
def checkQuota (quotas : KeyedTable UserQuota.userId) (vms : Instances) (ownerId : UserId)
    (add : Metric → Nat) : Except (Nat × String) Unit :=
  match quotas.find? ownerId with
  | none => .ok ()
  | some quota =>
    let passed := Metric.all.findSome? fun m =>
      let projected := getUserUsage vms ownerId m + add m
      (quota.limit m).bind fun limit => if limit < projected then some (m, projected, limit) else none
    match passed with
    | none => .ok ()
    | some (m, projected, limit) =>
      .error (429, s!"Превышена квота: {projected} > {limit} {m.units.1}. " ++
        s!"Quota exceeded: {projected} > {limit} {m.units.2}.")

/-- One more guest with its sizes. -/
def newGuest (cores memory disk : Nat) : Metric → Nat
  | .instances => 1
  | .cores => cores
  | .memoryMb => memory
  | .diskGb => disk

/-! ### The requests -/

/-- A template with what the deploy request checks of it. -/
structure TemplateRow extends Deploy.OSTemplate where
  isActive : Bool
  minCores : Nat
  minMemory : Nat
  minDisk : Nat

/-- What the requests read and do not change. -/
structure Panel where
  hasServer : ServerId → Bool
  hasUser : UserId → Bool
  template : Nat → Option TemplateRow
  quotas : KeyedTable UserQuota.userId
  /-- `build_deploy_ssh_keys` for an owner, chosen keys and pasted ones. -/
  deploySshKeys : User → UserId → List Nat → Option String → Except (Nat × String) String

/-- The arguments of `_do_clone_sync`. -/
structure CloneJob where
  serverId : ServerId
  srcVmid : Vmid
  node : String
  vmType : VmType
  newName : String
  full : Bool
  targetNode : Option String
  targetStorage : Option String
  description : Option String
  userId : UserId
  username : String
  ownerId : UserId

/-- A task that an accepted request starts. -/
inductive Job
  | deploy (sender : Deploy.Sender) (request : Deploy.Request)
  | clone (job : CloneJob)
  | app (job : Apps.InstallJob)

/-- A check of a request. -/
def check (ok : Bool) (status : Nat) (detail : String) : Except (Nat × String) Unit :=
  if ok then .ok () else .error (status, detail)

/-- `validate_instance_name`: letters, digits and hyphens of ASCII, a letter first and no hyphen
last. -/
def validateInstanceName (name : String) : Except String String :=
  let stripped := strip name
  let ascii : (Char → Bool) → Char → Bool := fun p c => decide (c.toNat < 128) && p c
  let chars := stripped.toList
  if chars = [] then .error "Имя не может быть пустым"
  else if 63 < chars.length then .error "Имя не может быть длиннее 63 символов"
  else if chars.head?.any (ascii Char.isAlpha) && chars.getLast?.any (ascii Char.isAlphanum) &&
      chars.all (fun c => ascii Char.isAlphanum c || decide (c = '-')) then .ok stripped
  else .error ("Имя должно быть валидным DNS-именем: начинаться с буквы, " ++
    "содержать только латинские буквы, цифры и дефис, заканчиваться буквой или цифрой")

section Requests

variable (panel : Panel) (vms : Instances) (user : User)

/-- The owner of a new guest; only an administrator may name another user. -/
def resolveOwner (ownerId : Option UserId) : Except (Nat × String) UserId :=
  match ownerId.filter fun id => decide (id ≠ 0 ∧ id ≠ user.id) with
  | none => .ok user.id
  | some id =>
    if (hasPermission user "user:manage" || user.isAdmin) = false then
      .error (403, "Only admins can assign instance to another user")
    else if panel.hasUser id = false then .error (404, "Owner user not found")
    else .ok id

/-- `PermissionChecker`. -/
def requirePermission (permission : String) : Except (Nat × String) Unit :=
  check (hasPermission user permission) 403 s!"Permission denied: {permission}"

/-- An invalid name is a bad request. -/
def checkedName (name : String) : Except (Nat × String) String :=
  (validateInstanceName name).mapError fun e => (400, e)

/-- `deploy_lxc_from_template`. -/
def deployLxc (req : Deploy.LXCDeployRequest) (ownerId : Option UserId) (keyIds : List Nat) :
    Except (Nat × String) Job := do
  requirePermission user "vm:create"
  check (panel.hasServer req.serverId) 404 "Proxmox сервер не найден"
  check (decide (req.ostemplate ≠ "")) 400 "Необходимо указать ostemplate"
  check (decide (req.name ≠ "")) 400 "Укажите имя контейнера"
  let name ← checkedName req.name
  let owner ← resolveOwner panel user ownerId
  checkQuota panel.quotas vms owner (newGuest req.cores req.memory req.disk)
  let keys ← panel.deploySshKeys user owner keyIds req.sshKeys
  .ok (.deploy ⟨user.id, user.username, some owner⟩
    (.lxc { req with name := name, sshKeys := (some keys).filter (· ≠ "") }))

def diskBuses : List String := ["scsi", "sata", "virtio"]

def netModels : List String := ["virtio", "e1000", "rtl8139", "vmxnet3"]

def biosTypes : List String := ["seabios", "ovmf"]

/-- `create_vm_from_iso`. -/
def createVmFromIso (req : Deploy.ISOVMCreateRequest) (ownerId : Option UserId) :
    Except (Nat × String) Job := do
  requirePermission user "vm:create"
  check (panel.hasServer req.serverId) 404 "Proxmox сервер не найден"
  check (decide (strip req.name ≠ "")) 400 "Укажите имя ВМ"
  let name ← checkedName req.name
  check (decide (req.node ≠ "")) 400 "Укажите ноду для размещения ВМ"
  check (decide (req.iso ≠ "")) 400 "Выберите установочный ISO-образ"
  check (decide (req.diskBus ∈ diskBuses)) 400
    ("Шина диска должна быть одной из: " ++ ", ".intercalate diskBuses)
  check (decide (req.netModel ∈ netModels)) 400
    ("Модель сетевой карты должна быть одной из: " ++ ", ".intercalate netModels)
  check (decide (req.bios ∈ biosTypes)) 400
    ("BIOS должен быть одним из: " ++ ", ".intercalate biosTypes)
  check (decide (1 ≤ req.disk)) 400 "Размер диска должен быть не меньше 1 GB"
  let owner ← resolveOwner panel user ownerId
  checkQuota panel.quotas vms owner (newGuest req.cores req.memory req.disk)
  .ok (.deploy ⟨user.id, user.username, some owner⟩ (.iso { req with name := name }))

/-- `deploy_vm_from_template`. -/
def deployTemplate (req : Deploy.VMDeployRequest) (ownerId : Option UserId) (keyIds : List Nat) :
    Except (Nat × String) Job := do
  requirePermission user "vm:create"
  match panel.template req.templateId with
  | none => .error (404, "Шаблон не найден")
  | some template =>
    check template.isActive 400 "Шаблон неактивен"
    check (panel.hasServer template.serverId) 404 "Proxmox сервер не найден"
    let cores := Deploy.templateCores req template.toOSTemplate
    let memory := Deploy.templateMemory req template.toOSTemplate
    let disk := Deploy.templateDisk req template.toOSTemplate
    check (decide (template.minCores ≤ cores)) 400 s!"Минимум {template.minCores} ядер CPU"
    check (decide (template.minMemory ≤ memory)) 400 s!"Минимум {template.minMemory} MB памяти"
    check (decide (template.minDisk ≤ disk)) 400 s!"Минимум {template.minDisk} GB диска"
    let owner ← resolveOwner panel user ownerId
    let name ← checkedName req.name
    checkQuota panel.quotas vms owner (newGuest cores memory disk)
    let keys ← panel.deploySshKeys user owner keyIds req.sshKeys
    .ok (.deploy ⟨user.id, user.username, some owner⟩
      (.template { req with name := name, sshKeys := (some keys).filter (· ≠ "") }))

/-- The body of a clone request. -/
structure CloneRequest where
  newName : String
  full : Bool := true
  targetNode : Option String := none
  targetStorage : Option String := none
  description : Option String := none
  ownerId : Option UserId := none

/-- `clone_vm_endpoint` and `clone_container_endpoint`, which ask for no quota. -/
def clone (db : Db) (vmType : VmType) (serverId : ServerId) (vmid : Vmid) (node : String)
    (body : CloneRequest) : Except (Nat × String) Job := do
  requirePermission user "vm:create"
  check (checkVmAccess db user serverId vmid) 403 "You do not have access to this virtual machine"
  check (panel.hasServer serverId) 404 "Proxmox server not found"
  let owner ← resolveOwner panel user body.ownerId
  .ok (.clone ⟨serverId, vmid, node, vmType, body.newName, body.full, body.targetNode,
    body.targetStorage, body.description, user.id, user.username, owner⟩)

end Requests

/-! ### What a task leaves in the cache -/

/-- The worker's arguments of `save_vm_instance`. -/
def savedInstance (params : Deploy.InstanceParams) : SaveArgs where
  serverId := params.serverId
  vmid := params.vmid
  node := params.node
  vmType := params.vmType
  name := params.name
  cores := some params.cores
  memory := some params.memory
  diskSize := some params.diskSize
  ipAddress := params.ipAddress
  ipPrefix := some params.ipPrefix.toNat
  gateway := params.gateway
  cloudInitUser := params.cloudInitUser
  cloudInitPassword := params.cloudInitPassword
  sshKeys := params.sshKeys
  templateId := params.templateId
  templateName := some params.templateName
  description := some params.description
  ownerId := some params.ownerId

/-- `owner_id or user_id`. -/
def CloneJob.owner (job : CloneJob) : UserId :=
  if job.ownerId ≠ 0 then job.ownerId else job.userId

/-- The row of a clone, without the sizes of the guest it was made from. -/
def CloneJob.saved (job : CloneJob) (vmid : Vmid) : SaveArgs where
  serverId := job.serverId
  vmid := vmid
  node := if truthy job.targetNode then job.targetNode.getD "" else job.node
  vmType := job.vmType
  name := job.newName
  description := job.description
  ownerId := some job.owner

/-- What a task saves that ends at a place; the container of an app gets no row. -/
def Job.saved (panel : Panel) (p : Deploy.Place) (net : Deploy.NetConfig) (ipPrefix : Int) :
    Job → Option SaveArgs
  | .deploy sender (.lxc req) => some (savedInstance (Deploy.lxcInstance req sender p net ipPrefix))
  | .deploy sender (.iso req) => some (savedInstance (Deploy.isoInstance req sender p net ipPrefix))
  | .deploy sender (.template req) => (panel.template req.templateId).map fun template =>
      savedInstance (Deploy.templateInstance req sender ⟨p, template.toOSTemplate⟩ net ipPrefix)
  | .clone job => some (job.saved p.vmid)
  | .app _ => none

/-! ### Growing a disk -/

/-- A resize request. -/
structure ResizeRequest where
  user : User
  serverId : ServerId
  vmid : Vmid
  /-- The first disk where the request may leave it out. -/
  defaultDisk : Option String
  disk : Option String
  size : Option String
  /-- Whether the server is there and Proxmox has grown the disk. -/
  resized : Bool

/-- `int(size.rstrip('GMgm').strip())`; a size that Proxmox takes is not negative. -/
def sizeGb (size : String) : Option Nat :=
  (parseInt (String.ofList ((size.toList.reverse.dropWhile fun c =>
    decide (c ∈ ['G', 'M', 'g', 'm'])).reverse))).map Int.toNat

/-- The size that a resize writes to the row, when it gets that far. -/
def ResizeRequest.written (r : ResizeRequest) : Option Nat :=
  if hasPermission r.user "server:manage" && truthy (r.disk.or r.defaultDisk) && r.resized then
    (r.size.filter (· ≠ "")).bind sizeGb
  else none

/-- `resize_vm_disk` and `resize_container_disk`, which ask for no quota. -/
def resizeDisk (vms : Instances) (r : ResizeRequest) : Instances :=
  match r.written with
  | none => vms
  | some gb =>
    match (vms.find? (r.serverId, r.vmid)).filter VMInstance.live with
    | none => vms
    | some row => vms.save { row with diskSize := some gb }

end PveManager.Quotas
