import PveManager.Api.Access
import PveManager.Scripts.Engine

/-!
# Guest endpoints

The endpoints of the guest router that act on one guest or tell about it, and the
execution of a catalogue script. Every handler names its permission; some ask for
access to the instance as well. What is logged, and the task records kept for
tracking, are left out.
-/

namespace PveManager.Api.Guests

open PveManager.Core PveManager.Rbac PveManager.Scripts

/-- One stored sample of a guest's metrics. -/
structure InstanceMetric where
  serverId : ServerId
  vmid : Vmid
  ts : Time
  cpu : Option Nat
  mem : Option Nat
  maxmem : Option Nat
  diskUsed : Option Nat
  diskTotal : Option Nat
  netinRate : Option Nat
  netoutRate : Option Nat

/-- One stored sample of a network device of a guest. -/
structure InstanceNicMetric where
  serverId : ServerId
  vmid : Vmid
  dev : String
  ts : Time
  inRate : Option Nat
  outRate : Option Nat

/-- A machine template. -/
structure OSTemplate where
  id : Nat
  vmid : Option Vmid

/-- A parameter a catalogue script declares. -/
structure ParamField where
  name : String
  required : Bool
  default : Json

/-- A catalogue script. -/
structure ScriptCatalog where
  id : Nat
  name : String
  targetType : String
  interpreter : String
  content : String
  paramsSchema : List ParamField
  source : String

/-- The tables the guest endpoints read. -/
structure GuestDb extends Db where
  metrics : List InstanceMetric
  nicMetrics : List InstanceNicMetric
  templates : List OSTemplate
  scripts : List ScriptCatalog

/-- A client method on one guest. -/
inductive GuestOp
  | status (ty : VmType)
  | config (ty : VmType)
  | interfaces (ty : VmType)
  | rrddata (ty : VmType) (timeframe : String)
  | snapshots (ty : VmType)
  | executeCommand (command : String) (timeout : Nat)
  | executeScript (script interpreter : String) (timeout : Nat)
  | execInContainer (command : List Json)
  | start (ty : VmType)
  | stop (ty : VmType) (force : Bool)
  | forceStop (ty : VmType)
  | shutdown (ty : VmType)
  | reset
  | restart (ty : VmType)
  | updateConfig (ty : VmType) (data : Json)
  | resizeDisk (ty : VmType) (disk size : Json)
  | growFilesystem
  | deleteSnapshot (ty : VmType) (name : String)
  | delete (ty : VmType)

/-- The method changes the guest or runs something in it. -/
def GuestOp.changes : GuestOp → Bool
  | .status _ | .config _ | .interfaces _ | .rrddata _ _ | .snapshots _ => false
  | _ => true

/-- A client method with the guest it is about. -/
structure GuestRequest where
  node : String
  vmid : Vmid
  op : GuestOp

/-- What the handlers do besides calling Proxmox. -/
inductive GuestEffect
  /-- Write the expected status to the cached row. -/
  | setStatus (serverId : ServerId) (vmid : Vmid) (status : String)
  /-- Parse the size and write it to the cached row. -/
  | updateDiskSize (serverId : ServerId) (vmid : Vmid) (size : Json)
  /-- `save_vm_instance`. -/
  | saveInstance (serverId : ServerId) (vmid : Vmid) (config interfaces : Json)
  | archiveSnapshot (serverId : ServerId) (vmid : Vmid) (snapshot : Json)
  /-- `soft_delete_vm_instance`, `release_ip_by_vmid` and `_cleanup_installed_apps`. -/
  | forgetInstance (serverId : ServerId) (vmid : Vmid)
  /-- Queue `_do_reinstall_sync`, which destroys the guest and creates it again. -/
  | submitReinstall (serverId : ServerId) (vmid : Vmid) (node : String) (templateId : Option Nat)
  /-- Store the running execution. -/
  | recordExecution (scriptId : Nat) (serverId : ServerId) (params : List (String × String))
  /-- A call of the background execution. -/
  | script (c : ScriptCall)

abbrev GuestEffect.Answer : GuestEffect → Type
  | .updateDiskSize .. | .saveInstance .. | .archiveSnapshot .. | .forgetInstance .. =>
    Except String Unit
  | .setStatus .. => Unit
  | .submitReinstall .. | .recordExecution .. => Nat
  | .script c => c.Answer

abbrev GuestRouter : Router where
  Op := GuestRequest
  OpAnswer := fun _ => Except String Json
  Effect := GuestEffect
  EffectAnswer := GuestEffect.Answer

/-- The fields `get_saved_vm_config` returns. -/
structure SavedConfig where
  cores : Option Nat
  memory : Option Nat
  diskSize : Option Nat
  ipAddress : Option String
  ipPrefix : Option Nat
  gateway : Option String
  nameserver : Option String
  cloudInitUser : Option String
  cloudInitPassword : Option String
  sshKeys : Option String
  name : String
  templateId : Option Nat

/-- A successful response. -/
inductive Reply
  /-- What Proxmox answered about the guest. -/
  | content (data : Json)
  | interfaces (data : Json)
  /-- The samples of the window, before they are averaged, and the devices seen in it. -/
  | metrics (data : List InstanceMetric) (nics : List String)
  | savedConfig (found : Option SavedConfig)
  | success (message : String)
  | taskStarted (taskId : Nat)
  | executionStarted (executionId : Nat)

/-- The response carries data stored about the guest. -/
def Reply.discloses : Reply → Bool
  | .content data => data.truthy
  | .interfaces data => data.truthy
  | .metrics data nics => !data.isEmpty || !nics.isEmpty
  | .savedConfig found => found.isSome
  | .success _ | .taskStarted _ | .executionStarted _ => false

abbrev GuestHandler (α : Type) := Handler GuestRouter α

/-- A client method on the guest, which may raise. -/
def guestOp (server : ProxmoxServer) (node : String) (vmid : Vmid) (op : GuestOp) :
    GuestHandler Json :=
  orRaise (request (R := GuestRouter) server ⟨node, vmid, op⟩)

/-- `except Exception` around a step whose result is not used. -/
def swallow {α : Type} (p : GuestHandler α) : GuestHandler Unit :=
  tryCatch (do let _ ← p; pure ()) fun _ => pure ()

/-- `await request.json()`. -/
def readJson (body : Option Json) : GuestHandler Json :=
  match body with
  | none => throw (.other "Expecting value")
  | some data => pure data

/-- `data.get(key, default)`. -/
def getField (data : Json) (key : String) (default : Json) : GuestHandler Json :=
  match data with
  | .dict fields => pure ((fields.lookup key).getD default)
  | _ => throw (.other "object has no attribute 'get'")

section Endpoints

variable (db : GuestDb) (user : User) (serverId : ServerId) (vmid : Vmid) (node : String)

/-- The common part of the handlers that call one method and answer with its result. -/
def callGuest (op : GuestOp) (reply : Json → Reply) : GuestHandler Reply := do
  let server ← resolveServer db.toDb serverId "Proxmox server not found"
  orServerError do
    getClientOr503 server "Failed to connect to Proxmox server"
    let result ← guestOp server node vmid op
    pure (reply result)

/-! ### Commands -/

def executeVmCommand (command : String) (timeout : Nat) : GuestHandler Reply := do
  permissionChecker user "vm:console"
  callGuest db serverId vmid node (.executeCommand command timeout) .content

def executeVmScript (script interpreter : String) (timeout : Nat) : GuestHandler Reply := do
  permissionChecker user "vm:console"
  callGuest db serverId vmid node (.executeScript script interpreter timeout) .content

/-- `[command] + (args if isinstance(args, list) else [])`. -/
def fullCommand (command args : Json) : List Json :=
  match args with
  | .list items => command :: items
  | _ => [command]

def execInContainer (body : Option Json) : GuestHandler Reply := do
  permissionChecker user "vm:console"
  let server ← resolveServer db.toDb serverId "Proxmox server not found"
  orServerErrorKeepHttp do
    let data ← readJson body
    let command ← getField data "command" (.text "/bin/bash")
    let args ← getField data "args" (.list [])
    getClientOr503 server "Failed to connect to Proxmox server"
    let result ← guestOp server node vmid (.execInContainer (fullCommand command args))
    Proc.ensure result.truthy (.http 500 "Failed to execute command")
    pure (.content result)

/-! ### What is known about a guest -/

def getVmConfig : GuestHandler Reply := do
  permissionChecker user "vm:view"
  callGuest db serverId vmid node (.config .qemu) .content

def getContainerConfig : GuestHandler Reply := do
  permissionChecker user "vm:view"
  callGuest db serverId vmid node (.config .lxc) .content

def getVmStatus : GuestHandler Reply := do
  permissionChecker user "vm:view"
  requireVmAccess db.toDb user serverId vmid
  callGuest db serverId vmid node (.status .qemu) .content

/-- The first of the two routes registered for a container's status, the one that is served. -/
def getContainerStatus : GuestHandler Reply := do
  permissionChecker user "vm:view"
  requireVmAccess db.toDb user serverId vmid
  callGuest db serverId vmid node (.status .lxc) .content

def getVmInterfaces : GuestHandler Reply := do
  permissionChecker user "vm:view"
  callGuest db serverId vmid node (.interfaces .qemu) .interfaces

def getContainerInterfaces : GuestHandler Reply := do
  permissionChecker user "vm:view"
  callGuest db serverId vmid node (.interfaces .lxc) .interfaces

def getVmRrddata (timeframe : String) : GuestHandler Reply := do
  permissionChecker user "vm:view"
  callGuest db serverId vmid node (.rrddata .qemu timeframe) .content

def getContainerRrddata (timeframe : String) : GuestHandler Reply := do
  permissionChecker user "vm:view"
  callGuest db serverId vmid node (.rrddata .lxc timeframe) .content

/-- The samples of the guest in a window. -/
def metricsIn (fromTs toTs : Time) : List InstanceMetric :=
  db.metrics.filter fun m =>
    decide (m.serverId = serverId ∧ m.vmid = vmid ∧ fromTs ≤ m.ts ∧ m.ts ≤ toTs)

/-- The network devices of the guest seen in a window. -/
def nicsIn (fromTs toTs : Time) : List String :=
  ((db.nicMetrics.filter fun m =>
    decide (m.serverId = serverId ∧ m.vmid = vmid ∧ fromTs ≤ m.ts ∧ m.ts ≤ toTs)).map
      InstanceNicMetric.dev).dedup

/-- `query_instance_metrics` over the window of `_resolve_metrics_window`. -/
def queryInstanceMetrics (fromTs toTs : Time) : Reply :=
  .metrics (metricsIn db serverId vmid fromTs toTs) (nicsIn db serverId vmid fromTs toTs)

def getVmMetrics (fromTs toTs : Time) : GuestHandler Reply := do
  permissionChecker user "vm:view"
  pure (queryInstanceMetrics db serverId vmid fromTs toTs)

def getContainerMetrics (fromTs toTs : Time) : GuestHandler Reply := do
  permissionChecker user "vm:view"
  pure (queryInstanceMetrics db serverId vmid fromTs toTs)

/-- The stored configuration of a cached row. -/
def savedConfigOf (row : VMInstance) : SavedConfig where
  cores := row.cores
  memory := row.memory
  diskSize := row.diskSize
  ipAddress := row.ipAddress
  ipPrefix := row.ipPrefix
  gateway := row.gateway
  nameserver := row.nameserver
  cloudInitUser := row.cloudInitUser
  cloudInitPassword := row.cloudInitPassword
  sshKeys := row.sshKeys
  name := row.name
  templateId := row.templateId

def getSavedVmConfig : GuestHandler Reply := do
  permissionChecker user "vm:view"
  pure (.savedConfig ((getVmInstance db.toDb serverId vmid).map savedConfigOf))

/-! ### Changes -/

/-- The common body of the two configuration updates. -/
def updateGuestConfig (ty : VmType) (body : Option Json) : GuestHandler Reply := do
  permissionChecker user "server:manage"
  let server ← resolveServer db.toDb serverId "Proxmox server not found"
  let data ← readJson body
  orServerErrorKeepHttp do
    getClientOr503 server "Failed to connect to Proxmox server"
    let success ← guestOp server node vmid (.updateConfig ty data)
    Proc.ensure success.truthy (.http 500 "Не удалось обновить конфигурацию")
    pure (.success "Конфигурация обновлена")

def updateVmConfig (body : Option Json) : GuestHandler Reply :=
  updateGuestConfig db user serverId vmid node .qemu body

def updateContainerConfig (body : Option Json) : GuestHandler Reply :=
  updateGuestConfig db user serverId vmid node .lxc body

/-- The cached size is updated where the guest has a live row. -/
def updateCachedSize (size : Json) : GuestHandler Unit :=
  if (getVmInstance db.toDb serverId vmid).isSome then
    orRaise (effect (R := GuestRouter) (.updateDiskSize serverId vmid size))
  else pure ()

/-- The body the two resizes share: they differ in the default disk, the check of the fields and
what follows the resize. -/
def resizeGuestDisk (ty : VmType) (defaultDisk : Json) (valid : Json → Json → Bool)
    (detail : String) (afterwards : GuestOp) (body : Option Json) : GuestHandler Reply := do
  permissionChecker user "server:manage"
  let server ← resolveServer db.toDb serverId "Proxmox server not found"
  orServerErrorKeepHttp do
    let data ← readJson body
    let disk ← getField data "disk" defaultDisk
    let size ← getField data "size" .null
    Proc.ensure (valid disk size) (.http 400 detail)
    getClientOr503 server "Failed to connect to Proxmox server"
    let success ← guestOp server node vmid (.resizeDisk ty disk size)
    Proc.ensure success.truthy (.http 500 "Не удалось изменить размер диска")
    updateCachedSize db serverId vmid size
    let _ ← guestOp server node vmid afterwards
    pure (.success "Размер диска изменен")

/-- Both fields are given. -/
def validVmResize (disk size : Json) : Bool := disk.truthy && size.truthy

/-- The size is given; the disk has a default. -/
def validContainerResize (_disk size : Json) : Bool := size.truthy

def resizeVmDisk (body : Option Json) : GuestHandler Reply :=
  resizeGuestDisk db user serverId vmid node .qemu .null validVmResize
    "Требуются параметры disk и size" .growFilesystem body

def resizeContainerDisk (body : Option Json) : GuestHandler Reply :=
  resizeGuestDisk db user serverId vmid node .lxc (.text "rootfs") validContainerResize
    "Требуется параметр size" (.restart .lxc) body

/-! ### Power -/

/-- `permission_map`. -/
def powerPermission (action : String) : String :=
  if action = "start" then "vm:start"
  else if action = "stop" ∨ action = "shutdown" then "vm:stop"
  else "vm:restart"

/-- The method of an action. -/
def powerOp (ty : VmType) (action : String) (force : Bool) : GuestOp :=
  if action = "start" then .start ty
  else if action = "stop" then if force then .forceStop ty else .stop ty false
  else if action = "shutdown" then .shutdown ty
  else if action = "reset" then .reset
  else .restart ty

/-- Send the action and write the expected status to the cache. -/
def sendPower (server : ProxmoxServer) (ty : VmType) (action : String) (force : Bool) :
    GuestHandler Reply := do
  let result ← guestOp server node vmid (powerOp ty action force)
  Proc.ensure result.truthy (.http 500 "Failed to execute action")
  let _ ← effect (R := GuestRouter) (.setStatus serverId vmid
    (if action ∈ ["start", "restart", "reset"] then "running" else "stopped"))
  pure (.success (if action = "stop" ∧ force = true then "kill" else action))

def controlVm (action : String) (force : Bool) : GuestHandler Reply := do
  Proc.ensure (decide (action ∈ ["start", "stop", "restart", "shutdown", "reset"]))
    (.http 400 "Invalid action")
  permissionChecker user (powerPermission action)
  requireVmAccess db.toDb user serverId vmid
  let server ← resolveServer db.toDb serverId "Proxmox server not found"
  orServerErrorKeepHttp do
    getClientOr503 server "Failed to connect to Proxmox server"
    swallow (guestOp server node vmid (.status .qemu))
    sendPower serverId vmid node server .qemu action force

def controlContainer (action : String) (force : Bool) : GuestHandler Reply := do
  Proc.ensure (decide (action ∈ ["start", "stop", "restart", "shutdown"]))
    (.http 400 "Invalid action")
  permissionChecker user (powerPermission action)
  requireVmAccess db.toDb user serverId vmid
  let server ← resolveServer db.toDb serverId "Proxmox server not found"
  orServerError do
    getClientOr503 server "Failed to connect to Proxmox server"
    sendPower serverId vmid node server .lxc action force

/-! ### Deletion and reinstallation -/

/-- Poll up to `n` times until the guest is not running any more. -/
def waitStopped (server : ProxmoxServer) (ty : VmType) : Nat → GuestHandler Bool
  | 0 => pure false
  | n + 1 => do
    let status ← guestOp server node vmid (.status ty)
    if status.fieldIs "status" "running" then waitStopped server ty n else pure true

/-- Archive and delete one snapshot; a snapshot without a name is skipped. -/
def removeSnapshot (server : ProxmoxServer) (ty : VmType) (snapshot : Json) :
    GuestHandler Unit :=
  match snapshot.get? "name" with
  | some (.text name) =>
    if name = "current" ∨ name = "" then pure ()
    else do
      swallow (orRaise (effect (R := GuestRouter) (.archiveSnapshot serverId vmid snapshot)))
      swallow (guestOp server node vmid (.deleteSnapshot ty name))
  | _ => pure ()

/-- The snapshots one after the other. -/
def removeSnapshots (server : ProxmoxServer) (ty : VmType) : List Json → GuestHandler Unit
  | [] => pure ()
  | snapshot :: rest => do
    removeSnapshot serverId vmid node server ty snapshot
    removeSnapshots server ty rest

/-- `archive_and_delete_snapshots`. -/
def archiveAndDeleteSnapshots (server : ProxmoxServer) (ty : VmType) : GuestHandler Unit :=
  swallow do
    match ← guestOp server node vmid (.snapshots ty) with
    | .list snapshots => removeSnapshots serverId vmid node server ty snapshots
    | _ => throw (.other "snapshots are no list")

/-- The body the two deletions share; a machine's configuration is saved first unless forced. -/
def deleteGuest (ty : VmType) (force : Bool) : GuestHandler Reply := do
  permissionChecker user "vm:delete"
  requireVmAccess db.toDb user serverId vmid
  let server ← resolveServer db.toDb serverId "server_not_found"
  orServerErrorKeepHttp do
    getClientOr503 server "failed_to_connect"
    let status ← guestOp server node vmid (.status ty)
    if status.fieldIs "status" "running" then do
      swallow (guestOp server node vmid (.stop ty true))
      let stopped ← waitStopped vmid node server ty 30
      Proc.ensure stopped (.http 400 "cannot_delete_running")
    if ty = .qemu ∧ force = false then do
      let config ← guestOp server node vmid (.config .qemu)
      let interfaces ← guestOp server node vmid (.interfaces .qemu)
      swallow (orRaise (effect (R := GuestRouter) (.saveInstance serverId vmid config interfaces)))
    archiveAndDeleteSnapshots serverId vmid node server ty
    let result ← guestOp server node vmid (.delete ty)
    Proc.ensure result.truthy (.http 500 "Не удалось удалить")
    swallow (orRaise (effect (R := GuestRouter) (.forgetInstance serverId vmid)))
    pure (.success "success")

def deleteVm (force : Bool) : GuestHandler Reply :=
  deleteGuest db user serverId vmid node .qemu force

def deleteContainer : GuestHandler Reply :=
  deleteGuest db user serverId vmid node .lxc false

/-- The template a reinstallation uses: the row's machine template, or `none` for a file. -/
def reinstallTemplate (row : VMInstance) : GuestHandler (Option Nat) :=
  match row.templateId.filter fun id => decide (id ≠ 0) with
  | some id =>
    match db.templates.find? fun t => decide (t.id = id) && t.vmid.any fun v => decide (v ≠ 0) with
    | some t => pure (some t.id)
    | none => throw (.http 400 "Template not found or invalid")
  | none =>
    if row.templateName.any fun name => decide (':' ∈ name.toList) then pure none
    else throw (.http 400 "VM has no associated template; reinstall is not available")

def reinstallVm : GuestHandler Reply := do
  permissionChecker user "vm:delete"
  requireVmAccess db.toDb user serverId vmid
  let _ ← resolveServer db.toDb serverId "Proxmox server not found"
  match getVmInstance db.toDb serverId vmid with
  | none => throw (.http 404 "VM not found")
  | some row => do
    let templateId ← reinstallTemplate db row
    let taskId ← effect (R := GuestRouter) (.submitReinstall serverId vmid node templateId)
    pure (.taskStarted taskId)

end Endpoints

/-! ### Catalogue scripts -/

/-- The body of an execution request. -/
structure ExecuteRequest where
  node : Option String
  vmid : Option Vmid
  vmType : Option String
  params : List (String × Json)
  timeout : Nat

/-- `params[name] in (None, "")` or missing. -/
def missing (params : List (String × Json)) (name : String) : Bool :=
  match params.lookup name with
  | none | some .null | some (.text "") => true
  | _ => false

/-- `params[name] = value`. -/
def setParam (params : List (String × Json)) (name : String) (value : Json) :
    List (String × Json) :=
  if (params.lookup name).isSome then
    params.map fun p => if p.1 = name then (name, value) else p
  else params ++ [(name, value)]

/-- The declared parameters in turn: a missing one is refused or takes its default. -/
def fillParams : List ParamField → List (String × Json) → Except String (List (String × Json))
  | [], params => .ok params
  | field :: rest, params =>
    if field.name = "" ∨ missing params field.name = false then fillParams rest params
    else if field.required then .error s!"Параметр '{field.name}' обязателен"
    else
      match field.default with
      | .null => fillParams rest params
      | value => fillParams rest (setParam params field.name value)

/-- `_shell_quote`. -/
def shellQuote (value : String) : String :=
  "'" ++ String.ofList (value.toList.flatMap fun c =>
    if c = '\'' then ['\'', '\\', '\'', '\''] else [c]) ++ "'"

/-- `render_params`. -/
def renderParams (content : String) (params : List (String × String)) : String :=
  if params = [] then content
  else
    "\n".intercalate
      (["#!/bin/sh", "# --- параметры, подставленные каталогом скриптов ---"] ++
        (params.map fun p => s!"export {p.1}={shellQuote p.2}") ++
        ["# --- конец параметров ---"]) ++ "\n" ++ content

/-- The timeout in effect. -/
def effectiveTimeout (script : ScriptCatalog) (timeout : Nat) : Nat :=
  if timeout ≠ 0 then timeout
  else if script.source = "community-scripts" then 1800 else 60

/-- The background thread's arguments to the script engine. -/
def executionArgs (str : Json → String) (script : ScriptCatalog) (server : ProxmoxServer)
    (req : ExecuteRequest) (params : List (String × Json)) (second : Nat) : ExecuteArgs where
  server := server
  targetType := script.targetType
  node := req.node
  vmid := req.vmid
  vmType := req.vmType
  script := renderParams script.content (params.map fun p => (p.1, str p.2))
  interpreter := script.interpreter
  timeout := effectiveTimeout script req.timeout
  second := second

/-- A guest script without a guest to run in. -/
def lacksGuest (script : ScriptCatalog) (req : ExecuteRequest) : Bool :=
  decide (script.targetType = "guest") &&
    (req.vmid.isNone || !truthy req.node || !truthy req.vmType)

/-- A call of the script engine, made by the background thread. -/
def scriptCall (c : ScriptCall) : RouterCall GuestRouter := .effect (.script c)

/-- The background thread. -/
def background (hash : String → Int) (args : ExecuteArgs) : GuestHandler ExecResult :=
  (execute hash args).embed (J := GuestRouter.interface) scriptCall (fun _ a => a) Exc.other

/-- `execute_script`, with the calls of the thread it starts. -/
def executeScript (str : Json → String) (hash : String → Int) (db : GuestDb) (user : User)
    (serverId : ServerId) (scriptId : Nat) (req : ExecuteRequest) (second : Nat) :
    GuestHandler Reply := do
  permissionChecker user "script:execute"
  match db.scripts.find? fun s => decide (s.id = scriptId) with
  | none => throw (.http 404 "Скрипт не найден")
  | some script => do
    let server ← resolveServer db.toDb serverId "Сервер не найден"
    Proc.ensure (!lacksGuest script req)
      (.http 400 "Для guest-скрипта нужны node, vmid и vm_type")
    match fillParams script.paramsSchema req.params with
    | .error e => throw (.http 400 e)
    | .ok filled => do
      let params := filled.filter fun p => decide (p.1 ∈ script.paramsSchema.map ParamField.name)
      let executionId ← effect (R := GuestRouter) (.recordExecution scriptId serverId
        (params.map fun p => (p.1, str p.2)))
      let _ ← background hash (executionArgs str script server req params second)
      pure (.executionStarted executionId)

end PveManager.Api.Guests
