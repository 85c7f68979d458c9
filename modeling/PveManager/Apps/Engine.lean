import PveManager.Api.Handler

/-!
# The app engine

The rows of installed apps and of the catalog, and the part of an installation
that runs in the request: the checks, the choice of a guest number, and the row
with the arguments of the job that goes on in the background.
-/

namespace PveManager.Apps

open PveManager.Core PveManager.Api

/-- `installed_apps.status`. -/
inductive AppStatus
  | installing
  | running
  | stopped
  | error
  | updating
  | updateFailed
  | deleting
  | orphaned
  deriving DecidableEq, Repr

def AppStatus.str : AppStatus → String
  | .installing => "installing"
  | .running => "running"
  | .stopped => "stopped"
  | .error => "error"
  | .updating => "updating"
  | .updateFailed => "update_failed"
  | .deleting => "deleting"
  | .orphaned => "orphaned"

/-- The variables of an app in the order of the dictionary. -/
abbrev Env := List (String × String)

/-- `env[k] = v`. -/
def Env.set (env : Env) (k v : String) : Env :=
  if env.any fun p => decide (p.1 = k) then env.map fun p => if p.1 = k then (k, v) else p
  else env ++ [(k, v)]

/-- The answers of a form, written over the variables. -/
def Env.setAll (env answers : Env) : Env := answers.foldl (fun env p => env.set p.1 p.2) env

/-- A file of the catalog. -/
structure DataFile where
  path : String
  content : String
  exec : Bool
  deriving DecidableEq, Repr

/-- `installed_apps.install_params`. -/
structure InstallParams where
  cores : Nat
  memory : Nat
  disk : Nat
  storage : String
  bridge : String
  ipConfig : Option String
  portExplicit : Bool
  deriving DecidableEq, Repr

/-- A row of `catalog_apps`. -/
structure CatalogApp where
  appId : String
  source : Option String
  version : Option String
  tipiVersion : Option Nat
  port : Option Nat
  composeYaml : Option String
  dataFiles : List DataFile
  available : Bool
  deriving DecidableEq, Repr

/-- A row of `installed_apps`; the variables are the decrypted JSON text. -/
structure InstalledApp where
  id : Nat
  appId : Option String
  serverId : Option ServerId
  vmid : Option Vmid
  node : Option String
  name : String
  versionInstalled : Option String
  tipiVersionInstalled : Option Nat
  envEncrypted : Option Env
  ip : Option String
  port : Option Nat
  status : AppStatus
  updateAvailable : Bool
  lastSnapshot : Option String
  installParams : Option InstallParams
  snapshotVersion : Option String
  snapshotTipiVersion : Option Nat
  ownerId : Option UserId
  deriving DecidableEq, Repr

/-- `env_dict`. -/
def InstalledApp.envDict (ia : InstalledApp) : Env := ia.envEncrypted.getD []

/-- A nullable number that Python's truth test accepts. -/
def positive (n : Option Nat) : Option Nat := n.filter fun n => decide (n ≠ 0)

/-- A nullable text that Python's truth test accepts. -/
def filled (s : Option String) : Option String := s.filter fun s => decide (s ≠ "")

/-- The container an app is bound to, with the server and the node. -/
def InstalledApp.binding (ia : InstalledApp) : Option (ServerId × String × Vmid) :=
  match positive ia.serverId, filled ia.node, positive ia.vmid with
  | some serverId, some node, some vmid => some (serverId, node, vmid)
  | _, _, _ => none

/-- `_NAME_RE.match`; `$` also matches before a newline at the end. -/
def nameMatches (name : String) : Bool :=
  let alnum : Char → Bool := fun c => c.toNat < 128 && c.isAlphanum
  let chars := if name.toList.getLast? = some '\n' then name.toList.dropLast else name.toList
  chars.head?.any alnum && chars.getLast?.any alnum &&
    chars.all (fun c => alnum c || decide (c = '-')) && decide (chars.length ≤ 63)

/-- The arguments of `_run_install`. -/
structure InstallJob where
  composeYaml : String
  env : Env
  ostemplate : String
  cores : Nat
  memory : Nat
  disk : Nat
  serverId : Option ServerId
  node : Option String
  name : String
  port : Option Nat
  version : Option String
  vmid : Option Vmid
  storage : String
  bridge : String
  ipConfig : Option String
  staticIp : Option String
  source : String
  dataFiles : List DataFile
  portExplicit : Bool

/-! ### The choice of a number -/

/-- What a request finds: the tables, the settings and the answers of Proxmox. -/
structure Site where
  catalog : KeyedTable CatalogApp.appId
  installed : KeyedTable InstalledApp.id
  nextId : Nat
  id_fresh : ∀ ia ∈ installed.rows, ia.id < nextId
  /-- `get_setting`. -/
  setting : String → Option String
  /-- `APPSTORE_GOLDEN_TEMPLATE`. -/
  goldenDefault : Option String
  hasServer : ServerId → Bool
  /-- `build_env` with the credentials of the manifest. -/
  buildEnv : CatalogApp → Env → Except String Env
  /-- `client.get_next_vmid`, which is `none` when Proxmox cannot be asked. -/
  nextid : ServerId → Option Vmid
  /-- The numbers of the server's instances that are not deleted. -/
  usedVmids : ServerId → List Vmid
  /-- `_allocate_ipam`: the configuration and the address, or the text of the error. -/
  allocateIpam : Vmid → Except String (String × String)

structure InstallRequest where
  appId : String
  name : String
  formAnswers : Env
  serverId : ServerId
  node : Option String
  cores : Nat
  memory : Nat
  disk : Nat
  storage : String
  bridge : String
  ostemplate : Option String
  port : Option Nat
  ipamNetworkId : Option Nat
  userId : UserId

/-- The business error of the engine. -/
def engineError (text : String) : Exc := .other text

/-- A check that raises the error of the engine. -/
def require (ok : Bool) (text : String) : Except Exc Unit :=
  if ok then .ok () else .error (engineError text)

/-- A value that has to be there. -/
def requireSome {α : Type} (a : Option α) (text : String) : Except Exc α :=
  match a with
  | some a => .ok a
  | none => .error (engineError text)

def noGoldenTemplate : String :=
  "Не настроен золотой шаблон LXC — подготовьте его " ++
    "(App Store → золотой шаблон) или задайте APPSTORE_GOLDEN_TEMPLATE"

/-- `_resolve_golden_template`: the first source that is filled. -/
def resolveGoldenTemplate (setting : String → Option String) (goldenDefault : Option String)
    (serverId : ServerId) (ostemplate : Option String) : Option String :=
  (filled ostemplate).or <|
    (filled (setting s!"appstore_golden_template:{serverId}")).or <|
      (filled (setting "appstore_golden_template")).or (filled goldenDefault)

section Choice

variable (site : Site)

/-- `get_next_vmid`: Proxmox's answer, or the first number from 100 without an instance. -/
def getNextVmid (serverId : ServerId) : Except Exc Vmid :=
  if site.hasServer serverId then
    match positive (site.nextid serverId) with
    | some vmid => .ok vmid
    | none =>
      match (List.range' 100 999899).find? fun vmid => decide (vmid ∉ site.usedVmids serverId) with
      | some vmid => .ok vmid
      | none => .error (.http 500 "No available VMID")
  else .error (.http 404 "Server not found")

/-- The numbers of the app rows of the server. -/
def takenVmids (serverId : ServerId) : List Vmid :=
  (site.installed.rows.filter fun ia => decide (ia.serverId = some serverId)).filterMap
    InstalledApp.vmid

/-- `while vmid in taken: vmid += 1`, at most `fuel` times. -/
def skipTaken (taken : List Nat) : Nat → Nat → Nat
  | 0, vmid => vmid
  | fuel + 1, vmid => if vmid ∈ taken then skipTaken taken fuel (vmid + 1) else vmid

/-- The address of the container when a network was asked for. -/
def ipamAddress (req : InstallRequest) (vmid : Vmid) : Except Exc (Option (String × String)) :=
  match positive req.ipamNetworkId with
  | some _ => ((site.allocateIpam vmid).mapError engineError).map some
  | none => .ok none

/-- The variables of the app; a port of the form is written over them. -/
def installEnv (app : CatalogApp) (req : InstallRequest) : Except Exc Env :=
  ((site.buildEnv app req.formAnswers).mapError engineError).map fun built =>
    match positive req.port with
    | some port => built.set "APP_PORT" (toString port)
    | none => built

/-- `install` up to the start of the job: the new row and the arguments of the job. -/
def install (req : InstallRequest) : Except Exc (InstalledApp × InstallJob) := do
  let app ← requireSome (site.catalog.find? req.appId) "Приложение не найдено в каталоге"
  require app.available "Приложение помечено недоступным"
  let composeYaml ← requireSome (filled app.composeYaml)
    "У приложения отсутствует docker-compose.yml"
  require (nameMatches req.name) "Недопустимое имя приложения (a-z, 0-9, дефис, 1..63)"
  let golden ← requireSome
    (resolveGoldenTemplate site.setting site.goldenDefault req.serverId req.ostemplate)
    noGoldenTemplate
  require (site.hasServer req.serverId) "Proxmox сервер не найден"
  require (req.port.all fun port => decide (1 ≤ port ∧ port ≤ 65535))
    "Порт должен быть в диапазоне 1..65535"
  let port := (positive req.port).or app.port
  let env ← installEnv site app req
  let first ← getNextVmid site req.serverId
  let taken := takenVmids site req.serverId
  let vmid := skipTaken taken taken.length first
  let address ← ipamAddress site req vmid
  let portExplicit := (positive req.port).isSome
  .ok ({ id := site.nextId, appId := some req.appId, serverId := some req.serverId
         vmid := some vmid, node := req.node, name := req.name
         versionInstalled := app.version, tipiVersionInstalled := app.tipiVersion
         envEncrypted := some env, ip := address.map Prod.snd, port, status := .installing
         updateAvailable := false, lastSnapshot := none
         installParams := some ⟨req.cores, req.memory, req.disk, req.storage, req.bridge,
           address.map Prod.fst, portExplicit⟩
         snapshotVersion := none, snapshotTipiVersion := none, ownerId := some req.userId },
    { composeYaml, env, ostemplate := golden, cores := req.cores, memory := req.memory
      disk := req.disk, serverId := some req.serverId, node := req.node, name := req.name, port
      version := app.version, vmid := some vmid, storage := req.storage, bridge := req.bridge
      ipConfig := address.map Prod.fst, staticIp := address.map Prod.snd
      source := (filled app.source).getD "runtipi", dataFiles := app.dataFiles, portExplicit })

end Choice

/-! ### The loop past the taken numbers -/

section SkipTaken

variable {taken : List Nat}

theorem le_skipTaken (fuel vmid : Nat) : vmid ≤ skipTaken taken fuel vmid := by
  induction fuel generalizing vmid with
  | zero => exact Nat.le_refl _
  | succ fuel ih =>
    unfold skipTaken
    split
    · have h := ih (vmid + 1)
      omega
    · exact Nat.le_refl _

/-- Every number the loop passes is taken. -/
theorem mem_of_lt_skipTaken {fuel vmid k : Nat} (hle : vmid ≤ k)
    (hlt : k < skipTaken taken fuel vmid) : k ∈ taken := by
  induction fuel generalizing vmid with
  | zero => exact absurd hlt (Nat.not_lt.mpr hle)
  | succ fuel ih =>
    unfold skipTaken at hlt
    split at hlt
    · rename_i hmem
      rcases Nat.eq_or_lt_of_le hle with rfl | hlt'
      · exact hmem
      · exact ih hlt' hlt
    · exact absurd hlt (Nat.not_lt.mpr hle)

/-- A loop that stops on a taken number has used all its steps. -/
theorem skipTaken_of_mem {fuel vmid : Nat} (h : skipTaken taken fuel vmid ∈ taken) :
    skipTaken taken fuel vmid = vmid + fuel := by
  induction fuel generalizing vmid with
  | zero => rfl
  | succ fuel ih =>
    unfold skipTaken at h ⊢
    split
    · rename_i hmem
      rw [if_pos hmem] at h
      rw [ih h]
      omega
    · rename_i hmem
      rw [if_neg hmem] at h
      exact absurd h hmem

/-- As many steps as there are taken numbers are enough. -/
theorem skipTaken_not_mem (taken : List Nat) (vmid : Nat) : skipTaken taken taken.length vmid ∉ taken := by
  intro h
  have hend := skipTaken_of_mem h
  have hsub : List.range' vmid (taken.length + 1) ⊆ taken := by
    intro k hk
    rw [List.mem_range'_1] at hk
    rcases Nat.lt_or_ge k (skipTaken taken taken.length vmid) with hlt | hge
    · exact mem_of_lt_skipTaken hk.1 hlt
    · have heq : k = skipTaken taken taken.length vmid := by omega
      rw [heq]
      exact h
  have hlen := (List.subperm_of_subset (List.nodup_range' 1) hsub).length_le
  rw [List.length_range'] at hlen
  omega

end SkipTaken

end PveManager.Apps
