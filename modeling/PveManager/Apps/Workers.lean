import PveManager.Apps.Engine
import PveManager.Core.Contract

/-!
# The operations of an app

Retry, update, rollback, deletion and the start and stop of an app, each with
the job it leaves to the thread pool. All of them are procedures over the row of
the app and the calls to the node, so that they can be run alone or be cut off
by another one after every call.
-/

namespace PveManager.Apps

open PveManager.Core PveManager.Api

/-- What a job sends to the node, to the container or to the tables of other modules. -/
inductive Remote
  | hasServer (serverId : Option ServerId)
  | isConnected (serverId : Option ServerId)
  /-- `_client_for`. -/
  | clientFor (serverId : Option ServerId)
  | resolveNode (requested : Option String)
  | nextVmid (serverId : Option ServerId)
  | containerStatus (node : String) (vmid : Vmid)
  | createContainer (node : String) (vmid : Vmid) (job : InstallJob)
  | waitForTask (node upid : String) (timeout : Nat)
  | startContainer (node : String) (vmid : Vmid)
  | stopContainer (node : String) (vmid : Vmid)
  | restartContainer (node : String) (vmid : Vmid)
  | deleteContainer (node : String) (vmid : Vmid)
  | sshConnect
  | waitIp (vmid : Vmid)
  /-- The directories, the rewritten compose file, the variables and the files of the app. -/
  | deliver (vmid : Vmid) (composeYaml : String) (port : Nat) (env : Env) (ip source : String)
      (dataFiles : List DataFile) (portExplicit : Bool)
  | composeUp (vmid : Vmid) (pull : Bool)
  | healthCheck (ip : String) (port : Nat)
  | createSnapshot (node : String) (vmid : Vmid) (name : String)
  | listSnapshots (node : String) (vmid : Vmid)
  | deleteSnapshot (node : String) (vmid : Vmid) (name : String)
  | rollbackSnapshot (node : String) (vmid : Vmid) (name : String)
  /-- The time as the names of snapshots show it. -/
  | stamp
  | releaseIp (serverId : ServerId) (vmid : Vmid)
  | softDeleteInstance (serverId : ServerId) (vmid : Vmid)

/-- What is answered, or the text of the exception. -/
def Remote.Answer : Remote → Type
  | .hasServer _ | .isConnected _ | .healthCheck _ _ => Bool
  | .containerStatus _ _ | .waitForTask _ _ _ | .sshConnect => Except String Bool
  | .resolveNode _ => Except String String
  | .nextVmid _ => Except String Vmid
  | .createContainer _ _ _ | .startContainer _ _ | .stopContainer _ _ | .restartContainer _ _
  | .deleteContainer _ _ | .waitIp _ | .deleteSnapshot _ _ _ | .rollbackSnapshot _ _ _ =>
    Except String (Option String)
  | .deliver _ _ _ _ _ _ _ _ => Except String (Option Nat)
  | .listSnapshots _ _ => Except String (List String)
  | .stamp => String
  | .clientFor _ | .composeUp _ _ | .createSnapshot _ _ _ | .releaseIp _ _
  | .softDeleteInstance _ _ => Except String Unit

/-- The arguments of `_run_update`. -/
structure UpdateJob where
  composeYaml : String
  newVersion : Option String
  newTipi : Option Nat
  formAnswers : Env
  source : String
  dataFiles : List DataFile

/-- A job of the thread pool. -/
inductive Job
  | install (job : InstallJob)
  | update (job : UpdateJob)
  | rollback
  | delete (serverId : Option ServerId) (vmid : Option Vmid) (node : Option String)

/-- The calls of the operations of one app. -/
inductive EngineCall
  /-- `db.get`. -/
  | load
  /-- Columns are set and committed; a row that is gone cannot be written. -/
  | write (change : InstalledApp → InstalledApp)
  | remove
  | catalogApp (appId : Option String)
  | goldenTemplate (serverId : Option ServerId)
  | submit (job : Job)
  | remote (r : Remote)

/-- The interface of the engine. -/
abbrev engine : Interface where
  Call := EngineCall
  Answer := fun
    | .load => Option InstalledApp
    | .write _ => Bool
    | .remove => Unit
    | .catalogApp _ => Option CatalogApp
    | .goldenTemplate _ => Option String
    | .submit _ => Unit
    | .remote r => r.Answer

/-- A procedure of the engine; exceptions are their texts. -/
abbrev Op := Proc engine String

/-- `op.status` at the end of a job. -/
inductive OpStatus
  | completed
  | failed (error : String)
  deriving DecidableEq, Repr

/-! ### Calls -/

def load : Op (Option InstalledApp) := Proc.ask (I := engine) .load

/-- The row of an object that was loaded before, read again after a commit. -/
def reload : Op InstalledApp := do
  match ← load with
  | some ia => pure ia
  | none => throw "Instance has been deleted, or its row is otherwise not present."

def staleData : String := "UPDATE statement on table 'installed_apps' expected to update 1 row(s)"

def write (change : InstalledApp → InstalledApp) : Op Unit := do
  let found ← Proc.ask (I := engine) (.write change)
  Proc.ensure found staleData

def InstalledApp.withStatus (status : AppStatus) (ia : InstalledApp) : InstalledApp :=
  { ia with status }

/-- The value of a column that is written when it was changed. -/
def column {α : Type} [DecidableEq α] (old new row : α) : α := if new = old then row else new

/-- The changed columns of an object over the row. -/
def InstalledApp.merge (old new row : InstalledApp) : InstalledApp where
  id := column old.id new.id row.id
  appId := column old.appId new.appId row.appId
  serverId := column old.serverId new.serverId row.serverId
  vmid := column old.vmid new.vmid row.vmid
  node := column old.node new.node row.node
  name := column old.name new.name row.name
  versionInstalled := column old.versionInstalled new.versionInstalled row.versionInstalled
  tipiVersionInstalled :=
    column old.tipiVersionInstalled new.tipiVersionInstalled row.tipiVersionInstalled
  envEncrypted := column old.envEncrypted new.envEncrypted row.envEncrypted
  ip := column old.ip new.ip row.ip
  port := column old.port new.port row.port
  status := column old.status new.status row.status
  updateAvailable := column old.updateAvailable new.updateAvailable row.updateAvailable
  lastSnapshot := column old.lastSnapshot new.lastSnapshot row.lastSnapshot
  installParams := column old.installParams new.installParams row.installParams
  snapshotVersion := column old.snapshotVersion new.snapshotVersion row.snapshotVersion
  snapshotTipiVersion :=
    column old.snapshotTipiVersion new.snapshotTipiVersion row.snapshotTipiVersion
  ownerId := column old.ownerId new.ownerId row.ownerId

/-- `db.commit` of an object that was loaded as `old`: nothing is sent without a change. -/
def save (old new : InstalledApp) : Op Unit :=
  if new = old then pure () else write (old.merge new)

/-- The row is loaded, changed and committed if it is still there. -/
def amend (change : InstalledApp → InstalledApp) : Op Unit := do
  match ← load with
  | some ia => save ia (change ia)
  | none => pure ()

/-- `db.delete` and `db.commit`; a row that is gone is only warned about. -/
def remove : Op Unit := Proc.ask (I := engine) .remove

def submit (job : Job) : Op Unit := Proc.ask (I := engine) (.submit job)

/-- An answer or an exception. -/
def orRaise {α : Type} : Except String α → Op α
  | .ok a => pure a
  | .error e => throw e

/-- `try: ... except Exception: pass`. -/
def swallow (p : Op Unit) : Op Unit := tryCatch p fun _ => pure ()

def remote (r : Remote) : Op r.Answer := Proc.ask (I := engine) (.remote r)

/-- A wait whose result is not looked at. -/
def waitQuietly (node : String) (upid : Option String) (timeout : Nat) : Op Unit :=
  match filled upid with
  | some upid => do
    let _ ← orRaise (← remote (.waitForTask node upid timeout))
  | none => pure ()

def startContainer (node : String) (vmid : Vmid) : Op (Option String) := do
  orRaise (← remote (.startContainer node vmid))

def sshConnected (text : String) : Op Unit := do
  Proc.ensure (← orRaise (← remote .sshConnect)) text

/-! ### Installation -/

/-- `InstallResult`, with the port that was published. -/
structure InstallResult where
  vmid : Vmid
  node : String
  ip : String
  port : Nat
  running : Bool

/-- A container with the number of the job, left by an attempt before. -/
def alreadyExists (job : InstallJob) (node : String) (vmid : Vmid) : Op Bool :=
  match positive job.vmid with
  | some _ => tryCatch (do orRaise (← remote (.containerStatus node vmid))) fun _ => pure false
  | none => pure false

/-- The container is cloned from the template, and the task is waited for. -/
def createContainer (job : InstallJob) (node : String) (vmid : Vmid) : Op Unit := do
  let upid ← tryCatch (do orRaise (← remote (.createContainer node vmid job)))
    fun e => throw s!"Ошибка создания контейнера: {e}"
  match filled upid with
  | none => throw "Proxmox не вернул UPID создания контейнера"
  | some upid =>
    Proc.ensure (← orRaise (← remote (.waitForTask node upid 300)))
      "Таймаут создания контейнера (>5 мин)"

/-- The container of a new installation is created; one that is there is taken over. -/
def prepareContainer (job : InstallJob) (node : String) (vmid : Vmid) : Op Unit := do
  if ← alreadyExists job node vmid then pure ()
  else createContainer job node vmid

/-- The number of the job, or one that Proxmox names. -/
def vmidOf (job : InstallJob) : Op Vmid :=
  match positive job.vmid with
  | some vmid => pure vmid
  | none => do orRaise (← remote (.nextVmid job.serverId))

/-- `poc_install`. -/
def pocInstall (job : InstallJob) : Op InstallResult := do
  Proc.ensure (nameMatches job.name) s!"Недопустимое имя приложения: {job.name} (a-z, 0-9, дефис)"
  Proc.ensure (← remote (.hasServer job.serverId)) "Proxmox сервер не найден"
  Proc.ensure (← remote (.isConnected job.serverId)) "Не удалось подключиться к Proxmox"
  let node ← orRaise (← remote (.resolveNode job.node))
  let vmid ← vmidOf job
  prepareContainer job node vmid
  let _ ← startContainer node vmid
  sshConnected "SSH к ноде не установлен (нужен root-доступ к ноде для pct exec/push)"
  let found ← orRaise (← remote (.waitIp vmid))
  match filled (found.or job.staticIp) with
  | none => throw "Контейнер не получил IP за 60с"
  | some ip =>
    let port := (positive job.port).getD 80
    let published ← orRaise (← remote (.deliver vmid job.composeYaml port job.env ip job.source
      job.dataFiles job.portExplicit))
    let port := (positive published).getD port
    orRaise (← remote (.composeUp vmid false))
    let running ← remote (.healthCheck ip port)
    pure ⟨vmid, node, ip, port, running⟩

/-- `_run_install`. -/
def runInstall (job : InstallJob) : Op OpStatus :=
  tryCatch
    (do
      let result ← pocInstall job
      amend fun ia => { ia with
        vmid := some result.vmid
        node := some result.node
        ip := some result.ip
        port := some result.port
        versionInstalled := job.version
        status := if result.running then .running else .error }
      if result.running then pure .completed
      else pure (.failed "Health-check не прошёл (приложение не ответило по HTTP)"))
    fun e => do
      swallow (amend fun ia => { ia with status := .error, vmid := job.vmid })
      pure (.failed e)

/-- `retry_install`. -/
def retryInstall : Op Unit := do
  match ← load with
  | none => throw "Установка не найдена"
  | some ia =>
    Proc.ensure (decide (ia.status = .error) || decide (ia.status = .installing))
      s!"Повтор недоступен из статуса '{ia.status.str}'"
    let app ← Proc.ask (I := engine) (.catalogApp ia.appId)
    match filled (app.bind CatalogApp.composeYaml) with
    | none => throw "compose приложения недоступен для повтора"
    | some composeYaml =>
      match filled (← Proc.ask (I := engine) (.goldenTemplate ia.serverId)) with
      | none => throw noGoldenTemplate
      | some ostemplate =>
        let env := ia.envDict
        save ia (ia.withStatus .installing)
        let ia ← reload
        let params := ia.installParams.getD ⟨2, 2048, 8, "local-lvm", "vmbr0", none, false⟩
        submit <| .install
          { composeYaml, env, ostemplate, cores := params.cores, memory := params.memory
            disk := params.disk, serverId := ia.serverId, node := ia.node, name := ia.name
            port := ia.port, version := ia.versionInstalled, vmid := ia.vmid
            storage := params.storage, bridge := params.bridge, ipConfig := params.ipConfig
            staticIp := ia.ip
            source := (filled (app.bind CatalogApp.source)).getD "runtipi"
            dataFiles := (app.map CatalogApp.dataFiles).getD []
            portExplicit := params.portExplicit }

/-! ### Deletion -/

/-- `needle in text`. -/
def mentions (needle text : String) : Bool :=
  text.toList.tails.any fun rest => needle.toList.isPrefixOf rest

/-- The node of the app, or one that Proxmox names. -/
def nodeOf (node : Option String) : Op String :=
  match filled node with
  | some node => pure node
  | none => do orRaise (← remote (.resolveNode none))

/-- `poc_teardown`. -/
def pocTeardown (serverId : ServerId) (vmid : Vmid) (node : Option String) : Op Unit := do
  Proc.ensure (← remote (.hasServer (some serverId))) s!"Proxmox сервер id={serverId} не найден"
  let node ← nodeOf node
  swallow do
    let upid ← orRaise (← remote (.stopContainer node vmid))
    waitQuietly node upid 120
  match ← remote (.deleteContainer node vmid) with
  | .error e =>
    if mentions "does not exist" e.toLower || mentions "no such" e.toLower then pure ()
    else throw e
  | .ok upid =>
    match filled upid with
    | none => pure ()
    | some upid =>
      Proc.ensure (← orRaise (← remote (.waitForTask node upid 300)))
        s!"Удаление LXC {vmid}: Proxmox не подтвердил завершение задачи"

/-- The container with its address and its instance; an app without one has nothing to clear. -/
def clear (serverId : Option ServerId) (vmid : Option Vmid) (node : Option String) : Op Unit :=
  match positive serverId, positive vmid with
  | some serverId, some vmid => do
    pocTeardown serverId vmid node
    swallow do orRaise (← remote (.releaseIp serverId vmid))
    swallow do orRaise (← remote (.softDeleteInstance serverId vmid))
  | _, _ => pure ()

/-- The row is removed if it is still there. -/
def dropRow : Op Unit := do
  match ← load with
  | some _ => remove
  | none => pure ()

/-- `_run_delete`. -/
def runDelete (serverId : Option ServerId) (vmid : Option Vmid) (node : Option String) :
    Op OpStatus :=
  tryCatch
    (do
      clear serverId vmid node
      dropRow
      pure .completed)
    fun e => do
      amend (InstalledApp.withStatus .error)
      pure (.failed e)

/-- `delete_app`. -/
def deleteApp : Op Unit := do
  match ← load with
  | none => throw "Установка не найдена"
  | some _ =>
    write (InstalledApp.withStatus .deleting)
    let ia ← reload
    submit (.delete ia.serverId ia.vmid ia.node)

/-! ### Update and rollback -/

/-- `_snap_name`. -/
def snapName (version : Option String) (stamp : String) : String :=
  let letters := ((filled version).getD "0").toList.filter fun c => c.toNat < 128 && c.isAlphanum
  let ver := if letters = [] then ['0'] else letters.take 12
  String.ofList (("preupd_".toList ++ ver ++ ['_'] ++ stamp.toList).take 40)

/-- `_prune_snapshots`: every other snapshot of an update is deleted. -/
def pruneSnapshots (node : String) (vmid : Vmid) (keep : String) : Op Unit := do
  match ← remote (.listSnapshots node vmid) with
  | .error _ => pure ()
  | .ok names =>
    names.forM fun name =>
      if decide (name = "") || decide (name = "current") || decide (name = keep) then pure ()
      else if "preupd_".toList.isPrefixOf name.toList then
        swallow do
          let upid ← orRaise (← remote (.deleteSnapshot node vmid name))
          waitQuietly node upid 120
      else pure ()

/-- `poc_update`: the new compose file is delivered, pulled, started and checked. -/
def pocUpdate (job : UpdateJob) (vmid : Vmid) (env : Env) (port : Nat) (ip : Option String)
    (portExplicit : Bool) : Op (Bool × Nat) := do
  sshConnected "SSH к ноде не установлен (нужен root-доступ для pct exec/push)"
  let address := ip.getD "None"
  let published ← orRaise (← remote (.deliver vmid job.composeYaml port env address job.source
    job.dataFiles portExplicit))
  let port := (positive published).getD port
  orRaise (← remote (.composeUp vmid true))
  let running ← remote (.healthCheck address port)
  pure (running, port)

/-- The row while the update runs: the snapshot with the versions it holds. -/
def InstalledApp.withSnapshot (ia : InstalledApp) (name : String) : InstalledApp :=
  { ia with
    lastSnapshot := some name
    snapshotVersion := ia.versionInstalled
    snapshotTipiVersion := ia.tipiVersionInstalled
    status := .updating }

/-- The row after an update whose health check passed. -/
def InstalledApp.updated (ia : InstalledApp) (job : UpdateJob) (env : Env) (port : Nat) :
    InstalledApp :=
  { ia with
    status := .running
    versionInstalled := job.newVersion
    tipiVersionInstalled := job.newTipi
    updateAvailable := false
    envEncrypted := some env
    port := some port }

/-- The update behind its snapshot: the prior variables with the new answers are delivered. -/
def applyUpdate (job : UpdateJob) (name : String) : Op OpStatus := do
  let ia ← reload
  let env := ia.envDict.setAll job.formAnswers
  let explicit := ia.installParams.any InstallParams.portExplicit
  let (running, port) ← pocUpdate job (ia.vmid.getD 0) env ((positive ia.port).getD 80) ia.ip explicit
  if running then
    save ia (ia.updated job env port)
    let ia ← reload
    pruneSnapshots (ia.node.getD "") (ia.vmid.getD 0) name
    pure .completed
  else
    save ia (ia.withStatus .updateFailed)
    pure (.failed "Health-check после обновления не прошёл — доступен откат")

/-- The update of the app that was loaded. -/
def updateLoaded (job : UpdateJob) (ia : InstalledApp) : Op OpStatus := do
  orRaise (← remote (.clientFor ia.serverId))
  let name := snapName ia.versionInstalled (← remote .stamp)
  match ← remote (.createSnapshot (ia.node.getD "") (ia.vmid.getD 0) name) with
  | .error e =>
    save ia (ia.withStatus .updateFailed)
    pure (.failed s!"Снапшот не создан: {e}")
  | .ok () =>
    save ia (ia.withSnapshot name)
    applyUpdate job name

/-- `_run_update`. -/
def runUpdate (job : UpdateJob) : Op OpStatus :=
  tryCatch
    (do
      match ← load with
      | none => pure (.failed "Установка исчезла")
      | some ia => updateLoaded job ia)
    fun e => do
      swallow (amend (InstalledApp.withStatus .updateFailed))
      pure (.failed e)

/-- The arguments of an update to what the catalog holds. -/
def CatalogApp.updateJob (app : CatalogApp) (formAnswers : Env) : Option UpdateJob :=
  (filled app.composeYaml).map fun composeYaml =>
    ⟨composeYaml, app.version, app.tipiVersion, formAnswers, (filled app.source).getD "runtipi",
      app.dataFiles⟩

/-- `update`. -/
def update (formAnswers : Env) : Op Unit := do
  match ← load with
  | none => throw "Установка не найдена"
  | some ia =>
    Proc.ensure (decide (ia.status = .running) || decide (ia.status = .stopped) ||
      decide (ia.status = .updateFailed)) s!"Обновление недоступно из статуса '{ia.status.str}'"
    Proc.ensure ia.binding.isSome "У приложения нет привязанного контейнера"
    let app ← Proc.ask (I := engine) (.catalogApp ia.appId)
    match app.bind fun app => app.updateJob formAnswers with
    | none => throw "Свежая версия приложения недоступна в каталоге"
    | some job => submit (.update job)

/-- The row after a rollback: the versions come back if a version was remembered. -/
def InstalledApp.rolledBack (ia : InstalledApp) (ok : Bool) : InstalledApp :=
  { ia with
    versionInstalled := ia.snapshotVersion.or ia.versionInstalled
    tipiVersionInstalled :=
      if ia.snapshotVersion.isSome then ia.snapshotTipiVersion else ia.tipiVersionInstalled
    status := if ok then .running else .stopped }

/-- The health check of an app that has an address. -/
def checkHealth (ip : Option String) (port : Option Nat) : Op Bool :=
  match filled ip with
  | some ip => remote (.healthCheck ip ((positive port).getD 80))
  | none => pure false

/-- The rollback behind the restored container. -/
def finishRollback (ia : InstalledApp) (node : String) (vmid : Vmid) (upid : Option String) :
    Op OpStatus := do
  waitQuietly node upid 300
  swallow do
    let _ ← startContainer node vmid
  let ok ← checkHealth ia.ip ia.port
  save ia (ia.rolledBack ok)
  if ok then pure .completed
  else pure (.failed "Контейнер восстановлен, но health-check не прошёл")

/-- The rollback of the app that was loaded. -/
def rollbackLoaded (ia : InstalledApp) : Op OpStatus := do
  orRaise (← remote (.clientFor ia.serverId))
  let node := ia.node.getD ""
  let vmid := ia.vmid.getD 0
  swallow do
    let upid ← orRaise (← remote (.stopContainer node vmid))
    waitQuietly node upid 60
  match ← remote (.rollbackSnapshot node vmid (ia.lastSnapshot.getD "")) with
  | .error e =>
    save ia (ia.withStatus .updateFailed)
    pure (.failed s!"Откат не удался: {e}")
  | .ok upid => finishRollback ia node vmid upid

/-- `_run_rollback`. -/
def runRollback : Op OpStatus :=
  tryCatch
    (do
      match ← load with
      | none => pure (.failed "Установка исчезла")
      | some ia => rollbackLoaded ia)
    fun e => do
      swallow (amend (InstalledApp.withStatus .updateFailed))
      pure (.failed e)

/-- `rollback`. -/
def rollback : Op Unit := do
  match ← load with
  | none => throw "Установка не найдена"
  | some ia =>
    Proc.ensure (filled ia.lastSnapshot).isSome "Нет pre-update снапшота для отката"
    Proc.ensure ia.binding.isSome "У приложения нет привязанного контейнера"
    submit .rollback

/-! ### Start, stop, restart -/

inductive Lifecycle
  | start
  | stop
  | restart
  deriving DecidableEq, Repr

/-- The call of an action. -/
def Lifecycle.call (action : Lifecycle) (node : String) (vmid : Vmid) : Op (Option String) :=
  match action with
  | .start => startContainer node vmid
  | .stop => do orRaise (← remote (.stopContainer node vmid))
  | .restart => do orRaise (← remote (.restartContainer node vmid))

/-- The status after an action. -/
def Lifecycle.status (action : Lifecycle) : AppStatus :=
  if action = .stop then .stopped else .running

/-- `lifecycle_action`. -/
def lifecycleAction (action : Lifecycle) : Op Unit := do
  match ← load with
  | none => throw "Установка не найдена"
  | some ia =>
    match ia.binding with
    | none => throw "У приложения нет привязанного контейнера"
    | some (serverId, node, vmid) =>
      orRaise (← remote (.clientFor (some serverId)))
      let upid ← action.call node vmid
      swallow (waitQuietly node upid 60)
      save ia (ia.withStatus action.status)
      let _ ← reload

/-- The body of a job. -/
def Job.run : Job → Op OpStatus
  | .install job => runInstall job
  | .update job => runUpdate job
  | .rollback => runRollback
  | .delete serverId vmid node => runDelete serverId vmid node

/-- A request on an app that is in the table. -/
inductive AppRequest
  | retry
  | update (formAnswers : Env)
  | rollback
  | delete
  | lifecycle (action : Lifecycle)

/-- The part of a request that runs in its own thread. -/
def AppRequest.run : AppRequest → Op Unit
  | .retry => retryInstall
  | .update formAnswers => Apps.update formAnswers
  | .rollback => Apps.rollback
  | .delete => deleteApp
  | .lifecycle action => lifecycleAction action

end PveManager.Apps
