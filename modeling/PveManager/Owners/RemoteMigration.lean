import PveManager.Api.Visibility
import PveManager.Core.Outcome
import PveManager.Ipam.Ownership
import PveManager.Owners.Instances

/-!
# Moving a guest to another cluster

A remote migration hands the row of the guest over to the target server and deletes
the old row through the helper that also releases the addresses. Nothing records the
addresses for the guest at its new place.
-/

namespace PveManager.Owners

open PveManager.Core PveManager.Api PveManager.Ipam PveManager.Rbac

/-- The body of the request. -/
structure RemoteMigrateRequest where
  targetServerId : ServerId
  targetNode : String
  targetVmid : Option Vmid := none
  targetStorage : Option String := none
  targetBridge : Option String := none
  online : Bool := false
  deleteSource : Bool := true

/-- The arguments of `_do_remote_migrate_sync`. -/
structure RemoteJob where
  serverId : ServerId
  vmid : Vmid
  node : String
  vmType : VmType
  targetServerId : ServerId
  targetNode : String
  targetVmid : Vmid
  targetStorage : Option String
  targetBridge : Option String
  online : Bool
  deleteSource : Bool
  deriving DecidableEq

/-- What the two servers answer, and whether the database takes the hand-over. -/
structure RemoteWorld where
  connected : ProxmoxServer → Bool
  /-- The version text of a server, or the error of its reading. -/
  version : ProxmoxServer → Except String String
  /-- `cluster.config.join.get()` with the fingerprint in its answer. -/
  fingerprint : ProxmoxServer → Except String (Option String)
  /-- The call that starts the migration to an endpoint, and the task it returns. -/
  start : String → RemoteJob → Except String (Option String)
  /-- Whether the task ends well within its time. -/
  waits : String → Bool
  logTail : String → String
  commits : Bool
  now : Time

/-- A call of `_update_deploy_task`. -/
structure TaskUpdate where
  status : String
  step : String
  progress : Nat
  error : Option String := none
  vmid : Option Vmid := none
  node : Option String := none
  deriving DecidableEq

/-! ### The request -/

/-- `_get_client_or_503`, on a server that is stored with credentials or without. -/
def clientOr503 (w : RemoteWorld) (server : ProxmoxServer) : Except (Nat × String) Unit :=
  if hasCredentials server = false then
    .error (503, s!"Server '{server.name}' has no valid Proxmox credentials configured " ++
      "(API token or password). Edit the server settings.")
  else if w.connected server = false then .error (503, "Failed to connect to Proxmox server")
  else .ok ()

/-- `_require_pve8_plus`. -/
def requirePve8Plus (w : RemoteWorld) (server : ProxmoxServer) : Except (Nat × String) Unit :=
  match w.version server with
  | .error e => .error (502, s!"Не удалось определить версию PVE сервера '{server.name}': {e}")
  | .ok version =>
    let head := String.ofList (version.toList.takeWhile fun c => decide (c ≠ '.'))
    match parseInt head with
    | none =>
      .error (502, s!"Не удалось определить версию PVE сервера '{server.name}': " ++
        s!"invalid literal for int() with base 10: '{head}'")
    | some major =>
      if major < 8 then
        .error (400, s!"Remote-миграция требует Proxmox VE >= 8.0 (сервер '{server.name}': " ++
          s!"версия {version})")
      else .ok ()

/-- The permission and the kind of guest of the two endpoints. -/
def remoteMigratePermission : VmType → String
  | .qemu => "vm:remote_migrate"
  | .lxc => "lxc:remote_migrate"

/-- `remote_migrate_vm_endpoint` and `remote_migrate_container_endpoint`: the job they submit. -/
def remoteMigrateEndpoint (w : RemoteWorld) (db : Db) (user : User) (vmType : VmType)
    (serverId : ServerId) (vmid : Vmid) (node : String) (body : RemoteMigrateRequest) :
    Except (Nat × String) RemoteJob :=
  if hasPermission user (remoteMigratePermission vmType) = false then
    .error (403, s!"Permission denied: {remoteMigratePermission vmType}")
  else if checkVmAccess db user serverId vmid = false then
    .error (403, "You do not have access to this virtual machine")
  else
    match db.servers.find? serverId with
    | none => .error (404, "Proxmox server not found")
    | some source =>
      if body.targetServerId = serverId then
        .error (400, "Для миграции внутри одного кластера используйте обычную миграцию")
      else
        match db.servers.find? body.targetServerId with
        | none => .error (404, "Proxmox server not found")
        | some target => do
          clientOr503 w source
          requirePve8Plus w source
          clientOr503 w target
          requirePve8Plus w target
          return {
            serverId := serverId
            vmid := vmid
            node := node
            vmType := vmType
            targetServerId := body.targetServerId
            targetNode := body.targetNode
            targetVmid := (body.targetVmid.filter (· ≠ 0)).getD vmid
            targetStorage := body.targetStorage
            targetBridge := body.targetBridge
            online := body.online
            deleteSource := body.deleteSource }

/-! ### The task -/

/-- `_build_remote_endpoint`, whose errors are `ValueError`s. -/
def buildRemoteEndpoint (w : RemoteWorld) (target : ProxmoxServer) : Except String String :=
  if (truthy target.apiTokenName && truthy target.apiTokenValue) = false ∨
      target.usePassword = true then
    .error (s!"Server '{target.name}' must be configured with an API token " ++
      "(not password) for remote migration. Edit the target server settings.")
  else
    match w.fingerprint target with
    | .error e =>
      .error s!"Failed to fetch target cluster fingerprint from '{target.name}': {e}"
    | .ok fingerprint =>
      if truthy fingerprint then
        let token := target.apiUser ++ "!" ++ target.apiTokenName.getD "" ++ "=" ++
          target.apiTokenValue.getD ""
        .ok (s!"apitoken=PVEAPIToken={token},host={target.ipAddress}:{target.port}," ++
          "fingerprint=" ++ fingerprint.getD "")
      else .error s!"Could not determine SSL fingerprint of target server '{target.name}'"

/-- The row that the guest gets at its new place. -/
def handedOver (job : RemoteJob) (cached : VMInstance) : SaveArgs where
  serverId := job.targetServerId
  vmid := job.targetVmid
  node := job.targetNode
  vmType := job.vmType
  name := cached.name
  cores := cached.cores
  memory := cached.memory
  diskSize := cached.diskSize
  ipAddress := cached.ipAddress
  ipPrefix := cached.ipPrefix
  gateway := cached.gateway
  nameserver := cached.nameserver
  templateId := cached.templateId
  templateName := cached.templateName
  description := cached.description
  extraConfig := cached.extraConfig
  ownerId := cached.ownerId

/-- The hand-over of the row when the transfer is done; a failure is only logged. -/
def handOver (w : RemoteWorld) (db : Db) (job : RemoteJob) : Db :=
  match getVmInstance db job.serverId job.vmid with
  | none => db
  | some cached =>
    if w.commits = false then db
    else if job.deleteSource = true then
      softDeleteVmInstance w.now (saveVmInstance db (handedOver job cached)) job.serverId job.vmid
    else saveVmInstance db (handedOver job cached)

/-- `_do_remote_migrate_sync`: the tables behind it and the updates of its task, without those
that copy the percentage out of the log. -/
def doRemoteMigrate (w : RemoteWorld) (db : Db) (job : RemoteJob) : Db × List TaskUpdate :=
  let running (step : String) (progress : Nat) : TaskUpdate :=
    ⟨"running", step, progress, none, some job.vmid, some job.node⟩
  let failed (step : String) (progress : Nat) (error : String) : TaskUpdate :=
    { status := "failed", step := step, progress := progress, error := some error }
  let connecting := [running "Подключение к Proxmox..." 10]
  match db.servers.find? job.serverId, db.servers.find? job.targetServerId with
  | some server, some target =>
    if hasCredentials server = false then
      let err := s!"503: Server '{server.name}' has no valid Proxmox credentials configured " ++
        "(API token or password). Edit the server settings."
      (db, connecting ++ [failed ("Ошибка: " ++ String.ofList (err.toList.take 150)) 0 err])
    else if w.connected server = false then
      (db, connecting ++ [failed "Ошибка подключения к Proxmox" 10
        "Не удалось подключиться к исходному Proxmox серверу"])
    else
      let preparing := connecting ++ [running "Подготовка remote-endpoint..." 20]
      match buildRemoteEndpoint w target with
      | .error e => (db, preparing ++ [failed "Ошибка конфигурации цели" 20 e])
      | .ok endpoint =>
        let migrating := preparing ++
          [running s!"Миграция → {target.name}/{job.targetNode}..." 30]
        match w.start endpoint job with
        | .error e => (db, migrating ++ [failed "Ошибка миграции" 30 s!"Remote migrate failed: {e}"])
        | .ok upid =>
          let moving := migrating ++ [running "Перенос данных..." 50]
          if truthy upid = false then
            (db, migrating ++
              [failed "Ошибка миграции" 30 "Proxmox не вернул UPID задачи миграции"])
          else if w.waits (upid.getD "") = false then
            let tail := w.logTail (upid.getD "")
            let error := s!"Задача миграции завершилась с ошибкой. {tail}"
            (db, moving ++
              [failed "Миграция не удалась" 50 (String.ofList (error.toList.take 300))])
          else
            (handOver w db job, moving ++
              [⟨"completed", s!"Мигрировано на {target.name}/{job.targetNode}", 100, none,
                some job.targetVmid, some job.targetNode⟩])
  | _, _ => (db, connecting ++ [failed "Сервер не найден" 0 "Proxmox сервер не найден"])

/-! ### What becomes of the addresses -/

section HandOver

variable {w : RemoteWorld} {db : Db} {job : RemoteJob}

/-- The tables change with the hand-over or not at all, and a task that completes has made it. -/
theorem doRemoteMigrate_cases (w : RemoteWorld) (db : Db) (job : RemoteJob) :
    (doRemoteMigrate w db job).1 = handOver w db job ∨
      (doRemoteMigrate w db job).1 = db ∧
        ∀ u ∈ (doRemoteMigrate w db job).2, u.status ≠ "completed" := by
  unfold doRemoteMigrate
  split
  · dsimp only
    split
    · exact Or.inr ⟨rfl, by simp⟩
    · split
      · exact Or.inr ⟨rfl, by simp⟩
      · split
        · exact Or.inr ⟨rfl, by simp⟩
        · split
          · exact Or.inr ⟨rfl, by simp⟩
          · split
            · exact Or.inr ⟨rfl, by simp⟩
            · split
              · exact Or.inr ⟨rfl, by simp⟩
              · exact Or.inl rfl
  · exact Or.inr ⟨rfl, by simp⟩

/-- The addresses change in a hand-over with the deletion of the old row only. -/
theorem ipam_handOver (w : RemoteWorld) (db : Db) (job : RemoteJob) :
    (handOver w db job).ipam = db.ipam ∨
    (handOver w db job).ipam = (db.ipam.releaseIpByVmid job.serverId job.vmid (some "system")
      (some "VM/Container soft deleted")).1 := by
  unfold handOver
  split
  · exact Or.inl rfl
  · split
    · exact Or.inl rfl
    · split
      · unfold softDeleteVmInstance
        split
        · exact Or.inl rfl
        · exact Or.inr rfl
      · exact Or.inl rfl

/-- A hand-over records no address. -/
theorem mem_of_mem_handOver {a : IPAMAllocation}
    (ha : a ∈ (handOver w db job).ipam.allocations.rows) : a ∈ db.ipam.allocations.rows := by
  rcases ipam_handOver w db job with h | h
  · rwa [h] at ha
  · rw [h, mem_releaseIpByVmid] at ha
    exact ha.1

/-- What the endpoint hands to the task. -/
theorem remoteMigrateEndpoint_ok {user : User} {vmType : VmType} {serverId : ServerId} {vmid : Vmid}
    {node : String} {body : RemoteMigrateRequest}
    (h : remoteMigrateEndpoint w db user vmType serverId vmid node body = .ok job) :
    job.serverId = serverId ∧ job.vmid = vmid ∧ job.targetServerId ≠ serverId ∧
      job.deleteSource = body.deleteSource := by
  unfold remoteMigrateEndpoint at h
  split at h
  · cases h
  · split at h
    · cases h
    · split at h
      · cases h
      · split at h
        · cases h
        · rename_i hother
          split at h
          · cases h
          · obtain ⟨-, -, h⟩ := bind_ok h
            obtain ⟨-, -, h⟩ := bind_ok h
            obtain ⟨-, -, h⟩ := bind_ok h
            obtain ⟨-, -, h⟩ := bind_ok h
            cases h
            exact ⟨rfl, rfl, hother, rfl⟩

end HandOver

/-- A remote migration with the deletion of the source that the task reports as completed. -/
structure RemoteMigration where
  world : RemoteWorld
  db : Db
  user : User
  vmType : VmType
  serverId : ServerId
  vmid : Vmid
  node : String
  body : RemoteMigrateRequest
  job : RemoteJob
  accepted : remoteMigrateEndpoint world db user vmType serverId vmid node body = .ok job
  completed : ∃ u ∈ (doRemoteMigrate world db job).2, u.status = "completed"
  deletes : body.deleteSource = true

namespace RemoteMigration

/-- The tables when the task is done. -/
def after (m : RemoteMigration) : Db := (doRemoteMigrate m.world m.db m.job).1

/-- Every address of the guest is recorded for it at its new place. -/
def Kept (m : RemoteMigration) : Prop :=
  ∀ a ∈ m.db.ipam.allocations.rows, ownFor a m.serverId m.vmid = true →
    ∃ b ∈ m.after.ipam.allocations.rows, b.ipAddress = a.ipAddress ∧
      ownFor b m.job.targetServerId m.job.targetVmid = true

variable (m : RemoteMigration)

theorem after_eq : m.after = handOver m.world m.db m.job := by
  rcases doRemoteMigrate_cases m.world m.db m.job with h | ⟨-, hno⟩
  · exact h
  · obtain ⟨u, hu, hdone⟩ := m.completed
    exact absurd hdone (hno u hu)

/-- The addresses of a guest with a live row are free for anybody when the task is done. -/
theorem free_of_live (hlive : (getVmInstance m.db m.serverId m.vmid).isSome = true)
    (hcommits : m.world.commits = true) {a : IPAMAllocation}
    (ha : a ∈ m.db.ipam.allocations.rows) (hown : ownFor a m.serverId m.vmid = true) :
    m.after.ipam.allocations.find? a.ipAddress = none := by
  obtain ⟨hsid, hvmid, hother, hdeletes⟩ := remoteMigrateEndpoint_ok m.accepted
  obtain ⟨cached, hcached⟩ := Option.isSome_iff_exists.mp hlive
  obtain ⟨hfind, hrow⟩ := getVmInstance_eq_some_iff.mp hcached
  have hstays : getVmInstance (saveVmInstance m.db (handedOver m.job cached)) m.serverId m.vmid =
      some cached := by
    have hkey : (handedOver m.job cached).key ≠ (m.serverId, m.vmid) :=
      fun h => hother (congrArg Prod.fst h)
    rw [getVmInstance_eq_some_iff, find?_saveVmInstance, if_neg hkey]
    exact ⟨hfind, hrow⟩
  have hipam : m.after.ipam = (m.db.ipam.releaseIpByVmid m.serverId m.vmid (some "system")
      (some "VM/Container soft deleted")).1 := by
    rw [m.after_eq, handOver, hsid, hvmid, hcached]
    dsimp only
    rw [if_neg (by rw [hcommits]; exact Bool.noConfusion),
      if_pos (hdeletes.trans m.deletes), softDeleteVmInstance, hstays]
    rfl
  rw [KeyedTable.find?_eq_none_iff]
  intro b hb hip
  rw [hipam, mem_releaseIpByVmid] at hb
  have hab : b = a := m.db.ipam.allocations.eq_of_key_eq hb.1 ha hip
  subst hab
  exact hb.2 (mem_releaseTargets_iff.mpr ⟨ha, Or.inl hown⟩)

/-- No address of the guest is kept, so all are only where it has none. -/
theorem addresses_kept_iff :
    m.Kept ↔ ∀ a ∈ m.db.ipam.allocations.rows, ownFor a m.serverId m.vmid = false := by
  obtain ⟨-, -, hother, -⟩ := remoteMigrateEndpoint_ok m.accepted
  constructor
  · intro h a ha
    by_contra hown
    rw [Bool.not_eq_false] at hown
    obtain ⟨b, hb, hip, htarget⟩ := h a ha hown
    rw [m.after_eq] at hb
    have hab : b = a := m.db.ipam.allocations.eq_of_key_eq (mem_of_mem_handOver hb) ha hip
    subst hab
    simp only [ownFor, IPAMAllocation.keyedTo, Bool.and_eq_true, decide_eq_true_eq] at hown htarget
    have hsame := htarget.1.1.symm.trans hown.1.1
    exact hother (Option.some.inj hsame)
  · intro h a ha hown
    rw [h a ha] at hown
    cases hown

/-! ### A guest that moves -/

/-- A server with a token. -/
def site (id : ServerId) (name : String) : ProxmoxServer where
  id := id
  name := name
  hostname := name
  ipAddress := "192.0.2.1"
  port := 8006
  apiUser := "root@pam"
  apiTokenName := some "panel"
  apiTokenValue := some "secret"
  usePassword := false
  password := none
  verifySsl := true
  clusterName := none
  description := none
  isOnline := some true
  lastCheck := none
  lastError := none
  lastErrorKind := none

/-- A guest with an address moves from the first server to the second one. -/
def moved : RemoteMigration where
  world :=
    { connected := fun _ => true
      version := fun _ => .ok "8.2.4"
      fingerprint := fun _ => .ok (some "AA:BB")
      start := fun _ _ => .ok (some "UPID:1")
      waits := fun _ => true
      logTail := fun _ => ""
      commits := true
      now := 5 }
  db :=
    { servers := ⟨[site 1 "berlin", site 2 "paris"], by decide⟩
      vms := ⟨[{ SaveArgs.create ⟨1, 100, "pve", .qemu, "web", none, none, none, some "10.0.0.5",
        some 24, none, none, none, none, none, none, none, none, none, some 1⟩ with status := "running" }],
        by decide⟩
      ipam := ⟨⟨[{ id := 1, networkId := 1, ipAddress := "10.0.0.5", resourceType := some "vm"
                   resourceId := some 100, resourceName := some "web", proxmoxServerId := some 1
                   proxmoxVmid := some 100, proxmoxNode := some "pve", status := "allocated"
                   isPrimary := true }], by decide⟩, []⟩ }
  user := ⟨1, "admin", true, none, []⟩
  vmType := .qemu
  serverId := 1
  vmid := 100
  node := "pve"
  body := { targetServerId := 2, targetNode := "pve2" }
  job := ⟨1, 100, "pve", .qemu, 2, "pve2", 100, none, none, false, true⟩
  accepted := by rfl
  completed := by decide
  deletes := rfl

/-- Its address is then recorded for nobody. -/
theorem moved_not_kept : ¬∀ m : RemoteMigration, m.Kept := by
  intro h
  have hrows : moved.after.ipam.allocations.rows = [] := by decide
  obtain ⟨b, hb, -⟩ := h moved _ List.mem_cons_self (by decide)
  rw [hrows] at hb
  cases hb

end RemoteMigration

end PveManager.Owners
