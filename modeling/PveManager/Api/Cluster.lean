import PveManager.Api.Handler

/-!
# Joining a node to a cluster

`prepare_join` backs up the guests of a node and deletes them; `join_cluster`
refuses a node that shows guests and starts the join otherwise. The guest lists
come from client helpers that turn every failure into an empty list.
-/

namespace PveManager.Api.Cluster

open PveManager.Core PveManager.Rbac

/-- The status of a Proxmox task. -/
structure TaskStatus where
  status : String
  exitstatus : Option String

/-- An entry of `nodelist` in the join information. -/
structure JoinNode where
  name : Option String
  pveFp : Option String
  pveAddr : Option String
  ring0Addr : Option String

/-- `GET /cluster/config/join`. -/
structure JoinData where
  fingerprint : Option String
  nodelist : List JoinNode
  preferredNode : Option String
  /-- `totem.cluster_name`. -/
  clusterName : Option String

/-- The requests of the two endpoints. A client without a connection answers each with a failure. -/
inductive ClusterOp
  | getNodes
  | getGuests (node : String) (ty : VmType)
  | vzdump (node : String) (vmid : Vmid) (storage compress : String)
  | taskStatus (node : String) (upid : String)
  | guestStatus (node : String) (ty : VmType) (vmid : Vmid)
  | stopGuest (node : String) (ty : VmType) (vmid : Vmid)
  /-- Accepted with the identifier of the task that destroys the guest. -/
  | deleteGuest (node : String) (ty : VmType) (vmid : Vmid)
  | getClusterJoinInfo
  /-- `join_cluster` of a client that logs in with the given password. -/
  | joinCluster (clusterHost rootpw fingerprint : String) (link0 : Option String)

abbrev ClusterOp.Answer : ClusterOp → Type
  | .getNodes => Except String (List String)
  | .getGuests _ _ => Except String (List Vmid)
  | .taskStatus _ _ => Except String TaskStatus
  | .vzdump .. | .guestStatus .. | .deleteGuest .. | .joinCluster .. => Except String String
  | .stopGuest .. => Except String Unit
  | .getClusterJoinInfo => Except String JoinData

/-- What the endpoints do besides. -/
inductive ClusterEffect
  | sleep (seconds : Nat)
  | setClusterName (serverId : ServerId) (clusterName : Option String)

abbrev ClusterRouter : Router where
  Op := ClusterOp
  OpAnswer := ClusterOp.Answer
  Effect := ClusterEffect
  EffectAnswer := fun _ => Unit

abbrev ClusterHandler (α : Type) := Handler ClusterRouter α

/-- One line of the error list. -/
structure GuestError where
  vmid : Vmid
  phase : String
  error : String

/-- A successful response. -/
inductive Reply
  | prepared (backedUp deleted : List Vmid) (errors : List GuestError) (readyForJoin : Bool)
      (message : String)
  | joined (nodeServerId : ServerId) (nodeName : String) (clusterName : Option String)
      (confirmed : Bool) (upid message : String)

/-- The body of `prepare_join`; an absent field is `none`. -/
structure PrepareBody where
  nodeServerId : Option ServerId
  backupStorage : Option String
  compress : Option String

/-- The body of `join_cluster`. -/
structure JoinBody where
  nodeServerId : Option ServerId
  clusterServerId : Option ServerId
  rootpw : Option String
  link0 : Option String
  clusterHost : Option String

/-! ### Client helpers -/

/-- `get_nodes`: a failure reads as no nodes. -/
def getNodes (server : ProxmoxServer) : ClusterHandler (List String) := do
  match ← request (R := ClusterRouter) server .getNodes with
  | .ok nodes => pure nodes
  | .error _ => pure []

/-- The loop of `get_vms` and `get_containers`: nodes that fail are left out. -/
def getGuestsOf (server : ProxmoxServer) (ty : VmType) : List String → ClusterHandler (List Vmid)
  | [] => pure []
  | node :: rest => do
    let answer ← request (R := ClusterRouter) server (.getGuests node ty)
    let others ← getGuestsOf server ty rest
    match answer with
    | .ok vmids => pure (vmids ++ others)
    | .error _ => pure others

/-- `get_vms` and `get_containers`; without a node name they go through all nodes. -/
def getGuests (server : ProxmoxServer) (ty : VmType) (node : String) :
    ClusterHandler (List Vmid) := do
  if node ≠ "" then getGuestsOf server ty [node]
  else
    let nodes ← getNodes server
    getGuestsOf server ty nodes

/-- The name the endpoints take for the server's node. -/
def nodeNameOf (server : ProxmoxServer) (nodes : List String) : String :=
  nodes.head?.getD server.hostname

/-! ### Preparing -/

/-- `upid_map[vmid] = upid`. -/
def dictSet (m : List (Vmid × String)) (vmid : Vmid) (upid : String) : List (Vmid × String) :=
  if vmid ∈ m.map Prod.fst then m.map fun p => if p.1 = vmid then (vmid, upid) else p
  else m ++ [(vmid, upid)]

/-- Step 1: a backup task for every guest. -/
def startBackups (server : ProxmoxServer) (node storage compress : String) :
    List (Vmid × VmType) → List (Vmid × String) → List GuestError →
      ClusterHandler (List (Vmid × String) × List GuestError)
  | [], upidMap, errors => pure (upidMap, errors)
  | (vmid, _) :: rest, upidMap, errors => do
    match ← request (R := ClusterRouter) server (.vzdump node vmid storage compress) with
    | .ok upid => startBackups server node storage compress rest (dictSet upidMap vmid upid) errors
    | .error e =>
      startBackups server node storage compress rest upidMap (errors ++ [⟨vmid, "backup", e⟩])

/-- The tasks still polled, and what is known of the others. -/
structure Polling where
  pending : List (Vmid × String)
  backedUp : List Vmid
  errors : List GuestError

/-- What one answer of a task says. -/
def Polling.record (st : Polling) (vmid : Vmid) (answer : Except String TaskStatus) : Polling :=
  match answer with
  | .error _ => st
  | .ok task =>
    if task.status = "stopped" then
      let pending := st.pending.filter fun p => decide (p.1 ≠ vmid)
      if task.exitstatus = some "OK" then
        { st with pending := pending, backedUp := st.backedUp ++ [vmid] }
      else
        let exitstatus := task.exitstatus.getD "None"
        { st with
          pending := pending
          errors := st.errors ++
            [⟨vmid, "backup", s!"vzdump завершился с ошибкой: {exitstatus}"⟩] }
    else st

/-- One round over the tasks pending at its start. -/
def pollRound (server : ProxmoxServer) (node : String) :
    List (Vmid × String) → Polling → ClusterHandler Polling
  | [], st => pure st
  | (vmid, upid) :: rest, st => do
    let answer ← request (R := ClusterRouter) server (.taskStatus node upid)
    pollRound server node rest (st.record vmid answer)

/-- Step 2: rounds of five seconds while tasks are pending. -/
def pollBackups (server : ProxmoxServer) (node : String) : Nat → Polling → ClusterHandler Polling
  | 0, st => pure st
  | n + 1, st => do
    if st.pending.isEmpty then pure st
    else
      effect (R := ClusterRouter) (.sleep 5)
      let st ← pollRound server node st.pending st
      pollBackups server node n st

/-- `MAX_WAIT // POLL_INTERVAL`. -/
def maxRounds : Nat := 1800 / 5

/-- Stopping a guest and asking Proxmox to destroy it. -/
def destroyGuest (server : ProxmoxServer) (node : String) (vmid : Vmid) (ty : VmType) :
    ClusterHandler Unit := do
  let status ← orRaise (request (R := ClusterRouter) server (.guestStatus node ty vmid))
  if status = "running" then
    orRaise (request (R := ClusterRouter) server (.stopGuest node ty vmid))
    effect (R := ClusterRouter) (.sleep 3)
  let _ ← orRaise (request (R := ClusterRouter) server (.deleteGuest node ty vmid))

/-- Step 3: the guests whose backup finished are deleted. -/
def deleteGuests (server : ProxmoxServer) (node : String) (backedUp : List Vmid) :
    List (Vmid × VmType) → List Vmid → List GuestError →
      ClusterHandler (List Vmid × List GuestError)
  | [], deleted, errors => pure (deleted, errors)
  | (vmid, ty) :: rest, deleted, errors => do
    if vmid ∈ backedUp then
      let failure ← tryCatch (do
        destroyGuest server node vmid ty
        pure none) fun e => pure (some e.str)
      match failure with
      | none => deleteGuests server node backedUp rest (deleted ++ [vmid]) errors
      | some e => deleteGuests server node backedUp rest deleted (errors ++ [⟨vmid, "delete", e⟩])
    else deleteGuests server node backedUp rest deleted errors

/-- The three steps and the verdict. -/
def clearNode (server : ProxmoxServer) (node storage compress : String)
    (allGuests : List (Vmid × VmType)) : ClusterHandler Reply := do
  let (upidMap, errors) ← startBackups server node storage compress allGuests [] []
  let polled ← pollBackups server node maxRounds ⟨upidMap, [], errors⟩
  let errors := polled.errors ++
    polled.pending.map fun p => ⟨p.1, "backup", "Таймаут ожидания бэкапа (30 мин)"⟩
  let (deleted, errors) ← deleteGuests server node polled.backedUp allGuests [] errors
  let readyForJoin := decide (errors.length = 0 ∧ deleted.length = allGuests.length)
  pure (.prepared polled.backedUp deleted errors readyForJoin
    (if readyForJoin then "Нода очищена и готова к присоединению к кластеру"
      else s!"Завершено с {errors.length} ошибками. Исправьте их вручную перед join."))

def prepareJoin (db : Db) (user : User) (body : PrepareBody) : ClusterHandler Reply := do
  permissionChecker user "cluster:manage"
  let serverId := body.nodeServerId.getD 0
  let storage := strip (body.backupStorage.getD "")
  Proc.ensure (decide (serverId ≠ 0 ∧ storage ≠ ""))
    (.http 400 "Необходимо указать node_server_id и backup_storage")
  let server ← resolveServer db serverId s!"Server {serverId} not found"
  getProxmoxClient server
  let nodes ← getNodes server
  let node := nodeNameOf server nodes
  let vms ← getGuests server .qemu node
  let containers ← getGuests server .lxc node
  let allGuests := vms.map (fun v => (v, VmType.qemu)) ++ containers.map fun c => (c, VmType.lxc)
  if allGuests.isEmpty then
    pure (.prepared [] [] [] true "Нода не содержит VM/LXC — готова к join")
  else clearNode server node storage (body.compress.getD "zstd") allGuests

/-! ### Joining -/

/-- `_extract_fingerprint`: the target's entry, the preferred node's, or the first there is. -/
def extractFingerprint (data : JoinData) (targetIp : String) : Option String :=
  if truthy data.fingerprint then data.fingerprint
  else
    let fp (p : JoinNode → Bool) := (data.nodelist.find? fun n => p n && truthy n.pveFp).bind JoinNode.pveFp
    (if targetIp ≠ "" then
      fp fun n => decide (n.pveAddr = some targetIp ∨ n.ring0Addr = some targetIp) else none).or
    ((if truthy data.preferredNode then fp fun n => decide (n.name = data.preferredNode)
      else none).or (fp fun _ => true))

/-- `body.get(key) or ""`, stripped, `none` when nothing is left. -/
def optionalText (field : Option String) : Option String :=
  let text := strip (field.getD "")
  if text = "" then none else some text

/-- Twenty looks at the cluster's node list. -/
def confirmJoin (clusterServer : ProxmoxServer) (node : String) : Nat → ClusterHandler Bool
  | 0 => pure false
  | n + 1 => do
    effect (R := ClusterRouter) (.sleep 2)
    let nodes ← getNodes clusterServer
    if node ∈ nodes then pure true else confirmJoin clusterServer node n

/-- The join request and its confirmation. -/
def requestJoin (nodeServer clusterServer : ProxmoxServer) (node connectHost rootpw : String)
    (fingerprint : String) (link0 clusterName : Option String) : ClusterHandler Reply := do
  match ← request (R := ClusterRouter) nodeServer
      (.joinCluster connectHost rootpw fingerprint link0) with
  | .error e => throw (.http 502 s!"Ошибка присоединения к кластеру: {e}")
  | .ok upid =>
    let confirmed ← confirmJoin clusterServer node 20
    if confirmed then
      effect (R := ClusterRouter) (.setClusterName nodeServer.id clusterName)
      let cluster := clusterName.getD "None"
      pure (.joined nodeServer.id nodeServer.name clusterName true upid
        s!"Нода '{nodeServer.name}' присоединена к кластеру '{cluster}'.")
    else
      pure (.joined nodeServer.id nodeServer.name none false upid
        (s!"Задача присоединения запущена (upid={upid}), но членство '{nodeServer.name}' " ++
          "в кластере пока не подтверждено. Проверьте задачу; если нода не вошла в кластер — " ++
          "убедитесь, что кластерная нода доступна с присоединяемой по адресу corosync " ++
          "(link0), а не по публичному FQDN."))

/-- The part after the guest check: join information, fingerprint and join. -/
def startJoin (nodeServer clusterServer : ProxmoxServer) (node rootpw : String)
    (link0 clusterHost : Option String) : ClusterHandler Reply := do
  getProxmoxClient clusterServer
  match ← request (R := ClusterRouter) clusterServer .getClusterJoinInfo with
  | .error e => throw (.http 502
      s!"Не удалось получить join-информацию с '{clusterServer.name}': {e}")
  | .ok joinData =>
    let connectHost := clusterHost.getD clusterServer.ipAddress
    let clusterName := if truthy joinData.clusterName then joinData.clusterName
      else clusterServer.clusterName
    match (extractFingerprint joinData connectHost).or
        (extractFingerprint joinData clusterServer.ipAddress) with
    | none => throw (.http 502 "Не удалось получить fingerprint кластера")
    | some fingerprint =>
      requestJoin nodeServer clusterServer node connectHost rootpw fingerprint link0 clusterName

def joinCluster (db : Db) (user : User) (body : JoinBody) : ClusterHandler Reply := do
  permissionChecker user "cluster:manage"
  let nodeServerId := body.nodeServerId.getD 0
  let clusterServerId := body.clusterServerId.getD 0
  let rootpw := strip (body.rootpw.getD "")
  Proc.ensure (decide (nodeServerId ≠ 0 ∧ clusterServerId ≠ 0))
    (.http 400 "Необходимо указать node_server_id и cluster_server_id")
  Proc.ensure (decide (rootpw ≠ ""))
    (.http 400 "Необходимо указать rootpw (root-пароль присоединяемой ноды)")
  Proc.ensure (decide (nodeServerId ≠ clusterServerId))
    (.http 400 "node_server_id и cluster_server_id не могут совпадать")
  let nodeServer ← resolveServer db nodeServerId s!"Server {nodeServerId} not found"
  let clusterServer ← resolveServer db clusterServerId s!"Server {clusterServerId} not found"
  Proc.ensure (truthy clusterServer.clusterName)
    (.http 400 (s!"Сервер '{clusterServer.name}' не является кластерной нодой в панели. " ++
      "Сначала создайте кластер или выберите ноду с cluster_name."))
  getProxmoxClient nodeServer
  let nodes ← getNodes nodeServer
  let node := nodeNameOf nodeServer nodes
  let vms ← getGuests nodeServer .qemu node
  let containers ← getGuests nodeServer .lxc node
  Proc.ensure (vms.isEmpty && containers.isEmpty)
    (.http 409 (s!"Нода '{nodeServer.name}' содержит {vms.length} VM и {containers.length} LXC. " ++
      "При присоединении к кластеру /etc/pve будет перезаписан и все конфиги потеряются. " ++
      "Используйте 'prepare-join' для создания бэкапов и очистки ноды."))
  startJoin nodeServer clusterServer node rootpw (optionalText body.link0)
    (optionalText body.clusterHost)

end PveManager.Api.Cluster
