import Mathlib.Algebra.Order.Ring.Rat
import PveManager.Api.Handler
import PveManager.Core.Dict
import PveManager.Monitoring.Worker
import PveManager.Sync.Tick

/-!
# Live updates

The sockets of the panel, the channels they subscribe to, and the loops that push
metrics to the channels. A socket names a channel by any text; the loops read server,
guest and node out of that text and ask Proxmox for them. The tables, the clock and
the answers of the servers are what each step finds.
-/

namespace PveManager.Live

open PveManager.Core PveManager.Api PveManager.Monitoring PveManager.Sync

/-! ### What a step finds -/

/-- The numbers in a guest's status; an absent one is `none`. -/
structure Gauges where
  cpu : Option Rat
  mem : Option Rat
  maxmem : Option Rat
  disk : Option Rat
  maxdisk : Option Rat
  uptime : Option Rat
  netin : Option Rat
  netout : Option Rat
  diskread : Option Rat
  diskwrite : Option Rat
  deriving DecidableEq

/-- The live values where they are known. -/
def Gauges.over (live item : Gauges) : Gauges where
  cpu := live.cpu.or item.cpu
  mem := live.mem.or item.mem
  maxmem := live.maxmem.or item.maxmem
  disk := live.disk.or item.disk
  maxdisk := live.maxdisk.or item.maxdisk
  uptime := live.uptime.or item.uptime
  netin := live.netin.or item.netin
  netout := live.netout.or item.netout
  diskread := live.diskread.or item.diskread
  diskwrite := live.diskwrite.or item.diskwrite

/-- The counters that rates are made of. -/
def Gauges.counters (g : Gauges) : List (String × Rat) :=
  [("diskread", g.diskread.getD 0), ("diskwrite", g.diskwrite.getD 0), ("netin", g.netin.getD 0),
    ("netout", g.netout.getD 0)]

/-- The status of a guest: its numbers and the rest of the answer. -/
structure InstanceStatus where
  gauges : Gauges
  rest : Json

/-- A filesystem of a guest. -/
structure Disk where
  name : String
  mountpoint : String
  used : Rat
  total : Rat

/-- A guest in the listing of a cluster. -/
structure ListItem where
  serverId : ServerId
  vmid : Vmid
  type : Option String
  node : Option String
  status : Option String
  gauges : Gauges
  rates : List (String × Rat)

/-- A task as its row tells it. -/
structure TaskDict where
  createdAt : Option String
  body : Json

/-- What becomes of a client for a server. -/
inductive Connection
  /-- Building the client raises. -/
  | raised (text : String)
  /-- `is_connected` answers false. -/
  | disconnected
  | connected
  deriving DecidableEq

/-- The two kinds the status of a guest is asked for. -/
inductive GuestKind
  | qemu
  | lxc
  deriving DecidableEq

/-- What the servers answer. The client answers `none` where a request fails. -/
structure Answers where
  connection : ServerId → Connection
  session : ServerId → Option Session
  /-- `get_node_status`. -/
  nodeStatus : ServerId → String → Option Json
  /-- `get_node_rrddata`. -/
  nodeRrd : ServerId → String → String → Json
  /-- `get_vm_status` and `get_container_status`. -/
  status : ServerId → GuestKind → String → Int → Option InstanceStatus
  /-- `get_vm_fsinfo`. -/
  fsinfo : ServerId → String → Int → List Disk
  /-- `get_vm_rrddata` and `get_container_rrddata`. -/
  guestRrd : ServerId → GuestKind → String → Int → String → Json
  /-- `get_vm_stats`. -/
  stats : ServerId → String → Vmid → Option VmStats
  /-- The guests of `get_cluster_resources`. -/
  resources : ServerId → List ListItem

/-- What a step finds: the tables, the clocks and the servers. -/
structure World where
  db : Db
  /-- The active users, in the order of the query. -/
  users : List UserId
  users_nodup : users.Nodup
  prefs : UserId → Option NotificationPreference
  /-- The newest thirty bulk tasks and node tasks of a user. -/
  tasks : UserId → List TaskDict × List TaskDict
  /-- Microseconds of the day. -/
  now : Nat
  /-- Seconds since the epoch, which lies in the past. -/
  timestamp : Nat
  positive : 0 < timestamp
  /-- `time.monotonic()`. -/
  clock : Rat
  answers : Answers
  /-- What the cache sync reads outside the database. -/
  tick : TickEnv

namespace World

variable (w : World)

/-- A server by the number that a text gave. -/
def findServer : Int → Option ProxmoxServer
  | .ofNat id => w.db.servers.find? id
  | .negSucc _ => none

/-- The client of a server, as the dashboard builds it. -/
def client (id : ServerId) : Client :=
  match w.answers.connection id with
  | .raised _ => none
  | _ => some (w.answers.session id)

def dashboardRound : DashboardRound := ⟨w.db.servers, w.client⟩

/-- The status job goes on with servers whose connection check succeeds. -/
def statusRound : StatusRound where
  servers := w.db.servers
  session id := if w.answers.connection id = .connected then w.answers.session id else none
  users := w.users
  users_nodup := w.users_nodup
  prefs := w.prefs
  now := w.now

def usageRound : UsageRound where
  servers := w.db.servers
  session id := (w.client id).join
  stats := w.answers.stats
  users := w.users
  users_nodup := w.users_nodup
  prefs := w.prefs
  now := w.now
  timestamp := w.timestamp
  positive := w.positive

end World

/-! ### Sockets and channels -/

/-- A connection of a user. -/
structure Socket where
  user : UserId
  number : Nat
  deriving DecidableEq

/-- `ConnectionManager`: the open sockets, and who subscribed to each channel. -/
structure ConnectionManager where
  connections : List Socket
  channelSubscribers : KeyedTable (Prod.fst : String × List Socket → String)

namespace ConnectionManager

variable (m : ConnectionManager) (socket : Socket) (channel : String)

def empty : ConnectionManager := ⟨[], .empty⟩

def connect : ConnectionManager := { m with connections := m.connections.insert socket }

/-- The sockets of a channel. -/
def subscribers : List Socket := (m.channelSubscribers.get? channel).getD []

def subscribe : ConnectionManager :=
  { m with
    channelSubscribers := m.channelSubscribers.set channel ((m.subscribers channel).insert socket) }

/-- A channel without a socket is forgotten. -/
def unsubscribe : ConnectionManager :=
  if (m.channelSubscribers.get? channel).isSome = true then
    let left := (m.subscribers channel).erase socket
    { m with
      channelSubscribers :=
        if left = [] then m.channelSubscribers.erase channel
        else m.channelSubscribers.set channel left }
  else m

def unsubscribeAll : ConnectionManager :=
  (m.channelSubscribers.rows.map Prod.fst).foldl (fun m channel => m.unsubscribe socket channel) m

def disconnect : ConnectionManager :=
  { m with connections := m.connections.erase socket }.unsubscribeAll socket

def hasChannelSubscribers : Bool := !(m.subscribers channel).isEmpty

/-- `get_channels_matching`. -/
def getChannelsMatching (start : String) : List String :=
  (m.channelSubscribers.rows.map Prod.fst).filter fun ch => decide (start.toList <+: ch.toList)

end ConnectionManager

/-- The text before the first mark and the text after it. -/
def cut (mark : Char) (chars : List Char) : Option (List Char × List Char) :=
  if mark ∈ chars then
    some (chars.takeWhile fun c => decide (c ≠ mark),
      (chars.dropWhile fun c => decide (c ≠ mark)).tail)
  else none

/-! ### Channel names

`toInt` is what `int` makes of a text. -/

section Names

variable (toInt : String → Option Int)

/-- `server_metrics:{server_id}_{node}`. -/
def serverChannel (channel : String) : Option (Int × String) := do
  let suffix ← cut ':' channel.toList
  let parts ← cut '_' suffix.2
  let serverId ← toInt (String.ofList parts.1)
  let node := String.ofList parts.2
  if node = "" then none else pure (serverId, node)

/-- What an instance channel asks for. -/
structure InstanceQuery where
  serverId : Int
  vmid : Int
  kind : GuestKind
  node : String
  deriving DecidableEq

/-- `instance_metrics:{server_id}_{vmid}_{type}_{node}`; every type but `qemu` is a container. -/
def instanceChannel (channel : String) : Option InstanceQuery := do
  let suffix ← cut ':' channel.toList
  let first ← cut '_' suffix.2
  let second ← cut '_' first.2
  let third ← cut '_' second.2
  let node := String.ofList third.2
  if node = "" then none
  else do
    let vmid ← toInt (String.ofList second.1)
    let serverId ← toInt (String.ofList first.1)
    pure ⟨serverId, vmid, if third.1 = "qemu".toList then .qemu else .lxc, node⟩

end Names

/-! ### Messages -/

/-- The data of a channel. -/
inductive ChannelData
  | dashboard (payload : DashboardPayload)
  | server (status : Json)
  | inst (status : InstanceStatus) (disks : List Disk) (rates : List (String × Rat))
  | list (items : List ListItem)

/-- What a socket is sent. -/
inductive LiveMessage
  | taskList (tasks : List TaskDict)
  | pong
  | metricsUpdate (channel : String) (data : ChannelData)
  | rrdResponse (requestId : String) (data : Option Json) (error : Option String)
  | vmStatusUpdate (serverId : ServerId) (vmid : Vmid) (node status : String)
  | vmDeleted (notice : GuestNotice)
  | vmCreated (notice : GuestNotice)

/-- The parameters of an RRD request, with what `int` makes of the two numbers. -/
structure RrdParams where
  serverId : Except String Int
  node : String
  timeframe : String
  vmid : Except String Int
  instType : String

/-- What a client sends, as the dispatcher reads it. -/
inductive ClientMessage
  | ping
  | subscribe (channel : String)
  | unsubscribe (channel : String)
  | request (action requestId : String) (params : RrdParams)
  /-- No JSON, or of a type the dispatcher does not know. -/
  | ignored
  /-- JSON that is no object ends the connection. -/
  | broken

/-- `_fetch_rrd`. -/
def fetchRrd (w : World) (serverId : Int) (action : String) (params : RrdParams) :
    Except String Json :=
  let timeframe :=
    if params.timeframe ∈ ["hour", "day", "week", "month", "year"] then params.timeframe
    else "hour"
  match w.findServer serverId with
  | none => .error "Server not found"
  | some server =>
    match w.answers.connection server.id with
    | .raised text => .error text
    | .disconnected => .error "Cannot connect to Proxmox server"
    | .connected =>
      if action = "get_node_rrd" then
        .ok (w.answers.nodeRrd server.id params.node timeframe)
      else if action = "get_rrd" then
        match params.vmid with
        | .error text => .error text
        | .ok vmid =>
          .ok (w.answers.guestRrd server.id (if params.instType = "qemu" then .qemu else .lxc)
            params.node vmid timeframe)
      else .error s!"Unknown RRD action: {action}"

/-- `handle_rrd_request`. -/
def handleRrdRequest (w : World) (requestId action : String) (params : RrdParams) : LiveMessage :=
  match params.serverId.bind fun serverId => fetchRrd w serverId action params with
  | .ok data => .rrdResponse requestId (some data) none
  | .error text => .rrdResponse requestId none (if text = "" then none else some text)

/-- The tasks that a new socket is shown. -/
def taskSnapshot (tasks : List TaskDict × List TaskDict) : List TaskDict :=
  ((tasks.1 ++ tasks.2).mergeSort fun a b =>
    decide (b.createdAt.getD "" ≤ a.createdAt.getD "")).take 30

/-! ### The state of the process -/

/-- The sockets, the caches of the broadcaster, the memory of the monitoring jobs, and everything
that was sent. -/
structure Feed where
  manager : ConnectionManager
  metricsCache : String → Option LiveMessage
  ioPrev : String → Option (Rat × List (String × Rat))
  diskCache : String → Option (Rat × List Disk)
  listIoPrev : ServerId × Vmid → Option (Rat × List (String × Rat))
  serverLastGood : LastGood
  statusDesk : StatusDesk
  alertDesk : AlertDesk
  lastIpDetect : LastIpDetect
  sent : List (Socket × LiveMessage)

/-- The process after its start. -/
def Feed.start : Feed where
  manager := .empty
  metricsCache _ := none
  ioPrev _ := none
  diskCache _ := none
  listIoPrev _ := none
  serverLastGood _ := ⟨[], []⟩
  statusDesk := ⟨fun _ => none, []⟩
  alertDesk := ⟨fun _ => none, []⟩
  lastIpDetect := .empty
  sent := []

namespace Feed

variable (s : Feed)

/-- A message to one socket. -/
def send (socket : Socket) (message : LiveMessage) : Feed :=
  { s with sent := s.sent ++ [(socket, message)] }

/-- `broadcast_to_channel`. -/
def broadcastToChannel (channel : String) (message : LiveMessage) : Feed :=
  { s with
    sent := s.sent ++ (s.manager.subscribers channel).map fun socket => (socket, message) }

/-- `broadcast`. -/
def broadcast (message : LiveMessage) : Feed :=
  { s with sent := s.sent ++ s.manager.connections.map fun socket => (socket, message) }

/-- A payload is kept for later subscribers and goes to the present ones. -/
def publish (channel : String) (data : ChannelData) : Feed :=
  { s with
    metricsCache := Function.update s.metricsCache channel (some (.metricsUpdate channel data)) }
    |>.broadcastToChannel channel (.metricsUpdate channel data)

/-! ### The dispatcher -/

/-- A new socket of an active user gets the user's tasks. -/
def connect (w : World) (socket : Socket) : Feed :=
  if socket.user ∈ w.users then
    { s with manager := s.manager.connect socket }.send socket
      (.taskList (taskSnapshot (w.tasks socket.user)))
  else s

/-- A new subscriber is sent the kept payload of the channel. -/
def replay (socket : Socket) : Option LiveMessage → Feed
  | some cached => s.send socket cached
  | none => s

/-- One message of `websocket_tasks`. -/
def dispatch (w : World) (socket : Socket) : ClientMessage → Feed
  | .ping => s.send socket .pong
  | .subscribe channel =>
    if channel = "" then s
    else
      { s with manager := s.manager.subscribe socket channel }.replay socket
        (s.metricsCache channel)
  | .unsubscribe channel =>
    if channel = "" then s
    else { s with manager := s.manager.unsubscribe socket channel }
  | .request action requestId params =>
    if action ∈ ["get_rrd", "get_node_rrd"] ∧ requestId ≠ "" then
      s.send socket (handleRrdRequest w requestId action params)
    else s
  | .ignored => s
  | .broken => { s with manager := s.manager.disconnect socket }

/-! ### The loops -/

/-- One round of `dashboard_metrics_loop`. -/
def dashboardTick (w : World) : Feed :=
  if s.manager.hasChannelSubscribers "dashboard_metrics" = true then
    { s with serverLastGood := w.dashboardRound.remember s.serverLastGood }.publish
      "dashboard_metrics" (.dashboard (w.dashboardRound.payload s.serverLastGood))
  else s

/-- `_fetch_node_status`. -/
def fetchNodeStatus (w : World) (serverId : Int) (node : String) : Option Json :=
  (w.findServer serverId).bind fun server =>
    match w.answers.connection server.id with
    | .connected => (w.answers.nodeStatus server.id node).filter Json.truthy
    | _ => none

/-- `_push_node`. -/
def pushNode (toInt : String → Option Int) (w : World) (channel : String) : Feed :=
  match serverChannel toInt channel with
  | none => s
  | some (serverId, node) =>
    match fetchNodeStatus w serverId node with
    | none => s
    | some status => s.publish channel (.server status)

/-- One round of `server_metrics_loop`. -/
def serverTick (toInt : String → Option Int) (w : World) : Feed :=
  (s.manager.getChannelsMatching "server_metrics:").foldl (fun s ch => s.pushNode toInt w ch) s

/-- `_DISK_CACHE_TTL`. -/
def diskCacheTtl : Rat := 30

/-- The filesystems of a guest: the agent's answer for a machine, the root of a container. -/
def freshDisks (w : World) (server : ServerId) (q : InstanceQuery) (status : InstanceStatus) :
    List Disk :=
  match q.kind with
  | .qemu => w.answers.fsinfo server q.node q.vmid
  | .lxc =>
    if status.gauges.maxdisk.getD 0 ≠ 0 then
      [⟨"rootfs", "/", status.gauges.disk.getD 0, status.gauges.maxdisk.getD 0⟩]
    else []

/-- The filesystems of a channel: the remembered ones for a while. -/
def disksOf (w : World) (channel : String) (server : ServerId) (q : InstanceQuery)
    (status : InstanceStatus) : List Disk × Option (Rat × List Disk) :=
  match s.diskCache channel with
  | some (time, disks) =>
    if w.clock - time < diskCacheTtl then (disks, some (time, disks))
    else (freshDisks w server q status, some (w.clock, freshDisks w server q status))
  | none => (freshDisks w server q status, some (w.clock, freshDisks w server q status))

/-- Bytes per second since the counters before; a counter that fell counts as still. -/
def ioRates (prev : Option (Rat × List (String × Rat))) (now : Rat)
    (counters : List (String × Rat)) : List (String × Rat) :=
  match prev with
  | none => []
  | some (time, before) =>
    if now - time > 0 then
      counters.map fun c => (c.1, max 0 ((c.2 - (before.lookup c.1).getD 0) / (now - time)))
    else []

/-- `_push_instance` with the answer of the server. -/
def pushStatus (w : World) (channel : String) (server : ServerId) (q : InstanceQuery)
    (status : InstanceStatus) : Feed :=
  let disks := s.disksOf w channel server q status
  { s with
    diskCache := Function.update s.diskCache channel disks.2
    ioPrev := Function.update s.ioPrev channel (some (w.clock, status.gauges.counters)) }.publish
    channel (.inst status disks.1 (ioRates (s.ioPrev channel) w.clock status.gauges.counters))

/-- What `_fetch_instance_status` asks a server for. -/
def fetchInstanceStatus (w : World) (q : InstanceQuery) : Option (ServerId × InstanceStatus) :=
  (w.findServer q.serverId).bind fun server =>
    match w.answers.connection server.id with
    | .connected => (w.answers.status server.id q.kind q.node q.vmid).map fun st => (server.id, st)
    | _ => none

/-- `_push_instance`. -/
def pushInstance (toInt : String → Option Int) (w : World) (channel : String) : Feed :=
  match instanceChannel toInt channel with
  | none => s
  | some q =>
    match fetchInstanceStatus w q with
    | none => s
    | some (server, status) => s.pushStatus w channel server q status

/-- One round of `instance_metrics_loop`. -/
def instanceTick (toInt : String → Option Int) (w : World) : Feed :=
  (s.manager.getChannelsMatching "instance_metrics:").foldl
    (fun s ch => s.pushInstance toInt w ch) s

/-- `_enumerate_instances_for_list`: online servers whose client is built. -/
def enumerateInstances (w : World) : List ListItem :=
  (onlineServers w.db).flatMap fun server =>
    match w.answers.connection server.id with
    | .raised _ => []
    | _ => w.answers.resources server.id

/-- `_refresh_running`. -/
def refreshRunning (w : World) (item : ListItem) : ListItem :=
  if item.status = some "running" ∧ truthy item.node = true then
    match w.answers.status item.serverId (if item.type = some "lxc" then .lxc else .qemu)
        (item.node.getD "") item.vmid with
    | some live => { item with gauges := live.gauges.over item.gauges }
    | none => item
  else item

/-- The rates of one item and the counters for the next round. -/
def rateItem (now : Rat)
    (acc : List ListItem × (ServerId × Vmid → Option (Rat × List (String × Rat))))
    (item : ListItem) :
    List ListItem × (ServerId × Vmid → Option (Rat × List (String × Rat))) :=
  let key := (item.serverId, item.vmid)
  (acc.1 ++ [{ item with rates := ioRates (acc.2 key) now item.gauges.counters }],
    Function.update acc.2 key (some (now, item.gauges.counters)))

/-- One round of `instances_list_metrics_loop`. -/
def listTick (w : World) : Feed :=
  if s.manager.hasChannelSubscribers "instances_list_metrics" = true then
    let items := (enumerateInstances w).map (refreshRunning w)
    if items = [] then s
    else
      let rated := items.foldl (rateItem w.clock) ([], s.listIoPrev)
      { s with listIoPrev := rated.2 }.publish "instances_list_metrics" (.list rated.1)
  else s

/-! ### The monitoring jobs -/

/-- `run_vm_status_monitoring`. -/
def statusTick (w : World) : Feed :=
  { s with statusDesk := w.statusRound.runVmStatusMonitoring s.statusDesk }

/-- `run_resource_monitoring`. -/
def usageTick (w : World) : Feed :=
  { s with alertDesk := w.usageRound.runResourceMonitoring s.alertDesk }

/-- The broadcasts of a tick of the cache sync. -/
def announcements (r : TickResult) : List LiveMessage :=
  (r.statusChanges.map fun c => .vmStatusUpdate c.serverId c.vmid c.node c.newStatus) ++
    r.deletedVms.map .vmDeleted ++ r.createdVms.map .vmCreated

/-- `sync_vm_cache`, with its broadcasts. -/
def syncTick (w : World) : Feed :=
  let r := syncVmCache w.tick s.lastIpDetect w.db
  (announcements r).foldl broadcast { s with lastIpDetect := r.lastIpDetect }

end Feed

/-! ### Runs -/

/-- What happens. -/
inductive Act
  | connect (socket : Socket)
  | message (socket : Socket) (message : ClientMessage)
  | disconnect (socket : Socket)
  | dashboardTick
  | serverTick
  | instanceTick
  | listTick
  | statusTick
  | usageTick
  | syncTick

/-- A step and the world it finds. -/
structure LiveEvent where
  act : Act
  world : World

/-- One step. Only an open socket sends messages. -/
def Feed.step (toInt : String → Option Int) (s : Feed) (e : LiveEvent) : Feed :=
  match e.act with
  | .connect socket => s.connect e.world socket
  | .message socket message =>
    if socket ∈ s.manager.connections then s.dispatch e.world socket message else s
  | .disconnect socket => { s with manager := s.manager.disconnect socket }
  | .dashboardTick => s.dashboardTick e.world
  | .serverTick => s.serverTick toInt e.world
  | .instanceTick => s.instanceTick toInt e.world
  | .listTick => s.listTick e.world
  | .statusTick => s.statusTick e.world
  | .usageTick => s.usageTick e.world
  | .syncTick => s.syncTick e.world

/-- What a user receives: the messages on the user's sockets and the notifications. -/
structure Received where
  messages : List (Socket × LiveMessage)
  statusNotices : List Notification
  resourceNotices : List Notification

def Feed.receivedBy (s : Feed) (user : UserId) : Received where
  messages := s.sent.filter fun m => decide (m.1.user = user)
  statusNotices := (s.statusDesk.told.filter fun t => decide (t.user = user)).map
    StatusTold.notification
  resourceNotices := (s.alertDesk.told.filter fun t => decide (t.user = user)).map
    AlertTold.notification

end PveManager.Live
