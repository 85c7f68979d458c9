import Mathlib.Data.Finset.Card
import PveManager.Api.Access
import PveManager.Api.Visibility
import PveManager.Core.Dict
import PveManager.Topology.Build

/-!
# The topology endpoint

`get_network_topology` with its two caches: listings by server, which live for 15 seconds, and
network cards by guest, which live for 300 seconds.
-/

namespace PveManager.Topology

open PveManager.Core PveManager.Rbac PveManager.Api

/-! ### What Proxmox answers -/

/-- An entry of `/cluster/resources`. -/
inductive ClusterEntry
  | node (res : NodeResource)
  | guest (res : GuestResource)
  | other

structure SdnZone where
  zone : Option String
  nodes : Option String

structure SdnVnet where
  vnet : Option String
  zone : Option String

/-- An interface of a node; flags are as `_truthy` reads them. -/
structure NetInterface where
  iface : Option String
  name : Option String
  type : Option String
  cidr : Option String
  address : Option String
  netmask : Option String
  vlanAware : Bool
  bridgePorts : Option String
  slaves : Option String
  active : Bool

/-- The answers of one server; the client reads a failed request as an empty answer. -/
structure ServerAnswers where
  /-- An exception that the client does not catch. -/
  raised : Option String
  entries : List ClusterEntry
  zones : List SdnZone
  vnets : List SdnVnet
  networks : String → List NetInterface
  /-- The network cards in the config of a guest. -/
  config : String → Vmid → VmType → List Nic

/-! ### Live collection -/

inductive CollectError
  | noCredentials (detail : String)
  | failed (text : String)

/-- The bridges among the interfaces of a node. -/
def interfaceEntry (iface : NetInterface) : Option BridgeEntry :=
  let name := textOr iface.iface (textOr iface.name none)
  name.map fun name =>
    { name := name
      type := iface.type
      cidr :=
        if !truthy iface.cidr && truthy iface.address && truthy iface.netmask then
          some (iface.address.getD "" ++ "/" ++ iface.netmask.getD "")
        else iface.cidr
      vlanAware := iface.vlanAware
      ports := textOr iface.bridgePorts iface.slaves
      active := iface.active
      zone := none }

/-- The nodes of a zone; an empty text stands for all. -/
def zoneNodes (zones : List SdnZone) (zone : String) : String :=
  (((zones.reverse.find? fun z => decide (z.zone = some zone)).bind SdnZone.nodes).getD "").replace
    " " ""

/-- The entry of a vnet on a node of its zone. -/
def vnetEntry (zones : List SdnZone) (nodeName : String) (vnet : SdnVnet) : Option BridgeEntry :=
  let zone := vnet.zone.getD ""
  let nodes := zoneNodes zones zone
  if !truthy vnet.vnet then none
  else if nodes ≠ "" && !(nodes.splitOn ",").contains nodeName then none
  else some ⟨vnet.vnet.getD "", some "vnet", none, false, none, true, some zone⟩

namespace ServerAnswers

variable (answers : ServerAnswers)

def nodes : List NodeResource :=
  answers.entries.filterMap fun
    | .node res => some res
    | _ => none

def guests : List GuestResource :=
  answers.entries.filterMap fun
    | .guest res => if (kindType res.kind).isSome then some res else none
    | _ => none

/-- The names of the listed nodes, without blanks. -/
def nodeNames : List String :=
  answers.nodes.filterMap fun res => if truthy res.node then res.node else none

def bridgesOf (nodeName : String) : List BridgeEntry :=
  (answers.networks nodeName).filterMap interfaceEntry ++
    answers.vnets.filterMap (vnetEntry answers.zones nodeName)

/-- What the server tells. -/
def data (includeBridges : Bool) : ServerData where
  nodes := answers.nodes
  guests := answers.guests
  bridges :=
    if includeBridges then
      answers.nodeNames.foldl (fun bridges name => bridges.set name (answers.bridgesOf name)) .empty
    else .empty

end ServerAnswers

/-- `_collect_server`. -/
def collectServer (server : ProxmoxServer) (answers : ServerAnswers) (includeBridges : Bool) :
    Except CollectError ServerData :=
  if !Sync.hasAuth server then
    .error (.noCredentials (s!"Server '{server.name}' has no valid Proxmox credentials configured " ++
      "(API token or password). Edit the server settings."))
  else
    match answers.raised with
    | some text => .error (.failed text)
    | none => .ok (answers.data includeBridges)

/-! ### The request -/

structure TopologyQuery where
  serverId : Option ServerId
  includeStopped : Bool
  includeTemplates : Bool
  includeBridges : Bool
  includeNics : Bool

/-- What a request meets: the tables and the answers of the servers. -/
structure Moment where
  servers : KeyedTable ProxmoxServer.id
  rows : KeyedTable GuestRow.rowKey
  ipam : Ipam
  networks : List BridgeNetwork
  workspaces : WorkspaceTables
  /-- The order in which the database sorts names. -/
  nameOrder : String → String → Bool
  answers : ServerId → ServerAnswers

/-- `_topo_cache` and `_nic_cache`. -/
@[ext]
structure Caches where
  topo : ServerId → Option (Time × ServerData)
  nic : ServerId × Vmid → Option (Time × List Nic)

def topoTtl : Time := 15

def nicTtl : Time := 300

def nicMaxFetches : Nat := 300

structure TopologyWarning where
  serverId : Option ServerId
  serverName : Option String
  code : String
  message : String

structure TopologyPanelSummary where
  name : String
  clusterCount : Nat
  nodeCount : Nat
  guestCount : Nat

structure NetworkTopologyResponse where
  generatedAt : Time
  panel : TopologyPanelSummary
  clusters : List TopologyCluster
  warnings : List TopologyWarning

/-- A guest whose config is read. -/
structure NicTarget where
  serverId : ServerId
  node : String
  vmid : Vmid
  type : VmType
  deriving DecidableEq

def NicTarget.key (t : NicTarget) : ServerId × Vmid := (t.serverId, t.vmid)

section Request

variable (m : Moment) (user : User) (header : Option String) (q : TopologyQuery) (now : Time)
  (caches : Caches) (servers : List ProxmoxServer)

/-- The servers of the request, by name. -/
def queriedServers : List ProxmoxServer :=
  (m.servers.rows.filter fun s =>
    sees (getVisibleServerIds m.workspaces user header) s.id &&
      q.serverId.all fun id => decide (s.id = id)).insertionSort fun s t =>
        m.nameOrder s.name t.name = true

/-- `db_guests`. -/
def dbGuests : List GuestRow :=
  m.rows.rows.filter fun r =>
    r.live && (servers.map ProxmoxServer.id).contains r.serverId &&
      (canViewAllInstances user || decide (r.ownerId = some user.id))

/-- The cached listing of a server, while it lives. -/
def freshListing (sid : ServerId) : Option ServerData :=
  ((caches.topo sid).filter fun e => decide (now < e.1 + topoTtl)).map Prod.snd

/-- The servers that are asked: the others have a listing or are offline. -/
def staleServers : List ProxmoxServer :=
  servers.filter fun s => (freshListing now caches s.id).isNone && decide (s.isOnline ≠ some false)

/-- What asking them comes to. -/
def collection : List (ProxmoxServer × Except CollectError ServerData) :=
  (staleServers now caches servers).map fun s =>
    (s, collectServer s (m.answers s.id) q.includeBridges)

/-- `live`, in the order in which it is filled. -/
def liveListings : List (ServerId × ServerData) :=
  servers.filterMap (fun s => (freshListing now caches s.id).map fun data => (s.id, data)) ++
    (collection m q now caches servers).filterMap fun p => p.2.toOption.map fun data => (p.1.id, data)

/-- `live.get(sid)`. -/
def liveOf (sid : ServerId) : Option ServerData :=
  ((liveListings m q now caches servers).find? fun p => decide (p.1 = sid)).map Prod.snd

def collectWarning (p : ProxmoxServer × Except CollectError ServerData) : Option TopologyWarning :=
  match p.2 with
  | .error (.noCredentials detail) => some ⟨p.1.id, p.1.name, "no_credentials", detail⟩
  | .error (.failed text) => some ⟨p.1.id, p.1.name, "error", text⟩
  | .ok _ => none

/-- The warnings about servers. -/
def serverWarnings : List TopologyWarning :=
  let failed := (collection m q now caches servers).filterMap collectWarning
  failed ++ servers.filterMap fun s =>
    if (liveOf m q now caches servers s.id).isNone &&
        !failed.any fun w => decide (w.serverId = some s.id) then
      some ⟨s.id, s.name, "offline", s!"'{s.name}' is unreachable - showing cached data"⟩
    else none

/-- The listed guests whose cards are wanted, in the order of the loop. -/
def nicTargets (visible : ServerId × Vmid → Bool) : List NicTarget :=
  (liveListings m q now caches servers).flatMap fun p =>
    p.2.guests.filterMap fun g =>
      if truthy g.node && visible (p.1, g.vmid) then
        some ⟨p.1, g.node.getD "", g.vmid, (kindType g.kind).getD .qemu⟩
      else none

/-- The cached cards of a guest, while they live. -/
def freshNics (key : ServerId × Vmid) : Option (List Nic) :=
  ((caches.nic key).filter fun e => decide (now < e.1 + nicTtl)).map Prod.snd

/-- The guests without cached cards. -/
def unreadTargets (visible : ServerId × Vmid → Bool) : List NicTarget :=
  (nicTargets m q now caches servers visible).filter fun t => (freshNics now caches t.key).isNone

/-- `_fetch_nics` for the guests that the budget allows. -/
def fetchedNics (visible : ServerId × Vmid → Bool) (key : ServerId × Vmid) : Option (List Nic) :=
  (((unreadTargets m q now caches servers visible).take nicMaxFetches).reverse.find? fun t =>
      decide (t.key = key)).bind fun t =>
    if servers.any fun s => decide (s.id = t.serverId) && Sync.hasAuth s then
      some ((m.answers t.serverId).config t.node t.vmid t.type)
    else none

/-- `nics_by_key`. -/
def nicsByKey (visible : ServerId × Vmid → Bool) (key : ServerId × Vmid) : Option (List Nic) :=
  if (nicTargets m q now caches servers visible).any fun t => decide (t.key = key) then
    (freshNics now caches key).or (fetchedNics m q now caches servers visible key)
  else none

/-- The assembly without listings and cards. -/
def tables : Assembly where
  seeAll := canViewAllInstances user
  rows := dbGuests m user servers
  ipam := m.ipam
  networks := m.networks.filter fun n =>
    n.proxmoxServerId.any fun sid => (servers.map ProxmoxServer.id).contains sid
  live := fun _ => none
  nics := fun _ => []
  includeStopped := q.includeStopped
  includeTemplates := q.includeTemplates

/-- What the page is assembled from. -/
def assembly : Assembly :=
  let t := tables m user q servers
  { t with
    live := liveOf m q now caches servers
    nics := fun key =>
      if q.includeNics then (nicsByKey m q now caches servers t.visible key).getD [] else [] }

/-- The warning about guests whose cards were not read. -/
def nicWarnings : List TopologyWarning :=
  if q.includeNics && decide (nicMaxFetches <
      (unreadTargets m q now caches servers (tables m user q servers).visible).length) then
    [⟨none, none, "nics_truncated",
      s!"Network card details limited to {nicMaxFetches} guests per request"⟩]
  else []

/-- A listing that was collected now. -/
def collected (sid : ServerId) : Option ServerData :=
  ((collection m q now caches servers).find? fun p => decide (p.1.id = sid)).bind fun p =>
    p.2.toOption

/-- The caches after the request. -/
def cachesAfter : Caches where
  topo := fun sid =>
    ((collected m q now caches servers sid).map fun data => (now, data)).or (caches.topo sid)
  nic := fun key =>
    ((if q.includeNics then
        fetchedNics m q now caches servers (tables m user q servers).visible key
      else none).map fun nics => (now, nics)).or (caches.nic key)

def summary (clusters : List TopologyCluster) : TopologyPanelSummary where
  name := "PVEmanager"
  clusterCount := clusters.length
  nodeCount := (clusters.map fun c => c.nodes.length).sum
  guestCount := (clusters.map fun c => (c.nodes.map fun n => n.guests.length).sum).sum

/-- The response for the servers of the request. -/
def response : NetworkTopologyResponse :=
  let clusters := (assembly m user q now caches servers).clusters servers
  { generatedAt := now
    panel := summary clusters
    clusters := clusters
    warnings := serverWarnings m q now caches servers ++ nicWarnings m user q now caches servers }

/-- `_empty_response`. -/
def emptyResponse : NetworkTopologyResponse := ⟨now, summary [], [], []⟩

/-- `get_network_topology`. -/
def getNetworkTopology : Except Exc NetworkTopologyResponse × Caches :=
  let visible := getVisibleServerIds m.workspaces user header
  if !hasPermission user "network:view" then
    (.error (.http 403 "Permission denied: network:view"), caches)
  else if visible.any fun ids => decide (ids.card = 0) then (.ok (emptyResponse now), caches)
  else if q.serverId.any fun id => !sees visible id then
    (.error (.http 404 "Proxmox server not found"), caches)
  else
    let servers := queriedServers m user header q
    if servers.isEmpty then (.ok (emptyResponse now), caches)
    else (.ok (response m user q now caches servers), cachesAfter m user q now caches servers)

end Request

end PveManager.Topology
