import Mathlib.Data.String.Basic
import PveManager.Core.FirstKept
import PveManager.Ipam.Readers
import PveManager.Ipam.Service
import PveManager.Sync.Collect

/-!
# The topology page

The page shows the clusters with their nodes and guests. Each connection contributes nodes, from
what it answers or, where it does not answer, from the cached rows of its guests; within a
cluster the first connection that contributes a node is the one that is shown.
-/

namespace PveManager.Topology

open PveManager.Core

/-! ### What is read -/

/-- A node in `/cluster/resources`; numbers are as `_to_int` and `_to_float` read them. -/
structure NodeResource where
  node : Option String
  status : Option String
  cpu : Option Rat
  maxcpu : Option Nat
  mem : Option Nat
  maxmem : Option Nat
  uptime : Option Nat

/-- A guest in `/cluster/resources`, with the fields that the cache sync does not read. -/
structure GuestResource extends Sync.Resource where
  lock : Option String
  cpu : Option Rat
  mem : Option Nat
  disk : Option Nat
  uptime : Option Nat
  tags : Option String

/-- An attachable bridge as it was collected. -/
structure BridgeEntry where
  name : String
  type : Option String
  cidr : Option String
  vlanAware : Bool
  ports : Option String
  active : Bool
  zone : Option String

/-- What one connection tells. -/
structure ServerData where
  nodes : List NodeResource
  guests : List GuestResource
  /-- By node name. -/
  bridges : KeyedTable (Prod.fst : String × List BridgeEntry → String)

/-- A cached guest with its tags and the name of its owner. -/
structure GuestRow extends VMInstance where
  tags : Option String
  ownerUsername : Option String

def GuestRow.rowKey (r : GuestRow) : ServerId × Vmid := r.toVMInstance.key

/-- A network with the bridge it is for. -/
structure BridgeNetwork extends IPAMNetwork where
  proxmoxServerId : Option ServerId
  proxmoxBridge : Option String

/-- A network card of a guest. -/
structure Nic where
  key : String
  model : Option String
  mac : Option String
  bridge : Option String
  vlanTag : Option Int
  trunks : List Int
  firewall : Bool
  linkDown : Bool
  name : Option String
  ip : Option String
  gw : Option String
  rate : Option Rat
  mtu : Option Int

/-! ### What is shown -/

structure TopologyBridge where
  entry : BridgeEntry
  ipamNetworkId : Option Nat
  ipamCidr : Option String
  ipamName : Option String

structure TopologyGuest where
  id : String
  serverId : ServerId
  node : String
  vmid : Vmid
  type : VmType
  name : String
  status : String
  isTemplate : Bool
  lock : Option String
  cpu : Option Rat
  cores : Option Nat
  mem : Option Nat
  maxmem : Option Nat
  disk : Option Nat
  maxdisk : Option Nat
  uptime : Option Nat
  tags : List String
  ownerId : Option UserId
  ownerUsername : Option String
  ip : Option String
  nics : List Nic

structure TopologyNode where
  id : String
  serverId : ServerId
  serverName : String
  node : String
  status : String
  /-- Rebuilt from cached rows. -/
  stale : Bool
  cpu : Option Rat
  maxcpu : Option Nat
  mem : Option Nat
  maxmem : Option Nat
  uptime : Option Nat
  bridges : List TopologyBridge
  guests : List TopologyGuest

inductive ClusterKind
  | cluster
  | standalone
  deriving DecidableEq

structure TopologyCluster where
  id : String
  name : String
  kind : ClusterKind
  serverIds : List ServerId
  online : Bool
  nodes : List TopologyNode

/-- A cluster that is being put together. -/
structure Bucket where
  id : String
  name : String
  kind : ClusterKind
  serverIds : List ServerId
  online : Bool
  nodes : KeyedTable TopologyNode.node

/-! ### Helpers -/

/-- `a or b` for texts. -/
def textOr (a b : Option String) : Option String := if truthy a then a else b

/-- `a or b` for numbers. -/
def numberOr (a b : Option Nat) : Option Nat := if a.any fun n => decide (n ≠ 0) then a else b

/-- `_split_tags`. -/
def splitTags (raw : Option String) : List String :=
  (((raw.getD "").replace "," ";").splitOn ";").filterMap fun t =>
    if strip t = "" then none else some (strip t)

def kindType : Sync.ResourceKind → Option VmType
  | .qemu => some .qemu
  | .lxc => some .lxc
  | .other _ => none

/-! ### Assembly -/

/-- What the response is assembled from. -/
structure Assembly where
  /-- `can_view_all_instances`. -/
  seeAll : Bool
  /-- `db_guests`. -/
  rows : List GuestRow
  ipam : Ipam
  networks : List BridgeNetwork
  live : ServerId → Option ServerData
  nics : ServerId × Vmid → List Nic
  includeStopped : Bool
  includeTemplates : Bool

namespace Assembly

variable (a : Assembly)

/-- `db_by_key`; the last row of a key counts. -/
def row (key : ServerId × Vmid) : Option GuestRow :=
  a.rows.reverse.find? fun r => decide (r.rowKey = key)

/-- `see_all or key in owned_keys`. -/
def visible (key : ServerId × Vmid) : Bool := a.seeAll || (a.row key).isSome

/-- `ipam_by_bridge`. -/
def networkOf (sid : ServerId) (bridge : String) : Option BridgeNetwork :=
  a.networks.reverse.find? fun n =>
    truthy n.proxmoxBridge && decide (n.proxmoxServerId = some sid ∧ n.proxmoxBridge = some bridge)

/-- `_build_guest`; one of the resource and the row is there. -/
def buildGuest (sid : ServerId) (nodeName : String) (res : Option GuestResource)
    (row : Option GuestRow) : Option TopologyGuest :=
  match (res.map fun r => r.vmid).or (row.map fun r => r.vmid) with
  | none => none
  | some vmid =>
    let isTemplate := (res.any fun r => r.template) || row.any fun r => r.isTemplate
    let status := (textOr (res.bind fun r => r.status)
      (textOr (row.map fun r => r.status) none)).getD "unknown"
    if isTemplate && !a.includeTemplates then none
    else if !a.includeStopped && status ≠ "running" then none
    else
      let tags := splitTags (res.bind fun r => r.tags)
      some {
        id := s!"guest:{sid}:{vmid}"
        serverId := sid
        node := nodeName
        vmid := vmid
        type := ((res.bind fun r => kindType r.kind).or (row.map fun r => r.vmType)).getD .qemu
        name := (textOr (res.bind fun r => r.name) (textOr (row.map fun r => r.name) none)).getD
          s!"vm-{vmid}"
        status := status
        isTemplate := isTemplate
        lock := res.bind fun r => r.lock
        cpu := res.bind fun r => r.cpu
        cores := numberOr (res.bind fun r => r.maxcpu) (row.bind fun r => r.cores)
        mem := res.bind fun r => r.mem
        maxmem := numberOr (res.bind fun r => r.maxmem) (row.bind fun r => r.memory)
        disk := res.bind fun r => r.disk
        maxdisk := res.bind fun r => r.maxdisk
        uptime := res.bind fun r => r.uptime
        tags := if tags.isEmpty then splitTags (row.bind fun r => r.tags) else tags
        ownerId := row.bind fun r => r.ownerId
        ownerUsername := row.bind fun r => r.ownerUsername
        ip := textOr (a.ipam.topologyLookup (sid, vmid)) (row.bind fun r => r.ipAddress)
        nics := a.nics (sid, vmid) }

/-- `guests.sort(key=lambda g: g.vmid)`. -/
def sortGuests (guests : List TopologyGuest) : List TopologyGuest :=
  guests.insertionSort fun g h => g.vmid ≤ h.vmid

/-- `row.node or server.name`. -/
def rowNode (server : ProxmoxServer) (r : GuestRow) : String :=
  if r.node = "" then server.name else r.node

/-- The cached rows of a server. -/
def rowsOf (server : ProxmoxServer) : List GuestRow :=
  a.rows.filter fun r => decide (r.serverId = server.id)

/-- A node of a server that does not answer. -/
def staleNode (server : ProxmoxServer) (nodeName : String) : TopologyNode where
  id := s!"node:{server.id}:{nodeName}"
  serverId := server.id
  serverName := server.name
  node := nodeName
  status := "unknown"
  stale := true
  cpu := none
  maxcpu := none
  mem := none
  maxmem := none
  uptime := none
  bridges := []
  guests := sortGuests (((a.rowsOf server).filter fun r => decide (rowNode server r = nodeName))
    |>.filterMap fun r => a.buildGuest server.id nodeName none (some r))

/-- The guests of a node that the user may see. -/
def guestsOn (server : ProxmoxServer) (data : ServerData) (nodeName : String) :
    List GuestResource :=
  data.guests.filter fun g => decide (g.node = some nodeName) && a.visible (server.id, g.vmid)

def bridge (server : ProxmoxServer) (entry : BridgeEntry) : TopologyBridge :=
  let network := a.networkOf server.id entry.name
  ⟨entry, network.map fun n => n.id, network.map fun n => n.network, network.map fun n => n.name⟩

/-- A node that a server reports. -/
def liveNode (server : ProxmoxServer) (data : ServerData) (nodeName : String)
    (res : NodeResource) : TopologyNode where
  id := s!"node:{server.id}:{nodeName}"
  serverId := server.id
  serverName := server.name
  node := nodeName
  status := (textOr res.status none).getD "unknown"
  stale := false
  cpu := res.cpu
  maxcpu := res.maxcpu
  mem := res.mem
  maxmem := res.maxmem
  uptime := res.uptime
  bridges := (((data.bridges.find? nodeName).map Prod.snd).getD []).map (a.bridge server)
  guests := sortGuests ((a.guestsOn server data nodeName).filterMap fun g =>
    a.buildGuest server.id nodeName (some g) (a.row (server.id, g.vmid)))

/-- The nodes that a connection has to show, in its own order. -/
def contributed (server : ProxmoxServer) : List TopologyNode :=
  match a.live server.id with
  | none => ((a.rowsOf server).map (rowNode server)).map (a.staleNode server)
  | some data => data.nodes.filterMap fun res =>
      if truthy res.node then some (a.liveNode server data (res.node.getD "") res) else none

/-- Connections of one cluster share a key; one without a cluster name stands alone. -/
def bucketKey (server : ProxmoxServer) : String :=
  if truthy server.clusterName then "cluster:" ++ server.clusterName.getD ""
  else s!"cluster:server:{server.id}"

def newBucket (server : ProxmoxServer) : Bucket where
  id := bucketKey server
  name := (textOr server.clusterName (some server.name)).getD ""
  kind := if truthy server.clusterName then .cluster else .standalone
  serverIds := []
  online := false
  nodes := .empty

/-- The bucket of a connection, before the connection is merged. -/
def bucketOf (buckets : KeyedTable Bucket.id) (server : ProxmoxServer) : Bucket :=
  (buckets.find? (bucketKey server)).getD (newBucket server)

/-- One round of the merge. -/
def mergeServer (buckets : KeyedTable Bucket.id) (server : ProxmoxServer) :
    KeyedTable Bucket.id :=
  let bucket := bucketOf buckets server
  buckets.save { bucket with
    serverIds := bucket.serverIds ++ [server.id]
    online := bucket.online || (a.live server.id).isSome
    nodes := (a.contributed server).foldl KeyedTable.keep bucket.nodes }

/-- `cluster_buckets`. -/
def merge (servers : List ProxmoxServer) : KeyedTable Bucket.id :=
  servers.foldl a.mergeServer .empty

def Bucket.toCluster (b : Bucket) : TopologyCluster where
  id := b.id
  name := b.name
  kind := b.kind
  serverIds := b.serverIds
  online := b.online
  nodes := b.nodes.rows.insertionSort fun m n => m.node ≤ n.node

/-- Clusters come before servers that stand alone, each by name without case. -/
def clusterBefore (c d : TopologyCluster) : Bool :=
  if c.kind = d.kind then decide (c.name.toLower ≤ d.name.toLower) else decide (c.kind = .cluster)

/-- The clusters of the response. -/
def clusters (servers : List ProxmoxServer) : List TopologyCluster :=
  ((a.merge servers).rows.map Bucket.toCluster).insertionSort fun c d => clusterBefore c d = true

/-! ### The merge -/

variable {a}

@[simp] theorem id_newBucket (server : ProxmoxServer) : (newBucket server).id = bucketKey server :=
  rfl

theorem id_bucketOf (buckets : KeyedTable Bucket.id) (server : ProxmoxServer) :
    (bucketOf buckets server).id = bucketKey server := by
  unfold bucketOf
  cases hf : buckets.find? (bucketKey server) with
  | none => rfl
  | some b => exact buckets.key_of_find? hf

/-- The node that is shown under a name in the bucket of a key. -/
def nodeIn (buckets : KeyedTable Bucket.id) (key name : String) : Option TopologyNode :=
  (buckets.find? key).bind fun b => b.nodes.find? name

/-- The first node of this name that the connection contributes to the bucket. -/
def contribution (a : Assembly) (key name : String) (server : ProxmoxServer) :
    Option TopologyNode :=
  if bucketKey server = key then (a.contributed server).find? fun n => decide (n.node = name)
  else none

theorem nodeIn_mergeServer (buckets : KeyedTable Bucket.id) (server : ProxmoxServer)
    (key name : String) :
    nodeIn (a.mergeServer buckets server) key name =
      (nodeIn buckets key name).or (a.contribution key name server) := by
  unfold nodeIn mergeServer contribution
  rw [KeyedTable.find?_save]
  dsimp only
  rw [id_bucketOf]
  by_cases hk : bucketKey server = key
  · subst hk
    rw [if_pos rfl, if_pos rfl, Option.bind_some, KeyedTable.find?_foldl_keep]
    unfold bucketOf
    cases hf : buckets.find? (bucketKey server) with
    | none => simp [newBucket, KeyedTable.find?, KeyedTable.empty]
    | some b => rfl
  · rw [if_neg hk, if_neg hk, Option.or_none]

/-- Under each name the first connection of the cluster that contributes the node is shown. -/
theorem nodeIn_merge (servers : List ProxmoxServer) (key name : String) :
    nodeIn (a.merge servers) key name = servers.findSome? (a.contribution key name) := by
  have hfold : ∀ (servers : List ProxmoxServer) (buckets : KeyedTable Bucket.id),
      nodeIn (servers.foldl a.mergeServer buckets) key name =
        (nodeIn buckets key name).or (servers.findSome? (a.contribution key name)) := by
    intro servers
    induction servers with
    | nil => intro buckets; simp
    | cons s servers ih =>
      intro buckets
      rw [List.foldl_cons, ih, nodeIn_mergeServer, Option.or_assoc, List.findSome?_cons]
      cases a.contribution key name s <;> rfl
  exact hfold servers .empty

end Assembly

end PveManager.Topology
