import Mathlib.Data.List.Find
import PveManager.Monitoring.Once
import PveManager.Sync.Tick
import PveManager.Topology.Endpoint
import PveManager.Topology.Order

/-!
# The guests of a tenant

The cache sync keys the row of a guest by the smallest id among the connections with the same
nodes. The page shows a tenant the guests that a connection lists and that have a row under the
id of that very connection, and of each cluster it shows the first connection by name. A tenant
is shown each guest once exactly when one connection has both.
-/

namespace PveManager.Topology

open PveManager.Core PveManager.Rbac PveManager.Api
open PveManager.Api.Servers (ServersDb ServersRouter Reply Resources ServerResources Dict)

/-- The cached rows with what the page reads besides. -/
def withExtras (tags : VMInstance → Option String) (username : VMInstance → Option String)
    (vms : KeyedTable VMInstance.key) : KeyedTable GuestRow.rowKey where
  rows := vms.rows.map fun r => ⟨r, tags r, username r⟩
  keys_nodup := by
    rw [List.map_map]
    exact vms.keys_nodup

/-- A tenant opens the page, and asks for all resources, after a tick that listed every server. -/
structure Tenancy where
  /-- The database before the tick. -/
  before : Db
  last : Sync.LastIpDetect
  view : ServerId → Sync.AddressView
  syncTime : Time
  clock : Time
  /-- The Proxmox installation behind a connection. -/
  site : ServerId → Nat
  /-- What an installation answers, at the tick and to the page. -/
  answers : Nat → ServerAnswers
  /-- Proxmox gives a number to one guest of an installation. -/
  vmids_nodup : ∀ i, ((answers i).guests.map fun g => g.vmid).Nodup
  answered : ∀ i, (answers i).raised = none
  online : ∀ s ∈ before.servers.rows, s.isOnline = some true ∧ Sync.hasAuth s = true
  user : User
  tenant : canViewAllInstances user = false
  permitted : hasPermission user "network:view" = true ∧ hasPermission user "vm:view" = true
  workspaces : WorkspaceTables
  header : Option String
  visible : ∀ s ∈ before.servers.rows, sees (getVisibleServerIds workspaces user header) s.id = true
  tags : VMInstance → Option String
  username : VMInstance → Option String
  networks : List BridgeNetwork
  nameOrder : String → String → Bool
  includeBridges : Bool
  includeNics : Bool
  now : Time
  caches : Caches
  /-- Listings that are cached still hold. -/
  cached : ∀ sid e, caches.topo sid = some e → ∃ b, e.2 = (answers (site sid)).data b
  nextServerId : ServerId
  nextServerId_fresh : before.servers.find? nextServerId = none
  replies : (c : RouterCall ServersRouter) → c.Answer
  /-- The other listing of a server has the same guests. -/
  replies_list : ∀ s ∈ before.servers.rows, ∃ r,
    replies (.request s (.getProxmoxResources none)) = .ok r ∧
      ∀ vmid : Vmid, (∃ d ∈ r.vms ++ r.containers, d.get "vmid" = .number vmid) ↔
        ∃ g ∈ (answers (site s.id)).guests, g.vmid = vmid

namespace Tenancy

variable (t : Tenancy)

/-- The tick lists every server. -/
def env : Sync.TickEnv where
  probe := fun sid => .nodes (t.answers (t.site sid)).nodeNames
  fetch := fun sid => .answered (some ((t.answers (t.site sid)).guests.map fun g => g.toResource))
  view := t.view
  syncTime := t.syncTime
  clock := t.clock
  commitOk := true

/-- The database after the tick. -/
def after : Db := (Sync.syncVmCache t.env t.last t.before).db

def moment : Moment where
  servers := t.after.servers
  rows := withExtras t.tags t.username t.after.vms
  ipam := t.after.ipam
  networks := t.networks
  workspaces := t.workspaces
  nameOrder := t.nameOrder
  answers := fun sid => t.answers (t.site sid)

/-- Stopped guests are included, templates are not. -/
def query : TopologyQuery := ⟨none, true, false, t.includeBridges, t.includeNics⟩

def page : Except Exc NetworkTopologyResponse × Caches :=
  getNetworkTopology t.moment t.user t.header t.query t.now t.caches

def resources : Monitoring.ResourcesRequest where
  db := {
    toDb := t.after
    workspaces := t.workspaces
    nextServerId := t.nextServerId
    nextServerId_fresh := by
      rw [after, Sync.syncVmCache_servers]
      exact t.nextServerId_fresh }
  user := t.user
  header := t.header
  now := t.now
  answers := t.replies

/-- The row is live and the tenant's. -/
def Owned (r : VMInstance) : Prop :=
  r ∈ t.after.vms.rows ∧ r.live = true ∧ r.ownerId = some t.user.id

/-- The row is the one the tick keeps for a guest of an installation that is no template. -/
def RowOf (r : VMInstance) (i : Nat) (g : GuestResource) : Prop :=
  g ∈ (t.answers i).guests ∧ g.template = false ∧ g.vmid = r.vmid ∧
    ∃ s ∈ t.before.servers.rows, t.site s.id = i ∧ Sync.tickKey t.env t.before s.id = r.serverId

end Tenancy

namespace Assembly

variable {a : Assembly} {sid : ServerId} {row : Option GuestRow} {g : GuestResource}

theorem of_buildGuest {nodeName : String} {c : TopologyGuest}
    (h : a.buildGuest sid nodeName (some g) row = some c) : c.serverId = sid ∧ c.vmid = g.vmid := by
  unfold buildGuest at h
  dsimp only [Option.map_some, Option.some_or] at h
  split at h
  · cases h
  · split at h
    · cases h
    · cases h
      exact ⟨rfl, rfl⟩

/-- A guest that is no template has a card on a page with stopped guests. -/
theorem buildGuest_of_guest (nodeName : String) (hguest : g.template = false)
    (hrow : (row.any fun r => r.isTemplate) = false) (hstopped : a.includeStopped = true) :
    ∃ c, a.buildGuest sid nodeName (some g) row = some c ∧ c.serverId = sid ∧ c.vmid = g.vmid := by
  unfold buildGuest
  dsimp only [Option.map_some, Option.some_or, Option.any_some]
  rw [hguest, hrow, hstopped]
  exact ⟨_, rfl, rfl, rfl⟩

/-! ### The shown nodes -/

section Shown

variable {servers : List ProxmoxServer} {n : TopologyNode}

/-- The nodes of a response. -/
def shown (a : Assembly) (servers : List ProxmoxServer) : List TopologyNode :=
  (a.clusters servers).flatMap TopologyCluster.nodes

theorem nodesOf_of_mem {c : TopologyCluster} (hc : c ∈ a.clusters servers) :
    nodesOf (a.clusters servers) c.id = c.nodes := by
  have hfind : ((a.clusters servers).find? fun c' => decide (c'.id = c.id)) = some c :=
    (a.clusterTable servers).find?_key hc
  unfold nodesOf
  rw [hfind]
  rfl

theorem mem_shown : n ∈ a.shown servers ↔ ∃ key, nodeIn (a.merge servers) key n.node = some n := by
  unfold shown
  rw [List.mem_flatMap]
  constructor
  · rintro ⟨c, hc, hn⟩
    rw [← nodesOf_of_mem hc] at hn
    exact ⟨c.id, mem_nodesOf_clusters.mp hn⟩
  · rintro ⟨key, hn⟩
    have hmem := mem_nodesOf_clusters.mpr hn
    unfold nodesOf at hmem
    cases hfind : (a.clusters servers).find? fun c => decide (c.id = key) with
    | none =>
      rw [hfind] at hmem
      exact absurd hmem List.not_mem_nil
    | some c =>
      rw [hfind] at hmem
      exact ⟨c, List.mem_of_find?_eq_some hfind, hmem⟩

/-- A connection is credited with what it contributes. -/
theorem serverId_of_mem_contributed {s : ProxmoxServer} (h : n ∈ a.contributed s) :
    n.serverId = s.id := by
  unfold contributed at h
  split at h
  · obtain ⟨name, -, rfl⟩ := List.mem_map.mp h
    rfl
  · obtain ⟨res, -, hsome⟩ := List.mem_filterMap.mp h
    split at hsome
    · cases hsome
      rfl
    · cases hsome

/-- A shown node is what a connection of the cluster contributes under its name. -/
theorem contribution_of_nodeIn {key name : String}
    (h : nodeIn (a.merge servers) key name = some n) :
    ∃ s ∈ servers, bucketKey s = key ∧ n.serverId = s.id ∧
      (a.contributed s).find? (fun n => decide (n.node = name)) = some n := by
  rw [nodeIn_merge] at h
  obtain ⟨s, hs, hsome⟩ := List.exists_of_findSome?_eq_some h
  obtain ⟨hkey, hfind⟩ := contribution_eq_some_iff.mp hsome
  exact ⟨s, hs, hkey, serverId_of_mem_contributed (List.mem_of_find?_eq_some hfind), hfind⟩

/-- Nodes of one name are credited to different connections. -/
theorem pairwise_shown (hnodup : (servers.map ProxmoxServer.id).Nodup) :
    (a.shown servers).Pairwise fun n n' => n.node = n'.node → n.serverId ≠ n'.serverId := by
  unfold shown
  rw [List.pairwise_flatMap]
  constructor
  · intro c hc
    obtain ⟨b, -, rfl⟩ := List.mem_map.mp ((a.perm_clusters servers).mem_iff.mp hc)
    have hnames : ((Bucket.toCluster b).nodes.map TopologyNode.node).Nodup :=
      ((List.perm_insertionSort _ b.nodes.rows).map TopologyNode.node).nodup_iff.mpr
        b.nodes.keys_nodup
    exact (List.pairwise_map.mp hnames).imp fun hne h => absurd h hne
  · refine (List.pairwise_map.mp (a.clusters_nodup servers)).imp_of_mem ?_
    intro c c' hc hc' hne n hn n' hn' _ hserver
    rw [← nodesOf_of_mem hc] at hn
    rw [← nodesOf_of_mem hc'] at hn'
    obtain ⟨s, hs, hkey, hid, -⟩ := contribution_of_nodeIn (mem_nodesOf_clusters.mp hn)
    obtain ⟨s', hs', hkey', hid', -⟩ := contribution_of_nodeIn (mem_nodesOf_clusters.mp hn')
    have hsame : s = s' :=
      List.inj_on_of_nodup_map hnodup hs hs' (hid.symm.trans (hserver.trans hid'))
    exact hne (hkey.symm.trans ((congrArg bucketKey hsame).trans hkey'))

end Shown

end Assembly

/-- The guests of a response. -/
def NetworkTopologyResponse.guests (r : NetworkTopologyResponse) : List TopologyGuest :=
  (r.clusters.flatMap TopologyCluster.nodes).flatMap TopologyNode.guests

namespace Tenancy

variable (t : Tenancy)

/-- The page shows the guest of this number of the installation once. -/
def ShownOnce (i : Nat) (vmid : Vmid) : Prop :=
  ∃ r, t.page.1 = .ok r ∧
    (r.guests.filter fun g => decide (t.site g.serverId = i ∧ g.vmid = vmid)).length = 1

/-- The response to `/api/resources/all` contains it. -/
def Listed (i : Nat) (vmid : Vmid) : Prop :=
  ∃ entries vms containers, t.resources.reply = .ok (.allResources entries vms containers) ∧
    ∃ e ∈ entries, t.site e.id = i ∧ ∃ d ∈ e.vms ++ e.containers, d.get "vmid" = .number vmid

/-- The tenant is shown every guest once and finds it among the resources. -/
def Complete : Prop :=
  ∀ r i g, t.Owned r → t.RowOf r i g → t.ShownOnce i g.vmid ∧ t.Listed i g.vmid

/-- The connections in the order in which they are merged. -/
def connections : List ProxmoxServer := queriedServers t.moment t.user t.header t.query

/-- The connection reports a node of this name. -/
def reports (name : String) (s : ProxmoxServer) : Bool :=
  (t.answers (t.site s.id)).nodeNames.contains name

/-- The tenant has a row under the id of the connection. -/
def ownsRow (sid : ServerId) (vmid : Vmid) : Bool :=
  t.after.vms.rows.any fun r =>
    r.live && decide (r.ownerId = some t.user.id) && decide (r.key = (sid, vmid))

/-- The connection to the guest's installation has the row under its own id and is, by name, the
first one of its cluster name that reports the guest's node. -/
def carries (i : Nat) (g : GuestResource) (s : ProxmoxServer) : Bool :=
  decide (t.site s.id = i) && t.ownsRow s.id g.vmid &&
    decide (((t.connections.find? fun s' =>
      decide (Assembly.bucketKey s' = Assembly.bucketKey s) && t.reports (g.node.getD "") s').map
        ProxmoxServer.id) = some s.id)

/-- For every guest of the tenant one connection carries it. -/
def Carried : Prop :=
  ∀ r i g, t.Owned r → t.RowOf r i g → (t.connections.filter (t.carries i g)).length = 1

/-! ### The rows after the tick -/

section Rows

variable {t}

theorem servers_after : t.after.servers = t.before.servers := Sync.syncVmCache_servers

theorem mem_onlineServers {s : ProxmoxServer} (hs : s ∈ t.before.servers.rows) :
    s ∈ Sync.onlineServers t.before :=
  Sync.mem_onlineServers.mpr ⟨hs, (t.online s hs).1⟩

/-- A live row of a registered server is not a template's after the tick. -/
theorem isTemplate_after {r : VMInstance} (hr : r ∈ t.after.vms.rows) (hlive : r.live = true)
    (hserver : ∃ s ∈ t.before.servers.rows, s.id = r.serverId) : r.isTemplate = false := by
  have hfind := t.after.vms.find?_key hr
  by_cases hshown : Sync.Shown t.env t.before r.key
  · obtain ⟨f, hf, -, hrow⟩ := Sync.syncVmCache_find?_of_shown t.last rfl hshown
    have heq : r = _ := Option.some.inj (hfind.symm.trans hrow)
    obtain ⟨s, -, ⟨rs, -, -, -, htemplate⟩, -⟩ := Sync.mem_collect hf
    rw [heq]
    cases t.before.vms.find? r.key with
    | none => exact htemplate
    | some old => exact htemplate
  · have hrow : t.after.vms.find? r.key = _ :=
      Sync.syncVmCache_find?_of_not_shown rfl hshown
    obtain ⟨old, -, hold⟩ := Option.map_eq_some_iff.mp (hrow.symm.trans hfind)
    split at hold
    · subst hold
      cases hlive
    · rename_i hstale
      subst hold
      obtain ⟨s, hs, hid⟩ := hserver
      refine absurd (Sync.isStale_iff.mpr ⟨hlive, ?_, hshown⟩) hstale
      exact hid ▸ Sync.online_of_mem (mem_onlineServers hs)

end Rows

/-! ### The page -/

section Page

variable {t} {s : ProxmoxServer}

theorem mem_connections : s ∈ t.connections ↔ s ∈ t.before.servers.rows := by
  unfold connections queriedServers
  rw [List.mem_insertionSort, List.mem_filter]
  change s ∈ t.after.servers.rows ∧ _ ↔ _
  rw [servers_after]
  refine and_iff_left_of_imp fun hs => ?_
  change (sees _ s.id && true) = true
  rw [Bool.and_true]
  exact t.visible s hs

theorem connections_nodup : (t.connections.map ProxmoxServer.id).Nodup := by
  unfold connections queriedServers
  refine ((List.perm_insertionSort _ _).map ProxmoxServer.id).nodup_iff.mpr ?_
  exact t.moment.servers.keys_nodup.sublist (List.filter_sublist.map _)

/-- The assembly of the page. -/
def assembled (t : Tenancy) : Assembly :=
  assembly t.moment t.user t.query t.now t.caches t.connections

/-- The page is answered with the assembled clusters. -/
theorem page_eq (hs : s ∈ t.connections) :
    ∃ r, t.page.1 = .ok r ∧ r.clusters = t.assembled.clusters t.connections := by
  have hpermitted : (!hasPermission t.user "network:view") = false := by rw [t.permitted.1]; rfl
  have hsees := t.visible s (mem_connections.mp hs)
  have hsome : ((getVisibleServerIds t.workspaces t.user t.header).any fun ids =>
      decide (ids.card = 0)) = false := by
    unfold sees at hsees
    cases hids : getVisibleServerIds t.workspaces t.user t.header with
    | none => rfl
    | some ids =>
      rw [hids] at hsees
      have hmem : s.id ∈ ids := of_decide_eq_true hsees
      have hcard : ids.card ≠ 0 := Finset.card_ne_zero_of_mem hmem
      exact decide_eq_false hcard
  have hconnections : (queriedServers t.moment t.user t.header t.query).isEmpty = false := by
    rw [List.isEmpty_eq_false_iff]
    exact List.ne_nil_of_mem hs
  refine ⟨response t.moment t.user t.query t.now t.caches t.connections, ?_, rfl⟩
  unfold page getNetworkTopology
  dsimp only
  rw [hpermitted, show t.moment.workspaces = t.workspaces from rfl, hsome, hconnections]
  rfl

/-- Every connection is live, with what its installation answers. -/
theorem live_assembled (hs : s ∈ t.connections) :
    ∃ b, t.assembled.live s.id = some ((t.answers (t.site s.id)).data b) := by
  have hserver := t.online s (mem_connections.mp hs)
  have hlistings : ∀ p ∈ liveListings t.moment t.query t.now t.caches t.connections,
      ∃ b, p.2 = (t.answers (t.site p.1)).data b := by
    intro p hp
    rcases List.mem_append.mp hp with hcached | hcollected
    · obtain ⟨s', -, hs'⟩ := List.mem_filterMap.mp hcached
      obtain ⟨data, hdata, rfl⟩ := Option.map_eq_some_iff.mp hs'
      obtain ⟨e, he, rfl⟩ := Option.map_eq_some_iff.mp hdata
      exact t.cached s'.id e (Option.filter_eq_some_iff.mp he).1
    · obtain ⟨p', hp', hsome⟩ := List.mem_filterMap.mp hcollected
      obtain ⟨s', hs', rfl⟩ := List.mem_map.mp hp'
      obtain ⟨data, hdata, rfl⟩ := Option.map_eq_some_iff.mp hsome
      have hserver' := t.online s' (mem_connections.mp (List.mem_filter.mp hs').1)
      have hcollect : collectServer s' (t.answers (t.site s'.id)) t.includeBridges =
          .ok ((t.answers (t.site s'.id)).data t.includeBridges) := by
        unfold collectServer
        rw [hserver'.2, t.answered]
        rfl
      refine ⟨t.includeBridges, ?_⟩
      change (collectServer s' (t.answers (t.site s'.id)) t.includeBridges).toOption = _ at hdata
      rw [hcollect] at hdata
      exact (Option.some.inj hdata).symm
  have hthere : ∃ p ∈ liveListings t.moment t.query t.now t.caches t.connections, p.1 = s.id := by
    cases hfresh : freshListing t.now t.caches s.id with
    | some data =>
      exact ⟨(s.id, data), List.mem_append_left _ (List.mem_filterMap.mpr
        ⟨s, hs, by rw [hfresh]; rfl⟩), rfl⟩
    | none =>
      have hstale : s ∈ staleServers t.now t.caches t.connections := by
        refine List.mem_filter.mpr ⟨hs, ?_⟩
        rw [hfresh, hserver.1]
        rfl
      have hcollect : collectServer s (t.moment.answers s.id) t.includeBridges =
          .ok ((t.answers (t.site s.id)).data t.includeBridges) := by
        have hraised : (t.moment.answers s.id).raised = none := t.answered _
        unfold collectServer
        rw [hserver.2, hraised]
        rfl
      refine ⟨(s.id, (t.answers (t.site s.id)).data t.includeBridges),
        List.mem_append_right _ (List.mem_filterMap.mpr ⟨_, List.mem_map_of_mem hstale, ?_⟩), rfl⟩
      change Option.map _ (collectServer s (t.moment.answers s.id) t.includeBridges).toOption = _
      rw [hcollect]
      rfl
  change ∃ b, liveOf t.moment t.query t.now t.caches t.connections s.id = _
  unfold liveOf
  cases hfind : (liveListings t.moment t.query t.now t.caches t.connections).find? fun p =>
      decide (p.1 = s.id) with
  | none =>
    obtain ⟨p, hp, hid⟩ := hthere
    exact absurd (decide_eq_true hid) (List.find?_eq_none.mp hfind p hp)
  | some p =>
    have hid : p.1 = s.id := by simpa using List.find?_some hfind
    obtain ⟨b, hb⟩ := hlistings p (List.mem_of_find?_eq_some hfind)
    exact ⟨b, by rw [Option.map_some, hb, hid]⟩

/-- What a connection contributes under a name: its own node, where it reports it. -/
theorem find?_contributed (hs : s ∈ t.connections) (name : String) :
    ∃ data b, data = (t.answers (t.site s.id)).data b ∧
      if t.reports name s then ∃ res, (t.assembled.contributed s).find? (fun n =>
        decide (n.node = name)) = some (t.assembled.liveNode s data name res)
      else (t.assembled.contributed s).find? (fun n => decide (n.node = name)) = none := by
  obtain ⟨b, hlive⟩ := live_assembled hs
  refine ⟨_, b, rfl, ?_⟩
  have hcontributed : t.assembled.contributed s = (t.answers (t.site s.id)).nodes.filterMap fun res =>
      if truthy res.node then some (t.assembled.liveNode s ((t.answers (t.site s.id)).data b)
        (res.node.getD "") res) else none := by
    unfold Assembly.contributed
    rw [hlive]
    rfl
  have hreports : t.reports name s = true ↔
      ∃ res ∈ (t.answers (t.site s.id)).nodes, truthy res.node = true ∧ res.node = some name := by
    unfold reports ServerAnswers.nodeNames
    rw [List.contains_iff_mem, List.mem_filterMap]
    refine exists_congr fun res => and_congr_right fun _ => ?_
    split
    · rename_i h
      exact (and_iff_right h).symm
    · rename_i h
      exact iff_of_false (fun h' => nomatch h') fun h' => h h'.1
  rw [hcontributed]
  split
  · rename_i h
    obtain ⟨res, hres, htruthy, hname⟩ := hreports.mp h
    cases hfind : ((t.answers (t.site s.id)).nodes.filterMap fun res =>
        if truthy res.node then some (t.assembled.liveNode s ((t.answers (t.site s.id)).data b)
          (res.node.getD "") res) else none).find? fun n => decide (n.node = name) with
    | none =>
      have hmem : t.assembled.liveNode s ((t.answers (t.site s.id)).data b) (res.node.getD "") res ∈
          (t.answers (t.site s.id)).nodes.filterMap fun res =>
            if truthy res.node then some (t.assembled.liveNode s ((t.answers (t.site s.id)).data b)
              (res.node.getD "") res) else none :=
        List.mem_filterMap.mpr ⟨res, hres, if_pos htruthy⟩
      have hnode : (t.assembled.liveNode s ((t.answers (t.site s.id)).data b)
          (res.node.getD "") res).node = name := by rw [hname]; rfl
      exact absurd (decide_eq_true hnode) (List.find?_eq_none.mp hfind _ hmem)
    | some n =>
      obtain ⟨res', -, hres'⟩ := List.mem_filterMap.mp (List.mem_of_find?_eq_some hfind)
      have hname' : n.node = name := by simpa using List.find?_some hfind
      split at hres'
      · obtain rfl := Option.some.inj hres'
        have hnode : res'.node.getD "" = name := hname'
        exact ⟨res', by rw [hnode]⟩
      · cases hres'
  · rename_i h
    refine List.find?_eq_none.mpr fun n hn => ?_
    obtain ⟨res, hres, hsome⟩ := List.mem_filterMap.mp hn
    split at hsome
    · rename_i htruthy
      obtain rfl := Option.some.inj hsome
      rw [decide_eq_true_eq]
      intro hname
      have hnode : res.node.getD "" = name := hname
      refine h (hreports.mpr ⟨res, hres, htruthy, ?_⟩)
      cases hsome' : res.node with
      | none =>
        rw [hsome'] at htruthy
        cases htruthy
      | some name' =>
        rw [hsome'] at hnode
        exact congrArg some hnode
    · cases hsome

/-- The tenant sees the keys of the own rows. -/
theorem visible_assembled (hs : s ∈ t.connections) (vmid : Vmid) :
    t.assembled.visible (s.id, vmid) = t.ownsRow s.id vmid := by
  have hiff : (t.assembled.row (s.id, vmid)).isSome = true ↔ t.ownsRow s.id vmid = true := by
    unfold Assembly.row ownsRow
    rw [List.find?_isSome, List.any_eq_true]
    constructor
    · rintro ⟨r, hr, hkey⟩
      obtain ⟨hmem, hown⟩ := List.mem_filter.mp (List.mem_reverse.mp hr)
      obtain ⟨r', hr', rfl⟩ := List.mem_map.mp hmem
      rw [t.tenant, Bool.false_or, Bool.and_eq_true, Bool.and_eq_true] at hown
      refine ⟨r', hr', ?_⟩
      rw [Bool.and_eq_true, Bool.and_eq_true]
      exact ⟨⟨hown.1.1, hown.2⟩, hkey⟩
    · rintro ⟨r, hr, hown⟩
      rw [Bool.and_eq_true, Bool.and_eq_true] at hown
      have hserver : r.serverId = s.id := congrArg Prod.fst (of_decide_eq_true hown.2)
      refine ⟨⟨r, t.tags r, t.username r⟩, List.mem_reverse.mpr (List.mem_filter.mpr
        ⟨List.mem_map_of_mem hr, ?_⟩), hown.2⟩
      rw [t.tenant, Bool.false_or, Bool.and_eq_true, Bool.and_eq_true]
      refine ⟨⟨hown.1.1, ?_⟩, hown.1.2⟩
      rw [List.contains_iff_mem]
      exact List.mem_map.mpr ⟨s, hs, hserver.symm⟩
  change (canViewAllInstances t.user || _) = _
  rw [t.tenant, Bool.false_or]
  exact Bool.eq_iff_iff.mpr hiff

/-- The row of a key that the tenant sees is not a template's. -/
theorem isTemplate_row (hs : s ∈ t.connections) {vmid : Vmid} {r : GuestRow}
    (h : t.assembled.row (s.id, vmid) = some r) : r.isTemplate = false := by
  unfold Assembly.row at h
  have hkey : r.rowKey = (s.id, vmid) := by simpa using List.find?_some h
  obtain ⟨hmem, hown⟩ := List.mem_filter.mp (List.mem_reverse.mp (List.mem_of_find?_eq_some h))
  obtain ⟨r', hr', rfl⟩ := List.mem_map.mp hmem
  rw [Bool.and_eq_true, Bool.and_eq_true] at hown
  exact isTemplate_after hr' hown.1.1
    ⟨s, mem_connections.mp hs, (congrArg Prod.fst hkey).symm⟩

/-- On a node of its installation the guest has a card exactly where the guest is on the node and
the tenant has the row of the connection. -/
theorem cards_liveNode (hs : s ∈ t.connections) {i : Nat} (hsite : t.site s.id = i)
    {g : GuestResource} (hg : g ∈ (t.answers i).guests) (htemplate : g.template = false)
    (name : String) (b : Bool) (res : NodeResource) :
    ((t.assembled.liveNode s ((t.answers (t.site s.id)).data b) name res).guests.filter fun c =>
        decide (t.site c.serverId = i ∧ c.vmid = g.vmid)).length =
      if g.node = some name ∧ t.ownsRow s.id g.vmid = true then 1 else 0 := by
  subst hsite
  have hbuild : ∀ g' ∈ t.assembled.guestsOn s ((t.answers (t.site s.id)).data b) name,
      ((t.assembled.buildGuest s.id name (some g') (t.assembled.row (s.id, g'.vmid))).filter fun c =>
        decide (t.site c.serverId = t.site s.id ∧ c.vmid = g.vmid)).isSome = true ↔
          decide (g'.vmid = g.vmid) = true := by
    intro g' hg'
    rw [decide_eq_true_eq]
    constructor
    · intro h
      obtain ⟨c, hc⟩ := Option.isSome_iff_exists.mp h
      obtain ⟨hcard, hvmid⟩ := Option.filter_eq_some_iff.mp hc
      exact (Assembly.of_buildGuest hcard).2.symm.trans (of_decide_eq_true hvmid).2
    · intro hvmid
      obtain rfl : g' = g := List.inj_on_of_nodup_map (t.vmids_nodup (t.site s.id))
        (List.mem_filter.mp hg').1 hg hvmid
      have hrow : ((t.assembled.row (s.id, g'.vmid)).any fun r => r.isTemplate) = false := by
        cases hr : t.assembled.row (s.id, g'.vmid) with
        | none => rfl
        | some r => exact isTemplate_row hs hr
      obtain ⟨c, hc, hserver, hcard⟩ : ∃ c, t.assembled.buildGuest s.id name (some g')
          (t.assembled.row (s.id, g'.vmid)) = some c ∧ c.serverId = s.id ∧ c.vmid = g'.vmid :=
        Assembly.buildGuest_of_guest name htemplate hrow rfl
      rw [hc, Option.isSome_iff_exists]
      refine ⟨c, Option.filter_eq_some_iff.mpr ⟨rfl, decide_eq_true ⟨?_, hcard⟩⟩⟩
      rw [hserver]
  change ((Assembly.sortGuests _).filter _).length = _
  unfold Assembly.sortGuests
  rw [((List.perm_insertionSort _ _).filter _).length_eq, List.filter_filterMap,
    List.length_filterMap_eq_countP, List.countP_congr hbuild]
  unfold Assembly.guestsOn
  rw [List.countP_filter]
  have hcount := countP_key (t.vmids_nodup (t.site s.id)) hg fun g' =>
    decide (g'.node = some name) && t.assembled.visible (s.id, g'.vmid)
  refine hcount.trans ?_
  rw [visible_assembled hs]
  simp only [Bool.and_eq_true, decide_eq_true_eq]

/-- A reported node has a name. -/
theorem ne_empty_of_reports {name : String} (h : t.reports name s = true) : name ≠ "" := by
  unfold reports ServerAnswers.nodeNames at h
  rw [List.contains_iff_mem, List.mem_filterMap] at h
  obtain ⟨res, -, hname⟩ := h
  split at hname
  · rename_i htruthy
    rw [hname] at htruthy
    exact of_decide_eq_true htruthy
  · cases hname

/-- The connection that is credited with a node is the first one of the cluster that reports it. -/
theorem serverId_nodeIn (key name : String) :
    (Assembly.nodeIn (t.assembled.merge t.connections) key name).map TopologyNode.serverId =
      (t.connections.find? fun s => decide (Assembly.bucketKey s = key) && t.reports name s).map
        ProxmoxServer.id := by
  have hcontribution : ∀ s ∈ t.connections, (t.assembled.contribution key name s).isSome =
      (decide (Assembly.bucketKey s = key) && t.reports name s) := by
    intro s hs
    obtain ⟨data, b, -, hfind⟩ := find?_contributed hs name
    unfold Assembly.contribution
    by_cases hkey : Assembly.bucketKey s = key
    · rw [if_pos hkey, decide_eq_true hkey, Bool.true_and]
      cases hreports : t.reports name s with
      | true =>
        rw [hreports, if_pos rfl] at hfind
        obtain ⟨res, hres⟩ := hfind
        rw [hres]
        rfl
      | false =>
        rw [hreports, if_neg Bool.false_ne_true] at hfind
        rw [hfind]
        rfl
    · rw [if_neg hkey, decide_eq_false hkey]
      rfl
  rw [Assembly.nodeIn_merge, findSome?_eq_bind_find?, List.find?_congr hcontribution]
  cases hfind : t.connections.find? fun s =>
      decide (Assembly.bucketKey s = key) && t.reports name s with
  | none => rfl
  | some s =>
    have hs := List.mem_of_find?_eq_some hfind
    have hreports := List.find?_some hfind
    have hsome : (t.assembled.contribution key name s).isSome = true :=
      (hcontribution s hs).trans hreports
    obtain ⟨n, hn⟩ := Option.isSome_iff_exists.mp hsome
    have hserver := Assembly.serverId_of_mem_contributed
      (List.mem_of_find?_eq_some (Assembly.contribution_eq_some_iff.mp hn).2)
    rw [Option.bind_some, hn, Option.map_some, Option.map_some, hserver]

/-- A shown node is a connection's own. -/
theorem live_of_shown {n : TopologyNode} (hn : n ∈ t.assembled.shown t.connections) :
    ∃ s ∈ t.connections,
      Assembly.nodeIn (t.assembled.merge t.connections) (Assembly.bucketKey s) n.node = some n ∧
        ∃ b res, n = t.assembled.liveNode s ((t.answers (t.site s.id)).data b) n.node res := by
  obtain ⟨key, hkey⟩ := Assembly.mem_shown.mp hn
  obtain ⟨s, hs, rfl, -, hcontributed⟩ := Assembly.contribution_of_nodeIn hkey
  refine ⟨s, hs, hkey, ?_⟩
  obtain ⟨data, b, rfl, hfind⟩ := find?_contributed hs n.node
  rw [hcontributed] at hfind
  split at hfind
  · obtain ⟨res, hres⟩ := hfind
    exact ⟨b, res, Option.some.inj hres⟩
  · cases hfind

/-- The node shows the guest of an installation. -/
def holds (t : Tenancy) (i : Nat) (g : GuestResource) (n : TopologyNode) : Bool :=
  decide (t.site n.serverId = i ∧ g.node = some n.node) && t.ownsRow n.serverId g.vmid

/-- A shown node has one card of the guest or none. -/
theorem cards_shown {i : Nat} {g : GuestResource} (hg : g ∈ (t.answers i).guests)
    (htemplate : g.template = false) {n : TopologyNode}
    (hn : n ∈ t.assembled.shown t.connections) :
    n.guests.countP (fun c => decide (t.site c.serverId = i ∧ c.vmid = g.vmid)) =
      if t.holds i g n then 1 else 0 := by
  obtain ⟨s, hs, -, b, res, hlive⟩ := live_of_shown hn
  have hserver : n.serverId = s.id := congrArg TopologyNode.serverId hlive
  unfold holds
  rw [hserver]
  by_cases hsite : t.site s.id = i
  · rw [List.countP_eq_length_filter, hlive, cards_liveNode hs hsite hg htemplate]
    simp [hsite, Assembly.liveNode]
  · have hnone : n.guests.countP (fun c => decide (t.site c.serverId = i ∧ c.vmid = g.vmid)) = 0 := by
      refine List.countP_eq_zero.mpr fun c hc hcard => ?_
      rw [hlive] at hc
      obtain ⟨g', -, hbuilt⟩ := List.mem_filterMap.mp ((List.mem_insertionSort _).mp hc)
      rw [decide_eq_true_eq, (Assembly.of_buildGuest hbuilt).1] at hcard
      exact hsite hcard.1
    rw [hnone]
    simp [hsite]

/-- The connections that carry a guest are the ones credited with the nodes that show it. -/
theorem perm_carries (i : Nat) (g : GuestResource) :
    (((t.assembled.shown t.connections).filter (t.holds i g)).map TopologyNode.serverId).Perm
      ((t.connections.filter (t.carries i g)).map ProxmoxServer.id) := by
  have hshown := t.assembled.pairwise_shown (@connections_nodup t)
  have hnodup : (((t.assembled.shown t.connections).filter (t.holds i g)).map
      TopologyNode.serverId).Nodup := by
    refine List.pairwise_map.mpr ((hshown.filter _).imp_of_mem ?_)
    intro n n' hn hn' hne
    have hholds := (List.mem_filter.mp hn).2
    have hholds' := (List.mem_filter.mp hn').2
    unfold holds at hholds hholds'
    rw [Bool.and_eq_true, decide_eq_true_eq] at hholds hholds'
    exact hne (Option.some.inj (hholds.1.2.symm.trans hholds'.1.2))
  rw [List.perm_ext_iff_of_nodup hnodup (connections_nodup.sublist (List.filter_sublist.map _))]
  intro sid
  rw [List.mem_map, List.mem_map]
  unfold carries
  constructor
  · rintro ⟨n, hn, rfl⟩
    obtain ⟨hmem, hholds⟩ := List.mem_filter.mp hn
    obtain ⟨s, hs, hnode, b, res, hlive⟩ := live_of_shown hmem
    have hserver : n.serverId = s.id := congrArg TopologyNode.serverId hlive
    unfold holds at hholds
    rw [Bool.and_eq_true, decide_eq_true_eq, hserver] at hholds
    refine ⟨s, List.mem_filter.mpr ⟨hs, ?_⟩, hserver.symm⟩
    rw [Bool.and_eq_true, Bool.and_eq_true, decide_eq_true_eq, decide_eq_true_eq, hholds.1.2,
      Option.getD_some, ← serverId_nodeIn, hnode, Option.map_some, hserver]
    exact ⟨⟨hholds.1.1, hholds.2⟩, rfl⟩
  · rintro ⟨s, hs, rfl⟩
    obtain ⟨hmem, hcarries⟩ := List.mem_filter.mp hs
    rw [Bool.and_eq_true, Bool.and_eq_true, decide_eq_true_eq, decide_eq_true_eq] at hcarries
    obtain ⟨⟨hsite, howns⟩, hfirst⟩ := hcarries
    obtain ⟨s', hfind, -⟩ := Option.map_eq_some_iff.mp hfirst
    have hreports := List.find?_some hfind
    rw [Bool.and_eq_true] at hreports
    have hname : g.node = some (g.node.getD "") := by
      cases hnode : g.node with
      | none =>
        rw [hnode] at hreports
        exact absurd rfl (ne_empty_of_reports hreports.2)
      | some name => rfl
    rw [← serverId_nodeIn] at hfirst
    obtain ⟨n, hnode, hserver⟩ := Option.map_eq_some_iff.mp hfirst
    obtain ⟨s₁, -, -, -, hcontributed⟩ := Assembly.contribution_of_nodeIn hnode
    have hn : n.node = g.node.getD "" := by simpa using List.find?_some hcontributed
    refine ⟨n, List.mem_filter.mpr ⟨Assembly.mem_shown.mpr ⟨_, hn ▸ hnode⟩, ?_⟩, hserver⟩
    unfold holds
    rw [Bool.and_eq_true, decide_eq_true_eq, hserver, hn]
    exact ⟨⟨hsite, hname⟩, howns⟩

/-- A page has as many cards of a guest as connections carry it. -/
theorem length_cards {i : Nat} {g : GuestResource} (hg : g ∈ (t.answers i).guests)
    (htemplate : g.template = false) {r : NetworkTopologyResponse}
    (hr : r.clusters = t.assembled.clusters t.connections) :
    (r.guests.filter fun c => decide (t.site c.serverId = i ∧ c.vmid = g.vmid)).length =
      (t.connections.filter (t.carries i g)).length := by
  have hcount : ∀ nodes : List TopologyNode, (∀ n ∈ nodes, n ∈ t.assembled.shown t.connections) →
      (nodes.flatMap TopologyNode.guests).countP
        (fun c => decide (t.site c.serverId = i ∧ c.vmid = g.vmid)) = nodes.countP (t.holds i g) := by
    intro nodes hnodes
    induction nodes with
    | nil => rfl
    | cons n nodes ih =>
      rw [List.flatMap_cons, List.countP_append, List.countP_cons,
        ih fun n' hn' => hnodes n' (List.mem_cons_of_mem n hn'),
        cards_shown hg htemplate (hnodes n List.mem_cons_self), Nat.add_comm]
  have hguests : r.guests = (t.assembled.shown t.connections).flatMap TopologyNode.guests := by
    unfold NetworkTopologyResponse.guests
    rw [hr]
    rfl
  rw [hguests, ← List.countP_eq_length_filter, hcount _ fun _ hn => hn,
    List.countP_eq_length_filter]
  simpa using (perm_carries i g).length_eq

/-! ### All resources -/

/-- A listed guest is among the visible ones where the tenant has its row. -/
theorem mem_visibleGuests {sid : ServerId} {vmid : Vmid} (howns : t.ownsRow sid vmid = true)
    {guests : List Dict} {d : Dict} (hd : d ∈ guests) (hvmid : d.get "vmid" = .number vmid) :
    d ∈ Servers.visibleGuests t.after t.user sid guests := by
  unfold ownsRow at howns
  rw [List.any_eq_true] at howns
  obtain ⟨r, hr, howns⟩ := howns
  rw [Bool.and_eq_true, Bool.and_eq_true, decide_eq_true_eq, decide_eq_true_eq] at howns
  obtain ⟨⟨hlive, howner⟩, hkey⟩ := howns
  have hserver : r.serverId = sid := congrArg Prod.fst hkey
  have hrow : r.vmid = vmid := congrArg Prod.snd hkey
  have howned : vmid ∈ Servers.getOwnedVmids t.after t.user sid := by
    refine List.mem_map.mpr ⟨r, List.mem_filter.mpr ⟨hr, ?_⟩, hrow⟩
    rw [Bool.and_eq_true, decide_eq_true_eq]
    exact ⟨⟨howner, hserver⟩, hlive⟩
  unfold Servers.visibleGuests
  rw [t.tenant, if_neg Bool.false_ne_true]
  refine List.mem_filter.mpr ⟨hd, ?_⟩
  unfold Servers.ownedBy
  rw [hvmid]
  exact decide_eq_true (List.mem_map_of_mem howned)

/-- A guest is among the resources where a connection to its installation has the tenant's row. -/
theorem listed_of_ownsRow (hs : s ∈ t.connections) (vmid : Vmid)
    (hguest : ∃ g ∈ (t.answers (t.site s.id)).guests, g.vmid = vmid)
    (howns : t.ownsRow s.id vmid = true) : t.Listed (t.site s.id) vmid := by
  obtain ⟨r, hreply, hlist⟩ := t.replies_list s (mem_connections.mp hs)
  obtain ⟨d, hd, hvmid⟩ := (hlist vmid).mpr hguest
  have hserver : s ∈ t.resources.servers := by
    refine List.mem_mergeSort.mpr (List.mem_filter.mpr ⟨?_, t.visible s (mem_connections.mp hs)⟩)
    change s ∈ t.after.servers.rows
    rw [servers_after]
    exact mem_connections.mp hs
  refine ⟨_, _, _, Monitoring.reply_of_permitted t.permitted.2,
    Servers.serverEntry t.resources.db t.user s (.ok r), ?_, rfl, d, ?_, hvmid⟩
  · refine List.mem_map.mpr ⟨s, hserver, ?_⟩
    exact congrArg (Servers.serverEntry t.resources.db t.user s) hreply
  · rcases List.mem_append.mp hd with hd | hd
    · exact List.mem_append_left _ (mem_visibleGuests howns hd hvmid)
    · exact List.mem_append_right _ (mem_visibleGuests howns hd hvmid)

/-! ### Shown once -/

theorem shownOnce_iff {i : Nat} {g : GuestResource} (hg : g ∈ (t.answers i).guests)
    (htemplate : g.template = false) (hs : s ∈ t.connections) :
    t.ShownOnce i g.vmid ↔ (t.connections.filter (t.carries i g)).length = 1 := by
  obtain ⟨r, hpage, hclusters⟩ := page_eq hs
  have hcards := length_cards hg htemplate hclusters
  unfold ShownOnce
  rw [hpage]
  constructor
  · rintro ⟨r', hr', hlength⟩
    obtain rfl := Except.ok.inj hr'
    exact hcards.symm.trans hlength
  · intro hlength
    exact ⟨r, rfl, hcards.trans hlength⟩

theorem listed_of_carries {i : Nat} {g : GuestResource} (hg : g ∈ (t.answers i).guests)
    (hs : s ∈ t.connections) (hcarries : t.carries i g s = true) : t.Listed i g.vmid := by
  unfold carries at hcarries
  rw [Bool.and_eq_true, Bool.and_eq_true, decide_eq_true_eq] at hcarries
  obtain ⟨⟨rfl, howns⟩, -⟩ := hcarries
  exact listed_of_ownsRow hs g.vmid ⟨g, hg, rfl⟩ howns

/-- A tenant is shown every guest once and finds it among the resources exactly when for every
guest one connection carries it. -/
theorem tenancy_complete_iff (t : Tenancy) : t.Complete ↔ t.Carried := by
  refine forall_congr' fun r => forall_congr' fun i => forall_congr' fun g => forall_congr' fun _ =>
    forall_congr' fun hrow => ?_
  obtain ⟨hg, htemplate, -, s, hs, -⟩ := hrow
  have honce := shownOnce_iff hg htemplate (mem_connections.mpr hs)
  refine ⟨fun h => honce.mp h.1, fun h => ⟨honce.mpr h, ?_⟩⟩
  obtain ⟨s', hs'⟩ := List.exists_mem_of_length_pos (h ▸ Nat.one_pos)
  obtain ⟨hmem, hcarries⟩ := List.mem_filter.mp hs'
  exact listed_of_carries hg hmem hcarries

end Page

/-! ### Names against ids -/

/-- A tenant who may open the page and list guests. -/
def carol : User where
  id := 7
  username := "carol"
  isAdmin := false
  role := some ⟨"user",
    (KeyedTable.empty.save ("network:view", true)).save ("vm:view", true)⟩
  assignedServers := [1, 2]

def prodGuest : GuestResource :=
  ⟨⟨.qemu, 100, some "web", some "pve1", some "running", false, none, none, none, none, none⟩,
    none, none, none, none, none, none⟩

def prodRow : VMInstance :=
  ⟨1, 100, "pve1", .qemu, "web", some 7, "running", false, none, none, none, none, none, none,
    none, none, none, none, none, none, none, none, none, none, none⟩

/-- Two nodes, and a guest on the first one. -/
def prodAnswers : ServerAnswers :=
  ⟨none, [.node ⟨some "pve1", some "online", none, none, none, none, none⟩,
      .node ⟨some "pve2", some "online", none, none, none, none, none⟩, .guest prodGuest],
    [], [], fun _ => [], fun _ _ _ => []⟩

def prodReplies : (c : RouterCall ServersRouter) → c.Answer
  | .isConnected _ => true
  | .request _ op =>
    match op with
    | .checkConnection => ⟨true, none, none⟩
    | .isCluster => true
    | .getNodes => []
    | .getNodeStorages _ => []
    | .getNodeStatus _ => none
    | .getNodeRrddata _ _ => []
    | .getProxmoxResources _ => .ok ⟨[[("vmid", .number 100)]], []⟩
    | .provisionApiToken _ => .error ""
    | .revokeApiToken _ => false
  | .effect e =>
    match e with
    | .insertServer _ | .updateServer _ => .ok ()
    | .testCredentials _ => .error ""
    | .provisionApiToken _ _ => .error ""
    | .revokeApiToken _ _ => false
    | .saveStatus _ | .deleteServer _ _ | .clearServerCache _ | .cleanupServerState _
    | .syncVmCache | .broadcast .. => ()

/-- Of two connections to a cluster the second registered one comes first by name. -/
def crossed : Tenancy where
  before :=
    { servers := ⟨[Assembly.member 1 "zeta", Assembly.member 2 "alpha"], by decide⟩
      vms := ⟨[prodRow], by decide⟩
      ipam := ⟨.empty, []⟩ }
  last := .empty
  view := fun _ => Sync.silentView
  syncTime := 0
  clock := 0
  site := fun _ => 0
  answers := fun _ => prodAnswers
  vmids_nodup := fun _ => by decide
  answered := fun _ => rfl
  online := by decide
  user := carol
  tenant := by decide
  permitted := by decide
  workspaces := ⟨.empty, [], []⟩
  header := none
  visible := by decide
  tags := fun _ => none
  username := fun _ => none
  networks := []
  nameOrder := fun a b => decide (a ≤ b)
  includeBridges := true
  includeNics := true
  now := 0
  caches := ⟨fun _ => none, fun _ => none⟩
  cached := fun _ _ h => nomatch h
  nextServerId := 3
  nextServerId_fresh := by decide
  replies := prodReplies
  replies_list := by
    intro s _
    refine ⟨_, rfl, fun vmid => ?_⟩
    have hguests : prodAnswers.guests = [prodGuest] := rfl
    have hvmid : Dict.get [("vmid", Json.number 100)] "vmid" = Json.number 100 := rfl
    simp only [hguests, List.append_nil, List.mem_singleton, exists_eq_left, hvmid,
      Json.number.injEq]
    exact Int.ofNat_inj

/-- The guest is listed under the first connection's id, and the nodes are credited to the
second one. -/
theorem crossed_not_complete : ¬crossed.Complete := by
  intro h
  have howns : crossed.ownsRow 1 100 = true := by decide +kernel
  obtain ⟨r, hr, hown⟩ := List.any_eq_true.mp howns
  rw [Bool.and_eq_true, Bool.and_eq_true, decide_eq_true_eq, decide_eq_true_eq] at hown
  obtain ⟨⟨hlive, howner⟩, hkey⟩ := hown
  have hs : Assembly.member 1 "zeta" ∈ crossed.before.servers.rows := List.mem_cons_self
  have hserver : Sync.tickKey crossed.env crossed.before 1 = r.serverId :=
    Eq.trans (by decide) (congrArg Prod.fst hkey).symm
  have hguest : prodGuest ∈ (crossed.answers 0).guests := List.mem_singleton_self _
  have honce := (h r 0 prodGuest ⟨hr, hlive, howner⟩
    ⟨hguest, rfl, (congrArg Prod.snd hkey).symm, _, hs, rfl, hserver⟩).1
  rw [shownOnce_iff hguest rfl (mem_connections.mpr hs)] at honce
  have hnone : (crossed.connections.filter (crossed.carries 0 prodGuest)).length = 0 := by
    decide +kernel
  rw [hnone] at honce
  cases honce

end Tenancy

end PveManager.Topology
