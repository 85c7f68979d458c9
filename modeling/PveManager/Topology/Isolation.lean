import PveManager.Topology.Endpoint

/-!
# Isolation of users

A user without the right to see all instances is answered from a part of the tables, the caches
and Proxmox's answers: the user's own guests with their addresses, and the names of the nodes.
Everything else can only change what is said about the nodes themselves.
-/

namespace PveManager.Topology

open PveManager.Core PveManager.Rbac PveManager.Api

/-! ### Data about nodes -/

/-- The node without the data about itself. -/
def TopologyNode.guestsOnly (n : TopologyNode) : TopologyNode :=
  { n with
    status := ""
    cpu := none
    maxcpu := none
    mem := none
    maxmem := none
    uptime := none
    bridges := [] }

@[simp] theorem TopologyNode.node_guestsOnly (n : TopologyNode) : n.guestsOnly.node = n.node := rfl

def TopologyCluster.guestsOnly (c : TopologyCluster) : TopologyCluster :=
  { c with nodes := c.nodes.map TopologyNode.guestsOnly }

/-- The response without the data about the nodes themselves. -/
def NetworkTopologyResponse.guestsOnly (r : NetworkTopologyResponse) : NetworkTopologyResponse :=
  { r with clusters := r.clusters.map TopologyCluster.guestsOnly }

def Bucket.guestsOnly (b : Bucket) : Bucket :=
  { b with nodes := b.nodes.mapRows TopologyNode.guestsOnly TopologyNode.node_guestsOnly }

@[simp] theorem Bucket.id_guestsOnly (b : Bucket) : b.guestsOnly.id = b.id := rfl

/-! ### The part of a user -/

/-- A listed node, by name only. -/
def NodeResource.nameOnly (res : NodeResource) : NodeResource :=
  ⟨res.node, none, none, none, none, none, none⟩

/-- The listing with the guests that are the user's, and the names of the nodes. -/
def ServerData.part (own : ServerId × Vmid → Bool) (sid : ServerId) (data : ServerData) :
    ServerData where
  nodes := data.nodes.map NodeResource.nameOnly
  guests := data.guests.filter fun g => own (sid, g.vmid)
  bridges := .empty

/-- Nodes by name, and the user's guests. -/
def ClusterEntry.part (own : ServerId × Vmid → Bool) (sid : ServerId) :
    ClusterEntry → Option ClusterEntry
  | .node res => some (.node res.nameOnly)
  | .guest res => if own (sid, res.vmid) then some (.guest res) else none
  | .other => none

def ServerAnswers.part (own : ServerId × Vmid → Bool) (sid : ServerId) (answers : ServerAnswers) :
    ServerAnswers where
  raised := answers.raised
  entries := answers.entries.filterMap (ClusterEntry.part own sid)
  zones := []
  vnets := []
  networks := fun _ => []
  config := fun node vmid type => if own (sid, vmid) then answers.config node vmid type else []

/-- The addresses that are allocated to the user's guests. -/
def ipamPart (own : ServerId × Vmid → Bool) (ipam : Ipam) : Ipam where
  allocations := ipam.allocations.filter fun a => (Ipam.guestKey a).any own
  history := []

/-- The row is the user's. -/
def ownRow (user : User) (r : GuestRow) : Bool := r.live && decide (r.ownerId = some user.id)

namespace Moment

variable (m : Moment) (user : User)

/-- The keys of the user's guests. -/
def owns (key : ServerId × Vmid) : Bool :=
  m.rows.rows.any fun r => ownRow user r && decide (r.rowKey = key)

/-- What concerns the user of the tables and the answers. -/
def part : Moment where
  servers := m.servers
  rows := m.rows.filter (ownRow user)
  ipam := ipamPart (m.owns user) m.ipam
  networks := []
  workspaces := m.workspaces
  nameOrder := m.nameOrder
  answers := fun sid => (m.answers sid).part (m.owns user) sid

end Moment

/-- What concerns the user of the caches. -/
def Caches.part (own : ServerId × Vmid → Bool) (caches : Caches) : Caches where
  topo := fun sid => (caches.topo sid).map fun e => (e.1, e.2.part own sid)
  nic := fun key => if own key then caches.nic key else none

/-! ### The assembly sees the part only -/

section Assembly

variable {own : ServerId × Vmid → Bool}

/-- The assembly from the part. -/
def Assembly.part (own : ServerId × Vmid → Bool) (a : Assembly) : Assembly :=
  { a with
    ipam := ipamPart own a.ipam
    networks := []
    live := fun sid => (a.live sid).map (ServerData.part own sid) }

namespace Assembly

variable {a : Assembly}

theorem topologyLookup_part {ipam : Ipam} {key : ServerId × Vmid} (h : own key = true) :
    (ipamPart own ipam).topologyLookup key = ipam.topologyLookup key := by
  obtain ⟨sid, vmid⟩ := key
  rw [Ipam.topologyLookup_eq_foldl, Ipam.topologyLookup_eq_foldl]
  unfold ipamPart
  rw [KeyedTable.rows_filter, List.filter_filter, List.filter_filter, List.filter_filter]
  congr 1
  refine List.filter_congr fun b _ => ?_
  by_cases hkey : Ipam.guestKey b = some (sid, vmid)
  · simp [hkey, h]
  · simp [hkey]

/-- A guest of the user is built the same from the part. -/
theorem buildGuest_part {sid : ServerId} {nodeName : String} {res : Option GuestResource}
    {row : Option GuestRow}
    (h : ∀ vmid, (res.map fun r => r.vmid).or (row.map fun r => r.vmid) = some vmid →
      own (sid, vmid) = true) :
    (a.part own).buildGuest sid nodeName res row = a.buildGuest sid nodeName res row := by
  unfold buildGuest
  cases hvmid : (res.map fun r => r.vmid).or (row.map fun r => r.vmid) with
  | none => rfl
  | some vmid =>
    have hip : (a.part own).ipam.topologyLookup (sid, vmid) = a.ipam.topologyLookup (sid, vmid) :=
      topologyLookup_part (h vmid hvmid)
    dsimp only
    rw [hip]
    rfl

/-- The user sees only rows of the user's own guests. -/
structure Scoped (own : ServerId × Vmid → Bool) (a : Assembly) : Prop where
  seeAll : a.seeAll = false
  rows : ∀ r ∈ a.rows, own r.rowKey = true

theorem Scoped.own_of_visible (h : a.Scoped own) {key : ServerId × Vmid}
    (hvisible : a.visible key = true) : own key = true := by
  unfold visible at hvisible
  rw [h.seeAll, Bool.false_or] at hvisible
  obtain ⟨r, hr⟩ := Option.isSome_iff_exists.mp hvisible
  unfold row at hr
  have hmem := List.mem_reverse.mp (List.mem_of_find?_eq_some hr)
  have hkey : r.rowKey = key := by simpa using List.find?_some hr
  exact hkey ▸ h.rows r hmem

theorem guestsOn_part (h : a.Scoped own) (server : ProxmoxServer) (data : ServerData)
    (nodeName : String) :
    (a.part own).guestsOn server (data.part own server.id) nodeName =
      a.guestsOn server data nodeName := by
  unfold guestsOn ServerData.part
  dsimp only
  rw [List.filter_filter]
  refine List.filter_congr fun g _ => ?_
  change (decide (g.node = some nodeName) && a.visible (server.id, g.vmid) && _) = _
  cases hvisible : a.visible (server.id, g.vmid) with
  | false => simp
  | true => simp [h.own_of_visible hvisible]

theorem guestsOnly_liveNode (h : a.Scoped own) (server : ProxmoxServer) (data : ServerData)
    (nodeName : String) (res : NodeResource) :
    ((a.part own).liveNode server (data.part own server.id) nodeName res.nameOnly).guestsOnly =
      (a.liveNode server data nodeName res).guestsOnly := by
  unfold TopologyNode.guestsOnly liveNode
  dsimp only
  rw [guestsOn_part h]
  congr 2
  refine List.filterMap_congr fun g hg => ?_
  refine buildGuest_part fun vmid hvmid => ?_
  rw [Option.map_some, Option.some_or] at hvmid
  obtain rfl := Option.some.inj hvmid
  have hvisible := (List.mem_filter.mp hg).2
  rw [Bool.and_eq_true] at hvisible
  exact h.own_of_visible hvisible.2

theorem staleNode_part (h : a.Scoped own) (server : ProxmoxServer) (nodeName : String) :
    (a.part own).staleNode server nodeName = a.staleNode server nodeName := by
  unfold staleNode
  congr 2
  refine List.filterMap_congr fun r hr => ?_
  refine buildGuest_part fun vmid hvmid => ?_
  obtain rfl := Option.some.inj hvmid
  have hrow := List.mem_filter.mp (List.mem_filter.mp hr).1
  have hserver : r.serverId = server.id := of_decide_eq_true hrow.2
  exact hserver ▸ h.rows r hrow.1

/-- A connection contributes the same guests from the part. -/
theorem contributed_part (h : a.Scoped own) (server : ProxmoxServer) :
    ((a.part own).contributed server).map TopologyNode.guestsOnly =
      (a.contributed server).map TopologyNode.guestsOnly := by
  have hlive : (a.part own).live server.id =
      (a.live server.id).map (ServerData.part own server.id) := rfl
  unfold contributed
  rw [hlive]
  cases a.live server.id with
  | none =>
    rw [Option.map_none]
    dsimp only
    have hnodes : (a.part own).staleNode server = a.staleNode server :=
      funext (staleNode_part h server)
    rw [hnodes]
    rfl
  | some data =>
    rw [Option.map_some]
    dsimp only
    unfold ServerData.part
    rw [List.filterMap_map, List.map_filterMap, List.map_filterMap]
    refine List.filterMap_congr fun res _ => ?_
    change Option.map _ (if truthy res.node then _ else none) = _
    split
    · exact congrArg some (guestsOnly_liveNode h server data _ res)
    · rfl

/-! ### The merge of the parts -/

theorem guestsOnly_bucketOf (buckets : KeyedTable Bucket.id) (server : ProxmoxServer) :
    (bucketOf buckets server).guestsOnly =
      bucketOf (buckets.mapRows Bucket.guestsOnly Bucket.id_guestsOnly) server := by
  unfold bucketOf
  rw [KeyedTable.find?_mapRows]
  cases buckets.find? (bucketKey server) with
  | none => rfl
  | some b => rfl

theorem guestsOnly_mergeServer (h : a.Scoped own) {buckets buckets' : KeyedTable Bucket.id}
    (hbuckets : buckets'.mapRows Bucket.guestsOnly Bucket.id_guestsOnly =
      buckets.mapRows Bucket.guestsOnly Bucket.id_guestsOnly) (server : ProxmoxServer) :
    ((a.part own).mergeServer buckets' server).mapRows Bucket.guestsOnly Bucket.id_guestsOnly =
      (a.mergeServer buckets server).mapRows Bucket.guestsOnly Bucket.id_guestsOnly := by
  have hbucket : (bucketOf buckets' server).guestsOnly = (bucketOf buckets server).guestsOnly := by
    rw [guestsOnly_bucketOf, guestsOnly_bucketOf, hbuckets]
  obtain ⟨hid, hname, hkind, hserverIds, honline, hnodes⟩ := Bucket.mk.inj hbucket
  have hlive : ((a.part own).live server.id).isSome = (a.live server.id).isSome :=
    Option.isSome_map
  unfold mergeServer
  rw [KeyedTable.mapRows_save, KeyedTable.mapRows_save, hbuckets]
  congr 1
  unfold Bucket.guestsOnly
  dsimp only
  rw [KeyedTable.mapRows_foldl_keep, KeyedTable.mapRows_foldl_keep, contributed_part h, hnodes, hid,
    hname, hkind, hserverIds, honline, hlive]

theorem guestsOnly_merge (h : a.Scoped own) (servers : List ProxmoxServer) :
    ((a.part own).merge servers).mapRows Bucket.guestsOnly Bucket.id_guestsOnly =
      (a.merge servers).mapRows Bucket.guestsOnly Bucket.id_guestsOnly := by
  have hfold : ∀ (servers : List ProxmoxServer) (buckets buckets' : KeyedTable Bucket.id),
      buckets'.mapRows Bucket.guestsOnly Bucket.id_guestsOnly =
        buckets.mapRows Bucket.guestsOnly Bucket.id_guestsOnly →
      (servers.foldl (a.part own).mergeServer buckets').mapRows Bucket.guestsOnly
          Bucket.id_guestsOnly =
        (servers.foldl a.mergeServer buckets).mapRows Bucket.guestsOnly Bucket.id_guestsOnly := by
    intro servers
    induction servers with
    | nil => exact fun _ _ heq => heq
    | cons s servers ih => exact fun _ _ heq => ih _ _ (guestsOnly_mergeServer h heq s)
  exact hfold servers _ _ rfl

theorem guestsOnly_toCluster (b : Bucket) :
    (Bucket.toCluster b).guestsOnly = Bucket.toCluster b.guestsOnly := by
  unfold TopologyCluster.guestsOnly Bucket.toCluster
  congr 1
  exact List.map_insertionSort _ _ _ _ fun _ _ _ _ => Iff.rfl

theorem guestsOnly_clusters_eq (a : Assembly) (servers : List ProxmoxServer) :
    (a.clusters servers).map TopologyCluster.guestsOnly =
      (((a.merge servers).mapRows Bucket.guestsOnly Bucket.id_guestsOnly).rows.map
        Bucket.toCluster).insertionSort fun c d => clusterBefore c d = true := by
  unfold clusters
  rw [List.map_insertionSort (fun c d => clusterBefore c d = true)
    (fun c d => clusterBefore c d = true) TopologyCluster.guestsOnly _ fun _ _ _ _ => Iff.rfl,
    List.map_map, KeyedTable.rows_mapRows, List.map_map]
  congr 1
  exact List.map_congr_left fun b _ => guestsOnly_toCluster b

/-- The clusters show the same guests from the part. -/
theorem guestsOnly_clusters (h : a.Scoped own) (servers : List ProxmoxServer) :
    ((a.part own).clusters servers).map TopologyCluster.guestsOnly =
      (a.clusters servers).map TopologyCluster.guestsOnly := by
  rw [guestsOnly_clusters_eq, guestsOnly_clusters_eq, guestsOnly_merge h]

end Assembly

end Assembly

/-! ### The request sees the part only -/

section Request

variable {m : Moment} {user : User} {header : Option String} {q : TopologyQuery} {now : Time}
  {caches : Caches} {servers : List ProxmoxServer}

theorem owns_of_mem {r : GuestRow} (hr : r ∈ m.rows.rows) (hown : ownRow user r = true) :
    m.owns user r.rowKey = true :=
  List.any_eq_true.mpr ⟨r, hr, by simp [hown]⟩

/-- The part has the user's keys. -/
theorem owns_part (m : Moment) (user : User) : (m.part user).owns user = m.owns user := by
  funext key
  unfold Moment.owns Moment.part
  dsimp only
  rw [KeyedTable.rows_filter, List.any_filter]
  refine congrArg (fun p => List.any m.rows.rows p) (funext fun r => ?_)
  rw [← Bool.and_assoc, Bool.and_self]

theorem dbGuests_part (h : canViewAllInstances user = false) :
    dbGuests (m.part user) user servers = dbGuests m user servers := by
  unfold dbGuests Moment.part
  dsimp only
  rw [KeyedTable.rows_filter, List.filter_filter, h]
  refine List.filter_congr fun r _ => ?_
  unfold ownRow
  rw [Bool.false_or]
  cases r.live <;> cases decide (r.ownerId = some user.id) <;> simp

/-- Without the global view the tables are those of the user. -/
theorem scoped_tables (m : Moment) (q : TopologyQuery) (servers : List ProxmoxServer)
    (h : canViewAllInstances user = false) :
    (tables m user q servers).Scoped (m.owns user) where
  seeAll := h
  rows := by
    intro r hr
    obtain ⟨hmem, hr⟩ := List.mem_filter.mp hr
    rw [h, Bool.false_or, Bool.and_eq_true, Bool.and_eq_true] at hr
    refine owns_of_mem hmem ?_
    unfold ownRow
    rw [hr.1.1, hr.2]
    rfl

theorem visible_tables_part (h : canViewAllInstances user = false) :
    (tables (m.part user) user q servers).visible = (tables m user q servers).visible := by
  funext key
  unfold Assembly.visible Assembly.row tables
  dsimp only
  rw [dbGuests_part h]

theorem freshListing_part (own : ServerId × Vmid → Bool) (sid : ServerId) :
    freshListing now (caches.part own) sid =
      (freshListing now caches sid).map (ServerData.part own sid) := by
  unfold freshListing Caches.part
  dsimp only
  cases caches.topo sid with
  | none => rfl
  | some e =>
    rw [Option.map_some, Option.filter_some, Option.filter_some]
    split <;> rfl

theorem staleServers_part (own : ServerId × Vmid → Bool) :
    staleServers now (caches.part own) servers = staleServers now caches servers := by
  unfold staleServers
  refine List.filter_congr fun s _ => ?_
  rw [freshListing_part, Option.isNone_map]

/-! ### Collecting the part -/

theorem nodes_part (own : ServerId × Vmid → Bool) (sid : ServerId) (answers : ServerAnswers) :
    (answers.part own sid).nodes = answers.nodes.map NodeResource.nameOnly := by
  unfold ServerAnswers.nodes ServerAnswers.part
  dsimp only
  rw [List.filterMap_filterMap, List.map_filterMap]
  refine List.filterMap_congr fun entry _ => ?_
  cases entry with
  | node res => rfl
  | guest res =>
    unfold ClusterEntry.part
    dsimp only
    split <;> rfl
  | other => rfl

theorem guests_part (own : ServerId × Vmid → Bool) (sid : ServerId) (answers : ServerAnswers) :
    (answers.part own sid).guests = answers.guests.filter fun g => own (sid, g.vmid) := by
  unfold ServerAnswers.guests ServerAnswers.part
  dsimp only
  rw [List.filterMap_filterMap, List.filter_filterMap]
  refine List.filterMap_congr fun entry _ => ?_
  cases entry with
  | node res => rfl
  | guest res =>
    unfold ClusterEntry.part
    dsimp only
    cases hkind : (kindType res.kind).isSome with
    | false => cases own (sid, res.vmid) <;> simp [hkind]
    | true => cases hown : own (sid, res.vmid) <;> simp [hkind, hown, Option.filter]
  | other => rfl

/-- What the part tells is the part of what the server tells, but for the bridges. -/
theorem part_data_part (own : ServerId × Vmid → Bool) (sid : ServerId) (answers : ServerAnswers)
    (includeBridges : Bool) :
    ((answers.part own sid).data includeBridges).part own sid =
      (answers.data includeBridges).part own sid := by
  unfold ServerData.part ServerAnswers.data
  dsimp only
  rw [nodes_part, guests_part, List.map_map, List.filter_filter]
  congr 1
  refine List.filter_congr fun g _ => ?_
  exact Bool.and_self _

theorem collectServer_part (own : ServerId × Vmid → Bool) (s : ProxmoxServer)
    (answers : ServerAnswers) (includeBridges : Bool) :
    (collectServer s (answers.part own s.id) includeBridges).map (ServerData.part own s.id) =
      (collectServer s answers includeBridges).map (ServerData.part own s.id) := by
  unfold collectServer
  split
  · rfl
  · have hraised : (answers.part own s.id).raised = answers.raised := rfl
    rw [hraised]
    cases answers.raised with
    | some text => rfl
    | none => exact congrArg Except.ok (part_data_part own s.id answers includeBridges)

/-- A listing with its server, reduced to the part. -/
def partListing (own : ServerId × Vmid → Bool) (p : ServerId × ServerData) :
    ServerId × ServerData :=
  (p.1, p.2.part own p.1)

theorem part_part (own : ServerId × Vmid → Bool) (sid : ServerId) (data : ServerData) :
    (data.part own sid).part own sid = data.part own sid := by
  unfold ServerData.part
  dsimp only
  rw [List.map_map, List.filter_filter]
  congr 1
  refine List.filter_congr fun g _ => ?_
  exact Bool.and_self _

theorem collection_part :
    collection (m.part user) q now (caches.part (m.owns user)) servers =
      (staleServers now caches servers).map fun s =>
        (s, collectServer s ((m.answers s.id).part (m.owns user) s.id) q.includeBridges) := by
  unfold collection
  rw [staleServers_part]
  rfl

theorem liveListings_part :
    (liveListings (m.part user) q now (caches.part (m.owns user)) servers).map
        (partListing (m.owns user)) =
      (liveListings m q now caches servers).map (partListing (m.owns user)) := by
  unfold liveListings
  rw [collection_part, List.map_append, List.map_append]
  unfold collection
  rw [List.filterMap_map, List.filterMap_map, List.map_filterMap, List.map_filterMap,
    List.map_filterMap, List.map_filterMap]
  congr 1
  · refine List.filterMap_congr fun s _ => ?_
    rw [freshListing_part, Option.map_map, Option.map_map, Option.map_map]
    refine congrArg (fun f => Option.map f _) (funext fun data => ?_)
    exact congrArg (Prod.mk s.id) (part_part _ s.id data)
  · refine List.filterMap_congr fun s _ => ?_
    have hcollect := collectServer_part (m.owns user) s (m.answers s.id) q.includeBridges
    simp only [Function.comp_apply]
    cases hx : collectServer s ((m.answers s.id).part (m.owns user) s.id) q.includeBridges with
    | error e =>
      rw [hx] at hcollect
      cases hy : collectServer s (m.answers s.id) q.includeBridges with
      | error e' => rfl
      | ok data' => rw [hy] at hcollect; cases hcollect
    | ok data =>
      rw [hx] at hcollect
      cases hy : collectServer s (m.answers s.id) q.includeBridges with
      | error e' => rw [hy] at hcollect; cases hcollect
      | ok data' =>
        rw [hy] at hcollect
        have hdata : data.part (m.owns user) s.id = data'.part (m.owns user) s.id :=
          Except.ok.inj hcollect
        exact congrArg (fun d => some (s.id, d)) hdata

theorem find?_map_partListing (own : ServerId × Vmid → Bool) (sid : ServerId)
    (l : List (ServerId × ServerData)) :
    (((l.map (partListing own)).find? fun p => decide (p.1 = sid)).map Prod.snd) =
      ((l.find? fun p => decide (p.1 = sid)).map Prod.snd).map (ServerData.part own sid) := by
  rw [List.find?_map]
  change Option.map _ (Option.map _ (l.find? fun p => decide (p.1 = sid))) = _
  cases hf : l.find? fun p => decide (p.1 = sid) with
  | none => rfl
  | some p =>
    have hsid : p.1 = sid := by simpa using List.find?_some hf
    subst hsid
    rfl

theorem liveOf_part (m : Moment) (user : User) (q : TopologyQuery) (now : Time)
    (caches : Caches) (servers : List ProxmoxServer) (sid : ServerId) :
    (liveOf (m.part user) q now (caches.part (m.owns user)) servers sid).map
        (ServerData.part (m.owns user) sid) =
      (liveOf m q now caches servers sid).map (ServerData.part (m.owns user) sid) := by
  unfold liveOf
  rw [← find?_map_partListing, ← find?_map_partListing, liveListings_part]

theorem collectWarning_map (f : ServerData → ServerData) (s : ProxmoxServer)
    (r : Except CollectError ServerData) : collectWarning (s, r.map f) = collectWarning (s, r) := by
  unfold collectWarning
  cases r with
  | error e => cases e <;> rfl
  | ok data => rfl

theorem serverWarnings_part :
    serverWarnings (m.part user) q now (caches.part (m.owns user)) servers =
      serverWarnings m q now caches servers := by
  have hfailed : (collection (m.part user) q now (caches.part (m.owns user)) servers).filterMap
      collectWarning = (collection m q now caches servers).filterMap collectWarning := by
    rw [collection_part]
    unfold collection
    rw [List.filterMap_map, List.filterMap_map]
    refine List.filterMap_congr fun s _ => ?_
    simp only [Function.comp_apply]
    rw [← collectWarning_map (ServerData.part (m.owns user) s.id), collectServer_part,
      collectWarning_map]
  have hlive : ∀ sid, (liveOf (m.part user) q now (caches.part (m.owns user)) servers sid).isNone =
      (liveOf m q now caches servers sid).isNone := by
    intro sid
    have hmap := congrArg Option.isNone (liveOf_part m user q now caches servers sid)
    rwa [Option.isNone_map, Option.isNone_map] at hmap
  unfold serverWarnings
  rw [hfailed]
  simp only [hlive]

/-! ### Reading the cards of the part -/

variable {visible : ServerId × Vmid → Bool}

theorem nicTargets_part (hvisible : ∀ key, visible key = true → m.owns user key = true) :
    nicTargets (m.part user) q now (caches.part (m.owns user)) servers visible =
      nicTargets m q now caches servers visible := by
  have hpart : ∀ l : List (ServerId × ServerData),
      (l.flatMap fun p => p.2.guests.filterMap fun g =>
        if truthy g.node && visible (p.1, g.vmid) then
          some (NicTarget.mk p.1 (g.node.getD "") g.vmid ((kindType g.kind).getD .qemu)) else none) =
      (l.map (partListing (m.owns user))).flatMap fun p => p.2.guests.filterMap fun g =>
        if truthy g.node && visible (p.1, g.vmid) then
          some (NicTarget.mk p.1 (g.node.getD "") g.vmid ((kindType g.kind).getD .qemu)) else none := by
    intro l
    rw [List.flatMap_map]
    refine congrArg (fun f => List.flatMap f l) (funext fun p => ?_)
    unfold partListing ServerData.part
    dsimp only
    rw [List.filterMap_filter]
    refine List.filterMap_congr fun g _ => ?_
    cases hown : m.owns user (p.1, g.vmid) with
    | true => rfl
    | false =>
      have hhidden : visible (p.1, g.vmid) = false := by
        rw [← Bool.not_eq_true]
        intro h
        rw [hvisible _ h] at hown
        cases hown
      simp [hhidden]
  unfold nicTargets
  rw [hpart (liveListings m q now caches servers), ← liveListings_part, ← hpart]

/-- A guest whose cards are wanted is visible. -/
theorem visible_of_mem_nicTargets {t : NicTarget}
    (ht : t ∈ nicTargets m q now caches servers visible) : visible t.key = true := by
  obtain ⟨p, -, hp⟩ := List.mem_flatMap.mp ht
  obtain ⟨g, -, hg⟩ := List.mem_filterMap.mp hp
  split at hg
  · rename_i h
    obtain rfl := Option.some.inj hg
    rw [Bool.and_eq_true] at h
    exact h.2
  · cases hg

theorem freshNics_part {own : ServerId × Vmid → Bool} {key : ServerId × Vmid}
    (h : own key = true) : freshNics now (caches.part own) key = freshNics now caches key := by
  unfold freshNics Caches.part
  dsimp only
  rw [if_pos h]

theorem unreadTargets_part (hvisible : ∀ key, visible key = true → m.owns user key = true) :
    unreadTargets (m.part user) q now (caches.part (m.owns user)) servers visible =
      unreadTargets m q now caches servers visible := by
  unfold unreadTargets
  rw [nicTargets_part hvisible]
  refine List.filter_congr fun t ht => ?_
  rw [freshNics_part (hvisible _ (visible_of_mem_nicTargets ht))]

theorem fetchedNics_part (hvisible : ∀ key, visible key = true → m.owns user key = true)
    (key : ServerId × Vmid) :
    fetchedNics (m.part user) q now (caches.part (m.owns user)) servers visible key =
      fetchedNics m q now caches servers visible key := by
  unfold fetchedNics
  rw [unreadTargets_part hvisible]
  refine Option.bind_congr fun t ht => ?_
  have hmem := List.mem_of_mem_take (List.mem_reverse.mp (List.mem_of_find?_eq_some ht))
  have hown := hvisible _ (visible_of_mem_nicTargets (List.mem_filter.mp hmem).1)
  split
  · change some (if m.owns user t.key then _ else _) = _
    rw [if_pos hown]
  · rfl

theorem nicsByKey_part (m : Moment) (q : TopologyQuery) (now : Time) (caches : Caches)
    (servers : List ProxmoxServer) (hvisible : ∀ key, visible key = true → m.owns user key = true)
    (key : ServerId × Vmid) :
    nicsByKey (m.part user) q now (caches.part (m.owns user)) servers visible key =
      nicsByKey m q now caches servers visible key := by
  unfold nicsByKey
  rw [nicTargets_part hvisible]
  split
  · rename_i h
    obtain ⟨t, ht, hkey⟩ := List.any_eq_true.mp h
    have hown := hvisible _ (visible_of_mem_nicTargets ht)
    rw [of_decide_eq_true hkey] at hown
    rw [freshNics_part hown, fetchedNics_part hvisible]
  · rfl

/-! ### The response -/

theorem ipamPart_ipamPart (own : ServerId × Vmid → Bool) (ipam : Ipam) :
    ipamPart own (ipamPart own ipam) = ipamPart own ipam := by
  unfold ipamPart
  congr 1
  refine KeyedTable.eq_of_rows_eq ?_
  rw [KeyedTable.rows_filter, KeyedTable.rows_filter, List.filter_filter]
  exact List.filter_congr fun a _ => Bool.and_self _

/-- The assembly shows rows of the user's guests only. -/
theorem scoped_assembly (m : Moment) (q : TopologyQuery) (now : Time) (caches : Caches)
    (servers : List ProxmoxServer) (h : canViewAllInstances user = false) :
    (assembly m user q now caches servers).Scoped (m.owns user) :=
  ⟨(scoped_tables m q servers h).seeAll, (scoped_tables m q servers h).rows⟩

theorem scoped_assembly_part (h : canViewAllInstances user = false) :
    (assembly (m.part user) user q now (caches.part (m.owns user)) servers).Scoped
      (m.owns user) where
  seeAll := h
  rows := by
    change ∀ r ∈ dbGuests (m.part user) user servers, _
    rw [dbGuests_part h]
    exact (scoped_tables m q servers h).rows

/-- The assembly of the part has the same part. -/
theorem assembly_part (h : canViewAllInstances user = false) :
    (assembly (m.part user) user q now (caches.part (m.owns user)) servers).part (m.owns user) =
      (assembly m user q now caches servers).part (m.owns user) := by
  have hlive := funext fun sid => liveOf_part m user q now caches servers sid
  have hnics := funext fun key => nicsByKey_part m q now caches servers
    (fun _ => (scoped_tables m q servers h).own_of_visible) key
  unfold Assembly.part assembly
  dsimp only
  rw [visible_tables_part h, hlive, hnics]
  unfold tables
  dsimp only
  rw [dbGuests_part h, Moment.part, ipamPart_ipamPart]

theorem summary_guestsOnly (clusters : List TopologyCluster) :
    summary (clusters.map TopologyCluster.guestsOnly) = summary clusters := by
  simp [summary, TopologyCluster.guestsOnly, TopologyNode.guestsOnly, Function.comp_def]

theorem nicWarnings_part (h : canViewAllInstances user = false) :
    nicWarnings (m.part user) user q now (caches.part (m.owns user)) servers =
      nicWarnings m user q now caches servers := by
  unfold nicWarnings
  rw [visible_tables_part h, unreadTargets_part fun _ => (scoped_tables m q servers h).own_of_visible]

/-- The response shows the same guests from the part. -/
theorem guestsOnly_response (h : canViewAllInstances user = false) :
    (response (m.part user) user q now (caches.part (m.owns user)) servers).guestsOnly =
      (response m user q now caches servers).guestsOnly := by
  have hclusters :
      ((assembly (m.part user) user q now (caches.part (m.owns user)) servers).clusters servers).map
          TopologyCluster.guestsOnly =
        ((assembly m user q now caches servers).clusters servers).map TopologyCluster.guestsOnly := by
    rw [← Assembly.guestsOnly_clusters (scoped_assembly_part h), assembly_part h,
      Assembly.guestsOnly_clusters (scoped_assembly m q now caches servers h)]
  unfold NetworkTopologyResponse.guestsOnly response
  dsimp only
  rw [← summary_guestsOnly, hclusters, summary_guestsOnly, serverWarnings_part, nicWarnings_part h]

/-- The part of a cached listing. -/
def partEntry (own : ServerId × Vmid → Bool) (sid : ServerId) (e : Time × ServerData) :
    Time × ServerData :=
  (e.1, e.2.part own sid)

theorem topo_part (own : ServerId × Vmid → Bool) (sid : ServerId) :
    (caches.part own).topo sid = (caches.topo sid).map (partEntry own sid) := rfl

theorem nic_part (own : ServerId × Vmid → Bool) (key : ServerId × Vmid) :
    (caches.part own).nic key = if own key then caches.nic key else none := rfl

/-- The part of the part of the caches. -/
theorem caches_part_part (own : ServerId × Vmid → Bool) :
    (caches.part own).part own = caches.part own := by
  ext1
  · funext sid
    rw [topo_part, topo_part, Option.map_map]
    refine congrArg (fun f => Option.map f _) (funext fun e => ?_)
    exact congrArg (Prod.mk e.1) (part_part own sid e.2)
  · funext key
    rw [nic_part, nic_part]
    split <;> rfl

theorem collected_part (m : Moment) (user : User) (q : TopologyQuery) (now : Time)
    (caches : Caches) (servers : List ProxmoxServer) (sid : ServerId) :
    (collected (m.part user) q now (caches.part (m.owns user)) servers sid).map
        (ServerData.part (m.owns user) sid) =
      (collected m q now caches servers sid).map (ServerData.part (m.owns user) sid) := by
  unfold collected
  rw [collection_part]
  unfold collection
  rw [List.find?_map, List.find?_map]
  change Option.map _ (Option.bind (Option.map _ ((staleServers now caches servers).find? fun s =>
    decide (s.id = sid))) _) = Option.map _ (Option.bind (Option.map _
      ((staleServers now caches servers).find? fun s => decide (s.id = sid))) _)
  cases hfind : (staleServers now caches servers).find? fun s => decide (s.id = sid) with
  | none => rfl
  | some s =>
    have hsid : s.id = sid := by simpa using List.find?_some hfind
    subst hsid
    have hcollect := congrArg Except.toOption
      (collectServer_part (m.owns user) s (m.answers s.id) q.includeBridges)
    have hmap : ∀ r : Except CollectError ServerData,
        (r.map (ServerData.part (m.owns user) s.id)).toOption =
          r.toOption.map (ServerData.part (m.owns user) s.id) := by
      intro r
      cases r <;> rfl
    rw [hmap, hmap] at hcollect
    exact hcollect

/-- After the request the part of the caches is the same. -/
theorem part_cachesAfter (h : canViewAllInstances user = false) :
    (cachesAfter (m.part user) user q now (caches.part (m.owns user)) servers).part (m.owns user) =
      (cachesAfter m user q now caches servers).part (m.owns user) := by
  ext1
  · funext sid
    have hcollected : ∀ c : Option ServerData,
        (c.map fun data => (now, data)).map (partEntry (m.owns user) sid) =
          (c.map (ServerData.part (m.owns user) sid)).map fun data => (now, data) := by
      intro c
      cases c <;> rfl
    rw [topo_part, topo_part]
    unfold cachesAfter
    dsimp only
    rw [Option.map_or, Option.map_or, hcollected, hcollected, collected_part, ← topo_part,
      ← topo_part, caches_part_part]
  · funext key
    rw [nic_part, nic_part]
    split
    · rename_i hown
      unfold cachesAfter
      dsimp only
      rw [visible_tables_part h,
        fetchedNics_part fun _ => (scoped_tables m q servers h).own_of_visible, nic_part,
        if_pos hown]
    · rfl

end Request

/-- A user without the global view is answered from the part. -/
theorem guestsOnly_getNetworkTopology (m : Moment) (user : User) (header : Option String)
    (q : TopologyQuery) (now : Time) (caches : Caches) (h : canViewAllInstances user = false) :
    (getNetworkTopology (m.part user) user header q now (caches.part (m.owns user))).1.map
        NetworkTopologyResponse.guestsOnly =
      (getNetworkTopology m user header q now caches).1.map NetworkTopologyResponse.guestsOnly ∧
    (getNetworkTopology (m.part user) user header q now (caches.part (m.owns user))).2.part
        (m.owns user) =
      (getNetworkTopology m user header q now caches).2.part (m.owns user) := by
  have hservers : queriedServers (m.part user) user header q = queriedServers m user header q := rfl
  have hworkspaces : (m.part user).workspaces = m.workspaces := rfl
  unfold getNetworkTopology
  dsimp only
  rw [hservers, hworkspaces]
  split
  · exact ⟨rfl, caches_part_part _⟩
  · split
    · exact ⟨rfl, caches_part_part _⟩
    · split
      · exact ⟨rfl, caches_part_part _⟩
      · split
        · exact ⟨rfl, caches_part_part _⟩
        · exact ⟨congrArg Except.ok (guestsOnly_response h), part_cachesAfter h⟩

/-- Two moments with two states of the caches differ for the user in the data about nodes only. -/
structure SameFor (user : User) (m m' : Moment) (caches caches' : Caches) : Prop where
  part : m.part user = m'.part user
  caches : caches.part (m.owns user) = caches'.part (m'.owns user)

theorem SameFor.owns_eq {user : User} {m m' : Moment} {caches caches' : Caches}
    (h : SameFor user m m' caches caches') : m.owns user = m'.owns user := by
  rw [← owns_part m, h.part, owns_part m']

/-- A tenant who may open the page. -/
def alice : User where
  id := 1
  username := "alice"
  isAdmin := false
  role := some ⟨"user", KeyedTable.empty.save ("network:view", true)⟩
  assignedServers := [1]

def tenantRow (vmid : Vmid) (owner : UserId) : GuestRow :=
  ⟨⟨1, vmid, "pve", .qemu, "web", some owner, "running", false, none, none, none, none, none, none,
    none, none, none, none, none, none, none, none, none, none, none⟩, none, none⟩

def tenantGuest (vmid : Vmid) : ClusterEntry :=
  .guest ⟨⟨.qemu, vmid, some "web", some "pve", some "running", false, none, none, none, none,
    none⟩, none, none, none, none, none, none⟩

/-- A server with a guest of alice and maybe one of somebody else. -/
def street (neighbour : Bool) : Moment where
  servers := KeyedTable.empty.save ⟨1, "pve", "pve", "pve", 8006, "root@pam", some "panel",
    some "secret", false, none, false, none, none, some true, none, none, none⟩
  rows :=
    if neighbour then (KeyedTable.empty.save (tenantRow 100 1)).save (tenantRow 101 2)
    else KeyedTable.empty.save (tenantRow 100 1)
  ipam := ⟨.empty, []⟩
  networks := []
  workspaces := ⟨.empty, [], []⟩
  nameOrder := fun a b => decide (a ≤ b)
  answers := fun _ =>
    ⟨none, [.node ⟨some "pve", some "online", none, none, none, none, none⟩, tenantGuest 100] ++
      (if neighbour then [tenantGuest 101] else []), [], [], fun _ => [], fun _ _ _ => []⟩

theorem sameFor_street (caches : Caches) :
    SameFor alice (street true) (street false) caches caches := by
  have howns : (street true).owns alice = (street false).owns alice := rfl
  have hanswers : (fun sid => ((street true).answers sid).part ((street true).owns alice) sid) =
      fun sid => ((street false).answers sid).part ((street false).owns alice) sid := by
    funext sid
    rw [howns]
    have hforeign : (street false).owns alice (sid, 101) = false := by
      simp [Moment.owns, street, tenantRow, GuestRow.rowKey, VMInstance.key, KeyedTable.rows_save,
        KeyedTable.empty]
    have hhidden : ClusterEntry.part ((street false).owns alice) sid (tenantGuest 101) = none :=
      if_neg (by rw [hforeign]; exact Bool.false_ne_true)
    change ServerAnswers.mk none (List.filterMap _ (_ ++ [tenantGuest 101])) [] [] _ _ =
      ServerAnswers.mk none (List.filterMap _ (_ ++ [])) [] [] _ _
    have hnone : [tenantGuest 101].filterMap (ClusterEntry.part ((street false).owns alice) sid) =
        [] := by
      rw [List.filterMap_cons, hhidden]
      rfl
    rw [List.filterMap_append, List.filterMap_append, hnone]
    rfl
  refine ⟨?_, by rw [howns]⟩
  unfold Moment.part
  rw [hanswers]
  rfl

end PveManager.Topology
