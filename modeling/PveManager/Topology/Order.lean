import PveManager.Topology.Build

/-!
# The order of the connections

The first connection of a cluster that contributes a node is the one that is shown, so the page
depends on the order of the connections exactly where two of them contribute a node of one name
differently: from different listings, or one from a listing and one from cached rows.
-/

namespace PveManager.Topology

open PveManager.Core

/-- The guest without the connection it is credited to. -/
def TopologyGuest.uncredited (g : TopologyGuest) : TopologyGuest :=
  { g with id := "", serverId := 0 }

/-- The node without the connection it is credited to. -/
def TopologyNode.uncredited (n : TopologyNode) : TopologyNode :=
  { n with
    id := ""
    serverId := 0
    serverName := ""
    guests := n.guests.map TopologyGuest.uncredited }

@[simp] theorem TopologyNode.node_uncredited (n : TopologyNode) : n.uncredited.node = n.node := rfl

@[simp] theorem TopologyNode.stale_uncredited (n : TopologyNode) : n.uncredited.stale = n.stale :=
  rfl

/-- The nodes of a cluster in a response. -/
def nodesOf (clusters : List TopologyCluster) (key : String) : List TopologyNode :=
  ((clusters.find? fun c => decide (c.id = key)).map TopologyCluster.nodes).getD []

namespace Assembly

variable {a : Assembly} {servers servers' : List ProxmoxServer} {key name : String}

/-! ### The nodes of a response -/

theorem perm_clusters (a : Assembly) (servers : List ProxmoxServer) :
    (a.clusters servers).Perm ((a.merge servers).rows.map Bucket.toCluster) :=
  List.perm_insertionSort _ _

/-- The clusters of a response have different ids. -/
theorem clusters_nodup (a : Assembly) (servers : List ProxmoxServer) :
    ((a.clusters servers).map TopologyCluster.id).Nodup := by
  refine ((a.perm_clusters servers).map TopologyCluster.id).nodup_iff.mpr ?_
  rw [List.map_map]
  exact (a.merge servers).keys_nodup

/-- The clusters of a response, by id. -/
def clusterTable (a : Assembly) (servers : List ProxmoxServer) : KeyedTable TopologyCluster.id :=
  ⟨a.clusters servers, a.clusters_nodup servers⟩

theorem find?_clusters (a : Assembly) (servers : List ProxmoxServer) (key : String) :
    ((a.clusters servers).find? fun c => decide (c.id = key)) =
      ((a.merge servers).find? key).map Bucket.toCluster := by
  change (a.clusterTable servers).find? key = _
  apply Option.ext
  intro c
  rw [KeyedTable.find?_eq_some_iff, Option.map_eq_some_iff]
  change c ∈ a.clusters servers ∧ _ ↔ _
  rw [(a.perm_clusters servers).mem_iff, List.mem_map]
  constructor
  · rintro ⟨⟨b, hb, rfl⟩, hid⟩
    exact ⟨b, (KeyedTable.find?_eq_some_iff _).mpr ⟨hb, hid⟩, rfl⟩
  · rintro ⟨b, hb, rfl⟩
    obtain ⟨hmem, hid⟩ := (KeyedTable.find?_eq_some_iff _).mp hb
    exact ⟨⟨b, hmem, rfl⟩, hid⟩

theorem nodesOf_clusters (a : Assembly) (servers : List ProxmoxServer) (key : String) :
    nodesOf (a.clusters servers) key = (((a.merge servers).find? key).map fun b =>
      b.nodes.rows.insertionSort fun m n => m.node ≤ n.node).getD [] := by
  unfold nodesOf
  rw [find?_clusters, Option.map_map]
  rfl

/-- A cluster of the response shows exactly the nodes of its bucket. -/
theorem mem_nodesOf_clusters {n : TopologyNode} :
    n ∈ nodesOf (a.clusters servers) key ↔ nodeIn (a.merge servers) key n.node = some n := by
  rw [nodesOf_clusters]
  unfold nodeIn
  cases (a.merge servers).find? key with
  | none => simp
  | some b =>
    rw [Option.map_some, Option.getD_some, List.mem_insertionSort, Option.bind_some,
      KeyedTable.find?_eq_some_iff]
    exact (and_iff_left rfl).symm

/-- Two responses show the same in a cluster exactly when they do so under every name. -/
theorem nodesOf_uncredited_eq_iff :
    (nodesOf (a.clusters servers') key).map TopologyNode.uncredited =
        (nodesOf (a.clusters servers) key).map TopologyNode.uncredited ↔
      ∀ name, (nodeIn (a.merge servers') key name).map TopologyNode.uncredited =
        (nodeIn (a.merge servers) key name).map TopologyNode.uncredited := by
  have htable : ∀ servers, ∃ t : KeyedTable TopologyNode.node,
      nodesOf (a.clusters servers) key = t.rows.insertionSort (fun m n => m.node ≤ n.node) ∧
        ∀ name, nodeIn (a.merge servers) key name = t.find? name := by
    intro servers
    rw [nodesOf_clusters]
    unfold nodeIn
    cases (a.merge servers).find? key with
    | none => exact ⟨.empty, rfl, fun _ => rfl⟩
    | some b => exact ⟨b.nodes, rfl, fun _ => rfl⟩
  obtain ⟨t, ht, hfind⟩ := htable servers
  obtain ⟨t', ht', hfind'⟩ := htable servers'
  rw [ht, ht', KeyedTable.map_insertionSort_eq_iff TopologyNode.node_uncredited]
  simp only [hfind, hfind']
  have hmem : ∀ (t : KeyedTable TopologyNode.node) y, y ∈ t.rows.map TopologyNode.uncredited ↔
      (t.find? y.node).map TopologyNode.uncredited = some y := by
    intro t y
    rw [List.mem_map, Option.map_eq_some_iff]
    refine exists_congr fun n => and_congr_left fun hn => ?_
    rw [KeyedTable.find?_eq_some_iff, ← hn, TopologyNode.node_uncredited, and_iff_left rfl]
  have hnode : ∀ (t : KeyedTable TopologyNode.node) name y,
      (t.find? name).map TopologyNode.uncredited = some y → y.node = name := by
    intro t name y hy
    obtain ⟨n, hn, rfl⟩ := Option.map_eq_some_iff.mp hy
    exact n.node_uncredited.trans (t.key_of_find? hn)
  constructor
  · intro h name
    apply Option.ext
    intro y
    constructor
    · intro hy
      obtain rfl := hnode t' name y hy
      exact (hmem t y).mp ((h y).mp ((hmem t' y).mpr hy))
    · intro hy
      obtain rfl := hnode t name y hy
      exact (hmem t' y).mp ((h y).mpr ((hmem t y).mpr hy))
  · intro h y
    rw [hmem, hmem, h]

/-! ### Independence of the order -/

/-- A connection that answers reports the node. -/
def Reported (a : Assembly) (server : ProxmoxServer) (name : String) : Prop :=
  ∃ data, a.live server.id = some data ∧ name ≠ "" ∧ ∃ res ∈ data.nodes, res.node = some name

/-- In every order of the connections the clusters show the same nodes and guests, and a node
that a connection reports is not shown from cached rows. -/
def OrderFree (a : Assembly) (servers : List ProxmoxServer) : Prop :=
  ∀ servers', servers'.Perm servers →
    (∀ key, (nodesOf (a.clusters servers') key).map TopologyNode.uncredited =
      (nodesOf (a.clusters servers) key).map TopologyNode.uncredited) ∧
    ∀ s ∈ servers', ∀ name, a.Reported s name →
      ∃ n ∈ nodesOf (a.clusters servers') (bucketKey s), n.node = name ∧ n.stale = false

/-- What two connections of a cluster contribute under one name differs only in the connection
it is credited to. -/
def Alike (a : Assembly) (servers : List ProxmoxServer) : Prop :=
  ∀ s ∈ servers, ∀ s' ∈ servers, bucketKey s = bucketKey s' → ∀ name n n',
    (a.contributed s).find? (fun n => decide (n.node = name)) = some n →
      (a.contributed s').find? (fun n => decide (n.node = name)) = some n' →
        n.uncredited = n'.uncredited

/-- A reported node is contributed, and not from cached rows. -/
theorem find?_contributed_of_reported {s : ProxmoxServer} (h : a.Reported s name) :
    ∃ n, (a.contributed s).find? (fun n => decide (n.node = name)) = some n ∧ n.stale = false := by
  obtain ⟨data, hlive, hne, res, hres, hnode⟩ := h
  unfold contributed
  rw [hlive]
  dsimp only
  have htruthy : truthy (some name) = true := decide_eq_true hne
  have hmem : a.liveNode s data name res ∈ data.nodes.filterMap fun res =>
      if truthy res.node then some (a.liveNode s data (res.node.getD "") res) else none := by
    refine List.mem_filterMap.mpr ⟨res, hres, ?_⟩
    rw [hnode, if_pos htruthy]
    rfl
  cases hfind : (data.nodes.filterMap fun res =>
      if truthy res.node then some (a.liveNode s data (res.node.getD "") res) else none).find?
        (fun n => decide (n.node = name)) with
  | none =>
    have hnode' : (a.liveNode s data name res).node = name := rfl
    exact absurd (decide_eq_true hnode') (List.find?_eq_none.mp hfind _ hmem)
  | some n =>
    refine ⟨n, rfl, ?_⟩
    obtain ⟨res', -, hres'⟩ := List.mem_filterMap.mp (List.mem_of_find?_eq_some hfind)
    split at hres'
    · obtain rfl := Option.some.inj hres'
      rfl
    · cases hres'

theorem contribution_eq_some_iff {s : ProxmoxServer} {n : TopologyNode} :
    a.contribution key name s = some n ↔ bucketKey s = key ∧
      (a.contributed s).find? (fun n => decide (n.node = name)) = some n := by
  unfold contribution
  split
  · rename_i h
    exact (and_iff_right h).symm
  · rename_i h
    exact iff_of_false (fun h => nomatch h) fun hn => h hn.1

/-- The page is the same in every order exactly when the connections of each cluster agree. -/
theorem orderFree_iff (a : Assembly) (servers : List ProxmoxServer) :
    a.OrderFree servers ↔ a.Alike servers := by
  have hsame : (∀ servers', servers'.Perm servers → ∀ key,
      (nodesOf (a.clusters servers') key).map TopologyNode.uncredited =
        (nodesOf (a.clusters servers) key).map TopologyNode.uncredited) ↔ a.Alike servers := by
    simp only [nodesOf_uncredited_eq_iff, nodeIn_merge]
    constructor
    · intro h s hs s' hs' hbucket name n n' hn hn'
      refine (findSome?_perm_iff (a.contribution (bucketKey s) name) TopologyNode.uncredited
        servers).mp (fun servers' hperm => h servers' hperm _ _) s hs s' hs' n n' ?_ ?_
      · exact contribution_eq_some_iff.mpr ⟨rfl, hn⟩
      · exact contribution_eq_some_iff.mpr ⟨hbucket.symm, hn'⟩
    · intro h servers' hperm key name
      refine (findSome?_perm_iff (a.contribution key name) TopologyNode.uncredited servers).mpr
        (fun s hs s' hs' n n' hn hn' => ?_) servers' hperm
      obtain ⟨hkey, hn⟩ := contribution_eq_some_iff.mp hn
      obtain ⟨hkey', hn'⟩ := contribution_eq_some_iff.mp hn'
      exact h s hs s' hs' (hkey.trans hkey'.symm) name n n' hn hn'
  constructor
  · exact fun h => hsame.mp fun servers' hperm => (h servers' hperm).1
  · intro h servers' hperm
    refine ⟨hsame.mpr h servers' hperm, fun s hs name hreported => ?_⟩
    obtain ⟨n, hn, hstale⟩ := find?_contributed_of_reported hreported
    have hcontributes : a.contribution (bucketKey s) name s = some n :=
      contribution_eq_some_iff.mpr ⟨rfl, hn⟩
    cases hshown : servers'.findSome? (a.contribution (bucketKey s) name) with
    | none =>
      rw [List.findSome?_eq_none_iff.mp hshown s hs] at hcontributes
      cases hcontributes
    | some n' =>
      obtain ⟨s', hs', hn'⟩ := List.exists_of_findSome?_eq_some hshown
      obtain ⟨hbucket, hfind⟩ := contribution_eq_some_iff.mp hn'
      have hname : n'.node = name := by simpa using List.find?_some hfind
      refine ⟨n', mem_nodesOf_clusters.mpr ?_, hname, ?_⟩
      · rw [nodeIn_merge, hname, hshown]
      · have hagree := h s (hperm.mem_iff.mp hs) s' (hperm.mem_iff.mp hs') hbucket.symm name n n'
          hn hfind
        rw [← TopologyNode.stale_uncredited, ← hagree, TopologyNode.stale_uncredited, hstale]

/-! ### A connection that does not answer comes first -/

/-- A connection to the cluster `prod`. -/
def member (id : ServerId) (name : String) : ProxmoxServer where
  id := id
  name := name
  hostname := name
  ipAddress := name
  port := 8006
  apiUser := "root@pam"
  apiTokenName := some "panel"
  apiTokenValue := some "secret"
  usePassword := false
  password := none
  verifySsl := false
  clusterName := some "prod"
  description := none
  isOnline := some true
  lastCheck := none
  lastError := none
  lastErrorKind := none

/-- The first connection has a cached guest on `pve`, the second one reports that node. -/
def halfDown : Assembly where
  seeAll := true
  rows := [⟨⟨1, 100, "pve", .qemu, "web", none, "running", false, none, none, none, none, none, none,
    none, none, none, none, none, none, none, none, none, none, none⟩, none, none⟩]
  ipam := ⟨.empty, []⟩
  networks := []
  live := fun sid => if sid = 2 then
    some ⟨[⟨some "pve", some "online", none, none, none, none, none⟩], [], .empty⟩ else none
  nics := fun _ => []
  includeStopped := true
  includeTemplates := false

theorem halfDown_not_orderFree : ¬halfDown.OrderFree [member 1 "alpha", member 2 "beta"] := by
  intro h
  have hreported : halfDown.Reported (member 2 "beta") "pve" :=
    ⟨_, rfl, by decide, _, List.mem_singleton_self _, rfl⟩
  obtain ⟨n, hn, hname, hstale⟩ := (h _ (List.Perm.refl _)).2 (member 2 "beta") (by simp) "pve"
    hreported
  rw [mem_nodesOf_clusters, nodeIn_merge, hname] at hn
  have hfirst : halfDown.contribution (bucketKey (member 2 "beta")) "pve" (member 1 "alpha") =
      some (halfDown.staleNode (member 1 "alpha") "pve") := by
    rw [contribution_eq_some_iff]
    exact ⟨rfl, rfl⟩
  rw [List.findSome?_cons, hfirst] at hn
  obtain rfl := Option.some.inj hn
  cases hstale

end Assembly

end PveManager.Topology
