import PveManager.Topology.Graph
import PveManager.Topology.Spacing

/-!
# The topology page

The tree that the page lays out has the shape the layout is made for, and a node of it for each
node of the graph. So no two nodes of the graph are drawn over each other, as long as their ids
are apart.
-/

namespace PveManager.Topology

open PveManager.Core
open LayoutNode (nodes forest)

/-- As what a node is drawn. -/
def GraphData.kind : GraphData → LayoutKind
  | .panel _ => .panel
  | .cluster .. => .cluster
  | .pve .. => .pve
  | .guest _ => .guest
  | .guestGroup .. => .guestGroup

/-- What the layout knows of a node. -/
def GraphNode.sized (n : GraphNode) : String × LayoutKind := (n.id, n.data.kind)

def LayoutNode.sized (n : LayoutNode) : String × LayoutKind := (n.id, n.kind)

/-- The rectangle that a node covers on the page. -/
def GraphNode.box (n : GraphNode) : Box Rat where
  x := n.position.x
  y := n.position.y
  width := (nodeSize n.data.kind).width
  height := (nodeSize n.data.kind).height

section Page

variable (filters : TopologyFilters) (expanded : String → Bool)

/-! ### The tree of a drawing -/

/-- The branches that a cluster adds to the tree. -/
def clusterBranches (cluster : TopologyCluster) : List LayoutNode :=
  if (shownNodes filters cluster).isEmpty then []
  else [.mk cluster.id .cluster ((shownNodes filters cluster).map (nodeBranch filters expanded))]

theorem branches_drawGuests (d : Drawing) (node : TopologyNode) :
    (drawGuests filters expanded d node).branches = d.branches := by
  have hfold : ∀ (guests : List TopologyGuest) (d : Drawing),
      (guests.foldl (fun d guest => d.push node.id (guestNode guest)) d).branches =
        d.branches := by
    intro guests
    induction guests with
    | nil => exact fun _ => rfl
    | cons guest guests ih => exact fun d => ih (d.push node.id (guestNode guest))
  unfold drawGuests
  dsimp only
  split
  · rfl
  · exact hfold _ _

/-- The nodes of a cluster add their branches to the cluster's. -/
theorem branches_drawNodes (cluster : TopologyCluster) (nodes : List TopologyNode)
    (d : ClusterDrawing) :
    (nodes.foldl (drawNode filters expanded cluster) d).branches = d.branches ∧
      (nodes.foldl (drawNode filters expanded cluster) d).nodeBranches =
        d.nodeBranches ++ nodes.map (nodeBranch filters expanded) := by
  induction nodes generalizing d with
  | nil => exact ⟨rfl, (List.append_nil _).symm⟩
  | cons node nodes ih =>
    obtain ⟨hbranches, hnodes⟩ := ih (drawNode filters expanded cluster d node)
    have hnode : (drawNode filters expanded cluster d node).branches = d.branches :=
      branches_drawGuests filters expanded _ node
    refine ⟨hbranches.trans hnode, hnodes.trans ?_⟩
    rw [List.map_cons, List.append_cons]
    rfl

theorem branches_drawCluster (d : Drawing) (cluster : TopologyCluster) :
    (drawCluster filters expanded d cluster).branches =
      d.branches ++ clusterBranches filters expanded cluster := by
  unfold drawCluster clusterBranches
  dsimp only
  split
  · exact (List.append_nil _).symm
  · obtain ⟨hbranches, hnodes⟩ := branches_drawNodes filters expanded cluster
      (shownNodes filters cluster)
      { d with
        clusterGuests := 0
        nodeBranches := [] }
    rw [List.nil_append] at hnodes
    rw [hnodes]
    exact congrArg (· ++ _) hbranches

/-- The tree that is laid out for a response. -/
theorem tree_draw (data : NetworkTopologyResponse) :
    (draw filters expanded data).tree = .mk panelId .panel
      ((shownClusters filters data).flatMap (clusterBranches filters expanded)) := by
  have hfold : ∀ (clusters : List TopologyCluster) (d : Drawing),
      (clusters.foldl (drawCluster filters expanded) d).branches =
        d.branches ++ clusters.flatMap (clusterBranches filters expanded) := by
    intro clusters
    induction clusters with
    | nil => exact fun d => (List.append_nil _).symm
    | cons cluster clusters ih =>
      intro d
      rw [List.foldl_cons, ih, branches_drawCluster, List.flatMap_cons, List.append_assoc]
  exact congrArg (LayoutNode.mk panelId .panel) (hfold (shownClusters filters data) _)

theorem shaped_nodeBranch (node : TopologyNode) : Shaped (nodeBranch filters expanded node) := by
  unfold nodeBranch
  split
  · exact ⟨List.forall_mem_singleton.mpr (List.mem_cons_of_mem _ List.mem_cons_self),
      List.forall_mem_singleton.mpr (.leaf _ _)⟩
  · refine ⟨fun child hchild => ?_, fun child hchild => ?_⟩
    · obtain ⟨guest, -, rfl⟩ := List.mem_map.mp hchild
      exact List.mem_cons_self
    · obtain ⟨guest, -, rfl⟩ := List.mem_map.mp hchild
      exact .leaf _ _

/-- The tree has the shape that the layout is made for. -/
theorem shaped_tree_draw (data : NetworkTopologyResponse) :
    Shaped (draw filters expanded data).tree := by
  have hbranch : ∀ cluster, ∀ child ∈ clusterBranches filters expanded cluster,
      child.kind = .cluster ∧ Shaped child := by
    intro cluster child hchild
    unfold clusterBranches at hchild
    split at hchild
    · cases hchild
    · obtain rfl := List.mem_singleton.mp hchild
      refine ⟨rfl, fun branch hmem => ?_, fun branch hmem => ?_⟩
      · obtain ⟨node, -, rfl⟩ := List.mem_map.mp hmem
        exact List.mem_singleton_self _
      · obtain ⟨node, -, rfl⟩ := List.mem_map.mp hmem
        exact shaped_nodeBranch filters expanded node
  rw [tree_draw]
  refine ⟨fun child hchild => ?_, fun child hchild => ?_⟩
  · obtain ⟨cluster, -, hchild⟩ := List.mem_flatMap.mp hchild
    rw [(hbranch cluster child hchild).1]
    exact List.mem_singleton_self _
  · obtain ⟨cluster, -, hchild⟩ := List.mem_flatMap.mp hchild
    exact (hbranch cluster child hchild).2

/-! ### The nodes of the tree are those of the graph -/

theorem forest_eq_flatMap (children : List LayoutNode) :
    forest children = children.flatMap nodes := by
  induction children with
  | nil => rw [forest, List.flatMap_nil]
  | cons child children ih => rw [forest, ih, List.flatMap_cons]

theorem sized_nodes (id : String) (kind : LayoutKind) (children : List LayoutNode) :
    (nodes (.mk id kind children)).map LayoutNode.sized =
      (id, kind) :: children.flatMap fun child => child.nodes.map LayoutNode.sized := by
  rw [nodes, forest_eq_flatMap, List.map_cons, List.map_flatMap]
  rfl

theorem sized_nodeBranch (node : TopologyNode) :
    (nodeBranch filters expanded node).nodes.map LayoutNode.sized =
      (node.id, .pve) :: (guestLinks filters expanded node).map fun link => link.2.sized := by
  unfold nodeBranch guestLinks
  rw [sized_nodes]
  refine congrArg ((node.id, LayoutKind.pve) :: ·) ?_
  split
  · rfl
  · rw [List.flatMap_map, List.map_map, List.map_eq_flatMap]
    refine List.flatMap_congr fun guest _ => ?_
    rw [sized_nodes]
    rfl

theorem sized_clusterBranches_perm (cluster : TopologyCluster) :
    ((clusterBranches filters expanded cluster).flatMap fun branch =>
        branch.nodes.map LayoutNode.sized).Perm
      ((clusterLinks filters expanded cluster).map fun link => link.2.sized) := by
  have hnode : ∀ node, ((nodeBranch filters expanded node).nodes.map LayoutNode.sized).Perm
      ((nodeLinks filters expanded cluster node).map fun link => link.2.sized) := by
    intro node
    unfold nodeLinks
    rw [sized_nodeBranch, List.map_append]
    exact (List.perm_append_singleton _ _).symm
  unfold clusterBranches clusterLinks
  split
  · exact .refl _
  · rw [List.flatMap_singleton, sized_nodes, List.flatMap_map, List.map_append, List.map_flatMap]
    refine List.Perm.trans (List.Perm.cons _ ?_) (List.perm_append_singleton _ _).symm
    exact List.Perm.flatMap_left _ fun node _ => hnode node

/-- Each node of the graph is one of the tree, with the same id and of the same size. -/
theorem sized_tree_perm (data : NetworkTopologyResponse) :
    ((draw filters expanded data).tree.nodes.map LayoutNode.sized).Perm
      ((draw filters expanded data).nodes.map GraphNode.sized) := by
  have hnodes : (draw filters expanded data).nodes.map GraphNode.sized =
      (panelId, .panel) :: (links filters expanded data).map fun link => link.2.sized := by
    rw [(drawn_draw filters expanded data).nodes, List.map_append, List.map_map]
    rfl
  rw [tree_draw, sized_nodes, hnodes, List.flatMap_assoc]
  unfold links
  rw [List.map_flatMap]
  exact List.Perm.cons _ (List.Perm.flatMap_left _ fun cluster _ =>
    sized_clusterBranches_perm filters expanded cluster)

/-- The ids of the tree are distinct where the page's own ids are apart. -/
theorem nodup_ids_tree {data : NetworkTopologyResponse} (hdata : data.ids.Nodup)
    (h : OwnIdsApart filters expanded data) :
    ((draw filters expanded data).tree.nodes.map LayoutNode.id).Nodup := by
  have hids := (sized_tree_perm filters expanded data).map Prod.fst
  rw [List.map_map, List.map_map, (drawn_draw filters expanded data).nodes] at hids
  have hgraph := (nodup_ids_iff filters expanded data hdata).mpr h
  refine (List.Perm.nodup_iff ?_).mpr hgraph
  rw [List.map_append, List.map_map] at hids
  exact hids

end Page

/-- A node gets the box of its place in the tree. -/
theorem GraphNode.box_moveTo {positions : Positions} {n : GraphNode} {t : LayoutNode} {b : Box Rat}
    (hsized : t.sized = n.sized) (hbox : boxOf positions t = some b) :
    (n.moveTo positions).box = b := by
  obtain ⟨hid, hkind⟩ := Prod.mk.inj hsized
  obtain ⟨position, hget, rfl⟩ := Option.map_eq_some_iff.mp hbox
  rw [hid] at hget
  unfold box moveTo
  rw [hget, hkind]
  rfl

/-- Two nodes of the graph are not drawn over each other. -/
theorem buildGraph_apart {data : NetworkTopologyResponse} (hdata : data.ids.Nodup)
    {filters : TopologyFilters} {expanded : String → Bool}
    (h : OwnIdsApart filters expanded data) :
    ∀ m ∈ (buildGraph filters expanded (some data)).nodes,
      ∀ n ∈ (buildGraph filters expanded (some data)).nodes, m.id ≠ n.id → m.box.Apart n.box := by
  have hids := nodup_ids_tree filters expanded hdata h
  have hshaped := shaped_tree_draw filters expanded data
  obtain ⟨lo, hi, hplaced⟩ : ∃ lo hi, Placed (layoutTree (draw filters expanded data).tree
      (draw filters expanded data).options) lo hi (draw filters expanded data).tree.nodes :=
    layoutTree_placed _ hshaped hids
  have hplace : ∀ n ∈ (draw filters expanded data).nodes,
      ∃ t ∈ (draw filters expanded data).tree.nodes, t.sized = n.sized := fun n hn =>
    List.mem_map.mp ((sized_tree_perm filters expanded data).mem_iff.mpr (List.mem_map_of_mem hn))
  intro m' hm' n' hn' hne
  obtain ⟨m, hm, rfl⟩ := List.mem_map.mp hm'
  obtain ⟨n, hn, rfl⟩ := List.mem_map.mp hn'
  obtain ⟨t, ht, hmsized⟩ := hplace m hm
  obtain ⟨u, hu, hnsized⟩ := hplace n hn
  obtain ⟨a, ha, -⟩ := hplaced.banded t ht
  obtain ⟨b, hb, -⟩ := hplaced.banded u hu
  rw [GraphNode.box_moveTo hmsized ha, GraphNode.box_moveTo hnsized hb]
  refine hplaced.clear.forall ht hu (fun heq => hne ?_) a ha b hb
  rw [heq] at hmsized
  have hid : m.id = n.id := congrArg Prod.fst (hmsized.symm.trans hnsized)
  exact hid

/-- Expanded, the crossed response is drawn apart. -/
theorem buildGraph_apart_crossed : OwnIdsApart groupFilters (fun _ => true) crossedResponse ∧
    ∀ m ∈ (buildGraph groupFilters (fun _ => true) (some crossedResponse)).nodes,
      ∀ n ∈ (buildGraph groupFilters (fun _ => true) (some crossedResponse)).nodes,
        m.id ≠ n.id → m.box.Apart n.box := by
  have hown : OwnIdsApart groupFilters (fun _ => true) crossedResponse := by
    refine ⟨fun h => ?_, fun node hnode => ?_⟩
    · refine absurd ((drawnIds_sublist groupFilters _ crossedResponse).subset h) ?_
      have hids : crossedResponse.ids =
        ["guest:1:100", "guest:1:101", "node:1:pve", "node:1:pve:group", "cluster:server:1"] := rfl
      rw [hids]
      decide
    · have hcollapse := (List.mem_filter.mp hnode).2
      simp [collapse] at hcollapse
  exact ⟨hown, buildGraph_apart nodup_crossedResponse hown⟩

end PveManager.Topology
