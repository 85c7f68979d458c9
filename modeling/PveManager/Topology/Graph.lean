import Mathlib.Data.List.Flatten
import Mathlib.Data.List.Nodup
import Mathlib.Data.List.Perm.Basic
import PveManager.Topology.Endpoint
import PveManager.Topology.Layout

/-!
# The graph on the topology page

The page turns the answer of the server into nodes and edges. A node whose guests are too many
shows one group instead of them; the ids of the panel and of the groups are the page's own.
-/

namespace PveManager.Topology

open PveManager.Core

def panelId : String := "panel:root"

def guestsPerRow : Nat := 6

inductive VmStatusFilter
  | all
  | running
  | stopped

structure TopologyFilters where
  /-- `none` shows all connections. -/
  serverId : Option ServerId
  vmStatus : VmStatusFilter
  /-- 0 switches grouping off. -/
  groupThreshold : Rat

/-- What a node of the graph shows. -/
inductive GraphData
  | panel (panel : TopologyPanelSummary)
  | cluster (cluster : TopologyCluster) (nodeCount guestCount : Nat)
  | pve (node : TopologyNode) (guestCount : Nat)
  | guest (guest : TopologyGuest)
  | guestGroup (parentId : String) (total running stopped : Nat)

structure GraphNode where
  id : String
  position : XY
  data : GraphData

structure GraphEdge where
  id : String
  source : String
  target : String

structure BuildGraphResult where
  nodes : List GraphNode
  edges : List GraphEdge
  filteredOut : Nat

def matchesStatus (filter : VmStatusFilter) (guest : TopologyGuest) : Bool :=
  match filter with
  | .all => true
  | .running => guest.status == "running"
  | .stopped => guest.status != "running"

/-- What has been drawn so far. -/
structure Drawing where
  nodes : List GraphNode
  edges : List GraphEdge
  filteredOut : Nat
  widestGuestList : Nat
  /-- The children of the layout's root. -/
  branches : List LayoutNode

/-- A drawing with what has been gathered for a cluster. -/
structure ClusterDrawing extends Drawing where
  clusterGuests : Nat
  /-- The children of the cluster's branch. -/
  nodeBranches : List LayoutNode

/-- A node and the edge to it. -/
def Drawing.push (d : Drawing) (source : String) (node : GraphNode) : Drawing :=
  { d with
    nodes := d.nodes ++ [node]
    edges := d.edges ++ [⟨"e:" ++ source ++ ":" ++ node.id, source, node.id⟩] }

def groupId (node : TopologyNode) : String := node.id ++ ":group"

section Draw

variable (filters : TopologyFilters) (expanded : String → Bool)

/-- The guests that pass the status filter. -/
def visibleGuests (node : TopologyNode) : List TopologyGuest :=
  node.guests.filter (matchesStatus filters.vmStatus)

def collapse (node : TopologyNode) : Bool :=
  decide (filters.groupThreshold > 0) &&
    decide (((visibleGuests filters node).length : Rat) > filters.groupThreshold) &&
    !expanded node.id

def guestNode (guest : TopologyGuest) : GraphNode := ⟨guest.id, ⟨0, 0⟩, .guest guest⟩

def groupNode (node : TopologyNode) : GraphNode :=
  let visible := visibleGuests filters node
  let running := (visible.filter fun guest => guest.status == "running").length
  ⟨groupId node, ⟨0, 0⟩, .guestGroup node.id visible.length running (visible.length - running)⟩

def pveNode (node : TopologyNode) : GraphNode :=
  ⟨node.id, ⟨0, 0⟩, .pve node (visibleGuests filters node).length⟩

/-- The branch of a node in the layout. -/
def nodeBranch (node : TopologyNode) : LayoutNode :=
  .mk node.id .pve
    (if collapse filters expanded node then [.mk (groupId node) .guestGroup []]
    else (visibleGuests filters node).map fun guest => .mk guest.id .guest [])

/-- The nodes and edges below a node, without its own. -/
def drawGuests (d : Drawing) (node : TopologyNode) : Drawing :=
  let visible := visibleGuests filters node
  if collapse filters expanded node then d.push node.id (groupNode filters node)
  else
    visible.foldl (fun d guest => d.push node.id (guestNode guest))
      { d with widestGuestList := max d.widestGuestList visible.length }

/-- One round of the loop over a cluster's nodes. -/
def drawNode (cluster : TopologyCluster) (d : ClusterDrawing) (node : TopologyNode) :
    ClusterDrawing :=
  let visible := visibleGuests filters node
  let guests := drawGuests filters expanded
    { d.toDrawing with filteredOut := d.filteredOut + (node.guests.length - visible.length) } node
  { guests.push cluster.id (pveNode filters node) with
    clusterGuests := d.clusterGuests + visible.length
    nodeBranches := d.nodeBranches ++ [nodeBranch filters expanded node] }

/-- The nodes of a cluster that the connection filter leaves. -/
def shownNodes (cluster : TopologyCluster) : List TopologyNode :=
  match filters.serverId with
  | none => cluster.nodes
  | some sid => cluster.nodes.filter fun node => node.serverId == sid

def clusterNode (cluster : TopologyCluster) (guestCount : Nat) : GraphNode :=
  ⟨cluster.id, ⟨0, 0⟩, .cluster cluster (shownNodes filters cluster).length guestCount⟩

/-- One round of the loop over the clusters. -/
def drawCluster (d : Drawing) (cluster : TopologyCluster) : Drawing :=
  let pveNodes := shownNodes filters cluster
  if pveNodes.isEmpty then d
  else
    let drawn := pveNodes.foldl (drawNode filters expanded cluster)
      { d with
        clusterGuests := 0
        nodeBranches := [] }
    { drawn.push panelId (clusterNode filters cluster drawn.clusterGuests) with
      branches := drawn.branches ++ [.mk cluster.id .cluster drawn.nodeBranches] }

/-- The clusters that the connection filter leaves. -/
def shownClusters (data : NetworkTopologyResponse) : List TopologyCluster :=
  match filters.serverId with
  | none => data.clusters
  | some sid => data.clusters.filter fun cluster => cluster.serverIds.contains sid

def panelNode (data : NetworkTopologyResponse) : GraphNode := ⟨panelId, ⟨0, 0⟩, .panel data.panel⟩

/-- The whole drawing, before the layout. -/
def draw (data : NetworkTopologyResponse) : Drawing :=
  (shownClusters filters data).foldl (drawCluster filters expanded)
    ⟨[panelNode data], [], 0, 0, []⟩

/-- The tree that is laid out. -/
def Drawing.tree (d : Drawing) : LayoutNode := .mk panelId .panel d.branches

def Drawing.options (d : Drawing) : LayoutOptions where
  guestsPerRow := if d.widestGuestList > guestsPerRow + 2 then some guestsPerRow else none

/-- The node at its place in the layout. -/
def GraphNode.moveTo (positions : Positions) (node : GraphNode) : GraphNode :=
  { node with position := (positions.get? node.id).getD node.position }

/-- `buildGraph`. -/
def buildGraph (data : Option NetworkTopologyResponse) : BuildGraphResult :=
  match data with
  | none => ⟨[], [], 0⟩
  | some data =>
    let d := draw filters expanded data
    let positions := layoutTree d.tree d.options
    ⟨d.nodes.map (GraphNode.moveTo positions), d.edges, d.filteredOut⟩

end Draw

/-! ### What a faithful graph is -/

/-- The ids of a response. -/
def NetworkTopologyResponse.ids (data : NetworkTopologyResponse) : List String :=
  data.clusters.flatMap fun cluster =>
    (cluster.nodes.flatMap fun node => node.guests.map TopologyGuest.id ++ [node.id]) ++
      [cluster.id]

namespace GraphNode

def node? (n : GraphNode) : Option TopologyNode :=
  match n.data with
  | .pve node _ => some node
  | _ => none

def guest? (n : GraphNode) : Option TopologyGuest :=
  match n.data with
  | .guest guest => some guest
  | _ => none

/-- How many guests a group counts. -/
def total? (n : GraphNode) : Option Nat :=
  match n.data with
  | .guestGroup _ total _ _ => some total
  | _ => none

end GraphNode

namespace BuildGraphResult

def ids (r : BuildGraphResult) : List String := r.nodes.map GraphNode.id

/-- The nodes at the ends of the edges from a node. -/
def children (r : BuildGraphResult) (id : String) : List GraphNode :=
  (r.edges.filter fun edge => edge.source == id).filterMap fun edge =>
    r.nodes.find? fun n => n.id == edge.target

end BuildGraphResult

/-- The guests that the status filter hides. -/
def hiddenGuests (filters : TopologyFilters) (node : TopologyNode) : List TopologyGuest :=
  node.guests.filter fun guest => !matchesStatus filters.vmStatus guest

/-- The graph is a tree that accounts for every guest. -/
structure Faithful (filters : TopologyFilters) (r : BuildGraphResult) : Prop where
  distinct : r.ids.Nodup
  incoming : ∀ n ∈ r.nodes, n.id ≠ panelId →
    (r.edges.filter fun edge => edge.target == n.id).length = 1
  closed : ∀ edge ∈ r.edges, edge.source ∈ r.ids ∧ edge.target ∈ r.ids
  /-- All visible guests of a node are shown, or all are counted in its group. -/
  accounted : ∀ n ∈ r.nodes, ∀ node ∈ n.node?,
    let guests := (r.children node.id).filterMap GraphNode.guest?
    let totals := (r.children node.id).filterMap GraphNode.total?
    guests = visibleGuests filters node ∧ totals = [] ∨
      guests = [] ∧ totals = [(visibleGuests filters node).length]
  filteredOut : r.filteredOut =
    ((r.nodes.filterMap GraphNode.node?).map fun node => (hiddenGuests filters node).length).sum

/-! ### What is drawn -/

section Links

variable (filters : TopologyFilters) (expanded : String → Bool) {d d' d'' : Drawing}

/-- A node with the source of the edge to it. -/
abbrev Link := String × GraphNode

def Link.edge (link : Link) : GraphEdge :=
  ⟨"e:" ++ link.1 ++ ":" ++ link.2.id, link.1, link.2.id⟩

/-- A drawing went on by nodes with the edges to them. -/
structure Drawn (d : Drawing) (links : List Link) (hidden : Nat) (d' : Drawing) : Prop where
  nodes : d'.nodes = d.nodes ++ links.map Prod.snd
  edges : d'.edges = d.edges ++ links.map Link.edge
  filteredOut : d'.filteredOut = d.filteredOut + hidden

theorem Drawn.trans {ls ls' : List Link} {n n' : Nat} (h : Drawn d ls n d')
    (h' : Drawn d' ls' n' d'') : Drawn d (ls ++ ls') (n + n') d'' where
  nodes := by rw [h'.nodes, h.nodes, List.map_append, List.append_assoc]
  edges := by rw [h'.edges, h.edges, List.map_append, List.append_assoc]
  filteredOut := by rw [h'.filteredOut, h.filteredOut, Nat.add_assoc]

theorem drawn_refl (d : Drawing) : Drawn d [] 0 d :=
  ⟨(List.append_nil _).symm, (List.append_nil _).symm, rfl⟩

theorem drawn_push (d : Drawing) (source : String) (node : GraphNode) :
    Drawn d [(source, node)] 0 (d.push source node) :=
  ⟨rfl, rfl, rfl⟩

/-- The links below a node. -/
def guestLinks (node : TopologyNode) : List Link :=
  if collapse filters expanded node then [(node.id, groupNode filters node)]
  else (visibleGuests filters node).map fun guest => (node.id, guestNode guest)

/-- The links of a node. -/
def nodeLinks (cluster : TopologyCluster) (node : TopologyNode) : List Link :=
  guestLinks filters expanded node ++ [(cluster.id, pveNode filters node)]

/-- The guests that are shown or counted in a cluster. -/
def clusterGuests (cluster : TopologyCluster) : Nat :=
  ((shownNodes filters cluster).map fun node => (visibleGuests filters node).length).sum

/-- The links of a cluster. -/
def clusterLinks (cluster : TopologyCluster) : List Link :=
  if (shownNodes filters cluster).isEmpty then []
  else (shownNodes filters cluster).flatMap (nodeLinks filters expanded cluster) ++
    [(panelId, clusterNode filters cluster (clusterGuests filters cluster))]

/-- All links of the graph. -/
def links (data : NetworkTopologyResponse) : List Link :=
  (shownClusters filters data).flatMap (clusterLinks filters expanded)

/-- The guests of nodes that the status filter hides. -/
def hiddenCount (nodes : List TopologyNode) : Nat :=
  (nodes.map fun node => (hiddenGuests filters node).length).sum

theorem length_visibleGuests (node : TopologyNode) :
    node.guests.length - (visibleGuests filters node).length =
      (hiddenGuests filters node).length := by
  have hlength := List.length_eq_length_filter_add (l := node.guests)
    (matchesStatus filters.vmStatus)
  unfold visibleGuests hiddenGuests
  omega

theorem drawn_drawGuests (d : Drawing) (node : TopologyNode) :
    Drawn d (guestLinks filters expanded node) 0 (drawGuests filters expanded d node) := by
  have hfold : ∀ (guests : List TopologyGuest) (d : Drawing),
      Drawn d (guests.map fun guest => (node.id, guestNode guest)) 0
        (guests.foldl (fun d guest => d.push node.id (guestNode guest)) d) := by
    intro guests
    induction guests with
    | nil => exact drawn_refl
    | cons guest guests ih => exact fun d => (drawn_push d _ _).trans (ih _)
  unfold drawGuests guestLinks
  dsimp only
  split
  · exact drawn_push d _ _
  · obtain ⟨hnodes, hedges, hfiltered⟩ := hfold (visibleGuests filters node)
      { d with
        widestGuestList := max d.widestGuestList (visibleGuests filters node).length }
    exact ⟨hnodes, hedges, hfiltered⟩

theorem drawn_drawNode (cluster : TopologyCluster) (d : ClusterDrawing) (node : TopologyNode) :
    Drawn d.toDrawing (nodeLinks filters expanded cluster node) (hiddenGuests filters node).length
      (drawNode filters expanded cluster d node).toDrawing := by
  obtain ⟨hnodes, hedges, hfiltered⟩ := drawn_drawGuests filters expanded
    { d.toDrawing with
      filteredOut := d.filteredOut + (node.guests.length - (visibleGuests filters node).length) }
    node
  have hhidden := hfiltered.trans
    (congrArg (d.filteredOut + ·) (length_visibleGuests filters node))
  have hguests : Drawn d.toDrawing (guestLinks filters expanded node)
      (hiddenGuests filters node).length _ := ⟨hnodes, hedges, hhidden⟩
  exact hguests.trans (drawn_push _ _ _)

/-- The nodes of a cluster, drawn one after the other. -/
theorem drawn_nodes (cluster : TopologyCluster) (nodes : List TopologyNode) (d : ClusterDrawing) :
    Drawn d.toDrawing (nodes.flatMap (nodeLinks filters expanded cluster))
        (hiddenCount filters nodes)
        (nodes.foldl (drawNode filters expanded cluster) d).toDrawing ∧
      (nodes.foldl (drawNode filters expanded cluster) d).clusterGuests =
        d.clusterGuests + (nodes.map fun node => (visibleGuests filters node).length).sum := by
  induction nodes generalizing d with
  | nil => exact ⟨drawn_refl d.toDrawing, rfl⟩
  | cons node nodes ih =>
    obtain ⟨hdrawn, hguests⟩ := ih (drawNode filters expanded cluster d node)
    refine ⟨(drawn_drawNode filters expanded cluster d node).trans hdrawn, hguests.trans ?_⟩
    rw [List.map_cons, List.sum_cons, ← Nat.add_assoc]
    rfl

theorem drawn_drawCluster (d : Drawing) (cluster : TopologyCluster) :
    Drawn d (clusterLinks filters expanded cluster)
      (hiddenCount filters (shownNodes filters cluster))
      (drawCluster filters expanded d cluster) := by
  unfold drawCluster clusterLinks
  dsimp only
  cases hempty : (shownNodes filters cluster).isEmpty with
  | true =>
    rw [if_pos rfl, if_pos rfl, List.isEmpty_iff.mp hempty]
    exact drawn_refl d
  | false =>
    obtain ⟨hnodes, hguests⟩ := drawn_nodes filters expanded cluster (shownNodes filters cluster)
      { d with
        clusterGuests := 0
        nodeBranches := [] }
    rw [Nat.zero_add] at hguests
    rw [if_neg Bool.false_ne_true, if_neg Bool.false_ne_true, hguests]
    obtain ⟨hn, he, hf⟩ := hnodes.trans (drawn_push _ panelId
      (clusterNode filters cluster (clusterGuests filters cluster)))
    exact ⟨hn, he, hf⟩

/-- All nodes that the connection filter leaves. -/
def allNodes (data : NetworkTopologyResponse) : List TopologyNode :=
  (shownClusters filters data).flatMap (shownNodes filters)

theorem drawn_draw (data : NetworkTopologyResponse) :
    Drawn ⟨[panelNode data], [], 0, 0, []⟩ (links filters expanded data)
      (hiddenCount filters (allNodes filters data)) (draw filters expanded data) := by
  have hfold : ∀ (clusters : List TopologyCluster) (d : Drawing),
      Drawn d (clusters.flatMap (clusterLinks filters expanded))
        (hiddenCount filters (clusters.flatMap (shownNodes filters)))
        (clusters.foldl (drawCluster filters expanded) d) := by
    intro clusters
    induction clusters with
    | nil => exact drawn_refl
    | cons cluster clusters ih =>
      intro d
      have hsum : hiddenCount filters ((cluster :: clusters).flatMap (shownNodes filters)) =
          hiddenCount filters (shownNodes filters cluster) +
            hiddenCount filters (clusters.flatMap (shownNodes filters)) := by
        unfold hiddenCount
        rw [List.flatMap_cons, List.map_append, List.sum_append]
      rw [hsum]
      exact (drawn_drawCluster filters expanded d cluster).trans (ih _)
  exact hfold (shownClusters filters data) _

end Links

/-! ### The ids of the graph -/

section Ids

variable (filters : TopologyFilters) (expanded : String → Bool) (data : NetworkTopologyResponse)

/-- The ids of the response that are drawn. -/
def drawnIds : List String :=
  (shownClusters filters data).flatMap fun cluster =>
    if (shownNodes filters cluster).isEmpty then []
    else
      ((shownNodes filters cluster).flatMap fun node =>
        (if collapse filters expanded node then []
          else (visibleGuests filters node).map TopologyGuest.id) ++ [node.id]) ++ [cluster.id]

/-- The nodes that are drawn with a group. -/
def collapsedNodes : List TopologyNode :=
  (allNodes filters data).filter (collapse filters expanded)

/-- No drawn id of the response is one of the page's own. -/
structure OwnIdsApart : Prop where
  panel : panelId ∉ drawnIds filters expanded data
  group : ∀ node ∈ collapsedNodes filters expanded data,
    groupId node ∉ drawnIds filters expanded data

theorem sublist_ite {α : Type} {c : Prop} [Decidable c] {xs ys : List α} (h : xs.Sublist ys) :
    (if c then [] else xs).Sublist ys := by
  split
  · exact List.nil_sublist ys
  · exact h

theorem shownNodes_sublist (cluster : TopologyCluster) :
    (shownNodes filters cluster).Sublist cluster.nodes := by
  unfold shownNodes
  split
  · exact List.Sublist.refl _
  · exact List.filter_sublist

theorem shownClusters_sublist : (shownClusters filters data).Sublist data.clusters := by
  unfold shownClusters
  split
  · exact List.Sublist.refl _
  · exact List.filter_sublist

/-- The filters only leave out. -/
theorem drawnIds_sublist : (drawnIds filters expanded data).Sublist data.ids := by
  unfold drawnIds NetworkTopologyResponse.ids
  refine List.Sublist.trans ?_ ((shownClusters_sublist filters data).flatMap _)
  refine List.Sublist.flatMap_right _ fun cluster _ => sublist_ite ?_
  refine List.Sublist.append ?_ (List.Sublist.refl _)
  refine List.Sublist.trans ?_ ((shownNodes_sublist filters cluster).flatMap _)
  refine List.Sublist.flatMap_right _ fun node _ => ?_
  exact List.Sublist.append (sublist_ite (List.filter_sublist.map _)) (List.Sublist.refl _)

theorem allNodes_sublist :
    ((allNodes filters data).map TopologyNode.id).Sublist (drawnIds filters expanded data) := by
  unfold allNodes drawnIds
  rw [List.map_flatMap]
  refine List.Sublist.flatMap_right _ fun cluster _ => ?_
  cases hempty : (shownNodes filters cluster).isEmpty with
  | true =>
    rw [List.isEmpty_iff.mp hempty]
    exact List.nil_sublist _
  | false =>
    rw [if_neg Bool.false_ne_true, List.map_eq_flatMap]
    refine List.Sublist.trans ?_ (List.sublist_append_left _ _)
    exact List.Sublist.flatMap_right _ fun node _ => List.sublist_append_right _ _

theorem groupId_injective {node node' : TopologyNode} (h : groupId node = groupId node') :
    node.id = node'.id :=
  (String.append_left_inj ":group").mp h

theorem groupId_ne_panelId (node : TopologyNode) : groupId node ≠ panelId := by
  intro h
  have hlast := congrArg (fun s : String => s.toList.getLast?) h
  unfold groupId panelId at hlast
  simp at hlast

/-- The ids below the nodes are drawn ids or ids of groups. -/
theorem guestLinks_ids (node : TopologyNode) :
    ((guestLinks filters expanded node).map fun link => link.2.id) =
      (if collapse filters expanded node then []
        else (visibleGuests filters node).map TopologyGuest.id) ++
      if collapse filters expanded node then [groupId node] else [] := by
  unfold guestLinks
  split
  · rfl
  · rw [List.append_nil, List.map_map]
    rfl

theorem append_right_comm_perm {α : Type} (xs ys zs : List α) :
    (xs ++ ys ++ zs).Perm (xs ++ zs ++ ys) := by
  rw [List.append_assoc, List.append_assoc]
  exact List.perm_append_comm.append_left xs

/-- The drawn nodes of a cluster have ids of the response or ids of groups. -/
theorem clusterLinks_ids_perm (cluster : TopologyCluster) :
    ((clusterLinks filters expanded cluster).map fun link => link.2.id).Perm
      ((if (shownNodes filters cluster).isEmpty then []
        else
          ((shownNodes filters cluster).flatMap fun node =>
            (if collapse filters expanded node then []
              else (visibleGuests filters node).map TopologyGuest.id) ++ [node.id]) ++
                [cluster.id]) ++
        (shownNodes filters cluster).flatMap fun node =>
          if collapse filters expanded node then [groupId node] else []) := by
  have hnode : ∀ node : TopologyNode,
      ((nodeLinks filters expanded cluster node).map fun link => link.2.id).Perm
        ((if collapse filters expanded node then []
          else (visibleGuests filters node).map TopologyGuest.id) ++ [node.id] ++
            if collapse filters expanded node then [groupId node] else []) := by
    intro node
    unfold nodeLinks
    rw [List.map_append, guestLinks_ids]
    exact append_right_comm_perm _ _ _
  unfold clusterLinks
  cases hempty : (shownNodes filters cluster).isEmpty with
  | true =>
    rw [if_pos rfl, if_pos rfl, List.isEmpty_iff.mp hempty]
    exact List.Perm.refl _
  | false =>
    rw [if_neg Bool.false_ne_true, if_neg Bool.false_ne_true, List.map_append, List.map_flatMap]
    refine List.Perm.trans (List.Perm.append_right _ ?_) (append_right_comm_perm _ _ _)
    exact (List.Perm.flatMap_left _ fun node _ => hnode node).trans
      (List.flatMap_append_perm _ _ _).symm

theorem collapsedNodes_ids :
    (collapsedNodes filters expanded data).map groupId =
      (shownClusters filters data).flatMap fun cluster =>
        (shownNodes filters cluster).flatMap fun node =>
          if collapse filters expanded node then [groupId node] else [] := by
  have hfilter : ∀ nodes : List TopologyNode,
      (nodes.filter (collapse filters expanded)).map groupId =
        nodes.flatMap fun node =>
          if collapse filters expanded node then [groupId node] else [] := by
    intro nodes
    induction nodes with
    | nil => rfl
    | cons node nodes ih =>
      rw [List.flatMap_cons, ← ih, List.filter_cons]
      split <;> rfl
  unfold collapsedNodes allNodes
  rw [List.filter_flatMap, List.map_flatMap]
  exact List.flatMap_congr fun cluster _ => hfilter (shownNodes filters cluster)

/-- The ids of the graph are drawn ids of the response, and ids of groups. -/
theorem links_ids_perm :
    ((links filters expanded data).map fun link => link.2.id).Perm
      (drawnIds filters expanded data ++ (collapsedNodes filters expanded data).map groupId) := by
  unfold links drawnIds
  rw [collapsedNodes_ids, List.map_flatMap]
  exact (List.Perm.flatMap_left _ fun cluster _ =>
    clusterLinks_ids_perm filters expanded cluster).trans (List.flatMap_append_perm _ _ _).symm

/-- The ids of the graph are distinct just where the page's own are apart. -/
theorem nodup_ids_iff (hids : data.ids.Nodup) :
    (panelId :: (links filters expanded data).map fun link => link.2.id).Nodup ↔
      OwnIdsApart filters expanded data := by
  have hdrawn : (drawnIds filters expanded data).Nodup :=
    hids.sublist (drawnIds_sublist filters expanded data)
  have hcollapsed : ((collapsedNodes filters expanded data).map TopologyNode.id).Nodup :=
    hdrawn.sublist ((List.filter_sublist.map _).trans (allNodes_sublist filters expanded data))
  have hgroups : ((collapsedNodes filters expanded data).map groupId).Nodup := by
    refine (List.nodup_map_iff_inj_on hcollapsed.of_map).mpr fun node hnode node' hnode' h => ?_
    exact List.inj_on_of_nodup_map hcollapsed hnode hnode' (groupId_injective h)
  have hperm := links_ids_perm filters expanded data
  rw [(hperm.cons panelId).nodup_iff, List.nodup_cons, List.nodup_append', List.mem_append,
    List.disjoint_right]
  constructor
  · rintro ⟨hpanel, -, -, hdisjoint⟩
    refine ⟨fun h => hpanel (Or.inl h), fun node hnode => hdisjoint ?_⟩
    exact List.mem_map_of_mem hnode
  · rintro ⟨hpanel, hgroup⟩
    refine ⟨not_or.mpr ⟨hpanel, ?_⟩, hdrawn, hgroups, ?_⟩
    · intro hmem
      obtain ⟨node, -, heq⟩ := List.mem_map.mp hmem
      exact groupId_ne_panelId node heq
    · intro id hmem
      obtain ⟨node, hnode, rfl⟩ := List.mem_map.mp hmem
      exact hgroup node hnode

end Ids

/-! ### The finished graph -/

section GraphOf

variable (positions : Positions) (data : NetworkTopologyResponse) (ls : List Link) (hidden : Nat)

/-- The graph with the panel and some links. -/
def graphOf : BuildGraphResult :=
  ⟨(panelNode data :: ls.map Prod.snd).map (GraphNode.moveTo positions), ls.map Link.edge, hidden⟩

theorem ids_graphOf :
    (graphOf positions data ls hidden).ids = panelId :: ls.map fun link => link.2.id := by
  unfold BuildGraphResult.ids graphOf
  rw [List.map_map, List.map_cons, List.map_map]
  rfl

theorem mem_ids_graphOf {link : Link} (h : link ∈ ls) :
    link.2.id ∈ (graphOf positions data ls hidden).ids := by
  rw [ids_graphOf]
  exact List.mem_cons_of_mem _ (List.mem_map_of_mem h)

/-- A node of the graph is the panel or has a link. -/
theorem mem_nodes_graphOf {n : GraphNode} (h : n ∈ (graphOf positions data ls hidden).nodes) :
    n = (panelNode data).moveTo positions ∨ ∃ link ∈ ls, n = link.2.moveTo positions := by
  obtain ⟨n', hn', rfl⟩ := List.mem_map.mp h
  rcases List.mem_cons.mp hn' with rfl | hn'
  · exact Or.inl rfl
  · obtain ⟨link, hlink, rfl⟩ := List.mem_map.mp hn'
    exact Or.inr ⟨link, hlink, rfl⟩

variable {positions data ls hidden}

/-- A link is the only edge to its node. -/
theorem length_incoming (hids : (ls.map fun link => link.2.id).Nodup) {link : Link}
    (h : link ∈ ls) :
    ((graphOf positions data ls hidden).edges.filter
      fun edge => edge.target == link.2.id).length = 1 := by
  have hcount := List.count_eq_one_of_mem hids
    (List.mem_map_of_mem (f := fun link : Link => link.2.id) h)
  rw [List.count_eq_countP, List.countP_map] at hcount
  unfold graphOf
  rw [List.filter_map, List.length_map, ← List.countP_eq_length_filter]
  exact hcount

/-- The children of a node are the nodes that are linked to it. -/
theorem children_graphOf (hids : (panelId :: ls.map fun link => link.2.id).Nodup) (id : String) :
    (graphOf positions data ls hidden).children id =
      (ls.filter fun link => link.1 == id).map fun link => link.2.moveTo positions := by
  have hnodup : (graphOf positions data ls hidden).ids.Nodup := by
    rwa [ids_graphOf]
  have hfind : ∀ link ∈ ls, (graphOf positions data ls hidden).nodes.find?
      (fun n => n.id == link.2.id) = some (link.2.moveTo positions) := by
    intro link hlink
    have hmem : link.2.moveTo positions ∈ (graphOf positions data ls hidden).nodes :=
      List.mem_map_of_mem (List.mem_cons_of_mem _ (List.mem_map_of_mem hlink))
    exact KeyedTable.find?_key ⟨(graphOf positions data ls hidden).nodes, hnodup⟩ hmem
  have hedges : (graphOf positions data ls hidden).edges.filter (fun edge => edge.source == id) =
      (ls.filter fun link => link.1 == id).map Link.edge := List.filter_map
  unfold BuildGraphResult.children
  rw [hedges, List.filterMap_map, ← List.filterMap_eq_map]
  exact List.filterMap_congr fun link hlink => hfind link (List.mem_filter.mp hlink).1

end GraphOf

section Faithful

variable {filters : TopologyFilters} {expanded : String → Bool} {data : NetworkTopologyResponse}

theorem buildGraph_eq (filters : TopologyFilters) (expanded : String → Bool)
    (data : NetworkTopologyResponse) :
    ∃ positions, buildGraph filters expanded (some data) =
      graphOf positions data (links filters expanded data)
        (hiddenCount filters (allNodes filters data)) := by
  obtain ⟨hnodes, hedges, hfiltered⟩ := drawn_draw filters expanded data
  refine ⟨layoutTree (draw filters expanded data).tree (draw filters expanded data).options, ?_⟩
  unfold buildGraph graphOf
  dsimp only
  rw [hnodes, hedges, hfiltered, Nat.zero_add]
  rfl

/-- A link is below a node, leads to a node, or leads to a cluster. -/
theorem mem_links_iff {link : Link} :
    link ∈ links filters expanded data ↔
      ∃ cluster ∈ shownClusters filters data,
        (∃ node ∈ shownNodes filters cluster, link ∈ guestLinks filters expanded node ∨
          link = (cluster.id, pveNode filters node)) ∨
        shownNodes filters cluster ≠ [] ∧
          link = (panelId, clusterNode filters cluster (clusterGuests filters cluster)) := by
  unfold links
  rw [List.mem_flatMap]
  refine exists_congr fun cluster => and_congr_right fun _ => ?_
  unfold clusterLinks
  cases hshown : shownNodes filters cluster with
  | nil => simp
  | cons node nodes =>
    rw [List.isEmpty_cons, if_neg Bool.false_ne_true, List.mem_append, List.mem_flatMap,
      List.mem_singleton]
    simp [nodeLinks]

theorem mem_allNodes_iff {node : TopologyNode} :
    node ∈ allNodes filters data ↔
      ∃ cluster ∈ shownClusters filters data, node ∈ shownNodes filters cluster :=
  List.mem_flatMap

/-- Links below a node start at it and show no hypervisor node. -/
theorem of_mem_guestLinks {node : TopologyNode} {link : Link}
    (h : link ∈ guestLinks filters expanded node) : link.1 = node.id ∧ link.2.node? = none := by
  unfold guestLinks at h
  split at h
  · obtain rfl := List.mem_singleton.mp h
    exact ⟨rfl, rfl⟩
  · obtain ⟨guest, -, rfl⟩ := List.mem_map.mp h
    exact ⟨rfl, rfl⟩

/-- Every edge starts at the panel or at a node that has an edge itself. -/
theorem source_mem {link : Link} (h : link ∈ links filters expanded data) :
    link.1 = panelId ∨ ∃ parent ∈ links filters expanded data, link.1 = parent.2.id := by
  obtain ⟨cluster, hcluster, ⟨node, hnode, hlink⟩ | ⟨-, rfl⟩⟩ := mem_links_iff.mp h
  · rcases hlink with hlink | rfl
    · exact Or.inr ⟨_, mem_links_iff.mpr ⟨cluster, hcluster, Or.inl ⟨node, hnode, Or.inr rfl⟩⟩,
        (of_mem_guestLinks hlink).1⟩
    · exact Or.inr ⟨_, mem_links_iff.mpr ⟨cluster, hcluster,
        Or.inr ⟨List.ne_nil_of_mem hnode, rfl⟩⟩, rfl⟩
  · exact Or.inl rfl

/-- A hypervisor node of the graph is one that the filters leave. -/
theorem of_node?_eq_some {link : Link} {node : TopologyNode}
    (h : link ∈ links filters expanded data) (hnode : link.2.node? = some node) :
    node ∈ allNodes filters data := by
  obtain ⟨cluster, hcluster, ⟨node', hnode', hlink⟩ | ⟨-, rfl⟩⟩ := mem_links_iff.mp h
  · rcases hlink with hlink | rfl
    · rw [(of_mem_guestLinks hlink).2] at hnode
      cases hnode
    · cases hnode
      exact mem_allNodes_iff.mpr ⟨cluster, hcluster, hnode'⟩
  · cases hnode

theorem filterMap_node?_links :
    (links filters expanded data).filterMap (fun link => link.2.node?) = allNodes filters data := by
  have hguests : ∀ node : TopologyNode,
      (guestLinks filters expanded node).filterMap (fun link => link.2.node?) = [] := fun node =>
    List.filterMap_eq_nil_iff.mpr fun link hlink => (of_mem_guestLinks hlink).2
  unfold links allNodes
  rw [List.filterMap_flatMap]
  refine List.flatMap_congr fun cluster _ => ?_
  unfold clusterLinks
  cases hempty : (shownNodes filters cluster).isEmpty with
  | true =>
    rw [List.isEmpty_iff.mp hempty]
    rfl
  | false =>
    have hnode : ∀ node : TopologyNode, (nodeLinks filters expanded cluster node).filterMap
        (fun link => link.2.node?) = [node] := by
      intro node
      unfold nodeLinks
      rw [List.filterMap_append, hguests]
      rfl
    rw [if_neg Bool.false_ne_true, List.filterMap_append, List.filterMap_flatMap]
    simp only [hnode, List.flatMap_singleton']
    exact List.append_nil _

/-- The only element with a key gives all that is collected under the key. -/
theorem flatMap_of_key {α β : Type} (key : α → String) {xs : List α} {x : α} (f : α → List β)
    (hkeys : (xs.map key).Nodup) (h : x ∈ xs) :
    (xs.flatMap fun y => if key y = key x then f y else []) = f x := by
  induction xs with
  | nil => exact absurd h List.not_mem_nil
  | cons y ys ih =>
    rw [List.map_cons, List.nodup_cons] at hkeys
    obtain ⟨hy, hys⟩ := hkeys
    rw [List.flatMap_cons]
    rcases List.mem_cons.mp h with rfl | hmem
    · have hrest : (ys.flatMap fun z => if key z = key x then f z else []) = [] := by
        refine List.flatMap_eq_nil_iff.mpr fun z hz => if_neg fun heq => hy ?_
        rw [← heq]
        exact List.mem_map_of_mem hz
      rw [if_pos rfl, hrest, List.append_nil]
    · have hne : key y ≠ key x := fun heq => hy (heq ▸ List.mem_map_of_mem hmem)
      rw [if_neg hne, ih hys hmem, List.nil_append]

/-- The links that start at a node are those below it. -/
theorem links_from_node (hids : (panelId :: (links filters expanded data).map
    fun link => link.2.id).Nodup) (hallNodes : ((allNodes filters data).map TopologyNode.id).Nodup)
    {node : TopologyNode} (hnode : node ∈ allNodes filters data) :
    ((links filters expanded data).filter fun link => link.1 == node.id) =
      guestLinks filters expanded node := by
  obtain ⟨hpanel, hlinks⟩ := List.nodup_cons.mp hids
  obtain ⟨home, hhome, hshown⟩ := mem_allNodes_iff.mp hnode
  have hpve : (home.id, pveNode filters node) ∈ links filters expanded data :=
    mem_links_iff.mpr ⟨home, hhome, Or.inl ⟨node, hshown, Or.inr rfl⟩⟩
  have hnePanel : panelId ≠ node.id := by
    intro heq
    rw [heq] at hpanel
    exact hpanel (List.mem_map_of_mem (f := fun link : Link => link.2.id) hpve)
  have hneCluster : ∀ cluster ∈ shownClusters filters data, shownNodes filters cluster ≠ [] →
      cluster.id ≠ node.id := by
    intro cluster hcluster hne heq
    have hmem : (panelId, clusterNode filters cluster (clusterGuests filters cluster)) ∈
        links filters expanded data := mem_links_iff.mpr ⟨cluster, hcluster, Or.inr ⟨hne, rfl⟩⟩
    have hsame := List.inj_on_of_nodup_map hlinks hmem hpve heq
    have hdata := congrArg (fun link : Link => link.2.node?) hsame
    cases hdata
  have hbelow : ∀ node' : TopologyNode,
      ((guestLinks filters expanded node').filter fun link => link.1 == node.id) =
        if node'.id = node.id then guestLinks filters expanded node' else [] := by
    intro node'
    split
    · rename_i heq
      refine List.filter_eq_self.mpr fun link hlink => ?_
      rw [(of_mem_guestLinks hlink).1, heq]
      exact beq_self_eq_true _
    · rename_i hne
      refine List.filter_eq_nil_iff.mpr fun link hlink => ?_
      rw [(of_mem_guestLinks hlink).1, beq_iff_eq]
      exact hne
  rw [← flatMap_of_key TopologyNode.id (guestLinks filters expanded) hallNodes hnode]
  unfold links allNodes
  rw [List.filter_flatMap, List.flatMap_assoc]
  refine List.flatMap_congr fun cluster hcluster => ?_
  unfold clusterLinks
  cases hempty : (shownNodes filters cluster).isEmpty with
  | true =>
    rw [List.isEmpty_iff.mp hempty]
    rfl
  | false =>
    have hne : cluster.id ≠ node.id := hneCluster cluster hcluster fun hnil => by
      rw [hnil] at hempty
      cases hempty
    have hlinks' : ∀ node' : TopologyNode,
        ((nodeLinks filters expanded cluster node').filter fun link => link.1 == node.id) =
          if node'.id = node.id then guestLinks filters expanded node' else [] := by
      intro node'
      unfold nodeLinks
      rw [List.filter_append, hbelow, List.filter_singleton, beq_false_of_ne hne]
      exact List.append_nil _
    rw [if_neg Bool.false_ne_true, List.filter_append, List.filter_flatMap, List.filter_singleton,
      beq_false_of_ne hnePanel]
    simp only [hlinks']
    exact List.append_nil _

/-- The guests of a node are all shown, or all counted in its group. -/
theorem accounted (positions : Positions) (node : TopologyNode) :
    let children := (guestLinks filters expanded node).map fun link => link.2.moveTo positions
    children.filterMap GraphNode.guest? = visibleGuests filters node ∧
        children.filterMap GraphNode.total? = [] ∨
      children.filterMap GraphNode.guest? = [] ∧
        children.filterMap GraphNode.total? = [(visibleGuests filters node).length] := by
  dsimp only
  unfold guestLinks
  split
  · exact Or.inr ⟨rfl, rfl⟩
  · refine Or.inl ⟨?_, ?_⟩
    · rw [List.map_map, List.filterMap_map]
      exact List.filterMap_some
    · rw [List.map_map, List.filterMap_map]
      exact List.filterMap_eq_nil_iff.mpr fun guest _ => rfl

/-- The graph of a response with distinct ids is a tree that accounts for every guest, just
where no drawn id of the response is the panel's or that of a drawn group. -/
theorem faithful_iff_ownIdsApart (data : NetworkTopologyResponse) (hdata : data.ids.Nodup)
    (filters : TopologyFilters) (expanded : String → Bool) :
    Faithful filters (buildGraph filters expanded (some data)) ↔
      OwnIdsApart filters expanded data := by
  obtain ⟨positions, hgraph⟩ := buildGraph_eq filters expanded data
  rw [hgraph, ← nodup_ids_iff filters expanded data hdata]
  constructor
  · rintro ⟨hdistinct, -, -, -, -⟩
    rwa [ids_graphOf] at hdistinct
  · intro hids
    have hlinks := (List.nodup_cons.mp hids).2
    have hallNodes : ((allNodes filters data).map TopologyNode.id).Nodup :=
      hdata.sublist ((allNodes_sublist filters expanded data).trans
        (drawnIds_sublist filters expanded data))
    refine ⟨?_, fun n hn hne => ?_, fun edge hedge => ?_, fun n hn node hnode => ?_, ?_⟩
    · rwa [ids_graphOf]
    · rcases mem_nodes_graphOf _ _ _ _ hn with rfl | ⟨link, hlink, rfl⟩
      · exact absurd rfl hne
      · exact length_incoming hlinks hlink
    · obtain ⟨link, hlink, rfl⟩ := List.mem_map.mp hedge
      refine ⟨?_, mem_ids_graphOf _ _ _ _ hlink⟩
      rcases source_mem hlink with hsource | ⟨parent, hparent, hsource⟩
      · rw [ids_graphOf]
        exact List.mem_cons.mpr (Or.inl hsource)
      · change link.1 ∈ _
        rw [hsource]
        exact mem_ids_graphOf _ _ _ _ hparent
    · rcases mem_nodes_graphOf _ _ _ _ hn with rfl | ⟨link, hlink, rfl⟩
      · cases hnode
      · rw [children_graphOf hids, links_from_node hids hallNodes (of_node?_eq_some hlink hnode)]
        exact accounted positions node
    · have hnodes : allNodes filters data =
          (links filters expanded data).filterMap fun link => link.2.node? :=
        filterMap_node?_links.symm
      unfold graphOf
      dsimp only
      rw [List.map_cons, List.filterMap_cons_none rfl, List.map_map, List.filterMap_map, hnodes]
      rfl

end Faithful

/-! ### A node with the name of another one's group -/

section Crossed

def crossedGuest (id : String) (vmid : Vmid) : TopologyGuest where
  id := id
  serverId := 1
  node := "pve"
  vmid := vmid
  type := .lxc
  name := "web"
  status := "running"
  isTemplate := false
  lock := none
  cpu := none
  cores := none
  mem := none
  maxmem := none
  disk := none
  maxdisk := none
  uptime := none
  tags := []
  ownerId := none
  ownerUsername := none
  ip := none
  nics := []

def crossedNode (id name : String) (guests : List TopologyGuest) : TopologyNode where
  id := id
  serverId := 1
  serverName := "main"
  node := name
  status := "online"
  stale := false
  cpu := none
  maxcpu := none
  mem := none
  maxmem := none
  uptime := none
  bridges := []
  guests := guests

/-- The node that is collapsed. -/
def crowdedNode : TopologyNode := crossedNode "node:1:pve" "pve"
  [crossedGuest "guest:1:100" 100, crossedGuest "guest:1:101" 101]

def crossedResponse : NetworkTopologyResponse where
  generatedAt := 0
  panel := ⟨"PVEmanager", 1, 2, 2⟩
  clusters := [⟨"cluster:server:1", "main", .standalone, [1], true,
    [crowdedNode, crossedNode "node:1:pve:group" "pve:group" []]⟩]
  warnings := []

/-- Groups of more than one guest, and no other filter. -/
def groupFilters : TopologyFilters := ⟨none, .all, 1⟩

theorem nodup_crossedResponse : crossedResponse.ids.Nodup := by
  have hids : crossedResponse.ids =
      ["guest:1:100", "guest:1:101", "node:1:pve", "node:1:pve:group", "cluster:server:1"] := rfl
  rw [hids]
  decide

/-- The group of the first node has the id of the second one. -/
theorem crossedResponse_not_faithful :
    crossedResponse.ids.Nodup ∧
      ¬Faithful groupFilters (buildGraph groupFilters (fun _ => false) (some crossedResponse)) := by
  refine ⟨nodup_crossedResponse, fun h => ?_⟩
  have hdistinct := h.distinct
  obtain ⟨positions, hgraph⟩ := buildGraph_eq groupFilters (fun _ => false) crossedResponse
  rw [hgraph, ids_graphOf, nodup_ids_iff groupFilters _ _ nodup_crossedResponse] at hdistinct
  refine hdistinct.group crowdedNode ?_ ?_
  · have hvisible : visibleGuests groupFilters crowdedNode = crowdedNode.guests := rfl
    have hcollapse : collapse groupFilters (fun _ => false) crowdedNode = true := by
      unfold collapse
      rw [hvisible]
      simp [groupFilters, crowdedNode, crossedNode]
    exact List.mem_filter.mpr ⟨List.mem_cons_self, hcollapse⟩
  · have hsecond : crossedNode "node:1:pve:group" "pve:group" [] ∈
        allNodes groupFilters crossedResponse := List.mem_cons_of_mem _ List.mem_cons_self
    have hgroup : groupId crowdedNode = "node:1:pve:group" := by
      simp [groupId, crowdedNode, crossedNode]
    rw [hgroup]
    exact (allNodes_sublist groupFilters _ crossedResponse).subset
      (List.mem_map_of_mem (f := TopologyNode.id) hsecond)

/-- Expanded, the nodes are apart. -/
theorem faithful_iff_ownIdsApart_crossed :
    Faithful groupFilters (buildGraph groupFilters (fun _ => true) (some crossedResponse)) ↔
      OwnIdsApart groupFilters (fun _ => true) crossedResponse :=
  faithful_iff_ownIdsApart crossedResponse nodup_crossedResponse groupFilters fun _ => true

end Crossed

end PveManager.Topology
