import Mathlib.Algebra.Order.Ring.Rat
import Mathlib.Data.List.Pairwise
import Mathlib.Data.Rat.Floor
import Mathlib.Tactic.NormNum
import PveManager.Core.Dict

/-!
# The layout of the topology graph

The graph is a tree of fixed depth. Every subtree gets the width it needs, long lists of guests
are wrapped into a block, and the clusters are moved apart afterwards.
-/

namespace PveManager.Topology

open PveManager.Core

inductive LayoutKind
  | panel
  | cluster
  | pve
  | guest
  | guestGroup
  deriving DecidableEq

inductive LayoutNode
  | mk (id : String) (kind : LayoutKind) (children : List LayoutNode)

namespace LayoutNode

def id : LayoutNode → String
  | mk id _ _ => id

def kind : LayoutNode → LayoutKind
  | mk _ kind _ => kind

def children : LayoutNode → List LayoutNode
  | mk _ _ children => children

end LayoutNode

structure XY where
  x : Rat
  y : Rat

structure Size where
  width : Rat
  height : Rat

/-- The vertical position of every depth level. -/
def rowY : LayoutKind → Rat
  | .panel => 0
  | .cluster => 200
  | .pve => 420
  | .guest => 640
  | .guestGroup => 640

def nodeSize : LayoutKind → Size
  | .panel => ⟨230, 92⟩
  | .cluster => ⟨250, 96⟩
  | .pve => ⟨270, 132⟩
  | .guest => ⟨250, 84⟩
  | .guestGroup => ⟨250, 96⟩

def gapX : Rat := 30

def subtreeGap : Rat := 40

def rowGapY : Rat := 26

structure LayoutOptions where
  guestsPerRow : Option Rat

/-- Positions by node id. -/
abbrev Positions := KeyedTable (Prod.fst : String × XY → String)

/-- Into how many rows the guests of a node are wrapped. -/
def rowsFor (opts : LayoutOptions) (node : LayoutNode) : Nat :=
  match opts.guestsPerRow with
  | none => 1
  | some perRow =>
    if node.kind ≠ .pve ∨ perRow = 0 then 1
    else max 1 ⌈(node.children.length : Rat) / perRow⌉₊

/-- How many guests stand in a row. -/
def perRow (opts : LayoutOptions) (node : LayoutNode) : Nat :=
  ⌈(node.children.length : Rat) / (rowsFor opts node : Rat)⌉₊

/-- The greatest of the widths. -/
def widest (widths : List Rat) : Rat := widths.max?.getD 0

mutual

/-- The width that a subtree needs, with the gaps between its children. -/
def subtreeWidth (opts : LayoutOptions) : LayoutNode → Rat
  | .mk id kind children =>
    let own := (nodeSize kind).width
    let widths := subtreeWidths opts children
    if children.isEmpty then own
    else if rowsFor opts (.mk id kind children) > 1 then
      let perRow : Rat := perRow opts (.mk id kind children)
      max own (perRow * widest widths + (perRow - 1) * gapX)
    else
      max own (widths.zipIdx.foldl
        (fun sum child => sum + child.1 + if child.2 > 0 then gapX else 0) 0)

def subtreeWidths (opts : LayoutOptions) : List LayoutNode → List Rat
  | [] => []
  | child :: children => subtreeWidth opts child :: subtreeWidths opts children

end

/-- Where a child stands in a block of wrapped guests. -/
def blockPosition (perRow : Nat) (left childHeight : Rat) (child : LayoutNode) (index : Nat) :
    XY where
  x := left + (index % perRow : Nat) * ((nodeSize child.kind).width + gapX)
  y := rowY child.kind + (index / perRow : Nat) * (childHeight + rowGapY)

/-- The height of a block's rows is that of the first child. -/
def childHeight (children : List LayoutNode) : Rat :=
  (children.head?.map fun child => (nodeSize child.kind).height).getD 0

/-- The positions of wrapped guests. -/
def blockItems (perRow : Nat) (left : Rat) (children : List LayoutNode) : List (String × XY) :=
  children.zipIdx.map fun child =>
    (child.1.id, blockPosition perRow left (childHeight children) child.1 child.2)

mutual

def place (opts : LayoutOptions) : LayoutNode → Rat → Positions → Rat × Positions
  | .mk id kind children, left, positions =>
    let width := subtreeWidth opts (.mk id kind children)
    let position : XY := ⟨left + (width - (nodeSize kind).width) / 2, rowY kind⟩
    if children.isEmpty then (width, positions.set id position)
    else if rowsFor opts (.mk id kind children) > 1 then
      let items := blockItems (perRow opts (.mk id kind children)) left children
      (width, (items.foldl (fun t item => t.save item) positions).set id position)
    else (width, (placeRow opts children 0 left positions).set id position)

/-- The children of a node, one beside the other. -/
def placeRow (opts : LayoutOptions) : List LayoutNode → Nat → Rat → Positions → Positions
  | [], _, _, positions => positions
  | child :: children, index, cursor, positions =>
    let left := if index > 0 then cursor + gapX else cursor
    let placed := place opts child left positions
    placeRow opts children (index + 1) (left + placed.1) placed.2

end

mutual

def shift (delta : Rat) : LayoutNode → Positions → Positions
  | .mk id _ children, positions =>
    shiftAll delta children
      (((positions.get? id).map fun position =>
        positions.set id { position with x := position.x + delta }).getD positions)

def shiftAll (delta : Rat) : List LayoutNode → Positions → Positions
  | [], positions => positions
  | child :: children, positions => shiftAll delta children (shift delta child positions)

end

/-- The clusters are moved apart by more and more. -/
def separate : List LayoutNode → Rat → Positions → Positions
  | [], _, positions => positions
  | cluster :: clusters, extra, positions =>
    separate clusters (extra + subtreeGap)
      (if extra > 0 then shift extra cluster positions else positions)

/-- The position of the panel above its clusters. -/
def panelPosition (first last : XY) : XY where
  x := (first.x + last.x) / 2 + ((nodeSize .cluster).width - (nodeSize .panel).width) / 2
  y := rowY .panel

/-- `layoutTree`. -/
def layoutTree (root : LayoutNode) (opts : LayoutOptions) : Positions :=
  let positions := separate root.children 0 (place opts root 0 .empty).2
  let clusterPositions := root.children.filterMap fun cluster => positions.get? cluster.id
  match clusterPositions.head?, clusterPositions.getLast? with
  | some first, some last => positions.set root.id (panelPosition first last)
  | _, _ => positions

/-! ### The nodes of a tree -/

namespace LayoutNode

mutual

/-- A node and everything below it. -/
def nodes : LayoutNode → List LayoutNode
  | mk id kind children => mk id kind children :: forest children

def forest : List LayoutNode → List LayoutNode
  | [] => []
  | child :: children => nodes child ++ forest children

end

/-- Induction over a tree: the children come first. -/
theorem induct {P : LayoutNode → Prop}
    (h : ∀ id kind children, (∀ child ∈ children, P child) → P (mk id kind children))
    (node : LayoutNode) : P node := by
  refine @LayoutNode.rec P (fun children => ∀ child ∈ children, P child) h ?_ ?_ node
  · exact fun child hchild => absurd hchild List.not_mem_nil
  · exact fun child children hchild hchildren => List.forall_mem_cons.mpr ⟨hchild, hchildren⟩

theorem mem_nodes (node : LayoutNode) : node ∈ node.nodes := by
  cases node
  rw [nodes]
  exact List.mem_cons_self

theorem mem_forest {children : List LayoutNode} {n : LayoutNode} :
    n ∈ forest children ↔ ∃ child ∈ children, n ∈ child.nodes := by
  induction children with
  | nil => simp [forest]
  | cons child children ih => simp [forest, ih]

end LayoutNode

open LayoutNode (nodes forest)

/-- The kinds of node that stand below a kind. -/
def LayoutKind.below : LayoutKind → List LayoutKind
  | .panel => [.cluster]
  | .cluster => [.pve]
  | .pve => [.guest, .guestGroup]
  | .guest => []
  | .guestGroup => []

/-- A tree of the graph's shape: any number of children of the right kinds. -/
inductive Shaped : LayoutNode → Prop
  | mk {id : String} {kind : LayoutKind} {children : List LayoutNode}
      (hbelow : ∀ child ∈ children, child.kind ∈ kind.below)
      (hchildren : ∀ child ∈ children, Shaped child) : Shaped (.mk id kind children)

/-- A node without children. -/
theorem Shaped.leaf (id : String) (kind : LayoutKind) : Shaped (.mk id kind []) :=
  ⟨List.forall_mem_nil _, List.forall_mem_nil _⟩

/-- The depth level of a kind. -/
def LayoutKind.level : LayoutKind → Nat
  | .panel => 0
  | .cluster => 1
  | .pve => 2
  | .guest => 3
  | .guestGroup => 3

theorem LayoutKind.level_lt_of_mem_below {kind kind' : LayoutKind} (h : kind' ∈ kind.below) :
    kind.level < kind'.level := by
  revert h
  cases kind <;> cases kind' <;> simp [below, level]

/-- A deeper level stands below the boxes of a level. -/
theorem rowY_of_level_lt {kind kind' : LayoutKind} (h : kind.level < kind'.level) :
    rowY kind + (nodeSize kind).height < rowY kind' := by
  revert h
  cases kind <;> cases kind' <;> simp [LayoutKind.level, rowY, nodeSize] <;> norm_num

theorem Shaped.level_le {node n : LayoutNode} (h : Shaped node) (hn : n ∈ node.nodes) :
    node.kind.level ≤ n.kind.level := by
  induction node using LayoutNode.induct with
  | h id kind children ih =>
    obtain ⟨hbelow, hchildren⟩ := h
    rw [nodes, List.mem_cons] at hn
    rcases hn with rfl | hn
    · exact le_rfl
    · obtain ⟨child, hchild, hn⟩ := LayoutNode.mem_forest.mp hn
      have hlevel := LayoutKind.level_lt_of_mem_below (hbelow child hchild)
      exact hlevel.le.trans (ih child hchild (hchildren child hchild) hn)

theorem Shaped.level_lt {id : String} {kind : LayoutKind} {children : List LayoutNode}
    {n : LayoutNode} (h : Shaped (.mk id kind children)) (hn : n ∈ forest children) :
    kind.level < n.kind.level := by
  obtain ⟨hbelow, hchildren⟩ := h
  obtain ⟨child, hchild, hn⟩ := LayoutNode.mem_forest.mp hn
  have hlevel := LayoutKind.level_lt_of_mem_below (hbelow child hchild)
  exact hlevel.trans_le ((hchildren child hchild).level_le hn)

/-! ### Widths -/

section Widths

variable (opts : LayoutOptions)

theorem subtreeWidths_eq (children : List LayoutNode) :
    subtreeWidths opts children = children.map (subtreeWidth opts) := by
  induction children with
  | nil => rw [subtreeWidths, List.map_nil]
  | cons child children ih => rw [subtreeWidths, ih, List.map_cons]

theorem le_widest {widths : List Rat} {width : Rat} (h : width ∈ widths) :
    width ≤ widest widths := by
  unfold widest
  cases hmax : widths.max? with
  | none => exact absurd h (List.max?_eq_none_iff.mp hmax ▸ List.not_mem_nil)
  | some m => exact (List.max?_eq_some_iff.mp hmax).2 width h

theorem width_le_subtreeWidth (node : LayoutNode) :
    (nodeSize node.kind).width ≤ subtreeWidth opts node := by
  cases node with
  | mk id kind children =>
    rw [subtreeWidth]
    dsimp only
    split
    · exact le_rfl
    · split
      · exact le_max_left _ _
      · exact le_max_left _ _

theorem subtreeWidth_nonneg (node : LayoutNode) : 0 ≤ subtreeWidth opts node := by
  refine le_trans ?_ (width_le_subtreeWidth opts node)
  cases node.kind <;> simp [nodeSize]

/-- The width of children that stand in a row. -/
def rowWidth : List LayoutNode → Nat → Rat
  | [], _ => 0
  | child :: children, index =>
    (if index > 0 then gapX else 0) + subtreeWidth opts child + rowWidth children (index + 1)

theorem rowWidth_nonneg (children : List LayoutNode) (index : Nat) :
    0 ≤ rowWidth opts children index := by
  induction children generalizing index with
  | nil => exact le_rfl
  | cons child children ih =>
    have hgap : (0 : Rat) ≤ if index > 0 then gapX else 0 := by
      split <;> simp [gapX]
    exact add_nonneg (add_nonneg hgap (subtreeWidth_nonneg opts child)) (ih _)

theorem foldl_subtreeWidths (children : List LayoutNode) (index : Nat) (sum : Rat) :
    ((subtreeWidths opts children).zipIdx index).foldl
      (fun sum child => sum + child.1 + if child.2 > 0 then gapX else 0) sum =
        sum + rowWidth opts children index := by
  induction children generalizing index sum with
  | nil => rw [subtreeWidths, List.zipIdx_nil, List.foldl_nil, rowWidth, add_zero]
  | cons child children ih =>
    rw [subtreeWidths, List.zipIdx_cons, List.foldl_cons, ih, rowWidth]
    ring

variable {id : String} {kind : LayoutKind} {children : List LayoutNode}

theorem rowWidth_le_subtreeWidth (hempty : children.isEmpty = false)
    (hrows : ¬rowsFor opts (.mk id kind children) > 1) :
    rowWidth opts children 0 ≤ subtreeWidth opts (.mk id kind children) := by
  rw [subtreeWidth]
  dsimp only
  rw [hempty, if_neg Bool.false_ne_true, if_neg hrows, foldl_subtreeWidths, zero_add]
  exact le_max_right _ _

theorem blockWidth_le_subtreeWidth (hempty : children.isEmpty = false)
    (hrows : rowsFor opts (.mk id kind children) > 1) :
    (perRow opts (.mk id kind children) : Rat) * widest (subtreeWidths opts children) +
        ((perRow opts (.mk id kind children) : Rat) - 1) * gapX ≤
      subtreeWidth opts (.mk id kind children) := by
  conv_rhs => rw [subtreeWidth]
  dsimp only
  rw [hempty, if_neg Bool.false_ne_true, if_pos hrows]
  exact le_max_right _ _

theorem kind_eq_of_rowsFor (hrows : rowsFor opts (.mk id kind children) > 1) : kind = .pve := by
  unfold rowsFor at hrows
  split at hrows
  · exact absurd hrows (lt_irrefl 1)
  · rename_i perRow _
    by_contra hkind
    have hcond : (LayoutNode.mk id kind children).kind ≠ .pve ∨ perRow = 0 := Or.inl hkind
    rw [if_pos hcond] at hrows
    exact absurd hrows (lt_irrefl 1)

theorem perRow_pos (hempty : children.isEmpty = false) :
    0 < perRow opts (.mk id kind children) := by
  have hlength : 0 < children.length := by
    cases children with
    | nil => cases hempty
    | cons child children => exact Nat.succ_pos _
  have hrows : 0 < rowsFor opts (.mk id kind children) := by
    unfold rowsFor
    split
    · exact Nat.one_pos
    · split
      · exact Nat.one_pos
      · exact lt_max_of_lt_left Nat.one_pos
  exact Nat.ceil_pos.mpr (div_pos (Nat.cast_pos.mpr hlength) (Nat.cast_pos.mpr hrows))

end Widths

/-! ### Positions that are left alone -/

/-- The ids of nodes. -/
def ids (ns : List LayoutNode) : List String := ns.map LayoutNode.id

theorem id_mem_ids {ns : List LayoutNode} {n : LayoutNode} (h : n ∈ ns) : n.id ∈ ids ns :=
  List.mem_map_of_mem h

theorem ids_forest_cons (child : LayoutNode) (children : List LayoutNode) :
    ids (forest (child :: children)) = ids child.nodes ++ ids (forest children) := by
  rw [forest, ids, List.map_append]
  rfl

theorem ids_nodes (id : String) (kind : LayoutKind) (children : List LayoutNode) :
    ids (LayoutNode.mk id kind children).nodes = id :: ids (forest children) := by
  rw [nodes]
  rfl

theorem mem_forest_of_mem {children : List LayoutNode} {child : LayoutNode} (h : child ∈ children) :
    child ∈ forest children :=
  LayoutNode.mem_forest.mpr ⟨child, h, child.mem_nodes⟩

section Block

variable {perRow : Nat} {left : Rat} {children : List LayoutNode} {positions : Positions}

theorem mem_blockItems {id : String} {position : XY} :
    (id, position) ∈ blockItems perRow left children ↔
      ∃ i child, children[i]? = some child ∧ child.id = id ∧
        blockPosition perRow left (childHeight children) child i = position := by
  unfold blockItems
  rw [List.mem_map]
  constructor
  · rintro ⟨⟨child, i⟩, hmem, heq⟩
    obtain ⟨hid, hposition⟩ := Prod.mk.inj heq
    exact ⟨i, child, List.mem_zipIdx_iff_getElem?.mp hmem, hid, hposition⟩
  · rintro ⟨i, child, hget, rfl, rfl⟩
    exact ⟨(child, i), List.mem_zipIdx_iff_getElem?.mpr hget, rfl⟩

/-- Every wrapped guest gets the position of its place. -/
theorem get?_block (hids : (ids children).Nodup) {i : Nat} {child : LayoutNode}
    (h : children[i]? = some child) :
    ((blockItems perRow left children).foldl (fun t item => t.save item) positions).get?
      child.id = some (blockPosition perRow left (childHeight children) child i) := by
  rcases KeyedTable.get?_foldl_save (d := positions) (k := child.id)
    (blockItems perRow left children) with ⟨position, hmem, hget⟩ | ⟨hnone, -⟩
  · obtain ⟨j, other, hother, hid, rfl⟩ := mem_blockItems.mp hmem
    have hindex : (ids children)[j]? = (ids children)[i]? := by
      unfold ids
      rw [List.getElem?_map, List.getElem?_map, hother, h, Option.map_some, Option.map_some, hid]
    have hlt : j < (ids children).length := by
      rw [ids, List.length_map]
      exact (List.getElem?_eq_some_iff.mp hother).1
    obtain rfl := (List.getElem?_inj hlt hids).mp hindex
    rw [hother] at h
    cases h
    exact hget
  · exact absurd (mem_blockItems.mpr ⟨i, child, h, rfl, rfl⟩) (hnone _)

theorem get?_block_of_notMem {id : String} (h : id ∉ ids children) :
    ((blockItems perRow left children).foldl (fun t item => t.save item) positions).get? id =
      positions.get? id := by
  rcases KeyedTable.get?_foldl_save (d := positions) (k := id)
    (blockItems perRow left children) with ⟨position, hmem, -⟩ | ⟨-, hget⟩
  · obtain ⟨i, child, hchild, rfl, -⟩ := mem_blockItems.mp hmem
    exact absurd (id_mem_ids (List.mem_of_getElem? hchild)) h
  · exact hget

end Block

end PveManager.Topology
