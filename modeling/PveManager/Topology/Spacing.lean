import PveManager.Core.Boxes
import PveManager.Topology.Layout

/-!
# The layout does not overlap

Every subtree is placed in a band as wide as the subtree needs: wrapped guests in a grid, other
children in bands of their own. Moving the clusters apart moves their bands, so the rectangles
of any two nodes stay apart.
-/

namespace PveManager.Topology

open PveManager.Core

open LayoutNode (nodes forest)

/-! ### Boxes -/

/-- The rectangle of a node where it has a position. -/
def boxOf (positions : Positions) (n : LayoutNode) : Option (Box Rat) :=
  (positions.get? n.id).map fun position =>
    ⟨position.x, position.y, (nodeSize n.kind).width, (nodeSize n.kind).height⟩

/-- Two nodes whose rectangles have no point in common. -/
def Clear (positions : Positions) (m n : LayoutNode) : Prop :=
  ∀ a ∈ boxOf positions m, ∀ b ∈ boxOf positions n, a.Apart b

/-- Nodes with rectangles that are apart, in a band and not above their level. -/
structure Placed (positions : Positions) (lo hi : Rat) (ns : List LayoutNode) : Prop where
  banded : ∀ n ∈ ns, ∃ b ∈ boxOf positions n, b.InBand lo hi ∧ rowY n.kind ≤ b.y
  clear : ns.Pairwise (Clear positions)

section Placed

variable {positions positions' : Positions} {lo hi lo' hi' : Rat} {ns ms : List LayoutNode}

theorem Clear.congr {m n : LayoutNode} (h : Clear positions m n)
    (hm : boxOf positions' m = boxOf positions m) (hn : boxOf positions' n = boxOf positions n) :
    Clear positions' m n := by
  unfold Clear
  rw [hm, hn]
  exact h

instance : Std.Symm (Clear positions) where
  symm _ _ h a ha b hb := (h b hb a ha).symm

theorem Placed.congr (h : Placed positions lo hi ns)
    (hsame : ∀ n ∈ ns, boxOf positions' n = boxOf positions n) : Placed positions' lo hi ns where
  banded n hn := by
    rw [hsame n hn]
    exact h.banded n hn
  clear := h.clear.imp_of_mem fun hm hn hclear => hclear.congr (hsame _ hm) (hsame _ hn)

theorem Placed.mono (h : Placed positions lo hi ns) (hlo : lo' ≤ lo) (hhi : hi ≤ hi') :
    Placed positions lo' hi' ns where
  banded n hn := by
    obtain ⟨b, hb, hband, hy⟩ := h.banded n hn
    exact ⟨b, hb, hband.mono hlo hhi, hy⟩
  clear := h.clear

/-- Separate bands. -/
theorem Placed.append (hm : Placed positions lo hi ms) (hn : Placed positions lo' hi' ns)
    (h : hi < lo') (hlo : lo ≤ lo') (hhi : hi ≤ hi') : Placed positions lo hi' (ms ++ ns) where
  banded n hmem := by
    rcases List.mem_append.mp hmem with hmem | hmem
    · exact (hm.mono le_rfl hhi).banded n hmem
    · exact (hn.mono hlo le_rfl).banded n hmem
  clear := by
    refine List.pairwise_append.mpr ⟨hm.clear, hn.clear, fun m hmem n hnem a ha b hb => ?_⟩
    obtain ⟨a', ha', hband, -⟩ := hm.banded m hmem
    obtain ⟨b', hb', hband', -⟩ := hn.banded n hnem
    cases Option.mem_unique ha ha'
    cases Option.mem_unique hb hb'
    exact hband.apart hband' h

/-- A node at its level, above nodes of deeper levels. -/
theorem Placed.cons {n : LayoutNode} {b : Box Rat} (h : Placed positions lo hi ns)
    (hb : b ∈ boxOf positions n) (hband : b.InBand lo hi) (hy : b.y = rowY n.kind)
    (hlevel : ∀ m ∈ ns, n.kind.level < m.kind.level) : Placed positions lo hi (n :: ns) where
  banded := List.forall_mem_cons.mpr ⟨⟨b, hb, hband, hy.ge⟩, h.banded⟩
  clear := by
    refine List.pairwise_cons.mpr ⟨fun m hm a ha c hc => ?_, h.clear⟩
    obtain ⟨c', hc', -, hfloor⟩ := h.banded m hm
    have hheight : a.height = (nodeSize n.kind).height := by
      obtain ⟨position, -, rfl⟩ := Option.mem_map.mp ha
      rfl
    refine Box.apart_of_bottom_lt ?_
    rw [hheight, Option.mem_unique ha hb, Option.mem_unique hc hc', hy]
    exact (rowY_of_level_lt (hlevel m hm)).trans_le hfloor

theorem boxOf_set (n : LayoutNode) (id : String) (position : XY) :
    boxOf (positions.set id position) n =
      if id = n.id then
        some ⟨position.x, position.y, (nodeSize n.kind).width, (nodeSize n.kind).height⟩
      else boxOf positions n := by
  unfold boxOf
  rw [KeyedTable.get?_set]
  split <;> rfl

theorem boxOf_set_self (positions : Positions) (n : LayoutNode) (position : XY) :
    boxOf (positions.set n.id position) n =
      some ⟨position.x, position.y, (nodeSize n.kind).width, (nodeSize n.kind).height⟩ :=
  (boxOf_set n n.id position).trans (if_pos rfl)

end Placed

section Place

variable (opts : LayoutOptions) {id : String} {kind : LayoutKind} {children : List LayoutNode}
  {left : Rat} {positions : Positions}

/-- The position of a node that is centred above its children. -/
def centred (node : LayoutNode) (left : Rat) : XY where
  x := left + (subtreeWidth opts node - (nodeSize node.kind).width) / 2
  y := rowY node.kind

theorem place_leaf (hempty : children.isEmpty = true) :
    place opts (.mk id kind children) left positions =
      (subtreeWidth opts (.mk id kind children),
        positions.set id (centred opts (.mk id kind children) left)) := by
  rw [place]
  dsimp only
  rw [if_pos hempty]
  rfl

theorem place_block (hempty : children.isEmpty = false)
    (hrows : rowsFor opts (.mk id kind children) > 1) :
    place opts (.mk id kind children) left positions =
      (subtreeWidth opts (.mk id kind children),
        ((blockItems (perRow opts (.mk id kind children)) left children).foldl
          (fun t item => t.save item) positions).set id
            (centred opts (.mk id kind children) left)) := by
  rw [place]
  dsimp only
  rw [hempty, if_neg Bool.false_ne_true, if_pos hrows]
  rfl

theorem place_row (hempty : children.isEmpty = false)
    (hrows : ¬rowsFor opts (.mk id kind children) > 1) :
    place opts (.mk id kind children) left positions =
      (subtreeWidth opts (.mk id kind children),
        (placeRow opts children 0 left positions).set id
          (centred opts (.mk id kind children) left)) := by
  rw [place]
  dsimp only
  rw [hempty, if_neg Bool.false_ne_true, if_neg hrows]
  rfl

theorem place_fst (node : LayoutNode) :
    (place opts node left positions).1 = subtreeWidth opts node := by
  cases node with
  | mk id kind children =>
    cases hempty : children.isEmpty with
    | true => rw [place_leaf opts hempty]
    | false =>
      by_cases hrows : rowsFor opts (.mk id kind children) > 1
      · rw [place_block opts hempty hrows]
      · rw [place_row opts hempty hrows]

theorem get?_placeRow_of_notMem {k : String}
    (ih : ∀ child ∈ children, ∀ (left : Rat) (positions : Positions), k ∉ ids child.nodes →
      (place opts child left positions).2.get? k = positions.get? k)
    (index : Nat) (cursor : Rat) (positions : Positions) (hk : k ∉ ids (forest children)) :
    (placeRow opts children index cursor positions).get? k = positions.get? k := by
  induction children generalizing index cursor positions with
  | nil => rw [placeRow]
  | cons child children ihchildren =>
    obtain ⟨hchild, hchildren⟩ := List.forall_mem_cons.mp ih
    rw [ids_forest_cons, List.mem_append, not_or] at hk
    rw [placeRow]
    exact (ihchildren hchildren _ _ _ hk.2).trans (hchild _ _ hk.1)

/-- Nodes that are not in the subtree keep their positions. -/
theorem get?_place_of_notMem {k : String} (node : LayoutNode) :
    ∀ (left : Rat) (positions : Positions), k ∉ ids node.nodes →
      (place opts node left positions).2.get? k = positions.get? k := by
  induction node using LayoutNode.induct with
  | h id kind children ih =>
    intro left positions hk
    rw [ids_nodes, List.mem_cons, not_or] at hk
    obtain ⟨hid, hforest⟩ := hk
    cases hempty : children.isEmpty with
    | true => rw [place_leaf opts hempty, KeyedTable.get?_set, if_neg (Ne.symm hid)]
    | false =>
      by_cases hrows : rowsFor opts (.mk id kind children) > 1
      · have hchildren : k ∉ ids children := by
          intro hmem
          obtain ⟨child, hchild, rfl⟩ := List.mem_map.mp hmem
          exact hforest (id_mem_ids (mem_forest_of_mem hchild))
        rw [place_block opts hempty hrows, KeyedTable.get?_set, if_neg (Ne.symm hid),
          get?_block_of_notMem hchildren]
      · rw [place_row opts hempty hrows, KeyedTable.get?_set, if_neg (Ne.symm hid),
          get?_placeRow_of_notMem opts ih _ _ _ hforest]

theorem boxOf_congr {positions positions' : Positions} {n : LayoutNode}
    (h : positions'.get? n.id = positions.get? n.id) :
    boxOf positions' n = boxOf positions n := by
  unfold boxOf
  rw [h]

/-- What is placed in separate bands, one beside the other. -/
def Spread (positions : Positions) (hi : Rat) : Rat → List LayoutNode → Prop
  | _, [] => True
  | lo, child :: children =>
    ∃ l r, lo ≤ l ∧ l ≤ r ∧ r ≤ hi ∧ Placed positions l r child.nodes ∧
      Spread positions hi (r + gapX) children

theorem Spread.congr {positions positions' : Positions} {lo hi : Rat} {children : List LayoutNode}
    (h : Spread positions hi lo children)
    (hsame : ∀ k ∈ ids (forest children), positions'.get? k = positions.get? k) :
    Spread positions' hi lo children := by
  induction children generalizing lo with
  | nil => trivial
  | cons child children ih =>
    obtain ⟨l, r, hlo, hlr, hhi, hplaced, hrest⟩ := h
    rw [ids_forest_cons] at hsame
    refine ⟨l, r, hlo, hlr, hhi, hplaced.congr fun n hn => ?_, ih hrest fun k hk => ?_⟩
    · exact boxOf_congr (hsame n.id (List.mem_append_left _ (id_mem_ids hn)))
    · exact hsame k (List.mem_append_right _ hk)

theorem Spread.mono {lo lo' hi hi' : Rat} (h : Spread positions hi lo children) (hlo : lo' ≤ lo)
    (hhi : hi ≤ hi') : Spread positions hi' lo' children := by
  induction children generalizing lo lo' with
  | nil => trivial
  | cons child children ih =>
    obtain ⟨l, r, hl, hlr, hr, hplaced, hrest⟩ := h
    exact ⟨l, r, hlo.trans hl, hlr, hr.trans hhi, hplaced, ih hrest le_rfl⟩

/-- Subtrees in separate bands do not overlap. -/
theorem Spread.placed {lo hi : Rat} (h : Spread positions hi lo children) :
    Placed positions lo hi (forest children) := by
  induction children generalizing lo with
  | nil =>
    rw [forest]
    exact ⟨fun n hn => absurd hn List.not_mem_nil, List.Pairwise.nil⟩
  | cons child children ih =>
    obtain ⟨l, r, hlo, hlr, hhi, hplaced, hrest⟩ := h
    have hgap : r < r + gapX := lt_add_of_pos_right r (by norm_num [gapX])
    rw [forest]
    exact (hplaced.mono hlo le_rfl).append (ih hrest) hgap (hlo.trans (hlr.trans hgap.le)) hhi

theorem centred_inBand (node : LayoutNode) :
    Box.InBand left (left + subtreeWidth opts node)
      ⟨(centred opts node left).x, (centred opts node left).y, (nodeSize node.kind).width,
        (nodeSize node.kind).height⟩ := by
  have hwidth : left + subtreeWidth opts node - left = subtreeWidth opts node :=
    add_sub_cancel_left _ _
  refine Box.inBand_centred ?_ ?_
  · rw [hwidth]
    rfl
  · rw [hwidth]
    exact width_le_subtreeWidth opts node

/-- Children in a row stand in separate bands within the width of the row. -/
theorem placeRow_spread
    (ih : ∀ child ∈ children, ∀ (left : Rat) (positions : Positions), (ids child.nodes).Nodup →
      Placed (place opts child left positions).2 left (left + subtreeWidth opts child) child.nodes)
    (index : Nat) (cursor : Rat) (positions : Positions) (hids : (ids (forest children)).Nodup) :
    Spread (placeRow opts children index cursor positions)
      (cursor + rowWidth opts children index) (if index > 0 then cursor + gapX else cursor)
      children := by
  induction children generalizing index cursor positions with
  | nil => trivial
  | cons child children ihchildren =>
    obtain ⟨hchild, hchildren⟩ := List.forall_mem_cons.mp ih
    rw [ids_forest_cons, List.nodup_append'] at hids
    obtain ⟨hnodup, hrest, hdisjoint⟩ := hids
    have hcursor : (if index > 0 then cursor + gapX else cursor) =
        cursor + if index > 0 then gapX else 0 := by
      split
      · rfl
      · rw [add_zero]
    rw [placeRow, place_fst]
    have hspread := ihchildren hchildren (index + 1)
      ((if index > 0 then cursor + gapX else cursor) + subtreeWidth opts child)
      (place opts child (if index > 0 then cursor + gapX else cursor) positions).2 hrest
    rw [if_pos (Nat.succ_pos index)] at hspread
    have hplaced := hchild (if index > 0 then cursor + gapX else cursor) positions hnodup
    have hend : (if index > 0 then cursor + gapX else cursor) + subtreeWidth opts child +
        rowWidth opts children (index + 1) = cursor + rowWidth opts (child :: children) index := by
      rw [hcursor, rowWidth]
      ring
    have hnonneg := rowWidth_nonneg opts children (index + 1)
    rw [hend] at hspread
    refine ⟨_, _, le_rfl, ?_, ?_, hplaced.congr fun n hn => boxOf_congr ?_, hspread⟩
    · exact le_add_of_nonneg_right (subtreeWidth_nonneg opts child)
    · rw [← hend]
      exact le_add_of_nonneg_right hnonneg
    · refine get?_placeRow_of_notMem opts (fun c _ => get?_place_of_notMem opts c) _ _ _ ?_
      exact fun hmem => List.disjoint_left.mp hdisjoint (id_mem_ids hn) hmem

theorem Shaped.nodes_of_leaf {node : LayoutNode} (h : Shaped node)
    (hkind : node.kind.below = []) : node.nodes = [node] := by
  obtain ⟨hbelow, -⟩ := h
  rename_i id kind children
  cases children with
  | nil => rw [nodes, forest]
  | cons child children =>
    have hmem := hbelow child List.mem_cons_self
    rw [show kind.below = [] from hkind] at hmem
    exact absurd hmem List.not_mem_nil

theorem forest_of_leaves (h : ∀ child ∈ children, child.nodes = [child]) :
    forest children = children := by
  induction children with
  | nil => rw [forest]
  | cons child children ih =>
    obtain ⟨hchild, hchildren⟩ := List.forall_mem_cons.mp h
    rw [forest, hchild, ih hchildren, List.singleton_append]

/-- The kinds below a hypervisor node are alike. -/
theorem guest_of_mem_below (hkind : kind ∈ LayoutKind.pve.below) :
    kind.below = [] ∧ rowY kind = rowY .guest ∧ (nodeSize kind).width = 250 ∧
      84 ≤ (nodeSize kind).height ∧ (nodeSize kind).height ≤ 96 := by
  revert hkind
  cases kind <;> simp [LayoutKind.below, rowY, nodeSize] <;> norm_num

/-- A column of a block fits where every child takes at least a guest's width. -/
theorem block_fits {column perRow : Nat} {width : Rat} (hcolumn : column < perRow)
    (hwidth : 250 ≤ width) :
    (column : Rat) * 280 + 250 ≤ perRow * width + ((perRow : Rat) - 1) * gapX := by
  have hstep : (column : Rat) * 280 + 280 ≤ perRow * 280 := Box.step_le (by norm_num) hcolumn
  have hwidest : (perRow : Rat) * 250 ≤ perRow * width :=
    mul_le_mul_of_nonneg_left hwidth (Nat.cast_nonneg perRow)
  unfold gapX
  linarith

/-- Wrapped guests stand in a grid within the width of their node. -/
theorem block_placed (hempty : children.isEmpty = false)
    (hrows : rowsFor opts (.mk id kind children) > 1)
    (hbelow : ∀ child ∈ children, child.kind ∈ LayoutKind.pve.below)
    (hids : (ids children).Nodup) :
    Placed ((blockItems (perRow opts (.mk id kind children)) left children).foldl
      (fun t item => t.save item) positions) left
        (left + subtreeWidth opts (.mk id kind children)) children := by
  have hheight : 84 ≤ childHeight children := by
    cases children with
    | nil => cases hempty
    | cons child children =>
      exact (guest_of_mem_below (hbelow child List.mem_cons_self)).2.2.2.1
  have hgrid : ∀ i child, children[i]? = some child →
      ∃ b ∈ boxOf ((blockItems (perRow opts (.mk id kind children)) left children).foldl
        (fun t item => t.save item) positions) child, b.width = 250 ∧ 84 ≤ b.height ∧
          b.InGrid left (rowY .guest) 280 (childHeight children + rowGapY)
            (perRow opts (.mk id kind children)) i := by
    intro i child hget
    obtain ⟨-, hrow, hwidth, hlow, hhigh⟩ :=
      guest_of_mem_below (hbelow child (List.mem_of_getElem? hget))
    refine ⟨_, Option.mem_map_of_mem _ (get?_block hids hget), hwidth, hlow, ?_, ?_, ?_, ?_⟩
    · change left + _ * ((nodeSize child.kind).width + gapX) = _
      rw [hwidth]
      norm_num [gapX]
    · change rowY child.kind + _ = _
      rw [hrow]
    · change (nodeSize child.kind).width < 280
      rw [hwidth]
      norm_num
    · change (nodeSize child.kind).height < childHeight children + rowGapY
      unfold rowGapY
      linarith
  have hpos : 0 < perRow opts (.mk id kind children) := perRow_pos opts hempty
  have hwidest : ∀ child ∈ children, 250 ≤ widest (subtreeWidths opts children) := by
    intro child hchild
    have hmem : subtreeWidth opts child ∈ subtreeWidths opts children := by
      rw [subtreeWidths_eq]
      exact List.mem_map_of_mem hchild
    rw [← (guest_of_mem_below (hbelow child hchild)).2.2.1]
    exact (width_le_subtreeWidth opts child).trans (le_widest hmem)
  refine ⟨fun child hchild => ?_, List.pairwise_iff_getElem.mpr fun i j hi hj hij => ?_⟩
  · obtain ⟨i, hi, rfl⟩ := List.getElem_of_mem hchild
    obtain ⟨b, hb, hwidth, -, hx, hy, -, -⟩ := hgrid i _ (List.getElem?_eq_getElem hi)
    refine ⟨b, hb, ⟨?_, ?_⟩, ?_⟩
    · rw [hx]
      exact le_add_of_nonneg_right (by positivity)
    · rw [hx, hwidth, add_assoc]
      refine add_le_add_right (le_trans ?_ (blockWidth_le_subtreeWidth opts hempty hrows)) left
      exact block_fits (Nat.mod_lt i hpos) (hwidest _ hchild)
    · rw [hy, (guest_of_mem_below (hbelow _ hchild)).2.1]
      refine le_add_of_nonneg_right (mul_nonneg (Nat.cast_nonneg _) ?_)
      unfold rowGapY
      linarith
  · obtain ⟨a, ha, hwidth, hlow, hcell⟩ := hgrid i _ (List.getElem?_eq_getElem hi)
    obtain ⟨b, hb, -, -, hcell'⟩ := hgrid j _ (List.getElem?_eq_getElem hj)
    intro a' ha' b' hb'
    rw [Option.mem_unique ha' ha, Option.mem_unique hb' hb]
    refine hcell.apart hcell' ?_ ?_ hij.ne
    · rw [hwidth]
      norm_num
    · linarith

/-- A subtree is placed within its width. -/
theorem place_placed (node : LayoutNode) : Shaped node → ∀ (left : Rat) (positions : Positions),
    (ids node.nodes).Nodup →
      Placed (place opts node left positions).2 left (left + subtreeWidth opts node)
        node.nodes := by
  induction node using LayoutNode.induct with
  | h id kind children ih =>
    intro hshaped left positions hids
    have hlevel : ∀ n ∈ forest children, kind.level < n.kind.level := fun n => hshaped.level_lt
    obtain ⟨hbelow, hchildren⟩ := hshaped
    rw [ids_nodes, List.nodup_cons] at hids
    obtain ⟨hid, hforest⟩ := hids
    -- what is placed below the node keeps its place when the node gets its own
    have hnode : ∀ positions : Positions,
        Placed positions left (left + subtreeWidth opts (.mk id kind children)) (forest children) →
        Placed (positions.set id (centred opts (.mk id kind children) left)) left
          (left + subtreeWidth opts (.mk id kind children))
          (.mk id kind children :: forest children) := by
      intro positions hplaced
      have hbox := boxOf_set_self positions (.mk id kind children)
        (centred opts (.mk id kind children) left)
      refine Placed.cons (hplaced.congr fun n hn => ?_) hbox
        (centred_inBand opts (.mk id kind children)) rfl hlevel
      rw [boxOf_set, if_neg]
      rintro rfl
      exact hid (id_mem_ids hn)
    rw [nodes]
    cases hempty : children.isEmpty with
    | true =>
      rw [place_leaf opts hempty]
      refine hnode positions ?_
      rw [List.isEmpty_iff.mp hempty, forest]
      exact ⟨fun n hn => absurd hn List.not_mem_nil, List.Pairwise.nil⟩
    | false =>
      by_cases hrows : rowsFor opts (.mk id kind children) > 1
      · obtain rfl := kind_eq_of_rowsFor opts hrows
        have hleaves : forest children = children := forest_of_leaves fun child hchild =>
          (hchildren child hchild).nodes_of_leaf (guest_of_mem_below (hbelow child hchild)).1
        rw [place_block opts hempty hrows]
        refine hnode _ ?_
        rw [hleaves] at hforest ⊢
        exact block_placed opts hempty hrows hbelow hforest
      · rw [place_row opts hempty hrows]
        have hspread := placeRow_spread opts (fun child hchild => ih child hchild
          (hchildren child hchild)) 0 left positions hforest
        rw [if_neg (lt_irrefl 0)] at hspread
        refine hnode _ (hspread.placed.mono le_rfl ?_)
        exact add_le_add_right (rowWidth_le_subtreeWidth opts hempty hrows) left

end Place

/-! ### Moving the clusters apart -/

section Shift

variable {delta : Rat} {children : List LayoutNode} {k : String}

/-- A position further to the right. -/
def XY.moveRight (delta : Rat) (position : XY) : XY := { position with x := position.x + delta }

theorem get?_moved (positions : Positions) (id : String) :
    (((positions.get? id).map fun position =>
      positions.set id { position with x := position.x + delta }).getD positions).get? k =
        if k = id then (positions.get? k).map (XY.moveRight delta) else positions.get? k := by
  by_cases hk : k = id
  · subst hk
    rw [if_pos rfl]
    cases hget : positions.get? k with
    | none => exact hget
    | some position =>
      rw [Option.map_some, Option.getD_some, KeyedTable.get?_set, if_pos rfl]
      rfl
  · rw [if_neg hk]
    cases hget : positions.get? id with
    | none => rfl
    | some position =>
      rw [Option.map_some, Option.getD_some, KeyedTable.get?_set, if_neg (Ne.symm hk)]

/-- Whatever every subtree's shift does to a position, the shift of all of them does. -/
theorem get?_shiftAll
    (ih : ∀ child ∈ children, ∀ positions : Positions, (ids child.nodes).Nodup →
      (shift delta child positions).get? k =
        if k ∈ ids child.nodes then (positions.get? k).map (XY.moveRight delta)
        else positions.get? k)
    (positions : Positions) (hids : (ids (forest children)).Nodup) :
    (shiftAll delta children positions).get? k =
      if k ∈ ids (forest children) then (positions.get? k).map (XY.moveRight delta)
      else positions.get? k := by
  induction children generalizing positions with
  | nil =>
    rw [shiftAll, forest]
    exact (if_neg List.not_mem_nil).symm
  | cons child children ihchildren =>
    obtain ⟨hchild, hchildren⟩ := List.forall_mem_cons.mp ih
    rw [ids_forest_cons, List.nodup_append'] at hids
    obtain ⟨hnodup, hrest, hdisjoint⟩ := hids
    rw [shiftAll, ihchildren hchildren _ hrest, hchild positions hnodup, ids_forest_cons]
    by_cases hk : k ∈ ids child.nodes
    · rw [if_pos hk, if_neg (List.disjoint_left.mp hdisjoint hk),
        if_pos (List.mem_append_left _ hk)]
    · simp only [List.mem_append, hk, false_or, if_false]

/-- A shift moves the nodes of its subtree and no others. -/
theorem get?_shift (node : LayoutNode) : ∀ positions : Positions, (ids node.nodes).Nodup →
    (shift delta node positions).get? k =
      if k ∈ ids node.nodes then (positions.get? k).map (XY.moveRight delta)
      else positions.get? k := by
  induction node using LayoutNode.induct with
  | h id kind children ih =>
    intro positions hids
    rw [ids_nodes] at hids ⊢
    obtain ⟨hid, hforest⟩ := List.nodup_cons.mp hids
    rw [shift, get?_shiftAll ih _ hforest, get?_moved]
    by_cases hk : k = id
    · subst hk
      rw [if_neg hid, if_pos rfl, if_pos List.mem_cons_self]
    · simp only [List.mem_cons, hk, false_or, if_false]

theorem boxOf_shift {node n : LayoutNode} {positions : Positions} (hids : (ids node.nodes).Nodup)
    (hn : n ∈ node.nodes) :
    boxOf (shift delta node positions) n = (boxOf positions n).map (Box.moveRight delta) := by
  unfold boxOf
  rw [get?_shift node positions hids, if_pos (id_mem_ids hn), Option.map_map, Option.map_map]
  rfl

/-- A shift moves the band of its subtree. -/
theorem Placed.shift {node : LayoutNode} {positions : Positions} {lo hi : Rat}
    (h : Placed positions lo hi node.nodes) (hids : (ids node.nodes).Nodup) (delta : Rat) :
    Placed (shift delta node positions) (lo + delta) (hi + delta) node.nodes where
  banded n hn := by
    obtain ⟨b, hb, hband, hy⟩ := h.banded n hn
    rw [boxOf_shift hids hn]
    exact ⟨b.moveRight delta, Option.mem_map_of_mem _ hb, hband.moveRight delta, hy⟩
  clear := by
    refine h.clear.imp_of_mem fun hm hn hclear => ?_
    unfold Clear
    rw [boxOf_shift hids hm, boxOf_shift hids hn]
    intro a ha b hb
    obtain ⟨a, ha', rfl⟩ := Option.mem_map.mp ha
    obtain ⟨b, hb', rfl⟩ := Option.mem_map.mp hb
    exact (hclear a ha' b hb').moveRight delta

/-- The first cluster is not moved, which is no move by nothing. -/
theorem placed_moved {node : LayoutNode} {positions : Positions} {lo hi extra : Rat}
    (h : Placed positions lo hi node.nodes) (hids : (ids node.nodes).Nodup) (hextra : 0 ≤ extra) :
    Placed (if extra > 0 then Topology.shift extra node positions else positions) (lo + extra)
      (hi + extra) node.nodes := by
  split
  · exact h.shift hids extra
  · obtain rfl : extra = 0 := le_antisymm (not_lt.mp ‹_›) hextra
    rwa [add_zero, add_zero]

theorem get?_moved_of_notMem {node : LayoutNode} {positions : Positions} {extra : Rat}
    (hids : (ids node.nodes).Nodup) (hk : k ∉ ids node.nodes) :
    (if extra > 0 then Topology.shift extra node positions else positions).get? k =
      positions.get? k := by
  split
  · rw [get?_shift node positions hids, if_neg hk]
  · rfl

theorem get?_separate_of_notMem (clusters : List LayoutNode) (extra : Rat)
    (positions : Positions) (hids : (ids (forest clusters)).Nodup)
    (hk : k ∉ ids (forest clusters)) :
    (separate clusters extra positions).get? k = positions.get? k := by
  induction clusters generalizing extra positions with
  | nil => rw [separate]
  | cons cluster clusters ih =>
    rw [ids_forest_cons, List.mem_append, not_or] at hk
    rw [ids_forest_cons, List.nodup_append'] at hids
    rw [separate, ih _ _ hids.2.1 hk.2, get?_moved_of_notMem hids.1 hk.1]

/-- Clusters in separate bands stay in separate bands. -/
theorem separate_spread (clusters : List LayoutNode) (extra lo hi : Rat) (positions : Positions)
    (hids : (ids (forest clusters)).Nodup) (hextra : 0 ≤ extra)
    (h : Spread positions hi lo clusters) :
    ∃ hi', Spread (separate clusters extra positions) hi' (lo + extra) clusters := by
  induction clusters generalizing extra lo positions with
  | nil => exact ⟨hi, trivial⟩
  | cons cluster clusters ih =>
    obtain ⟨l, r, hlo, hlr, hhi, hplaced, hrest⟩ := h
    rw [ids_forest_cons, List.nodup_append'] at hids
    obtain ⟨hnodup, hforest, hdisjoint⟩ := hids
    have hgap : 0 ≤ subtreeGap := by norm_num [subtreeGap]
    have hunmoved : Spread (if extra > 0 then Topology.shift extra cluster positions else positions)
        hi (r + gapX) clusters := hrest.congr fun k hk =>
      get?_moved_of_notMem hnodup fun hmem => List.disjoint_left.mp hdisjoint hmem hk
    obtain ⟨hi', hspread⟩ := ih (extra + subtreeGap) (r + gapX) _ hforest
      (add_nonneg hextra hgap) hunmoved
    have hlo' : r + extra + gapX ≤ r + gapX + (extra + subtreeGap) := by linarith
    rw [separate]
    refine ⟨max hi' (r + extra), l + extra, r + extra, add_le_add_left hlo extra,
      add_le_add_left hlr extra, le_max_right _ _, ?_, hspread.mono hlo' (le_max_left _ _)⟩
    refine (placed_moved hplaced hnodup hextra).congr fun n hn => boxOf_congr ?_
    exact get?_separate_of_notMem _ _ _ hforest fun hmem =>
      List.disjoint_left.mp hdisjoint (id_mem_ids hn) hmem

end Shift

/-! ### The whole layout -/

section Layout

variable {id : String} {children : List LayoutNode} {opts : LayoutOptions}

theorem Spread.set {positions : Positions} {lo hi : Rat} (h : Spread positions hi lo children)
    (position : XY) (hid : id ∉ ids (forest children)) :
    Spread (positions.set id position) hi lo children := by
  refine h.congr fun k hk => ?_
  rw [KeyedTable.get?_set, if_neg]
  rintro rfl
  exact hid hk

variable (opts) in
/-- The clusters stand in separate bands below the panel. -/
theorem place_panel (hshaped : Shaped (.mk id .panel children))
    (hforest : (ids (forest children)).Nodup) (hid : id ∉ ids (forest children)) :
    ∃ hi position, Spread (place opts (.mk id .panel children) 0 .empty).2 hi 0 children ∧
      (place opts (.mk id .panel children) 0 .empty).2.get? id = some position ∧
        position.y = rowY .panel := by
  obtain ⟨-, hchildren⟩ := hshaped
  cases hempty : children.isEmpty with
  | true =>
    rw [place_leaf opts hempty, List.isEmpty_iff.mp hempty]
    exact ⟨0, _, trivial, (KeyedTable.get?_set _).trans (if_pos rfl), rfl⟩
  | false =>
    have hrows : ¬rowsFor opts (.mk id .panel children) > 1 := fun hrows =>
      LayoutKind.noConfusion (kind_eq_of_rowsFor opts hrows)
    have hspread := placeRow_spread opts (fun child hchild =>
      place_placed opts child (hchildren child hchild)) 0 0 .empty hforest
    rw [place_row opts hempty hrows]
    exact ⟨_, _, hspread.set _ hid, (KeyedTable.get?_set _).trans (if_pos rfl), rfl⟩

/-- The panel stands above its clusters, wherever it is. -/
theorem Spread.placed_panel {positions : Positions} {lo hi : Rat} {position : XY}
    (h : Spread positions hi lo children) (hshaped : Shaped (.mk id .panel children))
    (hget : positions.get? id = some position) (hy : position.y = rowY .panel) :
    ∃ lo hi, Placed positions lo hi (LayoutNode.mk id .panel children).nodes := by
  have hbox : boxOf positions (.mk id .panel children) =
      some ⟨position.x, position.y, (nodeSize .panel).width, (nodeSize .panel).height⟩ :=
    congrArg (Option.map _) hget
  have hplaced := h.placed.mono (min_le_left lo position.x)
    (le_max_left hi (position.x + (nodeSize .panel).width))
  refine ⟨min lo position.x, max hi (position.x + (nodeSize .panel).width), ?_⟩
  rw [nodes]
  exact hplaced.cons hbox ⟨min_le_right _ _, le_max_right _ _⟩ hy fun n => hshaped.level_lt

variable (opts) in
theorem layoutTree_placed (hshaped : Shaped (.mk id .panel children))
    (hids : (ids (LayoutNode.mk id .panel children).nodes).Nodup) :
    ∃ lo hi, Placed (layoutTree (.mk id .panel children) opts) lo hi
      (LayoutNode.mk id .panel children).nodes := by
  rw [ids_nodes, List.nodup_cons] at hids
  obtain ⟨hid, hforest⟩ := hids
  obtain ⟨hi, position, hspread, hget, hy⟩ := place_panel opts hshaped hforest hid
  obtain ⟨hi', hseparate⟩ := separate_spread children 0 0 hi _ hforest le_rfl hspread
  have hpanel := (get?_separate_of_notMem children 0 _ hforest hid).trans hget
  unfold layoutTree
  dsimp only
  split
  · exact (hseparate.set _ hid).placed_panel hshaped
      ((KeyedTable.get?_set _).trans (if_pos rfl)) rfl
  · exact hseparate.placed_panel hshaped hpanel hy

/-- Every node gets a position, and the rectangles of two nodes have no point in common. -/
theorem layoutTree_apart (root : LayoutNode) (hkind : root.kind = .panel) (hshaped : Shaped root)
    (hids : (root.nodes.map LayoutNode.id).Nodup) (opts : LayoutOptions) :
    (∀ n ∈ root.nodes, ∃ b, boxOf (layoutTree root opts) n = some b) ∧
      ∀ m ∈ root.nodes, ∀ n ∈ root.nodes, m.id ≠ n.id →
        ∀ a ∈ boxOf (layoutTree root opts) m, ∀ b ∈ boxOf (layoutTree root opts) n, a.Apart b := by
  obtain ⟨id, kind, children⟩ := root
  obtain rfl : kind = .panel := hkind
  obtain ⟨lo, hi, hplaced⟩ := layoutTree_placed opts hshaped hids
  refine ⟨fun n hn => ?_, fun m hm n hn hne => ?_⟩
  · obtain ⟨b, hb, -⟩ := hplaced.banded n hn
    exact ⟨b, hb⟩
  · exact hplaced.clear.forall hm hn fun heq => hne (congrArg _ heq)

def sampleGuest (id : String) : LayoutNode := .mk id .guest []

/-- A cluster with a busy node and a collapsed one. -/
def sampleTree : LayoutNode :=
  .mk "panel:root" .panel [.mk "cluster:a" .cluster
    [.mk "node:1:x" .pve [sampleGuest "guest:1:100", sampleGuest "guest:1:101"],
      .mk "node:1:y" .pve [.mk "node:1:y:group" .guestGroup []]]]

theorem shaped_sampleTree : Shaped sampleTree := by
  refine ⟨by decide, List.forall_mem_singleton.mpr ⟨by decide, ?_⟩⟩
  refine List.forall_mem_cons.mpr ⟨⟨by decide, ?_⟩, List.forall_mem_singleton.mpr ⟨by decide, ?_⟩⟩
  · exact List.forall_mem_cons.mpr ⟨.leaf _ _, List.forall_mem_singleton.mpr (.leaf _ _)⟩
  · exact List.forall_mem_singleton.mpr (.leaf _ _)

/-- One guest to a row. -/
theorem layoutTree_apart_sample :
    (∀ n ∈ sampleTree.nodes, ∃ b, boxOf (layoutTree sampleTree ⟨some 1⟩) n = some b) ∧
      ∀ m ∈ sampleTree.nodes, ∀ n ∈ sampleTree.nodes, m.id ≠ n.id →
        ∀ a ∈ boxOf (layoutTree sampleTree ⟨some 1⟩) m,
          ∀ b ∈ boxOf (layoutTree sampleTree ⟨some 1⟩) n, a.Apart b :=
  layoutTree_apart sampleTree rfl shaped_sampleTree (by decide) ⟨some 1⟩

end Layout

end PveManager.Topology
