import Mathlib.Algebra.Order.Field.Basic
import Mathlib.Data.Set.Prod
import Mathlib.Order.CompletePartialOrder
import Mathlib.Order.Interval.Set.Basic
import Mathlib.Tactic.Linarith
import Mathlib.Tactic.Ring

/-!
# Boxes in the plane

Axis-parallel rectangles with their borders. Two boxes are apart where they have no point in
common; boxes in separate bands are, and so are the cells of a grid.
-/

namespace PveManager.Core

universe u

/-- A rectangle, by its upper left corner and its size. -/
structure Box (α : Type u) where
  x : α
  y : α
  width : α
  height : α

namespace Box

variable {α : Type u} [Field α] [LinearOrder α]

/-- The points of a box. -/
def region (b : Box α) : Set (α × α) :=
  Set.Icc b.x (b.x + b.width) ×ˢ Set.Icc b.y (b.y + b.height)

/-- No point in common. -/
def Apart (a b : Box α) : Prop := Disjoint a.region b.region

/-- Between two vertical lines. -/
structure InBand (lo hi : α) (b : Box α) : Prop where
  left : lo ≤ b.x
  right : b.x + b.width ≤ hi

/-- A box further to the right. -/
def moveRight (delta : α) (b : Box α) : Box α := { b with x := b.x + delta }

variable {a b : Box α} {lo hi lo' hi' delta : α}

theorem Apart.symm (h : a.Apart b) : b.Apart a := Disjoint.symm h

theorem apart_of_right_lt (h : a.x + a.width < b.x) : a.Apart b := by
  refine Set.disjoint_left.mpr ?_
  rintro ⟨x, y⟩ ⟨hxa, -⟩ ⟨hxb, -⟩
  exact absurd (hxb.1.trans hxa.2) (not_le.mpr h)

theorem apart_of_bottom_lt (h : a.y + a.height < b.y) : a.Apart b := by
  refine Set.disjoint_left.mpr ?_
  rintro ⟨x, y⟩ ⟨-, hya⟩ ⟨-, hyb⟩
  exact absurd (hyb.1.trans hya.2) (not_le.mpr h)

theorem InBand.mono (h : InBand lo hi b) (hlo : lo' ≤ lo) (hhi : hi ≤ hi') : InBand lo' hi' b :=
  ⟨hlo.trans h.left, h.right.trans hhi⟩

/-- Boxes in separate bands. -/
theorem InBand.apart (ha : InBand lo hi a) (hb : InBand lo' hi' b) (h : hi < lo') : a.Apart b :=
  apart_of_right_lt (ha.right.trans_lt (h.trans_le hb.left))

variable [IsStrictOrderedRing α]

/-- What is centred in a band that is wide enough is in the band. -/
theorem inBand_centred (hx : b.x = lo + (hi - lo - b.width) / 2) (h : b.width ≤ hi - lo) :
    InBand lo hi b := by
  constructor
  · linarith
  · linarith

theorem mem_region_moveRight {x y : α} :
    (x, y) ∈ (b.moveRight delta).region ↔ (x - delta, y) ∈ b.region := by
  refine and_congr_left fun _ => and_congr ?_ ?_
  · exact le_sub_iff_add_le.symm
  · have hright : b.x + delta + b.width = b.x + b.width + delta := add_right_comm _ _ _
    change x ≤ b.x + delta + b.width ↔ _
    rw [hright]
    exact sub_le_iff_le_add.symm

theorem Apart.moveRight (h : a.Apart b) (delta : α) :
    (a.moveRight delta).Apart (b.moveRight delta) := by
  refine Set.disjoint_left.mpr ?_
  rintro ⟨x, y⟩ ha hb
  exact Set.disjoint_left.mp h (mem_region_moveRight.mp ha) (mem_region_moveRight.mp hb)

theorem InBand.moveRight (h : InBand lo hi b) (delta : α) :
    InBand (lo + delta) (hi + delta) (b.moveRight delta) := by
  have hright : b.x + delta + b.width = b.x + b.width + delta := add_right_comm _ _ _
  refine ⟨add_le_add_left h.left delta, ?_⟩
  change b.x + delta + b.width ≤ _
  rw [hright]
  exact add_le_add_left h.right delta

/-! ### Grids -/

section Grid

variable {left top dx dy : α} {i j perRow : ℕ}

/-- The box has its corner at a node of a grid that is filled row by row. -/
structure InGrid (left top dx dy : α) (perRow i : ℕ) (b : Box α) : Prop where
  x_eq : b.x = left + (i % perRow : ℕ) * dx
  y_eq : b.y = top + (i / perRow : ℕ) * dy
  width_lt : b.width < dx
  height_lt : b.height < dy

theorem step_le {d : α} (hd : 0 ≤ d) {m n : ℕ} (h : m < n) : (m : α) * d + d ≤ n * d := by
  have hcast : (m : α) + 1 ≤ n := by exact_mod_cast h
  calc (m : α) * d + d = (m + 1) * d := by ring
    _ ≤ n * d := mul_le_mul_of_nonneg_right hcast hd

/-- Boxes at different places of a grid. -/
theorem InGrid.apart (ha : InGrid left top dx dy perRow i a)
    (hb : InGrid left top dx dy perRow j b) (hwidth : 0 ≤ a.width)
    (hheight : 0 ≤ a.height) (h : i ≠ j) : a.Apart b := by
  have hdx : 0 ≤ dx := hwidth.trans ha.width_lt.le
  have hdy : 0 ≤ dy := hheight.trans ha.height_lt.le
  rcases lt_trichotomy (i / perRow) (j / perRow) with hrow | hrow | hrow
  · refine apart_of_bottom_lt ?_
    have hstep := step_le hdy hrow
    have hlt := ha.height_lt
    rw [ha.y_eq, hb.y_eq]
    linarith
  · have hcol : i % perRow ≠ j % perRow := by
      intro hcol
      refine h ?_
      rw [← Nat.div_add_mod i perRow, ← Nat.div_add_mod j perRow, hrow, hcol]
    rcases lt_or_gt_of_ne hcol with hcol | hcol
    · refine apart_of_right_lt ?_
      have hstep := step_le hdx hcol
      have hlt := ha.width_lt
      rw [ha.x_eq, hb.x_eq]
      linarith
    · refine (apart_of_right_lt ?_).symm
      have hstep := step_le hdx hcol
      have hlt := hb.width_lt
      rw [ha.x_eq, hb.x_eq]
      linarith
  · refine (apart_of_bottom_lt ?_).symm
    have hstep := step_le hdy hrow
    have hlt := hb.height_lt
    rw [ha.y_eq, hb.y_eq]
    linarith

end Grid

end Box

end PveManager.Core
