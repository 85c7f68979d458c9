import Mathlib.Algebra.GroupWithZero.Nat
import PveManager.Core.KeyedTable

/-!
# Totals of a table

The sum of an amount over the rows. Storing a row takes the amount of the row it
replaces away and adds its own.
-/

namespace PveManager.Core.KeyedTable

universe u v

variable {α : Type u} {κ : Type v} {key : α → κ}

/-- The sum of an amount over all rows. -/
def total (t : KeyedTable key) (amount : α → Nat) : Nat := (t.rows.map amount).sum

variable [DecidableEq κ]

/-- Replacing the row of a key in a list where it stands once. -/
private theorem sum_replace {rows : List α} (hnodup : (rows.map key).Nodup) {r x : α}
    (hr : r ∈ rows) (hk : key r = key x) (f : α → Nat) :
    ((rows.map fun a => if key a = key x then x else a).map f).sum + f r =
      (rows.map f).sum + f x := by
  induction rows with
  | nil => cases hr
  | cons a rows ih =>
    rw [List.map_cons, List.nodup_cons] at hnodup
    rcases List.mem_cons.mp hr with rfl | hr
    · have hrest : (rows.map fun a => if key a = key x then x else a) = rows := by
        refine (List.map_congr_left fun b hb => ?_).trans (List.map_id _)
        have hne : key b ≠ key x := by
          intro h
          exact hnodup.1 (List.mem_map.mpr ⟨b, hb, h.trans hk.symm⟩)
        exact if_neg hne
      rw [List.map_cons, hrest, if_pos hk]
      simp only [List.map_cons, List.sum_cons]
      omega
    · have hne : key a ≠ key x := by
        intro h
        exact hnodup.1 (List.mem_map.mpr ⟨r, hr, hk.trans h.symm⟩)
      have hih := ih hnodup.2 hr
      simp only [List.map_cons, List.sum_cons, if_neg hne]
      omega

/-- The total after a row was stored. -/
theorem total_save (t : KeyedTable key) (x : α) (f : α → Nat) :
    (t.save x).total f + ((t.find? (key x)).map f).getD 0 = t.total f + f x := by
  cases hfind : t.find? (key x) with
  | none =>
    have hrows : (t.save x).rows = t.rows ++ [x] := by
      unfold save
      rw [dif_neg (by simp [hfind])]
    simp [total, hrows]
  | some r =>
    have hrows : (t.save x).rows = t.rows.map fun a => if key a = key x then x else a := by
      unfold save
      rw [dif_pos (by simp [hfind])]
    have hsum := sum_replace t.keys_nodup (t.mem_of_find? hfind) (t.key_of_find? hfind) f
    rw [total, hrows]
    exact hsum

/-- Storing a row adds at most its own amount. -/
theorem total_save_le (t : KeyedTable key) (x : α) (f : α → Nat) :
    (t.save x).total f ≤ t.total f + f x := by
  have h := t.total_save x f
  omega

end PveManager.Core.KeyedTable
