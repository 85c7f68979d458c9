import Mathlib.Data.List.Basic
import Mathlib.Data.List.Nodup

/-!
# Lists without repetitions

A list that is filled element by element, each one only if it is new, has the elements in the
order in which they come first.
-/

namespace PveManager.Core

universe u

variable {α : Type u} [DecidableEq α]

/-- Append an element unless it is there. -/
def addNew (xs : List α) (x : α) : List α := if x ∈ xs then xs else xs ++ [x]

/-- The elements in the order in which they come first. -/
def firsts : List α → List α
  | [] => []
  | x :: xs => x :: (firsts xs).filter fun y => decide (y ≠ x)

variable {xs ys : List α} {x y : α} {p : α → Bool}

theorem mem_firsts : y ∈ firsts xs ↔ y ∈ xs := by
  induction xs with
  | nil => rfl
  | cons x xs ih =>
    rw [firsts, List.mem_cons, List.mem_cons, List.mem_filter, ih, decide_eq_true_iff]
    by_cases hy : y = x
    · simp [hy]
    · simp [hy]

theorem nodup_firsts : (firsts xs).Nodup := by
  induction xs with
  | nil => exact List.nodup_nil
  | cons x xs ih =>
    refine List.nodup_cons.mpr ⟨fun hx => ?_, ih.filter _⟩
    exact of_decide_eq_true (List.mem_filter.mp hx).2 rfl

/-- Nothing is left out of a list that has no repetitions. -/
theorem firsts_of_nodup (h : xs.Nodup) : firsts xs = xs := by
  induction xs with
  | nil => rfl
  | cons x xs ih =>
    obtain ⟨hx, hxs⟩ := List.nodup_cons.mp h
    rw [firsts, ih hxs]
    congr 1
    exact List.filter_eq_self.mpr fun y hy => decide_eq_true fun heq => hx (heq ▸ hy)

/-- What is there already is not added again. -/
theorem foldl_addNew (xs acc : List α) :
    xs.foldl addNew acc = acc ++ (firsts xs).filter fun y => decide (y ∉ acc) := by
  induction xs generalizing acc with
  | nil => exact (List.append_nil acc).symm
  | cons x xs ih =>
    rw [List.foldl_cons, ih, firsts, addNew]
    by_cases hx : x ∈ acc
    · rw [if_pos hx, List.filter_cons_of_neg (by simp [hx]), List.filter_filter]
      congr 1
      refine List.filter_congr fun y _ => ?_
      by_cases hy : y = x
      · simp [hy, hx]
      · simp [hy]
    · rw [if_neg hx, List.filter_cons_of_pos (by simp [hx]), List.filter_filter, List.append_assoc]
      congr 1
      refine congrArg (x :: ·) (List.filter_congr fun y _ => ?_)
      simp [List.mem_append, Bool.and_comm]

theorem foldl_addNew_nil (xs : List α) : xs.foldl addNew [] = firsts xs := by
  rw [foldl_addNew]
  exact List.filter_eq_self.mpr fun y _ => decide_eq_true List.not_mem_nil

/-- Repetitions at the end add nothing. -/
theorem firsts_append_of_subset (h : xs.Nodup) (hys : ∀ y ∈ ys, y ∈ xs) :
    firsts (xs ++ ys) = xs := by
  have hnone : (firsts ys).filter (fun y => decide (y ∉ xs)) = [] :=
    List.filter_eq_nil_iff.mpr fun y hy hnew =>
      of_decide_eq_true hnew (hys y (mem_firsts.mp hy))
  rw [← foldl_addNew_nil, List.foldl_append, foldl_addNew_nil, firsts_of_nodup h, foldl_addNew,
    hnone, List.append_nil]

/-- A selection keeps the order of what it selects. -/
theorem idxOf_filter_lt (hx : p x = true) (hy : p y = true) (h : xs.idxOf x < xs.idxOf y) :
    (xs.filter p).idxOf x < (xs.filter p).idxOf y := by
  induction xs with
  | nil => exact absurd h (Nat.lt_irrefl _)
  | cons z zs ih =>
    by_cases hzx : z = x
    · subst hzx
      have hne : z ≠ y := by
        rintro rfl
        exact Nat.lt_irrefl _ h
      rw [List.filter_cons_of_pos hx, List.idxOf_cons_self, List.idxOf_cons_ne _ hne]
      exact Nat.succ_pos _
    · by_cases hzy : z = y
      · subst hzy
        rw [List.idxOf_cons_self] at h
        exact absurd h (Nat.not_lt_zero _)
      · rw [List.idxOf_cons_ne _ hzx, List.idxOf_cons_ne _ hzy] at h
        have hrest := ih (Nat.lt_of_succ_lt_succ h)
        rw [List.filter_cons]
        split
        · rw [List.idxOf_cons_ne _ hzx, List.idxOf_cons_ne _ hzy]
          exact Nat.succ_lt_succ hrest
        · exact hrest

/-- What comes first in a list comes first in a longer one. -/
theorem idxOf_append_lt (h : xs.idxOf x < xs.idxOf y) :
    (xs ++ ys).idxOf x < (xs ++ ys).idxOf y := by
  have hx : x ∈ xs := List.idxOf_lt_length_iff.mp (Nat.lt_of_lt_of_le h List.idxOf_le_length)
  rw [List.idxOf_append_of_mem hx]
  by_cases hy : y ∈ xs
  · rwa [List.idxOf_append_of_mem hy]
  · rw [List.idxOf_append_of_notMem hy]
    exact Nat.lt_of_lt_of_le (List.idxOf_lt_length_iff.mpr hx) (Nat.le_add_right _ _)

/-- The order in which elements come first stays. -/
theorem idxOf_firsts_lt (h : xs.idxOf x < xs.idxOf y) :
    (firsts xs).idxOf x < (firsts xs).idxOf y := by
  induction xs with
  | nil => exact absurd h (Nat.lt_irrefl _)
  | cons z zs ih =>
    rw [firsts]
    by_cases hzx : z = x
    · subst hzx
      have hne : z ≠ y := by
        rintro rfl
        exact Nat.lt_irrefl _ h
      rw [List.idxOf_cons_self, List.idxOf_cons_ne _ hne]
      exact Nat.succ_pos _
    · by_cases hzy : z = y
      · subst hzy
        rw [List.idxOf_cons_self] at h
        exact absurd h (Nat.not_lt_zero _)
      · rw [List.idxOf_cons_ne _ hzx, List.idxOf_cons_ne _ hzy] at h ⊢
        exact Nat.succ_lt_succ (idxOf_filter_lt (decide_eq_true (Ne.symm hzx))
          (decide_eq_true (Ne.symm hzy)) (ih (Nat.lt_of_succ_lt_succ h)))

end PveManager.Core
