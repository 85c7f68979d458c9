import Mathlib.Data.List.Basic

/-!
# Sliding windows

Times are sparse when no window of a length has more than a bound of them. A later time keeps them
sparse when few of the earlier ones are within the length before it.
-/

namespace PveManager.Core

/-- The time lies in the window of this length. -/
def inWindow (start length t : Nat) : Bool := decide (start ≤ t ∧ t < start + length)

/-- No window of this length has more than `bound` of the times. -/
def Sparse (times : List Nat) (length bound : Nat) : Prop :=
  ∀ start, times.countP (inWindow start length) ≤ bound

variable {times : List Nat} {length bound t : Nat}

theorem sparse_nil : Sparse [] length bound := fun _ => Nat.zero_le _

theorem inWindow_iff {start x : Nat} :
    inWindow start length x = true ↔ start ≤ x ∧ x < start + length := decide_eq_true_iff

/-- Another time may be added when every window around it has room. -/
theorem Sparse.append (h : Sparse times length bound)
    (hroom : ∀ start, inWindow start length t = true →
      times.countP (inWindow start length) < bound) : Sparse (times ++ [t]) length bound := by
  intro start
  rw [List.countP_append, List.countP_singleton]
  split
  · rename_i ht
    exact hroom start ht
  · exact h start

/-- A window around a time has none of the times that are the length before it, or older. -/
theorem countP_inWindow_le {start : Nat} (ht : inWindow start length t = true) :
    times.countP (inWindow start length) ≤ times.countP fun x => decide (t < x + length) := by
  apply List.countP_mono_left
  intro x _ hx
  have hfirst := inWindow_iff.mp ht
  have hsecond := inWindow_iff.mp hx
  apply decide_eq_true
  omega

/-- A time may be added when few of the times are within the length before it. -/
theorem Sparse.append_of_countP (h : Sparse times length bound)
    (hfew : (times.countP fun x => decide (t < x + length)) < bound) :
    Sparse (times ++ [t]) length bound :=
  h.append fun _ ht => Nat.lt_of_le_of_lt (countP_inWindow_le ht) hfew

/-- A time may be added when all times are the length before it, or older. -/
theorem Sparse.append_of_forall_le (h : Sparse times length bound) (hpos : 0 < bound)
    (hold : ∀ x ∈ times, x + length ≤ t) : Sparse (times ++ [t]) length bound := by
  apply h.append_of_countP
  have hnone : (times.countP fun x => decide (t < x + length)) = 0 := by
    rw [List.countP_eq_zero]
    intro x hx hlt
    exact absurd (of_decide_eq_true hlt) (Nat.not_lt.mpr (hold x hx))
  omega

/-- A time may be added when there are few times at all. -/
theorem Sparse.append_of_length (h : Sparse times length bound) (hfew : times.length < bound) :
    Sparse (times ++ [t]) length bound :=
  h.append fun _ _ => Nat.lt_of_le_of_lt List.countP_le_length hfew

end PveManager.Core
