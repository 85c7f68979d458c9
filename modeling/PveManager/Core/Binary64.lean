import Mathlib.Algebra.Order.Floor.Ring
import Mathlib.Data.Int.Log
import Mathlib.Data.Rat.Floor
import Mathlib.Tactic.NormNum

/-!
# Doubles

The double that a number without a sign is rounded to: the nearest one, of two the one whose last
bit is zero. A whole number with at most 53 bits is a double itself.
-/

namespace PveManager.Core.Binary64

/-- The nearest integer, of two the even one. -/
def roundEven (q : Rat) : Int :=
  if 2 * (q - ⌊q⌋) < 1 then ⌊q⌋
  else if 1 < 2 * (q - ⌊q⌋) then ⌊q⌋ + 1
  else if ⌊q⌋ % 2 = 0 then ⌊q⌋
  else ⌊q⌋ + 1

/-- The exponent of the last bit of the doubles around a number. -/
def lastBit (q : Rat) : Int := max (Int.log 2 q - 52) (-1074)

def nearest (q : Rat) : Rat := roundEven (q / 2 ^ lastBit q) * 2 ^ lastBit q

/-- The double, nothing where the number is too large for one. -/
def double (q : Rat) : Option Rat := if nearest q < 2 ^ 1024 then some (nearest q) else none

variable {q : Rat}

theorem roundEven_intCast (n : Int) : roundEven n = n := by
  unfold roundEven
  rw [Int.floor_intCast, sub_self, mul_zero, if_pos one_pos]

theorem roundEven_nonneg (h : 0 ≤ q) : 0 ≤ roundEven q := by
  have hfloor : 0 ≤ ⌊q⌋ := Int.floor_nonneg.mpr h
  unfold roundEven
  split
  · exact hfloor
  · split
    · omega
    · split
      · exact hfloor
      · omega

theorem nearest_nonneg (h : 0 ≤ q) : 0 ≤ nearest q := by
  have hbit : (0 : Rat) < 2 ^ lastBit q := zpow_pos two_pos _
  have hround : (0 : Rat) ≤ roundEven (q / 2 ^ lastBit q) :=
    Int.cast_nonneg (roundEven_nonneg (div_nonneg h hbit.le))
  exact mul_nonneg hround hbit.le

/-- A multiple of the last bit is not rounded. -/
theorem nearest_eq_self {n : Int} (h : q / 2 ^ lastBit q = n) : nearest q = q := by
  have hbit : (2 : Rat) ^ lastBit q ≠ 0 := (zpow_pos two_pos _).ne'
  unfold nearest
  rw [h, roundEven_intCast, ← h, div_mul_cancel₀ q hbit]

/-- A whole number with at most 53 bits is a double. -/
theorem nearest_natCast {n : Nat} (h : n < 2 ^ 53) : nearest n = n := by
  have hlog : Nat.log 2 n ≤ 52 := by
    rcases Nat.eq_zero_or_pos n with rfl | hpos
    · simp
    · exact Nat.lt_succ_iff.mp ((Nat.log_lt_iff_lt_pow (by decide) hpos.ne').mpr h)
  have hbit : lastBit (n : Rat) ≤ 0 := by
    unfold lastBit
    rw [Int.log_natCast]
    omega
  obtain ⟨k, hk⟩ := Int.eq_ofNat_of_zero_le (Int.neg_nonneg.mpr hbit)
  refine nearest_eq_self (n := n * 2 ^ k) ?_
  have hexponent : lastBit (n : Rat) = -(k : Int) := by omega
  rw [hexponent, zpow_neg, zpow_natCast, div_inv_eq_mul]
  push_cast
  rfl

theorem double_natCast {n : Nat} (h : n < 2 ^ 53) : double n = some (n : Rat) := by
  have hlt : (n : Rat) < 2 ^ 1024 :=
    calc (n : Rat) < ((2 ^ 53 : Nat) : Rat) := Nat.cast_lt.mpr h
      _ = 2 ^ 53 := Nat.cast_pow 2 53
      _ ≤ 2 ^ 1024 := pow_le_pow_right₀ one_le_two (by decide)
  unfold double
  rw [nearest_natCast h, if_pos hlt]

theorem double_nonneg (h : 0 ≤ q) {r : Rat} (hr : double q = some r) : 0 ≤ r := by
  unfold double at hr
  split at hr
  · rw [← Option.some.inj hr]
    exact nearest_nonneg h
  · cases hr

end PveManager.Core.Binary64
