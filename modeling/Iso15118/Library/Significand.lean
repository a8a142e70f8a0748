import Mathlib.Algebra.Order.Field.Basic
import Mathlib.Data.Int.Log

/-!
# Significands

A positive number is a power of the base times its significand, which lies between one and the
base.
-/

variable {R : Type*} [Field R] [LinearOrder R] [IsStrictOrderedRing R] [FloorRing R]

/-- A number with its leading digit before the point. -/
def significand (base : ℕ) (x : R) : R :=
  x / (base : R) ^ Int.log base x

namespace significand

variable {base : ℕ} {x : R}

omit [FloorRing R] in
theorem scale_pos (one_lt : 1 < base) (exponent : ℤ) : (0 : R) < (base : R) ^ exponent :=
  zpow_pos (by exact_mod_cast zero_lt_one.trans one_lt) exponent

theorem one_le (one_lt : 1 < base) (pos : 0 < x) : 1 ≤ significand base x := by
  rw [significand, one_le_div (scale_pos one_lt _)]
  exact Int.zpow_log_le_self one_lt pos

/-- Shifting the point shifts the position of the leading digit. -/
theorem log_mul_zpow (one_lt : 1 < base) (pos : 0 < x) (exponent : ℤ) :
    Int.log base (x * (base : R) ^ exponent) = Int.log base x + exponent := by
  have scale := scale_pos (R := R) one_lt exponent
  have base_ne : (base : R) ≠ 0 := by exact_mod_cast (zero_lt_one.trans one_lt).ne'
  have shifted (digits : ℤ) : digits ≤ Int.log base (x * (base : R) ^ exponent) ↔
      digits ≤ Int.log base x + exponent := by
    rw [← Int.zpow_le_iff_le_log one_lt (mul_pos pos scale), ← sub_le_iff_le_add,
      ← Int.zpow_le_iff_le_log one_lt pos, zpow_sub₀ base_ne, div_le_iff₀ scale]
  exact le_antisymm ((shifted _).mp le_rfl) ((shifted _).mpr le_rfl)

/-- The significand does not depend on the position of the point. -/
theorem mul_zpow (one_lt : 1 < base) (pos : 0 < x) (exponent : ℤ) :
    significand base (x * (base : R) ^ exponent) = significand base x := by
  have base_ne : (base : R) ≠ 0 := by exact_mod_cast (zero_lt_one.trans one_lt).ne'
  rw [significand, significand, log_mul_zpow one_lt pos, zpow_add₀ base_ne,
    mul_div_mul_right _ _ (scale_pos one_lt exponent).ne']

theorem le_self (one_lt : 1 < base) (large : 1 ≤ x) : significand base x ≤ x := by
  have pos := zero_lt_one.trans_le large
  have position : 0 ≤ Int.log base x := by
    rw [← Int.zpow_le_iff_le_log one_lt pos, zpow_zero]
    exact large
  exact div_le_self pos.le (one_le_zpow₀ (by exact_mod_cast one_lt.le) position)

/-- A number between one and the base is its own significand. -/
theorem eq_self (one_lt : 1 < base) (large : 1 ≤ x) (small : x < base) :
    significand base x = x := by
  have pos := zero_lt_one.trans_le large
  have position : Int.log base x = 0 := by
    apply le_antisymm
    · rw [← Int.lt_add_one_iff, ← Int.lt_zpow_iff_log_lt one_lt pos, zero_add, zpow_one]
      exact small
    · rw [← Int.zpow_le_iff_le_log one_lt pos, zpow_zero]
      exact large
  rw [significand, position, zpow_zero, div_one]

end significand
