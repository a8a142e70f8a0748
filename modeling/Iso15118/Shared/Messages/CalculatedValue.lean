import Iso15118.Library.Binary64
import Iso15118.Shared.Messages.Datatypes

/-!
# Scaled integers in double precision

With a negative multiplier `value * 10**multiplier` is a float: the power of ten and the
product are rounded. Different readings are a thousandth apart, so rounding does not change
their order; equal readings with different multipliers can become different floats.
-/

namespace Iso15118.Shared

namespace PhysicalValue

/-- `value * 10**multiplier`, as Python calculates it. -/
def calculatedValue (quantity : PhysicalValue) : ℚ :=
  if 0 ≤ quantity.multiplier then
    quantity.value * 10 ^ quantity.multiplier
  else
    Binary64.mul quantity.value (Binary64.round (10 ^ quantity.multiplier))

theorem calculatedValue_nonneg {quantity : PhysicalValue}
    (nonneg : 0 ≤ quantity.getDecimalValue) : 0 ≤ quantity.calculatedValue := by
  unfold calculatedValue
  split
  next => exact nonneg
  next =>
    have power : (0 : ℚ) < 10 ^ quantity.multiplier := zpow_pos (by norm_num) _
    have value : (0 : ℚ) ≤ quantity.value := nonneg_of_mul_nonneg_left nonneg power
    exact Binary64.round_nonneg (mul_nonneg value (Binary64.round_nonneg power.le))

/-- Readings count in thousandths. -/
theorem exists_thousandths (quantity : PhysicalValue) :
    ∃ number : Int, quantity.getDecimalValue = number / 1000 := by
  obtain ⟨shift, same⟩ : ∃ shift : Nat, quantity.multiplier + 3 = shift :=
    Int.eq_ofNat_of_zero_le (by have := quantity.multiplier_range.1; omega)
  refine ⟨quantity.value * 10 ^ shift, ?_⟩
  have power : (10 : ℚ) ^ quantity.multiplier = 10 ^ shift / 1000 := by
    rw [eq_div_iff (by norm_num), ← zpow_natCast, ← same, zpow_add₀ (by norm_num)]
    norm_num
  unfold getDecimalValue
  rw [power]
  push_cast
  ring

/-- The float of a small power of ten is close to it. -/
theorem abs_sub_round_power_le {power : ℚ} (nonneg : 0 ≤ power) (small : power ≤ 1 / 10) :
    |power - Binary64.round power| ≤ 2 ^ ((-56 : Int) - 1) := by
  refine Binary64.abs_sub_round_le (by norm_num) ?_
  rw [abs_of_nonneg nonneg]
  norm_num
  linarith

/-- Rounding the power and the product moves a reading by much less than a thousandth. -/
theorem abs_sub_mul_round_lt {value power : ℚ} (nonneg : 0 ≤ power) (small : power ≤ 1 / 10)
    (bounded : |value| ≤ 2 ^ 15) :
    |value * power - Binary64.mul value (Binary64.round power)| < 1 / 2000 := by
  have factor := abs_sub_round_power_le nonneg small
  have scaled : |value * power - value * Binary64.round power| ≤
      2 ^ 15 * 2 ^ ((-56 : Int) - 1) := by
    rw [← mul_sub, abs_mul]
    exact mul_le_mul bounded factor (abs_nonneg _) (by norm_num)
  have eighth : |Binary64.round power| ≤ 1 / 8 := by
    obtain ⟨above, _⟩ := abs_le.mp factor
    rw [abs_of_nonneg (Binary64.round_nonneg nonneg)]
    norm_num at above ⊢
    linarith
  have product : |value * Binary64.round power| < 2 ^ ((-40 : Int) + 53) := by
    rw [abs_mul]
    refine (mul_le_mul bounded eighth (abs_nonneg _) (by norm_num)).trans_lt ?_
    norm_num
  have rounded := Binary64.abs_sub_round_le (by norm_num) product
  calc |value * power - Binary64.mul value (Binary64.round power)|
      ≤ |value * power - value * Binary64.round power| +
          |value * Binary64.round power - Binary64.round (value * Binary64.round power)| :=
        abs_sub_le _ _ _
    _ ≤ 2 ^ 15 * 2 ^ ((-56 : Int) - 1) + 2 ^ ((-40 : Int) - 1) := add_le_add scaled rounded
    _ < 1 / 2000 := by norm_num

theorem abs_sub_calculatedValue_lt (quantity : PhysicalValue) :
    |quantity.getDecimalValue - quantity.calculatedValue| < 1 / 2000 := by
  unfold calculatedValue
  split
  next =>
    unfold getDecimalValue
    rw [sub_self, abs_zero]
    norm_num
  next negative =>
    apply abs_sub_mul_round_lt
    · exact (zpow_pos (by norm_num) _).le
    · rw [one_div, ← zpow_neg_one]
      exact zpow_le_zpow_right₀ (by norm_num) (by omega)
    · obtain ⟨least, most⟩ := quantity.value_range
      unfold int16Min at least
      unfold int16Max at most
      rw [abs_le]
      constructor
      · exact_mod_cast least
      · exact_mod_cast (by omega : quantity.value ≤ 2 ^ 15)

/-- A smaller reading is a smaller number or float. -/
theorem calculatedValue_lt {smaller larger : PhysicalValue}
    (less : smaller.getDecimalValue < larger.getDecimalValue) :
    smaller.calculatedValue < larger.calculatedValue := by
  obtain ⟨below, _⟩ := abs_lt.mp (abs_sub_calculatedValue_lt smaller)
  obtain ⟨_, above⟩ := abs_lt.mp (abs_sub_calculatedValue_lt larger)
  obtain ⟨first, sameFirst⟩ := exists_thousandths smaller
  obtain ⟨second, sameSecond⟩ := exists_thousandths larger
  have apart : (first : ℚ) + 1 ≤ second := by
    rw [sameFirst, sameSecond, div_lt_div_iff_of_pos_right (by norm_num)] at less
    exact_mod_cast Int.add_one_le_of_lt (Int.cast_lt.mp less)
  linarith

/-- A reading that is not larger is a larger float only if the two are the same. -/
theorem eq_of_calculatedValue_lt {entry bound : PhysicalValue}
    (within : entry.getDecimalValue ≤ bound.getDecimalValue)
    (greater : bound.calculatedValue < entry.calculatedValue) :
    entry.getDecimalValue = bound.getDecimalValue := by
  by_contra different
  have less := calculatedValue_lt (lt_of_le_of_ne within different)
  exact lt_asymm less greater

/-- 0.3 as three tenths is a larger float than 0.3 as thirty hundredths. -/
example : getDecimalValue ⟨3, -1, by decide, by decide⟩ =
      getDecimalValue ⟨30, -2, by decide, by decide⟩ ∧
    calculatedValue ⟨30, -2, by decide, by decide⟩ <
      calculatedValue ⟨3, -1, by decide, by decide⟩ := by
  decide +kernel

end PhysicalValue

end Iso15118.Shared
