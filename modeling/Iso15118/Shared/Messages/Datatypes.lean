import Iso15118.Library.Rounding
import Iso15118.Shared.Exceptions
import Mathlib.Algebra.Order.Field.Rat
import Mathlib.Algebra.Order.Field.Basic
import Mathlib.Tactic.FieldSimp
import Mathlib.Tactic.NormNum
import Mathlib.Tactic.Positivity
import Mathlib.Tactic.Ring

/-!
# Scaled integers on the wire

Physical quantities travel as a 16-bit integer with a power of ten.
`get_exponent_value_repr` picks the exponent. Readings are exact rationals
here; the code computes them as floats.
-/

namespace Iso15118.Shared

open Rounding

def int8Min : Int := -(2 ^ 7)

def int8Max : Int := 2 ^ 7 - 1

def int16Min : Int := -(2 ^ 15)

def int16Max : Int := 2 ^ 15 - 1

theorem int8_zero : int8Min ≤ 0 ∧ 0 ≤ int8Max := by decide

theorem int8_three : int8Min ≤ 3 ∧ 3 ≤ int8Max := by decide

theorem int16_zero : int16Min ≤ 0 ∧ 0 ≤ int16Max := by decide

theorem int16_ten : int16Min ≤ 10 ∧ 10 ≤ int16Max := by decide

theorem int16_twenty : int16Min ≤ 20 ∧ 20 ≤ int16Max := by decide

theorem int16_hundred : int16Min ≤ 100 ∧ 100 ≤ int16Max := by decide

theorem int16_fourHundred : int16Min ≤ 400 ∧ 400 ≤ int16Max := by decide

/-- The range of the powers of ten of a `PhysicalValue`. -/
theorem multiplier_zero : (-3 : Int) ≤ 0 ∧ (0 : Int) ≤ 3 := by decide

/-- `PhysicalValue` of ISO 15118-2: an int16 scaled by a power of ten between
-3 and 3. -/
structure PhysicalValue where
  value : Int
  multiplier : Int
  value_range : int16Min ≤ value ∧ value ≤ int16Max
  multiplier_range : -3 ≤ multiplier ∧ multiplier ≤ 3
  deriving DecidableEq

/-- `value * 10**multiplier`. -/
def PhysicalValue.getDecimalValue (quantity : PhysicalValue) : ℚ :=
  quantity.value * 10 ^ quantity.multiplier

/-- The model's constructor call with keyword arguments; pydantic raises when a
bound fails. -/
def PhysicalValue.new (multiplier value : Int) : Except PyError PhysicalValue :=
  if range : (int16Min ≤ value ∧ value ≤ int16Max) ∧ -3 ≤ multiplier ∧ multiplier ≤ 3 then
    .ok ⟨value, multiplier, range.1, range.2⟩
  else
    .error .validationError

theorem PhysicalValue.exists_new {multiplier value : Int}
    (value_range : int16Min ≤ value ∧ value ≤ int16Max)
    (multiplier_range : -3 ≤ multiplier ∧ multiplier ≤ 3) :
    ∃ quantity, PhysicalValue.new multiplier value = .ok quantity := by
  unfold PhysicalValue.new
  rw [dif_pos ⟨value_range, multiplier_range⟩]
  exact ⟨_, rfl⟩

theorem PhysicalValue.getDecimalValue_of_new {multiplier value : Int} {quantity : PhysicalValue}
    (made : PhysicalValue.new multiplier value = .ok quantity) :
    quantity.getDecimalValue = value * 10 ^ multiplier := by
  unfold PhysicalValue.new at made
  split at made
  next => cases made; rfl
  next => cases made

/-- `RationalNumber` of ISO 15118-20: an int16 scaled by an int8 power of ten. -/
structure RationalNumber where
  exponent : Int
  value : Int
  exponent_range : int8Min ≤ exponent ∧ exponent ≤ int8Max
  value_range : int16Min ≤ value ∧ value ≤ int16Max
  deriving DecidableEq

/-- `value * 10**exponent`. -/
def RationalNumber.getDecimalValue (number : RationalNumber) : ℚ :=
  number.value * 10 ^ number.exponent

def RationalNumber.new (exponent value : Int) : Except PyError RationalNumber :=
  if range : (int8Min ≤ exponent ∧ exponent ≤ int8Max) ∧ int16Min ≤ value ∧ value ≤ int16Max then
    .ok ⟨exponent, value, range.1, range.2⟩
  else
    .error .validationError

/-! ## Choosing the exponent -/

/-- The first loop of `get_exponent_value_repr`: shift decimals in until the
value is an integer, at most three times. A value that has no digit left after
three shifts loses its exponent. -/
def shiftDecimals : Nat → ℚ → Int → ℚ × Int
  | 0, value, exponent => (value, exponent)
  | shifts + 1, value, exponent =>
      if value ≠ truncate value then
        let value := value * 10
        let exponent := exponent - 1
        if exponent = -3 then
          (value, if truncate value = 0 then 0 else exponent)
        else
          shiftDecimals shifts value exponent
      else
        (value, exponent)

/-- `min_limit <= value <= max_limit`. -/
def InLimits (minLimit maxLimit : Int) (value : ℚ) : Prop :=
  (minLimit : ℚ) ≤ value ∧ value ≤ maxLimit

instance (minLimit maxLimit : Int) (value : ℚ) : Decidable (InLimits minLimit maxLimit value) :=
  inferInstanceAs (Decidable (_ ∧ _))

/-- The second loop, stopped after a number of rounds: scale until the value
lies within the limits. -/
def fitLimits (minLimit maxLimit : Int) : Nat → ℚ → Int → ℚ × Int
  | 0, value, exponent => (value, exponent)
  | rounds + 1, value, exponent =>
      if InLimits minLimit maxLimit value then
        (value, exponent)
      else if 10 ≤ |value| then
        fitLimits minLimit maxLimit rounds (value / 10) (exponent + 1)
      else if |value| < 1 ∧ value ≠ 0 then
        fitLimits minLimit maxLimit rounds (value * 10) (exponent - 1)
      else
        fitLimits minLimit maxLimit rounds value exponent

/-- `get_exponent_value_repr` when the second loop runs for at most `rounds`
rounds. -/
def getExponentValueReprWithin (rounds : Nat) (minLimit maxLimit : Int) (value : ℚ) : Int × Int :=
  let shifted := shiftDecimals 3 value 0
  let fitted := fitLimits minLimit maxLimit rounds shifted.1 shifted.2
  (fitted.2, truncate fitted.1)

/-- `get_exponent_value_repr` with its default limits. The number of rounds is
more than the loop needs. -/
def getExponentValueRepr (value : ℚ) : Int × Int :=
  getExponentValueReprWithin (truncate (shiftDecimals 3 value 0).1).natAbs int16Min int16Max value

/-- `RationalNumber.get_rational_repr`. -/
def RationalNumber.getRationalRepr (floatValue : Option ℚ) :
    Except PyError (Option RationalNumber) :=
  match floatValue with
  | none => .ok none
  | some value =>
      let repr := getExponentValueRepr value
      (RationalNumber.new repr.1 repr.2).map some

/-- The value lies within the default limits. -/
abbrev FitsInt16 (value : ℚ) : Prop :=
  InLimits int16Min int16Max value

theorem fitsInt16_of_abs_le {value smaller : ℚ} (fits : FitsInt16 value)
    (sameSign : (0 ≤ smaller ∧ smaller ≤ value) ∨ (value ≤ smaller ∧ smaller ≤ 0)) :
    FitsInt16 smaller := by
  unfold FitsInt16 InLimits int16Min int16Max at *
  push_cast at *
  rcases sameSign with ⟨nonneg, le⟩ | ⟨le, nonpos⟩
  · constructor <;> linarith
  · constructor <;> linarith

/-- A value that fits still fits after any scaling down. -/
theorem FitsInt16.div {value scale : ℚ} (fits : FitsInt16 value) (one_le : 1 ≤ scale) :
    FitsInt16 (value / scale) := by
  have pos : 0 < scale := by linarith
  apply fitsInt16_of_abs_le fits
  rcases le_total 0 value with nonneg | nonpos
  · left
    exact ⟨div_nonneg nonneg pos.le, div_le_self nonneg one_le⟩
  · right
    refine ⟨?_, div_nonpos_of_nonpos_of_nonneg nonpos pos.le⟩
    rw [le_div_iff₀ pos]
    nlinarith

theorem fitsInt16_of_abs_lt {value : ℚ} (small : |value| < 32767) : FitsInt16 value := by
  rcases abs_lt.mp small with ⟨above, below⟩
  unfold FitsInt16 InLimits int16Min int16Max
  push_cast
  constructor <;> linarith

theorem lt_abs_of_not_fitsInt16 {value : ℚ} (exceeds : ¬FitsInt16 value) : 32767 ≤ |value| := by
  by_contra small
  exact exceeds (fitsInt16_of_abs_lt (not_le.mp small))

/-- What the first loop hands over: the value shifted by `shifts ≤ 3` decimals.
It is an integer or has been shifted three times, or nothing is left of it. -/
theorem shiftDecimals_eq (value : ℚ) :
    (|value| < 1 / 1000 ∧ (shiftDecimals 3 value 0).2 = 0 ∧
        |(shiftDecimals 3 value 0).1| < 1) ∨
      ∃ shifts : Nat, shifts ≤ 3 ∧
        shiftDecimals 3 value 0 = (value * 10 ^ shifts, -(shifts : Int)) ∧
        (shifts = 3 ∨ value * 10 ^ shifts = truncate (value * 10 ^ shifts)) := by
  by_cases whole0 : value = truncate value
  · right
    exact ⟨0, by simp, by simp [shiftDecimals, ← whole0], .inr (by simpa using whole0)⟩
  · by_cases whole1 : value * 10 = truncate (value * 10)
    · right
      refine ⟨1, by simp, ?_, .inr (by simpa using whole1)⟩
      simp [shiftDecimals, whole0, ← whole1]
    · by_cases whole2 : value * 10 * 10 = truncate (value * 10 * 10)
      · right
        refine ⟨2, by simp, ?_, .inr ?_⟩
        · simp [shiftDecimals, whole0, whole1, ← whole2]
          ring
        · rw [show value * 10 ^ 2 = value * 10 * 10 by ring]
          exact whole2
      · have shifted : shiftDecimals 3 value 0 = (value * 10 * 10 * 10,
            if truncate (value * 10 * 10 * 10) = 0 then 0 else -3) := by
          simp [shiftDecimals, whole0, whole1, whole2]
        by_cases gone : truncate (value * 10 * 10 * 10) = 0
        · left
          have small := truncate_eq_zero_iff.mp gone
          rw [shifted, if_pos gone]
          refine ⟨?_, rfl, small⟩
          rw [show value * 10 * 10 * 10 = 1000 * value by ring, abs_mul] at small
          norm_num at small ⊢
          linarith
        · right
          refine ⟨3, le_rfl, ?_, .inl rfl⟩
          rw [shifted, if_neg gone]
          norm_num
          ring

/-- The second loop stops once the value fits. With enough rounds it stops at
the first power of ten that makes it fit. -/
theorem fitLimits_eq (rounds : Nat) :
    ∀ (value : ℚ) (exponent : Int), |value| < 10 ^ rounds * 32767 →
      ∃ scale : Nat, fitLimits int16Min int16Max rounds value exponent =
          (value / 10 ^ scale, exponent + scale) ∧
        FitsInt16 (value / 10 ^ scale) ∧
        (scale = 0 ∨ ¬FitsInt16 (value / 10 ^ (scale - 1))) := by
  induction rounds with
  | zero =>
      intro value exponent small
      refine ⟨0, by simp [fitLimits], ?_, .inl rfl⟩
      simpa using fitsInt16_of_abs_lt (by simpa using small)
  | succ rounds ih =>
      intro value exponent small
      by_cases fits : FitsInt16 value
      · exact ⟨0, by simp [fitLimits, fits], by simpa using fits, .inl rfl⟩
      · have large := lt_abs_of_not_fitsInt16 fits
        have ten_le : 10 ≤ |value| := by linarith
        have smaller : |value / 10| < 10 ^ rounds * 32767 := by
          rw [abs_div, abs_of_pos (by norm_num : (0 : ℚ) < 10), div_lt_iff₀ (by norm_num)]
          rw [pow_succ] at small
          linarith
        rcases ih (value / 10) (exponent + 1) smaller with ⟨scale, result, inside, before⟩
        have shift : value / 10 / 10 ^ scale = value / 10 ^ (scale + 1) := by
          rw [div_div, pow_succ, mul_comm]
        refine ⟨scale + 1, ?_, ?_, .inr ?_⟩
        · rw [shift] at result
          rw [fitLimits, if_neg fits, if_pos ten_le, result]
          push_cast
          simp only [Prod.mk.injEq, true_and]
          ring
        · rwa [← shift]
        · rcases before with rfl | before
          · simpa using fits
          · rcases Nat.eq_zero_or_pos scale with rfl | pos
            · simpa using fits
            · rw [Nat.add_sub_cancel]
              obtain ⟨scale, rfl⟩ := Nat.exists_eq_succ_of_ne_zero pos.ne'
              have back : value / 10 / 10 ^ scale = value / 10 ^ (scale + 1) := by
                rw [div_div, pow_succ, mul_comm]
              rw [Nat.succ_eq_add_one, ← back]
              simpa using before

/-- As many rounds as the value has units are enough for the second loop. -/
theorem abs_lt_rounds (value : ℚ) : |value| < 10 ^ (truncate value).natAbs * 32767 := by
  have close := abs_sub_truncate_lt_one value
  have split := abs_sub_abs_le_abs_sub value (truncate value)
  have size : |(truncate value : ℚ)| = ((truncate value).natAbs : ℚ) := by
    rw [← Int.cast_abs, Int.abs_eq_natAbs]
    rfl
  have grows : ((truncate value).natAbs : ℚ) + 1 ≤ 10 ^ (truncate value).natAbs := by
    exact_mod_cast Nat.lt_pow_self (by norm_num : 1 < 10)
  linarith

/-- The two outcomes of `get_exponent_value_repr`: nothing is left of a value
below a thousandth, and any other value is truncated at an exponent that makes
it fit and is no larger than it has to be. -/
theorem getExponentValueRepr_cases (value : ℚ) :
    (|value| < 1 / 1000 ∧ getExponentValueRepr value = (0, 0)) ∨
      ∃ exponent : Int,
        getExponentValueRepr value = (exponent, truncate (value / 10 ^ exponent)) ∧
        -3 ≤ exponent ∧ FitsInt16 (value / 10 ^ exponent) ∧
        (exponent = -3 ∨
          (exponent ≤ 0 ∧ value / 10 ^ exponent = truncate (value / 10 ^ exponent)) ∨
          ¬FitsInt16 (value / 10 ^ (exponent - 1))) := by
  rcases shiftDecimals_eq value with ⟨small, noExponent, nothing⟩ |
      ⟨shifts, atMost, shifted, settled⟩
  · left
    refine ⟨small, ?_⟩
    simp [getExponentValueRepr, getExponentValueReprWithin, truncate_eq_zero_iff.mpr nothing,
      fitLimits, noExponent]
  · right
    rcases fitLimits_eq _ (value * 10 ^ shifts) (-(shifts : Int)) (abs_lt_rounds _) with
      ⟨scale, fitted, inside, before⟩
    have atExponent (n : Nat) : value * 10 ^ shifts / 10 ^ n =
        value / 10 ^ (-(shifts : Int) + n) := by
      rw [zpow_add₀ (by norm_num), zpow_neg, zpow_natCast, zpow_natCast]
      field_simp
    refine ⟨-(shifts : Int) + scale, ?_, by omega, by rwa [← atExponent], ?_⟩
    · simp only [getExponentValueRepr, getExponentValueReprWithin, shifted, fitted, atExponent]
    · rcases before with rfl | before
      · rcases settled with rfl | whole
        · left
          simp
        · right
          left
          refine ⟨by omega, ?_⟩
          rw [← atExponent, pow_zero, div_one]
          exact whole
      · right
        right
        intro fits
        apply before
        rcases Nat.eq_zero_or_pos scale with rfl | pos
        · simpa using inside
        · rw [atExponent]
          rwa [show -(shifts : Int) + ((scale - 1 : Nat) : Int) = -shifts + scale - 1 by omega]

/-- What the receiver computes from the two numbers. -/
def decodeRepr (repr : Int × Int) : ℚ :=
  repr.2 * 10 ^ repr.1

theorem getExponentValueRepr_value_range (value : ℚ) :
    int16Min ≤ (getExponentValueRepr value).2 ∧ (getExponentValueRepr value).2 ≤ int16Max := by
  rcases getExponentValueRepr_cases value with ⟨_, gone⟩ | ⟨exponent, result, _, fits, _⟩
  · rw [gone]
    decide
  · rw [result]
    exact truncate_mem (by decide) (by decide) fits

theorem neg_three_le_exponent (value : ℚ) : -3 ≤ (getExponentValueRepr value).1 := by
  rcases getExponentValueRepr_cases value with ⟨_, gone⟩ | ⟨exponent, result, lower, _, _⟩
  · rw [gone]
    decide
  · rw [result]
    exact lower

/-- Scaling further down keeps a value within the limits. -/
theorem FitsInt16.of_le_exponent {value : ℚ} {low high : Int} (le : low ≤ high)
    (fits : FitsInt16 (value / 10 ^ low)) : FitsInt16 (value / 10 ^ high) := by
  have split : value / 10 ^ high = value / 10 ^ low / 10 ^ (high - low) := by
    rw [div_div, ← zpow_add₀ (by norm_num)]
    congr 2
    omega
  rw [split]
  exact fits.div (one_le_zpow₀ (by norm_num) (by omega))

/-- The exponent stays within a bound exactly for the values that fit at it. -/
theorem exponent_le_iff {bound : Int} (nonneg : 0 ≤ bound) (value : ℚ) :
    (getExponentValueRepr value).1 ≤ bound ↔ FitsInt16 (value / 10 ^ bound) := by
  rcases getExponentValueRepr_cases value with
    ⟨small, gone⟩ | ⟨exponent, result, lower, fits, minimal⟩
  · rw [gone]
    apply iff_of_true nonneg
    have scale : (1 : ℚ) ≤ 10 ^ bound := one_le_zpow₀ (by norm_num) nonneg
    apply FitsInt16.div _ scale
    apply fitsInt16_of_abs_lt
    linarith
  · rw [result]
    constructor
    · intro le
      exact fits.of_le_exponent le
    · intro atBound
      by_contra exceeds
      rcases minimal with rfl | ⟨nonpos, _⟩ | outside
      · omega
      · omega
      · exact outside (atBound.of_le_exponent (by omega))

/-- The exponent stays within the multiplier of a `PhysicalValue` exactly for
the values that fit at exponent 3. -/
theorem exponent_le_three_iff (value : ℚ) :
    (getExponentValueRepr value).1 ≤ 3 ↔ FitsInt16 (value / 1000) := by
  rw [exponent_le_iff (by norm_num), show (10 : ℚ) ^ (3 : Int) = 1000 by norm_num]

/-- A representation has the sign of the value and does not exceed it. -/
theorem decodeRepr_nonneg {value : ℚ} (nonneg : 0 ≤ value) :
    0 ≤ decodeRepr (getExponentValueRepr value) ∧
      decodeRepr (getExponentValueRepr value) ≤ value := by
  rcases getExponentValueRepr_cases value with ⟨_, gone⟩ | ⟨exponent, result, _, _, _⟩
  · simpa [gone, decodeRepr] using nonneg
  · have pos : (0 : ℚ) < 10 ^ exponent := zpow_pos (by norm_num) exponent
    have scaled : 0 ≤ value / 10 ^ exponent := div_nonneg nonneg pos.le
    rw [result]
    constructor
    · exact mul_nonneg (by exact_mod_cast truncate_nonneg scaled) pos.le
    · exact (le_div_iff₀ pos).mp (truncate_le scaled)

theorem decodeRepr_nonpos {value : ℚ} (nonpos : value ≤ 0) :
    decodeRepr (getExponentValueRepr value) ≤ 0 ∧
      value ≤ decodeRepr (getExponentValueRepr value) := by
  rcases getExponentValueRepr_cases value with ⟨_, gone⟩ | ⟨exponent, result, _, _, _⟩
  · simpa [gone, decodeRepr] using nonpos
  · have pos : (0 : ℚ) < 10 ^ exponent := zpow_pos (by norm_num) exponent
    have flipped : 0 ≤ -(value / 10 ^ exponent) :=
      neg_nonneg.mpr (div_nonpos_of_nonpos_of_nonneg nonpos pos.le)
    have sign := truncate_nonneg flipped
    have size := truncate_le flipped
    rw [truncate_neg] at sign size
    rw [result]
    constructor
    · exact mul_nonpos_of_nonpos_of_nonneg (by exact_mod_cast neg_nonneg.mp sign) pos.le
    · apply (div_le_iff₀ pos).mp
      push_cast at size
      linarith

end Iso15118.Shared
