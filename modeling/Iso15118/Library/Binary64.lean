import Iso15118.Library.Rounding
import Mathlib.Algebra.Order.Field.Power
import Mathlib.Data.Int.Log
import Mathlib.Tactic.FieldSimp
import Mathlib.Tactic.NormNum
import Mathlib.Tactic.Ring

/-!
# Double precision

The rationals that a double can stand for, and rounding to the nearest of them with ties to
the even digit. Small values lose digits as they do in subnormal doubles; large values are
never out of range.
-/

open Rounding

namespace Binary64

/-- The value has at most 53 digits, the last one not below that of the smallest double. -/
def Representable (value : ℚ) : Prop :=
  ∃ mantissa exponent : Int, |mantissa| < 2 ^ 53 ∧ -1074 ≤ exponent ∧
    value = mantissa * 2 ^ exponent

/-- A finite double. -/
structure Double where
  value : ℚ
  representable : Representable value

/-- The exponent of the last digit that is kept of a value. -/
def lastDigit (value : ℚ) : Int :=
  max (Int.log 2 |value| - 52) (-1074)

/-- The double that is nearest to a value. -/
def round (value : ℚ) : ℚ :=
  roundHalfEven (value / 2 ^ lastDigit value) * 2 ^ lastDigit value

/-! ## The operations -/

def sub (left right : ℚ) : ℚ :=
  round (left - right)

def mul (left right : ℚ) : ℚ :=
  round (left * right)

def div (left right : ℚ) : ℚ :=
  round (left / right)

/-! ## The last digit -/

theorem two_zpow_pos (exponent : Int) : (0 : ℚ) < 2 ^ exponent :=
  zpow_pos (by norm_num) exponent

theorem lastDigit_neg (value : ℚ) : lastDigit (-value) = lastDigit value := by
  unfold lastDigit
  rw [abs_neg]

theorem lastDigit_mono {smaller larger : ℚ} (pos : 0 < |smaller|) (le : |smaller| ≤ |larger|) :
    lastDigit smaller ≤ lastDigit larger := by
  unfold lastDigit
  apply max_le_max_right
  exact Int.sub_le_sub_right (Int.log_mono_right pos le) 52

/-- At most 53 digits are kept. -/
theorem abs_lt_two_zpow (value : ℚ) : |value| < 2 ^ (lastDigit value + 53) := by
  have below := Int.lt_zpow_succ_log_self one_lt_two |value|
  refine below.trans_le (zpow_le_zpow_right₀ one_le_two ?_)
  unfold lastDigit
  omega

/-- All of the 53 digits are kept, unless the last one is that of the smallest double. -/
theorem two_zpow_le_abs {value : ℚ} (pos : 0 < |value|) (above : -1074 < lastDigit value) :
    2 ^ (lastDigit value + 52) ≤ |value| := by
  have least := Int.zpow_log_le_self (R := ℚ) one_lt_two pos
  have same : lastDigit value + 52 = Int.log 2 |value| := by
    unfold lastDigit at above ⊢
    omega
  rw [same]
  exact least

theorem lastDigit_le {value : ℚ} {exponent : Int} (least : -1074 ≤ exponent) (pos : 0 < |value|)
    (below : |value| < 2 ^ (exponent + 53)) : lastDigit value ≤ exponent := by
  have log := (Int.lt_zpow_iff_log_lt one_lt_two pos).mp below
  unfold lastDigit
  omega

/-! ## Rounding -/

@[simp]
theorem round_zero : round 0 = 0 := by
  have zero : roundHalfEven 0 = 0 := by decide +kernel
  unfold round
  rw [zero_div, zero, Int.cast_zero, zero_mul]

theorem round_neg (value : ℚ) : round (-value) = -round value := by
  unfold round
  rw [lastDigit_neg, neg_div, roundHalfEven_neg, Int.cast_neg, neg_mul]

/-- A double is its own rounding. -/
theorem Representable.round_eq {value : ℚ} (representable : Representable value) :
    round value = value := by
  by_cases zero : value = 0
  · rw [zero, round_zero]
  obtain ⟨mantissa, exponent, short, least, exactly⟩ := representable
  have pos : 0 < |value| := abs_pos.mpr zero
  have below : |value| < 2 ^ (exponent + 53) := by
    have digits : ((|mantissa| : Int) : ℚ) < 2 ^ (53 : Int) := by exact_mod_cast short
    calc |value| = |mantissa| * 2 ^ exponent := by
          rw [exactly, abs_mul, abs_of_pos (two_zpow_pos exponent), Int.cast_abs]
      _ < 2 ^ (53 : Int) * 2 ^ exponent := mul_lt_mul_of_pos_right digits (two_zpow_pos exponent)
      _ = 2 ^ (exponent + 53) := by rw [← zpow_add₀ two_ne_zero, add_comm]
  have last := lastDigit_le least pos below
  -- In units of the last digit the value is an integer.
  obtain ⟨shift, same⟩ := Int.eq_ofNat_of_zero_le (sub_nonneg.mpr last)
  have units : (2 : ℚ) ^ exponent = 2 ^ shift * 2 ^ lastDigit value := by
    rw [← zpow_natCast, ← zpow_add₀ two_ne_zero]
    congr 1
    omega
  have whole : value / 2 ^ lastDigit value = ((mantissa * 2 ^ shift : Int) : ℚ) := by
    rw [div_eq_iff (two_zpow_pos _).ne']
    push_cast
    rw [mul_assoc, ← units]
    exact exactly
  unfold round
  rw [whole, roundHalfEven_intCast, ← whole, div_mul_cancel₀ _ (two_zpow_pos _).ne']

theorem representable_intCast {number : Int} (short : |number| < 2 ^ 53) :
    Representable number :=
  ⟨number, 0, short, by norm_num, by rw [zpow_zero, mul_one]⟩

/-- Integers of few digits are doubles. -/
theorem round_intCast {number : Int} (short : |number| < 2 ^ 53) :
    round (number : ℚ) = number :=
  (representable_intCast short).round_eq

/-- Half of a double that is not small is a double. -/
theorem Representable.half {value : ℚ} (representable : Representable value)
    (large : 1 ≤ |value|) : Representable (value / 2) := by
  obtain ⟨mantissa, exponent, short, least, exactly⟩ := representable
  refine ⟨mantissa, exponent - 1, short, ?_, ?_⟩
  · by_contra smallest
    have last : exponent ≤ -53 := by omega
    have digits : ((|mantissa| : Int) : ℚ) < 2 ^ (53 : Int) := by exact_mod_cast short
    have small : |value| < 2 ^ (53 : Int) * 2 ^ (-53 : Int) := by
      rw [exactly, abs_mul, abs_of_pos (two_zpow_pos exponent), ← Int.cast_abs]
      exact mul_lt_mul digits (zpow_le_zpow_right₀ one_le_two last) (two_zpow_pos _)
        (two_zpow_pos _).le
    rw [← zpow_add₀ two_ne_zero] at small
    norm_num at small
    linarith
  · rw [exactly, zpow_sub_one₀ two_ne_zero]
    ring

theorem round_nonneg {value : ℚ} (nonneg : 0 ≤ value) : 0 ≤ round value := by
  have quotient : ((0 : Int) : ℚ) ≤ value / 2 ^ lastDigit value := by
    rw [Int.cast_zero]
    exact div_nonneg nonneg (two_zpow_pos _).le
  have rounded := (roundHalfEven_mem ⟨quotient, Int.le_ceil _⟩).1
  exact mul_nonneg (by exact_mod_cast rounded) (two_zpow_pos _).le

/-- Rounding does not pass the next power of two. -/
theorem round_le_two_zpow {value : ℚ} (nonneg : 0 ≤ value) :
    round value ≤ 2 ^ (lastDigit value + 53) := by
  have below := abs_lt_two_zpow value
  rw [abs_of_nonneg nonneg, zpow_add₀ two_ne_zero, mul_comm] at below
  have quotient : value / 2 ^ lastDigit value ≤ ((2 ^ 53 : Int) : ℚ) := by
    rw [div_le_iff₀ (two_zpow_pos _)]
    push_cast
    exact below.le
  have rounded := (roundHalfEven_mem ⟨Int.floor_le _, quotient⟩).2
  unfold round
  rw [zpow_add₀ two_ne_zero, mul_comm]
  apply mul_le_mul_of_nonneg_left _ (two_zpow_pos _).le
  exact_mod_cast rounded

/-- Rounding does not fall below the power of two of the first digit. -/
theorem two_zpow_le_round {value : ℚ} (pos : 0 < value) (above : -1074 < lastDigit value) :
    2 ^ (lastDigit value + 52) ≤ round value := by
  have least := two_zpow_le_abs (abs_pos.mpr pos.ne') above
  rw [abs_of_pos pos, zpow_add₀ two_ne_zero, mul_comm] at least
  have quotient : ((2 ^ 52 : Int) : ℚ) ≤ value / 2 ^ lastDigit value := by
    rw [le_div_iff₀ (two_zpow_pos _)]
    push_cast
    exact least
  have rounded := (roundHalfEven_mem ⟨quotient, Int.le_ceil _⟩).1
  unfold round
  rw [zpow_add₀ two_ne_zero, mul_comm]
  apply mul_le_mul_of_nonneg_right _ (two_zpow_pos _).le
  exact_mod_cast rounded

theorem round_mono_of_pos {smaller larger : ℚ} (pos : 0 < smaller) (le : smaller ≤ larger) :
    round smaller ≤ round larger := by
  have posLarger := pos.trans_le le
  have digits : lastDigit smaller ≤ lastDigit larger := by
    apply lastDigit_mono (abs_pos.mpr pos.ne')
    rwa [abs_of_pos pos, abs_of_pos posLarger]
  rcases digits.eq_or_lt with same | fewer
  · unfold round
    rw [same]
    apply mul_le_mul_of_nonneg_right _ (two_zpow_pos _).le
    have quotients := roundHalfEven_mono
      (div_le_div_of_nonneg_right le (two_zpow_pos (lastDigit larger)).le)
    exact_mod_cast quotients
  · -- a power of two lies between the two
    have above : -1074 < lastDigit larger := by
      refine lt_of_le_of_lt ?_ fewer
      exact le_max_right _ _
    calc round smaller ≤ 2 ^ (lastDigit smaller + 53) := round_le_two_zpow pos.le
      _ ≤ 2 ^ (lastDigit larger + 52) := zpow_le_zpow_right₀ one_le_two (by omega)
      _ ≤ round larger := two_zpow_le_round posLarger above

/-- Rounding keeps the order. -/
theorem round_mono {smaller larger : ℚ} (le : smaller ≤ larger) :
    round smaller ≤ round larger := by
  rcases lt_or_ge 0 smaller with pos | nonpos
  · exact round_mono_of_pos pos le
  · have below : round smaller ≤ 0 := by
      have flipped := round_nonneg (neg_nonneg.mpr nonpos)
      rw [round_neg] at flipped
      exact neg_nonneg.mp flipped
    rcases lt_or_ge larger 0 with neg | nonneg
    · have flipped := round_mono_of_pos (neg_pos.mpr neg) (neg_le_neg le)
      rw [round_neg, round_neg] at flipped
      exact neg_le_neg_iff.mp flipped
    · exact below.trans (round_nonneg nonneg)

theorem monotone_round : Monotone round :=
  fun _ _ le => round_mono le

/-- Of a value below a power of two, rounding leaves 53 digits. -/
theorem abs_sub_round_le {value : ℚ} {exponent : Int} (least : -1074 ≤ exponent)
    (below : |value| < 2 ^ (exponent + 53)) : |value - round value| ≤ 2 ^ (exponent - 1) := by
  by_cases zero : value = 0
  · rw [zero, round_zero, sub_zero, abs_zero]
    exact (two_zpow_pos _).le
  have unit := two_zpow_pos (lastDigit value)
  have last := lastDigit_le least (abs_pos.mpr zero) below
  have half := abs_sub_roundHalfEven_le (value / 2 ^ lastDigit value)
  calc |value - round value|
      = |value / 2 ^ lastDigit value - roundHalfEven (value / 2 ^ lastDigit value)| *
          2 ^ lastDigit value := by
        rw [← abs_of_pos unit, ← abs_mul, abs_of_pos unit, sub_mul, div_mul_cancel₀ _ unit.ne']
        rfl
    _ ≤ 1 / 2 * 2 ^ lastDigit value := mul_le_mul_of_nonneg_right half unit.le
    _ = 2 ^ (lastDigit value - 1) := by
        rw [zpow_sub_one₀ two_ne_zero]
        ring
    _ ≤ 2 ^ (exponent - 1) := zpow_le_zpow_right₀ one_le_two (by omega)

end Binary64
