import Mathlib.Algebra.Order.Archimedean.Basic
import Mathlib.Algebra.Order.Floor.Ring
import Mathlib.Data.Rat.Floor
import Mathlib.Tactic.Linarith
import Mathlib.Tactic.Positivity

/-!
# Truncation and rounding of rationals

Truncation toward zero, and rounding to the nearest integer with ties to the
even one.
-/

namespace Rounding

/-- Drop the fraction: the nearest integer toward zero. -/
def truncate (value : ℚ) : Int :=
  if 0 ≤ value then ⌊value⌋ else ⌈value⌉

theorem truncate_of_nonneg {value : ℚ} (nonneg : 0 ≤ value) : truncate value = ⌊value⌋ :=
  if_pos nonneg

theorem truncate_of_neg {value : ℚ} (neg : value < 0) : truncate value = ⌈value⌉ :=
  if_neg (not_le.mpr neg)

@[simp]
theorem truncate_intCast (number : Int) : truncate (number : ℚ) = number := by
  unfold truncate
  split
  · exact Int.floor_intCast number
  · exact Int.ceil_intCast number

@[simp]
theorem truncate_zero : truncate 0 = 0 := by
  simpa using truncate_intCast 0

theorem truncate_nonneg {value : ℚ} (nonneg : 0 ≤ value) : 0 ≤ truncate value := by
  rw [truncate_of_nonneg nonneg]
  exact Int.floor_nonneg.mpr nonneg

theorem truncate_le {value : ℚ} (nonneg : 0 ≤ value) : (truncate value : ℚ) ≤ value := by
  rw [truncate_of_nonneg nonneg]
  exact Int.floor_le value

theorem truncate_neg (value : ℚ) : truncate (-value) = -truncate value := by
  rcases lt_trichotomy value 0 with neg | rfl | pos
  · rw [truncate_of_neg neg, truncate_of_nonneg (by linarith), Int.floor_neg]
  · simp
  · rw [truncate_of_nonneg pos.le, truncate_of_neg (by linarith), Int.ceil_neg]

/-- Truncation moves a value by less than one. -/
theorem abs_sub_truncate_lt_one (value : ℚ) : |value - truncate value| < 1 := by
  rw [abs_lt]
  rcases lt_or_ge value 0 with neg | nonneg
  · rw [truncate_of_neg neg]
    constructor
    · have := Int.ceil_lt_add_one value
      linarith
    · have := Int.le_ceil value
      linarith
  · rw [truncate_of_nonneg nonneg]
    constructor
    · have := Int.floor_le value
      linarith
    · have := Int.lt_floor_add_one value
      linarith

theorem truncate_eq_zero_iff {value : ℚ} : truncate value = 0 ↔ |value| < 1 := by
  constructor
  · intro zero
    simpa [zero] using abs_sub_truncate_lt_one value
  · intro small
    rcases abs_lt.mp small with ⟨above, below⟩
    rcases lt_or_ge value 0 with neg | nonneg
    · rw [truncate_of_neg neg, Int.ceil_eq_zero_iff]
      exact ⟨above, neg.le⟩
    · rw [truncate_of_nonneg nonneg, Int.floor_eq_zero_iff]
      exact ⟨nonneg, below⟩

theorem truncate_nonpos_iff {value : ℚ} : truncate value ≤ 0 ↔ value < 1 := by
  rcases lt_or_ge value 0 with neg | nonneg
  · rw [truncate_of_neg neg, Int.ceil_le]
    apply iff_of_true
    · exact_mod_cast neg.le
    · linarith
  · rw [truncate_of_nonneg nonneg, ← Int.lt_add_one_iff, Int.floor_lt]
    norm_num

/-- Truncation keeps a value between integer bounds around zero. -/
theorem truncate_mem {lower upper : Int} (lowerLe : lower ≤ 0) (leUpper : 0 ≤ upper) {value : ℚ}
    (mem : (lower : ℚ) ≤ value ∧ value ≤ upper) :
    lower ≤ truncate value ∧ truncate value ≤ upper := by
  rcases lt_or_ge value 0 with neg | nonneg
  · rw [truncate_of_neg neg]
    constructor
    · exact_mod_cast mem.1.trans (Int.le_ceil value)
    · exact (Int.ceil_le.mpr (by exact_mod_cast neg.le)).trans leUpper
  · rw [truncate_of_nonneg nonneg]
    constructor
    · exact lowerLe.trans (Int.floor_nonneg.mpr nonneg)
    · exact_mod_cast (Int.floor_le value).trans mem.2

theorem abs_truncate (value : ℚ) : |truncate value| = ⌊|value|⌋ := by
  rcases le_total 0 value with nonneg | nonpos
  · rw [abs_of_nonneg (truncate_nonneg nonneg), abs_of_nonneg nonneg, truncate_of_nonneg nonneg]
  · have flipped : 0 ≤ -value := neg_nonneg.mpr nonpos
    rw [← abs_neg, ← truncate_neg, abs_of_nonneg (truncate_nonneg flipped),
      abs_of_nonpos nonpos, truncate_of_nonneg flipped]

/-- A truncated value is within a bound if the value is less than one beyond its integer part. -/
theorem abs_truncate_le_iff {value bound : ℚ} :
    |(truncate value : ℚ)| ≤ bound ↔ |value| < ⌊bound⌋ + 1 := by
  rw [← Int.cast_abs, abs_truncate, ← Int.le_floor, ← Int.lt_add_one_iff, Int.floor_lt]
  push_cast
  rfl

/-- Round to the nearest integer, and to the even one when two are nearest. -/
def roundHalfEven (value : ℚ) : Int :=
  let fraction := value - ⌊value⌋
  if fraction < 1 / 2 then ⌊value⌋
  else if 1 / 2 < fraction then ⌊value⌋ + 1
  else if Even ⌊value⌋ then ⌊value⌋
  else ⌊value⌋ + 1

/-- Rounding moves a value by at most one half. -/
theorem abs_sub_roundHalfEven_le (value : ℚ) : |value - roundHalfEven value| ≤ 1 / 2 := by
  have above := Int.floor_le value
  have below := Int.lt_floor_add_one value
  unfold roundHalfEven
  simp only
  rw [abs_le]
  split
  · constructor <;> linarith
  · split
    · push_cast
      constructor <;> linarith
    · split
      · constructor <;> linarith
      · push_cast
        constructor <;> linarith

/-- Rounding keeps a value between integer bounds. -/
theorem roundHalfEven_mem {lower upper : Int} {value : ℚ}
    (mem : (lower : ℚ) ≤ value ∧ value ≤ upper) :
    lower ≤ roundHalfEven value ∧ roundHalfEven value ≤ upper := by
  obtain ⟨above, below⟩ := abs_le.mp (abs_sub_roundHalfEven_le value)
  constructor
  · by_contra less
    have bound : (roundHalfEven value : ℚ) + 1 ≤ lower := by exact_mod_cast not_le.mp less
    linarith [mem.1]
  · by_contra more
    have bound : (upper : ℚ) + 1 ≤ roundHalfEven value := by exact_mod_cast not_le.mp more
    linarith [mem.2]

/-- What is half above an even number is still rounded to it. -/
theorem roundHalfEven_le_iff {number : Int} (even : Even number) (value : ℚ) :
    roundHalfEven value ≤ number ↔ value ≤ number + 1 / 2 := by
  have above := Int.floor_le value
  have below := Int.lt_floor_add_one value
  unfold roundHalfEven
  dsimp only
  rcases lt_trichotomy ⌊value⌋ number with smaller | same | larger
  · have bound : (⌊value⌋ : ℚ) + 1 ≤ number := by exact_mod_cast smaller
    apply iff_of_true
    · split_ifs <;> omega
    · linarith
  · rw [same] at above below ⊢
    rw [if_pos even]
    split_ifs with less more
    · apply iff_of_true le_rfl
      linarith
    · apply iff_of_false
      · omega
      · intro most
        linarith
    · apply iff_of_true le_rfl
      linarith
  · have bound : (number : ℚ) + 1 ≤ ⌊value⌋ := by exact_mod_cast larger
    apply iff_of_false
    · split_ifs <;> omega
    · intro most
      linarith

/-- What is half below an even number is rounded up to it. -/
theorem le_roundHalfEven_iff {number : Int} (even : Even number) (value : ℚ) :
    number ≤ roundHalfEven value ↔ number - 1 / 2 ≤ value := by
  have above := Int.floor_le value
  have below := Int.lt_floor_add_one value
  obtain ⟨half, twice⟩ := even
  unfold roundHalfEven
  dsimp only
  rcases lt_trichotomy (⌊value⌋ + 1) number with smaller | same | larger
  · have bound : (⌊value⌋ : ℚ) + 1 + 1 ≤ number := by exact_mod_cast Int.add_one_le_iff.mpr smaller
    apply iff_of_false
    · split_ifs <;> omega
    · intro least
      linarith
  · have odd : ¬Even ⌊value⌋ := by
      rintro ⟨lower, double⟩
      omega
    have floor : (⌊value⌋ : ℚ) + 1 = number := by exact_mod_cast same
    rw [if_neg odd]
    split_ifs with less more
    · apply iff_of_false
      · omega
      · intro least
        linarith
    · apply iff_of_true
      · omega
      · linarith
    · apply iff_of_true
      · omega
      · linarith
  · have bound : (number : ℚ) ≤ ⌊value⌋ := by exact_mod_cast Int.lt_add_one_iff.mp larger
    apply iff_of_true
    · split_ifs <;> omega
    · linarith

/-- What is half below an odd number is rounded to it, and what is half above is not. -/
theorem roundHalfEven_le_iff_of_odd {number : Int} (odd : ¬Even number) (value : ℚ) :
    roundHalfEven value ≤ number ↔ value < number + 1 / 2 := by
  have even : Even (number + 1) := Int.even_add_one.mpr odd
  rw [← Int.lt_add_one_iff, ← not_le, le_roundHalfEven_iff even, not_le]
  push_cast
  constructor
  · intro less
    linarith
  · intro less
    linarith

theorem roundHalfEven_mono {smaller larger : ℚ} (le : smaller ≤ larger) :
    roundHalfEven smaller ≤ roundHalfEven larger := by
  by_cases even : Even (roundHalfEven larger)
  · rw [roundHalfEven_le_iff even]
    exact le.trans ((roundHalfEven_le_iff even larger).mp le_rfl)
  · rw [roundHalfEven_le_iff_of_odd even]
    exact le.trans_lt ((roundHalfEven_le_iff_of_odd even larger).mp le_rfl)

@[simp]
theorem roundHalfEven_intCast (number : Int) : roundHalfEven (number : ℚ) = number := by
  have itself : (number : ℚ) ≤ (number : ℚ) ∧ (number : ℚ) ≤ (number : ℚ) := ⟨le_rfl, le_rfl⟩
  obtain ⟨least, most⟩ := roundHalfEven_mem itself
  exact le_antisymm most least

/-- Rounding to even treats both signs alike. -/
theorem roundHalfEven_neg (value : ℚ) : roundHalfEven (-value) = -roundHalfEven value := by
  have bounded (number : Int) :
      roundHalfEven (-value) ≤ number ↔ -number ≤ roundHalfEven value := by
    by_cases even : Even number
    · rw [roundHalfEven_le_iff even, le_roundHalfEven_iff even.neg]
      push_cast
      constructor <;> intro <;> linarith
    · have below : Even (-number - 1) := by
        rw [Int.even_sub_one, even_neg]
        exact even
      have above : -number ≤ roundHalfEven value ↔ ¬roundHalfEven value ≤ -number - 1 := by
        omega
      rw [roundHalfEven_le_iff_of_odd even, above, roundHalfEven_le_iff below, not_le]
      push_cast
      constructor <;> intro <;> linarith
  apply le_antisymm
  · exact (bounded _).mpr (by rw [neg_neg])
  · exact neg_le.mp ((bounded _).mp le_rfl)

/-- A value that is rounded to no more than a bound. -/
def RoundsWithin (value bound : ℚ) : Prop :=
  value < ⌊bound⌋ + 1 / 2 ∨ value = ⌊bound⌋ + 1 / 2 ∧ Even ⌊bound⌋

theorem roundHalfEven_cast_le_iff {value bound : ℚ} :
    (roundHalfEven value : ℚ) ≤ bound ↔ RoundsWithin value bound := by
  rw [← Int.le_floor]
  unfold RoundsWithin
  by_cases even : Even ⌊bound⌋
  · rw [roundHalfEven_le_iff even, le_iff_lt_or_eq]
    simp only [even, and_true]
  · rw [roundHalfEven_le_iff_of_odd even]
    simp only [even, and_false, or_false]

/-- Round to a number of decimals. -/
def roundDigits (digits : Nat) (value : ℚ) : ℚ :=
  roundHalfEven (value * 10 ^ digits) / 10 ^ digits

/-- Rounding to decimals keeps a lower bound that is an integer. -/
theorem le_roundDigits {lower : Int} {value : ℚ} (digits : Nat) (bound : (lower : ℚ) ≤ value) :
    (lower : ℚ) ≤ roundDigits digits value := by
  have scale : (0 : ℚ) < 10 ^ digits := by positivity
  have scaled : ((lower * 10 ^ digits : Int) : ℚ) ≤ value * 10 ^ digits := by
    push_cast
    exact mul_le_mul_of_nonneg_right bound scale.le
  have rounded := (roundHalfEven_mem ⟨scaled, Int.le_ceil _⟩).1
  unfold roundDigits
  rw [le_div_iff₀ scale]
  exact_mod_cast rounded

/-- Rounding to decimals keeps an upper bound that is an integer. -/
theorem roundDigits_le {upper : Int} {value : ℚ} (digits : Nat) (bound : value ≤ upper) :
    roundDigits digits value ≤ upper := by
  have scale : (0 : ℚ) < 10 ^ digits := by positivity
  have scaled : value * 10 ^ digits ≤ ((upper * 10 ^ digits : Int) : ℚ) := by
    push_cast
    exact mul_le_mul_of_nonneg_right bound scale.le
  have rounded := (roundHalfEven_mem ⟨Int.floor_le _, scaled⟩).2
  unfold roundDigits
  rw [div_le_iff₀ scale]
  exact_mod_cast rounded

end Rounding
