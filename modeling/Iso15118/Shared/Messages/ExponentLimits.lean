import Iso15118.Library.Significand
import Iso15118.Shared.Messages.Datatypes

/-!
# Other limits for the mantissa

`get_exponent_value_repr` takes limits, of which only those of 16 bits are in use. Its second loop
divides what is at least ten and multiplies what is below one. In between nothing changes, and a
value that has come there outside the limits stays there.
-/

namespace Iso15118.Shared

open Rounding

/-- The limit on the side of a value's sign. -/
def reach (minLimit maxLimit : Int) (value : ℚ) : ℚ :=
  if 0 < value then maxLimit else -minLimit

/-- The loops have ended after some rounds of the second, with a mantissa within the limits. -/
def ReturnsWithin (minLimit maxLimit : Int) (value : ℚ) : Prop :=
  ∃ rounds, InLimits minLimit maxLimit (fitLimits minLimit maxLimit rounds
      (shiftDecimals 3 value 0).1 (shiftDecimals 3 value 0).2).1 ∧
    minLimit ≤ (getExponentValueReprWithin rounds minLimit maxLimit value).2 ∧
    (getExponentValueReprWithin rounds minLimit maxLimit value).2 ≤ maxLimit

/-- The smallest of the limits that a value above zero, or below, can be fitted to. -/
def leastReach (value : ℚ) : ℚ :=
  if |value| < 1 / 1000 then 1 else significand 10 |value|

section

variable {minLimit maxLimit : Int}

theorem reach_mul {value scale : ℚ} (positive : 0 < scale) :
    reach minLimit maxLimit (value * scale) = reach minLimit maxLimit value := by
  unfold reach
  simp only [mul_pos_iff_of_pos_right positive]

theorem inLimits_iff (min_le : minLimit ≤ 0) (le_max : 0 ≤ maxLimit) (value : ℚ) :
    InLimits minLimit maxLimit value ↔ |value| ≤ reach minLimit maxLimit value := by
  have lower : (minLimit : ℚ) ≤ 0 := by exact_mod_cast min_le
  have upper : (0 : ℚ) ≤ maxLimit := by exact_mod_cast le_max
  unfold InLimits reach
  split
  next positive =>
    rw [abs_of_pos positive, and_iff_right (lower.trans positive.le)]
  next other =>
    have nonpos := not_lt.mp other
    rw [abs_of_nonpos nonpos, neg_le_neg_iff, and_iff_left (nonpos.trans upper)]

/-- The limits are integers: what has room for anything has room for one. -/
theorem one_le_reach {value : ℚ} (room : 0 < reach minLimit maxLimit value) :
    1 ≤ reach minLimit maxLimit value := by
  unfold reach at room ⊢
  split at room
  next positive =>
    rw [if_pos positive]
    have whole : 0 < maxLimit := by exact_mod_cast room
    exact_mod_cast whole
  next other =>
    rw [if_neg other]
    have whole : 0 < -minLimit := by exact_mod_cast room
    exact_mod_cast whole

/-! ## The second loop -/

/-- Between one and ten the loop goes on without any change. -/
theorem fitLimits_of_stuck {value : ℚ} (outside : ¬InLimits minLimit maxLimit value)
    (one_le : 1 ≤ |value|) (lt_ten : |value| < 10) (rounds : Nat) (exponent : Int) :
    fitLimits minLimit maxLimit rounds value exponent = (value, exponent) := by
  induction rounds with
  | zero => rfl
  | succ rounds ih =>
      have large : ¬(|value| < 1 ∧ value ≠ 0) := fun small => absurd one_le small.1.not_ge
      rw [fitLimits, if_neg outside, if_neg lt_ten.not_ge, if_neg large, ih]

/-- What a value needs of the limits when the second loop begins. -/
def fitReach (value : ℚ) : ℚ :=
  if |value| < 1 then 1 else significand 10 |value|

theorem one_le_fitReach (value : ℚ) : 1 ≤ fitReach value := by
  unfold fitReach
  split
  next => exact le_rfl
  next large =>
    exact significand.one_le (by norm_num) (zero_lt_one.trans_le (not_lt.mp large))

theorem fitReach_le_of_inLimits (min_le : minLimit ≤ 0) (le_max : 0 ≤ maxLimit) {value : ℚ}
    (nonzero : value ≠ 0) (inside : InLimits minLimit maxLimit value) :
    fitReach value ≤ reach minLimit maxLimit value := by
  have below := (inLimits_iff min_le le_max value).mp inside
  unfold fitReach
  split
  next => exact one_le_reach ((abs_pos.mpr nonzero).trans_le below)
  next large => exact (significand.le_self (by norm_num) (not_lt.mp large)).trans below

/-- Dividing by ten does not change what a value needs. -/
theorem fitReach_div {value : ℚ} (ten_le : 10 ≤ |value|) :
    fitReach (value / 10) = fitReach value := by
  have size : |value / 10| = |value| * ((10 : ℕ) : ℚ) ^ (-1 : ℤ) := by
    rw [abs_div, abs_of_pos (by norm_num : (0 : ℚ) < 10), div_eq_mul_inv]
    norm_num
  have large : ¬|value| < 1 := by
    intro small
    linarith
  have large' : ¬|value / 10| < 1 := by
    rw [abs_div, abs_of_pos (by norm_num : (0 : ℚ) < 10), div_lt_iff₀ (by norm_num)]
    intro small
    linarith
  rw [fitReach, fitReach, if_neg large, if_neg large', size,
    significand.mul_zpow (by norm_num) (by linarith)]

/-- A value that the loop brings within the limits has the room that it needs. -/
theorem fitReach_le_of_ended (min_le : minLimit ≤ 0) (le_max : 0 ≤ maxLimit) {rounds : Nat}
    {value : ℚ} {exponent : Int} (nonzero : value ≠ 0)
    (ended : InLimits minLimit maxLimit (fitLimits minLimit maxLimit rounds value exponent).1) :
    fitReach value ≤ reach minLimit maxLimit value := by
  induction rounds generalizing value exponent with
  | zero => exact fitReach_le_of_inLimits min_le le_max nonzero ended
  | succ rounds ih =>
      by_cases inside : InLimits minLimit maxLimit value
      · exact fitReach_le_of_inLimits min_le le_max nonzero inside
      · rw [fitLimits, if_neg inside] at ended
        split at ended
        next ten_le =>
          have below := ih (div_ne_zero nonzero (by norm_num)) ended
          rw [fitReach_div ten_le, div_eq_mul_inv, reach_mul (by norm_num)] at below
          exact below
        next =>
          split at ended
          next small =>
            have below := ih (mul_ne_zero nonzero (by norm_num)) ended
            rw [reach_mul (by norm_num)] at below
            rw [fitReach, if_pos small.1]
            exact (one_le_fitReach _).trans below
          next => exact ih nonzero ended

/-- A value outside the limits that has the room that it needs has a digit to give. -/
theorem ten_le_of_outside (min_le : minLimit ≤ 0) (le_max : 0 ≤ maxLimit) {value : ℚ}
    (room : fitReach value ≤ reach minLimit maxLimit value)
    (outside : ¬InLimits minLimit maxLimit value) : 10 ≤ |value| := by
  rw [inLimits_iff min_le le_max, not_le] at outside
  have large : 1 ≤ |value| := (one_le_fitReach value).trans (room.trans outside.le)
  by_contra small
  rw [fitReach, if_neg large.not_gt,
    significand.eq_self (by norm_num) large (by exact_mod_cast not_le.mp small)] at room
  exact absurd room outside.not_ge

/-- A value that has the room that it needs is brought within the limits: each round takes one
digit from it. -/
theorem exists_ended (min_le : minLimit ≤ 0) (le_max : 0 ≤ maxLimit) {digits : Nat} {value : ℚ}
    {exponent : Int} (room : fitReach value ≤ reach minLimit maxLimit value)
    (few : |value| < 10 ^ digits * 10) :
    ∃ rounds, InLimits minLimit maxLimit
      (fitLimits minLimit maxLimit rounds value exponent).1 := by
  induction digits generalizing value exponent with
  | zero =>
      refine ⟨0, ?_⟩
      by_contra outside
      have ten_le := ten_le_of_outside min_le le_max room outside
      linarith
  | succ digits ih =>
      by_cases inside : InLimits minLimit maxLimit value
      · exact ⟨0, inside⟩
      · have ten_le := ten_le_of_outside min_le le_max room inside
        have fewer : |value / 10| < 10 ^ digits * 10 := by
          rw [abs_div, abs_of_pos (by norm_num : (0 : ℚ) < 10), div_lt_iff₀ (by norm_num)]
          rw [pow_succ] at few
          exact few
        have room' : fitReach (value / 10) ≤ reach minLimit maxLimit (value / 10) := by
          rw [fitReach_div ten_le, div_eq_mul_inv, reach_mul (by norm_num)]
          exact room
        obtain ⟨rounds, ended⟩ := @ih (value / 10) (exponent + 1) room' fewer
        refine ⟨rounds + 1, ?_⟩
        rw [fitLimits, if_neg inside, if_pos ten_le]
        exact ended

/-! ## Both loops -/

/-- The first loop moves the point. -/
theorem exists_shiftDecimals (shifts : Nat) (value : ℚ) (exponent : Int) :
    ∃ moved : Nat, (shiftDecimals shifts value exponent).1 = value * 10 ^ moved := by
  induction shifts generalizing value exponent with
  | zero => exact ⟨0, by simp [shiftDecimals]⟩
  | succ shifts ih =>
      rw [shiftDecimals]
      split
      next =>
        dsimp only
        split
        next => exact ⟨1, by rw [pow_one]⟩
        next =>
          obtain ⟨moved, shifted⟩ := ih (value * 10) (exponent - 1)
          exact ⟨moved + 1, by rw [shifted, pow_succ']; ring⟩
      next => exact ⟨0, by simp⟩

/-- Three digits after the point are enough to get to one. -/
theorem abs_shiftDecimals_lt_one_iff {value : ℚ} (nonzero : value ≠ 0) :
    |(shiftDecimals 3 value 0).1| < 1 ↔ |value| < 1 / 1000 := by
  rcases shiftDecimals_eq value with ⟨small, _, nothing⟩ | ⟨shifts, atMost, shifted, settled⟩
  · exact iff_of_true nothing small
  · rw [shifted]
    rcases settled with rfl | whole
    · rw [abs_mul, abs_of_pos (by norm_num : (0 : ℚ) < 10 ^ 3), ← lt_div_iff₀ (by norm_num)]
      norm_num
    · have scale : (0 : ℚ) < 10 ^ shifts := by positivity
      have most : (10 : ℚ) ^ shifts ≤ 1000 := by
        calc (10 : ℚ) ^ shifts ≤ 10 ^ 3 := pow_le_pow_right₀ (by norm_num) atMost
          _ = 1000 := by norm_num
      have visible : truncate (value * 10 ^ shifts) ≠ 0 := by
        intro gone
        rw [gone, Int.cast_zero] at whole
        exact absurd whole (mul_ne_zero nonzero scale.ne')
      have large : 1 ≤ |value * 10 ^ shifts| := by
        rw [whole]
        exact_mod_cast Int.one_le_abs visible
      apply iff_of_false large.not_gt
      intro small
      rw [abs_mul, abs_of_pos scale] at large
      have scaled := mul_le_mul_of_nonneg_left most (abs_nonneg value)
      linarith

/-- The first loop does not change what a value needs. -/
theorem fitReach_shiftDecimals {value : ℚ} (nonzero : value ≠ 0) :
    fitReach (shiftDecimals 3 value 0).1 = leastReach value := by
  obtain ⟨moved, shifted⟩ := exists_shiftDecimals 3 value 0
  unfold fitReach leastReach
  simp only [abs_shiftDecimals_lt_one_iff nonzero]
  split
  next => rfl
  next =>
    have size : |(shiftDecimals 3 value 0).1| = |value| * ((10 : ℕ) : ℚ) ^ (moved : ℤ) := by
      rw [shifted, abs_mul, abs_of_pos (by positivity : (0 : ℚ) < 10 ^ moved), zpow_natCast]
      norm_num
    rw [size, significand.mul_zpow (by norm_num) (abs_pos.mpr nonzero)]

end

/-- The loops end for zero, and for a value whose leading digit, with what follows it, is within
the limit on its side. -/
theorem returnsWithin_iff {minLimit maxLimit : Int} (min_le : minLimit ≤ 0)
    (le_max : 0 ≤ maxLimit) (value : ℚ) :
    ReturnsWithin minLimit maxLimit value ↔
      value = 0 ∨ leastReach value ≤ reach minLimit maxLimit value := by
  obtain ⟨moved, shifted⟩ := exists_shiftDecimals 3 value 0
  have scale : (0 : ℚ) < 10 ^ moved := by positivity
  have sides : reach minLimit maxLimit (shiftDecimals 3 value 0).1 =
      reach minLimit maxLimit value := by
    rw [shifted, reach_mul scale]
  constructor
  · rintro ⟨rounds, ended, _⟩
    by_cases zero : value = 0
    · exact .inl zero
    · right
      rw [← fitReach_shiftDecimals zero, ← sides]
      apply fitReach_le_of_ended min_le le_max _ ended
      rw [shifted]
      exact mul_ne_zero zero scale.ne'
  · intro room
    have ends : ∃ rounds, InLimits minLimit maxLimit (fitLimits minLimit maxLimit rounds
        (shiftDecimals 3 value 0).1 (shiftDecimals 3 value 0).2).1 := by
      by_cases zero : value = 0
      · refine ⟨0, ?_⟩
        rw [inLimits_iff min_le le_max]
        have nothing : (shiftDecimals 3 value 0).1 = 0 := by rw [shifted, zero, zero_mul]
        have side : (0 : ℚ) ≤ -minLimit := by exact_mod_cast Int.neg_nonneg.mpr min_le
        simpa [fitLimits, nothing, reach] using side
      · have room' := room.resolve_left zero
        rw [← fitReach_shiftDecimals zero, ← sides] at room'
        obtain ⟨digits, few⟩ := pow_unbounded_of_one_lt |(shiftDecimals 3 value 0).1|
          (by norm_num : (1 : ℚ) < 10)
        exact exists_ended min_le le_max room' (few.trans (lt_mul_of_one_lt_right
          (by positivity) (by norm_num)))
    obtain ⟨rounds, ended⟩ := ends
    exact ⟨rounds, ended, truncate_mem min_le le_max ended⟩

/-- A number below zero has no place where the lower limit is zero. -/
theorem returnsWithin_iff_negative :
    ReturnsWithin 0 32767 (-5) ↔
      (-5 : ℚ) = 0 ∨ leastReach (-5) ≤ reach 0 32767 (-5) :=
  returnsWithin_iff (by decide) (by decide) (-5)

/-- Neither -5 within limits from zero on nor 7 within limits up to 5 is ever returned. -/
theorem not_returnsWithin_stuck :
    ¬ReturnsWithin 0 32767 (-5) ∧ ¬ReturnsWithin 0 5 7 := by
  have negative : shiftDecimals 3 (-5) 0 = (-5, 0) := by decide +kernel
  have positive : shiftDecimals 3 7 0 = (7, 0) := by decide +kernel
  constructor
  · rintro ⟨rounds, ended, _⟩
    rw [negative, fitLimits_of_stuck (by decide +kernel) (by norm_num) (by norm_num)] at ended
    exact absurd ended (by decide +kernel)
  · rintro ⟨rounds, ended, _⟩
    rw [positive, fitLimits_of_stuck (by decide +kernel) (by norm_num) (by norm_num)] at ended
    exact absurd ended (by decide +kernel)

end Iso15118.Shared
