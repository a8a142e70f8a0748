import Iso15118.Library.ScaledTruncation
import Iso15118.Shared.Messages.Datatypes

/-!
# What an encoded quantity tells the receiver

`get_exponent_value_repr` drops the digits that do not fit. The receiver reads
a value that is no larger, lies within one unit of the last digit kept, and is
the value itself when a scaled 16-bit integer can express it. Two values can
come out in the wrong order when the larger one has to drop a digit that the
smaller one keeps.
-/

namespace Iso15118.Shared

open Rounding ScaledTruncation

/-! ## The second loop stops -/

/-- Once the value fits, more rounds change nothing. -/
theorem fitLimits_add (more : Nat) {rounds : Nat} {value : ℚ} {exponent : Int}
    (fits : FitsInt16 (fitLimits int16Min int16Max rounds value exponent).1) :
    fitLimits int16Min int16Max (rounds + more) value exponent =
      fitLimits int16Min int16Max rounds value exponent := by
  induction rounds generalizing value exponent with
  | zero =>
      cases more with
      | zero => rfl
      | succ more =>
          have inside : FitsInt16 value := fits
          simp [fitLimits, inside]
  | succ rounds ih =>
      rw [Nat.add_right_comm, fitLimits, fitLimits]
      rw [fitLimits] at fits
      split
      next => rfl
      next outside =>
          rw [if_neg outside] at fits
          split
          next large =>
              rw [if_pos large] at fits
              exact ih fits
          next small =>
              rw [if_neg small] at fits
              split
              next tiny =>
                  rw [if_pos tiny] at fits
                  exact ih fits
              next stuck =>
                  rw [if_neg stuck] at fits
                  exact ih fits

/-- The second loop comes to an end: more rounds give the same result. -/
theorem getExponentValueReprWithin_add (value : ℚ) (more : Nat) :
    getExponentValueReprWithin ((truncate (shiftDecimals 3 value 0).1).natAbs + more)
        int16Min int16Max value =
      getExponentValueRepr value := by
  obtain ⟨scale, result, inside, _⟩ :=
    fitLimits_eq _ (shiftDecimals 3 value 0).1 (shiftDecimals 3 value 0).2 (abs_lt_rounds _)
  simp only [getExponentValueRepr, getExponentValueReprWithin]
  rw [fitLimits_add]
  rwa [result]

/-! ## The digits kept -/

theorem fitsInt16_scaled_of_nonneg {value : ℚ} (nonneg : 0 ≤ value) (exponent : Int) :
    FitsInt16 (value / 10 ^ exponent) ↔ |value| ≤ (32767 : ℕ) * 10 ^ exponent := by
  have pos := scale_pos exponent
  have scaled : 0 ≤ value / 10 ^ exponent := div_nonneg nonneg pos.le
  rw [abs_of_nonneg nonneg, ← div_le_iff₀ pos, FitsInt16, InLimits, int16Min, int16Max]
  push_cast
  constructor
  · rintro ⟨_, upper⟩
    linarith
  · intro upper
    constructor <;> linarith

theorem fitsInt16_scaled_of_nonpos {value : ℚ} (nonpos : value ≤ 0) (exponent : Int) :
    FitsInt16 (value / 10 ^ exponent) ↔ |value| ≤ (32768 : ℕ) * 10 ^ exponent := by
  have pos := scale_pos exponent
  have scaled : value / 10 ^ exponent ≤ 0 := div_nonpos_of_nonpos_of_nonneg nonpos pos.le
  rw [abs_of_nonpos nonpos, ← div_le_iff₀ pos, neg_div, FitsInt16, InLimits, int16Min, int16Max]
  push_cast
  constructor
  · rintro ⟨lower, _⟩
    linarith
  · intro lower
    constructor <;> linarith

/-- The receiver reads the digits kept of the magnitude. A value of which
nothing is left counts as kept at the smallest exponent. -/
theorem exists_keepsDigits {value : ℚ} {limit : ℕ} (one_le : 1 ≤ limit)
    (fitsIff : ∀ exponent : Int,
      FitsInt16 (value / 10 ^ exponent) ↔ |value| ≤ limit * 10 ^ exponent) :
    ∃ exponent, (exponent = (getExponentValueRepr value).1 ∨ exponent = -3) ∧
      KeepsDigits limit (-3) |value| exponent ∧
      |decodeRepr (getExponentValueRepr value)| = kept |value| exponent := by
  rcases getExponentValueRepr_cases value with
    ⟨small, gone⟩ | ⟨exponent, result, lower, fits, minimal⟩
  · refine ⟨-3, .inr rfl, ⟨le_rfl, ?_, .inl rfl⟩, ?_⟩
    · have one_le' : (1 : ℚ) ≤ limit := by exact_mod_cast one_le
      norm_num at small ⊢
      linarith
    · have nothing : ⌊|value| / 10 ^ (-3 : ℤ)⌋ = 0 := by
        rw [Int.floor_eq_zero_iff]
        constructor
        · positivity
        · norm_num at small ⊢
          linarith
      rw [gone, kept, nothing]
      simp [decodeRepr]
  · have pos := scale_pos exponent
    have read : |decodeRepr (getExponentValueRepr value)| = kept |value| exponent := by
      rw [result, decodeRepr, abs_mul, abs_of_pos pos, ← Int.cast_abs, abs_truncate, abs_div,
        abs_of_pos pos, kept]
    refine ⟨exponent, .inl (by rw [result]), ⟨lower, (fitsIff exponent).mp fits, ?_⟩, read⟩
    rcases minimal with least | ⟨_, whole⟩ | outside
    · left
      exact least
    · right
      left
      rw [← read, result, decodeRepr, ← whole, div_mul_cancel₀ _ pos.ne']
    · right
      right
      rw [fitsIff] at outside
      exact not_le.mp outside

theorem exists_keepsDigits_of_nonneg {value : ℚ} (nonneg : 0 ≤ value) :
    ∃ exponent, (exponent = (getExponentValueRepr value).1 ∨ exponent = -3) ∧
      KeepsDigits 32767 (-3) value exponent ∧
      decodeRepr (getExponentValueRepr value) = kept value exponent := by
  obtain ⟨exponent, chosen, keeps, read⟩ :=
    exists_keepsDigits (by norm_num) (fitsInt16_scaled_of_nonneg nonneg)
  rw [abs_of_nonneg nonneg] at keeps read
  rw [abs_of_nonneg (decodeRepr_nonneg nonneg).1] at read
  exact ⟨exponent, chosen, keeps, read⟩

theorem exists_keepsDigits_of_nonpos {value : ℚ} (nonpos : value ≤ 0) :
    ∃ exponent, (exponent = (getExponentValueRepr value).1 ∨ exponent = -3) ∧
      KeepsDigits 32768 (-3) (-value) exponent ∧
      decodeRepr (getExponentValueRepr value) = -kept (-value) exponent := by
  obtain ⟨exponent, chosen, keeps, read⟩ :=
    exists_keepsDigits (by norm_num) (fitsInt16_scaled_of_nonpos nonpos)
  rw [abs_of_nonpos nonpos] at keeps read
  rw [abs_of_nonpos (decodeRepr_nonpos nonpos).1] at read
  exact ⟨exponent, chosen, keeps, neg_eq_iff_eq_neg.mp read⟩

/-- What is lost is less than a unit of the last digit kept. -/
theorem abs_sub_decodeRepr_lt (value : ℚ) :
    |value - decodeRepr (getExponentValueRepr value)| <
      max (10 ^ (getExponentValueRepr value).1) (10 ^ (-3 : ℤ)) := by
  have unit {exponent : ℤ}
      (chosen : exponent = (getExponentValueRepr value).1 ∨ exponent = -3) :
      (10 : ℚ) ^ exponent ≤ max (10 ^ (getExponentValueRepr value).1) (10 ^ (-3 : ℤ)) := by
    rcases chosen with rfl | rfl
    · exact le_max_left _ _
    · exact le_max_right _ _
  rcases le_total 0 value with nonneg | nonpos
  · obtain ⟨exponent, chosen, _, read⟩ := exists_keepsDigits_of_nonneg nonneg
    rw [read, abs_of_nonneg (sub_nonneg.mpr (kept_le value exponent))]
    exact (sub_kept_lt value exponent).trans_le (unit chosen)
  · obtain ⟨exponent, chosen, _, read⟩ := exists_keepsDigits_of_nonpos nonpos
    rw [read, ← abs_neg, show -(value - -kept (-value) exponent) =
      -value - kept (-value) exponent by ring,
      abs_of_nonneg (sub_nonneg.mpr (kept_le (-value) exponent))]
    exact (sub_kept_lt (-value) exponent).trans_le (unit chosen)

/-- A scaled 16-bit integer survives the encoding. -/
theorem decodeRepr_of_scaled {mantissa exponent : Int}
    (inInt16 : int16Min ≤ mantissa ∧ mantissa ≤ int16Max) (lower : -3 ≤ exponent) :
    decodeRepr (getExponentValueRepr (mantissa * 10 ^ exponent)) = mantissa * 10 ^ exponent := by
  have pos := scale_pos exponent
  unfold int16Min int16Max at inInt16
  rcases le_total 0 mantissa with nonneg | nonpos
  · have value : (0 : ℚ) ≤ mantissa * 10 ^ exponent :=
      mul_nonneg (by exact_mod_cast nonneg) pos.le
    obtain ⟨chosen, _, keeps, read⟩ := exists_keepsDigits_of_nonneg value
    rw [read]
    exact keeps.kept_eq (by push_cast; omega) lower rfl
  · have value : (mantissa : ℚ) * 10 ^ exponent ≤ 0 :=
      mul_nonpos_of_nonpos_of_nonneg (by exact_mod_cast nonpos) pos.le
    obtain ⟨chosen, _, keeps, read⟩ := exists_keepsDigits_of_nonpos value
    have whole : kept (-(mantissa * 10 ^ exponent)) chosen = -(mantissa * 10 ^ exponent : ℚ) := by
      have same : -(mantissa * 10 ^ exponent : ℚ) = ((-mantissa : Int) : ℚ) * 10 ^ exponent := by
        push_cast
        ring
      exact keeps.kept_eq (by push_cast; omega) lower same
    rw [read, whole, neg_neg]

/-! ## Correct rounding -/

/-- `get_exponent_value_repr` as a rounding toward zero to the scaled 16-bit
integers with exponents between -3 and 3. -/
structure RoundsTowardZero (value : ℚ) (repr : Int × Int) : Prop where
  value_range : int16Min ≤ repr.2 ∧ repr.2 ≤ int16Max
  exponent_range : -3 ≤ repr.1 ∧ repr.1 ≤ 3
  magnitude : |decodeRepr repr| ≤ |value|
  sign : (0 ≤ value → 0 ≤ repr.2) ∧ (value ≤ 0 → repr.2 ≤ 0)
  /-- Only a value below a thousandth loses its sign, since nothing is left of it. -/
  sign_kept : 1 / 1000 ≤ |value| → repr.2 ≠ 0
  error : |value - decodeRepr repr| < max (10 ^ repr.1) (10 ^ (-3 : ℤ))
  exact_of_scaled : ∀ mantissa exponent : Int, int16Min ≤ mantissa ∧ mantissa ≤ int16Max →
    -3 ≤ exponent → value = mantissa * 10 ^ exponent → decodeRepr repr = value

theorem value_nonneg_of_decodeRepr_nonneg {repr : Int × Int} (nonneg : 0 ≤ decodeRepr repr) :
    0 ≤ repr.2 := by
  have value : (0 : ℚ) ≤ repr.2 := nonneg_of_mul_nonneg_left nonneg (scale_pos repr.1)
  exact_mod_cast value

theorem value_nonpos_of_decodeRepr_nonpos {repr : Int × Int} (nonpos : decodeRepr repr ≤ 0) :
    repr.2 ≤ 0 := by
  have value : (repr.2 : ℚ) ≤ 0 := nonpos_of_mul_nonpos_left nonpos (scale_pos repr.1)
  exact_mod_cast value

theorem abs_decodeRepr_le (value : ℚ) :
    |decodeRepr (getExponentValueRepr value)| ≤ |value| := by
  rcases le_total 0 value with nonneg | nonpos
  · obtain ⟨sign, le⟩ := decodeRepr_nonneg nonneg
    rwa [abs_of_nonneg sign, abs_of_nonneg nonneg]
  · obtain ⟨sign, le⟩ := decodeRepr_nonpos nonpos
    rw [abs_of_nonpos sign, abs_of_nonpos nonpos]
    linarith

/-- A value that is not below a small number is not encoded as one that is. -/
theorem le_abs_decodeRepr {number : ℕ} (small : number ≤ 3276) {value : ℚ}
    (le : number ≤ |value|) : number ≤ |decodeRepr (getExponentValueRepr value)| := by
  have keeps {limit : ℕ} {exponent : ℤ} (least : 32767 ≤ limit)
      (keeps : KeepsDigits limit (-3) |value| exponent) : number ≤ kept |value| exponent := by
    have shown (below : exponent ≤ 0) : (number : ℚ) ≤ kept |value| exponent := by
      have := le_kept |value| number below (by simpa using le)
      simpa using this
    rcases keeps.needed with rfl | whole | tooSmall
    · exact shown (by norm_num)
    · rwa [whole]
    · rcases le_or_gt exponent 0 with below | above
      · exact shown below
      · -- the digits that are left are more than the number itself
        have split := scale_succ (exponent - 1)
        rw [sub_add_cancel] at split
        have unit : (1 : ℚ) ≤ 10 ^ exponent := one_le_zpow₀ (by norm_num) above.le
        have most : (32767 : ℚ) ≤ limit := by exact_mod_cast least
        have room : (0 : ℚ) < 10 ^ (exponent - 1) := scale_pos _
        have enough : ((3276 : ℤ) : ℚ) * 10 ^ exponent ≤ |value| := by
          push_cast
          nlinarith
        have left := le_kept |value| 3276 (le_refl exponent) enough
        have smaller : (number : ℚ) ≤ 3276 := by exact_mod_cast small
        push_cast at left
        nlinarith
  rcases le_total 0 value with nonneg | nonpos
  · obtain ⟨exponent, -, digits, read⟩ := exists_keepsDigits_of_nonneg nonneg
    rw [abs_of_nonneg nonneg] at keeps
    rw [read]
    exact (keeps le_rfl digits).trans (le_abs_self _)
  · obtain ⟨exponent, -, digits, read⟩ := exists_keepsDigits_of_nonpos nonpos
    rw [abs_of_nonpos nonpos] at keeps
    rw [read, abs_neg]
    exact (keeps (by norm_num) digits).trans (le_abs_self _)

theorem value_ne_zero_of_visible {value : ℚ} (visible : 1 / 1000 ≤ |value|) :
    (getExponentValueRepr value).2 ≠ 0 := by
  have lowest : (10 : ℚ) ^ (-3 : ℤ) = 1 / 1000 := by norm_num
  intro gone
  have read : decodeRepr (getExponentValueRepr value) = 0 := by
    rw [decodeRepr, gone]
    simp
  rcases le_total 0 value with nonneg | nonpos
  · obtain ⟨exponent, _, keeps, same⟩ := exists_keepsDigits_of_nonneg nonneg
    rw [abs_of_nonneg nonneg] at visible
    have := keeps.kept_pos (by norm_num) (lowest.trans_le visible)
    linarith
  · obtain ⟨exponent, _, keeps, same⟩ := exists_keepsDigits_of_nonpos nonpos
    rw [abs_of_nonpos nonpos] at visible
    have := keeps.kept_pos (by norm_num) (lowest.trans_le visible)
    linarith

theorem roundsTowardZero_of_abs_le {value : ℚ} (inRange : |value| ≤ 32767 * 10 ^ 3) :
    RoundsTowardZero value (getExponentValueRepr value) where
  value_range := getExponentValueRepr_value_range value
  exponent_range := by
    constructor
    · exact neg_three_le_exponent value
    · rw [exponent_le_three_iff, FitsInt16, InLimits, int16Min, int16Max]
      obtain ⟨lower, upper⟩ := abs_le.mp inRange
      push_cast
      constructor <;> linarith
  magnitude := abs_decodeRepr_le value
  sign := by
    constructor
    · intro nonneg
      exact value_nonneg_of_decodeRepr_nonneg (decodeRepr_nonneg nonneg).1
    · intro nonpos
      exact value_nonpos_of_decodeRepr_nonpos (decodeRepr_nonpos nonpos).1
  sign_kept := value_ne_zero_of_visible
  error := abs_sub_decodeRepr_lt value
  exact_of_scaled := by
    rintro mantissa exponent inInt16 lower rfl
    exact decodeRepr_of_scaled inInt16 lower

/-- The receiver reads back what it would send itself. -/
theorem decodeRepr_idempotent (value : ℚ) :
    decodeRepr (getExponentValueRepr (decodeRepr (getExponentValueRepr value))) =
      decodeRepr (getExponentValueRepr value) :=
  decodeRepr_of_scaled (getExponentValueRepr_value_range value) (neg_three_le_exponent value)

/-- `get_exponent_value_repr` ends and rounds correctly, its result makes a
valid message field of either protocol, and encoding what the receiver reads
changes nothing. -/
theorem getExponentValueRepr_correct (value : ℚ) (inRange : |value| ≤ 32767 * 10 ^ 3) :
    (∃ rounds, ∀ more, getExponentValueReprWithin (rounds + more) int16Min int16Max value =
      getExponentValueRepr value) ∧
    RoundsTowardZero value (getExponentValueRepr value) ∧
    (∃ quantity, PhysicalValue.new (getExponentValueRepr value).1 (getExponentValueRepr value).2 =
        .ok quantity ∧
      quantity.getDecimalValue = decodeRepr (getExponentValueRepr value)) ∧
    (∃ number, RationalNumber.getRationalRepr (some value) = .ok (some number) ∧
      number.getDecimalValue = decodeRepr (getExponentValueRepr value)) ∧
    decodeRepr (getExponentValueRepr (decodeRepr (getExponentValueRepr value))) =
      decodeRepr (getExponentValueRepr value) := by
  have rounds := roundsTowardZero_of_abs_le inRange
  obtain ⟨quantity, made⟩ := PhysicalValue.exists_new rounds.value_range rounds.exponent_range
  have exponent_range : int8Min ≤ (getExponentValueRepr value).1 ∧
      (getExponentValueRepr value).1 ≤ int8Max := by
    obtain ⟨lower, upper⟩ := rounds.exponent_range
    unfold int8Min int8Max
    omega
  constructor
  · exact ⟨_, getExponentValueReprWithin_add value⟩
  constructor
  · exact rounds
  constructor
  · exact ⟨quantity, made, PhysicalValue.getDecimalValue_of_new made⟩
  constructor
  · refine ⟨⟨_, _, exponent_range, rounds.value_range⟩, ?_, rfl⟩
    simp only [RationalNumber.getRationalRepr, RationalNumber.new,
      dif_pos (And.intro exponent_range rounds.value_range)]
    rfl
  · exact decodeRepr_idempotent value

/-- A power of 98765.4 W: one digit and the decimals are dropped. -/
theorem getExponentValueRepr_98765 :
    |(987654 / 10 : ℚ)| ≤ 32767 * 10 ^ 3 ∧ RoundsTowardZero (987654 / 10) (1, 9876) ∧
      decodeRepr (getExponentValueRepr (decodeRepr (1, 9876))) = 98760 := by
  have inRange : |(987654 / 10 : ℚ)| ≤ 32767 * 10 ^ 3 := by decide +kernel
  obtain ⟨_, rounds, _, _, idempotent⟩ := getExponentValueRepr_correct (987654 / 10) inRange
  have result : getExponentValueRepr (987654 / 10) = (1, 9876) := by decide +kernel
  rw [result] at rounds idempotent
  constructor
  · exact inRange
  constructor
  · exact rounds
  · rw [idempotent]
    decide +kernel

/-! ## The order of two values -/

/-- Two values on both sides of the 16-bit limit at some exponent. The one
nearer to zero needs its last digit, and the other has to drop it. -/
def StraddlesLimit (smaller larger : ℚ) : Prop :=
  ∃ exponent : Int, -3 ≤ exponent ∧
    ((32761 * 10 ^ exponent ≤ smaller ∧ smaller ≤ 32767 * 10 ^ exponent ∧
        32767 * 10 ^ exponent < larger ∧ larger < 32770 * 10 ^ exponent) ∨
      (-32770 * 10 ^ exponent < smaller ∧ smaller < -32768 * 10 ^ exponent ∧
        -32768 * 10 ^ exponent ≤ larger ∧ larger ≤ -32761 * 10 ^ exponent))

theorem straddlesLimit_iff_of_nonneg {smaller larger : ℚ} (nonneg : 0 ≤ smaller) :
    StraddlesLimit smaller larger ↔ Straddles 32767 3276 (-3) smaller larger := by
  constructor
  · rintro ⟨exponent, lower, ⟨digit, fits, exceeds, below⟩ | ⟨_, negative, _, _⟩⟩
    · refine ⟨exponent, lower, ?_, ?_, ?_, ?_⟩ <;> push_cast <;> linarith
    · have := scale_pos exponent
      linarith
  · rintro ⟨exponent, lower, digit, fits, exceeds, below⟩
    push_cast at digit fits exceeds below
    refine ⟨exponent, lower, .inl ⟨?_, ?_, ?_, ?_⟩⟩ <;> linarith

theorem straddlesLimit_iff_of_nonpos {smaller larger : ℚ} (nonpos : larger ≤ 0) :
    StraddlesLimit smaller larger ↔ Straddles 32768 3276 (-3) (-larger) (-smaller) := by
  constructor
  · rintro ⟨exponent, lower, ⟨_, _, positive, _⟩ | ⟨below, exceeds, fits, digit⟩⟩
    · have := scale_pos exponent
      linarith
    · refine ⟨exponent, lower, ?_, ?_, ?_, ?_⟩ <;> push_cast <;> linarith
  · rintro ⟨exponent, lower, digit, fits, exceeds, below⟩
    push_cast at digit fits exceeds below
    refine ⟨exponent, lower, .inr ⟨?_, ?_, ?_, ?_⟩⟩ <;> linarith

/-- The receiver reads two values in the right order exactly when they do not
straddle a limit. -/
theorem decodeRepr_le_decodeRepr_iff (smaller larger : ℚ) (le : smaller ≤ larger) :
    decodeRepr (getExponentValueRepr smaller) ≤ decodeRepr (getExponentValueRepr larger) ↔
      ¬StraddlesLimit smaller larger := by
  rcases le_total 0 smaller with nonneg | smallerNonpos
  · obtain ⟨small, _, keepsSmaller, readSmaller⟩ := exists_keepsDigits_of_nonneg nonneg
    obtain ⟨large, _, keepsLarger, readLarger⟩ := exists_keepsDigits_of_nonneg (nonneg.trans le)
    rw [readSmaller, readLarger, straddlesLimit_iff_of_nonneg nonneg]
    exact kept_le_kept_iff (by norm_num) (by norm_num) (by norm_num) keepsSmaller keepsLarger le
  · rcases le_total 0 larger with largerNonneg | nonpos
    · apply iff_of_true
      · exact (decodeRepr_nonpos smallerNonpos).1.trans (decodeRepr_nonneg largerNonneg).1
      · rintro ⟨exponent, _, ⟨positive, _, _, _⟩ | ⟨_, _, _, negative⟩⟩
        · have := scale_pos exponent
          linarith
        · have := scale_pos exponent
          linarith
    · obtain ⟨small, _, keepsSmaller, readSmaller⟩ := exists_keepsDigits_of_nonpos nonpos
      obtain ⟨large, _, keepsLarger, readLarger⟩ := exists_keepsDigits_of_nonpos smallerNonpos
      rw [readSmaller, readLarger, neg_le_neg_iff, straddlesLimit_iff_of_nonpos nonpos]
      exact kept_le_kept_iff (by norm_num) (by norm_num) (by norm_num) keepsSmaller keepsLarger
        (neg_le_neg le)

/-- 32 kW and 33 kW come out in the right order. -/
theorem decodeRepr_32000_le_33000 :
    (32000 : ℚ) ≤ 33000 ∧
      (decodeRepr (getExponentValueRepr 32000) ≤ decodeRepr (getExponentValueRepr 33000) ↔
        ¬StraddlesLimit 32000 33000) := by
  have le : (32000 : ℚ) ≤ 33000 := by norm_num
  exact ⟨le, decodeRepr_le_decodeRepr_iff 32000 33000 le⟩

/-- A limit of 32768 W is advertised as 32760 W, one of 32767 W as it is. -/
theorem decodeRepr_32768_lt_32767 :
    ¬∀ smaller larger : ℚ, smaller ≤ larger → |smaller| ≤ 32767 * 10 ^ 3 →
      |larger| ≤ 32767 * 10 ^ 3 →
      decodeRepr (getExponentValueRepr smaller) ≤ decodeRepr (getExponentValueRepr larger) := by
  intro monotone
  have ordered := monotone 32767 32768 (by norm_num) (by decide +kernel) (by decide +kernel)
  revert ordered
  decide +kernel

end Iso15118.Shared
