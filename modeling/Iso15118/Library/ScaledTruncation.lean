import Iso15118.Library.Rounding
import Mathlib.Algebra.Order.Field.Power
import Mathlib.Tactic.FieldSimp
import Mathlib.Tactic.NormNum
import Mathlib.Tactic.Positivity
import Mathlib.Tactic.Ring

/-!
# Magnitudes with a bounded number of digits

A magnitude is kept as an integer up to a limit times a power of ten, and what
lies below the power is dropped. The power is no larger than the limit forces
it to be. The library says what is lost, which magnitudes are kept exactly, and
for which pairs of magnitudes the order is lost.
-/

namespace ScaledTruncation

/-- What is kept of a magnitude at a power of ten. -/
def kept (magnitude : ℚ) (exponent : ℤ) : ℚ :=
  ⌊magnitude / 10 ^ exponent⌋ * 10 ^ exponent

/-- The exponent makes the magnitude fit and is as small as it can be, unless
nothing is lost at it anyway. -/
structure KeepsDigits (limit : ℕ) (lowest : ℤ) (magnitude : ℚ) (exponent : ℤ) : Prop where
  lowest_le : lowest ≤ exponent
  fits : magnitude ≤ limit * 10 ^ exponent
  needed : exponent = lowest ∨ kept magnitude exponent = magnitude ∨
    limit * 10 ^ (exponent - 1) < magnitude

theorem scale_pos (exponent : ℤ) : (0 : ℚ) < 10 ^ exponent :=
  zpow_pos (by norm_num) exponent

theorem scale_succ (exponent : ℤ) : (10 : ℚ) ^ (exponent + 1) = 10 * 10 ^ exponent := by
  rw [zpow_add_one₀ (by norm_num), mul_comm]

theorem scale_mono {low high : ℤ} (le : low ≤ high) : (10 : ℚ) ^ low ≤ 10 ^ high :=
  zpow_le_zpow_right₀ (by norm_num) le

theorem lt_of_scale_lt {limit : ℕ} {low high : ℤ}
    (lt : (limit : ℚ) * 10 ^ low < limit * 10 ^ high) : low < high := by
  by_contra le
  have nonneg : (0 : ℚ) ≤ limit := Nat.cast_nonneg limit
  have := mul_le_mul_of_nonneg_left (scale_mono (not_lt.mp le)) nonneg
  linarith

/-- A multiple of a power of ten is a multiple of every smaller one. -/
theorem multiple_of_le {low high : ℤ} (le : low ≤ high) (number : ℤ) :
    ∃ multiple : ℤ, (number : ℚ) * 10 ^ high = multiple * 10 ^ low := by
  obtain ⟨shift, rfl⟩ := Int.le.dest le
  use number * 10 ^ shift
  rw [zpow_add₀ (by norm_num), zpow_natCast]
  push_cast
  ring

section Kept

variable {magnitude : ℚ} {exponent : ℤ}

theorem kept_le (magnitude : ℚ) (exponent : ℤ) : kept magnitude exponent ≤ magnitude := by
  rw [kept, ← le_div_iff₀ (scale_pos exponent)]
  exact Int.floor_le _

theorem sub_kept_lt (magnitude : ℚ) (exponent : ℤ) :
    magnitude - kept magnitude exponent < 10 ^ exponent := by
  have next : magnitude < (⌊magnitude / 10 ^ exponent⌋ + 1) * 10 ^ exponent := by
    rw [← div_lt_iff₀ (scale_pos exponent)]
    exact Int.lt_floor_add_one _
  rw [kept]
  linarith

/-- No multiple at the same or a larger power of ten lies between what is kept
and the magnitude. -/
theorem le_kept (magnitude : ℚ) (number : ℤ) {high : ℤ} (exponentLe : exponent ≤ high)
    (le : (number : ℚ) * 10 ^ high ≤ magnitude) :
    (number : ℚ) * 10 ^ high ≤ kept magnitude exponent := by
  obtain ⟨multiple, same⟩ := multiple_of_le exponentLe number
  rw [same] at le ⊢
  rw [← le_div_iff₀ (scale_pos exponent)] at le
  exact mul_le_mul_of_nonneg_right (by exact_mod_cast Int.le_floor.mpr le) (scale_pos exponent).le

theorem kept_of_multiple {number high : ℤ} (exponentLe : exponent ≤ high) :
    kept (number * 10 ^ high) exponent = number * 10 ^ high :=
  le_antisymm (kept_le _ _) (le_kept _ number exponentLe le_rfl)

/-- What is kept is a multiple of every power of ten up to the exponent. -/
theorem exists_kept_eq (magnitude : ℚ) {low : ℤ} (le : low ≤ exponent) :
    ∃ multiple : ℤ, kept magnitude exponent = multiple * 10 ^ low :=
  multiple_of_le le _

/-- Less than one multiple more is not a multiple more. -/
theorem kept_le_of_lt (magnitude : ℚ) (number : ℤ) {low : ℤ} (le : low ≤ exponent)
    (lt : kept magnitude exponent < (number + 1) * 10 ^ low) :
    kept magnitude exponent ≤ number * 10 ^ low := by
  obtain ⟨multiple, same⟩ := exists_kept_eq magnitude le
  rw [same] at lt ⊢
  have below : (multiple : ℚ) < number + 1 := lt_of_mul_lt_mul_right lt (scale_pos low).le
  have : multiple ≤ number := by exact_mod_cast Int.lt_add_one_iff.mp (by exact_mod_cast below)
  exact mul_le_mul_of_nonneg_right (by exact_mod_cast this) (scale_pos low).le

end Kept

namespace KeepsDigits

variable {limit : ℕ} {lowest exponent : ℤ} {magnitude : ℚ}

/-- A magnitude with few enough digits is kept as it is. -/
theorem kept_eq (keeps : KeepsDigits limit lowest magnitude exponent) {number high : ℤ}
    (numberLe : number ≤ limit) (lowestLe : lowest ≤ high)
    (same : magnitude = number * 10 ^ high) : kept magnitude exponent = magnitude := by
  rcases keeps.needed with least | whole | tooSmall
  · rw [same]
    exact kept_of_multiple (by omega)
  · exact whole
  · have digits : magnitude ≤ limit * 10 ^ high := by
      rw [same]
      exact mul_le_mul_of_nonneg_right (by exact_mod_cast numberLe) (scale_pos high).le
    have := lt_of_scale_lt (tooSmall.trans_le digits)
    rw [same]
    exact kept_of_multiple (by omega)

/-- A magnitude that has a digit at the lowest exponent keeps a digit. -/
theorem kept_pos (keeps : KeepsDigits limit lowest magnitude exponent) (ten_le : 10 ≤ limit)
    (visible : 10 ^ lowest ≤ magnitude) : 0 < kept magnitude exponent := by
  have keepsOne (fits : (10 : ℚ) ^ exponent ≤ magnitude) : 0 < kept magnitude exponent := by
    have one := le_kept magnitude 1 (le_refl exponent) (by simpa using fits)
    have pos := scale_pos exponent
    push_cast at one
    linarith
  rcases keeps.needed with rfl | whole | tooSmall
  · exact keepsOne visible
  · rw [whole]
    exact (scale_pos lowest).trans_le visible
  · apply keepsOne
    have split := scale_succ (exponent - 1)
    rw [sub_add_cancel] at split
    have ten_le' : (10 : ℚ) ≤ limit := by exact_mod_cast ten_le
    have := mul_le_mul_of_nonneg_right ten_le' (scale_pos (exponent - 1)).le
    linarith

end KeepsDigits

/-- Two magnitudes on both sides of the largest one that fits at an exponent:
the smaller one needs the last digit of the limit, which the larger one has to
drop. `tens` is the limit without that digit. -/
def Straddles (limit tens : ℕ) (lowest : ℤ) (smaller larger : ℚ) : Prop :=
  ∃ exponent, lowest ≤ exponent ∧
    (10 * tens + 1) * 10 ^ exponent ≤ smaller ∧ smaller ≤ limit * 10 ^ exponent ∧
    limit * 10 ^ exponent < larger ∧ larger < 10 * (tens + 1) * 10 ^ exponent

section Order

variable {limit tens : ℕ} {lowest small large : ℤ} {smaller larger : ℚ}

/-- The larger magnitude drops the digit that the smaller one keeps. -/
theorem kept_lt_kept_of_straddles (keepsSmaller : KeepsDigits limit lowest smaller small)
    (keepsLarger : KeepsDigits limit lowest larger large)
    (straddles : Straddles limit tens lowest smaller larger) :
    kept larger large < kept smaller small := by
  obtain ⟨exponent, lowestLe, digit, fits, exceeds, below⟩ := straddles
  have pos := scale_pos exponent
  have coarser : exponent < large := lt_of_scale_lt (exceeds.trans_le keepsLarger.fits)
  have dropped : kept larger large ≤ (tens : ℤ) * 10 ^ (exponent + 1) := by
    apply kept_le_of_lt larger tens coarser
    have upper := (kept_le larger large).trans_lt below
    rw [scale_succ]
    push_cast
    linarith
  have finer : small ≤ exponent ∨ kept smaller small = smaller := by
    rcases keepsSmaller.needed with least | whole | tooSmall
    · left
      omega
    · right
      exact whole
    · left
      have := lt_of_scale_lt (tooSmall.trans_le fits)
      omega
  have keptDigit : (10 * tens + 1) * 10 ^ exponent ≤ kept smaller small := by
    rcases finer with finer | whole
    · have keeps := le_kept smaller (10 * tens + 1) finer (by push_cast; exact digit)
      push_cast at keeps
      exact keeps
    · rwa [whole]
  rw [scale_succ] at dropped
  push_cast at dropped
  linarith

/-- If the order is lost, the two magnitudes straddle the largest one that fits
at some exponent. -/
theorem straddles_of_kept_lt (one_le : 1 ≤ tens) (tensLe : 10 * tens ≤ limit)
    (lastDigit : limit ≤ 10 * tens + 9) (keepsSmaller : KeepsDigits limit lowest smaller small)
    (keepsLarger : KeepsDigits limit lowest larger large) (le : smaller ≤ larger)
    (reversed : kept larger large < kept smaller small) :
    Straddles limit tens lowest smaller larger := by
  have smallerKept := kept_le smaller small
  have coarser : small < large := by
    by_contra finer
    obtain ⟨multiple, same⟩ := exists_kept_eq smaller (not_lt.mp finer)
    have := le_kept larger multiple (le_refl large) (by linarith)
    linarith
  have exceeds : limit * 10 ^ (large - 1) < larger := by
    rcases keepsLarger.needed with least | whole | tooSmall
    · have := keepsSmaller.lowest_le
      omega
    · linarith
    · exact tooSmall
  obtain ⟨exponent, rfl⟩ : ∃ exponent, large = exponent + 1 := ⟨large - 1, by ring⟩
  rw [add_sub_cancel_right] at exceeds
  have pos := scale_pos exponent
  have tensLe' : (10 : ℚ) * tens ≤ limit := by exact_mod_cast tensLe
  have lastDigit' : (limit : ℚ) ≤ 10 * tens + 9 := by exact_mod_cast lastDigit
  have one_le' : (1 : ℚ) ≤ tens := by exact_mod_cast one_le
  have fitsTens : 10 * tens * (10 : ℚ) ^ exponent ≤ limit * 10 ^ exponent :=
    mul_le_mul_of_nonneg_right tensLe' pos.le
  have keptTens : 10 * tens * (10 : ℚ) ^ exponent ≤ kept larger (exponent + 1) := by
    have keeps := le_kept larger tens (le_refl (exponent + 1)) (by
      rw [scale_succ]
      push_cast
      linarith)
    rw [scale_succ] at keeps
    push_cast at keeps
    linarith
  -- the smaller magnitude uses the very exponent at which the larger one is too large
  have sameExponent : small = exponent := by
    by_contra other
    have finer : (10 : ℚ) ^ (small + 1) ≤ 10 ^ exponent := scale_mono (by omega)
    rw [scale_succ] at finer
    have bound := smallerKept.trans keepsSmaller.fits
    have scaled : (limit : ℚ) * (10 * 10 ^ small) ≤ limit * 10 ^ exponent :=
      mul_le_mul_of_nonneg_left finer (Nat.cast_nonneg limit)
    have hundred : (limit : ℚ) * 10 ^ exponent ≤ 100 * tens * 10 ^ exponent :=
      mul_le_mul_of_nonneg_right (by linarith) pos.le
    linarith
  subst sameExponent
  have digit : (10 * tens + 1) * 10 ^ small ≤ kept smaller small := by
    by_contra less
    have atMost := kept_le_of_lt smaller (10 * tens) (le_refl small) (by
      push_cast
      exact not_le.mp less)
    push_cast at atMost
    linarith
  have below : larger < 10 * (tens + 1) * 10 ^ small := by
    by_contra more
    have keeps := le_kept larger (tens + 1) (le_refl (small + 1)) (by
      rw [scale_succ]
      push_cast
      linarith)
    rw [scale_succ] at keeps
    push_cast at keeps
    have bound := smallerKept.trans keepsSmaller.fits
    have nextTen : (limit : ℚ) * 10 ^ small ≤ (10 * tens + 9) * 10 ^ small :=
      mul_le_mul_of_nonneg_right lastDigit' pos.le
    linarith
  exact ⟨small, keepsSmaller.lowest_le, digit.trans smallerKept, keepsSmaller.fits, exceeds, below⟩

/-- The order of two magnitudes survives exactly when they do not straddle the
largest one that fits at an exponent. -/
theorem kept_le_kept_iff (one_le : 1 ≤ tens) (tensLe : 10 * tens ≤ limit)
    (lastDigit : limit ≤ 10 * tens + 9) (keepsSmaller : KeepsDigits limit lowest smaller small)
    (keepsLarger : KeepsDigits limit lowest larger large) (le : smaller ≤ larger) :
    kept smaller small ≤ kept larger large ↔ ¬Straddles limit tens lowest smaller larger := by
  constructor
  · intro ordered straddles
    have := kept_lt_kept_of_straddles keepsSmaller keepsLarger straddles
    linarith
  · intro apart
    by_contra reversed
    exact apart (straddles_of_kept_lt one_le tensLe lastDigit keepsSmaller keepsLarger le
      (not_le.mp reversed))

end Order

end ScaledTruncation
