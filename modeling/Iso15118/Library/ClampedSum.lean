import Mathlib.Algebra.BigOperators.Group.List.Basic
import Mathlib.Algebra.Order.BigOperators.Group.List
import Mathlib.Algebra.Order.Field.Basic
import Mathlib.Tactic.Linarith

/-!
# Sums that are held in an interval

A store that takes and gives until it is full or empty. Portions of one sign may be put together;
portions of different signs may not, since what does not fit is lost.
-/

universe u

variable {α : Type u} [Field α] [LinearOrder α] [IsStrictOrderedRing α] {lo hi level x y : α}

/-- The level of a store between two bounds after a portion has been put in, or taken out. -/
def clampedSum (lo hi level x : α) : α :=
  max lo (min hi (level + x))

namespace clampedSum

omit [IsStrictOrderedRing α] in
theorem lo_le : lo ≤ clampedSum lo hi level x :=
  le_max_left _ _

omit [IsStrictOrderedRing α] in
theorem le_hi (bounds : lo ≤ hi) : clampedSum lo hi level x ≤ hi :=
  max_le bounds (min_le_left _ _)

omit [IsStrictOrderedRing α] in
theorem zero (above : lo ≤ level) (below : level ≤ hi) : clampedSum lo hi level 0 = level := by
  unfold clampedSum
  rw [add_zero, min_eq_right below, max_eq_right above]

/-- What is put in does not lower the level. -/
theorem le_of_nonneg (below : level ≤ hi) (nonneg : 0 ≤ x) :
    level ≤ clampedSum lo hi level x :=
  le_max_of_le_right (le_min below (le_add_of_nonneg_right nonneg))

/-- What is taken out does not raise the level. -/
theorem le_of_nonpos (above : lo ≤ level) (nonpos : x ≤ 0) :
    clampedSum lo hi level x ≤ level :=
  max_le above (min_le_of_right_le (add_le_of_nonpos_right nonpos))

/-- Two portions that are put in are one portion. -/
theorem add_of_nonneg (above : lo ≤ level) (x_nonneg : 0 ≤ x) (y_nonneg : 0 ≤ y) :
    clampedSum lo hi (clampedSum lo hi level x) y = clampedSum lo hi level (x + y) := by
  unfold clampedSum
  obtain full | room := le_total hi (level + x)
  · rw [min_eq_left full, min_eq_left (by linarith : hi ≤ level + (x + y))]
    obtain swapped | bounds := le_total hi lo
    · rw [max_eq_left swapped]
      exact max_eq_left (min_le_of_left_le swapped)
    · rw [max_eq_right bounds, min_eq_left (by linarith), max_eq_right bounds]
  · rw [min_eq_right room, max_eq_right (by linarith : lo ≤ level + x), add_assoc]

/-- Two portions that are taken out are one portion. -/
theorem add_of_nonpos (below : level ≤ hi) (bounds : lo ≤ hi) (x_nonpos : x ≤ 0)
    (y_nonpos : y ≤ 0) :
    clampedSum lo hi (clampedSum lo hi level x) y = clampedSum lo hi level (x + y) := by
  unfold clampedSum
  rw [min_eq_right (by linarith : level + x ≤ hi)]
  obtain empty | rest := le_total (level + x) lo
  · rw [max_eq_left empty, min_eq_right (by linarith : lo + y ≤ hi),
      max_eq_left (by linarith : lo + y ≤ lo),
      max_eq_left (min_le_of_right_le (by linarith : level + (x + y) ≤ lo))]
  · rw [max_eq_right rest, add_assoc]

/-- Portions that are put in one after another are one portion. -/
theorem foldl_of_nonneg {portions : List α} (nonneg : ∀ portion ∈ portions, 0 ≤ portion)
    (above : lo ≤ level) (below : level ≤ hi) :
    portions.foldl (clampedSum lo hi) level = clampedSum lo hi level portions.sum := by
  induction portions generalizing level with
  | nil => exact (zero above below).symm
  | cons first later ih =>
      have later_nonneg : ∀ portion ∈ later, 0 ≤ portion :=
        fun portion member => nonneg portion (List.mem_cons_of_mem first member)
      rw [List.foldl_cons, ih later_nonneg lo_le (le_hi (above.trans below)),
        add_of_nonneg above (nonneg first List.mem_cons_self) (List.sum_nonneg later_nonneg),
        List.sum_cons]

/-- Portions that are taken out one after another are one portion. -/
theorem foldl_of_nonpos {portions : List α} (nonpos : ∀ portion ∈ portions, portion ≤ 0)
    (above : lo ≤ level) (below : level ≤ hi) :
    portions.foldl (clampedSum lo hi) level = clampedSum lo hi level portions.sum := by
  induction portions generalizing level with
  | nil => exact (zero above below).symm
  | cons first later ih =>
      have later_nonpos : ∀ portion ∈ later, portion ≤ 0 :=
        fun portion member => nonpos portion (List.mem_cons_of_mem first member)
      have sum_nonpos : later.sum ≤ 0 :=
        (List.sum_le_card_nsmul later 0 later_nonpos).trans_eq (nsmul_zero _)
      rw [List.foldl_cons, ih later_nonpos lo_le (le_hi (above.trans below)),
        add_of_nonpos below (above.trans below) (nonpos first List.mem_cons_self) sum_nonpos,
        List.sum_cons]

/-- Only a portion that does not fit leaves the level as it is. -/
theorem eq_self_iff (above : lo ≤ level) (below : level ≤ hi) :
    clampedSum lo hi level x = level ↔ x = 0 ∨ level = hi ∧ 0 < x ∨ level = lo ∧ x < 0 := by
  constructor
  · intro same
    unfold clampedSum at same
    obtain negative | rfl | positive := lt_trichotomy x 0
    · right
      right
      rw [min_eq_right (by linarith)] at same
      obtain empty | rest := le_total (level + x) lo
      · rw [max_eq_left empty] at same
        exact ⟨same.symm, negative⟩
      · rw [max_eq_right rest] at same
        linarith
    · exact .inl rfl
    · right
      left
      obtain full | room := le_total hi (level + x)
      · rw [min_eq_left full, max_eq_right (above.trans below)] at same
        exact ⟨same.symm, positive⟩
      · rw [min_eq_right room, max_eq_right (by linarith)] at same
        linarith
  · rintro (rfl | ⟨rfl, positive⟩ | ⟨rfl, negative⟩)
    · exact zero above below
    · exact le_antisymm (le_hi above) (le_of_nonneg below positive.le)
    · exact le_antisymm (le_of_nonpos above negative.le) lo_le

end clampedSum
