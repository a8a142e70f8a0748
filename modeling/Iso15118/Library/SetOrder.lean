import Mathlib.Data.List.Nodup
import Mathlib.Data.Option.Basic

/-!
# The order of a set's elements

A set made of a list has each element once. In which order it lists them is not known, so
that a program must be right for all of them.
-/

universe u v

variable {α : Type u} {β : Type v}

/-- An order in which sets list their elements. -/
structure SetOrder (α : Type u) where
  list : List α → List α
  nodup : ∀ elements, (list elements).Nodup
  mem_list : ∀ elements element, element ∈ list elements ↔ element ∈ elements

namespace SetOrder

attribute [simp] mem_list

section

variable [DecidableEq α]

theorem nodup_eraseDups (elements : List α) : elements.eraseDups.Nodup := by
  induction size : elements.length using Nat.strongRecOn generalizing elements with
  | ind size ih =>
      cases elements with
      | nil => exact List.nodup_nil
      | cons element rest =>
          rw [List.eraseDups_cons]
          apply List.nodup_cons.mpr
          constructor
          · simp
          · apply ih _ _ _ rfl
            rw [← size]
            exact Nat.lt_succ_of_le (List.length_filter_le _ _)

/-- The order in which the elements occur first. -/
def firstOccurrences : SetOrder α where
  list := List.eraseDups
  nodup := nodup_eraseDups
  mem_list _ _ := List.mem_eraseDups

/-- The other way round. -/
def reversed : SetOrder α where
  list elements := elements.eraseDups.reverse
  nodup elements := List.nodup_reverse.mpr (nodup_eraseDups elements)
  mem_list _ _ := List.mem_reverse.trans List.mem_eraseDups

end

theorem eq_of_eq_reverse {elements : List α} (palindrome : elements = elements.reverse)
    (nodup : elements.Nodup) {first second : α} (firstListed : first ∈ elements)
    (secondListed : second ∈ elements) : first = second := by
  have filled : 0 < elements.length := List.length_pos_of_mem firstListed
  have ends : elements[0] = elements[elements.length - 1] := by
    have bound : 0 < elements.reverse.length := by
      rw [List.length_reverse]
      exact filled
    have reversed : elements.reverse[0] = elements[elements.length - 1] :=
      List.getElem_reverse _
    rw [← reversed]
    exact List.getElem_of_eq palindrome filled
  have single : 0 = elements.length - 1 := nodup.getElem_inj_iff.mp ends
  have short : elements.length = 1 := by omega
  obtain ⟨element, rfl⟩ := List.length_eq_one_iff.mp short
  rw [List.mem_singleton.mp firstListed, List.mem_singleton.mp secondListed]

/-- A selection of the elements that is the same in all orders has at most one element. -/
theorem eq_of_forall [DecidableEq α] {elements : List α} {select : α → Option β}
    (injective : ∀ first second selected, selected ∈ select first → selected ∈ select second →
      first = second)
    (result : List β)
    (same : ∀ order : SetOrder α, (order.list elements).filterMap select = result)
    {first second : α} (firstListed : first ∈ elements) (secondListed : second ∈ elements)
    (firstSelected : (select first).isSome = true)
    (secondSelected : (select second).isSome = true) :
    first = second := by
  have forward := same firstOccurrences
  have backward := same reversed
  have palindrome : result = result.reverse := by
    rw [← forward, ← List.filterMap_reverse]
    exact forward.trans backward.symm
  have nodup : result.Nodup := by
    rw [← forward]
    exact (firstOccurrences.nodup elements).filterMap injective
  have listed {element : α} {selected : β} (member : element ∈ elements)
      (selects : select element = some selected) : selected ∈ result := by
    rw [← forward]
    exact List.mem_filterMap.mpr ⟨element, List.mem_eraseDups.mpr member, selects⟩
  obtain ⟨one, selectsOne⟩ := Option.isSome_iff_exists.mp firstSelected
  obtain ⟨two, selectsTwo⟩ := Option.isSome_iff_exists.mp secondSelected
  have equal := eq_of_eq_reverse palindrome nodup (listed firstListed selectsOne)
    (listed secondListed selectsTwo)
  exact injective first second one selectsOne (equal ▸ selectsTwo)

/-- A set of at most one element has only one order. -/
theorem list_eq_of_forall_eq (order : SetOrder α) {elements other : List α}
    (same : ∀ element, element ∈ elements ↔ element ∈ other) (nodup : other.Nodup)
    (single : ∀ first ∈ elements, ∀ second ∈ elements, first = second) :
    order.list elements = other := by
  have mem (element : α) : element ∈ order.list elements ↔ element ∈ other := by
    rw [order.mem_list, same]
  have perm : (order.list elements).Perm other :=
    (List.perm_ext_iff_of_nodup (order.nodup elements) nodup).mpr mem
  have distinct := order.nodup elements
  cases listed : order.list elements with
  | nil =>
      rw [listed] at perm
      exact (List.nil_perm.mp perm).symm
  | cons first rest =>
      cases rest with
      | nil =>
          rw [listed] at perm
          exact List.singleton_perm.mp perm
      | cons second rest =>
          have firstListed : first ∈ elements := by
            rw [← order.mem_list, listed]
            simp
          have secondListed : second ∈ elements := by
            rw [← order.mem_list, listed]
            simp
          rw [listed, single first firstListed second secondListed] at distinct
          simp at distinct

end SetOrder
