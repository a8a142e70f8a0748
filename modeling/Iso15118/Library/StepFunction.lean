import Mathlib.Algebra.Order.Ring.Rat
import Mathlib.Data.List.Basic
import Mathlib.Order.Lattice

/-!
# Piecewise constant functions given by their breakpoints

A list of entries, each with a start, describes a step function: an entry
governs from its own start up to the start of the entry behind it. The last
entry governs forever. Lists are sorted weakly, so an entry whose successor
starts at the same time governs nowhere.
-/

namespace StepFunction

universe u v

variable {α : Type u} {τ : Type v} [LinearOrder τ]

/-- The entries are listed in the order of their starts. -/
def SortedBy (start : α → τ) (entries : List α) : Prop :=
  entries.Pairwise fun earlier later => start earlier ≤ start later

/-- Entry `i` of the list is the one that governs at `time`: the last one that
has started by then. -/
def ActiveAt (start : α → τ) (entries : List α) (time : τ) (i : Nat) (entry : α) : Prop :=
  entries[i]? = some entry ∧ start entry ≤ time ∧
    ∀ j later, i < j → entries[j]? = some later → time < start later

variable {start : α → τ} {entries : List α}

theorem SortedBy.start_le (sorted : SortedBy start entries) {i j : Nat} {earlier later : α}
    (atI : entries[i]? = some earlier) (atJ : entries[j]? = some later) (le : i ≤ j) :
    start earlier ≤ start later := by
  rcases Nat.lt_or_eq_of_le le with lt | rfl
  · rw [List.getElem?_eq_some_iff] at atI atJ
    rcases atI with ⟨boundI, rfl⟩
    rcases atJ with ⟨boundJ, rfl⟩
    exact List.pairwise_iff_getElem.mp sorted i j boundI boundJ lt
  · rw [atI] at atJ
    cases atJ
    exact le_rfl

/-- Sorting survives a change of the time scale. -/
theorem SortedBy.comp {τ' : Type*} [LinearOrder τ'] (sorted : SortedBy start entries)
    (scale : τ → τ') (mono : Monotone scale) :
    SortedBy (fun entry => scale (start entry)) entries :=
  List.Pairwise.imp (fun le => mono le) sorted

/-- In a sorted list only the next entry has to be looked at. -/
theorem activeAt_iff_next (sorted : SortedBy start entries) {time : τ} {i : Nat} {entry : α} :
    ActiveAt start entries time i entry ↔
      entries[i]? = some entry ∧ start entry ≤ time ∧
        ∀ next, entries[i + 1]? = some next → time < start next := by
  constructor
  · rintro ⟨atI, started, later⟩
    exact ⟨atI, started, fun next atNext => later (i + 1) next (Nat.lt_succ_self i) atNext⟩
  · rintro ⟨atI, started, next⟩
    refine ⟨atI, started, ?_⟩
    intro j later lt atJ
    have bound : i + 1 < entries.length :=
      lt_of_le_of_lt lt (List.getElem?_eq_some_iff.mp atJ).1
    have atNext : entries[i + 1]? = some entries[i + 1] := List.getElem?_eq_getElem bound
    exact lt_of_lt_of_le (next _ atNext) (sorted.start_le atNext atJ lt)

end StepFunction
