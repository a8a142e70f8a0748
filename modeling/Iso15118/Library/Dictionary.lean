import Mathlib.Tactic.TypeStar

/-!
# Dictionaries as lists of entries

An update that takes only the values of keys that the dictionary has.
-/

namespace Dictionary

variable {κ α : Type*} [DecidableEq κ]

/-- A dictionary with a value for each of some keys. -/
def ofKeys (keys : List κ) (value : κ → α) : List (κ × α) :=
  keys.map fun key => (key, value key)

/-- The values of the common keys are taken from the second dictionary. -/
def mergeCommon (own params : List (κ × α)) : List (κ × α) :=
  own.map fun entry => (entry.1, (params.lookup entry.1).getD entry.2)

theorem lookup_ofKeys {keys : List κ} {value : κ → α} {key : κ} {held : α}
    (found : (ofKeys keys value).lookup key = some held) : held = value key := by
  induction keys with
  | nil => cases found
  | cons first keys ih =>
      rw [ofKeys, List.map_cons, List.lookup_cons] at found
      split at found
      next same =>
        cases eq_of_beq same
        exact (Option.some.inj found).symm
      next => exact ih found

theorem lookup_mergeCommon (own params : List (κ × α)) (key : κ) :
    (mergeCommon own params).lookup key =
      (own.lookup key).map fun old => (params.lookup key).getD old := by
  induction own with
  | nil => rfl
  | cons entry own ih =>
      rw [mergeCommon, List.map_cons, List.lookup_cons, List.lookup_cons]
      split
      next same =>
        cases eq_of_beq same
        rfl
      next => exact ih

/-- What a common key has after the update is what the second dictionary has. -/
theorem lookup_mergeCommon_of_common {own params : List (κ × α)} {key : κ} {new held : α}
    (given : params.lookup key = some new)
    (found : (mergeCommon own params).lookup key = some held) : held = new := by
  rw [lookup_mergeCommon, given] at found
  obtain ⟨_, _, same⟩ := Option.map_eq_some_iff.mp found
  exact same.symm

end Dictionary
