import Iso15118.Library.StepFunction
import Iso15118.Shared.Exceptions
import Iso15118.Shared.Messages.CalculatedValue
import Iso15118.Shared.Messages.V2.Body

/-!
# The charging profile check of `PowerDelivery`

`_is_charging_profile_valid` walks the slots of the chosen PMax schedule and,
inside each slot, the entries of the EV's charging profile. A start index is
carried from slot to slot so that profile entries which ended in an earlier
slot are not looked at again. Where the next profile entry begins is looked up
in the whole profile with an index that counts from the carried start, so from
the second advance on the carried index runs past an entry that reaches over
the slot boundary. The module says exactly which pairs are compared and which
are lost, and from it when the check bounds the EV's power. The powers of a pair
are compared as Python calculates them.
-/

namespace Iso15118.Secc.V2

open Iso15118.Shared
open Iso15118.Shared.V2
open StepFunction

/-! ## The check -/

/-- The loop over `ev_profile_entries[cached_start_idx_ev:]` for one slot.
`none` is the early `return False`; otherwise the new `last_ev_running_idx`. -/
def scanProfileEntries (evProfileEntries : List ProfileEntryDetails)
    (saProfileEntryEnd : Int) (saEntryPmax : ℚ) :
    Nat → List ProfileEntryDetails → Nat → Except PyError (Option Nat)
  | _, [], lastEvRunningIdx => .ok (some lastEvRunningIdx)
  | evProfileIdx, evProfileEntry :: rest, lastEvRunningIdx =>
      match evProfileEntries.getLast? with
      | none => .error .indexError
      | some lastEntry =>
          if evProfileEntry.start < saProfileEntryEnd ∨
              evProfileEntry.start = lastEntry.start then
            if saEntryPmax < evProfileEntry.maxPower.calculatedValue then
              .ok none
            else if evProfileEntry.start = lastEntry.start then
              scanProfileEntries evProfileEntries saProfileEntryEnd saEntryPmax
                (evProfileIdx + 1) rest lastEvRunningIdx
            else
              -- the index counts from the slice, the lookup is in the whole list
              match evProfileEntries[evProfileIdx + 1]? with
              | none => .error .indexError
              | some nextEntry =>
                  scanProfileEntries evProfileEntries saProfileEntryEnd saEntryPmax
                    (evProfileIdx + 1) rest
                    (if nextEntry.start ≤ saProfileEntryEnd then evProfileIdx + 1
                      else lastEvRunningIdx)
          else
            .ok (some lastEvRunningIdx)

/-- Where a slot ends: at the start of the slot behind it, and for the last
slot after its duration. Adding an absent duration raises. -/
def saProfileEntryEnd (entry : PMaxScheduleEntry) (rest : List PMaxScheduleEntry) :
    Except PyError Int :=
  match rest with
  | next :: _ => .ok next.timeInterval.start
  | [] =>
      match entry.timeInterval.duration with
      | some duration => .ok (entry.timeInterval.start + duration)
      | none => .error .typeError

/-- The loop over `schedule_entries`. -/
def scanScheduleEntries (evProfileEntries : List ProfileEntryDetails) :
    List PMaxScheduleEntry → Nat → Nat → Except PyError Bool
  | [], _, _ => .ok true
  | entry :: rest, cachedStartIdxEv, lastEvRunningIdx => do
      let entryEnd ← saProfileEntryEnd entry rest
      let cachedStartIdxEv := cachedStartIdxEv + lastEvRunningIdx
      match ← scanProfileEntries evProfileEntries entryEnd entry.pMax.calculatedValue 0
          (evProfileEntries.drop cachedStartIdxEv) 0 with
      | none => .ok false
      | some lastEvRunningIdx =>
          scanScheduleEntries evProfileEntries rest cachedStartIdxEv lastEvRunningIdx

/-- `PowerDelivery._is_charging_profile_valid`: every offered schedule with the
requested id is checked. -/
def isChargingProfileValid (powerDeliveryReq : PowerDeliveryReq) :
    List SAScheduleTuple → Except PyError Bool
  | [] => .ok true
  | schedule :: offeredSchedules =>
      if schedule.saScheduleTupleId = powerDeliveryReq.saScheduleTupleId then
        match powerDeliveryReq.chargingProfile with
        | none => .error .attributeError
        | some evProfile => do
            if ← scanScheduleEntries evProfile.profileEntries
                schedule.pMaxSchedule.scheduleEntries 0 0 then
              isChargingProfileValid powerDeliveryReq offeredSchedules
            else
              .ok false
      else
        isChargingProfileValid powerDeliveryReq offeredSchedules

/-! ## One slot -/

/-- `_is_last_ev_profile`: the entry starts together with the final one. -/
def IsLastEvProfile (evProfileEntries : List ProfileEntryDetails)
    (entry : ProfileEntryDetails) : Prop :=
  ∃ lastEntry, evProfileEntries.getLast? = some lastEntry ∧ entry.start = lastEntry.start

/-- The loop over a slot that ends at `entryEnd` does not break at this entry. -/
def Admitted (evProfileEntries : List ProfileEntryDetails) (entryEnd : Int)
    (entry : ProfileEntryDetails) : Prop :=
  entry.start < entryEnd ∨ IsLastEvProfile evProfileEntries entry

/-- Entry `j` is reached from entry `first` before the loop breaks. -/
def ReachedFrom (evProfileEntries : List ProfileEntryDetails) (entryEnd : Int)
    (first j : Nat) : Prop :=
  first ≤ j ∧ ∀ i entry, first ≤ i → i ≤ j → evProfileEntries[i]? = some entry →
    Admitted evProfileEntries entryEnd entry

/-- The slice entry `k` moves `last_ev_running_idx` to `k + 1` when the slice
begins at `cached`. -/
def MovesIdx (evProfileEntries : List ProfileEntryDetails) (entryEnd : Int)
    (cached k : Nat) : Prop :=
  ∃ entry next, evProfileEntries[cached + k]? = some entry ∧
    evProfileEntries[k + 1]? = some next ∧ entry.start < entryEnd ∧
    ¬IsLastEvProfile evProfileEntries entry ∧ next.start ≤ entryEnd

section Slot

variable {evProfileEntries : List ProfileEntryDetails} {entryEnd : Int} {pmax : ℚ}

theorem start_le_last (sorted : SortedBy ProfileEntryDetails.start evProfileEntries)
    {lastEntry entry : ProfileEntryDetails} {i : Nat}
    (atLast : evProfileEntries.getLast? = some lastEntry)
    (atI : evProfileEntries[i]? = some entry) : entry.start ≤ lastEntry.start := by
  rw [List.getLast?_eq_getElem?] at atLast
  have bound := (List.getElem?_eq_some_iff.mp atI).1
  exact sorted.start_le atI atLast (by omega)

/-- An entry before one that is not the final one is not the final one. -/
theorem not_isLastEvProfile_of_le
    (sorted : SortedBy ProfileEntryDetails.start evProfileEntries)
    {i j : Nat} {earlier later : ProfileEntryDetails}
    (atI : evProfileEntries[i]? = some earlier) (atJ : evProfileEntries[j]? = some later)
    (le : i ≤ j) (notLast : ¬IsLastEvProfile evProfileEntries later) :
    ¬IsLastEvProfile evProfileEntries earlier := by
  rintro ⟨lastEntry, atLast, startEq⟩
  refine notLast ⟨lastEntry, atLast, ?_⟩
  have before := sorted.start_le atI atJ le
  have after := start_le_last sorted atLast atJ
  omega

/-- Behind an entry that is not the final one there is a next entry. -/
theorem exists_next_of_not_isLast {i : Nat} {entry : ProfileEntryDetails}
    (atI : evProfileEntries[i]? = some entry)
    (notLast : ¬IsLastEvProfile evProfileEntries entry) :
    ∃ next, evProfileEntries[i + 1]? = some next := by
  have bound := (List.getElem?_eq_some_iff.mp atI).1
  by_cases inside : i + 1 < evProfileEntries.length
  · exact ⟨_, List.getElem?_eq_getElem inside⟩
  · refine absurd ⟨entry, ?_, rfl⟩ notLast
    rw [List.getLast?_eq_getElem?, ← atI]
    congr 1
    omega

theorem MovesIdx.of_le (sorted : SortedBy ProfileEntryDetails.start evProfileEntries)
    {cached k k' : Nat} (moves : MovesIdx evProfileEntries entryEnd cached k) (le : k' ≤ k) :
    MovesIdx evProfileEntries entryEnd cached k' := by
  rcases moves with ⟨entry, next, atK, atNext, startLt, notLast, nextLe⟩
  have boundK := (List.getElem?_eq_some_iff.mp atK).1
  have boundNext := (List.getElem?_eq_some_iff.mp atNext).1
  have atK' := List.getElem?_eq_getElem (l := evProfileEntries) (i := cached + k') (by omega)
  have atNext' := List.getElem?_eq_getElem (l := evProfileEntries) (i := k' + 1) (by omega)
  refine ⟨_, _, atK', atNext', ?_, ?_, ?_⟩
  · have := sorted.start_le atK' atK (by omega)
    omega
  · exact not_isLastEvProfile_of_le sorted atK' atK (by omega) notLast
  · have := sorted.start_le atNext' atNext (by omega)
    omega

/-- What one pass over a slot says about the entries from `first` on and about
the new running index. -/
def ScanOutcome (evProfileEntries : List ProfileEntryDetails) (entryEnd : Int) (pmax : ℚ)
    (cached first : Nat) : Except PyError (Option Nat) → Prop
  | .error _ => False
  | .ok none => ∃ j entry, evProfileEntries[j]? = some entry ∧
      ReachedFrom evProfileEntries entryEnd first j ∧ pmax < entry.maxPower.calculatedValue
  | .ok (some lastEvRunningIdx) =>
      (∀ k, k < lastEvRunningIdx ↔ MovesIdx evProfileEntries entryEnd cached k) ∧
      ∀ j entry, evProfileEntries[j]? = some entry →
        ReachedFrom evProfileEntries entryEnd first j → entry.maxPower.calculatedValue ≤ pmax

/-- An admitted entry within the limit can be put in front of a pass. -/
theorem ScanOutcome.cons {cached first : Nat} {entry : ProfileEntryDetails}
    {outcome : Except PyError (Option Nat)}
    (atFirst : evProfileEntries[first]? = some entry)
    (admitted : Admitted evProfileEntries entryEnd entry)
    (within : entry.maxPower.calculatedValue ≤ pmax)
    (later : ScanOutcome evProfileEntries entryEnd pmax cached (first + 1) outcome) :
    ScanOutcome evProfileEntries entryEnd pmax cached first outcome := by
  match outcome, later with
  | .ok none, ⟨j, visited, atJ, ⟨le, reached⟩, exceeds⟩ =>
      refine ⟨j, visited, atJ, ⟨by omega, ?_⟩, exceeds⟩
      intro i candidate firstLe iLe atI
      rcases Nat.lt_or_eq_of_le firstLe with lt | rfl
      · exact reached i candidate lt iLe atI
      · rw [atFirst] at atI
        cases atI
        exact admitted
  | .ok (some lastEvRunningIdx), ⟨moves, bounded⟩ =>
      refine ⟨moves, ?_⟩
      intro j candidate atJ reached
      rcases Nat.lt_or_eq_of_le reached.1 with lt | rfl
      · exact bounded j candidate atJ
          ⟨lt, fun i other le => reached.2 i other (by omega)⟩
      · rw [atFirst] at atJ
        cases atJ
        exact within

/-- The loop over one slot. The induction is on the slice; the running index
stands for the slice entries already passed that moved it. -/
theorem scanProfileEntries_outcome
    (sorted : SortedBy ProfileEntryDetails.start evProfileEntries) (cached : Nat)
    (rest : List ProfileEntryDetails) :
    ∀ evProfileIdx lastEvRunningIdx,
      evProfileEntries.drop (cached + evProfileIdx) = rest →
      (∀ k, k < lastEvRunningIdx ↔
        k < evProfileIdx ∧ MovesIdx evProfileEntries entryEnd cached k) →
      ScanOutcome evProfileEntries entryEnd pmax cached (cached + evProfileIdx)
        (scanProfileEntries evProfileEntries entryEnd pmax evProfileIdx rest
          lastEvRunningIdx) := by
  induction rest with
  | nil =>
      intro i running slice below
      have bound : evProfileEntries.length ≤ cached + i := List.drop_eq_nil_iff.mp slice
      refine ⟨?_, ?_⟩
      · intro k
        rw [below k, and_iff_right_iff_imp]
        rintro ⟨_, _, atK, _⟩
        have := (List.getElem?_eq_some_iff.mp atK).1
        omega
      · intro j entry atJ reached
        have := (List.getElem?_eq_some_iff.mp atJ).1
        have := reached.1
        omega
  | cons entry rest ih =>
      intro i running slice below
      have atFirst : evProfileEntries[cached + i]? = some entry := by
        have head := congrArg List.head? slice
        rwa [List.head?_drop] at head
      have slice' : evProfileEntries.drop (cached + (i + 1)) = rest := by
        have tail := congrArg List.tail slice
        rwa [List.tail_drop] at tail
      -- from here on nothing moves the index once entry `i` does not
      have below_of_not (stays : ¬MovesIdx evProfileEntries entryEnd cached i) (k : Nat) :
          k < running ↔ MovesIdx evProfileEntries entryEnd cached k := by
        rw [below k, and_iff_right_iff_imp]
        intro moves
        by_contra notLt
        exact stays (moves.of_le sorted (by omega))
      have next_of_not (stays : ¬MovesIdx evProfileEntries entryEnd cached i) (k : Nat) :
          k < running ↔ k < i + 1 ∧ MovesIdx evProfileEntries entryEnd cached k := by
        rw [below_of_not stays k]
        constructor
        · intro moves
          exact ⟨by have := ((below k).mp ((below_of_not stays k).mpr moves)).1; omega, moves⟩
        · exact And.right
      have same {e : ProfileEntryDetails} (atI : evProfileEntries[cached + i]? = some e) :
          e = entry := Option.some.inj (atI.symm.trans atFirst)
      cases atLast : evProfileEntries.getLast? with
      | none =>
          rw [List.getLast?_eq_none_iff.mp atLast] at atFirst
          simp at atFirst
      | some lastEntry =>
          have isLast_iff : IsLastEvProfile evProfileEntries entry ↔
              entry.start = lastEntry.start := by
            simp [IsLastEvProfile, atLast]
          simp only [scanProfileEntries, atLast]
          by_cases admitted : entry.start < entryEnd ∨ entry.start = lastEntry.start
          · have admitted' : Admitted evProfileEntries entryEnd entry :=
              admitted.imp_right isLast_iff.mpr
            rw [if_pos admitted]
            by_cases exceeds : pmax < entry.maxPower.calculatedValue
            · rw [if_pos exceeds]
              refine ⟨cached + i, entry, atFirst, ⟨le_rfl, ?_⟩, exceeds⟩
              intro j candidate le le' atJ
              obtain rfl : cached + i = j := by omega
              rwa [same atJ]
            · rw [if_neg exceeds]
              by_cases isLast : entry.start = lastEntry.start
              · rw [if_pos isLast]
                refine ScanOutcome.cons atFirst admitted' (not_lt.mp exceeds)
                  (ih (i + 1) running slice' (next_of_not ?_))
                rintro ⟨e, _, atI, _, _, notLast, _⟩
                exact notLast (by rw [same atI]; exact isLast_iff.mpr isLast)
              · have notLast := isLast_iff.not.mpr isLast
                rw [if_neg isLast]
                cases atNext : evProfileEntries[i + 1]? with
                | none =>
                    rcases exists_next_of_not_isLast atFirst notLast with ⟨next, at'⟩
                    have := (List.getElem?_eq_some_iff.mp at').1
                    have := List.getElem?_eq_none_iff.mp atNext
                    omega
                | some next =>
                    refine ScanOutcome.cons atFirst admitted' (not_lt.mp exceeds)
                      (ih (i + 1) _ slice' ?_)
                    by_cases nextLe : next.start ≤ entryEnd
                    · rw [if_pos nextLe]
                      have moves : MovesIdx evProfileEntries entryEnd cached i :=
                        ⟨entry, next, atFirst, atNext, admitted.resolve_right isLast,
                          notLast, nextLe⟩
                      intro k
                      rw [iff_self_and]
                      intro lt
                      exact moves.of_le sorted (by omega)
                    · rw [if_neg nextLe]
                      refine next_of_not ?_
                      rintro ⟨_, e, _, atI, _, _, startLe⟩
                      rw [atNext] at atI
                      cases atI
                      exact nextLe startLe
          · rw [if_neg admitted]
            have notAdmitted : ¬Admitted evProfileEntries entryEnd entry := fun holds =>
              admitted (holds.imp_right isLast_iff.mp)
            refine ⟨below_of_not ?_, ?_⟩
            · rintro ⟨e, _, atI, _, startLt, _⟩
              exact notAdmitted (.inl (by rwa [same atI] at startLt))
            · intro j candidate atJ reached
              exact absurd (reached.2 _ entry le_rfl reached.1 atFirst) notAdmitted

end Slot

/-! ## The whole schedule -/

/-- Where slot `k` of a schedule ends. -/
def SlotEnd (scheduleEntries : List PMaxScheduleEntry) (k : Nat) (entryEnd : Int) : Prop :=
  ∃ entry, scheduleEntries[k]? = some entry ∧
    saProfileEntryEnd entry (scheduleEntries.drop (k + 1)) = .ok entryEnd

def slotStart (entry : PMaxScheduleEntry) : Int :=
  entry.timeInterval.start

/-- The carried start index of slot `k` has passed profile entry `j`. The entry
began before the slot; either it also ended by then, or the second entry of the
profile had already begun when the slot before this one did, in which case
every entry that began earlier is passed. -/
def Dropped (evProfileEntries : List ProfileEntryDetails)
    (scheduleEntries : List PMaxScheduleEntry) (j k : Nat) : Prop :=
  ∃ entry next slot, evProfileEntries[j]? = some entry ∧ evProfileEntries[j + 1]? = some next ∧
    scheduleEntries[k]? = some slot ∧ 1 ≤ k ∧ ¬IsLastEvProfile evProfileEntries entry ∧
    entry.start < slotStart slot ∧
    (next.start ≤ slotStart slot ∨
      ∃ first second previous, evProfileEntries[0]? = some first ∧
        evProfileEntries[1]? = some second ∧ 2 ≤ k ∧
        scheduleEntries[k - 1]? = some previous ∧
        first.start < slotStart previous ∧ second.start ≤ slotStart previous)

/-- Profile entry `j` is compared with slot `k`. -/
def Compared (evProfileEntries : List ProfileEntryDetails)
    (scheduleEntries : List PMaxScheduleEntry) (j k : Nat) : Prop :=
  ¬Dropped evProfileEntries scheduleEntries j k ∧
    ∃ entryEnd, SlotEnd scheduleEntries k entryEnd ∧
      ReachedFrom evProfileEntries entryEnd 0 j

section Schedule

variable {evProfileEntries : List ProfileEntryDetails}
  {scheduleEntries : List PMaxScheduleEntry}

theorem not_dropped_zero (j : Nat) : ¬Dropped evProfileEntries scheduleEntries j 0 := by
  rintro ⟨_, _, _, _, _, _, pos, _⟩
  omega

/-- The step of the carried index: the entries passed at the next slot are the
ones passed before and the ones the running index moved over. -/
theorem dropped_succ_iff (sortedEv : SortedBy ProfileEntryDetails.start evProfileEntries)
    (sortedSa : SortedBy slotStart scheduleEntries) {k cached : Nat}
    {slot next : PMaxScheduleEntry} (atK : scheduleEntries[k]? = some slot)
    (atNext : scheduleEntries[k + 1]? = some next)
    (passed : ∀ j, j < cached ↔ Dropped evProfileEntries scheduleEntries j k) (j : Nat) :
    Dropped evProfileEntries scheduleEntries j (k + 1) ↔
      j < cached ∨ ∃ i, j = cached + i ∧ MovesIdx evProfileEntries (slotStart next) cached i := by
  have slotLe : slotStart slot ≤ slotStart next := sortedSa.start_le atK atNext (by omega)
  constructor
  · rintro ⟨entry, after, slot', atJ, atAfter, atK', _, notLast, startLt, ended⟩
    rw [atNext] at atK'
    cases atK'
    by_cases lt : j < cached
    · exact .inl lt
    · refine .inr ⟨j - cached, by omega, entry, ?_⟩
      have back : cached + (j - cached) = j := by omega
      rw [back]
      rcases Nat.eq_zero_or_pos cached with rfl | pos
      · refine ⟨after, atJ, by simpa using atAfter, startLt, notLast, ?_⟩
        rcases ended with afterLe | ⟨first, second, previous, at0, at1, two, atPrev, lt0, le1⟩
        · exact afterLe
        · -- the first entry would have been passed at slot `k`
          rw [show k + 1 - 1 = k by omega, atK] at atPrev
          cases atPrev
          have firstNotLast := not_isLastEvProfile_of_le sortedEv at0 atJ (Nat.zero_le j) notLast
          have := (passed 0).mpr ⟨first, second, slot, at0, at1, atK, by omega, firstNotLast,
            lt0, .inl le1⟩
          omega
      · have boundJ := (List.getElem?_eq_some_iff.mp atJ).1
        have atLookup := List.getElem?_eq_getElem (l := evProfileEntries)
          (i := j - cached + 1) (by omega)
        refine ⟨_, atJ, atLookup, startLt, notLast, ?_⟩
        exact (sortedEv.start_le atLookup atJ (by omega)).trans startLt.le
  · rintro (lt | ⟨i, rfl, entry, lookup, atJ, atLookup, startLt, notLast, lookupLe⟩)
    · rcases (passed j).mp lt with
        ⟨entry, after, slot', atJ, atAfter, atK', pos, notLast, startLt, ended⟩
      rw [atK] at atK'
      cases atK'
      refine ⟨entry, after, next, atJ, atAfter, atNext, by omega, notLast,
        startLt.trans_le slotLe, .inr ?_⟩
      rcases (passed 0).mp (by omega) with
        ⟨first, second, slot', at0, at1, atK', _, _, firstLt, secondEnded⟩
      rw [atK] at atK'
      cases atK'
      refine ⟨first, second, slot, at0, at1, by omega, atK, firstLt, ?_⟩
      rcases secondEnded with le | ⟨_, _, previous, _, at1', two, atPrev, _, le⟩
      · exact le
      · rw [at1] at at1'
        cases at1'
        exact le.trans (sortedSa.start_le atPrev atK (by omega))
    · rcases exists_next_of_not_isLast atJ notLast with ⟨after, atAfter⟩
      refine ⟨entry, after, next, atJ, atAfter, atNext, by omega, notLast, startLt, ?_⟩
      rcases Nat.eq_zero_or_pos cached with rfl | pos
      · rw [zero_add, atLookup] at atAfter
        cases atAfter
        exact .inl lookupLe
      · rcases (passed 0).mp pos with
          ⟨first, second, slot', at0, at1, atK', pos, _, firstLt, secondEnded⟩
        rw [atK] at atK'
        cases atK'
        refine .inr ⟨first, second, slot, at0, at1, by omega, atK, firstLt, ?_⟩
        rcases secondEnded with le | ⟨_, _, previous, _, at1', two, atPrev, _, le⟩
        · exact le
        · rw [at1] at at1'
          cases at1'
          exact le.trans (sortedSa.start_le atPrev atK (by omega))

/-- Every slot has an end once the last one has a duration. -/
theorem exists_slotEnd
    (lastDuration : ∀ slot, scheduleEntries.getLast? = some slot →
      slot.timeInterval.duration.isSome)
    {k : Nat} {slot : PMaxScheduleEntry} (atK : scheduleEntries[k]? = some slot) :
    ∃ entryEnd, saProfileEntryEnd slot (scheduleEntries.drop (k + 1)) = .ok entryEnd := by
  cases tail : scheduleEntries.drop (k + 1) with
  | cons next rest => exact ⟨_, rfl⟩
  | nil =>
      have bound := (List.getElem?_eq_some_iff.mp atK).1
      have exhausted := List.drop_eq_nil_iff.mp tail
      have atLast : scheduleEntries.getLast? = some slot := by
        rw [List.getLast?_eq_getElem?, ← atK]
        congr 1
        omega
      rcases Option.isSome_iff_exists.mp (lastDuration slot atLast) with ⟨duration, eq⟩
      exact ⟨slot.timeInterval.start + duration, by simp [saProfileEntryEnd, eq]⟩

theorem slotStart_le_slotEnd (sortedSa : SortedBy slotStart scheduleEntries) {k : Nat}
    {slot : PMaxScheduleEntry} {entryEnd : Int} (atK : scheduleEntries[k]? = some slot)
    (ends : saProfileEntryEnd slot (scheduleEntries.drop (k + 1)) = .ok entryEnd) :
    slotStart slot ≤ entryEnd := by
  unfold saProfileEntryEnd at ends
  split at ends
  · rename_i next rest tail
    have atNext : scheduleEntries[k + 1]? = some next := by
      have head := congrArg List.head? tail
      rwa [List.head?_drop] at head
    cases ends
    exact sortedSa.start_le atK atNext (by omega)
  · split at ends
    · rename_i duration eq
      cases ends
      have nonneg := (slot.timeInterval.duration_range duration eq).1
      simp only [slotStart]
      omega
    · cases ends

/-- The entries that the loop over slot `k` reaches are the compared ones. -/
theorem reachedFrom_iff_compared (sortedSa : SortedBy slotStart scheduleEntries) {k cached : Nat}
    {slot : PMaxScheduleEntry} {entryEnd : Int} (atK : scheduleEntries[k]? = some slot)
    (ends : saProfileEntryEnd slot (scheduleEntries.drop (k + 1)) = .ok entryEnd)
    (passed : ∀ j, j < cached ↔ Dropped evProfileEntries scheduleEntries j k) (j : Nat) :
    ReachedFrom evProfileEntries entryEnd cached j ↔
      Compared evProfileEntries scheduleEntries j k := by
  constructor
  · rintro ⟨le, reached⟩
    refine ⟨fun dropped => ?_, entryEnd, ⟨slot, atK, ends⟩, Nat.zero_le j, ?_⟩
    · have := (passed j).mpr dropped
      omega
    · intro i entry _ iLe atI
      by_cases lt : i < cached
      · rcases (passed i).mp lt with ⟨entry', _, slot', atI', _, atK', _, _, startLt, _⟩
        rw [atI] at atI'
        rw [atK] at atK'
        cases atI'
        cases atK'
        exact .inl (startLt.trans_le (slotStart_le_slotEnd sortedSa atK ends))
      · exact reached i entry (not_lt.mp lt) iLe atI
  · rintro ⟨notDropped, entryEnd', ⟨slot', atK', ends'⟩, _, reached⟩
    rw [atK] at atK'
    cases atK'
    rw [ends] at ends'
    cases ends'
    refine ⟨?_, fun i entry _ iLe atI => reached i entry (Nat.zero_le i) iLe atI⟩
    exact not_lt.mp fun lt => notDropped ((passed j).mp lt)

/-- A compared pair in which the EV asks for more than the slot allows, as floats. -/
def Exceeds (evProfileEntries : List ProfileEntryDetails)
    (scheduleEntries : List PMaxScheduleEntry) (j k : Nat) : Prop :=
  ∃ entry slot, evProfileEntries[j]? = some entry ∧ scheduleEntries[k]? = some slot ∧
    Compared evProfileEntries scheduleEntries j k ∧
    slot.pMax.calculatedValue < entry.maxPower.calculatedValue

/-- The loop over the schedule from slot `k` on: it finishes, and it says no
exactly when some compared pair exceeds. -/
theorem scanScheduleEntries_eq
    (sortedEv : SortedBy ProfileEntryDetails.start evProfileEntries)
    (sortedSa : SortedBy slotStart scheduleEntries)
    (lastDuration : ∀ slot, scheduleEntries.getLast? = some slot →
      slot.timeInterval.duration.isSome)
    (rest : List PMaxScheduleEntry) :
    ∀ k cached running, scheduleEntries.drop k = rest →
      (∀ slot, scheduleEntries[k]? = some slot →
        ∀ j, j < cached + running ↔ Dropped evProfileEntries scheduleEntries j k) →
      ∃ valid, scanScheduleEntries evProfileEntries rest cached running = .ok valid ∧
        (valid = false ↔ ∃ k' j, k ≤ k' ∧ Exceeds evProfileEntries scheduleEntries j k') := by
  induction rest with
  | nil =>
      intro k cached running suffix passed
      refine ⟨true, rfl, ?_⟩
      simp only [Bool.true_eq_false, false_iff]
      rintro ⟨k', j, le, _, _, _, atK', _⟩
      have := (List.getElem?_eq_some_iff.mp atK').1
      have := List.drop_eq_nil_iff.mp suffix
      omega
  | cons slot rest ih =>
      intro k cached running suffix passed
      have atK : scheduleEntries[k]? = some slot := by
        have head := congrArg List.head? suffix
        rwa [List.head?_drop] at head
      have suffix' : scheduleEntries.drop (k + 1) = rest := by
        have tail := congrArg List.tail suffix
        rwa [List.tail_drop] at tail
      rcases exists_slotEnd lastDuration atK with ⟨entryEnd, ends⟩
      have compared_iff := reachedFrom_iff_compared sortedSa atK ends (passed slot atK)
      have outcome : ScanOutcome evProfileEntries entryEnd slot.pMax.calculatedValue
          (cached + running) (cached + running + 0) _ :=
        scanProfileEntries_outcome sortedEv (cached + running)
          (evProfileEntries.drop (cached + running)) 0 0 rfl (by simp)
      rw [suffix'] at ends
      simp only [scanScheduleEntries, ends, bind, Except.bind]
      revert outcome
      cases scanned : scanProfileEntries evProfileEntries entryEnd slot.pMax.calculatedValue 0
          (evProfileEntries.drop (cached + running)) 0 with
      | error error => exact False.elim
      | ok result =>
          cases result with
          | none =>
              rintro ⟨j, entry, atJ, reached, exceeds⟩
              refine ⟨false, rfl, iff_of_true rfl ?_⟩
              exact ⟨k, j, le_rfl, entry, slot, atJ, atK, (compared_iff j).mp reached, exceeds⟩
          | some running' =>
              rintro ⟨moves, bounded⟩
              have here (j : Nat) : ¬Exceeds evProfileEntries scheduleEntries j k := by
                rintro ⟨entry, slot', atJ, atK', compared, exceeds⟩
                rw [atK] at atK'
                cases atK'
                exact absurd (bounded j entry atJ ((compared_iff j).mpr compared))
                  (not_le.mpr exceeds)
              have passed' (next : PMaxScheduleEntry)
                  (atNext : scheduleEntries[k + 1]? = some next) (j : Nat) :
                  j < cached + running + running' ↔
                    Dropped evProfileEntries scheduleEntries j (k + 1) := by
                obtain ⟨tail, rfl⟩ : ∃ tail, rest = next :: tail :=
                  ⟨_, suffix'.symm.trans (List.drop_eq_getElem?_toList_append.trans
                    (by rw [atNext]; rfl))⟩
                cases ends
                rw [dropped_succ_iff sortedEv sortedSa atK atNext (passed slot atK) j]
                constructor
                · intro lt
                  by_cases before : j < cached + running
                  · exact .inl before
                  · exact .inr ⟨j - (cached + running), by omega, (moves _).mp (by omega)⟩
                · rintro (lt | ⟨i, rfl, movesI⟩)
                  · omega
                  · have := (moves i).mpr movesI
                    omega
              rcases ih (k + 1) (cached + running) running' suffix' passed' with
                ⟨valid, result, valid_iff⟩
              refine ⟨valid, result, valid_iff.trans ⟨?_, ?_⟩⟩
              · rintro ⟨k', j, le, exceeds⟩
                exact ⟨k', j, by omega, exceeds⟩
              · rintro ⟨k', j, le, exceeds⟩
                rcases Nat.lt_or_eq_of_le le with lt | rfl
                · exact ⟨k', j, lt, exceeds⟩
                · exact absurd exceeds (here j)

end Schedule

/-! ## Power at an instant -/

/-- Instants are rational, so that they also fall between whole seconds. -/
def profileInstant (entry : ProfileEntryDetails) : ℚ :=
  entry.start

def slotInstant (slot : PMaxScheduleEntry) : ℚ :=
  slotStart slot

/-- The schedule still says something at `time`: its last slot has not ended. -/
def BeforeHorizon (scheduleEntries : List PMaxScheduleEntry) (time : ℚ) : Prop :=
  ∃ entryEnd, SlotEnd scheduleEntries (scheduleEntries.length - 1) entryEnd ∧ time < entryEnd

/-- At every instant of the schedule's horizon at which the profile is defined,
the power of the profile is at most the PMax of the schedule. -/
def Adheres (evProfileEntries : List ProfileEntryDetails)
    (scheduleEntries : List PMaxScheduleEntry) : Prop :=
  ∀ (time : ℚ) j k entry slot, BeforeHorizon scheduleEntries time →
    ActiveAt profileInstant evProfileEntries time j entry →
    ActiveAt slotInstant scheduleEntries time k slot →
    entry.maxPower.getDecimalValue ≤ slot.pMax.getDecimalValue

/-- Profile entry `j` reaches over the start of the nonempty slot `k`, and the
second profile entry had begun when the slot before it did. -/
def LostOverStart (evProfileEntries : List ProfileEntryDetails)
    (scheduleEntries : List PMaxScheduleEntry) (j k : Nat) : Prop :=
  ∃ entry next slot first second previous entryEnd,
    evProfileEntries[j]? = some entry ∧ evProfileEntries[j + 1]? = some next ∧
    scheduleEntries[k]? = some slot ∧ 2 ≤ k ∧
    evProfileEntries[0]? = some first ∧ evProfileEntries[1]? = some second ∧
    scheduleEntries[k - 1]? = some previous ∧ SlotEnd scheduleEntries k entryEnd ∧
    first.start < slotStart previous ∧ second.start ≤ slotStart previous ∧
    entry.start < slotStart slot ∧ slotStart slot < next.start ∧ slotStart slot < entryEnd

/-- Every entry that is lost over the start of a slot stays within that slot. -/
def LostWithin (evProfileEntries : List ProfileEntryDetails)
    (scheduleEntries : List PMaxScheduleEntry) : Prop :=
  ∀ j k entry slot, evProfileEntries[j]? = some entry → scheduleEntries[k]? = some slot →
    LostOverStart evProfileEntries scheduleEntries j k →
    entry.maxPower.getDecimalValue ≤ slot.pMax.getDecimalValue

section Instants

variable {evProfileEntries : List ProfileEntryDetails}
  {scheduleEntries : List PMaxScheduleEntry}

theorem profileInstant_sorted (sorted : SortedBy ProfileEntryDetails.start evProfileEntries) :
    SortedBy profileInstant evProfileEntries :=
  sorted.comp (fun start : Int => (start : ℚ)) Int.cast_mono

theorem slotInstant_sorted (sorted : SortedBy slotStart scheduleEntries) :
    SortedBy slotInstant scheduleEntries :=
  sorted.comp (fun start : Int => (start : ℚ)) Int.cast_mono

/-- A slot that is in force before the horizon has not ended. -/
theorem lt_slotEnd_of_active {time : ℚ} {k : Nat} {slot : PMaxScheduleEntry} {entryEnd : Int}
    (horizon : BeforeHorizon scheduleEntries time)
    (active : ActiveAt slotInstant scheduleEntries time k slot)
    (ends : saProfileEntryEnd slot (scheduleEntries.drop (k + 1)) = .ok entryEnd) :
    time < entryEnd := by
  have bound := (List.getElem?_eq_some_iff.mp active.1).1
  cases tail : scheduleEntries.drop (k + 1) with
  | cons next rest =>
      have atNext : scheduleEntries[k + 1]? = some next := by
        have head := congrArg List.head? tail
        rwa [List.head?_drop] at head
      rw [tail] at ends
      cases ends
      exact active.2.2 (k + 1) next (Nat.lt_succ_self k) atNext
  | nil =>
      have exhausted := List.drop_eq_nil_iff.mp tail
      rcases horizon with ⟨lastEnd, ⟨last, atLast, lastEnds⟩, lt⟩
      obtain rfl : k = scheduleEntries.length - 1 := by omega
      rw [active.1] at atLast
      cases atLast
      rw [ends] at lastEnds
      cases lastEnds
      exact lt

/-- The start of a nonempty slot is an instant at which that slot is in force. -/
theorem active_at_slotStart (sortedSa : SortedBy slotStart scheduleEntries) {k : Nat}
    {slot : PMaxScheduleEntry} {entryEnd : Int} (atK : scheduleEntries[k]? = some slot)
    (ends : saProfileEntryEnd slot (scheduleEntries.drop (k + 1)) = .ok entryEnd)
    (nonempty : slotStart slot < entryEnd) :
    ActiveAt slotInstant scheduleEntries (slotInstant slot) k slot := by
  rw [activeAt_iff_next (slotInstant_sorted sortedSa)]
  refine ⟨atK, le_rfl, ?_⟩
  intro next atNext
  rw [List.drop_eq_getElem?_toList_append, atNext] at ends
  cases ends
  exact Int.cast_lt.mpr nonempty

/-- No slot ends after the horizon. -/
theorem beforeHorizon_of_lt_slotEnd (sortedSa : SortedBy slotStart scheduleEntries)
    (lastDuration : ∀ slot, scheduleEntries.getLast? = some slot →
      slot.timeInterval.duration.isSome) {k : Nat}
    {slot : PMaxScheduleEntry} {entryEnd : Int} {time : ℚ}
    (atK : scheduleEntries[k]? = some slot)
    (ends : saProfileEntryEnd slot (scheduleEntries.drop (k + 1)) = .ok entryEnd)
    (before : time < entryEnd) : BeforeHorizon scheduleEntries time := by
  have bound := (List.getElem?_eq_some_iff.mp atK).1
  have atLast := List.getElem?_eq_getElem (l := scheduleEntries)
    (i := scheduleEntries.length - 1) (by omega)
  rcases exists_slotEnd lastDuration atLast with ⟨lastEnd, lastEnds⟩
  refine ⟨lastEnd, ⟨_, atLast, lastEnds⟩, before.trans_le (Int.cast_le.mpr ?_)⟩
  cases tail : scheduleEntries.drop (k + 1) with
  | cons next rest =>
      have atNext : scheduleEntries[k + 1]? = some next := by
        have head := congrArg List.head? tail
        rwa [List.head?_drop] at head
      have boundNext := (List.getElem?_eq_some_iff.mp atNext).1
      rw [tail] at ends
      cases ends
      exact (sortedSa.start_le atNext atLast (by omega)).trans
        (slotStart_le_slotEnd sortedSa atLast lastEnds)
  | nil =>
      have exhausted := List.drop_eq_nil_iff.mp tail
      obtain rfl : k = scheduleEntries.length - 1 := by omega
      obtain rfl : slot = scheduleEntries[scheduleEntries.length - 1] :=
        Option.some.inj (atK.symm.trans atLast)
      rw [ends] at lastEnds
      cases lastEnds
      exact le_rfl

theorem beforeHorizon_slotStart (sortedSa : SortedBy slotStart scheduleEntries)
    (lastDuration : ∀ slot, scheduleEntries.getLast? = some slot →
      slot.timeInterval.duration.isSome) {k : Nat}
    {slot : PMaxScheduleEntry} {entryEnd : Int} (atK : scheduleEntries[k]? = some slot)
    (ends : saProfileEntryEnd slot (scheduleEntries.drop (k + 1)) = .ok entryEnd)
    (nonempty : slotStart slot < entryEnd) :
    BeforeHorizon scheduleEntries (slotInstant slot) :=
  beforeHorizon_of_lt_slotEnd sortedSa lastDuration atK ends (Int.cast_lt.mpr nonempty)

/-- When no compared pair exceeds, the profile adheres to the schedule exactly
when the lost entries do. -/
theorem adheres_iff_lostWithin
    (sortedEv : SortedBy ProfileEntryDetails.start evProfileEntries)
    (sortedSa : SortedBy slotStart scheduleEntries)
    (lastDuration : ∀ slot, scheduleEntries.getLast? = some slot →
      slot.timeInterval.duration.isSome)
    (within : ∀ j k, ¬Exceeds evProfileEntries scheduleEntries j k) :
    Adheres evProfileEntries scheduleEntries ↔
      LostWithin evProfileEntries scheduleEntries := by
  constructor
  · rintro adheres j k entry slot atJ atK
      ⟨entry', next, slot', _, _, _, entryEnd, atJ', atNext, atK', _, _, _, _,
        ⟨slot'', atK'', ends⟩, _, _, startLt, ltNext, nonempty⟩
    rw [atJ] at atJ'
    rw [atK] at atK' atK''
    cases atJ'
    cases atK'
    cases atK''
    refine adheres (slotInstant slot) j k entry slot
      (beforeHorizon_slotStart sortedSa lastDuration atK ends nonempty) ?_
      (active_at_slotStart sortedSa atK ends nonempty)
    rw [activeAt_iff_next (profileInstant_sorted sortedEv)]
    refine ⟨atJ, Int.cast_le.mpr startLt.le, ?_⟩
    intro after atAfter
    rw [atNext] at atAfter
    cases atAfter
    exact Int.cast_lt.mpr ltNext
  · intro lost time j k entry slot horizon activeEv activeSa
    rcases exists_slotEnd lastDuration activeSa.1 with ⟨entryEnd, ends⟩
    have beforeEnd := lt_slotEnd_of_active horizon activeSa ends
    have startLt : entry.start < entryEnd :=
      Int.cast_lt.mp (activeEv.2.1.trans_lt beforeEnd)
    by_cases dropped : Dropped evProfileEntries scheduleEntries j k
    · rcases dropped with ⟨entry', next, slot', atJ, atNext, atK, _, _, began, ended⟩
      rw [activeEv.1] at atJ
      rw [activeSa.1] at atK
      cases atJ
      cases atK
      have reaches : slotStart slot < next.start :=
        Int.cast_lt.mp (activeSa.2.1.trans_lt (activeEv.2.2 (j + 1) next (by omega) atNext))
      have nonempty : slotStart slot < entryEnd :=
        Int.cast_lt.mp (activeSa.2.1.trans_lt beforeEnd)
      rcases ended with nextLe | ⟨first, second, previous, at0, at1, two, atPrev, lt0, le1⟩
      · omega
      · exact lost j k entry slot activeEv.1 activeSa.1
          ⟨entry, next, slot, first, second, previous, entryEnd, activeEv.1, atNext,
            activeSa.1, two, at0, at1, atPrev, ⟨slot, activeSa.1, ends⟩, lt0, le1, began,
            reaches, nonempty⟩
    · have compared : Compared evProfileEntries scheduleEntries j k := by
        refine ⟨dropped, entryEnd, ⟨slot, activeSa.1, ends⟩, Nat.zero_le j, ?_⟩
        intro i earlier _ le atI
        exact .inl ((sortedEv.start_le atI activeEv.1 le).trans_lt startLt)
      by_contra exceeds
      exact within j k ⟨entry, slot, activeEv.1, activeSa.1, compared,
        PhysicalValue.calculatedValue_lt (not_le.mp exceeds)⟩

end Instants

/-! ## The check over all offered schedules -/

/-- A schedule as the SECC offers it: sorted slots, the last with a duration. -/
def WellFormedSchedule (scheduleEntries : List PMaxScheduleEntry) : Prop :=
  SortedBy slotStart scheduleEntries ∧
    ∀ slot, scheduleEntries.getLast? = some slot → slot.timeInterval.duration.isSome

/-- The offered schedules with the requested id. -/
def Selected (powerDeliveryReq : PowerDeliveryReq) (offeredSchedules : List SAScheduleTuple)
    (schedule : SAScheduleTuple) : Prop :=
  schedule ∈ offeredSchedules ∧
    schedule.saScheduleTupleId = powerDeliveryReq.saScheduleTupleId

/-- On sorted input the check finishes, and it says no exactly when a compared
pair of a selected schedule exceeds. -/
theorem isChargingProfileValid_eq {powerDeliveryReq : PowerDeliveryReq}
    {evProfile : ChargingProfile} (profile : powerDeliveryReq.chargingProfile = some evProfile)
    (sortedEv : SortedBy ProfileEntryDetails.start evProfile.profileEntries)
    (offeredSchedules : List SAScheduleTuple)
    (wellFormed : ∀ schedule, Selected powerDeliveryReq offeredSchedules schedule →
      WellFormedSchedule schedule.pMaxSchedule.scheduleEntries) :
    ∃ valid, isChargingProfileValid powerDeliveryReq offeredSchedules = .ok valid ∧
      (valid = false ↔ ∃ schedule, Selected powerDeliveryReq offeredSchedules schedule ∧
        ∃ j k, Exceeds evProfile.profileEntries schedule.pMaxSchedule.scheduleEntries j k) := by
  induction offeredSchedules with
  | nil => exact ⟨true, rfl, by simp [Selected]⟩
  | cons schedule offeredSchedules ih =>
      rcases ih fun other selected => wellFormed other
        ⟨List.mem_cons_of_mem _ selected.1, selected.2⟩ with ⟨valid, result, valid_iff⟩
      simp only [isChargingProfileValid, profile]
      by_cases chosen : schedule.saScheduleTupleId = powerDeliveryReq.saScheduleTupleId
      · rw [if_pos chosen]
        rcases wellFormed schedule ⟨List.mem_cons_self, chosen⟩ with ⟨sortedSa, lastDuration⟩
        rcases scanScheduleEntries_eq sortedEv sortedSa lastDuration
          schedule.pMaxSchedule.scheduleEntries 0 0 0 rfl
          (by intro _ _ j; simp [not_dropped_zero]) with ⟨here, scanned, here_iff⟩
        simp only [scanned, bind, Except.bind]
        cases here with
        | false =>
            rcases here_iff.mp rfl with ⟨k, j, _, exceeds⟩
            exact ⟨false, rfl, iff_of_true rfl
              ⟨schedule, ⟨List.mem_cons_self, chosen⟩, j, k, exceeds⟩⟩
        | true =>
            refine ⟨valid, result, valid_iff.trans ⟨?_, ?_⟩⟩
            · rintro ⟨other, ⟨mem, idEq⟩, exceeds⟩
              exact ⟨other, ⟨List.mem_cons_of_mem _ mem, idEq⟩, exceeds⟩
            · rintro ⟨other, ⟨mem, idEq⟩, j, k, exceeds⟩
              rcases List.mem_cons.mp mem with rfl | mem
              · exact absurd (here_iff.mpr ⟨k, j, Nat.zero_le k, exceeds⟩) (by simp)
              · exact ⟨other, ⟨mem, idEq⟩, j, k, exceeds⟩
      · rw [if_neg chosen]
        refine ⟨valid, result, valid_iff.trans ⟨?_, ?_⟩⟩
        · rintro ⟨other, ⟨mem, idEq⟩, exceeds⟩
          exact ⟨other, ⟨List.mem_cons_of_mem _ mem, idEq⟩, exceeds⟩
        · rintro ⟨other, ⟨mem, idEq⟩, exceeds⟩
          rcases List.mem_cons.mp mem with rfl | mem
          · exact absurd idEq chosen
          · exact ⟨other, ⟨mem, idEq⟩, exceeds⟩

/-- When the check bounds the EV's power. A profile that the check accepts
adheres to every selected schedule exactly when it is refused for a compared
pair, or every entry lost over the start of a slot stays within that slot. -/
theorem isChargingProfileValid_sound_iff {powerDeliveryReq : PowerDeliveryReq}
    {evProfile : ChargingProfile} (profile : powerDeliveryReq.chargingProfile = some evProfile)
    (sortedEv : SortedBy ProfileEntryDetails.start evProfile.profileEntries)
    (offeredSchedules : List SAScheduleTuple)
    (wellFormed : ∀ schedule, Selected powerDeliveryReq offeredSchedules schedule →
      WellFormedSchedule schedule.pMaxSchedule.scheduleEntries) :
    (isChargingProfileValid powerDeliveryReq offeredSchedules = .ok true →
      ∀ schedule, Selected powerDeliveryReq offeredSchedules schedule →
        Adheres evProfile.profileEntries schedule.pMaxSchedule.scheduleEntries) ↔
    (∃ schedule, Selected powerDeliveryReq offeredSchedules schedule ∧
      ∃ j k, Exceeds evProfile.profileEntries schedule.pMaxSchedule.scheduleEntries j k) ∨
    ∀ schedule, Selected powerDeliveryReq offeredSchedules schedule →
      LostWithin evProfile.profileEntries schedule.pMaxSchedule.scheduleEntries := by
  rcases isChargingProfileValid_eq profile sortedEv offeredSchedules wellFormed with
    ⟨valid, result, valid_iff⟩
  rw [result, ← valid_iff]
  cases valid with
  | false => simp
  | true =>
      have within (schedule : SAScheduleTuple)
          (selected : Selected powerDeliveryReq offeredSchedules schedule) (j k : Nat) :
          ¬Exceeds evProfile.profileEntries schedule.pMaxSchedule.scheduleEntries j k :=
        fun exceeds => absurd (valid_iff.mpr ⟨schedule, selected, j, k, exceeds⟩) (by simp)
      have adheres_iff (schedule : SAScheduleTuple)
          (selected : Selected powerDeliveryReq offeredSchedules schedule) :=
        adheres_iff_lostWithin sortedEv (wellFormed schedule selected).1
          (wellFormed schedule selected).2 (within schedule selected)
      simp only [Bool.true_eq_false, false_or, true_implies]
      exact forall_congr' fun schedule => imp_congr_right (adheres_iff schedule)

/-! ## An entry lost over a slot boundary -/

/-- A power in watts with multiplier zero. -/
def wattsEntry (start value : Int)
    (range : int16Min ≤ value ∧ value ≤ int16Max := by decide) : ProfileEntryDetails :=
  ⟨start, value, 0, range, multiplier_zero⟩

/-- Ten-second slots of 100 W, 100 W and 50 W. -/
def threeSlots : List PMaxScheduleEntry :=
  [⟨(wattsEntry 0 100 int16_hundred).maxPower, 0, none, RelativeTimeInterval.start_zero,
      RelativeTimeInterval.duration_none⟩,
    ⟨(wattsEntry 10 100 int16_hundred).maxPower, 10, none, RelativeTimeInterval.start_ten,
      RelativeTimeInterval.duration_none⟩,
    ⟨(wattsEntry 20 50).maxPower, 20, some 10, by decide, RelativeTimeInterval.duration_ten⟩]

/-- 80 W from second 10 to second 25. -/
def straddlingProfile : List ProfileEntryDetails :=
  [wattsEntry 0 10 int16_ten, wattsEntry 10 80, wattsEntry 25 10 int16_ten]

def straddlingReq : PowerDeliveryReq where
  chargeProgress := .start
  saScheduleTupleId := 1
  chargingProfile := some ⟨straddlingProfile⟩
  dcEvPowerDeliveryParameter := none

theorem threeSlots_wellFormed : WellFormedSchedule threeSlots := by
  refine ⟨by unfold SortedBy; decide, ?_⟩
  intro slot atLast
  cases atLast
  rfl

theorem straddlingProfile_sorted :
    SortedBy ProfileEntryDetails.start straddlingProfile := by
  unfold SortedBy
  decide

/-- The check accepts 80 W over a slot boundary into 50 W. -/
theorem isChargingProfileValid_accepts_straddling :
    isChargingProfileValid straddlingReq [⟨1, ⟨threeSlots⟩⟩] = .ok true ∧
      ¬Adheres straddlingProfile threeSlots := by
  refine ⟨by decide +kernel, ?_⟩
  intro adheres
  have below := adheres 20 1 2 (wattsEntry 10 80)
    ⟨(wattsEntry 20 50).maxPower, 20, some 10, by decide, by decide⟩
    ⟨30, ⟨_, rfl, rfl⟩, by norm_num⟩ ?_ ?_
  · revert below
    decide +kernel
  · refine (activeAt_iff_next (profileInstant_sorted straddlingProfile_sorted)).mpr
      ⟨rfl, by norm_num [profileInstant, wattsEntry], ?_⟩
    intro next atNext
    cases atNext
    norm_num [profileInstant, wattsEntry]
  · refine (activeAt_iff_next (slotInstant_sorted threeSlots_wellFormed.1)).mpr
      ⟨rfl, by norm_num [slotInstant, slotStart], ?_⟩
    intro next atNext
    cases atNext

theorem isChargingProfileValid_sound_iff_straddling :
    (isChargingProfileValid straddlingReq [⟨1, ⟨threeSlots⟩⟩] = .ok true →
      ∀ schedule, Selected straddlingReq [⟨1, ⟨threeSlots⟩⟩] schedule →
        Adheres straddlingProfile schedule.pMaxSchedule.scheduleEntries) ↔
    (∃ schedule, Selected straddlingReq [⟨1, ⟨threeSlots⟩⟩] schedule ∧
      ∃ j k, Exceeds straddlingProfile schedule.pMaxSchedule.scheduleEntries j k) ∨
    ∀ schedule, Selected straddlingReq [⟨1, ⟨threeSlots⟩⟩] schedule →
      LostWithin straddlingProfile schedule.pMaxSchedule.scheduleEntries := by
  have profile : straddlingReq.chargingProfile = some ⟨straddlingProfile⟩ := rfl
  refine isChargingProfileValid_sound_iff profile straddlingProfile_sorted _ ?_
  rintro schedule ⟨mem, _⟩
  rw [List.mem_singleton.mp mem]
  exact threeSlots_wellFormed

end Iso15118.Secc.V2
