import Iso15118.Library.Effect
import Iso15118.Secc.V2.ChargingProfile

/-!
# Charging profiles that are refused

`_is_charging_profile_valid` compares some entries of a profile with slots that they
do not overlap: the final entry with every slot, entries that have ended with the
first slot, and entries or slots without any length. A profile that adheres to the
schedule is refused when it exceeds such a slot, or when it asks for exactly what a slot
allows and its float is the larger one.
-/

namespace Iso15118.Secc.V2

open Iso15118.Shared
open Iso15118.Shared.V2
open StepFunction

/-! ## Pairs that do not overlap -/

/-- Profile entry `j` and slot `k` share no instant: the entry begins when the slot has
ended, or it has ended when the slot begins, or one of the two has no length. -/
def Apart (evProfileEntries : List ProfileEntryDetails)
    (scheduleEntries : List PMaxScheduleEntry) (j k : Nat) : Prop :=
  ∃ entry slot entryEnd, evProfileEntries[j]? = some entry ∧ scheduleEntries[k]? = some slot ∧
    SlotEnd scheduleEntries k entryEnd ∧
    (entryEnd ≤ entry.start ∨ entryEnd ≤ slotStart slot ∨
      ∃ next, evProfileEntries[j + 1]? = some next ∧
        (next.start ≤ slotStart slot ∨ next.start ≤ entry.start))

/-- Every entry stays within the slots that it is compared with without overlapping
them. -/
def ApartWithin (evProfileEntries : List ProfileEntryDetails)
    (scheduleEntries : List PMaxScheduleEntry) : Prop :=
  ∀ j k entry slot, evProfileEntries[j]? = some entry → scheduleEntries[k]? = some slot →
    Compared evProfileEntries scheduleEntries j k → Apart evProfileEntries scheduleEntries j k →
    entry.maxPower.getDecimalValue ≤ slot.pMax.getDecimalValue

/-- Every entry that asks for exactly the power of a slot that it is compared with is not
above it as a float. -/
def EqualWithin (evProfileEntries : List ProfileEntryDetails)
    (scheduleEntries : List PMaxScheduleEntry) : Prop :=
  ∀ j k entry slot, evProfileEntries[j]? = some entry → scheduleEntries[k]? = some slot →
    Compared evProfileEntries scheduleEntries j k →
    entry.maxPower.getDecimalValue = slot.pMax.getDecimalValue →
    entry.maxPower.calculatedValue ≤ slot.pMax.calculatedValue

section Instants

variable {evProfileEntries : List ProfileEntryDetails}
  {scheduleEntries : List PMaxScheduleEntry}

/-- Of a profile that adheres to the schedule an entry is compared with a lower slot only if
the two are apart. -/
theorem apart_of_compared (sortedEv : SortedBy ProfileEntryDetails.start evProfileEntries)
    (sortedSa : SortedBy slotStart scheduleEntries)
    (lastDuration : ∀ slot, scheduleEntries.getLast? = some slot →
      slot.timeInterval.duration.isSome)
    (adheres : Adheres evProfileEntries scheduleEntries) {j k : Nat}
    {entry : ProfileEntryDetails} {slot : PMaxScheduleEntry}
    (atJ : evProfileEntries[j]? = some entry) (atK : scheduleEntries[k]? = some slot)
    (compared : Compared evProfileEntries scheduleEntries j k)
    (greater : slot.pMax.getDecimalValue < entry.maxPower.getDecimalValue) :
    Apart evProfileEntries scheduleEntries j k := by
  obtain ⟨_, entryEnd, ⟨slot', atK', ends⟩, _⟩ := compared
  rw [atK] at atK'
  cases atK'
  by_contra overlap
  have beganBefore : entry.start < entryEnd := by
    by_contra later
    exact overlap ⟨entry, slot, entryEnd, atJ, atK, ⟨slot, atK, ends⟩, .inl (not_lt.mp later)⟩
  have nonempty : slotStart slot < entryEnd := by
    by_contra empty
    exact overlap ⟨entry, slot, entryEnd, atJ, atK, ⟨slot, atK, ends⟩,
      .inr (.inl (not_lt.mp empty))⟩
  have goesOn : ∀ next, evProfileEntries[j + 1]? = some next →
      max entry.start (slotStart slot) < next.start := by
    intro next atNext
    by_contra ended
    rcases le_max_iff.mp (not_lt.mp ended) with noLength | before
    · exact overlap ⟨entry, slot, entryEnd, atJ, atK, ⟨slot, atK, ends⟩,
        .inr (.inr ⟨next, atNext, .inr noLength⟩)⟩
    · exact overlap ⟨entry, slot, entryEnd, atJ, atK, ⟨slot, atK, ends⟩,
        .inr (.inr ⟨next, atNext, .inl before⟩)⟩
  -- the later of the two starts is an instant of both
  have within := adheres ((max entry.start (slotStart slot) : Int) : ℚ) j k entry slot
    (beforeHorizon_of_lt_slotEnd sortedSa lastDuration atK ends
      (Int.cast_lt.mpr (max_lt beganBefore nonempty)))
    ((activeAt_iff_next (profileInstant_sorted sortedEv)).mpr
      ⟨atJ, Int.cast_le.mpr (le_max_left _ _), fun next atNext =>
        Int.cast_lt.mpr (goesOn next atNext)⟩)
    ((activeAt_iff_next (slotInstant_sorted sortedSa)).mpr
      ⟨atK, Int.cast_le.mpr (le_max_right _ _), ?_⟩)
  · exact absurd within (not_le.mpr greater)
  · intro next atNext
    rw [List.drop_eq_getElem?_toList_append, atNext] at ends
    cases ends
    exact Int.cast_lt.mpr (max_lt beganBefore nonempty)

end Instants

/-! ## The check over all offered schedules -/

/-- A schedule whose last slot has no end is never found valid. -/
theorem lastDuration_of_scanScheduleEntries {evProfileEntries : List ProfileEntryDetails}
    (scheduleEntries : List PMaxScheduleEntry) :
    ∀ cached running,
      scanScheduleEntries evProfileEntries scheduleEntries cached running = .ok true →
      ∀ slot, scheduleEntries.getLast? = some slot → slot.timeInterval.duration.isSome := by
  induction scheduleEntries with
  | nil =>
      intro _ _ _ slot last
      cases last
  | cons entry rest ih =>
      intro cached running valid slot last
      simp only [scanScheduleEntries, Effect.bind_eq_ok_iff] at valid
      obtain ⟨entryEnd, ends, outcome, _, valid⟩ := valid
      cases outcome with
      | none => cases valid
      | some running' =>
          cases rest with
          | nil =>
              cases last
              unfold saProfileEntryEnd at ends
              cases present : entry.timeInterval.duration with
              | none =>
                  rw [present] at ends
                  cases ends
              | some duration =>
                  change entry.timeInterval.duration.isSome = true
                  rw [present]
                  rfl
          | cons next others => exact ih _ _ valid slot last

/-- The slots of a selected schedule are sorted, whether or not they have an end. -/
def SortedSelection (powerDeliveryReq : PowerDeliveryReq)
    (offeredSchedules : List SAScheduleTuple) : Prop :=
  ∀ schedule, Selected powerDeliveryReq offeredSchedules schedule →
    SortedBy slotStart schedule.pMaxSchedule.scheduleEntries

/-- A valid check has found the end of every selected schedule. -/
theorem lastDuration_of_isChargingProfileValid {powerDeliveryReq : PowerDeliveryReq}
    {offeredSchedules : List SAScheduleTuple}
    (valid : isChargingProfileValid powerDeliveryReq offeredSchedules = .ok true)
    {schedule : SAScheduleTuple} (selected : Selected powerDeliveryReq offeredSchedules schedule)
    (slot : PMaxScheduleEntry)
    (last : schedule.pMaxSchedule.scheduleEntries.getLast? = some slot) :
    slot.timeInterval.duration.isSome := by
  induction offeredSchedules with
  | nil => cases selected.1
  | cons other offeredSchedules ih =>
      unfold isChargingProfileValid at valid
      split at valid
      next chosen =>
        split at valid
        next => cases valid
        next evProfile profile =>
          obtain ⟨here, scanned, valid⟩ := Effect.bind_eq_ok_iff.mp valid
          cases here with
          | false => cases valid
          | true =>
              rcases List.mem_cons.mp selected.1 with rfl | mem
              · exact lastDuration_of_scanScheduleEntries _ _ _ scanned slot last
              · exact ih valid ⟨mem, selected.2⟩
      next unchosen =>
        rcases List.mem_cons.mp selected.1 with rfl | mem
        · exact absurd selected.2 unchosen
        · exact ih valid ⟨mem, selected.2⟩

/-- When a profile that adheres to every selected schedule is found valid: every selected
schedule has an end, the entries that are compared with slots apart from them stay within
those as well, and no float of an entry is above that of a slot of the same power. -/
theorem isChargingProfileValid_complete_iff {powerDeliveryReq : PowerDeliveryReq}
    {evProfile : ChargingProfile} (profile : powerDeliveryReq.chargingProfile = some evProfile)
    (sortedEv : SortedBy ProfileEntryDetails.start evProfile.profileEntries)
    (offeredSchedules : List SAScheduleTuple)
    (sortedSa : SortedSelection powerDeliveryReq offeredSchedules) :
    ((∀ schedule, Selected powerDeliveryReq offeredSchedules schedule →
        Adheres evProfile.profileEntries schedule.pMaxSchedule.scheduleEntries) →
      isChargingProfileValid powerDeliveryReq offeredSchedules = .ok true) ↔
    (∃ schedule, Selected powerDeliveryReq offeredSchedules schedule ∧
      ¬Adheres evProfile.profileEntries schedule.pMaxSchedule.scheduleEntries) ∨
    ∀ schedule, Selected powerDeliveryReq offeredSchedules schedule →
      (∀ slot, schedule.pMaxSchedule.scheduleEntries.getLast? = some slot →
        slot.timeInterval.duration.isSome) ∧
      ApartWithin evProfile.profileEntries schedule.pMaxSchedule.scheduleEntries ∧
      EqualWithin evProfile.profileEntries schedule.pMaxSchedule.scheduleEntries := by
  by_cases adheres : ∀ schedule, Selected powerDeliveryReq offeredSchedules schedule →
      Adheres evProfile.profileEntries schedule.pMaxSchedule.scheduleEntries
  · have none : ¬∃ schedule, Selected powerDeliveryReq offeredSchedules schedule ∧
        ¬Adheres evProfile.profileEntries schedule.pMaxSchedule.scheduleEntries := by
      rintro ⟨schedule, selected, exceeds⟩
      exact exceeds (adheres schedule selected)
    rw [or_iff_right none]
    constructor
    · intro complete schedule selected
      have valid := complete adheres
      have wellFormed : ∀ schedule, Selected powerDeliveryReq offeredSchedules schedule →
          WellFormedSchedule schedule.pMaxSchedule.scheduleEntries :=
        fun schedule selected => ⟨sortedSa schedule selected,
          lastDuration_of_isChargingProfileValid valid selected⟩
      have never (j k : Nat) :
          ¬Exceeds evProfile.profileEntries schedule.pMaxSchedule.scheduleEntries j k := by
        intro exceeds
        obtain ⟨_, result, valid_iff⟩ :=
          isChargingProfileValid_eq profile sortedEv offeredSchedules wellFormed
        cases valid.symm.trans result
        cases valid_iff.mpr ⟨schedule, selected, j, k, exceeds⟩
      refine ⟨(wellFormed schedule selected).2, ?_, ?_⟩
      · intro j k entry slot atJ atK compared _
        by_contra greater
        exact never j k ⟨entry, slot, atJ, atK, compared,
          PhysicalValue.calculatedValue_lt (not_le.mp greater)⟩
      · intro j k entry slot atJ atK compared _
        by_contra greater
        exact never j k ⟨entry, slot, atJ, atK, compared, not_le.mp greater⟩
    · intro within _
      have wellFormed : ∀ schedule, Selected powerDeliveryReq offeredSchedules schedule →
          WellFormedSchedule schedule.pMaxSchedule.scheduleEntries :=
        fun schedule selected => ⟨sortedSa schedule selected, (within schedule selected).1⟩
      obtain ⟨valid, result, valid_iff⟩ :=
        isChargingProfileValid_eq profile sortedEv offeredSchedules wellFormed
      cases valid with
      | true => exact result
      | false =>
          obtain ⟨schedule, selected, j, k, entry, slot, atJ, atK, compared, greater⟩ :=
            valid_iff.mp rfl
          obtain ⟨lastDuration, apartWithin, equalWithin⟩ := within schedule selected
          rcases le_or_gt entry.maxPower.getDecimalValue slot.pMax.getDecimalValue with
            stays | above
          · have same := PhysicalValue.eq_of_calculatedValue_lt stays greater
            exact absurd (equalWithin j k entry slot atJ atK compared same) (not_le.mpr greater)
          · have apart := apart_of_compared sortedEv (sortedSa schedule selected) lastDuration
              (adheres schedule selected) atJ atK compared above
            exact absurd (apartWithin j k entry slot atJ atK compared apart) (not_le.mpr above)
  · constructor
    · intro _
      left
      push Not at adheres
      exact adheres
    · intro _ all
      exact absurd all adheres

/-! ## A profile that follows a rising schedule -/

/-- Ten-second slots of 10 W and 20 W. -/
def risingSlots : List PMaxScheduleEntry :=
  [⟨(wattsEntry 0 10 int16_ten).maxPower, 0, none, RelativeTimeInterval.start_zero,
      RelativeTimeInterval.duration_none⟩,
    ⟨(wattsEntry 10 20 int16_twenty).maxPower, 10, some 10, RelativeTimeInterval.start_ten,
      RelativeTimeInterval.duration_ten⟩]

/-- The power of the slots, from the start of each. -/
def risingProfile : List ProfileEntryDetails :=
  [wattsEntry 0 10 int16_ten, wattsEntry 10 20 int16_twenty]

def risingReq : PowerDeliveryReq where
  chargeProgress := .start
  saScheduleTupleId := 1
  chargingProfile := some ⟨risingProfile⟩
  dcEvPowerDeliveryParameter := none

theorem risingSlots_wellFormed : WellFormedSchedule risingSlots := by
  refine ⟨by unfold SortedBy; decide, ?_⟩
  rintro slot ⟨⟩
  rfl

theorem risingProfile_sorted : SortedBy ProfileEntryDetails.start risingProfile := by
  unfold SortedBy
  decide

/-- 20 W are only drawn when 20 W are allowed. -/
theorem risingProfile_adheres : Adheres risingProfile risingSlots := by
  intro time j k entry slot _ activeEv activeSa
  rcases j with _ | _ | j
  · cases activeEv.1
    rcases k with _ | _ | k
    · cases activeSa.1
      decide +kernel
    · cases activeSa.1
      decide +kernel
    · cases activeSa.1
  · cases activeEv.1
    rcases k with _ | _ | k
    · have before := activeSa.2.2 1 _ Nat.zero_lt_one rfl
      exact absurd activeEv.2.1 (not_le.mpr before)
    · cases activeSa.1
      decide +kernel
    · cases activeSa.1
  · cases activeEv.1

/-- The check compares the final entry with the first slot. -/
theorem isChargingProfileValid_refuses_rising :
    WellFormedSchedule risingSlots ∧ SortedBy ProfileEntryDetails.start risingProfile ∧
      Adheres risingProfile risingSlots ∧
      isChargingProfileValid risingReq [⟨1, ⟨risingSlots⟩⟩] = .ok false :=
  ⟨risingSlots_wellFormed, risingProfile_sorted, risingProfile_adheres, by decide +kernel⟩

theorem isChargingProfileValid_complete_iff_rising :
    ((∀ schedule, Selected risingReq [⟨1, ⟨risingSlots⟩⟩] schedule →
        Adheres risingProfile schedule.pMaxSchedule.scheduleEntries) →
      isChargingProfileValid risingReq [⟨1, ⟨risingSlots⟩⟩] = .ok true) ↔
    (∃ schedule, Selected risingReq [⟨1, ⟨risingSlots⟩⟩] schedule ∧
      ¬Adheres risingProfile schedule.pMaxSchedule.scheduleEntries) ∨
    ∀ schedule, Selected risingReq [⟨1, ⟨risingSlots⟩⟩] schedule →
      (∀ slot, schedule.pMaxSchedule.scheduleEntries.getLast? = some slot →
        slot.timeInterval.duration.isSome) ∧
      ApartWithin risingProfile schedule.pMaxSchedule.scheduleEntries ∧
      EqualWithin risingProfile schedule.pMaxSchedule.scheduleEntries := by
  have profile : risingReq.chargingProfile = some ⟨risingProfile⟩ := rfl
  refine isChargingProfileValid_complete_iff profile risingProfile_sorted _ ?_
  rintro schedule ⟨mem, _⟩
  rw [List.mem_singleton.mp mem]
  exact risingSlots_wellFormed.1

end Iso15118.Secc.V2
