import Iso15118.Evcc.Controller.Simulator
import Iso15118.Secc.V2.ProfileCompleteness

/-!
# The charging profile of the simulated EV

The EV of the simulator asks for the PMax of each slot of the schedule that it has
chosen, and for nothing when a slot has ended. The check of the SECC compares no slot
with the power of another one, unless the two start together.
-/

namespace Iso15118

open Shared Shared.V2 StepFunction
open Evcc.RealBatterySimulator Secc.V2

/-! ## The profile -/

/-- The profile entries of a slot have started when a later slot starts. -/
def Precedes (slot later : PMaxScheduleEntry) : Prop :=
  ∀ entry ∈ profileEntries slot, entry.start ≤ slotStart later

/-- A slot does not last beyond the start of the next one. -/
def EndsBefore (slot next : PMaxScheduleEntry) : Prop :=
  ∀ duration, slot.timeInterval.duration = some duration →
    slotStart slot + duration ≤ slotStart next

/-- The power of the slot. -/
def slotEntry (slot : PMaxScheduleEntry) : ProfileEntryDetails :=
  ⟨slotStart slot, slot.pMax⟩

theorem mem_profileEntries {slot : PMaxScheduleEntry} {entry : ProfileEntryDetails}
    (listed : entry ∈ profileEntries slot) :
    entry = slotEntry slot ∨ ∃ duration, slot.timeInterval.duration = some duration ∧
      entry = ⟨slotStart slot + duration, zeroWatts⟩ := by
  unfold profileEntries at listed
  rcases List.mem_cons.mp listed with rfl | ended
  · exact .inl rfl
  · right
    split at ended
    next duration present =>
      split at ended
      · exact ⟨duration, present, List.mem_singleton.mp ended⟩
      · cases ended
    next => cases ended

/-- The entries of a slot do not start before it. -/
theorem slotStart_le_of_mem {slot : PMaxScheduleEntry} {entry : ProfileEntryDetails}
    (listed : entry ∈ profileEntries slot) : slotStart slot ≤ entry.start := by
  rcases mem_profileEntries listed with rfl | ⟨duration, present, rfl⟩
  · exact le_rfl
  · have nonneg := (slot.timeInterval.duration_range duration present).1
    change slotStart slot ≤ slotStart slot + duration
    omega

theorem precedes_of_endsBefore {slot later : PMaxScheduleEntry}
    (sorted : slotStart slot ≤ slotStart later) (ends : EndsBefore slot later) :
    Precedes slot later := by
  intro entry listed
  rcases mem_profileEntries listed with rfl | ⟨duration, present, rfl⟩
  · exact sorted
  · exact ends duration present

/-- Slots that end before the next one precede all later ones. -/
theorem pairwise_precedes {slots : List PMaxScheduleEntry} (sorted : SortedBy slotStart slots)
    (ends : slots.IsChain EndsBefore) : slots.Pairwise Precedes := by
  induction slots with
  | nil => exact .nil
  | cons slot rest ih =>
      obtain ⟨first, sorted⟩ := List.pairwise_cons.mp sorted
      cases rest with
      | nil => exact List.pairwise_singleton _ _
      | cons next others =>
          obtain ⟨before, ends⟩ := List.isChain_cons_cons.mp ends
          refine List.pairwise_cons.mpr ⟨?_, ih sorted ends⟩
          intro later listed entry made
          have toNext := precedes_of_endsBefore (first next List.mem_cons_self) before entry made
          rcases List.mem_cons.mp listed with rfl | later
          · exact toNext
          · exact toNext.trans ((List.pairwise_cons.mp sorted).1 _ later)

theorem profileEntries_sorted (slot : PMaxScheduleEntry) :
    SortedBy ProfileEntryDetails.start (profileEntries slot) := by
  unfold profileEntries
  refine List.pairwise_cons.mpr ⟨?_, ?_⟩
  · intro entry ended
    exact slotStart_le_of_mem (List.mem_cons_of_mem _ ended)
  · split
    · split
      · exact List.pairwise_singleton _ _
      · exact .nil
    · exact .nil

theorem profile_sorted {slots : List PMaxScheduleEntry} (precede : slots.Pairwise Precedes) :
    SortedBy ProfileEntryDetails.start (slots.flatMap profileEntries) := by
  induction slots with
  | nil => exact .nil
  | cons slot rest ih =>
      obtain ⟨first, precede⟩ := List.pairwise_cons.mp precede
      rw [List.flatMap_cons]
      refine List.pairwise_append.mpr ⟨?_, ih precede, ?_⟩
      · exact profileEntries_sorted slot
      · intro earlier made later listed
        obtain ⟨slot', mem, made'⟩ := List.mem_flatMap.mp listed
        exact (first slot' mem earlier made).trans (slotStart_le_of_mem made')

/-- An entry of the profile asks for nothing, or it is that of a slot and followed by an
entry that has started when the next slot starts. -/
def StandsFor (slots : List PMaxScheduleEntry) (j : Nat) (entry : ProfileEntryDetails) : Prop :=
  entry.maxPower = zeroWatts ∨
    ∃ i slot, slots[i]? = some slot ∧ entry = slotEntry slot ∧
      ∀ next, slots[i + 1]? = some next →
        ∃ after, (slots.flatMap profileEntries)[j + 1]? = some after ∧
          after.start ≤ slotStart next

/-- The entries of later slots are moved by those of a slot in front. -/
theorem StandsFor.shift {slot : PMaxScheduleEntry} {rest : List PMaxScheduleEntry} {j : Nat}
    {entry : ProfileEntryDetails} (stands : StandsFor rest j entry) :
    StandsFor (slot :: rest) ((profileEntries slot).length + j) entry := by
  rcases stands with idle | ⟨i, own, atI, same, followed⟩
  · exact .inl idle
  · refine .inr ⟨i + 1, own, atI, same, ?_⟩
    intro next atNext
    obtain ⟨after, atAfter, le⟩ := followed next atNext
    refine ⟨after, ?_, le⟩
    rw [List.flatMap_cons, List.getElem?_append_right (by omega), ← atAfter]
    congr 1
    omega

theorem standsFor_of_getElem? {slots : List PMaxScheduleEntry}
    (precede : slots.Pairwise Precedes) {j : Nat} {entry : ProfileEntryDetails}
    (atJ : (slots.flatMap profileEntries)[j]? = some entry) : StandsFor slots j entry := by
  induction slots generalizing j with
  | nil => cases atJ
  | cons slot rest ih =>
      obtain ⟨first, precede⟩ := List.pairwise_cons.mp precede
      rw [List.flatMap_cons] at atJ
      by_cases own : j < (profileEntries slot).length
      · rw [List.getElem?_append_left own] at atJ
        cases j with
        | succ j =>
            -- behind the first entry there is at most the one that ends the slot
            left
            unfold profileEntries at atJ
            rw [List.getElem?_cons_succ] at atJ
            split at atJ
            · split at atJ
              · cases List.mem_singleton.mp (List.mem_of_getElem? atJ)
                rfl
              · cases atJ
            · cases atJ
        | zero =>
            cases atJ
            refine .inr ⟨0, slot, rfl, rfl, ?_⟩
            intro next atNext
            rw [List.getElem?_cons_succ] at atNext
            obtain ⟨others, rfl⟩ : ∃ others, rest = next :: others := by
              cases rest with
              | nil => cases atNext
              | cons head others =>
                  cases atNext
                  exact ⟨others, rfl⟩
            rw [List.flatMap_cons]
            by_cases more : 1 < (profileEntries slot).length
            · have atOne := List.getElem?_eq_getElem more
              refine ⟨_, (List.getElem?_append_left more).trans atOne, ?_⟩
              exact first next List.mem_cons_self _ (List.mem_of_getElem? atOne)
            · refine ⟨slotEntry next, ?_, le_rfl⟩
              have one : (profileEntries slot).length = 1 := by omega
              rw [List.getElem?_append_right (by omega), one]
              rfl
      · rw [List.getElem?_append_right (not_lt.mp own)] at atJ
        have shifted : StandsFor (slot :: rest) _ entry := (ih precede atJ).shift
        rwa [Nat.add_sub_cancel' (not_lt.mp own)] at shifted

/-- Every slot has started before the profile ends, if the last one lasts. -/
theorem slotStart_lt_last {slots : List PMaxScheduleEntry} (sorted : SortedBy slotStart slots)
    (lasts : ∀ slot, slots.getLast? = some slot →
      ∃ duration, slot.timeInterval.duration = some duration ∧ 0 < duration)
    {last : ProfileEntryDetails} (atLast : (slots.flatMap profileEntries).getLast? = some last)
    {slot : PMaxScheduleEntry} (listed : slot ∈ slots) : slotStart slot < last.start := by
  rcases List.eq_nil_or_concat slots with rfl | ⟨earlier, final, rfl⟩
  · cases listed
  · rw [List.concat_eq_append] at *
    obtain ⟨duration, present, positive⟩ := lasts final List.getLast?_concat
    have ended : last = ⟨slotStart final + duration, zeroWatts⟩ := by
      have entries : profileEntries final =
          [slotEntry final] ++ [⟨slotStart final + duration, zeroWatts⟩] := by
        unfold profileEntries
        rw [present]
        dsimp only
        rw [if_pos positive.ne']
        rfl
      rw [List.flatMap_append, List.flatMap_singleton, entries, ← List.append_assoc,
        List.getLast?_concat] at atLast
      exact (Option.some.inj atLast).symm
    have toFinal : slotStart slot ≤ slotStart final := by
      rcases List.mem_append.mp listed with before | final'
      · exact (List.pairwise_append.mp sorted).2.2 slot before final List.mem_cons_self
      · rw [List.mem_singleton.mp final']
    rw [ended]
    change slotStart slot < slotStart final + duration
    omega

/-- What the chosen schedule has to be like. -/
structure Conforming (slots : List PMaxScheduleEntry) : Prop where
  sorted : SortedBy slotStart slots
  nonneg : ∀ slot ∈ slots, 0 ≤ slot.pMax.getDecimalValue
  lasts : ∀ slot, slots.getLast? = some slot →
    ∃ duration, slot.timeInterval.duration = some duration ∧ 0 < duration
  ends : slots.IsChain EndsBefore
  short : (slots.flatMap profileEntries).length ≤ 24

/-- Of slots that start together a later one allows at least as much, as floats. -/
def TiesRise (slots : List PMaxScheduleEntry) : Prop :=
  slots.Pairwise fun earlier later => slotStart earlier = slotStart later →
    earlier.pMax.calculatedValue ≤ later.pMax.calculatedValue

/-- No slot is compared with more power than it allows. -/
theorem not_exceeds {slots : List PMaxScheduleEntry} (conforming : Conforming slots)
    (ties : TiesRise slots) (j k : Nat) : ¬Exceeds (slots.flatMap profileEntries) slots j k := by
  rintro ⟨entry, slot, atJ, atK, ⟨notDropped, entryEnd, ⟨slot', atK', ends⟩, _, reached⟩, greater⟩
  rw [atK] at atK'
  cases atK'
  have precede := pairwise_precedes conforming.sorted conforming.ends
  rcases standsFor_of_getElem? precede atJ with idle | ⟨i, own, atI, rfl, followed⟩
  · have nonneg := PhysicalValue.calculatedValue_nonneg
      (conforming.nonneg slot (List.mem_of_getElem? atK))
    rw [idle] at greater
    have zero : zeroWatts.calculatedValue = 0 := by decide +kernel
    rw [zero] at greater
    exact absurd nonneg (not_le.mpr greater)
  · have notLast : ¬IsLastEvProfile (slots.flatMap profileEntries) (slotEntry own) := by
      rintro ⟨last, atLast, same⟩
      have later := slotStart_lt_last conforming.sorted conforming.lasts atLast
        (List.mem_of_getElem? atI)
      exact absurd same (ne_of_lt later)
    have started : slotStart own < entryEnd :=
      (reached j _ (Nat.zero_le j) le_rfl atJ).resolve_right notLast
    have notLater : i ≤ k := by
      by_contra later
      have bound := (List.getElem?_eq_some_iff.mp atI).1
      have atNext := List.getElem?_eq_getElem (l := slots) (i := k + 1) (by omega)
      rw [List.drop_eq_getElem?_toList_append, atNext] at ends
      have after := conforming.sorted.start_le atNext atI (by omega)
      exact absurd started (not_lt.mpr ((Except.ok.inj ends).symm.le.trans after))
    rcases Nat.lt_or_eq_of_le notLater with earlier | rfl
    · have order := conforming.sorted.start_le atI atK notLater
      rcases lt_or_eq_of_le order with before | together
      · have bound := (List.getElem?_eq_some_iff.mp atK).1
        have atNext := List.getElem?_eq_getElem (l := slots) (i := i + 1) (by omega)
        obtain ⟨after, atAfter, afterLe⟩ := followed _ atNext
        have ended := afterLe.trans (conforming.sorted.start_le atNext atK (by omega))
        exact notDropped ⟨slotEntry own, after, slot, atJ, atAfter, atK, by omega, notLast,
          before, .inl ended⟩
      · obtain ⟨boundI, sameI⟩ := List.getElem?_eq_some_iff.mp atI
        obtain ⟨boundK, sameK⟩ := List.getElem?_eq_some_iff.mp atK
        have rises := List.pairwise_iff_getElem.mp ties i k boundI boundK earlier
        rw [sameI, sameK] at rises
        exact absurd (rises together) (not_le.mpr greater)
    · rw [atI] at atK
      cases atK
      exact lt_irrefl _ greater

/-! ## Agreement -/

/-- The schedules with the id of the chosen one are the same as it. -/
def SameById (saSchedules : List SAScheduleTuple) (chosen : SAScheduleTuple) : Prop :=
  ∀ schedule ∈ saSchedules, schedule.saScheduleTupleId = chosen.saScheduleTupleId →
    schedule.pMaxSchedule = chosen.pMaxSchedule

/-- The SECC accepts the profile that the EV builds for the schedule that it has chosen. -/
def AgreeOnProfile (saSchedules : List SAScheduleTuple) : Prop :=
  ∃ saScheduleTupleId profile,
    processSaSchedulesV2 saSchedules = .ok (.start, saScheduleTupleId, profile) ∧
    ∀ powerDeliveryReq : PowerDeliveryReq,
      powerDeliveryReq.saScheduleTupleId = saScheduleTupleId →
      powerDeliveryReq.chargingProfile = some profile →
      isChargingProfileValid powerDeliveryReq saSchedules = .ok true

theorem processSaSchedulesV2_eq {saSchedules : List SAScheduleTuple} {chosen : SAScheduleTuple}
    (last : saSchedules.getLast? = some chosen)
    (short : (chosen.pMaxSchedule.scheduleEntries.flatMap profileEntries).length ≤ 24) :
    processSaSchedulesV2 saSchedules = .ok (.start, chosen.saScheduleTupleId,
      ⟨chosen.pMaxSchedule.scheduleEntries.flatMap profileEntries⟩) := by
  unfold processSaSchedulesV2 chargingProfile
  rw [last]
  dsimp only
  rw [if_pos short]
  rfl

/-- The EV and the SECC agree on a conforming schedule, if slots that start together do not
fall and if its id stands for one schedule. -/
theorem chargingProfile_accepted {saSchedules : List SAScheduleTuple}
    {chosen : SAScheduleTuple} (last : saSchedules.getLast? = some chosen)
    (conforming : Conforming chosen.pMaxSchedule.scheduleEntries)
    (ties : TiesRise chosen.pMaxSchedule.scheduleEntries)
    (sameById : SameById saSchedules chosen) : AgreeOnProfile saSchedules := by
  refine ⟨_, _, processSaSchedulesV2_eq last conforming.short, ?_⟩
  intro powerDeliveryReq chosenId profile
  have entries : ∀ schedule, Selected powerDeliveryReq saSchedules schedule →
      schedule.pMaxSchedule = chosen.pMaxSchedule :=
    fun schedule selected => sameById schedule selected.1 (selected.2.trans chosenId)
  have sorted := profile_sorted (pairwise_precedes conforming.sorted conforming.ends)
  have wellFormed : ∀ schedule, Selected powerDeliveryReq saSchedules schedule →
      WellFormedSchedule schedule.pMaxSchedule.scheduleEntries := by
    intro schedule selected
    rw [entries schedule selected]
    refine ⟨conforming.sorted, fun slot atLast => ?_⟩
    obtain ⟨duration, present, _⟩ := conforming.lasts slot atLast
    rw [present]
    rfl
  obtain ⟨valid, result, valid_iff⟩ :=
    isChargingProfileValid_eq profile sorted saSchedules wellFormed
  cases valid with
  | true => exact result
  | false =>
      obtain ⟨schedule, selected, j, k, exceeds⟩ := valid_iff.mp rfl
      rw [entries schedule selected] at exceeds
      exact absurd exceeds (not_exceeds conforming ties j k)

/-! ## Schedules without agreement -/

/-- A slot of 20 W without any length, and one of 10 W. -/
def fallingTie : SAScheduleTuple :=
  ⟨1, ⟨[⟨(wattsEntry 0 20 int16_twenty).maxPower, 0, none, RelativeTimeInterval.start_zero,
        RelativeTimeInterval.duration_none⟩,
    ⟨(wattsEntry 0 10 int16_ten).maxPower, 0, some 10, RelativeTimeInterval.start_zero,
        RelativeTimeInterval.duration_ten⟩]⟩⟩

/-- One slot of ten seconds. -/
def oneSlot (value : Int) (range : int16Min ≤ value ∧ value ≤ int16Max := by decide) :
    SAScheduleTuple :=
  ⟨1, ⟨[⟨(wattsEntry 0 value range).maxPower, 0, some 10, RelativeTimeInterval.start_zero,
    RelativeTimeInterval.duration_ten⟩]⟩⟩

theorem oneSlot_conforming :
    Conforming (oneSlot 10).pMaxSchedule.scheduleEntries where
  sorted := List.pairwise_singleton _ _
  nonneg := by decide +kernel
  lasts := by
    rintro slot ⟨⟩
    exact ⟨10, rfl, by decide⟩
  ends := .singleton _
  short := by decide

/-- The simulated EV charges by a single slot. -/
theorem chargingProfile_accepted_oneSlot : AgreeOnProfile [oneSlot 10] := by
  have last : [oneSlot 10].getLast? = some (oneSlot 10) := rfl
  apply chargingProfile_accepted last oneSlot_conforming (List.pairwise_singleton _ _)
  intro schedule listed _
  rw [List.mem_singleton.mp listed]

theorem fallingTie_conforming : Conforming fallingTie.pMaxSchedule.scheduleEntries where
  sorted := by
    unfold SortedBy
    decide
  nonneg := by decide +kernel
  lasts := by
    rintro slot ⟨⟩
    exact ⟨10, rfl, by decide⟩
  ends := by
    refine .cons_cons ?_ (.singleton _)
    rintro duration ⟨⟩
  short := by decide

/-- A conforming schedule is refused for two slots that start together, and for another
schedule that has its id. -/
theorem conforming_not_accepted :
    (Conforming fallingTie.pMaxSchedule.scheduleEntries ∧ ¬AgreeOnProfile [fallingTie]) ∧
      Conforming (oneSlot 10).pMaxSchedule.scheduleEntries ∧
        ¬AgreeOnProfile [oneSlot 5, oneSlot 10] := by
  refine ⟨⟨fallingTie_conforming, ?_⟩, oneSlot_conforming, ?_⟩
  · rintro ⟨saScheduleTupleId, profile, built, accepted⟩
    have valid := accepted ⟨.start, saScheduleTupleId, some profile, none⟩ rfl rfl
    cases built
    have refused : isChargingProfileValid ⟨.start, 1,
        some ⟨fallingTie.pMaxSchedule.scheduleEntries.flatMap profileEntries⟩, none⟩
        [fallingTie] = .ok false := by
      decide +kernel
    cases refused.symm.trans valid
  · rintro ⟨saScheduleTupleId, profile, built, accepted⟩
    have valid := accepted ⟨.start, saScheduleTupleId, some profile, none⟩ rfl rfl
    cases built
    have refused : isChargingProfileValid ⟨.start, 1,
        some ⟨(oneSlot 10).pMaxSchedule.scheduleEntries.flatMap profileEntries⟩, none⟩
        [oneSlot 5, oneSlot 10] = .ok false := by
      decide +kernel
    cases refused.symm.trans valid

end Iso15118
