import Iso15118.Secc.Controller.SaSchedules
import Iso15118.Secc.V2.States

/-!
# The time that offered schedules cover

[V2G2-304] and [V2G2-305] ask of a schedule that it lasts for a day, or until the
departure that the EV has announced. `validate_sa_schedule_list` checks the first.
For an announced departure it compares the other way around: schedules that end
early pass, and schedules that last longer are reported as invalid.
-/

namespace Iso15118.Secc.V2.ChargeParameterDiscovery

open Iso15118.Shared
open Iso15118.Shared.V2

/-- The schedule has a last entry, and the entry says how long it lasts. -/
def LastEntryLasts (schedule : SAScheduleTuple) : Prop :=
  ∃ last ∈ schedule.pMaxSchedule.scheduleEntries.getLast?, last.timeInterval.duration ≠ none

/-- The seconds from the start of the first entry to the end of the last one. -/
def coveredDuration (schedule : SAScheduleTuple) : Int :=
  match schedule.pMaxSchedule.scheduleEntries.head?,
      schedule.pMaxSchedule.scheduleEntries.getLast? with
  | some firstEntry, some lastEntry =>
      lastEntry.timeInterval.start - firstEntry.timeInterval.start +
        lastEntry.timeInterval.duration.getD 0
  | _, _ => 0

theorem scheduleDuration_eq {schedule : SAScheduleTuple} (lasts : LastEntryLasts schedule) :
    scheduleDuration schedule = .ok (coveredDuration schedule) := by
  obtain ⟨last, isLast, declared⟩ := lasts
  have entries : schedule.pMaxSchedule.scheduleEntries ≠ [] := by
    intro empty
    rw [empty] at isLast
    cases isLast
  rw [scheduleDuration, coveredDuration, List.head?_eq_some_head entries,
    Option.mem_def.mp isLast]
  cases duration : last.timeInterval.duration with
  | none => exact absurd duration declared
  | some seconds => simp [duration]

/-- What the loop compares, for a list that it can go through. -/
theorem validateSchedules_eq_ok_true_iff {departureTime : Int} {schedules : List SAScheduleTuple}
    (lasts : ∀ schedule ∈ schedules, LastEntryLasts schedule) :
    validateSchedules departureTime schedules = .ok true ↔
      ∀ schedule ∈ schedules,
        (departureTime = 0 → 86400 ≤ coveredDuration schedule) ∧
          (departureTime ≠ 0 → coveredDuration schedule ≤ departureTime) := by
  induction schedules with
  | nil => simp [validateSchedules]
  | cons schedule schedules ih =>
      have later := ih (fun other listed => lasts other (List.mem_cons_of_mem _ listed))
      rw [validateSchedules, scheduleDuration_eq (lasts schedule (List.mem_cons_self ..)),
        Effect.ok_bind, List.forall_mem_cons]
      split
      next short =>
          apply iff_of_false
          · intro passed
            cases passed
          · rintro ⟨⟨aDay, _⟩, _⟩
            have := aDay short.1
            omega
      next aDay =>
          split
          next long =>
              apply iff_of_false
              · intro passed
                cases passed
              · rintro ⟨⟨_, inTime⟩, _⟩
                have := inTime long.1
                omega
          next inTime =>
              rw [later]
              constructor
              · intro others
                exact ⟨by omega, others⟩
              · rintro ⟨_, others⟩
                exact others

/-- The time that a schedule has to cover: a day without a departure time. -/
def requestedDuration (departureTime : Int) : Int :=
  if departureTime = 0 then 86400 else departureTime

/-- The check accepts the lists of which every schedule covers the requested time
exactly when no departure time has been announced, or every schedule covers the
time precisely, or one schedule is too short and another too long. -/
theorem validateSaScheduleList_sufficient_iff (departureTime : Int)
    (schedules : List SAScheduleTuple)
    (lasts : ∀ schedule ∈ schedules, LastEntryLasts schedule) :
    (validateSaScheduleList (some schedules) departureTime = .ok true ↔
        ∀ schedule ∈ schedules, requestedDuration departureTime ≤ coveredDuration schedule) ↔
      departureTime = 0 ∨
        (∀ schedule ∈ schedules, coveredDuration schedule = departureTime) ∨
        (∃ schedule ∈ schedules, coveredDuration schedule < departureTime) ∧
          ∃ schedule ∈ schedules, departureTime < coveredDuration schedule := by
  rw [validateSaScheduleList, validateSchedules_eq_ok_true_iff lasts, requestedDuration]
  by_cases unannounced : departureTime = 0
  · simp [unannounced]
  · simp only [unannounced, false_implies, ne_eq, not_false_eq_true, forall_const, true_and,
      if_false, false_or]
    constructor
    · intro agree
      by_cases short : ∃ schedule ∈ schedules, coveredDuration schedule < departureTime
      · by_cases long : ∃ schedule ∈ schedules, departureTime < coveredDuration schedule
        · exact .inr ⟨short, long⟩
        · push Not at long
          obtain ⟨schedule, listed, early⟩ := short
          have := agree.mp long schedule listed
          omega
      · push Not at short
        left
        intro schedule listed
        exact le_antisymm (agree.mpr short schedule listed) (short schedule listed)
    · rintro (precise | ⟨⟨short, listedShort, early⟩, long, listedLong, late⟩)
      · constructor
        · intro _ schedule listed
          exact (precise schedule listed).ge
        · intro _ schedule listed
          exact (precise schedule listed).le
      · apply iff_of_false
        · intro inTime
          have := inTime long listedLong
          omega
        · intro sufficient
          have := sufficient short listedShort
          omega

/-- One schedule of 11 kW from now on for the given time. -/
def elevenKilowattsFor (seconds : Int) (range : 0 ≤ seconds ∧ seconds ≤ 86400) :
    SAScheduleTuple where
  saScheduleTupleId := 1
  pMaxSchedule := ⟨[{
    pMax := ⟨11000, 0, by decide, multiplier_zero⟩
    timeInterval := ⟨0, some seconds, RelativeTimeInterval.start_zero, by
      rintro duration ⟨⟩
      exact range⟩ }]⟩

theorem lastEntryLasts_elevenKilowattsFor (seconds : Int) (range : 0 ≤ seconds ∧ seconds ≤ 86400) :
    LastEntryLasts (elevenKilowattsFor seconds range) :=
  ⟨_, rfl, by simp⟩

/-- A departure in an hour, and a schedule for that hour. -/
theorem validateSaScheduleList_oneHour :
    (∀ schedule ∈ [elevenKilowattsFor 3600 (by decide)], LastEntryLasts schedule) ∧
      ((validateSaScheduleList (some [elevenKilowattsFor 3600 (by decide)]) 3600 = .ok true ↔
          ∀ schedule ∈ [elevenKilowattsFor 3600 (by decide)],
            requestedDuration 3600 ≤ coveredDuration schedule) ↔
        (3600 : Int) = 0 ∨
          (∀ schedule ∈ [elevenKilowattsFor 3600 (by decide)],
            coveredDuration schedule = 3600) ∨
          (∃ schedule ∈ [elevenKilowattsFor 3600 (by decide)], coveredDuration schedule < 3600) ∧
            ∃ schedule ∈ [elevenKilowattsFor 3600 (by decide)],
              3600 < coveredDuration schedule) := by
  have lasts : ∀ schedule ∈ [elevenKilowattsFor 3600 (by decide)], LastEntryLasts schedule := by
    intro schedule listed
    obtain rfl := List.mem_singleton.mp listed
    exact lastEntryLasts_elevenKilowattsFor _ _
  exact ⟨lasts, validateSaScheduleList_sufficient_iff 3600 _ lasts⟩

/-- A departure in an hour, and a schedule that ends after half of it: the list is
reported as valid. -/
theorem halfAnHour_validated :
    ¬∀ (departureTime : Int) (schedules : List SAScheduleTuple), 0 ≤ departureTime →
      schedules ≠ [] →
      (∀ schedule ∈ schedules, LastEntryLasts schedule ∧
        schedule.pMaxSchedule.scheduleEntries.Pairwise fun one next =>
          one.timeInterval.start ≤ next.timeInterval.start) →
      (validateSaScheduleList (some schedules) departureTime = .ok true ↔
        ∀ schedule ∈ schedules, requestedDuration departureTime ≤ coveredDuration schedule) := by
  intro sufficient
  have agree := sufficient 3600 [elevenKilowattsFor 1800 (by decide)] (by decide) (by simp) (by
    intro schedule listed
    obtain rfl := List.mem_singleton.mp listed
    exact ⟨lastEntryLasts_elevenKilowattsFor _ _, List.pairwise_singleton _ _⟩)
  have covers := agree.mp rfl _ (List.mem_singleton_self _)
  revert covers
  decide

/-! ## The schedules of the simulator -/

/-- A schedule of which the entries partition a time covers it. -/
theorem covers_of_partitions (schedule : SAScheduleTuple) {seconds : Int}
    (partitions : SimEVSEController.Partitions 0 seconds
      (schedule.pMaxSchedule.scheduleEntries.map PMaxScheduleEntry.timeInterval)) :
    LastEntryLasts schedule ∧ coveredDuration schedule = seconds := by
  obtain ⟨interval, isLast, duration, declared, finish⟩ := partitions.ends
  have starts := partitions.starts
  rw [List.getLast?_map] at isLast
  rw [List.head?_map, Option.map_map] at starts
  obtain ⟨last, lastIs, rfl⟩ := Option.map_eq_some_iff.mp isLast
  obtain ⟨first, firstIs, atZero⟩ := Option.map_eq_some_iff.mp starts
  constructor
  · refine ⟨last, lastIs, ?_⟩
    rw [Option.mem_def.mp declared]
    simp
  · simp only [Function.comp_apply] at atZero
    rw [coveredDuration, firstIs, lastIs]
    simp only [Option.mem_def.mp declared, Option.getD_some]
    omega

/-- What the simulator offers passes the check, since it lasts exactly as long as
it has to. -/
theorem validateSaScheduleList_simulated {evseDataContext : EVSEAcDataContext}
    {isFreeChargingService : Bool} {maxScheduleEntries : Option Int} {departureTime : Int}
    (nonneg : 0 ≤ departureTime) {schedules : List TariffedSchedule}
    (answered : SimEVSEController.getSaScheduleList evseDataContext isFreeChargingService
      maxScheduleEntries departureTime = .ok schedules) :
    validateSaScheduleList (some (schedules.map TariffedSchedule.toSAScheduleTuple))
      departureTime = .ok true := by
  obtain ⟨_, _, pMax, _, days, rfl⟩ :=
    SimEVSEController.inversion_getSaScheduleList nonneg answered
  obtain ⟨lasts, covered⟩ := covers_of_partitions ⟨1, ⟨pMax⟩⟩ days.partitions
  have each : ∀ schedule ∈ [(⟨1, ⟨pMax⟩⟩ : SAScheduleTuple)], LastEntryLasts schedule := by
    intro schedule listed
    obtain rfl := List.mem_singleton.mp listed
    exact lasts
  apply (validateSchedules_eq_ok_true_iff each).mpr
  intro schedule listed
  obtain rfl := List.mem_singleton.mp listed
  rw [covered, SimEVSEController.scheduledTime]
  split
  next unannounced =>
      constructor
      · intro _
        exact le_rfl
      · intro announced
        exact absurd unannounced announced
  next announced =>
      constructor
      · intro unannounced
        exact absurd unannounced announced
      · intro _
        exact le_rfl

end Iso15118.Secc.V2.ChargeParameterDiscovery
