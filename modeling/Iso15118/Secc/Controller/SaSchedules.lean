import Iso15118.Secc.Controller.EvseAcData
import Iso15118.Shared.Messages.V2.Schedules

/-!
# The schedules that the SECC simulator offers

`SimEVSEController.get_sa_schedule_list` cuts the time until departure into days
and offers the rated power on each of them. The message model accepts the result
only while the power is a 16-bit number and the tariff has at most 102 entries,
and the number of entries that the EV can handle is not looked at.
-/

namespace Iso15118.Secc.SimEVSEController

open Iso15118.Shared
open Iso15118.Shared.V2
open Rounding

/-- The duration that the entry of a day declares: none unless it is the last one. -/
def lastDuration (remaining : Int) : Option Int :=
  if remaining ≤ 86400 then some remaining else none

/-- The loop of `get_sa_schedule_list`. -/
def dayEntries (evseMaxSchedulePower : Int) (remainingChargeDuration start counter : Int) :
    Except PyError (List PMaxScheduleEntry × List SalesTariffEntry) :=
  if 0 < remainingChargeDuration then do
    let pMax ← PhysicalValue.new 0 evseMaxSchedulePower
    let openInterval ← RelativeTimeInterval.new start none
    let _ ← SalesTariffEntry.new (some counter) openInterval
    -- the entries of the last day are built again with their duration
    let interval ← RelativeTimeInterval.new start (lastDuration remainingChargeDuration)
    let salesTariffEntry ← SalesTariffEntry.new (some counter) interval
    let later ← dayEntries evseMaxSchedulePower (remainingChargeDuration - 86400) (start + 86400)
      (counter + 1)
    return (⟨pMax, interval⟩ :: later.1, salesTariffEntry :: later.2)
  else
    .ok ([], [])
termination_by remainingChargeDuration.toNat
decreasing_by omega

/-- `int(...)` of an optional number. -/
def toInt (value : Option ℚ) : Except PyError Int :=
  match value with
  | some value => .ok (truncate value)
  | none => .error .typeError

/-- A departure time of 0 asks for a day. -/
def scheduledTime (departureTime : Int) : Int :=
  if departureTime = 0 then 86400 else departureTime

/-- `SimEVSEController.get_sa_schedule_list`. `max_schedule_entries` is a parameter
that nothing reads. -/
def getSaScheduleList (evseDataContext : EVSEAcDataContext) (isFreeChargingService : Bool)
    (_maxScheduleEntries : Option Int) (departureTime : Int) :
    Except PyError (List TariffedSchedule) := do
  let evseMaxSchedulePower ← toInt evseDataContext.acRatedLimits.maxChargePower
  let entries ← dayEntries evseMaxSchedulePower (scheduledTime departureTime) 0 1
  let pMaxSchedule ← PMaxSchedule.new entries.1
  let salesTariff ← SalesTariff.new (some "id1") 10 (some entries.2.length) entries.2
  let saScheduleTuple ← TariffedSchedule.new 1 pMaxSchedule
    (if isFreeChargingService then none else some salesTariff)
  return [saScheduleTuple]

/-! ## Cutting a time into intervals -/

/-- The intervals begin at `first`, follow each other without a gap and end at
`finish`. An interval without a duration lasts until the next one starts. -/
structure Partitions (first finish : Int) (intervals : List RelativeTimeInterval) : Prop where
  starts : intervals.head?.map RelativeTimeInterval.start = some first
  increasing : intervals.IsChain fun one next => one.start < next.start
  contiguous : intervals.IsChain fun one next =>
    ∀ duration ∈ one.duration, one.start + duration = next.start
  ends : ∃ last ∈ intervals.getLast?, ∃ duration ∈ last.duration, last.start + duration = finish

theorem Partitions.single {first finish : Int} {interval : RelativeTimeInterval}
    (start : interval.start = first) (duration : interval.duration = some (finish - first)) :
    Partitions first finish [interval] where
  starts := by simp [start]
  increasing := .singleton _
  contiguous := .singleton _
  ends := ⟨interval, by simp, finish - first, by simp [duration], by omega⟩

/-- An interval without a duration in front. -/
theorem Partitions.cons {first second finish : Int} {interval : RelativeTimeInterval}
    {intervals : List RelativeTimeInterval} (later : Partitions second finish intervals)
    (start : interval.start = first) (before : first < second)
    (duration : interval.duration = none) :
    Partitions first finish (interval :: intervals) := by
  rcases intervals with _ | ⟨next, rest⟩
  · have := later.starts
    simp at this
  · have nextStart : next.start = second := by simpa using later.starts
    constructor
    · simp [start]
    · apply later.increasing.cons_cons
      rw [start, nextStart]
      exact before
    · apply later.contiguous.cons_cons
      simp [duration]
    · obtain ⟨last, isLast, lasts⟩ := later.ends
      exact ⟨last, by simpa using isLast, lasts⟩

/-! ## What the loop builds -/

/-- What holds of the entries that the loop returns for a positive duration. -/
structure DaysFrom (power first finish : Int) (pMax : List PMaxScheduleEntry)
    (tariff : List SalesTariffEntry) : Prop where
  power_range : int16Min ≤ power ∧ power ≤ int16Max
  same : tariff.map SalesTariffEntry.timeInterval = pMax.map PMaxScheduleEntry.timeInterval
  partitions : Partitions first finish (pMax.map PMaxScheduleEntry.timeInterval)
  count : (pMax.length - 1) * 86400 < finish - first ∧ finish - first ≤ pMax.length * 86400

theorem power_range_of_new {power : Int} {pMax : PhysicalValue}
    (made : PhysicalValue.new 0 power = .ok pMax) : int16Min ≤ power ∧ power ≤ int16Max := by
  rw [PhysicalValue.new] at made
  split at made
  next range => exact range.1
  next => cases made

theorem dayEntries_of_nonpos {power remaining start counter : Int} (nonpos : remaining ≤ 0) :
    dayEntries power remaining start counter = .ok ([], []) := by
  rw [dayEntries, if_neg (by omega)]

/-- Whatever the loop returns partitions the remaining time into days. -/
theorem daysFrom_of_dayEntries {power remaining start counter : Int} (pos : 0 < remaining)
    {pMax : List PMaxScheduleEntry} {tariff : List SalesTariffEntry}
    (built : dayEntries power remaining start counter = .ok (pMax, tariff)) :
    DaysFrom power start (start + remaining) pMax tariff := by
  fun_induction dayEntries power remaining start counter generalizing pMax tariff with
  | case1 remaining start counter pos' ih =>
      simp only [Effect.bind_eq_ok_iff, Effect.pure_eq_ok_iff] at built
      obtain ⟨value, madeValue, _, _, _, _, interval, madeInterval, entry, madeEntry,
        ⟨laterPMax, laterTariff⟩, later, same⟩ := built
      cases same
      obtain ⟨startEq, durationEq⟩ := RelativeTimeInterval.fields_of_new madeInterval
      have entryInterval := SalesTariffEntry.timeInterval_of_new madeEntry
      have inRange := power_range_of_new madeValue
      by_cases last : remaining ≤ 86400
      · rw [dayEntries_of_nonpos (by omega)] at later
        cases later
        rw [lastDuration, if_pos last] at durationEq
        constructor
        · exact inRange
        · simp [entryInterval]
        · exact Partitions.single startEq (by rw [durationEq]; congr 1; omega)
        · simp only [List.length_cons, List.length_nil]
          push_cast
          omega
      · have days := ih (by omega) later
        rw [lastDuration, if_neg last] at durationEq
        have finish : start + 86400 + (remaining - 86400) = start + remaining := by omega
        rw [finish] at days
        constructor
        · exact inRange
        · simp [entryInterval, days.same]
        · exact days.partitions.cons startEq (by omega) durationEq
        · obtain ⟨more, most⟩ := days.count
          simp only [List.length_cons]
          push_cast
          omega
  | case2 remaining start counter stopped => exact absurd pos stopped

/-- Within 102 days nothing that the loop builds exceeds a bound. -/
theorem exists_dayEntries {power remaining start counter : Int}
    (power_range : int16Min ≤ power ∧ power ≤ int16Max) (first : 1 ≤ counter)
    (startEq : start = (counter - 1) * 86400) (bounded : start + remaining ≤ 102 * 86400) :
    ∃ entries, dayEntries power remaining start counter = .ok entries := by
  fun_induction dayEntries power remaining start counter with
  | case1 remaining start counter pos ih =>
      obtain ⟨pMax, madePMax⟩ := PhysicalValue.exists_new power_range
        (by decide : (-3 : Int) ≤ 0 ∧ (0 : Int) ≤ 3)
      have level : ∀ number ∈ some counter, 0 ≤ number ∧ number ≤ 255 := by
        rintro number ⟨⟩
        omega
      have duration : ∀ seconds ∈ lastDuration remaining, 0 ≤ seconds ∧ seconds ≤ 86400 := by
        rw [lastDuration]
        split
        · rintro seconds ⟨⟩
          omega
        · rintro seconds ⟨⟩
      have start_range : 0 ≤ start ∧ start ≤ 16777214 := by omega
      obtain ⟨later, builtLater⟩ := ih (by omega) (by omega) (by omega)
      rw [madePMax, RelativeTimeInterval.new_eq_ok start_range (by simp),
        RelativeTimeInterval.new_eq_ok start_range duration]
      simp only [Effect.ok_bind, SalesTariffEntry.new_eq_ok level, builtLater]
      exact ⟨_, rfl⟩
  | case2 => exact ⟨_, rfl⟩

/-! ## The offered list -/

/-- What the message model, the requirements on a schedule and the request ask of
one offered schedule. -/
structure ValidSchedule (seconds : Int) (maxScheduleEntries : Option Int)
    (schedule : TariffedSchedule) : Prop where
  id_range : 1 ≤ schedule.saScheduleTupleId ∧ schedule.saScheduleTupleId ≤ 255
  pMax_length : schedule.pMaxSchedule.scheduleEntries.length ≤ 1024
  pMax_partitions : Partitions 0 seconds
    (schedule.pMaxSchedule.scheduleEntries.map PMaxScheduleEntry.timeInterval)
  tariff_partitions : ∀ tariff ∈ schedule.salesTariff,
    Partitions 0 seconds (tariff.salesTariffEntry.map SalesTariffEntry.timeInterval)
  pMax_few : ∀ most ∈ maxScheduleEntries,
    (schedule.pMaxSchedule.scheduleEntries.length : Int) ≤ most
  tariff_few : ∀ most ∈ maxScheduleEntries, ∀ tariff ∈ schedule.salesTariff,
    (tariff.salesTariffEntry.length : Int) ≤ most

/-- A non-empty list of at most three valid schedules. -/
def ValidScheduleList (seconds : Int) (maxScheduleEntries : Option Int)
    (schedules : List TariffedSchedule) : Prop :=
  schedules ≠ [] ∧ schedules.length ≤ 3 ∧
    ∀ schedule ∈ schedules, ValidSchedule seconds maxScheduleEntries schedule

/-- The requests that the simulator can answer: the rated power fits in a 16-bit
number, the departure is at most 102 days away, and the EV can handle an entry for
each day. -/
def CanSchedule (evseDataContext : EVSEAcDataContext) (maxScheduleEntries : Option Int)
    (seconds : Int) : Prop :=
  (∃ power ∈ evseDataContext.acRatedLimits.maxChargePower,
      int16Min ≤ truncate power ∧ truncate power ≤ int16Max) ∧
    seconds ≤ 102 * 86400 ∧ ∀ most ∈ maxScheduleEntries, seconds ≤ most * 86400

section Answer

variable {evseDataContext : EVSEAcDataContext} {isFreeChargingService : Bool}
  {maxScheduleEntries : Option Int} {departureTime : Int}

theorem scheduledTime_pos (nonneg : 0 ≤ departureTime) : 0 < scheduledTime departureTime := by
  unfold scheduledTime
  split <;> omega

/-- What an answer consists of. -/
theorem inversion_getSaScheduleList (nonneg : 0 ≤ departureTime)
    {schedules : List TariffedSchedule}
    (answered : getSaScheduleList evseDataContext isFreeChargingService maxScheduleEntries
      departureTime = .ok schedules) :
    ∃ power ∈ evseDataContext.acRatedLimits.maxChargePower, ∃ pMax, ∃ salesTariff : SalesTariff,
      DaysFrom (truncate power) 0 (scheduledTime departureTime) pMax
        salesTariff.salesTariffEntry ∧
      schedules = [⟨⟨1, ⟨pMax⟩⟩, if isFreeChargingService then none else some salesTariff⟩] := by
  simp only [getSaScheduleList, Effect.bind_eq_ok_iff, Effect.pure_eq_ok_iff] at answered
  obtain ⟨number, converted, ⟨pMax, tariff⟩, built, pMaxSchedule, madeSchedule, salesTariff,
    madeTariff, schedule, madeTuple, rfl⟩ := answered
  have days := daysFrom_of_dayEntries (scheduledTime_pos nonneg) built
  rw [zero_add] at days
  simp only [PMaxSchedule.new] at madeSchedule
  split at madeSchedule
  next =>
      cases madeSchedule
      simp only [SalesTariff.new] at madeTariff
      split at madeTariff
      next =>
          cases madeTariff
          cases madeTuple
          cases unset : evseDataContext.acRatedLimits.maxChargePower with
          | none =>
              rw [unset] at converted
              cases converted
          | some power =>
              rw [unset] at converted
              cases converted
              exact ⟨power, rfl, pMax, _, days, rfl⟩
      next => cases madeTariff
  next => cases madeSchedule

theorem DaysFrom.length_eq {power first finish : Int} {pMax : List PMaxScheduleEntry}
    {tariff : List SalesTariffEntry} (days : DaysFrom power first finish pMax tariff) :
    tariff.length = pMax.length := by
  simpa using congrArg List.length days.same

/-- As many entries as there are days, rounded up. -/
theorem DaysFrom.length_le_iff {power finish : Int} {pMax : List PMaxScheduleEntry}
    {tariff : List SalesTariffEntry} (days : DaysFrom power 0 finish pMax tariff) (most : Int) :
    (pMax.length : Int) ≤ most ↔ finish ≤ most * 86400 := by
  obtain ⟨more, atMost⟩ := days.count
  constructor
  · intro le
    omega
  · intro le
    omega

theorem canSchedule_of_valid (nonneg : 0 ≤ departureTime) {schedules : List TariffedSchedule}
    (answered : getSaScheduleList evseDataContext isFreeChargingService maxScheduleEntries
      departureTime = .ok schedules)
    (valid : ValidScheduleList (scheduledTime departureTime) maxScheduleEntries schedules) :
    CanSchedule evseDataContext maxScheduleEntries (scheduledTime departureTime) := by
  obtain ⟨power, set, pMax, salesTariff, days, rfl⟩ :=
    inversion_getSaScheduleList nonneg answered
  obtain ⟨_, _, each⟩ := valid
  have schedule := each _ (List.mem_singleton_self _)
  refine ⟨⟨power, set, days.power_range⟩, ?_, ?_⟩
  · rw [← days.length_le_iff, ← days.length_eq]
    exact_mod_cast salesTariff.salesTariffEntry_length
  · intro most given
    rw [← days.length_le_iff]
    exact schedule.pMax_few most given

theorem exists_valid_of_canSchedule (nonneg : 0 ≤ departureTime)
    (can : CanSchedule evseDataContext maxScheduleEntries (scheduledTime departureTime)) :
    ∃ schedules, getSaScheduleList evseDataContext isFreeChargingService maxScheduleEntries
        departureTime = .ok schedules ∧
      ValidScheduleList (scheduledTime departureTime) maxScheduleEntries schedules := by
  obtain ⟨⟨power, set, power_range⟩, bounded, few⟩ := can
  obtain ⟨⟨pMax, tariff⟩, built⟩ : ∃ entries,
      dayEntries (truncate power) (scheduledTime departureTime) 0 1 = .ok entries :=
    exists_dayEntries power_range (by norm_num) (by norm_num) (by simpa using bounded)
  have days := daysFrom_of_dayEntries (scheduledTime_pos nonneg) built
  rw [zero_add] at days
  have pMaxLength : pMax.length ≤ 102 := by exact_mod_cast (days.length_le_iff 102).mpr bounded
  have tariffLength : tariff.length ≤ 102 := days.length_eq.trans_le pMaxLength
  have levels : ∀ number ∈ some (tariff.length : Int), 0 ≤ number ∧ number ≤ 255 := by
    rintro number ⟨⟩
    omega
  have answered : getSaScheduleList evseDataContext isFreeChargingService maxScheduleEntries
      departureTime = .ok [⟨⟨1, ⟨pMax⟩⟩, if isFreeChargingService then none else
        some ⟨some "id1", 10, some tariff.length, tariff, by decide, levels, tariffLength⟩⟩] := by
    rw [getSaScheduleList, Option.mem_def.mp set]
    simp only [toInt, Effect.ok_bind, built, PMaxSchedule.new, SalesTariff.new]
    rw [if_pos (by omega), Effect.ok_bind, dif_pos ⟨by decide, levels, tariffLength⟩]
    rfl
  refine ⟨_, answered, by simp, by simp, ?_⟩
  intro schedule offered
  obtain rfl := List.mem_singleton.mp offered
  have fewEntries (most : Int) (given : most ∈ maxScheduleEntries) : (pMax.length : Int) ≤ most :=
    (days.length_le_iff most).mpr (few most given)
  have ofTariff {property : SalesTariff → Prop} {salesTariff : SalesTariff}
      (holds : property salesTariff) :
      ∀ offeredTariff ∈ (if isFreeChargingService then none else some salesTariff),
        property offeredTariff := by
    intro offeredTariff isOffered
    cases isFreeChargingService with
    | true => cases isOffered
    | false =>
        cases isOffered
        exact holds
  constructor
  · simp
  · exact pMaxLength.trans (by norm_num)
  · exact days.partitions
  · apply ofTariff
    rw [days.same]
    exact days.partitions
  · exact fewEntries
  · intro most given
    apply ofTariff
    rw [days.length_eq]
    exact fewEntries most given

end Answer

/-- The simulator answers with schedules that are valid for the request exactly when
the time, the power and the number of entries stay within the bounds. -/
theorem getSaScheduleList_valid_iff (evseDataContext : EVSEAcDataContext)
    (isFreeChargingService : Bool) (maxScheduleEntries : Option Int) (departureTime : Nat) :
    (∃ schedules, getSaScheduleList evseDataContext isFreeChargingService maxScheduleEntries
        departureTime = .ok schedules ∧
      ValidScheduleList (scheduledTime departureTime) maxScheduleEntries schedules) ↔
    CanSchedule evseDataContext maxScheduleEntries (scheduledTime departureTime) := by
  have nonneg : (0 : Int) ≤ departureTime := Int.natCast_nonneg departureTime
  constructor
  · rintro ⟨schedules, answered, valid⟩
    exact canSchedule_of_valid nonneg answered valid
  · exact exists_valid_of_canSchedule nonneg

/-- An EVSE rated at 11 kW. -/
def ratedAt11kW : EVSEAcDataContext where
  acRatedLimits := ⟨some 11000⟩

/-- An EV that can handle one entry and departs in two days gets two entries. -/
theorem twoDays_no_valid_schedule :
    ¬∀ (evseDataContext : EVSEAcDataContext) (isFreeChargingService : Bool)
      (maxScheduleEntries : Option Int) (departureTime : Int),
      0 ≤ departureTime → departureTime ≤ 2 ^ 32 - 1 →
      ∃ schedules, getSaScheduleList evseDataContext isFreeChargingService maxScheduleEntries
          departureTime = .ok schedules ∧
        ValidScheduleList (scheduledTime departureTime) maxScheduleEntries schedules := by
  intro valid
  obtain ⟨schedules, answered, isValid⟩ :=
    valid ratedAt11kW false (some 1) 172800 (by norm_num) (by norm_num)
  obtain ⟨_, _, few⟩ := canSchedule_of_valid (by norm_num) answered isValid
  have := few 1 rfl
  revert this
  decide

end Iso15118.Secc.SimEVSEController
