import Iso15118.Shared.Messages.V2.Datatypes

/-!
# Building charging schedules

The constructor calls of the schedule types of
`shared/messages/iso15118_2/datatypes.py`, which raise when a declared bound
fails, and the sales tariff that goes with a schedule.
-/

namespace Iso15118.Shared.V2

def RelativeTimeInterval.new (start : Int) (duration : Option Int) :
    Except PyError RelativeTimeInterval :=
  if range : (0 ≤ start ∧ start ≤ 16777214) ∧
      ∀ seconds ∈ duration, 0 ≤ seconds ∧ seconds ≤ 86400 then
    .ok ⟨start, duration, range.1, range.2⟩
  else
    .error .validationError

theorem RelativeTimeInterval.new_eq_ok {start : Int} {duration : Option Int}
    (start_range : 0 ≤ start ∧ start ≤ 16777214)
    (duration_range : ∀ seconds ∈ duration, 0 ≤ seconds ∧ seconds ≤ 86400) :
    RelativeTimeInterval.new start duration =
      .ok ⟨start, duration, start_range, duration_range⟩ := by
  rw [RelativeTimeInterval.new, dif_pos ⟨start_range, duration_range⟩]

theorem RelativeTimeInterval.fields_of_new {start : Int} {duration : Option Int}
    {interval : RelativeTimeInterval}
    (made : RelativeTimeInterval.new start duration = .ok interval) :
    interval.start = start ∧ interval.duration = duration := by
  rw [RelativeTimeInterval.new] at made
  split at made
  next =>
      cases made
      exact ⟨rfl, rfl⟩
  next => cases made

def PMaxSchedule.new (scheduleEntries : List PMaxScheduleEntry) : Except PyError PMaxSchedule :=
  if scheduleEntries.length ≤ 1024 then .ok ⟨scheduleEntries⟩ else .error .validationError

structure SalesTariffEntry where
  ePriceLevel : Option Int
  timeInterval : RelativeTimeInterval
  ePriceLevel_range : ∀ level ∈ ePriceLevel, 0 ≤ level ∧ level ≤ 255
  deriving DecidableEq

def SalesTariffEntry.new (ePriceLevel : Option Int) (timeInterval : RelativeTimeInterval) :
    Except PyError SalesTariffEntry :=
  if range : ∀ level ∈ ePriceLevel, 0 ≤ level ∧ level ≤ 255 then
    .ok ⟨ePriceLevel, timeInterval, range⟩
  else
    .error .validationError

theorem SalesTariffEntry.new_eq_ok {ePriceLevel : Option Int}
    {timeInterval : RelativeTimeInterval}
    (range : ∀ level ∈ ePriceLevel, 0 ≤ level ∧ level ≤ 255) :
    SalesTariffEntry.new ePriceLevel timeInterval = .ok ⟨ePriceLevel, timeInterval, range⟩ := by
  rw [SalesTariffEntry.new, dif_pos range]

theorem SalesTariffEntry.timeInterval_of_new {ePriceLevel : Option Int}
    {timeInterval : RelativeTimeInterval} {entry : SalesTariffEntry}
    (made : SalesTariffEntry.new ePriceLevel timeInterval = .ok entry) :
    entry.timeInterval = timeInterval := by
  rw [SalesTariffEntry.new] at made
  split at made
  next =>
      cases made
      rfl
  next => cases made

structure SalesTariff where
  id : Option String
  salesTariffId : Int
  numEPriceLevels : Option Int
  salesTariffEntry : List SalesTariffEntry
  salesTariffId_range : 1 ≤ salesTariffId ∧ salesTariffId ≤ 255
  numEPriceLevels_range : ∀ levels ∈ numEPriceLevels, 0 ≤ levels ∧ levels ≤ 255
  salesTariffEntry_length : salesTariffEntry.length ≤ 102
  deriving DecidableEq

/-- `SalesTariff(...)`. The validator of the entries asks for the number of price
levels, which only is absent when its own bound has failed. -/
def SalesTariff.new (id : Option String) (salesTariffId : Int) (numEPriceLevels : Option Int)
    (salesTariffEntry : List SalesTariffEntry) : Except PyError SalesTariff :=
  if range : (1 ≤ salesTariffId ∧ salesTariffId ≤ 255) ∧
      (∀ levels ∈ numEPriceLevels, 0 ≤ levels ∧ levels ≤ 255) ∧
      salesTariffEntry.length ≤ 102 then
    .ok ⟨id, salesTariffId, numEPriceLevels, salesTariffEntry, range.1, range.2.1, range.2.2⟩
  else
    .error .validationError

/-- A schedule with the tariff that is sent along with it. -/
structure TariffedSchedule extends SAScheduleTuple where
  salesTariff : Option SalesTariff
  deriving DecidableEq

def TariffedSchedule.new (saScheduleTupleId : Nat) (pMaxSchedule : PMaxSchedule)
    (salesTariff : Option SalesTariff) : Except PyError TariffedSchedule :=
  if 1 ≤ saScheduleTupleId ∧ saScheduleTupleId ≤ 255 then
    .ok ⟨⟨saScheduleTupleId, pMaxSchedule⟩, salesTariff⟩
  else
    .error .validationError

end Iso15118.Shared.V2
