import Iso15118.Shared.Exceptions
import Iso15118.Shared.Messages.V2.Body

/-!
# The simulated EV

Methods of `RealBatterySimulator` in `evcc/controller/simulator.py`.
-/

namespace Iso15118.Evcc.RealBatterySimulator

open Iso15118.Shared
open Iso15118.Shared.V2

/-- `PVPMax(multiplier=0, value=0, unit=UnitSymbol.WATT)`. -/
def zeroWatts : PhysicalValue := ⟨0, 0, int16_zero, multiplier_zero⟩

/-- The profile entries for a slot: its power from its start on, and none once its
duration, if it has one other than zero, is over. -/
def profileEntries (entry : PMaxScheduleEntry) : List ProfileEntryDetails :=
  ⟨entry.timeInterval.start, entry.pMax⟩ ::
    match entry.timeInterval.duration with
    | some duration =>
        if duration ≠ 0 then [⟨entry.timeInterval.start + duration, zeroWatts⟩] else []
    | none => []

/-- `ChargingProfile(...)` has at most 24 entries. -/
def chargingProfile (evccProfileEntryList : List ProfileEntryDetails) :
    Except PyError ChargingProfile :=
  if evccProfileEntryList.length ≤ 24 then .ok ⟨evccProfileEntryList⟩
  else .error .validationError

/-- `process_sa_schedules_v2`. The schedule is the one that `pop` takes. -/
def processSaSchedulesV2 (saSchedules : List SAScheduleTuple) :
    Except PyError (ChargeProgress × Nat × ChargingProfile) :=
  match saSchedules.getLast? with
  | some seccSchedule => do
      let profile ← chargingProfile
        (seccSchedule.pMaxSchedule.scheduleEntries.flatMap profileEntries)
      return (.start, seccSchedule.saScheduleTupleId, profile)
  | none => .error .indexError

end Iso15118.Evcc.RealBatterySimulator
