import Iso15118.Shared.BatteryDiagnostics.HealthTest
import Mathlib.Algebra.BigOperators.Group.List.Basic
import Mathlib.Tactic.Linarith

/-!
# What the health test records

The energy and the log over any number of cycles after a selection. A cycle belongs to the
phase in which it starts: the one that finds the battery full is still a charging cycle.
-/

namespace Iso15118.Shared.BatteryHealthService

open Rounding
open Iso15118.Secc

/-- One call of `on_cycle`. -/
structure CycleCall where
  evDataContext : EVDataContext
  battery : BatterySimulator

namespace CycleCall

def voltage (call : CycleCall) : ℚ :=
  readVoltage call.evDataContext call.battery

def current (call : CycleCall) : ℚ :=
  call.evDataContext.targetCurrent

def soc (call : CycleCall) : ℚ :=
  readSoc call.evDataContext call.battery

/-- The energy that flows in one interval of three seconds. -/
def energyWh (call : CycleCall) : ℚ :=
  |call.voltage * call.current| * 3 / 3600

theorem energyWh_nonneg (call : CycleCall) : 0 ≤ call.energyWh := by
  unfold energyWh
  positivity

end CycleCall

/-! ## One cycle -/

/-- The command of a cycle. -/
def issued (service : BatteryHealthService) (call : CycleCall) : CurrentCommand :=
  (service.onCycle call.evDataContext call.battery).1

/-- The service after a cycle. -/
def next (service : BatteryHealthService) (call : CycleCall) : BatteryHealthService :=
  (service.onCycle call.evDataContext call.battery).2

/-- A cycle that starts in the discharge phase with a negative current. -/
def Counts (service : BatteryHealthService) (call : CycleCall) : Prop :=
  service.phase = .discharge ∧ call.current < 0

instance (service : BatteryHealthService) (call : CycleCall) : Decidable (service.Counts call) :=
  inferInstanceAs (Decidable (_ ∧ _))

section

variable (service : BatteryHealthService) (call : CycleCall)

/-- The phase logic writes nothing but the phase. -/
theorem nextCommand_keeps (soc : ℚ) (battery : BatterySimulator) :
    (service.nextCommand soc battery).2.energyWh = service.energyWh ∧
      (service.nextCommand soc battery).2.cycles = service.cycles := by
  unfold nextCommand
  split
  · split
    · exact ⟨rfl, rfl⟩
    · exact ⟨rfl, rfl⟩
  · split
    · exact ⟨rfl, rfl⟩
    · exact ⟨rfl, rfl⟩

@[simp]
theorem next_cutoff : (service.next call).cutoff = service.cutoff :=
  onCycle_cutoff service call.evDataContext call.battery

theorem next_energyWh :
    (service.next call).energyWh =
      service.energyWh + if service.Counts call then call.energyWh else 0 := by
  have kept := (nextCommand_keeps (service.recordCycle call.evDataContext call.battery)
    call.soc call.battery).1
  have energy : |call.voltage * call.current| * (cycleDtS / 3600) = call.energyWh := by
    unfold CycleCall.energyWh cycleDtS
    ring
  unfold next onCycle
  refine kept.trans ?_
  by_cases counts : service.Counts call
  · have counts' : service.phase = .discharge ∧ call.evDataContext.targetCurrent < 0 := counts
    rw [if_pos counts, ← energy]
    simp only [recordCycle, counts', and_self, if_true]
    rfl
  · have counts' : ¬(service.phase = .discharge ∧ call.evDataContext.targetCurrent < 0) := counts
    rw [if_neg counts, add_zero]
    simp only [recordCycle, counts', if_false]

/-- One entry is appended, with the number of the cycle and the energy after it. -/
theorem next_cycles :
    ∃ entry, (service.next call).cycles = service.cycles ++ [entry] ∧
      entry.index = service.cycles.length ∧ entry.phase = service.phase ∧
      entry.energyWh = roundDigits 4 (service.next call).energyWh := by
  have kept := nextCommand_keeps (service.recordCycle call.evDataContext call.battery)
    call.soc call.battery
  have energy : (service.next call).energyWh =
      (service.recordCycle call.evDataContext call.battery).energyWh := kept.1
  have cycles : (service.next call).cycles =
      (service.recordCycle call.evDataContext call.battery).cycles := kept.2
  rw [energy, cycles]
  by_cases counts : service.phase = .discharge ∧ call.evDataContext.targetCurrent < 0
  · simp only [recordCycle, counts, and_self, if_true]
    exact ⟨_, rfl, rfl, rfl, rfl⟩
  · simp only [recordCycle, counts, if_false]
    exact ⟨_, rfl, rfl, rfl, rfl⟩

theorem next_of_discharge (discharging : service.phase = .discharge) :
    (service.next call).phase = .discharge :=
  (onCycle_of_discharge call.evDataContext call.battery discharging).1

/-- Charging ends with the cycle that reads a full battery. -/
theorem full_of_next (discharging : (service.next call).phase = .discharge) :
    service.phase = .discharge ∨ chargeTargetSoc ≤ call.soc := by
  cases phase : service.phase with
  | discharge => exact .inl rfl
  | charge =>
      right
      by_contra below
      have below' : ¬chargeTargetSoc ≤ readSoc call.evDataContext call.battery := below
      simp only [next, onCycle, nextCommand, recordCycle_phase, phase, below', if_false]
        at discharging
      cases discharging

/-- A battery that is not full is charged, with a current that its capacity gives. -/
theorem full_of_negative (capacity : 0 ≤ call.battery.capacityWh)
    (negative : (service.issued call).targetCurrentA < 0) :
    service.phase = .discharge ∨ chargeTargetSoc ≤ call.soc := by
  cases phase : service.phase with
  | discharge => exact .inl rfl
  | charge =>
      right
      by_contra below
      have below' : ¬chargeTargetSoc ≤ readSoc call.evDataContext call.battery := below
      simp only [issued, onCycle, nextCommand, recordCycle_phase, phase, below', if_false]
        at negative
      have charging : 0 ≤ call.battery.capacityWh / max call.battery.ocv 1 :=
        div_nonneg capacity (zero_le_one.trans (le_max_right _ _))
      exact absurd negative charging.not_gt

theorem discharged_of_complete (complete : (service.issued call).testComplete = true) :
    service.phase = .discharge ∧ call.soc ≤ service.cutoff := by
  cases phase : service.phase with
  | discharge =>
      have decided := (onCycle_of_discharge call.evDataContext call.battery phase).2.1
      exact ⟨rfl, of_decide_eq_true (decided.symm.trans complete)⟩
  | charge =>
      simp only [issued, onCycle, nextCommand, recordCycle_phase, phase] at complete
      split at complete
      · cases complete
      · cases complete

end

/-! ## Any number of cycles -/

/-- The service after calls, the earliest first. -/
def afterCalls (service : BatteryHealthService) (calls : List CycleCall) : BatteryHealthService :=
  calls.foldl next service

@[simp]
theorem afterCalls_concat (service : BatteryHealthService) (calls : List CycleCall)
    (call : CycleCall) :
    service.afterCalls (calls ++ [call]) = (service.afterCalls calls).next call := by
  simp [afterCalls]

theorem afterCalls_append (service : BatteryHealthService) (past later : List CycleCall) :
    service.afterCalls (past ++ later) = (service.afterCalls past).afterCalls later :=
  List.foldl_append

/-- The cycles, each with the service at its start. -/
def startsOf (service : BatteryHealthService) :
    List CycleCall → List (BatteryHealthService × CycleCall)
  | [] => []
  | call :: later => (service, call) :: (service.next call).startsOf later

theorem startsOf_concat (service : BatteryHealthService) (calls : List CycleCall)
    (call : CycleCall) :
    service.startsOf (calls ++ [call]) =
      service.startsOf calls ++ [(service.afterCalls calls, call)] := by
  induction calls generalizing service with
  | nil => rfl
  | cons first later ih =>
      simp only [List.cons_append, startsOf, ih]
      rfl

/-- The energy of the cycles that start in the discharge phase with a negative current. -/
def dischargedWh (service : BatteryHealthService) (calls : List CycleCall) : ℚ :=
  (((service.startsOf calls).filter fun cycle => cycle.1.Counts cycle.2).map
    fun cycle => cycle.2.energyWh).sum

theorem dischargedWh_concat (service : BatteryHealthService) (calls : List CycleCall)
    (call : CycleCall) :
    service.dischargedWh (calls ++ [call]) =
      service.dischargedWh calls +
        if (service.afterCalls calls).Counts call then call.energyWh else 0 := by
  unfold dischargedWh
  rw [startsOf_concat]
  by_cases counts : (service.afterCalls calls).Counts call
  · simp [counts]
  · simp [counts]

section

variable (service : BatteryHealthService) (calls : List CycleCall)

theorem afterCalls_cutoff : (service.afterCalls calls).cutoff = service.cutoff := by
  induction calls using List.reverseRecOn with
  | nil => rfl
  | append_singleton calls call ih => rw [afterCalls_concat, next_cutoff, ih]

theorem afterCalls_energyWh :
    (service.afterCalls calls).energyWh = service.energyWh + service.dischargedWh calls := by
  induction calls using List.reverseRecOn with
  | nil => exact (add_zero _).symm
  | append_singleton calls call ih =>
      rw [afterCalls_concat, next_energyWh, ih, dischargedWh_concat, add_assoc]

theorem le_afterCalls_energyWh : service.energyWh ≤ (service.afterCalls calls).energyWh := by
  induction calls using List.reverseRecOn with
  | nil => exact le_rfl
  | append_singleton calls call ih =>
      rw [afterCalls_concat, next_energyWh]
      split
      · linarith [call.energyWh_nonneg]
      · linarith

theorem afterCalls_of_discharge (discharging : service.phase = .discharge) :
    (service.afterCalls calls).phase = .discharge := by
  induction calls using List.reverseRecOn with
  | nil => exact discharging
  | append_singleton calls call ih =>
      rw [afterCalls_concat]
      exact next_of_discharge _ call ih

/-- The log has the entries it had, and one for each call. -/
theorem afterCalls_cycles :
    ∃ entries, (service.afterCalls calls).cycles = service.cycles ++ entries ∧
      entries.length = calls.length := by
  induction calls using List.reverseRecOn with
  | nil => exact ⟨[], (List.append_nil _).symm, rfl⟩
  | append_singleton calls call ih =>
      obtain ⟨entries, logged, length⟩ := ih
      obtain ⟨entry, appended, _⟩ := next_cycles (service.afterCalls calls) call
      refine ⟨entries ++ [entry], ?_, ?_⟩
      · rw [afterCalls_concat, appended, logged, List.append_assoc]
      · simp [length]

end

/-! ## After a selection -/

section

variable {service : BatteryHealthService} {calls : List CycleCall}

theorem length_cycles (empty : service.cycles = []) (calls : List CycleCall) :
    (service.afterCalls calls).cycles.length = calls.length := by
  obtain ⟨entries, logged, length⟩ := afterCalls_cycles service calls
  rw [logged, empty, List.nil_append, length]

theorem indices (empty : service.cycles = []) :
    (service.afterCalls calls).cycles.map Cycle.index = List.range calls.length := by
  induction calls using List.reverseRecOn with
  | nil => rw [show (service.afterCalls []).cycles = [] from empty]; rfl
  | append_singleton calls call ih =>
      obtain ⟨entry, appended, index, _⟩ := next_cycles (service.afterCalls calls) call
      rw [afterCalls_concat, appended, List.map_append, ih, List.map_singleton, index,
        length_cycles empty calls, List.length_append, List.length_singleton, List.range_succ]

/-- The discharge phase has been entered in a cycle that read a full battery. -/
theorem full_of_discharge (charging : service.phase = .charge)
    (discharging : (service.afterCalls calls).phase = .discharge) :
    ∃ call ∈ calls, chargeTargetSoc ≤ call.soc := by
  induction calls using List.reverseRecOn with
  | nil => cases charging.symm.trans discharging
  | append_singleton calls call ih =>
      rw [afterCalls_concat] at discharging
      rcases full_of_next _ call discharging with before | full
      · obtain ⟨earlier, member, full⟩ := ih before
        exact ⟨earlier, List.mem_append_left _ member, full⟩
      · exact ⟨call, List.mem_append_right _ List.mem_cons_self, full⟩

end

/-- What a test has recorded and commanded after calls that follow its selection. -/
structure Bookkeeping (selected : BatteryHealthService) (calls : List CycleCall) : Prop where
  energy : (selected.afterCalls calls).energyWh = selected.dischargedWh calls
  grows : ∀ past later, calls = past ++ later →
    (selected.afterCalls past).energyWh ≤ (selected.afterCalls calls).energyWh
  indices : (selected.afterCalls calls).cycles.map Cycle.index = List.range calls.length
  logged : ∀ past call later, calls = past ++ call :: later →
    ((selected.afterCalls calls).cycles[past.length]?).map Cycle.energyWh =
      some (roundDigits 4 (selected.dischargedWh (past ++ [call])))
  phase : ∀ past later, calls = past ++ later →
    (selected.afterCalls past).phase = .discharge →
      (selected.afterCalls calls).phase = .discharge
  complete : ∀ past call later, calls = past ++ call :: later →
    ((selected.afterCalls past).issued call).testComplete = true →
      (selected.afterCalls past).phase = .discharge ∧ call.soc ≤ selected.cutoff

/-- Every command to discharge comes in or after a cycle that reads a full battery. -/
def DischargesWhenFull (selected : BatteryHealthService) (calls : List CycleCall) : Prop :=
  ∀ past call later, calls = past ++ call :: later →
    ((selected.afterCalls past).issued call).targetCurrentA < 0 →
      ∃ full ∈ past ++ [call], chargeTargetSoc ≤ full.soc

section

variable {selected : BatteryHealthService} {calls : List CycleCall}

theorem logged_energyWh (empty : selected.cycles = []) (fresh : selected.energyWh = 0)
    (past later : List CycleCall) (call : CycleCall) :
    ((selected.afterCalls (past ++ call :: later)).cycles[past.length]?).map Cycle.energyWh =
      some (roundDigits 4 (selected.dischargedWh (past ++ [call]))) := by
  have split : past ++ call :: later = (past ++ [call]) ++ later := by simp
  obtain ⟨entries, kept, _⟩ := afterCalls_cycles (selected.afterCalls (past ++ [call])) later
  obtain ⟨entry, appended, _, _, energy⟩ := next_cycles (selected.afterCalls past) call
  have length := length_cycles empty past
  have sum := afterCalls_energyWh selected (past ++ [call])
  rw [fresh, zero_add] at sum
  rw [← sum, afterCalls_concat, ← energy, split, afterCalls_append, kept, afterCalls_concat,
    appended, ← length, List.append_assoc, List.getElem?_append_right le_rfl, Nat.sub_self]
  rfl

end

/-- Every test keeps its books. A command to discharge needs a full battery, where the battery
that the station passes has a capacity. -/
theorem bookkeeping_of_selected (service : BatteryHealthService)
    (parameterSet : Option Iso15118.Shared.V20.ParameterSet) (battery : BatterySimulator)
    (calls : List CycleCall) :
    Bookkeeping (service.onSelected parameterSet battery) calls ∧
      ((∀ call ∈ calls, 0 ≤ call.battery.capacityWh) →
        DischargesWhenFull (service.onSelected parameterSet battery) calls) := by
  generalize fresh : service.onSelected parameterSet battery = selected
  have charging : selected.phase = .charge := by rw [← fresh]; rfl
  have empty : selected.cycles = [] := by rw [← fresh]; rfl
  have zero : selected.energyWh = 0 := by rw [← fresh]; rfl
  constructor
  · constructor
    case energy => rw [afterCalls_energyWh, zero, zero_add]
    case grows =>
      rintro past later rfl
      rw [afterCalls_append]
      exact le_afterCalls_energyWh _ later
    case indices => exact indices empty
    case logged =>
      rintro past call later rfl
      exact logged_energyWh empty zero past later call
    case phase =>
      rintro past later rfl discharging
      rw [afterCalls_append]
      exact afterCalls_of_discharge _ later discharging
    case complete =>
      rintro past call later rfl complete
      rw [← afterCalls_cutoff selected past]
      exact discharged_of_complete _ call complete
  · rintro capacity past call later rfl negative
    rcases full_of_negative _ call (capacity call (by simp)) negative with discharging | full
    · obtain ⟨earlier, member, full⟩ := full_of_discharge charging discharging
      exact ⟨earlier, List.mem_append_left _ member, full⟩
    · exact ⟨call, by simp, full⟩

/-- The station's own battery, which is full in the first cycle and discharged in the second. -/
theorem dischargesWhenFull_default :
    DischargesWhenFull (({} : BatteryHealthService).onSelected none {})
      [⟨{ presentSoc := some 100 }, {}⟩, ⟨{ presentSoc := some 60, targetCurrent := -50 }, {}⟩] :=
  (bookkeeping_of_selected {} none {} _).2 (by decide)

end Iso15118.Shared.BatteryHealthService
