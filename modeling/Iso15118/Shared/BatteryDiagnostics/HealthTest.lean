import Iso15118.Shared.BatteryDiagnostics.BaseService

/-!
# The battery health test

`BatteryHealthService` charges to 100 % and then discharges to a cut-off. The
EV's voltage, current and state of charge come from the EV data context, where
zero counts as missing.
-/

namespace Iso15118.Shared

open Rounding
open Iso15118.Shared.V20
open Iso15118.Secc

namespace BatteryHealthService

def defaultCRate : ℚ := 50

def defaultCutoff : Int := 20

def defaultMaxIA : ℚ := 500

def chargeTargetSoc : ℚ := 100

def cycleDtS : ℚ := 3

inductive Phase where
  | charge
  | discharge
  deriving DecidableEq, Repr

/-- One entry of the telemetry. -/
structure Cycle where
  index : Nat
  phase : Phase
  socPct : ℚ
  voltageV : ℚ
  currentA : ℚ
  powerW : ℚ
  energyWh : ℚ
  rIntMohm : ℚ
  temperatureC : ℚ
  deriving DecidableEq

end BatteryHealthService

open BatteryHealthService

/-- The service object. `battery` is the reference that `on_selected` stores. -/
structure BatteryHealthService where
  cRate : ℚ := defaultCRate
  cutoff : Int := defaultCutoff
  maxIA : ℚ := defaultMaxIA
  phase : Phase := .charge
  battery : Option BatterySimulator := none
  cycles : List Cycle := []
  energyWh : ℚ := 0
  deriving DecidableEq

namespace BatteryHealthService

def serviceId : Int := 101

/-- `get_parameter_list`: one parameter set with the default parameters. -/
def getParameterList : ServiceParameterList where
  parameterSets := [{
    id := 1
    parameters := [
      ⟨"Connector", .intValue 2⟩,
      ⟨"ControlMode", .intValue 1⟩,
      ⟨"MobilityNeedsMode", .intValue 1⟩,
      ⟨"RequestedCRate", .intValue (truncate defaultCRate)⟩,
      ⟨"MaxTestCurrentA", .intValue (truncate defaultMaxIA)⟩,
      ⟨"CutoffSOC", .intValue defaultCutoff⟩] }]

/-- One parameter in the loop of `on_selected`. -/
def readParameter (service : BatteryHealthService) (parameter : Parameter) :
    BatteryHealthService :=
  match parameter.intValue with
  | none => service
  | some value =>
      if parameter.name = "RequestedCRate" then { service with cRate := value }
      else if parameter.name = "MaxTestCurrentA" then { service with maxIA := value }
      else if parameter.name = "CutoffSOC" then { service with cutoff := value }
      else service

/-- `on_selected`: read the parameters over the values in force, and reset the
runtime state. -/
def onSelected (service : BatteryHealthService) (parameterSet : Option ParameterSet)
    (battery : BatterySimulator) : BatteryHealthService :=
  let service := { service with battery := some battery }
  let service :=
    match parameterSet with
    | some parameterSet => parameterSet.parameters.foldl readParameter service
    | none => service
  { service with phase := .charge, cycles := [], energyWh := 0 }

/-- `_discharge_command`. -/
def dischargeCommand (service : BatteryHealthService) (battery : BatterySimulator) :
    CurrentCommand :=
  let capacityAh := battery.capacityWh / max battery.ocv 1
  let requestedI := service.cRate * capacityAh
  let operativeI := min requestedI service.maxIA
  { targetCurrentA := -operativeI
    targetVoltageV := battery.ocv
    phaseLabel := .discharge service.cRate
    testComplete := false }

/-- `_next_command`. -/
def nextCommand (service : BatteryHealthService) (soc : ℚ) (battery : BatterySimulator) :
    CurrentCommand × BatteryHealthService :=
  match service.phase with
  | .charge =>
      if chargeTargetSoc ≤ soc then
        let service := { service with phase := .discharge }
        (service.dischargeCommand battery, service)
      else
        ({ targetCurrentA := battery.capacityWh / max battery.ocv 1
           targetVoltageV := battery.ocv
           phaseLabel := .charge
           testComplete := false }, service)
  | .discharge =>
      if soc ≤ service.cutoff then
        ({ targetCurrentA := 0
           targetVoltageV := battery.ocv
           phaseLabel := .dischargeComplete
           testComplete := true }, service)
      else
        (service.dischargeCommand battery, service)

/-- The voltage of this cycle: `present_voltage or battery.ocv()`. -/
def readVoltage (evDataContext : EVDataContext) (battery : BatterySimulator) : ℚ :=
  (truthy evDataContext.presentVoltage).getD battery.ocv

/-- The state of charge of this cycle: `present_soc or battery.soc`. -/
def readSoc (evDataContext : EVDataContext) (battery : BatterySimulator) : ℚ :=
  ((truthy evDataContext.presentSoc).map fun soc => (soc : ℚ)).getD battery.soc

/-- The diagnostic part of `on_cycle`: energy and telemetry. -/
def recordCycle (service : BatteryHealthService) (evDataContext : EVDataContext)
    (battery : BatterySimulator) : BatteryHealthService :=
  let voltage := readVoltage evDataContext battery
  let current := evDataContext.targetCurrent
  let soc := readSoc evDataContext battery
  let powerW := |voltage * current|
  let service :=
    if service.phase = .discharge ∧ current < 0 then
      { service with energyWh := service.energyWh + powerW * (cycleDtS / 3600) }
    else
      service
  let cycle : Cycle :=
    { index := service.cycles.length
      phase := service.phase
      socPct := roundDigits 1 soc
      voltageV := roundDigits 3 voltage
      currentA := roundDigits 3 current
      powerW := roundDigits 1 powerW
      energyWh := roundDigits 4 service.energyWh
      rIntMohm := roundDigits 2 (battery.estimateRInt voltage current * 1000)
      temperatureC := battery.temperatureC }
  { service with cycles := service.cycles ++ [cycle] }

/-- `on_cycle`. -/
def onCycle (service : BatteryHealthService) (evDataContext : EVDataContext)
    (battery : BatterySimulator) : CurrentCommand × BatteryHealthService :=
  (service.recordCycle evDataContext battery).nextCommand (readSoc evDataContext battery) battery

instance : DiagnosticService BatteryHealthService where
  serviceId := fun _ => serviceId
  getParameterList := fun _ => getParameterList
  onSelected := onSelected
  onCycle := fun service evDataContext battery => .ok (service.onCycle evDataContext battery)

@[simp]
theorem recordCycle_phase (service : BatteryHealthService) (evDataContext : EVDataContext)
    (battery : BatterySimulator) :
    (service.recordCycle evDataContext battery).phase = service.phase := by
  unfold recordCycle
  simp only
  split <;> rfl

@[simp]
theorem recordCycle_cutoff (service : BatteryHealthService) (evDataContext : EVDataContext)
    (battery : BatterySimulator) :
    (service.recordCycle evDataContext battery).cutoff = service.cutoff := by
  unfold recordCycle
  simp only
  split <;> rfl

/-- Testing does not change the parameters. -/
theorem onCycle_cutoff (service : BatteryHealthService) (evDataContext : EVDataContext)
    (battery : BatterySimulator) :
    (service.onCycle evDataContext battery).2.cutoff = service.cutoff := by
  unfold onCycle nextCommand
  split
  · split
    · exact recordCycle_cutoff service evDataContext battery
    · exact recordCycle_cutoff service evDataContext battery
  · split
    · exact recordCycle_cutoff service evDataContext battery
    · exact recordCycle_cutoff service evDataContext battery

/-- What a cycle in the discharge phase does: complete at or below the cut-off,
discharge above it, and stay in the phase. -/
theorem onCycle_of_discharge {service : BatteryHealthService} (evDataContext : EVDataContext)
    (battery : BatterySimulator) (phase : service.phase = .discharge) :
    (service.onCycle evDataContext battery).2.phase = .discharge ∧
      (service.onCycle evDataContext battery).1.testComplete =
        decide (readSoc evDataContext battery ≤ service.cutoff) ∧
      (readSoc evDataContext battery ≤ service.cutoff →
        (service.onCycle evDataContext battery).1.targetCurrentA = 0) := by
  have recorded : (service.recordCycle evDataContext battery).phase = .discharge := by
    rw [recordCycle_phase, phase]
  simp only [onCycle, nextCommand, recorded, recordCycle_cutoff]
  by_cases reached : readSoc evDataContext battery ≤ service.cutoff
  · simp [reached, phase]
  · simp [reached, phase, dischargeCommand]

/-- A cycle with a test that charges switches at 100 %, and completes nothing. -/
theorem onCycle_of_charge {service : BatteryHealthService} (evDataContext : EVDataContext)
    (battery : BatterySimulator) (phase : service.phase = .charge) :
    ((service.onCycle evDataContext battery).2.phase = .discharge ↔
        100 ≤ readSoc evDataContext battery) ∧
      (service.onCycle evDataContext battery).1.testComplete = false := by
  have recorded : (service.recordCycle evDataContext battery).phase = .charge := by
    rw [recordCycle_phase, phase]
  simp only [onCycle, nextCommand, recorded, chargeTargetSoc]
  by_cases full : 100 ≤ readSoc evDataContext battery
  · simp [full, dischargeCommand]
  · simp [full, phase]

end BatteryHealthService

end Iso15118.Shared
