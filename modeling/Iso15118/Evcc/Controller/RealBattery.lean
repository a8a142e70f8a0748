import Iso15118.Evcc.V20.Session
import Iso15118.Library.Binary64
import Iso15118.Library.Rounding

/-!
# The simulated battery

`RealBatterySimulator` of `evcc/controller/simulator.py`, with its methods for ISO 15118-20.
What it reads of the clock and of the random generator is a part of its state. Floats are
rationals; the power of dynamic control is computed in double precision.
-/

namespace Iso15118.Evcc

open Iso15118.Shared
open Iso15118.Shared.V20
open Iso15118.Evcc.V20
open Rounding

/-- The settings of `EVCCConfig` that the simulator reads. -/
structure EVCCConfig where
  supportedEnergyServices : List ServiceV20
  isCertInstallNeeded : Bool := false
  diagnosticServiceId : Option Int := some 0
  energyTransferMode : Option EnergyTransferMode := some .acThreePhaseCore

inductive DiagPhase where
  | charge
  | discharge
  deriving DecidableEq, Repr

/-- The attributes that methods change, and what the clock and the random generator will
give. The power limit of the SECC is no attribute before it has been received. -/
structure RealBatterySimulator where
  config : EVCCConfig
  soc : ℚ := 20
  currentPowerW : ℚ := 0
  seccMaxCurrent : ℚ := 60
  seccMaxVoltage : ℚ := 500
  seccMaxPowerW : Option ℚ := none
  lastUpdateTime : ℚ := 0
  chargingIsCompleted : Bool := false
  diagActive : Bool := false
  diagPhase : DiagPhase := .charge
  diagDischargeIA : ℚ := 0
  diagCutoffSoc : Int := 20
  prechargeLoopCycles : Nat := 0
  weldingDetectionCycles : Nat := 0
  targetSoc : ℚ := 90
  bulkSoc : ℚ := 80
  clock : Nat → ℚ := fun _ => 0
  randomBits : Nat → Bool := fun _ => true

namespace RealBatterySimulator

def totalBatteryCapacityWh : ℚ := 500
def maxVoltage : ℚ := 500
def minVoltage : ℚ := 300
def maxChargeCurrent : ℚ := 60
def maxChargePowerW : ℚ := 20000

/-- A method of the simulator. -/
abbrev Method := EStateM PyError RealBatterySimulator

/-- `time.time()`. -/
def time : Method ℚ := do
  let battery ← get
  set { battery with clock := fun reading => battery.clock (reading + 1) }
  return battery.clock 0

/-- `random.getrandbits(1)`. -/
def randomBit : Method Bool := do
  let battery ← get
  set { battery with randomBits := fun draw => battery.randomBits (draw + 1) }
  return battery.randomBits 0

/-- `_rational`. -/
def rational (valueFloat : ℚ) (exponent : Int := 0) : Except PyError RationalNumber :=
  RationalNumber.new exponent (roundHalfEven (valueFloat / 10 ^ exponent))

/-- `RationalNumber.get_rational_repr` of a number. -/
def rationalRepr (value : Int) : Except PyError RationalNumber :=
  RationalNumber.new (getExponentValueRepr value).1 (getExponentValueRepr value).2

/-- `_compute_voltage`. -/
def computeVoltage (battery : RealBatterySimulator) : ℚ :=
  minVoltage + (maxVoltage - minVoltage) * (battery.soc / 100)

/-- The energy that has flowed since the last update, in the state of charge. -/
def integrate (battery : RealBatterySimulator) (powerWatts deltaTS : ℚ) : ℚ :=
  max 0 (min 100
    (battery.soc + powerWatts * deltaTS / 3600 / totalBatteryCapacityWh * 100))

/-- `update_battery_state`. Tiny time steps are skipped. -/
def updateBatteryState (powerWatts : ℚ) : Method PUnit := do
  let now ← time
  let battery ← get
  let deltaTS := now - battery.lastUpdateTime
  set { battery with
    lastUpdateTime := now
    currentPowerW := powerWatts
    soc := if deltaTS < 1 / 100 then battery.soc else battery.integrate powerWatts deltaTS }

/-! ## Services -/

/-- `select_energy_service_v20`, which picks the first service. -/
def selectEnergyServiceV20 (services : List MatchedService) : Method SelectedEnergyService :=
  match services with
  | [] => throw .indexError
  | top :: _ =>
      match top.parameterSets with
      | [] => throw .indexError
      | parameterSet :: _ => return ⟨top.service, top.isFree, parameterSet⟩

/-- An integer parameter of a name, where it is not zero. -/
def readParameter (name : String) (param : Parameter) (default : Int) : Int :=
  if param.name = name then
    match param.intValue with
    | some value => if value ≠ 0 then value else default
    | none => default
  else
    default

/-- The parameters of a diagnostic test. -/
structure DiagParameters where
  cRate : Int := 5
  cutoff : Int := 20
  maxISecc : Int := 50
  deriving DecidableEq

/-- The loop over the parameters in `_activate_diagnostic`. -/
def DiagParameters.read (diag : DiagParameters) (param : Parameter) : DiagParameters where
  cRate := readParameter "RequestedCRate" param diag.cRate
  cutoff := readParameter "CutoffSOC" param diag.cutoff
  maxISecc := readParameter "MaxTestCurrentA" param diag.maxISecc

/-- The parameters that a set gives, and the defaults for the others. -/
def diagParameters (parameterSet : Option ParameterSet) : DiagParameters :=
  ((parameterSet.map ParameterSet.parameters).getD []).foldl DiagParameters.read {}

/-- `_activate_diagnostic`. -/
def activateDiagnostic (matched : MatchedService) : Method PUnit :=
  modify fun battery =>
    let diag := diagParameters matched.parameterSets.head?
    let capacityAh := totalBatteryCapacityWh / max battery.computeVoltage 1
    { battery with
      diagActive := true
      diagPhase := .charge
      diagDischargeIA := min (min (diag.cRate * capacityAh) diag.maxISecc) maxChargeCurrent
      diagCutoffSoc := diag.cutoff }

/-- `SelectedVAS(...)`. -/
def selectedVas (matched : MatchedService) : SelectedVAS :=
  ⟨matched.service, matched.isFree, matched.parameterSets.head?⟩

/-- `select_vas_services_v20`. -/
def selectVasServicesV20 (services : List MatchedService) :
    Method (Option (List SelectedVAS)) := do
  let battery ← get
  let vasOnly := services.filter fun matched => !matched.isEnergyService
  let targetId := battery.config.diagnosticServiceId.getD 0
  if vasOnly.isEmpty then
    return some []
  else if targetId = 0 then
    return some (vasOnly.map selectedVas)
  else
    match vasOnly.find? fun matched => matched.service.id = targetId with
    | some matched => do
        activateDiagnostic matched
        return some [selectedVas matched]
    | none => return some []

/-! ## Charge parameters and schedules -/

/-- `get_charge_params_v20`. -/
def getChargeParamsV20 (selectedService : SelectedEnergyService) : Method ChargeParams := do
  let power ← Effect.ofExcept (RationalNumber.new 3 11)
  let minPower ← Effect.ofExcept (RationalNumber.new 0 100)
  let maxCurrent ← Effect.ofExcept (rational maxChargeCurrent)
  let minCurrent ← Effect.ofExcept (RationalNumber.new 0 1)
  let maxVolts ← Effect.ofExcept (rational maxVoltage)
  let minVolts ← Effect.ofExcept (rational minVoltage)
  let acCpd : ACChargeParameterDiscoveryReqParams := ⟨power, none, none, minPower, none, none⟩
  let dcCpd : DCChargeParameterDiscoveryReqParams :=
    ⟨power, minPower, maxCurrent, minCurrent, maxVolts, minVolts, none⟩
  match selectedService.service with
  | .ac => return .ac acCpd
  | .acBpt => return .bptAc ⟨acCpd, power, none, none, minPower, none, none⟩
  | .dc => return .dc dcCpd
  | .dcBpt => do
      let minDischargePower ← Effect.ofExcept (RationalNumber.new 3 1)
      let maxDischargeCurrent ← Effect.ofExcept (RationalNumber.new 0 32)
      let minDischargeCurrent ← Effect.ofExcept (RationalNumber.new 0 0)
      return .bptDc ⟨dcCpd, power, minDischargePower, maxDischargeCurrent, minDischargeCurrent⟩
  | _ => throw .notImplementedError

/-- `update_secc_limits`. -/
def updateSeccLimits (maxCurrent maxVolts maxPower : ℚ) : Method PUnit :=
  modify fun battery =>
    { battery with
      seccMaxCurrent := min maxCurrent maxChargeCurrent
      seccMaxVoltage := min maxVolts maxVoltage
      seccMaxPowerW := some (min maxPower maxChargePowerW)
      currentPowerW := min maxPower maxChargePowerW }

/-- `get_scheduled_se_params`. -/
def getScheduledSeParams : Method ScheduledScheduleExchangeReqParams := do
  let target ← Effect.ofExcept (RationalNumber.new 3 10)
  let most ← Effect.ofExcept (RationalNumber.new 3 20)
  let least ← Effect.ofExcept (RationalNumber.new (-2) 5)
  return ⟨some 7200, some target, some most, some least⟩

/-- `get_dynamic_se_params` gives the model a field `bulk_soc`, which it does not have. -/
def getDynamicSeParams : Method DynamicScheduleExchangeReqParams :=
  throw .validationError

/-- `EVPowerScheduleEntryList(...)` has at most 1024 entries. -/
def checkEntries (entries : List PowerScheduleEntry) :
    Except PyError (List PowerScheduleEntry) :=
  if entries.length ≤ 1024 then .ok entries else .error .validationError

/-- The progress of an EV that is ready. -/
def chargeProgress (pause : Option Bool) : ChargeProgress :=
  if pause = some true then .stop else .start

/-- `process_scheduled_se_params`. -/
def processScheduledSeParams (scheduledParams : Option ScheduledScheduleExchangeResParams)
    (pause : Option Bool) : Method (Option EVPowerProfile × ChargeProgress) := do
  let isReady ← randomBit
  if isReady then
    match scheduledParams with
    | none => throw .attributeError
    | some params =>
        match params.scheduleTuples with
        | [] => throw .indexError
        | selectedSchedule :: _ => do
            let entries ← Effect.ofExcept (checkEntries selectedSchedule.chargingEntries)
            return (some ⟨entries, .scheduled selectedSchedule.scheduleTupleId⟩,
              chargeProgress pause)
  else
    return (none, .start)

/-- The share of the power that a price level leaves, at least a half of it. -/
def priceScale (numPriceLevels priceLevel : Int) : ℚ :=
  max (1 / 2) (Binary64.sub 1
    (Binary64.div (Binary64.mul (1 / 2) (priceLevel - 1)) (max numPriceLevels 1)))

/-- The power that the first price level of the station leaves of the EV's maximum. -/
def stationPowerW (maxPowerW : ℚ) (params : DynamicScheduleExchangeResParams) : ℚ :=
  match params.priceLevelSchedule with
  | some ⟨numPriceLevels, priceLevel :: _⟩ =>
      Binary64.mul maxPowerW (priceScale numPriceLevels priceLevel)
  | _ => maxPowerW

/-- The power that an EV with some maximum requests. -/
def desiredPowerWOf (maxPowerW : ℚ) (params : DynamicScheduleExchangeResParams) : ℚ :=
  min (stationPowerW maxPowerW params) maxPowerW

/-- The power that the EV requests. -/
def desiredPowerW (params : DynamicScheduleExchangeResParams) : ℚ :=
  desiredPowerWOf maxChargePowerW params

/-- `process_dynamic_se_params`. -/
def processDynamicSeParams (dynamicParams : Option DynamicScheduleExchangeResParams)
    (pause : Option Bool) : Method (Option EVPowerProfile × ChargeProgress) := do
  let isReady ← randomBit
  if isReady then
    match dynamicParams with
    | none => throw .attributeError
    | some params => do
        modify fun battery =>
          { battery with
            targetSoc := (params.targetSoc.map fun soc => (soc : ℚ)).getD battery.targetSoc
            bulkSoc := (params.minSoc.map fun soc => (soc : ℚ)).getD battery.bulkSoc
            currentPowerW := desiredPowerW params }
        let power ← Effect.ofExcept (RationalNumber.new 3 (roundHalfEven
          (Binary64.div (desiredPowerW params) 1000)))
        let departureTime := params.departureTime.getD 0
        return (some ⟨[⟨if departureTime = 0 then 3600 else departureTime, power⟩], .dynamic⟩,
          chargeProgress pause)
  else
    return (none, .start)

/-! ## Voltages and phases -/

/-- `get_present_voltage`. -/
def getPresentVoltage : Method RationalNumber := do
  let battery ← get
  Effect.ofExcept (rational battery.computeVoltage)

/-- `get_target_voltage`. -/
def getTargetVoltage : Method RationalNumber :=
  Effect.ofExcept (rational maxVoltage)

/-- `is_precharged`. -/
def isPrecharged (presentVoltageEvse : RationalNumber) : Method Bool := do
  let evVoltage ← getPresentVoltage
  let battery ← get
  if 5 ≤ battery.prechargeLoopCycles ∨
      presentVoltageEvse.getDecimalValue = evVoltage.getDecimalValue then
    return true
  else do
    set { battery with prechargeLoopCycles := battery.prechargeLoopCycles + 1 }
    return false

/-- `welding_detection_has_finished`. -/
def weldingDetectionHasFinished : Method Bool := do
  let battery ← get
  if 3 ≤ battery.weldingDetectionCycles then
    return true
  else do
    set { battery with weldingDetectionCycles := battery.weldingDetectionCycles + 1 }
    return false

/-- `is_charging_complete`, which switches the phase of a diagnostic test. -/
def isChargingComplete : Method Bool := do
  let battery ← get
  if battery.diagActive then
    match battery.diagPhase with
    | .charge =>
        if 100 ≤ battery.soc then do
          set { battery with
            diagPhase := .discharge
            currentPowerW := -(battery.diagDischargeIA * battery.computeVoltage) }
          return false
        else
          return false
    | .discharge =>
        if battery.soc ≤ battery.diagCutoffSoc then do
          set { battery with chargingIsCompleted := true }
          return true
        else
          return false
  else
    return battery.targetSoc ≤ battery.soc || battery.chargingIsCompleted

/-- `continue_charging`. -/
def continueCharging : Method Bool := do
  let battery ← get
  let complete ← if battery.chargingIsCompleted then pure true else isChargingComplete
  if complete then
    return false
  else do
    let battery ← get
    updateBatteryState battery.currentPowerW
    return true

/-- `get_display_params`. -/
def getDisplayParams : Method DisplayParameters := do
  let battery ← get
  let complete ← isChargingComplete
  let presentSoc := roundHalfEven battery.soc
  let targetSoc := truncate battery.targetSoc
  if range : SocRange (some presentSoc) ∧ SocRange (some targetSoc) then
    return {
      presentSoc := some presentSoc
      minSoc := some 10
      targetSoc := some targetSoc
      maxSoc := none
      remainingTimeToMinSoc := none
      remainingTimeToTargetSoc := none
      remainingTimeToMaxSoc := none
      chargingComplete := complete
      batteryEnergyCapacity := none
      presentSoc_range := range.1
      minSoc_range := by simp [SocRange]
      targetSoc_range := range.2
      maxSoc_range := socRange_none }
  else
    throw .validationError

/-! ## Charge loops -/

/-- The energy that the battery can still take. -/
def remainingEnergyWh (battery : RealBatterySimulator) : ℚ :=
  (100 - battery.soc) / 100 * totalBatteryCapacityWh

/-- `get_ac_charge_loop_params_v20`. -/
def getAcChargeLoopParamsV20 (controlMode : Option ControlMode) (selectedService : ServiceV20) :
    Method ACChargeLoopReqParams := do
  let battery ← get
  updateBatteryState battery.currentPowerW
  let battery ← get
  let presentPower ← Effect.ofExcept (rational battery.currentPowerW 3)
  let zero ← Effect.ofExcept (RationalNumber.new 0 0)
  let minPower ← Effect.ofExcept (RationalNumber.new 0 100)
  let maxPower ← Effect.ofExcept (rational maxChargePowerW 3)
  if controlMode = some .scheduled then do
    let params : ScheduledACChargeLoopReqParams :=
      ⟨none, none, none, none, none, none, none, none, none, presentPower, none, none, none, none,
        none⟩
    if selectedService = .acBpt then
      return .bptScheduled ⟨params, none, none, none, none, none, none⟩
    else
      return .scheduled params
  else do
    let target ← Effect.ofExcept (rational (battery.remainingEnergyWh * (9 / 10)) 3)
    let most ← Effect.ofExcept (rational battery.remainingEnergyWh 3)
    let params : DynamicACChargeLoopReqParams :=
      ⟨some 2000, target, most, zero, maxPower, none, none, minPower, none, none, presentPower,
        none, none, zero, none, none⟩
    if selectedService = .acBpt then
      return .bptDynamic ⟨params, maxPower, none, none, minPower, none, none, none, none⟩
    else
      return .dynamic params

/-- `get_scheduled_dc_charge_loop_params`. -/
def getScheduledDcChargeLoopParams : Method ScheduledDCChargeLoopReqParams := do
  let battery ← get
  updateBatteryState battery.currentPowerW
  let battery ← get
  match battery.seccMaxPowerW with
  | none => throw .attributeError
  | some seccMaxPowerW => do
      let voltage := battery.computeVoltage
      let current ← Effect.ofExcept
        (rational (min battery.currentPowerW seccMaxPowerW / max voltage 1))
      let voltage ← Effect.ofExcept (rational voltage)
      return ⟨none, none, none, current, voltage, none, none, none, none, none⟩

/-- `get_dynamic_dc_charge_loop_params`. -/
def getDynamicDcChargeLoopParams : Method DynamicDCChargeLoopReqParams := do
  let battery ← get
  updateBatteryState battery.currentPowerW
  let battery ← get
  let target ← Effect.ofExcept (rational (battery.remainingEnergyWh * (9 / 10)) 3)
  let most ← Effect.ofExcept (rational battery.remainingEnergyWh 3)
  let zero ← Effect.ofExcept (RationalNumber.new 0 0)
  let maxPower ← Effect.ofExcept (rational maxChargePowerW 3)
  let minPower ← Effect.ofExcept (RationalNumber.new 0 100)
  let maxCurrent ← Effect.ofExcept (rational maxChargeCurrent)
  let maxVolts ← Effect.ofExcept (rational maxVoltage)
  let minVolts ← Effect.ofExcept (rational minVoltage)
  return ⟨none, target, most, zero, maxPower, minPower, maxCurrent, maxVolts, minVolts⟩

/-- `get_bpt_scheduled_dc_charge_loop_params`. -/
def getBptScheduledDcChargeLoopParams : Method BPTScheduledDCChargeLoopReqParams := do
  let battery ← get
  if battery.diagActive ∧ battery.diagPhase = .discharge then do
    let voltage := battery.computeVoltage
    let iDischarge := -battery.diagDischargeIA
    let dischargePw := |iDischarge * voltage|
    set { battery with currentPowerW := -dischargePw }
    let current ← Effect.ofExcept (rationalRepr (truncate iDischarge))
    let target ← Effect.ofExcept (rationalRepr (truncate voltage))
    let maxPower ← Effect.ofExcept (rationalRepr (truncate dischargePw))
    let minPower ← Effect.ofExcept (rationalRepr 0)
    let maxCurrent ← Effect.ofExcept (rationalRepr (truncate battery.diagDischargeIA))
    return ⟨⟨none, none, none, current, target, none, none, none, none, none⟩, some maxPower,
      some minPower, some maxCurrent⟩
  else do
    let base ← getScheduledDcChargeLoopParams
    return ⟨base, none, none, none⟩

/-- `get_bpt_dynamic_dc_charge_loop_params`. -/
def getBptDynamicDcChargeLoopParams : Method BPTDynamicDCChargeLoopReqParams := do
  let base ← getDynamicDcChargeLoopParams
  let maxPower ← Effect.ofExcept (rational maxChargePowerW 3)
  let minPower ← Effect.ofExcept (RationalNumber.new 0 100)
  let maxCurrent ← Effect.ofExcept (rational maxChargeCurrent)
  return ⟨base, maxPower, minPower, maxCurrent, none, none⟩

end RealBatterySimulator

open RealBatterySimulator in
instance : V20.EVController RealBatterySimulator where
  isCertInstallNeeded := do return (← get).config.isCertInstallNeeded
  getPrioritisedEmaids := pure ⟨⟩
  getSupportedEnergyServices := do return (← get).config.supportedEnergyServices
  selectEnergyServiceV20 := selectEnergyServiceV20
  selectVasServicesV20 := selectVasServicesV20
  getChargeParamsV20 := getChargeParamsV20
  updateSeccLimits := updateSeccLimits
  getScheduledSeParams _ := getScheduledSeParams
  getDynamicSeParams _ := getDynamicSeParams
  processScheduledSeParams := processScheduledSeParams
  processDynamicSeParams := processDynamicSeParams
  enableCharging _ := pure ⟨⟩
  getPresentVoltage := getPresentVoltage
  getTargetVoltage := getTargetVoltage
  isPrecharged := isPrecharged
  continueCharging := continueCharging
  chargeLoopDelay := pure ⟨⟩
  getAcChargeLoopParamsV20 := getAcChargeLoopParamsV20
  getScheduledDcChargeLoopParams := getScheduledDcChargeLoopParams
  getDynamicDcChargeLoopParams := getDynamicDcChargeLoopParams
  getBptScheduledDcChargeLoopParams := getBptScheduledDcChargeLoopParams
  getBptDynamicDcChargeLoopParams := getBptDynamicDcChargeLoopParams
  getDisplayParams := getDisplayParams
  weldingDetectionHasFinished := weldingDetectionHasFinished

end Iso15118.Evcc
