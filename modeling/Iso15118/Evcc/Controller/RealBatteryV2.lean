import Iso15118.Evcc.Controller.RealBattery
import Iso15118.Evcc.Controller.Simulator
import Iso15118.Evcc.V2.Session

/-!
# The simulated battery in ISO 15118-2

The methods of `RealBatterySimulator` that the states of ISO 15118-2 call.
-/

namespace Iso15118.Evcc

open Iso15118.Shared
open Iso15118.Shared.V2
open Iso15118.Evcc.V2
open Rounding

namespace RealBatterySimulator

/-! ## The limits of the vehicle -/

def dcMaxCurrentLimit : PhysicalValue := ⟨32000, -3, by decide, by decide⟩

def dcMaxPowerLimit : PhysicalValue := ⟨11, 3, by decide, by decide⟩

def dcMaxVoltageLimit : PhysicalValue := ⟨500, 0, by decide, multiplier_zero⟩

/-! ## Methods -/

/-- `get_energy_transfer_mode`. The state reads an attribute of the mode. -/
def getEnergyTransferMode : Method EnergyTransferMode := do
  let battery ← get
  match battery.config.energyTransferMode with
  | some energyMode => return energyMode
  | none => throw .attributeError

/-- `get_dc_ev_status`. -/
def getDcEvStatus : Method DCEVStatus := do
  let battery ← get
  let evRessSoc := roundHalfEven battery.soc
  if range : 0 ≤ evRessSoc ∧ evRessSoc.toNat ≤ 100 then
    return ⟨true, .noError, evRessSoc.toNat, range.2⟩
  else
    throw .validationError

/-- `get_charge_params_v2`. No member of the enumeration starts with `AC` when it is made a
string, and the parameters for direct current are given a field `target_soc`, which the model
does not have. -/
def getChargeParamsV2 : Method ChargeParamsV2 := do
  let _ ← getEnergyTransferMode
  let _ ← getDcEvStatus
  throw .validationError

/-- The current of the operating point: what the power allows at the voltage of the battery,
within the limits of the battery and of the SECC. -/
def targetCurrent (battery : RealBatterySimulator) : ℚ :=
  min (min (maxChargePowerW / max battery.computeVoltage 1) maxChargeCurrent)
    battery.seccMaxCurrent

/-- `get_dc_charge_params`. -/
def getDcChargeParams : Method DCEVChargeParams := do
  let battery ← get
  let dcTargetCurrent ← Effect.ofExcept
    (PhysicalValue.new 0 (roundHalfEven battery.targetCurrent))
  let dcTargetVoltage ← Effect.ofExcept
    (PhysicalValue.new 0 (roundHalfEven battery.computeVoltage))
  return ⟨dcMaxCurrentLimit, dcMaxPowerLimit, dcMaxVoltageLimit, dcTargetCurrent,
    dcTargetVoltage⟩

/-- `is_bulk_charging_complete`. -/
def isBulkChargingComplete : Method Bool := do
  let battery ← get
  return battery.bulkSoc ≤ battery.soc

/-- `get_dc_ev_power_delivery_parameter`. -/
def getDcEvPowerDeliveryParameter : Method DCEVPowerDeliveryParameter := do
  let dcEvStatus ← getDcEvStatus
  let bulkChargingComplete ← isBulkChargingComplete
  let chargingComplete ← isChargingComplete
  return ⟨dcEvStatus, some bulkChargingComplete, chargingComplete⟩

/-- `is_precharged`, for the voltage of a `PreChargeRes`. -/
def isPrechargedV2 (presentVoltageEvse : PhysicalValue) : Method Bool := do
  let evVoltage ← getPresentVoltage
  let battery ← get
  if 5 ≤ battery.prechargeLoopCycles ∨
      presentVoltageEvse.getDecimalValue = evVoltage.getDecimalValue then
    return true
  else do
    set { battery with prechargeLoopCycles := battery.prechargeLoopCycles + 1 }
    return false

/-- The time that an energy takes at the present power, of at least a watt. -/
def remainingSeconds (battery : RealBatterySimulator) (remainingEnergyWh : ℚ) : Int :=
  truncate (remainingEnergyWh / max battery.currentPowerW 1 * 3600)

/-- `get_remaining_time_to_full_soc`. -/
def getRemainingTimeToFullSoc : Method PhysicalValue := do
  let battery ← get
  Effect.ofExcept (PhysicalValue.new 0 (battery.remainingSeconds battery.remainingEnergyWh))

/-- `get_remaining_time_to_bulk_soc`. -/
def getRemainingTimeToBulkSoc : Method PhysicalValue := do
  let battery ← get
  let gap := max 0 (battery.bulkSoc - battery.soc)
  Effect.ofExcept
    (PhysicalValue.new 0 (battery.remainingSeconds (gap / 100 * totalBatteryCapacityWh)))

end RealBatterySimulator

open RealBatterySimulator in
instance : V2.EVController RealBatterySimulator where
  isCertInstallNeeded := do return (← get).config.isCertInstallNeeded
  getEnergyTransferMode := getEnergyTransferMode
  storeContractCertAndPrivKey := pure ⟨⟩
  getChargeParamsV2 := getChargeParamsV2
  processSaSchedulesV2 saSchedules := Effect.ofExcept (processSaSchedulesV2 saSchedules)
  enableCharging _ := pure ⟨⟩
  getDcEvStatus := getDcEvStatus
  getDcChargeParams := getDcChargeParams
  getDcEvPowerDeliveryParameter := getDcEvPowerDeliveryParameter
  isPrecharged := isPrechargedV2
  isBulkChargingComplete := isBulkChargingComplete
  isChargingComplete := isChargingComplete
  getRemainingTimeToFullSoc := getRemainingTimeToFullSoc
  getRemainingTimeToBulkSoc := getRemainingTimeToBulkSoc
  continueCharging := continueCharging
  chargeLoopDelay := pure ⟨⟩
  weldingDetectionHasFinished := weldingDetectionHasFinished

end Iso15118.Evcc
