import Iso15118.Shared.Exceptions
import Iso15118.Shared.Messages.V20.CommonMessages
import Iso15118.Shared.Messages.V20.Dc
import Iso15118.Secc.Controller.EvData

/-!
# What the SECC knows about itself

The part of `secc/controller/evse_data.py` that a DC session reads and writes.
-/

namespace Iso15118.Secc

open Iso15118.Shared
open Iso15118.Shared.V20

/-- `EVSEDCCPDLimits`. -/
structure EVSEDCCPDLimits where
  maxChargePower : Option ℚ := none
  minChargePower : Option ℚ := none
  maxChargeCurrent : Option ℚ := none
  minChargeCurrent : Option ℚ := none
  maxVoltage : Option ℚ := none
  minVoltage : Option ℚ := none
  maxDischargePower : Option ℚ := none
  minDischargePower : Option ℚ := none
  maxDischargeCurrent : Option ℚ := none
  minDischargeCurrent : Option ℚ := none
  deriving DecidableEq

/-- `EVSEDCCLLimits`. -/
structure EVSEDCCLLimits where
  maxChargePower : Option ℚ := none
  minChargePower : Option ℚ := none
  maxChargeCurrent : Option ℚ := none
  maxVoltage : Option ℚ := none
  minVoltage : Option ℚ := none
  maxDischargePower : Option ℚ := none
  minDischargePower : Option ℚ := none
  maxDischargeCurrent : Option ℚ := none
  deriving DecidableEq

/-- `Limits.update` with the dictionary of the rated limits. -/
def EVSEDCCLLimits.ofRated (rated : EVSEDCCPDLimits) : EVSEDCCLLimits where
  maxChargePower := rated.maxChargePower
  minChargePower := rated.minChargePower
  maxChargeCurrent := rated.maxChargeCurrent
  maxVoltage := rated.maxVoltage
  minVoltage := rated.minVoltage
  maxDischargePower := rated.maxDischargePower
  minDischargePower := rated.minDischargePower
  maxDischargeCurrent := rated.maxDischargeCurrent

/-- `EVSEDataContext`, with the DC limits. `testComplete` is the attribute that
the service registry sets. -/
structure EVSEDataContext where
  dcRatedLimits : EVSEDCCPDLimits := {}
  dcSessionLimits : EVSEDCCLLimits := {}
  currentType : Option CurrentType := none
  departureTime : Option Int := none
  targetSoc : Option Int := none
  minSoc : Option Int := none
  ackMaxDelay : Option Int := none
  powerRampLimit : Option ℚ := none
  testComplete : Option Bool := none
  deriving DecidableEq

namespace EVSEDataContext

/-- `update_schedule_exchange_parameters`. -/
def updateScheduleExchangeParameters (context : EVSEDataContext)
    (controlMode : Option ControlMode) (scheduleExchangeRes : ScheduleExchangeRes) :
    Except PyError EVSEDataContext :=
  match controlMode, scheduleExchangeRes.params with
  | some .dynamic, some (.dynamic seParams) =>
      .ok { context with
        departureTime := EVDataContext.overwrite seParams.departureTime context.departureTime
        targetSoc := EVDataContext.overwrite seParams.targetSoc context.targetSoc
        minSoc := EVDataContext.overwrite seParams.minSoc context.minSoc }
  | some .dynamic, _ => .error .attributeError
  | _, _ => .ok context

/-- `_update_common_dc_charge_parameters_v20` on fresh limits. -/
def commonDcChargeParametersV20 (params : DCChargeParameterDiscoveryResParams) :
    EVSEDCCPDLimits where
  maxChargePower := some params.evseMaxChargePower.getDecimalValue
  minChargePower := some params.evseMinChargePower.getDecimalValue
  maxChargeCurrent := some params.evseMaxChargeCurrent.getDecimalValue
  minChargeCurrent := some params.evseMinChargeCurrent.getDecimalValue
  maxVoltage := some params.evseMaxVoltage.getDecimalValue
  minVoltage := some params.evseMinVoltage.getDecimalValue

/-- `_update_dcbpt_charge_parameters_v20` on fresh limits. -/
def dcbptChargeParametersV20 (params : BPTDCChargeParameterDiscoveryResParams) :
    EVSEDCCPDLimits :=
  { commonDcChargeParametersV20 params.toDCChargeParameterDiscoveryResParams with
    maxDischargePower := some params.evseMaxDischargePower.getDecimalValue
    minDischargePower := some params.evseMinDischargePower.getDecimalValue
    maxDischargeCurrent := some params.evseMaxDischargeCurrent.getDecimalValue
    minDischargeCurrent := some params.evseMinDischargeCurrent.getDecimalValue }

def setDcLimits (rated : EVSEDCCPDLimits) (powerRampLimit : Option RationalNumber)
    (context : EVSEDataContext) : EVSEDataContext :=
  { context with
    dcRatedLimits := rated
    dcSessionLimits := .ofRated rated
    powerRampLimit := EVDataContext.overwriteDecimal powerRampLimit context.powerRampLimit }

/-- `update_dc_charge_parameters_v20`. -/
def updateDcChargeParametersV20 (energyService : ServiceV20)
    (chargeParameter : DCChargeParameterDiscoveryRes) :
    EStateM PyError EVSEDataContext PUnit := do
  modify fun context =>
    { context with currentType := some .dc, dcRatedLimits := {}, dcSessionLimits := {} }
  match energyService, chargeParameter with
  | .dc, .dc params =>
      modify (setDcLimits (commonDcChargeParametersV20 params) params.evsePowerRampLimit)
  | .dcBpt, .bptDc params =>
      modify (setDcLimits (dcbptChargeParametersV20 params) params.evsePowerRampLimit)
  | .dc, _ | .dcBpt, _ => throw .attributeError
  | _, _ => throw .unknownEnergyService

end EVSEDataContext

end Iso15118.Secc
