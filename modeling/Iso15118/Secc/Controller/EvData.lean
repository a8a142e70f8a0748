import Iso15118.Library.Effect
import Iso15118.Shared.Messages.Din.Body
import Iso15118.Shared.Messages.V2.Body
import Iso15118.Shared.Messages.V20.Ac
import Iso15118.Shared.Messages.V20.CommonMessages
import Iso15118.Shared.Messages.V20.Dc

/-!
# What the SECC knows about the EV

`secc/controller/ev_data.py`. Python tests such values for truth, so zero counts
as missing; `truthy` stands for that test.
-/

namespace Iso15118.Secc

open Effect
open Iso15118.Shared
open Iso15118.Shared.V20

/-- An optional number as the condition of an `if`: neither `None` nor zero. -/
def truthy {α : Type} [Zero α] [DecidableEq α] (value : Option α) : Option α :=
  value.filter fun number => number ≠ 0

theorem truthy_eq_none_iff {limit : Option ℚ} : truthy limit = none ↔ limit.getD 0 = 0 := by
  cases limit with
  | none => simp [truthy]
  | some value => simp [truthy, Option.filter]

theorem truthy_some {value : ℚ} (nonzero : value ≠ 0) : truthy (some value) = some value := by
  simp [truthy, Option.filter, nonzero]

/-- `EVACCPDLimits`. -/
structure EVACCPDLimits where
  maxChargeCurrent : Option ℚ := none
  minChargeCurrent : Option ℚ := none
  maxVoltage : Option ℚ := none
  maxChargePower : Option ℚ := some 0
  maxChargePowerL2 : Option ℚ := none
  maxChargePowerL3 : Option ℚ := none
  minChargePower : Option ℚ := some 0
  minChargePowerL2 : Option ℚ := none
  minChargePowerL3 : Option ℚ := none
  maxDischargePower : Option ℚ := none
  maxDischargePowerL2 : Option ℚ := none
  maxDischargePowerL3 : Option ℚ := none
  minDischargePower : Option ℚ := none
  minDischargePowerL2 : Option ℚ := none
  minDischargePowerL3 : Option ℚ := none
  deriving DecidableEq

/-- `EVDCCPDLimits`. -/
structure EVDCCPDLimits where
  maxChargePower : Option ℚ := some 0
  minChargePower : Option ℚ := some 0
  maxChargeCurrent : Option ℚ := none
  minChargeCurrent : Option ℚ := none
  maxVoltage : Option ℚ := none
  minVoltage : Option ℚ := none
  maxDischargePower : Option ℚ := none
  minDischargePower : Option ℚ := none
  maxDischargeCurrent : Option ℚ := none
  minDischargeCurrent : Option ℚ := none
  deriving DecidableEq

/-- `EVACCLLimits`. -/
structure EVACCLLimits where
  maxChargePower : Option ℚ := none
  maxChargePowerL2 : Option ℚ := none
  maxChargePowerL3 : Option ℚ := none
  minChargePower : Option ℚ := none
  minChargePowerL2 : Option ℚ := none
  minChargePowerL3 : Option ℚ := none
  maxDischargePower : Option ℚ := none
  maxDischargePowerL2 : Option ℚ := none
  maxDischargePowerL3 : Option ℚ := none
  minDischargePower : Option ℚ := none
  minDischargePowerL2 : Option ℚ := none
  minDischargePowerL3 : Option ℚ := none
  deriving DecidableEq

/-- `EVDCCLLimits`. -/
structure EVDCCLLimits where
  maxChargePower : Option ℚ := none
  minChargePower : Option ℚ := none
  maxChargeCurrent : Option ℚ := none
  maxVoltage : Option ℚ := none
  minVoltage : Option ℚ := none
  maxDischargePower : Option ℚ := none
  minDischargePower : Option ℚ := none
  maxDischargeCurrent : Option ℚ := none
  deriving DecidableEq

/-- `Limits.update` with the dictionary of the rated limits: the fields that both
classes have are copied. -/
def EVACCLLimits.ofRated (rated : EVACCPDLimits) : EVACCLLimits where
  maxChargePower := rated.maxChargePower
  maxChargePowerL2 := rated.maxChargePowerL2
  maxChargePowerL3 := rated.maxChargePowerL3
  minChargePower := rated.minChargePower
  minChargePowerL2 := rated.minChargePowerL2
  minChargePowerL3 := rated.minChargePowerL3
  maxDischargePower := rated.maxDischargePower
  maxDischargePowerL2 := rated.maxDischargePowerL2
  maxDischargePowerL3 := rated.maxDischargePowerL3
  minDischargePower := rated.minDischargePower
  minDischargePowerL2 := rated.minDischargePowerL2
  minDischargePowerL3 := rated.minDischargePowerL3

def EVDCCLLimits.ofRated (rated : EVDCCPDLimits) : EVDCCLLimits where
  maxChargePower := rated.maxChargePower
  minChargePower := rated.minChargePower
  maxChargeCurrent := rated.maxChargeCurrent
  maxVoltage := rated.maxVoltage
  minVoltage := rated.minVoltage
  maxDischargePower := rated.maxDischargePower
  minDischargePower := rated.minDischargePower
  maxDischargeCurrent := rated.maxDischargeCurrent

/-- `EVDataContext`. -/
structure EVDataContext where
  evccId : Option String := none
  acRatedLimits : EVACCPDLimits := {}
  dcRatedLimits : EVDCCPDLimits := {}
  acSessionLimits : EVACCLLimits := {}
  dcSessionLimits : EVDCCLLimits := {}
  departureTime : Option Int := none
  targetEnergyRequest : Option ℚ := none
  targetSoc : Option Int := none
  totalBatteryCapacity : Option ℚ := none
  maxEnergyRequest : Option ℚ := none
  minEnergyRequest : Option ℚ := none
  minSoc : Option Int := none
  maxSoc : Option Int := none
  maxV2xEnergyRequest : Option ℚ := none
  minV2xEnergyRequest : Option ℚ := none
  remainingTimeToTargetSoc : Option Int := none
  remainingTimeToMaxSoc : Option ℚ := none
  remainingTimeToMinSoc : Option Int := none
  bulkSoc : Option Int := none
  remainingTimeToBulkSoc : Option ℚ := none
  presentSoc : Option Int := none
  presentVoltage : Option ℚ := none
  presentActivePower : Option ℚ := none
  presentActivePowerL2 : Option ℚ := none
  presentActivePowerL3 : Option ℚ := none
  presentReactivePower : Option ℚ := none
  presentReactivePowerL2 : Option ℚ := none
  presentReactivePowerL3 : Option ℚ := none
  targetCurrent : ℚ := 0
  targetVoltage : ℚ := 0
  selectedEnergyMode : Option EnergyTransferMode := none
  deriving DecidableEq

namespace EVDataContext

/-- `if new: field = new`. -/
def overwrite {α : Type} [Zero α] [DecidableEq α] (new old : Option α) : Option α :=
  (truthy new).or old

/-- `if params.field: limit = params.field.get_decimal_value()`. A message field
that is set is true whatever its value. -/
def overwriteDecimal (new : Option RationalNumber) (old : Option ℚ) : Option ℚ :=
  (new.map RationalNumber.getDecimalValue).or old

/-! ## ISO 15118-2 -/

/-- `update_ac_charge_parameters_v2`. -/
def updateAcChargeParametersV2 (context : EVDataContext)
    (acEvChargeParameter : V2.ACEVChargeParameter) : EVDataContext :=
  let rated : EVACCPDLimits :=
    { maxVoltage := some acEvChargeParameter.evMaxVoltage.getDecimalValue
      maxChargeCurrent := some acEvChargeParameter.evMaxCurrent.getDecimalValue
      minChargeCurrent := some acEvChargeParameter.evMinCurrent.getDecimalValue }
  { context with
    departureTime := acEvChargeParameter.departureTime
    acRatedLimits := rated
    acSessionLimits := .ofRated rated
    targetEnergyRequest := some acEvChargeParameter.eAmount.getDecimalValue }

/-- `update_dc_charge_parameters`. -/
def updateDcChargeParameters (context : EVDataContext)
    (dcEvChargeParameter : V2.DCEVChargeParameter) : EVDataContext :=
  let rated : EVDCCPDLimits :=
    { maxVoltage := some dcEvChargeParameter.evMaximumVoltageLimit.getDecimalValue
      maxChargeCurrent := some dcEvChargeParameter.evMaximumCurrentLimit.getDecimalValue
      maxChargePower :=
        dcEvChargeParameter.evMaximumPowerLimit.map PhysicalValue.getDecimalValue }
  { context with
    departureTime := dcEvChargeParameter.departureTime
    presentSoc := some dcEvChargeParameter.dcEvStatus.evRessSoc
    targetEnergyRequest := dcEvChargeParameter.evEnergyRequest.map PhysicalValue.getDecimalValue
    dcRatedLimits := rated
    dcSessionLimits := .ofRated rated
    totalBatteryCapacity :=
      dcEvChargeParameter.evEnergyCapacity.map PhysicalValue.getDecimalValue
    maxSoc := dcEvChargeParameter.fullSoc
    bulkSoc := dcEvChargeParameter.bulkSoc }

/-- `update_pre_charge_parameters`. -/
def updatePreChargeParameters (context : EVDataContext) (preChargeReq : V2.PreChargeReq) :
    EVDataContext :=
  { context with
    presentSoc := some preChargeReq.dcEvStatus.evRessSoc
    targetCurrent := preChargeReq.evTargetCurrent.getDecimalValue
    targetVoltage := preChargeReq.evTargetVoltage.getDecimalValue }

/-- `if params.field is not None: limit = params.field.get_decimal_value()`. -/
def overwritePhysical (new : Option PhysicalValue) (old : Option ℚ) : Option ℚ :=
  (new.map PhysicalValue.getDecimalValue).or old

/-- `update_charge_loop_parameters`. -/
def updateChargeLoopParameters (context : EVDataContext)
    (currentDemandReq : V2.CurrentDemandReq) : EVDataContext :=
  let limits := context.dcSessionLimits
  { context with
    presentSoc := some currentDemandReq.dcEvStatus.evRessSoc
    targetCurrent := currentDemandReq.evTargetCurrent.getDecimalValue
    targetVoltage := currentDemandReq.evTargetVoltage.getDecimalValue
    remainingTimeToMaxSoc :=
      overwritePhysical currentDemandReq.remainingTimeToFullSoc context.remainingTimeToMaxSoc
    remainingTimeToBulkSoc :=
      overwritePhysical currentDemandReq.remainingTimeToBulkSoc context.remainingTimeToBulkSoc
    dcSessionLimits :=
      { limits with
        maxChargeCurrent :=
          overwritePhysical currentDemandReq.evMaxCurrentLimit limits.maxChargeCurrent
        maxChargePower := overwritePhysical currentDemandReq.evMaxPowerLimit limits.maxChargePower
        maxVoltage := overwritePhysical currentDemandReq.evMaxVoltageLimit limits.maxVoltage } }

/-! ### DIN SPEC 70121

The same methods take the messages of DIN SPEC 70121. -/

/-- `update_dc_charge_parameters`. There is no departure time, and that of the
context stays. -/
def updateDcChargeParametersDin (context : EVDataContext)
    (dcEvChargeParameter : Din.DCEVChargeParameter) : EVDataContext :=
  context.updateDcChargeParameters
    { departureTime := context.departureTime
      dcEvStatus := dcEvChargeParameter.dcEvStatus
      evMaximumCurrentLimit := dcEvChargeParameter.evMaximumCurrentLimit
      evMaximumPowerLimit := dcEvChargeParameter.evMaximumPowerLimit
      evMaximumVoltageLimit := dcEvChargeParameter.evMaximumVoltageLimit
      evEnergyCapacity := dcEvChargeParameter.evEnergyCapacity
      evEnergyRequest := dcEvChargeParameter.evEnergyRequest
      fullSoc := dcEvChargeParameter.fullSoc
      bulkSoc := dcEvChargeParameter.bulkSoc }

/-- `update_pre_charge_parameters`. -/
def updatePreChargeParametersDin (context : EVDataContext) (preChargeReq : Din.PreChargeReq) :
    EVDataContext :=
  context.updatePreChargeParameters
    { dcEvStatus := preChargeReq.dcEvStatus
      evTargetVoltage := preChargeReq.evTargetVoltage
      evTargetCurrent := preChargeReq.evTargetCurrent }

/-- `update_charge_loop_parameters`. -/
def updateChargeLoopParametersDin (context : EVDataContext)
    (currentDemandReq : Din.CurrentDemandReq) : EVDataContext :=
  context.updateChargeLoopParameters
    { dcEvStatus := currentDemandReq.dcEvStatus
      evTargetCurrent := currentDemandReq.evTargetCurrent
      evMaxVoltageLimit := currentDemandReq.evMaxVoltageLimit
      evMaxCurrentLimit := currentDemandReq.evMaxCurrentLimit
      evMaxPowerLimit := currentDemandReq.evMaxPowerLimit
      remainingTimeToFullSoc := currentDemandReq.remainingTimeToFullSoc
      remainingTimeToBulkSoc := currentDemandReq.remainingTimeToBulkSoc
      evTargetVoltage := currentDemandReq.evTargetVoltage }

/-! ## Schedule exchange -/

/-- The fields that `_update_common_se_params` reads from either class. -/
structure CommonSeParams where
  departureTime : Option Int
  evTargetEnergyRequest : Option RationalNumber
  evMaxEnergyRequest : Option RationalNumber
  evMinEnergyRequest : Option RationalNumber

/-- `_update_common_se_params`. -/
def updateCommonSeParams (context : EVDataContext) (params : CommonSeParams) : EVDataContext :=
  { context with
    departureTime := overwrite params.departureTime context.departureTime
    targetEnergyRequest :=
      overwriteDecimal params.evTargetEnergyRequest context.targetEnergyRequest
    maxEnergyRequest := overwriteDecimal params.evMaxEnergyRequest context.maxEnergyRequest
    minEnergyRequest := overwriteDecimal params.evMinEnergyRequest context.minEnergyRequest }

/-- `update_schedule_exchange_parameters`. The parameters of the other control
mode are absent, and reading a field of them raises. -/
def updateScheduleExchangeParameters (controlMode : Option ControlMode)
    (scheduleExchangeReq : ScheduleExchangeReq) : EStateM PyError EVDataContext PUnit :=
  match controlMode, scheduleExchangeReq.params with
  | some .scheduled, .scheduled params =>
      modify fun context => context.updateCommonSeParams
        ⟨params.departureTime, params.evTargetEnergyRequest, params.evMaxEnergyRequest,
          params.evMinEnergyRequest⟩
  | some .dynamic, .dynamic params =>
      modify fun context =>
        let context := context.updateCommonSeParams
          ⟨some params.departureTime, some params.evTargetEnergyRequest,
            some params.evMaxEnergyRequest, some params.evMinEnergyRequest⟩
        { context with
          targetSoc := overwrite params.targetSoc context.targetSoc
          minSoc := overwrite params.minSoc context.minSoc
          maxV2xEnergyRequest :=
            overwriteDecimal params.evMaxV2xEnergyRequest context.maxV2xEnergyRequest
          minV2xEnergyRequest :=
            overwriteDecimal params.evMinV2xEnergyRequest context.minV2xEnergyRequest }
  | some _, _ => throw .attributeError
  | none, _ => pure ⟨⟩

/-! ## Charge parameter discovery -/

/-- `_update_common_ac_charge_parameters_v20` on fresh limits. -/
def commonAcChargeParametersV20 (params : ACChargeParameterDiscoveryReqParams) :
    EVACCPDLimits where
  maxChargePower := some params.evMaxChargePower.getDecimalValue
  maxChargePowerL2 := params.evMaxChargePowerL2.map RationalNumber.getDecimalValue
  maxChargePowerL3 := params.evMaxChargePowerL3.map RationalNumber.getDecimalValue
  minChargePower := some params.evMinChargePower.getDecimalValue
  minChargePowerL2 := params.evMinChargePowerL2.map RationalNumber.getDecimalValue
  minChargePowerL3 := params.evMinChargePowerL3.map RationalNumber.getDecimalValue

/-- `_update_acbpt_charge_parameters_v20` on fresh limits. -/
def acbptChargeParametersV20 (params : BPTACChargeParameterDiscoveryReqParams) :
    EVACCPDLimits :=
  { commonAcChargeParametersV20 params.toACChargeParameterDiscoveryReqParams with
    maxDischargePower := some params.evMaxDischargePower.getDecimalValue
    maxDischargePowerL2 := params.evMaxDischargePowerL2.map RationalNumber.getDecimalValue
    maxDischargePowerL3 := params.evMaxDischargePowerL3.map RationalNumber.getDecimalValue
    minDischargePower := some params.evMinDischargePower.getDecimalValue
    minDischargePowerL2 := params.evMinDischargePowerL2.map RationalNumber.getDecimalValue
    minDischargePowerL3 := params.evMinDischargePowerL3.map RationalNumber.getDecimalValue }

/-- The rated limits, and session limits made from them. -/
def setAcLimits (rated : EVACCPDLimits) (context : EVDataContext) : EVDataContext :=
  { context with acRatedLimits := rated, acSessionLimits := .ofRated rated }

/-- `update_ac_charge_parameters_v20`. The limits are reset first, also when the
service is unknown. -/
def updateAcChargeParametersV20 (energyService : ServiceV20)
    (chargeParameter : ACChargeParameterDiscoveryReq) : EStateM PyError EVDataContext PUnit := do
  modify fun context => { context with acRatedLimits := {}, acSessionLimits := {} }
  match energyService, chargeParameter with
  | .ac, .ac params => modify (setAcLimits (commonAcChargeParametersV20 params))
  | .acBpt, .bptAc params => modify (setAcLimits (acbptChargeParametersV20 params))
  | .ac, _ | .acBpt, _ => throw .attributeError
  | _, _ => throw .unknownEnergyService

/-- `_update_common_dc_charge_parameters_v20` on fresh limits. -/
def commonDcChargeParametersV20 (params : DCChargeParameterDiscoveryReqParams) :
    EVDCCPDLimits where
  maxChargePower := some params.evMaxChargePower.getDecimalValue
  minChargePower := some params.evMinChargePower.getDecimalValue
  maxChargeCurrent := some params.evMaxChargeCurrent.getDecimalValue
  minChargeCurrent := some params.evMinChargeCurrent.getDecimalValue
  maxVoltage := some params.evMaxVoltage.getDecimalValue
  minVoltage := some params.evMinVoltage.getDecimalValue

/-- `_update_dcbpt_charge_parameters_v20` on fresh limits. -/
def dcbptChargeParametersV20 (params : BPTDCChargeParameterDiscoveryReqParams) :
    EVDCCPDLimits :=
  { commonDcChargeParametersV20 params.toDCChargeParameterDiscoveryReqParams with
    maxDischargePower := some params.evMaxDischargePower.getDecimalValue
    minDischargePower := some params.evMinDischargePower.getDecimalValue
    maxDischargeCurrent := some params.evMaxDischargeCurrent.getDecimalValue
    minDischargeCurrent := some params.evMinDischargeCurrent.getDecimalValue }

def setDcLimits (rated : EVDCCPDLimits) (targetSoc : Option Int) (context : EVDataContext) :
    EVDataContext :=
  { context with
    dcRatedLimits := rated
    dcSessionLimits := .ofRated rated
    targetSoc := overwrite targetSoc context.targetSoc }

/-- `update_dc_charge_parameters_v20`. -/
def updateDcChargeParametersV20 (energyService : ServiceV20)
    (chargeParameter : DCChargeParameterDiscoveryReq) : EStateM PyError EVDataContext PUnit := do
  modify fun context => { context with dcRatedLimits := {}, dcSessionLimits := {} }
  match energyService, chargeParameter with
  | .dc, .dc params =>
      modify (setDcLimits (commonDcChargeParametersV20 params) params.targetSoc)
  | .dcBpt, .bptDc params =>
      modify (setDcLimits (dcbptChargeParametersV20 params) params.targetSoc)
  | .dc, _ | .dcBpt, _ => throw .attributeError
  | _, _ => throw .unknownEnergyService

/-! ## Pre-charge and charge loop -/

/-- `update_pre_charge_parameters_v20`. -/
def updatePreChargeParametersV20 (context : EVDataContext) (preChargeReq : DCPreChargeReq) :
    EVDataContext :=
  { context with
    presentVoltage := some preChargeReq.evPresentVoltage.getDecimalValue
    targetVoltage := preChargeReq.evTargetVoltage.getDecimalValue }

/-- `_update_common_ac_limits`, on the fields of any of the four parameter
classes. A field that a class requires is passed as set. -/
def updateCommonAcLimits (context : EVDataContext) (params : ScheduledACChargeLoopReqParams) :
    EVDataContext :=
  let limits := context.acSessionLimits
  { context with
    targetEnergyRequest :=
      overwriteDecimal params.evTargetEnergyRequest context.targetEnergyRequest
    maxEnergyRequest := overwriteDecimal params.evMaxEnergyRequest context.maxEnergyRequest
    minEnergyRequest := overwriteDecimal params.evMinEnergyRequest context.minEnergyRequest
    acSessionLimits :=
      { limits with
        maxChargePower := overwriteDecimal params.evMaxChargePower limits.maxChargePower
        maxChargePowerL2 := overwriteDecimal params.evMaxChargePowerL2 limits.maxChargePowerL2
        maxChargePowerL3 := overwriteDecimal params.evMaxChargePowerL3 limits.maxChargePowerL3
        minChargePower := overwriteDecimal params.evMinChargePower limits.minChargePower
        minChargePowerL2 := overwriteDecimal params.evMinChargePowerL2 limits.minChargePowerL2
        minChargePowerL3 := overwriteDecimal params.evMinChargePowerL3 limits.minChargePowerL3 }
    presentActivePower :=
      overwriteDecimal (some params.evPresentActivePower) context.presentActivePower
    presentActivePowerL2 :=
      overwriteDecimal params.evPresentActivePowerL2 context.presentActivePowerL2
    presentActivePowerL3 :=
      overwriteDecimal params.evPresentActivePowerL3 context.presentActivePowerL3
    presentReactivePower :=
      overwriteDecimal params.evPresentReactivePower context.presentReactivePower
    presentReactivePowerL2 :=
      overwriteDecimal params.evPresentReactivePowerL2 context.presentReactivePowerL2
    presentReactivePowerL3 :=
      overwriteDecimal params.evPresentReactivePowerL3 context.presentReactivePowerL3 }

/-- `_update_common_acbpt_limits`. -/
def updateCommonAcbptLimits (context : EVDataContext)
    (params : BPTScheduledACChargeLoopReqParams) : EVDataContext :=
  let context := context.updateCommonAcLimits params.toScheduledACChargeLoopReqParams
  let limits := context.acSessionLimits
  { context with
    acSessionLimits :=
      { limits with
        maxDischargePower := overwriteDecimal params.evMaxDischargePower limits.maxDischargePower
        maxDischargePowerL2 :=
          overwriteDecimal params.evMaxDischargePowerL2 limits.maxDischargePowerL2
        maxDischargePowerL3 :=
          overwriteDecimal params.evMaxDischargePowerL3 limits.maxDischargePowerL3
        minDischargePower := overwriteDecimal params.evMinDischargePower limits.minDischargePower
        minDischargePowerL2 :=
          overwriteDecimal params.evMinDischargePowerL2 limits.minDischargePowerL2
        minDischargePowerL3 :=
          overwriteDecimal params.evMinDischargePowerL3 limits.minDischargePowerL3 } }

/-- The dynamic parameters that the scheduled ones have as well. -/
def dynamicAcLimits (params : DynamicACChargeLoopReqParams) :
    ScheduledACChargeLoopReqParams where
  evTargetEnergyRequest := some params.evTargetEnergyRequest
  evMaxEnergyRequest := some params.evMaxEnergyRequest
  evMinEnergyRequest := some params.evMinEnergyRequest
  evMaxChargePower := some params.evMaxChargePower
  evMaxChargePowerL2 := params.evMaxChargePowerL2
  evMaxChargePowerL3 := params.evMaxChargePowerL3
  evMinChargePower := some params.evMinChargePower
  evMinChargePowerL2 := params.evMinChargePowerL2
  evMinChargePowerL3 := params.evMinChargePowerL3
  evPresentActivePower := params.evPresentActivePower
  evPresentActivePowerL2 := params.evPresentActivePowerL2
  evPresentActivePowerL3 := params.evPresentActivePowerL3
  evPresentReactivePower := some params.evPresentReactivePower
  evPresentReactivePowerL2 := params.evPresentReactivePowerL2
  evPresentReactivePowerL3 := params.evPresentReactivePowerL3

def dynamicAcbptLimits (params : BPTDynamicACChargeLoopReqParams) :
    BPTScheduledACChargeLoopReqParams :=
  { dynamicAcLimits params.toDynamicACChargeLoopReqParams with
    evMaxDischargePower := some params.evMaxDischargePower
    evMaxDischargePowerL2 := params.evMaxDischargePowerL2
    evMaxDischargePowerL3 := params.evMaxDischargePowerL3
    evMinDischargePower := some params.evMinDischargePower
    evMinDischargePowerL2 := params.evMinDischargePowerL2
    evMinDischargePowerL3 := params.evMinDischargePowerL3 }

/-- `update_ac_charge_loop_v20`. -/
def updateAcChargeLoopV20 (acChargeLoopReq : ACChargeLoopReq) (energyService : ServiceV20)
    (controlMode : Option ControlMode) : EStateM PyError EVDataContext PUnit :=
  match energyService, controlMode with
  | .ac, some .scheduled =>
      match acChargeLoopReq.params with
      | .scheduled params => modify fun context => context.updateCommonAcLimits params
      | _ => throw .attributeError
  | .ac, some .dynamic =>
      match acChargeLoopReq.params with
      | .dynamic params =>
          modify fun context =>
            { context with
              departureTime := overwrite params.departureTime context.departureTime
              : EVDataContext }.updateCommonAcLimits (dynamicAcLimits params)
      | _ => throw .attributeError
  | .acBpt, some .scheduled =>
      match acChargeLoopReq.params with
      | .bptScheduled params => modify fun context => context.updateCommonAcbptLimits params
      | _ => throw .attributeError
  | .acBpt, some .dynamic =>
      match acChargeLoopReq.params with
      | .bptDynamic params =>
          modify fun context =>
            { context with
              departureTime := overwrite params.departureTime context.departureTime
              maxV2xEnergyRequest :=
                overwriteDecimal params.evMaxV2xEnergyRequest context.maxV2xEnergyRequest
              minV2xEnergyRequest :=
                overwriteDecimal params.evMinV2xEnergyRequest context.minV2xEnergyRequest
              : EVDataContext }.updateCommonAcbptLimits (dynamicAcbptLimits params)
      | _ => throw .attributeError
  | .ac, none | .acBpt, none => pure ⟨⟩
  | _, _ => throw .unknownEnergyService

/-- `_update_display_parameters`. -/
def updateDisplayParameters (context : EVDataContext) (params : DisplayParameters) :
    EVDataContext :=
  { context with
    presentSoc := overwrite params.presentSoc context.presentSoc
    targetSoc := overwrite params.targetSoc context.targetSoc
    minSoc := overwrite params.minSoc context.minSoc
    maxSoc := overwrite params.maxSoc context.maxSoc
    remainingTimeToMaxSoc :=
      overwrite (params.remainingTimeToMaxSoc.map Int.cast) context.remainingTimeToMaxSoc
    remainingTimeToMinSoc :=
      overwrite params.remainingTimeToMinSoc context.remainingTimeToMinSoc
    remainingTimeToTargetSoc :=
      overwrite params.remainingTimeToTargetSoc context.remainingTimeToTargetSoc
    totalBatteryCapacity :=
      overwriteDecimal params.batteryEnergyCapacity context.totalBatteryCapacity }

/-- The fields that `_update_common_dc_limits` reads from any of the four
parameter classes. -/
structure CommonDcLimits where
  evMaxChargePower : Option RationalNumber
  evMinChargePower : Option RationalNumber
  evMaxChargeCurrent : Option RationalNumber
  evMaxVoltage : Option RationalNumber
  evMinVoltage : Option RationalNumber
  evTargetEnergyRequest : Option RationalNumber
  evMaxEnergyRequest : Option RationalNumber
  evMinEnergyRequest : Option RationalNumber

def scheduledLimits (params : ScheduledDCChargeLoopReqParams) : CommonDcLimits where
  evMaxChargePower := params.evMaxChargePower
  evMinChargePower := params.evMinChargePower
  evMaxChargeCurrent := params.evMaxChargeCurrent
  evMaxVoltage := params.evMaxVoltage
  evMinVoltage := params.evMinVoltage
  evTargetEnergyRequest := params.evTargetEnergyRequest
  evMaxEnergyRequest := params.evMaxEnergyRequest
  evMinEnergyRequest := params.evMinEnergyRequest

def dynamicLimits (params : DynamicDCChargeLoopReqParams) : CommonDcLimits where
  evMaxChargePower := some params.evMaxChargePower
  evMinChargePower := some params.evMinChargePower
  evMaxChargeCurrent := some params.evMaxChargeCurrent
  evMaxVoltage := some params.evMaxVoltage
  evMinVoltage := some params.evMinVoltage
  evTargetEnergyRequest := some params.evTargetEnergyRequest
  evMaxEnergyRequest := some params.evMaxEnergyRequest
  evMinEnergyRequest := some params.evMinEnergyRequest

/-- `_update_common_dc_limits`. -/
def updateCommonDcLimits (context : EVDataContext) (params : CommonDcLimits) : EVDataContext :=
  let limits := context.dcSessionLimits
  { context with
    dcSessionLimits :=
      { limits with
        maxChargePower := overwriteDecimal params.evMaxChargePower limits.maxChargePower
        minChargePower := overwriteDecimal params.evMinChargePower limits.minChargePower
        maxChargeCurrent := overwriteDecimal params.evMaxChargeCurrent limits.maxChargeCurrent
        maxVoltage := overwriteDecimal params.evMaxVoltage limits.maxVoltage
        minVoltage := overwriteDecimal params.evMinVoltage limits.minVoltage }
    targetEnergyRequest :=
      overwriteDecimal params.evTargetEnergyRequest context.targetEnergyRequest
    maxEnergyRequest := overwriteDecimal params.evMaxEnergyRequest context.maxEnergyRequest
    minEnergyRequest := overwriteDecimal params.evMinEnergyRequest context.minEnergyRequest }

/-- `_update_common_dc_bpt_limits`. -/
def updateCommonDcBptLimits (context : EVDataContext) (params : CommonDcLimits)
    (evMaxDischargePower evMinDischargePower evMaxDischargeCurrent : Option RationalNumber) :
    EVDataContext :=
  let context := context.updateCommonDcLimits params
  let limits := context.dcSessionLimits
  { context with
    dcSessionLimits :=
      { limits with
        maxDischargePower := overwriteDecimal evMaxDischargePower limits.maxDischargePower
        minDischargePower := overwriteDecimal evMinDischargePower limits.minDischargePower
        maxDischargeCurrent :=
          overwriteDecimal evMaxDischargeCurrent limits.maxDischargeCurrent } }

/-- The second half of `update_dc_charge_loop_parameters_v20`, by service and
control mode. A parameter block of another service or mode is absent, and
reading a field of it raises. -/
def updateControlModeParameters (dcChargeLoopReq : DCChargeLoopReq)
    (energyService : ServiceV20) (controlMode : Option ControlMode) :
    EStateM PyError EVDataContext PUnit :=
  match energyService, controlMode with
  | .dc, some .scheduled =>
      match dcChargeLoopReq.params with
      | .scheduled params => do
          modify fun context =>
            { context with
              targetCurrent := params.evTargetCurrent.getDecimalValue
              targetVoltage := params.evTargetVoltage.getDecimalValue }
          modify fun context => context.updateCommonDcLimits (scheduledLimits params)
      | _ => throw .attributeError
  | .dc, some .dynamic =>
      match dcChargeLoopReq.params with
      | .dynamic params => do
          modify fun context =>
            { context with departureTime := overwrite params.departureTime context.departureTime }
          modify fun context => context.updateCommonDcLimits (dynamicLimits params)
      | _ => throw .attributeError
  | .dcBpt, some .scheduled =>
      match dcChargeLoopReq.params with
      | .bptScheduled params => do
          modify fun context =>
            { context with
              targetCurrent := params.evTargetCurrent.getDecimalValue
              targetVoltage := params.evTargetVoltage.getDecimalValue }
          modify fun context =>
            context.updateCommonDcBptLimits
              (scheduledLimits params.toScheduledDCChargeLoopReqParams)
              params.evMaxDischargePower params.evMinDischargePower params.evMaxDischargeCurrent
      | _ => throw .attributeError
  | .dcBpt, some .dynamic =>
      match dcChargeLoopReq.params with
      | .bptDynamic params => do
          modify fun context =>
            { context with
              departureTime := overwrite params.departureTime context.departureTime
              maxV2xEnergyRequest :=
                overwriteDecimal params.evMaxV2xEnergyRequest context.maxV2xEnergyRequest
              minV2xEnergyRequest :=
                overwriteDecimal params.evMinV2xEnergyRequest context.minV2xEnergyRequest }
          modify fun context =>
            context.updateCommonDcBptLimits
              (dynamicLimits params.toDynamicDCChargeLoopReqParams)
              (some params.evMaxDischargePower) (some params.evMinDischargePower)
              (some params.evMaxDischargeCurrent)
      | _ => throw .attributeError
  | .dc, none | .dcBpt, none => pure ⟨⟩
  | _, _ => throw .unknownEnergyService

/-- `update_dc_charge_loop_parameters_v20`. -/
def updateDcChargeLoopParametersV20 (dcChargeLoopReq : DCChargeLoopReq)
    (energyService : ServiceV20) (controlMode : Option ControlMode) :
    EStateM PyError EVDataContext PUnit := do
  modify fun context =>
    { context with
      presentVoltage := some dcChargeLoopReq.evPresentVoltage.getDecimalValue }
  match dcChargeLoopReq.displayParameters with
  | some params => modify fun context => context.updateDisplayParameters params
  | none => pure ⟨⟩
  updateControlModeParameters dcChargeLoopReq energyService controlMode

@[simp]
theorem updateCommonDcLimits_presentSoc (context : EVDataContext) (params : CommonDcLimits) :
    (context.updateCommonDcLimits params).presentSoc = context.presentSoc :=
  rfl

@[simp]
theorem updateCommonDcBptLimits_presentSoc (context : EVDataContext) (params : CommonDcLimits)
    (maxPower minPower maxCurrent : Option RationalNumber) :
    (context.updateCommonDcBptLimits params maxPower minPower maxCurrent).presentSoc =
      context.presentSoc :=
  rfl

/-- The parameter blocks say nothing about the state of charge. -/
theorem wp_updateControlModeParameters_presentSoc (dcChargeLoopReq : DCChargeLoopReq)
    (energyService : ServiceV20) (controlMode : Option ControlMode) (context : EVDataContext) :
    wp (updateControlModeParameters dcChargeLoopReq energyService controlMode)
      (fun _ updated => updated.presentSoc = context.presentSoc) (fun _ _ => True) context := by
  unfold updateControlModeParameters
  split
  · split <;> simp
  · split <;> simp
  · split <;> simp
  · split <;> simp
  · simp
  · simp
  · simp

/-- The state of charge that a request reports. -/
def reportedSoc (dcChargeLoopReq : DCChargeLoopReq) : Option Int :=
  dcChargeLoopReq.displayParameters.bind DisplayParameters.presentSoc

/-- What a request leaves as the present state of charge: a reported zero is not
taken over. -/
theorem wp_updateDcChargeLoopParametersV20_presentSoc (dcChargeLoopReq : DCChargeLoopReq)
    (energyService : ServiceV20) (controlMode : Option ControlMode) (context : EVDataContext) :
    wp (updateDcChargeLoopParametersV20 dcChargeLoopReq energyService controlMode)
      (fun _ updated => updated.presentSoc =
        overwrite (reportedSoc dcChargeLoopReq) context.presentSoc)
      (fun _ _ => True) context := by
  unfold updateDcChargeLoopParametersV20 reportedSoc
  cases dcChargeLoopReq.displayParameters with
  | none =>
      simp only [wp_bind, wp_modify]
      exact wp_updateControlModeParameters_presentSoc _ _ _ _
  | some params =>
      simp only [wp_bind, wp_modify]
      exact wp_updateControlModeParameters_presentSoc _ _ _ _

end EVDataContext

end Iso15118.Secc
