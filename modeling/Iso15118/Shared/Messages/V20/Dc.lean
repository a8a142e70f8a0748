import Iso15118.Shared.Messages.V20.CommonTypes

/-!
# ISO 15118-20 DC messages

`shared/messages/iso15118_20/dc.py`.
-/

namespace Iso15118.Shared.V20

structure DCChargeParameterDiscoveryReqParams where
  evMaxChargePower : RationalNumber
  evMinChargePower : RationalNumber
  evMaxChargeCurrent : RationalNumber
  evMinChargeCurrent : RationalNumber
  evMaxVoltage : RationalNumber
  evMinVoltage : RationalNumber
  targetSoc : Option Int
  deriving DecidableEq

structure BPTDCChargeParameterDiscoveryReqParams extends DCChargeParameterDiscoveryReqParams where
  evMaxDischargePower : RationalNumber
  evMinDischargePower : RationalNumber
  evMaxDischargeCurrent : RationalNumber
  evMinDischargeCurrent : RationalNumber
  deriving DecidableEq

/-- The one parameter block of a `DCChargeParameterDiscoveryReq`. -/
inductive DCChargeParameterDiscoveryReq where
  | dc (params : DCChargeParameterDiscoveryReqParams)
  | bptDc (params : BPTDCChargeParameterDiscoveryReqParams)
  deriving DecidableEq

structure DCChargeParameterDiscoveryResParams where
  evseMaxChargePower : RationalNumber
  evseMinChargePower : RationalNumber
  evseMaxChargeCurrent : RationalNumber
  evseMinChargeCurrent : RationalNumber
  evseMaxVoltage : RationalNumber
  evseMinVoltage : RationalNumber
  evsePowerRampLimit : Option RationalNumber
  deriving DecidableEq

structure BPTDCChargeParameterDiscoveryResParams extends DCChargeParameterDiscoveryResParams where
  evseMaxDischargePower : RationalNumber
  evseMinDischargePower : RationalNumber
  evseMaxDischargeCurrent : RationalNumber
  evseMinDischargeCurrent : RationalNumber
  deriving DecidableEq

/-- The one parameter block of a `DCChargeParameterDiscoveryRes`. -/
inductive DCChargeParameterDiscoveryRes where
  | dc (params : DCChargeParameterDiscoveryResParams)
  | bptDc (params : BPTDCChargeParameterDiscoveryResParams)
  deriving DecidableEq

/-- The fields that both parameter blocks have. -/
def DCChargeParameterDiscoveryRes.common :
    DCChargeParameterDiscoveryRes → DCChargeParameterDiscoveryResParams
  | .dc params => params
  | .bptDc params => params.toDCChargeParameterDiscoveryResParams

structure DCPreChargeReq where
  evProcessing : Processing
  evPresentVoltage : RationalNumber
  evTargetVoltage : RationalNumber
  deriving DecidableEq

structure DCWeldingDetectionReq where
  evProcessing : Processing
  deriving DecidableEq

structure ScheduledDCChargeLoopReqParams where
  evTargetEnergyRequest : Option RationalNumber
  evMaxEnergyRequest : Option RationalNumber
  evMinEnergyRequest : Option RationalNumber
  evTargetCurrent : RationalNumber
  evTargetVoltage : RationalNumber
  evMaxChargePower : Option RationalNumber
  evMinChargePower : Option RationalNumber
  evMaxChargeCurrent : Option RationalNumber
  evMaxVoltage : Option RationalNumber
  evMinVoltage : Option RationalNumber
  deriving DecidableEq

structure BPTScheduledDCChargeLoopReqParams extends ScheduledDCChargeLoopReqParams where
  evMaxDischargePower : Option RationalNumber
  evMinDischargePower : Option RationalNumber
  evMaxDischargeCurrent : Option RationalNumber
  deriving DecidableEq

structure DynamicDCChargeLoopReqParams where
  departureTime : Option Int
  evTargetEnergyRequest : RationalNumber
  evMaxEnergyRequest : RationalNumber
  evMinEnergyRequest : RationalNumber
  evMaxChargePower : RationalNumber
  evMinChargePower : RationalNumber
  evMaxChargeCurrent : RationalNumber
  evMaxVoltage : RationalNumber
  evMinVoltage : RationalNumber
  deriving DecidableEq

structure BPTDynamicDCChargeLoopReqParams extends DynamicDCChargeLoopReqParams where
  evMaxDischargePower : RationalNumber
  evMinDischargePower : RationalNumber
  evMaxDischargeCurrent : RationalNumber
  evMaxV2xEnergyRequest : Option RationalNumber
  evMinV2xEnergyRequest : Option RationalNumber
  deriving DecidableEq

/-- The one parameter block of a `DCChargeLoopReq`. -/
inductive DCChargeLoopReqParams where
  | scheduled (params : ScheduledDCChargeLoopReqParams)
  | dynamic (params : DynamicDCChargeLoopReqParams)
  | bptScheduled (params : BPTScheduledDCChargeLoopReqParams)
  | bptDynamic (params : BPTDynamicDCChargeLoopReqParams)

structure DCChargeLoopReq where
  displayParameters : Option DisplayParameters
  meterInfoRequested : Bool
  evPresentVoltage : RationalNumber
  params : DCChargeLoopReqParams

structure ScheduledDCChargeLoopResParams where
  evseMaximumChargePower : Option RationalNumber
  evseMinimumChargePower : Option RationalNumber
  evseMaximumChargeCurrent : Option RationalNumber
  evseMaximumVoltage : Option RationalNumber
  deriving DecidableEq

structure BPTScheduledDCChargeLoopResParams extends ScheduledDCChargeLoopResParams where
  evseMaxDischargePower : Option RationalNumber
  evseMinDischargePower : Option RationalNumber
  evseMaxDischargeCurrent : Option RationalNumber
  evseMinVoltage : Option RationalNumber
  deriving DecidableEq

structure DynamicDCChargeLoopRes where
  departureTime : Option Int
  minSoc : Option Int
  targetSoc : Option Int
  ackMaxDelay : Option Int
  evseMaximumChargePower : RationalNumber
  evseMinimumChargePower : RationalNumber
  evseMaximumChargeCurrent : RationalNumber
  evseMaximumVoltage : RationalNumber
  deriving DecidableEq

structure BPTDynamicDCChargeLoopRes extends DynamicDCChargeLoopRes where
  evseMaxDischargePower : RationalNumber
  evseMinDischargePower : RationalNumber
  evseMaxDischargeCurrent : RationalNumber
  evseMinVoltage : RationalNumber
  deriving DecidableEq

/-- What `get_dc_charge_loop_params_v20` may hand to the response. -/
inductive DCChargeLoopResParams where
  | scheduled (params : ScheduledDCChargeLoopResParams)
  | dynamic (params : DynamicDCChargeLoopRes)
  | bptScheduled (params : BPTScheduledDCChargeLoopResParams)
  | bptDynamic (params : BPTDynamicDCChargeLoopRes)
  deriving DecidableEq

end Iso15118.Shared.V20
