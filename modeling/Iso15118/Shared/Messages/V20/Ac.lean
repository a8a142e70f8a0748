import Iso15118.Shared.Messages.V20.CommonTypes

/-!
# ISO 15118-20 AC messages

`shared/messages/iso15118_20/ac.py`.
-/

namespace Iso15118.Shared.V20

structure ACChargeParameterDiscoveryReqParams where
  evMaxChargePower : RationalNumber
  evMaxChargePowerL2 : Option RationalNumber
  evMaxChargePowerL3 : Option RationalNumber
  evMinChargePower : RationalNumber
  evMinChargePowerL2 : Option RationalNumber
  evMinChargePowerL3 : Option RationalNumber
  deriving DecidableEq

structure BPTACChargeParameterDiscoveryReqParams extends ACChargeParameterDiscoveryReqParams where
  evMaxDischargePower : RationalNumber
  evMaxDischargePowerL2 : Option RationalNumber
  evMaxDischargePowerL3 : Option RationalNumber
  evMinDischargePower : RationalNumber
  evMinDischargePowerL2 : Option RationalNumber
  evMinDischargePowerL3 : Option RationalNumber
  deriving DecidableEq

/-- The one parameter block of an `ACChargeParameterDiscoveryReq`. -/
inductive ACChargeParameterDiscoveryReq where
  | ac (params : ACChargeParameterDiscoveryReqParams)
  | bptAc (params : BPTACChargeParameterDiscoveryReqParams)
  deriving DecidableEq

structure ScheduledACChargeLoopReqParams where
  evTargetEnergyRequest : Option RationalNumber
  evMaxEnergyRequest : Option RationalNumber
  evMinEnergyRequest : Option RationalNumber
  evMaxChargePower : Option RationalNumber
  evMaxChargePowerL2 : Option RationalNumber
  evMaxChargePowerL3 : Option RationalNumber
  evMinChargePower : Option RationalNumber
  evMinChargePowerL2 : Option RationalNumber
  evMinChargePowerL3 : Option RationalNumber
  evPresentActivePower : RationalNumber
  evPresentActivePowerL2 : Option RationalNumber
  evPresentActivePowerL3 : Option RationalNumber
  evPresentReactivePower : Option RationalNumber
  evPresentReactivePowerL2 : Option RationalNumber
  evPresentReactivePowerL3 : Option RationalNumber
  deriving DecidableEq

structure BPTScheduledACChargeLoopReqParams extends ScheduledACChargeLoopReqParams where
  evMaxDischargePower : Option RationalNumber
  evMaxDischargePowerL2 : Option RationalNumber
  evMaxDischargePowerL3 : Option RationalNumber
  evMinDischargePower : Option RationalNumber
  evMinDischargePowerL2 : Option RationalNumber
  evMinDischargePowerL3 : Option RationalNumber
  deriving DecidableEq

structure DynamicACChargeLoopReqParams where
  departureTime : Option Int
  evTargetEnergyRequest : RationalNumber
  evMaxEnergyRequest : RationalNumber
  evMinEnergyRequest : RationalNumber
  evMaxChargePower : RationalNumber
  evMaxChargePowerL2 : Option RationalNumber
  evMaxChargePowerL3 : Option RationalNumber
  evMinChargePower : RationalNumber
  evMinChargePowerL2 : Option RationalNumber
  evMinChargePowerL3 : Option RationalNumber
  evPresentActivePower : RationalNumber
  evPresentActivePowerL2 : Option RationalNumber
  evPresentActivePowerL3 : Option RationalNumber
  evPresentReactivePower : RationalNumber
  evPresentReactivePowerL2 : Option RationalNumber
  evPresentReactivePowerL3 : Option RationalNumber
  deriving DecidableEq

structure BPTDynamicACChargeLoopReqParams extends DynamicACChargeLoopReqParams where
  evMaxDischargePower : RationalNumber
  evMaxDischargePowerL2 : Option RationalNumber
  evMaxDischargePowerL3 : Option RationalNumber
  evMinDischargePower : RationalNumber
  evMinDischargePowerL2 : Option RationalNumber
  evMinDischargePowerL3 : Option RationalNumber
  evMaxV2xEnergyRequest : Option RationalNumber
  evMinV2xEnergyRequest : Option RationalNumber
  deriving DecidableEq

/-- The one parameter block of an `ACChargeLoopReq`. -/
inductive ACChargeLoopReqParams where
  | scheduled (params : ScheduledACChargeLoopReqParams)
  | dynamic (params : DynamicACChargeLoopReqParams)
  | bptScheduled (params : BPTScheduledACChargeLoopReqParams)
  | bptDynamic (params : BPTDynamicACChargeLoopReqParams)
  deriving DecidableEq

structure ACChargeLoopReq where
  displayParameters : Option DisplayParameters
  meterInfoRequested : Bool
  params : ACChargeLoopReqParams

end Iso15118.Shared.V20
