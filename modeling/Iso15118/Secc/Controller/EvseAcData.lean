import Iso15118.Secc.Controller.EvseData

/-!
# What the SECC knows about its AC side

The part of `secc/controller/evse_data.py` that an AC session reads.
-/

namespace Iso15118.Secc

/-- The field of `EVSEACCPDLimits` that the controllers read. -/
structure EVSEACCPDLimits where
  maxChargePower : Option ℚ := none
  deriving DecidableEq

/-- `EVSEACCLLimits`. -/
structure EVSEACCLLimits where
  maxChargePower : Option ℚ := none
  maxChargePowerL2 : Option ℚ := none
  maxChargePowerL3 : Option ℚ := none
  maxChargeReactivePower : Option ℚ := none
  maxChargeReactivePowerL2 : Option ℚ := none
  maxChargeReactivePowerL3 : Option ℚ := none
  maxDischargePower : Option ℚ := none
  maxDischargePowerL2 : Option ℚ := none
  maxDischargePowerL3 : Option ℚ := none
  maxDischargeReactivePower : Option ℚ := none
  maxDischargeReactivePowerL2 : Option ℚ := none
  maxDischargeReactivePowerL3 : Option ℚ := none
  deriving DecidableEq

/-- The fields of `EVSEDataContext` that an AC charge loop reads. -/
structure EVSEAcDataContext where
  acRatedLimits : EVSEACCPDLimits := {}
  acSessionLimits : EVSEACCLLimits := {}
  nominalVoltage : Option ℚ := none
  presentVoltage : ℚ := 0
  presentActivePower : Option ℚ := some 0
  presentActivePowerL2 : Option ℚ := some 0
  presentActivePowerL3 : Option ℚ := some 0
  deriving DecidableEq

end Iso15118.Secc
