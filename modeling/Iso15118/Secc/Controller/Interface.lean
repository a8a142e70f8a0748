import Iso15118.Library.Effect
import Iso15118.Secc.Controller.EvData
import Iso15118.Secc.Controller.EvseData
import Iso15118.Shared.Messages.V20.Dc

/-!
# Reading the DC session limits

The concrete methods of `EVSEControllerInterface` that turn the DC session
limits into message fields.
-/

namespace Iso15118.Secc

open Iso15118.Shared
open Iso15118.Shared.V20

/-- `get_exponent_value_repr` on an optional number; `int(None)` raises. -/
def encodePhysicalValue (value : Option ℚ) : Except PyError PhysicalValue :=
  match value with
  | none => .error .typeError
  | some value =>
      let repr := getExponentValueRepr value
      PhysicalValue.new repr.1 repr.2

/-- The DC branch of `get_evse_max_current_limit`: a positive discharge limit
takes precedence and is reported as a negative current. -/
def getEvseMaxCurrentLimit (dcLimits : EVSEDCCLLimits) : Except PyError PhysicalValue :=
  match truthy dcLimits.maxDischargeCurrent with
  | some maxDischargeCurrent =>
      if 0 < maxDischargeCurrent then
        encodePhysicalValue (some (-1 * maxDischargeCurrent))
      else
        encodePhysicalValue dcLimits.maxChargeCurrent
  | none => encodePhysicalValue dcLimits.maxChargeCurrent

/-- `get_evse_max_power_limit`. The charge limit is only looked at when there is
no discharge limit. -/
def getEvseMaxPowerLimit (dcLimits : EVSEDCCLLimits) : Except PyError PhysicalValue :=
  match truthy dcLimits.maxDischargePower with
  | some maxDischargePower =>
      if 0 < maxDischargePower then
        encodePhysicalValue (some (-1 * maxDischargePower))
      else
        encodePhysicalValue (some 0)
  | none => encodePhysicalValue dcLimits.maxChargePower

/-- A field that the message model requires. -/
def required {α : Type} (value : Option α) : Except PyError α :=
  match value with
  | some value => .ok value
  | none => .error .validationError

/-- An optional integer field with bounds. -/
def bounded (low high : Int) (value : Option Int) : Except PyError (Option Int) :=
  match value with
  | none => .ok none
  | some number =>
      if low ≤ number ∧ number ≤ high then .ok (some number) else .error .validationError

def uint32Max : Int := 2 ^ 32 - 1

/-- The branches of `get_dc_charge_loop_params_v20`, one for each service and
control mode. -/
def scheduledDcParams (limits : EVSEDCCLLimits) :
    Except PyError ScheduledDCChargeLoopResParams := do
  return {
    evseMaximumChargePower := ← RationalNumber.getRationalRepr limits.maxChargePower
    evseMinimumChargePower := ← RationalNumber.getRationalRepr limits.minChargePower
    evseMaximumChargeCurrent := ← RationalNumber.getRationalRepr limits.maxChargeCurrent
    evseMaximumVoltage := ← RationalNumber.getRationalRepr limits.maxVoltage }

def dynamicDcParams (evseDataContext : EVSEDataContext) :
    Except PyError DynamicDCChargeLoopRes := do
  let fields ← scheduledDcParams evseDataContext.dcSessionLimits
  return {
    departureTime := ← bounded 0 uint32Max evseDataContext.departureTime
    minSoc := ← bounded 0 100 evseDataContext.minSoc
    targetSoc := ← bounded 0 100 evseDataContext.targetSoc
    ackMaxDelay := evseDataContext.ackMaxDelay
    evseMaximumChargePower := ← required fields.evseMaximumChargePower
    evseMinimumChargePower := ← required fields.evseMinimumChargePower
    evseMaximumChargeCurrent := ← required fields.evseMaximumChargeCurrent
    evseMaximumVoltage := ← required fields.evseMaximumVoltage }

def bptScheduledDcParams (limits : EVSEDCCLLimits) :
    Except PyError BPTScheduledDCChargeLoopResParams := do
  return {
    ← scheduledDcParams limits with
    evseMaxDischargePower := ← RationalNumber.getRationalRepr limits.maxDischargePower
    evseMinDischargePower := ← RationalNumber.getRationalRepr limits.minDischargePower
    evseMaxDischargeCurrent := ← RationalNumber.getRationalRepr limits.maxDischargeCurrent
    evseMinVoltage := ← RationalNumber.getRationalRepr limits.minVoltage }

def bptDynamicDcParams (evseDataContext : EVSEDataContext) :
    Except PyError BPTDynamicDCChargeLoopRes := do
  let fields ← bptScheduledDcParams evseDataContext.dcSessionLimits
  return {
    ← dynamicDcParams evseDataContext with
    evseMaxDischargePower := ← required fields.evseMaxDischargePower
    evseMinDischargePower := ← required fields.evseMinDischargePower
    evseMaxDischargeCurrent := ← required fields.evseMaxDischargeCurrent
    evseMinVoltage := ← required fields.evseMinVoltage }

/-- `get_dc_charge_loop_params_v20`. -/
def getDcChargeLoopParamsV20 (evseDataContext : EVSEDataContext)
    (controlMode : Option ControlMode) (selectedService : ServiceV20) :
    Except PyError (Option DCChargeLoopResParams) :=
  match selectedService, controlMode with
  | .dc, some .scheduled =>
      (scheduledDcParams evseDataContext.dcSessionLimits).map fun params =>
        some (.scheduled params)
  | .dc, some .dynamic =>
      (dynamicDcParams evseDataContext).map fun params => some (.dynamic params)
  | .dcBpt, some .scheduled =>
      (bptScheduledDcParams evseDataContext.dcSessionLimits).map fun params =>
        some (.bptScheduled params)
  | .dcBpt, _ =>
      (bptDynamicDcParams evseDataContext).map fun params => some (.bptDynamic params)
  | _, _ => .ok none

/-! ## What the receiver decodes -/

/-- An answer that the receiver decodes to the encoding of a quantity. -/
def ReadsAs (answer : Except PyError PhysicalValue) (quantity : ℚ) : Prop :=
  ∃ value, answer = .ok value ∧
    value.getDecimalValue = decodeRepr (getExponentValueRepr quantity)

/-- A quantity has an encoding as a physical value exactly when it fits at
exponent 3. -/
theorem readsAs_encodePhysicalValue_iff (quantity : ℚ) :
    ReadsAs (encodePhysicalValue (some quantity)) quantity ↔ FitsInt16 (quantity / 1000) := by
  rw [← exponent_le_three_iff]
  simp only [ReadsAs, encodePhysicalValue, PhysicalValue.new]
  by_cases fits : (getExponentValueRepr quantity).1 ≤ 3
  · rw [dif_pos ⟨getExponentValueRepr_value_range quantity, neg_three_le_exponent quantity, fits⟩]
    constructor
    · intro _
      exact fits
    · intro _
      exact ⟨_, rfl, rfl⟩
  · rw [dif_neg (fun range => fits range.2.2)]
    constructor
    · rintro ⟨value, impossible, _⟩
      cases impossible
    · intro fits'
      exact absurd fits' fits

/-- A rational number in a message, read as zero when the field is absent. -/
def decoded (field : Option RationalNumber) : ℚ :=
  (field.map RationalNumber.getDecimalValue).getD 0

theorem decoded_getRationalRepr {limit : Option ℚ} {field : Option RationalNumber}
    (encoded : RationalNumber.getRationalRepr limit = .ok field) :
    decoded field = decodeRepr (getExponentValueRepr (limit.getD 0)) := by
  cases limit with
  | none =>
      cases encoded
      decide +kernel
  | some value =>
      simp only [RationalNumber.getRationalRepr, RationalNumber.new] at encoded
      split at encoded
      · cases encoded
        rfl
      · cases encoded

/-- The limits of both directions in a bidirectional charge loop response. -/
structure BptLimits where
  chargeCurrent : ℚ
  chargePower : ℚ
  dischargeCurrent : ℚ
  dischargePower : ℚ

/-- What the EV decodes from the response, if it is a bidirectional one. -/
def bptLimits : DCChargeLoopResParams → Option BptLimits
  | .scheduled _ | .dynamic _ => none
  | .bptScheduled params => some {
      chargeCurrent := decoded params.evseMaximumChargeCurrent
      chargePower := decoded params.evseMaximumChargePower
      dischargeCurrent := decoded params.evseMaxDischargeCurrent
      dischargePower := decoded params.evseMaxDischargePower }
  | .bptDynamic params => some {
      chargeCurrent := params.evseMaximumChargeCurrent.getDecimalValue
      chargePower := params.evseMaximumChargePower.getDecimalValue
      dischargeCurrent := params.evseMaxDischargeCurrent.getDecimalValue
      dischargePower := params.evseMaxDischargePower.getDecimalValue }

/-- A limit as the EV reads it: encoded and decoded, and zero when unset. -/
def encodedLimit (limit : Option ℚ) : ℚ :=
  decodeRepr (getExponentValueRepr (limit.getD 0))

theorem bptLimits_scheduled {limits : EVSEDCCLLimits} {params : BPTScheduledDCChargeLoopResParams}
    (built : bptScheduledDcParams limits = .ok params) :
    decoded params.evseMaximumChargeCurrent = encodedLimit limits.maxChargeCurrent ∧
      decoded params.evseMaximumChargePower = encodedLimit limits.maxChargePower ∧
      decoded params.evseMaxDischargeCurrent = encodedLimit limits.maxDischargeCurrent ∧
      decoded params.evseMaxDischargePower = encodedLimit limits.maxDischargePower := by
  simp only [bptScheduledDcParams, scheduledDcParams, Effect.bind_eq_ok_iff,
    Effect.pure_eq_ok_iff] at built
  rcases built with ⟨_, ⟨power, powerOk, _, _, current, currentOk, _, _, rfl⟩,
    dischargePower, dischargePowerOk, _, _, dischargeCurrent, dischargeCurrentOk, _, _, rfl⟩
  exact ⟨decoded_getRationalRepr currentOk, decoded_getRationalRepr powerOk,
    decoded_getRationalRepr dischargeCurrentOk, decoded_getRationalRepr dischargePowerOk⟩

theorem required_eq_ok_iff {α : Type} {value : Option α} {result : α} :
    required value = .ok result ↔ value = some result := by
  cases value with
  | none => simp [required]
  | some value => simp [required]

/-- The response that the EV gets carries the encoded session limits. -/
theorem bptLimits_getDcChargeLoopParamsV20 {context : EVSEDataContext}
    {controlMode : Option ControlMode} {params : DCChargeLoopResParams}
    (built : getDcChargeLoopParamsV20 context controlMode .dcBpt = .ok (some params)) :
    bptLimits params = some {
      chargeCurrent := encodedLimit context.dcSessionLimits.maxChargeCurrent
      chargePower := encodedLimit context.dcSessionLimits.maxChargePower
      dischargeCurrent := encodedLimit context.dcSessionLimits.maxDischargeCurrent
      dischargePower := encodedLimit context.dcSessionLimits.maxDischargePower } := by
  have dynamic (fields : BPTDynamicDCChargeLoopRes)
      (dynamicBuilt : bptDynamicDcParams context = .ok fields) :
      bptLimits (.bptDynamic fields) = some {
        chargeCurrent := encodedLimit context.dcSessionLimits.maxChargeCurrent
        chargePower := encodedLimit context.dcSessionLimits.maxChargePower
        dischargeCurrent := encodedLimit context.dcSessionLimits.maxDischargeCurrent
        dischargePower := encodedLimit context.dcSessionLimits.maxDischargePower } := by
    simp only [bptDynamicDcParams, dynamicDcParams, Effect.bind_eq_ok_iff,
      Effect.pure_eq_ok_iff, required_eq_ok_iff] at dynamicBuilt
    rcases dynamicBuilt with ⟨bpt, bptBuilt, _, ⟨common, commonBuilt, _, _, _, _, _, _,
      power, powerSet, _, _, current, currentSet, _, _, rfl⟩, dischargePower, dischargePowerSet,
      _, _, dischargeCurrent, dischargeCurrentSet, _, _, rfl⟩
    rcases bptLimits_scheduled bptBuilt with ⟨currentEq, powerEq, dischargeEq, dischargePowerEq⟩
    have sameCommon : common = bpt.toScheduledDCChargeLoopResParams := by
      simp only [bptScheduledDcParams, Effect.bind_eq_ok_iff, Effect.pure_eq_ok_iff] at bptBuilt
      rcases bptBuilt with ⟨common', commonBuilt', _, _, _, _, _, _, _, _, rfl⟩
      exact Except.ok.inj (commonBuilt.symm.trans commonBuilt')
    subst sameCommon
    simp only [bptLimits, ← currentEq, ← powerEq, ← dischargeEq, ← dischargePowerEq, powerSet,
      currentSet, dischargePowerSet, dischargeCurrentSet, decoded, Option.map_some,
      Option.getD_some]
  cases controlMode with
  | none =>
      rcases Effect.map_eq_ok_iff.mp built with ⟨fields, dynamicBuilt, same⟩
      cases same
      exact dynamic fields dynamicBuilt
  | some mode =>
      cases mode with
      | scheduled =>
          rcases Effect.map_eq_ok_iff.mp built with ⟨fields, scheduledBuilt, same⟩
          cases same
          rcases bptLimits_scheduled scheduledBuilt with ⟨current, power, discharge, dischargePower⟩
          simp only [bptLimits, current, power, discharge, dischargePower]
      | dynamic =>
          rcases Effect.map_eq_ok_iff.mp built with ⟨fields, dynamicBuilt, same⟩
          cases same
          exact dynamic fields dynamicBuilt

end Iso15118.Secc
