import Iso15118.Library.Effect
import Iso15118.Library.Heap
import Iso15118.Secc.Controller.AcChargeLoop

/-!
# The limits of an EVSE as objects

A DC charge parameter discovery gives an `EVSEDataContext` new session limits. Their AC
part is the default argument of the class, an object that is created once with the class.
What the AC session limits held before goes with the old session limits.
-/

namespace Iso15118.Secc

open Effect
open Iso15118.Shared
open Iso15118.Shared.V20

/-! ## Objects -/

/-- `EVSEACCPDLimits`, with the fields that the controllers do not read. -/
structure EVSEACRatedLimits extends EVSEACCPDLimits where
  maxCurrent : Option ℚ := none
  minChargePower : Option ℚ := none
  maxChargePowerL2 : Option ℚ := none
  maxChargePowerL3 : Option ℚ := none
  minChargePowerL2 : Option ℚ := none
  minChargePowerL3 : Option ℚ := none
  maxDischargePower : Option ℚ := none
  maxDischargePowerL2 : Option ℚ := none
  maxDischargePowerL3 : Option ℚ := none
  minDischargePower : Option ℚ := none
  minDischargePowerL2 : Option ℚ := none
  minDischargePowerL3 : Option ℚ := none
  deriving DecidableEq

/-- `EVSERatedLimits`, with references to the limits. -/
structure EVSERatedLimits where
  acLimits : Nat
  dcLimits : Nat

/-- `EVSESessionLimits`, with references to the limits. -/
structure EVSESessionLimits where
  acLimits : Nat
  dcLimits : Nat

/-- The attributes of `EVSEDataContext` other than its limits. -/
structure EVSEAttributes where
  currentType : Option CurrentType := none
  departureTime : Option Int := none
  targetSoc : Option Int := none
  minSoc : Option Int := none
  ackMaxDelay : Option Int := none
  powerRampLimit : Option ℚ := none
  nominalVoltage : Option ℚ := none
  nominalFrequency : Option ℚ := none
  maxPowerAsymmetry : Option ℚ := none
  currentRegulationTolerance : Option ℚ := none
  peakCurrentRipple : Option ℚ := none
  energyToBeDelivered : Option ℚ := none
  presentActivePower : Option ℚ := some 0
  presentActivePowerL2 : Option ℚ := some 0
  presentActivePowerL3 : Option ℚ := some 0
  presentCurrent : ℚ := 0
  presentVoltage : ℚ := 0
  testComplete : Option Bool := none
  deriving DecidableEq

/-- An object of `EVSEDataContext`. -/
structure EVSEDataObject where
  attributes : EVSEAttributes := {}
  ratedLimits : Nat := 0
  sessionLimits : Nat := 0

/-- The limits that the references of a context lead to. -/
structure EVSELimits where
  acRated : EVSEACRatedLimits := {}
  dcRated : EVSEDCCPDLimits := {}
  acSession : EVSEACCLLimits := {}
  dcSession : EVSEDCCLLimits := {}
  deriving DecidableEq

/-- The objects that hold limits, and one context. At the address zero are the default
arguments, which are evaluated when the classes are defined. -/
structure EVSEMemory where
  acCpdLimits : Heap EVSEACRatedLimits
  dcCpdLimits : Heap EVSEDCCPDLimits
  acClLimits : Heap EVSEACCLLimits
  dcClLimits : Heap EVSEDCCLLimits
  ratedLimits : Heap EVSERatedLimits
  sessionLimits : Heap EVSESessionLimits
  context : EVSEDataObject

namespace EVSEMemory

/-- A context that is created with limits of its own. -/
def create (attributes : EVSEAttributes) (limits : EVSELimits) : EVSEMemory where
  acCpdLimits := (Heap.singleton {}).new limits.acRated
  dcCpdLimits := (Heap.singleton {}).new limits.dcRated
  acClLimits := (Heap.singleton {}).new limits.acSession
  dcClLimits := (Heap.singleton {}).new limits.dcSession
  ratedLimits := (Heap.singleton ⟨0, 0⟩).new ⟨1, 1⟩
  sessionLimits := (Heap.singleton ⟨0, 0⟩).new ⟨1, 1⟩
  context := ⟨attributes, 1, 1⟩

/-- `self.rated_limits`. -/
def rated (memory : EVSEMemory) : EVSERatedLimits :=
  memory.ratedLimits.read memory.context.ratedLimits

/-- `self.session_limits`. -/
def session (memory : EVSEMemory) : EVSESessionLimits :=
  memory.sessionLimits.read memory.context.sessionLimits

def limits (memory : EVSEMemory) : EVSELimits where
  acRated := memory.acCpdLimits.read memory.rated.acLimits
  dcRated := memory.dcCpdLimits.read memory.rated.dcLimits
  acSession := memory.acClLimits.read memory.session.acLimits
  dcSession := memory.dcClLimits.read memory.session.dcLimits

/-! ## The update -/

/-- `self.current_type = CurrentType.DC`. -/
def setCurrentType (memory : EVSEMemory) : EVSEMemory :=
  { memory with
    context := { memory.context with
      attributes := { memory.context.attributes with currentType := some .dc } } }

/-- `self.rated_limits.dc_limits = EVSEDCCPDLimits()`. -/
def newDcRatedLimits (memory : EVSEMemory) : EVSEMemory :=
  { memory with
    dcCpdLimits := memory.dcCpdLimits.new {}
    ratedLimits := memory.ratedLimits.write memory.context.ratedLimits
      { memory.rated with dcLimits := memory.dcCpdLimits.size } }

/-- `self.session_limits = EVSESessionLimits()`. -/
def newSessionLimits (memory : EVSEMemory) : EVSEMemory :=
  { memory with
    sessionLimits := memory.sessionLimits.new ⟨0, 0⟩
    context := { memory.context with sessionLimits := memory.sessionLimits.size } }

/-- `self.session_limits.dc_limits = EVSEDCCLLimits()`. -/
def newDcSessionLimits (memory : EVSEMemory) : EVSEMemory :=
  { memory with
    dcClLimits := memory.dcClLimits.new {}
    sessionLimits := memory.sessionLimits.write memory.context.sessionLimits
      { memory.session with dcLimits := memory.dcClLimits.size } }

/-- `_update_common_dc_charge_parameters_v20`. -/
def updateCommonDcChargeParametersV20 (dcRatedLimits : Nat)
    (params : DCChargeParameterDiscoveryResParams) (memory : EVSEMemory) : EVSEMemory :=
  { memory with
    dcCpdLimits := memory.dcCpdLimits.write dcRatedLimits
      { memory.dcCpdLimits.read dcRatedLimits with
        maxChargePower := some params.evseMaxChargePower.getDecimalValue
        minChargePower := some params.evseMinChargePower.getDecimalValue
        maxChargeCurrent := some params.evseMaxChargeCurrent.getDecimalValue
        minChargeCurrent := some params.evseMinChargeCurrent.getDecimalValue
        maxVoltage := some params.evseMaxVoltage.getDecimalValue
        minVoltage := some params.evseMinVoltage.getDecimalValue }
    context := { memory.context with
      attributes := { memory.context.attributes with
        powerRampLimit := EVDataContext.overwriteDecimal params.evsePowerRampLimit
          memory.context.attributes.powerRampLimit } } }

/-- What `_update_dcbpt_charge_parameters_v20` adds to the common parameters. -/
def updateDcDischargeParametersV20 (dcRatedLimits : Nat)
    (params : BPTDCChargeParameterDiscoveryResParams) (memory : EVSEMemory) : EVSEMemory :=
  { memory with
    dcCpdLimits := memory.dcCpdLimits.write dcRatedLimits
      { memory.dcCpdLimits.read dcRatedLimits with
        maxDischargePower := some params.evseMaxDischargePower.getDecimalValue
        minDischargePower := some params.evseMinDischargePower.getDecimalValue
        maxDischargeCurrent := some params.evseMaxDischargeCurrent.getDecimalValue
        minDischargeCurrent := some params.evseMinDischargeCurrent.getDecimalValue } }

/-- `_update_dcbpt_charge_parameters_v20`. -/
def updateDcbptChargeParametersV20 (dcRatedLimits : Nat)
    (params : BPTDCChargeParameterDiscoveryResParams) (memory : EVSEMemory) : EVSEMemory :=
  updateDcDischargeParametersV20 dcRatedLimits params
    (updateCommonDcChargeParametersV20 dcRatedLimits
      params.toDCChargeParameterDiscoveryResParams memory)

/-- `self.session_limits.dc_limits.update(dc_rated_limits.as_dict())`. -/
def updateDcSessionLimits (dcRatedLimits : Nat) (memory : EVSEMemory) : EVSEMemory :=
  { memory with
    dcClLimits := memory.dcClLimits.write memory.session.dcLimits
      (.ofRated (memory.dcCpdLimits.read dcRatedLimits)) }

/-- `update_dc_charge_parameters_v20`. Fields of a parameter block that the message does
not have cannot be read. -/
def updateDcChargeParametersV20 (energyService : ServiceV20)
    (chargeParameter : DCChargeParameterDiscoveryRes) :
    EStateM PyError EVSEMemory PUnit := do
  let dcRatedLimits := (← get).dcCpdLimits.size
  modify fun memory =>
    memory.setCurrentType.newDcRatedLimits.newSessionLimits.newDcSessionLimits
  match energyService, chargeParameter with
  | .dc, .dc params => modify (updateCommonDcChargeParametersV20 dcRatedLimits params)
  | .dcBpt, .bptDc params => modify (updateDcbptChargeParametersV20 dcRatedLimits params)
  | .dc, _ | .dcBpt, _ => throw .attributeError
  | _, _ => throw .unknownEnergyService
  modify (updateDcSessionLimits dcRatedLimits)

/-! ## What the update leaves -/

/-- The state between the new limits and the reading of the message. -/
def reset (memory : EVSEMemory) : EVSEMemory :=
  memory.setCurrentType.newDcRatedLimits.newSessionLimits.newDcSessionLimits

/-- The state after the message has been read into the new limits. -/
def filled (message : DCChargeParameterDiscoveryRes) (memory : EVSEMemory) : EVSEMemory :=
  let dcRatedLimits := memory.dcCpdLimits.size
  match message with
  | .dc params =>
      (memory.reset.updateCommonDcChargeParametersV20 dcRatedLimits params).updateDcSessionLimits
        dcRatedLimits
  | .bptDc params =>
      (memory.reset.updateDcbptChargeParametersV20 dcRatedLimits params).updateDcSessionLimits
        dcRatedLimits

/-- The rated limits that a message describes. -/
def ratedOf : DCChargeParameterDiscoveryRes → EVSEDCCPDLimits
  | .dc params => EVSEDataContext.commonDcChargeParametersV20 params
  | .bptDc params => EVSEDataContext.dcbptChargeParametersV20 params

variable (service : ServiceV20) (message : DCChargeParameterDiscoveryRes)
  (memory before : EVSEMemory)

/-- An update ends in one of three ways. -/
theorem wp_update (onOk : PUnit → EVSEMemory → Prop) (onError : PyError → EVSEMemory → Prop) :
    wp (updateDcChargeParametersV20 service message) onOk onError memory ↔
      match service, message with
      | .dc, .dc _ | .dcBpt, .bptDc _ => onOk ⟨⟩ (memory.filled message)
      | .dc, _ | .dcBpt, _ => onError .attributeError memory.reset
      | _, _ => onError .unknownEnergyService memory.reset := by
  cases service <;> cases message <;> rfl

theorem limits_reset :
    memory.reset.limits =
      { memory.limits with
        dcRated := {}
        acSession := memory.acClLimits.read 0
        dcSession := {} } := by
  simp [reset, limits, rated, session, setCurrentType, newDcRatedLimits, newSessionLimits,
    newDcSessionLimits]

theorem limits_filled :
    (memory.filled message).limits =
      { memory.limits with
        dcRated := ratedOf message
        acSession := memory.acClLimits.read 0
        dcSession := .ofRated (ratedOf message) } := by
  cases message with
  | dc params =>
      simp [filled, reset, limits, rated, session, setCurrentType, newDcRatedLimits,
        newSessionLimits, newDcSessionLimits, updateCommonDcChargeParametersV20,
        updateDcSessionLimits, ratedOf, EVSEDataContext.commonDcChargeParametersV20]
  | bptDc params =>
      simp [filled, reset, limits, rated, session, setCurrentType, newDcRatedLimits,
        newSessionLimits, newDcSessionLimits, updateCommonDcChargeParametersV20,
        updateDcbptChargeParametersV20, updateDcDischargeParametersV20, updateDcSessionLimits,
        ratedOf, EVSEDataContext.commonDcChargeParametersV20,
        EVSEDataContext.dcbptChargeParametersV20]

theorem attributes_reset :
    memory.reset.context.attributes =
      { memory.context.attributes with currentType := some .dc } :=
  rfl

theorem attributes_filled :
    (memory.filled message).context.attributes =
      { memory.context.attributes with
        currentType := some .dc
        powerRampLimit := EVDataContext.overwriteDecimal message.common.evsePowerRampLimit
          memory.context.attributes.powerRampLimit } := by
  cases message <;> rfl

/-! ## Reading the context -/

/-- What a DC session reads of the context. -/
def dcContext (memory : EVSEMemory) : EVSEDataContext where
  dcRatedLimits := memory.limits.dcRated
  dcSessionLimits := memory.limits.dcSession
  currentType := memory.context.attributes.currentType
  departureTime := memory.context.attributes.departureTime
  targetSoc := memory.context.attributes.targetSoc
  minSoc := memory.context.attributes.minSoc
  ackMaxDelay := memory.context.attributes.ackMaxDelay
  powerRampLimit := memory.context.attributes.powerRampLimit
  testComplete := memory.context.attributes.testComplete

/-- What an AC session reads of it. -/
def acContext (memory : EVSEMemory) : EVSEAcDataContext where
  acRatedLimits := memory.limits.acRated.toEVSEACCPDLimits
  acSessionLimits := memory.limits.acSession
  nominalVoltage := memory.context.attributes.nominalVoltage
  presentVoltage := memory.context.attributes.presentVoltage
  presentActivePower := memory.context.attributes.presentActivePower
  presentActivePowerL2 := memory.context.attributes.presentActivePowerL2
  presentActivePowerL3 := memory.context.attributes.presentActivePowerL3

/-- A DC session sees the update of a context without references. -/
theorem dcContext_update :
    wp (updateDcChargeParametersV20 service message)
      (fun _ after =>
        EVSEDataContext.updateDcChargeParametersV20 service message before.dcContext =
          .ok ⟨⟩ after.dcContext)
      (fun exception after =>
        EVSEDataContext.updateDcChargeParametersV20 service message before.dcContext =
          .error exception after.dcContext) before := by
  have resetContext : before.reset.dcContext =
      { before.dcContext with
        currentType := some .dc
        dcRatedLimits := {}
        dcSessionLimits := {} } := by
    simp only [dcContext, limits_reset, attributes_reset]
  have filledContext : (before.filled message).dcContext =
      EVSEDataContext.setDcLimits (ratedOf message) message.common.evsePowerRampLimit
        { before.dcContext with currentType := some .dc } := by
    simp only [dcContext, limits_filled, attributes_filled, EVSEDataContext.setDcLimits]
  cases service
  case dc =>
    cases message with
    | dc params =>
        rw [wp_update, filledContext]
        rfl
    | bptDc params =>
        rw [wp_update, resetContext]
        rfl
  case dcBpt =>
    cases message with
    | dc params =>
        rw [wp_update, resetContext]
        rfl
    | bptDc params =>
        rw [wp_update, filledContext]
        rfl
  all_goals
    rw [wp_update, resetContext]
    rfl

/-- Neither the parameters of a charge loop nor the maximum current can be read. -/
def AcLimitsUnreadable (memory : EVSEMemory) : Prop :=
  (∀ mode acService,
      getAcChargeLoopParamsV20 memory.acContext mode acService = .error .typeError) ∧
    getEvseMaxCurrentLimitAc memory.acContext = .error .typeError

/-- Both readers of the AC session limits compare a limit that is missing. -/
theorem unreadable_of_unset (unset : memory.limits.acSession = {}) :
    memory.AcLimitsUnreadable := by
  have acSession : memory.acContext.acSessionLimits = {} := unset
  constructor
  · intro mode acService
    simp only [getAcChargeLoopParamsV20, acChargeLoopTargets, acSession]
    rfl
  · simp only [getEvseMaxCurrentLimitAc, acSession]
    rfl

/-- After a DC parameter discovery, and until somebody writes to the default argument, an AC
session cannot go on. -/
theorem unreadable_after_update (unwritten : before.acClLimits.read 0 = {}) :
    wp (updateDcChargeParametersV20 service message)
      (fun _ after => after.AcLimitsUnreadable) (fun _ after => after.AcLimitsUnreadable)
      before := by
  have afterReset : before.reset.AcLimitsUnreadable := by
    apply unreadable_of_unset
    rw [limits_reset, unwritten]
  have afterFilled : (before.filled message).AcLimitsUnreadable := by
    apply unreadable_of_unset
    rw [limits_filled, unwritten]
  rw [wp_update]
  split <;> assumption

/-! ## What an AC session keeps -/

/-- What a DC parameter update may change, and what it may not. -/
structure DcOnly (before after : EVSEMemory) : Prop where
  acRated : after.limits.acRated = before.limits.acRated
  acSession : after.limits.acSession = before.limits.acSession
  attributes : ∃ currentType powerRampLimit,
    after.context.attributes =
      { before.context.attributes with
        currentType := currentType
        powerRampLimit := powerRampLimit }

/-- The update changes the DC limits, the current type and the power ramp limit, and no
limits where it raises `UnknownEnergyService`. -/
def KeepsAcState (service : ServiceV20) (message : DCChargeParameterDiscoveryRes)
    (before : EVSEMemory) : Prop :=
  wp (updateDcChargeParametersV20 service message)
    (fun _ after => DcOnly before after)
    (fun exception after =>
      DcOnly before after ∧
        (exception = .unknownEnergyService → after.limits = before.limits)) before

/-- The AC session limits are those of the default argument. -/
def HasDefaultAcSession (memory : EVSEMemory) : Prop :=
  memory.limits.acSession = memory.acClLimits.read 0

theorem dcOnly_reset_iff : DcOnly before before.reset ↔ before.HasDefaultAcSession := by
  constructor
  · intro only
    have same := only.acSession
    rw [limits_reset] at same
    exact same.symm
  · intro default
    constructor
    case acRated => rw [limits_reset]
    case acSession => rw [limits_reset]; exact default.symm
    case attributes => exact ⟨_, _, attributes_reset before⟩

theorem dcOnly_filled_iff :
    DcOnly before (before.filled message) ↔ before.HasDefaultAcSession := by
  constructor
  · intro only
    have same := only.acSession
    rw [limits_filled] at same
    exact same.symm
  · intro default
    constructor
    case acRated => rw [limits_filled]
    case acSession => rw [limits_filled]; exact default.symm
    case attributes => exact ⟨_, _, attributes_filled message before⟩

theorem limits_reset_eq_iff :
    before.reset.limits = before.limits ↔
      before.HasDefaultAcSession ∧ before.limits.dcRated = {} ∧ before.limits.dcSession = {} := by
  rw [limits_reset, HasDefaultAcSession]
  obtain ⟨acRated, dcRated, acSession, dcSession⟩ := before.limits
  simp only [EVSELimits.mk.injEq, true_and]
  constructor
  · rintro ⟨rated, kept, session⟩
    exact ⟨kept.symm, rated.symm, session.symm⟩
  · rintro ⟨kept, rated, session⟩
    exact ⟨rated.symm, kept.symm, session.symm⟩

/-- The AC session limits survive when they say what the default argument says, and an
unknown service changes no limits when there are none on the DC side. -/
theorem keepsAcState_iff :
    KeepsAcState service message before ↔
      before.limits.acSession = before.acClLimits.read 0 ∧
        (service ≠ .dc → service ≠ .dcBpt →
          before.limits.dcRated = {} ∧ before.limits.dcSession = {}) := by
  rw [KeepsAcState, wp_update]
  cases service
  case dc =>
    cases message with
    | dc params => simp [dcOnly_filled_iff, HasDefaultAcSession]
    | bptDc params => simp [dcOnly_reset_iff, HasDefaultAcSession]
  case dcBpt =>
    cases message with
    | dc params => simp [dcOnly_reset_iff, HasDefaultAcSession]
    | bptDc params => simp [dcOnly_filled_iff, HasDefaultAcSession]
  all_goals
    simp [dcOnly_reset_iff, limits_reset_eq_iff, HasDefaultAcSession]

namespace Sample

/-- The AC limits that the simulated controller starts with. -/
def acSessionLimits : EVSEACCLLimits where
  maxChargePower := some 22000
  maxChargePowerL2 := some 7360
  maxChargePowerL3 := some 7360
  maxChargeReactivePower := some 5000
  maxChargeReactivePowerL2 := some 1700
  maxChargeReactivePowerL3 := some 1700
  maxDischargePower := some 22000
  maxDischargePowerL2 := some 7360
  maxDischargePowerL3 := some 7360
  maxDischargeReactivePower := some 5000
  maxDischargeReactivePowerL2 := some 1700
  maxDischargeReactivePowerL3 := some 1700

/-- 8 kW at most. -/
def dcParameters : DCChargeParameterDiscoveryResParams where
  evseMaxChargePower := ⟨0, 8000, int8_zero, by decide⟩
  evseMinChargePower := ⟨0, 1000, int8_zero, by decide⟩
  evseMaxChargeCurrent := ⟨0, 20, int8_zero, int16_twenty⟩
  evseMinChargeCurrent := ⟨0, 1, int8_zero, by decide⟩
  evseMaxVoltage := ⟨0, 420, int8_zero, by decide⟩
  evseMinVoltage := ⟨0, 200, int8_zero, by decide⟩
  evsePowerRampLimit := none

end Sample

/-- The AC limits of the simulated controller are lost after a DC parameter discovery. -/
theorem acSession_lost :
    ¬∀ (service : ServiceV20) (message : DCChargeParameterDiscoveryRes) (before : EVSEMemory),
      KeepsAcState service message before := by
  intro keeps
  have kept := keeps .dc (.dc Sample.dcParameters)
    (create {} { acSession := Sample.acSessionLimits })
  rw [KeepsAcState, wp_update] at kept
  have same := congrArg EVSEACCLLimits.maxChargePower kept.acSession
  rw [limits_filled] at same
  cases same

end EVSEMemory

end Iso15118.Secc
