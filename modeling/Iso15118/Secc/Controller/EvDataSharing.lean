import Iso15118.Library.Heap
import Iso15118.Secc.Controller.EvData

/-!
# The limits of an EV as objects

The limits of an `EVDataContext` are objects, and its default arguments are objects that
are created once, with the class. What a method does to limits, it does to objects.
-/

namespace Iso15118.Secc

open Effect
open Iso15118.Shared
open Iso15118.Shared.V20

/-! ## Objects -/

/-- `EVRatedLimits`, with references to the limits. -/
structure EVRatedLimits where
  acLimits : Nat
  dcLimits : Nat

/-- `EVSessionLimits`, with references to the limits. -/
structure EVSessionLimits where
  acLimits : Nat
  dcLimits : Nat

/-- The objects that hold limits. -/
structure LimitObjects where
  acCpdLimits : Heap EVACCPDLimits
  dcCpdLimits : Heap EVDCCPDLimits
  acClLimits : Heap EVACCLLimits
  dcClLimits : Heap EVDCCLLimits
  ratedLimits : Heap EVRatedLimits
  sessionLimits : Heap EVSessionLimits

/-- The default arguments, which are evaluated when the classes are defined. -/
def LimitObjects.defaults : LimitObjects where
  acCpdLimits := .singleton {}
  dcCpdLimits := .singleton {}
  acClLimits := .singleton {}
  dcClLimits := .singleton {}
  ratedLimits := .singleton ⟨0, 0⟩
  sessionLimits := .singleton ⟨0, 0⟩

/-- The limits of a context. -/
structure EVLimits where
  acRated : EVACCPDLimits := {}
  dcRated : EVDCCPDLimits := {}
  acSession : EVACCLLimits := {}
  dcSession : EVDCCLLimits := {}
  deriving DecidableEq

def EVDataContext.limits (context : EVDataContext) : EVLimits where
  acRated := context.acRatedLimits
  dcRated := context.dcRatedLimits
  acSession := context.acSessionLimits
  dcSession := context.dcSessionLimits

def EVDataContext.withLimits (context : EVDataContext) (limits : EVLimits) : EVDataContext :=
  { context with
    acRatedLimits := limits.acRated
    dcRatedLimits := limits.dcRated
    acSessionLimits := limits.acSession
    dcSessionLimits := limits.dcSession }

/-- An object of `EVDataContext`. What it has of limits are references, to the default
arguments unless it is created with others. -/
structure EVDataObject where
  attributes : EVDataContext := {}
  ratedLimits : Nat := 0
  sessionLimits : Nat := 0

/-- The limits that the references of an object lead to. -/
def LimitObjects.limitsOf (objects : LimitObjects) (object : EVDataObject) : EVLimits where
  acRated := objects.acCpdLimits.read (objects.ratedLimits.read object.ratedLimits).acLimits
  dcRated := objects.dcCpdLimits.read (objects.ratedLimits.read object.ratedLimits).dcLimits
  acSession :=
    objects.acClLimits.read (objects.sessionLimits.read object.sessionLimits).acLimits
  dcSession :=
    objects.dcClLimits.read (objects.sessionLimits.read object.sessionLimits).dcLimits

/-! ## Updates -/

/-- What the states and the controller do with the data of the EV. -/
inductive Update where
  | evccId (value : String)
  | selectedEnergyMode (value : EnergyTransferMode)
  | presentSoc (value : Int)
  | target (voltage current : Option ℚ)
  | acChargeParametersV2 (acEvChargeParameter : V2.ACEVChargeParameter)
  | dcChargeParameters (dcEvChargeParameter : V2.DCEVChargeParameter)
  | dcChargeParametersDin (dcEvChargeParameter : Din.DCEVChargeParameter)
  | preChargeParameters (preChargeReq : V2.PreChargeReq)
  | preChargeParametersDin (preChargeReq : Din.PreChargeReq)
  | chargeLoopParameters (currentDemandReq : V2.CurrentDemandReq)
  | chargeLoopParametersDin (currentDemandReq : Din.CurrentDemandReq)
  | scheduleExchangeParameters (controlMode : Option ControlMode)
      (scheduleExchangeReq : ScheduleExchangeReq)
  | acChargeParametersV20 (energyService : ServiceV20)
      (chargeParameter : ACChargeParameterDiscoveryReq)
  | acChargeLoopV20 (acChargeLoopReq : ACChargeLoopReq) (energyService : ServiceV20)
      (controlMode : Option ControlMode)
  | dcChargeParametersV20 (energyService : ServiceV20)
      (chargeParameter : DCChargeParameterDiscoveryReq)
  | preChargeParametersV20 (preChargeReq : DCPreChargeReq)
  | dcChargeLoopParametersV20 (dcChargeLoopReq : DCChargeLoopReq)
      (energyService : ServiceV20) (controlMode : Option ControlMode)

/-- The method, or the assignment, as it changes what a reader sees. -/
def Update.program : Update → EStateM PyError EVDataContext PUnit
  | .evccId value => modify fun context => { context with evccId := some value }
  | .selectedEnergyMode value =>
      modify fun context => { context with selectedEnergyMode := some value }
  | .presentSoc value => modify fun context => { context with presentSoc := some value }
  | .target voltage current =>
      modify fun context =>
        { context with
          targetVoltage := voltage.getD context.targetVoltage
          targetCurrent := current.getD context.targetCurrent }
  | .acChargeParametersV2 parameter => modify (·.updateAcChargeParametersV2 parameter)
  | .dcChargeParameters parameter => modify (·.updateDcChargeParameters parameter)
  | .dcChargeParametersDin parameter => modify (·.updateDcChargeParametersDin parameter)
  | .preChargeParameters req => modify (·.updatePreChargeParameters req)
  | .preChargeParametersDin req => modify (·.updatePreChargeParametersDin req)
  | .chargeLoopParameters req => modify (·.updateChargeLoopParameters req)
  | .chargeLoopParametersDin req => modify (·.updateChargeLoopParametersDin req)
  | .scheduleExchangeParameters controlMode req =>
      EVDataContext.updateScheduleExchangeParameters controlMode req
  | .acChargeParametersV20 service parameter =>
      EVDataContext.updateAcChargeParametersV20 service parameter
  | .acChargeLoopV20 req service controlMode =>
      EVDataContext.updateAcChargeLoopV20 req service controlMode
  | .dcChargeParametersV20 service parameter =>
      EVDataContext.updateDcChargeParametersV20 service parameter
  | .preChargeParametersV20 req => modify (·.updatePreChargeParametersV20 req)
  | .dcChargeLoopParametersV20 req service controlMode =>
      EVDataContext.updateDcChargeLoopParametersV20 req service controlMode

/-- The context after an update, which may have raised an exception. -/
def Update.after (update : Update) (context : EVDataContext) : EVDataContext :=
  match update.program context with
  | .ok _ context => context
  | .error _ context => context

/-! ## What an update does to the limits -/

/-- The limits of a message are written over what is there. -/
def EVACCLLimits.over (new old : EVACCLLimits) : EVACCLLimits where
  maxChargePower := new.maxChargePower.or old.maxChargePower
  maxChargePowerL2 := new.maxChargePowerL2.or old.maxChargePowerL2
  maxChargePowerL3 := new.maxChargePowerL3.or old.maxChargePowerL3
  minChargePower := new.minChargePower.or old.minChargePower
  minChargePowerL2 := new.minChargePowerL2.or old.minChargePowerL2
  minChargePowerL3 := new.minChargePowerL3.or old.minChargePowerL3
  maxDischargePower := new.maxDischargePower.or old.maxDischargePower
  maxDischargePowerL2 := new.maxDischargePowerL2.or old.maxDischargePowerL2
  maxDischargePowerL3 := new.maxDischargePowerL3.or old.maxDischargePowerL3
  minDischargePower := new.minDischargePower.or old.minDischargePower
  minDischargePowerL2 := new.minDischargePowerL2.or old.minDischargePowerL2
  minDischargePowerL3 := new.minDischargePowerL3.or old.minDischargePowerL3

def EVDCCLLimits.over (new old : EVDCCLLimits) : EVDCCLLimits where
  maxChargePower := new.maxChargePower.or old.maxChargePower
  minChargePower := new.minChargePower.or old.minChargePower
  maxChargeCurrent := new.maxChargeCurrent.or old.maxChargeCurrent
  maxVoltage := new.maxVoltage.or old.maxVoltage
  minVoltage := new.minVoltage.or old.minVoltage
  maxDischargePower := new.maxDischargePower.or old.maxDischargePower
  minDischargePower := new.minDischargePower.or old.minDischargePower
  maxDischargeCurrent := new.maxDischargeCurrent.or old.maxDischargeCurrent

theorem EVACCLLimits.over_eq_default_iff (new old : EVACCLLimits) :
    new.over old = {} ↔ new = {} ∧ old = {} := by
  obtain ⟨⟩ := new
  obtain ⟨⟩ := old
  simp only [EVACCLLimits.over, EVACCLLimits.mk.injEq, Option.or_eq_none_iff]
  tauto

theorem EVDCCLLimits.over_eq_default_iff (new old : EVDCCLLimits) :
    new.over old = {} ↔ new = {} ∧ old = {} := by
  obtain ⟨⟩ := new
  obtain ⟨⟩ := old
  simp only [EVDCCLLimits.over, EVDCCLLimits.mk.injEq, Option.or_eq_none_iff]
  tauto

/-- What a method does to the limits: it creates objects for those of one current type
and may fill them, or it assigns attributes of the session limits. -/
inductive LimitChange where
  | none
  | createAc (rated : Option EVACCPDLimits)
  | createDc (rated : Option EVDCCPDLimits)
  | assignAc (new : EVACCLLimits)
  | assignDc (new : EVDCCLLimits)

def LimitChange.on (limits : EVLimits) : LimitChange → EVLimits
  | .none => limits
  | .createAc .none => { limits with acRated := {}, acSession := {} }
  | .createAc (some rated) => { limits with acRated := rated, acSession := .ofRated rated }
  | .createDc .none => { limits with dcRated := {}, dcSession := {} }
  | .createDc (some rated) => { limits with dcRated := rated, dcSession := .ofRated rated }
  | .assignAc new => { limits with acSession := new.over limits.acSession }
  | .assignDc new => { limits with dcSession := new.over limits.dcSession }

/-- The objects after the change. New limits become attributes of the rated and the
session limits, which stay the same objects. -/
def LimitChange.store (change : LimitChange) (object : EVDataObject)
    (objects : LimitObjects) : LimitObjects :=
  let rated := objects.ratedLimits.read object.ratedLimits
  let session := objects.sessionLimits.read object.sessionLimits
  let limits := change.on (objects.limitsOf object)
  match change with
  | .none => objects
  | .createAc _ =>
      { objects with
        acCpdLimits := objects.acCpdLimits.new limits.acRated
        acClLimits := objects.acClLimits.new limits.acSession
        ratedLimits :=
          objects.ratedLimits.write object.ratedLimits
            { rated with acLimits := objects.acCpdLimits.size }
        sessionLimits :=
          objects.sessionLimits.write object.sessionLimits
            { session with acLimits := objects.acClLimits.size } }
  | .createDc _ =>
      { objects with
        dcCpdLimits := objects.dcCpdLimits.new limits.dcRated
        dcClLimits := objects.dcClLimits.new limits.dcSession
        ratedLimits :=
          objects.ratedLimits.write object.ratedLimits
            { rated with dcLimits := objects.dcCpdLimits.size }
        sessionLimits :=
          objects.sessionLimits.write object.sessionLimits
            { session with dcLimits := objects.dcClLimits.size } }
  | .assignAc _ =>
      { objects with
        acClLimits := objects.acClLimits.write session.acLimits limits.acSession }
  | .assignDc _ =>
      { objects with
        dcClLimits := objects.dcClLimits.write session.dcLimits limits.dcSession }

/-- Who refers to the same rated and session limits sees the change. -/
theorem limitsOf_store (change : LimitChange) (object : EVDataObject)
    (objects : LimitObjects) :
    (change.store object objects).limitsOf object = change.on (objects.limitsOf object) := by
  cases change with
  | none => rfl
  | createAc rated =>
      cases rated with
      | none => simp [LimitChange.store, LimitObjects.limitsOf, LimitChange.on]
      | some rated => simp [LimitChange.store, LimitObjects.limitsOf, LimitChange.on]
  | createDc rated =>
      cases rated with
      | none => simp [LimitChange.store, LimitObjects.limitsOf, LimitChange.on]
      | some rated => simp [LimitChange.store, LimitObjects.limitsOf, LimitChange.on]
  | assignAc new => simp [LimitChange.store, LimitObjects.limitsOf, LimitChange.on]
  | assignDc new => simp [LimitChange.store, LimitObjects.limitsOf, LimitChange.on]

/-- The session limits that a charge loop message carries. -/
def currentDemandLimits (req : V2.CurrentDemandReq) : EVDCCLLimits where
  maxChargeCurrent := req.evMaxCurrentLimit.map PhysicalValue.getDecimalValue
  maxChargePower := req.evMaxPowerLimit.map PhysicalValue.getDecimalValue
  maxVoltage := req.evMaxVoltageLimit.map PhysicalValue.getDecimalValue

def currentDemandLimitsDin (req : Din.CurrentDemandReq) : EVDCCLLimits where
  maxChargeCurrent := req.evMaxCurrentLimit.map PhysicalValue.getDecimalValue
  maxChargePower := req.evMaxPowerLimit.map PhysicalValue.getDecimalValue
  maxVoltage := req.evMaxVoltageLimit.map PhysicalValue.getDecimalValue

def commonAcLimits (params : ScheduledACChargeLoopReqParams) : EVACCLLimits where
  maxChargePower := params.evMaxChargePower.map RationalNumber.getDecimalValue
  maxChargePowerL2 := params.evMaxChargePowerL2.map RationalNumber.getDecimalValue
  maxChargePowerL3 := params.evMaxChargePowerL3.map RationalNumber.getDecimalValue
  minChargePower := params.evMinChargePower.map RationalNumber.getDecimalValue
  minChargePowerL2 := params.evMinChargePowerL2.map RationalNumber.getDecimalValue
  minChargePowerL3 := params.evMinChargePowerL3.map RationalNumber.getDecimalValue

def commonAcbptLimits (params : BPTScheduledACChargeLoopReqParams) : EVACCLLimits :=
  { commonAcLimits params.toScheduledACChargeLoopReqParams with
    maxDischargePower := params.evMaxDischargePower.map RationalNumber.getDecimalValue
    maxDischargePowerL2 := params.evMaxDischargePowerL2.map RationalNumber.getDecimalValue
    maxDischargePowerL3 := params.evMaxDischargePowerL3.map RationalNumber.getDecimalValue
    minDischargePower := params.evMinDischargePower.map RationalNumber.getDecimalValue
    minDischargePowerL2 := params.evMinDischargePowerL2.map RationalNumber.getDecimalValue
    minDischargePowerL3 := params.evMinDischargePowerL3.map RationalNumber.getDecimalValue }

def commonDcLimits (params : EVDataContext.CommonDcLimits) : EVDCCLLimits where
  maxChargePower := params.evMaxChargePower.map RationalNumber.getDecimalValue
  minChargePower := params.evMinChargePower.map RationalNumber.getDecimalValue
  maxChargeCurrent := params.evMaxChargeCurrent.map RationalNumber.getDecimalValue
  maxVoltage := params.evMaxVoltage.map RationalNumber.getDecimalValue
  minVoltage := params.evMinVoltage.map RationalNumber.getDecimalValue

def commonDcBptLimits (params : EVDataContext.CommonDcLimits)
    (evMaxDischargePower evMinDischargePower evMaxDischargeCurrent : Option RationalNumber) :
    EVDCCLLimits :=
  { commonDcLimits params with
    maxDischargePower := evMaxDischargePower.map RationalNumber.getDecimalValue
    minDischargePower := evMinDischargePower.map RationalNumber.getDecimalValue
    maxDischargeCurrent := evMaxDischargeCurrent.map RationalNumber.getDecimalValue }

def acChargeLoopLimits (params : ACChargeLoopReqParams) (energyService : ServiceV20)
    (controlMode : Option ControlMode) : EVACCLLimits :=
  match energyService, controlMode, params with
  | .ac, some .scheduled, .scheduled params => commonAcLimits params
  | .ac, some .dynamic, .dynamic params => commonAcLimits (EVDataContext.dynamicAcLimits params)
  | .acBpt, some .scheduled, .bptScheduled params => commonAcbptLimits params
  | .acBpt, some .dynamic, .bptDynamic params =>
      commonAcbptLimits (EVDataContext.dynamicAcbptLimits params)
  | _, _, _ => {}

def dcChargeLoopLimits (params : DCChargeLoopReqParams) (energyService : ServiceV20)
    (controlMode : Option ControlMode) : EVDCCLLimits :=
  match energyService, controlMode, params with
  | .dc, some .scheduled, .scheduled params =>
      commonDcLimits (EVDataContext.scheduledLimits params)
  | .dc, some .dynamic, .dynamic params => commonDcLimits (EVDataContext.dynamicLimits params)
  | .dcBpt, some .scheduled, .bptScheduled params =>
      commonDcBptLimits (EVDataContext.scheduledLimits params.toScheduledDCChargeLoopReqParams)
        params.evMaxDischargePower params.evMinDischargePower params.evMaxDischargeCurrent
  | .dcBpt, some .dynamic, .bptDynamic params =>
      commonDcBptLimits (EVDataContext.dynamicLimits params.toDynamicDCChargeLoopReqParams)
        (some params.evMaxDischargePower) (some params.evMinDischargePower)
        (some params.evMaxDischargeCurrent)
  | _, _, _ => {}

def acRatedLimitsV20 (energyService : ServiceV20) (parameter : ACChargeParameterDiscoveryReq) :
    Option EVACCPDLimits :=
  match energyService, parameter with
  | .ac, .ac params => some (EVDataContext.commonAcChargeParametersV20 params)
  | .acBpt, .bptAc params => some (EVDataContext.acbptChargeParametersV20 params)
  | _, _ => none

def dcRatedLimitsV20 (energyService : ServiceV20) (parameter : DCChargeParameterDiscoveryReq) :
    Option EVDCCPDLimits :=
  match energyService, parameter with
  | .dc, .dc params => some (EVDataContext.commonDcChargeParametersV20 params)
  | .dcBpt, .bptDc params => some (EVDataContext.dcbptChargeParametersV20 params)
  | _, _ => none

namespace Update

/-- What the message of an update has to say about limits. -/
def limitChange : Update → LimitChange
  | .acChargeParametersV2 parameter =>
      .createAc <| some
        { maxVoltage := some parameter.evMaxVoltage.getDecimalValue
          maxChargeCurrent := some parameter.evMaxCurrent.getDecimalValue
          minChargeCurrent := some parameter.evMinCurrent.getDecimalValue }
  | .dcChargeParameters parameter =>
      .createDc <| some
        { maxVoltage := some parameter.evMaximumVoltageLimit.getDecimalValue
          maxChargeCurrent := some parameter.evMaximumCurrentLimit.getDecimalValue
          maxChargePower := parameter.evMaximumPowerLimit.map PhysicalValue.getDecimalValue }
  | .dcChargeParametersDin parameter =>
      .createDc <| some
        { maxVoltage := some parameter.evMaximumVoltageLimit.getDecimalValue
          maxChargeCurrent := some parameter.evMaximumCurrentLimit.getDecimalValue
          maxChargePower := parameter.evMaximumPowerLimit.map PhysicalValue.getDecimalValue }
  | .chargeLoopParameters req => .assignDc (currentDemandLimits req)
  | .chargeLoopParametersDin req => .assignDc (currentDemandLimitsDin req)
  | .acChargeParametersV20 service parameter => .createAc (acRatedLimitsV20 service parameter)
  | .acChargeLoopV20 req service mode => .assignAc (acChargeLoopLimits req.params service mode)
  | .dcChargeParametersV20 service parameter => .createDc (dcRatedLimitsV20 service parameter)
  | .dcChargeLoopParametersV20 req service mode =>
      .assignDc (dcChargeLoopLimits req.params service mode)
  | _ => .none

theorem scheduleExchange_limits (controlMode : Option ControlMode) (req : ScheduleExchangeReq)
    (context : EVDataContext) :
    ((scheduleExchangeParameters controlMode req).after context).limits = context.limits := by
  obtain ⟨maximum, params⟩ := req
  rcases controlMode with _ | ⟨⟨⟩⟩ <;> cases params <;> rfl

theorem acChargeParametersV20_limits (service : ServiceV20)
    (parameter : ACChargeParameterDiscoveryReq) (context : EVDataContext) :
    ((acChargeParametersV20 service parameter).after context).limits =
      (LimitChange.createAc (acRatedLimitsV20 service parameter)).on context.limits := by
  cases service <;> cases parameter <;> rfl

theorem dcChargeParametersV20_limits (service : ServiceV20)
    (parameter : DCChargeParameterDiscoveryReq) (context : EVDataContext) :
    ((dcChargeParametersV20 service parameter).after context).limits =
      (LimitChange.createDc (dcRatedLimitsV20 service parameter)).on context.limits := by
  cases service <;> cases parameter <;> rfl

theorem acChargeLoopV20_limits (req : ACChargeLoopReq) (service : ServiceV20)
    (mode : Option ControlMode) (context : EVDataContext) :
    ((acChargeLoopV20 req service mode).after context).limits =
      (LimitChange.assignAc (acChargeLoopLimits req.params service mode)).on context.limits := by
  obtain ⟨display, meter, params⟩ := req
  cases service <;> rcases mode with _ | ⟨⟨⟩⟩ <;> cases params <;> rfl

theorem dcChargeLoopParametersV20_limits (req : DCChargeLoopReq) (service : ServiceV20)
    (mode : Option ControlMode) (context : EVDataContext) :
    ((dcChargeLoopParametersV20 req service mode).after context).limits =
      (LimitChange.assignDc (dcChargeLoopLimits req.params service mode)).on context.limits := by
  obtain ⟨display, meter, voltage, params⟩ := req
  cases display <;> cases service <;> rcases mode with _ | ⟨⟨⟩⟩ <;> cases params <;> rfl

/-- The methods change the limits as their messages say. -/
theorem after_limits (update : Update) (context : EVDataContext) :
    (update.after context).limits = update.limitChange.on context.limits := by
  cases update
  case scheduleExchangeParameters mode req => exact scheduleExchange_limits mode req context
  case acChargeParametersV20 service parameter =>
    exact acChargeParametersV20_limits service parameter context
  case acChargeLoopV20 req service mode => exact acChargeLoopV20_limits req service mode context
  case dcChargeParametersV20 service parameter =>
    exact dcChargeParametersV20_limits service parameter context
  case dcChargeLoopParametersV20 req service mode =>
    exact dcChargeLoopParametersV20_limits req service mode context
  all_goals rfl

end Update

end Iso15118.Secc
