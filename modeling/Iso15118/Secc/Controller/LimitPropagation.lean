import Iso15118.Library.Dictionary
import Iso15118.Secc.Controller.EvDataSharing
import Iso15118.Secc.Controller.EvseData

/-!
# Limits after a charge parameter discovery

A message is decoded into new rated limits, and the session limits are made of the fields that
they share with them. The classes of limits have different fields under the same names, and the
fields are the keys of their dictionaries here.
-/

namespace Iso15118.Secc

open Effect
open Iso15118.Shared
open Iso15118.Shared.V20
open Dictionary

/-- The names of fields of limits. -/
inductive LimitName where
  | maxChargePower
  | maxChargePowerL2
  | maxChargePowerL3
  | minChargePower
  | minChargePowerL2
  | minChargePowerL3
  | maxDischargePower
  | maxDischargePowerL2
  | maxDischargePowerL3
  | minDischargePower
  | minDischargePowerL2
  | minDischargePowerL3
  | maxChargeCurrent
  | minChargeCurrent
  | maxDischargeCurrent
  | minDischargeCurrent
  | maxVoltage
  | minVoltage
  deriving DecidableEq, Repr

/-- `as_dict` of limits. -/
abbrev LimitDict := List (LimitName × Option ℚ)

def EVACCPDLimits.asDict (limits : EVACCPDLimits) : LimitDict :=
  [(.maxChargeCurrent, limits.maxChargeCurrent), (.minChargeCurrent, limits.minChargeCurrent),
    (.maxVoltage, limits.maxVoltage), (.maxChargePower, limits.maxChargePower),
    (.maxChargePowerL2, limits.maxChargePowerL2), (.maxChargePowerL3, limits.maxChargePowerL3),
    (.minChargePower, limits.minChargePower), (.minChargePowerL2, limits.minChargePowerL2),
    (.minChargePowerL3, limits.minChargePowerL3), (.maxDischargePower, limits.maxDischargePower),
    (.maxDischargePowerL2, limits.maxDischargePowerL2),
    (.maxDischargePowerL3, limits.maxDischargePowerL3),
    (.minDischargePower, limits.minDischargePower),
    (.minDischargePowerL2, limits.minDischargePowerL2),
    (.minDischargePowerL3, limits.minDischargePowerL3)]

def EVDCCPDLimits.asDict (limits : EVDCCPDLimits) : LimitDict :=
  [(.maxChargePower, limits.maxChargePower), (.minChargePower, limits.minChargePower),
    (.maxChargeCurrent, limits.maxChargeCurrent), (.minChargeCurrent, limits.minChargeCurrent),
    (.maxVoltage, limits.maxVoltage), (.minVoltage, limits.minVoltage),
    (.maxDischargePower, limits.maxDischargePower),
    (.minDischargePower, limits.minDischargePower),
    (.maxDischargeCurrent, limits.maxDischargeCurrent),
    (.minDischargeCurrent, limits.minDischargeCurrent)]

def EVACCLLimits.asDict (limits : EVACCLLimits) : LimitDict :=
  [(.maxChargePower, limits.maxChargePower), (.maxChargePowerL2, limits.maxChargePowerL2),
    (.maxChargePowerL3, limits.maxChargePowerL3), (.minChargePower, limits.minChargePower),
    (.minChargePowerL2, limits.minChargePowerL2), (.minChargePowerL3, limits.minChargePowerL3),
    (.maxDischargePower, limits.maxDischargePower),
    (.maxDischargePowerL2, limits.maxDischargePowerL2),
    (.maxDischargePowerL3, limits.maxDischargePowerL3),
    (.minDischargePower, limits.minDischargePower),
    (.minDischargePowerL2, limits.minDischargePowerL2),
    (.minDischargePowerL3, limits.minDischargePowerL3)]

def EVDCCLLimits.asDict (limits : EVDCCLLimits) : LimitDict :=
  [(.maxChargePower, limits.maxChargePower), (.minChargePower, limits.minChargePower),
    (.maxChargeCurrent, limits.maxChargeCurrent), (.maxVoltage, limits.maxVoltage),
    (.minVoltage, limits.minVoltage), (.maxDischargePower, limits.maxDischargePower),
    (.minDischargePower, limits.minDischargePower),
    (.maxDischargeCurrent, limits.maxDischargeCurrent)]

def EVSEDCCPDLimits.asDict (limits : EVSEDCCPDLimits) : LimitDict :=
  [(.maxChargePower, limits.maxChargePower), (.minChargePower, limits.minChargePower),
    (.maxChargeCurrent, limits.maxChargeCurrent), (.minChargeCurrent, limits.minChargeCurrent),
    (.maxVoltage, limits.maxVoltage), (.minVoltage, limits.minVoltage),
    (.maxDischargePower, limits.maxDischargePower),
    (.minDischargePower, limits.minDischargePower),
    (.maxDischargeCurrent, limits.maxDischargeCurrent),
    (.minDischargeCurrent, limits.minDischargeCurrent)]

def EVSEDCCLLimits.asDict (limits : EVSEDCCLLimits) : LimitDict :=
  [(.maxChargePower, limits.maxChargePower), (.minChargePower, limits.minChargePower),
    (.maxChargeCurrent, limits.maxChargeCurrent), (.maxVoltage, limits.maxVoltage),
    (.minVoltage, limits.minVoltage), (.maxDischargePower, limits.maxDischargePower),
    (.minDischargePower, limits.minDischargePower),
    (.maxDischargeCurrent, limits.maxDischargeCurrent)]

/-! ## `Limits.update` -/

theorem EVACCLLimits.asDict_ofRated (rated : EVACCPDLimits) :
    (EVACCLLimits.ofRated rated).asDict =
      mergeCommon ({} : EVACCLLimits).asDict rated.asDict :=
  rfl

theorem EVDCCLLimits.asDict_ofRated (rated : EVDCCPDLimits) :
    (EVDCCLLimits.ofRated rated).asDict =
      mergeCommon ({} : EVDCCLLimits).asDict rated.asDict :=
  rfl

theorem EVSEDCCLLimits.asDict_ofRated (rated : EVSEDCCPDLimits) :
    (EVSEDCCLLimits.ofRated rated).asDict =
      mergeCommon ({} : EVSEDCCLLimits).asDict rated.asDict :=
  rfl

/-! ## Messages -/

/-- The charge parameters that a method decodes. -/
inductive ChargeParameters where
  | acV2 (params : V2.ACEVChargeParameter)
  | dcV2 (params : V2.DCEVChargeParameter)
  | ac (params : ACChargeParameterDiscoveryReqParams)
  | acBpt (params : BPTACChargeParameterDiscoveryReqParams)
  | dc (params : DCChargeParameterDiscoveryReqParams)
  | dcBpt (params : BPTDCChargeParameterDiscoveryReqParams)
  | evseDc (params : DCChargeParameterDiscoveryResParams)
  | evseDcBpt (params : BPTDCChargeParameterDiscoveryResParams)

/-- What the SECC knows about the EV, and about itself. -/
structure DataContexts where
  ev : EVDataContext
  evse : EVSEDataContext

namespace ChargeParameters

/-- The value that the message has for a field of that name. -/
def value : ChargeParameters → LimitName → Option ℚ
  | .acV2 params, .maxVoltage => some params.evMaxVoltage.getDecimalValue
  | .acV2 params, .maxChargeCurrent => some params.evMaxCurrent.getDecimalValue
  | .acV2 params, .minChargeCurrent => some params.evMinCurrent.getDecimalValue
  | .acV2 _, _ => none
  | .dcV2 params, .maxVoltage => some params.evMaximumVoltageLimit.getDecimalValue
  | .dcV2 params, .maxChargeCurrent => some params.evMaximumCurrentLimit.getDecimalValue
  | .dcV2 params, .maxChargePower =>
      params.evMaximumPowerLimit.map PhysicalValue.getDecimalValue
  | .dcV2 _, _ => none
  | .ac params, name => acValue params name
  | .acBpt params, .maxDischargePower => some params.evMaxDischargePower.getDecimalValue
  | .acBpt params, .maxDischargePowerL2 =>
      params.evMaxDischargePowerL2.map RationalNumber.getDecimalValue
  | .acBpt params, .maxDischargePowerL3 =>
      params.evMaxDischargePowerL3.map RationalNumber.getDecimalValue
  | .acBpt params, .minDischargePower => some params.evMinDischargePower.getDecimalValue
  | .acBpt params, .minDischargePowerL2 =>
      params.evMinDischargePowerL2.map RationalNumber.getDecimalValue
  | .acBpt params, .minDischargePowerL3 =>
      params.evMinDischargePowerL3.map RationalNumber.getDecimalValue
  | .acBpt params, name => acValue params.toACChargeParameterDiscoveryReqParams name
  | .dc params, name => dcValue params name
  | .dcBpt params, .maxDischargePower => some params.evMaxDischargePower.getDecimalValue
  | .dcBpt params, .minDischargePower => some params.evMinDischargePower.getDecimalValue
  | .dcBpt params, .maxDischargeCurrent => some params.evMaxDischargeCurrent.getDecimalValue
  | .dcBpt params, .minDischargeCurrent => some params.evMinDischargeCurrent.getDecimalValue
  | .dcBpt params, name => dcValue params.toDCChargeParameterDiscoveryReqParams name
  | .evseDc params, name => evseDcValue params name
  | .evseDcBpt params, .maxDischargePower => some params.evseMaxDischargePower.getDecimalValue
  | .evseDcBpt params, .minDischargePower => some params.evseMinDischargePower.getDecimalValue
  | .evseDcBpt params, .maxDischargeCurrent =>
      some params.evseMaxDischargeCurrent.getDecimalValue
  | .evseDcBpt params, .minDischargeCurrent =>
      some params.evseMinDischargeCurrent.getDecimalValue
  | .evseDcBpt params, name => evseDcValue params.toDCChargeParameterDiscoveryResParams name
where
  acValue (params : ACChargeParameterDiscoveryReqParams) : LimitName → Option ℚ
    | .maxChargePower => some params.evMaxChargePower.getDecimalValue
    | .maxChargePowerL2 => params.evMaxChargePowerL2.map RationalNumber.getDecimalValue
    | .maxChargePowerL3 => params.evMaxChargePowerL3.map RationalNumber.getDecimalValue
    | .minChargePower => some params.evMinChargePower.getDecimalValue
    | .minChargePowerL2 => params.evMinChargePowerL2.map RationalNumber.getDecimalValue
    | .minChargePowerL3 => params.evMinChargePowerL3.map RationalNumber.getDecimalValue
    | _ => none
  dcValue (params : DCChargeParameterDiscoveryReqParams) : LimitName → Option ℚ
    | .maxChargePower => some params.evMaxChargePower.getDecimalValue
    | .minChargePower => some params.evMinChargePower.getDecimalValue
    | .maxChargeCurrent => some params.evMaxChargeCurrent.getDecimalValue
    | .minChargeCurrent => some params.evMinChargeCurrent.getDecimalValue
    | .maxVoltage => some params.evMaxVoltage.getDecimalValue
    | .minVoltage => some params.evMinVoltage.getDecimalValue
    | _ => none
  evseDcValue (params : DCChargeParameterDiscoveryResParams) : LimitName → Option ℚ
    | .maxChargePower => some params.evseMaxChargePower.getDecimalValue
    | .minChargePower => some params.evseMinChargePower.getDecimalValue
    | .maxChargeCurrent => some params.evseMaxChargeCurrent.getDecimalValue
    | .minChargeCurrent => some params.evseMinChargeCurrent.getDecimalValue
    | .maxVoltage => some params.evseMaxVoltage.getDecimalValue
    | .minVoltage => some params.evseMinVoltage.getDecimalValue
    | _ => none

/-- The power limits that the EV's messages of ISO 15118-2 have no field for are zero, as the
classes of rated limits are made. -/
def initial : ChargeParameters → LimitName → Option ℚ
  | .acV2 _, .maxChargePower => some 0
  | .acV2 _, .minChargePower => some 0
  | .dcV2 _, .minChargePower => some 0
  | _, _ => none

/-- Messages for bidirectional power transfer. -/
def isBpt : ChargeParameters → Bool
  | .acBpt _ | .dcBpt _ | .evseDcBpt _ => true
  | _ => false

/-- A method of the EV's data. -/
def updateEv (program : EStateM PyError EVDataContext PUnit) :
    EStateM PyError DataContexts PUnit :=
  zoom DataContexts.ev (fun ev contexts => { contexts with ev }) program

/-- A method of the EVSE's data. -/
def updateEvse (program : EStateM PyError EVSEDataContext PUnit) :
    EStateM PyError DataContexts PUnit :=
  zoom DataContexts.evse (fun evse contexts => { contexts with evse }) program

/-- The method that decodes the message. -/
def update : ChargeParameters → EStateM PyError DataContexts PUnit
  | .acV2 params => updateEv (modify (·.updateAcChargeParametersV2 params))
  | .dcV2 params => updateEv (modify (·.updateDcChargeParameters params))
  | .ac params => updateEv (EVDataContext.updateAcChargeParametersV20 .ac (.ac params))
  | .acBpt params => updateEv (EVDataContext.updateAcChargeParametersV20 .acBpt (.bptAc params))
  | .dc params => updateEv (EVDataContext.updateDcChargeParametersV20 .dc (.dc params))
  | .dcBpt params => updateEv (EVDataContext.updateDcChargeParametersV20 .dcBpt (.bptDc params))
  | .evseDc params => updateEvse (EVSEDataContext.updateDcChargeParametersV20 .dc (.dc params))
  | .evseDcBpt params =>
      updateEvse (EVSEDataContext.updateDcChargeParametersV20 .dcBpt (.bptDc params))

/-- The rated limits that the method writes. -/
def rated (message : ChargeParameters) (contexts : DataContexts) : LimitDict :=
  match message with
  | .acV2 _ | .ac _ | .acBpt _ => contexts.ev.acRatedLimits.asDict
  | .dcV2 _ | .dc _ | .dcBpt _ => contexts.ev.dcRatedLimits.asDict
  | .evseDc _ | .evseDcBpt _ => contexts.evse.dcRatedLimits.asDict

/-- The session limits that the method writes. -/
def session (message : ChargeParameters) (contexts : DataContexts) : LimitDict :=
  match message with
  | .acV2 _ | .ac _ | .acBpt _ => contexts.ev.acSessionLimits.asDict
  | .dcV2 _ | .dc _ | .dcBpt _ => contexts.ev.dcSessionLimits.asDict
  | .evseDc _ | .evseDcBpt _ => contexts.evse.dcSessionLimits.asDict

end ChargeParameters

/-- The limits of power and current out of the EV. -/
def dischargeNames : List LimitName :=
  [.maxDischargePower, .maxDischargePowerL2, .maxDischargePowerL3, .minDischargePower,
    .minDischargePowerL2, .minDischargePowerL3, .maxDischargeCurrent, .minDischargeCurrent]

/-- The rated limits are as expected, the session limits are the rated ones where they have the
same fields, and nothing is left for a discharge that the message does not speak of. -/
structure Propagated (message : ChargeParameters) (expected : LimitName → Option ℚ)
    (after : DataContexts) : Prop where
  rated : ∀ name held, (message.rated after).lookup name = some held → held = expected name
  session : ∀ name limit held, (message.rated after).lookup name = some limit →
    (message.session after).lookup name = some held → held = limit
  discharge : message.isBpt = false → ∀ name ∈ dischargeNames, ∀ held,
    (message.rated after).lookup name = some held ∨
      (message.session after).lookup name = some held → held = none

/-- The method returns, and then the limits are as the message says. -/
def Propagates (message : ChargeParameters) (expected : LimitName → Option ℚ)
    (before : DataContexts) : Prop :=
  returns message.update (fun _ after => Propagated message expected after) before

/-! ## What the methods leave -/

namespace ChargeParameters

/-- The fields of the rated limits. -/
def ratedNames (message : ChargeParameters) : List LimitName :=
  (message.rated ⟨{}, {}⟩).map Prod.fst

/-- The session limits before the rated ones are copied. -/
def fresh : ChargeParameters → LimitDict
  | .acV2 _ | .ac _ | .acBpt _ => ({} : EVACCLLimits).asDict
  | .dcV2 _ | .dc _ | .dcBpt _ => ({} : EVDCCLLimits).asDict
  | .evseDc _ | .evseDcBpt _ => ({} : EVSEDCCLLimits).asDict

/-- What is expected of the rated limits: the message, and otherwise how they are made. -/
def expected (message : ChargeParameters) (name : LimitName) : Option ℚ :=
  (message.value name).or (message.initial name)

theorem expected_of_set {message : ChargeParameters} (set : ∀ name, message.initial name = none) :
    message.expected = message.value := by
  funext name
  rw [expected, set name, Option.or_none]

theorem fresh_unset (message : ChargeParameters) {name : LimitName} {held : Option ℚ}
    (found : message.fresh.lookup name = some held) : held = none := by
  have ac : ∀ entry ∈ ({} : EVACCLLimits).asDict, entry.2 = none := by decide
  have dc : ∀ entry ∈ ({} : EVDCCLLimits).asDict, entry.2 = none := by decide
  have evse : ∀ entry ∈ ({} : EVSEDCCLLimits).asDict, entry.2 = none := by decide
  have unset : ∀ entry ∈ message.fresh, entry.2 = none := by
    cases message with
    | acV2 _ | ac _ | acBpt _ => exact ac
    | dcV2 _ | dc _ | dcBpt _ => exact dc
    | evseDc _ | evseDcBpt _ => exact evse
  obtain ⟨before, after, split, _⟩ := List.lookup_eq_some_iff.mp found
  exact unset (name, held) (by rw [split]; simp)

/-- What no other message speaks of is unset. -/
theorem expected_discharge {message : ChargeParameters} (oneWay : message.isBpt = false)
    {name : LimitName} (discharge : name ∈ dischargeNames) : message.expected name = none := by
  cases message
  case acBpt => cases oneWay
  case dcBpt => cases oneWay
  case evseDcBpt => cases oneWay
  all_goals
    simp only [dischargeNames, List.mem_cons, List.not_mem_nil, or_false] at discharge
    rcases discharge with rfl | rfl | rfl | rfl | rfl | rfl | rfl | rfl <;> rfl

/-- Nothing of what was there before is left in the limits of the message. -/
theorem returns_update (message : ChargeParameters) (before : DataContexts) :
    returns message.update (fun _ after =>
      message.rated after = ofKeys message.ratedNames message.expected ∧
        message.session after = mergeCommon message.fresh (message.rated after)) before := by
  cases message with
  | acV2 params => exact ⟨rfl, rfl⟩
  | dcV2 params =>
      obtain ⟨_, _, _, power, _⟩ := params
      cases power with
      | none => exact ⟨rfl, rfl⟩
      | some power => exact ⟨rfl, rfl⟩
  | ac params =>
      rw [expected_of_set fun _ => rfl]
      exact ⟨rfl, rfl⟩
  | acBpt params =>
      rw [expected_of_set fun _ => rfl]
      exact ⟨rfl, rfl⟩
  | dc params => exact ⟨rfl, rfl⟩
  | dcBpt params => exact ⟨rfl, rfl⟩
  | evseDc params => exact ⟨rfl, rfl⟩
  | evseDcBpt params => exact ⟨rfl, rfl⟩

end ChargeParameters

/-- After every charge parameter discovery the limits are those of its message, and of how the
classes are made; what was there before does not matter. -/
theorem chargeParameters_propagate (message : ChargeParameters) (before : DataContexts) :
    Propagates message message.expected before := by
  refine wp_mono ?_ (fun _ _ => id) (message.returns_update before)
  rintro _ after ⟨rated, session⟩
  constructor
  case rated =>
    intro name held found
    rw [rated] at found
    exact lookup_ofKeys found
  case session =>
    intro name limit held given found
    rw [session] at found
    exact lookup_mergeCommon_of_common given found
  case discharge =>
    intro oneWay name discharge held found
    have unset : ∀ limit, (message.rated after).lookup name = some limit → limit = none := by
      intro limit given
      rw [rated] at given
      rw [lookup_ofKeys given, ChargeParameters.expected_discharge oneWay discharge]
    rcases found with given | found
    · exact unset held given
    · rw [session, lookup_mergeCommon] at found
      obtain ⟨old, own, same⟩ := Option.map_eq_some_iff.mp found
      rw [← same]
      cases given : (message.rated after).lookup name with
      | none => exact message.fresh_unset own
      | some limit => exact unset limit given

namespace Sample

/-- 400 V and up to 32 A. -/
def acParameters : V2.ACEVChargeParameter where
  departureTime := none
  eAmount := ⟨70, 0, by decide, multiplier_zero⟩
  evMaxVoltage := ⟨400, 0, int16_fourHundred, multiplier_zero⟩
  evMaxCurrent := ⟨32, 0, by decide, multiplier_zero⟩
  evMinCurrent := ⟨8, 0, by decide, multiplier_zero⟩

end Sample

/-- A message of ISO 15118-2 without any power leaves powers of zero, which are not unset. -/
theorem powers_not_unset :
    ¬Propagates (.acV2 Sample.acParameters)
      (ChargeParameters.value (.acV2 Sample.acParameters)) ⟨{}, {}⟩ := by
  intro propagates
  have propagated : Propagated (.acV2 Sample.acParameters)
      (ChargeParameters.value (.acV2 Sample.acParameters))
      ⟨EVDataContext.updateAcChargeParametersV2 {} Sample.acParameters, {}⟩ := propagates
  cases propagated.rated .maxChargePower (some 0) rfl

end Iso15118.Secc
