import Iso15118.Secc.Controller.EvseAcData
import Iso15118.Secc.Controller.Interface

/-!
# Reading the AC session limits

The concrete methods of `EVSEControllerInterface` that turn the AC session limits
into the targets of an ISO 15118-20 charge loop and the maximum current of an
ISO 15118-2 one. Limits are optional. Some of the comparisons allow for a missing
limit, and others raise on it.
-/

namespace Iso15118.Secc

open Iso15118.Shared
open Iso15118.Shared.V20

/-- The fields that the four kinds of AC charge loop response parameters share. The
dynamic kinds require the active target, which is always there. -/
structure ACChargeLoopTargets where
  evseTargetActivePower : Option RationalNumber
  evseTargetActivePowerL2 : Option RationalNumber
  evseTargetActivePowerL3 : Option RationalNumber
  evseTargetReactivePower : Option RationalNumber
  evseTargetReactivePowerL2 : Option RationalNumber
  evseTargetReactivePowerL3 : Option RationalNumber
  evsePresentActivePower : Option RationalNumber
  evsePresentActivePowerL2 : Option RationalNumber
  evsePresentActivePowerL3 : Option RationalNumber
  deriving DecidableEq

inductive ACChargeLoopResParams where
  | scheduled (targets : ACChargeLoopTargets)
  | dynamic (targets : ACChargeLoopTargets)
  | bptScheduled (targets : ACChargeLoopTargets)
  | bptDynamic (targets : ACChargeLoopTargets)
  deriving DecidableEq

def ACChargeLoopResParams.targets : ACChargeLoopResParams → ACChargeLoopTargets
  | .scheduled targets | .dynamic targets | .bptScheduled targets | .bptDynamic targets => targets

/-- `limit > 0`; a missing limit cannot be compared. -/
def isPositive (limit : Option ℚ) : Except PyError Bool :=
  match limit with
  | some limit => .ok (0 < limit)
  | none => .error .typeError

/-- The active half of `get_target_power_limits`: the target, and whether it is one
of discharging. -/
def targetActivePower (limits : EVSEACCLLimits) : Except PyError (ℚ × Bool) :=
  if 0 < limits.maxChargePower.getD 0 ∧ 0 < limits.maxDischargePower.getD 0 then
    .ok (limits.maxChargePower.getD 0, false)
  else do
    if ← isPositive limits.maxChargePower then
      return (limits.maxChargePower.getD 0, false)
    else if ← isPositive limits.maxDischargePower then
      return (-1 * limits.maxDischargePower.getD 0, true)
    else
      return (0, false)

/-- The reactive half. Its conditions read `limit or (0 > 0)`, which asks whether
the limit is truthy. -/
def targetReactivePower (limits : EVSEACCLLimits) : ℚ × Bool :=
  if 0 < limits.maxChargeReactivePower.getD 0 ∧ 0 < limits.maxDischargeReactivePower.getD 0 then
    (limits.maxChargeReactivePower.getD 0, false)
  else
    match truthy limits.maxChargeReactivePower, truthy limits.maxDischargeReactivePower with
    | some charge, _ => (charge, false)
    | none, some discharge => (-1 * discharge, true)
    | none, none => (0, false)

/-- One phase of `get_phase_power_limits`. -/
def phasePower (discharging : Bool) (charge discharge : Option ℚ) : Option ℚ :=
  if discharging then
    (truthy discharge).map fun power => -1 * power
  else
    truthy charge

/-- `get_ac_charge_loop_params_v20` up to the choice of the response type. -/
def acChargeLoopTargets (context : EVSEAcDataContext) : Except PyError ACChargeLoopTargets := do
  let limits := context.acSessionLimits
  let (activePower, activeDischarge) ← targetActivePower limits
  let (reactivePower, reactiveDischarge) := targetReactivePower limits
  return {
    evseTargetActivePower := ← RationalNumber.getRationalRepr (some activePower)
    evseTargetReactivePower := ← RationalNumber.getRationalRepr (some reactivePower)
    evseTargetActivePowerL2 := ← RationalNumber.getRationalRepr
      (phasePower activeDischarge limits.maxChargePowerL2 limits.maxDischargePowerL2)
    evseTargetActivePowerL3 := ← RationalNumber.getRationalRepr
      (phasePower activeDischarge limits.maxChargePowerL3 limits.maxDischargePowerL3)
    evseTargetReactivePowerL2 := ← RationalNumber.getRationalRepr
      (phasePower reactiveDischarge limits.maxChargeReactivePowerL2
        limits.maxDischargeReactivePowerL2)
    evseTargetReactivePowerL3 := ← RationalNumber.getRationalRepr
      (phasePower reactiveDischarge limits.maxChargeReactivePowerL3
        limits.maxDischargeReactivePowerL3)
    evsePresentActivePower := ← RationalNumber.getRationalRepr context.presentActivePower
    evsePresentActivePowerL2 := ← RationalNumber.getRationalRepr context.presentActivePowerL2
    evsePresentActivePowerL3 := ← RationalNumber.getRationalRepr context.presentActivePowerL3 }

/-- `get_ac_charge_loop_params_v20`. -/
def getAcChargeLoopParamsV20 (context : EVSEAcDataContext) (controlMode : Option ControlMode)
    (selectedService : ServiceV20) : Except PyError ACChargeLoopResParams :=
  (acChargeLoopTargets context).map fun targets =>
    match controlMode, selectedService with
    | some .dynamic, .acBpt => .bptDynamic targets
    | some .scheduled, .acBpt => .bptScheduled targets
    | some .dynamic, .ac => .dynamic targets
    | _, _ => .scheduled targets

/-- The power that the AC branch of `get_evse_max_current_limit` adds up; without a
positive limit the variable stays unset. -/
def totalPowerLimit (limits : EVSEACCLLimits) : Except PyError (Option ℚ) := do
  if ← isPositive limits.maxChargePower then
    return some (limits.maxChargePower.getD 0 + limits.maxChargePowerL2.getD 0 +
      limits.maxChargePowerL3.getD 0)
  else if 0 < limits.maxDischargePower.getD 0 then
    return some (-1 * limits.maxDischargePower.getD 0 - limits.maxDischargePowerL2.getD 0 -
      limits.maxDischargePowerL3.getD 0)
  else
    return none

/-- The present voltage, or the nominal one. -/
def lineVoltage (context : EVSEAcDataContext) : Except PyError ℚ :=
  if context.presentVoltage = 0 then
    match truthy context.nominalVoltage with
    | some voltage => .ok voltage
    | none => .error .valueError
  else
    .ok context.presentVoltage

/-- The AC branch of `get_evse_max_current_limit`. -/
def getEvseMaxCurrentLimitAc (context : EVSEAcDataContext) : Except PyError PhysicalValue := do
  let totalPowerLimit ← totalPowerLimit context.acSessionLimits
  let voltage ← lineVoltage context
  match totalPowerLimit with
  | some power => encodePhysicalValue (some (power / voltage))
  | none => .error .unboundLocalError

/-! ## Which numbers can be encoded -/

theorem exists_getRationalRepr_iff {value : Option ℚ} :
    (∃ field, RationalNumber.getRationalRepr value = .ok field) ↔
      ∀ number ∈ value, FitsInt16 (number / 10 ^ (127 : Int)) := by
  cases value with
  | none => simp [RationalNumber.getRationalRepr]
  | some value =>
      have lower := neg_three_le_exponent value
      have value_range := getExponentValueRepr_value_range value
      simp only [Option.mem_def, Option.some.injEq, forall_eq']
      rw [← exponent_le_iff (by norm_num), RationalNumber.getRationalRepr, RationalNumber.new]
      constructor
      · rintro ⟨field, encoded⟩
        split at encoded
        next range =>
            have := range.1.2
            unfold int8Max at this
            omega
        next => cases encoded
      · intro fits
        have range : (int8Min ≤ (getExponentValueRepr value).1 ∧
            (getExponentValueRepr value).1 ≤ int8Max) ∧
            int16Min ≤ (getExponentValueRepr value).2 ∧
            (getExponentValueRepr value).2 ≤ int16Max := by
          refine ⟨?_, value_range⟩
          unfold int8Min int8Max
          omega
        rw [dif_pos range]
        exact ⟨_, rfl⟩

theorem exists_encodePhysicalValue_iff {value : ℚ} :
    (∃ quantity, encodePhysicalValue (some value) = .ok quantity) ↔ FitsInt16 (value / 1000) := by
  rw [← readsAs_encodePhysicalValue_iff]
  constructor
  · rintro ⟨quantity, encoded⟩
    exact ⟨quantity, encoded, PhysicalValue.getDecimalValue_of_new encoded⟩
  · rintro ⟨quantity, encoded, _⟩
    exact ⟨quantity, encoded⟩

/-! ## The direction of a target -/

/-- The charge limit when it is positive, otherwise minus the discharge limit when
that is positive. -/
def target (charge discharge : Option ℚ) : ℚ :=
  if 0 < charge.getD 0 then charge.getD 0
  else if 0 < discharge.getD 0 then -discharge.getD 0
  else 0

/-- The limits that the comparisons of the active target get through. -/
def Comparable (limits : EVSEACCLLimits) : Prop :=
  ∃ charge ∈ limits.maxChargePower, 0 < charge ∨ limits.maxDischargePower ≠ none

theorem targetActivePower_eq_ok_iff {limits : EVSEACCLLimits} {result : ℚ × Bool} :
    targetActivePower limits = .ok result ↔
      Comparable limits ∧
        result = (target limits.maxChargePower limits.maxDischargePower,
          decide (target limits.maxChargePower limits.maxDischargePower < 0)) := by
  unfold targetActivePower Comparable target
  rcases limits.maxChargePower with _ | charge
  · simp [isPositive]
  · by_cases charges : 0 < charge
    · have direction : ¬charge < 0 := by linarith
      by_cases discharges : 0 < limits.maxDischargePower.getD 0
      · simp [charges, discharges, direction, eq_comm]
      · simp [charges, discharges, direction, isPositive, pure, Except.pure, eq_comm]
    · rcases limits.maxDischargePower with _ | discharge
      · simp [charges, isPositive]
      · by_cases discharges : 0 < discharge
        · simp [charges, discharges, isPositive, pure, Except.pure, eq_comm]
        · simp [charges, discharges, isPositive, pure, Except.pure, eq_comm]

theorem truthy_of_nonneg {limit : Option ℚ} (nonneg : 0 ≤ limit.getD 0) :
    truthy limit = if 0 < limit.getD 0 then some (limit.getD 0) else none := by
  rcases nonneg.lt_or_eq with pos | zero
  · cases limit with
    | none => simp at pos
    | some value =>
        have nonzero : value ≠ 0 := pos.ne'
        rw [if_pos pos, truthy_some nonzero, Option.getD_some]
  · rw [if_neg (by linarith), truthy_eq_none_iff]
    exact zero.symm

theorem targetReactivePower_eq {limits : EVSEACCLLimits}
    (chargeNonneg : 0 ≤ limits.maxChargeReactivePower.getD 0)
    (dischargeNonneg : 0 ≤ limits.maxDischargeReactivePower.getD 0) :
    targetReactivePower limits =
      (target limits.maxChargeReactivePower limits.maxDischargeReactivePower,
        decide (target limits.maxChargeReactivePower limits.maxDischargeReactivePower < 0)) := by
  rw [targetReactivePower, truthy_of_nonneg chargeNonneg, truthy_of_nonneg dischargeNonneg, target]
  by_cases charges : 0 < limits.maxChargeReactivePower.getD 0
  · have direction : ¬limits.maxChargeReactivePower.getD 0 < 0 := by linarith
    by_cases discharges : 0 < limits.maxDischargeReactivePower.getD 0
    · simp [charges, discharges, direction]
    · simp [charges, discharges, direction]
  · by_cases discharges : 0 < limits.maxDischargeReactivePower.getD 0
    · simp [charges, discharges]
    · simp [charges, discharges]

/-! ## When the targets are returned -/

/-- Every limit that is set is zero or positive. -/
def NonnegLimits (limits : EVSEACCLLimits) : Prop :=
  ∀ limit ∈ [limits.maxChargePower, limits.maxChargePowerL2, limits.maxChargePowerL3,
      limits.maxChargeReactivePower, limits.maxChargeReactivePowerL2,
      limits.maxChargeReactivePowerL3, limits.maxDischargePower, limits.maxDischargePowerL2,
      limits.maxDischargePowerL3, limits.maxDischargeReactivePower,
      limits.maxDischargeReactivePowerL2, limits.maxDischargeReactivePowerL3],
    0 ≤ limit.getD 0

/-- The power of a phase in the direction of the total. -/
def phaseTarget (charge discharge chargePhase dischargePhase : Option ℚ) : Option ℚ :=
  phasePower (decide (target charge discharge < 0)) chargePhase dischargePhase

/-- The powers that the response carries. -/
def responsePowers (context : EVSEAcDataContext) : List (Option ℚ) :=
  let limits := context.acSessionLimits
  let active := phaseTarget limits.maxChargePower limits.maxDischargePower
  let reactive := phaseTarget limits.maxChargeReactivePower limits.maxDischargeReactivePower
  [some (target limits.maxChargePower limits.maxDischargePower),
    some (target limits.maxChargeReactivePower limits.maxDischargeReactivePower),
    active limits.maxChargePowerL2 limits.maxDischargePowerL2,
    active limits.maxChargePowerL3 limits.maxDischargePowerL3,
    reactive limits.maxChargeReactivePowerL2 limits.maxDischargeReactivePowerL2,
    reactive limits.maxChargeReactivePowerL3 limits.maxDischargeReactivePowerL3,
    context.presentActivePower, context.presentActivePowerL2, context.presentActivePowerL3]

/-- The fields of the response, in the same order. -/
def ACChargeLoopTargets.fields (targets : ACChargeLoopTargets) : List (Option RationalNumber) :=
  [targets.evseTargetActivePower, targets.evseTargetReactivePower,
    targets.evseTargetActivePowerL2, targets.evseTargetActivePowerL3,
    targets.evseTargetReactivePowerL2, targets.evseTargetReactivePowerL3,
    targets.evsePresentActivePower, targets.evsePresentActivePowerL2,
    targets.evsePresentActivePowerL3]

/-- Every field of the response is the encoding of its power. -/
def EncodesPowers (context : EVSEAcDataContext) (targets : ACChargeLoopTargets) : Prop :=
  List.Forall₂ (fun power field => RationalNumber.getRationalRepr power = .ok field)
    (responsePowers context) targets.fields

theorem acChargeLoopTargets_eq_ok_iff {context : EVSEAcDataContext}
    (nonneg : NonnegLimits context.acSessionLimits) {targets : ACChargeLoopTargets} :
    acChargeLoopTargets context = .ok targets ↔
      Comparable context.acSessionLimits ∧ EncodesPowers context targets := by
  have charge : 0 ≤ context.acSessionLimits.maxChargeReactivePower.getD 0 :=
    nonneg _ (by simp)
  have discharge : 0 ≤ context.acSessionLimits.maxDischargeReactivePower.getD 0 :=
    nonneg _ (by simp)
  simp only [acChargeLoopTargets, targetReactivePower_eq charge discharge,
    Effect.bind_eq_ok_iff, Effect.pure_eq_ok_iff,
    targetActivePower_eq_ok_iff, EncodesPowers, responsePowers, ACChargeLoopTargets.fields,
    phaseTarget, List.forall₂_cons, List.Forall₂.nil, and_true]
  constructor
  · rintro ⟨active, ⟨comparable, rfl⟩, activeField, activeOk, reactiveField, reactiveOk,
      activeL2, activeL2Ok, activeL3, activeL3Ok, reactiveL2, reactiveL2Ok, reactiveL3,
      reactiveL3Ok, present, presentOk, presentL2, presentL2Ok, presentL3, presentL3Ok, rfl⟩
    exact ⟨comparable, activeOk, reactiveOk, activeL2Ok, activeL3Ok, reactiveL2Ok, reactiveL3Ok,
      presentOk, presentL2Ok, presentL3Ok⟩
  · rintro ⟨comparable, activeOk, reactiveOk, activeL2Ok, activeL3Ok, reactiveL2Ok, reactiveL3Ok,
      presentOk, presentL2Ok, presentL3Ok⟩
    exact ⟨_, ⟨comparable, rfl⟩, _, activeOk, _, reactiveOk, _, activeL2Ok, _, activeL3Ok, _,
      reactiveL2Ok, _, reactiveL3Ok, _, presentOk, _, presentL2Ok, _, presentL3Ok, rfl⟩

/-- The powers that the message can carry. -/
def PowersFit (context : EVSEAcDataContext) : Prop :=
  ∀ power ∈ responsePowers context, ∀ number ∈ power, FitsInt16 (number / 10 ^ (127 : Int))

theorem exists_encodesPowers_iff {context : EVSEAcDataContext} :
    (∃ targets, EncodesPowers context targets) ↔ PowersFit context := by
  simp only [EncodesPowers, PowersFit, responsePowers, ACChargeLoopTargets.fields,
    List.forall₂_cons, List.Forall₂.nil, and_true, List.forall_mem_cons, List.not_mem_nil,
    false_implies, implies_true, ← exists_getRationalRepr_iff]
  constructor
  · rintro ⟨targets, activeOk, reactiveOk, activeL2Ok, activeL3Ok, reactiveL2Ok, reactiveL3Ok,
      presentOk, presentL2Ok, presentL3Ok⟩
    exact ⟨⟨_, activeOk⟩, ⟨_, reactiveOk⟩, ⟨_, activeL2Ok⟩, ⟨_, activeL3Ok⟩, ⟨_, reactiveL2Ok⟩,
      ⟨_, reactiveL3Ok⟩, ⟨_, presentOk⟩, ⟨_, presentL2Ok⟩, ⟨_, presentL3Ok⟩⟩
  · rintro ⟨⟨active, activeOk⟩, ⟨reactive, reactiveOk⟩, ⟨activeL2, activeL2Ok⟩,
      ⟨activeL3, activeL3Ok⟩, ⟨reactiveL2, reactiveL2Ok⟩, ⟨reactiveL3, reactiveL3Ok⟩,
      ⟨present, presentOk⟩, ⟨presentL2, presentL2Ok⟩, ⟨presentL3, presentL3Ok⟩⟩
    exact ⟨⟨active, activeL2, activeL3, reactive, reactiveL2, reactiveL3, present, presentL2,
      presentL3⟩, activeOk, reactiveOk, activeL2Ok, activeL3Ok, reactiveL2Ok, reactiveL3Ok,
      presentOk, presentL2Ok, presentL3Ok⟩

/-- The targets are returned, and right, exactly when the comparisons get through
and the powers can be encoded. -/
theorem exists_acChargeLoopParams_iff {context : EVSEAcDataContext}
    (nonneg : NonnegLimits context.acSessionLimits) (controlMode : Option ControlMode)
    (selectedService : ServiceV20) :
    (∃ params, getAcChargeLoopParamsV20 context controlMode selectedService = .ok params ∧
        EncodesPowers context params.targets) ↔
      Comparable context.acSessionLimits ∧ PowersFit context := by
  simp only [getAcChargeLoopParamsV20, Effect.map_eq_ok_iff,
    acChargeLoopTargets_eq_ok_iff nonneg, ← exists_encodesPowers_iff]
  constructor
  · rintro ⟨params, ⟨targets, ⟨comparable, encodes⟩, _⟩, _⟩
    exact ⟨comparable, targets, encodes⟩
  · rintro ⟨comparable, targets, encodes⟩
    refine ⟨_, ⟨targets, ⟨comparable, encodes⟩, rfl⟩, ?_⟩
    split <;> exact encodes

/-! ## When the maximum current is returned -/

/-- The voltage that the current is computed with, zero when there is none. -/
def usedVoltage (context : EVSEAcDataContext) : ℚ :=
  if context.presentVoltage = 0 then context.nominalVoltage.getD 0 else context.presentVoltage

theorem lineVoltage_eq {context : EVSEAcDataContext} (live : usedVoltage context ≠ 0) :
    lineVoltage context = .ok (usedVoltage context) := by
  rw [usedVoltage] at live
  rw [lineVoltage, usedVoltage]
  split
  next dead =>
      rw [if_pos dead] at live
      cases nominal : context.nominalVoltage with
      | none => simp [nominal] at live
      | some voltage =>
          rw [nominal] at live
          have nonzero : voltage ≠ 0 := live
          rw [truthy_some nonzero, Option.getD_some]
  next => rfl

/-- The power of all phases, in the direction of the total. -/
def totalPower (limits : EVSEACCLLimits) : ℚ :=
  if 0 < limits.maxChargePower.getD 0 then
    limits.maxChargePower.getD 0 + limits.maxChargePowerL2.getD 0 +
      limits.maxChargePowerL3.getD 0
  else
    -1 * limits.maxDischargePower.getD 0 - limits.maxDischargePowerL2.getD 0 -
      limits.maxDischargePowerL3.getD 0

/-- The limits of which the AC branch makes a total. -/
def HasDirection (limits : EVSEACCLLimits) : Prop :=
  ∃ charge ∈ limits.maxChargePower, 0 < charge ∨ 0 < limits.maxDischargePower.getD 0

theorem totalPowerLimit_eq_ok_some_iff {limits : EVSEACCLLimits} {power : ℚ} :
    totalPowerLimit limits = .ok (some power) ↔
      HasDirection limits ∧ power = totalPower limits := by
  unfold totalPowerLimit HasDirection totalPower
  rcases limits.maxChargePower with _ | charge
  · simp [isPositive]
  · by_cases charges : 0 < charge
    · simp [charges, isPositive, pure, Except.pure, eq_comm]
    · by_cases discharges : 0 < limits.maxDischargePower.getD 0
      · simp [charges, discharges, isPositive, pure, Except.pure, eq_comm]
      · simp [charges, discharges, isPositive, pure, Except.pure]

/-- The maximum current is returned exactly when the limits have a direction and the
current fits in a physical value. -/
theorem exists_maxCurrentLimitAc_iff {context : EVSEAcDataContext}
    (live : usedVoltage context ≠ 0) :
    (∃ quantity, getEvseMaxCurrentLimitAc context = .ok quantity) ↔
      HasDirection context.acSessionLimits ∧
        FitsInt16 (totalPower context.acSessionLimits / usedVoltage context / 1000) := by
  rw [← exists_encodePhysicalValue_iff, getEvseMaxCurrentLimitAc, lineVoltage_eq live]
  simp only [Effect.bind_eq_ok_iff, Effect.ok_bind]
  constructor
  · rintro ⟨quantity, limit, computed, encoded⟩
    cases limit with
    | none => cases encoded
    | some power =>
        obtain ⟨direction, rfl⟩ := totalPowerLimit_eq_ok_some_iff.mp computed
        exact ⟨direction, quantity, encoded⟩
  · rintro ⟨direction, quantity, encoded⟩
    exact ⟨quantity, _, totalPowerLimit_eq_ok_some_iff.mpr ⟨direction, rfl⟩, encoded⟩

/-- Both readers of the AC limits answer, with the powers in the right direction,
exactly when no comparison meets a missing limit, the limits have a direction where
the current needs one, and the numbers fit in the message fields. -/
theorem acLimits_readable_iff (context : EVSEAcDataContext) (controlMode : Option ControlMode)
    (selectedService : ServiceV20) (nonneg : NonnegLimits context.acSessionLimits)
    (live : usedVoltage context ≠ 0) :
    ((∃ params, getAcChargeLoopParamsV20 context controlMode selectedService = .ok params ∧
        EncodesPowers context params.targets) ↔
      Comparable context.acSessionLimits ∧ PowersFit context) ∧
    ((∃ quantity, getEvseMaxCurrentLimitAc context = .ok quantity) ↔
      HasDirection context.acSessionLimits ∧
        FitsInt16 (totalPower context.acSessionLimits / usedVoltage context / 1000)) :=
  ⟨exists_acChargeLoopParams_iff nonneg controlMode selectedService,
    exists_maxCurrentLimitAc_iff live⟩

/-- Charging with 11 kW at 230 V. -/
def chargingAt11kW : EVSEAcDataContext where
  acSessionLimits := { maxChargePower := some 11000 }
  presentVoltage := 230

/-- Discharging with 11 kW at 230 V, where no charge limit has been written. -/
def dischargingAt11kW : EVSEAcDataContext where
  acSessionLimits := { maxDischargePower := some 11000 }
  presentVoltage := 230

/-- A target of 11 kW, and 47 A. -/
theorem chargingAt11kW_readable :
    (∃ params, getAcChargeLoopParamsV20 chargingAt11kW (some .scheduled) .ac = .ok params ∧
        EncodesPowers chargingAt11kW params.targets) ∧
      ∃ quantity, getEvseMaxCurrentLimitAc chargingAt11kW = .ok quantity := by
  have nonneg : NonnegLimits chargingAt11kW.acSessionLimits := by
    unfold NonnegLimits
    decide +kernel
  have live : usedVoltage chargingAt11kW ≠ 0 := by decide +kernel
  have fits : PowersFit chargingAt11kW := by
    unfold PowersFit
    decide +kernel
  obtain ⟨targets, current⟩ :=
    acLimits_readable_iff chargingAt11kW (some .scheduled) .ac nonneg live
  constructor
  · exact targets.mpr ⟨⟨11000, rfl, .inl (by norm_num)⟩, fits⟩
  · exact current.mpr ⟨⟨11000, rfl, .inl (by norm_num)⟩, by decide +kernel⟩

/-- A discharge limit alone makes both readers raise. -/
theorem dischargingAt11kW_raises :
    ¬∀ (context : EVSEAcDataContext) (controlMode : Option ControlMode)
      (selectedService : ServiceV20), NonnegLimits context.acSessionLimits →
      usedVoltage context ≠ 0 →
      (∃ params, getAcChargeLoopParamsV20 context controlMode selectedService = .ok params ∧
        EncodesPowers context params.targets) ∧
      ∃ quantity, getEvseMaxCurrentLimitAc context = .ok quantity := by
  intro readable
  have nonneg : NonnegLimits dischargingAt11kW.acSessionLimits := by
    unfold NonnegLimits
    decide +kernel
  obtain ⟨⟨params, answered, _⟩, _⟩ := readable dischargingAt11kW (some .dynamic) .acBpt nonneg
    (by decide +kernel)
  cases answered

end Iso15118.Secc
