import Iso15118.Evcc.Controller.BatterySessions

/-!
# Calls at their times

What the calls of methods of `RealBatterySimulator` leave of the state of charge, the power, the
clock mark and the diagnostic test, when each of them is made at a time of its own.
-/

namespace Iso15118.Evcc

open Effect
open Iso15118.Shared
open Iso15118.Shared.V20
open Rounding

namespace RealBatterySimulator

/-! ## What a call leaves -/

/-- The battery after its present power has flowed. -/
def charged (battery : RealBatterySimulator) : RealBatterySimulator :=
  { battery with
    clock := fun reading => battery.clock (reading + 1)
    lastUpdateTime := battery.clock 0
    soc :=
      if battery.clock 0 - battery.lastUpdateTime < 1 / 100 then battery.soc
      else battery.integrate battery.currentPowerW (battery.clock 0 - battery.lastUpdateTime) }

/-- A battery with the same charge, power and test. -/
structure SameLive (before after : RealBatterySimulator) : Prop where
  soc : after.soc = before.soc
  mark : after.lastUpdateTime = before.lastUpdateTime
  power : after.currentPowerW = before.currentPowerW
  active : after.diagActive = before.diagActive
  phase : after.diagPhase = before.diagPhase
  current : after.diagDischargeIA = before.diagDischargeIA
  cutoff : after.diagCutoffSoc = before.diagCutoffSoc

instance : IsPreorder RealBatterySimulator SameLive where
  refl _ := ⟨rfl, rfl, rfl, rfl, rfl, rfl, rfl⟩
  trans _ _ _ first second :=
    ⟨second.soc.trans first.soc, second.mark.trans first.mark, second.power.trans first.power,
      second.active.trans first.active, second.phase.trans first.phase,
      second.current.trans first.current, second.cutoff.trans first.cutoff⟩

/-- The test that a selection of services activates. -/
def selectedTest (battery : RealBatterySimulator) (services : List MatchedService) :
    Option MatchedService :=
  let targetId := battery.config.diagnosticServiceId.getD 0
  if targetId = 0 then none
  else (services.filter fun matched => !matched.isEnergyService).find?
    fun matched => matched.service.id = targetId

/-- The battery with a test activated. -/
def activated (battery : RealBatterySimulator) (matched : MatchedService) :
    RealBatterySimulator :=
  let diag := diagParameters matched.parameterSets.head?
  { battery with
    diagActive := true
    diagPhase := .charge
    diagDischargeIA :=
      min (min (diag.cRate * (totalBatteryCapacityWh / max battery.computeVoltage 1))
        diag.maxISecc) maxChargeCurrent
    diagCutoffSoc := diag.cutoff }

/-- The battery with the power of a discharge requested. -/
def requested (battery : RealBatterySimulator) : RealBatterySimulator :=
  { battery with
    currentPowerW := -|-battery.diagDischargeIA * battery.computeVoltage| }

/-- The battery discharges for a test. -/
def discharging (battery : RealBatterySimulator) : Bool :=
  battery.diagActive && battery.diagPhase = .discharge

/-- What a call leaves, up to counters, the limits of the SECC and the targets. -/
def Call.leaves (call : Call) (battery : RealBatterySimulator) : RealBatterySimulator :=
  match call with
  | .isChargingComplete | .getDisplayParams | .getDcEvPowerDeliveryParameter => battery.asked
  | .continueCharging =>
      if battery.chargingIsCompleted then battery
      else if battery.complete then battery.asked
      else battery.asked.charged
  | .selectVasServicesV20 services => (battery.selectedTest services).elim battery battery.activated
  | .updateSeccLimits _ _ maxPower => { battery with currentPowerW := min maxPower maxChargePowerW }
  | .processDynamicSeParams dynamicParams _ =>
      if battery.randomBits 0 then
        dynamicParams.elim battery fun params =>
          { battery with currentPowerW := desiredPowerW params }
      else battery
  | .getBptScheduledDcChargeLoopParams =>
      if battery.discharging then battery.requested else battery.charged
  | .getAcChargeLoopParamsV20 _ _ | .getScheduledDcChargeLoopParams
  | .getDynamicDcChargeLoopParams | .getBptDynamicDcChargeLoopParams => battery.charged
  | .isPrecharged _ | .isPrechargedV2 _ | .weldingDetectionHasFinished | .stopCharging
  | .processScheduledSeParams _ _ => battery

/-- The test that a call activates. -/
def activation (call : Call) (battery : RealBatterySimulator) : Option MatchedService :=
  match call with
  | .selectVasServicesV20 services => battery.selectedTest services
  | _ => none

/-- The call updates the battery. -/
def Updates (call : Call) (battery : RealBatterySimulator) : Prop :=
  match call with
  | .continueCharging => battery.chargingIsCompleted = false ∧ battery.complete = false
  | .getBptScheduledDcChargeLoopParams => battery.discharging = false
  | .getAcChargeLoopParamsV20 _ _ | .getScheduledDcChargeLoopParams
  | .getDynamicDcChargeLoopParams | .getBptDynamicDcChargeLoopParams => True
  | _ => False

/-- The power that a call sets. -/
def setPower (call : Call) (battery : RealBatterySimulator) : Option ℚ :=
  match call with
  | .isChargingComplete | .getDisplayParams | .getDcEvPowerDeliveryParameter =>
      if battery.flips then some battery.dischargePowerW else none
  | .continueCharging =>
      if battery.chargingIsCompleted then none
      else if battery.flips then some battery.dischargePowerW
      else none
  | .updateSeccLimits _ _ maxPower => some (min maxPower maxChargePowerW)
  | .processDynamicSeParams dynamicParams _ =>
      if battery.randomBits 0 then dynamicParams.map desiredPowerW else none
  | .getBptScheduledDcChargeLoopParams =>
      if battery.discharging then some battery.requested.currentPowerW else none
  | _ => none

/-- What a call can leave: the test that it activates, the power that it sets, whether it updates
the battery, and the battery. -/
inductive Leaving (battery : RealBatterySimulator) :
    Option MatchedService → Option ℚ → Bool → RealBatterySimulator → Prop where
  | same : Leaving battery none none false battery
  | asks :
      Leaving battery none (if battery.flips then some battery.dischargePowerW else none) false
        battery.asked
  | charges : Leaving battery none none true battery.charged
  | asksAndCharges :
      Leaving battery none (if battery.flips then some battery.dischargePowerW else none) true
        battery.asked.charged
  | sets (powerW : ℚ) :
      Leaving battery none (some powerW) false { battery with currentPowerW := powerW }
  | activates (matched : MatchedService) :
      Leaving battery (some matched) none false (battery.activated matched)

theorem Call.leaving (call : Call) (battery : RealBatterySimulator) :
    ∃ updates, (Updates call battery ↔ updates = true) ∧
      Leaving battery (activation call battery) (setPower call battery) updates
        (call.leaves battery) := by
  unfold Updates activation setPower Call.leaves
  cases call with
  | isChargingComplete => exact ⟨false, by simp, .asks⟩
  | getDisplayParams => exact ⟨false, by simp, .asks⟩
  | getDcEvPowerDeliveryParameter => exact ⟨false, by simp, .asks⟩
  | continueCharging =>
      dsimp only
      cases battery.chargingIsCompleted with
      | true => exact ⟨false, by simp, .same⟩
      | false =>
          cases battery.complete with
          | true => exact ⟨false, by simp, .asks⟩
          | false => exact ⟨true, by simp, .asksAndCharges⟩
  | selectVasServicesV20 services =>
      dsimp only
      cases battery.selectedTest services with
      | none => exact ⟨false, by simp, .same⟩
      | some matched => exact ⟨false, by simp, .activates matched⟩
  | updateSeccLimits maxCurrent maxVolts maxPower => exact ⟨false, by simp, .sets _⟩
  | processDynamicSeParams dynamicParams pause =>
      dsimp only
      cases battery.randomBits 0 with
      | false => exact ⟨false, by simp, .same⟩
      | true =>
          cases dynamicParams with
          | none => exact ⟨false, by simp, .same⟩
          | some params => exact ⟨false, by simp, .sets _⟩
  | getBptScheduledDcChargeLoopParams =>
      dsimp only
      cases battery.discharging with
      | true => exact ⟨false, by simp, .sets _⟩
      | false => exact ⟨true, by simp, .charges⟩
  | getAcChargeLoopParamsV20 | getScheduledDcChargeLoopParams
  | getDynamicDcChargeLoopParams | getBptDynamicDcChargeLoopParams =>
      exact ⟨true, by simp, .charges⟩
  | _ => exact ⟨false, by simp, .same⟩

theorem asked_soc (battery : RealBatterySimulator) : battery.asked.soc = battery.soc := by
  unfold asked
  split
  · rfl
  · split <;> rfl

theorem asked_mark (battery : RealBatterySimulator) :
    battery.asked.lastUpdateTime = battery.lastUpdateTime := by
  unfold asked
  split
  · rfl
  · split <;> rfl

theorem asked_clock (battery : RealBatterySimulator) : battery.asked.clock = battery.clock := by
  unfold asked
  split
  · rfl
  · split <;> rfl

theorem asked_power (battery : RealBatterySimulator) :
    battery.asked.currentPowerW =
      (if battery.flips then some battery.dischargePowerW else none).getD
        battery.currentPowerW := by
  unfold asked
  split
  · rfl
  · split <;> rfl

theorem asked_active (battery : RealBatterySimulator) :
    battery.asked.diagActive = battery.diagActive := by
  unfold asked
  split
  · rfl
  · split <;> rfl

theorem asked_current (battery : RealBatterySimulator) :
    battery.asked.diagDischargeIA = battery.diagDischargeIA := by
  unfold asked
  split
  · rfl
  · split <;> rfl

theorem asked_cutoff (battery : RealBatterySimulator) :
    battery.asked.diagCutoffSoc = battery.diagCutoffSoc := by
  unfold asked
  split
  · rfl
  · split <;> rfl

theorem asked_phase {battery : RealBatterySimulator} (stays : battery.flips = false) :
    battery.asked.diagPhase = battery.diagPhase := by
  unfold asked
  rw [stays]
  split
  · contradiction
  · split <;> rfl

section

variable {battery after : RealBatterySimulator} {matched : MatchedService}
  {test : Option MatchedService} {set : Option ℚ} {updates : Bool}

/-- The power that a call leaves. -/
theorem Leaving.power (leaving : Leaving battery test set updates after) :
    after.currentPowerW = set.getD battery.currentPowerW := by
  cases leaving with
  | same => rfl
  | asks => exact asked_power battery
  | charges => rfl
  | asksAndCharges => exact asked_power battery
  | sets powerW => rfl
  | activates matched => rfl

/-- An update takes the power that it leaves for all the time since the last one. -/
theorem Leaving.updated (leaving : Leaving battery test set true after) :
    after.lastUpdateTime = battery.clock 0 ∧
      after.soc =
        if battery.clock 0 - battery.lastUpdateTime < 1 / 100 then battery.soc
        else battery.integrate after.currentPowerW
          (battery.clock 0 - battery.lastUpdateTime) := by
  cases leaving with
  | charges => exact ⟨rfl, rfl⟩
  | asksAndCharges =>
      unfold charged integrate
      simp only [asked_clock, asked_mark, asked_soc, and_self]

/-- Another call leaves the state of charge and the clock mark alone. -/
theorem Leaving.untouched (leaving : Leaving battery test set false after) :
    after.lastUpdateTime = battery.lastUpdateTime ∧ after.soc = battery.soc := by
  cases leaving with
  | same => exact ⟨rfl, rfl⟩
  | asks => exact ⟨asked_mark battery, asked_soc battery⟩
  | sets powerW => exact ⟨rfl, rfl⟩
  | activates matched => exact ⟨rfl, rfl⟩

/-- A call that activates no test leaves its parameters, and its phase unless it is to switch. -/
theorem Leaving.keepsTest (leaving : Leaving battery none set updates after) :
    after.diagActive = battery.diagActive ∧
      after.diagDischargeIA = battery.diagDischargeIA ∧
      after.diagCutoffSoc = battery.diagCutoffSoc ∧
      (battery.flips = false → after.diagPhase = battery.diagPhase) := by
  have asked : battery.asked.diagActive = battery.diagActive ∧
      battery.asked.diagDischargeIA = battery.diagDischargeIA ∧
      battery.asked.diagCutoffSoc = battery.diagCutoffSoc ∧
      (battery.flips = false → battery.asked.diagPhase = battery.diagPhase) :=
    ⟨asked_active battery, asked_current battery, asked_cutoff battery, asked_phase⟩
  cases leaving with
  | same => exact ⟨rfl, rfl, rfl, fun _ => rfl⟩
  | asks => exact asked
  | charges => exact ⟨rfl, rfl, rfl, fun _ => rfl⟩
  | asksAndCharges => exact asked
  | sets powerW => exact ⟨rfl, rfl, rfl, fun _ => rfl⟩

theorem Leaving.activated (leaving : Leaving battery (some matched) set updates after) :
    after = battery.activated matched := by
  cases leaving with
  | activates => rfl

/-- The call after which a test discharges has set the power of the discharge. -/
theorem Leaving.turned (leaving : Leaving battery test set updates after)
    (charges : battery.diagPhase = .charge) (discharges : after.diagPhase = .discharge) :
    test = none ∧ set = some battery.dischargePowerW := by
  have flips (same : battery.flips = false → after.diagPhase = battery.diagPhase) :
      battery.flips = true := by
    by_contra remains
    have same := same (Bool.eq_false_iff.mpr remains)
    rw [discharges, charges] at same
    cases same
  cases leaving with
  | asks => exact ⟨rfl, if_pos (flips asked_phase)⟩
  | asksAndCharges => exact ⟨rfl, if_pos (flips asked_phase)⟩
  | activates matched => cases discharges
  | _ =>
      have same := charges.symm.trans discharges
      cases same

theorem leaves_power (call : Call) (battery : RealBatterySimulator) :
    (call.leaves battery).currentPowerW =
      (setPower call battery).getD battery.currentPowerW := by
  obtain ⟨_, _, leaving⟩ := call.leaving battery
  exact leaving.power

theorem leaves_of_updates {call : Call} (updates : Updates call battery) :
    (call.leaves battery).lastUpdateTime = battery.clock 0 ∧
      (call.leaves battery).soc =
        if battery.clock 0 - battery.lastUpdateTime < 1 / 100 then battery.soc
        else battery.integrate (call.leaves battery).currentPowerW
          (battery.clock 0 - battery.lastUpdateTime) := by
  obtain ⟨_, isUpdate, leaving⟩ := call.leaving battery
  rw [isUpdate.mp updates] at leaving
  exact leaving.updated

theorem leaves_of_not_updates {call : Call} (other : ¬Updates call battery) :
    (call.leaves battery).lastUpdateTime = battery.lastUpdateTime ∧
      (call.leaves battery).soc = battery.soc := by
  obtain ⟨_, isUpdate, leaving⟩ := call.leaving battery
  rw [isUpdate, Bool.not_eq_true] at other
  rw [other] at leaving
  exact leaving.untouched

theorem leaves_test {call : Call} (none_activated : activation call battery = none) :
    (call.leaves battery).diagActive = battery.diagActive ∧
      (call.leaves battery).diagDischargeIA = battery.diagDischargeIA ∧
      (call.leaves battery).diagCutoffSoc = battery.diagCutoffSoc ∧
      (battery.flips = false → (call.leaves battery).diagPhase = battery.diagPhase) := by
  obtain ⟨_, _, leaving⟩ := call.leaving battery
  rw [none_activated] at leaving
  exact leaving.keepsTest

theorem leaves_activated {call : Call} (activates : activation call battery = some matched) :
    call.leaves battery = battery.activated matched := by
  obtain ⟨_, _, leaving⟩ := call.leaving battery
  rw [activates] at leaving
  exact leaving.activated

end

/-! ## What the methods leave -/

/-- Whatever a program returns or raises, it leaves a battery like this one. -/
def Leaves {α : Type} (program : Method α) (battery live : RealBatterySimulator) : Prop :=
  wp program (fun _ next => SameLive live next) (fun _ next => SameLive live next) battery

section

variable {α β : Type} {battery live : RealBatterySimulator}

theorem Leaves.of_keeps {program : Method α} (keeps : Keeps SameLive program)
    (same : SameLive live battery) : Leaves program battery live :=
  keeps.wp_after same

/-- What is done afterwards does not matter if it keeps the battery. -/
theorem Leaves.bind {program : Method β} {next : β → Method α}
    (leaves : Leaves program battery live) (keeps : ∀ value, Keeps SameLive (next value)) :
    Leaves (program >>= next) battery live := by
  unfold Leaves
  rw [wp_bind]
  exact wp_mono (fun value _ same => (keeps value).wp_after same) (fun _ _ same => same) leaves

/-- A program that goes on from a known state. -/
theorem Leaves.of_eq_ok {program : Method β} {next : β → Method α} {value : β}
    {middle : RealBatterySimulator} (returned : program battery = .ok value middle)
    (leaves : Leaves (next value) middle live) : Leaves (program >>= next) battery live := by
  unfold Leaves
  rw [wp_bind]
  unfold wp
  rw [returned]
  exact leaves

theorem Leaves.get_bind {next : RealBatterySimulator → Method α}
    (leaves : Leaves (next battery) battery live) : Leaves (get >>= next) battery live :=
  leaves

theorem Leaves.set_bind {changed : RealBatterySimulator} {next : PUnit → Method α}
    (leaves : Leaves (next ⟨⟩) changed live) : Leaves (set changed >>= next) battery live :=
  leaves

theorem sameLive_self (battery : RealBatterySimulator) : SameLive battery battery :=
  refl (r := SameLive) battery

end

/-- Whatever a program returns or raises, it leaves this very battery. -/
def EndsIn {α : Type} (program : Method α) (battery final : RealBatterySimulator) : Prop :=
  wp program (fun _ next => final = next) (fun _ next => final = next) battery

section

variable {α β : Type} {battery final : RealBatterySimulator}

theorem EndsIn.leaves {program : Method α} (endsIn : EndsIn program battery final) :
    Leaves program battery final := by
  apply wp_mono _ _ endsIn
  · rintro _ _ rfl
    exact sameLive_self final
  · rintro _ _ rfl
    exact sameLive_self final

/-- What is done afterwards changes nothing. -/
theorem EndsIn.bind {program : Method β} {next : β → Method α}
    (endsIn : EndsIn program battery final) (keeps : ∀ value, Keeps Eq (next value)) :
    EndsIn (program >>= next) battery final := by
  unfold EndsIn
  rw [wp_bind]
  exact wp_mono (fun value _ same => (keeps value).wp_after same) (fun _ _ same => same) endsIn

theorem EndsIn.of_eq_ok {program : Method β} {next : β → Method α} {value : β}
    {middle : RealBatterySimulator} (returned : program battery = .ok value middle)
    (endsIn : EndsIn (next value) middle final) : EndsIn (program >>= next) battery final := by
  unfold EndsIn
  rw [wp_bind]
  unfold wp
  rw [returned]
  exact endsIn

theorem EndsIn.get_bind {next : RealBatterySimulator → Method α}
    (endsIn : EndsIn (next battery) battery final) : EndsIn (get >>= next) battery final :=
  endsIn

theorem EndsIn.set_bind {changed : RealBatterySimulator} {next : PUnit → Method α}
    (endsIn : EndsIn (next ⟨⟩) changed final) : EndsIn (set changed >>= next) battery final :=
  endsIn

theorem EndsIn.of_keeps {program : Method α} (keeps : Keeps Eq program) :
    EndsIn program battery battery :=
  keeps.wp_after rfl

end

theorem updateBatteryState_eq (battery : RealBatterySimulator) :
    updateBatteryState battery.currentPowerW battery = .ok ⟨⟩ battery.charged :=
  rfl

/-- A method that updates the battery first, with the power that is there. -/
theorem endsIn_charged {α : Type} {next : RealBatterySimulator → Method α}
    (battery : RealBatterySimulator) (keeps : ∀ later, Keeps Eq (next later)) :
    EndsIn (do
        let battery ← get
        updateBatteryState battery.currentPowerW
        let battery ← get
        next battery) battery battery.charged :=
  .get_bind (.of_eq_ok (updateBatteryState_eq battery) (.of_keeps (keeps_bind keeps_get keeps)))

theorem getScheduledDcChargeLoopParams_endsIn (battery : RealBatterySimulator) :
    EndsIn getScheduledDcChargeLoopParams battery battery.charged := by
  apply endsIn_charged
  intro later
  split
  · exact keeps_throw _
  · exact keeps_bind (keeps_ofExcept _) fun _ => keeps_bind (keeps_ofExcept _) fun _ =>
      keeps_pure _

theorem getAcChargeLoopParamsV20_endsIn (controlMode : Option ControlMode)
    (selectedService : ServiceV20) (battery : RealBatterySimulator) :
    EndsIn (getAcChargeLoopParamsV20 controlMode selectedService) battery battery.charged := by
  apply endsIn_charged
  intro later
  iterate 4
    apply keeps_bind (keeps_ofExcept _)
    intro _
  split
  · split
    · exact keeps_pure _
    · exact keeps_pure _
  · iterate 2
      apply keeps_bind (keeps_ofExcept _)
      intro _
    dsimp only
    split
    · exact keeps_pure _
    · exact keeps_pure _

theorem getDynamicDcChargeLoopParams_endsIn (battery : RealBatterySimulator) :
    EndsIn getDynamicDcChargeLoopParams battery battery.charged := by
  apply endsIn_charged
  intro later
  iterate 8
    apply keeps_bind (keeps_ofExcept _)
    intro _
  exact keeps_pure _

theorem getBptDynamicDcChargeLoopParams_endsIn (battery : RealBatterySimulator) :
    EndsIn getBptDynamicDcChargeLoopParams battery battery.charged := by
  apply (getDynamicDcChargeLoopParams_endsIn battery).bind
  intro base
  iterate 3
    apply keeps_bind (keeps_ofExcept _)
    intro _
  exact keeps_pure _

theorem getBptScheduledDcChargeLoopParams_endsIn (battery : RealBatterySimulator) :
    EndsIn getBptScheduledDcChargeLoopParams battery
      (if battery.discharging then battery.requested else battery.charged) := by
  unfold getBptScheduledDcChargeLoopParams discharging
  apply EndsIn.get_bind
  simp only [Bool.and_eq_true, decide_eq_true_eq]
  split
  · apply EndsIn.set_bind
    apply EndsIn.of_keeps
    iterate 5
      apply keeps_bind (keeps_ofExcept _)
      intro _
    exact keeps_pure _
  · exact (getScheduledDcChargeLoopParams_endsIn battery).bind fun _ => keeps_pure _

theorem getDisplayParams_endsIn (battery : RealBatterySimulator) :
    EndsIn getDisplayParams battery battery.asked := by
  apply EndsIn.of_eq_ok rfl
  apply EndsIn.of_eq_ok (isChargingComplete_eq battery)
  apply EndsIn.of_keeps
  dsimp only
  split
  · exact keeps_pure _
  · exact keeps_throw _

theorem getDcEvPowerDeliveryParameter_endsIn {battery : RealBatterySimulator}
    (nonneg : 0 ≤ battery.soc) (le : battery.soc ≤ 100) :
    EndsIn getDcEvPowerDeliveryParameter battery battery.asked := by
  have rounds := abs_le.mp (abs_sub_roundHalfEven_le battery.soc)
  have lower : -1 < roundHalfEven battery.soc := by
    have : (-1 : ℚ) < roundHalfEven battery.soc := by linarith
    exact_mod_cast this
  have upper : roundHalfEven battery.soc < 101 := by
    have : (roundHalfEven battery.soc : ℚ) < 101 := by linarith
    exact_mod_cast this
  have range : 0 ≤ roundHalfEven battery.soc ∧ (roundHalfEven battery.soc).toNat ≤ 100 := by
    omega
  have status : getDcEvStatus battery =
      .ok ⟨true, .noError, (roundHalfEven battery.soc).toNat, range.2⟩ battery := by
    unfold getDcEvStatus
    rw [get_bind_apply]
    exact congrFun (dif_pos range) battery
  apply EndsIn.of_eq_ok status
  apply EndsIn.of_eq_ok (rfl : isBulkChargingComplete battery = .ok _ battery)
  apply EndsIn.of_eq_ok (isChargingComplete_eq battery)
  exact .of_keeps (keeps_pure _)

theorem continueCharging_endsIn (battery : RealBatterySimulator) :
    EndsIn continueCharging battery
      (if battery.chargingIsCompleted then battery
      else if battery.complete then battery.asked
      else battery.asked.charged) := by
  unfold continueCharging
  apply EndsIn.of_eq_ok rfl
  cases battery.chargingIsCompleted with
  | true => exact .of_keeps (keeps_pure _)
  | false =>
      apply EndsIn.of_eq_ok (isChargingComplete_eq battery)
      cases battery.complete with
      | true => exact .of_keeps (keeps_pure _)
      | false =>
          exact .get_bind (.of_eq_ok (updateBatteryState_eq _) (.of_keeps (keeps_pure _)))

theorem selectVasServicesV20_leaves (services : List MatchedService)
    (battery : RealBatterySimulator) :
    Leaves (selectVasServicesV20 services) battery
      ((battery.selectedTest services).elim battery battery.activated) := by
  unfold selectVasServicesV20 selectedTest
  apply Leaves.get_bind
  dsimp only
  split
  next empty =>
    rw [List.isEmpty_iff.mp empty]
    split <;> exact sameLive_self _
  · split
    · exact sameLive_self _
    · cases List.find? _ _ with
      | none => exact sameLive_self _
      | some matched => exact sameLive_self _

theorem processDynamicSeParams_leaves
    (dynamicParams : Option DynamicScheduleExchangeResParams) (pause : Option Bool)
    (battery : RealBatterySimulator) :
    Leaves (processDynamicSeParams dynamicParams pause) battery
      (if battery.randomBits 0 then
        dynamicParams.elim battery fun params =>
          { battery with currentPowerW := desiredPowerW params }
      else battery) := by
  unfold processDynamicSeParams
  apply Leaves.of_eq_ok (rfl : randomBit battery = .ok (battery.randomBits 0) _)
  cases battery.randomBits 0 with
  | false => exact ⟨rfl, rfl, rfl, rfl, rfl, rfl, rfl⟩
  | true =>
      cases dynamicParams with
      | none => exact ⟨rfl, rfl, rfl, rfl, rfl, rfl, rfl⟩
      | some params =>
          rw [if_pos rfl, if_pos rfl]
          apply Leaves.of_eq_ok (modify_apply _)
          apply Leaves.of_keeps
          · exact keeps_bind (keeps_ofExcept _) fun _ => keeps_pure _
          · exact ⟨rfl, rfl, rfl, rfl, rfl, rfl, rfl⟩

theorem getPresentVoltage_live : Keeps SameLive getPresentVoltage :=
  keeps_bind keeps_get fun _ => keeps_ofExcept _

theorem processScheduledSeParams_live
    (scheduledParams : Option ScheduledScheduleExchangeResParams) (pause : Option Bool) :
    Keeps SameLive (processScheduledSeParams scheduledParams pause) := by
  have draws : Keeps SameLive randomBit := ⟨fun _ => ⟨rfl, rfl, rfl, rfl, rfl, rfl, rfl⟩⟩
  apply keeps_bind draws
  intro isReady
  split
  · split
    · exact keeps_throw _
    · split
      · exact keeps_throw _
      · exact keeps_bind (keeps_ofExcept _) fun _ => keeps_pure _
  · exact keeps_pure _

/-- What a call leaves, whether it returns or raises. -/
theorem Call.perform_leaves (call : Call) {battery : RealBatterySimulator}
    (sound : battery.Sound) : Leaves call.perform battery (call.leaves battery) := by
  cases call with
  | isPrecharged presentVoltageEvse =>
      apply Leaves.of_keeps _ (sameLive_self _)
      apply keeps_bind _ fun _ => keeps_pure _
      apply keeps_bind getPresentVoltage_live
      intro evVoltage
      exact keeps_count fun _ => ⟨rfl, rfl, rfl, rfl, rfl, rfl, rfl⟩
  | isPrechargedV2 presentVoltageEvse =>
      apply Leaves.of_keeps _ (sameLive_self _)
      apply keeps_bind _ fun _ => keeps_pure _
      apply keeps_bind getPresentVoltage_live
      intro evVoltage
      exact keeps_count fun _ => ⟨rfl, rfl, rfl, rfl, rfl, rfl, rfl⟩
  | weldingDetectionHasFinished =>
      apply Leaves.of_keeps _ (sameLive_self _)
      apply keeps_bind _ fun _ => keeps_pure _
      exact keeps_count fun _ => ⟨rfl, rfl, rfl, rfl, rfl, rfl, rfl⟩
  | isChargingComplete => exact .of_eq_ok (isChargingComplete_eq battery) (sameLive_self _)
  | continueCharging => exact (continueCharging_endsIn battery).leaves.bind fun _ => keeps_pure _
  | stopCharging => exact ⟨rfl, rfl, rfl, rfl, rfl, rfl, rfl⟩
  | selectVasServicesV20 services =>
      exact (selectVasServicesV20_leaves services battery).bind fun _ => keeps_pure _
  | updateSeccLimits maxCurrent maxVolts maxPower => exact ⟨rfl, rfl, rfl, rfl, rfl, rfl, rfl⟩
  | processScheduledSeParams scheduledParams pause =>
      exact .of_keeps (keeps_bind (processScheduledSeParams_live scheduledParams pause)
        fun _ => keeps_pure _) (sameLive_self _)
  | processDynamicSeParams dynamicParams pause =>
      exact (processDynamicSeParams_leaves dynamicParams pause battery).bind
        fun _ => keeps_pure _
  | getAcChargeLoopParamsV20 controlMode selectedService =>
      exact (getAcChargeLoopParamsV20_endsIn controlMode selectedService battery).leaves.bind
        fun _ => keeps_pure _
  | getScheduledDcChargeLoopParams =>
      exact (getScheduledDcChargeLoopParams_endsIn battery).leaves.bind fun _ => keeps_pure _
  | getDynamicDcChargeLoopParams =>
      exact (getDynamicDcChargeLoopParams_endsIn battery).leaves.bind fun _ => keeps_pure _
  | getBptScheduledDcChargeLoopParams =>
      exact (getBptScheduledDcChargeLoopParams_endsIn battery).leaves.bind fun _ => keeps_pure _
  | getBptDynamicDcChargeLoopParams =>
      exact (getBptDynamicDcChargeLoopParams_endsIn battery).leaves.bind fun _ => keeps_pure _
  | getDisplayParams => exact (getDisplayParams_endsIn battery).leaves.bind fun _ => keeps_pure _
  | getDcEvPowerDeliveryParameter =>
      exact (getDcEvPowerDeliveryParameter_endsIn sound.soc_nonneg sound.soc_le).leaves.bind
        fun _ => keeps_pure _

theorem Call.sameLive_after (call : Call) {battery : RealBatterySimulator}
    (sound : battery.Sound) : SameLive (call.leaves battery) (call.after battery) := by
  have leaves := call.perform_leaves sound
  unfold Leaves wp at leaves
  unfold Call.after
  cases performed : call.perform battery with
  | ok decision next =>
      rw [performed] at leaves
      exact leaves
  | error exception next =>
      rw [performed] at leaves
      exact leaves

/-! ## Calls at times -/

/-- A call, and what the clock shows meanwhile. -/
structure TimedCall where
  call : Call
  time : ℚ

/-- The battery at a time. -/
def atTime (battery : RealBatterySimulator) (time : ℚ) : RealBatterySimulator :=
  { battery with clock := fun _ => time }

def TimedCall.after (timed : TimedCall) (battery : RealBatterySimulator) : RealBatterySimulator :=
  timed.call.after (battery.atTime timed.time)

/-- The battery after calls, the newest first. -/
def afterTimed (start : RealBatterySimulator) : List TimedCall → RealBatterySimulator
  | [] => start
  | timed :: past => timed.after (afterTimed start past)

theorem afterTimed_append (start : RealBatterySimulator) (recent past : List TimedCall) :
    afterTimed start (recent ++ past) = afterTimed (afterTimed start past) recent := by
  induction recent with
  | nil => rfl
  | cons timed recent ih => exact congrArg timed.after ih

theorem Sound.atTime {battery : RealBatterySimulator} (sound : battery.Sound) (time : ℚ) :
    (battery.atTime time).Sound :=
  ⟨sound.soc_nonneg, sound.soc_le, sound.inactive⟩

theorem Sound.afterTimed {start : RealBatterySimulator} (sound : start.Sound)
    (history : List TimedCall) : (start.afterTimed history).Sound := by
  induction history with
  | nil => exact sound
  | cons timed past ih => exact (ih.atTime timed.time).call timed.call

theorem TimedCall.sameLive_after (timed : TimedCall) {battery : RealBatterySimulator}
    (sound : battery.Sound) :
    SameLive (timed.call.leaves (battery.atTime timed.time)) (timed.after battery) :=
  timed.call.sameLive_after (sound.atTime timed.time)

end RealBatterySimulator

end Iso15118.Evcc
