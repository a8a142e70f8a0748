import Iso15118.Evcc.Controller.RealBatteryV2
import Iso15118.Library.Effect

/-!
# The simulated battery in one session after another

The EVCC keeps one `RealBatterySimulator` for all its sessions. The counters, the completion
flag, the diagnostic test and the target of the state of charge are set when the object is
made and never again. A session is the methods that it calls, with what the clock and the
random generator give meanwhile.
-/

namespace Iso15118.Evcc

open Effect
open Iso15118.Shared
open Iso15118.Shared.V20
open Rounding

namespace RealBatterySimulator

/-! ## Sessions -/

/-- `stop_charging`. -/
def stopCharging : Method PUnit :=
  modify fun battery => { battery with chargingIsCompleted := true }

/-- The calls of methods that decide something or change the battery. The voltage of a
pre-charge is that of either protocol. -/
inductive Call where
  | isPrecharged (presentVoltageEvse : RationalNumber)
  | isPrechargedV2 (presentVoltageEvse : PhysicalValue)
  | weldingDetectionHasFinished
  | isChargingComplete
  | continueCharging
  | stopCharging
  | selectVasServicesV20 (services : List MatchedService)
  | updateSeccLimits (maxCurrent maxVolts maxPower : ℚ)
  | processScheduledSeParams (scheduledParams : Option ScheduledScheduleExchangeResParams)
      (pause : Option Bool)
  | processDynamicSeParams (dynamicParams : Option DynamicScheduleExchangeResParams)
      (pause : Option Bool)
  | getAcChargeLoopParamsV20 (controlMode : Option ControlMode) (selectedService : ServiceV20)
  | getScheduledDcChargeLoopParams
  | getDynamicDcChargeLoopParams
  | getBptScheduledDcChargeLoopParams
  | getBptDynamicDcChargeLoopParams
  | getDisplayParams
  | getDcEvPowerDeliveryParameter

/-- What is decided. A charge loop decides to discharge if its parameters have the power of a
discharge. -/
inductive Decision where
  | precharged (answer : Bool)
  | weldingDetectionFinished (answer : Bool)
  | chargingComplete (answer : Bool)
  | discharge (params : BPTScheduledDCChargeLoopReqParams)
  deriving DecidableEq

def Call.perform : Call → Method (Option Decision)
  | .isPrecharged presentVoltageEvse => do
      let answer ← RealBatterySimulator.isPrecharged presentVoltageEvse
      return some (.precharged answer)
  | .isPrechargedV2 presentVoltageEvse => do
      let answer ← RealBatterySimulator.isPrechargedV2 presentVoltageEvse
      return some (.precharged answer)
  | .weldingDetectionHasFinished => do
      let answer ← RealBatterySimulator.weldingDetectionHasFinished
      return some (.weldingDetectionFinished answer)
  | .isChargingComplete => do
      let answer ← RealBatterySimulator.isChargingComplete
      return some (.chargingComplete answer)
  | .continueCharging => do
      let _ ← RealBatterySimulator.continueCharging
      return none
  | .stopCharging => do
      RealBatterySimulator.stopCharging
      return none
  | .selectVasServicesV20 services => do
      let _ ← RealBatterySimulator.selectVasServicesV20 services
      return none
  | .updateSeccLimits maxCurrent maxVolts maxPower => do
      RealBatterySimulator.updateSeccLimits maxCurrent maxVolts maxPower
      return none
  | .processScheduledSeParams scheduledParams pause => do
      let _ ← RealBatterySimulator.processScheduledSeParams scheduledParams pause
      return none
  | .processDynamicSeParams dynamicParams pause => do
      let _ ← RealBatterySimulator.processDynamicSeParams dynamicParams pause
      return none
  | .getAcChargeLoopParamsV20 controlMode selectedService => do
      let _ ← RealBatterySimulator.getAcChargeLoopParamsV20 controlMode selectedService
      return none
  | .getScheduledDcChargeLoopParams => do
      let _ ← RealBatterySimulator.getScheduledDcChargeLoopParams
      return none
  | .getDynamicDcChargeLoopParams => do
      let _ ← RealBatterySimulator.getDynamicDcChargeLoopParams
      return none
  | .getBptScheduledDcChargeLoopParams => do
      let params ← RealBatterySimulator.getBptScheduledDcChargeLoopParams
      return if params.evMaxDischargePower.isSome then some (.discharge params) else none
  | .getBptDynamicDcChargeLoopParams => do
      let _ ← RealBatterySimulator.getBptDynamicDcChargeLoopParams
      return none
  | .getDisplayParams => do
      let _ ← RealBatterySimulator.getDisplayParams
      return none
  | .getDcEvPowerDeliveryParameter => do
      let _ ← RealBatterySimulator.getDcEvPowerDeliveryParameter
      return none

/-- What a call decides. One that raises decides nothing. -/
def Call.decided (call : Call) (battery : RealBatterySimulator) : Option Decision :=
  match call.perform battery with
  | .ok decision _ => decision
  | .error _ _ => none

def Call.after (call : Call) (battery : RealBatterySimulator) : RealBatterySimulator :=
  match call.perform battery with
  | .ok _ next => next
  | .error _ next => next

/-- The decisions of calls, one after another. -/
def decisions : List Call → RealBatterySimulator → List (Option Decision)
  | [], _ => []
  | call :: rest, battery => call.decided battery :: decisions rest (call.after battery)

def afterCalls (calls : List Call) (battery : RealBatterySimulator) : RealBatterySimulator :=
  calls.foldl (fun battery call => call.after battery) battery

structure ChargingSession where
  calls : List Call
  clock : Nat → ℚ := fun _ => 0
  randomBits : Nat → Bool := fun _ => true

/-- The battery with what the clock and the random generator will give. -/
def atStart (battery : RealBatterySimulator) (session : ChargingSession) :
    RealBatterySimulator :=
  { battery with clock := session.clock, randomBits := session.randomBits }

def sessionDecisions (session : ChargingSession) (battery : RealBatterySimulator) :
    List (Option Decision) :=
  decisions session.calls (battery.atStart session)

/-- The battery after all sessions of a controller. -/
def afterSessions (sessions : List ChargingSession) (battery : RealBatterySimulator) :
    RealBatterySimulator :=
  sessions.foldl (fun battery session => afterCalls session.calls (battery.atStart session)) battery

/-! ## What all sessions keep -/

/-- The state of charge is a percentage, and only a test that was activated has
parameters. -/
structure Sound (battery : RealBatterySimulator) : Prop where
  soc_nonneg : 0 ≤ battery.soc
  soc_le : battery.soc ≤ 100
  inactive : battery.diagActive = false →
    battery.diagPhase = .charge ∧ battery.diagDischargeIA = 0 ∧ battery.diagCutoffSoc = 20

def KeepsSound (before after : RealBatterySimulator) : Prop :=
  Sound before → Sound after

instance : IsPreorder RealBatterySimulator KeepsSound where
  refl _ := id
  trans _ _ _ first second := second ∘ first

/-- A change of other attributes. -/
theorem keepsSound_of_eq {before after : RealBatterySimulator} (soc : after.soc = before.soc)
    (active : after.diagActive = before.diagActive) (phase : after.diagPhase = before.diagPhase)
    (current : after.diagDischargeIA = before.diagDischargeIA)
    (cutoff : after.diagCutoffSoc = before.diagCutoffSoc) : KeepsSound before after := by
  intro sound
  refine ⟨by rw [soc]; exact sound.soc_nonneg, by rw [soc]; exact sound.soc_le, ?_⟩
  rw [active, phase, current, cutoff]
  exact sound.inactive

theorem integrate_mem (battery : RealBatterySimulator) (powerWatts deltaTS : ℚ) :
    0 ≤ battery.integrate powerWatts deltaTS ∧ battery.integrate powerWatts deltaTS ≤ 100 := by
  unfold integrate
  constructor
  · exact le_max_left _ _
  · exact max_le (by norm_num) (min_le_left _ _)

theorem updateBatteryState_sound (powerWatts : ℚ) :
    Keeps KeepsSound (updateBatteryState powerWatts) := by
  constructor
  intro battery
  unfold updateBatteryState time
  simp only [wp_bind, wp_get, wp_set, wp_pure]
  intro sound
  have range := battery.integrate_mem powerWatts (battery.clock 0 - battery.lastUpdateTime)
  constructor
  · dsimp only
    split
    · exact sound.soc_nonneg
    · exact range.1
  · dsimp only
    split
    · exact sound.soc_le
    · exact range.2
  · exact sound.inactive

theorem randomBit_sound : Keeps KeepsSound randomBit := by
  constructor
  intro battery
  unfold randomBit
  simp only [wp_bind, wp_get, wp_set, wp_pure]
  exact keepsSound_of_eq rfl rfl rfl rfl rfl

theorem getPresentVoltage_sound : Keeps KeepsSound getPresentVoltage :=
  keeps_bind keeps_get fun _ => keeps_ofExcept _

/-- A question that is answered yes, or no and counted. -/
theorem keeps_count {ρ : RealBatterySimulator → RealBatterySimulator → Prop}
    [IsPreorder RealBatterySimulator ρ] {finished : RealBatterySimulator → Prop}
    [DecidablePred finished] {count : RealBatterySimulator → RealBatterySimulator}
    (counts : ∀ battery, ρ battery (count battery)) :
    Keeps ρ (do
      let battery ← get
      if finished battery then
        return true
      else do
        set (count battery)
        return false : Method Bool) := by
  constructor
  intro battery
  rw [wp_bind, wp_get, wp_ite]
  split
  · exact refl battery
  · exact counts battery

theorem isPrecharged_sound (presentVoltageEvse : RationalNumber) :
    Keeps KeepsSound (isPrecharged presentVoltageEvse) := by
  apply keeps_bind getPresentVoltage_sound
  intro evVoltage
  exact keeps_count fun _ => keepsSound_of_eq rfl rfl rfl rfl rfl

theorem isPrechargedV2_sound (presentVoltageEvse : PhysicalValue) :
    Keeps KeepsSound (isPrechargedV2 presentVoltageEvse) := by
  apply keeps_bind getPresentVoltage_sound
  intro evVoltage
  exact keeps_count fun _ => keepsSound_of_eq rfl rfl rfl rfl rfl

theorem weldingDetectionHasFinished_sound : Keeps KeepsSound weldingDetectionHasFinished :=
  keeps_count fun _ => keepsSound_of_eq rfl rfl rfl rfl rfl

/-- Whether charging is complete, without the switch of the phase. -/
def complete (battery : RealBatterySimulator) : Bool :=
  if battery.diagActive then
    match battery.diagPhase with
    | .charge => false
    | .discharge => battery.soc ≤ battery.diagCutoffSoc
  else
    battery.targetSoc ≤ battery.soc || battery.chargingIsCompleted

/-- The test is to switch to its second phase. -/
def flips (battery : RealBatterySimulator) : Bool :=
  battery.diagActive && battery.diagPhase = .charge && 100 ≤ battery.soc

/-- The power of the discharge. -/
def dischargePowerW (battery : RealBatterySimulator) : ℚ :=
  -(battery.diagDischargeIA * battery.computeVoltage)

/-- The battery after it has been asked whether charging is complete. -/
def asked (battery : RealBatterySimulator) : RealBatterySimulator :=
  if battery.flips then
    { battery with diagPhase := .discharge, currentPowerW := battery.dischargePowerW }
  else if battery.diagActive && battery.complete then
    { battery with chargingIsCompleted := true }
  else
    battery

/-- What is asked and what is answered. -/
theorem isChargingComplete_eq (battery : RealBatterySimulator) :
    isChargingComplete battery = .ok battery.complete battery.asked := by
  unfold isChargingComplete asked complete flips
  rw [get_bind_apply]
  cases active : battery.diagActive with
  | false => rfl
  | true =>
      cases phase : battery.diagPhase with
      | charge =>
          by_cases full : 100 ≤ battery.soc
          · simp only [full, decide_true, Bool.and_true, ↓reduceIte]
            rfl
          · simp only [full, decide_true, decide_false, Bool.and_true, Bool.and_false,
              Bool.false_eq_true, ↓reduceIte]
            rfl
      | discharge =>
          by_cases low : battery.soc ≤ battery.diagCutoffSoc
          · simp [low]
            rfl
          · simp [low]
            rfl

theorem isChargingComplete_decided (battery : RealBatterySimulator) :
    Call.isChargingComplete.decided battery = some (.chargingComplete battery.complete) := by
  unfold Call.decided Call.perform
  dsimp only
  rw [bind_apply, isChargingComplete_eq]
  rfl

theorem isChargingComplete_sound : Keeps KeepsSound isChargingComplete := by
  constructor
  intro battery
  unfold wp
  rw [isChargingComplete_eq]
  intro sound
  unfold asked
  split
  next flips =>
    have active : battery.diagActive = true := by
      unfold RealBatterySimulator.flips at flips
      rw [Bool.and_assoc, Bool.and_eq_true] at flips
      exact flips.1
    refine ⟨sound.soc_nonneg, sound.soc_le, ?_⟩
    intro inactive
    cases active.symm.trans inactive
  · split
    · exact ⟨sound.soc_nonneg, sound.soc_le, sound.inactive⟩
    · exact sound

theorem continueCharging_sound : Keeps KeepsSound continueCharging := by
  have goesOn : ∀ complete : Bool, Keeps KeepsSound
      (if complete then pure false
      else do
        let battery ← get
        updateBatteryState battery.currentPowerW
        pure true : Method Bool) := by
    intro complete
    split
    · exact keeps_pure _
    · exact keeps_bind keeps_get fun _ =>
        keeps_bind (updateBatteryState_sound _) fun _ => keeps_pure _
  apply keeps_bind keeps_get
  intro battery
  dsimp only
  split
  · exact keeps_bind (keeps_pure _) goesOn
  · exact keeps_bind isChargingComplete_sound goesOn

theorem activateDiagnostic_sound (matched : MatchedService) :
    Keeps KeepsSound (activateDiagnostic matched) :=
  keeps_modify fun _ sound => ⟨sound.soc_nonneg, sound.soc_le, nofun⟩

theorem selectVasServicesV20_sound (services : List MatchedService) :
    Keeps KeepsSound (selectVasServicesV20 services) := by
  apply keeps_bind keeps_get
  intro battery
  dsimp only
  split
  · exact keeps_pure _
  · split
    · exact keeps_pure _
    · split
      · exact keeps_bind (activateDiagnostic_sound _) fun _ => keeps_pure _
      · exact keeps_pure _

theorem processScheduledSeParams_sound
    (scheduledParams : Option ScheduledScheduleExchangeResParams) (pause : Option Bool) :
    Keeps KeepsSound (processScheduledSeParams scheduledParams pause) := by
  apply keeps_bind randomBit_sound
  intro isReady
  split
  · split
    · exact keeps_throw _
    · split
      · exact keeps_throw _
      · exact keeps_bind (keeps_ofExcept _) fun _ => keeps_pure _
  · exact keeps_pure _

theorem processDynamicSeParams_sound
    (dynamicParams : Option DynamicScheduleExchangeResParams) (pause : Option Bool) :
    Keeps KeepsSound (processDynamicSeParams dynamicParams pause) := by
  apply keeps_bind randomBit_sound
  intro isReady
  split
  · split
    · exact keeps_throw _
    · apply keeps_bind
      · exact keeps_modify fun _ => keepsSound_of_eq rfl rfl rfl rfl rfl
      · exact fun _ => keeps_bind (keeps_ofExcept _) fun _ => keeps_pure _
  · exact keeps_pure _

theorem getAcChargeLoopParamsV20_sound (controlMode : Option ControlMode)
    (selectedService : ServiceV20) :
    Keeps KeepsSound (getAcChargeLoopParamsV20 controlMode selectedService) := by
  apply keeps_bind keeps_get
  intro battery
  apply keeps_bind (updateBatteryState_sound _)
  intro _
  apply keeps_bind keeps_get
  intro battery
  iterate 4
    apply keeps_bind (keeps_ofExcept _)
    intro _
  split
  · split
    · exact keeps_pure _
    · exact keeps_pure _
  · iterate 2
      apply keeps_bind (keeps_ofExcept _)
      intro _
    dsimp only
    split
    · exact keeps_pure _
    · exact keeps_pure _

theorem getScheduledDcChargeLoopParams_sound :
    Keeps KeepsSound getScheduledDcChargeLoopParams := by
  apply keeps_bind keeps_get
  intro battery
  apply keeps_bind (updateBatteryState_sound _)
  intro _
  apply keeps_bind keeps_get
  intro battery
  split
  · exact keeps_throw _
  · exact keeps_bind (keeps_ofExcept _) fun _ => keeps_bind (keeps_ofExcept _) fun _ =>
      keeps_pure _

theorem getDynamicDcChargeLoopParams_sound :
    Keeps KeepsSound getDynamicDcChargeLoopParams := by
  apply keeps_bind keeps_get
  intro battery
  apply keeps_bind (updateBatteryState_sound _)
  intro _
  apply keeps_bind keeps_get
  intro battery
  iterate 8
    apply keeps_bind (keeps_ofExcept _)
    intro _
  exact keeps_pure _

theorem getBptScheduledDcChargeLoopParams_sound :
    Keeps KeepsSound getBptScheduledDcChargeLoopParams := by
  constructor
  intro battery
  unfold getBptScheduledDcChargeLoopParams
  rw [wp_bind, wp_get, wp_ite]
  split
  · dsimp only
    rw [wp_bind, wp_set]
    have same : KeepsSound battery
        { battery with currentPowerW := -|-battery.diagDischargeIA * battery.computeVoltage| } :=
      keepsSound_of_eq rfl rfl rfl rfl rfl
    apply Keeps.wp_after _ same
    iterate 5
      apply keeps_bind (keeps_ofExcept _)
      intro _
    exact keeps_pure _
  · exact (keeps_bind getScheduledDcChargeLoopParams_sound fun _ => keeps_pure _).related battery

theorem getBptDynamicDcChargeLoopParams_sound :
    Keeps KeepsSound getBptDynamicDcChargeLoopParams := by
  apply keeps_bind getDynamicDcChargeLoopParams_sound
  intro base
  iterate 3
    apply keeps_bind (keeps_ofExcept _)
    intro _
  exact keeps_pure _

theorem getDisplayParams_sound : Keeps KeepsSound getDisplayParams := by
  apply keeps_bind keeps_get
  intro battery
  apply keeps_bind isChargingComplete_sound
  intro complete
  dsimp only
  split
  · exact keeps_pure _
  · exact keeps_throw _

theorem getDcEvStatus_sound : Keeps KeepsSound getDcEvStatus := by
  apply keeps_bind keeps_get
  intro battery
  dsimp only
  split
  · exact keeps_pure _
  · exact keeps_throw _

theorem getDcEvPowerDeliveryParameter_sound : Keeps KeepsSound getDcEvPowerDeliveryParameter :=
  keeps_bind getDcEvStatus_sound fun _ =>
    keeps_bind (keeps_bind keeps_get fun _ => keeps_pure _) fun _ =>
      keeps_bind isChargingComplete_sound fun _ => keeps_pure _

theorem Call.perform_sound (call : Call) : Keeps KeepsSound call.perform := by
  cases call with
  | isPrecharged presentVoltageEvse =>
      exact keeps_bind (isPrecharged_sound presentVoltageEvse) fun _ => keeps_pure _
  | isPrechargedV2 presentVoltageEvse =>
      exact keeps_bind (isPrechargedV2_sound presentVoltageEvse) fun _ => keeps_pure _
  | weldingDetectionHasFinished =>
      exact keeps_bind weldingDetectionHasFinished_sound fun _ => keeps_pure _
  | isChargingComplete => exact keeps_bind isChargingComplete_sound fun _ => keeps_pure _
  | continueCharging => exact keeps_bind continueCharging_sound fun _ => keeps_pure _
  | stopCharging =>
      exact keeps_bind (keeps_modify fun _ => keepsSound_of_eq rfl rfl rfl rfl rfl)
        fun _ => keeps_pure _
  | selectVasServicesV20 services =>
      exact keeps_bind (selectVasServicesV20_sound services) fun _ => keeps_pure _
  | updateSeccLimits maxCurrent maxVolts maxPower =>
      exact keeps_bind (keeps_modify fun _ => keepsSound_of_eq rfl rfl rfl rfl rfl)
        fun _ => keeps_pure _
  | processScheduledSeParams scheduledParams pause =>
      exact keeps_bind (processScheduledSeParams_sound _ _) fun _ => keeps_pure _
  | processDynamicSeParams dynamicParams pause =>
      exact keeps_bind (processDynamicSeParams_sound _ _) fun _ => keeps_pure _
  | getAcChargeLoopParamsV20 controlMode selectedService =>
      exact keeps_bind (getAcChargeLoopParamsV20_sound _ _) fun _ => keeps_pure _
  | getScheduledDcChargeLoopParams =>
      exact keeps_bind getScheduledDcChargeLoopParams_sound fun _ => keeps_pure _
  | getDynamicDcChargeLoopParams =>
      exact keeps_bind getDynamicDcChargeLoopParams_sound fun _ => keeps_pure _
  | getBptScheduledDcChargeLoopParams =>
      exact keeps_bind getBptScheduledDcChargeLoopParams_sound fun _ => keeps_pure _
  | getBptDynamicDcChargeLoopParams =>
      exact keeps_bind getBptDynamicDcChargeLoopParams_sound fun _ => keeps_pure _
  | getDisplayParams => exact keeps_bind getDisplayParams_sound fun _ => keeps_pure _
  | getDcEvPowerDeliveryParameter =>
      exact keeps_bind getDcEvPowerDeliveryParameter_sound fun _ => keeps_pure _

theorem Sound.call {battery : RealBatterySimulator} (sound : battery.Sound) (call : Call) :
    (call.after battery).Sound := by
  have keeps := call.perform_sound.related battery
  unfold wp at keeps
  unfold Call.after
  cases performed : call.perform battery with
  | ok decision next =>
      rw [performed] at keeps
      exact keeps sound
  | error exception next =>
      rw [performed] at keeps
      exact keeps sound

theorem Sound.calls {battery : RealBatterySimulator} (sound : battery.Sound)
    (calls : List Call) : (afterCalls calls battery).Sound := by
  induction calls generalizing battery with
  | nil => exact sound
  | cons call rest ih => exact ih (sound.call call)

theorem Sound.start {battery : RealBatterySimulator} (sound : battery.Sound)
    (session : ChargingSession) : (battery.atStart session).Sound :=
  ⟨sound.soc_nonneg, sound.soc_le, sound.inactive⟩

/-- After any sessions the battery is sound. -/
theorem Sound.sessions {battery : RealBatterySimulator} (sound : battery.Sound)
    (sessions : List ChargingSession) : (afterSessions sessions battery).Sound := by
  induction sessions generalizing battery with
  | nil => exact sound
  | cons session rest ih => exact ih ((sound.start session).calls session.calls)

/-- A controller for a DC vehicle. -/
def sampleBattery : RealBatterySimulator where
  config := { supportedEnergyServices := [.dc] }

end RealBatterySimulator

end Iso15118.Evcc
