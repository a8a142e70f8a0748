import Iso15118.Evcc.Controller.EnergyBalance
import Iso15118.Shared.Messages.ExponentRepr

/-!
# The discharge phase of a diagnostic test

Once a test has come to its discharge, the simulator stays there until another test is activated.
It asks for a current that is not positive, and as long as the SECC does not set the power, the
state of charge does not rise.
-/

namespace Iso15118.Evcc

open Effect
open Iso15118.Shared
open Iso15118.Shared.V20
open Rounding

namespace RealBatterySimulator

/-! ## Tests -/

/-- The parameters of a test make no charge of its discharge. -/
structure NonNegative (diag : DiagParameters) : Prop where
  cRate_nonneg : 0 ≤ diag.cRate
  maxISecc_nonneg : 0 ≤ diag.maxISecc

/-- A test has been activated, and the parameters of the last one are not negative. -/
def Tested (start : RealBatterySimulator) : List TimedCall → Prop
  | [] => False
  | timed :: past =>
      match activation timed.call (start.afterTimed past) with
      | some matched => NonNegative (diagParameters matched.parameterSets.head?)
      | none => Tested start past

/-- A test is on, and its current is not negative. -/
structure Testing (battery : RealBatterySimulator) : Prop where
  active : battery.diagActive = true
  current_nonneg : 0 ≤ battery.diagDischargeIA

/-- A call by which the SECC has its say on the test or the power. -/
def Call.intervenes : Call → Bool
  | .selectVasServicesV20 _ | .updateSeccLimits _ _ _ | .processDynamicSeParams _ _ => true
  | _ => false

theorem activated_testing {battery : RealBatterySimulator} {matched : MatchedService}
    (nonNegative : NonNegative (diagParameters matched.parameterSets.head?)) :
    (battery.activated matched).Testing := by
  constructor
  · rfl
  · have capacity : 0 ≤ totalBatteryCapacityWh / max battery.computeVoltage 1 :=
      div_nonneg (by unfold totalBatteryCapacityWh; norm_num)
        (le_max_of_le_right zero_le_one)
    have cRate := nonNegative.cRate_nonneg
    have maxISecc := nonNegative.maxISecc_nonneg
    exact le_min (le_min (mul_nonneg (by exact_mod_cast cRate) capacity)
      (by exact_mod_cast maxISecc)) (by unfold maxChargeCurrent; norm_num)

theorem Testing.of_sameLive {before after : RealBatterySimulator} (testing : before.Testing)
    (live : SameLive before after) : after.Testing :=
  ⟨live.active.trans testing.active, live.current ▸ testing.current_nonneg⟩

/-- A call keeps the test, or activates another one. -/
theorem Testing.step {battery : RealBatterySimulator} {timed : TimedCall} (sound : battery.Sound)
    (none_activated : activation timed.call battery = none) (testing : battery.Testing) :
    (timed.after battery).Testing := by
  apply Testing.of_sameLive _ (timed.sameLive_after sound)
  have unselected : activation timed.call (battery.atTime timed.time) = none := none_activated
  obtain ⟨active, current, -, -⟩ := leaves_test unselected
  exact ⟨active.trans testing.active, current ▸ testing.current_nonneg⟩

theorem testing_of_tested {start : RealBatterySimulator} (sound : start.Sound)
    {history : List TimedCall} (tested : Tested start history) :
    (start.afterTimed history).Testing := by
  induction history with
  | nil => exact tested.elim
  | cons timed past ih =>
      have sound := sound.afterTimed past
      unfold Tested at tested
      cases activates : activation timed.call (start.afterTimed past) with
      | none =>
          rw [activates] at tested
          exact Testing.step sound activates (ih tested)
      | some matched =>
          rw [activates] at tested
          apply Testing.of_sameLive _ (timed.sameLive_after sound)
          have activates : activation timed.call ((start.afterTimed past).atTime timed.time) =
              some matched := activates
          rw [leaves_activated activates]
          exact activated_testing tested

/-! ## The discharge -/

/-- A test that discharges. -/
structure Discharges (battery : RealBatterySimulator) : Prop extends Testing battery where
  phase : battery.diagPhase = .discharge
  power_nonpos : battery.currentPowerW ≤ 0

theorem computeVoltage_nonneg {battery : RealBatterySimulator} (sound : battery.Sound) :
    0 ≤ battery.computeVoltage := by
  have := sound.soc_nonneg
  unfold computeVoltage minVoltage maxVoltage
  linarith

theorem flow_le {soc powerW deltaTS : ℚ} (nonneg : 0 ≤ soc) (discharges : powerW ≤ 0)
    (duration : 0 ≤ deltaTS) : flow soc powerW deltaTS ≤ soc := by
  apply clampedSum.le_of_nonpos nonneg
  have := mul_nonpos_of_nonpos_of_nonneg discharges duration
  unfold totalBatteryCapacityWh
  linarith

theorem discharges_of_turns {battery : RealBatterySimulator} {timed : TimedCall}
    (sound : battery.Sound) (testing : battery.Testing) (charges : battery.diagPhase = .charge)
    (turns : (timed.after battery).diagPhase = .discharge) : (timed.after battery).Discharges := by
  have live := timed.sameLive_after sound
  have turns' : (timed.call.leaves (battery.atTime timed.time)).diagPhase = .discharge :=
    live.phase.symm.trans turns
  have charges' : (battery.atTime timed.time).diagPhase = .charge := charges
  obtain ⟨_, _, leaving⟩ := timed.call.leaving (battery.atTime timed.time)
  obtain ⟨none_activated, sets⟩ := leaving.turned charges' turns'
  constructor
  · exact Testing.step sound none_activated testing
  · exact turns
  · rw [live.power, leaves_power, sets]
    exact neg_nonpos.mpr (mul_nonneg testing.current_nonneg
      (computeVoltage_nonneg (sound.atTime timed.time)))

theorem flips_of_discharge {battery : RealBatterySimulator}
    (phase : battery.diagPhase = .discharge) : battery.flips = false := by
  unfold flips
  rw [phase]
  simp

/-- While a test discharges, no power is set but that of the discharge. -/
theorem setPower_nonpos {call : Call} {battery : RealBatterySimulator} {powerW : ℚ}
    (alone : call.intervenes = false) (phase : battery.diagPhase = .discharge)
    (sets : setPower call battery = some powerW) : powerW ≤ 0 := by
  have remains := flips_of_discharge phase
  cases call with
  | isChargingComplete | getDisplayParams | getDcEvPowerDeliveryParameter =>
      unfold setPower at sets
      rw [remains] at sets
      cases sets
  | continueCharging =>
      unfold setPower at sets
      rw [remains] at sets
      cases completed : battery.chargingIsCompleted <;> rw [completed] at sets <;> cases sets
  | getBptScheduledDcChargeLoopParams =>
      unfold setPower at sets
      dsimp only at sets
      split at sets
      · cases sets
        exact neg_nonpos.mpr (abs_nonneg _)
      · cases sets
  | selectVasServicesV20 | updateSeccLimits | processDynamicSeParams => cases alone
  | _ => cases sets

/-- What a call leaves of a discharge, if the SECC does not intervene. -/
theorem Discharges.step {battery : RealBatterySimulator} {timed : TimedCall}
    (sound : battery.Sound) (discharges : battery.Discharges)
    (alone : timed.call.intervenes = false) :
    (timed.after battery).Discharges ∧ (timed.after battery).soc ≤ battery.soc ∧
      (timed.after battery).diagCutoffSoc = battery.diagCutoffSoc := by
  have live := timed.sameLive_after sound
  have none_activated : activation timed.call (battery.atTime timed.time) = none := by
    cases activates : timed.call with
    | selectVasServicesV20 services =>
        rw [activates] at alone
        cases alone
    | _ => rfl
  obtain ⟨-, -, cutoff, phase⟩ := leaves_test none_activated
  have remains : (battery.atTime timed.time).flips = false := flips_of_discharge discharges.phase
  have power : (timed.call.leaves (battery.atTime timed.time)).currentPowerW ≤ 0 := by
    rw [leaves_power]
    cases sets : setPower timed.call (battery.atTime timed.time) with
    | none => exact discharges.power_nonpos
    | some powerW => exact setPower_nonpos alone discharges.phase sets
  constructor
  · constructor
    · exact Testing.step sound none_activated discharges.toTesting
    · exact live.phase.trans ((phase remains).trans discharges.phase)
    · exact live.power.trans_le power
  · rw [live.soc, live.cutoff]
    refine ⟨?_, cutoff⟩
    by_cases updates : Updates timed.call (battery.atTime timed.time)
    · rw [(leaves_of_updates updates).2]
      split
      · exact le_rfl
      next late =>
        exact flow_le sound.soc_nonneg power (by linarith)
    · exact (leaves_of_not_updates updates).2.le

theorem Discharges.run {battery : RealBatterySimulator} (sound : battery.Sound)
    (discharges : battery.Discharges) {history : List TimedCall}
    (alone : ∀ timed ∈ history, timed.call.intervenes = false) :
    (battery.afterTimed history).Discharges ∧
      (battery.afterTimed history).soc ≤ battery.soc ∧
      (battery.afterTimed history).diagCutoffSoc = battery.diagCutoffSoc := by
  induction history with
  | nil => exact ⟨discharges, le_rfl, rfl⟩
  | cons timed past ih =>
      rw [List.forall_mem_cons] at alone
      obtain ⟨alone, before⟩ := alone
      obtain ⟨goesOn, falls, same⟩ := ih before
      obtain ⟨next, fallsNext, sameNext⟩ := goesOn.step (sound.afterTimed past) alone
      exact ⟨next, fallsNext.trans falls, sameNext.trans same⟩

/-! ## What is asked for -/

theorem rationalRepr_nonpos {value : Int} {number : RationalNumber} (nonpos : value ≤ 0)
    (returned : rationalRepr value = .ok number) : number.getDecimalValue ≤ 0 := by
  unfold rationalRepr RationalNumber.new at returned
  split at returned
  · cases returned
    have nonpos : (value : ℚ) ≤ 0 := by exact_mod_cast nonpos
    exact (decodeRepr_nonpos nonpos).1
  · cases returned

/-- The current that is asked for in a discharge is not positive. -/
theorem Discharges.target_nonpos {battery : RealBatterySimulator}
    (discharges : battery.Discharges) :
    wp getBptScheduledDcChargeLoopParams
      (fun params _ => params.evTargetCurrent.getDecimalValue ≤ 0) (fun _ _ => True) battery := by
  have target : truncate (-battery.diagDischargeIA) ≤ 0 := by
    rw [truncate_neg]
    exact neg_nonpos.mpr (truncate_nonneg discharges.current_nonneg)
  unfold getBptScheduledDcChargeLoopParams
  rw [wp_bind, wp_get, wp_ite, if_pos ⟨discharges.active, discharges.phase⟩, wp_bind, wp_set,
    wp_bind, wp_ofExcept]
  refine ⟨?_, fun _ _ => trivial⟩
  intro current returned
  have nonpos := rationalRepr_nonpos target returned
  iterate 4
    rw [wp_bind, wp_ofExcept]
    refine ⟨fun _ _ => ?_, fun _ _ => trivial⟩
  exact nonpos

theorem Discharges.complete_eq {battery : RealBatterySimulator} (discharges : battery.Discharges) :
    battery.complete = decide (battery.soc ≤ battery.diagCutoffSoc) := by
  unfold complete
  rw [discharges.active, discharges.phase]
  rfl

/-- What remains of a discharge from one time to a later one. -/
structure GoesOn (earlier later : RealBatterySimulator) : Prop where
  phase : later.diagPhase = .discharge
  soc_le : later.soc ≤ earlier.soc
  target_nonpos : ∀ time params next,
    getBptScheduledDcChargeLoopParams (later.atTime time) = .ok params next →
      params.evTargetCurrent.getDecimalValue ≤ 0
  complete : ∀ time again,
    Call.isChargingComplete.decided (earlier.atTime time) = some (.chargingComplete true) →
      Call.isChargingComplete.decided (later.atTime again) = some (.chargingComplete true)

/-- Once a test has come to its discharge, it stays there: it asks for no charge, loses charge only
and is complete for good, as long as the SECC does not intervene. -/
theorem discharge_goesOn {start : RealBatterySimulator} (sound : start.Sound)
    {past earlier later : List TimedCall} {turn : TimedCall} (tested : Tested start past)
    (charges : (start.afterTimed past).diagPhase = .charge)
    (turns : (start.afterTimed (turn :: past)).diagPhase = .discharge)
    (alone : ∀ timed ∈ later ++ earlier, timed.call.intervenes = false) :
    GoesOn (start.afterTimed (earlier ++ turn :: past))
      (start.afterTimed (later ++ (earlier ++ turn :: past))) := by
  obtain ⟨aloneLater, aloneEarlier⟩ := List.forall_mem_append.mp alone
  have first : (start.afterTimed (turn :: past)).Discharges :=
    discharges_of_turns (sound.afterTimed past) (testing_of_tested sound tested) charges turns
  obtain ⟨middle, -, -⟩ := first.run (sound.afterTimed (turn :: past)) aloneEarlier
  rw [← afterTimed_append] at middle
  obtain ⟨last, falls, same⟩ :=
    middle.run (sound.afterTimed (earlier ++ turn :: past)) aloneLater
  rw [← afterTimed_append] at last falls same
  constructor
  · exact last.phase
  · exact falls
  · intro time params next returned
    have last_at :
        ((start.afterTimed (later ++ (earlier ++ turn :: past))).atTime time).Discharges :=
      ⟨⟨last.active, last.current_nonneg⟩, last.phase, last.power_nonpos⟩
    have nonpos := last_at.target_nonpos
    unfold wp at nonpos
    rw [returned] at nonpos
    exact nonpos
  · intro time again decided
    rw [isChargingComplete_decided] at decided ⊢
    have complete : (start.afterTimed (earlier ++ turn :: past)).complete = true :=
      Decision.chargingComplete.inj (Option.some.inj decided)
    have complete_later :
        (start.afterTimed (later ++ (earlier ++ turn :: past))).complete = true := by
      rw [middle.complete_eq, decide_eq_true_eq] at complete
      rw [last.complete_eq, decide_eq_true_eq, same]
      exact falls.trans complete
    exact congrArg (fun answer => some (Decision.chargingComplete answer)) complete_later

/-- A controller that is configured for a test. -/
def testable : RealBatterySimulator where
  config := { supportedEnergyServices := [.dc], diagnosticServiceId := some 101 }

/-- A test with a discharge down to thirty percent. -/
def healthTest : MatchedService where
  service := .batteryHealthTest
  isEnergyService := false
  isFree := true
  parameterSets := [⟨1, [⟨"RequestedCRate", .intValue 3⟩, ⟨"CutoffSOC", .intValue 30⟩]⟩]

/-- The test is activated and the battery is charged in full. -/
def fullyCharged : List TimedCall :=
  [⟨.getDynamicDcChargeLoopParams, 100⟩, ⟨.updateSeccLimits 60 500 20000, 0⟩,
    ⟨.selectVasServicesV20 [healthTest], 0⟩]

theorem healthTest_goesOn :
    GoesOn
      (testable.afterTimed
        ([⟨.continueCharging, 1000⟩] ++ ⟨.isChargingComplete, 100⟩ :: fullyCharged))
      (testable.afterTimed
        ([⟨.getDisplayParams, 1020⟩, ⟨.getBptScheduledDcChargeLoopParams, 1010⟩] ++
          ([⟨.continueCharging, 1000⟩] ++ ⟨.isChargingComplete, 100⟩ :: fullyCharged))) := by
  have sound : testable.Sound := by
    constructor
    · decide +kernel
    · decide +kernel
    · exact fun _ => ⟨rfl, rfl, rfl⟩
  have tested : Tested testable fullyCharged := ⟨by decide +kernel, by decide +kernel⟩
  exact discharge_goesOn sound tested (by decide +kernel) (by decide +kernel) (by decide +kernel)

end RealBatterySimulator

end Iso15118.Evcc
