import Iso15118.Evcc.Controller.RealBatteryV2
import Iso15118.Evcc.V2.States
import Iso15118.Secc.V2.Loop
import Iso15118.Secc.V2.Responding

/-!
# Pre-charge of the simulated battery

The EVCC asks for the current of the charge loop in pre-charge already. The SECC goes on with
at most 2 A.
-/

namespace Iso15118

open Effect Rounding
open Shared Shared.V2
open Evcc (RealBatterySimulator)

/-! ## What the SECC accepts -/

section

open Secc Secc.V2

variable {answers : Answers} {req : PreChargeReq} {current : PhysicalValue}

theorem currentsAllowed_iff {context : Secc.EVDataContext} (low : current.getDecimalValue ≤ 2) :
    PreCharge.currentsAllowed current (context.updatePreChargeParameters req) = true ↔
      req.evTargetCurrent.getDecimalValue ≤ 2 := by
  simp [PreCharge.currentsAllowed, Secc.EVDataContext.updatePreChargeParameters, low]

/-- With a present current of at most 2 A, and a charger that takes the command, the target
current of the request decides whether `PreCharge` ends the session. -/
theorem preCharge_terminates_iff {message : V2GMessage} {world after : World}
    (healthy : req.dcEvStatus.evErrorCode = .noError)
    (reads : answers.getEvsePresentCurrent = .ok (some current))
    (low : current.getDecimalValue ≤ 2) (sends : answers.sendChargingCommand = .ok ⟨⟩)
    (processed : PreCharge.onPreChargeReq answers message req world = .ok ⟨⟩ after) :
    after.currentState.nextState = some .terminate ↔
      ¬req.evTargetCurrent.getDecimalValue ≤ 2 := by
  have decides : wp (PreCharge.onPreChargeReq answers message req)
      (fun _ next => next.currentState.nextState = some .terminate ↔
        ¬req.evTargetCurrent.getDecimalValue ≤ 2)
      (fun _ _ => True) world := by
    unfold PreCharge.onPreChargeReq
    rw [if_pos healthy]
    simp only [wp_bind, wp_onEvData, wp_modify, wp_ask, reads]
    constructor
    · rintro value same
      cases same
      unfold PreCharge.preCharge
      rw [wp_bind, wp_get]
      dsimp only
      rw [wp_ite]
      split
      next allowed =>
        have accepted := (currentsAllowed_iff low).mp allowed
        simp only [wp_bind, PreCharge.sendTargets, wp_get, wp_tryCatch, wp_ask, sends, wp_pure]
        constructor
        · rintro value -
          rw [if_pos trivial]
          simp only [PreCharge.respond, wp_bind, wp_ask, wp_ofExcept, wp_createNextMessage,
            wp_setOwn, implies_true, and_true]
          rintro status - voltage - present - -
          exact iff_of_false (by rintro ⟨⟩) (not_not_intro accepted)
        · rintro exception same
          cases same
      next refused =>
        rw [currentsAllowed_iff low] at refused
        apply wp_mono _ (fun _ _ _ => trivial) (stopStateMachine_terminates message _ _)
        intro _ next terminates
        exact iff_of_true terminates refused
    · intro exception same
      trivial
  have decided := post_of_eq_ok decides processed
  exact decided

end

/-! ## What the EVCC asks for -/

section

open Evcc.V2

variable {battery : RealBatterySimulator}

/-- From 300 V to 500 V. -/
theorem computeVoltage_mem (lower : 0 ≤ battery.soc) (upper : battery.soc ≤ 100) :
    300 ≤ battery.computeVoltage ∧ battery.computeVoltage ≤ 500 := by
  unfold RealBatterySimulator.computeVoltage RealBatterySimulator.minVoltage
    RealBatterySimulator.maxVoltage
  constructor <;> linarith

/-- The power alone never limits the current to less than 40 A. -/
theorem targetCurrent_eq (lower : 0 ≤ battery.soc) (upper : battery.soc ≤ 100) :
    ∃ most, 40 ≤ most ∧ most ≤ 60 ∧
      battery.targetCurrent = min most battery.seccMaxCurrent := by
  obtain ⟨least, most⟩ := computeVoltage_mem lower upper
  refine ⟨_, ?_, ?_, rfl⟩
  · apply le_min
    · rw [max_eq_left (by linarith), le_div_iff₀ (by linarith)]
      unfold RealBatterySimulator.maxChargePowerW
      linarith
    · unfold RealBatterySimulator.maxChargeCurrent
      linarith
  · apply (min_le_right _ _).trans
    unfold RealBatterySimulator.maxChargeCurrent
    exact le_rfl

theorem targetCurrent_le_iff (lower : 0 ≤ battery.soc) (upper : battery.soc ≤ 100) :
    battery.targetCurrent ≤ 2 + 1 / 2 ↔ battery.seccMaxCurrent ≤ 5 / 2 := by
  obtain ⟨most, large, -, same⟩ := targetCurrent_eq lower upper
  rw [same, min_le_iff]
  constructor
  · rintro (small | limited)
    · linarith
    · linarith
  · intro limited
    right
    linarith

/-- The request has the rounded target current, and no error. -/
theorem builds_targetCurrent {world next : World RealBatterySimulator} {req : PreChargeReq}
    (builds : buildPreChargeMessage world = .ok req next) :
    req.evTargetCurrent.getDecimalValue = roundHalfEven world.controller.targetCurrent ∧
      req.dcEvStatus.evErrorCode = .noError := by
  have built : wp buildPreChargeMessage
      (fun req _ => req.evTargetCurrent.getDecimalValue =
          roundHalfEven world.controller.targetCurrent ∧ req.dcEvStatus.evErrorCode = .noError)
      (fun _ _ => True) world := by
    unfold buildPreChargeMessage
    simp only [wp_bind, Evcc.wp_ask, wp_pure, EVController.getDcChargeParams,
      EVController.getDcEvStatus, RealBatterySimulator.getDcChargeParams,
      RealBatterySimulator.getDcEvStatus, wp_get, wp_ofExcept]
    constructor
    · rintro current made
      have value := PhysicalValue.getDecimalValue_of_new made
      simp only [zpow_zero, mul_one] at value
      refine ⟨fun voltage _ => ?_, fun _ _ => trivial⟩
      split
      next => exact ⟨value, rfl⟩
      next => trivial
    · intro _ _
      trivial
  have values := post_of_eq_ok built builds
  exact values

/-- The request is built whatever the state of charge is, unless the limit of the SECC does not
fit the field. -/
theorem builds_of_limit {world : World RealBatterySimulator} (lower : 0 ≤ world.controller.soc)
    (upper : world.controller.soc ≤ 100) (limit : -32768 ≤ world.controller.seccMaxCurrent) :
    ∃ req next, buildPreChargeMessage world = .ok req next := by
  obtain ⟨most, large, bounded, same⟩ := targetCurrent_eq lower upper
  obtain ⟨least, highest⟩ := computeVoltage_mem lower upper
  have currentRange : (-32768 : Int) ≤ roundHalfEven world.controller.targetCurrent ∧
      roundHalfEven world.controller.targetCurrent ≤ (60 : Int) := by
    apply roundHalfEven_mem
    rw [same]
    push_cast
    exact ⟨le_min (by linarith) limit, (min_le_left _ _).trans bounded⟩
  have voltageRange : (300 : Int) ≤ roundHalfEven world.controller.computeVoltage ∧
      roundHalfEven world.controller.computeVoltage ≤ (500 : Int) := by
    apply roundHalfEven_mem
    push_cast
    exact ⟨least, highest⟩
  have socRange : (0 : Int) ≤ roundHalfEven world.controller.soc ∧
      roundHalfEven world.controller.soc ≤ (100 : Int) := by
    apply roundHalfEven_mem
    push_cast
    exact ⟨lower, upper⟩
  obtain ⟨current, madeCurrent⟩ : ∃ current,
      PhysicalValue.new 0 (roundHalfEven world.controller.targetCurrent) = .ok current := by
    apply PhysicalValue.exists_new
    · unfold int16Min int16Max
      omega
    · decide
  obtain ⟨voltage, madeVoltage⟩ : ∃ voltage,
      PhysicalValue.new 0 (roundHalfEven world.controller.computeVoltage) = .ok voltage := by
    apply PhysicalValue.exists_new
    · unfold int16Min int16Max
      omega
    · decide
  have built : wp buildPreChargeMessage (fun _ _ => True) (fun _ _ => False) world := by
    unfold buildPreChargeMessage
    simp only [wp_bind, Evcc.wp_ask, wp_pure, EVController.getDcChargeParams,
      EVController.getDcEvStatus, RealBatterySimulator.getDcChargeParams,
      RealBatterySimulator.getDcEvStatus, wp_get, wp_ofExcept, madeCurrent, madeVoltage]
    refine ⟨fun _ _ => ⟨fun _ _ => ?_, ?_⟩, ?_⟩
    · rw [dif_pos ⟨socRange.1, by omega⟩]
      trivial
    · rintro _ ⟨⟩
    · rintro _ ⟨⟩
  obtain ⟨req, next, builds, -⟩ := eq_ok_of_wp built
  exact ⟨req, next, builds⟩

end

/-! ## Both sides -/

/-- The target current of the simulated battery ends the session in pre-charge unless the SECC
has limited the current to 2.5 A, which are rounded to 2 A. -/
theorem preCharge_goesOn_iff {vehicle asked : Evcc.V2.World RealBatterySimulator}
    {req : PreChargeReq} (lower : 0 ≤ vehicle.controller.soc)
    (upper : vehicle.controller.soc ≤ 100)
    (builds : Evcc.V2.buildPreChargeMessage vehicle = .ok req asked)
    {answers : Secc.V2.Answers} {current : PhysicalValue} {message : V2GMessage}
    {world after : Secc.V2.World} (reads : answers.getEvsePresentCurrent = .ok (some current))
    (low : current.getDecimalValue ≤ 2) (sends : answers.sendChargingCommand = .ok ⟨⟩)
    (processed : Secc.V2.PreCharge.onPreChargeReq answers message req world = .ok ⟨⟩ after) :
    after.currentState.nextState ≠ some .terminate ↔ vehicle.controller.seccMaxCurrent ≤ 5 / 2 := by
  obtain ⟨value, healthy⟩ := builds_targetCurrent builds
  have decides := preCharge_terminates_iff healthy reads low sends processed
  have rounds : roundHalfEven vehicle.controller.targetCurrent ≤ (2 : Int) ↔ _ :=
    roundHalfEven_le_iff (by decide) vehicle.controller.targetCurrent
  rw [Ne, decides, not_not, value, ← targetCurrent_le_iff lower upper]
  exact_mod_cast rounds

/-! ## The battery at 20 % -/

section

open Secc.V2.Sample

/-- The EVCC in front of a charger that has advertised a limit. -/
def cableChecked (limit : ℚ) : Evcc.V2.World RealBatterySimulator where
  session := {}
  controller := { config := { supportedEnergyServices := [] }, seccMaxCurrent := limit }
  currentState := { own := .cableCheck }
  calls := []

theorem cableChecked_builds (limit : ℚ) (fits : -32768 ≤ limit) :
    ∃ req asked, Evcc.V2.buildPreChargeMessage (cableChecked limit) = .ok req asked := by
  apply builds_of_limit
  · change (0 : ℚ) ≤ 20
    norm_num
  · change (20 : ℚ) ≤ 100
    norm_num
  · exact fits

/-- The SECC that has checked the cable. -/
def beforePreCharge : Secc.V2.World :=
  { start.world with session := { sessionId := "10" } }

theorem beforePreCharge_answers (req : PreChargeReq) :
    ∃ after, Secc.V2.PreCharge.onPreChargeReq answers
      (.request ⟨{ sessionId := "10" }, .preChargeReq req⟩) req beforePreCharge =
        .ok ⟨⟩ after := by
  have responds : Secc.Responds (Secc.V2.PreCharge.onPreChargeReq answers
      (.request ⟨{ sessionId := "10" }, .preChargeReq req⟩) req) beforePreCharge := by
    apply (Secc.V2.responds_preCharge (by exact rfl)).mpr
    refine ⟨by decide, fun _ => ⟨_, rfl, fun _ _ _ => .inl ⟨rfl, rfl, ⟨_, rfl⟩⟩⟩⟩
  obtain ⟨_, after, processed, -⟩ := eq_ok_of_wp responds
  exact ⟨after, processed⟩

/-- The charger has advertised 2 A, and pre-charge goes on. -/
theorem sample_preCharge_goesOn :
    ∃ req asked after,
      Evcc.V2.buildPreChargeMessage (cableChecked 2) = .ok req asked ∧
        Secc.V2.PreCharge.onPreChargeReq answers
          (.request ⟨{ sessionId := "10" }, .preChargeReq req⟩) req beforePreCharge =
            .ok ⟨⟩ after ∧
          after.currentState.nextState ≠ some .terminate := by
  obtain ⟨req, asked, builds⟩ := cableChecked_builds 2 (by norm_num)
  obtain ⟨after, processed⟩ := beforePreCharge_answers req
  refine ⟨req, asked, after, builds, processed, ?_⟩
  apply (preCharge_goesOn_iff _ _ builds rfl _ rfl processed).mpr
  · change (2 : ℚ) ≤ 5 / 2
    norm_num
  · change (0 : ℚ) ≤ 20
    norm_num
  · change (20 : ℚ) ≤ 100
    norm_num
  · decide +kernel

/-- No limit but that of the vehicle is in force: 59 A are asked for, and the SECC ends the
session. -/
theorem sample_preCharge_ends :
    ∃ req asked after,
      Evcc.V2.buildPreChargeMessage (cableChecked 60) = .ok req asked ∧
        req.evTargetCurrent.getDecimalValue = 59 ∧
        Secc.V2.PreCharge.onPreChargeReq answers
          (.request ⟨{ sessionId := "10" }, .preChargeReq req⟩) req beforePreCharge =
            .ok ⟨⟩ after ∧
          after.currentState.nextState = some .terminate := by
  obtain ⟨req, asked, builds⟩ := cableChecked_builds 60 (by norm_num)
  obtain ⟨after, processed⟩ := beforePreCharge_answers req
  obtain ⟨value, healthy⟩ := builds_targetCurrent builds
  have rounds : roundHalfEven (cableChecked 60).controller.targetCurrent = 59 := by
    decide +kernel
  rw [rounds] at value
  refine ⟨req, asked, after, builds, value, processed, ?_⟩
  apply (preCharge_terminates_iff healthy rfl _ rfl processed).mpr
  · rw [value]
    norm_num
  · decide +kernel

end

end Iso15118
