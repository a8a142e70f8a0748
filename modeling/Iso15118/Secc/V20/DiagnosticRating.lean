import Iso15118.Secc.V20.DiagnosticLoop
import Iso15118.Shared.BatteryDiagnostics.Sessions

/-!
# The rating of the charger in a diagnostic test

The commands of the health test come from the battery that the SECC assumes and the parameters that
the EV has selected. The only clamp is the parameter `MaxTestCurrentA`, and the session limits are
overwritten, so that nothing holds a command within what the charger is rated for.
-/

namespace Iso15118.Secc.V20

open Iso15118.Shared
open Iso15118.Shared.V20
open Transition

/-- A value is within a rating, where there is one. -/
def Allows (rating : Option ℚ) (value : ℚ) : Prop :=
  ∀ bound ∈ rating, value ≤ bound

/-- A limit is within a rating. -/
def WithinRating (limit rating : Option ℚ) : Prop :=
  ∀ value ∈ limit, Allows rating value

theorem withinRating_some {value : ℚ} {rating : Option ℚ} :
    WithinRating (some value) rating ↔ Allows rating value := by
  simp [WithinRating]

instance (rating : Option ℚ) (value : ℚ) : Decidable (Allows rating value) := by
  unfold Allows
  infer_instance

instance (limit rating : Option ℚ) : Decidable (WithinRating limit rating) := by
  unfold WithinRating
  infer_instance

/-- The charger is rated for a charge with a current at a voltage. -/
def AllowsCharge (rated : EVSEDCCPDLimits) (currentA voltageV : ℚ) : Prop :=
  Allows rated.maxChargeCurrent currentA ∧ Allows rated.maxChargePower (currentA * voltageV)

/-- The charger is rated for a discharge with a current at a voltage. -/
def AllowsDischarge (rated : EVSEDCCPDLimits) (currentA voltageV : ℚ) : Prop :=
  Allows rated.maxDischargeCurrent currentA ∧
    Allows rated.maxDischargePower (currentA * |voltageV|)

/-! ## The limits of a command -/

/-- The limits that a command writes are within the rating. -/
def LimitsAllowed (rated : EVSEDCCPDLimits) (cmd : CurrentCommand) (limits : EVSEDCCLLimits) :
    Prop :=
  WithinRating limits.maxVoltage rated.maxVoltage ∧
    if cmd.targetCurrentA < 0 then
      WithinRating limits.maxDischargeCurrent rated.maxDischargeCurrent ∧
        WithinRating limits.maxDischargePower rated.maxDischargePower
    else
      WithinRating limits.maxChargeCurrent rated.maxChargeCurrent ∧
        WithinRating limits.maxChargePower rated.maxChargePower

theorem limitsAllowed_writeCommand_iff {rated : EVSEDCCPDLimits} {cmd : CurrentCommand}
    {limits : EVSEDCCLLimits} :
    LimitsAllowed rated cmd (writeCommand limits cmd) ↔
      Allows rated.maxVoltage cmd.targetVoltageV ∧
        if cmd.targetCurrentA < 0 then
          AllowsDischarge rated (-cmd.targetCurrentA) cmd.targetVoltageV
        else
          AllowsCharge rated cmd.targetCurrentA cmd.targetVoltageV := by
  unfold LimitsAllowed writeCommand AllowsCharge AllowsDischarge
  by_cases discharges : cmd.targetCurrentA < 0
  · simp only [discharges, ↓reduceIte, withinRating_some, abs_mul, abs_of_neg discharges]
  · simp only [discharges, ↓reduceIte, withinRating_some]

/-! ## The commands of the health test -/

/-- The current that the SECC's battery takes or gives in an hour. -/
def hourCurrent (battery : BatterySimulator) : ℚ :=
  battery.capacityWh / max battery.ocv 1

/-- The current that the parameters of a test stand for. -/
def testCurrent (service : BatteryHealthService) (battery : BatterySimulator) : ℚ :=
  min (service.cRate * hourCurrent battery) service.maxIA

/-- What a test does in a cycle. -/
inductive TestStep where
  | charge
  | discharge
  | complete

/-- The step of a test at a state of charge. -/
def testStep (service : BatteryHealthService) (soc : ℚ) : TestStep :=
  match service.phase with
  | .charge => if BatteryHealthService.chargeTargetSoc ≤ soc then .discharge else .charge
  | .discharge => if soc ≤ service.cutoff then .complete else .discharge

/-- The current of a step. -/
def stepCurrent (service : BatteryHealthService) (battery : BatterySimulator) : TestStep → ℚ
  | .charge => hourCurrent battery
  | .discharge => -testCurrent service battery
  | .complete => 0

theorem onCycle_command (service : BatteryHealthService) (evDataContext : EVDataContext)
    (battery : BatterySimulator) :
    (service.onCycle evDataContext battery).1.targetVoltageV = battery.ocv ∧
      (service.onCycle evDataContext battery).1.targetCurrentA =
        stepCurrent service battery
          (testStep service (BatteryHealthService.readSoc evDataContext battery)) := by
  obtain ⟨cRate, maxIA⟩ :=
    BatteryHealthService.recordCycle_parameters service evDataContext battery
  unfold BatteryHealthService.onCycle BatteryHealthService.nextCommand testStep
  rw [BatteryHealthService.recordCycle_phase, BatteryHealthService.recordCycle_cutoff]
  cases service.phase with
  | charge =>
      dsimp only
      split
      · refine ⟨rfl, ?_⟩
        simp only [BatteryHealthService.dischargeCommand, cRate, maxIA]
        rfl
      · exact ⟨rfl, rfl⟩
  | discharge =>
      dsimp only
      split
      · exact ⟨rfl, rfl⟩
      · refine ⟨rfl, ?_⟩
        simp only [BatteryHealthService.dischargeCommand, cRate, maxIA]
        rfl

/-! ## The rating of a test -/

/-- The charger is rated for a step of a test. A battery of negative capacity is discharged when it
is to be charged, and with parameters that are not positive it is charged when it is to be
discharged. -/
def StepRated (rated : EVSEDCCPDLimits) (service : BatteryHealthService)
    (battery : BatterySimulator) : TestStep → Prop
  | .charge =>
      if battery.capacityWh < 0 then AllowsDischarge rated (-hourCurrent battery) battery.ocv
      else AllowsCharge rated (hourCurrent battery) battery.ocv
  | .discharge =>
      if 0 < service.cRate * battery.capacityWh ∧ 0 < service.maxIA then
        AllowsDischarge rated (testCurrent service battery) battery.ocv
      else
        AllowsCharge rated (-testCurrent service battery) battery.ocv
  | .complete => AllowsCharge rated 0 battery.ocv

theorem hourCurrent_neg_iff {battery : BatterySimulator} :
    hourCurrent battery < 0 ↔ battery.capacityWh < 0 := by
  have positive : 0 < max battery.ocv 1 := lt_max_of_lt_right one_pos
  unfold hourCurrent
  rw [div_lt_iff₀ positive, zero_mul]

theorem testCurrent_pos_iff {service : BatteryHealthService} {battery : BatterySimulator} :
    0 < testCurrent service battery ↔
      0 < service.cRate * battery.capacityWh ∧ 0 < service.maxIA := by
  have positive : 0 < max battery.ocv 1 := lt_max_of_lt_right one_pos
  unfold testCurrent hourCurrent
  rw [lt_min_iff, ← mul_div_assoc, div_pos_iff_of_pos_right positive]

theorem stepRated_iff {rated : EVSEDCCPDLimits} {service : BatteryHealthService}
    {battery : BatterySimulator} (step : TestStep) :
    StepRated rated service battery step ↔
      if stepCurrent service battery step < 0 then
        AllowsDischarge rated (-stepCurrent service battery step) battery.ocv
      else
        AllowsCharge rated (stepCurrent service battery step) battery.ocv := by
  cases step with
  | charge => simp only [StepRated, stepCurrent, hourCurrent_neg_iff]
  | discharge =>
      simp only [StepRated, stepCurrent, neg_lt_zero, testCurrent_pos_iff, neg_neg]
  | complete => simp only [StepRated, stepCurrent, lt_self_iff_false, ↓reduceIte]

/-! ## Cycles -/

/-- The state of charge that a cycle reads: the reported one, or else the last one, or else that of
the SECC's battery. A zero is no report. -/
def cycleSoc (state : LoopState BatteryHealthService) (input : LoopInput) : ℚ :=
  BatteryHealthService.readSoc
    { state.evDataContext with
      presentSoc := EVDataContext.overwrite
        (EVDataContext.reportedSoc input.dcChargeLoopReq) state.evDataContext.presentSoc }
    state.registry.battery

/-- The limits that a cycle has written are within the rating. -/
def WritesWithinRating (state : LoopState BatteryHealthService) (input : LoopInput)
    (next : LoopState BatteryHealthService) : Prop :=
  ∀ cmd, issuedCommand state input = some cmd →
    LimitsAllowed next.evseDataContext.dcRatedLimits cmd next.evseDataContext.dcSessionLimits

/-- The charger is rated for the voltage of the SECC's battery and the step of the test. -/
def TestRated (state : LoopState BatteryHealthService) (input : LoopInput)
    (_ : LoopState BatteryHealthService) : Prop :=
  ∀ service, activeTest state = some service →
    Allows state.evseDataContext.dcRatedLimits.maxVoltage state.registry.battery.ocv ∧
      StepRated state.evseDataContext.dcRatedLimits service state.registry.battery
        (testStep service (cycleSoc state input))

theorem cycle_rated {state next : LoopState BatteryHealthService} {input : LoopInput}
    (cycle : Cycle state input next) :
    next.evseDataContext.dcRatedLimits = state.evseDataContext.dcRatedLimits := by
  simp only [Cycle, diagnosticHook, Effect.bind_eq_ok_iff, Effect.pure_eq_ok_iff] at cycle
  obtain ⟨context, updated, ⟨registry, evse⟩, cycled, rfl⟩ := cycle
  unfold ServiceRegistry.onCycle at cycled
  split at cycled
  · cases cycled
    rfl
  · split at cycled
    · cases cycled
      rfl
    · cases cycled
      rfl

theorem issuedCommand_of_inactive {state : LoopState BatteryHealthService} {input : LoopInput}
    (inactive : activeTest state = none) : issuedCommand state input = none := by
  unfold activeTest at inactive
  unfold issuedCommand ServiceRegistry.issuedCommand
  rw [inactive]
  split <;> rfl

/-- The command of a cycle. -/
theorem issuedCommand_of_active {state next : LoopState BatteryHealthService} {input : LoopInput}
    {service : BatteryHealthService} (cycle : Cycle state input next)
    (active : activeTest state = some service) :
    ∃ cmd, issuedCommand state input = some cmd ∧
      cmd.targetVoltageV = state.registry.battery.ocv ∧
      cmd.targetCurrentA = stepCurrent service state.registry.battery
        (testStep service (cycleSoc state input)) := by
  simp only [Cycle, diagnosticHook, Effect.bind_eq_ok_iff] at cycle
  obtain ⟨context, updated, _⟩ := cycle
  have soc : BatteryHealthService.readSoc context state.registry.battery =
      cycleSoc state input := by
    unfold cycleSoc BatteryHealthService.readSoc
    rw [updatedContext_presentSoc updated]
  refine ⟨_, issuedCommand_of_discharge updated active, ?_⟩
  rw [← soc]
  exact onCycle_command service context state.registry.battery

theorem writesWithinRating_iff {state next : LoopState BatteryHealthService} {input : LoopInput}
    (cycle : Cycle state input next) :
    WritesWithinRating state input next ↔ TestRated state input next := by
  unfold WritesWithinRating TestRated
  cases active : activeTest state with
  | none => simp [issuedCommand_of_inactive active]
  | some service =>
      obtain ⟨cmd, issued, voltage, current⟩ := issuedCommand_of_active cycle active
      have written := cycle_limits cycle issued
      simp only [issued, Option.some.injEq, forall_eq']
      rw [written, cycle_rated cycle, limitsAllowed_writeCommand_iff, voltage, current,
        stepRated_iff]

/-- The DC limits of `get_evse_context`. -/
def evseContext : EVSEDataContext where
  dcRatedLimits := {
    maxChargePower := some 8000
    minChargePower := some 1000
    maxChargeCurrent := some 20
    minChargeCurrent := some 1
    maxVoltage := some 420
    minVoltage := some 200
    maxDischargePower := some 50000
    minDischargePower := some 1000
    maxDischargeCurrent := some 100
    minDischargeCurrent := some 1 }
  dcSessionLimits := {
    maxChargePower := some 50000
    minChargePower := some 1000
    maxChargeCurrent := some 100
    maxVoltage := some 500
    minVoltage := some 200
    maxDischargePower := some 50000
    minDischargePower := some 1000
    maxDischargeCurrent := some 100 }
  currentType := some .dc

/-- The simulated charger with a battery, after the health test has been selected. -/
def simulated (battery : BatterySimulator) : LoopState BatteryHealthService where
  registry :=
    let registry : ServiceRegistry BatteryHealthService := ⟨battery, [], none⟩
    (registry.register {}).onServiceSelected 101 (.id 1)
  evDataContext := {}
  evseDataContext := evseContext

end Iso15118.Secc.V20
