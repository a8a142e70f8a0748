import Iso15118.Library.Run
import Iso15118.Secc.Controller.Interface
import Iso15118.Shared.BatteryDiagnostics.HealthTest
import Iso15118.Shared.BatteryDiagnostics.Registry

/-!
# The diagnostic hook of the DC charge loop

Every `DCChargeLoopReq` first updates the EV data context and then runs one
cycle of the active diagnostic service. This module follows such cycles: what
the session limits say after each command, and whether the health test stops at
its cut-off.
-/

namespace Iso15118.Secc.V20

open Iso15118.Shared
open Iso15118.Shared.V20
open Transition

variable {σ : Type} [DiagnosticService σ]

/-- The data that the hook reads and writes. -/
structure LoopState (σ : Type) where
  registry : ServiceRegistry σ
  evDataContext : EVDataContext
  evseDataContext : EVSEDataContext

/-- A request, with the service and control mode selected for the session. -/
structure LoopInput where
  dcChargeLoopReq : DCChargeLoopReq
  energyService : ServiceV20
  controlMode : Option ControlMode

/-- The EV data context once the request is in it. -/
def updatedContext (state : LoopState σ) (input : LoopInput) : Except PyError EVDataContext :=
  match EVDataContext.updateDcChargeLoopParametersV20 input.dcChargeLoopReq input.energyService
      input.controlMode state.evDataContext with
  | .ok _ context => .ok context
  | .error exception _ => .error exception

/-- The first part of `DCChargeLoop.process_message`. -/
def diagnosticHook (state : LoopState σ) (input : LoopInput) : Except PyError (LoopState σ) := do
  let evDataContext ← updatedContext state input
  let (registry, evseDataContext) ←
    state.registry.onCycle evDataContext state.evseDataContext
  return ⟨registry, evDataContext, evseDataContext⟩

/-- One charge loop cycle that does not raise. -/
def Cycle (state : LoopState σ) (input : LoopInput) (next : LoopState σ) : Prop :=
  diagnosticHook state input = .ok next

/-- The command that the active service returns in this cycle. -/
def issuedCommand (state : LoopState σ) (input : LoopInput) : Option CurrentCommand :=
  match updatedContext state input with
  | .ok context => state.registry.issuedCommand context
  | .error _ => none

theorem cycle_limits {state next : LoopState σ} {input : LoopInput} {cmd : CurrentCommand}
    (cycle : Cycle state input next) (issued : issuedCommand state input = some cmd) :
    next.evseDataContext.dcSessionLimits =
      writeCommand state.evseDataContext.dcSessionLimits cmd := by
  simp only [Cycle, diagnosticHook, Effect.bind_eq_ok_iff, Effect.pure_eq_ok_iff] at cycle
  rcases cycle with ⟨context, updated, ⟨registry, evse⟩, cycled, rfl⟩
  simp only [issuedCommand, updated] at issued
  exact ServiceRegistry.onCycle_limits issued cycled

/-! ## The limits after a command -/

/-- The commanded power, with the sign of the commanded direction. -/
def signedPower (cmd : CurrentCommand) : ℚ :=
  if cmd.targetCurrentA < 0 then -|cmd.targetCurrentA * cmd.targetVoltageV|
  else |cmd.targetCurrentA * cmd.targetVoltageV|

/-- The session limits encode a command: each direction holds what the command
asks of it, unset and zero being the same, and everything that is read back from
the limits decodes to the command up to the encoding. -/
structure EncodesCommand (context : EVSEDataContext) (cmd : CurrentCommand) : Prop where
  chargeCurrent : context.dcSessionLimits.maxChargeCurrent.getD 0 = max cmd.targetCurrentA 0
  chargePower : context.dcSessionLimits.maxChargePower.getD 0 = max (signedPower cmd) 0
  dischargeCurrent :
    context.dcSessionLimits.maxDischargeCurrent.getD 0 = max (-cmd.targetCurrentA) 0
  dischargePower : context.dcSessionLimits.maxDischargePower.getD 0 = max (-signedPower cmd) 0
  currentLimit : ReadsAs (getEvseMaxCurrentLimit context.dcSessionLimits) cmd.targetCurrentA
  powerLimit : ReadsAs (getEvseMaxPowerLimit context.dcSessionLimits) (signedPower cmd)
  chargeLoopRes : ∀ controlMode params,
    getDcChargeLoopParamsV20 context controlMode .dcBpt = .ok (some params) →
    bptLimits params = some {
      chargeCurrent := decodeRepr (getExponentValueRepr (max cmd.targetCurrentA 0))
      chargePower := decodeRepr (getExponentValueRepr (max (signedPower cmd) 0))
      dischargeCurrent := decodeRepr (getExponentValueRepr (max (-cmd.targetCurrentA) 0))
      dischargePower := decodeRepr (getExponentValueRepr (max (-signedPower cmd) 0)) }

/-- The limits in force leave room for a command. The direction that it does not
command holds nothing, a discharge at zero volts finds a charge power to read,
a charge does not have a negative voltage, and current and power have an
encoding. -/
structure CommandFits (limits : EVSEDCCLLimits) (cmd : CurrentCommand) : Prop where
  dischargeAlone : cmd.targetCurrentA < 0 →
    limits.maxChargeCurrent.getD 0 = 0 ∧ limits.maxChargePower.getD 0 = 0 ∧
      (cmd.targetVoltageV = 0 → limits.maxChargePower ≠ none)
  chargeAlone : 0 ≤ cmd.targetCurrentA →
    limits.maxDischargeCurrent.getD 0 = 0 ∧ limits.maxDischargePower.getD 0 = 0
  voltage : 0 < cmd.targetCurrentA → 0 ≤ cmd.targetVoltageV
  currentEncodable : FitsInt16 (cmd.targetCurrentA / 1000)
  powerEncodable : FitsInt16 (signedPower cmd / 1000)

/-- Without a discharge limit both readers report the charge limit. -/
theorem readers_of_no_discharge {limits : EVSEDCCLLimits}
    (current : limits.maxDischargeCurrent.getD 0 = 0)
    (power : limits.maxDischargePower.getD 0 = 0) :
    getEvseMaxCurrentLimit limits = encodePhysicalValue limits.maxChargeCurrent ∧
      getEvseMaxPowerLimit limits = encodePhysicalValue limits.maxChargePower := by
  simp only [getEvseMaxCurrentLimit, getEvseMaxPowerLimit, truthy_eq_none_iff.mpr current,
    truthy_eq_none_iff.mpr power, and_self]

/-- A positive discharge limit is reported as a negative quantity. -/
theorem currentLimit_of_discharge {limits : EVSEDCCLLimits} {value : ℚ}
    (limit : limits.maxDischargeCurrent = some value) (pos : 0 < value) :
    getEvseMaxCurrentLimit limits = encodePhysicalValue (some (-value)) := by
  simp only [getEvseMaxCurrentLimit, limit, truthy_some pos.ne', if_pos pos, neg_one_mul]

theorem powerLimit_of_discharge {limits : EVSEDCCLLimits} {value : ℚ}
    (limit : limits.maxDischargePower = some value) (pos : 0 < value) :
    getEvseMaxPowerLimit limits = encodePhysicalValue (some (-value)) := by
  simp only [getEvseMaxPowerLimit, limit, truthy_some pos.ne', if_pos pos, neg_one_mul]

/-- The bidirectional response says what the limits say. -/
theorem chargeLoopRes_of_limits {context : EVSEDataContext} {cmd : CurrentCommand}
    (chargeCurrent :
      context.dcSessionLimits.maxChargeCurrent.getD 0 = max cmd.targetCurrentA 0)
    (chargePower : context.dcSessionLimits.maxChargePower.getD 0 = max (signedPower cmd) 0)
    (dischargeCurrent :
      context.dcSessionLimits.maxDischargeCurrent.getD 0 = max (-cmd.targetCurrentA) 0)
    (dischargePower :
      context.dcSessionLimits.maxDischargePower.getD 0 = max (-signedPower cmd) 0)
    (controlMode : Option ControlMode) (params : DCChargeLoopResParams)
    (built : getDcChargeLoopParamsV20 context controlMode .dcBpt = .ok (some params)) :
    bptLimits params = some {
      chargeCurrent := decodeRepr (getExponentValueRepr (max cmd.targetCurrentA 0))
      chargePower := decodeRepr (getExponentValueRepr (max (signedPower cmd) 0))
      dischargeCurrent := decodeRepr (getExponentValueRepr (max (-cmd.targetCurrentA) 0))
      dischargePower := decodeRepr (getExponentValueRepr (max (-signedPower cmd) 0)) } := by
  rw [bptLimits_getDcChargeLoopParamsV20 built]
  simp only [encodedLimit, chargeCurrent, chargePower, dischargeCurrent, dischargePower]

/-- A discharge command is encoded exactly when the charge direction was empty. -/
theorem encodesCommand_iff_of_discharge {context before : EVSEDataContext} {cmd : CurrentCommand}
    (written : context.dcSessionLimits = writeCommand before.dcSessionLimits cmd)
    (discharge : cmd.targetCurrentA < 0) :
    EncodesCommand context cmd ↔ CommandFits before.dcSessionLimits cmd := by
  have size : |cmd.targetCurrentA| = -cmd.targetCurrentA := abs_of_neg discharge
  have positive : 0 < |cmd.targetCurrentA| := abs_pos.mpr discharge.ne
  have power : signedPower cmd = -|cmd.targetCurrentA * cmd.targetVoltageV| := if_pos discharge
  have nonneg := abs_nonneg (cmd.targetCurrentA * cmd.targetVoltageV)
  simp only [writeCommand, if_pos discharge] at written
  have dc : context.dcSessionLimits.maxDischargeCurrent = some |cmd.targetCurrentA| := by
    rw [written]
  have dp : context.dcSessionLimits.maxDischargePower =
      some |cmd.targetCurrentA * cmd.targetVoltageV| := by
    rw [written]
  have cc : context.dcSessionLimits.maxChargeCurrent =
      before.dcSessionLimits.maxChargeCurrent := by
    rw [written]
  have cp : context.dcSessionLimits.maxChargePower =
      before.dcSessionLimits.maxChargePower := by
    rw [written]
  have noCharge : max cmd.targetCurrentA 0 = 0 := max_eq_right discharge.le
  have noChargePower : max (signedPower cmd) 0 = 0 := by
    rw [power]
    exact max_eq_right (neg_nonpos.mpr nonneg)
  have currentLimit : getEvseMaxCurrentLimit context.dcSessionLimits =
      encodePhysicalValue (some cmd.targetCurrentA) := by
    rw [currentLimit_of_discharge dc positive, size, neg_neg]
  constructor
  · intro encodes
    have atZero : cmd.targetVoltageV = 0 → before.dcSessionLimits.maxChargePower ≠ none := by
      rintro zero unset
      have readable := encodes.powerLimit
      rcases readable with ⟨value, answer, _⟩
      simp [getEvseMaxPowerLimit, dp, cp, unset, zero, truthy, Option.filter,
        encodePhysicalValue] at answer
    refine ⟨fun _ => ⟨?_, ?_, atZero⟩, fun charge => absurd charge (not_le.mpr discharge),
      fun charge => absurd charge.le (not_le.mpr discharge), ?_, ?_⟩
    · rw [← cc, encodes.chargeCurrent, noCharge]
    · rw [← cp, encodes.chargePower, noChargePower]
    · rw [← readsAs_encodePhysicalValue_iff, ← currentLimit]
      exact encodes.currentLimit
    · rcases nonneg.lt_or_eq with pos | zero
      · rw [← readsAs_encodePhysicalValue_iff, power, ← powerLimit_of_discharge dp pos, ← power]
        exact encodes.powerLimit
      · rw [power, ← zero]
        apply fitsInt16_of_abs_lt
        norm_num
  · intro fits
    rcases fits.dischargeAlone discharge with ⟨emptyCurrent, emptyPower, atZero⟩
    have chargeCurrent : context.dcSessionLimits.maxChargeCurrent.getD 0 =
        max cmd.targetCurrentA 0 := by
      rw [cc, emptyCurrent, noCharge]
    have chargePower : context.dcSessionLimits.maxChargePower.getD 0 =
        max (signedPower cmd) 0 := by
      rw [cp, emptyPower, noChargePower]
    have dischargeCurrent : context.dcSessionLimits.maxDischargeCurrent.getD 0 =
        max (-cmd.targetCurrentA) 0 := by
      rw [dc, Option.getD_some, size]
      exact (max_eq_left (neg_nonneg.mpr discharge.le)).symm
    have dischargePower : context.dcSessionLimits.maxDischargePower.getD 0 =
        max (-signedPower cmd) 0 := by
      rw [dp, Option.getD_some, power, neg_neg]
      exact (max_eq_left nonneg).symm
    refine ⟨chargeCurrent, chargePower, dischargeCurrent, dischargePower, ?_, ?_,
      chargeLoopRes_of_limits chargeCurrent chargePower dischargeCurrent dischargePower⟩
    · rw [currentLimit]
      exact (readsAs_encodePhysicalValue_iff _).mpr fits.currentEncodable
    · rcases nonneg.lt_or_eq with pos | zero
      · rw [powerLimit_of_discharge dp pos, ← power]
        exact (readsAs_encodePhysicalValue_iff _).mpr fits.powerEncodable
      · have noVoltage : cmd.targetVoltageV = 0 := by
          rcases mul_eq_zero.mp (abs_eq_zero.mp zero.symm) with noCurrent | noVoltage
          · exact absurd noCurrent discharge.ne
          · exact noVoltage
        rcases Option.ne_none_iff_exists'.mp (atZero noVoltage) with ⟨value, stored⟩
        have isZero : value = 0 := by simpa [stored] using emptyPower
        have answer : getEvseMaxPowerLimit context.dcSessionLimits =
            encodePhysicalValue (some (signedPower cmd)) := by
          simp [getEvseMaxPowerLimit, dp, cp, stored, isZero, ← zero, truthy, Option.filter, power]
        rw [answer]
        exact (readsAs_encodePhysicalValue_iff _).mpr fits.powerEncodable

/-- A charge or stop command is encoded exactly when the discharge direction was
empty. -/
theorem encodesCommand_iff_of_charge {context before : EVSEDataContext} {cmd : CurrentCommand}
    (written : context.dcSessionLimits = writeCommand before.dcSessionLimits cmd)
    (charge : 0 ≤ cmd.targetCurrentA) :
    EncodesCommand context cmd ↔ CommandFits before.dcSessionLimits cmd := by
  have notDischarge : ¬cmd.targetCurrentA < 0 := not_lt.mpr charge
  have power : signedPower cmd = |cmd.targetCurrentA * cmd.targetVoltageV| :=
    if_neg notDischarge
  have nonneg := abs_nonneg (cmd.targetCurrentA * cmd.targetVoltageV)
  simp only [writeCommand, if_neg notDischarge] at written
  have cc : context.dcSessionLimits.maxChargeCurrent = some cmd.targetCurrentA := by
    rw [written]
  have cp : context.dcSessionLimits.maxChargePower =
      some (cmd.targetCurrentA * cmd.targetVoltageV) := by
    rw [written]
  have dc : context.dcSessionLimits.maxDischargeCurrent =
      before.dcSessionLimits.maxDischargeCurrent := by
    rw [written]
  have dp : context.dcSessionLimits.maxDischargePower =
      before.dcSessionLimits.maxDischargePower := by
    rw [written]
  have noDischarge : max (-cmd.targetCurrentA) 0 = 0 := max_eq_right (neg_nonpos.mpr charge)
  have noDischargePower : max (-signedPower cmd) 0 = 0 := by
    rw [power]
    exact max_eq_right (neg_nonpos.mpr nonneg)
  constructor
  · intro encodes
    have emptyCurrent : before.dcSessionLimits.maxDischargeCurrent.getD 0 = 0 := by
      rw [← dc, encodes.dischargeCurrent, noDischarge]
    have emptyPower : before.dcSessionLimits.maxDischargePower.getD 0 = 0 := by
      rw [← dp, encodes.dischargePower, noDischargePower]
    rcases readers_of_no_discharge (dc ▸ emptyCurrent) (dp ▸ emptyPower) with
      ⟨currentLimit, powerLimit⟩
    have same : cmd.targetCurrentA * cmd.targetVoltageV = signedPower cmd := by
      have stored := encodes.chargePower
      rwa [cp, Option.getD_some, max_eq_left (power ▸ nonneg)] at stored
    refine ⟨fun discharge => absurd discharge notDischarge, fun _ => ⟨emptyCurrent, emptyPower⟩,
      ?_, ?_, ?_⟩
    · intro positive
      have product : 0 ≤ cmd.targetCurrentA * cmd.targetVoltageV := by
        rw [same, power]
        exact nonneg
      exact nonneg_of_mul_nonneg_right product positive
    · rw [← readsAs_encodePhysicalValue_iff, ← cc, ← currentLimit]
      exact encodes.currentLimit
    · rw [← readsAs_encodePhysicalValue_iff]
      have readable := encodes.powerLimit
      rwa [powerLimit, cp, same] at readable
  · intro fits
    rcases fits.chargeAlone charge with ⟨emptyCurrent, emptyPower⟩
    rcases readers_of_no_discharge (dc ▸ emptyCurrent) (dp ▸ emptyPower) with
      ⟨currentLimit, powerLimit⟩
    have product : 0 ≤ cmd.targetCurrentA * cmd.targetVoltageV := by
      rcases charge.lt_or_eq with positive | zero
      · exact mul_nonneg charge (fits.voltage positive)
      · rw [← zero, zero_mul]
    have same : cmd.targetCurrentA * cmd.targetVoltageV = signedPower cmd := by
      rw [power, abs_of_nonneg product]
    have chargeCurrent : context.dcSessionLimits.maxChargeCurrent.getD 0 =
        max cmd.targetCurrentA 0 := by
      rw [cc, Option.getD_some, max_eq_left charge]
    have chargePower : context.dcSessionLimits.maxChargePower.getD 0 =
        max (signedPower cmd) 0 := by
      rw [cp, Option.getD_some, max_eq_left (power ▸ nonneg), same]
    have dischargeCurrent : context.dcSessionLimits.maxDischargeCurrent.getD 0 =
        max (-cmd.targetCurrentA) 0 := by
      rw [dc, emptyCurrent, noDischarge]
    have dischargePower : context.dcSessionLimits.maxDischargePower.getD 0 =
        max (-signedPower cmd) 0 := by
      rw [dp, emptyPower, noDischargePower]
    refine ⟨chargeCurrent, chargePower, dischargeCurrent, dischargePower, ?_, ?_,
      chargeLoopRes_of_limits chargeCurrent chargePower dischargeCurrent dischargePower⟩
    · rw [currentLimit, cc]
      exact (readsAs_encodePhysicalValue_iff _).mpr fits.currentEncodable
    · rw [powerLimit, cp, same]
      exact (readsAs_encodePhysicalValue_iff _).mpr fits.powerEncodable

/-- The command of this cycle is encoded in the limits after it. -/
def CommandEncoded (state : LoopState σ) (input : LoopInput) (next : LoopState σ) : Prop :=
  ∀ cmd, issuedCommand state input = some cmd → EncodesCommand next.evseDataContext cmd

/-- The command of this cycle fits the limits before it. -/
def CommandFitsBefore (state : LoopState σ) (input : LoopInput) (_ : LoopState σ) : Prop :=
  ∀ cmd, issuedCommand state input = some cmd →
    CommandFits state.evseDataContext.dcSessionLimits cmd

theorem commandEncoded_iff {state next : LoopState σ} {input : LoopInput}
    (cycle : Cycle state input next) :
    CommandEncoded state input next ↔ CommandFitsBefore state input next := by
  have agree (cmd : CurrentCommand) (issued : issuedCommand state input = some cmd) :
      EncodesCommand next.evseDataContext cmd ↔
        CommandFits state.evseDataContext.dcSessionLimits cmd := by
    have written := cycle_limits cycle issued
    rcases lt_or_ge cmd.targetCurrentA 0 with discharge | charge
    · exact encodesCommand_iff_of_discharge written discharge
    · exact encodesCommand_iff_of_charge written charge
  constructor
  · intro encoded cmd issued
    exact (agree cmd issued).mp (encoded cmd issued)
  · intro fits cmd issued
    exact (agree cmd issued).mpr (fits cmd issued)

/-- A run encodes every command exactly when each command fits the limits that
the run had reached. -/
theorem run_commandEncoded_iff (start state : LoopState σ) (history : List LoopInput) :
    Run (Restrict Cycle CommandEncoded) start history state ↔
      Run (Restrict Cycle CommandFitsBefore) start history state :=
  run_restrict_congr fun _ _ _ cycle => commandEncoded_iff cycle

/-! ## The cut-off of the health test -/

omit [DiagnosticService σ] in
theorem updatedContext_presentSoc {state : LoopState σ} {input : LoopInput}
    {context : EVDataContext} (updated : updatedContext state input = .ok context) :
    context.presentSoc = EVDataContext.overwrite
      (EVDataContext.reportedSoc input.dcChargeLoopReq) state.evDataContext.presentSoc := by
  have kept := EVDataContext.wp_updateDcChargeLoopParametersV20_presentSoc
    input.dcChargeLoopReq input.energyService input.controlMode state.evDataContext
  unfold updatedContext at updated
  unfold Effect.wp at kept
  split at updated
  · rename_i value reached ended
    rw [ended] at kept
    cases updated
    exact kept
  · cases updated

/-- The health test is the active service. -/
def activeTest (state : LoopState BatteryHealthService) : Option BatteryHealthService :=
  state.registry.activeService

/-- A cycle of the discharge phase whose request reports a state of charge at or
below the cut-off commands no current and completes the test. -/
def CutoffRespected (state : LoopState BatteryHealthService) (input : LoopInput)
    (_ : LoopState BatteryHealthService) : Prop :=
  ∀ service, activeTest state = some service → service.phase = .discharge →
    ∀ soc, EVDataContext.reportedSoc input.dcChargeLoopReq = some soc → soc ≤ service.cutoff →
      ∃ cmd, issuedCommand state input = some cmd ∧
        cmd.targetCurrentA = 0 ∧ cmd.testComplete = true

/-- When the request of a discharge cycle reports zero, the state of charge that
the context still holds, or else the one of the SECC's own battery model, is at
or below the cut-off. -/
def ZeroSocReadable (state : LoopState BatteryHealthService) (input : LoopInput)
    (_ : LoopState BatteryHealthService) : Prop :=
  ∀ service, activeTest state = some service → service.phase = .discharge →
    EVDataContext.reportedSoc input.dcChargeLoopReq = some 0 → 0 ≤ service.cutoff →
      BatteryHealthService.readSoc state.evDataContext state.registry.battery ≤ service.cutoff

theorem overwrite_zero (old : Option Int) : EVDataContext.overwrite (some 0) old = old := by
  simp [EVDataContext.overwrite, truthy, Option.filter]

theorem overwrite_of_ne_zero {soc : Int} (nonzero : soc ≠ 0) (old : Option Int) :
    EVDataContext.overwrite (some soc) old = some soc := by
  simp [EVDataContext.overwrite, truthy, Option.filter, nonzero]

theorem readSoc_of_presentSoc {context : EVDataContext} {soc : Int} (battery : BatterySimulator)
    (present : context.presentSoc = some soc) (nonzero : soc ≠ 0) :
    BatteryHealthService.readSoc context battery = soc := by
  simp [BatteryHealthService.readSoc, present, truthy, Option.filter, nonzero]

/-- The command of a discharge cycle of the health test. -/
theorem issuedCommand_of_discharge {state : LoopState BatteryHealthService} {input : LoopInput}
    {context : EVDataContext} {service : BatteryHealthService}
    (updated : updatedContext state input = .ok context)
    (active : activeTest state = some service) :
    issuedCommand state input =
      some (service.onCycle context state.registry.battery).1 := by
  unfold activeTest at active
  simp only [issuedCommand, updated, ServiceRegistry.issuedCommand, active, Option.bind_some]
  rfl

theorem cutoffRespected_iff {state next : LoopState BatteryHealthService} {input : LoopInput}
    (cycle : Cycle state input next) :
    CutoffRespected state input next ↔ ZeroSocReadable state input next := by
  simp only [Cycle, diagnosticHook, Effect.bind_eq_ok_iff] at cycle
  rcases cycle with ⟨context, updated, _⟩
  have present := updatedContext_presentSoc updated
  constructor
  · intro respected service active phase zero nonneg
    rcases respected service active phase 0 zero nonneg with ⟨cmd, issued, _, complete⟩
    rw [issuedCommand_of_discharge updated active] at issued
    cases issued
    rw [(BatteryHealthService.onCycle_of_discharge context _ phase).2.1,
      decide_eq_true_iff] at complete
    rw [zero, overwrite_zero] at present
    simpa [BatteryHealthService.readSoc, present] using complete
  · intro readable service active phase soc reported below
    have reached : BatteryHealthService.readSoc context state.registry.battery ≤
        service.cutoff := by
      rw [reported] at present
      by_cases zero : soc = 0
      · subst zero
        rw [overwrite_zero] at present
        simpa [BatteryHealthService.readSoc, present] using
          readable service active phase reported below
      · rw [overwrite_of_ne_zero zero] at present
        rw [readSoc_of_presentSoc _ present zero]
        exact_mod_cast below
    refine ⟨_, issuedCommand_of_discharge updated active, ?_, ?_⟩
    · exact (BatteryHealthService.onCycle_of_discharge context _ phase).2.2 reached
    · rw [(BatteryHealthService.onCycle_of_discharge context _ phase).2.1]
      exact decide_eq_true reached

/-- A run of the health test respects the cut-off in every cycle exactly when
every reported zero is readable. -/
theorem run_cutoffRespected_iff (start state : LoopState BatteryHealthService)
    (history : List LoopInput) :
    Run (Restrict Cycle CutoffRespected) start history state ↔
      Run (Restrict Cycle ZeroSocReadable) start history state :=
  run_restrict_congr fun _ _ _ cycle => cutoffRespected_iff cycle

/-! ## A test that fails to stop -/

/-- A bidirectional request at 400 V and -5 A that reports a state of charge. -/
def socInput (soc : Int) (range : 0 ≤ soc ∧ soc ≤ 100 := by decide) : LoopInput where
  dcChargeLoopReq := {
    displayParameters := some {
      presentSoc := some soc
      minSoc := none
      targetSoc := none
      maxSoc := none
      remainingTimeToMinSoc := none
      remainingTimeToTargetSoc := none
      remainingTimeToMaxSoc := none
      chargingComplete := false
      batteryEnergyCapacity := none
      presentSoc_range := by
        rintro percent ⟨⟩
        exact range
      minSoc_range := socRange_none
      targetSoc_range := socRange_none
      maxSoc_range := socRange_none }
    meterInfoRequested := false
    evPresentVoltage := ⟨0, 400, int8_zero, int16_fourHundred⟩
    params := .bptScheduled {
      evTargetEnergyRequest := none
      evMaxEnergyRequest := none
      evMinEnergyRequest := none
      evTargetCurrent := ⟨0, -5, int8_zero, by decide⟩
      evTargetVoltage := ⟨0, 400, int8_zero, int16_fourHundred⟩
      evMaxChargePower := none
      evMinChargePower := none
      evMaxChargeCurrent := none
      evMaxVoltage := none
      evMinVoltage := none
      evMaxDischargePower := none
      evMinDischargePower := none
      evMaxDischargeCurrent := none } }
  energyService := .dcBpt
  controlMode := some .scheduled

/-- The health test right after its selection. -/
def testSelected : LoopState BatteryHealthService where
  registry :=
    let registry : ServiceRegistry BatteryHealthService := ⟨{}, [], none⟩
    (registry.register {}).onServiceSelected 101 (.id 1)
  evDataContext := {}
  evseDataContext := { currentType := some .dc }

/-- The state after a cycle that does not raise. -/
def afterCycle (state : LoopState σ) (input : LoopInput) : LoopState σ :=
  match diagnosticHook state input with
  | .ok next => next
  | .error _ => state

theorem cycle_afterCycle {state : LoopState σ} {input : LoopInput}
    (succeeds : (diagnosticHook state input).isOk = true) :
    Cycle state input (afterCycle state input) := by
  unfold Cycle afterCycle
  cases ended : diagnosticHook state input with
  | ok next => rfl
  | error exception =>
      rw [ended] at succeeds
      cases succeeds

/-- After a discharge the command that stops the test leaves the discharge limit
standing. -/
theorem stop_after_discharge_not_encoded :
    ∃ before next cmd, Run Cycle testSelected [socInput 100] before ∧
      Cycle before (socInput 20) next ∧ issuedCommand before (socInput 20) = some cmd ∧
      ¬EncodesCommand next.evseDataContext cmd := by
  refine ⟨afterCycle testSelected (socInput 100), _, ⟨0, 435, .dischargeComplete, true⟩,
    .step .start (cycle_afterCycle (by decide +kernel)),
    cycle_afterCycle (by decide +kernel), by decide +kernel, ?_⟩
  intro encodes
  have stale := encodes.dischargeCurrent
  revert stale
  decide +kernel

/-- A reported zero is ignored, and the test goes on discharging. -/
theorem discharge_continues_at_zero :
    ∃ before next, Run Cycle testSelected [socInput 100] before ∧
      Cycle before (socInput 0) next ∧
      (activeTest before).map BatteryHealthService.phase = some .discharge ∧
      (activeTest before).map BatteryHealthService.cutoff = some 20 ∧
      issuedCommand before (socInput 0) =
        some ⟨-(500 / 87), 435, .discharge 50, false⟩ ∧
      ¬CutoffRespected before (socInput 0) next := by
  refine ⟨afterCycle testSelected (socInput 100), afterCycle _ (socInput 0),
    .step .start (cycle_afterCycle (by decide +kernel)),
    cycle_afterCycle (by decide +kernel), by decide +kernel, by decide +kernel,
    by decide +kernel, ?_⟩
  intro respected
  have phase : (activeTest (afterCycle testSelected (socInput 100))).map
      BatteryHealthService.phase = some .discharge := by decide +kernel
  have cutoff : (activeTest (afterCycle testSelected (socInput 100))).map
      BatteryHealthService.cutoff = some 20 := by decide +kernel
  rcases Option.map_eq_some_iff.mp phase with ⟨service, active, inDischarge⟩
  rw [active] at cutoff
  have cutoffEq : service.cutoff = 20 := Option.some.inj cutoff
  rcases respected service active inDischarge 0 rfl (by rw [cutoffEq]; decide) with
    ⟨cmd, issued, _, complete⟩
  have command : issuedCommand (afterCycle testSelected (socInput 100)) (socInput 0) =
      some ⟨-(500 / 87), 435, .discharge 50, false⟩ := by decide +kernel
  rw [command] at issued
  cases issued
  cases complete

end Iso15118.Secc.V20
