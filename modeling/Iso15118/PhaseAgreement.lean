import Iso15118.Evcc.V20.ReportedCharge
import Iso15118.Secc.V20.DiagnosticLoop

/-!
# The phases of a health test on both sides

The simulated battery and the health test of the SECC go through the same phases with the same
thresholds, the one by the true state of charge, the other by the rounded one that is reported.
In a charge loop of both sides, only rounding can bring the SECC to a threshold that the battery
has not reached.
-/

namespace Iso15118

open Effect Transition Rounding
open Shared Shared.V20
open Evcc (RealBatterySimulator)
open Evcc.V20 (EVCCSession InChargeLoop Reporting ReportsCharge)
open Secc.V20 (LoopState LoopInput issuedCommand activeTest updatedContext)

/-! ## The charge loop -/

/-- Both sides in a charge loop, with the request that the SECC has not processed yet. -/
structure TestedLoop where
  evcc : EVCCSession RealBatterySimulator
  inFlight : Option RequestMessage
  secc : LoopState BatteryHealthService

namespace TestedLoop

/-- The EVCC receives a message, or none, or the SECC receives the request. -/
inductive Event where
  | evcc (input : Option (Evcc.Received V2GMessage Evcc.V20.Answers))
  | secc (controlMode : Option ControlMode)

/-- The battery of the EV. -/
def battery (loop : TestedLoop) : RealBatterySimulator :=
  loop.evcc.world.controller

/-- The request of the charge loop that the SECC receives, for DC_BPT. -/
def received (loop : TestedLoop) : Event → Option LoopInput
  | .secc controlMode =>
      match loop.inFlight with
      | some ⟨_, .dcChargeLoopReq req⟩ => some ⟨req, .dcBpt, controlMode⟩
      | _ => none
  | .evcc _ => none

/-- The EVCC receives something once its request has been processed, as long as it is in the charge
loop. Another request than that of the loop leaves the test of the SECC as it is. -/
inductive Step : TestedLoop → Event → TestedLoop → Prop where
  | evcc {loop : TestedLoop} {input : Option (Evcc.Received V2GMessage Evcc.V20.Answers)}
      {next : EVCCSession RealBatterySimulator} {sends : Option RequestMessage}
      (answered : loop.inFlight = none) (inLoop : InChargeLoop loop.evcc.world.currentState.own)
      (taken : (Evcc.V20.machine RealBatterySimulator).Step loop.evcc input next)
      (sent : next.sent = sends.toList ++ loop.evcc.sent) :
      Step loop (.evcc input) ⟨next, sends, loop.secc⟩
  | loops {loop : TestedLoop} {controlMode : Option ControlMode} {input : LoopInput}
      {next : LoopState BatteryHealthService}
      (receives : loop.received (.secc controlMode) = some input)
      (cycle : Secc.V20.Cycle loop.secc input next) :
      Step loop (.secc controlMode) ⟨loop.evcc, none, next⟩
  | leaves {loop : TestedLoop} {controlMode : Option ControlMode}
      (sent : loop.inFlight.isSome = true)
      (other : loop.received (.secc controlMode) = none) :
      Step loop (.secc controlMode) ⟨loop.evcc, none, loop.secc⟩

/-- The EVCC is about to enter the charge loop with a test that is on, and the test of the SECC
charges. -/
structure Begins (loop : TestedLoop) : Prop where
  currentState : loop.evcc.world.currentState = { own := .powerDelivery }
  service : loop.evcc.world.session.selectedEnergyService.map SelectedEnergyService.service =
    some .dcBpt
  active : loop.battery.diagActive = true
  answered : loop.inFlight = none
  charges : ∀ test, activeTest loop.secc = some test → test.phase = .charge

/-! ## The law -/

/-- The test of the SECC discharges only if that of the EV does. -/
def PhasesAgree (loop : TestedLoop) : Prop :=
  ∀ test, activeTest loop.secc = some test → test.phase = .discharge →
    loop.battery.diagPhase = .discharge

/-- After a step, the phases agree, and the SECC has completed the test only if the battery has
come down to the cut-off. -/
structure NotAhead (loop : TestedLoop) (event : Event) (next : TestedLoop) : Prop where
  agree : next.PhasesAgree
  complete : ∀ input test cmd, loop.received event = some input →
    activeTest loop.secc = some test → issuedCommand loop.secc input = some cmd →
      cmd.testComplete = true → loop.battery.soc ≤ test.cutoff

/-- The state of charge that the SECC reads: the rounded one or, if that is zero, what it has from
before. -/
def heardSoc (loop : TestedLoop) : ℚ :=
  if roundHalfEven loop.battery.soc = 0 then
    BatteryHealthService.readSoc loop.secc.evDataContext loop.secc.registry.battery
  else roundHalfEven loop.battery.soc

/-- What the SECC reads of a battery that charges is below 100 %, and what it reads of one above
the cut-off is above it. -/
structure HeardRightly (loop : TestedLoop) (event : Event) (_ : TestedLoop) : Prop where
  charge : ∀ input test, loop.received event = some input → activeTest loop.secc = some test →
    test.phase = .charge → loop.battery.diagPhase = .charge → loop.heardSoc < 100
  discharge : ∀ input test, loop.received event = some input → activeTest loop.secc = some test →
    test.phase = .discharge → test.cutoff < loop.battery.soc → test.cutoff < loop.heardSoc

/-- What every step keeps that is not ahead. The request in flight reports the state of charge that
the battery still has. -/
structure Consistent (loop : TestedLoop) : Prop where
  reporting : Reporting loop.evcc
  reports : ∀ message, loop.inFlight = some message → ReportsCharge loop.battery message
  agree : loop.PhasesAgree

theorem Begins.consistent {loop : TestedLoop} (begins : Begins loop) : Consistent loop := by
  constructor
  · constructor
    · exact begins.active
    · intro _ message prepared
      rw [begins.currentState] at prepared
      cases prepared
  · intro message sent
    cases begins.answered.symm.trans sent
  · intro test active discharges
    cases (begins.charges test active).symm.trans discharges

/-! ## The cycle of the SECC -/

/-- The active test after a cycle of the registry. -/
theorem activeService_onCycle {registry registry' : ServiceRegistry BatteryHealthService}
    {context : Secc.EVDataContext} {evse evse' : Secc.EVSEDataContext}
    (cycle : registry.onCycle context evse = .ok (registry', evse')) :
    registry'.activeService =
      registry.activeService.map fun test => (test.onCycle context registry.battery).2 := by
  unfold ServiceRegistry.onCycle at cycle
  unfold ServiceRegistry.activeService
  cases active : registry.active with
  | none =>
      rw [active] at cycle
      cases cycle
      rw [active]
      rfl
  | some serviceId =>
      rw [active] at cycle
      dsimp only at cycle
      cases found : registry.service serviceId with
      | none =>
          rw [found] at cycle
          cases cycle
          rw [active]
          change registry.service serviceId = (registry.service serviceId).map _
          rw [found]
          rfl
      | some test =>
          rw [found] at cycle
          cases cycle
          have known : (registry.service serviceId).isSome = true := by
            rw [found]
            rfl
          have set := ServiceRegistry.service_setService known
            (test.onCycle context registry.battery).2
          rw [Option.bind_some, found]
          change registry.active.bind _ = _
          rw [active, Option.bind_some]
          exact set

/-- The health test after a cycle. -/
theorem activeTest_of_cycle {state next : LoopState BatteryHealthService} {input : LoopInput}
    {context : Secc.EVDataContext} (updated : updatedContext state input = .ok context)
    (cycle : Secc.V20.Cycle state input next) :
    activeTest next =
      (activeTest state).map fun test => (test.onCycle context state.registry.battery).2 := by
  simp only [Secc.V20.Cycle, Secc.V20.diagnosticHook, updated, Effect.bind_eq_ok_iff,
    Effect.pure_eq_ok_iff] at cycle
  obtain ⟨_, same, ⟨registry, evse⟩, cycled, rfl⟩ := cycle
  cases same
  exact activeService_onCycle cycled

section

variable {loop next : TestedLoop} {input : LoopInput} {context : Secc.EVDataContext}
  {controlMode : Option ControlMode}

/-- What the SECC receives is in flight. -/
theorem inFlight_of_received (receives : loop.received (.secc controlMode) = some input) :
    ∃ message, loop.inFlight = some message ∧
      message.request = .dcChargeLoopReq input.dcChargeLoopReq := by
  unfold received at receives
  dsimp only at receives
  split at receives
  next same =>
    cases receives
    exact ⟨_, same, rfl⟩
  · cases receives

/-- The SECC reads what the request in flight reports. -/
theorem readSoc_eq_heardSoc (consistent : Consistent loop)
    (receives : loop.received (.secc controlMode) = some input)
    (updated : updatedContext loop.secc input = .ok context) :
    BatteryHealthService.readSoc context loop.secc.registry.battery = loop.heardSoc := by
  have present := Secc.V20.updatedContext_presentSoc updated
  have reported : Secc.EVDataContext.reportedSoc input.dcChargeLoopReq =
      some (roundHalfEven loop.battery.soc) := by
    obtain ⟨message, sent, same⟩ := inFlight_of_received receives
    exact (consistent.reports message sent _ same).1
  rw [reported] at present
  unfold heardSoc
  split
  next zero =>
    rw [zero, Secc.V20.overwrite_zero] at present
    unfold BatteryHealthService.readSoc
    rw [present]
  next nonzero =>
    rw [Secc.V20.overwrite_of_ne_zero nonzero] at present
    exact Secc.V20.readSoc_of_presentSoc _ present nonzero

theorem updated_of_cycle {state after : LoopState BatteryHealthService}
    (cycle : Secc.V20.Cycle state input after) :
    ∃ context, updatedContext state input = .ok context := by
  simp only [Secc.V20.Cycle, Secc.V20.diagnosticHook, Effect.bind_eq_ok_iff] at cycle
  obtain ⟨context, updated, -⟩ := cycle
  exact ⟨context, updated⟩

/-- The phases agree after a cycle if what the SECC reads of a battery that charges is below
100 %. -/
theorem phasesAgree_cycle_iff (consistent : Consistent loop)
    (receives : loop.received (.secc controlMode) = some input)
    {after : LoopState BatteryHealthService} (cycle : Secc.V20.Cycle loop.secc input after) :
    PhasesAgree ⟨loop.evcc, none, after⟩ ↔
      ∀ test, activeTest loop.secc = some test → test.phase = .charge →
        loop.battery.diagPhase = .charge → loop.heardSoc < 100 := by
  obtain ⟨context, updated⟩ := updated_of_cycle cycle
  have reads := readSoc_eq_heardSoc consistent receives updated
  have switches (test : BatteryHealthService) (phase : test.phase = .charge) :
      (test.onCycle context loop.secc.registry.battery).2.phase = .discharge ↔
        100 ≤ loop.heardSoc := by
    rw [← reads]
    exact (BatteryHealthService.onCycle_of_charge context _ phase).1
  constructor
  · intro agree test active phase charges
    by_contra full
    have discharges := agree (test.onCycle context loop.secc.registry.battery).2
      (by rw [activeTest_of_cycle updated cycle, active]; rfl)
      ((switches test phase).mpr (not_lt.mp full))
    cases charges.symm.trans discharges
  · intro below test' active' discharges
    rw [activeTest_of_cycle updated cycle, Option.map_eq_some_iff] at active'
    obtain ⟨test, active, rfl⟩ := active'
    cases phase : test.phase with
    | charge =>
        have full := (switches test phase).mp discharges
        cases charges : loop.battery.diagPhase with
        | charge => exact absurd (below test active phase charges) (not_lt.mpr full)
        | discharge => exact charges
    | discharge => exact consistent.agree test active phase

/-- A cycle completes the test only of a battery at the cut-off if what the SECC reads of one above
it is above it too. -/
theorem complete_cycle_iff (consistent : Consistent loop)
    (receives : loop.received (.secc controlMode) = some input)
    {after : LoopState BatteryHealthService} (cycle : Secc.V20.Cycle loop.secc input after)
    {test : BatteryHealthService} (active : activeTest loop.secc = some test) :
    (∀ cmd, issuedCommand loop.secc input = some cmd → cmd.testComplete = true →
        loop.battery.soc ≤ test.cutoff) ↔
      (test.phase = .discharge → test.cutoff < loop.battery.soc → test.cutoff < loop.heardSoc) := by
  obtain ⟨context, updated⟩ := updated_of_cycle cycle
  have reads := readSoc_eq_heardSoc consistent receives updated
  rw [Secc.V20.issuedCommand_of_discharge updated active]
  cases phase : test.phase with
  | charge =>
      apply iff_of_true
      · rintro _ ⟨⟩ complete
        rw [(BatteryHealthService.onCycle_of_charge context _ phase).2] at complete
        cases complete
      · rintro ⟨⟩
  | discharge =>
      have completes := (BatteryHealthService.onCycle_of_discharge context
        loop.secc.registry.battery phase).2.1
      rw [reads] at completes
      constructor
      · intro completed _ above
        by_contra low
        have reached := completed _ rfl (by rw [completes]; exact decide_eq_true (not_lt.mp low))
        exact absurd reached (not_le.mpr above)
      · rintro above _ ⟨⟩ complete
        rw [completes, decide_eq_true_eq] at complete
        by_contra high
        exact absurd complete (not_le.mpr (above rfl (not_le.mp high)))

end

/-! ## Runs -/

theorem notAhead_iff {loop next : TestedLoop} {event : Event} (consistent : Consistent loop)
    (step : Step loop event next) :
    NotAhead loop event next ↔ HeardRightly loop event next := by
  cases step with
  | evcc answered inLoop taken sent =>
      have goesOn := Evcc.V20.Step.testGoesOn inLoop taken consistent.reporting.active
      apply iff_of_true
      · constructor
        · intro test active discharges
          exact goesOn.2 (consistent.agree test active discharges)
        · rintro _ _ _ ⟨⟩
      · constructor
        · rintro _ _ ⟨⟩
        · rintro _ _ ⟨⟩
  | @loops controlMode input after receives cycle =>
      have agrees := phasesAgree_cycle_iff consistent receives cycle
      have completes := fun (test : BatteryHealthService)
          (active : activeTest loop.secc = some test) =>
        complete_cycle_iff consistent receives cycle active
      constructor
      · intro notAhead
        constructor
        · intro input' test _ active
          exact agrees.mp notAhead.agree test active
        · intro input' test received active
          exact (completes test active).mp fun cmd issued =>
            notAhead.complete input test cmd receives active issued
      · intro rightly
        constructor
        · exact agrees.mpr fun test active => rightly.charge input test receives active
        · intro input' test cmd received active
          cases receives.symm.trans received
          exact (completes test active).mpr (rightly.discharge input test receives active) cmd
  | leaves sent other =>
      apply iff_of_true
      · constructor
        · exact consistent.agree
        · intro _ _ _ received
          cases other.symm.trans received
      · constructor
        · intro _ _ received
          cases other.symm.trans received
        · intro _ _ received
          cases other.symm.trans received

theorem Consistent.step {loop next : TestedLoop} {event : Event} (consistent : Consistent loop)
    (step : Step loop event next) (agree : next.PhasesAgree) : Consistent next := by
  cases step with
  | @evcc input session sends answered inLoop taken sent =>
      obtain ⟨reporting, reports⟩ := Evcc.V20.Step.reports consistent.reporting inLoop taken
      refine ⟨reporting, ?_, agree⟩
      rintro message rfl
      exact reports message sent
  | loops receives cycle =>
      refine ⟨consistent.reporting, ?_, agree⟩
      rintro _ ⟨⟩
  | leaves sent other =>
      refine ⟨consistent.reporting, ?_, agree⟩
      rintro _ ⟨⟩

/-- In a run of both sides, the SECC is never ahead of the battery exactly if it hears of no
threshold that the battery has not reached. -/
theorem run_notAhead_iff {start : TestedLoop} (begins : Begins start) (history : List Event)
    (loop : TestedLoop) :
    Run (Restrict Step NotAhead) start history loop ↔
      Run (Restrict Step HeardRightly) start history loop :=
  run_restrict_congr_of_invariant begins.consistent
    (fun _ _ _ consistent step notAhead => consistent.step step notAhead.agree)
    (fun _ _ _ consistent step => notAhead_iff consistent step)

/-! ## Runs of a test -/

/-- What both sides do with an event. -/
def after (loop : TestedLoop) : Event → TestedLoop
  | .evcc input =>
      let next := (Evcc.V20.machine RealBatterySimulator).rcv loop.evcc input
      ⟨next, if next.sent.length = loop.evcc.sent.length then none else next.sent.head?, loop.secc⟩
  | .secc controlMode =>
      match loop.received (.secc controlMode) with
      | some input => ⟨loop.evcc, none, Secc.V20.afterCycle loop.secc input⟩
      | none => ⟨loop.evcc, none, loop.secc⟩

theorem step_evcc {loop : TestedLoop}
    {input : Option (Evcc.Received V2GMessage Evcc.V20.Answers)} (answered : loop.inFlight = none)
    (inLoop : InChargeLoop loop.evcc.world.currentState.own) (goesOn : loop.evcc.ended = false) :
    Step loop (.evcc input) (loop.after (.evcc input)) := by
  have taken : (Evcc.V20.machine RealBatterySimulator).Step loop.evcc input
      ((Evcc.V20.machine RealBatterySimulator).rcv loop.evcc input) := ⟨goesOn, rfl⟩
  refine .evcc answered inLoop taken ?_
  obtain same | ⟨_, _, message, -, -, -, sent⟩ := taken.sent_eq_or
  · rw [same, if_pos rfl]
    rfl
  · rw [sent, if_neg (by simp)]
    rfl

theorem step_secc {loop : TestedLoop} {controlMode : Option ControlMode}
    (succeeds : (loop.received (.secc controlMode)).any
      (fun input => (Secc.V20.diagnosticHook loop.secc input).isOk) = true) :
    Step loop (.secc controlMode) (loop.after (.secc controlMode)) := by
  cases receives : loop.received (.secc controlMode) with
  | none =>
      rw [receives] at succeeds
      cases succeeds
  | some input =>
      rw [receives] at succeeds
      unfold after
      dsimp only
      rw [receives]
      exact .loops receives (Secc.V20.cycle_afterCycle succeeds)

theorem after_secc_inFlight (loop : TestedLoop) (controlMode : Option ControlMode) :
    (loop.after (.secc controlMode)).inFlight = none := by
  unfold after
  dsimp only
  split <;> rfl

/-- A test that discharges with ten amperes from some state of charge. -/
def tested (soc : ℚ) (clock : Nat → ℚ) : RealBatterySimulator where
  config := { supportedEnergyServices := [.dcBpt], diagnosticServiceId := some 101 }
  soc := soc
  seccMaxPowerW := some 10000
  diagActive := true
  diagDischargeIA := 10
  clock := clock

/-- A charge loop with the battery and the test that the SECC has selected. -/
def begun (battery : RealBatterySimulator) : TestedLoop where
  evcc :=
    { world :=
        { session :=
            { sessionId := "10"
              selectedEnergyService := some ⟨.dcBpt, true, ⟨1, []⟩⟩
              controlMode := some .scheduled }
          controller := battery
          currentState := { own := .powerDelivery }
          calls := [] } }
  inFlight := none
  secc := Secc.V20.testSelected

theorem begun_begins (soc : ℚ) (clock : Nat → ℚ) : Begins (begun (tested soc clock)) := by
  refine ⟨rfl, rfl, rfl, rfl, ?_⟩
  intro test active
  have phase : (activeTest Secc.V20.testSelected).map BatteryHealthService.phase =
      some .charge := by decide +kernel
  have active : activeTest Secc.V20.testSelected = some test := active
  rw [active] at phase
  exact Option.some.inj phase

/-- The EVCC receives the `PowerDeliveryRes`, and sends its first request of the loop. -/
def entersLoop : Event :=
  .evcc (Evcc.V20.Sample.response .powerDeliveryRes)

def goesOn : Event :=
  .evcc (Evcc.V20.Sample.response
    (.dcChargeLoopRes none (.bptScheduled ⟨⟨none, none, none, none⟩, none, none, none, none⟩)))

def cycles : Event :=
  .secc (some .scheduled)

theorem step_entersLoop (battery : RealBatterySimulator) :
    Step (begun battery) entersLoop ((begun battery).after entersLoop) :=
  step_evcc rfl (.inl rfl) rfl

theorem run_notAhead_half :
    Run (Restrict Step NotAhead) (begun (tested 50 fun _ => 0)) [cycles, entersLoop]
      (((begun (tested 50 fun _ => 0)).after entersLoop).after cycles) := by
  apply (run_notAhead_iff (begun_begins 50 _) _ _).mpr
  refine .step (.step .start ⟨step_entersLoop _, ?_⟩) ⟨step_secc (by decide +kernel), ?_⟩
  · constructor
    · rintro _ _ ⟨⟩
    · rintro _ _ ⟨⟩
  · have charges : (activeTest ((begun (tested 50 fun _ => 0)).after entersLoop).secc).map
        BatteryHealthService.phase = some .charge := by decide +kernel
    constructor
    · intro _ _ _ _ _ _
      decide +kernel
    · intro _ test _ active discharges
      rw [active] at charges
      cases discharges.symm.trans (Option.some.inj charges)

/-- A clock that shows the start first, and then the time at which a discharge with 5 kW has come
from 100 % to 20.4 %. -/
def later (reading : Nat) : ℚ :=
  if reading = 0 then 0 else 28656 / 100

/-- At 99.6 %, the SECC hears of 100 % and discharges while the battery charges. At 20.4 %, it hears
of 20 % and completes a test with the cut-off 20 %. -/
theorem secc_ahead :
    (∃ start before loop, Begins start ∧ Run Step start [entersLoop] before ∧
      Step before cycles loop ∧ before.battery.soc = 498 / 5 ∧
      (activeTest loop.secc).map BatteryHealthService.phase = some .discharge ∧
      loop.battery.diagPhase = .charge) ∧
    ∃ start before loop, Begins start ∧ Run Step start [goesOn, cycles, entersLoop] before ∧
      Step before cycles loop ∧ before.battery.soc = 102 / 5 ∧
      (activeTest before.secc).map BatteryHealthService.cutoff = some 20 ∧
      ((before.received cycles).bind (issuedCommand before.secc)).map
        CurrentCommand.testComplete = some true := by
  constructor
  · refine ⟨begun (tested (498 / 5) fun _ => 0), _, _, begun_begins _ _,
      .step .start (step_entersLoop _), step_secc (by decide +kernel), ?_⟩
    decide +kernel
  · refine ⟨begun (tested 100 later), _, _, begun_begins _ _,
      .step (.step (.step .start (step_entersLoop _)) (step_secc (by decide +kernel)))
        (step_evcc (after_secc_inFlight _ _) (.inr ?_) ?_),
      step_secc (by decide +kernel), ?_⟩
    · decide +kernel
    · decide +kernel
    · decide +kernel

end TestedLoop

end Iso15118
