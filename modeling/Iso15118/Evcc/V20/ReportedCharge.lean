import Iso15118.Evcc.Controller.DischargePhase
import Iso15118.Evcc.V20.ChargeLoopRequests

/-!
# What a charge loop reports of a diagnostic test

From `PowerDelivery` to the end of the charge loop, a test that is on stays on, and its discharge
is not left. A `DCChargeLoopReq` reports the rounded state of charge of the battery that sends it,
also where an earlier one is sent again because the state machine has been stopped.
-/

namespace Iso15118.Evcc

open Effect
open Iso15118.Shared
open Iso15118.Shared.V20
open Rounding

namespace RealBatterySimulator

/-- A test that is on stays on, and does not go back to its charge. -/
def KeepsTest (before after : RealBatterySimulator) : Prop :=
  before.diagActive = true →
    after.diagActive = true ∧ (before.diagPhase = .discharge → after.diagPhase = .discharge)

instance : IsPreorder RealBatterySimulator KeepsTest where
  refl _ active := ⟨active, id⟩
  trans _ _ _ first second active :=
    ⟨(second (first active).1).1, (second (first active).1).2 ∘ (first active).2⟩

theorem SameLive.keepsTest {before after : RealBatterySimulator} (live : SameLive before after) :
    KeepsTest before after :=
  fun active => ⟨live.active.trans active, live.phase.trans⟩

/-- A test that was on keeps its phase, or switches to the discharge. -/
theorem asked_keepsTest (battery : RealBatterySimulator) : KeepsTest battery battery.asked := by
  intro active
  constructor
  · exact (asked_active battery).trans active
  · intro phase
    exact (asked_phase (flips_of_discharge phase)).trans phase

theorem charged_keepsTest (battery : RealBatterySimulator) : KeepsTest battery battery.charged :=
  fun active => ⟨active, id⟩

/-- What a program leaves, it leaves of every battery. -/
theorem keepsTest_of_leaves {α : Type} {program : Method α}
    {live : RealBatterySimulator → RealBatterySimulator}
    (leaves : ∀ battery, Leaves program battery (live battery))
    (keeps : ∀ battery, KeepsTest battery (live battery)) : Keeps KeepsTest program := by
  constructor
  intro battery
  apply wp_mono _ _ (leaves battery)
  · exact fun _ _ same => IsTrans.trans _ _ _ (keeps battery) same.keepsTest
  · exact fun _ _ same => IsTrans.trans _ _ _ (keeps battery) same.keepsTest

/-- A method that ends in a known battery. -/
theorem keepsTest_of_endsIn {α : Type} {program : Method α}
    {final : RealBatterySimulator → RealBatterySimulator}
    (endsIn : ∀ battery, EndsIn program battery (final battery))
    (keeps : ∀ battery, KeepsTest battery (final battery)) : Keeps KeepsTest program :=
  keepsTest_of_leaves (fun battery => (endsIn battery).leaves) keeps

theorem continueCharging_keepsTest : Keeps KeepsTest continueCharging := by
  apply keepsTest_of_endsIn continueCharging_endsIn
  intro battery
  have asked := asked_keepsTest battery
  split
  · exact refl battery
  · split
    · exact asked
    · exact IsTrans.trans _ _ _ asked (charged_keepsTest _)

/-- A method after which the battery looks as before. -/
theorem keepsTest_of_live {α : Type} {program : Method α} (keeps : Keeps SameLive program) :
    Keeps KeepsTest program :=
  keepsTest_of_leaves (fun battery => .of_keeps keeps (sameLive_self battery)) refl

theorem processDynamicSeParams_keepsTest
    (dynamicParams : Option DynamicScheduleExchangeResParams) (pause : Option Bool) :
    Keeps KeepsTest (processDynamicSeParams dynamicParams pause) := by
  apply keepsTest_of_leaves (processDynamicSeParams_leaves dynamicParams pause)
  intro battery
  split
  · cases dynamicParams with
    | none => exact refl battery
    | some params => exact fun active => ⟨active, id⟩
  · exact refl battery

theorem getBptScheduledDcChargeLoopParams_keepsTest :
    Keeps KeepsTest getBptScheduledDcChargeLoopParams := by
  apply keepsTest_of_endsIn getBptScheduledDcChargeLoopParams_endsIn
  intro battery
  split
  · exact fun active => ⟨active, id⟩
  · exact charged_keepsTest battery

theorem getDisplayParams_keepsTest : Keeps KeepsTest getDisplayParams :=
  keepsTest_of_endsIn getDisplayParams_endsIn asked_keepsTest

/-- After it has been asked, a test that is on charges below 100 % only. -/
theorem asked_charge {battery : RealBatterySimulator} (active : battery.diagActive = true)
    (charges : battery.asked.diagPhase = .charge) : battery.asked.soc < 100 := by
  cases phase : battery.diagPhase with
  | charge =>
      rw [asked_soc]
      by_contra full
      unfold asked flips at charges
      simp [active, phase, not_lt.mp full] at charges
  | discharge =>
      have goesOn := (asked_keepsTest battery active).2 phase
      cases goesOn.symm.trans charges

/-- What is displayed is the rounded state of charge of a battery that has been asked. -/
theorem getDisplayParams_reports {battery next : RealBatterySimulator} {display : DisplayParameters}
    (returned : getDisplayParams battery = .ok display next) :
    next = battery.asked ∧ display.presentSoc = some (roundHalfEven next.soc) := by
  unfold getDisplayParams at returned
  rw [get_bind_apply, bind_apply, isChargingComplete_eq] at returned
  dsimp only at returned
  split at returned
  · cases returned
    rw [asked_soc]
    exact ⟨rfl, rfl⟩
  · cases returned

theorem getPresentVoltage_eq {battery next : RealBatterySimulator} {voltage : RationalNumber}
    (returned : getPresentVoltage battery = .ok voltage next) : next = battery := by
  unfold getPresentVoltage at returned
  rw [get_bind_apply] at returned
  cases answer : rational battery.computeVoltage with
  | ok value =>
      rw [answer] at returned
      cases returned
      rfl
  | error exception =>
      rw [answer] at returned
      cases returned

end RealBatterySimulator

namespace V20

/-! ## Programs -/

/-- What processing a message keeps of the test. -/
def TestGoesOn (before after : World RealBatterySimulator) : Prop :=
  before.controller.KeepsTest after.controller

instance : IsPreorder (World RealBatterySimulator) TestGoesOn where
  refl world := refl world.controller
  trans _ _ _ first second := IsTrans.trans (r := RealBatterySimulator.KeepsTest) _ _ _ first second

section

variable {α : Type}

theorem testGoesOn_ask {call : Call} {method : EStateM PyError RealBatterySimulator α}
    (keeps : Effect.Keeps RealBatterySimulator.KeepsTest method) :
    Effect.Keeps TestGoesOn (ask call method : Program RealBatterySimulator α) := by
  constructor
  intro world
  rw [wp_ask]
  exact keeps.related world.controller

theorem testGoesOn_messageHeader (signature : Option Signature) :
    Effect.Keeps TestGoesOn (messageHeader signature) :=
  keeps_bind keeps_get fun _ => keeps_bind (keeps_ofExcept _) fun _ => keeps_pure _

theorem testGoesOn_required (value : Option α) : Effect.Keeps TestGoesOn (required value) := by
  cases value with
  | none => exact keeps_throw _
  | some value => exact keeps_pure value

theorem testGoesOn_stopStateMachine :
    Effect.Keeps TestGoesOn
      (stopStateMachine Session.stopped : Program RealBatterySimulator PUnit) :=
  ⟨fun world => refl (r := RealBatterySimulator.KeepsTest) world.controller⟩

theorem testGoesOn_checkMsg (message : V2GMessage) (expected : ResponseMessage → Option α) :
    Effect.Keeps TestGoesOn
      (checkMsg message expected : Program RealBatterySimulator (Option α)) := by
  have stops : Effect.Keeps TestGoesOn (do
      stopStateMachine Session.stopped
      return none : Program RealBatterySimulator (Option α)) :=
    keeps_bind testGoesOn_stopStateMachine fun _ => keeps_pure _
  cases message with
  | request req => exact stops
  | response res =>
      unfold checkMsg Evcc.checkMsg
      dsimp only
      split
      · exact stops
      · apply keeps_bind keeps_get
        intro world
        split
        · exact stops
        · split
          · exact keeps_pure _
          · exact stops

theorem testGoesOn_prepare (nextState : Option (NextState StateName)) (message : RequestMessage)
    (timeout : ℚ) :
    Effect.Keeps TestGoesOn
      (prepare nextState message timeout : Program RealBatterySimulator PUnit) :=
  ⟨fun world => refl (r := RealBatterySimulator.KeepsTest) world.controller⟩

theorem testGoesOn_updateSession (change : Session → Session) :
    Effect.Keeps TestGoesOn (updateSession change : Program RealBatterySimulator PUnit) :=
  ⟨fun world => refl (r := RealBatterySimulator.KeepsTest) world.controller⟩

end

theorem testGoesOn_processSeParams (res : ScheduleExchangeRes) :
    Effect.Keeps TestGoesOn (processSeParams res : Program RealBatterySimulator _) := by
  apply keeps_bind keeps_get
  intro world
  split
  · exact testGoesOn_ask (RealBatterySimulator.keepsTest_of_live
      (RealBatterySimulator.processScheduledSeParams_live _ _))
  · exact testGoesOn_ask (RealBatterySimulator.processDynamicSeParams_keepsTest _ _)

theorem testGoesOn_buildPowerDeliveryReq :
    Effect.Keeps TestGoesOn (buildPowerDeliveryReq : Program RealBatterySimulator _) := by
  apply keeps_bind keeps_get
  intro world
  apply keeps_bind (testGoesOn_required _)
  intro res
  apply keeps_bind (testGoesOn_processSeParams res)
  rintro ⟨profile, chargeProgress⟩
  apply keeps_bind (testGoesOn_updateSession _)
  intro _
  apply keeps_bind (testGoesOn_required _)
  intro selected
  extract_lets rest
  have rest_keeps : ∀ channel, Effect.Keeps TestGoesOn (rest channel) := fun _ =>
    keeps_bind (testGoesOn_messageHeader _) fun _ => keeps_bind (keeps_ofExcept _) fun _ =>
      keeps_pure _
  split
  · split
    · exact keeps_bind (keeps_ofExcept _) fun _ => keeps_bind (keeps_pure _) rest_keeps
    · exact keeps_bind (keeps_pure _) rest_keeps
  · exact keeps_bind (keeps_pure _) rest_keeps

theorem testGoesOn_dcChargeLoopParams (service : ServiceV20) (controlMode : Option ControlMode) :
    Effect.Keeps TestGoesOn
      (dcChargeLoopParams service controlMode : Program RealBatterySimulator _) := by
  unfold dcChargeLoopParams
  split
  · apply keeps_bind _ fun _ => keeps_pure _
    exact testGoesOn_ask (RealBatterySimulator.keepsTest_of_endsIn
      RealBatterySimulator.getScheduledDcChargeLoopParams_endsIn
      RealBatterySimulator.charged_keepsTest)
  · apply keeps_bind _ fun _ => keeps_pure _
    exact testGoesOn_ask (RealBatterySimulator.keepsTest_of_endsIn
      RealBatterySimulator.getDynamicDcChargeLoopParams_endsIn
      RealBatterySimulator.charged_keepsTest)
  · apply keeps_bind _ fun _ => keeps_pure _
    exact testGoesOn_ask RealBatterySimulator.getBptScheduledDcChargeLoopParams_keepsTest
  · apply keeps_bind _ fun _ => keeps_pure _
    exact testGoesOn_ask (RealBatterySimulator.keepsTest_of_endsIn
      RealBatterySimulator.getBptDynamicDcChargeLoopParams_endsIn
      RealBatterySimulator.charged_keepsTest)
  · exact keeps_pure _

theorem testGoesOn_requestAcChargeLoop (service : ServiceV20) :
    Effect.Keeps TestGoesOn (requestAcChargeLoop service : Program RealBatterySimulator PUnit) := by
  apply keeps_bind keeps_get
  intro world
  apply keeps_bind
  · exact testGoesOn_ask (RealBatterySimulator.keepsTest_of_endsIn
      (RealBatterySimulator.getAcChargeLoopParamsV20_endsIn _ _)
      RealBatterySimulator.charged_keepsTest)
  intro params
  apply keeps_bind (testGoesOn_messageHeader _)
  intro header
  apply keeps_bind (testGoesOn_ask RealBatterySimulator.getDisplayParams_keepsTest)
  intro display
  apply keeps_bind (keeps_ofExcept _)
  intro params
  exact testGoesOn_prepare _ _ _

theorem testGoesOn_buildCurrentDemandData (service : ServiceV20) :
    Effect.Keeps TestGoesOn
      (buildCurrentDemandData service : Program RealBatterySimulator RequestMessage) := by
  apply keeps_bind keeps_get
  intro world
  apply keeps_bind (testGoesOn_dcChargeLoopParams service _)
  intro params
  apply keeps_bind (testGoesOn_messageHeader _)
  intro header
  apply keeps_bind (testGoesOn_ask RealBatterySimulator.getDisplayParams_keepsTest)
  intro display
  apply keeps_bind (testGoesOn_ask (RealBatterySimulator.keepsTest_of_live
    RealBatterySimulator.getPresentVoltage_live))
  intro voltage
  cases params with
  | some params => exact keeps_pure _
  | none => exact keeps_throw _

theorem testGoesOn_requestSessionStop (chargingSession : ChargingSession) :
    Effect.Keeps TestGoesOn
      (requestSessionStop chargingSession : Program RealBatterySimulator PUnit) :=
  keeps_bind (testGoesOn_messageHeader _) fun _ => testGoesOn_prepare _ _ _

theorem testGoesOn_enableCharging (enabled : Bool) :
    Effect.Keeps TestGoesOn
      (ask (.enableCharging enabled) (EVController.enableCharging enabled) :
        Program RealBatterySimulator PUnit) :=
  testGoesOn_ask (keeps_pure _)

theorem testGoesOn_powerDelivery_stop (selected : Option SelectedEnergyService)
    (chargingSession : ChargingSession) :
    Effect.Keeps TestGoesOn
      (PowerDelivery.stop selected chargingSession : Program RealBatterySimulator PUnit) := by
  apply keeps_bind (testGoesOn_enableCharging false)
  intro _
  apply keeps_bind (testGoesOn_required selected)
  intro selected
  split
  · exact keeps_bind (testGoesOn_messageHeader _) fun _ => testGoesOn_prepare _ _ _
  · exact testGoesOn_requestSessionStop chargingSession

theorem testGoesOn_onPowerDeliveryRes :
    Effect.Keeps TestGoesOn
      (PowerDelivery.onPowerDeliveryRes : Program RealBatterySimulator PUnit) := by
  apply keeps_bind keeps_get
  intro world
  split
  · exact keeps_bind testGoesOn_buildPowerDeliveryReq fun _ => testGoesOn_prepare _ _ _
  · split
    · exact testGoesOn_powerDelivery_stop _ _
    · exact testGoesOn_powerDelivery_stop _ _
    · apply keeps_bind (testGoesOn_required _)
      intro selected
      unfold PowerDelivery.enterChargeLoop
      split
      · exact testGoesOn_requestAcChargeLoop _
      · split
        · exact keeps_bind (testGoesOn_buildCurrentDemandData _) fun _ => testGoesOn_prepare _ _ _
        · exact keeps_pure _

theorem testGoesOn_stopV20Charging (renegotiateRequested : Bool) :
    Effect.Keeps TestGoesOn
      (stopV20Charging renegotiateRequested : Program RealBatterySimulator PUnit) :=
  keeps_bind (testGoesOn_messageHeader _) fun _ => keeps_bind (testGoesOn_prepare _ _ _) fun _ =>
    testGoesOn_updateSession _

theorem testGoesOn_onDCChargeLoopRes (evseStatus : Option EVSEStatus) :
    Effect.Keeps TestGoesOn
      (DCChargeLoop.onDCChargeLoopRes evseStatus : Program RealBatterySimulator PUnit) := by
  unfold DCChargeLoop.onDCChargeLoopRes chargeLoop
  cases evseStatus with
  | some status =>
      dsimp only
      split
      · exact testGoesOn_stopV20Charging true
      · exact testGoesOn_stopV20Charging false
      · exact keeps_throw _
  | none =>
      apply keeps_bind (testGoesOn_ask RealBatterySimulator.continueCharging_keepsTest)
      intro continues
      split
      · apply keeps_bind
        · exact keeps_tryCatch (testGoesOn_ask (keeps_pure _)) fun _ => keeps_pure _
        intro _
        apply keeps_bind keeps_get
        intro world
        apply keeps_bind (testGoesOn_required _)
        intro selected
        exact keeps_bind (testGoesOn_buildCurrentDemandData _) fun _ => testGoesOn_prepare _ _ _
      · exact testGoesOn_stopV20Charging false

/-! ## Requests -/

/-- A `DCChargeLoopReq` reports the rounded state of charge of the battery, which is below 100 %
as long as the test charges. -/
def ReportsCharge (battery : RealBatterySimulator) (message : RequestMessage) : Prop :=
  ∀ req, message.request = .dcChargeLoopReq req →
    req.displayParameters.bind DisplayParameters.presentSoc = some (roundHalfEven battery.soc) ∧
      (battery.diagPhase = .charge → battery.soc < 100)

theorem reportsCharge_of_elsewhere {battery : RealBatterySimulator} {message : RequestMessage}
    (elsewhere : Elsewhere message) : ReportsCharge battery message :=
  fun req same => absurd same (elsewhere req)

section

variable {world : World RealBatterySimulator}

/-- The request of the charge loop. -/
theorem buildCurrentDemandData_reports (active : world.controller.diagActive = true)
    (service : ServiceV20) :
    Ensures (fun _ => True) (buildCurrentDemandData service)
      (fun message after => ReportsCharge after.controller message) world := by
  apply ensures_get_bind
  unfold Ensures
  rw [wp_bind]
  apply wp_mono _ (fun _ _ _ => trivial) ((testGoesOn_dcChargeLoopParams service _).related world)
  intro params reached goesOn
  apply ensures_messageHeader
  intro header
  apply ensures_ask_eq_bind
  intro display controller displays
  obtain ⟨rfl, reports⟩ := RealBatterySimulator.getDisplayParams_reports displays
  apply ensures_ask_eq_bind
  intro voltage controller answers
  cases RealBatterySimulator.getPresentVoltage_eq answers
  cases params with
  | none => exact trivial
  | some params =>
      intro req same
      cases same
      exact ⟨reports, RealBatterySimulator.asked_charge (goesOn active).1⟩

/-! ## Iterations -/

theorem testGoesOn_processMessage (inLoop : InChargeLoop world.currentState.own)
    (answers : Answers) (message : V2GMessage) :
    wp (processMessage answers message) (fun _ after => TestGoesOn world after)
      (fun _ after => TestGoesOn world after) world := by
  unfold processMessage
  rw [wp_bind, wp_get]
  obtain own | own := inLoop
  · rw [own]
    refine Effect.Keeps.related (keeps_bind (testGoesOn_checkMsg _ _) fun checked => ?_) world
    cases checked with
    | none => exact keeps_pure _
    | some _ => exact testGoesOn_onPowerDeliveryRes
  · rw [own]
    refine Effect.Keeps.related (keeps_bind (testGoesOn_checkMsg _ _) fun checked => ?_) world
    cases checked with
    | none => exact keeps_pure _
    | some evseStatus => exact testGoesOn_onDCChargeLoopRes evseStatus

/-- A message that is prepared reports the state of charge. -/
theorem processMessage_reports (inLoop : InChargeLoop world.currentState.own)
    (active : world.controller.diagActive = true) (answers : Answers) (message : V2GMessage) :
    Ensures (fun _ => True) (processMessage answers message)
      (fun _ after => Prepares ReportsCharge message world after) world := by
  apply processMessage_prepares (fun _ _ => reportsCharge_of_elsewhere) inLoop
  · exact fun _ _ _ _ _ _ _ _ => buildCurrentDemandData_reports active _
  · rintro - _ _ - - - reached - ⟨middle, continues, waited⟩ _ -
    apply buildCurrentDemandData_reports
    have charging := RealBatterySimulator.continueCharging_keepsTest.of_reaches
      (.inl ⟨true, continues⟩)
    obtain ⟨_, done⟩ | ⟨_, failed⟩ := waited
    · cases done
      exact (charging active).1
    · cases failed

end

section

variable {session next : EVCCSession RealBatterySimulator}

/-- A session with a test that is on. A message that it could send again reports the present state
of charge. -/
structure Reporting (session : EVCCSession RealBatterySimulator) : Prop where
  active : session.world.controller.diagActive = true
  prepared : session.ended = false → ∀ message,
    session.world.currentState.nextV2gtpMsg = some message →
      ReportsCharge session.world.controller message

/-- After an iteration, the controller is as processing the message has left it. -/
theorem Step.controller {received : Received V2GMessage Answers}
    (step : (machine RealBatterySimulator).Step session (some received) next) :
    ∃ reached, Reaches ((machine RealBatterySimulator).processMessage received) session.world
        reached ∧ next.world.controller = reached.controller := by
  obtain ⟨reached, reaches, same | ⟨informed, updated, same | ⟨name, -, same⟩⟩⟩ := step.reaches
  · exact ⟨reached, reaches, congrArg World.controller same⟩
  · obtain ⟨_, updated⟩ | ⟨_, failed⟩ := updated
    · cases updated
      exact ⟨reached, reaches, congrArg World.controller same⟩
    · cases failed
  · obtain ⟨_, updated⟩ | ⟨_, failed⟩ := updated
    · cases updated
      refine ⟨reached, reaches, ?_⟩
      rw [same]
      rfl
    · cases failed

theorem Step.testGoesOn (inLoop : InChargeLoop session.world.currentState.own)
    {input : Option (Received V2GMessage Answers)}
    (step : (machine RealBatterySimulator).Step session input next) :
    TestGoesOn session.world next.world := by
  cases input with
  | none =>
      obtain ⟨-, rfl⟩ := step
      exact refl session.world
  | some received =>
      obtain ⟨reached, reaches, same⟩ := Step.controller step
      have keeps : wp (processMessage received.answers received.message)
          (fun _ after => TestGoesOn session.world after)
          (fun _ after => TestGoesOn session.world after) { session.world with calls := [] } :=
        testGoesOn_processMessage (by exact inLoop) received.answers received.message
      have goesOn : TestGoesOn session.world reached := Reaches.post reaches keeps
      unfold TestGoesOn
      rw [same]
      exact goesOn

/-- What is sent in an iteration reports the state of charge that it leaves. -/
theorem Step.reports (reporting : Reporting session)
    (inLoop : InChargeLoop session.world.currentState.own)
    {input : Option (Received V2GMessage Answers)}
    (step : (machine RealBatterySimulator).Step session input next) :
    Reporting next ∧ ∀ message, next.sent = message :: session.sent →
      ReportsCharge next.world.controller message := by
  have goesOn := Step.testGoesOn inLoop step
  have tells : ∀ received reached,
      (machine RealBatterySimulator).processMessage received session.world = .ok ⟨⟩ reached →
        ∀ message, reached.currentState.nextV2gtpMsg = some message →
          ReportsCharge reached.controller message := by
    intro received reached processed message prepared
    have processed : processMessage received.answers received.message
        { session.world with calls := [] } = .ok ⟨⟩ reached := processed
    have prepares := post_of_eq_ok (processMessage_reports (by exact inLoop)
      (by exact reporting.active) received.answers received.message) processed
    cases prepares with
    | refuses _ controller kept | silent _ controller kept =>
        rw [controller]
        exact reporting.prepared step.1 message (kept.symm.trans prepared)
    | prepares _ request _ _ prepared' reports =>
        cases prepared.symm.trans prepared'
        exact reports
  constructor
  · constructor
    · exact (goesOn reporting.active).1
    · intro continues message prepared
      obtain ⟨received, reached, informed, sent, rfl, processed, ready, updated, -, leads⟩ :=
        step.continues continues
      cases updated
      obtain ⟨-, same⟩ | ⟨name, -, same⟩ := leads
      · rw [same] at prepared ⊢
        exact tells received reached processed message prepared
      · rw [same] at prepared
        cases prepared
  · intro message sent
    obtain same | ⟨received, reached, message', rfl, processed, prepared, sent'⟩ := step.sent_eq_or
    · rw [same] at sent
      exact absurd sent.symm (List.cons_ne_self _ _)
    · cases sent.symm.trans sent'
      obtain ⟨reached', reaches, same⟩ := Step.controller step
      obtain ⟨_, processed'⟩ | ⟨_, failed⟩ := reaches
      · cases processed.symm.trans processed'
        rw [same]
        exact tells received reached processed message prepared
      · cases processed.symm.trans failed

end

end V20

end Iso15118.Evcc
