import Iso15118.Evcc.Controller.ChargeTargets
import Iso15118.Evcc.V20.PreCharge
import Iso15118.Evcc.V20.Progress
import Iso15118.Evcc.V20.ReportedCharge

/-!
# The limits of the SECC in the charge loop

What a scheduled request of the charge loop asks for is made of the power that is in force and of
the voltage of the battery. The limits of current and voltage that the SECC advertises are stored
at most, those of the charge loop and those of a discharge not even that, so that a request respects
them where the battery does by itself.
-/

namespace Iso15118.Evcc

open Effect Transition
open Iso15118.Shared
open Iso15118.Shared.V20
open Rounding

/-- The limits after a message. -/
def Advertised.receive (advertised : Advertised) : V2GMessage → Advertised
  | .response ⟨_, _, .dcChargeParameterDiscoveryRes res⟩ => advertised.parameters res
  | .response ⟨_, _, .dcChargeLoopRes _ params⟩ => advertised.loop params
  | _ => advertised

namespace RealBatterySimulator

/-- Where the battery is to go on charging, it was not complete, and it has been asked and brought
up to date. -/
theorem continueCharging_eq {battery next : RealBatterySimulator}
    (goesOn : continueCharging battery = .ok true next) :
    battery.chargingIsCompleted = false ∧ battery.complete = false ∧
      next = battery.asked.charged := by
  unfold continueCharging at goesOn
  rw [get_bind_apply] at goesOn
  cases completed : battery.chargingIsCompleted with
  | true =>
      rw [completed] at goesOn
      cases goesOn
  | false =>
      rw [completed] at goesOn
      simp only [Bool.false_eq_true, ↓reduceIte] at goesOn
      rw [bind_apply, isChargingComplete_eq] at goesOn
      dsimp only at goesOn
      cases complete : battery.complete with
      | true =>
          rw [complete] at goesOn
          cases goesOn
      | false =>
          rw [complete] at goesOn
          cases goesOn
          exact ⟨rfl, rfl, rfl⟩

end RealBatterySimulator

namespace V20

/-! ## Requests -/

/-- What a scheduled request of the charge loop asks for, and whether it is for a bidirectional
energy service. -/
def scheduledTarget (message : RequestMessage) : Option (Bool × Target) :=
  match message.request with
  | .dcChargeLoopReq req =>
      match req.params with
      | .scheduled params => some (false, RealBatterySimulator.targetOf params)
      | .bptScheduled params =>
          some (true, RealBatterySimulator.targetOf params.toScheduledDCChargeLoopReqParams)
      | _ => none
  | _ => none

theorem scheduledTarget_of_elsewhere {message : RequestMessage} (elsewhere : Elsewhere message) :
    scheduledTarget message = none := by
  obtain ⟨header, request⟩ := message
  cases request with
  | dcChargeLoopReq req => exact absurd rfl (elsewhere req)
  | _ => rfl

/-- A request in the scheduled mode asks for what the battery gives. -/
structure AsksFor (service : ServiceV20) (controlMode : Option ControlMode)
    (battery : RealBatterySimulator) (bpt : Bool) (target : Target) : Prop where
  service : service = if bpt then .dcBpt else .dc
  scheduled : controlMode = some .scheduled
  target : target = battery.target bpt

/-- The scheduled parameters of a request ask for what the battery gives, which they leave with the
state of charge that it is reported with. -/
def ParamsAskFor (service : ServiceV20) (controlMode : Option ControlMode)
    (battery after : RealBatterySimulator) : Option DCChargeLoopReqParams → Prop
  | some (.scheduled params) =>
      AsksFor service controlMode battery false (RealBatterySimulator.targetOf params) ∧
        after.soc = battery.reportedSoc false
  | some (.bptScheduled params) =>
      AsksFor service controlMode battery true
          (RealBatterySimulator.targetOf params.toScheduledDCChargeLoopReqParams) ∧
        after.soc = battery.reportedSoc true
  | _ => True

section

variable {world : World RealBatterySimulator}

theorem dcChargeLoopParams_askFor (service : ServiceV20) (controlMode : Option ControlMode) :
    Ensures (fun _ => True) (dcChargeLoopParams service controlMode)
      (fun params after =>
        ParamsAskFor service controlMode world.controller after.controller params) world := by
  unfold dcChargeLoopParams
  split
  · apply ensures_ask_eq_bind
    intro params controller answered
    have asks := post_of_eq_ok
      (RealBatterySimulator.getScheduledDcChargeLoopParams_target world.controller) answered
    have left := post_of_eq_ok
      (RealBatterySimulator.getScheduledDcChargeLoopParams_endsIn world.controller) answered
    exact ⟨⟨rfl, rfl, asks⟩, congrArg RealBatterySimulator.soc left.symm⟩
  · apply ensures_ask_eq_bind
    exact fun _ _ _ => trivial
  · apply ensures_ask_eq_bind
    intro params controller answered
    have asks := post_of_eq_ok
      (RealBatterySimulator.getBptScheduledDcChargeLoopParams_target world.controller) answered
    have left := post_of_eq_ok
      (RealBatterySimulator.getBptScheduledDcChargeLoopParams_endsIn world.controller) answered
    refine ⟨⟨rfl, rfl, asks⟩, ?_⟩
    rw [← left, apply_ite RealBatterySimulator.soc]
    rfl
  · apply ensures_ask_eq_bind
    exact fun _ _ _ => trivial
  · exact trivial

/-- The request is sent with the state of charge, which is a percentage. -/
theorem buildCurrentDemandData_asksFor (service : ServiceV20) :
    Ensures (fun _ => True) (buildCurrentDemandData service)
      (fun message _ => ∀ bpt target, scheduledTarget message = some (bpt, target) →
        AsksFor service world.session.controlMode world.controller bpt target ∧
          SocRange (some (roundHalfEven (world.controller.reportedSoc bpt)))) world := by
  apply ensures_get_bind
  apply ensures_bind (dcChargeLoopParams_askFor service _)
  intro params reached asks
  apply ensures_messageHeader
  intro header
  apply ensures_ask_eq_bind
  intro display controller displays
  obtain ⟨rfl, reports⟩ := RealBatterySimulator.getDisplayParams_reports displays
  rw [RealBatterySimulator.asked_soc] at reports
  have range := display.presentSoc_range
  rw [reports] at range
  apply ensures_ask_eq_bind
  intro voltage controller _
  cases params with
  | none => exact trivial
  | some params =>
      intro bpt target same
      cases params with
      | scheduled params =>
          cases same
          rw [asks.2] at range
          exact ⟨asks.1, range⟩
      | bptScheduled params =>
          cases same
          rw [asks.2] at range
          exact ⟨asks.1, range⟩
      | dynamic params => cases same
      | bptDynamic params => cases same

end

/-- The battery that a request of the charge loop is built from. -/
def atRequest (own : Own) (battery : RealBatterySimulator) : RealBatterySimulator :=
  match own with
  | .dcChargeLoop => battery.asked.charged
  | _ => battery

/-- The response makes the EVCC enter the charge loop, or go on in it with a battery that is not
complete. -/
inductive LoopGoesOn (session : Session) (battery : RealBatterySimulator) : Own → Response → Prop
  | enters (processed : session.evProcessing ≠ .ongoing)
      (stays : session.chargingSessionStopV20 ∈ [none, some .pause]) :
      LoopGoesOn session battery .powerDelivery .powerDeliveryRes
  | goesOn (params : DCChargeLoopResParams) (charging : battery.chargingIsCompleted = false)
      (incomplete : battery.complete = false) :
      LoopGoesOn session battery .dcChargeLoop (.dcChargeLoopRes none params)

/-- The state accepts the response and goes on to the charge loop of direct current, in the
scheduled mode. -/
structure GoesOnScheduled (world : World RealBatterySimulator) (res : ResponseMessage)
    (bpt : Bool) : Prop where
  accepts : Accepts world.currentState.own res world.session
  loop : LoopGoesOn world.session world.controller world.currentState.own res.response
  selects : ∃ selected, world.session.selectedEnergyService = some selected ∧
    selected.service = if bpt then .dcBpt else .dc
  scheduled : world.session.controlMode = some .scheduled

/-- A scheduled request follows such a response, and asks for what the battery gives. -/
def BuiltFor (world : World RealBatterySimulator) (message : V2GMessage)
    (request : RequestMessage) : Prop :=
  ∀ bpt target, scheduledTarget request = some (bpt, target) →
    ∃ res, message = .response res ∧ GoesOnScheduled world res bpt ∧
      target = (atRequest world.currentState.own world.controller).target bpt ∧
      SocRange (some (roundHalfEven
        ((atRequest world.currentState.own world.controller).reportedSoc bpt)))

theorem processMessage_builtFor {world : World RealBatterySimulator}
    (inLoop : InChargeLoop world.currentState.own) (answers : Answers) (message : V2GMessage) :
    Ensures (fun _ => True) (processMessage answers message)
      (fun _ after => Prepares (fun _ => BuiltFor world message) message world after) world := by
  apply processMessage_prepares _ inLoop
  · intro own res response accepts processed stays selected selects
    apply wp_mono _ (fun _ _ => id) (buildCurrentDemandData_asksFor selected.service)
    intro request _ asks bpt target same
    obtain ⟨asksFor, range⟩ := asks bpt target same
    have loop :
        LoopGoesOn world.session world.controller world.currentState.own res.response := by
      have expected := accepts.expected
      rw [own] at expected ⊢
      cases answered : res.response <;> rw [answered] at expected <;> try exact expected.elim
      exact .enters processed stays
    refine ⟨res, response, ⟨accepts, loop, ⟨selected, selects, asksFor.service⟩,
      asksFor.scheduled⟩, ?_⟩
    rw [own]
    exact ⟨asksFor.target, range⟩
  · rintro own res params response accepts answered reached session ⟨middle, continues, waited⟩
      selected selects
    obtain ⟨charging, incomplete, left⟩ := RealBatterySimulator.continueCharging_eq continues
    have same : reached.controller = world.controller.asked.charged := by
      rw [← left]
      obtain ⟨_, done⟩ | ⟨_, failed⟩ := waited
      · cases done
        rfl
      · cases failed
    apply wp_mono _ (fun _ _ => id) (buildCurrentDemandData_asksFor selected.service)
    intro request _ asks bpt target asked
    obtain ⟨asksFor, range⟩ := asks bpt target asked
    rw [session, same] at asksFor
    rw [same] at range
    have loop :
        LoopGoesOn world.session world.controller world.currentState.own res.response := by
      rw [own, answered]
      exact .goesOn params charging incomplete
    refine ⟨res, response, ⟨accepts, loop, ⟨selected, selects, asksFor.service⟩,
      asksFor.scheduled⟩, ?_⟩
    rw [own]
    exact ⟨asksFor.target, range⟩
  · intro _ message elsewhere bpt target asks
    rw [scheduledTarget_of_elsewhere elsewhere] at asks
    cases asks

/-! ## Messages that are kept -/

/-- Messages that are kept to be sent again are no requests of the charge loop, except for that of
`DCChargeLoop`. -/
structure KeepsElsewhere (world : World RealBatterySimulator) : Prop where
  authorization : ∀ message, world.session.authorizationReqMessage = some message →
    Elsewhere message
  schedules : ∀ message, world.session.ongoingScheduleExchangeReq = some message →
    Elsewhere message
  prepared : world.currentState.own ≠ .dcChargeLoop → ∀ message,
    world.currentState.nextV2gtpMsg = some message → Elsewhere message

/-- Only `PowerDelivery` and `DCChargeLoop` make a request of the charge loop, which the latter
alone keeps. -/
theorem Row.elsewhere {contract : Contract} {own : Own} {response : Response} {session : Session}
    {turn : Turn} (row : Row contract own response session turn)
    (authorization : ∀ message, session.authorizationReqMessage = some message → Elsewhere message)
    (schedules : ∀ message, session.ongoingScheduleExchangeReq = some message →
      Elsewhere message) :
    (∀ message, turn.session.authorizationReqMessage = some message → Elsewhere message) ∧
      (∀ message, turn.session.ongoingScheduleExchangeReq = some message → Elsewhere message) ∧
      (turn.request = none → own ≠ .dcChargeLoop) ∧
      ∀ header request, turn.request = some request →
        Elsewhere ⟨header, request⟩ ∨ own = .dcChargeLoop ∧ turn.own = .dcChargeLoop ∨
          own = .powerDelivery ∧ turn.nextState = some (.state .dcChargeLoop) := by
  cases row
  case authorize =>
    refine ⟨?_, schedules, ?_, ?_⟩
    · rintro _ ⟨⟩ _ ⟨⟩
    · rintro ⟨⟩
    · rintro _ _ ⟨⟩
      exact .inl (by rintro _ ⟨⟩)
  case repeatAuthorization cached _ caches =>
    refine ⟨authorization, schedules, ?_, ?_⟩
    · rintro ⟨⟩
    · rintro _ _ ⟨⟩
      exact .inl (authorization cached caches)
  case acExchangeSchedules | dcExchangeSchedules =>
    refine ⟨authorization, ?_, ?_, ?_⟩
    · rintro _ ⟨⟩ _ ⟨⟩
    · rintro ⟨⟩
    · rintro _ _ ⟨⟩
      exact .inl (by rintro _ ⟨⟩)
  case repeatScheduleExchange =>
    refine ⟨authorization, schedules, ?_, ?_⟩
    · rintro _ ⟨⟩
    · intro header request same
      obtain ⟨message, kept, rfl⟩ := Option.map_eq_some_iff.mp same
      exact .inl (schedules message kept)
  case dcEnterChargeLoop =>
    refine ⟨authorization, schedules, ?_, fun _ _ _ => .inr (.inr ⟨rfl, rfl⟩)⟩
    rintro ⟨⟩
  case dcChargeLoop =>
    refine ⟨authorization, schedules, ?_, fun _ _ _ => .inr (.inl ⟨rfl, rfl⟩)⟩
    rintro ⟨⟩
  all_goals
    refine ⟨authorization, schedules, ?_, ?_⟩
    · rintro _ ⟨⟩ <;> contradiction
    · intro header request same
      cases same <;> exact .inl (by rintro _ ⟨⟩)

section

variable {session next : EVCCSession RealBatterySimulator}

theorem Starts.keepsElsewhere (starts : Starts session) : KeepsElsewhere session.world := by
  obtain ⟨points, sessionId, fresh⟩ := starts.fresh
  constructor
  · rw [fresh]
    rintro _ ⟨⟩
  · rw [fresh]
    rintro _ ⟨⟩
  · rw [starts.currentState]
    rintro _ _ ⟨⟩

/-- After a turn only `DCChargeLoop` keeps a request of the charge loop. -/
theorem Turn.Leads.keepsElsewhere {turn : Turn} {before after : World RealBatterySimulator}
    (leads : turn.Leads before after) (stays : after.currentState.nextState = none)
    (silent : turn.request = none → before.currentState.own ≠ .dcChargeLoop)
    (requests : ∀ header request, turn.request = some request →
      Elsewhere ⟨header, request⟩ ∨ before.currentState.own = .dcChargeLoop ∧
          turn.own = .dcChargeLoop ∨
        before.currentState.own = .powerDelivery ∧ turn.nextState = some (.state .dcChargeLoop))
    (keeps : KeepsElsewhere before) (other : after.currentState.own ≠ .dcChargeLoop)
    (message : RequestMessage) (prepared : after.currentState.nextV2gtpMsg = some message) :
    Elsewhere message := by
  cases requested : turn.request with
  | none =>
      rw [leads.silent requested] at prepared
      exact keeps.prepared (silent requested) message prepared
  | some request =>
      obtain ⟨header, prepared'⟩ := leads.prepares request requested
      cases prepared.symm.trans prepared'
      obtain elsewhere | ⟨-, same⟩ | ⟨-, goes⟩ := requests header request requested
      · exact elsewhere
      · exact absurd (leads.own.trans same) other
      · cases (leads.nextState.symm.trans stays).symm.trans goes

theorem GoesOnTo.keepsElsewhere {contract : Contract} {message : V2GMessage}
    {after : World RealBatterySimulator} (goesOn : GoesOnTo session after next)
    (reacts : Reacts contract message session.world after) (keeps : KeepsElsewhere session.world) :
    KeepsElsewhere next.world := by
  have prepared : (after.currentState.nextState = none → after.currentState.own ≠ .dcChargeLoop →
      ∀ message, after.currentState.nextV2gtpMsg = some message → Elsewhere message) →
        next.world.currentState.own ≠ .dcChargeLoop → ∀ message,
          next.world.currentState.nextV2gtpMsg = some message → Elsewhere message := by
    intro stays
    obtain ⟨idle, same⟩ | ⟨name, -, same⟩ := goesOn.leads
    · rw [same]
      exact stays idle
    · rw [same]
      rintro _ _ ⟨⟩
  cases reacts with
  | answers res turn response accepts row leads =>
      obtain ⟨authorization, schedules, silent, requests⟩ :=
        row.elsewhere keeps.authorization keeps.schedules
      constructor
      · rw [goesOn.session, leads.session]
        exact authorization
      · rw [goesOn.session, leads.session]
        exact schedules
      · exact prepared fun stays => leads.keepsElsewhere stays silent requests keeps
  | refuses _ session currentState =>
      obtain ⟨idle, -⟩ | ⟨name, goes, -⟩ := goesOn.leads
      · rw [currentState] at idle
        cases idle
      · rw [currentState] at goes
        cases goes
  | detectsWelding complete turn own row leads =>
      have sameSession : turn.session.authorizationReqMessage =
            session.world.session.authorizationReqMessage ∧
          turn.session.ongoingScheduleExchangeReq =
            session.world.session.ongoingScheduleExchangeReq := by
        cases row <;> exact ⟨rfl, rfl⟩
      constructor
      · rw [goesOn.session, leads.session, sameSession.1]
        exact keeps.authorization
      · rw [goesOn.session, leads.session, sameSession.2]
        exact keeps.schedules
      · apply prepared
        intro stays
        apply leads.keepsElsewhere stays _ _ keeps
        · rw [own]
          rintro _ ⟨⟩
        · intro header request requested
          left
          cases row <;> cases requested <;> rintro _ ⟨⟩

theorem keepsElsewhere_of_run {start : EVCCSession RealBatterySimulator}
    {history : List (Option (Received V2GMessage Answers))} (starts : Starts start)
    (run : Run (machine RealBatterySimulator).Step start history session)
    (goesOn : session.ended = false) :
    session.world.currentState.nextState = none ∧ KeepsElsewhere session.world :=
  run_invariant (keeps_any RealBatterySimulator) starts starts.keepsElsewhere
    (fun _ _ _ _ _ keeps reacts goes => goes.keepsElsewhere reacts keeps) run goesOn

end

/-! ## Iterations -/

/-- The EVCC, and what the SECC has advertised to it. -/
structure LimitedSession where
  evcc : EVCCSession RealBatterySimulator
  advertised : Advertised := {}

namespace LimitedSession

/-- An iteration of the EVCC, which may receive limits. -/
def Step (session : LimitedSession) (input : Option (Received V2GMessage Answers))
    (next : LimitedSession) : Prop :=
  (machine RealBatterySimulator).Step session.evcc input next.evcc ∧
    next.advertised = (input.map Received.message).elim session.advertised
      session.advertised.receive

/-- A scheduled request that is sent in an iteration is within the limits that have been advertised
last. -/
def RespectsLimits (session : LimitedSession) (_ : Option (Received V2GMessage Answers))
    (next : LimitedSession) : Prop :=
  ∀ message bpt target, next.evcc.sent = message :: session.evcc.sent →
    scheduledTarget message = some (bpt, target) → target.Within next.advertised

/-- The response is accepted by the state that waits for it. -/
def AcceptsInput (session : LimitedSession) (received : Received V2GMessage Answers) : Prop :=
  ∃ res, received.message = .response res ∧
    Accepts session.evcc.world.currentState.own res session.evcc.world.session

/-- Where the charge loop goes on, the battery fits the limits by itself. And a message that the
charge loop does not accept makes no limit lower. -/
structure LimitsFit (session : LimitedSession) (input : Option (Received V2GMessage Answers))
    (_ : LimitedSession) : Prop where
  goesOn : ∀ received res bpt, input = some received → received.message = .response res →
    GoesOnScheduled session.evcc.world res bpt →
      (atRequest session.evcc.world.currentState.own session.evcc.world.controller).FitsLimits bpt
        (session.advertised.receive received.message)
  refused : ∀ received, input = some received →
    session.evcc.world.currentState.own = .dcChargeLoop → ¬session.AcceptsInput received →
      session.advertised.KeptBy (session.advertised.receive received.message)

section

variable {session next : LimitedSession} {received : Received V2GMessage Answers}
  {reached : World RealBatterySimulator} {message : RequestMessage}

/-- Outside of the charge loop no request of it is sent. -/
theorem elsewhere_of_outside (idle : session.evcc.world.currentState.nextState = none)
    (keeps : KeepsElsewhere session.evcc.world)
    (outside : ¬InChargeLoop session.evcc.world.currentState.own)
    (processed : (machine RealBatterySimulator).processMessage received session.evcc.world =
      .ok ⟨⟩ reached)
    (prepared : reached.currentState.nextV2gtpMsg = some message) : Elsewhere message := by
  have kept : session.evcc.world.currentState.nextV2gtpMsg = some message → Elsewhere message :=
    keeps.prepared (fun own => outside (.inr own)) message
  have reacts := post_of_eq_ok (machine_reacts (keeps_any RealBatterySimulator) idle received)
    processed
  cases reacts with
  | answers res turn response accepts row leads =>
      obtain ⟨-, -, -, requests⟩ := row.elsewhere keeps.authorization keeps.schedules
      cases requested : turn.request with
      | none => exact kept ((leads.silent requested).symm.trans prepared)
      | some request =>
          obtain ⟨header, prepared'⟩ := leads.prepares request requested
          cases prepared.symm.trans prepared'
          obtain elsewhere | ⟨own, -⟩ | ⟨own, -⟩ := requests header request requested
          · exact elsewhere
          · exact absurd (.inr own) outside
          · exact absurd (.inl own) outside
  | refuses _ _ currentState =>
      rw [currentState] at prepared
      exact kept prepared
  | detectsWelding complete turn own row leads =>
      cases requested : turn.request with
      | none => exact kept ((leads.silent requested).symm.trans prepared)
      | some request =>
          obtain ⟨header, prepared'⟩ := leads.prepares request requested
          cases prepared.symm.trans prepared'
          cases row <;> cases requested <;> rintro _ ⟨⟩

/-- A scheduled request is one that has been built for the response, or the one from before if
`DCChargeLoop` does not accept the message. -/
theorem target_of_prepared (idle : session.evcc.world.currentState.nextState = none)
    (keeps : KeepsElsewhere session.evcc.world)
    (processed : (machine RealBatterySimulator).processMessage received session.evcc.world =
      .ok ⟨⟩ reached)
    (prepared : reached.currentState.nextV2gtpMsg = some message) {bpt : Bool} {target : Target}
    (asks : scheduledTarget message = some (bpt, target)) :
    (∃ res, received.message = .response res ∧ GoesOnScheduled session.evcc.world res bpt ∧
      ∀ advertised, target.Within advertised ↔
        (atRequest session.evcc.world.currentState.own
          session.evcc.world.controller).FitsLimits bpt advertised) ∨
      session.evcc.world.currentState.own = .dcChargeLoop ∧ ¬session.AcceptsInput received ∧
        session.evcc.world.currentState.nextV2gtpMsg = some message := by
  have inside : ¬Elsewhere message := by
    intro elsewhere
    cases (scheduledTarget_of_elsewhere elsewhere).symm.trans asks
  have inLoop : InChargeLoop session.evcc.world.currentState.own := by
    by_contra outside
    exact inside (elsewhere_of_outside idle keeps outside processed prepared)
  have kept_of (same : session.evcc.world.currentState.nextV2gtpMsg = some message) :
      session.evcc.world.currentState.own = .dcChargeLoop := by
    by_contra other
    exact inside (keeps.prepared other message same)
  have processed : processMessage received.answers received.message
      { session.evcc.world with calls := [] } = .ok ⟨⟩ reached := processed
  have prepares := post_of_eq_ok
    (processMessage_builtFor (by exact inLoop) received.answers received.message) processed
  cases prepares with
  | refuses refused _ kept =>
      have same := kept.symm.trans prepared
      exact .inr ⟨kept_of same, refused, same⟩
  | silent own _ kept =>
      have own : session.evcc.world.currentState.own = .powerDelivery := own
      cases own.symm.trans (kept_of (kept.symm.trans prepared))
  | prepares res request response accepts prepared' builtFor =>
      cases prepared.symm.trans prepared'
      obtain ⟨res, response, goesOn, rfl, range⟩ := builtFor bpt target asks
      exact .inl ⟨res, response,
        ⟨goesOn.accepts, goesOn.loop, goesOn.selects, goesOn.scheduled⟩,
        RealBatterySimulator.target_within_iff range⟩

/-- A scheduled request that `DCChargeLoop` keeps is within the limits that have been advertised. -/
def KeepsWithin (session : LimitedSession) : Prop :=
  ∀ message bpt target, session.evcc.world.currentState.nextV2gtpMsg = some message →
    scheduledTarget message = some (bpt, target) → target.Within session.advertised

/-- What is prepared in an iteration is within the limits, if they fit. -/
theorem within_of_prepared (idle : session.evcc.world.currentState.nextState = none)
    (keeps : KeepsElsewhere session.evcc.world) (within : session.KeepsWithin)
    (step : session.Step (some received) next) (fit : session.LimitsFit (some received) next)
    (processed : (machine RealBatterySimulator).processMessage received session.evcc.world =
      .ok ⟨⟩ reached)
    (prepared : reached.currentState.nextV2gtpMsg = some message) {bpt : Bool} {target : Target}
    (asks : scheduledTarget message = some (bpt, target)) : target.Within next.advertised := by
  rw [step.2]
  obtain ⟨res, response, goesOn, within_iff⟩ | ⟨own, refused, kept⟩ :=
    target_of_prepared idle keeps processed prepared asks
  · exact (within_iff _).mpr (fit.goesOn received res bpt rfl response goesOn)
  · exact (within message bpt target kept asks).mono (fit.refused received rfl own refused)

theorem respectsLimits_of_fit {input : Option (Received V2GMessage Answers)}
    (idle : session.evcc.world.currentState.nextState = none)
    (keeps : KeepsElsewhere session.evcc.world) (within : session.KeepsWithin)
    (step : session.Step input next) (fit : session.LimitsFit input next) :
    session.RespectsLimits input next := by
  intro message bpt target sent asks
  obtain same | ⟨received, reached, prepared, rfl, processed, ready, sent'⟩ := step.1.sent_eq_or
  · rw [same] at sent
    exact absurd sent.symm (List.cons_ne_self _ _)
  · cases sent.symm.trans sent'
    exact within_of_prepared idle keeps within step fit processed ready asks

/-- What is kept stays within the limits. -/
theorem KeepsWithin.step {input : Option (Received V2GMessage Answers)}
    (idle : session.evcc.world.currentState.nextState = none)
    (keeps : KeepsElsewhere session.evcc.world) (within : session.KeepsWithin)
    (step : session.Step input next) (fit : session.LimitsFit input next)
    (goesOn : next.evcc.ended = false) : next.KeepsWithin := by
  obtain ⟨received, after, rfl, processed, leads⟩ := Step.goesOnTo step.1 goesOn
  intro message bpt target prepared asks
  obtain ⟨-, same⟩ | ⟨name, -, same⟩ := leads.leads
  · rw [same] at prepared
    exact within_of_prepared idle keeps within step fit processed prepared asks
  · rw [same] at prepared
    cases prepared

end

/-- What the EVCC does with an input. -/
def after (session : LimitedSession) (input : Option (Received V2GMessage Answers)) :
    LimitedSession where
  evcc := (machine RealBatterySimulator).rcv session.evcc input
  advertised := (input.map Received.message).elim session.advertised session.advertised.receive

def afterAll (start : LimitedSession) :
    List (Option (Received V2GMessage Answers)) → LimitedSession
  | [] => start
  | input :: past => (afterAll start past).after input

theorem evcc_afterAll (start : LimitedSession)
    (history : List (Option (Received V2GMessage Answers))) :
    (start.afterAll history).evcc = (machine RealBatterySimulator).rcvAll start.evcc history := by
  induction history with
  | nil => rfl
  | cons input past ih =>
      change (machine RealBatterySimulator).rcv (start.afterAll past).evcc input = _
      rw [ih]
      rfl

theorem run_afterAll {start : LimitedSession}
    {history : List (Option (Received V2GMessage Answers))}
    (goesOn : (machine RealBatterySimulator).GoesOn start.evcc history) :
    Run Step start history (start.afterAll history) := by
  induction history with
  | nil => exact .start
  | cons input past ih =>
      refine .step (ih goesOn.1) ⟨⟨?_, rfl⟩, rfl⟩
      rw [evcc_afterAll]
      exact goesOn.2

/-- In the charge loop the battery fits the limits, and none of them becomes lower. -/
abbrev Fitting (session : LimitedSession) (input : Option (Received V2GMessage Answers)) : Prop :=
  ∀ received ∈ input, InChargeLoop session.evcc.world.currentState.own →
    (∀ bpt, (atRequest session.evcc.world.currentState.own
      session.evcc.world.controller).FitsLimits bpt
        (session.advertised.receive received.message)) ∧
      session.advertised.KeptBy (session.advertised.receive received.message)

theorem limitsFit_of_fitting {session next : LimitedSession}
    {input : Option (Received V2GMessage Answers)} (fitting : session.Fitting input) :
    session.LimitsFit input next := by
  constructor
  · rintro received res bpt rfl - goesOn
    have inLoop : InChargeLoop session.evcc.world.currentState.own := by
      have loop := goesOn.loop
      generalize session.evcc.world.currentState.own = own, res.response = response at loop
      cases loop with
      | enters => exact .inl rfl
      | goesOn => exact .inr rfl
    exact (fitting received rfl inLoop).1 bpt
  · rintro received rfl own -
    exact (fitting received rfl (.inr own)).2

theorem run_limitsFit {start : LimitedSession}
    {history : List (Option (Received V2GMessage Answers))}
    (goesOn : (machine RealBatterySimulator).GoesOn start.evcc history)
    (fitting : ∀ tail ∈ history.tails, ∀ input ∈ tail.head?,
      (start.afterAll tail.tail).Fitting input) :
    Run (Restrict Step LimitsFit) start history (start.afterAll history) := by
  induction history with
  | nil => exact .start
  | cons input past ih =>
      rw [List.tails_cons, List.forall_mem_cons] at fitting
      refine .step (ih goesOn.1 fitting.2)
        ⟨⟨⟨?_, rfl⟩, rfl⟩, limitsFit_of_fitting (fitting.1 input rfl)⟩
      rw [evcc_afterAll]
      exact goesOn.2

end LimitedSession

namespace Sample

/-- Limits of 20 kW, 10 A and 400 V. -/
def tenAmpereLimits : DCChargeParameterDiscoveryResParams :=
  ⟨⟨3, 20, int8_three, int16_twenty⟩, zeroRational, ⟨0, 10, int8_zero, int16_ten⟩, zeroRational,
    ⟨0, 400, int8_zero, int16_fourHundred⟩, zeroRational, none⟩

/-- Limits of 10 kW, 100 A and 400 V. -/
def tenKilowattLimits : DCChargeParameterDiscoveryResParams :=
  ⟨⟨3, 10, int8_three, int16_ten⟩, zeroRational, ⟨0, 100, int8_zero, int16_hundred⟩, zeroRational,
    ⟨0, 400, int8_zero, int16_fourHundred⟩, zeroRational, none⟩

/-- The charge loop goes on with the same limit of the current. -/
def hundredAmpereLoopRes : DCChargeLoopResParams :=
  .scheduled ⟨none, none, some ⟨0, 100, int8_zero, int16_hundred⟩, none⟩

/-- A session up to the charge loop, with the limits that the SECC advertises. -/
def chargeLoopHistory (limits : DCChargeParameterDiscoveryResParams) :
    List (Option (Received V2GMessage Answers)) :=
  [response .powerDeliveryRes, response (.dcPreChargeRes batteryVoltage),
    response (.dcPreChargeRes batteryVoltage), response (.dcCableCheckRes .finished),
    response (.scheduleExchangeRes (scheduleExchangeRes none)),
    response (.dcChargeParameterDiscoveryRes (.dc limits)),
    response .serviceSelectionRes,
    response (.serviceDetailRes (serviceDetailRes .dc))] ++ discoveryHistory .dc false

/-- A session with limits that the battery fits, in the charge loop. -/
def fittingHistory : List (Option (Received V2GMessage Answers)) :=
  response (.dcChargeLoopRes none hundredAmpereLoopRes) :: chargeLoopHistory tenKilowattLimits

def limitedStart : LimitedSession := { evcc := start (battery .dc) }

end Sample

namespace LimitedSession

open Sample

theorem goesOn_chargeLoopHistory :
    (machine RealBatterySimulator).GoesOn (start (battery .dc))
      (chargeLoopHistory tenAmpereLimits) := by
  decide +kernel

/-- With 20 kW and 340 V the battery asks for 59 A, however little the SECC has advertised. -/
theorem not_respectsLimits :
    ¬(limitedStart.afterAll (chargeLoopHistory tenAmpereLimits).tail).RespectsLimits
      (response .powerDeliveryRes)
      (limitedStart.afterAll (chargeLoopHistory tenAmpereLimits)) := by
  intro respects
  have step := SessionStateMachine.step_rcvAll goesOn_chargeLoopHistory.2
    (response .powerDeliveryRes)
  obtain same | ⟨_, _, message, _, _, _, sent⟩ := step.sent_eq_or
  · exact absurd (congrArg List.length same) (by decide +kernel)
  · have asks : ((limitedStart.afterAll (chargeLoopHistory tenAmpereLimits)).evcc.sent.head?.bind
        scheduledTarget) = some (false, ⟨59, 340⟩) := by decide +kernel
    have sent' : (limitedStart.afterAll (chargeLoopHistory tenAmpereLimits)).evcc.sent =
        message :: (limitedStart.afterAll (chargeLoopHistory tenAmpereLimits).tail).evcc.sent := by
      rw [evcc_afterAll, evcc_afterAll]
      exact sent
    rw [sent'] at asks
    have within := respects message false ⟨59, 340⟩ sent' asks
    have bounded := (within.charge (by decide +kernel)).1 10 (by decide +kernel)
    exact absurd bounded (by decide +kernel)

end LimitedSession

end V20

end Iso15118.Evcc
