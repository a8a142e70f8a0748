import Iso15118.Evcc.Din.Loop
import Iso15118.Secc.Din.Rows
import Iso15118.Shared.Conversation

/-!
# Conversations by DIN SPEC 70121

Both sides of a session, with the message between them. The tables of both sides fit together but
for one place: after a `PowerDeliveryRes` the EVCC goes on by what its controller says, not by what
it has asked for.
-/

namespace Iso15118.Conversation.Din

open Transition Dialogue
open Iso15118.Shared
open Iso15118.Shared.Din
open Iso15118.Secc.Din (responseTo stateTable Waits)

/-! ## Both sides -/

/-- The EVCC and the SECC. -/
def sides (ρ : Type) [Evcc.Din.EVController ρ] (config : Secc.Din.Config) :
    Sides (Evcc.Received V2GMessage Evcc.Din.Answers) Evcc.Din.StateName Evcc.Din.StateName
      RequestMessage (Evcc.Din.World ρ) Evcc.Din.Answers Secc.Din.Received Secc.Din.Own
      Secc.Din.StateName ResponseMessage Secc.Din.World Secc.Din.Answers where
  evcc := Evcc.Din.machine ρ
  secc := Secc.Din.machine config
  toEvcc message answers := ⟨.response message, answers⟩
  toSecc message answers := ⟨.request message, answers⟩

abbrev Config (ρ : Type) :=
  Dialogue.Config (Evcc.Din.EVCCSession ρ) Secc.Din.SECCSession RequestMessage ResponseMessage

/-- Both sides have agreed on the protocol, and the EVCC has sent its first request. -/
structure Begins {ρ : Type} (config : Config ρ) : Prop where
  evcc : config.client.world.currentState = { own := .sessionSetup }
  secc : Secc.Din.New config.server
  mail : ∃ header req, config.mail = .request ⟨header, .sessionSetupReq req⟩ ∧
    config.client.sent = [⟨header, .sessionSetupReq req⟩]

/-! ## Requests and responses -/

/-- The type of request the response to which a state of the EVCC is there for. -/
def waitsFor : Evcc.Din.StateName → RequestType
  | .sessionSetup => .sessionSetupReq
  | .serviceDiscovery => .serviceDiscoveryReq
  | .servicePaymentSelection => .servicePaymentSelectionReq
  | .contractAuthentication => .contractAuthenticationReq
  | .chargeParameterDiscovery => .chargeParameterDiscoveryReq
  | .cableCheck => .cableCheckReq
  | .preCharge => .preChargeReq
  | .powerDelivery => .powerDeliveryReq
  | .currentDemand => .currentDemandReq
  | .weldingDetection => .weldingDetectionReq
  | .sessionStop => .sessionStopReq

theorem expects_iff {own : Evcc.Din.StateName} {response : Response} :
    Evcc.Din.Expects own response ↔ responseTo response = waitsFor own := by
  cases own <;> cases response <;> simp [Evcc.Din.Expects, responseTo, waitsFor]

/-- The current state object of the SECC is there for the message, which has the id of the
session. -/
def Accepts (message : RequestMessage) (secc : Secc.Din.SECCSession) : Prop :=
  stateTable.accepts secc.world.currentState.own message.request.requestType = true ∧
    Secc.Din.Known message secc.world.session

/-- The requests that may follow the response to a request. -/
def nextRequests : Request → Response → List RequestType
  | _, .sessionSetupRes _ => [.serviceDiscoveryReq]
  | _, .serviceDiscoveryRes _ => [.servicePaymentSelectionReq]
  | _, .servicePaymentSelectionRes => [.contractAuthenticationReq]
  | _, .contractAuthenticationRes evseProcessing =>
      if evseProcessing = .finished then [.chargeParameterDiscoveryReq]
      else [.contractAuthenticationReq]
  | _, .chargeParameterDiscoveryRes res =>
      if res.evseProcessing = .finished then [.cableCheckReq] else [.chargeParameterDiscoveryReq]
  | _, .cableCheckRes _ evseProcessing =>
      if evseProcessing = .finished then [.preChargeReq] else [.cableCheckReq]
  | _, .preChargeRes _ _ => [.preChargeReq, .powerDeliveryReq]
  | .powerDeliveryReq req, .powerDeliveryRes _ =>
      if req.readyToCharge then [.currentDemandReq]
      else [.powerDeliveryReq, .sessionStopReq, .weldingDetectionReq]
  | _, .powerDeliveryRes _ => []
  | _, .currentDemandRes _ => [.currentDemandReq, .powerDeliveryReq]
  | _, .weldingDetectionRes _ _ => [.weldingDetectionReq, .sessionStopReq]
  | _, .sessionStopRes => []

theorem accepts_iff_of_waits {previous : Request} {response : Response} {own : Secc.Din.Own}
    {type : RequestType} (waits : Waits previous response own) :
    stateTable.accepts own type = true ↔ type ∈ nextRequests previous response := by
  obtain ⟨nextState, answered, row, rests⟩ := waits
  change Secc.accepts own.name.expectedMsgTypes own.expectFirst type = true ↔ _
  rcases rests with ⟨rfl, rfl, named⟩ | ⟨name, rfl, rfl⟩
  · cases row with
    | notAuthorized | noSchedules | checkingCable =>
        cases own <;> cases named
        simp [Secc.accepts, Secc.Din.Own.name, Secc.Din.StateName.expectedMsgTypes,
          Secc.Din.Own.expectFirst, nextRequests]
    | stopped _ _ stops =>
        simp [Secc.accepts, Secc.Din.Own.name, Secc.Din.StateName.expectedMsgTypes,
          Secc.Din.Own.expectFirst, nextRequests, stops]
    | preCharge | currentDemand | weldingDetection =>
        simp [Secc.accepts, Secc.Din.Own.name, Secc.Din.StateName.expectedMsgTypes,
          Secc.Din.Own.expectFirst, nextRequests]
  · change Secc.accepts name.new.name.expectedMsgTypes name.new.expectFirst type = true ↔ _
    rw [Secc.Din.StateName.name_new]
    cases row with
    | started _ _ _ ready =>
        simp [Secc.accepts, Secc.Din.StateName.expectedMsgTypes, Secc.Din.StateName.new,
          Secc.Din.Own.expectFirst, nextRequests, ready]
    | _ =>
        simp [Secc.accepts, Secc.Din.StateName.expectedMsgTypes, Secc.Din.StateName.new,
          Secc.Din.Own.expectFirst, nextRequests]

/-- The request to charge after the one to stop, or the one to detect welding after the one to
start. -/
def straysAfter : Request → Request → Bool
  | .powerDeliveryReq req, .currentDemandReq _ => !req.readyToCharge
  | .powerDeliveryReq req, .weldingDetectionReq => req.readyToCharge
  | _, _ => false

/-- The last of the requests strays after the one before it. -/
def strays : List RequestMessage → Bool
  | message :: previous :: _ => straysAfter previous.request message.request
  | _ => false

/-- The EVCC has made the request of the response to the previous one. -/
def Follows (response : Response) (request : Request) : Prop :=
  ∃ answers header name session turn,
    Evcc.Din.Row answers header name response session turn ∧ turn.request = some request

theorem follows_iff {previous request : Request} {response : Response}
    (responds : responseTo response = previous.requestType) (follows : Follows response request) :
    request.requestType ∈ nextRequests previous response ↔
      straysAfter previous request = false := by
  obtain ⟨answers, header, name, session, turn, row, requests⟩ := follows
  cases row with
  | charge | detectWelding =>
      cases requests
      cases previous with
      | powerDeliveryReq req =>
          cases ready : req.readyToCharge <;>
            simp [nextRequests, straysAfter, Request.requestType, ready]
      | _ => cases responds
  | _ =>
      cases requests <;> cases previous <;> cases responds <;>
        simp_all [nextRequests, straysAfter, Request.requestType]

/-- A state of the EVCC that goes on has made a request, and waits for the response to it. -/
theorem waitsFor_of_row {answers : Evcc.Din.Answers} {header : MessageHeader}
    {own : Evcc.Din.StateName} {response : Response} {session : Evcc.Din.Session}
    {turn : Evcc.Din.Turn} (row : Evcc.Din.Row answers header own response session turn)
    (goesOn : turn.nextState ≠ some .terminate) :
    ∃ request, turn.request = some request ∧
      (turn.nextState = none ∧ waitsFor own = request.requestType ∨
        ∃ name, turn.nextState = some (.state name) ∧ waitsFor name = request.requestType) := by
  cases row
  all_goals first
    | exact ⟨_, rfl, .inl ⟨rfl, rfl⟩⟩
    | exact ⟨_, rfl, .inr ⟨_, rfl, rfl⟩⟩
    | exact absurd rfl goesOn

/-- The variables have the session id of the response. -/
theorem sessionId_of_row {answers : Evcc.Din.Answers} {own : Evcc.Din.StateName}
    {res : ResponseMessage} {session : Evcc.Din.Session} {turn : Evcc.Din.Turn}
    (row : Evcc.Din.Row answers res.header own res.response session turn)
    (known : Evcc.Din.Known res session) : turn.session.sessionId = res.header.sessionId := by
  rcases res with ⟨header, responseCode, response⟩
  rcases known with ⟨evseId, setup⟩ | same
  · cases setup
    cases row
    rfl
  · rw [same]
    cases row with
    | sessionSetup => exact same
    | serviceDiscovery _ _ _ _ discovers | notOffered _ _ _ discovers =>
        exact discovers.sessionId
    | _ =>
        simp [Evcc.Din.Turn.to, Evcc.Din.Turn.stay, Evcc.Din.Turn.stop,
          Evcc.Din.Session.stopped]

/-! ## The agreement -/

variable {ρ : Type} [Evcc.Din.EVController ρ] {config : Secc.Din.Config}

/-- What both sides know of a request. -/
structure Asked (evcc : Evcc.Din.EVCCSession ρ) (secc : Secc.Din.SECCSession)
    (message : RequestMessage) : Prop where
  sent : ∃ older, evcc.sent = message :: older
  waits : waitsFor evcc.world.currentState.own = message.request.requestType
  resting : secc.world.currentState.nextState = none
  sessionId : message.request.requestType ≠ .sessionSetupReq →
    secc.world.session.sessionId = evcc.world.session.sessionId
  accepts : Accepts message secc ↔ strays evcc.sent = false

/-- The EVCC expects the response, but for its code. -/
structure Expected (evcc : Evcc.Din.EVCCSession ρ) (message : ResponseMessage) : Prop where
  expects : Evcc.Din.Expects evcc.world.currentState.own message.response
  known : Evcc.Din.Known message evcc.world.session

/-- What both sides know of a response. -/
structure Answered (evcc : Evcc.Din.EVCCSession ρ) (secc : Secc.Din.SECCSession)
    (message : ResponseMessage) : Prop where
  waits : ∃ previous older, evcc.sent = previous :: older ∧
    responseTo message.response = previous.request.requestType ∧
    Waits previous.request message.response secc.world.currentState.own
  resting : secc.world.currentState.nextState = none
  sessionId : message.header.sessionId = secc.world.session.sessionId
  good : message.responseCode.isFailed = false

def agreement (ρ : Type) [Evcc.Din.EVController ρ] :
    Sides.Agreement RequestMessage (Evcc.Din.World ρ) ResponseMessage Secc.Din.World where
  asked := Asked
  expected := Expected
  answered := Answered

theorem Begins.asked {start : Config ρ} (begins : Begins start) :
    (agreement ρ).coupling.Holds start := by
  obtain ⟨header, req, mail, sent⟩ := begins.mail
  unfold Coupling.Holds
  rw [mail]
  intro _ _
  refine ⟨⟨_, sent⟩, ?_, ?_, ?_, ?_⟩
  · rw [begins.evcc]
    rfl
  · rw [begins.secc.1]
  · exact fun other => absurd rfl other
  · rw [sent]
    refine iff_of_true ⟨?_, .inl rfl⟩ rfl
    rw [begins.secc.1]
    rfl

omit [Evcc.Din.EVController ρ] in
/-- The SECC answers a request. -/
theorem serves {evcc : Evcc.Din.EVCCSession ρ} {secc next : Secc.Din.SECCSession}
    {message : RequestMessage} {answers : Secc.Din.Answers} {response : ResponseMessage}
    (asked : Asked evcc secc message)
    (step : (Secc.Din.machine config).Step secc (some ⟨.request message, answers⟩) next)
    (sent : next.sent = response :: secc.sent) :
    Expected evcc response ∧ (next.ended = false → Answered evcc next response) := by
  obtain ⟨responds, sessionId⟩ := Secc.Din.replied_of_sent step sent
  refine ⟨⟨?_, ?_⟩, ?_⟩
  · rw [expects_iff, responds, asked.waits]
  · by_cases setup : message.request.requestType = .sessionSetupReq
    · rw [setup] at responds
      left
      cases made : response.response with
      | sessionSetupRes evseId => exact ⟨evseId, rfl⟩
      | _ =>
          rw [made] at responds
          cases responds
    · right
      rw [sessionId setup, asked.sessionId setup]
  · intro goesOn
    obtain ⟨older, asks⟩ := asked.sent
    obtain ⟨waits, resting, sessionId, good⟩ :=
      Secc.Din.waits_of_step step sent goesOn asked.resting
    exact ⟨⟨message, older, asks, responds, waits⟩, resting, sessionId, good⟩

/-- The EVCC goes on with another request. -/
theorem asks {evcc next : Evcc.Din.EVCCSession ρ} {secc : Secc.Din.SECCSession}
    {message : ResponseMessage} {answers : Evcc.Din.Answers} {request : RequestMessage}
    (answered : Answered evcc secc message)
    (step : (Evcc.Din.machine ρ).Step evcc (some ⟨.response message, answers⟩) next)
    (sent : next.sent = request :: evcc.sent) (goesOn : next.ended = false) :
    Asked next secc request := by
  obtain ⟨received, after, same, reacts, goesTo⟩ := Evcc.Din.Step.reacts step goesOn
  cases same
  obtain ⟨prepared, made, sends⟩ := goesTo.sends
  cases sent.symm.trans sends
  cases reacts with
  | refuses refused session currentState =>
      rcases goesTo.leads with ⟨stays, _⟩ | ⟨name, leads, _⟩
      · rw [currentState] at stays
        cases stays
      · rw [currentState] at leads
        cases leads
  | answers res turn response accepts row leads =>
      cases response
      have turns : turn.nextState ≠ some .terminate := by
        intro terminates
        have stops := leads.nextState.trans terminates
        rcases goesTo.leads with ⟨stays, _⟩ | ⟨name, goes, _⟩
        · cases stays.symm.trans stops
        · cases goes.symm.trans stops
      obtain ⟨made', requests, waits⟩ := waitsFor_of_row row turns
      have prepares := leads.message
      rw [requests] at prepares
      cases prepares.symm.trans made
      obtain ⟨previous, older, asks, responds, seccWaits⟩ := answered.waits
      have sessionId := sessionId_of_row row accepts.known
      have session : next.world.session = turn.session := goesTo.session.trans leads.session
      refine ⟨⟨_, sends⟩, ?_, answered.resting, ?_, ?_⟩
      · rcases goesTo.leads with ⟨stays, same⟩ | ⟨name, goes, same⟩
        · rcases waits with ⟨_, waits⟩ | ⟨name, goes, _⟩
          · rw [same, leads.own, waits]
          · cases (leads.nextState.symm.trans stays).symm.trans goes
        · rcases waits with ⟨stays, _⟩ | ⟨name', goes', waits⟩
          · cases (leads.nextState.symm.trans goes).symm.trans stays
          · cases (leads.nextState.symm.trans goes).symm.trans goes'
            rw [same, waits]
      · intro _
        rw [session, sessionId, answered.sessionId]
      · rw [sends, asks]
        have follows : Follows message.response made' := ⟨_, _, _, _, _, row, requests⟩
        rw [strays, ← follows_iff responds follows, ← accepts_iff_of_waits seccWaits]
        refine and_iff_left (.inr ?_)
        exact sessionId.trans answered.sessionId

theorem kept : (agreement ρ).Kept (sides ρ config) where
  serves _ _ _ _ _ _ _ asked step sent := serves asked step sent
  asks _ _ _ _ _ _ _ answered step sent goesOn := asks answered step sent goesOn

/-- As long as both sides go on, the SECC accepts exactly the requests that do not stray, and the
EVCC every response. If the SECC does not go on, the EVCC still accepts the last response, unless
it is a failed one. -/
theorem accepts_iff_in_conversation {start reached : Config ρ} {history : List Party}
    (begins : Begins start) (run : Run (sides ρ config).Step start history reached)
    (goesOn : reached.client.ended = false) :
    (∀ message, reached.mail = .request message → reached.server.ended = false →
      (Accepts message reached.server ↔ strays reached.client.sent = false)) ∧
    ∀ message, reached.mail = .response message →
      (Evcc.Din.Accepts reached.client.world.currentState.own message
          reached.client.world.session ↔ message.responseCode.isFailed = false) ∧
        (reached.server.ended = false → message.responseCode.isFailed = false) := by
  have holds := kept.run begins.asked run
  unfold Coupling.Holds at holds
  constructor
  · intro message mail seccGoesOn
    rw [mail] at holds
    exact (holds goesOn seccGoesOn).accepts
  · intro message mail
    rw [mail] at holds
    obtain ⟨expected, answered⟩ := holds goesOn
    refine ⟨⟨fun accepts => accepts.good, fun good => ?_⟩, fun goesOn => (answered goesOn).good⟩
    exact ⟨good, expected.known, expected.expects⟩

namespace Sample

open Iso15118.Secc.Din (zeroPhysical)

/-- A vehicle that has enough as soon as it is asked. -/
structure Vehicle where

instance : Evcc.Din.EVController Vehicle where
  getEnergyTransferMode := pure .dcExtended
  getDcEvStatusDinspec := pure Secc.Din.Sample.dcEvStatus
  getDcChargeParams := pure ⟨zeroPhysical, zeroPhysical, zeroPhysical, zeroPhysical, zeroPhysical⟩
  processSaSchedulesDinspec _ := pure 1
  enableCharging _ := pure ⟨⟩
  isPrecharged _ := pure true
  getDcEvPowerDeliveryParameter := pure ⟨Secc.Din.Sample.dcEvStatus, none, false⟩
  continueCharging := pure false
  chargeLoopDelay := pure ⟨⟩
  stopCharging := pure ⟨⟩
  isBulkChargingComplete := pure false
  isChargingComplete := pure false
  getRemainingTimeToFullSoc := pure zeroPhysical
  getRemainingTimeToBulkSoc := pure zeroPhysical
  weldingDetectionHasFinished := pure true

/-- A controller that is ready, and finds the cable safe. -/
def answers : Secc.Din.Answers :=
  { Secc.Din.Sample.answers with
    getDcEvseStatus := .ok ⟨0, .none, some .valid, .evseReady⟩ }

def request : RequestMessage :=
  ⟨{ sessionId := "00" }, .sessionSetupReq ⟨"ev"⟩⟩

def start : Config Vehicle where
  client :=
    { world :=
        { session := {}
          controller := ⟨⟩
          currentState := { own := .sessionSetup }
          calls := [] }
      sent := [request] }
  server := Secc.Din.Sample.start
  mail := .request request

theorem begins_start : Begins start :=
  ⟨rfl, Secc.Din.Sample.new_start, _, _, rfl, rfl⟩

/-- The request after so many messages strays. -/
theorem refuses_start :
    ((sides Vehicle Secc.Din.Sample.config).receiveAll ⟨0⟩ answers start 18).any
      (Sides.refusesNext strays) = true := by
  decide +kernel

end Sample

/-- A vehicle that does not want to charge after all ends the session with an error. -/
theorem accepts_iff_in_conversation_sample :
    ∃ reached history message, Run (sides Sample.Vehicle Secc.Din.Sample.config).Step
        Sample.start history reached ∧
      reached.mail = .request message ∧ reached.server.ended = false ∧
      ¬Accepts message reached.server := by
  obtain ⟨reached, history, message, run, mail, evccGoesOn, seccGoesOn, strays⟩ :=
    Sides.exists_strays Sample.refuses_start
  have accepts := (accepts_iff_in_conversation Sample.begins_start run evccGoesOn).1 message
    mail seccGoesOn
  refine ⟨reached, history, message, run, mail, seccGoesOn, ?_⟩
  rw [accepts, strays]
  simp

end Iso15118.Conversation.Din
