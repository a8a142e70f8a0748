import Iso15118.Evcc.V2.LastRequest
import Iso15118.Secc.V2.Rows
import Iso15118.Shared.Conversation

/-!
# Conversations by ISO 15118-2

Both sides of a session, with the message between them. Each side has its own idea of whether the
session charges with alternating current: the SECC goes by the last request for the charge
parameters, the EVCC by the energy mode that it has selected before. The EVCC may also go on
charging when it has asked for something else.
-/

namespace Iso15118.Conversation.V2

open Transition Dialogue
open Iso15118.Shared
open Iso15118.Shared.V2
open Iso15118.Evcc.V2 (Asking Expects Remembers waitsFor)
open Iso15118.Secc.V2 (Environment PassedOn responseTo stateTable)

/-! ## Both sides -/

/-- The EVCC and the SECC. -/
def sides (ρ : Type) [Evcc.V2.EVController ρ] (environment : Environment) :
    Sides (Evcc.Received V2GMessage Evcc.V2.Answers) Evcc.V2.StateName Evcc.V2.StateName
      RequestMessage (Evcc.V2.World ρ) Evcc.V2.Answers Secc.V2.Received Secc.V2.Own
      Secc.V2.StateName ResponseMessage Secc.V2.World Secc.V2.Answers where
  evcc := Evcc.V2.machine ρ
  secc := Secc.V2.machine environment
  toEvcc message answers := ⟨.response message, answers⟩
  toSecc message answers := ⟨.request message, answers⟩

abbrev Config (ρ : Type) :=
  Dialogue.Config (Evcc.V2.EVCCSession ρ) Secc.V2.SECCSession RequestMessage ResponseMessage

/-- Both sides have agreed on the protocol, and the EVCC has sent its first request. -/
structure Begins {ρ : Type} (config : Config ρ) : Prop where
  evcc : Evcc.V2.Starts config.client
  secc : Secc.V2.New config.server
  mail : ∃ header req, config.mail = .request ⟨header, .sessionSetupReq req⟩ ∧
    config.client.sent = [⟨header, .sessionSetupReq req⟩]

/-! ## Requests and responses -/

theorem expects_iff {own : Evcc.V2.StateName} {response : Response} :
    Expects own response ↔ responseTo response = waitsFor own := by
  cases own <;> cases response <;> simp [Expects, responseTo, waitsFor]

/-- The requests that may follow the response to a request, in a session that charges with
alternating current or not. -/
def nextRequests (ac : Bool) : Request → Response → List RequestType
  | _, .sessionSetupRes _ => [.serviceDiscoveryReq]
  | _, .serviceDiscoveryRes _ =>
      [.serviceDiscoveryReq, .serviceDetailReq, .paymentServiceSelectionReq]
  | _, .serviceDetailRes _ _ => [.serviceDetailReq, .paymentServiceSelectionReq]
  | _, .paymentServiceSelectionRes =>
      [.paymentServiceSelectionReq, .certificateInstallationReq, .paymentDetailsReq,
        .authorizationReq]
  | _, .certificateInstallationRes => [.paymentDetailsReq]
  | _, .paymentDetailsRes _ => [.authorizationReq]
  | _, .authorizationRes evseProcessing =>
      if evseProcessing = .finished then [.chargeParameterDiscoveryReq] else [.authorizationReq]
  | _, .chargeParameterDiscoveryRes res =>
      if res.evseProcessing = .finished then
        if ac then [.powerDeliveryReq] else [.cableCheckReq]
      else [.chargeParameterDiscoveryReq]
  | .powerDeliveryReq req, .powerDeliveryRes _ _ =>
      match req.chargeProgress with
      | .start => if ac then [.chargingStatusReq] else [.currentDemandReq]
      | .stop =>
          if ac then [.sessionStopReq]
          else [.powerDeliveryReq, .sessionStopReq, .weldingDetectionReq]
      | .renegotiate => [.chargeParameterDiscoveryReq]
  | _, .powerDeliveryRes _ _ => []
  | _, .meteringReceiptRes _ _ =>
      [.meteringReceiptReq, .chargingStatusReq, .currentDemandReq, .powerDeliveryReq]
  | _, .sessionStopRes => []
  | _, .chargingStatusRes _ _ _ _ _ _ =>
      [.chargingStatusReq, .powerDeliveryReq, .meteringReceiptReq]
  | _, .cableCheckRes _ evseProcessing =>
      if evseProcessing = .finished then [.preChargeReq] else [.cableCheckReq]
  | _, .preChargeRes _ _ => [.preChargeReq, .powerDeliveryReq]
  | _, .currentDemandRes _ => [.currentDemandReq, .powerDeliveryReq]
  | _, .weldingDetectionRes _ _ => [.weldingDetectionReq, .sessionStopReq]

/-- The state that has answered stays. -/
theorem accepts_iff_of_stays {previous : Request} {response : Response}
    {session : Secc.V2.Session} {nextState : Option (NextState Secc.V2.StateName)}
    {own : Secc.V2.Own} {type : RequestType}
    (row : Secc.V2.Row previous response session nextState own) (stays : nextState = none)
    (named : own.name = Secc.V2.answeredBy previous.requestType) :
    own.accepts type = true ↔
      type ∈ nextRequests session.selectedChargingTypeIsAc previous response := by
  unfold Secc.V2.Own.accepts
  rw [Secc.StateTable.accepts_iff]
  cases row with
  | notAuthorized | checkingCable =>
      cases own <;> cases named
      simp [stateTable, Secc.V2.Own.name, Secc.V2.StateName.expectedMsgTypes,
        Secc.V2.Own.expectFirst, nextRequests, *]
  | stopped _ _ _ _ stops =>
      unfold Secc.V2.PowerDelivery.afterStop at stays
      split_ifs at stays with ac
      simp [stateTable, Secc.V2.Own.name, Secc.V2.StateName.expectedMsgTypes,
        Secc.V2.Own.expectFirst, nextRequests, *]
  | serviceDiscovery | serviceDetail | paymentServiceSelection | noSchedules | meteringReceipt
  | chargingStatus | preCharge | currentDemand | weldingDetection =>
      simp [stateTable, Secc.V2.Own.name, Secc.V2.StateName.expectedMsgTypes,
        Secc.V2.Own.expectFirst, nextRequests, *]
  | _ => cases stays

/-- A new state is entered. -/
theorem accepts_iff_of_enters {previous : Request} {response : Response}
    {session : Secc.V2.Session} {nextState : Option (NextState Secc.V2.StateName)}
    {answered : Secc.V2.Own} {name : Secc.V2.StateName} {type : RequestType}
    (row : Secc.V2.Row previous response session nextState answered)
    (leads : nextState = some (.state name))
    (responds : responseTo response = previous.requestType) :
    name.new.accepts type = true ↔
      type ∈ nextRequests session.selectedChargingTypeIsAc previous response := by
  unfold Secc.V2.Own.accepts
  rw [Secc.StateTable.accepts_iff]
  change type ∈ (if name.new.expectFirst then name.new.name.expectedMsgTypes.take 1
    else name.new.name.expectedMsgTypes) ↔ _
  rw [Secc.V2.StateName.name_new]
  cases row with
  | certificateInstallation =>
      cases leads
      cases response <;> cases responds
      simp [Secc.V2.StateName.expectedMsgTypes, Secc.V2.StateName.new,
        Secc.V2.Own.expectFirst, nextRequests]
  | schedules req _ _ _ finished selects =>
      cases leads
      rw [← req.matches_mode] at selects
      cases ac : req.evChargeParameter.isAc <;>
        simp [Secc.V2.ChargeParameterDiscovery.nextState, Secc.V2.StateName.expectedMsgTypes,
          Secc.V2.StateName.new, Secc.V2.Own.expectFirst, nextRequests, *]
  | started _ _ _ session _ starts =>
      cases leads
      cases ac : session.selectedChargingTypeIsAc <;>
        simp [Secc.V2.PowerDelivery.chargeLoop, Secc.V2.StateName.expectedMsgTypes,
          Secc.V2.StateName.new, Secc.V2.Own.expectFirst, nextRequests, *]
  | stopped _ _ _ _ stops =>
      unfold Secc.V2.PowerDelivery.afterStop at leads
      split_ifs at leads with ac
      cases leads
      simp [Secc.V2.StateName.expectedMsgTypes, Secc.V2.StateName.new,
        Secc.V2.Own.expectFirst, nextRequests, *]
  | sessionSetup | paymentDetails | authorized | renegotiation | cableChecked =>
      cases leads
      simp [Secc.V2.StateName.expectedMsgTypes, Secc.V2.StateName.new,
        Secc.V2.Own.expectFirst, nextRequests, *]
  | _ => cases leads

theorem accepts_iff_of_awaits {previous : Request} {response : Response}
    {session : Secc.V2.Session} {own : Secc.V2.Own} {type : RequestType}
    (awaits : Secc.V2.Awaits previous response session own)
    (responds : responseTo response = previous.requestType) :
    own.accepts type = true ↔
      type ∈ nextRequests session.selectedChargingTypeIsAc previous response := by
  obtain ⟨nextState, answered, row, ⟨stays, rfl, named⟩ | ⟨name, leads, rfl⟩⟩ := awaits
  · exact accepts_iff_of_stays row stays named
  · exact accepts_iff_of_enters row leads responds

/-- The energy mode of the last request for the charge parameters. -/
def chargesAc : List RequestMessage → Bool
  | [] => true
  | message :: older =>
      match message.request with
      | .chargeParameterDiscoveryReq req => req.requestedEnergyMode.isAc
      | _ => chargesAc older

theorem chargesAc_cons {message : RequestMessage} {older : List RequestMessage}
    (other : message.request.requestType ≠ .chargeParameterDiscoveryReq) :
    chargesAc (message :: older) = chargesAc older := by
  rcases message with ⟨header, request⟩
  cases request with
  | chargeParameterDiscoveryReq req => exact absurd rfl other
  | _ => rfl

/-- The request of the one kind of current in a session of the other, or one to go on charging
after one that has not started it. -/
def straysAfter (ac : Bool) : Request → Request → Bool
  | .chargeParameterDiscoveryReq _, .powerDeliveryReq _ => !ac
  | .chargeParameterDiscoveryReq _, .cableCheckReq _ => ac
  | .powerDeliveryReq req, .chargingStatusReq => !ac || req.chargeProgress ≠ .start
  | .powerDeliveryReq req, .currentDemandReq _ => ac || req.chargeProgress ≠ .start
  | .powerDeliveryReq _, .weldingDetectionReq => ac
  | _, _ => false

/-- The last of the requests strays after the one before it. -/
def strays : List RequestMessage → Bool
  | message :: previous :: older =>
      straysAfter (chargesAc (previous :: older)) previous.request message.request
  | _ => false

theorem follows_iff {answers : Evcc.V2.Answers} {schedules : Evcc.V2.Schedules}
    {own : Evcc.V2.StateName} {response : Response} {session : Evcc.V2.Session}
    {turn : Evcc.V2.Turn} {previous request : Request}
    (row : Evcc.V2.Row answers schedules own response session turn)
    (requests : turn.request = some request) (asked : previous.requestType = waitsFor own)
    (remembers : Remembers own previous session) (ac : Bool) :
    request.requestType ∈ nextRequests ac previous response ↔
      straysAfter ac previous request = false := by
  cases row
  case serviceDiscovery inner =>
    cases inner <;> cases requests <;> cases previous <;> cases asked <;>
      simp [nextRequests, straysAfter, Request.requestType]
  case serviceDetail inner =>
    cases inner <;> cases requests <;> cases previous <;> cases asked <;>
      simp [nextRequests, straysAfter, Request.requestType]
  case receiptCharge inner =>
    cases inner <;> cases requests <;> cases previous <;> cases asked <;>
      simp [nextRequests, straysAfter, Request.requestType]
  case acSchedule | dcSchedule =>
    cases requests
    cases previous <;> cases asked
    cases ac <;> simp [nextRequests, straysAfter, Request.requestType, *]
  case stopSession chargingSession told _ =>
    cases requests
    obtain ⟨req, rfl, stops⟩ := remembers.stops rfl (by rw [told]; rfl)
    cases ac <;> simp [nextRequests, straysAfter, Request.requestType, stops]
  case detectWelding told _ =>
    cases requests
    obtain ⟨req, rfl, stops⟩ := remembers.stops rfl told
    cases ac <;> simp [nextRequests, straysAfter, Request.requestType, stops]
  case rediscover requested =>
    cases requests
    obtain ⟨req, rfl, renegotiates⟩ := remembers.renegotiates requested
    simp [nextRequests, straysAfter, Request.requestType, renegotiates]
  case charge inner =>
    cases previous <;> cases asked
    next req =>
      cases inner <;> cases requests <;> cases ac <;> cases progress : req.chargeProgress <;>
        simp [nextRequests, straysAfter, Request.requestType, progress]
  all_goals
    cases requests
    all_goals
      cases previous <;> cases asked
      simp [nextRequests, straysAfter, Request.requestType, *]

/-! ## The agreement -/

variable {ρ : Type} [Evcc.V2.EVController ρ] {environment : Environment}

/-- What both sides know of a request. -/
structure Asked (evcc : Evcc.V2.EVCCSession ρ) (secc : Secc.V2.SECCSession)
    (message : RequestMessage) : Prop where
  asking : ∃ resumes, Asking resumes evcc message
  resting : secc.world.currentState.nextState = none
  isAc : message.request.requestType ≠ .chargeParameterDiscoveryReq →
    secc.world.session.selectedChargingTypeIsAc = chargesAc evcc.sent
  accepts : secc.world.currentState.own.accepts message.request.requestType = true ↔
    strays evcc.sent = false

/-- What both sides know of a response, of which the EVCC takes good ones only. -/
structure Answered (evcc : Evcc.V2.EVCCSession ρ) (secc : Secc.V2.SECCSession)
    (message : ResponseMessage) : Prop where
  waits : ∃ resumes previous, Asking resumes evcc previous ∧
    (message.responseCode.isFailed = false →
      Secc.V2.Awaits previous.request message.response secc.world.session
        secc.world.currentState.own)
  resting : secc.world.currentState.nextState = none
  isAc : message.responseCode.isFailed = false →
    secc.world.session.selectedChargingTypeIsAc = chargesAc evcc.sent

/-- Where there is a backend, it may install a certificate with another response. -/
def agreement (ρ : Type) [Evcc.V2.EVController ρ] (environment : Environment) :
    Sides.Agreement RequestMessage (Evcc.V2.World ρ) ResponseMessage Secc.V2.World where
  asked := Asked
  expected evcc message :=
    Expects evcc.world.currentState.own message.response ∨
      evcc.world.currentState.own = .certificateInstallation ∧
        environment.config.useCpoBackend = true
  answered := Answered

theorem Begins.asked {start : Config ρ} (begins : Begins start) :
    (agreement ρ environment).coupling.Holds start := by
  obtain ⟨header, req, mail, sent⟩ := begins.mail
  unfold Coupling.Holds
  rw [mail]
  intro _ _
  refine ⟨⟨_, begins.evcc.asking sent rfl⟩, ?_, ?_, ?_⟩
  · rw [begins.secc.1]
  · intro _
    rw [begins.secc.2.1, sent]
    rfl
  · rw [begins.secc.1, sent]
    exact iff_of_true rfl rfl

/-- The SECC charges as it has been asked to. -/
theorem isAc_of_awaits {req : ChargeParameterDiscoveryReq} {response : Response}
    {session : Secc.V2.Session} {own : Secc.V2.Own}
    (awaits : Secc.V2.Awaits (.chargeParameterDiscoveryReq req) response session own) :
    session.selectedChargingTypeIsAc = req.requestedEnergyMode.isAc := by
  obtain ⟨_, _, row, _⟩ := awaits
  cases row with
  | schedules _ _ _ _ _ selects | noSchedules _ _ _ _ selects => exact selects

omit [Evcc.V2.EVController ρ] in
/-- What the SECC sends is what the EVCC waits for, or made by the backend for an EVCC that has
asked for a certificate. -/
theorem expects_or_passedOn {evcc : Evcc.V2.EVCCSession ρ} {secc next : Secc.V2.SECCSession}
    {message : RequestMessage} {answers : Secc.V2.Answers} {response : ResponseMessage}
    (asked : Asked evcc secc message)
    (step : (Secc.V2.machine environment).Step secc (some ⟨.request message, answers⟩) next)
    (sent : next.sent = response :: secc.sent) :
    Expects evcc.world.currentState.own response.response ∨
      evcc.world.currentState.own = .certificateInstallation ∧
        PassedOn environment answers response := by
  obtain ⟨resumes, asking⟩ := asked.asking
  rcases Secc.V2.replied_of_sent step sent with ⟨responds, _⟩ | ⟨installs, passedOn⟩
  · exact .inl (expects_iff.mpr (responds.trans asking.type))
  · right
    have own := asking.type.symm.trans installs
    cases state : evcc.world.currentState.own <;> rw [state] at own <;> cases own
    exact ⟨rfl, passedOn⟩

omit [Evcc.V2.EVController ρ] in
/-- The SECC answers a request. -/
theorem serves {evcc : Evcc.V2.EVCCSession ρ} {secc next : Secc.V2.SECCSession}
    {message : RequestMessage} {answers : Secc.V2.Answers} {response : ResponseMessage}
    (asked : Asked evcc secc message)
    (step : (Secc.V2.machine environment).Step secc (some ⟨.request message, answers⟩) next)
    (sent : next.sent = response :: secc.sent) :
    (Expects evcc.world.currentState.own response.response ∨
        evcc.world.currentState.own = .certificateInstallation ∧
          environment.config.useCpoBackend = true) ∧
      (next.ended = false → Answered evcc next response) := by
  constructor
  · rcases expects_or_passedOn asked step sent with expects | ⟨installs, backend, _⟩
    · exact .inl expects
    · exact .inr ⟨installs, backend⟩
  · obtain ⟨resumes, asking⟩ := asked.asking
    intro goesOn
    obtain ⟨awaits, resting, kept⟩ := Secc.V2.awaits_of_step step sent goesOn asked.resting
    refine ⟨⟨resumes, message, asking, awaits⟩, resting, fun good => ?_⟩
    by_cases discovers : message.request.requestType = .chargeParameterDiscoveryReq
    · obtain ⟨older, sentBefore⟩ := asking.sent
      have awaits := awaits good
      rw [sentBefore]
      unfold chargesAc
      cases made : message.request with
      | chargeParameterDiscoveryReq req =>
          rw [made] at awaits
          exact isAc_of_awaits awaits
      | _ =>
          rw [made] at discovers
          cases discovers
    · rw [kept discovers, asked.isAc discovers]

/-- The EVCC goes on with another request. -/
theorem asks {evcc next : Evcc.V2.EVCCSession ρ} {secc : Secc.V2.SECCSession}
    {message : ResponseMessage} {answers : Evcc.V2.Answers} {request : RequestMessage}
    (answered : Answered evcc secc message)
    (step : (Evcc.V2.machine ρ).Step evcc (some ⟨.response message, answers⟩) next)
    (sent : next.sent = request :: evcc.sent) (goesOn : next.ended = false) :
    Asked next secc request := by
  obtain ⟨resumes, previous, asking, awaits⟩ := answered.waits
  obtain ⟨received, res, turn, made, same, response, accepts, row, requests, sends, asks⟩ :=
    asking.step step goesOn
  cases same
  cases response
  cases sent.symm.trans sends
  have isAc := answered.isAc accepts.good
  refine ⟨⟨resumes, asks⟩, answered.resting, ?_, ?_⟩
  · intro other
    rw [sends, chargesAc_cons other, isAc]
  · obtain ⟨older, asked⟩ := asking.sent
    have responds := (expects_iff.mp accepts.expected).trans asking.type.symm
    rw [accepts_iff_of_awaits (awaits accepts.good) responds, isAc, sends, asked, strays]
    exact follows_iff row requests asking.type asking.remembers _

theorem kept : (agreement ρ environment).Kept (sides ρ environment) where
  serves _ _ _ _ _ _ _ asked step sent := serves asked step sent
  asks _ _ _ _ _ _ _ answered step sent goesOn := asks answered step sent goesOn

/-- As long as both sides go on, the SECC accepts exactly the types of requests that do not stray,
and what it sends is a response that the EVCC is there for, or one that a backend has made to
install a certificate. Without a backend, every response is one that the EVCC is there for. -/
theorem follows_in_v2_conversation {start reached : Config ρ} {history : List Party}
    (begins : Begins start) (run : Run (sides ρ environment).Step start history reached)
    (goesOn : reached.client.ended = false) :
    (∀ message, reached.mail = .request message → reached.server.ended = false →
      (reached.server.world.currentState.own.accepts message.request.requestType = true ↔
        strays reached.client.sent = false)) ∧
    (∀ message answers next response, reached.mail = .request message →
      (Secc.V2.machine environment).Step reached.server (some ⟨.request message, answers⟩) next →
      next.sent = response :: reached.server.sent →
        Expects reached.client.world.currentState.own response.response ∨
          reached.client.world.currentState.own = .certificateInstallation ∧
            PassedOn environment answers response) ∧
    ∀ message, reached.mail = .response message →
      Expects reached.client.world.currentState.own message.response ∨
        reached.client.world.currentState.own = .certificateInstallation ∧
          environment.config.useCpoBackend = true := by
  have holds := kept.run begins.asked run
  unfold Coupling.Holds at holds
  refine ⟨?_, ?_, ?_⟩
  · intro message mail seccGoesOn
    rw [mail] at holds
    exact (holds goesOn seccGoesOn).accepts
  · intro message answers next response mail step sent
    rw [mail] at holds
    exact expects_or_passedOn (holds goesOn step.1) step sent
  · intro message mail
    rw [mail] at holds
    exact (holds goesOn).1

namespace Sample

/-- A vehicle that wants to stop as soon as it knows the schedules. -/
def Vehicle : Type :=
  Evcc.V2.Sample.Vehicle

instance : Evcc.V2.EVController Vehicle :=
  { (inferInstance : Evcc.V2.EVController Evcc.V2.Sample.Vehicle) with
    processSaSchedulesV2 := fun _ => pure (.stop, 1, ⟨[]⟩) }

/-- A controller that is ready for every request. -/
def answers : Secc.V2.Answers :=
  { Secc.V2.Sample.answers with
    getSupportedEnergyTransferModes := .ok [.acThreePhaseCore] }

/-- There is no Plug and Charge. -/
def eimEnvironment : Environment :=
  { Secc.V2.Sample.environment with
    config := { Secc.V2.Sample.environment.config with supportedAuthOptions := [.eim] } }

def request : RequestMessage :=
  ⟨{ sessionId := "00" }, .sessionSetupReq ⟨"ev"⟩⟩

def start : Config Vehicle where
  client :=
    { world :=
        { session := { isTls := true }
          controller := Evcc.V2.Sample.Vehicle.mk
          currentState := { own := .sessionSetup }
          calls := [] }
      sent := [request] }
  server := Secc.V2.Sample.start
  mail := .request request

theorem begins_start : Begins start :=
  ⟨⟨rfl, ⟨true, "", none, none, rfl⟩, rfl⟩, Secc.V2.Sample.new_start, _, _, rfl, rfl⟩

/-- The request after so many messages strays. -/
theorem refuses_start :
    ((sides Vehicle eimEnvironment).receiveAll { now := 0 } answers start 12).any
      (Sides.refusesNext strays) = true := by
  decide +kernel

end Sample

/-- A vehicle that wants to stop before charging goes on to charge all the same. -/
theorem follows_in_v2_conversation_sample :
    ∃ reached history message,
      Run (sides Sample.Vehicle Sample.eimEnvironment).Step Sample.start history reached ∧
      reached.mail = .request message ∧ reached.server.ended = false ∧
      ¬reached.server.world.currentState.own.accepts message.request.requestType = true := by
  obtain ⟨reached, history, message, run, mail, evccGoesOn, seccGoesOn, strays⟩ :=
    Sides.exists_strays Sample.refuses_start
  have follows := (follows_in_v2_conversation Sample.begins_start run evccGoesOn).1 message mail
    seccGoesOn
  refine ⟨reached, history, message, run, mail, seccGoesOn, ?_⟩
  rw [follows, strays]
  simp

end Iso15118.Conversation.V2
