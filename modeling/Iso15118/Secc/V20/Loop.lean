import Iso15118.Secc.V20.Effects
import Iso15118.Shared.BatteryDiagnostics.HealthTest

/-!
# Runs of the ISO 15118-20 SECC

The receive loop over the states of the SECC. A step that goes on has answered a
request that the current state accepts, and the table of effects says where it
can have led.
-/

namespace Iso15118.Secc.V20

open Effect Transition
open Iso15118.Shared
open Iso15118.Shared.V20

section

variable {σ : Type}

/-- Stopping ends the loop, with a failed response or for want of a session id. -/
theorem stopStateMachine_ends (message : RequestMessage) (responseCode : ResponseCode)
    (world : World σ) :
    (∃ next, stopStateMachine (.request message) responseCode world = .ok ⟨⟩ next ∧
        next.currentState.nextState = some .terminate ∧ next.calls = world.calls ∧
        ∀ prepared, next.currentState.nextV2gtpMsg = some prepared →
          prepared.response = failedResponse message.request.requestType) ∨
      ∃ exception next, stopStateMachine (.request message) responseCode world =
        .error exception next ∧ next.calls = world.calls := by
  unfold stopStateMachine updateSession
  rw [modify_bind_apply]
  rcases createMessage_ends Session.sessionId _ 0
      { world with
        session := { world.session with stopReason := some { successful := false } } } with
      ⟨next, created, terminates, none, prepared⟩ | raised
  · refine .inl ⟨next, created, terminates, none, ?_⟩
    intro message responds
    cases prepared.symm.trans responds
    rfl
  · exact .inr raised

variable [DiagnosticService σ]

/-- The states of ISO 15118-20. -/
def protocol (environment : Environment) :
    SeccProtocol Session Own StateName ResponseMessage Call (ServiceRegistry σ) RequestType
      RequestMessage V2GMessage Answers where
  guide := guide
  requestType message := message.request.requestType
  request := .request
  Known := Known
  answer answers := answer environment answers
  processMessage answers := processMessage environment answers
  setPresentProtocolState := .setPresentProtocolState
  announce := Answers.setPresentProtocolState
  name_new := StateName.name_new
  request_injective _ _ := V2GMessage.request.inj
  processMessage_cases := by
    intro answers message world
    by_cases installing : world.currentState.own = .certificateInstallation
    · right
      constructor
      · rintro req _ ⟨accepted, _⟩
        have expected := mem_expectedMsgTypes accepted
        rw [installing] at expected
        cases expected
      · exact .inr ⟨_, _, processMessage_certificateInstallation environment answers message
          world installing, rfl⟩
    · cases message with
      | response message =>
          right
          constructor
          · rintro req ⟨⟩
          · exact .inr ⟨_, _, processMessage_response environment answers message world installing,
              rfl⟩
      | request message =>
          rw [processMessage_request environment answers message world installing, route_eq]
          by_cases accepted : world.currentState.own.accepts message.request.requestType = true
          · by_cases known : Known message world.session
            · rw [if_pos accepted, if_pos known]
              exact .inl ⟨message, rfl, accepted, known, rfl⟩
            · rw [if_pos accepted, if_neg known]
              right
              constructor
              · rintro _ ⟨⟩ valid
                exact known valid.2
              · exact (stopStateMachine_ends message _ _).imp_left fun stops =>
                  ⟨message, rfl, stops⟩
          · rw [if_neg accepted]
            right
            constructor
            · rintro _ ⟨⟩ valid
              exact accepted valid.1
            · exact (stopStateMachine_ends message _ _).imp_left fun stops =>
                ⟨message, rfl, stops⟩
  answer_effects answers := answer_effects environment answers

abbrev Received := Secc.Received V2GMessage Answers

abbrev SECCSession (σ : Type) :=
  Secc.SECCSession Session Own StateName ResponseMessage Call (ServiceRegistry σ)

/-- `SECCCommunicationSession`, once ISO 15118-20 has been agreed on. -/
abbrev machine (environment : Environment) :
    SessionStateMachine Received Own StateName ResponseMessage (World σ) :=
  (protocol environment).machine

variable {environment : Environment} {session next : SECCSession σ}

/-- A step that goes on has answered a request. -/
theorem step_answered {input : Option Received}
    (step : (machine environment).Step session input next) (goesOn : next.ended = false) :
    ∃ message answers reached response, input = some ⟨.request message, answers⟩ ∧
      (protocol environment).Answered session message answers reached response next :=
  SeccProtocol.step_answered step goesOn

/-- The controller methods that a step calls are those of the request that it answers. -/
theorem call_of_step {received : Received}
    (step : (machine environment).Step session (some received) next) {call : Call}
    (made : call ∈ next.world.calls) (other : call ≠ .setPresentProtocolState) :
    ∃ message reached, received.message = .request message ∧
      session.world.currentState.own.accepts message.request.requestType = true ∧
      Known message session.world.session ∧
      mayCall message.request.requestType call = true ∧
      Reaches (answer environment received.answers message
        (answering session.world.currentState message.request.requestType).own)
        { session.world with
          currentState := answering session.world.currentState message.request.requestType
          calls := [] } reached ∧
      call ∈ reached.calls :=
  SeccProtocol.call_of_step step made other

section Answered

variable {message : RequestMessage} {answers : Answers} {reached : World σ}
  {response : ResponseMessage}
  (answered : (protocol environment).Answered session message answers reached response next)

include answered

theorem accepted_of_answered :
    session.world.currentState.own.accepts message.request.requestType = true :=
  answered.accepted

theorem kept_of_answered :
    kept message.request.requestType reached.session =
      kept message.request.requestType session.world.session :=
  answered.effects.session

/-- The object that answered stays, or a new one of a class that the table of ISO 15118-20
allows is constructed. -/
theorem leads_of_answered (resting : session.world.currentState.nextState = none) :
    reached.currentState.nextState = none ∧
        next.world.currentState = reached.currentState ∧
        reached.currentState.own.name = answeredBy message.request.requestType ∨
      ∃ name, reached.currentState.nextState = some (.state name) ∧
        next.world.currentState = { own := name.new } ∧
        mayGoTo message.request.requestType name = true :=
  answered.leads resting

end Answered

/-- A session at its start. -/
def New (session : SECCSession σ) : Prop :=
  session.world.currentState = { own := .sessionSetup } ∧ session.sent = [] ∧
    session.ended = false

end

/-! ## A sample session -/

namespace Sample

/-- Two ways of authorization, and no value-added service. -/
def environment : Environment where
  config :=
    { supportedAuthOptions := [.eim, .pnc]
      allowCertInstallService := false
      standbyAllowed := false }
  verifySignature _ _ := .ok true

/-- A controller of a DC charger that is ready for every request. -/
def answers : Answers where
  randomSessionId := "10"
  randomChallenge := [1, 2, 3]
  getEvseId := .ok "evse"
  isEimAuthorized := .ok false
  getSupportedProviders := .ok none
  isAuthorized := .ok { authorizationStatus := .accepted }
  getEnergyServiceList := .ok ⟨[⟨2, true⟩]⟩
  getVasList := .ok none
  serviceRenegotiationSupported := .ok false
  getServiceParameterList _ := .ok (some ⟨[⟨1, [⟨"ControlMode", .intValue 2⟩]⟩]⟩)
  getScheduleExchangeParams := .ok (some (.dynamic ⟨none, none, none, none⟩))
  readyToCharge := .ok true
  setHlcCharging _ := .ok ⟨⟩
  stopCharger := .ok ⟨⟩
  isContactorOpened := .ok true
  isContactorClosed := .ok (some true)
  waitForStateCOrD := .ok true
  getAcChargeParamsV20 := .ok none
  getDcChargeParamsV20 := .ok (some (.dc ⟨zeroRational, zeroRational, zeroRational,
    zeroRational, zeroRational, zeroRational, none⟩))
  sendRatedLimits := .ok ⟨⟩
  getMeterInfoV20 := .ok ⟨⟩
  getEvseStatus := .ok none
  getAcChargeLoopParamsV20 := .ok none
  startCableCheck := .ok ⟨⟩
  getCableCheckStatus := .ok (some .valid)
  sendChargingCommand := .ok ⟨⟩
  sendDisplayParams := .ok ⟨⟩
  getEvsePresentVoltage := .ok zeroRational
  getEvsePresentCurrent := .ok zeroRational
  isEvsePowerLimitAchieved := .ok false
  isEvseCurrentLimitAchieved := .ok false
  isEvseVoltageLimitAchieved := .ok false
  setPresentProtocolState := .ok ⟨⟩

def start : SECCSession BatteryHealthService where
  world :=
    { session := {}
      evDataContext := {}
      evseDataContext := {}
      serviceRegistry := ⟨{}, [], none⟩
      currentState := { own := .sessionSetup }
      calls := [] }

theorem new_start : New start :=
  ⟨rfl, rfl, rfl⟩

/-- A request of the session that the controller has given an id to. -/
def request (request : Request) (answers : Answers := answers) : Option Received :=
  some ⟨.request ⟨{ sessionId := "10" }, request⟩, answers⟩

def authorizationReq : AuthorizationReq :=
  ⟨.eim, none, true, AuthorizationReq.eim_set⟩

/-- The session up to the answer to an `AuthorizationReq`. -/
def authorizationHistory (answers : Answers) : List (Option Received) :=
  [request (.authorizationReq authorizationReq) answers, request .authorizationSetupReq,
    request (.sessionSetupReq ⟨"ev"⟩)]

theorem run_authorizationHistory (answers : Answers) :
    Run (machine environment).Step start (authorizationHistory answers)
      ((machine environment).rcvAll start (authorizationHistory answers)) :=
  SessionStateMachine.run_rcvAll_cons (SessionStateMachine.run_rcvAll_cons
    (SessionStateMachine.run_rcvAll_cons .start rfl) rfl) rfl

/-- A DC session up to the schedule exchange, in the dynamic control mode. -/
def scheduleHistory : List (Option Received) :=
  request (.scheduleExchangeReq ⟨12, .dynamic ⟨0, none, none, zeroRational, zeroRational,
      zeroRational, none, none⟩⟩) ::
    request (.dcChargeParameterDiscoveryReq (.dc ⟨zeroRational, zeroRational, zeroRational,
      zeroRational, zeroRational, zeroRational, none⟩)) ::
    request (.serviceSelectionReq ⟨⟨2, 1⟩, none⟩) ::
    request (.serviceDetailReq ⟨2⟩) ::
    request (.serviceDiscoveryReq ⟨none⟩) ::
    authorizationHistory answers

def powerDeliveryReq (chargeProgress : ChargeProgress) : PowerDeliveryReq :=
  ⟨.finished, chargeProgress, some ⟨[], .dynamic⟩, none, fun _ _ => rfl⟩

end Sample

end Iso15118.Secc.V20
