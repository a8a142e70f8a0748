import Iso15118.Secc.V20.States

/-!
# Who answers a request

The states of the ISO 15118-20 SECC hand requests over to each other. Which
requests a state accepts and which state answers them is a table, and
`processMessage` follows it: a request that passes the check is answered by the
one class that can answer it, as a new object unless it is the current one.
-/

namespace Iso15118.Secc.V20

open Effect
open Iso15118.Shared
open Iso15118.Shared.V20

/-! ## The table -/

def Own.name : Own → StateName
  | .sessionSetup => .sessionSetup
  | .authorizationSetup _ => .authorizationSetup
  | .authorization _ => .authorization
  | .certificateInstallation => .certificateInstallation
  | .serviceDiscovery _ => .serviceDiscovery
  | .serviceDetail _ => .serviceDetail
  | .serviceSelection => .serviceSelection
  | .scheduleExchange => .scheduleExchange
  | .powerDelivery => .powerDelivery
  | .sessionStop => .sessionStop
  | .acChargeParameterDiscovery => .acChargeParameterDiscovery
  | .acChargeLoop => .acChargeLoop
  | .dcChargeParameterDiscovery => .dcChargeParameterDiscovery
  | .dcCableCheck _ _ => .dcCableCheck
  | .dcPreCharge _ => .dcPreCharge
  | .dcChargeLoop _ => .dcChargeLoop
  | .dcWeldingDetection _ => .dcWeldingDetection

@[simp]
theorem StateName.name_new (name : StateName) : name.new.name = name := by
  cases name <;> rfl

/-- The types of requests that a class expects, the one of its own first. -/
def StateName.expectedMsgTypes : StateName → List RequestType
  | .sessionSetup => [.sessionSetupReq]
  | .authorizationSetup =>
      [.authorizationSetupReq, .authorizationReq, .certificateInstallationReq, .sessionStopReq]
  | .authorization =>
      [.authorizationReq, .certificateInstallationReq, .serviceDiscoveryReq, .sessionStopReq]
  | .certificateInstallation => []
  | .serviceDiscovery => [.serviceDiscoveryReq, .serviceDetailReq, .sessionStopReq]
  | .serviceDetail => [.serviceDetailReq, .serviceSelectionReq, .sessionStopReq]
  | .serviceSelection => [.serviceSelectionReq, .sessionStopReq]
  | .scheduleExchange =>
      [.scheduleExchangeReq, .dcCableCheckReq, .powerDeliveryReq, .sessionStopReq]
  | .powerDelivery => [.powerDeliveryReq, .dcWeldingDetectionReq, .sessionStopReq]
  | .sessionStop => [.sessionStopReq]
  | .acChargeParameterDiscovery => [.acChargeParameterDiscoveryReq, .sessionStopReq]
  | .acChargeLoop => [.acChargeLoopReq, .powerDeliveryReq, .sessionStopReq]
  | .dcChargeParameterDiscovery => [.dcChargeParameterDiscoveryReq, .sessionStopReq]
  | .dcCableCheck => [.dcCableCheckReq, .sessionStopReq]
  | .dcPreCharge => [.dcPreChargeReq, .powerDeliveryReq]
  | .dcChargeLoop => [.dcChargeLoopReq, .powerDeliveryReq]
  | .dcWeldingDetection => [.dcWeldingDetectionReq, .sessionStopReq]

/-- Whether an object still waits for the request of its own class. -/
def Own.expectFirst : Own → Bool
  | .sessionSetup => true
  | .authorizationSetup expecting => expecting
  | .authorization expecting => expecting
  | .serviceDiscovery expecting => expecting
  | .serviceDetail expecting => expecting
  | .dcPreCharge expecting => expecting
  | .dcChargeLoop expecting => expecting
  | .dcWeldingDetection expecting => expecting
  | _ => false

/-- The class that answers a request. -/
def answeredBy : RequestType → StateName
  | .sessionSetupReq => .sessionSetup
  | .authorizationSetupReq => .authorizationSetup
  | .authorizationReq => .authorization
  | .certificateInstallationReq => .certificateInstallation
  | .serviceDiscoveryReq => .serviceDiscovery
  | .serviceDetailReq => .serviceDetail
  | .serviceSelectionReq => .serviceSelection
  | .scheduleExchangeReq => .scheduleExchange
  | .powerDeliveryReq => .powerDelivery
  | .sessionStopReq => .sessionStop
  | .acChargeParameterDiscoveryReq => .acChargeParameterDiscovery
  | .acChargeLoopReq => .acChargeLoop
  | .dcChargeParameterDiscoveryReq => .dcChargeParameterDiscovery
  | .dcCableCheckReq => .dcCableCheck
  | .dcPreChargeReq => .dcPreCharge
  | .dcChargeLoopReq => .dcChargeLoop
  | .dcWeldingDetectionReq => .dcWeldingDetection

/-- A class of states answers one type of request. -/
theorem type_eq_of_answeredBy {first second : RequestType}
    (same : answeredBy first = answeredBy second) : first = second := by
  have inverse : ∀ type, (match answeredBy type with
      | .sessionSetup => RequestType.sessionSetupReq
      | .authorizationSetup => .authorizationSetupReq
      | .authorization => .authorizationReq
      | .certificateInstallation => .certificateInstallationReq
      | .serviceDiscovery => .serviceDiscoveryReq
      | .serviceDetail => .serviceDetailReq
      | .serviceSelection => .serviceSelectionReq
      | .scheduleExchange => .scheduleExchangeReq
      | .powerDelivery => .powerDeliveryReq
      | .sessionStop => .sessionStopReq
      | .acChargeParameterDiscovery => .acChargeParameterDiscoveryReq
      | .acChargeLoop => .acChargeLoopReq
      | .dcChargeParameterDiscovery => .dcChargeParameterDiscoveryReq
      | .dcCableCheck => .dcCableCheckReq
      | .dcPreCharge => .dcPreChargeReq
      | .dcChargeLoop => .dcChargeLoopReq
      | .dcWeldingDetection => .dcWeldingDetectionReq) = type := by
    intro type
    cases type <;> rfl
  rw [← inverse first, same, inverse]

/-- The table of the ISO 15118-20 states. -/
def stateTable : StateTable Own StateName RequestType where
  name := Own.name
  new := StateName.new
  expectedMsgTypes := StateName.expectedMsgTypes
  expectFirst := Own.expectFirst
  answeredBy := answeredBy

def Own.accepts (own : Own) (type : RequestType) : Bool :=
  stateTable.accepts own type

theorem mem_expectedMsgTypes {own : Own} {type : RequestType}
    (accepted : own.accepts type = true) : type ∈ own.name.expectedMsgTypes :=
  mem_of_accepts accepted

/-- The current object when the request is answered. -/
def answering (object : CurrentState) (type : RequestType) : CurrentState :=
  stateTable.answering object type

/-- The progress of the cable check that an object has. -/
def Own.cableCheck : Own → Bool × Bool
  | .dcCableCheck contactorsClosed cableCheckStarted => (contactorsClosed, cableCheckStarted)
  | _ => (false, false)

variable {σ : Type} [DiagnosticService σ]

/-- The method that answers a request, of an object in the state `own`. -/
def answer (environment : Environment) (answers : Answers) (message : RequestMessage)
    (own : Own) : Program σ PUnit :=
  match message.request with
  | .sessionSetupReq req => SessionSetup.onSessionSetupReq answers message.header req
  | .authorizationSetupReq => AuthorizationSetup.onAuthorizationSetupReq environment answers
  | .authorizationReq req =>
      Authorization.onAuthorizationReq environment answers (.request message) message.header req
  | .certificateInstallationReq => CertificateInstallation.processMessage
  | .serviceDiscoveryReq _ => ServiceDiscovery.onServiceDiscoveryReq answers
  | .serviceDetailReq req => ServiceDetail.onServiceDetailReq answers req
  | .serviceSelectionReq req => ServiceSelection.onServiceSelectionReq (.request message) req
  | .scheduleExchangeReq req =>
      ScheduleExchange.onScheduleExchangeReq answers (.request message) req
  | .powerDeliveryReq req =>
      PowerDelivery.onPowerDeliveryReq environment answers (.request message) req
  | .sessionStopReq req => SessionStop.onSessionStopReq answers req
  | .acChargeParameterDiscoveryReq req =>
      ACChargeParameterDiscovery.onAcChargeParameterDiscoveryReq answers (.request message) req
  | .acChargeLoopReq req => ACChargeLoop.onAcChargeLoopReq answers req
  | .dcChargeParameterDiscoveryReq req =>
      DCChargeParameterDiscovery.onDcChargeParameterDiscoveryReq answers (.request message) req
  | .dcCableCheckReq =>
      DCCableCheck.onDcCableCheckReq answers (.request message) own.cableCheck.1
        own.cableCheck.2
  | .dcPreChargeReq req => DCPreCharge.onDcPreChargeReq answers (.request message) req
  | .dcChargeLoopReq req => DCChargeLoop.onDcChargeLoopReq answers (.request message) req
  | .dcWeldingDetectionReq _ => DCWeldingDetection.onDcWeldingDetectionReq answers

/-- What the table says that happens to a request. -/
def route (environment : Environment) (answers : Answers) (message : RequestMessage)
    (world : World σ) : EStateM.Result PyError (World σ) PUnit :=
  stateTable.route message.request.requestType (fun world => Known message world.session)
    (fun refusal => stopStateMachine (.request message) (refusalCode refusal))
    (answer environment answers message) world

theorem route_eq (environment : Environment) (answers : Answers) (message : RequestMessage)
    (world : World σ) :
    route environment answers message world =
      if world.currentState.own.accepts message.request.requestType then
        if Known message world.session then
          answer environment answers message
            (answering world.currentState message.request.requestType).own
            { world with currentState := answering world.currentState message.request.requestType }
        else
          stopStateMachine (.request message) .failedUnknownSession world
      else
        stopStateMachine (.request message) .failedSequenceError world :=
  rfl

/-! ## The states follow it -/

omit [DiagnosticService σ] in
/-- The first of the expected types is always accepted. -/
theorem bind_checkMsg_first {message : RequestMessage} {first : RequestType}
    {others : List RequestType} {expectFirst : Bool}
    {next : Option RequestMessage → Program σ PUnit} {world : World σ}
    (own : message.request.requestType = first) (known : Known message world.session)
    (ignored : next none = pure ⟨⟩) :
    (checkMsg (.request message) (first :: others) expectFirst >>= next) world =
      next (some message) world := by
  unfold checkMsg
  dsimp only
  rw [bind_checkMsg ignored, if_pos, if_pos known]
  simp [accepts, own]

/-- A state that was just entered answers the request it was entered for. -/
theorem answered_after_enter (environment : Environment) (answers : Answers)
    (message : RequestMessage) (world : World σ) (known : Known message world.session)
    (entered : world.currentState.own = (answeredBy message.request.requestType).new) :
    processMessage environment answers (.request message) world =
      answer environment answers message world.currentState.own world := by
  rcases message with ⟨header, request⟩
  unfold processMessage
  rw [get_bind_apply, entered]
  cases request with
  | sessionSetupReq req => exact bind_checkMsg_first rfl known rfl
  | authorizationSetupReq => exact bind_checkMsg_first rfl known rfl
  | authorizationReq req => exact bind_checkMsg_first rfl known rfl
  | certificateInstallationReq => rfl
  | serviceDiscoveryReq req => exact bind_checkMsg_first rfl known rfl
  | serviceDetailReq req => exact bind_checkMsg_first rfl known rfl
  | serviceSelectionReq req => exact bind_checkMsg_first rfl known rfl
  | scheduleExchangeReq req => exact bind_checkMsg_first rfl known rfl
  | powerDeliveryReq req => exact bind_checkMsg_first rfl known rfl
  | sessionStopReq req => exact bind_checkMsg_first rfl known rfl
  | acChargeParameterDiscoveryReq req => exact bind_checkMsg_first rfl known rfl
  | acChargeLoopReq req => exact bind_checkMsg_first rfl known rfl
  | dcChargeParameterDiscoveryReq req => exact bind_checkMsg_first rfl known rfl
  | dcCableCheckReq => exact bind_checkMsg_first rfl known rfl
  | dcPreChargeReq req => exact bind_checkMsg_first rfl known rfl
  | dcChargeLoopReq req => exact bind_checkMsg_first rfl known rfl
  | dcWeldingDetectionReq req => exact bind_checkMsg_first rfl known rfl

/-- A state follows the table if it checks what the table says, answers the request
of its own class and hands over the others. -/
theorem checked_eq_route {environment : Environment} {answers : Answers}
    {message : RequestMessage} {world : World σ} {own : Own}
    {next : Option RequestMessage → Program σ PUnit} (current : world.currentState.own = own)
    (ignored : next none = pure ⟨⟩)
    (answered : own.name = answeredBy message.request.requestType →
      next (some message) world = answer environment answers message own world)
    (handedOver : own.name ≠ answeredBy message.request.requestType →
      message.request.requestType ∈ own.name.expectedMsgTypes →
      next (some message) world = processMessage environment answers (.request message)
        { world with
          currentState := { own := (answeredBy message.request.requestType).new } }) :
    (checkMsg (.request message) own.name.expectedMsgTypes own.expectFirst >>= next) world =
      route environment answers message world := by
  have follows := @StateTable.checked_eq_route _ _ _ _ stateTable _ _ _ _ _ _ message
    message.request.requestType (fun world => Known message world.session) _
    (fun refusal => stopStateMachine (.request message) (refusalCode refusal))
    (answer environment answers message) next world own current ignored answered
  apply follows
  intro other known expected
  exact (handedOver other expected).trans
    (answered_after_enter environment answers message _ known rfl)

/-- The states follow the table. -/
theorem processMessage_request (environment : Environment) (answers : Answers)
    (message : RequestMessage) (world : World σ)
    (notInstalling : world.currentState.own ≠ .certificateInstallation) :
    processMessage environment answers (.request message) world =
      route environment answers message world := by
  rcases message with ⟨header, request⟩
  unfold processMessage
  rw [get_bind_apply]
  cases current : world.currentState.own
  case certificateInstallation => exact absurd current notInstalling
  all_goals
    apply checked_eq_route current rfl
    · intro same
      cases request <;> first
        | rfl
        | cases same
    · intro other expected
      cases request <;> first
        | rfl
        | exact absurd rfl other
        | simp [Own.name, StateName.expectedMsgTypes, Request.requestType] at expected

/-- A response is never expected, and stopping over one raises. -/
theorem processMessage_response (environment : Environment) (answers : Answers)
    (message : ResponseMessage) (world : World σ)
    (notInstalling : world.currentState.own ≠ .certificateInstallation) :
    processMessage environment answers (.response message) world =
      .error .typeError
        { world with
          session := { world.session with stopReason := some { successful := false } } } := by
  unfold processMessage
  rw [get_bind_apply]
  cases current : world.currentState.own
  case certificateInstallation => exact absurd current notInstalling
  all_goals rfl

theorem processMessage_certificateInstallation (environment : Environment) (answers : Answers)
    (message : V2GMessage) (world : World σ)
    (installing : world.currentState.own = .certificateInstallation) :
    processMessage environment answers message world = .error .notImplementedError world := by
  unfold processMessage
  rw [get_bind_apply, installing]
  rfl

end Iso15118.Secc.V20
