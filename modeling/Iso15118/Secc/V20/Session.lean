import Iso15118.Secc.SeccState
import Iso15118.Shared.BatteryDiagnostics.Registry
import Iso15118.Shared.Messages.V20.Message

/-!
# The SECC's side of an ISO 15118-20 session

What a state of `secc/states/iso15118_20_states.py` reads and writes: the
session variables, the controller, and its own attributes. The controller may
answer anything and may raise; the calls made to it are recorded.
-/

namespace Iso15118.Secc.V20

open Effect
open Iso15118.Shared
open Iso15118.Shared.V20

/-! ## Classes of states -/

/-- The classes that a state may go to. -/
inductive StateName where
  | sessionSetup
  | authorizationSetup
  | authorization
  | certificateInstallation
  | serviceDiscovery
  | serviceDetail
  | serviceSelection
  | scheduleExchange
  | powerDelivery
  | sessionStop
  | acChargeParameterDiscovery
  | acChargeLoop
  | dcChargeParameterDiscovery
  | dcCableCheck
  | dcPreCharge
  | dcChargeLoop
  | dcWeldingDetection
  deriving DecidableEq, Repr

/-- A state with the attributes that its class adds. -/
inductive Own where
  | sessionSetup
  | authorizationSetup (expectingAuthSetupReq : Bool)
  | authorization (expectingAuthorizationReq : Bool)
  | certificateInstallation
  | serviceDiscovery (expectingServiceDiscoveryReq : Bool)
  | serviceDetail (expectingServiceDetailReq : Bool)
  | serviceSelection
  | scheduleExchange
  | powerDelivery
  | sessionStop
  | acChargeParameterDiscovery
  | acChargeLoop
  | dcChargeParameterDiscovery
  | dcCableCheck (contactorsClosed cableCheckStarted : Bool)
  | dcPreCharge (expectingPrechargeReq : Bool)
  | dcChargeLoop (expectingChargeLoopReq : Bool)
  | dcWeldingDetection (expectingWeldingDetectionReq : Bool)
  deriving DecidableEq, Repr

/-- What `__init__` of a class sets. -/
def StateName.new : StateName → Own
  | .sessionSetup => .sessionSetup
  | .authorizationSetup => .authorizationSetup true
  | .authorization => .authorization true
  | .certificateInstallation => .certificateInstallation
  | .serviceDiscovery => .serviceDiscovery true
  | .serviceDetail => .serviceDetail true
  | .serviceSelection => .serviceSelection
  | .scheduleExchange => .scheduleExchange
  | .powerDelivery => .powerDelivery
  | .sessionStop => .sessionStop
  | .acChargeParameterDiscovery => .acChargeParameterDiscovery
  | .acChargeLoop => .acChargeLoop
  | .dcChargeParameterDiscovery => .dcChargeParameterDiscovery
  | .dcCableCheck => .dcCableCheck false false
  | .dcPreCharge => .dcPreCharge true
  | .dcChargeLoop => .dcChargeLoop true
  | .dcWeldingDetection => .dcWeldingDetection true

abbrev CurrentState := StateObject Own StateName ResponseMessage

/-! ## The controller -/

/-- `AuthorizationResponse`. A status of another protocol's enumeration counts as
the member with the same value. -/
structure AuthorizationResponse where
  authorizationStatus : AuthorizationStatus
  certificateResponseStatus : Option ResponseCode := none
  deriving DecidableEq

/-- The class of the parameters that the controller hands to an AC response. -/
inductive ACResParams where
  | charge
  | bptCharge
  deriving DecidableEq, Repr

inductive ACLoopResParams where
  | scheduled
  | dynamic
  | bptScheduled
  | bptDynamic
  deriving DecidableEq, Repr

/-- What the controller, and the source of random bytes, answer while one
message is processed. `waitForStateCOrD` is the outcome of polling
`get_cp_state`. -/
structure Answers where
  randomSessionId : String
  randomChallenge : List UInt8
  getEvseId : Except PyError String
  isEimAuthorized : Except PyError Bool
  getSupportedProviders : Except PyError (Option (List String))
  isAuthorized : Except PyError AuthorizationResponse
  getEnergyServiceList : Except PyError ServiceList
  getVasList : Except PyError (Option ServiceList)
  serviceRenegotiationSupported : Except PyError Bool
  getServiceParameterList : Int → Except PyError (Option ServiceParameterList)
  getScheduleExchangeParams : Except PyError (Option ScheduleExchangeResParams)
  readyToCharge : Except PyError Bool
  setHlcCharging : Bool → Except PyError PUnit
  stopCharger : Except PyError PUnit
  isContactorOpened : Except PyError Bool
  isContactorClosed : Except PyError (Option Bool)
  waitForStateCOrD : Except PyError Bool
  getAcChargeParamsV20 : Except PyError (Option ACResParams)
  getDcChargeParamsV20 : Except PyError (Option DCChargeParameterDiscoveryRes)
  sendRatedLimits : Except PyError PUnit
  getMeterInfoV20 : Except PyError PUnit
  getEvseStatus : Except PyError (Option EVSEStatus)
  getAcChargeLoopParamsV20 : Except PyError (Option ACLoopResParams)
  startCableCheck : Except PyError PUnit
  getCableCheckStatus : Except PyError (Option IsolationLevel)
  sendChargingCommand : Except PyError PUnit
  sendDisplayParams : Except PyError PUnit
  getEvsePresentVoltage : Except PyError RationalNumber
  getEvsePresentCurrent : Except PyError RationalNumber
  isEvsePowerLimitAchieved : Except PyError Bool
  isEvseCurrentLimitAchieved : Except PyError Bool
  isEvseVoltageLimitAchieved : Except PyError Bool
  setPresentProtocolState : Except PyError PUnit

/-- A call of a controller method. -/
inductive Call where
  | getEvseId
  | isEimAuthorized
  | getSupportedProviders
  | isAuthorized
  | getEnergyServiceList
  | getVasList
  | serviceRenegotiationSupported
  | getServiceParameterList (serviceId : Int)
  | getScheduleExchangeParams
  | readyToCharge
  | setHlcCharging (isOngoing : Bool)
  | stopCharger
  | isContactorOpened
  | isContactorClosed
  | getCpState
  | getAcChargeParamsV20
  | getDcChargeParamsV20
  | sendRatedLimits
  | getMeterInfoV20
  | getEvseStatus
  | getAcChargeLoopParamsV20
  | getDcChargeLoopParamsV20
  | startCableCheck
  | getCableCheckStatus
  | sendChargingCommand (evTargetVoltage evTargetCurrent : Option ℚ)
      (isPrecharge isSessionBpt : Bool)
  | sendDisplayParams
  | getEvsePresentVoltage
  | getEvsePresentCurrent
  | isEvsePowerLimitAchieved
  | isEvseCurrentLimitAchieved
  | isEvseVoltageLimitAchieved
  | setPresentProtocolState
  deriving DecidableEq

/-! ## The session -/

/-- The part of `Config` that these states read. -/
structure Config where
  supportedAuthOptions : List AuthEnum
  allowCertInstallService : Bool
  standbyAllowed : Bool

/-- What does not change during a session. `verifySignature` is
`verify_signature` on the signature of a header, the parameters it covers and
their leaf certificate. -/
structure Environment where
  config : Config
  verifySignature : Option Signature → PnCAuthReqParams → Except PyError Bool

/-- The variables of `SECCCommunicationSession` that these states use. -/
structure Session where
  sessionId : String := ""
  evccId : Option String := none
  offeredAuthOptions : List AuthEnum := []
  selectedAuthOption : Option AuthEnum := none
  genChallenge : Option (List UInt8) := none
  matchedServicesV20 : List MatchedService := []
  selectedVasListV20 : List SelectedVAS := []
  selectedEnergyService : Option SelectedEnergyService := none
  controlMode : Option ControlMode := none
  offeredSchedulesV20 : List ScheduleTuple := []
  stopReason : Option StopNotification := none
  deriving DecidableEq

/-- What processing a message can change. -/
abbrev World (σ : Type) :=
  Secc.World Session Own StateName ResponseMessage Call (ServiceRegistry σ)

/-- A method of a state. -/
abbrev Program (σ : Type) := EStateM PyError (World σ)

section

variable {σ : Type}

/-- The constructor of a state makes the new object the current one. -/
def enter (name : StateName) : Program σ PUnit :=
  modify fun world => { world with currentState := { own := name.new } }

def v2gSeccSequenceTimeout : ℚ := 60

/-- `create_next_message` with a response of the current session. The header is a part
of the response. -/
def createNextMessage (nextState : Option (NextState StateName)) (responseCode : ResponseCode)
    (response : Response) (timeout : ℚ := v2gSeccSequenceTimeout) : Program σ PUnit :=
  createMessage nextState Session.sessionId
    (fun session => ⟨{ sessionId := session.sessionId }, responseCode, response⟩) timeout

end

/-! ## Failed responses -/

def zeroRational : RationalNumber := ⟨0, 0, int8_zero, int16_zero⟩

/-- `init_failed_responses_iso_v20`, the responses with minimal payload. -/
def failedResponse : RequestType → Response
  | .sessionSetupReq => .sessionSetupRes ""
  | .authorizationReq => .authorizationRes .finished
  | .authorizationSetupReq => .authorizationSetupRes ⟨[.eim], false, none⟩
  | .certificateInstallationReq => .certificateInstallationRes
  | .serviceDiscoveryReq => .serviceDiscoveryRes ⟨false, ⟨[⟨0, false⟩]⟩, none⟩
  | .serviceDetailReq => .serviceDetailRes ⟨0, ⟨[]⟩⟩
  | .serviceSelectionReq => .serviceSelectionRes
  | .acChargeParameterDiscoveryReq => .acChargeParameterDiscoveryRes
  | .dcChargeParameterDiscoveryReq =>
      .dcChargeParameterDiscoveryRes (.dc
        ⟨zeroRational, zeroRational, zeroRational, zeroRational, zeroRational, zeroRational,
          none⟩)
  | .scheduleExchangeReq =>
      .scheduleExchangeRes
        ⟨.ongoing, some (.dynamic ⟨none, none, none, some ⟨0, []⟩⟩), none, by simp⟩
  | .powerDeliveryReq => .powerDeliveryRes
  | .acChargeLoopReq => .acChargeLoopRes none
  | .dcChargeLoopReq => .dcChargeLoopRes none (.scheduled ⟨some zeroRational, none, none, none⟩)
  | .dcPreChargeReq => .dcPreChargeRes zeroRational
  | .dcCableCheckReq => .dcCableCheckRes .finished
  | .dcWeldingDetectionReq => .dcWeldingDetectionRes zeroRational
  | .sessionStopReq => .sessionStopRes

variable {σ : Type}

/-- `stop_state_machine`. The table of failed responses has none for a response,
and unpacking the missing entry raises. -/
def stopStateMachine (faultyRequest : V2GMessage) (responseCode : ResponseCode) :
    Program σ PUnit := do
  updateSession fun session => { session with stopReason := some { successful := false } }
  match faultyRequest with
  | .request message =>
      createNextMessage (some .terminate) responseCode
        (failedResponse message.request.requestType) 0
  | .response _ => throw .typeError

/-! ## Weakest preconditions -/

section

variable {onOk : PUnit → World σ → Prop} {onError : PyError → World σ → Prop} {world : World σ}

@[simp]
theorem wp_createNextMessage (nextState : Option (NextState StateName))
    (responseCode : ResponseCode) (response : Response) (timeout : ℚ) :
    wp (createNextMessage nextState responseCode response timeout) onOk onError world ↔
      (checkSessionId world.session.sessionId = .ok () →
        onOk ⟨⟩ { world with
          currentState := world.currentState.createNextMessage nextState
            ⟨{ sessionId := world.session.sessionId }, responseCode, response⟩ timeout }) ∧
      ∀ exception, checkSessionId world.session.sessionId = .error exception →
        onError exception world :=
  wp_createMessage nextState _ _ timeout

@[simp]
theorem returns_createNextMessage (nextState : Option (NextState StateName))
    (responseCode : ResponseCode) (response : Response) (timeout : ℚ) :
    returns (createNextMessage nextState responseCode response timeout) onOk world ↔
      ValidSessionId world.session.sessionId ∧
        onOk ⟨⟩ { world with
          currentState := world.currentState.createNextMessage nextState
            ⟨{ sessionId := world.session.sessionId }, responseCode, response⟩ timeout } :=
  (wp_createNextMessage nextState responseCode response timeout).trans checkSessionId_passes_iff

/-- What holds with the message created holds when it could be created. -/
theorem createNextMessage_ensures {nextState : Option (NextState StateName)}
    {responseCode : ResponseCode} {response : Response} {timeout : ℚ} {property : World σ → Prop}
    (holds : property { world with
      currentState := world.currentState.createNextMessage nextState
        ⟨{ sessionId := world.session.sessionId }, responseCode, response⟩ timeout }) :
    wp (createNextMessage nextState responseCode response timeout) (fun _ next => property next)
      (fun _ _ => True) world := by
  rw [wp_createNextMessage]
  exact ⟨fun _ => holds, fun _ _ => trivial⟩

@[simp]
theorem wp_stopStateMachine (message : RequestMessage) (responseCode : ResponseCode) :
    wp (stopStateMachine (.request message) responseCode) onOk onError world ↔
      wp (createNextMessage (some .terminate) responseCode
          (failedResponse message.request.requestType) 0) onOk onError
        { world with
          session := { world.session with stopReason := some { successful := false } } } :=
  Iff.rfl

/-- A state machine that has been stopped goes to `Terminate`. -/
theorem stopStateMachine_terminates (message : RequestMessage) (responseCode : ResponseCode)
    (world : World σ) :
    wp (stopStateMachine (.request message) responseCode)
      (fun _ next => next.currentState.nextState = some .terminate) (fun _ _ => True) world := by
  rw [wp_stopStateMachine]
  exact createNextMessage_ensures rfl

/-- Of a state machine that has been stopped nothing is asked that concerns a session that
goes on. -/
theorem stopStateMachine_goesOn (message : V2GMessage) (responseCode : ResponseCode)
    {property : World σ → Prop} (world : World σ) :
    wp (stopStateMachine message responseCode)
      (fun _ next => next.currentState.nextState ≠ some .terminate → property next)
      (fun _ _ => True) world := by
  cases message with
  | request message =>
      exact wp_goesOn_of_terminates (stopStateMachine_terminates message responseCode world)
  | response message => trivial

end

/-- Stopping changes the reason of the stop, and creates a message for a request. -/
theorem keeps_stopStateMachine {r : World σ → World σ → Prop} [IsPreorder (World σ) r]
    {message : V2GMessage} {responseCode : ResponseCode}
    (stops : Keeps r (updateSession fun session =>
      { session with stopReason := some { successful := false } } : Program σ PUnit))
    (creates : ∀ request, message = .request request →
      Keeps r (createNextMessage (some .terminate) responseCode
        (failedResponse request.request.requestType) 0 : Program σ PUnit)) :
    Keeps r (stopStateMachine message responseCode : Program σ PUnit) := by
  apply keeps_bind stops
  intro _
  cases message with
  | request message => exact creates message rfl
  | response message => exact keeps_throw _

/-! ## Checking a message -/

/-- The session id of a message is the one of the session, or need not be. -/
def Known (message : RequestMessage) (session : Session) : Prop :=
  message.request.requestType = .sessionSetupReq ∨ message.header.sessionId = session.sessionId

instance (message : RequestMessage) (session : Session) : Decidable (Known message session) :=
  inferInstanceAs (Decidable (_ ∨ _))

/-- The response code of a refused message. -/
def refusalCode : Refusal → ResponseCode
  | .sequenceError => .failedSequenceError
  | .unknownSession => .failedUnknownSession

/-- `check_msg`, on a message that is of the session's protocol. A response is never
expected. -/
def checkMsg (message : V2GMessage) (expectedMsgTypes : List RequestType)
    (expectFirst : Bool := true) : Program σ (Option RequestMessage) :=
  match message with
  | .request requestMessage =>
      Secc.checkMsg requestMessage
        (accepts expectedMsgTypes expectFirst requestMessage.request.requestType)
        (fun world => Known requestMessage world.session)
        (fun refusal => stopStateMachine message (refusalCode refusal))
  | .response _ => do
      stopStateMachine message .failedSequenceError
      return none

end Iso15118.Secc.V20
