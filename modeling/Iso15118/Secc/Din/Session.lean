import Iso15118.Secc.SeccState
import Iso15118.Shared.Messages.Din.Body

/-!
# The SECC's side of a DIN SPEC 70121 session

What a state of `secc/states/din_spec_states.py` reads and writes, apart from what
every protocol has.
-/

namespace Iso15118.Secc.Din

open Effect
open Iso15118.Shared
open Iso15118.Shared.Din
open Iso15118.Shared.V2 (DCEVSEStatus DCEVSEChargeParameter EVSEProcessing)

/-! ## Classes of states -/

/-- The classes that a state may go to. -/
inductive StateName where
  | sessionSetup
  | serviceDiscovery
  | servicePaymentSelection
  | contractAuthentication
  | chargeParameterDiscovery
  | cableCheck
  | preCharge
  | powerDelivery
  | currentDemand
  | weldingDetection
  | sessionStop
  deriving DecidableEq, Repr

/-- A state with the attributes that its class adds. -/
inductive Own where
  | sessionSetup
  | serviceDiscovery
  | servicePaymentSelection
  | contractAuthentication
  | chargeParameterDiscovery
  | cableCheck (cableCheckStarted contactorsClosed : Bool)
  | preCharge (expectingPreChargeReq : Bool)
  | powerDelivery (expectingPowerDeliveryReq : Bool)
  | currentDemand (expectingCurrentDemandReq : Bool)
  | weldingDetection (expectWeldingDetection : Bool)
  | sessionStop
  deriving DecidableEq, Repr

/-- What `__init__` of a class sets. -/
def StateName.new : StateName → Own
  | .sessionSetup => .sessionSetup
  | .serviceDiscovery => .serviceDiscovery
  | .servicePaymentSelection => .servicePaymentSelection
  | .contractAuthentication => .contractAuthentication
  | .chargeParameterDiscovery => .chargeParameterDiscovery
  | .cableCheck => .cableCheck false false
  | .preCharge => .preCharge true
  | .powerDelivery => .powerDelivery true
  | .currentDemand => .currentDemand true
  | .weldingDetection => .weldingDetection true
  | .sessionStop => .sessionStop

abbrev CurrentState := StateObject Own StateName ResponseMessage

/-! ## The controller -/

/-- What the controller, and the source of random bytes, answer while one message is
processed. A present voltage or current is missing where the controller returns a
number of another protocol. -/
structure Answers where
  randomSessionId : String
  getEvseId : Except PyError String
  getSupportedEnergyTransferModes : Except PyError (List EnergyTransferMode)
  isAuthorized : Except PyError AuthorizationStatus
  sendRatedLimits : Except PyError PUnit
  getDcChargeParametersDinspec : Except PyError DCEVSEChargeParameter
  getSaScheduleListDinspec : Except PyError (Option (List SAScheduleTupleEntry))
  startCableCheck : Except PyError PUnit
  getCableCheckStatus : Except PyError (Option IsolationLevel)
  isContactorClosed : Except PyError (Option Bool)
  isContactorOpened : Except PyError Bool
  getDcEvseStatus : Except PyError DCEVSEStatus
  setHlcCharging : Bool → Except PyError PUnit
  stopCharger : Except PyError PUnit
  sendChargingCommand : Except PyError PUnit
  sendDisplayParams : Except PyError PUnit
  getEvsePresentVoltage : Except PyError (Option PhysicalValue)
  getEvsePresentCurrent : Except PyError (Option PhysicalValue)
  isEvseVoltageLimitAchieved : Except PyError Bool
  isEvsePowerLimitAchieved : Except PyError Bool
  getEvseMaxCurrentLimit : Except PyError (Option PhysicalValue)
  getEvseMaxVoltageLimit : Except PyError (Option PhysicalValue)
  getEvseMaxPowerLimit : Except PyError (Option PhysicalValue)
  setPresentProtocolState : Except PyError PUnit

/-- A call of a controller method. -/
inductive Call where
  | getEvseId
  | getSupportedEnergyTransferModes
  | isAuthorized
  | sendRatedLimits
  | getDcChargeParametersDinspec
  | getSaScheduleListDinspec
  | startCableCheck
  | getCableCheckStatus
  | isContactorClosed
  | isContactorOpened
  | getDcEvseStatus
  | setHlcCharging (isOngoing : Bool)
  | stopCharger
  | sendChargingCommand (evTargetVoltage evTargetCurrent : ℚ) (isPrecharge : Bool)
  | sendDisplayParams
  | getEvsePresentVoltage
  | getEvsePresentCurrent
  | isEvseVoltageLimitAchieved
  | isEvsePowerLimitAchieved
  | getEvseMaxCurrentLimit
  | getEvseMaxVoltageLimit
  | getEvseMaxPowerLimit
  | setPresentProtocolState
  deriving DecidableEq

/-! ## The session -/

/-- The part of `Config` that these states read. -/
structure Config where
  freeChargingService : Bool

/-- The variables of `SECCCommunicationSession` that these states use. -/
structure Session where
  sessionId : String := ""
  evccId : Option String := none
  offeredAuthOptions : List AuthEnum := []
  selectedAuthOption : Option AuthEnum := none
  chargeProgressStarted : Bool := false
  stopReason : Option StopNotification := none
  deriving DecidableEq

/-- The session after `stop_state_machine`. -/
def Session.stopped (session : Session) : Session :=
  { session with stopReason := some { successful := false } }

/-- What processing a message can change. -/
abbrev World := Secc.World Session Own StateName ResponseMessage Call PUnit

/-- A method of a state. -/
abbrev Program := EStateM PyError World

/-- The constructor of a state makes the new object the current one. -/
def enter (name : StateName) : Program PUnit :=
  modify fun world => { world with currentState := { own := name.new } }

def v2gSeccSequenceTimeout : ℚ := 60

/-- `create_next_message` with a response of the current session. -/
def createNextMessage (nextState : Option (NextState StateName)) (responseCode : ResponseCode)
    (response : Response) (timeout : ℚ := v2gSeccSequenceTimeout) : Program PUnit := do
  setNext nextState timeout
  createMessage nextState Session.sessionId
    (fun session => ⟨{ sessionId := session.sessionId }, responseCode, response⟩) timeout

/-! ## Failed responses -/

def zeroPhysical : PhysicalValue := ⟨0, 0, int16_zero, multiplier_zero⟩

/-- The status of the failed responses. -/
def stoppingDcEvseStatus : DCEVSEStatus := ⟨1000, .stopCharging, some .invalid, .evseNotReady⟩

/-- `init_failed_responses_din_spec_70121`, looked up by the name of the message. -/
def failedResponse : RequestType → Response
  | .sessionSetupReq => .sessionSetupRes "1234567"
  | .serviceDiscoveryReq => .serviceDiscoveryRes ⟨[.eim], false, .dcExtended⟩
  | .servicePaymentSelectionReq => .servicePaymentSelectionRes
  | .contractAuthenticationReq => .contractAuthenticationRes .finished
  | .chargeParameterDiscoveryReq =>
      .chargeParameterDiscoveryRes
        ⟨.finished, none,
          ⟨stoppingDcEvseStatus, zeroPhysical, zeroPhysical, zeroPhysical, zeroPhysical,
            zeroPhysical⟩⟩
  | .cableCheckReq => .cableCheckRes stoppingDcEvseStatus .finished
  | .preChargeReq => .preChargeRes stoppingDcEvseStatus zeroPhysical
  | .powerDeliveryReq => .powerDeliveryRes stoppingDcEvseStatus
  | .currentDemandReq =>
      .currentDemandRes
        ⟨stoppingDcEvseStatus, zeroPhysical, zeroPhysical, false, false, false,
          some zeroPhysical, some zeroPhysical, some zeroPhysical⟩
  | .weldingDetectionReq => .weldingDetectionRes stoppingDcEvseStatus zeroPhysical
  | .sessionStopReq => .sessionStopRes

/-- `stop_state_machine`. There is no failed response for what is not a request, and
setting the response code of `None` raises. -/
def stopStateMachine (faultyRequest : V2GMessage) (responseCode : ResponseCode) :
    Program PUnit := do
  updateSession Session.stopped
  match faultyRequest with
  | .request message =>
      createNextMessage (some .terminate) responseCode
        (failedResponse message.request.requestType) 0
  | .response _ => throw .attributeError
  | .empty _ => throw .attributeError

/-! ## Checking a message -/

/-- The session id of a message is the one of the session, or need not be. -/
def Known (message : RequestMessage) (session : Session) : Prop :=
  message.request.requestType = .sessionSetupReq ∨ message.header.sessionId = session.sessionId

instance (message : RequestMessage) (session : Session) : Decidable (Known message session) :=
  inferInstanceAs (Decidable (_ ∨ _))

/-- The response code of a refused message. -/
def refusalCode : Refusal → ResponseCode
  | .sequenceError => .failedSequenceError
  | .unknownSession => .failedUnknownSession

/-- `check_msg`, on a message that is of the session's protocol. Only a request is
ever expected. -/
def checkMsg (message : V2GMessage) (expectedMsgTypes : List RequestType)
    (expectFirst : Bool := true) : Program (Option RequestMessage) :=
  match message with
  | .request requestMessage =>
      Secc.checkMsg requestMessage
        (accepts expectedMsgTypes expectFirst requestMessage.request.requestType)
        (fun world => Known requestMessage world.session)
        (fun refusal => stopStateMachine message (refusalCode refusal))
  | .response _ => do
      stopStateMachine message .failedSequenceError
      return none
  | .empty _ => do
      stopStateMachine message .failedSequenceError
      return none

/-! ## Weakest preconditions -/

section

variable {onOk : PUnit → World → Prop} {onError : PyError → World → Prop} {world : World}

@[simp]
theorem wp_createNextMessage (nextState : Option (NextState StateName))
    (responseCode : ResponseCode) (response : Response) (timeout : ℚ) :
    wp (createNextMessage nextState responseCode response timeout) onOk onError world ↔
      (checkSessionId world.session.sessionId = .ok () →
        onOk ⟨⟩ { world with
          currentState := world.currentState.createNextMessage nextState
            ⟨{ sessionId := world.session.sessionId }, responseCode, response⟩ timeout }) ∧
      ∀ exception, checkSessionId world.session.sessionId = .error exception →
        onError exception { world with
          currentState :=
            { world.currentState with nextState := nextState, nextMsgTimeout := timeout } } := by
  unfold createNextMessage
  rw [wp_bind, wp_setNext, wp_createMessage]
  rfl

/-- What `stop_state_machine` leaves for a request. -/
theorem wp_stopStateMachine (message : RequestMessage) (responseCode : ResponseCode) :
    wp (stopStateMachine (.request message) responseCode) onOk onError world ↔
      wp (createNextMessage (some .terminate) responseCode
          (failedResponse message.request.requestType) 0) onOk onError
        { world with session := world.session.stopped } :=
  Iff.rfl

/-- A state machine that has been stopped goes to `Terminate`. -/
theorem stopStateMachine_terminates (message : V2GMessage) (responseCode : ResponseCode)
    (world : World) :
    wp (stopStateMachine message responseCode)
      (fun _ next => next.currentState.nextState = some .terminate) (fun _ _ => True) world := by
  cases message with
  | request message =>
      rw [wp_stopStateMachine, wp_createNextMessage]
      exact ⟨fun _ => rfl, fun _ _ => trivial⟩
  | response message => trivial
  | empty header => trivial

end

/-- Stopping changes the reason of the stop, and creates a message for a request. -/
theorem keeps_stopStateMachine {r : World → World → Prop} [IsPreorder World r]
    {message : V2GMessage} {responseCode : ResponseCode}
    (stops : Keeps r (updateSession Session.stopped : Program PUnit))
    (creates : ∀ request, message = .request request →
      Keeps r (createNextMessage (some .terminate) responseCode
        (failedResponse request.request.requestType) 0)) :
    Keeps r (stopStateMachine message responseCode) := by
  apply keeps_bind stops
  intro _
  cases message with
  | request message => exact creates message rfl
  | response message => exact keeps_throw _
  | empty header => exact keeps_throw _

end Iso15118.Secc.Din
