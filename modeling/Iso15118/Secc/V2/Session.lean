import Iso15118.Secc.SeccState
import Iso15118.Shared.Messages.V2.Body

/-!
# The SECC's side of an ISO 15118-2 session

What a state of `secc/states/iso15118_2_states.py` reads and writes, apart from
what every protocol has. Certificates and signatures are looked into only by
functions of `shared/security.py`, which are parameters here.
-/

namespace Iso15118.Secc.V2

open Effect
open Iso15118.Shared
open Iso15118.Shared.V2

/-! ## Classes of states -/

/-- The classes that a state may go to. -/
inductive StateName where
  | sessionSetup
  | serviceDiscovery
  | serviceDetail
  | paymentServiceSelection
  | certificateInstallation
  | paymentDetails
  | authorization
  | chargeParameterDiscovery
  | powerDelivery
  | meteringReceipt
  | sessionStop
  | chargingStatus
  | cableCheck
  | preCharge
  | currentDemand
  | weldingDetection
  deriving DecidableEq, Repr

/-- A state with the attributes that its class adds. -/
inductive Own where
  | sessionSetup
  | serviceDiscovery (expectingServiceDiscoveryReq : Bool)
  | serviceDetail (expectingServiceDetailReq : Bool)
  | paymentServiceSelection (expectingServiceSelectionReq : Bool)
  | certificateInstallation
  | paymentDetails
  | authorization (signatureVerifiedOnce authorizationComplete : Bool)
  | chargeParameterDiscovery (expectingChargeParameterDiscoveryReq : Bool)
  | powerDelivery (expectingPowerDeliveryReq : Bool)
  | meteringReceipt (expectingMeteringReceiptReq : Bool)
  | sessionStop
  | chargingStatus (expectingChargingStatusReq : Bool)
  | cableCheck (cableCheckStarted contactorsClosed : Bool)
  | preCharge (expectingPrechargeReq : Bool)
  | currentDemand (expectingCurrentDemandReq : Bool)
  | weldingDetection (expectingWeldingDetectionReq : Bool)
  deriving DecidableEq, Repr

/-- What `__init__` of a class sets. -/
def StateName.new : StateName → Own
  | .sessionSetup => .sessionSetup
  | .serviceDiscovery => .serviceDiscovery true
  | .serviceDetail => .serviceDetail true
  | .paymentServiceSelection => .paymentServiceSelection true
  | .certificateInstallation => .certificateInstallation
  | .paymentDetails => .paymentDetails
  | .authorization => .authorization false false
  | .chargeParameterDiscovery => .chargeParameterDiscovery true
  | .powerDelivery => .powerDelivery true
  | .meteringReceipt => .meteringReceipt true
  | .sessionStop => .sessionStop
  | .chargingStatus => .chargingStatus true
  | .cableCheck => .cableCheck false false
  | .preCharge => .preCharge true
  | .currentDemand => .currentDemand true
  | .weldingDetection => .weldingDetection true

abbrev CurrentState := StateObject Own StateName ResponseMessage

/-! ## The controller -/

/-- `AuthorizationResponse`. A status of another protocol's enumeration counts as
the member with the same value. -/
structure AuthorizationResponse where
  authorizationStatus : AuthorizationStatus
  certificateResponseStatus : Option ResponseCode := none
  deriving DecidableEq

/-- What a backend has encoded: the message that its bytes decode to, or what
decoding them raises. -/
structure Base64 where
  decoded : Except PyError ResponseMessage

/-- What the controller, and the source of random bytes, answer while one
message is processed. `waitForStateCOrD` is the outcome of polling
`get_cp_state`. A present voltage or current is missing where the controller
returns a number of another protocol. `signSalesTariff` is the signature of the
sales tariff of the first schedule, if it has one. -/
structure Answers where
  randomSessionId : String
  randomChallenge : List UInt8
  getEvseId : Except PyError String
  isEimAuthorized : Except PyError Bool
  getSupportedEnergyTransferModes : Except PyError (List EnergyTransferMode)
  isAuthorized : Except PyError AuthorizationResponse
  readyToCharge : Except PyError Bool
  get15118EvCertificate : Except PyError Base64
  generateCertificateInstallationRes : Except PyError PUnit
  getAcChargeParamsV2 : Except PyError ACEVSEChargeParameter
  getDcChargeParametersV2 : Except PyError DCEVSEChargeParameter
  sendRatedLimits : Except PyError PUnit
  getSaScheduleList : Except PyError (Option (List SAScheduleTuple))
  signSalesTariff : Except PyError PUnit
  setHlcCharging : Bool → Except PyError PUnit
  stopCharger : Except PyError PUnit
  isContactorOpened : Except PyError Bool
  isContactorClosed : Except PyError (Option Bool)
  waitForStateCOrD : Except PyError Bool
  getAcEvseStatus : Except PyError ACEVSEStatus
  getDcEvseStatus : Except PyError DCEVSEStatus
  startCableCheck : Except PyError PUnit
  getCableCheckStatus : Except PyError (Option IsolationLevel)
  sendChargingCommand : Except PyError PUnit
  sendDisplayParams : Except PyError PUnit
  getEvsePresentVoltage : Except PyError (Option PhysicalValue)
  getEvsePresentCurrent : Except PyError (Option PhysicalValue)
  isEvsePowerLimitAchieved : Except PyError Bool
  isEvseCurrentLimitAchieved : Except PyError Bool
  isEvseVoltageLimitAchieved : Except PyError Bool
  getEvseMaxVoltageLimit : Except PyError (Option PhysicalValue)
  getEvseMaxCurrentLimit : Except PyError (Option PhysicalValue)
  getEvseMaxPowerLimit : Except PyError (Option PhysicalValue)
  setPresentProtocolState : Except PyError PUnit

/-- A call of a controller method. -/
inductive Call where
  | getEvseId
  | isEimAuthorized
  | getSupportedEnergyTransferModes
  | isAuthorized (idToken : Option String)
  | readyToCharge
  | get15118EvCertificate
  | getAcChargeParamsV2
  | getDcChargeParametersV2
  | sendRatedLimits
  | getSaScheduleList (departureTime : Int)
  | setHlcCharging (isOngoing : Bool)
  | stopCharger
  | isContactorOpened
  | isContactorClosed
  | getCpState
  | getAcEvseStatus
  | getDcEvseStatus
  | startCableCheck
  | getCableCheckStatus
  | sendChargingCommand (evTargetVoltage evTargetCurrent : ℚ) (isPrecharge : Bool)
  | sendDisplayParams
  | getEvsePresentVoltage
  | getEvsePresentCurrent
  | isEvsePowerLimitAchieved
  | isEvseCurrentLimitAchieved
  | isEvseVoltageLimitAchieved
  | getEvseMaxVoltageLimit
  | getEvseMaxCurrentLimit
  | getEvseMaxPowerLimit
  | setPresentProtocolState
  deriving DecidableEq

/-! ## The session -/

/-- The part of `Config` that these states read. -/
structure Config where
  supportedAuthOptions : List AuthEnum
  freeChargingService : Bool
  allowCertInstallService : Bool
  freeCertInstallService : Bool
  useCpoBackend : Bool

/-- What does not change during a session: the configuration, the certificates on
the station, and `verify_signature` on the signature of a header, the signed
element and the leaf certificate. A `CertificateInstallationReq` is verified
against the OEM certificates on the station too. -/
structure Environment where
  config : Config
  verifySignature : Option Signature → Request → Certificate → Except PyError Bool
  verifyInstallationSignature :
    Option Signature → CertificateInstallationReq → Except PyError Bool
  logCertsDetails : List Certificate → Except PyError PUnit
  loadMoRoot : Except PyError Certificate
  verifyCerts : Certificate → List Certificate → Option Certificate → Except PyError PUnit
  getCertificateHashData : CertificateChain → Option Certificate → Except PyError PUnit
  buildPemCertificateChain : CertificateChain → Option Certificate → Except PyError PUnit

/-- `EVSessionContext15118`, what a paused session is resumed with. -/
structure EVSessionContext where
  sessionId : Option String := none
  authOptions : List AuthEnum := []
  chargeService : Option ChargeService := none
  saScheduleTupleId : Option Nat := none
  deriving DecidableEq

/-- The variables of `SECCCommunicationSession` that these states use. -/
structure Session where
  isTls : Bool := false
  sessionId : String := ""
  evSessionContext : Option EVSessionContext := some {}
  evccId : Option String := none
  offeredAuthOptions : List AuthEnum := []
  offeredServices : List ServiceDetails := []
  selectedAuthOption : Option AuthEnum := none
  genChallenge : Option (List UInt8) := none
  emaid : Option String := none
  contractCertChain : Option CertificateChain := none
  selectedChargingTypeIsAc : Bool := true
  offeredSchedules : List SAScheduleTuple := []
  selectedSchedule : Option Nat := none
  chargeProgressStarted : Bool := false
  sentMeterInfo : Option MeterInfo := none
  stopReason : Option StopNotification := none
  deriving DecidableEq

/-- The session after `stop_state_machine`. -/
def Session.stopped (session : Session) : Session :=
  { session with stopReason := some { successful := false } }

/-- What processing a message can change. -/
abbrev World := Secc.World Session Own StateName ResponseMessage Call PUnit

/-- A method of a state. -/
abbrev Program := EStateM PyError World

/-- The constructor of a state makes the new object the current one. -/
def enter (name : StateName) : Program PUnit :=
  modify fun world => { world with currentState := { own := name.new } }

def v2gSeccSequenceTimeout : ℚ := 60

/-- `create_next_message` with a message that is ready. -/
def prepare (nextState : Option (NextState StateName)) (message : ResponseMessage)
    (timeout : ℚ := v2gSeccSequenceTimeout) : Program PUnit :=
  modify fun world =>
    { world with currentState := world.currentState.createNextMessage nextState message timeout }

/-- `create_next_message` with a response of the current session. -/
def createNextMessage (nextState : Option (NextState StateName)) (responseCode : ResponseCode)
    (response : Response) (timeout : ℚ := v2gSeccSequenceTimeout) : Program PUnit := do
  setNext nextState timeout
  createMessage nextState Session.sessionId
    (fun session => ⟨{ sessionId := session.sessionId }, responseCode, response⟩) timeout

/-! ## Failed responses -/

def zeroPhysical : PhysicalValue := ⟨0, 0, int16_zero, multiplier_zero⟩

/-- A status of the failed responses. -/
def idleAcEvseStatus : ACEVSEStatus := ⟨0, .none, false⟩

def readyDcEvseStatus : DCEVSEStatus := ⟨0, .none, some .valid, .evseReady⟩

def presentVoltage230 : PhysicalValue := ⟨230, 0, by decide, multiplier_zero⟩

/-- `init_failed_responses_iso_v2`, looked up by the name of the message.
`get_msg_type` does not know the name of the last one. -/
def failedResponse : RequestType → Option Response
  | .sessionSetupReq => some (.sessionSetupRes "1234567")
  | .serviceDiscoveryReq =>
      some (.serviceDiscoveryRes ⟨[.eim], ⟨false, [.dcCore]⟩, none⟩)
  | .serviceDetailReq => some (.serviceDetailRes 0 none)
  | .paymentServiceSelectionReq => some .paymentServiceSelectionRes
  | .certificateInstallationReq => some .certificateInstallationRes
  | .paymentDetailsReq => some (.paymentDetailsRes (List.replicate 16 0))
  | .authorizationReq => some (.authorizationRes .finished)
  | .chargeParameterDiscoveryReq =>
      some (.chargeParameterDiscoveryRes
        ⟨.finished, none, some ⟨idleAcEvseStatus, zeroPhysical, zeroPhysical⟩, none⟩)
  | .powerDeliveryReq => some (.powerDeliveryRes (some idleAcEvseStatus) none)
  | .chargingStatusReq => some (.chargingStatusRes "1234567" 1 idleAcEvseStatus none none none)
  | .cableCheckReq => some (.cableCheckRes readyDcEvseStatus .finished)
  | .preChargeReq => some (.preChargeRes readyDcEvseStatus presentVoltage230)
  | .currentDemandReq =>
      some (.currentDemandRes
        ⟨readyDcEvseStatus, presentVoltage230, ⟨10, 0, int16_ten, multiplier_zero⟩, false, false,
          false, none, none, none, "1234567", 1⟩)
  | .meteringReceiptReq => some (.meteringReceiptRes none none)
  | .weldingDetectionReq => some (.weldingDetectionRes readyDcEvseStatus presentVoltage230)
  | .sessionStopReq => some .sessionStopRes
  | .certificateUpdateReq => none

/-- `stop_state_machine`. Without a failed response for the message, setting the
response code of `None` raises. -/
def stopStateMachine (faultyRequest : V2GMessage) (responseCode : ResponseCode) :
    Program PUnit := do
  updateSession Session.stopped
  match faultyRequest with
  | .request message =>
      match failedResponse message.request.requestType with
      | some response => createNextMessage (some .terminate) responseCode response 0
      | none => throw .attributeError
  | .response _ => throw .attributeError
  | .empty _ => throw .attributeError

/-! ## Checking a message -/

/-- The session id of a message is the one of the session, or need not be. -/
def Known (message : RequestMessage) (session : Session) : Prop :=
  message.request.requestType = .sessionSetupReq ∨ message.header.sessionId = session.sessionId

instance (message : RequestMessage) (session : Session) : Decidable (Known message session) :=
  inferInstanceAs (Decidable (_ ∨ _))

/-- The response code of a refused message. -/
def refusalCode : Refusal → ResponseCode
  | .sequenceError => .failedSequenceError
  | .unknownSession => .failedUnknownSession

/-- `check_msg`, on a message that is of the session's protocol. Only a request is
ever expected. -/
def checkMsg (message : V2GMessage) (expectedMsgTypes : List RequestType)
    (expectFirst : Bool := true) : Program (Option RequestMessage) :=
  match message with
  | .request requestMessage =>
      Secc.checkMsg requestMessage
        (accepts expectedMsgTypes expectFirst requestMessage.request.requestType)
        (fun world => Known requestMessage world.session)
        (fun refusal => stopStateMachine message (refusalCode refusal))
  | .response _ => do
      stopStateMachine message .failedSequenceError
      return none
  | .empty _ => do
      stopStateMachine message .failedSequenceError
      return none

/-! ## Weakest preconditions -/

section

variable {onOk : PUnit → World → Prop} {onError : PyError → World → Prop} {world : World}

@[simp]
theorem wp_createNextMessage (nextState : Option (NextState StateName))
    (responseCode : ResponseCode) (response : Response) (timeout : ℚ) :
    wp (createNextMessage nextState responseCode response timeout) onOk onError world ↔
      (checkSessionId world.session.sessionId = .ok () →
        onOk ⟨⟩ { world with
          currentState := world.currentState.createNextMessage nextState
            ⟨{ sessionId := world.session.sessionId }, responseCode, response⟩ timeout }) ∧
      ∀ exception, checkSessionId world.session.sessionId = .error exception →
        onError exception { world with
          currentState :=
            { world.currentState with nextState := nextState, nextMsgTimeout := timeout } } := by
  unfold createNextMessage
  rw [wp_bind, wp_setNext, wp_createMessage]
  rfl

@[simp]
theorem wp_prepare (nextState : Option (NextState StateName)) (message : ResponseMessage)
    (timeout : ℚ) :
    wp (prepare nextState message timeout) onOk onError world =
      onOk ⟨⟩ { world with
        currentState := world.currentState.createNextMessage nextState message timeout } :=
  rfl

/-- What `stop_state_machine` leaves for a request. -/
theorem wp_stopStateMachine (message : RequestMessage) (responseCode : ResponseCode) :
    wp (stopStateMachine (.request message) responseCode) onOk onError world ↔
      match failedResponse message.request.requestType with
      | some response =>
          wp (createNextMessage (some .terminate) responseCode response 0) onOk onError
            { world with session := world.session.stopped }
      | none => onError .attributeError { world with session := world.session.stopped } := by
  unfold stopStateMachine
  rw [wp_bind, wp_updateSession]
  dsimp only
  cases failedResponse message.request.requestType with
  | none => rfl
  | some response => rfl

/-- A state machine that has been stopped goes to `Terminate`. -/
theorem stopStateMachine_terminates (message : V2GMessage) (responseCode : ResponseCode)
    (world : World) :
    wp (stopStateMachine message responseCode)
      (fun _ next => next.currentState.nextState = some .terminate) (fun _ _ => True) world := by
  cases message with
  | request message =>
      rw [wp_stopStateMachine]
      split
      · rw [wp_createNextMessage]
        exact ⟨fun _ => rfl, fun _ _ => trivial⟩
      · trivial
  | response message => trivial
  | empty header => trivial

/-- Of a state machine that has been stopped nothing is asked that concerns a session that
goes on. -/
theorem stopStateMachine_goesOn (message : V2GMessage) (responseCode : ResponseCode)
    {property : World → Prop} (world : World) :
    wp (stopStateMachine message responseCode)
      (fun _ next => next.currentState.nextState ≠ some .terminate → property next)
      (fun _ _ => True) world :=
  wp_goesOn_of_terminates (stopStateMachine_terminates message responseCode world)

end

/-- Stopping changes the reason of the stop, and creates a message if there is one. -/
theorem keeps_stopStateMachine {r : World → World → Prop} [IsPreorder World r]
    {message : V2GMessage} {responseCode : ResponseCode}
    (stops : Keeps r (updateSession Session.stopped : Program PUnit))
    (creates : ∀ request response, message = .request request →
      failedResponse request.request.requestType = some response →
      Keeps r (createNextMessage (some .terminate) responseCode response 0)) :
    Keeps r (stopStateMachine message responseCode) := by
  apply keeps_bind stops
  intro _
  cases message with
  | request message =>
      dsimp only
      split
      next response failed => exact creates message response rfl failed
      next => exact keeps_throw _
  | response message => exact keeps_throw _
  | empty header => exact keeps_throw _

end Iso15118.Secc.V2
