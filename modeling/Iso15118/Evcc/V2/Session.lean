import Iso15118.Evcc.EvccState
import Iso15118.Shared.Messages.Header
import Iso15118.Shared.Messages.V2.Body

/-!
# The EVCC's side of an ISO 15118-2 session

What a state of `evcc/states/iso15118_2_states.py` reads and writes, apart from what every
protocol has. Certificates, keys and signatures are looked into only by functions of
`shared/security.py`, whose outcomes are answers here.
-/

namespace Iso15118.Evcc.V2

open Effect
open Iso15118.Shared
open Iso15118.Shared.V2

/-! ## Classes of states -/

/-- The classes of states. None of them adds an attribute. -/
inductive StateName where
  | sessionSetup
  | serviceDiscovery
  | serviceDetail
  | paymentServiceSelection
  | certificateInstallation
  | paymentDetails
  | authorization
  | chargeParameterDiscovery
  | powerDelivery
  | meteringReceipt
  | sessionStop
  | chargingStatus
  | cableCheck
  | preCharge
  | currentDemand
  | weldingDetection
  deriving DecidableEq, Repr

/-! ## The controller -/

/-- `ChargeParamsV2`. -/
structure ChargeParamsV2 where
  energyMode : EnergyTransferMode
  acParameters : Option ACEVChargeParameter
  dcParameters : Option DCEVChargeParameter

/-- `DCEVChargeParams`, with the fields that the states read. -/
structure DCEVChargeParams where
  dcMaxCurrentLimit : PhysicalValue
  dcMaxPowerLimit : PhysicalValue
  dcMaxVoltageLimit : PhysicalValue
  dcTargetCurrent : PhysicalValue
  dcTargetVoltage : PhysicalValue

/-- The controller methods that the states call. -/
class EVController (ρ : Type) where
  isCertInstallNeeded : EStateM PyError ρ Bool
  getEnergyTransferMode : EStateM PyError ρ EnergyTransferMode
  storeContractCertAndPrivKey : EStateM PyError ρ PUnit
  getChargeParamsV2 : EStateM PyError ρ ChargeParamsV2
  processSaSchedulesV2 :
    List SAScheduleTuple → EStateM PyError ρ (ChargeProgress × Nat × ChargingProfile)
  enableCharging : Bool → EStateM PyError ρ PUnit
  getDcEvStatus : EStateM PyError ρ DCEVStatus
  getDcChargeParams : EStateM PyError ρ DCEVChargeParams
  getDcEvPowerDeliveryParameter : EStateM PyError ρ DCEVPowerDeliveryParameter
  isPrecharged : PhysicalValue → EStateM PyError ρ Bool
  isBulkChargingComplete : EStateM PyError ρ Bool
  isChargingComplete : EStateM PyError ρ Bool
  getRemainingTimeToFullSoc : EStateM PyError ρ PhysicalValue
  getRemainingTimeToBulkSoc : EStateM PyError ρ PhysicalValue
  continueCharging : EStateM PyError ρ Bool
  chargeLoopDelay : EStateM PyError ρ PUnit
  weldingDetectionHasFinished : EStateM PyError ρ Bool

/-- A call of a controller method. -/
inductive Call where
  | isCertInstallNeeded
  | getEnergyTransferMode
  | storeContractCertAndPrivKey
  | getChargeParamsV2
  | processSaSchedulesV2
  | enableCharging (enabled : Bool)
  | getDcEvStatus
  | getDcChargeParams
  | getDcEvPowerDeliveryParameter
  | isPrecharged
  | isBulkChargingComplete
  | isChargingComplete
  | getRemainingTimeToFullSoc
  | getRemainingTimeToBulkSoc
  | continueCharging
  | chargeLoopDelay
  | weldingDetectionHasFinished
  deriving DecidableEq, Repr

/-! ## The session -/

/-- What the clock and the certificate store answer while one message is processed. Signing
includes encoding what is signed and reading the private key. -/
structure Answers where
  now : ℚ
  getCertIssuerSerial : Except PyError PUnit := .ok ⟨⟩
  loadOemCert : Except PyError Certificate := .error .fileNotFoundError
  signCertificateInstallationReq : CertificateInstallationReq → Except PyError Signature :=
    fun _ => .error .privateKeyReadError
  loadContractCertCn : Except PyError String := .error .fileNotFoundError
  loadContractCertChain : Except PyError CertificateChain := .error .fileNotFoundError
  verifyCertificateInstallationRes : Except PyError Bool := .ok false
  decryptPrivKey : Except PyError PUnit := .error .privateKeyReadError
  signAuthorizationReq : AuthorizationReq → Except PyError Signature := fun _ =>
    .error .privateKeyReadError
  signMeteringReceiptReq : MeteringReceiptReq → Except PyError Signature := fun _ =>
    .error .privateKeyReadError

/-- The variables of `EVCCCommunicationSession` that these states use, and the settings that a
paused session leaves. The timer runs when it is not negative. -/
structure Session where
  isTls : Bool := false
  sessionId : String := ""
  ongoingTimer : ℚ := -1
  resumeSelectedAuthOption : Option AuthEnum := none
  resumeRequestedEnergyMode : Option EnergyTransferMode := none
  selectedAuthOption : Option AuthEnum := none
  selectedServices : List Int := []
  serviceDetailsToRequest : List Int := []
  selectedEnergyMode : Option EnergyTransferMode := none
  selectedChargingTypeIsAc : Bool := true
  selectedSchedule : Option Nat := none
  chargingSessionStopV2 : Option ChargingSession := none
  renegotiationRequested : Bool := false
  stopReason : Option StopNotification := none

/-- The session after `stop_state_machine`. -/
def Session.stopped (session : Session) : Session :=
  { session with stopReason := some { successful := false } }

/-- What processing a message can change. -/
abbrev World (ρ : Type) := Evcc.World Session StateName StateName RequestMessage Call ρ

/-- A method of a state. -/
abbrev Program (ρ : Type) := EStateM PyError (World ρ)

variable {ρ : Type}

/-- The first step of `create_next_message`. -/
def setNext (nextState : Option (NextState StateName)) (timeout : ℚ) : Program ρ PUnit :=
  modify fun world =>
    { world with
      currentState :=
        { world.currentState with nextState := nextState, nextMsgTimeout := timeout } }

/-- `create_next_message`, which makes the header of a request. -/
def createNextMessage (nextState : Option (NextState StateName)) (request : Request)
    (timeout : ℚ) (signature : Option Signature := none) : Program ρ PUnit := do
  setNext nextState timeout
  let world ← get
  Effect.ofExcept (checkSessionId world.session.sessionId)
  prepare nextState ⟨{ sessionId := world.session.sessionId, signature := signature }, request⟩
    timeout

/-- The header of the message has the id of the session, or need not have it. -/
def Known (res : ResponseMessage) (session : Session) : Prop :=
  (∃ evseId, res.response = .sessionSetupRes evseId) ∨ res.header.sessionId = session.sessionId

instance (res : ResponseMessage) (session : Session) : Decidable (Known res session) :=
  have : Decidable (∃ evseId, res.response = .sessionSetupRes evseId) :=
    match res.response with
    | .sessionSetupRes evseId => .isTrue ⟨evseId, rfl⟩
    | .serviceDiscoveryRes _ | .serviceDetailRes _ _ | .paymentServiceSelectionRes
    | .certificateInstallationRes | .paymentDetailsRes _ | .authorizationRes _
    | .chargeParameterDiscoveryRes _ | .powerDeliveryRes _ _ | .meteringReceiptRes _ _
    | .sessionStopRes | .chargingStatusRes _ _ _ _ _ _ | .cableCheckRes _ _
    | .preChargeRes _ _ | .currentDemandRes _ | .weldingDetectionRes _ _ => .isFalse (by simp)
  inferInstanceAs (Decidable (_ ∨ _))

/-- `check_msg_v2`. `expected` gives the message as one of the expected type, if it is one. -/
def checkMsg {α : Type} (message : V2GMessage) (expected : ResponseMessage → Option α) :
    Program ρ (Option α) :=
  match message with
  | .response res =>
      Evcc.checkMsg (expected res) res.responseCode.isFailed (Known res) Session.stopped
  | .request _ | .empty _ => do
      stopStateMachine Session.stopped
      return none

/-- The value of a session variable, an attribute of which is read. -/
def required {α : Type} (value : Option α) : Program ρ α :=
  match value with
  | some value => pure value
  | none => throw .attributeError

namespace Timeouts

def v2gEvccCableCheckTimeout : ℚ := 40
def v2gEvccPreChargeTimeout : ℚ := 7
def v2gEvccOngoingTimeout : ℚ := 60
def serviceDiscoveryReq : ℚ := 2
def serviceDetailReq : ℚ := 5
def paymentServiceSelectionReq : ℚ := 2
def certificateInstallationReq : ℚ := 5
def paymentDetailsReq : ℚ := 5
def authorizationReq : ℚ := 2
def chargeParameterDiscoveryReq : ℚ := 2
def chargingStatusReq : ℚ := 2
def meteringReceiptReq : ℚ := 2
def powerDeliveryReq : ℚ := 5
def cableCheckReq : ℚ := 2
def preChargeReq : ℚ := 2
def weldingDetectionReq : ℚ := 2
def sessionStopReq : ℚ := 2

end Timeouts

end Iso15118.Evcc.V2
