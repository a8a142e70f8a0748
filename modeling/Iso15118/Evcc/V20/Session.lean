import Iso15118.Evcc.EvccState
import Iso15118.Shared.Messages.V20.Message

/-!
# The EVCC's side of an ISO 15118-20 session

What a state of `evcc/states/iso15118_20_states.py` reads and writes, apart from what every
protocol has. Certificates and signatures are looked into only by functions of
`shared/security.py`, whose outcomes are answers here.
-/

namespace Iso15118.Evcc.V20

open Effect
open Iso15118.Shared
open Iso15118.Shared.V20

/-! ## Classes of states -/

/-- The classes that a state may go to. -/
inductive StateName where
  | sessionSetup
  | authorizationSetup
  | certificateInstallation
  | authorization
  | serviceDiscovery
  | serviceDetail
  | serviceSelection
  | scheduleExchange
  | powerDelivery
  | sessionStop
  | acChargeParameterDiscovery
  | acChargeLoop
  | dcChargeParameterDiscovery
  | dcCableCheck
  | dcPreCharge
  | dcChargeLoop
  | dcWeldingDetection
  deriving DecidableEq, Repr

/-- A state with the attributes that its class adds. -/
inductive Own where
  | sessionSetup
  | authorizationSetup
  | certificateInstallation
  | authorization
  | serviceDiscovery
  | serviceDetail
  | serviceSelection
  | scheduleExchange
  | powerDelivery
  | sessionStop
  | acChargeParameterDiscovery
  | acChargeLoop
  | dcChargeParameterDiscovery
  | dcCableCheck
  | dcPreCharge (preChargeFinishedMessageBuiltOnce : Bool)
  | dcChargeLoop
  | dcWeldingDetection (weldingDetectionComplete : Bool)
  deriving DecidableEq, Repr

/-- What `__init__` of a class sets. -/
def StateName.new : StateName → Own
  | .sessionSetup => .sessionSetup
  | .authorizationSetup => .authorizationSetup
  | .certificateInstallation => .certificateInstallation
  | .authorization => .authorization
  | .serviceDiscovery => .serviceDiscovery
  | .serviceDetail => .serviceDetail
  | .serviceSelection => .serviceSelection
  | .scheduleExchange => .scheduleExchange
  | .powerDelivery => .powerDelivery
  | .sessionStop => .sessionStop
  | .acChargeParameterDiscovery => .acChargeParameterDiscovery
  | .acChargeLoop => .acChargeLoop
  | .dcChargeParameterDiscovery => .dcChargeParameterDiscovery
  | .dcCableCheck => .dcCableCheck
  | .dcPreCharge => .dcPreCharge false
  | .dcChargeLoop => .dcChargeLoop
  | .dcWeldingDetection => .dcWeldingDetection false

/-! ## The controller -/

/-- The charge parameters of an energy service. -/
inductive ChargeParams where
  | ac (params : ACChargeParameterDiscoveryReqParams)
  | bptAc (params : BPTACChargeParameterDiscoveryReqParams)
  | dc (params : DCChargeParameterDiscoveryReqParams)
  | bptDc (params : BPTDCChargeParameterDiscoveryReqParams)

/-- The controller methods that the states call. `processScheduledSeParams` and
`processDynamicSeParams` are given the parameters of a response, if it has those of the
control mode, and whether it asks for a pause. -/
class EVController (ρ : Type) where
  isCertInstallNeeded : EStateM PyError ρ Bool
  getPrioritisedEmaids : EStateM PyError ρ PUnit
  getSupportedEnergyServices : EStateM PyError ρ (List ServiceV20)
  selectEnergyServiceV20 : List MatchedService → EStateM PyError ρ SelectedEnergyService
  selectVasServicesV20 : List MatchedService → EStateM PyError ρ (Option (List SelectedVAS))
  getChargeParamsV20 : SelectedEnergyService → EStateM PyError ρ ChargeParams
  updateSeccLimits (maxCurrent maxVoltage maxPower : ℚ) : EStateM PyError ρ PUnit
  getScheduledSeParams :
    SelectedEnergyService → EStateM PyError ρ ScheduledScheduleExchangeReqParams
  getDynamicSeParams : SelectedEnergyService → EStateM PyError ρ DynamicScheduleExchangeReqParams
  processScheduledSeParams (scheduledParams : Option ScheduledScheduleExchangeResParams)
    (pause : Option Bool) : EStateM PyError ρ (Option EVPowerProfile × ChargeProgress)
  processDynamicSeParams (dynamicParams : Option DynamicScheduleExchangeResParams)
    (pause : Option Bool) : EStateM PyError ρ (Option EVPowerProfile × ChargeProgress)
  enableCharging : Bool → EStateM PyError ρ PUnit
  getPresentVoltage : EStateM PyError ρ RationalNumber
  getTargetVoltage : EStateM PyError ρ RationalNumber
  isPrecharged : RationalNumber → EStateM PyError ρ Bool
  continueCharging : EStateM PyError ρ Bool
  chargeLoopDelay : EStateM PyError ρ PUnit
  getAcChargeLoopParamsV20 :
    Option ControlMode → ServiceV20 → EStateM PyError ρ ACChargeLoopReqParams
  getScheduledDcChargeLoopParams : EStateM PyError ρ ScheduledDCChargeLoopReqParams
  getDynamicDcChargeLoopParams : EStateM PyError ρ DynamicDCChargeLoopReqParams
  getBptScheduledDcChargeLoopParams : EStateM PyError ρ BPTScheduledDCChargeLoopReqParams
  getBptDynamicDcChargeLoopParams : EStateM PyError ρ BPTDynamicDCChargeLoopReqParams
  getDisplayParams : EStateM PyError ρ DisplayParameters
  weldingDetectionHasFinished : EStateM PyError ρ Bool

/-- A call of a controller method. -/
inductive Call where
  | isCertInstallNeeded
  | getPrioritisedEmaids
  | getSupportedEnergyServices
  | selectEnergyServiceV20
  | selectVasServicesV20
  | getChargeParamsV20
  | updateSeccLimits
  | getScheduledSeParams
  | getDynamicSeParams
  | processScheduledSeParams
  | processDynamicSeParams
  | enableCharging (enabled : Bool)
  | getPresentVoltage
  | getTargetVoltage
  | isPrecharged
  | continueCharging
  | chargeLoopDelay
  | getAcChargeLoopParamsV20
  | getScheduledDcChargeLoopParams
  | getDynamicDcChargeLoopParams
  | getBptScheduledDcChargeLoopParams
  | getBptDynamicDcChargeLoopParams
  | getDisplayParams
  | weldingDetectionHasFinished
  deriving DecidableEq, Repr

/-! ## The session -/

/-- What the clock and the certificate store answer while one message is processed. Signing
includes encoding what is signed and reading the private key. -/
structure Answers where
  now : ℚ
  getCertIssuerSerial : Except PyError PUnit := .ok ⟨⟩
  loadOemCertChain : Except PyError PUnit := .error .fileNotFoundError
  signOemCertChain : Except PyError Signature := .error .privateKeyReadError
  loadContractCertChain : Except PyError (List UInt8) := .error .fileNotFoundError
  signPncParams : PnCAuthReqParams → Except PyError Signature := fun _ =>
    .error .privateKeyReadError

/-- The variables of `EVCCCommunicationSession` that these states use. The timer runs when
it is not negative. -/
structure Session where
  maxSupportingPoints : Int := 1024
  sessionId : String := ""
  ongoingTimer : ℚ := -1
  authorizationReqMessage : Option RequestMessage := none
  serviceRenegotiationSupported : Bool := false
  matchedServicesV20 : List MatchedService := []
  serviceDetailsToRequest : List Int := []
  selectedEnergyService : Option SelectedEnergyService := none
  selectedVasListV20 : Option (List SelectedVAS) := some []
  controlMode : Option ControlMode := none
  selectedChargingTypeIsAc : Bool := true
  ongoingScheduleExchangeReq : Option RequestMessage := none
  scheduleExchangeRes : Option ScheduleExchangeRes := none
  evProcessing : Processing := .finished
  chargingSessionStopV20 : Option ChargingSession := none
  renegotiationRequested : Bool := false
  stopReason : Option StopNotification := none

/-- The session after `stop_state_machine`. -/
def Session.stopped (session : Session) : Session :=
  { session with stopReason := some { successful := false } }

/-- What processing a message can change. -/
abbrev World (ρ : Type) := Evcc.World Session Own StateName RequestMessage Call ρ

/-- A method of a state. -/
abbrev Program (ρ : Type) := EStateM PyError (World ρ)

variable {ρ : Type}

/-- `MessageHeader(...)` with the id of the session. -/
def messageHeader (signature : Option Signature := none) : Program ρ MessageHeader := do
  let world ← get
  Effect.ofExcept (checkSessionId world.session.sessionId)
  return { sessionId := world.session.sessionId, signature := signature }

/-- The header of the message has the id of the session, or need not have it. -/
def Known (res : ResponseMessage) (session : Session) : Prop :=
  (∃ evseId, res.response = .sessionSetupRes evseId) ∨ res.header.sessionId = session.sessionId

instance (res : ResponseMessage) (session : Session) : Decidable (Known res session) :=
  have : Decidable (∃ evseId, res.response = .sessionSetupRes evseId) :=
    match res.response with
    | .sessionSetupRes evseId => .isTrue ⟨evseId, rfl⟩
    | .authorizationSetupRes _ | .authorizationRes _ | .certificateInstallationRes
    | .serviceDiscoveryRes _ | .serviceDetailRes _ | .serviceSelectionRes
    | .scheduleExchangeRes _ | .powerDeliveryRes | .sessionStopRes
    | .acChargeParameterDiscoveryRes | .acChargeLoopRes _ | .dcChargeParameterDiscoveryRes _
    | .dcCableCheckRes _ | .dcPreChargeRes _ | .dcChargeLoopRes _ _
    | .dcWeldingDetectionRes _ => .isFalse (by simp)
  inferInstanceAs (Decidable (_ ∨ _))

/-- `check_msg_v20`. `expected` gives the message as one of the expected type, if it is
one. -/
def checkMsg {α : Type} (message : V2GMessage) (expected : ResponseMessage → Option α) :
    Program ρ (Option α) :=
  match message with
  | .response res =>
      Evcc.checkMsg (expected res) res.responseCode.isFailed (Known res) Session.stopped
  | .request _ => do
      stopStateMachine Session.stopped
      return none

/-- The value of a session variable, an attribute of which is read. -/
def required {α : Type} (value : Option α) : Program ρ α :=
  match value with
  | some value => pure value
  | none => throw .attributeError

namespace Timeouts

def authorizationSetupReq : ℚ := 2
def authorizationReq : ℚ := 2
def certificateInstallationReq : ℚ := 5
def serviceDiscoveryReq : ℚ := 2
def serviceDetailReq : ℚ := 5
def serviceSelectionReq : ℚ := 2
def chargeParameterDiscoveryReq : ℚ := 2
def scheduleExchangeReq : ℚ := 2
def powerDeliveryReq : ℚ := 2
def sessionStopReq : ℚ := 2
def acChargeLoopReq : ℚ := 1 / 2
def dcCableCheckReq : ℚ := 2
def dcPreChargeReq : ℚ := 2
def dcChargeLoopReq : ℚ := 1 / 2
def dcWeldingDetectionReq : ℚ := 2
def v2gEvccOngoingTimeout : ℚ := 60
def v2gEvccCableCheckTimeout : ℚ := 40

end Timeouts

end Iso15118.Evcc.V20
