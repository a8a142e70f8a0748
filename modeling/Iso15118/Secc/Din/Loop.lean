import Iso15118.Secc.Din.Routing
import Iso15118.Secc.SeccLoop

/-!
# Runs of the DIN SPEC 70121 SECC

What answering a request may change, and DIN SPEC 70121 as a protocol of the receive
loop.
-/

namespace Iso15118.Secc.Din

open Effect Transition
open Iso15118.Shared
open Iso15118.Shared.Din

/-! ## The table of the effects -/

/-- The controller methods that answering a request of a type may call. -/
def mayCall : RequestType → Call → Bool
  | .sessionSetupReq, .getEvseId => true
  | .serviceDiscoveryReq, .getSupportedEnergyTransferModes => true
  | .contractAuthenticationReq, .isAuthorized => true
  | .chargeParameterDiscoveryReq, .getSupportedEnergyTransferModes => true
  | .chargeParameterDiscoveryReq, .sendRatedLimits => true
  | .chargeParameterDiscoveryReq, .getDcChargeParametersDinspec => true
  | .chargeParameterDiscoveryReq, .getSaScheduleListDinspec => true
  | .cableCheckReq, .startCableCheck => true
  | .cableCheckReq, .getCableCheckStatus => true
  | .cableCheckReq, .isContactorClosed => true
  | .cableCheckReq, .getDcEvseStatus => true
  | .preChargeReq, .getEvsePresentCurrent => true
  | .preChargeReq, .sendChargingCommand _ _ isPrecharge => isPrecharge
  | .preChargeReq, .getDcEvseStatus => true
  | .preChargeReq, .getEvsePresentVoltage => true
  | .powerDeliveryReq, .setHlcCharging _ => true
  | .powerDeliveryReq, .stopCharger => true
  | .powerDeliveryReq, .isContactorOpened => true
  | .powerDeliveryReq, .getDcEvseStatus => true
  | .currentDemandReq, .sendChargingCommand _ _ isPrecharge => !isPrecharge
  | .currentDemandReq, .getDcEvseStatus => true
  | .currentDemandReq, .getEvsePresentVoltage => true
  | .currentDemandReq, .getEvsePresentCurrent => true
  | .currentDemandReq, .isEvseVoltageLimitAchieved => true
  | .currentDemandReq, .isEvsePowerLimitAchieved => true
  | .currentDemandReq, .getEvseMaxCurrentLimit => true
  | .currentDemandReq, .getEvseMaxVoltageLimit => true
  | .currentDemandReq, .getEvseMaxPowerLimit => true
  | .currentDemandReq, .sendDisplayParams => true
  | .weldingDetectionReq, .getDcEvseStatus => true
  | .weldingDetectionReq, .getEvsePresentVoltage => true
  | _, _ => false

/-- The states that answering a request of a type may go to. -/
def mayGoTo : RequestType → StateName → Bool
  | .sessionSetupReq, .serviceDiscovery => true
  | .serviceDiscoveryReq, .servicePaymentSelection => true
  | .servicePaymentSelectionReq, .contractAuthentication => true
  | .contractAuthenticationReq, .chargeParameterDiscovery => true
  | .chargeParameterDiscoveryReq, .cableCheck => true
  | .cableCheckReq, .preCharge => true
  | .powerDeliveryReq, .currentDemand => true
  | _, _ => false

/-- The session without the variables that answering a request of a type may set. -/
def kept (type : RequestType) (session : Session) : Session :=
  let session := { session with stopReason := none }
  match type with
  | .sessionSetupReq => { session with sessionId := "", evccId := none }
  | .serviceDiscoveryReq => { session with offeredAuthOptions := [] }
  | .servicePaymentSelectionReq => { session with selectedAuthOption := none }
  | .powerDeliveryReq => { session with chargeProgressStarted := false }
  | _ => session

/-- The type of request that a response answers. -/
def responseTo : Response → RequestType
  | .sessionSetupRes _ => .sessionSetupReq
  | .serviceDiscoveryRes _ => .serviceDiscoveryReq
  | .servicePaymentSelectionRes => .servicePaymentSelectionReq
  | .contractAuthenticationRes _ => .contractAuthenticationReq
  | .chargeParameterDiscoveryRes _ => .chargeParameterDiscoveryReq
  | .cableCheckRes _ _ => .cableCheckReq
  | .preChargeRes _ _ => .preChargeReq
  | .powerDeliveryRes _ => .powerDeliveryReq
  | .currentDemandRes _ => .currentDemandReq
  | .weldingDetectionRes _ _ => .weldingDetectionReq
  | .sessionStopRes => .sessionStopReq

/-- What answering a request of a type may respond. -/
def mayRespond (type : RequestType) (message : ResponseMessage) : Prop :=
  responseTo message.response = type

theorem responseTo_failedResponse (type : RequestType) :
    responseTo (failedResponse type) = type := by
  cases type <;> rfl

/-- The message, if it is a request, is one of the type. -/
def Asks (type : RequestType) (message : V2GMessage) : Prop :=
  ∀ req, message = .request req → req.request.requestType = type

theorem asks_request (message : RequestMessage) :
    Asks message.request.requestType (.request message) := by
  rintro _ ⟨⟩
  rfl

/-- Of the EV's data, only a `ChargeParameterDiscoveryReq` sets the energy mode. -/
def keptEvData (type : RequestType) (context : EVDataContext) : EVDataContext :=
  { selectedEnergyMode :=
      if type = .chargeParameterDiscoveryReq then none else context.selectedEnergyMode }

def guide : Guide Session Own StateName ResponseMessage Call RequestType where
  table := stateTable
  mayCall := mayCall
  mayGoTo := mayGoTo
  mayRespond := mayRespond
  mayRefuse type message := message.response = failedResponse type
  kept := kept
  keptEvData := keptEvData

/-! ## The steps of the methods -/

section Steps

variable {type : RequestType}

theorem effects_createNextMessage {nextState : Option (NextState StateName)}
    {responseCode : ResponseCode} {response : Response} {timeout : ℚ}
    (responds : responseTo response = type)
    (allowed : ∀ name, nextState = some (.state name) → mayGoTo type name = true) :
    Keeps (Effects guide type)
      (createNextMessage nextState responseCode response timeout : Program PUnit) := by
  apply keeps_bind
  · exact effects_prepare (fun _ => rfl) (fun _ => rfl) (fun _ _ made => .inl made) allowed
  intro _
  exact effects_createMessage (fun _ => responds) allowed

/-- The message is answered and the object stays. -/
theorem effects_stay {responseCode : ResponseCode} {response : Response} {timeout : ℚ}
    (responds : responseTo response = type) :
    Keeps (Effects guide type) (createNextMessage none responseCode response timeout) :=
  effects_createNextMessage responds nofun

theorem effects_goTo {name : StateName} {responseCode : ResponseCode} {response : Response}
    {timeout : ℚ} (responds : responseTo response = type)
    (allowed : mayGoTo type name = true) :
    Keeps (Effects guide type)
      (createNextMessage (some (.state name)) responseCode response timeout) := by
  apply effects_createNextMessage responds
  intro other same
  cases same
  exact allowed

theorem effects_stopStateMachine {message : V2GMessage} {responseCode : ResponseCode}
    (asked : Asks type message) :
    Keeps (Effects guide type) (stopStateMachine message responseCode) := by
  apply keeps_stopStateMachine
  · exact effects_updateSession fun _ => by cases type <;> rfl
  · intro request same
    exact effects_createNextMessage
      ((responseTo_failedResponse _).trans (asked request same)) nofun

end Steps

/-! ## The methods that answer requests -/

section Methods

variable (config : Config) (answers : Answers) (message : V2GMessage)

theorem SessionSetup.onSessionSetupReq_effects (header : MessageHeader)
    (req : SessionSetupReq) :
    Keeps (Effects guide .sessionSetupReq) (onSessionSetupReq answers header req) := by
  apply keeps_bind keeps_get
  intro world
  apply keeps_bind (effects_ask rfl)
  intro evseId
  apply keeps_bind (keeps_ofExcept _)
  intro _
  apply keeps_bind
  · exact effects_updateSession fun _ => rfl
  intro _
  apply keeps_bind
  · exact effects_onEvData fun _ => rfl
  intro _
  apply keeps_bind
  · exact effects_updateSession fun _ => rfl
  intro _
  exact effects_goTo rfl rfl

theorem ServiceDiscovery.onServiceDiscoveryReq_effects :
    Keeps (Effects guide .serviceDiscoveryReq) (onServiceDiscoveryReq config answers) := by
  apply keeps_bind
  · exact effects_updateSession fun _ => rfl
  intro _
  apply keeps_bind (effects_ask rfl)
  intro energyModes
  apply keeps_bind (keeps_ofExcept _)
  intro energyMode
  exact effects_goTo rfl rfl

theorem ServicePaymentSelection.onServicePaymentSelectionReq_effects
    (req : ServicePaymentSelectionReq)
    (asked : Asks .servicePaymentSelectionReq message) :
    Keeps (Effects guide .servicePaymentSelectionReq)
      (onServicePaymentSelectionReq message req) := by
  unfold onServicePaymentSelectionReq
  split
  · exact effects_stopStateMachine asked
  · apply keeps_bind
    · exact effects_updateSession fun _ => rfl
    intro _
    split
    · exact effects_stopStateMachine asked
    · exact effects_goTo rfl rfl

theorem ContractAuthentication.onContractAuthenticationReq_effects :
    Keeps (Effects guide .contractAuthenticationReq) (onContractAuthenticationReq answers) := by
  apply keeps_bind (effects_ask rfl)
  intro status
  split
  · exact effects_goTo rfl rfl
  · exact effects_stay rfl

theorem ChargeParameterDiscovery.onChargeParameterDiscoveryReq_effects
    (req : ChargeParameterDiscoveryReq)
    (asked : Asks .chargeParameterDiscoveryReq message) :
    Keeps (Effects guide .chargeParameterDiscoveryReq)
      (onChargeParameterDiscoveryReq answers message req) := by
  apply keeps_bind (effects_ask rfl)
  intro energyModes
  split
  · apply keeps_bind
    · exact effects_onEvData fun _ => rfl
    intro _
    apply keeps_bind
    · exact effects_onEvData fun _ => rfl
    intro _
    apply keeps_bind (effects_ask rfl)
    intro _
    apply keeps_bind (effects_ask rfl)
    intro parameters
    apply keeps_bind effects_onEvseData
    intro _
    apply keeps_bind (effects_ask rfl)
    intro schedules
    unfold respond
    split
    · exact effects_stay rfl
    · apply keeps_bind (keeps_ofExcept _)
      intro schedules
      exact effects_goTo rfl rfl
  · exact effects_stopStateMachine asked

namespace CableCheck

theorem respond_effects (req : CableCheckReq) {nextState : Option (NextState StateName)}
    {evseProcessing : V2.EVSEProcessing}
    (allowed : ∀ name, nextState = some (.state name) → mayGoTo .cableCheckReq name = true) :
    Keeps (Effects guide .cableCheckReq) (respond answers req nextState evseProcessing) := by
  apply keeps_bind
  · exact effects_onEvData fun _ => rfl
  intro _
  apply keeps_bind (effects_ask rfl)
  intro status
  exact effects_createNextMessage rfl allowed

theorem onStatus_effects (req : CableCheckReq) (isolationLevel : Option IsolationLevel)
    (asked : Asks .cableCheckReq message) :
    Keeps (Effects guide .cableCheckReq) (onStatus answers message req isolationLevel) := by
  unfold onStatus
  split
  · apply respond_effects
    rintro _ ⟨⟩
    rfl
  · split
    · exact effects_stopStateMachine asked
    · exact respond_effects answers req nofun

theorem onContactors_effects (req : CableCheckReq) (closed : Option Bool)
    (asked : Asks .cableCheckReq message) :
    Keeps (Effects guide .cableCheckReq) (onContactors answers message req closed) := by
  unfold onContactors
  split
  · apply keeps_bind
    · exact effects_setOwn rfl
    intro _
    exact respond_effects answers req nofun
  · exact effects_stopStateMachine asked
  · exact respond_effects answers req nofun

theorem onCableCheckReq_effects (req : CableCheckReq)
    (cableCheckStarted contactorsClosed : Bool)
    (asked : Asks .cableCheckReq message) :
    Keeps (Effects guide .cableCheckReq)
      (onCableCheckReq answers message req cableCheckStarted contactorsClosed) := by
  have started : Keeps (Effects guide .cableCheckReq)
      (startOnce answers cableCheckStarted contactorsClosed) := by
    unfold startOnce
    split
    · exact keeps_pure _
    · apply keeps_bind (effects_ask rfl)
      intro _
      exact effects_setOwn rfl
  unfold onCableCheckReq
  split
  · apply keeps_bind started
    intro _
    split
    · apply keeps_bind (effects_ask rfl)
      intro isolationLevel
      exact onStatus_effects answers message req isolationLevel asked
    · apply keeps_bind (effects_ask rfl)
      intro closed
      exact onContactors_effects answers message req closed asked
  · exact effects_stopStateMachine asked

end CableCheck

/-- The command with the targets of the EV, of the pre-charge or of the charge loop. -/
theorem sendTargets_effects {type : RequestType} {isPrecharge : Bool}
    (allowed : ∀ voltage current,
      mayCall type (.sendChargingCommand voltage current isPrecharge) = true)
    (voltage current : ℚ) :
    Keeps (Effects guide type)
      (tryCatch
        (do
          ask (.sendChargingCommand voltage current isPrecharge) answers.sendChargingCommand
          pure true)
        (fun exception =>
          if exception = .timeoutError then pure false else throw exception) : Program Bool) := by
  apply keeps_tryCatch
  · apply keeps_bind (effects_ask (allowed voltage current))
    intro _
    exact keeps_pure _
  · intro exception
    split
    · exact keeps_pure _
    · exact keeps_throw _

theorem PreCharge.respond_effects :
    Keeps (Effects guide .preChargeReq) (respond answers) := by
  apply keeps_bind (effects_ask rfl)
  intro status
  apply keeps_bind (effects_ask rfl)
  intro voltage
  apply keeps_bind (keeps_ofExcept _)
  intro voltage
  apply keeps_bind
  · exact effects_stay rfl
  intro _
  exact effects_setOwn rfl

theorem PreCharge.onPreChargeReq_effects (req : PreChargeReq)
    (asked : Asks .preChargeReq message) :
    Keeps (Effects guide .preChargeReq) (onPreChargeReq answers message req) := by
  unfold onPreChargeReq
  split
  · apply keeps_bind
    · exact effects_onEvData fun _ => rfl
    intro _
    apply keeps_bind (effects_ask rfl)
    intro presentCurrent
    apply keeps_bind keeps_get
    intro world
    split
    · exact effects_stopStateMachine asked
    · split
      · apply keeps_bind
        · apply keeps_bind keeps_get
          intro world
          exact sendTargets_effects answers (fun _ _ => rfl) _ _
        intro sent
        split
        · exact respond_effects answers
        · exact effects_stopStateMachine asked
      · exact effects_stopStateMachine asked
  · exact effects_stopStateMachine asked

namespace PowerDelivery

theorem respond_effects {nextState : Option (NextState StateName)}
    (allowed : ∀ name, nextState = some (.state name) → mayGoTo .powerDeliveryReq name = true) :
    Keeps (Effects guide .powerDeliveryReq) (respond answers nextState) := by
  apply keeps_bind (effects_ask rfl)
  intro status
  apply keeps_bind
  · exact effects_createNextMessage rfl allowed
  intro _
  exact effects_setOwn rfl

theorem onPowerDeliveryReq_effects (req : PowerDeliveryReq)
    (asked : Asks .powerDeliveryReq message) :
    Keeps (Effects guide .powerDeliveryReq) (onPowerDeliveryReq answers message req) := by
  apply keeps_bind (keeps_ofExcept _)
  intro soc
  apply keeps_bind
  · exact effects_onEvData fun _ => rfl
  intro _
  split
  · apply keeps_bind (effects_ask rfl)
    intro _
    apply keeps_bind
    · exact effects_updateSession fun _ => rfl
    intro _
    apply respond_effects
    rintro _ ⟨⟩
    rfl
  · apply keeps_bind (effects_ask rfl)
    intro _
    apply keeps_bind (effects_ask rfl)
    intro _
    apply keeps_bind (effects_ask rfl)
    intro contactorOpened
    split
    · exact respond_effects answers nofun
    · exact effects_stopStateMachine asked

end PowerDelivery

theorem CurrentDemand.buildRes_effects (req : CurrentDemandReq) :
    Keeps (Effects guide .currentDemandReq) (buildRes answers req) := by
  iterate 8
    apply keeps_bind (effects_ask rfl)
    intro _
  iterate 2
    apply keeps_bind (keeps_ofExcept _)
    intro _
  exact keeps_pure _

theorem CurrentDemand.onCurrentDemandReq_effects (req : CurrentDemandReq)
    (asked : Asks .currentDemandReq message) :
    Keeps (Effects guide .currentDemandReq) (onCurrentDemandReq answers message req) := by
  apply keeps_bind
  · exact effects_onEvData fun _ => rfl
  intro _
  apply keeps_bind
  · apply keeps_bind keeps_get
    intro world
    exact sendTargets_effects answers (fun _ _ => rfl) _ _
  intro sent
  split
  · apply keeps_bind (buildRes_effects answers req)
    intro res
    apply keeps_bind (effects_ask rfl)
    intro _
    apply keeps_bind
    · exact effects_stay rfl
    intro _
    exact effects_setOwn rfl
  · exact effects_stopStateMachine asked

theorem WeldingDetection.onWeldingDetectionReq_effects :
    Keeps (Effects guide .weldingDetectionReq) (onWeldingDetectionReq answers) := by
  apply keeps_bind
  · exact effects_setOwn rfl
  intro _
  apply keeps_bind (effects_ask rfl)
  intro status
  apply keeps_bind (effects_ask rfl)
  intro voltage
  apply keeps_bind (keeps_ofExcept _)
  intro voltage
  exact effects_stay rfl

/-- Answering a request keeps to the table. -/
theorem answer_effects (message : RequestMessage) (own : Own) :
    Keeps (Effects guide message.request.requestType) (answer config answers message own) := by
  rcases message with ⟨header, request⟩
  cases request with
  | sessionSetupReq req => exact SessionSetup.onSessionSetupReq_effects answers header req
  | serviceDiscoveryReq => exact ServiceDiscovery.onServiceDiscoveryReq_effects config answers
  | servicePaymentSelectionReq req =>
      exact ServicePaymentSelection.onServicePaymentSelectionReq_effects _ req (asks_request _)
  | contractAuthenticationReq =>
      exact ContractAuthentication.onContractAuthenticationReq_effects answers
  | chargeParameterDiscoveryReq req =>
      exact ChargeParameterDiscovery.onChargeParameterDiscoveryReq_effects answers _ req
        (asks_request _)
  | cableCheckReq req => exact CableCheck.onCableCheckReq_effects answers _ req _ _ (asks_request _)
  | preChargeReq req => exact PreCharge.onPreChargeReq_effects answers _ req (asks_request _)
  | powerDeliveryReq req =>
      exact PowerDelivery.onPowerDeliveryReq_effects answers _ req (asks_request _)
  | currentDemandReq req =>
      exact CurrentDemand.onCurrentDemandReq_effects answers _ req (asks_request _)
  | weldingDetectionReq => exact WeldingDetection.onWeldingDetectionReq_effects answers
  | sessionStopReq =>
      apply keeps_bind
      · exact effects_updateSession fun _ => rfl
      intro _
      exact effects_createNextMessage rfl nofun

end Methods

/-! ## The protocol -/

/-- Stopping ends the loop: with a failed response, or for want of a session id. -/
theorem stopStateMachine_ends (message : RequestMessage) (responseCode : ResponseCode)
    (world : World) :
    (∃ next, stopStateMachine (.request message) responseCode world = .ok ⟨⟩ next ∧
        next.currentState.nextState = some .terminate ∧ next.calls = world.calls ∧
        ∀ prepared, next.currentState.nextV2gtpMsg = some prepared →
          prepared.response = failedResponse message.request.requestType) ∨
      ∃ exception next, stopStateMachine (.request message) responseCode world =
        .error exception next ∧ next.calls = world.calls := by
  unfold stopStateMachine updateSession
  rw [modify_bind_apply]
  dsimp only
  unfold createNextMessage setNext
  rw [modify_bind_apply]
  rcases createMessage_ends Session.sessionId _ 0
      { world with
        session := world.session.stopped
        currentState :=
          { world.currentState with nextState := some .terminate, nextMsgTimeout := 0 } } with
      ⟨next, created, terminates, none, prepared⟩ | raised
  · refine .inl ⟨next, created, terminates, none, ?_⟩
    intro message responds
    cases prepared.symm.trans responds
    rfl
  · exact .inr raised

/-- The states of DIN SPEC 70121. -/
def protocol (config : Config) :
    SeccProtocol Session Own StateName ResponseMessage Call PUnit RequestType RequestMessage
      V2GMessage Answers where
  guide := guide
  requestType message := message.request.requestType
  request := .request
  Known := Known
  answer := answer config
  processMessage := processMessage config
  setPresentProtocolState := .setPresentProtocolState
  announce := Answers.setPresentProtocolState
  name_new := StateName.name_new
  request_injective _ _ := V2GMessage.request.inj
  processMessage_cases := by
    intro answers message world
    by_cases isRequest : ∃ req, message = .request req
    · obtain ⟨req, rfl⟩ := isRequest
      rw [processMessage_request]
      unfold route StateTable.route
      by_cases accepted : stateTable.accepts world.currentState.own req.request.requestType = true
      · by_cases known : Known req world.session
        · rw [if_pos accepted, if_pos known]
          exact .inl ⟨req, rfl, accepted, known, rfl⟩
        · rw [if_pos accepted, if_neg known]
          right
          constructor
          · rintro _ ⟨⟩ valid
            exact known valid.2
          · exact (stopStateMachine_ends req _ world).imp_left fun stops =>
              ⟨req, rfl, stops⟩
      · rw [if_neg accepted]
        right
        constructor
        · rintro _ ⟨⟩ valid
          exact accepted valid.1
        · exact (stopStateMachine_ends req _ world).imp_left fun stops =>
            ⟨req, rfl, stops⟩
    · have other : ∀ req, message ≠ .request req := fun req same => isRequest ⟨req, same⟩
      exact .inr ⟨fun req same => absurd same (other req), .inr ⟨_, _,
        processMessage_not_request config answers message world other, rfl⟩⟩
  answer_effects := answer_effects config

abbrev Received := Secc.Received V2GMessage Answers

abbrev SECCSession := Secc.SECCSession Session Own StateName ResponseMessage Call PUnit

/-- `SECCCommunicationSession`, once DIN SPEC 70121 has been agreed on. -/
abbrev machine (config : Config) :
    SessionStateMachine Received Own StateName ResponseMessage World :=
  (protocol config).machine

/-- A session at its start. The data contexts are those of the controller, which
outlives the session. -/
def New (session : SECCSession) : Prop :=
  session.world.currentState = { own := .sessionSetup } ∧ session.world.session = {} ∧
    session.sent = [] ∧ session.ended = false

/-! ## A sample session -/

namespace Sample

def config : Config where
  freeChargingService := false

/-- A controller that is ready for every request. -/
def answers : Answers where
  randomSessionId := "10"
  getEvseId := .ok "49A89A6360"
  getSupportedEnergyTransferModes := .ok [.dcExtended]
  isAuthorized := .ok .accepted
  sendRatedLimits := .ok ⟨⟩
  getDcChargeParametersDinspec := .ok ⟨stoppingDcEvseStatus, zeroPhysical, zeroPhysical,
    zeroPhysical, zeroPhysical, zeroPhysical⟩
  getSaScheduleListDinspec := .ok (some [⟨1⟩])
  startCableCheck := .ok ⟨⟩
  getCableCheckStatus := .ok (some .valid)
  isContactorClosed := .ok (some true)
  isContactorOpened := .ok true
  getDcEvseStatus := .ok stoppingDcEvseStatus
  setHlcCharging _ := .ok ⟨⟩
  stopCharger := .ok ⟨⟩
  sendChargingCommand := .ok ⟨⟩
  sendDisplayParams := .ok ⟨⟩
  getEvsePresentVoltage := .ok (some zeroPhysical)
  getEvsePresentCurrent := .ok (some zeroPhysical)
  isEvseVoltageLimitAchieved := .ok false
  isEvsePowerLimitAchieved := .ok false
  getEvseMaxCurrentLimit := .ok none
  getEvseMaxVoltageLimit := .ok none
  getEvseMaxPowerLimit := .ok none
  setPresentProtocolState := .ok ⟨⟩

def start : SECCSession where
  world :=
    { session := {}
      evDataContext := {}
      evseDataContext := {}
      serviceRegistry := ⟨⟩
      currentState := { own := .sessionSetup }
      calls := [] }

theorem new_start : New start :=
  ⟨rfl, rfl, rfl, rfl⟩

/-- A request of the session that the controller has given an id to. -/
def request (request : Request) : Option Received :=
  some ⟨.request ⟨{ sessionId := "10" }, request⟩, answers⟩

def dcEvStatus : V2.DCEVStatus :=
  ⟨true, .noError, 50, by decide⟩

def powerDeliveryReq (readyToCharge : Bool) : PowerDeliveryReq :=
  ⟨readyToCharge, some ⟨dcEvStatus, none, false⟩⟩

/-- A session up to the pre-charge. -/
def preChargeHistory : List (Option Received) :=
  [request (.preChargeReq ⟨dcEvStatus, zeroPhysical, zeroPhysical⟩),
    request (.cableCheckReq ⟨dcEvStatus⟩),
    request (.cableCheckReq ⟨dcEvStatus⟩),
    request (.chargeParameterDiscoveryReq ⟨.dcExtended, ⟨dcEvStatus, zeroPhysical, none,
      zeroPhysical, none, none, none, none⟩, .inl rfl⟩),
    request .contractAuthenticationReq,
    request (.servicePaymentSelectionReq ⟨.eim, [1]⟩),
    request .serviceDiscoveryReq,
    request (.sessionSetupReq ⟨"ev"⟩)]

/-- The charge loop, and a stop that opens the contactors. -/
def stopHistory : List (Option Received) :=
  request (.powerDeliveryReq (powerDeliveryReq false)) ::
    request (.currentDemandReq ⟨dcEvStatus, zeroPhysical, none, none, none, false, none, none,
      zeroPhysical⟩) ::
    request (.powerDeliveryReq (powerDeliveryReq true)) ::
    preChargeHistory

end Sample

end Iso15118.Secc.Din
