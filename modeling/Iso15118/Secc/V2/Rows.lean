import Iso15118.Secc.Leaves
import Iso15118.Secc.V2.Loop

/-!
# What the ISO 15118-2 SECC answers

A table of the responses to a request after which the session goes on, with the variables and the
state that waits for the next request. The response of a backend is passed on as it is, and a
failed response about the details of a service does not end the session.
-/

namespace Iso15118.Secc.V2

open Effect
open Iso15118.Shared
open Iso15118.Shared.V2

/-- The table. It has the variables, the next state that is named and the object that has
answered. -/
inductive Row : Request → Response → Session → Option (NextState StateName) → Own → Prop
  | sessionSetup (req : SessionSetupReq) (evseId : String) (session : Session) (own : Own) :
      Row (.sessionSetupReq req) (.sessionSetupRes evseId) session
        (some (.state .serviceDiscovery)) own
  | serviceDiscovery (req : ServiceDiscoveryReq) (res : ServiceDiscoveryRes)
      (session : Session) :
      Row (.serviceDiscoveryReq req) (.serviceDiscoveryRes res) session none
        (.serviceDiscovery false)
  | serviceDetail (req : ServiceDetailReq) (serviceId : Int)
      (parameters : Option (List ParameterSet)) (session : Session) :
      Row (.serviceDetailReq req) (.serviceDetailRes serviceId parameters) session none
        (.serviceDetail false)
  | paymentServiceSelection (req : PaymentServiceSelectionReq) (session : Session) :
      Row (.paymentServiceSelectionReq req) .paymentServiceSelectionRes session none
        (.paymentServiceSelection false)
  | certificateInstallation (req : CertificateInstallationReq) (response : Response)
      (session : Session) (own : Own) :
      Row (.certificateInstallationReq req) response session (some (.state .paymentDetails)) own
  | paymentDetails (req : PaymentDetailsReq) (genChallenge : List UInt8) (session : Session)
      (own : Own) :
      Row (.paymentDetailsReq req) (.paymentDetailsRes genChallenge) session
        (some (.state .authorization)) own
  | authorized (req : AuthorizationReq) (session : Session) (own : Own) :
      Row (.authorizationReq req) (.authorizationRes .finished) session
        (some (.state .chargeParameterDiscovery)) own
  | notAuthorized (req : AuthorizationReq) (evseProcessing : EVSEProcessing) (session : Session)
      (own : Own) (ongoing : evseProcessing ≠ .finished) :
      Row (.authorizationReq req) (.authorizationRes evseProcessing) session none own
  | schedules (req : ChargeParameterDiscoveryReq) (res : ChargeParameterDiscoveryRes)
      (session : Session) (own : Own) (finished : res.evseProcessing = .finished)
      (selects : session.selectedChargingTypeIsAc = req.requestedEnergyMode.isAc) :
      Row (.chargeParameterDiscoveryReq req) (.chargeParameterDiscoveryRes res) session
        (some (.state (ChargeParameterDiscovery.nextState req))) own
  | noSchedules (req : ChargeParameterDiscoveryReq) (res : ChargeParameterDiscoveryRes)
      (session : Session) (ongoing : res.evseProcessing = .ongoing)
      (selects : session.selectedChargingTypeIsAc = req.requestedEnergyMode.isAc) :
      Row (.chargeParameterDiscoveryReq req) (.chargeParameterDiscoveryRes res) session none
        (.chargeParameterDiscovery true)
  | started (req : PowerDeliveryReq) (acEvseStatus : Option ACEVSEStatus)
      (dcEvseStatus : Option DCEVSEStatus) (session : Session) (own : Own)
      (starts : req.chargeProgress = .start) :
      Row (.powerDeliveryReq req) (.powerDeliveryRes acEvseStatus dcEvseStatus) session
        (some (.state (PowerDelivery.chargeLoop session))) own
  | stopped (req : PowerDeliveryReq) (acEvseStatus : Option ACEVSEStatus)
      (dcEvseStatus : Option DCEVSEStatus) (session : Session)
      (stops : req.chargeProgress = .stop) :
      Row (.powerDeliveryReq req) (.powerDeliveryRes acEvseStatus dcEvseStatus) session
        (PowerDelivery.afterStop session) (.powerDelivery false)
  | renegotiation (req : PowerDeliveryReq) (acEvseStatus : Option ACEVSEStatus)
      (dcEvseStatus : Option DCEVSEStatus) (session : Session) (own : Own)
      (renegotiates : req.chargeProgress = .renegotiate) :
      Row (.powerDeliveryReq req) (.powerDeliveryRes acEvseStatus dcEvseStatus) session
        (some (.state .chargeParameterDiscovery)) own
  | meteringReceipt (req : MeteringReceiptReq) (acEvseStatus : Option ACEVSEStatus)
      (dcEvseStatus : Option DCEVSEStatus) (session : Session) :
      Row (.meteringReceiptReq req) (.meteringReceiptRes acEvseStatus dcEvseStatus) session none
        (.meteringReceipt false)
  | chargingStatus (evseId : String) (tupleId : Nat) (acEvseStatus : ACEVSEStatus)
      (maxCurrent : Option PhysicalValue) (meterInfo : Option MeterInfo)
      (receiptRequired : Option Bool) (session : Session) :
      Row .chargingStatusReq
        (.chargingStatusRes evseId tupleId acEvseStatus maxCurrent meterInfo receiptRequired)
        session none (.chargingStatus false)
  | cableChecked (req : CableCheckReq) (dcEvseStatus : DCEVSEStatus) (session : Session)
      (own : Own) :
      Row (.cableCheckReq req) (.cableCheckRes dcEvseStatus .finished) session
        (some (.state .preCharge)) own
  | checkingCable (req : CableCheckReq) (dcEvseStatus : DCEVSEStatus) (session : Session)
      (own : Own) :
      Row (.cableCheckReq req) (.cableCheckRes dcEvseStatus .ongoing) session none own
  | preCharge (req : PreChargeReq) (dcEvseStatus : DCEVSEStatus)
      (evsePresentVoltage : PhysicalValue) (session : Session) :
      Row (.preChargeReq req) (.preChargeRes dcEvseStatus evsePresentVoltage) session none
        (.preCharge false)
  | currentDemand (req : CurrentDemandReq) (res : CurrentDemandRes) (session : Session) :
      Row (.currentDemandReq req) (.currentDemandRes res) session none (.currentDemand false)
  | weldingDetection (dcEvseStatus : DCEVSEStatus) (evsePresentVoltage : PhysicalValue)
      (session : Session) :
      Row .weldingDetectionReq (.weldingDetectionRes dcEvseStatus evsePresentVoltage) session
        none (.weldingDetection false)

/-- The session goes on in this state or in another one. -/
def GoesOn (nextState : Option (NextState StateName)) : Prop :=
  nextState ≠ some .terminate ∧ nextState ≠ some .pause

/-- The response is what the backend has made. -/
def PassedOn (environment : Environment) (answers : Answers) (response : ResponseMessage) : Prop :=
  environment.config.useCpoBackend = true ∧
    ∃ res, answers.get15118EvCertificate = .ok res ∧ res.decoded = .ok response

/-- A response to the request has been prepared, with the id of the session, or what the backend
has made for one that asks for a certificate. If it is a good one and the session goes on, the
table has it. -/
def Replied (environment : Environment) (answers : Answers) (request : Request) (after : World) :
    Prop :=
  ∃ header responseCode response,
    after.currentState.nextV2gtpMsg = some ⟨header, responseCode, response⟩ ∧
    (responseTo response = request.requestType ∧
        header.sessionId = after.session.sessionId ∨
      request.requestType = .certificateInstallationReq ∧
        PassedOn environment answers ⟨header, responseCode, response⟩) ∧
    (responseCode.isFailed = false → GoesOn after.currentState.nextState →
      Row request response after.session after.currentState.nextState after.currentState.own)

/-! ## Rules -/

section

variable {environment : Environment} {answers : Answers} {request : Request} {world : World}
  {nextState : Option (NextState StateName)} {responseCode : ResponseCode} {response : Response}
  {timeout : ℚ}

theorem leaves_createNextMessage {post : World → Prop}
    (holds : post { world with
      currentState := world.currentState.createNextMessage nextState
        ⟨{ sessionId := world.session.sessionId }, responseCode, response⟩ timeout }) :
    Leaves (createNextMessage nextState responseCode response timeout) post world := by
  unfold Leaves
  rw [wp_createNextMessage]
  exact ⟨fun _ => holds, fun _ _ => trivial⟩

/-- What is prepared for the object that the world has. -/
theorem replied_createNextMessage (responds : responseTo response = request.requestType)
    (row : responseCode.isFailed = false → GoesOn nextState →
      Row request response world.session nextState world.currentState.own) :
    Leaves (createNextMessage nextState responseCode response timeout)
      (Replied environment answers request) world :=
  leaves_createNextMessage ⟨_, responseCode, response, rfl, .inl ⟨responds, rfl⟩, row⟩

/-- What is prepared before the attributes of the object are assigned. -/
theorem replied_createNextMessage_setOwn {own : Own}
    (responds : responseTo response = request.requestType)
    (row : Row request response world.session nextState own) :
    Leaves (createNextMessage nextState responseCode response timeout >>= fun _ => setOwn own)
      (Replied environment answers request) world :=
  leaves_setOwn
    (leaves_createNextMessage
      ⟨_, responseCode, response, rfl, .inl ⟨responds, rfl⟩, fun _ _ => row⟩)

theorem replied_stopStateMachine {message : RequestMessage} :
    Leaves (stopStateMachine (.request message) responseCode)
      (Replied environment answers message.request) world := by
  unfold Leaves
  rw [wp_stopStateMachine]
  split
  next response failed =>
    exact replied_createNextMessage (responseTo_failedResponse failed)
      fun _ goesOn => absurd rfl goesOn.1
  next => trivial

end

/-! ## The states -/

section

variable {environment : Environment} {world : World} {answers : Answers} {header : MessageHeader}

theorem replied_sessionSetup {req : SessionSetupReq} :
    Leaves (SessionSetup.onSessionSetupReq answers header req)
      (Replied environment answers (.sessionSetupReq req)) world := by
  unfold SessionSetup.onSessionSetupReq
  iterate 7
    apply leaves_bind
    intro _ _
  exact replied_createNextMessage rfl fun _ _ => .sessionSetup req _ _ _

theorem replied_serviceDiscovery {req : ServiceDiscoveryReq} {expecting : Bool} :
    Leaves (ServiceDiscovery.onServiceDiscoveryReq environment answers
        (.request ⟨header, .serviceDiscoveryReq req⟩) req expecting)
      (Replied environment answers (.serviceDiscoveryReq req)) world := by
  unfold ServiceDiscovery.onServiceDiscoveryReq
  split
  · apply leaves_get_bind
    split
    · exact leaves_throw _
    · apply leaves_bind
      intro res _
      exact replied_createNextMessage_setOwn rfl (.serviceDiscovery req res _)
  · exact replied_stopStateMachine

theorem replied_serviceDetail {req : ServiceDetailReq} :
    Leaves (ServiceDetail.onServiceDetailReq req)
      (Replied environment answers (.serviceDetailReq req)) world := by
  apply leaves_get_bind
  split
  · exact replied_createNextMessage_setOwn rfl (.serviceDetail req _ _ _)
  · exact replied_createNextMessage rfl nofun

theorem replied_paymentServiceSelection {req : PaymentServiceSelectionReq} :
    Leaves (PaymentServiceSelection.onPaymentServiceSelectionReq
        (.request ⟨header, .paymentServiceSelectionReq req⟩) req)
      (Replied environment answers (.paymentServiceSelectionReq req)) world := by
  apply leaves_get_bind
  split
  · exact replied_stopStateMachine
  · iterate 2
      apply leaves_bind
      intro _ _
    exact replied_createNextMessage_setOwn rfl (.paymentServiceSelection req _)

namespace CertificateInstallation

/-- A response that is not made here is the backend's. -/
theorem built_of :
    wp (tryCatch
        (do
          let res ← build environment answers
          return some res)
        (fun _ => return none))
      (fun built _ => ∀ res, built = some (some res) →
        environment.config.useCpoBackend = true ∧ answers.get15118EvCertificate = .ok res)
      (fun _ _ => True) world := by
  rw [wp_tryCatch, wp_bind]
  unfold build
  split
  next backend =>
    rw [wp_bind, wp_ask]
    refine ⟨?_, fun _ _ _ => nofun⟩
    rintro res got _ ⟨⟩
    exact ⟨backend, got⟩
  next =>
    rw [wp_bind, wp_ofExcept]
    exact ⟨fun _ _ _ => nofun, fun _ _ _ => nofun⟩

end CertificateInstallation

theorem replied_certificateInstallation {req : CertificateInstallationReq} :
    Leaves (CertificateInstallation.onCertificateInstallationReq environment answers
        (.request ⟨header, .certificateInstallationReq req⟩) header req)
      (Replied environment answers (.certificateInstallationReq req)) world := by
  apply leaves_bind
  intro verified _
  split
  · apply leaves_bind_of CertificateInstallation.built_of
    intro built reached made
    rcases built with _ | _ | res
    · exact replied_stopStateMachine
    · exact replied_createNextMessage rfl fun _ _ => .certificateInstallation req _ _ _
    · obtain ⟨backend, got⟩ := made res rfl
      apply leaves_modify_bind
      apply leaves_ofExcept_bind
      intro message decoded
      exact ⟨_, _, _, rfl, .inr ⟨rfl, backend, res, got, decoded⟩,
        fun _ _ => .certificateInstallation req _ _ _⟩
  · exact replied_stopStateMachine

theorem PaymentDetails.replied_respond {req : PaymentDetailsReq} {status : AuthorizationResponse} :
    Leaves (PaymentDetails.respond answers (.request ⟨header, .paymentDetailsReq req⟩) status)
      (Replied environment answers (.paymentDetailsReq req)) world := by
  unfold PaymentDetails.respond
  dsimp only
  split
  · apply leaves_updateSession_bind
    exact replied_createNextMessage rfl fun _ _ => .paymentDetails req _ _ _
  · exact replied_stopStateMachine

theorem replied_paymentDetails {req : PaymentDetailsReq} :
    Leaves (PaymentDetails.onPaymentDetailsReq environment answers
        (.request ⟨header, .paymentDetailsReq req⟩) req)
      (Replied environment answers (.paymentDetailsReq req)) world := by
  apply leaves_tryCatch_of
  · unfold PaymentDetails.authorize
    split
    · exact leaves_throw _
    · iterate 8
        apply leaves_bind
        intro _ _
      exact PaymentDetails.replied_respond
  · intro exception reached
    split
    · exact replied_stopStateMachine
    · exact leaves_throw _

theorem Authorization.replied_respond {req : AuthorizationReq} {authorizationComplete : Bool} :
    Leaves (Authorization.respond answers (.request ⟨header, .authorizationReq req⟩)
        authorizationComplete)
      (Replied environment answers (.authorizationReq req)) world := by
  apply leaves_bind
  intro status _
  apply leaves_bind
  intro finished _
  apply leaves_get_bind
  split
  · exact replied_createNextMessage rfl fun _ _ => .authorized req _ _
  · split
    · exact replied_stopStateMachine
    · apply replied_createNextMessage rfl
      intro _ _
      apply Row.notAuthorized
      unfold Authorization.ongoing
      split <;> nofun

theorem replied_authorization {req : AuthorizationReq}
    {signatureVerifiedOnce authorizationComplete : Bool} :
    Leaves (Authorization.onAuthorizationReq environment answers
        (.request ⟨header, .authorizationReq req⟩) header req signatureVerifiedOnce
        authorizationComplete)
      (Replied environment answers (.authorizationReq req)) world := by
  apply leaves_bind
  intro failed _
  cases failed with
  | some responseCode => exact replied_stopStateMachine
  | none => exact Authorization.replied_respond

namespace ChargeParameterDiscovery

theorem replied_respond {req : ChargeParameterDiscoveryReq}
    {parameters : Option ACEVSEChargeParameter × Option DCEVSEChargeParameter}
    {schedules : List SAScheduleTuple}
    (selects : world.session.selectedChargingTypeIsAc = req.requestedEnergyMode.isAc) :
    Leaves (respond answers req parameters schedules)
      (Replied environment answers (.chargeParameterDiscoveryReq req)) world := by
  unfold respond
  split
  · apply leaves_setOwn_bind
    exact replied_createNextMessage rfl fun _ _ => .noSchedules req _ _ rfl selects
  · apply leaves_updateSession_bind
    apply leaves_ofExcept_bind
    intro _ _
    apply leaves_setOwn_bind
    apply leaves_ofExcept_bind
    intro offered _
    exact replied_createNextMessage rfl fun _ _ => .schedules req _ _ _ rfl selects

theorem keeps_session_exchangeParameters {req : ChargeParameterDiscoveryReq} :
    Keeps (Same fun world : World => world.session) (exchangeParameters answers req) := by
  unfold exchangeParameters
  split
  · apply keeps_bind (keeps_ask fun _ => rfl)
    intro _
    apply keeps_bind keeps_session_onEvseData
    intro _
    apply keeps_bind keeps_session_onEvData
    intro _
    exact keeps_pure _
  · apply keeps_bind (keeps_ask fun _ => rfl)
    intro _
    apply keeps_bind keeps_session_onEvseData
    intro _
    apply keeps_bind keeps_session_onEvData
    intro _
    exact keeps_pure _

theorem replied_onChargeParameterDiscoveryReq {req : ChargeParameterDiscoveryReq} :
    Leaves (onChargeParameterDiscoveryReq answers
        (.request ⟨header, .chargeParameterDiscoveryReq req⟩) req)
      (Replied environment answers (.chargeParameterDiscoveryReq req)) world := by
  apply leaves_ask_bind
  intro energyModes _
  split
  · apply leaves_bind
    intro _ _
    apply leaves_updateSession_bind
    apply leaves_bind_same keeps_session_exchangeParameters
    intro parameters reached same
    apply leaves_ask_bind
    intro _ _
    apply leaves_get_bind
    apply leaves_ask_bind
    intro schedules _
    apply leaves_ofExcept_bind
    intro valid _
    apply leaves_ofExcept_bind
    intro _ _
    apply replied_respond
    exact congrArg Session.selectedChargingTypeIsAc same
  · exact replied_stopStateMachine

end ChargeParameterDiscovery

namespace PowerDelivery

theorem replied_respond {req : PowerDeliveryReq} {nextState : Option (NextState StateName)}
    (row : ∀ acEvseStatus dcEvseStatus,
      Row (.powerDeliveryReq req) (.powerDeliveryRes acEvseStatus dcEvseStatus) world.session
        nextState (.powerDelivery false)) :
    Leaves (respond answers nextState)
      (Replied environment answers (.powerDeliveryReq req)) world := by
  apply leaves_get_bind
  split
  · apply leaves_ask_bind
    intro acEvseStatus _
    exact replied_createNextMessage_setOwn rfl (row (some acEvseStatus) none)
  · apply leaves_ask_bind
    intro dcEvseStatus _
    exact replied_createNextMessage_setOwn rfl (row none (some dcEvseStatus))

theorem replied_onChargeProgress {req : PowerDeliveryReq} :
    Leaves (onChargeProgress answers (.request ⟨header, .powerDeliveryReq req⟩) req)
      (Replied environment answers (.powerDeliveryReq req)) world := by
  unfold onChargeProgress
  split
  next starts =>
    apply leaves_ask_bind
    intro _ _
    apply leaves_ask_bind
    intro _ _
    apply leaves_ask_bind
    intro contactorClosed _
    split
    · apply leaves_get_bind
      apply leaves_updateSession_bind
      exact replied_respond fun _ _ => .started req _ _ _ _ starts
    · exact replied_stopStateMachine
  next stops =>
    apply leaves_get_bind
    apply leaves_ask_bind
    intro _ _
    apply leaves_ask_bind
    intro _ _
    apply leaves_ask_bind
    intro contactorOpened _
    split
    · exact replied_respond fun _ _ => .stopped req _ _ _ stops
    · exact replied_stopStateMachine
  next renegotiates =>
    apply leaves_get_bind
    split
    · exact replied_respond fun _ _ => .renegotiation req _ _ _ _ renegotiates
    · exact replied_stopStateMachine

theorem replied_onPowerDeliveryReq {req : PowerDeliveryReq} :
    Leaves (onPowerDeliveryReq answers (.request ⟨header, .powerDeliveryReq req⟩) req)
      (Replied environment answers (.powerDeliveryReq req)) world := by
  apply leaves_get_bind
  split
  · apply leaves_bind
    intro _ _
    apply leaves_bind
    intro valid _
    split
    · exact replied_onChargeProgress
    · exact replied_stopStateMachine
  · exact replied_stopStateMachine

end PowerDelivery

theorem replied_sessionStop {req : SessionStopReq} :
    Leaves (SessionStop.onSessionStopReq req)
      (Replied environment answers (.sessionStopReq req)) world := by
  unfold SessionStop.onSessionStopReq
  split
  · apply leaves_updateSession_bind
    exact replied_createNextMessage rfl fun _ goesOn => absurd rfl goesOn.2
  · apply leaves_updateSession_bind
    exact replied_createNextMessage rfl fun _ goesOn => absurd rfl goesOn.1

theorem replied_chargingStatus :
    Leaves (ChargingStatus.onChargingStatusReq answers)
      (Replied environment answers .chargingStatusReq) world := by
  apply leaves_bind
  intro evseId _
  apply leaves_get_bind
  iterate 4
    apply leaves_bind
    intro _ _
  exact replied_createNextMessage_setOwn rfl (.chargingStatus _ _ _ _ _ _ _)

theorem replied_meteringReceipt {req : MeteringReceiptReq} :
    Leaves (MeteringReceipt.onMeteringReceiptReq environment answers
        (.request ⟨header, .meteringReceiptReq req⟩) header req)
      (Replied environment answers (.meteringReceiptReq req)) world := by
  apply leaves_get_bind
  apply leaves_ofExcept_bind
  intro accepted _
  split
  · split
    · apply leaves_bind
      intro acEvseStatus _
      exact replied_createNextMessage_setOwn rfl (.meteringReceipt req _ _ _)
    · apply leaves_bind
      intro dcEvseStatus _
      exact replied_createNextMessage_setOwn rfl (.meteringReceipt req _ _ _)
  · exact replied_stopStateMachine

theorem CableCheck.replied_respond_ongoing {req : CableCheckReq} :
    Leaves (CableCheck.respond answers req none .ongoing)
      (Replied environment answers (.cableCheckReq req))
      world := by
  apply leaves_bind
  intro _ _
  apply leaves_bind
  intro dcEvseStatus _
  exact replied_createNextMessage rfl fun _ _ => .checkingCable req _ _ _

theorem CableCheck.replied_respond_finished {req : CableCheckReq} :
    Leaves (CableCheck.respond answers req (some (.state .preCharge)) .finished)
      (Replied environment answers (.cableCheckReq req)) world := by
  apply leaves_bind
  intro _ _
  apply leaves_bind
  intro dcEvseStatus _
  exact replied_createNextMessage rfl fun _ _ => .cableChecked req _ _ _

theorem replied_cableCheck {req : CableCheckReq} {cableCheckStarted contactorsClosed : Bool} :
    Leaves (CableCheck.onCableCheckReq answers (.request ⟨header, .cableCheckReq req⟩) req
        cableCheckStarted contactorsClosed)
      (Replied environment answers (.cableCheckReq req)) world := by
  unfold CableCheck.onCableCheckReq
  split
  · apply leaves_bind
    intro _ _
    split
    · apply leaves_bind
      intro isolationLevel _
      unfold CableCheck.onStatus
      split
      · exact CableCheck.replied_respond_finished
      · split
        · exact replied_stopStateMachine
        · exact CableCheck.replied_respond_ongoing
    · apply leaves_bind
      intro closed _
      unfold CableCheck.onContactors
      rcases closed with _ | _ | _
      · exact CableCheck.replied_respond_ongoing
      · exact replied_stopStateMachine
      · apply leaves_setOwn_bind
        exact CableCheck.replied_respond_ongoing
  · exact replied_stopStateMachine

theorem replied_preCharge {req : PreChargeReq} :
    Leaves (PreCharge.onPreChargeReq answers (.request ⟨header, .preChargeReq req⟩) req)
      (Replied environment answers (.preChargeReq req)) world := by
  unfold PreCharge.onPreChargeReq
  split
  · apply leaves_bind
    intro _ _
    apply leaves_bind
    intro presentCurrent _
    apply leaves_get_bind
    split
    · exact replied_stopStateMachine
    · split
      · apply leaves_bind
        intro sent _
        split
        · iterate 3
            apply leaves_bind
            intro _ _
          exact replied_createNextMessage_setOwn rfl (.preCharge req _ _ _)
        · exact replied_stopStateMachine
      · exact replied_stopStateMachine
  · exact replied_stopStateMachine

theorem replied_currentDemand {req : CurrentDemandReq} :
    Leaves (CurrentDemand.onCurrentDemandReq answers (.request ⟨header, .currentDemandReq req⟩)
        req)
      (Replied environment answers (.currentDemandReq req)) world := by
  apply leaves_bind
  intro _ _
  apply leaves_bind
  intro sent _
  split
  · apply leaves_bind
    intro _ _
    apply leaves_bind
    intro res _
    exact replied_createNextMessage_setOwn rfl (.currentDemand req res _)
  · exact replied_stopStateMachine

theorem replied_weldingDetection :
    Leaves (WeldingDetection.onWeldingDetectionReq answers)
      (Replied environment answers .weldingDetectionReq)
      world := by
  unfold WeldingDetection.onWeldingDetectionReq
  iterate 3
    apply leaves_bind
    intro _ _
  exact replied_createNextMessage_setOwn rfl (.weldingDetection _ _ _)

/-- Every request that is answered is answered by a row, or ends the session. -/
theorem replied_answer {message : RequestMessage} {own : Own}
    (expected : message.request.requestType ≠ .certificateUpdateReq) :
    Leaves (answer environment answers message own)
      (Replied environment answers message.request) world := by
  rcases message with ⟨header, request⟩
  cases request with
  | sessionSetupReq req => exact replied_sessionSetup
  | serviceDiscoveryReq req => exact replied_serviceDiscovery
  | serviceDetailReq req => exact replied_serviceDetail
  | paymentServiceSelectionReq req => exact replied_paymentServiceSelection
  | certificateInstallationReq req => exact replied_certificateInstallation
  | certificateUpdateReq => exact absurd rfl expected
  | paymentDetailsReq req => exact replied_paymentDetails
  | authorizationReq req => exact replied_authorization
  | chargeParameterDiscoveryReq req =>
      exact ChargeParameterDiscovery.replied_onChargeParameterDiscoveryReq
  | powerDeliveryReq req => exact PowerDelivery.replied_onPowerDeliveryReq
  | meteringReceiptReq req => exact replied_meteringReceipt
  | sessionStopReq req => exact replied_sessionStop
  | chargingStatusReq => exact replied_chargingStatus
  | cableCheckReq req => exact replied_cableCheck
  | preChargeReq req => exact replied_preCharge
  | currentDemandReq req => exact replied_currentDemand
  | weldingDetectionReq => exact replied_weldingDetection

end

/-! ## Steps of the receive loop -/

/-- The object waits for the request that comes after the response to another one. -/
def Awaits (request : Request) (response : Response) (session : Session) (own : Own) : Prop :=
  ∃ nextState answered, Row request response session nextState answered ∧
    stateTable.Rests request.requestType nextState answered own

section

variable {environment : Environment} {session next : SECCSession} {message : RequestMessage}
  {answers : Answers} {response : ResponseMessage}

/-- No state expects a `CertificateUpdateReq`. -/
theorem Own.ne_certificateUpdateReq {own : Own} {type : RequestType}
    (accepted : own.accepts type = true) : type ≠ .certificateUpdateReq := by
  rintro rfl
  have expected := mem_expectedMsgTypes accepted
  cases own <;> simp [Own.name, StateName.expectedMsgTypes] at expected

/-- A request is refused or answered, by a message for it. -/
theorem replied_processMessage {world : World} :
    Leaves (processMessage environment answers (.request message))
      (Replied environment answers message.request)
      world := by
  have routed : Leaves (route environment answers message)
      (Replied environment answers message.request) world :=
    leaves_route (fun _ _ => replied_stopStateMachine) fun accepted _ =>
      replied_answer (Own.ne_certificateUpdateReq accepted)
  unfold Leaves wp at routed ⊢
  rw [processMessage_request environment answers message world]
  exact routed

/-- Whatever is sent in a step answers the request and has the id of the session, or is what the
backend has made. -/
theorem replied_of_sent
    (step : (machine environment).Step session (some ⟨.request message, answers⟩) next)
    (sent : next.sent = response :: session.sent) :
    responseTo response.response = message.request.requestType ∧
        response.header.sessionId = next.world.session.sessionId ∨
      message.request.requestType = .certificateInstallationReq ∧
        PassedOn environment answers response := by
  obtain ⟨reached, ⟨_, _, _, made, replied, _⟩, prepared, same⟩ :=
    SeccProtocol.leaves_of_sent step sent replied_processMessage
  cases made.symm.trans prepared
  rw [same]
  exact replied

/-- A step that goes on has answered the request with a row, or with a failed response. -/
theorem awaits_of_step
    (step : (machine environment).Step session (some ⟨.request message, answers⟩) next)
    (sent : next.sent = response :: session.sent) (goesOn : next.ended = false)
    (resting : session.world.currentState.nextState = none) :
    (response.responseCode.isFailed = false →
      Awaits message.request response.response next.world.session next.world.currentState.own) ∧
      next.world.currentState.nextState = none ∧
      (message.request.requestType ≠ .chargeParameterDiscoveryReq →
        next.world.session.selectedChargingTypeIsAc =
          session.world.session.selectedChargingTypeIsAc) := by
  obtain ⟨req, answers', reached, response', same, answered⟩ :=
    SeccProtocol.step_answered step goesOn
  cases same
  cases sent.symm.trans answered.sent
  obtain ⟨_, _, response, made, _, row⟩ := post_of_eq_ok
    (replied_answer (Own.ne_certificateUpdateReq answered.accepted)) answered.answer
  cases made.symm.trans answered.prepared
  rw [answered.session_eq]
  refine ⟨fun good => ⟨_, _, row good ?_, answered.rests resting⟩, answered.resting, ?_⟩
  · rcases answered.goesTo with ⟨stays, _⟩ | ⟨name, leads, _⟩
    · rw [stays]
      exact ⟨nofun, nofun⟩
    · rw [leads]
      exact ⟨nofun, nofun⟩
  · exact fun other => isAc_of_kept other answered.effects.session

end

end Iso15118.Secc.V2
