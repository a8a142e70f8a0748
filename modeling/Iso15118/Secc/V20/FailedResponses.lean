import Iso15118.Secc.FailedResponses
import Iso15118.Secc.V20.Responding

/-!
# Failed responses of the ISO 15118-20 SECC

Whether the response of a state is a failed one exactly if the session fails. An unknown
service, a certificate status and a standby that is not allowed can bring them apart.
-/

namespace Iso15118.Secc.V20

open Effect StopConvention
open Iso15118.Shared
open Iso15118.Shared.V20

variable {σ : Type}

def stopConvention : StopConvention Session ResponseMessage where
  isFailed message := message.responseCode.isFailed
  stopReason := Session.stopReason

/-- What is prepared agrees under a condition. -/
abbrev AgreesIff (program : Program σ PUnit) (condition : Prop) (world : World σ) : Prop :=
  stopConvention.AgreesIff program condition world

section

variable {world : World σ} {condition : Prop}

theorem agreesIff_createNextMessage {nextState : Option (NextState StateName)}
    {responseCode : ResponseCode} {response : Response} {timeout : ℚ}
    (same : (responseCode.isFailed = true ↔ nextState = some .terminate ∧
      ∀ reason, world.session.stopReason = some reason → reason.successful = false) ↔
        condition) :
    AgreesIff (createNextMessage nextState responseCode response timeout) condition world :=
  createNextMessage_ensures (agrees_createNextMessage.trans same)

/-- A response after which the session goes on. -/
theorem agreesIff_goesOn {nextState : Option (NextState StateName)}
    {responseCode : ResponseCode} {response : Response} {timeout : ℚ}
    (goesOn : nextState ≠ some .terminate) :
    AgreesIff (createNextMessage nextState responseCode response timeout)
      (responseCode.isFailed = false) world := by
  apply agreesIff_createNextMessage
  simp only [goesOn, false_and, iff_false, Bool.not_eq_true]

theorem agreesIff_ok {nextState : Option (NextState StateName)} {response : Response}
    {timeout : ℚ} (goesOn : nextState ≠ some .terminate) :
    AgreesIff (createNextMessage nextState .ok response timeout) True world :=
  (agreesIff_goesOn goesOn).congr (iff_true_intro rfl)

/-- A failure ends the session. -/
theorem agreesIff_stopStateMachine {message : RequestMessage} {responseCode : ResponseCode} :
    AgreesIff (stopStateMachine (.request message) responseCode)
      (responseCode.isFailed = true) world := by
  unfold AgreesIff StopConvention.AgreesIff Leaves
  rw [wp_stopStateMachine]
  apply agreesIff_createNextMessage
  simp

theorem agreesIff_failed {message : RequestMessage} {responseCode : ResponseCode}
    (failed : responseCode.isFailed = true) :
    AgreesIff (stopStateMachine (.request message) responseCode) True world :=
  agreesIff_stopStateMachine.congr (iff_true_intro failed)

end

/-! ## The states that always agree -/

section

variable {world : World σ} {message : RequestMessage}

theorem agreesIff_sessionStop {answers : Answers} {req : SessionStopReq} :
    AgreesIff (SessionStop.onSessionStopReq answers req) True world := by
  apply leaves_bind
  intro renegotiation reached
  apply leaves_updateSession_bind
  apply agreesIff_createNextMessage
  simp [ResponseCode.isFailed]

theorem agreesIff_sessionSetup {answers : Answers} {header : MessageHeader}
    {req : SessionSetupReq} :
    AgreesIff (SessionSetup.onSessionSetupReq answers header req) True world := by
  apply leaves_get_bind
  apply leaves_bind
  intro evseId reached
  apply leaves_updateSession_bind
  apply (agreesIff_goesOn (by simp)).congr
  split <;> simp [ResponseCode.isFailed]

theorem agreesIff_authorizationSetup {environment : Environment} {answers : Answers} :
    AgreesIff (AuthorizationSetup.onAuthorizationSetupReq environment answers) True world := by
  apply leaves_bind
  intro eimAuthorized reached
  apply leaves_bind
  intro pncAsRes reached
  apply leaves_updateSession_bind
  split
  · exact leaves_throw _
  · exact (agreesIff_ok (by simp)).setOwn

theorem agreesIff_serviceDiscovery [DiagnosticService σ] {answers : Answers} :
    AgreesIff (ServiceDiscovery.onServiceDiscoveryReq answers) True world := by
  unfold ServiceDiscovery.onServiceDiscoveryReq
  iterate 5
    apply leaves_bind
    intro _ _
  exact (agreesIff_ok (by simp)).setOwn

theorem selectionError_isFailed {session : Session} {req : ServiceSelectionReq}
    {responseCode : ResponseCode} (refused : selectionError session req = some responseCode) :
    responseCode.isFailed = true := by
  unfold selectionError at refused
  dsimp only at refused
  split at refused
  · cases refused
    rfl
  · split at refused
    · cases refused
    · cases refused
      rfl

theorem agreesIff_serviceSelection [DiagnosticService σ] {req : ServiceSelectionReq} :
    AgreesIff (ServiceSelection.onServiceSelectionReq (.request message) req) True world := by
  have checked : wp (checkSelectedServices req)
      (fun refused _ => ∀ responseCode, refused = some responseCode →
        responseCode.isFailed = true) (fun _ _ => True) world := by
    unfold checkSelectedServices
    rw [wp_bind, wp_get]
    cases refused : selectionError world.session req with
    | some responseCode =>
        rintro _ ⟨⟩
        exact selectionError_isFailed refused
    | none =>
        iterate 2
          rw [wp_bind]
          apply wp_of_forall _ fun _ _ => trivial
          intro _ _
        rintro _ ⟨⟩
  unfold ServiceSelection.onServiceSelectionReq AgreesIff StopConvention.AgreesIff Leaves
  rw [wp_bind]
  apply wp_mono _ (fun _ _ _ => trivial) checked
  intro refused reached failed
  cases refused with
  | some responseCode => exact agreesIff_failed (failed responseCode rfl)
  | none =>
      dsimp only
      split
      · exact agreesIff_ok (by simp)
      · split
        · exact agreesIff_ok (by simp)
        · exact agreesIff_failed rfl

theorem agreesIff_dcWeldingDetection {answers : Answers} :
    AgreesIff (DCWeldingDetection.onDcWeldingDetectionReq answers) True world := by
  apply leaves_bind
  intro _ reached
  apply leaves_bind
  intro evsePresentVoltage reached
  exact agreesIff_ok (by simp)

theorem agreesIff_dcCableCheck {answers : Answers} {contactorsClosed cableCheckStarted : Bool} :
    AgreesIff (DCCableCheck.onDcCableCheckReq answers (.request message) contactorsClosed
      cableCheckStarted) True world := by
  apply leaves_bind
  intro _ reached
  split
  · apply leaves_bind
    intro isolationLevel reached
    split
    · exact agreesIff_ok (by simp)
    · split
      · exact agreesIff_failed rfl
      · exact agreesIff_ok (by simp)
  · apply leaves_bind
    intro closed reached
    rcases closed with _ | _ | _
    · exact agreesIff_ok (by simp)
    · exact agreesIff_failed rfl
    · apply leaves_bind
      intro _ reached
      exact agreesIff_ok (by simp)

theorem agreesIff_dcPreCharge_respond {answers : Answers}
    {nextState : Option (NextState StateName)} (goesOn : nextState ≠ some .terminate) :
    AgreesIff (DCPreCharge.respond answers nextState) True world := by
  apply leaves_bind
  intro evsePresentVoltage reached
  exact agreesIff_ok goesOn

theorem agreesIff_dcPreCharge {answers : Answers} {req : DCPreChargeReq} :
    AgreesIff (DCPreCharge.onDcPreChargeReq answers (.request message) req) True world := by
  unfold DCPreCharge.onDcPreChargeReq
  iterate 2
    apply leaves_bind
    intro _ _
  split
  · exact agreesIff_dcPreCharge_respond (by simp)
  · apply leaves_bind
    intro _ reached
    apply leaves_bind
    intro timedOut reached
    split
    · exact agreesIff_failed rfl
    · exact agreesIff_dcPreCharge_respond (by simp)

theorem scheduleExchange_nextState_goesOn (service : ServiceV20) :
    ScheduleExchange.nextState service ≠ some .terminate := by
  cases service <;> nofun

theorem agreesIff_scheduleExchange {answers : Answers} {req : ScheduleExchangeReq} :
    AgreesIff (ScheduleExchange.onScheduleExchangeReq answers (.request message) req) True
      world := by
  unfold ScheduleExchange.onScheduleExchangeReq
  iterate 3
    apply leaves_bind
    intro _ _
  split
  · exact agreesIff_failed rfl
  · apply leaves_bind
    intro readyToCharge reached
    split
    · iterate 3
        apply leaves_bind
        intro _ _
      exact agreesIff_ok (scheduleExchange_nextState_goesOn _)
    · apply leaves_bind
      intro res reached
      exact agreesIff_ok (by simp)

theorem agreesIff_dcChargeParameterDiscovery {answers : Answers}
    {req : DCChargeParameterDiscoveryReq} :
    AgreesIff (DCChargeParameterDiscovery.onDcChargeParameterDiscoveryReq answers
      (.request message) req) True world := by
  apply leaves_bind
  intro energyService reached
  apply leaves_bind
  intro res reached
  cases res with
  | some res => exact agreesIff_ok (by simp)
  | none => exact agreesIff_failed rfl

theorem agreesIff_acChargeParameterDiscovery {answers : Answers}
    {req : ACChargeParameterDiscoveryReq} :
    AgreesIff (ACChargeParameterDiscovery.onAcChargeParameterDiscoveryReq answers
      (.request message) req) True world := by
  apply leaves_bind
  intro energyService reached
  apply leaves_bind
  intro res reached
  cases res with
  | some res => exact agreesIff_ok (by simp)
  | none => exact agreesIff_failed rfl

theorem agreesIff_dcChargeLoop [DiagnosticService σ] {answers : Answers}
    {req : DCChargeLoopReq} :
    AgreesIff (DCChargeLoop.onDcChargeLoopReq answers (.request message) req) True world := by
  unfold DCChargeLoop.onDcChargeLoopReq
  iterate 8
    apply leaves_bind
    intro _ _
  split
  · iterate 2
      apply leaves_bind
      intro _ _
    exact agreesIff_ok (by simp)
  · exact agreesIff_failed rfl

theorem agreesIff_acChargeLoop {answers : Answers} {req : ACChargeLoopReq} :
    AgreesIff (ACChargeLoop.onAcChargeLoopReq answers req) True world := by
  unfold ACChargeLoop.onAcChargeLoopReq
  iterate 8
    apply leaves_bind
    intro _ _
  exact agreesIff_ok (by simp)

end

/-! ## The states that may not agree -/

/-- The service is one of those that have been offered. Otherwise the response is a failed one, and
the session goes on. -/
def ServiceDetail.Consistent (req : ServiceDetailReq) (session : Session) : Prop :=
  ∃ offeredService ∈ session.matchedServicesV20, offeredService.service.id = req.serviceId

/-- The status of the certificate is not answered with a failed response. -/
def Authorization.CertificateAccepted (answers : Answers) : Prop :=
  ∀ status certificateStatus, answers.isAuthorized = .ok status →
    status.certificateResponseStatus = some certificateStatus →
      (certificateResponseCode certificateStatus).isFailed = false

/-- A certificate that is not accepted is answered with a failed response, and the session goes on.
It is not asked for if the signature is wrong. -/
def Authorization.Consistent (environment : Environment) (answers : Answers)
    (header : MessageHeader) (req : AuthorizationReq) : Prop :=
  (∀ pncParams, req.pncParams = some pncParams →
    environment.verifySignature header.signature pncParams ≠ .ok false) →
      Authorization.CertificateAccepted answers

/-- A standby that is not allowed ends the session with a warning. -/
def PowerDelivery.Consistent (environment : Environment) (req : PowerDeliveryReq) : Prop :=
  req.evProcessing ≠ .ongoing → req.chargeProgress = .standby →
    environment.config.standbyAllowed = true

section

variable {world : World σ} {message : RequestMessage}

theorem agreesIff_serviceDetail {answers : Answers} {req : ServiceDetailReq} :
    AgreesIff (ServiceDetail.onServiceDetailReq answers req)
      (ServiceDetail.Consistent req world.session) world := by
  apply leaves_ask_bind
  intro serviceParameterList _
  apply leaves_get_bind
  cases serviceParameterList with
  | none => exact leaves_throw _
  | some serviceParameterList =>
      apply leaves_updateSession_bind
      apply leaves_setOwn
      apply (agreesIff_goesOn (by simp)).congr
      unfold ServiceDetail.Consistent
      split
      next found => simpa [ResponseCode.isFailed] using found
      next unknown => simpa [ResponseCode.isFailed] using unknown

theorem Authorization.agreesIff_respond {answers : Answers} {req : AuthorizationReq}
    {responseCode : ResponseCode} (positive : responseCode.isFailed = false) :
    AgreesIff (Authorization.respond answers req responseCode)
      (Authorization.CertificateAccepted answers) world := by
  apply leaves_ask_bind
  intro status authorized
  apply leaves_setOwn
  apply (agreesIff_goesOn (by simp)).congr
  cases certificate : status.certificateResponseStatus with
  | none =>
      apply iff_of_true positive
      intro status' _ authorized' present
      cases authorized.symm.trans authorized'
      cases certificate.symm.trans present
  | some certificateStatus =>
      constructor
      · intro accepted status' _ authorized' present
        cases authorized.symm.trans authorized'
        cases certificate.symm.trans present
        exact accepted
      · exact fun accepted => accepted status certificateStatus authorized certificate

theorem agreesIff_authorization {environment : Environment} {answers : Answers}
    {header : MessageHeader} {req : AuthorizationReq} :
    AgreesIff (Authorization.onAuthorizationReq environment answers (.request message) header req)
      (Authorization.Consistent environment answers header req) world := by
  apply leaves_updateSession_bind
  unfold Authorization.Consistent
  cases req.pncParams with
  | none => exact (Authorization.agreesIff_respond rfl).congr (by simp)
  | some pncParams =>
      apply leaves_ofExcept_bind
      intro verified checked
      cases verified with
      | false => exact (agreesIff_failed rfl).congr (by simp [checked])
      | true =>
          apply leaves_get_bind
          dsimp only
          split
          · exact (Authorization.agreesIff_respond rfl).congr (by simp [checked])
          · exact (Authorization.agreesIff_respond rfl).congr (by simp [checked])

namespace PowerDelivery

theorem agreesIff_stopCharging {answers : Answers} :
    AgreesIff (stopCharging answers (.request message) .ok) True world := by
  unfold stopCharging
  iterate 3
    apply leaves_bind
    intro _ _
  split
  · exact agreesIff_ok (by simp)
  · exact agreesIff_failed rfl

theorem chargeLoop_goesOn (service : ServiceV20) : chargeLoop service ≠ some .terminate := by
  cases service <;> nofun

theorem agreesIff_startCharging {answers : Answers} {req : PowerDeliveryReq} :
    AgreesIff (startCharging answers (.request message) req .ok) True world := by
  apply leaves_bind
  intro valid reached
  split
  · iterate 3
      apply leaves_bind
      intro _ _
    split
    · apply leaves_bind
      intro service reached
      exact agreesIff_ok (chargeLoop_goesOn service)
    · apply leaves_bind
      intro _ reached
      exact agreesIff_failed rfl
  · exact agreesIff_failed rfl

theorem agreesIff_powerDelivery {environment : Environment} {answers : Answers}
    {req : PowerDeliveryReq} :
    AgreesIff (onPowerDeliveryReq environment answers (.request message) req)
      (PowerDelivery.Consistent environment req) world := by
  unfold onPowerDeliveryReq checkPowerProfile PowerDelivery.Consistent
  split
  next ongoing => exact (agreesIff_ok (by simp)).congr (by simp [ongoing])
  next finished =>
    dsimp only
    rw [if_neg (by simp)]
    split
    next standby =>
      apply agreesIff_stopStateMachine.congr
      simp [finished, standby, ResponseCode.isFailed]
    next standby =>
      have consistent : req.evProcessing ≠ .ongoing → req.chargeProgress = .standby →
          environment.config.standbyAllowed = true :=
        fun _ standsBy => by simpa [standsBy] using standby
      split
      · exact agreesIff_stopCharging.congr (iff_of_true trivial consistent)
      · exact agreesIff_startCharging.congr (iff_of_true trivial consistent)

end PowerDelivery

end

/-! ## Any request -/

variable [DiagnosticService σ]

/-- When what is prepared for a request that is accepted agrees. -/
def RequestConsistent (environment : Environment) (answers : Answers) (message : RequestMessage)
    (session : Session) : Prop :=
  match message.request with
  | .serviceDetailReq req => ServiceDetail.Consistent req session
  | .authorizationReq req => Authorization.Consistent environment answers message.header req
  | .powerDeliveryReq req => PowerDelivery.Consistent environment req
  | _ => True

theorem agreesIff_answer {environment : Environment} {answers : Answers}
    {message : RequestMessage} {own : Own} {world : World σ} :
    AgreesIff (answer environment answers message own)
      (RequestConsistent environment answers message world.session) world := by
  rcases message with ⟨header, request⟩
  cases request with
  | sessionSetupReq req => exact agreesIff_sessionSetup
  | authorizationSetupReq => exact agreesIff_authorizationSetup
  | authorizationReq req => exact agreesIff_authorization
  | certificateInstallationReq => exact leaves_throw _
  | serviceDiscoveryReq req => exact agreesIff_serviceDiscovery
  | serviceDetailReq req => exact agreesIff_serviceDetail
  | serviceSelectionReq req => exact agreesIff_serviceSelection
  | scheduleExchangeReq req => exact agreesIff_scheduleExchange
  | powerDeliveryReq req => exact PowerDelivery.agreesIff_powerDelivery
  | sessionStopReq req => exact agreesIff_sessionStop
  | acChargeParameterDiscoveryReq req => exact agreesIff_acChargeParameterDiscovery
  | acChargeLoopReq req => exact agreesIff_acChargeLoop
  | dcChargeParameterDiscoveryReq req => exact agreesIff_dcChargeParameterDiscovery
  | dcCableCheckReq => exact agreesIff_dcCableCheck
  | dcPreChargeReq req => exact agreesIff_dcPreCharge
  | dcChargeLoopReq req => exact agreesIff_dcChargeLoop
  | dcWeldingDetectionReq req => exact agreesIff_dcWeldingDetection

/-- A request that is accepted is one that can be answered consistently. -/
def Consistent (environment : Environment) (answers : Answers) (world : World σ) :
    V2GMessage → Prop
  | .request message =>
      world.currentState.own.accepts message.request.requestType = true →
        Known message world.session →
          RequestConsistent environment answers message world.session
  | .response _ => True

theorem agreesIff_processMessage {environment : Environment} {answers : Answers}
    {message : V2GMessage} {world : World σ} :
    AgreesIff (processMessage environment answers message)
      (Consistent environment answers world message) world := by
  by_cases installing : world.currentState.own = .certificateInstallation
  · unfold AgreesIff StopConvention.AgreesIff Leaves wp
    rw [processMessage_certificateInstallation environment answers message world installing]
    trivial
  · cases message with
    | request message =>
        have routed : AgreesIff (route environment answers message) _ world :=
          agreesIff_route (fun refusal => agreesIff_failed (by cases refusal <;> rfl))
            fun _ => agreesIff_answer
        unfold AgreesIff StopConvention.AgreesIff Leaves wp at routed ⊢
        rw [processMessage_request environment answers message world installing]
        simpa only [Consistent, Own.accepts, and_imp] using routed
    | response message =>
        unfold AgreesIff StopConvention.AgreesIff Leaves wp
        rw [processMessage_response environment answers message world installing]
        trivial

end Iso15118.Secc.V20
