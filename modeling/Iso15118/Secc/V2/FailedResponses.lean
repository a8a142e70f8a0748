import Iso15118.Secc.FailedResponses
import Iso15118.Secc.V2.Responding

/-!
# Failed responses of the ISO 15118-2 SECC

Whether the response of a state is a failed one exactly if the session fails. An unknown service
and what a backend says of a certificate can bring them apart.
-/

namespace Iso15118.Secc.V2

open Effect StopConvention
open Iso15118.Shared
open Iso15118.Shared.V2

def stopConvention : StopConvention Session ResponseMessage where
  isFailed message := message.responseCode.isFailed
  stopReason := Session.stopReason

/-- What is prepared agrees under a condition. -/
abbrev AgreesIff (program : Program PUnit) (condition : Prop) (world : World) : Prop :=
  stopConvention.AgreesIff program condition world

section

variable {world : World} {condition : Prop}

theorem agreesIff_createNextMessage {nextState : Option (NextState StateName)}
    {responseCode : ResponseCode} {response : Response} {timeout : ℚ}
    (same : (responseCode.isFailed = true ↔ nextState = some .terminate ∧
      ∀ reason, world.session.stopReason = some reason → reason.successful = false) ↔
        condition) :
    AgreesIff (createNextMessage nextState responseCode response timeout) condition world := by
  unfold AgreesIff StopConvention.AgreesIff Leaves
  rw [wp_createNextMessage]
  exact ⟨fun _ => agrees_createNextMessage.trans same, fun _ _ => trivial⟩

/-- A response after which the session goes on. -/
theorem agreesIff_goesOn {nextState : Option (NextState StateName)}
    {responseCode : ResponseCode} {response : Response} {timeout : ℚ}
    (goesOn : nextState ≠ some .terminate) :
    AgreesIff (createNextMessage nextState responseCode response timeout)
      (responseCode.isFailed = false) world := by
  apply agreesIff_createNextMessage
  simp only [goesOn, false_and, iff_false, Bool.not_eq_true]

theorem agreesIff_ok {nextState : Option (NextState StateName)} {response : Response}
    {timeout : ℚ} (goesOn : nextState ≠ some .terminate) :
    AgreesIff (createNextMessage nextState .ok response timeout) True world :=
  (agreesIff_goesOn goesOn).congr (iff_true_intro rfl)

/-- A failure ends the session. -/
theorem agreesIff_stopStateMachine {message : RequestMessage} {responseCode : ResponseCode} :
    AgreesIff (stopStateMachine (.request message) responseCode)
      (responseCode.isFailed = true) world := by
  unfold AgreesIff StopConvention.AgreesIff Leaves
  rw [wp_stopStateMachine]
  split
  · apply agreesIff_createNextMessage
    simp [Session.stopped]
  · trivial

theorem agreesIff_failed {message : RequestMessage} {responseCode : ResponseCode}
    (failed : responseCode.isFailed = true) :
    AgreesIff (stopStateMachine (.request message) responseCode) True world :=
  agreesIff_stopStateMachine.congr (iff_true_intro failed)

end

/-! ## The states that always agree -/

section

variable {world : World} {message : RequestMessage}

theorem agreesIff_sessionSetup {answers : Answers} {header : MessageHeader}
    {req : SessionSetupReq} :
    AgreesIff (SessionSetup.onSessionSetupReq answers header req) True world := by
  unfold SessionSetup.onSessionSetupReq
  iterate 7
    apply leaves_bind
    intro _ _
  apply (agreesIff_goesOn (by simp)).congr
  split <;> simp [ResponseCode.isFailed]

theorem agreesIff_serviceDiscovery {environment : Environment} {answers : Answers}
    {req : ServiceDiscoveryReq} {expecting : Bool} :
    AgreesIff (ServiceDiscovery.onServiceDiscoveryReq environment answers (.request message) req
      expecting) True world := by
  unfold ServiceDiscovery.onServiceDiscoveryReq
  split
  · apply leaves_bind
    intro world reached
    split
    · exact leaves_throw _
    · apply leaves_bind
      intro res reached
      exact (agreesIff_ok (by simp)).setOwn
  · exact agreesIff_failed rfl

theorem selectionError_isFailed {session : Session} {req : PaymentServiceSelectionReq}
    {responseCode : ResponseCode} (refused : selectionError session req = some responseCode) :
    responseCode.isFailed = true := by
  unfold selectionError at refused
  split at refused
  · cases refused
    rfl
  · split at refused
    · cases refused
      rfl
    · split at refused
      · cases refused
        rfl
      · cases refused

theorem agreesIff_paymentServiceSelection {req : PaymentServiceSelectionReq} :
    AgreesIff (PaymentServiceSelection.onPaymentServiceSelectionReq (.request message) req) True
      world := by
  apply leaves_get_bind
  cases refused : selectionError world.session req with
  | some responseCode => exact agreesIff_failed (selectionError_isFailed refused)
  | none =>
      apply leaves_updateSession_bind
      apply leaves_bind
      intro _ reached
      exact (agreesIff_ok (by simp)).setOwn

theorem agreesIff_sessionStop {req : SessionStopReq} :
    AgreesIff (SessionStop.onSessionStopReq req) True world := by
  unfold SessionStop.onSessionStopReq
  split
  · apply leaves_updateSession_bind
    exact agreesIff_ok (by simp)
  · apply leaves_updateSession_bind
    apply agreesIff_createNextMessage
    simp [ResponseCode.isFailed]

theorem agreesIff_weldingDetection {answers : Answers} :
    AgreesIff (WeldingDetection.onWeldingDetectionReq answers) True world := by
  unfold WeldingDetection.onWeldingDetectionReq
  iterate 3
    apply leaves_bind
    intro _ _
  exact (agreesIff_ok (by simp)).setOwn

namespace PowerDelivery

theorem agreesIff_respond {answers : Answers} {nextState : Option (NextState StateName)}
    (goesOn : nextState ≠ some .terminate) : AgreesIff (respond answers nextState) True world := by
  apply leaves_bind
  intro world reached
  split
  · apply leaves_bind
    intro acEvseStatus reached
    exact (agreesIff_ok goesOn).setOwn
  · apply leaves_bind
    intro dcEvseStatus reached
    exact (agreesIff_ok goesOn).setOwn

theorem agreesIff_startCharging {answers : Answers} {req : PowerDeliveryReq} :
    AgreesIff (startCharging answers (.request message) req) True world := by
  unfold startCharging
  iterate 3
    apply leaves_bind
    intro _ _
  split
  · apply leaves_bind
    intro world reached
    apply leaves_updateSession_bind
    exact agreesIff_respond (by simp)
  · exact agreesIff_failed rfl

theorem afterStop_goesOn (session : Session) : afterStop session ≠ some .terminate := by
  unfold afterStop
  split <;> simp

theorem agreesIff_stopCharging {answers : Answers} :
    AgreesIff (stopCharging answers (.request message)) True world := by
  unfold stopCharging
  iterate 4
    apply leaves_bind
    intro _ _
  split
  · exact agreesIff_respond (afterStop_goesOn _)
  · exact agreesIff_failed rfl

theorem agreesIff_renegotiate {answers : Answers} :
    AgreesIff (renegotiate answers (.request message)) True world := by
  apply leaves_bind
  intro world reached
  split
  · exact agreesIff_respond (by simp)
  · exact agreesIff_failed rfl

theorem agreesIff_powerDelivery {answers : Answers} {req : PowerDeliveryReq} :
    AgreesIff (onPowerDeliveryReq answers (.request message) req) True world := by
  apply leaves_bind
  intro world reached
  split
  · iterate 2
      apply leaves_bind
      intro _ _
    split
    · unfold onChargeProgress
      cases req.chargeProgress with
      | start => exact agreesIff_startCharging
      | stop => exact agreesIff_stopCharging
      | renegotiate => exact agreesIff_renegotiate
    · exact agreesIff_failed rfl
  · exact agreesIff_failed rfl

end PowerDelivery

theorem agreesIff_currentDemand {answers : Answers} {req : CurrentDemandReq} :
    AgreesIff (CurrentDemand.onCurrentDemandReq answers (.request message) req) True world := by
  unfold CurrentDemand.onCurrentDemandReq
  iterate 2
    apply leaves_bind
    intro _ _
  split
  · iterate 2
      apply leaves_bind
      intro _ _
    exact (agreesIff_ok (by simp)).setOwn
  · exact agreesIff_failed rfl

theorem agreesIff_chargingStatus {answers : Answers} :
    AgreesIff (ChargingStatus.onChargingStatusReq answers) True world := by
  unfold ChargingStatus.onChargingStatusReq
  iterate 6
    apply leaves_bind
    intro _ _
  exact (agreesIff_ok (by simp)).setOwn

theorem agreesIff_meteringReceipt {environment : Environment} {answers : Answers}
    {header : MessageHeader} {req : MeteringReceiptReq} :
    AgreesIff (MeteringReceipt.onMeteringReceiptReq environment answers (.request message) header
      req) True world := by
  unfold MeteringReceipt.onMeteringReceiptReq
  iterate 2
    apply leaves_bind
    intro _ _
  split
  · split
    · apply leaves_bind
      intro acEvseStatus reached
      exact (agreesIff_ok (by simp)).setOwn
    · apply leaves_bind
      intro dcEvseStatus reached
      exact (agreesIff_ok (by simp)).setOwn
  · exact agreesIff_failed rfl

theorem agreesIff_preCharge {answers : Answers} {req : PreChargeReq} :
    AgreesIff (PreCharge.onPreChargeReq answers (.request message) req) True world := by
  unfold PreCharge.onPreChargeReq
  split
  · iterate 2
      apply leaves_bind
      intro _ _
    apply leaves_bind
    intro world reached
    split
    · exact agreesIff_failed rfl
    · split
      · apply leaves_bind
        intro sent reached
        split
        · unfold PreCharge.respond
          iterate 3
            apply leaves_bind
            intro _ _
          exact (agreesIff_ok (by simp)).setOwn
        · exact agreesIff_failed rfl
      · exact agreesIff_failed rfl
  · exact agreesIff_failed rfl

theorem agreesIff_cableCheck_respond {answers : Answers} {req : CableCheckReq}
    {nextState : Option (NextState StateName)} {evseProcessing : EVSEProcessing}
    (goesOn : nextState ≠ some .terminate) :
    AgreesIff (CableCheck.respond answers req nextState evseProcessing) True world := by
  unfold CableCheck.respond
  iterate 2
    apply leaves_bind
    intro _ _
  exact agreesIff_ok goesOn

theorem agreesIff_cableCheck {answers : Answers} {req : CableCheckReq}
    {cableCheckStarted contactorsClosed : Bool} :
    AgreesIff (CableCheck.onCableCheckReq answers (.request message) req cableCheckStarted
      contactorsClosed) True world := by
  unfold CableCheck.onCableCheckReq
  split
  · apply leaves_bind
    intro _ reached
    split
    · apply leaves_bind
      intro isolationLevel reached
      unfold CableCheck.onStatus
      split
      · exact agreesIff_cableCheck_respond (by simp)
      · split
        · exact agreesIff_failed rfl
        · exact agreesIff_cableCheck_respond (by simp)
    · apply leaves_bind
      intro closed reached
      rcases closed with _ | _ | _
      · exact agreesIff_cableCheck_respond (by simp)
      · exact agreesIff_failed rfl
      · apply leaves_bind
        intro _ reached
        exact agreesIff_cableCheck_respond (by simp)
  · exact agreesIff_failed rfl

namespace ChargeParameterDiscovery

theorem agreesIff_respond {answers : Answers} {req : ChargeParameterDiscoveryReq}
    {parameters : Option ACEVSEChargeParameter × Option DCEVSEChargeParameter}
    {schedules : List SAScheduleTuple} :
    AgreesIff (respond answers req parameters schedules) True world := by
  unfold respond
  split
  · apply leaves_bind
    intro _ reached
    exact agreesIff_ok (by simp)
  · iterate 4
      apply leaves_bind
      intro _ _
    exact agreesIff_ok (by simp)

theorem agreesIff_chargeParameterDiscovery {answers : Answers}
    {req : ChargeParameterDiscoveryReq} :
    AgreesIff (onChargeParameterDiscoveryReq answers (.request message) req) True world := by
  apply leaves_bind
  intro energyModes reached
  split
  · iterate 3
      apply leaves_bind
      intro _ _
    unfold offerSchedules
    iterate 5
      apply leaves_bind
      intro _ _
    exact agreesIff_respond
  · exact agreesIff_failed rfl

end ChargeParameterDiscovery

end

/-! ## The states that may not agree -/

/-- The service is one of those that have been offered. Otherwise the response is a failed one, and
the session goes on. -/
def ServiceDetail.Consistent (req : ServiceDetailReq) (session : Session) : Prop :=
  req.serviceId ∈ session.offeredServices.map ServiceDetails.serviceId

/-- The status of a certificate is answered with a failed response exactly if the authorization is
rejected, which ends the session. -/
def StatusConsistent (listedCode : ResponseCode → ResponseCode) (status : AuthorizationResponse) :
    Prop :=
  ((status.certificateResponseStatus.map listedCode).getD .ok).isFailed = true ↔
    status.authorizationStatus = .rejected

/-- A request that is checked, and not complete yet, has a consistent status. -/
def Authorization.Consistent (environment : Environment) (answers : Answers)
    (header : MessageHeader) (req : AuthorizationReq) (session : Session)
    (signatureVerifiedOnce authorizationComplete : Bool) : Prop :=
  Authorization.checked environment header req session signatureVerifiedOnce = .ok none →
    authorizationComplete = false → ∀ status, answers.isAuthorized = .ok status →
      StatusConsistent Authorization.listedCode status

/-- A contract that passes the checks has a consistent status. -/
def PaymentDetails.Consistent (environment : Environment) (answers : Answers)
    (req : PaymentDetailsReq) : Prop :=
  ∀ subCaCerts status, req.certChain.subCertificates = some subCaCerts →
    PaymentDetails.checks environment answers req.certChain subCaCerts = .ok status →
      StatusConsistent PaymentDetails.listedCode status

/-- What the backend has encoded is not a failed response. The session would go on. -/
def CertificateInstallation.Consistent (environment : Environment) (answers : Answers)
    (header : MessageHeader) (req : CertificateInstallationReq) : Prop :=
  environment.verifyInstallationSignature header.signature req = .ok true →
    environment.config.useCpoBackend = true → ∀ res message,
      answers.get15118EvCertificate = .ok res → res.decoded = .ok message →
        message.responseCode.isFailed = false

section

variable {world : World} {message : RequestMessage}

theorem agreesIff_serviceDetail {req : ServiceDetailReq} :
    AgreesIff (ServiceDetail.onServiceDetailReq req)
      (ServiceDetail.Consistent req world.session) world := by
  apply leaves_get_bind
  unfold ServiceDetail.Consistent
  split
  next offered => exact (agreesIff_ok (by simp)).setOwn.congr (iff_of_true trivial offered)
  next unknown =>
    exact (agreesIff_goesOn (by simp)).congr (iff_of_false (by simp [ResponseCode.isFailed])
      unknown)

theorem Authorization.checked_isFailed {environment : Environment} {header : MessageHeader}
    {req : AuthorizationReq} {session : Session} {signatureVerifiedOnce : Bool}
    {responseCode : ResponseCode}
    (refused : Authorization.checked environment header req session signatureVerifiedOnce =
      .ok (some responseCode)) : responseCode.isFailed = true := by
  unfold Authorization.checked at refused
  split at refused
  · split at refused
    · cases refused
      rfl
    · split at refused
      · cases refused
      · split at refused
        · cases refused
          rfl
        · obtain ⟨verified, -, same⟩ := map_eq_ok_iff.mp refused
          split at same
          · cases same
          · cases same
            rfl
  · cases refused

theorem Authorization.wp_checkPnc {environment : Environment} {header : MessageHeader}
    {req : AuthorizationReq} {signatureVerifiedOnce authorizationComplete : Bool} :
    wp (Authorization.checkPnc environment header req signatureVerifiedOnce authorizationComplete)
      (fun refused _ => Authorization.checked environment header req world.session
        signatureVerifiedOnce = .ok refused) (fun _ _ => True) world := by
  unfold Authorization.checkPnc Authorization.checked
  by_cases pnc : world.session.selectedAuthOption = some .pnc
  · cases chain : world.session.contractCertChain with
    | none => simp [pnc, chain]
    | some contractCertChain =>
        cases signatureVerifiedOnce with
        | true => simp [pnc, chain]
        | false =>
            by_cases challenge : req.genChallenge = world.session.genChallenge
            · simp only [wp_bind, wp_get, pnc, chain, challenge, ↓reduceIte, Bool.false_eq_true,
                ne_eq, not_true_eq_false, wp_setOwn, wp_ofExcept]
              refine ⟨fun verified checked => ?_, fun _ _ => trivial⟩
              rw [checked]
              cases verified <;> rfl
            · simp [pnc, chain, challenge]
  · simp [pnc]

/-- Without a status the authorization is complete, and the response is a positive one. -/
theorem Authorization.agreesIff_respond {answers : Answers} {authorizationComplete : Bool} :
    AgreesIff (Authorization.respond answers (.request message) authorizationComplete)
      (authorizationComplete = false → ∀ status, answers.isAuthorized = .ok status →
        StatusConsistent Authorization.listedCode status) world := by
  cases authorizationComplete with
  | true =>
      have positive : True ↔ (true = false → ∀ status, answers.isAuthorized = .ok status →
          StatusConsistent Authorization.listedCode status) := iff_of_true trivial nofun
      apply leaves_get_bind
      apply leaves_bind
      intro finished reached
      apply leaves_get_bind
      cases finished with
      | true => exact (agreesIff_ok (by simp)).congr positive
      | false => exact (agreesIff_ok (by simp)).congr positive
  | false =>
      unfold Authorization.respond Authorization.currentStatus
      rw [bind_assoc]
      apply leaves_get_bind
      rw [if_neg Bool.false_ne_true]
      apply leaves_ask_bind
      intro status authorized
      have only : (false = false → ∀ status, answers.isAuthorized = .ok status →
          StatusConsistent Authorization.listedCode status) ↔
            StatusConsistent Authorization.listedCode status := by
        constructor
        · exact fun holds => holds rfl status authorized
        · rintro holds - _ same
          cases authorized.symm.trans same
          exact holds
      rw [only]
      unfold StatusConsistent
      cases decided : status.authorizationStatus with
      | rejected =>
          apply leaves_get_bind
          exact agreesIff_stopStateMachine.congr (by simp)
      | ongoing =>
          apply leaves_get_bind
          exact (agreesIff_goesOn (by simp)).congr (by simp)
      | accepted =>
          apply leaves_bind
          intro finished reached
          apply leaves_get_bind
          cases finished with
          | true => exact (agreesIff_goesOn (by simp)).congr (by simp)
          | false => exact (agreesIff_goesOn (by simp)).congr (by simp)

theorem agreesIff_authorization {environment : Environment} {answers : Answers}
    {header : MessageHeader} {req : AuthorizationReq}
    {signatureVerifiedOnce authorizationComplete : Bool} :
    AgreesIff (Authorization.onAuthorizationReq environment answers (.request message) header req
        signatureVerifiedOnce authorizationComplete)
      (Authorization.Consistent environment answers header req world.session
        signatureVerifiedOnce authorizationComplete) world := by
  unfold Authorization.onAuthorizationReq Authorization.Consistent AgreesIff
    StopConvention.AgreesIff Leaves
  rw [wp_bind]
  apply wp_mono _ (fun _ _ _ => trivial) Authorization.wp_checkPnc
  intro refused reached checked
  rw [checked]
  cases refused with
  | some responseCode =>
      exact (agreesIff_failed (Authorization.checked_isFailed checked)).congr
        (iff_of_true trivial nofun)
  | none => exact Authorization.agreesIff_respond.congr (by simp)

theorem agreesIff_certificateInstallation {environment : Environment} {answers : Answers}
    {header : MessageHeader} {req : CertificateInstallationReq} :
    AgreesIff (CertificateInstallation.onCertificateInstallationReq environment answers
        (.request message) header req)
      (CertificateInstallation.Consistent environment answers header req) world := by
  unfold CertificateInstallation.Consistent
  apply leaves_ofExcept_bind
  intro verified checked
  cases verified with
  | false => exact (agreesIff_failed rfl).congr (iff_of_true trivial (by simp [checked]))
  | true =>
      have refused {message : RequestMessage} {condition : Prop} {world : World}
          (consistent : condition) : AgreesIff
            (stopStateMachine (.request message) .failedNoCertificateAvailable) condition world :=
        (agreesIff_failed rfl).congr (iff_of_true trivial consistent)
      unfold Leaves CertificateInstallation.build
      rw [if_pos rfl, wp_bind, wp_tryCatch, wp_bind]
      by_cases backend : environment.config.useCpoBackend = true
      · rw [if_pos backend, wp_bind, wp_ask]
        constructor
        · intro res got
          apply leaves_bind
          intro _ reached
          apply leaves_ofExcept_bind
          intro message decoded
          apply agrees_createNextMessage.trans
          simp only [reduceCtorEq, Option.some.injEq, false_and, iff_false, Bool.not_eq_true]
          constructor
          · intro positive _ _ _ _ got' decoded'
            cases got.symm.trans got'
            cases decoded.symm.trans decoded'
            exact positive
          · exact fun consistent => consistent checked backend res message got decoded
        · intro exception raised
          apply refused
          intro _ _ res _ got
          cases raised.symm.trans got
      · have consistent : environment.verifyInstallationSignature header.signature req = .ok true →
            environment.config.useCpoBackend = true → ∀ res message,
              answers.get15118EvCertificate = .ok res → res.decoded = .ok message →
                message.responseCode.isFailed = false :=
          fun _ uses => absurd uses backend
        rw [if_neg backend, wp_bind, wp_ofExcept]
        constructor
        · intro _ _
          exact (agreesIff_ok (by simp)).congr (iff_of_true trivial consistent)
        · intro _ _
          exact refused consistent

namespace PaymentDetails

theorem certErrorCode_isFailed {exception : PyError} {responseCode : ResponseCode}
    (coded : certErrorCode exception = some responseCode) : responseCode.isFailed = true := by
  cases exception <;> cases coded <;> rfl

/-- An exception that is handled is answered with a failure. -/
theorem agreesIff_handler {condition : Prop} {exception : PyError}
    (consistent : (certErrorCode exception).isSome = true → condition) :
    AgreesIff (match certErrorCode exception with
      | some responseCode => stopStateMachine (.request message) responseCode
      | none => throw exception) condition world := by
  cases coded : certErrorCode exception with
  | none => exact leaves_throw exception
  | some responseCode =>
      rw [coded] at consistent
      exact (agreesIff_failed (certErrorCode_isFailed coded)).congr
        (iff_of_true trivial (consistent rfl))

/-- The end of the `try` block, where whatever is raised is not handled. -/
theorem wp_respond_agrees {answers : Answers} {status : AuthorizationResponse}
    {onError : PyError → World → Prop} (unhandled : ∀ reached, onError .validationError reached)
    (raises : ∀ reached, onError .attributeError reached) :
    wp (respond answers (.request message) status)
      (fun _ after => stopConvention.Agrees after ↔ StatusConsistent listedCode status) onError
      world := by
  have creates (world : World) (nextState : Option (NextState StateName))
      (responseCode : ResponseCode) (response : Response) (timeout : ℚ)
      (same : (responseCode.isFailed = true ↔ nextState = some .terminate ∧
        ∀ reason, world.session.stopReason = some reason → reason.successful = false) ↔
          StatusConsistent listedCode status) :
      wp (createNextMessage nextState responseCode response timeout)
        (fun _ after => stopConvention.Agrees after ↔ StatusConsistent listedCode status) onError
        world := by
    rw [wp_createNextMessage, checkSessionId_eq]
    refine ⟨fun _ => agrees_createNextMessage.trans same, fun exception raised => ?_⟩
    split at raised
    · cases raised
    · cases raised
      exact unhandled _
  unfold respond
  by_cases accepted : status.authorizationStatus = .accepted ∨ status.authorizationStatus = .ongoing
  · have goesOn : status.authorizationStatus ≠ .rejected := by
      rintro rejected
      simp [rejected] at accepted
    rw [if_pos accepted, wp_bind, wp_updateSession]
    apply creates
    simp [StatusConsistent, goesOn]
  · have rejected : status.authorizationStatus = .rejected := by
      cases decided : status.authorizationStatus <;> simp [decided] at accepted ⊢
    rw [if_neg accepted, wp_stopStateMachine]
    split
    · apply creates
      simp [StatusConsistent, rejected, Session.stopped]
    · exact raises _

theorem agreesIff_paymentDetails {environment : Environment} {answers : Answers}
    {req : PaymentDetailsReq} :
    AgreesIff (onPaymentDetailsReq environment answers (.request message) req)
      (PaymentDetails.Consistent environment answers req) world := by
  apply leaves_tryCatch
  unfold authorize
  cases subs : req.certChain.subCertificates with
  | none => trivial
  | some subCaCerts =>
      have raised {exception : PyError} {world : World}
          (failed : checks environment answers req.certChain subCaCerts = .error exception) :
          AgreesIff (match certErrorCode exception with
            | some responseCode => stopStateMachine (.request message) responseCode
            | none => throw exception) (PaymentDetails.Consistent environment answers req)
            world := by
        apply agreesIff_handler
        intro _ _ status subs' passed
        cases subs.symm.trans subs'
        cases failed.symm.trans passed
      unfold checks at raised
      dsimp only
      rw [wp_bind, wp_ofExcept]
      refine ⟨fun _ leaf => ?_, fun _ leaf => raised (by simp [leaf])⟩
      rw [wp_bind, wp_ofExcept]
      refine ⟨fun _ details => ?_, fun _ details => raised (by simp [leaf, details])⟩
      rw [wp_bind, wp_ofExcept]
      refine ⟨fun rootCert loaded => ?_, fun _ loaded => raised (by simp [leaf, details, loaded])⟩
      rw [wp_bind, wp_ofExcept]
      refine ⟨fun rootCert verified => ?_,
        fun _ verified => raised (by simp [leaf, details, loaded, verified])⟩
      rw [wp_bind, wp_updateSession, wp_bind, wp_ofExcept]
      refine ⟨fun _ hashed => ?_,
        fun _ hashed => raised (by simp [leaf, details, loaded, verified, hashed])⟩
      rw [wp_bind, wp_ofExcept]
      refine ⟨fun _ built => ?_,
        fun _ built => raised (by simp [leaf, details, loaded, verified, hashed, built])⟩
      rw [wp_bind, wp_ask]
      refine ⟨fun status authorized => ?_, fun _ authorized => raised
        (by simp [leaf, details, loaded, verified, hashed, built, authorized])⟩
      have passed : checks environment answers req.certChain subCaCerts = .ok status := by
        simp [checks, leaf, details, loaded, verified, hashed, built, authorized]
      have only : PaymentDetails.Consistent environment answers req ↔
          StatusConsistent listedCode status := by
        constructor
        · exact fun consistent => consistent subCaCerts status subs passed
        · intro consistent _ _ subs' passed'
          cases subs.symm.trans subs'
          cases passed.symm.trans passed'
          exact consistent
      rw [only]
      exact wp_respond_agrees (fun _ => trivial) fun _ => trivial

end PaymentDetails

end

/-! ## Any request -/

/-- When what is prepared for a request that is accepted agrees, in an object in the state `own`. -/
def RequestConsistent (environment : Environment) (answers : Answers) (message : RequestMessage)
    (own : Own) (session : Session) : Prop :=
  match message.request with
  | .serviceDetailReq req => ServiceDetail.Consistent req session
  | .authorizationReq req =>
      Authorization.Consistent environment answers message.header req session
        own.authorizationFlags.1 own.authorizationFlags.2
  | .paymentDetailsReq req => PaymentDetails.Consistent environment answers req
  | .certificateInstallationReq req =>
      CertificateInstallation.Consistent environment answers message.header req
  | _ => True

theorem agreesIff_answer {environment : Environment} {answers : Answers}
    {message : RequestMessage} {own : Own} {world : World}
    (updatable : message.request ≠ .certificateUpdateReq) :
    AgreesIff (answer environment answers message own)
      (RequestConsistent environment answers message own world.session) world := by
  rcases message with ⟨header, request⟩
  cases request with
  | sessionSetupReq req => exact agreesIff_sessionSetup
  | serviceDiscoveryReq req => exact agreesIff_serviceDiscovery
  | serviceDetailReq req => exact agreesIff_serviceDetail
  | paymentServiceSelectionReq req => exact agreesIff_paymentServiceSelection
  | certificateInstallationReq req => exact agreesIff_certificateInstallation
  | certificateUpdateReq => exact absurd rfl updatable
  | paymentDetailsReq req => exact PaymentDetails.agreesIff_paymentDetails
  | authorizationReq req => exact agreesIff_authorization
  | chargeParameterDiscoveryReq req =>
      exact ChargeParameterDiscovery.agreesIff_chargeParameterDiscovery
  | powerDeliveryReq req => exact PowerDelivery.agreesIff_powerDelivery
  | meteringReceiptReq req => exact agreesIff_meteringReceipt
  | sessionStopReq req => exact agreesIff_sessionStop
  | chargingStatusReq => exact agreesIff_chargingStatus
  | cableCheckReq req => exact agreesIff_cableCheck
  | preChargeReq req => exact agreesIff_preCharge
  | currentDemandReq req => exact agreesIff_currentDemand
  | weldingDetectionReq => exact agreesIff_weldingDetection

/-- A request that is accepted is one that can be answered consistently. -/
def Consistent (environment : Environment) (answers : Answers) (world : World) :
    V2GMessage → Prop
  | .request message =>
      world.currentState.own.accepts message.request.requestType = true →
        Known message world.session →
          RequestConsistent environment answers message
            (answering world.currentState message.request.requestType).own world.session
  | .response _ => True
  | .empty _ => True

theorem agreesIff_processMessage {environment : Environment} {answers : Answers}
    {message : V2GMessage} {world : World} :
    AgreesIff (processMessage environment answers message)
      (Consistent environment answers world message) world := by
  cases message with
  | request message =>
      have routed : AgreesIff (route environment answers message) _ world :=
        agreesIff_route (fun refusal => agreesIff_failed (by cases refusal <;> rfl))
          fun accepted => agreesIff_answer fun update => by
            rw [update] at accepted
            exact absurd accepted (by simp [Request.requestType, not_accepts_certificateUpdateReq])
      unfold AgreesIff StopConvention.AgreesIff Leaves wp at routed ⊢
      rw [processMessage_request environment answers message world]
      simpa only [Consistent, Own.accepts, answering, and_imp] using routed
  | response message =>
      unfold AgreesIff StopConvention.AgreesIff Leaves wp
      rw [processMessage_not_request environment answers _ world (by rintro _ ⟨⟩)]
      trivial
  | empty header =>
      unfold AgreesIff StopConvention.AgreesIff Leaves wp
      rw [processMessage_not_request environment answers _ world (by rintro _ ⟨⟩)]
      trivial

end Iso15118.Secc.V2
