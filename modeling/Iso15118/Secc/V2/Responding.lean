import Iso15118.Secc.V2.Routing

/-!
# When the ISO 15118-2 SECC responds

For each request what the controller has to answer, and what the request, the session
and the certificates have to be like, so that the state that answers it does not
raise.
-/

namespace Iso15118.Secc.V2

open Effect
open Iso15118.Shared
open Iso15118.Shared.V2

/-- The SECC has a failed response for the request. -/
def HasFailedResponse (message : RequestMessage) : Prop :=
  (failedResponse message.request.requestType).isSome = true

section

variable {post : PUnit → World → Prop} {world : World}

@[simp]
theorem returns_createNextMessage (nextState : Option (NextState StateName))
    (responseCode : ResponseCode) (response : Response) (timeout : ℚ) :
    returns (createNextMessage nextState responseCode response timeout) post world ↔
      ValidSessionId world.session.sessionId ∧
        post ⟨⟩ { world with
          currentState := world.currentState.createNextMessage nextState
            ⟨{ sessionId := world.session.sessionId }, responseCode, response⟩ timeout } :=
  (wp_createNextMessage nextState responseCode response timeout).trans checkSessionId_passes_iff

theorem returns_prepare (nextState : Option (NextState StateName)) (message : ResponseMessage)
    (timeout : ℚ) :
    returns (prepare nextState message timeout) post world =
      post ⟨⟩ { world with
        currentState := world.currentState.createNextMessage nextState message timeout } :=
  rfl

/-- A state machine that is stopped responds if there is a failed response. -/
@[simp]
theorem responds_stopStateMachine (message : RequestMessage) (responseCode : ResponseCode) :
    Responds (stopStateMachine (.request message) responseCode) world ↔
      HasFailedResponse message ∧ ValidSessionId world.session.sessionId := by
  unfold HasFailedResponse
  apply (wp_stopStateMachine message responseCode).trans
  cases failedResponse message.request.requestType with
  | none => simp
  | some response =>
      apply (returns_createNextMessage (some .terminate) responseCode response 0).trans
      simp [Session.stopped]

end

/-! ## What the checks accept -/

theorem checkEvseId_passes_iff {evseId : String} :
    (∃ valid, checkEvseId evseId = .ok valid) ↔ 7 ≤ evseId.length ∧ evseId.length ≤ 37 := by
  unfold checkEvseId
  exact exists_ite_ok_iff

theorem presentValue_exists_iff {value : Option PhysicalValue} :
    (∃ present, presentValue value = .ok present) ↔ value.isSome = true := by
  cases value with
  | none => simp [presentValue]
  | some present => simp [presentValue]

theorem selectedTupleId_exists_iff {session : Session} :
    (∃ saScheduleTupleId, selectedTupleId session = .ok saScheduleTupleId) ↔
      session.selectedSchedule.isSome = true := by
  unfold selectedTupleId
  cases session.selectedSchedule with
  | none => simp
  | some saScheduleTupleId => simp

/-! ## Setting up the session -/

/-- A session can only be resumed with a context, and the EVSE id goes into the
response under the id that the session gets. -/
def SessionSetup.Answerable (answers : Answers) (header : MessageHeader) (session : Session) :
    Prop :=
  ∃ joined, SessionSetup.joins session.evSessionContext header.sessionId = .ok joined ∧
    (∃ evseId, answers.getEvseId = .ok evseId ∧ 7 ≤ evseId.length ∧ evseId.length ≤ 37) ∧
    ValidSessionId (if joined then header.sessionId else answers.randomSessionId)

theorem responds_sessionSetup {answers : Answers} {header : MessageHeader} {req : SessionSetupReq}
    {world : World} :
    Responds (SessionSetup.onSessionSetupReq answers header req) world ↔
      SessionSetup.Answerable answers header world.session := by
  simp [SessionSetup.onSessionSetupReq, SessionSetup.Answerable, checkEvseId_passes_iff,
    ← and_assoc]

/-! ## Authorization -/

/-- What the check of a Plug and Charge request results in. -/
def Authorization.checked (environment : Environment) (header : MessageHeader)
    (req : AuthorizationReq) (session : Session) (signatureVerifiedOnce : Bool) :
    Except PyError (Option ResponseCode) :=
  if session.selectedAuthOption = some .pnc then
    match session.contractCertChain with
    | none => .ok (some .failedSignatureError)
    | some contractCertChain =>
        if signatureVerifiedOnce then
          .ok none
        else if req.genChallenge ≠ session.genChallenge then
          .ok (some .failedChallengeInvalid)
        else
          (environment.verifySignature header.signature (.authorizationReq req)
            contractCertChain.certificate).map fun verified =>
              if verified then none else some .failedSignatureError
  else
    .ok none

/-- The signature can be verified. Unless the check fails, the authorization is asked
for, and once it is complete also whether to go on. -/
def Authorization.Answerable (environment : Environment) (answers : Answers)
    (header : MessageHeader) (req : AuthorizationReq) (session : Session)
    (signatureVerifiedOnce authorizationComplete : Bool) : Prop :=
  ∃ refused, Authorization.checked environment header req session signatureVerifiedOnce =
      .ok refused ∧
    (refused = none →
      if authorizationComplete then
        answers.readyToCharge.isOk
      else
        ∃ status, answers.isAuthorized = .ok status ∧
          (status.authorizationStatus = .accepted → answers.readyToCharge.isOk))

theorem Authorization.responds_respond {answers : Answers} {message : RequestMessage}
    {authorizationComplete : Bool} {world : World} (hasFailed : HasFailedResponse message) :
    Responds (Authorization.respond answers (.request message) authorizationComplete) world ↔
      ValidSessionId world.session.sessionId ∧
        if authorizationComplete then
          answers.readyToCharge.isOk = true
        else
          ∃ status, answers.isAuthorized = .ok status ∧
            (status.authorizationStatus = .accepted → answers.readyToCharge.isOk = true) := by
  unfold Authorization.respond Authorization.currentStatus Authorization.finished
    Authorization.setComplete
  by_cases valid : ValidSessionId world.session.sessionId
  · cases authorizationComplete with
    | true => simp [valid, isOk_iff]
    | false => simp [valid, hasFailed, isOk_iff]
  · cases authorizationComplete with
    | true => simp [valid]
    | false => simp [valid, hasFailed]

theorem responds_authorization {environment : Environment} {answers : Answers}
    {message : RequestMessage} {header : MessageHeader} {req : AuthorizationReq}
    {signatureVerifiedOnce authorizationComplete : Bool} {world : World}
    (hasFailed : HasFailedResponse message) :
    Responds (Authorization.onAuthorizationReq environment answers (.request message) header req
        signatureVerifiedOnce authorizationComplete) world ↔
      ValidSessionId world.session.sessionId ∧
        Authorization.Answerable environment answers header req world.session
          signatureVerifiedOnce authorizationComplete := by
  unfold Authorization.onAuthorizationReq Authorization.checkPnc Authorization.Answerable
    Authorization.checked
  by_cases pnc : world.session.selectedAuthOption = some .pnc
  · cases chain : world.session.contractCertChain with
    | none => simp [pnc, chain, hasFailed]
    | some contractCertChain =>
        cases signatureVerifiedOnce with
        | true => simp [pnc, chain, Authorization.responds_respond hasFailed]
        | false =>
            by_cases challenge : req.genChallenge = world.session.genChallenge
            · cases signature : environment.verifySignature header.signature
                  (.authorizationReq req) contractCertChain.certificate with
              | error exception =>
                  simp [pnc, chain, challenge, signature, Except.map]
              | ok verified =>
                  cases verified with
                  | true =>
                      simp [pnc, chain, challenge, signature, Except.map,
                        Authorization.responds_respond hasFailed]
                  | false => simp [pnc, chain, challenge, signature, Except.map, hasFailed]
            · simp [pnc, chain, challenge, hasFailed]
  · simp [pnc, Authorization.responds_respond hasFailed]

/-! ## Payment -/

/-- The certificate checks, in the order of the code, and the answer to
`is_authorized`. -/
def PaymentDetails.checks (environment : Environment) (answers : Answers)
    (certChain : CertificateChain) (subCaCerts : List Certificate) :
    Except PyError AuthorizationResponse := do
  environment.logCertsDetails [certChain.certificate]
  environment.logCertsDetails subCaCerts
  let rootCert ← PaymentDetails.loadRoot environment
  let rootCert ←
    PaymentDetails.verifyChain environment certChain.certificate subCaCerts rootCert
  environment.getCertificateHashData certChain rootCert
  environment.buildPemCertificateChain certChain rootCert
  answers.isAuthorized

/-- The chain has sub-certificates, and the checks pass or raise one of the exceptions
that are handled. -/
def PaymentDetails.Answerable (environment : Environment) (answers : Answers)
    (req : PaymentDetailsReq) : Prop :=
  ∃ subCaCerts, req.certChain.subCertificates = some subCaCerts ∧
    ∀ exception, PaymentDetails.checks environment answers req.certChain subCaCerts =
      .error exception → (PaymentDetails.certErrorCode exception).isSome = true

/-- An exception of the `try` block is answered if it has a code. -/
def PaymentDetails.Handled (onError : PyError → World → Prop) : Prop :=
  ∀ exception next, onError exception next ↔
    ValidSessionId next.session.sessionId ∧
      (PaymentDetails.certErrorCode exception).isSome = true

/-- The end of the `try` block responds under a valid session id. An invalid one is not
among the exceptions that are handled. -/
theorem PaymentDetails.wp_respond {answers : Answers} {message : RequestMessage}
    {status : AuthorizationResponse} {onError : PyError → World → Prop} {world : World}
    (hasFailed : HasFailedResponse message) (handled : PaymentDetails.Handled onError) :
    wp (PaymentDetails.respond answers (.request message) status)
        (fun _ next => next.currentState.nextV2gtpMsg.isSome = true) onError world ↔
      ValidSessionId world.session.sessionId := by
  have created (world : World) (nextState : Option (NextState StateName))
      (responseCode : ResponseCode) (response : Response) (timeout : ℚ) :
      wp (createNextMessage nextState responseCode response timeout)
          (fun _ next => next.currentState.nextV2gtpMsg.isSome = true) onError world ↔
        ValidSessionId world.session.sessionId := by
    rw [wp_createNextMessage, checkSessionId_eq]
    by_cases valid : ValidSessionId world.session.sessionId
    · simp [valid]
    · simp [valid, handled _ _, PaymentDetails.certErrorCode]
  unfold PaymentDetails.respond
  by_cases accepted : status.authorizationStatus = .accepted ∨ status.authorizationStatus = .ongoing
  · rw [if_pos accepted, wp_bind, wp_updateSession]
    exact created _ _ _ _ _
  · rw [if_neg accepted, wp_stopStateMachine]
    obtain ⟨response, found⟩ := Option.isSome_iff_exists.mp hasFailed
    rw [found]
    exact created _ _ _ _ _

/-- The `try` block, step by step. -/
theorem PaymentDetails.wp_authorize {environment : Environment} {answers : Answers}
    {message : RequestMessage} {req : PaymentDetailsReq} {onError : PyError → World → Prop}
    {world : World} (hasFailed : HasFailedResponse message)
    (handled : PaymentDetails.Handled onError) :
    wp (PaymentDetails.authorize environment answers (.request message) req)
        (fun _ next => next.currentState.nextV2gtpMsg.isSome = true) onError world ↔
      ValidSessionId world.session.sessionId ∧
        PaymentDetails.Answerable environment answers req := by
  unfold PaymentDetails.authorize PaymentDetails.Answerable PaymentDetails.checks
  unfold PaymentDetails.Handled at handled
  cases req.certChain.subCertificates with
  | none => simp [handled, PaymentDetails.certErrorCode]
  | some subCaCerts =>
      cases leaf : environment.logCertsDetails [req.certChain.certificate] with
      | error exception => simp [leaf, handled]
      | ok _ =>
      cases subs : environment.logCertsDetails subCaCerts with
      | error exception => simp [leaf, subs, handled]
      | ok _ =>
      cases PaymentDetails.loadRoot environment with
      | error exception => simp [leaf, subs, handled]
      | ok rootCert =>
      cases verified : PaymentDetails.verifyChain environment req.certChain.certificate
          subCaCerts rootCert with
      | error exception => simp [leaf, subs, verified, handled]
      | ok rootCert =>
      cases hashed : environment.getCertificateHashData req.certChain rootCert with
      | error exception => simp [leaf, subs, verified, hashed, handled]
      | ok _ =>
      cases built : environment.buildPemCertificateChain req.certChain rootCert with
      | error exception => simp [leaf, subs, verified, hashed, built, handled]
      | ok _ =>
      cases answers.isAuthorized with
      | error exception => simp [leaf, subs, verified, hashed, built, handled]
      | ok status =>
          simp [leaf, subs, verified, hashed, built,
            PaymentDetails.wp_respond hasFailed handled]

theorem responds_paymentDetails {environment : Environment} {answers : Answers}
    {message : RequestMessage} {req : PaymentDetailsReq} {world : World}
    (hasFailed : HasFailedResponse message) :
    Responds (PaymentDetails.onPaymentDetailsReq environment answers (.request message) req)
        world ↔
      ValidSessionId world.session.sessionId ∧
        PaymentDetails.Answerable environment answers req := by
  unfold PaymentDetails.onPaymentDetailsReq Responds
  rw [returns_tryCatch]
  apply PaymentDetails.wp_authorize hasFailed
  intro exception next
  cases coded : PaymentDetails.certErrorCode exception with
  | none => simp [coded]
  | some responseCode => simp [coded, hasFailed]

/-! ## Installing a certificate -/

/-- The signature can be verified, and the response of a backend can be decoded. -/
def CertificateInstallation.Answerable (environment : Environment) (answers : Answers)
    (header : MessageHeader) (req : CertificateInstallationReq) (session : Session) : Prop :=
  ∃ verified, environment.verifyInstallationSignature header.signature req = .ok verified ∧
    if verified = true ∧ environment.config.useCpoBackend = true ∧
        answers.get15118EvCertificate.isOk = true then
      ∃ res, answers.get15118EvCertificate = .ok res ∧ res.decoded.isOk = true
    else
      ValidSessionId session.sessionId

theorem responds_certificateInstallation {environment : Environment} {answers : Answers}
    {message : RequestMessage} {header : MessageHeader} {req : CertificateInstallationReq}
    {world : World} (hasFailed : HasFailedResponse message) :
    Responds (CertificateInstallation.onCertificateInstallationReq environment answers
        (.request message) header req) world ↔
      CertificateInstallation.Answerable environment answers header req world.session := by
  unfold CertificateInstallation.onCertificateInstallationReq CertificateInstallation.build
    CertificateInstallation.Answerable prepareEncoded
  cases environment.verifyInstallationSignature header.signature req with
  | error exception => simp
  | ok verified =>
      cases verified with
      | false => simp [hasFailed]
      | true =>
          by_cases backend : environment.config.useCpoBackend = true
          · cases got : answers.get15118EvCertificate with
            | error exception => simp [backend, returns_tryCatch, hasFailed, isOk_iff]
            | ok res => simp [backend, returns_tryCatch, returns_prepare, isOk_iff]
          · cases answers.generateCertificateInstallationRes with
            | error exception => simp [backend, returns_tryCatch, hasFailed]
            | ok res => simp [backend, returns_tryCatch]

/-! ## Services -/

theorem responds_paymentServiceSelection {message : RequestMessage}
    {req : PaymentServiceSelectionReq} {world : World} (hasFailed : HasFailedResponse message) :
    Responds (PaymentServiceSelection.onPaymentServiceSelectionReq (.request message) req) world ↔
      ValidSessionId world.session.sessionId ∧
        (selectionError world.session req = none →
          world.session.evSessionContext.isSome = true) := by
  unfold PaymentServiceSelection.onPaymentServiceSelectionReq
    PaymentServiceSelection.storeAuthOption
  cases selected : selectionError world.session req with
  | some responseCode => simp [selected, hasFailed]
  | none =>
      cases context : world.session.evSessionContext with
      | none => simp [selected, context]
      | some context => simp [selected, context]

theorem responds_serviceDetail {req : ServiceDetailReq} {world : World} :
    Responds (ServiceDetail.onServiceDetailReq req) world ↔
      ValidSessionId world.session.sessionId := by
  unfold ServiceDetail.onServiceDetailReq
  simp

/-- At least one option is offered and not more than two: those of a resumed session,
the one that has been selected before, or those that are allowed. -/
def AuthOptionsFit (environment : Environment) (answers : Answers) (session : Session)
    (context : EVSessionContext) : Prop :=
  if context.authOptions ≠ [] then
    context.authOptions.length ≤ 2
  else
    session.selectedAuthOption = none →
      ∃ eimAuthorized, answers.isEimAuthorized = .ok eimAuthorized ∧
        (eimAuthorized = false → allowedAuthOptions environment.config session.isTls ≠ [])

/-- The session has a context, there are authorization options, and the energy modes of
the controller fit unless those of a resumed session are used. -/
def ServiceDiscovery.Answerable (environment : Environment) (answers : Answers)
    (session : Session) : Prop :=
  ∃ context, session.evSessionContext = some context ∧
    ∃ energyModes, answers.getSupportedEnergyTransferModes = .ok energyModes ∧
      (context.chargeService = none → energyModes.length ≤ 6) ∧
      AuthOptionsFit environment answers session context

theorem length_allowedAuthOptions_le (config : Config) (isTls : Bool) :
    (allowedAuthOptions config isTls).length ≤ 2 := by
  unfold allowedAuthOptions
  split <;> split <;> simp

theorem chargeServiceOf_exists_iff {config : Config} {context : EVSessionContext}
    {energyModes : List EnergyTransferMode} :
    (∃ chargeService, chargeServiceOf config context energyModes = .ok chargeService) ↔
      (context.chargeService = none → energyModes.length ≤ 6) := by
  unfold chargeServiceOf
  cases context.chargeService with
  | some chargeService => simp
  | none => simp [exists_ite_ok_iff]

theorem serviceDiscoveryRes_exists_iff {authOptions : List AuthEnum}
    {chargeService : ChargeService} {serviceList : List ServiceDetails} :
    (∃ res, serviceDiscoveryRes authOptions chargeService serviceList = .ok res) ↔
      1 ≤ authOptions.length ∧ authOptions.length ≤ 2 :=
  exists_ite_ok_iff

theorem responds_serviceDiscovery {environment : Environment} {answers : Answers}
    {message : RequestMessage} {req : ServiceDiscoveryReq} {expecting : Bool} {world : World}
    (hasFailed : HasFailedResponse message) :
    Responds (ServiceDiscovery.onServiceDiscoveryReq environment answers (.request message) req
        expecting) world ↔
      ValidSessionId world.session.sessionId ∧
        (expecting = true → ServiceDiscovery.Answerable environment answers world.session) := by
  unfold ServiceDiscovery.onServiceDiscoveryReq getServices getAuthOptions
    ServiceDiscovery.Answerable AuthOptionsFit
  cases expecting with
  | false => simp [hasFailed]
  | true =>
      cases found : world.session.evSessionContext with
      | none => simp [found]
      | some context =>
          have atMostTwo := length_allowedAuthOptions_le environment.config world.session.isTls
          by_cases valid : ValidSessionId world.session.sessionId
          · by_cases resumed : context.authOptions = []
            · cases selected : world.session.selectedAuthOption with
              | some selected =>
                  simp [found, resumed, selected, valid, serviceDiscoveryRes_exists_iff,
                    chargeServiceOf_exists_iff]
              | none =>
                  cases answers.isEimAuthorized with
                  | error exception => simp [found, resumed, selected]
                  | ok eimAuthorized =>
                      cases eimAuthorized with
                      | true =>
                          simp [found, resumed, selected, valid, serviceDiscoveryRes_exists_iff,
                            chargeServiceOf_exists_iff]
                      | false =>
                          simp [found, resumed, selected, valid, serviceDiscoveryRes_exists_iff,
                            chargeServiceOf_exists_iff, atMostTwo, Nat.one_le_iff_ne_zero]
            · simp [found, resumed, valid, serviceDiscoveryRes_exists_iff,
                chargeServiceOf_exists_iff, Nat.one_le_iff_ne_zero]
          · by_cases resumed : context.authOptions = []
            · cases selected : world.session.selectedAuthOption with
              | some selected => simp [found, resumed, selected, valid]
              | none => simp [found, resumed, selected, valid]
            · simp [found, resumed, valid]

/-! ## Stopping -/

theorem responds_sessionStop {req : SessionStopReq} {world : World} :
    Responds (SessionStop.onSessionStopReq req) world ↔
      ValidSessionId world.session.sessionId := by
  simp [SessionStop.onSessionStopReq]

/-- The voltage is one of this protocol. -/
def WeldingDetection.Answerable (answers : Answers) : Prop :=
  answers.getDcEvseStatus.isOk ∧ ∃ voltage, answers.getEvsePresentVoltage = .ok (some voltage)

theorem exists_presentValue_iff {answer : Except PyError (Option PhysicalValue)} :
    (∃ value, answer = .ok value ∧ value.isSome = true) ↔
      ∃ present, answer = .ok (some present) := by
  constructor
  · rintro ⟨_ | present, returned, isPresent⟩
    · cases isPresent
    · exact ⟨present, returned⟩
  · rintro ⟨present, returned⟩
    exact ⟨some present, returned, rfl⟩

theorem responds_weldingDetection {answers : Answers} {world : World} :
    Responds (WeldingDetection.onWeldingDetectionReq answers) world ↔
      ValidSessionId world.session.sessionId ∧ WeldingDetection.Answerable answers := by
  by_cases valid : ValidSessionId world.session.sessionId
  · simp [WeldingDetection.onWeldingDetectionReq, WeldingDetection.Answerable, isOk_iff, valid,
      presentValue_exists_iff, exists_presentValue_iff]
  · simp [WeldingDetection.onWeldingDetectionReq, valid]

/-! ## Power delivery -/

namespace PowerDelivery

/-- The status that goes into the response. -/
def StatusAnswered (answers : Answers) (isAc : Bool) : Prop :=
  if isAc = true then answers.getAcEvseStatus.isOk = true
  else answers.getDcEvseStatus.isOk = true

theorem responds_respond {answers : Answers} {nextState : Option (NextState StateName)}
    {world : World} :
    Responds (respond answers nextState) world ↔
      ValidSessionId world.session.sessionId ∧
        StatusAnswered answers world.session.selectedChargingTypeIsAc := by
  unfold respond StatusAnswered
  by_cases isAc : world.session.selectedChargingTypeIsAc = true
  · simp [isAc, isOk_iff, and_comm]
  · simp [isAc, isOk_iff, and_comm]

/-- What the controller has to answer for each value of `ChargeProgress`. -/
def ProgressAnswered (answers : Answers) (req : PowerDeliveryReq) (session : Session) : Prop :=
  match req.chargeProgress with
  | .start =>
      (answers.setHlcCharging true).isOk ∧ answers.waitForStateCOrD.isOk ∧
        ∃ contactorClosed, answers.isContactorClosed = .ok contactorClosed ∧
          (contactorClosed = some true → StatusAnswered answers session.selectedChargingTypeIsAc)
  | .stop =>
      (answers.setHlcCharging false).isOk ∧ answers.stopCharger.isOk ∧
        ∃ contactorOpened, answers.isContactorOpened = .ok contactorOpened ∧
          (contactorOpened = true → StatusAnswered answers session.selectedChargingTypeIsAc)
  | .renegotiate =>
      session.chargeProgressStarted = true →
        StatusAnswered answers session.selectedChargingTypeIsAc

/-- A request for a schedule that was offered has a profile that can be checked, and
with a valid one the controller is asked. -/
def Answerable (answers : Answers) (req : PowerDeliveryReq) (session : Session) : Prop :=
  req.saScheduleTupleId ∈ session.offeredSchedules.map SAScheduleTuple.saScheduleTupleId →
    ∃ valid, profileValid req session.offeredSchedules = .ok valid ∧
      (valid = true → ProgressAnswered answers req session)

theorem responds_onChargeProgress {answers : Answers} {message : RequestMessage}
    {req : PowerDeliveryReq} {world : World} (hasFailed : HasFailedResponse message) :
    Responds (onChargeProgress answers (.request message) req) world ↔
      ValidSessionId world.session.sessionId ∧
        ProgressAnswered answers req world.session := by
  unfold onChargeProgress ProgressAnswered
  by_cases valid : ValidSessionId world.session.sessionId
  · cases req.chargeProgress with
    | start => simp [startCharging, responds_respond, valid, hasFailed, isOk_iff]
    | stop => simp [stopCharging, responds_respond, valid, hasFailed, isOk_iff]
    | renegotiate => simp [renegotiate, responds_respond, valid, hasFailed]
  · cases req.chargeProgress with
    | start => simp [startCharging, responds_respond, valid]
    | stop => simp [stopCharging, responds_respond, valid]
    | renegotiate => simp [renegotiate, responds_respond, valid]

end PowerDelivery

theorem responds_powerDelivery {answers : Answers} {message : RequestMessage}
    {req : PowerDeliveryReq} {world : World} (hasFailed : HasFailedResponse message) :
    Responds (PowerDelivery.onPowerDeliveryReq answers (.request message) req) world ↔
      ValidSessionId world.session.sessionId ∧
        PowerDelivery.Answerable answers req world.session := by
  unfold PowerDelivery.onPowerDeliveryReq PowerDelivery.Answerable
  by_cases offered : req.saScheduleTupleId ∈
      world.session.offeredSchedules.map SAScheduleTuple.saScheduleTupleId
  · simp only [returns_bind, returns_get, offered, forall_const]
    cases checked : PowerDelivery.profileValid req world.session.offeredSchedules with
    | error exception => simp
    | ok valid =>
        cases valid with
        | true => simp [PowerDelivery.responds_onChargeProgress hasFailed]
        | false => simp [hasFailed]
  · simp only [returns_bind, returns_get, offered, false_implies, and_true]
    simp [hasFailed]

/-! ## The charge loops -/

/-- The EVSE id and the selected schedule go into the response with the status and the
limit. -/
def ChargingStatus.Answerable (answers : Answers) (session : Session) : Prop :=
  (∃ evseId, answers.getEvseId = .ok evseId ∧ 7 ≤ evseId.length ∧ evseId.length ≤ 37) ∧
    answers.getAcEvseStatus.isOk = true ∧ answers.getEvseMaxCurrentLimit.isOk = true ∧
    session.selectedSchedule.isSome = true

theorem responds_chargingStatus {answers : Answers} {world : World} :
    Responds (ChargingStatus.onChargingStatusReq answers) world ↔
      ValidSessionId world.session.sessionId ∧
        ChargingStatus.Answerable answers world.session := by
  unfold ChargingStatus.onChargingStatusReq ChargingStatus.Answerable
  by_cases valid : ValidSessionId world.session.sessionId
  · cases answers.getEvseId with
    | error exception => simp
    | ok evseId =>
        simp [valid, isOk_iff, checkEvseId_passes_iff, selectedTupleId_exists_iff]
        tauto
  · simp [valid]

/-- The receipt can be checked. If it is accepted, the status of the connection goes into the
response. -/
def MeteringReceipt.Answerable (environment : Environment) (answers : Answers)
    (header : MessageHeader) (req : MeteringReceiptReq) (session : Session)
    (context : EVDataContext) : Prop :=
  ∃ accepted, MeteringReceipt.accepted environment session header req = .ok accepted ∧
    (accepted = true →
      if context.selectedEnergyMode.isSome = true ∧ session.selectedChargingTypeIsAc = true then
        answers.getAcEvseStatus.isOk = true
      else
        answers.getDcEvseStatus.isOk = true)

theorem responds_meteringReceipt {environment : Environment} {answers : Answers}
    {message : RequestMessage} {header : MessageHeader} {req : MeteringReceiptReq}
    {world : World} (hasFailed : HasFailedResponse message) :
    Responds (MeteringReceipt.onMeteringReceiptReq environment answers (.request message) header
        req) world ↔
      ValidSessionId world.session.sessionId ∧
        MeteringReceipt.Answerable environment answers header req world.session
          world.evDataContext := by
  unfold MeteringReceipt.onMeteringReceiptReq MeteringReceipt.Answerable
  by_cases valid : ValidSessionId world.session.sessionId
  · cases checked : MeteringReceipt.accepted environment world.session header req with
    | error exception => simp [checked]
    | ok accepted =>
        cases accepted with
        | false => simp [checked, hasFailed]
        | true => simp [checked, valid, isOk_iff]
  · simp [valid]

/-- The targets are sent, and the response carries all that the controller is asked
for. -/
def CurrentDemand.Answerable (answers : Answers) (session : Session) : Prop :=
  SendsTargets answers.sendChargingCommand
    (answers.sendDisplayParams.isOk = true ∧ answers.getDcEvseStatus.isOk = true ∧
      (∃ voltage, answers.getEvsePresentVoltage = .ok (some voltage)) ∧
      (∃ current, answers.getEvsePresentCurrent = .ok (some current)) ∧
      answers.isEvseCurrentLimitAchieved.isOk = true ∧
      answers.isEvseVoltageLimitAchieved.isOk = true ∧
      answers.isEvsePowerLimitAchieved.isOk = true ∧
      answers.getEvseMaxVoltageLimit.isOk = true ∧ answers.getEvseMaxCurrentLimit.isOk = true ∧
      answers.getEvseMaxPowerLimit.isOk = true ∧
      (∃ evseId, answers.getEvseId = .ok evseId ∧ 7 ≤ evseId.length ∧ evseId.length ≤ 37) ∧
      session.selectedSchedule.isSome = true)

theorem CurrentDemand.returns_sendTargets {answers : Answers} {post : Bool → World → Prop}
    {world : World} :
    returns (CurrentDemand.sendTargets answers) post world ↔
      (answers.sendChargingCommand.isOk ∧
          post true { world with
            calls := .sendChargingCommand world.evDataContext.targetVoltage
              world.evDataContext.targetCurrent false :: world.calls }) ∨
        answers.sendChargingCommand = .error .timeoutError ∧
          post false { world with
            calls := .sendChargingCommand world.evDataContext.targetVoltage
              world.evDataContext.targetCurrent false :: world.calls } :=
  returns_trySend

theorem responds_currentDemand {answers : Answers} {message : RequestMessage}
    {req : CurrentDemandReq} {world : World} (hasFailed : HasFailedResponse message) :
    Responds (CurrentDemand.onCurrentDemandReq answers (.request message) req) world ↔
      ValidSessionId world.session.sessionId ∧
        CurrentDemand.Answerable answers world.session := by
  unfold CurrentDemand.onCurrentDemandReq CurrentDemand.Answerable CurrentDemand.buildRes
  by_cases valid : ValidSessionId world.session.sessionId
  · rcases voltage : answers.getEvsePresentVoltage with exception | _ | presentVoltage
    · simp [valid, CurrentDemand.returns_sendTargets, SendsTargets, hasFailed]
    · simp [valid, CurrentDemand.returns_sendTargets, SendsTargets, hasFailed,
        presentValue_exists_iff]
    · rcases current : answers.getEvsePresentCurrent with exception | _ | presentCurrent
      · simp [valid, CurrentDemand.returns_sendTargets, SendsTargets, hasFailed]
      · simp [valid, CurrentDemand.returns_sendTargets, SendsTargets, hasFailed,
          presentValue_exists_iff]
      · cases answers.getEvseId with
        | error exception =>
            simp [valid, CurrentDemand.returns_sendTargets, SendsTargets, hasFailed]
        | ok evseId =>
            simp [valid, CurrentDemand.returns_sendTargets, SendsTargets, hasFailed, isOk_iff,
              presentValue_exists_iff, checkEvseId_passes_iff, selectedTupleId_exists_iff]
  · simp [valid, CurrentDemand.returns_sendTargets]

/-! ## DC states before the charge loop -/

/-- With the currents in range the targets are sent, and the response carries the
status and the voltage. -/
def PreCharge.Answerable (answers : Answers) (req : PreChargeReq) (context : EVDataContext) :
    Prop :=
  req.dcEvStatus.evErrorCode = .noError →
    ∃ presentCurrent, answers.getEvsePresentCurrent = .ok presentCurrent ∧
      ∀ current, presentCurrent = some current →
        PreCharge.currentsAllowed current (context.updatePreChargeParameters req) = true →
          SendsTargets answers.sendChargingCommand (answers.getDcEvseStatus.isOk ∧
            ∃ voltage, answers.getEvsePresentVoltage = .ok (some voltage))

theorem PreCharge.returns_sendTargets {answers : Answers} {post : Bool → World → Prop}
    {world : World} :
    returns (PreCharge.sendTargets answers) post world ↔
      (answers.sendChargingCommand.isOk ∧
          post true { world with
            calls := .sendChargingCommand world.evDataContext.targetVoltage
              world.evDataContext.targetCurrent true :: world.calls }) ∨
        answers.sendChargingCommand = .error .timeoutError ∧
          post false { world with
            calls := .sendChargingCommand world.evDataContext.targetVoltage
              world.evDataContext.targetCurrent true :: world.calls } :=
  returns_trySend

theorem PreCharge.responds_respond {answers : Answers} {world : World} :
    Responds (PreCharge.respond answers) world ↔
      ValidSessionId world.session.sessionId ∧ answers.getDcEvseStatus.isOk ∧
        ∃ voltage, answers.getEvsePresentVoltage = .ok (some voltage) := by
  by_cases valid : ValidSessionId world.session.sessionId
  · simp [PreCharge.respond, isOk_iff, valid, presentValue_exists_iff, exists_presentValue_iff]
  · simp [PreCharge.respond, valid]

theorem PreCharge.responds_preCharge {answers : Answers} {message : RequestMessage}
    {presentCurrent : Option PhysicalValue} {world : World}
    (hasFailed : HasFailedResponse message) :
    Responds (PreCharge.preCharge answers (.request message) presentCurrent) world ↔
      ValidSessionId world.session.sessionId ∧
        ∀ current, presentCurrent = some current →
          PreCharge.currentsAllowed current world.evDataContext = true →
            SendsTargets answers.sendChargingCommand (answers.getDcEvseStatus.isOk ∧
              ∃ voltage, answers.getEvsePresentVoltage = .ok (some voltage)) := by
  unfold PreCharge.preCharge
  cases presentCurrent with
  | none => simp [hasFailed]
  | some current =>
      by_cases allowed : PreCharge.currentsAllowed current world.evDataContext = true
      · by_cases valid : ValidSessionId world.session.sessionId
        · simp [allowed, valid, PreCharge.returns_sendTargets, SendsTargets,
            PreCharge.responds_respond, hasFailed]
        · simp [allowed, valid, PreCharge.returns_sendTargets, PreCharge.responds_respond]
      · simp [allowed, hasFailed]

theorem responds_preCharge {answers : Answers} {message : RequestMessage} {req : PreChargeReq}
    {world : World} (hasFailed : HasFailedResponse message) :
    Responds (PreCharge.onPreChargeReq answers (.request message) req) world ↔
      ValidSessionId world.session.sessionId ∧
        PreCharge.Answerable answers req world.evDataContext := by
  unfold PreCharge.onPreChargeReq PreCharge.Answerable
  by_cases healthy : req.dcEvStatus.evErrorCode = .noError
  · by_cases valid : ValidSessionId world.session.sessionId
    · simp [healthy, valid, PreCharge.responds_preCharge hasFailed]
    · simp [healthy, valid, PreCharge.responds_preCharge hasFailed]
  · simp [healthy, hasFailed]

/-- The status of the EVSE goes into the response. -/
theorem CableCheck.responds_respond {answers : Answers} {req : CableCheckReq}
    {nextState : Option (NextState StateName)} {evseProcessing : EVSEProcessing}
    {world : World} :
    Responds (CableCheck.respond answers req nextState evseProcessing) world ↔
      ValidSessionId world.session.sessionId ∧ answers.getDcEvseStatus.isOk := by
  simp [CableCheck.respond, isOk_iff, and_comm]

/-- The cable check is started, and its status or that of the contactors is known. The
status of the EVSE goes into a response that does not fail. -/
def CableCheck.Answerable (answers : Answers) (req : CableCheckReq)
    (cableCheckStarted contactorsClosed : Bool) : Prop :=
  req.dcEvStatus.evErrorCode = .noError →
    (cableCheckStarted = false → answers.startCableCheck.isOk) ∧
      if contactorsClosed then
        ∃ isolationLevel, answers.getCableCheckStatus = .ok isolationLevel ∧
          (isolationLevel = some .fault ∨ isolationLevel = some .noImd ∨
            isolationLevel = some .invalid ∨ answers.getDcEvseStatus.isOk)
      else
        ∃ closed, answers.isContactorClosed = .ok closed ∧
          (closed = some false ∨ answers.getDcEvseStatus.isOk)

theorem CableCheck.responds_onStatus {answers : Answers} {message : RequestMessage}
    {req : CableCheckReq} {isolationLevel : Option IsolationLevel} {world : World}
    (hasFailed : HasFailedResponse message) :
    Responds (CableCheck.onStatus answers (.request message) req isolationLevel) world ↔
      ValidSessionId world.session.sessionId ∧
        (isolationLevel = some .fault ∨ isolationLevel = some .noImd ∨
          isolationLevel = some .invalid ∨ answers.getDcEvseStatus.isOk) := by
  unfold CableCheck.onStatus
  cases isolationLevel with
  | none => simp [CableCheck.responds_respond]
  | some level => cases level <;> simp [CableCheck.responds_respond, hasFailed]

theorem CableCheck.responds_onContactors {answers : Answers} {message : RequestMessage}
    {req : CableCheckReq} {closed : Option Bool} {world : World}
    (hasFailed : HasFailedResponse message) :
    Responds (CableCheck.onContactors answers (.request message) req closed) world ↔
      ValidSessionId world.session.sessionId ∧
        (closed = some false ∨ answers.getDcEvseStatus.isOk) := by
  unfold CableCheck.onContactors
  cases closed with
  | none => simp [CableCheck.responds_respond]
  | some closed => cases closed <;> simp [CableCheck.responds_respond, hasFailed]

theorem responds_cableCheck {answers : Answers} {message : RequestMessage} {req : CableCheckReq}
    {cableCheckStarted contactorsClosed : Bool} {world : World}
    (hasFailed : HasFailedResponse message) :
    Responds (CableCheck.onCableCheckReq answers (.request message) req cableCheckStarted
        contactorsClosed) world ↔
      ValidSessionId world.session.sessionId ∧
        CableCheck.Answerable answers req cableCheckStarted contactorsClosed := by
  unfold CableCheck.onCableCheckReq CableCheck.Answerable CableCheck.startOnce
  by_cases healthy : req.dcEvStatus.evErrorCode = .noError
  · by_cases valid : ValidSessionId world.session.sessionId
    · cases cableCheckStarted <;> cases contactorsClosed <;>
        simp [healthy, valid, isOk_iff, CableCheck.responds_onStatus hasFailed,
          CableCheck.responds_onContactors hasFailed]
    · cases cableCheckStarted <;> cases contactorsClosed <;>
        simp [healthy, valid, CableCheck.responds_onStatus hasFailed,
          CableCheck.responds_onContactors hasFailed]
  · simp [healthy, hasFailed]

/-! ## Charge parameter discovery -/

namespace ChargeParameterDiscovery

/-- The charge parameters of the EVSE are known. -/
def ParametersAnswered (answers : Answers) (req : ChargeParameterDiscoveryReq) : Prop :=
  match req.evChargeParameter with
  | .ac _ => answers.getAcChargeParamsV2.isOk = true
  | .dc _ => answers.getDcChargeParametersV2.isOk = true

/-- The departure time that the EV data has after the request. -/
def departureTime (req : ChargeParameterDiscoveryReq) : Int :=
  match req.evChargeParameter with
  | .ac parameter => parameter.departureTime.getD 0
  | .dc parameter => parameter.departureTime.getD 0

/-- There is a list of schedules. It can be validated, a valid one in a session that has
a context. Schedules that are offered are at most three, and their tariff is signed. -/
def SchedulesAnswered (answers : Answers) (departureTime : Int)
    (context : Option EVSessionContext) : Prop :=
  ∃ schedules, answers.getSaScheduleList = .ok (some schedules) ∧
    (∃ valid, validateSchedules departureTime schedules = .ok valid ∧
      (valid = true → context ≠ none)) ∧
    (schedules ≠ [] → answers.signSalesTariff.isOk = true ∧ schedules.length ≤ 3)

/-- A mode that is supported leads on to the parameters and the schedules. -/
def Answerable (answers : Answers) (req : ChargeParameterDiscoveryReq) (session : Session) :
    Prop :=
  ∃ energyModes, answers.getSupportedEnergyTransferModes = .ok energyModes ∧
    (req.requestedEnergyMode ∈ energyModes →
      ParametersAnswered answers req ∧ answers.sendRatedLimits.isOk = true ∧
        SchedulesAnswered answers (departureTime req) session.evSessionContext)

theorem lookUpResumedSchedule_passes_iff {session : Session} {valid : Bool} :
    (∃ passed, lookUpResumedSchedule session valid = .ok passed) ↔
      (valid = true → session.evSessionContext ≠ none) := by
  unfold lookUpResumedSchedule
  by_cases looked : valid = true ∧ session.evSessionContext = none
  · simp [looked]
  · simp only [looked, ↓reduceIte]
    simpa using looked

theorem saScheduleList_passes_iff {schedules : List SAScheduleTuple} :
    (∃ offered, saScheduleList schedules = .ok offered) ↔ schedules.length ≤ 3 :=
  exists_ite_ok_iff

theorem responds_respond {answers : Answers} {req : ChargeParameterDiscoveryReq}
    {parameters : Option ACEVSEChargeParameter × Option DCEVSEChargeParameter}
    {schedules : List SAScheduleTuple} {world : World} :
    Responds (respond answers req parameters schedules) world ↔
      ValidSessionId world.session.sessionId ∧
        (schedules ≠ [] → answers.signSalesTariff.isOk = true ∧ schedules.length ≤ 3) := by
  unfold respond
  by_cases empty : schedules = []
  · simp [empty]
  · by_cases valid : ValidSessionId world.session.sessionId
    · simp [empty, valid, isOk_iff, saScheduleList_passes_iff]
    · simp [empty, valid]

theorem responds_offerSchedules {answers : Answers} {req : ChargeParameterDiscoveryReq}
    {parameters : Option ACEVSEChargeParameter × Option DCEVSEChargeParameter} {world : World} :
    Responds (offerSchedules answers req parameters) world ↔
      ValidSessionId world.session.sessionId ∧ answers.sendRatedLimits.isOk = true ∧
        SchedulesAnswered answers (world.evDataContext.departureTime.getD 0)
          world.session.evSessionContext := by
  unfold offerSchedules SchedulesAnswered
  by_cases valid : ValidSessionId world.session.sessionId
  · rcases answers.getSaScheduleList with exception | _ | schedules
    · simp
    · simp [validateSaScheduleList]
    · simp only [returns_bind, returns_ask, returns_get, returns_ofExcept, Except.ok.injEq,
        exists_eq_left', validateSaScheduleList, responds_respond, valid, true_and,
        Option.getD_some, isOk_iff, Option.some.injEq]
      constructor
      · rintro ⟨sent, sends, passed, validated, looked, lookedUp, offered⟩
        exact ⟨⟨sent, sends⟩, ⟨passed, validated,
          lookUpResumedSchedule_passes_iff.mp ⟨looked, lookedUp⟩⟩, offered⟩
      · rintro ⟨⟨sent, sends⟩, ⟨passed, validated, context⟩, offered⟩
        obtain ⟨looked, lookedUp⟩ := lookUpResumedSchedule_passes_iff.mpr context
        exact ⟨sent, sends, passed, validated, looked, lookedUp, offered⟩
  · simp [responds_respond, valid]

/-- The update of the EV data from the request. -/
@[simp]
theorem departureTime_updateAc (context : EVDataContext) (parameter : ACEVChargeParameter) :
    (context.updateAcChargeParametersV2 parameter).departureTime = parameter.departureTime :=
  rfl

@[simp]
theorem departureTime_updateDc (context : EVDataContext) (parameter : DCEVChargeParameter) :
    (context.updateDcChargeParameters parameter).departureTime = parameter.departureTime :=
  rfl

end ChargeParameterDiscovery

theorem responds_chargeParameterDiscovery {answers : Answers} {message : RequestMessage}
    {req : ChargeParameterDiscoveryReq} {world : World} (hasFailed : HasFailedResponse message) :
    Responds (ChargeParameterDiscovery.onChargeParameterDiscoveryReq answers (.request message)
        req) world ↔
      ValidSessionId world.session.sessionId ∧
        ChargeParameterDiscovery.Answerable answers req world.session := by
  unfold ChargeParameterDiscovery.onChargeParameterDiscoveryReq
    ChargeParameterDiscovery.Answerable ChargeParameterDiscovery.exchangeParameters
    ChargeParameterDiscovery.ParametersAnswered ChargeParameterDiscovery.departureTime
  cases answers.getSupportedEnergyTransferModes with
  | error exception => simp
  | ok energyModes =>
      by_cases supported : req.requestedEnergyMode ∈ energyModes
      · by_cases valid : ValidSessionId world.session.sessionId
        · cases parameter : req.evChargeParameter with
          | ac parameter =>
              simp [supported, valid, isOk_iff,
                ChargeParameterDiscovery.responds_offerSchedules]
          | dc parameter =>
              simp [supported, valid, isOk_iff,
                ChargeParameterDiscovery.responds_offerSchedules]
        · cases parameter : req.evChargeParameter with
          | ac parameter =>
              simp [supported, valid, ChargeParameterDiscovery.responds_offerSchedules]
          | dc parameter =>
              simp [supported, valid, ChargeParameterDiscovery.responds_offerSchedules]
      · simp [supported, hasFailed]

/-! ## The messages -/

/-- What it takes to answer a request, in an object in the state `own`. A
`CertificateUpdateReq` is never answered. -/
def RequestAnswerable (environment : Environment) (answers : Answers) (message : RequestMessage)
    (own : Own) (world : World) : Prop :=
  match message.request with
  | .sessionSetupReq _ => SessionSetup.Answerable answers message.header world.session
  | .serviceDiscoveryReq _ =>
      ValidSessionId world.session.sessionId ∧
        (own.expectsServiceDiscovery = true →
          ServiceDiscovery.Answerable environment answers world.session)
  | .serviceDetailReq _ => ValidSessionId world.session.sessionId
  | .paymentServiceSelectionReq req =>
      ValidSessionId world.session.sessionId ∧
        (selectionError world.session req = none →
          world.session.evSessionContext.isSome = true)
  | .certificateInstallationReq req =>
      CertificateInstallation.Answerable environment answers message.header req world.session
  | .certificateUpdateReq => False
  | .paymentDetailsReq req =>
      ValidSessionId world.session.sessionId ∧
        PaymentDetails.Answerable environment answers req
  | .authorizationReq req =>
      ValidSessionId world.session.sessionId ∧
        Authorization.Answerable environment answers message.header req world.session
          own.authorizationFlags.1 own.authorizationFlags.2
  | .chargeParameterDiscoveryReq req =>
      ValidSessionId world.session.sessionId ∧
        ChargeParameterDiscovery.Answerable answers req world.session
  | .powerDeliveryReq req =>
      ValidSessionId world.session.sessionId ∧
        PowerDelivery.Answerable answers req world.session
  | .meteringReceiptReq req =>
      ValidSessionId world.session.sessionId ∧
        MeteringReceipt.Answerable environment answers message.header req world.session
          world.evDataContext
  | .sessionStopReq _ => ValidSessionId world.session.sessionId
  | .chargingStatusReq =>
      ValidSessionId world.session.sessionId ∧ ChargingStatus.Answerable answers world.session
  | .cableCheckReq req =>
      ValidSessionId world.session.sessionId ∧
        CableCheck.Answerable answers req own.cableCheckFlags.1 own.cableCheckFlags.2
  | .preChargeReq req =>
      ValidSessionId world.session.sessionId ∧
        PreCharge.Answerable answers req world.evDataContext
  | .currentDemandReq _ =>
      ValidSessionId world.session.sessionId ∧ CurrentDemand.Answerable answers world.session
  | .weldingDetectionReq =>
      ValidSessionId world.session.sessionId ∧ WeldingDetection.Answerable answers

theorem responds_answer {environment : Environment} {answers : Answers}
    {message : RequestMessage} {own : Own} {world : World}
    (updatable : message.request ≠ .certificateUpdateReq) :
    Responds (answer environment answers message own) world ↔
      RequestAnswerable environment answers message own world := by
  rcases message with ⟨header, request⟩
  cases request with
  | sessionSetupReq req => exact responds_sessionSetup
  | serviceDiscoveryReq req => exact responds_serviceDiscovery rfl
  | serviceDetailReq req => exact responds_serviceDetail
  | paymentServiceSelectionReq req => exact responds_paymentServiceSelection rfl
  | certificateInstallationReq req => exact responds_certificateInstallation rfl
  | certificateUpdateReq => exact absurd rfl updatable
  | paymentDetailsReq req => exact responds_paymentDetails rfl
  | authorizationReq req => exact responds_authorization rfl
  | chargeParameterDiscoveryReq req => exact responds_chargeParameterDiscovery rfl
  | powerDeliveryReq req => exact responds_powerDelivery rfl
  | meteringReceiptReq req => exact responds_meteringReceipt rfl
  | sessionStopReq req => exact responds_sessionStop
  | chargingStatusReq => exact responds_chargingStatus
  | cableCheckReq req => exact responds_cableCheck rfl
  | preChargeReq req => exact responds_preCharge rfl
  | currentDemandReq req => exact responds_currentDemand rfl
  | weldingDetectionReq => exact responds_weldingDetection

/-- The message is a request. One that is accepted can be answered. To refuse another
takes a failed response and a valid session id. -/
def Answerable (environment : Environment) (answers : Answers) (world : World) :
    V2GMessage → Prop
  | .request message =>
      if stateTable.accepts world.currentState.own message.request.requestType = true ∧
          Known message world.session then
        RequestAnswerable environment answers message
          (stateTable.answering world.currentState message.request.requestType).own world
      else
        HasFailedResponse message ∧ ValidSessionId world.session.sessionId
  | .response _ => False
  | .empty _ => False

/-- No state expects a `CertificateUpdateReq`. -/
theorem not_accepts_certificateUpdateReq (own : Own) :
    stateTable.accepts own .certificateUpdateReq = false := by
  cases own with
  | sessionSetup => rfl
  | serviceDiscovery expecting => cases expecting <;> rfl
  | serviceDetail expecting => cases expecting <;> rfl
  | paymentServiceSelection expecting => cases expecting <;> rfl
  | certificateInstallation => rfl
  | paymentDetails => rfl
  | authorization verified complete => rfl
  | chargeParameterDiscovery expecting => cases expecting <;> rfl
  | powerDelivery expecting => cases expecting <;> rfl
  | meteringReceipt expecting => cases expecting <;> rfl
  | sessionStop => rfl
  | chargingStatus expecting => cases expecting <;> rfl
  | cableCheck started closed => rfl
  | preCharge expecting => cases expecting <;> rfl
  | currentDemand expecting => cases expecting <;> rfl
  | weldingDetection expecting => cases expecting <;> rfl

/-- A message is responded to exactly if it is answerable. -/
theorem responds_iff {environment : Environment} {answers : Answers} {message : V2GMessage}
    {world : World} :
    Responds (processMessage environment answers message) world ↔
      Answerable environment answers world message := by
  have raises (not_request : ∀ req, message ≠ .request req) :
      ¬Responds (processMessage environment answers message) world :=
    not_returns_of_eq_error
      (processMessage_not_request environment answers message world not_request)
  cases message with
  | request message =>
      apply (returns_congr (processMessage_request environment answers message world)).trans
      apply (StateTable.responds_route fun _ => responds_stopStateMachine message _).trans
      unfold Answerable
      dsimp only
      by_cases accepted : stateTable.accepts world.currentState.own
          message.request.requestType = true ∧ Known message world.session
      · have updatable : message.request ≠ .certificateUpdateReq := by
          intro update
          rw [update] at accepted
          exact absurd accepted.1 (by simp [Request.requestType, not_accepts_certificateUpdateReq])
        rw [if_pos accepted, if_pos accepted, responds_answer updatable]
        rfl
      · rw [if_neg accepted, if_neg accepted]
  | response message => simp [raises, Answerable]
  | empty header => simp [raises, Answerable]

end Iso15118.Secc.V2
