import Iso15118.Secc.V2.ChargingProfile
import Iso15118.Secc.V2.Session

/-!
# The states of the ISO 15118-2 SECC

`process_message` of every state of `secc/states/iso15118_2_states.py`. It checks
the message and hands it to another state or to the method below that answers it.
The state that takes a message over becomes the current state first. The states
come in the order of that delegation.
-/

namespace Iso15118.Secc.V2

open Effect
open Iso15118.Shared
open Iso15118.Shared.V2

/-! ## Setting up the session -/

/-- Whether a `SessionSetupReq` resumes the session of the context. -/
def SessionSetup.joins (context : Option EVSessionContext) (sessionId : String) :
    Except PyError Bool :=
  if sessionId = "00" then
    .ok false
  else
    match context with
    | none => .error .attributeError
    | some context => .ok (sessionId ≠ "" ∧ context.sessionId = some sessionId)

/-- The bounds that the models put on an EVSE id. -/
def checkEvseId (evseId : String) : Except PyError PUnit :=
  if 7 ≤ evseId.length ∧ evseId.length ≤ 37 then .ok ⟨⟩ else .error .validationError

def SessionSetup.onSessionSetupReq (answers : Answers) (header : MessageHeader)
    (req : SessionSetupReq) : Program PUnit := do
  let world ← get
  let joined ← Effect.ofExcept
    (SessionSetup.joins world.session.evSessionContext header.sessionId)
  let sessionId := if joined then header.sessionId else answers.randomSessionId
  let responseCode :=
    if joined then ResponseCode.okOldSessionJoined else .okNewSessionEstablished
  updateSession fun session =>
    { session with
      evSessionContext :=
        if joined then session.evSessionContext else some { sessionId := some sessionId } }
  let evseId ← ask .getEvseId answers.getEvseId
  Effect.ofExcept (checkEvseId evseId)
  updateSession fun session => { session with evccId := some req.evccId, sessionId := sessionId }
  onEvData (modify fun context => { context with evccId := some req.evccId })
  createNextMessage (some (.state .serviceDiscovery)) responseCode (.sessionSetupRes evseId)

/-- `SessionSetup.process_message`. -/
def SessionSetup.processMessage (answers : Answers) (message : V2GMessage) : Program PUnit := do
  match ← checkMsg message [.sessionSetupReq] with
  | some ⟨header, .sessionSetupReq req⟩ => SessionSetup.onSessionSetupReq answers header req
  | _ => pure ⟨⟩

/-! ## Authorization -/

/-- The code that `Authorization` answers for a certificate status: one of those
that table 112 lists for its response, or else `FAILED`. -/
def Authorization.listedCode (status : ResponseCode) : ResponseCode :=
  if status ∈ [ResponseCode.ok, .failed, .failedSequenceError, .failedSignatureError,
      .failedUnknownSession, .failedChallengeInvalid] then
    status
  else
    .failed

/-- The check of a Plug and Charge request. The signature is looked at once. The
result is the response code of the check that fails. -/
def Authorization.checkPnc (environment : Environment) (header : MessageHeader)
    (req : AuthorizationReq) (signatureVerifiedOnce authorizationComplete : Bool) :
    Program (Option ResponseCode) := do
  let world ← get
  if world.session.selectedAuthOption = some .pnc then
    match world.session.contractCertChain with
    | none => return some .failedSignatureError
    | some contractCertChain =>
        if signatureVerifiedOnce then
          return none
        else do
          setOwn (.authorization true authorizationComplete)
          if req.genChallenge ≠ world.session.genChallenge then
            return some .failedChallengeInvalid
          else do
            let verified ← Effect.ofExcept (environment.verifySignature header.signature
              (.authorizationReq req) contractCertChain.certificate)
            return if verified then none else some .failedSignatureError
  else
    return none

/-- The id token that goes with a Plug and Charge authorization. -/
def Authorization.idToken (session : Session) : Option String :=
  if session.selectedAuthOption = some .pnc then session.emaid else none

/-- `is_authorized`, unless the authorization has been completed before. -/
def Authorization.currentStatus (answers : Answers) (authorizationComplete : Bool) :
    Program AuthorizationResponse := do
  let world ← get
  if authorizationComplete then
    return { authorizationStatus := .ongoing }
  else
    ask (.isAuthorized (Authorization.idToken world.session)) answers.isAuthorized

/-- Set `authorization_complete`. -/
def Own.complete : Own → Own
  | .authorization signatureVerifiedOnce _ => .authorization signatureVerifiedOnce true
  | own => own

def Authorization.setComplete : Program PUnit :=
  modify fun world =>
    { world with
      currentState := { world.currentState with own := world.currentState.own.complete } }

/-- `ready_to_charge` is asked once the authorization is complete. -/
def Authorization.finished (answers : Answers) (complete : Bool) : Program Bool :=
  if complete then do
    Authorization.setComplete
    ask .readyToCharge answers.readyToCharge
  else
    pure false

/-- The processing status while the authorization goes on. -/
def Authorization.ongoing (selectedAuthOption : Option AuthEnum) : EVSEProcessing :=
  if selectedAuthOption = some .eim then .ongoingWaitingForCustomer else .ongoing

/-- The end of `Authorization.process_message`, once the request has been checked. -/
def Authorization.respond (answers : Answers) (message : V2GMessage)
    (authorizationComplete : Bool) : Program PUnit := do
  let status ← Authorization.currentStatus answers authorizationComplete
  let responseCode :=
    (status.certificateResponseStatus.map Authorization.listedCode).getD .ok
  let complete := authorizationComplete || status.authorizationStatus = .accepted
  let finished ← Authorization.finished answers complete
  let world ← get
  if finished then
    createNextMessage (some (.state .chargeParameterDiscovery)) responseCode
      (.authorizationRes .finished)
  else if status.authorizationStatus = .rejected then
    stopStateMachine message responseCode
  else
    createNextMessage none responseCode
      (.authorizationRes (Authorization.ongoing world.session.selectedAuthOption))

def Authorization.onAuthorizationReq (environment : Environment) (answers : Answers)
    (message : V2GMessage) (header : MessageHeader) (req : AuthorizationReq)
    (signatureVerifiedOnce authorizationComplete : Bool) : Program PUnit := do
  match ← Authorization.checkPnc environment header req signatureVerifiedOnce
      authorizationComplete with
  | some responseCode => stopStateMachine message responseCode
  | none => Authorization.respond answers message authorizationComplete

/-- `Authorization.process_message`. -/
def Authorization.processMessage (environment : Environment) (answers : Answers)
    (message : V2GMessage) (signatureVerifiedOnce authorizationComplete : Bool) :
    Program PUnit := do
  match ← checkMsg message [.authorizationReq] with
  | some ⟨header, .authorizationReq req⟩ =>
      Authorization.onAuthorizationReq environment answers message header req
        signatureVerifiedOnce authorizationComplete
  | _ => pure ⟨⟩

/-! ## Payment -/

/-- The code that `PaymentDetails` answers for a certificate status. -/
def PaymentDetails.listedCode (status : ResponseCode) : ResponseCode :=
  if status ∈ [ResponseCode.ok, .failed, .failedSequenceError, .failedSignatureError,
      .failedUnknownSession, .failedCertificateExpired, .failedCertificateRevoked,
      .failedNoCertificateAvailable] then
    status
  else
    .failed

/-- The code for the exceptions that `PaymentDetails` handles. -/
def PaymentDetails.certErrorCode : PyError → Option ResponseCode
  | .certSignatureError => some .failedCertChainError
  | .certChainLengthError => some .failedCertChainError
  | .certExpiredError => some .failedCertificateExpired
  | .certNotYetValidError => some .failedCertificateExpired
  | .certRevokedError => some .failedCertificateRevoked
  | .certAttributeError => some .failed
  | _ => none

/-- The root certificate of the station, if there is one. -/
def PaymentDetails.loadRoot (environment : Environment) :
    Except PyError (Option Certificate) :=
  match environment.loadMoRoot with
  | .ok rootCert => .ok (some rootCert)
  | .error .fileNotFoundError => .ok none
  | .error exception => .error exception

/-- `verify_certs`. A chain that cannot be verified here goes to the backend
without the root. -/
def PaymentDetails.verifyChain (environment : Environment) (leafCert : Certificate)
    (subCaCerts : List Certificate) (rootCert : Option Certificate) :
    Except PyError (Option Certificate) :=
  match environment.verifyCerts leafCert subCaCerts rootCert with
  | .ok _ => .ok rootCert
  | .error .certSignatureError => .ok none
  | .error exception => .error exception

/-- The end of the `try` block, from the answer of `is_authorized`. -/
def PaymentDetails.respond (answers : Answers) (message : V2GMessage)
    (status : AuthorizationResponse) : Program PUnit := do
  let responseCode :=
    (status.certificateResponseStatus.map PaymentDetails.listedCode).getD .ok
  if status.authorizationStatus = .accepted ∨ status.authorizationStatus = .ongoing then do
    updateSession fun session => { session with genChallenge := some answers.randomChallenge }
    createNextMessage (some (.state .authorization)) responseCode
      (.paymentDetailsRes answers.randomChallenge)
  else
    stopStateMachine message responseCode

/-- The `try` block of `PaymentDetails.process_message`. -/
def PaymentDetails.authorize (environment : Environment) (answers : Answers)
    (message : V2GMessage) (req : PaymentDetailsReq) : Program PUnit := do
  match req.certChain.subCertificates with
  | none => throw .attributeError
  | some subCaCerts => do
      let leafCert := req.certChain.certificate
      Effect.ofExcept (environment.logCertsDetails [leafCert])
      Effect.ofExcept (environment.logCertsDetails subCaCerts)
      let rootCert ← Effect.ofExcept (PaymentDetails.loadRoot environment)
      let rootCert ← Effect.ofExcept
        (PaymentDetails.verifyChain environment leafCert subCaCerts rootCert)
      updateSession fun session =>
        { session with emaid := some req.emaid, contractCertChain := some req.certChain }
      Effect.ofExcept (environment.getCertificateHashData req.certChain rootCert)
      Effect.ofExcept (environment.buildPemCertificateChain req.certChain rootCert)
      let status ← ask (.isAuthorized (some req.emaid)) answers.isAuthorized
      PaymentDetails.respond answers message status

def PaymentDetails.onPaymentDetailsReq (environment : Environment) (answers : Answers)
    (message : V2GMessage) (req : PaymentDetailsReq) : Program PUnit :=
  tryCatch (PaymentDetails.authorize environment answers message req) fun exception =>
    match PaymentDetails.certErrorCode exception with
    | some responseCode => stopStateMachine message responseCode
    | none => throw exception

/-- `PaymentDetails.process_message`. -/
def PaymentDetails.processMessage (environment : Environment) (answers : Answers)
    (message : V2GMessage) : Program PUnit := do
  match ← checkMsg message [.paymentDetailsReq] with
  | some ⟨_, .paymentDetailsReq req⟩ =>
      PaymentDetails.onPaymentDetailsReq environment answers message req
  | _ => pure ⟨⟩

/-- `create_next_message` with a message that a backend has encoded. The next state
is set before the message is decoded. -/
def prepareEncoded (nextState : Option (NextState StateName)) (message : Base64) :
    Program PUnit := do
  modify fun world =>
    { world with
      currentState :=
        { world.currentState with
          nextState := nextState
          nextMsgTimeout := v2gSeccSequenceTimeout } }
  let decoded ← Effect.ofExcept message.decoded
  prepare nextState decoded

/-- A `CertificateInstallationRes` of the backend, or that one is made here. -/
def CertificateInstallation.build (environment : Environment) (answers : Answers) :
    Program (Option Base64) :=
  if environment.config.useCpoBackend then do
    let res ← ask .get15118EvCertificate answers.get15118EvCertificate
    return some res
  else do
    Effect.ofExcept answers.generateCertificateInstallationRes
    return none

def CertificateInstallation.onCertificateInstallationReq (environment : Environment)
    (answers : Answers) (message : V2GMessage) (header : MessageHeader)
    (req : CertificateInstallationReq) : Program PUnit := do
  let verified ← Effect.ofExcept
    (environment.verifyInstallationSignature header.signature req)
  if verified then do
    let built ← tryCatch
      (do
        let res ← CertificateInstallation.build environment answers
        return some res)
      (fun _ => return none)
    match built with
    | some (some res) => prepareEncoded (some (.state .paymentDetails)) res
    | some none =>
        createNextMessage (some (.state .paymentDetails)) .ok .certificateInstallationRes
    | none => stopStateMachine message .failedNoCertificateAvailable
  else
    stopStateMachine message .failedSignatureError

/-- `CertificateInstallation.process_message`. -/
def CertificateInstallation.processMessage (environment : Environment) (answers : Answers)
    (message : V2GMessage) : Program PUnit := do
  match ← checkMsg message [.certificateInstallationReq] with
  | some ⟨header, .certificateInstallationReq req⟩ =>
      CertificateInstallation.onCertificateInstallationReq environment answers message header req
  | _ => pure ⟨⟩

/-- The checks of a selection, with the response code of the one that fails. -/
def selectionError (session : Session) (req : PaymentServiceSelectionReq) :
    Option ResponseCode :=
  if ∃ serviceId ∈ req.selectedServiceList, serviceId ≠ ServiceID.charging ∧
      serviceId ∉ session.offeredServices.map ServiceDetails.serviceId then
    some .failedServiceSelectionInvalid
  else if ServiceID.charging ∉ req.selectedServiceList then
    some .failedNoChargeServiceSelected
  else if req.selectedAuthOption ∉ session.offeredAuthOptions then
    some .failedPaymentSelectionInvalid
  else
    none

/-- `ev_session_context.auth_options = [...]`. -/
def PaymentServiceSelection.storeAuthOption (selectedAuthOption : AuthEnum) :
    Program PUnit := do
  let world ← get
  match world.session.evSessionContext with
  | some context =>
      updateSession fun session =>
        { session with
          evSessionContext := some { context with authOptions := [selectedAuthOption] } }
  | none => throw .attributeError

def PaymentServiceSelection.onPaymentServiceSelectionReq (message : V2GMessage)
    (req : PaymentServiceSelectionReq) : Program PUnit := do
  let world ← get
  match selectionError world.session req with
  | some responseCode => stopStateMachine message responseCode
  | none => do
      updateSession fun session =>
        { session with selectedAuthOption := some req.selectedAuthOption }
      PaymentServiceSelection.storeAuthOption req.selectedAuthOption
      createNextMessage none .ok .paymentServiceSelectionRes
      setOwn (.paymentServiceSelection false)

/-- `PaymentServiceSelection.process_message`. -/
def PaymentServiceSelection.processMessage (environment : Environment) (answers : Answers)
    (message : V2GMessage) (expectingServiceSelectionReq : Bool) : Program PUnit := do
  match ← checkMsg message
      [.paymentServiceSelectionReq, .certificateInstallationReq, .paymentDetailsReq,
        .authorizationReq] expectingServiceSelectionReq with
  | some ⟨_, .certificateInstallationReq _⟩ => do
      enter .certificateInstallation
      CertificateInstallation.processMessage environment answers message
  | some ⟨_, .paymentDetailsReq _⟩ => do
      enter .paymentDetails
      PaymentDetails.processMessage environment answers message
  | some ⟨_, .authorizationReq _⟩ => do
      enter .authorization
      Authorization.processMessage environment answers message false false
  | some ⟨_, .paymentServiceSelectionReq req⟩ =>
      PaymentServiceSelection.onPaymentServiceSelectionReq message req
  | _ => pure ⟨⟩

/-! ## Services -/

/-- The parameter sets of a service that is offered. -/
def parameterSets (serviceId : Int) : List ParameterSet :=
  if serviceId = ServiceID.certificate then
    [⟨1, [⟨"Service", "Installation"⟩]⟩]
  else
    []

def ServiceDetail.onServiceDetailReq (req : ServiceDetailReq) : Program PUnit := do
  let world ← get
  if req.serviceId ∈ world.session.offeredServices.map ServiceDetails.serviceId then do
    createNextMessage none .ok
      (.serviceDetailRes req.serviceId (some (parameterSets req.serviceId)))
    setOwn (.serviceDetail false)
  else
    createNextMessage none .failedServiceIdInvalid (.serviceDetailRes req.serviceId none)

/-- `ServiceDetail.process_message`. -/
def ServiceDetail.processMessage (environment : Environment) (answers : Answers)
    (message : V2GMessage) (expectingServiceDetailReq : Bool) : Program PUnit := do
  match ← checkMsg message [.serviceDetailReq, .paymentServiceSelectionReq]
      expectingServiceDetailReq with
  | some ⟨_, .paymentServiceSelectionReq _⟩ => do
      enter .paymentServiceSelection
      PaymentServiceSelection.processMessage environment answers message true
  | some ⟨_, .serviceDetailReq req⟩ => ServiceDetail.onServiceDetailReq req
  | _ => pure ⟨⟩

/-- The options that the configuration and the connection allow. -/
def allowedAuthOptions (config : Config) (isTls : Bool) : List AuthEnum :=
  (if AuthEnum.eim ∈ config.supportedAuthOptions then [AuthEnum.eim] else []) ++
    if AuthEnum.pnc ∈ config.supportedAuthOptions ∧ isTls = true then [AuthEnum.pnc] else []

/-- The authorization options of `get_services`: those of a resumed session, the one
that was selected, or what is allowed. -/
def getAuthOptions (environment : Environment) (answers : Answers)
    (context : EVSessionContext) : Program (List AuthEnum) := do
  let world ← get
  if context.authOptions ≠ [] then
    return context.authOptions
  else
    match world.session.selectedAuthOption with
    | some selected => return [selected]
    | none => do
        let eimAuthorized ← ask .isEimAuthorized answers.isEimAuthorized
        return if eimAuthorized then [.eim]
          else allowedAuthOptions environment.config world.session.isTls

/-- The charge service of a resumed session, or a new one. -/
def chargeServiceOf (config : Config) (context : EVSessionContext)
    (energyModes : List EnergyTransferMode) : Except PyError ChargeService :=
  match context.chargeService with
  | some chargeService => .ok chargeService
  | none =>
      if energyModes.length ≤ 6 then .ok ⟨config.freeChargingService, energyModes⟩
      else .error .validationError

/-- The value-added services, for which the connection has to be secured. -/
def vasList (config : Config) (isTls : Bool) (categoryFilter : Option ServiceCategory) :
    List ServiceDetails :=
  if isTls = true ∧ config.allowCertInstallService = true ∧
      (categoryFilter = none ∨ categoryFilter = some .certificate) then
    [⟨2, .certificate, config.freeCertInstallService⟩]
  else
    []

/-- `ServiceDiscoveryRes(...)`. -/
def serviceDiscoveryRes (authOptions : List AuthEnum) (chargeService : ChargeService)
    (serviceList : List ServiceDetails) : Except PyError ServiceDiscoveryRes :=
  if 1 ≤ authOptions.length ∧ authOptions.length ≤ 2 then
    .ok ⟨authOptions, chargeService, if serviceList = [] then none else some serviceList⟩
  else
    .error .validationError

/-- `get_services`, from a context that is present. -/
def getServices (environment : Environment) (answers : Answers)
    (categoryFilter : Option ServiceCategory) (context : EVSessionContext) :
    Program ServiceDiscoveryRes := do
  let authOptions ← getAuthOptions environment answers context
  updateSession fun session => { session with offeredAuthOptions := authOptions }
  let energyModes ← ask .getSupportedEnergyTransferModes answers.getSupportedEnergyTransferModes
  let chargeService ← Effect.ofExcept
    (chargeServiceOf environment.config context energyModes)
  updateSession fun session =>
    { session with
      evSessionContext := some { context with chargeService := some chargeService } }
  let world ← get
  let serviceList := vasList environment.config world.session.isTls categoryFilter
  let res ← Effect.ofExcept (serviceDiscoveryRes authOptions chargeService serviceList)
  updateSession fun session => { session with offeredServices := serviceList }
  return res

def ServiceDiscovery.onServiceDiscoveryReq (environment : Environment) (answers : Answers)
    (message : V2GMessage) (req : ServiceDiscoveryReq) (expectingServiceDiscoveryReq : Bool) :
    Program PUnit :=
  if expectingServiceDiscoveryReq then do
    let world ← get
    match world.session.evSessionContext with
    | none => throw .attributeError
    | some context => do
        let res ← getServices environment answers req.serviceCategory context
        createNextMessage none .ok (.serviceDiscoveryRes res)
        setOwn (.serviceDiscovery false)
  else
    stopStateMachine message .failedSequenceError

/-- `ServiceDiscovery.process_message`. -/
def ServiceDiscovery.processMessage (environment : Environment) (answers : Answers)
    (message : V2GMessage) (expectingServiceDiscoveryReq : Bool) : Program PUnit := do
  match ← checkMsg message
      [.serviceDiscoveryReq, .serviceDetailReq, .paymentServiceSelectionReq]
      expectingServiceDiscoveryReq with
  | some ⟨_, .serviceDetailReq _⟩ => do
      enter .serviceDetail
      ServiceDetail.processMessage environment answers message true
  | some ⟨_, .paymentServiceSelectionReq _⟩ => do
      enter .paymentServiceSelection
      PaymentServiceSelection.processMessage environment answers message true
  | some ⟨_, .serviceDiscoveryReq req⟩ =>
      ServiceDiscovery.onServiceDiscoveryReq environment answers message req
        expectingServiceDiscoveryReq
  | _ => pure ⟨⟩

/-! ## Stopping -/

def SessionStop.onSessionStopReq (req : SessionStopReq) : Program PUnit :=
  if req.chargingSession = .pause then do
    updateSession fun session =>
      { session with stopReason := some { successful := true, stopAction := .pause } }
    createNextMessage (some .pause) .ok .sessionStopRes
  else do
    updateSession fun session =>
      { session with
        evSessionContext := none
        stopReason := some { successful := true, stopAction := .terminate } }
    createNextMessage (some .terminate) .ok .sessionStopRes

/-- `SessionStop.process_message`. -/
def SessionStop.processMessage (message : V2GMessage) : Program PUnit := do
  match ← checkMsg message [.sessionStopReq] with
  | some ⟨_, .sessionStopReq req⟩ => SessionStop.onSessionStopReq req
  | _ => pure ⟨⟩

/-- A present voltage or current goes into a response of this protocol. -/
def presentValue (value : Option PhysicalValue) : Except PyError PhysicalValue :=
  match value with
  | some value => .ok value
  | none => .error .validationError

def WeldingDetection.onWeldingDetectionReq (answers : Answers) : Program PUnit := do
  let dcEvseStatus ← ask .getDcEvseStatus answers.getDcEvseStatus
  let evsePresentVoltage ← ask .getEvsePresentVoltage answers.getEvsePresentVoltage
  let evsePresentVoltage ← Effect.ofExcept (presentValue evsePresentVoltage)
  createNextMessage none .ok (.weldingDetectionRes dcEvseStatus evsePresentVoltage)
  setOwn (.weldingDetection false)

/-- `WeldingDetection.process_message`. -/
def WeldingDetection.processMessage (answers : Answers) (message : V2GMessage)
    (expectingWeldingDetectionReq : Bool) : Program PUnit := do
  match ← checkMsg message [.weldingDetectionReq, .sessionStopReq]
      expectingWeldingDetectionReq with
  | some ⟨_, .sessionStopReq _⟩ => do
      enter .sessionStop
      SessionStop.processMessage message
  | some ⟨_, .weldingDetectionReq⟩ => WeldingDetection.onWeldingDetectionReq answers
  | _ => pure ⟨⟩

/-! ## Power delivery -/

namespace PowerDelivery

/-- The present state of charge that a DC request reports. -/
def updatePresentSoc (req : PowerDeliveryReq) (context : EVDataContext) : EVDataContext :=
  match req.dcEvPowerDeliveryParameter with
  | some parameter => { context with presentSoc := some parameter.dcEvStatus.evRessSoc }
  | none => context

/-- Whether the profile of a request, if it has one, respects the schedule. -/
def profileValid (req : PowerDeliveryReq) (offeredSchedules : List SAScheduleTuple) :
    Except PyError Bool :=
  match req.chargingProfile with
  | some _ => isChargingProfileValid req offeredSchedules
  | none => .ok true

/-- The end of `process_message`: the status of the EVSE and the response. -/
def respond (answers : Answers) (nextState : Option (NextState StateName)) :
    Program PUnit := do
  let world ← get
  if world.session.selectedChargingTypeIsAc then do
    let acEvseStatus ← ask .getAcEvseStatus answers.getAcEvseStatus
    createNextMessage nextState .ok (.powerDeliveryRes (some acEvseStatus) none)
    setOwn (.powerDelivery false)
  else do
    let dcEvseStatus ← ask .getDcEvseStatus answers.getDcEvseStatus
    createNextMessage nextState .ok (.powerDeliveryRes none (some dcEvseStatus))
    setOwn (.powerDelivery false)

/-- The state that the energy transfer goes on in. -/
def chargeLoop (session : Session) : StateName :=
  if session.selectedChargingTypeIsAc then .chargingStatus else .currentDemand

/-- The branch of `ChargeProgress.START`. -/
def startCharging (answers : Answers) (message : V2GMessage) (req : PowerDeliveryReq) :
    Program PUnit := do
  ask (.setHlcCharging true) (answers.setHlcCharging true)
  -- a missing state C or D is only logged
  let _ ← ask .getCpState answers.waitForStateCOrD
  let contactorClosed ← ask .isContactorClosed answers.isContactorClosed
  if contactorClosed = some true then do
    let world ← get
    updateSession fun session =>
      { session with
        selectedSchedule := some req.saScheduleTupleId
        chargeProgressStarted := true }
    respond answers (some (.state (chargeLoop world.session)))
  else
    stopStateMachine message .failedContactorError

/-- The state after the energy transfer has stopped. -/
def afterStop (session : Session) : Option (NextState StateName) :=
  if session.selectedChargingTypeIsAc then some (.state .sessionStop) else none

/-- The branch of `ChargeProgress.STOP`. -/
def stopCharging (answers : Answers) (message : V2GMessage) : Program PUnit := do
  let world ← get
  ask (.setHlcCharging false) (answers.setHlcCharging false)
  ask .stopCharger answers.stopCharger
  let contactorOpened ← ask .isContactorOpened answers.isContactorOpened
  if contactorOpened then
    respond answers (afterStop world.session)
  else
    stopStateMachine message .failedContactorError

/-- The remaining branch, of `ChargeProgress.RENEGOTIATE`. -/
def renegotiate (answers : Answers) (message : V2GMessage) : Program PUnit := do
  let world ← get
  if world.session.chargeProgressStarted then
    respond answers (some (.state .chargeParameterDiscovery))
  else
    stopStateMachine message .failed

def onChargeProgress (answers : Answers) (message : V2GMessage) (req : PowerDeliveryReq) :
    Program PUnit :=
  match req.chargeProgress with
  | .start => startCharging answers message req
  | .stop => stopCharging answers message
  | .renegotiate => renegotiate answers message

def onPowerDeliveryReq (answers : Answers) (message : V2GMessage) (req : PowerDeliveryReq) :
    Program PUnit := do
  let world ← get
  if req.saScheduleTupleId ∈
      world.session.offeredSchedules.map SAScheduleTuple.saScheduleTupleId then do
    onEvData (modify (updatePresentSoc req))
    let valid ← Effect.ofExcept (profileValid req world.session.offeredSchedules)
    if valid then
      onChargeProgress answers message req
    else
      stopStateMachine message .failedChargingProfileInvalid
  else
    stopStateMachine message .failedTariffSelectionInvalid

/-- `PowerDelivery.process_message`. -/
def processMessage (answers : Answers) (message : V2GMessage)
    (expectingPowerDeliveryReq : Bool) : Program PUnit := do
  match ← checkMsg message [.powerDeliveryReq, .sessionStopReq, .weldingDetectionReq]
      expectingPowerDeliveryReq with
  | some ⟨_, .sessionStopReq _⟩ => do
      enter .sessionStop
      SessionStop.processMessage message
  | some ⟨_, .weldingDetectionReq⟩ => do
      enter .weldingDetection
      WeldingDetection.processMessage answers message true
  | some ⟨_, .powerDeliveryReq req⟩ => onPowerDeliveryReq answers message req
  | _ => pure ⟨⟩

end PowerDelivery

/-! ## The charge loops -/

/-- `sa_schedule_tuple_id` of a response, which has to be set. -/
def selectedTupleId (session : Session) : Except PyError Nat :=
  match session.selectedSchedule with
  | some saScheduleTupleId => .ok saScheduleTupleId
  | none => .error .validationError

def CurrentDemand.sendTargets (answers : Answers) : Program Bool := do
  let world ← get
  tryCatch
    (do
      ask (.sendChargingCommand world.evDataContext.targetVoltage
        world.evDataContext.targetCurrent false) answers.sendChargingCommand
      pure true)
    (fun exception => if exception = .timeoutError then pure false else throw exception)

/-- `CurrentDemandRes(...)`, from the answers of the controller in their order. -/
def CurrentDemand.buildRes (answers : Answers) : Program CurrentDemandRes := do
  let dcEvseStatus ← ask .getDcEvseStatus answers.getDcEvseStatus
  let presentVoltage ← ask .getEvsePresentVoltage answers.getEvsePresentVoltage
  let presentCurrent ← ask .getEvsePresentCurrent answers.getEvsePresentCurrent
  let currentLimitAchieved ← ask .isEvseCurrentLimitAchieved answers.isEvseCurrentLimitAchieved
  let voltageLimitAchieved ← ask .isEvseVoltageLimitAchieved answers.isEvseVoltageLimitAchieved
  let powerLimitAchieved ← ask .isEvsePowerLimitAchieved answers.isEvsePowerLimitAchieved
  let maxVoltageLimit ← ask .getEvseMaxVoltageLimit answers.getEvseMaxVoltageLimit
  let maxCurrentLimit ← ask .getEvseMaxCurrentLimit answers.getEvseMaxCurrentLimit
  let maxPowerLimit ← ask .getEvseMaxPowerLimit answers.getEvseMaxPowerLimit
  let evseId ← ask .getEvseId answers.getEvseId
  let world ← get
  let presentVoltage ← Effect.ofExcept (presentValue presentVoltage)
  let presentCurrent ← Effect.ofExcept (presentValue presentCurrent)
  Effect.ofExcept (checkEvseId evseId)
  let saScheduleTupleId ← Effect.ofExcept (selectedTupleId world.session)
  return ⟨dcEvseStatus, presentVoltage, presentCurrent, currentLimitAchieved,
    voltageLimitAchieved, powerLimitAchieved, maxVoltageLimit, maxCurrentLimit, maxPowerLimit,
    evseId, saScheduleTupleId⟩

def CurrentDemand.onCurrentDemandReq (answers : Answers) (message : V2GMessage)
    (req : CurrentDemandReq) : Program PUnit := do
  onEvData (modify fun context => context.updateChargeLoopParameters req)
  let sent ← CurrentDemand.sendTargets answers
  if sent then do
    ask .sendDisplayParams answers.sendDisplayParams
    let res ← CurrentDemand.buildRes answers
    -- no receipt is required, so the state stays
    createNextMessage none .ok (.currentDemandRes res)
    setOwn (.currentDemand false)
  else
    stopStateMachine message .failed

/-- `CurrentDemand.process_message`. -/
def CurrentDemand.processMessage (answers : Answers) (message : V2GMessage)
    (expectingCurrentDemandReq : Bool) : Program PUnit := do
  match ← checkMsg message [.currentDemandReq, .powerDeliveryReq] expectingCurrentDemandReq with
  | some ⟨_, .powerDeliveryReq _⟩ => do
      enter .powerDelivery
      PowerDelivery.processMessage answers message true
  | some ⟨_, .currentDemandReq req⟩ => CurrentDemand.onCurrentDemandReq answers message req
  | _ => pure ⟨⟩

def ChargingStatus.onChargingStatusReq (answers : Answers) : Program PUnit := do
  let evseId ← ask .getEvseId answers.getEvseId
  let world ← get
  let acEvseStatus ← ask .getAcEvseStatus answers.getAcEvseStatus
  let evseMaxCurrent ← ask .getEvseMaxCurrentLimit answers.getEvseMaxCurrentLimit
  Effect.ofExcept (checkEvseId evseId)
  let saScheduleTupleId ← Effect.ofExcept (selectedTupleId world.session)
  -- no receipt is required, so the state stays
  createNextMessage none .ok
    (.chargingStatusRes evseId saScheduleTupleId acEvseStatus evseMaxCurrent none (some false))
  setOwn (.chargingStatus false)

/-- The checks of a receipt, whether all of them pass. -/
def MeteringReceipt.accepted (environment : Environment) (session : Session)
    (header : MessageHeader) (req : MeteringReceiptReq) : Except PyError Bool :=
  match session.contractCertChain with
  | none => .ok false
  | some contractCertChain => do
      let verified ← environment.verifySignature header.signature (.meteringReceiptReq req)
        contractCertChain.certificate
      let sentReading := session.sentMeterInfo.bind fun info => truthy info.meterReading
      return verified && (truthy req.meterInfo.meterReading).isSome &&
        (sentReading.isNone || req.meterInfo.meterReading = sentReading)

def MeteringReceipt.onMeteringReceiptReq (environment : Environment) (answers : Answers)
    (message : V2GMessage) (header : MessageHeader) (req : MeteringReceiptReq) :
    Program PUnit := do
  let world ← get
  let accepted ← Effect.ofExcept
    (MeteringReceipt.accepted environment world.session header req)
  if accepted then
    if world.evDataContext.selectedEnergyMode.isSome ∧
        world.session.selectedChargingTypeIsAc = true then do
      let acEvseStatus ← ask .getAcEvseStatus answers.getAcEvseStatus
      createNextMessage none .ok (.meteringReceiptRes (some acEvseStatus) none)
      setOwn (.meteringReceipt false)
    else do
      let dcEvseStatus ← ask .getDcEvseStatus answers.getDcEvseStatus
      createNextMessage none .ok (.meteringReceiptRes none (some dcEvseStatus))
      setOwn (.meteringReceipt false)
  else
    stopStateMachine message .failedMeteringSignatureNotValid

mutual

/-- `ChargingStatus.process_message`. The depth bounds how often a message is handed
over, which happens at most once. -/
def ChargingStatus.processMessage (environment : Environment) (answers : Answers)
    (message : V2GMessage) (expectingChargingStatusReq : Bool) (depth : Nat) :
    Program PUnit := do
  match ← checkMsg message [.chargingStatusReq, .powerDeliveryReq, .meteringReceiptReq]
      expectingChargingStatusReq with
  | some ⟨_, .powerDeliveryReq _⟩ => do
      enter .powerDelivery
      PowerDelivery.processMessage answers message true
  | some ⟨_, .meteringReceiptReq _⟩ => do
      match depth with
      | 0 => pure ⟨⟩
      | depth + 1 => do
          enter .meteringReceipt
          MeteringReceipt.processMessage environment answers message true depth
  | some ⟨_, .chargingStatusReq⟩ => ChargingStatus.onChargingStatusReq answers
  | _ => pure ⟨⟩

/-- `MeteringReceipt.process_message`. -/
def MeteringReceipt.processMessage (environment : Environment) (answers : Answers)
    (message : V2GMessage) (expectingMeteringReceiptReq : Bool) (depth : Nat) :
    Program PUnit := do
  match ← checkMsg message
      [.meteringReceiptReq, .chargingStatusReq, .currentDemandReq, .powerDeliveryReq]
      expectingMeteringReceiptReq with
  | some ⟨_, .powerDeliveryReq _⟩ => do
      enter .powerDelivery
      PowerDelivery.processMessage answers message true
  | some ⟨_, .chargingStatusReq⟩ => do
      match depth with
      | 0 => pure ⟨⟩
      | depth + 1 => do
          enter .chargingStatus
          ChargingStatus.processMessage environment answers message true depth
  | some ⟨_, .currentDemandReq _⟩ => do
      enter .currentDemand
      CurrentDemand.processMessage answers message true
  | some ⟨header, .meteringReceiptReq req⟩ =>
      MeteringReceipt.onMeteringReceiptReq environment answers message header req
  | _ => pure ⟨⟩

end

/-! ## DC states before the charge loop -/

/-- The present and the target current of a pre-charge, of at most 2 A. -/
def PreCharge.currentsAllowed (presentCurrent : PhysicalValue) (context : EVDataContext) :
    Bool :=
  presentCurrent.getDecimalValue ≤ 2 ∧ context.targetCurrent ≤ 2

def PreCharge.sendTargets (answers : Answers) : Program Bool := do
  let world ← get
  tryCatch
    (do
      ask (.sendChargingCommand world.evDataContext.targetVoltage
        world.evDataContext.targetCurrent true) answers.sendChargingCommand
      pure true)
    (fun exception => if exception = .timeoutError then pure false else throw exception)

/-- The end of `PreCharge.process_message`. -/
def PreCharge.respond (answers : Answers) : Program PUnit := do
  let dcChargerState ← ask .getDcEvseStatus answers.getDcEvseStatus
  let presentVoltage ← ask .getEvsePresentVoltage answers.getEvsePresentVoltage
  let presentVoltage ← Effect.ofExcept (presentValue presentVoltage)
  createNextMessage none .ok (.preChargeRes dcChargerState presentVoltage)
  setOwn (.preCharge false)

/-- Drive the voltage to the target, if the present current may be read and neither
current is too high. -/
def PreCharge.preCharge (answers : Answers) (message : V2GMessage)
    (presentCurrent : Option PhysicalValue) : Program PUnit := do
  let world ← get
  match presentCurrent with
  | none => stopStateMachine message .failed
  | some presentCurrent =>
      if PreCharge.currentsAllowed presentCurrent world.evDataContext then do
        let sent ← PreCharge.sendTargets answers
        if sent then PreCharge.respond answers else stopStateMachine message .failed
      else
        stopStateMachine message .failed

def PreCharge.onPreChargeReq (answers : Answers) (message : V2GMessage) (req : PreChargeReq) :
    Program PUnit :=
  if req.dcEvStatus.evErrorCode = .noError then do
    onEvData (modify fun context => context.updatePreChargeParameters req)
    let presentCurrent ← ask .getEvsePresentCurrent answers.getEvsePresentCurrent
    PreCharge.preCharge answers message presentCurrent
  else
    stopStateMachine message .failed

/-- `PreCharge.process_message`. -/
def PreCharge.processMessage (answers : Answers) (message : V2GMessage)
    (expectingPrechargeReq : Bool) : Program PUnit := do
  match ← checkMsg message [.preChargeReq, .powerDeliveryReq] expectingPrechargeReq with
  | some ⟨_, .powerDeliveryReq _⟩ => do
      enter .powerDelivery
      PowerDelivery.processMessage answers message true
  | some ⟨_, .preChargeReq req⟩ => PreCharge.onPreChargeReq answers message req
  | _ => pure ⟨⟩

/-- The first request starts the cable check. -/
def CableCheck.startOnce (answers : Answers) (cableCheckStarted contactorsClosed : Bool) :
    Program PUnit :=
  if cableCheckStarted then
    pure ⟨⟩
  else do
    ask .startCableCheck answers.startCableCheck
    setOwn (.cableCheck true contactorsClosed)

/-- The end of `CableCheck.process_message`. -/
def CableCheck.respond (answers : Answers) (req : CableCheckReq)
    (nextState : Option (NextState StateName)) (evseProcessing : EVSEProcessing) :
    Program PUnit := do
  onEvData (modify fun context =>
    { context with presentSoc := some req.dcEvStatus.evRessSoc })
  let dcEvseStatus ← ask .getDcEvseStatus answers.getDcEvseStatus
  createNextMessage nextState .ok (.cableCheckRes dcEvseStatus evseProcessing)

/-- The status of the cable check, once the contactors are closed. -/
def CableCheck.onStatus (answers : Answers) (message : V2GMessage) (req : CableCheckReq)
    (isolationLevel : Option IsolationLevel) : Program PUnit :=
  if isolationLevel = some .valid ∨ isolationLevel = some .warning then
    CableCheck.respond answers req (some (.state .preCharge)) .finished
  else if isolationLevel = some .fault ∨ isolationLevel = some .noImd ∨
      isolationLevel = some .invalid then
    stopStateMachine message .failed
  else
    CableCheck.respond answers req none .ongoing

/-- The contactors are closed for the cable check. -/
def CableCheck.onContactors (answers : Answers) (message : V2GMessage) (req : CableCheckReq)
    (contactorsClosedForCableCheck : Option Bool) : Program PUnit :=
  match contactorsClosedForCableCheck with
  | some true => do
      setOwn (.cableCheck true true)
      CableCheck.respond answers req none .ongoing
  | some false => stopStateMachine message .failed
  | none => CableCheck.respond answers req none .ongoing

def CableCheck.onCableCheckReq (answers : Answers) (message : V2GMessage) (req : CableCheckReq)
    (cableCheckStarted contactorsClosed : Bool) : Program PUnit :=
  if req.dcEvStatus.evErrorCode = .noError then do
    CableCheck.startOnce answers cableCheckStarted contactorsClosed
    if contactorsClosed then do
      let isolationLevel ← ask .getCableCheckStatus answers.getCableCheckStatus
      CableCheck.onStatus answers message req isolationLevel
    else do
      let closed ← ask .isContactorClosed answers.isContactorClosed
      CableCheck.onContactors answers message req closed
  else
    stopStateMachine message .failed

/-- `CableCheck.process_message`. -/
def CableCheck.processMessage (answers : Answers) (message : V2GMessage)
    (cableCheckStarted contactorsClosed : Bool) : Program PUnit := do
  match ← checkMsg message [.cableCheckReq] with
  | some ⟨_, .cableCheckReq req⟩ =>
      CableCheck.onCableCheckReq answers message req cableCheckStarted contactorsClosed
  | _ => pure ⟨⟩

/-! ## Charge parameter discovery -/

namespace ChargeParameterDiscovery

/-- The seconds that a schedule covers. Its first and last entry and the duration of
the last one are read. -/
def scheduleDuration (schedule : SAScheduleTuple) : Except PyError Int :=
  match schedule.pMaxSchedule.scheduleEntries.head?,
      schedule.pMaxSchedule.scheduleEntries.getLast? with
  | some firstEntry, some lastEntry =>
      match lastEntry.timeInterval.duration with
      | some duration =>
          .ok (lastEntry.timeInterval.start - firstEntry.timeInterval.start + duration)
      | none => .error .typeError
  | _, _ => .error .indexError

/-- The loop of `validate_sa_schedule_list`. -/
def validateSchedules (departureTime : Int) : List SAScheduleTuple → Except PyError Bool
  | [] => .ok true
  | schedule :: schedules => do
      let duration ← scheduleDuration schedule
      if departureTime = 0 ∧ duration < 86400 then
        return false
      else if departureTime ≠ 0 ∧ departureTime < duration then
        return false
      else
        validateSchedules departureTime schedules

/-- `validate_sa_schedule_list`. A missing list cannot be iterated over. -/
def validateSaScheduleList (saSchedules : Option (List SAScheduleTuple))
    (departureTime : Int) : Except PyError Bool :=
  match saSchedules with
  | some saSchedules => validateSchedules departureTime saSchedules
  | none => .error .typeError

/-- A valid list is compared with the schedule of a resumed session, which is only
logged. Reading it needs the context. -/
def lookUpResumedSchedule (session : Session) (valid : Bool) : Except PyError PUnit :=
  if valid = true ∧ session.evSessionContext = none then .error .attributeError else .ok ⟨⟩

/-- The charge parameters of the EVSE, and the update of the contexts. -/
def exchangeParameters (answers : Answers) (req : ChargeParameterDiscoveryReq) :
    Program (Option ACEVSEChargeParameter × Option DCEVSEChargeParameter) :=
  match req.evChargeParameter with
  | .ac parameter => do
      let acEvseChargeParams ← ask .getAcChargeParamsV2 answers.getAcChargeParamsV2
      onEvseData (modify fun context => { context with currentType := some .ac })
      onEvData (modify fun context => context.updateAcChargeParametersV2 parameter)
      return (some acEvseChargeParams, none)
  | .dc parameter => do
      let dcEvseChargeParams ← ask .getDcChargeParametersV2 answers.getDcChargeParametersV2
      onEvseData (modify fun context => { context with currentType := some .dc })
      onEvData (modify fun context => context.updateDcChargeParameters parameter)
      return (none, some dcEvseChargeParams)

/-- `SAScheduleList(...)` has at most three schedules. -/
def saScheduleList (schedules : List SAScheduleTuple) :
    Except PyError (List SAScheduleTuple) :=
  if schedules.length ≤ 3 then .ok schedules else .error .validationError

/-- The state after schedules have been offered. -/
def nextState (req : ChargeParameterDiscoveryReq) : StateName :=
  if req.evChargeParameter.isAc then .powerDelivery else .cableCheck

/-- The end of `process_message`, from a list that has been validated. -/
def respond (answers : Answers) (req : ChargeParameterDiscoveryReq)
    (parameters : Option ACEVSEChargeParameter × Option DCEVSEChargeParameter)
    (schedules : List SAScheduleTuple) : Program PUnit :=
  if schedules = [] then do
    setOwn (.chargeParameterDiscovery true)
    createNextMessage none .ok
      (.chargeParameterDiscoveryRes ⟨.ongoing, some [], parameters.1, parameters.2⟩)
  else do
    updateSession fun session => { session with offeredSchedules := schedules }
    Effect.ofExcept answers.signSalesTariff
    setOwn (.chargeParameterDiscovery false)
    let schedules ← Effect.ofExcept (saScheduleList schedules)
    createNextMessage (some (.state (nextState req))) .ok
      (.chargeParameterDiscoveryRes ⟨.finished, some schedules, parameters.1, parameters.2⟩)

/-- The schedules are asked for, validated and offered. -/
def offerSchedules (answers : Answers) (req : ChargeParameterDiscoveryReq)
    (parameters : Option ACEVSEChargeParameter × Option DCEVSEChargeParameter) :
    Program PUnit := do
  ask .sendRatedLimits answers.sendRatedLimits
  let world ← get
  let departureTime := world.evDataContext.departureTime.getD 0
  let schedules ← ask (.getSaScheduleList departureTime) answers.getSaScheduleList
  -- an invalid list is only logged
  let valid ← Effect.ofExcept (validateSaScheduleList schedules departureTime)
  Effect.ofExcept (lookUpResumedSchedule world.session valid)
  respond answers req parameters (schedules.getD [])

def onChargeParameterDiscoveryReq (answers : Answers) (message : V2GMessage)
    (req : ChargeParameterDiscoveryReq) : Program PUnit := do
  let energyModes ← ask .getSupportedEnergyTransferModes answers.getSupportedEnergyTransferModes
  if req.requestedEnergyMode ∈ energyModes then do
    onEvData (modify fun context =>
      { context with selectedEnergyMode := some req.requestedEnergyMode })
    updateSession fun session =>
      { session with selectedChargingTypeIsAc := req.requestedEnergyMode.isAc }
    let parameters ← exchangeParameters answers req
    offerSchedules answers req parameters
  else
    stopStateMachine message .failedWrongEnergyTransferMode

/-- `ChargeParameterDiscovery.process_message`. -/
def processMessage (answers : Answers) (message : V2GMessage)
    (expectingChargeParameterDiscoveryReq : Bool) : Program PUnit := do
  match ← checkMsg message [.chargeParameterDiscoveryReq, .powerDeliveryReq, .cableCheckReq]
      expectingChargeParameterDiscoveryReq with
  | some ⟨_, .powerDeliveryReq _⟩ => do
      enter .powerDelivery
      PowerDelivery.processMessage answers message true
  | some ⟨_, .cableCheckReq _⟩ => do
      enter .cableCheck
      CableCheck.processMessage answers message false false
  | some ⟨_, .chargeParameterDiscoveryReq req⟩ =>
      onChargeParameterDiscoveryReq answers message req
  | _ => pure ⟨⟩

end ChargeParameterDiscovery

/-! ## The current state -/

/-- `self.current_state.process_message(...)`. -/
def processMessage (environment : Environment) (answers : Answers) (message : V2GMessage) :
    Program PUnit := do
  let world ← get
  match world.currentState.own with
  | .sessionSetup => SessionSetup.processMessage answers message
  | .serviceDiscovery expecting =>
      ServiceDiscovery.processMessage environment answers message expecting
  | .serviceDetail expecting =>
      ServiceDetail.processMessage environment answers message expecting
  | .paymentServiceSelection expecting =>
      PaymentServiceSelection.processMessage environment answers message expecting
  | .certificateInstallation =>
      CertificateInstallation.processMessage environment answers message
  | .paymentDetails => PaymentDetails.processMessage environment answers message
  | .authorization signatureVerifiedOnce authorizationComplete =>
      Authorization.processMessage environment answers message signatureVerifiedOnce
        authorizationComplete
  | .chargeParameterDiscovery expecting =>
      ChargeParameterDiscovery.processMessage answers message expecting
  | .powerDelivery expecting => PowerDelivery.processMessage answers message expecting
  | .meteringReceipt expecting =>
      MeteringReceipt.processMessage environment answers message expecting 1
  | .sessionStop => SessionStop.processMessage message
  | .chargingStatus expecting =>
      ChargingStatus.processMessage environment answers message expecting 1
  | .cableCheck cableCheckStarted contactorsClosed =>
      CableCheck.processMessage answers message cableCheckStarted contactorsClosed
  | .preCharge expecting => PreCharge.processMessage answers message expecting
  | .currentDemand expecting => CurrentDemand.processMessage answers message expecting
  | .weldingDetection expecting => WeldingDetection.processMessage answers message expecting

end Iso15118.Secc.V2
