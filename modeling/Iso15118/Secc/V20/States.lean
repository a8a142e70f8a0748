import Iso15118.Secc.Controller.Interface
import Iso15118.Secc.V20.Session

/-!
# The states of the ISO 15118-20 SECC

`process_message` of every state of `secc/states/iso15118_20_states.py`. It
checks the message and hands it to another state or to the method below that
answers it. The state that takes a message over becomes the current state first.
The states come in the order of that delegation.
-/

namespace Iso15118.Secc.V20

open Effect
open Iso15118.Shared
open Iso15118.Shared.V20

variable {σ : Type}

/-- `self.comm_session.selected_energy_service.service`. -/
def selectedService : Program σ ServiceV20 := do
  let world ← get
  match world.session.selectedEnergyService with
  | some selected => return selected.service
  | none => throw .attributeError

@[simp]
theorem wp_selectedService {onOk : ServiceV20 → World σ → Prop}
    {onError : PyError → World σ → Prop} {world : World σ} :
    wp selectedService onOk onError world ↔
      (∀ selected, world.session.selectedEnergyService = some selected →
        onOk selected.service world) ∧
        (world.session.selectedEnergyService = none → onError .attributeError world) := by
  unfold selectedService
  cases present : world.session.selectedEnergyService with
  | none => simp [present]
  | some selected => simp [present]

/-! ## Common states -/

/-- Whether the session goes on with another choice of services. -/
def SessionStop.renegotiates (answers : Answers) (req : SessionStopReq) : Program σ Bool :=
  if req.chargingSession = .serviceRenegotiation then
    ask .serviceRenegotiationSupported answers.serviceRenegotiationSupported
  else
    pure false

def SessionStop.onSessionStopReq (answers : Answers) (req : SessionStopReq) :
    Program σ PUnit := do
  let renegotiation ← SessionStop.renegotiates answers req
  let nextState := if renegotiation then .state .serviceDiscovery else .terminate
  let sessionStopState :=
    if !renegotiation ∧ req.chargingSession = .terminate then SessionStopAction.terminate
    else SessionStopAction.pause
  updateSession fun session =>
    { session with stopReason := some { successful := true, stopAction := sessionStopState } }
  createNextMessage (some nextState) .ok .sessionStopRes

/-- `SessionStop.process_message`. -/
def SessionStop.processMessage (answers : Answers) (message : V2GMessage) :
    Program σ PUnit := do
  match ← checkMsg message [.sessionStopReq] false with
  | some ⟨_, .sessionStopReq req⟩ => SessionStop.onSessionStopReq answers req
  | _ => pure ⟨⟩

/-- `CertificateInstallation.process_message`. -/
def CertificateInstallation.processMessage : Program σ PUnit :=
  throw .notImplementedError

def SessionSetup.onSessionSetupReq (answers : Answers) (header : MessageHeader)
    (req : SessionSetupReq) : Program σ PUnit := do
  let world ← get
  -- a paused session goes on only under the id that this object still has
  let joined := header.sessionId ≠ "00" ∧ header.sessionId = world.session.sessionId
  let sessionId := if joined then world.session.sessionId else answers.randomSessionId
  let responseCode :=
    if joined then ResponseCode.okOldSessionJoined else .okNewSessionEstablished
  let evseId ← ask .getEvseId answers.getEvseId
  updateSession fun session => { session with evccId := some req.evccId, sessionId := sessionId }
  createNextMessage (some (.state .authorizationSetup)) responseCode (.sessionSetupRes evseId)

/-- `SessionSetup.process_message`. -/
def SessionSetup.processMessage (answers : Answers) (message : V2GMessage) :
    Program σ PUnit := do
  match ← checkMsg message [.sessionSetupReq] with
  | some ⟨header, .sessionSetupReq req⟩ => SessionSetup.onSessionSetupReq answers header req
  | _ => pure ⟨⟩

/-- The loop of `check_selected_services` over the parameters of the selected
set. `ControlMode(param.int_value)` raises for any other number. -/
def setControlMode (parameters : List Parameter) : Program σ PUnit :=
  parameters.forM fun param =>
    if param.name = "ControlMode" then
      match param.intValue with
      | some 1 => updateSession fun session => { session with controlMode := some .scheduled }
      | some 2 => updateSession fun session => { session with controlMode := some .dynamic }
      | _ => throw .valueError
    else
      pure ⟨⟩

/-- One offered service in the loop of `check_selected_services` that stores what
was selected. -/
def storeSelection (req : ServiceSelectionReq) (offeredService : MatchedService) :
    Program σ PUnit :=
  if req.selectedEnergyService.serviceId = offeredService.service.id then
    match offeredService.parameterSets.find? fun parameterSet =>
        req.selectedEnergyService.parameterSetId = parameterSet.id with
    | some parameterSet =>
        match ServiceV20.getById req.selectedEnergyService.serviceId with
        | some service => do
            updateSession fun session =>
              { session with
                selectedEnergyService := some ⟨service, offeredService.isFree, parameterSet⟩ }
            setControlMode parameterSet.parameters
        | none => throw .valueError
    | none => pure ⟨⟩
  else
    (req.selectedVasList.getD []).forM fun vas =>
      -- the comparison is of the energy service once more, which has just failed
      if req.selectedEnergyService.serviceId = offeredService.service.id then
        match offeredService.parameterSets.find? fun parameterSet =>
            req.selectedEnergyService.parameterSetId = parameterSet.id with
        | some parameterSet =>
            match ServiceV20.getById vas.serviceId with
            | some service => updateSession fun session =>
                { session with
                  selectedVasListV20 := session.selectedVasListV20 ++
                    [⟨service, offeredService.isFree, some parameterSet⟩] }
            | none => throw .valueError
        | none => pure ⟨⟩
      else
        pure ⟨⟩

/-- The pairs that were offered. -/
def offeredIdPairs (session : Session) : List (Int × Int) :=
  session.matchedServicesV20.flatMap MatchedService.serviceParameterSetIds

/-- The checks of `check_selected_services`, with the response code of the one
that fails. -/
def selectionError (session : Session) (req : ServiceSelectionReq) : Option ResponseCode :=
  let pair := fun selected : SelectedService => (selected.serviceId, selected.parameterSetId)
  if pair req.selectedEnergyService ∉ offeredIdPairs session then
    some .failedNoEnergyTransferServiceSelected
  else if ∀ vas ∈ req.selectedVasList.getD [], pair vas ∈ offeredIdPairs session then
    none
  else
    some .failedServiceSelectionInvalid

section

variable [DiagnosticService σ]

/-- `check_selected_services`. -/
def checkSelectedServices (req : ServiceSelectionReq) : Program σ (Option ResponseCode) := do
  let world ← get
  match selectionError world.session req with
  | some responseCode => return some responseCode
  | none => do
      world.session.matchedServicesV20.forM (storeSelection req)
      (req.selectedVasList.getD []).forM fun vas =>
        modify fun world =>
          { world with
            serviceRegistry := world.serviceRegistry.onServiceSelected vas.serviceId
              (.id vas.parameterSetId) }
      return none

def ServiceSelection.onServiceSelectionReq (message : V2GMessage) (req : ServiceSelectionReq) :
    Program σ PUnit := do
  match ← checkSelectedServices req with
  | some responseCode => stopStateMachine message responseCode
  | none =>
      let energyServiceId := req.selectedEnergyService.serviceId
      if energyServiceId = ServiceV20.ac.id ∨ energyServiceId = ServiceV20.acBpt.id then
        createNextMessage (some (.state .acChargeParameterDiscovery)) .ok .serviceSelectionRes
      else if energyServiceId = ServiceV20.dc.id ∨ energyServiceId = ServiceV20.dcBpt.id then
        createNextMessage (some (.state .dcChargeParameterDiscovery)) .ok .serviceSelectionRes
      else
        stopStateMachine message .failedServiceSelectionInvalid

/-- `ServiceSelection.process_message`. -/
def ServiceSelection.processMessage (answers : Answers) (message : V2GMessage) :
    Program σ PUnit := do
  match ← checkMsg message [.serviceSelectionReq, .sessionStopReq] false with
  | some ⟨_, .sessionStopReq _⟩ => do
      enter .sessionStop
      SessionStop.processMessage answers message
  | some ⟨_, .serviceSelectionReq req⟩ => ServiceSelection.onServiceSelectionReq message req
  | _ => pure ⟨⟩

/-- The loop of `ServiceDetail` over the offered services: the parameter sets of
the first one with the id. -/
def storeParameterSets (serviceId : Int) (parameterSets : List ParameterSet) :
    List MatchedService → List MatchedService
  | [] => []
  | offeredService :: others =>
      if offeredService.service.id = serviceId then
        { offeredService with parameterSets := parameterSets } :: others
      else
        offeredService :: storeParameterSets serviceId parameterSets others

def ServiceDetail.onServiceDetailReq (answers : Answers) (req : ServiceDetailReq) :
    Program σ PUnit := do
  let serviceParameterList ←
    ask (.getServiceParameterList req.serviceId) (answers.getServiceParameterList req.serviceId)
  let world ← get
  let isFound := world.session.matchedServicesV20.any fun offeredService =>
    offeredService.service.id = req.serviceId
  match serviceParameterList with
  | none => throw (if isFound then .attributeError else .validationError)
  | some serviceParameterList => do
      updateSession fun session =>
        { session with
          matchedServicesV20 := storeParameterSets req.serviceId
            serviceParameterList.parameterSets session.matchedServicesV20 }
      createNextMessage none (if isFound then .ok else .failedServiceIdInvalid)
        (.serviceDetailRes ⟨req.serviceId, serviceParameterList⟩)
      setOwn (.serviceDetail false)

/-- `ServiceDetail.process_message`. -/
def ServiceDetail.processMessage (answers : Answers) (message : V2GMessage)
    (expectingServiceDetailReq : Bool) : Program σ PUnit := do
  match ← checkMsg message [.serviceDetailReq, .serviceSelectionReq, .sessionStopReq]
      expectingServiceDetailReq with
  | some ⟨_, .serviceSelectionReq _⟩ => do
      enter .serviceSelection
      ServiceSelection.processMessage answers message
  | some ⟨_, .sessionStopReq _⟩ => do
      enter .sessionStop
      SessionStop.processMessage answers message
  | some ⟨_, .serviceDetailReq req⟩ => ServiceDetail.onServiceDetailReq answers req
  | _ => pure ⟨⟩

/-- Append an offered service to the matched ones. -/
def appendMatched (offered : Service) (isEnergyService : Bool)
    (parameterSets : List ParameterSet) : Program σ PUnit :=
  match ServiceV20.getById offered.serviceId with
  | some service => updateSession fun session =>
      { session with
        matchedServicesV20 := session.matchedServicesV20 ++
          [⟨service, isEnergyService, offered.freeService, parameterSets⟩] }
  | none => throw .valueError

/-- The value-added services are matched with the parameter sets that the registry
has for them. -/
def ServiceDiscovery.appendVas (offeredVas : Option ServiceList) : Program σ PUnit := do
  let world ← get
  match offeredVas with
  | some offeredVas =>
      offeredVas.services.forM fun vas =>
        appendMatched vas false
          (((world.serviceRegistry.getParameterList vas.serviceId).map
            ServiceParameterList.parameterSets).getD [])
  | none => pure ⟨⟩

/-- The answer to a `ServiceDiscoveryReq`. The supported services that it names
are not looked at. -/
def ServiceDiscovery.onServiceDiscoveryReq (answers : Answers) : Program σ PUnit := do
  let offeredEnergyServices ← ask .getEnergyServiceList answers.getEnergyServiceList
  offeredEnergyServices.services.forM fun energyService =>
    appendMatched energyService true []
  let offeredVas ← ask .getVasList answers.getVasList
  ServiceDiscovery.appendVas offeredVas
  let serviceRenegotiationSupported ←
    ask .serviceRenegotiationSupported answers.serviceRenegotiationSupported
  createNextMessage none .ok (.serviceDiscoveryRes
    ⟨serviceRenegotiationSupported, offeredEnergyServices, offeredVas⟩)
  setOwn (.serviceDiscovery false)

/-- `ServiceDiscovery.process_message`. -/
def ServiceDiscovery.processMessage (answers : Answers) (message : V2GMessage)
    (expectingServiceDiscoveryReq : Bool) : Program σ PUnit := do
  match ← checkMsg message [.serviceDiscoveryReq, .serviceDetailReq, .sessionStopReq]
      expectingServiceDiscoveryReq with
  | some ⟨_, .serviceDetailReq _⟩ => do
      enter .serviceDetail
      ServiceDetail.processMessage answers message true
  | some ⟨_, .sessionStopReq _⟩ => do
      enter .sessionStop
      SessionStop.processMessage answers message
  | some ⟨_, .serviceDiscoveryReq _⟩ => ServiceDiscovery.onServiceDiscoveryReq answers
  | _ => pure ⟨⟩

/-- The code that `Authorization` answers for a certificate status: one of those
that table 224 lists, or else `FAILED`. -/
def certificateResponseCode (status : ResponseCode) : ResponseCode :=
  if status ∈ [ResponseCode.ok, .okCertExpiresSoon, .warnCertExpired, .warnCertNotYetValid,
      .warnCertRevoked, .warnCertValidationError, .warnEmspUnknown, .warnGeneralPncAuthError,
      .warnChallengeInvalid, .warnAuthSelectionInvalid, .warnEimAuthFailed, .failed,
      .failedSequenceError, .failedUnknownSession] then
    status
  else
    .failed

/-- The processing status of an `AuthorizationRes`. -/
def authorizationProcessing (status : AuthorizationStatus)
    (selectedAuthOption : AuthEnum) : Processing :=
  match status with
  | .accepted => .finished
  | .ongoing => if selectedAuthOption = .eim then .waitingForCustomer else .ongoing
  | .rejected => .finished

/-- The end of `Authorization.process_message`, once the parameters of the
request have been looked at. -/
def Authorization.respond (answers : Answers) (req : AuthorizationReq)
    (responseCode : ResponseCode) : Program σ PUnit := do
  let currentAuthorizationStatus ← ask .isAuthorized answers.isAuthorized
  let responseCode :=
    (currentAuthorizationStatus.certificateResponseStatus.map certificateResponseCode).getD
      responseCode
  let evseProcessing := authorizationProcessing currentAuthorizationStatus.authorizationStatus
    req.selectedAuthService
  createNextMessage none responseCode (.authorizationRes evseProcessing)
  setOwn (.authorization (evseProcessing ≠ .finished))

def Authorization.onAuthorizationReq (environment : Environment) (answers : Answers)
    (message : V2GMessage) (header : MessageHeader) (req : AuthorizationReq) :
    Program σ PUnit := do
  updateSession fun session =>
    { session with selectedAuthOption := some req.selectedAuthService }
  match req.pncParams with
  | some pncParams => do
      let verified ← Effect.ofExcept (environment.verifySignature header.signature pncParams)
      if verified then do
        let world ← get
        if some pncParams.genChallenge ≠ world.session.genChallenge then
          Authorization.respond answers req .warnChallengeInvalid
        else
          Authorization.respond answers req .ok
      else
        stopStateMachine message .failedSignatureError
  | none => Authorization.respond answers req .ok

/-- `Authorization.process_message`. -/
def Authorization.processMessage (environment : Environment) (answers : Answers)
    (message : V2GMessage) (expectingAuthorizationReq : Bool) : Program σ PUnit := do
  match ← checkMsg message
      [.authorizationReq, .certificateInstallationReq, .serviceDiscoveryReq, .sessionStopReq]
      expectingAuthorizationReq with
  | some ⟨_, .certificateInstallationReq⟩ => do
      enter .certificateInstallation
      CertificateInstallation.processMessage
  | some ⟨_, .serviceDiscoveryReq _⟩ => do
      enter .serviceDiscovery
      ServiceDiscovery.processMessage answers message true
  | some ⟨_, .sessionStopReq _⟩ => do
      enter .sessionStop
      SessionStop.processMessage answers message
  | some ⟨header, .authorizationReq req⟩ =>
      Authorization.onAuthorizationReq environment answers message header req
  | _ => pure ⟨⟩

/-- The options that the configuration allows, or only the external one if that has
been authorized already. -/
def AuthorizationSetup.supportedAuthOptions (environment : Environment)
    (eimAuthorized : Bool) : List AuthEnum :=
  if eimAuthorized then [.eim] else environment.config.supportedAuthOptions

/-- The options in the order in which they are offered. -/
def AuthorizationSetup.authOptions (supportedAuthOptions : List AuthEnum) : List AuthEnum :=
  [AuthEnum.pnc, AuthEnum.eim].filter (· ∈ supportedAuthOptions)

/-- A new challenge, if Plug and Charge is among the options. -/
def AuthorizationSetup.pncAsRes (answers : Answers) (supportedAuthOptions : List AuthEnum) :
    Program σ (Option PnCAuthSetupResParams) :=
  if AuthEnum.pnc ∈ supportedAuthOptions then do
    updateSession fun session =>
      { session with genChallenge := some answers.randomChallenge }
    let supportedProviders ← ask .getSupportedProviders answers.getSupportedProviders
    return some ⟨answers.randomChallenge, supportedProviders⟩
  else
    pure none

def AuthorizationSetup.onAuthorizationSetupReq (environment : Environment)
    (answers : Answers) : Program σ PUnit := do
  let eimAuthorized ← ask .isEimAuthorized answers.isEimAuthorized
  let supportedAuthOptions := AuthorizationSetup.supportedAuthOptions environment eimAuthorized
  let pncAsRes ← AuthorizationSetup.pncAsRes answers supportedAuthOptions
  let authOptions := AuthorizationSetup.authOptions supportedAuthOptions
  updateSession fun session => { session with offeredAuthOptions := authOptions }
  -- the response needs one of the two authorization modes
  if authOptions = [] then
    throw .validationError
  else do
    createNextMessage none .ok (.authorizationSetupRes
      ⟨authOptions, environment.config.allowCertInstallService, pncAsRes⟩)
    setOwn (.authorizationSetup false)

/-- `AuthorizationSetup.process_message`. -/
def AuthorizationSetup.processMessage (environment : Environment) (answers : Answers)
    (message : V2GMessage) (expectingAuthSetupReq : Bool) : Program σ PUnit := do
  match ← checkMsg message
      [.authorizationSetupReq, .authorizationReq, .certificateInstallationReq, .sessionStopReq]
      expectingAuthSetupReq with
  | some ⟨_, .certificateInstallationReq⟩ => do
      enter .certificateInstallation
      CertificateInstallation.processMessage
  | some ⟨_, .authorizationReq _⟩ => do
      enter .authorization
      Authorization.processMessage environment answers message true
  | some ⟨_, .sessionStopReq _⟩ => do
      enter .sessionStop
      SessionStop.processMessage answers message
  | some ⟨_, .authorizationSetupReq⟩ =>
      AuthorizationSetup.onAuthorizationSetupReq environment answers
  | _ => pure ⟨⟩

end

/-! ## Power delivery -/

def DCWeldingDetection.onDcWeldingDetectionReq (answers : Answers) : Program σ PUnit := do
  setOwn (.dcWeldingDetection false)
  let evsePresentVoltage ← ask .getEvsePresentVoltage answers.getEvsePresentVoltage
  createNextMessage none .ok (.dcWeldingDetectionRes evsePresentVoltage)

/-- `DCWeldingDetection.process_message`. -/
def DCWeldingDetection.processMessage (answers : Answers) (message : V2GMessage)
    (expectingWeldingDetectionReq : Bool) : Program σ PUnit := do
  match ← checkMsg message [.dcWeldingDetectionReq, .sessionStopReq]
      expectingWeldingDetectionReq with
  | some ⟨_, .sessionStopReq _⟩ => do
      enter .sessionStop
      SessionStop.processMessage answers message
  | some ⟨_, .dcWeldingDetectionReq _⟩ => DCWeldingDetection.onDcWeldingDetectionReq answers
  | _ => pure ⟨⟩

namespace PowerDelivery

/-- `check_power_profile`. -/
def checkPowerProfile (_powerProfile : Option EVPowerProfile) : ResponseCode :=
  .ok

/-- The branch of `ChargeProgress.STOP`. -/
def stopCharging (answers : Answers) (message : V2GMessage) (responseCode : ResponseCode) :
    Program σ PUnit := do
  ask (.setHlcCharging false) (answers.setHlcCharging false)
  ask .stopCharger answers.stopCharger
  let contactorOpened ← ask .isContactorOpened answers.isContactorOpened
  if contactorOpened then
    createNextMessage none responseCode .powerDeliveryRes
  else
    stopStateMachine message .failedContactorError

/-- Whether the schedule that a profile selects was offered. The profile of the
other control mode has no selection to read. -/
def scheduleOffered (powerProfile : Option EVPowerProfile) (offered : List ScheduleTuple) :
    Except PyError Bool :=
  match powerProfile with
  | some ⟨_, .scheduled selectedScheduleTupleId⟩ =>
      .ok (decide (selectedScheduleTupleId ∈ offered.map ScheduleTuple.scheduleTupleId))
  | _ => .error .attributeError

/-- The check that `PowerDelivery` makes in the scheduled control mode. -/
def scheduleValid (req : PowerDeliveryReq) : Program σ Bool := do
  let world ← get
  if world.session.controlMode = some .scheduled then
    Effect.ofExcept (scheduleOffered req.evPowerProfile world.session.offeredSchedulesV20)
  else
    pure true

/-- The charge loop of a service. -/
def chargeLoop (service : ServiceV20) : Option (NextState StateName) :=
  if service = .ac ∨ service = .acBpt then some (.state .acChargeLoop)
  else if service = .dc ∨ service = .dcBpt then some (.state .dcChargeLoop)
  else none

/-- The remaining values of `ChargeProgress`: close the contactor and enter the
charge loop. -/
def startCharging (answers : Answers) (message : V2GMessage) (req : PowerDeliveryReq)
    (responseCode : ResponseCode) : Program σ PUnit := do
  let valid ← scheduleValid req
  if valid then do
    ask (.setHlcCharging true) (answers.setHlcCharging true)
    -- a missing state C or D is only logged
    let _ ← ask .getCpState answers.waitForStateCOrD
    let contactorClosed ← ask .isContactorClosed answers.isContactorClosed
    if contactorClosed = some true then do
      let service ← selectedService
      createNextMessage (chargeLoop service) responseCode .powerDeliveryRes
    else do
      ask (.setHlcCharging false) (answers.setHlcCharging false)
      stopStateMachine message .failedContactorError
  else
    stopStateMachine message .failedScheduleSelectionInvalid

def onPowerDeliveryReq (environment : Environment) (answers : Answers) (message : V2GMessage)
    (req : PowerDeliveryReq) : Program σ PUnit :=
  if req.evProcessing = .ongoing then
    createNextMessage none .ok .powerDeliveryRes
  else
    let responseCode := checkPowerProfile req.evPowerProfile
    if responseCode ∈
        [ResponseCode.failedEvPowerProfileInvalid, .failedEvPowerProfileViolation] then
      stopStateMachine message responseCode
    else if req.chargeProgress = .standby ∧ environment.config.standbyAllowed = false then
      stopStateMachine message .warnStandbyNotAllowed
    else if req.chargeProgress = .stop then
      stopCharging answers message responseCode
    else
      startCharging answers message req responseCode

/-- `PowerDelivery.process_message`. -/
def processMessage (environment : Environment) (answers : Answers) (message : V2GMessage) :
    Program σ PUnit := do
  match ← checkMsg message [.powerDeliveryReq, .dcWeldingDetectionReq, .sessionStopReq] false with
  | some ⟨_, .sessionStopReq _⟩ => do
      enter .sessionStop
      SessionStop.processMessage answers message
  | some ⟨_, .dcWeldingDetectionReq _⟩ => do
      enter .dcWeldingDetection
      DCWeldingDetection.processMessage answers message true
  | some ⟨_, .powerDeliveryReq req⟩ => onPowerDeliveryReq environment answers message req
  | _ => pure ⟨⟩

end PowerDelivery

/-! ## DC states -/

/-- The first request starts the cable check. -/
def DCCableCheck.startOnce (answers : Answers) (contactorsClosed cableCheckStarted : Bool) :
    Program σ PUnit :=
  if cableCheckStarted then
    pure ⟨⟩
  else do
    ask .startCableCheck answers.startCableCheck
    setOwn (.dcCableCheck contactorsClosed true)

def DCCableCheck.onDcCableCheckReq (answers : Answers) (message : V2GMessage)
    (contactorsClosed cableCheckStarted : Bool) : Program σ PUnit := do
  DCCableCheck.startOnce answers contactorsClosed cableCheckStarted
  if contactorsClosed then do
    let isolationLevel ← ask .getCableCheckStatus answers.getCableCheckStatus
    if isolationLevel = some .valid ∨ isolationLevel = some .warning then
      createNextMessage (some (.state .dcPreCharge)) .ok (.dcCableCheckRes .finished)
    else if isolationLevel = some .invalid ∨ isolationLevel = some .fault then
      stopStateMachine message .failed
    else
      createNextMessage none .ok (.dcCableCheckRes .ongoing)
  else do
    let contactorsClosedForCableCheck ← ask .isContactorClosed answers.isContactorClosed
    match contactorsClosedForCableCheck with
    | some true => do
        setOwn (.dcCableCheck true true)
        createNextMessage none .ok (.dcCableCheckRes .ongoing)
    | some false => stopStateMachine message .failed
    | none => createNextMessage none .ok (.dcCableCheckRes .ongoing)

/-- `DCCableCheck.process_message`. -/
def DCCableCheck.processMessage (answers : Answers) (message : V2GMessage)
    (contactorsClosed cableCheckStarted : Bool) : Program σ PUnit := do
  match ← checkMsg message [.dcCableCheckReq, .sessionStopReq] false with
  | some ⟨_, .sessionStopReq _⟩ => do
      enter .sessionStop
      SessionStop.processMessage answers message
  | some ⟨_, .dcCableCheckReq⟩ =>
      DCCableCheck.onDcCableCheckReq answers message contactorsClosed cableCheckStarted
  | _ => pure ⟨⟩

/-- The end of `DCPreCharge.process_message`. -/
def DCPreCharge.respond (answers : Answers) (nextState : Option (NextState StateName)) :
    Program σ PUnit := do
  let evsePresentVoltage ← ask .getEvsePresentVoltage answers.getEvsePresentVoltage
  createNextMessage nextState .ok (.dcPreChargeRes evsePresentVoltage)

def DCPreCharge.onDcPreChargeReq (answers : Answers) (message : V2GMessage)
    (req : DCPreChargeReq) : Program σ PUnit := do
  setOwn (.dcPreCharge false)
  onEvData (modify fun context => context.updatePreChargeParametersV20 req)
  if req.evProcessing = .finished then
    DCPreCharge.respond answers (some (.state .powerDelivery))
  else do
    let world ← get
    let timedOut ← tryCatch
      (do
        ask (.sendChargingCommand (some world.evDataContext.targetVoltage) (some 0) true false)
          answers.sendChargingCommand
        pure false)
      (fun exception => if exception = .timeoutError then pure true else throw exception)
    if timedOut then
      stopStateMachine message .failed
    else
      DCPreCharge.respond answers none

/-- `DCPreCharge.process_message`. -/
def DCPreCharge.processMessage (environment : Environment) (answers : Answers)
    (message : V2GMessage) (expectingPrechargeReq : Bool) : Program σ PUnit := do
  match ← checkMsg message [.dcPreChargeReq, .powerDeliveryReq] expectingPrechargeReq with
  | some ⟨_, .powerDeliveryReq _⟩ => do
      enter .powerDelivery
      PowerDelivery.processMessage environment answers message
  | some ⟨_, .dcPreChargeReq req⟩ => DCPreCharge.onDcPreChargeReq answers message req
  | _ => pure ⟨⟩

namespace ScheduleExchange

/-- Whether the type of the parameters is not the one of the control mode. -/
def unexpectedParams (controlMode : Option ControlMode)
    (params : Option ScheduleExchangeResParams) : Bool :=
  match controlMode, params with
  | some .scheduled, some (.scheduled _) => false
  | some .dynamic, some (.dynamic _) => false
  | none, _ => false
  | some _, _ => true

/-- `ScheduleExchangeRes(...)`. Without a control mode no parameters are set. -/
def scheduleExchangeRes (controlMode : Option ControlMode) (evseProcessing : Processing)
    (params : Option ScheduleExchangeResParams) : Except PyError ScheduleExchangeRes :=
  let params := if controlMode.isSome then params else none
  if params_set : evseProcessing ≠ .ongoing → params.isSome = true then
    .ok ⟨evseProcessing, params, none, params_set⟩
  else
    .error .validationError

/-- Keep the schedules that are offered, once they are final. -/
def offerSchedules (params : Option ScheduleExchangeResParams) : Program σ PUnit :=
  match params with
  | some (.scheduled params) => updateSession fun session =>
      { session with offeredSchedulesV20 := params.scheduleTuples }
  | _ => pure ⟨⟩

/-- A finished schedule exchange is stored. The selected service is read after it. -/
def finish (controlMode : Option ControlMode) (res : ScheduleExchangeRes) :
    Program σ ServiceV20 := do
  let world ← get
  let evseDataContext ← Effect.ofExcept
    (world.evseDataContext.updateScheduleExchangeParameters controlMode res)
  modify fun world => { world with evseDataContext := evseDataContext }
  selectedService

/-- Only an AC session knows what comes next: a DC session may go on in more than one
way. -/
def nextState (service : ServiceV20) : Option (NextState StateName) :=
  if service = .ac ∨ service = .acBpt then some (.state .powerDelivery) else none

/-- `process_message`, from the parameters that the controller returned. -/
def respond (answers : Answers) (controlMode : Option ControlMode)
    (params : Option ScheduleExchangeResParams) : Program σ PUnit := do
  let readyToCharge ← ask .readyToCharge answers.readyToCharge
  if readyToCharge then do
    offerSchedules params
    let res ← Effect.ofExcept (scheduleExchangeRes controlMode .finished params)
    let service ← finish controlMode res
    createNextMessage (nextState service) .ok (.scheduleExchangeRes res)
  else do
    let res ← Effect.ofExcept (scheduleExchangeRes controlMode .ongoing params)
    createNextMessage none .ok (.scheduleExchangeRes res)

def onScheduleExchangeReq (answers : Answers) (message : V2GMessage)
    (req : ScheduleExchangeReq) : Program σ PUnit := do
  let world ← get
  let controlMode := world.session.controlMode
  onEvData (EVDataContext.updateScheduleExchangeParameters controlMode req)
  let params ← ask .getScheduleExchangeParams answers.getScheduleExchangeParams
  if unexpectedParams controlMode params then
    stopStateMachine message .failed
  else
    respond answers controlMode params

/-- `ScheduleExchange.process_message`. -/
def processMessage (environment : Environment) (answers : Answers)
    (message : V2GMessage) : Program σ PUnit := do
  match ← checkMsg message
      [.scheduleExchangeReq, .dcCableCheckReq, .powerDeliveryReq, .sessionStopReq] false with
  | some ⟨_, .dcCableCheckReq⟩ => do
      enter .dcCableCheck
      DCCableCheck.processMessage answers message false false
  | some ⟨_, .powerDeliveryReq _⟩ => do
      enter .powerDelivery
      PowerDelivery.processMessage environment answers message
  | some ⟨_, .sessionStopReq _⟩ => do
      enter .sessionStop
      SessionStop.processMessage answers message
  | some ⟨_, .scheduleExchangeReq req⟩ => onScheduleExchangeReq answers message req
  | _ => pure ⟨⟩

end ScheduleExchange

/-- `DCChargeParameterDiscoveryRes(...)`: the parameters of the controller go
into the field of the selected service. A BPT block is also one of the base
class. -/
def dcChargeParameterDiscoveryRes (energyService : ServiceV20)
    (params : Option DCChargeParameterDiscoveryRes) :
    Except PyError DCChargeParameterDiscoveryRes :=
  match energyService, params with
  | .dc, some params => .ok (.dc params.common)
  | .dcBpt, some (.bptDc params) => .ok (.bptDc params)
  | _, _ => .error .validationError

def DCChargeParameterDiscovery.onDcChargeParameterDiscoveryReq (answers : Answers)
    (message : V2GMessage) (req : DCChargeParameterDiscoveryReq) : Program σ PUnit := do
  let energyService ← selectedService
  let res ← tryCatch
    (do
      let params ← ask .getDcChargeParamsV20 answers.getDcChargeParamsV20
      let res ← Effect.ofExcept (dcChargeParameterDiscoveryRes energyService params)
      onEvseData (EVSEDataContext.updateDcChargeParametersV20 energyService res)
      onEvData (EVDataContext.updateDcChargeParametersV20 energyService req)
      ask .sendRatedLimits answers.sendRatedLimits
      pure (some res))
    (fun exception =>
      if exception = .unknownEnergyService then pure none else throw exception)
  match res with
  | some res =>
      createNextMessage (some (.state .scheduleExchange)) .ok
        (.dcChargeParameterDiscoveryRes res)
  | none => stopStateMachine message .failedWrongChargeParameter

/-- `DCChargeParameterDiscovery.process_message`. -/
def DCChargeParameterDiscovery.processMessage (answers : Answers) (message : V2GMessage) :
    Program σ PUnit := do
  match ← checkMsg message [.dcChargeParameterDiscoveryReq, .sessionStopReq] false with
  | some ⟨_, .sessionStopReq _⟩ => do
      enter .sessionStop
      SessionStop.processMessage answers message
  | some ⟨_, .dcChargeParameterDiscoveryReq req⟩ =>
      DCChargeParameterDiscovery.onDcChargeParameterDiscoveryReq answers message req
  | _ => pure ⟨⟩

/-- `DCChargeLoopRes(...)`: exactly one parameter block, in the field of the
service and the control mode. -/
def dcChargeLoopResParams (controlMode : Option ControlMode)
    (params : Option DCChargeLoopResParams) : Except PyError DCChargeLoopResParams :=
  match controlMode, params with
  | some _, some params => .ok params
  | _, _ => .error .validationError

/-- The meter is read when the request asks for it. -/
def readMeter (answers : Answers) (meterInfoRequested : Bool) : Program σ PUnit :=
  if meterInfoRequested then
    ask .getMeterInfoV20 answers.getMeterInfoV20
  else
    pure ⟨⟩

/-- `_build_dc_charge_loop_res`, for a DC service: the charge loop parameters of
any other service have already raised. -/
def DCChargeLoop.buildDcChargeLoopRes (answers : Answers) (meterInfoRequested : Bool) :
    Program σ Response := do
  let world ← get
  let service ← selectedService
  let params ← ask .getDcChargeLoopParamsV20
    (getDcChargeLoopParamsV20 world.evseDataContext world.session.controlMode service)
  let evseStatus ← ask .getEvseStatus answers.getEvseStatus
  readMeter answers meterInfoRequested
  let _ ← ask .getEvsePresentCurrent answers.getEvsePresentCurrent
  let _ ← ask .getEvsePresentVoltage answers.getEvsePresentVoltage
  let _ ← ask .isEvsePowerLimitAchieved answers.isEvsePowerLimitAchieved
  let _ ← ask .isEvseCurrentLimitAchieved answers.isEvseCurrentLimitAchieved
  let _ ← ask .isEvseVoltageLimitAchieved answers.isEvseVoltageLimitAchieved
  let params ← Effect.ofExcept (dcChargeLoopResParams world.session.controlMode params)
  return .dcChargeLoopRes evseStatus params

def DCChargeLoop.onDcChargeLoopReq [DiagnosticService σ] (answers : Answers)
    (message : V2GMessage) (req : DCChargeLoopReq) : Program σ PUnit := do
  setOwn (.dcChargeLoop false)
  let service ← selectedService
  let world ← get
  let controlMode := world.session.controlMode
  onEvData (EVDataContext.updateDcChargeLoopParametersV20 req service controlMode)
  let world ← get
  let (serviceRegistry, evseDataContext) ← Effect.ofExcept
    (world.serviceRegistry.onCycle world.evDataContext world.evseDataContext)
  modify fun world =>
    { world with serviceRegistry := serviceRegistry, evseDataContext := evseDataContext }
  let scheduled := controlMode = some .scheduled
  let evTargetVoltage := if scheduled then some world.evDataContext.targetVoltage else none
  let evTargetCurrent := if scheduled then some world.evDataContext.targetCurrent else none
  let isSessionBpt := decide (service = .dcBpt)
  let sent ← tryCatch
    (do
      -- the flag is passed in the place of is_precharge
      ask (.sendChargingCommand evTargetVoltage evTargetCurrent isSessionBpt false)
        answers.sendChargingCommand
      pure true)
    (fun _ => pure false)
  if sent then do
    ask .sendDisplayParams answers.sendDisplayParams
    let res ← DCChargeLoop.buildDcChargeLoopRes answers req.meterInfoRequested
    createNextMessage none .ok res
  else
    stopStateMachine message .failed

/-- `DCChargeLoop.process_message`. -/
def DCChargeLoop.processMessage [DiagnosticService σ] (environment : Environment)
    (answers : Answers) (message : V2GMessage) (expectingChargeLoopReq : Bool) :
    Program σ PUnit := do
  match ← checkMsg message [.dcChargeLoopReq, .powerDeliveryReq] expectingChargeLoopReq with
  | some ⟨_, .powerDeliveryReq _⟩ => do
      enter .powerDelivery
      PowerDelivery.processMessage environment answers message
  | some ⟨_, .dcChargeLoopReq req⟩ => DCChargeLoop.onDcChargeLoopReq answers message req
  | _ => pure ⟨⟩

/-! ## AC states -/

/-- `ACChargeParameterDiscoveryRes(...)`. -/
def acChargeParameterDiscoveryRes (energyService : ServiceV20) (params : Option ACResParams) :
    Except PyError Response :=
  match energyService, params with
  | .ac, some _ => .ok .acChargeParameterDiscoveryRes
  | .acBpt, some .bptCharge => .ok .acChargeParameterDiscoveryRes
  | _, _ => .error .validationError

def ACChargeParameterDiscovery.onAcChargeParameterDiscoveryReq (answers : Answers)
    (message : V2GMessage) (req : ACChargeParameterDiscoveryReq) : Program σ PUnit := do
  let energyService ← selectedService
  let res ← tryCatch
    (do
      let params ← ask .getAcChargeParamsV20 answers.getAcChargeParamsV20
      let res ← Effect.ofExcept (acChargeParameterDiscoveryRes energyService params)
      onEvseData (modify fun context => { context with currentType := some .ac })
      onEvData (EVDataContext.updateAcChargeParametersV20 energyService req)
      ask .sendRatedLimits answers.sendRatedLimits
      pure (some res))
    (fun exception =>
      if exception = .unknownEnergyService then pure none else throw exception)
  match res with
  | some res => createNextMessage (some (.state .scheduleExchange)) .ok res
  | none => stopStateMachine message .failedWrongChargeParameter

/-- `ACChargeParameterDiscovery.process_message`. -/
def ACChargeParameterDiscovery.processMessage (answers : Answers) (message : V2GMessage) :
    Program σ PUnit := do
  match ← checkMsg message [.acChargeParameterDiscoveryReq, .sessionStopReq] false with
  | some ⟨_, .sessionStopReq _⟩ => do
      enter .sessionStop
      SessionStop.processMessage answers message
  | some ⟨_, .acChargeParameterDiscoveryReq req⟩ =>
      ACChargeParameterDiscovery.onAcChargeParameterDiscoveryReq answers message req
  | _ => pure ⟨⟩

/-- `ACChargeLoopRes(...)`: the parameters go into the field of the service and
the control mode. A BPT block is also one of the base class. -/
def acChargeLoopRes (service : ServiceV20) (controlMode : Option ControlMode)
    (params : Option ACLoopResParams) (evseStatus : Option EVSEStatus) :
    Except PyError Response :=
  match service, controlMode, params with
  | .ac, some .scheduled, some .scheduled | .ac, some .scheduled, some .bptScheduled
  | .ac, some .dynamic, some .dynamic | .ac, some .dynamic, some .bptDynamic
  | .acBpt, some .scheduled, some .bptScheduled
  | .acBpt, some .dynamic, some .bptDynamic => .ok (.acChargeLoopRes evseStatus)
  | _, _, _ => .error .validationError

def ACChargeLoop.onAcChargeLoopReq (answers : Answers) (req : ACChargeLoopReq) :
    Program σ PUnit := do
  let service ← selectedService
  let world ← get
  let controlMode := world.session.controlMode
  onEvData (EVDataContext.updateAcChargeLoopV20 req service controlMode)
  readMeter answers req.meterInfoRequested
  let evseStatus ← ask .getEvseStatus answers.getEvseStatus
  -- for any other service the update above has raised
  let params ← ask .getAcChargeLoopParamsV20 answers.getAcChargeLoopParamsV20
  let res ← Effect.ofExcept (acChargeLoopRes service controlMode params evseStatus)
  ask .sendDisplayParams answers.sendDisplayParams
  createNextMessage none .ok res

/-- `ACChargeLoop.process_message`. -/
def ACChargeLoop.processMessage (environment : Environment) (answers : Answers)
    (message : V2GMessage) : Program σ PUnit := do
  match ← checkMsg message [.acChargeLoopReq, .powerDeliveryReq, .sessionStopReq] false with
  | some ⟨_, .powerDeliveryReq _⟩ => do
      enter .powerDelivery
      PowerDelivery.processMessage environment answers message
  | some ⟨_, .sessionStopReq _⟩ => do
      enter .sessionStop
      SessionStop.processMessage answers message
  | some ⟨_, .acChargeLoopReq req⟩ => ACChargeLoop.onAcChargeLoopReq answers req
  | _ => pure ⟨⟩

/-! ## The current state -/

/-- `self.current_state.process_message(...)`. -/
def processMessage [DiagnosticService σ] (environment : Environment) (answers : Answers)
    (message : V2GMessage) : Program σ PUnit := do
  let world ← get
  match world.currentState.own with
  | .sessionSetup => SessionSetup.processMessage answers message
  | .authorizationSetup expecting =>
      AuthorizationSetup.processMessage environment answers message expecting
  | .authorization expecting =>
      Authorization.processMessage environment answers message expecting
  | .certificateInstallation => CertificateInstallation.processMessage
  | .serviceDiscovery expecting => ServiceDiscovery.processMessage answers message expecting
  | .serviceDetail expecting => ServiceDetail.processMessage answers message expecting
  | .serviceSelection => ServiceSelection.processMessage answers message
  | .scheduleExchange => ScheduleExchange.processMessage environment answers message
  | .powerDelivery => PowerDelivery.processMessage environment answers message
  | .sessionStop => SessionStop.processMessage answers message
  | .acChargeParameterDiscovery => ACChargeParameterDiscovery.processMessage answers message
  | .acChargeLoop => ACChargeLoop.processMessage environment answers message
  | .dcChargeParameterDiscovery => DCChargeParameterDiscovery.processMessage answers message
  | .dcCableCheck contactorsClosed cableCheckStarted =>
      DCCableCheck.processMessage answers message contactorsClosed cableCheckStarted
  | .dcPreCharge expecting =>
      DCPreCharge.processMessage environment answers message expecting
  | .dcChargeLoop expecting =>
      DCChargeLoop.processMessage environment answers message expecting
  | .dcWeldingDetection expecting =>
      DCWeldingDetection.processMessage answers message expecting

end Iso15118.Secc.V20
