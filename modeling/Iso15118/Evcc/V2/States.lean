import Iso15118.Evcc.V2.Session

/-!
# The ISO 15118-2 states of the EVCC

`evcc/states/iso15118_2_states.py`. Each state has a function for the message that it expects,
behind the check, and `process_message`.
-/

namespace Iso15118.Evcc.V2

open Effect
open Iso15118.Shared
open Iso15118.Shared.V2

variable {ρ : Type} [EVController ρ]

/-! ## Setup and services -/

def SessionSetup.onSessionSetupRes (sessionId : String) : Program ρ PUnit := do
  updateSession fun session => { session with sessionId := sessionId }
  createNextMessage (some (.state .serviceDiscovery)) (.serviceDiscoveryReq ⟨none⟩)
    Timeouts.serviceDiscoveryReq

/-- `SessionSetup.process_message`. -/
def SessionSetup.processMessage (message : V2GMessage) : Program ρ PUnit := do
  match ← checkMsg message fun res =>
      match res.response with
      | .sessionSetupRes _ => some res.header.sessionId
      | _ => none with
  | some sessionId => SessionSetup.onSessionSetupRes sessionId
  | none => pure ⟨⟩

/-- `select_auth_mode`. The option of a paused session is used once. -/
def ServiceDiscovery.selectAuthMode (authOptions : List AuthEnum) : Program ρ PUnit :=
  updateSession fun session =>
    match session.resumeSelectedAuthOption with
    | some authOption =>
        { session with selectedAuthOption := some authOption, resumeSelectedAuthOption := none }
    | none =>
        { session with
          selectedAuthOption := some (if .pnc ∈ authOptions ∧ session.isTls then .pnc else .eim) }

/-- One round of the loop over the value-added services. -/
def ServiceDiscovery.selectService (service : ServiceDetails) : Program ρ PUnit := do
  let world ← get
  if service.serviceCategory = .certificate ∧ world.session.selectedAuthOption = some .pnc then do
    let needed ← ask .isCertInstallNeeded EVController.isCertInstallNeeded
    if needed then
      updateSession fun session =>
        { session with
          serviceDetailsToRequest := session.serviceDetailsToRequest ++ [service.serviceId]
          selectedServices := session.selectedServices ++ [ServiceID.certificate] }
    else
      pure ⟨⟩
  else
    pure ⟨⟩

/-- `select_services`. -/
def ServiceDiscovery.selectServices (res : ServiceDiscoveryRes) : Program ρ PUnit := do
  updateSession fun session =>
    { session with selectedServices := session.selectedServices ++ [ServiceID.charging] }
  let world ← get
  if world.session.isTls then
    (res.serviceList.getD []).forM ServiceDiscovery.selectService
  else
    pure ⟨⟩

/-- `select_energy_transfer_mode`. The mode of a paused session is used once, and does not tell
whether it is alternating current. -/
def ServiceDiscovery.selectEnergyTransferMode : Program ρ PUnit := do
  let world ← get
  match world.session.resumeRequestedEnergyMode with
  | some energyMode =>
      updateSession fun session =>
        { session with selectedEnergyMode := some energyMode, resumeRequestedEnergyMode := none }
  | none => do
      let energyMode ← ask .getEnergyTransferMode EVController.getEnergyTransferMode
      updateSession fun session =>
        { session with
          selectedEnergyMode := some energyMode
          selectedChargingTypeIsAc := energyMode.isAc }

/-- `PaymentServiceSelectionReq(...)`. -/
def paymentServiceSelectionReq (authOption : Option AuthEnum) (services : List Int) :
    Except PyError PaymentServiceSelectionReq :=
  match authOption with
  | some authOption =>
      if services.length ≤ 16 then .ok ⟨authOption, services⟩ else .error .validationError
  | none => .error .validationError

/-- The end of `ServiceDiscovery` and of `ServiceDetail`: ask for the details of the next
service, or select the services. -/
def requestServices : Program ρ PUnit := do
  let world ← get
  match world.session.serviceDetailsToRequest.getLast? with
  | none => do
      let req ← Effect.ofExcept
        (paymentServiceSelectionReq world.session.selectedAuthOption
          world.session.selectedServices)
      createNextMessage (some (.state .paymentServiceSelection)) (.paymentServiceSelectionReq req)
        Timeouts.paymentServiceSelectionReq
  | some serviceId => do
      updateSession fun session =>
        { session with serviceDetailsToRequest := session.serviceDetailsToRequest.dropLast }
      createNextMessage (some (.state .serviceDetail)) (.serviceDetailReq ⟨serviceId⟩)
        Timeouts.serviceDetailReq

def ServiceDiscovery.onServiceDiscoveryRes (res : ServiceDiscoveryRes) : Program ρ PUnit := do
  ServiceDiscovery.selectAuthMode res.authOptionList
  ServiceDiscovery.selectServices res
  ServiceDiscovery.selectEnergyTransferMode
  let world ← get
  if world.session.selectedEnergyMode ∈ res.chargeService.supportedEnergyTransferMode.map some then
    requestServices
  else
    stopStateMachine Session.stopped

/-- `ServiceDiscovery.process_message`. The model always has a charge service. -/
def ServiceDiscovery.processMessage (message : V2GMessage) : Program ρ PUnit := do
  match ← checkMsg message fun res =>
      match res.response with
      | .serviceDiscoveryRes res => some res
      | _ => none with
  | some res => ServiceDiscovery.onServiceDiscoveryRes res
  | none => pure ⟨⟩

/-- `ServiceDetail.process_message`. -/
def ServiceDetail.processMessage (message : V2GMessage) : Program ρ PUnit := do
  match ← checkMsg message fun res =>
      match res.response with
      | .serviceDetailRes _ _ => some ()
      | _ => none with
  | some _ => requestServices
  | none => pure ⟨⟩

/-! ## Payment and authorization -/

/-- `PaymentDetailsReq(...)`. An eMAID has 14 or 15 characters. -/
def paymentDetailsReq (emaid : String) (certChain : CertificateChain) :
    Except PyError PaymentDetailsReq :=
  if 14 ≤ emaid.length ∧ emaid.length ≤ 15 then .ok ⟨emaid, certChain⟩
  else .error .validationError

/-- The contract certificate and its chain, as they are stored. -/
def loadPaymentDetails (answers : Answers) : Except PyError PaymentDetailsReq := do
  let emaid ← answers.loadContractCertCn
  let certChain ← answers.loadContractCertChain
  paymentDetailsReq emaid certChain

def requestPaymentDetails (req : PaymentDetailsReq) : Program ρ PUnit :=
  createNextMessage (some (.state .paymentDetails)) (.paymentDetailsReq req)
    Timeouts.paymentDetailsReq

/-- What is done with a request that is signed. The state machine is stopped if the key to sign
it cannot be read. -/
def signed (signature : Except PyError Signature) (request : Signature → Program ρ PUnit) :
    Program ρ PUnit :=
  tryCatch
    (do
      let signature ← Effect.ofExcept signature
      request signature)
    (fun exception =>
      if exception = .privateKeyReadError then stopStateMachine Session.stopped
      else throw exception)

def PaymentServiceSelection.installCertificate (answers : Answers) : Program ρ PUnit := do
  Effect.ofExcept answers.getCertIssuerSerial
  let oemProvisioningCert ← Effect.ofExcept answers.loadOemCert
  let req : CertificateInstallationReq := ⟨"id1", oemProvisioningCert⟩
  signed (answers.signCertificateInstallationReq req) fun signature =>
    createNextMessage (some (.state .certificateInstallation)) (.certificateInstallationReq req)
      Timeouts.certificateInstallationReq (some signature)

/-- A file that is not there stops the state machine. -/
def PaymentServiceSelection.payByContract (answers : Answers) : Program ρ PUnit :=
  match loadPaymentDetails answers with
  | .ok req => requestPaymentDetails req
  | .error exception =>
      if exception = .fileNotFoundError then stopStateMachine Session.stopped
      else throw exception

def PaymentServiceSelection.onPaymentServiceSelectionRes (answers : Answers) :
    Program ρ PUnit := do
  let world ← get
  if world.session.selectedAuthOption = some .pnc then do
    let needed ← ask .isCertInstallNeeded EVController.isCertInstallNeeded
    if needed then PaymentServiceSelection.installCertificate answers
    else PaymentServiceSelection.payByContract answers
  else
    createNextMessage (some (.state .authorization)) (.authorizationReq ⟨none, none⟩)
      Timeouts.authorizationReq

/-- `PaymentServiceSelection.process_message`. -/
def PaymentServiceSelection.processMessage (answers : Answers) (message : V2GMessage) :
    Program ρ PUnit := do
  match ← checkMsg message fun res =>
      match res.response with
      | .paymentServiceSelectionRes => some ()
      | _ => none with
  | some _ => PaymentServiceSelection.onPaymentServiceSelectionRes answers
  | none => pure ⟨⟩

/-- The private key of the new contract is decrypted and stored, unless it cannot be. -/
def CertificateInstallation.storeContract (answers : Answers) : Program ρ Bool :=
  tryCatch
    (do
      Effect.ofExcept answers.decryptPrivKey
      ask .storeContractCertAndPrivKey EVController.storeContractCertAndPrivKey
      return true)
    (fun exception =>
      if exception = .decryptionError ∨ exception = .privateKeyReadError then return false
      else throw exception)

def CertificateInstallation.onCertificateInstallationRes (answers : Answers) :
    Program ρ PUnit := do
  let verified ← Effect.ofExcept answers.verifyCertificateInstallationRes
  if verified then do
    let stored ← CertificateInstallation.storeContract answers
    if stored then do
      let req ← Effect.ofExcept (loadPaymentDetails answers)
      requestPaymentDetails req
    else
      stopStateMachine Session.stopped
  else
    stopStateMachine Session.stopped

/-- `CertificateInstallation.process_message`. -/
def CertificateInstallation.processMessage (answers : Answers) (message : V2GMessage) :
    Program ρ PUnit := do
  match ← checkMsg message fun res =>
      match res.response with
      | .certificateInstallationRes => some ()
      | _ => none with
  | some _ => CertificateInstallation.onCertificateInstallationRes answers
  | none => pure ⟨⟩

/-- The challenge goes back under a signature. It has 16 bytes in every message that passes its
model. -/
def PaymentDetails.onPaymentDetailsRes (answers : Answers) (genChallenge : List UInt8) :
    Program ρ PUnit :=
  let req : AuthorizationReq := ⟨some "id1", some genChallenge⟩
  signed (answers.signAuthorizationReq req) fun signature =>
    createNextMessage (some (.state .authorization)) (.authorizationReq req)
      Timeouts.authorizationReq (some signature)

/-- `PaymentDetails.process_message`. -/
def PaymentDetails.processMessage (answers : Answers) (message : V2GMessage) :
    Program ρ PUnit := do
  match ← checkMsg message fun res =>
      match res.response with
      | .paymentDetailsRes genChallenge => some genChallenge
      | _ => none with
  | some genChallenge => PaymentDetails.onPaymentDetailsRes answers genChallenge
  | none => pure ⟨⟩

/-- `ChargeParameterDiscoveryReq(...)`, which must have the parameters of its energy mode and
no others. -/
def chargeParameterDiscoveryReq (params : ChargeParamsV2) :
    Except PyError ChargeParameterDiscoveryReq :=
  match params.acParameters, params.dcParameters with
  | some acParameters, none =>
      if isAc : (EVChargeParameter.ac acParameters).isAc = params.energyMode.isAc then
        .ok ⟨none, params.energyMode, .ac acParameters, isAc⟩
      else
        .error .validationError
  | none, some dcParameters =>
      if isAc : (EVChargeParameter.dc dcParameters).isAc = params.energyMode.isAc then
        .ok ⟨none, params.energyMode, .dc dcParameters, isAc⟩
      else
        .error .validationError
  | _, _ => .error .validationError

/-- Ask the controller for the charge parameters and send them. -/
def discoverChargeParameters (timeout : ℚ) : Program ρ PUnit := do
  let params ← ask .getChargeParamsV2 EVController.getChargeParamsV2
  let req ← Effect.ofExcept (chargeParameterDiscoveryReq params)
  createNextMessage (some (.state .chargeParameterDiscovery)) (.chargeParameterDiscoveryReq req)
    timeout

/-- The timer while the SECC is processing: how long it has run, or none when it is over. A
timer that does not run is started. -/
def elapsedTime (answers : Answers) (timeout : ℚ) : Program ρ (Option ℚ) := do
  let world ← get
  if world.session.ongoingTimer ≥ 0 then
    if answers.now - world.session.ongoingTimer > timeout then do
      stopStateMachine Session.stopped
      return none
    else
      return some (answers.now - world.session.ongoingTimer)
  else do
    updateSession fun session => { session with ongoingTimer := answers.now }
    return some 0

/-- `ongoing_timer = -1`. -/
def resetOngoingTimer : Program ρ PUnit :=
  updateSession fun session => { session with ongoingTimer := -1 }

def Authorization.onAuthorizationRes (answers : Answers) (evseProcessing : EVSEProcessing) :
    Program ρ PUnit := do
  if evseProcessing = .finished then do
    resetOngoingTimer
    discoverChargeParameters Timeouts.chargeParameterDiscoveryReq
  else do
    match ← elapsedTime answers Timeouts.v2gEvccOngoingTimeout with
    | none => pure ⟨⟩
    | some elapsed =>
        createNextMessage (some (.state .authorization)) (.authorizationReq ⟨none, none⟩)
          (min Timeouts.authorizationReq (Timeouts.v2gEvccOngoingTimeout - elapsed))

/-- `Authorization.process_message`. -/
def Authorization.processMessage (answers : Answers) (message : V2GMessage) :
    Program ρ PUnit := do
  match ← checkMsg message fun res =>
      match res.response with
      | .authorizationRes evseProcessing => some evseProcessing
      | _ => none with
  | some evseProcessing => Authorization.onAuthorizationRes answers evseProcessing
  | none => pure ⟨⟩

/-! ## Charging -/

/-- `PowerDeliveryReq(...)`. The id of a schedule is a byte and not zero. -/
def powerDeliveryReq (chargeProgress : ChargeProgress) (schedule : Option Nat)
    (chargingProfile : Option ChargingProfile := none)
    (parameter : Option DCEVPowerDeliveryParameter := none) : Except PyError PowerDeliveryReq :=
  match schedule with
  | some schedule =>
      if 1 ≤ schedule ∧ schedule ≤ 255 then
        .ok ⟨chargeProgress, schedule, chargingProfile, parameter⟩
      else
        .error .validationError
  | none => .error .validationError

/-- `PowerDeliveryReq(...)` for a schedule, and the way to `PowerDelivery`. -/
def requestPowerDelivery (chargeProgress : ChargeProgress) (schedule : Option Nat)
    (chargingProfile : Option ChargingProfile := none)
    (parameter : Option DCEVPowerDeliveryParameter := none) : Program ρ PUnit := do
  let req ← Effect.ofExcept
    (powerDeliveryReq chargeProgress schedule chargingProfile parameter)
  createNextMessage (some (.state .powerDelivery)) (.powerDeliveryReq req)
    Timeouts.powerDeliveryReq

def requestCableCheck : Program ρ PUnit := do
  let dcEvStatus ← ask .getDcEvStatus EVController.getDcEvStatus
  createNextMessage (some (.state .cableCheck)) (.cableCheckReq ⟨dcEvStatus⟩)
    Timeouts.cableCheckReq

/-- A schedule is chosen, and charging is enabled before and after the next request is made. -/
def ChargeParameterDiscovery.chooseSchedule (saScheduleList : Option (List SAScheduleTuple)) :
    Program ρ PUnit := do
  resetOngoingTimer
  let scheduleTuples ← required saScheduleList
  let (chargeProgress, scheduleId, chargingProfile) ←
    ask .processSaSchedulesV2 (EVController.processSaSchedulesV2 scheduleTuples)
  ask (.enableCharging true) (EVController.enableCharging true)
  let world ← get
  if world.session.selectedChargingTypeIsAc then
    requestPowerDelivery chargeProgress (some scheduleId) (some chargingProfile)
  else
    requestCableCheck
  updateSession fun session => { session with selectedSchedule := some scheduleId }
  ask (.enableCharging true) (EVController.enableCharging true)

def ChargeParameterDiscovery.onChargeParameterDiscoveryRes (answers : Answers)
    (res : ChargeParameterDiscoveryRes) : Program ρ PUnit := do
  if res.evseProcessing = .finished then
    ChargeParameterDiscovery.chooseSchedule res.saScheduleList
  else do
    match ← elapsedTime answers Timeouts.v2gEvccOngoingTimeout with
    | none => pure ⟨⟩
    | some elapsed =>
        discoverChargeParameters
          (min Timeouts.chargeParameterDiscoveryReq (Timeouts.v2gEvccOngoingTimeout - elapsed))

/-- `ChargeParameterDiscovery.process_message`. -/
def ChargeParameterDiscovery.processMessage (answers : Answers) (message : V2GMessage) :
    Program ρ PUnit := do
  match ← checkMsg message fun res =>
      match res.response with
      | .chargeParameterDiscoveryRes res => some res
      | _ => none with
  | some res => ChargeParameterDiscovery.onChargeParameterDiscoveryRes answers res
  | none => pure ⟨⟩

/-- `build_current_demand_data` and `build_current_demand_req`, which differ in whether the
maximum voltage is given. Whether charging is complete is asked, and not kept here. -/
def buildCurrentDemandReq (withMaxVoltage : Bool) : Program ρ CurrentDemandReq := do
  let params ← ask .getDcChargeParams EVController.getDcChargeParams
  let dcEvStatus ← ask .getDcEvStatus EVController.getDcEvStatus
  let _ ← ask .isBulkChargingComplete EVController.isBulkChargingComplete
  let _ ← ask .isChargingComplete EVController.isChargingComplete
  let fullSoc ← ask .getRemainingTimeToFullSoc EVController.getRemainingTimeToFullSoc
  let bulkSoc ← ask .getRemainingTimeToBulkSoc EVController.getRemainingTimeToBulkSoc
  return {
    dcEvStatus := dcEvStatus
    evTargetCurrent := params.dcTargetCurrent
    evMaxVoltageLimit := if withMaxVoltage then some params.dcMaxVoltageLimit else none
    evMaxCurrentLimit := some params.dcMaxCurrentLimit
    evMaxPowerLimit := some params.dcMaxPowerLimit
    remainingTimeToFullSoc := some fullSoc
    remainingTimeToBulkSoc := some bulkSoc
    evTargetVoltage := params.dcTargetVoltage }

/-- The next round of the charge loop for direct current. -/
def requestCurrentDemand (withMaxVoltage : Bool) (timeout : ℚ) : Program ρ PUnit := do
  let req ← buildCurrentDemandReq withMaxVoltage
  createNextMessage (some (.state .currentDemand)) (.currentDemandReq req) timeout

/-- The next round of the charge loop for alternating current. -/
def requestChargingStatus : Program ρ PUnit :=
  createNextMessage (some (.state .chargingStatus)) .chargingStatusReq Timeouts.chargingStatusReq

/-- The session has an energy mode, of alternating current. -/
def Session.chargesAc (session : Session) : Prop :=
  session.selectedEnergyMode.isSome ∧ session.selectedChargingTypeIsAc

instance (session : Session) : Decidable session.chargesAc :=
  inferInstanceAs (Decidable (_ ∧ _))

def requestSessionStop (chargingSession : Option ChargingSession) : Program ρ PUnit :=
  match chargingSession with
  | some chargingSession =>
      createNextMessage (some (.state .sessionStop)) (.sessionStopReq ⟨chargingSession⟩)
        Timeouts.sessionStopReq
  | none => throw .validationError

def PowerDelivery.onPowerDeliveryRes : Program ρ PUnit := do
  let world ← get
  if world.session.chargingSessionStopV2.isSome then
    if world.session.selectedChargingTypeIsAc then
      requestSessionStop world.session.chargingSessionStopV2
    else do
      ask (.enableCharging false) (EVController.enableCharging false)
      let _ ← ask .getDcEvStatus EVController.getDcEvStatus
      createNextMessage (some (.state .weldingDetection)) .weldingDetectionReq
        Timeouts.weldingDetectionReq
  else if world.session.renegotiationRequested then do
    updateSession fun session => { session with renegotiationRequested := false }
    discoverChargeParameters Timeouts.chargeParameterDiscoveryReq
  else if world.session.chargesAc then
    requestChargingStatus
  else
    requestCurrentDemand false Timeouts.chargingStatusReq

/-- `PowerDelivery.process_message`. -/
def PowerDelivery.processMessage (message : V2GMessage) : Program ρ PUnit := do
  match ← checkMsg message fun res =>
      match res.response with
      | .powerDeliveryRes _ _ => some ()
      | _ => none with
  | some _ => PowerDelivery.onPowerDeliveryRes
  | none => pure ⟨⟩

/-- The notification of the status that the response has. -/
def MeteringReceipt.notification (acEvseStatus : Option ACEVSEStatus)
    (dcEvseStatus : Option DCEVSEStatus) : Program ρ EVSENotification :=
  match acEvseStatus with
  | some status => pure status.evseNotification
  | none => do
      let status ← required dcEvseStatus
      return status.evseNotification

/-- A renegotiation is requested with the schedule that was selected. -/
def renegotiate : Program ρ PUnit := do
  updateSession fun session => { session with renegotiationRequested := true }
  let world ← get
  requestPowerDelivery .renegotiate world.session.selectedSchedule

/-- A stop does not set how the session is to stop here, as it does in the charge loops. -/
def MeteringReceipt.onMeteringReceiptRes (acEvseStatus : Option ACEVSEStatus)
    (dcEvseStatus : Option DCEVSEStatus) : Program ρ PUnit := do
  let notification ← MeteringReceipt.notification acEvseStatus dcEvseStatus
  let world ← get
  match notification with
  | .stopCharging => requestPowerDelivery .stop world.session.selectedSchedule
  | .reNegotiation => renegotiate
  | .none =>
      if world.session.chargesAc then requestChargingStatus
      else requestCurrentDemand true Timeouts.chargingStatusReq

/-- `MeteringReceipt.process_message`. -/
def MeteringReceipt.processMessage (message : V2GMessage) : Program ρ PUnit := do
  match ← checkMsg message fun res =>
      match res.response with
      | .meteringReceiptRes acEvseStatus dcEvseStatus => some (acEvseStatus, dcEvseStatus)
      | _ => none with
  | some (acEvseStatus, dcEvseStatus) =>
      MeteringReceipt.onMeteringReceiptRes acEvseStatus dcEvseStatus
  | none => pure ⟨⟩

/-- The reason names how the session was to stop. No message is prepared. -/
def SessionStop.onSessionStopRes : Program ρ PUnit := do
  let world ← get
  let _ ← required world.session.chargingSessionStopV2
  updateSession fun session => { session with stopReason := some { successful := true } }
  setNextState (some .terminate)

/-- `SessionStop.process_message`. -/
def SessionStop.processMessage (message : V2GMessage) : Program ρ PUnit := do
  match ← checkMsg message fun res =>
      match res.response with
      | .sessionStopRes => some ()
      | _ => none with
  | some _ => SessionStop.onSessionStopRes
  | none => pure ⟨⟩

/-! ## Alternating current -/

/-- `stop_charging` of `ChargingStatus`, and of `CurrentDemand` with a parameter. -/
def stopCharging (parameter : Option DCEVPowerDeliveryParameter := none) : Program ρ PUnit := do
  let world ← get
  requestPowerDelivery .stop world.session.selectedSchedule none parameter
  updateSession fun session => { session with chargingSessionStopV2 := some .terminate }

/-- `MeteringReceiptReq(...)`, which has the id of the session too. -/
def meteringReceiptReq (sessionId : String) (meterInfo : Option MeterInfo) :
    Except PyError MeteringReceiptReq :=
  match meterInfo with
  | some meterInfo => do
      checkSessionId sessionId
      return ⟨some "id1", meterInfo⟩
  | none => .error .validationError

/-- A signed receipt. -/
def ChargingStatus.receipt (answers : Answers) (meterInfo : Option MeterInfo) :
    Program ρ PUnit := do
  let world ← get
  let req ← Effect.ofExcept (meteringReceiptReq world.session.sessionId meterInfo)
  signed (answers.signMeteringReceiptReq req) fun signature =>
    createNextMessage (some (.state .meteringReceipt)) (.meteringReceiptReq req)
      Timeouts.meteringReceiptReq (some signature)

/-- Whether the charge loop goes on. If so, the delay may fail. -/
def continueCharging : Program ρ Bool := do
  let continues ← ask .continueCharging EVController.continueCharging
  if continues then do
    tryCatch (ask .chargeLoopDelay EVController.chargeLoopDelay) (fun _ => pure ⟨⟩)
    return true
  else
    return false

def ChargingStatus.onChargingStatusRes (answers : Answers) (acEvseStatus : ACEVSEStatus)
    (meterInfo : Option MeterInfo) (receiptRequired : Option Bool) : Program ρ PUnit := do
  let world ← get
  if receiptRequired = some true ∧ world.session.isTls then
    ChargingStatus.receipt answers meterInfo
  else
    match acEvseStatus.evseNotification with
    | .reNegotiation => renegotiate
    | .stopCharging => stopCharging
    | .none => do
        let continues ← continueCharging
        if continues then requestChargingStatus else stopCharging

/-- `ChargingStatus.process_message`. -/
def ChargingStatus.processMessage (answers : Answers) (message : V2GMessage) :
    Program ρ PUnit := do
  match ← checkMsg message fun res =>
      match res.response with
      | .chargingStatusRes _ _ acEvseStatus _ meterInfo receiptRequired =>
          some (acEvseStatus, meterInfo, receiptRequired)
      | _ => none with
  | some (acEvseStatus, meterInfo, receiptRequired) =>
      ChargingStatus.onChargingStatusRes answers acEvseStatus meterInfo receiptRequired
  | none => pure ⟨⟩

/-! ## Direct current -/

/-- `build_pre_charge_message`, the same in `CableCheck` and `PreCharge`. The target current is
that of the charge loop. -/
def buildPreChargeMessage : Program ρ PreChargeReq := do
  let params ← ask .getDcChargeParams EVController.getDcChargeParams
  let dcEvStatus ← ask .getDcEvStatus EVController.getDcEvStatus
  return ⟨dcEvStatus, params.dcTargetVoltage, params.dcTargetCurrent⟩

def requestPreCharge : Program ρ PUnit := do
  let req ← buildPreChargeMessage
  createNextMessage (some (.state .preCharge)) (.preChargeReq req) Timeouts.preChargeReq

def CableCheck.onCableCheckRes (answers : Answers) (dcEvseStatus : DCEVSEStatus)
    (evseProcessing : EVSEProcessing) : Program ρ PUnit := do
  if evseProcessing = .finished then do
    resetOngoingTimer
    if dcEvseStatus.evseStatusCode = .evseReady ∧
        dcEvseStatus.evseIsolationStatus = some .valid then
      requestPreCharge
    else
      stopStateMachine Session.stopped
  else do
    match ← elapsedTime answers Timeouts.v2gEvccCableCheckTimeout with
    | none => pure ⟨⟩
    | some _ => requestCableCheck

/-- `CableCheck.process_message`. -/
def CableCheck.processMessage (answers : Answers) (message : V2GMessage) : Program ρ PUnit := do
  match ← checkMsg message fun res =>
      match res.response with
      | .cableCheckRes dcEvseStatus evseProcessing => some (dcEvseStatus, evseProcessing)
      | _ => none with
  | some (dcEvseStatus, evseProcessing) =>
      CableCheck.onCableCheckRes answers dcEvseStatus evseProcessing
  | none => pure ⟨⟩

def PreCharge.onPreChargeRes (answers : Answers) (evsePresentVoltage : PhysicalValue) :
    Program ρ PUnit := do
  let isPrecharged ← ask .isPrecharged (EVController.isPrecharged evsePresentVoltage)
  if isPrecharged then do
    resetOngoingTimer
    let world ← get
    let schedule := world.session.selectedSchedule
    let parameter ←
      ask .getDcEvPowerDeliveryParameter EVController.getDcEvPowerDeliveryParameter
    requestPowerDelivery .start schedule none (some parameter)
  else do
    match ← elapsedTime answers Timeouts.v2gEvccPreChargeTimeout with
    | none => pure ⟨⟩
    | some _ => requestPreCharge

/-- `PreCharge.process_message`. -/
def PreCharge.processMessage (answers : Answers) (message : V2GMessage) : Program ρ PUnit := do
  match ← checkMsg message fun res =>
      match res.response with
      | .preChargeRes _ evsePresentVoltage => some evsePresentVoltage
      | _ => none with
  | some evsePresentVoltage => PreCharge.onPreChargeRes answers evsePresentVoltage
  | none => pure ⟨⟩

/-- `stop_charging` of `CurrentDemand`. -/
def CurrentDemand.stopCharging : Program ρ PUnit := do
  let parameter ←
    ask .getDcEvPowerDeliveryParameter EVController.getDcEvPowerDeliveryParameter
  V2.stopCharging (some parameter)

def CurrentDemand.onCurrentDemandRes (dcEvseStatus : DCEVSEStatus) : Program ρ PUnit := do
  if dcEvseStatus.evseNotification = .stopCharging then
    CurrentDemand.stopCharging
  else do
    let continues ← continueCharging
    if continues then requestCurrentDemand false Timeouts.powerDeliveryReq
    else CurrentDemand.stopCharging

/-- `CurrentDemand.process_message`. -/
def CurrentDemand.processMessage (message : V2GMessage) : Program ρ PUnit := do
  match ← checkMsg message fun res =>
      match res.response with
      | .currentDemandRes res => some res.dcEvseStatus
      | _ => none with
  | some dcEvseStatus => CurrentDemand.onCurrentDemandRes dcEvseStatus
  | none => pure ⟨⟩

/-- The timer of `WeldingDetection`, started when it has been reset. Whether the state may go
on. -/
def WeldingDetection.withinTime (answers : Answers) : Program ρ Bool := do
  let world ← get
  if world.session.ongoingTimer > 0 then
    if answers.now - world.session.ongoingTimer > Timeouts.v2gEvccOngoingTimeout then do
      stopStateMachine Session.stopped
      return false
    else
      return true
  else if world.session.ongoingTimer = -1 then do
    updateSession fun session => { session with ongoingTimer := answers.now }
    return true
  else
    return true

def WeldingDetection.onWeldingDetectionRes (answers : Answers) : Program ρ PUnit := do
  if ← WeldingDetection.withinTime answers then do
    let _ ← ask .getDcEvStatus EVController.getDcEvStatus
    let finished ← ask .weldingDetectionHasFinished EVController.weldingDetectionHasFinished
    let world ← get
    if finished then
      requestSessionStop world.session.chargingSessionStopV2
    else
      -- the next response is for the same object
      createNextMessage none .weldingDetectionReq Timeouts.weldingDetectionReq
  else
    pure ⟨⟩

/-- `WeldingDetection.process_message`. -/
def WeldingDetection.processMessage (answers : Answers) (message : V2GMessage) :
    Program ρ PUnit := do
  match ← checkMsg message fun res =>
      match res.response with
      | .weldingDetectionRes _ _ => some ()
      | _ => none with
  | some _ => WeldingDetection.onWeldingDetectionRes answers
  | none => pure ⟨⟩

/-! ## All states -/

/-- `process_message` of the current state. -/
def processMessage (answers : Answers) (message : V2GMessage) : Program ρ PUnit := do
  let world ← get
  match world.currentState.own with
  | .sessionSetup => SessionSetup.processMessage message
  | .serviceDiscovery => ServiceDiscovery.processMessage message
  | .serviceDetail => ServiceDetail.processMessage message
  | .paymentServiceSelection => PaymentServiceSelection.processMessage answers message
  | .certificateInstallation => CertificateInstallation.processMessage answers message
  | .paymentDetails => PaymentDetails.processMessage answers message
  | .authorization => Authorization.processMessage answers message
  | .chargeParameterDiscovery => ChargeParameterDiscovery.processMessage answers message
  | .powerDelivery => PowerDelivery.processMessage message
  | .meteringReceipt => MeteringReceipt.processMessage message
  | .sessionStop => SessionStop.processMessage message
  | .chargingStatus => ChargingStatus.processMessage answers message
  | .cableCheck => CableCheck.processMessage answers message
  | .preCharge => PreCharge.processMessage answers message
  | .currentDemand => CurrentDemand.processMessage message
  | .weldingDetection => WeldingDetection.processMessage answers message

/-- `EVCCCommunicationSession`, once ISO 15118-2 has been agreed on. -/
abbrev machine (ρ : Type) [EVController ρ] :
    SessionStateMachine (Received V2GMessage Answers) StateName StateName RequestMessage
      (World ρ) :=
  Evcc.machine id processMessage

end Iso15118.Evcc.V2
