import Iso15118.Evcc.V20.Session

/-!
# The ISO 15118-20 states of the EVCC

`evcc/states/iso15118_20_states.py`. Each state has a function for the message that it
expects, behind the check, and `process_message`.
-/

namespace Iso15118.Evcc.V20

open Effect
open Iso15118.Shared
open Iso15118.Shared.V20

variable {ρ : Type} [EVController ρ]

/-! ## Setup and authorization -/

def SessionSetup.onSessionSetupRes (sessionId : String) : Program ρ PUnit := do
  updateSession fun session => { session with sessionId := sessionId }
  let header ← messageHeader
  prepare (some (.state .authorizationSetup)) ⟨header, .authorizationSetupReq⟩
    Timeouts.authorizationSetupReq

/-- `SessionSetup.process_message`. -/
def SessionSetup.processMessage (message : V2GMessage) : Program ρ PUnit := do
  match ← checkMsg message fun res =>
      match res.response with
      | .sessionSetupRes _ => some res.header.sessionId
      | _ => none with
  | some sessionId => SessionSetup.onSessionSetupRes sessionId
  | none => pure ⟨⟩

/-- The `CertificateInstallationReq`, unless the key to sign it cannot be read. -/
def AuthorizationSetup.installCertificate (answers : Answers) : Program ρ Bool := do
  Effect.ofExcept answers.getCertIssuerSerial
  Effect.ofExcept answers.loadOemCertChain
  tryCatch
    (do
      let signature ← Effect.ofExcept answers.signOemCertChain
      let header ← messageHeader (some signature)
      ask .getPrioritisedEmaids EVController.getPrioritisedEmaids
      prepare (some (.state .certificateInstallation)) ⟨header, .certificateInstallationReq⟩
        Timeouts.certificateInstallationReq
      return true)
    (fun exception => if exception = .privateKeyReadError then return false else throw exception)

/-- The parameters and the signature for Plug and Charge, unless the key to sign them cannot
be read. -/
def AuthorizationSetup.pncParams (answers : Answers) (res : AuthorizationSetupRes) :
    Program ρ (Option (PnCAuthReqParams × Signature)) := do
  let pncAsRes ← required res.pncAsRes
  let certificate ← Effect.ofExcept answers.loadContractCertChain
  let params : PnCAuthReqParams := ⟨some "id1", pncAsRes.genChallenge, certificate⟩
  tryCatch
    (do
      let signature ← Effect.ofExcept (answers.signPncParams params)
      return some (params, signature))
    (fun exception => if exception = .privateKeyReadError then return none else throw exception)

/-- The `AuthorizationReq`, which is kept for the case that it is to be repeated. -/
def AuthorizationSetup.authorize (answers : Answers) (res : AuthorizationSetupRes) :
    Program ρ PUnit := do
  let pnc ←
    if .pnc ∈ res.authServices then AuthorizationSetup.pncParams answers res else pure none
  let header ← messageHeader (pnc.map Prod.snd)
  let authReq : AuthorizationReq :=
    match pnc with
    | some (params, _) => ⟨.pnc, some params, false, .inl rfl⟩
    | none => ⟨.eim, none, true, AuthorizationReq.eim_set⟩
  let message : RequestMessage := ⟨header, .authorizationReq authReq⟩
  updateSession fun session => { session with authorizationReqMessage := some message }
  prepare (some (.state .authorization)) message Timeouts.authorizationReq

def AuthorizationSetup.onAuthorizationSetupRes (answers : Answers)
    (res : AuthorizationSetupRes) : Program ρ PUnit := do
  let install ←
    if res.certInstallService then
      ask .isCertInstallNeeded EVController.isCertInstallNeeded
    else pure false
  let installs ← if install then AuthorizationSetup.installCertificate answers else pure false
  if installs then pure ⟨⟩ else AuthorizationSetup.authorize answers res

/-- `AuthorizationSetup.process_message`. -/
def AuthorizationSetup.processMessage (answers : Answers) (message : V2GMessage) :
    Program ρ PUnit := do
  match ← checkMsg message fun res =>
      match res.response with
      | .authorizationSetupRes res => some res
      | _ => none with
  | some res => AuthorizationSetup.onAuthorizationSetupRes answers res
  | none => pure ⟨⟩

/-- `CertificateInstallation.process_message`, which is not implemented. -/
def CertificateInstallation.processMessage : Program ρ PUnit :=
  throw .notImplementedError

/-- The timer while the SECC is processing: how long it has run, or none when it is over. A
timer that does not run is started. -/
def elapsedTime (answers : Answers) (timeout : ℚ) : Program ρ (Option ℚ) := do
  let world ← get
  if world.session.ongoingTimer ≥ 0 then
    if answers.now - world.session.ongoingTimer > timeout then do
      stopStateMachine Session.stopped
      return none
    else
      return some (answers.now - world.session.ongoingTimer)
  else do
    updateSession fun session => { session with ongoingTimer := answers.now }
    return some 0

def Authorization.onAuthorizationRes (answers : Answers) (evseProcessing : Processing) :
    Program ρ PUnit := do
  if evseProcessing = .finished then do
    updateSession fun session => { session with ongoingTimer := -1 }
    let header ← messageHeader
    prepare (some (.state .serviceDiscovery)) ⟨header, .serviceDiscoveryReq ⟨none⟩⟩
      Timeouts.serviceDiscoveryReq
  else do
    match ← elapsedTime answers Timeouts.v2gEvccOngoingTimeout with
    | none => pure ⟨⟩
    | some elapsed => do
        let world ← get
        let cached ← required world.session.authorizationReqMessage
        let header ← messageHeader cached.header.signature
        prepare (some (.state .authorization)) ⟨header, cached.request⟩
          (min Timeouts.authorizationReq (Timeouts.v2gEvccOngoingTimeout - elapsed))

/-- `Authorization.process_message`. -/
def Authorization.processMessage (answers : Answers) (message : V2GMessage) :
    Program ρ PUnit := do
  match ← checkMsg message fun res =>
      match res.response with
      | .authorizationRes evseProcessing => some evseProcessing
      | _ => none with
  | some evseProcessing => Authorization.onAuthorizationRes answers evseProcessing
  | none => pure ⟨⟩

/-! ## Services -/

/-- `matched_services_v20.append(...)`. -/
def appendMatched (service : Service) (isEnergyService : Bool) : Program ρ PUnit :=
  match ServiceV20.getById service.serviceId with
  | some matched =>
      updateSession fun session =>
        { session with
          matchedServicesV20 :=
            session.matchedServicesV20 ++ [⟨matched, isEnergyService, service.freeService, []⟩] }
  | none => throw .valueError

/-- The loops over the offered and the requested energy services. -/
def ServiceDiscovery.matchEnergyServices (offered : List Service)
    (reqEnergyServices : List ServiceV20) : Program ρ PUnit :=
  offered.forM fun energyService =>
    reqEnergyServices.forM fun requestedEnergyService =>
      if requestedEnergyService.id = energyService.serviceId then do
        appendMatched energyService true
        updateSession fun session =>
          { session with
            serviceDetailsToRequest :=
              session.serviceDetailsToRequest ++ [energyService.serviceId] }
      else
        pure ⟨⟩

/-- `service_details_to_request.pop()`. -/
def popServiceDetail : Program ρ Int := do
  let world ← get
  match world.session.serviceDetailsToRequest.getLast? with
  | some serviceId => do
      updateSession fun session =>
        { session with serviceDetailsToRequest := session.serviceDetailsToRequest.dropLast }
      return serviceId
  | none => throw .indexError

/-- The request for the details of the next service. -/
def requestServiceDetail : Program ρ PUnit := do
  let header ← messageHeader
  let serviceId ← popServiceDetail
  prepare (some (.state .serviceDetail)) ⟨header, .serviceDetailReq ⟨serviceId⟩⟩
    Timeouts.serviceDetailReq

/-- `SessionStopReq(...)` and the way to `SessionStop`. -/
def requestSessionStop (chargingSession : ChargingSession) : Program ρ PUnit := do
  let header ← messageHeader
  prepare (some (.state .sessionStop)) ⟨header, .sessionStopReq ⟨chargingSession⟩⟩
    Timeouts.sessionStopReq

def ServiceDiscovery.onServiceDiscoveryRes (res : ServiceDiscoveryRes) : Program ρ PUnit := do
  updateSession fun session =>
    { session with serviceRenegotiationSupported := res.serviceRenegotiationSupported }
  let reqEnergyServices ←
    ask .getSupportedEnergyServices EVController.getSupportedEnergyServices
  ServiceDiscovery.matchEnergyServices res.energyServiceList.services reqEnergyServices
  let world ← get
  if world.session.matchedServicesV20.isEmpty then do
    updateSession fun session => { session with chargingSessionStopV20 := some .terminate }
    requestSessionStop .terminate
  else do
    ((res.vasList.map ServiceList.services).getD []).forM fun vasService =>
      appendMatched vasService false
    requestServiceDetail

/-- `ServiceDiscovery.process_message`. -/
def ServiceDiscovery.processMessage (message : V2GMessage) : Program ρ PUnit := do
  match ← checkMsg message fun res =>
      match res.response with
      | .serviceDiscoveryRes res => some res
      | _ => none with
  | some res => ServiceDiscovery.onServiceDiscoveryRes res
  | none => pure ⟨⟩

/-- `store_parameter_sets`. -/
def storeParameterSets (res : ServiceDetailRes) (matched : MatchedService) : MatchedService :=
  if matched.service.id = res.serviceId then
    { matched with parameterSets := res.serviceParameterList.parameterSets }
  else
    matched

/-- The loop of `is_control_mode_set`, behind some parameters.
`ControlMode(param.int_value)` raises for any other number. -/
def isControlModeSet (controlModeSet : Bool) : List Parameter → Program ρ Bool
  | [] => return controlModeSet
  | param :: rest =>
      if param.name = "ControlMode" then
        match param.intValue with
        | some 1 => do
            updateSession fun session => { session with controlMode := some .scheduled }
            isControlModeSet true rest
        | some 2 => do
            updateSession fun session => { session with controlMode := some .dynamic }
            isControlModeSet true rest
        | _ => throw .valueError
      else
        isControlModeSet controlModeSet rest

/-- The entry for a selected value-added service. -/
def selectedVas (vas : SelectedVAS) : SelectedService :=
  ⟨vas.service.id, (vas.parameterSet.map ParameterSet.id).getD 1⟩

/-- `build_service_selection_req`. No list of services stands for an empty one, and `None`
cannot be iterated over. -/
def buildServiceSelectionReq (selected : SelectedEnergyService) : Program ρ RequestMessage := do
  let world ← get
  let vas ← ask .selectVasServicesV20
    (EVController.selectVasServicesV20 world.session.matchedServicesV20)
  updateSession fun session => { session with selectedVasListV20 := vas }
  match vas with
  | some vas => do
      let header ← messageHeader
      let selectedVasList := vas.map selectedVas
      return ⟨header, .serviceSelectionReq
        ⟨⟨selected.service.id, selected.parameterSet.id⟩,
          if selectedVasList.isEmpty then none else some selectedVasList⟩⟩
  | none => throw .typeError

def ServiceDetail.onServiceDetailRes (res : ServiceDetailRes) : Program ρ PUnit := do
  updateSession fun session =>
    { session with
      matchedServicesV20 := session.matchedServicesV20.map (storeParameterSets res) }
  let world ← get
  if world.session.serviceDetailsToRequest.isEmpty then do
    let selected ← ask .selectEnergyServiceV20
      (EVController.selectEnergyServiceV20 world.session.matchedServicesV20)
    updateSession fun session => { session with selectedEnergyService := some selected }
    let controlModeSet ← isControlModeSet false selected.parameterSet.parameters
    if controlModeSet then do
      let req ← buildServiceSelectionReq selected
      prepare (some (.state .serviceSelection)) req Timeouts.serviceSelectionReq
    else
      requestSessionStop .terminate
  else
    requestServiceDetail

/-- `ServiceDetail.process_message`. -/
def ServiceDetail.processMessage (message : V2GMessage) : Program ρ PUnit := do
  match ← checkMsg message fun res =>
      match res.response with
      | .serviceDetailRes res => some res
      | _ => none with
  | some res => ServiceDetail.onServiceDetailRes res
  | none => pure ⟨⟩

/-- The request with the charge parameters of an energy service, in the field that the
service has. Those of another class do not fit the field. -/
def chargeParameterDiscoveryReq (service : ServiceV20) (params : ChargeParams) :
    Except PyError Request :=
  match service, params with
  | .ac, .ac params => .ok (.acChargeParameterDiscoveryReq (.ac params))
  | .acBpt, .bptAc params => .ok (.acChargeParameterDiscoveryReq (.bptAc params))
  | .dc, .dc params => .ok (.dcChargeParameterDiscoveryReq (.dc params))
  | .dcBpt, .bptDc params => .ok (.dcChargeParameterDiscoveryReq (.bptDc params))
  | _, _ => .error .validationError

/-- The branch of `ServiceSelection` for alternating or direct current. -/
def ServiceSelection.discoverChargeParameters (selected : SelectedEnergyService) (isAc : Bool)
    (next : StateName) : Program ρ PUnit := do
  updateSession fun session => { session with selectedChargingTypeIsAc := isAc }
  let params ← ask .getChargeParamsV20 (EVController.getChargeParamsV20 selected)
  let header ← messageHeader
  let req ← Effect.ofExcept (chargeParameterDiscoveryReq selected.service params)
  prepare (some (.state next)) ⟨header, req⟩ Timeouts.chargeParameterDiscoveryReq

/-- For another service, no message is prepared. -/
def ServiceSelection.onServiceSelectionRes : Program ρ PUnit := do
  let world ← get
  let selected ← required world.session.selectedEnergyService
  if selected.service ∈ [.ac, .acBpt] then
    ServiceSelection.discoverChargeParameters selected true .acChargeParameterDiscovery
  else if selected.service ∈ [.dc, .dcBpt] then
    ServiceSelection.discoverChargeParameters selected false .dcChargeParameterDiscovery
  else
    pure ⟨⟩

/-- `ServiceSelection.process_message`. -/
def ServiceSelection.processMessage (message : V2GMessage) : Program ρ PUnit := do
  match ← checkMsg message fun res =>
      match res.response with
      | .serviceSelectionRes => some ()
      | _ => none with
  | some _ => ServiceSelection.onServiceSelectionRes
  | none => pure ⟨⟩

/-! ## Schedules and power delivery -/

/-- `build_schedule_exchange_request`, the same in both states that send it. Without a
control mode there are no parameters, which the request must have. -/
def buildScheduleExchangeRequest : Program ρ RequestMessage := do
  let world ← get
  let selected := world.session.selectedEnergyService
  match world.session.controlMode with
  | some .scheduled => do
      let selected ← required selected
      let params ← ask .getScheduledSeParams (EVController.getScheduledSeParams selected)
      let header ← messageHeader
      return ⟨header, .scheduleExchangeReq ⟨world.session.maxSupportingPoints, .scheduled params⟩⟩
  | some .dynamic => do
      let selected ← required selected
      let params ← ask .getDynamicSeParams (EVController.getDynamicSeParams selected)
      let header ← messageHeader
      return ⟨header, .scheduleExchangeReq ⟨world.session.maxSupportingPoints, .dynamic params⟩⟩
  | none => do
      let _ ← messageHeader
      throw .validationError

/-- The end of both charge parameter discoveries. -/
def exchangeSchedules : Program ρ PUnit := do
  let req ← buildScheduleExchangeRequest
  updateSession fun session => { session with ongoingScheduleExchangeReq := some req }
  prepare (some (.state .scheduleExchange)) req Timeouts.scheduleExchangeReq

/-- The parameters of a response that has those of the scheduled mode. -/
def scheduledParams (res : ScheduleExchangeRes) : Option ScheduledScheduleExchangeResParams :=
  match res.params with
  | some (.scheduled params) => some params
  | _ => none

def dynamicParams (res : ScheduleExchangeRes) : Option DynamicScheduleExchangeResParams :=
  match res.params with
  | some (.dynamic params) => some params
  | _ => none

/-- What the controller makes of the schedules, by control mode. -/
def processSeParams (res : ScheduleExchangeRes) :
    Program ρ (Option EVPowerProfile × ChargeProgress) := do
  let world ← get
  if world.session.controlMode = some .scheduled then
    ask .processScheduledSeParams
      (EVController.processScheduledSeParams (scheduledParams res) res.goToPause)
  else
    ask .processDynamicSeParams
      (EVController.processDynamicSeParams (dynamicParams res) res.goToPause)

/-- Whether the last entry of a profile is to discharge. A profile without entries has no
last one. -/
def channelSelection (profile : EVPowerProfile) : Except PyError ChannelSelection :=
  match profile.entryList.getLast? with
  | some entry => .ok (if entry.power.value < 0 then .discharge else .charge)
  | none => .error .indexError

/-- `PowerDeliveryReq(...)`. -/
def powerDeliveryReq (evProcessing : Processing) (chargeProgress : ChargeProgress)
    (evPowerProfile : Option EVPowerProfile) (bptChannelSelection : Option ChannelSelection) :
    Except PyError PowerDeliveryReq :=
  if profile_set : evProcessing ≠ .ongoing → chargeProgress ≠ .stop →
      evPowerProfile.isSome = true then
    .ok ⟨evProcessing, chargeProgress, evPowerProfile, bptChannelSelection, profile_set⟩
  else
    .error .validationError

/-- `ev_processing` of a request: a profile is there once the EV is ready. -/
def processingOf (profile : Option EVPowerProfile) : Processing :=
  if profile.isSome then .finished else .ongoing

/-- The channel of `ScheduleExchange`, which is open as long as there is no profile. -/
def ScheduleExchange.bptChannelSelection (selected : Option SelectedEnergyService)
    (profile : Option EVPowerProfile) : Program ρ (Option ChannelSelection) := do
  match profile with
  | some profile => do
      let selected ← required selected
      if selected.service ∈ [.acBpt, .dcBpt] then do
        let channel ← Effect.ofExcept (channelSelection profile)
        return some channel
      else
        return none
  | none => return none

/-- Processing that is not ongoing finishes the exchange. For direct current the profile is
dropped, and made again after the pre-charge. -/
def ScheduleExchange.onFinished (res : ScheduleExchangeRes) : Program ρ PUnit := do
  let (profile, chargeProgress) ← processSeParams res
  updateSession fun session => { session with scheduleExchangeRes := some res }
  updateSession fun session =>
    { session with evProcessing := if profile.isSome then session.evProcessing else .ongoing }
  let world ← get
  let channel ← ScheduleExchange.bptChannelSelection world.session.selectedEnergyService profile
  ask (.enableCharging true) (EVController.enableCharging true)
  if world.session.selectedChargingTypeIsAc then do
    let header ← messageHeader
    let req ← Effect.ofExcept
      (powerDeliveryReq (processingOf profile) chargeProgress profile channel)
    prepare (some (.state .powerDelivery)) ⟨header, .powerDeliveryReq req⟩
      Timeouts.powerDeliveryReq
  else do
    let header ← messageHeader
    prepare (some (.state .dcCableCheck)) ⟨header, .dcCableCheckReq⟩ Timeouts.dcCableCheckReq

/-- Without a request to repeat, no message is prepared. -/
def ScheduleExchange.onScheduleExchangeRes (res : ScheduleExchangeRes) : Program ρ PUnit := do
  if res.evseProcessing = .ongoing then do
    let world ← get
    match world.session.ongoingScheduleExchangeReq with
    | some req => prepare (some (.state .scheduleExchange)) req Timeouts.scheduleExchangeReq
    | none => setNextState (some (.state .scheduleExchange))
  else
    ScheduleExchange.onFinished res

/-- `ScheduleExchange.process_message`. -/
def ScheduleExchange.processMessage (message : V2GMessage) : Program ρ PUnit := do
  match ← checkMsg message fun res =>
      match res.response with
      | .scheduleExchangeRes res => some res
      | _ => none with
  | some res => ScheduleExchange.onScheduleExchangeRes res
  | none => pure ⟨⟩

/-- `create_new_power_delivery_req` of `PowerDelivery` and `build_power_delivery_req` of
`DCPreCharge`, which are the same up to what is done with the request. -/
def buildPowerDeliveryReq : Program ρ RequestMessage := do
  let world ← get
  let res ← required world.session.scheduleExchangeRes
  let (profile, chargeProgress) ← processSeParams res
  updateSession fun session => { session with evProcessing := processingOf profile }
  let selected ← required world.session.selectedEnergyService
  let channel ←
    if selected.service ∈ [.acBpt, .dcBpt] then
      match profile with
      | some profile => do
          let channel ← Effect.ofExcept (channelSelection profile)
          pure (some channel)
      | none => pure (some ChannelSelection.charge)
    else
      pure none
  let header ← messageHeader
  let req ← Effect.ofExcept
    (powerDeliveryReq (processingOf profile) chargeProgress profile channel)
  return ⟨header, .powerDeliveryReq req⟩

/-- The `ACChargeLoopReq`, with the parameters in the field that the service and the control
mode have. Those of another class do not fit the field. -/
def acChargeLoopParams (service : ServiceV20) (controlMode : Option ControlMode)
    (params : ACChargeLoopReqParams) : Except PyError ACChargeLoopReqParams :=
  let fits : Bool :=
    match params with
    | .scheduled _ => service = .ac ∧ controlMode = some .scheduled
    | .dynamic _ => service = .ac ∧ controlMode ≠ some .scheduled
    | .bptScheduled _ => service = .acBpt ∧ controlMode = some .scheduled
    | .bptDynamic _ => service = .acBpt ∧ controlMode ≠ some .scheduled
  if fits then .ok params else .error .validationError

def requestAcChargeLoop (service : ServiceV20) : Program ρ PUnit := do
  let world ← get
  let controlMode := world.session.controlMode
  let params ← ask .getAcChargeLoopParamsV20
    (EVController.getAcChargeLoopParamsV20 controlMode service)
  let header ← messageHeader
  let displayParameters ← ask .getDisplayParams EVController.getDisplayParams
  let params ← Effect.ofExcept (acChargeLoopParams service controlMode params)
  prepare (some (.state .acChargeLoop))
    ⟨header, .acChargeLoopReq ⟨some displayParameters, false, params⟩⟩ Timeouts.acChargeLoopReq

/-- The charge loop parameters for direct current, by service and control mode. -/
def dcChargeLoopParams (service : ServiceV20) (controlMode : Option ControlMode) :
    Program ρ (Option DCChargeLoopReqParams) :=
  match service, controlMode with
  | .dc, some .scheduled => do
      let params ← ask .getScheduledDcChargeLoopParams EVController.getScheduledDcChargeLoopParams
      return some (.scheduled params)
  | .dc, _ => do
      let params ← ask .getDynamicDcChargeLoopParams EVController.getDynamicDcChargeLoopParams
      return some (.dynamic params)
  | .dcBpt, some .scheduled => do
      let params ← ask .getBptScheduledDcChargeLoopParams
        EVController.getBptScheduledDcChargeLoopParams
      return some (.bptScheduled params)
  | .dcBpt, _ => do
      let params ← ask .getBptDynamicDcChargeLoopParams
        EVController.getBptDynamicDcChargeLoopParams
      return some (.bptDynamic params)
  | _, _ => return none

/-- `build_current_demand_data`, in `PowerDelivery` too. A request must have parameters. -/
def buildCurrentDemandData (service : ServiceV20) : Program ρ RequestMessage := do
  let world ← get
  let params ← dcChargeLoopParams service world.session.controlMode
  let header ← messageHeader
  let displayParameters ← ask .getDisplayParams EVController.getDisplayParams
  let evPresentVoltage ← ask .getPresentVoltage EVController.getPresentVoltage
  match params with
  | some params =>
      return ⟨header, .dcChargeLoopReq ⟨some displayParameters, false, evPresentVoltage, params⟩⟩
  | none => throw .validationError

/-- The charge loop of the energy service. For another service, no message is prepared. -/
def PowerDelivery.enterChargeLoop (selected : SelectedEnergyService) : Program ρ PUnit := do
  if selected.service ∈ [.ac, .acBpt] then
    requestAcChargeLoop selected.service
  else if selected.service ∈ [.dc, .dcBpt] then do
    let req ← buildCurrentDemandData selected.service
    prepare (some (.state .dcChargeLoop)) req Timeouts.dcChargeLoopReq
  else
    pure ⟨⟩

def PowerDelivery.stop (selected : Option SelectedEnergyService)
    (chargingSession : ChargingSession) : Program ρ PUnit := do
  ask (.enableCharging false) (EVController.enableCharging false)
  let selected ← required selected
  if selected.service ∈ [.dc, .dcBpt] then do
    let header ← messageHeader
    prepare (some (.state .dcWeldingDetection)) ⟨header, .dcWeldingDetectionReq ⟨.ongoing⟩⟩
      Timeouts.dcWeldingDetectionReq
  else
    requestSessionStop chargingSession

def PowerDelivery.onPowerDeliveryRes : Program ρ PUnit := do
  let world ← get
  if world.session.evProcessing = .ongoing then do
    let req ← buildPowerDeliveryReq
    prepare (some (.state .powerDelivery)) req Timeouts.powerDeliveryReq
  else
    match world.session.chargingSessionStopV20 with
    | some .serviceRenegotiation =>
        PowerDelivery.stop world.session.selectedEnergyService .serviceRenegotiation
    | some .terminate => PowerDelivery.stop world.session.selectedEnergyService .terminate
    | _ => do
        let selected ← required world.session.selectedEnergyService
        PowerDelivery.enterChargeLoop selected

/-- `PowerDelivery.process_message`. -/
def PowerDelivery.processMessage (message : V2GMessage) : Program ρ PUnit := do
  match ← checkMsg message fun res =>
      match res.response with
      | .powerDeliveryRes => some ()
      | _ => none with
  | some _ => PowerDelivery.onPowerDeliveryRes
  | none => pure ⟨⟩

/-- The stop action that a reason of the charging session stands for. -/
def stopAction : ChargingSession → SessionStopAction
  | .pause => .pause
  | .terminate => .terminate
  | .serviceRenegotiation => .terminate

/-- After a renegotiation the next state is `ServiceDiscovery`, for which no message is
prepared. -/
def SessionStop.onSessionStopRes : Program ρ PUnit := do
  let world ← get
  let chargingSession ← required world.session.chargingSessionStopV20
  updateSession fun session =>
    { session with
      stopReason := some { successful := true, stopAction := stopAction chargingSession } }
  if world.session.serviceRenegotiationSupported ∧ world.session.renegotiationRequested then do
    updateSession fun session => { session with renegotiationRequested := false }
    setNextState (some (.state .serviceDiscovery))
  else
    setNextState (some .terminate)

/-- `SessionStop.process_message`. -/
def SessionStop.processMessage (message : V2GMessage) : Program ρ PUnit := do
  match ← checkMsg message fun res =>
      match res.response with
      | .sessionStopRes => some ()
      | _ => none with
  | some _ => SessionStop.onSessionStopRes
  | none => pure ⟨⟩

/-- `stop_v20_charging`. -/
def stopV20Charging (renegotiateRequested : Bool) : Program ρ PUnit := do
  let header ← messageHeader
  prepare (some (.state .powerDelivery))
    ⟨header, .powerDeliveryReq ⟨.finished, .stop, none, none, fun _ starts => absurd rfl starts⟩⟩
    Timeouts.powerDeliveryReq
  updateSession fun session =>
    { session with
      renegotiationRequested := session.renegotiationRequested || renegotiateRequested
      chargingSessionStopV20 :=
        some (if renegotiateRequested then .serviceRenegotiation else .terminate) }

/-- What both charge loops do first: a notification of the EVSE stops charging, and so does
the controller. Otherwise `goOn` is done after the delay, which may fail. -/
def chargeLoop (evseStatus : Option EVSEStatus) (goOn : Program ρ PUnit) : Program ρ PUnit := do
  match evseStatus with
  | some status =>
      match status.evseNotification with
      | .serviceRenegotiation => stopV20Charging true
      | .terminate => stopV20Charging false
      | _ => throw .notImplementedError
  | none => do
      let continues ← ask .continueCharging EVController.continueCharging
      if continues then do
        tryCatch (ask .chargeLoopDelay EVController.chargeLoopDelay) (fun _ => pure ⟨⟩)
        goOn
      else
        stopV20Charging false

/-! ## Alternating current -/

def ACChargeParameterDiscovery.onACChargeParameterDiscoveryRes : Program ρ PUnit :=
  exchangeSchedules

/-- `ACChargeParameterDiscovery.process_message`. -/
def ACChargeParameterDiscovery.processMessage (message : V2GMessage) : Program ρ PUnit := do
  match ← checkMsg message fun res =>
      match res.response with
      | .acChargeParameterDiscoveryRes => some ()
      | _ => none with
  | some _ => ACChargeParameterDiscovery.onACChargeParameterDiscoveryRes
  | none => pure ⟨⟩

/-- For a service without alternating current, no message is prepared. -/
def ACChargeLoop.onACChargeLoopRes (evseStatus : Option EVSEStatus) : Program ρ PUnit :=
  chargeLoop evseStatus do
    let world ← get
    let selected ← required world.session.selectedEnergyService
    if selected.service ∈ [.ac, .acBpt] then requestAcChargeLoop selected.service else pure ⟨⟩

/-- `ACChargeLoop.process_message`. -/
def ACChargeLoop.processMessage (message : V2GMessage) : Program ρ PUnit := do
  match ← checkMsg message fun res =>
      match res.response with
      | .acChargeLoopRes evseStatus => some evseStatus
      | _ => none with
  | some evseStatus => ACChargeLoop.onACChargeLoopRes evseStatus
  | none => pure ⟨⟩

/-! ## Direct current -/

def DCChargeParameterDiscovery.onDCChargeParameterDiscoveryRes
    (res : DCChargeParameterDiscoveryRes) : Program ρ PUnit := do
  ask .updateSeccLimits
    (EVController.updateSeccLimits res.common.evseMaxChargeCurrent.getDecimalValue
      res.common.evseMaxVoltage.getDecimalValue res.common.evseMaxChargePower.getDecimalValue)
  exchangeSchedules

/-- `DCChargeParameterDiscovery.process_message`. -/
def DCChargeParameterDiscovery.processMessage (message : V2GMessage) : Program ρ PUnit := do
  match ← checkMsg message fun res =>
      match res.response with
      | .dcChargeParameterDiscoveryRes res => some res
      | _ => none with
  | some res => DCChargeParameterDiscovery.onDCChargeParameterDiscoveryRes res
  | none => pure ⟨⟩

/-- `build_pre_charge_message` of `DCCableCheck`. -/
def DCCableCheck.buildPreChargeMessage : Program ρ RequestMessage := do
  let presentVoltage ← ask .getPresentVoltage EVController.getPresentVoltage
  let header ← messageHeader
  let targetVoltage ← ask .getTargetVoltage EVController.getTargetVoltage
  return ⟨header, .dcPreChargeReq ⟨.ongoing, presentVoltage, targetVoltage⟩⟩

def DCCableCheck.onDCCableCheckRes (answers : Answers) (evseProcessing : Processing) :
    Program ρ PUnit := do
  if evseProcessing = .finished then do
    updateSession fun session => { session with ongoingTimer := -1 }
    let req ← DCCableCheck.buildPreChargeMessage
    prepare (some (.state .dcPreCharge)) req Timeouts.dcPreChargeReq
  else do
    match ← elapsedTime answers Timeouts.v2gEvccCableCheckTimeout with
    | none => pure ⟨⟩
    | some _ => do
        let header ← messageHeader
        -- the next response is for the same object
        prepare none ⟨header, .dcCableCheckReq⟩ Timeouts.dcCableCheckReq

/-- `DCCableCheck.process_message`. -/
def DCCableCheck.processMessage (answers : Answers) (message : V2GMessage) :
    Program ρ PUnit := do
  match ← checkMsg message fun res =>
      match res.response with
      | .dcCableCheckRes evseProcessing => some evseProcessing
      | _ => none with
  | some evseProcessing => DCCableCheck.onDCCableCheckRes answers evseProcessing
  | none => pure ⟨⟩

/-- `build_pre_charge_message` of `DCPreCharge`, which asks again whether the battery is
pre-charged. -/
def DCPreCharge.buildPreChargeMessage (evseVoltage : RationalNumber) :
    Program ρ RequestMessage := do
  let presentVoltage ← ask .getPresentVoltage EVController.getPresentVoltage
  let isPrecharged ← ask .isPrecharged (EVController.isPrecharged evseVoltage)
  let processing : Processing := if isPrecharged then .finished else .ongoing
  let header ← messageHeader
  let targetVoltage ← ask .getTargetVoltage EVController.getTargetVoltage
  return ⟨header, .dcPreChargeReq ⟨processing, presentVoltage, targetVoltage⟩⟩

def DCPreCharge.onDCPreChargeRes (preChargeFinishedMessageBuiltOnce : Bool)
    (evsePresentVoltage : RationalNumber) : Program ρ PUnit := do
  let isPrecharged ← ask .isPrecharged (EVController.isPrecharged evsePresentVoltage)
  if isPrecharged && preChargeFinishedMessageBuiltOnce then do
    let req ← buildPowerDeliveryReq
    prepare (some (.state .powerDelivery)) req Timeouts.powerDeliveryReq
  else do
    let req ← DCPreCharge.buildPreChargeMessage evsePresentVoltage
    setOwn (.dcPreCharge true)
    prepare none req Timeouts.dcPreChargeReq

/-- `DCPreCharge.process_message`. -/
def DCPreCharge.processMessage (message : V2GMessage) (builtOnce : Bool) : Program ρ PUnit := do
  match ← checkMsg message fun res =>
      match res.response with
      | .dcPreChargeRes evsePresentVoltage => some evsePresentVoltage
      | _ => none with
  | some evsePresentVoltage => DCPreCharge.onDCPreChargeRes builtOnce evsePresentVoltage
  | none => pure ⟨⟩

def DCChargeLoop.onDCChargeLoopRes (evseStatus : Option EVSEStatus) : Program ρ PUnit :=
  chargeLoop evseStatus do
    let world ← get
    let selected ← required world.session.selectedEnergyService
    let req ← buildCurrentDemandData selected.service
    prepare none req Timeouts.dcChargeLoopReq

/-- `DCChargeLoop.process_message`. -/
def DCChargeLoop.processMessage (message : V2GMessage) : Program ρ PUnit := do
  match ← checkMsg message fun res =>
      match res.response with
      | .dcChargeLoopRes evseStatus _ => some evseStatus
      | _ => none with
  | some evseStatus => DCChargeLoop.onDCChargeLoopRes evseStatus
  | none => pure ⟨⟩

/-- The timer of `DCWeldingDetection`, started when it has been reset. Whether the state may
go on. -/
def DCWeldingDetection.withinTime (answers : Answers) : Program ρ Bool := do
  let world ← get
  if world.session.ongoingTimer > 0 then
    if answers.now - world.session.ongoingTimer > Timeouts.v2gEvccOngoingTimeout then do
      stopStateMachine Session.stopped
      return false
    else
      return true
  else if world.session.ongoingTimer = -1 then do
    updateSession fun session => { session with ongoingTimer := answers.now }
    return true
  else
    return true

/-- `DCWeldingDetection.process_message`, which does not look at the message. -/
def DCWeldingDetection.processMessage (answers : Answers) (weldingDetectionComplete : Bool) :
    Program ρ PUnit := do
  if ← DCWeldingDetection.withinTime answers then
    if weldingDetectionComplete then
      requestSessionStop .terminate
    else do
      let finished ← ask .weldingDetectionHasFinished EVController.weldingDetectionHasFinished
      setOwn (.dcWeldingDetection finished)
      let header ← messageHeader
      prepare none
        ⟨header, .dcWeldingDetectionReq ⟨if finished then .finished else .ongoing⟩⟩
        Timeouts.dcWeldingDetectionReq
  else
    pure ⟨⟩

/-! ## All states -/

/-- `process_message` of the current state. -/
def processMessage (answers : Answers) (message : V2GMessage) : Program ρ PUnit := do
  let world ← get
  match world.currentState.own with
  | .sessionSetup => SessionSetup.processMessage message
  | .authorizationSetup => AuthorizationSetup.processMessage answers message
  | .certificateInstallation => CertificateInstallation.processMessage
  | .authorization => Authorization.processMessage answers message
  | .serviceDiscovery => ServiceDiscovery.processMessage message
  | .serviceDetail => ServiceDetail.processMessage message
  | .serviceSelection => ServiceSelection.processMessage message
  | .scheduleExchange => ScheduleExchange.processMessage message
  | .powerDelivery => PowerDelivery.processMessage message
  | .sessionStop => SessionStop.processMessage message
  | .acChargeParameterDiscovery => ACChargeParameterDiscovery.processMessage message
  | .acChargeLoop => ACChargeLoop.processMessage message
  | .dcChargeParameterDiscovery => DCChargeParameterDiscovery.processMessage message
  | .dcCableCheck => DCCableCheck.processMessage answers message
  | .dcPreCharge builtOnce => DCPreCharge.processMessage message builtOnce
  | .dcChargeLoop => DCChargeLoop.processMessage message
  | .dcWeldingDetection complete => DCWeldingDetection.processMessage answers complete

/-- `EVCCCommunicationSession`, once ISO 15118-20 has been agreed on. -/
abbrev machine (ρ : Type) [EVController ρ] :
    SessionStateMachine (Received V2GMessage Answers) Own StateName RequestMessage (World ρ) :=
  Evcc.machine StateName.new processMessage

end Iso15118.Evcc.V20
