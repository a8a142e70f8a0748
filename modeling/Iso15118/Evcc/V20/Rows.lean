import Iso15118.Evcc.V20.States

/-!
# What the ISO 15118-20 states of the EVCC do

A table of what a state does with a message: which variables it changes, where it goes and
what it sends. The methods of the states keep to it, whatever the controller answers.
-/

namespace Iso15118.Evcc.V20

open Effect
open Iso15118.Shared
open Iso15118.Shared.V20

/-- What a state has done with a message. Without a request, none has been prepared. -/
structure Turn where
  session : Session
  own : Own
  nextState : Option (NextState StateName)
  request : Option Request

/-- The entries for the offered energy services that are requested. -/
def matchedEnergyServices (offered : List Service) (reqEnergyServices : List ServiceV20) :
    List MatchedService :=
  offered.flatMap fun energyService =>
    (reqEnergyServices.filter fun requested => requested.id = energyService.serviceId).map
      fun requested => ⟨requested, true, energyService.freeService, []⟩

/-- The session with entries appended whose details are to be requested. -/
def Session.matching (session : Session) (services : List MatchedService) : Session :=
  { session with
    matchedServicesV20 := session.matchedServicesV20 ++ services
    serviceDetailsToRequest :=
      session.serviceDetailsToRequest ++ services.map (·.service.id) }

@[simp]
theorem Session.matching_nil (session : Session) : session.matching [] = session := by
  simp [matching]

theorem Session.matching_matching (session : Session) (services others : List MatchedService) :
    (session.matching services).matching others = session.matching (services ++ others) := by
  simp [matching]

theorem matchedEnergyServices_cons (energyService : Service) (offered : List Service)
    (reqEnergyServices : List ServiceV20) :
    matchedEnergyServices (energyService :: offered) reqEnergyServices =
      matchedEnergyServices [energyService] reqEnergyServices ++
        matchedEnergyServices offered reqEnergyServices := by
  simp [matchedEnergyServices]

/-- The entry for a value-added service that the enumeration knows. -/
def matchedVas (vasService : Service) : Option MatchedService :=
  (ServiceV20.getById vasService.serviceId).map fun service =>
    ⟨service, false, vasService.freeService, []⟩

/-- What is known of a controller: the exceptions that it raises, whether its answers fit the
messages that they are for, and how its answer to the schedules of the SECC goes with the
pause that they ask for. -/
structure Contract where
  raised : PyError → Prop := fun _ => True
  fits : Prop := False
  schedules : Option Bool → Option EVPowerProfile × ChargeProgress → Prop := fun _ _ => True

section

variable (contract : Contract)

/-- The table. -/
inductive Row : Own → Response → Session → Turn → Prop
  | sessionSetup (evseId sessionId : String) (session : Session)
      (valid : ValidSessionId sessionId) :
      Row .sessionSetup (.sessionSetupRes evseId) session
        { session := { session with sessionId := sessionId }
          own := .sessionSetup
          nextState := some (.state .authorizationSetup)
          request := some .authorizationSetupReq }
  | installCertificate (res : AuthorizationSetupRes) (session : Session) :
      Row .authorizationSetup (.authorizationSetupRes res) session
        { session := session
          own := .authorizationSetup
          nextState := some (.state .certificateInstallation)
          request := some .certificateInstallationReq }
  | authorize (res : AuthorizationSetupRes) (session : Session) (header : MessageHeader)
      (req : AuthorizationReq) :
      Row .authorizationSetup (.authorizationSetupRes res) session
        { session :=
            { session with authorizationReqMessage := some ⟨header, .authorizationReq req⟩ }
          own := .authorizationSetup
          nextState := some (.state .authorization)
          request := some (.authorizationReq req) }
  | authorized (session : Session) :
      Row .authorization (.authorizationRes .finished) session
        { session := { session with ongoingTimer := -1 }
          own := .authorization
          nextState := some (.state .serviceDiscovery)
          request := some (.serviceDiscoveryReq ⟨none⟩) }
  | repeatAuthorization (evseProcessing : Processing) (session : Session) (timer : ℚ)
      (cached : RequestMessage) (ongoing : evseProcessing ≠ .finished)
      (caches : session.authorizationReqMessage = some cached) :
      Row .authorization (.authorizationRes evseProcessing) session
        { session := { session with ongoingTimer := timer }
          own := .authorization
          nextState := some (.state .authorization)
          request := some cached.request }
  | authorizationTimeout (evseProcessing : Processing) (session : Session)
      (ongoing : evseProcessing ≠ .finished) :
      Row .authorization (.authorizationRes evseProcessing) session
        { session := session.stopped
          own := .authorization
          nextState := some .terminate
          request := none }
  | noMatch (res : ServiceDiscoveryRes) (session : Session)
      (reqEnergyServices : List ServiceV20)
      (empty : session.matchedServicesV20 ++
        matchedEnergyServices res.energyServiceList.services reqEnergyServices = []) :
      Row .serviceDiscovery (.serviceDiscoveryRes res) session
        { session :=
            { session with
              serviceRenegotiationSupported := res.serviceRenegotiationSupported
              chargingSessionStopV20 := some .terminate }
          own := .serviceDiscovery
          nextState := some (.state .sessionStop)
          request := some (.sessionStopReq ⟨.terminate⟩) }
  | serviceDiscovery (res : ServiceDiscoveryRes) (session : Session)
      (reqEnergyServices : List ServiceV20) (vas : List MatchedService) (serviceId : Int)
      (rest : List Int)
      (known : ((res.vasList.map ServiceList.services).getD []).mapM matchedVas = some vas)
      (details : session.serviceDetailsToRequest ++
        (matchedEnergyServices res.energyServiceList.services reqEnergyServices).map
          (·.service.id) = rest ++ [serviceId]) :
      Row .serviceDiscovery (.serviceDiscoveryRes res) session
        { session :=
            { session with
              serviceRenegotiationSupported := res.serviceRenegotiationSupported
              matchedServicesV20 := session.matchedServicesV20 ++
                matchedEnergyServices res.energyServiceList.services reqEnergyServices ++ vas
              serviceDetailsToRequest := rest }
          own := .serviceDiscovery
          nextState := some (.state .serviceDetail)
          request := some (.serviceDetailReq ⟨serviceId⟩) }
  | serviceDetail (res : ServiceDetailRes) (session : Session) (serviceId : Int)
      (rest : List Int) (details : session.serviceDetailsToRequest = rest ++ [serviceId]) :
      Row .serviceDetail (.serviceDetailRes res) session
        { session :=
            { session with
              matchedServicesV20 := session.matchedServicesV20.map (storeParameterSets res)
              serviceDetailsToRequest := rest }
          own := .serviceDetail
          nextState := some (.state .serviceDetail)
          request := some (.serviceDetailReq ⟨serviceId⟩) }
  | noControlMode (res : ServiceDetailRes) (session : Session)
      (selected : SelectedEnergyService) (controlMode : Option ControlMode)
      (details : session.serviceDetailsToRequest = [])
      (missing : ∀ param ∈ selected.parameterSet.parameters, param.name ≠ "ControlMode") :
      Row .serviceDetail (.serviceDetailRes res) session
        { session :=
            { session with
              matchedServicesV20 := session.matchedServicesV20.map (storeParameterSets res)
              selectedEnergyService := some selected
              controlMode := controlMode }
          own := .serviceDetail
          nextState := some (.state .sessionStop)
          request := some (.sessionStopReq ⟨.terminate⟩) }
  | serviceSelection (res : ServiceDetailRes) (session : Session)
      (selected : SelectedEnergyService) (controlMode : Option ControlMode)
      (vas : List SelectedVAS) (details : session.serviceDetailsToRequest = [])
      (set : controlMode.isSome = true) :
      Row .serviceDetail (.serviceDetailRes res) session
        { session :=
            { session with
              matchedServicesV20 := session.matchedServicesV20.map (storeParameterSets res)
              selectedEnergyService := some selected
              controlMode := controlMode
              selectedVasListV20 := some vas }
          own := .serviceDetail
          nextState := some (.state .serviceSelection)
          request := some (.serviceSelectionReq
            ⟨⟨selected.service.id, selected.parameterSet.id⟩,
              if (vas.map selectedVas).isEmpty then none else some (vas.map selectedVas)⟩) }
  | acChargeParameters (session : Session) (selected : SelectedEnergyService)
      (req : ACChargeParameterDiscoveryReq)
      (selects : session.selectedEnergyService = some selected)
      (ac : selected.service ∈ [.ac, .acBpt]) :
      Row .serviceSelection .serviceSelectionRes session
        { session := { session with selectedChargingTypeIsAc := true }
          own := .serviceSelection
          nextState := some (.state .acChargeParameterDiscovery)
          request := some (.acChargeParameterDiscoveryReq req) }
  | dcChargeParameters (session : Session) (selected : SelectedEnergyService)
      (req : DCChargeParameterDiscoveryReq)
      (selects : session.selectedEnergyService = some selected)
      (dc : selected.service ∈ [.dc, .dcBpt]) :
      Row .serviceSelection .serviceSelectionRes session
        { session := { session with selectedChargingTypeIsAc := false }
          own := .serviceSelection
          nextState := some (.state .dcChargeParameterDiscovery)
          request := some (.dcChargeParameterDiscoveryReq req) }
  | otherEnergyService (session : Session) (selected : SelectedEnergyService)
      (selects : session.selectedEnergyService = some selected)
      (other : selected.service ∉ [.ac, .acBpt, .dc, .dcBpt]) :
      Row .serviceSelection .serviceSelectionRes session
        { session := session, own := .serviceSelection, nextState := none, request := none }
  | acExchangeSchedules (session : Session) (header : MessageHeader)
      (req : ScheduleExchangeReq) :
      Row .acChargeParameterDiscovery .acChargeParameterDiscoveryRes session
        { session :=
            { session with
              ongoingScheduleExchangeReq := some ⟨header, .scheduleExchangeReq req⟩ }
          own := .acChargeParameterDiscovery
          nextState := some (.state .scheduleExchange)
          request := some (.scheduleExchangeReq req) }
  | dcExchangeSchedules (res : DCChargeParameterDiscoveryRes) (session : Session)
      (header : MessageHeader) (req : ScheduleExchangeReq) :
      Row .dcChargeParameterDiscovery (.dcChargeParameterDiscoveryRes res) session
        { session :=
            { session with
              ongoingScheduleExchangeReq := some ⟨header, .scheduleExchangeReq req⟩ }
          own := .dcChargeParameterDiscovery
          nextState := some (.state .scheduleExchange)
          request := some (.scheduleExchangeReq req) }
  | repeatScheduleExchange (res : ScheduleExchangeRes) (session : Session)
      (ongoing : res.evseProcessing = .ongoing) :
      Row .scheduleExchange (.scheduleExchangeRes res) session
        { session := session
          own := .scheduleExchange
          nextState := some (.state .scheduleExchange)
          request := session.ongoingScheduleExchangeReq.map RequestMessage.request }
  | acSchedules (res : ScheduleExchangeRes) (session : Session) (profile : Option EVPowerProfile)
      (req : PowerDeliveryReq) (finished : res.evseProcessing ≠ .ongoing)
      (ac : session.selectedChargingTypeIsAc = true)
      (answered : contract.schedules res.goToPause (profile, req.chargeProgress))
      (processing : req.evProcessing = processingOf profile) :
      Row .scheduleExchange (.scheduleExchangeRes res) session
        { session :=
            { session with
              scheduleExchangeRes := some res
              evProcessing := if profile.isSome then session.evProcessing else .ongoing }
          own := .scheduleExchange
          nextState := some (.state .powerDelivery)
          request := some (.powerDeliveryReq req) }
  | dcSchedules (res : ScheduleExchangeRes) (session : Session) (profile : Option EVPowerProfile)
      (finished : res.evseProcessing ≠ .ongoing)
      (dc : session.selectedChargingTypeIsAc = false) :
      Row .scheduleExchange (.scheduleExchangeRes res) session
        { session :=
            { session with
              scheduleExchangeRes := some res
              evProcessing := if profile.isSome then session.evProcessing else .ongoing }
          own := .scheduleExchange
          nextState := some (.state .dcCableCheck)
          request := some .dcCableCheckReq }
  | repeatPowerDelivery (session : Session) (res : ScheduleExchangeRes)
      (profile : Option EVPowerProfile) (req : PowerDeliveryReq)
      (processes : session.evProcessing = .ongoing)
      (exchanged : session.scheduleExchangeRes = some res)
      (answered : contract.schedules res.goToPause (profile, req.chargeProgress))
      (processing : req.evProcessing = processingOf profile) :
      Row .powerDelivery .powerDeliveryRes session
        { session := { session with evProcessing := processingOf profile }
          own := .powerDelivery
          nextState := some (.state .powerDelivery)
          request := some (.powerDeliveryReq req) }
  | detectWelding (session : Session) (selected : SelectedEnergyService)
      (chargingSession : ChargingSession)
      (processed : session.evProcessing ≠ .ongoing)
      (stops : session.chargingSessionStopV20 = some chargingSession)
      (reason : chargingSession ≠ .pause)
      (selects : session.selectedEnergyService = some selected)
      (dc : selected.service ∈ [.dc, .dcBpt]) :
      Row .powerDelivery .powerDeliveryRes session
        { session := session
          own := .powerDelivery
          nextState := some (.state .dcWeldingDetection)
          request := some (.dcWeldingDetectionReq ⟨.ongoing⟩) }
  | stopSession (session : Session) (selected : SelectedEnergyService)
      (chargingSession : ChargingSession)
      (processed : session.evProcessing ≠ .ongoing)
      (stops : session.chargingSessionStopV20 = some chargingSession)
      (reason : chargingSession ≠ .pause)
      (selects : session.selectedEnergyService = some selected)
      (other : selected.service ∉ [.dc, .dcBpt]) :
      Row .powerDelivery .powerDeliveryRes session
        { session := session
          own := .powerDelivery
          nextState := some (.state .sessionStop)
          request := some (.sessionStopReq ⟨chargingSession⟩) }
  | acEnterChargeLoop (session : Session) (selected : SelectedEnergyService)
      (req : ACChargeLoopReq)
      (processed : session.evProcessing ≠ .ongoing)
      (stays : session.chargingSessionStopV20 ∈ [none, some .pause])
      (selects : session.selectedEnergyService = some selected)
      (ac : selected.service ∈ [.ac, .acBpt]) :
      Row .powerDelivery .powerDeliveryRes session
        { session := session
          own := .powerDelivery
          nextState := some (.state .acChargeLoop)
          request := some (.acChargeLoopReq req) }
  | dcEnterChargeLoop (session : Session) (selected : SelectedEnergyService)
      (req : DCChargeLoopReq)
      (processed : session.evProcessing ≠ .ongoing)
      (stays : session.chargingSessionStopV20 ∈ [none, some .pause])
      (selects : session.selectedEnergyService = some selected)
      (dc : selected.service ∈ [.dc, .dcBpt]) :
      Row .powerDelivery .powerDeliveryRes session
        { session := session
          own := .powerDelivery
          nextState := some (.state .dcChargeLoop)
          request := some (.dcChargeLoopReq req) }
  | noChargeLoop (session : Session) (selected : SelectedEnergyService)
      (selects : session.selectedEnergyService = some selected)
      (other : selected.service ∉ [.ac, .acBpt, .dc, .dcBpt]) :
      Row .powerDelivery .powerDeliveryRes session
        { session := session, own := .powerDelivery, nextState := none, request := none }
  | renegotiate (session : Session) (chargingSession : ChargingSession)
      (stops : session.chargingSessionStopV20 = some chargingSession)
      (supported : session.serviceRenegotiationSupported = true)
      (requested : session.renegotiationRequested = true) :
      Row .sessionStop .sessionStopRes session
        { session :=
            { session with
              stopReason :=
                some { successful := true, stopAction := stopAction chargingSession }
              renegotiationRequested := false }
          own := .sessionStop
          nextState := some (.state .serviceDiscovery)
          request := none }
  | terminate (session : Session) (chargingSession : ChargingSession)
      (stops : session.chargingSessionStopV20 = some chargingSession)
      (ends : ¬(session.serviceRenegotiationSupported = true ∧
        session.renegotiationRequested = true)) :
      Row .sessionStop .sessionStopRes session
        { session :=
            { session with
              stopReason :=
                some { successful := true, stopAction := stopAction chargingSession } }
          own := .sessionStop
          nextState := some .terminate
          request := none }
  | acStop (evseStatus : Option EVSEStatus) (session : Session) (renegotiation : Bool)
      (reason : renegotiation = true ↔
        evseStatus.map EVSEStatus.evseNotification = some .serviceRenegotiation) :
      Row .acChargeLoop (.acChargeLoopRes evseStatus) session
        { session :=
            { session with
              renegotiationRequested := session.renegotiationRequested || renegotiation
              chargingSessionStopV20 :=
                some (if renegotiation then .serviceRenegotiation else .terminate) }
          own := .acChargeLoop
          nextState := some (.state .powerDelivery)
          request := some (.powerDeliveryReq
            ⟨.finished, .stop, none, none, fun _ starts => absurd rfl starts⟩) }
  | acChargeLoop (session : Session) (selected : SelectedEnergyService) (req : ACChargeLoopReq)
      (selects : session.selectedEnergyService = some selected)
      (ac : selected.service ∈ [.ac, .acBpt]) :
      Row .acChargeLoop (.acChargeLoopRes none) session
        { session := session
          own := .acChargeLoop
          nextState := some (.state .acChargeLoop)
          request := some (.acChargeLoopReq req) }
  | noAcChargeLoop (session : Session) (selected : SelectedEnergyService)
      (selects : session.selectedEnergyService = some selected)
      (other : selected.service ∉ [.ac, .acBpt]) :
      Row .acChargeLoop (.acChargeLoopRes none) session
        { session := session, own := .acChargeLoop, nextState := none, request := none }
  | dcStop (evseStatus : Option EVSEStatus) (params : DCChargeLoopResParams) (session : Session)
      (renegotiation : Bool)
      (reason : renegotiation = true ↔
        evseStatus.map EVSEStatus.evseNotification = some .serviceRenegotiation) :
      Row .dcChargeLoop (.dcChargeLoopRes evseStatus params) session
        { session :=
            { session with
              renegotiationRequested := session.renegotiationRequested || renegotiation
              chargingSessionStopV20 :=
                some (if renegotiation then .serviceRenegotiation else .terminate) }
          own := .dcChargeLoop
          nextState := some (.state .powerDelivery)
          request := some (.powerDeliveryReq
            ⟨.finished, .stop, none, none, fun _ starts => absurd rfl starts⟩) }
  | dcChargeLoop (params : DCChargeLoopResParams) (session : Session) (req : DCChargeLoopReq) :
      Row .dcChargeLoop (.dcChargeLoopRes none params) session
        { session := session
          own := .dcChargeLoop
          nextState := none
          request := some (.dcChargeLoopReq req) }
  | cableChecked (session : Session) (req : DCPreChargeReq)
      (processing : req.evProcessing = .ongoing) :
      Row .dcCableCheck (.dcCableCheckRes .finished) session
        { session := { session with ongoingTimer := -1 }
          own := .dcCableCheck
          nextState := some (.state .dcPreCharge)
          request := some (.dcPreChargeReq req) }
  | repeatCableCheck (evseProcessing : Processing) (session : Session) (timer : ℚ)
      (ongoing : evseProcessing ≠ .finished) :
      Row .dcCableCheck (.dcCableCheckRes evseProcessing) session
        { session := { session with ongoingTimer := timer }
          own := .dcCableCheck
          nextState := none
          request := some .dcCableCheckReq }
  | cableCheckTimeout (evseProcessing : Processing) (session : Session)
      (ongoing : evseProcessing ≠ .finished) :
      Row .dcCableCheck (.dcCableCheckRes evseProcessing) session
        { session := session.stopped
          own := .dcCableCheck
          nextState := some .terminate
          request := none }
  | preCharged (evsePresentVoltage : RationalNumber) (session : Session)
      (res : ScheduleExchangeRes) (profile : Option EVPowerProfile) (req : PowerDeliveryReq)
      (exchanged : session.scheduleExchangeRes = some res)
      (answered : contract.schedules res.goToPause (profile, req.chargeProgress))
      (processing : req.evProcessing = processingOf profile) :
      Row (.dcPreCharge true) (.dcPreChargeRes evsePresentVoltage) session
        { session := { session with evProcessing := processingOf profile }
          own := .dcPreCharge true
          nextState := some (.state .powerDelivery)
          request := some (.powerDeliveryReq req) }
  | preCharge (builtOnce : Bool) (evsePresentVoltage : RationalNumber) (session : Session)
      (req : DCPreChargeReq) :
      Row (.dcPreCharge builtOnce) (.dcPreChargeRes evsePresentVoltage) session
        { session := session
          own := .dcPreCharge true
          nextState := none
          request := some (.dcPreChargeReq req) }

/-- States in which an energy service has been selected. -/
def AfterSelection : Own → Prop
  | .serviceSelection | .scheduleExchange | .powerDelivery | .acChargeParameterDiscovery
  | .acChargeLoop | .dcChargeParameterDiscovery | .dcPreCharge _ | .dcChargeLoop => True
  | _ => False

/-- States in which a schedule has been received. -/
def AfterSchedules : Own → Prop
  | .powerDelivery | .dcPreCharge _ => True
  | _ => False

theorem AfterSchedules.afterSelection {own : Own} (scheduled : AfterSchedules own) :
    AfterSelection own := by
  cases own <;> trivial

/-- The other table: the exceptions that a state may raise. -/
inductive Failure (answers : Answers) : Own → Response → Session → PyError → Prop
  | controller (own : Own) (response : Response) (session : Session) (exception : PyError)
      (raised : contract.raised exception) : Failure answers own response session exception
  | unfit (own : Own) (response : Response) (session : Session) (exception : PyError)
      (unfit : ¬contract.fits) : Failure answers own response session exception
  | header (own : Own) (response : Response) (session : Session) (exception : PyError)
      (invalid : checkSessionId session.sessionId = .error exception) :
      Failure answers own response session exception
  | newSessionId (evseId : String) (sessionId : String) (session : Session)
      (exception : PyError) (invalid : checkSessionId sessionId = .error exception) :
      Failure answers .sessionSetup (.sessionSetupRes evseId) session exception
  | installCertificate (res : AuthorizationSetupRes) (session : Session) (exception : PyError)
      (offered : res.certInstallService = true)
      (raised : answers.getCertIssuerSerial = .error exception ∨
        answers.loadOemCertChain = .error exception ∨
        answers.signOemCertChain = .error exception ∧ exception ≠ .privateKeyReadError) :
      Failure answers .authorizationSetup (.authorizationSetupRes res) session exception
  | loadContract (res : AuthorizationSetupRes) (session : Session) (exception : PyError)
      (offered : .pnc ∈ res.authServices)
      (raised : answers.loadContractCertChain = .error exception ∨
        ∃ params, answers.signPncParams params = .error exception ∧
          exception ≠ .privateKeyReadError) :
      Failure answers .authorizationSetup (.authorizationSetupRes res) session exception
  | noPncAsRes (res : AuthorizationSetupRes) (session : Session)
      (offered : .pnc ∈ res.authServices) (missing : res.pncAsRes = none) :
      Failure answers .authorizationSetup (.authorizationSetupRes res) session .attributeError
  | certificateInstallation (response : Response) (session : Session) :
      Failure answers .certificateInstallation response session .notImplementedError
  | noAuthorizationReq (evseProcessing : Processing) (session : Session)
      (ongoing : evseProcessing ≠ .finished)
      (missing : session.authorizationReqMessage = none) :
      Failure answers .authorization (.authorizationRes evseProcessing) session .attributeError
  | unknownVas (res : ServiceDiscoveryRes) (session : Session)
      (unknown : ((res.vasList.map ServiceList.services).getD []).mapM matchedVas = none) :
      Failure answers .serviceDiscovery (.serviceDiscoveryRes res) session .valueError
  | noServiceDetail (res : ServiceDiscoveryRes) (session : Session)
      (matched : session.matchedServicesV20 ≠ [])
      (empty : session.serviceDetailsToRequest = []) :
      Failure answers .serviceDiscovery (.serviceDiscoveryRes res) session .indexError
  | noSelection (own : Own) (response : Response) (session : Session)
      (selected : AfterSelection own) (missing : session.selectedEnergyService = none) :
      Failure answers own response session .attributeError
  | noControlMode (own : Own) (response : Response) (session : Session)
      (selected : AfterSelection own) (missing : session.controlMode = none) :
      Failure answers own response session .validationError
  | noScheduleExchangeRes (own : Own) (response : Response) (session : Session)
      (scheduled : AfterSchedules own) (missing : session.scheduleExchangeRes = none) :
      Failure answers own response session .attributeError
  | noReason (session : Session) (missing : session.chargingSessionStopV20 = none) :
      Failure answers .sessionStop .sessionStopRes session .attributeError
  | acNotification (status : EVSEStatus) (session : Session)
      (other : status.evseNotification ∉ [.serviceRenegotiation, .terminate]) :
      Failure answers .acChargeLoop (.acChargeLoopRes (some status)) session .notImplementedError
  | dcNotification (status : EVSEStatus) (params : DCChargeLoopResParams) (session : Session)
      (other : status.evseNotification ∉ [.serviceRenegotiation, .terminate]) :
      Failure answers .dcChargeLoop (.dcChargeLoopRes (some status) params) session
        .notImplementedError
  | noDcService (params : DCChargeLoopResParams) (session : Session)
      (selected : SelectedEnergyService)
      (selects : session.selectedEnergyService = some selected)
      (other : selected.service ∉ [.dc, .dcBpt]) :
      Failure answers .dcChargeLoop (.dcChargeLoopRes none params) session .validationError

end

/-- What `DCWeldingDetection` does with a message, which it does not look at. -/
inductive WeldingRow : Bool → Session → Turn → Prop
  | timeout (complete : Bool) (session : Session) :
      WeldingRow complete session
        { session := session.stopped
          own := .dcWeldingDetection complete
          nextState := some .terminate
          request := none }
  | complete (session : Session) (timer : ℚ) :
      WeldingRow true session
        { session := { session with ongoingTimer := timer }
          own := .dcWeldingDetection true
          nextState := some (.state .sessionStop)
          request := some (.sessionStopReq ⟨.terminate⟩) }
  | detect (session : Session) (timer : ℚ) (finished : Bool) :
      WeldingRow false session
        { session := { session with ongoingTimer := timer }
          own := .dcWeldingDetection finished
          nextState := none
          request := some
            (.dcWeldingDetectionReq ⟨if finished then .finished else .ongoing⟩) }

/-- The responses that a state is there for. -/
def Expects : Own → Response → Prop
  | .sessionSetup, .sessionSetupRes _ => True
  | .authorizationSetup, .authorizationSetupRes _ => True
  | .certificateInstallation, .certificateInstallationRes => True
  | .authorization, .authorizationRes _ => True
  | .serviceDiscovery, .serviceDiscoveryRes _ => True
  | .serviceDetail, .serviceDetailRes _ => True
  | .serviceSelection, .serviceSelectionRes => True
  | .scheduleExchange, .scheduleExchangeRes _ => True
  | .powerDelivery, .powerDeliveryRes => True
  | .sessionStop, .sessionStopRes => True
  | .acChargeParameterDiscovery, .acChargeParameterDiscoveryRes => True
  | .acChargeLoop, .acChargeLoopRes _ => True
  | .dcChargeParameterDiscovery, .dcChargeParameterDiscoveryRes _ => True
  | .dcCableCheck, .dcCableCheckRes _ => True
  | .dcPreCharge _, .dcPreChargeRes _ => True
  | .dcChargeLoop, .dcChargeLoopRes _ _ => True
  | .dcWeldingDetection _, .dcWeldingDetectionRes _ => True
  | _, _ => False

/-- The state looks into the response, which is not one of failure and has the session id. -/
structure Accepts (own : Own) (res : ResponseMessage) (session : Session) : Prop where
  good : res.responseCode.isFailed = false
  known : Known res session
  expected : Expects own res.response

/-- The variables, the state and the request after a turn. Without a request, the message that
was there stays. -/
structure Turn.Leads {ρ : Type} (turn : Turn) (before after : World ρ) : Prop where
  session : after.session = turn.session
  own : after.currentState.own = turn.own
  nextState : after.currentState.nextState = turn.nextState
  prepares : ∀ request, turn.request = some request →
    ∃ header, after.currentState.nextV2gtpMsg = some ⟨header, request⟩
  silent : turn.request = none →
    after.currentState.nextV2gtpMsg = before.currentState.nextV2gtpMsg

/-- What the current state does with a message. -/
inductive Reacts {ρ : Type} (contract : Contract) (message : V2GMessage)
    (before after : World ρ) : Prop
  | answers (res : ResponseMessage) (turn : Turn) (response : message = .response res)
      (accepts : Accepts before.currentState.own res before.session)
      (row : Row contract before.currentState.own res.response before.session turn)
      (leads : turn.Leads before after)
  | refuses
      (refused : ¬∃ res, message = .response res ∧
        Accepts before.currentState.own res before.session)
      (session : after.session = before.session.stopped)
      (currentState :
        after.currentState = { before.currentState with nextState := some .terminate })
  | detectsWelding (complete : Bool) (turn : Turn)
      (own : before.currentState.own = .dcWeldingDetection complete)
      (row : WeldingRow complete before.session turn) (leads : turn.Leads before after)

/-- The exceptions that the current state may raise for a message. -/
inductive Fails {ρ : Type} (contract : Contract) (answers : Answers) (message : V2GMessage)
    (before : World ρ) (exception : PyError) : Prop
  | response (res : ResponseMessage) (response : message = .response res)
      (accepts : Accepts before.currentState.own res before.session)
      (failure : Failure contract answers before.currentState.own res.response before.session
        exception)
  | certificateInstallation (own : before.currentState.own = .certificateInstallation)
      (notImplemented : exception = .notImplementedError)
  | weldingDetection (complete : Bool)
      (own : before.currentState.own = .dcWeldingDetection complete)
      (raised : contract.raised exception ∨
        checkSessionId before.session.sessionId = .error exception)

/-! ## Controllers -/

/-- The parameters have control modes only that there are. -/
def FitsControlMode (parameters : List Parameter) : Prop :=
  ∀ param ∈ parameters, param.name = "ControlMode" →
    param.intValue = some 1 ∨ param.intValue = some 2

/-- The charge parameters are those of the service, if it has any. -/
def FitsService (service : ServiceV20) (params : ChargeParams) : Prop :=
  service ∈ [.ac, .acBpt, .dc, .dcBpt] → ∃ req, chargeParameterDiscoveryReq service params = .ok req

/-- The profile has entries. -/
def FitsProfile (profile : Option EVPowerProfile) : Prop :=
  ∀ given, profile = some given → given.entryList ≠ []

/-- The controller keeps to a contract. -/
structure Keeps (contract : Contract) (ρ : Type) [EVController ρ] : Prop where
  isCertInstallNeeded :
    Gives contract.raised (EVController.isCertInstallNeeded (ρ := ρ)) fun _ => True
  getPrioritisedEmaids :
    Gives contract.raised (EVController.getPrioritisedEmaids (ρ := ρ)) fun _ => True
  getSupportedEnergyServices :
    Gives contract.raised (EVController.getSupportedEnergyServices (ρ := ρ)) fun _ => True
  selectEnergyServiceV20 (matched : List MatchedService) :
    Gives contract.raised (EVController.selectEnergyServiceV20 (ρ := ρ) matched) fun selected =>
      contract.fits → FitsControlMode selected.parameterSet.parameters
  selectVasServicesV20 (matched : List MatchedService) :
    Gives contract.raised (EVController.selectVasServicesV20 (ρ := ρ) matched) fun vas =>
      contract.fits → vas.isSome = true
  getChargeParamsV20 (selected : SelectedEnergyService) :
    Gives contract.raised (EVController.getChargeParamsV20 (ρ := ρ) selected) fun params =>
      contract.fits → FitsService selected.service params
  updateSeccLimits (maxCurrent maxVoltage maxPower : ℚ) :
    Gives contract.raised
      (EVController.updateSeccLimits (ρ := ρ) maxCurrent maxVoltage maxPower) fun _ => True
  getScheduledSeParams (selected : SelectedEnergyService) :
    Gives contract.raised (EVController.getScheduledSeParams (ρ := ρ) selected) fun _ => True
  getDynamicSeParams (selected : SelectedEnergyService) :
    Gives contract.raised (EVController.getDynamicSeParams (ρ := ρ) selected) fun _ => True
  processScheduledSeParams (scheduledParams : Option ScheduledScheduleExchangeResParams)
    (pause : Option Bool) :
    Gives contract.raised
      (EVController.processScheduledSeParams (ρ := ρ) scheduledParams pause) fun answer =>
      contract.schedules pause answer ∧ (contract.fits → FitsProfile answer.1)
  processDynamicSeParams (dynamicParams : Option DynamicScheduleExchangeResParams)
    (pause : Option Bool) :
    Gives contract.raised
      (EVController.processDynamicSeParams (ρ := ρ) dynamicParams pause) fun answer =>
      contract.schedules pause answer ∧ (contract.fits → FitsProfile answer.1)
  enableCharging (enabled : Bool) :
    Gives contract.raised (EVController.enableCharging (ρ := ρ) enabled) fun _ => True
  getPresentVoltage :
    Gives contract.raised (EVController.getPresentVoltage (ρ := ρ)) fun _ => True
  getTargetVoltage :
    Gives contract.raised (EVController.getTargetVoltage (ρ := ρ)) fun _ => True
  isPrecharged (voltage : RationalNumber) :
    Gives contract.raised (EVController.isPrecharged (ρ := ρ) voltage) fun _ => True
  continueCharging :
    Gives contract.raised (EVController.continueCharging (ρ := ρ)) fun _ => True
  getAcChargeLoopParamsV20 (controlMode : Option ControlMode) (service : ServiceV20) :
    Gives contract.raised
      (EVController.getAcChargeLoopParamsV20 (ρ := ρ) controlMode service) fun params =>
      contract.fits → service ∈ [.ac, .acBpt] →
        ∃ fitting, acChargeLoopParams service controlMode params = .ok fitting
  getScheduledDcChargeLoopParams :
    Gives contract.raised (EVController.getScheduledDcChargeLoopParams (ρ := ρ)) fun _ => True
  getDynamicDcChargeLoopParams :
    Gives contract.raised (EVController.getDynamicDcChargeLoopParams (ρ := ρ)) fun _ => True
  getBptScheduledDcChargeLoopParams :
    Gives contract.raised (EVController.getBptScheduledDcChargeLoopParams (ρ := ρ)) fun _ => True
  getBptDynamicDcChargeLoopParams :
    Gives contract.raised (EVController.getBptDynamicDcChargeLoopParams (ρ := ρ)) fun _ => True
  getDisplayParams :
    Gives contract.raised (EVController.getDisplayParams (ρ := ρ)) fun _ => True
  weldingDetectionHasFinished :
    Gives contract.raised (EVController.weldingDetectionHasFinished (ρ := ρ)) fun _ => True

/-- Of any controller the empty contract is kept. -/
theorem keeps_any (ρ : Type) [EVController ρ] : Keeps {} ρ := by
  constructor
  all_goals
    intros
    exact fun _ => wp_of_forall (fun _ _ => by simp) (fun _ _ => trivial)

end Iso15118.Evcc.V20
