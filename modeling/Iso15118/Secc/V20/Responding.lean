import Iso15118.Secc.V20.Discovery

/-!
# When the ISO 15118-20 SECC responds

For each request what the controller has to answer, and what the request and the session
have to be like, so that the state that answers it does not raise. The failed responses
need a valid session id and no more.
-/

namespace Iso15118.Secc.V20

open Effect
open Iso15118.Shared
open Iso15118.Shared.V20

variable {σ : Type}

section

variable {post : PUnit → World σ → Prop} {world : World σ}

@[simp]
theorem responds_stopStateMachine (message : RequestMessage) (responseCode : ResponseCode) :
    Responds (stopStateMachine (.request message) responseCode) world ↔
      ValidSessionId world.session.sessionId := by
  apply (wp_stopStateMachine message responseCode).trans
  apply (returns_createNextMessage (some .terminate) responseCode _ 0).trans
  simp

/-- The energy service has to have been selected. -/
@[simp]
theorem returns_selectedService {post : ServiceV20 → World σ → Prop} :
    returns selectedService post world ↔
      ∃ selected, world.session.selectedEnergyService = some selected ∧
        post selected.service world := by
  unfold selectedService
  cases present : world.session.selectedEnergyService with
  | none => simp [present]
  | some selected => simp [present]

end

/-! ## Setting up the session -/

/-- The response goes out under the id that the session gets. -/
def SessionSetup.Answerable (answers : Answers) (header : MessageHeader) (session : Session) :
    Prop :=
  answers.getEvseId.isOk = true ∧
    ValidSessionId (if header.sessionId ≠ "00" ∧ header.sessionId = session.sessionId then
      session.sessionId else answers.randomSessionId)

theorem responds_sessionSetup {answers : Answers} {header : MessageHeader} {req : SessionSetupReq}
    {world : World σ} :
    Responds (SessionSetup.onSessionSetupReq answers header req) world ↔
      SessionSetup.Answerable answers header world.session := by
  simp [SessionSetup.onSessionSetupReq, SessionSetup.Answerable, isOk_iff]

/-- An option is offered, and for Plug and Charge the providers are known. -/
def AuthorizationSetup.Answerable (environment : Environment) (answers : Answers) : Prop :=
  ∃ eimAuthorized, answers.isEimAuthorized = .ok eimAuthorized ∧
    (.pnc ∈ AuthorizationSetup.supportedAuthOptions environment eimAuthorized →
      answers.getSupportedProviders.isOk = true) ∧
    AuthorizationSetup.authOptions
      (AuthorizationSetup.supportedAuthOptions environment eimAuthorized) ≠ []

theorem responds_authorizationSetup {environment : Environment} {answers : Answers}
    {world : World σ} :
    Responds (AuthorizationSetup.onAuthorizationSetupReq environment answers) world ↔
      ValidSessionId world.session.sessionId ∧
        AuthorizationSetup.Answerable environment answers := by
  unfold AuthorizationSetup.onAuthorizationSetupReq AuthorizationSetup.Answerable
    AuthorizationSetup.pncAsRes
  cases answers.isEimAuthorized with
  | error exception => simp
  | ok eimAuthorized =>
      by_cases none : AuthorizationSetup.authOptions
          (AuthorizationSetup.supportedAuthOptions environment eimAuthorized) = []
      · by_cases pnc : .pnc ∈ AuthorizationSetup.supportedAuthOptions environment eimAuthorized
        · simp [none, pnc]
        · simp [none, pnc]
      · by_cases pnc : .pnc ∈ AuthorizationSetup.supportedAuthOptions environment eimAuthorized
        · simp [none, pnc, isOk_iff, and_comm]
        · simp [none, pnc]

/-- The signature of a Plug and Charge request can be verified, and unless it is wrong
the authorization is asked for. -/
def Authorization.Answerable (environment : Environment) (answers : Answers)
    (header : MessageHeader) (req : AuthorizationReq) : Prop :=
  match req.pncParams with
  | some pncParams =>
      ∃ verified, environment.verifySignature header.signature pncParams = .ok verified ∧
        (verified = true → answers.isAuthorized.isOk = true)
  | none => answers.isAuthorized.isOk = true

theorem Authorization.responds_respond {answers : Answers} {req : AuthorizationReq}
    {responseCode : ResponseCode} {world : World σ} :
    Responds (Authorization.respond answers req responseCode) world ↔
      ValidSessionId world.session.sessionId ∧ answers.isAuthorized.isOk = true := by
  simp [Authorization.respond, isOk_iff, and_comm]

theorem responds_authorization {environment : Environment} {answers : Answers}
    {message : RequestMessage} {header : MessageHeader} {req : AuthorizationReq}
    {world : World σ} :
    Responds (Authorization.onAuthorizationReq environment answers (.request message) header req)
        world ↔
      ValidSessionId world.session.sessionId ∧
        Authorization.Answerable environment answers header req := by
  unfold Authorization.onAuthorizationReq Authorization.Answerable
  cases req.pncParams with
  | none => simp [Authorization.responds_respond]
  | some pncParams =>
      cases signature : environment.verifySignature header.signature pncParams with
      | error exception => simp [signature]
      | ok verified =>
          cases verified with
          | true => simp [signature, Authorization.responds_respond]
          | false => simp [signature]

/-! ## Services -/

/-- The value-added services that the controller offers are known. -/
def ServiceDiscovery.VasAnswered (answers : Answers) : Prop :=
  ∃ offeredVas, answers.getVasList = .ok offeredVas ∧
    ∀ vasList, offeredVas = some vasList → ∀ service ∈ vasList.services, Known20 service

/-- The controller offers known services and says whether it supports a
renegotiation. -/
def ServiceDiscovery.Answerable (answers : Answers) : Prop :=
  ∃ energyServices, answers.getEnergyServiceList = .ok energyServices ∧
    (∀ service ∈ energyServices.services, Known20 service) ∧
    ServiceDiscovery.VasAnswered answers ∧ answers.serviceRenegotiationSupported.isOk = true

theorem responds_serviceDiscovery [DiagnosticService σ] {answers : Answers} {world : World σ} :
    Responds (ServiceDiscovery.onServiceDiscoveryReq answers) world ↔
      ValidSessionId world.session.sessionId ∧ ServiceDiscovery.Answerable answers := by
  unfold Responds ServiceDiscovery.Answerable ServiceDiscovery.VasAnswered
  apply returns_onServiceDiscoveryReq.trans
  apply and_congr_right
  intro _
  constructor
  · rintro ⟨res, energy, vas, offer, entries, _⟩
    refine ⟨res.energyServiceList, offer.energyServiceList,
      exists_entries_iff.mp ⟨energy, entries.energy⟩, ⟨res.vasList, offer.vasList, ?_⟩,
      isOk_iff.mpr ⟨_, offer.renegotiation⟩⟩
    intro vasList offered
    have known := exists_entries_iff.mp ⟨vas, entries.vas⟩
    rw [offered] at known
    exact known
  · rintro ⟨energyServiceList, energyOffered, energyKnown, ⟨vasList, vasOffered, vasKnown⟩,
      renegotiates⟩
    obtain ⟨renegotiation, renegotiation_eq⟩ := isOk_iff.mp renegotiates
    obtain ⟨energy, energy_eq⟩ := exists_entries_iff.mpr energyKnown
    have known : ∀ service ∈ listed vasList, Known20 service := by
      cases vasList with
      | none => exact nofun
      | some vasList => exact vasKnown vasList rfl
    obtain ⟨vas, vas_eq⟩ := exists_entries_iff.mpr known
    exact ⟨⟨renegotiation, energyServiceList, vasList⟩, energy, vas,
      ⟨energyOffered, vasOffered, renegotiation_eq⟩, ⟨energy_eq, vas_eq⟩, rfl⟩

/-- The controller has parameter sets for the service. -/
def ServiceDetail.Answerable (answers : Answers) (req : ServiceDetailReq) : Prop :=
  ∃ serviceParameterList,
    answers.getServiceParameterList req.serviceId = .ok (some serviceParameterList)

theorem responds_serviceDetail {answers : Answers} {req : ServiceDetailReq} {world : World σ} :
    Responds (ServiceDetail.onServiceDetailReq answers req) world ↔
      ValidSessionId world.session.sessionId ∧ ServiceDetail.Answerable answers req := by
  unfold ServiceDetail.onServiceDetailReq ServiceDetail.Answerable
  rcases answers.getServiceParameterList req.serviceId with exception | _ | parameters
  · simp
  · simp
  · simp

/-- What was selected of the services that were offered has a known control mode. -/
def ServiceSelection.Answerable (req : ServiceSelectionReq) (session : Session) : Prop :=
  selectionError session req = none →
    ∀ offeredService ∈ session.matchedServicesV20, ∀ parameterSet,
      selectedSet req offeredService = some parameterSet →
        ∀ parameter ∈ parameterSet.parameters, KnownControlMode parameter

theorem responds_serviceSelection [DiagnosticService σ] {message : RequestMessage}
    {req : ServiceSelectionReq} {world : World σ} :
    Responds (ServiceSelection.onServiceSelectionReq (.request message) req) world ↔
      ValidSessionId world.session.sessionId ∧
        ServiceSelection.Answerable req world.session := by
  unfold ServiceSelection.onServiceSelectionReq ServiceSelection.Answerable
  rw [Responds, returns_bind]
  apply returns_checkSelectedServices.trans
  cases checked : selectionError world.session req with
  | some responseCode => simp
  | none =>
      simp [ControlModesKnown, foldl_stored_sessionId]
      exact and_comm

/-! ## Stopping -/

theorem responds_sessionStop {answers : Answers} {req : SessionStopReq} {world : World σ} :
    Responds (SessionStop.onSessionStopReq answers req) world ↔
      ValidSessionId world.session.sessionId ∧
        (req.chargingSession = .serviceRenegotiation →
          answers.serviceRenegotiationSupported.isOk = true) := by
  unfold SessionStop.onSessionStopReq SessionStop.renegotiates
  by_cases renegotiates : req.chargingSession = .serviceRenegotiation
  · simp [renegotiates, isOk_iff, and_comm]
  · simp [renegotiates]

theorem responds_dcWeldingDetection {answers : Answers} {world : World σ} :
    Responds (DCWeldingDetection.onDcWeldingDetectionReq answers) world ↔
      ValidSessionId world.session.sessionId ∧ answers.getEvsePresentVoltage.isOk = true := by
  simp [DCWeldingDetection.onDcWeldingDetectionReq, isOk_iff, and_comm]

/-! ## Power delivery -/

namespace PowerDelivery

/-- The contactors open on request. -/
def StopAnswered (answers : Answers) : Prop :=
  (answers.setHlcCharging false).isOk = true ∧ answers.stopCharger.isOk = true ∧
    answers.isContactorOpened.isOk = true

theorem responds_stopCharging {answers : Answers} {message : RequestMessage}
    {responseCode : ResponseCode} {world : World σ} :
    Responds (stopCharging answers (.request message) responseCode) world ↔
      ValidSessionId world.session.sessionId ∧ StopAnswered answers := by
  unfold stopCharging StopAnswered
  by_cases valid : ValidSessionId world.session.sessionId
  · simp [valid, isOk_iff]
  · simp [valid]

/-- In the scheduled control mode the request has a power profile that selects a
schedule, and the contactors close for a schedule that was offered. The service that was
selected says where the session goes. -/
def StartAnswered (answers : Answers) (req : PowerDeliveryReq) (session : Session) : Prop :=
  ∃ valid,
    (if session.controlMode = some .scheduled then
        scheduleOffered req.evPowerProfile session.offeredSchedulesV20 = .ok valid
      else valid = true) ∧
    (valid = true → (answers.setHlcCharging true).isOk = true ∧
      answers.waitForStateCOrD.isOk = true ∧
      ∃ contactorClosed, answers.isContactorClosed = .ok contactorClosed ∧
        if contactorClosed = some true then session.selectedEnergyService.isSome = true
        else (answers.setHlcCharging false).isOk = true)

theorem responds_startCharging {answers : Answers} {message : RequestMessage}
    {req : PowerDeliveryReq} {responseCode : ResponseCode} {world : World σ} :
    Responds (startCharging answers (.request message) req responseCode) world ↔
      ValidSessionId world.session.sessionId ∧ StartAnswered answers req world.session := by
  unfold startCharging scheduleValid StartAnswered
  by_cases valid : ValidSessionId world.session.sessionId
  · by_cases scheduled : world.session.controlMode = some .scheduled
    · cases offered : scheduleOffered req.evPowerProfile world.session.offeredSchedulesV20 with
      | error exception => simp [scheduled, offered]
      | ok schedule =>
          cases schedule with
          | false => simp [scheduled, offered, valid]
          | true =>
              cases selected : world.session.selectedEnergyService <;>
                simp [scheduled, offered, valid, isOk_iff, selected]
    · cases selected : world.session.selectedEnergyService <;>
        simp [scheduled, valid, isOk_iff, selected]
  · by_cases scheduled : world.session.controlMode = some .scheduled
    · simp [scheduled, valid]
    · simp [scheduled, valid]

/-- What the controller has to answer for each value of `ChargeProgress`. -/
def Answerable (environment : Environment) (answers : Answers) (req : PowerDeliveryReq)
    (session : Session) : Prop :=
  req.evProcessing ≠ .ongoing →
    ¬(req.chargeProgress = .standby ∧ environment.config.standbyAllowed = false) →
      if req.chargeProgress = .stop then StopAnswered answers
      else StartAnswered answers req session

end PowerDelivery

theorem responds_powerDelivery {environment : Environment} {answers : Answers}
    {message : RequestMessage} {req : PowerDeliveryReq} {world : World σ} :
    Responds (PowerDelivery.onPowerDeliveryReq environment answers (.request message) req)
        world ↔
      ValidSessionId world.session.sessionId ∧
        PowerDelivery.Answerable environment answers req world.session := by
  unfold PowerDelivery.onPowerDeliveryReq PowerDelivery.Answerable PowerDelivery.checkPowerProfile
  by_cases ongoing : req.evProcessing = .ongoing
  · simp [ongoing]
  · by_cases standby : req.chargeProgress = .standby ∧ environment.config.standbyAllowed = false
    · simp [ongoing, standby]
    · by_cases stops : req.chargeProgress = .stop
      · simp [ongoing, stops, PowerDelivery.responds_stopCharging]
      · simp [ongoing, standby, stops, PowerDelivery.responds_startCharging]

/-! ## DC states -/

/-- The cable check is started, and its status or that of the contactors is known. -/
def DCCableCheck.Answerable (answers : Answers) (contactorsClosed cableCheckStarted : Bool) :
    Prop :=
  (cableCheckStarted = false → answers.startCableCheck.isOk = true) ∧
    if contactorsClosed then answers.getCableCheckStatus.isOk = true
    else answers.isContactorClosed.isOk = true

theorem responds_dcCableCheck {answers : Answers} {message : RequestMessage}
    {contactorsClosed cableCheckStarted : Bool} {world : World σ} :
    Responds (DCCableCheck.onDcCableCheckReq answers (.request message) contactorsClosed
        cableCheckStarted) world ↔
      ValidSessionId world.session.sessionId ∧
        DCCableCheck.Answerable answers contactorsClosed cableCheckStarted := by
  unfold DCCableCheck.onDcCableCheckReq DCCableCheck.Answerable DCCableCheck.startOnce
  by_cases valid : ValidSessionId world.session.sessionId
  · cases contactorsClosed with
    | true => cases cableCheckStarted <;> simp [valid, isOk_iff]
    | false =>
        rcases answers.isContactorClosed with exception | _ | closed
        · cases cableCheckStarted <;> simp [valid, isOk_iff]
        · cases cableCheckStarted <;> simp [valid, isOk_iff]
        · cases closed <;> cases cableCheckStarted <;> simp [valid, isOk_iff]
  · cases contactorsClosed with
    | true => cases cableCheckStarted <;> simp [valid]
    | false =>
        rcases answers.isContactorClosed with exception | _ | closed
        · cases cableCheckStarted <;> simp [valid]
        · cases cableCheckStarted <;> simp [valid]
        · cases closed <;> cases cableCheckStarted <;> simp [valid]

/-- Unless the pre-charge has finished, the target voltage is sent. The voltage goes into
the response. -/
def DCPreCharge.Answerable (answers : Answers) (req : DCPreChargeReq) : Prop :=
  if req.evProcessing = .finished then answers.getEvsePresentVoltage.isOk = true
  else SendsTargets answers.sendChargingCommand (answers.getEvsePresentVoltage.isOk = true)

theorem DCPreCharge.responds_respond {answers : Answers}
    {nextState : Option (NextState StateName)} {world : World σ} :
    Responds (DCPreCharge.respond answers nextState) world ↔
      ValidSessionId world.session.sessionId ∧ answers.getEvsePresentVoltage.isOk = true := by
  simp [DCPreCharge.respond, isOk_iff, and_comm]

/-- Whether the wait for the target voltage times out. -/
theorem DCPreCharge.returns_trySend {answers : Answers} {call : Call}
    {post : Bool → World σ → Prop} {world : World σ} :
    returns (tryCatch
        (do
          ask call answers.sendChargingCommand
          pure false)
        (fun exception => if exception = .timeoutError then pure true else throw exception))
      post world ↔
      (answers.sendChargingCommand.isOk ∧
          post false { world with calls := call :: world.calls }) ∨
        answers.sendChargingCommand = .error .timeoutError ∧
          post true { world with calls := call :: world.calls } := by
  rw [returns_tryCatch, wp_bind, wp_ask]
  cases answers.sendChargingCommand with
  | ok sent => simp [isOk_iff]
  | error exception =>
      by_cases timedOut : exception = .timeoutError
      · simp [isOk_iff, timedOut]
      · simp [isOk_iff, timedOut]

theorem responds_dcPreCharge {answers : Answers} {message : RequestMessage}
    {req : DCPreChargeReq} {world : World σ} :
    Responds (DCPreCharge.onDcPreChargeReq answers (.request message) req) world ↔
      ValidSessionId world.session.sessionId ∧ DCPreCharge.Answerable answers req := by
  unfold DCPreCharge.onDcPreChargeReq DCPreCharge.Answerable SendsTargets
  by_cases finished : req.evProcessing = .finished
  · simp [finished, DCPreCharge.responds_respond]
  · rw [Responds]
    simp only [returns_bind, returns_setOwn, returns_onEvData, returns_modify, finished,
      ↓reduceIte, returns_get]
    apply DCPreCharge.returns_trySend.trans
    simp [DCPreCharge.responds_respond]
    tauto

/-- A meter that is to be read can be. -/
def MeterAnswered (answers : Answers) (meterInfoRequested : Bool) : Prop :=
  meterInfoRequested = true → answers.getMeterInfoV20.isOk = true

/-- The limits of the session go into a parameter block for the control mode, and the
controller answers what else the response is built from. -/
def DCChargeLoop.ResAnswered (answers : Answers) (meterInfoRequested : Bool)
    (controlMode : Option ControlMode) (service : ServiceV20) (context : EVSEDataContext) :
    Prop :=
  (∃ params, getDcChargeLoopParamsV20 context controlMode service = .ok (some params)) ∧
    controlMode.isSome = true ∧ answers.getEvseStatus.isOk = true ∧
    MeterAnswered answers meterInfoRequested ∧ answers.getEvsePresentCurrent.isOk = true ∧
    answers.getEvsePresentVoltage.isOk = true ∧ answers.isEvsePowerLimitAchieved.isOk = true ∧
    answers.isEvseCurrentLimitAchieved.isOk = true ∧
    answers.isEvseVoltageLimitAchieved.isOk = true

/-- The block of the request belongs to the selected service and the control mode, the
diagnostic service does not raise on the new data of the EV, and unless the command
fails the response can be built from the limits that it leaves. -/
def DCChargeLoop.Answerable [DiagnosticService σ] (answers : Answers) (req : DCChargeLoopReq)
    (world : World σ) : Prop :=
  ∃ selected, world.session.selectedEnergyService = some selected ∧
    returns (EVDataContext.updateDcChargeLoopParametersV20 req selected.service
        world.session.controlMode)
      (fun _ evData => ∃ cycled, world.serviceRegistry.onCycle evData world.evseDataContext =
          .ok cycled ∧
        (answers.sendChargingCommand.isOk = true → answers.sendDisplayParams.isOk = true ∧
          DCChargeLoop.ResAnswered answers req.meterInfoRequested world.session.controlMode
            selected.service cycled.2))
      world.evDataContext

theorem DCChargeLoop.responds_buildRes {answers : Answers} {meterInfoRequested : Bool}
    {selected : SelectedEnergyService} {world : World σ}
    (selects : world.session.selectedEnergyService = some selected) :
    Responds (do
        let res ← DCChargeLoop.buildDcChargeLoopRes answers meterInfoRequested
        createNextMessage none .ok res) world ↔
      ValidSessionId world.session.sessionId ∧
        DCChargeLoop.ResAnswered answers meterInfoRequested world.session.controlMode
          selected.service world.evseDataContext := by
  unfold DCChargeLoop.buildDcChargeLoopRes DCChargeLoop.ResAnswered MeterAnswered readMeter
    dcChargeLoopResParams
  by_cases valid : ValidSessionId world.session.sessionId
  · cases mode : world.session.controlMode with
    | none => cases meterInfoRequested <;> simp [selects, mode]
    | some controlMode =>
        rcases built : getDcChargeLoopParamsV20 world.evseDataContext (some controlMode)
            selected.service with exception | _ | params
        · simp [selects, mode, built]
        · cases meterInfoRequested <;> simp [selects, mode, built]
        · cases meterInfoRequested <;> simp [selects, mode, built, valid, isOk_iff]
  · cases meterInfoRequested <;> simp [selects, valid]

/-- Whether the command was given. Whatever is raised is answered with a failed
response. -/
theorem DCChargeLoop.returns_trySend {answers : Answers} {call : Call}
    {post : Bool → World σ → Prop} {world : World σ} :
    returns (tryCatch
        (do
          ask call answers.sendChargingCommand
          pure true)
        (fun _ => pure false))
      post world ↔
      post answers.sendChargingCommand.isOk { world with calls := call :: world.calls } := by
  rw [returns_tryCatch, wp_bind, wp_ask]
  cases answers.sendChargingCommand with
  | ok sent => simp [Except.isOk, Except.toBool]
  | error exception => simp [Except.isOk, Except.toBool]

theorem responds_dcChargeLoop [DiagnosticService σ] {answers : Answers}
    {message : RequestMessage} {req : DCChargeLoopReq} {world : World σ} :
    Responds (DCChargeLoop.onDcChargeLoopReq answers (.request message) req) world ↔
      ValidSessionId world.session.sessionId ∧ DCChargeLoop.Answerable answers req world := by
  unfold DCChargeLoop.onDcChargeLoopReq DCChargeLoop.Answerable
  rw [Responds]
  cases selects : world.session.selectedEnergyService with
  | none => simp [selects]
  | some selected =>
      simp only [returns_bind, returns_setOwn, returns_selectedService, selects,
        Option.some.injEq, exists_eq_left', returns_get, returns_onEvData]
      rw [← returns_and_iff]
      apply returns_congr_post
      intro _ evData
      rw [returns_ofExcept]
      cases world.serviceRegistry.onCycle evData world.evseDataContext with
      | error exception => simp
      | ok cycled =>
          rcases cycled with ⟨serviceRegistry, evseDataContext⟩
          simp only [Except.ok.injEq, exists_eq_left', returns_bind, returns_modify]
          rw [DCChargeLoop.returns_trySend]
          cases answers.sendChargingCommand.isOk with
          | false => simp
          | true =>
              cases answers.sendDisplayParams with
              | error exception => simp [Except.isOk, Except.toBool]
              | ok _ =>
                  simp only [↓reduceIte, returns_bind, returns_ask, forall_const, isOk_iff,
                    true_and, exists_const]
                  rw [← returns_bind]
                  exact DCChargeLoop.responds_buildRes selects

/-! ## Schedule exchange -/

namespace ScheduleExchange

/-- The parameters of the request belong to the control mode. -/
def ParamsMatch (controlMode : Option ControlMode) (req : ScheduleExchangeReq) : Prop :=
  match controlMode, req.params with
  | some .scheduled, .scheduled _ => True
  | some .dynamic, .dynamic _ => True
  | none, _ => True
  | some _, _ => False

/-- With parameters of the control mode the controller says whether it is ready. A
finished exchange needs a control mode and a selected service. -/
def Answerable (answers : Answers) (req : ScheduleExchangeReq) (session : Session) : Prop :=
  ParamsMatch session.controlMode req ∧
    ∃ params, answers.getScheduleExchangeParams = .ok params ∧
      (unexpectedParams session.controlMode params = false →
        ∃ readyToCharge, answers.readyToCharge = .ok readyToCharge ∧
          (readyToCharge = true →
            session.controlMode.isSome = true ∧ session.selectedEnergyService.isSome = true))

theorem returns_updateScheduleExchange {controlMode : Option ControlMode}
    {req : ScheduleExchangeReq} {post : Prop} {context : EVDataContext} :
    returns (EVDataContext.updateScheduleExchangeParameters controlMode req)
        (fun _ _ => post) context ↔ ParamsMatch controlMode req ∧ post := by
  unfold EVDataContext.updateScheduleExchangeParameters ParamsMatch
  cases controlMode with
  | none => simp
  | some mode => cases mode <;> cases req.params <;> simp

theorem responds_respond {answers : Answers} {controlMode : Option ControlMode}
    {params : Option ScheduleExchangeResParams} {world : World σ}
    (expected : unexpectedParams controlMode params = false) :
    Responds (respond answers controlMode params) world ↔
      ValidSessionId world.session.sessionId ∧
        ∃ readyToCharge, answers.readyToCharge = .ok readyToCharge ∧
          (readyToCharge = true →
            controlMode.isSome = true ∧ world.session.selectedEnergyService.isSome = true) := by
  unfold respond scheduleExchangeRes finish
  cases answers.readyToCharge with
  | error exception => simp
  | ok readyToCharge =>
      cases readyToCharge with
      | false => simp
      | true =>
          cases controlMode with
          | none =>
              rcases params with _ | _ | _
              · simp [offerSchedules]
              · simp [offerSchedules]
              · simp [offerSchedules]
          | some mode =>
              rcases mode with _ | _
              · obtain _ | params | params := params
                · cases expected
                · cases selects : world.session.selectedEnergyService with
                  | none => simp [offerSchedules, selects,
                      EVSEDataContext.updateScheduleExchangeParameters]
                  | some selected => simp [offerSchedules, selects,
                      EVSEDataContext.updateScheduleExchangeParameters]
                · cases expected
              · obtain _ | params | params := params
                · cases expected
                · cases expected
                · cases selects : world.session.selectedEnergyService with
                  | none => simp [offerSchedules, selects,
                      EVSEDataContext.updateScheduleExchangeParameters]
                  | some selected => simp [offerSchedules, selects,
                      EVSEDataContext.updateScheduleExchangeParameters]

end ScheduleExchange

theorem responds_scheduleExchange {answers : Answers} {message : RequestMessage}
    {req : ScheduleExchangeReq} {world : World σ} :
    Responds (ScheduleExchange.onScheduleExchangeReq answers (.request message) req) world ↔
      ValidSessionId world.session.sessionId ∧
        ScheduleExchange.Answerable answers req world.session := by
  unfold ScheduleExchange.onScheduleExchangeReq ScheduleExchange.Answerable
  rw [Responds]
  simp only [returns_bind, returns_get, returns_onEvData]
  apply (returns_congr_post (fun _ _ => ValidSessionId world.session.sessionId ∧
    ∃ params, answers.getScheduleExchangeParams = .ok params ∧
      (ScheduleExchange.unexpectedParams world.session.controlMode params = false →
        ∃ readyToCharge, answers.readyToCharge = .ok readyToCharge ∧
          (readyToCharge = true → world.session.controlMode.isSome = true ∧
            world.session.selectedEnergyService.isSome = true))) fun _ context => ?_).trans
  · rw [ScheduleExchange.returns_updateScheduleExchange]
    exact and_left_comm
  · cases answers.getScheduleExchangeParams with
    | error exception => simp
    | ok params =>
        simp only [returns_ask, Except.ok.injEq, exists_eq_left']
        by_cases unexpected :
            ScheduleExchange.unexpectedParams world.session.controlMode params = true
        · simp [unexpected]
        · simp only [Bool.not_eq_true] at unexpected
          simp [unexpected, ScheduleExchange.responds_respond unexpected]

/-! ## Charge parameter discovery -/

/-- An answer that is given, or whose failure to know the service is handled. -/
def HandlesUnknownService {α : Type} (answer : Except PyError α) (rest : α → Prop) : Prop :=
  answer = .error .unknownEnergyService ∨ ∃ value, answer = .ok value ∧ rest value

/-- The parameters of the controller and those of the request belong to the selected
service. -/
def DCChargeParameterDiscovery.Answerable (answers : Answers)
    (req : DCChargeParameterDiscoveryReq) (session : Session) : Prop :=
  ∃ selected, session.selectedEnergyService = some selected ∧
    HandlesUnknownService answers.getDcChargeParamsV20 fun params =>
      match selected.service, params, req with
      | .dc, some _, .dc _ | .dcBpt, some (.bptDc _), .bptDc _ =>
          HandlesUnknownService answers.sendRatedLimits fun _ => True
      | _, _, _ => False

theorem handlesUnknownService_iff {valid : Prop} {answer : Except PyError Unit} :
    ((∀ sent, answer = .ok sent → valid) ∧
        ∀ exception, answer = .error exception → exception = .unknownEnergyService ∧ valid) ↔
      valid ∧ HandlesUnknownService answer fun _ => True := by
  unfold HandlesUnknownService
  cases answer with
  | error exception => simp [and_comm]
  | ok _ => simp

theorem responds_dcChargeParameterDiscovery {answers : Answers} {message : RequestMessage}
    {req : DCChargeParameterDiscoveryReq} {world : World σ} :
    Responds (DCChargeParameterDiscovery.onDcChargeParameterDiscoveryReq answers
        (.request message) req) world ↔
      ValidSessionId world.session.sessionId ∧
        DCChargeParameterDiscovery.Answerable answers req world.session := by
  unfold DCChargeParameterDiscovery.onDcChargeParameterDiscoveryReq
    DCChargeParameterDiscovery.Answerable
  cases selects : world.session.selectedEnergyService with
  | none => simp [selects]
  | some selected =>
      cases answers.getDcChargeParamsV20 with
      | error exception =>
          by_cases unknown : exception = .unknownEnergyService
          · simp [selects, returns_tryCatch, HandlesUnknownService, unknown]
          · simp [selects, returns_tryCatch, HandlesUnknownService, unknown]
      | ok params =>
          generalize service : selected.service = energyService
          simp only [HandlesUnknownService, reduceCtorEq, false_or, Except.ok.injEq,
            exists_eq_left']
          cases energyService with
          | dc =>
              cases params with
              | none => simp [selects, returns_tryCatch, dcChargeParameterDiscoveryRes]
              | some params =>
                  cases req with
                  | dc _ =>
                      simp [selects, returns_tryCatch, dcChargeParameterDiscoveryRes, service,
                        EVSEDataContext.updateDcChargeParametersV20,
                        EVDataContext.updateDcChargeParametersV20]
                      simpa [HandlesUnknownService] using handlesUnknownService_iff
                  | bptDc _ =>
                      simp [selects, returns_tryCatch, dcChargeParameterDiscoveryRes, service,
                        EVSEDataContext.updateDcChargeParametersV20,
                        EVDataContext.updateDcChargeParametersV20]
          | dcBpt =>
              rcases params with _ | params | params
              · simp [selects, returns_tryCatch, dcChargeParameterDiscoveryRes]
              · simp [selects, returns_tryCatch, dcChargeParameterDiscoveryRes, service]
              · cases req with
                | bptDc _ =>
                    simp [selects, returns_tryCatch, dcChargeParameterDiscoveryRes, service,
                      EVSEDataContext.updateDcChargeParametersV20,
                      EVDataContext.updateDcChargeParametersV20]
                    simpa [HandlesUnknownService] using handlesUnknownService_iff
                | dc _ =>
                    simp [selects, returns_tryCatch, dcChargeParameterDiscoveryRes, service,
                      EVSEDataContext.updateDcChargeParametersV20,
                      EVDataContext.updateDcChargeParametersV20]
          | _ => simp [selects, returns_tryCatch, dcChargeParameterDiscoveryRes, service]

def ACChargeParameterDiscovery.Answerable (answers : Answers)
    (req : ACChargeParameterDiscoveryReq) (session : Session) : Prop :=
  ∃ selected, session.selectedEnergyService = some selected ∧
    HandlesUnknownService answers.getAcChargeParamsV20 fun params =>
      match selected.service, params, req with
      | .ac, some _, .ac _ | .acBpt, some .bptCharge, .bptAc _ =>
          HandlesUnknownService answers.sendRatedLimits fun _ => True
      | _, _, _ => False

theorem responds_acChargeParameterDiscovery {answers : Answers} {message : RequestMessage}
    {req : ACChargeParameterDiscoveryReq} {world : World σ} :
    Responds (ACChargeParameterDiscovery.onAcChargeParameterDiscoveryReq answers
        (.request message) req) world ↔
      ValidSessionId world.session.sessionId ∧
        ACChargeParameterDiscovery.Answerable answers req world.session := by
  unfold ACChargeParameterDiscovery.onAcChargeParameterDiscoveryReq
    ACChargeParameterDiscovery.Answerable
  cases selects : world.session.selectedEnergyService with
  | none => simp [selects]
  | some selected =>
      cases answers.getAcChargeParamsV20 with
      | error exception =>
          by_cases unknown : exception = .unknownEnergyService
          · simp [selects, returns_tryCatch, HandlesUnknownService, unknown]
          · simp [selects, returns_tryCatch, HandlesUnknownService, unknown]
      | ok params =>
          generalize service : selected.service = energyService
          simp only [HandlesUnknownService, reduceCtorEq, false_or, Except.ok.injEq,
            exists_eq_left']
          cases energyService with
          | ac =>
              cases params with
              | none => simp [selects, returns_tryCatch, acChargeParameterDiscoveryRes]
              | some params =>
                  cases req with
                  | ac _ =>
                      simp [selects, returns_tryCatch, acChargeParameterDiscoveryRes, service,
                        EVDataContext.updateAcChargeParametersV20]
                      simpa [HandlesUnknownService] using handlesUnknownService_iff
                  | bptAc _ =>
                      simp [selects, returns_tryCatch, acChargeParameterDiscoveryRes, service,
                        EVDataContext.updateAcChargeParametersV20]
          | acBpt =>
              rcases params with _ | _ | _
              · simp [selects, returns_tryCatch, acChargeParameterDiscoveryRes]
              · simp [selects, returns_tryCatch, acChargeParameterDiscoveryRes, service]
              · cases req with
                | bptAc _ =>
                    simp [selects, returns_tryCatch, acChargeParameterDiscoveryRes, service,
                      EVDataContext.updateAcChargeParametersV20]
                    simpa [HandlesUnknownService] using handlesUnknownService_iff
                | ac _ =>
                    simp [selects, returns_tryCatch, acChargeParameterDiscoveryRes, service,
                      EVDataContext.updateAcChargeParametersV20]
          | _ => simp [selects, returns_tryCatch, acChargeParameterDiscoveryRes, service]

/-! ## AC charge loop -/

namespace ACChargeLoop

/-- The block of the request belongs to the selected service and the control mode. -/
def ParamsMatch (service : ServiceV20) (controlMode : Option ControlMode)
    (params : ACChargeLoopReqParams) : Prop :=
  match service, controlMode, params with
  | .ac, some .scheduled, .scheduled _ | .ac, some .dynamic, .dynamic _
  | .acBpt, some .scheduled, .bptScheduled _ | .acBpt, some .dynamic, .bptDynamic _ => True
  | _, _, _ => False

/-- So does the block of the controller. -/
def ResParamsMatch (service : ServiceV20) (controlMode : Option ControlMode)
    (params : Option ACLoopResParams) : Prop :=
  match service, controlMode, params with
  | .ac, some .scheduled, some .scheduled | .ac, some .scheduled, some .bptScheduled
  | .ac, some .dynamic, some .dynamic | .ac, some .dynamic, some .bptDynamic
  | .acBpt, some .scheduled, some .bptScheduled
  | .acBpt, some .dynamic, some .bptDynamic => True
  | _, _, _ => False

def Answerable (answers : Answers) (req : ACChargeLoopReq) (session : Session) : Prop :=
  ∃ selected, session.selectedEnergyService = some selected ∧
    ParamsMatch selected.service session.controlMode req.params ∧
    MeterAnswered answers req.meterInfoRequested ∧ answers.getEvseStatus.isOk = true ∧
    (∃ params, answers.getAcChargeLoopParamsV20 = .ok params ∧
      ResParamsMatch selected.service session.controlMode params) ∧
    answers.sendDisplayParams.isOk = true

theorem acChargeLoopRes_eq_ok_iff {service : ServiceV20} {controlMode : Option ControlMode}
    {params : Option ACLoopResParams} {evseStatus : Option EVSEStatus} {res : Response} :
    acChargeLoopRes service controlMode params evseStatus = .ok res ↔
      ResParamsMatch service controlMode params ∧ res = .acChargeLoopRes evseStatus := by
  unfold acChargeLoopRes ResParamsMatch
  split <;> simp [eq_comm]

theorem ResParamsMatch.controlled {service : ServiceV20} {controlMode : Option ControlMode}
    {params : Option ACLoopResParams} (matched : ResParamsMatch service controlMode params) :
    controlMode.isSome = true ∧ (service = .ac ∨ service = .acBpt) := by
  unfold ResParamsMatch at matched
  split at matched <;> simp at *

theorem returns_updateAcChargeLoop {service : ServiceV20} {controlMode : Option ControlMode}
    {req : ACChargeLoopReq} {post : Prop} {context : EVDataContext}
    (controlled : post → controlMode.isSome = true ∧ (service = .ac ∨ service = .acBpt)) :
    returns (EVDataContext.updateAcChargeLoopV20 req service controlMode) (fun _ _ => post)
        context ↔ ParamsMatch service controlMode req.params ∧ post := by
  unfold EVDataContext.updateAcChargeLoopV20 ParamsMatch
  rcases controlMode with _ | mode
  · have unanswered : ¬post := fun answered => by simpa using (controlled answered).1
    cases service <;> simp [unanswered]
  · cases service with
    | ac => cases mode <;> cases req.params <;> simp
    | acBpt => cases mode <;> cases req.params <;> simp
    | _ => simp

end ACChargeLoop

theorem responds_acChargeLoop {answers : Answers} {req : ACChargeLoopReq} {world : World σ} :
    Responds (ACChargeLoop.onAcChargeLoopReq answers req) world ↔
      ValidSessionId world.session.sessionId ∧
        ACChargeLoop.Answerable answers req world.session := by
  unfold ACChargeLoop.onAcChargeLoopReq ACChargeLoop.Answerable
  rw [Responds]
  cases selects : world.session.selectedEnergyService with
  | none => simp [selects]
  | some selected =>
      simp only [returns_bind, returns_selectedService, selects, Option.some.injEq,
        exists_eq_left', returns_get, returns_onEvData]
      apply (returns_congr_post (fun _ _ => ValidSessionId world.session.sessionId ∧
        MeterAnswered answers req.meterInfoRequested ∧ answers.getEvseStatus.isOk = true ∧
        (∃ params, answers.getAcChargeLoopParamsV20 = .ok params ∧
          ACChargeLoop.ResParamsMatch selected.service world.session.controlMode params) ∧
        answers.sendDisplayParams.isOk = true) fun _ context => ?_).trans
      · apply (ACChargeLoop.returns_updateAcChargeLoop fun answered => ?_).trans and_left_comm
        obtain ⟨-, -, -, ⟨params, -, matched⟩, -⟩ := answered
        exact matched.controlled
      · unfold MeterAnswered readMeter
        cases req.meterInfoRequested with
        | true =>
            simp [ACChargeLoop.acChargeLoopRes_eq_ok_iff, isOk_iff]
            simp only [← and_assoc, exists_and_right]
            tauto
        | false =>
            simp [ACChargeLoop.acChargeLoopRes_eq_ok_iff, isOk_iff]
            simp only [← and_assoc, exists_and_right]
            tauto

/-! ## Any request -/

variable [DiagnosticService σ]

/-- What it takes to answer a request, in an object in the state `own`. A
`CertificateInstallationReq` is never answered. -/
def RequestAnswerable (environment : Environment) (answers : Answers) (message : RequestMessage)
    (own : Own) (world : World σ) : Prop :=
  match message.request with
  | .sessionSetupReq _ => SessionSetup.Answerable answers message.header world.session
  | .authorizationSetupReq =>
      ValidSessionId world.session.sessionId ∧ AuthorizationSetup.Answerable environment answers
  | .authorizationReq req =>
      ValidSessionId world.session.sessionId ∧
        Authorization.Answerable environment answers message.header req
  | .certificateInstallationReq => False
  | .serviceDiscoveryReq _ =>
      ValidSessionId world.session.sessionId ∧ ServiceDiscovery.Answerable answers
  | .serviceDetailReq req =>
      ValidSessionId world.session.sessionId ∧ ServiceDetail.Answerable answers req
  | .serviceSelectionReq req =>
      ValidSessionId world.session.sessionId ∧ ServiceSelection.Answerable req world.session
  | .scheduleExchangeReq req =>
      ValidSessionId world.session.sessionId ∧
        ScheduleExchange.Answerable answers req world.session
  | .powerDeliveryReq req =>
      ValidSessionId world.session.sessionId ∧
        PowerDelivery.Answerable environment answers req world.session
  | .sessionStopReq req =>
      ValidSessionId world.session.sessionId ∧
        (req.chargingSession = .serviceRenegotiation →
          answers.serviceRenegotiationSupported.isOk = true)
  | .acChargeParameterDiscoveryReq req =>
      ValidSessionId world.session.sessionId ∧
        ACChargeParameterDiscovery.Answerable answers req world.session
  | .acChargeLoopReq req =>
      ValidSessionId world.session.sessionId ∧ ACChargeLoop.Answerable answers req world.session
  | .dcChargeParameterDiscoveryReq req =>
      ValidSessionId world.session.sessionId ∧
        DCChargeParameterDiscovery.Answerable answers req world.session
  | .dcCableCheckReq =>
      ValidSessionId world.session.sessionId ∧
        DCCableCheck.Answerable answers own.cableCheck.1 own.cableCheck.2
  | .dcPreChargeReq req =>
      ValidSessionId world.session.sessionId ∧ DCPreCharge.Answerable answers req
  | .dcChargeLoopReq req =>
      ValidSessionId world.session.sessionId ∧ DCChargeLoop.Answerable answers req world
  | .dcWeldingDetectionReq _ =>
      ValidSessionId world.session.sessionId ∧ answers.getEvsePresentVoltage.isOk = true

theorem responds_answer {environment : Environment} {answers : Answers} {header : MessageHeader}
    {request : Request} {own : Own} {world : World σ} :
    Responds (answer environment answers ⟨header, request⟩ own) world ↔
      RequestAnswerable environment answers ⟨header, request⟩ own world := by
  cases request with
  | sessionSetupReq req => exact responds_sessionSetup
  | authorizationSetupReq => exact responds_authorizationSetup
  | authorizationReq req => exact responds_authorization
  | certificateInstallationReq => exact Iff.rfl
  | serviceDiscoveryReq req => exact responds_serviceDiscovery
  | serviceDetailReq req => exact responds_serviceDetail
  | serviceSelectionReq req => exact responds_serviceSelection
  | scheduleExchangeReq req => exact responds_scheduleExchange
  | powerDeliveryReq req => exact responds_powerDelivery
  | sessionStopReq req => exact responds_sessionStop
  | acChargeParameterDiscoveryReq req => exact responds_acChargeParameterDiscovery
  | acChargeLoopReq req => exact responds_acChargeLoop
  | dcChargeParameterDiscoveryReq req => exact responds_dcChargeParameterDiscovery
  | dcCableCheckReq => exact responds_dcCableCheck
  | dcPreChargeReq req => exact responds_dcPreCharge
  | dcChargeLoopReq req => exact responds_dcChargeLoop
  | dcWeldingDetectionReq req => exact responds_dcWeldingDetection

/-- The message is a request, and its object is not the one that installs certificates.
A request that is accepted can be answered. To refuse another takes a valid session id. -/
def Answerable (environment : Environment) (answers : Answers) (world : World σ) :
    V2GMessage → Prop
  | .request message =>
      world.currentState.own ≠ .certificateInstallation ∧
        if stateTable.accepts world.currentState.own message.request.requestType = true ∧
            Known message world.session then
          RequestAnswerable environment answers message
            (answering world.currentState message.request.requestType).own
            { world with
              currentState := answering world.currentState message.request.requestType }
        else
          ValidSessionId world.session.sessionId
  | .response _ => False

/-- A message is responded to exactly if it is answerable. -/
theorem responds_iff {environment : Environment} {answers : Answers} {message : V2GMessage}
    {world : World σ} :
    Responds (processMessage environment answers message) world ↔
      Answerable environment answers world message := by
  by_cases installing : world.currentState.own = .certificateInstallation
  · have raises : ¬Responds (processMessage environment answers message) world :=
      not_returns_of_eq_error
        (processMessage_certificateInstallation environment answers message world installing)
    cases message with
    | request message => simp [raises, Answerable, installing]
    | response message => simp [raises, Answerable]
  · cases message with
    | request message =>
        apply (returns_congr
          (processMessage_request environment answers message world installing)).trans
        apply (StateTable.responds_route fun _ => responds_stopStateMachine message _).trans
        simp only [Answerable, ne_eq, installing, not_false_eq_true, true_and]
        by_cases accepted : stateTable.accepts world.currentState.own
            message.request.requestType = true ∧ Known message world.session
        · rw [if_pos accepted, if_pos accepted]
          exact responds_answer
        · rw [if_neg accepted, if_neg accepted]
    | response message =>
        have raises :
            ¬Responds (processMessage environment answers (.response message)) world :=
          not_returns_of_eq_error
            (processMessage_response environment answers message world installing)
        simp [raises, Answerable]

end Iso15118.Secc.V20
