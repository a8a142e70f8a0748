import Iso15118.Secc.Din.Routing

/-!
# When the DIN SPEC 70121 SECC responds

For each request what the controller has to answer and what the request has to
contain, so that the state that answers it does not raise. The failed responses need
a valid session id and no more.
-/

namespace Iso15118.Secc.Din

open Effect
open Iso15118.Shared
open Iso15118.Shared.Din

section

variable {post : PUnit → World → Prop} {world : World}

@[simp]
theorem returns_createNextMessage (nextState : Option (NextState StateName))
    (responseCode : ResponseCode) (response : Response) (timeout : ℚ) :
    returns (createNextMessage nextState responseCode response timeout) post world ↔
      ValidSessionId world.session.sessionId ∧
        post ⟨⟩ { world with
          currentState := world.currentState.createNextMessage nextState
            ⟨{ sessionId := world.session.sessionId }, responseCode, response⟩ timeout } :=
  (wp_createNextMessage nextState responseCode response timeout).trans checkSessionId_passes_iff

@[simp]
theorem returns_stopStateMachine (message : RequestMessage) (responseCode : ResponseCode) :
    returns (stopStateMachine (.request message) responseCode) post world ↔
      returns (createNextMessage (some .terminate) responseCode
        (failedResponse message.request.requestType) 0) post
        { world with session := world.session.stopped } :=
  Iff.rfl

end

/-! ## What the checks accept -/

theorem checkEvseId_passes_iff {evseId : String} :
    (∃ valid, checkEvseId evseId = .ok valid) ↔ 2 ≤ evseId.length ∧ evseId.length ≤ 32 :=
  exists_ite_ok_iff

theorem firstEnergyMode_exists_iff {energyModes : List EnergyTransferMode} :
    (∃ energyMode, firstEnergyMode energyModes = .ok energyMode) ↔ energyModes ≠ [] := by
  cases energyModes with
  | nil => simp [firstEnergyMode]
  | cons energyMode others => simp [firstEnergyMode]

theorem saScheduleList_passes_iff {schedules : List SAScheduleTupleEntry} :
    (∃ offered, saScheduleList schedules = .ok offered) ↔ schedules.length ≤ 3 :=
  exists_ite_ok_iff

theorem presentValue_exists_iff {value : Option PhysicalValue} :
    (∃ present, presentValue value = .ok present) ↔ value.isSome = true := by
  cases value with
  | none => simp [presentValue]
  | some present => simp [presentValue]

/-! ## The requests -/

/-- The EVSE id goes into the response, under the id that the session gets. -/
def SessionSetup.Answerable (answers : Answers) (header : MessageHeader) (session : Session) :
    Prop :=
  (∃ evseId, answers.getEvseId = .ok evseId ∧ 2 ≤ evseId.length ∧ evseId.length ≤ 32) ∧
    ValidSessionId (if SessionSetup.joins session header.sessionId then session.sessionId
      else answers.randomSessionId)

theorem responds_sessionSetup {answers : Answers} {header : MessageHeader} {req : SessionSetupReq}
    {world : World} :
    Responds (SessionSetup.onSessionSetupReq answers header req) world ↔
      SessionSetup.Answerable answers header world.session := by
  simp [SessionSetup.onSessionSetupReq, SessionSetup.Answerable, checkEvseId_passes_iff,
    ← and_assoc]

/-- There is an energy mode to offer. -/
def ServiceDiscovery.Answerable (answers : Answers) : Prop :=
  ∃ energyModes, answers.getSupportedEnergyTransferModes = .ok energyModes ∧ energyModes ≠ []

theorem responds_serviceDiscovery {config : Config} {answers : Answers} {world : World} :
    Responds (ServiceDiscovery.onServiceDiscoveryReq config answers) world ↔
      ValidSessionId world.session.sessionId ∧ ServiceDiscovery.Answerable answers := by
  simp [ServiceDiscovery.onServiceDiscoveryReq, ServiceDiscovery.Answerable,
    firstEnergyMode_exists_iff, ← and_assoc, and_comm]

theorem responds_servicePaymentSelection {message : RequestMessage}
    {req : ServicePaymentSelectionReq} {world : World} :
    Responds (ServicePaymentSelection.onServicePaymentSelectionReq (.request message) req) world ↔
      ValidSessionId world.session.sessionId := by
  simp only [ServicePaymentSelection.onServicePaymentSelectionReq, returns_ite,
    returns_stopStateMachine, returns_createNextMessage, returns_bind, returns_updateSession]
  split
  · simp [Session.stopped]
  · split
    · simp [Session.stopped]
    · simp

theorem responds_contractAuthentication {answers : Answers} {world : World} :
    Responds (ContractAuthentication.onContractAuthenticationReq answers) world ↔
      ValidSessionId world.session.sessionId ∧ answers.isAuthorized.isOk := by
  simp [ContractAuthentication.onContractAuthenticationReq, isOk_iff, and_comm]

/-- A mode that is supported leads on to the parameters and at most three schedules. -/
def ChargeParameterDiscovery.Answerable (answers : Answers) (req : ChargeParameterDiscoveryReq) :
    Prop :=
  ∃ energyModes, answers.getSupportedEnergyTransferModes = .ok energyModes ∧
    (req.requestedEnergyMode ∈ energyModes →
      answers.sendRatedLimits.isOk ∧ answers.getDcChargeParametersDinspec.isOk ∧
        ∃ schedules, answers.getSaScheduleListDinspec = .ok schedules ∧
          (schedules.getD []).length ≤ 3)

/-- An empty list is not offered, and a longer one has to fit. -/
theorem ChargeParameterDiscovery.responds_respond {parameters : V2.DCEVSEChargeParameter}
    {schedules : List SAScheduleTupleEntry} {world : World} :
    Responds (ChargeParameterDiscovery.respond parameters schedules) world ↔
      ValidSessionId world.session.sessionId ∧ schedules.length ≤ 3 := by
  unfold ChargeParameterDiscovery.respond
  by_cases empty : schedules = []
  · simp [empty]
  · simp [empty, saScheduleList_passes_iff, and_comm]

theorem responds_chargeParameterDiscovery {answers : Answers} {message : RequestMessage}
    {req : ChargeParameterDiscoveryReq} {world : World} :
    Responds (ChargeParameterDiscovery.onChargeParameterDiscoveryReq answers (.request message)
        req) world ↔
      ValidSessionId world.session.sessionId ∧
        ChargeParameterDiscovery.Answerable answers req := by
  by_cases valid : ValidSessionId world.session.sessionId
  · simp [ChargeParameterDiscovery.onChargeParameterDiscoveryReq, isOk_iff,
      ChargeParameterDiscovery.Answerable, ChargeParameterDiscovery.responds_respond, valid,
      Session.stopped]
  · simp [ChargeParameterDiscovery.onChargeParameterDiscoveryReq,
      ChargeParameterDiscovery.responds_respond, valid, Session.stopped]

/-! ### Cable check -/

/-- The status of the EVSE that most responses carry. -/
theorem CableCheck.responds_respond {answers : Answers} {req : CableCheckReq}
    {nextState : Option (NextState StateName)} {evseProcessing : V2.EVSEProcessing}
    {world : World} :
    Responds (CableCheck.respond answers req nextState evseProcessing) world ↔
      ValidSessionId world.session.sessionId ∧ answers.getDcEvseStatus.isOk := by
  simp [CableCheck.respond, isOk_iff, and_comm]

/-- The cable check is started, and its status or that of the contactors is known. The
status of the EVSE goes into a response that does not fail. -/
def CableCheck.Answerable (answers : Answers) (req : CableCheckReq)
    (cableCheckStarted contactorsClosed : Bool) : Prop :=
  req.dcEvStatus.evErrorCode = .noError →
    (cableCheckStarted = false → answers.startCableCheck.isOk) ∧
      if contactorsClosed then
        ∃ isolationLevel, answers.getCableCheckStatus = .ok isolationLevel ∧
          (isolationLevel = some .fault ∨ isolationLevel = some .invalid ∨
            answers.getDcEvseStatus.isOk)
      else
        ∃ closed, answers.isContactorClosed = .ok closed ∧
          (closed = some false ∨ answers.getDcEvseStatus.isOk)

theorem CableCheck.responds_onStatus {answers : Answers} {message : RequestMessage}
    {req : CableCheckReq} {isolationLevel : Option IsolationLevel} {world : World} :
    Responds (CableCheck.onStatus answers (.request message) req isolationLevel) world ↔
      ValidSessionId world.session.sessionId ∧
        (isolationLevel = some .fault ∨ isolationLevel = some .invalid ∨
          answers.getDcEvseStatus.isOk) := by
  unfold CableCheck.onStatus
  cases isolationLevel with
  | none => simp [CableCheck.responds_respond]
  | some level => cases level <;> simp [CableCheck.responds_respond, Session.stopped]

theorem CableCheck.responds_onContactors {answers : Answers} {message : RequestMessage}
    {req : CableCheckReq} {closed : Option Bool} {world : World} :
    Responds (CableCheck.onContactors answers (.request message) req closed) world ↔
      ValidSessionId world.session.sessionId ∧
        (closed = some false ∨ answers.getDcEvseStatus.isOk) := by
  unfold CableCheck.onContactors
  cases closed with
  | none => simp [CableCheck.responds_respond]
  | some closed => cases closed <;> simp [CableCheck.responds_respond, Session.stopped]

theorem responds_cableCheck {answers : Answers} {message : RequestMessage} {req : CableCheckReq}
    {cableCheckStarted contactorsClosed : Bool} {world : World} :
    Responds (CableCheck.onCableCheckReq answers (.request message) req cableCheckStarted
        contactorsClosed) world ↔
      ValidSessionId world.session.sessionId ∧
        CableCheck.Answerable answers req cableCheckStarted contactorsClosed := by
  unfold CableCheck.onCableCheckReq CableCheck.Answerable CableCheck.startOnce
  by_cases healthy : req.dcEvStatus.evErrorCode = .noError
  · by_cases valid : ValidSessionId world.session.sessionId
    · cases cableCheckStarted <;> cases contactorsClosed <;>
        simp [healthy, valid, isOk_iff, CableCheck.responds_onStatus,
          CableCheck.responds_onContactors]
    · cases cableCheckStarted <;> cases contactorsClosed <;>
        simp [healthy, valid, CableCheck.responds_onStatus, CableCheck.responds_onContactors]
  · simp [healthy, Session.stopped]

/-! ### The end of a session -/

theorem responds_sessionStop {world : World} :
    Responds SessionStop.onSessionStopReq world ↔ ValidSessionId world.session.sessionId := by
  simp [SessionStop.onSessionStopReq]

/-- The voltage is one of this protocol. -/
def WeldingDetection.Answerable (answers : Answers) : Prop :=
  answers.getDcEvseStatus.isOk ∧ ∃ voltage, answers.getEvsePresentVoltage = .ok (some voltage)

theorem exists_presentValue_iff {answer : Except PyError (Option PhysicalValue)} :
    (∃ value, answer = .ok value ∧ value.isSome = true) ↔
      ∃ present, answer = .ok (some present) := by
  constructor
  · rintro ⟨_ | present, returned, isPresent⟩
    · cases isPresent
    · exact ⟨present, returned⟩
  · rintro ⟨present, returned⟩
    exact ⟨some present, returned, rfl⟩

theorem responds_weldingDetection {answers : Answers} {world : World} :
    Responds (WeldingDetection.onWeldingDetectionReq answers) world ↔
      ValidSessionId world.session.sessionId ∧ WeldingDetection.Answerable answers := by
  by_cases valid : ValidSessionId world.session.sessionId
  · simp [WeldingDetection.onWeldingDetectionReq, WeldingDetection.Answerable, isOk_iff, valid,
      presentValue_exists_iff, exists_presentValue_iff]
  · simp [WeldingDetection.onWeldingDetectionReq, valid]

/-! ### Power delivery -/

/-- The optional DC parameter is there, whatever the request asks for, and the
controller starts or stops the charging. -/
def PowerDelivery.Answerable (answers : Answers) (req : PowerDeliveryReq) : Prop :=
  req.dcEvPowerDeliveryParameter.isSome = true ∧
    if req.readyToCharge then
      (answers.setHlcCharging true).isOk ∧ answers.getDcEvseStatus.isOk
    else
      (answers.setHlcCharging false).isOk ∧ answers.stopCharger.isOk ∧
        ∃ contactorOpened, answers.isContactorOpened = .ok contactorOpened ∧
          (contactorOpened = true → answers.getDcEvseStatus.isOk)

theorem presentSoc_exists_iff {req : PowerDeliveryReq} :
    (∃ soc, PowerDelivery.presentSoc req = .ok soc) ↔
      req.dcEvPowerDeliveryParameter.isSome = true := by
  unfold PowerDelivery.presentSoc
  cases req.dcEvPowerDeliveryParameter with
  | none => simp
  | some parameter => simp

theorem PowerDelivery.responds_respond {answers : Answers}
    {nextState : Option (NextState StateName)} {world : World} :
    Responds (PowerDelivery.respond answers nextState) world ↔
      ValidSessionId world.session.sessionId ∧ answers.getDcEvseStatus.isOk := by
  simp [PowerDelivery.respond, isOk_iff, and_comm]

theorem responds_powerDelivery {answers : Answers} {message : RequestMessage}
    {req : PowerDeliveryReq} {world : World} :
    Responds (PowerDelivery.onPowerDeliveryReq answers (.request message) req) world ↔
      ValidSessionId world.session.sessionId ∧ PowerDelivery.Answerable answers req := by
  unfold PowerDelivery.onPowerDeliveryReq PowerDelivery.startCharging PowerDelivery.stopCharging
    PowerDelivery.Answerable
  by_cases valid : ValidSessionId world.session.sessionId
  · cases req.readyToCharge <;>
      simp [valid, isOk_iff, presentSoc_exists_iff, PowerDelivery.responds_respond,
        Session.stopped]
  · cases req.readyToCharge <;> simp [valid, PowerDelivery.responds_respond, Session.stopped]

/-! ### Pre-charge and charge loop -/

/-- With the currents in range the targets are sent, and the response carries the
status and the voltage. -/
def PreCharge.Answerable (answers : Answers) (req : PreChargeReq) (context : EVDataContext) :
    Prop :=
  req.dcEvStatus.evErrorCode = .noError →
    ∃ presentCurrent, answers.getEvsePresentCurrent = .ok presentCurrent ∧
      ∀ current, presentCurrent = some current →
        PreCharge.currentsAllowed current (context.updatePreChargeParametersDin req) = true →
          SendsTargets answers.sendChargingCommand (answers.getDcEvseStatus.isOk ∧
            ∃ voltage, answers.getEvsePresentVoltage = .ok (some voltage))

theorem PreCharge.returns_sendTargets {answers : Answers} {post : Bool → World → Prop}
    {world : World} :
    returns (PreCharge.sendTargets answers) post world ↔
      (answers.sendChargingCommand.isOk ∧
          post true { world with
            calls := .sendChargingCommand world.evDataContext.targetVoltage
              world.evDataContext.targetCurrent true :: world.calls }) ∨
        answers.sendChargingCommand = .error .timeoutError ∧
          post false { world with
            calls := .sendChargingCommand world.evDataContext.targetVoltage
              world.evDataContext.targetCurrent true :: world.calls } :=
  returns_trySend

theorem PreCharge.responds_respond {answers : Answers} {world : World} :
    Responds (PreCharge.respond answers) world ↔
      ValidSessionId world.session.sessionId ∧ answers.getDcEvseStatus.isOk ∧
        ∃ voltage, answers.getEvsePresentVoltage = .ok (some voltage) := by
  by_cases valid : ValidSessionId world.session.sessionId
  · simp [PreCharge.respond, isOk_iff, valid, presentValue_exists_iff, exists_presentValue_iff]
  · simp [PreCharge.respond, valid]

theorem PreCharge.responds_preCharge {answers : Answers} {message : RequestMessage}
    {presentCurrent : Option PhysicalValue} {world : World} :
    Responds (PreCharge.preCharge answers (.request message) presentCurrent) world ↔
      ValidSessionId world.session.sessionId ∧
        ∀ current, presentCurrent = some current →
          PreCharge.currentsAllowed current world.evDataContext = true →
            SendsTargets answers.sendChargingCommand (answers.getDcEvseStatus.isOk ∧
              ∃ voltage, answers.getEvsePresentVoltage = .ok (some voltage)) := by
  unfold PreCharge.preCharge
  cases presentCurrent with
  | none => simp [Session.stopped]
  | some current =>
      by_cases allowed : PreCharge.currentsAllowed current world.evDataContext = true
      · by_cases valid : ValidSessionId world.session.sessionId
        · simp [allowed, valid, PreCharge.returns_sendTargets, SendsTargets,
            PreCharge.responds_respond, Session.stopped]
        · simp [allowed, valid, PreCharge.returns_sendTargets,
            PreCharge.responds_respond, Session.stopped]
      · simp [allowed, Session.stopped]

theorem responds_preCharge {answers : Answers} {message : RequestMessage} {req : PreChargeReq}
    {world : World} :
    Responds (PreCharge.onPreChargeReq answers (.request message) req) world ↔
      ValidSessionId world.session.sessionId ∧
        PreCharge.Answerable answers req world.evDataContext := by
  unfold PreCharge.onPreChargeReq PreCharge.Answerable
  by_cases healthy : req.dcEvStatus.evErrorCode = .noError
  · by_cases valid : ValidSessionId world.session.sessionId
    · simp [healthy, valid, PreCharge.responds_preCharge]
    · simp [healthy, valid, PreCharge.responds_preCharge]
  · simp [healthy, Session.stopped]

/-- The targets are sent, and the response carries all that the controller is asked
for. -/
def CurrentDemand.Answerable (answers : Answers) : Prop :=
  SendsTargets answers.sendChargingCommand
    (answers.getDcEvseStatus.isOk ∧
      (∃ voltage, answers.getEvsePresentVoltage = .ok (some voltage)) ∧
      (∃ current, answers.getEvsePresentCurrent = .ok (some current)) ∧
      answers.isEvseVoltageLimitAchieved.isOk ∧ answers.isEvsePowerLimitAchieved.isOk ∧
      answers.getEvseMaxCurrentLimit.isOk ∧ answers.getEvseMaxVoltageLimit.isOk ∧
      answers.getEvseMaxPowerLimit.isOk ∧ answers.sendDisplayParams.isOk)

theorem CurrentDemand.returns_sendTargets {answers : Answers} {post : Bool → World → Prop}
    {world : World} :
    returns (CurrentDemand.sendTargets answers) post world ↔
      (answers.sendChargingCommand.isOk ∧
          post true { world with
            calls := .sendChargingCommand world.evDataContext.targetVoltage
              world.evDataContext.targetCurrent false :: world.calls }) ∨
        answers.sendChargingCommand = .error .timeoutError ∧
          post false { world with
            calls := .sendChargingCommand world.evDataContext.targetVoltage
              world.evDataContext.targetCurrent false :: world.calls } :=
  returns_trySend

theorem responds_currentDemand {answers : Answers} {message : RequestMessage}
    {req : CurrentDemandReq} {world : World} :
    Responds (CurrentDemand.onCurrentDemandReq answers (.request message) req) world ↔
      ValidSessionId world.session.sessionId ∧ CurrentDemand.Answerable answers := by
  unfold CurrentDemand.onCurrentDemandReq CurrentDemand.Answerable CurrentDemand.buildRes
  by_cases valid : ValidSessionId world.session.sessionId
  · rcases voltage : answers.getEvsePresentVoltage with exception | _ | presentVoltage
    · simp [valid, CurrentDemand.returns_sendTargets, SendsTargets, Session.stopped]
    · simp [valid, CurrentDemand.returns_sendTargets, SendsTargets, Session.stopped,
        presentValue_exists_iff]
    · rcases current : answers.getEvsePresentCurrent with exception | _ | presentCurrent
      · simp [valid, CurrentDemand.returns_sendTargets, SendsTargets, Session.stopped]
      · simp [valid, CurrentDemand.returns_sendTargets, SendsTargets, Session.stopped,
          presentValue_exists_iff]
      · simp [valid, CurrentDemand.returns_sendTargets, SendsTargets, Session.stopped, isOk_iff,
          presentValue_exists_iff]
  · simp [valid, CurrentDemand.returns_sendTargets, Session.stopped]

/-! ## The messages -/

/-- What it takes to answer a request, in an object in the state `own`. -/
def RequestAnswerable (answers : Answers) (message : RequestMessage) (own : Own)
    (world : World) : Prop :=
  match message.request with
  | .sessionSetupReq _ => SessionSetup.Answerable answers message.header world.session
  | .serviceDiscoveryReq =>
      ValidSessionId world.session.sessionId ∧ ServiceDiscovery.Answerable answers
  | .servicePaymentSelectionReq _ => ValidSessionId world.session.sessionId
  | .contractAuthenticationReq =>
      ValidSessionId world.session.sessionId ∧ answers.isAuthorized.isOk
  | .chargeParameterDiscoveryReq req =>
      ValidSessionId world.session.sessionId ∧ ChargeParameterDiscovery.Answerable answers req
  | .cableCheckReq req =>
      ValidSessionId world.session.sessionId ∧
        CableCheck.Answerable answers req own.cableCheckFlags.1 own.cableCheckFlags.2
  | .preChargeReq req =>
      ValidSessionId world.session.sessionId ∧
        PreCharge.Answerable answers req world.evDataContext
  | .powerDeliveryReq req =>
      ValidSessionId world.session.sessionId ∧ PowerDelivery.Answerable answers req
  | .currentDemandReq _ =>
      ValidSessionId world.session.sessionId ∧ CurrentDemand.Answerable answers
  | .weldingDetectionReq =>
      ValidSessionId world.session.sessionId ∧ WeldingDetection.Answerable answers
  | .sessionStopReq => ValidSessionId world.session.sessionId

theorem responds_answer {config : Config} {answers : Answers} {message : RequestMessage}
    {own : Own} {world : World} :
    Responds (answer config answers message own) world ↔
      RequestAnswerable answers message own world := by
  rcases message with ⟨header, request⟩
  cases request with
  | sessionSetupReq req => exact responds_sessionSetup
  | serviceDiscoveryReq => exact responds_serviceDiscovery
  | servicePaymentSelectionReq req => exact responds_servicePaymentSelection
  | contractAuthenticationReq => exact responds_contractAuthentication
  | chargeParameterDiscoveryReq req => exact responds_chargeParameterDiscovery
  | cableCheckReq req => exact responds_cableCheck
  | preChargeReq req => exact responds_preCharge
  | powerDeliveryReq req => exact responds_powerDelivery
  | currentDemandReq req => exact responds_currentDemand
  | weldingDetectionReq => exact responds_weldingDetection
  | sessionStopReq => exact responds_sessionStop

/-- A refused request is answered under a valid session id. -/
theorem responds_refused {message : RequestMessage} {responseCode : ResponseCode}
    {world : World} :
    Responds (stopStateMachine (.request message) responseCode) world ↔
      ValidSessionId world.session.sessionId := by
  simp [Session.stopped]

/-- The message is a request. One that is accepted can be answered, and to refuse
another takes a valid session id only. -/
def Answerable (answers : Answers) (world : World) : V2GMessage → Prop
  | .request message =>
      if stateTable.accepts world.currentState.own message.request.requestType = true ∧
          Known message world.session then
        RequestAnswerable answers message
          (stateTable.answering world.currentState message.request.requestType).own world
      else
        ValidSessionId world.session.sessionId
  | .response _ => False
  | .empty _ => False

/-- A message is responded to exactly if it is answerable. -/
theorem responds_iff {config : Config} {answers : Answers} {message : V2GMessage}
    {world : World} :
    Responds (processMessage config answers message) world ↔
      Answerable answers world message := by
  have raises (not_request : ∀ req, message ≠ .request req) :
      ¬Responds (processMessage config answers message) world :=
    not_returns_of_eq_error (processMessage_not_request config answers message world not_request)
  cases message with
  | request message =>
      apply (returns_congr (processMessage_request config answers message world)).trans
      apply (StateTable.responds_route fun _ => responds_refused).trans
      rw [responds_answer]
      rfl
  | response message => simp [raises, Answerable]
  | empty header => simp [raises, Answerable]

end Iso15118.Secc.Din
