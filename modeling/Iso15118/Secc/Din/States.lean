import Iso15118.Secc.Din.Session

/-!
# The states of the DIN SPEC 70121 SECC

`process_message` of every state of `secc/states/din_spec_states.py`. It checks the
message and hands it to another state or to the method below that answers it. The
states come in the order of that delegation.
-/

namespace Iso15118.Secc.Din

open Effect
open Iso15118.Shared
open Iso15118.Shared.Din

/-! ## Setting up the session -/

/-- The bounds that the model puts on an EVSE id. -/
def checkEvseId (evseId : String) : Except PyError Unit :=
  if 2 ≤ evseId.length ∧ evseId.length ≤ 32 then .ok ⟨⟩ else .error .validationError

/-- Whether a `SessionSetupReq` has the id of the session. -/
def SessionSetup.joins (session : Session) (sessionId : String) : Bool :=
  sessionId ≠ "00" ∧ sessionId = session.sessionId

def SessionSetup.onSessionSetupReq (answers : Answers) (header : MessageHeader)
    (req : SessionSetupReq) : Program PUnit := do
  let world ← get
  let joined := SessionSetup.joins world.session header.sessionId
  let evseId ← ask .getEvseId answers.getEvseId
  Effect.ofExcept (checkEvseId evseId)
  updateSession fun session => { session with evccId := some req.evccId }
  onEvData (modify fun context => { context with evccId := some req.evccId })
  updateSession fun session =>
    { session with sessionId := if joined then session.sessionId else answers.randomSessionId }
  createNextMessage (some (.state .serviceDiscovery))
    (if joined then .okOldSessionJoined else .okNewSessionEstablished) (.sessionSetupRes evseId)

/-- `SessionSetup.process_message`. -/
def SessionSetup.processMessage (answers : Answers) (message : V2GMessage) : Program PUnit := do
  match ← checkMsg message [.sessionSetupReq] with
  | some ⟨header, .sessionSetupReq req⟩ => SessionSetup.onSessionSetupReq answers header req
  | _ => pure ⟨⟩

/-! ## Services and authorization -/

/-- `energy_modes[0]`. -/
def firstEnergyMode (energyModes : List EnergyTransferMode) :
    Except PyError EnergyTransferMode :=
  match energyModes with
  | [] => .error .indexError
  | energyMode :: _ => .ok energyMode

def ServiceDiscovery.onServiceDiscoveryReq (config : Config) (answers : Answers) :
    Program PUnit := do
  updateSession fun session => { session with offeredAuthOptions := [.eim] }
  let energyModes ← ask .getSupportedEnergyTransferModes answers.getSupportedEnergyTransferModes
  let energyMode ← Effect.ofExcept (firstEnergyMode energyModes)
  createNextMessage (some (.state .servicePaymentSelection)) .ok
    (.serviceDiscoveryRes ⟨[.eim], config.freeChargingService, energyMode⟩)

/-- `ServiceDiscovery.process_message`. -/
def ServiceDiscovery.processMessage (config : Config) (answers : Answers)
    (message : V2GMessage) : Program PUnit := do
  match ← checkMsg message [.serviceDiscoveryReq] with
  | some ⟨_, .serviceDiscoveryReq⟩ => ServiceDiscovery.onServiceDiscoveryReq config answers
  | _ => pure ⟨⟩

def ServicePaymentSelection.onServicePaymentSelectionReq (message : V2GMessage)
    (req : ServicePaymentSelectionReq) : Program PUnit :=
  if req.selectedPaymentOption ≠ .eim then
    stopStateMachine message .failedPaymentSelectionInvalid
  else do
    updateSession fun session => { session with selectedAuthOption := some .eim }
    if req.selectedServiceList = [] then
      stopStateMachine message .failedServiceSelectionInvalid
    else
      createNextMessage (some (.state .contractAuthentication)) .ok .servicePaymentSelectionRes

/-- `ServicePaymentSelection.process_message`. -/
def ServicePaymentSelection.processMessage (message : V2GMessage) : Program PUnit := do
  match ← checkMsg message [.servicePaymentSelectionReq] with
  | some ⟨_, .servicePaymentSelectionReq req⟩ =>
      ServicePaymentSelection.onServicePaymentSelectionReq message req
  | _ => pure ⟨⟩

def ContractAuthentication.onContractAuthenticationReq (answers : Answers) : Program PUnit := do
  let status ← ask .isAuthorized answers.isAuthorized
  if status = .accepted then
    createNextMessage (some (.state .chargeParameterDiscovery)) .ok
      (.contractAuthenticationRes .finished)
  else
    createNextMessage none .ok (.contractAuthenticationRes .ongoing)

/-- `ContractAuthentication.process_message`. -/
def ContractAuthentication.processMessage (answers : Answers) (message : V2GMessage) :
    Program PUnit := do
  match ← checkMsg message [.contractAuthenticationReq] with
  | some ⟨_, .contractAuthenticationReq⟩ =>
      ContractAuthentication.onContractAuthenticationReq answers
  | _ => pure ⟨⟩

/-! ## Charge parameters -/

/-- `SAScheduleList(...)` has at most three schedules. -/
def saScheduleList (schedules : List SAScheduleTupleEntry) :
    Except PyError (List SAScheduleTupleEntry) :=
  if schedules.length ≤ 3 then .ok schedules else .error .validationError

/-- The end of `ChargeParameterDiscovery.process_message`. -/
def ChargeParameterDiscovery.respond (parameters : V2.DCEVSEChargeParameter)
    (schedules : List SAScheduleTupleEntry) : Program PUnit :=
  if schedules = [] then
    createNextMessage none .ok (.chargeParameterDiscoveryRes ⟨.ongoing, none, parameters⟩)
  else do
    let schedules ← Effect.ofExcept (saScheduleList schedules)
    createNextMessage (some (.state .cableCheck)) .ok
      (.chargeParameterDiscoveryRes ⟨.finished, some schedules, parameters⟩)

def ChargeParameterDiscovery.onChargeParameterDiscoveryReq (answers : Answers)
    (message : V2GMessage) (req : ChargeParameterDiscoveryReq) : Program PUnit := do
  let energyModes ← ask .getSupportedEnergyTransferModes answers.getSupportedEnergyTransferModes
  if req.requestedEnergyMode ∈ energyModes then do
    onEvData (modify fun context =>
      { context with selectedEnergyMode := some req.requestedEnergyMode })
    onEvData (modify fun context => context.updateDcChargeParametersDin req.dcEvChargeParameter)
    ask .sendRatedLimits answers.sendRatedLimits
    let parameters ← ask .getDcChargeParametersDinspec answers.getDcChargeParametersDinspec
    onEvseData (modify fun context => { context with currentType := some .dc })
    let schedules ← ask .getSaScheduleListDinspec answers.getSaScheduleListDinspec
    ChargeParameterDiscovery.respond parameters (schedules.getD [])
  else
    stopStateMachine message .failedWrongEnergyTransferMode

/-- `ChargeParameterDiscovery.process_message`. -/
def ChargeParameterDiscovery.processMessage (answers : Answers) (message : V2GMessage) :
    Program PUnit := do
  match ← checkMsg message [.chargeParameterDiscoveryReq] with
  | some ⟨_, .chargeParameterDiscoveryReq req⟩ =>
      ChargeParameterDiscovery.onChargeParameterDiscoveryReq answers message req
  | _ => pure ⟨⟩

/-! ## Cable check -/

namespace CableCheck

/-- The first request starts the cable check. -/
def startOnce (answers : Answers) (cableCheckStarted contactorsClosed : Bool) : Program PUnit :=
  if cableCheckStarted then
    pure ⟨⟩
  else do
    ask .startCableCheck answers.startCableCheck
    setOwn (.cableCheck true contactorsClosed)

/-- The end of `process_message`. -/
def respond (answers : Answers) (req : CableCheckReq) (nextState : Option (NextState StateName))
    (evseProcessing : V2.EVSEProcessing) : Program PUnit := do
  onEvData (modify fun context =>
    { context with presentSoc := some req.dcEvStatus.evRessSoc })
  let dcEvseStatus ← ask .getDcEvseStatus answers.getDcEvseStatus
  createNextMessage nextState .ok (.cableCheckRes dcEvseStatus evseProcessing)

/-- The status of the cable check, once the contactors are closed. A status other than
the four, such as that of a missing device, is waited on. -/
def onStatus (answers : Answers) (message : V2GMessage) (req : CableCheckReq)
    (isolationLevel : Option IsolationLevel) : Program PUnit :=
  if isolationLevel = some .valid ∨ isolationLevel = some .warning then
    respond answers req (some (.state .preCharge)) .finished
  else if isolationLevel = some .fault ∨ isolationLevel = some .invalid then
    stopStateMachine message .failed
  else
    respond answers req none .ongoing

/-- The contactors are closed for the cable check. -/
def onContactors (answers : Answers) (message : V2GMessage) (req : CableCheckReq)
    (contactorsClosedForCableCheck : Option Bool) : Program PUnit :=
  match contactorsClosedForCableCheck with
  | some true => do
      setOwn (.cableCheck true true)
      respond answers req none .ongoing
  | some false => stopStateMachine message .failed
  | none => respond answers req none .ongoing

def onCableCheckReq (answers : Answers) (message : V2GMessage) (req : CableCheckReq)
    (cableCheckStarted contactorsClosed : Bool) : Program PUnit :=
  if req.dcEvStatus.evErrorCode = .noError then do
    startOnce answers cableCheckStarted contactorsClosed
    if contactorsClosed then do
      let isolationLevel ← ask .getCableCheckStatus answers.getCableCheckStatus
      onStatus answers message req isolationLevel
    else do
      let closed ← ask .isContactorClosed answers.isContactorClosed
      onContactors answers message req closed
  else
    stopStateMachine message .failed

/-- `CableCheck.process_message`. -/
def processMessage (answers : Answers) (message : V2GMessage)
    (cableCheckStarted contactorsClosed : Bool) : Program PUnit := do
  match ← checkMsg message [.cableCheckReq] with
  | some ⟨_, .cableCheckReq req⟩ =>
      onCableCheckReq answers message req cableCheckStarted contactorsClosed
  | _ => pure ⟨⟩

end CableCheck

/-! ## The end of a session -/

def SessionStop.onSessionStopReq : Program PUnit := do
  updateSession fun session => { session with stopReason := some { successful := true } }
  createNextMessage (some .terminate) .ok .sessionStopRes

/-- `SessionStop.process_message`. -/
def SessionStop.processMessage (message : V2GMessage) : Program PUnit := do
  match ← checkMsg message [.sessionStopReq] with
  | some ⟨_, .sessionStopReq⟩ => SessionStop.onSessionStopReq
  | _ => pure ⟨⟩

/-- A present voltage or current goes into a response of this protocol. -/
def presentValue (value : Option PhysicalValue) : Except PyError PhysicalValue :=
  match value with
  | some value => .ok value
  | none => .error .validationError

def WeldingDetection.onWeldingDetectionReq (answers : Answers) : Program PUnit := do
  setOwn (.weldingDetection false)
  let dcEvseStatus ← ask .getDcEvseStatus answers.getDcEvseStatus
  let evsePresentVoltage ← ask .getEvsePresentVoltage answers.getEvsePresentVoltage
  let evsePresentVoltage ← Effect.ofExcept (presentValue evsePresentVoltage)
  createNextMessage none .ok (.weldingDetectionRes dcEvseStatus evsePresentVoltage)

/-- `WeldingDetection.process_message`. -/
def WeldingDetection.processMessage (answers : Answers) (message : V2GMessage)
    (expectWeldingDetection : Bool) : Program PUnit := do
  match ← checkMsg message [.weldingDetectionReq, .sessionStopReq] expectWeldingDetection with
  | some ⟨_, .sessionStopReq⟩ => do
      enter .sessionStop
      SessionStop.processMessage message
  | some ⟨_, .weldingDetectionReq⟩ => WeldingDetection.onWeldingDetectionReq answers
  | _ => pure ⟨⟩

/-! ## Power delivery -/

namespace PowerDelivery

/-- The end of `process_message`. -/
def respond (answers : Answers) (nextState : Option (NextState StateName)) : Program PUnit := do
  let dcEvseStatus ← ask .getDcEvseStatus answers.getDcEvseStatus
  createNextMessage nextState .ok (.powerDeliveryRes dcEvseStatus)
  setOwn (.powerDelivery false)

/-- The state of charge of a request, which has to have the parameter of the EV. -/
def presentSoc (req : PowerDeliveryReq) : Except PyError Nat :=
  match req.dcEvPowerDeliveryParameter with
  | some parameter => .ok parameter.dcEvStatus.evRessSoc
  | none => .error .attributeError

/-- The branch of a request that is ready to charge. -/
def startCharging (answers : Answers) : Program PUnit := do
  ask (.setHlcCharging true) (answers.setHlcCharging true)
  updateSession fun session => { session with chargeProgressStarted := true }
  respond answers (some (.state .currentDemand))

/-- The branch of a request that is not. The state stays. -/
def stopCharging (answers : Answers) (message : V2GMessage) : Program PUnit := do
  ask (.setHlcCharging false) (answers.setHlcCharging false)
  ask .stopCharger answers.stopCharger
  let contactorOpened ← ask .isContactorOpened answers.isContactorOpened
  if contactorOpened then
    respond answers none
  else
    stopStateMachine message .failed

def onPowerDeliveryReq (answers : Answers) (message : V2GMessage) (req : PowerDeliveryReq) :
    Program PUnit := do
  let soc ← Effect.ofExcept (presentSoc req)
  onEvData (modify fun context => { context with presentSoc := some soc })
  if req.readyToCharge then
    startCharging answers
  else
    stopCharging answers message

/-- `PowerDelivery.process_message`. -/
def processMessage (answers : Answers) (message : V2GMessage)
    (expectingPowerDeliveryReq : Bool) : Program PUnit := do
  match ← checkMsg message [.powerDeliveryReq, .sessionStopReq, .weldingDetectionReq]
      expectingPowerDeliveryReq with
  | some ⟨_, .sessionStopReq⟩ => do
      enter .sessionStop
      SessionStop.processMessage message
  | some ⟨_, .weldingDetectionReq⟩ => do
      enter .weldingDetection
      WeldingDetection.processMessage answers message true
  | some ⟨_, .powerDeliveryReq req⟩ => onPowerDeliveryReq answers message req
  | _ => pure ⟨⟩

end PowerDelivery

/-! ## Pre-charge -/

namespace PreCharge

/-- The present and the target current of a pre-charge, of at most 2 A. -/
def currentsAllowed (presentCurrent : PhysicalValue) (context : EVDataContext) : Bool :=
  presentCurrent.getDecimalValue ≤ 2 ∧ context.targetCurrent ≤ 2

def sendTargets (answers : Answers) : Program Bool := do
  let world ← get
  tryCatch
    (do
      ask (.sendChargingCommand world.evDataContext.targetVoltage
        world.evDataContext.targetCurrent true) answers.sendChargingCommand
      pure true)
    (fun exception => if exception = .timeoutError then pure false else throw exception)

/-- The end of `process_message`. -/
def respond (answers : Answers) : Program PUnit := do
  let dcChargerState ← ask .getDcEvseStatus answers.getDcEvseStatus
  let presentVoltage ← ask .getEvsePresentVoltage answers.getEvsePresentVoltage
  let presentVoltage ← Effect.ofExcept (presentValue presentVoltage)
  createNextMessage none .ok (.preChargeRes dcChargerState presentVoltage)
  setOwn (.preCharge false)

/-- Drive the voltage to the target, if the present current may be read and neither
current is too high. -/
def preCharge (answers : Answers) (message : V2GMessage)
    (presentCurrent : Option PhysicalValue) : Program PUnit := do
  let world ← get
  match presentCurrent with
  | none => stopStateMachine message .failed
  | some presentCurrent =>
      if currentsAllowed presentCurrent world.evDataContext then do
        let sent ← sendTargets answers
        if sent then respond answers else stopStateMachine message .failed
      else
        stopStateMachine message .failed

def onPreChargeReq (answers : Answers) (message : V2GMessage) (req : PreChargeReq) :
    Program PUnit :=
  if req.dcEvStatus.evErrorCode = .noError then do
    onEvData (modify fun context => context.updatePreChargeParametersDin req)
    let presentCurrent ← ask .getEvsePresentCurrent answers.getEvsePresentCurrent
    preCharge answers message presentCurrent
  else
    stopStateMachine message .failed

/-- `PreCharge.process_message`. -/
def processMessage (answers : Answers) (message : V2GMessage) (expectingPreChargeReq : Bool) :
    Program PUnit := do
  match ← checkMsg message [.preChargeReq, .powerDeliveryReq] expectingPreChargeReq with
  | some ⟨_, .powerDeliveryReq _⟩ => do
      enter .powerDelivery
      PowerDelivery.processMessage answers message true
  | some ⟨_, .preChargeReq req⟩ => onPreChargeReq answers message req
  | _ => pure ⟨⟩

end PreCharge

/-! ## The charge loop -/

namespace CurrentDemand

def sendTargets (answers : Answers) : Program Bool := do
  let world ← get
  tryCatch
    (do
      ask (.sendChargingCommand world.evDataContext.targetVoltage
        world.evDataContext.targetCurrent false) answers.sendChargingCommand
      pure true)
    (fun exception => if exception = .timeoutError then pure false else throw exception)

/-- `CurrentDemandRes(...)`, from the answers of the controller in their order. -/
def buildRes (answers : Answers) (req : CurrentDemandReq) : Program CurrentDemandRes := do
  let dcEvseStatus ← ask .getDcEvseStatus answers.getDcEvseStatus
  let presentVoltage ← ask .getEvsePresentVoltage answers.getEvsePresentVoltage
  let presentCurrent ← ask .getEvsePresentCurrent answers.getEvsePresentCurrent
  let voltageLimitAchieved ← ask .isEvseVoltageLimitAchieved answers.isEvseVoltageLimitAchieved
  let powerLimitAchieved ← ask .isEvsePowerLimitAchieved answers.isEvsePowerLimitAchieved
  let maxCurrentLimit ← ask .getEvseMaxCurrentLimit answers.getEvseMaxCurrentLimit
  let maxVoltageLimit ← ask .getEvseMaxVoltageLimit answers.getEvseMaxVoltageLimit
  let maxPowerLimit ← ask .getEvseMaxPowerLimit answers.getEvseMaxPowerLimit
  let presentVoltage ← Effect.ofExcept (presentValue presentVoltage)
  let presentCurrent ← Effect.ofExcept (presentValue presentCurrent)
  -- the EV decides whether the current limit counts as achieved
  return ⟨dcEvseStatus, presentVoltage, presentCurrent, req.chargingComplete,
    voltageLimitAchieved, powerLimitAchieved, maxVoltageLimit, maxCurrentLimit, maxPowerLimit⟩

def onCurrentDemandReq (answers : Answers) (message : V2GMessage) (req : CurrentDemandReq) :
    Program PUnit := do
  onEvData (modify fun context => context.updateChargeLoopParametersDin req)
  let sent ← sendTargets answers
  if sent then do
    let res ← buildRes answers req
    ask .sendDisplayParams answers.sendDisplayParams
    createNextMessage none .ok (.currentDemandRes res)
    setOwn (.currentDemand false)
  else
    stopStateMachine message .failed

/-- `CurrentDemand.process_message`. -/
def processMessage (answers : Answers) (message : V2GMessage)
    (expectingCurrentDemandReq : Bool) : Program PUnit := do
  match ← checkMsg message [.currentDemandReq, .powerDeliveryReq] expectingCurrentDemandReq with
  | some ⟨_, .powerDeliveryReq _⟩ => do
      enter .powerDelivery
      PowerDelivery.processMessage answers message true
  | some ⟨_, .currentDemandReq req⟩ => onCurrentDemandReq answers message req
  | _ => pure ⟨⟩

end CurrentDemand

/-! ## The current state -/

/-- `self.current_state.process_message(...)`. -/
def processMessage (config : Config) (answers : Answers) (message : V2GMessage) :
    Program PUnit := do
  let world ← get
  match world.currentState.own with
  | .sessionSetup => SessionSetup.processMessage answers message
  | .serviceDiscovery => ServiceDiscovery.processMessage config answers message
  | .servicePaymentSelection => ServicePaymentSelection.processMessage message
  | .contractAuthentication => ContractAuthentication.processMessage answers message
  | .chargeParameterDiscovery => ChargeParameterDiscovery.processMessage answers message
  | .cableCheck cableCheckStarted contactorsClosed =>
      CableCheck.processMessage answers message cableCheckStarted contactorsClosed
  | .preCharge expecting => PreCharge.processMessage answers message expecting
  | .powerDelivery expecting => PowerDelivery.processMessage answers message expecting
  | .currentDemand expecting => CurrentDemand.processMessage answers message expecting
  | .weldingDetection expecting => WeldingDetection.processMessage answers message expecting
  | .sessionStop => SessionStop.processMessage message

end Iso15118.Secc.Din
