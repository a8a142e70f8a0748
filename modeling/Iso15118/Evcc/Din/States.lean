import Iso15118.Evcc.Din.Session

/-!
# The DIN SPEC 70121 states of the EVCC

`evcc/states/din_spec_states.py`. Each state has a function for the message that it expects,
behind the check, and `process_message`.
-/

namespace Iso15118.Evcc.Din

open Effect
open Iso15118.Shared
open Iso15118.Shared.Din
open Iso15118.Shared.V2 (DCEVSEStatus EVSEProcessing)

variable {ρ : Type} [EVController ρ]

/-! ## The timer -/

/-- The timer of a phase that the SECC is still processing. It is stopped when it has run for too
long, and started when it stands. Whether the state may go on. -/
def withinTime (runs stands : ℚ → Bool) (timeout : ℚ) (answers : Answers) : Program ρ Bool := do
  let world ← get
  if runs world.session.ongoingTimer then
    if answers.now - world.session.ongoingTimer > timeout then do
      stopStateMachine Session.stopped
      return false
    else
      return true
  else if stands world.session.ongoingTimer then do
    updateSession fun session => { session with ongoingTimer := answers.now }
    return true
  else
    return true

/-- `ongoing_timer = -1`. -/
def resetOngoingTimer : Program ρ PUnit :=
  updateSession fun session => { session with ongoingTimer := -1 }

/-! ## Setup and services -/

def SessionSetup.onSessionSetupRes (sessionId evseId : String) : Program ρ PUnit := do
  updateSession fun session => { session with sessionId := sessionId }
  updateSession fun session => { session with evseId := evseId }
  createNextMessage (some (.state .serviceDiscovery)) .serviceDiscoveryReq
    Timeouts.serviceDiscoveryReq

/-- `SessionSetup.process_message`. -/
def SessionSetup.processMessage (message : V2GMessage) : Program ρ PUnit := do
  match ← checkMsg message fun res =>
      match res.response with
      | .sessionSetupRes evseId => some (res.header.sessionId, evseId)
      | _ => none with
  | some (sessionId, evseId) => SessionSetup.onSessionSetupRes sessionId evseId
  | none => pure ⟨⟩

/-- `select_auth_mode`. -/
def ServiceDiscovery.selectAuthMode (authOptions : List AuthEnum) : Program ρ PUnit :=
  updateSession fun session =>
    { session with selectedAuthOption := if .eim ∈ authOptions then some .eim else none }

/-- `select_services`. The charge service always has the id of charging. -/
def ServiceDiscovery.selectServices : Program ρ PUnit :=
  updateSession fun session =>
    { session with selectedServices := session.selectedServices ++ [V2.ServiceID.charging] }

/-- `select_energy_transfer_mode`. The mode of a paused session is used once. -/
def ServiceDiscovery.selectEnergyTransferMode : Program ρ PUnit := do
  let world ← get
  match world.session.resumeRequestedEnergyMode with
  | some energyMode =>
      updateSession fun session =>
        { session with selectedEnergyMode := some energyMode, resumeRequestedEnergyMode := none }
  | none => do
      let energyMode ← ask .getEnergyTransferMode EVController.getEnergyTransferMode
      updateSession fun session => { session with selectedEnergyMode := some energyMode }

/-- `ServicePaymentSelectionReq(...)`. -/
def servicePaymentSelectionReq (authOption : AuthEnum) (services : List Int) :
    Except PyError ServicePaymentSelectionReq :=
  if services.length ≤ 16 then .ok ⟨authOption, services⟩ else .error .validationError

def ServiceDiscovery.onServiceDiscoveryRes (res : ServiceDiscoveryRes) : Program ρ PUnit := do
  ServiceDiscovery.selectAuthMode res.authOptions
  ServiceDiscovery.selectServices
  ServiceDiscovery.selectEnergyTransferMode
  let world ← get
  match world.session.selectedAuthOption with
  | none => stopStateMachine Session.stopped
  | some authOption =>
      if world.session.selectedEnergyMode = some res.energyTransferType then do
        let req ← Effect.ofExcept
          (servicePaymentSelectionReq authOption world.session.selectedServices)
        createNextMessage (some (.state .servicePaymentSelection))
          (.servicePaymentSelectionReq req) Timeouts.servicePaymentSelectionReq
      else
        stopStateMachine Session.stopped

/-- `ServiceDiscovery.process_message`. The model always has a charge service. -/
def ServiceDiscovery.processMessage (message : V2GMessage) : Program ρ PUnit := do
  match ← checkMsg message fun res =>
      match res.response with
      | .serviceDiscoveryRes res => some res
      | _ => none with
  | some res => ServiceDiscovery.onServiceDiscoveryRes res
  | none => pure ⟨⟩

def ServicePaymentSelection.onServicePaymentSelectionRes : Program ρ PUnit :=
  createNextMessage (some (.state .contractAuthentication)) .contractAuthenticationReq
    Timeouts.contractAuthenticationReq

/-- `ServicePaymentSelection.process_message`. -/
def ServicePaymentSelection.processMessage (message : V2GMessage) : Program ρ PUnit := do
  match ← checkMsg message fun res =>
      match res.response with
      | .servicePaymentSelectionRes => some ()
      | _ => none with
  | some _ => ServicePaymentSelection.onServicePaymentSelectionRes
  | none => pure ⟨⟩

/-! ## Authorization and charge parameters -/

/-- `ChargeParameterDiscoveryReq(...)`, which takes a DC mode only. -/
def chargeParameterDiscoveryReq (energyMode : EnergyTransferMode)
    (parameter : DCEVChargeParameter) : Except PyError ChargeParameterDiscoveryReq :=
  if dcMode : energyMode = .dcExtended ∨ energyMode = .dcCore then
    .ok ⟨energyMode, parameter, dcMode⟩
  else
    .error .validationError

/-- `DCEVChargeParameter(...)`. -/
def dcEvChargeParameter (dcEvStatus : V2.DCEVStatus) (params : V2.DCEVChargeParams) :
    DCEVChargeParameter where
  dcEvStatus := dcEvStatus
  evMaximumCurrentLimit := params.dcMaxCurrentLimit
  evMaximumPowerLimit := none
  evMaximumVoltageLimit := params.dcMaxVoltageLimit
  evEnergyCapacity := none
  evEnergyRequest := none
  fullSoc := none
  bulkSoc := none

/-- `build_charge_parameter_discovery_req`. -/
def ContractAuthentication.buildChargeParameterDiscoveryReq :
    Program ρ ChargeParameterDiscoveryReq := do
  let dcEvStatus ← ask .getDcEvStatusDinspec EVController.getDcEvStatusDinspec
  let params ← ask .getDcChargeParams EVController.getDcChargeParams
  let energyMode ← ask .getEnergyTransferMode EVController.getEnergyTransferMode
  Effect.ofExcept (chargeParameterDiscoveryReq energyMode (dcEvChargeParameter dcEvStatus params))

/-- The timer of `ContractAuthentication`, `ChargeParameterDiscovery` and `WeldingDetection`. -/
def withinSequenceTime (answers : Answers) : Program ρ Bool :=
  withinTime (fun timer => timer > 0) (fun timer => timer = -1) Timeouts.v2gSeccSequenceTimeout
    answers

def ContractAuthentication.onContractAuthenticationRes (answers : Answers)
    (evseProcessing : EVSEProcessing) : Program ρ PUnit := do
  if ← withinSequenceTime answers then
    if evseProcessing = .finished then do
      let req ← ContractAuthentication.buildChargeParameterDiscoveryReq
      createNextMessage (some (.state .chargeParameterDiscovery))
        (.chargeParameterDiscoveryReq req) Timeouts.chargeParameterDiscoveryReq
    else
      createNextMessage none .contractAuthenticationReq Timeouts.contractAuthenticationReq
  else
    pure ⟨⟩

/-- `ContractAuthentication.process_message`. -/
def ContractAuthentication.processMessage (answers : Answers) (message : V2GMessage) :
    Program ρ PUnit := do
  match ← checkMsg message fun res =>
      match res.response with
      | .contractAuthenticationRes evseProcessing => some evseProcessing
      | _ => none with
  | some evseProcessing =>
      ContractAuthentication.onContractAuthenticationRes answers evseProcessing
  | none => pure ⟨⟩

/-- `build_charge_parameter_discovery_req`, which asks in another order. -/
def ChargeParameterDiscovery.buildChargeParameterDiscoveryReq :
    Program ρ ChargeParameterDiscoveryReq := do
  let params ← ask .getDcChargeParams EVController.getDcChargeParams
  let dcEvStatus ← ask .getDcEvStatusDinspec EVController.getDcEvStatusDinspec
  let energyMode ← ask .getEnergyTransferMode EVController.getEnergyTransferMode
  Effect.ofExcept (chargeParameterDiscoveryReq energyMode (dcEvChargeParameter dcEvStatus params))

/-- `build_cable_check_req`. -/
def buildCableCheckReq : Program ρ CableCheckReq := do
  let dcEvStatus ← ask .getDcEvStatusDinspec EVController.getDcEvStatusDinspec
  return ⟨dcEvStatus⟩

/-- A schedule is chosen, and charging is enabled once the next request has been made. -/
def ChargeParameterDiscovery.chooseSchedule (saScheduleList : Option (List SAScheduleTupleEntry)) :
    Program ρ PUnit := do
  resetOngoingTimer
  let schedules ← required saScheduleList
  let scheduleId ←
    ask .processSaSchedulesDinspec (EVController.processSaSchedulesDinspec schedules)
  let req ← buildCableCheckReq
  createNextMessage (some (.state .cableCheck)) (.cableCheckReq req) Timeouts.cableCheckReq
  updateSession fun session => { session with selectedSchedule := some scheduleId }
  ask (.enableCharging true) (EVController.enableCharging true)

def ChargeParameterDiscovery.onChargeParameterDiscoveryRes (answers : Answers)
    (res : ChargeParameterDiscoveryRes) : Program ρ PUnit := do
  if res.evseProcessing = .finished then
    ChargeParameterDiscovery.chooseSchedule res.saScheduleList
  else if ← withinSequenceTime answers then do
    let req ← ChargeParameterDiscovery.buildChargeParameterDiscoveryReq
    createNextMessage none (.chargeParameterDiscoveryReq req) Timeouts.v2gSeccSequenceTimeout
  else
    pure ⟨⟩

/-- `ChargeParameterDiscovery.process_message`. -/
def ChargeParameterDiscovery.processMessage (answers : Answers) (message : V2GMessage) :
    Program ρ PUnit := do
  match ← checkMsg message fun res =>
      match res.response with
      | .chargeParameterDiscoveryRes res => some res
      | _ => none with
  | some res => ChargeParameterDiscovery.onChargeParameterDiscoveryRes answers res
  | none => pure ⟨⟩

/-! ## Cable check and pre-charge -/

/-- `build_pre_charge_req`, the same in `CableCheck` and `PreCharge`. -/
def buildPreChargeReq : Program ρ PreChargeReq := do
  let params ← ask .getDcChargeParams EVController.getDcChargeParams
  let dcEvStatus ← ask .getDcEvStatusDinspec EVController.getDcEvStatusDinspec
  return ⟨dcEvStatus, params.dcTargetVoltage, params.dcTargetCurrent⟩

/-- The request is built before the isolation is looked at. -/
def CableCheck.onCableCheckRes (answers : Answers) (dcEvseStatus : DCEVSEStatus)
    (evseProcessing : EVSEProcessing) : Program ρ PUnit := do
  if evseProcessing = .finished then do
    resetOngoingTimer
    let req ← buildPreChargeReq
    if dcEvseStatus.evseStatusCode = .evseReady ∧
        dcEvseStatus.evseIsolationStatus = some .valid then
      createNextMessage (some (.state .preCharge)) (.preChargeReq req) Timeouts.preChargeReq
    else
      stopStateMachine Session.stopped
  else if ← withinTime (fun timer => timer ≥ 0) (fun timer => timer = -1)
      Timeouts.v2gEvccCableCheckTimeout answers then do
    let req ← buildCableCheckReq
    createNextMessage none (.cableCheckReq req) Timeouts.cableCheckReq
  else
    pure ⟨⟩

/-- `CableCheck.process_message`. -/
def CableCheck.processMessage (answers : Answers) (message : V2GMessage) : Program ρ PUnit := do
  match ← checkMsg message fun res =>
      match res.response with
      | .cableCheckRes dcEvseStatus evseProcessing => some (dcEvseStatus, evseProcessing)
      | _ => none with
  | some (dcEvseStatus, evseProcessing) =>
      CableCheck.onCableCheckRes answers dcEvseStatus evseProcessing
  | none => pure ⟨⟩

/-- `PowerDeliveryReq(...)` with the parameter of the EV. -/
def buildPowerDeliveryReq (readyToCharge : Bool) : Program ρ PowerDeliveryReq := do
  let parameter ←
    ask .getDcEvPowerDeliveryParameter EVController.getDcEvPowerDeliveryParameter
  return ⟨readyToCharge, some parameter⟩

def PreCharge.onPreChargeRes (answers : Answers) (evsePresentVoltage : PhysicalValue) :
    Program ρ PUnit := do
  let isPrecharged ← ask .isPrecharged (EVController.isPrecharged evsePresentVoltage)
  if isPrecharged then do
    resetOngoingTimer
    let req ← buildPowerDeliveryReq true
    createNextMessage (some (.state .powerDelivery)) (.powerDeliveryReq req)
      Timeouts.powerDeliveryReq
  else if ← withinTime (fun timer => timer ≥ 0) (fun _ => true)
      Timeouts.v2gEvccPreChargeTimeout answers then do
    let req ← buildPreChargeReq
    createNextMessage none (.preChargeReq req) Timeouts.preChargeReq
  else
    pure ⟨⟩

/-- `PreCharge.process_message`. -/
def PreCharge.processMessage (answers : Answers) (message : V2GMessage) : Program ρ PUnit := do
  match ← checkMsg message fun res =>
      match res.response with
      | .preChargeRes _ evsePresentVoltage => some evsePresentVoltage
      | _ => none with
  | some evsePresentVoltage => PreCharge.onPreChargeRes answers evsePresentVoltage
  | none => pure ⟨⟩

/-! ## Charging -/

/-- `build_current_demand_req`, the same in `PowerDelivery` and `CurrentDemand`. Whether bulk
charging is complete is asked, and not kept here. -/
def buildCurrentDemandReq : Program ρ CurrentDemandReq := do
  let params ← ask .getDcChargeParams EVController.getDcChargeParams
  let dcEvStatus ← ask .getDcEvStatusDinspec EVController.getDcEvStatusDinspec
  let _ ← ask .isBulkChargingComplete EVController.isBulkChargingComplete
  let chargingComplete ← ask .isChargingComplete EVController.isChargingComplete
  let fullSoc ← ask .getRemainingTimeToFullSoc EVController.getRemainingTimeToFullSoc
  let bulkSoc ← ask .getRemainingTimeToBulkSoc EVController.getRemainingTimeToBulkSoc
  return {
    dcEvStatus := dcEvStatus
    evTargetCurrent := params.dcTargetCurrent
    evMaxVoltageLimit := some params.dcMaxVoltageLimit
    evMaxCurrentLimit := some params.dcMaxCurrentLimit
    evMaxPowerLimit := some params.dcMaxPowerLimit
    chargingComplete := chargingComplete
    remainingTimeToFullSoc := some fullSoc
    remainingTimeToBulkSoc := some bulkSoc
    evTargetVoltage := params.dcTargetVoltage }

/-- Whether the EV goes on charging decides on the next state, whatever was asked for. -/
def PowerDelivery.onPowerDeliveryRes : Program ρ PUnit := do
  let continues ← ask .continueCharging EVController.continueCharging
  if continues then do
    let req ← buildCurrentDemandReq
    createNextMessage (some (.state .currentDemand)) (.currentDemandReq req)
      Timeouts.currentDemandReq
  else do
    ask (.enableCharging false) (EVController.enableCharging false)
    let _ ← ask .getDcEvStatusDinspec EVController.getDcEvStatusDinspec
    createNextMessage (some (.state .weldingDetection)) .weldingDetectionReq
      Timeouts.weldingDetectionReq

/-- `PowerDelivery.process_message`. -/
def PowerDelivery.processMessage (message : V2GMessage) : Program ρ PUnit := do
  match ← checkMsg message fun res =>
      match res.response with
      | .powerDeliveryRes _ => some ()
      | _ => none with
  | some _ => PowerDelivery.onPowerDeliveryRes
  | none => pure ⟨⟩

/-- `stop_charging`. -/
def CurrentDemand.stopCharging : Program ρ PUnit := do
  ask .stopCharging EVController.stopCharging
  let req ← buildPowerDeliveryReq false
  createNextMessage (some (.state .powerDelivery)) (.powerDeliveryReq req)
    Timeouts.powerDeliveryReq

def CurrentDemand.onCurrentDemandRes (dcEvseStatus : DCEVSEStatus) : Program ρ PUnit := do
  if dcEvseStatus.evseStatusCode ≠ .evseReady then
    CurrentDemand.stopCharging
  else do
    let continues ← ask .continueCharging EVController.continueCharging
    if continues then do
      -- a delay that fails is no delay
      tryCatch (ask .chargeLoopDelay EVController.chargeLoopDelay) (fun _ => pure ⟨⟩)
      let req ← buildCurrentDemandReq
      createNextMessage none (.currentDemandReq req) Timeouts.currentDemandReq
    else
      CurrentDemand.stopCharging

/-- `CurrentDemand.process_message`. -/
def CurrentDemand.processMessage (message : V2GMessage) : Program ρ PUnit := do
  match ← checkMsg message fun res =>
      match res.response with
      | .currentDemandRes res => some res.dcEvseStatus
      | _ => none with
  | some dcEvseStatus => CurrentDemand.onCurrentDemandRes dcEvseStatus
  | none => pure ⟨⟩

/-! ## The end -/

def WeldingDetection.onWeldingDetectionRes (answers : Answers) : Program ρ PUnit := do
  if ← withinSequenceTime answers then do
    let _ ← ask .getDcEvStatusDinspec EVController.getDcEvStatusDinspec
    let finished ← ask .weldingDetectionHasFinished EVController.weldingDetectionHasFinished
    if finished then
      createNextMessage (some (.state .sessionStop)) .sessionStopReq Timeouts.sessionStopReq
    else
      createNextMessage none .weldingDetectionReq Timeouts.weldingDetectionReq
  else
    pure ⟨⟩

/-- `WeldingDetection.process_message`. -/
def WeldingDetection.processMessage (answers : Answers) (message : V2GMessage) :
    Program ρ PUnit := do
  match ← checkMsg message fun res =>
      match res.response with
      | .weldingDetectionRes _ _ => some ()
      | _ => none with
  | some _ => WeldingDetection.onWeldingDetectionRes answers
  | none => pure ⟨⟩

/-- No message is prepared. -/
def SessionStop.onSessionStopRes : Program ρ PUnit := do
  updateSession fun session => { session with stopReason := some { successful := true } }
  setNextState (some .terminate)

/-- `SessionStop.process_message`. -/
def SessionStop.processMessage (message : V2GMessage) : Program ρ PUnit := do
  match ← checkMsg message fun res =>
      match res.response with
      | .sessionStopRes => some ()
      | _ => none with
  | some _ => SessionStop.onSessionStopRes
  | none => pure ⟨⟩

/-! ## All states -/

/-- `process_message` of the current state. -/
def processMessage (answers : Answers) (message : V2GMessage) : Program ρ PUnit := do
  let world ← get
  match world.currentState.own with
  | .sessionSetup => SessionSetup.processMessage message
  | .serviceDiscovery => ServiceDiscovery.processMessage message
  | .servicePaymentSelection => ServicePaymentSelection.processMessage message
  | .contractAuthentication => ContractAuthentication.processMessage answers message
  | .chargeParameterDiscovery => ChargeParameterDiscovery.processMessage answers message
  | .cableCheck => CableCheck.processMessage answers message
  | .preCharge => PreCharge.processMessage answers message
  | .powerDelivery => PowerDelivery.processMessage message
  | .currentDemand => CurrentDemand.processMessage message
  | .weldingDetection => WeldingDetection.processMessage answers message
  | .sessionStop => SessionStop.processMessage message

/-- `EVCCCommunicationSession`, once DIN SPEC 70121 has been agreed on. -/
abbrev machine (ρ : Type) [EVController ρ] :
    SessionStateMachine (Received V2GMessage Answers) StateName StateName RequestMessage
      (World ρ) :=
  Evcc.machine id processMessage

end Iso15118.Evcc.Din
