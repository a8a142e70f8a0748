import Iso15118.Secc.SeccLoop
import Iso15118.Secc.V20.Routing

/-!
# What answering a request may change

A table of the controller methods that answering a request of each type can
call, and the variables of the session that only one type of request sets. Every
method that answers a request keeps to it, whether it returns or raises.
-/

namespace Iso15118.Secc.V20

open Effect
open Iso15118.Shared
open Iso15118.Shared.V20

/-- The controller methods that answering a request of a type may call. -/
def mayCall : RequestType → Call → Bool
  | .sessionSetupReq, .getEvseId => true
  | .authorizationSetupReq, .isEimAuthorized => true
  | .authorizationSetupReq, .getSupportedProviders => true
  | .authorizationReq, .isAuthorized => true
  | .serviceDiscoveryReq, .getEnergyServiceList => true
  | .serviceDiscoveryReq, .getVasList => true
  | .serviceDiscoveryReq, .serviceRenegotiationSupported => true
  | .serviceDetailReq, .getServiceParameterList _ => true
  | .scheduleExchangeReq, .getScheduleExchangeParams => true
  | .scheduleExchangeReq, .readyToCharge => true
  | .powerDeliveryReq, .setHlcCharging _ => true
  | .powerDeliveryReq, .stopCharger => true
  | .powerDeliveryReq, .isContactorOpened => true
  | .powerDeliveryReq, .isContactorClosed => true
  | .powerDeliveryReq, .getCpState => true
  | .sessionStopReq, .serviceRenegotiationSupported => true
  | .acChargeParameterDiscoveryReq, .getAcChargeParamsV20 => true
  | .acChargeParameterDiscoveryReq, .sendRatedLimits => true
  | .acChargeLoopReq, .getMeterInfoV20 => true
  | .acChargeLoopReq, .getEvseStatus => true
  | .acChargeLoopReq, .getAcChargeLoopParamsV20 => true
  | .acChargeLoopReq, .sendDisplayParams => true
  | .dcChargeParameterDiscoveryReq, .getDcChargeParamsV20 => true
  | .dcChargeParameterDiscoveryReq, .sendRatedLimits => true
  | .dcCableCheckReq, .startCableCheck => true
  | .dcCableCheckReq, .getCableCheckStatus => true
  | .dcCableCheckReq, .isContactorClosed => true
  | .dcPreChargeReq, .sendChargingCommand _ _ _ _ => true
  | .dcPreChargeReq, .getEvsePresentVoltage => true
  | .dcChargeLoopReq, .sendChargingCommand _ _ _ _ => true
  | .dcChargeLoopReq, .sendDisplayParams => true
  | .dcChargeLoopReq, .getDcChargeLoopParamsV20 => true
  | .dcChargeLoopReq, .getEvseStatus => true
  | .dcChargeLoopReq, .getMeterInfoV20 => true
  | .dcChargeLoopReq, .getEvsePresentCurrent => true
  | .dcChargeLoopReq, .getEvsePresentVoltage => true
  | .dcChargeLoopReq, .isEvsePowerLimitAchieved => true
  | .dcChargeLoopReq, .isEvseCurrentLimitAchieved => true
  | .dcChargeLoopReq, .isEvseVoltageLimitAchieved => true
  | .dcWeldingDetectionReq, .getEvsePresentVoltage => true
  | _, _ => false

/-- The states that answering a request of a type may go to. -/
def mayGoTo : RequestType → StateName → Bool
  | .sessionSetupReq, .authorizationSetup => true
  | .serviceSelectionReq, .acChargeParameterDiscovery => true
  | .serviceSelectionReq, .dcChargeParameterDiscovery => true
  | .acChargeParameterDiscoveryReq, .scheduleExchange => true
  | .dcChargeParameterDiscoveryReq, .scheduleExchange => true
  | .scheduleExchangeReq, .powerDelivery => true
  | .dcCableCheckReq, .dcPreCharge => true
  | .dcPreChargeReq, .powerDelivery => true
  | .powerDeliveryReq, .acChargeLoop => true
  | .powerDeliveryReq, .dcChargeLoop => true
  | .sessionStopReq, .serviceDiscovery => true
  | _, _ => false

/-- The type of request that a response answers. -/
def responseTo : Response → RequestType
  | .sessionSetupRes _ => .sessionSetupReq
  | .authorizationSetupRes _ => .authorizationSetupReq
  | .authorizationRes _ => .authorizationReq
  | .certificateInstallationRes => .certificateInstallationReq
  | .serviceDiscoveryRes _ => .serviceDiscoveryReq
  | .serviceDetailRes _ => .serviceDetailReq
  | .serviceSelectionRes => .serviceSelectionReq
  | .scheduleExchangeRes _ => .scheduleExchangeReq
  | .powerDeliveryRes => .powerDeliveryReq
  | .sessionStopRes => .sessionStopReq
  | .acChargeParameterDiscoveryRes => .acChargeParameterDiscoveryReq
  | .acChargeLoopRes _ => .acChargeLoopReq
  | .dcChargeParameterDiscoveryRes _ => .dcChargeParameterDiscoveryReq
  | .dcCableCheckRes _ => .dcCableCheckReq
  | .dcPreChargeRes _ => .dcPreChargeReq
  | .dcChargeLoopRes _ _ => .dcChargeLoopReq
  | .dcWeldingDetectionRes _ => .dcWeldingDetectionReq

/-- What answering a request of a type may respond. -/
def mayRespond (type : RequestType) (message : ResponseMessage) : Prop :=
  responseTo message.response = type

theorem responseTo_failedResponse (type : RequestType) :
    responseTo (failedResponse type) = type := by
  cases type <;> rfl

/-- The message, if it is a request, is one of the type. -/
def Asks (type : RequestType) (message : V2GMessage) : Prop :=
  ∀ req, message = .request req → req.request.requestType = type

theorem asks_request (message : RequestMessage) :
    Asks message.request.requestType (.request message) := by
  rintro _ ⟨⟩
  rfl

/-- The session without the variables that answering a request of a type may set. -/
def kept : RequestType → Session → Session
  | .sessionSetupReq, session =>
      { session with sessionId := "", evccId := none, stopReason := none }
  | .authorizationSetupReq, session =>
      { session with offeredAuthOptions := [], genChallenge := none, stopReason := none }
  | .authorizationReq, session => { session with selectedAuthOption := none, stopReason := none }
  | .serviceDiscoveryReq, session => { session with matchedServicesV20 := [], stopReason := none }
  | .serviceDetailReq, session => { session with matchedServicesV20 := [], stopReason := none }
  | .serviceSelectionReq, session =>
      { session with selectedEnergyService := none, controlMode := none, stopReason := none }
  | .scheduleExchangeReq, session =>
      { session with offeredSchedulesV20 := [], stopReason := none }
  | _, session => { session with stopReason := none }

/-- Any request may stop the session. -/
theorem kept_stopReason (type : RequestType) (stopReason : Option StopNotification)
    (session : Session) :
    kept type { session with stopReason := stopReason } = kept type session := by
  cases type <;> rfl

/-- A variable that is not erased stays. -/
theorem field_of_kept {α : Type} {type : RequestType} {before after : Session}
    (same : kept type after = kept type before) (field : Session → α)
    (keeps : ∀ session, field (kept type session) = field session) :
    field after = field before := by
  rw [← keeps after, same, keeps before]

section

variable {type : RequestType} {before after : Session}

/-- Only a `SessionSetupReq` sets the session id. -/
theorem sessionId_of_kept (same : kept type after = kept type before)
    (other : type ≠ .sessionSetupReq) : after.sessionId = before.sessionId := by
  cases type with
  | sessionSetupReq => exact absurd rfl other
  | _ => exact field_of_kept same Session.sessionId fun _ => rfl

/-- Only an `AuthorizationSetupReq` offers options and draws a challenge. -/
theorem offeredAuthOptions_of_kept (same : kept type after = kept type before)
    (other : type ≠ .authorizationSetupReq) :
    after.offeredAuthOptions = before.offeredAuthOptions := by
  cases type with
  | authorizationSetupReq => exact absurd rfl other
  | _ => exact field_of_kept same Session.offeredAuthOptions fun _ => rfl

theorem genChallenge_of_kept (same : kept type after = kept type before)
    (other : type ≠ .authorizationSetupReq) : after.genChallenge = before.genChallenge := by
  cases type with
  | authorizationSetupReq => exact absurd rfl other
  | _ => exact field_of_kept same Session.genChallenge fun _ => rfl

/-- Only a `ServiceSelectionReq` selects the energy service. -/
theorem selectedEnergyService_of_kept (same : kept type after = kept type before)
    (other : type ≠ .serviceSelectionReq) :
    after.selectedEnergyService = before.selectedEnergyService := by
  cases type with
  | serviceSelectionReq => exact absurd rfl other
  | _ => exact field_of_kept same Session.selectedEnergyService fun _ => rfl

/-- Only a `ScheduleExchangeReq` offers schedules. -/
theorem offeredSchedulesV20_of_kept (same : kept type after = kept type before)
    (other : type ≠ .scheduleExchangeReq) :
    after.offeredSchedulesV20 = before.offeredSchedulesV20 := by
  cases type with
  | scheduleExchangeReq => exact absurd rfl other
  | _ => exact field_of_kept same Session.offeredSchedulesV20 fun _ => rfl

/-- Only the requests for the services and for their details change what has been matched. -/
theorem matchedServicesV20_of_kept (same : kept type after = kept type before)
    (discovers : type ≠ .serviceDiscoveryReq) (details : type ≠ .serviceDetailReq) :
    after.matchedServicesV20 = before.matchedServicesV20 := by
  cases type with
  | serviceDiscoveryReq => exact absurd rfl discovers
  | serviceDetailReq => exact absurd rfl details
  | _ => exact field_of_kept same Session.matchedServicesV20 fun _ => rfl

end

/-- The table of ISO 15118-20. Nothing is said about the data of the EV. -/
def guide : Guide Session Own StateName ResponseMessage Call RequestType where
  table := stateTable
  mayCall := mayCall
  mayGoTo := mayGoTo
  mayRespond := mayRespond
  mayRefuse type message := message.response = failedResponse type
  kept := kept
  keptEvData _ _ := {}

variable {σ : Type}

/-! ## The steps of the methods -/

section Steps

variable {type : RequestType}

theorem effects_createNextMessage {nextState : Option (NextState StateName)}
    {responseCode : ResponseCode} {response : Response} {timeout : ℚ}
    (responds : responseTo response = type)
    (allowed : ∀ name, nextState = some (.state name) → mayGoTo type name = true) :
    Keeps (Effects guide type)
      (createNextMessage nextState responseCode response timeout : Program σ PUnit) :=
  effects_createMessage (fun _ => responds) allowed

/-- The message is answered and the object stays. -/
theorem effects_stay {responseCode : ResponseCode} {response : Response} {timeout : ℚ}
    (responds : responseTo response = type) :
    Keeps (Effects guide type)
      (createNextMessage none responseCode response timeout : Program σ PUnit) :=
  effects_createNextMessage responds nofun

theorem effects_goTo {name : StateName} {responseCode : ResponseCode} {response : Response}
    {timeout : ℚ} (responds : responseTo response = type)
    (allowed : mayGoTo type name = true) :
    Keeps (Effects guide type)
      (createNextMessage (some (.state name)) responseCode response timeout :
        Program σ PUnit) := by
  apply effects_createNextMessage responds
  intro other same
  cases same
  exact allowed

theorem effects_onEvData {program : EStateM PyError EVDataContext PUnit} :
    Keeps (Effects guide type) (onEvData program : Program σ PUnit) :=
  keeps_zoom fun _ _ =>
    { name := id
      successor := fun _ goes => .inl goes
      message := fun _ made => .inl made
      calls := fun _ made => .inl made
      session := rfl
      evData := rfl }

theorem effects_stopStateMachine {message : V2GMessage} {responseCode : ResponseCode}
    (asked : Asks type message) :
    Keeps (Effects guide type) (stopStateMachine message responseCode : Program σ PUnit) := by
  apply keeps_stopStateMachine
  · exact effects_updateSession (kept_stopReason type (some { successful := false }))
  · intro request same
    exact effects_createNextMessage
      ((responseTo_failedResponse _).trans (asked request same)) nofun

theorem effects_selectedService :
    Keeps (Effects guide type) (selectedService : Program σ ServiceV20) := by
  apply keeps_bind keeps_get
  intro world
  split
  · exact keeps_pure _
  · exact keeps_throw _

theorem effects_readMeter {answers : Answers} {meterInfoRequested : Bool}
    (allowed : mayCall type .getMeterInfoV20 = true) :
    Keeps (Effects guide type) (readMeter answers meterInfoRequested : Program σ PUnit) := by
  unfold readMeter
  split
  · exact effects_ask allowed
  · exact keeps_pure _

end Steps

/-! ## The methods that answer requests -/

section Methods

variable (environment : Environment) (answers : Answers) (message : V2GMessage)

theorem SessionStop.onSessionStopReq_effects (req : SessionStopReq) :
    Keeps (Effects guide .sessionStopReq) (onSessionStopReq answers req : Program σ PUnit) := by
  apply keeps_bind
  · unfold renegotiates
    split
    · exact effects_ask rfl
    · exact keeps_pure _
  · intro renegotiation
    apply keeps_bind
    · exact effects_updateSession fun _ => rfl
    · intro _
      split
      · exact effects_goTo rfl rfl
      · exact effects_createNextMessage rfl nofun

theorem SessionSetup.onSessionSetupReq_effects (header : MessageHeader)
    (req : SessionSetupReq) :
    Keeps (Effects guide .sessionSetupReq)
      (onSessionSetupReq answers header req : Program σ PUnit) := by
  apply keeps_bind keeps_get
  intro world
  apply keeps_bind (effects_ask rfl)
  intro evseId
  apply keeps_bind
  · exact effects_updateSession fun _ => rfl
  · intro _
    exact effects_goTo rfl rfl

theorem setControlMode_effects (parameters : List Parameter) :
    Keeps (Effects guide .serviceSelectionReq) (setControlMode parameters : Program σ PUnit) := by
  apply keeps_forM
  intro param
  split
  · split
    · exact effects_updateSession fun _ => rfl
    · exact effects_updateSession fun _ => rfl
    · exact keeps_throw _
  · exact keeps_pure _

theorem storeSelection_effects (req : ServiceSelectionReq) (offeredService : MatchedService) :
    Keeps (Effects guide .serviceSelectionReq)
      (storeSelection req offeredService : Program σ PUnit) := by
  unfold storeSelection
  split
  next energyService =>
    split
    · split
      · apply keeps_bind
        · exact effects_updateSession fun _ => rfl
        · intro _
          exact setControlMode_effects _
      · exact keeps_throw _
    · exact keeps_pure _
  next otherService =>
    apply keeps_forM
    intro vas
    exact keeps_pure _

theorem ServiceSelection.onServiceSelectionReq_effects [DiagnosticService σ]
    (req : ServiceSelectionReq)
    (asked : Asks .serviceSelectionReq message) :
    Keeps (Effects guide .serviceSelectionReq)
      (onServiceSelectionReq message req : Program σ PUnit) := by
  apply keeps_bind
  · apply keeps_bind keeps_get
    intro world
    split
    · exact keeps_pure _
    · apply keeps_bind (keeps_forM (storeSelection_effects req))
      intro _
      apply keeps_bind
      · apply keeps_forM
        intro vas
        exact keeps_modify fun _ => effects_of_eq rfl rfl rfl rfl
      · intro _
        exact keeps_pure _
  · intro error
    split
    · exact effects_stopStateMachine asked
    · dsimp only
      split
      · exact effects_goTo rfl rfl
      · split
        · exact effects_goTo rfl rfl
        · exact effects_stopStateMachine asked

theorem ServiceDetail.onServiceDetailReq_effects (req : ServiceDetailReq) :
    Keeps (Effects guide .serviceDetailReq) (onServiceDetailReq answers req : Program σ PUnit) := by
  apply keeps_bind (effects_ask rfl)
  intro serviceParameterList
  apply keeps_bind keeps_get
  intro world
  split
  · exact keeps_throw _
  · apply keeps_bind
    · exact effects_updateSession fun _ => rfl
    · intro _
      apply keeps_bind
      · exact effects_stay rfl
      intro _
      exact effects_setOwn rfl

theorem appendMatched_effects (offered : Service) (isEnergyService : Bool)
    (parameterSets : List ParameterSet) :
    Keeps (Effects guide .serviceDiscoveryReq)
      (appendMatched offered isEnergyService parameterSets : Program σ PUnit) := by
  unfold appendMatched
  split
  · exact effects_updateSession fun _ => rfl
  · exact keeps_throw _

theorem ServiceDiscovery.onServiceDiscoveryReq_effects [DiagnosticService σ] :
    Keeps (Effects guide .serviceDiscoveryReq)
      (onServiceDiscoveryReq answers : Program σ PUnit) := by
  apply keeps_bind (effects_ask rfl)
  intro offeredEnergyServices
  apply keeps_bind (keeps_forM fun _ => appendMatched_effects _ _ _)
  intro _
  apply keeps_bind (effects_ask rfl)
  intro offeredVas
  apply keeps_bind
  · apply keeps_bind keeps_get
    intro world
    split
    · exact keeps_forM fun _ => appendMatched_effects _ _ _
    · exact keeps_pure _
  · intro _
    apply keeps_bind (effects_ask rfl)
    intro serviceRenegotiationSupported
    apply keeps_bind
    · exact effects_stay rfl
    intro _
    exact effects_setOwn rfl

theorem Authorization.respond_effects (req : AuthorizationReq) (responseCode : ResponseCode) :
    Keeps (Effects guide .authorizationReq)
      (respond answers req responseCode : Program σ PUnit) := by
  apply keeps_bind (effects_ask rfl)
  intro currentAuthorizationStatus
  apply keeps_bind
  · exact effects_stay rfl
  intro _
  exact effects_setOwn rfl

theorem Authorization.onAuthorizationReq_effects (header : MessageHeader)
    (req : AuthorizationReq)
    (asked : Asks .authorizationReq message) :
    Keeps (Effects guide .authorizationReq)
      (onAuthorizationReq environment answers message header req : Program σ PUnit) := by
  apply keeps_bind
  · exact effects_updateSession fun _ => rfl
  · intro _
    split
    · apply keeps_bind (keeps_ofExcept _)
      intro verified
      split
      · apply keeps_bind keeps_get
        intro world
        split
        · exact respond_effects answers req _
        · exact respond_effects answers req _
      · exact effects_stopStateMachine asked
    · exact respond_effects answers req _

theorem AuthorizationSetup.pncAsRes_effects (supportedAuthOptions : List AuthEnum) :
    Keeps (Effects guide .authorizationSetupReq)
      (pncAsRes answers supportedAuthOptions : Program σ (Option PnCAuthSetupResParams)) := by
  unfold pncAsRes
  split
  · apply keeps_bind
    · exact effects_updateSession fun _ => rfl
    · intro _
      apply keeps_bind (effects_ask rfl)
      intro supportedProviders
      exact keeps_pure _
  · exact keeps_pure _

theorem AuthorizationSetup.onAuthorizationSetupReq_effects :
    Keeps (Effects guide .authorizationSetupReq)
      (onAuthorizationSetupReq environment answers : Program σ PUnit) := by
  apply keeps_bind (effects_ask rfl)
  intro eimAuthorized
  apply keeps_bind (pncAsRes_effects answers _)
  intro pncAsRes
  dsimp only
  apply keeps_bind
  · exact effects_updateSession fun _ => rfl
  · intro _
    split
    · exact keeps_throw _
    · apply keeps_bind
      · exact effects_stay rfl
      intro _
      exact effects_setOwn rfl

theorem DCWeldingDetection.onDcWeldingDetectionReq_effects :
    Keeps (Effects guide .dcWeldingDetectionReq)
      (onDcWeldingDetectionReq answers : Program σ PUnit) := by
  apply keeps_bind (effects_setOwn rfl)
  intro _
  apply keeps_bind (effects_ask rfl)
  intro evsePresentVoltage
  exact effects_stay rfl

theorem PowerDelivery.stopCharging_effects (responseCode : ResponseCode)
    (asked : Asks .powerDeliveryReq message) :
    Keeps (Effects guide .powerDeliveryReq)
      (stopCharging answers message responseCode : Program σ PUnit) := by
  apply keeps_bind (effects_ask rfl)
  intro _
  apply keeps_bind (effects_ask rfl)
  intro _
  apply keeps_bind (effects_ask rfl)
  intro contactorOpened
  split
  · exact effects_stay rfl
  · exact effects_stopStateMachine asked

theorem PowerDelivery.scheduleValid_effects {type : RequestType} (req : PowerDeliveryReq) :
    Keeps (Effects guide type) (scheduleValid req : Program σ Bool) := by
  apply keeps_bind keeps_get
  intro world
  split
  · exact keeps_ofExcept _
  · exact keeps_pure _

theorem PowerDelivery.startCharging_effects (req : PowerDeliveryReq)
    (responseCode : ResponseCode)
    (asked : Asks .powerDeliveryReq message) :
    Keeps (Effects guide .powerDeliveryReq)
      (startCharging answers message req responseCode : Program σ PUnit) := by
  apply keeps_bind (scheduleValid_effects req)
  intro valid
  split
  · apply keeps_bind (effects_ask rfl)
    intro _
    apply keeps_bind (effects_ask rfl)
    intro _
    apply keeps_bind (effects_ask rfl)
    intro contactorClosed
    split
    · apply keeps_bind effects_selectedService
      intro service
      unfold chargeLoop
      split
      · exact effects_goTo rfl rfl
      · split
        · exact effects_goTo rfl rfl
        · exact effects_stay rfl
    · apply keeps_bind (effects_ask rfl)
      intro _
      exact effects_stopStateMachine asked
  · exact effects_stopStateMachine asked

theorem PowerDelivery.onPowerDeliveryReq_effects (req : PowerDeliveryReq)
    (asked : Asks .powerDeliveryReq message) :
    Keeps (Effects guide .powerDeliveryReq)
      (onPowerDeliveryReq environment answers message req : Program σ PUnit) := by
  unfold onPowerDeliveryReq
  split
  · exact effects_stay rfl
  · dsimp only
    split
    · exact effects_stopStateMachine asked
    · split
      · exact effects_stopStateMachine asked
      · split
        · exact stopCharging_effects answers message _ asked
        · exact startCharging_effects answers message req _ asked

theorem DCCableCheck.startOnce_effects (contactorsClosed cableCheckStarted : Bool) :
    Keeps (Effects guide .dcCableCheckReq)
      (startOnce answers contactorsClosed cableCheckStarted : Program σ PUnit) := by
  unfold startOnce
  split
  · exact keeps_pure _
  · apply keeps_bind (effects_ask rfl)
    intro _
    exact effects_setOwn rfl

theorem DCCableCheck.onDcCableCheckReq_effects (contactorsClosed cableCheckStarted : Bool)
    (asked : Asks .dcCableCheckReq message) :
    Keeps (Effects guide .dcCableCheckReq)
      (onDcCableCheckReq answers message contactorsClosed cableCheckStarted :
        Program σ PUnit) := by
  apply keeps_bind (startOnce_effects answers _ _)
  intro _
  split
  · apply keeps_bind (effects_ask rfl)
    intro isolationLevel
    split
    · exact effects_goTo rfl rfl
    · split
      · exact effects_stopStateMachine asked
      · exact effects_stay rfl
  · apply keeps_bind (effects_ask rfl)
    intro contactorsClosedForCableCheck
    split
    · apply keeps_bind (effects_setOwn rfl)
      intro _
      exact effects_stay rfl
    · exact effects_stopStateMachine asked
    · exact effects_stay rfl

theorem DCPreCharge.respond_effects {nextState : Option (NextState StateName)}
    (allowed : ∀ name, nextState = some (.state name) → mayGoTo .dcPreChargeReq name = true) :
    Keeps (Effects guide .dcPreChargeReq) (respond answers nextState : Program σ PUnit) := by
  apply keeps_bind (effects_ask rfl)
  intro evsePresentVoltage
  exact effects_createNextMessage rfl allowed

theorem DCPreCharge.onDcPreChargeReq_effects (req : DCPreChargeReq)
    (asked : Asks .dcPreChargeReq message) :
    Keeps (Effects guide .dcPreChargeReq)
      (onDcPreChargeReq answers message req : Program σ PUnit) := by
  apply keeps_bind (effects_setOwn rfl)
  intro _
  apply keeps_bind effects_onEvData
  intro _
  split
  · apply respond_effects answers
    intro name same
    cases same
    rfl
  · apply keeps_bind keeps_get
    intro world
    apply keeps_bind
    · apply keeps_tryCatch
      · apply keeps_bind (effects_ask rfl)
        intro _
        exact keeps_pure _
      · intro exception
        split
        · exact keeps_pure _
        · exact keeps_throw _
    · intro timedOut
      split
      · exact effects_stopStateMachine asked
      · exact respond_effects answers nofun

theorem ScheduleExchange.finish_effects (controlMode : Option ControlMode)
    (res : ScheduleExchangeRes) :
    Keeps (Effects guide .scheduleExchangeReq) (finish controlMode res : Program σ ServiceV20) := by
  apply keeps_bind keeps_get
  intro world
  apply keeps_bind (keeps_ofExcept _)
  intro evseDataContext
  apply keeps_bind
  · exact keeps_modify fun _ => effects_of_eq rfl rfl rfl rfl
  · intro _
    exact effects_selectedService

theorem ScheduleExchange.respond_effects (controlMode : Option ControlMode)
    (params : Option ScheduleExchangeResParams) :
    Keeps (Effects guide .scheduleExchangeReq)
      (respond answers controlMode params : Program σ PUnit) := by
  apply keeps_bind (effects_ask rfl)
  intro readyToCharge
  split
  · apply keeps_bind
    · unfold offerSchedules
      split
      · exact effects_updateSession fun _ => rfl
      · exact keeps_pure _
    · intro _
      apply keeps_bind (keeps_ofExcept _)
      intro res
      apply keeps_bind (finish_effects controlMode res)
      intro service
      unfold nextState
      split
      · exact effects_goTo rfl rfl
      · exact effects_stay rfl
  · apply keeps_bind (keeps_ofExcept _)
    intro res
    exact effects_stay rfl

theorem ScheduleExchange.onScheduleExchangeReq_effects (req : ScheduleExchangeReq)
    (asked : Asks .scheduleExchangeReq message) :
    Keeps (Effects guide .scheduleExchangeReq)
      (onScheduleExchangeReq answers message req : Program σ PUnit) := by
  apply keeps_bind keeps_get
  intro world
  apply keeps_bind effects_onEvData
  intro _
  apply keeps_bind (effects_ask rfl)
  intro params
  split
  · exact effects_stopStateMachine asked
  · exact respond_effects answers _ params

/-- The parameters of either kind of current are asked for and stored, unless the energy service
is unknown. -/
theorem effects_storeParameters {type : RequestType} {α β : Type} {call : Call}
    {answer : Except PyError α} {buildRes : α → Except PyError β}
    {evse : β → EStateM PyError EVSEDataContext PUnit}
    {ev : EStateM PyError EVDataContext PUnit} (asks : mayCall type call = true)
    (sends : mayCall type .sendRatedLimits = true) :
    Keeps (Effects guide type)
      (tryCatch
        (do
          let params ← ask call answer
          let res ← Effect.ofExcept (buildRes params)
          onEvseData (evse res)
          onEvData ev
          ask .sendRatedLimits answers.sendRatedLimits
          pure (some res))
        (fun exception =>
          if exception = .unknownEnergyService then pure none else throw exception) :
        Program σ (Option β)) := by
  apply keeps_tryCatch
  · apply keeps_bind (effects_ask asks)
    intro params
    apply keeps_bind (keeps_ofExcept _)
    intro res
    apply keeps_bind effects_onEvseData
    intro _
    apply keeps_bind effects_onEvData
    intro _
    apply keeps_bind (effects_ask sends)
    intro _
    exact keeps_pure _
  · intro exception
    split
    · exact keeps_pure _
    · exact keeps_throw _

theorem DCChargeParameterDiscovery.onDcChargeParameterDiscoveryReq_effects
    (req : DCChargeParameterDiscoveryReq)
    (asked : Asks .dcChargeParameterDiscoveryReq message) :
    Keeps (Effects guide .dcChargeParameterDiscoveryReq)
      (onDcChargeParameterDiscoveryReq answers message req : Program σ PUnit) := by
  apply keeps_bind effects_selectedService
  intro energyService
  apply keeps_bind
  · exact effects_storeParameters answers rfl rfl
  · intro res
    split
    · exact effects_goTo rfl rfl
    · exact effects_stopStateMachine asked

theorem DCChargeLoop.buildDcChargeLoopRes_effects (meterInfoRequested : Bool) :
    Keeps (Effects guide .dcChargeLoopReq)
      (buildDcChargeLoopRes answers meterInfoRequested : Program σ Response) := by
  apply keeps_bind keeps_get
  intro world
  apply keeps_bind effects_selectedService
  intro service
  apply keeps_bind (effects_ask rfl)
  intro params
  apply keeps_bind (effects_ask rfl)
  intro evseStatus
  apply keeps_bind (effects_readMeter rfl)
  intro _
  apply keeps_bind (effects_ask rfl)
  intro evsePresentCurrent
  apply keeps_bind (effects_ask rfl)
  intro evsePresentVoltage
  apply keeps_bind (effects_ask rfl)
  intro powerLimitAchieved
  apply keeps_bind (effects_ask rfl)
  intro currentLimitAchieved
  apply keeps_bind (effects_ask rfl)
  intro voltageLimitAchieved
  apply keeps_bind (keeps_ofExcept _)
  intro params
  exact keeps_pure _

theorem DCChargeLoop.responseTo_buildDcChargeLoopRes (meterInfoRequested : Bool)
    (world : World σ) :
    wp (buildDcChargeLoopRes answers meterInfoRequested)
      (fun res _ => responseTo res = .dcChargeLoopReq) (fun _ _ => True) world := by
  revert world
  iterate 11
    apply returned_bind
    intro _
  exact fun _ => rfl

theorem DCChargeLoop.onDcChargeLoopReq_effects [DiagnosticService σ] (req : DCChargeLoopReq)
    (asked : Asks .dcChargeLoopReq message) :
    Keeps (Effects guide .dcChargeLoopReq)
      (onDcChargeLoopReq answers message req : Program σ PUnit) := by
  apply keeps_bind (effects_setOwn rfl)
  intro _
  apply keeps_bind effects_selectedService
  intro service
  apply keeps_bind keeps_get
  intro world
  apply keeps_bind effects_onEvData
  intro _
  apply keeps_bind keeps_get
  intro world
  apply keeps_bind (keeps_ofExcept _)
  intro cycled
  apply keeps_bind
  · exact keeps_modify fun _ => effects_of_eq rfl rfl rfl rfl
  · intro _
    apply keeps_bind
    · apply keeps_tryCatch
      · apply keeps_bind (effects_ask rfl)
        intro _
        exact keeps_pure _
      · intro exception
        exact keeps_pure _
    · intro sent
      split
      · apply keeps_bind (effects_ask rfl)
        intro _
        apply keeps_bind_of (buildDcChargeLoopRes_effects answers _)
          (responseTo_buildDcChargeLoopRes answers _)
        intro res responds
        exact effects_stay responds
      · exact effects_stopStateMachine asked

theorem ACChargeParameterDiscovery.responseTo_acChargeParameterDiscoveryRes
    (energyService : ServiceV20) (params : Option ACResParams) (world : World σ) :
    wp (Effect.ofExcept (acChargeParameterDiscoveryRes energyService params))
      (fun res _ => responseTo res = .acChargeParameterDiscoveryReq) (fun _ _ => True) world := by
  unfold acChargeParameterDiscoveryRes
  split
  all_goals
    first
    | rfl
    | trivial

theorem ACChargeParameterDiscovery.responseTo_res (req : ACChargeParameterDiscoveryReq)
    (energyService : ServiceV20) (world : World σ) :
    wp (tryCatch
        (do
          let params ← ask .getAcChargeParamsV20 answers.getAcChargeParamsV20
          let res ← Effect.ofExcept (acChargeParameterDiscoveryRes energyService params)
          onEvseData (modify fun context => { context with currentType := some .ac })
          onEvData (EVDataContext.updateAcChargeParametersV20 energyService req)
          ask .sendRatedLimits answers.sendRatedLimits
          pure (some res))
        (fun exception =>
          if exception = .unknownEnergyService then pure none else throw exception))
      (fun res _ => ∀ response, res = some response →
        responseTo response = .acChargeParameterDiscoveryReq) (fun _ _ => True) world := by
  revert world
  apply returned_tryCatch
  · apply returned_bind
    intro params
    apply returned_bind_of
    · exact responseTo_acChargeParameterDiscoveryRes energyService params
    · intro res responds
      iterate 3
        apply returned_bind
        intro _
      rintro _ _ ⟨⟩
      exact responds
  · intro exception
    split
    · rintro _ _ ⟨⟩
    · exact fun _ => trivial

theorem ACChargeParameterDiscovery.onAcChargeParameterDiscoveryReq_effects
    (req : ACChargeParameterDiscoveryReq)
    (asked : Asks .acChargeParameterDiscoveryReq message) :
    Keeps (Effects guide .acChargeParameterDiscoveryReq)
      (onAcChargeParameterDiscoveryReq answers message req : Program σ PUnit) := by
  apply keeps_bind effects_selectedService
  intro energyService
  apply keeps_bind_of _ (responseTo_res answers req energyService)
  · intro res responds
    split
    next response => exact effects_goTo (responds response rfl) rfl
    next => exact effects_stopStateMachine asked
  · exact effects_storeParameters answers rfl rfl

theorem ACChargeLoop.responseTo_acChargeLoopRes (service : ServiceV20)
    (controlMode : Option ControlMode) (params : Option ACLoopResParams)
    (evseStatus : Option EVSEStatus) (world : World σ) :
    wp (Effect.ofExcept (acChargeLoopRes service controlMode params evseStatus))
      (fun res _ => responseTo res = .acChargeLoopReq) (fun _ _ => True) world := by
  unfold acChargeLoopRes
  split
  all_goals
    first
    | rfl
    | trivial

theorem ACChargeLoop.onAcChargeLoopReq_effects (req : ACChargeLoopReq) :
    Keeps (Effects guide .acChargeLoopReq) (onAcChargeLoopReq answers req : Program σ PUnit) := by
  apply keeps_bind effects_selectedService
  intro service
  apply keeps_bind keeps_get
  intro world
  apply keeps_bind effects_onEvData
  intro _
  apply keeps_bind (effects_readMeter rfl)
  intro _
  apply keeps_bind (effects_ask rfl)
  intro evseStatus
  apply keeps_bind (effects_ask rfl)
  intro params
  apply keeps_bind_of (keeps_ofExcept _)
    (responseTo_acChargeLoopRes service _ params evseStatus)
  intro res responds
  apply keeps_bind (effects_ask rfl)
  intro _
  exact effects_stay responds

end Methods

theorem answer_effects [DiagnosticService σ] (environment : Environment) (answers : Answers)
    (message : RequestMessage) (own : Own) :
    Keeps (Effects guide message.request.requestType)
      (answer environment answers message own : Program σ PUnit) := by
  rcases message with ⟨header, request⟩
  cases request with
  | sessionSetupReq req => exact SessionSetup.onSessionSetupReq_effects _ _ _
  | authorizationSetupReq => exact AuthorizationSetup.onAuthorizationSetupReq_effects _ _
  | authorizationReq req =>
      exact Authorization.onAuthorizationReq_effects _ _ _ _ _ (asks_request _)
  | certificateInstallationReq => exact keeps_throw _
  | serviceDiscoveryReq req => exact ServiceDiscovery.onServiceDiscoveryReq_effects _
  | serviceDetailReq req => exact ServiceDetail.onServiceDetailReq_effects _ _
  | serviceSelectionReq req =>
      exact ServiceSelection.onServiceSelectionReq_effects _ _ (asks_request _)
  | scheduleExchangeReq req =>
      exact ScheduleExchange.onScheduleExchangeReq_effects _ _ _ (asks_request _)
  | powerDeliveryReq req => exact PowerDelivery.onPowerDeliveryReq_effects _ _ _ _ (asks_request _)
  | sessionStopReq req => exact SessionStop.onSessionStopReq_effects _ _
  | acChargeParameterDiscoveryReq req =>
      exact ACChargeParameterDiscovery.onAcChargeParameterDiscoveryReq_effects _ _ _
        (asks_request _)
  | acChargeLoopReq req => exact ACChargeLoop.onAcChargeLoopReq_effects _ _
  | dcChargeParameterDiscoveryReq req =>
      exact DCChargeParameterDiscovery.onDcChargeParameterDiscoveryReq_effects _ _ _
        (asks_request _)
  | dcCableCheckReq => exact DCCableCheck.onDcCableCheckReq_effects _ _ _ _ (asks_request _)
  | dcPreChargeReq req => exact DCPreCharge.onDcPreChargeReq_effects _ _ _ (asks_request _)
  | dcChargeLoopReq req => exact DCChargeLoop.onDcChargeLoopReq_effects _ _ _ (asks_request _)
  | dcWeldingDetectionReq req => exact DCWeldingDetection.onDcWeldingDetectionReq_effects _

end Iso15118.Secc.V20
