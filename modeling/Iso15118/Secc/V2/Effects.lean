import Iso15118.Secc.SeccLoop
import Iso15118.Secc.V2.Routing

/-!
# What answering a request may change

The table of the controller methods that answering a request of each type can
call, of the states that it can go to, and of the variables that it can set. Every
method that answers a request keeps to it, whether it returns or raises. With it
ISO 15118-2 is a protocol of the receive loop.
-/

namespace Iso15118.Secc.V2

open Effect
open Iso15118.Shared
open Iso15118.Shared.V2

/-- The controller methods that answering a request of a type may call. -/
def mayCall : RequestType → Call → Bool
  | .sessionSetupReq, .getEvseId => true
  | .serviceDiscoveryReq, .isEimAuthorized => true
  | .serviceDiscoveryReq, .getSupportedEnergyTransferModes => true
  | .certificateInstallationReq, .get15118EvCertificate => true
  | .paymentDetailsReq, .isAuthorized _ => true
  | .authorizationReq, .isAuthorized _ => true
  | .authorizationReq, .readyToCharge => true
  | .chargeParameterDiscoveryReq, .getSupportedEnergyTransferModes => true
  | .chargeParameterDiscoveryReq, .getAcChargeParamsV2 => true
  | .chargeParameterDiscoveryReq, .getDcChargeParametersV2 => true
  | .chargeParameterDiscoveryReq, .sendRatedLimits => true
  | .chargeParameterDiscoveryReq, .getSaScheduleList _ => true
  | .powerDeliveryReq, .setHlcCharging _ => true
  | .powerDeliveryReq, .stopCharger => true
  | .powerDeliveryReq, .isContactorOpened => true
  | .powerDeliveryReq, .isContactorClosed => true
  | .powerDeliveryReq, .getCpState => true
  | .powerDeliveryReq, .getAcEvseStatus => true
  | .powerDeliveryReq, .getDcEvseStatus => true
  | .meteringReceiptReq, .getAcEvseStatus => true
  | .meteringReceiptReq, .getDcEvseStatus => true
  | .chargingStatusReq, .getEvseId => true
  | .chargingStatusReq, .getAcEvseStatus => true
  | .chargingStatusReq, .getEvseMaxCurrentLimit => true
  | .cableCheckReq, .startCableCheck => true
  | .cableCheckReq, .getCableCheckStatus => true
  | .cableCheckReq, .isContactorClosed => true
  | .cableCheckReq, .getDcEvseStatus => true
  | .preChargeReq, .getEvsePresentCurrent => true
  | .preChargeReq, .sendChargingCommand _ _ isPrecharge => isPrecharge
  | .preChargeReq, .getDcEvseStatus => true
  | .preChargeReq, .getEvsePresentVoltage => true
  | .currentDemandReq, .sendChargingCommand _ _ isPrecharge => !isPrecharge
  | .currentDemandReq, .sendDisplayParams => true
  | .currentDemandReq, .getDcEvseStatus => true
  | .currentDemandReq, .getEvsePresentVoltage => true
  | .currentDemandReq, .getEvsePresentCurrent => true
  | .currentDemandReq, .isEvsePowerLimitAchieved => true
  | .currentDemandReq, .isEvseCurrentLimitAchieved => true
  | .currentDemandReq, .isEvseVoltageLimitAchieved => true
  | .currentDemandReq, .getEvseMaxVoltageLimit => true
  | .currentDemandReq, .getEvseMaxCurrentLimit => true
  | .currentDemandReq, .getEvseMaxPowerLimit => true
  | .currentDemandReq, .getEvseId => true
  | .weldingDetectionReq, .getDcEvseStatus => true
  | .weldingDetectionReq, .getEvsePresentVoltage => true
  | _, _ => false

/-- The states that answering a request of a type may go to. -/
def mayGoTo : RequestType → StateName → Bool
  | .sessionSetupReq, .serviceDiscovery => true
  | .certificateInstallationReq, .paymentDetails => true
  | .paymentDetailsReq, .authorization => true
  | .authorizationReq, .chargeParameterDiscovery => true
  | .chargeParameterDiscoveryReq, .powerDelivery => true
  | .chargeParameterDiscoveryReq, .cableCheck => true
  | .cableCheckReq, .preCharge => true
  | .powerDeliveryReq, .chargingStatus => true
  | .powerDeliveryReq, .currentDemand => true
  | .powerDeliveryReq, .sessionStop => true
  | .powerDeliveryReq, .chargeParameterDiscovery => true
  | _, _ => false

/-- The type of request that a response answers. -/
def responseTo : Response → RequestType
  | .sessionSetupRes _ => .sessionSetupReq
  | .serviceDiscoveryRes _ => .serviceDiscoveryReq
  | .serviceDetailRes _ _ => .serviceDetailReq
  | .paymentServiceSelectionRes => .paymentServiceSelectionReq
  | .certificateInstallationRes => .certificateInstallationReq
  | .paymentDetailsRes _ => .paymentDetailsReq
  | .authorizationRes _ => .authorizationReq
  | .chargeParameterDiscoveryRes _ => .chargeParameterDiscoveryReq
  | .powerDeliveryRes _ _ => .powerDeliveryReq
  | .meteringReceiptRes _ _ => .meteringReceiptReq
  | .sessionStopRes => .sessionStopReq
  | .chargingStatusRes _ _ _ _ _ _ => .chargingStatusReq
  | .cableCheckRes _ _ => .cableCheckReq
  | .preChargeRes _ _ => .preChargeReq
  | .currentDemandRes _ => .currentDemandReq
  | .weldingDetectionRes _ _ => .weldingDetectionReq

/-- What answering a request of a type may respond. The response of a backend to a
`CertificateInstallationReq` is passed on as it is. -/
def mayRespond (type : RequestType) (message : ResponseMessage) : Prop :=
  responseTo message.response = type ∨ type = .certificateInstallationReq

theorem responseTo_failedResponse {type : RequestType} {response : Response}
    (failed : failedResponse type = some response) : responseTo response = type := by
  cases type <;> cases failed <;> rfl

/-- The message, if it is a request, is one of the type. -/
def Asks (type : RequestType) (message : V2GMessage) : Prop :=
  ∀ req, message = .request req → req.request.requestType = type

theorem asks_request (message : RequestMessage) :
    Asks message.request.requestType (.request message) := by
  rintro _ ⟨⟩
  rfl

/-- The session without the variables that answering a request of a type may set. -/
def kept (type : RequestType) (session : Session) : Session :=
  let session := { session with stopReason := none }
  match type with
  | .sessionSetupReq =>
      { session with sessionId := "", evSessionContext := none, evccId := none }
  | .serviceDiscoveryReq =>
      { session with
        evSessionContext := none
        offeredAuthOptions := []
        offeredServices := [] }
  | .paymentServiceSelectionReq =>
      { session with evSessionContext := none, selectedAuthOption := none }
  | .paymentDetailsReq =>
      { session with emaid := none, contractCertChain := none, genChallenge := none }
  | .chargeParameterDiscoveryReq =>
      { session with selectedChargingTypeIsAc := true, offeredSchedules := [] }
  | .powerDeliveryReq =>
      { session with selectedSchedule := none, chargeProgressStarted := false }
  | .sessionStopReq => { session with evSessionContext := none }
  | _ => session

/-- Only a `SessionSetupReq` sets the session id. -/
theorem sessionId_of_kept {type : RequestType} {before after : Session}
    (other : type ≠ .sessionSetupReq) (same : kept type after = kept type before) :
    after.sessionId = before.sessionId := by
  have sessionId := congrArg Session.sessionId same
  cases type
  case sessionSetupReq => exact absurd rfl other
  all_goals exact sessionId

/-- Only a `ChargeParameterDiscoveryReq` chooses between AC and DC. -/
theorem isAc_of_kept {type : RequestType} {before after : Session}
    (other : type ≠ .chargeParameterDiscoveryReq)
    (same : kept type after = kept type before) :
    after.selectedChargingTypeIsAc = before.selectedChargingTypeIsAc := by
  have isAc := congrArg Session.selectedChargingTypeIsAc same
  cases type
  case chargeParameterDiscoveryReq => exact absurd rfl other
  all_goals exact isAc

/-- Only a `PaymentServiceSelectionReq` selects a payment option. -/
theorem selectedAuthOption_of_kept {type : RequestType} {before after : Session}
    (other : type ≠ .paymentServiceSelectionReq) (same : kept type after = kept type before) :
    after.selectedAuthOption = before.selectedAuthOption := by
  have option := congrArg Session.selectedAuthOption same
  cases type
  case paymentServiceSelectionReq => exact absurd rfl other
  all_goals exact option

/-- Only a `PaymentDetailsReq` stores a contract and issues a challenge. -/
theorem contract_of_kept {type : RequestType} {before after : Session}
    (other : type ≠ .paymentDetailsReq) (same : kept type after = kept type before) :
    after.contractCertChain = before.contractCertChain ∧
      after.genChallenge = before.genChallenge := by
  have chain := congrArg Session.contractCertChain same
  have challenge := congrArg Session.genChallenge same
  cases type
  case paymentDetailsReq => exact absurd rfl other
  all_goals exact ⟨chain, challenge⟩

/-- Of the EV's data, only a `ChargeParameterDiscoveryReq` sets the energy mode. -/
def keptEvData (type : RequestType) (context : EVDataContext) : EVDataContext :=
  { selectedEnergyMode :=
      if type = .chargeParameterDiscoveryReq then none else context.selectedEnergyMode }

theorem selectedEnergyMode_of_kept {type : RequestType} {before after : EVDataContext}
    (other : type ≠ .chargeParameterDiscoveryReq)
    (same : keptEvData type after = keptEvData type before) :
    after.selectedEnergyMode = before.selectedEnergyMode := by
  have mode := congrArg EVDataContext.selectedEnergyMode same
  unfold keptEvData at mode
  rw [if_neg other, if_neg other] at mode
  exact mode

/-- The table of the effects. -/
def guide : Guide Session Own StateName ResponseMessage Call RequestType where
  table := stateTable
  mayCall := mayCall
  mayGoTo := mayGoTo
  mayRespond := mayRespond
  mayRefuse type message := failedResponse type = some message.response
  kept := kept
  keptEvData := keptEvData

/-! ## The steps of the methods -/

section Steps

variable {type : RequestType}

theorem effects_createNextMessage {nextState : Option (NextState StateName)}
    {responseCode : ResponseCode} {response : Response} {timeout : ℚ}
    (responds : responseTo response = type)
    (allowed : ∀ name, nextState = some (.state name) → mayGoTo type name = true) :
    Keeps (Effects guide type)
      (createNextMessage nextState responseCode response timeout : Program PUnit) := by
  apply keeps_bind
  · exact effects_prepare (fun _ => rfl) (fun _ => rfl) (fun _ _ made => .inl made) allowed
  intro _
  exact effects_createMessage (fun _ => .inl responds) allowed

/-- The message is answered and the object stays. -/
theorem effects_stay {responseCode : ResponseCode} {response : Response} {timeout : ℚ}
    (responds : responseTo response = type) :
    Keeps (Effects guide type) (createNextMessage none responseCode response timeout) :=
  effects_createNextMessage responds nofun

theorem effects_goTo {name : StateName} {responseCode : ResponseCode} {response : Response}
    {timeout : ℚ} (responds : responseTo response = type)
    (allowed : mayGoTo type name = true) :
    Keeps (Effects guide type)
      (createNextMessage (some (.state name)) responseCode response timeout) := by
  apply effects_createNextMessage responds
  intro other same
  cases same
  exact allowed

theorem kept_stopped (session : Session) : kept type session.stopped = kept type session := by
  cases type <;> rfl

theorem effects_stopStateMachine {message : V2GMessage} {responseCode : ResponseCode}
    (asked : Asks type message) :
    Keeps (Effects guide type) (stopStateMachine message responseCode) := by
  apply keeps_stopStateMachine
  · exact effects_updateSession kept_stopped
  · intro request response same failed
    exact effects_createNextMessage
      ((responseTo_failedResponse failed).trans (asked request same)) nofun

end Steps

/-! ## The methods that answer requests -/

section Methods

variable (environment : Environment) (answers : Answers) (message : V2GMessage)

theorem SessionSetup.onSessionSetupReq_effects (header : MessageHeader)
    (req : SessionSetupReq) :
    Keeps (Effects guide .sessionSetupReq) (onSessionSetupReq answers header req) := by
  apply keeps_bind keeps_get
  intro world
  apply keeps_bind (keeps_ofExcept _)
  intro joined
  apply keeps_bind
  · exact effects_updateSession fun _ => rfl
  intro _
  apply keeps_bind (effects_ask rfl)
  intro evseId
  apply keeps_bind (keeps_ofExcept _)
  intro _
  apply keeps_bind
  · exact effects_updateSession fun _ => rfl
  intro _
  apply keeps_bind
  · exact effects_onEvData fun _ => rfl
  intro _
  exact effects_goTo rfl rfl

theorem getAuthOptions_effects (context : EVSessionContext) :
    Keeps (Effects guide .serviceDiscoveryReq) (getAuthOptions environment answers context) := by
  apply keeps_bind keeps_get
  intro world
  split
  · exact keeps_pure _
  · split
    · exact keeps_pure _
    · apply keeps_bind (effects_ask rfl)
      intro eimAuthorized
      exact keeps_pure _

theorem getServices_effects (categoryFilter : Option ServiceCategory)
    (context : EVSessionContext) :
    Keeps (Effects guide .serviceDiscoveryReq)
      (getServices environment answers categoryFilter context) := by
  apply keeps_bind (getAuthOptions_effects environment answers context)
  intro authOptions
  apply keeps_bind
  · exact effects_updateSession fun _ => rfl
  intro _
  apply keeps_bind (effects_ask rfl)
  intro energyModes
  apply keeps_bind (keeps_ofExcept _)
  intro chargeService
  apply keeps_bind
  · exact effects_updateSession fun _ => rfl
  intro _
  apply keeps_bind keeps_get
  intro world
  apply keeps_bind (keeps_ofExcept _)
  intro res
  apply keeps_bind
  · exact effects_updateSession fun _ => rfl
  intro _
  exact keeps_pure _

theorem ServiceDiscovery.onServiceDiscoveryReq_effects (req : ServiceDiscoveryReq)
    (expecting : Bool)
    (asked : Asks .serviceDiscoveryReq message) :
    Keeps (Effects guide .serviceDiscoveryReq)
      (onServiceDiscoveryReq environment answers message req expecting) := by
  unfold onServiceDiscoveryReq
  split
  · apply keeps_bind keeps_get
    intro world
    split
    · exact keeps_throw _
    next context _ =>
      apply keeps_bind (getServices_effects environment answers _ context)
      intro res
      apply keeps_bind
      · exact effects_stay rfl
      intro _
      exact effects_setOwn rfl
  · exact effects_stopStateMachine asked

theorem ServiceDetail.onServiceDetailReq_effects (req : ServiceDetailReq) :
    Keeps (Effects guide .serviceDetailReq) (onServiceDetailReq req) := by
  apply keeps_bind keeps_get
  intro world
  split
  · apply keeps_bind
    · exact effects_stay rfl
    intro _
    exact effects_setOwn rfl
  · exact effects_stay rfl

theorem PaymentServiceSelection.onPaymentServiceSelectionReq_effects
    (req : PaymentServiceSelectionReq)
    (asked : Asks .paymentServiceSelectionReq message) :
    Keeps (Effects guide .paymentServiceSelectionReq)
      (onPaymentServiceSelectionReq message req) := by
  apply keeps_bind keeps_get
  intro world
  split
  · exact effects_stopStateMachine asked
  · apply keeps_bind
    · exact effects_updateSession fun _ => rfl
    intro _
    apply keeps_bind
    · apply keeps_bind keeps_get
      intro world
      split
      · exact effects_updateSession fun _ => rfl
      · exact keeps_throw _
    · intro _
      apply keeps_bind
      · exact effects_stay rfl
      intro _
      exact effects_setOwn rfl

theorem prepareEncoded_effects (res : Base64) :
    Keeps (Effects guide .certificateInstallationReq)
      (prepareEncoded (some (.state .paymentDetails)) res) := by
  have allowed : ∀ name, some (NextState.state StateName.paymentDetails) = some (.state name) →
      mayGoTo .certificateInstallationReq name = true := by
    rintro _ ⟨⟩
    rfl
  apply keeps_bind
  · exact effects_prepare (fun _ => rfl) (fun _ => rfl) (fun _ _ made => .inl made) allowed
  intro _
  apply keeps_bind (keeps_ofExcept _)
  intro decoded
  exact effects_prepare (fun _ => rfl) (fun _ => rfl) (fun _ _ _ => .inr (.inr rfl)) allowed

theorem CertificateInstallation.onCertificateInstallationReq_effects (header : MessageHeader)
    (req : CertificateInstallationReq)
    (asked : Asks .certificateInstallationReq message) :
    Keeps (Effects guide .certificateInstallationReq)
      (onCertificateInstallationReq environment answers message header req) := by
  apply keeps_bind (keeps_ofExcept _)
  intro verified
  split
  · apply keeps_bind
    · apply keeps_tryCatch
      · apply keeps_bind
        · unfold build
          split
          · apply keeps_bind (effects_ask rfl)
            intro res
            exact keeps_pure _
          · apply keeps_bind (keeps_ofExcept _)
            intro _
            exact keeps_pure _
        · intro res
          exact keeps_pure _
      · intro exception
        exact keeps_pure _
    · intro built
      split
      · exact prepareEncoded_effects _
      · exact effects_goTo rfl rfl
      · exact effects_stopStateMachine asked
  · exact effects_stopStateMachine asked

theorem PaymentDetails.onPaymentDetailsReq_effects (req : PaymentDetailsReq)
    (asked : Asks .paymentDetailsReq message) :
    Keeps (Effects guide .paymentDetailsReq)
      (onPaymentDetailsReq environment answers message req) := by
  apply keeps_tryCatch
  · unfold authorize
    split
    · exact keeps_throw _
    · dsimp only
      apply keeps_bind (keeps_ofExcept _)
      intro _
      apply keeps_bind (keeps_ofExcept _)
      intro _
      apply keeps_bind (keeps_ofExcept _)
      intro loaded
      apply keeps_bind (keeps_ofExcept _)
      intro rootCert
      apply keeps_bind
      · exact effects_updateSession fun _ => rfl
      intro _
      apply keeps_bind (keeps_ofExcept _)
      intro _
      apply keeps_bind (keeps_ofExcept _)
      intro _
      apply keeps_bind (effects_ask rfl)
      intro status
      unfold respond
      dsimp only
      split
      · apply keeps_bind
        · exact effects_updateSession fun _ => rfl
        intro _
        exact effects_goTo rfl rfl
      · exact effects_stopStateMachine asked
  · intro exception
    split
    · exact effects_stopStateMachine asked
    · exact keeps_throw _

theorem Authorization.checkPnc_effects (header : MessageHeader) (req : AuthorizationReq)
    (verifiedOnce complete : Bool) :
    Keeps (Effects guide .authorizationReq)
      (checkPnc environment header req verifiedOnce complete) := by
  apply keeps_bind keeps_get
  intro world
  split
  · split
    · exact keeps_pure _
    · split
      · exact keeps_pure _
      · apply keeps_bind (effects_setOwn rfl)
        intro _
        split
        · exact keeps_pure _
        · apply keeps_bind (keeps_ofExcept _)
          intro verified
          exact keeps_pure _
  · exact keeps_pure _

/-- Setting a flag of an object leaves its class. -/
theorem Own.name_complete (own : Own) : own.complete.name = own.name := by
  cases own <;> rfl

theorem Authorization.respond_effects (complete : Bool)
    (asked : Asks .authorizationReq message) :
    Keeps (Effects guide .authorizationReq) (respond answers message complete) := by
  apply keeps_bind
  · apply keeps_bind keeps_get
    intro world
    split
    · exact keeps_pure _
    · exact effects_ask rfl
  · intro status
    dsimp only
    apply keeps_bind
    · unfold finished
      split
      · apply keeps_bind
        · apply effects_changeOwn
          intro own named
          exact (Own.name_complete own).trans named
        · intro _
          exact effects_ask rfl
      · exact keeps_pure _
    · intro ready
      apply keeps_bind keeps_get
      intro world
      split
      · exact effects_goTo rfl rfl
      · split
        · exact effects_stopStateMachine asked
        · exact effects_stay rfl

theorem Authorization.onAuthorizationReq_effects (header : MessageHeader)
    (req : AuthorizationReq) (verifiedOnce complete : Bool)
    (asked : Asks .authorizationReq message) :
    Keeps (Effects guide .authorizationReq)
      (onAuthorizationReq environment answers message header req verifiedOnce complete) := by
  apply keeps_bind (checkPnc_effects environment header req verifiedOnce complete)
  intro error
  split
  · exact effects_stopStateMachine asked
  · exact respond_effects answers message complete asked

namespace ChargeParameterDiscovery

theorem exchangeParameters_effects (req : ChargeParameterDiscoveryReq) :
    Keeps (Effects guide .chargeParameterDiscoveryReq) (exchangeParameters answers req) := by
  unfold exchangeParameters
  split
  · apply keeps_bind (effects_ask rfl)
    intro parameters
    apply keeps_bind effects_onEvseData
    intro _
    apply keeps_bind
    · exact effects_onEvData fun _ => rfl
    intro _
    exact keeps_pure _
  · apply keeps_bind (effects_ask rfl)
    intro parameters
    apply keeps_bind effects_onEvseData
    intro _
    apply keeps_bind
    · exact effects_onEvData fun _ => rfl
    intro _
    exact keeps_pure _

theorem respond_effects (req : ChargeParameterDiscoveryReq)
    (parameters : Option ACEVSEChargeParameter × Option DCEVSEChargeParameter)
    (schedules : List SAScheduleTuple) :
    Keeps (Effects guide .chargeParameterDiscoveryReq)
      (respond answers req parameters schedules) := by
  unfold respond
  split
  · apply keeps_bind (effects_setOwn rfl)
    intro _
    exact effects_stay rfl
  · apply keeps_bind
    · exact effects_updateSession fun _ => rfl
    intro _
    apply keeps_bind (keeps_ofExcept _)
    intro _
    apply keeps_bind (effects_setOwn rfl)
    intro _
    apply keeps_bind (keeps_ofExcept _)
    intro schedules
    apply effects_goTo
    · rfl
    · unfold nextState
      split <;> rfl

theorem onChargeParameterDiscoveryReq_effects (req : ChargeParameterDiscoveryReq)
    (asked : Asks .chargeParameterDiscoveryReq message) :
    Keeps (Effects guide .chargeParameterDiscoveryReq)
      (onChargeParameterDiscoveryReq answers message req) := by
  apply keeps_bind (effects_ask rfl)
  intro energyModes
  split
  · apply keeps_bind
    · exact effects_onEvData fun _ => rfl
    intro _
    apply keeps_bind
    · exact effects_updateSession fun _ => rfl
    intro _
    apply keeps_bind (exchangeParameters_effects answers req)
    intro parameters
    apply keeps_bind (effects_ask rfl)
    intro _
    apply keeps_bind keeps_get
    intro world
    apply keeps_bind (effects_ask rfl)
    intro schedules
    apply keeps_bind (keeps_ofExcept _)
    intro valid
    apply keeps_bind (keeps_ofExcept _)
    intro _
    exact respond_effects answers req parameters _
  · exact effects_stopStateMachine asked

end ChargeParameterDiscovery

namespace PowerDelivery

theorem respond_effects {nextState : Option (NextState StateName)}
    (allowed : ∀ name, nextState = some (.state name) → mayGoTo .powerDeliveryReq name = true) :
    Keeps (Effects guide .powerDeliveryReq) (respond answers nextState) := by
  apply keeps_bind keeps_get
  intro world
  split
  · apply keeps_bind (effects_ask rfl)
    intro status
    apply keeps_bind
    · exact effects_createNextMessage rfl allowed
    intro _
    exact effects_setOwn rfl
  · apply keeps_bind (effects_ask rfl)
    intro status
    apply keeps_bind
    · exact effects_createNextMessage rfl allowed
    intro _
    exact effects_setOwn rfl

theorem startCharging_effects (req : PowerDeliveryReq)
    (asked : Asks .powerDeliveryReq message) :
    Keeps (Effects guide .powerDeliveryReq) (startCharging answers message req) := by
  apply keeps_bind (effects_ask rfl)
  intro _
  apply keeps_bind (effects_ask rfl)
  intro _
  apply keeps_bind (effects_ask rfl)
  intro contactorClosed
  split
  · apply keeps_bind keeps_get
    intro world
    apply keeps_bind
    · exact effects_updateSession fun _ => rfl
    intro _
    apply respond_effects
    rintro _ ⟨⟩
    unfold chargeLoop
    split <;> rfl
  · exact effects_stopStateMachine asked

theorem stopCharging_effects
    (asked : Asks .powerDeliveryReq message) :
    Keeps (Effects guide .powerDeliveryReq) (stopCharging answers message) := by
  apply keeps_bind keeps_get
  intro world
  apply keeps_bind (effects_ask rfl)
  intro _
  apply keeps_bind (effects_ask rfl)
  intro _
  apply keeps_bind (effects_ask rfl)
  intro contactorOpened
  split
  · apply respond_effects
    intro name leads
    unfold afterStop at leads
    split at leads
    · cases leads
      rfl
    · cases leads
  · exact effects_stopStateMachine asked

theorem renegotiate_effects
    (asked : Asks .powerDeliveryReq message) :
    Keeps (Effects guide .powerDeliveryReq) (renegotiate answers message) := by
  apply keeps_bind keeps_get
  intro world
  split
  · apply respond_effects
    rintro _ ⟨⟩
    rfl
  · exact effects_stopStateMachine asked

theorem keptEvData_updatePresentSoc (req : PowerDeliveryReq) (context : EVDataContext) :
    keptEvData .powerDeliveryReq (updatePresentSoc req context) =
      keptEvData .powerDeliveryReq context := by
  unfold updatePresentSoc
  split <;> rfl

theorem onPowerDeliveryReq_effects (req : PowerDeliveryReq)
    (asked : Asks .powerDeliveryReq message) :
    Keeps (Effects guide .powerDeliveryReq) (onPowerDeliveryReq answers message req) := by
  apply keeps_bind keeps_get
  intro world
  split
  · apply keeps_bind (effects_onEvData (keptEvData_updatePresentSoc req))
    intro _
    apply keeps_bind (keeps_ofExcept _)
    intro valid
    split
    · unfold onChargeProgress
      split
      · exact startCharging_effects answers message req asked
      · exact stopCharging_effects answers message asked
      · exact renegotiate_effects answers message asked
    · exact effects_stopStateMachine asked
  · exact effects_stopStateMachine asked

end PowerDelivery

theorem MeteringReceipt.onMeteringReceiptReq_effects (header : MessageHeader)
    (req : MeteringReceiptReq)
    (asked : Asks .meteringReceiptReq message) :
    Keeps (Effects guide .meteringReceiptReq)
      (onMeteringReceiptReq environment answers message header req) := by
  apply keeps_bind keeps_get
  intro world
  apply keeps_bind (keeps_ofExcept _)
  intro accepted
  split
  · split
    · apply keeps_bind (effects_ask rfl)
      intro status
      apply keeps_bind
      · exact effects_stay rfl
      intro _
      exact effects_setOwn rfl
    · apply keeps_bind (effects_ask rfl)
      intro status
      apply keeps_bind
      · exact effects_stay rfl
      intro _
      exact effects_setOwn rfl
  · exact effects_stopStateMachine asked

theorem SessionStop.onSessionStopReq_effects (req : SessionStopReq) :
    Keeps (Effects guide .sessionStopReq) (onSessionStopReq req) := by
  unfold onSessionStopReq
  split
  · apply keeps_bind
    · exact effects_updateSession fun _ => rfl
    intro _
    exact effects_createNextMessage rfl nofun
  · apply keeps_bind
    · exact effects_updateSession fun _ => rfl
    intro _
    exact effects_createNextMessage rfl nofun

theorem ChargingStatus.onChargingStatusReq_effects :
    Keeps (Effects guide .chargingStatusReq) (onChargingStatusReq answers) := by
  apply keeps_bind (effects_ask rfl)
  intro evseId
  apply keeps_bind keeps_get
  intro world
  apply keeps_bind (effects_ask rfl)
  intro status
  apply keeps_bind (effects_ask rfl)
  intro maxCurrent
  apply keeps_bind (keeps_ofExcept _)
  intro _
  apply keeps_bind (keeps_ofExcept _)
  intro saScheduleTupleId
  apply keeps_bind
  · exact effects_stay rfl
  intro _
  exact effects_setOwn rfl

/-- The command with the targets of the EV, of the pre-charge or of the charge
loop. -/
theorem sendTargets_effects {type : RequestType} {isPrecharge : Bool}
    (allowed : ∀ voltage current,
      mayCall type (.sendChargingCommand voltage current isPrecharge) = true)
    (voltage current : ℚ) :
    Keeps (Effects guide type)
      (tryCatch
        (do
          ask (.sendChargingCommand voltage current isPrecharge) answers.sendChargingCommand
          pure true)
        (fun exception =>
          if exception = .timeoutError then pure false else throw exception) : Program Bool) := by
  apply keeps_tryCatch
  · apply keeps_bind (effects_ask (allowed voltage current))
    intro _
    exact keeps_pure _
  · intro exception
    split
    · exact keeps_pure _
    · exact keeps_throw _

namespace CableCheck

theorem respond_effects (req : CableCheckReq) {nextState : Option (NextState StateName)}
    {evseProcessing : EVSEProcessing}
    (allowed : ∀ name, nextState = some (.state name) → mayGoTo .cableCheckReq name = true) :
    Keeps (Effects guide .cableCheckReq) (respond answers req nextState evseProcessing) := by
  apply keeps_bind
  · exact effects_onEvData fun _ => rfl
  intro _
  apply keeps_bind (effects_ask rfl)
  intro status
  exact effects_createNextMessage rfl allowed

theorem onCableCheckReq_effects (req : CableCheckReq) (started closed : Bool)
    (asked : Asks .cableCheckReq message) :
    Keeps (Effects guide .cableCheckReq)
      (onCableCheckReq answers message req started closed) := by
  unfold onCableCheckReq
  split
  · apply keeps_bind
    · unfold startOnce
      split
      · exact keeps_pure _
      · apply keeps_bind (effects_ask rfl)
        intro _
        exact effects_setOwn rfl
    · intro _
      split
      · apply keeps_bind (effects_ask rfl)
        intro isolationLevel
        unfold onStatus
        split
        · apply respond_effects
          rintro _ ⟨⟩
          rfl
        · split
          · exact effects_stopStateMachine asked
          · exact respond_effects answers req nofun
      · apply keeps_bind (effects_ask rfl)
        intro contactors
        unfold onContactors
        split
        · apply keeps_bind (effects_setOwn rfl)
          intro _
          exact respond_effects answers req nofun
        · exact effects_stopStateMachine asked
        · exact respond_effects answers req nofun
  · exact effects_stopStateMachine asked

end CableCheck

theorem PreCharge.onPreChargeReq_effects (req : PreChargeReq)
    (asked : Asks .preChargeReq message) :
    Keeps (Effects guide .preChargeReq) (onPreChargeReq answers message req) := by
  unfold onPreChargeReq
  split
  · apply keeps_bind
    · exact effects_onEvData fun _ => rfl
    intro _
    apply keeps_bind (effects_ask rfl)
    intro presentCurrent
    apply keeps_bind keeps_get
    intro world
    split
    · exact effects_stopStateMachine asked
    · split
      · apply keeps_bind
        · apply keeps_bind keeps_get
          intro world
          exact sendTargets_effects answers (fun _ _ => rfl) _ _
        · intro sent
          split
          · apply keeps_bind (effects_ask rfl)
            intro status
            apply keeps_bind (effects_ask rfl)
            intro voltage
            apply keeps_bind (keeps_ofExcept _)
            intro voltage
            apply keeps_bind
            · exact effects_stay rfl
            intro _
            exact effects_setOwn rfl
          · exact effects_stopStateMachine asked
      · exact effects_stopStateMachine asked
  · exact effects_stopStateMachine asked

theorem CurrentDemand.buildRes_effects :
    Keeps (Effects guide .currentDemandReq) (buildRes answers) := by
  iterate 10
    apply keeps_bind (effects_ask rfl)
    intro _
  apply keeps_bind keeps_get
  intro world
  iterate 4
    apply keeps_bind (keeps_ofExcept _)
    intro _
  exact keeps_pure _

theorem CurrentDemand.onCurrentDemandReq_effects (req : CurrentDemandReq)
    (asked : Asks .currentDemandReq message) :
    Keeps (Effects guide .currentDemandReq) (onCurrentDemandReq answers message req) := by
  apply keeps_bind
  · exact effects_onEvData fun _ => rfl
  intro _
  apply keeps_bind
  · apply keeps_bind keeps_get
    intro world
    exact sendTargets_effects answers (fun _ _ => rfl) _ _
  · intro sent
    split
    · apply keeps_bind (effects_ask rfl)
      intro _
      apply keeps_bind (buildRes_effects answers)
      intro res
      apply keeps_bind
      · exact effects_stay rfl
      intro _
      exact effects_setOwn rfl
    · exact effects_stopStateMachine asked

theorem WeldingDetection.onWeldingDetectionReq_effects :
    Keeps (Effects guide .weldingDetectionReq) (onWeldingDetectionReq answers) := by
  apply keeps_bind (effects_ask rfl)
  intro status
  apply keeps_bind (effects_ask rfl)
  intro voltage
  apply keeps_bind (keeps_ofExcept _)
  intro voltage
  apply keeps_bind
  · exact effects_stay rfl
  intro _
  exact effects_setOwn rfl

/-- Answering a request keeps to the table. -/
theorem answer_effects (message : RequestMessage) (own : Own) :
    Keeps (Effects guide message.request.requestType) (answer environment answers message own) := by
  rcases message with ⟨header, request⟩
  cases request with
  | sessionSetupReq req => exact SessionSetup.onSessionSetupReq_effects answers header req
  | serviceDiscoveryReq req =>
      exact ServiceDiscovery.onServiceDiscoveryReq_effects environment answers _ req _
        (asks_request _)
  | serviceDetailReq req => exact ServiceDetail.onServiceDetailReq_effects req
  | paymentServiceSelectionReq req =>
      exact PaymentServiceSelection.onPaymentServiceSelectionReq_effects _ req (asks_request _)
  | certificateInstallationReq req =>
      exact CertificateInstallation.onCertificateInstallationReq_effects environment answers _
        header req (asks_request _)
  | certificateUpdateReq => exact keeps_pure _
  | paymentDetailsReq req =>
      exact PaymentDetails.onPaymentDetailsReq_effects environment answers _ req (asks_request _)
  | authorizationReq req =>
      exact Authorization.onAuthorizationReq_effects environment answers _ header req _ _
        (asks_request _)
  | chargeParameterDiscoveryReq req =>
      exact ChargeParameterDiscovery.onChargeParameterDiscoveryReq_effects answers _ req
        (asks_request _)
  | powerDeliveryReq req =>
      exact PowerDelivery.onPowerDeliveryReq_effects answers _ req (asks_request _)
  | meteringReceiptReq req =>
      exact MeteringReceipt.onMeteringReceiptReq_effects environment answers _ header req
        (asks_request _)
  | sessionStopReq req => exact SessionStop.onSessionStopReq_effects req
  | chargingStatusReq => exact ChargingStatus.onChargingStatusReq_effects answers
  | cableCheckReq req => exact CableCheck.onCableCheckReq_effects answers _ req _ _ (asks_request _)
  | preChargeReq req => exact PreCharge.onPreChargeReq_effects answers _ req (asks_request _)
  | currentDemandReq req =>
      exact CurrentDemand.onCurrentDemandReq_effects answers _ req (asks_request _)
  | weldingDetectionReq => exact WeldingDetection.onWeldingDetectionReq_effects answers

end Methods

end Iso15118.Secc.V2
