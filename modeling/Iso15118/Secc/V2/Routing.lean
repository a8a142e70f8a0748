import Iso15118.Secc.V2.States

/-!
# Who answers a request

The states of the ISO 15118-2 SECC hand requests over to each other. Which
requests a state accepts and which state answers them is a table, and
`processMessage` follows it.
-/

namespace Iso15118.Secc.V2

open Effect
open Iso15118.Shared
open Iso15118.Shared.V2

/-! ## The table -/

def Own.name : Own → StateName
  | .sessionSetup => .sessionSetup
  | .serviceDiscovery _ => .serviceDiscovery
  | .serviceDetail _ => .serviceDetail
  | .paymentServiceSelection _ => .paymentServiceSelection
  | .certificateInstallation => .certificateInstallation
  | .paymentDetails => .paymentDetails
  | .authorization _ _ => .authorization
  | .chargeParameterDiscovery _ => .chargeParameterDiscovery
  | .powerDelivery _ => .powerDelivery
  | .meteringReceipt _ => .meteringReceipt
  | .sessionStop => .sessionStop
  | .chargingStatus _ => .chargingStatus
  | .cableCheck _ _ => .cableCheck
  | .preCharge _ => .preCharge
  | .currentDemand _ => .currentDemand
  | .weldingDetection _ => .weldingDetection

@[simp]
theorem StateName.name_new (name : StateName) : name.new.name = name := by
  cases name <;> rfl

/-- The types of requests that a class expects, the one of its own first. -/
def StateName.expectedMsgTypes : StateName → List RequestType
  | .sessionSetup => [.sessionSetupReq]
  | .serviceDiscovery => [.serviceDiscoveryReq, .serviceDetailReq, .paymentServiceSelectionReq]
  | .serviceDetail => [.serviceDetailReq, .paymentServiceSelectionReq]
  | .paymentServiceSelection =>
      [.paymentServiceSelectionReq, .certificateInstallationReq, .paymentDetailsReq,
        .authorizationReq]
  | .certificateInstallation => [.certificateInstallationReq]
  | .paymentDetails => [.paymentDetailsReq]
  | .authorization => [.authorizationReq]
  | .chargeParameterDiscovery =>
      [.chargeParameterDiscoveryReq, .powerDeliveryReq, .cableCheckReq]
  | .powerDelivery => [.powerDeliveryReq, .sessionStopReq, .weldingDetectionReq]
  | .meteringReceipt =>
      [.meteringReceiptReq, .chargingStatusReq, .currentDemandReq, .powerDeliveryReq]
  | .sessionStop => [.sessionStopReq]
  | .chargingStatus => [.chargingStatusReq, .powerDeliveryReq, .meteringReceiptReq]
  | .cableCheck => [.cableCheckReq]
  | .preCharge => [.preChargeReq, .powerDeliveryReq]
  | .currentDemand => [.currentDemandReq, .powerDeliveryReq]
  | .weldingDetection => [.weldingDetectionReq, .sessionStopReq]

/-- Whether an object still waits for the request of its own class. -/
def Own.expectFirst : Own → Bool
  | .serviceDiscovery expecting => expecting
  | .serviceDetail expecting => expecting
  | .paymentServiceSelection expecting => expecting
  | .chargeParameterDiscovery expecting => expecting
  | .powerDelivery expecting => expecting
  | .meteringReceipt expecting => expecting
  | .chargingStatus expecting => expecting
  | .preCharge expecting => expecting
  | .currentDemand expecting => expecting
  | .weldingDetection expecting => expecting
  | _ => true

/-- The class that answers a request. No state expects a `CertificateUpdateReq`. -/
def answeredBy : RequestType → StateName
  | .sessionSetupReq => .sessionSetup
  | .serviceDiscoveryReq => .serviceDiscovery
  | .serviceDetailReq => .serviceDetail
  | .paymentServiceSelectionReq => .paymentServiceSelection
  | .certificateInstallationReq => .certificateInstallation
  | .certificateUpdateReq => .certificateInstallation
  | .paymentDetailsReq => .paymentDetails
  | .authorizationReq => .authorization
  | .chargeParameterDiscoveryReq => .chargeParameterDiscovery
  | .powerDeliveryReq => .powerDelivery
  | .meteringReceiptReq => .meteringReceipt
  | .sessionStopReq => .sessionStop
  | .chargingStatusReq => .chargingStatus
  | .cableCheckReq => .cableCheck
  | .preChargeReq => .preCharge
  | .currentDemandReq => .currentDemand
  | .weldingDetectionReq => .weldingDetection

/-- The table of the ISO 15118-2 states. -/
def stateTable : StateTable Own StateName RequestType where
  name := Own.name
  new := StateName.new
  expectedMsgTypes := StateName.expectedMsgTypes
  expectFirst := Own.expectFirst
  answeredBy := answeredBy

def Own.accepts (own : Own) (type : RequestType) : Bool :=
  stateTable.accepts own type

theorem mem_expectedMsgTypes {own : Own} {type : RequestType}
    (accepted : own.accepts type = true) : type ∈ own.name.expectedMsgTypes :=
  mem_of_accepts accepted

/-- The current object when the request is answered. -/
def answering (object : CurrentState) (type : RequestType) : CurrentState :=
  stateTable.answering object type

/-- Whether a `ServiceDiscovery` object still expects its request. -/
def Own.expectsServiceDiscovery : Own → Bool
  | .serviceDiscovery expecting => expecting
  | _ => true

/-- What an `Authorization` object remembers. -/
def Own.authorizationFlags : Own → Bool × Bool
  | .authorization signatureVerifiedOnce authorizationComplete =>
      (signatureVerifiedOnce, authorizationComplete)
  | _ => (false, false)

/-- The progress of the cable check that an object has. -/
def Own.cableCheckFlags : Own → Bool × Bool
  | .cableCheck cableCheckStarted contactorsClosed => (cableCheckStarted, contactorsClosed)
  | _ => (false, false)

/-- The method that answers a request, of an object in the state `own`. -/
def answer (environment : Environment) (answers : Answers) (message : RequestMessage)
    (own : Own) : Program PUnit :=
  match message.request with
  | .sessionSetupReq req => SessionSetup.onSessionSetupReq answers message.header req
  | .serviceDiscoveryReq req =>
      ServiceDiscovery.onServiceDiscoveryReq environment answers (.request message) req
        own.expectsServiceDiscovery
  | .serviceDetailReq req => ServiceDetail.onServiceDetailReq req
  | .paymentServiceSelectionReq req =>
      PaymentServiceSelection.onPaymentServiceSelectionReq (.request message) req
  | .certificateInstallationReq req =>
      CertificateInstallation.onCertificateInstallationReq environment answers
        (.request message) message.header req
  | .certificateUpdateReq => pure ⟨⟩
  | .paymentDetailsReq req =>
      PaymentDetails.onPaymentDetailsReq environment answers (.request message) req
  | .authorizationReq req =>
      Authorization.onAuthorizationReq environment answers (.request message) message.header req
        own.authorizationFlags.1 own.authorizationFlags.2
  | .chargeParameterDiscoveryReq req =>
      ChargeParameterDiscovery.onChargeParameterDiscoveryReq answers (.request message) req
  | .powerDeliveryReq req => PowerDelivery.onPowerDeliveryReq answers (.request message) req
  | .meteringReceiptReq req =>
      MeteringReceipt.onMeteringReceiptReq environment answers (.request message)
        message.header req
  | .sessionStopReq req => SessionStop.onSessionStopReq req
  | .chargingStatusReq => ChargingStatus.onChargingStatusReq answers
  | .cableCheckReq req =>
      CableCheck.onCableCheckReq answers (.request message) req own.cableCheckFlags.1
        own.cableCheckFlags.2
  | .preChargeReq req => PreCharge.onPreChargeReq answers (.request message) req
  | .currentDemandReq req => CurrentDemand.onCurrentDemandReq answers (.request message) req
  | .weldingDetectionReq => WeldingDetection.onWeldingDetectionReq answers

/-- What the table says that happens to a request. -/
def route (environment : Environment) (answers : Answers) (message : RequestMessage)
    (world : World) : EStateM.Result PyError World PUnit :=
  stateTable.route message.request.requestType (fun world => Known message world.session)
    (fun refusal => stopStateMachine (.request message) (refusalCode refusal))
    (answer environment answers message) world

theorem route_eq (environment : Environment) (answers : Answers) (message : RequestMessage)
    (world : World) :
    route environment answers message world =
      if world.currentState.own.accepts message.request.requestType then
        if Known message world.session then
          answer environment answers message
            (answering world.currentState message.request.requestType).own
            { world with currentState := answering world.currentState message.request.requestType }
        else
          stopStateMachine (.request message) .failedUnknownSession world
      else
        stopStateMachine (.request message) .failedSequenceError world :=
  rfl

/-! ## The states follow it -/

/-- The first of the expected types is always accepted. -/
theorem bind_checkMsg_first {message : RequestMessage} {first : RequestType}
    {others : List RequestType} {expectFirst : Bool}
    {next : Option RequestMessage → Program PUnit} {world : World}
    (own : message.request.requestType = first) (known : Known message world.session)
    (ignored : next none = pure ⟨⟩) :
    (checkMsg (.request message) (first :: others) expectFirst >>= next) world =
      next (some message) world := by
  unfold checkMsg
  dsimp only
  rw [bind_checkMsg ignored, if_pos, if_pos known]
  simp [accepts, own]

/-- A charge loop state that was just entered answers its own request, whatever the
depth. -/
theorem chargingStatus_entered (environment : Environment) (answers : Answers)
    (header : MessageHeader) (depth : Nat) (world : World)
    (known : Known ⟨header, .chargingStatusReq⟩ world.session) :
    ChargingStatus.processMessage environment answers (.request ⟨header, .chargingStatusReq⟩) true
      depth world = ChargingStatus.onChargingStatusReq answers world := by
  unfold ChargingStatus.processMessage
  exact bind_checkMsg_first rfl known rfl

theorem meteringReceipt_entered (environment : Environment) (answers : Answers)
    (header : MessageHeader) (req : MeteringReceiptReq) (depth : Nat) (world : World)
    (known : Known ⟨header, .meteringReceiptReq req⟩ world.session) :
    MeteringReceipt.processMessage environment answers
        (.request ⟨header, .meteringReceiptReq req⟩) true depth world =
      MeteringReceipt.onMeteringReceiptReq environment answers
        (.request ⟨header, .meteringReceiptReq req⟩) header req world := by
  unfold MeteringReceipt.processMessage
  exact bind_checkMsg_first rfl known rfl

/-- A state that was just entered answers the request it was entered for. -/
theorem answered_after_enter (environment : Environment) (answers : Answers)
    (message : RequestMessage) (world : World) (known : Known message world.session)
    (updatable : message.request ≠ .certificateUpdateReq)
    (entered : world.currentState.own = (answeredBy message.request.requestType).new) :
    processMessage environment answers (.request message) world =
      answer environment answers message world.currentState.own world := by
  rcases message with ⟨header, request⟩
  unfold processMessage
  rw [get_bind_apply, entered]
  cases request with
  | certificateUpdateReq => exact absurd rfl updatable
  | meteringReceiptReq req =>
      exact meteringReceipt_entered environment answers header req 1 world known
  | chargingStatusReq => exact chargingStatus_entered environment answers header 1 world known
  | _ => exact bind_checkMsg_first rfl known rfl

/-- A state follows the table if it checks what the table says, answers the request
of its own class and hands over the others. -/
theorem checked_eq_route {environment : Environment} {answers : Answers}
    {message : RequestMessage} {world : World} {own : Own}
    {next : Option RequestMessage → Program PUnit} (current : world.currentState.own = own)
    (ignored : next none = pure ⟨⟩)
    (answered : own.name = answeredBy message.request.requestType →
      message.request ≠ .certificateUpdateReq →
      next (some message) world = answer environment answers message own world)
    (handedOver : own.name ≠ answeredBy message.request.requestType →
      Known message world.session →
      message.request.requestType ∈ own.name.expectedMsgTypes →
      next (some message) world = processMessage environment answers (.request message)
        { world with
          currentState := { own := (answeredBy message.request.requestType).new } })
    (ignoresUpdates : next (some ⟨message.header, .certificateUpdateReq⟩) world = .ok ⟨⟩ world) :
    (checkMsg (.request message) own.name.expectedMsgTypes own.expectFirst >>= next) world =
      route environment answers message world := by
  have follows := @StateTable.checked_eq_route _ _ _ _ stateTable _ _ _ _ _ _ message
    message.request.requestType (fun world => Known message world.session) _
    (fun refusal => stopStateMachine (.request message) (refusalCode refusal))
    (answer environment answers message) next world own current ignored
  apply follows
  · intro same
    by_cases update : message.request = .certificateUpdateReq
    · rcases message with ⟨header, request⟩
      cases update
      exact ignoresUpdates
    · exact answered same update
  · intro other known expected
    have updatable : message.request ≠ .certificateUpdateReq := by
      intro update
      rw [update] at expected
      cases own <;> simp [stateTable, Own.name, StateName.expectedMsgTypes,
        Request.requestType] at expected
    exact (handedOver other known expected).trans
      (answered_after_enter environment answers message _ known updatable rfl)

/-- The states follow the table. -/
theorem processMessage_request (environment : Environment) (answers : Answers)
    (message : RequestMessage) (world : World) :
    processMessage environment answers (.request message) world =
      route environment answers message world := by
  rcases message with ⟨header, request⟩
  unfold processMessage
  rw [get_bind_apply]
  cases current : world.currentState.own
  case meteringReceipt expecting =>
    unfold MeteringReceipt.processMessage
    apply checked_eq_route current rfl
    · intro same _
      cases request <;> first
        | rfl
        | cases same
    · intro other known expected
      cases request with
      | chargingStatusReq =>
          have entered := fun depth => chargingStatus_entered environment answers header depth
            { world with currentState := { own := .chargingStatus true } } known
          exact (entered 0).trans (entered 1).symm
      | currentDemandReq req => rfl
      | powerDeliveryReq req => rfl
      | meteringReceiptReq req => exact absurd rfl other
      | _ => simp [Own.name, StateName.expectedMsgTypes, Request.requestType] at expected
    · rfl
  case chargingStatus expecting =>
    unfold ChargingStatus.processMessage
    apply checked_eq_route current rfl
    · intro same _
      cases request <;> first
        | rfl
        | cases same
    · intro other known expected
      cases request with
      | meteringReceiptReq req =>
          have entered := fun depth => meteringReceipt_entered environment answers header req depth
            { world with currentState := { own := .meteringReceipt true } } known
          exact (entered 0).trans (entered 1).symm
      | powerDeliveryReq req => rfl
      | chargingStatusReq => exact absurd rfl other
      | _ => simp [Own.name, StateName.expectedMsgTypes, Request.requestType] at expected
    · rfl
  all_goals
    apply checked_eq_route current rfl
    · intro same _
      cases request <;> first
        | rfl
        | cases same
    · intro other known expected
      cases request <;> first
        | rfl
        | exact absurd rfl other
        | simp [Own.name, StateName.expectedMsgTypes, Request.requestType] at expected
    · rfl

/-- What is not a request is never expected, and stopping over it raises. -/
theorem processMessage_not_request (environment : Environment) (answers : Answers)
    (message : V2GMessage) (world : World) (not_request : ∀ req, message ≠ .request req) :
    processMessage environment answers message world =
      .error .attributeError { world with session := world.session.stopped } := by
  cases message with
  | request req => exact absurd rfl (not_request req)
  | response res =>
      unfold processMessage
      rw [get_bind_apply]
      cases world.currentState.own <;> rfl
  | empty header =>
      unfold processMessage
      rw [get_bind_apply]
      cases world.currentState.own <;> rfl

end Iso15118.Secc.V2
