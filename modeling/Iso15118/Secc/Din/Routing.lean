import Iso15118.Secc.Din.States

/-!
# Who answers a request

The table of the requests that a state of the DIN SPEC 70121 SECC accepts and of the
states that answer them. `processMessage` follows it.
-/

namespace Iso15118.Secc.Din

open Effect
open Iso15118.Shared
open Iso15118.Shared.Din

/-! ## The table -/

def Own.name : Own → StateName
  | .sessionSetup => .sessionSetup
  | .serviceDiscovery => .serviceDiscovery
  | .servicePaymentSelection => .servicePaymentSelection
  | .contractAuthentication => .contractAuthentication
  | .chargeParameterDiscovery => .chargeParameterDiscovery
  | .cableCheck _ _ => .cableCheck
  | .preCharge _ => .preCharge
  | .powerDelivery _ => .powerDelivery
  | .currentDemand _ => .currentDemand
  | .weldingDetection _ => .weldingDetection
  | .sessionStop => .sessionStop

@[simp]
theorem StateName.name_new (name : StateName) : name.new.name = name := by
  cases name <;> rfl

/-- The types of requests that a class expects, the one of its own first. -/
def StateName.expectedMsgTypes : StateName → List RequestType
  | .sessionSetup => [.sessionSetupReq]
  | .serviceDiscovery => [.serviceDiscoveryReq]
  | .servicePaymentSelection => [.servicePaymentSelectionReq]
  | .contractAuthentication => [.contractAuthenticationReq]
  | .chargeParameterDiscovery => [.chargeParameterDiscoveryReq]
  | .cableCheck => [.cableCheckReq]
  | .preCharge => [.preChargeReq, .powerDeliveryReq]
  | .powerDelivery => [.powerDeliveryReq, .sessionStopReq, .weldingDetectionReq]
  | .currentDemand => [.currentDemandReq, .powerDeliveryReq]
  | .weldingDetection => [.weldingDetectionReq, .sessionStopReq]
  | .sessionStop => [.sessionStopReq]

/-- Whether an object still waits for the request of its own class. -/
def Own.expectFirst : Own → Bool
  | .preCharge expecting => expecting
  | .powerDelivery expecting => expecting
  | .currentDemand expecting => expecting
  | .weldingDetection expecting => expecting
  | _ => true

/-- The class that answers a request. -/
def answeredBy : RequestType → StateName
  | .sessionSetupReq => .sessionSetup
  | .serviceDiscoveryReq => .serviceDiscovery
  | .servicePaymentSelectionReq => .servicePaymentSelection
  | .contractAuthenticationReq => .contractAuthentication
  | .chargeParameterDiscoveryReq => .chargeParameterDiscovery
  | .cableCheckReq => .cableCheck
  | .preChargeReq => .preCharge
  | .powerDeliveryReq => .powerDelivery
  | .currentDemandReq => .currentDemand
  | .weldingDetectionReq => .weldingDetection
  | .sessionStopReq => .sessionStop

/-- The table of the DIN SPEC 70121 states. -/
def stateTable : StateTable Own StateName RequestType where
  name := Own.name
  new := StateName.new
  expectedMsgTypes := StateName.expectedMsgTypes
  expectFirst := Own.expectFirst
  answeredBy := answeredBy

/-- The progress of the cable check that an object has. -/
def Own.cableCheckFlags : Own → Bool × Bool
  | .cableCheck cableCheckStarted contactorsClosed => (cableCheckStarted, contactorsClosed)
  | _ => (false, false)

/-- The method that answers a request, of an object in the state `own`. -/
def answer (config : Config) (answers : Answers) (message : RequestMessage) (own : Own) :
    Program PUnit :=
  match message.request with
  | .sessionSetupReq req => SessionSetup.onSessionSetupReq answers message.header req
  | .serviceDiscoveryReq => ServiceDiscovery.onServiceDiscoveryReq config answers
  | .servicePaymentSelectionReq req =>
      ServicePaymentSelection.onServicePaymentSelectionReq (.request message) req
  | .contractAuthenticationReq => ContractAuthentication.onContractAuthenticationReq answers
  | .chargeParameterDiscoveryReq req =>
      ChargeParameterDiscovery.onChargeParameterDiscoveryReq answers (.request message) req
  | .cableCheckReq req =>
      CableCheck.onCableCheckReq answers (.request message) req own.cableCheckFlags.1
        own.cableCheckFlags.2
  | .preChargeReq req => PreCharge.onPreChargeReq answers (.request message) req
  | .powerDeliveryReq req => PowerDelivery.onPowerDeliveryReq answers (.request message) req
  | .currentDemandReq req => CurrentDemand.onCurrentDemandReq answers (.request message) req
  | .weldingDetectionReq => WeldingDetection.onWeldingDetectionReq answers
  | .sessionStopReq => SessionStop.onSessionStopReq

/-- What the table says that happens to a request. -/
def route (config : Config) (answers : Answers) (message : RequestMessage) (world : World) :
    EStateM.Result PyError World PUnit :=
  stateTable.route message.request.requestType (fun world => Known message world.session)
    (fun refusal => stopStateMachine (.request message) (refusalCode refusal))
    (answer config answers message) world

/-! ## The states follow it -/

/-- The first of the expected types is always accepted. -/
theorem bind_checkMsg_first {message : RequestMessage} {first : RequestType}
    {others : List RequestType} {expectFirst : Bool}
    {next : Option RequestMessage → Program PUnit} {world : World}
    (own : message.request.requestType = first) (known : Known message world.session)
    (ignored : next none = pure ⟨⟩) :
    (checkMsg (.request message) (first :: others) expectFirst >>= next) world =
      next (some message) world := by
  unfold checkMsg
  dsimp only
  rw [bind_checkMsg ignored, if_pos, if_pos known]
  simp [accepts, own]

/-- A state that was just entered answers the request it was entered for. -/
theorem answered_after_enter (config : Config) (answers : Answers) (message : RequestMessage)
    (world : World) (known : Known message world.session)
    (entered : world.currentState.own = (answeredBy message.request.requestType).new) :
    processMessage config answers (.request message) world =
      answer config answers message world.currentState.own world := by
  rcases message with ⟨header, request⟩
  unfold processMessage
  rw [get_bind_apply, entered]
  cases request <;> exact bind_checkMsg_first rfl known rfl

/-- A state follows the table if it checks what the table says, answers the request
of its own class and hands over the others. -/
theorem checked_eq_route {config : Config} {answers : Answers} {message : RequestMessage}
    {world : World} {own : Own} {next : Option RequestMessage → Program PUnit}
    (current : world.currentState.own = own) (ignored : next none = pure ⟨⟩)
    (answered : own.name = answeredBy message.request.requestType →
      next (some message) world = answer config answers message own world)
    (handedOver : own.name ≠ answeredBy message.request.requestType →
      message.request.requestType ∈ own.name.expectedMsgTypes →
      next (some message) world = processMessage config answers (.request message)
        { world with
          currentState := { own := (answeredBy message.request.requestType).new } }) :
    (checkMsg (.request message) own.name.expectedMsgTypes own.expectFirst >>= next) world =
      route config answers message world := by
  have follows := @StateTable.checked_eq_route _ _ _ _ stateTable _ _ _ _ _ _ message
    message.request.requestType (fun world => Known message world.session) _
    (fun refusal => stopStateMachine (.request message) (refusalCode refusal))
    (answer config answers message) next world own current ignored
  apply follows
  · exact answered
  · intro other known expected
    exact (handedOver other expected).trans
      (answered_after_enter config answers message _ known rfl)

/-- The states follow the table. -/
theorem processMessage_request (config : Config) (answers : Answers) (message : RequestMessage)
    (world : World) :
    processMessage config answers (.request message) world =
      route config answers message world := by
  rcases message with ⟨header, request⟩
  unfold processMessage
  rw [get_bind_apply]
  cases current : world.currentState.own
  all_goals
    apply checked_eq_route current rfl
    · intro same
      cases request <;> first
        | rfl
        | cases same
    · intro other expected
      cases request <;> first
        | rfl
        | exact absurd rfl other
        | simp [Own.name, StateName.expectedMsgTypes, Request.requestType] at expected

/-- What is not a request is never expected, and stopping over it raises. -/
theorem processMessage_not_request (config : Config) (answers : Answers) (message : V2GMessage)
    (world : World) (not_request : ∀ req, message ≠ .request req) :
    processMessage config answers message world =
      .error .attributeError { world with session := world.session.stopped } := by
  unfold processMessage
  rw [get_bind_apply]
  cases message with
  | request req => exact absurd rfl (not_request req)
  | response res => cases world.currentState.own <;> rfl
  | empty header => cases world.currentState.own <;> rfl

end Iso15118.Secc.Din
