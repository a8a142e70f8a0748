import Iso15118.Secc.Din.FailedResponses
import Iso15118.Secc.Din.Loop

/-!
# What the DIN SPEC 70121 SECC answers

A table of the responses to a request after which the session goes on, with the state that waits
for the next request.
-/

namespace Iso15118.Secc.Din

open Effect
open Iso15118.Shared
open Iso15118.Shared.Din
open Iso15118.Shared.V2 (DCEVSEStatus DCEVSEChargeParameter EVSEProcessing)

/-- The table. It has the next state that is named, and the object that has answered. -/
inductive Row : Request → Response → Option (NextState StateName) → Own → Prop
  | sessionSetup (req : SessionSetupReq) (evseId : String) (own : Own) :
      Row (.sessionSetupReq req) (.sessionSetupRes evseId) (some (.state .serviceDiscovery)) own
  | serviceDiscovery (res : ServiceDiscoveryRes) (own : Own) :
      Row .serviceDiscoveryReq (.serviceDiscoveryRes res)
        (some (.state .servicePaymentSelection)) own
  | servicePaymentSelection (req : ServicePaymentSelectionReq) (own : Own) :
      Row (.servicePaymentSelectionReq req) .servicePaymentSelectionRes
        (some (.state .contractAuthentication)) own
  | authorized (own : Own) :
      Row .contractAuthenticationReq (.contractAuthenticationRes .finished)
        (some (.state .chargeParameterDiscovery)) own
  | notAuthorized (own : Own) :
      Row .contractAuthenticationReq (.contractAuthenticationRes .ongoing) none own
  | schedules (req : ChargeParameterDiscoveryReq) (schedules : List SAScheduleTupleEntry)
      (parameters : DCEVSEChargeParameter) (own : Own) :
      Row (.chargeParameterDiscoveryReq req)
        (.chargeParameterDiscoveryRes ⟨.finished, some schedules, parameters⟩)
        (some (.state .cableCheck)) own
  | noSchedules (req : ChargeParameterDiscoveryReq) (parameters : DCEVSEChargeParameter)
      (own : Own) :
      Row (.chargeParameterDiscoveryReq req)
        (.chargeParameterDiscoveryRes ⟨.ongoing, none, parameters⟩) none own
  | cableChecked (req : CableCheckReq) (dcEvseStatus : DCEVSEStatus) (own : Own) :
      Row (.cableCheckReq req) (.cableCheckRes dcEvseStatus .finished)
        (some (.state .preCharge)) own
  | checkingCable (req : CableCheckReq) (dcEvseStatus : DCEVSEStatus) (own : Own) :
      Row (.cableCheckReq req) (.cableCheckRes dcEvseStatus .ongoing) none own
  | preCharge (req : PreChargeReq) (dcEvseStatus : DCEVSEStatus)
      (evsePresentVoltage : PhysicalValue) :
      Row (.preChargeReq req) (.preChargeRes dcEvseStatus evsePresentVoltage) none
        (.preCharge false)
  | started (req : PowerDeliveryReq) (dcEvseStatus : DCEVSEStatus) (own : Own)
      (ready : req.readyToCharge = true) :
      Row (.powerDeliveryReq req) (.powerDeliveryRes dcEvseStatus)
        (some (.state .currentDemand)) own
  | stopped (req : PowerDeliveryReq) (dcEvseStatus : DCEVSEStatus)
      (stops : req.readyToCharge = false) :
      Row (.powerDeliveryReq req) (.powerDeliveryRes dcEvseStatus) none (.powerDelivery false)
  | currentDemand (req : CurrentDemandReq) (res : CurrentDemandRes) :
      Row (.currentDemandReq req) (.currentDemandRes res) none (.currentDemand false)
  | weldingDetection (dcEvseStatus : DCEVSEStatus) (evsePresentVoltage : PhysicalValue) :
      Row .weldingDetectionReq (.weldingDetectionRes dcEvseStatus evsePresentVoltage) none
        (.weldingDetection false)

/-- A response to the request has been prepared, under the id of the session. If the session goes
on, the table has it. -/
def Replied (request : Request) (after : World) : Prop :=
  ∃ responseCode response, after.currentState.nextV2gtpMsg =
      some ⟨{ sessionId := after.session.sessionId }, responseCode, response⟩ ∧
    responseTo response = request.requestType ∧
    (after.currentState.nextState ≠ some .terminate →
      Row request response after.currentState.nextState after.currentState.own)

/-! ## Rules -/

section

variable {request : Request} {world : World} {nextState : Option (NextState StateName)}
  {responseCode : ResponseCode} {response : Response} {timeout : ℚ}

theorem leaves_createNextMessage {post : World → Prop}
    (holds : post { world with
      currentState := world.currentState.createNextMessage nextState
        ⟨{ sessionId := world.session.sessionId }, responseCode, response⟩ timeout }) :
    Leaves (createNextMessage nextState responseCode response timeout) post world := by
  unfold Leaves
  rw [wp_createNextMessage]
  exact ⟨fun _ => holds, fun _ _ => trivial⟩

/-- What is prepared for the object that the world has. -/
theorem replied_createNextMessage (responds : responseTo response = request.requestType)
    (row : nextState ≠ some .terminate →
      Row request response nextState world.currentState.own) :
    Leaves (createNextMessage nextState responseCode response timeout) (Replied request) world :=
  leaves_createNextMessage ⟨responseCode, response, rfl, responds, row⟩

/-- What is prepared before the attributes of the object are assigned. -/
theorem replied_createNextMessage_setOwn {own : Own}
    (responds : responseTo response = request.requestType)
    (row : Row request response nextState own) :
    Leaves (createNextMessage nextState responseCode response timeout >>= fun _ => setOwn own)
      (Replied request) world :=
  leaves_setOwn (leaves_createNextMessage ⟨responseCode, response, rfl, responds, fun _ => row⟩)

theorem replied_stopStateMachine {message : RequestMessage} :
    Leaves (stopStateMachine (.request message) responseCode) (Replied message.request) world := by
  unfold Leaves
  rw [wp_stopStateMachine]
  exact replied_createNextMessage (responseTo_failedResponse _) (fun goesOn => absurd rfl goesOn)

end

/-! ## The states -/

section

variable {world : World} {answers : Answers} {header : MessageHeader}

theorem replied_sessionSetup {req : SessionSetupReq} :
    Leaves (SessionSetup.onSessionSetupReq answers header req)
      (Replied (.sessionSetupReq req)) world := by
  unfold SessionSetup.onSessionSetupReq
  iterate 6
    apply leaves_bind
    intro _ _
  exact replied_createNextMessage rfl fun _ => .sessionSetup req _ _

theorem replied_serviceDiscovery {config : Config} :
    Leaves (ServiceDiscovery.onServiceDiscoveryReq config answers)
      (Replied .serviceDiscoveryReq) world := by
  unfold ServiceDiscovery.onServiceDiscoveryReq
  iterate 3
    apply leaves_bind
    intro _ _
  exact replied_createNextMessage rfl fun _ => .serviceDiscovery _ _

theorem replied_servicePaymentSelection {req : ServicePaymentSelectionReq} :
    Leaves (ServicePaymentSelection.onServicePaymentSelectionReq
        (.request ⟨header, .servicePaymentSelectionReq req⟩) req)
      (Replied (.servicePaymentSelectionReq req)) world := by
  unfold ServicePaymentSelection.onServicePaymentSelectionReq
  split
  · exact replied_stopStateMachine
  · apply leaves_bind
    intro _ _
    split
    · exact replied_stopStateMachine
    · exact replied_createNextMessage rfl fun _ => .servicePaymentSelection req _

theorem replied_contractAuthentication :
    Leaves (ContractAuthentication.onContractAuthenticationReq answers)
      (Replied .contractAuthenticationReq) world := by
  apply leaves_bind
  intro status _
  split
  · exact replied_createNextMessage rfl fun _ => .authorized _
  · exact replied_createNextMessage rfl fun _ => .notAuthorized _

theorem replied_chargeParameterDiscovery {req : ChargeParameterDiscoveryReq} :
    Leaves (ChargeParameterDiscovery.onChargeParameterDiscoveryReq answers
        (.request ⟨header, .chargeParameterDiscoveryReq req⟩) req)
      (Replied (.chargeParameterDiscoveryReq req)) world := by
  apply leaves_bind
  intro energyModes _
  split
  · iterate 6
      apply leaves_bind
      intro _ _
    unfold ChargeParameterDiscovery.respond
    split
    · exact replied_createNextMessage rfl fun _ => .noSchedules req _ _
    · apply leaves_bind
      intro schedules _
      exact replied_createNextMessage rfl fun _ => .schedules req schedules _ _
  · exact replied_stopStateMachine

namespace CableCheck

theorem replied_respond {req : CableCheckReq} {nextState : Option (NextState StateName)}
    {evseProcessing : EVSEProcessing}
    (row : ∀ dcEvseStatus own, Row (.cableCheckReq req)
      (.cableCheckRes dcEvseStatus evseProcessing) nextState own) :
    Leaves (respond answers req nextState evseProcessing) (Replied (.cableCheckReq req))
      world := by
  unfold respond
  apply leaves_bind
  intro _ _
  apply leaves_bind
  intro dcEvseStatus _
  exact replied_createNextMessage rfl fun _ => row dcEvseStatus _

theorem replied_cableCheck {req : CableCheckReq} {cableCheckStarted contactorsClosed : Bool} :
    Leaves (onCableCheckReq answers (.request ⟨header, .cableCheckReq req⟩) req
        cableCheckStarted contactorsClosed)
      (Replied (.cableCheckReq req)) world := by
  have ongoing {world : World} :
      Leaves (respond answers req none .ongoing) (Replied (.cableCheckReq req)) world :=
    replied_respond fun dcEvseStatus own => .checkingCable req dcEvseStatus own
  unfold onCableCheckReq
  split
  · apply leaves_bind
    intro _ _
    split
    · apply leaves_bind
      intro isolationLevel _
      unfold onStatus
      split
      · exact replied_respond fun dcEvseStatus own => .cableChecked req dcEvseStatus own
      · split
        · exact replied_stopStateMachine
        · exact ongoing
    · apply leaves_bind
      intro closed _
      rcases closed with _ | _ | _
      · exact ongoing
      · exact replied_stopStateMachine
      · apply leaves_bind
        intro _ _
        exact ongoing
  · exact replied_stopStateMachine

end CableCheck

theorem replied_preCharge {req : PreChargeReq} :
    Leaves (PreCharge.onPreChargeReq answers (.request ⟨header, .preChargeReq req⟩) req)
      (Replied (.preChargeReq req)) world := by
  unfold PreCharge.onPreChargeReq
  split
  · iterate 2
      apply leaves_bind
      intro _ _
    apply leaves_bind
    intro world _
    split
    · exact replied_stopStateMachine
    · split
      · apply leaves_bind
        intro sent _
        split
        · unfold PreCharge.respond
          apply leaves_bind
          intro dcEvseStatus _
          apply leaves_bind
          intro _ _
          apply leaves_bind
          intro presentVoltage _
          exact replied_createNextMessage_setOwn rfl (.preCharge req dcEvseStatus presentVoltage)
        · exact replied_stopStateMachine
      · exact replied_stopStateMachine
  · exact replied_stopStateMachine

theorem replied_powerDelivery {req : PowerDeliveryReq} :
    Leaves (PowerDelivery.onPowerDeliveryReq answers
        (.request ⟨header, .powerDeliveryReq req⟩) req)
      (Replied (.powerDeliveryReq req)) world := by
  unfold PowerDelivery.onPowerDeliveryReq
  iterate 2
    apply leaves_bind
    intro _ _
  split
  next ready =>
    unfold PowerDelivery.startCharging PowerDelivery.respond
    iterate 2
      apply leaves_bind
      intro _ _
    apply leaves_bind
    intro dcEvseStatus _
    exact replied_createNextMessage_setOwn rfl (.started req dcEvseStatus _ ready)
  next stops =>
    unfold PowerDelivery.stopCharging PowerDelivery.respond
    iterate 3
      apply leaves_bind
      intro _ _
    split
    · apply leaves_bind
      intro dcEvseStatus _
      exact replied_createNextMessage_setOwn rfl
        (.stopped req dcEvseStatus (Bool.eq_false_iff.mpr stops))
    · exact replied_stopStateMachine

theorem replied_currentDemand {req : CurrentDemandReq} :
    Leaves (CurrentDemand.onCurrentDemandReq answers
        (.request ⟨header, .currentDemandReq req⟩) req)
      (Replied (.currentDemandReq req)) world := by
  unfold CurrentDemand.onCurrentDemandReq
  apply leaves_bind
  intro _ _
  apply leaves_bind
  intro sent _
  split
  · apply leaves_bind
    intro res _
    apply leaves_bind
    intro _ _
    exact replied_createNextMessage_setOwn rfl (.currentDemand req res)
  · exact replied_stopStateMachine

theorem replied_weldingDetection :
    Leaves (WeldingDetection.onWeldingDetectionReq answers) (Replied .weldingDetectionReq)
      world := by
  apply leaves_setOwn_bind
  apply leaves_ask_bind
  intro dcEvseStatus _
  apply leaves_ask_bind
  intro _ _
  apply leaves_ofExcept_bind
  intro presentVoltage _
  exact replied_createNextMessage rfl fun _ => .weldingDetection dcEvseStatus presentVoltage

theorem replied_sessionStop :
    Leaves SessionStop.onSessionStopReq (Replied .sessionStopReq) world := by
  apply leaves_updateSession_bind
  exact replied_createNextMessage rfl (fun goesOn => absurd rfl goesOn)

end

/-- Every request that is answered is answered by a row, or ends the session. -/
theorem replied_answer {config : Config} {answers : Answers} {message : RequestMessage}
    {own : Own} {world : World} :
    Leaves (answer config answers message own) (Replied message.request) world := by
  rcases message with ⟨header, request⟩
  cases request with
  | sessionSetupReq req => exact replied_sessionSetup
  | serviceDiscoveryReq => exact replied_serviceDiscovery
  | servicePaymentSelectionReq req => exact replied_servicePaymentSelection
  | contractAuthenticationReq => exact replied_contractAuthentication
  | chargeParameterDiscoveryReq req => exact replied_chargeParameterDiscovery
  | cableCheckReq req => exact CableCheck.replied_cableCheck
  | preChargeReq req => exact replied_preCharge
  | powerDeliveryReq req => exact replied_powerDelivery
  | currentDemandReq req => exact replied_currentDemand
  | weldingDetectionReq => exact replied_weldingDetection
  | sessionStopReq => exact replied_sessionStop

/-! ## Steps of the receive loop -/

/-- The object waits for the request that comes after the response to another one. -/
def Waits (request : Request) (response : Response) (own : Own) : Prop :=
  ∃ nextState answered, Row request response nextState answered ∧
    stateTable.Rests request.requestType nextState answered own

theorem sessionId_of_kept {type : RequestType} {session session' : Session}
    (other : type ≠ .sessionSetupReq) (same : kept type session' = kept type session) :
    session'.sessionId = session.sessionId := by
  have sessionIds := congrArg Session.sessionId same
  cases type with
  | sessionSetupReq => exact absurd rfl other
  | _ => exact sessionIds

/-- A request is refused or answered, by a message for it. -/
theorem replied_processMessage {config : Config} {answers : Answers} {message : RequestMessage}
    {world : World} :
    Leaves (processMessage config answers (.request message))
      (fun after => Replied message.request after ∧
        kept message.request.requestType after.session =
          kept message.request.requestType world.session) world := by
  have routed : Leaves (route config answers message)
      (fun after => Replied message.request after ∧
        kept message.request.requestType after.session =
          kept message.request.requestType world.session) world := by
    apply leaves_route
    · intro _ refusal
      apply replied_stopStateMachine.and
      apply (leaves_of_keeps (effects_stopStateMachine (asks_request message))).mono
      exact fun _ effects => effects.session
    · intro _ _
      apply replied_answer.and
      apply (leaves_of_keeps (answer_effects config answers message _)).mono
      exact fun _ effects => effects.session
  unfold Leaves wp at routed ⊢
  rw [processMessage_request config answers message world]
  exact routed

section

variable {config : Config} {session next : SECCSession} {message : RequestMessage}
  {answers : Answers} {response : ResponseMessage}

/-- Whatever is sent in a step answers the request, under the id of the session. -/
theorem replied_of_sent
    (step : (machine config).Step session (some ⟨.request message, answers⟩) next)
    (sent : next.sent = response :: session.sent) :
    responseTo response.response = message.request.requestType ∧
      (message.request.requestType ≠ .sessionSetupReq →
        response.header.sessionId = session.world.session.sessionId) := by
  obtain ⟨reached, ⟨⟨_, _, made, responds, _⟩, same⟩, prepared, _⟩ :=
    SeccProtocol.leaves_of_sent step sent replied_processMessage
  cases made.symm.trans prepared
  exact ⟨responds, fun other => sessionId_of_kept other same⟩

/-- A step that goes on has answered the request with a row, and not with a failure. -/
theorem waits_of_step
    (step : (machine config).Step session (some ⟨.request message, answers⟩) next)
    (sent : next.sent = response :: session.sent) (goesOn : next.ended = false)
    (resting : session.world.currentState.nextState = none) :
    Waits message.request response.response next.world.currentState.own ∧
      next.world.currentState.nextState = none ∧
      response.header.sessionId = next.world.session.sessionId ∧
      response.responseCode.isFailed = false := by
  obtain ⟨req, answers', reached, response', same, answered⟩ :=
    SeccProtocol.step_answered step goesOn
  cases same
  cases sent.symm.trans answered.sent
  obtain ⟨responseCode, response, made, _, row⟩ := post_of_eq_ok replied_answer answered.answer
  cases made.symm.trans answered.prepared
  have agrees := post_of_eq_ok agreesIff_answer answered.answer
  refine ⟨⟨_, _, row answered.not_terminate, answered.rests resting⟩, answered.resting, ?_, ?_⟩
  · rw [answered.session_eq]
  · by_contra failed
    have fails := (agrees.mpr trivial _ made).mp (Bool.eq_true_of_not_eq_false failed)
    exact answered.not_terminate fails.1

end

end Iso15118.Secc.Din
