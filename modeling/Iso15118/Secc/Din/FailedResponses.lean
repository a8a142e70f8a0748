import Iso15118.Secc.Din.Responding
import Iso15118.Secc.FailedResponses

/-!
# Failed responses of the DIN SPEC 70121 SECC

The response of a state is a failed one exactly if the session fails, in every state.
-/

namespace Iso15118.Secc.Din

open Effect StopConvention
open Iso15118.Shared
open Iso15118.Shared.Din

def stopConvention : StopConvention Session ResponseMessage where
  isFailed message := message.responseCode.isFailed
  stopReason := Session.stopReason

/-- What is prepared agrees under a condition. -/
abbrev AgreesIff (program : Program PUnit) (condition : Prop) (world : World) : Prop :=
  stopConvention.AgreesIff program condition world

section

variable {world : World} {condition : Prop}

theorem agreesIff_createNextMessage {nextState : Option (NextState StateName)}
    {responseCode : ResponseCode} {response : Response} {timeout : ℚ}
    (same : (responseCode.isFailed = true ↔ nextState = some .terminate ∧
      ∀ reason, world.session.stopReason = some reason → reason.successful = false) ↔
        condition) :
    AgreesIff (createNextMessage nextState responseCode response timeout) condition world := by
  unfold AgreesIff StopConvention.AgreesIff Leaves
  rw [wp_createNextMessage]
  exact ⟨fun _ => agrees_createNextMessage.trans same, fun _ _ => trivial⟩

/-- A response that has not failed, after which the session goes on. -/
theorem agreesIff_goesOn {nextState : Option (NextState StateName)}
    {responseCode : ResponseCode} {response : Response} {timeout : ℚ}
    (answered : responseCode.isFailed = false) (goesOn : nextState ≠ some .terminate) :
    AgreesIff (createNextMessage nextState responseCode response timeout) True world := by
  apply agreesIff_createNextMessage
  simp only [answered, goesOn, false_and, Bool.false_eq_true]

theorem agreesIff_failed {message : RequestMessage} {responseCode : ResponseCode}
    (failed : responseCode.isFailed = true) :
    AgreesIff (stopStateMachine (.request message) responseCode) True world := by
  unfold AgreesIff StopConvention.AgreesIff Leaves
  rw [wp_stopStateMachine]
  apply agreesIff_createNextMessage
  simp [failed, Session.stopped]

end

/-! ## The states -/

variable {world : World} {message : RequestMessage} {answers : Answers}

theorem agreesIff_sessionSetup {header : MessageHeader} {req : SessionSetupReq} :
    AgreesIff (SessionSetup.onSessionSetupReq answers header req) True world := by
  unfold SessionSetup.onSessionSetupReq
  iterate 6
    apply leaves_bind
    intro _ _
  apply agreesIff_goesOn _ (by simp)
  split <;> rfl

theorem agreesIff_serviceDiscovery {config : Config} :
    AgreesIff (ServiceDiscovery.onServiceDiscoveryReq config answers) True world := by
  unfold ServiceDiscovery.onServiceDiscoveryReq
  iterate 3
    apply leaves_bind
    intro _ _
  exact agreesIff_goesOn rfl (by simp)

theorem agreesIff_servicePaymentSelection {req : ServicePaymentSelectionReq} :
    AgreesIff (ServicePaymentSelection.onServicePaymentSelectionReq (.request message) req) True
      world := by
  unfold ServicePaymentSelection.onServicePaymentSelectionReq
  split
  · exact agreesIff_failed rfl
  · apply leaves_updateSession_bind
    split
    · exact agreesIff_failed rfl
    · exact agreesIff_goesOn rfl (by simp)

theorem agreesIff_contractAuthentication :
    AgreesIff (ContractAuthentication.onContractAuthenticationReq answers) True world := by
  apply leaves_bind
  intro status reached
  split
  · exact agreesIff_goesOn rfl (by simp)
  · exact agreesIff_goesOn rfl (by simp)

theorem agreesIff_chargeParameterDiscovery {req : ChargeParameterDiscoveryReq} :
    AgreesIff (ChargeParameterDiscovery.onChargeParameterDiscoveryReq answers (.request message)
      req) True world := by
  apply leaves_bind
  intro energyModes reached
  split
  · iterate 6
      apply leaves_bind
      intro _ _
    unfold ChargeParameterDiscovery.respond
    split
    · exact agreesIff_goesOn rfl (by simp)
    · apply leaves_bind
      intro schedules reached
      exact agreesIff_goesOn rfl (by simp)
  · exact agreesIff_failed rfl

theorem agreesIff_cableCheck_respond {req : CableCheckReq}
    {nextState : Option (NextState StateName)} {evseProcessing : V2.EVSEProcessing}
    (goesOn : nextState ≠ some .terminate) :
    AgreesIff (CableCheck.respond answers req nextState evseProcessing) True world := by
  unfold CableCheck.respond
  iterate 2
    apply leaves_bind
    intro _ _
  exact agreesIff_goesOn rfl goesOn

theorem agreesIff_cableCheck {req : CableCheckReq} {cableCheckStarted contactorsClosed : Bool} :
    AgreesIff (CableCheck.onCableCheckReq answers (.request message) req cableCheckStarted
      contactorsClosed) True world := by
  unfold CableCheck.onCableCheckReq
  split
  · apply leaves_bind
    intro _ reached
    split
    · apply leaves_bind
      intro isolationLevel reached
      unfold CableCheck.onStatus
      split
      · exact agreesIff_cableCheck_respond (by simp)
      · split
        · exact agreesIff_failed rfl
        · exact agreesIff_cableCheck_respond (by simp)
    · apply leaves_bind
      intro closed reached
      rcases closed with _ | _ | _
      · exact agreesIff_cableCheck_respond (by simp)
      · exact agreesIff_failed rfl
      · apply leaves_bind
        intro _ reached
        exact agreesIff_cableCheck_respond (by simp)
  · exact agreesIff_failed rfl

theorem agreesIff_preCharge {req : PreChargeReq} :
    AgreesIff (PreCharge.onPreChargeReq answers (.request message) req) True world := by
  unfold PreCharge.onPreChargeReq
  split
  · iterate 2
      apply leaves_bind
      intro _ _
    apply leaves_bind
    intro world reached
    split
    · exact agreesIff_failed rfl
    · split
      · apply leaves_bind
        intro sent reached
        split
        · unfold PreCharge.respond
          iterate 3
            apply leaves_bind
            intro _ _
          exact (agreesIff_goesOn rfl (by simp)).setOwn
        · exact agreesIff_failed rfl
      · exact agreesIff_failed rfl
  · exact agreesIff_failed rfl

theorem agreesIff_powerDelivery_respond {nextState : Option (NextState StateName)}
    (goesOn : nextState ≠ some .terminate) :
    AgreesIff (PowerDelivery.respond answers nextState) True world := by
  apply leaves_bind
  intro dcEvseStatus reached
  exact (agreesIff_goesOn rfl goesOn).setOwn

theorem agreesIff_powerDelivery {req : PowerDeliveryReq} :
    AgreesIff (PowerDelivery.onPowerDeliveryReq answers (.request message) req) True world := by
  unfold PowerDelivery.onPowerDeliveryReq
  iterate 2
    apply leaves_bind
    intro _ _
  split
  · unfold PowerDelivery.startCharging
    iterate 2
      apply leaves_bind
      intro _ _
    exact agreesIff_powerDelivery_respond (by simp)
  · unfold PowerDelivery.stopCharging
    iterate 3
      apply leaves_bind
      intro _ _
    split
    · exact agreesIff_powerDelivery_respond (by simp)
    · exact agreesIff_failed rfl

theorem agreesIff_currentDemand {req : CurrentDemandReq} :
    AgreesIff (CurrentDemand.onCurrentDemandReq answers (.request message) req) True world := by
  unfold CurrentDemand.onCurrentDemandReq
  iterate 2
    apply leaves_bind
    intro _ _
  split
  · iterate 2
      apply leaves_bind
      intro _ _
    exact (agreesIff_goesOn rfl (by simp)).setOwn
  · exact agreesIff_failed rfl

theorem agreesIff_weldingDetection :
    AgreesIff (WeldingDetection.onWeldingDetectionReq answers) True world := by
  unfold WeldingDetection.onWeldingDetectionReq
  iterate 4
    apply leaves_bind
    intro _ _
  exact agreesIff_goesOn rfl (by simp)

theorem agreesIff_sessionStop : AgreesIff SessionStop.onSessionStopReq True world := by
  apply leaves_updateSession_bind
  apply agreesIff_createNextMessage
  simp [ResponseCode.isFailed]

/-! ## Any request -/

theorem agreesIff_answer {config : Config} {own : Own} :
    AgreesIff (answer config answers message own) True world := by
  rcases message with ⟨header, request⟩
  cases request with
  | sessionSetupReq req => exact agreesIff_sessionSetup
  | serviceDiscoveryReq => exact agreesIff_serviceDiscovery
  | servicePaymentSelectionReq req => exact agreesIff_servicePaymentSelection
  | contractAuthenticationReq => exact agreesIff_contractAuthentication
  | chargeParameterDiscoveryReq req => exact agreesIff_chargeParameterDiscovery
  | cableCheckReq req => exact agreesIff_cableCheck
  | preChargeReq req => exact agreesIff_preCharge
  | powerDeliveryReq req => exact agreesIff_powerDelivery
  | currentDemandReq req => exact agreesIff_currentDemand
  | weldingDetectionReq => exact agreesIff_weldingDetection
  | sessionStopReq => exact agreesIff_sessionStop

theorem agreesIff_processMessage {config : Config} {message : V2GMessage} :
    AgreesIff (processMessage config answers message) True world := by
  cases message with
  | request message =>
      have routed : AgreesIff (route config answers message) _ world :=
        agreesIff_route (fun refusal => agreesIff_failed (by cases refusal <;> rfl))
          fun _ => agreesIff_answer
      unfold AgreesIff StopConvention.AgreesIff Leaves wp at routed ⊢
      rw [processMessage_request config answers message world]
      simpa only [imp_true_iff] using routed
  | response message =>
      unfold AgreesIff StopConvention.AgreesIff Leaves wp
      rw [processMessage_not_request config answers _ world (by rintro _ ⟨⟩)]
      trivial
  | empty header =>
      unfold AgreesIff StopConvention.AgreesIff Leaves wp
      rw [processMessage_not_request config answers _ world (by rintro _ ⟨⟩)]
      trivial

end Iso15118.Secc.Din
