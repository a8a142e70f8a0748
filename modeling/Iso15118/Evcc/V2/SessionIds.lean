import Iso15118.Evcc.SessionIds
import Iso15118.Evcc.V2.Loop

/-!
# The session id in requests of ISO 15118-2

Every state but `SessionSetup` leaves the session id as it is and sends it, whatever it receives and
whatever the controller answers. `SessionSetup` takes the session id of the response.
-/

namespace Iso15118.Evcc.V2

open Effect
open Iso15118.Shared
open Iso15118.Shared.V2

variable {ρ : Type} {answers : Answers} {sessionId : String}

/-- The session has the id, and so has the message if one is prepared. -/
abbrev Identified (sessionId : String) : World ρ → Prop :=
  Addressed (fun session => session.sessionId = sessionId)
    fun message => message.header.sessionId = sessionId

/-! ## Requests -/

theorem identified_stopStateMachine :
    Maintains (Identified sessionId) (stopStateMachine Session.stopped : Program ρ PUnit) :=
  maintains_stopStateMachine fun _ same => same

theorem identified_createNextMessage {nextState : Option (NextState StateName)}
    {request : Request} {timeout : ℚ} {signature : Option Signature} :
    Maintains (Identified sessionId)
      (createNextMessage nextState request timeout signature : Program ρ PUnit) := by
  apply maintains_bind (maintains_modify fun _ holds => ⟨holds.session, holds.message⟩)
  intro _ _
  apply maintains_get_bind
  intro world holds
  apply maintains_bind (maintains_ofExcept _)
  intro _ _
  exact maintains_prepare holds.session

theorem identified_required {α : Type} (value : Option α) :
    Maintains (Identified sessionId) (required value : Program ρ α) := by
  cases value with
  | none => exact maintains_throw _
  | some value => exact maintains_pure trivial

theorem identified_signed {signature : Except PyError Signature}
    {request : Signature → Program ρ PUnit}
    (sends : ∀ signature, Maintains (Identified sessionId) (request signature)) :
    Maintains (Identified sessionId) (signed signature request) := by
  apply maintains_tryCatch
  · exact maintains_bind (maintains_ofExcept _) fun signature _ => sends signature
  · intro exception
    split
    · exact identified_stopStateMachine
    · exact maintains_throw _

theorem identified_elapsedTime {timeout : ℚ} :
    Maintains (Identified sessionId) (elapsedTime answers timeout : Program ρ (Option ℚ)) := by
  apply maintains_get_bind
  intro world _
  split
  · split
    · exact maintains_bind identified_stopStateMachine fun _ _ => maintains_pure trivial
    · exact maintains_pure trivial
  · exact maintains_bind (maintains_updateSession fun _ same => same) fun _ _ =>
      maintains_pure trivial

theorem identified_resetOngoingTimer :
    Maintains (Identified sessionId) (resetOngoingTimer : Program ρ PUnit) :=
  maintains_updateSession fun _ same => same

theorem identified_requestServices :
    Maintains (Identified sessionId) (requestServices : Program ρ PUnit) := by
  apply maintains_get_bind
  intro world _
  split
  · exact maintains_bind (maintains_ofExcept _) fun _ _ => identified_createNextMessage
  · exact maintains_bind (maintains_updateSession fun _ same => same) fun _ _ =>
      identified_createNextMessage

theorem identified_requestPowerDelivery {chargeProgress : ChargeProgress} {schedule : Option Nat}
    {profile : Option ChargingProfile} {parameter : Option DCEVPowerDeliveryParameter} :
    Maintains (Identified sessionId)
      (requestPowerDelivery chargeProgress schedule profile parameter : Program ρ PUnit) :=
  maintains_bind (maintains_ofExcept _) fun _ _ => identified_createNextMessage

theorem identified_requestSessionStop (chargingSession : Option ChargingSession) :
    Maintains (Identified sessionId) (requestSessionStop chargingSession : Program ρ PUnit) := by
  cases chargingSession with
  | some chargingSession => exact identified_createNextMessage
  | none => exact maintains_throw _

theorem identified_renegotiate :
    Maintains (Identified sessionId) (renegotiate : Program ρ PUnit) := by
  refine maintains_bind (maintains_updateSession fun _ same => same) fun _ _ => ?_
  exact maintains_get_bind fun _ _ => identified_requestPowerDelivery

theorem identified_stopCharging {parameter : Option DCEVPowerDeliveryParameter} :
    Maintains (Identified sessionId) (stopCharging parameter : Program ρ PUnit) := by
  apply maintains_get_bind
  intro world _
  apply maintains_bind identified_requestPowerDelivery
  intro _ _
  exact maintains_updateSession fun _ same => same

section

variable [EVController ρ]

theorem identified_discoverChargeParameters {timeout : ℚ} :
    Maintains (Identified sessionId) (discoverChargeParameters timeout : Program ρ PUnit) := by
  apply maintains_bind (maintains_ask _ _)
  intro params _
  exact maintains_bind (maintains_ofExcept _) fun _ _ => identified_createNextMessage

theorem identified_requestCableCheck :
    Maintains (Identified sessionId) (requestCableCheck : Program ρ PUnit) :=
  maintains_bind (maintains_ask _ _) fun _ _ => identified_createNextMessage

theorem identified_requestPreCharge :
    Maintains (Identified sessionId) (requestPreCharge : Program ρ PUnit) := by
  unfold requestPreCharge buildPreChargeMessage
  simp only [bind_assoc, pure_bind]
  iterate 2
    apply maintains_bind (maintains_ask _ _)
    intro _ _
  exact identified_createNextMessage

theorem identified_requestCurrentDemand {withMaxVoltage : Bool} {timeout : ℚ} :
    Maintains (Identified sessionId)
      (requestCurrentDemand withMaxVoltage timeout : Program ρ PUnit) := by
  unfold requestCurrentDemand buildCurrentDemandReq
  simp only [bind_assoc, pure_bind]
  iterate 6
    apply maintains_bind (maintains_ask _ _)
    intro _ _
  exact identified_createNextMessage

theorem identified_continueCharging :
    Maintains (Identified sessionId) (continueCharging : Program ρ Bool) := by
  apply maintains_bind (maintains_ask _ _)
  intro continues _
  split
  · apply maintains_bind
    · exact maintains_tryCatch (maintains_ask _ _) fun _ => maintains_pure trivial
    · exact fun _ _ => maintains_pure trivial
  · exact maintains_pure trivial

/-! ## The states -/

theorem ServiceDiscovery.identified_selectService (service : ServiceDetails) :
    Maintains (Identified sessionId) (selectService service : Program ρ PUnit) := by
  apply maintains_get_bind
  intro world _
  split
  · apply maintains_bind (maintains_ask _ _)
    intro needed _
    split
    · exact maintains_updateSession fun _ same => same
    · exact maintains_pure trivial
  · exact maintains_pure trivial

theorem ServiceDiscovery.identified_selectServices (res : ServiceDiscoveryRes) :
    Maintains (Identified sessionId) (selectServices res : Program ρ PUnit) := by
  refine maintains_bind (maintains_updateSession fun _ same => same) fun _ _ => ?_
  apply maintains_get_bind
  intro world _
  split
  · exact maintains_forM identified_selectService
  · exact maintains_pure trivial

theorem ServiceDiscovery.identified_selectEnergyTransferMode :
    Maintains (Identified sessionId) (selectEnergyTransferMode : Program ρ PUnit) := by
  apply maintains_get_bind
  intro world _
  split
  · exact maintains_updateSession fun _ same => same
  · exact maintains_bind (maintains_ask _ _) fun _ _ => maintains_updateSession fun _ same => same

theorem ServiceDiscovery.identified_onServiceDiscoveryRes (res : ServiceDiscoveryRes) :
    Maintains (Identified sessionId) (onServiceDiscoveryRes res : Program ρ PUnit) := by
  apply maintains_bind
  · apply maintains_updateSession
    intro session same
    split
    · exact same
    · exact same
  intro _ _
  apply maintains_bind (identified_selectServices res)
  intro _ _
  apply maintains_bind identified_selectEnergyTransferMode
  intro _ _
  apply maintains_get_bind
  intro world _
  split
  · exact identified_requestServices
  · exact identified_stopStateMachine

theorem PaymentServiceSelection.identified_onPaymentServiceSelectionRes :
    Maintains (Identified sessionId)
      (onPaymentServiceSelectionRes answers : Program ρ PUnit) := by
  apply maintains_get_bind
  intro world _
  split
  · apply maintains_bind (maintains_ask _ _)
    intro needed _
    split
    · iterate 2
        apply maintains_bind (maintains_ofExcept _)
        intro _ _
      exact identified_signed fun _ => identified_createNextMessage
    · unfold payByContract
      split
      · exact identified_createNextMessage
      · split
        · exact identified_stopStateMachine
        · exact maintains_throw _
  · exact identified_createNextMessage

theorem CertificateInstallation.identified_onCertificateInstallationRes :
    Maintains (Identified sessionId)
      (onCertificateInstallationRes answers : Program ρ PUnit) := by
  have stores : Maintains (Identified sessionId) (storeContract answers : Program ρ Bool) := by
    apply maintains_tryCatch
    · apply maintains_bind (maintains_ofExcept _)
      intro _ _
      exact maintains_bind (maintains_ask _ _) fun _ _ => maintains_pure trivial
    · intro exception
      split
      · exact maintains_pure trivial
      · exact maintains_throw _
  apply maintains_bind (maintains_ofExcept _)
  intro verified _
  split
  · apply maintains_bind stores
    intro stored _
    split
    · exact maintains_bind (maintains_ofExcept _) fun _ _ => identified_createNextMessage
    · exact identified_stopStateMachine
  · exact identified_stopStateMachine

theorem Authorization.identified_onAuthorizationRes (evseProcessing : EVSEProcessing) :
    Maintains (Identified sessionId)
      (onAuthorizationRes answers evseProcessing : Program ρ PUnit) := by
  unfold onAuthorizationRes
  split
  · exact maintains_bind identified_resetOngoingTimer fun _ _ =>
      identified_discoverChargeParameters
  · apply maintains_bind identified_elapsedTime
    intro elapsed _
    cases elapsed with
    | none => exact maintains_pure trivial
    | some elapsed => exact identified_createNextMessage

theorem ChargeParameterDiscovery.identified_chooseSchedule
    (saScheduleList : Option (List SAScheduleTuple)) :
    Maintains (Identified sessionId) (chooseSchedule saScheduleList : Program ρ PUnit) := by
  apply maintains_bind identified_resetOngoingTimer
  intro _ _
  apply maintains_bind (identified_required _)
  intro tuples _
  apply maintains_bind (maintains_ask _ _)
  rintro ⟨progress, scheduleId, profile⟩ _
  apply maintains_bind (maintains_ask _ _)
  intro _ _
  apply maintains_get_bind
  intro world _
  have goesOn : Maintains (Identified sessionId)
      (do
        updateSession fun session => { session with selectedSchedule := some scheduleId }
        ask (.enableCharging true) (EVController.enableCharging true) : Program ρ PUnit) :=
    maintains_bind (maintains_updateSession fun _ same => same) fun _ _ => maintains_ask _ _
  split
  · exact maintains_bind identified_requestPowerDelivery fun _ _ => goesOn
  · exact maintains_bind identified_requestCableCheck fun _ _ => goesOn

theorem ChargeParameterDiscovery.identified_onChargeParameterDiscoveryRes
    (res : ChargeParameterDiscoveryRes) :
    Maintains (Identified sessionId)
      (onChargeParameterDiscoveryRes answers res : Program ρ PUnit) := by
  unfold onChargeParameterDiscoveryRes
  split
  · exact identified_chooseSchedule _
  · apply maintains_bind identified_elapsedTime
    intro elapsed _
    cases elapsed with
    | none => exact maintains_pure trivial
    | some elapsed => exact identified_discoverChargeParameters

theorem PowerDelivery.identified_onPowerDeliveryRes :
    Maintains (Identified sessionId) (onPowerDeliveryRes : Program ρ PUnit) := by
  apply maintains_get_bind
  intro world _
  split
  · split
    · exact identified_requestSessionStop _
    · iterate 2
        apply maintains_bind (maintains_ask _ _)
        intro _ _
      exact identified_createNextMessage
  · split
    · exact maintains_bind (maintains_updateSession fun _ same => same) fun _ _ =>
        identified_discoverChargeParameters
    · split
      · exact identified_createNextMessage
      · exact identified_requestCurrentDemand

theorem MeteringReceipt.identified_onMeteringReceiptRes (acEvseStatus : Option ACEVSEStatus)
    (dcEvseStatus : Option DCEVSEStatus) :
    Maintains (Identified sessionId)
      (onMeteringReceiptRes acEvseStatus dcEvseStatus : Program ρ PUnit) := by
  have notified : Maintains (Identified sessionId)
      (notification acEvseStatus dcEvseStatus : Program ρ EVSENotification) := by
    unfold notification
    split
    · exact maintains_pure trivial
    · exact maintains_bind (identified_required _) fun _ _ => maintains_pure trivial
  apply maintains_bind notified
  intro given _
  apply maintains_get_bind
  intro world _
  split
  · exact identified_requestPowerDelivery
  · exact identified_renegotiate
  · split
    · exact identified_createNextMessage
    · exact identified_requestCurrentDemand

theorem ChargingStatus.identified_onChargingStatusRes (acEvseStatus : ACEVSEStatus)
    (meterInfo : Option MeterInfo) (receiptRequired : Option Bool) :
    Maintains (Identified sessionId)
      (onChargingStatusRes answers acEvseStatus meterInfo receiptRequired : Program ρ PUnit) := by
  apply maintains_get_bind
  intro world _
  split
  · apply maintains_get_bind
    intro world _
    apply maintains_bind (maintains_ofExcept _)
    intro req _
    exact identified_signed fun _ => identified_createNextMessage
  · split
    · exact identified_renegotiate
    · exact identified_stopCharging
    · apply maintains_bind identified_continueCharging
      intro continues _
      split
      · exact identified_createNextMessage
      · exact identified_stopCharging

theorem CableCheck.identified_onCableCheckRes (dcEvseStatus : DCEVSEStatus)
    (evseProcessing : EVSEProcessing) :
    Maintains (Identified sessionId)
      (onCableCheckRes answers dcEvseStatus evseProcessing : Program ρ PUnit) := by
  unfold onCableCheckRes
  split
  · apply maintains_bind identified_resetOngoingTimer
    intro _ _
    split
    · exact identified_requestPreCharge
    · exact identified_stopStateMachine
  · apply maintains_bind identified_elapsedTime
    intro elapsed _
    cases elapsed with
    | none => exact maintains_pure trivial
    | some elapsed => exact identified_requestCableCheck

theorem PreCharge.identified_onPreChargeRes (evsePresentVoltage : PhysicalValue) :
    Maintains (Identified sessionId)
      (onPreChargeRes answers evsePresentVoltage : Program ρ PUnit) := by
  apply maintains_bind (maintains_ask _ _)
  intro isPrecharged _
  split
  · apply maintains_bind identified_resetOngoingTimer
    intro _ _
    apply maintains_get_bind
    intro world _
    exact maintains_bind (maintains_ask _ _) fun _ _ => identified_requestPowerDelivery
  · apply maintains_bind identified_elapsedTime
    intro elapsed _
    cases elapsed with
    | none => exact maintains_pure trivial
    | some elapsed => exact identified_requestPreCharge

theorem CurrentDemand.identified_onCurrentDemandRes (dcEvseStatus : DCEVSEStatus) :
    Maintains (Identified sessionId) (onCurrentDemandRes dcEvseStatus : Program ρ PUnit) := by
  have stops : Maintains (Identified sessionId) (CurrentDemand.stopCharging : Program ρ PUnit) :=
    maintains_bind (maintains_ask _ _) fun _ _ => identified_stopCharging
  unfold onCurrentDemandRes
  split
  · exact stops
  · apply maintains_bind identified_continueCharging
    intro continues _
    split
    · exact identified_requestCurrentDemand
    · exact stops

theorem WeldingDetection.identified_onWeldingDetectionRes :
    Maintains (Identified sessionId) (onWeldingDetectionRes answers : Program ρ PUnit) := by
  have within : Maintains (Identified sessionId) (withinTime answers : Program ρ Bool) := by
    apply maintains_get_bind
    intro world _
    split
    · split
      · exact maintains_bind identified_stopStateMachine fun _ _ => maintains_pure trivial
      · exact maintains_pure trivial
    · split
      · exact maintains_bind (maintains_updateSession fun _ same => same) fun _ _ =>
          maintains_pure trivial
      · exact maintains_pure trivial
  apply maintains_bind within
  intro goesOn _
  split
  · iterate 2
      apply maintains_bind (maintains_ask _ _)
      intro _ _
    apply maintains_get_bind
    intro world _
    split
    · exact identified_requestSessionStop _
    · exact identified_createNextMessage
  · exact maintains_pure trivial

omit [EVController ρ] in
/-- What a state does behind its check. -/
theorem identified_checked {α : Type} {message : V2GMessage}
    {expected : ResponseMessage → Option α} {next : Option α → Program ρ PUnit}
    (ignored : next none = pure ⟨⟩)
    (handles : ∀ value, Maintains (Identified sessionId) (next (some value))) :
    Maintains (Identified sessionId) (checkMsg message expected >>= next) := by
  have checks : Maintains (Identified sessionId) (checkMsg message expected : Program ρ _) := by
    cases message with
    | response res => exact maintains_checkMsg fun _ same => same
    | request req =>
        exact maintains_bind identified_stopStateMachine fun _ _ => maintains_pure trivial
    | empty header =>
        exact maintains_bind identified_stopStateMachine fun _ _ => maintains_pure trivial
  apply maintains_bind checks
  intro value _
  cases value with
  | none =>
      rw [ignored]
      exact maintains_pure trivial
  | some value => exact handles value

/-- A state other than `SessionSetup` keeps the session id, and sends no other one. -/
theorem identified_of_processed {message : V2GMessage} {world after : World ρ}
    (identified : Identified sessionId world) (other : world.currentState.own ≠ .sessionSetup)
    (processed : processMessage answers message world = .ok ⟨⟩ after) :
    Identified sessionId after := by
  unfold processMessage at processed
  rw [get_bind_apply] at processed
  revert processed
  generalize world.currentState.own = own at other
  intro processed
  refine Maintains.of_eq_ok ?_ identified processed
  cases own with
  | sessionSetup => exact absurd rfl other
  | serviceDiscovery =>
      exact identified_checked rfl ServiceDiscovery.identified_onServiceDiscoveryRes
  | serviceDetail => exact identified_checked rfl fun _ => identified_requestServices
  | paymentServiceSelection =>
      exact identified_checked rfl fun _ =>
        PaymentServiceSelection.identified_onPaymentServiceSelectionRes
  | certificateInstallation =>
      exact identified_checked rfl fun _ =>
        CertificateInstallation.identified_onCertificateInstallationRes
  | paymentDetails =>
      exact identified_checked rfl fun _ => identified_signed fun _ => identified_createNextMessage
  | authorization => exact identified_checked rfl Authorization.identified_onAuthorizationRes
  | chargeParameterDiscovery =>
      exact identified_checked rfl
        ChargeParameterDiscovery.identified_onChargeParameterDiscoveryRes
  | powerDelivery =>
      exact identified_checked rfl fun _ => PowerDelivery.identified_onPowerDeliveryRes
  | meteringReceipt =>
      exact identified_checked rfl fun _ => MeteringReceipt.identified_onMeteringReceiptRes _ _
  | sessionStop =>
      apply identified_checked rfl
      intro _
      apply maintains_get_bind
      intro world _
      refine maintains_bind (identified_required _) fun _ _ => ?_
      refine maintains_bind (maintains_updateSession fun _ same => same) fun _ _ => ?_
      exact maintains_setNextState _
  | chargingStatus =>
      exact identified_checked rfl fun _ => ChargingStatus.identified_onChargingStatusRes _ _ _
  | cableCheck => exact identified_checked rfl fun _ => CableCheck.identified_onCableCheckRes _ _
  | preCharge => exact identified_checked rfl PreCharge.identified_onPreChargeRes
  | currentDemand => exact identified_checked rfl CurrentDemand.identified_onCurrentDemandRes
  | weldingDetection =>
      exact identified_checked rfl fun _ => WeldingDetection.identified_onWeldingDetectionRes

/-! ## Steps of the receive loop -/

omit [EVController ρ] in
theorem SessionSetup.identified_onSessionSetupRes {world : World ρ} :
    Establishes (onSessionSetupRes sessionId) (fun _ after => Identified sessionId after)
      world := by
  unfold onSessionSetupRes createNextMessage setNext Establishes Ensures
  simp only [wp_bind, wp_updateSession, wp_modify, wp_get, wp_ofExcept, wp_prepare]
  refine ⟨fun _ _ => ⟨rfl, ?_⟩, fun _ _ => trivial⟩
  rintro _ same
  cases same
  rfl

omit [EVController ρ] in
/-- `SessionSetup` takes the session id of the response, unless it refuses it. -/
theorem SessionSetup.identified_processMessage (message : V2GMessage) {world : World ρ} :
    Establishes (SessionSetup.processMessage message)
      (fun _ after => after.currentState.nextState = some .terminate ∨
        ∃ res, message = .response res ∧ Identified res.header.sessionId after) world := by
  unfold processMessage Establishes Ensures
  cases message with
  | request req => exact .inl rfl
  | empty header => exact .inl rfl
  | response res =>
      unfold checkMsg wp
      dsimp only
      rw [bind_checkMsg rfl]
      cases response : res.response with
      | sessionSetupRes evseId =>
          dsimp only
          by_cases passes : res.responseCode.isFailed = false ∧ Known res world.session
          · rw [if_pos passes]
            apply wp_mono _ (fun _ _ failed => failed) identified_onSessionSetupRes
            exact fun _ after identified => .inr ⟨res, rfl, identified⟩
          · rw [if_neg passes]
            exact .inl rfl
      | _ => exact .inl rfl

/-- A step that goes on takes the session id of the response in `SessionSetup`, and keeps it
otherwise. It sends a request with that id. -/
theorem Step.identified {session next : EVCCSession ρ} {message : ResponseMessage}
    {answers : Answers} {request : RequestMessage}
    (step : (machine ρ).Step session (some ⟨.response message, answers⟩) next)
    (sent : next.sent = request :: session.sent) (goesOn : next.ended = false)
    (identified : Identified session.world.session.sessionId session.world) :
    request.header.sessionId = next.world.session.sessionId ∧
      Identified next.world.session.sessionId next.world ∧
      next.world.session.sessionId =
        if session.world.currentState.own = .sessionSetup then message.header.sessionId
        else session.world.session.sessionId := by
  suffices processes : ∀ after,
      processMessage answers (.response message) { session.world with calls := [] } =
        .ok ⟨⟩ after →
      after.currentState.nextState ≠ some .terminate →
      Identified (if session.world.currentState.own = .sessionSetup then message.header.sessionId
        else session.world.session.sessionId) after by
    obtain ⟨addressed, reached⟩ := addressed_of_step step sent goesOn processes
    rw [reached.session]
    exact ⟨addressed, reached, rfl⟩
  intro after processed goesOn
  split
  next setup =>
    unfold processMessage at processed
    rw [get_bind_apply] at processed
    simp only [setup] at processed
    rcases post_of_eq_ok (SessionSetup.identified_processMessage _) processed with
      ended | ⟨res, same, identified⟩
    · exact absurd ended goesOn
    · cases same
      exact identified
  next other =>
    have identified : Identified session.world.session.sessionId
        { session.world with calls := [] } := ⟨identified.session, identified.message⟩
    exact identified_of_processed identified other processed

end

end Iso15118.Evcc.V2
