import Iso15118.Evcc.V2.Charging

/-!
# The receive loop of the EVCC in ISO 15118-2

What the current state does with a message, and what an iteration of the loop makes of it.
-/

namespace Iso15118.Evcc.V2

open Effect Transition
open Iso15118.Shared
open Iso15118.Shared.V2

variable {ρ : Type} [EVController ρ] {answers : Answers} {schedules : Schedules}
  {world : World ρ}

/-! ## The current state -/

omit [EVController ρ] in
/-- What a state does behind its check. -/
theorem checked_reacts {α : Type} {message : V2GMessage} {expected : ResponseMessage → Option α}
    {next : Option α → Program ρ PUnit}
    (expects : ∀ res,
      Expects world.currentState.own res.response ↔ (expected res).isSome = true)
    (ignored : next none = pure ⟨⟩)
    (follows : ∀ res value, expected res = some value →
      Follows answers schedules res.response world (next (some value)) world) :
    Establishes (checkMsg message expected >>= next)
      (fun _ after => Reacts answers schedules message world after) world := by
  have stops : (¬∃ res, message = .response res ∧
      Accepts world.currentState.own res world.session) →
      Establishes (stopStateMachine Session.stopped)
        (fun _ after => Reacts answers schedules message world after) world :=
    fun refused => .refuses refused rfl rfl
  cases message with
  | request req =>
      unfold checkMsg Establishes Ensures wp
      simp only [bind_assoc, pure_bind, ignored, bind_pure_unit]
      exact stops (by simp)
  | empty header =>
      unfold checkMsg Establishes Ensures wp
      simp only [bind_assoc, pure_bind, ignored, bind_pure_unit]
      exact stops (by simp)
  | response res =>
      unfold checkMsg Establishes Ensures wp
      dsimp only
      rw [bind_checkMsg ignored]
      cases known : expected res with
      | none =>
          apply stops
          rintro ⟨_, same, accepts⟩
          cases same
          have some := (expects _).mp accepts.expected
          rw [known] at some
          cases some
      | some value =>
          dsimp only
          by_cases passes : res.responseCode.isFailed = false ∧ Known res world.session
          · rw [if_pos passes]
            have accepts : Accepts world.currentState.own res world.session :=
              ⟨passes.1, passes.2, (expects res).mpr (by rw [known]; rfl)⟩
            apply wp_mono _ (fun _ _ failed => failed) (follows res value known)
            rintro _ after ⟨turn, row, leads⟩
            exact .answers res turn rfl accepts row leads
          · rw [if_neg passes]
            apply stops
            rintro ⟨_, same, accepts⟩
            cases same
            exact passes ⟨accepts.good, accepts.known⟩

/-- What the current state does with a message, whatever the controller answers. -/
theorem processMessage_reacts (message : V2GMessage) :
    Establishes (processMessage answers message : Program ρ PUnit)
      (fun _ after => Reacts answers (schedulesOf world.controller) message world after)
      world := by
  unfold processMessage
  apply ensures_get_bind
  cases own : world.currentState.own with
  | sessionSetup =>
      apply checked_reacts _ rfl
      · intro res value known
        split at known
        next evseId response =>
          rw [response]
          exact SessionSetup.onSessionSetupRes_follows own evseId value
        · cases known
      · intro res
        rw [own]
        cases res.response <;> simp [Expects]
  | serviceDiscovery =>
      apply checked_reacts _ rfl
      · intro res value known
        split at known
        next res response =>
          rw [response]
          cases known
          exact ServiceDiscovery.onServiceDiscoveryRes_follows own _
        · cases known
      · intro res
        rw [own]
        cases res.response <;> simp [Expects]
  | serviceDetail =>
      apply checked_reacts _ rfl
      · intro res value known
        split at known
        next serviceId parameters response =>
          rw [response]
          exact ServiceDetail.follows own serviceId parameters
        · cases known
      · intro res
        rw [own]
        cases res.response <;> simp [Expects]
  | paymentServiceSelection =>
      apply checked_reacts _ rfl
      · intro res value known
        split at known
        next response =>
          rw [response]
          exact PaymentServiceSelection.onPaymentServiceSelectionRes_follows own
        · cases known
      · intro res
        rw [own]
        cases res.response <;> simp [Expects]
  | certificateInstallation =>
      apply checked_reacts _ rfl
      · intro res value known
        split at known
        next response =>
          rw [response]
          exact CertificateInstallation.onCertificateInstallationRes_follows own
        · cases known
      · intro res
        rw [own]
        cases res.response <;> simp [Expects]
  | paymentDetails =>
      apply checked_reacts _ rfl
      · intro res value known
        split at known
        next genChallenge response =>
          rw [response]
          cases known
          exact PaymentDetails.onPaymentDetailsRes_follows own _
        · cases known
      · intro res
        rw [own]
        cases res.response <;> simp [Expects]
  | authorization =>
      apply checked_reacts _ rfl
      · intro res value known
        split at known
        next evseProcessing response =>
          rw [response]
          cases known
          exact Authorization.onAuthorizationRes_follows own _
        · cases known
      · intro res
        rw [own]
        cases res.response <;> simp [Expects]
  | chargeParameterDiscovery =>
      apply checked_reacts _ rfl
      · intro res value known
        split at known
        next res response =>
          rw [response]
          cases known
          exact ChargeParameterDiscovery.onChargeParameterDiscoveryRes_follows own _
        · cases known
      · intro res
        rw [own]
        cases res.response <;> simp [Expects]
  | powerDelivery =>
      apply checked_reacts _ rfl
      · intro res value known
        split at known
        next acEvseStatus dcEvseStatus response =>
          rw [response]
          exact PowerDelivery.onPowerDeliveryRes_follows own acEvseStatus dcEvseStatus
        · cases known
      · intro res
        rw [own]
        cases res.response <;> simp [Expects]
  | meteringReceipt =>
      apply checked_reacts _ rfl
      · intro res value known
        split at known
        next acEvseStatus dcEvseStatus response =>
          rw [response]
          cases known
          exact MeteringReceipt.onMeteringReceiptRes_follows own acEvseStatus dcEvseStatus
        · cases known
      · intro res
        rw [own]
        cases res.response <;> simp [Expects]
  | sessionStop =>
      apply checked_reacts _ rfl
      · intro res value known
        split at known
        next response =>
          rw [response]
          exact SessionStop.onSessionStopRes_follows own
        · cases known
      · intro res
        rw [own]
        cases res.response <;> simp [Expects]
  | chargingStatus =>
      apply checked_reacts _ rfl
      · intro res value known
        split at known
        next evseId tupleId acEvseStatus maxCurrent meterInfo receiptRequired response =>
          rw [response]
          cases known
          exact ChargingStatus.onChargingStatusRes_follows own evseId tupleId acEvseStatus
            maxCurrent meterInfo receiptRequired
        · cases known
      · intro res
        rw [own]
        cases res.response <;> simp [Expects]
  | cableCheck =>
      apply checked_reacts _ rfl
      · intro res value known
        split at known
        next dcEvseStatus evseProcessing response =>
          rw [response]
          cases known
          exact CableCheck.onCableCheckRes_follows own dcEvseStatus evseProcessing
        · cases known
      · intro res
        rw [own]
        cases res.response <;> simp [Expects]
  | preCharge =>
      apply checked_reacts _ rfl
      · intro res value known
        split at known
        next dcEvseStatus evsePresentVoltage response =>
          rw [response]
          cases known
          exact PreCharge.onPreChargeRes_follows own dcEvseStatus _
        · cases known
      · intro res
        rw [own]
        cases res.response <;> simp [Expects]
  | currentDemand =>
      apply checked_reacts _ rfl
      · intro res value known
        split at known
        next res response =>
          rw [response]
          cases known
          exact CurrentDemand.onCurrentDemandRes_follows own res
        · cases known
      · intro res
        rw [own]
        cases res.response <;> simp [Expects]
  | weldingDetection =>
      apply checked_reacts _ rfl
      · intro res value known
        split at known
        next dcEvseStatus evsePresentVoltage response =>
          rw [response]
          exact WeldingDetection.onWeldingDetectionRes_follows own dcEvseStatus
            evsePresentVoltage
        · cases known
      · intro res
        rw [own]
        cases res.response <;> simp [Expects]

/-! ## Steps of the receive loop -/

/-- The EVCC's side of a session. -/
abbrev EVCCSession (ρ : Type) := CommSession RequestMessage (World ρ)

/-- A session in which ISO 15118-2 has just been agreed on. It may have the settings of a session
that has been paused. -/
structure Starts (session : EVCCSession ρ) : Prop where
  currentState : session.world.currentState = { own := .sessionSetup }
  fresh : ∃ isTls sessionId authOption energyMode, session.world.session =
    { isTls := isTls
      sessionId := sessionId
      resumeSelectedAuthOption := authOption
      resumeRequestedEnergyMode := energyMode }
  goesOn : session.ended = false

/-- What an iteration does with a message before it sends anything. -/
theorem machine_reacts (received : Received V2GMessage Answers) :
    Establishes ((machine ρ).processMessage received)
      (fun _ after =>
        Reacts received.answers (schedulesOf world.controller) received.message world after)
      world := by
  have reacts : Establishes (processMessage received.answers received.message)
      (fun _ after => Reacts received.answers (schedulesOf world.controller) received.message
        { world with calls := [] } after)
      { world with calls := [] } :=
    processMessage_reacts received.message
  apply wp_mono _ (fun _ _ failed => failed) reacts
  rintro _ after (⟨res, turn, response, accepts, row, leads⟩ | ⟨refused, session, currentState⟩)
  · exact .answers res turn response accepts row
      ⟨leads.session, leads.own, leads.nextState, leads.prepares, leads.silent⟩
  · exact .refuses refused session currentState

/-- After an iteration the loop goes on in the state that has processed the message, or in a
new one. -/
structure GoesOnTo (before : EVCCSession ρ) (after : World ρ) (next : EVCCSession ρ) : Prop where
  sends : ∃ message, after.currentState.nextV2gtpMsg = some message ∧
    next.sent = message :: before.sent
  leads : after.currentState.nextState = none ∧ next.world = after ∨
    ∃ name, after.currentState.nextState = some (.state name) ∧
      next.world = { after with currentState := { own := name } }

omit [EVController ρ] in
theorem GoesOnTo.session {before next : EVCCSession ρ} {after : World ρ}
    (goesOn : GoesOnTo before after next) : next.world.session = after.session := by
  obtain ⟨_, same⟩ | ⟨_, _, same⟩ := goesOn.leads
  · rw [same]
  · rw [same]

/-- What a step has done if the loop goes on. -/
theorem Step.reacts {session next : EVCCSession ρ} {input : Option (Received V2GMessage Answers)}
    (step : (machine ρ).Step session input next) (goesOn : next.ended = false) :
    ∃ received after, input = some received ∧
      Reacts received.answers (schedulesOf session.world.controller) received.message
        session.world after ∧
      GoesOnTo session after next := by
  obtain ⟨received, after, informed, message, input, processed, prepared, updated, sent, leads⟩ :=
    step.continues goesOn
  cases updated
  have reacts := post_of_eq_ok (machine_reacts received) processed
  exact ⟨received, after, input, reacts, ⟨message, prepared, sent⟩, leads⟩

end Iso15118.Evcc.V2
