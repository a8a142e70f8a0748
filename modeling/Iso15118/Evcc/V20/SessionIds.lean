import Iso15118.Evcc.SessionIds
import Iso15118.Evcc.V20.LastRequest

/-!
# The session id in requests of ISO 15118-20

Every state but `SessionSetup` leaves the session id as it is and sends it, also in the
`ScheduleExchangeReq` that is kept with its header and sent again. `SessionSetup` takes the session
id of the response.
-/

namespace Iso15118.Evcc.V20

open Effect
open Iso15118.Shared
open Iso15118.Shared.V20

variable {ρ : Type} {answers : Answers} {sessionId : String}

/-- The session has the id, and so have the message that is prepared and the one that is kept. -/
abbrev Identified (sessionId : String) : World ρ → Prop :=
  Addressed
    (fun session => session.sessionId = sessionId ∧
      ∀ kept, session.ongoingScheduleExchangeReq = some kept → kept.header.sessionId = sessionId)
    fun message => message.header.sessionId = sessionId

/-! ## Requests -/

theorem identified_stopStateMachine :
    Maintains (Identified sessionId) (stopStateMachine Session.stopped : Program ρ PUnit) :=
  maintains_stopStateMachine fun _ same => same

theorem identified_messageHeader {signature : Option Signature} :
    Maintains (Identified sessionId) (messageHeader signature : Program ρ MessageHeader)
      fun header => header.sessionId = sessionId := by
  apply maintains_get_bind
  intro world holds
  apply maintains_bind (maintains_ofExcept _)
  intro _ _
  exact maintains_pure holds.session.1

/-- A header, and the message with it. -/
theorem identified_prepare {nextState : Option (NextState StateName)} {request : Request}
    {timeout : ℚ} {signature : Option Signature} :
    Maintains (Identified sessionId)
      (do
        let header ← messageHeader signature
        prepare nextState ⟨header, request⟩ timeout : Program ρ PUnit) :=
  maintains_bind identified_messageHeader fun _ same => maintains_prepare same

theorem identified_required {α : Type} (value : Option α) :
    Maintains (Identified sessionId) (required value : Program ρ α) := by
  cases value with
  | none => exact maintains_throw _
  | some value => exact maintains_pure trivial

theorem identified_elapsedTime {timeout : ℚ} :
    Maintains (Identified sessionId) (elapsedTime answers timeout : Program ρ (Option ℚ)) := by
  apply maintains_get_bind
  intro world _
  split
  · split
    · exact maintains_bind identified_stopStateMachine fun _ _ => maintains_pure trivial
    · exact maintains_pure trivial
  · exact maintains_bind (maintains_updateSession fun _ same => same) fun _ _ =>
      maintains_pure trivial

theorem identified_requestSessionStop (chargingSession : ChargingSession) :
    Maintains (Identified sessionId) (requestSessionStop chargingSession : Program ρ PUnit) :=
  identified_prepare

theorem identified_appendMatched (service : Service) (isEnergyService : Bool) :
    Maintains (Identified sessionId) (appendMatched service isEnergyService : Program ρ PUnit) := by
  unfold appendMatched
  split
  · exact maintains_updateSession fun _ same => same
  · exact maintains_throw _

theorem identified_requestServiceDetail :
    Maintains (Identified sessionId) (requestServiceDetail : Program ρ PUnit) := by
  have pops : Maintains (Identified sessionId) (popServiceDetail : Program ρ Int) := by
    apply maintains_get_bind
    intro world _
    split
    · exact maintains_bind (maintains_updateSession fun _ same => same) fun _ _ =>
        maintains_pure trivial
    · exact maintains_throw _
  apply maintains_bind identified_messageHeader
  intro header same
  exact maintains_bind pops fun _ _ => maintains_prepare same

theorem identified_isControlModeSet (controlModeSet : Bool) (parameters : List Parameter) :
    Maintains (Identified sessionId)
      (isControlModeSet controlModeSet parameters : Program ρ Bool) := by
  induction parameters generalizing controlModeSet with
  | nil => exact maintains_pure trivial
  | cons param rest ih =>
      unfold isControlModeSet
      split
      · split
        · exact maintains_bind (maintains_updateSession fun _ same => same) fun _ _ => ih true
        · exact maintains_bind (maintains_updateSession fun _ same => same) fun _ _ => ih true
        · exact maintains_throw _
      · exact ih controlModeSet

theorem identified_stopV20Charging (renegotiateRequested : Bool) :
    Maintains (Identified sessionId)
      (stopV20Charging renegotiateRequested : Program ρ PUnit) := by
  apply maintains_bind identified_messageHeader
  intro header same
  refine maintains_bind (maintains_prepare same) fun _ _ => ?_
  exact maintains_updateSession fun _ same => same

section

variable [EVController ρ]

theorem identified_buildServiceSelectionReq (selected : SelectedEnergyService) :
    Maintains (Identified sessionId)
      (buildServiceSelectionReq selected : Program ρ RequestMessage)
      fun message => message.header.sessionId = sessionId := by
  apply maintains_get_bind
  intro world _
  apply maintains_bind (maintains_ask _ _)
  intro vas _
  refine maintains_bind (maintains_updateSession fun _ same => same) fun _ _ => ?_
  cases vas with
  | some vas => exact maintains_bind identified_messageHeader fun _ same => maintains_pure same
  | none => exact maintains_throw _

theorem identified_buildScheduleExchangeRequest :
    Maintains (Identified sessionId) (buildScheduleExchangeRequest : Program ρ RequestMessage)
      fun message => message.header.sessionId = sessionId := by
  apply maintains_get_bind
  intro world _
  dsimp only
  split
  · apply maintains_bind (identified_required _)
    intro selected _
    apply maintains_bind (maintains_ask _ _)
    intro params _
    exact maintains_bind identified_messageHeader fun _ same => maintains_pure same
  · apply maintains_bind (identified_required _)
    intro selected _
    apply maintains_bind (maintains_ask _ _)
    intro params _
    exact maintains_bind identified_messageHeader fun _ same => maintains_pure same
  · exact maintains_bind identified_messageHeader fun _ _ => maintains_throw _

/-- The request is kept as it is sent. -/
theorem identified_exchangeSchedules :
    Maintains (Identified sessionId) (exchangeSchedules : Program ρ PUnit) := by
  apply maintains_bind identified_buildScheduleExchangeRequest
  intro req fits
  have keeps : ∀ session : Session,
      (session.sessionId = sessionId ∧ ∀ kept, session.ongoingScheduleExchangeReq = some kept →
        kept.header.sessionId = sessionId) →
      session.sessionId = sessionId ∧ ∀ kept, some req = some kept →
        kept.header.sessionId = sessionId := by
    rintro session ⟨same, _⟩
    refine ⟨same, ?_⟩
    rintro kept ⟨⟩
    exact fits
  exact maintains_bind (maintains_updateSession keeps) fun _ _ => maintains_prepare fits

theorem identified_processSeParams (res : ScheduleExchangeRes) :
    Maintains (Identified sessionId) (processSeParams res : Program ρ _) := by
  apply maintains_get_bind
  intro world _
  split
  · exact maintains_ask _ _
  · exact maintains_ask _ _

theorem identified_buildPowerDeliveryReq :
    Maintains (Identified sessionId) (buildPowerDeliveryReq : Program ρ RequestMessage)
      fun message => message.header.sessionId = sessionId := by
  apply maintains_get_bind
  intro world _
  apply maintains_bind (identified_required _)
  intro res _
  apply maintains_bind (identified_processSeParams res)
  rintro ⟨profile, chargeProgress⟩ _
  refine maintains_bind (maintains_updateSession fun _ same => same) fun _ _ => ?_
  apply maintains_bind (identified_required _)
  intro selected _
  extract_lets rest
  have makes : ∀ channel, Maintains (Identified sessionId) (rest channel)
      fun message => message.header.sessionId = sessionId := by
    intro channel
    apply maintains_bind identified_messageHeader
    intro header same
    exact maintains_bind (maintains_ofExcept _) fun _ _ => maintains_pure same
  split
  · split
    · apply maintains_bind (maintains_ofExcept _)
      intro channel _
      exact makes _
    · exact makes _
  · exact makes _

theorem identified_dcChargeLoopParams (service : ServiceV20) (controlMode : Option ControlMode) :
    Maintains (Identified sessionId) (dcChargeLoopParams service controlMode : Program ρ _) := by
  unfold dcChargeLoopParams
  split
  · exact maintains_bind (maintains_ask _ _) fun _ _ => maintains_pure trivial
  · exact maintains_bind (maintains_ask _ _) fun _ _ => maintains_pure trivial
  · exact maintains_bind (maintains_ask _ _) fun _ _ => maintains_pure trivial
  · exact maintains_bind (maintains_ask _ _) fun _ _ => maintains_pure trivial
  · exact maintains_pure trivial

theorem identified_buildCurrentDemandData (service : ServiceV20) :
    Maintains (Identified sessionId) (buildCurrentDemandData service : Program ρ RequestMessage)
      fun message => message.header.sessionId = sessionId := by
  apply maintains_get_bind
  intro world _
  apply maintains_bind (identified_dcChargeLoopParams service _)
  intro params _
  apply maintains_bind identified_messageHeader
  intro header same
  iterate 2
    apply maintains_bind (maintains_ask _ _)
    intro _ _
  cases params with
  | some params => exact maintains_pure same
  | none => exact maintains_throw _

theorem identified_requestAcChargeLoop (service : ServiceV20) :
    Maintains (Identified sessionId) (requestAcChargeLoop service : Program ρ PUnit) := by
  apply maintains_get_bind
  intro world _
  apply maintains_bind (maintains_ask _ _)
  intro params _
  apply maintains_bind identified_messageHeader
  intro header same
  apply maintains_bind (maintains_ask _ _)
  intro display _
  exact maintains_bind (maintains_ofExcept _) fun _ _ => maintains_prepare same

theorem identified_chargeLoop {evseStatus : Option EVSEStatus} {goOn : Program ρ PUnit}
    (goesOn : Maintains (Identified sessionId) goOn) :
    Maintains (Identified sessionId) (chargeLoop evseStatus goOn) := by
  unfold chargeLoop
  cases evseStatus with
  | some status =>
      dsimp only
      split
      · exact identified_stopV20Charging true
      · exact identified_stopV20Charging false
      · exact maintains_throw _
  | none =>
      apply maintains_bind (maintains_ask _ _)
      intro continues _
      split
      · apply maintains_bind
        · exact maintains_tryCatch (maintains_ask _ _) fun _ => maintains_pure trivial
        · exact fun _ _ => goesOn
      · exact identified_stopV20Charging false

/-! ## The states -/

theorem AuthorizationSetup.identified_onAuthorizationSetupRes (res : AuthorizationSetupRes) :
    Maintains (Identified sessionId)
      (onAuthorizationSetupRes answers res : Program ρ PUnit) := by
  have installs : Maintains (Identified sessionId)
      (installCertificate answers : Program ρ Bool) := by
    iterate 2
      apply maintains_bind (maintains_ofExcept _)
      intro _ _
    apply maintains_tryCatch
    · apply maintains_bind (maintains_ofExcept _)
      intro signature _
      apply maintains_bind identified_messageHeader
      intro header same
      apply maintains_bind (maintains_ask _ _)
      intro _ _
      exact maintains_bind (maintains_prepare same) fun _ _ => maintains_pure trivial
    · intro exception
      split
      · exact maintains_pure trivial
      · exact maintains_throw _
  have params : Maintains (Identified sessionId) (pncParams answers res : Program ρ _) := by
    apply maintains_bind (identified_required _)
    intro pncAsRes _
    apply maintains_bind (maintains_ofExcept _)
    intro certificate _
    apply maintains_tryCatch
    · exact maintains_bind (maintains_ofExcept _) fun _ _ => maintains_pure trivial
    · intro exception
      split
      · exact maintains_pure trivial
      · exact maintains_throw _
  have authorizes : Maintains (Identified sessionId)
      (authorize answers res : Program ρ PUnit) := by
    unfold authorize
    extract_lets rest
    have sends : ∀ pnc, Maintains (Identified sessionId) (rest pnc : Program ρ PUnit) := by
      intro pnc
      apply maintains_bind identified_messageHeader
      intro header same
      refine maintains_bind (maintains_updateSession fun _ same => same) fun _ _ => ?_
      exact maintains_prepare same
    split
    · exact maintains_bind params fun pnc _ => sends pnc
    · exact sends none
  unfold onAuthorizationSetupRes
  extract_lets finish rest
  have finishes : ∀ installed, Maintains (Identified sessionId)
      (finish installed : Program ρ PUnit) := by
    intro installed
    cases installed with
    | true => exact maintains_pure trivial
    | false => exact authorizes
  have goesOn : ∀ install, Maintains (Identified sessionId) (rest install : Program ρ PUnit) := by
    intro install
    cases install with
    | true => exact maintains_bind installs fun installed _ => finishes installed
    | false => exact finishes false
  split
  · exact maintains_bind (maintains_ask _ _) fun install _ => goesOn install
  · exact goesOn false

omit [EVController ρ] in
theorem Authorization.identified_onAuthorizationRes (evseProcessing : Processing) :
    Maintains (Identified sessionId)
      (onAuthorizationRes answers evseProcessing : Program ρ PUnit) := by
  unfold onAuthorizationRes
  split
  · refine maintains_bind (maintains_updateSession fun _ same => same) fun _ _ => ?_
    exact identified_prepare
  · apply maintains_bind identified_elapsedTime
    intro elapsed _
    cases elapsed with
    | none => exact maintains_pure trivial
    | some elapsed =>
        apply maintains_get_bind
        intro world _
        exact maintains_bind (identified_required _) fun _ _ => identified_prepare

theorem ServiceDiscovery.identified_onServiceDiscoveryRes (res : ServiceDiscoveryRes) :
    Maintains (Identified sessionId) (onServiceDiscoveryRes res : Program ρ PUnit) := by
  have requests : ∀ (energyService : Service) (requested : ServiceV20),
      Maintains (Identified sessionId)
        (if requested.id = energyService.serviceId then do
          appendMatched energyService true
          updateSession fun session =>
            { session with
              serviceDetailsToRequest :=
                session.serviceDetailsToRequest ++ [energyService.serviceId] }
        else
          pure ⟨⟩ : Program ρ PUnit) := by
    intro energyService requested
    split
    · exact maintains_bind (identified_appendMatched _ _) fun _ _ =>
        maintains_updateSession fun _ same => same
    · exact maintains_pure trivial
  refine maintains_bind (maintains_updateSession fun _ same => same) fun _ _ => ?_
  apply maintains_bind (maintains_ask _ _)
  intro reqEnergyServices _
  apply maintains_bind
  · exact maintains_forM fun energyService => maintains_forM (requests energyService)
  intro _ _
  apply maintains_get_bind
  intro world _
  split
  · refine maintains_bind (maintains_updateSession fun _ same => same) fun _ _ => ?_
    exact identified_requestSessionStop _
  · apply maintains_bind
    · exact maintains_forM fun _ => identified_appendMatched _ _
    · exact fun _ _ => identified_requestServiceDetail

theorem ServiceDetail.identified_onServiceDetailRes (res : ServiceDetailRes) :
    Maintains (Identified sessionId) (onServiceDetailRes res : Program ρ PUnit) := by
  refine maintains_bind (maintains_updateSession fun _ same => same) fun _ _ => ?_
  apply maintains_get_bind
  intro world _
  split
  · apply maintains_bind (maintains_ask _ _)
    intro selected _
    refine maintains_bind (maintains_updateSession fun _ same => same) fun _ _ => ?_
    apply maintains_bind (identified_isControlModeSet _ _)
    intro controlModeSet _
    split
    · exact maintains_bind (identified_buildServiceSelectionReq selected) fun _ fits =>
        maintains_prepare fits
    · exact identified_requestSessionStop _
  · exact identified_requestServiceDetail

theorem ServiceSelection.identified_onServiceSelectionRes :
    Maintains (Identified sessionId) (onServiceSelectionRes : Program ρ PUnit) := by
  have discovers : ∀ selected isAc next, Maintains (Identified sessionId)
      (discoverChargeParameters selected isAc next : Program ρ PUnit) := by
    intro selected isAc next
    refine maintains_bind (maintains_updateSession fun _ same => same) fun _ _ => ?_
    apply maintains_bind (maintains_ask _ _)
    intro params _
    apply maintains_bind identified_messageHeader
    intro header same
    exact maintains_bind (maintains_ofExcept _) fun _ _ => maintains_prepare same
  apply maintains_get_bind
  intro world _
  apply maintains_bind (identified_required _)
  intro selected _
  split
  · exact discovers _ _ _
  · split
    · exact discovers _ _ _
    · exact maintains_pure trivial

theorem ScheduleExchange.identified_onFinished (res : ScheduleExchangeRes) :
    Maintains (Identified sessionId) (onFinished res : Program ρ PUnit) := by
  apply maintains_bind (identified_processSeParams res)
  rintro ⟨profile, chargeProgress⟩ _
  refine maintains_bind (maintains_updateSession fun _ same => same) fun _ _ => ?_
  refine maintains_bind (maintains_updateSession fun _ same => same) fun _ _ => ?_
  apply maintains_get_bind
  intro world _
  have selects : ∀ selected, Maintains (Identified sessionId)
      (bptChannelSelection selected profile : Program ρ _) := by
    intro selected
    unfold bptChannelSelection
    cases profile with
    | none => exact maintains_pure trivial
    | some profile =>
        apply maintains_bind (identified_required _)
        intro selected _
        split
        · exact maintains_bind (maintains_ofExcept _) fun _ _ => maintains_pure trivial
        · exact maintains_pure trivial
  apply maintains_bind (selects _)
  intro channel _
  apply maintains_bind (maintains_ask _ _)
  intro _ _
  split
  · apply maintains_bind identified_messageHeader
    intro header same
    exact maintains_bind (maintains_ofExcept _) fun _ _ => maintains_prepare same
  · exact identified_prepare

/-- The request that has been kept still has the id of the session. -/
theorem ScheduleExchange.identified_onScheduleExchangeRes (res : ScheduleExchangeRes) :
    Maintains (Identified sessionId) (onScheduleExchangeRes res : Program ρ PUnit) := by
  unfold onScheduleExchangeRes
  split
  · apply maintains_get_bind
    intro world holds
    split
    next req kept => exact maintains_prepare (holds.session.2 req kept)
    next => exact maintains_setNextState _
  · exact identified_onFinished res

theorem PowerDelivery.identified_onPowerDeliveryRes :
    Maintains (Identified sessionId) (onPowerDeliveryRes : Program ρ PUnit) := by
  have stops : ∀ selected chargingSession, Maintains (Identified sessionId)
      (stop selected chargingSession : Program ρ PUnit) := by
    intro selected chargingSession
    apply maintains_bind (maintains_ask _ _)
    intro _ _
    apply maintains_bind (identified_required _)
    intro selected _
    split
    · exact identified_prepare
    · exact identified_requestSessionStop chargingSession
  apply maintains_get_bind
  intro world _
  split
  · exact maintains_bind identified_buildPowerDeliveryReq fun _ fits => maintains_prepare fits
  · split
    · exact stops _ _
    · exact stops _ _
    · apply maintains_bind (identified_required _)
      intro selected _
      unfold enterChargeLoop
      split
      · exact identified_requestAcChargeLoop _
      · split
        · exact maintains_bind (identified_buildCurrentDemandData _) fun _ fits =>
            maintains_prepare fits
        · exact maintains_pure trivial

omit [EVController ρ] in
theorem SessionStop.identified_onSessionStopRes :
    Maintains (Identified sessionId) (onSessionStopRes : Program ρ PUnit) := by
  apply maintains_get_bind
  intro world _
  apply maintains_bind (identified_required _)
  intro chargingSession _
  refine maintains_bind (maintains_updateSession fun _ same => same) fun _ _ => ?_
  split
  · exact maintains_bind (maintains_updateSession fun _ same => same) fun _ _ =>
      maintains_setNextState _
  · exact maintains_setNextState _

theorem ACChargeLoop.identified_onACChargeLoopRes (evseStatus : Option EVSEStatus) :
    Maintains (Identified sessionId) (onACChargeLoopRes evseStatus : Program ρ PUnit) := by
  apply identified_chargeLoop
  apply maintains_get_bind
  intro world _
  apply maintains_bind (identified_required _)
  intro selected _
  split
  · exact identified_requestAcChargeLoop _
  · exact maintains_pure trivial

theorem DCCableCheck.identified_onDCCableCheckRes (evseProcessing : Processing) :
    Maintains (Identified sessionId)
      (onDCCableCheckRes answers evseProcessing : Program ρ PUnit) := by
  unfold onDCCableCheckRes
  split
  · refine maintains_bind (maintains_updateSession fun _ same => same) fun _ _ => ?_
    unfold buildPreChargeMessage
    simp only [bind_assoc, pure_bind]
    apply maintains_bind (maintains_ask _ _)
    intro presentVoltage _
    apply maintains_bind identified_messageHeader
    intro header same
    exact maintains_bind (maintains_ask _ _) fun _ _ => maintains_prepare same
  · apply maintains_bind identified_elapsedTime
    intro elapsed _
    cases elapsed with
    | none => exact maintains_pure trivial
    | some elapsed => exact identified_prepare

theorem DCPreCharge.identified_onDCPreChargeRes (builtOnce : Bool)
    (evsePresentVoltage : RationalNumber) :
    Maintains (Identified sessionId)
      (onDCPreChargeRes builtOnce evsePresentVoltage : Program ρ PUnit) := by
  apply maintains_bind (maintains_ask _ _)
  intro isPrecharged _
  split
  · exact maintains_bind identified_buildPowerDeliveryReq fun _ fits => maintains_prepare fits
  · unfold buildPreChargeMessage
    simp only [bind_assoc, pure_bind]
    iterate 2
      apply maintains_bind (maintains_ask _ _)
      intro _ _
    apply maintains_bind identified_messageHeader
    intro header same
    apply maintains_bind (maintains_ask _ _)
    intro targetVoltage _
    exact maintains_bind (maintains_setOwn _) fun _ _ => maintains_prepare same

theorem DCChargeLoop.identified_onDCChargeLoopRes (evseStatus : Option EVSEStatus) :
    Maintains (Identified sessionId) (onDCChargeLoopRes evseStatus : Program ρ PUnit) := by
  apply identified_chargeLoop
  apply maintains_get_bind
  intro world _
  apply maintains_bind (identified_required _)
  intro selected _
  exact maintains_bind (identified_buildCurrentDemandData _) fun _ fits => maintains_prepare fits

theorem DCWeldingDetection.identified_processMessage (weldingDetectionComplete : Bool) :
    Maintains (Identified sessionId)
      (processMessage answers weldingDetectionComplete : Program ρ PUnit) := by
  have within : Maintains (Identified sessionId) (withinTime answers : Program ρ Bool) := by
    apply maintains_get_bind
    intro world _
    split
    · split
      · exact maintains_bind identified_stopStateMachine fun _ _ => maintains_pure trivial
      · exact maintains_pure trivial
    · split
      · exact maintains_bind (maintains_updateSession fun _ same => same) fun _ _ =>
          maintains_pure trivial
      · exact maintains_pure trivial
  apply maintains_bind within
  intro goesOn _
  split
  · split
    · exact identified_requestSessionStop _
    · apply maintains_bind (maintains_ask _ _)
      intro finished _
      exact maintains_bind (maintains_setOwn _) fun _ _ => identified_prepare
  · exact maintains_pure trivial

omit [EVController ρ] in
/-- What a state does behind its check. -/
theorem identified_checked {α : Type} {message : V2GMessage}
    {expected : ResponseMessage → Option α} {next : Option α → Program ρ PUnit}
    (ignored : next none = pure ⟨⟩)
    (handles : ∀ value, Maintains (Identified sessionId) (next (some value))) :
    Maintains (Identified sessionId) (checkMsg message expected >>= next) := by
  have checks : Maintains (Identified sessionId) (checkMsg message expected : Program ρ _) := by
    cases message with
    | response res => exact maintains_checkMsg fun _ same => same
    | request req =>
        exact maintains_bind identified_stopStateMachine fun _ _ => maintains_pure trivial
  apply maintains_bind checks
  intro value _
  cases value with
  | none =>
      rw [ignored]
      exact maintains_pure trivial
  | some value => exact handles value

/-- A state other than `SessionSetup` keeps the session id, and sends no other one. -/
theorem identified_of_processed {message : V2GMessage} {world after : World ρ}
    (identified : Identified sessionId world) (other : world.currentState.own ≠ .sessionSetup)
    (processed : processMessage answers message world = .ok ⟨⟩ after) :
    Identified sessionId after := by
  unfold processMessage at processed
  rw [get_bind_apply] at processed
  revert processed
  generalize world.currentState.own = own at other
  intro processed
  refine Maintains.of_eq_ok ?_ identified processed
  cases own with
  | sessionSetup => exact absurd rfl other
  | authorizationSetup =>
      exact identified_checked rfl AuthorizationSetup.identified_onAuthorizationSetupRes
  | certificateInstallation => exact maintains_throw _
  | authorization => exact identified_checked rfl Authorization.identified_onAuthorizationRes
  | serviceDiscovery =>
      exact identified_checked rfl ServiceDiscovery.identified_onServiceDiscoveryRes
  | serviceDetail => exact identified_checked rfl ServiceDetail.identified_onServiceDetailRes
  | serviceSelection =>
      exact identified_checked rfl fun _ => ServiceSelection.identified_onServiceSelectionRes
  | scheduleExchange =>
      exact identified_checked rfl ScheduleExchange.identified_onScheduleExchangeRes
  | powerDelivery =>
      exact identified_checked rfl fun _ => PowerDelivery.identified_onPowerDeliveryRes
  | sessionStop => exact identified_checked rfl fun _ => SessionStop.identified_onSessionStopRes
  | acChargeParameterDiscovery => exact identified_checked rfl fun _ => identified_exchangeSchedules
  | acChargeLoop => exact identified_checked rfl ACChargeLoop.identified_onACChargeLoopRes
  | dcChargeParameterDiscovery =>
      apply identified_checked rfl
      intro res
      exact maintains_bind (maintains_ask _ _) fun _ _ => identified_exchangeSchedules
  | dcCableCheck => exact identified_checked rfl DCCableCheck.identified_onDCCableCheckRes
  | dcPreCharge builtOnce =>
      exact identified_checked rfl (DCPreCharge.identified_onDCPreChargeRes builtOnce)
  | dcChargeLoop => exact identified_checked rfl DCChargeLoop.identified_onDCChargeLoopRes
  | dcWeldingDetection complete =>
      exact DCWeldingDetection.identified_processMessage complete

/-! ## Steps of the receive loop -/

omit [EVController ρ] in
/-- `SessionSetup` takes the session id of the response, unless it refuses it. No request has been
kept then. -/
theorem SessionSetup.identified_processMessage (message : V2GMessage) {world : World ρ}
    (fresh : world.session.ongoingScheduleExchangeReq = none) :
    Ensures (fun _ => True) (SessionSetup.processMessage message)
      (fun _ after => after.currentState.nextState = some .terminate ∨
        ∃ res, message = .response res ∧ Identified res.header.sessionId after) world := by
  have takes : ∀ sessionId, Ensures (fun _ => True) (onSessionSetupRes sessionId)
      (fun _ after => Identified sessionId after) world := by
    intro sessionId
    unfold onSessionSetupRes messageHeader Ensures
    simp only [wp_bind, wp_updateSession, wp_get, wp_ofExcept, wp_prepare, wp_pure]
    refine ⟨fun _ _ => ⟨⟨rfl, ?_⟩, ?_⟩, fun _ _ => trivial⟩
    · intro kept keeps
      cases fresh.symm.trans keeps
    · rintro _ same
      cases same
      rfl
  unfold processMessage Ensures
  cases message with
  | request req => exact .inl rfl
  | response res =>
      unfold checkMsg wp
      dsimp only
      rw [bind_checkMsg rfl]
      cases response : res.response with
      | sessionSetupRes evseId =>
          dsimp only
          by_cases passes : res.responseCode.isFailed = false ∧ Known res world.session
          · rw [if_pos passes]
            apply wp_mono _ (fun _ _ failed => failed) (takes res.header.sessionId)
            exact fun _ after identified => .inr ⟨res, rfl, identified⟩
          · rw [if_neg passes]
            exact .inl rfl
      | _ => exact .inl rfl

/-- A step that goes on takes the session id of the response in `SessionSetup`, and keeps it
otherwise. It sends a request with that id. -/
theorem Step.identified {session next : EVCCSession ρ} {message : ResponseMessage}
    {answers : Answers} {request : RequestMessage}
    (step : (machine ρ).Step session (some ⟨.response message, answers⟩) next)
    (sent : next.sent = request :: session.sent) (goesOn : next.ended = false)
    (identified : Identified session.world.session.sessionId session.world)
    (fresh : session.world.currentState.own = .sessionSetup →
      session.world.session.ongoingScheduleExchangeReq = none) :
    request.header.sessionId = next.world.session.sessionId ∧
      Identified next.world.session.sessionId next.world ∧
      next.world.session.sessionId =
        if session.world.currentState.own = .sessionSetup then message.header.sessionId
        else session.world.session.sessionId := by
  suffices processes : ∀ after,
      processMessage answers (.response message) { session.world with calls := [] } =
        .ok ⟨⟩ after →
      after.currentState.nextState ≠ some .terminate →
      Identified (if session.world.currentState.own = .sessionSetup then message.header.sessionId
        else session.world.session.sessionId) after by
    obtain ⟨addressed, reached⟩ := addressed_of_step step sent goesOn processes
    rw [reached.session.1]
    exact ⟨addressed, reached, rfl⟩
  intro after processed goesOn
  split
  next setup =>
    have unkept : ({ session.world with calls := [] } :
        World ρ).session.ongoingScheduleExchangeReq = none := fresh setup
    unfold processMessage at processed
    rw [get_bind_apply] at processed
    simp only [setup] at processed
    rcases post_of_eq_ok (SessionSetup.identified_processMessage _ unkept) processed with
      ended | ⟨res, same, identified⟩
    · exact absurd ended goesOn
    · cases same
      exact identified
  next other =>
    have identified : Identified session.world.session.sessionId
        { session.world with calls := [] } := ⟨identified.session, identified.message⟩
    exact identified_of_processed identified other processed

omit [EVController ρ] in
/-- No state goes back to `SessionSetup`. -/
theorem Digests.waiting_ne_sessionSetup {own : Own} {message : V2GMessage} {session : Session}
    {turn : Turn} (digests : Digests own message session turn) :
    turn.waiting ≠ some .sessionSetup := by
  cases digests with
  | answers res response row =>
      generalize res.response = taken at row
      cases row <;> simp [Turn.waiting, StateName.new]
  | detectsWelding complete welding row => cases row <;> simp [Turn.waiting, StateName.new]

end

end Iso15118.Evcc.V20
