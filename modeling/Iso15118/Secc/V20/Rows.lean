import Iso15118.Secc.Leaves
import Iso15118.Secc.V20.Loop
import Iso15118.Secc.V20.ServiceSelection

/-!
# What the ISO 15118-20 SECC answers

A table of the responses to a request after which the session goes on, with the variables and the
state that waits for the next request.
-/

namespace Iso15118.Secc.V20

open Effect
open Iso15118.Shared
open Iso15118.Shared.V20

/-- The table. It has the variables, the next state that is named and the object that has
answered. -/
inductive Row : Request → Response → Session → Option (NextState StateName) → Own → Prop
  | sessionSetup (req : SessionSetupReq) (evseId : String) (session : Session) (own : Own) :
      Row (.sessionSetupReq req) (.sessionSetupRes evseId) session
        (some (.state .authorizationSetup)) own
  | authorizationSetup (res : AuthorizationSetupRes) (session : Session) :
      Row .authorizationSetupReq (.authorizationSetupRes res) session none
        (.authorizationSetup false)
  | authorization (req : AuthorizationReq) (evseProcessing : Processing) (session : Session) :
      Row (.authorizationReq req) (.authorizationRes evseProcessing) session none
        (.authorization (evseProcessing ≠ .finished))
  | serviceDiscovery (req : ServiceDiscoveryReq) (res : ServiceDiscoveryRes)
      (session : Session) :
      Row (.serviceDiscoveryReq req) (.serviceDiscoveryRes res) session none
        (.serviceDiscovery false)
  | serviceDetail (req : ServiceDetailReq) (res : ServiceDetailRes) (session : Session) :
      Row (.serviceDetailReq req) (.serviceDetailRes res) session none (.serviceDetail false)
  | acSelection (req : ServiceSelectionReq) (session : Session) (own : Own)
      (selected : SelectedEnergyService)
      (selects : session.selectedEnergyService = some selected)
      (requested : selected.service.id = req.selectedEnergyService.serviceId)
      (ac : selected.service ∈ [.ac, .acBpt]) :
      Row (.serviceSelectionReq req) .serviceSelectionRes session
        (some (.state .acChargeParameterDiscovery)) own
  | dcSelection (req : ServiceSelectionReq) (session : Session) (own : Own)
      (selected : SelectedEnergyService)
      (selects : session.selectedEnergyService = some selected)
      (requested : selected.service.id = req.selectedEnergyService.serviceId)
      (dc : selected.service ∈ [.dc, .dcBpt]) :
      Row (.serviceSelectionReq req) .serviceSelectionRes session
        (some (.state .dcChargeParameterDiscovery)) own
  | acChargeParameters (req : ACChargeParameterDiscoveryReq) (session : Session) (own : Own) :
      Row (.acChargeParameterDiscoveryReq req) .acChargeParameterDiscoveryRes session
        (some (.state .scheduleExchange)) own
  | dcChargeParameters (req : DCChargeParameterDiscoveryReq)
      (res : DCChargeParameterDiscoveryRes) (session : Session) (own : Own) :
      Row (.dcChargeParameterDiscoveryReq req) (.dcChargeParameterDiscoveryRes res) session
        (some (.state .scheduleExchange)) own
  | schedules (req : ScheduleExchangeReq) (res : ScheduleExchangeRes) (session : Session)
      (own : Own) (selected : SelectedEnergyService)
      (selects : session.selectedEnergyService = some selected)
      (finished : res.evseProcessing = .finished) :
      Row (.scheduleExchangeReq req) (.scheduleExchangeRes res) session
        (ScheduleExchange.nextState selected.service) own
  | noSchedules (req : ScheduleExchangeReq) (res : ScheduleExchangeRes) (session : Session)
      (own : Own) (ongoing : res.evseProcessing = .ongoing) :
      Row (.scheduleExchangeReq req) (.scheduleExchangeRes res) session none own
  | powerProcessed (req : PowerDeliveryReq) (session : Session) (own : Own)
      (ongoing : req.evProcessing = .ongoing) :
      Row (.powerDeliveryReq req) .powerDeliveryRes session none own
  | stopped (req : PowerDeliveryReq) (session : Session) (own : Own)
      (finished : req.evProcessing ≠ .ongoing) (stops : req.chargeProgress = .stop) :
      Row (.powerDeliveryReq req) .powerDeliveryRes session none own
  | started (req : PowerDeliveryReq) (session : Session) (own : Own)
      (selected : SelectedEnergyService)
      (selects : session.selectedEnergyService = some selected)
      (finished : req.evProcessing ≠ .ongoing) (starts : req.chargeProgress ≠ .stop) :
      Row (.powerDeliveryReq req) .powerDeliveryRes session
        (PowerDelivery.chargeLoop selected.service) own
  | renegotiation (req : SessionStopReq) (session : Session) (own : Own) :
      Row (.sessionStopReq req) .sessionStopRes session (some (.state .serviceDiscovery)) own
  | acChargeLoop (req : ACChargeLoopReq) (evseStatus : Option EVSEStatus) (session : Session)
      (own : Own) :
      Row (.acChargeLoopReq req) (.acChargeLoopRes evseStatus) session none own
  | cableChecked (session : Session) (own : Own) :
      Row .dcCableCheckReq (.dcCableCheckRes .finished) session (some (.state .dcPreCharge)) own
  | checkingCable (session : Session) (own : Own) :
      Row .dcCableCheckReq (.dcCableCheckRes .ongoing) session none own
  | preCharged (req : DCPreChargeReq) (evsePresentVoltage : RationalNumber) (session : Session)
      (own : Own) (finished : req.evProcessing = .finished) :
      Row (.dcPreChargeReq req) (.dcPreChargeRes evsePresentVoltage) session
        (some (.state .powerDelivery)) own
  | preCharge (req : DCPreChargeReq) (evsePresentVoltage : RationalNumber) (session : Session)
      (ongoing : req.evProcessing ≠ .finished) :
      Row (.dcPreChargeReq req) (.dcPreChargeRes evsePresentVoltage) session none
        (.dcPreCharge false)
  | dcChargeLoop (req : DCChargeLoopReq) (evseStatus : Option EVSEStatus)
      (params : DCChargeLoopResParams) (session : Session) :
      Row (.dcChargeLoopReq req) (.dcChargeLoopRes evseStatus params) session none
        (.dcChargeLoop false)
  | weldingDetection (req : DCWeldingDetectionReq) (evsePresentVoltage : RationalNumber)
      (session : Session) :
      Row (.dcWeldingDetectionReq req) (.dcWeldingDetectionRes evsePresentVoltage) session none
        (.dcWeldingDetection false)

variable {σ : Type}

/-- A response to the request has been prepared, with the id of the session. If the session goes
on, the table has it. -/
def Replied (request : Request) (after : World σ) : Prop :=
  ∃ header responseCode response,
    after.currentState.nextV2gtpMsg = some ⟨header, responseCode, response⟩ ∧
    responseTo response = request.requestType ∧
    header.sessionId = after.session.sessionId ∧
    (after.currentState.nextState ≠ some .terminate →
      Row request response after.session after.currentState.nextState after.currentState.own)

/-! ## Rules -/

section

variable {request : Request} {world : World σ} {nextState : Option (NextState StateName)}
  {responseCode : ResponseCode} {response : Response} {timeout : ℚ}

/-- What is prepared for the object that the world has. -/
theorem replied_createNextMessage (responds : responseTo response = request.requestType)
    (row : nextState ≠ some .terminate →
      Row request response world.session nextState world.currentState.own) :
    Leaves (createNextMessage nextState responseCode response timeout) (Replied request) world :=
  createNextMessage_ensures ⟨_, responseCode, response, rfl, responds, rfl, row⟩

/-- What is prepared before the attributes of the object are assigned. -/
theorem replied_createNextMessage_setOwn {own : Own}
    (responds : responseTo response = request.requestType)
    (row : Row request response world.session nextState own) :
    Leaves (createNextMessage nextState responseCode response timeout >>= fun _ => setOwn own)
      (Replied request) world :=
  leaves_setOwn (createNextMessage_ensures
    ⟨_, responseCode, response, rfl, responds, rfl, fun _ => row⟩)

theorem replied_stopStateMachine {message : RequestMessage} :
    Leaves (stopStateMachine (.request message) responseCode) (Replied message.request) world := by
  unfold Leaves
  rw [wp_stopStateMachine]
  exact replied_createNextMessage (responseTo_failedResponse _) fun goesOn => absurd rfl goesOn

/-- The service that has been selected is not changed by reading it. -/
theorem leaves_selectedService_bind {α : Type} {next : ServiceV20 → Program σ α}
    {post : World σ → Prop}
    (rest : ∀ selected, world.session.selectedEnergyService = some selected →
      Leaves (next selected.service) post world) :
    Leaves (selectedService >>= next) post world := by
  unfold Leaves
  rw [wp_bind, wp_selectedService]
  exact ⟨rest, fun _ => trivial⟩

end

/-! ## The states -/

section

variable {world : World σ} {answers : Answers} {header : MessageHeader}

theorem replied_sessionSetup {req : SessionSetupReq} :
    Leaves (SessionSetup.onSessionSetupReq answers header req)
      (Replied (.sessionSetupReq req)) world := by
  apply leaves_get_bind
  apply leaves_bind
  intro evseId _
  apply leaves_updateSession_bind
  exact replied_createNextMessage rfl fun _ => .sessionSetup req evseId _ _

theorem replied_authorizationSetup {environment : Environment} :
    Leaves (AuthorizationSetup.onAuthorizationSetupReq environment answers)
      (Replied .authorizationSetupReq) world := by
  apply leaves_bind
  intro eimAuthorized _
  apply leaves_bind
  intro pncAsRes _
  apply leaves_updateSession_bind
  split
  · exact leaves_throw _
  · exact replied_createNextMessage_setOwn rfl (.authorizationSetup _ _)

theorem Authorization.replied_respond {req : AuthorizationReq} {responseCode : ResponseCode} :
    Leaves (Authorization.respond answers req responseCode) (Replied (.authorizationReq req))
      world := by
  apply leaves_bind
  intro status _
  exact replied_createNextMessage_setOwn rfl (.authorization req _ _)

theorem replied_authorization {environment : Environment} {req : AuthorizationReq} :
    Leaves (Authorization.onAuthorizationReq environment answers
        (.request ⟨header, .authorizationReq req⟩) header req)
      (Replied (.authorizationReq req)) world := by
  apply leaves_updateSession_bind
  cases req.pncParams with
  | none => exact Authorization.replied_respond
  | some pncParams =>
      apply leaves_bind
      intro verified _
      cases verified with
      | false => exact replied_stopStateMachine
      | true =>
          apply leaves_get_bind
          split
          · exact Authorization.replied_respond
          · exact Authorization.replied_respond

theorem replied_serviceDiscovery [DiagnosticService σ] {req : ServiceDiscoveryReq} :
    Leaves (ServiceDiscovery.onServiceDiscoveryReq answers)
      (Replied (.serviceDiscoveryReq req)) world := by
  unfold ServiceDiscovery.onServiceDiscoveryReq
  iterate 5
    apply leaves_bind
    intro _ _
  exact replied_createNextMessage_setOwn rfl (.serviceDiscovery req _ _)

theorem replied_serviceDetail {req : ServiceDetailReq} :
    Leaves (ServiceDetail.onServiceDetailReq answers req) (Replied (.serviceDetailReq req))
      world := by
  apply leaves_bind
  intro serviceParameterList _
  apply leaves_get_bind
  cases serviceParameterList with
  | none => exact leaves_throw _
  | some serviceParameterList =>
      apply leaves_updateSession_bind
      exact replied_createNextMessage_setOwn rfl (.serviceDetail req _ _)

/-- A selection that passes the check is the one that is stored. -/
theorem checkSelectedServices_selects [DiagnosticService σ] {req : ServiceSelectionReq} :
    wp (checkSelectedServices req)
      (fun refused (after : World σ) => refused = none →
        ∃ selected, after.session.selectedEnergyService = some selected ∧
          selected.service.id = req.selectedEnergyService.serviceId)
      (fun _ _ => True) world := by
  unfold wp
  cases ran : checkSelectedServices req world with
  | error exception after => trivial
  | ok refused after =>
      rintro rfl
      have returned : returns (checkSelectedServices req)
          (fun refused reached => refused = none ∧ reached = after) world := by
        unfold returns wp
        rw [ran]
        exact ⟨rfl, rfl⟩
      rw [returns_checkSelectedServices] at returned
      cases checked : selectionError world.session req with
      | some responseCode =>
          rw [checked] at returned
          cases returned.1
      | none =>
          rw [checked] at returned
          obtain ⟨_, _, rfl⟩ := returned
          obtain ⟨selected, selects, requested⟩ :=
            exists_stored (selectionError_eq_none_iff.mp checked).1
          exact ⟨selected, selects, (Prod.mk.inj requested.1).1⟩

theorem id_injective {service other : ServiceV20} (same : service.id = other.id) :
    service = other := by
  have known := ServiceV20.getById_id service
  rw [same, ServiceV20.getById_id] at known
  exact (Option.some.inj known).symm

theorem replied_serviceSelection [DiagnosticService σ] {req : ServiceSelectionReq} :
    Leaves (ServiceSelection.onServiceSelectionReq (.request ⟨header, .serviceSelectionReq req⟩)
        req)
      (Replied (.serviceSelectionReq req)) world := by
  unfold ServiceSelection.onServiceSelectionReq Leaves
  rw [wp_bind]
  apply wp_mono _ (fun _ _ _ => trivial) checkSelectedServices_selects
  intro refused reached passes
  cases refused with
  | some responseCode => exact replied_stopStateMachine
  | none =>
      obtain ⟨selected, selects, requested⟩ := passes rfl
      dsimp only
      rw [← requested]
      split
      next ac =>
        refine replied_createNextMessage rfl fun _ =>
          .acSelection req _ _ selected selects requested ?_
        rcases ac with same | same
        · rw [id_injective same]
          simp
        · rw [id_injective same]
          simp
      next =>
        split
        next dc =>
          refine replied_createNextMessage rfl fun _ =>
            .dcSelection req _ _ selected selects requested ?_
          rcases dc with same | same
          · rw [id_injective same]
            simp
          · rw [id_injective same]
            simp
        next => exact replied_stopStateMachine

theorem replied_acChargeParameterDiscovery {req : ACChargeParameterDiscoveryReq} :
    Leaves (ACChargeParameterDiscovery.onAcChargeParameterDiscoveryReq answers
        (.request ⟨header, .acChargeParameterDiscoveryReq req⟩) req)
      (Replied (.acChargeParameterDiscoveryReq req)) world := by
  apply leaves_bind
  intro energyService _
  apply leaves_bind_of
    (ACChargeParameterDiscovery.responseTo_res answers req energyService _)
  intro res _ responds
  cases res with
  | some response =>
      have responds := responds response rfl
      cases response <;> cases responds
      exact replied_createNextMessage rfl fun _ => .acChargeParameters req _ _
  | none => exact replied_stopStateMachine

theorem replied_dcChargeParameterDiscovery {req : DCChargeParameterDiscoveryReq} :
    Leaves (DCChargeParameterDiscovery.onDcChargeParameterDiscoveryReq answers
        (.request ⟨header, .dcChargeParameterDiscoveryReq req⟩) req)
      (Replied (.dcChargeParameterDiscoveryReq req)) world := by
  apply leaves_bind
  intro energyService _
  apply leaves_bind
  intro res _
  cases res with
  | some res => exact replied_createNextMessage rfl fun _ => .dcChargeParameters req res _ _
  | none => exact replied_stopStateMachine

theorem scheduleExchangeRes_evseProcessing {controlMode : Option ControlMode}
    {evseProcessing : Processing} {params : Option ScheduleExchangeResParams}
    {res : ScheduleExchangeRes}
    (made : ScheduleExchange.scheduleExchangeRes controlMode evseProcessing params = .ok res) :
    res.evseProcessing = evseProcessing := by
  unfold ScheduleExchange.scheduleExchangeRes at made
  dsimp only at made
  split_ifs at made
  all_goals
    cases made
    rfl

theorem ScheduleExchange.finish_selects {controlMode : Option ControlMode}
    {res : ScheduleExchangeRes} :
    wp (finish controlMode res)
      (fun service after => ∃ selected, after.session.selectedEnergyService = some selected ∧
        service = selected.service) (fun _ _ => True) world := by
  unfold finish
  simp only [wp_bind, wp_get, wp_ofExcept, wp_modify, wp_selectedService]
  exact ⟨fun _ _ => ⟨fun selected selects => ⟨selected, selects, rfl⟩, fun _ => trivial⟩,
    fun _ _ => trivial⟩

theorem replied_scheduleExchange {req : ScheduleExchangeReq} :
    Leaves (ScheduleExchange.onScheduleExchangeReq answers
        (.request ⟨header, .scheduleExchangeReq req⟩) req)
      (Replied (.scheduleExchangeReq req)) world := by
  unfold ScheduleExchange.onScheduleExchangeReq
  iterate 3
    apply leaves_bind
    intro _ _
  split
  · exact replied_stopStateMachine
  · apply leaves_bind
    intro readyToCharge _
    split
    · apply leaves_bind
      intro _ _
      apply leaves_ofExcept_bind
      intro res made
      apply leaves_bind_of ScheduleExchange.finish_selects
      rintro _ _ ⟨selected, selects, rfl⟩
      exact replied_createNextMessage rfl fun _ =>
        .schedules req res _ _ selected selects (scheduleExchangeRes_evseProcessing made)
    · apply leaves_ofExcept_bind
      intro res made
      exact replied_createNextMessage rfl fun _ =>
        .noSchedules req res _ _ (scheduleExchangeRes_evseProcessing made)

theorem PowerDelivery.replied_stopCharging {req : PowerDeliveryReq}
    (finished : req.evProcessing ≠ .ongoing) (stops : req.chargeProgress = .stop) :
    Leaves (stopCharging answers (.request ⟨header, .powerDeliveryReq req⟩) .ok)
      (Replied (.powerDeliveryReq req)) world := by
  unfold stopCharging
  iterate 3
    apply leaves_bind
    intro _ _
  split
  · exact replied_createNextMessage rfl fun _ => .stopped req _ _ finished stops
  · exact replied_stopStateMachine

theorem PowerDelivery.replied_startCharging {req : PowerDeliveryReq}
    (finished : req.evProcessing ≠ .ongoing) (starts : req.chargeProgress ≠ .stop) :
    Leaves (startCharging answers (.request ⟨header, .powerDeliveryReq req⟩) req .ok)
      (Replied (.powerDeliveryReq req)) world := by
  apply leaves_bind
  intro valid _
  split
  · iterate 3
      apply leaves_bind
      intro _ _
    split
    · apply leaves_selectedService_bind
      intro selected selects
      exact replied_createNextMessage rfl fun _ =>
        .started req _ _ selected selects finished starts
    · apply leaves_bind
      intro _ _
      exact replied_stopStateMachine
  · exact replied_stopStateMachine

theorem replied_powerDelivery {environment : Environment} {req : PowerDeliveryReq} :
    Leaves (PowerDelivery.onPowerDeliveryReq environment answers
        (.request ⟨header, .powerDeliveryReq req⟩) req)
      (Replied (.powerDeliveryReq req)) world := by
  unfold PowerDelivery.onPowerDeliveryReq PowerDelivery.checkPowerProfile
  split
  next ongoing => exact replied_createNextMessage rfl fun _ => .powerProcessed req _ _ ongoing
  next finished =>
    dsimp only
    rw [if_neg (by simp)]
    split
    · exact replied_stopStateMachine
    · split
      next stops => exact PowerDelivery.replied_stopCharging finished stops
      next starts => exact PowerDelivery.replied_startCharging finished starts

theorem replied_sessionStop {req : SessionStopReq} :
    Leaves (SessionStop.onSessionStopReq answers req) (Replied (.sessionStopReq req)) world := by
  apply leaves_bind
  intro renegotiation _
  apply leaves_updateSession_bind
  apply replied_createNextMessage rfl
  cases renegotiation with
  | true => exact fun _ => .renegotiation req _ _
  | false => exact fun goesOn => absurd rfl goesOn

theorem replied_acChargeLoop {req : ACChargeLoopReq} :
    Leaves (ACChargeLoop.onAcChargeLoopReq answers req) (Replied (.acChargeLoopReq req))
      world := by
  unfold ACChargeLoop.onAcChargeLoopReq
  iterate 6
    apply leaves_bind
    intro _ _
  apply leaves_bind_of (ACChargeLoop.responseTo_acChargeLoopRes _ _ _ _ _)
  intro res _ responds
  apply leaves_bind
  intro _ _
  cases res <;> cases responds
  exact replied_createNextMessage rfl fun _ => .acChargeLoop req _ _ _

theorem replied_dcCableCheck {contactorsClosed cableCheckStarted : Bool} :
    Leaves (DCCableCheck.onDcCableCheckReq answers (.request ⟨header, .dcCableCheckReq⟩)
        contactorsClosed cableCheckStarted)
      (Replied .dcCableCheckReq) world := by
  apply leaves_bind
  intro _ _
  split
  · apply leaves_bind
    intro isolationLevel _
    split
    · exact replied_createNextMessage rfl fun _ => .cableChecked _ _
    · split
      · exact replied_stopStateMachine
      · exact replied_createNextMessage rfl fun _ => .checkingCable _ _
  · apply leaves_bind
    intro closed _
    rcases closed with _ | _ | _
    · exact replied_createNextMessage rfl fun _ => .checkingCable _ _
    · exact replied_stopStateMachine
    · apply leaves_bind
      intro _ _
      exact replied_createNextMessage rfl fun _ => .checkingCable _ _

theorem DCPreCharge.keeps_own_sendChargingCommand (targetVoltage : ℚ) :
    Keeps (Same fun world : World σ => world.currentState.own)
      (tryCatch
        (do
          ask (.sendChargingCommand (some targetVoltage) (some 0) true false)
            answers.sendChargingCommand
          pure false)
        (fun exception => if exception = .timeoutError then pure true else throw exception)) := by
  apply keeps_tryCatch
  · apply keeps_bind (keeps_ask fun _ => rfl)
    intro _
    exact keeps_pure _
  · intro exception
    split
    · exact keeps_pure _
    · exact keeps_throw _

theorem replied_dcPreCharge {req : DCPreChargeReq} :
    Leaves (DCPreCharge.onDcPreChargeReq answers (.request ⟨header, .dcPreChargeReq req⟩) req)
      (Replied (.dcPreChargeReq req)) world := by
  apply leaves_setOwn_bind
  apply leaves_bind_own keeps_own_onEvData
  intro _ reached own
  split
  next finished =>
    apply leaves_bind
    intro evsePresentVoltage _
    exact replied_createNextMessage rfl fun _ => .preCharged req _ _ _ finished
  next ongoing =>
    apply leaves_get_bind
    apply leaves_bind_own (DCPreCharge.keeps_own_sendChargingCommand _)
    intro timedOut _ own'
    split
    · exact replied_stopStateMachine
    · apply leaves_bind_own (keeps_ask fun _ => rfl)
      intro evsePresentVoltage _ own''
      apply replied_createNextMessage rfl
      intro _
      rw [own'', own', own]
      exact .preCharge req _ _ ongoing

namespace DCChargeLoop

theorem keeps_own_sendChargingCommand (targetVoltage targetCurrent : Option ℚ)
    (isSessionBpt : Bool) :
    Keeps (Same fun world : World σ => world.currentState.own)
      (tryCatch
        (do
          ask (.sendChargingCommand targetVoltage targetCurrent isSessionBpt false)
            answers.sendChargingCommand
          pure true)
        (fun _ => pure false)) := by
  apply keeps_tryCatch
  · apply keeps_bind (keeps_ask fun _ => rfl)
    intro _
    exact keeps_pure _
  · exact fun _ => keeps_pure _

theorem keeps_own_readMeter (meterInfoRequested : Bool) :
    Keeps (Same fun world : World σ => world.currentState.own)
      (readMeter answers meterInfoRequested) := by
  unfold readMeter
  split
  · exact keeps_ask fun _ => rfl
  · exact keeps_pure _

theorem replied_buildDcChargeLoopRes {req : DCChargeLoopReq}
    (own : world.currentState.own = .dcChargeLoop false) :
    Leaves (buildDcChargeLoopRes answers req.meterInfoRequested >>= createNextMessage none .ok)
      (Replied (.dcChargeLoopReq req)) world := by
  unfold buildDcChargeLoopRes
  simp only [bind_assoc, pure_bind]
  apply leaves_get_bind
  apply leaves_selectedService_bind
  intro selected _
  apply leaves_ask_bind
  intro params _
  apply leaves_ask_bind
  intro evseStatus _
  apply leaves_bind_own (keeps_own_readMeter _)
  intro _ _ same
  iterate 5
    apply leaves_ask_bind
    intro _ _
  apply leaves_ofExcept_bind
  intro params _
  apply replied_createNextMessage rfl
  intro _
  rw [same.trans own]
  exact .dcChargeLoop req evseStatus params _

theorem replied_dcChargeLoop [DiagnosticService σ] {req : DCChargeLoopReq} :
    Leaves (onDcChargeLoopReq answers (.request ⟨header, .dcChargeLoopReq req⟩) req)
      (Replied (.dcChargeLoopReq req)) world := by
  apply leaves_setOwn_bind
  apply leaves_selectedService_bind
  intro selected _
  apply leaves_get_bind
  apply leaves_bind_own keeps_own_onEvData
  intro _ _ own
  apply leaves_get_bind
  apply leaves_ofExcept_bind
  rintro ⟨serviceRegistry, evseDataContext⟩ _
  apply leaves_modify_bind
  apply leaves_bind_own (keeps_own_sendChargingCommand _ _ _)
  intro sent _ own'
  split
  · apply leaves_ask_bind
    intro _ _
    exact replied_buildDcChargeLoopRes (own'.trans own)
  · exact replied_stopStateMachine

end DCChargeLoop

theorem replied_dcWeldingDetection {req : DCWeldingDetectionReq} :
    Leaves (DCWeldingDetection.onDcWeldingDetectionReq answers)
      (Replied (.dcWeldingDetectionReq req)) world := by
  apply leaves_setOwn_bind
  apply leaves_ask_bind
  intro evsePresentVoltage _
  exact replied_createNextMessage rfl fun _ => .weldingDetection req _ _

end

/-- Every request that is answered is answered by a row, or ends the session. -/
theorem replied_answer [DiagnosticService σ] {environment : Environment} {answers : Answers}
    {message : RequestMessage} {own : Own} {world : World σ} :
    Leaves (answer environment answers message own) (Replied message.request) world := by
  rcases message with ⟨header, request⟩
  cases request with
  | sessionSetupReq req => exact replied_sessionSetup
  | authorizationSetupReq => exact replied_authorizationSetup
  | authorizationReq req => exact replied_authorization
  | certificateInstallationReq => exact leaves_throw _
  | serviceDiscoveryReq req => exact replied_serviceDiscovery
  | serviceDetailReq req => exact replied_serviceDetail
  | serviceSelectionReq req => exact replied_serviceSelection
  | scheduleExchangeReq req => exact replied_scheduleExchange
  | powerDeliveryReq req => exact replied_powerDelivery
  | sessionStopReq req => exact replied_sessionStop
  | acChargeParameterDiscoveryReq req => exact replied_acChargeParameterDiscovery
  | acChargeLoopReq req => exact replied_acChargeLoop
  | dcChargeParameterDiscoveryReq req => exact replied_dcChargeParameterDiscovery
  | dcCableCheckReq => exact replied_dcCableCheck
  | dcPreChargeReq req => exact replied_dcPreCharge
  | dcChargeLoopReq req => exact DCChargeLoop.replied_dcChargeLoop
  | dcWeldingDetectionReq req => exact replied_dcWeldingDetection

/-! ## Steps of the receive loop -/

/-- The object waits for the request that comes after the response to another one. -/
def Awaits (request : Request) (response : Response) (session : Session) (own : Own) : Prop :=
  ∃ nextState answered, Row request response session nextState answered ∧
    stateTable.Rests request.requestType nextState answered own

section

variable [DiagnosticService σ] {environment : Environment} {session next : SECCSession σ}
  {message : RequestMessage} {answers : Answers} {response : ResponseMessage}

/-- A request is refused or answered, by a message for it. -/
theorem replied_processMessage {world : World σ} :
    Leaves (processMessage environment answers (.request message)) (Replied message.request)
      world := by
  by_cases installing : world.currentState.own = .certificateInstallation
  · unfold Leaves wp
    rw [processMessage_certificateInstallation environment answers _ world installing]
    trivial
  · have routed : Leaves (route environment answers message) (Replied message.request) world :=
      leaves_route (fun _ _ => replied_stopStateMachine) fun _ _ => replied_answer
    unfold Leaves wp at routed ⊢
    rw [processMessage_request environment answers message world installing]
    exact routed

/-- Whatever is sent in a step answers the request. -/
theorem responseTo_of_sent
    (step : (machine environment).Step session (some ⟨.request message, answers⟩) next)
    (sent : next.sent = response :: session.sent) :
    responseTo response.response = message.request.requestType := by
  obtain ⟨reached, ⟨_, _, _, made, responds, _⟩, prepared, _⟩ :=
    SeccProtocol.leaves_of_sent step sent replied_processMessage
  cases made.symm.trans prepared
  exact responds

/-- It has the id of the session. -/
theorem sessionId_of_sent
    (step : (machine environment).Step session (some ⟨.request message, answers⟩) next)
    (sent : next.sent = response :: session.sent) :
    response.header.sessionId = next.world.session.sessionId := by
  obtain ⟨reached, ⟨_, _, _, made, _, identified, _⟩, prepared, same⟩ :=
    SeccProtocol.leaves_of_sent step sent replied_processMessage
  cases made.symm.trans prepared
  rw [same]
  exact identified

/-- A step that goes on has answered the request with a row. Only the one for a service selection
changes the service that has been selected. -/
theorem awaits_of_step
    (step : (machine environment).Step session (some ⟨.request message, answers⟩) next)
    (sent : next.sent = response :: session.sent) (goesOn : next.ended = false)
    (resting : session.world.currentState.nextState = none) :
    Awaits message.request response.response next.world.session next.world.currentState.own ∧
      next.world.currentState.nextState = none ∧
      (message.request.requestType ≠ .serviceSelectionReq →
        next.world.session.selectedEnergyService =
          session.world.session.selectedEnergyService) := by
  obtain ⟨req, answers', reached, response', same, answered⟩ := step_answered step goesOn
  cases same
  cases sent.symm.trans answered.sent
  obtain ⟨_, _, response, made, _, _, row⟩ := post_of_eq_ok replied_answer answered.answer
  cases made.symm.trans answered.prepared
  rw [answered.session_eq]
  refine ⟨⟨_, _, row answered.not_terminate, answered.rests resting⟩, answered.resting, ?_⟩
  exact fun other => selectedEnergyService_of_kept (kept_of_answered answered) other

end

end Iso15118.Secc.V20
