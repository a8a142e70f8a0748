import Iso15118.Evcc.V20.Progress

/-!
# The last request of the EVCC

The request a state waits for the response to, and what the variables say of it.
-/

namespace Iso15118.Evcc.V20

open Transition
open Iso15118.Shared
open Iso15118.Shared.V20

/-- The type of request the response to which a state is there for. -/
def waitsFor : Own → RequestType
  | .sessionSetup => .sessionSetupReq
  | .authorizationSetup => .authorizationSetupReq
  | .certificateInstallation => .certificateInstallationReq
  | .authorization => .authorizationReq
  | .serviceDiscovery => .serviceDiscoveryReq
  | .serviceDetail => .serviceDetailReq
  | .serviceSelection => .serviceSelectionReq
  | .scheduleExchange => .scheduleExchangeReq
  | .powerDelivery => .powerDeliveryReq
  | .sessionStop => .sessionStopReq
  | .acChargeParameterDiscovery => .acChargeParameterDiscoveryReq
  | .acChargeLoop => .acChargeLoopReq
  | .dcChargeParameterDiscovery => .dcChargeParameterDiscoveryReq
  | .dcCableCheck => .dcCableCheckReq
  | .dcPreCharge _ => .dcPreChargeReq
  | .dcChargeLoop => .dcChargeLoopReq
  | .dcWeldingDetection _ => .dcWeldingDetectionReq

/-- No reason has been given to stop charging, but for a pause. -/
def Session.KeepsCharging (session : Session) : Prop :=
  session.chargingSessionStopV20 ∈ [none, some .pause]

/-- Neither is a power profile being computed nor is there a reason to stop. -/
def Session.Unstarted (session : Session) : Prop :=
  session.evProcessing ≠ .ongoing ∧ session.KeepsCharging

/-- The energy service that has been selected. -/
def Session.service (session : Session) : Option ServiceV20 :=
  session.selectedEnergyService.map SelectedEnergyService.service

/-- The charging type is that of the service. -/
def Session.ChargesAsSelected (session : Session) : Prop :=
  session.selectedChargingTypeIsAc = true ↔ session.service ∈ [some .ac, some .acBpt]

/-- What the variables of a waiting state say of the request that it has sent. -/
def Remembers : Own → Request → Session → Prop
  | .sessionSetup, _, session | .authorizationSetup, _, session | .serviceDiscovery, _, session
  | .serviceDetail, _, session =>
      session.Unstarted
  | .authorization, _, session =>
      session.Unstarted ∧ ∀ cached, session.authorizationReqMessage = some cached →
        cached.request.requestType = .authorizationReq
  | .serviceSelection, request, session =>
      session.Unstarted ∧ ∃ req, request = .serviceSelectionReq req ∧
        session.service.map ServiceV20.id = some req.selectedEnergyService.serviceId
  | .acChargeParameterDiscovery, _, session | .dcChargeParameterDiscovery, _, session =>
      session.Unstarted ∧ session.ChargesAsSelected
  | .scheduleExchange, _, session =>
      session.Unstarted ∧ session.ChargesAsSelected ∧
        ∀ cached, session.ongoingScheduleExchangeReq = some cached →
          cached.request.requestType = .scheduleExchangeReq
  | .dcCableCheck, _, session | .dcPreCharge _, _, session => session.KeepsCharging
  | .powerDelivery, request, session =>
      ∃ req, request = .powerDeliveryReq req ∧
        (session.evProcessing = .ongoing ↔ req.evProcessing = .ongoing) ∧
        (session.KeepsCharging ∨ req.evProcessing ≠ .ongoing ∧ req.chargeProgress = .stop)
  | _, _, _ => True

theorem Row.request_type {contract : Contract} {own : Own} {response : Response}
    {session : Session} {turn : Turn} (row : Row contract own response session turn)
    {previous request : Request} (remembers : Remembers own previous session)
    (requests : turn.request = some request) {waiting : Own}
    (waits : turn.waiting = some waiting) : request.requestType = waitsFor waiting := by
  cases row <;> cases waits
  case repeatAuthorization cached ongoing caches =>
    cases requests
    exact remembers.2 cached caches
  case repeatScheduleExchange ongoing =>
    obtain ⟨cached, caches, rfl⟩ := Option.map_eq_some_iff.mp requests
    exact remembers.2.2 cached caches
  all_goals first
    | cases requests; rfl
    | cases requests

theorem Session.ChargesAsSelected.of_ac {session : Session} {selected : SelectedEnergyService}
    (selects : session.selectedEnergyService = some selected)
    (ac : selected.service ∈ [.ac, .acBpt]) :
    { session with selectedChargingTypeIsAc := true }.ChargesAsSelected := by
  refine iff_of_true rfl ?_
  rw [service, selects]
  simpa using ac

theorem Session.ChargesAsSelected.of_dc {session : Session} {selected : SelectedEnergyService}
    (selects : session.selectedEnergyService = some selected)
    (dc : selected.service ∈ [.dc, .dcBpt]) :
    { session with selectedChargingTypeIsAc := false }.ChargesAsSelected := by
  refine iff_of_false Bool.false_ne_true ?_
  rw [service, selects]
  rcases selected with ⟨_ | _, _, _⟩ <;> simp_all

theorem Row.remembers {contract : Contract} {own : Own} {response : Response}
    {session : Session} {turn : Turn} (row : Row contract own response session turn)
    {previous request : Request} (ready : Ready own session)
    (remembers : Remembers own previous session) (requests : turn.request = some request)
    {waiting : Own} (waits : turn.waiting = some waiting) :
    Remembers waiting request turn.session := by
  cases row <;> cases waits
  case serviceSelection =>
    cases requests
    exact ⟨remembers, _, rfl, rfl⟩
  case authorize =>
    refine ⟨remembers, fun cached caches => ?_⟩
    cases caches
    rfl
  case acExchangeSchedules | dcExchangeSchedules =>
    refine ⟨remembers.1, remembers.2, fun cached caches => ?_⟩
    cases caches
    rfl
  case authorized => exact remembers.1
  case acChargeParameters selected req ac selects =>
    exact ⟨remembers.1, .of_ac selects ac⟩
  case dcChargeParameters selected req dc selects =>
    exact ⟨remembers.1, .of_dc selects dc⟩
  case acSchedules profile req finished answered processing ac =>
    cases requests
    refine ⟨req, rfl, ?_, .inl remembers.1.2⟩
    rw [processing]
    cases profile with
    | none => rfl
    | some given => exact iff_of_false remembers.1.1 nofun
  case dcSchedules => exact remembers.1.2
  case repeatPowerDelivery res profile req answered processing processes exchanged =>
    cases requests
    obtain ⟨_, _, same, keeps | ⟨processed, _⟩⟩ := remembers
    · refine ⟨req, rfl, ?_, .inl keeps⟩
      rw [processing]
    · exact absurd (same.mp processes) processed
  case preCharged res profile req answered processing exchanged =>
    cases requests
    refine ⟨req, rfl, ?_, .inl remembers⟩
    rw [processing]
  case acStop | dcStop =>
    cases requests
    exact ⟨_, rfl, iff_of_false ready.2.2.2.2 nofun, .inr ⟨nofun, rfl⟩⟩
  all_goals first
    | exact remembers
    | trivial

theorem WeldingRow.request_type {complete : Bool} {session : Session} {turn : Turn}
    (row : WeldingRow complete session turn) {request : Request}
    (requests : turn.request = some request) {waiting : Own}
    (waits : turn.waiting = some waiting) : request.requestType = waitsFor waiting := by
  cases row with
  | timeout => cases waits
  | complete | detect =>
      cases requests
      cases waits
      rfl

theorem WeldingRow.remembers {complete : Bool} {session : Session} {turn : Turn}
    (row : WeldingRow complete session turn) {request : Request} {waiting : Own}
    (waits : turn.waiting = some waiting) : Remembers waiting request turn.session := by
  cases row with
  | timeout => cases waits
  | complete | detect =>
      cases waits
      trivial

/-! ## Steps of the receive loop -/

/-- What a state does with a message that it does not refuse. -/
inductive Digests (own : Own) (message : V2GMessage) (session : Session) (turn : Turn) : Prop
  | answers (res : ResponseMessage) (response : message = .response res)
      (row : Row {} own res.response session turn)
  | detectsWelding (complete : Bool) (welding : own = .dcWeldingDetection complete)
      (row : WeldingRow complete session turn)

variable {ρ : Type}

/-- The session waits for the response to its last request. -/
structure Asking (session : EVCCSession ρ) (message : RequestMessage) : Prop where
  sent : ∃ older, session.sent = message :: older
  idle : session.world.currentState.nextState = none
  waits : Waits session
  type : message.request.requestType = waitsFor session.world.currentState.own
  remembers : Remembers session.world.currentState.own message.request session.world.session

theorem Starts.asking {session : EVCCSession ρ} (starts : Starts session)
    {message : RequestMessage} (sent : session.sent = [message])
    (setup : message.request.requestType = .sessionSetupReq) : Asking session message := by
  obtain ⟨points, sessionId, fresh⟩ := starts.fresh
  constructor
  · exact ⟨_, sent⟩
  · rw [starts.currentState]
  · exact starts.waits
  · rw [starts.currentState]
    exact setup
  · rw [starts.currentState, fresh]
    exact ⟨nofun, .head _⟩

/-- A step that goes on sends a new request, and waits for the response to it. -/
theorem Asking.step [EVController ρ] {session next : EVCCSession ρ} {previous : RequestMessage}
    {input : Option (Received V2GMessage Answers)} (asking : Asking session previous)
    (step : (machine ρ).Step session input next) (goesOn : next.ended = false) :
    ∃ received turn message, input = some received ∧
      Digests session.world.currentState.own received.message session.world.session turn ∧
      turn.request = some message.request ∧
      turn.waiting = some next.world.currentState.own ∧
      next.world.session = turn.session ∧ next.sent = message :: session.sent ∧
      Asking next message := by
  obtain ⟨received, after, input, reacts, goes⟩ :=
    Step.reacts (keeps_any ρ) asking.idle step goesOn
  have waits := goes.waits reacts asking.waits
  cases reacts with
  | refuses _ _ currentState =>
      rcases goes.leads with ⟨stays, _⟩ | ⟨name, leads, _⟩
      · rw [currentState] at stays
        cases stays
      · rw [currentState] at leads
        cases leads
  | answers res turn response accepts row leads =>
      have waiting := goes.waiting leads
      obtain ⟨header, request, requests, sent⟩ := goes.requests leads fun silent _ waits =>
        row.leftover_of_silent silent waits asking.waits.leftover
      have session := goes.session.trans leads.session
      refine ⟨received, turn, ⟨header, request⟩, input, .answers res response row, requests,
        waiting, session, sent, ⟨_, sent⟩, goes.idle, waits, ?_, ?_⟩
      · exact row.request_type asking.remembers requests waiting
      · rw [session]
        exact row.remembers asking.waits.ready asking.remembers requests waiting
  | detectsWelding complete turn own row leads =>
      have waiting := goes.waiting leads
      obtain ⟨header, request, requests, sent⟩ := goes.requests leads fun silent _ waits => by
        cases row with
        | timeout => cases waits
        | complete | detect => cases silent
      have session := goes.session.trans leads.session
      refine ⟨received, turn, ⟨header, request⟩, input, .detectsWelding complete own row, requests,
        waiting, session, sent, ⟨_, sent⟩, goes.idle, waits, ?_, ?_⟩
      · exact row.request_type requests waiting
      · rw [session]
        exact row.remembers waiting

end Iso15118.Evcc.V20
