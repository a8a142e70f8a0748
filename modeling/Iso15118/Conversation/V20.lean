import Iso15118.Evcc.V20.LastRequest
import Iso15118.Secc.V20.Rows
import Iso15118.Shared.Conversation

/-!
# Conversations by ISO 15118-20

Both sides of a session, with the message between them. The SECC goes on by what it is asked for,
the EVCC by what its controller says at the time. They disagree where the EVCC has asked for the
end of charging and enters the charge loop, and where it has asked for the end of the pre-charge
and goes on with it.
-/

namespace Iso15118.Conversation.V20

open Transition Dialogue
open Iso15118.Shared
open Iso15118.Shared.V20
open Iso15118.Evcc.V20 (Asking Digests Expects Remembers waitsFor)
open Iso15118.Secc.V20 (Environment responseTo stateTable)

/-! ## Both sides -/

/-- The EVCC and the SECC. -/
def sides (ρ σ : Type) [Evcc.V20.EVController ρ] [DiagnosticService σ]
    (environment : Environment) :
    Sides (Evcc.Received V2GMessage Evcc.V20.Answers) Evcc.V20.Own Evcc.V20.StateName
      RequestMessage (Evcc.V20.World ρ) Evcc.V20.Answers Secc.V20.Received Secc.V20.Own
      Secc.V20.StateName ResponseMessage (Secc.V20.World σ) Secc.V20.Answers where
  evcc := Evcc.V20.machine ρ
  secc := Secc.V20.machine environment
  toEvcc message answers := ⟨.response message, answers⟩
  toSecc message answers := ⟨.request message, answers⟩

abbrev Config (ρ σ : Type) :=
  Dialogue.Config (Evcc.V20.EVCCSession ρ) (Secc.V20.SECCSession σ) RequestMessage
    ResponseMessage

/-- Both sides have agreed on the protocol, and the EVCC has sent its first request. -/
structure Begins {ρ σ : Type} (config : Config ρ σ) : Prop where
  evcc : Evcc.V20.Starts config.client
  secc : Secc.V20.New config.server
  mail : ∃ header req, config.mail = .request ⟨header, .sessionSetupReq req⟩ ∧
    config.client.sent = [⟨header, .sessionSetupReq req⟩]

/-! ## Requests and responses -/

theorem expects_iff {own : Evcc.V20.Own} {response : Response} :
    Expects own response ↔ responseTo response = waitsFor own := by
  cases own <;> cases response <;> simp [Expects, responseTo, waitsFor]

/-- The requests that may follow the response to a request, with the energy service that has been
selected. -/
def nextRequests (service : Option ServiceV20) : Request → Response → List RequestType
  | _, .sessionSetupRes _ => [.authorizationSetupReq]
  | _, .authorizationSetupRes _ =>
      [.authorizationSetupReq, .authorizationReq, .certificateInstallationReq, .sessionStopReq]
  | _, .authorizationRes evseProcessing =>
      if evseProcessing = .finished then
        [.authorizationReq, .certificateInstallationReq, .serviceDiscoveryReq, .sessionStopReq]
      else [.authorizationReq]
  | _, .certificateInstallationRes => []
  | _, .serviceDiscoveryRes _ => [.serviceDiscoveryReq, .serviceDetailReq, .sessionStopReq]
  | _, .serviceDetailRes _ => [.serviceDetailReq, .serviceSelectionReq, .sessionStopReq]
  | _, .serviceSelectionRes =>
      if service ∈ [some .ac, some .acBpt] then [.acChargeParameterDiscoveryReq, .sessionStopReq]
      else [.dcChargeParameterDiscoveryReq, .sessionStopReq]
  | _, .acChargeParameterDiscoveryRes | _, .dcChargeParameterDiscoveryRes _ =>
      [.scheduleExchangeReq, .dcCableCheckReq, .powerDeliveryReq, .sessionStopReq]
  | _, .scheduleExchangeRes res =>
      if res.evseProcessing = .finished ∧ service ∈ [some .ac, some .acBpt] then
        [.powerDeliveryReq, .dcWeldingDetectionReq, .sessionStopReq]
      else [.scheduleExchangeReq, .dcCableCheckReq, .powerDeliveryReq, .sessionStopReq]
  | .powerDeliveryReq req, .powerDeliveryRes =>
      if req.evProcessing = .ongoing ∨ req.chargeProgress = .stop then
        [.powerDeliveryReq, .dcWeldingDetectionReq, .sessionStopReq]
      else if service ∈ [some .ac, some .acBpt] then
        [.acChargeLoopReq, .powerDeliveryReq, .sessionStopReq]
      else if service ∈ [some .dc, some .dcBpt] then [.dcChargeLoopReq]
      else [.powerDeliveryReq, .dcWeldingDetectionReq, .sessionStopReq]
  | _, .powerDeliveryRes => []
  | _, .sessionStopRes => [.serviceDiscoveryReq]
  | _, .acChargeLoopRes _ => [.acChargeLoopReq, .powerDeliveryReq, .sessionStopReq]
  | _, .dcCableCheckRes evseProcessing =>
      if evseProcessing = .finished then [.dcPreChargeReq]
      else [.dcCableCheckReq, .sessionStopReq]
  | .dcPreChargeReq req, .dcPreChargeRes _ =>
      if req.evProcessing = .finished then
        [.powerDeliveryReq, .dcWeldingDetectionReq, .sessionStopReq]
      else [.dcPreChargeReq, .powerDeliveryReq]
  | _, .dcPreChargeRes _ => []
  | _, .dcChargeLoopRes _ _ => [.dcChargeLoopReq, .powerDeliveryReq]
  | _, .dcWeldingDetectionRes _ => [.dcWeldingDetectionReq, .sessionStopReq]

/-- The energy service that the SECC has selected. -/
def service (session : Secc.V20.Session) : Option ServiceV20 :=
  session.selectedEnergyService.map SelectedEnergyService.service

/-- The state that has answered stays. -/
theorem accepts_iff_of_stays {previous : Request} {response : Response}
    {session : Secc.V20.Session} {nextState : Option (NextState Secc.V20.StateName)}
    {own : Secc.V20.Own} {type : RequestType}
    (row : Secc.V20.Row previous response session nextState own) (stays : nextState = none)
    (named : own.name = Secc.V20.answeredBy previous.requestType) :
    own.accepts type = true ↔ type ∈ nextRequests (service session) previous response := by
  unfold Secc.V20.Own.accepts
  rw [Secc.StateTable.accepts_iff]
  cases row with
  | schedules _ _ _ _ selected selects finished =>
      cases own <;> cases named
      have other : selected.service ≠ .ac ∧ selected.service ≠ .acBpt := by
        simpa [Secc.V20.ScheduleExchange.nextState] using stays
      simp [stateTable, Secc.V20.Own.name, Secc.V20.StateName.expectedMsgTypes,
        Secc.V20.Own.expectFirst, nextRequests, service, *]
  | started _ _ _ selected selects finished starts =>
      cases own <;> cases named
      have other : (selected.service ≠ .ac ∧ selected.service ≠ .acBpt) ∧
          selected.service ≠ .dc ∧ selected.service ≠ .dcBpt := by
        unfold Secc.V20.PowerDelivery.chargeLoop at stays
        split_ifs at stays with ac dc
        exact ⟨not_or.mp ac, not_or.mp dc⟩
      simp [stateTable, Secc.V20.Own.name, Secc.V20.StateName.expectedMsgTypes,
        Secc.V20.Own.expectFirst, nextRequests, service, *]
  | noSchedules | powerProcessed | stopped | acChargeLoop | checkingCable =>
      cases own <;> cases named
      simp [stateTable, Secc.V20.Own.name, Secc.V20.StateName.expectedMsgTypes,
        Secc.V20.Own.expectFirst, nextRequests, *]
  | authorizationSetup | authorization | serviceDiscovery | serviceDetail | preCharge
  | dcChargeLoop | weldingDetection =>
      simp [stateTable, Secc.V20.Own.name, Secc.V20.StateName.expectedMsgTypes,
        Secc.V20.Own.expectFirst, nextRequests, *]
  | _ => cases stays

/-- A new state is entered. -/
theorem accepts_iff_of_enters {previous : Request} {response : Response}
    {session : Secc.V20.Session} {nextState : Option (NextState Secc.V20.StateName)}
    {answered : Secc.V20.Own} {name : Secc.V20.StateName} {type : RequestType}
    (row : Secc.V20.Row previous response session nextState answered)
    (leads : nextState = some (.state name)) :
    name.new.accepts type = true ↔ type ∈ nextRequests (service session) previous response := by
  unfold Secc.V20.Own.accepts
  rw [Secc.StateTable.accepts_iff]
  change type ∈ (if name.new.expectFirst then name.new.name.expectedMsgTypes.take 1
    else name.new.name.expectedMsgTypes) ↔ _
  rw [Secc.V20.StateName.name_new]
  cases row with
  | schedules _ _ _ _ selected selects finished =>
      unfold Secc.V20.ScheduleExchange.nextState at leads
      split_ifs at leads with ac
      cases leads
      simp [Secc.V20.StateName.expectedMsgTypes, Secc.V20.StateName.new,
        Secc.V20.Own.expectFirst, nextRequests, service, *]
  | started _ _ _ selected selects finished starts =>
      unfold Secc.V20.PowerDelivery.chargeLoop at leads
      split_ifs at leads with ac dc
      · cases leads
        simp [Secc.V20.StateName.expectedMsgTypes, Secc.V20.StateName.new,
          Secc.V20.Own.expectFirst, nextRequests, service, *]
      · cases leads
        simp [Secc.V20.StateName.expectedMsgTypes, Secc.V20.StateName.new,
          Secc.V20.Own.expectFirst, nextRequests, service, *]
  | acSelection _ _ _ selected selects requested ac =>
      cases leads
      have ac : selected.service = .ac ∨ selected.service = .acBpt := by simpa using ac
      simp [Secc.V20.StateName.expectedMsgTypes, Secc.V20.StateName.new,
        Secc.V20.Own.expectFirst, nextRequests, service, *]
  | dcSelection _ _ _ selected selects requested dc =>
      cases leads
      have other : selected.service ≠ .ac ∧ selected.service ≠ .acBpt := by
        cases same : selected.service <;> simp [same] at dc ⊢
      simp [Secc.V20.StateName.expectedMsgTypes, Secc.V20.StateName.new,
        Secc.V20.Own.expectFirst, nextRequests, service, *]
  | sessionSetup | acChargeParameters | dcChargeParameters | renegotiation | cableChecked
  | preCharged =>
      cases leads
      simp [Secc.V20.StateName.expectedMsgTypes, Secc.V20.StateName.new,
        Secc.V20.Own.expectFirst, nextRequests, *]
  | _ => cases leads

theorem accepts_iff_of_awaits {previous : Request} {response : Response}
    {session : Secc.V20.Session} {own : Secc.V20.Own} {type : RequestType}
    (awaits : Secc.V20.Awaits previous response session own) :
    own.accepts type = true ↔ type ∈ nextRequests (service session) previous response := by
  obtain ⟨nextState, answered, row, ⟨stays, rfl, named⟩ | ⟨name, leads, rfl⟩⟩ := awaits
  · exact accepts_iff_of_stays row stays named
  · exact accepts_iff_of_enters row leads

/-- The request to charge after the one to stop, or another one to pre-charge after the one that
says that it is done. -/
def straysAfter : Request → Request → Bool
  | .powerDeliveryReq req, .acChargeLoopReq _ | .powerDeliveryReq req, .dcChargeLoopReq _ =>
      req.chargeProgress = .stop
  | .dcPreChargeReq req, .dcPreChargeReq _ => req.evProcessing = .finished
  | _, _ => false

/-- The last of the requests strays after the one before it. -/
def strays : List RequestMessage → Bool
  | message :: previous :: _ => straysAfter previous.request message.request
  | _ => false

/-- The services have been agreed on. -/
def Selected : Evcc.V20.Own → Prop
  | .acChargeParameterDiscovery | .dcChargeParameterDiscovery | .scheduleExchange
  | .dcCableCheck | .dcPreCharge _ | .powerDelivery | .acChargeLoop | .dcChargeLoop
  | .dcWeldingDetection _ => True
  | _ => False

/-- The service is asked for once. -/
theorem service_of_digests {own waiting : Evcc.V20.Own} {message : V2GMessage}
    {session : Evcc.V20.Session} {turn : Evcc.V20.Turn} (digests : Digests own message session turn)
    (waits : turn.waiting = some waiting) (selected : Selected waiting) :
    (Selected own ∨ own = .serviceSelection) ∧ turn.session.service = session.service := by
  cases digests with
  | answers res response row =>
      generalize res.response = taken at row
      cases row <;> cases waits
      all_goals first
        | exact selected.elim
        | exact ⟨.inl trivial, rfl⟩
        | exact ⟨.inr rfl, rfl⟩
  | detectsWelding complete welding row =>
      subst welding
      cases row <;> cases waits
      · exact selected.elim
      · exact ⟨.inl trivial, rfl⟩

theorem charges_ac {selected : SelectedEnergyService} (ac : selected.service ∈ [.ac, .acBpt]) :
    some selected.service ∈ [some ServiceV20.ac, some .acBpt] := by
  simpa using ac

theorem charges_dc {selected : SelectedEnergyService} (dc : selected.service ∈ [.dc, .dcBpt]) :
    some selected.service ∉ [some ServiceV20.ac, some .acBpt] ∧
      some selected.service ∈ [some ServiceV20.dc, some .dcBpt] := by
  simp only [List.mem_cons, List.not_mem_nil, or_false] at dc
  rcases dc with same | same <;> simp [same]

theorem service_of_selects {session : Evcc.V20.Session} {selected : SelectedEnergyService}
    (selects : session.selectedEnergyService = some selected) :
    session.service = some selected.service := by
  rw [Evcc.V20.Session.service, selects]
  rfl

theorem follows_iff {own : Evcc.V20.Own} {message : ResponseMessage} {session : Evcc.V20.Session}
    {turn : Evcc.V20.Turn} {previous request : Request}
    (digests : Digests own (.response message) session turn)
    (requests : turn.request = some request)
    (asked : previous.requestType = waitsFor own)
    (responds : responseTo message.response = previous.requestType)
    (remembers : Remembers own previous session)
    {service : Option ServiceV20}
    (same : Selected own ∨ own = .serviceSelection → service = session.service) :
    request.requestType ∈ nextRequests service previous message.response ↔
      straysAfter previous request = false := by
  cases digests with
  | answers res response row =>
      cases response
      generalize message.response = taken at row responds ⊢
      cases row
      case repeatAuthorization cached ongoing caches =>
        cases requests
        cases previous <;> cases asked
        rw [remembers.2 cached caches]
        simp [nextRequests, straysAfter, ongoing]
      case acChargeParameters selected req ac selects =>
        cases requests
        cases previous <;> cases asked
        simp only [nextRequests]
        rw [same (.inr rfl), service_of_selects selects, if_pos (charges_ac ac)]
        simp [straysAfter, Request.requestType]
      case dcChargeParameters selected req dc selects =>
        cases requests
        cases previous <;> cases asked
        simp only [nextRequests]
        rw [same (.inr rfl), service_of_selects selects, if_neg (charges_dc dc).1]
        simp [straysAfter, Request.requestType]
      case repeatScheduleExchange ongoing =>
        obtain ⟨cached, caches, rfl⟩ := Option.map_eq_some_iff.mp requests
        cases previous <;> cases asked
        simp only [nextRequests]
        rw [remembers.2.2 cached caches, if_neg (by simp [ongoing])]
        simp [straysAfter]
      case acSchedules profile req finished answered processing ac =>
        cases requests
        cases previous <;> cases asked
        simp only [nextRequests]
        split <;> simp [straysAfter, Request.requestType]
      case dcSchedules profile finished dc =>
        cases requests
        cases previous <;> cases asked
        have charges : service ∉ [some .ac, some .acBpt] := by
          rw [same (.inl trivial)]
          intro ac
          cases dc.symm.trans (remembers.2.1.mpr ac)
        simp only [nextRequests]
        rw [if_neg fun both => charges both.2]
        simp [straysAfter, Request.requestType]
      case repeatPowerDelivery res profile req answered processing processes exchanged =>
        cases requests
        obtain ⟨last, rfl, processed, _⟩ := remembers
        simp only [nextRequests]
        rw [if_pos (.inl (processed.mp processes))]
        simp [straysAfter, Request.requestType]
      case detectWelding selected chargingSession reason dc processed stops selects
        | stopSession selected chargingSession reason other processed stops selects =>
        cases requests
        obtain ⟨last, rfl, _, keeps | ⟨_, stop⟩⟩ := remembers
        · simp [Evcc.V20.Session.KeepsCharging, stops, reason] at keeps
        · simp only [nextRequests]
          rw [if_pos (.inr stop)]
          simp [straysAfter, Request.requestType]
      case acEnterChargeLoop selected req ac processed stays selects =>
        cases requests
        obtain ⟨last, rfl, processes, _⟩ := remembers
        simp only [nextRequests]
        rw [same (.inl trivial), service_of_selects selects, if_pos (charges_ac ac)]
        by_cases stop : last.chargeProgress = .stop <;>
          simp [straysAfter, Request.requestType, ← processes, processed, stop]
      case dcEnterChargeLoop selected req dc processed stays selects =>
        cases requests
        obtain ⟨last, rfl, processes, _⟩ := remembers
        simp only [nextRequests]
        rw [same (.inl trivial), service_of_selects selects, if_neg (charges_dc dc).1,
          if_pos (charges_dc dc).2]
        by_cases stop : last.chargeProgress = .stop <;>
          simp [straysAfter, Request.requestType, ← processes, processed, stop]
      case preCharged | preCharge =>
        cases requests
        cases previous <;> cases asked
        simp only [nextRequests]
        split <;> simp [straysAfter, Request.requestType, *]
      all_goals
        cases requests
        all_goals
          cases previous <;> cases asked
          simp [nextRequests, straysAfter, Request.requestType, *]
  | detectsWelding complete welding row =>
      rw [welding] at asked
      cases previous <;> cases asked
      cases res : message.response <;> simp only [res] at responds <;> cases responds
      cases row <;> cases requests <;> simp [nextRequests, straysAfter, Request.requestType]

/-! ## The agreement -/

variable {ρ σ : Type} [Evcc.V20.EVController ρ] [DiagnosticService σ] {environment : Environment}

/-- What both sides know of a request. -/
structure Asked (evcc : Evcc.V20.EVCCSession ρ) (secc : Secc.V20.SECCSession σ)
    (message : RequestMessage) : Prop where
  asking : Asking evcc message
  resting : secc.world.currentState.nextState = none
  service : Selected evcc.world.currentState.own →
    service secc.world.session = evcc.world.session.service
  accepts : secc.world.currentState.own.accepts message.request.requestType = true ↔
    strays evcc.sent = false

/-- What both sides know of a response. -/
structure Answered (evcc : Evcc.V20.EVCCSession ρ) (secc : Secc.V20.SECCSession σ)
    (message : ResponseMessage) : Prop where
  waits : ∃ previous, Asking evcc previous ∧
    responseTo message.response = previous.request.requestType ∧
    Secc.V20.Awaits previous.request message.response secc.world.session
      secc.world.currentState.own
  resting : secc.world.currentState.nextState = none
  service : Selected evcc.world.currentState.own ∨
      evcc.world.currentState.own = .serviceSelection →
    service secc.world.session = evcc.world.session.service

def agreement (ρ σ : Type) [Evcc.V20.EVController ρ] [DiagnosticService σ] :
    Sides.Agreement RequestMessage (Evcc.V20.World ρ) ResponseMessage (Secc.V20.World σ) where
  asked := Asked
  expected evcc message := Expects evcc.world.currentState.own message.response
  answered := Answered

theorem Begins.asked {start : Config ρ σ} (begins : Begins start) :
    (agreement ρ σ).coupling.Holds start := by
  obtain ⟨header, req, mail, sent⟩ := begins.mail
  unfold Coupling.Holds
  rw [mail]
  intro _ _
  refine ⟨begins.evcc.asking sent rfl, ?_, ?_, ?_⟩
  · rw [begins.secc.1]
  · rw [begins.evcc.currentState]
    exact False.elim
  · rw [begins.secc.1, sent]
    exact iff_of_true rfl rfl

/-- The SECC has selected the service that it has been asked for. -/
theorem service_of_awaits {req : ServiceSelectionReq} {response : Response}
    {session : Secc.V20.Session} {own : Secc.V20.Own}
    (awaits : Secc.V20.Awaits (.serviceSelectionReq req) response session own) :
    (service session).map ServiceV20.id = some req.selectedEnergyService.serviceId := by
  obtain ⟨_, _, row, _⟩ := awaits
  cases row with
  | acSelection _ _ _ selected selects requested _
  | dcSelection _ _ _ selected selects requested _ =>
      rw [service, selects]
      exact congrArg some requested

omit [Evcc.V20.EVController ρ] in
/-- The SECC answers a request. -/
theorem serves {evcc : Evcc.V20.EVCCSession ρ} {secc next : Secc.V20.SECCSession σ}
    {message : RequestMessage} {answers : Secc.V20.Answers} {response : ResponseMessage}
    (asked : Asked evcc secc message)
    (step : (Secc.V20.machine environment).Step secc (some ⟨.request message, answers⟩) next)
    (sent : next.sent = response :: secc.sent) :
    Expects evcc.world.currentState.own response.response ∧
      (next.ended = false → Answered evcc next response) := by
  have responds := Secc.V20.responseTo_of_sent step sent
  constructor
  · rw [expects_iff, responds, asked.asking.type]
  · intro goesOn
    obtain ⟨awaits, resting, kept⟩ := Secc.V20.awaits_of_step step sent goesOn asked.resting
    refine ⟨⟨message, asked.asking, responds, awaits⟩, resting, ?_⟩
    rintro (selected | selection)
    · have other : message.request.requestType ≠ .serviceSelectionReq := by
        rw [asked.asking.type]
        cases own : evcc.world.currentState.own <;> simp [own, Selected, waitsFor] at selected ⊢
      rw [← asked.service selected, service, service, kept other]
    · have remembers := asked.asking.remembers
      rw [selection] at remembers
      obtain ⟨_, req, request, selects⟩ := remembers
      rw [request] at awaits
      apply Option.map_injective fun _ _ => Secc.V20.id_injective
      rw [service_of_awaits awaits, selects]

omit [DiagnosticService σ] in
/-- The EVCC goes on with another request. -/
theorem asks {evcc next : Evcc.V20.EVCCSession ρ} {secc : Secc.V20.SECCSession σ}
    {message : ResponseMessage} {answers : Evcc.V20.Answers} {request : RequestMessage}
    (answered : Answered evcc secc message)
    (step : (Evcc.V20.machine ρ).Step evcc (some ⟨.response message, answers⟩) next)
    (sent : next.sent = request :: evcc.sent) (goesOn : next.ended = false) :
    Asked next secc request := by
  obtain ⟨previous, asking, responds, awaits⟩ := answered.waits
  obtain ⟨received, turn, made, same, digests, requests, waiting, session, sends, asks⟩ :=
    asking.step step goesOn
  cases same
  cases sent.symm.trans sends
  refine ⟨asks, answered.resting, ?_, ?_⟩
  · intro selected
    obtain ⟨before, kept⟩ := service_of_digests digests waiting selected
    rw [session, kept]
    exact answered.service before
  · obtain ⟨older, asked⟩ := asking.sent
    rw [sends, asked, strays, accepts_iff_of_awaits awaits]
    exact follows_iff digests requests asking.type responds asking.remembers answered.service

theorem kept : (agreement ρ σ).Kept (sides ρ σ environment) where
  serves _ _ _ _ _ _ _ asked step sent := serves asked step sent
  asks _ _ _ _ _ _ _ answered step sent goesOn := asks answered step sent goesOn

/-- The SECC has been asked for an energy service. -/
def ServiceSelected (config : Config ρ σ) : Prop :=
  Selected config.client.world.currentState.own ∧ config.mail ≠ .none ∨
    config.client.world.currentState.own = .serviceSelection ∧
      ∃ message, config.mail = .response message

/-- As long as both sides go on, they agree on the energy service once it is selected, and the SECC
accepts exactly the types of requests that do not stray. Every response is one that the EVCC is
there for. -/
theorem follows_in_v20_conversation {start reached : Config ρ σ} {history : List Party}
    (begins : Begins start) (run : Run (sides ρ σ environment).Step start history reached)
    (goesOn : reached.client.ended = false) :
    (ServiceSelected reached → reached.server.ended = false →
      service reached.server.world.session = reached.client.world.session.service) ∧
    (∀ message, reached.mail = .request message → reached.server.ended = false →
      (reached.server.world.currentState.own.accepts message.request.requestType = true ↔
        strays reached.client.sent = false)) ∧
    ∀ message, reached.mail = .response message →
      Expects reached.client.world.currentState.own message.response := by
  have holds := kept.run begins.asked run
  unfold Coupling.Holds at holds
  refine ⟨?_, ?_, ?_⟩
  · intro selected seccGoesOn
    cases mail : reached.mail with
    | none =>
        rcases selected with ⟨_, sent⟩ | ⟨_, message, made⟩
        · exact absurd mail sent
        · cases mail.symm.trans made
    | request message =>
        rw [mail] at holds
        rcases selected with ⟨selected, _⟩ | ⟨_, message, made⟩
        · exact (holds goesOn seccGoesOn).service selected
        · cases mail.symm.trans made
    | response message =>
        rw [mail] at holds
        exact ((holds goesOn).2 seccGoesOn).service
          (selected.imp And.left And.left)
  · intro message mail seccGoesOn
    rw [mail] at holds
    exact (holds goesOn seccGoesOn).accepts
  · intro message mail
    rw [mail] at holds
    exact (holds goesOn).1

namespace Sample

open Iso15118.Evcc.V20.Sample (SteadyController)

/-- A vehicle that wants to stop as soon as it knows the schedules. -/
def Vehicle : Type :=
  SteadyController

instance : Evcc.V20.EVController Vehicle :=
  { (inferInstance : Evcc.V20.EVController SteadyController) with
    processScheduledSeParams := fun _ _ => pure (some Evcc.V20.Sample.powerProfile, .stop) }

/-- The controller of an AC charger that is ready for every request. -/
def answers : Secc.V20.Answers :=
  { Secc.V20.Sample.answers with
    getEnergyServiceList := .ok ⟨[⟨ServiceV20.ac.id, true⟩]⟩
    getAcChargeParamsV20 := .ok (some .charge)
    getServiceParameterList := fun _ => .ok (some ⟨[⟨1, [⟨"ControlMode", .intValue 1⟩]⟩]⟩)
    getScheduleExchangeParams :=
      .ok (some (.scheduled ⟨[⟨1, [⟨3600, Evcc.V20.Sample.zeroRational⟩]⟩]⟩)) }

/-- There is no Plug and Charge. -/
def eimEnvironment : Environment :=
  { Secc.V20.Sample.environment with
    config := { Secc.V20.Sample.environment.config with supportedAuthOptions := [.eim] } }

def request : RequestMessage :=
  ⟨{ sessionId := "00" }, .sessionSetupReq ⟨"ev"⟩⟩

def start : Config Vehicle BatteryHealthService where
  client := { Evcc.V20.Sample.start (SteadyController.mk .ac) with sent := [request] }
  server := Secc.V20.Sample.start
  mail := .request request

theorem begins_start : Begins start :=
  ⟨⟨rfl, ⟨1024, "", rfl⟩, rfl⟩, Secc.V20.Sample.new_start, _, _, rfl, rfl⟩

/-- The request after so many messages strays. -/
theorem refuses_start :
    ((sides Vehicle BatteryHealthService eimEnvironment).receiveAll { now := 0 } answers start
      18).any (Sides.refusesNext strays) = true := by
  decide +kernel

end Sample

/-- A vehicle that wants to stop before charging enters the charge loop all the same. -/
theorem follows_in_v20_conversation_sample :
    ∃ reached history message,
      Run (sides Sample.Vehicle BatteryHealthService Sample.eimEnvironment).Step Sample.start
        history reached ∧
      reached.mail = .request message ∧ reached.server.ended = false ∧
      ¬reached.server.world.currentState.own.accepts message.request.requestType = true := by
  obtain ⟨reached, history, message, run, mail, evccGoesOn, seccGoesOn, strays⟩ :=
    Sides.exists_strays Sample.refuses_start
  have follows := (follows_in_v20_conversation Sample.begins_start run evccGoesOn).2.1 message mail
    seccGoesOn
  refine ⟨reached, history, message, run, mail, seccGoesOn, ?_⟩
  rw [follows, strays]
  simp

end Iso15118.Conversation.V20
