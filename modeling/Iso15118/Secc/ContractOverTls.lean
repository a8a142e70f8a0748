import Iso15118.Secc.CommSessionHandler

/-!
# Plug and Charge over TLS

A connection that is not secured is offered Plug and Charge only where its EV session
context brings it along: the stored payment option, of an earlier session or of one that
still runs, is offered without a look at the connection.
-/

namespace Iso15118.Secc

open Effect Transition
open Iso15118.Shared

namespace V2

open Iso15118.Shared.V2

/-! ## One connection -/

/-- Where a payment option of the session is a contract, the connection is secured. -/
structure Secured (session : Session) : Prop where
  offered : .pnc ∈ session.offeredAuthOptions → session.isTls = true
  selected : session.selectedAuthOption = some .pnc → session.isTls = true

theorem Secured.stopped {session : Session} (secured : Secured session) :
    Secured session.stopped :=
  ⟨secured.offered, secured.selected⟩

theorem isTls_of_kept {type : RequestType} {before after : Session}
    (same : kept type after = kept type before) : after.isTls = before.isTls := by
  have isTls := congrArg Session.isTls same
  cases type <;> exact isTls

/-- Only a `ServiceDiscoveryReq` offers payment options. -/
theorem offeredAuthOptions_of_kept {type : RequestType} {before after : Session}
    (other : type ≠ .serviceDiscoveryReq) (same : kept type after = kept type before) :
    after.offeredAuthOptions = before.offeredAuthOptions := by
  have offered := congrArg Session.offeredAuthOptions same
  cases type
  case serviceDiscoveryReq => exact absurd rfl other
  all_goals exact offered

/-- The session answers a `ServiceDiscoveryReq` with payment options. -/
structure Discovers (session : SECCSession) (header : MessageHeader) : Prop where
  expecting : session.world.currentState.own = .serviceDiscovery true
  known : header.sessionId = session.world.session.sessionId

/-- The payment options in a context do not have a contract, unless the connection is secured. -/
def StoredOverTls (session : Session) (context : Option EVSessionContext) : Prop :=
  ∀ stored, context = some stored → .pnc ∈ stored.authOptions → session.isTls = true

theorem isTls_of_allowed {config : Config} {isTls : Bool}
    (contract : .pnc ∈ allowedAuthOptions config isTls) : isTls = true := by
  unfold allowedAuthOptions at contract
  rcases List.mem_append.mp contract with first | second
  · split at first
    · cases List.mem_singleton.mp first
    · cases first
  · split at second
    next allowed => exact allowed.2
    next => cases second

/-- What a secured session offers. -/
theorem Secured.offers {environment : Environment} {session : Session}
    {context : EVSessionContext} {authOptions : List AuthEnum} (secured : Secured session)
    (stored : .pnc ∈ context.authOptions → session.isTls = true)
    (offers : OffersFrom environment session context authOptions)
    (contract : .pnc ∈ authOptions) : session.isTls = true := by
  rcases offers with rfl | ⟨option, selects, rfl⟩ | rfl | rfl
  · exact stored contract
  · rw [← List.mem_singleton.mp contract] at selects
    exact secured.selected selects
  · cases List.mem_singleton.mp contract
  · exact isTls_of_allowed contract

section

variable {environment : Environment} {answers : Answers} {message : RequestMessage}
  {world next : World} {own : Own}

theorem secured_of_answer (secured : Secured world.session)
    (stored : message.request.requestType = .serviceDiscoveryReq →
      own.expectsServiceDiscovery = true →
        StoredOverTls world.session world.session.evSessionContext)
    (answered : answer environment answers message own world = .ok ⟨⟩ next) :
    Secured next.session := by
  have kept : kept message.request.requestType next.session =
      kept message.request.requestType world.session :=
    ((answer_effects environment answers message own).of_reaches (.inl ⟨_, answered⟩)).session
  have isTls := isTls_of_kept kept
  rcases message with ⟨header, request⟩
  unfold answer at answered
  cases request
  case sessionSetupReq req =>
    have outcome := (post_of_eq_ok (SessionSetup.onSessionSetupReq_outcome answers header req
      world) answered).2
    obtain ⟨_, _, _, _, _, _, setUp, _⟩ := outcome.setUp
    rw [setUp]
    exact ⟨secured.offered, secured.selected⟩
  case serviceDiscoveryReq req =>
    rcases post_of_eq_ok (ServiceDiscovery.onServiceDiscoveryReq_outcome environment answers
        ⟨header, _⟩ req own.expectsServiceDiscovery world) answered with
      refused | ⟨expecting, outcome⟩
    · rw [refused.session]
      exact secured.stopped
    · obtain ⟨context, res, found, offers, session, _⟩ := outcome.offers
      rw [session]
      constructor
      · exact secured.offers (stored rfl expecting context found) offers
      · exact secured.selected
  case paymentServiceSelectionReq req =>
    rcases post_of_eq_ok (PaymentServiceSelection.onPaymentServiceSelectionReq_outcome
        ⟨header, _⟩ req world) answered with refused | outcome
    · rw [refused.session]
      exact secured.stopped
    · obtain ⟨context, _, session⟩ := outcome.stored
      rw [session]
      constructor
      · exact secured.offered
      · intro contract
        have offered := outcome.offered
        rw [Option.some.inj contract] at offered
        exact secured.offered offered
  all_goals
    have selected := selectedAuthOption_of_kept (by nofun) kept
    have offered := offeredAuthOptions_of_kept (by nofun) kept
    constructor
    · rw [offered, isTls]
      exact secured.offered
    · rw [selected, isTls]
      exact secured.selected

end

section

variable {environment : Environment} {session next : SECCSession} {input : Option Received}

/-- Only an object that expects it answers a `ServiceDiscoveryReq` with payment options. -/
theorem discovers_of_answering {header : MessageHeader} {req : ServiceDiscoveryReq}
    (accepted : session.world.currentState.own.accepts .serviceDiscoveryReq = true)
    (known : Known ⟨header, .serviceDiscoveryReq req⟩ session.world.session)
    (expecting : Own.expectsServiceDiscovery
      (answering session.world.currentState .serviceDiscoveryReq).own = true) :
    Discovers session header := by
  refine ⟨?_, known.resolve_left (by nofun)⟩
  have expected := mem_expectedMsgTypes accepted
  cases own : session.world.currentState.own
  case serviceDiscovery waits =>
    have same : stateTable.name session.world.currentState.own =
        stateTable.answeredBy .serviceDiscoveryReq := by
      rw [own]
      rfl
    unfold answering StateTable.answering at expecting
    rw [if_pos same, own] at expecting
    exact congrArg Own.serviceDiscovery expecting
  all_goals
    rw [own] at expected
    simp [Own.name, StateName.expectedMsgTypes] at expected

/-- What an input finds in the context is known to be stored over a secured connection. -/
def FindsOverTls (session : SECCSession) (input : Option Received) : Prop :=
  ∀ header req answers,
    input = some ⟨.request ⟨header, .serviceDiscoveryReq req⟩, answers⟩ →
    Discovers session header →
    StoredOverTls session.world.session session.world.session.evSessionContext

theorem secured_of_step (secured : Secured session.world.session)
    (finds : FindsOverTls session input)
    (step : (machine environment).Step session input next) (goesOn : next.ended = false) :
    Secured next.world.session := by
  obtain ⟨⟨header, request⟩, answers, reached, response, rfl, answered⟩ :=
    SeccProtocol.step_answered step goesOn
  rw [answered.session_eq]
  have entered : Secured ((protocol environment).entered session.world ⟨header, request⟩).session :=
    secured
  refine secured_of_answer entered ?_ answered.answer
  intro discovers expecting
  cases request <;> cases discovers
  next req =>
    exact finds header req answers rfl
      (discovers_of_answering answered.accepted answered.known expecting)

/-- The iteration offers Plug and Charge. -/
def OffersContract (session : SECCSession) (input : Option Received) (next : SECCSession) :
    Prop :=
  ∃ header req answers message res,
    input = some ⟨.request ⟨header, .serviceDiscoveryReq req⟩, answers⟩ ∧
      next.sent = message :: session.sent ∧ message.response = .serviceDiscoveryRes res ∧
      .pnc ∈ res.authOptionList

/-- The iteration accepts a selection of Plug and Charge. -/
def AcceptsContract (session : SECCSession) (input : Option Received) (next : SECCSession) :
    Prop :=
  ∃ header req answers message,
    input = some ⟨.request ⟨header, .paymentServiceSelectionReq req⟩, answers⟩ ∧
      req.selectedAuthOption = .pnc ∧ next.sent = message :: session.sent ∧
      message.responseCode = .ok

/-- What an iteration sends comes from a refusal or an answer. -/
theorem refused_or_answered_of_sent {message : RequestMessage} {answers : Answers}
    {response : ResponseMessage}
    (step : (machine environment).Step session (some ⟨.request message, answers⟩) next)
    (sent : next.sent = response :: session.sent) :
    ∃ reached, reached.currentState.nextV2gtpMsg = some response ∧
      (Refused message.request.requestType session.world.session reached ∨
        session.world.currentState.own.accepts message.request.requestType = true ∧
          Known message session.world.session ∧
          answer environment answers message
            (answering session.world.currentState message.request.requestType).own
            ((protocol environment).entered session.world message) = .ok ⟨⟩ reached) := by
  rcases step.sent_eq_or with none | ⟨received, reached, prepared, same, processed, made, sends⟩
  · exact absurd (none.symm.trans sent).symm (List.cons_ne_self _ _)
  · cases same
    cases (List.cons.inj (sends.symm.trans sent)).1
    refine ⟨reached, made, ?_⟩
    rcases refused_or_answered processed with refused | ⟨accepted, known, answered⟩
    · exact .inl refused
    · exact .inr ⟨accepted, known, answered⟩

theorem isTls_of_offersContract (secured : Secured session.world.session)
    (finds : FindsOverTls session input) (step : (machine environment).Step session input next)
    (offers : OffersContract session input next) : session.world.session.isTls = true := by
  obtain ⟨header, req, answers, message, res, rfl, sent, responds, contract⟩ := offers
  obtain ⟨reached, prepared, refused | ⟨accepted, known, answered⟩⟩ :=
    refused_or_answered_of_sent step sent
  · have failed := (refused.response message prepared).2
    rw [responds] at failed
    cases failed
    cases List.mem_singleton.mp contract
  · rcases post_of_eq_ok (ServiceDiscovery.onServiceDiscoveryReq_outcome environment answers
        ⟨header, _⟩ req _ _) answered with refused | ⟨expecting, outcome⟩
    · have failed := (refused.response message prepared).2
      rw [responds] at failed
      cases failed
      cases List.mem_singleton.mp contract
    · obtain ⟨context, offered, stored, offers, _, made⟩ := outcome.offers
      have same := (made message prepared).symm.trans responds
      cases same
      have discovers := discovers_of_answering accepted known expecting
      exact secured.offers (finds header req answers rfl discovers context stored) offers contract

theorem isTls_of_acceptsContract (secured : Secured session.world.session)
    (step : (machine environment).Step session input next)
    (accepts : AcceptsContract session input next) : session.world.session.isTls = true := by
  obtain ⟨header, req, answers, message, rfl, contract, sent, isOk⟩ := accepts
  obtain ⟨reached, prepared, refused | ⟨_, _, answered⟩⟩ :=
    refused_or_answered_of_sent step sent
  · exact absurd isOk (refused.response message prepared).1
  · rcases post_of_eq_ok (PaymentServiceSelection.onPaymentServiceSelectionReq_outcome
        ⟨header, _⟩ req _) answered with refused | outcome
    · exact absurd isOk (refused.response message prepared).1
    · have offered := outcome.offered
      rw [contract] at offered
      exact secured.offered offered

end

end V2

/-! ## All connections -/

section

variable {σ : Type} [DiagnosticService σ] {station : Station}

/-- No `ServiceDiscoveryReq` over a connection that is not secured finds a contract among the
payment options that are stored. -/
def DiscoversOverTls (before : PeerState σ) (event : Event) (_after : PeerState σ) : Prop :=
  ∀ number connection session header req answers address,
    event = .received number
      (.v2 (some ⟨.request ⟨header, .serviceDiscoveryReq req⟩, answers⟩)) →
    before.connections[number]? = some connection → connection.session = .v2 session →
    V2.Discovers session header → connection.context = some address →
    .pnc ∈ (before.contexts.read address).authOptions → session.world.session.isTls = true

/-- The step offers and accepts Plug and Charge over a secured connection only. -/
def ContractOverTls (before : PeerState σ) (event : Event) (after : PeerState σ) : Prop :=
  ∀ number input connection connection' session next,
    event = .received number (.v2 input) →
    before.connections[number]? = some connection → connection.session = .v2 session →
    after.connections[number]? = some connection' → connection'.session = .v2 next →
    V2.OffersContract session input next ∨ V2.AcceptsContract session input next →
    session.world.session.isTls = true

/-- The sessions whose loops run are secured. -/
def PeerState.Secured (peer : PeerState σ) : Prop :=
  ∀ connection ∈ peer.connections, ∀ session, connection.session = .v2 session →
    connection.stage = .running → session.ended = false ∧ V2.Secured session.world.session

omit [DiagnosticService σ] in
/-- What the loop of a session that runs finds when a message arrives. -/
theorem found_of_secured {before after : PeerState σ} {number : Nat} {connection : PeerConnection σ}
    {session found : V2.SECCSession} {input : Option V2.Received}
    {evDataContext : EVDataContext} {evseDataContext : EVSEDataContext}
    (secured : before.Secured)
    (discovers : DiscoversOverTls before (.received number (.v2 input)) after)
    (created : before.connections[number]? = some connection)
    (isV2 : connection.session = .v2 session) (running : connection.stage = .running)
    (finds : found = (session.withContext
      (connection.context.map before.contexts.read)).withController evDataContext
        evseDataContext ⟨⟩) :
    found.ended = false ∧ V2.Secured found.world.session ∧ V2.FindsOverTls found input := by
  obtain ⟨goesOn, isSecured⟩ :=
    secured connection (List.mem_of_getElem? created) session isV2 running
  subst finds
  refine ⟨goesOn, ⟨isSecured.offered, isSecured.selected⟩, ?_⟩
  rintro header req answers rfl ⟨expecting, known⟩ stored found contract
  obtain ⟨address, refers, rfl⟩ := Option.map_eq_some_iff.mp found
  exact discovers number connection session header req answers address rfl created isV2
    ⟨expecting, known⟩ refers contract

theorem secured_of_peerStep {before after : PeerState σ} {event : Event}
    (secured : before.Secured) (step : PeerStep station before event after)
    (discovers : DiscoversOverTls before event after) : after.Secured := by
  cases step with
  | connect isTls resumable =>
      intro connection listed session isV2 running
      rcases List.mem_append.mp listed with earlier | new
      · exact secured connection earlier session isV2 running
      · cases List.mem_singleton.mp new
        cases isV2
  | @stop number stopping stopAction created stops =>
      intro connection listed session isV2 running
      rcases List.mem_or_eq_of_mem_set listed with other | rfl
      · exact secured connection other session isV2 running
      · cases running
  | @receive number receiving input iteration created runs step =>
      intro connection listed session isV2 running
      rcases List.mem_or_eq_of_mem_set listed with other | rfl
      · exact secured connection other session isV2 running
      · obtain ⟨own, context, stage⟩ := receiving
        cases step with
        | agreeV2 agrees new isTls =>
            cases isV2
            refine ⟨new.2.2.2, ?_⟩
            rw [new.2.1]
            constructor
            · intro contract
              cases contract
            · intro contract
              cases contract
        | @receiveV2 session' found input evDataContext evseDataContext finds random =>
            cases isV2
            obtain ⟨goesOn, isSecured, overTls⟩ :=
              found_of_secured secured discovers created rfl runs finds
            have goesOn' := stage_running running
            exact ⟨goesOn', V2.secured_of_step isSecured overTls ⟨goesOn, rfl⟩ goesOn'⟩
        | _ => cases isV2

theorem contractOverTls_of_peerStep {before after : PeerState σ} {event : Event}
    (secured : before.Secured) (step : PeerStep station before event after)
    (discovers : DiscoversOverTls before event after) : ContractOverTls before event after := by
  rintro number input connection connection' session next rfl created isV2 created' isV2' contract
  cases step with
  | @receive _ receiving _ iteration receives runs step =>
      cases created.symm.trans receives
      obtain ⟨bound, _⟩ := List.getElem?_eq_some_iff.mp created
      rw [PeerState.getElem?_after bound] at created'
      cases created'
      obtain ⟨own, context, stage⟩ := connection
      cases isV2
      cases step with
      | @receiveV2 _ found _ evDataContext evseDataContext finds random =>
          cases isV2'
          obtain ⟨goesOn, isSecured, overTls⟩ :=
            found_of_secured secured discovers created rfl runs finds
          have sameTls : found.world.session.isTls = session.world.session.isTls := by
            rw [finds]
            rfl
          have sameSent : found.sent = session.sent := by
            rw [finds]
            rfl
          rw [← sameTls]
          unfold V2.OffersContract V2.AcceptsContract at contract
          rw [← sameSent] at contract
          rcases contract with offers | accepts
          · exact V2.isTls_of_offersContract isSecured overTls ⟨goesOn, rfl⟩ offers
          · exact V2.isTls_of_acceptsContract isSecured ⟨goesOn, rfl⟩ accepts

/-- Plug and Charge is offered and accepted over secured connections only, as long as no
`ServiceDiscoveryReq` over another one finds a contract stored. -/
theorem contract_over_tls {history : List Event} {peer : PeerState σ}
    (run : Run (Restrict (PeerStep station) DiscoversOverTls) {} history peer) :
    Run (Restrict (PeerStep station) ContractOverTls) {} history peer := by
  have secured : ∀ {past : List Event} {state : PeerState σ},
      Run (Restrict (PeerStep station) DiscoversOverTls) {} past state → state.Secured := by
    intro past state run
    have initial : ({} : PeerState σ).Secured := by
      intro connection listed
      cases listed
    exact run.invariant initial fun _ _ _ secured step =>
      secured_of_peerStep secured step.1 step.2
  induction run with
  | start => exact .start
  | step earlier last ih =>
      exact .step ih ⟨last.1, contractOverTls_of_peerStep (secured earlier) last.1 last.2⟩

end

namespace Sample

def discoveryReq : Option V2.Received := V2.Sample.request (.serviceDiscoveryReq ⟨none⟩)

/-- The EV resumes its session and asks for the services. -/
def resumedEvents (isTls : Bool) : List Event :=
  .received 1 (.v2 resumeReq) :: reconnectedEvents isTls

/-- The EV connects a second time, without TLS, while its session is charging. -/
def overlappingEvents : List Event :=
  [.received 1 (.v2 discoveryReq), .received 1 (.v2 resumeReq),
      .received 1 (.supportedAppProtocolReq sapReqV2), .tcpClientNotification false true] ++
    V2.Sample.chargingStatusHistory.map (fun input => .received 0 (.v2 input)) ++
    [.received 0 (.supportedAppProtocolReq sapReqV2), .tcpClientNotification true true]

/-- The session of a connection. -/
def v2Session (peer : PeerState BatteryHealthService) (number : Nat) : Option V2.SECCSession :=
  match peer.connections[number]? with
  | some ⟨.v2 session, _, _⟩ => some session
  | _ => none

theorem created_of_v2Session {peer : PeerState BatteryHealthService} {number : Nat}
    {session : V2.SECCSession} (found : v2Session peer number = some session) :
    ∃ connection, peer.connections[number]? = some connection ∧
      connection.session = .v2 session := by
  unfold v2Session at found
  split at found
  next created =>
    cases found
    exact ⟨_, created, rfl⟩
  next => cases found

/-- The connection is secured, or has no contract in its context. -/
def securedOrEmpty (peer : PeerState BatteryHealthService) : Event → Bool
  | .received number _ =>
      match peer.connections[number]? with
      | some ⟨.v2 session, some address, _⟩ =>
          session.world.session.isTls || .pnc ∉ (peer.contexts.read address).authOptions
      | _ => true
  | _ => true

theorem discoversOverTls_of_securedOrEmpty {before after : PeerState BatteryHealthService}
    {event : Event} (passes : securedOrEmpty before event = true) :
    DiscoversOverTls before event after := by
  rintro number ⟨own, context, stage⟩ session header req answers address rfl created isV2 _ refers
    contract
  cases isV2
  cases refers
  unfold securedOrEmpty at passes
  simp only [created, Bool.or_eq_true, decide_eq_true_eq] at passes
  rcases passes with isTls | empty
  · exact isTls
  · exact absurd contract empty

/-- All events of a history pass. -/
def allPass : List Event → Bool
  | [] => true
  | event :: past => allPass past && (advanceAll past).any (securedOrEmpty · event)

theorem run_of_allPass {history : List Event} {peer : PeerState BatteryHealthService}
    (reached : advanceAll history = some peer) (pass : allPass history = true) :
    Run (Restrict (PeerStep station) DiscoversOverTls) {} history peer := by
  induction history generalizing peer with
  | nil =>
      cases reached
      exact .start
  | cons event past ih =>
      obtain ⟨before, reachedBefore, advances⟩ := Option.bind_eq_some_iff.mp reached
      obtain ⟨passed, last⟩ := Bool.and_eq_true_iff.mp pass
      rw [reachedBefore] at last
      exact .step (ih reachedBefore passed)
        ⟨peerStep_of_advance advances, discoversOverTls_of_securedOrEmpty last⟩

end Sample

open Sample in
/-- A contract is offered over a secured connection, also when the session is resumed. -/
theorem sample_contract_over_tls :
    ∃ peer : PeerState BatteryHealthService,
      Run (Restrict (PeerStep station) ContractOverTls) {}
        (.received 1 (.v2 discoveryReq) :: resumedEvents true) peer := by
  have possible : (advanceAll (.received 1 (.v2 discoveryReq) :: resumedEvents true)).isSome := by
    decide +kernel
  obtain ⟨peer, reached⟩ := Option.isSome_iff_exists.mp possible
  exact ⟨peer, contract_over_tls (run_of_allPass reached (by decide +kernel))⟩

open Sample in
/-- A session with a contract that is resumed over another connection is offered the
contract again. -/
theorem contract_offered_without_tls :
    ∃ before after : PeerState BatteryHealthService,
      Run (PeerStep station) {} (resumedEvents false) before ∧
        PeerStep station before (.received 1 (.v2 discoveryReq)) after ∧
        ¬ContractOverTls before (.received 1 (.v2 discoveryReq)) after := by
  have possible : (advanceAll (.received 1 (.v2 discoveryReq) :: resumedEvents false)).isSome := by
    decide +kernel
  obtain ⟨after, reached⟩ := Option.isSome_iff_exists.mp possible
  obtain ⟨before, reachedBefore, advances⟩ := Option.bind_eq_some_iff.mp reached
  obtain ⟨session, found⟩ := Option.isSome_iff_exists.mp
    (by decide +kernel : ((advanceAll (resumedEvents false)).bind (v2Session · 1)).isSome = true)
  have offers : ((advanceAll (.received 1 (.v2 discoveryReq) :: resumedEvents false)).bind
        (v2Session · 1)).map (fun next => (next.sent, false)) =
      ((advanceAll (resumedEvents false)).bind (v2Session · 1)).map fun session =>
        (⟨{ sessionId := "10" }, .ok, .serviceDiscoveryRes
          ⟨[.pnc], ⟨false, [.acSinglePhaseCore, .dcExtended]⟩, none⟩⟩ :: session.sent,
        session.world.session.isTls) := by
    decide +kernel
  rw [found, reached] at offers
  rw [reachedBefore] at found
  obtain ⟨next, foundNext, same⟩ := Option.map_eq_some_iff.mp offers
  obtain ⟨connection, created, isV2⟩ := created_of_v2Session found
  obtain ⟨connection', created', isV2'⟩ := created_of_v2Session foundNext
  refine ⟨before, after, run_of_advanceAll reachedBefore, peerStep_of_advance advances, ?_⟩
  intro overTls
  have isTls := overTls 1 discoveryReq connection connection' session next rfl created isV2 created'
    isV2' (.inl ⟨_, _, _, _, _, rfl, congrArg Prod.fst same, rfl, List.mem_singleton_self _⟩)
  have notTls : false = session.world.session.isTls := congrArg Prod.snd same
  cases notTls.trans isTls

open Sample in
example : ((advanceAll overlappingEvents).bind (v2Session · 1)).map
      (fun session => (session.world.session.isTls, session.sent.head?)) =
    some (false, some ⟨{ sessionId := "10" }, .ok, .serviceDiscoveryRes
      ⟨[.pnc], ⟨false, [.acSinglePhaseCore, .dcExtended]⟩, none⟩⟩) := by
  decide +kernel

end Iso15118.Secc
