import Iso15118.Secc.Din.Responding
import Iso15118.Secc.SharedContexts
import Iso15118.Secc.V20.Responding

/-!
# Resuming a paused session

What a preserved session leaves to the next connection of its EV is the EV session
context. ISO 15118-2 keeps the id of the session there and looks for it there; no other
connection that refers to the same context changes the id. The other protocols look for
the id in the session object, which is a new one for every connection, so they never
find it.
-/

namespace Iso15118.Secc

open Effect Transition
open Iso15118.Shared

/-! ## The answer to a `SessionSetupReq` -/

/-- The session has answered its `SessionSetupReq` and goes on under the id. -/
def SECCCommunicationSession.SetUp {σ : Type} (joined : Bool) (sessionId : String) :
    SECCCommunicationSession σ → Prop
  | .negotiating _ => False
  | .din session => session.world.session.sessionId = sessionId ∧
      ∃ evseId, session.sent = [⟨{ sessionId := sessionId },
        if joined then .okOldSessionJoined else .okNewSessionEstablished,
        .sessionSetupRes evseId⟩]
  | .v2 session => session.world.session.sessionId = sessionId ∧
      ∃ evseId, session.sent = [⟨{ sessionId := sessionId },
        if joined then .okOldSessionJoined else .okNewSessionEstablished,
        .sessionSetupRes evseId⟩]
  | .v20 session => session.world.session.sessionId = sessionId ∧
      ∃ evseId, session.sent = [⟨{ sessionId := sessionId },
        if joined then .okOldSessionJoined else .okNewSessionEstablished,
        .sessionSetupRes evseId⟩]

namespace Din

open Iso15118.Shared.Din

/-- A `SessionSetupReq` with another id than that of the object gets a new one. -/
theorem SessionSetup.onSessionSetupReq_outcome (answers : Answers) (header : MessageHeader)
    (req : SessionSetupReq) {world : World}
    (other : SessionSetup.joins world.session header.sessionId = false) :
    wp (onSessionSetupReq answers header req)
      (fun _ next => next.currentState.nextState = some (.state .serviceDiscovery) ∧
        next.session.sessionId = answers.randomSessionId ∧
        ∃ evseId, next.currentState.nextV2gtpMsg =
          some ⟨{ sessionId := answers.randomSessionId }, .okNewSessionEstablished,
            .sessionSetupRes evseId⟩)
      (fun _ _ => True) world := by
  unfold onSessionSetupReq
  simp only [wp_bind, wp_get, wp_ask, wp_ofExcept, wp_updateSession, wp_onEvData, wp_modify,
    wp_createNextMessage, other, implies_true, and_true]
  intro evseId _ _ _ _
  exact ⟨rfl, rfl, evseId, rfl⟩

/-- A new object has no id, so no `SessionSetupReq` joins its session. -/
theorem joins_of_new {session : SECCSession} (new : New session) {sessionId : String}
    (valid : ValidSessionId sessionId) :
    SessionSetup.joins session.world.session sessionId = false := by
  have named : sessionId ≠ "" := by
    rintro rfl
    exact absurd valid (by decide)
  rw [new.2.1]
  simp [SessionSetup.joins, named]

theorem rcv_sessionSetupReq {config : Config} {session : SECCSession} {header : MessageHeader}
    {req : SessionSetupReq} {answers : Answers} (new : New session)
    (valid : ValidSessionId header.sessionId)
    (answerable : SessionSetup.Answerable answers header session.world.session)
    (announced : answers.setPresentProtocolState = .ok ⟨⟩) :
    ∃ next, (machine config).rcv session
        (some ⟨.request ⟨header, .sessionSetupReq req⟩, answers⟩) = next ∧
      next.ended = false ∧ next.world.session.sessionId = answers.randomSessionId ∧
      ∃ evseId, next.sent = [⟨{ sessionId := answers.randomSessionId },
        .okNewSessionEstablished, .sessionSetupRes evseId⟩] := by
  have accepted : stateTable.accepts session.world.currentState.own .sessionSetupReq = true := by
    rw [new.1]
    rfl
  have other := joins_of_new new valid
  obtain ⟨reached, response, ⟨sessionId, evseId, responds⟩, prepared, goesOn⟩ :=
    SeccProtocol.exists_rcv_of_responds (protocol config) ⟨header, .sessionSetupReq req⟩
      accepted (.inl rfl)
      (responds_sessionSetup.mpr answerable)
      (SessionSetup.onSessionSetupReq_outcome answers header req other) announced
  cases responds.symm.trans prepared
  refine ⟨_, goesOn, rfl, sessionId, evseId, ?_⟩
  rw [new.2.2.1]

end Din

namespace V2

open Iso15118.Shared.V2

/-- A `SessionSetupReq` joins the session that the context names. -/
theorem rcv_sessionSetupReq {environment : Environment} {session : SECCSession}
    {header : MessageHeader} {req : SessionSetupReq} {answers : Answers} (new : New session)
    (answerable : SessionSetup.Answerable answers header session.world.session)
    (announced : answers.setPresentProtocolState = .ok ⟨⟩) :
    ∃ next joined sessionId, (machine environment).rcv session
        (some ⟨.request ⟨header, .sessionSetupReq req⟩, answers⟩) = next ∧
      SessionSetup.joins session.world.session.evSessionContext header.sessionId = .ok joined ∧
      sessionId = (if joined then header.sessionId else answers.randomSessionId) ∧
      next.ended = false ∧ next.world.session.sessionId = sessionId ∧
      ∃ evseId, next.sent = [⟨{ sessionId := sessionId },
        if joined then .okOldSessionJoined else .okNewSessionEstablished,
        .sessionSetupRes evseId⟩] := by
  have accepted : stateTable.accepts session.world.currentState.own .sessionSetupReq = true := by
    rw [new.1]
    rfl
  obtain ⟨reached, response, outcome, prepared, goesOn⟩ :=
    SeccProtocol.exists_rcv_of_responds (protocol environment) ⟨header, .sessionSetupReq req⟩
      accepted (.inl rfl) (responds_sessionSetup.mpr answerable)
      (SessionSetup.onSessionSetupReq_outcome answers header req _) announced
  obtain ⟨joined, sessionId, evseId, joins, names, _, setUp, responds⟩ := outcome.setUp
  cases responds.symm.trans prepared
  refine ⟨_, joined, sessionId, goesOn, joins, names, rfl, ?_, evseId, ?_⟩
  · change reached.session.sessionId = sessionId
    rw [setUp]
  · rw [new.2.2.1]

end V2

namespace V20

open Iso15118.Shared.V20

variable {σ : Type} [DiagnosticService σ]

omit [DiagnosticService σ] in
/-- A `SessionSetupReq` with another id than that of the object gets a new one. -/
theorem SessionSetup.onSessionSetupReq_outcome (answers : Answers) (header : MessageHeader)
    (req : SessionSetupReq) {world : World σ}
    (other : header.sessionId ≠ world.session.sessionId) :
    wp (onSessionSetupReq answers header req)
      (fun _ next => next.currentState.nextState = some (.state .authorizationSetup) ∧
        next.session.sessionId = answers.randomSessionId ∧
        ∃ evseId, next.currentState.nextV2gtpMsg =
          some ⟨{ sessionId := answers.randomSessionId }, .okNewSessionEstablished,
            .sessionSetupRes evseId⟩)
      (fun _ _ => True) world := by
  unfold onSessionSetupReq
  simp only [wp_bind, wp_get, wp_ask, wp_updateSession, wp_createNextMessage, other,
    and_false, if_false, implies_true, and_true]
  intro evseId _ _
  exact ⟨rfl, trivial, evseId, rfl⟩

theorem rcv_sessionSetupReq {environment : Environment} {session : SECCSession σ}
    {header : MessageHeader} {req : SessionSetupReq} {answers : Answers} (new : New session)
    (fresh : session.world.session = {}) (valid : ValidSessionId header.sessionId)
    (answerable : SessionSetup.Answerable answers header session.world.session)
    (announced : answers.setPresentProtocolState = .ok ⟨⟩) :
    ∃ next, (machine environment).rcv session
        (some ⟨.request ⟨header, .sessionSetupReq req⟩, answers⟩) = next ∧
      next.ended = false ∧ next.world.session.sessionId = answers.randomSessionId ∧
      ∃ evseId, next.sent = [⟨{ sessionId := answers.randomSessionId },
        .okNewSessionEstablished, .sessionSetupRes evseId⟩] := by
  have accepted : stateTable.accepts session.world.currentState.own .sessionSetupReq = true := by
    rw [new.1]
    rfl
  have other : header.sessionId ≠ session.world.session.sessionId := by
    intro same
    rw [same, fresh] at valid
    exact absurd valid (by decide)
  obtain ⟨reached, response, ⟨sessionId, evseId, responds⟩, prepared, goesOn⟩ :=
    SeccProtocol.exists_rcv_of_responds (protocol environment) ⟨header, .sessionSetupReq req⟩
      accepted (.inl rfl) (responds_sessionSetup.mpr answerable)
      (SessionSetup.onSessionSetupReq_outcome answers header req other) announced
  cases responds.symm.trans prepared
  refine ⟨_, goesOn, rfl, sessionId, evseId, ?_⟩
  rw [new.2.1]

end V20


/-! ## The next connection -/

section

variable {σ : Type}

/-- The session of a connection that has paused, and that the handler has preserved. -/
structure PeerState.Preserves (peer : PeerState σ) (connection : PeerConnection σ) : Prop where
  paused : connection.stage = .stopped .pause
  registered : peer.commSession.bind (peer.connections[·]?) = some connection

/-- A session asks for an id, of a station that answers. -/
inductive Asks (requested random : String) (context : Option V2.EVSessionContext) :
    SECCCommunicationSession σ → Input → Prop where
  | din {session} {header : Shared.Din.MessageHeader} {req} {answers : Din.Answers}
      (sessionId : header.sessionId = requested) (valid : ValidSessionId requested)
      (randomId : answers.randomSessionId = random)
      (answerable : Din.SessionSetup.Answerable answers header session.world.session)
      (announced : answers.setPresentProtocolState = .ok ⟨⟩) :
      Asks requested random context (.din session)
        (.din (some ⟨.request ⟨header, .sessionSetupReq req⟩, answers⟩))
  | v2 {session : V2.SECCSession} {header : Shared.V2.MessageHeader} {req}
      {answers : V2.Answers}
      (sessionId : header.sessionId = requested) (valid : ValidSessionId requested)
      (randomId : answers.randomSessionId = random)
      (answerable : V2.SessionSetup.Answerable answers header
        (session.withContext context).world.session)
      (announced : answers.setPresentProtocolState = .ok ⟨⟩) :
      Asks requested random context (.v2 session)
        (.v2 (some ⟨.request ⟨header, .sessionSetupReq req⟩, answers⟩))
  | v20 {session} {header : Shared.V20.MessageHeader} {req} {answers : V20.Answers}
      (sessionId : header.sessionId = requested) (valid : ValidSessionId requested)
      (randomId : answers.randomSessionId = random)
      (answerable : V20.SessionSetup.Answerable answers header session.world.session)
      (announced : answers.setPresentProtocolState = .ok ⟨⟩) :
      Asks requested random context (.v20 session)
        (.v20 (some ⟨.request ⟨header, .sessionSetupReq req⟩, answers⟩))

/-- The old session is joined under its id, and for any other id there is a new session. -/
def AnswersAsPromised (sessionId requested random : String) (number : Nat)
    (peer : PeerState σ) : Prop :=
  ∃ connection, peer.connections[number]? = some connection ∧ connection.stage = .running ∧
    (requested = sessionId → connection.session.SetUp true sessionId) ∧
    (requested ≠ sessionId → connection.session.SetUp false random)

/-- Whether a session finds an id: only that of ISO 15118-2 looks into the context. -/
def SECCCommunicationSession.Finds (contexts : Heap V2.EVSessionContext) (context : Option Nat)
    (requested : String) : SECCCommunicationSession σ → Prop
  | .v2 _ => Names contexts context requested
  | _ => False

/-- The next session finds the id of the preserved one and no other. -/
def Resumes (contexts : Heap V2.EVSessionContext) (preserved : PeerConnection σ)
    (session : SECCCommunicationSession σ) (requested : String) : Prop :=
  match preserved.session, session with
  | .v2 _, .v2 _ => True
  | _, .v2 _ =>
      Names contexts preserved.context requested ↔ requested = preserved.session.sessionId
  | _, _ => requested ≠ preserved.session.sessionId

/-- A session object that has just been created for a protocol. -/
def SECCCommunicationSession.New : SECCCommunicationSession σ → Prop
  | .negotiating _ => True
  | .din session => Din.New session
  | .v2 session => V2.New session
  | .v20 session => V20.New session ∧ session.world.session = {}

theorem SECCCommunicationSession.SetUp.joined_eq {session : SECCCommunicationSession σ}
    {first second : Bool} {firstId secondId : String} (one : session.SetUp first firstId)
    (other : session.SetUp second secondId) : first = second := by
  have code_injective : ∀ {γ : Type} {joined established : γ}, joined ≠ established →
      (if first then joined else established) = (if second then joined else established) →
      first = second := by
    intro γ joined established different same
    cases first <;> cases second
    · rfl
    · exact absurd same.symm different
    · exact absurd same different
    · rfl
  cases session with
  | negotiating isTls => exact one.elim
  | din session =>
      obtain ⟨_, _, sent⟩ := one
      obtain ⟨_, _, sent'⟩ := other
      have same := (List.cons.inj (sent.symm.trans sent')).1
      exact code_injective (by decide) (congrArg Shared.Din.ResponseMessage.responseCode same)
  | v2 session =>
      obtain ⟨_, _, sent⟩ := one
      obtain ⟨_, _, sent'⟩ := other
      have same := (List.cons.inj (sent.symm.trans sent')).1
      exact code_injective (by decide) (congrArg Shared.V2.ResponseMessage.responseCode same)
  | v20 session =>
      obtain ⟨_, _, sent⟩ := one
      obtain ⟨_, _, sent'⟩ := other
      have same := (List.cons.inj (sent.symm.trans sent')).1
      exact code_injective (by decide) (congrArg Shared.V20.ResponseMessage.responseCode same)

theorem V2.new_withContext {session : V2.SECCSession} (new : V2.New session)
    (context : Option V2.EVSessionContext) (evDataContext : EVDataContext)
    (evseDataContext : EVSEDataContext) :
    V2.New ((session.withContext context).withController evDataContext evseDataContext ⟨⟩) := by
  obtain ⟨state, object, sent, goesOn⟩ := new
  refine ⟨state, ?_, sent, goesOn⟩
  change { session.world.session with evSessionContext := context } =
    ({ isTls := session.world.session.isTls, evSessionContext := context } : V2.Session)
  rw [object]

theorem joined_iff {contexts : Heap V2.EVSessionContext} {context : Option Nat}
    {requested : String} {joined : Bool}
    (random : ∀ address, RandomId (some (contexts.read address)))
    (valid : ValidSessionId requested)
    (joins : V2.SessionSetup.joins (context.map contexts.read) requested = .ok joined) :
    joined = true ↔ Names contexts context requested := by
  have named : requested ≠ "" := by
    rintro rfl
    exact absurd valid (by decide)
  unfold V2.SessionSetup.joins at joins
  cases context with
  | none =>
      split at joins
      · cases joins
        constructor
        · nofun
        · rintro ⟨_, ⟨⟩, _⟩
      · cases joins
  | some address =>
      split at joins
      next asksForNew =>
        cases joins
        constructor
        · nofun
        · rintro ⟨_, ⟨⟩, names⟩
          exact absurd asksForNew (random address _ _ rfl names).2
      next =>
        cases joins
        constructor
        · intro joined
          exact ⟨address, rfl, (of_decide_eq_true joined).2⟩
        · rintro ⟨_, ⟨⟩, names⟩
          exact decide_eq_true ⟨named, names⟩

variable [DiagnosticService σ] {station : Station} {before after : PeerState σ}
  {connection : PeerConnection σ} {event : Event} {input : Input} {iteration : Iteration σ}

omit [DiagnosticService σ] in
theorem running_of_goesOn {ι κ ν μ ω : Type} {machine : SessionStateMachine ι κ ν μ ω}
    {stopReason : ω → Option StopNotification} {session next : CommSession μ ω}
    {input : Option ι} (rcv : machine.rcv session input = next) (goesOn : next.ended = false) :
    Stage.after ((machine.stopNotification stopReason session.world input).map
      StopNotification.stopAction) = .running := by
  rw [← rcv] at goesOn
  rw [SessionStateMachine.stopNotification_eq_none_iff.mpr goesOn]
  rfl

/-- How a new session answers. -/
theorem setUp_of_sessionStep {requested random : String}
    (randomIds : ∀ address, RandomId (some (before.contexts.read address)))
    (new : connection.session.New)
    (asks : Asks requested random (connection.context.map before.contexts.read)
      connection.session input)
    (step : SessionStep station (connection.context.map before.contexts.read) connection.session
      input iteration) :
    ∃ joined, Stage.after iteration.stopAction = .running ∧
      iteration.session.SetUp joined (if joined then requested else random) ∧
      (joined = true ↔
        connection.session.Finds before.contexts connection.context requested) := by
  obtain ⟨session, context, stage⟩ := connection
  cases asks with
  | @din session header req answers sessionId valid randomId answerable announced =>
      subst sessionId randomId
      cases step with
      | @receiveDin _ found _ evDataContext evseDataContext finds random =>
          have newFound : Din.New found := by
            rw [finds]
            exact new
          have canAnswer : Din.SessionSetup.Answerable answers header found.world.session := by
            rw [finds]
            exact answerable
          obtain ⟨reached, rcv, goesOn, setUp⟩ :=
            Din.rcv_sessionSetupReq newFound valid canAnswer announced
          refine ⟨false, running_of_goesOn rcv goesOn, ?_, by nofun, False.elim⟩
          rw [rcv]
          exact setUp
  | @v2 session header req answers sessionId valid randomId answerable announced =>
      subst sessionId randomId
      cases step with
      | @receiveV2 _ found _ evDataContext evseDataContext finds random =>
          have newFound : V2.New found := by
            rw [finds]
            exact V2.new_withContext new _ _ _
          have canAnswer : V2.SessionSetup.Answerable answers header found.world.session := by
            rw [finds]
            exact answerable
          obtain ⟨reached, joined, sessionId, rcv, joins, rfl, goesOn, setUp⟩ :=
            V2.rcv_sessionSetupReq newFound canAnswer announced
          refine ⟨joined, running_of_goesOn rcv goesOn, ?_, joined_iff randomIds valid ?_⟩
          · rw [rcv]
            exact setUp
          · rw [finds] at joins
            exact joins
  | @v20 session header req answers sessionId valid randomId answerable announced =>
      subst sessionId randomId
      cases step with
      | @receiveV20 _ found _ evDataContext evseDataContext serviceRegistry finds random =>
          have newFound : V20.New found ∧ found.world.session = {} := by
            rw [finds]
            exact new
          have canAnswer : V20.SessionSetup.Answerable answers header found.world.session := by
            rw [finds]
            exact answerable
          obtain ⟨reached, rcv, goesOn, setUp⟩ :=
            V20.rcv_sessionSetupReq newFound.1 newFound.2 valid canAnswer announced
          refine ⟨false, running_of_goesOn rcv goesOn, ?_, by nofun, False.elim⟩
          rw [rcv]
          exact setUp

omit [DiagnosticService σ] in
/-- The promise is kept where the session is joined for the old id and for no other. -/
theorem answersAsPromised_iff {peer : PeerState σ} {number : Nat}
    {sessionId requested random : String} {joined : Bool}
    (created : peer.connections[number]? = some connection)
    (running : connection.stage = .running)
    (setUp : connection.session.SetUp joined (if joined then requested else random)) :
    AnswersAsPromised sessionId requested random number peer ↔
      (joined = true ↔ requested = sessionId) := by
  constructor
  · rintro ⟨_, created', _, joins, renews⟩
    cases created.symm.trans created'
    by_cases same : requested = sessionId
    · exact iff_of_true (setUp.joined_eq (joins same)) same
    · rw [setUp.joined_eq (renews same)]
      exact iff_of_false Bool.false_ne_true same
  · intro agrees
    refine ⟨connection, created, running, ?_, ?_⟩
    · intro same
      have isJoined := agrees.mpr same
      rw [isJoined, if_pos rfl, same] at setUp
      exact setUp
    · intro different
      have notJoined := Bool.eq_false_iff.mpr (mt agrees.mp different)
      rw [notJoined, if_neg Bool.false_ne_true] at setUp
      exact setUp

/-- Until it has answered anything a session has the context that it has taken over, with the
id that this had. -/
structure Awaits (contexts : Heap V2.EVSessionContext) (number address : Nat)
    (peer : PeerState σ) : Prop where
  keeps : KeepsIds contexts peer.contexts
  created : number < peer.connections.length
  refers : ∀ connection, peer.connections[number]? = some connection →
    connection.stage = .running →
    (∀ session, connection.session = .v2 session → session.sent = []) →
    connection.context = some address

theorem KeepsIds.trans {first second third : Heap V2.EVSessionContext}
    (one : KeepsIds first second) (other : KeepsIds second third) : KeepsIds first third where
  size := one.size.trans other.size
  same address below :=
    (other.same address (below.trans_le one.size)).trans (one.same address below)

/-- Only a session of ISO 15118-2 that has answered gets another context. -/
theorem context_of_sessionStep (remembers : connection.Remembers before.contexts)
    (running : connection.stage = .running)
    (step : SessionStep station (connection.context.map before.contexts.read) connection.session
      input iteration)
    (running' : Stage.after iteration.stopAction = .running)
    (silent : ∀ session, iteration.session = .v2 session → session.sent = []) :
    (∀ session, connection.session = .v2 session → session.sent = []) ∧
      (before.effect connection iteration.effect).2 = connection.context := by
  generalize before' : connection.session = started at step
  cases step with
  | @receiveV2 _ found _ evDataContext evseDataContext finds random =>
      obtain ⟨goesOn, _⟩ := hasId_of_remembers remembers before' running finds
      obtain ⟨message, answers, reached, response, _, answered⟩ :=
        SeccProtocol.step_answered ⟨goesOn, rfl⟩ (stage_running running')
      have sent := silent _ rfl
      rw [answered.sent] at sent
      cases sent
  | _ =>
      refine ⟨?_, rfl⟩
      intro session isV2
      cases isV2

theorem awaits_of_peerStep {contexts : Heap V2.EVSessionContext} {number address : Nat}
    (remembers : before.Remembers) (awaits : Awaits contexts number address before)
    (step : PeerStep station before event after) : Awaits contexts number address after := by
  have keeps := awaits.keeps.trans (keepsIds_of_peerStep step)
  have created := awaits.created
  cases step with
  | connect isTls resumable =>
      refine ⟨keeps, ?_, ?_⟩
      · rw [PeerState.length_connected]
        exact Nat.lt_add_right _ created
      · intro connection created'
        rw [PeerState.getElem?_connected_of_lt created] at created'
        exact awaits.refers connection created'
  | @receive receiving connection input iteration receives running step =>
      refine ⟨keeps, ?_, ?_⟩
      · rw [PeerState.length_after]
        exact created
      · intro other created' running' silent
        by_cases same : receiving = number
        · subst same
          rw [PeerState.getElem?_after created] at created'
          cases created'
          have remembered := remembers.connections connection (List.mem_of_getElem? receives)
          obtain ⟨silent', sameContext⟩ :=
            context_of_sessionStep remembered running step running' silent
          exact sameContext.trans (awaits.refers connection receives running silent')
        · rw [PeerState.getElem?_after_of_ne same] at created'
          exact awaits.refers other created' running' silent
  | @stop stopping connection stopAction stops isStopping =>
      refine ⟨keeps, ?_, ?_⟩
      · rw [PeerState.length_stopped]
        exact created
      · intro other created' running' silent
        by_cases same : stopping = number
        · subst same
          rw [PeerState.getElem?_stopped created] at created'
          cases created'
          cases running'
        · rw [PeerState.getElem?_stopped_of_ne same] at created'
          exact awaits.refers other created' running' silent

theorem awaits_of_run {contexts : Heap V2.EVSessionContext} {number address : Nat}
    {later : List Event} {start current : PeerState σ} (remembers : start.Remembers)
    (awaits : Awaits contexts number address start)
    (run : Run (PeerStep station) start later current) :
    current.Remembers ∧ Awaits contexts number address current := by
  induction run with
  | start => exact ⟨remembers, awaits⟩
  | step past last ih =>
      obtain ⟨remembers, awaits⟩ := ih
      exact ⟨remembers_of_peerStep remembers last, awaits_of_peerStep remembers awaits last⟩

omit [DiagnosticService σ] in
theorem Awaits.names_iff {contexts : Heap V2.EVSessionContext} {number address : Nat}
    {peer : PeerState σ} (awaits : Awaits contexts number address peer)
    (within : address < contexts.size) {sessionId : String} :
    Names peer.contexts (some address) sessionId ↔ Names contexts (some address) sessionId := by
  constructor
  · rintro ⟨_, ⟨⟩, names⟩
    exact ⟨address, rfl, (awaits.keeps.same address within).symm.trans names⟩
  · rintro ⟨_, ⟨⟩, names⟩
    exact ⟨address, rfl, (awaits.keeps.same address within).trans names⟩

variable {preserved : PeerConnection σ} {isTls : Bool}

omit [DiagnosticService σ] in
theorem inherited_of_preserves (preserves : before.Preserves preserved) :
    before.inherited true = preserved.context :=
  congrArg (Option.bind · PeerConnection.context) preserves.registered

omit [DiagnosticService σ] in
theorem awaits_connected (preserves : before.Preserves preserved) :
    Awaits (before.connected isTls true).contexts before.connections.length
      (preserved.context.getD before.contexts.size) (before.connected isTls true) where
  keeps := .refl _
  created := by
    rw [PeerState.length_connected]
    exact Nat.lt_succ_self _
  refers connection created _ _ := by
    rw [PeerState.getElem?_connected] at created
    cases created
    rw [inherited_of_preserves preserves]

omit [DiagnosticService σ] in
/-- The next connection has a context with the id that the preserved session has left. -/
theorem names_connected_iff (preserves : before.Preserves preserved) {sessionId : String} :
    Names (before.connected isTls true).contexts
        (some (preserved.context.getD before.contexts.size)) sessionId ↔
      Names before.contexts preserved.context sessionId := by
  unfold PeerState.connected
  rw [inherited_of_preserves preserves]
  cases preserved.context with
  | some address => rfl
  | none =>
      constructor
      · rintro ⟨_, ⟨⟩, names⟩
        cases (congrArg V2.EVSessionContext.sessionId Heap.read_new).symm.trans names
      · rintro ⟨_, ⟨⟩, _⟩

omit [DiagnosticService σ] in
theorem within_connected (remembers : before.Remembers) (preserves : before.Preserves preserved)
    (isTls : Bool) :
    preserved.context.getD before.contexts.size < (before.connected isTls true).contexts.size := by
  have within := (remembers_connected remembers isTls true).within _
    (List.mem_append_right _ (List.mem_singleton_self _))
  rw [inherited_of_preserves preserves] at within
  exact within _ rfl

omit [DiagnosticService σ] in
theorem resumes_iff {contexts : Heap V2.EVSessionContext}
    {session : SECCCommunicationSession σ} {address : Option Nat} {requested : String}
    (remembers : before.Remembers) (preserves : before.Preserves preserved)
    (same : ∀ sessionId, Names contexts address sessionId ↔
      Names before.contexts preserved.context sessionId)
    (agreed : ∀ isTls, session ≠ .negotiating isTls) :
    Resumes before.contexts preserved session requested ↔
      (session.Finds contexts address requested ↔ requested = preserved.session.sessionId) := by
  obtain ⟨number, _, created⟩ := Option.bind_eq_some_iff.mp preserves.registered
  have remembered := remembers.connections preserved (List.mem_of_getElem? created)
  have paused := preserves.paused
  obtain ⟨old, context, stage⟩ := preserved
  cases session with
  | negotiating isTls => exact absurd rfl (agreed _)
  | din session => cases old <;> exact (iff_of_eq (false_iff _)).symm
  | v20 session => cases old <;> exact (iff_of_eq (false_iff _)).symm
  | v2 session =>
      unfold SECCCommunicationSession.Finds
      dsimp only
      rw [same]
      cases old with
      | negotiating isTls => rfl
      | din session => rfl
      | v20 session => rfl
      | v2 session =>
          have named := remembered session rfl
          rw [paused] at named
          obtain ⟨address, refers, names⟩ := named rfl
          refine iff_of_true trivial ⟨?_, ?_⟩
          · rintro ⟨other, refers', named⟩
            cases refers.symm.trans refers'
            exact Option.some.inj (named.symm.trans names)
          · rintro rfl
            exact ⟨address, refers, names⟩

/-- An EV whose session has been preserved connects again and sets up a session, whatever its
other connections do meanwhile: whether it gets the old session for the old id, and a new one
for any other id. -/
theorem resumed_iff {history later : List Event} {current next : PeerState σ}
    {requested random : String}
    (run : Run (PeerStep station) {} history before) (preserves : before.Preserves preserved)
    (reconnected : Run (PeerStep station) (before.connected isTls true) later current)
    (created : current.connections[before.connections.length]? = some connection)
    (new : connection.session.New)
    (asks : Asks requested random (connection.context.map current.contexts.read)
      connection.session input)
    (step : PeerStep station current (.received before.connections.length input) next) :
    AnswersAsPromised preserved.session.sessionId requested random before.connections.length
        next ↔
      Resumes before.contexts preserved connection.session requested := by
  have remembers := remembers_of_run run
  obtain ⟨remembers', awaits⟩ := awaits_of_run (remembers_connected remembers isTls true)
    (awaits_connected preserves) reconnected
  have within := within_connected remembers preserves isTls
  cases step with
  | @receive _ receiving _ iteration receives running step =>
      cases created.symm.trans receives
      have silent : ∀ session, connection.session = .v2 session → session.sent = [] := by
        intro session isV2
        rw [isV2] at new
        exact new.2.2.1
      have refers := awaits.refers connection created running silent
      have agreed : ∀ isTls, connection.session ≠ .negotiating isTls := by
        intro isTls negotiating
        rw [negotiating] at asks
        cases asks
      have same : ∀ sessionId, Names current.contexts connection.context sessionId ↔
          Names before.contexts preserved.context sessionId := by
        intro sessionId
        rw [refers, awaits.names_iff within, names_connected_iff preserves]
      obtain ⟨joined, running', setUp, joins⟩ :=
        setUp_of_sessionStep remembers'.random new asks step
      rw [answersAsPromised_iff (PeerState.getElem?_after awaits.created) running' setUp, joins,
        resumes_iff remembers preserves same agreed]

end

namespace Sample

def resumeReqV20 : Option V20.Received :=
  V20.Sample.request (.sessionSetupReq ⟨"ev"⟩) { V20.Sample.answers with randomSessionId := "11" }

def setUpHistory : List (Option V20.Received) :=
  [V20.Sample.request .authorizationSetupReq, V20.Sample.request (.sessionSetupReq ⟨"ev"⟩)]

def pauseReqV20 : Option V20.Received :=
  V20.Sample.request (.sessionStopReq ⟨.pause⟩)

def pausedEventsV20 : List Event :=
  [.stopNotification 0, .received 0 (.v20 pauseReqV20)] ++
    setUpHistory.map (fun input => .received 0 (.v20 input)) ++
    [.received 0 (.supportedAppProtocolReq sapReqV20), .tcpClientNotification true true]

/-- What the handler has of its only session, and whether this is one of ISO 15118-2. -/
def onlySession (peer : PeerState BatteryHealthService) : Option (Stage × String × Bool) :=
  match peer.commSession, peer.connections with
  | some 0, [connection] =>
      some (connection.stage, connection.session.sessionId, match connection.session with
        | .v2 _ => true
        | _ => false)
  | _, _ => none

theorem preserves_of_onlySession {peer : PeerState BatteryHealthService} {sessionId : String}
    {isV2 : Bool} (only : onlySession peer = some (.stopped .pause, sessionId, isV2)) :
    ∃ preserved, peer.Preserves preserved ∧ peer.connections.length = 1 ∧
      preserved.session.sessionId = sessionId ∧
      (isV2 = true → ∃ session, preserved.session = .v2 session) := by
  obtain ⟨contexts, connections, commSession⟩ := peer
  unfold onlySession at only
  split at only
  next connection registered listed =>
    dsimp only at registered listed
    subst registered listed
    obtain ⟨session, context, stage⟩ := connection
    cases only
    refine ⟨_, ⟨rfl, rfl⟩, rfl, rfl, ?_⟩
    intro isV2
    cases session with
    | v2 session => exact ⟨session, rfl⟩
    | _ => cases isV2
  next => cases only

/-- The next connection agrees on a protocol. -/
theorem exists_agreed (peer : PeerState BatteryHealthService) {req : SupportedAppProtocolReq}
    {session : SECCCommunicationSession BatteryHealthService}
    (agrees : ∀ context, iterate context (.negotiating true) (.supportedAppProtocolReq req) =
      some { session := session }) :
    ∃ current address,
      Run (PeerStep station) (peer.connected true true)
        [.received peer.connections.length (.supportedAppProtocolReq req)] current ∧
      current.connections[peer.connections.length]? = some ⟨session, some address, .running⟩ := by
  refine ⟨_, (peer.inherited true).getD peer.contexts.size, .step .start
    (.receive PeerState.getElem?_connected rfl (sessionStep_of_iterate (agrees _))), ?_⟩
  apply PeerState.getElem?_after
  rw [PeerState.length_connected]
  exact Nat.lt_succ_self _

end Sample

open Iso15118.Secc.Sample in
/-- In ISO 15118-2 the old id joins the old session. -/
theorem sample_resumed_iff :
    ∃ next : PeerState BatteryHealthService,
      Run (PeerStep station) {} (.received 1 (.v2 resumeReq) :: reconnectedEvents true) next ∧
        AnswersAsPromised "10" "10" "11" 1 next := by
  have paused : (advanceAll pausedEvents).map onlySession =
      some (some (.stopped .pause, "10", true)) := by
    decide +kernel
  obtain ⟨peer, reached, only⟩ := Option.map_eq_some_iff.mp paused
  obtain ⟨preserved, preserves, single, sessionId, isV2⟩ := preserves_of_onlySession only
  obtain ⟨old, oldSession⟩ := isV2 rfl
  have agrees : station.agreesOn sapReqV2 = some .v2 := by decide +kernel
  obtain ⟨current, address, reconnected, created⟩ :=
    exists_agreed peer fun context => if_pos agrees
  have new : (SECCCommunicationSession.v2 (start true) :
      SECCCommunicationSession BatteryHealthService).New := ⟨rfl, rfl, rfl, rfl⟩
  have asks : Asks "10" "11" (some (current.contexts.read address))
      (.v2 (start true) : SECCCommunicationSession BatteryHealthService) (.v2 resumeReq) := by
    have valid : ∀ joined, ValidSessionId (if joined = true then "10" else "11") := by
      decide +kernel
    exact .v2 rfl (valid true) rfl ⟨_, rfl, ⟨"UK123E1234", rfl, by decide, by decide⟩, valid _⟩ rfl
  have random : ∀ received ∈ resumeReq, IsRandomSessionId received.answers.randomSessionId := by
    decide +kernel
  have iterates : ∀ context, iterate context (.v2 (start true)) (.v2 resumeReq) =
      some (iterateV2 context (start true) resumeReq) := by
    intro context
    dsimp only [iterate]
    exact if_pos random
  have step : PeerStep station current (.received peer.connections.length (.v2 resumeReq)) _ :=
    .receive created rfl (sessionStep_of_iterate (iterates _))
  have run := run_of_advanceAll reached
  have answers := resumed_iff run preserves reconnected created new asks step
  have resumes : Resumes peer.contexts preserved (.v2 (start true)) "10" := by
    unfold Resumes
    rw [oldSession]
    trivial
  rw [sessionId, single] at answers
  rw [single] at reconnected step
  exact ⟨_, .step ((Run.step run (.connect peer true true)).append reconnected) step,
    answers.mpr resumes⟩

open Iso15118.Secc.Sample in
/-- A session of ISO 15118-20 that has paused is not joined under its id. -/
theorem paused_v20_not_resumed :
    ∃ (peer current next : PeerState BatteryHealthService)
      (preserved connection : PeerConnection BatteryHealthService),
      Run (PeerStep station) {} pausedEventsV20 peer ∧ peer.Preserves preserved ∧
        preserved.session.sessionId = "10" ∧
        Run (PeerStep station) (peer.connected true true)
          [.received peer.connections.length (.supportedAppProtocolReq sapReqV20)] current ∧
        current.connections[peer.connections.length]? = some connection ∧
        connection.session.New ∧
        Asks "10" "11" (connection.context.map current.contexts.read) connection.session
          (.v20 resumeReqV20) ∧
        PeerStep station current (.received peer.connections.length (.v20 resumeReqV20)) next ∧
        ¬AnswersAsPromised "10" "10" "11" peer.connections.length next := by
  have paused : (advanceAll pausedEventsV20).map onlySession =
      some (some (.stopped .pause, "10", false)) := by
    decide +kernel
  obtain ⟨peer, reached, only⟩ := Option.map_eq_some_iff.mp paused
  obtain ⟨preserved, preserves, _, sessionId, _⟩ := preserves_of_onlySession only
  have agrees : station.agreesOn sapReqV20 = some .v20 := by decide +kernel
  have other : station.agreesOn sapReqV20 ≠ some .v2 := by
    rw [agrees]
    nofun
  obtain ⟨current, address, reconnected, created⟩ :=
    exists_agreed peer fun context => (if_neg other).trans (if_pos agrees)
  obtain ⟨bound, _⟩ := List.getElem?_eq_some_iff.mp created
  have valid : ValidSessionId "10" := by decide +kernel
  have random : ∀ received ∈ resumeReqV20,
      IsRandomSessionId received.answers.randomSessionId := by
    decide +kernel
  have iterates : ∀ context, iterate context (.v20 V20.Sample.start) (.v20 resumeReqV20) =
      some (iterateV20 V20.Sample.start resumeReqV20) := by
    intro context
    dsimp only [iterate]
    exact if_pos random
  refine ⟨peer, current, _, preserved, _, run_of_advanceAll reached, preserves, sessionId,
    reconnected, created, ⟨V20.Sample.new_start, rfl⟩,
    .v20 rfl valid rfl ⟨rfl, by decide +kernel⟩ rfl,
    .receive created rfl (sessionStep_of_iterate (iterates _)), ?_⟩
  rintro ⟨connection, answers, _, joins, _⟩
  cases answers.symm.trans (PeerState.getElem?_after bound)
  obtain ⟨_, evseId, sent⟩ := joins rfl
  have codes : ((V20.machine station.v20).rcv V20.Sample.start resumeReqV20).sent.map
      Shared.V20.ResponseMessage.responseCode = [.okNewSessionEstablished] := by
    decide +kernel
  rw [sent] at codes
  cases codes

end Iso15118.Secc
