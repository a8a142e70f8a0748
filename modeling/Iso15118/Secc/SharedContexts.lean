import Iso15118.Secc.CommSessionHandler
import Iso15118.Secc.V2.Responding

/-!
# The EV session contexts of an EV

Sessions share their contexts by reference, also with sessions that run at the same time. A
session of ISO 15118-2 that joins another one refers to the context of that one, and a session
that does not gets a new context: the id in a context never changes, and a session that runs or
pauses is named by its context.
-/

namespace Iso15118.Secc

open Effect Transition
open Iso15118.Shared

/-- The id in a context is one that a session has been given. -/
def RandomId (context : Option V2.EVSessionContext) : Prop :=
  ∀ stored sessionId, context = some stored → stored.sessionId = some sessionId →
    IsRandomSessionId sessionId

theorem randomId_new : RandomId (some {}) := by
  rintro _ _ ⟨⟩ ⟨⟩

namespace V2

open Iso15118.Shared.V2

/-- The context of a session that goes on or pauses names it: the new one that it has been
given, or the one that it has found. -/
def Remembered (found : SECCSession) (input : Option Received) (next : Session) : Prop :=
  next.evSessionContext ≠ none ∧
    match renewedId found input with
    | some sessionId => next.sessionId = sessionId
    | none => ∃ context, found.world.session.evSessionContext = some context ∧
        context.sessionId = some next.sessionId

/-- A session that has not been set up, or is named by its context. -/
def HasId (session : SECCSession) : Prop :=
  session.world.currentState.own.name = .sessionSetup ∨ session.world.session.Named

theorem randomId_of_renewedId {session : SECCSession} {input : Option Received}
    {sessionId : String}
    (random : ∀ received ∈ input, IsRandomSessionId received.answers.randomSessionId)
    (renews : renewedId session input = some sessionId) : IsRandomSessionId sessionId := by
  unfold renewedId at renews
  split at renews
  next header req answers =>
    split at renews
    · split at renews
      · cases renews
        exact random _ rfl
      · cases renews
    · cases renews
  next => cases renews

theorem renewedId_of_other {session : SECCSession} {message : RequestMessage} {answers : Answers}
    (other : message.request.requestType ≠ .sessionSetupReq) :
    renewedId session (some ⟨.request message, answers⟩) = none := by
  unfold renewedId
  split
  next same =>
    cases same
    exact absurd rfl other
  next => rfl

theorem renewedId_of_sessionSetup {session : SECCSession} {header : MessageHeader}
    {req : SessionSetupReq} {answers : Answers} {joined : Bool}
    (accepted : session.world.currentState.own.accepts .sessionSetupReq = true)
    (joins : SessionSetup.joins session.world.session.evSessionContext header.sessionId =
      .ok joined) :
    renewedId session (some ⟨.request ⟨header, .sessionSetupReq req⟩, answers⟩) =
      if joined then none else some answers.randomSessionId := by
  unfold renewedId
  dsimp only
  rw [if_pos accepted, joins]
  cases joined <;> rfl

/-- Setting up a session gives it a new context or joins it to that of the old one. -/
theorem remembered_of_sessionSetup {session : SECCSession} {header : MessageHeader}
    {req : SessionSetupReq} {answers : Answers} {reached : World}
    (accepted : session.world.currentState.own.accepts .sessionSetupReq = true)
    (outcome : SessionSetup.Outcome header req answers.randomSessionId session.world.session
      reached) :
    Remembered session (some ⟨.request ⟨header, .sessionSetupReq req⟩, answers⟩)
      reached.session := by
  obtain ⟨joined, sessionId, evseId, joins, names, _, setUp, _⟩ := outcome.setUp
  unfold Remembered
  rw [renewedId_of_sessionSetup accepted joins, setUp]
  cases joined with
  | false => exact ⟨nofun, names⟩
  | true =>
      rw [if_pos rfl] at names
      subst names
      unfold SessionSetup.joins at joins
      split at joins
      · cases joins
      · split at joins
        · cases joins
        next context stored =>
          have named := of_decide_eq_true (Except.ok.inj joins)
          refine ⟨?_, context, stored, named.2⟩
          change session.world.session.evSessionContext ≠ none
          rw [stored]
          nofun

/-- Every answer leaves a session that is remembered, or terminates it. -/
theorem remembered_of_answer {environment : Environment} {answers : Answers}
    {message : RequestMessage} {session : SECCSession} {reached : World}
    (remembers : HasId session)
    (accepted : session.world.currentState.own.accepts message.request.requestType = true)
    (answered : answer environment answers message
      (answering session.world.currentState message.request.requestType).own
      ((protocol environment).entered session.world message) = .ok ⟨⟩ reached) :
    Remembered session (some ⟨.request message, answers⟩) reached.session ∨
      reached.currentState.nextState = some .terminate ∧
        ∃ notification, reached.session.stopReason = some notification ∧
          notification.stopAction = .terminate := by
  by_cases setup : message.request.requestType = .sessionSetupReq
  · left
    rw [setup] at accepted
    rcases message with ⟨header, request⟩
    cases request <;> cases setup
    next req =>
      exact remembered_of_sessionSetup accepted
        (post_of_eq_ok (SessionSetup.onSessionSetupReq_outcome answers header req _)
          answered).2
  · have named : session.world.session.Named := by
      rcases remembers with fresh | named
      · have expected := mem_expectedMsgTypes accepted
        rw [fresh] at expected
        exact absurd (List.mem_singleton.mp expected) setup
      · exact named
    rcases named_of_answer setup answered named with ⟨stays, sessionId⟩ | terminates
    · left
      unfold Remembered
      rw [renewedId_of_other setup]
      obtain ⟨context, stored, _⟩ := stays
      obtain ⟨found, has, names⟩ := named
      refine ⟨by rw [stored]; nofun, found, has, ?_⟩
      rw [names, sessionId]
      rfl
    · exact .inr terminates

theorem remembered_of_step {environment : Environment} {session next : SECCSession}
    {input : Option Received} (remembers : HasId session)
    (step : (machine environment).Step session input next) (goesOn : next.ended = false) :
    Remembered session input next.world.session := by
  obtain ⟨message, answers, reached, response, rfl, answered⟩ :=
    SeccProtocol.step_answered step goesOn
  rcases remembered_of_answer remembers answered.accepted answered.answer with
    remembered | ⟨terminates, _⟩
  · rw [answered.session_eq]
    exact remembered
  · exact absurd terminates answered.not_terminate

/-- A session that pauses is remembered. -/
theorem remembered_of_pause {environment : Environment} {session : SECCSession}
    {input : Option Received} {notification : StopNotification} (remembers : HasId session)
    (stops : (machine environment).stopNotification (·.session.stopReason) session.world input =
      some notification)
    (pauses : notification.stopAction = .pause) :
    Remembered session input ((machine environment).rcv session input).world.session := by
  obtain ⟨⟨message, answers⟩, reached, rfl, processed, same, reason⟩ :=
    SeccProtocol.reached_of_pause (protocol environment) stops pauses
  have paused : ∀ other, reached.session.stopReason = some other →
      other.stopAction ≠ .terminate := by
    intro other given terminates
    cases reason.symm.trans given
    cases pauses.symm.trans terminates
  rw [same]
  by_cases isRequest : ∃ req, message = .request req
  · obtain ⟨req, rfl⟩ := isRequest
    rcases refused_or_answered processed with refused | ⟨accepted, _, answered⟩
    · refine absurd rfl (paused { successful := false } ?_)
      rw [refused.session]
      rfl
    · rcases remembered_of_answer remembers accepted answered with
        remembered | ⟨_, other, given, terminates⟩
      · exact remembered
      · exact absurd terminates (paused other given)
  · have other : ∀ req, message ≠ .request req := fun req same => isRequest ⟨req, same⟩
    cases (processMessage_not_request environment answers message _ other).symm.trans processed

end V2

section

variable {σ : Type} {contexts later : Heap V2.EVSessionContext} {peer : PeerState σ}
  {connection : PeerConnection σ}

/-- What a context has of an id. -/
def Names (contexts : Heap V2.EVSessionContext) (context : Option Nat) (sessionId : String) :
    Prop :=
  ∃ address, context = some address ∧ (contexts.read address).sessionId = some sessionId

/-- The context of the connection is one of these. -/
def PeerConnection.Within (contexts : Heap V2.EVSessionContext) (connection : PeerConnection σ) :
    Prop :=
  ∀ address, connection.context = some address → address < contexts.size

/-- A session of ISO 15118-2 that has been set up is named by its context while it runs, and
when it pauses. -/
def PeerConnection.Remembers (contexts : Heap V2.EVSessionContext)
    (connection : PeerConnection σ) : Prop :=
  ∀ session, connection.session = .v2 session →
    match connection.stage with
    | .running => session.ended = false ∧
        (session.world.currentState.own.name = .sessionSetup ∨
          Names contexts connection.context session.world.session.sessionId)
    | .stopping stopAction => stopAction = .pause →
        Names contexts connection.context session.world.session.sessionId
    | .stopped stopAction => stopAction = .pause →
        Names contexts connection.context session.world.session.sessionId

/-- What the handler has of an EV. -/
structure PeerState.Remembers (peer : PeerState σ) : Prop where
  random : ∀ address, RandomId (some (peer.contexts.read address))
  within : ∀ connection ∈ peer.connections, connection.Within peer.contexts
  connections : ∀ connection ∈ peer.connections, connection.Remembers peer.contexts

/-- Contexts are added, and those that were there go on to have their id. -/
structure KeepsIds (contexts later : Heap V2.EVSessionContext) : Prop where
  size : contexts.size ≤ later.size
  same : ∀ address < contexts.size,
    (later.read address).sessionId = (contexts.read address).sessionId

theorem KeepsIds.refl (contexts : Heap V2.EVSessionContext) : KeepsIds contexts contexts :=
  ⟨le_rfl, fun _ _ => rfl⟩

theorem keepsIds_new (contexts : Heap V2.EVSessionContext) (context : V2.EVSessionContext) :
    KeepsIds contexts (contexts.new context) where
  size := Nat.le_succ _
  same address below := by rw [Heap.read_new_of_ne (Nat.ne_of_lt below)]

theorem KeepsIds.within (keeps : KeepsIds contexts later) (within : connection.Within contexts) :
    connection.Within later :=
  fun address refers => (within address refers).trans_le keeps.size

theorem KeepsIds.names (keeps : KeepsIds contexts later) (within : connection.Within contexts)
    {sessionId : String} (names : Names contexts connection.context sessionId) :
    Names later connection.context sessionId := by
  obtain ⟨address, refers, named⟩ := names
  exact ⟨address, refers, (keeps.same address (within address refers)).trans named⟩

theorem KeepsIds.remembers (keeps : KeepsIds contexts later) (within : connection.Within contexts)
    (remembers : connection.Remembers contexts) : connection.Remembers later := by
  intro session isV2
  have before := remembers session isV2
  revert before
  cases connection.stage with
  | running => exact fun before => before.imp_right (Or.imp_right (keeps.names within))
  | stopping stopAction => exact fun before pauses => keeps.names within (before pauses)
  | stopped stopAction => exact fun before pauses => keeps.names within (before pauses)

/-- The id in a context is changed only where a new context is put. -/
theorem read_effect (peer : PeerState σ) (connection : PeerConnection σ) (effect : ContextEffect)
    (address : Nat) :
    ((peer.effect connection effect).1.read address).sessionId =
        (peer.contexts.read address).sessionId ∨
      address = peer.contexts.size ∧ ∃ sessionId, effect = .renews sessionId ∧
        ((peer.effect connection effect).1.read address).sessionId = some sessionId := by
  cases effect with
  | keeps => exact .inl rfl
  | clears => exact .inl rfl
  | renews sessionId =>
      by_cases new : address = peer.contexts.size
      · subst new
        right
        exact ⟨rfl, sessionId, rfl, congrArg V2.EVSessionContext.sessionId Heap.read_new⟩
      · left
        exact congrArg V2.EVSessionContext.sessionId (Heap.read_new_of_ne new)
  | assigns authOptions chargeService =>
      left
      obtain ⟨session, context, stage⟩ := connection
      cases context with
      | none => rfl
      | some written =>
          by_cases same : address = written
          · subst same
            have object : (peer.effect ⟨session, some address, stage⟩
                (.assigns authOptions chargeService)).1.read address =
                { peer.contexts.read address with
                  authOptions := authOptions
                  chargeService := chargeService } := Heap.read_write
            rw [object]
          · exact congrArg V2.EVSessionContext.sessionId (Heap.read_write_of_ne same)

theorem keepsIds_effect (peer : PeerState σ) (connection : PeerConnection σ)
    (effect : ContextEffect) : KeepsIds peer.contexts (peer.effect connection effect).1 where
  size := by
    cases effect with
    | keeps => exact le_rfl
    | renews sessionId => exact Nat.le_succ _
    | clears => exact le_rfl
    | assigns authOptions chargeService =>
        obtain ⟨session, context, stage⟩ := connection
        cases context <;> exact le_rfl
  same address below := by
    rcases read_effect peer connection effect address with same | ⟨new, _⟩
    · exact same
    · exact absurd new (Nat.ne_of_lt below)

/-- A context is still one of a session that has been given its id. -/
theorem random_effect {effect : ContextEffect}
    (random : ∀ address, RandomId (some (peer.contexts.read address)))
    (renews : ∀ sessionId, effect = .renews sessionId → IsRandomSessionId sessionId)
    (address : Nat) : RandomId (some ((peer.effect connection effect).1.read address)) := by
  rintro _ sessionId ⟨⟩ names
  rcases read_effect peer connection effect address with same | ⟨_, given, renewed, new⟩
  · exact random address _ sessionId rfl (same.symm.trans names)
  · have same : given = sessionId := Option.some.inj (new.symm.trans names)
    rw [← same]
    exact renews given renewed

theorem within_effect {effect : ContextEffect} (within : connection.Within peer.contexts)
    {address : Nat} (refers : (peer.effect connection effect).2 = some address) :
    address < (peer.effect connection effect).1.size := by
  cases effect with
  | keeps => exact within address refers
  | clears => cases refers
  | renews sessionId =>
      cases refers
      exact Nat.lt_succ_self _
  | assigns authOptions chargeService =>
      obtain ⟨session, context, stage'⟩ := connection
      cases context with
      | none => cases refers
      | some written =>
          cases refers
          exact within _ rfl

/-- What a remembered session is named by. -/
theorem names_of_remembered {environment : V2.Environment} {session found : V2.SECCSession}
    {input : Option V2.Received} {evDataContext : EVDataContext}
    {evseDataContext : EVSEDataContext}
    (finds : found = (session.withContext
      (connection.context.map peer.contexts.read)).withController evDataContext
        evseDataContext ⟨⟩)
    (remembered : V2.Remembered found input
      ((V2.machine environment).rcv found input).world.session) :
    Names (peer.effect connection (V2.contextEffect environment found input)).1
      (peer.effect connection (V2.contextEffect environment found input)).2
      ((V2.machine environment).rcv found input).world.session.sessionId := by
  obtain ⟨left, remembered⟩ := remembered
  unfold V2.contextEffect
  cases renews : V2.renewedId found input with
  | some sessionId =>
      rw [renews] at remembered
      have object : (peer.effect connection (.renews sessionId)).1.read peer.contexts.size =
          { sessionId := some sessionId } := Heap.read_new
      refine ⟨peer.contexts.size, rfl, ?_⟩
      dsimp only at remembered ⊢
      rw [object, remembered]
  | none =>
      rw [renews] at remembered
      obtain ⟨context, has, names⟩ := remembered
      rw [finds] at has
      obtain ⟨address, refers, rfl⟩ := Option.map_eq_some_iff.mp has
      cases next : ((V2.machine environment).rcv found input).world.session.evSessionContext with
      | none => exact absurd next left
      | some assigned =>
          dsimp only
          have written : (peer.effect connection
              (.assigns assigned.authOptions assigned.chargeService)).2 = some address := by
            unfold PeerState.effect
            rw [refers]
          refine ⟨address, written, ?_⟩
          rcases read_effect peer connection
            (.assigns assigned.authOptions assigned.chargeService) address with
            same | ⟨_, _, different, _⟩
          · exact same.trans names
          · cases different

end

section

variable {σ : Type} [DiagnosticService σ] {station : Station} {before after : PeerState σ}
  {connection : PeerConnection σ} {event : Event} {input : Input} {iteration : Iteration σ}

omit [DiagnosticService σ] in
/-- What a receive loop finds is a session that has an id, if it has been set up. -/
theorem hasId_of_remembers {session found : V2.SECCSession} {evDataContext : EVDataContext}
    {evseDataContext : EVSEDataContext} (remembers : connection.Remembers before.contexts)
    (isV2 : connection.session = .v2 session) (running : connection.stage = .running)
    (finds : found = (session.withContext
      (connection.context.map before.contexts.read)).withController evDataContext
        evseDataContext ⟨⟩) : found.ended = false ∧ V2.HasId found := by
  have remembered := remembers session isV2
  rw [running] at remembered
  obtain ⟨goesOn, named⟩ := remembered
  subst finds
  refine ⟨goesOn, named.imp_right ?_⟩
  rintro ⟨address, refers, names⟩
  exact ⟨before.contexts.read address, congrArg (Option.map before.contexts.read) refers, names⟩

theorem random_of_renews {context : Option V2.EVSessionContext}
    {session : SECCCommunicationSession σ} {sessionId : String}
    (step : SessionStep station context session input iteration)
    (renews : iteration.effect = .renews sessionId) :
    IsRandomSessionId sessionId := by
  cases step with
  | receiveV2 finds random =>
      unfold V2.contextEffect at renews
      split at renews
      next renewed =>
        cases renews
        exact V2.randomId_of_renewedId random renewed
      next => split at renews <;> cases renews
  | _ => cases renews

/-- A session that goes on or pauses is remembered. -/
theorem remembers_of_sessionStep (remembers : connection.Remembers before.contexts)
    (running : connection.stage = .running)
    (step : SessionStep station (connection.context.map before.contexts.read) connection.session
      input iteration) :
    PeerConnection.Remembers (before.effect connection iteration.effect).1
      { session := iteration.session
        context := (before.effect connection iteration.effect).2
        stage := .after iteration.stopAction } := by
  intro session isV2
  generalize before' : connection.session = started at step
  cases step with
  | agreeV2 agrees new secured =>
      cases isV2
      refine ⟨new.2.2.2, .inl ?_⟩
      rw [new.1]
      rfl
  | @receiveV2 _ found received evDataContext evseDataContext finds random =>
      cases isV2
      obtain ⟨goesOn, hasId⟩ := hasId_of_remembers remembers before' running finds
      dsimp only
      cases stops : (V2.machine station.v2).stopNotification (·.session.stopReason) found.world
        received with
      | none =>
          have goesOn' := SessionStateMachine.stopNotification_eq_none_iff.mp stops
          exact ⟨goesOn', .inr (names_of_remembered finds
            (V2.remembered_of_step hasId ⟨goesOn, rfl⟩ goesOn'))⟩
      | some notification =>
          intro pauses
          exact names_of_remembered finds (V2.remembered_of_pause hasId stops pauses)
  | _ => cases isV2

omit [DiagnosticService σ] in
theorem keepsIds_connected (peer : PeerState σ) (isTls resumable : Bool) :
    KeepsIds peer.contexts (peer.connected isTls resumable).contexts := by
  unfold PeerState.connected
  dsimp only
  split
  · exact .refl _
  · exact keepsIds_new _ _

omit [DiagnosticService σ] in
/-- The context that a connection takes over is one of those that are there. -/
theorem within_of_inherited {resumable : Bool} {address : Nat} (remembers : before.Remembers)
    (inherits : before.inherited resumable = some address) : address < before.contexts.size := by
  unfold PeerState.inherited at inherits
  split at inherits
  · obtain ⟨connection, registered, refers⟩ := Option.bind_eq_some_iff.mp inherits
    obtain ⟨number, _, created⟩ := Option.bind_eq_some_iff.mp registered
    exact remembers.within connection (List.mem_of_getElem? created) address refers
  · cases inherits

omit [DiagnosticService σ] in
theorem remembers_connected (remembers : before.Remembers) (isTls resumable : Bool) :
    (before.connected isTls resumable).Remembers where
  random address := by
    unfold PeerState.connected
    dsimp only
    split
    · exact remembers.random address
    · by_cases new : address = before.contexts.size
      · rw [new, Heap.read_new]
        exact randomId_new
      · rw [Heap.read_new_of_ne new]
        exact remembers.random address
  within connection listed := by
    rcases List.mem_append.mp listed with earlier | new
    · exact (keepsIds_connected before isTls resumable).within
        (remembers.within connection earlier)
    · cases List.mem_singleton.mp new
      rintro _ ⟨⟩
      unfold PeerState.connected
      dsimp only
      cases inherits : before.inherited resumable with
      | none => exact Nat.lt_succ_self _
      | some address => exact within_of_inherited remembers inherits
  connections connection listed := by
    rcases List.mem_append.mp listed with earlier | new
    · exact (keepsIds_connected before isTls resumable).remembers
        (remembers.within connection earlier) (remembers.connections connection earlier)
    · cases List.mem_singleton.mp new
      intro session isV2
      cases isV2

theorem keepsIds_of_peerStep (step : PeerStep station before event after) :
    KeepsIds before.contexts after.contexts := by
  cases step with
  | connect isTls resumable => exact keepsIds_connected before isTls resumable
  | receive created running step => exact keepsIds_effect before _ _
  | stop created stopping => exact .refl _

theorem remembers_of_peerStep (remembers : before.Remembers)
    (step : PeerStep station before event after) : after.Remembers := by
  have keeps := keepsIds_of_peerStep step
  cases step with
  | connect isTls resumable => exact remembers_connected remembers isTls resumable
  | @receive number connection input iteration created running step =>
      have listed := List.mem_of_getElem? created
      constructor
      · exact random_effect remembers.random fun sessionId => random_of_renews step
      · intro other listed'
        rcases List.mem_or_eq_of_mem_set listed' with earlier | rfl
        · exact keeps.within (remembers.within other earlier)
        · exact fun address => within_effect (remembers.within connection listed)
      · intro other listed'
        rcases List.mem_or_eq_of_mem_set listed' with earlier | rfl
        · exact keeps.remembers (remembers.within other earlier)
            (remembers.connections other earlier)
        · exact remembers_of_sessionStep (remembers.connections connection listed) running step
  | @stop number connection stopAction created stopping =>
      have listed := List.mem_of_getElem? created
      constructor
      · exact remembers.random
      · intro other listed'
        rcases List.mem_or_eq_of_mem_set listed' with earlier | rfl
        · exact remembers.within other earlier
        · exact remembers.within connection listed
      · intro other listed'
        rcases List.mem_or_eq_of_mem_set listed' with earlier | rfl
        · exact remembers.connections other earlier
        · intro session isV2
          have paused := remembers.connections connection listed session isV2
          rw [stopping] at paused
          exact paused

theorem remembers_of_run {history : List Event} {peer : PeerState σ}
    (run : Run (PeerStep station) {} history peer) : peer.Remembers := by
  have initial : ({} : PeerState σ).Remembers := by
    constructor
    · intro address
      exact randomId_new
    · intro connection listed
      cases listed
    · intro connection listed
      cases listed
  exact run.invariant initial fun _ _ _ => remembers_of_peerStep

end

end Iso15118.Secc
