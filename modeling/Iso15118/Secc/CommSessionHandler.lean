import Iso15118.Library.Heap
import Iso15118.Secc.Din.Loop
import Iso15118.Secc.SupportedAppProtocol
import Iso15118.Secc.V2.SessionContext
import Iso15118.Secc.V20.Loop

/-!
# The sessions of an EV

`CommunicationSessionHandler` of `secc/comm_session_handler.py`, for one peer address.
Every connection has a session object and a receive loop of its own. The dictionary of
sessions has the one of the newest connection, until a stop notification of the peer
removes it; a session that pauses stays there. The next connection takes over the EV session
context of the session that it finds there, whether that one still runs or not, and both
then refer to one object.
-/

namespace Iso15118.Secc

open Transition
open Iso15118.Shared

/-- What all sessions share. -/
structure Station where
  supportedProtocols : List Protocol
  din : Din.Config
  v2 : V2.Environment
  v20 : V20.Environment

/-- `SECCCommunicationSession`, by the protocol that has been agreed on. Only states of
ISO 15118-2 use the EV session context and ask whether the connection is secured. -/
inductive SECCCommunicationSession (σ : Type) where
  | negotiating (isTls : Bool)
  | din (session : Din.SECCSession)
  | v2 (session : V2.SECCSession)
  | v20 (session : V20.SECCSession σ)

def SECCCommunicationSession.sessionId {σ : Type} : SECCCommunicationSession σ → String
  | .negotiating _ => ""
  | .din session => session.world.session.sessionId
  | .v2 session => session.world.session.sessionId
  | .v20 session => session.world.session.sessionId

/-- The receive loop of a session runs, or it has ended and its stop notification waits in
the queue of the handler, or the handler has dealt with the notification. -/
inductive Stage where
  | running
  | stopping (stopAction : SessionStopAction)
  | stopped (stopAction : SessionStopAction)
  deriving DecidableEq

/-- The stage after an iteration of the loop. -/
def Stage.after : Option SessionStopAction → Stage
  | none => .running
  | some stopAction => .stopping stopAction

/-- A session object, with the address of its EV session context. It has none any more once
it has been terminated. -/
structure PeerConnection (σ : Type) where
  session : SECCCommunicationSession σ
  context : Option Nat
  stage : Stage := .running

/-- The EV session contexts, the connections by their number, and the entry of the peer in
the dictionary of sessions. -/
structure PeerState (σ : Type) where
  contexts : Heap V2.EVSessionContext := ⟨fun _ => {}, 0⟩
  connections : List (PeerConnection σ) := []
  commSession : Option Nat := none

/-- What a receive loop gets. -/
inductive Input where
  | supportedAppProtocolReq (req : SupportedAppProtocolReq)
  | noSupportedAppProtocolReq
  | din (input : Option Din.Received)
  | v2 (input : Option V2.Received)
  | v20 (input : Option V20.Received)

/-- What happens to the sessions of a peer. A session is not resumed if the controller
raises a `ConnectionResetError` instead. -/
inductive Event where
  | tcpClientNotification (isTls resumable : Bool)
  | received (connection : Nat) (input : Input)
  | stopNotification (connection : Nat)

/-- `get_random_bytes(8).hex().upper()` is a valid id, and of more than two digits. -/
def IsRandomSessionId (sessionId : String) : Prop :=
  ValidSessionId sessionId ∧ sessionId ≠ "00"

instance (sessionId : String) : Decidable (IsRandomSessionId sessionId) :=
  inferInstanceAs (Decidable (_ ∧ _))

/-- Where the negotiation of the protocol leads. -/
def Station.agreesOn (station : Station) (req : SupportedAppProtocolReq) :
    Option SessionSetupState :=
  match Sap.supportedNsList station.supportedProtocols with
  | .error _ => none
  | .ok supportedNsList =>
      (Sap.select supportedNsList (Sap.sortByPriority req.appProtocol)).map Prod.snd

/-! ## The EV session context -/

/-- What an iteration does to `ev_session_context`: nothing, an assignment of a new object or
of `None`, or an assignment to attributes of the object. -/
inductive ContextEffect where
  | keeps
  | renews (sessionId : String)
  | clears
  | assigns (authOptions : List AuthEnum) (chargeService : Option Shared.V2.ChargeService)

namespace V2

/-- The id of the new context, if `SessionSetup` does not join the session of the old one. -/
def renewedId (session : SECCSession) : Option Received → Option String
  | some ⟨.request ⟨header, .sessionSetupReq _⟩, answers⟩ =>
      if session.world.currentState.own.accepts .sessionSetupReq then
        match SessionSetup.joins session.world.session.evSessionContext header.sessionId with
        | .ok false => some answers.randomSessionId
        | _ => none
      else none
  | _ => none

def contextEffect (environment : Environment) (session : SECCSession) (input : Option Received) :
    ContextEffect :=
  match renewedId session input with
  | some sessionId => .renews sessionId
  | none =>
      match ((machine environment).rcv session input).world.session.evSessionContext with
      | none => .clears
      | some context => .assigns context.authOptions context.chargeService

/-- The session with what its EV session context has. -/
def SECCSession.withContext (session : SECCSession) (context : Option EVSessionContext) :
    SECCSession :=
  { session with
    world :=
      { session.world with
        session := { session.world.session with evSessionContext := context } } }

end V2

/-- The session with what the controller has, which is the same one for all sessions. -/
def SECCSession.withController {ς κ ν μ γ ρ : Type} (session : SECCSession ς κ ν μ γ ρ)
    (evDataContext : EVDataContext) (evseDataContext : EVSEDataContext) (serviceRegistry : ρ) :
    SECCSession ς κ ν μ γ ρ :=
  { session with
    world :=
      { session.world with
        evDataContext := evDataContext
        evseDataContext := evseDataContext
        serviceRegistry := serviceRegistry } }

section

variable {σ : Type}

/-- The contexts, and the one of the connection, after an iteration. -/
def PeerState.effect (peer : PeerState σ) (connection : PeerConnection σ) :
    ContextEffect → Heap V2.EVSessionContext × Option Nat
  | .keeps => (peer.contexts, connection.context)
  | .renews sessionId =>
      (peer.contexts.new { sessionId := some sessionId }, some peer.contexts.size)
  | .clears => (peer.contexts, none)
  | .assigns authOptions chargeService =>
      match connection.context with
      | none => (peer.contexts, none)
      | some address =>
          (peer.contexts.write address
            { peer.contexts.read address with
              authOptions := authOptions
              chargeService := chargeService },
          some address)

/-- What an iteration of a receive loop leads to. -/
structure Iteration (σ : Type) where
  session : SECCCommunicationSession σ
  stopAction : Option SessionStopAction := none
  effect : ContextEffect := .keeps

def PeerState.after (peer : PeerState σ) (number : Nat) (connection : PeerConnection σ)
    (iteration : Iteration σ) : PeerState σ where
  contexts := (peer.effect connection iteration.effect).1
  connections :=
    peer.connections.set number
      { session := iteration.session
        context := (peer.effect connection iteration.effect).2
        stage := .after iteration.stopAction }
  commSession := peer.commSession

/-- The context that the next connection takes over. -/
def PeerState.inherited (peer : PeerState σ) (resumable : Bool) : Option Nat :=
  if resumable then (peer.commSession.bind (peer.connections[·]?)).bind PeerConnection.context
  else none

/-- A session for a connection. Without a context to take over it gets a new one. -/
def PeerState.connected (peer : PeerState σ) (isTls resumable : Bool) : PeerState σ where
  contexts := if (peer.inherited resumable).isSome then peer.contexts else peer.contexts.new {}
  connections :=
    peer.connections ++
      [{ session := .negotiating isTls
         context := some ((peer.inherited resumable).getD peer.contexts.size) }]
  commSession := some peer.connections.length

/-- `end_current_session` for the notification of a session. The entry under the address is
ended, whichever session it is of. The task that is cancelled only waits for the receive loop,
which runs on. -/
def PeerState.stopped (peer : PeerState σ) (number : Nat) (connection : PeerConnection σ)
    (stopAction : SessionStopAction) : PeerState σ :=
  { peer with
    connections := peer.connections.set number { connection with stage := .stopped stopAction }
    commSession := if stopAction = .terminate then none else peer.commSession }

section

variable {peer : PeerState σ} {number other : Nat} {connection : PeerConnection σ}
  {iteration : Iteration σ} {stopAction : SessionStopAction} {isTls resumable : Bool}

@[simp]
theorem PeerState.length_connected :
    (peer.connected isTls resumable).connections.length = peer.connections.length + 1 :=
  List.length_append

@[simp]
theorem PeerState.length_after :
    (peer.after number connection iteration).connections.length = peer.connections.length :=
  List.length_set

@[simp]
theorem PeerState.length_stopped :
    (peer.stopped number connection stopAction).connections.length = peer.connections.length :=
  List.length_set

theorem PeerState.getElem?_connected :
    (peer.connected isTls resumable).connections[peer.connections.length]? = some
      ⟨.negotiating isTls, some ((peer.inherited resumable).getD peer.contexts.size), .running⟩ :=
  List.getElem?_concat_length

theorem PeerState.getElem?_connected_of_lt (earlier : number < peer.connections.length) :
    (peer.connected isTls resumable).connections[number]? = peer.connections[number]? :=
  List.getElem?_append_left earlier

theorem PeerState.getElem?_after (created : number < peer.connections.length) :
    (peer.after number connection iteration).connections[number]? = some
      { session := iteration.session
        context := (peer.effect connection iteration.effect).2
        stage := .after iteration.stopAction } :=
  List.getElem?_set_self created

theorem PeerState.getElem?_after_of_ne (different : number ≠ other) :
    (peer.after number connection iteration).connections[other]? = peer.connections[other]? :=
  List.getElem?_set_ne different

theorem PeerState.getElem?_stopped (created : number < peer.connections.length) :
    (peer.stopped number connection stopAction).connections[number]? =
      some { connection with stage := .stopped stopAction } :=
  List.getElem?_set_self created

theorem PeerState.getElem?_stopped_of_ne (different : number ≠ other) :
    (peer.stopped number connection stopAction).connections[other]? = peer.connections[other]? :=
  List.getElem?_set_ne different

end

/-- A loop that runs on has put no stop notification. -/
theorem stage_running {ι κ ν μ ω : Type} {machine : SessionStateMachine ι κ ν μ ω}
    {stopReason : ω → Option StopNotification} {session : CommSession μ ω} {input : Option ι}
    (running : Stage.after ((machine.stopNotification stopReason session.world input).map
      StopNotification.stopAction) = .running) : (machine.rcv session input).ended = false := by
  apply SessionStateMachine.stopNotification_eq_none_iff.mp
  cases stops : machine.stopNotification stopReason session.world input with
  | none => rfl
  | some notification =>
      rw [stops] at running
      cases running

variable [DiagnosticService σ]

/-- An iteration of the receive loop of a session. What the controller has may have been
changed by other sessions. -/
inductive SessionStep (station : Station) (context : Option V2.EVSessionContext) :
    SECCCommunicationSession σ → Input → Iteration σ → Prop where
  | disagree (isTls : Bool) {req : SupportedAppProtocolReq}
      (disagrees : station.agreesOn req = none) :
      SessionStep station context (.negotiating isTls) (.supportedAppProtocolReq req)
        { session := .negotiating isTls, stopAction := some .terminate }
  | giveUp (isTls : Bool) :
      SessionStep station context (.negotiating isTls) .noSupportedAppProtocolReq
        { session := .negotiating isTls, stopAction := some .terminate }
  | agreeDin (isTls : Bool) {req : SupportedAppProtocolReq} {session : Din.SECCSession}
      (agrees : station.agreesOn req = some .dinSpec) (new : Din.New session) :
      SessionStep station context (.negotiating isTls) (.supportedAppProtocolReq req)
        { session := .din session }
  | agreeV2 {isTls : Bool} {req : SupportedAppProtocolReq} {session : V2.SECCSession}
      (agrees : station.agreesOn req = some .v2) (new : V2.New session)
      (secured : session.world.session.isTls = isTls) :
      SessionStep station context (.negotiating isTls) (.supportedAppProtocolReq req)
        { session := .v2 session }
  | agreeV20 (isTls : Bool) {req : SupportedAppProtocolReq} {session : V20.SECCSession σ}
      (agrees : station.agreesOn req = some .v20) (new : V20.New session)
      (fresh : session.world.session = {}) :
      SessionStep station context (.negotiating isTls) (.supportedAppProtocolReq req)
        { session := .v20 session }
  | receiveDin {session found : Din.SECCSession} {input : Option Din.Received}
      {evDataContext evseDataContext}
      (finds : found = session.withController evDataContext evseDataContext ⟨⟩)
      (random : ∀ received ∈ input, IsRandomSessionId received.answers.randomSessionId) :
      SessionStep station context (.din session) (.din input)
        { session := .din ((Din.machine station.din).rcv found input)
          stopAction := ((Din.machine station.din).stopNotification (·.session.stopReason)
            found.world input).map StopNotification.stopAction }
  | receiveV2 {session found : V2.SECCSession} {input : Option V2.Received}
      {evDataContext evseDataContext}
      (finds : found =
        (session.withContext context).withController evDataContext evseDataContext ⟨⟩)
      (random : ∀ received ∈ input, IsRandomSessionId received.answers.randomSessionId) :
      SessionStep station context (.v2 session) (.v2 input)
        { session := .v2 ((V2.machine station.v2).rcv found input)
          stopAction := ((V2.machine station.v2).stopNotification (·.session.stopReason)
            found.world input).map StopNotification.stopAction
          effect := V2.contextEffect station.v2 found input }
  | receiveV20 {session found : V20.SECCSession σ} {input : Option V20.Received}
      {evDataContext evseDataContext serviceRegistry}
      (finds : found = session.withController evDataContext evseDataContext serviceRegistry)
      (random : ∀ received ∈ input, IsRandomSessionId received.answers.randomSessionId) :
      SessionStep station context (.v20 session) (.v20 input)
        { session := .v20 ((V20.machine station.v20).rcv found input)
          stopAction := ((V20.machine station.v20).stopNotification (·.session.stopReason)
            found.world input).map StopNotification.stopAction }

/-- What the handler and the sessions do. -/
inductive PeerStep (station : Station) : PeerState σ → Event → PeerState σ → Prop where
  | connect (peer : PeerState σ) (isTls resumable : Bool) :
      PeerStep station peer (.tcpClientNotification isTls resumable)
        (peer.connected isTls resumable)
  | receive {peer : PeerState σ} {number : Nat} {connection : PeerConnection σ} {input : Input}
      {iteration : Iteration σ} (created : peer.connections[number]? = some connection)
      (running : connection.stage = .running)
      (step : SessionStep station (connection.context.map peer.contexts.read)
        connection.session input iteration) :
      PeerStep station peer (.received number input) (peer.after number connection iteration)
  | stop {peer : PeerState σ} {number : Nat} {connection : PeerConnection σ}
      {stopAction : SessionStopAction} (created : peer.connections[number]? = some connection)
      (stopping : connection.stage = .stopping stopAction) :
      PeerStep station peer (.stopNotification number)
        (peer.stopped number connection stopAction)

end

/-! ## A sample EV -/

namespace Sample

def station : Station where
  supportedProtocols := [.iso15118_2, .iso15118_20Dc]
  din := Din.Sample.config
  v2 := V2.Sample.environment
  v20 := V20.Sample.environment

/-- A request for one protocol only. -/
def sapReq (protocolNs : String) (majorVersion : Int) : SupportedAppProtocolReq :=
  ⟨[⟨protocolNs, majorVersion, 0, 1, 1, by decide, AppProtocol.priority_one⟩]⟩

def sapReqV2 : SupportedAppProtocolReq := sapReq (Protocol.ns .iso15118_2) 2

def sapReqV20 : SupportedAppProtocolReq := sapReq (Protocol.ns .iso15118_20Dc) 1

/-- A session of ISO 15118-2 at its start. -/
def start (isTls : Bool) : V2.SECCSession :=
  { V2.Sample.start with
    world := { V2.Sample.start.world with session := { isTls := isTls } } }

/-- What a session of ISO 15118-2 does if nothing but its context was changed meanwhile. -/
def iterateV2 (context : Option V2.EVSessionContext) (session : V2.SECCSession)
    (input : Option V2.Received) : Iteration BatteryHealthService :=
  let found := session.withContext context
  { session := .v2 ((V2.machine station.v2).rcv found input)
    stopAction := ((V2.machine station.v2).stopNotification (·.session.stopReason)
      found.world input).map StopNotification.stopAction
    effect := V2.contextEffect station.v2 found input }

def iterateV20 (session : V20.SECCSession BatteryHealthService) (input : Option V20.Received) :
    Iteration BatteryHealthService where
  session := .v20 ((V20.machine station.v20).rcv session input)
  stopAction := ((V20.machine station.v20).stopNotification (·.session.stopReason)
    session.world input).map StopNotification.stopAction

/-- What a session does, if it is for this message. -/
def iterate (context : Option V2.EVSessionContext) :
    SECCCommunicationSession BatteryHealthService → Input →
      Option (Iteration BatteryHealthService)
  | .negotiating isTls, .supportedAppProtocolReq req =>
      if station.agreesOn req = some .v2 then some { session := .v2 (start isTls) }
      else if station.agreesOn req = some .v20 then some { session := .v20 V20.Sample.start }
      else none
  | .v2 session, .v2 input =>
      if ∀ received ∈ input, IsRandomSessionId received.answers.randomSessionId then
        some (iterateV2 context session input)
      else none
  | .v20 session, .v20 input =>
      if ∀ received ∈ input, IsRandomSessionId received.answers.randomSessionId then
        some (iterateV20 session input)
      else none
  | _, _ => none

theorem sessionStep_of_iterate {context : Option V2.EVSessionContext}
    {session : SECCCommunicationSession BatteryHealthService} {input : Input}
    {iteration : Iteration BatteryHealthService}
    (iterates : iterate context session input = some iteration) :
    SessionStep station context session input iteration := by
  unfold iterate at iterates
  split at iterates
  next isTls req =>
    split at iterates
    next agrees =>
      cases iterates
      exact .agreeV2 agrees ⟨rfl, rfl, rfl, rfl⟩ rfl
    next =>
      split at iterates
      next agrees =>
        cases iterates
        exact .agreeV20 isTls agrees V20.Sample.new_start rfl
      next => cases iterates
  next session input =>
    split at iterates
    next random =>
      cases iterates
      exact .receiveV2 rfl random
    next => cases iterates
  next session input =>
    split at iterates
    next random =>
      cases iterates
      exact .receiveV20 rfl random
    next => cases iterates
  next => cases iterates

/-- The peer after an event, if it can happen. -/
def advance (peer : PeerState BatteryHealthService) :
    Event → Option (PeerState BatteryHealthService)
  | .tcpClientNotification isTls resumable => some (peer.connected isTls resumable)
  | .received number input =>
      match peer.connections[number]? with
      | none => none
      | some connection =>
          if connection.stage = .running then
            (iterate (connection.context.map peer.contexts.read) connection.session input).map
              (peer.after number connection)
          else none
  | .stopNotification number =>
      match peer.connections[number]? with
      | none => none
      | some connection =>
          match connection.stage with
          | .stopping stopAction => some (peer.stopped number connection stopAction)
          | _ => none

theorem peerStep_of_advance {peer next : PeerState BatteryHealthService} {event : Event}
    (advances : advance peer event = some next) : PeerStep station peer event next := by
  unfold advance at advances
  split at advances
  next isTls resumable =>
    cases advances
    exact .connect peer isTls resumable
  next number input =>
    split at advances
    next => cases advances
    next connection created =>
      split at advances
      next running =>
        obtain ⟨iteration, iterates, rfl⟩ := Option.map_eq_some_iff.mp advances
        exact .receive created running (sessionStep_of_iterate iterates)
      next => cases advances
  next number =>
    split at advances
    next => cases advances
    next connection created =>
      split at advances
      next stopAction stopping =>
        cases advances
        exact .stop created stopping
      next => cases advances

/-- The peer after a history, if it can happen. -/
def advanceAll : List Event → Option (PeerState BatteryHealthService)
  | [] => some {}
  | event :: past => (advanceAll past).bind fun peer => advance peer event

theorem run_of_advanceAll {history : List Event} {peer : PeerState BatteryHealthService}
    (reached : advanceAll history = some peer) : Run (PeerStep station) {} history peer := by
  induction history generalizing peer with
  | nil =>
      cases reached
      exact .start
  | cons event past ih =>
      obtain ⟨before, reachedBefore, advances⟩ := Option.bind_eq_some_iff.mp reached
      exact .step (ih reachedBefore) (peerStep_of_advance advances)

/-- A session with a contract, which the EV has stopped charging in. -/
def stoppedHistory : List (Option V2.Received) :=
  V2.Sample.request (.powerDeliveryReq (V2.Sample.powerDeliveryReq .stop)) ::
    V2.Sample.chargingStatusHistory

def pauseReq : Option V2.Received := V2.Sample.request (.sessionStopReq ⟨.pause⟩)

/-- The messages of the first connection, which pauses. -/
def pausedEvents : List Event :=
  [.stopNotification 0, .received 0 (.v2 pauseReq)] ++
    stoppedHistory.map (fun input => .received 0 (.v2 input)) ++
    [.received 0 (.supportedAppProtocolReq sapReqV2), .tcpClientNotification true true]

/-- The controller draws another id for the resumed session. -/
def resumeReq : Option V2.Received :=
  V2.Sample.request (.sessionSetupReq ⟨"ev"⟩) { V2.Sample.answers with randomSessionId := "11" }

/-- The EV connects again. -/
def reconnectedEvents (isTls : Bool) : List Event :=
  [.received 1 (.supportedAppProtocolReq sapReqV2), .tcpClientNotification isTls true] ++
    pausedEvents

end Sample

end Iso15118.Secc
