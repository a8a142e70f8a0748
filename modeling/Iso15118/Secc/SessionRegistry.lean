import Iso15118.Library.Effect
import Iso15118.Library.Run
import Iso15118.Shared.Exceptions
import Iso15118.Shared.States
import Mathlib.Logic.Function.Basic

/-!
# The registry of the sessions

`CommunicationSessionHandler` of `secc/comm_session_handler.py` for any number of peers: the
sessions by the address of their peer, the queue of notifications, and the tasks that are
cancelled when a session has ended. Its answers to a notification are taken in one step. What
may happen while it waits in between is that notifications arrive and sessions end, which does
not touch what it works on.
-/

namespace Iso15118.Secc.Registry

open Effect Transition
open Iso15118.Shared

/-! ## Sessions and notifications -/

/-- `get_extra_info("peername")` of a connection. -/
structure Peername where
  host : String
  port : Nat
  deriving DecidableEq

/-- A Python value that is looked up in the dictionary of sessions. Its keys are hosts. -/
inductive Key where
  | host (address : String)
  | peername (address : Peername)
  deriving DecidableEq

/-- A session with the task of its `start`, and with its receive loop, which is a task of its
own that `asyncio.wait` does not cancel when the one that waits is cancelled. -/
structure SessionTask where
  peer : Peername
  receiving : Bool := true
  cancelled : Bool := false
  eof : Bool := false
  deriving DecidableEq

/-- The task of `start` has not ended yet. It ends with the receive loop. -/
def SessionTask.Pending (task : SessionTask) : Prop :=
  task.receiving = true ∧ task.cancelled = false

instance (task : SessionTask) : Decidable task.Pending :=
  inferInstanceAs (Decidable (_ ∧ _))

/-- `task.cancel()`, which does nothing to a task that has ended. -/
def SessionTask.cancel (task : SessionTask) : SessionTask :=
  if task.Pending then { task with cancelled := true } else task

/-- The task of the TCP server. To await it raises what it has ended with, if that is an error. -/
structure ServerTask where
  failed : Bool := false
  deriving DecidableEq

/-- What the handler finds in its queue. A `StopNotification` has the address of the peer only;
the session that has put it is written down to tell whose it is. -/
inductive Notification where
  | udpPacketNotification (isSdpRequest : Bool)
  | tcpClientNotification (ipAddress : Peername)
  | stopNotification (session : Nat) (peerIpAddress : Peername) (stopAction : SessionStopAction)
  deriving DecidableEq

/-- The attributes of the handler, and all sessions that it has created, by their number. -/
structure CommunicationSessionHandler where
  sessions : List SessionTask := []
  commSessions : Key → Option Nat := fun _ => none
  tcpServerHandler : Option ServerTask := none
  currentPeerIp : Option Key := none
  rcvQueue : List Notification := []

/-- A method of the handler. -/
abbrev Method := EStateM PyError CommunicationSessionHandler

/-! ## Methods -/

/-- `await cancel_task(self.tcp_server_handler)`. There is no `cancel` of `None`. -/
def cancelTcpServer : Method PUnit := do
  let handler ← get
  match handler.tcpServerHandler with
  | none => throw .attributeError
  | some task => if task.failed then throw .controllerError else pure ⟨⟩

/-- `comm_sessions[key]`. -/
def commSession (key : Key) : Method Nat := do
  let handler ← get
  match handler.commSessions key with
  | some session => pure session
  | none => throw .keyError

/-- `await cancel_task(task)` for the task of a session. -/
def cancelSession (session : Nat) : Method PUnit :=
  modify fun handler =>
    { handler with sessions := handler.sessions.modify session SessionTask.cancel }

/-- `comm_sessions[key] = (comm_session, task)`, or its deletion. -/
def setCommSession (key : Key) (session : Option Nat) : Method PUnit :=
  modify fun handler =>
    { handler with commSessions := Function.update handler.commSessions key session }

/-- `end_current_session`. -/
def endCurrentSession (peerIpAddress : Peername) (sessionStopAction : SessionStopAction) :
    Method PUnit := do
  try
    cancelTcpServer
    let session ← commSession (.host peerIpAddress.host)
    cancelSession session
  catch _ => pure ⟨⟩
  let _ ← commSession (.host peerIpAddress.host)
  if sessionStopAction = .terminate then
    setCommSession (.host peerIpAddress.host) none
  else
    pure ⟨⟩
  modify fun handler => { handler with tcpServerHandler := none, currentPeerIp := none }

/-- What `get_evse_id` answers while a session is resumed, and when a new one is created. -/
structure EvseIds where
  resumed : Except PyError PUnit := .ok ⟨⟩
  created : Except PyError PUnit := .ok ⟨⟩

/-- A session for a connection, and its task. -/
def createSession (ipAddress : Peername) : Method PUnit := do
  let handler ← get
  set { handler with sessions := handler.sessions ++ [({ peer := ipAddress } : SessionTask)] }
  setCommSession (.host ipAddress.host) (some handler.sessions.length)
  modify fun handler => { handler with currentPeerIp := some (.peername ipAddress) }

/-- The branch for a connection. The session of the peer that is there gives its EV session
context to the new one. -/
def onTcpClientNotification (evseIds : EvseIds) (ipAddress : Peername) : Method PUnit := do
  try
    let _ ← commSession (.host ipAddress.host)
    Effect.ofExcept evseIds.resumed
  catch exception =>
    endUnresumable exception
    Effect.ofExcept evseIds.created
  createSession ipAddress
where
  endUnresumable (exception : PyError) : Method PUnit :=
    if exception = .connectionResetError then
      endCurrentSession ipAddress .terminate
    else if exception = .keyError then
      pure ⟨⟩
    else
      throw exception

/-- `get_from_rcv_queue` for one notification. -/
def onNotification (evseIds : EvseIds) : Notification → Method PUnit
  | .udpPacketNotification isSdpRequest =>
      if isSdpRequest then
        modify fun handler => { handler with tcpServerHandler := some {} }
      else
        pure ⟨⟩
  | .tcpClientNotification ipAddress => onTcpClientNotification evseIds ipAddress
  | .stopNotification _ peerIpAddress stopAction => do
      try
        endCurrentSession peerIpAddress stopAction
      catch exception =>
        if exception = .keyError then pure ⟨⟩ else throw exception

/-- `close_session`. A key that is not there is passed over. -/
def CommunicationSessionHandler.closeSession (handler : CommunicationSessionHandler) :
    CommunicationSessionHandler :=
  match handler.currentPeerIp.bind handler.commSessions with
  | some session =>
      { handler with
        sessions := handler.sessions.modify session fun task => { task with eof := true } }
  | none => handler

/-! ## Runs -/

/-- What happens in the event loop of the SECC. -/
inductive Event where
  | udpPacketReceived (isSdpRequest : Bool)
  | tcpClientConnected (ipAddress : Peername)
  | tcpServerFailed
  | sessionStopped (session : Nat) (stopAction : SessionStopAction)
  | handled (notification : Notification) (evseIds : EvseIds)
  | closeSession

/-- The notification is put into the queue. -/
def CommunicationSessionHandler.put (handler : CommunicationSessionHandler)
    (notification : Notification) : CommunicationSessionHandler :=
  { handler with rcvQueue := handler.rcvQueue ++ [notification] }

/-- The receive loop of a session has ended. -/
def CommunicationSessionHandler.stopReceiving (handler : CommunicationSessionHandler)
    (session : Nat) : CommunicationSessionHandler :=
  { handler with
    sessions := handler.sessions.modify session fun task => { task with receiving := false } }

/-- The events and what they change. A receive loop returns once it has put its notification.
An exception other than those that are caught ends the handler. -/
inductive Step : CommunicationSessionHandler → Event → CommunicationSessionHandler → Prop where
  | udpPacketReceived (handler : CommunicationSessionHandler) (isSdpRequest : Bool) :
      Step handler (.udpPacketReceived isSdpRequest)
        (handler.put (.udpPacketNotification isSdpRequest))
  | tcpClientConnected (handler : CommunicationSessionHandler) (ipAddress : Peername) :
      Step handler (.tcpClientConnected ipAddress) (handler.put (.tcpClientNotification ipAddress))
  | tcpServerFailed (handler : CommunicationSessionHandler) :
      Step handler .tcpServerFailed
        { handler with
          tcpServerHandler := handler.tcpServerHandler.map fun _ => { failed := true } }
  | sessionStopped (handler : CommunicationSessionHandler) (session : Nat) (task : SessionTask)
      (stopAction : SessionStopAction) (created : handler.sessions[session]? = some task)
      (receiving : task.receiving = true) :
      Step handler (.sessionStopped session stopAction)
        ((handler.stopReceiving session).put (.stopNotification session task.peer stopAction))
  | handled (handler after : CommunicationSessionHandler) (notification : Notification)
      (rest : List Notification) (evseIds : EvseIds)
      (queued : handler.rcvQueue = notification :: rest)
      (handles : onNotification evseIds notification { handler with rcvQueue := rest } =
        .ok ⟨⟩ after) :
      Step handler (.handled notification evseIds) after
  | closeSession (handler : CommunicationSessionHandler) :
      Step handler .closeSession handler.closeSession

/-! ## What the methods do -/

/-- To cancel the task of the TCP server raises nothing. -/
def CommunicationSessionHandler.CancelsTcpServer (handler : CommunicationSessionHandler) : Prop :=
  ∃ task, handler.tcpServerHandler = some task ∧ task.failed = false

instance (handler : CommunicationSessionHandler) : Decidable handler.CancelsTcpServer :=
  match server : handler.tcpServerHandler with
  | none => .isFalse (by simp [CommunicationSessionHandler.CancelsTcpServer, server])
  | some task =>
      decidable_of_iff (task.failed = false)
        (by simp [CommunicationSessionHandler.CancelsTcpServer, server])

/-- The handler after the end of a session that is registered. -/
def CommunicationSessionHandler.ended (handler : CommunicationSessionHandler)
    (peerIpAddress : Peername) (stopAction : SessionStopAction) (registered : Nat) :
    CommunicationSessionHandler where
  sessions :=
    if handler.CancelsTcpServer then handler.sessions.modify registered SessionTask.cancel
    else handler.sessions
  commSessions :=
    if stopAction = .terminate then
      Function.update handler.commSessions (.host peerIpAddress.host) none
    else
      handler.commSessions
  tcpServerHandler := none
  currentPeerIp := none
  rcvQueue := handler.rcvQueue

theorem commSession_apply (key : Key) (handler : CommunicationSessionHandler) :
    commSession key handler =
      match handler.commSessions key with
      | some session => .ok session handler
      | none => .error .keyError handler := by
  unfold commSession
  rw [get_bind_apply]
  cases handler.commSessions key with
  | some session => rfl
  | none => rfl

theorem cancelTcpServer_apply (handler : CommunicationSessionHandler) :
    if handler.CancelsTcpServer then cancelTcpServer handler = .ok ⟨⟩ handler
    else ∃ exception, cancelTcpServer handler = .error exception handler := by
  have starts : cancelTcpServer handler =
      (match handler.tcpServerHandler with
      | none => throw .attributeError
      | some task => if task.failed then throw .controllerError else pure ⟨⟩ : Method PUnit)
        handler := by
    rfl
  cases server : handler.tcpServerHandler with
  | none =>
      rw [if_neg (by simp [CommunicationSessionHandler.CancelsTcpServer, server]), starts, server]
      exact ⟨_, rfl⟩
  | some task =>
      cases failed : task.failed with
      | true =>
          rw [if_neg (by simp [CommunicationSessionHandler.CancelsTcpServer, server, failed]),
            starts, server]
          simp only [failed, ↓reduceIte]
          exact ⟨.controllerError, by rfl⟩
      | false =>
          rw [if_pos ⟨task, server, failed⟩, starts, server]
          simp only [failed, Bool.false_eq_true, ↓reduceIte]
          rfl

/-- Without an entry for the host there is a `KeyError`, and else the session under the host is
ended. -/
theorem endCurrentSession_eq (peerIpAddress : Peername) (stopAction : SessionStopAction)
    (handler : CommunicationSessionHandler) :
    endCurrentSession peerIpAddress stopAction handler =
      match handler.commSessions (.host peerIpAddress.host) with
      | some registered => .ok ⟨⟩ (handler.ended peerIpAddress stopAction registered)
      | none => .error .keyError handler := by
  have cancels := cancelTcpServer_apply handler
  unfold endCurrentSession
  rw [bind_apply, tryCatch_apply, bind_apply]
  cases registered : handler.commSessions (.host peerIpAddress.host) with
  | none =>
      split at cancels
      next server => simp only [cancels, bind_apply, commSession_apply, registered, pure_apply]
      next server =>
        obtain ⟨exception, cancels⟩ := cancels
        simp only [cancels, bind_apply, commSession_apply, registered, pure_apply]
  | some session =>
      unfold CommunicationSessionHandler.ended
      split at cancels
      next server =>
        simp only [cancels, bind_apply, commSession_apply, registered, cancelSession,
          modify_apply, server, ↓reduceIte]
        cases stopAction <;> rfl
      next server =>
        obtain ⟨exception, cancels⟩ := cancels
        simp only [cancels, bind_apply, commSession_apply, registered, pure_apply, server,
          ↓reduceIte]
        cases stopAction <;> rfl

/-- The handler after a session for a connection was created. -/
def CommunicationSessionHandler.connected (handler : CommunicationSessionHandler)
    (ipAddress : Peername) : CommunicationSessionHandler where
  sessions := handler.sessions ++ [({ peer := ipAddress } : SessionTask)]
  commSessions :=
    Function.update handler.commSessions (.host ipAddress.host) (some handler.sessions.length)
  tcpServerHandler := handler.tcpServerHandler
  currentPeerIp := some (.peername ipAddress)
  rcvQueue := handler.rcvQueue

theorem wp_commSession (key : Key) {onOk : Nat → CommunicationSessionHandler → Prop}
    {onError : PyError → CommunicationSessionHandler → Prop}
    {handler : CommunicationSessionHandler} :
    wp (commSession key) onOk onError handler =
      match handler.commSessions key with
      | some session => onOk session handler
      | none => onError .keyError handler := by
  unfold wp
  rw [commSession_apply]
  cases handler.commSessions key with
  | some session => rfl
  | none => rfl

theorem wp_endCurrentSession (peerIpAddress : Peername) (stopAction : SessionStopAction)
    {onOk : PUnit → CommunicationSessionHandler → Prop}
    {onError : PyError → CommunicationSessionHandler → Prop}
    {handler : CommunicationSessionHandler} :
    wp (endCurrentSession peerIpAddress stopAction) onOk onError handler =
      match handler.commSessions (.host peerIpAddress.host) with
      | some registered => onOk ⟨⟩ (handler.ended peerIpAddress stopAction registered)
      | none => onError .keyError handler := by
  unfold wp
  rw [endCurrentSession_eq]
  cases handler.commSessions (.host peerIpAddress.host) with
  | some session => rfl
  | none => rfl

/-- A session is created for a connection unless an exception is raised. The session under the
host is ended before if it cannot be resumed. -/
theorem onTcpClientNotification_cases {evseIds : EvseIds} {ipAddress : Peername}
    {handler after : CommunicationSessionHandler}
    (handles : onTcpClientNotification evseIds ipAddress handler = .ok ⟨⟩ after) :
    after = handler.connected ipAddress ∨
      ∃ registered, handler.commSessions (.host ipAddress.host) = some registered ∧
        after = (handler.ended ipAddress .terminate registered).connected ipAddress := by
  have ends : wp (onTcpClientNotification evseIds ipAddress)
      (fun _ next => next = handler.connected ipAddress ∨
        ∃ registered, handler.commSessions (.host ipAddress.host) = some registered ∧
          next = (handler.ended ipAddress .terminate registered).connected ipAddress)
      (fun _ _ => True) handler := by
    unfold onTcpClientNotification onTcpClientNotification.endUnresumable
    rw [wp_bind, wp_tryCatch, wp_bind, wp_commSession]
    cases registered : handler.commSessions (.host ipAddress.host) with
    | none =>
        dsimp only
        rw [if_neg (by decide), if_pos rfl, wp_bind, wp_pure, wp_ofExcept]
        exact ⟨fun _ _ => .inl rfl, fun _ _ => trivial⟩
    | some session =>
        dsimp only
        rw [wp_ofExcept]
        constructor
        · intro _ _
          exact .inl rfl
        · intro exception _
          rw [wp_bind]
          split
          next =>
            rw [wp_endCurrentSession, registered]
            dsimp only
            rw [wp_ofExcept]
            exact ⟨fun _ _ => .inr ⟨session, rfl, rfl⟩, fun _ _ => trivial⟩
          next =>
            split
            next =>
              rw [wp_pure, wp_ofExcept]
              exact ⟨fun _ _ => .inl rfl, fun _ _ => trivial⟩
            next => trivial
  have created := post_of_eq_ok ends handles
  exact created

/-- The handler after a stop notification was handled. -/
theorem onStopNotification_eq (evseIds : EvseIds) (session : Nat) (peerIpAddress : Peername)
    (stopAction : SessionStopAction) (handler : CommunicationSessionHandler) :
    onNotification evseIds (.stopNotification session peerIpAddress stopAction) handler =
      .ok ⟨⟩ (match handler.commSessions (.host peerIpAddress.host) with
        | some registered => handler.ended peerIpAddress stopAction registered
        | none => handler) := by
  unfold onNotification
  dsimp only
  rw [tryCatch_apply, endCurrentSession_eq]
  cases handler.commSessions (.host peerIpAddress.host) with
  | some registered => rfl
  | none => rfl

/-- A datagram starts a TCP server or does nothing. -/
theorem onUdpPacketNotification_eq (evseIds : EvseIds) (isSdpRequest : Bool)
    (handler : CommunicationSessionHandler) :
    onNotification evseIds (.udpPacketNotification isSdpRequest) handler =
      .ok ⟨⟩ (if isSdpRequest then { handler with tcpServerHandler := some {} } else handler) := by
  cases isSdpRequest with
  | true => rfl
  | false => rfl

/-! ## What is registered -/

/-- Each session that was there is still there, with its peer, and none of them receives
again. -/
def SessionTask.Lasts (before after : List SessionTask) : Prop :=
  ∀ (session : Nat) (task : SessionTask), before[session]? = some task →
    ∃ later, after[session]? = some later ∧ later.peer = task.peer ∧
      (task.receiving = false → later.receiving = false)

theorem SessionTask.Lasts.refl (tasks : List SessionTask) : SessionTask.Lasts tasks tasks :=
  fun _ task created => ⟨task, created, rfl, id⟩

/-- A change of one session that leaves it its peer and does not make it receive. -/
theorem SessionTask.Lasts.modify {change : SessionTask → SessionTask}
    (peer : ∀ task, (change task).peer = task.peer)
    (stays : ∀ task, task.receiving = false → (change task).receiving = false)
    (tasks : List SessionTask) (changed : Nat) :
    SessionTask.Lasts tasks (tasks.modify changed change) := by
  intro session task created
  rw [List.getElem?_modify, created]
  by_cases same : changed = session
  · exact ⟨change task, by simp [same], peer task, stays task⟩
  · exact ⟨task, by simp [same], rfl, id⟩

theorem SessionTask.Lasts.append (tasks created : List SessionTask) :
    SessionTask.Lasts tasks (tasks ++ created) := by
  intro session task there
  have bound := (List.getElem?_eq_some_iff.mp there).1
  exact ⟨task, by rw [List.getElem?_append_left bound]; exact there, rfl, id⟩

@[simp]
theorem SessionTask.cancel_peer (task : SessionTask) : task.cancel.peer = task.peer := by
  unfold SessionTask.cancel
  split <;> rfl

@[simp]
theorem SessionTask.cancel_receiving (task : SessionTask) :
    task.cancel.receiving = task.receiving := by
  unfold SessionTask.cancel
  split <;> rfl

/-- What the registry and the queue say about the sessions: a session is registered under the
host of its peer, and a session whose stop notification is queued has stopped to receive. -/
structure Tracked (handler : CommunicationSessionHandler) : Prop where
  entries : ∀ key session, handler.commSessions key = some session →
    ∃ task, handler.sessions[session]? = some task ∧ key = .host task.peer.host
  stops : ∀ session peer stopAction,
    Notification.stopNotification session peer stopAction ∈ handler.rcvQueue →
      ∃ task, handler.sessions[session]? = some task ∧ task.peer = peer ∧ task.receiving = false

theorem tracked_initial : Tracked {} where
  entries := nofun
  stops := nofun

/-- Sessions that last keep what is said about them, if nothing else is registered or queued. -/
theorem Tracked.of_lasts {before after : CommunicationSessionHandler} (tracked : Tracked before)
    (lasts : SessionTask.Lasts before.sessions after.sessions)
    (entries : ∀ key session, after.commSessions key = some session →
      before.commSessions key = some session)
    (queue : ∀ notification ∈ after.rcvQueue, notification ∈ before.rcvQueue) :
    Tracked after where
  entries := by
    intro key session registered
    obtain ⟨task, created, hosts⟩ := tracked.entries key session (entries key session registered)
    obtain ⟨later, created, peer, -⟩ := lasts session task created
    exact ⟨later, created, by rw [hosts, peer]⟩
  stops := by
    intro session peer stopAction queued
    obtain ⟨task, created, same, ended⟩ := tracked.stops session peer stopAction (queue _ queued)
    obtain ⟨later, created, peer, stays⟩ := lasts session task created
    exact ⟨later, created, peer.trans same, stays ended⟩

theorem lasts_stopReceiving (handler : CommunicationSessionHandler) (session : Nat) :
    SessionTask.Lasts handler.sessions (handler.stopReceiving session).sessions := by
  apply SessionTask.Lasts.modify
  · exact fun _ => rfl
  · exact fun _ _ => rfl

/-- The sessions last when one is ended. -/
theorem lasts_ended (handler : CommunicationSessionHandler) (peerIpAddress : Peername)
    (stopAction : SessionStopAction) (registered : Nat) :
    SessionTask.Lasts handler.sessions
      (handler.ended peerIpAddress stopAction registered).sessions := by
  unfold CommunicationSessionHandler.ended
  dsimp only
  split
  next => exact .modify (fun _ => by simp) (fun _ => by simp) _ _
  next => exact .refl _

/-- Nothing is registered anew when a session is ended. -/
theorem ended_entries {handler : CommunicationSessionHandler} {peerIpAddress : Peername}
    {stopAction : SessionStopAction} {registered : Nat} {key : Key} {session : Nat}
    (there : (handler.ended peerIpAddress stopAction registered).commSessions key = some session) :
    handler.commSessions key = some session := by
  unfold CommunicationSessionHandler.ended at there
  dsimp only at there
  split at there
  next =>
    rw [Function.update_apply] at there
    split at there
    next => cases there
    next => exact there
  next => exact there

theorem Tracked.ended {handler : CommunicationSessionHandler} (tracked : Tracked handler)
    (peerIpAddress : Peername) (stopAction : SessionStopAction) (registered : Nat) :
    Tracked (handler.ended peerIpAddress stopAction registered) :=
  tracked.of_lasts (lasts_ended _ _ _ _) (fun _ _ there => ended_entries there)
    (fun _ queued => queued)

theorem Tracked.connected {handler : CommunicationSessionHandler} (tracked : Tracked handler)
    (ipAddress : Peername) : Tracked (handler.connected ipAddress) where
  entries := by
    intro key session there
    unfold CommunicationSessionHandler.connected at there ⊢
    dsimp only at there ⊢
    rw [Function.update_apply] at there
    split at there
    next same =>
      cases there
      exact ⟨{ peer := ipAddress }, by simp, same⟩
    next =>
      obtain ⟨task, created, hosts⟩ := tracked.entries key session there
      obtain ⟨later, created, peer, -⟩ := SessionTask.Lasts.append _ _ session task created
      exact ⟨later, created, by rw [hosts, peer]⟩
  stops := by
    intro session peer stopAction queued
    obtain ⟨task, created, same, ended⟩ := tracked.stops session peer stopAction queued
    obtain ⟨later, created, peer, stays⟩ := SessionTask.Lasts.append _ _ session task created
    exact ⟨later, created, peer.trans same, stays ended⟩

/-- Every step keeps track of the sessions. -/
theorem Tracked.step {handler after : CommunicationSessionHandler} {event : Event}
    (tracked : Tracked handler) (step : Step handler event after) : Tracked after := by
  cases step with
  | udpPacketReceived isSdpRequest =>
      constructor
      · exact tracked.entries
      · intro session peer stopAction queued
        simp only [CommunicationSessionHandler.put, List.mem_append, List.mem_singleton,
          reduceCtorEq, or_false] at queued
        exact tracked.stops session peer stopAction queued
  | tcpClientConnected ipAddress =>
      constructor
      · exact tracked.entries
      · intro session peer stopAction queued
        simp only [CommunicationSessionHandler.put, List.mem_append, List.mem_singleton,
          reduceCtorEq, or_false] at queued
        exact tracked.stops session peer stopAction queued
  | tcpServerFailed => exact tracked.of_lasts (.refl _) (fun _ _ => id) (fun _ => id)
  | sessionStopped session task stopAction created receiving =>
      have stopped : Tracked (handler.stopReceiving session) :=
        tracked.of_lasts (lasts_stopReceiving handler session) (fun _ _ => id) (fun _ => id)
      constructor
      · exact stopped.entries
      · intro session' peer stopAction' queued
        simp only [CommunicationSessionHandler.put, List.mem_append, List.mem_singleton] at queued
        rcases queued with queued | same
        · exact stopped.stops session' peer stopAction' queued
        · cases same
          refine ⟨{ task with receiving := false }, ?_, rfl, rfl⟩
          simp [CommunicationSessionHandler.put, CommunicationSessionHandler.stopReceiving, created]
  | handled _ notification rest evseIds queued handles =>
      have popped : Tracked { handler with rcvQueue := rest } :=
        tracked.of_lasts (.refl _) (fun _ _ => id) fun notification there => by
          rw [queued]
          exact List.mem_cons_of_mem _ there
      cases notification with
      | udpPacketNotification isSdpRequest =>
          rw [onUdpPacketNotification_eq] at handles
          cases handles
          split
          next => exact popped.of_lasts (.refl _) (fun _ _ => id) (fun _ => id)
          next => exact popped
      | tcpClientNotification ipAddress =>
          rcases onTcpClientNotification_cases handles with same | ⟨registered, -, same⟩
          · rw [same]
            exact popped.connected ipAddress
          · rw [same]
            exact (popped.ended ipAddress .terminate registered).connected ipAddress
      | stopNotification session peerIpAddress stopAction =>
          rw [onStopNotification_eq] at handles
          cases handles
          split
          next registered _ => exact popped.ended peerIpAddress stopAction registered
          next => exact popped
  | closeSession =>
      unfold CommunicationSessionHandler.closeSession
      split
      next session _ =>
        apply tracked.of_lasts
        · apply SessionTask.Lasts.modify
          · exact fun _ => rfl
          · exact fun _ stopped => stopped
        · exact fun _ _ there => there
        · exact fun _ queued => queued
      next => exact tracked

theorem tracked_of_run {history : List Event} {handler : CommunicationSessionHandler}
    (run : Run Step {} history handler) : Tracked handler :=
  run.invariant tracked_initial fun _ _ _ tracked step => tracked.step step

end Iso15118.Secc.Registry
