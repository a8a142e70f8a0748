import Iso15118.Secc.SessionRegistry

/-!
# The current peer

`close_session` looks up the address of the peer that has connected last, which is written down
as it comes from the connection, with the port. The sessions are registered by the host alone.
-/

namespace Iso15118.Secc.Registry

open Effect Transition
open Iso15118.Shared

/-- If there is a current peer, then it is a key of the sessions, the session is the one that was
created last, and `close_session` feeds the end of the stream to it. -/
def CurrentPeerKnown (handler : CommunicationSessionHandler) : Prop :=
  ∀ key, handler.currentPeerIp = some key →
    ∃ session, handler.commSessions key = some session ∧
      session + 1 = handler.sessions.length ∧
        ∃ task, handler.closeSession.sessions[session]? = some task ∧ task.eof = true

/-! ## What the notifications say -/

/-- Whether a host is registered after an event. -/
def Event.Registers (host : String) (before : Prop) : Event → Prop
  | .handled (.tcpClientNotification ipAddress) _ => ipAddress.host = host ∨ before
  | .handled (.stopNotification _ peerIpAddress stopAction) _ =>
      before ∧ (peerIpAddress.host = host → stopAction = .pause)
  | _ => before

/-- A connection from the host was handled, and no stop of it since then that terminates. -/
def Registered (host : String) : List Event → Prop
  | [] => False
  | event :: past => event.Registers host (Registered host past)

/-- Whether there is a current peer after an event. A stop clears it if its host is
registered. -/
def Event.Connects (past : List Event) (before : Prop) : Event → Prop
  | .handled (.tcpClientNotification _) _ => True
  | .handled (.stopNotification _ peerIpAddress _) _ => before ∧ ¬Registered peerIpAddress.host past
  | _ => before

/-- A connection was handled, and no stop since then whose host was registered. -/
def Connected : List Event → Prop
  | [] => False
  | event :: past => event.Connects past (Connected past)

/-- What the handler has written down, by the notifications that it has handled. -/
structure Recorded (history : List Event) (handler : CommunicationSessionHandler) : Prop where
  registered : ∀ host, (∃ session, handler.commSessions (.host host) = some session) ↔
    Registered host history
  current : (∃ address, handler.currentPeerIp = some (.peername address)) ↔ Connected history
  peername : ∀ key, handler.currentPeerIp = some key → ∃ address, key = .peername address

theorem recorded_initial : Recorded [] {} where
  registered := by simp [Registered]
  current := by simp [Connected]
  peername := nofun

section

variable {history : List Event} {handler : CommunicationSessionHandler}

/-- What neither the registry nor the current peer is changed by. -/
theorem Recorded.of_same {after : CommunicationSessionHandler} {event : Event}
    (recorded : Recorded history handler)
    (registry : after.commSessions = handler.commSessions)
    (peer : after.currentPeerIp = handler.currentPeerIp)
    (registers : ∀ host before, event.Registers host before ↔ before)
    (connects : ∀ before, event.Connects history before ↔ before) :
    Recorded (event :: history) after where
  registered := by
    intro host
    rw [registry, Registered, registers]
    exact recorded.registered host
  current := by
    rw [peer, Connected, connects]
    exact recorded.current
  peername := by
    rw [peer]
    exact recorded.peername

theorem connected_registered (ipAddress : Peername) (host : String) :
    (∃ session, (handler.connected ipAddress).commSessions (.host host) = some session) ↔
      ipAddress.host = host ∨ ∃ session, handler.commSessions (.host host) = some session := by
  unfold CommunicationSessionHandler.connected
  dsimp only
  by_cases same : ipAddress.host = host
  · rw [same, Function.update_self]
    simp
  · rw [Function.update_of_ne (by simpa using Ne.symm same)]
    simp [same]

theorem ended_registered (peer : Peername) (stopAction : SessionStopAction) (session : Nat)
    (host : String) :
    (∃ other, (handler.ended peer stopAction session).commSessions (.host host) = some other) ↔
      (∃ other, handler.commSessions (.host host) = some other) ∧
        (peer.host = host → stopAction = .pause) := by
  unfold CommunicationSessionHandler.ended
  dsimp only
  cases stopAction with
  | pause => simp
  | terminate =>
      by_cases same : peer.host = host
      · simp [same]
      · rw [if_pos rfl, Function.update_of_ne (by simpa using Ne.symm same)]
        simp [same]

/-- A connection is written down, whether or not the session of its host was ended before. -/
theorem Recorded.connected (recorded : Recorded history handler) {ipAddress : Peername}
    {evseIds : EvseIds} {after : CommunicationSessionHandler}
    (registry : ∀ host, (∃ session, after.commSessions (.host host) = some session) ↔
      ipAddress.host = host ∨ ∃ session, handler.commSessions (.host host) = some session)
    (peer : after.currentPeerIp = some (.peername ipAddress)) :
    Recorded (.handled (.tcpClientNotification ipAddress) evseIds :: history) after where
  registered := by
    intro host
    rw [registry, Registered, Event.Registers, recorded.registered]
  current := by
    rw [peer, Connected, Event.Connects]
    simp
  peername := by
    intro key same
    rw [peer] at same
    cases same
    exact ⟨ipAddress, rfl⟩

/-- A stop ends the session under its host, or finds none. -/
theorem Recorded.stopped (recorded : Recorded history handler) (session : Nat) (peer : Peername)
    (stopAction : SessionStopAction) (evseIds : EvseIds) :
    Recorded (.handled (.stopNotification session peer stopAction) evseIds :: history)
      (match handler.commSessions (.host peer.host) with
      | some registered => handler.ended peer stopAction registered
      | none => handler) := by
  have known := recorded.registered peer.host
  cases there : handler.commSessions (.host peer.host) with
  | some registered =>
      rw [there] at known
      constructor
      · intro host
        rw [ended_registered, Registered, Event.Registers, recorded.registered]
      · have found : Registered peer.host history := known.mp ⟨registered, rfl⟩
        simp [CommunicationSessionHandler.ended, Connected, Event.Connects, found]
      · simp [CommunicationSessionHandler.ended]
  | none =>
      have missing : ¬Registered peer.host history := by
        rw [← known, there]
        simp
      constructor
      · intro host
        rw [recorded.registered, Registered, Event.Registers, iff_self_and]
        intro found same
        rw [same] at missing
        exact absurd found missing
      · rw [recorded.current, Connected, Event.Connects, iff_self_and]
        exact fun _ => missing
      · exact recorded.peername

theorem Recorded.step (recorded : Recorded history handler) {event : Event}
    {after : CommunicationSessionHandler} (step : Step handler event after) :
    Recorded (event :: history) after := by
  cases step with
  | udpPacketReceived isSdpRequest =>
      exact recorded.of_same rfl rfl (fun _ _ => Iff.rfl) (fun _ => Iff.rfl)
  | tcpClientConnected ipAddress =>
      exact recorded.of_same rfl rfl (fun _ _ => Iff.rfl) (fun _ => Iff.rfl)
  | tcpServerFailed => exact recorded.of_same rfl rfl (fun _ _ => Iff.rfl) (fun _ => Iff.rfl)
  | sessionStopped session task stopAction created receiving =>
      exact recorded.of_same rfl rfl (fun _ _ => Iff.rfl) (fun _ => Iff.rfl)
  | handled _ notification rest evseIds queued handles =>
      have popped : Recorded history { handler with rcvQueue := rest } :=
        ⟨recorded.registered, recorded.current, recorded.peername⟩
      cases notification with
      | udpPacketNotification isSdpRequest =>
          rw [onUdpPacketNotification_eq] at handles
          cases handles
          apply recorded.of_same
          · split <;> rfl
          · split <;> rfl
          · exact fun _ _ => Iff.rfl
          · exact fun _ => Iff.rfl
      | tcpClientNotification ipAddress =>
          rcases onTcpClientNotification_cases handles with same | ⟨registered, there, same⟩
          · rw [same]
            exact popped.connected (connected_registered ipAddress) rfl
          · rw [same]
            apply popped.connected
            · intro host
              rw [connected_registered, ended_registered]
              by_cases own : ipAddress.host = host
              · simp [own]
              · simp [own]
            · rfl
      | stopNotification session peer stopAction =>
          rw [onStopNotification_eq] at handles
          cases handles
          exact popped.stopped session peer stopAction evseIds
  | closeSession =>
      apply recorded.of_same
      · unfold CommunicationSessionHandler.closeSession
        split <;> rfl
      · unfold CommunicationSessionHandler.closeSession
        split <;> rfl
      · exact fun _ _ => Iff.rfl
      · exact fun _ => Iff.rfl

end

/-! ## Over all runs -/

theorem recorded_of_run {history : List Event} {handler : CommunicationSessionHandler}
    (run : Run Step {} history handler) : Recorded history handler :=
  run.invariant_history recorded_initial fun _ _ _ _ _ recorded step => recorded.step step

/-- The current peer is never a key of the sessions. -/
theorem currentPeer_unknown {history : List Event} {handler : CommunicationSessionHandler}
    (run : Run Step {} history handler) {key : Key} (current : handler.currentPeerIp = some key) :
    handler.commSessions key = none := by
  obtain ⟨address, peername⟩ := (recorded_of_run run).peername key current
  rw [Option.eq_none_iff_forall_ne_some]
  intro session there
  obtain ⟨task, -, hosts⟩ := (tracked_of_run run).entries key session there
  rw [peername] at hosts
  cases hosts

/-- `close_session` never reaches a session. -/
theorem closeSession_eq_of_run {history : List Event} {handler : CommunicationSessionHandler}
    (run : Run Step {} history handler) : handler.closeSession = handler := by
  unfold CommunicationSessionHandler.closeSession
  cases current : handler.currentPeerIp with
  | none => rfl
  | some key =>
      rw [Option.bind_some, currentPeer_unknown run current]

/-- The current peer is known exactly as long as there is none, that is until a connection is
handled, and again from a stop of a registered host on until the next connection. -/
theorem currentPeerKnown_iff_of_run {history : List Event}
    {handler : CommunicationSessionHandler} (run : Run Step {} history handler) :
    CurrentPeerKnown handler ↔ ¬Connected history := by
  rw [← (recorded_of_run run).current]
  constructor
  · rintro known ⟨address, current⟩
    obtain ⟨session, there, -⟩ := known _ current
    rw [currentPeer_unknown run current] at there
    cases there
  · intro unset key current
    obtain ⟨address, rfl⟩ := (recorded_of_run run).peername key current
    exact absurd ⟨address, current⟩ unset

/-! ## A connection and an unplugged vehicle -/

def connectedPeer : Peername where
  host := "fe80::1"
  port := 50000

theorem sample_connected :
    Run Step {} [.handled (.tcpClientNotification connectedPeer) {},
      .tcpClientConnected connectedPeer]
      (CommunicationSessionHandler.connected {} connectedPeer) :=
  .step (.step .start (.tcpClientConnected _ connectedPeer)) (.handled _ _ _ [] {} rfl rfl)

/-- The first connection is there, and `close_session` does not end it. -/
theorem sample_currentPeer_unknown :
    ∃ history handler,
      Run Step {} history handler ∧
        handler.currentPeerIp = some (.peername connectedPeer) ∧
          handler.commSessions (.host connectedPeer.host) = some 0 ∧
          handler.commSessions (.peername connectedPeer) = none ∧
          handler.closeSession.sessions[0]? = some { peer := connectedPeer, eof := false } ∧
          ¬CurrentPeerKnown handler := by
  refine ⟨_, _, sample_connected, rfl, rfl, rfl, rfl, ?_⟩
  intro known
  obtain ⟨session, there, -⟩ := known _ rfl
  cases there

/-- Once the stop of the connection is handled there is no current peer to know. -/
theorem sample_currentPeerKnown :
    ∃ history handler,
      Run Step {} history handler ∧ handler.sessions.length = 1 ∧ CurrentPeerKnown handler := by
  have stopped := Run.step sample_connected
    (.sessionStopped _ 0 { peer := connectedPeer } .terminate rfl rfl)
  have handled := Run.step stopped (.handled _ _ _ [] {} rfl rfl)
  refine ⟨_, _, handled, rfl, (currentPeerKnown_iff_of_run handled).mpr ?_⟩
  rintro ⟨-, unregistered⟩
  exact unregistered (.inl rfl)

end Iso15118.Secc.Registry
