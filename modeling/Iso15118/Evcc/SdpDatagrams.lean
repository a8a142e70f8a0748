import Iso15118.Evcc.CommSessionHandler
import Iso15118.Shared.Messages.V2gtpFormat

/-!
# Datagrams for the EVCC

Whatever a datagram contains, the handler should start a session, look for the SECC anew or
ignore the datagram. A response whose values do not suit ends the handler instead.
-/

namespace Iso15118.Evcc.Handler

open Effect
open Iso15118.Shared

/-- An exception that the surroundings raise, and the handler passes on. -/
def Surroundings.Raises (around : Surroundings) (exception : PyError) : Prop :=
  around.sendAndReceive = .error exception ∨ around.sendSap = .error exception

/-- However the handler is configured and whatever it has done before, it starts a session,
restarts the discovery or does nothing, and no exception is due to the datagram. -/
def Handles (data : List UInt8) : Prop :=
  ∀ (around : Surroundings) (handler : CommunicationSessionHandler),
    (processIncomingUdpPacket around data handler = .ok ⟨⟩ handler ∨
      processIncomingUdpPacket around data handler = tryRestartSdp around true handler ∨
      ∃ host port isTls, processIncomingUdpPacket around data handler =
        startCommSession around host port isTls handler) ∧
    ∀ exception after, processIncomingUdpPacket around data handler = .error exception after →
      around.Raises exception

/-- If the datagram is an SDP response of the right length, then its values suit. -/
def AcceptableDatagram (data : List UInt8) : Prop :=
  V2GTPMessage.isHeaderValid .unknown (data.take 8) = true →
    V2GTPMessage.getPayloadType (data.take 8) = 0x9001 → SDPResponse.Acceptable (data.drop 8)

instance (data : List UInt8) : Decidable (AcceptableDatagram data) :=
  inferInstanceAs (Decidable (_ → _))

/-! ## What is raised -/

section

variable {around : Surroundings} {handler : CommunicationSessionHandler}

/-- The precondition under which a program raises only what the surroundings raise, or the
error that a discovery has failed. -/
abbrev OnlyRaises (around : Surroundings) (program : Program PUnit)
    (handler : CommunicationSessionHandler) : Prop :=
  wp program (fun _ _ => True) (fun exception _ => around.Raises exception) handler

theorem wp_sendSdp_true :
    wp (sendSdp around) (fun _ _ => True)
      (fun exception _ => around.sendAndReceive = .error exception) handler := by
  unfold sendSdp
  rw [wp_bind, wp_get, wp_bind, wp_ofExcept]
  exact ⟨fun _ _ => trivial, fun _ raised => raised⟩

theorem wp_requestAgain_true :
    wp (requestAgain around) (fun _ _ => True)
      (fun exception _ => exception = .sdpFailedError ∨
        around.sendAndReceive = .error exception) handler := by
  unfold requestAgain
  rw [wp_bind, wp_get, wp_ite]
  split
  next =>
    rw [wp_bind, wp_tryCatch]
    apply wp_mono (fun _ _ _ => trivial) _ wp_sendSdp_true
    intro exception after raised
    rw [wp_ite]
    split
    next => trivial
    next => exact Or.inr raised
  next => exact Or.inl rfl

theorem onlyRaises_tryRestartSdp (newSdpCycle : Bool) :
    OnlyRaises around (tryRestartSdp around newSdpCycle) handler := by
  have restarts : wp (restartSdp around newSdpCycle) (fun _ _ => True)
      (fun exception _ => exception = .sdpFailedError ∨
        around.sendAndReceive = .error exception) handler := by
    cases newSdpCycle with
    | false => exact wp_requestAgain_true
    | true =>
        unfold restartSdp initiateCycle
        rw [if_pos rfl, wp_bind, wp_bind, wp_get, wp_ite]
        split
        next => exact Or.inl rfl
        next => exact wp_requestAgain_true
  unfold OnlyRaises tryRestartSdp
  rw [wp_tryCatch]
  apply wp_mono (fun _ _ _ => trivial) _ restarts
  intro exception after raised
  rw [wp_ite]
  split
  next => trivial
  next other => exact Or.inl (raised.resolve_left other)

theorem onlyRaises_startCommSession (host : List UInt8) (port : Nat) (isTls : Bool) :
    OnlyRaises around (startCommSession around host port isTls) handler := by
  unfold OnlyRaises startCommSession
  cases around.tcpClientCreate with
  | error exception => trivial
  | ok connected =>
      cases sent : around.sendSap with
      | ok done => trivial
      | error exception =>
          simp only
          rw [wp_ite]
          split
          next => trivial
          next => exact Or.inr sent

/-- A response with all of its attributes never ends the handler. -/
theorem onSdpResponse_cases (response : SDPResponseAttributes) :
    onSdpResponse around response handler = .ok ⟨⟩ handler ∨
      ∃ host port isTls, onSdpResponse around response handler =
        startCommSession around host port isTls handler := by
  unfold onSdpResponse
  rw [get_bind_apply]
  split
  next => exact Or.inl rfl
  next => exact Or.inr ⟨_, _, _, rfl⟩

end

/-! ## Datagrams -/

variable {data : List UInt8}

theorem handles_of_eq
    (same : ∀ (around : Surroundings) (handler : CommunicationSessionHandler),
      processIncomingUdpPacket around data handler = .ok ⟨⟩ handler ∨
      processIncomingUdpPacket around data handler = tryRestartSdp around true handler ∨
      ∃ host port isTls, processIncomingUdpPacket around data handler =
        startCommSession around host port isTls handler) :
    Handles data := by
  intro around handler
  have ends := same around handler
  refine ⟨ends, ?_⟩
  intro exception after raised
  rcases ends with ignored | restarted | ⟨host, port, isTls, started⟩
  · rw [ignored] at raised
    cases raised
  · rw [restarted] at raised
    have only := @onlyRaises_tryRestartSdp around handler true
    unfold OnlyRaises wp at only
    rw [raised] at only
    exact only
  · rw [started] at raised
    have only := @onlyRaises_startCommSession around handler host port isTls
    unfold OnlyRaises wp at only
    rw [raised] at only
    exact only

/-- What raises an exception in quiet surroundings is not handled. -/
theorem not_handles_of_eq_error {exception : PyError} {handler : CommunicationSessionHandler}
    (raises : processIncomingUdpPacket {} data handler = .error exception handler) :
    ¬Handles data := by
  intro handles
  rcases (handles {} handler).2 exception handler raises with sending | sending <;> cases sending

theorem acceptableDatagram_of_fromBytes_eq_error {exception : PyError}
    (rejected : V2GTPObject.fromBytes .unknown data = .error exception) :
    exception = .invalidV2gtpMessageError ∧ AcceptableDatagram data := by
  rw [V2GTPObject.fromBytes_eq_error_iff] at rejected
  cases V2GTPMessage.eq_invalid_of_fromBytes_eq_error (by decide) rejected
  refine ⟨rfl, ?_⟩
  intro valid _ twenty
  have long : 10 ≤ data.length := by
    rw [List.length_drop] at twenty
    omega
  rw [V2GTPMessage.fromBytes_eq_invalid_iff.mp rejected long] at valid
  cases valid

/-- The condition on the datagram is one on the payload of the message that is read. -/
theorem acceptableDatagram_iff_of_fromBytes {message : V2GTPObject}
    (read : V2GTPObject.fromBytes .unknown data = .ok message) :
    AcceptableDatagram data ↔
      (message.payloadType = 0x9001 → SDPResponse.Acceptable message.payload) := by
  obtain ⟨_, valid, known, same⟩ :=
    V2GTPMessage.fromBytes_eq_ok_iff.mp (V2GTPObject.fromBytes_eq_ok_iff.mp read).1
  obtain ⟨payloadType, _, sameType⟩ := List.mem_map.mp known
  have payload : message.payload = data.drop 8 := congrArg V2GTPMessage.payload same
  have typed : message.payloadType = payloadType := by
    have numbers : message.payloadType = (V2GTPMessage.getPayloadType (data.take 8)).toNat :=
      congrArg V2GTPMessage.payloadType same
    rw [numbers, ← sameType]
    rfl
  have response : V2GTPMessage.getPayloadType (data.take 8) = 0x9001 ↔ payloadType = 0x9001 := by
    rw [← sameType]
    exact Int.ofNat_inj
  unfold AcceptableDatagram
  rw [payload, typed, response]
  simp [valid]

/-- Without a protocol, a response for wireless communication is no payload type. -/
theorem payloadType_ne_wireless {message : V2GTPObject}
    (read : V2GTPObject.fromBytes .unknown data = .ok message) : message.payloadType ≠ 0x9003 := by
  have known : message.payloadType ∈ payloadTypes .unknown :=
    (V2GTPMessage.fromBytes_eq_ok (V2GTPObject.fromBytes_eq_ok_iff.mp read).1).2.2
  intro wireless
  rw [wireless] at known
  revert known
  decide

theorem processIncomingUdpPacket_of_error {around : Surroundings}
    {handler : CommunicationSessionHandler} {message : V2GTPObject} {exception : PyError}
    (read : V2GTPObject.fromBytes .unknown data = .ok message)
    (response : message.payloadType = 0x9001)
    (parsed : SDPResponse.fromPayload message.payload = .error exception) :
    processIncomingUdpPacket around data handler =
      (if exception = .invalidSdpResponseError then tryRestartSdp around true
        else throw exception) handler := by
  unfold processIncomingUdpPacket
  rw [read]
  dsimp only
  rw [if_pos response, parsed]

theorem processIncomingUdpPacket_of_ok {around : Surroundings}
    {handler : CommunicationSessionHandler} {message : V2GTPObject} {result : SDPResponse}
    (read : V2GTPObject.fromBytes .unknown data = .ok message)
    (response : message.payloadType = 0x9001)
    (parsed : SDPResponse.fromPayload message.payload = .ok result) :
    processIncomingUdpPacket around data handler =
      (do
        let attributes ← Effect.ofExcept result.read
        onSdpResponse around attributes) handler := by
  unfold processIncomingUdpPacket
  rw [read]
  dsimp only
  rw [if_pos response, parsed]

/-- A datagram that is a response of the right length is handled if its values suit. -/
theorem handles_iff_of_response {message : V2GTPObject}
    (read : V2GTPObject.fromBytes .unknown data = .ok message)
    (response : message.payloadType = 0x9001) :
    Handles data ↔ SDPResponse.Acceptable message.payload := by
  have decoded := SDPResponse.decoded_fromPayload message.payload
  generalize parsed : SDPResponse.fromPayload message.payload = result at decoded
  cases decoded with
  | wrongLength other =>
      apply iff_of_true _ fun twenty => absurd twenty other
      exact handles_of_eq fun around handler =>
        Or.inr (Or.inl (processIncomingUdpPacket_of_error read response parsed))
  | unknownValue unacceptable =>
      apply iff_of_false _ unacceptable
      have raises := @processIncomingUdpPacket_of_error data {} (.new ⟨true, true, 0⟩)
      exact not_handles_of_eq_error (raises read response parsed)
  | unassigned unacceptable =>
      apply iff_of_false _ unacceptable
      have reads := @processIncomingUdpPacket_of_ok data {} (.new ⟨true, true, 0⟩)
      exact not_handles_of_eq_error (reads read response parsed)
  | @assigned attributes acceptable same =>
      apply iff_of_true _ acceptable
      apply handles_of_eq
      intro around handler
      rw [processIncomingUdpPacket_of_ok read response parsed]
      rcases @onSdpResponse_cases around handler attributes with ignored | started
      · exact Or.inl ignored
      · exact Or.inr (Or.inr started)

/-- A datagram is handled if it is no response of the right length, or its values suit. -/
theorem handles_iff : Handles data ↔ AcceptableDatagram data := by
  cases read : V2GTPObject.fromBytes .unknown data with
  | error exception =>
      obtain ⟨rfl, acceptable⟩ := acceptableDatagram_of_fromBytes_eq_error read
      apply iff_of_true _ acceptable
      apply handles_of_eq
      intro around handler
      unfold processIncomingUdpPacket
      rw [read]
      exact Or.inl rfl
  | ok message =>
      rw [acceptableDatagram_iff_of_fromBytes read]
      by_cases response : message.payloadType = 0x9001
      · rw [handles_iff_of_response read response]
        simp [response]
      · apply iff_of_true _ fun answers => absurd answers response
        apply handles_of_eq
        intro around handler
        unfold processIncomingUdpPacket
        rw [read]
        dsimp only
        rw [if_neg response, if_neg (payloadType_ne_wireless read)]
        exact Or.inr (Or.inl rfl)

/-- Decoding is exact if and only if the values suit, a response is read back from its own
payload, and a datagram is handled if and only if its values suit. -/
theorem sdpResponse_iff (payload data : List UInt8) :
    (SDPResponse.DecodesExactly payload ↔ SDPResponse.Acceptable payload) ∧
      (∀ attributes, ∃ written, SDPResponse.toPayload ⟨some attributes⟩ = .ok written ∧
        SDPResponse.fromPayload written = .ok ⟨some attributes⟩) ∧
      (Handles data ↔ AcceptableDatagram data) :=
  ⟨SDPResponse.decodesExactly_iff, SDPResponse.fromPayload_toPayload, handles_iff⟩

/-- A response that names port 80. -/
def wellKnownPort : List UInt8 :=
  [0xFE, 0x80, 0, 0, 0, 0, 0, 0, 0, 0, 0, 0, 0, 0, 0, 1, 0, 80, 0x10, 0x00]

/-- The response has no attributes, and reading them ends the handler. -/
theorem wellKnownPort_not_handled :
    ¬SDPResponse.DecodesExactly wellKnownPort ∧
      ¬Handles ([0x01, 0xFE, 0x90, 0x01, 0, 0, 0, 20] ++ wellKnownPort) := by
  constructor
  · rintro (rejected | ⟨response, decoded, set, _⟩)
    · revert rejected
      decide
    · have unassigned : SDPResponse.fromPayload wellKnownPort = .ok ⟨none⟩ := by decide
      rw [unassigned] at decoded
      cases decoded
      cases set
  · have raises : processIncomingUdpPacket {}
        ([0x01, 0xFE, 0x90, 0x01, 0, 0, 0, 20] ++ wellKnownPort) (.new ⟨false, false, 1⟩) =
          .error .attributeError (.new ⟨false, false, 1⟩) := by
      rfl
    exact not_handles_of_eq_error raises

end Iso15118.Evcc.Handler
