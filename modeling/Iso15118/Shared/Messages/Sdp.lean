import Iso15118.Library.BigEndian
import Iso15118.Shared.Exceptions
import Mathlib.Data.List.Basic

/-!
# SECC Discovery Protocol

The messages of `shared/messages/sdp.py`. Where a value does not suit, the constructor of a
response returns before it has assigned any attribute.
-/

namespace Iso15118.Shared

def minTcpPort : Nat := 49152

def maxTcpPort : Nat := 65535

/-! ## Enumerations -/

inductive Security where
  | tls
  | noTls
  deriving DecidableEq, Repr

def Security.value : Security → UInt8
  | .tls => 0x00
  | .noTls => 0x10

/-- `Security(...)` for a number. -/
def Security.ofNumber (number : Nat) : Except PyError Security :=
  if number = 0x00 then .ok .tls
  else if number = 0x10 then .ok .noTls
  else .error .valueError

inductive Transport where
  | tcp
  | udp
  deriving DecidableEq, Repr

def Transport.value : Transport → UInt8
  | .tcp => 0x00
  | .udp => 0x10

/-- `Transport(...)` for a number. -/
def Transport.ofNumber (number : Nat) : Except PyError Transport :=
  if number = 0x00 then .ok .tcp
  else if number = 0x10 then .ok .udp
  else .error .valueError

/-! ## Messages -/

structure SDPRequest where
  security : Security
  transportProtocol : Transport
  deriving DecidableEq

def SDPRequest.toPayload (request : SDPRequest) : List UInt8 :=
  [request.security.value, request.transportProtocol.value]

/-- What a response has when all of its values suit. -/
structure SDPResponseAttributes where
  ipAddress : List UInt8
  port : Nat
  security : Security
  transportProtocol : Transport
  ipAddress_length : ipAddress.length = 16
  port_range : minTcpPort ≤ port ∧ port ≤ maxTcpPort
  deriving DecidableEq

/-- An object of the class, which has all of its attributes or none. -/
structure SDPResponse where
  attributes : Option SDPResponseAttributes
  deriving DecidableEq

namespace SDPResponse

/-- `SDPResponse(...)`. -/
def new (ipAddress : List UInt8) (port : Nat) (security : Security)
    (transportProtocol : Transport) : SDPResponse :=
  if suits : ipAddress.length = 16 ∧ minTcpPort ≤ port ∧ port ≤ maxTcpPort then
    ⟨some ⟨ipAddress, port, security, transportProtocol, suits.1, suits.2⟩⟩
  else
    ⟨none⟩

/-- Reading the attributes. -/
def read (response : SDPResponse) : Except PyError SDPResponseAttributes :=
  match response.attributes with
  | some attributes => .ok attributes
  | none => .error .attributeError

def toPayload (response : SDPResponse) : Except PyError (List UInt8) := do
  let attributes ← response.read
  return attributes.ipAddress ++ BigEndian.toBytes 2 attributes.port ++
    [attributes.security.value, attributes.transportProtocol.value]

def fromPayload (payload : List UInt8) : Except PyError SDPResponse :=
  if payload.length = 20 then do
    let security ← Security.ofNumber (BigEndian.ofBytes ((payload.drop 18).take 1))
    let transportProtocol ← Transport.ofNumber (BigEndian.ofBytes ((payload.drop 19).take 1))
    return new (payload.take 16) (BigEndian.ofBytes ((payload.drop 16).take 2)) security
      transportProtocol
  else
    .error .invalidSdpResponseError

end SDPResponse

/-! ## Numbers of the enumerations -/

/-- An enumeration of the two values 0x00 and 0x10. -/
def ofTwo {α : Type} (first second : α) (number : Nat) : Except PyError α :=
  if number = 0x00 then .ok first
  else if number = 0x10 then .ok second
  else .error .valueError

theorem ofTwo_eq_ok_iff {α : Type} {first second member : α} {number : Nat} :
    ofTwo first second number = .ok member ↔
      number = 0x00 ∧ first = member ∨ number = 0x10 ∧ second = member := by
  unfold ofTwo
  split
  next zero => simp [zero]
  next other =>
    split
    next sixteen => simp [sixteen]
    next neither => simp [other, neither]

theorem ofTwo_eq_error {α : Type} {first second : α} {number : Nat} {error : PyError}
    (unknown : ofTwo first second number = .error error) : error = .valueError := by
  unfold ofTwo at unknown
  split at unknown
  next => cases unknown
  next =>
    split at unknown
    next => cases unknown
    next => exact (Except.error.inj unknown).symm

theorem Security.ofNumber_value (security : Security) :
    Security.ofNumber security.value.toNat = .ok security := by
  cases security <;> rfl

theorem Security.ofNumber_eq_ok_iff {byte : UInt8} {security : Security} :
    Security.ofNumber byte.toNat = .ok security ↔ byte = security.value := by
  constructor
  · intro found
    obtain ⟨number, rfl⟩ | ⟨number, rfl⟩ := ofTwo_eq_ok_iff.mp found
    · exact UInt8.toNat_inj.mp number
    · exact UInt8.toNat_inj.mp number
  · rintro rfl
    exact Security.ofNumber_value security

theorem Security.ofNumber_eq_error {number : Nat} {error : PyError}
    (unknown : Security.ofNumber number = .error error) : error = .valueError :=
  ofTwo_eq_error unknown

theorem Transport.ofNumber_value (transportProtocol : Transport) :
    Transport.ofNumber transportProtocol.value.toNat = .ok transportProtocol := by
  cases transportProtocol <;> rfl

theorem Transport.ofNumber_eq_ok_iff {byte : UInt8} {transportProtocol : Transport} :
    Transport.ofNumber byte.toNat = .ok transportProtocol ↔ byte = transportProtocol.value := by
  constructor
  · intro found
    obtain ⟨number, rfl⟩ | ⟨number, rfl⟩ := ofTwo_eq_ok_iff.mp found
    · exact UInt8.toNat_inj.mp number
    · exact UInt8.toNat_inj.mp number
  · rintro rfl
    exact Transport.ofNumber_value transportProtocol

theorem Transport.ofNumber_eq_error {number : Nat} {error : PyError}
    (unknown : Transport.ofNumber number = .error error) : error = .valueError :=
  ofTwo_eq_error unknown

namespace SDPResponse

variable {payload : List UInt8} {response : SDPResponse} {attributes : SDPResponseAttributes}

/-! ## Payloads of 20 bytes -/

/-- A payload in its parts. -/
def layout (ipAddress : List UInt8) (portBytes : List UInt8) (security transport : UInt8) :
    List UInt8 :=
  ipAddress ++ portBytes ++ [security, transport]

theorem exists_layout (long : payload.length = 20) :
    ∃ ipAddress portBytes security transport, ipAddress.length = 16 ∧ portBytes.length = 2 ∧
      payload = layout ipAddress portBytes security transport := by
  have last : (payload.drop 18).length = 2 := by
    rw [List.length_drop]
    omega
  obtain ⟨security, transport, ends⟩ := List.length_eq_two.mp last
  refine ⟨payload.take 16, (payload.drop 16).take 2, security, transport, ?_, ?_, ?_⟩
  · rw [List.length_take]
    omega
  · rw [List.length_take, List.length_drop]
    omega
  · have rest : (payload.drop 16).drop 2 = payload.drop 18 := List.drop_drop
    unfold layout
    rw [← ends, ← rest, List.append_assoc, List.take_append_drop, List.take_append_drop]

theorem fromPayload_layout {ipAddress portBytes : List UInt8} {security transport : UInt8}
    (sixteen : ipAddress.length = 16) (two : portBytes.length = 2) :
    fromPayload (layout ipAddress portBytes security transport) = do
      let security ← Security.ofNumber security.toNat
      let transportProtocol ← Transport.ofNumber transport.toNat
      return new ipAddress (BigEndian.ofBytes portBytes) security transportProtocol := by
  have long : (layout ipAddress portBytes security transport).length = 20 := by
    simp [layout, sixteen, two]
  have address : (layout ipAddress portBytes security transport).take 16 = ipAddress := by
    rw [← sixteen]
    simp [layout]
  have afterAddress : (layout ipAddress portBytes security transport).drop 16 =
      portBytes ++ [security, transport] := by
    rw [← sixteen]
    simp [layout]
  have port : ((layout ipAddress portBytes security transport).drop 16).take 2 = portBytes := by
    rw [afterAddress, ← two]
    simp
  have afterPort : (layout ipAddress portBytes security transport).drop 18 =
      [security, transport] := by
    have rest : ((layout ipAddress portBytes security transport).drop 16).drop 2 =
        (layout ipAddress portBytes security transport).drop 18 := List.drop_drop
    rw [← rest, afterAddress, ← two]
    simp
  have last : (layout ipAddress portBytes security transport).drop 19 = [transport] := by
    have rest : ((layout ipAddress portBytes security transport).drop 18).drop 1 =
        (layout ipAddress portBytes security transport).drop 19 := List.drop_drop
    rw [← rest, afterPort]
    rfl
  have single (byte : UInt8) : BigEndian.ofBytes [byte] = byte.toNat := by
    simp [BigEndian.ofBytes]
  unfold fromPayload
  rw [if_pos long, address, port, afterPort, last]
  simp only [List.take_succ_cons, List.take_zero, single]

/-- A response is read back from its own payload. -/
theorem fromPayload_toPayload (attributes : SDPResponseAttributes) :
    ∃ payload, toPayload ⟨some attributes⟩ = .ok payload ∧
      fromPayload payload = .ok ⟨some attributes⟩ := by
  have fits : attributes.port < 256 ^ 2 := by
    have small := attributes.port_range.2
    unfold maxTcpPort at small
    omega
  refine ⟨layout attributes.ipAddress (BigEndian.toBytes 2 attributes.port)
    attributes.security.value attributes.transportProtocol.value, rfl, ?_⟩
  rw [fromPayload_layout attributes.ipAddress_length (BigEndian.length_toBytes 2 attributes.port),
    Security.ofNumber_value, Transport.ofNumber_value, BigEndian.ofBytes_toBytes_of_lt fits]
  have suits : attributes.ipAddress.length = 16 ∧ minTcpPort ≤ attributes.port ∧
      attributes.port ≤ maxTcpPort :=
    ⟨attributes.ipAddress_length, attributes.port_range⟩
  change Except.ok (new _ _ _ _) = _
  unfold new
  rw [dif_pos suits]

/-! ## What is decoded exactly -/

/-- The payload is rejected as it should be, or the response has all attributes and this
payload. -/
def DecodesExactly (payload : List UInt8) : Prop :=
  fromPayload payload = .error .invalidSdpResponseError ∨
    ∃ response, fromPayload payload = .ok response ∧ response.attributes.isSome = true ∧
      response.toPayload = .ok payload

/-- If the payload has the right length, then its last two bytes are values of their
enumerations, and the port is in the dynamic range. -/
def Acceptable (payload : List UInt8) : Prop :=
  payload.length = 20 →
    minTcpPort ≤ BigEndian.ofBytes ((payload.drop 16).take 2) ∧
      payload[18]? ∈ [some Security.tls.value, some Security.noTls.value] ∧
      payload[19]? ∈ [some Transport.tcp.value, some Transport.udp.value]

instance (payload : List UInt8) : Decidable (Acceptable payload) :=
  inferInstanceAs (Decidable (_ → _))

theorem acceptable_layout_iff {ipAddress portBytes : List UInt8} {security transport : UInt8}
    (sixteen : ipAddress.length = 16) (two : portBytes.length = 2) :
    Acceptable (layout ipAddress portBytes security transport) ↔
      minTcpPort ≤ BigEndian.ofBytes portBytes ∧ (∃ known, security = Security.value known) ∧
        ∃ known, transport = Transport.value known := by
  have long : (layout ipAddress portBytes security transport).length = 20 := by
    simp [layout, sixteen, two]
  have afterAddress : (layout ipAddress portBytes security transport).drop 16 =
      portBytes ++ [security, transport] := by
    rw [← sixteen]
    simp [layout]
  have port : ((layout ipAddress portBytes security transport).drop 16).take 2 = portBytes := by
    rw [afterAddress, ← two]
    simp
  have front : (ipAddress ++ portBytes).length = 18 := by
    simp [sixteen, two]
  have eighteenth : (layout ipAddress portBytes security transport)[18]? = some security := by
    unfold layout
    rw [← front, List.getElem?_append_right (Nat.le_refl _), Nat.sub_self]
    rfl
  have nineteenth : (layout ipAddress portBytes security transport)[19]? = some transport := by
    unfold layout
    rw [List.getElem?_append_right (by omega), front]
    rfl
  have securities (byte : UInt8) :
      some byte ∈ [some Security.tls.value, some Security.noTls.value] ↔
      ∃ known, byte = Security.value known := by
    constructor
    · intro listed
      simp only [List.mem_cons, List.not_mem_nil, or_false] at listed
      rcases listed with same | same
      · exact ⟨.tls, Option.some.inj same⟩
      · exact ⟨.noTls, Option.some.inj same⟩
    · rintro ⟨known, rfl⟩
      cases known <;> decide
  have transports (byte : UInt8) :
      some byte ∈ [some Transport.tcp.value, some Transport.udp.value] ↔
      ∃ known, byte = Transport.value known := by
    constructor
    · intro listed
      simp only [List.mem_cons, List.not_mem_nil, or_false] at listed
      rcases listed with same | same
      · exact ⟨.tcp, Option.some.inj same⟩
      · exact ⟨.udp, Option.some.inj same⟩
    · rintro ⟨known, rfl⟩
      cases known <;> decide
  unfold Acceptable
  rw [port, eighteenth, nineteenth, securities, transports]
  simp [long]

/-- What decoding can come to. -/
inductive Decoded (payload : List UInt8) : Except PyError SDPResponse → Prop where
  | wrongLength (other : payload.length ≠ 20) : Decoded payload (.error .invalidSdpResponseError)
  | unknownValue (unacceptable : ¬Acceptable payload) : Decoded payload (.error .valueError)
  | unassigned (unacceptable : ¬Acceptable payload) : Decoded payload (.ok ⟨none⟩)
  | assigned {attributes : SDPResponseAttributes} (acceptable : Acceptable payload)
      (same : toPayload ⟨some attributes⟩ = .ok payload) : Decoded payload (.ok ⟨some attributes⟩)

theorem decoded_fromPayload (payload : List UInt8) : Decoded payload (fromPayload payload) := by
  by_cases long : payload.length = 20
  · obtain ⟨ipAddress, portBytes, security, transport, sixteen, two, rfl⟩ := exists_layout long
    have acceptable : Acceptable (layout ipAddress portBytes security transport) ↔ _ :=
      acceptable_layout_iff sixteen two
    rw [fromPayload_layout sixteen two]
    cases secure : Security.ofNumber security.toNat with
    | error error =>
        cases Security.ofNumber_eq_error secure
        apply Decoded.unknownValue
        rw [acceptable]
        rintro ⟨_, ⟨known, rfl⟩, _⟩
        rw [Security.ofNumber_value] at secure
        cases secure
    | ok knownSecurity =>
        cases transports : Transport.ofNumber transport.toNat with
        | error error =>
            cases Transport.ofNumber_eq_error transports
            apply Decoded.unknownValue
            rw [acceptable]
            rintro ⟨_, _, known, rfl⟩
            rw [Transport.ofNumber_value] at transports
            cases transports
        | ok knownTransport =>
            cases Security.ofNumber_eq_ok_iff.mp secure
            cases Transport.ofNumber_eq_ok_iff.mp transports
            change Decoded _ (.ok (new ipAddress _ knownSecurity knownTransport))
            have bound := BigEndian.ofBytes_lt portBytes
            have written := BigEndian.toBytes_ofBytes portBytes
            rw [two] at bound written
            unfold new
            split
            next suits =>
              apply Decoded.assigned
              · rw [acceptable]
                exact ⟨suits.2.1, ⟨_, rfl⟩, _, rfl⟩
              · simp [toPayload, read, written, layout]
            next unsuited =>
              apply Decoded.unassigned
              rw [acceptable]
              rintro ⟨dynamic, _⟩
              apply unsuited
              unfold maxTcpPort
              omega
  · have rejected : fromPayload payload = .error .invalidSdpResponseError := if_neg long
    rw [rejected]
    exact .wrongLength long

/-- Decoding is exact on payloads whose bytes are acceptable, and on no others. -/
theorem decodesExactly_iff : DecodesExactly payload ↔ Acceptable payload := by
  unfold DecodesExactly
  have decoded := decoded_fromPayload payload
  generalize fromPayload payload = result at decoded ⊢
  cases decoded with
  | wrongLength other => exact iff_of_true (Or.inl rfl) fun twenty => absurd twenty other
  | unknownValue unacceptable => simp [unacceptable]
  | unassigned unacceptable => simp [unacceptable]
  | assigned acceptable same => exact iff_of_true (Or.inr ⟨_, rfl, rfl, same⟩) acceptable

end SDPResponse

end Iso15118.Shared
