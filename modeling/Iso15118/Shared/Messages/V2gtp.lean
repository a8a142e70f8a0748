import Iso15118.Library.BigEndian
import Iso15118.Shared.Exceptions
import Iso15118.Shared.Messages.AppProtocol

/-!
# V2G Transfer Protocol

The messages of `shared/messages/v2gtp.py`: a header of eight bytes, and a payload.
-/

namespace Iso15118.Shared

/-! ## Enumerations -/

/-- `V2GTPVersion.PROTOCOL_VERSION`. -/
def protocolVersion : UInt8 := 0x01

/-- `V2GTPVersion.INV_PROTOCOL_VERSION`. -/
def invProtocolVersion : UInt8 := 0xFE

def uint32Max : Nat := 2 ^ 32 - 1

def dinPayloadTypes : List Nat := [0x8001, 0x9000, 0x9001]

def isoV2PayloadTypes : List Nat := [0x8001, 0x9000, 0x9001]

def isoV20PayloadTypes : List Nat :=
  [0x8001, 0x8002, 0x8003, 0x8004, 0x8005, 0x8006, 0x8101, 0x8102, 0x8103, 0x8104, 0x9000,
    0x9001, 0x9002, 0x9003]

/-- `Protocol.payloads`, the enumeration that belongs to a protocol. -/
def Protocol.payloads : Protocol → List Nat
  | .unknown => isoV2PayloadTypes
  | .dinSpec70121 => dinPayloadTypes
  | .iso15118_2 => isoV2PayloadTypes
  | _ => isoV20PayloadTypes

/-- The enumeration in which `from_bytes` looks a payload type up. -/
def payloadTypes (protocol : Protocol) : List Nat :=
  if isV20 protocol.ns then isoV20PayloadTypes else isoV2PayloadTypes

/-! ## Messages -/

/-- `V2GTPMessage`. The protocol of the session is not part of the bytes. -/
structure V2GTPMessage where
  payloadType : Nat
  payload : List UInt8
  deriving DecidableEq

namespace V2GTPMessage

def getPayloadType (header : List UInt8) : Int :=
  if header.length = 8 then BigEndian.ofBytes ((header.drop 2).take 2) else -1

def getPayloadLength (header : List UInt8) : Int :=
  if header.length = 8 then BigEndian.ofBytes (header.drop 4) else -1

/-- No payload type is ruled out for DIN SPEC 70121. -/
def isPayloadTypeValid (protocol : Protocol) (payloadType : Int) : Bool :=
  if protocol = .iso15118_2 ∨ protocol = .unknown then
    payloadType ∈ isoV2PayloadTypes.map Int.ofNat
  else if isV20 protocol.ns then
    payloadType ∈ isoV20PayloadTypes.map Int.ofNat
  else
    true

def isHeaderValid (protocol : Protocol) (header : List UInt8) : Bool :=
  header.length = 8 ∧ header[0]? = some protocolVersion ∧ header[1]? = some invProtocolVersion ∧
    isPayloadTypeValid protocol (getPayloadType header) ∧ getPayloadLength header ≤ uint32Max ∧
    0 ≤ getPayloadLength header

def header (message : V2GTPMessage) : List UInt8 :=
  [protocolVersion, invProtocolVersion] ++ BigEndian.toBytes 2 message.payloadType ++
    BigEndian.toBytes 4 message.payload.length

/-- `to_bytes`. -/
def toBytes (message : V2GTPMessage) : Except PyError (List UInt8) :=
  if message.payloadType < 2 ^ 16 ∧ message.payload.length ≤ uint32Max then
    .ok (message.header ++ message.payload)
  else
    .error .overflowError

/-- `from_bytes`. The length in the header is checked, but not used. -/
def fromBytes (protocol : Protocol) (data : List UInt8) : Except PyError V2GTPMessage :=
  if 10 ≤ data.length then
    if isHeaderValid protocol (data.take 8) then
      if getPayloadType (data.take 8) ∈ (payloadTypes protocol).map Int.ofNat then
        .ok ⟨(getPayloadType (data.take 8)).toNat, data.drop 8⟩
      else
        .error .valueError
    else
      .error .invalidV2gtpMessageError
  else
    .error .invalidV2gtpMessageError

/-! ## Round trip -/

variable {message : V2GTPMessage} {protocol : Protocol}

@[simp]
theorem length_header (message : V2GTPMessage) : message.header.length = 8 := by
  simp [header]

theorem toBytes_eq_ok {bytes : List UInt8} (written : message.toBytes = .ok bytes) :
    bytes = message.header ++ message.payload ∧ message.payloadType < 2 ^ 16 ∧
      message.payload.length ≤ uint32Max := by
  unfold toBytes at written
  split at written
  next fits =>
    cases written
    exact ⟨rfl, fits⟩
  next => cases written

theorem length_of_toBytes {bytes : List UInt8} (written : message.toBytes = .ok bytes) :
    bytes.length = 8 + message.payload.length := by
  rw [(toBytes_eq_ok written).1, List.length_append, length_header]

/-- What is read has a known type and at least two bytes. -/
theorem fromBytes_eq_ok {data : List UInt8} (read : fromBytes protocol data = .ok message) :
    data.length = 8 + message.payload.length ∧ 2 ≤ message.payload.length ∧
      message.payloadType ∈ payloadTypes protocol := by
  unfold fromBytes at read
  split at read
  next long =>
    split at read
    next =>
      split at read
      next known =>
        cases read
        rcases List.mem_map.mp known with ⟨payloadType, listed, same⟩
        refine ⟨?_, ?_, ?_⟩
        · rw [List.length_drop]
          omega
        · rw [List.length_drop]
          omega
        · rw [← same]
          exact listed
      next => cases read
    next => cases read
  next => cases read

theorem getPayloadType_header (fits : message.payloadType < 2 ^ 16) :
    getPayloadType message.header = message.payloadType := by
  have bytes : (message.header.drop 2).take 2 = BigEndian.toBytes 2 message.payloadType := by
    simp [header]
  unfold getPayloadType
  rw [if_pos (length_header message), bytes, BigEndian.ofBytes_toBytes_of_lt fits]

theorem getPayloadLength_header (fits : message.payload.length ≤ uint32Max) :
    getPayloadLength message.header = message.payload.length := by
  have bytes : message.header.drop 4 = BigEndian.toBytes 4 message.payload.length := by
    simp [header]
  have bound : message.payload.length < 256 ^ 4 := by
    unfold uint32Max at fits
    omega
  unfold getPayloadLength
  rw [if_pos (length_header message), bytes, BigEndian.ofBytes_toBytes_of_lt bound]

theorem isPayloadTypeValid_of_mem {payloadType : Nat}
    (known : payloadType ∈ payloadTypes protocol) :
    isPayloadTypeValid protocol payloadType = true := by
  unfold payloadTypes at known
  unfold isPayloadTypeValid
  split
  next earlier =>
    have notV20 : isV20 protocol.ns = false := by
      rcases earlier with rfl | rfl <;> decide
    rw [notV20] at known
    exact decide_eq_true (List.mem_map_of_mem known)
  next =>
    split
    next v20 =>
      rw [if_pos v20] at known
      exact decide_eq_true (List.mem_map_of_mem known)
    next => rfl

theorem isHeaderValid_header (known : message.payloadType ∈ payloadTypes protocol)
    (fits : message.payloadType < 2 ^ 16 ∧ message.payload.length ≤ uint32Max) :
    isHeaderValid protocol message.header = true := by
  unfold isHeaderValid
  rw [getPayloadType_header fits.1, getPayloadLength_header fits.2,
    isPayloadTypeValid_of_mem known]
  simp [header]
  exact_mod_cast fits.2

/-- A message of the protocol is read back from its own bytes, unless it is too short. -/
theorem fromBytes_toBytes {bytes : List UInt8} (written : message.toBytes = .ok bytes)
    (known : message.payloadType ∈ payloadTypes protocol) (long : 2 ≤ message.payload.length) :
    fromBytes protocol bytes = .ok message := by
  rcases toBytes_eq_ok written with ⟨rfl, fits⟩
  have first : (message.header ++ message.payload).take 8 = message.header := by
    rw [← length_header message, List.take_left]
  have rest : (message.header ++ message.payload).drop 8 = message.payload := by
    rw [← length_header message, List.drop_left]
  have enough : 10 ≤ (message.header ++ message.payload).length := by
    rw [List.length_append, length_header]
    omega
  have listed : (message.payloadType : Int) ∈ (payloadTypes protocol).map Int.ofNat :=
    List.mem_map_of_mem known
  unfold fromBytes
  rw [if_pos enough, first, rest, if_pos (isHeaderValid_header known fits),
    getPayloadType_header fits.1, if_pos listed]
  rfl

end V2GTPMessage

/-! ## Objects

What `from_bytes` returns is built by the constructor, which checks the payload type again.
-/

/-- An object of the class `V2GTPMessage`. -/
structure V2GTPObject extends V2GTPMessage where
  protocol : Protocol
  supported : V2GTPMessage.isPayloadTypeValid protocol payloadType = true
  deriving DecidableEq

namespace V2GTPObject

/-- `V2GTPMessage(protocol, payload_type, payload)`. -/
def new (protocol : Protocol) (payloadType : Nat) (payload : List UInt8) :
    Except PyError V2GTPObject :=
  if supported : V2GTPMessage.isPayloadTypeValid protocol payloadType = true then
    .ok ⟨⟨payloadType, payload⟩, protocol, supported⟩
  else
    .error .invalidPayloadTypeError

/-- `payload_length` is set by the constructor. -/
def payloadLength (object : V2GTPObject) : Nat :=
  object.payload.length

/-- `from_bytes` with the constructor. -/
def fromBytes (protocol : Protocol) (data : List UInt8) : Except PyError V2GTPObject := do
  let message ← V2GTPMessage.fromBytes protocol data
  new protocol message.payloadType message.payload

variable {protocol : Protocol} {data : List UInt8} {object : V2GTPObject}

theorem new_eq_ok {payloadType : Nat} {payload : List UInt8}
    (supported : V2GTPMessage.isPayloadTypeValid protocol payloadType = true) :
    new protocol payloadType payload = .ok ⟨⟨payloadType, payload⟩, protocol, supported⟩ := by
  unfold new
  rw [dif_pos supported]

theorem isPayloadTypeValid_of_fromBytes {message : V2GTPMessage}
    (read : V2GTPMessage.fromBytes protocol data = .ok message) :
    V2GTPMessage.isPayloadTypeValid protocol message.payloadType = true :=
  V2GTPMessage.isPayloadTypeValid_of_mem (V2GTPMessage.fromBytes_eq_ok read).2.2

/-- The second check of the payload type never fails. -/
theorem fromBytes_eq_ok_iff :
    fromBytes protocol data = .ok object ↔
      V2GTPMessage.fromBytes protocol data = .ok object.toV2GTPMessage ∧
        object.protocol = protocol := by
  unfold fromBytes
  cases read : V2GTPMessage.fromBytes protocol data with
  | error error => simp [bind, Except.bind]
  | ok message =>
      have supported := isPayloadTypeValid_of_fromBytes read
      simp only [bind, Except.bind]
      rw [new_eq_ok supported]
      constructor
      · intro same
        cases same
        exact ⟨rfl, rfl⟩
      · rintro ⟨same, rfl⟩
        cases same
        rfl

theorem fromBytes_eq_error_iff {error : PyError} :
    fromBytes protocol data = .error error ↔
      V2GTPMessage.fromBytes protocol data = .error error := by
  unfold fromBytes
  cases read : V2GTPMessage.fromBytes protocol data with
  | error error => simp [bind, Except.bind]
  | ok message =>
      have supported := isPayloadTypeValid_of_fromBytes read
      simp only [bind, Except.bind]
      rw [new_eq_ok supported]
      simp

end V2GTPObject

end Iso15118.Shared
