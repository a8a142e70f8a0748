import Iso15118.Shared.Messages.V2gtp

/-!
# What is accepted as V2GTP

Bytes that `from_bytes` accepts against the bytes that `to_bytes` writes for the result,
and the other way round.
-/

namespace Iso15118.Shared

namespace V2GTPMessage

variable {protocol : Protocol} {header data : List UInt8} {message : V2GTPMessage}

/-! ## Headers -/

theorem exists_bytes_of_isHeaderValid (valid : isHeaderValid protocol header = true) :
    ∃ type₁ type₂ length₁ length₂ length₃ length₄, header =
      [protocolVersion, invProtocolVersion, type₁, type₂, length₁, length₂, length₃, length₄] := by
  simp only [isHeaderValid, decide_eq_true_eq] at valid
  obtain ⟨eight, version, inverse, -⟩ := valid
  match header, eight with
  | [byte₁, byte₂, type₁, type₂, length₁, length₂, length₃, length₄], _ =>
      cases version
      cases inverse
      exact ⟨type₁, type₂, length₁, length₂, length₃, length₄, rfl⟩

theorem isPayloadTypeValid_of_isHeaderValid (valid : isHeaderValid protocol header = true) :
    isPayloadTypeValid protocol (getPayloadType header) = true := by
  simp only [isHeaderValid, decide_eq_true_eq] at valid
  exact valid.2.2.2.1

theorem getPayloadType_cons (byte₁ byte₂ type₁ type₂ length₁ length₂ length₃ length₄ : UInt8) :
    getPayloadType [byte₁, byte₂, type₁, type₂, length₁, length₂, length₃, length₄] =
      BigEndian.ofBytes [type₁, type₂] :=
  rfl

theorem getPayloadLength_cons (byte₁ byte₂ type₁ type₂ length₁ length₂ length₃ length₄ : UInt8) :
    getPayloadLength [byte₁, byte₂, type₁, type₂, length₁, length₂, length₃, length₄] =
      BigEndian.ofBytes [length₁, length₂, length₃, length₄] :=
  rfl

/-- A valid header is that of every message with its payload type and its length, and what
it says is small enough for `to_bytes`. -/
theorem header_eq_of_isHeaderValid (valid : isHeaderValid protocol header = true)
    (sameType : getPayloadType header = message.payloadType)
    (sameLength : getPayloadLength header = message.payload.length) :
    message.header = header ∧
      message.payloadType < 2 ^ 16 ∧ message.payload.length ≤ uint32Max := by
  obtain ⟨type₁, type₂, length₁, length₂, length₃, length₄, rfl⟩ :=
    exists_bytes_of_isHeaderValid valid
  rw [getPayloadType_cons, Int.natCast_inj] at sameType
  rw [getPayloadLength_cons, Int.natCast_inj] at sameLength
  have typeBytes : BigEndian.toBytes 2 message.payloadType = [type₁, type₂] := by
    rw [← sameType]
    exact BigEndian.toBytes_ofBytes [type₁, type₂]
  have lengthBytes : BigEndian.toBytes 4 message.payload.length =
      [length₁, length₂, length₃, length₄] := by
    rw [← sameLength]
    exact BigEndian.toBytes_ofBytes [length₁, length₂, length₃, length₄]
  have typeBound : BigEndian.ofBytes [type₁, type₂] < 256 ^ 2 := BigEndian.ofBytes_lt _
  have lengthBound : BigEndian.ofBytes [length₁, length₂, length₃, length₄] < 256 ^ 4 :=
    BigEndian.ofBytes_lt _
  constructor
  · simp [V2GTPMessage.header, typeBytes, lengthBytes]
  · unfold uint32Max
    omega

/-- The check of the header leaves only payload types of the enumeration that they are
looked up in, unless the protocol is DIN SPEC 70121. -/
theorem mem_payloadTypes_of_isPayloadTypeValid {payloadType : Int}
    (valid : isPayloadTypeValid protocol payloadType = true) (notDin : protocol ≠ .dinSpec70121) :
    payloadType ∈ (payloadTypes protocol).map Int.ofNat := by
  cases protocol with
  | dinSpec70121 => exact absurd rfl notDin
  | unknown => exact of_decide_eq_true valid
  | iso15118_2 => exact of_decide_eq_true valid
  | iso15118_20CommonMessages => exact of_decide_eq_true valid
  | iso15118_20Ac => exact of_decide_eq_true valid
  | iso15118_20Dc => exact of_decide_eq_true valid
  | iso15118_20Wpt => exact of_decide_eq_true valid
  | iso15118_20Acdp => exact of_decide_eq_true valid

/-- Every payload type of a protocol is one that `from_bytes` finds. -/
theorem mem_payloadTypes_of_mem_payloads {payloadType : Nat}
    (known : payloadType ∈ protocol.payloads) : payloadType ∈ payloadTypes protocol := by
  cases protocol <;> exact known

theorem payloadType_lt_of_mem_payloads {payloadType : Nat}
    (known : payloadType ∈ protocol.payloads) : payloadType < 2 ^ 16 := by
  have small : ∀ other ∈ protocol.payloads, other < 2 ^ 16 := by
    cases protocol <;> decide
  exact small payloadType known

/-! ## Reading -/

theorem fromBytes_eq_ok_iff :
    fromBytes protocol data = .ok message ↔
      10 ≤ data.length ∧ isHeaderValid protocol (data.take 8) = true ∧
        getPayloadType (data.take 8) ∈ (payloadTypes protocol).map Int.ofNat ∧
        message = ⟨(getPayloadType (data.take 8)).toNat, data.drop 8⟩ := by
  unfold fromBytes
  split
  next long =>
    split
    next valid =>
      split
      next known =>
        constructor
        · rintro ⟨⟩
          exact ⟨long, valid, known, rfl⟩
        · rintro ⟨_, _, _, rfl⟩
          rfl
      next unknown => simp [unknown]
    next invalid => simp [invalid]
  next short => simp [short]

theorem fromBytes_eq_invalid_iff :
    fromBytes protocol data = .error .invalidV2gtpMessageError ↔
      (10 ≤ data.length → isHeaderValid protocol (data.take 8) = false) := by
  unfold fromBytes
  split
  next long =>
    split
    next valid =>
      split
      next => simp [long, valid]
      next => simp [long, valid]
    next invalid => simpa [long] using invalid
  next short => simp [short]

/-- Unless the protocol is DIN SPEC 70121, the only error is the documented one. -/
theorem eq_invalid_of_fromBytes_eq_error {error : PyError} (notDin : protocol ≠ .dinSpec70121)
    (rejected : fromBytes protocol data = .error error) : error = .invalidV2gtpMessageError := by
  unfold fromBytes at rejected
  split at rejected
  next =>
    split at rejected
    next valid =>
      have known := mem_payloadTypes_of_isPayloadTypeValid
        (isPayloadTypeValid_of_isHeaderValid valid) notDin
      rw [if_pos known] at rejected
      cases rejected
    next => exact (Except.error.inj rejected).symm
  next => exact (Except.error.inj rejected).symm

end V2GTPMessage

namespace V2GTPObject

variable {protocol : Protocol} {data : List UInt8} {object : V2GTPObject}

/-! ## Bytes that are read and written -/

/-- The bytes are those of the message, part by part. -/
structure IsFormatOf (data : List UInt8) (object : V2GTPObject) : Prop where
  written : object.toBytes = .ok data
  version : data.take 2 = [protocolVersion, invProtocolVersion]
  payloadType : V2GTPMessage.getPayloadType (data.take 8) = object.payloadType
  declaredLength : V2GTPMessage.getPayloadLength (data.take 8) = object.payloadLength
  actualLength : object.payloadLength = data.length - 8
  payload : data.drop 8 = object.payload

/-- `from_bytes` rejects the bytes as it is documented, or reads a message that has them. -/
def AcceptsFormat (protocol : Protocol) (data : List UInt8) : Prop :=
  fromBytes protocol data = .error .invalidV2gtpMessageError ∨
    ∃ object, fromBytes protocol data = .ok object ∧ IsFormatOf data object

/-- With a valid header, the declared length is that of the payload, and DIN SPEC 70121 has
the payload type. -/
def WellFormed (protocol : Protocol) (data : List UInt8) : Prop :=
  10 ≤ data.length → V2GTPMessage.isHeaderValid protocol (data.take 8) = true →
    V2GTPMessage.getPayloadLength (data.take 8) = (data.length - 8 : Nat) ∧
      (protocol = .dinSpec70121 →
        V2GTPMessage.getPayloadType (data.take 8) ∈ dinPayloadTypes.map Int.ofNat)

instance (protocol : Protocol) (data : List UInt8) : Decidable (WellFormed protocol data) :=
  inferInstanceAs (Decidable (_ → _))

theorem wellFormed_of_isFormatOf (read : fromBytes protocol data = .ok object)
    (same : IsFormatOf data object) : WellFormed protocol data := by
  intro _ _
  obtain ⟨_, _, known, _⟩ := V2GTPMessage.fromBytes_eq_ok_iff.mp (fromBytes_eq_ok_iff.mp read).1
  constructor
  · rw [same.declaredLength, same.actualLength]
  · rintro rfl
    exact known

theorem exists_isFormatOf (long : 10 ≤ data.length)
    (valid : V2GTPMessage.isHeaderValid protocol (data.take 8) = true)
    (known : V2GTPMessage.getPayloadType (data.take 8) ∈ (payloadTypes protocol).map Int.ofNat)
    (declared : V2GTPMessage.getPayloadLength (data.take 8) = (data.length - 8 : Nat)) :
    ∃ object, fromBytes protocol data = .ok object ∧ IsFormatOf data object := by
  obtain ⟨payloadType, _, sameType⟩ := List.mem_map.mp known
  have length : V2GTPMessage.getPayloadLength (data.take 8) = ((data.drop 8).length : Int) := by
    rw [declared, List.length_drop]
  have read : V2GTPMessage.fromBytes protocol data = .ok ⟨payloadType, data.drop 8⟩ := by
    apply V2GTPMessage.fromBytes_eq_ok_iff.mpr ⟨long, valid, known, ?_⟩
    rw [← sameType]
    rfl
  have supported := isPayloadTypeValid_of_fromBytes read
  obtain ⟨head, fits⟩ : V2GTPMessage.header ⟨payloadType, data.drop 8⟩ = data.take 8 ∧
      payloadType < 2 ^ 16 ∧ (data.drop 8).length ≤ uint32Max :=
    V2GTPMessage.header_eq_of_isHeaderValid valid sameType.symm length
  obtain ⟨_, _, _, _, _, _, bytes⟩ := V2GTPMessage.exists_bytes_of_isHeaderValid valid
  refine ⟨⟨⟨payloadType, data.drop 8⟩, protocol, supported⟩,
    fromBytes_eq_ok_iff.mpr ⟨read, rfl⟩, ?_⟩
  constructor
  · unfold V2GTPMessage.toBytes
    rw [if_pos fits, head, List.take_append_drop]
  · have first : data.take 2 = (data.take 8).take 2 := by
      rw [List.take_take]
      rfl
    rw [first, bytes]
    rfl
  · exact sameType.symm
  · exact length
  · exact List.length_drop
  · rfl

/-- Accepting exactly the format takes bytes whose declared length is the actual one, and,
with DIN SPEC 70121, a payload type that is looked up with success. -/
theorem acceptsFormat_iff (protocol : Protocol) (data : List UInt8) :
    AcceptsFormat protocol data ↔ WellFormed protocol data := by
  constructor
  · rintro (rejected | ⟨object, read, same⟩)
    · intro long valid
      rw [fromBytes_eq_error_iff, V2GTPMessage.fromBytes_eq_invalid_iff] at rejected
      rw [rejected long] at valid
      cases valid
    · exact wellFormed_of_isFormatOf read same
  · intro wellFormed
    by_cases valid : 10 ≤ data.length ∧ V2GTPMessage.isHeaderValid protocol (data.take 8) = true
    · obtain ⟨long, valid⟩ := valid
      obtain ⟨declared, listed⟩ := wellFormed long valid
      have known : V2GTPMessage.getPayloadType (data.take 8) ∈
          (payloadTypes protocol).map Int.ofNat := by
        by_cases din : protocol = .dinSpec70121
        · have listed := listed din
          rw [din]
          exact listed
        · exact V2GTPMessage.mem_payloadTypes_of_isPayloadTypeValid
            (V2GTPMessage.isPayloadTypeValid_of_isHeaderValid valid) din
      exact Or.inr (exists_isFormatOf long valid known declared)
    · apply Or.inl
      rw [fromBytes_eq_error_iff, V2GTPMessage.fromBytes_eq_invalid_iff]
      intro long
      simpa [long] using valid

/-- The header declares an empty payload, in front of two bytes. -/
def declaredTooShort : List UInt8 :=
  [0x01, 0xFE, 0x80, 0x01, 0x00, 0x00, 0x00, 0x00, 0x98, 0x02]

/-- A length that is not that of the payload is accepted. -/
theorem declaredTooShort_not_acceptsFormat :
    ¬ ∀ protocol data, AcceptsFormat protocol data := by
  intro accepts
  rcases accepts .iso15118_2 declaredTooShort with rejected | ⟨object, read, same⟩
  · rw [fromBytes_eq_error_iff, V2GTPMessage.fromBytes_eq_invalid_iff] at rejected
    have valid := rejected (by decide)
    revert valid
    decide
  · have declared := (wellFormed_of_isFormatOf read same (by decide) (by decide)).1
    revert declared
    decide

/-- With DIN SPEC 70121, an unknown payload type is not rejected as it is documented. -/
example : V2GTPObject.fromBytes .dinSpec70121
    [0x01, 0xFE, 0xA0, 0x00, 0x00, 0x00, 0x00, 0x02, 0x98, 0x02] = .error .valueError := by
  decide

/-! ## Messages that are written and read -/

/-- A message of a protocol that is long enough is read back from its bytes: the protocol,
the payload type, the length and the payload are the same. -/
theorem exists_fromBytes_toBytes (protocol : Protocol) (payloadType : Nat)
    (payload : List UInt8) (known : payloadType ∈ protocol.payloads)
    (long : 2 ≤ payload.length) (short : payload.length ≤ 2 ^ 32 - 1) :
    ∃ sent bytes received, new protocol payloadType payload = .ok sent ∧
      sent.toBytes = .ok bytes ∧ fromBytes protocol bytes = .ok received ∧
      received.protocol = protocol ∧ received.payloadType = payloadType ∧
      received.payloadLength = payload.length ∧ received.payload = payload := by
  have found := V2GTPMessage.mem_payloadTypes_of_mem_payloads known
  have supported := V2GTPMessage.isPayloadTypeValid_of_mem found
  have written : V2GTPMessage.toBytes ⟨payloadType, payload⟩ =
      .ok (V2GTPMessage.header ⟨payloadType, payload⟩ ++ payload) :=
    if_pos ⟨V2GTPMessage.payloadType_lt_of_mem_payloads known, short⟩
  have read := V2GTPMessage.fromBytes_toBytes written found long
  refine ⟨⟨⟨payloadType, payload⟩, protocol, supported⟩, _,
    ⟨⟨payloadType, payload⟩, protocol, supported⟩, new_eq_ok supported, written,
    fromBytes_eq_ok_iff.mpr ⟨read, rfl⟩, ?_⟩
  exact ⟨rfl, rfl, rfl, rfl⟩

/-- The payload looks like a header itself. -/
theorem headerLike_fromBytes_toBytes :
    ∃ sent bytes received,
      new .dinSpec70121 0x8001 [0x01, 0xFE, 0x80, 0x01, 0x00, 0x00, 0x00, 0x00] = .ok sent ∧
      sent.toBytes = .ok bytes ∧ fromBytes .dinSpec70121 bytes = .ok received ∧
      received.protocol = .dinSpec70121 ∧ received.payloadType = 0x8001 ∧
      received.payloadLength = 8 ∧
      received.payload = [0x01, 0xFE, 0x80, 0x01, 0x00, 0x00, 0x00, 0x00] :=
  exists_fromBytes_toBytes .dinSpec70121 0x8001 [0x01, 0xFE, 0x80, 0x01, 0x00, 0x00, 0x00, 0x00]
    (by decide) (by decide) (by decide)

end V2GTPObject

end Iso15118.Shared
