import Iso15118.Shared.CommSession
import Iso15118.Shared.Messages.V2gtp

/-!
# Messages in a byte stream

What `rcv_loop` reads from a TCP connection is taken for one message each time. A
connection has no message boundaries, though: parts of the stream arrive as the
transport cuts it.
-/

namespace Iso15118.Shared

/-! ## Reading -/

/-- How many bytes `rcv_loop` asks for. -/
def readLimit : Nat := 7000

/-- `Reads buffer arrivals reads`: with `buffer` in the stream reader and the parts
`arrivals` still to come, the calls of `read` return `reads`. A call waits until there is
something to return. -/
inductive Reads : List UInt8 → List (List UInt8) → List (List UInt8) → Prop where
  | done : Reads [] [] []
  | feed {buffer part : List UInt8} {arrivals reads : List (List UInt8)}
      (later : Reads (buffer ++ part) arrivals reads) : Reads buffer (part :: arrivals) reads
  | read {buffer : List UInt8} {arrivals reads : List (List UInt8)} (some : buffer ≠ [])
      (later : Reads (buffer.drop readLimit) arrivals reads) :
      Reads buffer arrivals (buffer.take readLimit :: reads)

/-- No byte is lost, added or moved. -/
theorem Reads.flatten_eq {buffer : List UInt8} {arrivals reads : List (List UInt8)}
    (read : Reads buffer arrivals reads) : reads.flatten = buffer ++ arrivals.flatten := by
  induction read with
  | done => rfl
  | feed later ih => rw [ih, List.flatten_cons, List.append_assoc]
  | read some later ih =>
      rw [List.flatten_cons, ih, ← List.append_assoc, List.take_append_drop]

theorem Reads.ne_nil {buffer : List UInt8} {arrivals reads : List (List UInt8)}
    (read : Reads buffer arrivals reads) : ∀ data ∈ reads, data ≠ [] := by
  induction read with
  | done => exact nofun
  | feed later ih => exact ih
  | read some later ih =>
      intro data listed
      rcases List.mem_cons.mp listed with rfl | listed
      · simp [readLimit, some]
      · exact ih data listed

theorem Reads.length_le {buffer : List UInt8} {arrivals reads : List (List UInt8)}
    (read : Reads buffer arrivals reads) : ∀ data ∈ reads, data.length ≤ readLimit := by
  induction read with
  | done => exact nofun
  | feed later ih => exact ih
  | read some later ih =>
      intro data listed
      rcases List.mem_cons.mp listed with rfl | listed
      · exact List.length_take_le _ _
      · exact ih data listed

/-- Parts of a fitting size can be read as they arrive. -/
theorem reads_self {parts : List (List UInt8)}
    (fits : ∀ part ∈ parts, part ≠ [] ∧ part.length ≤ readLimit) : Reads [] parts parts := by
  induction parts with
  | nil => exact .done
  | cons part parts ih =>
      rcases fits part List.mem_cons_self with ⟨filled, short⟩
      have later := ih fun other listed => fits other (List.mem_cons_of_mem part listed)
      apply Reads.feed
      have read : Reads part parts (part.take readLimit :: parts) := by
        apply Reads.read filled
        rw [List.drop_of_length_le short]
        exact later
      rw [List.take_of_length_le short] at read
      exact read

/-! ## The loop -/

variable {ι κ ν μ ω : Type}

/-- What turns the payload of a message into an input: the EXI codec, and all that the
environment answers while the message is processed. -/
structure Codec (ι μ ω : Type) where
  protocol : ω → Protocol
  decode : CommSession μ ω → V2GTPMessage → Option ι

namespace SessionStateMachine

variable (machine : SessionStateMachine ι κ ν μ ω) (codec : Codec ι μ ω)

/-- The messages that `rcv_loop` hands to the state machine. -/
def rcvLoop : CommSession μ ω → List (List UInt8) → List V2GTPMessage
  | _, [] => []
  | session, data :: reads =>
      if session.ended then
        []
      else
        match V2GTPMessage.fromBytes (codec.protocol session.world) data with
        | .error _ => []
        | .ok message =>
            message :: rcvLoop (machine.rcv session (codec.decode session message)) reads

/-- The messages that a state machine gets from a peer, until the session has ended. -/
def handOver : CommSession μ ω → List V2GTPMessage → List V2GTPMessage
  | _, [] => []
  | session, message :: messages =>
      if session.ended then
        []
      else
        message :: handOver (machine.rcv session (codec.decode session message)) messages

/-- Until the session has ended, each message is of its protocol, is not too short, and is
returned by a read of its own. -/
def DeliveredWhole : CommSession μ ω → List V2GTPMessage → List (List UInt8) → Prop
  | session, [], reads => session.ended = true ∨ reads = []
  | session, message :: messages, reads =>
      session.ended = true ∨
        message.payloadType ∈ payloadTypes (codec.protocol session.world) ∧
          2 ≤ message.payload.length ∧
          ∃ data later, reads = data :: later ∧ message.toBytes = .ok data ∧
            DeliveredWhole (machine.rcv session (codec.decode session message)) messages later

variable {machine codec}

@[simp]
theorem rcvLoop_ended {session : CommSession μ ω} (ended : session.ended = true)
    (reads : List (List UInt8)) : machine.rcvLoop codec session reads = [] := by
  cases reads <;> simp [rcvLoop, ended]

@[simp]
theorem handOver_ended {session : CommSession μ ω} (ended : session.ended = true)
    (messages : List V2GTPMessage) : machine.handOver codec session messages = [] := by
  cases messages <;> simp [handOver, ended]

/-- Messages that are delivered whole are handed over. -/
theorem rcvLoop_of_deliveredWhole {messages : List V2GTPMessage} {reads : List (List UInt8)}
    {session : CommSession μ ω}
    (whole : machine.DeliveredWhole codec session messages reads) :
    machine.rcvLoop codec session reads = machine.handOver codec session messages := by
  induction messages generalizing session reads with
  | nil =>
      rcases whole with ended | rfl
      · simp [ended]
      · rfl
  | cons message messages ih =>
      by_cases ended : session.ended = true
      · simp [ended]
      · rcases whole with impossible | ⟨known, long, data, later, rfl, written, whole⟩
        · exact absurd impossible ended
        · unfold rcvLoop handOver
          rw [if_neg ended, if_neg ended, V2GTPMessage.fromBytes_toBytes written known long]
          exact List.cons_eq_cons.mpr ⟨rfl, ih whole⟩

/-- What a read returns as a message begins the stream, so it is the message. -/
theorem eq_of_fromBytes {message : V2GTPMessage} {protocol : Protocol}
    {bytes data rest later : List UInt8} (written : message.toBytes = .ok bytes)
    (stream : data ++ later = bytes ++ rest)
    (read : V2GTPMessage.fromBytes protocol data = .ok message) :
    data = bytes ∧ later = rest := by
  have length : data.length = bytes.length := by
    rw [(V2GTPMessage.fromBytes_eq_ok read).1, V2GTPMessage.length_of_toBytes written]
  exact List.append_inj stream length

/-- Messages that are handed over were delivered whole. -/
theorem deliveredWhole_of_rcvLoop {messages : List V2GTPMessage}
    {parts reads : List (List UInt8)} {session : CommSession μ ω}
    (written : List.Forall₂ (fun message bytes => V2GTPMessage.toBytes message = .ok bytes)
      messages parts)
    (stream : reads.flatten = parts.flatten) (filled : ∀ data ∈ reads, data ≠ [])
    (same : machine.rcvLoop codec session reads = machine.handOver codec session messages) :
    machine.DeliveredWhole codec session messages reads := by
  induction written generalizing session reads with
  | nil =>
      right
      cases reads with
      | nil => rfl
      | cons data later =>
          have empty : data = [] := (List.append_eq_nil_iff.mp stream).1
          exact absurd empty (filled data List.mem_cons_self)
  | @cons message bytes messages parts first written ih =>
      by_cases ended : session.ended = true
      · exact .inl ended
      · unfold handOver at same
        rw [if_neg ended] at same
        cases reads with
        | nil => cases same
        | cons data later =>
            unfold rcvLoop at same
            rw [if_neg ended] at same
            cases decoded : V2GTPMessage.fromBytes (codec.protocol session.world) data with
            | error exception =>
                rw [decoded] at same
                cases same
            | ok found =>
                rw [decoded] at same
                rcases List.cons_eq_cons.mp same with ⟨rfl, same⟩
                rcases V2GTPMessage.fromBytes_eq_ok decoded with ⟨_, long, known⟩
                rcases eq_of_fromBytes first stream decoded with ⟨rfl, rest⟩
                right
                refine ⟨known, long, data, later, rfl, first, ?_⟩
                apply ih rest _ same
                intro other listed
                exact filled other (List.mem_cons_of_mem data listed)

/-- Whatever is delivered whole fits into one read. -/
theorem length_le_of_deliveredWhole {messages : List V2GTPMessage} {reads : List (List UInt8)}
    {session : CommSession μ ω} (fits : ∀ data ∈ reads, data.length ≤ readLimit)
    (whole : machine.DeliveredWhole codec session messages reads) :
    ∀ message ∈ machine.handOver codec session messages,
      8 + message.payload.length ≤ readLimit := by
  induction messages generalizing session reads with
  | nil => exact nofun
  | cons first messages ih =>
      by_cases ended : session.ended = true
      · simp [ended]
      · rcases whole with impossible | ⟨_, _, data, later, rfl, written, whole⟩
        · exact absurd impossible ended
        · unfold handOver
          rw [if_neg ended]
          intro message listed
          rcases List.mem_cons.mp listed with rfl | listed
          · rw [← V2GTPMessage.length_of_toBytes written]
            exact fits data List.mem_cons_self
          · apply ih _ whole message listed
            intro other member
            exact fits other (List.mem_cons_of_mem data member)

end SessionStateMachine

/-! ## A stream that is cut -/

namespace Framing.Sample

/-- A state machine that answers every message and stays in its state. -/
def echo : SessionStateMachine PUnit PUnit PUnit PUnit (StateObject PUnit PUnit PUnit) where
  processMessage _ := modify fun object => object.createNextMessage none ⟨⟩ 60
  currentState object := object
  construct _ _ := { own := ⟨⟩ }
  updateStateInfo _ := pure ⟨⟩

def exi : Codec PUnit PUnit (StateObject PUnit PUnit PUnit) where
  protocol _ := .iso15118_2
  decode _ _ := some ⟨⟩

def session : CommSession PUnit (StateObject PUnit PUnit PUnit) where
  world := { own := ⟨⟩ }

/-- A message with a payload of four bytes. -/
def message : V2GTPMessage := ⟨0x8001, [0x80, 0x98, 0x02, 0x00]⟩

def bytes : List UInt8 := message.header ++ message.payload

end Framing.Sample

namespace SessionStateMachine

variable {machine : SessionStateMachine ι κ ν μ ω} {codec : Codec ι μ ω}

/-- However the stream is cut, the loop hands over the messages of the peer if and only if
they are delivered whole. -/
theorem rcvLoop_eq_handOver_iff {messages : List V2GTPMessage}
    {parts arrivals reads : List (List UInt8)} (session : CommSession μ ω)
    (written : List.Forall₂ (fun message bytes => V2GTPMessage.toBytes message = .ok bytes)
      messages parts)
    (cut : arrivals.flatten = parts.flatten) (read : Reads [] arrivals reads) :
    machine.rcvLoop codec session reads = machine.handOver codec session messages ↔
      machine.DeliveredWhole codec session messages reads := by
  constructor
  · apply deliveredWhole_of_rcvLoop written _ read.ne_nil
    rw [read.flatten_eq, List.nil_append, cut]
  · exact rcvLoop_of_deliveredWhole

open Framing.Sample in
/-- Two messages that arrive one by one. -/
theorem rcvLoop_eq_handOver_iff_whole :
    echo.rcvLoop exi session [bytes, bytes] = echo.handOver exi session [message, message] ↔
      echo.DeliveredWhole exi session [message, message] [bytes, bytes] :=
  rcvLoop_eq_handOver_iff session (.cons (by decide) (.cons (by decide) .nil)) rfl
    (reads_self (by decide))

open Framing.Sample in
/-- The header of a message arrives before its payload. -/
theorem rcvLoop_split :
    ∃ arrivals reads, arrivals.flatten = bytes ∧ message.toBytes = .ok bytes ∧
      Reads [] arrivals reads ∧
      echo.rcvLoop exi session reads ≠ echo.handOver exi session [message] :=
  ⟨[message.header, message.payload], [message.header, message.payload], rfl, by decide,
    reads_self (by decide), by decide⟩

end SessionStateMachine

end Iso15118.Shared
