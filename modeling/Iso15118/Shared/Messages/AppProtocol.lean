import Mathlib.Data.List.Infix

/-!
# Protocol negotiation

`shared/messages/app_protocol.py` and the protocols of `shared/messages/enums.py`,
which a `SupportedAppProtocolReq` names by their namespaces.
-/

namespace Iso15118.Shared

/-! ## Protocols -/

inductive Protocol where
  | unknown
  | dinSpec70121
  | iso15118_2
  | iso15118_20CommonMessages
  | iso15118_20Ac
  | iso15118_20Dc
  | iso15118_20Wpt
  | iso15118_20Acdp
  deriving DecidableEq, Repr

/-- `Namespace.ISO_V20_BASE`. -/
def isoV20Base : String := "urn:iso:std:iso:15118:-20"

def Protocol.ns : Protocol → String
  | .unknown => ""
  | .dinSpec70121 => "urn:din:70121:2012:MsgDef"
  | .iso15118_2 => "urn:iso:15118:2:2013:MsgDef"
  | .iso15118_20CommonMessages => "urn:iso:std:iso:15118:-20:CommonMessages"
  | .iso15118_20Ac => "urn:iso:std:iso:15118:-20:AC"
  | .iso15118_20Dc => "urn:iso:std:iso:15118:-20:DC"
  | .iso15118_20Wpt => "urn:iso:std:iso:15118:-20:WPT"
  | .iso15118_20Acdp => "urn:iso:std:iso:15118:-20:ACDP"

/-- The members in the order of their definition. -/
def Protocol.options : List Protocol :=
  [unknown, dinSpec70121, iso15118_2, iso15118_20CommonMessages, iso15118_20Ac, iso15118_20Dc,
    iso15118_20Wpt, iso15118_20Acdp]

/-- `get_by_ns`. -/
def Protocol.getByNs (namespaceUri : String) : Protocol :=
  (options.find? fun protocol => protocol.ns = namespaceUri).getD unknown

theorem Protocol.getByNs_ns (protocol : Protocol) : getByNs protocol.ns = protocol := by
  cases protocol <;> decide

theorem Protocol.ns_injective {first second : Protocol} (same : first.ns = second.ns) :
    first = second := by
  rw [← getByNs_ns first, same, getByNs_ns]

theorem Protocol.ns_eq_iff {first second : Protocol} : first.ns = second.ns ↔ first = second :=
  ⟨ns_injective, congrArg ns⟩

/-- Whether a namespace is one of ISO 15118-20. -/
def isV20 (namespaceUri : String) : Bool :=
  isoV20Base.toList.isPrefixOf namespaceUri.toList

/-! ## Messages -/

/-- `AppProtocol`, with the bounds of its fields. -/
structure AppProtocol where
  protocolNs : String
  majorVersion : Int
  minorVersion : Int
  schemaId : Nat
  priority : Nat
  schemaId_range : schemaId ≤ 255
  priority_range : 1 ≤ priority ∧ priority ≤ 20
  deriving DecidableEq

/-- A priority is a schema id. -/
theorem AppProtocol.schemaId_of_priority {counter : Nat} (range : 1 ≤ counter ∧ counter ≤ 20) :
    counter ≤ 255 :=
  Nat.le_trans range.2 (by decide)

theorem AppProtocol.priority_one : 1 ≤ 1 ∧ 1 ≤ 20 := by decide

inductive ResponseCodeSAP where
  | negotiationOk
  | minorDeviation
  | negotiationFailed
  deriving DecidableEq, Repr

def ResponseCodeSAP.value : ResponseCodeSAP → String
  | .negotiationOk => "OK_SuccessfulNegotiation"
  | .minorDeviation => "OK_SuccessfulNegotiationWithMinorDeviation"
  | .negotiationFailed => "Failed_NoNegotiation"

def ResponseCodeSAP.isPositive : ResponseCodeSAP → Bool
  | .negotiationFailed => false
  | _ => true

structure SupportedAppProtocolReq where
  appProtocol : List AppProtocol
  deriving DecidableEq

structure SupportedAppProtocolRes where
  responseCode : ResponseCodeSAP
  schemaId : Option Nat
  deriving DecidableEq

/-- What the EXI codec can decode before a protocol has been agreed on. -/
inductive SapMessage where
  | req (req : SupportedAppProtocolReq)
  | res (res : SupportedAppProtocolRes)
  deriving DecidableEq

/-- The modules of states that a negotiation can lead to. -/
inductive SessionSetupState where
  | dinSpec
  | v2
  | v20
  deriving DecidableEq, Repr

/-- The states of a protocol. -/
def Protocol.sessionSetup : Protocol → Option SessionSetupState
  | .unknown => none
  | .dinSpec70121 => some .dinSpec
  | .iso15118_2 => some .v2
  | _ => some .v20

end Iso15118.Shared
