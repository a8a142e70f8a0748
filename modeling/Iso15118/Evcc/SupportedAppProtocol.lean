import Iso15118.Evcc.World
import Iso15118.Shared.Messages.AppProtocol
import Iso15118.Shared.Messages.Header

/-!
# Protocol negotiation on the side of the EVCC

`create_sap` of `evcc/comm_session_handler.py` and `SupportedAppProtocol` of
`evcc/states/sap_states.py`. The entry that the SECC has chosen is looked up by its
schema id.
-/

namespace Iso15118.Evcc.Sap

open Effect
open Iso15118.Shared

structure Session where
  supportedProtocols : List Protocol
  isTls : Bool := true
  supportedAppProtocols : List AppProtocol := []
  protocol : Protocol := .unknown
  sessionId : String := ""
  resumeSessionId : Option String := none
  stopReason : Option StopNotification := none
  deriving DecidableEq

/-! ## The request -/

/-- `2 if protocol in [Protocol.ISO_15118_2, Protocol.DIN_SPEC_70121] else 1`. -/
def majorVersion (protocol : Protocol) : Int :=
  if protocol ∈ [.iso15118_2, .dinSpec70121] then 2 else 1

/-- `AppProtocol(...)` for a protocol, with the running counter as schema id and as
priority. -/
def appProtocolEntry (protocol : Protocol) (counter : Nat) : Except PyError AppProtocol :=
  if protocol = .unknown then
    .error .attributeError
  else if allowed : 1 ≤ counter ∧ counter ≤ 20 then
    .ok
      { protocolNs := protocol.ns
        majorVersion := majorVersion protocol
        minorVersion := 0
        schemaId := counter
        priority := counter
        schemaId_range := AppProtocol.schemaId_of_priority allowed
        priority_range := allowed }
  else
    .error .validationError

/-- The loop of `create_sap`, behind a number of entries. -/
def appProtocols (counter : Nat) : List Protocol → Except PyError (List AppProtocol)
  | [] => .ok []
  | protocol :: rest => do
      let entry ← appProtocolEntry protocol (counter + 1)
      let entries ← appProtocols (counter + 1) rest
      return entry :: entries

/-- `create_sap`. With TLS, the first DIN SPEC 70121 is removed from the configuration. -/
def createSap : EStateM PyError Session SupportedAppProtocolReq := do
  modify fun session =>
    { session with
      supportedProtocols :=
        if session.isTls then session.supportedProtocols.erase .dinSpec70121
        else session.supportedProtocols }
  let session ← get
  let appProtocols ← Effect.ofExcept (appProtocols 0 session.supportedProtocols)
  modify fun session => { session with supportedAppProtocols := appProtocols }
  return ⟨appProtocols⟩

/-! ## The response -/

/-- The controller methods that the state calls. -/
class EVController (ρ : Type) where
  getEvccId : Protocol → EStateM PyError ρ String

inductive Call where
  | getEvccId (protocol : Protocol)
  deriving DecidableEq

/-- The `SessionSetupReq` of a module of states. -/
structure SessionSetupReq where
  state : SessionSetupState
  sessionId : String
  evccId : String
  deriving DecidableEq

/-- The bounds that the models put on an EVCC id. -/
def checkEvccId (state : SessionSetupState) (evccId : String) : Except PyError Unit :=
  let allowed : Bool :=
    match state with
    | .v2 => evccId.length ≤ 12 ∧ isHexLiteral evccId
    | .dinSpec => evccId.length ≤ 16 ∧ isHexLiteral evccId
    | .v20 => evccId.length ≤ 255
  if allowed then .ok ⟨⟩ else .error .validationError

abbrev World (ρ : Type) := Evcc.World Session PUnit SessionSetupState SessionSetupReq Call ρ

abbrev Program (ρ : Type) := EStateM PyError (World ρ)

def sessionSetupReqTimeout : ℚ := 2

section

variable {ρ : Type}

/-- `stop_state_machine`. -/
def stopStateMachine : Program ρ PUnit := do
  updateSession fun session => { session with stopReason := some { successful := false } }
  setNextState (some .terminate)

/-- `create_next_message`. -/
def createNextMessage (req : SessionSetupReq) : Program ρ PUnit :=
  modify fun world =>
    { world with
      currentState :=
        world.currentState.createNextMessage (some (.state req.state)) req sessionSetupReqTimeout }

/-- `get_session_id`: that of a paused session, unless it is empty, or zeros. -/
def getSessionId (length : Nat) : Program ρ String := do
  updateSession fun session =>
    { session with
      sessionId := (session.resumeSessionId.filter (· ≠ "")).getD
        (String.ofList (List.replicate (2 * length) '0'))
      resumeSessionId := session.resumeSessionId.filter (· = "") }
  let world ← get
  return world.session.sessionId

/-- `if "FAILED" in response_code` of `check_msg`. -/
def isFailed (responseCode : ResponseCodeSAP) : Bool :=
  decide ("FAILED".toList <:+: responseCode.value.toList)

variable [EVController ρ]

/-- The id of the controller in the `SessionSetupReq` of a module of states. -/
def evccIdFor (state : SessionSetupState) (protocol : Protocol) : Program ρ String := do
  let evccId ← ask (.getEvccId protocol) (EVController.getEvccId protocol)
  Effect.ofExcept (checkEvccId state evccId)
  return evccId

/-- The branch of an entry whose schema id matches. `evccIdV2` is in the message that was
prepared for ISO 15118-2 before. -/
def onMatch (entry : AppProtocol) (evccIdV2 : String) : Program ρ PUnit :=
  if entry.protocolNs = Protocol.ns .iso15118_2 then do
    updateSession fun session => { session with protocol := .iso15118_2 }
    let sessionId ← getSessionId 1
    Effect.ofExcept (checkSessionId sessionId)
    createNextMessage ⟨.v2, sessionId, evccIdV2⟩
  else if entry.protocolNs = Protocol.ns .dinSpec70121 then do
    updateSession fun session => { session with protocol := .dinSpec70121 }
    let sessionId ← getSessionId 1
    let evccId ← evccIdFor .dinSpec .dinSpec70121
    Effect.ofExcept (checkSessionId sessionId)
    createNextMessage ⟨.dinSpec, sessionId, evccId⟩
  else if isV20 entry.protocolNs then do
    updateSession fun session => { session with protocol := .getByNs entry.protocolNs }
    let sessionId ← getSessionId 8
    Effect.ofExcept (checkSessionId sessionId)
    let evccId ← evccIdFor .v20 (.getByNs entry.protocolNs)
    createNextMessage ⟨.v20, sessionId, evccId⟩
  else
    throw .messageProcessingError

def onSupportedAppProtocolRes (sapRes : SupportedAppProtocolRes) : Program ρ PUnit := do
  let evccIdV2 ← evccIdFor .v2 .iso15118_2
  let world ← get
  match world.session.supportedAppProtocols.find? fun entry =>
      some entry.schemaId = sapRes.schemaId with
  | some entry => onMatch entry evccIdV2
  | none => stopStateMachine

/-- `SupportedAppProtocol.process_message`. -/
def processMessage (message : SapMessage) : Program ρ PUnit :=
  match message with
  | .req _ => stopStateMachine
  | .res sapRes =>
      if isFailed sapRes.responseCode then stopStateMachine else onSupportedAppProtocolRes sapRes

end

end Iso15118.Evcc.Sap
