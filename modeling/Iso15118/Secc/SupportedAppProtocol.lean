import Iso15118.Secc.World
import Iso15118.Shared.Messages.AppProtocol
import Mathlib.Data.List.Sort

/-!
# Protocol negotiation on the side of the SECC

`SupportedAppProtocol` of `secc/states/sap_states.py`. The entries of the EVCC are
tried in the order of their priorities.
-/

namespace Iso15118.Secc.Sap

open Effect
open Iso15118.Shared

structure Session where
  supportedProtocols : List Protocol
  protocol : Protocol := .unknown
  selectedChargingTypeIsAc : Bool := true
  stopReason : Option StopNotification := none
  deriving DecidableEq

inductive Call where
  | setSelectedProtocol (protocol : Protocol)
  deriving DecidableEq

abbrev World := Secc.World Session PUnit SessionSetupState SupportedAppProtocolRes Call PUnit

abbrev Program := EStateM PyError World

def v2gSeccSequenceTimeout : ℚ := 60

def createNextMessage (nextState : NextState SessionSetupState) (res : SupportedAppProtocolRes)
    (timeout : ℚ) : Program PUnit :=
  modify fun world =>
    { world with
      currentState := world.currentState.createNextMessage (some nextState) res timeout }

/-- `stop_state_machine`. For what is not a request, neither a message type nor a
namespace is known. -/
def stopStateMachine (faultyRequest : SapMessage) (responseCode : ResponseCodeSAP) :
    Program PUnit := do
  updateSession fun session => { session with stopReason := some { successful := false } }
  match faultyRequest with
  | .req _ => createNextMessage .terminate ⟨responseCode, none⟩ 0
  | .res _ => throw .attributeError

/-- `[protocol.ns.value for protocol in supported_protocols]`. The namespace of
`Protocol.UNKNOWN` is no member of `Namespace` and has no `value`. -/
def supportedNsList (supportedProtocols : List Protocol) : Except PyError (List String) :=
  if .unknown ∈ supportedProtocols then .error .attributeError
  else .ok (supportedProtocols.map Protocol.ns)

/-- The branches of the loop: where an entry leads. -/
def nextStateFor (supportedNsList : List String) (protocol : AppProtocol) :
    Option SessionSetupState :=
  if protocol.protocolNs ∈ supportedNsList then
    if protocol.protocolNs = Protocol.ns .iso15118_2 ∧ protocol.majorVersion = 2 then
      some .v2
    else if protocol.protocolNs = Protocol.ns .dinSpec70121 ∧ protocol.majorVersion = 2 then
      some .dinSpec
    else if isV20 protocol.protocolNs ∧ protocol.majorVersion = 1 then
      some .v20
    else
      none
  else
    none

/-- The loop over the sorted entries, up to the first that leads somewhere. -/
def select (supportedNsList : List String) :
    List AppProtocol → Option (AppProtocol × SessionSetupState)
  | [] => none
  | protocol :: rest =>
      match nextStateFor supportedNsList protocol with
      | some nextState => some (protocol, nextState)
      | none => select supportedNsList rest

/-- `app_protocol.sort(key=lambda proto: proto.priority)`. -/
def sortByPriority (appProtocol : List AppProtocol) : List AppProtocol :=
  appProtocol.insertionSort fun first second => first.priority ≤ second.priority

def responseCodeFor (protocol : AppProtocol) : ResponseCodeSAP :=
  if protocol.minorVersion = 0 then .negotiationOk else .minorDeviation

def onSupportedAppProtocolReq (sapReq : SupportedAppProtocolReq) : Program PUnit := do
  let world ← get
  let supportedNsList ← Effect.ofExcept (supportedNsList world.session.supportedProtocols)
  match select supportedNsList (sortByPriority sapReq.appProtocol) with
  | none => stopStateMachine (.req sapReq) .negotiationFailed
  | some (protocol, nextState) => do
      let selectedProtocol := Protocol.getByNs protocol.protocolNs
      updateSession fun session =>
        { session with
          selectedChargingTypeIsAc :=
            if nextState = .dinSpec then false else session.selectedChargingTypeIsAc }
      createNextMessage (.state nextState) ⟨responseCodeFor protocol, some protocol.schemaId⟩
        v2gSeccSequenceTimeout
      updateSession fun session => { session with protocol := selectedProtocol }
      ask (.setSelectedProtocol selectedProtocol) (.ok ⟨⟩)

/-- `SupportedAppProtocol.process_message`. -/
def processMessage (message : SapMessage) : Program PUnit :=
  match message with
  | .req sapReq => onSupportedAppProtocolReq sapReq
  | .res _ => stopStateMachine message .negotiationFailed

end Iso15118.Secc.Sap
