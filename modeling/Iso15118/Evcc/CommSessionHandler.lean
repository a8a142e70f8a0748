import Iso15118.Library.Effect
import Iso15118.Library.Run
import Iso15118.Shared.Messages.Sdp
import Iso15118.Shared.Messages.V2gtp

/-!
# The communication session handler of the EVCC

`CommunicationSessionHandler` of `evcc/comm_session_handler.py`: how an SECC is looked for,
and what becomes of the datagrams and the notifications in the receiving queue. The UDP
client puts one notification into the queue for each request that it has sent, which is a
datagram or a timeout.
-/

namespace Iso15118.Evcc.Handler

open Effect
open Iso15118.Shared

/-- `SDP_MAX_REQUEST_COUNTER`. -/
def sdpMaxRequestCounter : Nat := 50

/-- The settings of `EVCCConfig` that the handler reads. -/
structure EVCCConfig where
  useTls : Bool
  enforceTls : Bool
  sdpRetryCycles : Int

/-- The attribute `comm_session`: no session and no task, or both, or no attribute. -/
inductive CommSession where
  | none
  | running (host : List UInt8) (port : Nat) (isTls : Bool)
  | deleted
  deriving DecidableEq

def CommSession.isRunning : CommSession → Bool
  | .running _ _ _ => true
  | _ => false

/-- What the handler has done for the discovery of an SECC. -/
inductive Action where
  | sdpCycle
  | sdpRequest (request : SDPRequest)
  deriving DecidableEq

/-- The actions are kept newest first. -/
structure CommunicationSessionHandler where
  config : EVCCConfig
  sdpRetriesNumber : Nat
  sdpRetryCycles : Int
  commSession : CommSession
  actions : List Action

/-- `CommunicationSessionHandler(...)`. -/
def CommunicationSessionHandler.new (config : EVCCConfig) : CommunicationSessionHandler where
  config := config
  sdpRetriesNumber := sdpMaxRequestCounter
  sdpRetryCycles := config.sdpRetryCycles
  commSession := .none
  actions := []

/-- How the calls end that the handler makes while it deals with one notification: sending a
request, connecting to the SECC, sending the `SupportedAppProtocolReq`, and cancelling the
task of the session. -/
structure Surroundings where
  sendAndReceive : Except PyError PUnit := .ok ⟨⟩
  tcpClientCreate : Except PyError PUnit := .ok ⟨⟩
  sendSap : Except PyError PUnit := .ok ⟨⟩
  cancelTask : Except PyError PUnit := .ok ⟨⟩

abbrev Program := EStateM PyError CommunicationSessionHandler

variable (around : Surroundings)

/-! ## Requests -/

def sendSdp : Program PUnit := do
  let handler ← get
  Effect.ofExcept around.sendAndReceive
  modify fun handler' =>
    { handler' with
      actions := .sdpRequest ⟨if handler.config.useTls then .tls else .noTls, .tcp⟩ ::
        handler'.actions }

/-- What `restart_sdp` does first if a new cycle is to be initiated. -/
def initiateCycle : Program PUnit := do
  let handler ← get
  if handler.sdpRetryCycles = 0 then
    throw .sdpFailedError
  else
    modify fun handler =>
      { handler with
        sdpRetryCycles := handler.sdpRetryCycles - 1
        sdpRetriesNumber := sdpMaxRequestCounter
        actions := .sdpCycle :: handler.actions }

/-- What `restart_sdp` does with the requests that remain. -/
def requestAgain : Program PUnit := do
  let handler ← get
  if 0 < handler.sdpRetriesNumber then do
    tryCatch (sendSdp around) fun exception =>
      if exception = .invalidSettingsValueError then pure ⟨⟩ else throw exception
    modify fun handler => { handler with sdpRetriesNumber := handler.sdpRetriesNumber - 1 }
  else do
    modify fun handler => { handler with sdpRetriesNumber := sdpMaxRequestCounter }
    throw .sdpFailedError

def restartSdp (newSdpCycle : Bool) : Program PUnit :=
  if newSdpCycle then do
    initiateCycle
    requestAgain around
  else
    requestAgain around

/-- `restart_sdp` where `SDPFailedError` is caught. -/
def tryRestartSdp (newSdpCycle : Bool) : Program PUnit :=
  tryCatch (restartSdp around newSdpCycle) fun exception =>
    if exception = .sdpFailedError then pure ⟨⟩ else throw exception

/-! ## Responses -/

def startCommSession (host : List UInt8) (port : Nat) (isTls : Bool) : Program PUnit :=
  match around.tcpClientCreate with
  | .error _ => pure ⟨⟩
  | .ok _ =>
      match around.sendSap with
      | .ok _ => modify fun handler => { handler with commSession := .running host port isTls }
      | .error exception =>
          if exception = .messageProcessingError then pure ⟨⟩ else throw exception

/-- What an `SDPResponse` with all of its attributes leads to. -/
def onSdpResponse (response : SDPResponseAttributes) : Program PUnit := do
  let handler ← get
  let seccSignalsTls : Bool := response.security = .tls
  if (!seccSignalsTls && handler.config.enforceTls) ||
      (seccSignalsTls && !handler.config.useTls) then
    pure ⟨⟩
  else
    startCommSession around response.ipAddress response.port seccSignalsTls

/-- The log entry for a response reads its attributes. -/
def processIncomingUdpPacket (data : List UInt8) : Program PUnit :=
  match V2GTPObject.fromBytes .unknown data with
  | .error exception =>
      if exception = .invalidV2gtpMessageError then pure ⟨⟩ else throw exception
  | .ok message =>
      if message.payloadType = 0x9001 then
        match SDPResponse.fromPayload message.payload with
        | .error exception =>
            if exception = .invalidSdpResponseError then tryRestartSdp around true
            else throw exception
        | .ok response => do
            let attributes ← Effect.ofExcept response.read
            onSdpResponse around attributes
      else if message.payloadType = 0x9003 then
        throw .notImplementedError
      else
        tryRestartSdp around true

/-! ## The receiving queue -/

inductive Notification where
  | udpPacket (data : List UInt8)
  | receiveTimeout
  | stop (successful : Bool)
  deriving DecidableEq

/-- Cancelling the task of the session and deleting the attribute. -/
def removeCommSession : Program PUnit := do
  let handler ← get
  if handler.commSession.isRunning then do
    Effect.ofExcept around.cancelTask
    modify fun handler => { handler with commSession := .deleted }
  else
    throw .attributeError

/-- An iteration of `get_from_rcv_queue`; the result tells whether it leaves the loop. -/
def getFromRcvQueue : Notification → Program Bool
  | .udpPacket data => do
      processIncomingUdpPacket around data
      return false
  | .receiveTimeout => do
      tryRestartSdp around false
      return false
  | .stop successful => do
      removeCommSession around
      if successful then
        return true
      else do
        tryRestartSdp around true
        return false

/-! ## Runs -/

/-- The handler and the queue: how many of the requests have been answered, and whether the
handler is still at work. -/
structure System where
  handler : CommunicationSessionHandler
  answered : Nat
  finished : Bool

/-- An exception ends the task that runs the handler. -/
def System.of (answered : Nat) : EStateM.Result PyError CommunicationSessionHandler Bool → System
  | .ok finished handler => ⟨handler, answered, finished⟩
  | .error _ handler => ⟨handler, answered, true⟩

/-- `start_session_handler`. -/
def System.start (config : EVCCConfig) : System :=
  .of 0 (((fun _ => false) <$> restartSdp around true) (.new config))

/-- How many requests have been sent. -/
def requests (actions : List Action) : Nat :=
  actions.countP fun action => action ≠ .sdpCycle

/-- How many requests have been sent in the current cycle. -/
def requestsInCycle (actions : List Action) : Nat :=
  (actions.takeWhile fun action => action ≠ .sdpCycle).length

structure Event where
  notification : Notification
  around : Surroundings

/-- A datagram or a timeout answers a request, which has not been answered before. -/
inductive Step : System → Event → System → Prop where
  | udpPacket {handler : CommunicationSessionHandler} {answered : Nat} {around : Surroundings}
      (data : List UInt8) (answers : answered < requests handler.actions) :
      Step ⟨handler, answered, false⟩ ⟨.udpPacket data, around⟩
        (.of (answered + 1) (getFromRcvQueue around (.udpPacket data) handler))
  | receiveTimeout {handler : CommunicationSessionHandler} {answered : Nat}
      {around : Surroundings} (answers : answered < requests handler.actions) :
      Step ⟨handler, answered, false⟩ ⟨.receiveTimeout, around⟩
        (.of (answered + 1) (getFromRcvQueue around .receiveTimeout handler))
  | stop {handler : CommunicationSessionHandler} {answered : Nat} {around : Surroundings}
      (successful : Bool) :
      Step ⟨handler, answered, false⟩ ⟨.stop successful, around⟩
        (.of answered (getFromRcvQueue around (.stop successful) handler))

end Iso15118.Evcc.Handler
