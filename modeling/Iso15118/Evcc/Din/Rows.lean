import Iso15118.Evcc.Din.States

/-!
# What the DIN SPEC 70121 states of the EVCC do

A table of what a state does with the response that it expects: which variables it changes, where
it goes and what it sends. It says nothing of the exceptions that a controller or a model raises.
-/

namespace Iso15118.Evcc.Din

open Effect
open Iso15118.Shared
open Iso15118.Shared.Din
open Iso15118.Shared.V2 (DCEVSEStatus EVSEProcessing)

/-! ## Turns -/

/-- What a state has done with a response. Without a request, none has been prepared. -/
structure Turn where
  session : Session
  nextState : Option (NextState StateName)
  request : Option Request

/-- The state machine has been stopped. -/
def Turn.stop (session : Session) : Turn where
  session := session.stopped
  nextState := some .terminate
  request := none

/-- A request, and the state for its response. -/
def Turn.to (session : Session) (name : StateName) (request : Request) : Turn where
  session := session
  nextState := some (.state name)
  request := some request

/-- A request, the response to which is for the same object. -/
def Turn.stay (session : Session) (request : Request) : Turn where
  session := session
  nextState := none
  request := some request

/-- The variables, the state and the message after a turn. Without a request, the message that
was there stays. -/
structure Turn.Leads {ρ : Type} (turn : Turn) (before after : World ρ) : Prop where
  session : after.session = turn.session
  own : after.currentState.own = before.currentState.own
  nextState : after.currentState.nextState = turn.nextState
  message : after.currentState.nextV2gtpMsg =
    match turn.request with
    | some request => some ⟨{ sessionId := turn.session.sessionId }, request⟩
    | none => before.currentState.nextV2gtpMsg

/-! ## The timer -/

/-- The session in a phase that goes on. -/
def elapsed (runs stands : ℚ → Bool) (answers : Answers) (session : Session) : Session :=
  if runs session.ongoingTimer = false ∧ stands session.ongoingTimer = true then
    { session with ongoingTimer := answers.now }
  else session

@[simp]
theorem elapsed_sessionId (runs stands : ℚ → Bool) (answers : Answers) (session : Session) :
    (elapsed runs stands answers session).sessionId = session.sessionId := by
  unfold elapsed
  split <;> rfl

/-- The phase has taken too long. -/
def TimedOut (runs : ℚ → Bool) (timeout : ℚ) (answers : Answers) (session : Session) : Prop :=
  runs session.ongoingTimer = true ∧ answers.now - session.ongoingTimer > timeout

/-- The session in a phase that shares its timer with other phases. -/
def elapsedInSequence (answers : Answers) (session : Session) : Session :=
  elapsed (fun timer => timer > 0) (fun timer => timer = -1) answers session

@[simp]
theorem elapsedInSequence_sessionId (answers : Answers) (session : Session) :
    (elapsedInSequence answers session).sessionId = session.sessionId :=
  elapsed_sessionId _ _ answers session

/-- The phases that share a timer have taken too long. -/
def SequenceTimedOut (answers : Answers) (session : Session) : Prop :=
  TimedOut (fun timer => timer > 0) Timeouts.v2gSeccSequenceTimeout answers session

/-! ## The table -/

/-- What `ServiceDiscovery` leaves. -/
def Discovered (session discovered : Session) : Prop :=
  ∃ authOption services energyMode, discovered =
    { session with
      selectedAuthOption := authOption
      selectedServices := services
      selectedEnergyMode := some energyMode
      resumeRequestedEnergyMode := none }

theorem Discovered.sessionId {session discovered : Session}
    (discovers : Discovered session discovered) : discovered.sessionId = session.sessionId := by
  obtain ⟨_, _, _, rfl⟩ := discovers
  rfl

/-- The table. `header` is that of the response. -/
inductive Row (answers : Answers) (header : MessageHeader) :
    StateName → Response → Session → Turn → Prop
  | sessionSetup (evseId : String) (session : Session) :
      Row answers header .sessionSetup (.sessionSetupRes evseId) session
        (.to { session with sessionId := header.sessionId, evseId := evseId } .serviceDiscovery
          .serviceDiscoveryReq)
  | serviceDiscovery (res : ServiceDiscoveryRes) (session discovered : Session)
      (req : ServicePaymentSelectionReq) (discovers : Discovered session discovered) :
      Row answers header .serviceDiscovery (.serviceDiscoveryRes res) session
        (.to discovered .servicePaymentSelection (.servicePaymentSelectionReq req))
  | notOffered (res : ServiceDiscoveryRes) (session discovered : Session)
      (discovers : Discovered session discovered) :
      Row answers header .serviceDiscovery (.serviceDiscoveryRes res) session (.stop discovered)
  | servicePaymentSelection (session : Session) :
      Row answers header .servicePaymentSelection .servicePaymentSelectionRes session
        (.to session .contractAuthentication .contractAuthenticationReq)
  | authenticated (session : Session) (req : ChargeParameterDiscoveryReq)
      (within : ¬SequenceTimedOut answers session) :
      Row answers header .contractAuthentication (.contractAuthenticationRes .finished) session
        (.to (elapsedInSequence answers session) .chargeParameterDiscovery
          (.chargeParameterDiscoveryReq req))
  | repeatAuthentication (evseProcessing : EVSEProcessing) (session : Session)
      (ongoing : evseProcessing ≠ .finished) (within : ¬SequenceTimedOut answers session) :
      Row answers header .contractAuthentication (.contractAuthenticationRes evseProcessing) session
        (.stay (elapsedInSequence answers session) .contractAuthenticationReq)
  | authenticationTimeout (evseProcessing : EVSEProcessing) (session : Session)
      (late : SequenceTimedOut answers session) :
      Row answers header .contractAuthentication (.contractAuthenticationRes evseProcessing) session
        (.stop session)
  | schedule (res : ChargeParameterDiscoveryRes) (session : Session) (req : CableCheckReq)
      (scheduleId : Nat) (finished : res.evseProcessing = .finished) :
      Row answers header .chargeParameterDiscovery (.chargeParameterDiscoveryRes res) session
        (.to { session with ongoingTimer := -1, selectedSchedule := some scheduleId }
          .cableCheck (.cableCheckReq req))
  | repeatChargeParameters (res : ChargeParameterDiscoveryRes) (session : Session)
      (req : ChargeParameterDiscoveryReq) (ongoing : res.evseProcessing ≠ .finished)
      (within : ¬SequenceTimedOut answers session) :
      Row answers header .chargeParameterDiscovery (.chargeParameterDiscoveryRes res) session
        (.stay (elapsedInSequence answers session) (.chargeParameterDiscoveryReq req))
  | chargeParametersTimeout (res : ChargeParameterDiscoveryRes) (session : Session)
      (ongoing : res.evseProcessing ≠ .finished) (late : SequenceTimedOut answers session) :
      Row answers header .chargeParameterDiscovery (.chargeParameterDiscoveryRes res) session
        (.stop session)
  | cableChecked (dcEvseStatus : DCEVSEStatus) (session : Session) (req : PreChargeReq) :
      Row answers header .cableCheck (.cableCheckRes dcEvseStatus .finished) session
        (.to { session with ongoingTimer := -1 } .preCharge (.preChargeReq req))
  | cableUnsafe (dcEvseStatus : DCEVSEStatus) (session : Session) :
      Row answers header .cableCheck (.cableCheckRes dcEvseStatus .finished) session
        (.stop { session with ongoingTimer := -1 })
  | repeatCableCheck (dcEvseStatus : DCEVSEStatus) (evseProcessing : EVSEProcessing)
      (session : Session) (req : CableCheckReq) (ongoing : evseProcessing ≠ .finished)
      (within : ¬TimedOut (fun timer => timer ≥ 0) Timeouts.v2gEvccCableCheckTimeout answers
        session) :
      Row answers header .cableCheck (.cableCheckRes dcEvseStatus evseProcessing) session
        (.stay (elapsed (fun timer => timer ≥ 0) (fun timer => timer = -1) answers session)
          (.cableCheckReq req))
  | cableCheckTimeout (dcEvseStatus : DCEVSEStatus) (evseProcessing : EVSEProcessing)
      (session : Session) (ongoing : evseProcessing ≠ .finished)
      (late : TimedOut (fun timer => timer ≥ 0) Timeouts.v2gEvccCableCheckTimeout answers
        session) :
      Row answers header .cableCheck (.cableCheckRes dcEvseStatus evseProcessing) session
        (.stop session)
  | preCharged (dcEvseStatus : DCEVSEStatus) (evsePresentVoltage : PhysicalValue)
      (session : Session) (req : PowerDeliveryReq) (ready : req.readyToCharge = true) :
      Row answers header .preCharge (.preChargeRes dcEvseStatus evsePresentVoltage) session
        (.to { session with ongoingTimer := -1 } .powerDelivery (.powerDeliveryReq req))
  | repeatPreCharge (dcEvseStatus : DCEVSEStatus) (evsePresentVoltage : PhysicalValue)
      (session : Session) (req : PreChargeReq)
      (within : ¬TimedOut (fun timer => timer ≥ 0) Timeouts.v2gEvccPreChargeTimeout answers
        session) :
      Row answers header .preCharge (.preChargeRes dcEvseStatus evsePresentVoltage) session
        (.stay (elapsed (fun timer => timer ≥ 0) (fun _ => true) answers session)
          (.preChargeReq req))
  | preChargeTimeout (dcEvseStatus : DCEVSEStatus) (evsePresentVoltage : PhysicalValue)
      (session : Session)
      (late : TimedOut (fun timer => timer ≥ 0) Timeouts.v2gEvccPreChargeTimeout answers
        session) :
      Row answers header .preCharge (.preChargeRes dcEvseStatus evsePresentVoltage) session
        (.stop session)
  | charge (dcEvseStatus : DCEVSEStatus) (session : Session) (req : CurrentDemandReq) :
      Row answers header .powerDelivery (.powerDeliveryRes dcEvseStatus) session
        (.to session .currentDemand (.currentDemandReq req))
  | detectWelding (dcEvseStatus : DCEVSEStatus) (session : Session) :
      Row answers header .powerDelivery (.powerDeliveryRes dcEvseStatus) session
        (.to session .weldingDetection .weldingDetectionReq)
  | stopCharging (res : CurrentDemandRes) (session : Session) (req : PowerDeliveryReq)
      (stops : req.readyToCharge = false) :
      Row answers header .currentDemand (.currentDemandRes res) session
        (.to session .powerDelivery (.powerDeliveryReq req))
  | repeatCurrentDemand (res : CurrentDemandRes) (session : Session) (req : CurrentDemandReq) :
      Row answers header .currentDemand (.currentDemandRes res) session
        (.stay session (.currentDemandReq req))
  | weldingDetected (dcEvseStatus : DCEVSEStatus) (evsePresentVoltage : PhysicalValue)
      (session : Session) (within : ¬SequenceTimedOut answers session) :
      Row answers header .weldingDetection (.weldingDetectionRes dcEvseStatus evsePresentVoltage)
        session
        (.to (elapsedInSequence answers session) .sessionStop .sessionStopReq)
  | detectOn (dcEvseStatus : DCEVSEStatus) (evsePresentVoltage : PhysicalValue)
      (session : Session) (within : ¬SequenceTimedOut answers session) :
      Row answers header .weldingDetection (.weldingDetectionRes dcEvseStatus evsePresentVoltage)
        session
        (.stay (elapsedInSequence answers session) .weldingDetectionReq)
  | weldingTimeout (dcEvseStatus : DCEVSEStatus) (evsePresentVoltage : PhysicalValue)
      (session : Session) (late : SequenceTimedOut answers session) :
      Row answers header .weldingDetection (.weldingDetectionRes dcEvseStatus evsePresentVoltage)
        session
        (.stop session)
  | terminate (session : Session) :
      Row answers header .sessionStop .sessionStopRes session
        { session := { session with stopReason := some { successful := true } }
          nextState := some .terminate
          request := none }

/-- The responses that a state is there for. -/
def Expects : StateName → Response → Prop
  | .sessionSetup, .sessionSetupRes _ => True
  | .serviceDiscovery, .serviceDiscoveryRes _ => True
  | .servicePaymentSelection, .servicePaymentSelectionRes => True
  | .contractAuthentication, .contractAuthenticationRes _ => True
  | .chargeParameterDiscovery, .chargeParameterDiscoveryRes _ => True
  | .cableCheck, .cableCheckRes _ _ => True
  | .preCharge, .preChargeRes _ _ => True
  | .powerDelivery, .powerDeliveryRes _ => True
  | .currentDemand, .currentDemandRes _ => True
  | .weldingDetection, .weldingDetectionRes _ _ => True
  | .sessionStop, .sessionStopRes => True
  | _, _ => False

/-- The state looks into the response, which is not one of failure and has the session id. -/
structure Accepts (own : StateName) (res : ResponseMessage) (session : Session) : Prop where
  good : res.responseCode.isFailed = false
  known : Known res session
  expected : Expects own res.response

/-- What the current state does with a message. -/
inductive Reacts {ρ : Type} (answers : Answers) (message : V2GMessage) (before after : World ρ) :
    Prop
  | answers (res : ResponseMessage) (turn : Turn) (response : message = .response res)
      (accepts : Accepts before.currentState.own res before.session)
      (row : Row answers res.header before.currentState.own res.response before.session turn)
      (leads : turn.Leads before after)
  | refuses
      (refused : ¬∃ res, message = .response res ∧
        Accepts before.currentState.own res before.session)
      (session : after.session = before.session.stopped)
      (currentState :
        after.currentState = { before.currentState with nextState := some .terminate })

end Iso15118.Evcc.Din
