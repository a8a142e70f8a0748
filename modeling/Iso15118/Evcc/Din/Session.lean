import Iso15118.Evcc.V2.Session
import Iso15118.Shared.Messages.Din.Body

/-!
# The EVCC's side of a DIN SPEC 70121 session

What a state of `evcc/states/din_spec_states.py` reads and writes, apart from what every
protocol has.
-/

namespace Iso15118.Evcc.Din

open Effect
open Iso15118.Shared
open Iso15118.Shared.Din
open Iso15118.Shared.V2 (DCEVStatus DCEVPowerDeliveryParameter)

/-- The classes of states. None of them adds an attribute. -/
inductive StateName where
  | sessionSetup
  | serviceDiscovery
  | servicePaymentSelection
  | contractAuthentication
  | chargeParameterDiscovery
  | cableCheck
  | preCharge
  | powerDelivery
  | currentDemand
  | weldingDetection
  | sessionStop
  deriving DecidableEq, Repr

/-! ## The controller -/

/-- The controller methods that the states call. -/
class EVController (ρ : Type) where
  getEnergyTransferMode : EStateM PyError ρ EnergyTransferMode
  getDcEvStatusDinspec : EStateM PyError ρ DCEVStatus
  getDcChargeParams : EStateM PyError ρ V2.DCEVChargeParams
  processSaSchedulesDinspec : List SAScheduleTupleEntry → EStateM PyError ρ Nat
  enableCharging : Bool → EStateM PyError ρ PUnit
  isPrecharged : PhysicalValue → EStateM PyError ρ Bool
  getDcEvPowerDeliveryParameter : EStateM PyError ρ DCEVPowerDeliveryParameter
  continueCharging : EStateM PyError ρ Bool
  chargeLoopDelay : EStateM PyError ρ PUnit
  stopCharging : EStateM PyError ρ PUnit
  isBulkChargingComplete : EStateM PyError ρ Bool
  isChargingComplete : EStateM PyError ρ Bool
  getRemainingTimeToFullSoc : EStateM PyError ρ PhysicalValue
  getRemainingTimeToBulkSoc : EStateM PyError ρ PhysicalValue
  weldingDetectionHasFinished : EStateM PyError ρ Bool

/-- A call of a controller method. -/
inductive Call where
  | getEnergyTransferMode
  | getDcEvStatusDinspec
  | getDcChargeParams
  | processSaSchedulesDinspec
  | enableCharging (enabled : Bool)
  | isPrecharged
  | getDcEvPowerDeliveryParameter
  | continueCharging
  | chargeLoopDelay
  | stopCharging
  | isBulkChargingComplete
  | isChargingComplete
  | getRemainingTimeToFullSoc
  | getRemainingTimeToBulkSoc
  | weldingDetectionHasFinished
  deriving DecidableEq, Repr

/-! ## The session -/

/-- What the clock says while one message is processed. -/
structure Answers where
  now : ℚ

/-- The variables of `EVCCCommunicationSession` that these states use, and the setting that a
paused session leaves. The timer runs when it is not negative. -/
structure Session where
  sessionId : String := ""
  evseId : String := ""
  ongoingTimer : ℚ := -1
  resumeRequestedEnergyMode : Option EnergyTransferMode := none
  selectedAuthOption : Option AuthEnum := none
  selectedServices : List Int := []
  selectedEnergyMode : Option EnergyTransferMode := none
  selectedSchedule : Option Nat := none
  stopReason : Option StopNotification := none

/-- The session after `stop_state_machine`. -/
def Session.stopped (session : Session) : Session :=
  { session with stopReason := some { successful := false } }

/-- What processing a message can change. -/
abbrev World (ρ : Type) := Evcc.World Session StateName StateName RequestMessage Call ρ

/-- A method of a state. -/
abbrev Program (ρ : Type) := EStateM PyError (World ρ)

variable {ρ : Type}

/-- `create_next_message`, which makes the header of a request. -/
def createNextMessage (nextState : Option (NextState StateName)) (request : Request)
    (timeout : ℚ) : Program ρ PUnit := do
  modify fun world =>
    { world with
      currentState :=
        { world.currentState with nextState := nextState, nextMsgTimeout := timeout } }
  let world ← get
  Effect.ofExcept (checkSessionId world.session.sessionId)
  prepare nextState ⟨{ sessionId := world.session.sessionId }, request⟩ timeout

/-- The header of the message has the id of the session, or need not have it. -/
def Known (res : ResponseMessage) (session : Session) : Prop :=
  (∃ evseId, res.response = .sessionSetupRes evseId) ∨ res.header.sessionId = session.sessionId

instance (res : ResponseMessage) (session : Session) : Decidable (Known res session) :=
  have : Decidable (∃ evseId, res.response = .sessionSetupRes evseId) :=
    match res.response with
    | .sessionSetupRes evseId => .isTrue ⟨evseId, rfl⟩
    | .serviceDiscoveryRes _ | .servicePaymentSelectionRes | .contractAuthenticationRes _
    | .chargeParameterDiscoveryRes _ | .cableCheckRes _ _ | .preChargeRes _ _
    | .powerDeliveryRes _ | .currentDemandRes _ | .weldingDetectionRes _ _
    | .sessionStopRes => .isFalse (by simp)
  inferInstanceAs (Decidable (_ ∨ _))

/-- `check_msg_din_spec`. `expected` gives the message as one of the expected type, if it is
one. -/
def checkMsg {α : Type} (message : V2GMessage) (expected : ResponseMessage → Option α) :
    Program ρ (Option α) :=
  match message with
  | .response res =>
      Evcc.checkMsg (expected res) res.responseCode.isFailed (Known res) Session.stopped
  | .request _ | .empty _ => do
      stopStateMachine Session.stopped
      return none

/-- The value of a part of a message that may be missing. -/
def required {α : Type} (value : Option α) : Program ρ α :=
  match value with
  | some value => pure value
  | none => throw .attributeError

namespace Timeouts

def v2gEvccCableCheckTimeout : ℚ := 40
def v2gEvccPreChargeTimeout : ℚ := 7
def v2gSeccSequenceTimeout : ℚ := 60
def serviceDiscoveryReq : ℚ := 2
def servicePaymentSelectionReq : ℚ := 2
def contractAuthenticationReq : ℚ := 2
def chargeParameterDiscoveryReq : ℚ := 2
def powerDeliveryReq : ℚ := 2
def cableCheckReq : ℚ := 2
def preChargeReq : ℚ := 2
def currentDemandReq : ℚ := 1 / 4
def weldingDetectionReq : ℚ := 2
def sessionStopReq : ℚ := 2

end Timeouts

end Iso15118.Evcc.Din
