import Iso15118.Evcc.SupportedAppProtocol
import Iso15118.Evcc.V2.Loop
import Iso15118.Evcc.V20.Loop

/-!
# What the states of the EVCC refuse

A response that is not the expected one, reports a failure or has another session id stops the
state machine before the controller is asked anything. Two states of ISO 15118-20 do not look at
the message.
-/

namespace Iso15118.Evcc

open Effect
open Iso15118.Shared

section

variable {ς κ ν μ γ ρ : Type}

/-- The program stops the state machine, without success and without any call to the
controller. -/
def Stops (stopReason : ς → Option StopNotification)
    (program : EStateM PyError (World ς κ ν μ γ ρ) PUnit) (world : World ς κ ν μ γ ρ) : Prop :=
  ∃ after, program world = .ok ⟨⟩ after ∧
    after.currentState.nextState = some .terminate ∧
    stopReason after.session = some { successful := false } ∧
    after.controller = world.controller ∧ after.calls = world.calls

variable {stopReason : ς → Option StopNotification} {stopped : ς → ς}
  {world : World ς κ ν μ γ ρ}

/-- What is done behind the check is not done with a message that is refused. -/
theorem stops_bind_checkMsg {α : Type} {accepted : Option α} {failed : Bool} {known : ς → Prop}
    [DecidablePred known] {next : Option α → EStateM PyError (World ς κ ν μ γ ρ) PUnit}
    (unsuccessful : stopReason (stopped world.session) = some { successful := false })
    (ignored : next none = pure ⟨⟩)
    (refused : ¬(accepted.isSome = true ∧ failed = false ∧ known world.session)) :
    Stops stopReason (checkMsg accepted failed known stopped >>= next) world := by
  have stops : Stops stopReason (stopStateMachine stopped) world :=
    ⟨_, rfl, rfl, unsuccessful, rfl, rfl⟩
  unfold Stops
  rw [bind_checkMsg ignored]
  cases accepted with
  | none => exact stops
  | some message =>
      dsimp only
      rw [if_neg]
      · exact stops
      · exact fun passes => refused ⟨rfl, passes⟩

end

/-! ## Protocol negotiation -/

namespace Sap

variable {ρ : Type} [EVController ρ] {world : World ρ}

/-- A response that does not report a failure. There is no session id yet. -/
def Acceptable (message : SapMessage) : Prop :=
  ∃ sapRes, message = .res sapRes ∧ isFailed sapRes.responseCode = false

theorem processMessage_stops {message : SapMessage} (refused : ¬Acceptable message) :
    Stops Session.stopReason (processMessage message) world := by
  cases message with
  | req sapReq => exact ⟨_, rfl, rfl, rfl, rfl, rfl⟩
  | res sapRes =>
      have failed : isFailed sapRes.responseCode = true := by
        by_contra good
        exact refused ⟨sapRes, rfl, Bool.eq_false_iff.mpr good⟩
      simp only [processMessage, failed, ↓reduceIte]
      exact ⟨_, rfl, rfl, rfl, rfl, rfl⟩

end Sap

/-! ## ISO 15118-2 -/

namespace V2

open Iso15118.Shared.V2

variable {ρ : Type} {world : World ρ}

/-- The current state looks into the message. -/
def Acceptable (message : V2GMessage) (world : World ρ) : Prop :=
  ∃ res, message = .response res ∧ Accepts world.currentState.own res world.session

theorem stops_of_refused {α : Type} {message : V2GMessage}
    {expected : ResponseMessage → Option α} {next : Option α → Program ρ PUnit}
    (ignored : next none = pure ⟨⟩)
    (expects : ∀ res, (expected res).isSome = true → Expects world.currentState.own res.response)
    (refused : ¬Acceptable message world) :
    Stops Session.stopReason (checkMsg message expected >>= next) world := by
  cases message with
  | request req =>
      unfold checkMsg
      simp only [bind_assoc, pure_bind, ignored, bind_pure_unit]
      exact ⟨_, rfl, rfl, rfl, rfl, rfl⟩
  | empty header =>
      unfold checkMsg
      simp only [bind_assoc, pure_bind, ignored, bind_pure_unit]
      exact ⟨_, rfl, rfl, rfl, rfl, rfl⟩
  | response res =>
      apply stops_bind_checkMsg _ ignored
      · rintro ⟨expected, good, known⟩
        exact refused ⟨res, rfl, good, known, expects res expected⟩
      · rfl

/-- Every state refuses what it does not accept. -/
theorem processMessage_stops [EVController ρ] {answers : Answers} {message : V2GMessage}
    (refused : ¬Acceptable message world) :
    Stops Session.stopReason (processMessage answers message) world := by
  change Stops Session.stopReason (fun _ => processMessage answers message world) world
  unfold processMessage
  rw [get_bind_apply]
  cases own : world.currentState.own
  all_goals
    apply stops_of_refused rfl _ refused
    intro res
    rw [own]
    cases res.response <;> simp [Expects]

end V2

/-! ## ISO 15118-20 -/

namespace V20

open Iso15118.Shared.V20

variable {ρ : Type} {world : World ρ} {answers : Answers} {message : V2GMessage}

/-- The current state would look into the message, if it looked at it. -/
def Acceptable (message : V2GMessage) (world : World ρ) : Prop :=
  ∃ res, message = .response res ∧ Accepts world.currentState.own res world.session

theorem stops_of_refused {α : Type} {expected : ResponseMessage → Option α}
    {next : Option α → Program ρ PUnit} (ignored : next none = pure ⟨⟩)
    (expects : ∀ res, (expected res).isSome = true → Expects world.currentState.own res.response)
    (refused : ¬Acceptable message world) :
    Stops Session.stopReason (checkMsg message expected >>= next) world := by
  cases message with
  | request req =>
      unfold checkMsg
      simp only [bind_assoc, pure_bind, ignored, bind_pure_unit]
      exact ⟨_, rfl, rfl, rfl, rfl, rfl⟩
  | response res =>
      apply stops_bind_checkMsg _ ignored
      · rintro ⟨expected, good, known⟩
        exact refused ⟨res, rfl, good, known, expects res expected⟩
      · rfl

/-- The states that do not look at the message. -/
def Unchecked : Own → Prop
  | .certificateInstallation | .dcWeldingDetection _ => True
  | _ => False

/-- The detection of welding takes too long. -/
def WeldingTimedOut (answers : Answers) (world : World ρ) : Prop :=
  (∃ complete, world.currentState.own = .dcWeldingDetection complete) ∧
    world.session.ongoingTimer > 0 ∧
    answers.now - world.session.ongoingTimer > Timeouts.v2gEvccOngoingTimeout

variable [EVController ρ]

/-- Every other state refuses what it does not accept. -/
theorem processMessage_stops (checked : ¬Unchecked world.currentState.own)
    (refused : ¬Acceptable message world) :
    Stops Session.stopReason (processMessage answers message) world := by
  change Stops Session.stopReason (fun _ => processMessage answers message world) world
  unfold processMessage
  rw [get_bind_apply]
  cases own : world.currentState.own
  case certificateInstallation =>
    rw [own] at checked
    exact absurd trivial checked
  case dcWeldingDetection =>
    rw [own] at checked
    exact absurd trivial checked
  all_goals
    apply stops_of_refused rfl _ refused
    intro res
    rw [own]
    cases res.response <;> simp [Expects]

theorem CertificateInstallation.not_stops
    (own : world.currentState.own = .certificateInstallation) :
    ¬Stops Session.stopReason (V20.processMessage answers message) world := by
  rintro ⟨after, processed, _⟩
  unfold V20.processMessage at processed
  rw [get_bind_apply, own] at processed
  cases processed

/-- In time, the detection of welding prepares a request. -/
theorem DCWeldingDetection.goesOn (complete : Bool) (reached : World ρ) :
    wp
      (if complete then requestSessionStop .terminate
        else do
          let finished ←
            ask .weldingDetectionHasFinished EVController.weldingDetectionHasFinished
          setOwn (.dcWeldingDetection finished)
          let header ← messageHeader
          prepare none
            ⟨header, .dcWeldingDetectionReq ⟨if finished then .finished else .ongoing⟩⟩
            Timeouts.dcWeldingDetectionReq : Program ρ PUnit)
      (fun _ after => after.currentState.nextState ≠ some .terminate) (fun _ _ => True)
      reached := by
  cases complete with
  | true =>
      rw [if_pos rfl]
      unfold requestSessionStop
      apply ensures_messageHeader_bind
      · exact fun _ _ => trivial
      · exact fun header => nofun
  | false =>
      rw [if_neg Bool.false_ne_true]
      apply ensures_ask_eq_bind
      intro finished controller _
      apply ensures_setOwn_bind
      apply ensures_messageHeader_bind
      · exact fun _ _ => trivial
      · exact fun header => nofun

/-- The detection of welding stops only when it takes too long. -/
theorem DCWeldingDetection.stops_iff {complete : Bool}
    (own : world.currentState.own = .dcWeldingDetection complete) :
    Stops Session.stopReason (V20.processMessage answers message) world ↔
      WeldingTimedOut answers world := by
  have same : V20.processMessage answers message world =
      DCWeldingDetection.processMessage answers complete world := by
    unfold V20.processMessage
    rw [get_bind_apply, own]
  constructor
  · rintro ⟨after, processed, terminates, _⟩
    rw [same] at processed
    by_contra inTime
    have goes : wp (DCWeldingDetection.processMessage answers complete : Program ρ PUnit)
        (fun _ after => after.currentState.nextState ≠ some .terminate) (fun _ _ => True)
        world := by
      unfold DCWeldingDetection.processMessage DCWeldingDetection.withinTime
      simp only [wp_bind, wp_get, wp_ite]
      split
      next runs =>
        rw [if_neg fun late => inTime ⟨⟨complete, own⟩, runs, late⟩]
        exact goesOn complete world
      next =>
        split
        · exact goesOn complete _
        · exact goesOn complete world
    exact post_of_eq_ok goes processed terminates
  · rintro ⟨_, runs, late⟩
    unfold Stops
    rw [same]
    unfold DCWeldingDetection.processMessage DCWeldingDetection.withinTime
    simp only [bind_assoc]
    rw [get_bind_apply, if_pos runs, if_pos late]
    exact ⟨_, rfl, rfl, rfl, rfl, rfl⟩

end V20

/-! ## All protocols -/

/-- What is not acceptable stops the state machine, except where a state of ISO 15118-20 does not
look at the message and its time has not run out. -/
theorem acceptanceCheck_iff {σ ρ τ : Type} [Sap.EVController σ] [V2.EVController ρ]
    [V20.EVController τ] :
    (∀ (world : Sap.World σ) message, ¬Sap.Acceptable message →
      Stops Sap.Session.stopReason (Sap.processMessage message) world) ∧
    (∀ (world : V2.World ρ) answers message, ¬V2.Acceptable message world →
      Stops V2.Session.stopReason (V2.processMessage answers message) world) ∧
    ∀ (world : V20.World τ) answers message, ¬V20.Acceptable message world →
      (Stops V20.Session.stopReason (V20.processMessage answers message) world ↔
        ¬V20.Unchecked world.currentState.own ∨ V20.WeldingTimedOut answers world) := by
  refine ⟨fun _ _ => Sap.processMessage_stops, fun _ _ _ => V2.processMessage_stops, ?_⟩
  intro world answers message refused
  by_cases unchecked : V20.Unchecked world.currentState.own
  · rw [or_iff_right (not_not_intro unchecked)]
    cases own : world.currentState.own with
    | certificateInstallation =>
        constructor
        · exact fun stops => absurd stops (V20.CertificateInstallation.not_stops own)
        · rintro ⟨⟨complete, welding⟩, _⟩
          cases own.symm.trans welding
    | dcWeldingDetection complete => exact V20.DCWeldingDetection.stops_iff own
    | _ =>
        rw [own] at unchecked
        exact unchecked.elim
  · exact iff_of_true (V20.processMessage_stops unchecked refused) (.inl unchecked)

/-- The detection of welding, after its first request. -/
def detectsWelding : V20.World RealBatterySimulator where
  session := { sessionId := "10" }
  controller := V20.Sample.battery .dc
  currentState := { own := .dcWeldingDetection false }
  calls := []

/-- A failure, in a response to another request and of another session. -/
def failedResponse : Shared.V20.V2GMessage :=
  .response ⟨{ sessionId := "20" }, .failed, .sessionStopRes⟩

theorem failedResponse_goesOn :
    ¬V20.Acceptable failedResponse detectsWelding ∧
      ¬Stops V20.Session.stopReason (V20.processMessage { now := 0 } failedResponse)
        detectsWelding := by
  constructor
  · rintro ⟨_, same, accepts⟩
    cases same
    exact absurd accepts.good (by decide)
  · rw [V20.DCWeldingDetection.stops_iff (by exact rfl)]
    rintro ⟨_, runs, _⟩
    exact absurd runs (by decide)

end Iso15118.Evcc
