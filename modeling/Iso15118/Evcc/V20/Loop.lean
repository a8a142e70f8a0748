import Iso15118.Evcc.Controller.RealBattery
import Iso15118.Evcc.V20.Charging

/-!
# The receive loop of the EVCC

What the current state does with a message, and what an iteration of the loop makes of it.
-/

namespace Iso15118.Evcc.V20

open Effect Transition
open Iso15118.Shared
open Iso15118.Shared.V20

variable {ρ : Type} {contract : Contract} {answers : Answers} [EVController ρ] {world : World ρ}

/-! ## All states -/

omit [EVController ρ] in
/-- What a state does behind its check, or when it is stopped by it. -/
theorem ensures_checked {α : Type} {raised : PyError → Prop} {message : V2GMessage}
    {expected : ResponseMessage → Option α} {next : Option α → Program ρ PUnit}
    {post : PUnit → World ρ → Prop} (ignored : next none = pure ⟨⟩)
    (stops : (¬∃ res value, message = .response res ∧ expected res = some value ∧
        res.responseCode.isFailed = false ∧ Known res world.session) →
      post ⟨⟩ { world with
        session := world.session.stopped
        currentState := { world.currentState with nextState := some .terminate } })
    (follows : ∀ res value, message = .response res → expected res = some value →
      res.responseCode.isFailed = false → Known res world.session →
      Ensures raised (next (some value)) post world) :
    Ensures raised (checkMsg message expected >>= next) post world := by
  unfold checkMsg Ensures wp
  cases message with
  | request req =>
      simp only [bind_assoc, pure_bind, ignored, bind_pure_unit]
      apply stops
      rintro ⟨_, _, same, _⟩
      cases same
  | response res =>
      dsimp only
      rw [bind_checkMsg ignored]
      cases known : expected res with
      | none =>
          apply stops
          rintro ⟨_, _, same, some, _⟩
          cases same
          cases known.symm.trans some
      | some value =>
          dsimp only
          by_cases passes : res.responseCode.isFailed = false ∧ Known res world.session
          · rw [if_pos passes]
            exact follows res value rfl known passes.1 passes.2
          · rw [if_neg passes]
            apply stops
            rintro ⟨_, _, same, _, accepted⟩
            cases same
            exact passes accepted

omit [EVController ρ] in
/-- The reaction of a state behind its check. -/
theorem checked_reacts {α : Type} {message : V2GMessage}
    {expected : ResponseMessage → Option α} {next : Option α → Program ρ PUnit}
    (expects : ∀ res,
      Expects world.currentState.own res.response ↔ (expected res).isSome = true)
    (ignored : next none = pure ⟨⟩)
    (follows : ∀ res value, expected res = some value →
      Follows contract answers res.response (next (some value)) world) :
    Ensures (Fails contract answers message world) (checkMsg message expected >>= next)
      (fun _ after => Reacts contract message world after) world := by
  apply ensures_checked ignored
  · intro refused
    apply Reacts.refuses _ rfl rfl
    rintro ⟨res, same, accepts⟩
    obtain ⟨value, known⟩ := Option.isSome_iff_exists.mp ((expects res).mp accepts.expected)
    exact refused ⟨res, value, same, known, accepts.good, accepts.known⟩
  · rintro res value rfl known good isKnown
    have accepts : Accepts world.currentState.own res world.session :=
      ⟨good, isKnown, (expects res).mpr (by rw [known]; rfl)⟩
    apply wp_mono _ _ (follows res value known)
    · rintro _ after ⟨turn, row, leads⟩
      exact .answers res turn rfl accepts row leads
    · intro exception _ failure
      exact .response res rfl accepts failure

omit [EVController ρ] in
/-- The timer has been looked at, and the state may go on or has been stopped. -/
theorem DCWeldingDetection.withinTime_spec {raised : PyError → Prop} :
    Ensures raised (withinTime answers : Program ρ Bool)
      (fun within after => if within then
          (∃ timer, after.session = { world.session with ongoingTimer := timer }) ∧
            after.currentState = world.currentState
        else after.session = world.session.stopped ∧
          after.currentState = { world.currentState with nextState := some .terminate })
      world := by
  unfold withinTime
  apply ensures_get_bind
  split
  · split
    · exact ⟨rfl, rfl⟩
    · exact ⟨⟨world.session.ongoingTimer, rfl⟩, rfl⟩
  · split
    · exact ⟨⟨answers.now, rfl⟩, rfl⟩
    · exact ⟨⟨world.session.ongoingTimer, rfl⟩, rfl⟩

theorem DCWeldingDetection.processMessage_reacts (keeps : Keeps contract ρ) {complete : Bool}
    (own : world.currentState.own = .dcWeldingDetection complete) (message : V2GMessage) :
    Ensures (Fails contract answers message world)
      (DCWeldingDetection.processMessage answers complete : Program ρ PUnit)
      (fun _ after => Reacts contract message world after) world := by
  unfold processMessage
  apply ensures_bind withinTime_spec
  rintro within reached outcome
  cases within with
  | false =>
      obtain ⟨session, currentState⟩ := outcome
      refine .detectsWelding complete _ own (.timeout complete world.session)
        (Turn.leads_of_silent session ?_ ?_ rfl ?_)
      · rw [currentState]
        exact own
      · rw [currentState]
      · rw [currentState]
  | true =>
      obtain ⟨⟨timer, session⟩, currentState⟩ := outcome
      have invalidHeader : ∀ exception,
          checkSessionId reached.session.sessionId = .error exception →
          Fails contract answers message world exception := by
        intro exception invalid
        rw [session] at invalid
        exact .weldingDetection complete own (.inr invalid)
      cases complete with
      | true =>
          apply ensures_messageHeader_bind invalidHeader
          intro header
          have own' : reached.currentState.own = .dcWeldingDetection true := by
            rw [currentState, own]
          exact .detectsWelding true _ own (.complete world.session timer)
            (Turn.leads_of_message session own' rfl rfl rfl)
      | false =>
          apply ensures_ask_bind keeps.weldingDetectionHasFinished
          · exact fun exception raised => .weldingDetection false own (.inl raised)
          intro finished controller _
          apply ensures_setOwn_bind
          apply ensures_messageHeader_bind
          · exact invalidHeader
          intro header
          exact .detectsWelding false _ own (.detect world.session timer finished)
            (Turn.leads_of_message session rfl rfl rfl rfl)

/-- What the current state does with a message, whatever the controller answers. -/
theorem processMessage_reacts (keeps : Keeps contract ρ)
    (idle : world.currentState.nextState = none) (message : V2GMessage) :
    Ensures (Fails contract answers message world)
      (processMessage answers message : Program ρ PUnit)
      (fun _ after => Reacts contract message world after) world := by
  unfold processMessage
  apply ensures_get_bind
  cases own : world.currentState.own with
  | sessionSetup =>
      apply checked_reacts _ rfl
      · intro res value known
        split at known
        next evseId response =>
          rw [response]
          exact SessionSetup.onSessionSetupRes_follows own evseId value
        · cases known
      · intro res
        rw [own]
        cases res.response <;> simp [Expects]
  | authorizationSetup =>
      apply checked_reacts _ rfl
      · intro res value known
        split at known
        next res response =>
          rw [response]
          cases known
          exact AuthorizationSetup.onAuthorizationSetupRes_follows keeps own _
        · cases known
      · intro res
        rw [own]
        cases res.response <;> simp [Expects]
  | certificateInstallation => exact .certificateInstallation own rfl
  | authorization =>
      apply checked_reacts _ rfl
      · intro res value known
        split at known
        next evseProcessing response =>
          rw [response]
          cases known
          exact Authorization.onAuthorizationRes_follows own _
        · cases known
      · intro res
        rw [own]
        cases res.response <;> simp [Expects]
  | serviceDiscovery =>
      apply checked_reacts _ rfl
      · intro res value known
        split at known
        next res response =>
          rw [response]
          cases known
          exact ServiceDiscovery.onServiceDiscoveryRes_follows keeps own _
        · cases known
      · intro res
        rw [own]
        cases res.response <;> simp [Expects]
  | serviceDetail =>
      apply checked_reacts _ rfl
      · intro res value known
        split at known
        next res response =>
          rw [response]
          cases known
          exact ServiceDetail.onServiceDetailRes_follows keeps own _
        · cases known
      · intro res
        rw [own]
        cases res.response <;> simp [Expects]
  | serviceSelection =>
      apply checked_reacts _ rfl
      · intro res value known
        split at known
        next response =>
          rw [response]
          exact ServiceSelection.onServiceSelectionRes_follows keeps own idle
        · cases known
      · intro res
        rw [own]
        cases res.response <;> simp [Expects]
  | scheduleExchange =>
      apply checked_reacts _ rfl
      · intro res value known
        split at known
        next res response =>
          rw [response]
          cases known
          exact ScheduleExchange.onScheduleExchangeRes_follows keeps own _
        · cases known
      · intro res
        rw [own]
        cases res.response <;> simp [Expects]
  | powerDelivery =>
      apply checked_reacts _ rfl
      · intro res value known
        split at known
        next response =>
          rw [response]
          exact PowerDelivery.onPowerDeliveryRes_follows keeps own idle
        · cases known
      · intro res
        rw [own]
        cases res.response <;> simp [Expects]
  | sessionStop =>
      apply checked_reacts _ rfl
      · intro res value known
        split at known
        next response =>
          rw [response]
          exact SessionStop.onSessionStopRes_follows own
        · cases known
      · intro res
        rw [own]
        cases res.response <;> simp [Expects]
  | acChargeParameterDiscovery =>
      apply checked_reacts _ rfl
      · intro res value known
        split at known
        next response =>
          rw [response]
          exact ACChargeParameterDiscovery.onACChargeParameterDiscoveryRes_follows keeps own
        · cases known
      · intro res
        rw [own]
        cases res.response <;> simp [Expects]
  | acChargeLoop =>
      apply checked_reacts _ rfl
      · intro res value known
        split at known
        next evseStatus response =>
          rw [response]
          cases known
          exact ACChargeLoop.onACChargeLoopRes_follows keeps own idle _
        · cases known
      · intro res
        rw [own]
        cases res.response <;> simp [Expects]
  | dcChargeParameterDiscovery =>
      apply checked_reacts _ rfl
      · intro res value known
        split at known
        next res response =>
          rw [response]
          cases known
          exact DCChargeParameterDiscovery.onDCChargeParameterDiscoveryRes_follows keeps own _
        · cases known
      · intro res
        rw [own]
        cases res.response <;> simp [Expects]
  | dcCableCheck =>
      apply checked_reacts _ rfl
      · intro res value known
        split at known
        next evseProcessing response =>
          rw [response]
          cases known
          exact DCCableCheck.onDCCableCheckRes_follows keeps own _
        · cases known
      · intro res
        rw [own]
        cases res.response <;> simp [Expects]
  | dcPreCharge builtOnce =>
      apply checked_reacts _ rfl
      · intro res value known
        split at known
        next evsePresentVoltage response =>
          rw [response]
          cases known
          exact DCPreCharge.onDCPreChargeRes_follows keeps own _
        · cases known
      · intro res
        rw [own]
        cases res.response <;> simp [Expects]
  | dcChargeLoop =>
      apply checked_reacts _ rfl
      · intro res value known
        split at known
        next evseStatus params response =>
          rw [response]
          cases known
          exact DCChargeLoop.onDCChargeLoopRes_follows keeps own _ params
        · cases known
      · intro res
        rw [own]
        cases res.response <;> simp [Expects]
  | dcWeldingDetection complete =>
      exact DCWeldingDetection.processMessage_reacts keeps own message

/-! ## Steps of the receive loop -/

/-- The EVCC's side of a session. -/
abbrev EVCCSession (ρ : Type) := CommSession RequestMessage (World ρ)

/-- A session in which ISO 15118-20 has just been agreed on. Its id may be that of a session
that has been paused. -/
structure Starts (session : EVCCSession ρ) : Prop where
  currentState : session.world.currentState = { own := .sessionSetup }
  fresh : ∃ points sessionId,
    session.world.session = { maxSupportingPoints := points, sessionId := sessionId }
  goesOn : session.ended = false

/-- What an iteration does with a message before it sends anything. -/
theorem machine_reacts (keeps : Keeps contract ρ)
    (idle : world.currentState.nextState = none) (received : Received V2GMessage Answers) :
    Ensures (Fails contract received.answers received.message world)
      ((machine ρ).processMessage received)
      (fun _ after => Reacts contract received.message world after) world := by
  have reacts : Ensures (Fails contract received.answers received.message
        { world with calls := [] })
      (processMessage received.answers received.message)
      (fun _ after => Reacts contract received.message { world with calls := [] } after)
      { world with calls := [] } :=
    processMessage_reacts keeps (by exact idle) received.message
  apply wp_mono _ _ reacts
  · rintro _ after (⟨res, turn, response, accepts, row, leads⟩ | ⟨refused, session, currentState⟩ |
      ⟨complete, turn, own, row, leads⟩)
    · exact .answers res turn response accepts row
        ⟨leads.session, leads.own, leads.nextState, leads.prepares, leads.silent⟩
    · exact .refuses refused session currentState
    · exact .detectsWelding complete turn own row
        ⟨leads.session, leads.own, leads.nextState, leads.prepares, leads.silent⟩
  · rintro exception _ (⟨res, response, accepts, failure⟩ | ⟨own, notImplemented⟩ |
      ⟨complete, own, raised⟩)
    · exact .response res response accepts failure
    · exact .certificateInstallation own notImplemented
    · exact .weldingDetection complete own raised

/-- After an iteration the loop goes on in the state that has processed the message, or in a
new one. -/
structure GoesOnTo (before : EVCCSession ρ) (after : World ρ) (next : EVCCSession ρ) : Prop where
  sends : ∃ message, after.currentState.nextV2gtpMsg = some message ∧
    next.sent = message :: before.sent
  leads : after.currentState.nextState = none ∧ next.world = after ∨
    ∃ name, after.currentState.nextState = some (.state name) ∧
      next.world = { after with currentState := { own := name.new } }

omit [EVController ρ] in
theorem GoesOnTo.session {before next : EVCCSession ρ} {after : World ρ}
    (goesOn : GoesOnTo before after next) : next.world.session = after.session := by
  obtain ⟨_, same⟩ | ⟨_, _, same⟩ := goesOn.leads
  · rw [same]
  · rw [same]

omit [EVController ρ] in
/-- No next state is set while the loop waits for a message. -/
theorem GoesOnTo.idle {before next : EVCCSession ρ} {after : World ρ}
    (goesOn : GoesOnTo before after next) : next.world.currentState.nextState = none := by
  obtain ⟨idle, same⟩ | ⟨_, _, same⟩ := goesOn.leads
  · rw [same, idle]
  · rw [same]

/-- What a step has done if the loop goes on. -/
theorem Step.goesOnTo {session next : EVCCSession ρ} {input : Option (Received V2GMessage Answers)}
    (step : (machine ρ).Step session input next) (goesOn : next.ended = false) :
    ∃ received after, input = some received ∧
      (machine ρ).processMessage received session.world = .ok ⟨⟩ after ∧
      GoesOnTo session after next := by
  obtain ⟨received, after, informed, message, input, processed, prepared, updated, sent, leads⟩ :=
    step.continues goesOn
  cases updated
  exact ⟨received, after, input, processed, ⟨message, prepared, sent⟩, leads⟩

/-- A step of a controller that keeps to a contract. -/
theorem Step.reacts {session next : EVCCSession ρ} {input : Option (Received V2GMessage Answers)}
    (keeps : Keeps contract ρ) (idle : session.world.currentState.nextState = none)
    (step : (machine ρ).Step session input next) (goesOn : next.ended = false) :
    ∃ received after, input = some received ∧
      Reacts contract received.message session.world after ∧ GoesOnTo session after next := by
  obtain ⟨received, after, input, processed, leads⟩ := Step.goesOnTo step goesOn
  have reacts := post_of_eq_ok (machine_reacts keeps idle received) processed
  exact ⟨received, after, input, reacts, leads⟩

/-- What every step keeps that the loop goes on after holds in every run until its end. -/
theorem run_invariant (keeps : Keeps contract ρ) {invariant : EVCCSession ρ → Prop}
    {start session : EVCCSession ρ} {history : List (Option (Received V2GMessage Answers))}
    (starts : Starts start) (initial : invariant start)
    (preserved : ∀ session next (received : Received V2GMessage Answers) after,
      session.ended = false → invariant session →
      Reacts contract received.message session.world after → GoesOnTo session after next →
      invariant next)
    (run : Run (machine ρ).Step start history session) (goesOn : session.ended = false) :
    session.world.currentState.nextState = none ∧ invariant session := by
  induction run with
  | start =>
      constructor
      · rw [starts.currentState]
      · exact initial
  | step past last ih =>
      obtain ⟨idle, holds⟩ := ih last.1
      obtain ⟨received, after, _, reacts, leads⟩ := Step.reacts keeps idle last goesOn
      exact ⟨leads.idle, preserved _ _ received after last.1 holds reacts leads⟩

namespace Sample

/-- A simulated battery for a service, which is always ready when it is asked. -/
def battery (service : ServiceV20) : RealBatterySimulator where
  config := { supportedEnergyServices := [service] }

/-- A session with a controller. -/
def start (controller : ρ) : EVCCSession ρ where
  world :=
    { session := {}
      controller := controller
      currentState := { own := .sessionSetup }
      calls := [] }

omit [EVController ρ] in
theorem starts_start (controller : ρ) : Starts (start controller) :=
  ⟨rfl, ⟨1024, "", rfl⟩, rfl⟩

/-- A response of the session, received at the time zero. -/
def response (response : Response) : Option (Received V2GMessage Answers) :=
  some ⟨.response ⟨{ sessionId := "10" }, .ok, response⟩, { now := 0 }⟩

def zeroRational : RationalNumber := ⟨0, 0, int8_zero, int16_zero⟩

/-- A session up to the discovery of the services, one of which is offered with the control
mode of the schedules. -/
def discoveryHistory (service : ServiceV20) (serviceRenegotiationSupported : Bool) :
    List (Option (Received V2GMessage Answers)) :=
  [response (.serviceDiscoveryRes
      ⟨serviceRenegotiationSupported, ⟨[⟨service.id, false⟩]⟩, none⟩),
    response (.authorizationRes .finished),
    response (.authorizationSetupRes ⟨[.eim], false, none⟩),
    response (.sessionSetupRes "evse")]

def serviceDetailRes (service : ServiceV20) : ServiceDetailRes :=
  ⟨service.id, ⟨[⟨1, [⟨"ControlMode", .intValue 1⟩]⟩]⟩⟩

def scheduleExchangeRes (goToPause : Option Bool) : ScheduleExchangeRes :=
  ⟨.finished, some (.scheduled ⟨[⟨1, [⟨3600, zeroRational⟩]⟩]⟩), goToPause, fun _ => rfl⟩

/-- A session up to the end of the cable check. -/
def cableCheckHistory : List (Option (Received V2GMessage Answers)) :=
  [response (.dcCableCheckRes .finished),
    response (.scheduleExchangeRes (scheduleExchangeRes none)),
    response (.dcChargeParameterDiscoveryRes (.dc ⟨zeroRational, zeroRational, zeroRational,
      zeroRational, zeroRational, zeroRational, none⟩)),
    response .serviceSelectionRes,
    response (.serviceDetailRes (serviceDetailRes .dc))] ++ discoveryHistory .dc false

end Sample

end Iso15118.Evcc.V20
