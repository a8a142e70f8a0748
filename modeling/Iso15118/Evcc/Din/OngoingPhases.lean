import Iso15118.Evcc.RequestsOnce
import Iso15118.Library.SharedTimer

/-!
# How long a DIN SPEC 70121 phase may go on

The states that repeat their request look at one timer of the session. `ContractAuthentication`
does not set it back: what it has taken is missing in `ChargeParameterDiscovery`.
-/

namespace Iso15118.Evcc.Din

open Effect Transition
open Iso15118.Shared
open Iso15118.Shared.Din

/-! ## Phases -/

/-- The phases that share the timer. The authorization goes on until there is a schedule. -/
inductive Phase where
  | authorization
  | cableCheck
  | preCharge
  | weldingDetection
  deriving DecidableEq, Repr

namespace Phase

/-- The time that there is for a phase. -/
def timeout : Phase → ℚ
  | .authorization => Timeouts.v2gSeccSequenceTimeout
  | .cableCheck => Timeouts.v2gEvccCableCheckTimeout
  | .preCharge => Timeouts.v2gEvccPreChargeTimeout
  | .weldingDetection => Timeouts.v2gSeccSequenceTimeout

/-- The timer is looked at. -/
def runs : Phase → ℚ → Bool
  | .authorization, timer => timer > 0
  | .cableCheck, timer => timer ≥ 0
  | .preCharge, timer => timer ≥ 0
  | .weldingDetection, timer => timer > 0

/-- The timer is started, unless it is looked at. -/
def stands : Phase → ℚ → Bool
  | .authorization, timer => timer = -1
  | .cableCheck, timer => timer = -1
  | .preCharge, _ => true
  | .weldingDetection, timer => timer = -1

theorem runs_of_pos {phase : Phase} {timer : ℚ} (positive : 0 < timer) :
    phase.runs timer = true := by
  cases phase <;> simp [runs, positive, positive.le]

theorem runs_idle (phase : Phase) : phase.runs (-1) = false := by
  cases phase <;> norm_num [runs]

theorem stands_idle (phase : Phase) : phase.stands (-1) = true := by
  cases phase <;> simp [stands]

end Phase

def StateName.phase : StateName → Option Phase
  | .contractAuthentication => some .authorization
  | .chargeParameterDiscovery => some .authorization
  | .cableCheck => some .cableCheck
  | .preCharge => some .preCharge
  | .weldingDetection => some .weldingDetection
  | _ => none

/-- The requests of a phase. -/
def RequestOf : Phase → Request → Prop
  | .authorization, .contractAuthenticationReq => True
  | .authorization, .chargeParameterDiscoveryReq _ => True
  | .cableCheck, .cableCheckReq _ => True
  | .preCharge, .preChargeReq _ => True
  | .weldingDetection, .weldingDetectionReq => True
  | _, _ => False

/-- The state that waits for a response after a turn. -/
def Turn.waiting (turn : Turn) (own : StateName) : StateName :=
  match turn.nextState with
  | some (.state name) => name
  | _ => own

/-- The phase goes on, in time and with the timer running. -/
structure Continues (answers : Answers) (phase : Phase) (session elapses : Session) : Prop where
  within : ¬TimedOut phase.runs phase.timeout answers session
  timer : elapses.ongoingTimer = (elapsed phase.runs phase.stands answers session).ongoingTimer

namespace Continues

variable {answers : Answers} {phase : Phase} {session elapses : Session}

theorem timer_of_idle (continues : Continues answers phase session elapses)
    (idle : session.ongoingTimer = -1) : elapses.ongoingTimer = answers.now := by
  rw [continues.timer, elapsed, idle, if_pos ⟨phase.runs_idle, phase.stands_idle⟩]

theorem timer_of_runs (continues : Continues answers phase session elapses)
    (runs : 0 < session.ongoingTimer) : elapses.ongoingTimer = session.ongoingTimer := by
  rw [continues.timer, elapsed, Phase.runs_of_pos runs, if_neg (by simp)]

theorem inTime (continues : Continues answers phase session elapses)
    (runs : 0 < session.ongoingTimer) : answers.now - session.ongoingTimer ≤ phase.timeout :=
  not_lt.mp fun late => continues.within ⟨Phase.runs_of_pos runs, late⟩

end Continues

section

variable {answers : Answers} {header : MessageHeader} {own : StateName} {response : Response}
  {session : Session} {turn : Turn} {request : Request}

/-- A timed state goes on with its phase, or leaves it with the timer set back or for the end of
the session. -/
theorem Row.timed (row : Row answers header own response session turn) {phase : Phase}
    (timed : own.phase = some phase) (requests : turn.request = some request) :
    (turn.waiting own).phase = some phase ∧ Continues answers phase session turn.session ∨
      (turn.waiting own).phase ≠ some phase ∧ ¬RequestOf phase request ∧
        (turn.session.ongoingTimer = -1 ∨ turn.waiting own = .sessionStop) := by
  cases row with
  | authenticated _ _ within =>
      cases timed
      exact .inl ⟨rfl, within, rfl⟩
  | repeatAuthentication _ _ _ within | repeatChargeParameters _ _ _ _ within
  | repeatCableCheck _ _ _ _ _ within | repeatPreCharge _ _ _ _ within | detectOn _ _ _ within =>
      cases timed
      exact .inl ⟨rfl, within, rfl⟩
  | schedule | cableChecked | preCharged =>
      cases timed
      cases requests
      exact .inr ⟨nofun, not_false, .inl rfl⟩
  | weldingDetected =>
      cases timed
      cases requests
      exact .inr ⟨nofun, not_false, .inr rfl⟩
  | authenticationTimeout | chargeParametersTimeout | cableUnsafe | cableCheckTimeout
  | preChargeTimeout | weldingTimeout => cases requests
  | sessionSetup | serviceDiscovery | notOffered | servicePaymentSelection | charge
  | detectWelding | stopCharging | repeatCurrentDemand | terminate => cases timed

/-- The other states leave the timer alone. -/
theorem Row.untimed (row : Row answers header own response session turn)
    (untimed : own.phase = none) : turn.session.ongoingTimer = session.ongoingTimer := by
  cases row with
  | serviceDiscovery _ _ _ _ discovers | notOffered _ _ _ discovers =>
      obtain ⟨_, _, _, rfl⟩ := discovers
      rfl
  | sessionSetup | servicePaymentSelection | charge | detectWelding | stopCharging
  | repeatCurrentDemand | terminate => rfl
  | _ => cases untimed

/-- After the stop of the session there is nothing to ask for. -/
theorem Row.silent_of_sessionStop (row : Row answers header .sessionStop response session turn) :
    turn.request = none := by
  cases row
  rfl

end

/-! ## Steps -/

variable {ρ : Type} [EVController ρ] {session next : EVCCSession ρ}
  {input : Option (Received V2GMessage Answers)}

/-- The session is in a phase. -/
def InPhase (phase : Phase) (session : EVCCSession ρ) : Prop :=
  session.world.currentState.own.phase = some phase

instance (phase : Phase) (session : EVCCSession ρ) : Decidable (InPhase phase session) :=
  inferInstanceAs (Decidable (_ = _))

/-- The timer of the session. The detection of welding uses it last, and never sets it back. -/
def ongoingTimer (ρ : Type) :
    SharedTimer (EVCCSession ρ) (Option (Received V2GMessage Answers)) Phase ℚ where
  now := Option.map (·.answers.now)
  timer session := session.world.session.ongoingTimer
  idle := -1
  runs time := 0 < time
  phase session := session.world.currentState.own.phase
  finished session := session.world.currentState.own = .sessionStop

/-- A step after which the loop goes on, as a row. -/
theorem Step.turn (step : (machine ρ).Step session input next) (goesOn : next.ended = false) :
    ∃ (received : Received V2GMessage Answers) (res : ResponseMessage) (turn : Turn)
        (request : Request), input = some received ∧
      Row received.answers res.header session.world.currentState.own res.response
        session.world.session turn ∧
      turn.request = some request ∧ next.world.session = turn.session ∧
      next.world.currentState.own = turn.waiting session.world.currentState.own := by
  obtain ⟨received, after, taken, reacts, goesTo⟩ := Step.reacts step goesOn
  have goesOn : after.currentState.nextState ≠ some .terminate := by
    obtain ⟨stays, _⟩ | ⟨name, leads, _⟩ := goesTo.leads
    · rw [stays]
      nofun
    · rw [leads]
      nofun
  cases reacts with
  | refuses _ _ currentState =>
      rw [currentState] at goesOn
      exact absurd rfl goesOn
  | answers res turn response accepts row leads =>
      obtain ⟨requests, _⟩ | ⟨_, terminates⟩ := row.waits_or_terminates
      · obtain ⟨request, requests⟩ := Option.isSome_iff_exists.mp requests
        refine ⟨received, res, turn, request, taken, row, requests,
          goesTo.session.trans leads.session, ?_⟩
        unfold Turn.waiting
        rw [← leads.nextState, ← leads.own]
        obtain ⟨stays, same⟩ | ⟨name, leadsTo, same⟩ := goesTo.leads
        · rw [stays, same]
        · rw [leadsTo, same]
      · exact absurd (leads.nextState.trans terminates) goesOn

/-- The steps of a loop that goes on. -/
abbrev GoingOn (ρ : Type) [EVController ρ] :
    EVCCSession ρ → Option (Received V2GMessage Answers) → EVCCSession ρ → Prop :=
  Restrict (machine ρ).Step fun _ _ next => next.ended = false

/-- What a step of a timed state does. -/
theorem GoingOn.timed (step : GoingOn ρ session input next) {phase : Phase}
    (inside : InPhase phase session) :
    ∃ received, input = some received ∧
      (InPhase phase next ∧
          Continues received.answers phase session.world.session next.world.session ∨
        ¬InPhase phase next ∧ (next.world.session.ongoingTimer = -1 ∨
          next.world.currentState.own = .sessionStop)) := by
  obtain ⟨received, res, turn, request, taken, row, requests, same, own⟩ :=
    Step.turn step.1 step.2
  refine ⟨received, taken, ?_⟩
  unfold InPhase
  rw [same, own]
  exact (row.timed inside requests).imp_right fun leaves => ⟨leaves.1, leaves.2.2⟩

/-- The states do with the timer what is expected of them. -/
theorem ongoingTimer_kept : (ongoingTimer ρ).Kept (GoingOn ρ) := by
  constructor
  case starts =>
    intro session input next phase step inside remains idle
    obtain ⟨received, rfl, ⟨_, continues⟩ | ⟨outside, _⟩⟩ := step.timed inside
    · exact congrArg some (continues.timer_of_idle idle).symm
    · exact absurd remains outside
  case goesOn =>
    intro session input next phase step inside remains runs
    obtain ⟨received, rfl, ⟨_, continues⟩ | ⟨outside, _⟩⟩ := step.timed inside
    · exact continues.timer_of_runs runs
    · exact absurd remains outside
  case leaves =>
    intro session input next phase step inside leaves
    obtain ⟨_, _, ⟨remains, _⟩ | ⟨_, left⟩⟩ := step.timed inside
    · exact absurd remains leaves
    · exact left
  case elsewhere =>
    intro session input next step untimed goesOn
    obtain ⟨_, _, turn, _, _, row, _, same, _⟩ := Step.turn step.1 step.2
    left
    unfold ongoingTimer
    dsimp only
    rw [same]
    exact row.untimed untimed
  case stays =>
    intro session input next step ended
    obtain ⟨_, _, turn, _, _, row, requests, _, _⟩ := Step.turn step.1 step.2
    have own : session.world.currentState.own = .sessionStop := ended
    rw [own] at row
    cases row.silent_of_sessionStop.symm.trans requests
  case untimed =>
    intro session ended
    have own : session.world.currentState.own = .sessionStop := ended
    unfold ongoingTimer
    dsimp only
    rw [own]
    rfl

/-! ## Runs -/

/-- Between the first response in a visit to a phase and any further request of it there is at most
the time of the phase, but for the last request, which the end of the session may send again. Every
phase has its time for itself. -/
theorem din_phases_bounded {start entered : EVCCSession ρ}
    {past : List (Option (Received V2GMessage Answers))} (phase : Phase)
    (fresh : start.world.currentState = { own := .sessionSetup })
    (initial : start.world.session.ongoingTimer = -1)
    (run : Run (machine ρ).Step start past entered) :
    (∀ (recent : List (Option (Received V2GMessage Answers)))
        (opening closing : Received V2GMessage Answers) (last next : EVCCSession ρ)
        (message : RequestMessage),
      (ongoingTimer ρ).Clock (some closing :: recent ++ some opening :: past) →
      Run (Restrict (machine ρ).Step fun session _ _ => InPhase phase session) entered
        (recent ++ [some opening]) last →
      InPhase phase last → (machine ρ).Step last (some closing) next →
      next.sent = message :: last.sent → RequestOf phase message.request →
      closing.answers.now - opening.answers.now ≤ phase.timeout ∨
        next.ended = true ∧ ∃ older, last.sent = message :: older) ∧
    ∀ input next, (machine ρ).Step entered input next → next.ended = false →
      ¬InPhase phase entered → InPhase phase next → next.world.session.ongoingTimer = -1 := by
  constructor
  · intro recent opening closing last next message clock visit inside step sends requests
    have whole : Run (machine ρ).Step start ((recent ++ [some opening]) ++ past) last :=
      run.append (visit.mono fun _ _ _ step => step.1)
    have sendsOnce := SessionStateMachine.sendsOnce_of_run unreported
      (congrArg StateObject.nextV2gtpMsg fresh) whole step fun _ _ => prepares_of_processed
    cases sendsOnce with
    | silent _ same =>
        rw [same] at sends
        exact absurd sends.symm (List.cons_ne_self _ _)
    | repeats _ _ _ older _ ended _ _ lastSent sent =>
        cases sends.symm.trans sent
        exact .inr ⟨ended, older, lastSent⟩
    | makes received message' taken _ made sent =>
        cases taken
        cases sends.symm.trans sent
        obtain ⟨res, turn, _, row, asked⟩ := made
        obtain ⟨_, continues⟩ | ⟨_, other, _⟩ := row.timed inside asked
        · have begins : entered.ended = false := by
            obtain ⟨_, _, first, taken, _⟩ := visit.split
            cases first
            exact taken.1.1
          have visit' : Run (Restrict (GoingOn ρ) ((ongoingTimer ρ).In phase)) entered
              (recent ++ [some opening]) last :=
            (SessionStateMachine.run_goingOn (fun _ _ _ taken => taken.1.1) visit step.1).mono
              fun _ _ _ taken => ⟨⟨taken.1.1, taken.2⟩, taken.1.2⟩
          have clock' := clock.past (some closing :: recent)
          have shows := ongoingTimer_kept.shows initial (clock'.past [some opening])
            (SessionStateMachine.run_goingOn (fun _ _ _ taken => taken.1) run begins)
          obtain ⟨runs, started⟩ := ongoingTimer_kept.started clock' rfl shows visit' inside
          have inTime := continues.inTime runs
          have started : last.world.session.ongoingTimer ≤ opening.answers.now := started
          left
          linarith
        · exact absurd requests other
  · intro input next step goesOn outside enters
    exact ongoingTimer_kept.idle_of_enters initial
      (SessionStateMachine.run_goingOn (fun _ _ _ taken => taken.1) run step.1)
      ⟨step, goesOn⟩ outside enters

namespace Sample

def zero : PhysicalValue :=
  ⟨0, 0, by decide, by decide⟩

theorem half_full : 50 ≤ 100 := by decide

def dcEvStatus : V2.DCEVStatus :=
  ⟨true, .noError, 50, half_full⟩

theorem extended_dcMode :
    EnergyTransferMode.dcExtended = .dcExtended ∨ EnergyTransferMode.dcExtended = .dcCore :=
  .inl rfl

/-- A vehicle that knows its charge parameters. -/
structure ReadyVehicle where

instance : EVController ReadyVehicle where
  getEnergyTransferMode := pure .dcExtended
  getDcEvStatusDinspec := pure dcEvStatus
  getDcChargeParams := pure ⟨zero, zero, zero, zero, zero⟩
  processSaSchedulesDinspec _ := throw .notImplementedError
  enableCharging _ := throw .notImplementedError
  isPrecharged _ := throw .notImplementedError
  getDcEvPowerDeliveryParameter := throw .notImplementedError
  continueCharging := throw .notImplementedError
  chargeLoopDelay := throw .notImplementedError
  stopCharging := throw .notImplementedError
  isBulkChargingComplete := throw .notImplementedError
  isChargingComplete := throw .notImplementedError
  getRemainingTimeToFullSoc := throw .notImplementedError
  getRemainingTimeToBulkSoc := throw .notImplementedError
  weldingDetectionHasFinished := throw .notImplementedError

def readyStart : EVCCSession ReadyVehicle where
  world :=
    { session := {}
      controller := ⟨⟩
      currentState := { own := .sessionSetup }
      calls := [] }

/-- A response of the session, received at some time. -/
def responseAt (now : ℚ) (response : Response) : Received V2GMessage Answers :=
  ⟨.response ⟨{ sessionId := "10" }, .ok, response⟩, { now := now }⟩

/-- There are no schedules yet. -/
def notReadyAt (now : ℚ) : Received V2GMessage Answers :=
  responseAt now (.chargeParameterDiscoveryRes
    ⟨.ongoing, none, ⟨⟨0, .none, none, .evseReady⟩, zero, zero, zero, zero, zero⟩⟩)

/-- A session up to the first `ContractAuthenticationReq`. -/
def beforeAuthentication : List (Option (Received V2GMessage Answers)) :=
  [some (responseAt 1 .servicePaymentSelectionRes),
    some (responseAt 1 (.serviceDiscoveryRes ⟨[.eim], false, .dcExtended⟩)),
    some (responseAt 1 (.sessionSetupRes "evse"))]

def waiting : Received V2GMessage Answers :=
  responseAt 5 (.contractAuthenticationRes .ongoing)

/-- The EV is authorized after 40 seconds. -/
def authorized : Received V2GMessage Answers :=
  responseAt 45 (.contractAuthenticationRes .finished)

/-- A session in which the charge parameters have been asked for once. -/
def discoveryHistory : List (Option (Received V2GMessage Answers)) :=
  some authorized :: some waiting :: beforeAuthentication

/-- The request for the charge parameters. -/
def discovers : RequestMessage :=
  ⟨{ sessionId := "10" }, .chargeParameterDiscoveryReq ⟨.dcExtended,
    dcEvChargeParameter dcEvStatus ⟨zero, zero, zero, zero, zero⟩, extended_dcMode⟩⟩

/-- What the session has come to. -/
abbrev readyAfter (history : List (Option (Received V2GMessage Answers))) :
    EVCCSession ReadyVehicle :=
  (machine ReadyVehicle).rcvAll readyStart history

end Sample

open Iso15118.Evcc.Din.Sample in
/-- Twenty seconds after the first `ChargeParameterDiscoveryReq` the session is ended, although the
SECC has always answered, and that request is sent again. -/
theorem din_phases_bounded_sample :
    let last := readyAfter (some (notReadyAt 60) :: discoveryHistory)
    let next := readyAfter (some (notReadyAt 66) :: some (notReadyAt 60) :: discoveryHistory)
    next.ended = true ∧ next.sent = discovers :: last.sent ∧
      ∃ older, last.sent = discovers :: older := by
  have goesOn : (machine ReadyVehicle).GoesOn readyStart
      (some (notReadyAt 66) :: some (notReadyAt 60) :: discoveryHistory) := by decide +kernel
  have phases : InPhase .authorization (readyAfter beforeAuthentication) ∧
      InPhase .authorization (readyAfter (some waiting :: beforeAuthentication)) ∧
      InPhase .authorization (readyAfter discoveryHistory) ∧
      InPhase .authorization (readyAfter (some (notReadyAt 60) :: discoveryHistory)) := by
    decide +kernel
  obtain ⟨entered, first, second, inside⟩ := phases
  have running : ∀ time ∈ [(66 : ℚ), 60, 45, 5, 1, 1, 1], 0 < time := by decide +kernel
  have clock : (ongoingTimer ReadyVehicle).Clock
      (some (notReadyAt 66) :: some (notReadyAt 60) :: discoveryHistory) :=
    ⟨by decide +kernel, running⟩
  have sends : (readyAfter
        (some (notReadyAt 66) :: some (notReadyAt 60) :: discoveryHistory)).sent =
      discovers :: (readyAfter (some (notReadyAt 60) :: discoveryHistory)).sent := by
    decide +kernel
  have visit : Run (Restrict (machine ReadyVehicle).Step
        fun session _ _ => InPhase .authorization session)
      (readyAfter beforeAuthentication) [some (notReadyAt 60), some authorized, some waiting]
      (readyAfter (some (notReadyAt 60) :: discoveryHistory)) :=
    .step (.step (.step .start ⟨SessionStateMachine.step_rcvAll goesOn.1.1.1.2 _, entered⟩)
      ⟨SessionStateMachine.step_rcvAll goesOn.1.1.2 _, first⟩)
      ⟨SessionStateMachine.step_rcvAll goesOn.1.2 _, second⟩
  obtain late | repeated := (din_phases_bounded .authorization rfl rfl
    (SessionStateMachine.run_of_goesOn goesOn.1.1.1.1)).1
    [some (notReadyAt 60), some authorized] waiting (notReadyAt 66) _ _ discovers clock visit inside
    (SessionStateMachine.step_rcvAll goesOn.2 _) sends trivial
  · have notInTime : ¬(notReadyAt 66).answers.now - waiting.answers.now ≤
        Phase.authorization.timeout := by decide +kernel
    exact absurd late notInTime
  · exact ⟨repeated.1, sends, repeated.2⟩

end Iso15118.Evcc.Din
