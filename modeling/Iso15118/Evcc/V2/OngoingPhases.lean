import Iso15118.Evcc.V2.StopSequence
import Iso15118.Library.SharedTimer

/-!
# How long a phase may go on

`Authorization`, `ChargeParameterDiscovery`, `CableCheck` and `PreCharge` repeat their request
as long as the SECC is not done. They look at one timer of the session, each with a time of its
own for it.
-/

namespace Iso15118.Evcc.V2

open Effect Transition
open Iso15118.Shared
open Iso15118.Shared.V2

variable {ρ : Type} [EVController ρ]

/-! ## Phases -/

/-- The phases that repeat their request, with the time that they have for it. -/
def phaseTimeout : StateName → Option ℚ
  | .authorization => some Timeouts.v2gEvccOngoingTimeout
  | .chargeParameterDiscovery => some Timeouts.v2gEvccOngoingTimeout
  | .cableCheck => some Timeouts.v2gEvccCableCheckTimeout
  | .preCharge => some Timeouts.v2gEvccPreChargeTimeout
  | _ => none

/-- The request of a phase. -/
def RequestOf : StateName → Request → Prop
  | .authorization, .authorizationReq _ => True
  | .chargeParameterDiscovery, .chargeParameterDiscoveryReq _ => True
  | .cableCheck, .cableCheckReq _ => True
  | .preCharge, .preChargeReq _ => True
  | _, _ => False

/-- The session is in a phase. -/
def InPhase (phase : StateName) (session : EVCCSession ρ) : Prop :=
  session.world.currentState.own = phase

instance (phase : StateName) (session : EVCCSession ρ) : Decidable (InPhase phase session) :=
  inferInstanceAs (Decidable (_ = _))

/-- The timer of the session. The detection of welding uses it last, and never sets it back. -/
def ongoingTimer (ρ : Type) :
    SharedTimer (EVCCSession ρ) (Option (Received V2GMessage Answers)) StateName ℚ where
  now := Option.map (·.answers.now)
  timer session := session.world.session.ongoingTimer
  idle := -1
  runs time := 0 ≤ time
  phase session :=
    (phaseTimeout session.world.currentState.own).map fun _ => session.world.currentState.own
  finished session := InPhase .weldingDetection session ∨ InPhase .sessionStop session

omit [EVController ρ] in
theorem phase_eq_some {session : EVCCSession ρ} {phase : StateName} :
    (ongoingTimer ρ).phase session = some phase ↔
      InPhase phase session ∧ (phaseTimeout phase).isSome = true := by
  unfold ongoingTimer InPhase
  simp only [Option.map_eq_some_iff]
  constructor
  · rintro ⟨timeout, timed, rfl⟩
    exact ⟨rfl, by rw [timed]; rfl⟩
  · rintro ⟨rfl, timed⟩
    obtain ⟨timeout, timed⟩ := Option.isSome_iff_exists.mp timed
    exact ⟨timeout, timed, rfl⟩

omit [EVController ρ] in
theorem phase_eq_none {session : EVCCSession ρ} :
    (ongoingTimer ρ).phase session = none ↔
      phaseTimeout session.world.currentState.own = none :=
  Option.map_eq_none_iff

section

variable {answers : Answers} {schedules : Schedules} {own : StateName} {response : Response}
  {session : Session} {turn : Turn} {request : Request}

/-- A timed state either repeats its request within its time, or goes on to another state with
the timer set back. -/
theorem Row.timed (row : Row answers schedules own response session turn) {timeout : ℚ}
    (timed : phaseTimeout own = some timeout) (requests : turn.request = some request) :
    turn.nextState = some (.state own) ∧ Elapses answers timeout session turn.session ∨
      ∃ name, turn.nextState = some (.state name) ∧ name ≠ own ∧
        turn.session.ongoingTimer = -1 ∧ ¬RequestOf own request := by
  cases row
  case authorized =>
    cases requests
    exact .inr ⟨_, rfl, nofun, rfl, not_false⟩
  case acSchedule =>
    cases requests
    exact .inr ⟨_, rfl, nofun, rfl, not_false⟩
  case dcSchedule =>
    cases requests
    exact .inr ⟨_, rfl, nofun, rfl, not_false⟩
  case cableChecked =>
    cases requests
    exact .inr ⟨_, rfl, nofun, rfl, not_false⟩
  case preCharged =>
    cases requests
    exact .inr ⟨_, rfl, nofun, rfl, not_false⟩
  case repeatAuthorization elapses =>
    cases timed
    exact .inl ⟨rfl, elapses⟩
  case repeatChargeParameters elapses =>
    cases timed
    exact .inl ⟨rfl, elapses⟩
  case repeatCableCheck elapses =>
    cases timed
    exact .inl ⟨rfl, elapses⟩
  case repeatPreCharge elapses =>
    cases timed
    exact .inl ⟨rfl, elapses⟩
  case authorizationTimeout => cases requests
  case chargeParametersTimeout => cases requests
  case cableUnsafe => cases requests
  case cableCheckTimeout => cases requests
  case preChargeTimeout => cases requests
  all_goals cases timed

/-- The other states leave the timer alone, the detection of welding apart. -/
theorem Row.untimed (row : Row answers schedules own response session turn)
    (untimed : phaseTimeout own = none) (other : own ≠ .weldingDetection) :
    turn.session.ongoingTimer = session.ongoingTimer := by
  cases row
  case noEnergyMode discovers =>
    obtain ⟨_, _, _, _, rfl⟩ := discovers.assigns
    rfl
  case serviceDiscovery offered discovers requests =>
    obtain ⟨_, _, _, _, rfl⟩ := discovers.assigns
    cases requests <;> rfl
  case serviceDetail requests => cases requests <;> rfl
  case charge charges => cases charges <;> rfl
  case receiptCharge charges => cases charges <;> rfl
  case weldingTimeout => exact absurd rfl other
  case weldingDetected => exact absurd rfl other
  case detectOn => exact absurd rfl other
  all_goals first | rfl | cases untimed

/-- After the detection of welding there is only the stop of the session. -/
theorem Row.afterWelding (row : Row answers schedules own response session turn)
    (last : own = .weldingDetection ∨ own = .sessionStop) (requests : turn.request = some request) :
    turn.nextState = none ∧ own = .weldingDetection ∨
      turn.nextState = some (.state .sessionStop) := by
  obtain rfl | rfl := last
  · cases row with
    | weldingTimeout => cases requests
    | weldingDetected => exact .inr rfl
    | detectOn => exact .inl ⟨rfl, rfl⟩
  · cases row with
    | terminate => cases requests

end

/-! ## Steps -/

variable {session next : EVCCSession ρ} {input : Option (Received V2GMessage Answers)}

/-- A step after which the loop goes on, as a row. -/
theorem Step.turn (step : (machine ρ).Step session input next) (goesOn : next.ended = false) :
    ∃ received response turn request, input = some received ∧
      Row received.answers (schedulesOf session.world.controller)
        session.world.currentState.own response session.world.session turn ∧
      turn.request = some request ∧ next.world.session = turn.session ∧
      (turn.nextState = none ∧
          next.world.currentState.own = session.world.currentState.own ∨
        turn.nextState = some (.state next.world.currentState.own)) := by
  obtain ⟨received, after, taken, reacts, goes⟩ := Step.reacts step goesOn
  obtain ⟨res, turn, header, request, message, row, leads, asked, sent⟩ := goes.row reacts
  have sessionSame : next.world.session = turn.session := by rw [goes.session, leads.session]
  refine ⟨received, res.response, turn, request, taken, row, asked, sessionSame, ?_⟩
  obtain ⟨stays, same⟩ | ⟨name, leadsTo, same⟩ := goes.leads
  · rw [leads.nextState] at stays
    rw [same, leads.own]
    exact .inl ⟨stays, rfl⟩
  · rw [leads.nextState] at leadsTo
    rw [same]
    exact .inr leadsTo

/-- The steps of a loop that goes on. -/
abbrev GoingOn (ρ : Type) [EVController ρ] :
    EVCCSession ρ → Option (Received V2GMessage Answers) → EVCCSession ρ → Prop :=
  Restrict (machine ρ).Step fun _ _ next => next.ended = false

/-- What a step of a timed state does. -/
theorem GoingOn.timed (step : GoingOn ρ session input next) {phase : StateName} {timeout : ℚ}
    (timed : phaseTimeout phase = some timeout) (inside : InPhase phase session) :
    ∃ received, input = some received ∧
      (InPhase phase next ∧
          Elapses received.answers timeout session.world.session next.world.session ∨
        ¬InPhase phase next ∧ next.world.session.ongoingTimer = -1) := by
  obtain ⟨received, _, turn, request, taken, row, requests, same, leads⟩ :=
    Step.turn step.1 step.2
  refine ⟨received, taken, ?_⟩
  cases inside
  rw [same]
  obtain ⟨remains, elapses⟩ | ⟨name, goes, other, idle, _⟩ := row.timed timed requests
  · obtain ⟨stays, _⟩ | goes := leads
    · cases remains.symm.trans stays
    · have own := NextState.state.inj (Option.some.inj (goes.symm.trans remains))
      exact .inl ⟨own, elapses⟩
  · obtain ⟨stays, _⟩ | goes' := leads
    · cases goes.symm.trans stays
    · have own := NextState.state.inj (Option.some.inj (goes.symm.trans goes'))
      rw [own] at other
      exact .inr ⟨other, idle⟩

/-- The states do with the timer what is expected of them. -/
theorem ongoingTimer_kept : (ongoingTimer ρ).Kept (GoingOn ρ) := by
  have timedOf : ∀ {session : EVCCSession ρ} {phase : StateName},
      (ongoingTimer ρ).phase session = some phase →
      InPhase phase session ∧ ∃ timeout, phaseTimeout phase = some timeout := by
    intro session phase inPhase
    obtain ⟨inside, timed⟩ := phase_eq_some.mp inPhase
    exact ⟨inside, Option.isSome_iff_exists.mp timed⟩
  constructor
  case starts =>
    intro session input next phase step inPhase remains idle
    obtain ⟨inside, timeout, timed⟩ := timedOf inPhase
    obtain ⟨received, rfl, ⟨_, elapses⟩ | ⟨outside, _⟩⟩ := step.timed timed inside
    · have idle : session.world.session.ongoingTimer = -1 := idle
      generalize reached : next.world.session = elapsed at elapses
      cases elapses with
      | running runs _ =>
          rw [idle] at runs
          norm_num at runs
      | started _ =>
          unfold ongoingTimer
          dsimp only
          rw [reached]
          rfl
    · exact absurd (timedOf remains).1 outside
  case goesOn =>
    intro session input next phase step inPhase remains runs
    obtain ⟨inside, timeout, timed⟩ := timedOf inPhase
    obtain ⟨received, rfl, ⟨_, elapses⟩ | ⟨outside, _⟩⟩ := step.timed timed inside
    · have runs : 0 ≤ session.world.session.ongoingTimer := runs
      unfold ongoingTimer
      dsimp only
      generalize next.world.session = elapsed at elapses ⊢
      cases elapses with
      | running _ _ => rfl
      | started stands => exact absurd runs (not_le.mpr stands)
    · exact absurd (timedOf remains).1 outside
  case leaves =>
    intro session input next phase step inPhase leaves
    obtain ⟨inside, timeout, timed⟩ := timedOf inPhase
    obtain ⟨_, _, ⟨remains, _⟩ | ⟨_, idle⟩⟩ := step.timed timed inside
    · exact absurd (phase_eq_some.mpr ⟨remains, by rw [timed]; rfl⟩) leaves
    · exact .inl idle
  case elsewhere =>
    intro session input next step untimed goesOn
    obtain ⟨_, _, turn, _, _, row, _, same, _⟩ := Step.turn step.1 step.2
    have same' := row.untimed (phase_eq_none.mp untimed) fun welding => goesOn (.inl welding)
    left
    unfold ongoingTimer
    dsimp only
    rw [same]
    exact same'
  case stays =>
    intro session input next step ended
    obtain ⟨_, _, turn, _, _, row, requests, _, leads⟩ := Step.turn step.1 step.2
    obtain ⟨remains, welding⟩ | stops := row.afterWelding ended requests
    · obtain ⟨_, same⟩ | goes := leads
      · exact .inl (same.trans welding)
      · cases remains.symm.trans goes
    · obtain ⟨stays, _⟩ | goes := leads
      · cases stops.symm.trans stays
      · exact .inr (NextState.state.inj (Option.some.inj (goes.symm.trans stops)))
  case untimed =>
    rintro session (ended | ended)
    · exact phase_eq_none.mpr (by rw [ended]; rfl)
    · exact phase_eq_none.mpr (by rw [ended]; rfl)

/-! ## Runs -/

/-- Between the first answer in a visit to a phase and any further request of it there is at most
the time of the phase. On the way into a phase and on the way out of it the timer is set back. -/
theorem ongoingPhases_bounded {start entered : EVCCSession ρ}
    {past : List (Option (Received V2GMessage Answers))} {phase : StateName} {timeout : ℚ}
    (starts : Starts start) (timed : phaseTimeout phase = some timeout)
    (run : Run (machine ρ).Step start past entered) :
    (∀ (recent : List (Option (Received V2GMessage Answers)))
        (opening closing : Received V2GMessage Answers) (last next : EVCCSession ρ)
        (message : RequestMessage),
      (ongoingTimer ρ).Clock (some closing :: recent ++ some opening :: past) →
      Run (Restrict (machine ρ).Step fun session _ _ => InPhase phase session) entered
        (recent ++ [some opening]) last →
      InPhase phase last → (machine ρ).Step last (some closing) next →
      next.sent = message :: last.sent → RequestOf phase message.request →
      closing.answers.now - opening.answers.now ≤ timeout) ∧
    ∀ input next, (machine ρ).Step entered input next → next.ended = false →
      (InPhase phase entered ∧ ¬InPhase phase next ∨ ¬InPhase phase entered ∧ InPhase phase next) →
      next.world.session.ongoingTimer = -1 := by
  have known : ∀ {session : EVCCSession ρ},
      (ongoingTimer ρ).phase session = some phase ↔ InPhase phase session := by
    intro session
    rw [phase_eq_some, timed]
    simp
  have initial : (ongoingTimer ρ).timer start = (ongoingTimer ρ).idle := by
    obtain ⟨_, _, _, _, fresh⟩ := starts.fresh
    unfold ongoingTimer
    dsimp only
    rw [fresh]
  constructor
  · intro recent opening closing last next message clock visit inside step sends requests
    have whole : Run (machine ρ).Step start ((recent ++ [some opening]) ++ past) last :=
      run.append (visit.mono fun _ _ _ step => step.1)
    have kept := kept_of_run starts whole step.1
    obtain ⟨received, res, turn, taken, response, row, asked⟩ := sends_of_fresh
      (kept.fresh (by rw [inside]; rintro rfl; cases timed)) step sends
    cases taken
    rw [inside] at row
    obtain ⟨_, elapses⟩ | ⟨_, _, _, _, other⟩ := row.timed timed asked
    · have begins : entered.ended = false := by
        obtain ⟨_, _, first, taken, _⟩ := visit.split
        cases first
        exact taken.1.1
      have visit' : Run (Restrict (GoingOn ρ) ((ongoingTimer ρ).In phase)) entered
          (recent ++ [some opening]) last :=
        (SessionStateMachine.run_goingOn (fun _ _ _ taken => taken.1.1) visit step.1).mono
          fun _ _ _ taken => ⟨⟨taken.1.1, taken.2⟩, known.mpr taken.1.2⟩
      have clock' := clock.past (some closing :: recent)
      have shows := ongoingTimer_kept.shows initial (clock'.past [some opening])
        (SessionStateMachine.run_goingOn (fun _ _ _ taken => taken.1) run begins)
      obtain ⟨runs, started⟩ := ongoingTimer_kept.started clock' rfl shows visit'
        (known.mpr inside)
      have runs : 0 ≤ last.world.session.ongoingTimer := runs
      have started : last.world.session.ongoingTimer ≤ opening.answers.now := started
      generalize turn.session = elapsed at elapses
      cases elapses with
      | running _ within => linarith
      | started stands => exact absurd runs (not_le.mpr stands)
    · exact absurd requests other
  · intro input next step goesOn crosses
    obtain ⟨inside, outside⟩ | ⟨outside, enters⟩ := crosses
    · have goingOn : GoingOn ρ entered input next := ⟨step, goesOn⟩
      obtain ⟨_, _, ⟨remains, _⟩ | ⟨_, idle⟩⟩ := goingOn.timed timed inside
      · exact absurd remains outside
      · exact idle
    · exact ongoingTimer_kept.idle_of_enters initial
        (SessionStateMachine.run_goingOn (fun _ _ _ taken => taken.1) run step.1)
        ⟨step, goesOn⟩ (mt known.mp outside) (known.mpr enters)

namespace Sample

/-- What is received at some time. -/
def receivedAt (now : ℚ) (response : Response) : Received V2GMessage Answers :=
  { received response with answers := { (received response).answers with now := now } }

/-- A session up to the first `AuthorizationReq`. -/
def authorizationHistory : List (Option (Received V2GMessage Answers)) :=
  [receivedAt 1 .paymentServiceSelectionRes,
    receivedAt 1 (.serviceDiscoveryRes ⟨[.eim], ⟨false, [.acThreePhaseCore]⟩, none⟩),
    receivedAt 0 (.sessionSetupRes "evse")]

/-- The SECC asks for patience. -/
def ongoingAt (now : ℚ) : Received V2GMessage Answers :=
  receivedAt now (.authorizationRes .ongoing)

end Sample

open Sample

/-- A minute later the request is repeated. -/
theorem ongoingAt_bounded :
    (after (some (ongoingAt 65) :: some (ongoingAt 5) :: authorizationHistory)).sent =
        ⟨{ sessionId := "10" }, .authorizationReq ⟨none, none⟩⟩ ::
          (after (some (ongoingAt 5) :: authorizationHistory)).sent ∧
      (ongoingAt 65).answers.now - (ongoingAt 5).answers.now ≤
        Timeouts.v2gEvccOngoingTimeout := by
  have goesOn : (machine Vehicle).GoesOn start
      (some (ongoingAt 65) :: some (ongoingAt 5) :: authorizationHistory) := by decide +kernel
  have sends : (after (some (ongoingAt 65) :: some (ongoingAt 5) :: authorizationHistory)).sent =
      ⟨{ sessionId := "10" }, .authorizationReq ⟨none, none⟩⟩ ::
        (after (some (ongoingAt 5) :: authorizationHistory)).sent := by decide +kernel
  have inside : InPhase .authorization (after authorizationHistory) := by decide +kernel
  have remains : InPhase .authorization
      (after (some (ongoingAt 5) :: authorizationHistory)) := by decide +kernel
  have running : ∀ time ∈ [(65 : ℚ), 5, 1, 1, 0], 0 ≤ time := by decide +kernel
  have clock : (ongoingTimer Vehicle).Clock
      (some (ongoingAt 65) :: some (ongoingAt 5) :: authorizationHistory) :=
    ⟨by decide +kernel, running⟩
  have bounded := ongoingPhases_bounded starts_start
    (show phaseTimeout .authorization = some Timeouts.v2gEvccOngoingTimeout from rfl)
    (SessionStateMachine.run_of_goesOn goesOn.1.1)
  exact ⟨sends, bounded.1 [] _ _ _ _ _ clock
    (.step .start ⟨SessionStateMachine.step_rcvAll goesOn.1.2 _, inside⟩) remains
    (SessionStateMachine.step_rcvAll goesOn.2 _) sends trivial⟩

end Iso15118.Evcc.V2
