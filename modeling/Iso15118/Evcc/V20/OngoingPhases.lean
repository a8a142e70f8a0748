import Iso15118.Evcc.V20.Progress
import Iso15118.Library.SharedTimer

/-!
# How long a phase may go on

`Authorization`, `ScheduleExchange`, `DCCableCheck` and `DCWeldingDetection` repeat their request
as long as the other side is not done. All but `ScheduleExchange` look at the timer of the session
for it. Two of them keep their request in one object, which sends it again when it is stopped.
-/

namespace Iso15118.Evcc.V20

open Effect Transition
open Iso15118.Shared
open Iso15118.Shared.V20

variable {ρ : Type}

/-! ## Phases -/

/-- The phase that a state is in, one that repeats its request. -/
def Own.phase : Own → Option StateName
  | .authorization => some .authorization
  | .scheduleExchange => some .scheduleExchange
  | .dcCableCheck => some .dcCableCheck
  | .dcWeldingDetection _ => some .dcWeldingDetection
  | _ => none

/-- The request of a phase. -/
def RequestOf : StateName → Request → Prop
  | .authorization, .authorizationReq _ => True
  | .scheduleExchange, .scheduleExchangeReq _ => True
  | .dcCableCheck, .dcCableCheckReq => True
  | .dcWeldingDetection, .dcWeldingDetectionReq _ => True
  | _, _ => False

/-- The session is in a phase. -/
def InPhase (phase : StateName) (session : EVCCSession ρ) : Prop :=
  session.world.currentState.own.phase = some phase

/-- The timer of the session, which the detection of welding uses last and never sets back. -/
def ongoingTimer (ρ : Type) :
    SharedTimer (EVCCSession ρ) (Option (Received V2GMessage Answers)) StateName ℚ where
  now := Option.map (·.answers.now)
  timer session := session.world.session.ongoingTimer
  idle := -1
  runs time := 0 < time
  phase session := session.world.currentState.own.phase.filter (· ≠ .scheduleExchange)
  finished session := session.world.currentState.own = .sessionStop

theorem phase_eq_some {session : EVCCSession ρ} {phase : StateName} :
    (ongoingTimer ρ).phase session = some phase ↔
      InPhase phase session ∧ phase ≠ .scheduleExchange := by
  unfold ongoingTimer InPhase
  simp only [Option.filter_eq_some_iff, decide_eq_true_eq]

/-! ## The timer in a message -/

/-- The timer has been started, or runs on within a time. -/
structure TimerKept (answers : Answers) (timeout : ℚ) (before after : Session) : Prop where
  starts : before.ongoingTimer = -1 → after.ongoingTimer = answers.now
  goesOn : 0 < before.ongoingTimer → after.ongoingTimer = before.ongoingTimer
  within : 0 < before.ongoingTimer → answers.now - before.ongoingTimer ≤ timeout

/-- A state of a timed phase waits again, as the same object or as a new one. -/
def Remains (nextState : Option (NextState StateName)) : Prop :=
  nextState = none ∨ nextState = some (.state .authorization)

section

variable [EVController ρ] {answers : Answers} {world : World ρ}

omit [EVController ρ] in
theorem elapsedTime_timer {raised : PyError → Prop} (timeout : ℚ) :
    Ensures raised (elapsedTime answers timeout : Program ρ (Option ℚ))
      (fun elapsed after =>
        match elapsed with
        | none => after.currentState.nextState = some .terminate
        | some _ => TimerKept answers timeout world.session after.session) world := by
  unfold elapsedTime
  apply ensures_get_bind
  unfold Ensures
  rw [wp_ite]
  split
  next runs =>
    rw [wp_ite]
    split
    · exact rfl
    next within =>
      constructor
      · intro idle
        rw [idle] at runs
        norm_num at runs
      · exact fun _ => rfl
      · exact fun _ => not_lt.mp within
  next stands =>
    constructor
    · exact fun _ => rfl
    · exact fun runs => absurd runs.le stands
    · exact fun runs => absurd runs.le stands

omit [EVController ρ] in
theorem DCWeldingDetection.withinTime_timer {raised : PyError → Prop} :
    Ensures raised (withinTime answers : Program ρ Bool)
      (fun within after =>
        if within then TimerKept answers Timeouts.v2gEvccOngoingTimeout world.session after.session
        else after.currentState.nextState = some .terminate) world := by
  unfold withinTime
  apply ensures_get_bind
  unfold Ensures
  rw [wp_ite]
  split
  next runs =>
    rw [wp_ite]
    split
    · exact rfl
    next within =>
      constructor
      · intro idle
        rw [idle] at runs
        norm_num at runs
      · exact fun _ => rfl
      · exact fun _ => not_lt.mp within
  next stands =>
    rw [wp_ite]
    split
    · constructor
      · exact fun _ => rfl
      · exact fun runs => absurd runs stands
      · exact fun runs => absurd runs stands
    next other =>
      constructor
      · exact fun idle => absurd idle other
      · exact fun runs => absurd runs stands
      · exact fun runs => absurd runs stands

/-- A state of a timed phase that waits again keeps the timer. -/
abbrev Keeping (answers : Answers) (timeout : ℚ) (before : Session) (after : World ρ) : Prop :=
  Remains after.currentState.nextState → TimerKept answers timeout before after.session

omit [EVController ρ] in
theorem Authorization.onAuthorizationRes_timer (evseProcessing : Processing) :
    Ensures (fun _ => True)
      (Authorization.onAuthorizationRes answers evseProcessing : Program ρ PUnit)
      (fun _ after => Keeping answers Timeouts.v2gEvccOngoingTimeout world.session after)
      world := by
  unfold onAuthorizationRes Ensures
  rw [wp_ite]
  split
  · apply ensures_updateSession_bind
    apply ensures_messageHeader_bind (fun _ _ => trivial)
    rintro header (leads | leads) <;> cases leads
  · apply ensures_bind (elapsedTime_timer _)
    intro elapsed reached kept
    cases elapsed with
    | none =>
        rintro (leads | leads)
        · cases leads.symm.trans kept
        · cases leads.symm.trans kept
    | some elapsed =>
        apply ensures_get_bind
        apply ensures_required_bind (fun _ => trivial)
        intro cached _
        apply ensures_messageHeader_bind (fun _ _ => trivial)
        exact fun _ _ => kept

theorem DCCableCheck.onDCCableCheckRes_timer (evseProcessing : Processing) :
    Ensures (fun _ => True)
      (DCCableCheck.onDCCableCheckRes answers evseProcessing : Program ρ PUnit)
      (fun _ after => Keeping answers Timeouts.v2gEvccCableCheckTimeout world.session after)
      world := by
  unfold onDCCableCheckRes Ensures
  rw [wp_ite]
  split
  · apply ensures_updateSession_bind
    unfold buildPreChargeMessage
    simp only [bind_assoc, pure_bind]
    apply ensures_ask_bind ((keeps_any ρ).getPresentVoltage) (fun _ _ => trivial)
    intro presentVoltage controller _
    apply ensures_messageHeader_bind (fun _ _ => trivial)
    intro header
    apply ensures_ask_bind ((keeps_any ρ).getTargetVoltage) (fun _ _ => trivial)
    rintro targetVoltage controller' _ (leads | leads) <;> cases leads
  · apply ensures_bind (elapsedTime_timer _)
    intro elapsed reached kept
    cases elapsed with
    | none =>
        rintro (leads | leads)
        · cases leads.symm.trans kept
        · cases leads.symm.trans kept
    | some elapsed =>
        apply ensures_messageHeader_bind (fun _ _ => trivial)
        exact fun _ _ => kept

theorem DCWeldingDetection.processMessage_timer (complete : Bool) :
    Ensures (fun _ => True)
      (DCWeldingDetection.processMessage answers complete : Program ρ PUnit)
      (fun _ after => Keeping answers Timeouts.v2gEvccOngoingTimeout world.session after)
      world := by
  unfold processMessage
  apply ensures_bind withinTime_timer
  intro within reached kept
  cases within with
  | false =>
      have stopped : reached.currentState.nextState = some .terminate := kept
      rintro (leads | leads)
      · cases leads.symm.trans stopped
      · cases leads.symm.trans stopped
  | true =>
      cases complete with
      | true =>
          apply ensures_messageHeader_bind (fun _ _ => trivial)
          rintro header (leads | leads) <;> cases leads
      | false =>
          apply ensures_ask_bind ((keeps_any ρ).weldingDetectionHasFinished) (fun _ _ => trivial)
          intro finished controller _
          apply ensures_setOwn_bind
          apply ensures_messageHeader_bind (fun _ _ => trivial)
          exact fun _ _ => kept

/-- The time of a timed phase. -/
def phaseTimeout : StateName → ℚ
  | .dcCableCheck => Timeouts.v2gEvccCableCheckTimeout
  | _ => Timeouts.v2gEvccOngoingTimeout

/-- What the state of a timed phase does with a message, as far as the timer goes. -/
theorem machine_keeping {phase : StateName} (inside : world.currentState.own.phase = some phase)
    (timed : phase ≠ .scheduleExchange) (received : Received V2GMessage Answers) :
    Ensures (fun _ => True) ((machine ρ).processMessage received)
      (fun _ after => Keeping received.answers (phaseTimeout phase) world.session after)
      world := by
  have stops : ∀ timeout, Keeping received.answers timeout world.session
      { world with
        calls := []
        session := world.session.stopped
        currentState := { world.currentState with nextState := some .terminate } } := by
    rintro timeout (leads | leads) <;> cases leads
  change Ensures (fun _ => True) (processMessage received.answers received.message) _
    { world with calls := [] }
  unfold processMessage
  apply ensures_get_bind
  cases own : world.currentState.own <;> rw [own] at inside <;> cases inside
  case authorization =>
    apply ensures_checked rfl fun _ => stops _
    intro res evseProcessing _ _ _ _
    exact Authorization.onAuthorizationRes_timer evseProcessing
  case scheduleExchange => exact absurd rfl timed
  case dcCableCheck =>
    apply ensures_checked rfl fun _ => stops _
    intro res evseProcessing _ _ _ _
    exact DCCableCheck.onDCCableCheckRes_timer evseProcessing
  case dcWeldingDetection complete => exact DCWeldingDetection.processMessage_timer complete

end

/-! ## The timer in a step -/

section

variable {contract : Contract} {own : Own} {response : Response} {session : Session} {turn : Turn}
  {waiting : Own}

/-- A timed state waits again, or goes on to another state with the timer set back. -/
theorem Row.timed (row : Row contract own response session turn) {phase : StateName}
    (inside : own.phase = some phase) (timed : phase ≠ .scheduleExchange)
    (waits : turn.waiting = some waiting) :
    waiting.phase = some phase ∧ Remains turn.nextState ∨
      waiting.phase ≠ some phase ∧ turn.session.ongoingTimer = -1 := by
  cases row
  case authorized =>
    cases inside
    cases waits
    exact .inr ⟨nofun, rfl⟩
  case repeatAuthorization =>
    cases inside
    cases waits
    exact .inl ⟨rfl, .inr rfl⟩
  case cableChecked =>
    cases inside
    cases waits
    exact .inr ⟨nofun, rfl⟩
  case repeatCableCheck =>
    cases inside
    cases waits
    exact .inl ⟨rfl, .inl rfl⟩
  case authorizationTimeout => cases waits
  case cableCheckTimeout => cases waits
  case repeatScheduleExchange =>
    cases inside
    exact absurd rfl timed
  case acSchedules =>
    cases inside
    exact absurd rfl timed
  case dcSchedules =>
    cases inside
    exact absurd rfl timed
  all_goals cases inside

/-- The states without a time leave the timer alone. -/
theorem Row.untimed (row : Row contract own response session turn)
    (untimed : own.phase.filter (· ≠ .scheduleExchange) = none) :
    turn.session.ongoingTimer = session.ongoingTimer := by
  cases row <;> first | rfl | cases untimed

/-- The detection of welding waits again as the same object, or is followed by the stop of the
session. -/
theorem WeldingRow.waits {complete : Bool} (row : WeldingRow complete session turn)
    (waits : turn.waiting = some waiting) :
    waiting.phase = some .dcWeldingDetection ∧ turn.nextState = none ∨ waiting = .sessionStop := by
  cases row with
  | timeout => cases waits
  | complete =>
      cases waits
      exact .inr rfl
  | detect =>
      cases waits
      exact .inl ⟨rfl, rfl⟩

end

variable [EVController ρ] {session next : EVCCSession ρ}
  {input : Option (Received V2GMessage Answers)}

/-- A step of a loop that goes on, from a session that waits. -/
structure GoingOn (session : EVCCSession ρ) (input : Option (Received V2GMessage Answers))
    (next : EVCCSession ρ) : Prop where
  step : (machine ρ).Step session input next
  goesOn : next.ended = false
  idle : session.world.currentState.nextState = none
  waits : Waits session

/-- What a step of a timed phase does. -/
theorem GoingOn.timed (step : GoingOn session input next) {phase : StateName}
    (inside : InPhase phase session) (timed : phase ≠ .scheduleExchange) :
    ∃ received, input = some received ∧
      (InPhase phase next ∧
          TimerKept received.answers (phaseTimeout phase) session.world.session
            next.world.session ∨
        ¬InPhase phase next ∧ (next.world.session.ongoingTimer = -1 ∨
          next.world.currentState.own = .sessionStop)) := by
  obtain ⟨received, after, taken, processed, goes⟩ := Step.goesOnTo step.step step.goesOn
  have reacts := post_of_eq_ok (machine_reacts (keeps_any ρ) step.idle received) processed
  have keeping := post_of_eq_ok (machine_keeping inside timed received) processed
  refine ⟨received, taken, ?_⟩
  unfold InPhase at inside ⊢
  rw [goes.session]
  cases reacts with
  | answers res turn response accepts row leads =>
      have waits := goes.waiting leads
      unfold Keeping at keeping
      rw [leads.nextState] at keeping
      obtain ⟨remains, again⟩ | ⟨leaves, idle⟩ := row.timed inside timed waits
      · exact .inl ⟨remains, keeping again⟩
      · rw [leads.session]
        exact .inr ⟨leaves, .inl idle⟩
  | refuses _ _ currentState =>
      obtain ⟨stays, _⟩ | ⟨name, leads, _⟩ := goes.leads
      · rw [currentState] at stays
        cases stays
      · rw [currentState] at leads
        cases leads
  | detectsWelding complete turn own row leads =>
      rw [own] at inside
      cases inside
      have waits := goes.waiting leads
      unfold Keeping at keeping
      rw [leads.nextState] at keeping
      obtain ⟨remains, stays⟩ | stops := row.waits waits
      · exact .inl ⟨remains, keeping (.inl stays)⟩
      · rw [stops]
        exact .inr ⟨nofun, .inr rfl⟩

/-- What a step does elsewhere. -/
theorem GoingOn.untimed (step : GoingOn session input next)
    (untimed : (ongoingTimer ρ).phase session = none) :
    next.world.session.ongoingTimer = session.world.session.ongoingTimer ∧
      session.world.currentState.own ≠ .sessionStop := by
  obtain ⟨received, after, _, processed, goes⟩ := Step.goesOnTo step.step step.goesOn
  have reacts := post_of_eq_ok (machine_reacts (keeps_any ρ) step.idle received) processed
  constructor
  · rw [goes.session]
    cases reacts with
    | answers res turn response accepts row leads =>
        rw [leads.session]
        exact row.untimed untimed
    | refuses _ stopped _ =>
        rw [stopped]
        rfl
    | detectsWelding complete turn own =>
        unfold ongoingTimer at untimed
        dsimp only at untimed
        rw [own] at untimed
        cases untimed
  · intro own
    obtain ⟨message, prepared, _⟩ := goes.sends
    have leftover := step.waits.leftover
    rw [own] at leftover
    cases (leftover.symm.trans (reacts.sessionStop_silent own).symm).trans prepared

/-- The states do with the timer what is expected of them. -/
theorem ongoingTimer_kept : (ongoingTimer ρ).Kept GoingOn := by
  constructor
  case starts =>
    intro session input next phase step inPhase remains idle
    obtain ⟨inside, timed⟩ := phase_eq_some.mp inPhase
    obtain ⟨received, rfl, ⟨_, kept⟩ | ⟨outside, _⟩⟩ := step.timed inside timed
    · exact congrArg some (kept.starts idle).symm
    · exact absurd (phase_eq_some.mp remains).1 outside
  case goesOn =>
    intro session input next phase step inPhase remains runs
    obtain ⟨inside, timed⟩ := phase_eq_some.mp inPhase
    obtain ⟨received, rfl, ⟨_, kept⟩ | ⟨outside, _⟩⟩ := step.timed inside timed
    · exact kept.goesOn runs
    · exact absurd (phase_eq_some.mp remains).1 outside
  case leaves =>
    intro session input next phase step inPhase leaves
    obtain ⟨inside, timed⟩ := phase_eq_some.mp inPhase
    obtain ⟨_, _, ⟨remains, _⟩ | ⟨_, left⟩⟩ := step.timed inside timed
    · exact absurd (phase_eq_some.mpr ⟨remains, timed⟩) leaves
    · exact left
  case elsewhere =>
    intro session input next step untimed _
    exact .inl (step.untimed untimed).1
  case stays =>
    intro session input next step ended
    have untimed : (ongoingTimer ρ).phase session = none := by
      unfold ongoingTimer at ended ⊢
      dsimp only at ended ⊢
      rw [ended]
      rfl
    exact absurd ended (step.untimed untimed).2
  case untimed =>
    intro session ended
    unfold ongoingTimer at ended ⊢
    dsimp only at ended ⊢
    rw [ended]
    rfl

/-! ## Messages that prolong a phase -/

/-- The state takes a response. -/
def Takes (world : World ρ) (message : V2GMessage) (response : Response) : Prop :=
  ∃ res, message = .response res ∧ Accepts world.currentState.own res world.session ∧
    res.response = response

/-- The messages that make a phase go on, or stop it with its request. `ScheduleExchange` repeats
its request when the SECC is not done. `DCCableCheck` has its request in the object: it is sent
unless the SECC is done. So is that of `DCWeldingDetection`, which does not look at messages. -/
def Prolongs (phase : StateName) (world : World ρ) (message : V2GMessage) : Prop :=
  match phase with
  | .scheduleExchange => ∃ res, Takes world message (.scheduleExchangeRes res) ∧
      res.evseProcessing = .ongoing
  | .dcCableCheck => ¬Takes world message (.dcCableCheckRes .finished)
  | .dcWeldingDetection => True
  | _ => False

section

variable {world : World ρ} {received : Received V2GMessage Answers}

/-- `ScheduleExchange` asks again, however long it takes. -/
theorem machine_repeats (own : world.currentState.own = .scheduleExchange)
    (prolongs : Prolongs .scheduleExchange world received.message) {cached : RequestMessage}
    (caches : world.session.ongoingScheduleExchangeReq = some cached) :
    returns ((machine ρ).processMessage received)
      (fun _ after => after.currentState.nextV2gtpMsg = some cached) world := by
  obtain ⟨res, ⟨message, response, accepts, taken⟩, ongoing⟩ := prolongs
  change returns (processMessage received.answers received.message) _ { world with calls := [] }
  unfold processMessage
  apply ensures_get_bind
  dsimp only
  rw [own, response]
  unfold ScheduleExchange.processMessage checkMsg Ensures wp
  dsimp only
  rw [bind_checkMsg rfl, taken]
  dsimp only
  rw [if_pos ⟨accepts.good, accepts.known⟩]
  unfold ScheduleExchange.onScheduleExchangeRes
  rw [if_pos ongoing, get_bind_apply]
  dsimp only
  rw [caches]
  rfl

/-- When `DCCableCheck` is stopped, it keeps its request. -/
theorem machine_stops_dcCableCheck (own : world.currentState.own = .dcCableCheck)
    (prolongs : Prolongs .dcCableCheck world received.message)
    (runs : 0 ≤ world.session.ongoingTimer)
    (late : received.answers.now - world.session.ongoingTimer >
      Timeouts.v2gEvccCableCheckTimeout) :
    returns ((machine ρ).processMessage received)
      (fun _ after => after.currentState.nextV2gtpMsg = world.currentState.nextV2gtpMsg)
      world := by
  change returns (processMessage received.answers received.message) _ { world with calls := [] }
  unfold processMessage
  apply ensures_get_bind
  dsimp only
  rw [own]
  apply ensures_checked rfl fun _ => rfl
  intro res evseProcessing response expected good known
  have other : evseProcessing ≠ .finished := by
    rintro rfl
    split at expected
    next taken =>
      cases expected
      refine prolongs ⟨res, response, ⟨good, known, ?_⟩, taken⟩
      rw [own, taken]
      trivial
    · cases expected
  dsimp only
  unfold DCCableCheck.onDCCableCheckRes elapsedTime Ensures
  rw [if_neg other, bind_assoc]
  apply ensures_get_bind
  dsimp only
  rw [if_pos runs, if_pos late]
  rfl

/-- When `DCWeldingDetection` is stopped, it keeps its request. -/
theorem machine_stops_dcWeldingDetection {complete : Bool}
    (own : world.currentState.own = .dcWeldingDetection complete)
    (runs : 0 < world.session.ongoingTimer)
    (late : received.answers.now - world.session.ongoingTimer >
      Timeouts.v2gEvccOngoingTimeout) :
    returns ((machine ρ).processMessage received)
      (fun _ after => after.currentState.nextV2gtpMsg = world.currentState.nextV2gtpMsg)
      world := by
  change returns (processMessage received.answers received.message) _ { world with calls := [] }
  unfold processMessage
  apply ensures_get_bind
  dsimp only
  rw [own]
  dsimp only
  unfold DCWeldingDetection.processMessage DCWeldingDetection.withinTime Ensures
  rw [bind_assoc]
  apply ensures_get_bind
  dsimp only
  rw [if_pos runs, if_pos late]
  rfl

end

/-- A state that waits again as the same object has its request in it. -/
theorem GoingOn.keepsRequest (step : GoingOn session input next) {phase : StateName}
    (inside : InPhase phase session) (remains : InPhase phase next)
    (object : phase = .dcCableCheck ∨ phase = .dcWeldingDetection) :
    ∃ message, next.world.currentState.nextV2gtpMsg = some message ∧
      RequestOf phase message.request := by
  obtain ⟨received, after, _, reacts, goes⟩ :=
    Step.reacts (keeps_any ρ) step.idle step.step step.goesOn
  unfold InPhase at inside remains
  cases reacts with
  | answers res turn response accepts row leads =>
      have waits := goes.waiting leads
      have again : turn.nextState = none ∧ ∃ request, turn.request = some request ∧
          RequestOf phase request := by
        generalize next.world.currentState.own = waiting at remains waits
        generalize session.world.currentState.own = own at inside row
        generalize res.response = response at row
        obtain rfl | rfl := object
        · cases row
          case repeatCableCheck => exact ⟨rfl, _, rfl, trivial⟩
          case cableChecked =>
            cases waits
            cases remains
          case cableCheckTimeout => cases waits
          all_goals cases inside
        · cases row <;> cases inside
      obtain ⟨stays, request, requests, ofPhase⟩ := again
      obtain ⟨header, prepared⟩ := leads.prepares request requests
      obtain ⟨_, same⟩ | ⟨name, goesTo, _⟩ := goes.leads
      · rw [same]
        exact ⟨_, prepared, ofPhase⟩
      · rw [leads.nextState, stays] at goesTo
        cases goesTo
  | refuses _ _ currentState =>
      obtain ⟨stays, _⟩ | ⟨name, leads, _⟩ := goes.leads
      · rw [currentState] at stays
        cases stays
      · rw [currentState] at leads
        cases leads
  | detectsWelding complete turn own row leads =>
      rw [own] at inside
      cases inside
      have waits := goes.waiting leads
      cases row with
      | timeout => cases waits
      | complete =>
          unfold Turn.waiting at waits
          dsimp only at waits
          rw [← Option.some.inj waits] at remains
          cases remains
      | detect =>
          obtain ⟨header, prepared⟩ := leads.prepares _ rfl
          obtain ⟨_, same⟩ | ⟨name, goesTo, _⟩ := goes.leads
          · rw [same]
            exact ⟨_, prepared, trivial⟩
          · rw [leads.nextState] at goesTo
            cases goesTo

/-- What is kept to ask for the schedules again is a request for schedules. -/
def KeepsExchange (session : Session) : Prop :=
  ∀ cached, session.ongoingScheduleExchangeReq = some cached →
    RequestOf .scheduleExchange cached.request

theorem Row.keepsExchange {contract : Contract} {own : Own} {response : Response}
    {session : Session} {turn : Turn} (row : Row contract own response session turn)
    (keeps : KeepsExchange session) : KeepsExchange turn.session := by
  cases row
  case acExchangeSchedules =>
    intro cached caches
    cases caches
    trivial
  case dcExchangeSchedules =>
    intro cached caches
    cases caches
    trivial
  all_goals exact keeps

theorem keepsExchange_of_run {start : EVCCSession ρ}
    {history : List (Option (Received V2GMessage Answers))} (starts : Starts start)
    (run : Run (machine ρ).Step start history session) (goesOn : session.ended = false) :
    KeepsExchange session.world.session := by
  have kept : session.world.currentState.nextState = none ∧
      KeepsExchange session.world.session := by
    apply run_invariant (keeps_any ρ) starts _ _ run goesOn
    · obtain ⟨points, sessionId, fresh⟩ := starts.fresh
      intro cached caches
      rw [fresh] at caches
      cases caches
    · intro session next received after _ keeps reacts goes
      rw [goes.session]
      cases reacts with
      | answers res turn response accepts row leads =>
          rw [leads.session]
          exact row.keepsExchange keeps
      | refuses _ stopped _ =>
          rw [stopped]
          exact keeps
      | detectsWelding complete turn own row leads =>
          rw [leads.session]
          cases row <;> exact keeps
  exact kept.2

/-- The requests of a phase, where a message does not prolong it. -/
theorem Row.sendsOfPhase {contract : Contract} {own : Own} {response : Response}
    {session : Session} {turn : Turn} (row : Row contract own response session turn)
    {phase : StateName} (inside : own.phase = some phase) {request : Request}
    (requests : turn.request = some request) (ofPhase : RequestOf phase request) :
    phase = .authorization ∧ turn.nextState = some (.state .authorization) ∨
      (∃ res, phase = .scheduleExchange ∧ response = .scheduleExchangeRes res ∧
        res.evseProcessing = .ongoing) ∨
      ∃ evseProcessing, phase = .dcCableCheck ∧ response = .dcCableCheckRes evseProcessing ∧
        evseProcessing ≠ .finished := by
  cases row
  case authorized =>
    cases inside
    cases requests
    cases ofPhase
  case repeatAuthorization =>
    cases inside
    exact .inl ⟨rfl, rfl⟩
  case repeatScheduleExchange res ongoing =>
    cases inside
    exact .inr (.inl ⟨res, rfl, rfl, ongoing⟩)
  case acSchedules =>
    cases inside
    cases requests
    cases ofPhase
  case dcSchedules =>
    cases inside
    cases requests
    cases ofPhase
  case cableChecked =>
    cases inside
    cases requests
    cases ofPhase
  case repeatCableCheck evseProcessing timer ongoing =>
    cases inside
    exact .inr (.inr ⟨evseProcessing, rfl, rfl, ongoing⟩)
  case authorizationTimeout => cases requests
  case cableCheckTimeout => cases requests
  all_goals cases inside

/-- An end of the cable check is no reason to stop there. -/
theorem Row.requests_of_finished {contract : Contract} {own : Own} {response : Response}
    {session : Session} {turn : Turn} (row : Row contract own response session turn)
    (finished : response = .dcCableCheckRes .finished) : turn.request ≠ none := by
  cases row <;> cases finished
  case cableChecked => exact nofun
  case repeatCableCheck ongoing => exact absurd rfl ongoing
  case cableCheckTimeout ongoing => exact absurd rfl ongoing

/-- Where a message does not prolong a phase, only `Authorization` sends a request of it, within
its time. -/
theorem within_of_sends {phase : StateName} {received : Received V2GMessage Answers}
    {message : RequestMessage} (idle : session.world.currentState.nextState = none)
    (waits : Waits session) (inside : InPhase phase session)
    (runs : phase ≠ .scheduleExchange → 0 < session.world.session.ongoingTimer)
    (step : (machine ρ).Step session (some received) next)
    (sends : next.sent = message :: session.sent) (ofPhase : RequestOf phase message.request)
    (other : ¬Prolongs phase session.world received.message) :
    phase = .authorization ∧
      received.answers.now - session.world.session.ongoingTimer ≤
        Timeouts.v2gEvccOngoingTimeout := by
  obtain same | ⟨_, after, message', taken, processed, prepared, sent⟩ := step.sent_eq_or
  · rw [same] at sends
    exact (List.ne_cons_self sends).elim
  · cases taken
    obtain ⟨rfl, -⟩ := List.cons.inj (sent.symm.trans sends)
    have reacts := post_of_eq_ok (machine_reacts (keeps_any ρ) idle received) processed
    have prepared : after.currentState.nextV2gtpMsg = some message' := prepared
    unfold InPhase at inside
    -- only two states have a message from before, and that is one of a message that prolongs
    have fresh : session.world.currentState.nextV2gtpMsg = none ∨ phase = .dcCableCheck := by
      have leftover := waits.leftover
      cases own : session.world.currentState.own <;> rw [own] at inside leftover <;> cases inside
      case authorization => exact .inl leftover
      case scheduleExchange => exact .inl leftover
      case dcCableCheck => exact .inr rfl
      case dcWeldingDetection => exact absurd trivial other
    have finished : phase = .dcCableCheck →
        Takes session.world received.message (.dcCableCheckRes .finished) := by
      rintro rfl
      exact not_not.mp other
    cases reacts with
    | refuses refused _ currentState =>
        exfalso
        obtain fresh | cable := fresh
        · rw [currentState] at prepared
          cases fresh.symm.trans prepared
        · obtain ⟨res, response, accepts, _⟩ := finished cable
          exact refused ⟨res, response, accepts⟩
    | detectsWelding complete turn own =>
        rw [own] at inside
        cases inside
        exact absurd trivial other
    | answers res turn response accepts row leads =>
        have requests : turn.request = some message'.request := by
          cases requests : turn.request with
          | none =>
              exfalso
              obtain fresh | cable := fresh
              · rw [leads.silent requests] at prepared
                cases fresh.symm.trans prepared
              · obtain ⟨_, response', _, taken⟩ := finished cable
                cases response.symm.trans response'
                exact row.requests_of_finished taken requests
          | some request =>
              obtain ⟨header, prepared'⟩ := leads.prepares request requests
              cases prepared.symm.trans prepared'
              rfl
        obtain ⟨rfl, again⟩ | ⟨_, rfl, taken, ongoing⟩ | ⟨_, cable, taken, ongoing⟩ :=
          row.sendsOfPhase inside requests ofPhase
        · have keeping := post_of_eq_ok (machine_keeping inside nofun received) processed
          have kept := keeping (.inr (leads.nextState.trans again))
          exact ⟨rfl, kept.within (runs nofun)⟩
        · exact absurd ⟨_, ⟨res, response, accepts, taken⟩, ongoing⟩ other
        · obtain ⟨_, response', _, taken'⟩ := finished cable
          cases response.symm.trans response'
          cases taken.symm.trans taken'
          exact absurd rfl ongoing

/-! ## Runs -/

theorem goingOn_of_run {start : EVCCSession ρ}
    {history : List (Option (Received V2GMessage Answers))} (starts : Starts start)
    (run : Run (machine ρ).Step start history session) (goesOn : session.ended = false) :
    Run GoingOn start history session := by
  induction run with
  | start => exact .start
  | step past last ih =>
      obtain ⟨idle, waits⟩ := waits_of_run starts past last.1
      exact .step (ih last.1) ⟨last, goesOn, idle, waits⟩

/-- A part of a run, all in one phase. -/
abbrev Visit (ρ : Type) [EVController ρ] (phase : StateName) :
    EVCCSession ρ → List (Option (Received V2GMessage Answers)) → EVCCSession ρ → Prop :=
  Run (Restrict (machine ρ).Step fun session _ _ => InPhase phase session)

theorem visit_goingOn {start entered : EVCCSession ρ} {phase : StateName}
    {past recent : List (Option (Received V2GMessage Answers))} (starts : Starts start)
    (run : Run (machine ρ).Step start past entered) (visit : Visit ρ phase entered recent session)
    (goesOn : session.ended = false) :
    Run (Restrict GoingOn fun session _ _ => InPhase phase session) entered recent session := by
  induction visit with
  | start => exact .start
  | step earlier last ih =>
      obtain ⟨step, inside⟩ := last
      have whole := run.append (earlier.mono fun _ _ _ step => step.1)
      obtain ⟨idle, waits⟩ := waits_of_run starts whole step.1
      exact .step (ih step.1) ⟨⟨step, goesOn, idle, waits⟩, inside⟩

/-- A state that waits again as the same object still has its request in it. -/
theorem request_of_visit {entered : EVCCSession ρ} {phase : StateName}
    {recent : List (Option (Received V2GMessage Answers))}
    {opening : Option (Received V2GMessage Answers)}
    (visit : Run (Restrict GoingOn fun session _ _ => InPhase phase session) entered
      (recent ++ [opening]) session)
    (inside : InPhase phase session)
    (object : phase = .dcCableCheck ∨ phase = .dcWeldingDetection) :
    ∃ message, session.world.currentState.nextV2gtpMsg = some message ∧
      RequestOf phase message.request := by
  cases recent with
  | nil =>
      cases visit with
      | step _ last => exact last.1.keepsRequest last.2 inside object
  | cons _ _ =>
      cases visit with
      | step _ last => exact last.1.keepsRequest last.2 inside object

/-- A message that prolongs a phase, and comes late for the timer, has the request of the phase
sent once more. -/
theorem sends_of_prolongs {phase : StateName} {received : Received V2GMessage Answers}
    (waits : Waits session) (keeps : KeepsExchange session.world.session)
    (inside : InPhase phase session) (prolongs : Prolongs phase session.world received.message)
    (late : phase ≠ .scheduleExchange → 0 < session.world.session.ongoingTimer ∧
      received.answers.now - session.world.session.ongoingTimer >
        Timeouts.v2gEvccOngoingTimeout)
    (kept : phase = .dcCableCheck ∨ phase = .dcWeldingDetection →
      ∃ message, session.world.currentState.nextV2gtpMsg = some message ∧
        RequestOf phase message.request)
    (step : (machine ρ).Step session (some received) next) :
    ∃ message, next.sent = message :: session.sent ∧ RequestOf phase message.request := by
  unfold InPhase at inside
  cases own : session.world.currentState.own <;> rw [own] at inside <;> cases inside
  case authorization => cases prolongs
  case scheduleExchange =>
    have ready := waits.ready
    rw [own] at ready
    obtain ⟨cached, caches⟩ := Option.isSome_iff_exists.mp ready.2.2.2
    obtain ⟨_, after, processed, prepared⟩ := eq_ok_of_wp (machine_repeats own prolongs caches)
    exact ⟨cached, step.sends processed prepared, keeps cached caches⟩
  case dcCableCheck =>
    obtain ⟨runs, late⟩ := late nofun
    obtain ⟨message, stale, ofPhase⟩ := kept (.inl rfl)
    have late' : received.answers.now - session.world.session.ongoingTimer >
        Timeouts.v2gEvccCableCheckTimeout := lt_trans (by decide +kernel) late
    obtain ⟨_, after, processed, prepared⟩ :=
      eq_ok_of_wp (machine_stops_dcCableCheck own prolongs runs.le late')
    exact ⟨message, step.sends processed (prepared.trans stale), ofPhase⟩
  case dcWeldingDetection complete =>
    obtain ⟨runs, late⟩ := late nofun
    obtain ⟨message, stale, ofPhase⟩ := kept (.inr rfl)
    obtain ⟨_, after, processed, prepared⟩ :=
      eq_ok_of_wp (machine_stops_dcWeldingDetection own runs late)
    exact ⟨message, step.sends processed (prepared.trans stale), ofPhase⟩

/-- On the way into a phase the timer is set back. -/
theorem idle_of_enters {start : EVCCSession ρ} {phase : StateName}
    {history : List (Option (Received V2GMessage Answers))} (starts : Starts start)
    (run : Run (machine ρ).Step start history session)
    (step : (machine ρ).Step session input next) (goesOn : next.ended = false)
    (outside : ¬InPhase phase session) (enters : InPhase phase next) :
    next.world.session.ongoingTimer = -1 := by
  have initial : (ongoingTimer ρ).timer start = (ongoingTimer ρ).idle := by
    obtain ⟨_, _, fresh⟩ := starts.fresh
    unfold ongoingTimer
    dsimp only
    rw [fresh]
  by_cases untimed : phase = .scheduleExchange
  · apply ongoingTimer_kept.idle_of_untimed initial (goingOn_of_run starts (.step run step) goesOn)
    · unfold ongoingTimer
      dsimp only
      rw [show next.world.currentState.own.phase = some phase from enters, untimed]
      rfl
    · intro stops
      have stops : next.world.currentState.own = .sessionStop := stops
      unfold InPhase at enters
      rw [stops] at enters
      cases enters
  · obtain ⟨idle, waits⟩ := waits_of_run starts run step.1
    exact ongoingTimer_kept.idle_of_enters initial (goingOn_of_run starts run step.1)
      ⟨step, goesOn, idle, waits⟩ (fun inPhase => outside (phase_eq_some.mp inPhase).1)
      (phase_eq_some.mpr ⟨enters, untimed⟩)

/-- In a visit to a phase, between an answer and a later request of the phase there is at most a
minute if and only if no message that prolongs the phase comes later than that. On the way into a
phase the timer is set back. -/
theorem ongoingPhases_bounded_iff {start entered last next : EVCCSession ρ}
    {past recent : List (Option (Received V2GMessage Answers))} {phase : StateName}
    {opening closing : Received V2GMessage Answers} (starts : Starts start)
    (run : Run (machine ρ).Step start past entered)
    (visit : Visit ρ phase entered (recent ++ [some opening]) last) (inside : InPhase phase last)
    (step : (machine ρ).Step last (some closing) next)
    (clock : (ongoingTimer ρ).Clock (some closing :: recent ++ some opening :: past)) :
    ((∀ message, next.sent = message :: last.sent → RequestOf phase message.request →
        closing.answers.now - opening.answers.now ≤ Timeouts.v2gEvccOngoingTimeout) ∧
      ∀ history before input, Run (machine ρ).Step start history before →
        (machine ρ).Step before input entered → ¬InPhase phase before →
        entered.world.session.ongoingTimer = -1) ↔
      (Prolongs phase last.world closing.message →
        closing.answers.now - opening.answers.now ≤ Timeouts.v2gEvccOngoingTimeout) := by
  have visit' := visit_goingOn starts run visit step.1
  obtain ⟨begins, entersPhase⟩ : entered.ended = false ∧ InPhase phase entered := by
    obtain ⟨_, _, first, taken, _⟩ := visit.split
    cases first
    exact ⟨taken.1.1, taken.2⟩
  have whole := run.append (visit.mono fun _ _ _ step => step.1)
  obtain ⟨idle, waits⟩ := waits_of_run starts whole step.1
  have timer : phase ≠ .scheduleExchange → 0 < last.world.session.ongoingTimer ∧
      last.world.session.ongoingTimer ≤ opening.answers.now := by
    intro timed
    have clock' := clock.past (some closing :: recent)
    have initial : (ongoingTimer ρ).timer start = (ongoingTimer ρ).idle := by
      obtain ⟨_, _, fresh⟩ := starts.fresh
      unfold ongoingTimer
      dsimp only
      rw [fresh]
    have shows := ongoingTimer_kept.shows initial (clock'.past [some opening])
      (goingOn_of_run starts run begins)
    exact ongoingTimer_kept.started clock' rfl shows
      (visit'.mono fun _ _ _ step => ⟨step.1, phase_eq_some.mpr ⟨step.2, timed⟩⟩)
      (phase_eq_some.mpr ⟨inside, timed⟩)
  constructor
  · rintro ⟨bounded, _⟩ prolongs
    by_contra late
    have late := not_le.mp late
    obtain ⟨message, sends, ofPhase⟩ := sends_of_prolongs waits
      (keepsExchange_of_run starts whole step.1) inside prolongs
      (fun timed => ⟨(timer timed).1, by linarith [(timer timed).2]⟩)
      (request_of_visit visit' inside) step
    exact absurd (bounded message sends ofPhase) (not_le.mpr late)
  · intro prompt
    constructor
    · intro message sends ofPhase
      by_cases prolongs : Prolongs phase last.world closing.message
      · exact prompt prolongs
      · obtain ⟨rfl, within⟩ := within_of_sends idle waits inside (fun timed => (timer timed).1)
          step sends ofPhase prolongs
        linarith [(timer nofun).2]
    · intro history before input earlier enters outside
      exact idle_of_enters starts earlier enters begins outside entersPhase

namespace Sample

/-- A response of the session, received at some time. -/
def responseAt (now : ℚ) (response : Response) : Received V2GMessage Answers :=
  ⟨.response ⟨{ sessionId := "10" }, .ok, response⟩, { now := now }⟩

/-- A session up to the request for the schedules, which is sent at the time one. -/
def exchangeHistory : List (Option (Received V2GMessage Answers)) :=
  [responseAt 1 .acChargeParameterDiscoveryRes, responseAt 1 .serviceSelectionRes,
    responseAt 1 (.serviceDetailRes (serviceDetailRes .ac)),
    responseAt 1 (.serviceDiscoveryRes ⟨false, ⟨[⟨ServiceV20.ac.id, false⟩]⟩, none⟩),
    responseAt 1 (.authorizationRes .finished),
    responseAt 1 (.authorizationSetupRes ⟨[.eim], false, none⟩),
    responseAt 1 (.sessionSetupRes "evse")]

/-- The SECC has no schedules yet. -/
def ongoingAt (now : ℚ) : Received V2GMessage Answers :=
  responseAt now (.scheduleExchangeRes
    ⟨.ongoing, some (.scheduled ⟨[⟨1, [⟨3600, zeroRational⟩]⟩]⟩), none, fun _ => rfl⟩)

/-- The session after a history. -/
def after (history : List (Option (Received V2GMessage Answers))) : EVCCSession SteadyController :=
  (machine SteadyController).rcvAll (start ⟨.ac⟩) history

def isScheduleExchangeReq (message : RequestMessage) : Bool :=
  match message.request with
  | .scheduleExchangeReq _ => true
  | _ => false

theorem requestOf_scheduleExchange {message : RequestMessage}
    (asks : isScheduleExchangeReq message = true) :
    RequestOf .scheduleExchange message.request := by
  obtain ⟨header, request⟩ := message
  cases request
  case scheduleExchangeReq => trivial
  all_goals cases asks

theorem exchangeHistory_clock (now : ℚ) (later : 1 ≤ now) :
    (ongoingTimer SteadyController).Clock
      (some (ongoingAt now) :: some (ongoingAt 1) :: exchangeHistory) := by
  have readings : (ongoingTimer SteadyController).readings
      (some (ongoingAt now) :: some (ongoingAt 1) :: exchangeHistory) =
        now :: List.replicate 8 1 := rfl
  constructor
  · rw [readings]
    simp [later]
  · rw [readings]
    intro time shown
    obtain rfl | ones := List.mem_cons.mp shown
    · exact lt_of_lt_of_le one_pos later
    · rw [List.eq_of_mem_replicate ones]
      exact one_pos

/-- The session waits for schedules, and has been told to ask again. -/
theorem inPhase_exchange :
    InPhase .scheduleExchange (after (some (ongoingAt 1) :: exchangeHistory)) := by
  unfold InPhase
  decide +kernel

theorem visit_exchange
    (goesOn : (machine SteadyController).GoesOn (start ⟨.ac⟩)
      (some (ongoingAt 1) :: exchangeHistory)) :
    Visit SteadyController .scheduleExchange (after exchangeHistory) ([] ++ [some (ongoingAt 1)])
      (after (some (ongoingAt 1) :: exchangeHistory)) := by
  have enters : InPhase .scheduleExchange (after exchangeHistory) := by
    unfold InPhase
    decide +kernel
  exact .step .start ⟨SessionStateMachine.step_rcvAll goesOn.2 _, enters⟩

theorem prolongs_exchange (now : ℚ) :
    Prolongs .scheduleExchange (after (some (ongoingAt 1) :: exchangeHistory)).world
      (ongoingAt now).message := by
  refine ⟨_, ⟨_, rfl, ⟨rfl, .inr (by decide +kernel), ?_⟩, rfl⟩, rfl⟩
  rw [show (after (some (ongoingAt 1) :: exchangeHistory)).world.currentState.own =
    .scheduleExchange by decide +kernel]
  trivial

end Sample

open Sample

/-- After a minute, the schedules are asked for again. -/
theorem exchangeAgain_bounded :
    Prolongs .scheduleExchange (after (some (ongoingAt 1) :: exchangeHistory)).world
        (ongoingAt 61).message ∧
      ∀ message,
        (after (some (ongoingAt 61) :: some (ongoingAt 1) :: exchangeHistory)).sent =
          message :: (after (some (ongoingAt 1) :: exchangeHistory)).sent →
        RequestOf .scheduleExchange message.request →
        (ongoingAt 61).answers.now - (ongoingAt 1).answers.now ≤
          Timeouts.v2gEvccOngoingTimeout := by
  have goesOn : (machine SteadyController).GoesOn (start ⟨.ac⟩)
      (some (ongoingAt 61) :: some (ongoingAt 1) :: exchangeHistory) := by decide +kernel
  have bounded := ongoingPhases_bounded_iff (starts_start _)
    (SessionStateMachine.run_of_goesOn goesOn.1.1) (visit_exchange goesOn.1)
    (inPhase_exchange) (SessionStateMachine.step_rcvAll goesOn.2 _)
    (exchangeHistory_clock 61 (by decide +kernel))
  exact ⟨prolongs_exchange 61, (bounded.mpr fun _ => by decide +kernel).1⟩

/-- Nothing keeps the EVCC from asking for the schedules as long as it is told to. -/
theorem scheduleExchange_unbounded :
    Run (machine SteadyController).Step (start ⟨.ac⟩) exchangeHistory (after exchangeHistory) ∧
      Visit SteadyController .scheduleExchange (after exchangeHistory) ([] ++ [some (ongoingAt 1)])
        (after (some (ongoingAt 1) :: exchangeHistory)) ∧
      (machine SteadyController).Step (after (some (ongoingAt 1) :: exchangeHistory))
        (some (ongoingAt 100))
        (after (some (ongoingAt 100) :: some (ongoingAt 1) :: exchangeHistory)) ∧
      (ongoingTimer SteadyController).Clock
        (some (ongoingAt 100) :: some (ongoingAt 1) :: exchangeHistory) ∧
      (∃ message,
        (after (some (ongoingAt 100) :: some (ongoingAt 1) :: exchangeHistory)).sent =
          message :: (after (some (ongoingAt 1) :: exchangeHistory)).sent ∧
        RequestOf .scheduleExchange message.request) ∧
      (ongoingAt 100).answers.now - (ongoingAt 1).answers.now >
        Timeouts.v2gEvccOngoingTimeout := by
  have goesOn : (machine SteadyController).GoesOn (start ⟨.ac⟩)
      (some (ongoingAt 100) :: some (ongoingAt 1) :: exchangeHistory) := by decide +kernel
  have step := SessionStateMachine.step_rcvAll goesOn.2 (some (ongoingAt 100))
  refine ⟨SessionStateMachine.run_of_goesOn goesOn.1.1, visit_exchange goesOn.1, step,
    exchangeHistory_clock 100 (by decide +kernel), ?_, by decide +kernel⟩
  obtain same | ⟨_, _, message, _, _, _, sent⟩ := step.sent_eq_or
  · have longer := congrArg List.length same
    exact absurd longer (by decide +kernel)
  · have asks : (after (some (ongoingAt 100) :: some (ongoingAt 1) ::
        exchangeHistory)).sent.head?.map isScheduleExchangeReq = some true := by decide +kernel
    have sent : (after (some (ongoingAt 100) :: some (ongoingAt 1) :: exchangeHistory)).sent =
        message :: (after (some (ongoingAt 1) :: exchangeHistory)).sent := sent
    rw [sent] at asks
    exact ⟨message, sent, requestOf_scheduleExchange (Option.some.inj asks)⟩

end Iso15118.Evcc.V20
