import Iso15118.Secc.V2.Loop
import Iso15118.Secc.V20.Loop
import Iso15118.Secc.V20.Responding
import Iso15118.Secc.V20.ScheduleSelection

/-!
# Schedules that are not ready

The interface of the EVSE controller lets it return `None` while it has no schedules. The
states of both versions have a branch that reports ongoing processing, but `None` does not
get there: ISO 15118-2 iterates over it, and ISO 15118-20 takes it for the parameters of
another control mode.
-/

namespace Iso15118.Secc

open Effect Transition
open Iso15118.Shared

/-! ## A session that is kept alive -/

section

variable {ι κ ν μ ω : Type}

/-- An iteration is answered with a message that says so, and the session takes another
request. -/
structure StillProcessing (machine : SessionStateMachine ι κ ν μ ω) (ongoing : μ → Prop)
    (accepts : ω → Prop) (before : CommSession μ ω) (wait : ι) (after : CommSession μ ω) :
    Prop where
  step : machine.Step before (some wait) after
  goesOn : after.ended = false
  sends : ∃ message, after.sent = message :: before.sent ∧ ongoing message
  accepts : accepts after.world

/-- The request is repeated while the controller has no schedules, the newest answers first,
and once more when it has. -/
structure KeptAlive (machine : SessionStateMachine ι κ ν μ ω) (ongoing finished : μ → Prop)
    (accepts : ω → Prop) (session : CommSession μ ω) (waits : List ι) (available : ι) :
    Prop where
  waiting : ∀ wait past, wait :: past <:+ waits →
    StillProcessing machine ongoing accepts (machine.rcvAll session (past.map some)) wait
      (machine.rcvAll session ((wait :: past).map some))
  offered : ∃ message,
    (machine.rcvAll session ((available :: waits).map some)).sent =
        message :: (machine.rcvAll session (waits.map some)).sent ∧
      finished message

/-- The latest wait has been reported, and so have those before it. -/
theorem KeptAlive.last {machine : SessionStateMachine ι κ ν μ ω} {ongoing finished : μ → Prop}
    {accepts : ω → Prop} {session : CommSession μ ω} {waits : List ι} {wait available : ι}
    (kept : KeptAlive machine ongoing finished accepts session (wait :: waits) available) :
    StillProcessing machine ongoing accepts (machine.rcvAll session (waits.map some)) wait
      (machine.rcvAll session ((wait :: waits).map some)) :=
  kept.waiting wait waits (List.suffix_refl _)

end

namespace V2

open Iso15118.Shared.V2

/-- The response says that the EVSE is processing. -/
def Ongoing (message : ResponseMessage) : Prop :=
  message.responseCode = .ok ∧ ∃ saScheduleList acChargeParameter dcChargeParameter,
    message.response = .chargeParameterDiscoveryRes
      ⟨.ongoing, saScheduleList, acChargeParameter, dcChargeParameter⟩

/-- The response offers schedules. -/
def Finished (message : ResponseMessage) : Prop :=
  message.responseCode = .ok ∧ ∃ schedules acChargeParameter dcChargeParameter,
    message.response = .chargeParameterDiscoveryRes
      ⟨.finished, some schedules, acChargeParameter, dcChargeParameter⟩

/-- The request, with the answers of a controller. -/
def discovery (header : MessageHeader) (req : ChargeParameterDiscoveryReq) (answers : Answers) :
    Received :=
  ⟨.request ⟨header, .chargeParameterDiscoveryReq req⟩, answers⟩

/-- The session takes another request of the type. -/
def TakesDiscovery (world : World) : Prop :=
  world.currentState.own.accepts .chargeParameterDiscoveryReq = true

instance (world : World) : Decidable (TakesDiscovery world) :=
  inferInstanceAs (Decidable (_ = _))

/-- Without schedules there is nothing to iterate over. -/
theorem offerSchedules_of_none {answers : Answers} {req : ChargeParameterDiscoveryReq}
    {parameters : Option ACEVSEChargeParameter × Option DCEVSEChargeParameter}
    (none : answers.getSaScheduleList = .ok none) (world : World) :
    wp (ChargeParameterDiscovery.offerSchedules answers req parameters) (fun _ _ => False)
      (fun _ _ => True) world := by
  unfold ChargeParameterDiscovery.offerSchedules
  rw [wp_bind, wp_ask]
  constructor
  · intro _ _
    rw [wp_bind, wp_get, wp_bind, wp_ask]
    constructor
    · intro schedules answered
      cases none.symm.trans answered
      rw [wp_bind, wp_ofExcept]
      exact ⟨nofun, fun _ _ => trivial⟩
    · exact fun _ _ => trivial
  · exact fun _ _ => trivial

theorem onChargeParameterDiscoveryReq_of_none {answers : Answers} {message : V2GMessage}
    {req : ChargeParameterDiscoveryReq} (none : answers.getSaScheduleList = .ok none)
    (world : World) :
    wp (ChargeParameterDiscovery.onChargeParameterDiscoveryReq answers message req)
      (fun _ next => next.currentState.nextState = some .terminate) (fun _ _ => True) world := by
  unfold ChargeParameterDiscovery.onChargeParameterDiscoveryReq
  rw [wp_bind, wp_ask]
  constructor
  · intro energyModes _
    rw [wp_ite]
    split
    · rw [wp_bind]
      apply wp_of_forall _ fun _ _ => trivial
      intro _ context
      rw [wp_bind, wp_updateSession, wp_bind]
      apply wp_of_forall _ fun _ _ => trivial
      intro parameters reached
      apply wp_mono _ (fun _ _ failed => failed) (offerSchedules_of_none none reached)
      exact fun _ _ impossible => impossible.elim
    · exact stopStateMachine_terminates message _ _
  · exact fun _ _ => trivial

/-- A session whose controller has no schedules ends. -/
theorem ended_of_none {environment : Environment} {session next : SECCSession}
    {header : MessageHeader} {req : ChargeParameterDiscoveryReq} {answers : Answers}
    (none : answers.getSaScheduleList = .ok none)
    (step : (machine environment).Step session (some (discovery header req answers)) next) :
    next.ended = true := by
  by_contra goesOn
  obtain ⟨message, answers', reached, response, same, answered⟩ :=
    SeccProtocol.step_answered step (Bool.eq_false_iff.mpr goesOn)
  cases same
  have terminates := post_of_eq_ok (onChargeParameterDiscoveryReq_of_none none _) answered.answer
  exact answered.not_terminate terminates

/-- A session that has no schedules once is not kept alive. -/
theorem not_keptAlive {environment : Environment} {session : SECCSession}
    {header : MessageHeader} {req : ChargeParameterDiscoveryReq} {wait : Answers}
    {waits : List Answers} {available : Answers} (none : wait.getSaScheduleList = .ok none) :
    ¬KeptAlive (machine environment) Ongoing Finished TakesDiscovery session
      ((wait :: waits).map (discovery header req)) (discovery header req available) := by
  intro kept
  have last := kept.last
  cases (ended_of_none none last.step).symm.trans last.goesOn

namespace Sample

def dcDiscoveryReq : ChargeParameterDiscoveryReq :=
  ⟨none, .dcExtended, .dc ⟨none, dcEvStatus, zeroPhysical, none, zeroPhysical, none, none, none,
    none⟩, by decide⟩

/-- A DC session that is authorized. -/
def authorizedHistory : List (Option Received) :=
  request (.authorizationReq ⟨none, none⟩) :: selectionHistory .eim

/-- The controller has no schedules. -/
def waiting : Answers :=
  { answers with getSaScheduleList := .ok none }

end Sample

end V2

namespace V20

open Iso15118.Shared.V20

/-- The response says that the EVSE is processing. -/
def Ongoing (message : ResponseMessage) : Prop :=
  message.responseCode = .ok ∧
    ∃ res, message.response = .scheduleExchangeRes res ∧ res.evseProcessing = .ongoing

/-- The response offers schedules. -/
def Finished (message : ResponseMessage) : Prop :=
  ∃ res, message.response = .scheduleExchangeRes res ∧ res.evseProcessing = .finished

/-- The request, with the answers of a controller. -/
def exchange (header : MessageHeader) (req : ScheduleExchangeReq) (answers : Answers) :
    Received :=
  ⟨.request ⟨header, .scheduleExchangeReq req⟩, answers⟩

variable {σ : Type}

/-- The session takes another request of the type. -/
def TakesExchange (world : World σ) : Prop :=
  world.currentState.own.accepts .scheduleExchangeReq = true

instance (world : World σ) : Decidable (TakesExchange world) :=
  inferInstanceAs (Decidable (_ = _))

/-- The request is answered with ongoing processing, and the state stays and takes another
one. -/
structure Waits (world : World σ) : Prop where
  stays : world.currentState.nextState = none
  prepares : ∃ message, world.currentState.nextV2gtpMsg = some message ∧ Ongoing message
  takes : TakesExchange world

theorem not_waits_of_terminate {world : World σ}
    (terminates : world.currentState.nextState = some .terminate) : ¬Waits world := by
  intro waits
  cases terminates.symm.trans waits.stays

/-- In a control mode, no schedules are parameters of the other one. -/
theorem onScheduleExchangeReq_of_mode {answers : Answers} {message : RequestMessage}
    {req : ScheduleExchangeReq} {world : World σ} {controlMode : ControlMode}
    (none : answers.getScheduleExchangeParams = .ok none)
    (mode : world.session.controlMode = some controlMode) :
    wp (ScheduleExchange.onScheduleExchangeReq answers (.request message) req)
      (fun _ next => next.currentState.nextState = some .terminate) (fun _ _ => True) world := by
  unfold ScheduleExchange.onScheduleExchangeReq
  rw [wp_bind, wp_get, wp_bind, wp_onEvData]
  apply wp_of_forall _ fun _ _ => trivial
  intro _ context
  rw [wp_bind, wp_ask]
  constructor
  · intro params answered
    cases none.symm.trans answered
    have unexpected : ScheduleExchange.unexpectedParams world.session.controlMode
        Option.none = true := by
      rw [mode]
      cases controlMode <;> rfl
    rw [wp_ite, if_pos unexpected]
    exact stopStateMachine_terminates message _ _
  · exact fun _ _ => trivial

/-- The answer is what it should be only for a session without a control mode. -/
theorem returns_waits_iff {answers : Answers} {message : RequestMessage}
    {req : ScheduleExchangeReq} {world : World σ}
    (none : answers.getScheduleExchangeParams = .ok none) (takes : TakesExchange world) :
    returns (ScheduleExchange.onScheduleExchangeReq answers (.request message) req)
        (fun _ next => Waits next) world ↔
      world.session.controlMode = Option.none ∧ answers.readyToCharge = .ok false ∧
        ValidSessionId world.session.sessionId := by
  cases mode : world.session.controlMode with
  | some controlMode =>
      constructor
      · intro waits
        obtain ⟨_, next, ended, waiting⟩ := eq_ok_of_wp waits
        have terminates := post_of_eq_ok (onScheduleExchangeReq_of_mode none mode) ended
        exact absurd waiting (not_waits_of_terminate terminates)
      · rintro ⟨⟨⟩, _⟩
  | none =>
      have exchanges : returns (ScheduleExchange.onScheduleExchangeReq answers (.request message)
          req) (fun _ next => Waits next) world ↔
            returns (ScheduleExchange.respond answers Option.none Option.none)
              (fun _ next => Waits next)
              { world with calls := .getScheduleExchangeParams :: world.calls } := by
        unfold ScheduleExchange.onScheduleExchangeReq
        simp [mode, none, EVDataContext.updateScheduleExchangeParameters,
          ScheduleExchange.unexpectedParams]
      rw [exchanges]
      unfold ScheduleExchange.respond ScheduleExchange.scheduleExchangeRes
      cases answers.readyToCharge with
      | error exception => simp
      | ok readyToCharge =>
          cases readyToCharge with
          | true => simp [ScheduleExchange.offerSchedules]
          | false =>
              simp only [returns_bind, returns_ask, Except.ok.injEq, exists_eq_left',
                Bool.false_eq_true, ↓reduceIte]
              simp only [Option.isSome_none, Bool.false_eq_true, ↓reduceIte, ne_eq,
                not_true_eq_false, false_implies, ↓reduceDIte, returns_ofExcept, Except.ok.injEq,
                exists_eq_left', returns_createNextMessage, true_and]
              constructor
              · exact fun waits => waits.1
              · exact fun valid => ⟨valid, rfl, ⟨_, rfl, rfl, _, rfl, rfl⟩, takes⟩

/-- An object that answers a `ScheduleExchangeReq` takes another one. -/
theorem takesExchange_answering (world : World σ) :
    TakesExchange
      { world with currentState := answering world.currentState .scheduleExchangeReq } := by
  unfold TakesExchange answering StateTable.answering
  dsimp only
  split
  next same =>
    change Own.name _ = .scheduleExchange at same
    cases own : world.currentState.own <;> rw [own] at same <;> first
      | rfl
      | cases same
  next => rfl

variable [DiagnosticService σ]

/-- What becomes of a request that the current state accepts, while there are no
schedules. -/
theorem processMessage_waits_iff {environment : Environment} {answers : Answers}
    {header : MessageHeader} {req : ScheduleExchangeReq} {world : World σ}
    (none : answers.getScheduleExchangeParams = .ok none) (takes : TakesExchange world)
    (known : header.sessionId = world.session.sessionId) :
    returns (processMessage environment answers (.request ⟨header, .scheduleExchangeReq req⟩))
        (fun _ next => Waits next) world ↔
      world.session.controlMode = Option.none ∧ answers.readyToCharge = .ok false ∧
        ValidSessionId world.session.sessionId := by
  have processes : processMessage environment answers
      (.request ⟨header, .scheduleExchangeReq req⟩) world =
        ScheduleExchange.onScheduleExchangeReq answers
          (.request ⟨header, .scheduleExchangeReq req⟩) req
          { world with currentState := answering world.currentState .scheduleExchangeReq } := by
    have accepted : world.currentState.own.accepts
        (Request.scheduleExchangeReq req).requestType = true :=
      takes
    rw [processMessage_request, route_eq, if_pos accepted, if_pos (.inr known)]
    · rfl
    · intro installing
      rw [installing] at accepted
      cases accepted
  have answered : returns (ScheduleExchange.onScheduleExchangeReq answers
        (.request ⟨header, .scheduleExchangeReq req⟩) req) (fun _ next => Waits next)
      { world with currentState := answering world.currentState .scheduleExchangeReq } ↔ _ :=
    returns_waits_iff none (takesExchange_answering world)
  unfold returns wp at answered ⊢
  rw [processes]
  exact answered

/-- No schedules have been offered by the object. -/
def OffersNone (world : World σ) : Prop :=
  ∀ message, world.currentState.nextV2gtpMsg = some message → ¬Finished message

omit [DiagnosticService σ] in
theorem stopStateMachine_offersNone {message : RequestMessage} {req : ScheduleExchangeReq}
    (exchanges : message.request = .scheduleExchangeReq req) (responseCode : ResponseCode)
    (world : World σ) :
    wp (stopStateMachine (.request message) responseCode) (fun _ next => OffersNone next)
      (fun _ _ => True) world := by
  rw [wp_stopStateMachine, exchanges]
  apply createNextMessage_ensures
  rintro _ ⟨⟩ ⟨res, ⟨⟩, ⟨⟩⟩

omit [DiagnosticService σ] in
/-- Without a control mode, a finished response would have no parameters. -/
theorem onScheduleExchangeReq_offersNone {answers : Answers} {message : RequestMessage}
    {req : ScheduleExchangeReq} {world : World σ} (mode : world.session.controlMode = none) :
    wp (ScheduleExchange.onScheduleExchangeReq answers (.request message) req)
      (fun _ next => OffersNone next) (fun _ _ => True) world := by
  unfold ScheduleExchange.onScheduleExchangeReq
  rw [wp_bind, wp_get, wp_bind, wp_onEvData]
  apply wp_of_forall _ fun _ _ => trivial
  intro _ context
  rw [wp_bind, wp_ask]
  constructor
  · intro params _
    rw [mode, wp_ite, if_neg (by simp [ScheduleExchange.unexpectedParams])]
    unfold ScheduleExchange.respond
    rw [wp_bind, wp_ask]
    constructor
    · intro readyToCharge _
      rw [wp_ite]
      split
      · rw [wp_bind]
        apply wp_of_forall _ fun _ _ => trivial
        intro _ reached
        rw [wp_bind, wp_ofExcept]
        constructor
        · intro res built
          cases built
        · exact fun _ _ => trivial
      · rw [wp_bind, wp_ofExcept]
        constructor
        · rintro res built
          apply createNextMessage_ensures
          rintro _ ⟨⟩ ⟨_, ⟨⟩, finished⟩
          cases (ScheduleExchange.scheduleExchangeRes_params built).1.symm.trans finished
        · exact fun _ _ => trivial
    · exact fun _ _ => trivial
  · exact fun _ _ => trivial

variable {environment : Environment} {session next : SECCSession σ} {header : MessageHeader}
  {req : ScheduleExchangeReq} {answers : Answers}

/-- The request is processed without offering schedules. -/
theorem processMessage_offersNone {world : World σ} (mode : world.session.controlMode = none) :
    wp (processMessage environment answers (.request ⟨header, .scheduleExchangeReq req⟩))
      (fun _ next => OffersNone next) (fun _ _ => True) world := by
  by_cases installing : world.currentState.own = .certificateInstallation
  · unfold wp
    rw [processMessage_certificateInstallation environment answers _ world installing]
    trivial
  · unfold wp
    rw [processMessage_request environment answers _ world installing, route_eq]
    by_cases accepted : world.currentState.own.accepts
        (Request.scheduleExchangeReq req).requestType = true
    · by_cases known : Known ⟨header, .scheduleExchangeReq req⟩ world.session
      · rw [if_pos accepted, if_pos known]
        exact onScheduleExchangeReq_offersNone (by exact mode)
      · rw [if_pos accepted, if_neg known]
        exact stopStateMachine_offersNone (by rfl) _ world
    · rw [if_neg accepted]
      exact stopStateMachine_offersNone (by rfl) _ world

/-- A session that goes on without schedules has no control mode. -/
theorem controlMode_of_step (none : answers.getScheduleExchangeParams = .ok none)
    (step : (machine environment).Step session (some (exchange header req answers)) next)
    (goesOn : next.ended = false) : next.world.session.controlMode = Option.none := by
  obtain ⟨message, answers', reached, response, same, answered⟩ :=
    SeccProtocol.step_answered step goesOn
  cases same
  have kept := field_of_kept (kept_of_answered answered) Session.controlMode (fun _ => rfl)
  rw [answered.session_eq, kept]
  cases mode : session.world.session.controlMode with
  | none => rfl
  | some controlMode =>
      have terminates : wp (ScheduleExchange.onScheduleExchangeReq answers
            (.request ⟨header, .scheduleExchangeReq req⟩) req)
          (fun _ next => next.currentState.nextState = some .terminate) (fun _ _ => True)
          ((protocol environment).entered session.world ⟨header, .scheduleExchangeReq req⟩) :=
        onScheduleExchangeReq_of_mode none mode
      exact absurd (post_of_eq_ok terminates answered.answer) answered.not_terminate

/-- Once a session has waited for schedules, none are offered. -/
theorem not_keptAlive {wait : Answers} {waits : List Answers} {available : Answers}
    (none : wait.getScheduleExchangeParams = .ok none) :
    ¬KeptAlive (machine environment) Ongoing Finished TakesExchange session
      ((wait :: waits).map (exchange header req)) (exchange header req available) := by
  intro kept
  have last := kept.last
  have mode := controlMode_of_step none last.step last.goesOn
  have step := SessionStateMachine.step_rcvAll last.goesOn (some (exchange header req available))
  obtain ⟨message, sent, finished⟩ := kept.offered
  rcases step.sent_eq_or with silent | ⟨received, world, prepared, same, processed, made, sends⟩
  · exact absurd (sent.symm.trans silent) (List.cons_ne_self _ _)
  · cases same
    have same := (List.cons.inj (sends.symm.trans sent)).1
    rw [same] at made
    have processes : wp (processMessage environment available
          (.request ⟨header, .scheduleExchangeReq req⟩)) (fun _ next => OffersNone next)
        (fun _ _ => True) { ((machine environment).rcvAll session
          (((wait :: waits).map (exchange header req)).map some)).world with calls := [] } :=
      processMessage_offersNone mode
    exact post_of_eq_ok processes processed _ made finished

namespace Sample

def scheduleExchangeReq : ScheduleExchangeReq :=
  ⟨12, .dynamic ⟨0, none, none, zeroRational, zeroRational, zeroRational, none, none⟩⟩

/-- The controller has no schedules. -/
def waiting : Answers :=
  { Sample.answers with getScheduleExchangeParams := .ok none }

end Sample

end V20

/-- A controller that has no schedules ends the session in ISO 15118-2. In ISO 15118-20 it
does not only where no control mode has been selected and the controller is not ready, and
then no schedules are ever offered. -/
theorem never_keptAlive (σ : Type) [DiagnosticService σ] (environmentV2 : V2.Environment)
    (environmentV20 : V20.Environment) :
    (∀ session next header req answers, answers.getSaScheduleList = .ok none →
      (V2.machine environmentV2).Step session (some (V2.discovery header req answers)) next →
      next.ended = true) ∧
    (∀ session header req wait waits available, wait.getSaScheduleList = .ok none →
      ¬KeptAlive (V2.machine environmentV2) V2.Ongoing V2.Finished V2.TakesDiscovery session
        ((wait :: waits).map (V2.discovery header req)) (V2.discovery header req available)) ∧
    (∀ (world : V20.World σ) header req answers,
      answers.getScheduleExchangeParams = .ok none → V20.TakesExchange world →
      header.sessionId = world.session.sessionId →
      (returns (V20.processMessage environmentV20 answers
          (.request ⟨header, .scheduleExchangeReq req⟩)) (fun _ next => V20.Waits next) world ↔
        world.session.controlMode = none ∧ answers.readyToCharge = .ok false ∧
          ValidSessionId world.session.sessionId)) ∧
    (∀ (session : V20.SECCSession σ) header req wait waits available,
      wait.getScheduleExchangeParams = .ok none →
      ¬KeptAlive (V20.machine environmentV20) V20.Ongoing V20.Finished V20.TakesExchange session
        ((wait :: waits).map (V20.exchange header req)) (V20.exchange header req available)) := by
  refine ⟨?_, ?_, ?_, ?_⟩
  · intro session next header req answers none step
    exact V2.ended_of_none none step
  · intro session header req wait waits available none
    exact V2.not_keptAlive none
  · intro world header req answers none takes known
    exact V20.processMessage_waits_iff none takes known
  · intro session header req wait waits available none
    exact V20.not_keptAlive none

/-- An authorized DC session, and one in the dynamic control mode. -/
theorem sample_never_keptAlive :
    (¬KeptAlive (V2.machine V2.Sample.environment) V2.Ongoing V2.Finished V2.TakesDiscovery
        ((V2.machine V2.Sample.environment).rcvAll V2.Sample.start V2.Sample.authorizedHistory)
        [V2.discovery { sessionId := "10" } V2.Sample.dcDiscoveryReq V2.Sample.waiting]
        (V2.discovery { sessionId := "10" } V2.Sample.dcDiscoveryReq V2.Sample.answers)) ∧
      ¬KeptAlive (V20.machine V20.Sample.environment) V20.Ongoing V20.Finished V20.TakesExchange
        ((V20.machine V20.Sample.environment).rcvAll V20.Sample.start
          V20.Sample.scheduleHistory.tail)
        [V20.exchange { sessionId := "10" } V20.Sample.scheduleExchangeReq V20.Sample.waiting]
        (V20.exchange { sessionId := "10" } V20.Sample.scheduleExchangeReq
          V20.Sample.answers) := by
  have never := never_keptAlive BatteryHealthService V2.Sample.environment V20.Sample.environment
  constructor
  · exact never.2.1 _ _ _ V2.Sample.waiting [] _ rfl
  · exact never.2.2.2 _ _ _ V20.Sample.waiting [] _ rfl

/-- The ISO 15118-2 session ends without a response, and the other one with a failed one. -/
theorem no_schedules_end_session :
    (∃ session, Run (V2.machine V2.Sample.environment).Step V2.Sample.start
        V2.Sample.authorizedHistory session ∧ session.ended = false ∧
      V2.TakesDiscovery session.world ∧
      ((V2.machine V2.Sample.environment).rcv session
        (some (V2.discovery { sessionId := "10" } V2.Sample.dcDiscoveryReq
          V2.Sample.waiting))).ended = true ∧
      ((V2.machine V2.Sample.environment).rcv session
        (some (V2.discovery { sessionId := "10" } V2.Sample.dcDiscoveryReq
          V2.Sample.waiting))).sent = session.sent) ∧
    ∃ session, Run (V20.machine V20.Sample.environment).Step V20.Sample.start
        V20.Sample.scheduleHistory.tail session ∧ session.ended = false ∧
      V20.TakesExchange session.world ∧
      ((V20.machine V20.Sample.environment).rcv session
        (some (V20.exchange { sessionId := "10" } V20.Sample.scheduleExchangeReq
          V20.Sample.waiting))).ended = true ∧
      ((V20.machine V20.Sample.environment).rcv session
        (some (V20.exchange { sessionId := "10" } V20.Sample.scheduleExchangeReq
          V20.Sample.waiting))).sent.head?.map (·.responseCode) = some .failed := by
  constructor
  · exact ⟨_, SessionStateMachine.run_of_goesOn (by decide +kernel), by decide +kernel,
      by decide +kernel, by decide +kernel, by decide +kernel⟩
  · exact ⟨_, SessionStateMachine.run_of_goesOn (by decide +kernel), by decide +kernel,
      by decide +kernel, by decide +kernel, by decide +kernel⟩

end Iso15118.Secc
