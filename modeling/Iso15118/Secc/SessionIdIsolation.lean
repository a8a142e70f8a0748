import Iso15118.Secc.V2.Loop
import Iso15118.Secc.V20.Loop

/-!
# Messages of other sessions

A message with another session id is refused before a controller method is called
or a context is updated, by every state and however the message is handed over.
The id itself is set by the answer to a `SessionSetupReq` only, which no state
accepts after that.
-/

namespace Iso15118.Secc

open Effect Transition
open Iso15118.Shared

/-- Nothing but the current state object has changed, and what `forget` erases of the
session. -/
structure Isolated {ς κ ν μ γ ρ : Type} (forget : ς → ς) (before after : World ς κ ν μ γ ρ) :
    Prop where
  calls : after.calls = before.calls
  evDataContext : after.evDataContext = before.evDataContext
  evseDataContext : after.evseDataContext = before.evseDataContext
  serviceRegistry : after.serviceRegistry = before.serviceRegistry
  session : forget after.session = forget before.session

section

variable {ς κ ν μ γ ρ : Type} {forget : ς → ς}

instance : IsPreorder (World ς κ ν μ γ ρ) (Isolated forget) where
  refl _ := ⟨rfl, rfl, rfl, rfl, rfl⟩
  trans _ _ _ first second :=
    { calls := second.calls.trans first.calls
      evDataContext := second.evDataContext.trans first.evDataContext
      evseDataContext := second.evseDataContext.trans first.evseDataContext
      serviceRegistry := second.serviceRegistry.trans first.serviceRegistry
      session := second.session.trans first.session }

theorem isolated_createMessage {nextState : Option (NextState ν)} {sessionId : ς → String}
    {message : ς → μ} {timeout : ℚ} :
    Keeps (Isolated forget)
      (createMessage nextState sessionId message timeout :
        EStateM PyError (World ς κ ν μ γ ρ) PUnit) :=
  keeps_createMessage fun _ => ⟨rfl, rfl, rfl, rfl, rfl⟩

end

/-! ## The session id in a protocol -/

section

variable {ς κ ν μ γ ρ τ q M α : Type}

/-- The session has left its first state, or the loop has ended. -/
def SetUp (table : StateTable κ ν τ) (first : ν) (session : SECCSession ς κ ν μ γ ρ) : Prop :=
  session.ended = true ∨ table.name session.world.currentState.own ≠ first

/-- The loop of a session that has left its first state is between two messages. -/
def Begun (table : StateTable κ ν τ) (first : ν) (session : SECCSession ς κ ν μ γ ρ) : Prop :=
  SetUp table first session ∧
    (session.ended = false → session.world.currentState.nextState = none)

namespace SeccProtocol

variable [DecidableEq ν] [DecidableEq τ]

/-- The first state is left with the answer to its request and never entered again. No other one
changes the session id, and no message that is not answered does. -/
structure ChoosesIdOnce (protocol : SeccProtocol ς κ ν μ γ ρ τ q M α) (first : ν)
    (sessionId : ς → String) : Prop where
  leaves : ∀ answers req own world reached,
    protocol.guide.table.answeredBy (protocol.requestType req) = first →
      protocol.answer answers req own world = .ok ⟨⟩ reached →
        reached.currentState.nextState ≠ none
  not_entered : ∀ type, protocol.guide.mayGoTo type first = false
  kept : ∀ own type, protocol.guide.table.accepts own type = true →
    protocol.guide.table.name own ≠ first → ∀ before after,
      protocol.guide.kept type after = protocol.guide.kept type before →
        sessionId after = sessionId before
  refused : ∀ answers message world next,
    (∀ req, message = protocol.request req →
      ¬(protocol.guide.table.accepts world.currentState.own (protocol.requestType req) = true ∧
        protocol.Known req world.session)) →
      Reaches (protocol.processMessage answers message) world next →
        sessionId next.session = sessionId world.session

variable {protocol : SeccProtocol ς κ ν μ γ ρ τ q M α} {first : ν} {sessionId : ς → String}
  {session next : SECCSession ς κ ν μ γ ρ} {input : Option (Received M α)}

/-- No state after the first one changes the session id. -/
theorem sessionId_of_reaches (once : protocol.ChoosesIdOnce first sessionId) {answers : α}
    {message : M} {world next : World ς κ ν μ γ ρ}
    (after_setup : protocol.guide.table.name world.currentState.own ≠ first)
    (reaches : Reaches (protocol.processMessage answers message) world next) :
    sessionId next.session = sessionId world.session := by
  rcases protocol.processMessage_cases answers message world with
    ⟨req, rfl, accepted, known, answered⟩ | ⟨refused, _⟩
  · unfold Reaches at reaches
    rw [answered] at reaches
    exact once.kept _ _ accepted after_setup _ _
      ((protocol.answer_effects answers req _).of_reaches reaches).session
  · exact once.refused answers message world next refused reaches

/-- A session that goes on with its first step done has left the first state. -/
theorem begun_of_step (once : protocol.ChoosesIdOnce first sessionId)
    (step : protocol.machine.Step session input next)
    (resting : session.world.currentState.nextState = none) :
    Begun protocol.guide.table first next := by
  constructor
  · by_cases goesOn : next.ended = true
    · exact .inl goesOn
    · right
      rcases step_answered step (Bool.eq_false_iff.mpr goesOn) with
        ⟨req, answers, reached, response, rfl, answered⟩
      intro setup
      rcases answered.leads resting with ⟨stays, same, named⟩ | ⟨name, leads, same, allowed⟩
      · rw [same, named] at setup
        exact once.leaves _ _ _ _ _ setup answered.answer stays
      · rw [same] at setup
        rw [← protocol.name_new name, setup, once.not_entered] at allowed
        cases allowed
  · intro goesOn
    rcases step_answered step goesOn with ⟨req, answers, reached, response, rfl, answered⟩
    exact answered.resting

theorem sessionId_of_step (once : protocol.ChoosesIdOnce first sessionId)
    (step : protocol.machine.Step session input next)
    (setUp : SetUp protocol.guide.table first session) :
    sessionId next.world.session = sessionId session.world.session := by
  have after_setup : protocol.guide.table.name session.world.currentState.own ≠ first := by
    rcases setUp with ended | after_setup
    · exact absurd ended (Bool.eq_false_iff.mp step.1)
    · exact after_setup
  cases input with
  | none =>
      rw [step.2]
      rfl
  | some received =>
      rcases session_of_step step with ⟨reached, reaches, same⟩
      rw [same]
      apply (sessionId_of_reaches once _ reaches).trans rfl
      exact after_setup

/-- Once a message has been sent, the session id stays. -/
theorem sessionId_of_run (once : protocol.ChoosesIdOnce first sessionId)
    {start middle last : SECCSession ς κ ν μ γ ρ}
    {past recent : List (Option (Received M α))}
    (resting : start.world.currentState.nextState = none) (silent : start.sent = [])
    (before : Run protocol.machine.Step start past middle) (some_sent : middle.sent ≠ [])
    (after : Run protocol.machine.Step middle recent last) :
    sessionId last.world.session = sessionId middle.world.session := by
  have begins : ∀ input next, protocol.machine.Step start input next →
      Begun protocol.guide.table first next :=
    fun input next step => begun_of_step once step resting
  apply Run.constant_of_left begins _ _ before _ after
  · intro session input next begun step
    exact begun_of_step once step (begun.2 step.1)
  · intro session input next begun step
    exact sessionId_of_step once step begun.1
  · rintro rfl
    exact some_sent silent

end SeccProtocol

end

/-! ## ISO 15118-2 -/

namespace V2

open Iso15118.Shared.V2

def sessionIdOf : V2GMessage → String
  | .request message => message.header.sessionId
  | .response message => message.header.sessionId
  | .empty header => header.sessionId

def Session.forgetStopReason (session : Session) : Session :=
  { session with stopReason := none }

theorem stopStateMachine_isolated (message : V2GMessage) (responseCode : ResponseCode) :
    Keeps (Isolated Session.forgetStopReason) (stopStateMachine message responseCode) := by
  apply keeps_stopStateMachine
  · exact keeps_modify fun _ => ⟨rfl, rfl, rfl, rfl, rfl⟩
  · intros
    apply keeps_bind
    · exact keeps_modify fun _ => ⟨rfl, rfl, rfl, rfl, rfl⟩
    · exact fun _ => isolated_createMessage

/-- A message that the current state does not answer. -/
theorem isolated_of_refused {environment : Environment} {answers : Answers}
    {message : V2GMessage} {world next : World}
    (refused : ∀ req, message = .request req →
      world.currentState.own.accepts req.request.requestType = true →
      ¬ Known req world.session)
    (reaches : Reaches (processMessage environment answers message) world next) :
    Isolated Session.forgetStopReason world next := by
  by_cases isRequest : ∃ req, message = .request req
  · obtain ⟨req, rfl⟩ := isRequest
    unfold Reaches at reaches
    rw [processMessage_request, route_eq] at reaches
    split at reaches
    next accepted =>
      rw [if_neg (refused req rfl accepted)] at reaches
      exact (stopStateMachine_isolated _ _).of_reaches reaches
    next => exact (stopStateMachine_isolated _ _).of_reaches reaches
  · have other : ∀ req, message ≠ .request req := fun req same => isRequest ⟨req, same⟩
    unfold Reaches at reaches
    rw [processMessage_not_request environment answers message world other] at reaches
    rcases reaches with ⟨_, returned⟩ | ⟨_, raised⟩
    · cases returned
    · cases raised
      exact ⟨rfl, rfl, rfl, rfl, rfl⟩

theorem isolated_of_sessionId {environment : Environment} {answers : Answers}
    {message : V2GMessage} {world next : World}
    (other : sessionIdOf message ≠ world.session.sessionId)
    (not_setup : ∀ req, message = .request req → req.request.requestType ≠ .sessionSetupReq)
    (reaches : Reaches (processMessage environment answers message) world next) :
    Isolated Session.forgetStopReason world next := by
  apply isolated_of_refused _ reaches
  rintro req rfl _ (setup | same)
  · exact not_setup req rfl setup
  · exact other same

/-- The answer to a `SessionSetupReq` leaves `SessionSetup`. -/
theorem SessionSetup.onSessionSetupReq_leaves {answers : Answers} {header : MessageHeader}
    {req : SessionSetupReq} {world next : World}
    (answered : onSessionSetupReq answers header req world = .ok ⟨⟩ next) :
    next.currentState.nextState = some (.state .serviceDiscovery) := by
  have leaves : wp (onSessionSetupReq answers header req)
      (fun _ next => next.currentState.nextState = some (.state .serviceDiscovery))
      (fun _ _ => True) world := by
    unfold onSessionSetupReq
    simp [StateObject.createNextMessage]
  have holds := post_of_eq_ok leaves answered
  exact holds

theorem choosesIdOnce (environment : Environment) :
    (protocol environment).ChoosesIdOnce .sessionSetup Session.sessionId where
  leaves := by
    rintro answers ⟨header, req⟩ own world reached setup answered
    cases req with
    | sessionSetupReq req =>
        rw [SessionSetup.onSessionSetupReq_leaves answered]
        exact Option.some_ne_none _
    | _ => cases setup
  not_entered type := by cases type <;> rfl
  kept := by
    intro own type accepted after_setup before after kept
    apply sessionId_of_kept _ kept
    rintro rfl
    have listed := mem_expectedMsgTypes accepted
    change own.name ≠ .sessionSetup at after_setup
    revert after_setup listed
    cases own.name <;> simp [StateName.expectedMsgTypes]
  refused := by
    intro answers message world next refused reaches
    have isolated := isolated_of_refused
      (fun req same accepted known => refused req same ⟨accepted, known⟩) reaches
    have sessionId := congrArg Session.sessionId isolated.session
    exact sessionId

end V2

/-! ## ISO 15118-20 -/

namespace V20

open Iso15118.Shared.V20

variable {σ : Type} [DiagnosticService σ]

def sessionIdOf : V2GMessage → String
  | .request message => message.header.sessionId
  | .response message => message.header.sessionId

def Session.forgetStopReason (session : Session) : Session :=
  { session with stopReason := none }

/-- A message that the current state does not answer. -/
theorem isolated_of_refused {environment : Environment} {answers : Answers}
    {message : V2GMessage} {world next : World σ}
    (refused : ∀ req, message = .request req →
      world.currentState.own.accepts req.request.requestType = true →
      ¬ Known req world.session)
    (reaches : Reaches (processMessage environment answers message) world next) :
    Isolated Session.forgetStopReason world next := by
  unfold Reaches at reaches
  by_cases installing : world.currentState.own = .certificateInstallation
  · rw [processMessage_certificateInstallation environment answers message world installing]
      at reaches
    rcases reaches with ⟨_, returned⟩ | ⟨_, raised⟩
    · cases returned
    · cases raised
      exact ⟨rfl, rfl, rfl, rfl, rfl⟩
  · cases message with
    | response message =>
        rw [processMessage_response environment answers message world installing] at reaches
        rcases reaches with ⟨_, returned⟩ | ⟨_, raised⟩
        · cases returned
        · cases raised
          exact ⟨rfl, rfl, rfl, rfl, rfl⟩
    | request req =>
        have stopped : ∃ responseCode,
            Reaches (stopStateMachine (.request req) responseCode) world next := by
          rw [processMessage_request environment answers req world installing, route_eq] at reaches
          split at reaches
          next accepted =>
            rw [if_neg (refused req rfl accepted)] at reaches
            exact ⟨_, reaches⟩
          next => exact ⟨_, reaches⟩
        obtain ⟨responseCode, reaches⟩ := stopped
        have isolated : Keeps (Isolated Session.forgetStopReason)
            (stopStateMachine (.request req) responseCode : Program σ PUnit) := by
          apply keeps_stopStateMachine
          · exact keeps_modify fun _ => ⟨rfl, rfl, rfl, rfl, rfl⟩
          · exact fun _ _ => isolated_createMessage
        exact isolated.of_reaches reaches

theorem isolated_of_sessionId {environment : Environment} {answers : Answers}
    {message : V2GMessage} {world next : World σ}
    (other : sessionIdOf message ≠ world.session.sessionId)
    (not_setup : ∀ req, message = .request req → req.request.requestType ≠ .sessionSetupReq)
    (reaches : Reaches (processMessage environment answers message) world next) :
    Isolated Session.forgetStopReason world next := by
  apply isolated_of_refused _ reaches
  rintro req rfl _ (setup | same)
  · exact not_setup req rfl setup
  · exact other same

omit [DiagnosticService σ] in
/-- The answer to a `SessionSetupReq` leaves `SessionSetup`. -/
theorem SessionSetup.onSessionSetupReq_leaves {answers : Answers} {header : MessageHeader}
    {req : SessionSetupReq} {world next : World σ}
    (answered : onSessionSetupReq answers header req world = .ok ⟨⟩ next) :
    next.currentState.nextState = some (.state .authorizationSetup) := by
  have leaves : wp (onSessionSetupReq answers header req)
      (fun _ next => next.currentState.nextState = some (.state .authorizationSetup))
      (fun _ _ => True) world := by
    unfold onSessionSetupReq
    simp [StateObject.createNextMessage]
  have holds := post_of_eq_ok leaves answered
  exact holds

theorem choosesIdOnce (environment : Environment) :
    (protocol environment : SeccProtocol _ _ _ _ _ (ServiceRegistry σ) _ _ _ _).ChoosesIdOnce
      .sessionSetup Session.sessionId where
  leaves := by
    rintro answers ⟨header, req⟩ own world reached setup answered
    cases req with
    | sessionSetupReq req =>
        rw [SessionSetup.onSessionSetupReq_leaves answered]
        exact Option.some_ne_none _
    | _ => cases setup
  not_entered type := by cases type <;> rfl
  kept := by
    intro own type accepted after_setup before after kept
    apply sessionId_of_kept kept
    rintro rfl
    have listed := mem_expectedMsgTypes accepted
    change own.name ≠ .sessionSetup at after_setup
    revert after_setup listed
    cases own.name <;> simp [StateName.expectedMsgTypes]
  refused := by
    intro answers message world next refused reaches
    have isolated := isolated_of_refused
      (fun req same accepted known => refused req same ⟨accepted, known⟩) reaches
    have sessionId := congrArg Session.sessionId isolated.session
    exact sessionId

end V20

/-- In both protocols a message with another session id is isolated, whether it is
processed or raises, and the session id stays once a `SessionSetupRes` has been sent. -/
theorem other_session_isolated (σ : Type) [DiagnosticService σ] :
    (∀ environment answers message (world next : V2.World),
      V2.sessionIdOf message ≠ world.session.sessionId →
      (∀ req, message = .request req → req.request.requestType ≠ .sessionSetupReq) →
      Reaches (V2.processMessage environment answers message) world next →
        Isolated V2.Session.forgetStopReason world next) ∧
    (∀ environment answers message (world next : V20.World σ),
      V20.sessionIdOf message ≠ world.session.sessionId →
      (∀ req, message = .request req → req.request.requestType ≠ .sessionSetupReq) →
      Reaches (V20.processMessage environment answers message) world next →
        Isolated V20.Session.forgetStopReason world next) ∧
    (∀ environment start past (middle : V2.SECCSession) recent last, V2.New start →
      Run (V2.machine environment).Step start past middle →
      (∃ res ∈ middle.sent, ∃ evseId, res.response = .sessionSetupRes evseId) →
      Run (V2.machine environment).Step middle recent last →
        last.world.session.sessionId = middle.world.session.sessionId) ∧
    ∀ environment start past (middle : V20.SECCSession σ) recent last, V20.New start →
      Run (V20.machine environment).Step start past middle →
      (∃ res ∈ middle.sent, ∃ evseId, res.response = .sessionSetupRes evseId) →
      Run (V20.machine environment).Step middle recent last →
        last.world.session.sessionId = middle.world.session.sessionId := by
  refine ⟨?_, ?_, ?_, ?_⟩
  · intro environment answers message world next other not_setup reaches
    exact V2.isolated_of_sessionId other not_setup reaches
  · intro environment answers message world next other not_setup reaches
    exact V20.isolated_of_sessionId other not_setup reaches
  · rintro environment start past middle recent last new before ⟨res, sent, _⟩ after
    exact SeccProtocol.sessionId_of_run (V2.choosesIdOnce environment) (by rw [new.1]) new.2.2.1
      before (List.ne_nil_of_mem sent) after
  · rintro environment start past middle recent last new before ⟨res, sent, _⟩ after
    exact SeccProtocol.sessionId_of_run (V20.choosesIdOnce environment) (by rw [new.1]) new.2.1
      before (List.ne_nil_of_mem sent) after

/-- An `AuthorizationReq` of another session that the current state expects. -/
theorem other_session_isolated_authorizationReq :
    ∃ next, V2.processMessage V2.Sample.environment V2.Sample.answers
        (.request ⟨{ sessionId := "11" }, .authorizationReq ⟨none, none⟩⟩)
        ((V2.machine V2.Sample.environment).rcvAll V2.Sample.start
          (V2.Sample.selectionHistory .eim)).world = .ok ⟨⟩ next ∧
      Isolated V2.Session.forgetStopReason
        ((V2.machine V2.Sample.environment).rcvAll V2.Sample.start
          (V2.Sample.selectionHistory .eim)).world next := by
  refine ⟨_, rfl, ?_⟩
  apply (other_session_isolated BatteryHealthService).1 V2.Sample.environment V2.Sample.answers
    (.request ⟨{ sessionId := "11" }, .authorizationReq ⟨none, none⟩⟩)
  · decide
  · rintro _ ⟨⟩
    decide
  · exact .inl ⟨_, rfl⟩

end Iso15118.Secc
