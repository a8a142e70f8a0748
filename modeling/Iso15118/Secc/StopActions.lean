import Iso15118.Secc.SessionEnd
import Iso15118.Secc.SessionRegistry
import Iso15118.Secc.SessionResumption

/-!
# The action of a stop

Whether a session is terminated or paused is told to the data link by the next state of the
current object, and to the session handler by the stop reason, which is set from the request.
The handler keeps the entry of a session that pauses.
-/

namespace Iso15118.Secc

open Effect Transition
open Iso15118.Shared

/-! ## Three actions -/

section

variable {ι κ ν μ ω : Type}

/-- What `stop` tells the data link. -/
def terminateOrPause : Option (NextState ν) → SessionStopAction
  | some .pause => .pause
  | _ => .terminate

/-- The action given to `update_data_link` after the message. -/
def dataLinkAction (machine : SessionStateMachine ι κ ν μ ω) (session : CommSession μ ω)
    (received : ι) : SessionStopAction :=
  terminateOrPause (machine.currentState (machine.rcv session (some received)).world).nextState

end

/-- The handler keeps the entry of the peer exactly if the action is a pause. -/
def PreservesPaused (stopAction : SessionStopAction) : Prop :=
  ∀ (handler : Registry.CommunicationSessionHandler) (evseIds : Registry.EvseIds)
    (session registered : Nat) (peer : Registry.Peername),
    handler.commSessions (.host peer.host) = some registered →
      ∃ after, Registry.onNotification evseIds (.stopNotification session peer stopAction)
          handler = .ok ⟨⟩ after ∧
        (after.commSessions (.host peer.host) = some registered ↔ stopAction = .pause)

theorem preservesPaused (stopAction : SessionStopAction) : PreservesPaused stopAction := by
  intro handler evseIds session registered peer there
  refine ⟨_, Registry.onStopNotification_eq evseIds session peer stopAction handler, ?_⟩
  rw [there]
  cases stopAction with
  | terminate => simp [Registry.CommunicationSessionHandler.ended]
  | pause => simp [Registry.CommunicationSessionHandler.ended, there]

/-- One notification has been put, and its action is the one that the EV has asked for and the
data link was told. -/
def Agree {σ : Type} (requested : Option SessionStopAction) (dataLink : SessionStopAction)
    (before after : Connection σ) : Prop :=
  ∃ notification, after.sessionHandlerQueue = before.sessionHandlerQueue ++ [notification] ∧
    requested = some notification.stopAction ∧ dataLink = notification.stopAction ∧
    PreservesPaused notification.stopAction

section

variable {σ : Type} {connection : Connection σ} {requested : Option SessionStopAction}
  {dataLink : SessionStopAction}

theorem not_agree_of_queue {after : Connection σ}
    (same : after.sessionHandlerQueue = connection.sessionHandlerQueue) :
    ¬Agree requested dataLink connection after := by
  rintro ⟨notification, notified, _⟩
  rw [same] at notified
  exact absurd notified.symm (by simp)

theorem agree_notified_iff {notification : StopNotification} :
    Agree requested dataLink connection (connection.stopped.notified notification) ↔
      requested = some notification.stopAction ∧ dataLink = notification.stopAction := by
  constructor
  · rintro ⟨other, notified, same, told, _⟩
    cases List.singleton_inj.mp (List.append_cancel_left notified)
    exact ⟨same, told⟩
  · rintro ⟨same, told⟩
    exact ⟨notification, rfl, same, told, preservesPaused _⟩

/-- When the actions agree. `pauses` says whether the protocol goes to `Pause`, and `answered`
whether the response was sent and the state announced. A failure that is reported afterwards
terminates. -/
def InStep (pauses answered : Prop) (active : Option Int) (outcomes retried : StopOutcomes) :
    SessionStopAction → Prop
  | .terminate =>
      answered ∧ Finalises active outcomes retried (.stopped (some { successful := true })) ∨
        ¬answered ∧ GoesThrough active outcomes
  | .pause => pauses ∧ answered ∧ GoesThrough active outcomes

variable {pauses answered : Prop} {outcomes retried : StopOutcomes}
  {action : SessionStopAction}

/-- A session that has been stopped for the reason that the request gives. -/
theorem agree_stopped_iff (answers : answered)
    (told : dataLink = .pause ↔ pauses ∧ action = .pause) :
    EndsWith (endSession outcomes retried
        (.stopped (some { successful := true, stopAction := action })))
        (Agree (some action) dataLink connection) connection ↔
      InStep pauses answered connection.registry.active outcomes retried action := by
  refine (endsWith_stopped_iff fun _ => not_agree_of_queue).trans ?_
  rw [agree_notified_iff, agree_notified_iff]
  cases action with
  | terminate =>
      have terminates : dataLink = .terminate := by
        cases dataLink with
        | terminate => rfl
        | pause => cases (told.mp rfl).2
      simp only [terminates, and_true]
      constructor
      · rintro (through | ⟨_, finalises⟩)
        · exact .inl ⟨answers, .inl through⟩
        · exact .inl ⟨answers, finalises⟩
      · rintro (⟨_, finalises⟩ | ⟨fails, _⟩)
        · by_cases through : GoesThrough connection.registry.active outcomes
          · exact .inl through
          · exact .inr ⟨through, finalises⟩
        · exact absurd answers fails
  | pause =>
      constructor
      · rintro (⟨through, _, pausing⟩ | ⟨_, _, same, _⟩)
        · exact ⟨(told.mp pausing).1, answers, through⟩
        · cases same
      · rintro ⟨pausing, _, through⟩
        exact .inl ⟨through, rfl, told.mpr ⟨pausing, rfl⟩⟩

/-- A session in which an exception was raised. -/
theorem agree_raised_iff (fails : ¬answered) (told : action = .terminate → dataLink = .terminate) :
    EndsWith (endSession outcomes retried .raised) (Agree (some action) dataLink connection)
        connection ↔
      InStep pauses answered connection.registry.active outcomes retried action := by
  refine (endsWith_stop_iff fun _ => not_agree_of_queue).trans ?_
  rw [agree_notified_iff]
  cases action with
  | terminate =>
      constructor
      · rintro ⟨through, _⟩
        exact .inr ⟨fails, through⟩
      · rintro (⟨answers, _⟩ | ⟨_, through⟩)
        · exact absurd answers fails
        · exact ⟨through, rfl, told rfl⟩
  | pause =>
      constructor
      · rintro ⟨_, same, _⟩
        cases same
      · rintro ⟨_, answers, _⟩
        exact absurd answers fails

end

/-! ## A protocol -/

section

variable {ς κ ν μ γ ρ : Type}

/-- A request to stop is answered with the reason for the action, and the current object leads
to the end. Where the response is not valid an exception is raised. -/
def StopsWith (stopReason : ς → Option StopNotification) (valid : Prop) (leads : NextState ν)
    (action : SessionStopAction) (program : EStateM PyError (World ς κ ν μ γ ρ) PUnit)
    (world : World ς κ ν μ γ ρ) : Prop :=
  wp program
    (fun _ next => valid ∧ next.currentState.nextV2gtpMsg.isSome = true ∧
      next.currentState.nextState = some leads ∧
      stopReason next.session = some { successful := true, stopAction := action })
    (fun _ next => ¬valid ∧
      (action = .terminate → terminateOrPause next.currentState.nextState = .terminate))
    world

variable {τ q M α : Type} [DecidableEq ν] [DecidableEq τ]
  {protocol : SeccProtocol ς κ ν μ γ ρ τ q M α} {session : SECCSession ς κ ν μ γ ρ}
  {req : q} {answers : α} {reached : World ς κ ν μ γ ρ}
  {stopReason : ς → Option StopNotification}

theorem SeccProtocol.processMessage_of_processes
    (processes : protocol.Processes session (some ⟨protocol.request req, answers⟩) req) :
    protocol.machine.processMessage ⟨protocol.request req, answers⟩ session.world =
      protocol.answer answers req (protocol.answering session.world req).own
        (protocol.entered session.world req) := by
  obtain ⟨_, accepted, known⟩ := processes
  have answered : protocol.processMessage answers (protocol.request req)
      { session.world with calls := [] } = _ :=
    processMessage_of_accepts accepted known
  exact answered

variable (stopReason) in
/-- How the session ends where its last request has been answered. -/
theorem SeccProtocol.ending_of_answer {message : μ}
    (processed : protocol.machine.processMessage ⟨protocol.request req, answers⟩
      session.world = .ok ⟨⟩ reached)
    (prepared : reached.currentState.nextV2gtpMsg = some message)
    (leads : reached.currentState.nextState = some .terminate ∨
      reached.currentState.nextState = some .pause) :
    dataLinkAction protocol.machine session ⟨protocol.request req, answers⟩ =
        terminateOrPause reached.currentState.nextState ∧
      (protocol.announce answers = .ok ⟨⟩ ∧
          ending protocol.machine (fun world => stopReason world.session) session.world
            (.message ⟨protocol.request req, answers⟩) =
              some (.stopped (stopReason reached.session)) ∨
        protocol.announce answers ≠ .ok ⟨⟩ ∧
          ending protocol.machine (fun world => stopReason world.session) session.world
            (.message ⟨protocol.request req, answers⟩) = some .raised) := by
  unfold dataLinkAction ending SessionStateMachine.rcv
  have prepared' : (protocol.machine.currentState reached).nextV2gtpMsg = some message := prepared
  simp only [processed, prepared']
  cases announced : protocol.announce answers with
  | ok result =>
      have updated : protocol.machine.updateStateInfo ⟨protocol.request req, answers⟩ reached =
          .ok ⟨⟩ { reached with calls := protocol.setPresentProtocolState :: reached.calls } :=
        ask_eq_ok_iff.mpr ⟨announced, rfl⟩
      simp only [updated]
      unfold SessionStateMachine.goToNextState
      rcases leads with leads | leads
      · have leads' : (protocol.machine.currentState { reached with
            calls := protocol.setPresentProtocolState :: reached.calls }).nextState =
              some .terminate := leads
        simp [leads', leads]
      · have leads' : (protocol.machine.currentState { reached with
            calls := protocol.setPresentProtocolState :: reached.calls }).nextState =
              some .pause := leads
        simp [leads', leads]
  | error exception =>
      have updated : protocol.machine.updateStateInfo ⟨protocol.request req, answers⟩ reached =
          .error exception
            { reached with calls := protocol.setPresentProtocolState :: reached.calls } := by
        change ask protocol.setPresentProtocolState (protocol.announce answers) reached = _
        rw [announced]
        rfl
      simp only [updated]
      refine ⟨rfl, .inr ⟨?_, trivial⟩⟩
      rintro ⟨⟩

variable (stopReason) in
theorem SeccProtocol.ending_of_error {exception : PyError}
    (raised : protocol.machine.processMessage ⟨protocol.request req, answers⟩
      session.world = .error exception reached) :
    dataLinkAction protocol.machine session ⟨protocol.request req, answers⟩ =
        terminateOrPause reached.currentState.nextState ∧
      ending protocol.machine (fun world => stopReason world.session) session.world
        (.message ⟨protocol.request req, answers⟩) = some .raised := by
  unfold dataLinkAction ending SessionStateMachine.rcv
  simp only [raised]
  exact ⟨rfl, trivial⟩

/-- A session that goes on has not named a next state yet. -/
theorem SeccProtocol.resting_of_run {start : SECCSession ς κ ν μ γ ρ}
    {history : List (Option (Received M α))}
    (run : Run protocol.machine.Step start history session)
    (resting : start.world.currentState.nextState = none) (goesOn : session.ended = false) :
    session.world.currentState.nextState = none := by
  cases run with
  | start => exact resting
  | step past last =>
      obtain ⟨_, _, _, _, _, answered⟩ := step_answered last goesOn
      exact answered.resting

/-- An object that has not named a next state has not done so when it answers a request. -/
theorem SeccProtocol.resting_entered (resting : session.world.currentState.nextState = none)
    (req : q) : (protocol.entered session.world req).currentState.nextState = none := by
  unfold SeccProtocol.entered SeccProtocol.answering StateTable.answering
  dsimp only
  split
  · exact resting
  · rfl

/-- The actions agree as far as the class that the current object leads to, and what is raised
on the way, allow. -/
theorem SeccProtocol.agree_iff {σ : Type} {connection : Connection σ} {pauses valid : Prop}
    {outcomes retried : StopOutcomes} {action : SessionStopAction} {leads : NextState ν}
    {last : Ending}
    (processes : protocol.Processes session (some ⟨protocol.request req, answers⟩) req)
    (stops : StopsWith stopReason valid leads action
      (protocol.answer answers req (protocol.answering session.world req).own)
      (protocol.entered session.world req))
    (ends : leads = .terminate ∨ leads = .pause)
    (told : terminateOrPause (some leads) = .pause ↔ pauses ∧ action = .pause)
    (ended : ending protocol.machine (fun world => stopReason world.session) session.world
      (.message ⟨protocol.request req, answers⟩) = some last) :
    EndsWith (endSession outcomes retried last)
        (Agree (some action)
          (dataLinkAction protocol.machine session ⟨protocol.request req, answers⟩) connection)
        connection ↔
      InStep pauses (valid ∧ protocol.announce answers = .ok ⟨⟩) connection.registry.active
        outcomes retried action := by
  have processed := processMessage_of_processes processes
  cases answered : protocol.answer answers req (protocol.answering session.world req).own
      (protocol.entered session.world req) with
  | ok result reached =>
      rw [answered] at processed
      obtain ⟨valid, made, goes, reason⟩ := post_of_eq_ok stops answered
      obtain ⟨message, prepared⟩ := Option.isSome_iff_exists.mp made
      have goesToEnd : reached.currentState.nextState = some .terminate ∨
          reached.currentState.nextState = some .pause := by
        rw [goes]
        exact ends.imp (congrArg some) (congrArg some)
      obtain ⟨action_eq, ⟨announced, stopped⟩ | ⟨failed, raised⟩⟩ :=
        ending_of_answer stopReason processed prepared goesToEnd
      · cases ended.symm.trans stopped
        rw [action_eq, goes, reason]
        exact agree_stopped_iff ⟨valid, announced⟩ told
      · cases ended.symm.trans raised
        rw [action_eq, goes]
        apply agree_raised_iff fun both => failed both.2
        rintro rfl
        rcases ends with rfl | rfl
        · rfl
        · cases (told.mp rfl).2
  | error exception reached =>
      rw [answered] at processed
      unfold StopsWith wp at stops
      rw [answered] at stops
      obtain ⟨invalid, terminates⟩ := stops
      obtain ⟨action_eq, raised⟩ := ending_of_error stopReason processed
      cases ended.symm.trans raised
      rw [action_eq]
      exact agree_raised_iff (fun both => invalid both.1) terminates

end

/-! ## The protocols -/

theorem wp_response_iff {sessionId : String} {onOk : Prop} {onError : PyError → Prop} :
    ((checkSessionId sessionId = .ok () → onOk) ∧
        ∀ exception, checkSessionId sessionId = .error exception → onError exception) ↔
      (ValidSessionId sessionId → onOk) ∧
        (¬ValidSessionId sessionId → onError .validationError) := by
  rw [checkSessionId_eq]
  by_cases valid : ValidSessionId sessionId
  · simp [valid]
  · simp [valid]

namespace Din

theorem stopsWith {world : World} :
    StopsWith (·.stopReason) (ValidSessionId world.session.sessionId) .terminate .terminate
      SessionStop.onSessionStopReq world := by
  unfold StopsWith SessionStop.onSessionStopReq
  rw [wp_bind, wp_updateSession, wp_createNextMessage, wp_response_iff]
  exact ⟨fun valid => ⟨valid, rfl, rfl, rfl⟩, fun invalid => ⟨invalid, fun _ => rfl⟩⟩

end Din

namespace V2

/-- The action that a request asks for. -/
def requestedAction : Shared.V2.ChargingSession → SessionStopAction
  | .terminate => .terminate
  | .pause => .pause

/-- Where the request leads to. -/
def stopsIn : Shared.V2.ChargingSession → NextState StateName
  | .terminate => .terminate
  | .pause => .pause

theorem stopsWith {req : Shared.V2.SessionStopReq} {world : World} :
    StopsWith (·.stopReason) (ValidSessionId world.session.sessionId)
      (stopsIn req.chargingSession) (requestedAction req.chargingSession)
      (SessionStop.onSessionStopReq req) world := by
  rcases req with ⟨_ | _⟩
  · unfold StopsWith SessionStop.onSessionStopReq
    rw [if_neg (by decide), wp_bind, wp_updateSession, wp_createNextMessage, wp_response_iff]
    exact ⟨fun valid => ⟨valid, rfl, rfl, rfl⟩, fun invalid => ⟨invalid, fun _ => rfl⟩⟩
  · unfold StopsWith SessionStop.onSessionStopReq
    rw [if_pos rfl, wp_bind, wp_updateSession, wp_createNextMessage, wp_response_iff]
    exact ⟨fun valid => ⟨valid, rfl, rfl, rfl⟩, fun invalid => ⟨invalid, nofun⟩⟩

end V2

namespace V20

/-- The action that a request asks for, unless it asks for another choice of services. -/
def requestedAction : Shared.V20.ChargingSession → Option SessionStopAction
  | .terminate => some .terminate
  | .pause => some .pause
  | .serviceRenegotiation => none

/-- The next state is the same for both actions. -/
theorem stopsWith {σ : Type} {answers : Answers} {req : Shared.V20.SessionStopReq}
    {world : World σ} {action : SessionStopAction}
    (requests : requestedAction req.chargingSession = some action)
    (resting : world.currentState.nextState = none) :
    StopsWith (·.stopReason) (ValidSessionId world.session.sessionId) .terminate action
      (SessionStop.onSessionStopReq answers req) world := by
  have goesOn : req.chargingSession ≠ .serviceRenegotiation := by
    intro renegotiates
    rw [renegotiates] at requests
    cases requests
  have same : (if !false ∧ req.chargingSession = .terminate then SessionStopAction.terminate
      else .pause) = action := by
    rcases req with ⟨_ | _ | _⟩
    · exact Option.some.inj requests
    · exact Option.some.inj requests
    · exact absurd rfl goesOn
  unfold StopsWith SessionStop.onSessionStopReq SessionStop.renegotiates
  rw [if_neg goesOn, wp_bind, wp_pure, wp_bind, wp_updateSession, wp_createNextMessage,
    wp_response_iff]
  constructor
  · intro valid
    refine ⟨valid, rfl, rfl, ?_⟩
    rw [← same]
  · intro invalid
    refine ⟨invalid, fun _ => ?_⟩
    change terminateOrPause world.currentState.nextState = _
    rw [resting]
    rfl

end V20

/-! ## The last request of a run -/

/-- A session and the request that it receives, with what the controller answers meanwhile. -/
inductive LastRequest (σ : Type) where
  | din (session : Din.SECCSession) (message : Shared.Din.RequestMessage)
      (answers : Din.Answers)
  | v2 (session : V2.SECCSession) (message : Shared.V2.RequestMessage) (answers : V2.Answers)
  | v20 (session : V20.SECCSession σ) (message : Shared.V20.RequestMessage)
      (answers : V20.Answers)

/-- The session is in a run from a new one, and its loop goes on. -/
def ReachedFrom {ι κ ν μ ω : Type} (machine : SessionStateMachine ι κ ν μ ω)
    (New : CommSession μ ω → Prop) (session : CommSession μ ω) : Prop :=
  session.ended = false ∧
    ∃ start history, New start ∧ Run machine.Step start history session

namespace LastRequest

variable {σ : Type}

/-- The action that the EV asks for. There is no choice in DIN SPEC 70121. -/
def requested : LastRequest σ → Option SessionStopAction
  | .din _ ⟨_, .sessionStopReq⟩ _ => some .terminate
  | .v2 _ ⟨_, .sessionStopReq req⟩ _ => some (V2.requestedAction req.chargingSession)
  | .v20 _ ⟨_, .sessionStopReq req⟩ _ => V20.requestedAction req.chargingSession
  | _ => none

/-- Only ISO 15118-2 goes to `Pause`. -/
def Pauses : LastRequest σ → Prop
  | .v2 _ _ _ => True
  | _ => False

/-- The response is valid, and announcing the state raises nothing. -/
def Answered : LastRequest σ → Prop
  | .din session _ answers =>
      ValidSessionId session.world.session.sessionId ∧
        answers.setPresentProtocolState = .ok ⟨⟩
  | .v2 session _ answers =>
      ValidSessionId session.world.session.sessionId ∧
        answers.setPresentProtocolState = .ok ⟨⟩
  | .v20 session _ answers =>
      ValidSessionId session.world.session.sessionId ∧
        answers.setPresentProtocolState = .ok ⟨⟩

variable [DiagnosticService σ]

/-- A run has led to the session, whose current state answers a `SessionStopReq`. -/
def IsStop (station : Station) : LastRequest σ → Prop
  | .din session message answers =>
      ReachedFrom (Din.machine station.din) Din.New session ∧
        message.request.requestType = .sessionStopReq ∧
        (Din.protocol station.din).Processes session (some ⟨.request message, answers⟩) message
  | .v2 session message answers =>
      ReachedFrom (V2.machine station.v2) V2.New session ∧
        message.request.requestType = .sessionStopReq ∧
        (V2.protocol station.v2).Processes session (some ⟨.request message, answers⟩) message
  | .v20 session message answers =>
      ReachedFrom (V20.machine station.v20) V20.New session ∧
        message.request.requestType = .sessionStopReq ∧
        (V20.protocol station.v20).Processes session (some ⟨.request message, answers⟩) message

/-- How the request ends the session, if it does. -/
def ending (station : Station) : LastRequest σ → Option Ending
  | .din session message answers =>
      Secc.ending (Din.machine station.din) (·.session.stopReason) session.world
        (.message ⟨.request message, answers⟩)
  | .v2 session message answers =>
      Secc.ending (V2.machine station.v2) (·.session.stopReason) session.world
        (.message ⟨.request message, answers⟩)
  | .v20 session message answers =>
      Secc.ending (V20.machine station.v20) (·.session.stopReason) session.world
        (.message ⟨.request message, answers⟩)

/-- What the data link is told. -/
def dataLinkAction (station : Station) : LastRequest σ → SessionStopAction
  | .din session message answers =>
      Secc.dataLinkAction (Din.machine station.din) session ⟨.request message, answers⟩
  | .v2 session message answers =>
      Secc.dataLinkAction (V2.machine station.v2) session ⟨.request message, answers⟩
  | .v20 session message answers =>
      Secc.dataLinkAction (V20.machine station.v20) session ⟨.request message, answers⟩

end LastRequest

/-- Nothing is reached where nothing holds. -/
theorem not_endsWith_of_forall {σ : Type} {program : EStateM PyError (Connection σ) PUnit}
    {post : Connection σ → Prop} {connection : Connection σ} (never : ∀ after, ¬post after) :
    ¬EndsWith program post connection := by
  intro ends
  unfold EndsWith wp at ends
  split at ends
  · exact never _ ends
  · exact never _ ends

/-- In every run that ends with a `SessionStopReq`, the actions agree exactly if the EV asks to
terminate and a notification is put, or if it asks for a pause in ISO 15118-2 and nothing is
raised. -/
theorem stopActions_agree_iff {σ : Type} [DiagnosticService σ] {station : Station}
    {last : LastRequest σ} (stop : last.IsStop station) {ending : Ending}
    (ended : last.ending station = some ending) (outcomes retried : StopOutcomes)
    (connection : Connection σ) :
    EndsWith (endSession outcomes retried ending)
        (Agree last.requested (last.dataLinkAction station) connection) connection ↔
      ∃ action, last.requested = some action ∧
        InStep last.Pauses last.Answered connection.registry.active outcomes retried action := by
  cases last with
  | din session message answers =>
      obtain ⟨reached, type, processes⟩ := stop
      rcases message with ⟨header, request⟩
      cases request <;> cases type
      have told : terminateOrPause (some (.terminate : NextState Din.StateName)) = .pause ↔
          False ∧ SessionStopAction.terminate = .pause := by
        simp [terminateOrPause]
      refine (SeccProtocol.agree_iff processes Din.stopsWith (.inl rfl) told ended).trans ?_
      exact ⟨fun inStep => ⟨_, rfl, inStep⟩, fun ⟨_, same, inStep⟩ => by cases same; exact inStep⟩
  | v2 session message answers =>
      obtain ⟨reached, type, processes⟩ := stop
      rcases message with ⟨header, request⟩
      cases request <;> cases type
      rename_i req
      have ends : V2.stopsIn req.chargingSession = .terminate ∨
          V2.stopsIn req.chargingSession = .pause := by
        cases req.chargingSession with
        | terminate => exact .inl rfl
        | pause => exact .inr rfl
      have told : terminateOrPause (some (V2.stopsIn req.chargingSession)) = .pause ↔
          True ∧ V2.requestedAction req.chargingSession = .pause := by
        cases req.chargingSession with
        | terminate => simp [V2.stopsIn, V2.requestedAction, terminateOrPause]
        | pause => simp [V2.stopsIn, V2.requestedAction, terminateOrPause]
      refine (SeccProtocol.agree_iff processes V2.stopsWith ends told ended).trans ?_
      exact ⟨fun inStep => ⟨_, rfl, inStep⟩, fun ⟨_, same, inStep⟩ => by cases same; exact inStep⟩
  | v20 session message answers =>
      obtain ⟨⟨goesOn, start, history, new, run⟩, type, processes⟩ := stop
      rcases message with ⟨header, request⟩
      cases request <;> cases type
      rename_i req
      cases requests : V20.requestedAction req.chargingSession with
      | none =>
          apply iff_of_false
          · apply not_endsWith_of_forall
            rintro after ⟨notification, _, same, _⟩
            cases requests.symm.trans same
          · rintro ⟨action, same, _⟩
            cases requests.symm.trans same
      | some action =>
          have resting : session.world.currentState.nextState = none :=
            SeccProtocol.resting_of_run run (by rw [new.1]) goesOn
          have told : terminateOrPause (some (.terminate : NextState V20.StateName)) = .pause ↔
              False ∧ action = .pause := by
            simp [terminateOrPause]
          have requested : (LastRequest.v20 session ⟨header, .sessionStopReq req⟩
              answers).requested = some action :=
            requests
          rw [requested]
          refine (SeccProtocol.agree_iff processes (V20.stopsWith requests
            (SeccProtocol.resting_entered resting _)) (.inl rfl) told ended).trans ?_
          exact ⟨fun inStep => ⟨_, rfl, inStep⟩, fun ⟨_, same, inStep⟩ => by
            cases same
            exact inStep⟩

/-! ## A pause in ISO 15118-20 -/

namespace Sample

/-- Stopping goes through. -/
def through : StopOutcomes where

def idle : Connection BatteryHealthService where
  registry := ⟨{}, [], none⟩

def pauseMessage : Shared.V2.RequestMessage :=
  ⟨{ sessionId := "10" }, .sessionStopReq ⟨.pause⟩⟩

def pauseMessageV20 : Shared.V20.RequestMessage :=
  ⟨{ sessionId := "10" }, .sessionStopReq ⟨.pause⟩⟩

def stopped : V2.SECCSession :=
  (V2.machine V2.Sample.environment).rcvAll V2.Sample.start stoppedHistory

def setUpV20 : V20.SECCSession BatteryHealthService :=
  (V20.machine V20.Sample.environment).rcvAll V20.Sample.start setUpHistory

/-- A session of ISO 15118-2 that is paused after charging. -/
def lastPause : LastRequest BatteryHealthService :=
  .v2 stopped pauseMessage V2.Sample.answers

/-- A session of ISO 15118-20 that is paused before charging. -/
def lastPauseV20 : LastRequest BatteryHealthService :=
  .v20 setUpV20 pauseMessageV20 V20.Sample.answers

theorem isStop_lastPause : lastPause.IsStop station :=
  ⟨⟨by decide +kernel, _, _, V2.Sample.new_start,
    SessionStateMachine.run_of_goesOn (by decide +kernel)⟩, rfl, ⟨_, rfl⟩, by decide +kernel,
    .inr (by decide +kernel)⟩

theorem isStop_lastPauseV20 : lastPauseV20.IsStop station :=
  ⟨⟨by decide +kernel, _, _, V20.Sample.new_start,
    SessionStateMachine.run_of_goesOn (by decide +kernel)⟩, rfl, ⟨_, rfl⟩, by decide +kernel,
    .inr (by decide +kernel)⟩

end Sample

open Iso15118.Secc.Sample in
/-- A pause in ISO 15118-2 is agreed on. -/
theorem lastPause_agreed :
    ∃ ending, lastPause.ending station = some ending ∧
      EndsWith (endSession through through ending)
        (Agree lastPause.requested (lastPause.dataLinkAction station) idle) idle := by
  obtain ⟨ending, ended⟩ : ∃ ending, lastPause.ending station = some ending :=
    Option.isSome_iff_exists.mp (by decide +kernel)
  have inStep : InStep lastPause.Pauses lastPause.Answered idle.registry.active through through
      .pause :=
    ⟨trivial, ⟨by decide +kernel, rfl⟩, fun active => absurd rfl active, nofun⟩
  exact ⟨ending, ended, (stopActions_agree_iff isStop_lastPause ended through through idle).mpr
    ⟨.pause, rfl, inStep⟩⟩

open Iso15118.Secc.Sample in
/-- In ISO 15118-20 the data link is terminated while the session is kept for a pause. -/
theorem pauseV20_not_agreed :
    lastPauseV20.IsStop station ∧ lastPauseV20.requested = some .pause ∧
      lastPauseV20.dataLinkAction station = .terminate ∧
      (V20.machine station.v20).stopNotification (·.session.stopReason) setUpV20.world
        pauseReqV20 = some { successful := true, stopAction := .pause } ∧
      ∃ ending, lastPauseV20.ending station = some ending ∧
        ¬EndsWith (endSession through through ending)
          (Agree lastPauseV20.requested (lastPauseV20.dataLinkAction station) idle) idle := by
  have terminates : lastPauseV20.dataLinkAction station = .terminate := by decide +kernel
  obtain ⟨ending, ended⟩ : ∃ ending, lastPauseV20.ending station = some ending :=
    Option.isSome_iff_exists.mp (by decide +kernel)
  refine ⟨isStop_lastPauseV20, rfl, terminates, by decide +kernel, ending, ended, ?_⟩
  apply not_endsWith_of_forall
  rintro after ⟨notification, _, pauses, told, _⟩
  rw [terminates] at told
  rw [← told] at pauses
  cases pauses

end Iso15118.Secc
