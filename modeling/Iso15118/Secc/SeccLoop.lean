import Iso15118.Secc.SeccState
import Iso15118.Shared.CommSession

/-!
# Runs of the SECC

What answering a request of each type may do is a table: the controller methods
that it calls, the states that it goes to, and the variables that it leaves as
they are. A protocol comes with such a table and with the proof that its states
keep to it. A step of the receive loop that goes on has then answered a request
that the current state accepts, and the table says where it can have led.
-/

namespace Iso15118.Secc

open Effect Transition
open Iso15118.Shared

variable {ς κ ν μ γ ρ τ : Type}

/-! ## What answering a request may change -/

/-- The table. `kept` and `keptEvData` erase what answering a request of a type may
change. -/
structure Guide (ς κ ν μ γ τ : Type) where
  table : StateTable κ ν τ
  mayCall : τ → γ → Bool
  mayGoTo : τ → ν → Bool
  mayRespond : τ → μ → Prop
  mayRefuse : τ → μ → Prop
  kept : τ → ς → ς
  keptEvData : τ → EVDataContext → EVDataContext

/-- Answering a request of a type keeps to the table. -/
structure Effects (guide : Guide ς κ ν μ γ τ) (type : τ) (before after : World ς κ ν μ γ ρ) :
    Prop where
  name : guide.table.name before.currentState.own = guide.table.answeredBy type →
    guide.table.name after.currentState.own = guide.table.answeredBy type
  successor : ∀ name, after.currentState.nextState = some (.state name) →
    before.currentState.nextState = some (.state name) ∨ guide.mayGoTo type name = true
  message : ∀ prepared, after.currentState.nextV2gtpMsg = some prepared →
    before.currentState.nextV2gtpMsg = some prepared ∨ guide.mayRespond type prepared
  calls : ∀ call ∈ after.calls, call ∈ before.calls ∨ guide.mayCall type call = true
  session : guide.kept type after.session = guide.kept type before.session
  evData : guide.keptEvData type after.evDataContext = guide.keptEvData type before.evDataContext

section

variable {guide : Guide ς κ ν μ γ τ} {type : τ}

instance : IsPreorder (World ς κ ν μ γ ρ) (Effects guide type) where
  refl _ :=
    { name := id
      successor := fun _ goes => .inl goes
      message := fun _ made => .inl made
      calls := fun _ made => .inl made
      session := rfl
      evData := rfl }
  trans _ _ _ first second :=
    { name := fun named => second.name (first.name named)
      successor := by
        intro name goes
        rcases second.successor name goes with earlier | allowed
        · exact first.successor name earlier
        · exact .inr allowed
      message := by
        intro prepared made
        rcases second.message prepared made with earlier | allowed
        · exact first.message prepared earlier
        · exact .inr allowed
      calls := by
        intro call made
        rcases second.calls call made with earlier | allowed
        · exact first.calls call earlier
        · exact .inr allowed
      session := second.session.trans first.session
      evData := second.evData.trans first.evData }

/-- A change of something else. -/
theorem effects_of_eq {before after : World ς κ ν μ γ ρ}
    (currentState : after.currentState = before.currentState)
    (session : after.session = before.session)
    (evData : after.evDataContext = before.evDataContext) (calls : after.calls = before.calls) :
    Effects guide type before after where
  name := by
    intro named
    rw [currentState]
    exact named
  successor := by
    intro name goes
    rw [currentState] at goes
    exact .inl goes
  message := by
    intro prepared made
    rw [currentState] at made
    exact .inl made
  calls := by
    intro call made
    rw [calls] at made
    exact .inl made
  session := by rw [session]
  evData := by rw [evData]

theorem effects_ask {α : Type} {call : γ} {answer : Except PyError α}
    (allowed : guide.mayCall type call = true) :
    Keeps (Effects guide type)
      (ask call answer : EStateM PyError (World ς κ ν μ γ ρ) α) := by
  apply keeps_bind
  · apply keeps_modify
    intro world
    constructor
    case name => exact id
    case successor => exact fun _ goes => .inl goes
    case message => exact fun _ made => .inl made
    case calls =>
      intro made member
      rcases List.mem_cons.mp member with rfl | earlier
      · exact .inr allowed
      · exact .inl earlier
    case session => rfl
    case evData => rfl
  · intro _
    exact keeps_ofExcept answer

theorem effects_updateSession {change : ς → ς}
    (kept : ∀ session, guide.kept type (change session) = guide.kept type session) :
    Keeps (Effects guide type)
      (updateSession change : EStateM PyError (World ς κ ν μ γ ρ) PUnit) :=
  keeps_modify fun world =>
    { name := id
      successor := fun _ goes => .inl goes
      message := fun _ made => .inl made
      calls := fun _ made => .inl made
      session := kept world.session
      evData := rfl }

/-- A change of the current object to one of the class that answers. -/
theorem effects_changeOwn {change : κ → κ}
    (named : ∀ own, guide.table.name own = guide.table.answeredBy type →
      guide.table.name (change own) = guide.table.answeredBy type) :
    Keeps (Effects guide type)
      (modify fun world =>
        { world with
          currentState := { world.currentState with own := change world.currentState.own } } :
        EStateM PyError (World ς κ ν μ γ ρ) PUnit) :=
  keeps_modify fun world =>
    { name := named world.currentState.own
      successor := fun _ goes => .inl goes
      message := fun _ made => .inl made
      calls := fun _ made => .inl made
      session := rfl
      evData := rfl }

theorem effects_setOwn {own : κ} (named : guide.table.name own = guide.table.answeredBy type) :
    Keeps (Effects guide type)
      (setOwn own : EStateM PyError (World ς κ ν μ γ ρ) PUnit) :=
  keeps_modify fun _ =>
    { name := fun _ => named
      successor := fun _ goes => .inl goes
      message := fun _ made => .inl made
      calls := fun _ made => .inl made
      session := rfl
      evData := rfl }

/-- A message is prepared, whatever its content. -/
theorem effects_prepare {nextState : Option (NextState ν)}
    {message : World ς κ ν μ γ ρ → StateObject κ ν μ}
    (own : ∀ world, (message world).own = world.currentState.own)
    (next : ∀ world, (message world).nextState = nextState)
    (responds : ∀ world prepared, (message world).nextV2gtpMsg = some prepared →
      world.currentState.nextV2gtpMsg = some prepared ∨ guide.mayRespond type prepared)
    (allowed : ∀ name, nextState = some (.state name) → guide.mayGoTo type name = true) :
    Keeps (Effects guide type)
      (modify fun world => { world with currentState := message world } :
        EStateM PyError (World ς κ ν μ γ ρ) PUnit) :=
  keeps_modify fun world =>
    { name := by
        intro named
        rw [own world]
        exact named
      successor := by
        intro name goes
        rw [next world] at goes
        exact .inr (allowed name goes)
      message := responds world
      calls := fun _ made => .inl made
      session := rfl
      evData := rfl }

/-- A message is created, or refused for the session id. -/
theorem effects_createMessage {nextState : Option (NextState ν)} {sessionId : ς → String}
    {message : ς → μ} {timeout : ℚ}
    (responds : ∀ session, guide.mayRespond type (message session))
    (allowed : ∀ name, nextState = some (.state name) → guide.mayGoTo type name = true) :
    Keeps (Effects guide type)
      (createMessage nextState sessionId message timeout :
        EStateM PyError (World ς κ ν μ γ ρ) PUnit) := by
  apply keeps_createMessage
  intro world
  exact
    { name := id
      successor := fun name goes => .inr (allowed name goes)
      message := by
        intro prepared made
        rw [StateObject.createNextMessage_nextV2gtpMsg, Option.some.injEq] at made
        rw [← made]
        exact .inr (responds world.session)
      calls := fun _ made => .inl made
      session := rfl
      evData := rfl }

theorem effects_onEvData {change : EVDataContext → EVDataContext}
    (kept : ∀ context, guide.keptEvData type (change context) = guide.keptEvData type context) :
    Keeps (Effects guide type)
      (onEvData (modify change) : EStateM PyError (World ς κ ν μ γ ρ) PUnit) := by
  constructor
  intro world
  rw [wp_onEvData, wp_modify]
  exact
    { name := id
      successor := fun _ goes => .inl goes
      message := fun _ made => .inl made
      calls := fun _ made => .inl made
      session := rfl
      evData := kept world.evDataContext }

theorem effects_onEvseData {program : EStateM PyError EVSEDataContext PUnit} :
    Keeps (Effects guide type)
      (onEvseData program : EStateM PyError (World ς κ ν μ γ ρ) PUnit) :=
  keeps_zoom fun _ _ => effects_of_eq rfl rfl rfl rfl

end

/-! ## A protocol -/

/-- The states of a protocol: the requests of type `q`, which are among the messages
of type `M`, and what the controller answers, of type `α`, while one of them is
processed. A message is a request that the current state answers, or it stops the
state machine, or an exception is raised. -/
structure SeccProtocol (ς κ ν μ γ ρ τ q M α : Type) [DecidableEq ν] [DecidableEq τ] where
  guide : Guide ς κ ν μ γ τ
  requestType : q → τ
  request : q → M
  Known : q → ς → Prop
  answer : α → q → κ → EStateM PyError (World ς κ ν μ γ ρ) PUnit
  processMessage : α → M → EStateM PyError (World ς κ ν μ γ ρ) PUnit
  setPresentProtocolState : γ
  announce : α → Except PyError PUnit
  name_new : ∀ name, guide.table.name (guide.table.new name) = name
  request_injective : ∀ first second, request first = request second → first = second
  processMessage_cases : ∀ answers message (world : World ς κ ν μ γ ρ),
    (∃ req, message = request req ∧
        guide.table.accepts world.currentState.own (requestType req) = true ∧
        Known req world.session ∧
        processMessage answers message world =
          answer answers req (guide.table.answering world.currentState (requestType req)).own
            { world with
              currentState := guide.table.answering world.currentState (requestType req) }) ∨
      (∀ req, message = request req →
        ¬(guide.table.accepts world.currentState.own (requestType req) = true ∧
          Known req world.session)) ∧
      ((∃ req, message = request req ∧ ∃ next,
          processMessage answers message world = .ok ⟨⟩ next ∧
            next.currentState.nextState = some .terminate ∧ next.calls = world.calls ∧
            ∀ prepared, next.currentState.nextV2gtpMsg = some prepared →
              guide.mayRefuse (requestType req) prepared) ∨
        ∃ exception next, processMessage answers message world = .error exception next ∧
          next.calls = world.calls)
  answer_effects : ∀ answers req own,
    Keeps (Effects guide (requestType req)) (answer answers req own)

/-- A message with all that the controller answers while it is processed. -/
structure Received (M α : Type) where
  message : M
  answers : α

abbrev SECCSession (ς κ ν μ γ ρ : Type) := CommSession μ (World ς κ ν μ γ ρ)

namespace SeccProtocol

variable {q M α : Type} [DecidableEq ν] [DecidableEq τ]
  (protocol : SeccProtocol ς κ ν μ γ ρ τ q M α)

/-- `SECCCommunicationSession`, once the protocol has been agreed on. -/
def machine : SessionStateMachine (Received M α) κ ν μ (World ς κ ν μ γ ρ) where
  processMessage received := do
    modify fun world => { world with calls := [] }
    protocol.processMessage received.answers received.message
  currentState := World.currentState
  construct name world := { world with currentState := { own := protocol.guide.table.new name } }
  updateStateInfo received :=
    ask protocol.setPresentProtocolState (protocol.announce received.answers)

/-- The current object when a request is answered. -/
def answering (world : World ς κ ν μ γ ρ) (req : q) : StateObject κ ν μ :=
  protocol.guide.table.answering world.currentState (protocol.requestType req)

/-- The world in which a request is answered. -/
def entered (world : World ς κ ν μ γ ρ) (req : q) : World ς κ ν μ γ ρ :=
  { world with currentState := protocol.answering world req, calls := [] }

/-- The message is a request that the current state answers. -/
def Processes (session : SECCSession ς κ ν μ γ ρ) (input : Option (Received M α)) (req : q) :
    Prop :=
  (∃ answers, input = some ⟨protocol.request req, answers⟩) ∧
    protocol.guide.table.accepts session.world.currentState.own (protocol.requestType req) =
      true ∧
    protocol.Known req session.world.session

/-- What the current object has prepared answers a request of its class. -/
def Prepares (session : SECCSession ς κ ν μ γ ρ) : Prop :=
  ∀ prepared, session.world.currentState.nextV2gtpMsg = some prepared →
    ∃ type, protocol.guide.table.answeredBy type =
        protocol.guide.table.name session.world.currentState.own ∧
      protocol.guide.mayRespond type prepared

/-- A request is answered and the loop goes on: the step of the current state, and
what it leads to. -/
structure Answered (session : SECCSession ς κ ν μ γ ρ) (req : q) (answers : α)
    (reached : World ς κ ν μ γ ρ) (response : μ) (next : SECCSession ς κ ν μ γ ρ) : Prop where
  accepted : protocol.guide.table.accepts session.world.currentState.own
    (protocol.requestType req) = true
  known : protocol.Known req session.world.session
  answer : protocol.answer answers req (protocol.answering session.world req).own
    (protocol.entered session.world req) = .ok ⟨⟩ reached
  prepared : reached.currentState.nextV2gtpMsg = some response
  sent : next.sent = response :: session.sent
  session_eq : next.world.session = reached.session
  evDataContext_eq : next.world.evDataContext = reached.evDataContext
  serviceRegistry_eq : next.world.serviceRegistry = reached.serviceRegistry
  calls : next.world.calls = protocol.setPresentProtocolState :: reached.calls
  goesTo : reached.currentState.nextState = none ∧
      next.world.currentState = reached.currentState ∨
    ∃ name, reached.currentState.nextState = some (.state name) ∧
      next.world.currentState = { own := protocol.guide.table.new name }

variable {protocol}

omit [DecidableEq ν] [DecidableEq τ] in
theorem ask_eq_ok_iff {β : Type} {call : γ} {answer : Except PyError β} {value : β}
    {world next : World ς κ ν μ γ ρ} :
    ask call answer world = .ok value next ↔
      answer = .ok value ∧ next = { world with calls := call :: world.calls } := by
  cases answer with
  | ok result =>
      change EStateM.Result.ok result _ = _ ↔ _
      simp only [EStateM.Result.ok.injEq, Except.ok.injEq]
      exact and_congr_right fun _ => eq_comm
  | error exception =>
      change EStateM.Result.error exception _ = _ ↔ _
      simp

omit [DecidableEq ν] [DecidableEq τ] in
theorem ask_error {β : Type} {call : γ} {answer : Except PyError β} {exception : PyError}
    {world next : World ς κ ν μ γ ρ} (failed : ask call answer world = .error exception next) :
    next = { world with calls := call :: world.calls } := by
  cases answer with
  | ok result => cases failed
  | error raised =>
      cases failed
      rfl

theorem step_answered {session next : SECCSession ς κ ν μ γ ρ}
    {input : Option (Received M α)} (step : protocol.machine.Step session input next)
    (goesOn : next.ended = false) :
    ∃ req answers reached response, input = some ⟨protocol.request req, answers⟩ ∧
      protocol.Answered session req answers reached response next := by
  rcases step.continues goesOn with
    ⟨received, reached, informed, response, rfl, processed, prepared, updated, sent, goesTo⟩
  rcases ask_eq_ok_iff.mp updated with ⟨_, rfl⟩
  rcases received with ⟨message, answers⟩
  rcases protocol.processMessage_cases answers message { session.world with calls := [] } with
    ⟨req, rfl, accepted, known, answered⟩ |
      ⟨_, ⟨_, _, last, stopped, terminates, _, _⟩ | ⟨exception, last, failed, _⟩⟩
  · refine ⟨req, answers, reached, response, rfl, ?_⟩
    change protocol.processMessage answers (protocol.request req) _ = _ at processed
    rw [answered] at processed
    have kept : next.world.session = reached.session ∧
        next.world.evDataContext = reached.evDataContext ∧
        next.world.serviceRegistry = reached.serviceRegistry ∧
        next.world.calls = protocol.setPresentProtocolState :: reached.calls := by
      rcases goesTo with ⟨_, same⟩ | ⟨_, _, same⟩
      · rw [same]
        exact ⟨rfl, rfl, rfl, rfl⟩
      · rw [same]
        exact ⟨rfl, rfl, rfl, rfl⟩
    exact
      { accepted := accepted
        known := known
        answer := processed
        prepared := prepared
        sent := sent
        session_eq := kept.1
        evDataContext_eq := kept.2.1
        serviceRegistry_eq := kept.2.2.1
        calls := kept.2.2.2
        goesTo := by
          rcases goesTo with ⟨stays, same⟩ | ⟨name, leads, same⟩
          · exact .inl ⟨stays, by rw [same]⟩
          · exact .inr ⟨name, leads, by rw [same]; rfl⟩ }
  · change protocol.processMessage answers message _ = _ at processed
    rw [stopped] at processed
    cases processed
    rcases goesTo with ⟨stays, _⟩ | ⟨name, leads, _⟩
    · cases terminates.symm.trans stays
    · cases terminates.symm.trans leads
  · change protocol.processMessage answers message _ = _ at processed
    rw [failed] at processed
    cases processed

/-- The session variables after a step are those that processing the message left. -/
theorem session_of_step {session next : SECCSession ς κ ν μ γ ρ} {received : Received M α}
    (step : protocol.machine.Step session (some received) next) :
    ∃ reached, Reaches (protocol.processMessage received.answers received.message)
        { session.world with calls := [] } reached ∧ next.world.session = reached.session := by
  rcases step.reaches with ⟨reached, reaches, ended | ⟨informed, updated, ended⟩⟩
  · exact ⟨reached, reaches, by rw [ended]⟩
  · refine ⟨reached, reaches, ?_⟩
    have same : informed.session = reached.session := by
      rcases updated with ⟨_, updated⟩ | ⟨_, updated⟩
      · rw [(ask_eq_ok_iff.mp updated).2]
      · rw [ask_error updated]
    rcases ended with ended | ⟨_, _, ended⟩
    · rw [ended, same]
    · rw [ended]
      exact same

/-- A request that the current state accepts is answered. -/
theorem processMessage_of_accepts {req : q} {answers : α} {world : World ς κ ν μ γ ρ}
    (accepted : protocol.guide.table.accepts world.currentState.own (protocol.requestType req) =
      true)
    (known : protocol.Known req world.session) :
    protocol.processMessage answers (protocol.request req) world =
      protocol.answer answers req (protocol.answering world req).own
        { world with currentState := protocol.answering world req } := by
  rcases protocol.processMessage_cases answers (protocol.request req) world with
    ⟨other, same, _, _, answered⟩ | ⟨refused, _⟩
  · cases protocol.request_injective _ _ same
    exact answered
  · exact absurd ⟨accepted, known⟩ (refused req rfl)

/-- An iteration that answers a request and goes on to another state. -/
theorem rcv_of_answer {session : SECCSession ς κ ν μ γ ρ} {req : q} {answers : α}
    {reached : World ς κ ν μ γ ρ} {response : μ} {name : ν}
    (accepted : protocol.guide.table.accepts session.world.currentState.own
      (protocol.requestType req) = true)
    (known : protocol.Known req session.world.session)
    (answer : protocol.answer answers req (protocol.answering session.world req).own
      (protocol.entered session.world req) = .ok ⟨⟩ reached)
    (prepared : reached.currentState.nextV2gtpMsg = some response)
    (leads : reached.currentState.nextState = some (.state name))
    (announced : protocol.announce answers = .ok ⟨⟩) :
    protocol.machine.rcv session (some ⟨protocol.request req, answers⟩) =
      { world :=
          { reached with
            currentState := { own := protocol.guide.table.new name }
            calls := protocol.setPresentProtocolState :: reached.calls }
        sent := response :: session.sent } := by
  have processed : protocol.machine.processMessage ⟨protocol.request req, answers⟩
      session.world = .ok ⟨⟩ reached := by
    have answered : protocol.processMessage answers (protocol.request req)
        { session.world with calls := [] } = _ :=
      processMessage_of_accepts accepted known
    exact answered.trans answer
  have updated : protocol.machine.updateStateInfo ⟨protocol.request req, answers⟩ reached =
      .ok ⟨⟩ { reached with calls := protocol.setPresentProtocolState :: reached.calls } :=
    ask_eq_ok_iff.mpr ⟨announced, rfl⟩
  exact SessionStateMachine.rcv_of_answer processed prepared updated leads

variable (protocol) in
/-- A request that leaves a message to send, and what holds once it has been answered. -/
theorem exists_rcv_of_responds {session : SECCSession ς κ ν μ γ ρ} (req : q) {answers : α}
    {name : ν} {post : World ς κ ν μ γ ρ → Prop}
    (accepted : protocol.guide.table.accepts session.world.currentState.own
      (protocol.requestType req) = true)
    (known : protocol.Known req session.world.session)
    (responds : Responds (protocol.answer answers req (protocol.answering session.world req).own)
      (protocol.entered session.world req))
    (outcome : wp (protocol.answer answers req (protocol.answering session.world req).own)
      (fun _ next => next.currentState.nextState = some (.state name) ∧ post next)
      (fun _ _ => True) (protocol.entered session.world req))
    (announced : protocol.announce answers = .ok ⟨⟩) :
    ∃ reached response, post reached ∧ reached.currentState.nextV2gtpMsg = some response ∧
      protocol.machine.rcv session (some ⟨protocol.request req, answers⟩) =
        { world :=
            { reached with
              currentState := { own := protocol.guide.table.new name }
              calls := protocol.setPresentProtocolState :: reached.calls }
          sent := response :: session.sent } := by
  obtain ⟨_, reached, answer, made⟩ := eq_ok_of_wp responds
  obtain ⟨response, prepared⟩ := Option.isSome_iff_exists.mp made
  obtain ⟨leads, holds⟩ := post_of_eq_ok outcome answer
  exact ⟨reached, response, holds, prepared,
    rcv_of_answer accepted known answer prepared leads announced⟩

variable (protocol) in
/-- A session that pauses has processed a message, which has set the stop reason. -/
theorem reached_of_pause {stopReason : ς → Option StopNotification}
    {session : SECCSession ς κ ν μ γ ρ} {input : Option (Received M α)}
    {notification : StopNotification}
    (stops : protocol.machine.stopNotification (fun world => stopReason world.session)
      session.world input = some notification)
    (pauses : notification.stopAction = .pause) :
    ∃ received reached, input = some received ∧
      protocol.processMessage received.answers received.message
        { session.world with calls := [] } = .ok ⟨⟩ reached ∧
      (protocol.machine.rcv session input).world.session = reached.session ∧
      stopReason reached.session = some notification := by
  obtain ⟨received, reached, rfl, processed, reason, ended⟩ :=
    SessionStateMachine.reached_of_pause stops pauses
  have same : (protocol.machine.rcv session (some received)).world.session = reached.session := by
    rcases ended with ⟨ended, _⟩ | ⟨informed, updated, ended, _⟩
    · rw [ended]
    · rw [ended, (ask_eq_ok_iff.mp updated).2]
  refine ⟨received, reached, rfl, processed, same, ?_⟩
  rw [← same]
  exact reason

/-- The calls of a step are those of processing the message, and the one that
announces the state. -/
theorem calls_of_step {session next : SECCSession ς κ ν μ γ ρ} {received : Received M α}
    (step : protocol.machine.Step session (some received) next) :
    ∃ reached, Reaches (protocol.processMessage received.answers received.message)
        { session.world with calls := [] } reached ∧
      (next.world.calls = reached.calls ∨
        next.world.calls = protocol.setPresentProtocolState :: reached.calls) := by
  rcases step.reaches with ⟨reached, reaches, ended | ⟨informed, updated, ended⟩⟩
  · exact ⟨reached, reaches, .inl (by rw [ended])⟩
  · refine ⟨reached, reaches, .inr ?_⟩
    have announced : informed.calls = protocol.setPresentProtocolState :: reached.calls := by
      rcases updated with ⟨_, updated⟩ | ⟨_, updated⟩
      · rw [(ask_eq_ok_iff.mp updated).2]
      · rw [ask_error updated]
    rcases ended with ended | ⟨_, _, ended⟩
    · rw [ended, announced]
    · rw [ended]
      exact announced

/-- The controller methods that a step calls are those of the request that it
answers. -/
theorem call_of_step {session next : SECCSession ς κ ν μ γ ρ} {received : Received M α}
    (step : protocol.machine.Step session (some received) next) {call : γ}
    (made : call ∈ next.world.calls) (other : call ≠ protocol.setPresentProtocolState) :
    ∃ req reached, received.message = protocol.request req ∧
      protocol.guide.table.accepts session.world.currentState.own (protocol.requestType req) =
        true ∧
      protocol.Known req session.world.session ∧
      protocol.guide.mayCall (protocol.requestType req) call = true ∧
      Reaches (protocol.answer received.answers req (protocol.answering session.world req).own)
        (protocol.entered session.world req) reached ∧
      call ∈ reached.calls := by
  rcases calls_of_step step with ⟨reached, reaches, calls⟩
  have made : call ∈ reached.calls := by
    rcases calls with same | same
    · rw [same] at made
      exact made
    · rw [same] at made
      exact (List.mem_cons.mp made).resolve_left other
  rcases received with ⟨message, answers⟩
  unfold Reaches at reaches
  rcases protocol.processMessage_cases answers message { session.world with calls := [] } with
    ⟨req, rfl, accepted, known, answered⟩ |
      ⟨_, ⟨_, _, last, stopped, _, none, _⟩ | ⟨exception, last, failed, none⟩⟩
  · rw [answered] at reaches
    have effects := (protocol.answer_effects answers req _).of_reaches reaches
    rcases effects.calls call made with earlier | allowed
    · cases earlier
    · exact ⟨req, reached, rfl, accepted, known, allowed, reaches, made⟩
  · rcases reaches with ⟨_, processed⟩ | ⟨_, processed⟩
    · rw [stopped] at processed
      cases processed
      rw [none] at made
      cases made
    · rw [stopped] at processed
      cases processed
  · rcases reaches with ⟨_, processed⟩ | ⟨_, processed⟩
    · rw [failed] at processed
      cases processed
    · rw [failed] at processed
      cases processed
      rw [none] at made
      cases made

namespace Answered

variable {session next : SECCSession ς κ ν μ γ ρ} {req : q} {answers : α}
  {reached : World ς κ ν μ γ ρ} {response : μ}

/-- The object that goes on has not named a next state yet. -/
theorem resting (answered : protocol.Answered session req answers reached response next) :
    next.world.currentState.nextState = none := by
  rcases answered.goesTo with ⟨stays, same⟩ | ⟨name, _, same⟩
  · rw [same]
    exact stays
  · rw [same]

theorem effects (answered : protocol.Answered session req answers reached response next) :
    Effects protocol.guide (protocol.requestType req) (protocol.entered session.world req)
      reached :=
  (protocol.answer_effects answers req _).of_reaches (.inl ⟨_, answered.answer⟩)

/-- The variables that the table keeps are kept by the step. -/
theorem kept (answered : protocol.Answered session req answers reached response next) :
    protocol.guide.kept (protocol.requestType req) next.world.session =
      protocol.guide.kept (protocol.requestType req) session.world.session := by
  rw [answered.session_eq]
  exact answered.effects.session

theorem keptEvData (answered : protocol.Answered session req answers reached response next) :
    protocol.guide.keptEvData (protocol.requestType req) next.world.evDataContext =
      protocol.guide.keptEvData (protocol.requestType req) session.world.evDataContext := by
  rw [answered.evDataContext_eq]
  exact answered.effects.evData

theorem not_terminate (answered : protocol.Answered session req answers reached response next) :
    reached.currentState.nextState ≠ some .terminate := by
  intro terminates
  rcases answered.goesTo with ⟨stays, _⟩ | ⟨name, leads, _⟩
  · cases terminates.symm.trans stays
  · cases terminates.symm.trans leads

/-- An object that names no next state stays. -/
theorem currentState_eq (answered : protocol.Answered session req answers reached response next)
    (stays : reached.currentState.nextState = none) :
    next.world.currentState = reached.currentState := by
  rcases answered.goesTo with ⟨_, same⟩ | ⟨name, leads, _⟩
  · exact same
  · cases stays.symm.trans leads

/-- An object that names a next class makes room for it. -/
theorem currentState_new
    (answered : protocol.Answered session req answers reached response next) {name : ν}
    (leads : reached.currentState.nextState = some (.state name)) :
    next.world.currentState = { own := protocol.guide.table.new name } := by
  rcases answered.goesTo with ⟨stays, _⟩ | ⟨name', leads', same⟩
  · cases stays.symm.trans leads
  · cases leads.symm.trans leads'
    exact same

/-- The object that answered stays, or a new one of a class that the table allows is
constructed. -/
theorem leads (answered : protocol.Answered session req answers reached response next)
    (resting : session.world.currentState.nextState = none) :
    reached.currentState.nextState = none ∧
        next.world.currentState = reached.currentState ∧
        protocol.guide.table.name reached.currentState.own =
          protocol.guide.table.answeredBy (protocol.requestType req) ∨
      ∃ name, reached.currentState.nextState = some (.state name) ∧
        next.world.currentState = { own := protocol.guide.table.new name } ∧
        protocol.guide.mayGoTo (protocol.requestType req) name = true := by
  have effects := answered.effects
  have entered : protocol.guide.table.name
          (protocol.entered session.world req).currentState.own =
        protocol.guide.table.answeredBy (protocol.requestType req) ∧
      (protocol.entered session.world req).currentState.nextState = none := by
    unfold SeccProtocol.entered SeccProtocol.answering StateTable.answering
    dsimp only
    split
    next same => exact ⟨same, resting⟩
    next => exact ⟨protocol.name_new _, rfl⟩
  rcases answered.goesTo with ⟨stays, same⟩ | ⟨name, leads, same⟩
  · exact .inl ⟨stays, same, effects.name entered.1⟩
  · rcases effects.successor name leads with earlier | allowed
    · rw [entered.2] at earlier
      cases earlier
    · exact .inr ⟨name, leads, same, allowed⟩

end Answered

/-! ## What is sent -/

/-- What the object that answers a request has prepared answers a request of its
class. -/
theorem mayRespond_of_answer {session : SECCSession ς κ ν μ γ ρ} {req : q} {answers : α}
    {reached : World ς κ ν μ γ ρ} (prepares : protocol.Prepares session)
    (answer : protocol.answer answers req (protocol.answering session.world req).own
      (protocol.entered session.world req) = .ok ⟨⟩ reached)
    {prepared : μ} (made : reached.currentState.nextV2gtpMsg = some prepared) :
    ∃ type, protocol.guide.table.answeredBy type =
        protocol.guide.table.answeredBy (protocol.requestType req) ∧
      protocol.guide.mayRespond type prepared := by
  have effects := (protocol.answer_effects answers req _).of_reaches (.inl ⟨_, answer⟩)
  rcases effects.message prepared made with earlier | responds
  · unfold entered answering StateTable.answering at earlier
    dsimp only at earlier
    split at earlier
    next same =>
      rcases prepares prepared earlier with ⟨type, answeredBy, responds⟩
      exact ⟨type, answeredBy.trans same, responds⟩
    next => cases earlier
  · exact ⟨_, rfl, responds⟩

theorem Answered.prepares {session next : SECCSession ς κ ν μ γ ρ} {req : q} {answers : α}
    {reached : World ς κ ν μ γ ρ} {response : μ}
    (answered : protocol.Answered session req answers reached response next)
    (resting : session.world.currentState.nextState = none)
    (prepares : protocol.Prepares session) : protocol.Prepares next := by
  intro prepared made
  rcases answered.leads resting with ⟨_, same, named⟩ | ⟨name, _, same, _⟩
  · rw [same] at made ⊢
    rcases mayRespond_of_answer prepares answered.answer made with ⟨type, answeredBy, responds⟩
    exact ⟨type, answeredBy.trans named.symm, responds⟩
  · rw [same] at made
    cases made

/-- A response that a step sends answers its request, or refuses it. -/
theorem responds_of_sent {session next : SECCSession ς κ ν μ γ ρ}
    {input : Option (Received M α)} (step : protocol.machine.Step session input next)
    (prepares : protocol.Prepares session) {response : μ}
    (sent : next.sent = response :: session.sent) :
    ∃ req answers, input = some ⟨protocol.request req, answers⟩ ∧
      (protocol.guide.table.accepts session.world.currentState.own (protocol.requestType req) =
            true ∧
          protocol.Known req session.world.session ∧
          (∃ reached, protocol.answer answers req (protocol.answering session.world req).own
              (protocol.entered session.world req) = .ok ⟨⟩ reached ∧
            reached.currentState.nextV2gtpMsg = some response) ∧
          (∃ type, protocol.guide.table.answeredBy type =
              protocol.guide.table.answeredBy (protocol.requestType req) ∧
            protocol.guide.mayRespond type response) ∨
        ¬(protocol.guide.table.accepts session.world.currentState.own
              (protocol.requestType req) = true ∧
            protocol.Known req session.world.session) ∧
          protocol.guide.mayRefuse (protocol.requestType req) response) := by
  rcases step.sent_eq_or with none | ⟨received, world, message, rfl, processed, prepared, sends⟩
  · rw [none] at sent
    exact absurd sent.symm (List.cons_ne_self _ _)
  have same : message = response := by
    rw [sends] at sent
    exact (List.cons.inj sent).1
  subst same
  rcases received with ⟨received, answers⟩
  change protocol.processMessage answers received { session.world with calls := [] } = _
    at processed
  rcases protocol.processMessage_cases answers received { session.world with calls := [] } with
    ⟨req, rfl, accepted, known, answered⟩ |
      ⟨refused, ⟨req, rfl, last, stopped, _, _, refuses⟩ | ⟨exception, last, failed, _⟩⟩
  · rw [answered] at processed
    exact ⟨req, answers, rfl, .inl ⟨accepted, known, ⟨world, processed, prepared⟩,
      mayRespond_of_answer prepares processed prepared⟩⟩
  · rw [stopped] at processed
    cases processed
    exact ⟨req, answers, rfl, .inr ⟨refused req rfl, refuses message prepared⟩⟩
  · rw [failed] at processed
    cases processed

end SeccProtocol

end Iso15118.Secc
