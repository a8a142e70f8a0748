import Iso15118.Library.Effect
import Iso15118.Secc.Controller.EvseData
import Iso15118.Shared.Messages.Header
import Iso15118.Shared.States

/-!
# What processing a message can change

The parts of a session that every state of the SECC works on, in any protocol:
the session variables, the controller, and the state object itself. The
controller may answer anything and may raise; the calls made to it are recorded.
-/

namespace Iso15118.Secc

open Effect
open Iso15118.Shared

/-- All that processing a message can change. `serviceRegistry` is the registry of
diagnostic services that the controller has, and `calls` are the controller calls
made for the last message, the newest first. -/
structure World (ς κ ν μ γ ρ : Type) where
  session : ς
  evDataContext : EVDataContext
  evseDataContext : EVSEDataContext
  serviceRegistry : ρ
  currentState : StateObject κ ν μ
  calls : List γ

variable {ς κ ν μ γ ρ : Type}

/-- Call a method of the controller. -/
def ask {α : Type} (call : γ) (answer : Except PyError α) :
    EStateM PyError (World ς κ ν μ γ ρ) α := do
  modify fun world => { world with calls := call :: world.calls }
  Effect.ofExcept answer

/-- Assign session variables. -/
def updateSession (change : ς → ς) : EStateM PyError (World ς κ ν μ γ ρ) PUnit :=
  modify fun world => { world with session := change world.session }

/-- Assign attributes of the state itself. -/
def setOwn (own : κ) : EStateM PyError (World ς κ ν μ γ ρ) PUnit :=
  modify fun world => { world with currentState := { world.currentState with own := own } }

/-- The next state and the timeout, which `create_next_message` sets first. -/
def setNext (nextState : Option (NextState ν)) (nextMsgTimeout : ℚ) :
    EStateM PyError (World ς κ ν μ γ ρ) PUnit :=
  modify fun world =>
    { world with
      currentState :=
        { world.currentState with nextState := nextState, nextMsgTimeout := nextMsgTimeout } }

/-- `create_next_message`, once the header of the message has been created. -/
def createMessage (nextState : Option (NextState ν)) (sessionId : ς → String) (message : ς → μ)
    (timeout : ℚ) : EStateM PyError (World ς κ ν μ γ ρ) PUnit := do
  let world ← get
  Effect.ofExcept (checkSessionId (sessionId world.session))
  modify fun world =>
    { world with
      currentState :=
        world.currentState.createNextMessage nextState (message world.session) timeout }

/-- A method of the EV data context. -/
def onEvData (program : EStateM PyError EVDataContext PUnit) :
    EStateM PyError (World ς κ ν μ γ ρ) PUnit :=
  zoom World.evDataContext (fun context world => { world with evDataContext := context }) program

/-- A method of the EVSE data context. -/
def onEvseData (program : EStateM PyError EVSEDataContext PUnit) :
    EStateM PyError (World ς κ ν μ γ ρ) PUnit :=
  zoom World.evseDataContext (fun context world => { world with evseDataContext := context })
    program

/-- Calling the controller leaves all but the calls as it is. -/
theorem keeps_ask {α τ : Type} {observe : World ς κ ν μ γ ρ → τ} {call : γ}
    {answer : Except PyError α}
    (unaffected : ∀ world : World ς κ ν μ γ ρ,
      observe { world with calls := call :: world.calls } = observe world) :
    Keeps (Same observe) (ask call answer : EStateM PyError (World ς κ ν μ γ ρ) α) := by
  apply keeps_bind (keeps_modify unaffected)
  intro _
  exact keeps_ofExcept answer

/-- Creating a message changes the current state only, if the header is valid. -/
theorem keeps_createMessage {r : World ς κ ν μ γ ρ → World ς κ ν μ γ ρ → Prop}
    [IsPreorder (World ς κ ν μ γ ρ) r] {nextState : Option (NextState ν)}
    {sessionId : ς → String} {message : ς → μ} {timeout : ℚ}
    (kept : ∀ world : World ς κ ν μ γ ρ, r world
      { world with
        currentState :=
          world.currentState.createNextMessage nextState (message world.session) timeout }) :
    Keeps r (createMessage nextState sessionId message timeout) := by
  apply keeps_bind keeps_get
  intro world
  apply keeps_bind (keeps_ofExcept _)
  intro _
  exact keeps_modify kept

/-! ## Weakest preconditions -/

/-- Of a program that terminates the session nothing is asked that concerns a session that goes
on. -/
theorem wp_goesOn_of_terminates {α : Type} {program : EStateM PyError (World ς κ ν μ γ ρ) α}
    {property : World ς κ ν μ γ ρ → Prop} {world : World ς κ ν μ γ ρ}
    (terminates : wp program (fun _ next => next.currentState.nextState = some .terminate)
      (fun _ _ => True) world) :
    wp program (fun _ next => next.currentState.nextState ≠ some .terminate → property next)
      (fun _ _ => True) world := by
  apply wp_mono _ (fun _ _ _ => trivial) terminates
  intro _ _ terminates goesOn
  exact absurd terminates goesOn

section

variable {onError : PyError → World ς κ ν μ γ ρ → Prop} {world : World ς κ ν μ γ ρ}

@[simp]
theorem wp_ask {α : Type} {onOk : α → World ς κ ν μ γ ρ → Prop} (call : γ)
    (answer : Except PyError α) :
    wp (ask call answer) onOk onError world ↔
      (∀ value, answer = .ok value → onOk value { world with calls := call :: world.calls }) ∧
        ∀ exception, answer = .error exception →
          onError exception { world with calls := call :: world.calls } :=
  wp_ofExcept

variable {onOk : PUnit → World ς κ ν μ γ ρ → Prop}

@[simp]
theorem wp_updateSession (change : ς → ς) :
    wp (updateSession change) onOk onError world =
      onOk ⟨⟩ { world with session := change world.session } :=
  rfl

@[simp]
theorem wp_setNext (nextState : Option (NextState ν)) (nextMsgTimeout : ℚ) :
    wp (setNext nextState nextMsgTimeout) onOk onError world =
      onOk ⟨⟩ { world with
        currentState :=
          { world.currentState with
            nextState := nextState, nextMsgTimeout := nextMsgTimeout } } :=
  rfl

/-- The message is created, or its header is refused. -/
theorem wp_createMessage (nextState : Option (NextState ν)) (sessionId : ς → String)
    (message : ς → μ) (timeout : ℚ) :
    wp (createMessage nextState sessionId message timeout) onOk onError world ↔
      (checkSessionId (sessionId world.session) = .ok () →
        onOk ⟨⟩ { world with
          currentState :=
            world.currentState.createNextMessage nextState (message world.session) timeout }) ∧
      ∀ exception, checkSessionId (sessionId world.session) = .error exception →
        onError exception world := by
  unfold createMessage
  simp only [wp_bind, wp_get, wp_ofExcept, wp_modify]
  exact and_congr_left' ⟨fun holds => holds (), fun holds _ => holds⟩

/-- A state stops with a message, or fails to create it. -/
theorem createMessage_ends (sessionId : ς → String) (message : ς → μ) (timeout : ℚ)
    (world : World ς κ ν μ γ ρ) :
    (∃ next, createMessage (some .terminate) sessionId message timeout world = .ok ⟨⟩ next ∧
        next.currentState.nextState = some .terminate ∧ next.calls = world.calls ∧
        next.currentState.nextV2gtpMsg = some (message world.session)) ∨
      ∃ exception next, createMessage (some .terminate) sessionId message timeout world =
        .error exception next ∧ next.calls = world.calls := by
  unfold createMessage
  rw [get_bind_apply]
  cases checkSessionId (sessionId world.session) with
  | ok valid => exact .inl ⟨_, rfl, rfl, rfl, rfl⟩
  | error exception => exact .inr ⟨_, _, rfl, rfl⟩

@[simp]
theorem wp_setOwn (own : κ) :
    wp (setOwn own) onOk onError world =
      onOk ⟨⟩ { world with currentState := { world.currentState with own := own } } :=
  rfl

@[simp]
theorem wp_onEvData (program : EStateM PyError EVDataContext PUnit) :
    wp (onEvData program) onOk onError world =
      wp program (fun value context => onOk value { world with evDataContext := context })
        (fun exception context => onError exception { world with evDataContext := context })
        world.evDataContext :=
  wp_zoom _ _ _

@[simp]
theorem wp_onEvseData (program : EStateM PyError EVSEDataContext PUnit) :
    wp (onEvseData program) onOk onError world =
      wp program (fun value context => onOk value { world with evseDataContext := context })
        (fun exception context => onError exception { world with evseDataContext := context })
        world.evseDataContext :=
  wp_zoom _ _ _

end

/-! ## Leaving a message to send -/

/-- The program returns and leaves a message to send. -/
abbrev Responds (program : EStateM PyError (World ς κ ν μ γ ρ) PUnit) (world : World ς κ ν μ γ ρ) :
    Prop :=
  returns program (fun _ next => next.currentState.nextV2gtpMsg.isSome = true) world

section

variable {world : World ς κ ν μ γ ρ}

@[simp]
theorem returns_ask {α : Type} {post : α → World ς κ ν μ γ ρ → Prop} (call : γ)
    (answer : Except PyError α) :
    returns (ask call answer) post world ↔
      ∃ value, answer = .ok value ∧ post value { world with calls := call :: world.calls } :=
  returns_ofExcept

variable {post : PUnit → World ς κ ν μ γ ρ → Prop}

@[simp]
theorem returns_updateSession (change : ς → ς) :
    returns (updateSession change) post world =
      post ⟨⟩ { world with session := change world.session } :=
  rfl

@[simp]
theorem returns_setOwn (own : κ) :
    returns (setOwn own) post world =
      post ⟨⟩ { world with currentState := { world.currentState with own := own } } :=
  rfl

@[simp]
theorem returns_onEvData (program : EStateM PyError EVDataContext PUnit) :
    returns (onEvData program) post world =
      returns program (fun value context => post value { world with evDataContext := context })
        world.evDataContext :=
  returns_zoom _ _ _

@[simp]
theorem returns_onEvseData (program : EStateM PyError EVSEDataContext PUnit) :
    returns (onEvseData program) post world =
      returns program (fun value context => post value { world with evseDataContext := context })
        world.evseDataContext :=
  returns_zoom _ _ _

end

/-- A command is given, and what follows goes well, or the wait for it times out. -/
def SendsTargets (command : Except PyError PUnit) (sent : Prop) : Prop :=
  command.isOk ∧ sent ∨ command = .error .timeoutError

/-- Whether the command was given is known unless something else than a timeout is
raised. -/
theorem returns_trySend {call : γ} {command : Except PyError PUnit}
    {post : Bool → World ς κ ν μ γ ρ → Prop} {world : World ς κ ν μ γ ρ} :
    returns (tryCatch
        (do
          ask call command
          pure true)
        (fun exception => if exception = .timeoutError then pure false else throw exception))
      post world ↔
      (command.isOk ∧ post true { world with calls := call :: world.calls }) ∨
        command = .error .timeoutError ∧
          post false { world with calls := call :: world.calls } := by
  rw [returns_tryCatch, wp_bind, wp_ask]
  cases command with
  | ok sent => simp [isOk_iff]
  | error exception =>
      by_cases timedOut : exception = .timeoutError
      · simp [isOk_iff, timedOut]
      · simp [isOk_iff, timedOut]

end Iso15118.Secc
