import Iso15118.Evcc.World
import Iso15118.Shared.CommSession
import Iso15118.Shared.Messages.Header

/-!
# States of the EVCC

`check_msg` and `stop_state_machine` of `evcc/states/evcc_state.py` for one protocol, and
the receive loop with the states of a protocol.
-/

namespace Iso15118.Evcc

open Effect Transition
open Iso15118.Shared

variable {ς κ ν μ γ ρ : Type}

/-- Assign attributes of the state itself. -/
def setOwn (own : κ) : EStateM PyError (World ς κ ν μ γ ρ) PUnit :=
  modify fun world => { world with currentState := { world.currentState with own := own } }

/-- `create_next_message`, with a message that is ready. -/
def prepare (nextState : Option (NextState ν)) (message : μ) (timeout : ℚ) :
    EStateM PyError (World ς κ ν μ γ ρ) PUnit :=
  modify fun world =>
    { world with currentState := world.currentState.createNextMessage nextState message timeout }

/-- `stop_state_machine`. A message that is there from before stays. -/
def stopStateMachine (stopped : ς → ς) : EStateM PyError (World ς κ ν μ γ ρ) PUnit := do
  updateSession stopped
  setNextState (some .terminate)

/-! ## The check -/

/-- `check_msg`. `accepted` is the message as one of the expected type, if it is one, and
`known` says of a session that the session id of the message is its own or need not be. -/
def checkMsg {α : Type} (accepted : Option α) (failed : Bool) (known : ς → Prop)
    [DecidablePred known] (stopped : ς → ς) : EStateM PyError (World ς κ ν μ γ ρ) (Option α) := do
  match accepted with
  | none => do
      stopStateMachine stopped
      return none
  | some message =>
      let world ← get
      if failed then do
        stopStateMachine stopped
        return none
      else if known world.session then
        return some message
      else do
        stopStateMachine stopped
        return none

/-! ## Postconditions

A controller may answer anything and change in any way. Of what it raises only a set is
known, which may be that of all exceptions. -/

/-- Whatever the program returns is good, and whatever it raises is in the set. -/
def Gives (raised : PyError → Prop) {ω α : Type} (program : EStateM PyError ω α)
    (good : α → Prop) : Prop :=
  ∀ state, wp program (fun value _ => good value) (fun exception _ => raised exception) state

/-- The program establishes the postcondition, or raises an exception of the set. -/
abbrev Ensures (raised : PyError → Prop) {ω α : Type} (program : EStateM PyError ω α)
    (post : α → ω → Prop) (world : ω) : Prop :=
  wp program post (fun exception _ => raised exception) world

section

variable {raised : PyError → Prop} {α β : Type} {world : World ς κ ν μ γ ρ}
  {post : α → World ς κ ν μ γ ρ → Prop}

/-- After a call, the controller is any, and its answer is good. -/
theorem ensures_ask_bind {raisedByMethod : PyError → Prop} {call : γ}
    {method : EStateM PyError ρ β} {good : β → Prop}
    {next : β → EStateM PyError (World ς κ ν μ γ ρ) α} (gives : Gives raisedByMethod method good)
    (raises : ∀ exception, raisedByMethod exception → raised exception)
    (holds : ∀ value controller, good value → Ensures raised (next value) post
      { world with calls := call :: world.calls, controller := controller }) :
    Ensures raised (ask call method >>= next) post world := by
  unfold Ensures
  rw [wp_bind, wp_ask]
  exact wp_mono (fun value controller isGood => holds value controller isGood)
    (fun exception _ failed => raises exception failed) (gives world.controller)

/-- What is done after a call may depend on what exactly it has answered, where it does not
matter what is raised. -/
theorem ensures_ask_eq_bind {call : γ} {method : EStateM PyError ρ β}
    {next : β → EStateM PyError (World ς κ ν μ γ ρ) α}
    (holds : ∀ value controller, method world.controller = .ok value controller →
      Ensures (fun _ => True) (next value) post
        { world with calls := call :: world.calls, controller := controller }) :
    Ensures (fun _ => True) (ask call method >>= next) post world := by
  unfold Ensures
  rw [wp_bind, wp_ask]
  cases answered : method world.controller with
  | ok value controller =>
      unfold wp
      rw [answered]
      exact holds value controller answered
  | error exception controller =>
      unfold wp
      rw [answered]
      trivial

theorem ensures_ofExcept_bind {answer : Except PyError β}
    {next : β → EStateM PyError (World ς κ ν μ γ ρ) α}
    (only : ∀ exception, answer = .error exception → raised exception)
    (holds : ∀ value, answer = .ok value → Ensures raised (next value) post world) :
    Ensures raised (Effect.ofExcept answer >>= next) post world := by
  unfold Ensures
  rw [wp_bind, wp_ofExcept]
  exact ⟨holds, only⟩

theorem ensures_get_bind
    {next : World ς κ ν μ γ ρ → EStateM PyError (World ς κ ν μ γ ρ) α}
    (holds : Ensures raised (next world) post world) :
    Ensures raised (get >>= next) post world :=
  holds

theorem ensures_updateSession_bind {change : ς → ς}
    {next : PUnit → EStateM PyError (World ς κ ν μ γ ρ) α}
    (holds : Ensures raised (next ⟨⟩) post { world with session := change world.session }) :
    Ensures raised (updateSession change >>= next) post world :=
  holds

theorem ensures_setOwn_bind {own : κ} {next : PUnit → EStateM PyError (World ς κ ν μ γ ρ) α}
    (holds : Ensures raised (next ⟨⟩) post
      { world with currentState := { world.currentState with own := own } }) :
    Ensures raised (setOwn own >>= next) post world :=
  holds

/-- What follows a program whose specification is known. -/
theorem ensures_bind {program : EStateM PyError (World ς κ ν μ γ ρ) β}
    {next : β → EStateM PyError (World ς κ ν μ γ ρ) α} {middle : β → World ς κ ν μ γ ρ → Prop}
    (spec : Ensures raised program middle world)
    (holds : ∀ value reached, middle value reached → Ensures raised (next value) post reached) :
    Ensures raised (program >>= next) post world := by
  unfold Ensures
  rw [wp_bind]
  exact wp_mono holds (fun _ _ failed => failed) spec

end

section

variable {onOk : PUnit → World ς κ ν μ γ ρ → Prop} {onError : PyError → World ς κ ν μ γ ρ → Prop}
  {world : World ς κ ν μ γ ρ}

@[simp]
theorem wp_setOwn (own : κ) :
    wp (setOwn own) onOk onError world =
      onOk ⟨⟩ { world with currentState := { world.currentState with own := own } } :=
  rfl

@[simp]
theorem wp_prepare (nextState : Option (NextState ν)) (message : μ) (timeout : ℚ) :
    wp (prepare nextState message timeout) onOk onError world =
      onOk ⟨⟩ { world with
        currentState := world.currentState.createNextMessage nextState message timeout } :=
  rfl

@[simp]
theorem wp_stopStateMachine (stopped : ς → ς) :
    wp (stopStateMachine stopped) onOk onError world =
      onOk ⟨⟩ { world with
        session := stopped world.session
        currentState := { world.currentState with nextState := some .terminate } } :=
  rfl

end

/-- What is done with a message after the check is done when it passes. Otherwise the state
machine is stopped. -/
theorem bind_checkMsg {α : Type} {accepted : Option α} {failed : Bool} {known : ς → Prop}
    [DecidablePred known] {stopped : ς → ς}
    {next : Option α → EStateM PyError (World ς κ ν μ γ ρ) PUnit} (ignored : next none = pure ⟨⟩)
    (world : World ς κ ν μ γ ρ) :
    (checkMsg accepted failed known stopped >>= next) world =
      match accepted with
      | none => stopStateMachine stopped world
      | some message =>
          if failed = false ∧ known world.session then next (some message) world
          else stopStateMachine stopped world := by
  have stops : ((do stopStateMachine stopped; return none) >>= next) world =
      stopStateMachine stopped world := by
    simp only [bind, EStateM.bind, pure, EStateM.pure]
    cases stopStateMachine stopped world with
    | error exception reached => rfl
    | ok result reached =>
        simp only [ignored]
        rfl
  unfold checkMsg
  cases accepted with
  | none => exact stops
  | some message =>
      cases failed with
      | true => exact stops
      | false =>
          by_cases known' : known world.session
          · simp only [bind_assoc, Effect.get_bind_apply, known', ↓reduceIte, pure_bind, and_self,
              Bool.false_eq_true]
          · dsimp only
            rw [if_neg (fun both => known' both.2), ← stops]
            simp only [bind_assoc, Effect.get_bind_apply, known', ↓reduceIte, Bool.false_eq_true]

/-! ## The receive loop -/

/-- A received message, with what the clock and the certificate store answer while it is
processed. -/
structure Received (M A : Type) where
  message : M
  answers : A

/-- `EVCCCommunicationSession` with the states of a protocol. There is no EVSE controller to
tell the state to. -/
def machine {M A : Type} (new : ν → κ)
    (processMessage : A → M → EStateM PyError (World ς κ ν μ γ ρ) PUnit) :
    SessionStateMachine (Received M A) κ ν μ (World ς κ ν μ γ ρ) where
  processMessage received := do
    modify fun world => { world with calls := [] }
    processMessage received.answers received.message
  currentState := World.currentState
  construct name world := { world with currentState := { own := new name } }
  updateStateInfo _ := pure ⟨⟩

end Iso15118.Evcc
