import Iso15118.Library.Effect
import Iso15118.Shared.Exceptions
import Iso15118.Shared.States

/-!
# What processing a message can change in the EVCC

The session variables, the EV controller and the state object. The controller is a
part of the state, on which its methods run; the calls made to it are recorded.
-/

namespace Iso15118.Evcc

open Effect
open Iso15118.Shared

/-- All that processing a message can change. `calls` are the controller calls made for
the last message, the newest first. -/
structure World (ς κ ν μ γ ρ : Type) where
  session : ς
  controller : ρ
  currentState : StateObject κ ν μ
  calls : List γ

variable {ς κ ν μ γ ρ : Type}

/-- Call a method of the controller. -/
def ask {α : Type} (call : γ) (method : EStateM PyError ρ α) :
    EStateM PyError (World ς κ ν μ γ ρ) α := do
  modify fun world => { world with calls := call :: world.calls }
  zoom World.controller (fun controller world => { world with controller := controller }) method

/-- Assign session variables. -/
def updateSession (change : ς → ς) : EStateM PyError (World ς κ ν μ γ ρ) PUnit :=
  modify fun world => { world with session := change world.session }

/-- Set the next state only. -/
def setNextState (nextState : Option (NextState ν)) :
    EStateM PyError (World ς κ ν μ γ ρ) PUnit :=
  modify fun world =>
    { world with currentState := { world.currentState with nextState := nextState } }

/-! ## Weakest preconditions -/

section

variable {onError : PyError → World ς κ ν μ γ ρ → Prop} {world : World ς κ ν μ γ ρ}

@[simp]
theorem wp_ask {α : Type} {onOk : α → World ς κ ν μ γ ρ → Prop} (call : γ)
    (method : EStateM PyError ρ α) :
    wp (ask call method) onOk onError world =
      wp method
        (fun value controller =>
          onOk value { world with calls := call :: world.calls, controller := controller })
        (fun exception controller =>
          onError exception { world with calls := call :: world.calls, controller := controller })
        world.controller := by
  unfold ask
  rw [wp_bind, wp_modify, wp_zoom]

variable {onOk : PUnit → World ς κ ν μ γ ρ → Prop}

@[simp]
theorem wp_updateSession (change : ς → ς) :
    wp (updateSession change) onOk onError world =
      onOk ⟨⟩ { world with session := change world.session } :=
  rfl

@[simp]
theorem wp_setNextState (nextState : Option (NextState ν)) :
    wp (setNextState nextState) onOk onError world =
      onOk ⟨⟩ { world with
        currentState := { world.currentState with nextState := nextState } } :=
  rfl

end

end Iso15118.Evcc
