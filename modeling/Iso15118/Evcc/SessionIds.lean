import Iso15118.Evcc.EvccState
import Iso15118.Library.Maintains

/-!
# Session ids of requests

What a state of the EVCC keeps true of the session variables and of the message that is prepared,
for every protocol: a request is made with the session id that the session has.
-/

namespace Iso15118.Evcc

open Effect
open Iso15118.Shared

variable {ς κ ν μ γ ρ : Type}

/-- What holds of the session variables, and of the message if one is prepared. -/
structure Addressed (identified : ς → Prop) (addressed : μ → Prop) (world : World ς κ ν μ γ ρ) :
    Prop where
  session : identified world.session
  message : ∀ prepared, world.currentState.nextV2gtpMsg = some prepared → addressed prepared

section

variable {identified : ς → Prop} {addressed : μ → Prop}

/-- A new state object has not prepared anything. -/
theorem addressed_of_new {world : World ς κ ν μ γ ρ} {own : κ}
    (new : world.currentState = { own := own }) (holds : identified world.session) :
    Addressed identified addressed world := by
  refine ⟨holds, ?_⟩
  intro prepared made
  rw [new] at made
  cases made

theorem maintains_ask {α : Type} (call : γ) (method : EStateM PyError ρ α) :
    Maintains (Addressed identified addressed)
      (ask call method : EStateM PyError (World ς κ ν μ γ ρ) α) := by
  constructor
  intro world holds
  rw [wp_ask]
  exact wp_of_forall (fun _ _ => ⟨trivial, holds.session, holds.message⟩)
    fun _ _ => ⟨holds.session, holds.message⟩

theorem maintains_updateSession {change : ς → ς}
    (kept : ∀ session, identified session → identified (change session)) :
    Maintains (Addressed identified addressed)
      (updateSession change : EStateM PyError (World ς κ ν μ γ ρ) PUnit) :=
  maintains_modify fun _ holds => ⟨kept _ holds.session, holds.message⟩

theorem maintains_setNextState (nextState : Option (NextState ν)) :
    Maintains (Addressed identified addressed)
      (setNextState nextState : EStateM PyError (World ς κ ν μ γ ρ) PUnit) :=
  maintains_modify fun _ holds => ⟨holds.session, holds.message⟩

theorem maintains_setOwn (own : κ) :
    Maintains (Addressed identified addressed)
      (setOwn own : EStateM PyError (World ς κ ν μ γ ρ) PUnit) :=
  maintains_modify fun _ holds => ⟨holds.session, holds.message⟩

theorem maintains_prepare {nextState : Option (NextState ν)} {message : μ} {timeout : ℚ}
    (fits : addressed message) :
    Maintains (Addressed identified addressed)
      (prepare nextState message timeout : EStateM PyError (World ς κ ν μ γ ρ) PUnit) := by
  apply maintains_modify
  intro world holds
  refine ⟨holds.session, ?_⟩
  rintro prepared same
  cases same
  exact fits

theorem maintains_stopStateMachine {stopped : ς → ς}
    (kept : ∀ session, identified session → identified (stopped session)) :
    Maintains (Addressed identified addressed)
      (stopStateMachine stopped : EStateM PyError (World ς κ ν μ γ ρ) PUnit) :=
  maintains_bind (maintains_updateSession kept) fun _ _ => maintains_setNextState _

theorem maintains_checkMsg {α : Type} {accepted : Option α} {failed : Bool} {known : ς → Prop}
    [DecidablePred known] {stopped : ς → ς}
    (kept : ∀ session, identified session → identified (stopped session)) :
    Maintains (Addressed identified addressed)
      (checkMsg accepted failed known stopped :
        EStateM PyError (World ς κ ν μ γ ρ) (Option α)) := by
  have stops : Maintains (Addressed identified addressed)
      (do
        stopStateMachine stopped
        return none : EStateM PyError (World ς κ ν μ γ ρ) (Option α)) :=
    maintains_bind (maintains_stopStateMachine kept) fun _ _ => maintains_pure trivial
  unfold checkMsg
  cases accepted with
  | none => exact stops
  | some message =>
      apply maintains_get_bind
      intro world _
      split
      · exact stops
      · split
        · exact maintains_pure trivial
        · exact stops

/-- An iteration after which the loop goes on sends what fits, and leaves what holds. -/
theorem addressed_of_step {M A : Type} {new : ν → κ}
    {processMessage : A → M → EStateM PyError (World ς κ ν μ γ ρ) PUnit}
    {session next : CommSession μ (World ς κ ν μ γ ρ)} {received : Received M A} {request : μ}
    (step : (machine new processMessage).Step session (some received) next)
    (sent : next.sent = request :: session.sent) (goesOn : next.ended = false)
    (processes : ∀ after,
      processMessage received.answers received.message { session.world with calls := [] } =
        .ok ⟨⟩ after →
      after.currentState.nextState ≠ some .terminate → Addressed identified addressed after) :
    addressed request ∧ Addressed identified addressed next.world := by
  obtain ⟨_, after, _, prepared, input, processed, made, updated, sends, leads⟩ :=
    step.continues goesOn
  cases updated
  cases input
  cases sent.symm.trans sends
  have stays : after.currentState.nextState ≠ some .terminate := by
    intro ends
    rcases leads with ⟨stays, _⟩ | ⟨name, leads, _⟩
    · cases ends.symm.trans stays
    · cases ends.symm.trans leads
  have holds := processes after processed stays
  refine ⟨holds.message _ made, ?_⟩
  rcases leads with ⟨_, same⟩ | ⟨name, _, same⟩
  · rw [same]
    exact holds
  · rw [same]
    exact addressed_of_new rfl holds.session

end

end Iso15118.Evcc
