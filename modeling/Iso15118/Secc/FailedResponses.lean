import Iso15118.Secc.Leaves

/-!
# Failed responses and the end of a session

The EVCC ends a session exactly on a failed response. For the SECC to agree with it, a state
that prepares a response has to stop the state machine along with a failed one, and with no
other, except where the session has been stopped as asked.
-/

namespace Iso15118.Secc

open Effect
open Iso15118.Shared

variable {ς κ ν μ γ ρ : Type}

/-- Which responses of a protocol are failed ones, and where its session keeps the reason of a
stop. -/
structure StopConvention (ς μ : Type) where
  isFailed : μ → Bool
  stopReason : ς → Option StopNotification

namespace StopConvention

variable (convention : StopConvention ς μ)

/-- The next state is `Terminate`, and not for a stop that was successful. -/
def Fails (world : World ς κ ν μ γ ρ) : Prop :=
  world.currentState.nextState = some .terminate ∧
    ∀ reason, convention.stopReason world.session = some reason → reason.successful = false

/-- The response that has been prepared is a failed one exactly if the session fails. -/
def Agrees (world : World ς κ ν μ γ ρ) : Prop :=
  ∀ response, world.currentState.nextV2gtpMsg = some response →
    (convention.isFailed response = true ↔ convention.Fails world)

/-- Whatever the program prepares agrees exactly under a condition. -/
abbrev AgreesIff (program : EStateM PyError (World ς κ ν μ γ ρ) PUnit) (condition : Prop)
    (world : World ς κ ν μ γ ρ) : Prop :=
  Leaves program (fun after => convention.Agrees after ↔ condition) world

variable {convention}

section

variable {condition : Prop} {world : World ς κ ν μ γ ρ}

theorem agrees_createNextMessage {nextState : Option (NextState ν)} {response : μ} {timeout : ℚ} :
    convention.Agrees { world with
        currentState := world.currentState.createNextMessage nextState response timeout } ↔
      (convention.isFailed response = true ↔ nextState = some .terminate ∧
        ∀ reason, convention.stopReason world.session = some reason →
          reason.successful = false) := by
  constructor
  · intro agrees
    exact agrees response rfl
  · rintro agrees _ ⟨⟩
    exact agrees

theorem AgreesIff.congr {program : EStateM PyError (World ς κ ν μ γ ρ) PUnit}
    {condition' : Prop} (agrees : convention.AgreesIff program condition world)
    (same : condition ↔ condition') : convention.AgreesIff program condition' world :=
  agrees.mono fun _ agrees => agrees.trans same

/-- The attributes of the state itself do not matter. -/
theorem AgreesIff.setOwn {program : EStateM PyError (World ς κ ν μ γ ρ) PUnit} {own : κ}
    (agrees : convention.AgreesIff program condition world) :
    convention.AgreesIff (program >>= fun _ => setOwn own) condition world :=
  leaves_setOwn agrees

/-- A request is refused, or answered by the state that the table says. -/
theorem agreesIff_route {τ : Type} {table : StateTable κ ν τ} [DecidableEq ν] [DecidableEq τ]
    {type : τ} {known : World ς κ ν μ γ ρ → Prop} [DecidablePred known]
    {stop : Refusal → EStateM PyError (World ς κ ν μ γ ρ) PUnit}
    {answer : κ → EStateM PyError (World ς κ ν μ γ ρ) PUnit}
    (refused : ∀ refusal, convention.AgreesIff (stop refusal) True world)
    (answered : table.accepts world.currentState.own type = true →
      convention.AgreesIff (answer (table.answering world.currentState type).own) condition
        { world with currentState := table.answering world.currentState type }) :
    convention.AgreesIff (table.route type known stop answer)
      (table.accepts world.currentState.own type = true ∧ known world → condition) world := by
  apply leaves_route
  · intro notAnswered refusal
    exact (refused refusal).congr (by simp [notAnswered])
  · intro accepted valid
    exact (answered accepted).congr (by simp [accepted, valid])

/-- Where it is known when the program responds, it is known when what it prepares agrees. -/
theorem AgreesIff.agrees_iff {program : EStateM PyError (World ς κ ν μ γ ρ) PUnit}
    {answerable : Prop} (agrees : convention.AgreesIff program condition world)
    (responds : Responds program world ↔ answerable) :
    wp program (fun _ after => convention.Agrees after) (fun _ _ => True) world ↔
      (answerable → condition) := by
  rw [← responds]
  unfold AgreesIff Leaves wp at agrees
  unfold Responds returns wp
  cases ended : program world with
  | error exception after =>
      constructor
      · exact fun _ impossible => impossible.elim
      · exact fun _ => trivial
  | ok _ after =>
      rw [ended] at agrees
      constructor
      · exact fun holds _ => agrees.mp holds
      · intro holds response prepared
        have responds : after.currentState.nextV2gtpMsg.isSome = true := by rw [prepared]; rfl
        exact agrees.mpr (holds responds) response prepared

end

end StopConvention

end Iso15118.Secc
