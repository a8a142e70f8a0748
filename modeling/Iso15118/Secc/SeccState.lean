import Iso15118.Secc.World

/-!
# Checking a request and handing it over

`check_msg` of `secc/states/secc_state.py` for one protocol, and what a state does
after it. A state answers the request of its own class and hands the others to a
new object of their class, which checks them again. Which class that is, and what
the states expect, is a table.
-/

namespace Iso15118.Secc

open Effect
open Iso15118.Shared

/-! ## The check -/

/-- The loop of `check_msg` over the expected types: whether the type of the
message is one of them, or has to be the first. -/
def accepts {τ : Type} [DecidableEq τ] (expectedMsgTypes : List τ) (expectFirst : Bool)
    (type : τ) : Bool :=
  match expectedMsgTypes with
  | [] => false
  | first :: others => type = first || (!expectFirst && others.contains type)

theorem mem_of_accepts {τ : Type} [DecidableEq τ] {expectedMsgTypes : List τ}
    {expectFirst : Bool} {type : τ}
    (accepted : accepts expectedMsgTypes expectFirst type = true) : type ∈ expectedMsgTypes := by
  cases expectedMsgTypes with
  | nil => cases accepted
  | cons first others =>
      simp only [accepts, Bool.or_eq_true, decide_eq_true_eq, Bool.and_eq_true,
        List.contains_iff_mem] at accepted
      rcases accepted with same | ⟨_, listed⟩
      · rw [same]
        exact List.mem_cons_self
      · exact List.mem_cons_of_mem _ listed

/-- Why a request is refused. -/
inductive Refusal where
  | sequenceError
  | unknownSession
  deriving DecidableEq

/-- `check_msg`, on a message whose type is accepted or not. Nothing is returned
once the state machine has been stopped. -/
def checkMsg {ε ω m : Type} (message : m) (accepted : Bool) (known : ω → Prop)
    [DecidablePred known] (stop : Refusal → EStateM ε ω PUnit) : EStateM ε ω (Option m) := do
  let world ← get
  if accepted then
    if known world then
      return some message
    else do
      stop .unknownSession
      return none
  else do
    stop .sequenceError
    return none

/-- What follows the check of a request that is refused is what a state does with
`None`. -/
theorem bind_checkMsg {ε ω m : Type} {message : m} {accepted : Bool} {known : ω → Prop}
    [DecidablePred known] {stop : Refusal → EStateM ε ω PUnit}
    {next : Option m → EStateM ε ω PUnit} (ignored : next none = pure ⟨⟩) (world : ω) :
    (checkMsg message accepted known stop >>= next) world =
      if accepted then
        if known world then next (some message) world else stop .unknownSession world
      else stop .sequenceError world := by
  have stops : ∀ refusal, ((stop refusal >>= fun _ => pure none) >>= next) world =
      stop refusal world := by
    intro refusal
    simp only [bind, EStateM.bind, pure, EStateM.pure]
    cases stop refusal world with
    | error exception reached => rfl
    | ok result reached =>
        simp only [ignored]
        rfl
  unfold checkMsg
  cases accepted with
  | false => exact stops .sequenceError
  | true =>
      by_cases known' : known world
      · simp only [bind_assoc, Effect.get_bind_apply, known', ↓reduceIte, pure_bind]
      · rw [if_pos rfl, if_neg known', ← stops .unknownSession]
        simp only [bind_assoc, Effect.get_bind_apply, known', ↓reduceIte]

/-! ## The table -/

/-- What the states of a protocol expect, and which class answers a request.
`expectFirst` says that an object still waits for the request of its own class. -/
structure StateTable (κ ν τ : Type) where
  name : κ → ν
  new : ν → κ
  expectedMsgTypes : ν → List τ
  expectFirst : κ → Bool
  answeredBy : τ → ν

namespace StateTable

variable {κ ν μ τ : Type} (table : StateTable κ ν τ)

def accepts [DecidableEq τ] (own : κ) (type : τ) : Bool :=
  Secc.accepts (table.expectedMsgTypes (table.name own)) (table.expectFirst own) type

/-- The current object when the request is answered: the one that received it, or
the new one that it is handed to. -/
def answering [DecidableEq ν] (object : StateObject κ ν μ) (type : τ) : StateObject κ ν μ :=
  if table.name object.own = table.answeredBy type then object
  else { own := table.new (table.answeredBy type) }

variable {ς γ ρ : Type}

/-- What the table says that happens to a request. -/
def route [DecidableEq ν] [DecidableEq τ] (type : τ) (known : World ς κ ν μ γ ρ → Prop)
    [DecidablePred known] (stop : Refusal → EStateM PyError (World ς κ ν μ γ ρ) PUnit)
    (answer : κ → EStateM PyError (World ς κ ν μ γ ρ) PUnit) (world : World ς κ ν μ γ ρ) :
    EStateM.Result PyError (World ς κ ν μ γ ρ) PUnit :=
  if table.accepts world.currentState.own type then
    if known world then
      answer (table.answering world.currentState type).own
        { world with currentState := table.answering world.currentState type }
    else
      stop .unknownSession world
  else
    stop .sequenceError world

variable {table}

/-- A state follows the table if it checks what the table says, answers the request
of its own class and hands over the others. -/
theorem checked_eq_route [DecidableEq ν] [DecidableEq τ] {m : Type} {message : m} {type : τ}
    {known : World ς κ ν μ γ ρ → Prop} [DecidablePred known]
    {stop : Refusal → EStateM PyError (World ς κ ν μ γ ρ) PUnit}
    {answer : κ → EStateM PyError (World ς κ ν μ γ ρ) PUnit}
    {next : Option m → EStateM PyError (World ς κ ν μ γ ρ) PUnit}
    {world : World ς κ ν μ γ ρ} {own : κ} (current : world.currentState.own = own)
    (ignored : next none = pure ⟨⟩)
    (answered : table.name own = table.answeredBy type →
      next (some message) world = answer own world)
    (handedOver : table.name own ≠ table.answeredBy type → known world →
      type ∈ table.expectedMsgTypes (table.name own) →
      next (some message) world = answer (table.new (table.answeredBy type))
        { world with currentState := { own := table.new (table.answeredBy type) } }) :
    (checkMsg message (table.accepts own type) known stop >>= next) world =
      table.route type known stop answer world := by
  rw [bind_checkMsg ignored]
  unfold route
  rw [current]
  by_cases accepted : table.accepts own type = true
  · rw [if_pos accepted, if_pos accepted]
    by_cases known' : known world
    · rw [if_pos known', if_pos known']
      unfold answering
      rw [current]
      by_cases same : table.name own = table.answeredBy type
      · rw [if_pos same, current]
        exact answered same
      · rw [if_neg same]
        exact handedOver same known' (mem_of_accepts accepted)
    · rw [if_neg known', if_neg known']
  · rw [if_neg accepted, if_neg accepted]

/-- A request that is accepted and known is responded to by the state that answers it,
any other by the refusal. -/
theorem responds_route [DecidableEq ν] [DecidableEq τ] {type : τ}
    {known : World ς κ ν μ γ ρ → Prop} [DecidablePred known]
    {stop : Refusal → EStateM PyError (World ς κ ν μ γ ρ) PUnit}
    {answer : κ → EStateM PyError (World ς κ ν μ γ ρ) PUnit} {world : World ς κ ν μ γ ρ}
    {valid : Prop} (refused : ∀ refusal, Responds (stop refusal) world ↔ valid) :
    Responds (table.route type known stop answer) world ↔
      if table.accepts world.currentState.own type = true ∧ known world then
        Responds (answer (table.answering world.currentState type).own)
          { world with currentState := table.answering world.currentState type }
      else
        valid := by
  by_cases accepted : table.accepts world.currentState.own type = true
  · by_cases known' : known world
    · rw [if_pos ⟨accepted, known'⟩]
      apply returns_congr
      rw [route, if_pos accepted, if_pos known']
    · rw [if_neg (fun both => known' both.2), ← refused .unknownSession]
      apply returns_congr
      rw [route, if_pos accepted, if_neg known']
  · rw [if_neg (fun both => accepted both.1), ← refused .sequenceError]
    apply returns_congr
    rw [route, if_neg accepted]

end StateTable

end Iso15118.Secc
