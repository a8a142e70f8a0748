import Iso15118.Secc.SeccLoop

/-!
# What a method leaves

Rules for what holds when a method of a state returns. Most of them let go of what has happened
before: what a state prepares at the end depends on little of it.
-/

namespace Iso15118.Secc

open Effect
open Iso15118.Shared

variable {ς κ ν μ γ ρ α : Type}

/-- Where the program returns, the postcondition holds. -/
abbrev Leaves (program : EStateM PyError (World ς κ ν μ γ ρ) α)
    (post : World ς κ ν μ γ ρ → Prop) (world : World ς κ ν μ γ ρ) : Prop :=
  wp program (fun _ after => post after) (fun _ _ => True) world

section

variable {β : Type} {post : World ς κ ν μ γ ρ → Prop} {world : World ς κ ν μ γ ρ}

theorem leaves_throw (exception : PyError) :
    Leaves (throw exception : EStateM PyError (World ς κ ν μ γ ρ) α) post world :=
  trivial

/-- What comes before does not matter where the rest leaves the postcondition everywhere. -/
theorem leaves_bind {first : EStateM PyError (World ς κ ν μ γ ρ) β}
    {next : β → EStateM PyError (World ς κ ν μ γ ρ) α}
    (rest : ∀ value reached, Leaves (next value) post reached) :
    Leaves (first >>= next) post world := by
  unfold Leaves
  rw [wp_bind]
  exact wp_of_forall rest fun _ _ => trivial

/-- What comes before may also say something of what it returns and leaves. -/
theorem leaves_bind_of {first : EStateM PyError (World ς κ ν μ γ ρ) β}
    {next : β → EStateM PyError (World ς κ ν μ γ ρ) α} {held : β → World ς κ ν μ γ ρ → Prop}
    (before : wp first held (fun _ _ => True) world)
    (rest : ∀ value reached, held value reached → Leaves (next value) post reached) :
    Leaves (first >>= next) post world := by
  unfold Leaves
  rw [wp_bind]
  exact wp_mono rest (fun _ _ _ => trivial) before

/-- What comes before leaves a part of the world as it is. -/
theorem leaves_bind_same {δ : Type} {view : World ς κ ν μ γ ρ → δ}
    {first : EStateM PyError (World ς κ ν μ γ ρ) β}
    {next : β → EStateM PyError (World ς κ ν μ γ ρ) α} (keeps : Keeps (Same view) first)
    (rest : ∀ value reached, view reached = view world → Leaves (next value) post reached) :
    Leaves (first >>= next) post world :=
  leaves_bind_of
    (wp_mono (fun _ _ same => same) (fun _ _ _ => trivial) (keeps.related world)) rest

/-- What comes before leaves the attributes of the state as they are. -/
theorem leaves_bind_own {first : EStateM PyError (World ς κ ν μ γ ρ) β}
    {next : β → EStateM PyError (World ς κ ν μ γ ρ) α}
    (keeps : Keeps (Same fun world : World ς κ ν μ γ ρ => world.currentState.own) first)
    (rest : ∀ value reached, reached.currentState.own = world.currentState.own →
      Leaves (next value) post reached) :
    Leaves (first >>= next) post world :=
  leaves_bind_same keeps rest

theorem keeps_own_onEvData {program : EStateM PyError EVDataContext PUnit} :
    Keeps (Same fun world : World ς κ ν μ γ ρ => world.currentState.own) (onEvData program) :=
  keeps_zoom fun _ _ => rfl

theorem keeps_session_onEvData {program : EStateM PyError EVDataContext PUnit} :
    Keeps (Same fun world : World ς κ ν μ γ ρ => world.session) (onEvData program) :=
  keeps_zoom fun _ _ => rfl

theorem keeps_session_onEvseData {program : EStateM PyError EVSEDataContext PUnit} :
    Keeps (Same fun world : World ς κ ν μ γ ρ => world.session) (onEvseData program) :=
  keeps_zoom fun _ _ => rfl

theorem leaves_get_bind
    {next : World ς κ ν μ γ ρ → EStateM PyError (World ς κ ν μ γ ρ) α}
    (rest : Leaves (next world) post world) : Leaves (get >>= next) post world :=
  rest

theorem leaves_updateSession_bind {change : ς → ς}
    {next : PUnit → EStateM PyError (World ς κ ν μ γ ρ) α}
    (rest : Leaves (next ⟨⟩) post { world with session := change world.session }) :
    Leaves (updateSession change >>= next) post world :=
  rest

theorem leaves_setOwn_bind {own : κ} {next : PUnit → EStateM PyError (World ς κ ν μ γ ρ) α}
    (rest : Leaves (next ⟨⟩) post
      { world with currentState := { world.currentState with own := own } }) :
    Leaves (setOwn own >>= next) post world :=
  rest

theorem leaves_modify_bind {change : World ς κ ν μ γ ρ → World ς κ ν μ γ ρ}
    {next : PUnit → EStateM PyError (World ς κ ν μ γ ρ) α}
    (rest : Leaves (next ⟨⟩) post (change world)) :
    Leaves (modify change >>= next) post world :=
  rest

theorem leaves_ask_bind {call : γ} {answer : Except PyError β}
    {next : β → EStateM PyError (World ς κ ν μ γ ρ) α}
    (rest : ∀ value, answer = .ok value → Leaves (next value) post
      { world with calls := call :: world.calls }) :
    Leaves (ask call answer >>= next) post world := by
  unfold Leaves
  rw [wp_bind, wp_ask]
  exact ⟨rest, fun _ _ => trivial⟩

theorem leaves_ofExcept_bind {answer : Except PyError β}
    {next : β → EStateM PyError (World ς κ ν μ γ ρ) α}
    (rest : ∀ value, answer = .ok value → Leaves (next value) post world) :
    Leaves (Effect.ofExcept answer >>= next) post world := by
  unfold Leaves
  rw [wp_bind, wp_ofExcept]
  exact ⟨rest, fun _ _ => trivial⟩

/-- The attributes of the state are assigned at the end. -/
theorem leaves_setOwn {program : EStateM PyError (World ς κ ν μ γ ρ) PUnit} {own : κ}
    (leaves : Leaves program
      (fun after => post { after with currentState := { after.currentState with own := own } })
      world) :
    Leaves (program >>= fun _ => setOwn own) post world := by
  unfold Leaves
  rw [wp_bind]
  exact leaves

theorem leaves_tryCatch {program : EStateM PyError (World ς κ ν μ γ ρ) α}
    {handler : PyError → EStateM PyError (World ς κ ν μ γ ρ) α}
    (first : wp program (fun _ after => post after)
      (fun exception reached => Leaves (handler exception) post reached) world) :
    Leaves (tryCatch program handler) post world := by
  unfold Leaves
  rw [wp_tryCatch]
  exact first

/-- The handler leaves the postcondition wherever it is called. -/
theorem leaves_tryCatch_of {program : EStateM PyError (World ς κ ν μ γ ρ) α}
    {handler : PyError → EStateM PyError (World ς κ ν μ γ ρ) α}
    (first : Leaves program post world)
    (handles : ∀ exception reached, Leaves (handler exception) post reached) :
    Leaves (tryCatch program handler) post world :=
  leaves_tryCatch (wp_mono (fun _ _ holds => holds)
    (fun exception reached _ => handles exception reached) first)

theorem Leaves.mono {program : EStateM PyError (World ς κ ν μ γ ρ) α}
    {post' : World ς κ ν μ γ ρ → Prop} (leaves : Leaves program post world)
    (weaker : ∀ after, post after → post' after) : Leaves program post' world :=
  wp_mono (fun _ after holds => weaker after holds) (fun _ _ _ => trivial) leaves

theorem Leaves.and {program : EStateM PyError (World ς κ ν μ γ ρ) α}
    {post' : World ς κ ν μ γ ρ → Prop} (first : Leaves program post world)
    (second : Leaves program post' world) :
    Leaves program (fun after => post after ∧ post' after) world := by
  unfold Leaves wp at first second ⊢
  cases ended : program world with
  | ok value after =>
      rw [ended] at first second
      exact ⟨first, second⟩
  | error exception after => trivial

/-- What is kept is kept by what returns. -/
theorem leaves_of_keeps {relation : World ς κ ν μ γ ρ → World ς κ ν μ γ ρ → Prop}
    {program : EStateM PyError (World ς κ ν μ γ ρ) α} (keeps : Keeps relation program) :
    Leaves program (relation world) world :=
  wp_mono (fun _ _ related => related) (fun _ _ _ => trivial) (keeps.related world)

end

/-! ## Messages -/

section

variable {τ : Type} [DecidableEq ν] [DecidableEq τ]

/-- A request is refused, or answered by the state that the table says. -/
theorem leaves_route {table : StateTable κ ν τ} {type : τ}
    {known : World ς κ ν μ γ ρ → Prop} [DecidablePred known]
    {stop : Refusal → EStateM PyError (World ς κ ν μ γ ρ) PUnit}
    {answer : κ → EStateM PyError (World ς κ ν μ γ ρ) PUnit}
    {post : World ς κ ν μ γ ρ → Prop} {world : World ς κ ν μ γ ρ}
    (refused : ¬(table.accepts world.currentState.own type = true ∧ known world) →
      ∀ refusal, Leaves (stop refusal) post world)
    (answered : table.accepts world.currentState.own type = true → known world →
      Leaves (answer (table.answering world.currentState type).own) post
        { world with currentState := table.answering world.currentState type }) :
    Leaves (table.route type known stop answer) post world := by
  unfold Leaves StateTable.route wp
  dsimp only
  split_ifs with accepted valid
  · exact answered accepted valid
  · exact refused (fun both => valid both.2) .unknownSession
  · exact refused (fun both => accepted both.1) .sequenceError

/-- The object after a request of the type: the one that has answered, or a new one. -/
def StateTable.Rests (table : StateTable κ ν τ) (type : τ) (nextState : Option (NextState ν))
    (answered own : κ) : Prop :=
  nextState = none ∧ own = answered ∧ table.name answered = table.answeredBy type ∨
    ∃ name, nextState = some (.state name) ∧ own = table.new name

omit [DecidableEq ν] in
/-- An object that still waits for the first of its requests accepts no other one. -/
theorem StateTable.accepts_iff {table : StateTable κ ν τ} {own : κ} {type : τ} :
    table.accepts own type = true ↔
      type ∈ if table.expectFirst own then (table.expectedMsgTypes (table.name own)).take 1
        else table.expectedMsgTypes (table.name own) := by
  unfold StateTable.accepts Secc.accepts
  cases table.expectedMsgTypes (table.name own) with
  | nil => simp
  | cons first others => cases table.expectFirst own <;> simp

namespace SeccProtocol

variable {q M A : Type} {protocol : SeccProtocol ς κ ν μ γ ρ τ q M A}
  {session next : SECCSession ς κ ν μ γ ρ} {message : M} {answers : A} {response : μ}

/-- What processing a message leaves when the step sends something. -/
theorem leaves_of_sent {post : World ς κ ν μ γ ρ → Prop}
    (step : protocol.machine.Step session (some ⟨message, answers⟩) next)
    (sent : next.sent = response :: session.sent)
    (leaves : Leaves (protocol.processMessage answers message) post
      { session.world with calls := [] }) :
    ∃ reached, post reached ∧ reached.currentState.nextV2gtpMsg = some response ∧
      next.world.session = reached.session := by
  rcases step.sent_eq_or with none | ⟨_, reached, prepared, ⟨⟩, processed, made, sends⟩
  · rw [none] at sent
    exact absurd sent.symm (List.cons_ne_self _ _)
  · rw [sends] at sent
    obtain ⟨rfl, _⟩ := List.cons.inj sent
    change protocol.processMessage answers message { session.world with calls := [] } = _
      at processed
    obtain ⟨ended, reaches, same⟩ := session_of_step step
    have only : ended = reached := by
      rcases reaches with ⟨_, processed'⟩ | ⟨_, failed⟩
      · cases processed.symm.trans processed'
        rfl
      · cases processed.symm.trans failed
    rw [only] at same
    exact ⟨reached, post_of_eq_ok leaves processed, made, same⟩

theorem Answered.rests {req : q} {reached : World ς κ ν μ γ ρ}
    (answered : protocol.Answered session req answers reached response next)
    (resting : session.world.currentState.nextState = none) :
    protocol.guide.table.Rests (protocol.requestType req) reached.currentState.nextState
      reached.currentState.own next.world.currentState.own := by
  rcases answered.leads resting with ⟨stays, same, named⟩ | ⟨name, leads, same, _⟩
  · refine .inl ⟨stays, ?_, named⟩
    rw [same]
  · refine .inr ⟨name, leads, ?_⟩
    rw [same]

end SeccProtocol

end

end Iso15118.Secc
