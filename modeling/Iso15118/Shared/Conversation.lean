import Iso15118.Library.Dialogue
import Iso15118.Shared.CommSession

/-!
# Conversations of both sides

The receive loops of an EVCC and of a SECC, with the message between them. Each side processes a
message with whatever its environment answers, and may give up waiting at any time. Once a side
has ended its session, it takes no more messages.
-/

namespace Iso15118.Shared

open Dialogue Transition

/-- The state machines of both sides. A message of the one is an input of the other, with what the
environment of that side answers. -/
structure Sides (ι κ ν q ω A ι' κ' ν' r ω' A' : Type) where
  evcc : SessionStateMachine ι κ ν q ω
  secc : SessionStateMachine ι' κ' ν' r ω'
  toEvcc : r → A → ι
  toSecc : q → A' → ι'

variable {ι κ ν q ω A ι' κ' ν' r ω' A' : Type}

namespace Sides

variable (sides : Sides ι κ ν q ω A ι' κ' ν' r ω' A')

/-- The EVCC asks, the SECC answers. -/
def parties : Parties (CommSession q ω) (CommSession r ω') q r where
  client session message next sends :=
    (∃ answers, sides.evcc.Step session (some (sides.toEvcc message answers)) next) ∧
      next.sent = sends.toList ++ session.sent
  server session message next sends :=
    (∃ answers, sides.secc.Step session (some (sides.toSecc message answers)) next) ∧
      next.sent = sends.toList ++ session.sent
  clientWaits session next := sides.evcc.Step session none next
  serverWaits session next := sides.secc.Step session none next

/-- A step of the conversation. -/
abbrev Step := sides.parties.Step

/-- What holds of two sides that go on while a request is on its way, what the EVCC expects of a
response, and what holds of two sides that go on while a response is on its way. -/
structure Agreement (q ω r ω' : Type) where
  asked : CommSession q ω → CommSession r ω' → q → Prop
  expected : CommSession q ω → r → Prop
  answered : CommSession q ω → CommSession r ω' → r → Prop

namespace Agreement

variable (agreement : Agreement q ω r ω')

/-- Of a side that has ended its session, nothing is said. -/
def coupling : Coupling (CommSession q ω) (CommSession r ω') q r where
  asked evcc secc message :=
    evcc.ended = false → secc.ended = false → agreement.asked evcc secc message
  answered evcc secc message :=
    evcc.ended = false → agreement.expected evcc message ∧
      (secc.ended = false → agreement.answered evcc secc message)

/-- A side that receives a message keeps the agreement, as long as both go on. -/
structure Kept : Prop where
  serves : ∀ evcc secc message answers next response,
    evcc.ended = false → agreement.asked evcc secc message →
      sides.secc.Step secc (some (sides.toSecc message answers)) next →
        next.sent = response :: secc.sent →
          agreement.expected evcc response ∧
            (next.ended = false → agreement.answered evcc next response)
  asks : ∀ evcc secc message answers next request,
    agreement.expected evcc message → agreement.answered evcc secc message →
      sides.evcc.Step evcc (some (sides.toEvcc message answers)) next →
        next.sent = request :: evcc.sent → next.ended = false →
          agreement.asked next secc request

variable {sides agreement}

theorem Kept.coupling (kept : agreement.Kept sides) : agreement.coupling.Kept sides.parties where
  serves := by
    rintro evcc secc message next response asked ⟨⟨answers, step⟩, sent⟩ evccGoesOn
    exact kept.serves evcc secc message answers next response evccGoesOn
      (asked evccGoesOn step.1) step sent
  asks := by
    rintro evcc secc message next request answered ⟨⟨answers, step⟩, sent⟩ goesOn seccGoesOn
    obtain ⟨expected, holds⟩ := answered step.1
    exact kept.asks evcc secc message answers next request expected (holds seccGoesOn) step sent
      goesOn
  clientWaits := by
    rintro evcc next ⟨_, rfl⟩
    exact ⟨fun _ _ _ => nofun, fun _ _ _ => nofun⟩
  serverWaits := by
    rintro secc next ⟨_, rfl⟩
    refine ⟨fun _ _ _ _ => nofun, ?_⟩
    intro evcc message answered goesOn
    exact ⟨(answered goesOn).1, nofun⟩

/-- The agreement holds in all of a conversation that starts with it. -/
theorem Kept.run (kept : agreement.Kept sides)
    {start config : Config (CommSession q ω) (CommSession r ω') q r} {history : List Party}
    (initial : agreement.coupling.Holds start) (run : Run sides.Step start history config) :
    agreement.coupling.Holds config :=
  kept.coupling.run initial run

end Agreement

/-! ## Conversations in which nobody waits in vain -/

/-- What an iteration has sent. -/
def newest {μ : Type} (before after : List μ) : Option μ :=
  if after.length = before.length then none else after.head?

/-- The message that is on its way is received. Each environment always answers the same. -/
def receive (answers : A) (answers' : A')
    (config : Config (CommSession q ω) (CommSession r ω') q r) :
    Option (Config (CommSession q ω) (CommSession r ω') q r) :=
  match config.mail with
  | .none => none
  | .request message =>
      if config.server.ended then none
      else
        let next := sides.secc.rcv config.server (some (sides.toSecc message answers'))
        some ⟨config.client, next, .ofResponse (newest config.server.sent next.sent)⟩
  | .response message =>
      if config.client.ended then none
      else
        let next := sides.evcc.rcv config.client (some (sides.toEvcc message answers))
        some ⟨next, config.server, .ofRequest (newest config.client.sent next.sent)⟩

/-- So many messages are received. -/
def receiveAll (answers : A) (answers' : A')
    (config : Config (CommSession q ω) (CommSession r ω') q r) :
    Nat → Option (Config (CommSession q ω) (CommSession r ω') q r)
  | 0 => some config
  | n + 1 => (receiveAll answers answers' config n).bind (sides.receive answers answers')

variable {sides}

theorem sent_eq_newest {κ ν μ ω ι : Type} {machine : SessionStateMachine ι κ ν μ ω}
    {session next : CommSession μ ω} {input : Option ι}
    (step : machine.Step session input next) :
    next.sent = (newest session.sent next.sent).toList ++ session.sent := by
  unfold newest
  rcases step.sent_eq_or with same | ⟨_, _, message, _, _, _, sent⟩
  · rw [if_pos (by rw [same]), same]
    rfl
  · rw [if_neg (by simp [sent]), sent]
    rfl

theorem step_of_receive {answers : A} {answers' : A'}
    {config next : Config (CommSession q ω) (CommSession r ω') q r}
    (receives : sides.receive answers answers' config = some next) :
    ∃ party, sides.Step config party next := by
  rcases config with ⟨client, server, mail⟩
  cases mail with
  | none => cases receives
  | request message =>
      unfold receive at receives
      dsimp only at receives
      split at receives
      · cases receives
      next goesOn =>
        cases receives
        have step : sides.secc.Step server (some (sides.toSecc message answers'))
            (sides.secc.rcv server (some (sides.toSecc message answers'))) :=
          ⟨Bool.eq_false_iff.mpr goesOn, rfl⟩
        exact ⟨.server, .serves ⟨⟨_, step⟩, sent_eq_newest step⟩⟩
  | response message =>
      unfold receive at receives
      dsimp only at receives
      split at receives
      · cases receives
      next goesOn =>
        cases receives
        have step : sides.evcc.Step client (some (sides.toEvcc message answers))
            (sides.evcc.rcv client (some (sides.toEvcc message answers))) :=
          ⟨Bool.eq_false_iff.mpr goesOn, rfl⟩
        exact ⟨.client, .asks ⟨⟨_, step⟩, sent_eq_newest step⟩⟩

theorem run_of_receiveAll {answers : A} {answers' : A'}
    {start config : Config (CommSession q ω) (CommSession r ω') q r} {n : Nat}
    (received : sides.receiveAll answers answers' start n = some config) :
    ∃ history, Run sides.Step start history config := by
  induction n generalizing config with
  | zero =>
      cases received
      exact ⟨[], .start⟩
  | succ n inductionHypothesis =>
      obtain ⟨before, past, last⟩ := Option.bind_eq_some_iff.mp received
      obtain ⟨history, run⟩ := inductionHypothesis past
      obtain ⟨party, step⟩ := step_of_receive last
      exact ⟨party :: history, .step run step⟩

/-- Both sides go on, and the request that is on its way strays. -/
def refusesNext (strays : List q → Bool)
    (config : Config (CommSession q ω) (CommSession r ω') q r) : Bool :=
  match config.mail with
  | .request _ => !config.client.ended && !config.server.ended && strays config.client.sent
  | _ => false

/-- A conversation that comes to a request that strays. -/
theorem exists_strays {strays : List q → Bool} {answers : A} {answers' : A'}
    {start : Config (CommSession q ω) (CommSession r ω') q r} {n : Nat}
    (refuses : (sides.receiveAll answers answers' start n).any (refusesNext strays) = true) :
    ∃ reached history message, Run sides.Step start history reached ∧
      reached.mail = .request message ∧ reached.client.ended = false ∧
      reached.server.ended = false ∧ strays reached.client.sent = true := by
  obtain ⟨reached, received, refuses⟩ := (Option.any_eq_true _ _).mp refuses
  obtain ⟨history, run⟩ := run_of_receiveAll received
  unfold refusesNext at refuses
  cases mail : reached.mail with
  | none => simp [mail] at refuses
  | response message => simp [mail] at refuses
  | request message =>
      simp only [mail, Bool.and_eq_true, Bool.not_eq_true'] at refuses
      obtain ⟨⟨clientGoesOn, serverGoesOn⟩, strays⟩ := refuses
      exact ⟨reached, history, message, run, mail, clientGoesOn, serverGoesOn, strays⟩

end Sides

end Iso15118.Shared
