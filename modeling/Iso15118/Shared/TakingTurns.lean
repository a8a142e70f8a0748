import Iso15118.Library.Network
import Iso15118.Shared.Conversation

/-!
# Both sides take turns

What both receive loops have sent, in whatever order they run: the responses are those to the
requests, one for one and in the same order. A session in which a message is missing is one that a
side has ended.
-/

namespace Iso15118.Shared

open Dialogue Transition

universe u

variable {ι κ ν A ι' κ' ν' A' : Type} {q r ω ω' : Type}

/-- A step that goes on has sent something. -/
theorem SessionStateMachine.Step.ended_of_silent {machine : SessionStateMachine ι κ ν q ω}
    {session next : CommSession q ω} {input : Option ι} (step : machine.Step session input next)
    (silent : next.sent = session.sent) : next.ended = true := by
  rw [← Bool.not_eq_false]
  intro goesOn
  obtain ⟨_, _, _, message, _, _, _, _, sent, _⟩ := step.continues goesOn
  rw [silent] at sent
  simp at sent

namespace Sides

/-- Every response is one to its request. A request is on its way, or a response is, or a side has
ended its session without sending another message. -/
inductive InTurn (responds : r → q → Prop) :
    Network (CommSession q ω) (CommSession r ω') q r → Prop where
  | asked {evcc : CommSession q ω} {secc : CommSession r ω'} {message : q} {answered : List q}
      (sent : evcc.sent = message :: answered) (pairs : List.Forall₂ responds secc.sent answered) :
      InTurn responds ⟨evcc, secc, [message], []⟩
  | answered {evcc : CommSession q ω} {secc : CommSession r ω'} {message : r} {older : List r}
      (sent : secc.sent = message :: older) (pairs : List.Forall₂ responds secc.sent evcc.sent) :
      InTurn responds ⟨evcc, secc, [], [message]⟩
  | evccEnds {evcc : CommSession q ω} {secc : CommSession r ω'} (ended : evcc.ended = true)
      (pairs : List.Forall₂ responds secc.sent evcc.sent) : InTurn responds ⟨evcc, secc, [], []⟩
  | seccEnds {evcc : CommSession q ω} {secc : CommSession r ω'} {message : q} {answered : List q}
      (ended : secc.ended = true) (sent : evcc.sent = message :: answered)
      (pairs : List.Forall₂ responds secc.sent answered) : InTurn responds ⟨evcc, secc, [], []⟩

variable {sides : Sides ι κ ν q ω A ι' κ' ν' r ω' A'} {responds : r → q → Prop}

/-- What the SECC sends for a request is a response to it. -/
def Responds (sides : Sides ι κ ν q ω A ι' κ' ν' r ω' A') (responds : r → q → Prop) : Prop :=
  ∀ secc message answers next response,
    sides.secc.Step secc (some (sides.toSecc message answers)) next →
      next.sent = response :: secc.sent → responds response message

theorem inTurn_serves (keeps : sides.Responds responds) {evcc : CommSession q ω}
    {secc next : CommSession r ω'} {message : q} {sends : Option r} {answers : A'}
    (step : sides.secc.Step secc (some (sides.toSecc message answers)) next)
    (sent : next.sent = sends.toList ++ secc.sent)
    (inTurn : InTurn responds ⟨evcc, secc, [message], []⟩) :
    InTurn responds ⟨evcc, next, [], sends.toList⟩ := by
  cases inTurn with
  | asked asks pairs =>
      cases sends with
      | none =>
          have same : next.sent = secc.sent := sent
          rw [← same] at pairs
          exact .seccEnds (step.ended_of_silent sent) asks pairs
      | some response =>
          refine .answered sent ?_
          rw [sent, asks]
          exact .cons (keeps secc message answers next response step sent) pairs

theorem inTurn_asks {evcc next : CommSession q ω} {secc : CommSession r ω'} {message : r}
    {sends : Option q} {answers : A}
    (step : sides.evcc.Step evcc (some (sides.toEvcc message answers)) next)
    (sent : next.sent = sends.toList ++ evcc.sent)
    (inTurn : InTurn responds ⟨evcc, secc, [], [message]⟩) :
    InTurn responds ⟨next, secc, sends.toList, []⟩ := by
  cases inTurn with
  | answered responded pairs =>
      cases sends with
      | none =>
          have same : next.sent = evcc.sent := sent
          rw [← same] at pairs
          exact .evccEnds (step.ended_of_silent sent) pairs
      | some request => exact .asked sent pairs

/-- Giving up waiting changes nothing of what has been sent. -/
theorem inTurn_evccWaits {evcc next : CommSession q ω} {secc : CommSession r ω'}
    {requests : List q} {responses : List r} (step : sides.evcc.Step evcc none next)
    (inTurn : InTurn responds ⟨evcc, secc, requests, responses⟩) :
    InTurn responds ⟨next, secc, requests, responses⟩ := by
  obtain ⟨_, rfl⟩ := step
  cases inTurn with
  | asked sent pairs => exact .asked sent pairs
  | answered sent pairs => exact .answered sent pairs
  | evccEnds _ pairs => exact .evccEnds rfl pairs
  | seccEnds ended sent pairs => exact .seccEnds ended sent pairs

theorem inTurn_seccWaits {evcc : CommSession q ω} {secc next : CommSession r ω'}
    {requests : List q} {responses : List r} (step : sides.secc.Step secc none next)
    (inTurn : InTurn responds ⟨evcc, secc, requests, responses⟩) :
    InTurn responds ⟨evcc, next, requests, responses⟩ := by
  obtain ⟨_, rfl⟩ := step
  cases inTurn with
  | asked sent pairs => exact .asked sent pairs
  | answered sent pairs => exact .answered sent pairs
  | evccEnds ended pairs => exact .evccEnds ended pairs
  | seccEnds _ sent pairs => exact .seccEnds rfl sent pairs

theorem inTurn_step (keeps : sides.Responds responds)
    {config next : Config (CommSession q ω) (CommSession r ω') q r} {party : Party}
    (step : sides.Step config party next) (inTurn : InTurn responds config.network) :
    InTurn responds next.network := by
  cases step with
  | serves taken =>
      obtain ⟨⟨answers, step⟩, sent⟩ := taken
      rw [network_ofResponse]
      exact inTurn_serves keeps step sent inTurn
  | asks taken =>
      obtain ⟨⟨answers, step⟩, sent⟩ := taken
      rw [network_ofRequest]
      exact inTurn_asks step sent inTurn
  | @clientWaits client next server mail waits =>
      cases mail <;> exact inTurn_evccWaits waits inTurn
  | @serverWaits client server next mail waits =>
      cases mail <;> exact inTurn_seccWaits waits inTurn

/-- Whatever the sides do after the first request, they take turns. -/
theorem inTurn_of_run (keeps : sides.Responds responds)
    {start : Config (CommSession q ω) (CommSession r ω') q r} {message : q}
    (mail : start.mail = .request message) (asked : start.client.sent = [message])
    (new : start.server.sent = []) {history : List Party}
    {reached : Network (CommSession q ω) (CommSession r ω') q r}
    (run : Run sides.parties.Moves start.network history reached) : InTurn responds reached := by
  obtain ⟨config, steps, rfl⟩ := run_moves_iff.mp run
  refine steps.invariant ?_ fun _ _ _ inTurn step => inTurn_step keeps step inTurn
  unfold Config.network
  rw [mail]
  exact .asked asked (new ▸ .nil)

/-- A conversation that comes to a request that strays, over a connection. -/
theorem exists_moves {strays : List q → Bool} {answers : A} {answers' : A'}
    {start : Config (CommSession q ω) (CommSession r ω') q r} {n : Nat}
    (refuses : (sides.receiveAll answers answers' start n).any (refusesNext strays) = true) :
    ∃ reached history message, Run sides.parties.Moves start.network history reached ∧
      reached.requests = [message] := by
  obtain ⟨config, history, message, run, mail, _⟩ := exists_strays refuses
  refine ⟨config.network, history, message, run_moves_iff.mpr ⟨config, run, rfl⟩, ?_⟩
  unfold Config.network
  rw [mail]

end Sides

end Iso15118.Shared
