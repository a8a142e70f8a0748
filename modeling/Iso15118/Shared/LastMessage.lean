import Iso15118.Shared.CommSession

/-!
# The last message of a receive loop

A state object keeps the message that it has prepared for as long as it is the current one, and an
iteration sends what is there. A state that prepares nothing for a message but stays the current
one lets its last message be sent again.
-/

namespace Iso15118.Shared

open Effect Transition

variable {ι κ ν μ ω : Type}

namespace SessionStateMachine

variable (machine : SessionStateMachine ι κ ν μ ω)

/-- The message that the current state has prepared before. -/
def prepared (session : CommSession μ ω) : Option μ :=
  (machine.currentState session.world).nextV2gtpMsg

/-- An iteration that goes on sends a message that is made for the one received. One that ends the
session sends nothing, or once more the last message, which the current state has prepared. -/
inductive SendsOnce (made : ω → ι → μ → Prop) (session : CommSession μ ω) (input : Option ι)
    (next : CommSession μ ω) : Prop where
  | makes (received : ι) (message : μ) (taken : input = some received)
      (goesOn : next.ended = false) (makes : made session.world received message)
      (sent : next.sent = message :: session.sent)
  | silent (ended : next.ended = true) (sent : next.sent = session.sent)
      (nothing : machine.prepared session = none ∨ ∀ received, input = some received →
        ∃ exception after, machine.processMessage received session.world = .error exception after)
  | repeats (received : ι) (after : ω) (message : μ) (older : List μ)
      (taken : input = some received) (ended : next.ended = true)
      (processed : machine.processMessage received session.world = .ok ⟨⟩ after)
      (prepared : machine.prepared session = some message)
      (last : session.sent = message :: older) (sent : next.sent = message :: session.sent)

/-- A side that reports nothing about its states, the new ones of which have prepared nothing. -/
structure Unreported : Prop where
  updateStateInfo : ∀ received world, machine.updateStateInfo received world = .ok ⟨⟩ world
  construct : ∀ name world,
    (machine.currentState (machine.construct name world)).nextV2gtpMsg = none

/-- What processing a message leaves: a message for it and a state that waits, or what had been
prepared, if anything, and no such state. -/
def Prepares (made : ω → ι → μ → Prop) (received : ι) (world after : ω) : Prop :=
  (∃ message, (machine.currentState after).nextV2gtpMsg = some message ∧
      made world received message ∧
      (machine.currentState after).nextState ≠ some .terminate ∧
      (machine.currentState after).nextState ≠ some .pause) ∨
    (machine.currentState after).nextV2gtpMsg = (machine.currentState world).nextV2gtpMsg ∧
      ((machine.currentState after).nextState = some .terminate ∨
        (machine.currentState world).nextV2gtpMsg = none)

variable {machine} {made : ω → ι → μ → Prop} {session next : CommSession μ ω} {input : Option ι}

/-- A state that stops has prepared nothing. -/
theorem prepares_of_stopped {received : ι} {world after : ω}
    (stopped : machine.currentState after =
      { machine.currentState world with nextState := some .terminate }) :
    machine.Prepares made received world after := by
  unfold Prepares
  rw [stopped]
  exact .inr ⟨rfl, .inl rfl⟩

variable (machine) in
theorem goToNextState_ended (sent : List μ) (world : ω) :
    (machine.goToNextState sent world).ended = true ↔
      (machine.currentState world).nextState = some .terminate ∨
        (machine.currentState world).nextState = some .pause := by
  unfold goToNextState
  split <;> simp [*]

/-- What is prepared has been sent last. -/
theorem prepared_of_run (unreported : machine.Unreported) {start : CommSession μ ω}
    {history : List (Option ι)} (fresh : machine.prepared start = none)
    (run : Run machine.Step start history session) (goesOn : session.ended = false) {message : μ}
    (prepares : machine.prepared session = some message) :
    ∃ older, session.sent = message :: older := by
  cases run with
  | start =>
      rw [fresh] at prepares
      cases prepares
  | step past last =>
      obtain ⟨_, world, informed, sends, _, _, prepared, updated, sent, leads⟩ :=
        last.continues goesOn
      rw [unreported.updateStateInfo] at updated
      cases updated
      unfold SessionStateMachine.prepared at prepares
      obtain ⟨_, same⟩ | ⟨name, _, same⟩ := leads
      · rw [same, prepared] at prepares
        cases prepares
        exact ⟨_, sent⟩
      · rw [same, unreported.construct] at prepares
        cases prepares

/-- An iteration sends once what processing its message prepares. -/
theorem sendsOnce_of_prepares (unreported : machine.Unreported)
    (last : ∀ message, machine.prepared session = some message →
      ∃ older, session.sent = message :: older)
    (step : machine.Step session input next)
    (prepares : ∀ received after, input = some received →
      machine.processMessage received session.world = .ok ⟨⟩ after →
        machine.Prepares made received session.world after) :
    machine.SendsOnce made session input next := by
  obtain ⟨_, same⟩ := step
  unfold rcv at same
  cases input with
  | none =>
      rw [same]
      exact .silent rfl rfl (.inr fun _ taken => by cases taken)
  | some received =>
      cases processed : machine.processMessage received session.world with
      | error exception after =>
          simp only [processed] at same
          rw [same]
          refine .silent rfl rfl (.inr fun _ taken => ?_)
          cases taken
          exact ⟨exception, after, processed⟩
      | ok result after =>
          have kept := prepares received after rfl processed
          cases ready : (machine.currentState after).nextV2gtpMsg with
          | none =>
              simp only [processed, ready] at same
              rw [same]
              refine .silent rfl rfl (.inl ?_)
              obtain ⟨message, made, _⟩ | ⟨before, _⟩ := kept
              · cases ready.symm.trans made
              · exact before.symm.trans ready
          | some message =>
              simp only [processed, ready, unreported.updateStateInfo] at same
              have sent : next.sent = message :: session.sent := by
                rw [same, goToNextState_sent]
              have ends := machine.goToNextState_ended (message :: session.sent) after
              rw [← same] at ends
              obtain ⟨_, made, makes, waits⟩ | ⟨before, stops⟩ := kept
              · cases ready.symm.trans made
                refine .makes received message rfl ?_ makes sent
                rw [Bool.eq_false_iff, Ne, ends]
                exact not_or.mpr waits
              · have prepared : machine.prepared session = some message := before.symm.trans ready
                obtain ⟨older, lastSent⟩ := last message prepared
                obtain stops | nothing := stops
                · exact .repeats received after message older rfl (ends.mpr (.inl stops)) processed
                    prepared lastSent sent
                · cases nothing.symm.trans prepared

/-- Every iteration of a run does that. -/
theorem sendsOnce_of_run (unreported : machine.Unreported) {start : CommSession μ ω}
    {history : List (Option ι)} (fresh : machine.prepared start = none)
    (run : Run machine.Step start history session) (step : machine.Step session input next)
    (prepares : ∀ received after,
      machine.processMessage received session.world = .ok ⟨⟩ after →
        machine.Prepares made received session.world after) :
    machine.SendsOnce made session input next :=
  sendsOnce_of_prepares unreported (fun _ => prepared_of_run unreported fresh run step.1) step
    fun received after _ => prepares received after

end SessionStateMachine

end Iso15118.Shared
