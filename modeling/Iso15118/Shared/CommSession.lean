import Iso15118.Library.Effect
import Iso15118.Library.Run
import Iso15118.Shared.Exceptions
import Iso15118.Shared.States

/-!
# The receive loop

`rcv_loop` of `shared/comm_session.py`, which both sides run in every protocol.
What differs, the processing of a message by the current state, is a parameter.
-/

namespace Iso15118.Shared

open Effect Transition

/-- The parts of `SessionStateMachine` that depend on the side and the protocol.
An input of type `ι` is a received message with all that the environment answers
while it is processed. `ω` is all that processing it may change. -/
structure SessionStateMachine (ι κ ν μ ω : Type) where
  processMessage : ι → EStateM PyError ω PUnit
  currentState : ω → StateObject κ ν μ
  /-- The constructor of a class, which makes the new object the current one. -/
  construct : ν → ω → ω
  updateStateInfo : ι → EStateM PyError ω PUnit

/-- A session with the messages that it has sent, the newest first. `ended` means
that the receive loop has returned. -/
structure CommSession (μ ω : Type) where
  world : ω
  sent : List μ := []
  ended : Bool := false

variable {ι κ ν μ ω : Type}

namespace SessionStateMachine

variable (machine : SessionStateMachine ι κ ν μ ω)

/-- The end of an iteration: stop, or `go_to_next_state`. -/
def goToNextState (sent : List μ) (world : ω) : CommSession μ ω :=
  match (machine.currentState world).nextState with
  | none => { world := world, sent := sent }
  | some (.state name) => { world := machine.construct name world, sent := sent }
  | some .terminate => { world := world, sent := sent, ended := true }
  | some .pause => { world := world, sent := sent, ended := true }

/-- One iteration of `rcv_loop`. There is no input when the time is up, the peer
closes the connection, or what it sends cannot be decoded. A state that has
prepared no message either terminates or is reported as faulty: the loop returns
either way. -/
def rcv (session : CommSession μ ω) (input : Option ι) : CommSession μ ω :=
  match input with
  | none => { session with ended := true }
  | some received =>
      match machine.processMessage received session.world with
      | .error _ world => { session with world := world, ended := true }
      | .ok _ world =>
          match (machine.currentState world).nextV2gtpMsg with
          | none => { session with world := world, ended := true }
          | some message =>
              match machine.updateStateInfo received world with
              | .error _ world =>
                  { world := world, sent := message :: session.sent, ended := true }
              | .ok _ world => machine.goToNextState (message :: session.sent) world

/-- The notification that an iteration puts into the queue of the session handler, if
the loop returns: that of the state that has ended the session, or one that reports a
failure. `stopReason` is the session variable of that name. -/
def stopNotification (stopReason : ω → Option StopNotification) (world : ω)
    (input : Option ι) : Option StopNotification :=
  match input with
  | none => some { successful := false }
  | some received =>
      match machine.processMessage received world with
      | .error _ _ => some { successful := false }
      | .ok _ world =>
          match (machine.currentState world).nextV2gtpMsg with
          | none =>
              match (machine.currentState world).nextState with
              | some .terminate => some ((stopReason world).getD { successful := false })
              | _ => some { successful := false }
          | some _ =>
              match machine.updateStateInfo received world with
              | .error _ _ => some { successful := false }
              | .ok _ world =>
                  match (machine.currentState world).nextState with
                  | none => none
                  | some (.state _) => none
                  | some .terminate => some ((stopReason world).getD { successful := false })
                  | some .pause => some ((stopReason world).getD { successful := false })

/-- An iteration of a loop that has not returned. -/
def Step (session : CommSession μ ω) (input : Option ι) (next : CommSession μ ω) : Prop :=
  session.ended = false ∧ next = machine.rcv session input

/-- The session after the inputs of a history. -/
def rcvAll (start : CommSession μ ω) : List (Option ι) → CommSession μ ω
  | [] => start
  | input :: past => machine.rcv (rcvAll start past) input

variable {machine}

theorem step_rcvAll {start : CommSession μ ω} {past : List (Option ι)}
    (goesOn : (machine.rcvAll start past).ended = false) (input : Option ι) :
    machine.Step (machine.rcvAll start past) input (machine.rcvAll start (input :: past)) :=
  ⟨goesOn, rfl⟩

/-- The inputs of a run say where it has led. -/
theorem eq_rcvAll_of_run {start session : CommSession μ ω} {history : List (Option ι)}
    (run : Run machine.Step start history session) : session = machine.rcvAll start history := by
  induction run with
  | start => rfl
  | step past last ih =>
      rw [last.2, ih]
      rfl

/-- A run of a loop that goes on is continued by any input. -/
theorem run_rcvAll_cons {start : CommSession μ ω} {past : List (Option ι)} {input : Option ι}
    (run : Run machine.Step start past (machine.rcvAll start past))
    (goesOn : (machine.rcvAll start past).ended = false) :
    Run machine.Step start (input :: past) (machine.rcvAll start (input :: past)) :=
  .step run (step_rcvAll goesOn input)

/-- All steps of a run go on that leads to a session whose loop has not returned. -/
theorem run_goingOn {step : CommSession μ ω → Option ι → CommSession μ ω → Prop}
    (only : ∀ session input next, step session input next → session.ended = false)
    {start session : CommSession μ ω} {history : List (Option ι)}
    (run : Run step start history session) (goesOn : session.ended = false) :
    Run (Restrict step fun _ _ next => next.ended = false) start history session := by
  induction run with
  | start => exact .start
  | step past last ih => exact .step (ih (only _ _ _ last)) ⟨last, goesOn⟩

/-- The loop has not returned before the last input of the history. -/
def GoesOn (machine : SessionStateMachine ι κ ν μ ω) (start : CommSession μ ω) :
    List (Option ι) → Prop
  | [] => True
  | _ :: past => machine.GoesOn start past ∧ (machine.rcvAll start past).ended = false

instance decidableGoesOn (machine : SessionStateMachine ι κ ν μ ω) (start : CommSession μ ω) :
    ∀ history, Decidable (machine.GoesOn start history)
  | [] => inferInstanceAs (Decidable True)
  | _ :: past =>
      have := decidableGoesOn machine start past
      inferInstanceAs (Decidable (_ ∧ _))

theorem run_of_goesOn {start : CommSession μ ω} {history : List (Option ι)}
    (goesOn : machine.GoesOn start history) :
    Run machine.Step start history (machine.rcvAll start history) := by
  induction history with
  | nil => exact .start
  | cons input past ih => exact run_rcvAll_cons (ih goesOn.1) goesOn.2

/-- Where a loop goes on, the message was processed and answered, and the current
state did not end the session. -/
theorem Step.continues {session next : CommSession μ ω} {input : Option ι}
    (step : machine.Step session input next) (goesOn : next.ended = false) :
    ∃ received world informed message, input = some received ∧
      machine.processMessage received session.world = .ok ⟨⟩ world ∧
      (machine.currentState world).nextV2gtpMsg = some message ∧
      machine.updateStateInfo received world = .ok ⟨⟩ informed ∧
      next.sent = message :: session.sent ∧
      ((machine.currentState informed).nextState = none ∧ next.world = informed ∨
        ∃ name, (machine.currentState informed).nextState = some (.state name) ∧
          next.world = machine.construct name informed) := by
  rcases step with ⟨_, rfl⟩
  cases input with
  | none => cases goesOn
  | some received =>
      unfold rcv at goesOn ⊢
      cases processed : machine.processMessage received session.world with
      | error exception world =>
          simp only [processed] at goesOn
          cases goesOn
      | ok result world =>
          cases prepared : (machine.currentState world).nextV2gtpMsg with
          | none =>
              simp only [processed, prepared] at goesOn
              cases goesOn
          | some message =>
              cases updated : machine.updateStateInfo received world with
              | error exception informed =>
                  simp only [processed, prepared, updated] at goesOn
                  cases goesOn
              | ok result informed =>
                  simp only [processed, prepared, updated] at goesOn ⊢
                  refine ⟨received, world, informed, message, rfl, processed, prepared, updated, ?_⟩
                  unfold goToNextState at goesOn ⊢
                  cases followed : (machine.currentState informed).nextState with
                  | none => exact ⟨rfl, .inl ⟨rfl, rfl⟩⟩
                  | some nextState =>
                      cases nextState with
                      | state name => exact ⟨rfl, .inr ⟨name, rfl, rfl⟩⟩
                      | terminate =>
                          simp only [followed] at goesOn
                          cases goesOn
                      | pause =>
                          simp only [followed] at goesOn
                          cases goesOn

theorem goToNextState_sent (sent : List μ) (world : ω) :
    (machine.goToNextState sent world).sent = sent := by
  unfold goToNextState
  split <;> rfl

/-- A step sends at most the message that processing its input has prepared. -/
theorem Step.sent_eq_or {session next : CommSession μ ω} {input : Option ι}
    (step : machine.Step session input next) :
    next.sent = session.sent ∨
      ∃ received world message, input = some received ∧
        machine.processMessage received session.world = .ok ⟨⟩ world ∧
        (machine.currentState world).nextV2gtpMsg = some message ∧
        next.sent = message :: session.sent := by
  rcases step with ⟨_, rfl⟩
  cases input with
  | none => exact .inl rfl
  | some received =>
      unfold rcv
      dsimp only
      split
      · exact .inl rfl
      next world processed =>
        split
        · exact .inl rfl
        next message prepared =>
          refine .inr ⟨received, world, message, rfl, processed, prepared, ?_⟩
          split
          · rfl
          · exact goToNextState_sent _ _

/-- What has been prepared when the message is processed is sent. -/
theorem Step.sends {session next : CommSession μ ω} {received : ι} {world : ω} {message : μ}
    (step : machine.Step session (some received) next)
    (processed : machine.processMessage received session.world = .ok ⟨⟩ world)
    (prepared : (machine.currentState world).nextV2gtpMsg = some message) :
    next.sent = message :: session.sent := by
  rcases step with ⟨_, rfl⟩
  unfold rcv
  simp only [processed, prepared]
  split
  · rfl
  · exact goToNextState_sent _ _

theorem goToNextState_world (sent : List μ) (world : ω) :
    (machine.goToNextState sent world).world = world ∨
      ∃ name, (machine.currentState world).nextState = some (.state name) ∧
        (machine.goToNextState sent world).world = machine.construct name world := by
  unfold goToNextState
  split
  · exact .inl rfl
  next name leads => exact .inr ⟨name, leads, rfl⟩
  · exact .inl rfl
  · exact .inl rfl

/-- The world after a step comes from processing the message, announcing the state
and constructing the next one, as far as the step got. -/
theorem Step.reaches {session next : CommSession μ ω} {received : ι}
    (step : machine.Step session (some received) next) :
    ∃ reached, Reaches (machine.processMessage received) session.world reached ∧
      (next.world = reached ∨
        ∃ informed, Reaches (machine.updateStateInfo received) reached informed ∧
          (next.world = informed ∨
            ∃ name, (machine.currentState informed).nextState = some (.state name) ∧
              next.world = machine.construct name informed)) := by
  rcases step with ⟨_, rfl⟩
  unfold rcv
  dsimp only
  split
  next exception reached failed => exact ⟨reached, .inr ⟨exception, failed⟩, .inl rfl⟩
  next reached processed =>
    refine ⟨reached, .inl ⟨_, processed⟩, ?_⟩
    split
    · exact .inl rfl
    next message prepared =>
      right
      split
      next exception informed failed => exact ⟨informed, .inr ⟨exception, failed⟩, .inl rfl⟩
      next informed updated =>
        exact ⟨informed, .inl ⟨_, updated⟩, goToNextState_world _ informed⟩

/-- An iteration that answers its message and goes on to another state. -/
theorem rcv_of_answer {session : CommSession μ ω} {received : ι} {reached informed : ω}
    {message : μ} {name : ν}
    (processed : machine.processMessage received session.world = .ok ⟨⟩ reached)
    (prepared : (machine.currentState reached).nextV2gtpMsg = some message)
    (updated : machine.updateStateInfo received reached = .ok ⟨⟩ informed)
    (leads : (machine.currentState informed).nextState = some (.state name)) :
    machine.rcv session (some received) =
      { world := machine.construct name informed, sent := message :: session.sent } := by
  unfold rcv
  simp only [processed, prepared, updated]
  unfold goToNextState
  rw [leads]

/-- There is no notification as long as the loop goes on. -/
theorem stopNotification_eq_none_iff {stopReason : ω → Option StopNotification}
    {session : CommSession μ ω} {input : Option ι} :
    machine.stopNotification stopReason session.world input = none ↔
      (machine.rcv session input).ended = false := by
  unfold stopNotification rcv
  cases input with
  | none => simp
  | some received =>
      dsimp only
      split
      · simp
      · split
        · split <;> simp
        · split
          · simp
          · unfold goToNextState
            split <;> simp_all

/-- A session ends with a pause only where processing a message has set a stop reason that
asks for one. -/
theorem reached_of_pause {stopReason : ω → Option StopNotification} {session : CommSession μ ω}
    {input : Option ι} {notification : StopNotification}
    (stops : machine.stopNotification stopReason session.world input = some notification)
    (pauses : notification.stopAction = .pause) :
    ∃ received reached, input = some received ∧
      machine.processMessage received session.world = .ok ⟨⟩ reached ∧
      stopReason (machine.rcv session input).world = some notification ∧
      ((machine.rcv session input).world = reached ∧
          (machine.currentState reached).nextState = some .terminate ∨
        ∃ informed, machine.updateStateInfo received reached = .ok ⟨⟩ informed ∧
          (machine.rcv session input).world = informed ∧
          ((machine.currentState informed).nextState = some .terminate ∨
            (machine.currentState informed).nextState = some .pause)) := by
  have reason : ∀ world, (stopReason world).getD { successful := false } = notification →
      stopReason world = some notification := by
    intro world same
    cases given : stopReason world with
    | none =>
        rw [given] at same
        cases same
        cases pauses
    | some other =>
        rw [given] at same
        cases same
        rfl
  unfold stopNotification at stops
  unfold rcv
  cases input with
  | none =>
      cases stops
      cases pauses
  | some received =>
      dsimp only at stops ⊢
      cases processed : machine.processMessage received session.world with
      | error exception world =>
          simp only [processed] at stops
          cases stops
          cases pauses
      | ok result reached =>
          simp only [processed] at stops
          dsimp only
          refine ⟨received, reached, rfl, processed, ?_⟩
          cases prepared : (machine.currentState reached).nextV2gtpMsg with
          | none =>
              simp only [prepared] at stops
              split at stops
              next terminates =>
                exact ⟨reason _ (Option.some.inj stops), .inl ⟨rfl, terminates⟩⟩
              next =>
                cases stops
                cases pauses
          | some message =>
              simp only [prepared] at stops
              dsimp only
              cases updated : machine.updateStateInfo received reached with
              | error exception informed =>
                  simp only [updated] at stops
                  cases stops
                  cases pauses
              | ok result informed =>
                  simp only [updated] at stops
                  dsimp only
                  unfold goToNextState
                  split at stops
                  · cases stops
                  · cases stops
                  next leads =>
                    dsimp only
                    exact ⟨reason _ (Option.some.inj stops),
                      .inr ⟨informed, rfl, rfl, .inl leads⟩⟩
                  next leads =>
                    dsimp only
                    exact ⟨reason _ (Option.some.inj stops),
                      .inr ⟨informed, rfl, rfl, .inr leads⟩⟩

end SessionStateMachine

end Iso15118.Shared
