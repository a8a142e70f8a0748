import Iso15118.Shared.BatteryDiagnostics.HealthTest
import Iso15118.Shared.BatteryDiagnostics.Registry
import Iso15118.Shared.CommSession

/-!
# The end of a session

`stop` of `shared/comm_session.py` with the controller of `secc/controller/simulator.py`, and
the places of `rcv_loop` that call it. The `on_end` of a diagnostic service may raise, and so
may closing the connection. What `stop` raises is caught where it is called for a processed
message, and partly where the peer has closed the connection, and then `stop` is called again.
-/

namespace Iso15118.Secc

open Effect
open Iso15118.Shared

/-! ## Ways to end -/

/-- What the read of an iteration returns or raises. -/
inductive ReadResult (ι : Type) where
  | message (received : ι)
  | peerClosed
  | failed (exception : PyError)

/-- Where `rcv_loop` returns. A processed message may have stopped the state machine, or an
exception may have been raised. -/
inductive Ending where
  | peerClosed
  | readFailed (exception : PyError)
  | stopped (stopReason : Option StopNotification)
  | raised

/-- The notification that is meant for an ending. -/
def Ending.notification : Ending → StopNotification
  | .stopped stopReason => stopReason.getD { successful := false }
  | _ => { successful := false }

section

variable {ι κ ν μ ω : Type}

/-- How an iteration ends the session, if it does. -/
def ending (machine : SessionStateMachine ι κ ν μ ω) (stopReason : ω → Option StopNotification)
    (world : ω) : ReadResult ι → Option Ending
  | .peerClosed => some .peerClosed
  | .failed exception => some (.readFailed exception)
  | .message received =>
      match machine.processMessage received world with
      | .error _ _ => some .raised
      | .ok _ world =>
          match (machine.currentState world).nextV2gtpMsg with
          | none =>
              match (machine.currentState world).nextState with
              | some .terminate => some (.stopped (stopReason world))
              | _ => some .raised
          | some _ =>
              match machine.updateStateInfo received world with
              | .error _ _ => some .raised
              | .ok _ world =>
                  match (machine.currentState world).nextState with
                  | none => none
                  | some (.state _) => none
                  | some .terminate => some (.stopped (stopReason world))
                  | some .pause => some (.stopped (stopReason world))

/-- The notification of the receive loop is the one that is meant for its ending. -/
theorem stopNotification_eq_ending (machine : SessionStateMachine ι κ ν μ ω)
    (stopReason : ω → Option StopNotification) (world : ω) (received : ι) :
    machine.stopNotification stopReason world (some received) =
      (ending machine stopReason world (.message received)).map Ending.notification := by
  unfold SessionStateMachine.stopNotification ending
  dsimp only
  cases machine.processMessage received world with
  | error exception reached => rfl
  | ok result reached =>
      dsimp only
      cases (machine.currentState reached).nextV2gtpMsg with
      | none =>
          dsimp only
          rcases (machine.currentState reached).nextState with _ | _ | _ | _ <;> rfl
      | some message =>
          dsimp only
          cases machine.updateStateInfo received reached with
          | error exception informed => rfl
          | ok result informed =>
              dsimp only
              rcases (machine.currentState informed).nextState with _ | _ | _ | _ <;> rfl

/-- A processed message ends the session with an exception, or stops it. -/
theorem ending_message {machine : SessionStateMachine ι κ ν μ ω}
    {stopReason : ω → Option StopNotification} {world : ω} {received : ι} {how : Ending}
    (ends : ending machine stopReason world (.message received) = some how) :
    how = .raised ∨ ∃ reason, how = .stopped reason := by
  unfold ending at ends
  dsimp only at ends
  repeat' split at ends
  all_goals cases ends
  all_goals first
    | exact .inl rfl
    | exact .inr ⟨_, rfl⟩

end

/-! ## Stopping -/

/-- What happens while a session is stopped: in `on_end` of the active service, and while the
connection is closed. -/
structure StopOutcomes where
  onEnd : Except PyError PUnit := .ok ⟨⟩
  waitClosed : Except PyError PUnit := .ok ⟨⟩

/-- What stopping changes. The queue is that of the session handler. -/
structure Connection (σ : Type) where
  registry : ServiceRegistry σ
  writerClosed : Bool := false
  sessionHandlerQueue : List StopNotification := []

variable {σ : Type}

/-- The exceptions that are expected of a connection. -/
def Expected (exception : PyError) : Prop :=
  exception = .timeoutError ∨ exception = .connectionResetError

instance (exception : PyError) : Decidable (Expected exception) :=
  inferInstanceAs (Decidable (_ ∨ _))

/-- `stop`. The other methods of the controller that it calls do nothing. -/
def stop (outcomes : StopOutcomes) : EStateM PyError (Connection σ) PUnit := do
  let connection ← get
  let registry ← Effect.ofExcept (connection.registry.onEnd outcomes.onEnd)
  modify fun connection => { connection with registry := registry, writerClosed := true }
  tryCatch (Effect.ofExcept outcomes.waitClosed) fun exception =>
    if Expected exception then pure ⟨⟩ else throw exception

/-- `session_handler_queue.put_nowait`. -/
def putNowait (notification : StopNotification) : EStateM PyError (Connection σ) PUnit :=
  modify fun connection =>
    { connection with sessionHandlerQueue := connection.sessionHandlerQueue ++ [notification] }

/-- The end of `rcv_loop`. `retried` are the outcomes when `stop` is called once more. -/
def endSession (outcomes retried : StopOutcomes) :
    Ending → EStateM PyError (Connection σ) PUnit
  | .peerClosed =>
      tryCatch
        (do
          stop outcomes
          putNowait { successful := false })
        (fun exception =>
          if Expected exception then do
            stop retried
            putNowait { successful := false }
          else
            throw exception)
  | .readFailed exception =>
      if Expected exception then do
        stop outcomes
        putNowait { successful := false }
      else
        throw exception
  | .stopped stopReason =>
      tryCatch
        (do
          -- the reason is read for the call of `stop`
          let stopReason ← Effect.ofExcept
            (match stopReason with
            | some stopReason => .ok stopReason
            | none => .error .attributeError)
          stop outcomes
          putNowait stopReason)
        (fun _ => do
          stop retried
          putNowait { successful := false })
  | .raised => do
      stop outcomes
      putNowait { successful := false }

/-! ## When everything is finalised -/

/-- No service is active any more, and the connection is closed. -/
def Connection.stopped (connection : Connection σ) : Connection σ :=
  { connection with
    registry := { connection.registry with active := none }
    writerClosed := true }

/-- The session has been finalised: no service is active, the connection is closed and the
session handler is notified. -/
structure Finalised (before after : Connection σ) : Prop where
  inactive : after.registry.active = none
  closed : after.writerClosed = true
  notified : ∃ notification,
    after.sessionHandlerQueue = before.sessionHandlerQueue ++ [notification]

/-- Stopping goes through: the service that is active finishes, and the connection is closed
without an exception that is not expected. -/
structure GoesThrough (active : Option Int) (outcomes : StopOutcomes) : Prop where
  onEnd : active ≠ none → outcomes.onEnd = .ok ⟨⟩
  waitClosed : ∀ exception, outcomes.waitClosed = .error exception → Expected exception

/-- When the session is finalised. Of an active service that has raised, a second call of
`stop` calls `on_end` again. -/
def Finalises (active : Option Int) (outcomes retried : StopOutcomes) : Ending → Prop
  | .peerClosed =>
      GoesThrough active outcomes ∨
        active ≠ none ∧ (∃ exception, outcomes.onEnd = .error exception ∧ Expected exception) ∧
          GoesThrough active retried
  | .readFailed exception => Expected exception ∧ GoesThrough active outcomes
  | .stopped none => GoesThrough active retried
  | .stopped (some _) =>
      GoesThrough active outcomes ∨
        (∃ exception, outcomes.onEnd = .error exception) ∧ GoesThrough active retried ∨
        outcomes.onEnd = .ok ⟨⟩ ∧ GoesThrough none retried
  | .raised => GoesThrough active outcomes

/-- What `stop` does: it goes through, or it raises in `on_end` or after it. -/
theorem stop_cases (outcomes : StopOutcomes) (connection : Connection σ) :
    (GoesThrough connection.registry.active outcomes ∧
        stop outcomes connection = .ok ⟨⟩ connection.stopped) ∨
      (∃ exception, connection.registry.active ≠ none ∧ outcomes.onEnd = .error exception ∧
        ¬GoesThrough connection.registry.active outcomes ∧
        stop outcomes connection = .error exception connection) ∨
      ∃ exception, (connection.registry.active ≠ none → outcomes.onEnd = .ok ⟨⟩) ∧
        outcomes.waitClosed = .error exception ∧ ¬Expected exception ∧
        ¬GoesThrough connection.registry.active outcomes ∧
        stop outcomes connection = .error exception connection.stopped := by
  by_cases ends : connection.registry.active ≠ none → outcomes.onEnd = .ok ⟨⟩
  · have finishes : connection.registry.onEnd outcomes.onEnd =
        .ok { connection.registry with active := none } := by
      unfold ServiceRegistry.onEnd
      cases active : connection.registry.active with
      | none =>
          dsimp only
          rw [← active]
      | some activeId =>
          rw [ends (by simp [active])]
          rfl
    have stops : stop outcomes connection =
        (tryCatch (Effect.ofExcept outcomes.waitClosed) fun exception =>
          if Expected exception then pure ⟨⟩ else throw exception :
            EStateM PyError (Connection σ) PUnit) connection.stopped := by
      unfold stop
      rw [get_bind_apply, finishes]
      rfl
    cases closed : outcomes.waitClosed with
    | ok result =>
        refine .inl ⟨⟨ends, ?_⟩, ?_⟩
        · rw [closed]
          exact nofun
        · rw [stops, closed]
          rfl
    | error exception =>
        by_cases expected : Expected exception
        · refine .inl ⟨⟨ends, ?_⟩, ?_⟩
          · rintro _ same
            cases closed.symm.trans same
            exact expected
          · rw [stops, closed]
            change (if Expected exception then pure ⟨⟩ else throw exception :
              EStateM PyError (Connection σ) PUnit) _ = _
            rw [if_pos expected]
            rfl
        · refine .inr (.inr ⟨exception, ends, rfl, expected, ?_, ?_⟩)
          · intro through
            exact expected (through.waitClosed exception closed)
          · rw [stops, closed]
            change (if Expected exception then pure ⟨⟩ else throw exception :
              EStateM PyError (Connection σ) PUnit) _ = _
            rw [if_neg expected]
            rfl
  · push Not at ends
    obtain ⟨active, fails⟩ := ends
    cases ended : outcomes.onEnd with
    | ok result => exact absurd ended fails
    | error exception =>
        refine .inr (.inl ⟨exception, active, rfl, ?_, ?_⟩)
        · intro through
          exact fails (through.onEnd active)
        · have raises : connection.registry.onEnd outcomes.onEnd = .error exception := by
            obtain ⟨activeId, present⟩ := Option.ne_none_iff_exists'.mp active
            unfold ServiceRegistry.onEnd
            rw [present, ended]
            rfl
          unfold stop
          rw [get_bind_apply, raises]
          rfl

/-- What is reached, whether or not an exception leaves `rcv_loop`. -/
def EndsWith (program : EStateM PyError (Connection σ) PUnit)
    (post : Connection σ → Prop) (connection : Connection σ) : Prop :=
  wp program (fun _ after => post after) (fun _ after => post after) connection

/-- Without a notification nothing is finalised. -/
theorem not_finalised_of_queue {before after : Connection σ}
    (same : after.sessionHandlerQueue = before.sessionHandlerQueue) : ¬Finalised before after := by
  rintro ⟨_, _, notification, notified⟩
  rw [same] at notified
  exact absurd notified.symm (by simp)

/-- The notification has been put into the queue. -/
def Connection.notified (connection : Connection σ) (notification : StopNotification) :
    Connection σ :=
  { connection with sessionHandlerQueue := connection.sessionHandlerQueue ++ [notification] }

theorem finalised_notified (connection : Connection σ) (notification : StopNotification) :
    Finalised connection (connection.stopped.notified notification) :=
  ⟨rfl, rfl, notification, rfl⟩

section

variable {outcomes : StopOutcomes} {notification : StopNotification}
  {handler : PyError → EStateM PyError (Connection σ) PUnit} {connection reached : Connection σ}
  {post : Connection σ → Prop}

/-- The calls of `stop` that nothing catches. -/
theorem endsWith_stop_iff
    (silent : ∀ after : Connection σ,
      after.sessionHandlerQueue = connection.sessionHandlerQueue → ¬post after) :
    EndsWith (do
        stop outcomes
        putNowait notification) post connection ↔
      GoesThrough connection.registry.active outcomes ∧
        post (connection.stopped.notified notification) := by
  unfold EndsWith
  rw [wp_bind]
  rcases stop_cases outcomes connection with
    ⟨through, stops⟩ | ⟨exception, _, _, fails, stops⟩ | ⟨exception, _, _, _, fails, stops⟩
  · unfold wp
    rw [stops]
    exact (and_iff_right through).symm
  · unfold wp
    rw [stops]
    exact iff_of_false (silent connection rfl) fun both => fails both.1
  · unfold wp
    rw [stops]
    exact iff_of_false (silent connection.stopped rfl) fun both => fails both.1

theorem endsWith_tryStop_of_ok
    (stops : stop outcomes connection = .ok ⟨⟩ connection.stopped) :
    EndsWith (tryCatch
        (do
          stop outcomes
          putNowait notification) handler) post connection ↔
      post (connection.stopped.notified notification) := by
  unfold EndsWith
  rw [wp_tryCatch, wp_bind]
  conv_lhs => unfold wp
  rw [stops]
  exact Iff.rfl

/-- What `stop` raises is handled where it left the connection. -/
theorem endsWith_tryStop_of_error {exception : PyError}
    (stops : stop outcomes connection = .error exception reached) :
    EndsWith (tryCatch
        (do
          stop outcomes
          putNowait notification) handler) post connection ↔
      EndsWith (handler exception) post reached := by
  unfold EndsWith
  rw [wp_tryCatch, wp_bind]
  conv_lhs => unfold wp
  rw [stops]
  exact Iff.rfl

/-- A session that has been stopped for a reason reports it if `stop` goes through, and a
failure if the second call of `stop` does. -/
theorem endsWith_stopped_iff {retried : StopOutcomes} {stopReason : StopNotification}
    (silent : ∀ after : Connection σ,
      after.sessionHandlerQueue = connection.sessionHandlerQueue → ¬post after) :
    EndsWith (endSession outcomes retried (.stopped (some stopReason))) post connection ↔
      GoesThrough connection.registry.active outcomes ∧
          post (connection.stopped.notified stopReason) ∨
        ¬GoesThrough connection.registry.active outcomes ∧
          Finalises connection.registry.active outcomes retried (.stopped (some stopReason)) ∧
          post (connection.stopped.notified { successful := false }) := by
  rcases stop_cases outcomes connection with
    ⟨through, stops⟩ | ⟨exception, active, ended, fails, stops⟩ |
      ⟨exception, ended, closed, unexpected, fails, stops⟩
  · refine (endsWith_tryStop_of_ok stops).trans ?_
    constructor
    · exact fun holds => .inl ⟨through, holds⟩
    · rintro (⟨_, holds⟩ | ⟨fails, _⟩)
      · exact holds
      · exact absurd through fails
  · refine (endsWith_tryStop_of_error stops).trans ((endsWith_stop_iff silent).trans ?_)
    constructor
    · exact fun again => .inr ⟨fails, .inr (.inl ⟨⟨exception, ended⟩, again.1⟩), again.2⟩
    · rintro (⟨through, _⟩ | ⟨_, through | ⟨_, again⟩ | ⟨same, _⟩, holds⟩)
      · exact absurd through fails
      · exact absurd through fails
      · exact ⟨again, holds⟩
      · cases ended.symm.trans same
  · have silentStopped : ∀ after : Connection σ,
        after.sessionHandlerQueue = connection.stopped.sessionHandlerQueue → ¬post after :=
      silent
    refine (endsWith_tryStop_of_error stops).trans ((endsWith_stop_iff silentStopped).trans ?_)
    -- no service is active any more
    have inactive : ∀ raised, outcomes.onEnd = .error raised →
        connection.registry.active = none := by
      intro raised same
      by_contra active
      cases (ended active).symm.trans same
    constructor
    · intro again
      cases first : outcomes.onEnd with
      | ok result => exact .inr ⟨fails, .inr (.inr ⟨first, again.1⟩), again.2⟩
      | error raised =>
          refine .inr ⟨fails, .inr (.inl ⟨⟨raised, first⟩, ?_⟩), again.2⟩
          rw [inactive raised first]
          exact again.1
    · rintro (⟨through, _⟩ | ⟨_, through | ⟨⟨raised, same⟩, again⟩ | ⟨_, again⟩, holds⟩)
      · exact absurd through fails
      · exact absurd through fails
      · rw [inactive raised same] at again
        exact ⟨again, holds⟩
      · exact ⟨again, holds⟩

end

/-- What the receive loop stops with is what the session handler is notified of, where every call
of `stop` goes through. -/
theorem notified_of_stopNotification {ι κ ν μ ω : Type} {machine : SessionStateMachine ι κ ν μ ω}
    {stopReason : ω → Option StopNotification} {world : ω} {received : ι}
    {notification : StopNotification}
    (stops : machine.stopNotification stopReason world (some received) = some notification)
    {outcomes retried : StopOutcomes} {connection : Connection σ}
    (through : GoesThrough connection.registry.active outcomes)
    (again : GoesThrough connection.registry.active retried) :
    ∃ how, ending machine stopReason world (.message received) = some how ∧
      EndsWith (endSession outcomes retried how)
        (fun after => after = connection.stopped.notified notification) connection := by
  rw [stopNotification_eq_ending] at stops
  obtain ⟨how, ends, rfl⟩ := Option.map_eq_some_iff.mp stops
  have silent (notification : StopNotification) (after : Connection σ)
      (same : after.sessionHandlerQueue = connection.sessionHandlerQueue) :
      after ≠ connection.stopped.notified notification := by
    rintro rfl
    exact absurd same (by simp [Connection.notified, Connection.stopped])
  refine ⟨how, ends, ?_⟩
  obtain rfl | ⟨reason, rfl⟩ := ending_message ends
  · exact (endsWith_stop_iff (silent _)).mpr ⟨through, rfl⟩
  · cases reason with
    | none => exact (endsWith_stop_iff (silent _)).mpr ⟨again, rfl⟩
    | some reason => exact (endsWith_stopped_iff (silent _)).mpr (.inl ⟨through, rfl⟩)

/-- The session is finalised exactly if stopping goes through, at the first or the second
call. -/
theorem finalised_iff (ending : Ending) (outcomes retried : StopOutcomes)
    (connection : Connection σ) :
    EndsWith (endSession outcomes retried ending) (Finalised connection) connection ↔
      Finalises connection.registry.active outcomes retried ending := by
  have silent : ∀ after : Connection σ,
      after.sessionHandlerQueue = connection.sessionHandlerQueue → ¬Finalised connection after :=
    fun _ => not_finalised_of_queue
  have stops_iff : ∀ (outcomes : StopOutcomes) (notification : StopNotification),
      EndsWith (do
          stop outcomes
          putNowait notification) (Finalised connection) connection ↔
        GoesThrough connection.registry.active outcomes :=
    fun _ _ => (endsWith_stop_iff silent).trans (and_iff_left (finalised_notified _ _))
  cases ending with
  | peerClosed =>
      rcases stop_cases outcomes connection with
        ⟨through, stops⟩ | ⟨exception, active, ended, fails, stops⟩ |
          ⟨exception, ended, closed, unexpected, fails, stops⟩
      · exact iff_of_true ((endsWith_tryStop_of_ok stops).mpr (finalised_notified _ _))
          (.inl through)
      · refine (endsWith_tryStop_of_error stops).trans ?_
        by_cases expected : Expected exception
        · rw [if_pos expected, stops_iff]
          constructor
          · exact fun again => .inr ⟨active, ⟨exception, ended, expected⟩, again⟩
          · rintro (through | ⟨_, _, again⟩)
            · exact absurd through fails
            · exact again
        · rw [if_neg expected]
          apply iff_of_false (silent connection rfl)
          rintro (through | ⟨_, ⟨_, same, expected'⟩, _⟩)
          · exact fails through
          · cases ended.symm.trans same
            exact expected expected'
      · refine (endsWith_tryStop_of_error stops).trans ?_
        rw [if_neg unexpected]
        apply iff_of_false (silent connection.stopped rfl)
        rintro (through | ⟨active, ⟨_, same, _⟩, _⟩)
        · exact fails through
        · cases (ended active).symm.trans same
  | readFailed exception =>
      unfold endSession Finalises
      dsimp only
      by_cases expected : Expected exception
      · rw [if_pos expected, stops_iff]
        exact (and_iff_right expected).symm
      · rw [if_neg expected]
        exact iff_of_false (silent connection rfl) fun both => expected both.1
  | stopped stopReason =>
      cases stopReason with
      | none => exact stops_iff retried _
      | some stopReason =>
          refine (endsWith_stopped_iff silent).trans ?_
          constructor
          · rintro (⟨through, _⟩ | ⟨_, finalises, _⟩)
            · exact .inl through
            · exact finalises
          · intro finalises
            by_cases through : GoesThrough connection.registry.active outcomes
            · exact .inl ⟨through, finalised_notified _ _⟩
            · exact .inr ⟨through, finalises, finalised_notified _ _⟩
  | raised => exact stops_iff outcomes _

/-- A session in which the health test has been selected. -/
def Sample.testing : Connection BatteryHealthService where
  registry := ((ServiceRegistry.mk {} [] none).register {}).onServiceSelected
    BatteryHealthService.serviceId (.id 1)

/-- A telemetry file that cannot be written leaves the test active, the connection open and the
session handler without a notification, also when the session has been stopped by the EV. -/
theorem unwritable_telemetry_not_finalised :
    ¬EndsWith (endSession ⟨.error .fileNotFoundError, .ok ⟨⟩⟩ ⟨.error .fileNotFoundError, .ok ⟨⟩⟩
      (.stopped (some { successful := true }))) (Finalised Sample.testing) Sample.testing := by
  rintro ⟨inactive, _, _⟩
  cases inactive

end Iso15118.Secc
