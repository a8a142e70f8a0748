import Iso15118.Secc.SessionRegistry

/-!
# The end of one session and the other sessions

A stop notification carries the address of the peer. What is ended is the session that is
registered under its host when the notification is handled, which may be a later one.
-/

namespace Iso15118.Secc.Registry

open Effect Transition
open Iso15118.Shared

/-- The stop of a session ends that session and touches no other: its receive loop has ended,
its entry is removed or kept, and the tasks and entries of the other sessions are as they
were. -/
structure Isolated (session : Nat) (stopAction : SessionStopAction)
    (before after : CommunicationSessionHandler) : Prop where
  ownTask : ∀ task, after.sessions[session]? = some task → task.receiving = false
  ownEntry : ∀ key, after.commSessions key = some session ↔
    before.commSessions key = some session ∧ stopAction = .pause
  otherTasks : ∀ other, other ≠ session → after.sessions[other]? = before.sessions[other]?
  otherEntries : ∀ key other, other ≠ session →
    (after.commSessions key = some other ↔ before.commSessions key = some other)

/-- A later session that is registered under the host of the peer is neither deleted nor
cancelled by the stop of this one. -/
def SparesOthers (handler : CommunicationSessionHandler) (session : Nat) (peer : Peername)
    (stopAction : SessionStopAction) : Prop :=
  ∀ other, handler.commSessions (.host peer.host) = some other → other ≠ session →
    stopAction = .pause ∧
      ¬(handler.CancelsTcpServer ∧
        ∃ task, handler.sessions[other]? = some task ∧ task.Pending)

theorem SessionTask.cancel_of_not_pending {task : SessionTask} (ended : ¬task.Pending) :
    task.cancel = task :=
  if_neg ended

theorem SessionTask.cancel_ne_of_pending {task : SessionTask} (pending : task.Pending) :
    task.cancel ≠ task := by
  intro same
  have cancelled : task.cancel.cancelled = true := by
    unfold SessionTask.cancel
    rw [if_pos pending]
  rw [same, pending.2] at cancelled
  cases cancelled

/-- The queue has no part in it. -/
theorem isolated_dequeue_iff {session : Nat} {stopAction : SessionStopAction}
    {before after : CommunicationSessionHandler} {rest : List Notification} :
    Isolated session stopAction { before with rcvQueue := rest } after ↔
      Isolated session stopAction before after := by
  constructor
  · rintro ⟨ownTask, ownEntry, otherTasks, otherEntries⟩
    exact ⟨ownTask, ownEntry, otherTasks, otherEntries⟩
  · rintro ⟨ownTask, ownEntry, otherTasks, otherEntries⟩
    exact ⟨ownTask, ownEntry, otherTasks, otherEntries⟩

/-! ## What the end of the registered session changes -/

section

variable {handler : CommunicationSessionHandler} {peer : Peername}
  {stopAction : SessionStopAction} {registered : Nat}

theorem ended_sessions_of_ne {other : Nat} (differs : other ≠ registered) :
    (handler.ended peer stopAction registered).sessions[other]? = handler.sessions[other]? := by
  unfold CommunicationSessionHandler.ended
  dsimp only
  split
  next => exact List.getElem?_modify_ne _ _ differs.symm
  next => rfl

/-- The registered session is cancelled only if the TCP server is, and only while it runs. -/
theorem ended_sessions_registered :
    (handler.ended peer stopAction registered).sessions[registered]? =
        handler.sessions[registered]? ↔
      ¬(handler.CancelsTcpServer ∧
        ∃ task, handler.sessions[registered]? = some task ∧ task.Pending) := by
  unfold CommunicationSessionHandler.ended
  dsimp only
  split
  next cancels =>
    rw [List.getElem?_modify_eq]
    cases created : handler.sessions[registered]? with
    | none => simp
    | some task =>
        by_cases pending : task.Pending
        · simp [SessionTask.cancel_ne_of_pending pending, cancels, pending]
        · simp [SessionTask.cancel_of_not_pending pending, pending]
  next keeps => simp [keeps]

theorem ended_entries_of_ne {key : Key} (differs : key ≠ .host peer.host) :
    (handler.ended peer stopAction registered).commSessions key = handler.commSessions key := by
  unfold CommunicationSessionHandler.ended
  dsimp only
  split
  next => exact Function.update_of_ne differs _ _
  next => rfl

theorem ended_entries_of_pause :
    (handler.ended peer .pause registered).commSessions = handler.commSessions := by
  unfold CommunicationSessionHandler.ended
  dsimp only
  exact if_neg (by decide)

theorem ended_entry_of_terminate :
    (handler.ended peer .terminate registered).commSessions (.host peer.host) = none := by
  unfold CommunicationSessionHandler.ended
  dsimp only
  rw [if_pos rfl]
  exact Function.update_self _ _ _

end

/-! ## The notifications of a run -/

section

variable {handler : CommunicationSessionHandler} {session : Nat} {peer : Peername}
  {stopAction : SessionStopAction}

/-- A session has its entry under the host of its peer. -/
theorem Tracked.key_eq (tracked : Tracked handler) {task : SessionTask}
    (created : handler.sessions[session]? = some task) {key : Key}
    (there : handler.commSessions key = some session) : key = .host task.peer.host := by
  obtain ⟨other, same, hosts⟩ := tracked.entries key session there
  rw [created] at same
  cases same
  exact hosts

/-- The entry of a session that is registered itself is removed or kept, and no other is. -/
theorem isolated_of_registered (tracked : Tracked handler) {task : SessionTask}
    (created : handler.sessions[session]? = some task) (stopped : task.receiving = false)
    (peers : task.peer = peer)
    (registered : handler.commSessions (.host peer.host) = some session) :
    Isolated session stopAction handler (handler.ended peer stopAction session) where
  ownTask := by
    intro later there
    obtain ⟨same, ended, -, stays⟩ :=
      lasts_ended handler peer stopAction session session task created
    rw [there] at ended
    cases ended
    exact stays stopped
  ownEntry := by
    intro key
    by_cases hosts : key = .host peer.host
    · cases stopAction with
      | terminate => simp [hosts, ended_entry_of_terminate]
      | pause => simp [ended_entries_of_pause]
    · have elsewhere : handler.commSessions key ≠ some session := by
        intro there
        have own := tracked.key_eq created there
        rw [peers] at own
        exact hosts own
      simp [ended_entries_of_ne hosts, elsewhere]
  otherTasks := fun other differs => ended_sessions_of_ne differs
  otherEntries := by
    intro key other differs
    by_cases hosts : key = .host peer.host
    · rw [hosts]
      cases stopAction with
      | terminate => simp [ended_entry_of_terminate, registered, differs.symm]
      | pause => simp [ended_entries_of_pause]
    · rw [ended_entries_of_ne hosts]

/-- The stop of a session that has no entry any more ends another one, unless it spares it. -/
theorem isolated_iff_of_other {task : SessionTask}
    (created : handler.sessions[session]? = some task) (stopped : task.receiving = false)
    {registered : Nat} (differs : registered ≠ session)
    (there : handler.commSessions (.host peer.host) = some registered) :
    Isolated session stopAction handler (handler.ended peer stopAction registered) ↔
      stopAction = .pause ∧ ¬(handler.CancelsTcpServer ∧
        ∃ task, handler.sessions[registered]? = some task ∧ task.Pending) := by
  constructor
  · intro isolated
    constructor
    · cases stopAction with
      | pause => rfl
      | terminate =>
          have kept := (isolated.otherEntries _ registered differs).mpr there
          rw [ended_entry_of_terminate] at kept
          cases kept
    · exact ended_sessions_registered.mp (isolated.otherTasks registered differs)
  · rintro ⟨rfl, spared⟩
    constructor
    · intro later ended
      rw [ended_sessions_of_ne differs.symm, created] at ended
      cases ended
      exact stopped
    · intro key
      simp [ended_entries_of_pause]
    · intro other _
      by_cases same : other = registered
      · rw [same]
        exact ended_sessions_registered.mpr spared
      · exact ended_sessions_of_ne same
    · intro key other _
      rw [ended_entries_of_pause]

/-- Nothing happens to a registry that has no entry under the host. -/
theorem isolated_of_unregistered (tracked : Tracked handler) {task : SessionTask}
    (created : handler.sessions[session]? = some task) (stopped : task.receiving = false)
    (peers : task.peer = peer) (missing : handler.commSessions (.host peer.host) = none) :
    Isolated session stopAction handler handler where
  ownTask := by
    intro later there
    rw [created] at there
    cases there
    exact stopped
  ownEntry := by
    intro key
    have nowhere : handler.commSessions key ≠ some session := by
      intro there
      have own := tracked.key_eq created there
      rw [peers] at own
      rw [own, missing] at there
      cases there
    simp [nowhere]
  otherTasks := fun _ _ => rfl
  otherEntries := fun _ _ _ => Iff.rfl

end

/-! ## Over all runs -/

/-- Whatever connections and stops there were, the handling of a stop notification is isolated
exactly when no later session is registered under the host of the peer, or the stop is a pause
and that session is not running or the TCP server cannot be cancelled. -/
theorem isolated_iff_of_run {history : List Event} {handler after : CommunicationSessionHandler}
    {session : Nat} {peer : Peername} {stopAction : SessionStopAction} {evseIds : EvseIds}
    (run : Run Step {} history handler)
    (step : Step handler (.handled (.stopNotification session peer stopAction) evseIds) after) :
    Isolated session stopAction handler after ↔
      SparesOthers handler session peer stopAction := by
  have tracked := tracked_of_run run
  cases step with
  | handled _ _ rest _ queued handles =>
      obtain ⟨task, created, peers, stopped⟩ :=
        tracked.stops session peer stopAction (by simp [queued])
      have popped : Tracked { handler with rcvQueue := rest } :=
        tracked.of_lasts (.refl _) (fun _ _ => id) fun notification there => by
          rw [queued]
          exact List.mem_cons_of_mem _ there
      rw [onStopNotification_eq] at handles
      cases handles
      apply (isolated_dequeue_iff : Isolated _ _ { handler with rcvQueue := rest } _ ↔ _).symm.trans
      cases there : handler.commSessions (.host peer.host) with
      | none =>
          simp only [SparesOthers, there]
          exact iff_of_true (isolated_of_unregistered popped created stopped peers there) nofun
      | some registered =>
          simp only [SparesOthers, there]
          by_cases own : registered = session
          · rw [own] at there ⊢
            apply iff_of_true (isolated_of_registered popped created stopped peers there)
            intro other same differs
            cases same
            exact absurd rfl differs
          · apply (isolated_iff_of_other (by exact created) stopped own (by exact there)).trans
            constructor
            · intro spared other same differs
              cases same
              exact spared
            · intro spares
              exact spares registered rfl own

/-! ## A second connection from the same host -/

def firstPeer : Peername where
  host := "fe80::1"
  port := 50000

def secondPeer : Peername where
  host := "fe80::1"
  port := 50001

/-- The TCP server runs, and both connections were accepted. -/
def bothConnected : CommunicationSessionHandler :=
  (({ tcpServerHandler := some {} } : CommunicationSessionHandler).connected firstPeer).connected
    secondPeer

theorem sample_run : ∃ history, Run Step {} history bothConnected := by
  have listens : Run Step {} _ { tcpServerHandler := some {} } :=
    .step (.step .start (.udpPacketReceived _ true)) (.handled _ _ _ [] {} rfl rfl)
  have first := Run.step (.step listens (.tcpClientConnected _ firstPeer))
    (.handled _ _ _ [] {} rfl rfl)
  have second := Run.step (.step first (.tcpClientConnected _ secondPeer))
    (.handled _ _ _ [] {} rfl rfl)
  exact ⟨_, second⟩

/-- The first session stops, and the second one is cancelled, with its receive loop running, and
loses its entry. -/
theorem sample_not_isolated :
    ∃ history handler after,
      Run Step {} history handler ∧
        Step handler (.handled (.stopNotification 0 firstPeer .terminate) {}) after ∧
          handler.commSessions (.host secondPeer.host) = some 1 ∧
          after.commSessions (.host secondPeer.host) = none ∧
          after.sessions[1]? = some { peer := secondPeer, receiving := true, cancelled := true } ∧
          ¬Isolated 0 .terminate handler after := by
  obtain ⟨history, run⟩ := sample_run
  have stopped := Run.step run (.sessionStopped _ 0 { peer := firstPeer } .terminate rfl rfl)
  refine ⟨_, _, _, stopped, .handled _ _ _ [] {} rfl rfl, rfl, ?_, ?_, ?_⟩
  · decide
  · decide
  · intro isolated
    have kept := isolated.otherTasks 1 (by decide)
    revert kept
    decide

/-- The second session stops, which leaves the first one as it is. -/
theorem sample_isolated :
    ∃ history handler after,
      Run Step {} history handler ∧
        Step handler (.handled (.stopNotification 1 secondPeer .terminate) {}) after ∧
          Isolated 1 .terminate handler after := by
  obtain ⟨history, run⟩ := sample_run
  have stopped := Run.step run (.sessionStopped _ 1 { peer := secondPeer } .terminate rfl rfl)
  have handled := Step.handled
    ((bothConnected.stopReceiving 1).put (.stopNotification 1 secondPeer .terminate)) _
    (.stopNotification 1 secondPeer .terminate) [] {} rfl rfl
  refine ⟨_, _, _, stopped, handled, (isolated_iff_of_run stopped handled).mpr ?_⟩
  intro other there differs
  cases there
  exact absurd rfl differs

end Iso15118.Secc.Registry
