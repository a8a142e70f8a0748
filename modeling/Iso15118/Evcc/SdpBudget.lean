import Iso15118.Evcc.CommSessionHandler
import Mathlib.Tactic.Push

/-!
# How many SDP requests are sent

Two counters bound the requests: how many cycles may still be initiated, and how many
requests remain in the current one. Only one request is open at a time, and none while there
is a session.
-/

namespace Iso15118.Evcc.Handler

open Effect Transition
open Iso15118.Shared

/-! ## Counting -/

@[simp]
theorem requests_sdpCycle (actions : List Action) :
    requests (.sdpCycle :: actions) = requests actions := by
  simp [requests]

@[simp]
theorem requests_sdpRequest (request : SDPRequest) (actions : List Action) :
    requests (.sdpRequest request :: actions) = requests actions + 1 := by
  simp [requests]

@[simp]
theorem requestsInCycle_sdpCycle (actions : List Action) :
    requestsInCycle (.sdpCycle :: actions) = 0 := by
  simp [requestsInCycle]

@[simp]
theorem requestsInCycle_sdpRequest (request : SDPRequest) (actions : List Action) :
    requestsInCycle (.sdpRequest request :: actions) = requestsInCycle actions + 1 := by
  simp [requestsInCycle]

/-- At no time so far have there been more requests in a cycle than allowed. -/
def CyclesBounded (actions : List Action) : Prop :=
  ∀ past, past <:+ actions → requestsInCycle past ≤ sdpMaxRequestCounter

theorem cyclesBounded_cons {action : Action} {actions : List Action} :
    CyclesBounded (action :: actions) ↔
      requestsInCycle (action :: actions) ≤ sdpMaxRequestCounter ∧ CyclesBounded actions := by
  unfold CyclesBounded
  constructor
  · intro bounded
    constructor
    · exact bounded _ (List.suffix_refl _)
    · intro past earlier
      exact bounded past (earlier.trans (List.suffix_cons action actions))
  · rintro ⟨now, bounded⟩ past earlier
    rcases List.suffix_cons_iff.mp earlier with rfl | earlier
    · exact now
    · exact bounded past earlier

/-! ## The invariant -/

/-- What the cycles that have not been used allow, the requests that have been sent
included. -/
structure Budget (cycles : Int) (handler : CommunicationSessionHandler) : Prop where
  remaining : 0 ≤ handler.sdpRetryCycles
  total : requests handler.actions + 50 * handler.sdpRetryCycles ≤ 50 * cycles
  bounded : CyclesBounded handler.actions

/-- The requests that remain in the cycle are covered as well. They are only sent when the
last request has been answered with a timeout. -/
structure Retries (cycles : Int) (handler : CommunicationSessionHandler) : Prop where
  total : requests handler.actions + handler.sdpRetriesNumber + 50 * handler.sdpRetryCycles ≤
    50 * cycles
  cycle : requestsInCycle handler.actions + handler.sdpRetriesNumber ≤ sdpMaxRequestCounter

/-- While a request is open, there is no session, and the retries are covered. -/
structure Open (cycles : Int) (answered : Nat) (handler : CommunicationSessionHandler) :
    Prop where
  one : requests handler.actions = answered + 1
  noSession : handler.commSession.isRunning = false
  retries : Retries cycles handler

/-- The invariant of the handler, when a number of requests has been answered. -/
structure Allowed (cycles : Int) (answered : Nat) (handler : CommunicationSessionHandler) :
    Prop where
  budget : Budget cycles handler
  state : requests handler.actions = answered ∨ Open cycles answered handler

variable {cycles : Int} {answered : Nat} {around : Surroundings}
  {handler : CommunicationSessionHandler}

/-! ## Requests -/

/-- The invariant, whether the program ends with an exception or not. -/
abbrev Ends (cycles : Int) (answered : Nat) {α : Type} (program : Program α)
    (handler : CommunicationSessionHandler) : Prop :=
  wp program (fun _ after => Allowed cycles answered after)
    (fun _ after => Allowed cycles answered after) handler

/-- Another request in the cycle, when all have been answered. -/
theorem ends_requestAgain (budget : Budget cycles handler) (retries : Retries cycles handler)
    (none : requests handler.actions = answered)
    (noSession : handler.commSession.isRunning = false) :
    Ends cycles answered (requestAgain around) handler := by
  unfold Ends requestAgain
  rw [wp_bind, wp_get, wp_ite]
  split
  next some =>
    rw [wp_bind, wp_tryCatch]
    unfold sendSdp
    rw [wp_bind, wp_get, wp_bind, wp_ofExcept]
    constructor
    · intro _ _
      rw [wp_modify, wp_modify]
      have total := retries.total
      have cycle := retries.cycle
      constructor
      · constructor
        · exact budget.remaining
        · simp only [requests_sdpRequest]
          push_cast
          omega
        · apply cyclesBounded_cons.mpr
          constructor
          · rw [requestsInCycle_sdpRequest]
            omega
          · exact budget.bounded
      · right
        constructor
        · simp only [requests_sdpRequest, none]
        · exact noSession
        · constructor
          · simp only [requests_sdpRequest]
            push_cast
            omega
          · simp only [requestsInCycle_sdpRequest]
            omega
    · intro exception _
      rw [wp_ite]
      split
      next =>
        rw [wp_pure, wp_modify]
        exact ⟨⟨budget.remaining, budget.total, budget.bounded⟩, Or.inl none⟩
      next => exact ⟨budget, Or.inl none⟩
  next =>
    rw [wp_bind, wp_modify]
    exact ⟨⟨budget.remaining, budget.total, budget.bounded⟩, Or.inl none⟩

/-- A new cycle allows as many requests as one less cycle. -/
theorem ends_newCycle (budget : Budget cycles handler)
    (none : requests handler.actions = answered)
    (noSession : handler.commSession.isRunning = false) :
    Ends cycles answered (restartSdp around true) handler := by
  unfold Ends restartSdp initiateCycle
  rw [if_pos rfl, wp_bind, wp_bind, wp_get, wp_ite]
  split
  next => exact ⟨budget, Or.inl none⟩
  next some =>
    rw [wp_modify]
    have remaining := budget.remaining
    have total := budget.total
    apply ends_requestAgain
    · constructor
      · dsimp only
        omega
      · simp only [requests_sdpCycle]
        omega
      · apply cyclesBounded_cons.mpr
        rw [requestsInCycle_sdpCycle]
        exact ⟨Nat.zero_le _, budget.bounded⟩
    · constructor
      · simp only [requests_sdpCycle, sdpMaxRequestCounter]
        omega
      · simp
    · simpa using none
    · exact noSession

/-- Catching an exception keeps what held when it was raised. -/
theorem ends_tryRestartSdp {newSdpCycle : Bool}
    (ends : Ends cycles answered (restartSdp around newSdpCycle) handler) :
    Ends cycles answered (tryRestartSdp around newSdpCycle) handler := by
  unfold Ends tryRestartSdp
  rw [wp_tryCatch]
  apply wp_mono (fun _ _ allowed => allowed) _ ends
  intro exception after allowed
  rw [wp_ite]
  split <;> exact allowed

/-! ## Notifications -/

theorem ends_onSdpResponse (response : SDPResponseAttributes) (budget : Budget cycles handler)
    (none : requests handler.actions = answered) :
    Ends cycles answered (onSdpResponse around response) handler := by
  have keeps : Allowed cycles answered handler := ⟨budget, Or.inl none⟩
  unfold Ends onSdpResponse
  rw [wp_bind, wp_get, wp_ite]
  split
  next => exact keeps
  next =>
    unfold startCommSession
    cases around.tcpClientCreate with
    | error exception => exact keeps
    | ok connected =>
        cases around.sendSap with
        | ok sent => exact ⟨⟨budget.remaining, budget.total, budget.bounded⟩, Or.inl none⟩
        | error exception =>
            dsimp only
            rw [wp_ite]
            split <;> exact keeps

theorem ends_processIncomingUdpPacket (data : List UInt8) (budget : Budget cycles handler)
    (none : requests handler.actions = answered)
    (noSession : handler.commSession.isRunning = false) :
    Ends cycles answered (processIncomingUdpPacket around data) handler := by
  have keeps : Allowed cycles answered handler := ⟨budget, Or.inl none⟩
  have restarts : Ends cycles answered (tryRestartSdp around true) handler :=
    ends_tryRestartSdp (ends_newCycle budget none noSession)
  unfold Ends processIncomingUdpPacket
  split
  next exception rejected =>
    rw [wp_ite]
    split <;> exact keeps
  next message read =>
    rw [wp_ite]
    split
    next =>
      split
      next exception rejected =>
        rw [wp_ite]
        split
        next => exact restarts
        next => exact keeps
      next response decoded =>
        rw [wp_bind, wp_ofExcept]
        constructor
        · intro attributes _
          exact ends_onSdpResponse attributes budget none
        · intro _ _
          exact keeps
    next =>
      rw [wp_ite]
      split
      next => exact keeps
      next => exact restarts

/-- What a system keeps. -/
def System.Allowed (cycles : Int) (system : System) : Prop :=
  Handler.Allowed cycles system.answered system.handler

theorem allowed_of_ends {program : Program Bool} (ends : Ends cycles answered program handler) :
    (System.of answered (program handler)).Allowed cycles := by
  unfold Ends wp at ends
  unfold System.Allowed
  split at ends
  next value after ended =>
    rw [ended]
    exact ends
  next exception after ended =>
    rw [ended]
    exact ends

/-- An answer is only due while a request is open. -/
theorem open_of_answers (allowed : Allowed cycles answered handler)
    (answers : answered < requests handler.actions) : Open cycles answered handler := by
  rcases allowed.state with none | one
  · omega
  · exact one

theorem allowed_step {system next : System} {event : Event} (allowed : system.Allowed cycles)
    (step : Step system event next) : next.Allowed cycles := by
  cases step with
  | udpPacket data answers =>
      have one := open_of_answers allowed answers
      apply allowed_of_ends
      unfold Ends getFromRcvQueue
      rw [wp_bind]
      exact ends_processIncomingUdpPacket data allowed.budget one.one one.noSession
  | receiveTimeout answers =>
      have one := open_of_answers allowed answers
      apply allowed_of_ends
      unfold Ends getFromRcvQueue
      rw [wp_bind]
      exact ends_tryRestartSdp (ends_requestAgain allowed.budget one.retries one.one one.noSession)
  | @stop handler answered around successful =>
      apply allowed_of_ends
      unfold Ends getFromRcvQueue removeCommSession
      rw [wp_bind, wp_bind, wp_get, wp_ite]
      split
      next running =>
        -- a session is only running when no request is open
        have none : requests handler.actions = answered := by
          rcases allowed.state with none | one
          · exact none
          · have noSession := one.noSession
            rw [running] at noSession
            cases noSession
        rw [wp_bind, wp_ofExcept]
        constructor
        · intro _ _
          rw [wp_modify]
          cases successful with
          | true =>
              exact ⟨⟨allowed.budget.remaining, allowed.budget.total, allowed.budget.bounded⟩,
                Or.inl none⟩
          | false =>
              rw [if_neg Bool.false_ne_true, wp_bind]
              apply ends_tryRestartSdp
              apply ends_newCycle
              · exact ⟨allowed.budget.remaining, allowed.budget.total, allowed.budget.bounded⟩
              · exact none
              · rfl
        · intro _ _
          exact allowed
      next => exact allowed

theorem allowed_start (config : EVCCConfig) (around : Surroundings)
    (positive : 0 ≤ config.sdpRetryCycles) :
    (System.start around config).Allowed config.sdpRetryCycles := by
  apply allowed_of_ends
  unfold Ends
  rw [wp_map]
  apply ends_newCycle
  · constructor
    · exact positive
    · simp [CommunicationSessionHandler.new, requests]
    · intro past earlier
      cases List.suffix_nil.mp earlier
      exact Nat.zero_le _
  · rfl
  · rfl

/-! ## Runs -/

/-- However the requests are answered, the handler sends at most 50 for each cycle that it is
configured for, and at no time more than 50 in one cycle. -/
theorem requests_le_of_run {config : EVCCConfig} {around : Surroundings} {history : List Event}
    {system : System} (positive : 0 ≤ config.sdpRetryCycles)
    (run : Run Step (System.start around config) history system) :
    (requests system.handler.actions : Int) ≤ 50 * config.sdpRetryCycles ∧
      ∀ past, past <:+ system.handler.actions → requestsInCycle past ≤ 50 := by
  have allowed : system.Allowed config.sdpRetryCycles :=
    run.invariant (allowed_start config around positive) fun _ _ _ => allowed_step
  have remaining := allowed.budget.remaining
  have total := allowed.budget.total
  exact ⟨by omega, allowed.budget.bounded⟩

/-- A response that names the port 49152, without TLS. -/
def sampleResponse : List UInt8 :=
  [0x01, 0xFE, 0x90, 0x01, 0, 0, 0, 20, 0xFE, 0x80, 0, 0, 0, 0, 0, 0, 0, 0, 0, 0, 0, 0, 0, 1,
    0xC0, 0x00, 0x10, 0x00]

/-- Two cycles: a timeout, a response of the wrong length, a session that fails. -/
def sampleHistory : List Event :=
  [⟨.stop false, {}⟩, ⟨.udpPacket sampleResponse, {}⟩,
    ⟨.udpPacket [0x01, 0xFE, 0x90, 0x01, 0, 0, 0, 2, 0, 0], {}⟩, ⟨.receiveTimeout, {}⟩]

def sampleHandler (sdpRetriesNumber : Nat) (sdpRetryCycles : Int) (commSession : CommSession)
    (actions : List Action) : CommunicationSessionHandler where
  config := ⟨false, false, 2⟩
  sdpRetriesNumber := sdpRetriesNumber
  sdpRetryCycles := sdpRetryCycles
  commSession := commSession
  actions := actions

def sampleRequest : Action :=
  .sdpRequest ⟨.noTls, .tcp⟩

def sampleActions : List Action :=
  [sampleRequest, .sdpCycle, sampleRequest, sampleRequest, .sdpCycle]

/-- The session has been deleted, and no cycle is left. -/
theorem run_sampleHistory :
    Run Step (System.start {} ⟨false, false, 2⟩) sampleHistory
      ⟨sampleHandler 49 0 .deleted sampleActions, 3, false⟩ := by
  have timeout : Step (System.start {} ⟨false, false, 2⟩) ⟨.receiveTimeout, {}⟩
      ⟨sampleHandler 48 1 .none [sampleRequest, sampleRequest, .sdpCycle], 1, false⟩ :=
    @Step.receiveTimeout (sampleHandler 49 1 .none [sampleRequest, .sdpCycle]) 0 {} (by decide)
  have restart : Step
      ⟨sampleHandler 48 1 .none [sampleRequest, sampleRequest, .sdpCycle], 1, false⟩
      ⟨.udpPacket [0x01, 0xFE, 0x90, 0x01, 0, 0, 0, 2, 0, 0], {}⟩
      ⟨sampleHandler 49 0 .none sampleActions, 2, false⟩ :=
    Step.udpPacket _ (by decide)
  have session : Step ⟨sampleHandler 49 0 .none sampleActions, 2, false⟩
      ⟨.udpPacket sampleResponse, {}⟩
      ⟨sampleHandler 49 0 (.running ((sampleResponse.drop 8).take 16) 49152 false) sampleActions,
        3, false⟩ :=
    Step.udpPacket _ (by decide)
  exact .step (.step (.step (.step .start timeout) restart) session) (Step.stop false)

theorem sample_requests_le :
    (requests sampleActions : Int) ≤ 50 * 2 ∧
      ∀ past, past <:+ sampleActions → requestsInCycle past ≤ 50 :=
  requests_le_of_run (by decide) run_sampleHistory

end Iso15118.Evcc.Handler
