import Iso15118.Evcc.Din.Loop
import Iso15118.Evcc.V2.StopSequence
import Iso15118.Evcc.V20.LastRequest
import Iso15118.Shared.LastMessage

/-!
# The EVCC asks once

As long as the EVCC goes on, every request that it sends is made for the response that it has just
received. Ending the session can send the last request a second time: the state object that ends it
has prepared that request before, and the loop sends whatever is prepared.
-/

namespace Iso15118.Evcc

open Effect Transition
open Iso15118.Shared

variable {ρ : Type}

theorem unreported {ς κ ν μ γ M A : Type} {new : ν → κ}
    {processMessage : A → M → EStateM PyError (World ς κ ν μ γ ρ) PUnit} :
    (machine new processMessage).Unreported where
  updateStateInfo _ _ := rfl
  construct _ _ := rfl

namespace Din

open Iso15118.Shared.Din

/-- A request that the table gives for the response that has been received. -/
def Made (world : World ρ) (received : Received V2GMessage Answers) (message : RequestMessage) :
    Prop :=
  ∃ res turn, received.message = .response res ∧
    Row received.answers res.header world.currentState.own res.response world.session turn ∧
    turn.request = some message.request

theorem Row.waits_or_terminates {answers : Answers} {header : MessageHeader} {own : StateName}
    {response : Response} {session : Session} {turn : Turn}
    (row : Row answers header own response session turn) :
    turn.request.isSome = true ∧ turn.nextState ≠ some .terminate ∧ turn.nextState ≠ some .pause ∨
      turn.request = none ∧ turn.nextState = some .terminate := by
  cases row <;> first
    | exact .inl ⟨rfl, by simp [Turn.to, Turn.stay]⟩
    | exact .inr ⟨rfl, rfl⟩

theorem prepares_of_processed [EVController ρ] {world after : World ρ}
    {received : Received V2GMessage Answers}
    (processed : (machine ρ).processMessage received world = .ok ⟨⟩ after) :
    (machine ρ).Prepares Made received world after := by
  have reacts := post_of_eq_ok (machine_reacts received) processed
  cases reacts with
  | answers res turn response accepts row leads =>
      have message := leads.message
      obtain ⟨requests, waits⟩ | ⟨silent, terminates⟩ := row.waits_or_terminates
      · obtain ⟨request, requests⟩ := Option.isSome_iff_exists.mp requests
        rw [requests] at message
        refine .inl ⟨_, message, ⟨res, turn, response, row, requests⟩, ?_⟩
        change after.currentState.nextState ≠ _ ∧ after.currentState.nextState ≠ _
        rw [leads.nextState]
        exact waits
      · rw [silent] at message
        exact .inr ⟨message, .inl (leads.nextState.trans terminates)⟩
  | refuses _ _ currentState => exact SessionStateMachine.prepares_of_stopped currentState

end Din

namespace V2

open Iso15118.Shared.V2

/-- A request that the table gives for the response that has been received. -/
def Made [EVController ρ] (world : World ρ) (received : Received V2GMessage Answers)
    (message : RequestMessage) : Prop :=
  ∃ res turn, received.message = .response res ∧
    Row received.answers (schedulesOf world.controller) world.currentState.own res.response
      world.session turn ∧
    turn.request = some message.request

theorem Row.goesOn {answers : Answers} {schedules : Schedules} {own : StateName}
    {response : Response} {session : Session} {turn : Turn}
    (row : Row answers schedules own response session turn) {request : Request}
    (requests : turn.request = some request) :
    turn.nextState ≠ some .terminate ∧ turn.nextState ≠ some .pause := by
  cases row
  case serviceDiscovery asks => cases asks <;> simp [Turn.to]
  case serviceDetail asks => cases asks <;> simp [Turn.to]
  case charge charges => cases charges <;> simp [Turn.to]
  case receiptCharge charges => cases charges <;> simp [Turn.to]
  all_goals first
    | cases requests; done
    | simp [Turn.to]

theorem prepares_of_processed [EVController ρ] {world after : World ρ}
    {received : Received V2GMessage Answers}
    (processed : (machine ρ).processMessage received world = .ok ⟨⟩ after) :
    (machine ρ).Prepares Made received world after := by
  have reacts := post_of_eq_ok (machine_reacts received) processed
  cases reacts with
  | answers res turn response accepts row leads =>
      cases requests : turn.request with
      | some request =>
          obtain ⟨header, message⟩ := leads.prepares request requests
          refine .inl ⟨_, message, ⟨res, turn, response, row, requests⟩, ?_⟩
          change after.currentState.nextState ≠ _ ∧ after.currentState.nextState ≠ _
          rw [leads.nextState]
          exact row.goesOn requests
      | none =>
          refine .inr ⟨leads.silent requests, .inl ?_⟩
          exact leads.nextState.trans (row.terminates requests)
  | refuses _ _ currentState => exact SessionStateMachine.prepares_of_stopped currentState

end V2

namespace V20

open Iso15118.Shared.V20

/-- A request that the table gives for the message that has been received. -/
def Made (world : World ρ) (received : Received V2GMessage Answers) (message : RequestMessage) :
    Prop :=
  ∃ turn, Digests world.currentState.own received.message world.session turn ∧
    turn.request = some message.request

theorem Row.goesOn {contract : Contract} {own : Own} {response : Response} {session : Session}
    {turn : Turn} (row : Row contract own response session turn) {request : Request}
    (requests : turn.request = some request) :
    turn.nextState ≠ some .terminate ∧ turn.nextState ≠ some .pause := by
  cases row <;> first
    | cases requests; done
    | simp

theorem Row.terminates {contract : Contract} {own : Own} {response : Response} {session : Session}
    {turn : Turn} (row : Row contract own response session turn) (silent : turn.request = none)
    (ends : turn.waiting = none) : turn.nextState = some .terminate := by
  cases row <;> first
    | rfl
    | cases silent; done
    | cases ends

theorem WeldingRow.goesOn {complete : Bool} {session : Session} {turn : Turn}
    (row : WeldingRow complete session turn) {request : Request}
    (requests : turn.request = some request) :
    turn.nextState ≠ some .terminate ∧ turn.nextState ≠ some .pause := by
  cases row <;> first
    | cases requests; done
    | simp

theorem WeldingRow.terminates {complete : Bool} {session : Session} {turn : Turn}
    (row : WeldingRow complete session turn) (silent : turn.request = none) :
    turn.nextState = some .terminate := by
  cases row with
  | timeout => rfl
  | complete | detect => cases silent

theorem prepares_of_leads [EVController ρ] {world after : World ρ}
    {received : Received V2GMessage Answers} {turn : Turn}
    (digests : Digests world.currentState.own received.message world.session turn)
    (leads : turn.Leads world after)
    (waits : ∀ request, turn.request = some request →
      turn.nextState ≠ some .terminate ∧ turn.nextState ≠ some .pause)
    (silent : turn.request = none → turn.nextState = some .terminate ∨
      world.currentState.nextV2gtpMsg = none) :
    (machine ρ).Prepares Made received world after := by
  cases requests : turn.request with
  | some request =>
      obtain ⟨header, message⟩ := leads.prepares request requests
      refine .inl ⟨_, message, ⟨turn, digests, requests⟩, ?_⟩
      change after.currentState.nextState ≠ _ ∧ after.currentState.nextState ≠ _
      rw [leads.nextState]
      exact waits request requests
  | none =>
      refine .inr ⟨leads.silent requests, ?_⟩
      exact (silent requests).imp_left leads.nextState.trans

/-- Where the table leads on without a request, nothing has been prepared. -/
theorem prepares_of_processed [EVController ρ] {session : EVCCSession ρ} {after : World ρ}
    {received : Received V2GMessage Answers}
    (idle : session.world.currentState.nextState = none) (waits : Waits session)
    (processed : (machine ρ).processMessage received session.world = .ok ⟨⟩ after) :
    (machine ρ).Prepares Made received session.world after := by
  have reacts := post_of_eq_ok (machine_reacts (keeps_any ρ) idle received) processed
  cases reacts with
  | answers res turn response accepts row leads =>
      refine prepares_of_leads (.answers res response row) leads (fun _ => row.goesOn) ?_
      intro silent
      cases leadsOn : turn.waiting with
      | none => exact .inl (row.terminates silent leadsOn)
      | some waiting => exact .inr (row.leftover_of_silent silent leadsOn waits.leftover)
  | refuses _ _ currentState => exact SessionStateMachine.prepares_of_stopped currentState
  | detectsWelding complete turn own row leads =>
      exact prepares_of_leads (.detectsWelding complete own row) leads (fun _ => row.goesOn)
        fun silent => .inl (row.terminates silent)

end V20

/-- Each iteration of the EVCC sends a request that is made for the message it has received, as
long as the session goes on; it sends the last request once more exactly if it ends the session
without an exception in a state object that has prepared it. -/
theorem requests_sent_once :
    (∀ {ρ : Type} [Din.EVController ρ] {start session next : Din.EVCCSession ρ}
        {history : List (Option (Received Shared.Din.V2GMessage Din.Answers))}
        {input : Option (Received Shared.Din.V2GMessage Din.Answers)},
      start.world.currentState = { own := .sessionSetup } →
      Run (Din.machine ρ).Step start history session → (Din.machine ρ).Step session input next →
      (Din.machine ρ).SendsOnce Din.Made session input next) ∧
    (∀ {ρ : Type} [V2.EVController ρ] {start session next : V2.EVCCSession ρ}
        {history : List (Option (Received Shared.V2.V2GMessage V2.Answers))}
        {input : Option (Received Shared.V2.V2GMessage V2.Answers)},
      V2.Starts start →
      Run (V2.machine ρ).Step start history session → (V2.machine ρ).Step session input next →
      (V2.machine ρ).SendsOnce V2.Made session input next) ∧
    ∀ {ρ : Type} [V20.EVController ρ] {start session next : V20.EVCCSession ρ}
        {history : List (Option (Received Shared.V20.V2GMessage V20.Answers))}
        {input : Option (Received Shared.V20.V2GMessage V20.Answers)},
      V20.Starts start →
      Run (V20.machine ρ).Step start history session → (V20.machine ρ).Step session input next →
      (V20.machine ρ).SendsOnce V20.Made session input next := by
  refine ⟨?_, ?_, ?_⟩
  · intro ρ _ start session next history input starts run step
    refine SessionStateMachine.sendsOnce_of_run unreported ?_ run step
      fun _ _ => Din.prepares_of_processed
    exact congrArg StateObject.nextV2gtpMsg starts
  · intro ρ _ start session next history input starts run step
    refine SessionStateMachine.sendsOnce_of_run unreported ?_ run step
      fun _ _ => V2.prepares_of_processed
    exact congrArg StateObject.nextV2gtpMsg starts.currentState
  · intro ρ _ start session next history input starts run step
    obtain ⟨idle, waits⟩ := V20.waits_of_run starts run step.1
    refine SessionStateMachine.sendsOnce_of_run unreported ?_ run step
      fun _ _ => V20.prepares_of_processed idle waits
    exact congrArg StateObject.nextV2gtpMsg starts.currentState

/-- A DIN SPEC 70121 session is ended while the EV waits for its authorization, and the last
request is sent again; an ISO 15118-2 session is ended at once, and a cable check of ISO 15118-20
goes on. -/
theorem requests_sent_once_sample :
    (let session := (Din.machine Din.Sample.Vehicle).rcvAll Din.Sample.start
        Din.Sample.authenticationHistory
      let input := Din.Sample.response .sessionStopRes
      let next := (Din.machine Din.Sample.Vehicle).rcv session input
      (Din.machine Din.Sample.Vehicle).SendsOnce Din.Made session input next ∧
        next.ended = true ∧ next.sent.length = session.sent.length + 1) ∧
    (V2.machine V2.Sample.Vehicle).SendsOnce V2.Made V2.Sample.start none
        ((V2.machine V2.Sample.Vehicle).rcv V2.Sample.start none) ∧
    (let session := (V20.machine V20.Sample.SteadyController).rcvAll
        (V20.Sample.start ⟨.dc⟩) V20.Sample.cableCheckHistory
      let input := V20.Sample.response (.dcCableCheckRes .ongoing)
      (V20.machine V20.Sample.SteadyController).SendsOnce V20.Made session input
        ((V20.machine V20.Sample.SteadyController).rcv session input)) := by
  refine ⟨⟨?_, by decide +kernel, by decide +kernel⟩, ?_, ?_⟩
  · have goesOn : (Din.machine Din.Sample.Vehicle).GoesOn Din.Sample.start
        (Din.Sample.response .sessionStopRes :: Din.Sample.authenticationHistory) := by
      decide +kernel
    exact requests_sent_once.1 rfl (SessionStateMachine.run_of_goesOn goesOn.1)
      (SessionStateMachine.step_rcvAll goesOn.2 _)
  · exact requests_sent_once.2.1 V2.Sample.starts_start .start ⟨rfl, rfl⟩
  · have goesOn : (V20.machine V20.Sample.SteadyController).GoesOn (V20.Sample.start ⟨.dc⟩)
        (V20.Sample.response (.dcCableCheckRes .ongoing) :: V20.Sample.cableCheckHistory) := by
      decide +kernel
    exact requests_sent_once.2.2 (V20.Sample.starts_start _)
      (SessionStateMachine.run_of_goesOn goesOn.1) (SessionStateMachine.step_rcvAll goesOn.2 _)

end Iso15118.Evcc
