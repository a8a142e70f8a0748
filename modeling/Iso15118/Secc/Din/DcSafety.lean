import Iso15118.Secc.DcSequence
import Iso15118.Secc.Din.Loop

/-!
# The sequence of a DIN SPEC 70121 session

As in ISO 15118-2, a `PowerDelivery` object that has stopped the energy transfer
accepts another `PowerDeliveryReq`.
-/

namespace Iso15118.Secc.Din

open Effect Transition
open Iso15118.Shared
open Iso15118.Shared.Din

/-! ## What the states do -/

section

variable {answers : Answers} {message : V2GMessage} {world next : World}

/-- Of a state machine that has been stopped nothing is asked that concerns a session that
goes on. -/
theorem stopStateMachine_goesOn (message : V2GMessage) (responseCode : ResponseCode)
    {property : World → Prop} (world : World) :
    wp (stopStateMachine message responseCode)
      (fun _ next => next.currentState.nextState ≠ some .terminate → property next)
      (fun _ _ => True) world :=
  wp_goesOn_of_terminates (stopStateMachine_terminates message responseCode world)

/-- A cable check that leads on has finished. -/
def CableCheck.Finishes (next : World) : Prop :=
  next.currentState.nextState ≠ none → ∃ header status,
    next.currentState.nextV2gtpMsg = some ⟨header, .ok, .cableCheckRes status .finished⟩

theorem CableCheck.respond_finishes (answers : Answers) (req : CableCheckReq)
    {nextState : Option (NextState StateName)} {evseProcessing : V2.EVSEProcessing}
    {world : World} (finished : nextState ≠ none → evseProcessing = .finished) :
    wp (respond answers req nextState evseProcessing)
      (fun _ next => next.currentState.nextState ≠ some .terminate → Finishes next)
      (fun _ _ => True) world := by
  simp only [respond, wp_bind, wp_onEvData, wp_modify, wp_ask, implies_true, and_true,
    wp_createNextMessage]
  intro status _ _ _ leads
  rw [finished leads]
  exact ⟨_, status, rfl⟩

theorem CableCheck.onCableCheckReq_finishes {req : CableCheckReq}
    {cableCheckStarted contactorsClosed : Bool}
    (answered : onCableCheckReq answers message req cableCheckStarted contactorsClosed world =
      .ok ⟨⟩ next) (goesOn : next.currentState.nextState ≠ some .terminate) : Finishes next := by
  have finishes : wp (onCableCheckReq answers message req cableCheckStarted contactorsClosed)
      (fun _ next => next.currentState.nextState ≠ some .terminate → Finishes next)
      (fun _ _ => True) world := by
    unfold onCableCheckReq
    split
    · rw [wp_bind]
      apply wp_of_forall _ fun _ _ => trivial
      intro _ started
      cases contactorsClosed with
      | true =>
          rw [if_pos rfl, wp_bind, wp_ask]
          refine ⟨fun isolationLevel _ => ?_, fun _ _ => trivial⟩
          unfold onStatus
          split
          · exact respond_finishes answers req fun _ => rfl
          · split
            · exact stopStateMachine_goesOn message _ _
            · exact respond_finishes answers req fun leads => absurd rfl leads
      | false =>
          rw [if_neg nofun, wp_bind, wp_ask]
          refine ⟨fun closed _ => ?_, fun _ _ => trivial⟩
          unfold onContactors
          split
          · rw [wp_bind, wp_setOwn]
            exact respond_finishes answers req fun leads => absurd rfl leads
          · exact stopStateMachine_goesOn message _ _
          · exact respond_finishes answers req fun leads => absurd rfl leads
    · exact stopStateMachine_goesOn message _ _
  have holds := post_of_eq_ok finishes answered
  exact holds goesOn

/-- The object that has answered a request does not insist on another. -/
theorem PreCharge.onPreChargeReq_own {req : PreChargeReq}
    (answered : onPreChargeReq answers message req world = .ok ⟨⟩ next)
    (goesOn : next.currentState.nextState ≠ some .terminate) :
    next.currentState.own = .preCharge false := by
  have own : wp (onPreChargeReq answers message req)
      (fun _ next => next.currentState.nextState ≠ some .terminate →
        next.currentState.own = .preCharge false)
      (fun _ _ => True) world := by
    unfold onPreChargeReq
    split
    · simp only [wp_bind, wp_onEvData, wp_modify, wp_ask, implies_true, and_true]
      intro presentCurrent _
      unfold preCharge
      rw [wp_bind, wp_get]
      split
      · exact stopStateMachine_goesOn message _ _
      · rw [wp_ite]
        split
        · rw [wp_bind]
          apply wp_of_forall _ fun _ _ => trivial
          intro sent reached
          rw [wp_ite]
          split
          · simp only [respond, wp_bind, wp_ask, wp_ofExcept, wp_createNextMessage, wp_setOwn,
              implies_true, and_true]
          · exact stopStateMachine_goesOn message _ _
        · exact stopStateMachine_goesOn message _ _
    · exact stopStateMachine_goesOn message _ _
  have holds := post_of_eq_ok own answered
  exact holds goesOn

/-- A `PowerDeliveryReq` that is ready to charge leads to the charge loop, and another
one leaves an object that does not insist on one. -/
def PowerDelivery.Leads (req : PowerDeliveryReq) (next : World) : Prop :=
  next.currentState.nextState = some (.state .currentDemand) ∧ req.readyToCharge = true ∨
    next.currentState.nextState = none ∧ next.currentState.own = .powerDelivery false

theorem PowerDelivery.respond_leads (answers : Answers) {req : PowerDeliveryReq}
    {nextState : Option (NextState StateName)} {world : World}
    (allowed : nextState = some (.state .currentDemand) ∧ req.readyToCharge = true ∨
      nextState = none) :
    wp (respond answers nextState)
      (fun _ next => next.currentState.nextState ≠ some .terminate → Leads req next)
      (fun _ _ => True) world := by
  simp only [respond, wp_bind, wp_ask, wp_createNextMessage, wp_setOwn, implies_true, and_true]
  intro status _ _ _
  rcases allowed with ⟨rfl, ready⟩ | rfl
  · exact .inl ⟨rfl, ready⟩
  · exact .inr ⟨rfl, rfl⟩

theorem PowerDelivery.onPowerDeliveryReq_leads {req : PowerDeliveryReq}
    (answered : onPowerDeliveryReq answers message req world = .ok ⟨⟩ next)
    (goesOn : next.currentState.nextState ≠ some .terminate) : Leads req next := by
  have leads : wp (onPowerDeliveryReq answers message req)
      (fun _ next => next.currentState.nextState ≠ some .terminate → Leads req next)
      (fun _ _ => True) world := by
    simp only [onPowerDeliveryReq, wp_bind, wp_ofExcept, wp_onEvData, wp_modify, wp_ite,
      implies_true, and_true]
    intro soc _
    split
    next ready =>
      simp only [startCharging, wp_bind, wp_ask, wp_updateSession, implies_true, and_true]
      exact fun _ _ => respond_leads answers (.inl ⟨rfl, ready⟩)
    next =>
      simp only [stopCharging, wp_bind, wp_ask, wp_ite, implies_true, and_true]
      intro _ _ _ _ contactorOpened _
      split
      · exact respond_leads answers (.inr rfl)
      · exact stopStateMachine_goesOn message _ _
  have holds := post_of_eq_ok leads answered
  exact holds goesOn

end

/-! ## The events -/

/-- The steps that the sequence is about. -/
def dcEvents (config : Config) : DcEvents SECCSession (Option Received) where
  finishesCableCheck session input next :=
    ∃ header req answers resHeader status,
      input = some ⟨.request ⟨header, .cableCheckReq req⟩, answers⟩ ∧
        next.sent = ⟨resHeader, .ok, .cableCheckRes status .finished⟩ :: session.sent
  preCharges session input next :=
    ∃ header req, (protocol config).Processes session input ⟨header, .preChargeReq req⟩ ∧
      next.ended = false
  opensContactor _ input next :=
    ∃ header req answers, input = some ⟨.request ⟨header, .powerDeliveryReq req⟩, answers⟩ ∧
      req.readyToCharge = false ∧ answers.isContactorOpened = .ok true ∧
      .isContactorOpened ∈ next.world.calls

/-- The step leads into the charge loop, or into a new object of it. -/
def EntersCurrentDemand (session next : SECCSession) : Prop :=
  next.ended = false ∧ next.world.currentState.own.name = .currentDemand ∧
    (session.world.currentState.own.name ≠ .currentDemand ∨
      next.world.currentState.own = .currentDemand true)

/-- No `PowerDelivery` object that has answered a request before starts the energy
transfer. -/
def NoRestart (config : Config) (session : SECCSession) (input : Option Received)
    (_next : SECCSession) : Prop :=
  ∀ header req, (protocol config).Processes session input ⟨header, .powerDeliveryReq req⟩ →
    session.world.currentState.own = .powerDelivery false → req.readyToCharge = false

/-! ## The stages -/

/-- What the states say about the past. `PowerDelivery` takes requests over from other
states only. -/
def Own.dcStage : Own → DcStage
  | .preCharge true => .cableChecked
  | .preCharge false => .prepared
  | .currentDemand _ => .prepared
  | .powerDelivery true => .unreached
  | _ => .unprepared

section

variable {config : Config} {start session next : SECCSession}
  {history : List (Option Received)} {input : Option Received}

/-- Apart from an object that has answered one before, a state accepts a
`PowerDeliveryReq` only when the charging has been prepared. -/
theorem dcStage_of_accepts {own : Own} (accepted : stateTable.accepts own .powerDeliveryReq = true)
    (reachable : own.dcStage ≠ .unreached) (fresh : own ≠ .powerDelivery false) :
    own.dcStage = .prepared := by
  have expected := mem_of_accepts accepted
  cases own with
  | currentDemand expecting => rfl
  | preCharge expecting =>
      cases expecting with
      | false => rfl
      | true => cases accepted
  | powerDelivery expecting =>
      cases expecting with
      | false => exact absurd rfl fresh
      | true => exact absurd rfl reachable
  | _ => simp [stateTable, Own.name, StateName.expectedMsgTypes] at expected

/-- A step of a run without restarts goes to a stage that it has earned. -/
theorem earns_of_step (resting : session.world.currentState.nextState = none)
    (step : (machine config).Step session input next)
    (fresh : NoRestart config session input next) (goesOn : next.ended = false)
    (reachable : session.world.currentState.own.dcStage ≠ .unreached) :
    DcStage.Earns (dcEvents config) session.world.currentState.own.dcStage
      next.world.currentState.own.dcStage session input next := by
  rcases SeccProtocol.step_answered step goesOn with
    ⟨⟨header, req⟩, answers, reached, response, rfl, answered⟩
  have expected : req.requestType ∈ session.world.currentState.own.name.expectedMsgTypes :=
    mem_of_accepts answered.accepted
  cases req with
  | powerDeliveryReq req =>
      rcases PowerDelivery.onPowerDeliveryReq_leads answered.answer answered.not_terminate with
        ⟨leads, ready⟩ | ⟨stays, own⟩
      · rw [answered.currentState_new leads]
        refine ⟨?_, .inl (dcStage_of_accepts answered.accepted reachable ?_)⟩
        · rintro ⟨_, _, _, ⟨⟩, stops, _⟩
          cases stops.symm.trans ready
        · intro restarted
          have stops := fresh header req ⟨⟨answers, rfl⟩, answered.accepted, answered.known⟩
            restarted
          cases stops.symm.trans ready
      · rw [answered.currentState_eq stays, own]
        trivial
  | cableCheckReq req =>
      rcases answered.leads resting with ⟨_, same, named⟩ | ⟨name, leads, same, allowed⟩
      · change reached.currentState.own.name = .cableCheck at named
        rw [same]
        cases stayed : reached.currentState.own <;> rw [stayed] at named <;> cases named
        trivial
      · have finishes := CableCheck.onCableCheckReq_finishes answered.answer
          answered.not_terminate
        obtain ⟨resHeader, status, finished⟩ := finishes (by rw [leads]; nofun)
        rw [same]
        cases name <;> cases allowed
        refine ⟨?_, .inl ⟨header, req, answers, resHeader, status, rfl, ?_⟩⟩
        · rintro ⟨_, _, _, ⟨⟩, _⟩
        · rw [answered.sent, Option.some.inj (answered.prepared.symm.trans finished)]
  | preChargeReq req =>
      rcases answered.leads resting with ⟨_, same, _⟩ | ⟨name, _, _, allowed⟩
      · rw [same, PreCharge.onPreChargeReq_own answered.answer answered.not_terminate]
        have closed : ¬(dcEvents config).opensContactor session
            (some ⟨.request ⟨header, .preChargeReq req⟩, answers⟩) next := by
          rintro ⟨_, _, _, ⟨⟩, _⟩
        refine ⟨closed, ?_⟩
        have processes : (dcEvents config).preCharges session
            (some ⟨.request ⟨header, .preChargeReq req⟩, answers⟩) next :=
          ⟨header, req, ⟨⟨answers, rfl⟩, answered.accepted, answered.known⟩, goesOn⟩
        cases own : session.world.currentState.own with
        | preCharge expecting =>
            cases expecting with
            | true => exact .inr ⟨rfl, processes⟩
            | false => exact .inl rfl
        | _ =>
            rw [own] at expected
            simp [Own.name, StateName.expectedMsgTypes, Request.requestType] at expected
      · cases name <;> cases allowed
  | currentDemandReq req =>
      rcases answered.leads resting with ⟨_, same, named⟩ | ⟨name, _, _, allowed⟩
      · change reached.currentState.own.name = .currentDemand at named
        rw [same]
        cases stayed : reached.currentState.own <;> rw [stayed] at named <;> cases named
        refine ⟨?_, .inl ?_⟩
        · rintro ⟨_, _, _, ⟨⟩, _⟩
        · cases own : session.world.currentState.own with
          | currentDemand expecting => rfl
          | _ =>
              rw [own] at expected
              simp [Own.name, StateName.expectedMsgTypes, Request.requestType] at expected
      · cases name <;> cases allowed
  | _ =>
      rcases answered.leads resting with ⟨_, same, named⟩ | ⟨name, _, same, allowed⟩
      · rw [same]
        cases stayed : reached.currentState.own <;> rw [stayed] at named <;> cases named
        trivial
      · rw [same]
        cases name <;> trivial

/-- In a run without restarts every state tells of the past. -/
theorem holds_of_run (new : New start)
    (run : Run (Restrict (machine config).Step (NoRestart config)) start history session)
    (goesOn : session.ended = false) :
    session.world.currentState.nextState = none ∧
      session.world.currentState.own.dcStage.Holds (dcEvents config) (machine config).Step start
        history session := by
  induction run with
  | start =>
      rw [new.1]
      exact ⟨rfl, trivial⟩
  | @step history session next input past last ih =>
      rcases ih last.1.1 with ⟨resting, holds⟩
      have run : Run (machine config).Step start history session :=
        past.mono fun _ _ _ step => step.1
      constructor
      · rcases SeccProtocol.step_answered last.1 goesOn with ⟨_, _, _, _, _, answered⟩
        exact answered.resting
      · apply DcStage.holds_of_earns run last.1 holds
        apply earns_of_step resting last.1 last.2 goesOn
        intro unreached
        rw [unreached] at holds
        exact holds

/-- In a run without restarts, a session that enters the charge loop has been prepared
since the contactors have last been opened. -/
theorem currentDemand_prepared (new : New start)
    (run : Run (Restrict (machine config).Step (NoRestart config)) start history session)
    (last : Restrict (machine config).Step (NoRestart config) session input next)
    (enters : EntersCurrentDemand session next) :
    (dcEvents config).Prepared (machine config).Step start (input :: history) next := by
  rcases enters with ⟨goesOn, name, _⟩
  have holds := (holds_of_run new (.step run last) goesOn).2
  cases own : next.world.currentState.own with
  | currentDemand expecting =>
      rw [own] at holds
      exact holds
  | _ =>
      rw [own] at name
      cases name

end

end Iso15118.Secc.Din
