import Iso15118.Secc.DcSequence
import Iso15118.Secc.V2.EnergyModes

/-!
# The sequence of an ISO 15118-2 DC session

A `PowerDelivery` object that has stopped the energy transfer stays the current one,
and it accepts another `PowerDeliveryReq`. Apart from that, the charge loop of a DC
session comes after a cable check and a pre-charge, also after a stop.
-/

namespace Iso15118.Secc.V2

open Effect Transition
open Iso15118.Shared
open Iso15118.Shared.V2

/-! ## What the states do -/

section

variable {answers : Answers} {message : V2GMessage} {world next : World}

/-- A cable check that leads on has finished. -/
theorem CableCheck.respond_finishes (answers : Answers) (req : CableCheckReq)
    {nextState : Option (NextState StateName)} {evseProcessing : EVSEProcessing} {world : World}
    (finished : ∀ name, nextState = some (.state name) → evseProcessing = .finished) :
    wp (respond answers req nextState evseProcessing)
      (fun _ next => ∀ name, next.currentState.nextState = some (.state name) →
        ∃ header status, next.currentState.nextV2gtpMsg =
          some ⟨header, .ok, .cableCheckRes status .finished⟩)
      (fun _ _ => True) world := by
  simp only [respond, wp_bind, wp_onEvData, wp_modify, wp_ask, implies_true, and_true,
    wp_createNextMessage]
  intro status _ _ name leads
  rw [finished name leads]
  exact ⟨_, status, rfl⟩

theorem CableCheck.onCableCheckReq_finishes {req : CableCheckReq}
    {cableCheckStarted contactorsClosed : Bool}
    (answered : onCableCheckReq answers message req cableCheckStarted contactorsClosed world =
      .ok ⟨⟩ next) {name : StateName}
    (leads : next.currentState.nextState = some (.state name)) :
    ∃ header status, next.currentState.nextV2gtpMsg =
      some ⟨header, .ok, .cableCheckRes status .finished⟩ := by
  have stopped : ∀ world : World, wp (stopStateMachine message .failed)
      (fun _ next => ∀ name, next.currentState.nextState = some (.state name) →
        ∃ header status, next.currentState.nextV2gtpMsg =
          some ⟨header, .ok, .cableCheckRes status .finished⟩)
      (fun _ _ => True) world := by
    intro world
    apply wp_mono _ (fun _ _ _ => trivial) (stopStateMachine_terminates message .failed world)
    intro _ next terminates name leads
    cases terminates.symm.trans leads
  have finishes : wp (onCableCheckReq answers message req cableCheckStarted contactorsClosed)
      (fun _ next => ∀ name, next.currentState.nextState = some (.state name) →
        ∃ header status, next.currentState.nextV2gtpMsg =
          some ⟨header, .ok, .cableCheckRes status .finished⟩)
      (fun _ _ => True) world := by
    unfold onCableCheckReq
    split
    · rw [wp_bind]
      apply wp_of_forall _ fun _ _ => trivial
      intro _ started
      cases contactorsClosed with
      | true =>
          rw [if_pos rfl, wp_bind, wp_ask]
          refine ⟨fun isolationLevel _ => ?_, fun _ _ => trivial⟩
          unfold onStatus
          split
          · exact respond_finishes answers req fun _ _ => rfl
          · split
            · exact stopped _
            · exact respond_finishes answers req nofun
      | false =>
          rw [if_neg nofun, wp_bind, wp_ask]
          refine ⟨fun closed _ => ?_, fun _ _ => trivial⟩
          unfold onContactors
          split
          · rw [wp_bind, wp_setOwn]
            exact respond_finishes answers req nofun
          · exact stopped _
          · exact respond_finishes answers req nofun
    · exact stopped _
  have holds := post_of_eq_ok finishes answered
  exact holds name leads

/-- The object that has answered a request does not insist on another. -/
theorem PreCharge.onPreChargeReq_own {req : PreChargeReq}
    (answered : onPreChargeReq answers message req world = .ok ⟨⟩ next)
    (goesOn : next.currentState.nextState ≠ some .terminate) :
    next.currentState.own = .preCharge false := by
  have responds : ∀ world : World, wp (respond answers)
      (fun _ next => next.currentState.nextState ≠ some .terminate →
        next.currentState.own = .preCharge false)
      (fun _ _ => True) world := by
    intro world
    simp only [respond, wp_bind, wp_ask, wp_ofExcept, wp_createNextMessage, wp_setOwn,
      implies_true, and_true]
  have own : wp (onPreChargeReq answers message req)
      (fun _ next => next.currentState.nextState ≠ some .terminate →
        next.currentState.own = .preCharge false)
      (fun _ _ => True) world := by
    unfold onPreChargeReq
    split
    · simp only [wp_bind, wp_onEvData, wp_modify, wp_ask, implies_true, and_true]
      intro presentCurrent _
      unfold preCharge
      rw [wp_bind, wp_get]
      split
      · exact stopStateMachine_goesOn message _ _
      · rw [wp_ite]
        split
        · rw [wp_bind]
          apply wp_of_forall _ fun _ _ => trivial
          intro sent reached
          rw [wp_ite]
          split
          · exact responds reached
          · exact stopStateMachine_goesOn message _ _
        · exact stopStateMachine_goesOn message _ _
    · exact stopStateMachine_goesOn message _ _
  have holds := post_of_eq_ok own answered
  exact holds goesOn

theorem PowerDelivery.respond_own (answers : Answers) (nextState : Option (NextState StateName))
    (world : World) :
    wp (respond answers nextState) (fun _ next => next.currentState.own = .powerDelivery false)
      (fun _ _ => True) world := by
  unfold respond
  rw [wp_bind, wp_get, wp_ite]
  split <;> simp only [wp_bind, wp_ask, wp_createNextMessage, wp_setOwn, implies_true, and_true]

theorem PowerDelivery.onPowerDeliveryReq_own {req : PowerDeliveryReq}
    (answered : onPowerDeliveryReq answers message req world = .ok ⟨⟩ next)
    (goesOn : next.currentState.nextState ≠ some .terminate) :
    next.currentState.own = .powerDelivery false := by
  have responds : ∀ nextState world, wp (respond answers nextState)
      (fun _ next => next.currentState.nextState ≠ some .terminate →
        next.currentState.own = .powerDelivery false)
      (fun _ _ => True) world := by
    intro nextState world
    exact wp_mono (fun _ _ own _ => own) (fun _ _ _ => trivial)
      (respond_own answers nextState world)
  have own : wp (onPowerDeliveryReq answers message req)
      (fun _ next => next.currentState.nextState ≠ some .terminate →
        next.currentState.own = .powerDelivery false)
      (fun _ _ => True) world := by
    unfold onPowerDeliveryReq
    rw [wp_bind, wp_get, wp_ite]
    split
    · rw [wp_bind, wp_onEvData, wp_modify, wp_bind, wp_ofExcept]
      refine ⟨fun valid _ => ?_, fun _ _ => trivial⟩
      rw [wp_ite]
      split
      · unfold onChargeProgress
        cases req.chargeProgress with
        | start =>
            unfold startCharging
            simp only [wp_bind, wp_ask, wp_ite, wp_get, wp_updateSession, implies_true, and_true]
            intro _ _ _ _ contactorClosed _
            split
            · exact responds _ _
            · exact stopStateMachine_goesOn message _ _
        | stop =>
            unfold stopCharging
            simp only [wp_bind, wp_ask, wp_ite, wp_get, implies_true, and_true]
            intro _ _ _ _ contactorOpened _
            split
            · exact responds _ _
            · exact stopStateMachine_goesOn message _ _
        | renegotiate =>
            unfold renegotiate
            rw [wp_bind, wp_get, wp_ite]
            split
            · exact responds _ _
            · exact stopStateMachine_goesOn message _ _
      · exact stopStateMachine_goesOn message _ _
    · exact stopStateMachine_goesOn message _ _
  have holds := post_of_eq_ok own answered
  exact holds goesOn

/-- The object waits for another request, or schedules have been offered. -/
def ChargeParameterDiscovery.Leads (req : ChargeParameterDiscoveryReq) (next : World) : Prop :=
  next.currentState.nextState = none ∧
      next.currentState.own = .chargeParameterDiscovery true ∨
    next.currentState.nextState = some (.state (nextState req))

theorem ChargeParameterDiscovery.onChargeParameterDiscoveryReq_leads
    {req : ChargeParameterDiscoveryReq}
    (answered : onChargeParameterDiscoveryReq answers message req world = .ok ⟨⟩ next)
    (goesOn : next.currentState.nextState ≠ some .terminate) : Leads req next := by
  have leads : wp (onChargeParameterDiscoveryReq answers message req)
      (fun _ next => next.currentState.nextState ≠ some .terminate → Leads req next)
      (fun _ _ => True) world := by
    unfold onChargeParameterDiscoveryReq
    rw [wp_bind, wp_ask]
    refine ⟨fun energyModes _ => ?_, fun _ _ => trivial⟩
    rw [wp_ite]
    split
    · rw [wp_bind, wp_onEvData, wp_modify, wp_bind, wp_updateSession, wp_bind]
      apply wp_of_forall _ fun _ _ => trivial
      intro parameters exchanged
      simp only [offerSchedules, wp_bind, wp_ask, wp_get, wp_ofExcept, implies_true, and_true]
      intro _ _ schedules _ _ _ _ _
      unfold respond
      rw [wp_ite]
      split
      · simp only [wp_bind, wp_setOwn, wp_createNextMessage, implies_true, and_true]
        exact fun _ _ => .inl ⟨rfl, rfl⟩
      · simp only [wp_bind, wp_updateSession, wp_ofExcept, wp_setOwn, wp_createNextMessage,
          implies_true, and_true]
        exact fun _ _ _ _ _ _ => .inr rfl
    · exact stopStateMachine_goesOn message _ _
  have holds := post_of_eq_ok leads answered
  exact holds goesOn

end

/-! ## The events -/

/-- The steps that the sequence is about. -/
def dcEvents (environment : Environment) : DcEvents SECCSession (Option Received) where
  finishesCableCheck session input next :=
    ∃ header req answers resHeader status,
      input = some ⟨.request ⟨header, .cableCheckReq req⟩, answers⟩ ∧
        next.sent = ⟨resHeader, .ok, .cableCheckRes status .finished⟩ :: session.sent
  preCharges session input next :=
    ∃ header req, (protocol environment).Processes session input ⟨header, .preChargeReq req⟩ ∧
      next.ended = false
  opensContactor _ input next :=
    ∃ header req answers, input = some ⟨.request ⟨header, .powerDeliveryReq req⟩, answers⟩ ∧
      req.chargeProgress = .stop ∧ answers.isContactorOpened = .ok true ∧
      .isContactorOpened ∈ next.world.calls

/-- The step leads a DC session into the charge loop, or into a new object of it. -/
def EntersCurrentDemand (session next : SECCSession) : Prop :=
  next.ended = false ∧ next.world.session.selectedChargingTypeIsAc = false ∧
    next.world.currentState.own.name = .currentDemand ∧
    (session.world.currentState.own.name ≠ .currentDemand ∨
      next.world.currentState.own = .currentDemand true)

/-- No `PowerDelivery` object that has answered a request before starts the energy
transfer. -/
def NoRestart (environment : Environment) (session : SECCSession) (input : Option Received)
    (_next : SECCSession) : Prop :=
  ∀ header req, (protocol environment).Processes session input ⟨header, .powerDeliveryReq req⟩ →
    session.world.currentState.own = .powerDelivery false → req.chargeProgress ≠ .start

/-! ## The stages -/

/-- What the states of a DC session say about the past. Some of them are not reached. -/
def Own.dcStage : Own → DcStage
  | .preCharge true => .cableChecked
  | .preCharge false => .prepared
  | .currentDemand _ => .prepared
  | .chargeParameterDiscovery false => .unreached
  | .powerDelivery true => .unreached
  | .chargingStatus _ => .unreached
  | .meteringReceipt _ => .unreached
  | _ => .unprepared

def dcStage (session : SECCSession) : DcStage :=
  if session.world.session.selectedChargingTypeIsAc then .unprepared
  else session.world.currentState.own.dcStage

section

variable {environment : Environment} {start session next : SECCSession}
  {history : List (Option Received)} {input : Option Received} {header : MessageHeader}
  {answers : Answers} {reached : World} {response : ResponseMessage}

/-- Only a `PowerDeliveryReq` that stops opens the contactors. -/
theorem not_opensContactor {req : Request}
    (other : ∀ stop : PowerDeliveryReq, stop.chargeProgress = .stop →
      req ≠ .powerDeliveryReq stop) :
    ¬(dcEvents environment).opensContactor session
      (some ⟨.request ⟨header, req⟩, answers⟩) next := by
  rintro ⟨_, stop, _, same, progress, _⟩
  cases same
  exact other stop progress rfl

/-- A request other than those about charge parameters and the power delivery leaves a
DC session in a stage that it has earned. -/
theorem earns_of_other {req : Request} (resting : session.world.currentState.nextState = none)
    (reachable : session.world.currentState.own.dcStage ≠ .unreached)
    (chargeParameters : req.requestType ≠ .chargeParameterDiscoveryReq)
    (power : req.requestType ≠ .powerDeliveryReq)
    (answered : (protocol environment).Answered session ⟨header, req⟩ answers reached response
      next) (goesOn : next.ended = false) :
    DcStage.Earns (dcEvents environment) session.world.currentState.own.dcStage
      next.world.currentState.own.dcStage session (some ⟨.request ⟨header, req⟩, answers⟩)
      next := by
  have accepted : req.requestType ∈ session.world.currentState.own.name.expectedMsgTypes :=
    mem_expectedMsgTypes answered.accepted
  have closed : ¬(dcEvents environment).opensContactor session
      (some ⟨.request ⟨header, req⟩, answers⟩) next := by
    apply not_opensContactor
    rintro stop _ rfl
    exact power rfl
  rcases answered.leads resting with ⟨_, same, named⟩ | ⟨name, leads, same, allowed⟩
  · change reached.currentState.own.name = answeredBy req.requestType at named
    rw [same]
    cases req with
    | preChargeReq req =>
        rw [PreCharge.onPreChargeReq_own answered.answer answered.not_terminate]
        refine ⟨closed, ?_⟩
        have processes : (dcEvents environment).preCharges session
            (some ⟨.request ⟨header, .preChargeReq req⟩, answers⟩) next :=
          ⟨header, req, ⟨⟨answers, rfl⟩, answered.accepted, answered.known⟩, goesOn⟩
        cases own : session.world.currentState.own with
        | preCharge expecting =>
            cases expecting with
            | true => exact .inr ⟨rfl, processes⟩
            | false => exact .inl rfl
        | _ =>
            rw [own] at accepted
            simp [Own.name, StateName.expectedMsgTypes, Request.requestType] at accepted
    | currentDemandReq req =>
        cases stayed : reached.currentState.own <;> rw [stayed] at named <;> cases named
        refine ⟨closed, ?_⟩
        cases own : session.world.currentState.own with
        | currentDemand expecting => exact .inl rfl
        | meteringReceipt expecting =>
            rw [own] at reachable
            exact absurd rfl reachable
        | _ =>
            rw [own] at accepted
            simp [Own.name, StateName.expectedMsgTypes, Request.requestType] at accepted
    | chargeParameterDiscoveryReq req => exact absurd rfl chargeParameters
    | powerDeliveryReq req => exact absurd rfl power
    | chargingStatusReq | meteringReceiptReq =>
        cases own : session.world.currentState.own <;> rw [own] at reachable accepted <;> first
          | exact absurd rfl reachable
          | simp [Own.name, StateName.expectedMsgTypes, Request.requestType] at accepted
    | _ =>
        cases stayed : reached.currentState.own <;> rw [stayed] at named <;> cases named
        trivial
  · rw [same]
    change mayGoTo req.requestType name = true at allowed
    cases req with
    | cableCheckReq req =>
        rcases CableCheck.onCableCheckReq_finishes answered.answer leads with
          ⟨resHeader, status, finishes⟩
        cases name <;> cases allowed
        refine ⟨closed, .inl ⟨header, req, answers, resHeader, status, rfl, ?_⟩⟩
        rw [answered.sent, Option.some.inj (answered.prepared.symm.trans finishes)]
    | chargeParameterDiscoveryReq req => exact absurd rfl chargeParameters
    | powerDeliveryReq req => exact absurd rfl power
    | _ => cases name <;> trivial

/-- A DC mode leads to the cable check. -/
theorem unprepared_of_chargeParameterDiscoveryReq {req : ChargeParameterDiscoveryReq}
    (answered : (protocol environment).Answered session
      ⟨header, .chargeParameterDiscoveryReq req⟩ answers reached response next) :
    dcStage next = .unprepared := by
  have selects := ChargeParameterDiscovery.onChargeParameterDiscoveryReq_selects answered.answer
    answered.not_terminate
  have isAc : next.world.session.selectedChargingTypeIsAc = req.requestedEnergyMode.isAc := by
    rw [answered.session_eq]
    exact congrArg Prod.snd selects
  unfold dcStage
  rw [isAc]
  rcases ChargeParameterDiscovery.onChargeParameterDiscoveryReq_leads answered.answer
      answered.not_terminate with ⟨stays, own⟩ | leads
  · rw [answered.currentState_eq stays, own]
    exact ite_self _
  · rw [answered.currentState_new leads]
    unfold ChargeParameterDiscovery.nextState
    rw [req.matches_mode]
    cases req.requestedEnergyMode.isAc <;> rfl

/-- Apart from an object that has answered one before, a DC session accepts a
`PowerDeliveryReq` only when the charging has been prepared. -/
theorem dcStage_of_accepts {own : Own} (accepted : own.accepts .powerDeliveryReq = true)
    (reachable : own.dcStage ≠ .unreached) (fresh : own ≠ .powerDelivery false) :
    own.dcStage = .prepared := by
  have expected := mem_expectedMsgTypes accepted
  cases own with
  | currentDemand expecting => rfl
  | preCharge expecting =>
      cases expecting with
      | false => rfl
      | true => cases accepted
  | powerDelivery expecting =>
      cases expecting with
      | false => exact absurd rfl fresh
      | true => exact absurd rfl reachable
  | chargeParameterDiscovery expecting =>
      cases expecting with
      | false => exact absurd rfl reachable
      | true => cases accepted
  | chargingStatus expecting => exact absurd rfl reachable
  | meteringReceipt expecting => exact absurd rfl reachable
  | _ => simp [Own.name, StateName.expectedMsgTypes] at expected

theorem earns_of_powerDeliveryReq {req : PowerDeliveryReq}
    (resting : session.world.currentState.nextState = none)
    (isDc : session.world.session.selectedChargingTypeIsAc = false)
    (reachable : session.world.currentState.own.dcStage ≠ .unreached)
    (started : req.chargeProgress = .start →
      session.world.currentState.own ≠ .powerDelivery false)
    (answered : (protocol environment).Answered session ⟨header, .powerDeliveryReq req⟩ answers
      reached response next) :
    DcStage.Earns (dcEvents environment) session.world.currentState.own.dcStage
      next.world.currentState.own.dcStage session
      (some ⟨.request ⟨header, .powerDeliveryReq req⟩, answers⟩) next := by
  have isDc : reached.session.selectedChargingTypeIsAc = false := by
    have same : kept .powerDeliveryReq next.world.session =
        kept .powerDeliveryReq session.world.session := answered.kept
    rw [← answered.session_eq, ← isDc]
    exact isAc_of_kept (by decide) same
  rcases answered.leads resting with ⟨_, same, _⟩ | ⟨name, leads, same, _⟩
  · rw [same, PowerDelivery.onPowerDeliveryReq_own answered.answer answered.not_terminate]
    trivial
  · rw [same]
    rcases PowerDelivery.onPowerDeliveryReq_leads answered.answer name leads with
      ⟨rfl, starts⟩ | ⟨rfl, _⟩ | ⟨rfl, _⟩
    · unfold PowerDelivery.chargeLoop
      rw [isDc]
      refine ⟨?_, .inl (dcStage_of_accepts answered.accepted reachable (started starts))⟩
      apply not_opensContactor
      rintro stop stops ⟨⟩
      cases starts.symm.trans stops
    · trivial
    · trivial

/-- A step of a run without restarts goes to a stage that it has earned. -/
theorem earns_of_step (resting : session.world.currentState.nextState = none)
    (step : (machine environment).Step session input next)
    (kept : NoRestart environment session input next) (goesOn : next.ended = false)
    (reachable : dcStage session ≠ .unreached) :
    DcStage.Earns (dcEvents environment) (dcStage session) (dcStage next) session input next := by
  rcases SeccProtocol.step_answered step goesOn with
    ⟨⟨header, req⟩, answers, reached, response, rfl, answered⟩
  by_cases chargeParameters : req.requestType = .chargeParameterDiscoveryReq
  · cases req with
    | chargeParameterDiscoveryReq req =>
        rw [unprepared_of_chargeParameterDiscoveryReq answered]
        trivial
    | _ => cases chargeParameters
  · have isAc : next.world.session.selectedChargingTypeIsAc =
        session.world.session.selectedChargingTypeIsAc :=
      isAc_of_kept chargeParameters answered.kept
    unfold dcStage at *
    rw [isAc]
    by_cases isDc : session.world.session.selectedChargingTypeIsAc = true
    · rw [if_pos isDc, if_pos isDc]
      trivial
    · rw [if_neg isDc] at reachable
      rw [if_neg isDc, if_neg isDc]
      rw [Bool.not_eq_true] at isDc
      by_cases power : req.requestType = .powerDeliveryReq
      · cases req with
        | powerDeliveryReq req =>
            apply earns_of_powerDeliveryReq resting isDc reachable _ answered
            intro starts restarted
            exact kept header req ⟨⟨answers, rfl⟩, answered.accepted, answered.known⟩ restarted
              starts
        | _ => cases power
      · exact earns_of_other resting reachable chargeParameters power answered goesOn

/-- In a run without restarts every state tells of the past. -/
theorem holds_of_run (new : New start)
    (run : Run (Restrict (machine environment).Step (NoRestart environment)) start history
      session) (goesOn : session.ended = false) :
    session.world.currentState.nextState = none ∧
      (dcStage session).Holds (dcEvents environment) (machine environment).Step start history
        session := by
  induction run with
  | start =>
      constructor
      · rw [new.1]
      · unfold dcStage
        rw [new.1]
        split <;> trivial
  | @step history session next input past last ih =>
      rcases ih last.1.1 with ⟨resting, holds⟩
      have run : Run (machine environment).Step start history session :=
        past.mono fun _ _ _ step => step.1
      constructor
      · rcases SeccProtocol.step_answered last.1 goesOn with ⟨_, _, _, _, _, answered⟩
        exact answered.resting
      · apply DcStage.holds_of_earns run last.1 holds
        apply earns_of_step resting last.1 last.2 goesOn
        intro unreached
        rw [unreached] at holds
        exact holds

/-- In a run without restarts, a DC session that enters the charge loop has been
prepared since the contactors have last been opened. -/
theorem currentDemand_prepared (new : New start)
    (run : Run (Restrict (machine environment).Step (NoRestart environment)) start history
      session)
    (last : Restrict (machine environment).Step (NoRestart environment) session input next)
    (enters : EntersCurrentDemand session next) :
    (dcEvents environment).Prepared (machine environment).Step start (input :: history) next := by
  rcases enters with ⟨goesOn, isDc, name, _⟩
  have holds := (holds_of_run new (.step run last) goesOn).2
  have stage : dcStage next = .prepared := by
    unfold dcStage
    rw [isDc]
    cases own : next.world.currentState.own <;> rw [own] at name <;> first
      | rfl
      | cases name
  rw [stage] at holds
  exact holds

end

end Iso15118.Secc.V2
