import Iso15118.Secc.V20.Loop

/-!
# The safety sequence of a DC session

Before a DC charger starts the energy transfer, the cable has been checked and
pre-charged. The state machine remembers neither; that they have happened follows
from the current state, as long as no `PowerDeliveryReq` gets past them.
-/

namespace Iso15118.Secc.V20

open Effect Transition
open Iso15118.Shared
open Iso15118.Shared.V20

/-! ## What the states of the sequence do -/

/-- The branch of `PowerDelivery` that starts the energy transfer is taken. -/
def PowerDelivery.Starts (environment : Environment) (req : PowerDeliveryReq) : Prop :=
  req.evProcessing ≠ .ongoing ∧ req.chargeProgress ≠ .stop ∧
    (req.chargeProgress = .standby → environment.config.standbyAllowed = true)

section Specs

variable {σ : Type} {environment : Environment} {answers : Answers} {world : World σ}

theorem PowerDelivery.scheduleValid_spec {req : PowerDeliveryReq} :
    wp (scheduleValid req) (fun _ next => next = world) (fun _ _ => True) world := by
  simp only [scheduleValid, wp_bind, wp_get, wp_ite, wp_ofExcept, wp_pure, implies_true, and_true]
  split <;> trivial

theorem PowerDelivery.startCharging_spec {message : RequestMessage} {req : PowerDeliveryReq}
    {responseCode : ResponseCode} :
    wp (startCharging answers (.request message) req responseCode)
      (fun _ next => next.currentState.nextState = some .terminate ∨
        ∃ selected, world.session.selectedEnergyService = some selected ∧
          next.currentState.nextState = chargeLoop selected.service)
      (fun _ _ => True) world := by
  unfold startCharging
  rw [wp_bind]
  apply wp_mono _ (fun _ _ _ => trivial) scheduleValid_spec
  rintro valid _ rfl
  cases valid with
  | false =>
      apply wp_mono _ (fun _ _ _ => trivial) (stopStateMachine_terminates _ _ _)
      exact fun _ _ => .inl
  | true =>
      simp only [if_true, wp_bind, wp_ask, implies_true, and_true, wp_ite, wp_selectedService,
        wp_createNextMessage, wp_stopStateMachine]
      intro _ _ _ _ contactorClosed _
      split
      · intro selected present _
        exact .inr ⟨selected, present, rfl⟩
      · intro _ _ _
        exact .inl rfl

/-- Only the branch that starts goes to a charge loop, the one of the service. -/
theorem PowerDelivery.onPowerDeliveryReq_spec {message : RequestMessage}
    {req : PowerDeliveryReq} :
    wp (onPowerDeliveryReq environment answers (.request message) req)
      (fun _ next => next.currentState.nextState = none ∨
        next.currentState.nextState = some .terminate ∨
        Starts environment req ∧ ∃ selected,
          world.session.selectedEnergyService = some selected ∧
            next.currentState.nextState = chargeLoop selected.service)
      (fun _ _ => True) world := by
  unfold onPowerDeliveryReq
  dsimp only
  split
  · exact createNextMessage_ensures (.inl rfl)
  next finished =>
    split
    · exact createNextMessage_ensures (.inr (.inl rfl))
    · split
      · exact createNextMessage_ensures (.inr (.inl rfl))
      next allowed =>
        split
        · simp only [stopCharging, wp_bind, wp_ask, implies_true, and_true, wp_ite,
            wp_createNextMessage, wp_stopStateMachine]
          intro _ _ _ _ contactorOpened _
          split
          · exact fun _ => .inl rfl
          · exact fun _ => .inr (.inl rfl)
        next goesOn =>
          apply wp_mono _ (fun _ _ _ => trivial) startCharging_spec
          rintro _ next (stopped | charging)
          · exact .inr (.inl stopped)
          · have starts : Starts environment req := by
              refine ⟨finished, goesOn, ?_⟩
              intro standby
              cases permitted : environment.config.standbyAllowed with
              | true => rfl
              | false => exact absurd ⟨standby, permitted⟩ allowed
            exact .inr (.inr ⟨starts, charging⟩)

/-- Nobody else tells the controller that the energy transfer starts. -/
theorem PowerDelivery.starts_of_setHlcCharging {message : RequestMessage}
    {req : PowerDeliveryReq} {reached : World σ}
    (reaches : Reaches (onPowerDeliveryReq environment answers (.request message) req) world
      reached)
    (fresh : .setHlcCharging true ∉ world.calls) (called : .setHlcCharging true ∈ reached.calls) :
    Starts environment req := by
  by_contra idle
  have quiet : wp (onPowerDeliveryReq environment answers (.request message) req)
      (fun _ next => .setHlcCharging true ∉ next.calls)
      (fun _ next => .setHlcCharging true ∉ next.calls) world := by
    unfold onPowerDeliveryReq
    dsimp only
    split
    · simp [fresh]
    next finished =>
      split
      · simp [fresh]
      · split
        · simp [fresh]
        next allowed =>
          split
          · simp [stopCharging, fresh]
          next goesOn =>
            refine absurd ⟨finished, goesOn, ?_⟩ idle
            intro standby
            cases permitted : environment.config.standbyAllowed with
            | true => rfl
            | false => exact absurd ⟨standby, permitted⟩ allowed
  exact reaches.post quiet called

/-- A cable check that goes on to the pre-charge has found the isolation in order. -/
theorem DCCableCheck.onDcCableCheckReq_spec {message : RequestMessage}
    {contactorsClosed cableCheckStarted : Bool} :
    wp (onDcCableCheckReq answers (.request message) contactorsClosed cableCheckStarted)
      (fun _ next => ∀ name, next.currentState.nextState = some (.state name) →
        (answers.getCableCheckStatus = .ok (some .valid) ∨
          answers.getCableCheckStatus = .ok (some .warning)) ∧
        .getCableCheckStatus ∈ next.calls ∧ ∃ header,
          next.currentState.nextV2gtpMsg = some ⟨header, .ok, .dcCableCheckRes .finished⟩)
      (fun _ _ => True) world := by
  unfold onDcCableCheckReq
  rw [wp_bind]
  apply wp_of_forall _ fun _ _ => trivial
  intro _ started
  cases contactorsClosed with
  | true =>
      simp only [if_true, wp_bind, wp_ask, implies_true, and_true, wp_ite, wp_createNextMessage,
        wp_stopStateMachine]
      intro isolationLevel answered
      split
      next safe =>
        intro _ name _
        refine ⟨?_, List.mem_cons_self, _, rfl⟩
        rw [answered]
        simpa using safe
      · split
        · rintro _ name ⟨⟩
        · rintro _ name ⟨⟩
  | false =>
      simp only [Bool.false_eq_true, if_false, wp_bind, wp_ask, implies_true, and_true]
      intro contactorsClosedForCableCheck _
      split
      · exact createNextMessage_ensures (by rintro name ⟨⟩)
      · exact createNextMessage_ensures (by rintro name ⟨⟩)
      · exact createNextMessage_ensures (by rintro name ⟨⟩)

/-- Once a pre-charge request has been processed, the object accepts others. -/
theorem DCPreCharge.onDcPreChargeReq_spec {message : RequestMessage} {req : DCPreChargeReq} :
    wp (onDcPreChargeReq answers (.request message) req)
      (fun _ next => next.currentState.own = .dcPreCharge false) (fun _ _ => True) world := by
  simp only [onDcPreChargeReq, respond, wp_bind, wp_setOwn, wp_onEvData, wp_modify, wp_ite]
  split
  · simp [StateObject.createNextMessage]
  · simp only [wp_get, wp_bind, wp_tryCatch, wp_ask, wp_ite, wp_pure, wp_throw]
    constructor
    · simp [StateObject.createNextMessage]
    · intro exception _
      split
      · exact createNextMessage_ensures rfl
      · trivial

theorem ScheduleExchange.offerSchedules_spec {params : Option ScheduleExchangeResParams} :
    wp (offerSchedules params)
      (fun _ next =>
        next.session.selectedEnergyService = world.session.selectedEnergyService)
      (fun _ _ => True) world := by
  unfold offerSchedules
  split <;> rfl

theorem ScheduleExchange.finish_spec {controlMode : Option ControlMode}
    {res : ScheduleExchangeRes} :
    wp (finish controlMode res)
      (fun service _ => ∃ selected, world.session.selectedEnergyService = some selected ∧
        selected.service = service)
      (fun _ _ => True) world := by
  simp only [finish, wp_bind, wp_get, wp_ofExcept, implies_true, and_true, wp_modify,
    wp_selectedService]
  intro _ _ selected present
  exact ⟨selected, present, rfl⟩

/-- Only an AC session goes from the schedules to the power delivery by itself. -/
theorem ScheduleExchange.onScheduleExchangeReq_spec {message : RequestMessage}
    {req : ScheduleExchangeReq} :
    wp (onScheduleExchangeReq answers (.request message) req)
      (fun _ next => next.currentState.nextState = none ∨
        next.currentState.nextState = some .terminate ∨
        ∃ selected, world.session.selectedEnergyService = some selected ∧
          next.currentState.nextState = nextState selected.service)
      (fun _ _ => True) world := by
  simp only [onScheduleExchangeReq, wp_bind, wp_get, wp_onEvData]
  apply wp_of_forall _ fun _ _ => trivial
  intro _ context
  simp only [wp_ask, implies_true, and_true, wp_ite, wp_stopStateMachine]
  intro params _
  split
  · exact createNextMessage_ensures (.inr (.inl rfl))
  · simp only [respond, wp_bind, wp_ask, implies_true, and_true, wp_ite]
    intro readyToCharge _
    split
    · apply wp_mono _ (fun _ _ _ => trivial) offerSchedules_spec
      intro _ offered kept
      simp only [wp_bind, wp_ofExcept, implies_true, and_true]
      intro res _
      apply wp_mono _ (fun _ _ _ => trivial) finish_spec
      rintro _ finished ⟨selected, present, rfl⟩
      rw [kept] at present
      exact createNextMessage_ensures (.inr (.inr ⟨selected, present, rfl⟩))
    · simp only [wp_ofExcept, implies_true, and_true]
      intro _ _
      exact createNextMessage_ensures (.inl rfl)

end Specs

/-! ## The sequence -/

section Sequence

variable {σ : Type} [DiagnosticService σ] {environment : Environment}

/-- A DC or DC_BPT session. -/
def InDc (session : SECCSession σ) : Prop :=
  ∃ selected, session.world.session.selectedEnergyService = some selected ∧
    (selected.service = .dc ∨ selected.service = .dcBpt)

/-- The step starts the energy transfer: it tells the controller so, or enters the
charge loop. -/
def StartsTransfer (session : SECCSession σ) (input : Option Received)
    (next : SECCSession σ) : Prop :=
  input.isSome = true ∧ .setHlcCharging true ∈ next.world.calls ∨
    next.ended = false ∧ session.world.currentState.own.name ≠ .dcChargeLoop ∧
      next.world.currentState.own.name = .dcChargeLoop

/-- The step ends a cable check with the isolation level valid or warning. -/
def ChecksCable (_session : SECCSession σ) (input : Option Received) (next : SECCSession σ) :
    Prop :=
  ∃ header answers resHeader sent, input = some ⟨.request ⟨header, .dcCableCheckReq⟩, answers⟩ ∧
    (answers.getCableCheckStatus = .ok (some .valid) ∨
      answers.getCableCheckStatus = .ok (some .warning)) ∧
    .getCableCheckStatus ∈ next.world.calls ∧
    next.sent = ⟨resHeader, .ok, .dcCableCheckRes .finished⟩ :: sent

/-- The step processes a `DCPreChargeReq`. -/
def PreCharges (session : SECCSession σ) (input : Option Received) (next : SECCSession σ) :
    Prop :=
  ∃ header req answers, input = some ⟨.request ⟨header, .dcPreChargeReq req⟩, answers⟩ ∧
    session.world.currentState.own.accepts .dcPreChargeReq = true ∧ next.ended = false

/-- The run has ended a cable check. -/
def CableChecked (environment : Environment) (start : SECCSession σ)
    (history : List (Option Received)) (session : SECCSession σ) : Prop :=
  Passed (machine environment).Step (fun _ => ChecksCable) start history session

/-- The run has ended a cable check and processed a `DCPreChargeReq` after that. -/
def Prepared (environment : Environment) (start : SECCSession σ)
    (history : List (Option Received)) (session : SECCSession σ) : Prop :=
  Passed (machine environment).Step
    (fun past before input after => PreCharges before input after ∧
      CableChecked environment start past before) start history session

/-- Handling a `PowerDeliveryReq` with `EVProcessing` finished and `ChargeProgress`
start, not in the schedule exchange. -/
def HandlesStart (session : SECCSession σ) (input : Option Received) : Prop :=
  ∃ header req answers, input = some ⟨.request ⟨header, .powerDeliveryReq req⟩, answers⟩ ∧
    req.evProcessing = .finished ∧ req.chargeProgress = .start ∧
    session.world.currentState.own.name ≠ .scheduleExchange

/-- The step respects the sequence: in a DC session no `PowerDeliveryReq` is answered
in the schedule exchange, and one that starts the energy transfer says so. -/
def SequenceKept (environment : Environment) (session : SECCSession σ)
    (input : Option Received) (_next : SECCSession σ) : Prop :=
  ∀ header req answers, input = some ⟨.request ⟨header, .powerDeliveryReq req⟩, answers⟩ →
    InDc session → session.world.currentState.own.accepts .powerDeliveryReq = true →
    session.world.currentState.own.name ≠ .scheduleExchange ∧
      (PowerDelivery.Starts environment req →
        req.evProcessing = .finished ∧ req.chargeProgress = .start)

/-- What the current state of a DC session says about the past. -/
def Sequenced (environment : Environment) (start : SECCSession σ)
    (history : List (Option Received)) (session : SECCSession σ) : Prop :=
  session.world.currentState.nextState = none ∧
    (InDc session →
      match session.world.currentState.own with
      | .powerDelivery => Prepared environment start history session
      | .dcChargeLoop _ => Prepared environment start history session
      | .dcPreCharge false => Prepared environment start history session
      | .dcPreCharge true => CableChecked environment start history session
      | .acChargeLoop => False
      | _ => True)

/-- The states of which the past of a DC session matters. -/
def StateName.inSequence : StateName → Bool
  | .powerDelivery | .dcChargeLoop | .dcPreCharge | .acChargeLoop => true
  | _ => false

theorem sequenced_of_not_inSequence {start session : SECCSession σ}
    {history : List (Option Received)}
    (resting : session.world.currentState.nextState = none)
    (outside : session.world.currentState.own.name.inSequence = false) :
    Sequenced environment start history session := by
  refine ⟨resting, fun _ => ?_⟩
  cases own : session.world.currentState.own
  case powerDelivery | dcChargeLoop | dcPreCharge | acChargeLoop =>
    rw [own] at outside
    cases outside
  all_goals trivial

/-- A `PowerDeliveryReq` that a DC session accepts outside the schedule exchange comes
after the preparation. -/
theorem prepared_of_accepts {start session : SECCSession σ} {history : List (Option Received)}
    (sequenced : Sequenced environment start history session) (inDc : InDc session)
    (accepted : session.world.currentState.own.accepts .powerDeliveryReq = true)
    (elsewhere : session.world.currentState.own.name ≠ .scheduleExchange) :
    Prepared environment start history session := by
  have past := sequenced.2 inDc
  have expected := mem_expectedMsgTypes accepted
  cases own : session.world.currentState.own with
  | powerDelivery =>
      rw [own] at past
      exact past
  | dcChargeLoop expecting =>
      rw [own] at past
      exact past
  | dcPreCharge expecting =>
      cases expecting with
      | false =>
          rw [own] at past
          exact past
      | true =>
          rw [own] at accepted
          cases accepted
  | acChargeLoop =>
      rw [own] at past
      exact past.elim
  | scheduleExchange =>
      rw [own] at elsewhere
      exact absurd rfl elsewhere
  | _ =>
      rw [own] at expected
      simp [Own.name, StateName.expectedMsgTypes] at expected

/-- Only a choice of services turns a session into a DC session. -/
theorem inDc_of_answered {session next : SECCSession σ} {message : RequestMessage}
    {answers : Answers} {reached : World σ} {response : ResponseMessage}
    (answered : (protocol environment).Answered session message answers reached response next)
    (other : message.request.requestType ≠ .serviceSelectionReq) (inDc : InDc next) :
    InDc session := by
  rcases inDc with ⟨selected, present, isDc⟩
  refine ⟨selected, ?_, isDc⟩
  rw [answered.session_eq,
    selectedEnergyService_of_kept (kept_of_answered answered) other] at present
  exact present

/-- What only leads to states outside the sequence. -/
theorem sequenced_of_leads_outside {start session next : SECCSession σ}
    {history : List (Option Received)} {message : RequestMessage} {answers : Answers}
    {reached : World σ} {response : ResponseMessage}
    (answered : (protocol environment).Answered session message answers reached response next)
    (resting : session.world.currentState.nextState = none)
    (outside : (answeredBy message.request.requestType).inSequence = false)
    (leadsOutside : ∀ name, mayGoTo message.request.requestType name = true →
      name.inSequence = false) :
    Sequenced environment start history next := by
  apply sequenced_of_not_inSequence answered.resting
  rcases leads_of_answered answered resting with ⟨_, same, name⟩ | ⟨name, _, same, allowed⟩
  · rw [same, name]
    exact outside
  · rw [same, StateName.name_new]
    exact leadsOutside name allowed

/-- A step that respects the sequence keeps what the current state says. -/
theorem sequenced_of_step {start session next : SECCSession σ}
    {history : List (Option Received)} {input : Option Received}
    (run : Run (machine environment).Step start history session)
    (sequenced : Sequenced environment start history session)
    (step : (machine environment).Step session input next)
    (kept : SequenceKept environment session input next) (goesOn : next.ended = false) :
    Sequenced environment start (input :: history) next := by
  rcases step_answered step goesOn with
    ⟨⟨header, request⟩, answers, reached, response, rfl, answered⟩
  have resting := sequenced.1
  have accepted := accepted_of_answered answered
  cases request with
  | powerDeliveryReq req =>
      refine ⟨answered.resting, fun inDc => ?_⟩
      have inDc := inDc_of_answered answered (by rintro ⟨⟩) inDc
      rcases kept header req answers rfl inDc accepted with ⟨elsewhere, _⟩
      have prepared := (prepared_of_accepts sequenced inDc accepted elsewhere).later step
      rcases leads_of_answered answered resting with ⟨_, same, name⟩ | ⟨name, leads, same, allowed⟩
      · rw [same]
        cases stayed : reached.currentState.own <;> rw [stayed] at name <;> cases name
        exact prepared
      · rw [same]
        rcases post_of_eq_ok PowerDelivery.onPowerDeliveryReq_spec answered.answer with
          stays | stopped | ⟨_, selected, present, charging⟩
        · cases leads.symm.trans stays
        · cases leads.symm.trans stopped
        · rcases inDc with ⟨selected', present', isDc⟩
          cases Option.some.inj (present.symm.trans present')
          have charging := leads.symm.trans charging
          rcases isDc with isDc | isDc <;> rw [isDc] at charging <;> cases charging
          · exact prepared
          · exact prepared
  | dcPreChargeReq req =>
      refine ⟨answered.resting, fun inDc => ?_⟩
      have inDc := inDc_of_answered answered (by rintro ⟨⟩) inDc
      have preCharges : PreCharges session
          (some ⟨.request ⟨header, .dcPreChargeReq req⟩, answers⟩) next :=
        ⟨header, req, answers, rfl, accepted, goesOn⟩
      have prepared : Prepared environment start
          (some ⟨.request ⟨header, .dcPreChargeReq req⟩, answers⟩ :: history) next := by
        have past := sequenced.2 inDc
        have expected := mem_expectedMsgTypes accepted
        cases own : session.world.currentState.own with
        | dcPreCharge expecting =>
            rw [own] at past
            cases expecting with
            | true => exact Passed.now run step ⟨preCharges, past⟩
            | false => exact past.later step
        | _ =>
            rw [own] at expected
            simp [Own.name, StateName.expectedMsgTypes, Request.requestType] at expected
      rcases leads_of_answered answered resting with ⟨_, same, _⟩ | ⟨name, _, same, allowed⟩
      · rw [same]
        rw [post_of_eq_ok DCPreCharge.onDcPreChargeReq_spec answered.answer]
        exact prepared
      · rw [same]
        cases name <;> cases allowed
        exact prepared
  | dcCableCheckReq =>
      refine ⟨answered.resting, fun inDc => ?_⟩
      rcases leads_of_answered answered resting with ⟨_, same, name⟩ | ⟨name, leads, same, allowed⟩
      · rw [same]
        cases stayed : reached.currentState.own <;> rw [stayed] at name <;> cases name
        trivial
      · rw [same]
        rcases post_of_eq_ok DCCableCheck.onDcCableCheckReq_spec answered.answer name leads with
          ⟨safe, called, resHeader, prepared⟩
        cases name <;> cases allowed
        apply Passed.now run step
        refine ⟨header, answers, resHeader, session.sent, rfl, safe, ?_, ?_⟩
        · rw [answered.calls]
          exact List.mem_cons_of_mem _ called
        · rw [answered.sent, Option.some.inj (answered.prepared.symm.trans prepared)]
  | dcChargeLoopReq req =>
      refine ⟨answered.resting, fun inDc => ?_⟩
      have inDc := inDc_of_answered answered (by rintro ⟨⟩) inDc
      rcases leads_of_answered answered resting with ⟨_, same, name⟩ | ⟨name, _, _, allowed⟩
      · rw [same]
        cases stayed : reached.currentState.own <;> rw [stayed] at name <;> cases name
        have past := sequenced.2 inDc
        have expected := mem_expectedMsgTypes accepted
        cases own : session.world.currentState.own with
        | dcChargeLoop expecting =>
            rw [own] at past
            exact past.later step
        | _ =>
            rw [own] at expected
            simp [Own.name, StateName.expectedMsgTypes, Request.requestType] at expected
      · cases name <;> cases allowed
  | acChargeLoopReq req =>
      refine ⟨answered.resting, fun inDc => ?_⟩
      have inDc := inDc_of_answered answered (by rintro ⟨⟩) inDc
      have past := sequenced.2 inDc
      have expected := mem_expectedMsgTypes accepted
      cases own : session.world.currentState.own with
      | acChargeLoop =>
          rw [own] at past
          exact past.elim
      | _ =>
          rw [own] at expected
          simp [Own.name, StateName.expectedMsgTypes, Request.requestType] at expected
  | scheduleExchangeReq req =>
      refine ⟨answered.resting, fun inDc => ?_⟩
      have inDc := inDc_of_answered answered (by rintro ⟨⟩) inDc
      rcases leads_of_answered answered resting with ⟨_, same, name⟩ | ⟨name, leads, same, allowed⟩
      · rw [same]
        cases stayed : reached.currentState.own <;> rw [stayed] at name <;> cases name
        trivial
      · rcases post_of_eq_ok ScheduleExchange.onScheduleExchangeReq_spec answered.answer with
          stays | stopped | ⟨selected, present, onlyAc⟩
        · cases leads.symm.trans stays
        · cases leads.symm.trans stopped
        · rcases inDc with ⟨selected', present', isDc⟩
          cases Option.some.inj (present.symm.trans present')
          have onlyAc := leads.symm.trans onlyAc
          rcases isDc with isDc | isDc <;> rw [isDc] at onlyAc <;> cases onlyAc
  | _ =>
      apply sequenced_of_leads_outside answered resting rfl
      intro name allowed
      cases name <;> first
        | rfl
        | cases allowed

/-- In a run that respects the sequence every state tells of it. -/
theorem sequenced_of_run {start session : SECCSession σ} {history : List (Option Received)}
    (new : New start)
    (run : Run (Restrict (machine environment).Step (SequenceKept environment)) start history
      session) (goesOn : session.ended = false) :
    Sequenced environment start history session := by
  induction run with
  | start =>
      apply sequenced_of_not_inSequence
      · rw [new.1]
      · rw [new.1]
        rfl
  | @step history session next input past last ih =>
      have run : Run (machine environment).Step start history session :=
        past.mono fun _ _ _ step => step.1
      exact sequenced_of_step run (ih last.1.1) last.1 last.2 goesOn

/-- The energy transfer is started by a `PowerDeliveryReq`, in the branch for that. -/
theorem powerDeliveryReq_of_startsTransfer {session next : SECCSession σ}
    {input : Option Received} (resting : session.world.currentState.nextState = none)
    (step : (machine environment).Step session input next)
    (starts : StartsTransfer session input next) :
    ∃ header req answers, input = some ⟨.request ⟨header, .powerDeliveryReq req⟩, answers⟩ ∧
      session.world.currentState.own.accepts .powerDeliveryReq = true ∧
      PowerDelivery.Starts environment req := by
  rcases starts with ⟨received, called⟩ | ⟨goesOn, outside, enters⟩
  · rcases Option.isSome_iff_exists.mp received with ⟨⟨message, answers⟩, rfl⟩
    rcases call_of_step step called nofun with
      ⟨⟨header, request⟩, reached, rfl, accepted, _, allowed, reaches, called⟩
    cases request with
    | powerDeliveryReq req =>
        exact ⟨header, req, answers, rfl, accepted,
          PowerDelivery.starts_of_setHlcCharging reaches nofun called⟩
    | _ => cases allowed
  · rcases step_answered step goesOn with
      ⟨⟨header, request⟩, answers, reached, response, rfl, answered⟩
    have accepted := accepted_of_answered answered
    rcases leads_of_answered answered resting with ⟨_, same, name⟩ | ⟨name, leads, same, allowed⟩
    · have expected := mem_expectedMsgTypes accepted
      rw [same, name] at enters
      cases request <;> cases enters
      cases own : session.world.currentState.own <;> rw [own] at outside expected <;>
        simp [Own.name, StateName.expectedMsgTypes, Request.requestType] at expected outside
    · rw [same, StateName.name_new] at enters
      rw [enters] at allowed leads
      cases request with
      | powerDeliveryReq req =>
          refine ⟨header, req, answers, rfl, accepted, ?_⟩
          rcases post_of_eq_ok PowerDelivery.onPowerDeliveryReq_spec answered.answer with
            stays | stopped | ⟨starts, _⟩
          · cases leads.symm.trans stays
          · cases leads.symm.trans stopped
          · exact starts
      | _ => cases allowed

/-- In a run that respects the sequence, a DC session starts the energy transfer only
on a `PowerDeliveryReq` that asks for it, after a cable check and a pre-charge. -/
theorem prepared_of_startsTransfer {start session next : SECCSession σ}
    {history : List (Option Received)} {input : Option Received} (new : New start)
    (run : Run (Restrict (machine environment).Step (SequenceKept environment)) start history
      session)
    (last : (machine environment).Step session input next)
    (kept : SequenceKept environment session input next) (inDc : InDc session)
    (starts : StartsTransfer session input next) :
    HandlesStart session input ∧ Prepared environment start history session := by
  have sequenced := sequenced_of_run new run last.1
  rcases powerDeliveryReq_of_startsTransfer sequenced.1 last starts with
    ⟨header, req, answers, rfl, accepted, started⟩
  rcases kept header req answers rfl inDc accepted with ⟨elsewhere, asked⟩
  rcases asked started with ⟨finished, progress⟩
  exact ⟨⟨header, req, answers, rfl, finished, progress, elsewhere⟩,
    prepared_of_accepts sequenced inDc accepted elsewhere⟩

end Sequence

/-! ## A session out of sequence -/

/-- Right after the schedule exchange, a `PowerDeliveryReq` that asks for other schedules
starts the energy transfer. -/
theorem startsTransfer_on_scheduleRenegotiation :
    ∃ (environment : Environment) (start session next : SECCSession BatteryHealthService)
      (history : List (Option Received)) (input : Option Received),
      New start ∧ Run (machine environment).Step start history session ∧
        (machine environment).Step session input next ∧ InDc session ∧
        StartsTransfer session input next ∧
        ¬(HandlesStart session input ∧ Prepared environment start history session) := by
  refine ⟨Sample.environment, Sample.start, (machine Sample.environment).rcvAll Sample.start
    Sample.scheduleHistory, _, Sample.scheduleHistory,
    Sample.request (.powerDeliveryReq (Sample.powerDeliveryReq .scheduleRenegotiation)),
    Sample.new_start, ?_, SessionStateMachine.step_rcvAll rfl _, ?_, ?_, ?_⟩
  · iterate 5 refine SessionStateMachine.run_rcvAll_cons ?_ rfl
    exact Sample.run_authorizationHistory Sample.answers
  · exact ⟨_, rfl, .inl rfl⟩
  · exact .inl ⟨rfl, by decide⟩
  · rintro ⟨⟨header, req, answers, same, _, progress, _⟩, _⟩
    cases same
    cases progress

def Sample.preChargeHistory : List (Option Received) :=
  request (.dcPreChargeReq ⟨.ongoing, zeroRational, zeroRational⟩) ::
    request .dcCableCheckReq :: request .dcCableCheckReq :: scheduleHistory

/-- A session in sequence starts it as well, once it has been prepared. -/
theorem prepared_of_startsTransfer_preCharged :
    HandlesStart ((machine Sample.environment).rcvAll Sample.start Sample.preChargeHistory)
        (Sample.request (.powerDeliveryReq (Sample.powerDeliveryReq .start))) ∧
      Prepared Sample.environment Sample.start Sample.preChargeHistory
        ((machine Sample.environment).rcvAll Sample.start Sample.preChargeHistory) := by
  refine prepared_of_startsTransfer Sample.new_start ?_
    (SessionStateMachine.step_rcvAll rfl
      (Sample.request (.powerDeliveryReq (Sample.powerDeliveryReq .start)))) ?_ ?_ ?_
  · iterate 11 refine .step ?_ ⟨⟨rfl, rfl⟩, by rintro _ _ _ ⟨⟩⟩
    exact .start
  · rintro _ _ _ ⟨⟩ _ _
    exact ⟨nofun, fun _ => ⟨rfl, rfl⟩⟩
  · exact ⟨_, rfl, .inl rfl⟩
  · exact .inl ⟨rfl, by decide⟩

end Iso15118.Secc.V20
