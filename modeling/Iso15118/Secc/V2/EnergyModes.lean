import Iso15118.Secc.V2.Loop

/-!
# AC and DC requests

The energy mode that a `ChargeParameterDiscoveryReq` selects decides whether the
energy transfer goes on in `ChargingStatus` or in `CurrentDemand`. A receipt is
given in an AC session only, but `MeteringReceipt` takes the requests of both
loops.
-/

namespace Iso15118.Secc.V2

open Effect Transition
open Iso15118.Shared
open Iso15118.Shared.V2

/-! ## What an answer selects -/

/-- What `ChargeParameterDiscovery` selects. -/
def World.energyMode (world : World) : Option EnergyTransferMode × Bool :=
  (world.evDataContext.selectedEnergyMode, world.session.selectedChargingTypeIsAc)

namespace ChargeParameterDiscovery

theorem exchangeParameters_energyMode (answers : Answers) (req : ChargeParameterDiscoveryReq) :
    Keeps (Same World.energyMode) (exchangeParameters answers req) := by
  unfold exchangeParameters
  split
  · apply keeps_bind (keeps_ask fun _ => rfl)
    intro parameters
    apply keeps_bind
    · exact keeps_zoom fun _ _ => rfl
    intro _
    apply keeps_bind
    · exact ⟨fun _ => rfl⟩
    intro _
    exact keeps_pure _
  · apply keeps_bind (keeps_ask fun _ => rfl)
    intro parameters
    apply keeps_bind
    · exact keeps_zoom fun _ _ => rfl
    intro _
    apply keeps_bind
    · exact ⟨fun _ => rfl⟩
    intro _
    exact keeps_pure _

theorem createNextMessage_energyMode {nextState : Option (NextState StateName)}
    {responseCode : ResponseCode} {response : Response} :
    Keeps (Same World.energyMode) (createNextMessage nextState responseCode response) := by
  apply keeps_bind
  · exact ⟨fun _ => rfl⟩
  intro _
  exact keeps_createMessage fun _ => rfl

theorem offerSchedules_energyMode (answers : Answers) (req : ChargeParameterDiscoveryReq)
    (parameters : Option ACEVSEChargeParameter × Option DCEVSEChargeParameter) :
    Keeps (Same World.energyMode) (offerSchedules answers req parameters) := by
  apply keeps_bind (keeps_ask fun _ => rfl)
  intro _
  apply keeps_bind keeps_get
  intro world
  apply keeps_bind (keeps_ask fun _ => rfl)
  intro schedules
  apply keeps_bind (keeps_ofExcept _)
  intro valid
  apply keeps_bind (keeps_ofExcept _)
  intro _
  unfold respond
  split
  · apply keeps_bind
    · exact ⟨fun _ => rfl⟩
    intro _
    exact createNextMessage_energyMode
  · apply keeps_bind
    · exact ⟨fun _ => rfl⟩
    intro _
    apply keeps_bind (keeps_ofExcept _)
    intro _
    apply keeps_bind
    · exact ⟨fun _ => rfl⟩
    intro _
    apply keeps_bind (keeps_ofExcept _)
    intro _
    exact createNextMessage_energyMode

/-- The mode that was selected is the one of the request. -/
theorem onChargeParameterDiscoveryReq_selects {answers : Answers} {message : V2GMessage}
    {req : ChargeParameterDiscoveryReq} {world next : World}
    (answered : onChargeParameterDiscoveryReq answers message req world = .ok ⟨⟩ next)
    (goesOn : next.currentState.nextState ≠ some .terminate) :
    next.energyMode = (some req.requestedEnergyMode, req.requestedEnergyMode.isAc) := by
  have selects : wp (onChargeParameterDiscoveryReq answers message req)
      (fun _ next => next.currentState.nextState ≠ some .terminate →
        next.energyMode = (some req.requestedEnergyMode, req.requestedEnergyMode.isAc))
      (fun _ _ => True) world := by
    unfold onChargeParameterDiscoveryReq
    rw [wp_bind, wp_ask]
    constructor
    · intro energyModes _
      rw [wp_ite]
      split
      · rw [wp_bind, wp_onEvData, wp_modify, wp_bind, wp_updateSession]
        have keeps := keeps_bind (exchangeParameters_energyMode answers req)
          (offerSchedules_energyMode answers req)
        apply wp_mono _ _ (keeps.wp_same rfl)
        · intro _ next same _
          exact same
        · intros
          trivial
      · exact stopStateMachine_goesOn message _ _
    · intros
      trivial
  exact post_of_eq_ok selects answered goesOn

end ChargeParameterDiscovery

namespace PowerDelivery

/-- `leads` of the session that the response leaves. -/
theorem respond_leads (answers : Answers) {leads : Session → Option (NextState StateName) → Prop}
    {nextState : Option (NextState StateName)} {world : World}
    (holds : leads world.session nextState) :
    wp (respond answers nextState)
      (fun _ next => leads next.session next.currentState.nextState) (fun _ _ => True) world := by
  unfold respond
  rw [wp_bind, wp_get, wp_ite]
  split
  · rw [wp_bind, wp_ask]
    constructor
    · intro status _
      rw [wp_bind, wp_createNextMessage]
      exact ⟨fun _ => holds, fun _ _ => trivial⟩
    · intros
      trivial
  · rw [wp_bind, wp_ask]
    constructor
    · intro status _
      rw [wp_bind, wp_createNextMessage]
      exact ⟨fun _ => holds, fun _ _ => trivial⟩
    · intros
      trivial

/-- Where a `PowerDeliveryReq` can lead. -/
def Leads (req : PowerDeliveryReq) (session : Session) (nextState : Option (NextState StateName)) :
    Prop :=
  ∀ name, nextState = some (.state name) →
    name = chargeLoop session ∧ req.chargeProgress = .start ∨
      name = .sessionStop ∧ req.chargeProgress = .stop ∨
      name = .chargeParameterDiscovery ∧ req.chargeProgress = .renegotiate

theorem stopStateMachine_leads (message : V2GMessage) (responseCode : ResponseCode)
    (req : PowerDeliveryReq) (world : World) :
    wp (stopStateMachine message responseCode)
      (fun _ next => Leads req next.session next.currentState.nextState) (fun _ _ => True)
      world := by
  apply wp_mono _ _ (stopStateMachine_terminates message responseCode world)
  · intro _ next terminates name leads
    cases terminates.symm.trans leads
  · intros
    trivial

theorem onPowerDeliveryReq_leads {answers : Answers} {message : V2GMessage}
    {req : PowerDeliveryReq} {world next : World}
    (answered : onPowerDeliveryReq answers message req world = .ok ⟨⟩ next) :
    Leads req next.session next.currentState.nextState := by
  have leads : wp (onPowerDeliveryReq answers message req)
      (fun _ next => Leads req next.session next.currentState.nextState) (fun _ _ => True)
      world := by
    unfold onPowerDeliveryReq
    rw [wp_bind, wp_get, wp_ite]
    split
    · rw [wp_bind, wp_onEvData, wp_modify, wp_bind, wp_ofExcept]
      constructor
      · intro valid _
        rw [wp_ite]
        split
        · unfold onChargeProgress
          cases progress : req.chargeProgress
          case start =>
            unfold startCharging
            simp only [wp_bind, wp_ask, wp_ite, wp_get, wp_updateSession, implies_true, and_true]
            intro _ _ _ _ contactorClosed _
            split
            · apply respond_leads
              rintro _ ⟨⟩
              exact .inl ⟨rfl, progress⟩
            · exact stopStateMachine_leads _ _ _ _
          case stop =>
            unfold stopCharging
            simp only [wp_bind, wp_ask, wp_ite, wp_get, implies_true, and_true]
            intro _ _ _ _ contactorOpened _
            split
            · apply respond_leads
              intro name leads
              unfold afterStop at leads
              split at leads
              · cases leads
                exact .inr (.inl ⟨rfl, progress⟩)
              · cases leads
            · exact stopStateMachine_leads _ _ _ _
          case renegotiate =>
            unfold renegotiate
            rw [wp_bind, wp_get, wp_ite]
            split
            · apply respond_leads
              rintro _ ⟨⟩
              exact .inr (.inr ⟨rfl, progress⟩)
            · exact stopStateMachine_leads _ _ _ _
        · exact stopStateMachine_leads _ _ _ _
      · intros
        trivial
    · exact stopStateMachine_leads _ _ _ _
  have holds := post_of_eq_ok leads answered
  exact holds

end PowerDelivery

/-! ## Runs -/

/-- The step processes a `ChargeParameterDiscoveryReq`, which selects the mode. -/
def Selects (environment : Environment) (mode : EnergyTransferMode)
    (_past : List (Option Received)) (session : SECCSession) (input : Option Received)
    (next : SECCSession) : Prop :=
  ∃ header req, req.requestedEnergyMode = mode ∧
    (protocol environment).Processes session input ⟨header, .chargeParameterDiscoveryReq req⟩ ∧
    next.world.evDataContext.selectedEnergyMode = some mode

/-- The energy mode that `ChargeParameterDiscovery` has selected in this session. The data
context of the controller may be older. -/
def SelectedMode (environment : Environment) (start : SECCSession)
    (history : List (Option Received)) (session : SECCSession) (mode : EnergyTransferMode) :
    Prop :=
  session.world.evDataContext.selectedEnergyMode = some mode ∧
    Passed (machine environment).Step (Selects environment mode) start history session

/-- No `CurrentDemandReq` is processed by `MeteringReceipt`. -/
def NoCurrentDemandInMeteringReceipt (environment : Environment) (session : SECCSession)
    (input : Option Received) (_next : SECCSession) : Prop :=
  ∀ header req,
    (protocol environment).Processes session input ⟨header, .currentDemandReq req⟩ →
      session.world.currentState.own.name ≠ .meteringReceipt

/-- The states in which a mode has been selected. -/
def Own.modeSelected : Own → Bool
  | .chargeParameterDiscovery expecting => !expecting
  | .powerDelivery _ | .meteringReceipt _ | .sessionStop | .chargingStatus _ | .cableCheck _ _
  | .preCharge _ | .currentDemand _ | .weldingDetection _ => true
  | _ => false

/-- The kind of modes that a state is for: AC, or not. -/
def StateName.isFor : StateName → Option Bool
  | .currentDemand => some false
  | .chargingStatus => some true
  | .meteringReceipt => some true
  | _ => none

/-- The current state agrees with the mode that has been selected. -/
structure Agrees (environment : Environment) (start : SECCSession)
    (history : List (Option Received)) (session : SECCSession) : Prop where
  resting : session.world.currentState.nextState = none
  selected : session.world.currentState.own.modeSelected = true →
    ∃ mode, SelectedMode environment start history session mode ∧
      session.world.session.selectedChargingTypeIsAc = mode.isAc

/-- A state that is for a kind of modes is current in sessions of that kind only. -/
def IsFor (isAc : Bool) (session : SECCSession) : Prop :=
  session.world.currentState.own.name.isFor = some isAc →
    session.world.session.selectedChargingTypeIsAc = isAc

/-- A request for which a mode has to be selected is accepted only where one is. -/
theorem modeSelected_of_accepts {own : Own} {type : RequestType}
    (late : (answeredBy type).new.modeSelected = true) (accepted : own.accepts type = true) :
    own.modeSelected = true := by
  have listed := mem_expectedMsgTypes accepted
  cases own
  case chargeParameterDiscovery expecting =>
    cases expecting
    · rfl
    · cases type <;> first
        | exact absurd late (by decide)
        | exact absurd accepted (by decide)
  all_goals first
    | rfl
    | simp only [Own.name, StateName.expectedMsgTypes, List.mem_cons, List.not_mem_nil,
        or_false] at listed
      rcases listed with rfl | rfl | rfl | rfl
      all_goals cases late

/-- A request before the charge parameters leads to states before them. -/
theorem not_modeSelected_of_mayGoTo {type : RequestType} {name : StateName}
    (early : (answeredBy type).new.modeSelected = false)
    (other : type ≠ .chargeParameterDiscoveryReq) (allowed : mayGoTo type name = true) :
    name.new.modeSelected = false := by
  cases type
  case chargeParameterDiscoveryReq => exact absurd rfl other
  all_goals cases name <;> first
    | rfl
    | exact absurd allowed (by decide)
    | exact absurd early (by decide)

theorem answeredBy_ne_chargeParameterDiscovery {type : RequestType}
    (other : type ≠ .chargeParameterDiscoveryReq) :
    answeredBy type ≠ .chargeParameterDiscovery := by
  cases type
  case chargeParameterDiscoveryReq => exact absurd rfl other
  all_goals decide

theorem modeSelected_eq_false {own : Own} (other : own.name ≠ .chargeParameterDiscovery)
    (early : own.name.new.modeSelected = false) : own.modeSelected = false := by
  cases own
  case chargeParameterDiscovery => exact absurd rfl other
  all_goals exact early

section

variable {environment : Environment} {start session next : SECCSession}
  {history : List (Option Received)} {input : Option Received}

/-- A mode that has been selected stays selected by what does not select one. -/
theorem SelectedMode.later {mode : EnergyTransferMode}
    (selected : SelectedMode environment start history session mode)
    (step : (machine environment).Step session input next)
    (same : next.world.evDataContext.selectedEnergyMode =
      session.world.evDataContext.selectedEnergyMode) :
    SelectedMode environment start (input :: history) next mode :=
  ⟨same.trans selected.1, selected.2.later step⟩

variable {header : MessageHeader} {req : Request} {answers : Answers} {reached : World}
  {response : ResponseMessage}

/-- The answer to a `ChargeParameterDiscoveryReq` selects its mode. -/
theorem selected_of_chargeParameterDiscoveryReq {req : ChargeParameterDiscoveryReq}
    (past : Run (machine environment).Step start history session)
    (step : (machine environment).Step session
      (some ⟨.request ⟨header, .chargeParameterDiscoveryReq req⟩, answers⟩) next)
    (answered : (protocol environment).Answered session
      ⟨header, .chargeParameterDiscoveryReq req⟩ answers reached response next) :
    SelectedMode environment start
        (some ⟨.request ⟨header, .chargeParameterDiscoveryReq req⟩, answers⟩ :: history) next
        req.requestedEnergyMode ∧
      next.world.session.selectedChargingTypeIsAc = req.requestedEnergyMode.isAc := by
  have selects := ChargeParameterDiscovery.onChargeParameterDiscoveryReq_selects answered.answer
    answered.not_terminate
  have mode : next.world.evDataContext.selectedEnergyMode = some req.requestedEnergyMode := by
    rw [answered.evDataContext_eq]
    exact congrArg Prod.fst selects
  have isAc : next.world.session.selectedChargingTypeIsAc = req.requestedEnergyMode.isAc := by
    rw [answered.session_eq]
    exact congrArg Prod.snd selects
  refine ⟨⟨mode, Passed.now past step ?_⟩, isAc⟩
  exact ⟨header, req, rfl, ⟨⟨answers, rfl⟩, answered.accepted, answered.known⟩, mode⟩

/-- Every other answer keeps the mode. -/
theorem selected_of_other
    (other : req.requestType ≠ .chargeParameterDiscoveryReq)
    (late : (answeredBy req.requestType).new.modeSelected = true)
    (agrees : Agrees environment start history session)
    (step : (machine environment).Step session input next)
    (answered : (protocol environment).Answered session ⟨header, req⟩ answers reached response
      next) :
    ∃ mode, SelectedMode environment start (input :: history) next mode ∧
      next.world.session.selectedChargingTypeIsAc = mode.isAc := by
  rcases agrees.selected (modeSelected_of_accepts late answered.accepted) with
    ⟨mode, selected, isAc⟩
  refine ⟨mode, selected.later step ?_, ?_⟩
  · exact selectedEnergyMode_of_kept other answered.keptEvData
  · exact (isAc_of_kept other answered.kept).trans isAc

/-- The states that take a request of the charge loops are for its mode. -/
theorem isFor_of_accepts {own : Own} {type : RequestType} {isAc : Bool}
    (accepted : own.accepts type = true)
    (separate : type = .currentDemandReq → own.name ≠ .meteringReceipt)
    (isFor : (answeredBy type).isFor = some isAc) : own.name.isFor = some isAc := by
  have listed := mem_expectedMsgTypes accepted
  revert listed isFor separate
  cases own.name <;> cases type <;> simp [StateName.expectedMsgTypes, answeredBy, StateName.isFor]

/-- Only a `CurrentDemandReq` strays into a session of the other kind. -/
theorem isAc_of_accepts {own : Own} {type : RequestType} (accepted : own.accepts type = true)
    (isFor : (answeredBy type).isFor = some true) : own.name.isFor = some true := by
  apply isFor_of_accepts accepted _ isFor
  rintro rfl
  cases isFor

/-- Only a `PowerDeliveryReq` enters a charge loop. -/
theorem isFor_of_mayGoTo {type : RequestType} {name : StateName}
    (other : type ≠ .powerDeliveryReq) (allowed : mayGoTo type name = true) :
    name.isFor = none := by
  cases type
  case powerDeliveryReq => exact absurd rfl other
  all_goals cases name <;> first
    | rfl
    | exact absurd allowed (by decide)

/-- The next state is for the mode of the session. -/
theorem isFor_of_answered {isAc : Bool} (resting : session.world.currentState.nextState = none)
    (isFor : IsFor isAc session)
    (accepts : (answeredBy req.requestType).isFor = some isAc →
      session.world.currentState.own.name.isFor = some isAc)
    (answered : (protocol environment).Answered session ⟨header, req⟩ answers reached response
      next) : IsFor isAc next := by
  unfold IsFor
  rcases answered.leads resting with ⟨_, same, named⟩ | ⟨name, leads, same, allowed⟩
  · rw [same]
    change reached.currentState.own.name = answeredBy req.requestType at named
    rw [named]
    intro kind
    have other : req.requestType ≠ .chargeParameterDiscoveryReq := by
      intro discovery
      rw [discovery] at kind
      cases kind
    rw [isAc_of_kept other answered.kept]
    exact isFor (accepts kind)
  · rw [same]
    change name.new.name.isFor = _ → _
    rw [StateName.name_new]
    by_cases power : req.requestType = .powerDeliveryReq
    · cases req with
      | powerDeliveryReq req =>
          rw [answered.session_eq]
          rcases PowerDelivery.onPowerDeliveryReq_leads answered.answer name leads with
            ⟨rfl, _⟩ | ⟨rfl, _⟩ | ⟨rfl, _⟩
          · unfold PowerDelivery.chargeLoop
            cases reached.session.selectedChargingTypeIsAc <;> exact Option.some.inj
          · nofun
          · nofun
      | _ => cases power
    · rw [isFor_of_mayGoTo power allowed]
      nofun

theorem agrees_of_step (agrees : Agrees environment start history session)
    (past : Run (machine environment).Step start history session)
    (step : (machine environment).Step session input next) (goesOn : next.ended = false) :
    Agrees environment start (input :: history) next := by
  rcases SeccProtocol.step_answered step goesOn with
    ⟨⟨header, req⟩, answers, reached, response, rfl, answered⟩
  constructor
  case resting => exact answered.resting
  case selected =>
    intro needed
    by_cases other : req.requestType = .chargeParameterDiscoveryReq
    · cases req with
      | chargeParameterDiscoveryReq req =>
          exact ⟨_, selected_of_chargeParameterDiscoveryReq past step answered⟩
      | _ => cases other
    · apply selected_of_other other _ agrees step answered
      by_contra early
      rw [Bool.not_eq_true] at early
      rcases answered.leads agrees.resting with ⟨_, same, named⟩ | ⟨name, _, same, allowed⟩
      · rw [same] at needed
        change reached.currentState.own.name = answeredBy req.requestType at named
        rw [modeSelected_eq_false] at needed
        · cases needed
        · rw [named]
          exact answeredBy_ne_chargeParameterDiscovery other
        · rw [named]
          exact early
      · rw [same] at needed
        exact absurd needed
          (Bool.eq_false_iff.mp (not_modeSelected_of_mayGoTo early other allowed))

theorem agrees_of_new (new : New start) : Agrees environment start [] start where
  resting := by rw [new.1]
  selected := by
    rw [new.1]
    intro needed
    cases needed

/-- After a run that goes on, the current state agrees with the mode. -/
theorem agrees_of_run (new : New start) (run : Run (machine environment).Step start history session)
    (goesOn : session.ended = false) : Agrees environment start history session := by
  induction run with
  | start => exact agrees_of_new new
  | step past last ih => exact agrees_of_step (ih last.1) past last goesOn

theorem isFor_of_new (new : New start) (isAc : Bool) : IsFor isAc start := by
  unfold IsFor
  rw [new.1]
  nofun

/-- The states of an AC session are current in AC sessions only. -/
theorem isAc_of_run (new : New start) (run : Run (machine environment).Step start history session)
    (goesOn : session.ended = false) : IsFor true session := by
  induction run with
  | start => exact isFor_of_new new true
  | step past last ih =>
      have agrees := agrees_of_run new past last.1
      rcases SeccProtocol.step_answered last goesOn with
        ⟨⟨header, req⟩, answers, reached, response, rfl, answered⟩
      exact isFor_of_answered agrees.resting (ih last.1) (isAc_of_accepts answered.accepted)
        answered

/-- Without a `CurrentDemandReq` in `MeteringReceipt`, that also holds of DC sessions. -/
theorem isDc_of_run (new : New start)
    (run : Run (Restrict (machine environment).Step (NoCurrentDemandInMeteringReceipt environment))
      start history session) (goesOn : session.ended = false) : IsFor false session := by
  induction run with
  | start => exact isFor_of_new new false
  | step past last ih =>
      have agrees := agrees_of_run new (past.mono fun _ _ _ step => step.1) last.1.1
      rcases SeccProtocol.step_answered last.1 goesOn with
        ⟨⟨header, req⟩, answers, reached, response, rfl, answered⟩
      refine isFor_of_answered agrees.resting (ih last.1.1)
        (isFor_of_accepts answered.accepted ?_) answered
      intro type
      cases req with
      | currentDemandReq req =>
          exact last.2 header req ⟨⟨answers, rfl⟩, answered.accepted, answered.known⟩
      | _ => cases type

/-- In every run, a charging command of `CurrentDemand` is sent for a `CurrentDemandReq`, and a
`ChargingStatusReq` is processed in sessions with an AC mode only. In a run in which
`MeteringReceipt` processes no `CurrentDemandReq`, these are processed in sessions with a DC mode
only. -/
theorem charging_matches_mode (environment : Environment) {start session next : SECCSession}
    {history : List (Option Received)} {received : Received} (new : New start)
    (run : Run (machine environment).Step start history session)
    (last : (machine environment).Step session (some received) next) :
    ((∃ voltage current, .sendChargingCommand voltage current false ∈ next.world.calls) →
      ∃ header req, (protocol environment).Processes session (some received)
        ⟨header, .currentDemandReq req⟩) ∧
    ((∃ header, (protocol environment).Processes session (some received)
        ⟨header, .chargingStatusReq⟩) →
      ∃ mode, SelectedMode environment start history session mode ∧ mode.isAc = true) ∧
    (Run (Restrict (machine environment).Step (NoCurrentDemandInMeteringReceipt environment))
        start history session →
      NoCurrentDemandInMeteringReceipt environment session (some received) next →
      (∃ header req, (protocol environment).Processes session (some received)
        ⟨header, .currentDemandReq req⟩) →
      ∃ mode, SelectedMode environment start history session mode ∧ mode.isAc = false) := by
  have agrees := agrees_of_run new run last.1
  refine ⟨?_, ?_, ?_⟩
  · rintro ⟨voltage, current, made⟩
    rcases SeccProtocol.call_of_step last made nofun with
      ⟨⟨header, req⟩, reached, isRequest, accepted, known, allowed, _, _⟩
    cases req with
    | currentDemandReq req =>
        rcases received with ⟨message, answers⟩
        cases isRequest
        exact ⟨header, req, ⟨answers, rfl⟩, accepted, known⟩
    | _ => cases allowed
  · rintro ⟨header, processes⟩
    rcases agrees.selected (modeSelected_of_accepts rfl processes.2.1) with ⟨mode, selected, isAc⟩
    have charges := isAc_of_run new run last.1 (isAc_of_accepts processes.2.1 rfl)
    exact ⟨mode, selected, isAc.symm.trans charges⟩
  · rintro separateRun separate ⟨header, req, processes⟩
    rcases agrees.selected (modeSelected_of_accepts rfl processes.2.1) with ⟨mode, selected, isAc⟩
    have charges := isDc_of_run new separateRun last.1
      (isFor_of_accepts processes.2.1 (fun _ => separate header req processes) rfl)
    exact ⟨mode, selected, isAc.symm.trans charges⟩

end

/-! ## A session that mixes them up -/

def Sample.meteringReceiptHistory : List (Option Received) :=
  request (.meteringReceiptReq ⟨none, ⟨some 5⟩⟩) :: chargingStatusHistory

theorem Sample.separate_meteringReceiptHistory :
    Run (Restrict (machine environment).Step (NoCurrentDemandInMeteringReceipt environment)) start
      meteringReceiptHistory ((machine environment).rcvAll start meteringReceiptHistory) := by
  iterate 9 refine .step ?_ ⟨⟨rfl, rfl⟩, by rintro _ _ ⟨⟨_, ⟨⟩⟩, _⟩⟩
  exact .start

/-- After a receipt in an AC session, a `CurrentDemandReq` sends a charging command. -/
theorem currentDemand_after_meteringReceipt :
    ∃ (environment : Environment) (start session next : SECCSession)
      (history : List (Option Received)) (input : Option Received) (voltage current : ℚ),
      New start ∧ Run (machine environment).Step start history session ∧
        (machine environment).Step session input next ∧
        .sendChargingCommand voltage current false ∈ next.world.calls ∧
        SelectedMode environment start history session .acSinglePhaseCore ∧
        EnergyTransferMode.acSinglePhaseCore.isAc = true := by
  have run := Sample.separate_meteringReceiptHistory
  refine ⟨Sample.environment, Sample.start, (machine Sample.environment).rcvAll Sample.start
    Sample.meteringReceiptHistory, _, Sample.meteringReceiptHistory,
    Sample.request (.currentDemandReq Sample.currentDemandReq), zeroPhysical.getDecimalValue,
    zeroPhysical.getDecimalValue, Sample.new_start,
    run.mono fun _ _ _ step => step.1, SessionStateMachine.step_rcvAll rfl _, ?_, ?_, rfl⟩
  · iterate 12 apply List.mem_cons_of_mem
    exact List.mem_cons_self
  · rcases (agrees_of_run Sample.new_start (run.mono fun _ _ _ step => step.1) rfl).selected rfl
      with ⟨mode, selected, _⟩
    cases selected.1
    exact selected

/-- A DC session that is charging. -/
def Sample.currentDemandHistory : List (Option Received) :=
  request (.powerDeliveryReq (powerDeliveryReq .start)) :: preChargeHistory

theorem charging_matches_mode_dc :
    ∃ mode, SelectedMode Sample.environment Sample.start Sample.currentDemandHistory
      ((machine Sample.environment).rcvAll Sample.start Sample.currentDemandHistory) mode ∧
      mode.isAc = false := by
  have last : (machine Sample.environment).Step
      ((machine Sample.environment).rcvAll Sample.start Sample.currentDemandHistory)
      (Sample.request (.currentDemandReq Sample.currentDemandReq))
      ((machine Sample.environment).rcvAll Sample.start
        (Sample.request (.currentDemandReq Sample.currentDemandReq) ::
          Sample.currentDemandHistory)) :=
    SessionStateMachine.step_rcvAll (by decide +kernel) _
  have run : Run (Restrict (machine Sample.environment).Step
      (NoCurrentDemandInMeteringReceipt Sample.environment)) Sample.start
      Sample.currentDemandHistory
      ((machine Sample.environment).rcvAll Sample.start Sample.currentDemandHistory) := by
    refine .step ?_ ⟨⟨by decide +kernel, rfl⟩, by rintro _ _ ⟨⟨_, ⟨⟩⟩, _⟩⟩
    iterate 8 refine .step ?_ ⟨⟨rfl, rfl⟩, by rintro _ _ ⟨⟨_, ⟨⟩⟩, _⟩⟩
    exact .start
  apply (charging_matches_mode Sample.environment Sample.new_start
    (run.mono fun _ _ _ step => step.1) last).2.2 run
  · rintro _ _ _
    decide +kernel
  · exact ⟨_, _, ⟨_, rfl⟩, by decide +kernel, .inr (by decide +kernel)⟩

end Iso15118.Secc.V2
