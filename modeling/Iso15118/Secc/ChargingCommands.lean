import Iso15118.Secc.V2.Loop
import Iso15118.Secc.V20.Loop

/-!
# Charging commands

What `send_charging_command` is called with, against the request that is handled and the
service of the session. The calls of ISO 15118-2 leave `is_session_bpt` at its default.
-/

namespace Iso15118.Secc

open Effect Transition
open Iso15118.Shared

section

variable {ς κ ν μ γ ρ : Type} {isCommand : γ → Bool} {demand : EVDataContext → ς → γ}

/-! ## Programs that send what is demanded -/

/-- What the data of the EV and the session demand stays the same, and it is all that is
sent. -/
structure Sends (isCommand : γ → Bool) (demand : EVDataContext → ς → γ)
    (before after : World ς κ ν μ γ ρ) : Prop where
  demand_eq : demand after.evDataContext after.session =
    demand before.evDataContext before.session
  calls : ∀ call ∈ after.calls, call ∈ before.calls ∨
    (isCommand call = true → call = demand before.evDataContext before.session)

instance : IsPreorder (World ς κ ν μ γ ρ) (Sends isCommand demand) where
  refl _ := ⟨rfl, fun _ made => .inl made⟩
  trans _ _ _ first second :=
    { demand_eq := second.demand_eq.trans first.demand_eq
      calls := by
        intro call made
        rcases second.calls call made with earlier | demanded
        · exact first.calls call earlier
        · rw [first.demand_eq] at demanded
          exact .inr demanded }

theorem sends_ask {α : Type} {call : γ} {answer : Except PyError α}
    (other : isCommand call = false) :
    Keeps (Sends isCommand demand) (ask call answer : EStateM PyError (World ς κ ν μ γ ρ) α) := by
  apply keeps_bind
  · apply keeps_modify
    intro world
    constructor
    · rfl
    · intro made member
      rcases List.mem_cons.mp member with rfl | earlier
      · right
        intro command
        rw [other] at command
        cases command
      · exact .inl earlier
  · intro _
    exact keeps_ofExcept answer

/-- A command that is demanded, and a handler that sends none. -/
theorem sends_trySend (isCommand : γ → Bool) (demand : EVDataContext → ς → γ) {α : Type}
    {call : γ} {answer : Except PyError PUnit} {value : α}
    {handle : PyError → EStateM PyError (World ς κ ν μ γ ρ) α} {world : World ς κ ν μ γ ρ}
    (demanded : call = demand world.evDataContext world.session)
    (handles : ∀ exception, Keeps (Sends isCommand demand) (handle exception)) :
    wp (tryCatch
        (do
          ask call answer
          pure value)
        handle)
      (fun _ after => Sends isCommand demand world after)
      (fun _ after => Sends isCommand demand world after) world := by
  have sent : Sends isCommand demand world { world with calls := call :: world.calls } := by
    constructor
    · rfl
    · intro made member
      rcases List.mem_cons.mp member with rfl | earlier
      · exact .inr fun _ => demanded
      · exact .inl earlier
  rw [wp_tryCatch, wp_bind, wp_ask]
  constructor
  · intro _ _
    exact sent
  · intro exception _
    exact (handles exception).wp_after sent

/-- The result of a program, when it is started without a command. -/
theorem demanded_of_reaches {program : EStateM PyError (World ς κ ν μ γ ρ) PUnit}
    {start after : World ς κ ν μ γ ρ} {call : γ} (keeps : Keeps (Sends isCommand demand) program)
    (reaches : Reaches program start after) (fresh : start.calls = []) (made : call ∈ after.calls)
    (command : isCommand call = true) :
    call = demand start.evDataContext start.session := by
  rcases (keeps.of_reaches reaches).calls call made with earlier | demanded
  · rw [fresh] at earlier
    cases earlier
  · exact demanded command

end

/-! ## ISO 15118-2 -/

namespace V2

open Iso15118.Shared.V2

def Call.isCommand : Call → Bool
  | .sendChargingCommand _ _ _ => true
  | _ => false

/-- The command with the targets of the EV. -/
def targets (isPrecharge : Bool) (context : EVDataContext) (_ : Session) : Call :=
  .sendChargingCommand context.targetVoltage context.targetCurrent isPrecharge

variable {isPrecharge : Bool}

theorem sends_createNextMessage {nextState : Option (NextState StateName)}
    {responseCode : ResponseCode} {response : Response} {timeout : ℚ} :
    Keeps (Sends Call.isCommand (targets isPrecharge))
      (createNextMessage nextState responseCode response timeout) := by
  apply keeps_bind
  · exact keeps_modify fun _ => ⟨rfl, fun _ made => .inl made⟩
  intro _
  exact keeps_createMessage fun _ => ⟨rfl, fun _ made => .inl made⟩

theorem sends_stopStateMachine (message : V2GMessage) (responseCode : ResponseCode) :
    Keeps (Sends Call.isCommand (targets isPrecharge))
      (stopStateMachine message responseCode) := by
  apply keeps_stopStateMachine
  · exact keeps_modify fun _ => ⟨rfl, fun _ made => .inl made⟩
  · intros
    exact sends_createNextMessage

/-- Stopping demands nothing, neither one command nor another one. -/
theorem not_made_of_stop {message : V2GMessage} {responseCode : ResponseCode}
    {environment : Environment} {session : SECCSession} {req : RequestMessage} {reached : World}
    {voltage current : ℚ} {isPrecharge : Bool}
    (reaches : Reaches (stopStateMachine message responseCode)
      ((protocol environment).entered session.world req) reached) :
    .sendChargingCommand voltage current isPrecharge ∉ reached.calls := by
  intro made
  have one := demanded_of_reaches (@sends_stopStateMachine true message responseCode) reaches rfl
    made rfl
  have other := demanded_of_reaches (@sends_stopStateMachine false message responseCode) reaches
    rfl made rfl
  rw [one] at other
  cases other

/-- Waiting for the charging station in vain sends nothing. -/
theorem sends_timedOut (exception : PyError) :
    Keeps (Sends Call.isCommand (targets isPrecharge))
      (if exception = .timeoutError then pure false else throw exception : Program Bool) := by
  split
  · exact keeps_pure _
  · exact keeps_throw _

variable (answers : Answers) (message : V2GMessage)

theorem PreCharge.sends_preCharge (presentCurrent : Option PhysicalValue) :
    Keeps (Sends Call.isCommand (targets true)) (preCharge answers message presentCurrent) := by
  apply keeps_bind keeps_get
  intro world
  cases presentCurrent with
  | none => exact sends_stopStateMachine message _
  | some presentCurrent =>
      dsimp only
      split
      · apply keeps_bind
        · constructor
          intro world
          exact sends_trySend _ _ rfl sends_timedOut
        · intro sent
          cases sent with
          | true =>
              apply keeps_bind (sends_ask rfl)
              intro _
              apply keeps_bind (sends_ask rfl)
              intro _
              apply keeps_bind (keeps_ofExcept _)
              intro _
              apply keeps_bind sends_createNextMessage
              intro _
              exact keeps_modify fun _ => ⟨rfl, fun _ made => .inl made⟩
          | false => exact sends_stopStateMachine message _
      · exact sends_stopStateMachine message _

theorem CurrentDemand.sends_buildRes :
    Keeps (Sends Call.isCommand (targets false)) (buildRes answers) := by
  iterate 10
    apply keeps_bind (sends_ask rfl)
    intro _
  apply keeps_bind keeps_get
  intro world
  iterate 4
    apply keeps_bind (keeps_ofExcept _)
    intro _
  exact keeps_pure _

/-- What follows when the data of the EV have been updated. -/
theorem CurrentDemand.sends_respond :
    Keeps (Sends Call.isCommand (targets false))
      (do
        let sent ← CurrentDemand.sendTargets answers
        if sent then do
          ask .sendDisplayParams answers.sendDisplayParams
          let res ← CurrentDemand.buildRes answers
          createNextMessage none .ok (.currentDemandRes res)
          setOwn (.currentDemand false)
        else
          stopStateMachine message .failed) := by
  apply keeps_bind
  · constructor
    intro world
    exact sends_trySend _ _ rfl sends_timedOut
  · intro sent
    cases sent with
    | true =>
        apply keeps_bind (sends_ask rfl)
        intro _
        apply keeps_bind (sends_buildRes answers)
        intro _
        apply keeps_bind sends_createNextMessage
        intro _
        exact keeps_modify fun _ => ⟨rfl, fun _ made => .inl made⟩
    | false => exact sends_stopStateMachine message _

/-- The command that a request may cause. -/
def commandFor : Request → Option Call
  | .preChargeReq req =>
      some (.sendChargingCommand req.evTargetVoltage.getDecimalValue
        req.evTargetCurrent.getDecimalValue true)
  | .currentDemandReq req =>
      some (.sendChargingCommand req.evTargetVoltage.getDecimalValue
        req.evTargetCurrent.getDecimalValue false)
  | _ => none

/-- Every command of a step is the one for the request that is handled. -/
theorem commandFor_of_step {environment : Environment} {session next : SECCSession}
    {received : Received} (step : (machine environment).Step session (some received) next)
    {call : Call} (made : call ∈ next.world.calls) (command : call.isCommand = true) :
    ∃ header request, received.message = .request ⟨header, request⟩ ∧
      commandFor request = some call := by
  obtain ⟨⟨header, request⟩, reached, isRequest, _, _, allowed, reaches, made⟩ :=
    SeccProtocol.call_of_step step made (by rintro rfl; cases command)
  refine ⟨header, request, isRequest, ?_⟩
  cases call with
  | sendChargingCommand voltage current isPrecharge =>
      cases request with
      | preChargeReq req =>
          change Reaches (PreCharge.onPreChargeReq received.answers _ req) _ reached at reaches
          unfold PreCharge.onPreChargeReq at reaches
          split at reaches
          · have sends : Keeps (Sends Call.isCommand (targets true)) (do
                let presentCurrent ← ask .getEvsePresentCurrent
                  received.answers.getEvsePresentCurrent
                PreCharge.preCharge received.answers (.request ⟨header, .preChargeReq req⟩)
                  presentCurrent) := by
              apply keeps_bind (sends_ask rfl)
              exact PreCharge.sends_preCharge _ _
            have demanded := demanded_of_reaches sends reaches rfl made rfl
            rw [demanded]
            rfl
          · exact absurd made (not_made_of_stop reaches)
      | currentDemandReq req =>
          have demanded := demanded_of_reaches
            (CurrentDemand.sends_respond received.answers
              (.request ⟨header, .currentDemandReq req⟩)) reaches rfl made rfl
          rw [demanded]
          rfl
      | _ => cases allowed
  | _ => cases command

end V2

/-! ## ISO 15118-20 -/

namespace V20

open Iso15118.Shared.V20

def Call.isCommand : Call → Bool
  | .sendChargingCommand _ _ _ _ => true
  | _ => false

/-- Whether the energy service of the session is `DC_BPT`. -/
def Session.isBpt (session : Session) : Bool :=
  session.selectedEnergyService.any fun selected => selected.service = .dcBpt

/-- The command of a pre-charge. -/
def preChargeTargets (context : EVDataContext) (_ : Session) : Call :=
  .sendChargingCommand (some context.targetVoltage) (some 0) true false

/-- The command of a charge loop, as it is sent: the flag of the service stands in the place
of that of the pre-charge. -/
def loopTargets (context : EVDataContext) (session : Session) : Call :=
  if session.controlMode = some .scheduled then
    .sendChargingCommand (some context.targetVoltage) (some context.targetCurrent) session.isBpt
      false
  else
    .sendChargingCommand none none session.isBpt false

variable {σ : Type} {demand : EVDataContext → Session → Call}

theorem sends_createNextMessage {nextState : Option (NextState StateName)}
    {responseCode : ResponseCode} {response : Response} {timeout : ℚ} :
    Keeps (Sends Call.isCommand demand)
      (createNextMessage nextState responseCode response timeout : Program σ PUnit) :=
  keeps_createMessage fun _ => ⟨rfl, fun _ made => .inl made⟩

theorem sends_stopStateMachine (message : V2GMessage) (responseCode : ResponseCode)
    (unstopped : ∀ context (session : Session) stopReason,
      demand context { session with stopReason := stopReason } = demand context session) :
    Keeps (Sends Call.isCommand demand)
      (stopStateMachine message responseCode : Program σ PUnit) := by
  apply keeps_stopStateMachine
  · exact keeps_modify fun _ => ⟨unstopped _ _ _, fun _ made => .inl made⟩
  · intros
    exact sends_createNextMessage

variable (answers : Answers) (message : V2GMessage)

theorem DCPreCharge.sends_respond (nextState : Option (NextState StateName)) :
    Keeps (Sends Call.isCommand demand) (respond answers nextState : Program σ PUnit) := by
  apply keeps_bind (sends_ask rfl)
  intro _
  exact sends_createNextMessage

/-- What follows when the data of the EV have been updated. -/
theorem DCPreCharge.sends_preCharge (req : DCPreChargeReq) :
    Keeps (Sends Call.isCommand preChargeTargets)
      (if req.evProcessing = .finished then
        DCPreCharge.respond answers (some (.state .powerDelivery))
      else do
        let world ← get
        let timedOut ← tryCatch
          (do
            ask (.sendChargingCommand (some world.evDataContext.targetVoltage) (some 0) true false)
              answers.sendChargingCommand
            pure false)
          (fun exception => if exception = .timeoutError then pure true else throw exception)
        if timedOut then
          stopStateMachine message .failed
        else
          DCPreCharge.respond answers none : Program σ PUnit) := by
  split
  · exact sends_respond answers _
  · constructor
    intro world
    rw [wp_bind, wp_get, wp_bind]
    apply wp_mono _ _ (sends_trySend Call.isCommand preChargeTargets rfl _)
    · intro timedOut after sent
      cases timedOut with
      | true => exact (sends_stopStateMachine message _ fun _ _ _ => rfl).wp_after sent
      | false => exact (sends_respond answers _).wp_after sent
    · exact fun _ _ sent => sent
    · intro exception
      split
      · exact keeps_pure _
      · exact keeps_throw _

theorem sends_selectedService :
    Keeps (Sends Call.isCommand demand) (selectedService : Program σ ServiceV20) := by
  apply keeps_bind keeps_get
  intro world
  split
  · exact keeps_pure _
  · exact keeps_throw _

theorem sends_readMeter (meterInfoRequested : Bool) :
    Keeps (Sends Call.isCommand demand)
      (readMeter answers meterInfoRequested : Program σ PUnit) := by
  unfold readMeter
  split
  · exact sends_ask rfl
  · exact keeps_pure _

theorem DCChargeLoop.sends_buildRes (meterInfoRequested : Bool) :
    Keeps (Sends Call.isCommand demand)
      (buildDcChargeLoopRes answers meterInfoRequested : Program σ Response) := by
  apply keeps_bind keeps_get
  intro world
  apply keeps_bind sends_selectedService
  intro service
  apply keeps_bind (sends_ask rfl)
  intro params
  apply keeps_bind (sends_ask rfl)
  intro status
  apply keeps_bind (sends_readMeter answers meterInfoRequested)
  intro _
  iterate 5
    apply keeps_bind (sends_ask rfl)
    intro _
  apply keeps_bind (keeps_ofExcept _)
  intro _
  exact keeps_pure _

/-- What follows when the data of the EV have been updated, by the part of the session that
the method has read before. -/
theorem DCChargeLoop.sends_chargeLoop [DiagnosticService σ] (req : DCChargeLoopReq)
    {service : ServiceV20} {controlMode : Option ControlMode} {start : World σ}
    (selected : decide (service = .dcBpt) = start.session.isBpt)
    (controls : controlMode = start.session.controlMode) :
    wp (do
        let world ← get
        let (serviceRegistry, evseDataContext) ← Effect.ofExcept
          (world.serviceRegistry.onCycle world.evDataContext world.evseDataContext)
        modify fun world =>
          { world with serviceRegistry := serviceRegistry, evseDataContext := evseDataContext }
        let scheduled := controlMode = some .scheduled
        let evTargetVoltage := if scheduled then some world.evDataContext.targetVoltage else none
        let evTargetCurrent := if scheduled then some world.evDataContext.targetCurrent else none
        let isSessionBpt := decide (service = .dcBpt)
        let sent ← tryCatch
          (do
            ask (.sendChargingCommand evTargetVoltage evTargetCurrent isSessionBpt false)
              answers.sendChargingCommand
            pure true)
          (fun _ => pure false)
        if sent then do
          ask .sendDisplayParams answers.sendDisplayParams
          let res ← DCChargeLoop.buildDcChargeLoopRes answers req.meterInfoRequested
          createNextMessage none .ok res
        else
          stopStateMachine message .failed : Program σ PUnit)
      (fun _ after => Sends Call.isCommand loopTargets start after)
      (fun _ after => Sends Call.isCommand loopTargets start after) start := by
  rw [wp_bind, wp_get, wp_bind, wp_ofExcept]
  constructor
  · rintro ⟨serviceRegistry, evseDataContext⟩ _
    dsimp only
    rw [wp_bind, wp_modify, wp_bind]
    have cycled : Sends Call.isCommand loopTargets start
        { start with serviceRegistry := serviceRegistry, evseDataContext := evseDataContext } :=
      ⟨rfl, fun _ made => .inl made⟩
    apply wp_mono _ _ (sends_trySend Call.isCommand loopTargets _ fun _ => keeps_pure _)
    · intro sent after sends
      have sends := IsTrans.trans _ _ _ cycled sends
      cases sent with
      | true =>
          apply Keeps.wp_after _ sends
          apply keeps_bind (sends_ask rfl)
          intro _
          apply keeps_bind (sends_buildRes answers _)
          intro _
          exact sends_createNextMessage
      | false => exact (sends_stopStateMachine message _ fun _ _ _ => rfl).wp_after sends
    · exact fun _ _ sends => IsTrans.trans _ _ _ cycled sends
    · rw [selected, controls]
      unfold loopTargets
      split <;> rfl
  · exact fun _ _ => ⟨rfl, fun _ made => .inl made⟩

/-- The targets of a request, which only a scheduled control mode has. -/
def requestTargets : DCChargeLoopReqParams → Option ℚ × Option ℚ
  | .scheduled params =>
      (some params.evTargetVoltage.getDecimalValue, some params.evTargetCurrent.getDecimalValue)
  | .bptScheduled params =>
      (some params.evTargetVoltage.getDecimalValue, some params.evTargetCurrent.getDecimalValue)
  | .dynamic _ => (none, none)
  | .bptDynamic _ => (none, none)

/-- In the scheduled control mode, the data of the EV have the targets of the request. -/
theorem wp_updateDcChargeLoopParameters_targets (req : DCChargeLoopReq) (service : ServiceV20)
    (controlMode : Option ControlMode) (context : EVDataContext) :
    wp (EVDataContext.updateDcChargeLoopParametersV20 req service controlMode)
      (fun _ updated => controlMode = some .scheduled →
        requestTargets req.params = (some updated.targetVoltage, some updated.targetCurrent))
      (fun _ _ => True) context := by
  have parameters (context : EVDataContext) :
      wp (EVDataContext.updateControlModeParameters req service controlMode)
        (fun _ updated => controlMode = some .scheduled →
          requestTargets req.params = (some updated.targetVoltage, some updated.targetCurrent))
        (fun _ _ => True) context := by
    unfold EVDataContext.updateControlModeParameters
    split
    · split
      next params same =>
        rw [wp_bind, wp_modify, wp_modify]
        intro _
        rw [same]
        rfl
      next => trivial
    · split <;> simp
    · split
      next params same =>
        rw [wp_bind, wp_modify, wp_modify]
        intro _
        rw [same]
        rfl
      next => trivial
    · split <;> simp
    · exact nofun
    · exact nofun
    · trivial
  unfold EVDataContext.updateDcChargeLoopParametersV20
  cases req.displayParameters with
  | none => exact parameters _
  | some params => exact parameters _

/-- The voltage and the current that a request of the charge loop asks for. -/
def loopRequest (session : Session) (req : DCChargeLoopReq) : Option ℚ × Option ℚ :=
  if session.controlMode = some .scheduled then requestTargets req.params else (none, none)

/-- What a request of the charge loop sends, with the flag of the service in the wrong place. -/
theorem DCChargeLoop.sent_of_reaches [DiagnosticService σ] {req : DCChargeLoopReq}
    {start reached : World σ} {voltage current : Option ℚ} {isPrecharge isSessionBpt : Bool}
    (reaches : Reaches (onDcChargeLoopReq answers message req) start reached)
    (fresh : start.calls = [])
    (made : .sendChargingCommand voltage current isPrecharge isSessionBpt ∈ reached.calls) :
    (voltage, current) = loopRequest start.session req ∧ isPrecharge = start.session.isBpt ∧
      isSessionBpt = false := by
  have none {calls : List Call} {call : Call} (empty : calls = []) : call ∉ calls := by
    rw [empty]
    exact nofun
  revert made
  apply reaches.post
  unfold onDcChargeLoopReq
  rw [wp_bind, wp_setOwn, wp_bind, wp_selectedService]
  constructor
  · intro selected present
    dsimp only at present
    rw [wp_bind, wp_get, wp_bind, wp_onEvData]
    apply wp_mono _ _ (wp_updateDcChargeLoopParameters_targets req _ _ _)
    · intro _ context updated
      have bpt : decide (selected.service = .dcBpt) = start.session.isBpt := by
        unfold Session.isBpt
        rw [present]
        rfl
      have command {after : World σ}
          (sends : Sends Call.isCommand loopTargets
            { start with
              currentState := { start.currentState with own := .dcChargeLoop false }
              evDataContext := context } after)
          (made : .sendChargingCommand voltage current isPrecharge isSessionBpt ∈ after.calls) :
          (voltage, current) = loopRequest start.session req ∧
            isPrecharge = start.session.isBpt ∧ isSessionBpt = false := by
        have demanded := (sends.calls _ made).resolve_left (none fresh) rfl
        unfold loopTargets at demanded
        unfold loopRequest
        dsimp only at demanded
        split at demanded
        next scheduled =>
          cases demanded
          rw [if_pos scheduled]
          exact ⟨(updated scheduled).symm, rfl, rfl⟩
        next unscheduled =>
          cases demanded
          rw [if_neg unscheduled]
          exact ⟨rfl, rfl, rfl⟩
      apply wp_mono _ _ (sends_chargeLoop answers message req (by exact bpt) (by rfl))
      · exact fun _ _ sends => command sends
      · exact fun _ _ sends => command sends
    · intro _ _ _ made
      exact absurd made (none fresh)
  · intro _ made
    exact absurd made (none fresh)

/-- The command that a request may cause, by the session in which it is handled. -/
def commandFor (session : Session) : Request → Option Call
  | .dcPreChargeReq req =>
      some (.sendChargingCommand (some req.evTargetVoltage.getDecimalValue) (some 0) true false)
  | .dcChargeLoopReq req =>
      some (.sendChargingCommand (loopRequest session req).1 (loopRequest session req).2 false
        session.isBpt)
  | _ => none

/-- Unless a request of the charge loop is handled for `DC_BPT`, every command of a step is
the one for the request. -/
theorem commandFor_of_step [DiagnosticService σ] {environment : Environment}
    {session next : SECCSession σ} {received : Received}
    (step : (machine environment).Step session (some received) next)
    (unidirectional : ∀ header req, received.message = .request ⟨header, .dcChargeLoopReq req⟩ →
      session.world.session.isBpt = false)
    {call : Call} (made : call ∈ next.world.calls) (command : call.isCommand = true) :
    ∃ header request, received.message = .request ⟨header, request⟩ ∧
      commandFor session.world.session request = some call := by
  obtain ⟨⟨header, request⟩, reached, isRequest, _, _, allowed, reaches, made⟩ :=
    SeccProtocol.call_of_step step made (by rintro rfl; cases command)
  refine ⟨header, request, isRequest, ?_⟩
  cases call with
  | sendChargingCommand voltage current isPrecharge isSessionBpt =>
      cases request with
      | dcPreChargeReq req =>
          have demanded := demanded_of_reaches
            (DCPreCharge.sends_preCharge received.answers
              (.request ⟨header, .dcPreChargeReq req⟩) req) reaches rfl made rfl
          rw [demanded]
          rfl
      | dcChargeLoopReq req =>
          obtain ⟨targets, precharge, bpt⟩ :=
            DCChargeLoop.sent_of_reaches _ _ reaches rfl made
          have other := unidirectional header req isRequest
          have precharge : isPrecharge = session.world.session.isBpt := precharge
          unfold commandFor
          rw [other, bpt, precharge, other]
          change some (Call.sendChargingCommand (loopRequest _ req).1 (loopRequest _ req).2 _ _) = _
          have same : loopRequest session.world.session req = (voltage, current) := targets.symm
          rw [same]
      | _ => cases allowed
  | _ => cases command

/-- A request of the charge loop is handled only while the energy service is not `DC_BPT`. -/
def Unidirectional (session : SECCSession σ) (input : Option Received) (_ : SECCSession σ) :
    Prop :=
  ∀ received ∈ input, ∀ header req,
    received.message = .request ⟨header, .dcChargeLoopReq req⟩ →
      session.world.session.isBpt = false

end V20

/-- In every run of ISO 15118-2, and in every step of a run of ISO 15118-20 that is not one of a
charge loop for `DC_BPT`, every command is the one for the request that is handled. -/
theorem commands_of_run (σ : Type) [DiagnosticService σ] (v2 : V2.Environment)
    (v20 : V20.Environment) :
    (∀ (start session next : V2.SECCSession) (history : List (Option V2.Received))
        (received : V2.Received), V2.New start →
      Run (V2.machine v2).Step start history session →
      (V2.machine v2).Step session (some received) next →
      ∀ call ∈ next.world.calls, call.isCommand = true →
        ∃ header request, received.message = .request ⟨header, request⟩ ∧
          V2.commandFor request = some call) ∧
    (∀ (start session next : V20.SECCSession σ) (history : List (Option V20.Received))
        (received : V20.Received), V20.New start →
      Run (V20.machine v20).Step start history session →
      (V20.machine v20).Step session (some received) next →
      V20.Unidirectional session (some received) next →
      ∀ call ∈ next.world.calls, call.isCommand = true →
        ∃ header request, received.message = .request ⟨header, request⟩ ∧
          V20.commandFor session.world.session request = some call) := by
  constructor
  · intro start session next history received _ _ last call made command
    exact V2.commandFor_of_step last made command
  · intro start session next history received _ _ last unidirectional call made command
    exact V20.commandFor_of_step last (unidirectional received rfl) made command

namespace V20

open Iso15118.Shared.V20

namespace Sample

/-- A charger that offers the service of the id. -/
def answersFor (service : Int) (params : DCChargeParameterDiscoveryRes) : Answers :=
  { answers with
    getEnergyServiceList := .ok ⟨[⟨service, true⟩]⟩
    getDcChargeParamsV20 := .ok (some params) }

def bptAnswers : Answers :=
  answersFor 6 (.bptDc ⟨⟨zeroRational, zeroRational, zeroRational, zeroRational, zeroRational,
    zeroRational, none⟩, zeroRational, zeroRational, zeroRational, zeroRational⟩)

/-- A session with `DC_BPT` up to the charge loop, in the dynamic control mode. -/
def bptHistory : List (Option Received) :=
  request (.powerDeliveryReq (powerDeliveryReq .start)) bptAnswers ::
    request (.dcPreChargeReq ⟨.ongoing, zeroRational, zeroRational⟩) bptAnswers ::
    request .dcCableCheckReq bptAnswers ::
    request .dcCableCheckReq bptAnswers ::
    request (.scheduleExchangeReq ⟨12, .dynamic ⟨0, none, none, zeroRational, zeroRational,
      zeroRational, none, none⟩⟩) bptAnswers ::
    request (.dcChargeParameterDiscoveryReq (.bptDc ⟨⟨zeroRational, zeroRational, zeroRational,
      zeroRational, zeroRational, zeroRational, none⟩, zeroRational, zeroRational, zeroRational,
      zeroRational⟩)) bptAnswers ::
    request (.serviceSelectionReq ⟨⟨6, 1⟩, none⟩) bptAnswers ::
    request (.serviceDetailReq ⟨6⟩) bptAnswers ::
    request (.serviceDiscoveryReq ⟨none⟩) bptAnswers ::
    authorizationHistory bptAnswers

def bptLoopReq : DCChargeLoopReq :=
  ⟨none, false, zeroRational, .bptDynamic ⟨⟨none, zeroRational, zeroRational, zeroRational,
    zeroRational, zeroRational, zeroRational, zeroRational, zeroRational⟩, zeroRational,
    zeroRational, zeroRational, none, none⟩⟩

/-- The same with `DC`. -/
def dcHistory : List (Option Received) :=
  request (.powerDeliveryReq (powerDeliveryReq .start)) ::
    request (.dcPreChargeReq ⟨.ongoing, zeroRational, zeroRational⟩) ::
    request .dcCableCheckReq :: request .dcCableCheckReq :: scheduleHistory

def dcLoopReq : DCChargeLoopReq :=
  ⟨none, false, zeroRational, .dynamic ⟨none, zeroRational, zeroRational, zeroRational,
    zeroRational, zeroRational, zeroRational, zeroRational, zeroRational⟩⟩

end Sample

/-- In a session with `DC`, the charge loop sends a command without targets. -/
theorem dc_commands_of_run :
    ∃ header request, (⟨{ sessionId := "10" }, .dcChargeLoopReq Sample.dcLoopReq⟩ :
        RequestMessage) = ⟨header, request⟩ ∧
      commandFor ((machine Sample.environment).rcvAll Sample.start
        Sample.dcHistory).world.session request =
          some (.sendChargingCommand none none false false) := by
  have run : Run (machine Sample.environment).Step Sample.start Sample.dcHistory
      ((machine Sample.environment).rcvAll Sample.start Sample.dcHistory) :=
    SessionStateMachine.run_of_goesOn (by decide +kernel)
  have last : (machine Sample.environment).Step
      ((machine Sample.environment).rcvAll Sample.start Sample.dcHistory)
      (Sample.request (.dcChargeLoopReq Sample.dcLoopReq))
      ((machine Sample.environment).rcvAll Sample.start
        (Sample.request (.dcChargeLoopReq Sample.dcLoopReq) :: Sample.dcHistory)) :=
    SessionStateMachine.step_rcvAll (by decide +kernel) _
  have unidirectional : Unidirectional
      ((machine Sample.environment).rcvAll Sample.start Sample.dcHistory)
      (Sample.request (.dcChargeLoopReq Sample.dcLoopReq))
      ((machine Sample.environment).rcvAll Sample.start
        (Sample.request (.dcChargeLoopReq Sample.dcLoopReq) :: Sample.dcHistory)) := by
    intro _ _ _ _ _
    decide +kernel
  obtain ⟨header, request, same, command⟩ :=
    (commands_of_run BatteryHealthService V2.Sample.environment Sample.environment).2 _ _ _ _ _
      Sample.new_start run last unidirectional (.sendChargingCommand none none false false)
      (by decide +kernel) rfl
  exact ⟨header, request, V2GMessage.request.inj same, command⟩

/-- In a session with `DC_BPT`, the charge loop sends the command of a pre-charge. -/
theorem bpt_not_classified :
    ∃ (start session next : SECCSession BatteryHealthService) (history : List (Option Received))
        (received : Received) (header : MessageHeader) (req : DCChargeLoopReq)
        (voltage current : Option ℚ),
      New start ∧ Run (machine Sample.environment).Step start history session ∧
        (machine Sample.environment).Step session (some received) next ∧
        received.message = .request ⟨header, .dcChargeLoopReq req⟩ ∧
        session.world.session.isBpt = true ∧
        .sendChargingCommand voltage current true false ∈ next.world.calls := by
  have run : Run (machine Sample.environment).Step Sample.start Sample.bptHistory
      ((machine Sample.environment).rcvAll Sample.start Sample.bptHistory) :=
    SessionStateMachine.run_of_goesOn (by decide +kernel)
  refine ⟨Sample.start, _, _, _, ⟨.request ⟨{ sessionId := "10" }, .dcChargeLoopReq
    Sample.bptLoopReq⟩, Sample.bptAnswers⟩, _, _, none, none, Sample.new_start, run,
    SessionStateMachine.step_rcvAll (by decide +kernel) _, rfl, by decide +kernel,
    by decide +kernel⟩

end V20

end Iso15118.Secc
