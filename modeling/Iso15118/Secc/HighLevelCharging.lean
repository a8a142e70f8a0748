import Iso15118.Secc.Din.Loop
import Iso15118.Secc.V2.Loop
import Iso15118.Secc.V20.Loop

/-!
# High level charging

`set_hlc_charging` tells the controller whether an EV charges under high level
control. Only the states of power delivery call it, so a session leaves the flag
raised unless a power delivery has lowered it: `stop`, which ends every session, does
not.
-/

namespace Iso15118.Secc

open Effect Transition
open Iso15118.Shared

/-! ## The calls of a run -/

/-- A call of the controller: by a state, or by `stop`. -/
inductive ControllerCall (γ : Type) where
  | byState (call : γ)
  | stopCharger
  | updateDataLink
  | sessionEnded

/-- What `stop` of `SECCCommunicationSession` calls, the last call first. -/
def SECCCommunicationSession.stop {γ : Type} : List (ControllerCall γ) :=
  [.sessionEnded, .updateDataLink, .stopCharger]

namespace SeccProtocol

variable {ς κ ν μ γ ρ τ q M α : Type} [DecidableEq ν] [DecidableEq τ]
  (protocol : SeccProtocol ς κ ν μ γ ρ τ q M α)

/-- The calls of an iteration, the last one first. Without a message there are none. -/
def stepCalls (session : SECCSession ς κ ν μ γ ρ) : Option (Received M α) → List γ
  | none => []
  | some received => (protocol.machine.rcv session (some received)).world.calls

/-- The calls of the states in a run, the last one first. -/
def runCalls (start : SECCSession ς κ ν μ γ ρ) : List (Option (Received M α)) → List γ
  | [] => []
  | input :: past =>
      protocol.stepCalls (protocol.machine.rcvAll start past) input ++ runCalls start past

/-- All calls of a session that has ended, the last one first. -/
def sessionCalls (start : SECCSession ς κ ν μ γ ρ) (history : List (Option (Received M α))) :
    List (ControllerCall γ) :=
  SECCCommunicationSession.stop ++ (protocol.runCalls start history).map .byState

/-- How a protocol uses `set_hlc_charging`: the argument of a call, and that of the
last call that answering a request makes. -/
structure HighLevelCharging where
  flag : γ → Option Bool
  switchesTo : α → q → ς → Option Bool
  announced : flag protocol.setPresentProtocolState = none
  answered : ∀ answers req own (world reached : World ς κ ν μ γ ρ), world.calls = [] →
    Reaches (protocol.answer answers req own) world reached →
    reached.calls.findSome? flag = switchesTo answers req world.session

variable {protocol}

namespace HighLevelCharging

variable (hlc : protocol.HighLevelCharging)

/-- The argument of `set_hlc_charging`, where it is called. -/
def flagOf : ControllerCall γ → Option Bool
  | .byState call => hlc.flag call
  | _ => none

/-- The last call of `set_hlc_charging`, if there is one, lowers the flag. -/
def TakenBack (start : SECCSession ς κ ν μ γ ρ) (history : List (Option (Received M α))) : Prop :=
  (protocol.sessionCalls start history).findSome? hlc.flagOf ≠ some true

/-- The current state answers a request that switches the flag. -/
def Switches (isOngoing : Bool) (session : SECCSession ς κ ν μ γ ρ)
    (input : Option (Received M α)) (_next : SECCSession ς κ ν μ γ ρ) : Prop :=
  ∃ req answers, input = some ⟨protocol.request req, answers⟩ ∧
    protocol.guide.table.accepts session.world.currentState.own (protocol.requestType req) =
      true ∧
    protocol.Known req session.world.session ∧
    hlc.switchesTo answers req session.world.session = some isOngoing

/-- The latest request that has switched the flag has raised it. -/
def LeftRaised (start : SECCSession ς κ ν μ γ ρ) (history : List (Option (Received M α))) :
    Prop :=
  Since protocol.machine.Step (hlc.Switches false) (hlc.Switches true) start history
    (protocol.machine.rcvAll start history)

variable {hlc} {start session next : SECCSession ς κ ν μ γ ρ}

/-- An iteration leaves the flag as the request that it answers switches it. -/
theorem findSome?_stepCalls_iff (goesOn : session.ended = false)
    {input : Option (Received M α)} {isOngoing : Bool} :
    (protocol.stepCalls session input).findSome? hlc.flag = some isOngoing ↔
      hlc.Switches isOngoing session input next := by
  cases input with
  | none =>
      constructor
      · nofun
      · rintro ⟨_, _, none, _⟩
        cases none
  | some received =>
      have step : protocol.machine.Step session (some received)
          (protocol.machine.rcv session (some received)) := ⟨goesOn, rfl⟩
      obtain ⟨reached, reaches, calls⟩ := calls_of_step step
      have flags : (protocol.stepCalls session (some received)).findSome? hlc.flag =
          reached.calls.findSome? hlc.flag := by
        change ((protocol.machine.rcv session (some received)).world.calls).findSome? _ = _
        rcases calls with same | same
        · rw [same]
        · rw [same, List.findSome?_cons_of_isNone]
          rw [hlc.announced]
          rfl
      rw [flags]
      rcases received with ⟨message, answers⟩
      rcases protocol.processMessage_cases answers message { session.world with calls := [] } with
        ⟨req, rfl, accepted, known, answered⟩ | ⟨refused, stops⟩
      · unfold Reaches at reaches
        rw [answered] at reaches
        rw [hlc.answered answers req _ _ reached rfl reaches]
        constructor
        · exact fun switches => ⟨req, answers, rfl, accepted, known, switches⟩
        · rintro ⟨other, _, same, _, _, switches⟩
          obtain ⟨requested, rfl⟩ := Received.mk.inj (Option.some.inj same)
          cases protocol.request_injective _ _ requested
          exact switches
      · have none : reached.calls = [] := by
          rcases stops with ⟨_, _, _, stopped, _, none, _⟩ | ⟨_, _, failed, none⟩
          · rcases reaches with ⟨_, processed⟩ | ⟨_, processed⟩
            · cases stopped.symm.trans processed
              exact none
            · cases stopped.symm.trans processed
          · rcases reaches with ⟨_, processed⟩ | ⟨_, processed⟩
            · cases failed.symm.trans processed
            · cases failed.symm.trans processed
              exact none
        rw [none]
        constructor
        · nofun
        · rintro ⟨req, _, same, accepted, known, _⟩
          cases same
          exact absurd ⟨accepted, known⟩ (refused req rfl)

/-- The last step of a run has left the flag raised, or it has not touched it. -/
theorem leftRaised_cons_iff {input : Option (Received M α)} {past : List (Option (Received M α))}
    (goesOn : protocol.machine.GoesOn start (input :: past)) :
    hlc.LeftRaised start (input :: past) ↔
      hlc.Switches true (protocol.machine.rcvAll start past) input
          (protocol.machine.rcvAll start (input :: past)) ∨
        ¬hlc.Switches false (protocol.machine.rcvAll start past) input
            (protocol.machine.rcvAll start (input :: past)) ∧
          hlc.LeftRaised start past := by
  have last := SessionStateMachine.step_rcvAll goesOn.2 input
  constructor
  · intro raised
    obtain ⟨before, run, _, switched⟩ := raised.last
    cases SessionStateMachine.eq_rcvAll_of_run run
    exact switched
  · rintro (raises | ⟨keeps, raised⟩)
    · exact .now (SessionStateMachine.run_of_goesOn goesOn.1) last raises
    · exact raised.later last keeps

/-- The flag is left raised if and only if the last call in the run has raised it. -/
theorem findSome?_runCalls_iff {history : List (Option (Received M α))}
    (goesOn : protocol.machine.GoesOn start history) :
    (protocol.runCalls start history).findSome? hlc.flag = some true ↔
      hlc.LeftRaised start history := by
  induction history with
  | nil =>
      constructor
      · nofun
      · rintro ⟨recent, _, _, _, _, same, _⟩
        cases recent <;> cases same
  | cons input past ih =>
      have switches : ∀ isOngoing, (protocol.stepCalls (protocol.machine.rcvAll start past)
          input).findSome? hlc.flag = some isOngoing ↔ hlc.Switches isOngoing
            (protocol.machine.rcvAll start past) input
            (protocol.machine.rcvAll start (input :: past)) :=
        fun _ => findSome?_stepCalls_iff goesOn.2
      rw [leftRaised_cons_iff goesOn, ← switches, ← switches, ← ih goesOn.1, runCalls,
        List.findSome?_append]
      cases (protocol.stepCalls (protocol.machine.rcvAll start past) input).findSome? hlc.flag with
      | none => simp
      | some isOngoing => cases isOngoing <;> simp

/-- A session takes the flag back if and only if it has not left it raised before it
ended. -/
theorem takenBack_iff {history : List (Option (Received M α))}
    (goesOn : protocol.machine.GoesOn start history) :
    hlc.TakenBack start history ↔ ¬hlc.LeftRaised start history := by
  unfold TakenBack sessionCalls SECCCommunicationSession.stop
  rw [← findSome?_runCalls_iff goesOn]
  simp only [List.cons_append, List.nil_append, List.findSome?_cons, flagOf, List.findSome?_map]
  rfl

end HighLevelCharging

end SeccProtocol

section

variable {ς κ ν μ γ ρ τ : Type}

/-- The argument of the last call of `set_hlc_charging`. -/
def lastFlag (flag : γ → Option Bool) (world : World ς κ ν μ γ ρ) : Option Bool :=
  world.calls.findSome? flag

/-- Another method does not touch the flag. -/
theorem lastFlag_ask_other {α : Type} {flag : γ → Option Bool} {call : γ}
    {answer : Except PyError α} (other : flag call = none) :
    Keeps (Same (lastFlag flag)) (ask call answer : EStateM PyError (World ς κ ν μ γ ρ) α) := by
  apply keeps_ask
  intro world
  unfold lastFlag
  rw [List.findSome?_cons_of_isNone]
  rw [other]
  rfl

/-- What follows the call that switches the flag does not touch it. -/
theorem lastFlag_ask_bind {α β : Type} {flag : γ → Option Bool} {call : γ} {isOngoing : Bool}
    {answer : Except PyError β} {next : β → EStateM PyError (World ς κ ν μ γ ρ) α}
    {world : World ς κ ν μ γ ρ} (switches : flag call = some isOngoing)
    (keeps : ∀ value, Keeps (Same (lastFlag flag)) (next value)) :
    wp (ask call answer >>= next) (fun _ next => lastFlag flag next = some isOngoing)
      (fun _ next => lastFlag flag next = some isOngoing) world := by
  have switched : lastFlag flag { world with calls := call :: world.calls } = some isOngoing := by
    simp [lastFlag, switches]
  rw [wp_bind, wp_ask]
  constructor
  · intro value _
    exact (keeps value).wp_same switched
  · intro _ _
    exact switched

/-- A request whose answer may not call `set_hlc_charging` leaves the flag alone. -/
theorem lastFlag_of_effects {guide : Guide ς κ ν μ γ τ} {type : τ} {flag : γ → Option Bool}
    {world reached : World ς κ ν μ γ ρ} (effects : Effects guide type world reached)
    (fresh : world.calls = []) (untouched : ∀ call, guide.mayCall type call = true →
      flag call = none) : lastFlag flag reached = none := by
  unfold lastFlag
  rw [List.findSome?_eq_none_iff]
  intro call made
  rcases effects.calls call made with earlier | allowed
  · rw [fresh] at earlier
    cases earlier
  · exact untouched call allowed

end

/-! ## ISO 15118-2 -/

namespace V2

open Iso15118.Shared.V2

/-- The argument of `set_hlc_charging`, if the call is one. -/
def Call.hlcFlag : Call → Option Bool
  | .setHlcCharging isOngoing => some isOngoing
  | _ => none

/-- A start of a valid profile raises the flag, and a stop lowers it. -/
def PowerDelivery.switchesTo (req : PowerDeliveryReq) (session : Session) : Option Bool :=
  if req.saScheduleTupleId ∈
      session.offeredSchedules.map SAScheduleTuple.saScheduleTupleId then
    match profileValid req session.offeredSchedules, req.chargeProgress with
    | .ok true, .start => some true
    | .ok true, .stop => some false
    | _, _ => none
  else
    none

def switchesTo (request : Request) (session : Session) : Option Bool :=
  match request with
  | .powerDeliveryReq req => PowerDelivery.switchesTo req session
  | _ => none

theorem lastFlag_createNextMessage {nextState : Option (NextState StateName)}
    {responseCode : ResponseCode} {response : Response} {timeout : ℚ} :
    Keeps (Same (lastFlag Call.hlcFlag))
      (createNextMessage nextState responseCode response timeout) := by
  apply keeps_bind
  · exact ⟨fun _ => rfl⟩
  intro _
  exact keeps_createMessage fun _ => rfl

theorem lastFlag_stopStateMachine (message : V2GMessage) (responseCode : ResponseCode) :
    Keeps (Same (lastFlag Call.hlcFlag)) (stopStateMachine message responseCode) := by
  apply keeps_stopStateMachine
  · exact ⟨fun _ => rfl⟩
  · intros
    exact lastFlag_createNextMessage

namespace PowerDelivery

theorem lastFlag_respond (answers : Answers) (nextState : Option (NextState StateName)) :
    Keeps (Same (lastFlag Call.hlcFlag)) (respond answers nextState) := by
  apply keeps_bind keeps_get
  intro world
  split
  · apply keeps_bind (lastFlag_ask_other rfl)
    intro _
    apply keeps_bind lastFlag_createNextMessage
    intro _
    exact ⟨fun _ => rfl⟩
  · apply keeps_bind (lastFlag_ask_other rfl)
    intro _
    apply keeps_bind lastFlag_createNextMessage
    intro _
    exact ⟨fun _ => rfl⟩

/-- What follows the call of a start does not touch the flag. -/
theorem lastFlag_startCharging (answers : Answers) (message : V2GMessage)
    (req : PowerDeliveryReq) (world : World) :
    wp (startCharging answers message req) (fun _ next => lastFlag Call.hlcFlag next = some true)
      (fun _ next => lastFlag Call.hlcFlag next = some true) world := by
  unfold startCharging
  apply lastFlag_ask_bind
  · rfl
  intro _
  apply keeps_bind (lastFlag_ask_other rfl)
  intro _
  apply keeps_bind (lastFlag_ask_other rfl)
  intro contactorClosed
  split
  · apply keeps_bind keeps_get
    intro reached
    apply keeps_bind
    · exact ⟨fun _ => rfl⟩
    intro _
    exact lastFlag_respond answers _
  · exact lastFlag_stopStateMachine message _

theorem lastFlag_stopCharging (answers : Answers) (message : V2GMessage) (world : World) :
    wp (stopCharging answers message) (fun _ next => lastFlag Call.hlcFlag next = some false)
      (fun _ next => lastFlag Call.hlcFlag next = some false) world := by
  unfold stopCharging
  rw [wp_bind, wp_get]
  apply lastFlag_ask_bind
  · rfl
  intro _
  apply keeps_bind (lastFlag_ask_other rfl)
  intro _
  apply keeps_bind (lastFlag_ask_other rfl)
  intro contactorOpened
  split
  · exact lastFlag_respond answers _
  · exact lastFlag_stopStateMachine message _

theorem lastFlag_renegotiate (answers : Answers) (message : V2GMessage) :
    Keeps (Same (lastFlag Call.hlcFlag)) (renegotiate answers message) := by
  apply keeps_bind keeps_get
  intro world
  split
  · exact lastFlag_respond answers _
  · exact lastFlag_stopStateMachine message _

theorem lastFlag_onPowerDeliveryReq (answers : Answers) (message : V2GMessage)
    (req : PowerDeliveryReq) {world : World} (fresh : world.calls = []) :
    wp (onPowerDeliveryReq answers message req)
      (fun _ next => lastFlag Call.hlcFlag next = switchesTo req world.session)
      (fun _ next => lastFlag Call.hlcFlag next = switchesTo req world.session) world := by
  have none : lastFlag Call.hlcFlag world = none := by
    unfold lastFlag
    rw [fresh]
    rfl
  unfold onPowerDeliveryReq switchesTo
  rw [wp_bind, wp_get, wp_ite]
  split
  · rw [wp_bind, wp_onEvData, wp_modify, wp_bind, wp_ofExcept]
    constructor
    · intro valid checked
      rw [wp_ite, checked]
      cases valid with
      | true =>
          rw [if_pos rfl]
          unfold onChargeProgress
          cases req.chargeProgress with
          | start => exact lastFlag_startCharging answers message req _
          | stop => exact lastFlag_stopCharging answers message _
          | renegotiate => exact (lastFlag_renegotiate answers message).wp_same none
      | false =>
          rw [if_neg nofun]
          exact (lastFlag_stopStateMachine message _).wp_same none
    · intro exception failed
      rw [failed]
      exact none
  · exact (lastFlag_stopStateMachine message _).wp_same none

end PowerDelivery

/-- The flag in ISO 15118-2. -/
def highLevelCharging (environment : Environment) : (protocol environment).HighLevelCharging where
  flag := Call.hlcFlag
  switchesTo _ message := switchesTo message.request
  announced := rfl
  answered := by
    intro answers message own world reached fresh reaches
    rcases message with ⟨header, request⟩
    cases request with
    | powerDeliveryReq req =>
        exact reaches.post (PowerDelivery.lastFlag_onPowerDeliveryReq answers _ req fresh)
    | _ =>
        apply lastFlag_of_effects (((protocol environment).answer_effects answers _ own).of_reaches
          reaches) fresh
        intro call allowed
        cases call with
        | setHlcCharging isOngoing => cases allowed
        | _ => rfl

end V2

/-! ## ISO 15118-20 -/

namespace V20

open Iso15118.Shared.V20

/-- The argument of `set_hlc_charging`, if the call is one. -/
def Call.hlcFlag : Call → Option Bool
  | .setHlcCharging isOngoing => some isOngoing
  | _ => none

namespace PowerDelivery

/-- The contactor is found open after the flag has been raised. -/
def contactorFails (answers : Answers) : Bool :=
  (answers.setHlcCharging true).isOk && answers.waitForStateCOrD.isOk &&
    match answers.isContactorClosed with
    | .ok closed => closed ≠ some true
    | .error _ => false

/-- Whether the schedule that a start selects is accepted. -/
def scheduleAccepted (req : PowerDeliveryReq) (session : Session) : Bool :=
  session.controlMode ≠ some .scheduled ||
    match scheduleOffered req.evPowerProfile session.offeredSchedulesV20 with
    | .ok offered => offered
    | .error _ => false

/-- A stop lowers the flag. So does a start whose contactor is found open, and any other
start raises it. -/
def switchesTo (environment : Environment) (answers : Answers) (req : PowerDeliveryReq)
    (session : Session) : Option Bool :=
  if req.evProcessing = .ongoing ∨
      req.chargeProgress = .standby ∧ environment.config.standbyAllowed = false then none
  else if req.chargeProgress = .stop then some false
  else if scheduleAccepted req session then some (!contactorFails answers)
  else none

end PowerDelivery

def switchesTo (environment : Environment) (answers : Answers) (request : Request)
    (session : Session) : Option Bool :=
  match request with
  | .powerDeliveryReq req => PowerDelivery.switchesTo environment answers req session
  | _ => none

section

variable {σ : Type}

theorem lastFlag_createNextMessage {nextState : Option (NextState StateName)}
    {responseCode : ResponseCode} {response : Response} {timeout : ℚ} :
    Keeps (Same (lastFlag Call.hlcFlag))
      (createNextMessage nextState responseCode response timeout : Program σ PUnit) :=
  keeps_createMessage fun _ => rfl

theorem lastFlag_selectedService :
    Keeps (Same (lastFlag Call.hlcFlag)) (selectedService : Program σ ServiceV20) := by
  apply keeps_bind keeps_get
  intro world
  split
  · exact keeps_pure _
  · exact keeps_throw _

theorem lastFlag_stopStateMachine (message : V2GMessage) (responseCode : ResponseCode) :
    Keeps (Same (lastFlag Call.hlcFlag))
      (stopStateMachine message responseCode : Program σ PUnit) := by
  apply keeps_stopStateMachine
  · exact ⟨fun _ => rfl⟩
  · intros
    exact lastFlag_createNextMessage

namespace PowerDelivery

theorem lastFlag_stopCharging (answers : Answers) (message : V2GMessage)
    (responseCode : ResponseCode) (world : World σ) :
    wp (stopCharging answers message responseCode)
      (fun _ next => lastFlag Call.hlcFlag next = some false)
      (fun _ next => lastFlag Call.hlcFlag next = some false) world := by
  unfold stopCharging
  apply lastFlag_ask_bind
  · rfl
  intro _
  apply keeps_bind (lastFlag_ask_other rfl)
  intro _
  apply keeps_bind (lastFlag_ask_other rfl)
  intro contactorOpened
  split
  · exact lastFlag_createNextMessage
  · exact lastFlag_stopStateMachine message _

theorem scheduleValid_accepted (req : PowerDeliveryReq) (world : World σ) :
    wp (scheduleValid req)
      (fun valid next => next = world ∧ scheduleAccepted req world.session = valid)
      (fun _ next => next = world ∧ scheduleAccepted req world.session = false) world := by
  unfold scheduleValid scheduleAccepted
  rw [wp_bind, wp_get, wp_ite]
  split
  next scheduled =>
    rw [wp_ofExcept]
    simp only [scheduled, ne_eq, not_true_eq_false, decide_false, Bool.false_or]
    constructor
    · intro valid offered
      rw [offered]
      exact ⟨trivial, rfl⟩
    · intro exception failed
      rw [failed]
      exact ⟨trivial, rfl⟩
  next other =>
    rw [wp_pure]
    simp [other]

/-- A contactor that is found open lowers the flag that has been raised. -/
theorem lastFlag_closeContactor (answers : Answers) (message : V2GMessage)
    (responseCode : ResponseCode) (world : World σ) :
    wp (do
        ask (.setHlcCharging true) (answers.setHlcCharging true)
        let _ ← ask .getCpState answers.waitForStateCOrD
        let contactorClosed ← ask .isContactorClosed answers.isContactorClosed
        if contactorClosed = some true then do
          let service ← selectedService
          createNextMessage (chargeLoop service) responseCode .powerDeliveryRes
        else do
          ask (.setHlcCharging false) (answers.setHlcCharging false)
          stopStateMachine message .failedContactorError)
      (fun _ next => lastFlag Call.hlcFlag next = some (!contactorFails answers))
      (fun _ next => lastFlag Call.hlcFlag next = some (!contactorFails answers)) world := by
  unfold contactorFails
  rw [wp_bind, wp_ask]
  cases raised : answers.setHlcCharging true with
  | error exception => exact ⟨nofun, fun _ _ => rfl⟩
  | ok _ =>
      refine ⟨fun _ _ => ?_, nofun⟩
      rw [wp_bind, wp_ask]
      cases waited : answers.waitForStateCOrD with
      | error exception => exact ⟨nofun, fun _ _ => rfl⟩
      | ok _ =>
          refine ⟨fun _ _ => ?_, nofun⟩
          rw [wp_bind, wp_ask]
          cases found : answers.isContactorClosed with
          | error exception => exact ⟨nofun, fun _ _ => rfl⟩
          | ok closed =>
              refine ⟨?_, nofun⟩
              rintro _ ⟨⟩
              rw [wp_ite]
              split
              next isClosed =>
                apply Keeps.wp_same
                · apply keeps_bind
                  · exact lastFlag_selectedService
                  intro service
                  exact lastFlag_createNextMessage
                · rw [isClosed]
                  rfl
              next isOpen =>
                have lowered : (!decide (closed ≠ some true)) = false := by
                  rw [decide_eq_true isOpen]
                  rfl
                rw [wp_bind, wp_ask]
                constructor
                · intro _ _
                  apply (lastFlag_stopStateMachine message _).wp_same
                  exact congrArg some lowered.symm
                · intro _ _
                  exact congrArg some lowered.symm

/-- A start whose schedule is refused does not touch the flag. -/
theorem lastFlag_startCharging {answers : Answers} {message : V2GMessage}
    {req : PowerDeliveryReq} {responseCode : ResponseCode} {world : World σ}
    (none : lastFlag Call.hlcFlag world = none) :
    wp (startCharging answers message req responseCode)
      (fun _ next => lastFlag Call.hlcFlag next =
        if scheduleAccepted req world.session then some (!contactorFails answers) else .none)
      (fun _ next => lastFlag Call.hlcFlag next =
        if scheduleAccepted req world.session then some (!contactorFails answers) else .none)
      world := by
  unfold startCharging
  rw [wp_bind]
  apply wp_mono _ _ (scheduleValid_accepted req world)
  · rintro valid _ ⟨rfl, accepted⟩
    rw [accepted]
    cases valid with
    | true =>
        rw [if_pos rfl, if_pos rfl]
        exact lastFlag_closeContactor answers message responseCode _
    | false =>
        rw [if_neg nofun, if_neg nofun]
        exact (lastFlag_stopStateMachine message _).wp_same none
  · rintro _ _ ⟨rfl, refused⟩
    rw [refused]
    exact none

theorem lastFlag_onPowerDeliveryReq (environment : Environment) (answers : Answers)
    (message : V2GMessage) (req : PowerDeliveryReq) {world : World σ}
    (fresh : world.calls = []) :
    wp (onPowerDeliveryReq environment answers message req)
      (fun _ next => lastFlag Call.hlcFlag next =
        switchesTo environment answers req world.session)
      (fun _ next => lastFlag Call.hlcFlag next =
        switchesTo environment answers req world.session) world := by
  have none : lastFlag Call.hlcFlag world = none := by
    unfold lastFlag
    rw [fresh]
    rfl
  unfold onPowerDeliveryReq switchesTo
  dsimp only [checkPowerProfile]
  rw [wp_ite]
  by_cases ongoing : req.evProcessing = .ongoing
  · rw [if_pos ongoing, if_pos (.inl ongoing)]
    exact lastFlag_createNextMessage.wp_same none
  · rw [if_neg ongoing, wp_ite, if_neg (by decide), wp_ite]
    by_cases standby : req.chargeProgress = .standby ∧ environment.config.standbyAllowed = false
    · rw [if_pos standby, if_pos (.inr standby)]
      exact (lastFlag_stopStateMachine message _).wp_same none
    · rw [if_neg standby, if_neg (not_or.mpr ⟨ongoing, standby⟩), wp_ite]
      by_cases stops : req.chargeProgress = .stop
      · rw [if_pos stops, if_pos stops]
        exact lastFlag_stopCharging answers message _ world
      · rw [if_neg stops, if_neg stops]
        exact lastFlag_startCharging none

end PowerDelivery

variable [DiagnosticService σ]

/-- The flag in ISO 15118-20. -/
def highLevelCharging (environment : Environment) :
    (protocol environment : SeccProtocol _ _ _ _ _ (ServiceRegistry σ) _ _ _ _).HighLevelCharging
    where
  flag := Call.hlcFlag
  switchesTo answers message := switchesTo environment answers message.request
  announced := rfl
  answered := by
    intro answers message own world reached fresh reaches
    rcases message with ⟨header, request⟩
    cases request with
    | powerDeliveryReq req =>
        exact reaches.post
          (PowerDelivery.lastFlag_onPowerDeliveryReq environment answers _ req fresh)
    | _ =>
        apply lastFlag_of_effects (((protocol environment).answer_effects answers _ own).of_reaches
          reaches) fresh
        intro call allowed
        cases call with
        | setHlcCharging isOngoing => cases allowed
        | _ => rfl

end

end V20

/-! ## DIN SPEC 70121 -/

namespace Din

open Iso15118.Shared.Din

/-- The argument of `set_hlc_charging`, if the call is one. -/
def Call.hlcFlag : Call → Option Bool
  | .setHlcCharging isOngoing => some isOngoing
  | _ => none

/-- A request that has the parameter of the EV raises the flag if the EV is ready to
charge, and lowers it otherwise. -/
def PowerDelivery.switchesTo (req : PowerDeliveryReq) : Option Bool :=
  match req.dcEvPowerDeliveryParameter with
  | some _ => some req.readyToCharge
  | none => none

def switchesTo : Request → Option Bool
  | .powerDeliveryReq req => PowerDelivery.switchesTo req
  | _ => none

theorem lastFlag_createNextMessage {nextState : Option (NextState StateName)}
    {responseCode : ResponseCode} {response : Response} {timeout : ℚ} :
    Keeps (Same (lastFlag Call.hlcFlag))
      (createNextMessage nextState responseCode response timeout) := by
  apply keeps_bind
  · exact ⟨fun _ => rfl⟩
  intro _
  exact keeps_createMessage fun _ => rfl

theorem lastFlag_stopStateMachine (message : V2GMessage) (responseCode : ResponseCode) :
    Keeps (Same (lastFlag Call.hlcFlag)) (stopStateMachine message responseCode) := by
  apply keeps_stopStateMachine
  · exact ⟨fun _ => rfl⟩
  · intros
    exact lastFlag_createNextMessage

namespace PowerDelivery

theorem lastFlag_respond (answers : Answers) (nextState : Option (NextState StateName)) :
    Keeps (Same (lastFlag Call.hlcFlag)) (respond answers nextState) := by
  apply keeps_bind (lastFlag_ask_other rfl)
  intro _
  apply keeps_bind lastFlag_createNextMessage
  intro _
  exact ⟨fun _ => rfl⟩

theorem lastFlag_startCharging (answers : Answers) (world : World) :
    wp (startCharging answers) (fun _ next => lastFlag Call.hlcFlag next = some true)
      (fun _ next => lastFlag Call.hlcFlag next = some true) world := by
  unfold startCharging
  apply lastFlag_ask_bind
  · rfl
  intro _
  apply keeps_bind
  · exact ⟨fun _ => rfl⟩
  intro _
  exact lastFlag_respond answers _

theorem lastFlag_stopCharging (answers : Answers) (message : V2GMessage) (world : World) :
    wp (stopCharging answers message) (fun _ next => lastFlag Call.hlcFlag next = some false)
      (fun _ next => lastFlag Call.hlcFlag next = some false) world := by
  unfold stopCharging
  apply lastFlag_ask_bind
  · rfl
  intro _
  apply keeps_bind (lastFlag_ask_other rfl)
  intro _
  apply keeps_bind (lastFlag_ask_other rfl)
  intro contactorOpened
  split
  · exact lastFlag_respond answers _
  · exact lastFlag_stopStateMachine message _

theorem lastFlag_onPowerDeliveryReq (answers : Answers) (message : V2GMessage)
    (req : PowerDeliveryReq) {world : World} (fresh : world.calls = []) :
    wp (onPowerDeliveryReq answers message req)
      (fun _ next => lastFlag Call.hlcFlag next = switchesTo req)
      (fun _ next => lastFlag Call.hlcFlag next = switchesTo req) world := by
  unfold onPowerDeliveryReq switchesTo presentSoc
  rw [wp_bind, wp_ofExcept]
  cases req.dcEvPowerDeliveryParameter with
  | none =>
      refine ⟨nofun, fun _ _ => ?_⟩
      unfold lastFlag
      rw [fresh]
      rfl
  | some parameter =>
      refine ⟨fun soc _ => ?_, nofun⟩
      rw [wp_bind, wp_onEvData, wp_modify, wp_ite]
      dsimp only
      cases req.readyToCharge with
      | true => exact lastFlag_startCharging answers _
      | false => exact lastFlag_stopCharging answers message _

end PowerDelivery

/-- The flag in DIN SPEC 70121. -/
def highLevelCharging (config : Config) : (protocol config).HighLevelCharging where
  flag := Call.hlcFlag
  switchesTo _ message _ := switchesTo message.request
  announced := rfl
  answered := by
    intro answers message own world reached fresh reaches
    rcases message with ⟨header, request⟩
    cases request with
    | powerDeliveryReq req =>
        exact reaches.post (PowerDelivery.lastFlag_onPowerDeliveryReq answers _ req fresh)
    | _ =>
        apply lastFlag_of_effects (((protocol config).answer_effects answers _ own).of_reaches
          reaches) fresh
        intro call allowed
        cases call with
        | setHlcCharging isOngoing => cases allowed
        | _ => rfl

end Din

/-! ## All protocols -/

/-- A session that has ended has taken the flag back if and only if the latest power
delivery that switched it has not raised it. -/
theorem hlc_takenBack_iff (σ : Type) [DiagnosticService σ] (config : Din.Config)
    (environment : V2.Environment) (environmentV20 : V20.Environment) :
    (∀ start history, Din.New start → (Din.machine config).GoesOn start history →
      ((Din.machine config).rcvAll start history).ended = true →
      ((Din.highLevelCharging config).TakenBack start history ↔
        ¬(Din.highLevelCharging config).LeftRaised start history)) ∧
    (∀ start history, V2.New start → (V2.machine environment).GoesOn start history →
      ((V2.machine environment).rcvAll start history).ended = true →
      ((V2.highLevelCharging environment).TakenBack start history ↔
        ¬(V2.highLevelCharging environment).LeftRaised start history)) ∧
    ∀ (start : V20.SECCSession σ) history, V20.New start →
      (V20.machine environmentV20).GoesOn start history →
      ((V20.machine environmentV20).rcvAll start history).ended = true →
      ((V20.highLevelCharging environmentV20).TakenBack start history ↔
        ¬(V20.highLevelCharging environmentV20).LeftRaised start history) := by
  refine ⟨?_, ?_, ?_⟩
  · intro start history _ goesOn _
    exact SeccProtocol.HighLevelCharging.takenBack_iff goesOn
  · intro start history _ goesOn _
    exact SeccProtocol.HighLevelCharging.takenBack_iff goesOn
  · intro start history _ goesOn _
    exact SeccProtocol.HighLevelCharging.takenBack_iff goesOn

/-- An AC session that stops before the connection is closed. -/
theorem stopped_session_takenBack_iff :
    (V2.highLevelCharging V2.Sample.environment).TakenBack V2.Sample.start
        (none :: V2.Sample.request (.powerDeliveryReq (V2.Sample.powerDeliveryReq .stop)) ::
          V2.Sample.chargingStatusHistory) ↔
      ¬(V2.highLevelCharging V2.Sample.environment).LeftRaised V2.Sample.start
        (none :: V2.Sample.request (.powerDeliveryReq (V2.Sample.powerDeliveryReq .stop)) ::
          V2.Sample.chargingStatusHistory) :=
  (hlc_takenBack_iff BatteryHealthService Din.Sample.config V2.Sample.environment
    V20.Sample.environment).2.1 _ _ V2.Sample.new_start (by decide +kernel) (by decide +kernel)

/-- The peer closes the connection of a session that charges, and the flag stays raised. -/
theorem closed_connection_not_takenBack :
    V2.New V2.Sample.start ∧
      (V2.machine V2.Sample.environment).GoesOn V2.Sample.start
        (none :: V2.Sample.chargingStatusHistory) ∧
      ((V2.machine V2.Sample.environment).rcvAll V2.Sample.start
        (none :: V2.Sample.chargingStatusHistory)).ended = true ∧
      ¬(V2.highLevelCharging V2.Sample.environment).TakenBack V2.Sample.start
        (none :: V2.Sample.chargingStatusHistory) := by
  refine ⟨V2.Sample.new_start, by decide +kernel, by decide +kernel, fun takenBack => ?_⟩
  exact takenBack (by decide +kernel)

end Iso15118.Secc
