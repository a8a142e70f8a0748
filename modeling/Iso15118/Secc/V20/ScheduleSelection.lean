import Iso15118.Secc.V20.DcSafety

/-!
# The schedule that an ISO 15118-20 session charges by

A finished `ScheduleExchangeRes` of the scheduled control mode offers schedules, and
a `PowerDeliveryReq` that starts the energy transfer selects one of them. A session
may be renegotiated with another control mode in between, which offers none.
-/

namespace Iso15118.Secc.V20

open Effect Transition
open Iso15118.Shared
open Iso15118.Shared.V20

/-! ## What is sent -/

/-- The parameters of the latest `ScheduleExchangeRes` that was finished. -/
def latestFinished : List ResponseMessage → Option ScheduleExchangeResParams
  | [] => none
  | message :: earlier =>
      match message.response with
      | .scheduleExchangeRes res =>
          if res.evseProcessing = .finished then res.params else latestFinished earlier
      | _ => latestFinished earlier

/-- The schedules that a finished exchange has offered. -/
def OffersSchedules (sent : List ResponseMessage) (scheduleTuples : List ScheduleTuple) : Prop :=
  latestFinished sent = some (.scheduled ⟨scheduleTuples⟩)

instance (sent : List ResponseMessage) (scheduleTuples : List ScheduleTuple) :
    Decidable (OffersSchedules sent scheduleTuples) :=
  inferInstanceAs (Decidable (_ = _))

/-- Another response than a `ScheduleExchangeRes` changes nothing. -/
theorem latestFinished_cons_of_other {message : ResponseMessage} {earlier : List ResponseMessage}
    (other : responseTo message.response ≠ .scheduleExchangeReq) :
    latestFinished (message :: earlier) = latestFinished earlier := by
  rcases message with ⟨header, code, response⟩
  cases response with
  | scheduleExchangeRes res => exact absurd rfl other
  | _ => rfl

/-! ## What the states do -/

section

variable {σ : Type} {answers : Answers} {message : V2GMessage} {world next : World σ}

/-- What an exchange sends, and the schedules that the session then offers. -/
def ScheduleExchange.Offers (before : Session) (next : World σ) : Prop :=
  ∃ header res, next.currentState.nextV2gtpMsg =
      some ⟨header, .ok, .scheduleExchangeRes res⟩ ∧
    (res.evseProcessing = .finished → ∀ params, res.params = some (.scheduled params) →
      next.session.offeredSchedulesV20 = params.scheduleTuples) ∧
    (res.evseProcessing ≠ .finished →
      next.session.offeredSchedulesV20 = before.offeredSchedulesV20)

/-- The parameters of a response are those that the controller has returned. -/
theorem ScheduleExchange.scheduleExchangeRes_params {controlMode : Option ControlMode}
    {evseProcessing : Processing} {params : Option ScheduleExchangeResParams}
    {res : ScheduleExchangeRes}
    (built : scheduleExchangeRes controlMode evseProcessing params = .ok res) :
    res.evseProcessing = evseProcessing ∧
      ∀ offered, res.params = some offered → params = some offered := by
  unfold scheduleExchangeRes at built
  dsimp only at built
  split_ifs at built
  · cases built
    exact ⟨rfl, fun _ same => same⟩
  · cases built
    exact ⟨rfl, nofun⟩

theorem ScheduleExchange.offerSchedules_offers (params : Option ScheduleExchangeResParams)
    (world : World σ) :
    wp (offerSchedules params)
      (fun _ next => ∀ offered, params = some (.scheduled offered) →
        next.session.offeredSchedulesV20 = offered.scheduleTuples)
      (fun _ _ => True) world := by
  unfold offerSchedules
  split
  next offered =>
    rw [wp_updateSession]
    rintro _ ⟨⟩
    rfl
  next other =>
    rw [wp_pure]
    intro offered same
    exact absurd same (other offered)

theorem ScheduleExchange.finish_session {controlMode : Option ControlMode}
    {res : ScheduleExchangeRes} (world : World σ) :
    wp (finish controlMode res) (fun _ next => next.session = world.session)
      (fun _ _ => True) world := by
  simp only [finish, wp_bind, wp_get, wp_ofExcept, wp_modify, wp_selectedService, implies_true,
    and_true]

theorem ScheduleExchange.onScheduleExchangeReq_offers {req : ScheduleExchangeReq}
    (answered : onScheduleExchangeReq answers message req world = .ok ⟨⟩ next)
    (goesOn : next.currentState.nextState ≠ some .terminate) : Offers world.session next := by
  have offers : wp (onScheduleExchangeReq answers message req)
      (fun _ next => next.currentState.nextState ≠ some .terminate → Offers world.session next)
      (fun _ _ => True) world := by
    unfold onScheduleExchangeReq
    rw [wp_bind, wp_get, wp_bind, wp_onEvData]
    apply wp_of_forall _ fun _ _ => trivial
    intro _ context
    rw [wp_bind, wp_ask]
    refine ⟨fun params _ => ?_, fun _ _ => trivial⟩
    rw [wp_ite]
    split
    · exact stopStateMachine_goesOn message _ _
    · unfold respond
      rw [wp_bind, wp_ask]
      refine ⟨fun readyToCharge _ => ?_, fun _ _ => trivial⟩
      rw [wp_ite]
      split
      · rw [wp_bind]
        apply wp_mono _ (fun _ _ _ => trivial) (offerSchedules_offers params _)
        intro _ reached offered
        rw [wp_bind, wp_ofExcept]
        refine ⟨fun res built => ?_, fun _ _ => trivial⟩
        rw [wp_bind]
        apply wp_mono _ (fun _ _ _ => trivial) (finish_session reached)
        intro service finished same
        apply createNextMessage_ensures
        intro _
        have kept := scheduleExchangeRes_params built
        refine ⟨_, res, rfl, fun _ listed set => ?_, fun unfinished => absurd kept.1 unfinished⟩
        change finished.session.offeredSchedulesV20 = _
        rw [same]
        exact offered listed (kept.2 _ set)
      · rw [wp_bind, wp_ofExcept]
        refine ⟨fun res built => ?_, fun _ _ => trivial⟩
        apply createNextMessage_ensures
        intro _
        have kept := scheduleExchangeRes_params built
        refine ⟨_, res, rfl, fun finished => ?_, fun _ => rfl⟩
        cases kept.1.symm.trans finished
  exact post_of_eq_ok offers answered goesOn

/-- The request starts the energy transfer by a schedule, with whatever progress leads into the
branch that does. -/
structure StartsScheduled (environment : Environment) (req : PowerDeliveryReq)
    (session : Session) : Prop where
  scheduled : session.controlMode = some .scheduled
  starts : PowerDelivery.Starts environment req

/-- The schedule that the power profile of a request selects. -/
def Names (req : PowerDeliveryReq) (scheduleTuples : List ScheduleTuple) : Prop :=
  ∃ entryList scheduleTupleId, req.evPowerProfile = some ⟨entryList, .scheduled scheduleTupleId⟩ ∧
    scheduleTupleId ∈ scheduleTuples.map ScheduleTuple.scheduleTupleId

theorem PowerDelivery.scheduleOffered_eq_ok_true {req : PowerDeliveryReq}
    {offered : List ScheduleTuple}
    (valid : scheduleOffered req.evPowerProfile offered = .ok true) : Names req offered := by
  unfold scheduleOffered at valid
  split at valid
  next entryList scheduleTupleId profile =>
    refine ⟨entryList, scheduleTupleId, profile, ?_⟩
    exact of_decide_eq_true (Except.ok.inj valid)
  next => cases valid

/-- What starts by a schedule selects one of those of the session. -/
theorem PowerDelivery.onPowerDeliveryReq_names {environment : Environment}
    {req : PowerDeliveryReq} (starts : StartsScheduled environment req world.session)
    (answered : onPowerDeliveryReq environment answers message req world = .ok ⟨⟩ next)
    (goesOn : next.currentState.nextState ≠ some .terminate) :
    Names req world.session.offeredSchedulesV20 := by
  obtain ⟨finished, charges, allowed⟩ := starts.starts
  have names : wp (onPowerDeliveryReq environment answers message req)
      (fun _ next => next.currentState.nextState ≠ some .terminate →
        Names req world.session.offeredSchedulesV20)
      (fun _ _ => True) world := by
    unfold onPowerDeliveryReq
    have standby : ¬(req.chargeProgress = .standby ∧
        environment.config.standbyAllowed = false) := by
      rintro ⟨standby, refused⟩
      cases (allowed standby).symm.trans refused
    rw [if_neg finished]
    dsimp only [checkPowerProfile]
    rw [if_neg (by decide), if_neg standby, if_neg charges]
    unfold startCharging
    rw [wp_bind, scheduleValid, wp_bind, wp_get, wp_ite, if_pos starts.scheduled, wp_ofExcept]
    refine ⟨fun valid checked => ?_, fun _ _ => trivial⟩
    cases valid with
    | true =>
        have named := scheduleOffered_eq_ok_true checked
        apply wp_of_forall _ fun _ _ => trivial
        exact fun _ _ _ => named
    | false => exact stopStateMachine_goesOn message _ _
  exact post_of_eq_ok names answered goesOn

end

/-! ## Runs -/

section

variable {σ : Type} [DiagnosticService σ] {environment : Environment}

/-- A session between two requests. The schedules that were offered last are those of
the session. -/
structure Offers (environment : Environment) (session : SECCSession σ) : Prop where
  resting : session.world.currentState.nextState = none
  prepares : (protocol environment).Prepares session
  offered : ∀ scheduleTuples, OffersSchedules session.sent scheduleTuples →
    session.world.session.offeredSchedulesV20 = scheduleTuples

variable {start session next : SECCSession σ} {history : List (Option Received)}
  {input : Option Received}

theorem offers_start (new : New start) : Offers environment start where
  resting := by rw [new.1]
  prepares := by
    intro prepared made
    rw [new.1] at made
    cases made
  offered := by
    intro scheduleTuples offers
    unfold OffersSchedules at offers
    rw [new.2.1] at offers
    cases offers

theorem offers_of_step (offers : Offers environment session)
    (step : (machine environment).Step session input next) (goesOn : next.ended = false) :
    Offers environment next := by
  rcases step_answered step goesOn with ⟨message, answers, reached, response, rfl, answered⟩
  constructor
  case resting => exact answered.resting
  case prepares => exact answered.prepares offers.resting offers.prepares
  case offered =>
    intro scheduleTuples listed
    unfold OffersSchedules at listed
    rw [answered.sent] at listed
    by_cases exchanged : message.request.requestType = .scheduleExchangeReq
    · rcases message with ⟨header, request⟩
      cases request <;> cases exchanged
      rcases ScheduleExchange.onScheduleExchangeReq_offers answered.answer answered.not_terminate
        with ⟨header, res, prepared, final, kept⟩
      rw [Option.some.inj (answered.prepared.symm.trans prepared)] at listed
      change (if res.evseProcessing = .finished then res.params else latestFinished session.sent) =
        _ at listed
      rw [answered.session_eq]
      split at listed
      next finished => exact final finished _ listed
      next unfinished =>
        rw [kept unfinished]
        exact offers.offered _ listed
    · rcases SeccProtocol.mayRespond_of_answer offers.prepares answered.answer answered.prepared
        with ⟨type, same, responds⟩
      cases type_eq_of_answeredBy same
      rw [latestFinished_cons_of_other (responds ▸ exchanged)] at listed
      rw [answered.session_eq, offeredSchedulesV20_of_kept (kept_of_answered answered) exchanged]
      exact offers.offered _ listed

theorem offers_of_run (new : New start)
    (run : Run (machine environment).Step start history session) (goesOn : session.ended = false) :
    Offers environment session := by
  induction run with
  | start => exact offers_start new
  | step past last ih => exact offers_of_step (ih last.1) last goesOn

/-- A request that starts the energy transfer by a schedule is answered, and it selects a
schedule that the latest finished exchange has offered. -/
def SelectsOffered (req : PowerDeliveryReq) (session : SECCSession σ) : Prop :=
  ∃ scheduleTuples, OffersSchedules session.sent scheduleTuples ∧ Names req scheduleTuples

/-- A start selects a schedule of the latest finished exchange if and only if that
exchange has offered schedules. -/
theorem selectsOffered_iff (new : New start)
    (run : Run (machine environment).Step start history session)
    {header : MessageHeader} {req : PowerDeliveryReq} {answers : Answers}
    (step : (machine environment).Step session
      (some ⟨.request ⟨header, .powerDeliveryReq req⟩, answers⟩) next)
    (goesOn : next.ended = false)
    (starts : StartsScheduled environment req session.world.session) :
    SelectsOffered req session ↔
      ∃ scheduleTuples, OffersSchedules session.sent scheduleTuples := by
  constructor
  · rintro ⟨scheduleTuples, offers, _⟩
    exact ⟨scheduleTuples, offers⟩
  · rintro ⟨scheduleTuples, offers⟩
    refine ⟨scheduleTuples, offers, ?_⟩
    rcases step_answered step goesOn with ⟨message, answers, reached, response, same, answered⟩
    cases same
    have entered : StartsScheduled environment req
        ((protocol environment).entered session.world ⟨header, .powerDeliveryReq req⟩).session :=
      starts
    have names := PowerDelivery.onPowerDeliveryReq_names entered answered.answer
      answered.not_terminate
    change Names req session.world.session.offeredSchedulesV20 at names
    rw [(offers_of_run new run step.1).offered _ offers] at names
    exact names

end

/-! ## A sample session -/

namespace Sample

/-- A station that offers both control modes, a schedule, and the renegotiation of the
service. -/
def renegotiating : Answers :=
  { answers with
    serviceRenegotiationSupported := .ok true
    getServiceParameterList _ := .ok (some ⟨[⟨1, [⟨"ControlMode", .intValue 1⟩]⟩,
      ⟨2, [⟨"ControlMode", .intValue 2⟩]⟩]⟩)
    getScheduleExchangeParams := .ok (some (.scheduled ⟨[⟨1, []⟩]⟩)) }

/-- The selection of a control mode, up to the schedule exchange. -/
def controlModeHistory (parameterSetId : Int) (past : List (Option Received)) :
    List (Option Received) :=
  request (.dcChargeParameterDiscoveryReq (.dc ⟨zeroRational, zeroRational, zeroRational,
      zeroRational, zeroRational, zeroRational, none⟩)) ::
    request (.serviceSelectionReq ⟨⟨2, parameterSetId⟩, none⟩) renegotiating ::
    request (.serviceDetailReq ⟨2⟩) renegotiating ::
    request (.serviceDiscoveryReq ⟨none⟩) ::
    past

def renegotiate : Option Received :=
  request (.sessionStopReq ⟨.serviceRenegotiation⟩) renegotiating

def scheduledExchangeReq : ScheduleExchangeReq :=
  ⟨12, .scheduled ⟨none, none, none, none⟩⟩

def dynamicExchangeReq : ScheduleExchangeReq :=
  ⟨12, .dynamic ⟨0, none, none, zeroRational, zeroRational, zeroRational, none, none⟩⟩

/-- A session up to the schedule exchange in the scheduled control mode. -/
def scheduledHistory : List (Option Received) :=
  request (.scheduleExchangeReq scheduledExchangeReq) renegotiating ::
    controlModeHistory 1 (authorizationHistory answers)

/-- A session that is renegotiated from the scheduled to the dynamic control mode, and
back. -/
def renegotiatedHistory : List (Option Received) :=
  controlModeHistory 1
    (renegotiate ::
      request (.scheduleExchangeReq dynamicExchangeReq) ::
      controlModeHistory 2
        (renegotiate :: scheduledHistory))

def scheduledStart : PowerDeliveryReq :=
  ⟨.finished, .start, some ⟨[], .scheduled 1⟩, none, fun _ _ => rfl⟩

end Sample

end Iso15118.Secc.V20
