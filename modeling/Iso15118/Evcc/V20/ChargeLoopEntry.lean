import Iso15118.Evcc.V20.Progress

/-!
# The way into the charge loop

With the simulated battery, what the last `PowerDeliveryReq` was when `PowerDelivery` sends the
first request of a charge loop. The answer to a pause that the SECC asks for is to stop, after
which the EVCC charges all the same.
-/

namespace Iso15118.Evcc.V20

open Effect Transition
open Iso15118.Shared
open Iso15118.Shared.V20

variable {ρ : Type}

/-! ## The controller -/

/-- A profile comes with the progress that the wish for a pause asks for. -/
def pausing : Contract where
  schedules pause answer :=
    answer.1.isSome = true → answer.2 = RealBatterySimulator.chargeProgress pause

theorem RealBatterySimulator.chargeProgress_eq_start_iff {pause : Option Bool} :
    RealBatterySimulator.chargeProgress pause = .start ↔ pause ≠ some true := by
  unfold RealBatterySimulator.chargeProgress
  by_cases pauses : pause = some true
  · simp [pauses]
  · simp [pauses]

theorem RealBatterySimulator.processScheduledSeParams_pausing
    (params : Option ScheduledScheduleExchangeResParams) (pause : Option Bool) :
    Gives (fun _ => True) (RealBatterySimulator.processScheduledSeParams params pause)
      (pausing.schedules pause) := by
  intro battery
  unfold RealBatterySimulator.processScheduledSeParams RealBatterySimulator.randomBit
  simp only [wp_bind, wp_get, wp_set, wp_pure]
  split
  · cases params with
    | none => trivial
    | some params =>
        cases tuples : params.scheduleTuples with
        | nil => simp only [tuples, wp_throw]
        | cons selectedSchedule _ => simp [tuples, pausing]
  · exact fun profile => absurd profile Bool.false_ne_true

theorem RealBatterySimulator.processDynamicSeParams_pausing
    (params : Option DynamicScheduleExchangeResParams) (pause : Option Bool) :
    Gives (fun _ => True) (RealBatterySimulator.processDynamicSeParams params pause)
      (pausing.schedules pause) := by
  intro battery
  unfold RealBatterySimulator.processDynamicSeParams RealBatterySimulator.randomBit
  simp only [wp_bind, wp_get, wp_set, wp_pure]
  split
  · cases params with
    | none => trivial
    | some params => simp [pausing]
  · exact fun profile => absurd profile Bool.false_ne_true

/-- The simulated battery stops for a pause, and starts otherwise. -/
theorem keeps_realBatterySimulator : Keeps pausing RealBatterySimulator where
  __ := keeps_any RealBatterySimulator
  processScheduledSeParams params pause state :=
    wp_mono (fun _ _ answered => ⟨answered, nofun⟩) (fun _ _ raised => raised)
      (RealBatterySimulator.processScheduledSeParams_pausing params pause state)
  processDynamicSeParams params pause state :=
    wp_mono (fun _ _ answered => ⟨answered, nofun⟩) (fun _ _ raised => raised)
      (RealBatterySimulator.processDynamicSeParams_pausing params pause state)

/-! ## The last `PowerDeliveryReq` -/

/-- The `PowerDeliveryReq` that was sent last. -/
def lastPowerDeliveryReq (sent : List RequestMessage) : Option PowerDeliveryReq :=
  sent.findSome? fun message =>
    match message.request with
    | .powerDeliveryReq req => some req
    | _ => none

/-- The request tells the decision of the simulated battery on the schedules of the SECC. -/
structure Decides (session : Session) (req : PowerDeliveryReq) : Prop where
  finished : req.evProcessing = .finished
  progress : ∃ res, session.scheduleExchangeRes = some res ∧
    req.chargeProgress = RealBatterySimulator.chargeProgress res.goToPause

/-- Nothing is left to be processed, and charging has not been stopped. -/
def MayCharge (session : Session) : Prop :=
  session.evProcessing ≠ .ongoing ∧ session.chargingSessionStopV20 ∈ [none, some .pause]

theorem processingOf_ne_ongoing_iff {profile : Option EVPowerProfile} :
    processingOf profile ≠ .ongoing ↔ profile.isSome = true := by
  cases profile <;> simp [processingOf]

/-- With a profile, what has been answered is a decision. -/
theorem Decides.of_answered {session : Session} {res : ScheduleExchangeRes}
    {profile : Option EVPowerProfile} {req : PowerDeliveryReq}
    (exchanged : session.scheduleExchangeRes = some res)
    (answered : pausing.schedules res.goToPause (profile, req.chargeProgress))
    (processing : req.evProcessing = processingOf profile) (given : profile.isSome = true) :
    Decides session req := by
  constructor
  · rw [processing, processingOf, if_pos given]
  · exact ⟨res, exchanged, answered given⟩

/-- A turn to `PowerDelivery`, after which charging may begin. -/
theorem Row.decides {own : Own} {response : Response} {session : Session} {turn : Turn}
    (row : Row pausing own response session turn) (waits : turn.waiting = some .powerDelivery)
    (mayCharge : MayCharge turn.session) {request : Request}
    (requests : turn.request = some request) :
    ∃ req, request = .powerDeliveryReq req ∧ Decides turn.session req := by
  obtain ⟨processed, stays⟩ := mayCharge
  cases row
  case acSchedules res profile req finished answered processing ac =>
    cases requests
    have given : profile.isSome = true := by
      by_contra missing
      exact processed (if_neg missing)
    exact ⟨req, rfl, .of_answered rfl answered processing given⟩
  case repeatPowerDelivery res profile req answered processing processes exchanged =>
    cases requests
    have given := processingOf_ne_ongoing_iff.mp processed
    exact ⟨req, rfl, .of_answered exchanged answered processing given⟩
  case preCharged res profile req answered processing exchanged =>
    cases requests
    have given := processingOf_ne_ongoing_iff.mp processed
    exact ⟨req, rfl, .of_answered exchanged answered processing given⟩
  case acStop renegotiation reason => cases renegotiation <;> simp at stays
  case dcStop renegotiation reason => cases renegotiation <;> simp at stays
  all_goals first | (cases requests; done) | cases waits

/-! ## Runs -/

/-- When `PowerDelivery` is there to charge, the decision has been sent. -/
def DecisionSent (session : EVCCSession ρ) : Prop :=
  session.world.currentState.own = .powerDelivery → MayCharge session.world.session →
    ∃ req, lastPowerDeliveryReq session.sent = some req ∧ Decides session.world.session req

theorem GoesOnTo.decisionSent {session next : EVCCSession ρ} {after : World ρ}
    {message : V2GMessage} (goesOn : GoesOnTo session after next)
    (reacts : Reacts pausing message session.world after) (waits : Waits session) :
    DecisionSent next := by
  intro own mayCharge
  rw [goesOn.session] at mayCharge ⊢
  cases reacts with
  | answers res turn response accepts row leads =>
      have waiting := goesOn.waiting leads
      rw [own] at waiting
      obtain ⟨header, request, requests, sent⟩ := goesOn.requests leads
        fun silent _ waiting => row.leftover_of_silent silent waiting waits.leftover
      rw [leads.session] at mayCharge ⊢
      obtain ⟨req, rfl, decides⟩ := row.decides waiting mayCharge requests
      rw [sent]
      exact ⟨req, rfl, decides⟩
  | refuses _ _ currentState =>
      obtain ⟨idle, _⟩ | ⟨name, goes, _⟩ := goesOn.leads
      · rw [currentState] at idle
        cases idle
      · rw [currentState] at goes
        cases goes
  | detectsWelding complete turn _ row leads =>
      have waiting := goesOn.waiting leads
      rw [own] at waiting
      cases row <;> cases waiting

theorem decisionSent_of_run {start session : EVCCSession RealBatterySimulator}
    {history : List (Option (Received V2GMessage Answers))} (starts : Starts start)
    (run : Run (machine RealBatterySimulator).Step start history session)
    (goesOn : session.ended = false) :
    session.world.currentState.nextState = none ∧ Waits session ∧ DecisionSent session := by
  have initial : DecisionSent start := by
    intro own
    rw [starts.currentState] at own
    cases own
  exact run_invariant keeps_realBatterySimulator (by exact starts)
    (by exact And.intro starts.waits initial)
    (fun _ _ _ _ _ holds reacts goes =>
      And.intro (goes.waits reacts holds.1) (goes.decisionSent reacts holds.1)) run goesOn

/-- A request of a charge loop. -/
def IsChargeLoopReq : Request → Prop
  | .acChargeLoopReq _ | .dcChargeLoopReq _ => True
  | _ => False

/-- `PowerDelivery` sends the first request of a charge loop. -/
structure EntersChargeLoop (session next : EVCCSession ρ) : Prop where
  own : session.world.currentState.own = .powerDelivery
  sent : ∃ header request, IsChargeLoopReq request ∧
    next.sent = ⟨header, request⟩ :: session.sent

/-- The last request for the power delivery was one to start, by an EV that had finished its
processing. -/
def Started (session : EVCCSession ρ) : Prop :=
  ∃ req, lastPowerDeliveryReq session.sent = some req ∧ req.chargeProgress = .start ∧
    req.evProcessing = .finished

/-- Only a session that may charge enters a charge loop. -/
theorem Row.mayCharge {contract : Contract} {own : Own} {response : Response}
    {session : Session} {turn : Turn} (row : Row contract own response session turn)
    (delivers : own = .powerDelivery) {request : Request}
    (requests : turn.request = some request) (charges : IsChargeLoopReq request) :
    MayCharge session := by
  cases row <;> cases delivers
  case acEnterChargeLoop processed stays _ => exact ⟨processed, stays⟩
  case dcEnterChargeLoop processed stays _ => exact ⟨processed, stays⟩
  all_goals cases requests <;> cases charges

/-- In every run with the simulated battery, `PowerDelivery` enters a charge loop after a real
start if and only if the SECC has not asked for a pause with its schedules. -/
theorem started_iff_of_run {start session next : EVCCSession RealBatterySimulator}
    {history : List (Option (Received V2GMessage Answers))}
    {input : Option (Received V2GMessage Answers)} (starts : Starts start)
    (run : Run (machine RealBatterySimulator).Step start history session)
    (step : (machine RealBatterySimulator).Step session input next)
    (enters : EntersChargeLoop session next) :
    Started session ↔
      ∀ res, session.world.session.scheduleExchangeRes = some res → res.goToPause ≠ some true := by
  obtain ⟨idle, waits, decided⟩ := decisionSent_of_run starts run step.1
  obtain ⟨own, header, request, charges, sent⟩ := enters
  obtain ⟨received, after, rfl, reacts, prepared⟩ := Step.prepared_of_sent step idle sent
  have mayCharge : MayCharge session.world.session := by
    cases reacts with
    | answers res turn response accepts row leads =>
        have leftover := waits.leftover
        rw [own] at leftover
        cases requests : turn.request with
        | none =>
            rw [leads.silent requests] at prepared
            cases leftover.symm.trans prepared
        | some request' =>
            obtain ⟨_, prepared'⟩ := leads.prepares request' requests
            cases prepared.symm.trans prepared'
            exact row.mayCharge own requests charges
    | refuses _ _ currentState =>
        have leftover := waits.leftover
        rw [own] at leftover
        rw [currentState] at prepared
        cases leftover.symm.trans prepared
    | detectsWelding complete turn own' => cases own.symm.trans own'
  obtain ⟨req, last, finished, res, exchanged, progress⟩ := decided own mayCharge
  constructor
  · rintro ⟨_, last', starts', _⟩ _ exchanged'
    cases last.symm.trans last'
    cases exchanged.symm.trans exchanged'
    exact RealBatterySimulator.chargeProgress_eq_start_iff.mp (progress.symm.trans starts')
  · intro noPause
    refine ⟨req, last, ?_, finished⟩
    rw [progress]
    exact RealBatterySimulator.chargeProgress_eq_start_iff.mpr (noPause res exchanged)

namespace Sample

/-- An AC session up to the request for the power delivery. -/
def acScheduleHistory (goToPause : Option Bool) : List (Option (Received V2GMessage Answers)) :=
  [response (.scheduleExchangeRes (scheduleExchangeRes goToPause)),
    response .acChargeParameterDiscoveryRes, response .serviceSelectionRes,
    response (.serviceDetailRes (serviceDetailRes .ac))] ++ discoveryHistory .ac false

/-- The session when the power is delivered. -/
def powerDelivery (goToPause : Option Bool) : EVCCSession RealBatterySimulator :=
  (machine RealBatterySimulator).rcvAll (start (battery .ac)) (acScheduleHistory goToPause)

def isAcChargeLoopReq (message : RequestMessage) : Bool :=
  match message.request with
  | .acChargeLoopReq _ => true
  | _ => false

/-- With the response, the charge loop is entered. -/
theorem entersChargeLoop {session next : EVCCSession RealBatterySimulator}
    {input : Option (Received V2GMessage Answers)}
    (step : (machine RealBatterySimulator).Step session input next)
    (own : session.world.currentState.own = .powerDelivery)
    (longer : next.sent.length ≠ session.sent.length)
    (sends : next.sent.head?.map isAcChargeLoopReq = some true) :
    EntersChargeLoop session next := by
  constructor
  · exact own
  · obtain same | ⟨_, _, ⟨header, request⟩, _, _, _, sent⟩ := step.sent_eq_or
    · exact absurd (congrArg List.length same) longer
    · rw [sent] at sends
      cases request
      case acChargeLoopReq => exact ⟨header, .acChargeLoopReq _, trivial, sent⟩
      all_goals cases sends

end Sample

open Sample in
theorem sample_started : Started (powerDelivery none) := by
  have goesOn : (machine RealBatterySimulator).GoesOn (start (battery .ac))
      (response .powerDeliveryRes :: acScheduleHistory none) := by decide +kernel
  have step := SessionStateMachine.step_rcvAll goesOn.2 (response .powerDeliveryRes)
  have enters := entersChargeLoop step (by decide +kernel) (by decide +kernel) (by decide +kernel)
  apply (started_iff_of_run (starts_start _) (SessionStateMachine.run_of_goesOn goesOn.1) step
    enters).mpr
  intro res exchanged
  have noPause : (powerDelivery none).world.session.scheduleExchangeRes.map
      ScheduleExchangeRes.goToPause = some none := by decide +kernel
  have exchanged' : (powerDelivery none).world.session.scheduleExchangeRes = some res := exchanged
  rw [exchanged'] at noPause
  rw [Option.some.inj noPause]
  nofun

open Sample in
/-- After schedules with a pause, the EVCC asks to stop the power delivery and charges. -/
theorem enters_chargeLoop_after_stop : ∃ session next,
    Run (machine RealBatterySimulator).Step (start (battery .ac)) (acScheduleHistory (some true))
      session ∧
    (machine RealBatterySimulator).Step session (response .powerDeliveryRes) next ∧
    EntersChargeLoop session next ∧ ¬Started session := by
  have goesOn : (machine RealBatterySimulator).GoesOn (start (battery .ac))
      (response .powerDeliveryRes :: acScheduleHistory (some true)) := by decide +kernel
  have step := SessionStateMachine.step_rcvAll goesOn.2 (response .powerDeliveryRes)
  refine ⟨_, _, SessionStateMachine.run_of_goesOn goesOn.1, step,
    entersChargeLoop step (by decide +kernel) (by decide +kernel) (by decide +kernel), ?_⟩
  rintro ⟨req, last, starts, _⟩
  have stops : (lastPowerDeliveryReq (powerDelivery (some true)).sent).map
      PowerDeliveryReq.chargeProgress = some .stop := by decide +kernel
  have last' : lastPowerDeliveryReq (powerDelivery (some true)).sent = some req := last
  rw [last'] at stops
  cases starts.symm.trans (Option.some.inj stops)

end Iso15118.Evcc.V20
