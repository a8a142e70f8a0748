import Iso15118.Secc.V2.DcSafety

/-!
# The schedule that an ISO 15118-2 session charges by

A `ChargeParameterDiscoveryRes` offers schedules, a `PowerDeliveryReq` that starts
the energy transfer selects one of them, and the responses of the charge loops
repeat its id. The list of the session is compared with what has been sent.
-/

namespace Iso15118.Secc.V2

open Effect Transition
open Iso15118.Shared
open Iso15118.Shared.V2

/-! ## What is sent -/

/-- The list of the latest `ChargeParameterDiscoveryRes`. -/
def offeredIn : List ResponseMessage → List SAScheduleTuple
  | [] => []
  | message :: earlier =>
      match message.response with
      | .chargeParameterDiscoveryRes res => res.saScheduleList.getD []
      | _ => offeredIn earlier

/-- The id that a response of a charge loop repeats. -/
def loopTupleId : Response → Option Nat
  | .chargingStatusRes _ saScheduleTupleId _ _ _ _ => some saScheduleTupleId
  | .currentDemandRes res => some res.saScheduleTupleId
  | _ => none

/-- Another response than a `ChargeParameterDiscoveryRes` offers nothing. -/
theorem offeredIn_cons_of_other {message : ResponseMessage} {earlier : List ResponseMessage}
    (other : responseTo message.response ≠ .chargeParameterDiscoveryReq) :
    offeredIn (message :: earlier) = offeredIn earlier := by
  rcases message with ⟨header, code, response⟩
  cases response with
  | chargeParameterDiscoveryRes res => exact absurd rfl other
  | _ => rfl

/-- Only the responses of the charge loops repeat an id. -/
theorem responseTo_of_loopTupleId {response : Response} {saScheduleTupleId : Nat}
    (repeated : loopTupleId response = some saScheduleTupleId) :
    responseTo response = .chargingStatusReq ∨ responseTo response = .currentDemandReq := by
  cases response with
  | chargingStatusRes => exact .inl rfl
  | currentDemandRes => exact .inr rfl
  | _ => cases repeated

/-- A failed response of a charge loop has the id 1. -/
theorem loopTupleId_of_failedResponse {type : RequestType} {response : Response}
    {saScheduleTupleId : Nat} (failed : failedResponse type = some response)
    (repeated : loopTupleId response = some saScheduleTupleId) :
    saScheduleTupleId = 1 ∧ (type = .chargingStatusReq ∨ type = .currentDemandReq) := by
  cases type <;> cases failed <;> cases repeated
  · exact ⟨rfl, .inl rfl⟩
  · exact ⟨rfl, .inr rfl⟩

/-! ## What the states do -/

section

variable {answers : Answers} {message : V2GMessage} {world next : World}

theorem PowerDelivery.respond_session (answers : Answers)
    (nextState : Option (NextState StateName)) (world : World) :
    wp (respond answers nextState) (fun _ next => next.session = world.session)
      (fun _ _ => True) world := by
  unfold respond
  rw [wp_bind, wp_get, wp_ite]
  split <;> simp only [wp_bind, wp_ask, wp_createNextMessage, wp_setOwn, implies_true, and_true]

/-- A start selects one of the offered schedules, and nothing else selects one. -/
def PowerDelivery.Selects (req : PowerDeliveryReq) (before after : Session) : Prop :=
  (req.chargeProgress = .start →
    req.saScheduleTupleId ∈ before.offeredSchedules.map SAScheduleTuple.saScheduleTupleId ∧
      after.selectedSchedule = some req.saScheduleTupleId) ∧
  (req.chargeProgress ≠ .start → after.selectedSchedule = before.selectedSchedule)

theorem PowerDelivery.selects_of_other {req : PowerDeliveryReq} {session : Session}
    (other : req.chargeProgress ≠ .start) : Selects req session session :=
  ⟨fun starts => absurd starts other, fun _ => rfl⟩

theorem PowerDelivery.onPowerDeliveryReq_selects {req : PowerDeliveryReq}
    (answered : onPowerDeliveryReq answers message req world = .ok ⟨⟩ next)
    (goesOn : next.currentState.nextState ≠ some .terminate) :
    Selects req world.session next.session := by
  have responds : ∀ nextState (reached : World),
      Selects req world.session reached.session →
      wp (respond answers nextState)
        (fun _ next => next.currentState.nextState ≠ some .terminate →
          Selects req world.session next.session)
        (fun _ _ => True) reached := by
    intro nextState reached selects
    apply wp_mono _ (fun _ _ _ => trivial) (respond_session answers nextState reached)
    intro _ last same _
    rw [same]
    exact selects
  have selects : wp (onPowerDeliveryReq answers message req)
      (fun _ next => next.currentState.nextState ≠ some .terminate →
        Selects req world.session next.session)
      (fun _ _ => True) world := by
    unfold onPowerDeliveryReq
    rw [wp_bind, wp_get, wp_ite]
    split
    next offered =>
      rw [wp_bind, wp_onEvData, wp_modify, wp_bind, wp_ofExcept]
      refine ⟨fun valid _ => ?_, fun _ _ => trivial⟩
      rw [wp_ite]
      split
      · unfold onChargeProgress
        cases progress : req.chargeProgress with
        | start =>
            unfold startCharging
            simp only [wp_bind, wp_ask, wp_ite, wp_get, wp_updateSession, implies_true, and_true]
            intro _ _ _ _ contactorClosed _
            split
            · exact responds _ _ ⟨fun _ => ⟨offered, rfl⟩, fun other => absurd progress other⟩
            · exact stopStateMachine_goesOn message _ _
        | stop =>
            have other : Selects req world.session world.session :=
              selects_of_other (by rw [progress]; decide)
            unfold stopCharging
            simp only [wp_bind, wp_ask, wp_ite, wp_get, implies_true, and_true]
            intro _ _ _ _ contactorOpened _
            split
            · exact responds _ _ other
            · exact stopStateMachine_goesOn message _ _
        | renegotiate =>
            have other : Selects req world.session world.session :=
              selects_of_other (by rw [progress]; decide)
            unfold renegotiate
            rw [wp_bind, wp_get, wp_ite]
            split
            · exact responds _ _ other
            · exact stopStateMachine_goesOn message _ _
      · exact stopStateMachine_goesOn message _ _
    · exact stopStateMachine_goesOn message _ _
  exact post_of_eq_ok selects answered goesOn

/-- The schedules that a discovery offers are those of the session from then on. -/
theorem ChargeParameterDiscovery.onChargeParameterDiscoveryReq_offers
    {req : ChargeParameterDiscoveryReq}
    (answered : onChargeParameterDiscoveryReq answers message req world = .ok ⟨⟩ next)
    {name : StateName} (leads : next.currentState.nextState = some (.state name)) :
    ∃ header res, next.currentState.nextV2gtpMsg =
        some ⟨header, .ok, .chargeParameterDiscoveryRes res⟩ ∧
      res.saScheduleList = some next.session.offeredSchedules := by
  have offers : wp (onChargeParameterDiscoveryReq answers message req)
      (fun _ next => next.currentState.nextState = some (.state name) →
        ∃ header res, next.currentState.nextV2gtpMsg =
            some ⟨header, .ok, .chargeParameterDiscoveryRes res⟩ ∧
          res.saScheduleList = some next.session.offeredSchedules)
      (fun _ _ => True) world := by
    unfold onChargeParameterDiscoveryReq
    rw [wp_bind, wp_ask]
    refine ⟨fun energyModes _ => ?_, fun _ _ => trivial⟩
    rw [wp_ite]
    split
    · rw [wp_bind, wp_onEvData, wp_modify, wp_bind, wp_updateSession, wp_bind]
      apply wp_of_forall _ fun _ _ => trivial
      intro parameters exchanged
      simp only [offerSchedules, wp_bind, wp_ask, wp_get, wp_ofExcept, implies_true, and_true]
      intro _ _ schedules _ _ _ _ _
      unfold respond
      rw [wp_ite]
      split
      · simp only [wp_bind, wp_setOwn, wp_createNextMessage, implies_true, and_true]
        intro _ leads
        cases leads
      · simp only [wp_bind, wp_updateSession, wp_ofExcept, wp_setOwn, wp_createNextMessage,
          implies_true, and_true]
        intro _ _ listed bounded _ _
        refine ⟨_, _, rfl, ?_⟩
        unfold saScheduleList at bounded
        split at bounded
        · cases bounded
          rfl
        · cases bounded
    · apply wp_mono _ (fun _ _ _ => trivial) (stopStateMachine_terminates message _ _)
      intro _ _ terminates leads
      cases terminates.symm.trans leads
  exact post_of_eq_ok offers answered leads

theorem selectedTupleId_eq_ok {session : Session} {saScheduleTupleId : Nat}
    (selected : selectedTupleId session = .ok saScheduleTupleId) :
    session.selectedSchedule = some saScheduleTupleId := by
  unfold selectedTupleId at selected
  split at selected
  next same =>
    cases selected
    exact same
  next => cases selected

/-- A charging status repeats the id of the session. -/
theorem ChargingStatus.onChargingStatusReq_repeats
    (answered : onChargingStatusReq answers world = .ok ⟨⟩ next) {response : ResponseMessage}
    (prepared : next.currentState.nextV2gtpMsg = some response) :
    loopTupleId response.response = world.session.selectedSchedule := by
  have repeats : wp (onChargingStatusReq answers)
      (fun _ next => ∀ response, next.currentState.nextV2gtpMsg = some response →
        loopTupleId response.response = world.session.selectedSchedule)
      (fun _ _ => True) world := by
    simp only [onChargingStatusReq, wp_bind, wp_ask, wp_get, wp_ofExcept, wp_createNextMessage,
      wp_setOwn, implies_true, and_true]
    intro evseId _ acEvseStatus _ evseMaxCurrent _ _ _ saScheduleTupleId selected _ response made
    cases made
    exact (selectedTupleId_eq_ok selected).symm
  exact post_of_eq_ok repeats answered response prepared

theorem CurrentDemand.buildRes_repeats (answers : Answers) (world : World) :
    wp (buildRes answers)
      (fun res next => some res.saScheduleTupleId = world.session.selectedSchedule ∧
        next.session = world.session)
      (fun _ _ => True) world := by
  simp only [buildRes, wp_bind, wp_ask, wp_get, wp_ofExcept, wp_pure, implies_true, and_true]
  intros
  symm
  apply selectedTupleId_eq_ok
  assumption

/-- A charging command that is not sent in time fails. -/
theorem CurrentDemand.onCurrentDemandReq_failed {req : CurrentDemandReq}
    {header : MessageHeader}
    (answered : onCurrentDemandReq answers (.request ⟨header, .currentDemandReq req⟩) req world =
      .ok ⟨⟩ next)
    (late : answers.sendChargingCommand = .error .timeoutError) {response : ResponseMessage}
    (prepared : next.currentState.nextV2gtpMsg = some response) :
    loopTupleId response.response = some 1 := by
  have fails : wp (onCurrentDemandReq answers (.request ⟨header, .currentDemandReq req⟩) req)
      (fun _ next => ∀ response, next.currentState.nextV2gtpMsg = some response →
        loopTupleId response.response = some 1)
      (fun _ _ => True) world := by
    simp only [onCurrentDemandReq, sendTargets, wp_bind, wp_onEvData, wp_modify, wp_get,
      wp_tryCatch, wp_ask, wp_pure, wp_ite, wp_throw, implies_true, and_true, late]
    constructor
    · rintro _ ⟨⟩
    rintro exception ⟨⟩
    rw [if_pos rfl, if_neg (by decide), wp_stopStateMachine]
    dsimp only [failedResponse, Request.requestType]
    rw [wp_createNextMessage]
    refine ⟨?_, fun _ _ => trivial⟩
    rintro _ response ⟨⟩
    rfl
  exact post_of_eq_ok fails answered response prepared

/-- One that is sent in time repeats the id too. -/
theorem CurrentDemand.onCurrentDemandReq_repeats {req : CurrentDemandReq}
    (answered : onCurrentDemandReq answers message req world = .ok ⟨⟩ next)
    (inTime : answers.sendChargingCommand ≠ .error .timeoutError) {response : ResponseMessage}
    (prepared : next.currentState.nextV2gtpMsg = some response) :
    loopTupleId response.response = world.session.selectedSchedule := by
  have repeats : wp (onCurrentDemandReq answers message req)
      (fun _ next => ∀ response, next.currentState.nextV2gtpMsg = some response →
        loopTupleId response.response = world.session.selectedSchedule)
      (fun _ _ => True) world := by
    simp only [onCurrentDemandReq, sendTargets, wp_bind, wp_onEvData, wp_modify, wp_get,
      wp_tryCatch, wp_ask, wp_pure, wp_ite, wp_throw, implies_true, and_true]
    constructor
    · intro _ _
      rw [if_pos trivial]
      intro _ _
      apply wp_mono _ (fun _ _ _ => trivial) (buildRes_repeats answers _)
      rintro res reached ⟨repeated, same⟩
      simp only [wp_bind, wp_createNextMessage, wp_setOwn, implies_true, and_true]
      rintro _ response ⟨⟩
      exact repeated
    · intro exception failed
      rw [if_neg]
      · trivial
      · rintro rfl
        exact inTime failed
  exact post_of_eq_ok repeats answered response prepared

end

/-! ## Runs -/

/-- The classes of states that come after schedules have been offered. -/
def StateName.afterOffer : StateName → Bool
  | .cableCheck => true
  | .preCharge => true
  | .powerDelivery => true
  | .meteringReceipt => true
  | .chargingStatus => true
  | .currentDemand => true
  | _ => false

/-- The classes of states from the charge parameter discovery on. -/
def StateName.afterDiscovery (name : StateName) : Bool :=
  name.afterOffer || name = .chargeParameterDiscovery || name = .sessionStop ||
    name = .weldingDetection

/-- Only a discovery leads to the states that come after an offer. -/
theorem afterOffer_of_accepts {own : Own} {type : RequestType}
    (accepted : own.accepts type = true) (waits : own ≠ .chargeParameterDiscovery false)
    (other : type ≠ .chargeParameterDiscoveryReq) {name : StateName}
    (leads : name = answeredBy type ∨ mayGoTo type name = true)
    (after : name.afterOffer = true) : own.name.afterOffer = true := by
  have expected := mem_expectedMsgTypes accepted
  cases own with
  | cableCheck | preCharge | powerDelivery | meteringReceipt | chargingStatus
    | currentDemand => rfl
  | chargeParameterDiscovery expecting =>
      cases expecting with
      | false => exact absurd rfl waits
      | true => cases type <;> first
          | exact absurd rfl other
          | cases accepted
  | _ =>
      rcases leads with rfl | leads
      · cases type <;> cases after <;>
          simp [Own.name, StateName.expectedMsgTypes] at expected
      · cases type <;> cases name <;> cases leads <;> cases after <;>
          simp [Own.name, StateName.expectedMsgTypes] at expected

/-- No state leads back to the authorization. -/
theorem afterDiscovery_of_accepts {own : Own} {type : RequestType}
    (accepted : own.accepts type = true) (after : own.name.afterDiscovery = true) :
    (answeredBy type).afterDiscovery = true ∧
      ∀ name, mayGoTo type name = true → name.afterDiscovery = true := by
  have expected := mem_expectedMsgTypes accepted
  cases own <;> cases after <;> cases type <;>
    simp [Own.name, StateName.expectedMsgTypes] at expected <;>
    exact ⟨rfl, fun name leads => by cases name <;> cases leads <;> rfl⟩

/-- A session between two requests. The schedules that it holds after an offer are
those that have been sent. -/
structure Offers (environment : Environment) (session : SECCSession) : Prop where
  resting : session.world.currentState.nextState = none
  prepares : (protocol environment).Prepares session
  waits : session.world.currentState.own ≠ .chargeParameterDiscovery false
  offered : session.world.currentState.own.name.afterOffer = true →
    offeredIn session.sent = session.world.session.offeredSchedules

/-- Certificates are installed before an offer. -/
theorem not_afterOffer_of_installs {type : RequestType} {name : StateName}
    (installs : answeredBy type = .certificateInstallation) (leads : mayGoTo type name = true) :
    name.afterOffer = false := by
  cases type <;> cases installs <;> cases name <;> first
    | rfl
    | cases leads

/-- The request that a class of states answers. -/
def StateName.answers : StateName → RequestType
  | .sessionSetup => .sessionSetupReq
  | .serviceDiscovery => .serviceDiscoveryReq
  | .serviceDetail => .serviceDetailReq
  | .paymentServiceSelection => .paymentServiceSelectionReq
  | .certificateInstallation => .certificateInstallationReq
  | .paymentDetails => .paymentDetailsReq
  | .authorization => .authorizationReq
  | .chargeParameterDiscovery => .chargeParameterDiscoveryReq
  | .powerDelivery => .powerDeliveryReq
  | .meteringReceipt => .meteringReceiptReq
  | .sessionStop => .sessionStopReq
  | .chargingStatus => .chargingStatusReq
  | .cableCheck => .cableCheckReq
  | .preCharge => .preChargeReq
  | .currentDemand => .currentDemandReq
  | .weldingDetection => .weldingDetectionReq

theorem answers_answeredBy {type : RequestType}
    (other : answeredBy type ≠ .certificateInstallation) : (answeredBy type).answers = type := by
  cases type <;> first
    | rfl
    | exact absurd rfl other

/-- A response that is not about certificates is one to the request that is answered. -/
theorem responseTo_of_mayRespond {type answered : RequestType} {response : ResponseMessage}
    (same : answeredBy type = answeredBy answered) (responds : mayRespond type response)
    (other : answeredBy answered ≠ .certificateInstallation) :
    responseTo response.response = answered := by
  have equal : type = answered := by
    rw [← answers_answeredBy other, ← same, answers_answeredBy (same ▸ other)]
  subst equal
  rcases responds with responds | rfl
  · exact responds
  · exact absurd rfl other

/-- Offered schedules stay the ones of the session until the next discovery. -/
theorem offeredSchedules_of_kept {type : RequestType} {before after : Session}
    (other : type ≠ .chargeParameterDiscoveryReq) (same : kept type after = kept type before) :
    after.offeredSchedules = before.offeredSchedules := by
  have offered := congrArg Session.offeredSchedules same
  cases type
  case chargeParameterDiscoveryReq => exact absurd rfl other
  all_goals exact offered

/-- Only a `PowerDeliveryReq` selects a schedule. -/
theorem selectedSchedule_of_kept {type : RequestType} {before after : Session}
    (other : type ≠ .powerDeliveryReq) (same : kept type after = kept type before) :
    after.selectedSchedule = before.selectedSchedule := by
  have selected := congrArg Session.selectedSchedule same
  cases type
  case powerDeliveryReq => exact absurd rfl other
  all_goals exact selected

/-- A `PowerDeliveryReq` that selects a schedule starts the energy transfer. -/
def Starts (saScheduleTupleId : Nat) (_session : SECCSession) (input : Option Received)
    (next : SECCSession) : Prop :=
  next.ended = false ∧ ∃ header req answers,
    input = some ⟨.request ⟨header, .powerDeliveryReq req⟩, answers⟩ ∧
      req.chargeProgress = .start ∧ req.saScheduleTupleId = saScheduleTupleId

/-- The latest start has selected the schedule. -/
def SelectedLast (environment : Environment) (saScheduleTupleId : Nat) (start : SECCSession)
    (history : List (Option Received)) (session : SECCSession) : Prop :=
  Since (machine environment).Step
    (fun session input next => ∃ other, Starts other session input next)
    (Starts saScheduleTupleId) start history session

section

variable {environment : Environment} {start session next : SECCSession}
  {history : List (Option Received)} {input : Option Received} {message : RequestMessage}
  {answers : Answers} {reached : World} {response : ResponseMessage}

theorem offers_start (new : New start) : Offers environment start where
  resting := by rw [new.1]
  prepares := by
    intro prepared made
    rw [new.1] at made
    cases made
  waits := by
    rw [new.1]
    nofun
  offered := by
    rw [new.1]
    nofun

/-- What other requests send offers nothing new. -/
theorem offered_of_other (offers : Offers environment session)
    (other : message.request.requestType ≠ .chargeParameterDiscoveryReq)
    (answered : (protocol environment).Answered session message answers reached response next)
    (after : next.world.currentState.own.name.afterOffer = true) :
    offeredIn next.sent = next.world.session.offeredSchedules := by
  rcases SeccProtocol.mayRespond_of_answer offers.prepares answered.answer answered.prepared with
    ⟨type, same, responds⟩
  have leads : next.world.currentState.own.name = answeredBy message.request.requestType ∨
      mayGoTo message.request.requestType next.world.currentState.own.name = true := by
    rcases answered.leads offers.resting with ⟨_, same, named⟩ | ⟨name, _, same, allowed⟩
    · rw [same]
      exact .inl named
    · rw [same]
      change _ ∨ mayGoTo _ name.new.name = true
      rw [StateName.name_new]
      exact .inr allowed
  have installed : answeredBy message.request.requestType ≠ .certificateInstallation := by
    intro installs
    rcases leads with leads | leads
    · rw [leads, installs] at after
      cases after
    · rw [not_afterOffer_of_installs installs leads] at after
      cases after
  have noOffer : responseTo response.response ≠ .chargeParameterDiscoveryReq := by
    rw [responseTo_of_mayRespond same responds installed]
    exact other
  have before := afterOffer_of_accepts answered.accepted offers.waits other leads after
  rw [answered.sent, offeredIn_cons_of_other noOffer, offers.offered before]
  exact (offeredSchedules_of_kept other answered.kept).symm

/-- A step that goes on keeps the schedules of the session those that have been sent. -/
theorem offers_of_step (offers : Offers environment session)
    (step : (machine environment).Step session input next) (goesOn : next.ended = false) :
    Offers environment next := by
  rcases SeccProtocol.step_answered step goesOn with
    ⟨message, answers, reached, response, rfl, answered⟩
  constructor
  case resting => exact answered.resting
  case prepares => exact answered.prepares offers.resting offers.prepares
  case waits =>
    intro waits
    rcases answered.leads offers.resting with ⟨stays, same, named⟩ | ⟨name, _, same, _⟩
    · rcases message with ⟨header, request⟩
      rw [same] at waits
      rw [waits] at named
      cases request <;> cases named
      rcases ChargeParameterDiscovery.onChargeParameterDiscoveryReq_leads answered.answer
          answered.not_terminate with ⟨_, own⟩ | leads
      · cases waits.symm.trans own
      · cases stays.symm.trans leads
    · rw [same] at waits
      cases name <;> cases waits
  case offered =>
    intro after
    by_cases other : message.request.requestType = .chargeParameterDiscoveryReq
    · rcases message with ⟨header, request⟩
      cases request <;> cases other
      rcases ChargeParameterDiscovery.onChargeParameterDiscoveryReq_leads answered.answer
          answered.not_terminate with ⟨stays, own⟩ | leads
      · rw [answered.currentState_eq stays, own] at after
        cases after
      · rcases ChargeParameterDiscovery.onChargeParameterDiscoveryReq_offers answered.answer
          leads with ⟨header, res, prepared, listed⟩
        rw [answered.sent, answered.session_eq,
          Option.some.inj (answered.prepared.symm.trans prepared)]
        change res.saScheduleList.getD [] = _
        rw [listed]
        rfl
    · exact offered_of_other offers other answered after

theorem offers_of_run (new : New start)
    (run : Run (machine environment).Step start history session) (goesOn : session.ended = false) :
    Offers environment session := by
  induction run with
  | start => exact offers_start new
  | step past last ih => exact offers_of_step (ih last.1) last goesOn

/-- A start selects one of the schedules that have been offered last. -/
theorem selectedSchedule_of_starts (offers : Offers environment session)
    (step : (machine environment).Step session input next) {saScheduleTupleId : Nat}
    (starts : Starts saScheduleTupleId session input next) :
    saScheduleTupleId ∈ (offeredIn session.sent).map SAScheduleTuple.saScheduleTupleId ∧
      next.world.session.selectedSchedule = some saScheduleTupleId ∧
      next.world.currentState.own.name.afterDiscovery = true := by
  rcases starts with ⟨goesOn, header, req, answers, rfl, progress, rfl⟩
  rcases SeccProtocol.step_answered step goesOn with
    ⟨message, answers', reached, response, same, answered⟩
  cases same
  have selects := (PowerDelivery.onPowerDeliveryReq_selects answered.answer
    answered.not_terminate).1 progress
  have before : session.world.currentState.own.name.afterOffer = true :=
    afterOffer_of_accepts answered.accepted offers.waits nofun (.inl rfl) rfl
  refine ⟨?_, ?_, ?_⟩
  · rw [offers.offered before]
    exact selects.1
  · rw [answered.session_eq]
    exact selects.2
  · have after := afterDiscovery_of_accepts answered.accepted (by
      unfold StateName.afterDiscovery
      rw [before]
      rfl)
    rcases answered.leads offers.resting with ⟨_, same, named⟩ | ⟨name, _, same, allowed⟩
    · rw [same]
      change reached.currentState.own.name = _ at named
      rw [named]
      exact after.1
    · rw [same]
      change name.new.name.afterDiscovery = true
      rw [StateName.name_new]
      exact after.2 name allowed

/-- The schedule of the latest start stays the one of the session. -/
theorem selectedSchedule_of_last (new : New start) {saScheduleTupleId : Nat}
    (selected : SelectedLast environment saScheduleTupleId start history session)
    (goesOn : session.ended = false) :
    session.world.session.selectedSchedule = some saScheduleTupleId ∧
      session.world.currentState.own.name.afterDiscovery = true := by
  induction history generalizing session with
  | nil =>
      obtain ⟨recent, input, past, _, _, same, _⟩ := selected
      cases recent <;> cases same
  | cons input past ih =>
      obtain ⟨before, run, step, starts | ⟨other, selected⟩⟩ := selected.last
      · exact (selectedSchedule_of_starts (offers_of_run new run step.1) step starts).2
      · have offers := offers_of_run new run step.1
        have earlier := ih selected step.1
        rcases SeccProtocol.step_answered step goesOn with
          ⟨⟨header, request⟩, answers, reached, response, rfl, answered⟩
        constructor
        · rw [← earlier.1]
          by_cases power : request.requestType = .powerDeliveryReq
          · cases request <;> cases power
            next req =>
              rw [answered.session_eq]
              apply (PowerDelivery.onPowerDeliveryReq_selects answered.answer
                answered.not_terminate).2
              intro progress
              exact other ⟨_, goesOn, header, req, answers, rfl, progress, rfl⟩
          · exact selectedSchedule_of_kept power answered.kept
        · have after := afterDiscovery_of_accepts answered.accepted earlier.2
          rcases answered.leads offers.resting with ⟨_, same, named⟩ | ⟨name, _, same, allowed⟩
          · rw [same]
            change reached.currentState.own.name = _ at named
            rw [named]
            exact after.1
          · rw [same]
            change name.new.name.afterDiscovery = true
            rw [StateName.name_new]
            exact after.2 name allowed

end

/-- A request of a charge loop is answered as long as the id of failed responses, 1, is
not the selected one: it is not refused, and a charging command does not time out. -/
def ServesLoop (session : SECCSession) (input : Option Received) : Prop :=
  ∀ message answers saScheduleTupleId, input = some ⟨.request message, answers⟩ →
    session.world.session.selectedSchedule = some saScheduleTupleId → saScheduleTupleId ≠ 1 →
    message.request.requestType = .chargingStatusReq ∨
      message.request.requestType = .currentDemandReq →
    session.world.currentState.own.accepts message.request.requestType = true ∧
      Known message session.world.session ∧
      (message.request.requestType = .currentDemandReq →
        answers.sendChargingCommand ≠ .error .timeoutError)

/-- A step that starts the energy transfer selects one of the schedules that have been
offered last, and the response of a charge loop repeats the id of the latest start. -/
structure KeepsSchedule (environment : Environment) (start : SECCSession)
    (history : List (Option Received)) (session : SECCSession) (input : Option Received)
    (next : SECCSession) : Prop where
  selects : ∀ saScheduleTupleId, Starts saScheduleTupleId session input next →
    saScheduleTupleId ∈ (offeredIn session.sent).map SAScheduleTuple.saScheduleTupleId ∧
      next.world.session.selectedSchedule = some saScheduleTupleId
  repeats : ∀ saScheduleTupleId,
    SelectedLast environment saScheduleTupleId start history session →
    ∀ response, next.sent = response :: session.sent →
    ∀ repeated, loopTupleId response.response = some repeated → repeated = saScheduleTupleId

section

variable {environment : Environment} {start session next : SECCSession}
  {history : List (Option Received)} {input : Option Received}

theorem keepsSchedule_of_step (new : New start)
    (run : Run (machine environment).Step start history session)
    (step : (machine environment).Step session input next) (serves : ServesLoop session input) :
    KeepsSchedule environment start history session input next := by
  have offers := offers_of_run new run step.1
  constructor
  case selects =>
    intro saScheduleTupleId starts
    have selected := selectedSchedule_of_starts offers step starts
    exact ⟨selected.1, selected.2.1⟩
  case repeats =>
    intro saScheduleTupleId selected response sent repeated repeats
    have last := selectedSchedule_of_last new selected step.1
    rcases SeccProtocol.responds_of_sent step offers.prepares sent with
      ⟨⟨header, request⟩, answers, rfl, ⟨accepted, known, ⟨reached, answer, prepared⟩, type, same,
        responds⟩ | ⟨refused, refuses⟩⟩
    · change answeredBy type = answeredBy request.requestType at same
      have installed : answeredBy request.requestType ≠ .certificateInstallation := by
        intro installs
        have after := (afterDiscovery_of_accepts accepted last.2).1
        change (answeredBy request.requestType).afterDiscovery = true at after
        rw [installs] at after
        cases after
      have responds := responseTo_of_mayRespond same responds installed
      rcases responseTo_of_loopTupleId repeats with loop | loop
      · rw [loop] at responds
        cases request <;> cases responds
        have same := ChargingStatus.onChargingStatusReq_repeats answer prepared
        exact Option.some.inj (repeats.symm.trans (same.trans last.1))
      · rw [loop] at responds
        cases request <;> cases responds
        next req =>
          by_cases inTime : answers.sendChargingCommand = .error .timeoutError
          · have failed := CurrentDemand.onCurrentDemandReq_failed answer inTime prepared
            rw [repeats] at failed
            cases failed
            by_contra other
            exact (serves ⟨header, .currentDemandReq req⟩ answers _ rfl last.1
              (fun same => other same.symm) (.inr rfl)).2.2 rfl inTime
          · have same := CurrentDemand.onCurrentDemandReq_repeats answer inTime prepared
            exact Option.some.inj (repeats.symm.trans (same.trans last.1))
    · rcases loopTupleId_of_failedResponse refuses repeats with ⟨rfl, loop⟩
      by_contra other
      have served := serves _ answers _ rfl last.1 (fun same => other same.symm) loop
      exact refused ⟨served.1, served.2.1⟩

end

end Iso15118.Secc.V2
