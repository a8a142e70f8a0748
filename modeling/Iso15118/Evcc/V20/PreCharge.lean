import Iso15118.Evcc.V20.Loop

/-!
# The hand-over from the pre-charge

In `DCPreCharge` the controller is asked twice for each response whether the battery is
pre-charged: before a request is built and while it is. The one answer decides on the way to
`PowerDelivery`, the other is what the SECC is told.
-/

namespace Iso15118.Evcc.V20

open Effect Transition
open Iso15118.Shared
open Iso15118.Shared.V20

variable {ρ : Type} [EVController ρ]

/-- The `DCPreChargeReq` that was sent last. -/
def lastPreChargeReq (sent : List RequestMessage) : Option DCPreChargeReq :=
  sent.findSome? fun message =>
    match message.request with
    | .dcPreChargeReq req => some req
    | _ => none

/-- A `PowerDeliveryReq` that `DCPreCharge` sends comes after a `DCPreChargeReq` by which the
pre-charge is over. -/
def HandsOver (session next : EVCCSession ρ) : Prop :=
  ∀ builtOnce header req, session.world.currentState.own = .dcPreCharge builtOnce →
    next.sent = ⟨header, .powerDeliveryReq req⟩ :: session.sent →
    (lastPreChargeReq session.sent).map DCPreChargeReq.evProcessing = some .finished

/-- The answer that goes into a `DCPreChargeReq`, which is the second one. -/
def askedAgain (evseVoltage : RationalNumber) : EStateM PyError ρ Bool := do
  let _ ← EVController.isPrecharged evseVoltage
  let _ ← EVController.getPresentVoltage (ρ := ρ)
  EVController.isPrecharged evseVoltage

/-- A `DCPreChargeRes` is received that passes the check, with the voltage of the EVSE. -/
def TakesPreChargeRes (world : World ρ) (input : Option (Received V2GMessage Answers))
    (evseVoltage : RationalNumber) : Prop :=
  ∃ res answers, input = some ⟨.response res, answers⟩ ∧
    res.response = .dcPreChargeRes evseVoltage ∧
    Accepts world.currentState.own res world.session

/-- The controller answers. -/
def AnswersWith (method : EStateM PyError ρ Bool) (controller : ρ) (answer : Bool) : Prop :=
  ∃ reached, method controller = .ok answer reached

omit [EVController ρ] in
instance (method : EStateM PyError ρ Bool) (controller : ρ) (answer : Bool) :
    Decidable (AnswersWith method controller answer) :=
  match answered : method controller with
  | .ok given reached =>
      if same : given = answer then .isTrue ⟨reached, by rw [answered, same]⟩
      else .isFalse fun ⟨_, answers⟩ => by
        cases answered.symm.trans answers
        exact same rfl
  | .error _ _ => .isFalse fun ⟨_, answers⟩ => by cases answered.symm.trans answers

/-- For the `DCPreChargeReq` before, the battery was not pre-charged yet, and for the response
to it, it is from the first. -/
def PrechargesBetween (start : EVCCSession ρ)
    (history : List (Option (Received V2GMessage Answers)))
    (input : Option (Received V2GMessage Answers)) : Prop :=
  ∃ received past builtOnce earlier evseVoltage, history = received :: past ∧
    ((machine ρ).rcvAll start past).world.currentState.own = .dcPreCharge builtOnce ∧
    TakesPreChargeRes ((machine ρ).rcvAll start past).world received earlier ∧
    AnswersWith (askedAgain earlier) ((machine ρ).rcvAll start past).world.controller false ∧
    ((machine ρ).rcvAll start history).world.currentState.own = .dcPreCharge true ∧
    TakesPreChargeRes ((machine ρ).rcvAll start history).world input evseVoltage ∧
    AnswersWith (EVController.isPrecharged evseVoltage)
      ((machine ρ).rcvAll start history).world.controller true

/-! ## One message -/

/-- What an iteration in `DCPreCharge` does with an accepted response. -/
theorem machine_dcPreCharge {world : World ρ} {builtOnce : Bool} {res : ResponseMessage}
    {received : Received V2GMessage Answers} {evseVoltage : RationalNumber}
    (own : world.currentState.own = .dcPreCharge builtOnce)
    (response : received.message = .response res)
    (accepts : Accepts world.currentState.own res world.session)
    (taken : res.response = .dcPreChargeRes evseVoltage) :
    (machine ρ).processMessage received world =
      DCPreCharge.onDCPreChargeRes builtOnce evseVoltage { world with calls := [] } := by
  change processMessage received.answers received.message { world with calls := [] } = _
  unfold processMessage
  rw [get_bind_apply, response, own]
  dsimp only
  unfold DCPreCharge.processMessage checkMsg
  dsimp only
  rw [bind_checkMsg rfl, taken]
  exact if_pos ⟨accepts.good, accepts.known⟩

/-- The way to `PowerDelivery` is taken by the first answer, and the second is sent. -/
theorem DCPreCharge.onDCPreChargeRes_asks (builtOnce : Bool) (evseVoltage : RationalNumber)
    (world : World ρ) :
    Ensures (fun _ => True) (onDCPreChargeRes builtOnce evseVoltage)
      (fun _ after => ∃ header,
        (∃ req, after.currentState.nextV2gtpMsg = some ⟨header, .powerDeliveryReq req⟩ ∧
          after.currentState.nextState = some (.state .powerDelivery) ∧ builtOnce = true ∧
          AnswersWith (EVController.isPrecharged evseVoltage) world.controller true) ∨
        ∃ req answer, after.currentState.nextV2gtpMsg = some ⟨header, .dcPreChargeReq req⟩ ∧
          after.currentState.nextState = none ∧ after.currentState.own = .dcPreCharge true ∧
          AnswersWith (askedAgain evseVoltage) world.controller answer ∧
          req.evProcessing = if answer then .finished else .ongoing) world := by
  unfold onDCPreChargeRes
  apply ensures_ask_eq_bind
  intro isPrecharged controller first
  split
  next precharged =>
    obtain ⟨rfl, rfl⟩ := (Bool.and_eq_true _ _).mp precharged
    apply ensures_bind (wp_mono (fun _ _ spec => spec) (fun _ _ _ => trivial)
      (@buildPowerDeliveryReq_spec ρ {} { now := 0 } _ _ (keeps_any ρ) (.dcPreCharge true)
        (.dcPreChargeRes evseVoltage) trivial))
    rintro _ after ⟨header, req, _, _, rfl, _⟩
    exact ⟨header, .inl ⟨req, rfl, rfl, rfl, controller, first⟩⟩
  next =>
    unfold buildPreChargeMessage
    simp only [bind_assoc, pure_bind]
    apply ensures_ask_eq_bind
    intro presentVoltage controller' voltage
    apply ensures_ask_eq_bind
    intro answer controller'' second
    have asked : askedAgain evseVoltage world.controller = .ok answer controller'' := by
      simp only [askedAgain, bind, EStateM.bind, first, voltage, second]
    apply ensures_messageHeader_bind
    · exact fun _ _ => trivial
    intro header
    apply ensures_ask_eq_bind
    intro targetVoltage _ _
    exact ⟨header, .inr ⟨_, answer, rfl, rfl, rfl, ⟨controller'', asked⟩, rfl⟩⟩

/-! ## Runs -/

/-- In `DCPreCharge` the message of the state is the request that was sent last, which tells
what the controller answered when it was built. -/
def Told (start : EVCCSession ρ) (history : List (Option (Received V2GMessage Answers)))
    (session : EVCCSession ρ) : Prop :=
  ∀ builtOnce, session.world.currentState.own = .dcPreCharge builtOnce →
    builtOnce = false ∧ session.world.currentState.nextV2gtpMsg = none ∨
    ∃ received past before earlier answer header req, history = received :: past ∧
      ((machine ρ).rcvAll start past).world.currentState.own = .dcPreCharge before ∧
      TakesPreChargeRes ((machine ρ).rcvAll start past).world received earlier ∧
      AnswersWith (askedAgain earlier) ((machine ρ).rcvAll start past).world.controller answer ∧
      session.world.currentState.nextV2gtpMsg = some ⟨header, .dcPreChargeReq req⟩ ∧
      lastPreChargeReq session.sent = some req ∧
      req.evProcessing = if answer then .finished else .ongoing

/-- Only `DCPreCharge` stays in `DCPreCharge`. -/
theorem Row.stays_dcPreCharge {contract : Contract} {own : Own} {response : Response}
    {session : Session} {turn : Turn} {builtOnce : Bool}
    (row : Row contract own response session turn) (stays : turn.own = .dcPreCharge builtOnce)
    (idle : turn.nextState = none) :
    ∃ before evseVoltage, own = .dcPreCharge before ∧ response = .dcPreChargeRes evseVoltage := by
  cases row
  case preCharge before evseVoltage req => exact ⟨before, evseVoltage, rfl, rfl⟩
  case preCharged => cases idle
  all_goals cases stays

omit [EVController ρ] in
theorem Reacts.stays_dcPreCharge {contract : Contract} {message : V2GMessage}
    {before after : World ρ} {builtOnce : Bool} (reacts : Reacts contract message before after)
    (stays : after.currentState.own = .dcPreCharge builtOnce)
    (idle : after.currentState.nextState = none) :
    ∃ earlier res evseVoltage, message = .response res ∧
      before.currentState.own = .dcPreCharge earlier ∧
      res.response = .dcPreChargeRes evseVoltage ∧
      Accepts before.currentState.own res before.session := by
  cases reacts with
  | answers res turn response accepts row leads =>
      obtain ⟨earlier, evseVoltage, own, taken⟩ :=
        row.stays_dcPreCharge (leads.own.symm.trans stays) (leads.nextState.symm.trans idle)
      exact ⟨earlier, res, evseVoltage, response, own, taken, accepts⟩
  | refuses _ _ currentState =>
      rw [currentState] at idle
      cases idle
  | detectsWelding complete turn _ row leads =>
      have welding := leads.own.symm.trans stays
      cases row <;> cases welding

/-- A step to `DCPreCharge` comes from another state, or from an answered response. -/
theorem told_step {start session next : EVCCSession ρ}
    {history : List (Option (Received V2GMessage Answers))}
    {input : Option (Received V2GMessage Answers)}
    (past : Run (machine ρ).Step start history session)
    (idle : session.world.currentState.nextState = none)
    (step : (machine ρ).Step session input next) (goesOn : next.ended = false) :
    Told start (input :: history) next := by
  intro builtOnce own
  obtain ⟨received, after, rfl, processed, goes⟩ := Step.goesOnTo step goesOn
  obtain ⟨idle', same⟩ | ⟨name, _, same⟩ := goes.leads
  · right
    rw [same] at own
    obtain ⟨before, res, earlier, response, stays, taken, accepts⟩ :=
      (post_of_eq_ok (machine_reacts (keeps_any ρ) idle received) processed).stays_dcPreCharge
        own idle'
    rw [machine_dcPreCharge stays response accepts taken] at processed
    obtain ⟨header, ⟨_, _, leaves, _⟩ | ⟨req, answer, prepared, _, _, asked, processing⟩⟩ :=
      post_of_eq_ok (DCPreCharge.onDCPreChargeRes_asks _ _ _) processed
    · rw [leaves] at idle'
      cases idle'
    · obtain ⟨message, sends, sent⟩ := goes.sends
      cases prepared.symm.trans sends
      rw [SessionStateMachine.eq_rcvAll_of_run past] at stays accepts asked
      refine ⟨some received, history, before, earlier, answer, header, req, rfl, stays, ?_,
        asked, ?_, ?_, processing⟩
      · exact ⟨res, received.answers, by rw [← response], taken, accepts⟩
      · rw [same, prepared]
      · rw [sent]
        rfl
  · left
    rw [same] at own ⊢
    cases name <;> cases own
    exact ⟨rfl, rfl⟩

theorem told_of_run {start session : EVCCSession ρ}
    {history : List (Option (Received V2GMessage Answers))} (starts : Starts start)
    (run : Run (machine ρ).Step start history session) (goesOn : session.ended = false) :
    session.world.currentState.nextState = none ∧ Told start history session := by
  induction run with
  | start =>
      rw [Told, starts.currentState]
      exact ⟨rfl, nofun⟩
  | step past last ih =>
      obtain ⟨idle, _⟩ := ih last.1
      obtain ⟨_, _, _, _, goes⟩ := Step.goesOnTo last goesOn
      exact ⟨goes.idle, told_step past idle last goesOn⟩

/-- In every run with any controller, a step hands over only after the SECC has been told that
the pre-charge is over, unless the battery has become pre-charged between two responses. -/
theorem handsOver_of_run (ρ : Type) [EVController ρ] {start session next : EVCCSession ρ}
    {history : List (Option (Received V2GMessage Answers))}
    {input : Option (Received V2GMessage Answers)} (starts : Starts start)
    (run : Run (machine ρ).Step start history session)
    (step : (machine ρ).Step session input next)
    (steady : ¬PrechargesBetween start history input) : HandsOver session next := by
  intro builtOnce header req own sent
  obtain ⟨idle, told⟩ := told_of_run starts run step.1
  obtain same | ⟨received, after, message, rfl, processed, prepared, sent'⟩ := step.sent_eq_or
  · rw [same] at sent
    exact (List.ne_cons_self sent).elim
  obtain ⟨rfl, -⟩ := List.cons.inj (sent'.symm.trans sent)
  change after.currentState.nextV2gtpMsg = _ at prepared
  cases post_of_eq_ok (machine_reacts (keeps_any ρ) idle received) processed with
  | answers res turn response accepts row leads =>
      obtain ⟨evseVoltage, taken⟩ : ∃ evseVoltage, res.response = .dcPreChargeRes evseVoltage := by
        have expected := accepts.expected
        rw [own] at expected
        cases taken : res.response <;> rw [taken] at expected
        case dcPreChargeRes evseVoltage => exact ⟨evseVoltage, rfl⟩
        all_goals cases expected
      rw [machine_dcPreCharge own response accepts taken] at processed
      obtain ⟨header', ⟨_, _, _, rfl, precharged⟩ | ⟨_, _, asks, _⟩⟩ :=
        post_of_eq_ok (DCPreCharge.onDCPreChargeRes_asks _ _ _) processed
      · obtain ⟨first, _⟩ |
          ⟨earlierInput, past, before, earlier, answer, _, req', rfl, stays, takes,
          asked, _, last, processing⟩ := told _ own
        · cases first
        · rw [last]
          cases answer with
          | true => exact congrArg some processing
          | false =>
              have same := SessionStateMachine.eq_rcvAll_of_run run
              rw [same] at own accepts precharged
              exact absurd ⟨earlierInput, past, before, earlier, evseVoltage, rfl, stays, takes,
                asked, own, ⟨res, received.answers, by rw [← response], taken, accepts⟩,
                precharged⟩ steady
      · rw [asks] at prepared
        cases prepared
  | refuses _ _ currentState =>
      rw [currentState] at prepared
      obtain ⟨_, none⟩ | ⟨_, _, _, _, _, _, _, _, _, _, _, kept, _⟩ := told _ own
      · cases none.symm.trans prepared
      · cases kept.symm.trans prepared
  | detectsWelding complete turn own' => cases own.symm.trans own'

namespace Sample

/-- The voltage of a battery that is charged to a fifth. -/
def batteryVoltage : RationalNumber := ⟨0, 340, int8_zero, by decide⟩

/-- The EVSE reaches the voltage of the battery only after the SECC has been told that the
pre-charge goes on. -/
def preChargeHistory : List (Option (Received V2GMessage Answers)) :=
  response (.dcPreChargeRes zeroRational) :: cableCheckHistory

/-- The EVSE has the voltage of the battery from the first response. -/
def prechargedHistory : List (Option (Received V2GMessage Answers)) :=
  response (.dcPreChargeRes batteryVoltage) :: cableCheckHistory

def isPowerDeliveryReq (message : RequestMessage) : Bool :=
  match message.request with
  | .powerDeliveryReq _ => true
  | _ => false

end Sample

open Sample in
/-- With two responses at the voltage of the battery, a `PowerDeliveryReq` comes after a
`DCPreChargeReq` by which the pre-charge is over. -/
theorem sample_handsOver : ∃ session next,
    Run (machine RealBatterySimulator).Step (start (battery .dc)) prechargedHistory session ∧
    (machine RealBatterySimulator).Step session (response (.dcPreChargeRes batteryVoltage)) next ∧
    HandsOver session next ∧ next.sent.head?.map isPowerDeliveryReq = some true := by
  have goesOn : (machine RealBatterySimulator).GoesOn (start (battery .dc))
      (response (.dcPreChargeRes batteryVoltage) :: prechargedHistory) := by decide +kernel
  have run := SessionStateMachine.run_of_goesOn goesOn.1
  have step := SessionStateMachine.step_rcvAll goesOn.2
    (response (.dcPreChargeRes batteryVoltage))
  refine ⟨_, _, run, step, handsOver_of_run _ (starts_start _) run step ?_, by decide +kernel⟩
  rintro ⟨_, _, _, _, _, same, _, ⟨_, _, taken, voltage, _⟩, asked, _⟩
  cases same
  cases taken
  cases voltage
  exact absurd asked (by decide +kernel)

open Sample in
/-- The battery becomes pre-charged between two responses, and the hand-over is not told. -/
theorem precharged_between_responses : ∃ session next,
    Run (machine RealBatterySimulator).Step (start (battery .dc)) preChargeHistory session ∧
    (machine RealBatterySimulator).Step session (response (.dcPreChargeRes batteryVoltage)) next ∧
    ¬HandsOver session next := by
  have goesOn : (machine RealBatterySimulator).GoesOn (start (battery .dc))
      (response (.dcPreChargeRes batteryVoltage) :: preChargeHistory) := by decide +kernel
  have step := SessionStateMachine.step_rcvAll goesOn.2
    (response (.dcPreChargeRes batteryVoltage))
  refine ⟨_, _, SessionStateMachine.run_of_goesOn goesOn.1, step, fun handsOver => ?_⟩
  obtain same | ⟨_, _, ⟨header, request⟩, _, _, _, sent⟩ := step.sent_eq_or
  · exact absurd (congrArg List.length same) (by decide +kernel)
  · have sends : ((machine RealBatterySimulator).rcvAll (start (battery .dc))
        (response (.dcPreChargeRes batteryVoltage) :: preChargeHistory)).sent.head?.map
          isPowerDeliveryReq = some true := by decide +kernel
    rw [sent] at sends
    cases request with
    | powerDeliveryReq req =>
        exact absurd (handsOver true header req (by decide +kernel) sent) (by decide +kernel)
    | _ => cases sends

end Iso15118.Evcc.V20
