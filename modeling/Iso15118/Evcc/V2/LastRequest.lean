import Iso15118.Evcc.V2.StopSequence

/-!
# The last request of the EVCC in ISO 15118-2

The request a state waits for the response to, and what the variables say of it.
-/

namespace Iso15118.Evcc.V2

open Effect Transition
open Iso15118.Shared
open Iso15118.Shared.V2

/-- The type of request the response to which a state is there for. -/
def waitsFor : StateName → RequestType
  | .sessionSetup => .sessionSetupReq
  | .serviceDiscovery => .serviceDiscoveryReq
  | .serviceDetail => .serviceDetailReq
  | .paymentServiceSelection => .paymentServiceSelectionReq
  | .certificateInstallation => .certificateInstallationReq
  | .paymentDetails => .paymentDetailsReq
  | .authorization => .authorizationReq
  | .chargeParameterDiscovery => .chargeParameterDiscoveryReq
  | .powerDelivery => .powerDeliveryReq
  | .meteringReceipt => .meteringReceiptReq
  | .sessionStop => .sessionStopReq
  | .chargingStatus => .chargingStatusReq
  | .cableCheck => .cableCheckReq
  | .preCharge => .preChargeReq
  | .currentDemand => .currentDemandReq
  | .weldingDetection => .weldingDetectionReq

/-- The state that waits after a turn. -/
def Turn.Waits (turn : Turn) (own waiting : StateName) : Prop :=
  turn.nextState = none ∧ waiting = own ∨ turn.nextState = some (.state waiting)

/-- What the variables of a waiting state say of the request that it has sent. -/
structure Remembers (own : StateName) (request : Request) (session : Session) : Prop where
  renegotiates : session.renegotiationRequested = true →
    ∃ req, request = .powerDeliveryReq req ∧ req.chargeProgress = .renegotiate
  stops : own = .powerDelivery → session.chargingSessionStopV2.isSome = true →
    ∃ req, request = .powerDeliveryReq req ∧ req.chargeProgress = .stop

section

variable {answers : Answers} {schedules : Schedules} {own waiting : StateName}
  {response : Response} {session : Session} {turn : Turn} {previous request : Request}

theorem Charges.request_type (charges : Charges session turn)
    (requests : turn.request = some request) (waits : turn.Waits own waiting) :
    request.requestType = waitsFor waiting := by
  cases charges with
  | ac | dc =>
      obtain ⟨stays, _⟩ | leads := waits
      · cases stays
      · cases leads
        cases requests
        rfl

theorem ServicesRequested.request_type (services : ServicesRequested session turn)
    (requests : turn.request = some request) (waits : turn.Waits own waiting) :
    request.requestType = waitsFor waiting := by
  cases services with
  | select | detail =>
      obtain ⟨stays, _⟩ | leads := waits
      · cases stays
      · cases leads
        cases requests
        rfl

theorem Row.request_type (row : Row answers schedules own response session turn)
    (requests : turn.request = some request) (waits : turn.Waits own waiting) :
    request.requestType = waitsFor waiting := by
  cases row
  case serviceDiscovery inner => exact inner.request_type requests waits
  case serviceDetail inner => exact inner.request_type requests waits
  case charge inner => exact inner.request_type requests waits
  case receiptCharge inner => exact inner.request_type requests waits
  case detectOn =>
    obtain ⟨_, rfl⟩ | leads := waits
    · cases requests
      rfl
    · cases leads
  all_goals
    obtain ⟨stays, _⟩ | leads := waits
    · cases stays
    · first
      | cases leads; cases requests; rfl
      | cases leads

/-- `PowerDelivery` asks for the charge parameters when a renegotiation has been requested. -/
def Clears (own : StateName) (session turned : Session) : Prop :=
  own = .powerDelivery → session.chargingSessionStopV2 = none →
    turned.renegotiationRequested = false

/-- A renegotiation is requested with the request for it. -/
theorem Row.renegotiation (row : Row answers schedules own response session turn)
    (elsewhere : own ≠ .powerDelivery) :
    turn.session.renegotiationRequested = session.renegotiationRequested ∨
      ∃ req, turn.request = some (.powerDeliveryReq req) ∧ req.chargeProgress = .renegotiate := by
  cases row
  case noEnergyMode discovers =>
    obtain ⟨_, _, _, _, rfl⟩ := discovers.assigns
    exact .inl rfl
  case serviceDiscovery offered discovers inner =>
    obtain ⟨_, _, _, _, rfl⟩ := discovers.assigns
    cases inner <;> exact .inl rfl
  case serviceDetail inner => cases inner <;> exact .inl rfl
  case repeatAuthorization elapses => cases elapses <;> exact .inl rfl
  case repeatChargeParameters elapses => cases elapses <;> exact .inl rfl
  case repeatCableCheck elapses => cases elapses <;> exact .inl rfl
  case repeatPreCharge elapses => cases elapses <;> exact .inl rfl
  case receiptCharge inner => cases inner <;> exact .inl rfl
  case receiptRenegotiate req renegotiates => exact .inr ⟨req, rfl, renegotiates⟩
  case acRenegotiate req renegotiates => exact .inr ⟨req, rfl, renegotiates⟩
  case stopSession | detectWelding | rediscover | charge => exact absurd rfl elsewhere
  all_goals exact .inl rfl

/-- On the way to `PowerDelivery` the variable is set with the request for a stop. -/
theorem Row.stopping (row : Row answers schedules own response session turn)
    (leads : turn.nextState = some (.state .powerDelivery)) :
    ¬MayStop own ∧ turn.session.chargingSessionStopV2 = session.chargingSessionStopV2 ∨
      ∃ req, turn.request = some (.powerDeliveryReq req) ∧ req.chargeProgress = .stop := by
  cases row
  case serviceDiscovery inner => cases inner <;> cases leads
  case serviceDetail inner => cases inner <;> cases leads
  case charge inner => cases inner <;> cases leads
  case receiptCharge inner => cases inner <;> cases leads
  case acStop req stops => exact .inr ⟨req, rfl, stops⟩
  case dcStop req stops => exact .inr ⟨req, rfl, stops⟩
  all_goals first
    | cases leads; done
    | exact .inl ⟨not_false, rfl⟩

/-- `PowerDelivery` leaves the variables as they are when the session is to stop. -/
theorem Row.told (row : Row answers schedules .powerDelivery response session turn)
    (told : session.chargingSessionStopV2 ≠ none) : turn.session = session := by
  cases row with
  | stopSession | detectWelding => rfl
  | rediscover _ _ _ _ goesOn | charge _ _ _ _ goesOn => exact absurd goesOn told

theorem Row.remembers (row : Row answers schedules own response session turn)
    (remembers : Remembers own previous session)
    (asked : previous.requestType = waitsFor own)
    (charging : ¬MayStop own → session.chargingSessionStopV2 = none)
    (clears : Clears own session turn.session) (requests : turn.request = some request)
    (waits : turn.Waits own waiting) : Remembers waiting request turn.session := by
  constructor
  · intro requested
    by_cases delivers : own = .powerDelivery
    · subst delivers
      have told : session.chargingSessionStopV2 ≠ none :=
        fun untold => absurd requested (Bool.eq_false_iff.mp (clears rfl untold))
      obtain ⟨req, rfl, renegotiates⟩ := remembers.renegotiates (row.told told ▸ requested)
      obtain ⟨_, same, stops⟩ := remembers.stops rfl (Option.isSome_iff_ne_none.mpr told)
      cases same
      cases renegotiates.symm.trans stops
    · obtain same | ⟨req, sends, renegotiates⟩ := row.renegotiation delivers
      · obtain ⟨req, rfl, _⟩ := remembers.renegotiates (same.symm.trans requested)
        cases own <;> first | exact absurd rfl delivers | cases asked
      · cases sends.symm.trans requests
        exact ⟨req, rfl, renegotiates⟩
  · rintro rfl stops
    obtain ⟨stays, rfl⟩ | leads := waits
    · cases row.stays stays
    · obtain ⟨mayNotStop, same⟩ | ⟨req, sends, stops⟩ := row.stopping leads
      · rw [same, charging mayNotStop] at stops
        cases stops
      · cases sends.symm.trans requests
        exact ⟨req, rfl, stops⟩

end

/-! ## Steps of the receive loop -/

section

variable {ρ : Type} [EVController ρ]

omit [EVController ρ] in
theorem clears_createNextMessage {before world : World ρ} {name : StateName} {request : Request}
    {timeout : ℚ} (clear : world.session.renegotiationRequested = false) :
    Establishes (createNextMessage (some (.state name)) request timeout)
      (fun _ after => Clears .powerDelivery before.session after.session) world :=
  establishes_createNextMessage fun _ _ _ => clear

/-- A renegotiation is not requested any more once charging goes on. -/
theorem PowerDelivery.onPowerDeliveryRes_clears (world : World ρ) :
    Establishes onPowerDeliveryRes
      (fun _ after => Clears .powerDelivery world.session after.session) world := by
  unfold onPowerDeliveryRes
  apply ensures_get_bind
  split
  next stops =>
    apply wp_of_forall
    · intro _ _ _ untold
      rw [untold] at stops
      cases stops
    · exact fun _ _ => trivial
  next =>
    split
    next requested =>
      apply ensures_updateSession_bind
      apply establishes_ask_bind
      intro params _
      apply ensures_ofExcept_bind fun _ _ => trivial
      intro req _
      exact clears_createNextMessage rfl
    next clear =>
      rw [Bool.not_eq_true] at clear
      split
      · exact clears_createNextMessage clear
      · unfold requestCurrentDemand buildCurrentDemandReq
        simp only [bind_assoc, pure_bind]
        iterate 6
          apply establishes_ask_bind
          intro _ _
        exact clears_createNextMessage clear

/-- What an iteration in `PowerDelivery` does with an accepted response. -/
theorem machine_powerDelivery {world : World ρ} {res : ResponseMessage}
    {received : Received V2GMessage Answers} (own : world.currentState.own = .powerDelivery)
    (response : received.message = .response res)
    (accepts : Accepts world.currentState.own res world.session) :
    (machine ρ).processMessage received world =
      PowerDelivery.onPowerDeliveryRes { world with calls := [] } := by
  have expected := accepts.expected
  rw [own] at expected
  change processMessage received.answers received.message { world with calls := [] } = _
  unfold processMessage
  rw [get_bind_apply, response, own]
  dsimp only
  unfold PowerDelivery.processMessage checkMsg
  dsimp only
  rw [bind_checkMsg rfl]
  cases taken : res.response <;> rw [taken] at expected
  case powerDeliveryRes => exact if_pos ⟨accepts.good, accepts.known⟩
  all_goals cases expected

theorem clears_of_processed {world after : World ρ} {res : ResponseMessage}
    {received : Received V2GMessage Answers} (response : received.message = .response res)
    (accepts : Accepts world.currentState.own res world.session)
    (processed : (machine ρ).processMessage received world = .ok ⟨⟩ after) :
    Clears world.currentState.own world.session after.session := by
  intro delivers
  rw [machine_powerDelivery delivers response accepts] at processed
  have clears := post_of_eq_ok
    (PowerDelivery.onPowerDeliveryRes_clears { world with calls := [] }) processed
  exact clears rfl

/-- The session waits for the response to its last request. -/
structure Asking (resumes : Option EnergyTransferMode) (session : EVCCSession ρ)
    (message : RequestMessage) : Prop where
  sent : ∃ older, session.sent = message :: older
  kept : Kept resumes session
  type : message.request.requestType = waitsFor session.world.currentState.own
  remembers : Remembers session.world.currentState.own message.request session.world.session

variable {session next : EVCCSession ρ} {previous message : RequestMessage}

omit [EVController ρ] in
theorem Starts.asking (starts : Starts session) (sent : session.sent = [message])
    (setup : message.request.requestType = .sessionSetupReq) :
    Asking session.world.session.resumeRequestedEnergyMode session message := by
  obtain ⟨isTls, sessionId, authOption, energyMode, fresh⟩ := starts.fresh
  constructor
  · exact ⟨_, sent⟩
  · exact starts.kept
  · rw [starts.currentState]
    exact setup
  · rw [starts.currentState, fresh]
    exact ⟨nofun, nofun⟩

omit [EVController ρ] in
/-- The state that waits is the one that the turn has led to. -/
theorem GoesOnTo.waits {after : World ρ} {turn : Turn} (goesOn : GoesOnTo session after next)
    (leads : turn.Leads session.world after) :
    turn.Waits session.world.currentState.own next.world.currentState.own := by
  unfold Turn.Waits
  rw [← leads.nextState, ← leads.own]
  obtain ⟨stays, same⟩ | ⟨name, goes, same⟩ := goesOn.leads
  · exact .inl ⟨stays, by rw [same]⟩
  · exact .inr (by rw [goes, same])

omit [EVController ρ] in
/-- A message that is refused ends the session. -/
theorem GoesOnTo.accepts {answers : Answers} {schedules : Schedules} {message : V2GMessage}
    {after : World ρ} {res : ResponseMessage} (goesOn : GoesOnTo session after next)
    (reacts : Reacts answers schedules message session.world after)
    (response : message = .response res) :
    Accepts session.world.currentState.own res session.world.session := by
  cases reacts with
  | answers res' turn response' accepts row leads =>
      cases response.symm.trans response'
      exact accepts
  | refuses _ _ currentState =>
      obtain ⟨stays, _⟩ | ⟨name, leads, _⟩ := goesOn.leads
      · rw [currentState] at stays
        cases stays
      · rw [currentState] at leads
        cases leads

/-- A step that goes on sends a new request, and waits for the response to it. -/
theorem Asking.step {resumes : Option EnergyTransferMode}
    {input : Option (Received V2GMessage Answers)} (asking : Asking resumes session previous)
    (step : (machine ρ).Step session input next) (goesOn : next.ended = false) :
    ∃ received res turn message, input = some received ∧ received.message = .response res ∧
      Accepts session.world.currentState.own res session.world.session ∧
      Row received.answers (schedulesOf session.world.controller) session.world.currentState.own
        res.response session.world.session turn ∧
      turn.request = some message.request ∧ next.sent = message :: session.sent ∧
      Asking resumes next message := by
  obtain ⟨received, after, _, message, input, processed, prepared, updated, sent, leads⟩ :=
    step.continues goesOn
  cases updated
  have goes : GoesOnTo session after next := ⟨⟨message, prepared, sent⟩, leads⟩
  have reacts := post_of_eq_ok (machine_reacts received) processed
  obtain ⟨res, turn, header, request, response, row, leads, requests, sent⟩ := goes.row reacts
  have accepts := goes.accepts reacts response
  have kept := asking.kept.step reacts goes
  have waits := goes.waits leads
  have clears := clears_of_processed response accepts processed
  rw [leads.session] at clears
  refine ⟨received, res, turn, ⟨header, request⟩, input, response, accepts, row, requests, sent,
    ⟨_, sent⟩, kept, row.request_type requests waits, ?_⟩
  rw [goes.session, leads.session]
  exact row.remembers asking.remembers asking.type asking.kept.charging clears requests waits

end

end Iso15118.Evcc.V2
