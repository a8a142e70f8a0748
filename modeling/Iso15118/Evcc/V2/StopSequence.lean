import Iso15118.Evcc.V2.Loop

/-!
# What follows a stop

After `PowerDeliveryReq` with `Stop`, `PowerDelivery` decides from a variable of the session what
comes next. The charge loops set it when they stop; a stop for another reason leaves it as it is,
and charging goes on.
-/

namespace Iso15118.Evcc.V2

open Effect Transition
open Iso15118.Shared
open Iso15118.Shared.V2

variable {ρ : Type} [EVController ρ]

/-! ## Stops -/

/-- The request that was sent last asks for a stop. -/
def StopSent (session : EVCCSession ρ) : Prop :=
  ∃ message rest req, session.sent = message :: rest ∧ message.request = .powerDeliveryReq req ∧
    req.chargeProgress = .stop

/-- The stop is none of a charge loop: the SECC asks for it in a `MeteringReceiptRes`, or the
controller when it looks at the schedules. -/
inductive StopsElsewhere (world : World ρ) : V2GMessage → Prop
  | receipt (header : MessageHeader) (responseCode : ResponseCode)
      (acEvseStatus : Option ACEVSEStatus) (dcEvseStatus : Option DCEVSEStatus)
      (own : world.currentState.own = .meteringReceipt)
      (notified : (acEvseStatus.map ACEVSEStatus.evseNotification).or
        (dcEvseStatus.map DCEVSEStatus.evseNotification) = some .stopCharging) :
      StopsElsewhere world
        (.response ⟨header, responseCode, .meteringReceiptRes acEvseStatus dcEvseStatus⟩)
  | schedule (header : MessageHeader) (responseCode : ResponseCode)
      (res : ChargeParameterDiscoveryRes) (tuples : List SAScheduleTuple)
      (own : world.currentState.own = .chargeParameterDiscovery)
      (offered : res.saScheduleList = some tuples)
      (answered : schedulesOf world.controller tuples .stop) :
      StopsElsewhere world (.response ⟨header, responseCode, .chargeParameterDiscoveryRes res⟩)

/-- The request that ends charging in the energy mode. -/
def EndsCharging (session : Session) (request : Request) : Prop :=
  ∃ mode, session.selectedEnergyMode = some mode ∧
    if mode.isAc then ∃ chargingSession, request = .sessionStopReq ⟨chargingSession⟩
    else request = .weldingDetectionReq

/-! ## What a run keeps -/

/-- States in which a session may have been told to stop. -/
def MayStop : StateName → Prop
  | .powerDelivery | .weldingDetection | .sessionStop => True
  | _ => False

/-- The energy mode and what the session takes it for, with the mode of a paused session. -/
inductive ModeKnown (resumes : Option EnergyTransferMode) (own : StateName)
    (session : Session) : Prop
  | before (early : own = .sessionSetup ∨ own = .serviceDiscovery)
      (resuming : session.resumeRequestedEnergyMode = resumes)
      (ac : session.selectedChargingTypeIsAc = true)
  | chosen (mode : EnergyTransferMode) (late : own ≠ .sessionSetup ∧ own ≠ .serviceDiscovery)
      (selects : session.selectedEnergyMode = some mode) (new : resumes = none)
      (agrees : session.selectedChargingTypeIsAc = mode.isAc)
  | resumed (mode : EnergyTransferMode) (late : own ≠ .sessionSetup ∧ own ≠ .serviceDiscovery)
      (selects : session.selectedEnergyMode = some mode) (resuming : resumes = some mode)
      (ac : session.selectedChargingTypeIsAc = true)

/-- Between two messages. -/
structure Kept (resumes : Option EnergyTransferMode) (session : EVCCSession ρ) : Prop where
  fresh : session.world.currentState.own ≠ .weldingDetection →
    session.world.currentState.nextV2gtpMsg = none
  charging : ¬MayStop session.world.currentState.own →
    session.world.session.chargingSessionStopV2 = none
  mode : ModeKnown resumes session.world.currentState.own session.world.session

section

variable {answers : Answers} {schedules : Schedules} {own : StateName} {response : Response}
  {session : Session} {turn : Turn}

/-- A state in which the energy mode has been chosen does not change it. -/
theorem Row.sameMode (row : Row answers schedules own response session turn)
    (late : own ≠ .sessionSetup ∧ own ≠ .serviceDiscovery) :
    turn.session.selectedEnergyMode = session.selectedEnergyMode ∧
      turn.session.selectedChargingTypeIsAc = session.selectedChargingTypeIsAc ∧
      ∀ name, turn.nextState = some (.state name) →
        name ≠ .sessionSetup ∧ name ≠ .serviceDiscovery := by
  cases row
  case sessionSetup => exact absurd rfl late.1
  case noEnergyMode => exact absurd rfl late.2
  case serviceDiscovery => exact absurd rfl late.2
  case serviceDetail requests => cases requests <;> simp [Turn.to]
  case repeatAuthorization elapses => cases elapses <;> simp [Turn.to]
  case repeatChargeParameters elapses => cases elapses <;> simp [Turn.to]
  case repeatCableCheck elapses => cases elapses <;> simp [Turn.to]
  case repeatPreCharge elapses => cases elapses <;> simp [Turn.to]
  case charge charges => cases charges <;> simp [Turn.to]
  case receiptCharge charges => cases charges <;> simp [Turn.to]
  all_goals simp [Turn.to, Turn.stop, Session.stopped]

/-- The variable is set on the way to `PowerDelivery` only. -/
theorem Row.sameStop (row : Row answers schedules own response session turn) :
    turn.session.chargingSessionStopV2 = session.chargingSessionStopV2 ∨
      turn.nextState = some (.state .powerDelivery) := by
  cases row
  case noEnergyMode discovers =>
    obtain ⟨_, _, _, _, rfl⟩ := discovers.assigns
    exact .inl rfl
  case serviceDiscovery offered discovers requests =>
    obtain ⟨_, _, _, _, rfl⟩ := discovers.assigns
    cases requests <;> exact .inl rfl
  case serviceDetail requests => cases requests <;> exact .inl rfl
  case repeatAuthorization elapses => cases elapses <;> exact .inl rfl
  case repeatChargeParameters elapses => cases elapses <;> exact .inl rfl
  case repeatCableCheck elapses => cases elapses <;> exact .inl rfl
  case repeatPreCharge elapses => cases elapses <;> exact .inl rfl
  case charge charges => cases charges <;> exact .inl rfl
  case receiptCharge charges => cases charges <;> exact .inl rfl
  case acStop => exact .inr rfl
  case dcStop => exact .inr rfl
  all_goals exact .inl rfl

/-- A state that has been told to stop goes on to one that has. -/
theorem Row.mayStop (row : Row answers schedules own response session turn)
    (stops : MayStop own) (told : session.chargingSessionStopV2.isSome = true)
    {name : StateName} (leads : turn.nextState = some (.state name)) : MayStop name := by
  cases row
  case rediscover goesOn _ => simp [goesOn] at told
  case charge goesOn _ => simp [goesOn] at told
  case stopSession => cases leads; trivial
  case detectWelding => cases leads; trivial
  case weldingDetected => cases leads; trivial
  case terminate => cases leads
  case weldingTimeout => cases leads
  case detectOn => cases leads
  all_goals exact stops.elim

/-- Only the detection of welding waits for another response in the same object. -/
theorem Row.stays (row : Row answers schedules own response session turn)
    (stays : turn.nextState = none) : own = .weldingDetection := by
  cases row
  case serviceDiscovery requests => cases requests <;> cases stays
  case serviceDetail requests => cases requests <;> cases stays
  case charge charges => cases charges <;> cases stays
  case receiptCharge charges => cases charges <;> cases stays
  case detectOn => rfl
  all_goals cases stays

/-- Without a request, the session ends. -/
theorem Row.terminates (row : Row answers schedules own response session turn)
    (silent : turn.request = none) : turn.nextState = some .terminate := by
  cases row
  case serviceDiscovery requests => cases requests <;> cases silent
  case serviceDetail requests => cases requests <;> cases silent
  case charge charges => cases charges <;> cases silent
  case receiptCharge charges => cases charges <;> cases silent
  all_goals first | rfl | cases silent

/-- What the energy mode is and is taken for stays as it has been chosen. -/
theorem Row.modeKnown {resumes : Option EnergyTransferMode}
    (row : Row answers schedules own response session turn) (known : ModeKnown resumes own session)
    {name : StateName} (leads : turn.nextState = some (.state name)) :
    ModeKnown resumes name turn.session := by
  cases known with
  | chosen mode late selects new agrees =>
      obtain ⟨sameMode, sameAc, later⟩ := row.sameMode late
      exact .chosen mode (later name leads) (sameMode.trans selects) new (sameAc.trans agrees)
  | resumed mode late selects resuming ac =>
      obtain ⟨sameMode, sameAc, later⟩ := row.sameMode late
      exact .resumed mode (later name leads) (sameMode.trans selects) resuming (sameAc.trans ac)
  | before early resuming ac =>
      obtain rfl | rfl := early
      · cases row with
        | sessionSetup evseId sessionId session =>
            cases leads
            exact .before (.inr rfl) resuming ac
      · cases row with
        | noEnergyMode res session discovered mode discovers missing => cases leads
        | serviceDiscovery res session discovered mode turn discovers offered requests =>
            have chosen : discovered.selectedEnergyMode = some mode := by
              obtain ⟨_, _, _, _, rfl⟩ := discovers.assigns
              rfl
            have follows : turn.session.selectedEnergyMode = discovered.selectedEnergyMode ∧
                turn.session.selectedChargingTypeIsAc = discovered.selectedChargingTypeIsAc ∧
                name ≠ .sessionSetup ∧ name ≠ .serviceDiscovery := by
              cases requests <;> cases leads <;> exact ⟨rfl, rfl, nofun, nofun⟩
            obtain ⟨sameMode, sameAc, late⟩ := follows
            obtain ⟨resumed, same⟩ | ⟨new, same⟩ := discovers.selects
            · exact .resumed mode late (sameMode.trans chosen) (resuming.symm.trans resumed)
                (sameAc.trans (same.trans ac))
            · exact .chosen mode late (sameMode.trans chosen) (resuming.symm.trans new)
                (sameAc.trans same)

/-- Where a stop is sent: in a charge loop, which sets the variable, or elsewhere. -/
theorem Row.sendsStop (row : Row answers schedules own response session turn)
    (charging : ¬MayStop own → session.chargingSessionStopV2 = none) {req : PowerDeliveryReq}
    (requests : turn.request = some (.powerDeliveryReq req)) (stops : req.chargeProgress = .stop) :
    turn.nextState = some (.state .powerDelivery) ∧
      (turn.session.chargingSessionStopV2.isSome = true ∧
          (own = .chargingStatus ∨ own = .currentDemand) ∨
        turn.session.chargingSessionStopV2 = none ∧
          (own = .meteringReceipt ∧ (∃ acEvseStatus dcEvseStatus,
              response = .meteringReceiptRes acEvseStatus dcEvseStatus ∧
              (acEvseStatus.map ACEVSEStatus.evseNotification).or
                (dcEvseStatus.map DCEVSEStatus.evseNotification) = some .stopCharging) ∨
            own = .chargeParameterDiscovery ∧ ∃ res tuples,
              response = .chargeParameterDiscoveryRes res ∧ res.saScheduleList = some tuples ∧
              schedules tuples .stop)) := by
  cases row
  case serviceDiscovery inner => cases inner <;> cases requests
  case serviceDetail inner => cases inner <;> cases requests
  case charge inner => cases inner <;> cases requests
  case receiptCharge inner => cases inner <;> cases requests
  case acSchedule res tuples req' scheduleId finished offered answered ac =>
    cases requests
    rw [stops] at answered
    exact ⟨rfl, .inr ⟨charging not_false, .inr ⟨rfl, res, tuples, rfl, offered, answered⟩⟩⟩
  case receiptStop acEvseStatus dcEvseStatus req' notified stops' =>
    exact ⟨rfl, .inr ⟨charging not_false,
      .inl ⟨rfl, acEvseStatus, dcEvseStatus, rfl, notified⟩⟩⟩
  case receiptRenegotiate renegotiates =>
    cases requests
    cases stops.symm.trans renegotiates
  case acRenegotiate renegotiates =>
    cases requests
    cases stops.symm.trans renegotiates
  case preCharged starts =>
    cases requests
    cases stops.symm.trans starts
  case acStop => exact ⟨rfl, .inl ⟨rfl, .inl rfl⟩⟩
  case dcStop => exact ⟨rfl, .inl ⟨rfl, .inr rfl⟩⟩
  all_goals cases requests

end

/-! ## Runs -/

variable {resumes : Option EnergyTransferMode} {session next : EVCCSession ρ}

omit [EVController ρ] in
theorem Kept.step {answers : Answers} {schedules : Schedules} {message : V2GMessage}
    {after : World ρ} (kept : Kept resumes session)
    (reacts : Reacts answers schedules message session.world after)
    (goesOn : GoesOnTo session after next) : Kept resumes next := by
  cases reacts with
  | refuses refused stopped currentState =>
      obtain ⟨stays, _⟩ | ⟨name, leads, _⟩ := goesOn.leads
      · rw [currentState] at stays
        cases stays
      · rw [currentState] at leads
        cases leads
  | answers res turn response accepts row leads =>
      have sessionSame : next.world.session = turn.session := by
        rw [goesOn.session, leads.session]
      obtain ⟨stays, same⟩ | ⟨name, goes, same⟩ := goesOn.leads
      · rw [leads.nextState] at stays
        have welding := row.stays stays
        have own : next.world.currentState.own = .weldingDetection := by
          rw [same, leads.own, welding]
        constructor
        · exact fun other => absurd own other
        · intro other
          rw [own] at other
          exact absurd trivial other
        · have known := kept.mode
          rw [welding] at known row
          rw [own, sessionSame]
          cases known with
          | before early resuming ac => obtain early | early := early <;> cases early
          | chosen mode late selects new agrees =>
              obtain ⟨sameMode, sameAc, -⟩ := row.sameMode late
              exact .chosen mode late (sameMode.trans selects) new (sameAc.trans agrees)
          | resumed mode late selects resuming ac =>
              obtain ⟨sameMode, sameAc, -⟩ := row.sameMode late
              exact .resumed mode late (sameMode.trans selects) resuming (sameAc.trans ac)
      · rw [leads.nextState] at goes
        constructor
        · intro _
          rw [same]
        · intro other
          rw [same] at other
          rw [sessionSame]
          obtain unchanged | told := row.sameStop
          · by_cases stops : MayStop session.world.currentState.own
            · rw [unchanged]
              by_contra set
              exact other (row.mayStop stops (Option.isSome_iff_ne_none.mpr set) goes)
            · rw [unchanged]
              exact kept.charging stops
          · rw [goes] at told
            cases told
            exact absurd trivial other
        · rw [sessionSame, same]
          exact row.modeKnown kept.mode goes

omit [EVController ρ] in
theorem Starts.kept (starts : Starts session) :
    Kept session.world.session.resumeRequestedEnergyMode session := by
  obtain ⟨isTls, sessionId, authOption, energyMode, fresh⟩ := starts.fresh
  constructor
  · intro _
    rw [starts.currentState]
  · intro _
    rw [fresh]
  · rw [starts.currentState, fresh]
    exact .before (.inl rfl) rfl rfl

theorem kept_of_run {start : EVCCSession ρ}
    {history : List (Option (Received V2GMessage Answers))} (starts : Starts start)
    (run : Run (machine ρ).Step start history session) (goesOn : session.ended = false) :
    Kept start.world.session.resumeRequestedEnergyMode session := by
  induction run with
  | start => exact starts.kept
  | step past last ih =>
      obtain ⟨received, after, _, reacts, leads⟩ := Step.reacts last goesOn
      exact (ih last.1).step reacts leads

omit [EVController ρ] in
/-- A step after which the loop goes on has sent the request of a row. -/
theorem GoesOnTo.row {answers : Answers} {schedules : Schedules} {message : V2GMessage}
    {after : World ρ} (reacts : Reacts answers schedules message session.world after)
    (goesOn : GoesOnTo session after next) :
    ∃ res turn header request, message = .response res ∧
      Row answers schedules session.world.currentState.own res.response session.world.session
        turn ∧
      turn.Leads session.world after ∧ turn.request = some request ∧
      next.sent = ⟨header, request⟩ :: session.sent := by
  have ends : after.currentState.nextState ≠ some .terminate := by
    intro terminates
    obtain ⟨stays, _⟩ | ⟨name, goes, _⟩ := goesOn.leads
    · cases terminates.symm.trans stays
    · cases terminates.symm.trans goes
  cases reacts with
  | refuses refused stopped currentState =>
      rw [currentState] at ends
      exact absurd rfl ends
  | answers res turn response accepts row leads =>
      cases asked : turn.request with
      | none =>
          rw [leads.nextState] at ends
          exact absurd (row.terminates asked) ends
      | some request =>
          obtain ⟨header, prepared⟩ := leads.prepares request asked
          obtain ⟨message, prepared', sent⟩ := goesOn.sends
          cases prepared.symm.trans prepared'
          exact ⟨res, turn, header, request, response, row, leads, asked, sent⟩

/-- The stop has been sent in a charge loop, or elsewhere. -/
theorem stop_cases {received : Received V2GMessage Answers}
    (kept : Kept resumes session) (step : (machine ρ).Step session (some received) next)
    (goesOn : next.ended = false) (stop : StopSent next) :
    next.world.currentState = { own := .powerDelivery } ∧
      (next.world.session.chargingSessionStopV2.isSome = true ∧
          ¬StopsElsewhere session.world received.message ∨
        next.world.session.chargingSessionStopV2 = none ∧
          StopsElsewhere session.world received.message) := by
  obtain ⟨_, after, input, reacts, goes⟩ := Step.reacts step goesOn
  cases input
  obtain ⟨⟨header, responseCode, response⟩, turn, header', request, message, row, leads, asked,
    sent⟩ := goes.row reacts
  obtain ⟨message', rest, req, sent', requests, stops⟩ := stop
  cases sent.symm.trans sent'
  cases requests
  obtain ⟨leadsTo, outcome⟩ := row.sendsStop kept.charging asked stops
  have sessionSame : next.world.session = turn.session := by rw [goes.session, leads.session]
  constructor
  · obtain ⟨stays, _⟩ | ⟨name, goesTo, same⟩ := goes.leads
    · rw [leads.nextState, leadsTo] at stays
      cases stays
    · rw [leads.nextState, leadsTo] at goesTo
      cases goesTo
      rw [same]
  · rw [sessionSame, message]
    obtain ⟨told, loop⟩ | ⟨untold, elsewhere⟩ := outcome
    · refine .inl ⟨told, ?_⟩
      rintro (⟨_, _, _, _, own, _⟩ | ⟨_, _, _, _, own, _, _⟩)
      · rw [own] at loop
        simp at loop
      · rw [own] at loop
        simp at loop
    · refine .inr ⟨untold, ?_⟩
      obtain ⟨own, _, _, rfl, notified⟩ | ⟨own, _, _, rfl, offered, answered⟩ := elsewhere
      · exact .receipt header responseCode _ _ own notified
      · exact .schedule header responseCode _ _ own offered answered

/-- What `PowerDelivery` sends next. -/
theorem Row.afterDelivery {answers : Answers} {schedules : Schedules} {response : Response}
    {session : Session} {turn : Turn}
    (row : Row answers schedules .powerDelivery response session turn)
    {request : Request} (requests : turn.request = some request) :
    if session.chargingSessionStopV2.isSome then
      if session.selectedChargingTypeIsAc then
        ∃ chargingSession, request = .sessionStopReq ⟨chargingSession⟩
      else request = .weldingDetectionReq
    else (∀ chargingSession, request ≠ .sessionStopReq ⟨chargingSession⟩) ∧
      request ≠ .weldingDetectionReq := by
  cases row with
  | stopSession acEvseStatus dcEvseStatus session chargingSession stops ac =>
      cases requests
      simp [stops, ac]
  | detectWelding acEvseStatus dcEvseStatus session stops dc =>
      cases requests
      simp [stops, dc]
  | rediscover acEvseStatus dcEvseStatus session req goesOn requested =>
      cases requests
      simp [goesOn]
  | charge acEvseStatus dcEvseStatus session turn goesOn charges =>
      cases charges <;> cases requests <;> simp [goesOn]

/-- What a state sends in which no message has been prepared before is the request of a row. -/
theorem sends_of_fresh {input : Option (Received V2GMessage Answers)} {message : RequestMessage}
    (fresh : session.world.currentState.nextV2gtpMsg = none)
    (step : (machine ρ).Step session input next) (sends : next.sent = message :: session.sent) :
    ∃ received res turn, input = some received ∧ received.message = .response res ∧
      Row received.answers (schedulesOf session.world.controller)
        session.world.currentState.own res.response session.world.session turn ∧
      turn.request = some message.request := by
  obtain same | ⟨received, after, message', taken, processed, prepared, sent⟩ := step.sent_eq_or
  · have longer := congrArg List.length (sends.symm.trans same)
    simp at longer
  · cases sends.symm.trans sent
    have reacts := post_of_eq_ok (machine_reacts received) processed
    have prepared : after.currentState.nextV2gtpMsg = some message := prepared
    cases reacts with
    | refuses refused stopped currentState =>
        rw [currentState, fresh] at prepared
        cases prepared
    | answers res turn response accepts row leads =>
        refine ⟨received, res, turn, taken, response, row, ?_⟩
        cases asked : turn.request with
        | none =>
            have stale := leads.silent asked
            rw [prepared, fresh] at stale
            cases stale
        | some request =>
            obtain ⟨header, prepared'⟩ := leads.prepares request asked
            cases prepared.symm.trans prepared'
            rfl

/-- The request after a stop, which follows a good `PowerDeliveryRes` only, ends charging exactly
if the stop has been sent in a charge loop and the session does not resume one of direct
current. -/
theorem stopFollowed_iff {start earlier : EVCCSession ρ}
    {history : List (Option (Received V2GMessage Answers))}
    {received : Received V2GMessage Answers} {input : Option (Received V2GMessage Answers)}
    {message : RequestMessage} (starts : Starts start)
    (run : Run (machine ρ).Step start history earlier)
    (asks : (machine ρ).Step earlier (some received) session) (stop : StopSent session)
    (step : (machine ρ).Step session input next)
    (sends : next.sent = message :: session.sent) :
    EndsCharging session.world.session message.request ↔
      ¬StopsElsewhere earlier.world received.message ∧
        ∀ mode, start.world.session.resumeRequestedEnergyMode = some mode → mode.isAc := by
  have kept := kept_of_run starts run asks.1
  obtain ⟨fresh, outcome⟩ := stop_cases kept asks step.1 stop
  have mode := (kept_of_run starts (.step run asks) step.1).mode
  rw [fresh] at mode
  obtain ⟨_, _, turn, _, _, row, requests⟩ := sends_of_fresh (by rw [fresh]) step sends
  rw [fresh] at row
  have follows := row.afterDelivery requests
  obtain ⟨told, loop⟩ | ⟨untold, elsewhere⟩ := outcome
  · rw [if_pos told] at follows
    rw [and_iff_right loop]
    cases mode with
    | before early resuming ac => obtain early | early := early <;> cases early
    | chosen mode late selects new agrees =>
        rw [agrees] at follows
        constructor
        · intro _ other resumes
          cases new.symm.trans resumes
        · exact fun _ => ⟨mode, selects, follows⟩
    | resumed mode late selects resuming ac =>
        rw [if_pos ac] at follows
        obtain ⟨chargingSession, sent⟩ := follows
        constructor
        · rintro ⟨other, selects', ends⟩ resumed resumes
          cases resuming.symm.trans resumes
          cases selects.symm.trans selects'
          by_contra dc
          rw [if_neg dc, sent] at ends
          cases ends
        · intro alternating
          refine ⟨mode, selects, ?_⟩
          rw [if_pos (alternating mode resuming)]
          exact ⟨chargingSession, sent⟩
  · rw [untold, if_neg (by simp)] at follows
    constructor
    · rintro ⟨mode, selects, ends⟩
      split at ends
      · obtain ⟨chargingSession, sent⟩ := ends
        exact absurd sent (follows.1 chargingSession)
      · exact absurd ends follows.2
    · exact fun kept => absurd elsewhere kept.1

namespace Sample

/-- A vehicle that charges with alternating current for as long as it may. -/
structure Vehicle where

def volts (value : Int) (fits : int16Min ≤ value ∧ value ≤ int16Max) : PhysicalValue :=
  ⟨value, 0, fits, multiplier_zero⟩

instance : EVController Vehicle where
  isCertInstallNeeded := pure false
  getEnergyTransferMode := pure .acThreePhaseCore
  storeContractCertAndPrivKey := pure ⟨⟩
  getChargeParamsV2 := pure ⟨.acThreePhaseCore, some ⟨none, volts 60 (by decide),
    volts 400 int16_fourHundred, volts 16 (by decide), volts 6 (by decide)⟩, none⟩
  processSaSchedulesV2 _ := pure (.start, 1, ⟨[]⟩)
  enableCharging _ := pure ⟨⟩
  getDcEvStatus := throw .notImplementedError
  getDcChargeParams := throw .notImplementedError
  getDcEvPowerDeliveryParameter := throw .notImplementedError
  isPrecharged _ := throw .notImplementedError
  isBulkChargingComplete := throw .notImplementedError
  isChargingComplete := throw .notImplementedError
  getRemainingTimeToFullSoc := throw .notImplementedError
  getRemainingTimeToBulkSoc := throw .notImplementedError
  continueCharging := pure true
  chargeLoopDelay := pure ⟨⟩
  weldingDetectionHasFinished := throw .notImplementedError

/-- A session over TLS. -/
def start : EVCCSession Vehicle where
  world :=
    { session := { isTls := true }
      controller := ⟨⟩
      currentState := { own := .sessionSetup }
      calls := [] }

theorem starts_start : Starts start :=
  ⟨rfl, ⟨true, "", none, none, rfl⟩, rfl⟩

/-- A response of the session, received at the time zero. Receipts can be signed. -/
def received (response : Response) : Received V2GMessage Answers :=
  ⟨.response ⟨{ sessionId := "10" }, .ok, response⟩,
    { now := 0, signMeteringReceiptReq := fun _ => .ok ⟨[]⟩ }⟩

def chargingStatusRes (notification : EVSENotification) (receiptRequired : Bool) : Response :=
  .chargingStatusRes "evse" 1 ⟨0, notification, true⟩ none (some ⟨some 10⟩) (some receiptRequired)

/-- A session up to the first `ChargingStatusReq`. -/
def chargingHistory : List (Option (Received V2GMessage Answers)) :=
  [received (.powerDeliveryRes (some ⟨0, .none, true⟩) none),
    received (.chargeParameterDiscoveryRes ⟨.finished, some [], none, none⟩),
    received (.authorizationRes .finished),
    received .paymentServiceSelectionRes,
    received (.serviceDiscoveryRes ⟨[.eim], ⟨false, [.acThreePhaseCore]⟩, none⟩),
    received (.sessionSetupRes "evse")]

/-- A session that waits for a `MeteringReceiptRes`. -/
def receiptHistory : List (Option (Received V2GMessage Answers)) :=
  some (received (chargingStatusRes .none true)) :: chargingHistory

/-- The SECC asks for a stop in a `MeteringReceiptRes`. -/
def stopInReceipt : Received V2GMessage Answers :=
  received (.meteringReceiptRes (some ⟨0, .stopCharging, true⟩) none)

/-- The SECC asks for a stop in a `ChargingStatusRes`. -/
def stopInLoop : Received V2GMessage Answers :=
  received (chargingStatusRes .stopCharging false)

def powerDelivered : Received V2GMessage Answers :=
  received (.powerDeliveryRes (some ⟨0, .none, true⟩) none)

/-- The request that asks for a stop. -/
def stopRequest : RequestMessage :=
  ⟨{ sessionId := "10" }, .powerDeliveryReq ⟨.stop, 1, none, none⟩⟩

/-- The session after a history. -/
def after (history : List (Option (Received V2GMessage Answers))) : EVCCSession Vehicle :=
  (machine Vehicle).rcvAll start history

end Sample

open Sample

/-- A stop in the charge loop is followed by `SessionStopReq`. -/
theorem stopInLoop_followed :
    ∃ message, (after (powerDelivered :: some stopInLoop :: chargingHistory)).sent =
        message :: (after (some stopInLoop :: chargingHistory)).sent ∧
      EndsCharging (after (some stopInLoop :: chargingHistory)).world.session message.request := by
  have goesOn : (machine Vehicle).GoesOn start
      (powerDelivered :: some stopInLoop :: chargingHistory) := by decide +kernel
  obtain ⟨message, sends⟩ : ∃ message,
      (after (powerDelivered :: some stopInLoop :: chargingHistory)).sent =
        message :: (after (some stopInLoop :: chargingHistory)).sent :=
    ⟨⟨{ sessionId := "10" }, .sessionStopReq ⟨.terminate⟩⟩, by decide +kernel⟩
  refine ⟨message, sends, ?_⟩
  apply (stopFollowed_iff starts_start
    (SessionStateMachine.run_of_goesOn goesOn.1.1)
    (SessionStateMachine.step_rcvAll goesOn.1.2 (some stopInLoop)) _
    (SessionStateMachine.step_rcvAll goesOn.2 powerDelivered) sends).mpr
  · constructor
    · rintro (⟨_, _, _, _, own, _⟩ | ⟨_, _, _, _, own, _, _⟩)
    · intro mode resumes
      cases resumes
  · exact ⟨stopRequest, (after chargingHistory).sent, _, by decide +kernel, rfl, rfl⟩

/-- After a stop in a receipt, charging goes on. -/
theorem stopInReceipt_not_followed :
    (machine Vehicle).GoesOn start (powerDelivered :: some stopInReceipt :: receiptHistory) ∧
      StopSent (after (some stopInReceipt :: receiptHistory)) ∧
      (after (powerDelivered :: some stopInReceipt :: receiptHistory)).sent =
        ⟨{ sessionId := "10" }, .chargingStatusReq⟩ ::
          (after (some stopInReceipt :: receiptHistory)).sent ∧
      ¬EndsCharging (after (some stopInReceipt :: receiptHistory)).world.session
        .chargingStatusReq := by
  refine ⟨by decide +kernel, ?_, by decide +kernel, ?_⟩
  · exact ⟨stopRequest, (after receiptHistory).sent, _, by decide +kernel, rfl, rfl⟩
  · rintro ⟨mode, _, ends⟩
    split at ends
    · obtain ⟨chargingSession, same⟩ := ends
      cases same
    · cases ends

end Iso15118.Evcc.V2
