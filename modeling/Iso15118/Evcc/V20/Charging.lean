import Iso15118.Evcc.V20.Setup

/-!
# The states of charging keep to the tables

From the exchange of schedules to the end of the session.
-/

namespace Iso15118.Evcc.V20

open Effect
open Iso15118.Shared
open Iso15118.Shared.V20

variable {ρ : Type} {contract : Contract} {answers : Answers} [EVController ρ] {world : World ρ}

/-! ## Schedules and power delivery -/

theorem buildScheduleExchangeRequest_spec (keeps : Keeps contract ρ) {own : Own}
    {response : Response} (chosen : AfterSelection own) :
    Ensures (Failure contract answers own response world.session) buildScheduleExchangeRequest
      (fun message after => (∃ header req, message = ⟨header, .scheduleExchangeReq req⟩) ∧
        after.session = world.session ∧ after.currentState = world.currentState) world := by
  unfold buildScheduleExchangeRequest
  apply ensures_get_bind
  cases mode : world.session.controlMode with
  | none =>
      apply ensures_messageHeader_bind
      · exact fun exception invalid => .header _ _ _ _ invalid
      · exact fun _ => .noControlMode _ _ _ chosen mode
  | some controlMode =>
      cases controlMode with
      | scheduled =>
          apply ensures_required_bind
          · exact fun missing => .noSelection _ _ _ chosen missing
          intro selected _
          apply ensures_ask_bind (keeps.getScheduledSeParams selected)
          · exact fun exception raised => .controller _ _ _ _ raised
          intro params controller _
          apply ensures_messageHeader_bind
          · exact fun exception invalid => .header _ _ _ _ invalid
          · exact fun header => ⟨⟨header, _, rfl⟩, rfl, rfl⟩
      | dynamic =>
          apply ensures_required_bind
          · exact fun missing => .noSelection _ _ _ chosen missing
          intro selected _
          apply ensures_ask_bind (keeps.getDynamicSeParams selected)
          · exact fun exception raised => .controller _ _ _ _ raised
          intro params controller _
          apply ensures_messageHeader_bind
          · exact fun exception invalid => .header _ _ _ _ invalid
          · exact fun header => ⟨⟨header, _, rfl⟩, rfl, rfl⟩

/-- The request is kept and sent. -/
theorem exchangeSchedules_spec (keeps : Keeps contract ρ) {own : Own} {response : Response}
    (selected : AfterSelection own) {post : World ρ → Prop}
    (holds : ∀ header req after,
      after.session = { world.session with
        ongoingScheduleExchangeReq := some ⟨header, .scheduleExchangeReq req⟩ } →
      after.currentState = world.currentState.createNextMessage (some (.state .scheduleExchange))
        ⟨header, .scheduleExchangeReq req⟩ Timeouts.scheduleExchangeReq → post after) :
    Ensures (Failure contract answers own response world.session) exchangeSchedules
      (fun _ after => post after) world := by
  unfold exchangeSchedules
  apply ensures_bind (buildScheduleExchangeRequest_spec keeps selected)
  rintro _ reached ⟨⟨header, req, rfl⟩, session, currentState⟩
  apply ensures_updateSession_bind
  apply holds header req
  · rw [← session]
  · rw [← currentState]

theorem ACChargeParameterDiscovery.onACChargeParameterDiscoveryRes_follows
    (keeps : Keeps contract ρ) (own : world.currentState.own = .acChargeParameterDiscovery) :
    Follows contract answers .acChargeParameterDiscoveryRes
      (ACChargeParameterDiscovery.onACChargeParameterDiscoveryRes : Program ρ PUnit) world := by
  unfold Follows onACChargeParameterDiscoveryRes
  rw [own]
  apply exchangeSchedules_spec keeps (by trivial)
  intro header req after session currentState
  exact ⟨_, .acExchangeSchedules world.session header req,
    Turn.leads_of_created session own currentState rfl rfl⟩

theorem DCChargeParameterDiscovery.onDCChargeParameterDiscoveryRes_follows
    (keeps : Keeps contract ρ) (own : world.currentState.own = .dcChargeParameterDiscovery)
    (res : DCChargeParameterDiscoveryRes) :
    Follows contract answers (.dcChargeParameterDiscoveryRes res)
      (DCChargeParameterDiscovery.onDCChargeParameterDiscoveryRes res : Program ρ PUnit)
      world := by
  unfold Follows onDCChargeParameterDiscoveryRes
  rw [own]
  apply ensures_ask_bind (keeps.updateSeccLimits _ _ _)
  · exact fun exception raised => .controller _ _ _ _ raised
  intro _ controller _
  apply exchangeSchedules_spec keeps (by trivial)
  intro header req after session currentState
  exact ⟨_, .dcExchangeSchedules res world.session header req,
    Turn.leads_of_created session own currentState rfl rfl⟩

/-- The controller answers by its contract. -/
theorem processSeParams_spec (keeps : Keeps contract ρ) {raised : PyError → Prop}
    (raises : ∀ exception, contract.raised exception → raised exception)
    (res : ScheduleExchangeRes) :
    Ensures raised (processSeParams res)
      (fun answer after => contract.schedules res.goToPause answer ∧
        (contract.fits → FitsProfile answer.1) ∧ after.session = world.session ∧
        after.currentState = world.currentState) world := by
  unfold processSeParams
  apply ensures_get_bind
  split
  · unfold Ensures
    rw [wp_ask]
    apply wp_mono _ (fun exception _ raised => raises exception raised)
      (keeps.processScheduledSeParams _ _ world.controller)
    exact fun _ _ answered => ⟨answered.1, answered.2, rfl, rfl⟩
  · unfold Ensures
    rw [wp_ask]
    apply wp_mono _ (fun exception _ raised => raises exception raised)
      (keeps.processDynamicSeParams _ _ world.controller)
    exact fun _ _ answered => ⟨answered.1, answered.2, rfl, rfl⟩

omit [EVController ρ] in
/-- A profile of a controller that fits its messages has a last entry. -/
theorem channelSelection_spec {raised : PyError → Prop} {profile : EVPowerProfile}
    (fits : contract.fits → FitsProfile (some profile))
    (unfit : ∀ exception, ¬contract.fits → raised exception) {α : Type}
    {next : ChannelSelection → Program ρ α} {post : α → World ρ → Prop}
    (holds : ∀ channel, Ensures raised (next channel) post world) :
    Ensures raised (Effect.ofExcept (channelSelection profile) >>= next) post world := by
  apply ensures_ofExcept_bind
  · intro exception empty
    apply unfit
    intro fit
    unfold channelSelection at empty
    cases last : profile.entryList.getLast? with
    | none => exact fits fit profile rfl (List.getLast?_eq_none_iff.mp last)
    | some entry =>
        rw [last] at empty
        cases empty
  · exact fun channel _ => holds channel

/-- A request is finished when it has a profile. -/
theorem powerDeliveryReq_processingOf (chargeProgress : ChargeProgress)
    (profile : Option EVPowerProfile) (channel : Option ChannelSelection) :
    ∃ req : PowerDeliveryReq,
      powerDeliveryReq (processingOf profile) chargeProgress profile channel = .ok req ∧
        req.evProcessing = processingOf profile ∧ req.chargeProgress = chargeProgress := by
  unfold powerDeliveryReq
  cases profile with
  | none => exact ⟨_, dif_pos (fun finished => absurd rfl finished), rfl, rfl⟩
  | some profile => exact ⟨_, dif_pos (fun _ _ => rfl), rfl, rfl⟩

omit [EVController ρ] in
theorem ScheduleExchange.bptChannelSelection_spec {own : Own} {response : Response}
    {session : Session} {profile : Option EVPowerProfile} (chosen : AfterSelection own)
    (fits : contract.fits → FitsProfile profile)
    (selects : world.session.selectedEnergyService = session.selectedEnergyService) :
    Ensures (Failure contract answers own response session)
      (bptChannelSelection world.session.selectedEnergyService profile)
      (fun _ after => after = world) world := by
  unfold bptChannelSelection
  cases profile with
  | none => exact rfl
  | some profile =>
      apply ensures_required_bind
      · rw [selects]
        exact fun missing => .noSelection _ _ _ chosen missing
      intro selected _
      split
      · apply channelSelection_spec fits
        · exact fun exception unfit => .unfit _ _ _ _ unfit
        · exact fun _ => rfl
      · exact rfl

theorem ScheduleExchange.onScheduleExchangeRes_follows (keeps : Keeps contract ρ)
    (own : world.currentState.own = .scheduleExchange) (res : ScheduleExchangeRes) :
    Follows contract answers (.scheduleExchangeRes res)
      (ScheduleExchange.onScheduleExchangeRes res : Program ρ PUnit) world := by
  unfold Follows onScheduleExchangeRes
  rw [own]
  by_cases ongoing : res.evseProcessing = .ongoing
  · rw [if_pos ongoing]
    apply ensures_get_bind
    have row : Row contract .scheduleExchange (.scheduleExchangeRes res) world.session _ :=
      .repeatScheduleExchange res world.session ongoing
    cases repeats : world.session.ongoingScheduleExchangeReq with
    | none =>
        rw [repeats] at row
        exact ⟨_, row, Turn.leads_of_silent rfl own rfl rfl rfl⟩
    | some message =>
        rw [repeats] at row
        exact ⟨_, row, Turn.leads_of_message rfl own rfl rfl rfl⟩
  · rw [if_neg ongoing]
    unfold onFinished
    apply ensures_bind (processSeParams_spec keeps
      (fun exception raised => .controller _ _ _ _ raised) res)
    rintro ⟨profile, chargeProgress⟩ reached ⟨answered, fits, session, currentState⟩
    apply ensures_updateSession_bind
    apply ensures_updateSession_bind
    apply ensures_get_bind
    have own' : reached.currentState.own = .scheduleExchange := by rw [currentState, own]
    apply ensures_bind (bptChannelSelection_spec (by trivial) fits
      (by dsimp only; rw [session]))
    rintro channel _ rfl
    apply ensures_ask_bind (keeps.enableCharging true)
    · exact fun exception raised => .controller _ _ _ _ raised
    intro _ controller _
    dsimp only
    rw [session]
    split
    next ac =>
      apply ensures_messageHeader_bind
      · exact fun exception invalid => .header _ _ _ _ invalid
      intro header
      obtain ⟨req, built, processing, progress⟩ :=
        powerDeliveryReq_processingOf chargeProgress profile channel
      rw [built]
      rw [← progress] at answered
      exact ⟨_, .acSchedules res world.session profile req ongoing ac answered processing,
        Turn.leads_of_message rfl own' rfl rfl rfl⟩
    next dc =>
      apply ensures_messageHeader_bind
      · exact fun exception invalid => .header _ _ _ _ invalid
      intro header
      exact ⟨_, .dcSchedules res world.session profile ongoing (by simpa using dc),
        Turn.leads_of_message rfl own' rfl rfl rfl⟩

/-- The schedules are processed again, and the session follows the profile. -/
theorem buildPowerDeliveryReq_spec (keeps : Keeps contract ρ) {own : Own} {response : Response}
    (scheduled : AfterSchedules own) :
    Ensures (Failure contract answers own response world.session) buildPowerDeliveryReq
      (fun message after => ∃ header req res profile,
        message = ⟨header, .powerDeliveryReq req⟩ ∧
        world.session.scheduleExchangeRes = some res ∧
        contract.schedules res.goToPause (profile, req.chargeProgress) ∧
        req.evProcessing = processingOf profile ∧
        after.session = { world.session with evProcessing := processingOf profile } ∧
        after.currentState = world.currentState) world := by
  unfold buildPowerDeliveryReq
  apply ensures_get_bind
  apply ensures_required_bind
  · exact fun missing => .noScheduleExchangeRes _ _ _ scheduled missing
  intro res exchanged
  apply ensures_bind (processSeParams_spec keeps
    (fun exception raised => .controller _ _ _ _ raised) res)
  rintro ⟨profile, chargeProgress⟩ reached ⟨answered, fits, session, currentState⟩
  apply ensures_updateSession_bind
  apply ensures_required_bind
  · exact fun missing => .noSelection _ _ _ scheduled.afterSelection missing
  intro selected _
  have goesOn : ∀ channel : Option ChannelSelection,
      Ensures (Failure contract answers own response world.session)
        (do
          let header ← messageHeader
          let req ← Effect.ofExcept
            (powerDeliveryReq (processingOf profile) chargeProgress profile channel)
          return (⟨header, .powerDeliveryReq req⟩ : RequestMessage))
        (fun message after => ∃ header req res profile,
          message = ⟨header, .powerDeliveryReq req⟩ ∧
          world.session.scheduleExchangeRes = some res ∧
          contract.schedules res.goToPause (profile, req.chargeProgress) ∧
          req.evProcessing = processingOf profile ∧
          after.session = { world.session with evProcessing := processingOf profile } ∧
          after.currentState = world.currentState)
        { reached with
          session := { reached.session with evProcessing := processingOf profile } } := by
    intro channel
    apply ensures_messageHeader_bind
    · dsimp only
      rw [session]
      exact fun exception invalid => .header _ _ _ _ invalid
    intro header
    obtain ⟨req, built, processing, progress⟩ :=
      powerDeliveryReq_processingOf chargeProgress profile channel
    rw [built]
    rw [← progress] at answered
    refine ⟨header, req, res, profile, rfl, exchanged, answered, processing, ?_, currentState⟩
    rw [session]
  split
  · cases profile with
    | some profile =>
        apply channelSelection_spec fits
        · exact fun exception unfit => .unfit _ _ _ _ unfit
        · exact fun channel => goesOn (some channel)
    | none => exact goesOn (some .charge)
  · exact goesOn none

/-- The charge loop for alternating current goes on. -/
theorem requestAcChargeLoop_spec (keeps : Keeps contract ρ) {own : Own} {response : Response}
    {session : Session} (same : world.session = session) {service : ServiceV20}
    (ac : service ∈ [.ac, .acBpt])
    {post : World ρ → Prop}
    (holds : ∀ header req after, after.session = world.session →
      after.currentState = world.currentState.createNextMessage (some (.state .acChargeLoop))
        ⟨header, .acChargeLoopReq req⟩ Timeouts.acChargeLoopReq → post after) :
    Ensures (Failure contract answers own response session) (requestAcChargeLoop service)
      (fun _ after => post after) world := by
  unfold requestAcChargeLoop
  apply ensures_get_bind
  apply ensures_ask_bind (keeps.getAcChargeLoopParamsV20 _ service)
  · exact fun exception raised => .controller _ _ _ _ raised
  intro params controller fits
  apply ensures_messageHeader_bind
  · rw [← same]
    exact fun exception invalid => .header _ _ _ _ invalid
  intro header
  apply ensures_ask_bind keeps.getDisplayParams
  · exact fun exception raised => .controller _ _ _ _ raised
  intro displayParameters controller' _
  apply ensures_ofExcept_bind
  · intro exception misfit
    apply Failure.unfit
    intro fit
    obtain ⟨fitting, built⟩ := fits fit ac
    rw [built] at misfit
    cases misfit
  · intro fitting _
    exact holds header _ _ rfl rfl

/-- Parameters are there when the service is one for direct current. -/
theorem dcChargeLoopParams_spec (keeps : Keeps contract ρ) {raised : PyError → Prop}
    (raises : ∀ exception, contract.raised exception → raised exception) (service : ServiceV20)
    (controlMode : Option ControlMode) :
    Ensures raised (dcChargeLoopParams service controlMode)
      (fun params after => (params = none → service ∉ [.dc, .dcBpt]) ∧
        after.session = world.session ∧ after.currentState = world.currentState) world := by
  unfold dcChargeLoopParams
  split
  · apply ensures_ask_bind keeps.getScheduledDcChargeLoopParams raises
    exact fun params controller _ => ⟨nofun, rfl, rfl⟩
  · apply ensures_ask_bind keeps.getDynamicDcChargeLoopParams raises
    exact fun params controller _ => ⟨nofun, rfl, rfl⟩
  · apply ensures_ask_bind keeps.getBptScheduledDcChargeLoopParams raises
    exact fun params controller _ => ⟨nofun, rfl, rfl⟩
  · apply ensures_ask_bind keeps.getBptDynamicDcChargeLoopParams raises
    exact fun params controller _ => ⟨nofun, rfl, rfl⟩
  next noDc _ noBpt _ =>
    refine ⟨fun _ member => ?_, rfl, rfl⟩
    simp only [List.mem_cons, List.not_mem_nil, or_false] at member
    grind

theorem buildCurrentDemandData_spec (keeps : Keeps contract ρ) {raised : PyError → Prop}
    (raises : ∀ exception, contract.raised exception ∨
      checkSessionId world.session.sessionId = .error exception → raised exception)
    {service : ServiceV20} (other : service ∉ [.dc, .dcBpt] → raised .validationError) :
    Ensures raised (buildCurrentDemandData service)
      (fun message after => (∃ header req, message = ⟨header, .dcChargeLoopReq req⟩) ∧
        after.session = world.session ∧ after.currentState = world.currentState) world := by
  unfold buildCurrentDemandData
  apply ensures_get_bind
  apply ensures_bind (dcChargeLoopParams_spec keeps
    (fun exception failed => raises exception (.inl failed)) service _)
  rintro params reached ⟨given, session, currentState⟩
  apply ensures_messageHeader_bind
  · rw [session]
    exact fun exception invalid => raises exception (.inr invalid)
  intro header
  apply ensures_ask_bind keeps.getDisplayParams
  · exact fun exception failed => raises exception (.inl failed)
  intro displayParameters controller _
  apply ensures_ask_bind keeps.getPresentVoltage
  · exact fun exception failed => raises exception (.inl failed)
  intro evPresentVoltage controller' _
  cases params with
  | some params => exact ⟨⟨header, _, rfl⟩, session, currentState⟩
  | none => exact other (given rfl)

theorem PowerDelivery.enterChargeLoop_follows (keeps : Keeps contract ρ)
    (own : world.currentState.own = .powerDelivery)
    (idle : world.currentState.nextState = none)
    (processed : world.session.evProcessing ≠ .ongoing)
    (stays : world.session.chargingSessionStopV20 ∈ [none, some .pause])
    {selected : SelectedEnergyService}
    (selects : world.session.selectedEnergyService = some selected) :
    Follows contract answers .powerDeliveryRes
      (PowerDelivery.enterChargeLoop selected : Program ρ PUnit) world := by
  unfold Follows enterChargeLoop
  rw [own]
  by_cases ac : selected.service ∈ [.ac, .acBpt]
  · rw [if_pos ac]
    apply requestAcChargeLoop_spec keeps rfl ac
    intro header req after session currentState
    exact ⟨_, .acEnterChargeLoop world.session selected req processed stays selects ac,
      Turn.leads_of_created session own currentState rfl rfl⟩
  · rw [if_neg ac]
    by_cases dc : selected.service ∈ [.dc, .dcBpt]
    · rw [if_pos dc]
      apply ensures_bind (buildCurrentDemandData_spec keeps ?_ (fun other => absurd dc other))
      · rintro message after ⟨⟨header, req, rfl⟩, session, currentState⟩
        refine ⟨_, .dcEnterChargeLoop world.session selected req processed stays selects dc,
          Turn.leads_of_message session ?_ rfl rfl rfl⟩
        rw [← own, ← currentState]
        rfl
      · rintro exception (raised | invalid)
        · exact .controller _ _ _ _ raised
        · exact .header _ _ _ _ invalid
    · rw [if_neg dc]
      exact ⟨_, .noChargeLoop world.session selected selects (by grind),
        Turn.leads_of_silent rfl own idle rfl rfl⟩

theorem PowerDelivery.stop_follows (keeps : Keeps contract ρ)
    (own : world.currentState.own = .powerDelivery)
    (processed : world.session.evProcessing ≠ .ongoing) {chargingSession : ChargingSession}
    (stops : world.session.chargingSessionStopV20 = some chargingSession)
    (reason : chargingSession ≠ .pause) :
    Follows contract answers .powerDeliveryRes
      (PowerDelivery.stop world.session.selectedEnergyService chargingSession : Program ρ PUnit)
      world := by
  unfold Follows stop
  rw [own]
  apply ensures_ask_bind (keeps.enableCharging false)
  · exact fun exception raised => .controller _ _ _ _ raised
  intro _ controller _
  apply ensures_required_bind
  · exact fun missing => .noSelection _ _ _ trivial missing
  intro selected selects
  by_cases dc : selected.service ∈ [.dc, .dcBpt]
  · rw [if_pos dc]
    apply ensures_messageHeader_bind
    · exact fun exception invalid => .header _ _ _ _ invalid
    intro header
    exact ⟨_, .detectWelding world.session selected chargingSession processed stops reason
      selects dc, Turn.leads_of_message rfl own rfl rfl rfl⟩
  · rw [if_neg dc]
    unfold requestSessionStop
    apply ensures_messageHeader_bind
    · exact fun exception invalid => .header _ _ _ _ invalid
    intro header
    exact ⟨_, .stopSession world.session selected chargingSession processed stops reason
      selects dc, Turn.leads_of_message rfl own rfl rfl rfl⟩

theorem PowerDelivery.onPowerDeliveryRes_follows (keeps : Keeps contract ρ)
    (own : world.currentState.own = .powerDelivery)
    (idle : world.currentState.nextState = none) :
    Follows contract answers .powerDeliveryRes
      (PowerDelivery.onPowerDeliveryRes : Program ρ PUnit) world := by
  have enters : world.session.evProcessing ≠ .ongoing →
      world.session.chargingSessionStopV20 ∈ [none, some .pause] →
      Follows contract answers .powerDeliveryRes
        (required world.session.selectedEnergyService >>= fun selected =>
          PowerDelivery.enterChargeLoop selected : Program ρ PUnit) world := by
    intro processed stays
    apply ensures_required_bind
    · rw [own]
      exact fun missing => .noSelection _ _ _ trivial missing
    · exact fun selected selects =>
        enterChargeLoop_follows keeps own idle processed stays selects
  unfold Follows onPowerDeliveryRes
  apply ensures_get_bind
  by_cases processes : world.session.evProcessing = .ongoing
  · rw [if_pos processes, own]
    apply ensures_bind (buildPowerDeliveryReq_spec keeps (by trivial))
    rintro _ after ⟨header, req, res, profile, rfl, exchanged, answered, processing, session,
      currentState⟩
    refine ⟨_, .repeatPowerDelivery world.session res profile req processes exchanged answered
      processing, Turn.leads_of_message session ?_ rfl rfl rfl⟩
    rw [← own, ← currentState]
    rfl
  · rw [if_neg processes]
    cases stops : world.session.chargingSessionStopV20 with
    | none => exact enters processes (by rw [stops]; decide)
    | some chargingSession =>
        cases chargingSession with
        | pause => exact enters processes (by rw [stops]; decide)
        | terminate => exact stop_follows keeps own processes stops nofun
        | serviceRenegotiation => exact stop_follows keeps own processes stops nofun

/-! ## The end of the session -/

omit [EVController ρ] in
theorem SessionStop.onSessionStopRes_follows (own : world.currentState.own = .sessionStop) :
    Follows contract answers .sessionStopRes
      (SessionStop.onSessionStopRes : Program ρ PUnit) world := by
  unfold Follows onSessionStopRes
  rw [own]
  apply ensures_get_bind
  apply ensures_required_bind
  · exact fun missing => .noReason _ missing
  intro chargingSession stops
  apply ensures_updateSession_bind
  by_cases renegotiates : world.session.serviceRenegotiationSupported = true ∧
      world.session.renegotiationRequested = true
  · rw [if_pos renegotiates]
    exact ⟨_, .renegotiate world.session chargingSession stops renegotiates.1 renegotiates.2,
      Turn.leads_of_silent rfl own rfl rfl rfl⟩
  · rw [if_neg renegotiates]
    exact ⟨_, .terminate world.session chargingSession stops renegotiates,
      Turn.leads_of_silent rfl own rfl rfl rfl⟩

/-! ## Charge loops -/

omit [EVController ρ] in
/-- Charging is stopped, with the reason in the session. -/
theorem stopV20Charging_spec {own : Own} {response : Response} {session : Session}
    (same : world.session = session) (renegotiation : Bool) {post : World ρ → Prop}
    (holds : ∀ header after,
      after.session =
        { session with
          renegotiationRequested := session.renegotiationRequested || renegotiation
          chargingSessionStopV20 :=
            some (if renegotiation then .serviceRenegotiation else .terminate) } →
      after.currentState = world.currentState.createNextMessage (some (.state .powerDelivery))
        ⟨header, .powerDeliveryReq
          ⟨.finished, .stop, none, none, fun _ starts => absurd rfl starts⟩⟩
        Timeouts.powerDeliveryReq → post after) :
    Ensures (Failure contract answers own response session) (stopV20Charging renegotiation)
      (fun _ after => post after) world := by
  unfold stopV20Charging
  apply ensures_messageHeader_bind
  · rw [same]
    exact fun exception invalid => .header _ _ _ _ invalid
  intro header
  subst same
  exact holds header _ rfl rfl

/-- A charge loop is stopped, or goes on without a notification. -/
theorem chargeLoop_spec (keeps : Keeps contract ρ) {own : Own} {response : Response}
    {session : Session} (same : world.session = session) {evseStatus : Option EVSEStatus}
    {goOn : Program ρ PUnit} {post : World ρ → Prop}
    (other : ∀ status, evseStatus = some status →
      status.evseNotification ∉ [.serviceRenegotiation, .terminate] →
      Failure contract answers own response session .notImplementedError)
    (stops : ∀ renegotiation header after,
      (renegotiation = true ↔
        evseStatus.map EVSEStatus.evseNotification = some .serviceRenegotiation) →
      after.session =
        { session with
          renegotiationRequested := session.renegotiationRequested || renegotiation
          chargingSessionStopV20 :=
            some (if renegotiation then .serviceRenegotiation else .terminate) } →
      after.currentState = world.currentState.createNextMessage (some (.state .powerDelivery))
        ⟨header, .powerDeliveryReq
          ⟨.finished, .stop, none, none, fun _ starts => absurd rfl starts⟩⟩
        Timeouts.powerDeliveryReq → post after)
    (goesOn : evseStatus = none → ∀ calls controller,
      Ensures (Failure contract answers own response session) goOn (fun _ after => post after)
        { world with calls := calls, controller := controller }) :
    Ensures (Failure contract answers own response session) (chargeLoop evseStatus goOn)
      (fun _ after => post after) world := by
  unfold chargeLoop
  cases evseStatus with
  | some status =>
      dsimp only
      split
      next renegotiates =>
        apply stopV20Charging_spec same
        intro header after
        exact stops true header after (by simp [renegotiates])
      next terminates =>
        apply stopV20Charging_spec same
        intro header after
        exact stops false header after (by simp [terminates])
      next noRenegotiation noTerminate =>
        apply other status rfl
        simp only [List.mem_cons, List.not_mem_nil, or_false]
        rintro (renegotiates | terminates)
        · exact noRenegotiation renegotiates
        · exact noTerminate terminates
  | none =>
      apply ensures_ask_bind keeps.continueCharging
      · exact fun exception raised => .controller _ _ _ _ raised
      intro continues controller _
      split
      · -- the delay may fail, and is not waited for then
        unfold Ensures
        rw [wp_bind, wp_tryCatch, wp_ask]
        apply wp_of_forall
        · exact fun _ _ => goesOn rfl _ _
        · exact fun _ _ => goesOn rfl _ _
      · apply stopV20Charging_spec
        · exact same
        · intro header after
          exact stops false header after (by simp)

theorem ACChargeLoop.onACChargeLoopRes_follows (keeps : Keeps contract ρ)
    (own : world.currentState.own = .acChargeLoop)
    (idle : world.currentState.nextState = none) (evseStatus : Option EVSEStatus) :
    Follows contract answers (.acChargeLoopRes evseStatus)
      (ACChargeLoop.onACChargeLoopRes evseStatus : Program ρ PUnit) world := by
  unfold Follows onACChargeLoopRes
  rw [own]
  apply chargeLoop_spec keeps rfl
  · rintro status rfl unsupported
    exact .acNotification status _ unsupported
  · intro renegotiation header after reason session currentState
    exact ⟨_, .acStop evseStatus world.session renegotiation reason,
      Turn.leads_of_created session own currentState rfl rfl⟩
  · rintro rfl calls controller
    apply ensures_get_bind
    apply ensures_required_bind
    · exact fun missing => .noSelection _ _ _ trivial missing
    intro selected selects
    by_cases ac : selected.service ∈ [.ac, .acBpt]
    · rw [if_pos ac]
      apply requestAcChargeLoop_spec keeps rfl ac
      intro header req after session currentState
      exact ⟨_, .acChargeLoop world.session selected req selects ac,
        Turn.leads_of_created session own currentState rfl rfl⟩
    · rw [if_neg ac]
      exact ⟨_, .noAcChargeLoop world.session selected selects ac,
        Turn.leads_of_silent rfl own idle rfl rfl⟩

theorem DCChargeLoop.onDCChargeLoopRes_follows (keeps : Keeps contract ρ)
    (own : world.currentState.own = .dcChargeLoop) (evseStatus : Option EVSEStatus)
    (params : DCChargeLoopResParams) :
    Follows contract answers (.dcChargeLoopRes evseStatus params)
      (DCChargeLoop.onDCChargeLoopRes evseStatus : Program ρ PUnit) world := by
  unfold Follows onDCChargeLoopRes
  rw [own]
  apply chargeLoop_spec keeps rfl
  · rintro status rfl unsupported
    exact .dcNotification status _ _ unsupported
  · intro renegotiation header after reason session currentState
    exact ⟨_, .dcStop evseStatus params world.session renegotiation reason,
      Turn.leads_of_created session own currentState rfl rfl⟩
  · rintro rfl calls controller
    apply ensures_get_bind
    apply ensures_required_bind
    · exact fun missing => .noSelection _ _ _ trivial missing
    intro selected selects
    apply ensures_bind (buildCurrentDemandData_spec keeps ?_
      (fun other => .noDcService _ _ selected selects other))
    · rintro message after ⟨⟨header, req, rfl⟩, session, currentState⟩
      refine ⟨_, .dcChargeLoop params world.session req,
        Turn.leads_of_message session ?_ rfl rfl rfl⟩
      rw [← own, ← currentState]
      rfl
    · rintro exception (raised | invalid)
      · exact .controller _ _ _ _ raised
      · exact .header _ _ _ _ invalid

/-! ## Before charging with direct current -/

theorem DCCableCheck.onDCCableCheckRes_follows (keeps : Keeps contract ρ)
    (own : world.currentState.own = .dcCableCheck) (evseProcessing : Processing) :
    Follows contract answers (.dcCableCheckRes evseProcessing)
      (DCCableCheck.onDCCableCheckRes answers evseProcessing : Program ρ PUnit) world := by
  unfold Follows onDCCableCheckRes
  rw [own]
  by_cases finished : evseProcessing = .finished
  · rw [if_pos finished]
    subst finished
    apply ensures_updateSession_bind
    unfold buildPreChargeMessage
    simp only [bind_assoc, pure_bind]
    apply ensures_ask_bind keeps.getPresentVoltage
    · exact fun exception raised => .controller _ _ _ _ raised
    intro presentVoltage controller _
    apply ensures_messageHeader_bind
    · exact fun exception invalid => .header _ _ _ _ invalid
    intro header
    apply ensures_ask_bind keeps.getTargetVoltage
    · exact fun exception raised => .controller _ _ _ _ raised
    intro targetVoltage controller' _
    exact ⟨_, .cableChecked world.session _ rfl, Turn.leads_of_message rfl own rfl rfl rfl⟩
  · rw [if_neg finished]
    apply ensures_bind (elapsedTime_spec _)
    rintro elapsed reached ⟨_, outcome⟩
    cases elapsed with
    | none =>
        obtain ⟨session, currentState⟩ := outcome
        refine ⟨_, .cableCheckTimeout _ world.session finished,
          Turn.leads_of_silent session ?_ ?_ rfl ?_⟩
        · rw [currentState]
          exact own
        · rw [currentState]
        · rw [currentState]
    | some elapsed =>
        obtain ⟨⟨timer, session⟩, currentState⟩ := outcome
        apply ensures_messageHeader_bind
        · rw [session]
          exact fun exception invalid => .header _ _ _ _ invalid
        · intro header
          have own' : reached.currentState.own = .dcCableCheck := by rw [currentState, own]
          exact ⟨_, .repeatCableCheck _ world.session timer finished,
            Turn.leads_of_message session own' rfl rfl rfl⟩

theorem DCPreCharge.onDCPreChargeRes_follows (keeps : Keeps contract ρ) {builtOnce : Bool}
    (own : world.currentState.own = .dcPreCharge builtOnce)
    (evsePresentVoltage : RationalNumber) :
    Follows contract answers (.dcPreChargeRes evsePresentVoltage)
      (DCPreCharge.onDCPreChargeRes builtOnce evsePresentVoltage : Program ρ PUnit) world := by
  unfold Follows onDCPreChargeRes
  rw [own]
  apply ensures_ask_bind (keeps.isPrecharged _)
  · exact fun exception raised => .controller _ _ _ _ raised
  intro isPrecharged controller _
  split
  next precharged =>
    obtain ⟨_, rfl⟩ := (Bool.and_eq_true _ _).mp precharged
    apply ensures_bind (buildPowerDeliveryReq_spec keeps (by trivial))
    rintro _ after ⟨header, req, res, profile, rfl, exchanged, answered, processing, session,
      currentState⟩
    refine ⟨_, .preCharged evsePresentVoltage world.session res profile req exchanged answered
      processing, Turn.leads_of_message session ?_ rfl rfl rfl⟩
    rw [← own, ← currentState]
    rfl
  next =>
    unfold buildPreChargeMessage
    simp only [bind_assoc, pure_bind]
    apply ensures_ask_bind keeps.getPresentVoltage
    · exact fun exception raised => .controller _ _ _ _ raised
    intro presentVoltage controller _
    apply ensures_ask_bind (keeps.isPrecharged _)
    · exact fun exception raised => .controller _ _ _ _ raised
    intro isPrecharged' controller _
    apply ensures_messageHeader_bind
    · exact fun exception invalid => .header _ _ _ _ invalid
    intro header
    apply ensures_ask_bind keeps.getTargetVoltage
    · exact fun exception raised => .controller _ _ _ _ raised
    intro targetVoltage controller' _
    exact ⟨_, .preCharge builtOnce evsePresentVoltage world.session _,
      Turn.leads_of_message rfl rfl rfl rfl rfl⟩

end Iso15118.Evcc.V20
