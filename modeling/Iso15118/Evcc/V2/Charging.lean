import Iso15118.Evcc.V2.Setup

/-!
# The states of charging keep to the table

From the discovery of the charge parameters to the end of the session.
-/

namespace Iso15118.Evcc.V2

open Effect
open Iso15118.Shared
open Iso15118.Shared.V2

variable {ρ : Type} [EVController ρ] {answers : Answers} {schedules : Schedules}
  {response : Response} {before world : World ρ}

/-! ## Schedules and power -/

theorem requestCableCheck_follows (same : world.currentState = before.currentState)
    (rows : ∀ req, Row answers schedules before.currentState.own response before.session
      (.to world.session .cableCheck (.cableCheckReq req))) :
    Follows answers schedules response before requestCableCheck world := by
  unfold requestCableCheck
  apply establishes_ask_bind
  intro dcEvStatus controller
  apply follows_createNextMessage
  · exact same
  · exact rows _

omit [EVController ρ] in
theorem requestPowerDelivery_bind {chargeProgress : ChargeProgress} {schedule : Option Nat}
    {profile : Option ChargingProfile} {parameter : Option DCEVPowerDeliveryParameter}
    {next : PUnit → Program ρ PUnit} {post : PUnit → World ρ → Prop}
    (holds : ∀ header req, req.chargeProgress = chargeProgress → Establishes (next ⟨⟩) post
      { world with
        currentState := world.currentState.createNextMessage (some (.state .powerDelivery))
          ⟨header, .powerDeliveryReq req⟩ Timeouts.powerDeliveryReq }) :
    Establishes (requestPowerDelivery chargeProgress schedule profile parameter >>= next) post
      world := by
  unfold requestPowerDelivery
  rw [bind_assoc]
  apply ensures_ofExcept_bind
  · exact fun _ _ => trivial
  intro req built
  apply establishes_createNextMessage_bind
  intro header
  apply holds
  unfold powerDeliveryReq at built
  split at built
  · split at built
    · cases built
      rfl
    · cases built
  · cases built

omit [EVController ρ] in
theorem requestPowerDelivery_follows {chargeProgress : ChargeProgress} {schedule : Option Nat}
    {profile : Option ChargingProfile} {parameter : Option DCEVPowerDeliveryParameter}
    (same : world.currentState = before.currentState)
    (rows : ∀ req : PowerDeliveryReq, req.chargeProgress = chargeProgress →
      Row answers schedules before.currentState.own response before.session
        (.to world.session .powerDelivery (.powerDeliveryReq req))) :
    Follows answers schedules response before
      (requestPowerDelivery chargeProgress schedule profile parameter) world := by
  rw [← bind_pure_unit (x := requestPowerDelivery chargeProgress schedule profile parameter)]
  apply requestPowerDelivery_bind
  intro header req progress
  rw [same]
  exact ⟨_, rows req progress, Turn.leads_to rfl rfl⟩

theorem ChargeParameterDiscovery.chooseSchedule_follows
    (own : before.currentState.own = .chargeParameterDiscovery)
    (res : ChargeParameterDiscoveryRes) (finished : res.evseProcessing = .finished) :
    Follows answers (schedulesOf before.controller) (.chargeParameterDiscoveryRes res) before
      (chooseSchedule res.saScheduleList) before := by
  unfold chooseSchedule
  apply ensures_updateSession_bind
  apply establishes_required_bind
  intro tuples offered
  apply ensures_ask_eq_bind
  rintro ⟨progress, scheduleId, profile⟩ controller answered
  dsimp only
  apply establishes_ask_bind
  intro _ controller'
  apply ensures_get_bind
  dsimp only
  split
  next ac =>
    apply requestPowerDelivery_bind
    rintro header req rfl
    apply ensures_updateSession_bind
    unfold Ensures
    rw [wp_ask]
    apply wp_of_forall _ (fun _ _ => trivial)
    intro _ last
    refine ⟨_, ?_, Turn.leads_to rfl rfl⟩
    rw [own]
    exact .acSchedule res before.session tuples req scheduleId finished offered
      ⟨scheduleId, profile, controller, answered⟩ ac
  next dc =>
    unfold requestCableCheck
    simp only [bind_assoc]
    apply establishes_ask_bind
    intro dcEvStatus controller''
    apply establishes_createNextMessage_bind
    intro header
    apply ensures_updateSession_bind
    unfold Ensures
    rw [wp_ask]
    apply wp_of_forall _ (fun _ _ => trivial)
    intro _ last
    refine ⟨_, ?_, Turn.leads_to rfl rfl⟩
    rw [own]
    exact .dcSchedule res before.session _ scheduleId finished (Bool.eq_false_iff.mpr dc)

theorem ChargeParameterDiscovery.onChargeParameterDiscoveryRes_follows
    (own : before.currentState.own = .chargeParameterDiscovery)
    (res : ChargeParameterDiscoveryRes) :
    Follows answers (schedulesOf before.controller) (.chargeParameterDiscoveryRes res) before
      (onChargeParameterDiscoveryRes answers res) before := by
  unfold onChargeParameterDiscoveryRes
  split
  next finished => exact chooseSchedule_follows own res finished
  next ongoing =>
    apply follows_elapsedTime rfl rfl
    · intro late
      rw [own]
      exact .chargeParametersTimeout res before.session ongoing late
    · intro elapsed session elapses
      apply discoverChargeParameters_follows
      · rfl
      · intro req
        rw [own]
        exact .repeatChargeParameters res before.session session req ongoing elapses

theorem requestCurrentDemand_follows {withMaxVoltage : Bool} {timeout : ℚ}
    (same : world.currentState = before.currentState)
    (rows : ∀ req, Row answers schedules before.currentState.own response before.session
      (.to world.session .currentDemand (.currentDemandReq req))) :
    Follows answers schedules response before (requestCurrentDemand withMaxVoltage timeout)
      world := by
  unfold requestCurrentDemand buildCurrentDemandReq
  simp only [bind_assoc, pure_bind]
  apply establishes_ask_bind
  intro params _
  apply establishes_ask_bind
  intro dcEvStatus _
  apply establishes_ask_bind
  intro _ _
  apply establishes_ask_bind
  intro _ _
  apply establishes_ask_bind
  intro fullSoc _
  apply establishes_ask_bind
  intro bulkSoc _
  apply follows_createNextMessage
  · exact same
  · exact rows _

/-- The charge loop of the energy mode goes on. -/
theorem charges_follows {withMaxVoltage : Bool} {timeout : ℚ}
    (same : world.currentState = before.currentState)
    (rows : ∀ turn, Charges world.session turn →
      Row answers schedules before.currentState.own response before.session turn) :
    Follows answers schedules response before
      (if world.session.chargesAc then requestChargingStatus
        else requestCurrentDemand withMaxVoltage timeout) world := by
  split
  next ac =>
    apply follows_createNextMessage same
    exact rows _ (.ac ac)
  next dc =>
    apply requestCurrentDemand_follows same
    exact fun req => rows _ (.dc req dc)

theorem PowerDelivery.onPowerDeliveryRes_follows
    (own : before.currentState.own = .powerDelivery) (acEvseStatus : Option ACEVSEStatus)
    (dcEvseStatus : Option DCEVSEStatus) :
    Follows answers schedules (.powerDeliveryRes acEvseStatus dcEvseStatus) before
      onPowerDeliveryRes before := by
  unfold onPowerDeliveryRes
  apply ensures_get_bind
  split
  next stops =>
    split
    next ac =>
      obtain ⟨chargingSession, stopped⟩ := Option.isSome_iff_exists.mp stops
      rw [stopped]
      apply follows_createNextMessage rfl
      rw [own]
      exact .stopSession acEvseStatus dcEvseStatus before.session chargingSession stopped ac
    next dc =>
      apply establishes_ask_bind
      intro _ _
      apply establishes_ask_bind
      intro _ _
      apply follows_createNextMessage
      · rfl
      · rw [own]
        exact .detectWelding acEvseStatus dcEvseStatus before.session stops
          (Bool.eq_false_iff.mpr dc)
  next goesOn =>
    rw [Option.not_isSome_iff_eq_none] at goesOn
    split
    next requested =>
      apply ensures_updateSession_bind
      apply discoverChargeParameters_follows
      · rfl
      · intro req
        rw [own]
        exact .rediscover acEvseStatus dcEvseStatus before.session req goesOn requested
    next =>
      apply charges_follows rfl
      intro turn charges
      rw [own]
      exact .charge acEvseStatus dcEvseStatus before.session turn goesOn charges

omit [EVController ρ] in
/-- A renegotiation is asked for. -/
theorem renegotiate_follows (same : world.currentState = before.currentState)
    (rows : ∀ req : PowerDeliveryReq, req.chargeProgress = .renegotiate →
      Row answers schedules before.currentState.own response before.session
        (.to { world.session with renegotiationRequested := true } .powerDelivery
          (.powerDeliveryReq req))) :
    Follows answers schedules response before renegotiate world := by
  unfold renegotiate
  apply ensures_updateSession_bind
  apply ensures_get_bind
  apply requestPowerDelivery_follows
  · exact same
  · exact rows

theorem MeteringReceipt.onMeteringReceiptRes_follows
    (own : before.currentState.own = .meteringReceipt) (acEvseStatus : Option ACEVSEStatus)
    (dcEvseStatus : Option DCEVSEStatus) :
    Follows answers schedules (.meteringReceiptRes acEvseStatus dcEvseStatus) before
      (onMeteringReceiptRes acEvseStatus dcEvseStatus) before := by
  have notified : Establishes (notification acEvseStatus dcEvseStatus)
      (fun given after => after = before ∧
        (acEvseStatus.map ACEVSEStatus.evseNotification).or
          (dcEvseStatus.map DCEVSEStatus.evseNotification) = some given) before := by
    unfold notification
    cases acEvseStatus with
    | some status => exact ⟨rfl, rfl⟩
    | none =>
        apply establishes_required_bind
        rintro status rfl
        exact ⟨rfl, rfl⟩
  unfold onMeteringReceiptRes
  apply ensures_bind notified
  rintro given _ ⟨rfl, notifies⟩
  apply ensures_get_bind
  cases given with
  | stopCharging =>
      apply requestPowerDelivery_follows rfl
      intro req stops
      rw [own]
      exact .receiptStop acEvseStatus dcEvseStatus _ req notifies stops
  | reNegotiation =>
      apply renegotiate_follows rfl
      intro req renegotiates
      rw [own]
      exact .receiptRenegotiate acEvseStatus dcEvseStatus _ req renegotiates
  | none =>
      apply charges_follows rfl
      intro turn charges
      rw [own]
      exact .receiptCharge acEvseStatus dcEvseStatus _ turn charges

omit [EVController ρ] in
theorem SessionStop.onSessionStopRes_follows (own : before.currentState.own = .sessionStop) :
    Follows answers schedules .sessionStopRes before onSessionStopRes before := by
  unfold onSessionStopRes
  apply ensures_get_bind
  apply establishes_required_bind
  intro chargingSession stops
  apply ensures_updateSession_bind
  unfold Ensures
  rw [wp_setNextState, own]
  have stopped : before.session.chargingSessionStopV2.isSome = true := by
    rw [stops]
    rfl
  exact ⟨_, .terminate before.session stopped, rfl, rfl, rfl,
    fun _ prepared => (by cases prepared), fun _ => rfl⟩

/-! ## The charge loops -/

omit [EVController ρ] in
theorem stopCharging_follows {parameter : Option DCEVPowerDeliveryParameter}
    (same : world.currentState = before.currentState)
    (rows : ∀ req : PowerDeliveryReq, req.chargeProgress = .stop →
      Row answers schedules before.currentState.own response before.session
        (.to { world.session with chargingSessionStopV2 := some .terminate } .powerDelivery
          (.powerDeliveryReq req))) :
    Follows answers schedules response before (stopCharging parameter) world := by
  unfold stopCharging
  apply ensures_get_bind
  apply requestPowerDelivery_bind
  intro header req stops
  unfold Establishes Ensures
  rw [wp_updateSession, same]
  exact ⟨_, rows req stops, Turn.leads_to rfl rfl⟩

/-- The loop goes on, or charging is stopped. -/
theorem follows_continueCharging {next : Bool → Program ρ PUnit}
    (holds : ∀ continues calls controller,
      Follows answers schedules response before (next continues)
        { world with calls := calls, controller := controller }) :
    Follows answers schedules response before (continueCharging >>= next) world := by
  unfold continueCharging
  rw [bind_assoc]
  apply establishes_ask_bind
  intro continues controller
  cases continues with
  | false =>
      rw [if_neg Bool.false_ne_true, pure_bind]
      exact holds _ _ _
  | true =>
      rw [if_pos rfl, bind_assoc]
      unfold Establishes Ensures
      rw [wp_bind, wp_tryCatch, wp_ask]
      apply wp_of_forall
      · intro _ controller'
        rw [pure_bind]
        exact holds true _ _
      · intro _ controller'
        rw [wp_pure, pure_bind]
        exact holds true _ _

theorem ChargingStatus.onChargingStatusRes_follows
    (own : before.currentState.own = .chargingStatus) (evseId : String) (tupleId : Nat)
    (acEvseStatus : ACEVSEStatus) (maxCurrent : Option PhysicalValue)
    (meterInfo : Option MeterInfo) (receiptRequired : Option Bool) :
    Follows answers schedules
      (.chargingStatusRes evseId tupleId acEvseStatus maxCurrent meterInfo receiptRequired) before
      (onChargingStatusRes answers acEvseStatus meterInfo receiptRequired) before := by
  have stops : ∀ reached : World ρ, reached.session = before.session →
      reached.currentState = before.currentState →
      Follows answers schedules
        (.chargingStatusRes evseId tupleId acEvseStatus maxCurrent meterInfo receiptRequired)
        before (stopCharging : Program ρ PUnit) reached := by
    intro reached session currentState
    apply stopCharging_follows currentState
    intro req stops
    rw [own, session]
    exact .acStop evseId tupleId acEvseStatus maxCurrent meterInfo receiptRequired before.session
      req stops
  unfold onChargingStatusRes
  apply ensures_get_bind
  split
  · unfold receipt
    apply ensures_get_bind
    apply ensures_ofExcept_bind
    · exact fun _ _ => trivial
    intro req _
    apply follows_signed rfl
    · rw [own]
      exact .noReceipt evseId tupleId acEvseStatus maxCurrent meterInfo receiptRequired
        before.session
    · rw [own]
      exact .receipt evseId tupleId acEvseStatus maxCurrent meterInfo receiptRequired
        before.session req
  · split
    · apply renegotiate_follows rfl
      intro req renegotiates
      rw [own]
      exact .acRenegotiate evseId tupleId acEvseStatus maxCurrent meterInfo receiptRequired
        before.session req renegotiates
    · exact stops before rfl rfl
    · apply follows_continueCharging
      intro continues calls controller
      cases continues with
      | true =>
          apply follows_createNextMessage
          · rfl
          · rw [own]
            exact .acCharge evseId tupleId acEvseStatus maxCurrent meterInfo receiptRequired
              before.session
      | false => exact stops _ rfl rfl

theorem requestPreCharge_follows (same : world.currentState = before.currentState)
    (rows : ∀ req, Row answers schedules before.currentState.own response before.session
      (.to world.session .preCharge (.preChargeReq req))) :
    Follows answers schedules response before requestPreCharge world := by
  unfold requestPreCharge buildPreChargeMessage
  simp only [bind_assoc, pure_bind]
  apply establishes_ask_bind
  intro params _
  apply establishes_ask_bind
  intro dcEvStatus _
  apply follows_createNextMessage
  · exact same
  · exact rows _

theorem CableCheck.onCableCheckRes_follows (own : before.currentState.own = .cableCheck)
    (dcEvseStatus : DCEVSEStatus) (evseProcessing : EVSEProcessing) :
    Follows answers schedules (.cableCheckRes dcEvseStatus evseProcessing) before
      (onCableCheckRes answers dcEvseStatus evseProcessing) before := by
  unfold onCableCheckRes
  split
  next finished =>
    subst finished
    apply ensures_updateSession_bind
    split
    · apply requestPreCharge_follows
      · rfl
      · intro req
        rw [own]
        exact .cableChecked dcEvseStatus before.session req
    · apply follows_stopStateMachine
      · rfl
      · rw [own]
        exact .cableUnsafe dcEvseStatus before.session
  next ongoing =>
    apply follows_elapsedTime rfl rfl
    · intro late
      rw [own]
      exact .cableCheckTimeout dcEvseStatus evseProcessing before.session ongoing late
    · intro elapsed session elapses
      apply requestCableCheck_follows
      · rfl
      · intro req
        rw [own]
        exact .repeatCableCheck dcEvseStatus evseProcessing before.session session req ongoing
          elapses

theorem PreCharge.onPreChargeRes_follows (own : before.currentState.own = .preCharge)
    (dcEvseStatus : DCEVSEStatus) (evsePresentVoltage : PhysicalValue) :
    Follows answers schedules (.preChargeRes dcEvseStatus evsePresentVoltage) before
      (onPreChargeRes answers evsePresentVoltage) before := by
  unfold onPreChargeRes
  apply establishes_ask_bind
  intro isPrecharged controller
  cases isPrecharged with
  | true =>
      rw [if_pos rfl]
      apply ensures_updateSession_bind
      apply ensures_get_bind
      apply establishes_ask_bind
      intro parameter _
      apply requestPowerDelivery_follows
      · rfl
      · intro req starts
        rw [own]
        exact .preCharged dcEvseStatus evsePresentVoltage before.session req starts
  | false =>
      rw [if_neg Bool.false_ne_true]
      apply follows_elapsedTime rfl
      · rfl
      · intro late
        rw [own]
        exact .preChargeTimeout dcEvseStatus evsePresentVoltage before.session late
      · intro elapsed session elapses
        apply requestPreCharge_follows
        · rfl
        · intro req
          rw [own]
          exact .repeatPreCharge dcEvseStatus evsePresentVoltage before.session session req
            elapses

theorem CurrentDemand.onCurrentDemandRes_follows
    (own : before.currentState.own = .currentDemand) (res : CurrentDemandRes) :
    Follows answers schedules (.currentDemandRes res) before
      (onCurrentDemandRes res.dcEvseStatus) before := by
  have stops : ∀ calls controller,
      Follows answers schedules (.currentDemandRes res) before CurrentDemand.stopCharging
        { before with calls := calls, controller := controller } := by
    intro calls controller
    unfold CurrentDemand.stopCharging
    apply establishes_ask_bind
    intro parameter _
    apply stopCharging_follows
    · rfl
    · intro req stops
      rw [own]
      exact .dcStop res before.session req stops
  unfold onCurrentDemandRes
  split
  · exact stops _ _
  · apply follows_continueCharging
    intro continues calls controller
    cases continues with
    | true =>
        apply requestCurrentDemand_follows
        · rfl
        · intro req
          rw [own]
          exact .dcCharge res before.session req
    | false => exact stops calls controller

theorem WeldingDetection.onWeldingDetectionRes_follows
    (own : before.currentState.own = .weldingDetection) (dcEvseStatus : DCEVSEStatus)
    (evsePresentVoltage : PhysicalValue) :
    Follows answers schedules (.weldingDetectionRes dcEvseStatus evsePresentVoltage) before
      (onWeldingDetectionRes answers) before := by
  have goesOn : ∀ timer : ℚ,
      Follows answers schedules (.weldingDetectionRes dcEvseStatus evsePresentVoltage) before
        (do
          let _ ← ask .getDcEvStatus EVController.getDcEvStatus
          let finished ←
            ask .weldingDetectionHasFinished EVController.weldingDetectionHasFinished
          let world ← get
          if finished then
            requestSessionStop world.session.chargingSessionStopV2
          else
            createNextMessage none .weldingDetectionReq Timeouts.weldingDetectionReq)
        { before with session := { before.session with ongoingTimer := timer } } := by
    intro timer
    apply establishes_ask_bind
    intro _ _
    apply establishes_ask_bind
    intro finished _
    apply ensures_get_bind
    cases finished with
    | true =>
        rw [if_pos rfl]
        unfold requestSessionStop
        split
        next chargingSession stops =>
          apply follows_createNextMessage
          · rfl
          · rw [own]
            exact .weldingDetected dcEvseStatus evsePresentVoltage before.session timer
              chargingSession stops
        next => trivial
    | false =>
        rw [if_neg Bool.false_ne_true]
        apply establishes_createNextMessage
        intro header
        rw [own]
        exact ⟨_, .detectOn dcEvseStatus evsePresentVoltage before.session timer, rfl, rfl, rfl,
          fun _ prepared => ⟨header, by cases prepared; rfl⟩, fun none => (by cases none)⟩
  unfold onWeldingDetectionRes withinTime Follows Establishes Ensures
  simp only [wp_bind, wp_get, wp_ite]
  split
  next runs =>
    split
    next late =>
      rw [wp_stopStateMachine, wp_pure, if_neg Bool.false_ne_true, wp_pure]
      rw [own]
      exact ⟨_, .weldingTimeout dcEvseStatus evsePresentVoltage before.session runs late, rfl,
        rfl, rfl, fun _ prepared => (by cases prepared), fun _ => rfl⟩
    next => exact goesOn before.session.ongoingTimer
  next =>
    split
    next => exact goesOn answers.now
    next => exact goesOn before.session.ongoingTimer

end Iso15118.Evcc.V2
