import Iso15118.Evcc.Din.Rows

/-!
# The DIN SPEC 70121 states of the EVCC keep to the table

One theorem for each state: what it does with the response that it expects is a row of the table,
whatever the controller answers. With them, what an iteration of the receive loop does.
-/

namespace Iso15118.Evcc.Din

open Effect Transition
open Iso15118.Shared
open Iso15118.Shared.Din
open Iso15118.Shared.V2 (DCEVSEStatus EVSEProcessing)

variable {ρ : Type} {answers : Answers}

/-! ## Rules -/

/-- The program establishes the postcondition, or raises an exception. -/
abbrev Establishes {α : Type} (program : Program ρ α) (post : α → World ρ → Prop)
    (world : World ρ) : Prop :=
  Ensures (fun _ => True) program post world

section

variable {α β : Type} {world : World ρ} {post : α → World ρ → Prop}

theorem establishes_required_bind {value : Option β} {next : β → Program ρ α}
    (holds : ∀ present, value = some present → Establishes (next present) post world) :
    Establishes (required value >>= next) post world := by
  cases value with
  | none => trivial
  | some present => exact holds present rfl

/-- Whatever the controller answers. -/
theorem establishes_ask_bind {call : Call} {method : EStateM PyError ρ β}
    {next : β → Program ρ α}
    (holds : ∀ value controller, Establishes (next value) post
      { world with calls := call :: world.calls, controller := controller }) :
    Establishes (ask call method >>= next) post world :=
  ensures_ask_eq_bind fun value controller _ => holds value controller

theorem establishes_createNextMessage_bind {nextState : Option (NextState StateName)}
    {request : Request} {timeout : ℚ} {next : PUnit → Program ρ α}
    (holds : Establishes (next ⟨⟩) post
      { world with
        currentState := world.currentState.createNextMessage nextState
          ⟨{ sessionId := world.session.sessionId }, request⟩ timeout }) :
    Establishes (createNextMessage nextState request timeout >>= next) post world := by
  unfold createNextMessage Establishes Ensures
  simp only [wp_bind, wp_modify, wp_get, wp_ofExcept, wp_prepare]
  exact ⟨fun _ _ => holds, fun _ _ => trivial⟩

end

section

variable {header : MessageHeader} {response : Response} {before world : World ρ}

/-- The program does with the response of a state what the table says. It runs where the
controller may have been asked and variables may have been assigned. -/
abbrev Follows (answers : Answers) (header : MessageHeader) (response : Response)
    (before : World ρ) (program : Program ρ PUnit) (world : World ρ) : Prop :=
  Establishes program
    (fun _ after => ∃ turn,
      Row answers header before.currentState.own response before.session turn ∧
        turn.Leads before after)
    world

/-- A request has been prepared, and what is to be done with the response to it. -/
theorem follows_createNextMessage (turn : Turn) {request : Request} {timeout : ℚ}
    (same : world.currentState = before.currentState) (requests : turn.request = some request)
    (session : turn.session = world.session)
    (row : Row answers header before.currentState.own response before.session turn) :
    Follows answers header response before
      (createNextMessage turn.nextState request timeout) world := by
  unfold Follows
  rw [← bind_pure_unit (x := createNextMessage turn.nextState request timeout)]
  apply establishes_createNextMessage_bind
  refine ⟨turn, row, session.symm, ?_, rfl, ?_⟩
  · rw [same]
    rfl
  · rw [requests, session]
    rfl

/-- A request, and the state for its response. -/
theorem follows_to {name : StateName} {request : Request} {timeout : ℚ}
    (same : world.currentState = before.currentState)
    (row : Row answers header before.currentState.own response before.session
      (.to world.session name request)) :
    Follows answers header response before
      (createNextMessage (some (.state name)) request timeout) world :=
  follows_createNextMessage (.to world.session name request) same rfl rfl row

/-- A request, the response to which is for the same object. -/
theorem follows_stay {request : Request} {timeout : ℚ}
    (same : world.currentState = before.currentState)
    (row : Row answers header before.currentState.own response before.session
      (.stay world.session request)) :
    Follows answers header response before (createNextMessage none request timeout) world :=
  follows_createNextMessage (.stay world.session request) same rfl rfl row

theorem follows_stopStateMachine (same : world.currentState = before.currentState)
    (row : Row answers header before.currentState.own response before.session
      (.stop world.session)) :
    Follows answers header response before (stopStateMachine Session.stopped) world := by
  unfold Follows Establishes Ensures
  rw [wp_stopStateMachine, same]
  exact ⟨_, row, rfl, rfl, rfl, rfl⟩

/-- The phase goes on in time, or the state machine is stopped. -/
theorem follows_withinTime {runs stands : ℚ → Bool} {timeout : ℚ}
    {next : Bool → Program ρ PUnit} (ignored : next false = pure ⟨⟩)
    (same : world.currentState = before.currentState)
    (stops : TimedOut runs timeout answers world.session →
      Row answers header before.currentState.own response before.session (.stop world.session))
    (goesOn : ¬TimedOut runs timeout answers world.session →
      Follows answers header response before (next true)
        { world with session := elapsed runs stands answers world.session }) :
    Follows answers header response before
      (withinTime runs stands timeout answers >>= next) world := by
  unfold withinTime Follows Establishes Ensures
  simp only [wp_bind, wp_get, wp_ite]
  unfold elapsed at goesOn
  split
  next runs =>
    rw [if_neg (by simp [runs])] at goesOn
    split
    next late =>
      rw [wp_stopStateMachine, wp_pure, ignored, wp_pure, same]
      exact ⟨_, stops ⟨runs, late⟩, rfl, rfl, rfl, rfl⟩
    next within => exact goesOn fun late => within late.2
  next stopped =>
    have goesOn := goesOn fun late => stopped late.1
    rw [Bool.not_eq_true] at stopped
    split
    next stands =>
      rw [if_pos ⟨stopped, stands⟩] at goesOn
      exact goesOn
    next =>
      rw [if_neg (by simp_all)] at goesOn
      exact goesOn

end

variable [EVController ρ] {header : MessageHeader} {before : World ρ}

/-! ## Setup and services -/

omit [EVController ρ] in
theorem SessionSetup.onSessionSetupRes_follows (own : before.currentState.own = .sessionSetup)
    (evseId : String) :
    Follows answers header (.sessionSetupRes evseId) before
      (SessionSetup.onSessionSetupRes header.sessionId evseId) before := by
  unfold SessionSetup.onSessionSetupRes
  apply ensures_updateSession_bind
  apply ensures_updateSession_bind
  apply follows_to
  · rfl
  · rw [own]
    exact .sessionSetup evseId before.session

theorem ServiceDiscovery.selectEnergyTransferMode_spec {world : World ρ} :
    Establishes selectEnergyTransferMode
      (fun _ after => after.currentState = world.currentState ∧ ∃ energyMode,
        after.session = { world.session with
          selectedEnergyMode := some energyMode
          resumeRequestedEnergyMode := none }) world := by
  unfold selectEnergyTransferMode
  apply ensures_get_bind
  cases resumes : world.session.resumeRequestedEnergyMode with
  | some energyMode => exact ⟨rfl, energyMode, rfl⟩
  | none =>
      apply establishes_ask_bind
      intro energyMode controller
      exact ⟨rfl, energyMode, by rw [← resumes]⟩

theorem ServiceDiscovery.onServiceDiscoveryRes_follows
    (own : before.currentState.own = .serviceDiscovery) (res : ServiceDiscoveryRes) :
    Follows answers header (.serviceDiscoveryRes res) before (onServiceDiscoveryRes res)
      before := by
  unfold onServiceDiscoveryRes selectAuthMode selectServices
  apply ensures_updateSession_bind
  apply ensures_updateSession_bind
  apply ensures_bind selectEnergyTransferMode_spec
  rintro _ reached ⟨currentState, energyMode, session⟩
  have same : reached.currentState = before.currentState := currentState
  have discovers : Discovered before.session reached.session := ⟨_, _, energyMode, session⟩
  have stops : Follows answers header (.serviceDiscoveryRes res) before
      (stopStateMachine Session.stopped) reached := by
    apply follows_stopStateMachine same
    rw [own]
    exact .notOffered res before.session reached.session discovers
  apply ensures_get_bind
  cases reached.session.selectedAuthOption with
  | none => exact stops
  | some authOption =>
      dsimp only
      split
      · apply ensures_ofExcept_bind
        · exact fun _ _ => trivial
        intro req _
        apply follows_to same
        rw [own]
        exact .serviceDiscovery res before.session reached.session req discovers
      · exact stops

omit [EVController ρ] in
theorem ServicePaymentSelection.onServicePaymentSelectionRes_follows
    (own : before.currentState.own = .servicePaymentSelection) :
    Follows answers header .servicePaymentSelectionRes before onServicePaymentSelectionRes
      before := by
  apply follows_to
  · rfl
  · rw [own]
    exact .servicePaymentSelection before.session

/-! ## Authorization and charge parameters -/

/-- The charge parameters are asked for, in one order or the other. -/
theorem ContractAuthentication.establishes_build_bind {α : Type} {world : World ρ}
    {next : ChargeParameterDiscoveryReq → Program ρ α} {post : α → World ρ → Prop}
    (holds : ∀ req calls controller, Establishes (next req) post
      { world with calls := calls, controller := controller }) :
    Establishes (buildChargeParameterDiscoveryReq >>= next) post world := by
  unfold buildChargeParameterDiscoveryReq
  simp only [bind_assoc]
  apply establishes_ask_bind
  intro dcEvStatus _
  apply establishes_ask_bind
  intro params _
  apply establishes_ask_bind
  intro energyMode _
  apply ensures_ofExcept_bind
  · exact fun _ _ => trivial
  intro req _
  exact holds req _ _

theorem ChargeParameterDiscovery.establishes_build_bind {α : Type} {world : World ρ}
    {next : ChargeParameterDiscoveryReq → Program ρ α} {post : α → World ρ → Prop}
    (holds : ∀ req calls controller, Establishes (next req) post
      { world with calls := calls, controller := controller }) :
    Establishes (buildChargeParameterDiscoveryReq >>= next) post world := by
  unfold buildChargeParameterDiscoveryReq
  simp only [bind_assoc]
  apply establishes_ask_bind
  intro params _
  apply establishes_ask_bind
  intro dcEvStatus _
  apply establishes_ask_bind
  intro energyMode _
  apply ensures_ofExcept_bind
  · exact fun _ _ => trivial
  intro req _
  exact holds req _ _

theorem ContractAuthentication.onContractAuthenticationRes_follows
    (own : before.currentState.own = .contractAuthentication) (evseProcessing : EVSEProcessing) :
    Follows answers header (.contractAuthenticationRes evseProcessing) before
      (onContractAuthenticationRes answers evseProcessing) before := by
  unfold onContractAuthenticationRes
  apply follows_withinTime rfl
  · rfl
  · intro late
    rw [own]
    exact .authenticationTimeout evseProcessing before.session late
  intro within
  rw [if_pos rfl]
  split
  next finished =>
    subst finished
    apply ContractAuthentication.establishes_build_bind
    intro req _ _
    apply follows_to
    · rfl
    · rw [own]
      exact .authenticated before.session req within
  next ongoing =>
    apply follows_stay
    · rfl
    · rw [own]
      exact .repeatAuthentication evseProcessing before.session ongoing within

theorem ChargeParameterDiscovery.chooseSchedule_follows
    (own : before.currentState.own = .chargeParameterDiscovery)
    (res : ChargeParameterDiscoveryRes) (finished : res.evseProcessing = .finished) :
    Follows answers header (.chargeParameterDiscoveryRes res) before
      (chooseSchedule res.saScheduleList) before := by
  unfold chooseSchedule resetOngoingTimer buildCableCheckReq
  apply ensures_updateSession_bind
  apply establishes_required_bind
  intro schedules _
  apply establishes_ask_bind
  intro scheduleId _
  simp only [bind_assoc, pure_bind]
  apply establishes_ask_bind
  intro dcEvStatus _
  apply establishes_createNextMessage_bind
  apply ensures_updateSession_bind
  unfold Ensures
  rw [wp_ask]
  apply wp_of_forall _ (fun _ _ => trivial)
  intro _ controller
  refine ⟨.to { before.session with ongoingTimer := -1, selectedSchedule := some scheduleId }
    .cableCheck (.cableCheckReq ⟨dcEvStatus⟩), ?_, rfl, rfl, rfl, rfl⟩
  rw [own]
  exact .schedule res before.session ⟨dcEvStatus⟩ scheduleId finished

theorem ChargeParameterDiscovery.onChargeParameterDiscoveryRes_follows
    (own : before.currentState.own = .chargeParameterDiscovery)
    (res : ChargeParameterDiscoveryRes) :
    Follows answers header (.chargeParameterDiscoveryRes res) before
      (onChargeParameterDiscoveryRes answers res) before := by
  unfold onChargeParameterDiscoveryRes
  split
  next finished => exact chooseSchedule_follows own res finished
  next ongoing =>
    apply follows_withinTime rfl
    · rfl
    · intro late
      rw [own]
      exact .chargeParametersTimeout res before.session ongoing late
    intro within
    rw [if_pos rfl]
    apply ChargeParameterDiscovery.establishes_build_bind
    intro req _ _
    apply follows_stay
    · rfl
    · rw [own]
      exact .repeatChargeParameters res before.session req ongoing within

/-! ## Cable check and pre-charge -/

theorem establishes_buildPreChargeReq_bind {α : Type} {world : World ρ}
    {next : PreChargeReq → Program ρ α} {post : α → World ρ → Prop}
    (holds : ∀ req calls controller, Establishes (next req) post
      { world with calls := calls, controller := controller }) :
    Establishes (buildPreChargeReq >>= next) post world := by
  unfold buildPreChargeReq
  simp only [bind_assoc, pure_bind]
  apply establishes_ask_bind
  intro params _
  apply establishes_ask_bind
  intro dcEvStatus _
  exact holds _ _ _

theorem CableCheck.onCableCheckRes_follows (own : before.currentState.own = .cableCheck)
    (dcEvseStatus : DCEVSEStatus) (evseProcessing : EVSEProcessing) :
    Follows answers header (.cableCheckRes dcEvseStatus evseProcessing) before
      (onCableCheckRes answers dcEvseStatus evseProcessing) before := by
  unfold onCableCheckRes resetOngoingTimer
  split
  next finished =>
    subst finished
    apply ensures_updateSession_bind
    apply establishes_buildPreChargeReq_bind
    intro req _ _
    split
    · apply follows_to
      · rfl
      · rw [own]
        exact .cableChecked dcEvseStatus before.session req
    · apply follows_stopStateMachine
      · rfl
      · rw [own]
        exact .cableUnsafe dcEvseStatus before.session
  next ongoing =>
    apply follows_withinTime rfl
    · rfl
    · intro late
      rw [own]
      exact .cableCheckTimeout dcEvseStatus evseProcessing before.session ongoing late
    intro within
    rw [if_pos rfl]
    unfold buildCableCheckReq
    simp only [bind_assoc, pure_bind]
    apply establishes_ask_bind
    intro dcEvStatus _
    apply follows_stay
    · rfl
    · rw [own]
      exact .repeatCableCheck dcEvseStatus evseProcessing before.session ⟨dcEvStatus⟩ ongoing within

theorem establishes_buildPowerDeliveryReq_bind {α : Type} {world : World ρ}
    {readyToCharge : Bool} {next : PowerDeliveryReq → Program ρ α}
    {post : α → World ρ → Prop}
    (holds : ∀ req calls controller, req.readyToCharge = readyToCharge →
      Establishes (next req) post { world with calls := calls, controller := controller }) :
    Establishes (buildPowerDeliveryReq readyToCharge >>= next) post world := by
  unfold buildPowerDeliveryReq
  simp only [bind_assoc, pure_bind]
  apply establishes_ask_bind
  intro parameter _
  exact holds _ _ _ rfl

theorem PreCharge.onPreChargeRes_follows (own : before.currentState.own = .preCharge)
    (dcEvseStatus : DCEVSEStatus) (evsePresentVoltage : PhysicalValue) :
    Follows answers header (.preChargeRes dcEvseStatus evsePresentVoltage) before
      (onPreChargeRes answers evsePresentVoltage) before := by
  unfold onPreChargeRes resetOngoingTimer
  apply establishes_ask_bind
  intro isPrecharged _
  split
  · apply ensures_updateSession_bind
    apply establishes_buildPowerDeliveryReq_bind
    intro req _ _ ready
    apply follows_to
    · rfl
    · rw [own]
      exact .preCharged dcEvseStatus evsePresentVoltage before.session req ready
  · apply follows_withinTime rfl
    · rfl
    · intro late
      rw [own]
      exact .preChargeTimeout dcEvseStatus evsePresentVoltage before.session late
    intro within
    rw [if_pos rfl]
    apply establishes_buildPreChargeReq_bind
    intro req _ _
    apply follows_stay
    · rfl
    · rw [own]
      exact .repeatPreCharge dcEvseStatus evsePresentVoltage before.session req within

/-! ## Charging -/

theorem establishes_buildCurrentDemandReq_bind {α : Type} {world : World ρ}
    {next : CurrentDemandReq → Program ρ α} {post : α → World ρ → Prop}
    (holds : ∀ req calls controller, Establishes (next req) post
      { world with calls := calls, controller := controller }) :
    Establishes (buildCurrentDemandReq >>= next) post world := by
  unfold buildCurrentDemandReq
  simp only [bind_assoc, pure_bind]
  apply establishes_ask_bind
  intro params _
  apply establishes_ask_bind
  intro dcEvStatus _
  apply establishes_ask_bind
  intro _ _
  apply establishes_ask_bind
  intro chargingComplete _
  apply establishes_ask_bind
  intro fullSoc _
  apply establishes_ask_bind
  intro bulkSoc _
  exact holds _ _ _

theorem PowerDelivery.onPowerDeliveryRes_follows
    (own : before.currentState.own = .powerDelivery) (dcEvseStatus : DCEVSEStatus) :
    Follows answers header (.powerDeliveryRes dcEvseStatus) before onPowerDeliveryRes before := by
  unfold onPowerDeliveryRes
  apply establishes_ask_bind
  intro continues _
  split
  · apply establishes_buildCurrentDemandReq_bind
    intro req _ _
    apply follows_to
    · rfl
    · rw [own]
      exact .charge dcEvseStatus before.session req
  · apply establishes_ask_bind
    intro _ _
    apply establishes_ask_bind
    intro _ _
    apply follows_to
    · rfl
    · rw [own]
      exact .detectWelding dcEvseStatus before.session

theorem CurrentDemand.stopCharging_follows {world : World ρ}
    (own : before.currentState.own = .currentDemand) (res : CurrentDemandRes)
    (same : world.currentState = before.currentState) (session : world.session = before.session) :
    Follows answers header (.currentDemandRes res) before stopCharging world := by
  unfold stopCharging
  apply establishes_ask_bind
  intro _ _
  apply establishes_buildPowerDeliveryReq_bind
  intro req _ _ stops
  apply follows_to
  · exact same
  · rw [own]
    dsimp only
    rw [session]
    exact .stopCharging res before.session req stops

/-- Whether the delay fails or not. -/
theorem CurrentDemand.chargeLoopDelay_spec {world : World ρ} :
    Establishes (tryCatch (ask .chargeLoopDelay EVController.chargeLoopDelay) fun _ => pure ⟨⟩)
      (fun _ after => after.currentState = world.currentState ∧ after.session = world.session)
      world := by
  unfold Establishes Ensures
  rw [wp_tryCatch, wp_ask]
  apply wp_of_forall
  · exact fun _ _ => ⟨rfl, rfl⟩
  · exact fun _ _ => ⟨rfl, rfl⟩

theorem CurrentDemand.onCurrentDemandRes_follows
    (own : before.currentState.own = .currentDemand) (res : CurrentDemandRes) :
    Follows answers header (.currentDemandRes res) before (onCurrentDemandRes res.dcEvseStatus)
      before := by
  unfold onCurrentDemandRes
  split
  · exact stopCharging_follows own res rfl rfl
  · apply establishes_ask_bind
    intro continues _
    split
    · apply ensures_bind chargeLoopDelay_spec
      rintro _ reached ⟨same, session⟩
      apply establishes_buildCurrentDemandReq_bind
      intro req _ _
      apply follows_stay
      · exact same
      · rw [own]
        dsimp only
        rw [session]
        exact .repeatCurrentDemand res before.session req
    · exact stopCharging_follows own res rfl rfl

/-! ## The end -/

theorem WeldingDetection.onWeldingDetectionRes_follows
    (own : before.currentState.own = .weldingDetection) (dcEvseStatus : DCEVSEStatus)
    (evsePresentVoltage : PhysicalValue) :
    Follows answers header (.weldingDetectionRes dcEvseStatus evsePresentVoltage) before
      (onWeldingDetectionRes answers) before := by
  unfold onWeldingDetectionRes
  apply follows_withinTime rfl
  · rfl
  · intro late
    rw [own]
    exact .weldingTimeout dcEvseStatus evsePresentVoltage before.session late
  intro within
  rw [if_pos rfl]
  apply establishes_ask_bind
  intro _ _
  apply establishes_ask_bind
  intro finished _
  split
  · apply follows_to
    · rfl
    · rw [own]
      exact .weldingDetected dcEvseStatus evsePresentVoltage before.session within
  · apply follows_stay
    · rfl
    · rw [own]
      exact .detectOn dcEvseStatus evsePresentVoltage before.session within

omit [EVController ρ] in
theorem SessionStop.onSessionStopRes_follows (own : before.currentState.own = .sessionStop) :
    Follows answers header .sessionStopRes before onSessionStopRes before := by
  unfold onSessionStopRes
  apply ensures_updateSession_bind
  unfold Ensures
  rw [wp_setNextState, own]
  exact ⟨_, .terminate before.session, rfl, rfl, rfl, rfl⟩

/-! ## The current state -/

omit [EVController ρ] in
/-- What a state does behind its check. -/
theorem checked_reacts {α : Type} {message : V2GMessage} {expected : ResponseMessage → Option α}
    {next : Option α → Program ρ PUnit}
    (expects : ∀ res,
      Expects before.currentState.own res.response ↔ (expected res).isSome = true)
    (ignored : next none = pure ⟨⟩)
    (follows : ∀ res value, expected res = some value →
      Follows answers res.header res.response before (next (some value)) before) :
    Establishes (checkMsg message expected >>= next)
      (fun _ after => Reacts answers message before after) before := by
  have stops : (¬∃ res, message = .response res ∧
      Accepts before.currentState.own res before.session) →
      Establishes (stopStateMachine Session.stopped)
        (fun _ after => Reacts answers message before after) before :=
    fun refused => .refuses refused rfl rfl
  cases message with
  | request req =>
      unfold checkMsg Establishes Ensures wp
      simp only [bind_assoc, pure_bind, ignored, bind_pure_unit]
      exact stops (by simp)
  | empty header =>
      unfold checkMsg Establishes Ensures wp
      simp only [bind_assoc, pure_bind, ignored, bind_pure_unit]
      exact stops (by simp)
  | response res =>
      unfold checkMsg Establishes Ensures wp
      dsimp only
      rw [bind_checkMsg ignored]
      cases known : expected res with
      | none =>
          apply stops
          rintro ⟨_, same, accepts⟩
          cases same
          have some := (expects _).mp accepts.expected
          rw [known] at some
          cases some
      | some value =>
          dsimp only
          by_cases passes : res.responseCode.isFailed = false ∧ Known res before.session
          · rw [if_pos passes]
            have accepts : Accepts before.currentState.own res before.session :=
              ⟨passes.1, passes.2, (expects res).mpr (by rw [known]; rfl)⟩
            apply wp_mono _ (fun _ _ failed => failed) (follows res value known)
            rintro _ after ⟨turn, row, leads⟩
            exact .answers res turn rfl accepts row leads
          · rw [if_neg passes]
            apply stops
            rintro ⟨_, same, accepts⟩
            cases same
            exact passes ⟨accepts.good, accepts.known⟩

/-- What the current state does with a message, whatever the controller answers. -/
theorem processMessage_reacts (message : V2GMessage) :
    Establishes (processMessage answers message : Program ρ PUnit)
      (fun _ after => Reacts answers message before after) before := by
  unfold processMessage
  apply ensures_get_bind
  cases own : before.currentState.own with
  | sessionSetup =>
      apply checked_reacts _ rfl
      · intro res value known
        split at known
        next evseId response =>
          rw [response]
          cases known
          exact SessionSetup.onSessionSetupRes_follows own evseId
        · cases known
      · intro res
        rw [own]
        cases res.response <;> simp [Expects]
  | serviceDiscovery =>
      apply checked_reacts _ rfl
      · intro res value known
        split at known
        next res response =>
          rw [response]
          cases known
          exact ServiceDiscovery.onServiceDiscoveryRes_follows own _
        · cases known
      · intro res
        rw [own]
        cases res.response <;> simp [Expects]
  | servicePaymentSelection =>
      apply checked_reacts _ rfl
      · intro res value known
        split at known
        next response =>
          rw [response]
          exact ServicePaymentSelection.onServicePaymentSelectionRes_follows own
        · cases known
      · intro res
        rw [own]
        cases res.response <;> simp [Expects]
  | contractAuthentication =>
      apply checked_reacts _ rfl
      · intro res value known
        split at known
        next evseProcessing response =>
          rw [response]
          cases known
          exact ContractAuthentication.onContractAuthenticationRes_follows own _
        · cases known
      · intro res
        rw [own]
        cases res.response <;> simp [Expects]
  | chargeParameterDiscovery =>
      apply checked_reacts _ rfl
      · intro res value known
        split at known
        next res response =>
          rw [response]
          cases known
          exact ChargeParameterDiscovery.onChargeParameterDiscoveryRes_follows own _
        · cases known
      · intro res
        rw [own]
        cases res.response <;> simp [Expects]
  | cableCheck =>
      apply checked_reacts _ rfl
      · intro res value known
        split at known
        next dcEvseStatus evseProcessing response =>
          rw [response]
          cases known
          exact CableCheck.onCableCheckRes_follows own dcEvseStatus evseProcessing
        · cases known
      · intro res
        rw [own]
        cases res.response <;> simp [Expects]
  | preCharge =>
      apply checked_reacts _ rfl
      · intro res value known
        split at known
        next dcEvseStatus evsePresentVoltage response =>
          rw [response]
          cases known
          exact PreCharge.onPreChargeRes_follows own dcEvseStatus _
        · cases known
      · intro res
        rw [own]
        cases res.response <;> simp [Expects]
  | powerDelivery =>
      apply checked_reacts _ rfl
      · intro res value known
        split at known
        next dcEvseStatus response =>
          rw [response]
          exact PowerDelivery.onPowerDeliveryRes_follows own dcEvseStatus
        · cases known
      · intro res
        rw [own]
        cases res.response <;> simp [Expects]
  | currentDemand =>
      apply checked_reacts _ rfl
      · intro res value known
        split at known
        next res response =>
          rw [response]
          cases known
          exact CurrentDemand.onCurrentDemandRes_follows own res
        · cases known
      · intro res
        rw [own]
        cases res.response <;> simp [Expects]
  | weldingDetection =>
      apply checked_reacts _ rfl
      · intro res value known
        split at known
        next dcEvseStatus evsePresentVoltage response =>
          rw [response]
          exact WeldingDetection.onWeldingDetectionRes_follows own dcEvseStatus
            evsePresentVoltage
        · cases known
      · intro res
        rw [own]
        cases res.response <;> simp [Expects]
  | sessionStop =>
      apply checked_reacts _ rfl
      · intro res value known
        split at known
        next response =>
          rw [response]
          exact SessionStop.onSessionStopRes_follows own
        · cases known
      · intro res
        rw [own]
        cases res.response <;> simp [Expects]

/-! ## Steps of the receive loop -/

/-- The EVCC's side of a session. -/
abbrev EVCCSession (ρ : Type) := CommSession RequestMessage (World ρ)

/-- What an iteration does with a message before it sends anything. -/
theorem machine_reacts (received : Received V2GMessage Answers) :
    Establishes ((machine ρ).processMessage received)
      (fun _ after => Reacts received.answers received.message before after) before := by
  have reacts : Establishes (processMessage received.answers received.message)
      (fun _ after => Reacts received.answers received.message { before with calls := [] } after)
      { before with calls := [] } :=
    processMessage_reacts received.message
  apply wp_mono _ (fun _ _ failed => failed) reacts
  rintro _ after (⟨res, turn, response, accepts, row, leads⟩ | ⟨refused, session, currentState⟩)
  · exact .answers res turn response accepts row
      ⟨leads.session, leads.own, leads.nextState, leads.message⟩
  · exact .refuses refused session currentState

/-- After an iteration the loop goes on in the state that has processed the message, or in a
new one. -/
structure GoesOnTo (before : EVCCSession ρ) (after : World ρ) (next : EVCCSession ρ) : Prop where
  sends : ∃ message, after.currentState.nextV2gtpMsg = some message ∧
    next.sent = message :: before.sent
  leads : after.currentState.nextState = none ∧ next.world = after ∨
    ∃ name, after.currentState.nextState = some (.state name) ∧
      next.world = { after with currentState := { own := name } }

omit [EVController ρ] in
theorem GoesOnTo.session {before next : EVCCSession ρ} {after : World ρ}
    (goesOn : GoesOnTo before after next) : next.world.session = after.session := by
  obtain ⟨_, same⟩ | ⟨_, _, same⟩ := goesOn.leads
  · rw [same]
  · rw [same]

/-- What a step has done if the loop goes on. -/
theorem Step.reacts {session next : EVCCSession ρ} {input : Option (Received V2GMessage Answers)}
    (step : (machine ρ).Step session input next) (goesOn : next.ended = false) :
    ∃ received after, input = some received ∧
      Reacts received.answers received.message session.world after ∧
      GoesOnTo session after next := by
  obtain ⟨received, after, informed, message, input, processed, prepared, updated, sent, leads⟩ :=
    step.continues goesOn
  cases updated
  have reacts := post_of_eq_ok (machine_reacts received) processed
  exact ⟨received, after, input, reacts, ⟨message, prepared, sent⟩, leads⟩

namespace Sample

/-- A vehicle that is asked what it needs, and nothing else. -/
structure Vehicle where

instance : EVController Vehicle where
  getEnergyTransferMode := pure .dcExtended
  getDcEvStatusDinspec := throw .notImplementedError
  getDcChargeParams := throw .notImplementedError
  processSaSchedulesDinspec _ := throw .notImplementedError
  enableCharging _ := throw .notImplementedError
  isPrecharged _ := throw .notImplementedError
  getDcEvPowerDeliveryParameter := throw .notImplementedError
  continueCharging := throw .notImplementedError
  chargeLoopDelay := throw .notImplementedError
  stopCharging := throw .notImplementedError
  isBulkChargingComplete := throw .notImplementedError
  isChargingComplete := throw .notImplementedError
  getRemainingTimeToFullSoc := throw .notImplementedError
  getRemainingTimeToBulkSoc := throw .notImplementedError
  weldingDetectionHasFinished := throw .notImplementedError

def start : EVCCSession Vehicle where
  world :=
    { session := {}
      controller := ⟨⟩
      currentState := { own := .sessionSetup }
      calls := [] }

/-- A response of the session, received at the time zero. -/
def response (response : Response) : Option (Received V2GMessage Answers) :=
  some ⟨.response ⟨{ sessionId := "10" }, .ok, response⟩, { now := 0 }⟩

/-- A session in which the EV waits for its authorization. -/
def authenticationHistory : List (Option (Received V2GMessage Answers)) :=
  [response (.contractAuthenticationRes .ongoing),
    response .servicePaymentSelectionRes,
    response (.serviceDiscoveryRes ⟨[.eim], false, .dcExtended⟩),
    response (.sessionSetupRes "evse")]

end Sample

end Iso15118.Evcc.Din
