import Iso15118.Evcc.V2.Rows

/-!
# The states before charging keep to the table

One theorem for each state: what it does with the response that it expects is a row of the table,
whatever the controller answers.
-/

namespace Iso15118.Evcc.V2

open Effect
open Iso15118.Shared
open Iso15118.Shared.V2

variable {ρ : Type} {answers : Answers}

/-! ## Rules -/

/-- The program establishes the postcondition, or raises an exception. -/
abbrev Establishes {α : Type} (program : Program ρ α) (post : α → World ρ → Prop)
    (world : World ρ) : Prop :=
  Ensures (fun _ => True) program post world

section

variable {α β : Type} {world : World ρ} {post : α → World ρ → Prop}

theorem establishes_required_bind {value : Option β} {next : β → Program ρ α}
    (holds : ∀ present, value = some present → Establishes (next present) post world) :
    Establishes (required value >>= next) post world := by
  cases value with
  | none => trivial
  | some present => exact holds present rfl

/-- Whatever the controller answers. -/
theorem establishes_ask_bind {call : Call} {method : EStateM PyError ρ β}
    {next : β → Program ρ α}
    (holds : ∀ value controller, Establishes (next value) post
      { world with calls := call :: world.calls, controller := controller }) :
    Establishes (ask call method >>= next) post world :=
  ensures_ask_eq_bind fun value controller _ => holds value controller

theorem establishes_createNextMessage_bind {nextState : Option (NextState StateName)}
    {request : Request} {timeout : ℚ} {signature : Option Signature}
    {next : PUnit → Program ρ α}
    (holds : ∀ header, Establishes (next ⟨⟩) post
      { world with
        currentState :=
          world.currentState.createNextMessage nextState ⟨header, request⟩ timeout }) :
    Establishes (createNextMessage nextState request timeout signature >>= next) post world := by
  unfold createNextMessage setNext Establishes Ensures
  simp only [wp_bind, wp_modify, wp_get, wp_ofExcept, wp_prepare]
  exact ⟨fun _ _ => holds _, fun _ _ => trivial⟩

end

section

variable {world : World ρ} {post : PUnit → World ρ → Prop}

theorem establishes_createNextMessage {nextState : Option (NextState StateName)}
    {request : Request} {timeout : ℚ} {signature : Option Signature}
    (holds : ∀ header, post ⟨⟩
      { world with
        currentState :=
          world.currentState.createNextMessage nextState ⟨header, request⟩ timeout }) :
    Establishes (createNextMessage nextState request timeout signature) post world := by
  rw [← bind_pure_unit (x := createNextMessage nextState request timeout signature)]
  exact establishes_createNextMessage_bind holds

end

/-! ## One state after the other -/

section

variable {schedules : Schedules} {response : Response} {before world : World ρ}

/-- The program does with the response of a state what the table says. It runs where the
controller may have been asked and variables may have been assigned. -/
abbrev Follows (answers : Answers) (schedules : Schedules) (response : Response)
    (before : World ρ) (program : Program ρ PUnit) (world : World ρ) : Prop :=
  Establishes program
    (fun _ after => ∃ turn,
      Row answers schedules before.currentState.own response before.session turn ∧
        turn.Leads before after)
    world

/-- A request has been prepared, and the next state with it. -/
theorem Turn.leads_to {after : World ρ} {name : StateName} {header : MessageHeader}
    {request : Request} {timeout : ℚ} {session : Session} (same : after.session = session)
    (created : after.currentState = before.currentState.createNextMessage (some (.state name))
      ⟨header, request⟩ timeout) :
    (Turn.to session name request).Leads before after where
  session := same
  own := by
    rw [created]
    rfl
  nextState := by
    rw [created]
    rfl
  prepares := by
    intro request' prepared
    cases prepared
    exact ⟨header, by rw [created]; rfl⟩
  silent := nofun

theorem follows_createNextMessage {name : StateName} {request : Request} {timeout : ℚ}
    {signature : Option Signature} (same : world.currentState = before.currentState)
    (row : Row answers schedules before.currentState.own response before.session
      (.to world.session name request)) :
    Follows answers schedules response before
      (createNextMessage (some (.state name)) request timeout signature) world := by
  apply establishes_createNextMessage
  intro header
  rw [same]
  exact ⟨_, row, Turn.leads_to rfl rfl⟩

theorem follows_stopStateMachine (same : world.currentState = before.currentState)
    (row : Row answers schedules before.currentState.own response before.session
      (.stop world.session)) :
    Follows answers schedules response before (stopStateMachine Session.stopped) world := by
  unfold Follows Establishes Ensures
  rw [wp_stopStateMachine, same]
  exact ⟨_, row, rfl, rfl, rfl, fun _ prepared => (by cases prepared), fun _ => rfl⟩

/-- What is signed is sent. Without a key, the state machine is stopped. -/
theorem follows_signed {signature : Except PyError Signature} {name : StateName}
    {request : Request} {timeout : ℚ} (same : world.currentState = before.currentState)
    (stops : Row answers schedules before.currentState.own response before.session
      (.stop world.session))
    (sends : Row answers schedules before.currentState.own response before.session
      (.to world.session name request)) :
    Follows answers schedules response before
      (signed signature fun signature =>
        createNextMessage (some (.state name)) request timeout (some signature)) world := by
  unfold Follows Establishes Ensures signed
  rw [wp_tryCatch, wp_bind, wp_ofExcept]
  constructor
  · intro signature _
    unfold createNextMessage setNext
    simp only [wp_bind, wp_modify, wp_get, wp_ofExcept, wp_prepare, same]
    constructor
    · intro _ _
      exact ⟨_, sends, Turn.leads_to rfl rfl⟩
    · intro exception invalid
      -- the header raises nothing but a validation error, which is not caught
      rw [checkSessionId_eq] at invalid
      split at invalid
      · cases invalid
      · cases invalid
        trivial
  · intro exception _
    rw [wp_ite]
    split
    · have stopped : Follows answers schedules response before
          (stopStateMachine Session.stopped) world := follows_stopStateMachine same stops
      exact stopped
    · trivial

variable [EVController ρ]

/-- The schedules that the controller would answer with a progress. -/
def schedulesOf (controller : ρ) : Schedules := fun tuples progress =>
  ∃ scheduleId profile after,
    EVController.processSaSchedulesV2 tuples controller = .ok (progress, scheduleId, profile) after

/-! ### Setup and services -/

omit [EVController ρ] in
theorem SessionSetup.onSessionSetupRes_follows (own : before.currentState.own = .sessionSetup)
    (evseId sessionId : String) :
    Follows answers schedules (.sessionSetupRes evseId) before
      (SessionSetup.onSessionSetupRes sessionId) before := by
  unfold SessionSetup.onSessionSetupRes
  apply ensures_updateSession_bind
  apply follows_createNextMessage
  · rfl
  · rw [own]
    exact .sessionSetup evseId sessionId before.session

omit [EVController ρ] in
theorem ServiceDiscovery.selectAuthMode_spec (authOptions : List AuthEnum) :
    Establishes (selectAuthMode authOptions)
      (fun _ after => after.currentState = world.currentState ∧ ∃ authOption,
        after.session = { world.session with
          selectedAuthOption := authOption
          resumeSelectedAuthOption := none }) world := by
  unfold selectAuthMode Establishes Ensures
  rw [wp_updateSession]
  refine ⟨rfl, ?_⟩
  dsimp only
  split
  next authOption _ => exact ⟨some authOption, rfl⟩
  next resumes =>
    refine ⟨some (if .pnc ∈ authOptions ∧ world.session.isTls then .pnc else .eim), ?_⟩
    rw [← resumes]

/-- The services have been looked through. -/
def Selects (before after : World ρ) : Prop :=
  after.currentState = before.currentState ∧ ∃ services details,
    after.session = { before.session with
      selectedServices := services
      serviceDetailsToRequest := details }

omit [EVController ρ] in
theorem Selects.refl (world : World ρ) : Selects world world :=
  ⟨rfl, world.session.selectedServices, world.session.serviceDetailsToRequest, rfl⟩

omit [EVController ρ] in
theorem Selects.trans {first second third : World ρ} (earlier : Selects first second)
    (later : Selects second third) : Selects first third := by
  obtain ⟨currentState, services, details, session⟩ := earlier
  obtain ⟨currentState', services', details', session'⟩ := later
  refine ⟨currentState'.trans currentState, services', details', ?_⟩
  rw [session', session]

theorem ServiceDiscovery.selectService_spec (service : ServiceDetails) :
    Establishes (selectService service) (fun _ after => Selects world after) world := by
  unfold selectService
  apply ensures_get_bind
  split
  · apply establishes_ask_bind
    intro needed controller
    cases needed with
    | true => exact ⟨rfl, _, _, rfl⟩
    | false => exact Selects.refl world
  · exact Selects.refl world

theorem ServiceDiscovery.forM_selectService_spec (services : List ServiceDetails) :
    Establishes (services.forM selectService) (fun _ after => Selects world after) world := by
  induction services generalizing world with
  | nil => exact Selects.refl world
  | cons service rest ih =>
      apply ensures_bind (selectService_spec service)
      rintro _ reached first
      apply wp_mono _ (fun _ _ failed => failed) ih
      exact fun _ after later => first.trans later

theorem ServiceDiscovery.selectServices_spec (res : ServiceDiscoveryRes) :
    Establishes (selectServices res) (fun _ after => Selects world after) world := by
  unfold selectServices
  apply ensures_updateSession_bind
  apply ensures_get_bind
  have charging : Selects world { world with
      session := { world.session with
        selectedServices := world.session.selectedServices ++ [ServiceID.charging] } } :=
    ⟨rfl, _, _, rfl⟩
  split
  · apply wp_mono _ (fun _ _ failed => failed) (forM_selectService_spec _)
    exact fun _ after later => charging.trans later
  · exact charging

theorem ServiceDiscovery.selectEnergyTransferMode_spec :
    Establishes selectEnergyTransferMode
      (fun _ after => after.currentState = world.currentState ∧ ∃ mode isAc,
        after.session = { world.session with
          selectedEnergyMode := some mode
          resumeRequestedEnergyMode := none
          selectedChargingTypeIsAc := isAc } ∧
        (world.session.resumeRequestedEnergyMode = some mode ∧
            isAc = world.session.selectedChargingTypeIsAc ∨
          world.session.resumeRequestedEnergyMode = none ∧ isAc = mode.isAc)) world := by
  unfold selectEnergyTransferMode
  apply ensures_get_bind
  cases resumes : world.session.resumeRequestedEnergyMode with
  | some mode => exact ⟨rfl, mode, _, rfl, .inl ⟨rfl, rfl⟩⟩
  | none =>
      apply establishes_ask_bind
      intro mode controller
      exact ⟨rfl, mode, mode.isAc, by rw [← resumes], .inr ⟨rfl, rfl⟩⟩

omit [EVController ρ] in
/-- The next request about services. -/
theorem requestServices_follows (same : world.currentState = before.currentState)
    (rows : ∀ turn, ServicesRequested world.session turn →
      Row answers schedules before.currentState.own response before.session turn) :
    Follows answers schedules response before requestServices world := by
  unfold requestServices
  apply ensures_get_bind
  split
  next empty =>
    apply ensures_ofExcept_bind
    · exact fun _ _ => trivial
    intro req _
    apply follows_createNextMessage same
    exact rows _ (.select req (List.getLast?_eq_none_iff.mp empty))
  next serviceId last =>
    apply ensures_updateSession_bind
    apply follows_createNextMessage
    · exact same
    · obtain ⟨rest, ends⟩ := List.getLast?_eq_some_iff.mp last
      apply rows
      have dropped : world.session.serviceDetailsToRequest.dropLast = rest := by
        rw [ends, List.dropLast_concat]
      rw [dropped]
      exact .detail serviceId rest ends

theorem ServiceDiscovery.onServiceDiscoveryRes_follows
    (own : before.currentState.own = .serviceDiscovery) (res : ServiceDiscoveryRes) :
    Follows answers schedules (.serviceDiscoveryRes res) before (onServiceDiscoveryRes res)
      before := by
  unfold onServiceDiscoveryRes
  apply ensures_bind (selectAuthMode_spec res.authOptionList)
  rintro _ first ⟨currentState, authOption, session⟩
  apply ensures_bind (selectServices_spec res)
  rintro _ second ⟨currentState', services, details, session'⟩
  apply ensures_bind selectEnergyTransferMode_spec
  rintro _ third ⟨currentState'', mode, isAc, session'', selects⟩
  have same : third.currentState = before.currentState := by
    rw [currentState'', currentState', currentState]
  have discovers : Discovered before.session third.session mode := by
    constructor
    · refine ⟨authOption, services, details, isAc, ?_⟩
      rw [session'', session', session]
    · rw [session', session] at selects
      rw [session'']
      exact selects
  have selected : third.session.selectedEnergyMode = some mode := by rw [session'']
  apply ensures_get_bind
  rw [selected]
  split
  next offered =>
    rw [List.mem_map_of_injective (Option.some_injective _)] at offered
    apply requestServices_follows same
    intro turn requests
    rw [own]
    exact .serviceDiscovery res before.session third.session mode turn discovers offered requests
  next missing =>
    rw [List.mem_map_of_injective (Option.some_injective _)] at missing
    apply follows_stopStateMachine same
    rw [own]
    exact .noEnergyMode res before.session third.session mode discovers missing

omit [EVController ρ] in
theorem ServiceDetail.follows (own : before.currentState.own = .serviceDetail) (serviceId : Int)
    (parameters : Option (List ParameterSet)) :
    Follows answers schedules (.serviceDetailRes serviceId parameters) before requestServices
      before := by
  apply requestServices_follows rfl
  intro turn requests
  rw [own]
  exact .serviceDetail serviceId parameters before.session turn requests

/-! ### Payment and authorization -/

omit [EVController ρ] in
theorem requestPaymentDetails_follows {req : PaymentDetailsReq}
    (same : world.currentState = before.currentState)
    (row : Row answers schedules before.currentState.own response before.session
      (.to world.session .paymentDetails (.paymentDetailsReq req))) :
    Follows answers schedules response before (requestPaymentDetails req) world :=
  follows_createNextMessage same row

theorem PaymentServiceSelection.onPaymentServiceSelectionRes_follows
    (own : before.currentState.own = .paymentServiceSelection) :
    Follows answers schedules .paymentServiceSelectionRes before
      (onPaymentServiceSelectionRes answers) before := by
  unfold onPaymentServiceSelectionRes
  apply ensures_get_bind
  split
  · apply establishes_ask_bind
    intro needed controller
    cases needed with
    | true =>
        unfold installCertificate
        apply ensures_ofExcept_bind
        · exact fun _ _ => trivial
        intro _ _
        apply ensures_ofExcept_bind
        · exact fun _ _ => trivial
        intro oemProvisioningCert _
        apply follows_signed
        · rfl
        · rw [own]
          exact .noContract before.session
        · rw [own]
          exact .installCertificate before.session _
    | false =>
        unfold payByContract
        rw [if_neg Bool.false_ne_true]
        split
        next req _ =>
          apply requestPaymentDetails_follows
          · rfl
          · rw [own]
            exact .payByContract before.session req
        next exception _ =>
          split
          · apply follows_stopStateMachine
            · rfl
            · rw [own]
              exact .noContract before.session
          · trivial
  · apply follows_createNextMessage rfl
    rw [own]
    exact .payExternally before.session

/-- Whether the contract has been stored, nothing else has changed. -/
theorem CertificateInstallation.storeContract_spec :
    Establishes (storeContract answers)
      (fun _ after => after.session = world.session ∧ after.currentState = world.currentState)
      world := by
  unfold storeContract Establishes Ensures
  rw [wp_tryCatch, wp_bind, wp_ofExcept]
  constructor
  · intro _ _
    rw [wp_bind, wp_ask]
    apply wp_of_forall
    · exact fun _ _ => ⟨rfl, rfl⟩
    · intro exception controller
      rw [wp_ite]
      split
      · exact ⟨rfl, rfl⟩
      · trivial
  · intro exception _
    rw [wp_ite]
    split
    · exact ⟨rfl, rfl⟩
    · trivial

theorem CertificateInstallation.onCertificateInstallationRes_follows
    (own : before.currentState.own = .certificateInstallation) :
    Follows answers schedules .certificateInstallationRes before
      (onCertificateInstallationRes answers) before := by
  have stops : ∀ reached : World ρ, reached.session = before.session →
      reached.currentState = before.currentState →
      Follows answers schedules .certificateInstallationRes before
        (stopStateMachine Session.stopped) reached := by
    intro reached session currentState
    apply follows_stopStateMachine currentState
    rw [own, session]
    exact .notInstalled before.session
  unfold onCertificateInstallationRes
  apply ensures_ofExcept_bind
  · exact fun _ _ => trivial
  intro verified _
  cases verified with
  | false => exact stops before rfl rfl
  | true =>
      apply ensures_bind storeContract_spec
      rintro stored reached ⟨session, currentState⟩
      cases stored with
      | false => exact stops reached session currentState
      | true =>
          apply ensures_ofExcept_bind
          · exact fun _ _ => trivial
          intro req _
          apply requestPaymentDetails_follows currentState
          rw [own, session]
          exact .certificateInstalled before.session req

omit [EVController ρ] in
theorem PaymentDetails.onPaymentDetailsRes_follows
    (own : before.currentState.own = .paymentDetails) (genChallenge : List UInt8) :
    Follows answers schedules (.paymentDetailsRes genChallenge) before
      (onPaymentDetailsRes answers genChallenge) before := by
  unfold onPaymentDetailsRes
  apply follows_signed rfl
  · rw [own]
    exact .notSigned genChallenge before.session
  · rw [own]
    exact .paymentDetails genChallenge before.session

theorem discoverChargeParameters_follows {timeout : ℚ}
    (same : world.currentState = before.currentState)
    (rows : ∀ req, Row answers schedules before.currentState.own response before.session
      (.to world.session .chargeParameterDiscovery (.chargeParameterDiscoveryReq req))) :
    Follows answers schedules response before (discoverChargeParameters timeout) world := by
  unfold discoverChargeParameters
  apply establishes_ask_bind
  intro params controller
  apply ensures_ofExcept_bind
  · exact fun _ _ => trivial
  intro req _
  apply follows_createNextMessage
  · exact same
  · exact rows req

omit [EVController ρ] in
/-- The phase goes on in time, or the state machine is stopped. -/
theorem follows_elapsedTime {timeout : ℚ} {next : Option ℚ → Program ρ PUnit}
    (ignored : next none = pure ⟨⟩) (same : world.currentState = before.currentState)
    (stops : TimedOut answers timeout world.session →
      Row answers schedules before.currentState.own response before.session
        (.stop world.session))
    (goesOn : ∀ elapsed session, Elapses answers timeout world.session session →
      Follows answers schedules response before (next (some elapsed))
        { world with session := session }) :
    Follows answers schedules response before (elapsedTime answers timeout >>= next) world := by
  unfold elapsedTime Follows Establishes Ensures
  simp only [wp_bind, wp_get, wp_ite]
  split
  next runs =>
    split
    next late =>
      rw [wp_stopStateMachine, wp_pure, ignored, wp_pure, same]
      exact ⟨_, stops ⟨runs, late⟩, rfl, rfl, rfl, fun _ prepared => (by cases prepared),
        fun _ => rfl⟩
    next within => exact goesOn _ world.session (.running runs (not_lt.mp within))
  next stands => exact goesOn _ _ (.started (not_le.mp stands))

theorem Authorization.onAuthorizationRes_follows
    (own : before.currentState.own = .authorization) (evseProcessing : EVSEProcessing) :
    Follows answers schedules (.authorizationRes evseProcessing) before
      (onAuthorizationRes answers evseProcessing) before := by
  unfold onAuthorizationRes
  split
  next finished =>
    subst finished
    apply ensures_updateSession_bind
    apply discoverChargeParameters_follows
    · rfl
    · intro req
      rw [own]
      exact .authorized before.session req
  next ongoing =>
    apply follows_elapsedTime rfl rfl
    · intro late
      rw [own]
      exact .authorizationTimeout evseProcessing before.session ongoing late
    · intro elapsed session elapses
      apply follows_createNextMessage
      · rfl
      · rw [own]
        exact .repeatAuthorization evseProcessing before.session session ongoing elapses

end

end Iso15118.Evcc.V2
