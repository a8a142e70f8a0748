import Iso15118.Evcc.V20.Rows

/-!
# The states before charging keep to the tables

One theorem for each state: what it does with the message that it expects is a row of the
table, or it raises what the other table lists.
-/

namespace Iso15118.Evcc.V20

open Effect
open Iso15118.Shared
open Iso15118.Shared.V20

variable {ρ : Type} {contract : Contract} {answers : Answers}

/-! ## Rules -/

section

variable {raised : PyError → Prop} {α β : Type} {world : World ρ} {post : α → World ρ → Prop}

theorem ensures_validHeader_bind {signature : Option Signature}
    {next : MessageHeader → Program ρ α}
    (raises : ∀ exception, checkSessionId world.session.sessionId = .error exception →
      raised exception)
    (holds : ∀ header, ValidSessionId world.session.sessionId →
      Ensures raised (next header) post world) :
    Ensures raised (messageHeader signature >>= next) post world := by
  unfold messageHeader Ensures
  simp only [wp_bind, wp_get, wp_ofExcept, wp_pure]
  refine ⟨fun _ passes => holds _ ?_, raises⟩
  rw [checkSessionId_eq] at passes
  by_contra invalid
  rw [if_neg invalid] at passes
  cases passes

theorem ensures_messageHeader_bind {signature : Option Signature}
    {next : MessageHeader → Program ρ α}
    (raises : ∀ exception, checkSessionId world.session.sessionId = .error exception →
      raised exception)
    (holds : ∀ header, Ensures raised (next header) post world) :
    Ensures raised (messageHeader signature >>= next) post world :=
  ensures_validHeader_bind raises fun header _ => holds header

theorem ensures_required_bind {value : Option β} {next : β → Program ρ α}
    (missing : value = none → raised .attributeError)
    (holds : ∀ present, value = some present → Ensures raised (next present) post world) :
    Ensures raised (required value >>= next) post world := by
  cases value with
  | none => exact missing rfl
  | some present => exact holds present rfl

end

/-- A message has been prepared. -/
theorem Turn.leads_of_message {turn : Turn} {before after : World ρ} {header : MessageHeader}
    {request : Request} (session : after.session = turn.session)
    (own : after.currentState.own = turn.own)
    (leads : after.currentState.nextState = turn.nextState)
    (prepared : after.currentState.nextV2gtpMsg = some ⟨header, request⟩)
    (requests : turn.request = some request) : turn.Leads before after where
  session := session
  own := own
  nextState := leads
  prepares := by
    intro request' same
    cases requests.symm.trans same
    exact ⟨header, prepared⟩
  silent := by
    intro none
    cases none.symm.trans requests

/-- A message has been prepared for another state, and nothing else done to the state. -/
theorem Turn.leads_of_created {turn : Turn} {before after : World ρ} {header : MessageHeader}
    {request : Request} {nextState : Option (NextState StateName)} {timeout : ℚ}
    (session : after.session = turn.session) (own : before.currentState.own = turn.own)
    (created : after.currentState =
      before.currentState.createNextMessage nextState ⟨header, request⟩ timeout)
    (leads : nextState = turn.nextState) (requests : turn.request = some request) :
    turn.Leads before after := by
  apply Turn.leads_of_message session _ _ _ requests
  · exact header
  · rw [created]
    exact own
  · rw [created]
    exact leads
  · rw [created]
    rfl

/-- No message has been prepared. -/
theorem Turn.leads_of_silent {turn : Turn} {before after : World ρ}
    (session : after.session = turn.session) (own : after.currentState.own = turn.own)
    (leads : after.currentState.nextState = turn.nextState) (silent : turn.request = none)
    (same : after.currentState.nextV2gtpMsg = before.currentState.nextV2gtpMsg) :
    turn.Leads before after where
  session := session
  own := own
  nextState := leads
  prepares := by
    intro request prepares
    cases silent.symm.trans prepares
  silent := fun _ => same

/-- The program does with the response of a state what the tables say. -/
def Follows (contract : Contract) (answers : Answers) (response : Response)
    (program : Program ρ PUnit) (world : World ρ) : Prop :=
  Ensures (Failure contract answers world.currentState.own response world.session) program
    (fun _ after => ∃ turn, Row contract world.currentState.own response world.session turn ∧
      turn.Leads world after) world

section

variable [EVController ρ] {world : World ρ}

/-! ## Setup and authorization -/

omit [EVController ρ] in
theorem SessionSetup.onSessionSetupRes_follows (own : world.currentState.own = .sessionSetup)
    (evseId sessionId : String) :
    Follows contract answers (.sessionSetupRes evseId)
      (SessionSetup.onSessionSetupRes sessionId) world := by
  unfold Follows SessionSetup.onSessionSetupRes
  rw [own]
  apply ensures_updateSession_bind
  apply ensures_validHeader_bind
  · exact fun exception invalid => .newSessionId _ _ _ _ invalid
  · intro header valid
    exact ⟨_, .sessionSetup evseId sessionId world.session valid,
      Turn.leads_of_message rfl own rfl rfl rfl⟩

/-- The way to `CertificateInstallation` is taken, or nothing has changed. -/
theorem AuthorizationSetup.installCertificate_spec (keeps : Keeps contract ρ)
    (own : world.currentState.own = .authorizationSetup) {res : AuthorizationSetupRes}
    (offered : res.certInstallService = true) {controller : ρ} {calls : List Call} :
    Ensures (Failure contract answers .authorizationSetup (.authorizationSetupRes res)
        world.session) (installCertificate answers)
      (fun installs after =>
        if installs then
          ∃ turn, Row contract .authorizationSetup (.authorizationSetupRes res) world.session
            turn ∧ turn.Leads world after
        else after.session = world.session ∧ after.currentState = world.currentState)
      { world with controller := controller, calls := calls } := by
  unfold installCertificate
  apply ensures_ofExcept_bind
  · exact fun exception raised => .installCertificate _ _ _ offered (.inl raised)
  intro _ _
  apply ensures_ofExcept_bind
  · exact fun exception raised => .installCertificate _ _ _ offered (.inr (.inl raised))
  intro _ _
  unfold Ensures
  rw [wp_tryCatch, wp_bind, wp_ofExcept]
  constructor
  · intro signature _
    unfold messageHeader
    simp only [wp_bind, wp_get, wp_ofExcept, wp_pure]
    constructor
    · intro _ _
      rw [wp_ask]
      apply wp_mono _ _ (keeps.getPrioritisedEmaids controller)
      · intro _ controller _
        exact ⟨_, .installCertificate res world.session, Turn.leads_of_message rfl own rfl rfl rfl⟩
      · intro exception controller raised
        rw [wp_ite]
        split
        · exact ⟨rfl, rfl⟩
        · exact .controller _ _ _ _ raised
    · intro exception invalid
      rw [wp_ite]
      split
      · exact ⟨rfl, rfl⟩
      · exact .header _ _ _ _ invalid
  · intro exception raised
    rw [wp_ite]
    split
    · exact ⟨rfl, rfl⟩
    next other =>
      exact .installCertificate _ _ _ offered (.inr (.inr ⟨raised, other⟩))

omit [EVController ρ] in
theorem AuthorizationSetup.pncParams_spec {res : AuthorizationSetupRes}
    (offered : .pnc ∈ res.authServices) :
    Ensures (Failure contract answers .authorizationSetup (.authorizationSetupRes res)
        world.session) (pncParams answers res) (fun _ after => after = world) world := by
  unfold pncParams
  apply ensures_required_bind
  · exact fun missing => .noPncAsRes _ _ offered missing
  intro pncAsRes _
  apply ensures_ofExcept_bind
  · exact fun exception raised => .loadContract _ _ _ offered (.inl raised)
  intro certificate _
  unfold Ensures
  simp only [wp_tryCatch, wp_bind, wp_ofExcept, wp_pure]
  constructor
  · exact fun _ _ => trivial
  · intro exception raised
    rw [wp_ite]
    split
    · trivial
    next other => exact .loadContract _ _ _ offered (.inr ⟨_, raised, other⟩)

omit [EVController ρ] in
theorem AuthorizationSetup.authorize_spec (res : AuthorizationSetupRes) {before : World ρ}
    (own : world.currentState.own = .authorizationSetup)
    (session : world.session = before.session) :
    Ensures (Failure contract answers .authorizationSetup (.authorizationSetupRes res)
        before.session) (authorize answers res)
      (fun _ after => ∃ turn, Row contract .authorizationSetup (.authorizationSetupRes res)
        before.session turn ∧ turn.Leads before after) world := by
  have goesOn : ∀ (signature : Option Signature) (authReq : AuthorizationReq),
      Ensures (Failure contract answers .authorizationSetup (.authorizationSetupRes res)
        before.session)
      (do
        let header ← messageHeader signature
        let message : RequestMessage := ⟨header, .authorizationReq authReq⟩
        updateSession fun session => { session with authorizationReqMessage := some message }
        prepare (some (.state .authorization)) message Timeouts.authorizationReq)
      (fun _ after => ∃ turn, Row contract .authorizationSetup (.authorizationSetupRes res)
        before.session turn ∧ turn.Leads before after) world := by
    intro signature authReq
    apply ensures_messageHeader_bind
    · rw [session]
      exact fun exception invalid => .header _ _ _ _ invalid
    · intro header
      apply ensures_updateSession_bind
      rw [session]
      exact ⟨_, .authorize res before.session header _, Turn.leads_of_message rfl own rfl rfl rfl⟩
  unfold authorize
  split
  next offered =>
    have spec : Ensures (Failure contract answers .authorizationSetup (.authorizationSetupRes res)
        world.session) (pncParams answers res) (fun _ after => after = world) world :=
      pncParams_spec offered
    rw [session] at spec
    apply ensures_bind spec
    rintro pnc _ rfl
    exact goesOn _ _
  next => exact goesOn none _

theorem AuthorizationSetup.onAuthorizationSetupRes_follows (keeps : Keeps contract ρ)
    (own : world.currentState.own = .authorizationSetup) (res : AuthorizationSetupRes) :
    Follows contract answers (.authorizationSetupRes res)
      (AuthorizationSetup.onAuthorizationSetupRes answers res) world := by
  unfold Follows onAuthorizationSetupRes
  rw [own]
  have goesOn : ∀ reached : World ρ, reached.session = world.session →
      reached.currentState = world.currentState →
      Ensures (Failure contract answers .authorizationSetup (.authorizationSetupRes res)
          world.session) (authorize answers res)
        (fun _ after => ∃ turn, Row contract .authorizationSetup (.authorizationSetupRes res)
          world.session turn ∧ turn.Leads world after) reached := by
    intro reached session currentState
    exact authorize_spec res (by rw [currentState, own]) session
  by_cases offered : res.certInstallService = true
  · rw [if_pos offered]
    apply ensures_ask_bind keeps.isCertInstallNeeded
    · exact fun exception raised => .controller _ _ _ _ raised
    intro install controller _
    cases install with
    | false => exact goesOn _ rfl rfl
    | true =>
        apply ensures_bind (installCertificate_spec keeps own offered)
        intro installs reached outcome
        cases installs with
        | true => exact outcome
        | false => exact goesOn reached outcome.1 outcome.2
  · rw [if_neg offered]
    exact goesOn world rfl rfl

omit [EVController ρ] in
/-- The timer runs on, or the state machine has been stopped. -/
theorem elapsedTime_spec {raised : PyError → Prop} (timeout : ℚ) :
    Ensures raised (elapsedTime answers timeout : Program ρ (Option ℚ))
      (fun elapsed after => after.controller = world.controller ∧
        match elapsed with
        | none => after.session = world.session.stopped ∧
            after.currentState =
              { world.currentState with nextState := some .terminate }
        | some _ => (∃ timer, after.session = { world.session with ongoingTimer := timer }) ∧
            after.currentState = world.currentState) world := by
  unfold elapsedTime
  apply ensures_get_bind
  unfold Ensures
  rw [wp_ite]
  split
  · rw [wp_ite]
    split
    · exact ⟨rfl, rfl, rfl⟩
    · exact ⟨rfl, ⟨world.session.ongoingTimer, rfl⟩, rfl⟩
  · exact ⟨rfl, ⟨answers.now, rfl⟩, rfl⟩

omit [EVController ρ] in
theorem Authorization.onAuthorizationRes_follows (own : world.currentState.own = .authorization)
    (evseProcessing : Processing) :
    Follows contract answers (.authorizationRes evseProcessing)
      (Authorization.onAuthorizationRes answers evseProcessing) world := by
  unfold Follows onAuthorizationRes
  rw [own]
  split
  next finished =>
    subst finished
    apply ensures_updateSession_bind
    apply ensures_messageHeader_bind
    · exact fun exception invalid => .header _ _ _ _ invalid
    · intro header
      exact ⟨_, .authorized world.session, Turn.leads_of_message rfl own rfl rfl rfl⟩
  next ongoing =>
    apply ensures_bind (elapsedTime_spec _)
    rintro elapsed reached ⟨_, outcome⟩
    cases elapsed with
    | none =>
        obtain ⟨session, currentState⟩ := outcome
        refine ⟨_, .authorizationTimeout _ world.session ongoing,
          Turn.leads_of_silent session ?_ ?_ rfl ?_⟩
        · rw [currentState]
          exact own
        · rw [currentState]
        · rw [currentState]
    | some elapsed =>
        obtain ⟨⟨timer, session⟩, currentState⟩ := outcome
        apply ensures_get_bind
        apply ensures_required_bind
        · rw [session]
          exact fun missing => .noAuthorizationReq _ _ ongoing missing
        intro cached caches
        apply ensures_messageHeader_bind
        · rw [session]
          exact fun exception invalid => .header _ _ _ _ invalid
        · intro header
          rw [session] at caches
          have own' : reached.currentState.own = .authorization := by rw [currentState, own]
          exact ⟨_, .repeatAuthorization _ world.session timer cached ongoing caches,
            Turn.leads_of_message session own' rfl rfl rfl⟩

/-! ## Services -/

omit [EVController ρ] in
/-- An offered energy service is appended once for each time that it is requested. -/
theorem matchRequested_spec {raised : PyError → Prop} (energyService : Service)
    (reqEnergyServices : List ServiceV20) :
    Ensures raised (reqEnergyServices.forM fun requestedEnergyService =>
        if requestedEnergyService.id = energyService.serviceId then do
          appendMatched energyService true
          updateSession fun session =>
            { session with
              serviceDetailsToRequest :=
                session.serviceDetailsToRequest ++ [energyService.serviceId] }
        else
          pure ⟨⟩)
      (fun _ after => after = { world with
        session := world.session.matching
          (matchedEnergyServices [energyService] reqEnergyServices) }) world := by
  induction reqEnergyServices generalizing world with
  | nil =>
      change world = _
      rw [show matchedEnergyServices [energyService] [] = [] from rfl, Session.matching_nil]
  | cons requested others ih =>
      change Ensures raised ((if requested.id = energyService.serviceId then _ else _) >>=
        fun _ => others.forM _) _ world
      by_cases requests : requested.id = energyService.serviceId
      · have matched : matchedEnergyServices [energyService] (requested :: others) =
            ⟨requested, true, energyService.freeService, []⟩ ::
              matchedEnergyServices [energyService] others := by
          simp [matchedEnergyServices, requests]
        have appends : Ensures raised
            (do
              appendMatched energyService true
              updateSession fun session =>
                { session with
                  serviceDetailsToRequest :=
                    session.serviceDetailsToRequest ++ [energyService.serviceId] })
            (fun _ after => after = { world with
              session := world.session.matching
                [⟨requested, true, energyService.freeService, []⟩] }) world := by
          unfold appendMatched
          rw [← requests, ServiceV20.getById_id]
          rfl
        rw [if_pos requests, matched]
        apply ensures_bind appends
        rintro _ _ rfl
        apply wp_mono _ (fun _ _ failed => failed) ih
        rintro _ _ rfl
        rw [Session.matching_matching]
        rfl
      · have matched : matchedEnergyServices [energyService] (requested :: others) =
            matchedEnergyServices [energyService] others := by
          simp [matchedEnergyServices, requests]
        rw [if_neg requests, matched]
        exact ih

omit [EVController ρ] in
theorem ServiceDiscovery.matchEnergyServices_spec {raised : PyError → Prop}
    (offered : List Service) (reqEnergyServices : List ServiceV20) :
    Ensures raised (matchEnergyServices offered reqEnergyServices : Program ρ PUnit)
      (fun _ after => after = { world with
        session := world.session.matching (matchedEnergyServices offered reqEnergyServices) })
      world := by
  induction offered generalizing world with
  | nil =>
      change world = _
      rw [show matchedEnergyServices [] reqEnergyServices = [] from rfl, Session.matching_nil]
  | cons energyService others ih =>
      apply ensures_bind (matchRequested_spec energyService reqEnergyServices)
      rintro _ _ rfl
      apply wp_mono _ (fun _ _ failed => failed) ih
      rintro _ _ rfl
      rw [matchedEnergyServices_cons energyService others, Session.matching_matching]

omit [EVController ρ] in
/-- Every value-added service is appended, or one is unknown. -/
theorem ServiceDiscovery.appendVas_spec {raised : PyError → Prop} (vasServices : List Service)
    (unknown : vasServices.mapM matchedVas = none → raised .valueError) :
    Ensures raised (vasServices.forM fun vasService => appendMatched vasService false)
      (fun _ after => ∃ vas, vasServices.mapM matchedVas = some vas ∧ after = { world with
        session :=
          { world.session with
            matchedServicesV20 := world.session.matchedServicesV20 ++ vas } }) world := by
  induction vasServices generalizing world with
  | nil => exact ⟨[], rfl, by simp⟩
  | cons vasService others ih =>
      change Ensures raised (appendMatched vasService false >>= fun _ => others.forM _) _ world
      unfold appendMatched
      cases known : ServiceV20.getById vasService.serviceId with
      | none =>
          apply unknown
          simp [List.mapM_cons, matchedVas, known]
      | some service =>
          have first : matchedVas vasService =
              some ⟨service, false, vasService.freeService, []⟩ := by
            simp [matchedVas, known]
          apply ensures_updateSession_bind
          have unknown' : others.mapM matchedVas = none → raised .valueError := by
            intro none
            apply unknown
            simp [List.mapM_cons, first, none]
          apply wp_mono _ (fun _ _ failed => failed) (ih unknown')
          rintro _ _ ⟨vas, matched, rfl⟩
          refine ⟨⟨service, false, vasService.freeService, []⟩ :: vas, ?_, ?_⟩
          · simp [List.mapM_cons, first, matched]
          · simp

omit [EVController ρ] in
/-- The last of the services whose details are to be requested is requested. -/
theorem requestServiceDetail_spec {raised : PyError → Prop}
    (raises : ∀ exception, checkSessionId world.session.sessionId = .error exception →
      raised exception)
    (empty : world.session.serviceDetailsToRequest = [] → raised .indexError)
    {post : World ρ → Prop}
    (holds : ∀ rest serviceId header,
      world.session.serviceDetailsToRequest = rest ++ [serviceId] → post
        { world with
          session := { world.session with serviceDetailsToRequest := rest }
          currentState := world.currentState.createNextMessage (some (.state .serviceDetail))
            ⟨header, .serviceDetailReq ⟨serviceId⟩⟩ Timeouts.serviceDetailReq }) :
    Ensures raised requestServiceDetail (fun _ after => post after) world := by
  unfold requestServiceDetail popServiceDetail
  apply ensures_messageHeader_bind raises
  intro header
  unfold Ensures
  rw [wp_bind, wp_bind, wp_get]
  cases last : world.session.serviceDetailsToRequest.getLast? with
  | none => exact empty (List.getLast?_eq_none_iff.mp last)
  | some serviceId =>
      exact holds world.session.serviceDetailsToRequest.dropLast serviceId header
        (List.dropLast_append_getLast? serviceId last).symm

theorem ServiceDiscovery.onServiceDiscoveryRes_follows (keeps : Keeps contract ρ)
    (own : world.currentState.own = .serviceDiscovery) (res : ServiceDiscoveryRes) :
    Follows contract answers (.serviceDiscoveryRes res)
      (ServiceDiscovery.onServiceDiscoveryRes res) world := by
  unfold Follows onServiceDiscoveryRes
  rw [own]
  apply ensures_updateSession_bind
  apply ensures_ask_bind keeps.getSupportedEnergyServices
  · exact fun exception raised => .controller _ _ _ _ raised
  intro reqEnergyServices controller _
  apply ensures_bind (matchEnergyServices_spec _ reqEnergyServices)
  rintro _ _ rfl
  apply ensures_get_bind
  by_cases empty : world.session.matchedServicesV20 ++
      matchedEnergyServices res.energyServiceList.services reqEnergyServices = []
  · rw [if_pos (by simpa [Session.matching] using empty)]
    apply ensures_updateSession_bind
    unfold requestSessionStop
    apply ensures_messageHeader_bind
    · exact fun exception invalid => .header _ _ _ _ invalid
    · intro header
      have none := (List.append_eq_nil_iff.mp empty).2
      refine ⟨_, .noMatch res world.session reqEnergyServices empty,
        Turn.leads_of_message ?_ own rfl rfl rfl⟩
      rw [none, Session.matching_nil]
  · rw [if_neg (by simpa [Session.matching] using empty)]
    apply ensures_bind (appendVas_spec _ fun unknown => .unknownVas _ _ unknown)
    rintro _ _ ⟨vas, known, rfl⟩
    apply requestServiceDetail_spec
    · exact fun exception invalid => .header _ _ _ _ invalid
    · intro none
      obtain ⟨details, ids⟩ := List.append_eq_nil_iff.mp none
      rw [List.map_eq_nil_iff] at ids
      rw [ids, List.append_nil] at empty
      exact .noServiceDetail _ _ empty details
    · intro rest serviceId header details
      exact ⟨_, .serviceDiscovery res world.session reqEnergyServices vas serviceId rest known
        details, Turn.leads_of_message rfl own rfl rfl rfl⟩

omit [EVController ρ] in
/-- A control mode is found and set, or there is none among the parameters. -/
theorem isControlModeSet_spec {raised : PyError → Prop} (parameters : List Parameter)
    (unfit : ¬FitsControlMode parameters → raised .valueError) (found : Bool)
    (set : found = true → world.session.controlMode.isSome = true) :
    Ensures raised (isControlModeSet found parameters)
      (fun found' after => ∃ controlMode,
        after = { world with session := { world.session with controlMode := controlMode } } ∧
          if found' then controlMode.isSome = true
          else found = false ∧ ∀ param ∈ parameters, param.name ≠ "ControlMode") world := by
  induction parameters generalizing found world with
  | nil =>
      refine ⟨world.session.controlMode, rfl, ?_⟩
      cases found with
      | false => simp
      | true => exact set rfl
  | cons param rest ih =>
      have unfit' : ¬FitsControlMode rest → raised .valueError := fun unfitRest =>
        unfit fun fits => unfitRest fun other member => fits other (List.mem_cons_of_mem _ member)
      unfold isControlModeSet
      by_cases named : param.name = "ControlMode"
      · rw [if_pos named]
        have sets : ∀ controlMode, Ensures raised
            (do
              updateSession fun session => { session with controlMode := some controlMode }
              isControlModeSet true rest)
            (fun found' after => ∃ controlMode,
              after = { world with session := { world.session with controlMode := controlMode } } ∧
                if found' then controlMode.isSome = true
                else found = false ∧ ∀ other ∈ param :: rest, other.name ≠ "ControlMode")
            world := by
          intro controlMode
          apply ensures_updateSession_bind
          apply wp_mono _ (fun _ _ failed => failed) (ih unfit' true fun _ => rfl)
          rintro found' _ ⟨controlMode', rfl, outcome⟩
          refine ⟨controlMode', rfl, ?_⟩
          cases found' with
          | true => exact outcome
          | false => cases outcome.1
        split
        · exact sets .scheduled
        · exact sets .dynamic
        next one two =>
          apply unfit
          intro fits
          rcases fits param List.mem_cons_self named with first | second
          · exact one first
          · exact two second
      · rw [if_neg named]
        apply wp_mono _ (fun _ _ failed => failed) (ih unfit' found set)
        rintro found' _ ⟨controlMode, rfl, outcome⟩
        refine ⟨controlMode, rfl, ?_⟩
        cases found' with
        | true => exact outcome
        | false =>
            simp only [Bool.false_eq_true, ↓reduceIte] at outcome ⊢
            exact ⟨outcome.1, List.forall_mem_cons.mpr ⟨named, outcome.2⟩⟩

theorem buildServiceSelectionReq_spec (keeps : Keeps contract ρ) {raised : PyError → Prop}
    (raises : ∀ exception, contract.raised exception ∨ ¬contract.fits ∨
      checkSessionId world.session.sessionId = .error exception → raised exception)
    (selected : SelectedEnergyService) :
    Ensures raised (buildServiceSelectionReq selected)
      (fun req after => ∃ vas header,
        req = ⟨header, .serviceSelectionReq
          ⟨⟨selected.service.id, selected.parameterSet.id⟩,
            if (vas.map selectedVas).isEmpty then none else some (vas.map selectedVas)⟩⟩ ∧
        after.session = { world.session with selectedVasListV20 := some vas } ∧
        after.currentState = world.currentState) world := by
  unfold buildServiceSelectionReq
  apply ensures_get_bind
  apply ensures_ask_bind (keeps.selectVasServicesV20 _)
  · exact fun exception raised => raises exception (.inl raised)
  intro vas controller fits
  apply ensures_updateSession_bind
  cases vas with
  | none =>
      apply raises
      right
      left
      exact fun fit => by cases fits fit
  | some vas =>
      apply ensures_messageHeader_bind
      · exact fun exception invalid => raises exception (.inr (.inr invalid))
      · intro header
        exact ⟨vas, header, rfl, rfl, rfl⟩

theorem ServiceDetail.onServiceDetailRes_follows (keeps : Keeps contract ρ)
    (own : world.currentState.own = .serviceDetail) (res : ServiceDetailRes) :
    Follows contract answers (.serviceDetailRes res) (ServiceDetail.onServiceDetailRes res)
      world := by
  unfold Follows onServiceDetailRes
  rw [own]
  apply ensures_updateSession_bind
  apply ensures_get_bind
  by_cases details : world.session.serviceDetailsToRequest = []
  · rw [if_pos (by simpa using details)]
    apply ensures_ask_bind (keeps.selectEnergyServiceV20 _)
    · exact fun exception raised => .controller _ _ _ _ raised
    intro selected controller fits
    apply ensures_updateSession_bind
    apply ensures_bind (isControlModeSet_spec selected.parameterSet.parameters
      (fun unfit => .unfit _ _ _ _ fun fit => unfit (fits fit)) false nofun)
    rintro found _ ⟨controlMode, rfl, outcome⟩
    cases found with
    | true =>
        apply ensures_bind (buildServiceSelectionReq_spec keeps ?_ selected)
        · rintro req after ⟨vas, header, rfl, session, currentState⟩
          have own' : after.currentState.own = .serviceDetail := by rw [currentState, ← own]
          exact ⟨_, .serviceSelection res world.session selected controlMode vas details outcome,
            Turn.leads_of_message session own' rfl rfl rfl⟩
        · rintro exception (raised | unfit | invalid)
          · exact .controller _ _ _ _ raised
          · exact .unfit _ _ _ _ unfit
          · exact .header _ _ _ _ invalid
    | false =>
        unfold requestSessionStop
        apply ensures_messageHeader_bind
        · exact fun exception invalid => .header _ _ _ _ invalid
        · intro header
          exact ⟨_, .noControlMode res world.session selected controlMode details outcome.2,
            Turn.leads_of_message rfl own rfl rfl rfl⟩
  · rw [if_neg (by simpa using details)]
    apply requestServiceDetail_spec
    · exact fun exception invalid => .header _ _ _ _ invalid
    · exact fun empty => absurd empty details
    · intro rest serviceId header requests
      exact ⟨_, .serviceDetail res world.session serviceId rest requests,
        Turn.leads_of_message rfl own rfl rfl rfl⟩

/-- The charge parameters of the selected service are requested. -/
theorem ServiceSelection.discoverChargeParameters_spec (keeps : Keeps contract ρ)
    {raised : PyError → Prop}
    (raises : ∀ exception, contract.raised exception ∨ ¬contract.fits ∨
      checkSessionId world.session.sessionId = .error exception → raised exception)
    {selected : SelectedEnergyService} (offers : selected.service ∈ [.ac, .acBpt, .dc, .dcBpt])
    (isAc : Bool) (next : StateName) {post : World ρ → Prop}
    (holds : ∀ header req params after,
      chargeParameterDiscoveryReq selected.service params = .ok req →
      after.session = { world.session with selectedChargingTypeIsAc := isAc } →
      after.currentState = world.currentState.createNextMessage (some (.state next)) ⟨header, req⟩
        Timeouts.chargeParameterDiscoveryReq → post after) :
    Ensures raised (discoverChargeParameters selected isAc next) (fun _ after => post after)
      world := by
  unfold discoverChargeParameters
  apply ensures_updateSession_bind
  apply ensures_ask_bind (keeps.getChargeParamsV20 selected)
  · exact fun exception failed => raises exception (.inl failed)
  intro params controller fits
  apply ensures_messageHeader_bind
  · exact fun exception invalid => raises exception (.inr (.inr invalid))
  intro header
  apply ensures_ofExcept_bind
  · intro exception misfit
    apply raises
    right
    left
    intro fit
    obtain ⟨req, built⟩ := fits fit offers
    rw [built] at misfit
    cases misfit
  · intro req built
    exact holds header req params _ built rfl rfl

/-- A request with charge parameters is of the kind that its service is of. -/
theorem chargeParameterDiscoveryReq_ac {service : ServiceV20} {params : ChargeParams}
    {request : Request} (built : chargeParameterDiscoveryReq service params = .ok request)
    (ac : service ∈ [.ac, .acBpt]) :
    ∃ req, request = .acChargeParameterDiscoveryReq req := by
  unfold chargeParameterDiscoveryReq at built
  split at built
  · cases built
    exact ⟨_, rfl⟩
  · cases built
    exact ⟨_, rfl⟩
  · simp at ac
  · simp at ac
  · cases built

theorem chargeParameterDiscoveryReq_dc {service : ServiceV20} {params : ChargeParams}
    {request : Request} (built : chargeParameterDiscoveryReq service params = .ok request)
    (dc : service ∈ [.dc, .dcBpt]) :
    ∃ req, request = .dcChargeParameterDiscoveryReq req := by
  unfold chargeParameterDiscoveryReq at built
  split at built
  · simp at dc
  · simp at dc
  · cases built
    exact ⟨_, rfl⟩
  · cases built
    exact ⟨_, rfl⟩
  · cases built

theorem ServiceSelection.onServiceSelectionRes_follows (keeps : Keeps contract ρ)
    (own : world.currentState.own = .serviceSelection)
    (idle : world.currentState.nextState = none) :
    Follows contract answers .serviceSelectionRes
      (ServiceSelection.onServiceSelectionRes : Program ρ PUnit) world := by
  unfold Follows onServiceSelectionRes
  rw [own]
  have raises : ∀ exception, contract.raised exception ∨ ¬contract.fits ∨
      checkSessionId world.session.sessionId = .error exception →
      Failure contract answers .serviceSelection .serviceSelectionRes world.session exception := by
    rintro exception (raised | unfit | invalid)
    · exact .controller _ _ _ _ raised
    · exact .unfit _ _ _ _ unfit
    · exact .header _ _ _ _ invalid
  apply ensures_get_bind
  apply ensures_required_bind
  · exact fun missing => .noSelection _ _ _ trivial missing
  intro selected selects
  by_cases ac : selected.service ∈ [.ac, .acBpt]
  · rw [if_pos ac]
    apply discoverChargeParameters_spec keeps raises (by grind)
    intro header request params after built session currentState
    obtain ⟨req, rfl⟩ := chargeParameterDiscoveryReq_ac built ac
    exact ⟨_, .acChargeParameters world.session selected req selects ac,
      Turn.leads_of_created session own currentState rfl rfl⟩
  · rw [if_neg ac]
    by_cases dc : selected.service ∈ [.dc, .dcBpt]
    · rw [if_pos dc]
      apply discoverChargeParameters_spec keeps raises (by grind)
      intro header request params after built session currentState
      obtain ⟨req, rfl⟩ := chargeParameterDiscoveryReq_dc built dc
      exact ⟨_, .dcChargeParameters world.session selected req selects dc,
        Turn.leads_of_created session own currentState rfl rfl⟩
    · rw [if_neg dc]
      exact ⟨_, .otherEnergyService world.session selected selects (by grind),
        Turn.leads_of_silent rfl own idle rfl rfl⟩

end

end Iso15118.Evcc.V20
