import Iso15118.MatchedServices
import Iso15118.Secc.V20.ServiceSelection
import Iso15118.Shared.BatteryDiagnostics.Sessions
import Mathlib.Data.List.Basic

/-!
# The parameters of a diagnostic test

The simulated battery goes by the first parameter set that the EVCC has received for the
diagnostic service, and the EVCC names it by its id. The SECC goes by its own set of that id. The
EVCC asks for the parameter sets of energy services only, and then goes by none and names the
id 1.
-/

namespace Iso15118

open Effect Transition
open Iso15118.Shared
open Iso15118.Shared.V20
open Iso15118.Shared.BatteryHealthService (givenValues namedValue parametersOf)

/-! ## What a parameter set gives -/

theorem givenValues_cons (name : String) (parameter : Parameter) (parameters : List Parameter) :
    givenValues name (parameter :: parameters) =
      (if parameter.name = name then parameter.intValue.toList else []) ++
        givenValues name parameters := by
  unfold givenValues
  by_cases named : parameter.name = name
  · cases given : parameter.intValue with
    | none => simp [named, given]
    | some value => simp [named, given]
  · simp [named]

/-- The parameters of a test. -/
structure TestParameters where
  cRate : ℚ
  cutoff : Int
  maxCurrentA : ℚ
  deriving DecidableEq

section

open Iso15118.Evcc Iso15118.Evcc.RealBatterySimulator

theorem getLastD_nonzero_cons (name : String) (parameter : Parameter)
    (parameters : List Parameter) (default : Int) :
    ((givenValues name (parameter :: parameters)).filter (· ≠ 0)).getLastD default =
      ((givenValues name parameters).filter (· ≠ 0)).getLastD
        (readParameter name parameter default) := by
  rw [givenValues_cons]
  unfold readParameter
  by_cases named : parameter.name = name
  · cases given : parameter.intValue with
    | none => simp [named]
    | some value =>
        by_cases zero : value = 0
        · simp [named, zero]
        · simp only [named, ↓reduceIte, Option.toList_some, List.singleton_append, ne_eq, zero,
            not_false_eq_true, decide_true, List.filter_cons_of_pos, List.getLastD_cons]
  · simp [named]

/-- The simulated battery takes the last value that is not zero, or its default. -/
theorem foldl_read_eq (parameters : List Parameter) (diag : DiagParameters) :
    parameters.foldl DiagParameters.read diag =
      { cRate := ((givenValues "RequestedCRate" parameters).filter (· ≠ 0)).getLastD diag.cRate
        cutoff := ((givenValues "CutoffSOC" parameters).filter (· ≠ 0)).getLastD diag.cutoff
        maxISecc :=
          ((givenValues "MaxTestCurrentA" parameters).filter (· ≠ 0)).getLastD diag.maxISecc } := by
  induction parameters generalizing diag with
  | nil => rfl
  | cons parameter parameters ih =>
      rw [List.foldl_cons, ih]
      simp only [getLastD_nonzero_cons]
      rfl

end

/-! ## What the EVCC has received -/

namespace Evcc.V20

variable {ρ : Type} [EVController ρ] {start session next : EVCCSession ρ}
  {history : List (Option (Received V2GMessage Answers))}
  {input : Option (Received V2GMessage Answers)}

/-- Every entry has the parameter sets that have been received last for its service. -/
def HoldsReceived (start : EVCCSession ρ) (history : List (Option (Received V2GMessage Answers)))
    (matched : List MatchedService) : Prop :=
  ∀ entry ∈ matched,
    entry.parameterSets = (receivedSets start entry.service.id history).getD []

theorem parameterSets_of_matchedVas {services : List Service} {entries : List MatchedService}
    (matched : services.mapM matchedVas = some entries) :
    ∀ entry ∈ entries, entry.parameterSets = [] := by
  induction services generalizing entries with
  | nil =>
      cases matched
      nofun
  | cons service services ih =>
      rw [List.mapM_cons] at matched
      obtain ⟨entry, first, matched⟩ := Option.bind_eq_some_iff.mp matched
      obtain ⟨others, rest, matched⟩ := Option.bind_eq_some_iff.mp matched
      obtain ⟨service, known, rfl⟩ := Option.map_eq_some_iff.mp first
      cases matched
      exact List.forall_mem_cons.mpr ⟨rfl, ih rest⟩

omit [EVController ρ] in
/-- The entries that are discovered have no parameter sets yet. -/
theorem Row.parameterSets_of_discovery {contract : Contract} {response : Response}
    {session : Session} {turn : Turn} (row : Row contract .serviceDiscovery response session turn)
    (nothing : session.matchedServicesV20 = []) :
    ∀ entry ∈ turn.session.matchedServicesV20, entry.parameterSets = [] := by
  cases row with
  | noMatch res session reqEnergyServices empty => simp [nothing]
  | serviceDiscovery res session reqEnergyServices vas serviceId rest known details =>
      simp only [nothing, List.nil_append]
      intro entry member
      obtain energy | other := List.mem_append.mp member
      · obtain ⟨service, _, requested⟩ := List.mem_flatMap.mp energy
        obtain ⟨_, _, rfl⟩ := List.mem_map.mp requested
        rfl
      · exact parameterSets_of_matchedVas known entry other

/-- A turn in `ServiceDetail` stores what is received. -/
theorem HoldsReceived.detail {matched : List MatchedService}
    (holds : HoldsReceived start history matched)
    {input : Option (Received V2GMessage Answers)} {res : ServiceDetailRes}
    (found : detailed ((machine ρ).rcvAll start history) input = some res) :
    HoldsReceived start (input :: history) (matched.map (storeParameterSets res)) := by
  intro entry member
  obtain ⟨entry, before, rfl⟩ := List.mem_map.mp member
  unfold storeParameterSets
  by_cases same : entry.service.id = res.serviceId
  · rw [if_pos same]
    simp only [receivedSets, found, if_pos same.symm, Option.getD_some]
  · rw [if_neg same]
    simp only [receivedSets, found, if_neg (Ne.symm same)]
    exact holds entry before

/-- What every step keeps. -/
theorem HoldsReceived.step (starts : Starts start)
    (past : Run (machine ρ).Step start history session)
    (holds : HoldsReceived start history session.world.session.matchedServicesV20)
    (step : (machine ρ).Step session input next) (goesOn : next.ended = false) :
    HoldsReceived start (input :: history) next.world.session.matchedServicesV20 := by
  have same := SessionStateMachine.eq_rcvAll_of_run past
  have once := discoveredOnce_of_run starts past step.1
  obtain ⟨idle, _⟩ := waits_of_run starts past step.1
  obtain ⟨received, after, rfl, processed, leads'⟩ := Step.goesOnTo step goesOn
  have keeps : session.world.currentState.own ≠ .serviceDetail →
      next.world.session.matchedServicesV20 = session.world.session.matchedServicesV20 →
      HoldsReceived start (some received :: history)
        next.world.session.matchedServicesV20 := by
    intro noDetail kept entry member
    rw [receivedSets_cons_of_ne _ (same ▸ noDetail)]
    exact holds entry (kept ▸ member)
  cases post_of_eq_ok (machine_reacts (keeps_any ρ) idle received) processed with
  | answers res turn response accepts row leads =>
      have session_eq := leads'.session.trans leads.session
      by_cases discovery : session.world.currentState.own = .serviceDiscovery
      · obtain ⟨_, nothing, noSets⟩ := once.before (by rw [discovery]; trivial)
        intro entry member
        rw [receivedSets_cons_of_ne _ (by rw [← same, discovery]; nofun), noSets]
        rw [session_eq] at member
        rw [discovery] at row
        exact row.parameterSets_of_discovery nothing entry member
      by_cases detail : session.world.currentState.own = .serviceDetail
      · obtain ⟨details, isDetails, stored⟩ := row.stores detail
        rw [session_eq, stored]
        apply holds.detail
        obtain ⟨message, answers⟩ := received
        obtain ⟨header, code, response'⟩ := res
        cases response
        cases isDetails
        unfold detailed
        rw [← same, detail]
      · exact keeps detail (by rw [session_eq, row.matched_eq discovery detail])
  | refuses _ _ currentState =>
      obtain ⟨idle, _⟩ | ⟨name, goes, _⟩ := leads'.leads
      · rw [currentState] at idle
        cases idle
      · rw [currentState] at goes
        cases goes
  | detectsWelding complete turn own row leads =>
      apply keeps (by rw [own]; nofun)
      rw [leads'.session, leads.session]
      cases row <;> rfl

theorem holdsReceived_of_run (starts : Starts start)
    (run : Run (machine ρ).Step start history session) (goesOn : session.ended = false) :
    HoldsReceived start history session.world.session.matchedServicesV20 := by
  induction run with
  | start =>
      obtain ⟨points, sessionId, fresh⟩ := starts.fresh
      rw [fresh]
      nofun
  | step past last ih => exact (ih last.1).step starts past last goesOn

/-! ## What the simulated battery selects -/

section

open Iso15118.Evcc.RealBatterySimulator

/-- The parameters of a selected service by which the simulated battery goes. -/
def testParameters (selected : SelectedVAS) : TestParameters where
  cRate := (diagParameters selected.parameterSet).cRate
  cutoff := (diagParameters selected.parameterSet).cutoff
  maxCurrentA := (diagParameters selected.parameterSet).maxISecc

/-- The simulated battery has been told to test with these parameters. -/
structure TestsWith (battery : RealBatterySimulator) (parameters : TestParameters) : Prop where
  active : battery.diagActive = true
  cutoff : battery.diagCutoffSoc = parameters.cutoff
  current : battery.diagDischargeIA =
    min (min (parameters.cRate * (totalBatteryCapacityWh / max battery.computeVoltage 1))
      parameters.maxCurrentA) maxChargeCurrent

/-- There is a value-added service of the id that the vehicle is configured with. -/
def IsMatched (serviceId : Int) (matched : List MatchedService) : Prop :=
  ∃ entry ∈ matched, entry.isEnergyService = false ∧ entry.service.id = serviceId

theorem activateDiagnostic_spec (entry : MatchedService) (battery : RealBatterySimulator) :
    ∃ testing, activateDiagnostic entry battery = .ok ⟨⟩ testing ∧
      TestsWith testing (testParameters (RealBatterySimulator.selectedVas entry)) :=
  ⟨_, rfl, rfl, rfl, rfl⟩

theorem selectVasServicesV20_spec {battery : RealBatterySimulator} {serviceId : Int}
    {matched : List MatchedService}
    (configured : battery.config.diagnosticServiceId = some serviceId) (nonzero : serviceId ≠ 0)
    (isMatched : IsMatched serviceId matched) :
    ∃ entry ∈ matched, entry.service.id = serviceId ∧ ∃ testing,
      RealBatterySimulator.selectVasServicesV20 matched battery =
        .ok (some [RealBatterySimulator.selectedVas entry]) testing ∧
      TestsWith testing (testParameters (RealBatterySimulator.selectedVas entry)) := by
  obtain ⟨entry, member, vas, named⟩ := isMatched
  have listed : entry ∈ matched.filter fun entry => !entry.isEnergyService := by
    rw [List.mem_filter, vas]
    exact ⟨member, rfl⟩
  have some : ((matched.filter fun entry => !entry.isEnergyService).find? fun entry =>
      entry.service.id = serviceId).isSome = true := by
    rw [List.find?_isSome]
    exact ⟨entry, listed, by simpa using named⟩
  obtain ⟨first, found⟩ := Option.isSome_iff_exists.mp some
  have named := List.find?_some found
  have member := List.mem_of_find?_eq_some found
  obtain ⟨testing, activates, tests⟩ := activateDiagnostic_spec first battery
  refine ⟨first, (List.mem_filter.mp member).1, by simpa using named, testing, ?_, tests⟩
  unfold RealBatterySimulator.selectVasServicesV20
  rw [get_bind_apply, configured, Option.getD_some, if_neg, if_neg nonzero, found]
  · change (activateDiagnostic first >>= fun _ => pure _) battery = _
    rw [bind_apply, activates]
    rfl
  · intro empty
    rw [List.isEmpty_iff.mp empty] at listed
    cases listed

/-- The EVCC has selected the diagnostic service, and asks for it under the id of a set that it
has, or under the id 1. -/
structure Selects (serviceId : Int) (after : World RealBatterySimulator) (entry : MatchedService) :
    Prop where
  member : entry ∈ after.session.matchedServicesV20
  named : entry.service.id = serviceId
  selected : after.session.selectedVasListV20 = some [RealBatterySimulator.selectedVas entry]
  tests : TestsWith after.controller (testParameters (RealBatterySimulator.selectedVas entry))
  asks : ∃ header energy, after.currentState.nextV2gtpMsg = some ⟨header, .serviceSelectionReq
    ⟨energy, some [selectedVas (RealBatterySimulator.selectedVas entry)]⟩⟩

theorem eq_of_selectEnergyServiceV20 {battery next : RealBatterySimulator}
    {services : List MatchedService} {selected : SelectedEnergyService}
    (answered : RealBatterySimulator.selectEnergyServiceV20 services battery = .ok selected next) :
    next = battery := by
  cases services with
  | nil => cases answered
  | cons top services =>
      obtain ⟨service, isEnergyService, isFree, parameterSets⟩ := top
      cases parameterSets with
      | nil => cases answered
      | cons parameterSet parameterSets =>
          cases answered
          rfl

theorem buildServiceSelectionReq_selects {serviceId : Int} (energyService : SelectedEnergyService)
    {world : World RealBatterySimulator}
    (configured : world.controller.config.diagnosticServiceId = some serviceId)
    (nonzero : serviceId ≠ 0) :
    Ensures (fun _ => True) (buildServiceSelectionReq energyService)
      (fun req after => after.session.matchedServicesV20 = world.session.matchedServicesV20 ∧
        (IsMatched serviceId world.session.matchedServicesV20 →
          ∃ entry ∈ world.session.matchedServicesV20, entry.service.id = serviceId ∧
            after.session.selectedVasListV20 = some [RealBatterySimulator.selectedVas entry] ∧
            TestsWith after.controller
              (testParameters (RealBatterySimulator.selectedVas entry)) ∧
            ∃ header energy, req = ⟨header, .serviceSelectionReq
              ⟨energy, some [selectedVas (RealBatterySimulator.selectedVas entry)]⟩⟩)) world := by
  unfold buildServiceSelectionReq
  apply ensures_get_bind
  apply ensures_ask_eq_bind
  intro vas controller answered
  apply ensures_updateSession_bind
  cases vas with
  | none => trivial
  | some vas =>
      apply ensures_messageHeader_bind
      · exact fun _ _ => trivial
      · intro header
        refine ⟨rfl, fun isMatched => ?_⟩
        obtain ⟨entry, member, named, testing, selects, tests⟩ :=
          selectVasServicesV20_spec configured nonzero isMatched
        cases selects.symm.trans answered
        exact ⟨entry, member, named, rfl, tests, header, _, rfl⟩

theorem onServiceDetailRes_selects {serviceId : Int} (res : ServiceDetailRes)
    {world : World RealBatterySimulator}
    (configured : world.controller.config.diagnosticServiceId = some serviceId)
    (nonzero : serviceId ≠ 0) :
    Ensures (fun _ => True) (ServiceDetail.onServiceDetailRes res)
      (fun _ after => after.currentState.nextState = some (.state .serviceSelection) →
        IsMatched serviceId after.session.matchedServicesV20 →
        ∃ entry, Selects serviceId after entry) world := by
  unfold ServiceDetail.onServiceDetailRes
  apply ensures_updateSession_bind
  apply ensures_get_bind
  split
  · apply ensures_ask_eq_bind
    intro selected controller answered
    cases eq_of_selectEnergyServiceV20 answered
    apply ensures_updateSession_bind
    apply ensures_bind (isControlModeSet_spec selected.parameterSet.parameters
      (fun _ => trivial) false nofun)
    rintro found _ ⟨controlMode, rfl, -⟩
    cases found with
    | true =>
        apply ensures_bind (buildServiceSelectionReq_selects selected ?_ nonzero)
        · rintro req after ⟨kept, selects⟩ _ isMatched
          obtain ⟨entry, member, named, selected, tests, header, energy, rfl⟩ :=
            selects (kept ▸ isMatched)
          exact ⟨entry, kept ▸ member, named, selected, tests, header, energy, rfl⟩
        · exact configured
    | false =>
        unfold requestSessionStop
        apply ensures_messageHeader_bind
        · exact fun _ _ => trivial
        · intro header leads
          cases leads
  · apply requestServiceDetail_spec
    · exact fun _ _ => trivial
    · exact fun _ => trivial
    · intro rest serviceId header requests leads
      cases leads

/-- A `ServiceDetailRes` that `ServiceDetail` accepts is processed. -/
theorem onServiceDetailRes_of_processMessage {received : Received V2GMessage Answers}
    {res : ResponseMessage} {world after : World ρ}
    (own : world.currentState.own = .serviceDetail) (response : received.message = .response res)
    (accepts : Accepts .serviceDetail res world.session)
    (processed : (machine ρ).processMessage received world = .ok ⟨⟩ after) :
    ∃ details, ServiceDetail.onServiceDetailRes details { world with calls := [] } =
      .ok ⟨⟩ after := by
  obtain ⟨good, known, expected⟩ := accepts
  obtain ⟨message, answers⟩ := received
  cases response
  obtain ⟨header, code, response⟩ := res
  cases response <;> try cases expected
  rename_i details
  change processMessage answers _ { world with calls := [] } = _ at processed
  have checked : processMessage answers (.response ⟨header, code, .serviceDetailRes details⟩)
      { world with calls := [] } =
      ServiceDetail.processMessage (.response ⟨header, code, .serviceDetailRes details⟩)
        { world with calls := [] } := by
    unfold processMessage
    simp only [Effect.get_bind_apply, own]
  rw [checked] at processed
  unfold ServiceDetail.processMessage checkMsg at processed
  dsimp only at processed
  rw [bind_checkMsg rfl] at processed
  dsimp only at processed
  rw [if_pos ⟨good, known⟩] at processed
  exact ⟨details, processed⟩

/-- With the step that goes to `ServiceSelection` the diagnostic service has been selected. -/
theorem selects_of_step {serviceId : Int} {before evcc : EVCCSession RealBatterySimulator}
    (idle : before.world.currentState.nextState = none)
    (step : (machine RealBatterySimulator).Step before input evcc) (goesOn : evcc.ended = false)
    (detail : before.world.currentState.own = .serviceDetail)
    (selection : evcc.world.currentState.own = .serviceSelection)
    (configured : before.world.controller.config.diagnosticServiceId = some serviceId)
    (nonzero : serviceId ≠ 0)
    (isMatched : IsMatched serviceId evcc.world.session.matchedServicesV20) :
    ∃ entry ∈ evcc.world.session.matchedServicesV20, entry.service.id = serviceId ∧
      evcc.world.session.selectedVasListV20 = some [RealBatterySimulator.selectedVas entry] ∧
      TestsWith evcc.world.controller (testParameters (RealBatterySimulator.selectedVas entry)) ∧
      ∃ header energy, evcc.sent.head? = some ⟨header, .serviceSelectionReq
        ⟨energy, some [selectedVas (RealBatterySimulator.selectedVas entry)]⟩⟩ := by
  obtain ⟨received, after, rfl, processed, leads'⟩ := Step.goesOnTo step goesOn
  obtain ⟨message, prepared, sent⟩ := leads'.sends
  cases post_of_eq_ok (machine_reacts (keeps_any _) idle received) processed with
  | answers res turn response accepts row leads =>
      rw [detail] at accepts
      obtain ⟨details, processed⟩ :=
        onServiceDetailRes_of_processMessage detail response accepts processed
      obtain ⟨_, same⟩ | ⟨name, goes, same⟩ := leads'.leads
      · rw [same, leads.own] at selection
        rw [detail] at row
        generalize res.response = response at row
        cases row <;> cases selection
      · rw [same] at selection isMatched ⊢
        have toSelection : name = .serviceSelection := by
          cases name <;> cases selection
          rfl
        rw [toSelection] at goes
        have spec := @onServiceDetailRes_selects serviceId details
          { before.world with calls := [] } configured nonzero
        have selects := post_of_eq_ok spec processed
        obtain ⟨entry, selects⟩ := selects goes isMatched
        obtain ⟨header, energy, asks⟩ := selects.asks
        cases prepared.symm.trans asks
        refine ⟨entry, selects.member, selects.named, selects.selected, selects.tests, header,
          energy, ?_⟩
        rw [sent]
        rfl
  | refuses _ _ currentState =>
      obtain ⟨idle, _⟩ | ⟨name, goes, _⟩ := leads'.leads
      · rw [currentState] at idle
        cases idle
      · rw [currentState] at goes
        cases goes
  | detectsWelding complete turn own row leads =>
      rw [own] at detail
      cases detail

end

end Evcc.V20

/-! ## What the SECC makes of the selection -/

/-- A diagnostic service that tests as `BatteryHealthService` does, under an id and with
parameter sets of its own. -/
structure OfferedTest where
  serviceId : Int
  parameterList : ServiceParameterList
  test : BatteryHealthService := {}

instance : DiagnosticService OfferedTest where
  serviceId := OfferedTest.serviceId
  getParameterList := OfferedTest.parameterList
  onSelected offered parameterSet battery :=
    { offered with test := offered.test.onSelected parameterSet battery }
  onCycle offered evDataContext battery :=
    .ok ((offered.test.onCycle evDataContext battery).1,
      { offered with test := (offered.test.onCycle evDataContext battery).2 })

/-- The parameters of a service. -/
def OfferedTest.testParameters (offered : OfferedTest) : TestParameters where
  cRate := offered.test.cRate
  cutoff := offered.test.cutoff
  maxCurrentA := offered.test.maxIA

/-- The set of a service for an id. -/
def OfferedTest.parameterSet (offered : OfferedTest) (parameterSetId : Int) :
    Option ParameterSet :=
  offered.parameterList.parameterSets.find? fun parameterSet => parameterSet.id = parameterSetId

theorem OfferedTest.testParameters_onSelected (offered : OfferedTest) (parameterSetId : Int)
    (battery : BatterySimulator) :
    (DiagnosticService.onSelected offered
        (ServiceRegistry.resolve offered (.id parameterSetId)) battery).testParameters =
      { cRate := ((namedValue "RequestedCRate"
          (parametersOf (offered.parameterSet parameterSetId))).map
            Int.cast).getD offered.test.cRate
        cutoff := (namedValue "CutoffSOC"
          (parametersOf (offered.parameterSet parameterSetId))).getD offered.test.cutoff
        maxCurrentA := ((namedValue "MaxTestCurrentA"
          (parametersOf (offered.parameterSet parameterSetId))).map
            Int.cast).getD offered.test.maxIA } := by
  change OfferedTest.testParameters { offered with
    test := offered.test.onSelected (offered.parameterSet parameterSetId) battery } = _
  rw [BatteryHealthService.onSelected_eq]
  rfl

/-- The service that has been selected is the active one. -/
theorem activeService_onServiceSelected {registry : ServiceRegistry OfferedTest}
    {serviceId : Int} {offered : OfferedTest} (known : registry.service serviceId = some offered)
    (parameterSet : ParameterSetArg) :
    (registry.onServiceSelected serviceId parameterSet).activeService =
      some (DiagnosticService.onSelected offered (ServiceRegistry.resolve offered parameterSet)
        registry.battery) := by
  unfold ServiceRegistry.onServiceSelected ServiceRegistry.activeService
  rw [known]
  apply ServiceRegistry.service_setService
  change (registry.service serviceId).isSome = true
  rw [known]
  rfl

section

open Secc.V20

/-- A session that goes on after a selection has selected the value-added services. -/
theorem serviceRegistry_of_step {environment : Environment}
    {secc accepted : SECCSession OfferedTest} {header : MessageHeader}
    {req : ServiceSelectionReq} {answers : Answers}
    (step : (machine environment).Step secc
      (some ⟨.request ⟨header, .serviceSelectionReq req⟩, answers⟩) accepted)
    (goesOn : accepted.ended = false) :
    accepted.world.serviceRegistry =
      selectVas secc.world.serviceRegistry (req.selectedVasList.getD []) := by
  obtain ⟨message, answers, reached, response, same, answered⟩ := step_answered step goesOn
  cases same
  have going : reached.currentState.nextState ≠ some .terminate := by
    obtain ⟨stays, _⟩ | ⟨name, leads, _⟩ := answered.goesTo
    · rw [stays]
      nofun
    · rw [leads]
      nofun
  have ended : returns (ServiceSelection.onServiceSelectionReq
      (.request ⟨header, .serviceSelectionReq req⟩) req) (fun _ next => reached = next) _ :=
    returns_of_eq_ok answered.answer rfl
  rw [answered.serviceRegistry_eq]
  unfold ServiceSelection.onServiceSelectionReq at ended
  rw [returns_bind] at ended
  have checked := returns_checkSelectedServices.mp ended
  split at checked
  next responseCode refused =>
    have stopped := (wp_stopStateMachine _ _).mp checked
    obtain ⟨_, rfl⟩ := (returns_createNextMessage _ _ _ _).mp stopped
    exact absurd rfl going
  next accepts =>
    obtain ⟨_, goes⟩ := checked
    dsimp only at goes
    rw [returns_ite, returns_ite] at goes
    split at goes
    next =>
      obtain ⟨_, rfl⟩ := (returns_createNextMessage _ _ _ _).mp goes
      rfl
    next =>
      split at goes
      next =>
        obtain ⟨_, rfl⟩ := (returns_createNextMessage _ _ _ _).mp goes
        rfl
      next =>
        have stopped := (wp_stopStateMachine _ _).mp goes
        obtain ⟨_, rfl⟩ := (returns_createNextMessage _ _ _ _).mp stopped
        exact absurd rfl going

end

/-! ## Both sides -/

/-- The simulated battery and the active service test with the same parameters. -/
def SameParameters (evcc : Evcc.V20.EVCCSession Evcc.RealBatterySimulator)
    (secc : Secc.V20.SECCSession OfferedTest) : Prop :=
  ∃ selected, evcc.world.session.selectedVasListV20 = some [selected] ∧
    Evcc.V20.TestsWith evcc.world.controller (Evcc.V20.testParameters selected) ∧
    secc.world.serviceRegistry.activeService.map OfferedTest.testParameters =
      some (Evcc.V20.testParameters selected)

/-- The value that the simulated battery goes by: the last one that is not zero, or its
default. -/
def lastNonzero (name : String) (parameters : List Parameter) (default : Int) : Int :=
  ((givenValues name parameters).filter (· ≠ 0)).getLastD default

/-- The id under which the EVCC asks for a set. -/
def setId (parameterSet : Option ParameterSet) : Int :=
  (parameterSet.map ParameterSet.id).getD 1

/-- The set that the EVCC has, and the one that the service has under the id of that, give the
same values. For the EVCC a zero is missing, and each side has its own value where one is
missing: the EVCC 5 C, 20 % and 50 A, and the service what it has tested with last. -/
structure SameReading (named : Option ParameterSet) (offered : OfferedTest) : Prop where
  cRate : (lastNonzero "RequestedCRate" (parametersOf named) 5 : ℚ) =
    ((namedValue "RequestedCRate" (parametersOf (offered.parameterSet (setId named)))).map
      Int.cast).getD offered.test.cRate
  cutoff : lastNonzero "CutoffSOC" (parametersOf named) 20 =
    (namedValue "CutoffSOC" (parametersOf (offered.parameterSet (setId named)))).getD
      offered.test.cutoff
  maxCurrent : (lastNonzero "MaxTestCurrentA" (parametersOf named) 50 : ℚ) =
    ((namedValue "MaxTestCurrentA" (parametersOf (offered.parameterSet (setId named)))).map
      Int.cast).getD offered.test.maxIA

theorem Evcc.V20.testParameters_eq (selected : SelectedVAS) :
    testParameters selected =
      { cRate := lastNonzero "RequestedCRate" (parametersOf selected.parameterSet) 5
        cutoff := lastNonzero "CutoffSOC" (parametersOf selected.parameterSet) 20
        maxCurrentA := lastNonzero "MaxTestCurrentA" (parametersOf selected.parameterSet) 50 } := by
  unfold testParameters RealBatterySimulator.diagParameters
  rw [foldl_read_eq]
  rfl

/-- In every run of the EVCC, a selection of the diagnostic service that the SECC goes on after
leaves both sides with the same parameters if and only if the set that the EVCC has received
for the service, if any, and the one of its id give the same values. -/
theorem sameParameters_iff {serviceId : Int}
    {start before evcc : Evcc.V20.EVCCSession Evcc.RealBatterySimulator}
    {responses : List (Option (Evcc.Received V2GMessage Evcc.V20.Answers))}
    {received : Option (Evcc.Received V2GMessage Evcc.V20.Answers)}
    (starts : Evcc.V20.Starts start)
    (run : Run (Evcc.V20.machine Evcc.RealBatterySimulator).Step start responses before)
    (step : (Evcc.V20.machine Evcc.RealBatterySimulator).Step before received evcc)
    (goesOn : evcc.ended = false) (detail : before.world.currentState.own = .serviceDetail)
    (selection : evcc.world.currentState.own = .serviceSelection)
    (configured : before.world.controller.config.diagnosticServiceId = some serviceId)
    (nonzero : serviceId ≠ 0)
    (isMatched : Evcc.V20.IsMatched serviceId evcc.world.session.matchedServicesV20)
    {request : RequestMessage} (asks : evcc.sent.head? = some request)
    {environment : Secc.V20.Environment} {answers : Secc.V20.Answers}
    {secc accepted : Secc.V20.SECCSession OfferedTest}
    (selects : (Secc.V20.machine environment).Step secc (some ⟨.request request, answers⟩) accepted)
    (accepts : accepted.ended = false) {offered : OfferedTest}
    (offers : secc.world.serviceRegistry.service serviceId = some offered) :
    SameParameters evcc accepted ↔
      SameReading ((Evcc.V20.receivedSets start serviceId (received :: responses)).getD []).head?
        offered := by
  obtain ⟨idle, _⟩ := Evcc.V20.waits_of_run starts run step.1
  obtain ⟨entry, member, named, selected, tests, header, energy, asked⟩ :=
    Evcc.V20.selects_of_step idle step goesOn detail selection configured nonzero isMatched
  cases asked.symm.trans asks
  have sets := Evcc.V20.holdsReceived_of_run starts (.step run step) goesOn entry member
  rw [named] at sets
  have registered := serviceRegistry_of_step selects accepts
  have active := activeService_onServiceSelected offers
    (.id (setId entry.parameterSets.head?))
  have same : accepted.world.serviceRegistry =
      secc.world.serviceRegistry.onServiceSelected serviceId
        (.id (setId entry.parameterSets.head?)) := by
    rw [registered, ← named]
    rfl
  rw [← same] at active
  rw [← sets]
  constructor
  · rintro ⟨_, chosen, _, agree⟩
    cases selected.symm.trans chosen
    rw [active, Option.map_some, Option.some.injEq, OfferedTest.testParameters_onSelected,
      Evcc.V20.testParameters_eq] at agree
    obtain ⟨cRate, cutoff, maxCurrent⟩ := TestParameters.mk.inj agree
    exact ⟨cRate.symm, cutoff.symm, maxCurrent.symm⟩
  · rintro ⟨cRate, cutoff, maxCurrent⟩
    refine ⟨_, selected, tests, ?_⟩
    rw [active, Option.map_some, OfferedTest.testParameters_onSelected,
      Evcc.V20.testParameters_eq, Option.some.injEq, TestParameters.mk.injEq]
    exact ⟨cRate.symm, cutoff.symm, maxCurrent.symm⟩

/-! ## A negotiation -/

namespace Sample

/-- Authorization without a contract. -/
def environment : Secc.V20.Environment where
  config :=
    { supportedAuthOptions := [.eim]
      allowCertInstallService := false
      standbyAllowed := false }
  verifySignature _ _ := .ok true

/-- The battery health test, with the set that it offers. -/
def healthTest : OfferedTest where
  serviceId := BatteryHealthService.serviceId
  parameterList := BatteryHealthService.getParameterList

/-- A test that is offered with the values that the simulated battery has of its own. -/
def gentleTest : OfferedTest where
  serviceId := BatteryHealthService.serviceId
  parameterList := ⟨[⟨1, [⟨"RequestedCRate", .intValue 5⟩, ⟨"MaxTestCurrentA", .intValue 50⟩,
    ⟨"CutoffSOC", .intValue 20⟩]⟩]⟩

/-- A vehicle that asks for the battery health test. -/
def testVehicle : Evcc.V20.EVCCSession Evcc.RealBatterySimulator :=
  Evcc.V20.Sample.start
    { config := { supportedEnergyServices := [.dc], diagnosticServiceId := some 101 } }

/-- A charger that offers a test. -/
def testCharger (offered : OfferedTest) : Secc.V20.SECCSession OfferedTest where
  world :=
    { session := {}
      evDataContext := {}
      evseDataContext := {}
      serviceRegistry := ⟨{}, [(101, offered)], none⟩
      currentState := { own := .sessionSetup }
      calls := [] }

def response (response : Response) (responseCode : ResponseCode := .ok) : ResponseMessage :=
  ⟨{ sessionId := "10" }, responseCode, response⟩

/-- The responses up to the details of the energy service. -/
def testResponses : List ResponseMessage :=
  [response (.serviceDetailRes ⟨2, ⟨[⟨1, [⟨"ControlMode", .intValue 2⟩]⟩]⟩⟩),
    response (.serviceDiscoveryRes ⟨false, ⟨[⟨2, true⟩]⟩, some ⟨[⟨101, true⟩]⟩⟩),
    response (.authorizationRes .finished),
    response (.authorizationSetupRes ⟨[.eim], false, none⟩),
    response (.sessionSetupRes "evse") .okNewSessionEstablished]

def received (message : ResponseMessage) : Option (Evcc.Received V2GMessage Evcc.V20.Answers) :=
  some ⟨.response message, { now := 0 }⟩

/-- The vehicle that has received all but the last of the responses. -/
def discovering : Evcc.V20.EVCCSession Evcc.RealBatterySimulator :=
  (Evcc.V20.machine Evcc.RealBatterySimulator).rcvAll testVehicle
    (testResponses.tail.map received)

/-- The vehicle that has selected the services. -/
def selecting : Evcc.V20.EVCCSession Evcc.RealBatterySimulator :=
  (Evcc.V20.machine Evcc.RealBatterySimulator).rcvAll testVehicle (testResponses.map received)

def asked (message : RequestMessage) : Option Secc.V20.Received :=
  some ⟨.request message,
    { Secc.V20.Sample.answers with getVasList := .ok (some ⟨[⟨101, true⟩]⟩) }⟩

/-- The requests of the vehicle, behind that of the session setup. -/
def testRequests : List RequestMessage :=
  discovering.sent ++ [⟨{ sessionId := "10" }, .sessionSetupReq ⟨"ev"⟩⟩]

/-- The charger that has answered the vehicle up to its selection. -/
def answering (offered : OfferedTest) : Secc.V20.SECCSession OfferedTest :=
  (Secc.V20.machine environment).rcvAll (testCharger offered)
    (testRequests.map asked)

def selection : RequestMessage :=
  ⟨{ sessionId := "10" }, .serviceSelectionReq ⟨⟨2, 1⟩, some [⟨101, 1⟩]⟩⟩

/-- The charger that has answered the selection. -/
def selected (offered : OfferedTest) : Secc.V20.SECCSession OfferedTest :=
  (Secc.V20.machine environment).rcv (answering offered) (asked selection)

end Sample

section

open Sample

/-- The vehicle has selected the test, of which it has no parameter set. -/
theorem selecting_step :
    Run (Evcc.V20.machine Evcc.RealBatterySimulator).Step testVehicle
        (testResponses.tail.map received) discovering ∧
      (Evcc.V20.machine Evcc.RealBatterySimulator).Step discovering
        (testResponses.head?.bind received) selecting ∧
      selecting.ended = false ∧ selecting.world.currentState.own = .serviceSelection ∧
      selecting.sent.head? = some selection ∧
      selecting.world.session.selectedVasListV20 = some [⟨.batteryHealthTest, true, none⟩] := by
  have goesOn : (Evcc.V20.machine Evcc.RealBatterySimulator).GoesOn testVehicle
      (testResponses.tail.map received) := by decide +kernel
  exact ⟨SessionStateMachine.run_of_goesOn goesOn, ⟨by decide +kernel, rfl⟩, by decide +kernel,
    by decide +kernel, rfl, by decide +kernel⟩

theorem gentleTest_same : SameParameters selecting (selected gentleTest) := by
  obtain ⟨run, step, goesOn, own, asks, _⟩ := selecting_step
  have configured : discovering.world.controller.config.diagnosticServiceId = some 101 := by
    decide +kernel
  have matched : selecting.world.session.matchedServicesV20 =
      [⟨.dc, true, true, [⟨1, [⟨"ControlMode", .intValue 2⟩]⟩]⟩,
        ⟨.batteryHealthTest, false, true, []⟩] := by decide +kernel
  have isMatched : Evcc.V20.IsMatched 101 selecting.world.session.matchedServicesV20 := by
    rw [matched]
    exact ⟨_, List.mem_cons_of_mem _ List.mem_cons_self, rfl, rfl⟩
  have offers : (answering gentleTest).world.serviceRegistry.service 101 = some gentleTest := by
    rfl
  have nothing : Evcc.V20.receivedSets testVehicle 101
      (testResponses.head?.bind received :: testResponses.tail.map received) = none := by
    decide +kernel
  have starts : Evcc.V20.Starts testVehicle := Evcc.V20.Sample.starts_start _
  apply (sameParameters_iff starts run step goesOn (by decide +kernel) own configured (by decide)
    isMatched asks ⟨by decide +kernel, rfl⟩ (by decide +kernel) offers).mpr
  rw [nothing]
  constructor
  · decide +kernel
  · decide +kernel
  · decide +kernel

/-- The battery health test is offered and selected. The vehicle tests with 5 C and 50 A, and the
charger with 50 C and 500 A. -/
theorem healthTest_differs :
    ∃ evcc accepted, Evcc.V20.Starts testVehicle ∧
      Run (Evcc.V20.machine Evcc.RealBatterySimulator).Step testVehicle
        (testResponses.map received) evcc ∧
      evcc.sent.head? = some selection ∧ Secc.V20.New (testCharger healthTest) ∧
      Run (Secc.V20.machine environment).Step (testCharger healthTest)
        (testRequests.map asked) (answering healthTest) ∧
      (answering healthTest).sent = testResponses ∧
      (Secc.V20.machine environment).Step (answering healthTest) (asked selection) accepted ∧
      accepted.ended = false ∧ ¬SameParameters evcc accepted := by
  obtain ⟨run, step, _, _, asks, selects⟩ := selecting_step
  have goesOn : (Secc.V20.machine environment).GoesOn (testCharger healthTest)
      (testRequests.map asked) := by decide +kernel
  refine ⟨selecting, selected healthTest, Evcc.V20.Sample.starts_start _, .step run step, asks,
    ⟨rfl, rfl, rfl⟩, SessionStateMachine.run_of_goesOn goesOn, by decide +kernel,
    ⟨by decide +kernel, rfl⟩, by decide +kernel, ?_⟩
  rintro ⟨chosen, same, _, agree⟩
  cases selects.symm.trans same
  revert agree
  decide +kernel

end

end Iso15118
