import Iso15118.Secc.V20.ServiceSelection

/-!
# The discovery of the services

What answering a `ServiceDiscoveryReq` adds to the matched services, and what becomes of them
in a run: each answer adds its services to those that are there.
-/

namespace Iso15118.Secc.V20

open Effect Transition
open Iso15118.Shared
open Iso15118.Shared.V20

variable {σ : Type}

/-! ## One answer -/

/-- The entry for an offered service that the enumeration knows. -/
def offeredEntry (isEnergyService : Bool) (parameterSets : Int → List ParameterSet)
    (offered : Service) : Option MatchedService :=
  (ServiceV20.getById offered.serviceId).map fun service =>
    ⟨service, isEnergyService, offered.freeService, parameterSets offered.serviceId⟩

/-- The entries have the ids of the services. -/
theorem ids_of_mapM {isEnergyService : Bool} {parameterSets : Int → List ParameterSet}
    {services : List Service} {entries : List MatchedService}
    (matched : services.mapM (offeredEntry isEnergyService parameterSets) = some entries) :
    entries.map (·.service.id) = services.map (·.serviceId) := by
  induction services generalizing entries with
  | nil =>
      cases matched
      rfl
  | cons offered services ih =>
      rw [List.mapM_cons] at matched
      obtain ⟨entry, first, matched⟩ := Option.bind_eq_some_iff.mp matched
      obtain ⟨others, rest, matched⟩ := Option.bind_eq_some_iff.mp matched
      obtain ⟨service, known, rfl⟩ := Option.map_eq_some_iff.mp first
      cases matched
      rw [List.map_cons, List.map_cons, ih rest, ServiceV20.id_of_getById known]

/-- A service with the id is known. -/
def Known20 (service : Service) : Prop :=
  (ServiceV20.getById service.serviceId).isSome = true

/-- There are entries for services that are known. -/
theorem exists_entries_iff {isEnergyService : Bool} {parameterSets : Int → List ParameterSet}
    {services : List Service} :
    (∃ entries, services.mapM (offeredEntry isEnergyService parameterSets) = some entries) ↔
      ∀ service ∈ services, Known20 service := by
  induction services with
  | nil => simp
  | cons offered services ih =>
      rw [List.forall_mem_cons, ← ih, List.mapM_cons, Known20, offeredEntry]
      cases ServiceV20.getById offered.serviceId with
      | none => simp
      | some service =>
          cases services.mapM (offeredEntry isEnergyService parameterSets) with
          | none => simp
          | some entries => simp

/-- A known service is appended. -/
theorem returns_appendMatched_iff {isEnergyService : Bool}
    {parameterSets : Int → List ParameterSet} {offered : Service}
    {post : PUnit → World σ → Prop} {world : World σ} :
    returns (appendMatched offered isEnergyService (parameterSets offered.serviceId)) post world ↔
      ∃ entry, offeredEntry isEnergyService parameterSets offered = some entry ∧
        post ⟨⟩ { world with
          session :=
            { world.session with
              matchedServicesV20 := world.session.matchedServicesV20 ++ [entry] } } := by
  unfold appendMatched offeredEntry
  cases ServiceV20.getById offered.serviceId with
  | none => simp
  | some service => simp

/-- All services are appended, where all are known. -/
theorem returns_forM_appendMatched (isEnergyService : Bool)
    (parameterSets : Int → List ParameterSet) {services : List Service}
    {post : PUnit → World σ → Prop} {world : World σ} :
    returns (services.forM fun offered =>
        appendMatched offered isEnergyService (parameterSets offered.serviceId)) post world ↔
      ∃ entries, services.mapM (offeredEntry isEnergyService parameterSets) = some entries ∧
        post ⟨⟩ { world with
          session :=
            { world.session with
              matchedServicesV20 := world.session.matchedServicesV20 ++ entries } } := by
  induction services generalizing world with
  | nil =>
      change post ⟨⟩ world ↔ _
      simp
  | cons offered services ih =>
      change returns (appendMatched offered isEnergyService (parameterSets offered.serviceId) >>=
        fun _ => services.forM _) post world ↔ _
      rw [returns_bind, returns_appendMatched_iff, List.mapM_cons]
      cases offeredEntry isEnergyService parameterSets offered with
      | none => simp
      | some entry =>
          simp only [Option.some.injEq, exists_eq_left', ih]
          cases services.mapM (offeredEntry isEnergyService parameterSets) with
          | none => simp
          | some entries => simp

/-- The services of a list that may be missing. -/
def listed (serviceList : Option ServiceList) : List Service :=
  (serviceList.map ServiceList.services).getD []

/-- The parameter sets that the registry has for a service. -/
def registeredSets [DiagnosticService σ] (serviceRegistry : ServiceRegistry σ)
    (serviceId : Int) : List ParameterSet :=
  ((serviceRegistry.getParameterList serviceId).map ServiceParameterList.parameterSets).getD []

/-- The services that a response offers. -/
def offeredServices (res : ServiceDiscoveryRes) : List Service :=
  res.energyServiceList.services ++ listed res.vasList

/-- The entries for the services of a response. -/
structure Entries [DiagnosticService σ] (serviceRegistry : ServiceRegistry σ)
    (res : ServiceDiscoveryRes) (energy vas : List MatchedService) : Prop where
  energy : res.energyServiceList.services.mapM (offeredEntry true fun _ => []) = some energy
  vas : (listed res.vasList).mapM (offeredEntry false (registeredSets serviceRegistry)) = some vas

/-- What the controller offers is the content of the response. -/
structure Answers.Offer (answers : Answers) (res : ServiceDiscoveryRes) : Prop where
  energyServiceList : answers.getEnergyServiceList = .ok res.energyServiceList
  vasList : answers.getVasList = .ok res.vasList
  renegotiation :
    answers.serviceRenegotiationSupported = .ok res.serviceRenegotiationSupported

/-- The world after a `ServiceDiscoveryReq` has been answered. -/
def World.discovered (world : World σ) (res : ServiceDiscoveryRes)
    (entries : List MatchedService) : World σ :=
  { world with
    session :=
      { world.session with
        matchedServicesV20 := world.session.matchedServicesV20 ++ entries }
    currentState :=
      { world.currentState.createNextMessage none
          ⟨{ sessionId := world.session.sessionId }, .ok, .serviceDiscoveryRes res⟩
          v2gSeccSequenceTimeout with
        own := .serviceDiscovery false }
    calls := .serviceRenegotiationSupported :: .getVasList :: .getEnergyServiceList ::
      world.calls }

theorem returns_appendVas_iff [DiagnosticService σ] {offeredVas : Option ServiceList}
    {post : PUnit → World σ → Prop} {world : World σ} :
    returns (ServiceDiscovery.appendVas offeredVas) post world ↔
      ∃ entries, (listed offeredVas).mapM
          (offeredEntry false (registeredSets world.serviceRegistry)) = some entries ∧
        post ⟨⟩ { world with
          session :=
            { world.session with
              matchedServicesV20 := world.session.matchedServicesV20 ++ entries } } := by
  unfold ServiceDiscovery.appendVas
  rw [returns_bind, returns_get]
  cases offeredVas with
  | none => simp [listed]
  | some offeredVas => exact returns_forM_appendMatched false (registeredSets world.serviceRegistry)

/-- When a `ServiceDiscoveryReq` is answered, and what the answer leaves behind. -/
theorem returns_onServiceDiscoveryReq [DiagnosticService σ] {answers : Answers}
    {post : PUnit → World σ → Prop} {world : World σ} :
    returns (ServiceDiscovery.onServiceDiscoveryReq answers) post world ↔
      ValidSessionId world.session.sessionId ∧
        ∃ res energy vas, answers.Offer res ∧ Entries world.serviceRegistry res energy vas ∧
          post ⟨⟩ (world.discovered res (energy ++ vas)) := by
  unfold ServiceDiscovery.onServiceDiscoveryReq
  rw [returns_bind, returns_ask]
  constructor
  · rintro ⟨energyServiceList, energyServiceList_eq, appended⟩
    rw [returns_bind] at appended
    obtain ⟨energy, energy_eq, appended⟩ :=
      (returns_forM_appendMatched true fun _ => []).mp appended
    rw [returns_bind, returns_ask] at appended
    obtain ⟨vasList, vasList_eq, appended⟩ := appended
    rw [returns_bind] at appended
    obtain ⟨vas, vas_eq, responds⟩ := returns_appendVas_iff.mp appended
    simp only [returns_bind, returns_ask, returns_createNextMessage, returns_setOwn] at responds
    obtain ⟨renegotiation, renegotiation_eq, valid, holds⟩ := responds
    refine ⟨valid, ⟨renegotiation, energyServiceList, vasList⟩, energy, vas,
      ⟨energyServiceList_eq, vasList_eq, renegotiation_eq⟩, ⟨energy_eq, vas_eq⟩, ?_⟩
    unfold World.discovered
    rw [← List.append_assoc]
    exact holds
  · rintro ⟨valid, res, energy, vas, offer, entries, holds⟩
    refine ⟨res.energyServiceList, offer.energyServiceList, ?_⟩
    rw [returns_bind]
    apply (returns_forM_appendMatched true fun _ => []).mpr
    refine ⟨energy, entries.energy, ?_⟩
    rw [returns_bind, returns_ask]
    refine ⟨res.vasList, offer.vasList, ?_⟩
    rw [returns_bind]
    apply returns_appendVas_iff.mpr
    refine ⟨vas, entries.vas, ?_⟩
    simp only [returns_bind, returns_ask, returns_createNextMessage, returns_setOwn]
    refine ⟨res.serviceRenegotiationSupported, offer.renegotiation, valid, ?_⟩
    unfold World.discovered at holds
    rw [← List.append_assoc] at holds
    exact holds

/-- The entries have the ids of the services that the response offers. -/
theorem Entries.ids [DiagnosticService σ] {serviceRegistry : ServiceRegistry σ}
    {res : ServiceDiscoveryRes} {energy vas : List MatchedService}
    (entries : Entries serviceRegistry res energy vas) :
    (energy ++ vas).map (·.service.id) = (offeredServices res).map (·.serviceId) := by
  rw [List.map_append, ids_of_mapM entries.energy, ids_of_mapM entries.vas, offeredServices,
    List.map_append]

/-! ## Runs -/

/-- The ids of the matched services. -/
def matchedIds (session : Session) : List Int :=
  session.matchedServicesV20.map (·.service.id)

/-- The `ServiceDiscoveryRes` that have been sent, the latest first. -/
def serviceDiscoveries (sent : List ResponseMessage) : List ServiceDiscoveryRes :=
  sent.filterMap fun message =>
    match message.response with
    | .serviceDiscoveryRes res => some res
    | _ => none

theorem serviceDiscoveries_cons_of_other {message : ResponseMessage}
    (other : responseTo message.response ≠ .serviceDiscoveryReq) (sent : List ResponseMessage) :
    serviceDiscoveries (message :: sent) = serviceDiscoveries sent := by
  unfold serviceDiscoveries
  apply List.filterMap_cons_none
  cases response : message.response with
  | serviceDiscoveryRes res =>
      rw [response] at other
      exact absurd rfl other
  | _ => rfl

/-- The ids that have been offered, in the order of the responses. -/
def offeredIds (responses : List ServiceDiscoveryRes) : List Int :=
  responses.reverse.flatMap fun res => (offeredServices res).map (·.serviceId)

theorem offeredIds_cons (res : ServiceDiscoveryRes) (responses : List ServiceDiscoveryRes) :
    offeredIds (res :: responses) =
      offeredIds responses ++ (offeredServices res).map (·.serviceId) := by
  simp [offeredIds]

theorem storeParameterSets_ids (serviceId : Int) (parameterSets : List ParameterSet)
    (offeredServices : List MatchedService) :
    (storeParameterSets serviceId parameterSets offeredServices).map (·.service.id) =
      offeredServices.map (·.service.id) := by
  induction offeredServices with
  | nil => rfl
  | cons offeredService others ih =>
      unfold storeParameterSets
      split
      · rfl
      · rw [List.map_cons, List.map_cons, ih]

/-- The parameter sets that are sent are stored. -/
theorem ServiceDetail.onServiceDetailReq_stores {answers : Answers} {req : ServiceDetailReq}
    (world : World σ) :
    wp (ServiceDetail.onServiceDetailReq answers req)
      (fun _ next => ∃ serviceParameterList,
        next.session.matchedServicesV20 = storeParameterSets req.serviceId
          serviceParameterList.parameterSets world.session.matchedServicesV20 ∧
        ∃ header code, next.currentState.nextV2gtpMsg =
          some ⟨header, code, .serviceDetailRes ⟨req.serviceId, serviceParameterList⟩⟩)
      (fun _ _ => True) world := by
  unfold onServiceDetailReq
  cases answers.getServiceParameterList req.serviceId with
  | error exception => simp
  | ok serviceParameterList =>
      cases serviceParameterList with
      | none => simp
      | some serviceParameterList =>
          simp only [wp_bind, wp_ask, wp_get, Except.ok.injEq, forall_eq', wp_updateSession,
            createNextMessage, wp_createMessage, wp_setOwn]
          exact ⟨⟨fun _ => ⟨serviceParameterList, rfl, _, _, rfl⟩, fun _ _ => trivial⟩,
            fun _ _ => trivial⟩

variable [DiagnosticService σ] {environment : Environment}

/-- A session between two requests. Its matched services are all that it has ever offered. -/
structure Accumulates (environment : Environment) (session : SECCSession σ) : Prop where
  resting : session.world.currentState.nextState = none
  prepares : (protocol environment).Prepares session
  matched : matchedIds session.world.session = offeredIds (serviceDiscoveries session.sent)

variable {start session next : SECCSession σ} {history : List (Option Received)}
  {input : Option Received}

theorem accumulates_start (new : New start)
    (fresh : start.world.session.matchedServicesV20 = []) : Accumulates environment start where
  resting := by rw [new.1]
  prepares := by
    intro prepared made
    rw [new.1] at made
    cases made
  matched := by
    rw [new.2.1, matchedIds, fresh]
    rfl

theorem accumulates_of_step (accumulates : Accumulates environment session)
    (step : (machine environment).Step session input next) (goesOn : next.ended = false) :
    Accumulates environment next := by
  obtain ⟨message, answers, reached, response, rfl, answered⟩ := step_answered step goesOn
  constructor
  case resting => exact answered.resting
  case prepares => exact answered.prepares accumulates.resting accumulates.prepares
  case matched =>
    rw [answered.session_eq, answered.sent]
    by_cases discovers : message.request.requestType = .serviceDiscoveryReq
    · obtain ⟨header, request⟩ := message
      cases request <;> cases discovers
      have ended : returns (ServiceDiscovery.onServiceDiscoveryReq answers)
          (fun _ next => reached = next) _ := returns_of_eq_ok answered.answer rfl
      obtain ⟨_, res, energy, vas, _, entries, rfl⟩ := returns_onServiceDiscoveryReq.mp ended
      cases answered.prepared
      change (session.world.session.matchedServicesV20 ++ (energy ++ vas)).map _ =
        offeredIds (res :: serviceDiscoveries session.sent)
      rw [offeredIds_cons, List.map_append, entries.ids, ← accumulates.matched]
      rfl
    · obtain ⟨type, same, responds⟩ := SeccProtocol.mayRespond_of_answer accumulates.prepares
        answered.answer answered.prepared
      cases type_eq_of_answeredBy same
      rw [serviceDiscoveries_cons_of_other (responds ▸ discovers), ← accumulates.matched]
      by_cases details : message.request.requestType = .serviceDetailReq
      · obtain ⟨header, request⟩ := message
        cases request <;> cases details
        obtain ⟨_, stored, _⟩ :=
          post_of_eq_ok (ServiceDetail.onServiceDetailReq_stores _) answered.answer
        rw [matchedIds, stored, storeParameterSets_ids]
        rfl
      · rw [matchedIds, matchedServicesV20_of_kept (kept_of_answered answered) discovers details]
        rfl

theorem accumulates_of_run (new : New start)
    (fresh : start.world.session.matchedServicesV20 = [])
    (run : Run (machine environment).Step start history session) (goesOn : session.ended = false) :
    Accumulates environment session := by
  induction run with
  | start => exact accumulates_start new fresh
  | step past last ih => exact accumulates_of_step (ih last.1) last goesOn

end Iso15118.Secc.V20
