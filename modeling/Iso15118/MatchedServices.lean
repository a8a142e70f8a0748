import Iso15118.Evcc.V20.Discovery
import Iso15118.Secc.V20.Discovery

/-!
# The matched services in a session

Both sides only ever append to the matched services. They are those of the latest discovery,
each once, if the earlier ones were empty; only the EVCC sees to it that there are none.
-/

namespace Iso15118

open Effect Transition
open Iso15118.Shared
open Iso15118.Shared.V20

/-! ## Lists that are appended -/

section

variable {α : Type}

/-- Nothing but the first of the lists, which is without duplicates. -/
def OnlyLatest : List (List α) → Prop
  | [] => True
  | latest :: earlier => latest.Nodup ∧ ∀ list ∈ earlier, list = []

/-- What has been appended, the latest last, has the elements of the latest and each once. -/
theorem onlyLatest_iff {lists : List (List α)} :
    lists.reverse.flatten.Nodup ∧
        (∀ element, element ∈ lists.reverse.flatten ↔ element ∈ lists.head?.getD []) ↔
      OnlyLatest lists := by
  cases lists with
  | nil => simp [OnlyLatest]
  | cons latest earlier =>
      rw [List.reverse_cons, List.flatten_append, List.flatten_singleton, List.head?_cons,
        Option.getD_some]
      constructor
      · rintro ⟨nodup, same⟩
        obtain ⟨_, latestNodup, disjoint⟩ := List.nodup_append.mp nodup
        constructor
        · exact latestNodup
        · intro list member
          apply List.eq_nil_iff_forall_not_mem.mpr
          intro element inList
          have before : element ∈ earlier.reverse.flatten :=
            List.mem_flatten.mpr ⟨list, List.mem_reverse.mpr member, inList⟩
          have after := (same element).mp (List.mem_append_left latest before)
          exact disjoint element before element after rfl
      · rintro ⟨nodup, empty⟩
        have nothing : earlier.reverse.flatten = [] := by
          apply List.flatten_eq_nil_iff.mpr
          exact fun list member => empty list (List.mem_reverse.mp member)
        rw [nothing, List.nil_append]
        exact ⟨nodup, fun _ => Iff.rfl⟩

end

/-! ## The law -/

/-- The parameter sets of the entries are those that are stored for the service. -/
def Consulted (matched : List MatchedService) (stored : Int → Option (List ParameterSet)) : Prop :=
  ∀ serviceId parameterSets, stored serviceId = some parameterSets →
    ∀ entry ∈ matched, entry.service.id = serviceId → entry.parameterSets = parameterSets

/-- There is one entry for each of the services that were found last, and its parameter sets are
the ones that have been stored for the service since then. -/
structure MatchesLatest (matched : List MatchedService) (latest : List Int)
    (stored : Int → Option (List ParameterSet)) : Prop where
  unique : (matched.map (·.service.id)).Nodup
  exact : ∀ serviceId, serviceId ∈ matched.map (·.service.id) ↔ serviceId ∈ latest
  consulted : Consulted matched stored

/-! ## The SECC -/

namespace Secc.V20

variable {σ : Type}

/-- The ids of the services that the controller offers. -/
def Answers.offeredIds (answers : Answers) : List Int :=
  match answers.getEnergyServiceList, answers.getVasList with
  | .ok energyServiceList, .ok vasList =>
      (energyServiceList.services ++ listed vasList).map (·.serviceId)
  | _, _ => []

/-- What the controller offers for a `ServiceDiscoveryReq`. -/
def offer : Option Received → Option (List Int)
  | some ⟨.request ⟨_, .serviceDiscoveryReq _⟩, answers⟩ => some answers.offeredIds
  | _ => none

/-- The ids of the services in a response. -/
def serviceIds (res : ServiceDiscoveryRes) : List Int :=
  (offeredServices res).map (·.serviceId)

theorem Answers.Offer.offeredIds {answers : Answers} {res : ServiceDiscoveryRes}
    (offer : answers.Offer res) : answers.offeredIds = serviceIds res := by
  unfold Answers.offeredIds
  rw [offer.energyServiceList, offer.vasList]
  rfl

/-- The parameter sets that the latest `ServiceDetailRes` for a service has, if the services have
not been discovered again since then. -/
def storedSets (serviceId : Int) : List ResponseMessage → Option (List ParameterSet)
  | [] => none
  | message :: sent =>
      match message.response with
      | .serviceDetailRes res =>
          if res.serviceId = serviceId then some res.serviceParameterList.parameterSets
          else storedSets serviceId sent
      | .serviceDiscoveryRes _ => none
      | _ => storedSets serviceId sent

theorem storedSets_cons_of_other (serviceId : Int) {message : ResponseMessage}
    (noDiscovery : responseTo message.response ≠ .serviceDiscoveryReq)
    (noDetail : responseTo message.response ≠ .serviceDetailReq) (sent : List ResponseMessage) :
    storedSets serviceId (message :: sent) = storedSets serviceId sent := by
  obtain ⟨header, code, response⟩ := message
  cases response
  case serviceDiscoveryRes => exact absurd rfl noDiscovery
  case serviceDetailRes => exact absurd rfl noDetail
  all_goals rfl

/-- Where no id is there twice, storing parameter sets is storing them for the id. -/
theorem parameterSets_of_storeParameterSets {serviceId : Int} {parameterSets : List ParameterSet}
    {services : List MatchedService} (unique : (services.map (·.service.id)).Nodup) :
    ∀ entry ∈ storeParameterSets serviceId parameterSets services,
      if entry.service.id = serviceId then entry.parameterSets = parameterSets
      else entry ∈ services := by
  induction services with
  | nil => nofun
  | cons service others ih =>
      obtain ⟨new, unique⟩ := List.nodup_cons.mp unique
      unfold storeParameterSets
      by_cases found : service.service.id = serviceId
      · rw [if_pos found]
        intro entry member
        obtain rfl | member := List.mem_cons.mp member
        · rw [if_pos found]
        · rw [if_neg]
          · exact List.mem_cons_of_mem _ member
          · intro again
            exact new (List.mem_map.mpr ⟨entry, member, again.trans found.symm⟩)
      · rw [if_neg found]
        intro entry member
        obtain rfl | member := List.mem_cons.mp member
        · rw [if_neg found]
          exact List.mem_cons_self
        · have stored := ih unique entry member
          split at stored
          next same => rwa [if_pos same]
          next other =>
            rw [if_neg other]
            exact List.mem_cons_of_mem _ stored

variable [DiagnosticService σ] {environment : Environment}
variable {start session next : SECCSession σ} {history : List (Option Received)}
  {input : Option Received}

/-- What is sent are the offers of the controller. -/
theorem serviceIds_of_run (new : New start) (fresh : start.world.session.matchedServicesV20 = [])
    (run : Run (machine environment).Step start history session) (goesOn : session.ended = false) :
    (serviceDiscoveries session.sent).map serviceIds = history.filterMap offer := by
  induction run with
  | start =>
      rw [new.2.1]
      rfl
  | step past last ih =>
      have accumulates := accumulates_of_run new fresh past last.1
      obtain ⟨message, answers, reached, response, rfl, answered⟩ := step_answered last goesOn
      rw [answered.sent]
      by_cases discovers : message.request.requestType = .serviceDiscoveryReq
      · obtain ⟨header, request⟩ := message
        cases request <;> cases discovers
        have ended : returns (ServiceDiscovery.onServiceDiscoveryReq answers)
            (fun _ next => reached = next) _ := returns_of_eq_ok answered.answer rfl
        obtain ⟨_, res, _, _, offer, _, rfl⟩ := returns_onServiceDiscoveryReq.mp ended
        cases answered.prepared
        change serviceIds res :: (serviceDiscoveries _).map serviceIds =
          answers.offeredIds :: _
        rw [ih last.1, offer.offeredIds]
      · obtain ⟨type, same, responds⟩ := SeccProtocol.mayRespond_of_answer accumulates.prepares
          answered.answer answered.prepared
        cases type_eq_of_answeredBy same
        rw [serviceDiscoveries_cons_of_other (responds ▸ discovers), ih last.1,
          List.filterMap_cons_none]
        obtain ⟨header, request⟩ := message
        cases request
        case serviceDiscoveryReq => exact absurd rfl discovers
        all_goals rfl

/-- Where no id is there twice, the parameter sets that have been sent last are in the entry. -/
theorem consulted_of_run (new : New start) (fresh : start.world.session.matchedServicesV20 = [])
    (run : Run (machine environment).Step start history session) (goesOn : session.ended = false)
    (unique : (matchedIds session.world.session).Nodup) :
    Consulted session.world.session.matchedServicesV20 (storedSets · session.sent) := by
  induction run with
  | start =>
      rw [new.2.1]
      nofun
  | step past last ih =>
      have accumulates := accumulates_of_run new fresh past last.1
      obtain ⟨message, answers, reached, response, rfl, answered⟩ := step_answered last goesOn
      rw [answered.session_eq] at unique ⊢
      rw [answered.sent]
      intro serviceId parameterSets stored
      by_cases discovers : message.request.requestType = .serviceDiscoveryReq
      · obtain ⟨header, request⟩ := message
        cases request <;> cases discovers
        have ended : returns (ServiceDiscovery.onServiceDiscoveryReq answers)
            (fun _ next => reached = next) _ := returns_of_eq_ok answered.answer rfl
        obtain ⟨_, res, _, _, _, _, rfl⟩ := returns_onServiceDiscoveryReq.mp ended
        cases answered.prepared
        cases stored
      by_cases details : message.request.requestType = .serviceDetailReq
      · obtain ⟨header, request⟩ := message
        cases request <;> cases details
        rename_i req
        obtain ⟨serviceParameterList, same, _, _, prepared⟩ :=
          post_of_eq_ok (ServiceDetail.onServiceDetailReq_stores _) answered.answer
        cases answered.prepared.symm.trans prepared
        rw [matchedIds, same, storeParameterSets_ids] at unique
        intro entry member id
        rw [same] at member
        have found := parameterSets_of_storeParameterSets unique entry member
        dsimp only [storedSets] at stored
        by_cases requested : req.serviceId = serviceId
        · rw [if_pos requested] at stored
          cases stored
          rwa [if_pos (id.trans requested.symm)] at found
        · rw [if_neg requested] at stored
          rw [if_neg (fun same => requested (same.symm.trans id))] at found
          exact ih last.1 unique serviceId parameterSets stored entry found id
      · have kept := matchedServicesV20_of_kept (kept_of_answered answered) discovers details
        obtain ⟨type, same, responds⟩ := SeccProtocol.mayRespond_of_answer accumulates.prepares
          answered.answer answered.prepared
        cases type_eq_of_answeredBy same
        have noDiscovery : responseTo response.response ≠ .serviceDiscoveryReq :=
          responds ▸ discovers
        have noDetail : responseTo response.response ≠ .serviceDetailReq := responds ▸ details
        dsimp only at stored
        rw [storedSets_cons_of_other serviceId noDiscovery noDetail] at stored
        rw [matchedIds, kept] at unique
        rw [kept]
        exact ih last.1 unique serviceId parameterSets stored

theorem offeredIds_eq (responses : List ServiceDiscoveryRes) :
    offeredIds responses = (responses.map serviceIds).reverse.flatten := by
  rw [offeredIds, ← List.map_reverse]
  rfl

/-- The ids of the latest `ServiceDiscoveryRes`. -/
def latestIds (sent : List ResponseMessage) : List Int :=
  ((serviceDiscoveries sent).head?.map serviceIds).getD []

/-- The matched services are those of the latest `ServiceDiscoveryRes`, each once, if and only if
the earlier ones did not offer anything, and the latest did not offer a service twice. -/
theorem matchesLatest_iff (new : New start) (fresh : start.world.session.matchedServicesV20 = [])
    (run : Run (machine environment).Step start history session) (goesOn : session.ended = false) :
    MatchesLatest session.world.session.matchedServicesV20 (latestIds session.sent)
        (storedSets · session.sent) ↔
      OnlyLatest (history.filterMap offer) := by
  have accumulated : matchedIds session.world.session =
      (history.filterMap offer).reverse.flatten := by
    rw [(accumulates_of_run new fresh run goesOn).matched, offeredIds_eq,
      serviceIds_of_run new fresh run goesOn]
  have latest : latestIds session.sent = (history.filterMap offer).head?.getD [] := by
    rw [← serviceIds_of_run new fresh run goesOn, List.head?_map]
    rfl
  rw [← onlyLatest_iff, ← accumulated, ← latest]
  constructor
  · exact fun holds => ⟨holds.unique, holds.exact⟩
  · rintro ⟨unique, exact⟩
    exact ⟨unique, exact, consulted_of_run new fresh run goesOn unique⟩

end Secc.V20

/-! ## The EVCC -/

namespace Evcc.V20

variable {ρ : Type}

/-- The ids of the services of a response that are of use: without a common energy service none,
and otherwise these and all value-added services. -/
def usableIds (res : ServiceDiscoveryRes) (supported : List ServiceV20) : List Int :=
  if matchedEnergyServices res.energyServiceList.services supported = [] then
    []
  else
    (matchedEnergyServices res.energyServiceList.services supported).map (·.service.id) ++
      ((res.vasList.map ServiceList.services).getD []).map (·.serviceId)

/-- States up to the discovery of the services. -/
def BeforeDiscovery : Own → Prop
  | .sessionSetup | .authorizationSetup | .certificateInstallation | .authorization
  | .serviceDiscovery => True
  | _ => False

/-- Only two states change the matched services. -/
theorem Row.matched_eq {contract : Contract} {own : Own} {response : Response}
    {session : Session} {turn : Turn} (row : Row contract own response session turn)
    (noDiscovery : own ≠ .serviceDiscovery) (noDetail : own ≠ .serviceDetail) :
    turn.session.matchedServicesV20 = session.matchedServicesV20 := by
  cases row
  all_goals first | rfl | exact absurd rfl noDiscovery | exact absurd rfl noDetail

theorem Row.stores {contract : Contract} {own : Own} {response : Response} {session : Session}
    {turn : Turn} (row : Row contract own response session turn) (detail : own = .serviceDetail) :
    ∃ res, response = .serviceDetailRes res ∧ turn.session.matchedServicesV20 =
      session.matchedServicesV20.map (storeParameterSets res) := by
  cases row <;> cases detail
  all_goals exact ⟨_, rfl, rfl⟩

/-- Nothing leads back to the discovery but a turn without a request. -/
theorem Row.beforeDiscovery {contract : Contract} {own : Own} {response : Response}
    {session : Session} {turn : Turn} (row : Row contract own response session turn)
    {request : Request} (requests : turn.request = some request) {waiting : Own}
    (waits : turn.waiting = some waiting) (before : BeforeDiscovery waiting) :
    BeforeDiscovery own ∧ own ≠ .serviceDiscovery := by
  cases row <;> cases waits
  all_goals first | (cases before; done) | (cases requests; done) | exact ⟨trivial, nofun⟩

theorem ids_of_matchedVas {vasServices : List Service} {vas : List MatchedService}
    (matched : vasServices.mapM matchedVas = some vas) :
    vas.map (·.service.id) = vasServices.map (·.serviceId) :=
  @Secc.V20.ids_of_mapM false (fun _ => []) _ _ matched

/-- Of the first response all that is of use is matched. -/
theorem Discovers.ids {session : Session} {res : ServiceDiscoveryRes} {supported : List ServiceV20}
    {matched : List MatchedService} (discovers : Discovers session res supported matched)
    (nothing : session.matchedServicesV20 = []) :
    matched.map (·.service.id) = usableIds res supported := by
  unfold Discovers at discovers
  unfold usableIds
  rw [nothing, List.nil_append] at discovers
  by_cases common : matchedEnergyServices res.energyServiceList.services supported = []
  · rw [if_pos common] at discovers ⊢
    rw [discovers]
    rfl
  · rw [if_neg common] at discovers ⊢
    obtain ⟨_, vas, known, rfl⟩ := discovers
    rw [List.map_append, ids_of_matchedVas known]

theorem consulted_map {matched : List MatchedService} {stored : Int → Option (List ParameterSet)}
    (consulted : Consulted matched stored) (res : ServiceDetailRes) :
    Consulted (matched.map (storeParameterSets res)) fun serviceId =>
      if res.serviceId = serviceId then some res.serviceParameterList.parameterSets
      else stored serviceId := by
  intro serviceId parameterSets found entry member id
  obtain ⟨entry, before, rfl⟩ := List.mem_map.mp member
  dsimp only at found
  unfold storeParameterSets at id ⊢
  by_cases same : entry.service.id = res.serviceId
  · rw [if_pos same] at id ⊢
    rw [if_pos (same.symm.trans id)] at found
    exact Option.some.inj found
  · rw [if_neg same] at id ⊢
    rw [if_neg (fun requested => same (id.trans requested.symm))] at found
    exact consulted serviceId parameterSets found entry before id

variable [EVController ρ]

/-- What is discovered with an input. -/
def discovered (session : EVCCSession ρ) (input : Option (Received V2GMessage Answers)) :
    Option (List Int) :=
  match session.world.currentState.own, input with
  | .serviceDiscovery, some ⟨.response ⟨_, _, .serviceDiscoveryRes res⟩, _⟩ =>
      match EVController.getSupportedEnergyServices session.world.controller with
      | .ok supported _ => some (usableIds res supported)
      | .error _ _ => none
  | _, _ => none

/-- All that is discovered in a run, the latest first. -/
def discoveries (start : EVCCSession ρ) :
    List (Option (Received V2GMessage Answers)) → List (List Int)
  | [] => []
  | input :: history =>
      (discovered ((machine ρ).rcvAll start history) input).toList ++ discoveries start history

/-- The parameter sets that are received with an input. -/
def detailed (session : EVCCSession ρ) (input : Option (Received V2GMessage Answers)) :
    Option ServiceDetailRes :=
  match session.world.currentState.own, input with
  | .serviceDetail, some ⟨.response ⟨_, _, .serviceDetailRes res⟩, _⟩ => some res
  | _, _ => none

/-- The parameter sets for a service that have been received last in a run. -/
def receivedSets (start : EVCCSession ρ) (serviceId : Int) :
    List (Option (Received V2GMessage Answers)) → Option (List ParameterSet)
  | [] => none
  | input :: history =>
      match detailed ((machine ρ).rcvAll start history) input with
      | some res =>
          if res.serviceId = serviceId then some res.serviceParameterList.parameterSets
          else receivedSets start serviceId history
      | none => receivedSets start serviceId history

theorem discovered_of_ne {session : EVCCSession ρ}
    {input : Option (Received V2GMessage Answers)}
    (other : session.world.currentState.own ≠ .serviceDiscovery) :
    discovered session input = none := by
  unfold discovered
  split
  next own => exact absurd own other
  next => rfl

omit [EVController ρ] in
theorem detailed_of_ne {session : EVCCSession ρ} {input : Option (Received V2GMessage Answers)}
    (other : session.world.currentState.own ≠ .serviceDetail) : detailed session input = none := by
  unfold detailed
  split
  next own => exact absurd own other
  next => rfl

variable {start session next : EVCCSession ρ}
  {history : List (Option (Received V2GMessage Answers))}
  {input : Option (Received V2GMessage Answers)}

theorem discoveries_cons_of_ne
    (other : ((machine ρ).rcvAll start history).world.currentState.own ≠ .serviceDiscovery) :
    discoveries start (input :: history) = discoveries start history := by
  rw [discoveries, discovered_of_ne other]
  rfl

theorem receivedSets_cons_of_ne (serviceId : Int)
    (other : ((machine ρ).rcvAll start history).world.currentState.own ≠ .serviceDetail) :
    receivedSets start serviceId (input :: history) = receivedSets start serviceId history := by
  rw [receivedSets, detailed_of_ne other]

/-- The matched services are what has been discovered. Before the discovery there are none. -/
structure DiscoveredOnce (start : EVCCSession ρ)
    (history : List (Option (Received V2GMessage Answers))) (session : EVCCSession ρ) : Prop where
  before : BeforeDiscovery session.world.currentState.own →
    discoveries start history = [] ∧ session.world.session.matchedServicesV20 = [] ∧
      ∀ serviceId, receivedSets start serviceId history = none
  matched : session.world.session.matchedServicesV20.map (·.service.id) =
    (discoveries start history).head?.getD []
  consulted : Consulted session.world.session.matchedServicesV20
    (receivedSets start · history)

/-- A turn in `ServiceDiscovery` makes the one discovery. -/
theorem DiscoveredOnce.discovery
    (once : DiscoveredOnce start history session)
    (same : session = (machine ρ).rcvAll start history)
    (own : session.world.currentState.own = .serviceDiscovery)
    {received : Received V2GMessage Answers} {res : ResponseMessage} {turn : Turn}
    {after : World ρ} (response : received.message = .response res)
    (accepts : Accepts session.world.currentState.own res session.world.session)
    (processed : (machine ρ).processMessage received session.world = .ok ⟨⟩ after)
    (row : Row {} session.world.currentState.own res.response session.world.session turn)
    {request : Request} (requests : turn.request = some request)
    (waiting : turn.waiting = some next.world.currentState.own)
    (leads : next.world.session = after.session) :
    DiscoveredOnce start (some received :: history) next := by
  rw [own] at accepts
  obtain ⟨discovery, supported, controller, discovers, answered, matched⟩ :=
    discovers_of_processMessage own response accepts processed
  obtain ⟨none, nothing, noSets⟩ := once.before (by rw [own]; trivial)
  constructor
  · intro before
    exact absurd own (row.beforeDiscovery requests waiting before).2
  · have found : discovered session (some received) = some (usableIds discovery supported) := by
      obtain ⟨message, answers⟩ := received
      obtain ⟨header, code, response'⟩ := res
      cases response
      cases discovers
      unfold discovered
      simp only [own, answered]
    rw [leads, matched.ids nothing, discoveries, ← same, found]
    rfl
  · intro serviceId parameterSets received
    dsimp only at received
    rw [receivedSets_cons_of_ne serviceId (by rw [← same, own]; nofun), noSets] at received
    cases received

/-- A turn in `ServiceDetail` stores what is received. -/
theorem DiscoveredOnce.detail
    (once : DiscoveredOnce start history session)
    (same : session = (machine ρ).rcvAll start history)
    (own : session.world.currentState.own = .serviceDetail)
    {received : Received V2GMessage Answers} {res : ResponseMessage} {turn : Turn}
    (response : received.message = .response res)
    (row : Row {} session.world.currentState.own res.response session.world.session turn)
    {request : Request} (requests : turn.request = some request)
    (waiting : turn.waiting = some next.world.currentState.own)
    (leads : next.world.session = turn.session) :
    DiscoveredOnce start (some received :: history) next := by
  obtain ⟨details, detailed', stored⟩ := row.stores own
  constructor
  · intro before
    have before := (row.beforeDiscovery requests waiting before).1
    rw [own] at before
    cases before
  · rw [discoveries_cons_of_ne (by rw [← same, own]; nofun), ← once.matched, leads, stored,
      List.map_map]
    apply List.map_congr_left
    intro entry _
    dsimp only [Function.comp_apply, storeParameterSets]
    split <;> rfl
  · have found : detailed session (some received) = some details := by
      obtain ⟨message, answers⟩ := received
      obtain ⟨header, code, response'⟩ := res
      cases response
      cases detailed'
      unfold detailed
      simp only [own]
    rw [leads, stored]
    simp only [receivedSets, ← same, found]
    exact consulted_map once.consulted details

/-- A turn in another state leaves all as it is. -/
theorem DiscoveredOnce.other
    (once : DiscoveredOnce start history session)
    (same : session = (machine ρ).rcvAll start history)
    (noDiscovery : session.world.currentState.own ≠ .serviceDiscovery)
    (noDetail : session.world.currentState.own ≠ .serviceDetail)
    (kept : next.world.session.matchedServicesV20 = session.world.session.matchedServicesV20)
    (before : BeforeDiscovery next.world.currentState.own →
      BeforeDiscovery session.world.currentState.own) :
    DiscoveredOnce start (input :: history) next := by
  have sets : ∀ serviceId, receivedSets start serviceId (input :: history) =
      receivedSets start serviceId history :=
    fun serviceId => receivedSets_cons_of_ne serviceId (same ▸ noDetail)
  have found : discoveries start (input :: history) = discoveries start history :=
    discoveries_cons_of_ne (same ▸ noDiscovery)
  constructor
  · intro early
    rw [found, kept]
    simp only [sets]
    exact once.before (before early)
  · rw [found, kept]
    exact once.matched
  · rw [kept]
    simp only [sets]
    exact once.consulted

theorem DiscoveredOnce.step
    (once : DiscoveredOnce start history session)
    (same : session = (machine ρ).rcvAll start history)
    (idle : session.world.currentState.nextState = none) (waits : Waits session)
    (step : (machine ρ).Step session input next) (goesOn : next.ended = false) :
    DiscoveredOnce start (input :: history) next := by
  obtain ⟨received, after, rfl, processed, leads'⟩ := Step.goesOnTo step goesOn
  cases post_of_eq_ok (machine_reacts (keeps_any ρ) idle received) processed with
  | answers res turn response accepts row leads =>
      obtain ⟨header, request, requests, sent⟩ := leads'.requests leads
        fun silent _ waiting => row.leftover_of_silent silent waiting waits.leftover
      have waiting := leads'.waiting leads
      by_cases discovery : session.world.currentState.own = .serviceDiscovery
      · exact once.discovery same discovery response accepts processed row requests waiting
          leads'.session
      by_cases detail : session.world.currentState.own = .serviceDetail
      · exact once.detail same detail response row requests waiting
          (leads'.session.trans leads.session)
      · apply once.other same discovery detail
        · rw [leads'.session, leads.session, row.matched_eq discovery detail]
        · exact fun before => (row.beforeDiscovery requests waiting before).1
  | refuses _ _ currentState =>
      obtain ⟨idle, _⟩ | ⟨name, goes, _⟩ := leads'.leads
      · rw [currentState] at idle
        cases idle
      · rw [currentState] at goes
        cases goes
  | detectsWelding complete turn own row leads =>
      have waiting := leads'.waiting leads
      have session := leads'.session.trans leads.session
      apply once.other same (by rw [own]; nofun) (by rw [own]; nofun)
      · rw [session]
        cases row <;> rfl
      · intro before
        generalize next.world.currentState.own = own' at waiting before
        cases row <;> cases waiting <;> cases before

theorem discoveredOnce_of_run (starts : Starts start)
    (run : Run (machine ρ).Step start history session) (goesOn : session.ended = false) :
    DiscoveredOnce start history session := by
  induction run with
  | start =>
      obtain ⟨points, sessionId, fresh⟩ := starts.fresh
      constructor
      · intro _
        rw [fresh]
        exact ⟨rfl, rfl, fun _ => rfl⟩
      · rw [fresh]
        rfl
      · nofun
  | step past last ih =>
      obtain ⟨idle, waits⟩ := waits_of_run starts past last.1
      exact (ih last.1).step (SessionStateMachine.eq_rcvAll_of_run past) idle waits last goesOn

/-- The matched services are those of use in the latest `ServiceDiscoveryRes`, each once, if and
only if none is there twice. -/
theorem matchesLatest_iff (starts : Starts start)
    (run : Run (machine ρ).Step start history session) (goesOn : session.ended = false) :
    MatchesLatest session.world.session.matchedServicesV20
        ((discoveries start history).head?.getD []) (receivedSets start · history) ↔
      ((discoveries start history).head?.getD []).Nodup := by
  obtain ⟨_, matched, consulted⟩ := discoveredOnce_of_run starts run goesOn
  constructor
  · intro holds
    rw [← matched]
    exact holds.unique
  · intro unique
    rw [← matched] at unique ⊢
    exact ⟨unique, fun _ => Iff.rfl, consulted⟩

end Evcc.V20

/-! ## Both sides -/

open Secc.V20 in
/-- In every run of the SECC and in every run of the EVCC, the matched services are those of the
latest `ServiceDiscoveryRes` if and only if nothing has been offered before and nothing is there
twice. On the EVCC there is no discovery before the latest. -/
theorem matchesLatest_iff_of_run {σ ρ : Type} [DiagnosticService σ] [Evcc.V20.EVController ρ]
    {environment : Environment} {seccStart secc : SECCSession σ}
    {requests : List (Option Secc.V20.Received)} {evccStart evcc : Evcc.V20.EVCCSession ρ}
    {responses : List (Option (Evcc.Received V2GMessage Evcc.V20.Answers))}
    (new : New seccStart) (fresh : seccStart.world.session.matchedServicesV20 = [])
    (seccRun : Run (machine environment).Step seccStart requests secc)
    (seccGoesOn : secc.ended = false) (starts : Evcc.V20.Starts evccStart)
    (evccRun : Run (Evcc.V20.machine ρ).Step evccStart responses evcc)
    (evccGoesOn : evcc.ended = false) :
    (MatchesLatest secc.world.session.matchedServicesV20 (latestIds secc.sent)
        (storedSets · secc.sent) ↔ OnlyLatest (requests.filterMap offer)) ∧
      (MatchesLatest evcc.world.session.matchedServicesV20
          ((Evcc.V20.discoveries evccStart responses).head?.getD [])
          (Evcc.V20.receivedSets evccStart · responses) ↔
        ((Evcc.V20.discoveries evccStart responses).head?.getD []).Nodup) :=
  ⟨Secc.V20.matchesLatest_iff new fresh seccRun seccGoesOn,
    Evcc.V20.matchesLatest_iff starts evccRun evccGoesOn⟩

namespace Sample

open Secc.V20.Sample

/-- A session up to the discovery of the services, which is asked for once or twice. -/
def discoveryRequests (again : Bool) : List (Option Secc.V20.Received) :=
  (if again then [request (.serviceDiscoveryReq ⟨none⟩)] else []) ++
    request (.serviceDiscoveryReq ⟨none⟩) :: authorizationHistory answers

def discoveryResponses : List (Option (Evcc.Received V2GMessage Evcc.V20.Answers)) :=
  Evcc.V20.Sample.discoveryHistory .dc false

end Sample

open Sample Secc.V20.Sample in
theorem sample_matchesLatest :
    MatchesLatest ((Secc.V20.machine environment).rcvAll start
        (discoveryRequests false)).world.session.matchedServicesV20 [2]
      (Secc.V20.storedSets · ((Secc.V20.machine environment).rcvAll start
        (discoveryRequests false)).sent) ∧
      (Evcc.V20.discoveries (Evcc.V20.Sample.start (Evcc.V20.Sample.SteadyController.mk .dc))
        discoveryResponses).head? = some [2] := by
  have seccGoesOn : (Secc.V20.machine environment).GoesOn start (discoveryRequests false) := by
    decide +kernel
  have evccGoesOn : (Evcc.V20.machine Evcc.V20.Sample.SteadyController).GoesOn
      (Evcc.V20.Sample.start ⟨.dc⟩) discoveryResponses := by decide +kernel
  have both := matchesLatest_iff_of_run Secc.V20.Sample.new_start rfl
    (SessionStateMachine.run_of_goesOn seccGoesOn) (by decide +kernel)
    (Evcc.V20.Sample.starts_start _) (SessionStateMachine.run_of_goesOn evccGoesOn)
    (by decide +kernel)
  constructor
  · have latest : Secc.V20.latestIds ((Secc.V20.machine environment).rcvAll start
        (discoveryRequests false)).sent = [2] := by decide +kernel
    rw [← latest]
    exact both.1.mpr ⟨by decide +kernel, by decide +kernel⟩
  · decide +kernel

open Sample Secc.V20.Sample in
/-- A second `ServiceDiscoveryReq` is answered, and the service is there twice. -/
theorem sample_matched_twice : ∃ session,
    Run (Secc.V20.machine environment).Step start (discoveryRequests true) session ∧
      session.ended = false ∧
      ¬MatchesLatest session.world.session.matchedServicesV20 (Secc.V20.latestIds session.sent)
        (Secc.V20.storedSets · session.sent) := by
  have goesOn : (Secc.V20.machine environment).GoesOn start (discoveryRequests true) := by
    decide +kernel
  refine ⟨_, SessionStateMachine.run_of_goesOn goesOn, by decide +kernel, fun holds => ?_⟩
  exact absurd holds.unique (by decide +kernel)

end Iso15118
