import Iso15118.Evcc.V20.Discovery
import Iso15118.Secc.V20.Discovery
import Mathlib.Data.Finset.Card
import Mathlib.Data.Finset.Dedup

/-!
# The offer of the diagnostic services

From the services that are registered, over what the SECC offers of them, to what both sides
record when the services are discovered. It takes ids that the enumeration knows, no more than
eight of them, and an EVCC that supports them all.
-/

namespace Iso15118

open Effect Transition
open Iso15118.Shared
open Iso15118.Shared.V20

section

variable {σ : Type} [DiagnosticService σ]

/-- `get_vas_list` of the simulated EVSE, which does not look at the supported services. -/
def SimEVSEController.getVasList (serviceRegistry : ServiceRegistry σ)
    (_supportedServiceIds : Option (List Int)) : Except PyError (Option ServiceList) :=
  serviceRegistry.getVasList

/-- The registry after some services have been registered. -/
def registry (services : List σ) : ServiceRegistry σ :=
  ServiceRegistry.registerAll ⟨{}, [], none⟩ services

theorem nodup_ids (services : List σ) : (registry services).ids.Nodup := by
  apply ServiceRegistry.nodup_ids_registerAll
  exact List.nodup_nil

theorem mem_ids_iff {services : List σ} {serviceId : Int} :
    serviceId ∈ (registry services).ids ↔
      serviceId ∈ services.map DiagnosticService.serviceId := by
  rw [registry, ServiceRegistry.mem_ids_registerAll]
  simp [ServiceRegistry.ids]

/-- The number of different ids. -/
theorem length_ids (services : List σ) :
    (registry services).ids.length = (services.map DiagnosticService.serviceId).toFinset.card := by
  rw [← List.toFinset_card_of_nodup (nodup_ids services)]
  congr 1
  ext serviceId
  rw [List.mem_toFinset, List.mem_toFinset, mem_ids_iff]

omit [DiagnosticService σ] in
/-- A list is offered of up to eight services. -/
theorem getVasList_eq_ok_iff {serviceRegistry : ServiceRegistry σ} {vasList : Option ServiceList} :
    serviceRegistry.getVasList = .ok vasList ↔
      serviceRegistry.ids.length ≤ 8 ∧
        vasList = if serviceRegistry.ids = [] then none
          else some ⟨serviceRegistry.ids.map fun serviceId => ⟨serviceId, true⟩⟩ := by
  unfold ServiceRegistry.getVasList ServiceRegistry.ids ServiceList.new
  cases serviceRegistry.services with
  | nil => simp [eq_comm]
  | cons entry entries =>
      rw [List.length_map, List.length_map, List.map_map]
      by_cases few : (entry :: entries).length ≤ 8
      · rw [if_neg (by simp), if_pos few, if_neg (by simp)]
        simp only [few, true_and, Except.map, Except.ok.injEq]
        exact eq_comm
      · rw [if_neg (by simp), if_neg few]
        simp only [few, false_and, Except.map, reduceCtorEq]

/-! ## The law -/

/-- The ids of the value-added services in a response. -/
def vasIds (res : ServiceDiscoveryRes) : List Int :=
  (Secc.V20.listed res.vasList).map (·.serviceId)

/-- A response offers, in a valid list, those of the registered services that are supported.
A request that does not say which are is for all of them. -/
structure OffersRegistered (services : List σ) (req : ServiceDiscoveryReq)
    (res : ServiceDiscoveryRes) : Prop where
  valid : ∀ vasList, res.vasList = some vasList → ServiceList.new vasList.services = .ok vasList
  offered : ∀ serviceId, serviceId ∈ vasIds res ↔
    serviceId ∈ services.map DiagnosticService.serviceId ∧
      ∀ supported, req.supportedServiceIds = some supported → serviceId ∈ supported

/-- There is a matched service for each value-added service in the response. -/
def Records (res : ServiceDiscoveryRes) (matched : List MatchedService) : Prop :=
  ∀ serviceId ∈ vasIds res,
    ∃ entry ∈ matched, entry.service.id = serviceId ∧ entry.isEnergyService = false

variable {ρ : Type} [Evcc.V20.EVController ρ]

/-- The registered services are offered, and both sides record them. -/
def Offered (services : List σ) (req : ServiceDiscoveryReq) (answers : Secc.V20.Answers)
    (secc : Secc.V20.World σ) (evcc : Evcc.V20.World ρ) : Prop :=
  returns (Secc.V20.ServiceDiscovery.onServiceDiscoveryReq
      { answers with
        getVasList :=
          SimEVSEController.getVasList (registry services) req.supportedServiceIds })
    (fun _ after => ∃ header res,
      after.currentState.nextV2gtpMsg = some ⟨header, .ok, .serviceDiscoveryRes res⟩ ∧
        OffersRegistered services req res ∧ Records res after.session.matchedServicesV20 ∧
        returns (Evcc.V20.ServiceDiscovery.onServiceDiscoveryRes res)
          (fun _ after => Records res after.session.matchedServicesV20) evcc)
    { secc with serviceRegistry := registry services }

/-- The registered services go into a list, are known, and are all supported by the EVCC. -/
structure Fits (services : List σ) (req : ServiceDiscoveryReq) : Prop where
  few : (services.map DiagnosticService.serviceId).toFinset.card ≤ 8
  known : ∀ serviceId ∈ services.map DiagnosticService.serviceId,
    (ServiceV20.getById serviceId).isSome = true
  supported : ∀ supported, req.supportedServiceIds = some supported →
    ∀ serviceId ∈ services.map DiagnosticService.serviceId, serviceId ∈ supported

/-- What else is needed: controllers that answer, and an energy service that they have in
common before the EVCC looks at the other services. -/
structure Discoverable (services : List σ) (answers : Secc.V20.Answers)
    (secc : Secc.V20.World σ) (evcc : ρ) : Prop where
  sessionId : ValidSessionId secc.session.sessionId
  renegotiation : ∃ supported, answers.serviceRenegotiationSupported = .ok supported
  energy : ∃ energyServiceList supported controller,
    answers.getEnergyServiceList = .ok energyServiceList ∧
      (∀ service ∈ energyServiceList.services, Secc.V20.Known20 service) ∧
      Evcc.V20.EVController.getSupportedEnergyServices evcc = .ok supported controller ∧
      (services = [] ∨ ∃ service ∈ energyServiceList.services,
        ∃ requested ∈ supported, requested.id = service.serviceId)

/-! ## What is recorded -/

theorem isEnergyService_of_mapM {isEnergyService : Bool} {parameterSets : Int → List ParameterSet}
    {offered : List Service} {entries : List MatchedService}
    (matched : offered.mapM (Secc.V20.offeredEntry isEnergyService parameterSets) = some entries) :
    ∀ entry ∈ entries, entry.isEnergyService = isEnergyService := by
  induction offered generalizing entries with
  | nil =>
      cases matched
      nofun
  | cons service offered ih =>
      rw [List.mapM_cons] at matched
      obtain ⟨entry, first, matched⟩ := Option.bind_eq_some_iff.mp matched
      obtain ⟨others, rest, matched⟩ := Option.bind_eq_some_iff.mp matched
      obtain ⟨service, known, rfl⟩ := Option.map_eq_some_iff.mp first
      cases matched
      exact List.forall_mem_cons.mpr ⟨rfl, ih rest⟩

/-- The entries for the value-added services are a record of them, with others before them. -/
theorem records_of_mapM {res : ServiceDiscoveryRes} {parameterSets : Int → List ParameterSet}
    {entries : List MatchedService}
    (matched : (Secc.V20.listed res.vasList).mapM
      (Secc.V20.offeredEntry false parameterSets) = some entries)
    (others : List MatchedService) : Records res (others ++ entries) := by
  intro serviceId offered
  rw [vasIds, ← Secc.V20.ids_of_mapM matched] at offered
  obtain ⟨entry, member, same⟩ := List.mem_map.mp offered
  exact ⟨entry, List.mem_append_right others member, same,
    isEnergyService_of_mapM matched entry member⟩

theorem exists_common_iff {offered : List Service} {supported : List ServiceV20} :
    Evcc.V20.matchedEnergyServices offered supported ≠ [] ↔
      ∃ service ∈ offered, ∃ requested ∈ supported, requested.id = service.serviceId := by
  simp [Evcc.V20.matchedEnergyServices]

/-- What the EVCC takes to record the value-added services, when there is nothing matched. -/
theorem returns_records_iff {res : ServiceDiscoveryRes} {evcc : Evcc.V20.World ρ}
    (valid : ValidSessionId evcc.session.sessionId)
    (nothing : evcc.session.matchedServicesV20 = []) :
    returns (Evcc.V20.ServiceDiscovery.onServiceDiscoveryRes res)
        (fun _ after => Records res after.session.matchedServicesV20) evcc ↔
      ∃ supported controller,
        Evcc.V20.EVController.getSupportedEnergyServices evcc.controller =
          .ok supported controller ∧
        (∀ service ∈ Secc.V20.listed res.vasList, Secc.V20.Known20 service) ∧
        (vasIds res = [] ∨ ∃ service ∈ res.energyServiceList.services,
          ∃ requested ∈ supported, requested.id = service.serviceId) := by
  rw [Evcc.V20.returns_onServiceDiscoveryRes]
  apply exists_congr
  intro supported
  apply exists_congr
  intro controller
  apply and_congr_right
  intro _
  unfold Evcc.V20.Discovers
  rw [nothing, List.nil_append, ← exists_common_iff]
  by_cases common :
      Evcc.V20.matchedEnergyServices res.energyServiceList.services supported = []
  · simp only [common, ↓reduceIte, exists_eq_left, ne_eq, not_true_eq_false, or_false]
    constructor
    · rintro ⟨_, records⟩
      have none : vasIds res = [] := by
        apply List.eq_nil_iff_forall_not_mem.mpr
        intro serviceId offered
        obtain ⟨_, member, _⟩ := records serviceId offered
        exact List.not_mem_nil member
      exact ⟨by simp [List.map_eq_nil_iff.mp none], none⟩
    · rintro ⟨_, none⟩
      refine ⟨valid, fun serviceId offered => ?_⟩
      rw [none] at offered
      exact absurd offered List.not_mem_nil
  · simp only [common, ↓reduceIte, ne_eq, not_false_eq_true, or_true, and_true]
    rw [← @Secc.V20.exists_entries_iff false fun _ => []]
    constructor
    · rintro ⟨_, _, ⟨_, vas, known, _⟩, _⟩
      exact ⟨vas, known⟩
    · rintro ⟨vas, known⟩
      refine ⟨valid, _, ⟨?_, vas, known, rfl⟩, records_of_mapM known _⟩
      exact fun none => common (List.map_eq_nil_iff.mp (List.append_eq_nil_iff.mp none).2)

/-! ## When the services can be offered -/

/-- What the response offers is what is registered. -/
theorem vasIds_eq {services : List σ} {res : ServiceDiscoveryRes}
    (answered : (registry services).getVasList = .ok res.vasList) :
    (services.map DiagnosticService.serviceId).toFinset.card ≤ 8 ∧
      vasIds res = (registry services).ids := by
  obtain ⟨few, offered⟩ := getVasList_eq_ok_iff.mp answered
  constructor
  · rwa [← length_ids]
  · rw [vasIds, offered]
    by_cases none : (registry services).ids = []
    · rw [if_pos none, none]
      rfl
    · rw [if_neg none]
      simp only [Secc.V20.listed, Option.map_some, Option.getD_some, List.map_map]
      exact List.map_id _

theorem ids_eq_nil_iff {services : List σ} : (registry services).ids = [] ↔ services = [] := by
  rw [List.eq_nil_iff_forall_not_mem]
  simp only [mem_ids_iff]
  rw [← List.eq_nil_iff_forall_not_mem, List.map_eq_nil_iff]

/-- A response that offers what is registered does as is asked for where all is supported. -/
theorem offersRegistered_iff {services : List σ} {req : ServiceDiscoveryReq}
    {res : ServiceDiscoveryRes} (answered : (registry services).getVasList = .ok res.vasList) :
    OffersRegistered services req res ↔
      ∀ supported, req.supportedServiceIds = some supported →
        ∀ serviceId ∈ services.map DiagnosticService.serviceId, serviceId ∈ supported := by
  obtain ⟨few, offered⟩ := vasIds_eq answered
  constructor
  · intro offers supported limits serviceId registered
    have offered : serviceId ∈ vasIds res := by rwa [offered, mem_ids_iff]
    exact ((offers.offered serviceId).mp offered).2 supported limits
  · intro all
    constructor
    · intro vasList offers
      have length : vasList.services.length = (vasIds res).length := by
        rw [vasIds, offers]
        exact (List.length_map _).symm
      unfold ServiceList.new
      rw [if_pos (by rwa [length, offered, length_ids])]
    · intro serviceId
      rw [offered, mem_ids_iff]
      constructor
      · exact fun registered =>
          ⟨registered, fun supported limits => all supported limits serviceId registered⟩
      · exact And.left

/-- The services of the response are known where the registered ones are. -/
theorem known_vas_iff {services : List σ} {res : ServiceDiscoveryRes}
    (offered : vasIds res = (registry services).ids) :
    (∀ service ∈ Secc.V20.listed res.vasList, Secc.V20.Known20 service) ↔
      ∀ serviceId ∈ services.map DiagnosticService.serviceId,
        (ServiceV20.getById serviceId).isSome = true := by
  simp only [← mem_ids_iff, ← offered]
  rw [vasIds, List.forall_mem_map]
  exact Iff.rfl

theorem Offered.fits {services : List σ} {req : ServiceDiscoveryReq}
    {answers : Secc.V20.Answers} {secc : Secc.V20.World σ} {evcc : Evcc.V20.World ρ}
    (offered : Offered services req answers secc evcc) : Fits services req := by
  obtain ⟨_, res, energy, vas, offer, entries, _, _, prepared, offers, _, _⟩ :=
    Secc.V20.returns_onServiceDiscoveryReq.mp offered
  cases prepared
  obtain ⟨few, same⟩ := vasIds_eq offer.vasList
  constructor
  · exact few
  · exact (known_vas_iff same).mp (Secc.V20.exists_entries_iff.mp ⟨vas, entries.vas⟩)
  · exact (offersRegistered_iff offer.vasList).mp offers

/-- The services that are registered are offered and recorded if and only if they fit, where a
discovery is possible at all. -/
theorem offered_iff {services : List σ} {req : ServiceDiscoveryReq} {answers : Secc.V20.Answers}
    {secc : Secc.V20.World σ} {evcc : Evcc.V20.World ρ}
    (valid : ValidSessionId evcc.session.sessionId)
    (nothing : evcc.session.matchedServicesV20 = []) :
    Offered services req answers secc evcc ↔
      Fits services req ∧ Discoverable services answers secc evcc.controller := by
  constructor
  · intro offered
    refine ⟨offered.fits, ?_⟩
    obtain ⟨sessionId, res, energy, vas, offer, entries, _, _, prepared, _, _, records⟩ :=
      Secc.V20.returns_onServiceDiscoveryReq.mp offered
    cases prepared
    obtain ⟨_, same⟩ := vasIds_eq offer.vasList
    obtain ⟨supported, controller, answered, _, common⟩ :=
      (returns_records_iff valid nothing).mp records
    rw [same, ids_eq_nil_iff] at common
    exact ⟨sessionId, ⟨_, offer.renegotiation⟩, _, supported, controller,
      offer.energyServiceList, Secc.V20.exists_entries_iff.mp ⟨energy, entries.energy⟩,
      answered, common⟩
  · rintro ⟨fits, discoverable⟩
    obtain ⟨renegotiates, renegotiation⟩ := discoverable.renegotiation
    obtain ⟨energyServiceList, supported, controller, energy, known, answered, common⟩ :=
      discoverable.energy
    obtain ⟨vasList, offers⟩ : ∃ vasList, (registry services).getVasList = .ok vasList := by
      refine ⟨_, getVasList_eq_ok_iff.mpr ⟨?_, rfl⟩⟩
      rw [length_ids]
      exact fits.few
    let res : ServiceDiscoveryRes := ⟨renegotiates, energyServiceList, vasList⟩
    have offers : (registry services).getVasList = .ok res.vasList := offers
    obtain ⟨_, same⟩ := vasIds_eq offers
    have knownVas := (known_vas_iff same).mpr fits.known
    obtain ⟨energyEntries, energyMatched⟩ := Secc.V20.exists_entries_iff.mpr known
    obtain ⟨vasEntries, vasMatched⟩ := Secc.V20.exists_entries_iff.mpr knownVas
    apply Secc.V20.returns_onServiceDiscoveryReq.mpr
    refine ⟨discoverable.sessionId, res, energyEntries, vasEntries,
      ⟨energy, offers, renegotiation⟩, ⟨energyMatched, vasMatched⟩, _, res, rfl,
      (offersRegistered_iff offers).mpr fits.supported, ?_, ?_⟩
    · change Records res (_ ++ (energyEntries ++ vasEntries))
      rw [← List.append_assoc]
      exact records_of_mapM vasMatched _
    · apply (returns_records_iff valid nothing).mpr
      refine ⟨supported, controller, answered, knownVas, ?_⟩
      rwa [same, ids_eq_nil_iff]

open Evcc.V20 in
/-- The registered services are offered and recorded by an EVCC that waits for them, if and only
if they fit, where a discovery is possible at all. -/
theorem offered_iff_of_run (services : List σ) (req : ServiceDiscoveryReq)
    (answers : Secc.V20.Answers) (secc : Secc.V20.World σ) {start evcc : EVCCSession ρ}
    {history : List (Option (Evcc.Received V2GMessage Evcc.V20.Answers))} (starts : Starts start)
    (run : Run (machine ρ).Step start history evcc) (goesOn : evcc.ended = false)
    (waits : evcc.world.currentState.own = .serviceDiscovery) :
    Offered services req answers secc evcc.world ↔
      Fits services req ∧ Discoverable services answers secc evcc.world.controller := by
  have ready := (waits_of_run starts run goesOn).2.ready
  rw [waits] at ready
  exact offered_iff ready.1 ready.2.1

end

namespace Sample

open Evcc.V20.Sample

/-- A service with the id that the simulated EVSE gives as an example next to that of the health
test. -/
structure EISService where

instance : DiagnosticService EISService where
  serviceId _ := 102
  getParameterList _ := ⟨[]⟩
  onSelected service _ _ := service
  onCycle service _ _ := .ok (⟨0, 0, .idle, false⟩, service)

def secc (σ : Type) : Secc.V20.World σ where
  session := { sessionId := "10" }
  evDataContext := {}
  evseDataContext := {}
  serviceRegistry := ⟨{}, [], none⟩
  currentState := { own := .serviceDiscovery true }
  calls := []

/-- The EVCC when it waits for the services. -/
def evcc : Evcc.V20.EVCCSession SteadyController :=
  (Evcc.V20.machine SteadyController).rcvAll (start ⟨.dc⟩) (discoveryHistory .dc false).tail

end Sample

open Sample Evcc.V20.Sample in
theorem sample_offered :
    Offered [({} : BatteryHealthService)] ⟨none⟩ Secc.V20.Sample.answers
      (secc BatteryHealthService) evcc.world := by
  have goesOn : (Evcc.V20.machine SteadyController).GoesOn (start ⟨.dc⟩)
      (discoveryHistory .dc false).tail := by decide +kernel
  apply (offered_iff_of_run [({} : BatteryHealthService)] ⟨none⟩ Secc.V20.Sample.answers
    (secc BatteryHealthService) (starts_start _) (SessionStateMachine.run_of_goesOn goesOn)
    (by decide +kernel) (by decide +kernel)).mpr
  constructor
  · exact ⟨by decide, by decide, nofun⟩
  · refine ⟨by decide, ⟨false, rfl⟩, _, [.dc], _, rfl, ?_, rfl, .inr ?_⟩
    · intro service member
      cases List.mem_singleton.mp member
      rfl
    · exact ⟨_, List.mem_singleton_self _, _, List.mem_singleton_self _, rfl⟩

open Sample in
/-- A registered service that the enumeration of the services does not have is not offered. -/
theorem sample_not_offered :
    ¬Offered [EISService.mk] ⟨none⟩ Secc.V20.Sample.answers (secc EISService) evcc.world := by
  intro offered
  exact absurd (offered.fits.known 102 (by decide)) (by decide)

end Iso15118
