import Iso15118.Secc.V20.Loop

/-!
# The selection of services

What `check_selected_services` leaves behind: nothing where it refuses a selection, and
otherwise the energy service and the control mode of the selected parameter set, and what
the service registry makes of the value-added services.
-/

namespace Iso15118.Secc.V20

open Effect Transition
open Iso15118.Shared
open Iso15118.Shared.V20

variable {σ : Type}

/-! ## The loops -/

/-- A loop that assigns session variables. -/
theorem returns_forM_session {β : Type} {items : List β} {body : β → Program σ PUnit}
    {condition : β → Prop} {update : Session → β → Session}
    (each : ∀ item (post : PUnit → World σ → Prop) world,
      returns (body item) post world ↔
        condition item ∧ post ⟨⟩ { world with session := update world.session item })
    (post : PUnit → World σ → Prop) (world : World σ) :
    returns (items.forM body) post world ↔
      (∀ item ∈ items, condition item) ∧
        post ⟨⟩ { world with session := items.foldl update world.session } := by
  induction items generalizing world with
  | nil => simp
  | cons item items ih =>
      change returns (body item >>= fun _ => items.forM body) _ world ↔ _
      rw [returns_bind]
      apply (returns_congr_post _ fun _ next => ih next).trans
      rw [each]
      simp [and_assoc]

/-- A parameter of the name `ControlMode` has one of the two numbers. -/
def KnownControlMode (parameter : Parameter) : Prop :=
  parameter.name = "ControlMode" →
    parameter.intValue = some 1 ∨ parameter.intValue = some 2

/-- The session after one parameter in `set_control_mode`. -/
def storeControlMode (session : Session) (parameter : Parameter) : Session :=
  if parameter.name = "ControlMode" then
    { session with
      controlMode := if parameter.intValue = some 1 then some .scheduled else some .dynamic }
  else
    session

theorem returns_setControlMode {parameters : List Parameter} {post : PUnit → World σ → Prop}
    {world : World σ} :
    returns (setControlMode parameters) post world ↔
      (∀ parameter ∈ parameters, KnownControlMode parameter) ∧
        post ⟨⟩ { world with session := parameters.foldl storeControlMode world.session } := by
  apply returns_forM_session
  intro parameter post world
  unfold KnownControlMode storeControlMode
  by_cases named : parameter.name = "ControlMode"
  · simp only [named, ↓reduceIte, forall_const]
    split
    · rename_i scheduled
      simp [scheduled]
    · rename_i dynamic
      simp [dynamic]
    · rename_i notScheduled notDynamic
      simp only [returns_throw, false_iff, not_and]
      rintro (scheduled | dynamic)
      · exact absurd scheduled notScheduled
      · exact absurd dynamic notDynamic
  · simp [named]

/-- The parameter set of an offered service that is selected. -/
def selectedSet (req : ServiceSelectionReq) (offeredService : MatchedService) :
    Option ParameterSet :=
  if req.selectedEnergyService.serviceId = offeredService.service.id then
    offeredService.parameterSets.find? fun parameterSet =>
      req.selectedEnergyService.parameterSetId = parameterSet.id
  else
    none

/-- The session after one offered service in the loop that stores the selection. A
value-added service is never stored. -/
def stored (req : ServiceSelectionReq) (session : Session) (offeredService : MatchedService) :
    Session :=
  match selectedSet req offeredService with
  | some parameterSet => parameterSet.parameters.foldl storeControlMode
      { session with
        selectedEnergyService :=
          some ⟨offeredService.service, offeredService.isFree, parameterSet⟩ }
  | none => session

theorem returns_storeSelection {req : ServiceSelectionReq} (offeredService : MatchedService)
    (post : PUnit → World σ → Prop) (world : World σ) :
    returns (storeSelection req offeredService) post world ↔
      (∀ parameterSet, selectedSet req offeredService = some parameterSet →
          ∀ parameter ∈ parameterSet.parameters, KnownControlMode parameter) ∧
        post ⟨⟩ { world with session := stored req world.session offeredService } := by
  unfold storeSelection stored selectedSet
  by_cases selected : req.selectedEnergyService.serviceId = offeredService.service.id
  · simp only [selected, ↓reduceIte, ServiceV20.getById_id]
    cases offeredService.parameterSets.find? fun parameterSet =>
        req.selectedEnergyService.parameterSetId = parameterSet.id with
    | none => simp
    | some parameterSet =>
        simp only [returns_bind, returns_updateSession, returns_setControlMode, Option.some.injEq,
          forall_eq']
  · simp only [selected, ↓reduceIte, reduceCtorEq, false_implies, implies_true, true_and]
    induction req.selectedVasList.getD [] with
    | nil => simp
    | cons vas others ih => exact ih

/-- What is stored in the registry: each of the value-added services is selected. -/
def selectVas [DiagnosticService σ] (serviceRegistry : ServiceRegistry σ)
    (vasList : List SelectedService) : ServiceRegistry σ :=
  vasList.foldl (fun serviceRegistry vas =>
    serviceRegistry.onServiceSelected vas.serviceId (.id vas.parameterSetId)) serviceRegistry

theorem returns_selectVas [DiagnosticService σ] {vasList : List SelectedService}
    {post : PUnit → World σ → Prop} {world : World σ} :
    returns (vasList.forM fun vas =>
        modify fun world =>
          { world with
            serviceRegistry := world.serviceRegistry.onServiceSelected vas.serviceId
              (.id vas.parameterSetId) } : Program σ PUnit) post world ↔
      post ⟨⟩ { world with serviceRegistry := selectVas world.serviceRegistry vasList } := by
  unfold selectVas
  induction vasList generalizing world with
  | nil => exact Iff.rfl
  | cons vas others ih => exact ih

/-- What was selected of the services that were offered has a known control mode. -/
def ControlModesKnown (req : ServiceSelectionReq) (session : Session) : Prop :=
  ∀ offeredService ∈ session.matchedServicesV20, ∀ parameterSet,
    selectedSet req offeredService = some parameterSet →
      ∀ parameter ∈ parameterSet.parameters, KnownControlMode parameter

/-- What `check_selected_services` leaves behind. -/
theorem returns_checkSelectedServices [DiagnosticService σ] {req : ServiceSelectionReq}
    {post : Option ResponseCode → World σ → Prop} {world : World σ} :
    returns (checkSelectedServices req) post world ↔
      match selectionError world.session req with
      | some responseCode => post (some responseCode) world
      | none =>
          ControlModesKnown req world.session ∧
            post none { world with
              session := world.session.matchedServicesV20.foldl (stored req) world.session
              serviceRegistry :=
                selectVas world.serviceRegistry (req.selectedVasList.getD []) } := by
  unfold checkSelectedServices
  cases checked : selectionError world.session req with
  | some responseCode => simp [checked]
  | none =>
      simp only [returns_bind, returns_get, checked]
      apply (returns_forM_session returns_storeSelection _ world).trans
      apply and_congr_right
      intro _
      rw [returns_bind]
      exact returns_selectVas

/-! ## What was offered and what is selected -/

/-- The pair that a service of a request names. -/
def requestedPair (selected : SelectedService) : Int × Int :=
  (selected.serviceId, selected.parameterSetId)

/-- The pairs of the offered services that are energy services, or of those that are
not. -/
def offeredPairs (isEnergyService : Bool) (session : Session) : List (Int × Int) :=
  (session.matchedServicesV20.filter fun offeredService =>
    offeredService.isEnergyService = isEnergyService).flatMap
      MatchedService.serviceParameterSetIds

/-- Every service of the request is offered, as an energy service or as a value-added
service, whichever it is selected as. -/
def OfferedByKind (session : Session) (req : ServiceSelectionReq) : Prop :=
  requestedPair req.selectedEnergyService ∈ offeredPairs true session ∧
    ∀ vas ∈ req.selectedVasList.getD [], requestedPair vas ∈ offeredPairs false session

/-- Every service of the request is offered, as one or the other. -/
def OfferedAtAll (session : Session) (req : ServiceSelectionReq) : Prop :=
  requestedPair req.selectedEnergyService ∈ offeredIdPairs session ∧
    ∀ vas ∈ req.selectedVasList.getD [], requestedPair vas ∈ offeredIdPairs session

instance (session : Session) (req : ServiceSelectionReq) : Decidable (OfferedAtAll session req) :=
  inferInstanceAs (Decidable (_ ∧ _))

/-- A service and a parameter set are those that a request names, and the service was
offered with the set. -/
def IsRequested (session : Session) (selected : SelectedService) (service : ServiceV20)
    (parameterSet : ParameterSet) : Prop :=
  (service.id, parameterSet.id) = requestedPair selected ∧
    ∃ offeredService ∈ session.matchedServicesV20, offeredService.service = service ∧
      parameterSet ∈ offeredService.parameterSets

/-- The list holds the value-added services of the request and no others, each with the
parameter set that the request names. -/
def HoldsVas (session : Session) (req : ServiceSelectionReq) (vasList : List SelectedVAS) :
    Prop :=
  List.Forall₂ (fun vas selected => ∃ parameterSet, selected.parameterSet = some parameterSet ∧
    IsRequested session vas selected.service parameterSet) (req.selectedVasList.getD []) vasList

theorem selectionError_eq_none_iff {session : Session} {req : ServiceSelectionReq} :
    selectionError session req = none ↔ OfferedAtAll session req := by
  unfold selectionError OfferedAtAll requestedPair
  by_cases energy : (req.selectedEnergyService.serviceId,
      req.selectedEnergyService.parameterSetId) ∈ offeredIdPairs session
  · simp [energy]
  · simp [energy]

theorem mem_offeredIdPairs_of_mem {isEnergyService : Bool} {session : Session}
    {pair : Int × Int} (offered : pair ∈ offeredPairs isEnergyService session) :
    pair ∈ offeredIdPairs session := by
  obtain ⟨offeredService, kept, named⟩ := List.mem_flatMap.mp offered
  exact List.mem_flatMap.mpr ⟨offeredService, (List.mem_filter.mp kept).1, named⟩

theorem OfferedByKind.atAll {session : Session} {req : ServiceSelectionReq}
    (offered : OfferedByKind session req) : OfferedAtAll session req :=
  ⟨mem_offeredIdPairs_of_mem offered.1, fun vas requested =>
    mem_offeredIdPairs_of_mem (offered.2 vas requested)⟩

/-! ## The energy service -/

theorem foldl_storeControlMode_field {α : Type} {field : Session → α}
    (unaffected : ∀ session controlMode,
      field { session with controlMode := controlMode } = field session)
    (parameters : List Parameter) (session : Session) :
    field (parameters.foldl storeControlMode session) = field session := by
  induction parameters generalizing session with
  | nil => rfl
  | cons parameter parameters ih =>
      rw [List.foldl_cons, ih]
      unfold storeControlMode
      split
      · exact unaffected session _
      · rfl

/-- The loop touches no other variable than the energy service and the control mode. -/
theorem foldl_stored_field {α : Type} {field : Session → α}
    (unaffected : ∀ session selected controlMode,
      field { session with selectedEnergyService := selected, controlMode := controlMode } =
        field session)
    (req : ServiceSelectionReq) (offeredServices : List MatchedService) (session : Session) :
    field (offeredServices.foldl (stored req) session) = field session := by
  induction offeredServices generalizing session with
  | nil => rfl
  | cons offeredService offeredServices ih =>
      rw [List.foldl_cons, ih]
      unfold stored
      split
      · rw [foldl_storeControlMode_field fun session controlMode =>
          unaffected session session.selectedEnergyService controlMode]
        exact unaffected session _ session.controlMode
      · rfl

theorem foldl_stored_selectedVasListV20 (req : ServiceSelectionReq)
    (offeredServices : List MatchedService) (session : Session) :
    (offeredServices.foldl (stored req) session).selectedVasListV20 =
      session.selectedVasListV20 :=
  foldl_stored_field (fun _ _ _ => rfl) req offeredServices session

theorem foldl_stored_sessionId (req : ServiceSelectionReq)
    (offeredServices : List MatchedService) (session : Session) :
    (offeredServices.foldl (stored req) session).sessionId = session.sessionId :=
  foldl_stored_field (fun _ _ _ => rfl) req offeredServices session

theorem stored_of_selectedSet {req : ServiceSelectionReq} {session : Session}
    {offeredService : MatchedService} {parameterSet : ParameterSet}
    (selected : selectedSet req offeredService = some parameterSet) :
    (stored req session offeredService).selectedEnergyService =
      some ⟨offeredService.service, offeredService.isFree, parameterSet⟩ := by
  unfold stored
  rw [selected]
  exact foldl_storeControlMode_field (fun _ _ => rfl) _ _

theorem stored_of_not_selected {req : ServiceSelectionReq} {session : Session}
    {offeredService : MatchedService} (other : selectedSet req offeredService = none) :
    stored req session offeredService = session := by
  unfold stored
  rw [other]

/-- The loop stores the last service that is selected. -/
theorem foldl_stored_selectedEnergyService (req : ServiceSelectionReq)
    (offeredServices : List MatchedService) (session : Session) :
    (offeredServices.foldl (stored req) session).selectedEnergyService =
        session.selectedEnergyService ∧
        (∀ offeredService ∈ offeredServices, selectedSet req offeredService = none) ∨
      ∃ offeredService ∈ offeredServices, ∃ parameterSet,
        selectedSet req offeredService = some parameterSet ∧
        (offeredServices.foldl (stored req) session).selectedEnergyService =
          some ⟨offeredService.service, offeredService.isFree, parameterSet⟩ := by
  induction offeredServices generalizing session with
  | nil => simp
  | cons offeredService offeredServices ih =>
      rw [List.foldl_cons]
      rcases ih (stored req session offeredService) with
        ⟨same, others⟩ | ⟨later, mem, parameterSet, selected, same⟩
      · cases selected : selectedSet req offeredService with
        | none =>
            left
            rw [same, stored_of_not_selected selected]
            exact ⟨rfl, List.forall_mem_cons.mpr ⟨selected, others⟩⟩
        | some parameterSet =>
            right
            exact ⟨offeredService, List.mem_cons_self, parameterSet, selected,
              same.trans (stored_of_selectedSet selected)⟩
      · right
        exact ⟨later, List.mem_cons_of_mem _ mem, parameterSet, selected, same⟩

theorem isRequested_of_selectedSet {req : ServiceSelectionReq} {session : Session}
    {offeredService : MatchedService} {parameterSet : ParameterSet}
    (offered : offeredService ∈ session.matchedServicesV20)
    (selected : selectedSet req offeredService = some parameterSet) :
    IsRequested session req.selectedEnergyService offeredService.service parameterSet := by
  unfold selectedSet at selected
  split at selected
  next named =>
    have sameSet := List.find?_some selected
    rw [decide_eq_true_eq] at sameSet
    refine ⟨?_, offeredService, offered, rfl, List.mem_of_find?_eq_some selected⟩
    rw [requestedPair, named, sameSet]
  next => cases selected

/-- A pair that was offered is found. -/
theorem exists_selectedSet {req : ServiceSelectionReq} {session : Session}
    (offered : requestedPair req.selectedEnergyService ∈ offeredIdPairs session) :
    ∃ offeredService ∈ session.matchedServicesV20, selectedSet req offeredService ≠ none := by
  obtain ⟨offeredService, mem, named⟩ := List.mem_flatMap.mp offered
  obtain ⟨parameterSet, inSets, same⟩ := List.mem_map.mp named
  rw [requestedPair, Prod.mk.injEq] at same
  refine ⟨offeredService, mem, ?_⟩
  unfold selectedSet
  rw [if_pos same.1.symm]
  intro missing
  exact absurd same.2.symm (by simpa using List.find?_eq_none.mp missing parameterSet inSets)

/-- A selection that was offered is the one that is stored. -/
theorem exists_stored {req : ServiceSelectionReq} {session : Session}
    (offered : requestedPair req.selectedEnergyService ∈ offeredIdPairs session) :
    ∃ selected,
      (session.matchedServicesV20.foldl (stored req) session).selectedEnergyService =
        some selected ∧
      IsRequested session req.selectedEnergyService selected.service selected.parameterSet := by
  rcases foldl_stored_selectedEnergyService req session.matchedServicesV20 session with
    ⟨-, unselected⟩ | ⟨offeredService, mem, parameterSet, selected, same⟩
  · obtain ⟨offeredService, mem, found⟩ := exists_selectedSet offered
    exact absurd (unselected offeredService mem) found
  · exact ⟨_, same, isRequested_of_selectedSet mem selected⟩

/-! ## The bookkeeping -/

/-- A selection is valid exactly if it was offered. A valid one is stored as it was
requested, and an invalid one changes neither the session nor the active service. -/
def KeepsBooks [DiagnosticService σ] (req : ServiceSelectionReq) (world : World σ) : Prop :=
  returns (checkSelectedServices req) (fun refused next =>
      (refused = none ↔ OfferedByKind world.session req) ∧
      (refused = none →
        (∃ selected, next.session.selectedEnergyService = some selected ∧
          IsRequested world.session req.selectedEnergyService selected.service
            selected.parameterSet) ∧
        HoldsVas world.session req next.session.selectedVasListV20) ∧
      (refused ≠ none → next.session = world.session ∧
        next.serviceRegistry.active = world.serviceRegistry.active)) world

/-- Where no value-added service has been stored yet, none may be requested. -/
theorem holdsVas_nil_iff {session : Session} {req : ServiceSelectionReq} :
    HoldsVas session req [] ↔ req.selectedVasList.getD [] = [] := by
  unfold HoldsVas
  exact List.forall₂_nil_right_iff

/-- What is not offered at all is refused. Of what is, the energy service has to be one,
the control mode has to be known, and the value-added services have to be stored already. -/
theorem keepsBooks_iff [DiagnosticService σ] (req : ServiceSelectionReq) (world : World σ) :
    KeepsBooks req world ↔
      (OfferedAtAll world.session req →
        OfferedByKind world.session req ∧ ControlModesKnown req world.session ∧
          HoldsVas world.session req world.session.selectedVasListV20) := by
  unfold KeepsBooks
  apply returns_checkSelectedServices.trans
  cases checked : selectionError world.session req with
  | some responseCode =>
      have refused : ¬OfferedAtAll world.session req := by
        rw [← selectionError_eq_none_iff, checked]
        exact nofun
      have notOffered : ¬OfferedByKind world.session req := fun offered => refused offered.atAll
      simp [refused, notOffered]
  | none =>
      have offered := selectionError_eq_none_iff.mp checked
      have stores := exists_stored offered.1
      simp only [foldl_stored_selectedVasListV20, offered, stores, forall_const, true_and,
        true_iff, ne_eq, not_true_eq_false, false_implies, and_true]
      tauto

/-- A value-added service that is selected is not stored. -/
theorem KeepsBooks.vas_stored [DiagnosticService σ] {req : ServiceSelectionReq}
    {world : World σ} (keeps : KeepsBooks req world) (offered : OfferedAtAll world.session req) :
    HoldsVas world.session req world.session.selectedVasListV20 := by
  have kept := returns_checkSelectedServices.mp keeps
  rw [selectionError_eq_none_iff.mpr offered] at kept
  have holds := (kept.2.2.1 rfl).2
  rw [foldl_stored_selectedVasListV20] at holds
  exact holds

namespace Sample

/-- The session of a charger that offers the battery health test, up to the details of the
energy service. -/
def vasHistory : List (Option Received) :=
  request (.serviceDetailReq ⟨2⟩) ::
    request (.serviceDiscoveryReq ⟨none⟩)
      { answers with getVasList := .ok (some ⟨[⟨101, true⟩]⟩) } ::
    authorizationHistory answers

def vasStart : SECCSession BatteryHealthService :=
  { start with world := { start.world with serviceRegistry := ⟨{}, [(101, {})], none⟩ } }

theorem run_vasHistory :
    Run (machine environment).Step vasStart vasHistory
      ((machine environment).rcvAll vasStart vasHistory) := by
  apply SessionStateMachine.run_rcvAll_cons
  · apply SessionStateMachine.run_rcvAll_cons
    · exact SessionStateMachine.run_rcvAll_cons (SessionStateMachine.run_rcvAll_cons
        (SessionStateMachine.run_rcvAll_cons .start rfl) rfl) rfl
    · rfl
  · rfl

end Sample

/-- The battery health test is offered and selected, and the session does not hold it. -/
theorem selected_vas_not_stored :
    New Sample.vasStart ∧
      Run (machine Sample.environment).Step Sample.vasStart Sample.vasHistory
        ((machine Sample.environment).rcvAll Sample.vasStart Sample.vasHistory) ∧
      ¬KeepsBooks ⟨⟨2, 1⟩, some [⟨101, 1⟩]⟩
        ((machine Sample.environment).rcvAll Sample.vasStart Sample.vasHistory).world := by
  refine ⟨⟨rfl, rfl, rfl⟩, Sample.run_vasHistory, fun keeps => ?_⟩
  have stored := keeps.vas_stored (by decide +kernel)
  have noneStored : ((machine Sample.environment).rcvAll Sample.vasStart
      Sample.vasHistory).world.session.selectedVasListV20 = [] := by
    decide +kernel
  rw [noneStored, holdsVas_nil_iff] at stored
  cases stored

end Iso15118.Secc.V20
