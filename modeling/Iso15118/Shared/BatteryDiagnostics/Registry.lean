import Iso15118.Secc.Controller.EvseData
import Iso15118.Shared.BatteryDiagnostics.BaseService

/-!
# The service registry

`ServiceRegistry` routes the charge loop to the active diagnostic service and
writes the service's command into the DC session limits of the EVSE.
-/

namespace Iso15118.Shared

open Iso15118.Shared.V20
open Iso15118.Secc

universe u

variable {σ : Type u} [DiagnosticService σ]

/-- The registry over service objects of type `σ`. `services` is the dictionary
in the order of insertion; `active` is the key of the active object. -/
structure ServiceRegistry (σ : Type u) where
  battery : BatterySimulator
  services : List (Int × σ)
  active : Option Int

/-- What a caller passes to `on_service_selected`: an id, or a parameter set. -/
inductive ParameterSetArg where
  | id (parameterSetId : Int)
  | object (parameterSet : Option ParameterSet)

/-- Write a command into the DC session limits. Only the commanded direction is
written. -/
def writeCommand (dcLimits : EVSEDCCLLimits) (cmd : CurrentCommand) : EVSEDCCLLimits :=
  let dcLimits :=
    if cmd.targetCurrentA < 0 then
      { dcLimits with
        maxDischargeCurrent := some |cmd.targetCurrentA|
        maxDischargePower := some |cmd.targetCurrentA * cmd.targetVoltageV| }
    else
      { dcLimits with
        maxChargeCurrent := some cmd.targetCurrentA
        maxChargePower := some (cmd.targetCurrentA * cmd.targetVoltageV) }
  { dcLimits with maxVoltage := some cmd.targetVoltageV }

namespace ServiceRegistry

/-- `_services.get(service_id)`. -/
def service (registry : ServiceRegistry σ) (serviceId : Int) : Option σ :=
  registry.services.lookup serviceId

/-- Objects are shared: an update of a service is seen under its key. -/
def setService (registry : ServiceRegistry σ) (serviceId : Int) (service : σ) :
    ServiceRegistry σ :=
  { registry with
    services := registry.services.map fun entry =>
      if entry.1 = serviceId then (entry.1, service) else entry }

/-- `register`: a repeated id replaces the object and keeps its place. -/
def register (registry : ServiceRegistry σ) (service : σ) : ServiceRegistry σ :=
  let serviceId := DiagnosticService.serviceId service
  if (registry.service serviceId).isSome then
    registry.setService serviceId service
  else
    { registry with services := registry.services ++ [(serviceId, service)] }

/-- `get_vas_list`. -/
def getVasList (registry : ServiceRegistry σ) : Except PyError (Option ServiceList) :=
  if registry.services.isEmpty then .ok none
  else (ServiceList.new (registry.services.map fun entry => ⟨entry.1, true⟩)).map some

/-- `get_parameter_list`. -/
def getParameterList (registry : ServiceRegistry σ) (serviceId : Int) :
    Option ServiceParameterList :=
  (registry.service serviceId).map DiagnosticService.getParameterList

/-- The parameter set that an argument stands for: an id is looked up in the
service's own list. -/
def resolve (service : σ) : ParameterSetArg → Option ParameterSet
  | .id parameterSetId =>
      (DiagnosticService.getParameterList service).parameterSets.find? fun parameterSet =>
        parameterSet.id = parameterSetId
  | .object parameterSet => parameterSet

/-- `on_service_selected`: an unknown id is ignored. -/
def onServiceSelected (registry : ServiceRegistry σ) (serviceId : Int)
    (parameterSet : ParameterSetArg) : ServiceRegistry σ :=
  match registry.service serviceId with
  | none => registry
  | some service =>
      { registry with active := some serviceId }.setService serviceId
        (DiagnosticService.onSelected service (resolve service parameterSet) registry.battery)

/-- The object that is active. -/
def activeService (registry : ServiceRegistry σ) : Option σ :=
  registry.active.bind registry.service

/-- The command that the active service returns for this EV data, if there is
an active service and it does not raise. -/
def issuedCommand (registry : ServiceRegistry σ) (evDataContext : EVDataContext) :
    Option CurrentCommand :=
  registry.activeService.bind fun service =>
    match DiagnosticService.onCycle service evDataContext registry.battery with
    | .ok (cmd, _) => some cmd
    | .error _ => none

/-- `on_cycle`. -/
def onCycle (registry : ServiceRegistry σ) (evDataContext : EVDataContext)
    (evseDataContext : EVSEDataContext) :
    Except PyError (ServiceRegistry σ × EVSEDataContext) :=
  match registry.active with
  | none => .ok (registry, evseDataContext)
  | some serviceId =>
      match registry.service serviceId with
      | none => .ok (registry, evseDataContext)
      | some service => do
          let (cmd, service) ←
            DiagnosticService.onCycle service evDataContext registry.battery
          .ok (registry.setService serviceId service,
            { evseDataContext with
              dcSessionLimits := writeCommand evseDataContext.dcSessionLimits cmd
              testComplete := some cmd.testComplete })

/-- `on_end`. The outcome is that of the `on_end` of the active service. If that raises, the
service stays active. -/
def onEnd (registry : ServiceRegistry σ) (outcome : Except PyError PUnit) :
    Except PyError (ServiceRegistry σ) :=
  match registry.active with
  | none => .ok registry
  | some _ => do
      outcome
      return { registry with active := none }

/-! ## Registered services -/

/-- The ids that services are registered under. -/
def ids (registry : ServiceRegistry σ) : List Int :=
  registry.services.map Prod.fst

/-- A sequence of calls of `register`. -/
def registerAll (registry : ServiceRegistry σ) (services : List σ) : ServiceRegistry σ :=
  services.foldl register registry

omit [DiagnosticService σ] in
theorem isSome_service_iff {registry : ServiceRegistry σ} {serviceId : Int} :
    (registry.service serviceId).isSome = true ↔ serviceId ∈ registry.ids := by
  unfold service ids
  rw [List.lookup_isSome_iff, List.mem_map]
  simp only [beq_iff_eq]
  simp only [eq_comm]

omit [DiagnosticService σ] in
theorem ids_setService (registry : ServiceRegistry σ) (serviceId : Int) (service : σ) :
    (registry.setService serviceId service).ids = registry.ids := by
  unfold ids setService
  rw [List.map_map]
  apply List.map_congr_left
  intro entry _
  dsimp only [Function.comp_apply]
  split <;> rfl

omit [DiagnosticService σ] in
/-- The object that is set is the one that is found. -/
theorem service_setService {registry : ServiceRegistry σ} {serviceId : Int}
    (known : (registry.service serviceId).isSome = true) (service : σ) :
    (registry.setService serviceId service).service serviceId = some service := by
  obtain ⟨battery, services, active⟩ := registry
  change (services.lookup serviceId).isSome = true at known
  change (services.map _).lookup serviceId = some service
  induction services with
  | nil => cases known
  | cons entry entries ih =>
      obtain ⟨id, object⟩ := entry
      by_cases same : id = serviceId
      · simp [same]
      · have other : (serviceId == id) = false := beq_eq_false_iff_ne.mpr (Ne.symm same)
        rw [List.lookup_cons, other] at known
        simp only [List.map_cons, same, ↓reduceIte, List.lookup_cons, other]
        exact ih known

/-- A new id comes last. -/
theorem ids_register (registry : ServiceRegistry σ) (service : σ) :
    (registry.register service).ids =
      if DiagnosticService.serviceId service ∈ registry.ids then registry.ids
      else registry.ids ++ [DiagnosticService.serviceId service] := by
  unfold register
  by_cases known : DiagnosticService.serviceId service ∈ registry.ids
  · rw [if_pos (isSome_service_iff.mpr known), if_pos known, ids_setService]
  · rw [if_neg (fun some => known (isSome_service_iff.mp some)), if_neg known]
    simp [ids]

theorem nodup_ids_registerAll {registry : ServiceRegistry σ} (nodup : registry.ids.Nodup)
    (services : List σ) : (registry.registerAll services).ids.Nodup := by
  induction services generalizing registry with
  | nil => exact nodup
  | cons service services ih =>
      apply ih
      rw [ids_register]
      split
      next => exact nodup
      next new => exact List.nodup_append.mpr ⟨nodup, List.nodup_singleton _, by grind⟩

theorem mem_ids_registerAll {registry : ServiceRegistry σ} {services : List σ}
    {serviceId : Int} :
    serviceId ∈ (registry.registerAll services).ids ↔
      serviceId ∈ registry.ids ∨ serviceId ∈ services.map DiagnosticService.serviceId := by
  induction services generalizing registry with
  | nil => simp [registerAll]
  | cons service services ih =>
      change serviceId ∈ ((registry.register service).registerAll services).ids ↔ _
      rw [ih, ids_register]
      split <;> grind

/-! ## Cycles -/

/-- A cycle writes the issued command over the limits in force. -/
theorem onCycle_limits {registry registry' : ServiceRegistry σ} {evDataContext : EVDataContext}
    {evse evse' : EVSEDataContext} {cmd : CurrentCommand}
    (issued : registry.issuedCommand evDataContext = some cmd)
    (cycle : registry.onCycle evDataContext evse = .ok (registry', evse')) :
    evse'.dcSessionLimits = writeCommand evse.dcSessionLimits cmd := by
  unfold issuedCommand activeService at issued
  unfold onCycle at cycle
  cases active : registry.active with
  | none => simp [active] at issued
  | some serviceId =>
      cases found : registry.service serviceId with
      | none => simp [active, found] at issued
      | some service =>
          simp only [active, found, Option.bind_some] at issued cycle
          cases answer : DiagnosticService.onCycle service evDataContext registry.battery with
          | error exception => simp [answer] at issued
          | ok result =>
              simp only [answer, Option.some.injEq] at issued
              rw [answer] at cycle
              cases cycle
              rw [← issued]

end ServiceRegistry

end Iso15118.Shared
