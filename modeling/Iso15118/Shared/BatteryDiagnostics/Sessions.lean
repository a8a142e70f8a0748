import Iso15118.Shared.BatteryDiagnostics.HealthTest
import Iso15118.Shared.BatteryDiagnostics.Registry

/-!
# Tests in one session after another

The service object and the EVSE data context outlive a session. What a test does depends on
earlier ones in the parameters that its parameter set leaves out, and the completion flag of
the latest cycle stays until the next one.
-/

namespace Iso15118.Shared

open Iso15118.Shared.V20
open Iso15118.Secc

/-! ## The parameters in force -/

namespace BatteryHealthService

/-- The integer values that the parameters give to a name, in their order. -/
def givenValues (name : String) (parameters : List Parameter) : List Int :=
  (parameters.filter fun parameter => parameter.name = name).filterMap Parameter.intValue

/-- The value that the parameters give to a name, if they do: the last one counts. -/
def namedValue (name : String) (parameters : List Parameter) : Option Int :=
  (givenValues name parameters).getLast?

theorem namedValue_concat (name : String) (parameters : List Parameter) (parameter : Parameter) :
    namedValue name (parameters ++ [parameter]) =
      if parameter.name = name then parameter.intValue.or (namedValue name parameters)
      else namedValue name parameters := by
  unfold namedValue givenValues
  by_cases named : parameter.name = name
  · cases value : parameter.intValue with
    | none => simp [named, value]
    | some value' => simp [named, value]
  · simp [named]

/-- Reading parameters changes those that they name. -/
theorem foldl_readParameter (parameters : List Parameter) (service : BatteryHealthService) :
    parameters.foldl readParameter service =
      { service with
        cRate := ((namedValue "RequestedCRate" parameters).map Int.cast).getD service.cRate
        maxIA := ((namedValue "MaxTestCurrentA" parameters).map Int.cast).getD service.maxIA
        cutoff := (namedValue "CutoffSOC" parameters).getD service.cutoff } := by
  induction parameters using List.reverseRecOn with
  | nil => rfl
  | append_singleton parameters parameter ih =>
      rw [List.foldl_append, ih]
      simp only [List.foldl_cons, List.foldl_nil, namedValue_concat, readParameter]
      cases parameter.intValue with
      | none => simp
      | some value =>
          by_cases cRate : parameter.name = "RequestedCRate"
          · simp [cRate]
          · by_cases maxIA : parameter.name = "MaxTestCurrentA"
            · simp [maxIA]
            · by_cases cutoff : parameter.name = "CutoffSOC"
              · simp [cutoff]
              · simp [cRate, maxIA, cutoff]

/-- The parameters of a set, which may be missing. -/
def parametersOf (parameterSet : Option ParameterSet) : List Parameter :=
  (parameterSet.map ParameterSet.parameters).getD []

/-- What a selection leaves of the service before it are the parameters that are not
named. -/
theorem onSelected_eq (service : BatteryHealthService) (parameterSet : Option ParameterSet)
    (battery : BatterySimulator) :
    service.onSelected parameterSet battery =
      { cRate := ((namedValue "RequestedCRate" (parametersOf parameterSet)).map
          Int.cast).getD service.cRate
        maxIA := ((namedValue "MaxTestCurrentA" (parametersOf parameterSet)).map
          Int.cast).getD service.maxIA
        cutoff := (namedValue "CutoffSOC" (parametersOf parameterSet)).getD service.cutoff
        battery := some battery } := by
  cases parameterSet with
  | none => rfl
  | some parameterSet =>
      simp only [onSelected, foldl_readParameter]
      rfl

theorem namedValue_singleton (name : String) (value : Int) :
    namedValue name [⟨name, .intValue value⟩] = some value := by
  simp [namedValue, givenValues, Parameter.intValue]

section

variable {service : BatteryHealthService} {parameterSet : Option ParameterSet}
  {battery : BatterySimulator}

/-- A parameter that is not named stays as it was. -/
theorem onSelected_of_not_named :
    (namedValue "RequestedCRate" (parametersOf parameterSet) = none →
        (service.onSelected parameterSet battery).cRate = service.cRate) ∧
      (namedValue "MaxTestCurrentA" (parametersOf parameterSet) = none →
        (service.onSelected parameterSet battery).maxIA = service.maxIA) ∧
      (namedValue "CutoffSOC" (parametersOf parameterSet) = none →
        (service.onSelected parameterSet battery).cutoff = service.cutoff) := by
  rw [onSelected_eq]
  refine ⟨?_, ?_, ?_⟩
  · intro missing
    simp only [missing, Option.map_none, Option.getD_none]
  · intro missing
    simp only [missing, Option.map_none, Option.getD_none]
  · intro missing
    simp only [missing, Option.getD_none]

end

/-- A service that has been selected with one parameter. -/
def selectedWith (name : String) (value : Int) (battery : BatterySimulator) :
    BatteryHealthService :=
  ({} : BatteryHealthService).onSelected (some ⟨2, [⟨name, .intValue value⟩]⟩) battery

theorem selectedWith_cRate (value : Int) (battery : BatterySimulator) :
    (selectedWith "RequestedCRate" value battery).cRate = value := by
  simp [selectedWith, onSelected_eq, parametersOf, namedValue_singleton]

theorem selectedWith_maxIA (value : Int) (battery : BatterySimulator) :
    (selectedWith "MaxTestCurrentA" value battery).maxIA = value := by
  simp [selectedWith, onSelected_eq, parametersOf, namedValue_singleton]

theorem selectedWith_cutoff (value : Int) (battery : BatterySimulator) :
    (selectedWith "CutoffSOC" value battery).cutoff = value := by
  simp [selectedWith, onSelected_eq, parametersOf, namedValue_singleton]

/-- The parameters name all those of the test. -/
def NamesAll (parameters : List Parameter) : Prop :=
  ∀ name ∈ ["RequestedCRate", "MaxTestCurrentA", "CutoffSOC"],
    ∃ parameter ∈ parameters, parameter.name = name ∧ parameter.intValue.isSome = true

theorem namedValue_isSome_iff {name : String} {parameters : List Parameter} :
    (namedValue name parameters).isSome = true ↔
      ∃ parameter ∈ parameters, parameter.name = name ∧ parameter.intValue.isSome = true := by
  unfold namedValue givenValues
  rw [List.getLast?_isSome]
  constructor
  · intro nonempty
    obtain ⟨value, present⟩ := List.exists_mem_of_ne_nil _ nonempty
    obtain ⟨parameter, member, given⟩ := List.mem_filterMap.mp present
    rw [List.mem_filter] at member
    exact ⟨parameter, member.1, of_decide_eq_true member.2, by simp [given]⟩
  · rintro ⟨parameter, member, named, given⟩ empty
    obtain ⟨value, given⟩ := Option.isSome_iff_exists.mp given
    have present : value ∈ (parameters.filter fun parameter => parameter.name = name).filterMap
        Parameter.intValue :=
      List.mem_filterMap.mpr ⟨parameter, List.mem_filter.mpr ⟨member, by simp [named]⟩, given⟩
    rw [empty] at present
    cases present

theorem onSelected_of_namesAll {parameterSet : Option ParameterSet}
    (all : NamesAll (parametersOf parameterSet)) (service other : BatteryHealthService)
    (battery : BatterySimulator) :
    service.onSelected parameterSet battery = other.onSelected parameterSet battery := by
  obtain ⟨cRate, namesCRate⟩ :=
    Option.isSome_iff_exists.mp (namedValue_isSome_iff.mpr (all "RequestedCRate" (by simp)))
  obtain ⟨maxIA, namesMaxIA⟩ :=
    Option.isSome_iff_exists.mp (namedValue_isSome_iff.mpr (all "MaxTestCurrentA" (by simp)))
  obtain ⟨cutoff, namesCutoff⟩ :=
    Option.isSome_iff_exists.mp (namedValue_isSome_iff.mpr (all "CutoffSOC" (by simp)))
  simp only [onSelected_eq, namesCRate, namesMaxIA, namesCutoff, Option.map_some,
    Option.getD_some]

end BatteryHealthService

/-! ## Two cycles that show the parameters -/

namespace BatteryHealthService

/-- The EV reports a state of charge. -/
def reporting (soc : Int) : EVDataContext :=
  { presentSoc := some soc }

theorem readSoc_reporting {soc : Int} (nonzero : soc ≠ 0) (battery : BatterySimulator) :
    readSoc (reporting soc) battery = soc := by
  simp [readSoc, reporting, truthy, Option.filter, nonzero]

theorem recordCycle_parameters (service : BatteryHealthService) (evDataContext : EVDataContext)
    (battery : BatterySimulator) :
    (service.recordCycle evDataContext battery).cRate = service.cRate ∧
      (service.recordCycle evDataContext battery).maxIA = service.maxIA := by
  unfold recordCycle
  simp only
  split
  · exact ⟨rfl, rfl⟩
  · exact ⟨rfl, rfl⟩

/-- A full battery is discharged as the first two parameters say. -/
theorem onCycle_of_full {service : BatteryHealthService} (battery : BatterySimulator)
    (phase : service.phase = .charge) :
    (service.onCycle (reporting 100) battery).1.phaseLabel = .discharge service.cRate ∧
      (service.onCycle (reporting 100) battery).1.targetCurrentA =
        -min (service.cRate * (battery.capacityWh / max battery.ocv 1)) service.maxIA ∧
      (service.onCycle (reporting 100) battery).2.phase = .discharge := by
  have recorded : (service.recordCycle (reporting 100) battery).phase = .charge := by
    rw [recordCycle_phase, phase]
  obtain ⟨cRate, maxIA⟩ := recordCycle_parameters service (reporting 100) battery
  have full : chargeTargetSoc ≤ readSoc (reporting 100) battery := by
    rw [readSoc_reporting (by decide)]
    decide
  simp only [onCycle, nextCommand, recorded, full, ↓reduceIte, dischargeCommand, cRate, maxIA,
    and_self]

/-- A battery that has been discharged to a half is discharged to the cut-off or not. -/
theorem onCycle_of_half {service : BatteryHealthService} (battery : BatterySimulator)
    (phase : service.phase = .charge) :
    ((service.onCycle (reporting 100) battery).2.onCycle (reporting 50) battery).1.testComplete =
      decide (50 ≤ service.cutoff) := by
  have discharging := (onCycle_of_full battery phase).2.2
  rw [(onCycle_of_discharge (reporting 50) battery discharging).2.1, onCycle_cutoff,
    readSoc_reporting (by decide)]
  norm_cast

end BatteryHealthService

/-! ## A station -/

open BatteryHealthService

/-- What happens to the registry over the sessions of a station. -/
inductive Event where
  | selected (serviceId : Int) (parameterSet : ParameterSetArg)
  | cycle (evDataContext : EVDataContext)
  | ended (outcome : Except PyError PUnit)

/-- A station that offers the health test. -/
structure Station where
  registry : ServiceRegistry BatteryHealthService
  evseDataContext : EVSEDataContext

namespace Station

/-- `SimEVSEController.__init__`. -/
def start (battery : BatterySimulator) : Station where
  registry := (ServiceRegistry.mk battery [] none).register {}
  evseDataContext := {}

/-- A method that raises leaves the station as it is. -/
def after (station : Station) : Event → Station
  | .selected serviceId parameterSet =>
      { station with registry := station.registry.onServiceSelected serviceId parameterSet }
  | .cycle evDataContext =>
      match station.registry.onCycle evDataContext station.evseDataContext with
      | .ok (registry, evseDataContext) => ⟨registry, evseDataContext⟩
      | .error _ => station
  | .ended outcome =>
      match station.registry.onEnd outcome with
      | .ok registry => { station with registry := registry }
      | .error _ => station

/-- The station after a history, the newest event first. -/
def run (battery : BatterySimulator) : List Event → Station
  | [] => start battery
  | event :: past => (run battery past).after event

/-- What a cycle shows: the command, the phase, and the telemetry after it. -/
structure Observation where
  command : Option CurrentCommand
  phase : Option Phase
  cycles : Option (List Cycle)
  energyWh : Option ℚ
  deriving DecidableEq

/-- What a session shows, from the EV data of its cycles in their order. -/
def observe (station : Station) : List EVDataContext → List Observation
  | [] => []
  | evDataContext :: later =>
      { command := station.registry.issuedCommand evDataContext
        phase := (station.after (.cycle evDataContext)).registry.activeService.map (·.phase)
        cycles := (station.after (.cycle evDataContext)).registry.activeService.map (·.cycles)
        energyWh :=
          (station.after (.cycle evDataContext)).registry.activeService.map (·.energyWh) } ::
        (station.after (.cycle evDataContext)).observe later

/-- The command of the latest cycle of a history in which a service was active. -/
def latestCommand (battery : BatterySimulator) : List Event → Option CurrentCommand
  | [] => none
  | .cycle evDataContext :: past =>
      ((run battery past).registry.issuedCommand evDataContext).or (latestCommand battery past)
  | .selected _ _ :: past => latestCommand battery past
  | .ended _ :: past => latestCommand battery past

/-- The registry has the one service object. -/
def Has (station : Station) (battery : BatterySimulator) (service : BatteryHealthService) : Prop :=
  station.registry.battery = battery ∧ station.registry.services = [(serviceId, service)] ∧
    ∀ active, station.registry.active = some active → active = serviceId

/-- After a selection nothing but the service object is left of a history. -/
theorem after_selected {station : Station} {battery : BatterySimulator}
    {service : BatteryHealthService} (has : station.Has battery service)
    (parameterSet : ParameterSetArg) :
    (station.after (.selected serviceId parameterSet)).registry =
      ⟨battery, [(serviceId, service.onSelected
        (ServiceRegistry.resolve service parameterSet) battery)], some serviceId⟩ := by
  obtain ⟨same, services, _⟩ := has
  simp [after, ServiceRegistry.onServiceSelected, ServiceRegistry.service, services,
    ServiceRegistry.setService, same]
  rfl

theorem has_start (battery : BatterySimulator) : (start battery).Has battery {} :=
  ⟨rfl, rfl, nofun⟩

/-- A cycle of the active service, which never raises. -/
theorem onCycle_of_active {station : Station} {battery : BatterySimulator}
    {service : BatteryHealthService} (has : station.Has battery service)
    (active : station.registry.active = some serviceId) (evDataContext : EVDataContext) :
    station.registry.issuedCommand evDataContext =
        some (service.onCycle evDataContext battery).1 ∧
      station.after (.cycle evDataContext) =
        { registry := ⟨battery, [(serviceId, (service.onCycle evDataContext battery).2)],
            some serviceId⟩
          evseDataContext :=
            { station.evseDataContext with
              dcSessionLimits := writeCommand station.evseDataContext.dcSessionLimits
                (service.onCycle evDataContext battery).1
              testComplete := some (service.onCycle evDataContext battery).1.testComplete } } := by
  obtain ⟨⟨_, services, _⟩, evseDataContext⟩ := station
  obtain ⟨rfl, rfl, _⟩ := has
  cases active
  constructor
  · rfl
  · rfl

theorem onCycle_of_inactive {station : Station} (inactive : station.registry.active = none)
    (evDataContext : EVDataContext) :
    station.registry.issuedCommand evDataContext = none ∧
      station.after (.cycle evDataContext) = station := by
  obtain ⟨⟨battery, services, active⟩, evseDataContext⟩ := station
  cases inactive
  exact ⟨rfl, rfl⟩

theorem has_after {station : Station} {battery : BatterySimulator}
    {service : BatteryHealthService} (has : station.Has battery service) (event : Event) :
    ∃ next, (station.after event).Has battery next := by
  cases event with
  | selected selectedId parameterSet =>
      by_cases known : selectedId = serviceId
      · subst known
        refine ⟨service.onSelected (ServiceRegistry.resolve service parameterSet) battery, ?_⟩
        unfold Has
        rw [after_selected has]
        exact ⟨rfl, rfl, fun _ active => (Option.some.inj active).symm⟩
      · have unknown : station.registry.service selectedId = none := by
          simp [ServiceRegistry.service, has.2.1, List.lookup_cons, beq_eq_false_iff_ne.mpr known]
        refine ⟨service, ?_⟩
        simp only [after, ServiceRegistry.onServiceSelected, unknown]
        exact has
  | cycle evDataContext =>
      cases active : station.registry.active with
      | none =>
          rw [(onCycle_of_inactive active evDataContext).2]
          exact ⟨service, has⟩
      | some activeId =>
          cases has.2.2 activeId active
          rw [(onCycle_of_active has active evDataContext).2]
          exact ⟨_, rfl, rfl, fun _ same => (Option.some.inj same).symm⟩
  | ended outcome =>
      refine ⟨service, ?_⟩
      obtain ⟨⟨_, services, active⟩, evseDataContext⟩ := station
      cases active with
      | none => exact has
      | some activeId =>
          cases outcome with
          | error exception => exact has
          | ok result => exact ⟨has.1, has.2.1, nofun⟩

theorem has_run (battery : BatterySimulator) (history : List Event) :
    ∃ service, (run battery history).Has battery service := by
  induction history with
  | nil => exact ⟨_, has_start battery⟩
  | cons event past ih =>
      obtain ⟨service, has⟩ := ih
      exact has_after has event

/-- The flag in the context is that of the latest command. -/
theorem testComplete_run (battery : BatterySimulator) (history : List Event) :
    (run battery history).evseDataContext.testComplete =
      (latestCommand battery history).map CurrentCommand.testComplete := by
  induction history with
  | nil => rfl
  | cons event past ih =>
      cases event with
      | selected selectedId parameterSet => exact ih
      | cycle evDataContext =>
          obtain ⟨service, has⟩ := has_run battery past
          cases active : (run battery past).registry.active with
          | none =>
              have idle := onCycle_of_inactive active evDataContext
              rw [run, idle.2, latestCommand, idle.1]
              exact ih
          | some activeId =>
              cases has.2.2 activeId active
              have cycled := onCycle_of_active has active evDataContext
              rw [run, cycled.2, latestCommand, cycled.1]
              rfl
      | ended outcome =>
          rw [run, latestCommand, ← ih, after]
          split <;> rfl

/-- What a session shows is that of its service object. -/
theorem observe_congr {station other : Station} (same : station.registry = other.registry)
    (data : List EVDataContext) : station.observe data = other.observe data := by
  induction data generalizing station other with
  | nil => rfl
  | cons evDataContext later ih =>
      have next : (station.after (.cycle evDataContext)).registry =
          (other.after (.cycle evDataContext)).registry := by
        obtain ⟨registry, evseDataContext⟩ := station
        obtain ⟨_, _⟩ := other
        cases same
        unfold after ServiceRegistry.onCycle
        dsimp only
        cases registry.active with
        | none => rfl
        | some activeId =>
            dsimp only
            cases registry.service activeId with
            | none => rfl
            | some service => rfl
      unfold observe
      rw [same, next, ih next]

/-! ## Independence -/

/-- A selection of the health test after a history. -/
def selectedAfter (battery : BatterySimulator) (history : List Event)
    (parameterSet : ParameterSetArg) : Station :=
  (run battery history).after (.selected serviceId parameterSet)

/-- What the session of a selection shows does not depend on the history, and neither does
the context tell that an earlier test is complete. -/
structure Independent (battery : BatterySimulator) (history : List Event)
    (parameterSet : ParameterSetArg) : Prop where
  same : ∀ other data, (selectedAfter battery history parameterSet).observe data =
    (selectedAfter battery other parameterSet).observe data
  fresh : (selectedAfter battery history parameterSet).evseDataContext.testComplete ≠ some true

/-- The parameter set that a selection gives. -/
def chosen (parameterSet : ParameterSetArg) : Option ParameterSet :=
  ServiceRegistry.resolve ({} : BatteryHealthService) parameterSet

/-- What is in force after a history. -/
theorem selectedAfter_registry {battery : BatterySimulator} {history : List Event}
    {service : BatteryHealthService} (has : (run battery history).Has battery service)
    (parameterSet : ParameterSetArg) :
    (selectedAfter battery history parameterSet).registry =
      ⟨battery, [(serviceId, service.onSelected (chosen parameterSet) battery)],
        some serviceId⟩ := by
  have resolves : ServiceRegistry.resolve service parameterSet = chosen parameterSet := by
    cases parameterSet <;> rfl
  rw [← resolves]
  exact after_selected has parameterSet

/-- The first two commands of a session. -/
theorem observe_commands {station : Station} {battery : BatterySimulator}
    {service : BatteryHealthService}
    (registry : station.registry = ⟨battery, [(serviceId, service)], some serviceId⟩)
    (first second : EVDataContext) :
    (station.observe [first, second]).map Observation.command =
      [some (service.onCycle first battery).1,
        some ((service.onCycle first battery).2.onCycle second battery).1] := by
  have has : station.Has battery service := by
    unfold Has
    rw [registry]
    exact ⟨rfl, rfl, fun _ active => (Option.some.inj active).symm⟩
  have cycled := onCycle_of_active has (by rw [registry]) first
  have has' : (station.after (.cycle first)).Has battery (service.onCycle first battery).2 := by
    unfold Has
    rw [cycled.2]
    exact ⟨rfl, rfl, fun _ active => (Option.some.inj active).symm⟩
  have cycled' := onCycle_of_active has' (by rw [cycled.2]) second
  simp only [observe, List.map_cons, List.map_nil, cycled.1, cycled'.1]

/-- What a history has in common with one that it is independent of. -/
theorem Independent.parameters {battery : BatterySimulator} {history other : List Event}
    {parameterSet : ParameterSetArg} {service service' before after : BatteryHealthService}
    (independent : Independent battery history parameterSet)
    (has : (run battery history).Has battery service)
    (has' : (run battery other).Has battery service')
    (selected : before = service.onSelected (chosen parameterSet) battery)
    (selected' : after = service'.onSelected (chosen parameterSet) battery) :
    before.cRate = after.cRate ∧
      min (before.cRate * (battery.capacityWh / max battery.ocv 1)) before.maxIA =
        min (after.cRate * (battery.capacityWh / max battery.ocv 1)) after.maxIA ∧
      (50 ≤ before.cutoff ↔ 50 ≤ after.cutoff) := by
  have shown := congrArg (List.map Observation.command)
    (independent.same other [reporting 100, reporting 50])
  rw [observe_commands (selectedAfter_registry has parameterSet),
    observe_commands (selectedAfter_registry has' parameterSet), ← selected, ← selected'] at shown
  simp only [List.cons.injEq, Option.some.injEq, and_true] at shown
  have phase : before.phase = .charge := by rw [selected, onSelected_eq]
  have phase' : after.phase = .charge := by rw [selected', onSelected_eq]
  have full := onCycle_of_full battery phase
  have full' := onCycle_of_full battery phase'
  refine ⟨?_, ?_, ?_⟩
  · rw [shown.1, full'.1] at full
    exact (PhaseLabel.discharge.inj full.1).symm
  · rw [shown.1, full'.2.1] at full
    exact (neg_inj.mp full.2.1).symm
  · have complete := onCycle_of_half battery phase
    rw [shown.2, onCycle_of_half battery phase'] at complete
    exact (decide_eq_decide.mp complete).symm

/-- A session with one parameter. -/
def sessionWith (name : String) (value : Int) : List Event :=
  [.ended (.ok ⟨⟩), .selected serviceId (.object (some ⟨2, [⟨name, .intValue value⟩]⟩))]

theorem has_sessionWith (battery : BatterySimulator) (name : String) (value : Int) :
    (run battery (sessionWith name value)).Has battery (selectedWith name value battery) :=
  ⟨rfl, rfl, nofun⟩

/-- The selection of a history that is independent of the others names all parameters:
another history could have left any value of one that it does not name. -/
theorem Independent.namesAll {battery : BatterySimulator} {history : List Event}
    {parameterSet : ParameterSetArg} (independent : Independent battery history parameterSet) :
    NamesAll (parametersOf (chosen parameterSet)) := by
  obtain ⟨service, has⟩ := has_run battery history
  intro name named
  rw [← namedValue_isSome_iff]
  by_contra missing
  rw [Option.not_isSome_iff_eq_none] at missing
  simp only [List.mem_cons, List.not_mem_nil, or_false] at named
  rcases named with rfl | rfl | rfl
  · have agree := (independent.parameters has
      (has_sessionWith battery "RequestedCRate" (⌊service.cRate⌋ + 1)) rfl rfl).1
    rw [onSelected_of_not_named.1 missing, onSelected_of_not_named.1 missing,
      selectedWith_cRate] at agree
    push_cast at agree
    exact absurd agree (Int.lt_floor_add_one service.cRate).ne
  · obtain ⟨cRate, current, _⟩ := independent.parameters has
      (has_sessionWith battery "MaxTestCurrentA"
        (⌊min ((service.onSelected (chosen parameterSet) battery).cRate *
          (battery.capacityWh / max battery.ocv 1)) service.maxIA⌋ - 1)) rfl rfl
    rw [← cRate, onSelected_of_not_named.2.1 missing, onSelected_of_not_named.2.1 missing,
      selectedWith_maxIA] at current
    have below := current.trans_le (min_le_right _ _)
    have floor := Int.floor_le (min ((service.onSelected (chosen parameterSet) battery).cRate *
      (battery.capacityWh / max battery.ocv 1)) service.maxIA)
    push_cast at below
    linarith
  · have agree := (independent.parameters has
      (has_sessionWith battery "CutoffSOC" (if 50 ≤ service.cutoff then 10 else 50)) rfl
      rfl).2.2
    rw [onSelected_of_not_named.2.2 missing, onSelected_of_not_named.2.2 missing,
      selectedWith_cutoff] at agree
    split at agree
    · omega
    · omega

/-- A test is independent of earlier ones exactly if its parameter set names every parameter
and the latest cycle before it has not completed a test. -/
theorem independent_iff (battery : BatterySimulator) (history : List Event)
    (parameterSet : ParameterSetArg) :
    Independent battery history parameterSet ↔
      NamesAll (parametersOf (chosen parameterSet)) ∧
        ∀ command, latestCommand battery history = some command →
          command.testComplete = false := by
  have flag : (selectedAfter battery history parameterSet).evseDataContext.testComplete =
      (latestCommand battery history).map CurrentCommand.testComplete :=
    testComplete_run battery history
  constructor
  · intro independent
    constructor
    · exact independent.namesAll
    · intro command latest
      have fresh := independent.fresh
      rw [flag, latest, Option.map_some, ne_eq, Option.some.injEq] at fresh
      exact Bool.eq_false_iff.mpr fresh
  · rintro ⟨all, incomplete⟩
    constructor
    · intro other data
      obtain ⟨service, has⟩ := has_run battery history
      obtain ⟨service', has'⟩ := has_run battery other
      apply observe_congr
      rw [selectedAfter_registry has, selectedAfter_registry has',
        onSelected_of_namesAll all service service' battery]
    · rw [flag]
      intro visible
      obtain ⟨command, latest, complete⟩ := Option.map_eq_some_iff.mp visible
      cases (incomplete command latest).symm.trans complete

/-! ## A second test -/

namespace Sample

/-- A test that goes on until the battery has been discharged to 80 %. -/
def earlierTest : List Event :=
  [.ended (.ok ⟨⟩), .cycle (reporting 50), .cycle (reporting 100),
    .selected serviceId (.object (some ⟨2, [⟨"CutoffSOC", .intValue 80⟩]⟩))]

end Sample

/-- The cut-off of an earlier test stays in force, and its flag is still set. -/
theorem earlier_test_visible :
    (selectedAfter {} Sample.earlierTest (.id 2)).observe [reporting 100, reporting 50] ≠
        (selectedAfter {} [] (.id 2)).observe [reporting 100, reporting 50] ∧
      (selectedAfter {} Sample.earlierTest (.id 1)).evseDataContext.testComplete = some true := by
  constructor
  · decide +kernel
  · rfl

end Station

end Iso15118.Shared
