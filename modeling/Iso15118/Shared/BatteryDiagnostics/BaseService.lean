import Iso15118.Secc.Controller.EvData
import Iso15118.Shared.BatteryDiagnostics.BatterySimulator

/-!
# Diagnostic services

The interface between the registry and a diagnostic test:
`shared/battery_diagnostics/base_service.py`.
-/

namespace Iso15118.Shared

open Iso15118.Shared.V20
open Iso15118.Secc

universe u

/-- `phase_label`, which is only logged. -/
inductive PhaseLabel where
  | idle
  | charge
  | discharge (cRate : ℚ)
  | dischargeComplete
  deriving DecidableEq

/-- What the charger should command next. A positive current charges the EV, a
negative one discharges it. -/
structure CurrentCommand where
  targetCurrentA : ℚ
  targetVoltageV : ℚ
  phaseLabel : PhaseLabel := .idle
  testComplete : Bool := false
  deriving DecidableEq

/-- The methods that the registry calls on a service object. A subclass may
raise in `on_cycle`. -/
class DiagnosticService (σ : Type u) where
  serviceId : σ → Int
  getParameterList : σ → ServiceParameterList
  onSelected : σ → Option ParameterSet → BatterySimulator → σ
  onCycle : σ → EVDataContext → BatterySimulator → Except PyError (CurrentCommand × σ)

end Iso15118.Shared
