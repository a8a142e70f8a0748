/-!
# Enumerations shared by the protocols

`shared/messages/enums.py`. The docstrings name the string values only where
they matter to the code.
-/

namespace Iso15118.Shared

/-- External identification means, or Plug and Charge. -/
inductive AuthEnum where
  | eim
  | pnc
  deriving DecidableEq, Repr

inductive AuthorizationStatus where
  | accepted
  | ongoing
  | rejected
  deriving DecidableEq, Repr

inductive IsolationLevel where
  | invalid
  | valid
  | warning
  | fault
  | noImd
  deriving DecidableEq, Repr

/-- The services of ISO 15118-20 that the code knows by id. -/
inductive ServiceV20 where
  | ac
  | dc
  | wpt
  | dcAcdp
  | acBpt
  | dcBpt
  | dcAcdpBpt
  | internet
  | parkingStatus
  | batteryHealthTest
  deriving DecidableEq, Repr

def ServiceV20.id : ServiceV20 → Int
  | .ac => 1
  | .dc => 2
  | .wpt => 3
  | .dcAcdp => 4
  | .acBpt => 5
  | .dcBpt => 6
  | .dcAcdpBpt => 7
  | .internet => 65
  | .parkingStatus => 66
  | .batteryHealthTest => 101

/-- `ServiceV20.get_by_id`; the enumeration raises `ValueError` for other ids. -/
def ServiceV20.getById (serviceId : Int) : Option ServiceV20 :=
  [ac, dc, wpt, dcAcdp, acBpt, dcBpt, dcAcdpBpt, internet, parkingStatus, batteryHealthTest].find?
    fun service => service.id = serviceId

theorem ServiceV20.getById_id (service : ServiceV20) : getById service.id = some service := by
  cases service <;> rfl

theorem ServiceV20.id_of_getById {serviceId : Int} {service : ServiceV20}
    (known : getById serviceId = some service) : service.id = serviceId := by
  have found := List.find?_some known
  rwa [decide_eq_true_eq] at found

inductive ControlMode where
  | scheduled
  | dynamic
  deriving DecidableEq, Repr

/-- `EnergyTransferModeEnum`, of DIN SPEC 70121 and ISO 15118-2. -/
inductive EnergyTransferMode where
  | acSinglePhaseCore
  | acThreePhaseCore
  | dcCore
  | dcExtended
  | dcComboCore
  | dcUnique
  deriving DecidableEq, Repr

/-- Whether the value of the mode starts with `AC`. -/
def EnergyTransferMode.isAc : EnergyTransferMode → Bool
  | .acSinglePhaseCore | .acThreePhaseCore => true
  | _ => false

inductive CurrentType where
  | ac
  | dc
  deriving DecidableEq, Repr

end Iso15118.Shared
