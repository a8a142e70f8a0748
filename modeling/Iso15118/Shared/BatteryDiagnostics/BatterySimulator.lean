import Iso15118.Library.Rounding
import Mathlib.Algebra.Order.Field.Rat

/-!
# The battery model

`BatterySimulator` of `shared/battery_diagnostics/battery_simulator.py`. Floats
are read as exact rationals.
-/

namespace Iso15118.Shared

open Rounding

def defaultThermalMass : ℚ := 15000

def ambientTempC : ℚ := 25

/-- A battery pack. The defaults are those of the constructor. -/
structure BatterySimulator where
  capacityWh : ℚ := 50
  maxVoltage : ℚ := 450
  minVoltage : ℚ := 300
  rIntOhm : ℚ := 1 / 20
  /-- `_soc`, in percent. -/
  stateOfCharge : ℚ := 90
  temperature : ℚ := ambientTempC
  deriving DecidableEq

namespace BatterySimulator

/-- The property `soc`. -/
def soc (battery : BatterySimulator) : ℚ :=
  roundDigits 3 battery.stateOfCharge

/-- The property `temperature_c`. -/
def temperatureC (battery : BatterySimulator) : ℚ :=
  roundDigits 2 battery.temperature

/-- Open-circuit voltage. -/
def ocv (battery : BatterySimulator) : ℚ :=
  battery.minVoltage +
    (battery.maxVoltage - battery.minVoltage) * (battery.stateOfCharge / 100)

def terminalVoltage (battery : BatterySimulator) (currentA : ℚ) : ℚ :=
  battery.ocv - currentA * battery.rIntOhm

/-- Integrate a power over a time step. Steps below a millisecond are skipped. -/
def update (battery : BatterySimulator) (powerW dtS : ℚ) : BatterySimulator :=
  if dtS < 1 / 1000 then
    battery
  else
    let energyWh := powerW * dtS / 3600
    let deltaSoc := energyWh / battery.capacityWh * 100
    let charged :=
      { battery with
        stateOfCharge := max 0 (min 100 (battery.stateOfCharge + deltaSoc)) }
    let current := powerW / max charged.ocv 1
    let heatJ := current ^ 2 * charged.rIntOhm * dtS
    let heated := charged.temperature + heatJ / defaultThermalMass
    { charged with temperature := heated + (ambientTempC - heated) * (1 / 1000) }

/-- Internal resistance from the voltage sag, clamped to 1 mΩ – 1 Ω. -/
def estimateRInt (battery : BatterySimulator) (vMeasured currentA : ℚ) : ℚ :=
  let resistance := (battery.ocv - vMeasured) / max |currentA| (1 / 10)
  max (1 / 1000) (min resistance 1)

end BatterySimulator

end Iso15118.Shared
