import Iso15118.Library.ClampedSum
import Iso15118.Shared.BatteryDiagnostics.BatterySimulator
import Mathlib.Tactic.FieldSimp
import Mathlib.Tactic.NormNum
import Mathlib.Tactic.Ring

/-!
# What the battery model keeps

The state of charge, the open-circuit voltage and the temperature over any number of updates,
and the voltage under load with the resistance that is estimated from it.
-/

namespace Iso15118.Shared.BatterySimulator

open Rounding

/-- `BatterySimulator.__init__`. -/
def init (capacityWh maxVoltage minVoltage rIntOhm initialSoc : ℚ) : BatterySimulator where
  capacityWh := capacityWh
  maxVoltage := maxVoltage
  minVoltage := minVoltage
  rIntOhm := rIntOhm
  stateOfCharge := initialSoc
  temperature := ambientTempC

/-- A battery that can exist. -/
structure Sound (battery : BatterySimulator) : Prop where
  capacity_pos : 0 < battery.capacityWh
  resistance_nonneg : 0 ≤ battery.rIntOhm
  voltages : battery.minVoltage ≤ battery.maxVoltage
  empty_le : 0 ≤ battery.stateOfCharge
  le_full : battery.stateOfCharge ≤ 100
  ambient_le : ambientTempC ≤ battery.temperature

section

variable {battery : BatterySimulator}

theorem Sound.minVoltage_le_ocv (sound : battery.Sound) : battery.minVoltage ≤ battery.ocv := by
  have part : 0 ≤ battery.stateOfCharge / 100 := div_nonneg sound.empty_le (by norm_num)
  have range := mul_nonneg (sub_nonneg.mpr sound.voltages) part
  unfold ocv
  linarith

theorem Sound.ocv_le_maxVoltage (sound : battery.Sound) : battery.ocv ≤ battery.maxVoltage := by
  have part : battery.stateOfCharge / 100 ≤ 1 :=
    div_le_one_of_le₀ sound.le_full (by norm_num)
  have range := mul_le_of_le_one_right (sub_nonneg.mpr sound.voltages) part
  unfold ocv
  linarith

/-- The properties `soc` and `temperature_c` are rounded, but stay in the bounds. -/
theorem Sound.soc_mem (sound : battery.Sound) : 0 ≤ battery.soc ∧ battery.soc ≤ 100 := by
  constructor
  · have bound : ((0 : Int) : ℚ) ≤ battery.stateOfCharge := by exact_mod_cast sound.empty_le
    exact_mod_cast le_roundDigits 3 bound
  · have bound : battery.stateOfCharge ≤ ((100 : Int) : ℚ) := by exact_mod_cast sound.le_full
    exact_mod_cast roundDigits_le 3 bound

theorem Sound.ambient_le_temperatureC (sound : battery.Sound) :
    ambientTempC ≤ battery.temperatureC := by
  have bound : ((25 : Int) : ℚ) ≤ battery.temperature := by exact_mod_cast sound.ambient_le
  exact_mod_cast le_roundDigits 2 bound

end

/-! ## One update -/

/-- The part of the capacity, in percent, that a power moves in a time. -/
def socOf (battery : BatterySimulator) (powerW dtS : ℚ) : ℚ :=
  powerW * dtS / 3600 / battery.capacityWh * 100

section

variable {battery : BatterySimulator}

theorem update_of_lt (battery : BatterySimulator) (powerW : ℚ) {dtS : ℚ}
    (short : dtS < 1 / 1000) : battery.update powerW dtS = battery :=
  if_pos short

/-- The state of charge is held between empty and full. -/
theorem update_stateOfCharge (battery : BatterySimulator) (powerW : ℚ) {dtS : ℚ}
    (long : 1 / 1000 ≤ dtS) :
    (battery.update powerW dtS).stateOfCharge =
      clampedSum 0 100 battery.stateOfCharge (battery.socOf powerW dtS) := by
  unfold update
  rw [if_neg long.not_gt]
  rfl

/-- The cooling does not go below the ambient temperature. -/
theorem ambient_le_cooled {heated : ℚ} (above : ambientTempC ≤ heated) :
    ambientTempC ≤ heated + (ambientTempC - heated) * (1 / 1000) := by
  linarith

theorem Sound.update (sound : battery.Sound) (powerW dtS : ℚ) :
    (battery.update powerW dtS).Sound := by
  by_cases short : dtS < 1 / 1000
  · rw [update_of_lt battery powerW short]
    exact sound
  · have long := not_lt.mp short
    have time : 0 ≤ dtS := le_trans (by norm_num) long
    have charge := update_stateOfCharge battery powerW long
    constructor
    case empty_le =>
      rw [charge]
      exact clampedSum.lo_le
    case le_full =>
      rw [charge]
      exact clampedSum.le_hi (by norm_num)
    case ambient_le =>
      unfold BatterySimulator.update
      rw [if_neg short]
      apply ambient_le_cooled
      have heat : ∀ current : ℚ,
          0 ≤ current ^ 2 * battery.rIntOhm * dtS / defaultThermalMass := by
        intro current
        have resistance := sound.resistance_nonneg
        unfold defaultThermalMass
        positivity
      exact sound.ambient_le.trans (le_add_of_nonneg_right (heat _))
    all_goals
      unfold BatterySimulator.update
      rw [if_neg short]
    case capacity_pos => exact sound.capacity_pos
    case resistance_nonneg => exact sound.resistance_nonneg
    case voltages => exact sound.voltages

/-- An update changes neither the capacity nor the voltages. -/
theorem update_keeps (battery : BatterySimulator) (powerW dtS : ℚ) :
    (battery.update powerW dtS).capacityWh = battery.capacityWh ∧
      (battery.update powerW dtS).minVoltage = battery.minVoltage ∧
      (battery.update powerW dtS).maxVoltage = battery.maxVoltage := by
  unfold BatterySimulator.update
  split
  · exact ⟨rfl, rfl, rfl⟩
  · exact ⟨rfl, rfl, rfl⟩

end

/-! ## Any number of updates -/

/-- The battery after updates, each a power and a time step. -/
def afterUpdates (battery : BatterySimulator) (updates : List (ℚ × ℚ)) : BatterySimulator :=
  updates.foldl (fun battery change => battery.update change.1 change.2) battery

section

variable {battery : BatterySimulator}

theorem Sound.afterUpdates (sound : battery.Sound) (updates : List (ℚ × ℚ)) :
    (battery.afterUpdates updates).Sound := by
  induction updates generalizing battery with
  | nil => exact sound
  | cons change later ih => exact ih (sound.update change.1 change.2)

theorem afterUpdates_keeps (battery : BatterySimulator) (updates : List (ℚ × ℚ)) :
    (battery.afterUpdates updates).minVoltage = battery.minVoltage ∧
      (battery.afterUpdates updates).maxVoltage = battery.maxVoltage := by
  induction updates generalizing battery with
  | nil => exact ⟨rfl, rfl⟩
  | cons change later ih =>
      obtain ⟨_, lowest, highest⟩ := update_keeps battery change.1 change.2
      obtain ⟨same_lowest, same_highest⟩ := ih (battery.update change.1 change.2)
      exact ⟨same_lowest.trans lowest, same_highest.trans highest⟩

/-- One power over several time steps. -/
def constantPower (powerW : ℚ) (steps : List ℚ) : List (ℚ × ℚ) :=
  steps.map fun dtS => (powerW, dtS)

/-- The steps put in, or take out, a portion each. -/
theorem afterUpdates_constantPower {steps : List ℚ} (powerW : ℚ)
    (long : ∀ dtS ∈ steps, 1 / 1000 ≤ dtS) :
    (battery.afterUpdates (constantPower powerW steps)).stateOfCharge =
      (steps.map (battery.socOf powerW)).foldl (clampedSum 0 100) battery.stateOfCharge := by
  induction steps generalizing battery with
  | nil => rfl
  | cons dtS later ih =>
      have first := long dtS List.mem_cons_self
      have same : (battery.update powerW dtS).socOf powerW = battery.socOf powerW := by
        funext time
        unfold socOf
        rw [(update_keeps battery powerW dtS).1]
      rw [List.map_cons, List.foldl_cons, ← update_stateOfCharge battery powerW first, ← same]
      exact ih fun step member => long step (List.mem_cons_of_mem dtS member)

theorem sum_socOf (battery : BatterySimulator) (powerW : ℚ) (steps : List ℚ) :
    (steps.map (battery.socOf powerW)).sum = battery.socOf powerW steps.sum := by
  induction steps with
  | nil => simp [socOf]
  | cons dtS later ih =>
      rw [List.map_cons, List.sum_cons, ih, List.sum_cons]
      unfold socOf
      ring

/-- All portions of one power have its sign. -/
theorem Sound.socOf_sign (sound : battery.Sound) {steps : List ℚ} (powerW : ℚ)
    (long : ∀ dtS ∈ steps, 1 / 1000 ≤ dtS) :
    (∀ portion ∈ steps.map (battery.socOf powerW), 0 ≤ portion) ∨
      (∀ portion ∈ steps.map (battery.socOf powerW), portion ≤ 0) := by
  have scaled : ∀ dtS,
      battery.socOf powerW dtS = powerW * (dtS / 3600 / battery.capacityWh * 100) := by
    intro dtS
    unfold socOf
    ring
  have nonneg : ∀ dtS ∈ steps, 0 ≤ dtS / 3600 / battery.capacityWh * 100 := by
    intro dtS member
    have time : 0 ≤ dtS := le_trans (by norm_num) (long dtS member)
    have capacity := sound.capacity_pos
    positivity
  obtain charging | discharging := le_total 0 powerW
  · left
    intro portion member
    obtain ⟨dtS, step, rfl⟩ := List.mem_map.mp member
    rw [scaled]
    exact mul_nonneg charging (nonneg dtS step)
  · right
    intro portion member
    obtain ⟨dtS, step, rfl⟩ := List.mem_map.mp member
    rw [scaled]
    exact mul_nonpos_of_nonpos_of_nonneg discharging (nonneg dtS step)

/-- Splitting a time does not change what a constant power does to the state of charge. -/
theorem Sound.stateOfCharge_split (sound : battery.Sound) {steps : List ℚ} (powerW : ℚ)
    (long : ∀ dtS ∈ steps, 1 / 1000 ≤ dtS) :
    (battery.afterUpdates (constantPower powerW steps)).stateOfCharge =
      (battery.update powerW steps.sum).stateOfCharge := by
  cases steps with
  | nil =>
      rw [List.sum_nil, update_of_lt battery powerW (by norm_num)]
      rfl
  | cons dtS later =>
      have rest : 0 ≤ later.sum := by
        apply List.sum_nonneg
        intro step member
        exact le_trans (by norm_num) (long step (List.mem_cons_of_mem dtS member))
      have total : 1 / 1000 ≤ (dtS :: later).sum := by
        rw [List.sum_cons]
        linarith [long dtS List.mem_cons_self]
      rw [update_stateOfCharge battery powerW total, ← sum_socOf,
        afterUpdates_constantPower powerW long]
      obtain nonneg | nonpos := sound.socOf_sign powerW long
      · exact clampedSum.foldl_of_nonneg nonneg sound.empty_le sound.le_full
      · exact clampedSum.foldl_of_nonpos nonpos sound.empty_le sound.le_full

end

/-- What holds of a battery with the data that it was made with. -/
structure Kept (minVoltage maxVoltage : ℚ) (battery : BatterySimulator) : Prop where
  soc : 0 ≤ battery.stateOfCharge ∧ battery.stateOfCharge ≤ 100
  soc_shown : 0 ≤ battery.soc ∧ battery.soc ≤ 100
  ocv : minVoltage ≤ battery.ocv ∧ battery.ocv ≤ maxVoltage
  temperature : ambientTempC ≤ battery.temperature
  temperature_shown : ambientTempC ≤ battery.temperatureC
  split : ∀ powerW steps, (∀ dtS ∈ steps, 1 / 1000 ≤ dtS) →
    (battery.afterUpdates (constantPower powerW steps)).stateOfCharge =
      (battery.update powerW steps.sum).stateOfCharge

/-- Updates with any powers and time steps keep the battery in its bounds, and after them a
time may be split. -/
theorem kept_of_init {capacityWh maxVoltage minVoltage rIntOhm initialSoc : ℚ}
    (capacity : 0 < capacityWh) (resistance : 0 ≤ rIntOhm) (voltages : minVoltage ≤ maxVoltage)
    (empty_le : 0 ≤ initialSoc) (le_full : initialSoc ≤ 100) (updates : List (ℚ × ℚ)) :
    Kept minVoltage maxVoltage
      ((init capacityWh maxVoltage minVoltage rIntOhm initialSoc).afterUpdates updates) := by
  have start : (init capacityWh maxVoltage minVoltage rIntOhm initialSoc).Sound :=
    ⟨capacity, resistance, voltages, empty_le, le_full, le_rfl⟩
  have sound := start.afterUpdates updates
  obtain ⟨lowest, highest⟩ := afterUpdates_keeps
    (init capacityWh maxVoltage minVoltage rIntOhm initialSoc) updates
  constructor
  case soc => exact ⟨sound.empty_le, sound.le_full⟩
  case soc_shown => exact sound.soc_mem
  case ocv =>
    constructor
    · exact lowest.ge.trans sound.minVoltage_le_ocv
    · exact sound.ocv_le_maxVoltage.trans highest.le
  case temperature => exact sound.ambient_le
  case temperature_shown => exact sound.ambient_le_temperatureC
  case split =>
    intro powerW steps long
    exact sound.stateOfCharge_split powerW long

/-- The default battery, charged beyond full and then discharged. -/
theorem kept_default :
    Kept 300 450 ((init 50 450 300 (1 / 20) 90).afterUpdates [(5000, 60), (-3000, 12)]) :=
  kept_of_init (by norm_num) (by norm_num) (by norm_num) (by norm_num) (by norm_num) _

/-! ## The voltage under load -/

/-- The estimate gives the resistance back, and the voltage rises while the battery is charged
and sags while it is discharged. -/
structure Inverts (battery : BatterySimulator) (currentA : ℚ) : Prop where
  estimate : 1 / 10 ≤ |currentA| →
    battery.estimateRInt (battery.terminalVoltage currentA) currentA = battery.rIntOhm
  charging : 0 < currentA → battery.ocv < battery.terminalVoltage currentA
  discharging : currentA < 0 → battery.terminalVoltage currentA < battery.ocv

section

variable {battery : BatterySimulator} {currentA : ℚ}

/-- The sag is measured against the size of the current. -/
theorem estimateRInt_terminalVoltage (large : 1 / 10 ≤ |currentA|) :
    battery.estimateRInt (battery.terminalVoltage currentA) currentA =
      max (1 / 1000) (min (currentA * battery.rIntOhm / |currentA|) 1) := by
  unfold estimateRInt terminalVoltage
  rw [max_eq_left large, sub_sub_cancel]

theorem estimateRInt_of_charging (charging : 0 < currentA) (large : 1 / 10 ≤ |currentA|)
    (least : 1 / 1000 ≤ battery.rIntOhm) (most : battery.rIntOhm ≤ 1) :
    battery.estimateRInt (battery.terminalVoltage currentA) currentA = battery.rIntOhm := by
  rw [estimateRInt_terminalVoltage large, abs_of_pos charging,
    mul_div_cancel_left₀ _ charging.ne', min_eq_left most, max_eq_right least]

/-- While the battery is discharged the sag is negative, and the clamp hides it. -/
theorem estimateRInt_of_discharging (discharging : currentA < 0) (large : 1 / 10 ≤ |currentA|)
    (least : 1 / 1000 ≤ battery.rIntOhm) :
    battery.estimateRInt (battery.terminalVoltage currentA) currentA = 1 / 1000 := by
  rw [estimateRInt_terminalVoltage large, abs_of_neg discharging, div_neg,
    mul_div_cancel_left₀ _ discharging.ne]
  apply max_eq_left
  apply min_le_of_left_le
  linarith

theorem terminalVoltage_lt_ocv (charging : 0 < currentA)
    (least : 1 / 1000 ≤ battery.rIntOhm) :
    battery.terminalVoltage currentA < battery.ocv := by
  have drop : 0 < currentA * battery.rIntOhm := mul_pos charging (by linarith)
  unfold terminalVoltage
  linarith

theorem ocv_lt_terminalVoltage (discharging : currentA < 0)
    (least : 1 / 1000 ≤ battery.rIntOhm) :
    battery.ocv < battery.terminalVoltage currentA := by
  have rise : currentA * battery.rIntOhm < 0 :=
    mul_neg_of_neg_of_pos discharging (by linarith)
  unfold terminalVoltage
  linarith

end

/-- No current but zero has both laws: the voltage goes the wrong way in both directions. The
estimate alone is right while the battery is charged. -/
theorem inverts_iff {battery : BatterySimulator} (least : 1 / 1000 ≤ battery.rIntOhm)
    (most : battery.rIntOhm ≤ 1) (currentA : ℚ) :
    (battery.Inverts currentA ↔ currentA = 0) ∧
      (1 / 10 ≤ |currentA| →
        (battery.estimateRInt (battery.terminalVoltage currentA) currentA = battery.rIntOhm ↔
          0 < currentA ∨ battery.rIntOhm = 1 / 1000)) := by
  constructor
  · constructor
    · intro inverts
      obtain discharging | zero | charging := lt_trichotomy currentA 0
      · have rises := ocv_lt_terminalVoltage discharging least
        exact absurd (inverts.discharging discharging) rises.not_gt
      · exact zero
      · have sags := terminalVoltage_lt_ocv charging least
        exact absurd (inverts.charging charging) sags.not_gt
    · rintro rfl
      constructor
      case estimate =>
        intro large
        norm_num at large
      case charging => exact fun charging => absurd charging (lt_irrefl 0)
      case discharging => exact fun discharging => absurd discharging (lt_irrefl 0)
  · intro large
    obtain discharging | rfl | charging := lt_trichotomy currentA 0
    · rw [estimateRInt_of_discharging discharging large least]
      constructor
      · intro same
        exact .inr same.symm
      · rintro (charging | same)
        · exact absurd charging discharging.not_gt
        · exact same.symm
    · norm_num at large
    · rw [estimateRInt_of_charging charging large least most]
      exact iff_of_true rfl (.inl charging)

/-- The default battery is read with a milliohm while 50 A flow out of it. -/
theorem inverts_iff_default :
    (({} : BatterySimulator).Inverts (-50) ↔ (-50 : ℚ) = 0) ∧
      (1 / 10 ≤ |(-50 : ℚ)| →
        (({} : BatterySimulator).estimateRInt (({} : BatterySimulator).terminalVoltage (-50))
            (-50) = ({} : BatterySimulator).rIntOhm ↔
          (0 : ℚ) < -50 ∨ ({} : BatterySimulator).rIntOhm = 1 / 1000)) :=
  inverts_iff (by norm_num) (by norm_num) (-50)

/-- A discharge of 50 A raises the voltage of the default battery, which has 50 mΩ. -/
theorem discharge_raises_voltage :
    1 / 1000 ≤ ({} : BatterySimulator).rIntOhm ∧ ({} : BatterySimulator).rIntOhm ≤ 1 ∧
      1 / 10 ≤ |(-50 : ℚ)| ∧
      ({} : BatterySimulator).ocv < ({} : BatterySimulator).terminalVoltage (-50) ∧
      ({} : BatterySimulator).estimateRInt (({} : BatterySimulator).terminalVoltage (-50)) (-50) ≠
        ({} : BatterySimulator).rIntOhm := by
  decide +kernel

end Iso15118.Shared.BatterySimulator
