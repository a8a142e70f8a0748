import Iso15118.Evcc.Controller.BatterySessions

/-!
# The values of a `CurrentDemandReq`

The remaining times are whole seconds, the target is whole volts and amperes, and all of them
have 16 bits. Without power the remaining time is that of a watt.
-/

namespace Iso15118.Evcc

open Effect
open Iso15118.Shared
open Iso15118.Evcc.V2
open Rounding

/-- A whole number is a physical value if it has 16 bits. -/
theorem exists_physicalValue_iff {value : Int} :
    (∃ quantity, PhysicalValue.new 0 value = .ok quantity) ↔
      int16Min ≤ value ∧ value ≤ int16Max := by
  constructor
  · rintro ⟨quantity, made⟩
    unfold PhysicalValue.new at made
    split at made
    next range => exact range.1
    next => cases made
  · intro range
    exact PhysicalValue.exists_new range (by decide)

namespace RealBatterySimulator

/-- The methods that give a `CurrentDemandReq` its values return. What they return has passed
the validation of its model. -/
structure Encodable (battery : RealBatterySimulator) : Prop where
  fullSoc : returns getRemainingTimeToFullSoc (fun _ _ => True) battery
  bulkSoc : returns getRemainingTimeToBulkSoc (fun _ _ => True) battery
  chargeParams : returns getDcChargeParams (fun _ _ => True) battery

/-- Either remaining time is below 32768 s at the present power, which counts as a watt when it
is less, and the SECC has not set a limit far below zero. -/
structure FewSeconds (battery : RealBatterySimulator) : Prop where
  fullSoc : (100 - battery.soc) * 18000 < 32768 * max battery.currentPowerW 1
  bulkSoc : (battery.bulkSoc - battery.soc) * 18000 < 32768 * max battery.currentPowerW 1
  current : -32768 - 1 / 2 ≤ battery.seccMaxCurrent

section

variable {battery : RealBatterySimulator}

/-! ## The remaining times -/

/-- Five hundred watt-hours take five hours for each percent at a watt. -/
theorem remainingSeconds_eq (battery : RealBatterySimulator) (gap : ℚ) :
    battery.remainingSeconds (gap / 100 * totalBatteryCapacityWh) =
      truncate (gap * 18000 / max battery.currentPowerW 1) := by
  unfold remainingSeconds totalBatteryCapacityWh
  congr 1
  ring

theorem remainingSeconds_mem_iff {gap : ℚ} (nonneg : 0 ≤ gap) :
    (int16Min ≤ battery.remainingSeconds (gap / 100 * totalBatteryCapacityWh) ∧
        battery.remainingSeconds (gap / 100 * totalBatteryCapacityWh) ≤ int16Max) ↔
      gap * 18000 < 32768 * max battery.currentPowerW 1 := by
  have power : 0 < max battery.currentPowerW 1 := zero_lt_one.trans_le (le_max_right _ _)
  have seconds : 0 ≤ gap * 18000 / max battery.currentPowerW 1 := by positivity
  rw [remainingSeconds_eq, ← div_lt_iff₀ power]
  constructor
  · rintro ⟨_, most⟩
    rw [truncate_of_nonneg seconds] at most
    have whole := Int.lt_floor_add_one (gap * 18000 / max battery.currentPowerW 1)
    have bound : (⌊gap * 18000 / max battery.currentPowerW 1⌋ : ℚ) ≤ 32767 := by
      exact_mod_cast most
    linarith
  · intro few
    constructor
    · exact le_trans (by decide) (truncate_nonneg seconds)
    · rw [truncate_of_nonneg seconds]
      apply Int.lt_add_one_iff.mp
      rw [Int.floor_lt]
      exact few.trans_eq (by norm_num [int16Max])

theorem returns_fullSoc_iff (le_full : battery.soc ≤ 100) :
    returns getRemainingTimeToFullSoc (fun _ _ => True) battery ↔
      (100 - battery.soc) * 18000 < 32768 * max battery.currentPowerW 1 := by
  rw [← remainingSeconds_mem_iff (sub_nonneg.mpr le_full), ← exists_physicalValue_iff]
  unfold getRemainingTimeToFullSoc
  simp only [returns_bind, returns_get, returns_ofExcept, and_true]
  rfl

theorem returns_bulkSoc_iff :
    returns getRemainingTimeToBulkSoc (fun _ _ => True) battery ↔
      (battery.bulkSoc - battery.soc) * 18000 < 32768 * max battery.currentPowerW 1 := by
  have power : 0 < 32768 * max battery.currentPowerW 1 :=
    mul_pos (by norm_num) (zero_lt_one.trans_le (le_max_right _ _))
  have gap : max 0 (battery.bulkSoc - battery.soc) * 18000 <
      32768 * max battery.currentPowerW 1 ↔
        (battery.bulkSoc - battery.soc) * 18000 < 32768 * max battery.currentPowerW 1 := by
    rw [max_mul_of_nonneg _ _ (by norm_num), max_lt_iff, zero_mul, and_iff_right power]
  rw [← gap, ← remainingSeconds_mem_iff (le_max_left _ _), ← exists_physicalValue_iff]
  unfold getRemainingTimeToBulkSoc
  simp only [returns_bind, returns_get, returns_ofExcept, and_true]

/-! ## The operating point -/

theorem computeVoltage_mem (sound : battery.Sound) :
    300 ≤ battery.computeVoltage ∧ battery.computeVoltage ≤ 500 := by
  have empty_le := sound.soc_nonneg
  have le_full := sound.soc_le
  unfold computeVoltage minVoltage maxVoltage
  constructor
  · linarith
  · linarith

/-- The voltage of the battery is always a physical value. -/
theorem roundVoltage_mem (sound : battery.Sound) :
    int16Min ≤ roundHalfEven battery.computeVoltage ∧
      roundHalfEven battery.computeVoltage ≤ int16Max := by
  obtain ⟨least, most⟩ := computeVoltage_mem sound
  apply roundHalfEven_mem
  unfold int16Min int16Max
  push_cast
  constructor
  · linarith
  · linarith

/-- The current is at most 60 A, and below zero only where the limit of the SECC is. -/
theorem roundCurrent_mem_iff :
    (int16Min ≤ roundHalfEven battery.targetCurrent ∧
        roundHalfEven battery.targetCurrent ≤ int16Max) ↔
      -32768 - 1 / 2 ≤ battery.seccMaxCurrent := by
  have ev : 0 ≤ min (maxChargePowerW / max battery.computeVoltage 1) maxChargeCurrent := by
    have voltage : 0 < max battery.computeVoltage 1 :=
      zero_lt_one.trans_le (le_max_right _ _)
    have power : 0 ≤ maxChargePowerW := by norm_num [maxChargePowerW]
    exact le_min (div_nonneg power voltage.le) (by norm_num [maxChargeCurrent])
  have most : battery.targetCurrent ≤ 60 :=
    (min_le_left _ _).trans (min_le_right _ _)
  have upper : roundHalfEven battery.targetCurrent ≤ int16Max := by
    have even : Even (60 : Int) := by decide
    have rounded : roundHalfEven battery.targetCurrent ≤ 60 := by
      rw [roundHalfEven_le_iff even]
      push_cast
      linarith
    exact rounded.trans (by decide)
  rw [and_iff_left upper, le_roundHalfEven_iff (by decide)]
  unfold targetCurrent
  rw [le_min_iff]
  constructor
  · rintro ⟨_, least⟩
    exact le_trans (by norm_num [int16Min]) least
  · intro least
    constructor
    · exact le_trans (by norm_num [int16Min]) ev
    · exact le_trans (by norm_num [int16Min]) least

theorem returns_chargeParams_iff (sound : battery.Sound) :
    returns getDcChargeParams (fun _ _ => True) battery ↔
      -32768 - 1 / 2 ≤ battery.seccMaxCurrent := by
  rw [← roundCurrent_mem_iff, ← exists_physicalValue_iff]
  obtain ⟨voltage, made⟩ := exists_physicalValue_iff.mpr (roundVoltage_mem sound)
  unfold getDcChargeParams
  simp only [returns_bind, returns_get, returns_ofExcept, returns_pure, made, and_true,
    Except.ok.injEq, exists_eq']

theorem encodable_iff (sound : battery.Sound) : battery.Encodable ↔ battery.FewSeconds := by
  constructor
  · intro encodable
    exact ⟨(returns_fullSoc_iff sound.soc_le).mp encodable.fullSoc,
      returns_bulkSoc_iff.mp encodable.bulkSoc,
      (returns_chargeParams_iff sound).mp encodable.chargeParams⟩
  · intro few
    exact ⟨(returns_fullSoc_iff sound.soc_le).mpr few.fullSoc,
      returns_bulkSoc_iff.mpr few.bulkSoc, (returns_chargeParams_iff sound).mpr few.current⟩

end

end RealBatterySimulator

end Iso15118.Evcc
