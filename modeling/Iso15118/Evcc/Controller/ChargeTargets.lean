import Iso15118.Evcc.Controller.TimedCalls
import Iso15118.Shared.Messages.ExponentRepr
import Iso15118.Shared.Messages.V20.Message

/-!
# Targets of current and voltage

What scheduled parameters of a charge loop ask for, and the limits that the SECC advertises. The
current in charge is the power in force over the voltage, and that in discharge is the current of
the test. Both are rounded, so that they are within the limits where the power, or the current of
the test, is less than what rounds beyond them.
-/

namespace Iso15118.Evcc

open Effect
open Iso15118.Shared
open Iso15118.Shared.V20
open Rounding

/-! ## What is advertised -/

/-- The limits that the SECC has advertised last, where it has advertised any. -/
structure Advertised where
  maxChargeCurrent : Option ℚ := none
  maxChargePower : Option ℚ := none
  maxDischargeCurrent : Option ℚ := none
  maxDischargePower : Option ℚ := none
  maxVoltage : Option ℚ := none

namespace Advertised

/-- A limit of a response, or the one from before. -/
def latest (new : Option RationalNumber) (old : Option ℚ) : Option ℚ :=
  (new.map RationalNumber.getDecimalValue).or old

def charge (advertised : Advertised) (maxCurrent maxPower maxVoltage : Option RationalNumber) :
    Advertised :=
  { advertised with
    maxChargeCurrent := latest maxCurrent advertised.maxChargeCurrent
    maxChargePower := latest maxPower advertised.maxChargePower
    maxVoltage := latest maxVoltage advertised.maxVoltage }

def discharge (advertised : Advertised) (maxCurrent maxPower : Option RationalNumber) :
    Advertised :=
  { advertised with
    maxDischargeCurrent := latest maxCurrent advertised.maxDischargeCurrent
    maxDischargePower := latest maxPower advertised.maxDischargePower }

/-- The limits after a `DCChargeParameterDiscoveryRes`. -/
def parameters (advertised : Advertised) : DCChargeParameterDiscoveryRes → Advertised
  | .dc params =>
      advertised.charge params.evseMaxChargeCurrent params.evseMaxChargePower params.evseMaxVoltage
  | .bptDc params =>
      (advertised.charge params.evseMaxChargeCurrent params.evseMaxChargePower
        params.evseMaxVoltage).discharge params.evseMaxDischargeCurrent params.evseMaxDischargePower

/-- The limits after a `DCChargeLoopRes`. -/
def loop (advertised : Advertised) : DCChargeLoopResParams → Advertised
  | .scheduled params =>
      advertised.charge params.evseMaximumChargeCurrent params.evseMaximumChargePower
        params.evseMaximumVoltage
  | .dynamic params =>
      advertised.charge params.evseMaximumChargeCurrent params.evseMaximumChargePower
        params.evseMaximumVoltage
  | .bptScheduled params =>
      (advertised.charge params.evseMaximumChargeCurrent params.evseMaximumChargePower
        params.evseMaximumVoltage).discharge params.evseMaxDischargeCurrent
        params.evseMaxDischargePower
  | .bptDynamic params =>
      (advertised.charge params.evseMaximumChargeCurrent params.evseMaximumChargePower
        params.evseMaximumVoltage).discharge params.evseMaxDischargeCurrent
        params.evseMaxDischargePower

end Advertised

/-- The current and the voltage that are asked for. A discharge has a negative current. -/
structure Target where
  currentA : ℚ
  voltageV : ℚ
  deriving DecidableEq

/-- What is asked for is within the current of the battery and within the limits for its
direction. -/
structure Target.Within (target : Target) (advertised : Advertised) : Prop where
  battery : |target.currentA| ≤ RealBatterySimulator.maxChargeCurrent
  charge : 0 ≤ target.currentA →
    (∀ bound ∈ advertised.maxChargeCurrent, |target.currentA| ≤ bound) ∧
      ∀ bound ∈ advertised.maxChargePower, |target.currentA * target.voltageV| ≤ bound
  discharge : target.currentA < 0 →
    (∀ bound ∈ advertised.maxDischargeCurrent, |target.currentA| ≤ bound) ∧
      ∀ bound ∈ advertised.maxDischargePower, |target.currentA * target.voltageV| ≤ bound
  voltage : ∀ bound ∈ advertised.maxVoltage, target.voltageV ≤ bound

/-- No limit is lower than one from before. -/
structure Advertised.KeptBy (before after : Advertised) : Prop where
  maxChargeCurrent : ∀ bound ∈ after.maxChargeCurrent, ∃ earlier ∈ before.maxChargeCurrent,
    earlier ≤ bound
  maxChargePower : ∀ bound ∈ after.maxChargePower, ∃ earlier ∈ before.maxChargePower,
    earlier ≤ bound
  maxDischargeCurrent : ∀ bound ∈ after.maxDischargeCurrent, ∃ earlier ∈ before.maxDischargeCurrent,
    earlier ≤ bound
  maxDischargePower : ∀ bound ∈ after.maxDischargePower, ∃ earlier ∈ before.maxDischargePower,
    earlier ≤ bound
  maxVoltage : ∀ bound ∈ after.maxVoltage, ∃ earlier ∈ before.maxVoltage, earlier ≤ bound

instance (before after : Advertised) : Decidable (before.KeptBy after) :=
  decidable_of_iff (_ ∧ _ ∧ _ ∧ _ ∧ _)
    ⟨fun ⟨chargeCurrent, chargePower, dischargeCurrent, dischargePower, voltage⟩ =>
        ⟨chargeCurrent, chargePower, dischargeCurrent, dischargePower, voltage⟩,
      fun kept => ⟨kept.maxChargeCurrent, kept.maxChargePower, kept.maxDischargeCurrent,
        kept.maxDischargePower, kept.maxVoltage⟩⟩

/-- Limits that are not lower leave a target within them. -/
theorem Target.Within.mono {target : Target} {before after : Advertised}
    (within : target.Within before) (kept : before.KeptBy after) : target.Within after := by
  constructor
  · exact within.battery
  · intro nonneg
    obtain ⟨currents, powers⟩ := within.charge nonneg
    constructor
    · intro bound same
      obtain ⟨earlier, held, le⟩ := kept.maxChargeCurrent bound same
      exact (currents earlier held).trans le
    · intro bound same
      obtain ⟨earlier, held, le⟩ := kept.maxChargePower bound same
      exact (powers earlier held).trans le
  · intro negative
    obtain ⟨currents, powers⟩ := within.discharge negative
    constructor
    · intro bound same
      obtain ⟨earlier, held, le⟩ := kept.maxDischargeCurrent bound same
      exact (currents earlier held).trans le
    · intro bound same
      obtain ⟨earlier, held, le⟩ := kept.maxDischargePower bound same
      exact (powers earlier held).trans le
  · intro bound same
    obtain ⟨earlier, held, le⟩ := kept.maxVoltage bound same
    exact (within.voltage earlier held).trans le

/-! ## What the battery asks for -/

namespace RealBatterySimulator

/-- The power in force over the voltage, and the voltage, both rounded. -/
def chargeTarget (battery : RealBatterySimulator) : Target :=
  let charged := battery.charged
  ⟨roundHalfEven (min charged.currentPowerW (charged.seccMaxPowerW.getD 0) /
      max charged.computeVoltage 1),
    roundHalfEven charged.computeVoltage⟩

/-- The current of the test and the voltage, both truncated and as far as they can be encoded. -/
def dischargeTarget (battery : RealBatterySimulator) : Target :=
  ⟨decodeRepr (getExponentValueRepr (truncate (-battery.diagDischargeIA))),
    decodeRepr (getExponentValueRepr (truncate battery.computeVoltage))⟩

/-- What is asked for, by whether the energy service is bidirectional. -/
def target (bpt : Bool) (battery : RealBatterySimulator) : Target :=
  if bpt && battery.discharging then battery.dischargeTarget else battery.chargeTarget

/-- What scheduled parameters ask for. -/
def targetOf (params : ScheduledDCChargeLoopReqParams) : Target :=
  ⟨params.evTargetCurrent.getDecimalValue, params.evTargetVoltage.getDecimalValue⟩

theorem getDecimalValue_rational {value : ℚ} {number : RationalNumber}
    (made : rational value = .ok number) : number.getDecimalValue = roundHalfEven value := by
  unfold rational RationalNumber.new at made
  split at made
  · cases made
    unfold RationalNumber.getDecimalValue
    simp
  · cases made

theorem getDecimalValue_rationalRepr {value : Int} {number : RationalNumber}
    (made : rationalRepr value = .ok number) :
    number.getDecimalValue = decodeRepr (getExponentValueRepr value) := by
  unfold rationalRepr RationalNumber.new at made
  split at made
  · cases made
    rfl
  · cases made

theorem getScheduledDcChargeLoopParams_target (battery : RealBatterySimulator) :
    wp getScheduledDcChargeLoopParams (fun params _ => targetOf params = battery.chargeTarget)
      (fun _ _ => True) battery := by
  have charges (onOk : PUnit → RealBatterySimulator → Prop)
      (onError : PyError → RealBatterySimulator → Prop) :
      wp (updateBatteryState battery.currentPowerW) onOk onError battery =
        onOk ⟨⟩ battery.charged := rfl
  unfold getScheduledDcChargeLoopParams chargeTarget
  rw [wp_bind, wp_get, wp_bind, charges, wp_bind, wp_get]
  cases limit : battery.charged.seccMaxPowerW with
  | none => trivial
  | some seccMaxPowerW =>
      dsimp only
      rw [wp_bind, wp_ofExcept]
      refine ⟨fun current madeCurrent => ?_, fun _ _ => trivial⟩
      rw [wp_bind, wp_ofExcept]
      refine ⟨fun voltage madeVoltage => ?_, fun _ _ => trivial⟩
      unfold targetOf
      rw [wp_pure, getDecimalValue_rational madeCurrent, getDecimalValue_rational madeVoltage,
        limit]
      rfl

theorem getBptScheduledDcChargeLoopParams_target (battery : RealBatterySimulator) :
    wp getBptScheduledDcChargeLoopParams
      (fun params _ =>
        targetOf params.toScheduledDCChargeLoopReqParams = battery.target true)
      (fun _ _ => True) battery := by
  unfold getBptScheduledDcChargeLoopParams target discharging
  rw [wp_bind, wp_get, wp_ite]
  simp only [Bool.true_and, Bool.and_eq_true, decide_eq_true_eq]
  split
  · rw [wp_bind, wp_set, wp_bind, wp_ofExcept]
    refine ⟨fun current madeCurrent => ?_, fun _ _ => trivial⟩
    rw [wp_bind, wp_ofExcept]
    refine ⟨fun voltage madeVoltage => ?_, fun _ _ => trivial⟩
    iterate 3
      rw [wp_bind, wp_ofExcept]
      refine ⟨fun _ _ => ?_, fun _ _ => trivial⟩
    unfold dischargeTarget targetOf
    rw [wp_pure, getDecimalValue_rationalRepr madeCurrent, getDecimalValue_rationalRepr madeVoltage]
  · rw [wp_bind]
    exact getScheduledDcChargeLoopParams_target battery

end RealBatterySimulator

/-! ## Powers and currents that fit -/

/-- The current of a power at a voltage is rounded to no more than a bound. -/
def FlowsWithin (powerW voltageV bound : ℚ) : Prop :=
  powerW < (⌊bound⌋ + 1 / 2) * voltageV ∨ powerW = (⌊bound⌋ + 1 / 2) * voltageV ∧ Even ⌊bound⌋

instance (powerW voltageV bound : ℚ) : Decidable (FlowsWithin powerW voltageV bound) :=
  inferInstanceAs (Decidable (_ ∨ _ ∧ _))

theorem flowsWithin_iff {powerW voltageV bound : ℚ} (positive : 0 < voltageV) :
    FlowsWithin powerW voltageV bound ↔ (roundHalfEven (powerW / voltageV) : ℚ) ≤ bound := by
  rw [roundHalfEven_cast_le_iff]
  unfold FlowsWithin RoundsWithin
  rw [div_lt_iff₀ positive, div_eq_iff positive.ne']

/-- A power that charges or, where it is negative, discharges the battery at a voltage fits the
limits. -/
structure ChargeFits (powerW voltageV : ℚ) (advertised : Advertised) : Prop where
  battery : |powerW| ≤ (60 + 1 / 2) * voltageV
  charge : -(1 / 2) * voltageV ≤ powerW →
    (∀ bound ∈ advertised.maxChargeCurrent, FlowsWithin powerW voltageV bound) ∧
      ∀ bound ∈ advertised.maxChargePower,
        FlowsWithin powerW voltageV (bound / roundHalfEven voltageV)
  discharge : powerW < -(1 / 2) * voltageV →
    (∀ bound ∈ advertised.maxDischargeCurrent, FlowsWithin (-powerW) voltageV bound) ∧
      ∀ bound ∈ advertised.maxDischargePower,
        FlowsWithin (-powerW) voltageV (bound / roundHalfEven voltageV)
  voltage : ∀ bound ∈ advertised.maxVoltage,
    voltageV < ⌊bound⌋ + 1 / 2 ∨ voltageV = ⌊bound⌋ + 1 / 2 ∧ Even ⌊bound⌋

instance (powerW voltageV : ℚ) (advertised : Advertised) :
    Decidable (ChargeFits powerW voltageV advertised) :=
  decidable_of_iff (_ ∧ _ ∧ _ ∧ _)
    ⟨fun ⟨battery, charge, discharge, voltage⟩ => ⟨battery, charge, discharge, voltage⟩,
      fun fits => ⟨fits.battery, fits.charge, fits.discharge, fits.voltage⟩⟩

/-- The current of a test at a voltage fits the limits. -/
structure DischargeFits (currentA voltageV : ℚ) (advertised : Advertised) : Prop where
  battery : |currentA| < 60 + 1
  charge : currentA < 1 →
    (∀ bound ∈ advertised.maxChargeCurrent, |currentA| < ⌊bound⌋ + 1) ∧
      ∀ bound ∈ advertised.maxChargePower, |currentA| < ⌊bound / ⌊voltageV⌋⌋ + 1
  discharge : 1 ≤ currentA →
    (∀ bound ∈ advertised.maxDischargeCurrent, |currentA| < ⌊bound⌋ + 1) ∧
      ∀ bound ∈ advertised.maxDischargePower, |currentA| < ⌊bound / ⌊voltageV⌋⌋ + 1
  voltage : ∀ bound ∈ advertised.maxVoltage, voltageV < ⌊bound⌋ + 1

instance (currentA voltageV : ℚ) (advertised : Advertised) :
    Decidable (DischargeFits currentA voltageV advertised) :=
  decidable_of_iff (_ ∧ _ ∧ _ ∧ _)
    ⟨fun ⟨battery, charge, discharge, voltage⟩ => ⟨battery, charge, discharge, voltage⟩,
      fun fits => ⟨fits.battery, fits.charge, fits.discharge, fits.voltage⟩⟩

section

variable {powerW voltageV : ℚ}

theorem current_le_battery_iff (positive : 0 < voltageV) :
    |(roundHalfEven (powerW / voltageV) : ℚ)| ≤ RealBatterySimulator.maxChargeCurrent ↔
      |powerW| ≤ (60 + 1 / 2) * voltageV := by
  have upper := roundHalfEven_le_iff (by decide : Even (60 : Int)) (powerW / voltageV)
  have lower := le_roundHalfEven_iff (by decide : Even (-60 : Int)) (powerW / voltageV)
  rw [div_le_iff₀ positive] at upper
  rw [le_div_iff₀ positive] at lower
  unfold RealBatterySimulator.maxChargeCurrent
  rw [abs_le, abs_le]
  apply and_congr
  · have same : -(60 : ℚ) = ((-60 : Int) : ℚ) := by norm_num
    rw [same, Int.cast_le, lower]
    push_cast
    constructor <;> intro <;> linarith
  · have same : (60 : ℚ) = ((60 : Int) : ℚ) := by norm_num
    rw [same, Int.cast_le, upper]

theorem current_nonneg_iff (positive : 0 < voltageV) :
    0 ≤ (roundHalfEven (powerW / voltageV) : ℚ) ↔ -(1 / 2) * voltageV ≤ powerW := by
  have least := le_roundHalfEven_iff (by decide : Even (0 : Int)) (powerW / voltageV)
  rw [le_div_iff₀ positive] at least
  rw [Int.cast_nonneg_iff, least]
  norm_num

/-- The current in the direction of a charge, alone and with the voltage. -/
theorem charge_within_iff (positive : 0 < voltageV) {rounded bound : ℚ} (scale : 0 < rounded)
    (nonneg : 0 ≤ (roundHalfEven (powerW / voltageV) : ℚ)) :
    (|(roundHalfEven (powerW / voltageV) : ℚ)| ≤ bound ↔ FlowsWithin powerW voltageV bound) ∧
      (|roundHalfEven (powerW / voltageV) * rounded| ≤ bound ↔
        FlowsWithin powerW voltageV (bound / rounded)) := by
  rw [abs_of_nonneg nonneg, abs_of_nonneg (mul_nonneg nonneg scale.le), ← le_div_iff₀ scale,
    flowsWithin_iff positive, flowsWithin_iff positive]
  exact ⟨Iff.rfl, Iff.rfl⟩

/-- The current in the direction of a discharge, alone and with the voltage. -/
theorem discharge_within_iff (positive : 0 < voltageV) {rounded bound : ℚ} (scale : 0 < rounded)
    (negative : (roundHalfEven (powerW / voltageV) : ℚ) < 0) :
    (|(roundHalfEven (powerW / voltageV) : ℚ)| ≤ bound ↔ FlowsWithin (-powerW) voltageV bound) ∧
      (|roundHalfEven (powerW / voltageV) * rounded| ≤ bound ↔
        FlowsWithin (-powerW) voltageV (bound / rounded)) := by
  rw [abs_mul, abs_of_neg negative, abs_of_pos scale, ← le_div_iff₀ scale,
    flowsWithin_iff positive, flowsWithin_iff positive, neg_div, roundHalfEven_neg]
  push_cast
  exact ⟨Iff.rfl, Iff.rfl⟩

end

theorem chargeFits_iff {powerW voltageV : ℚ} (least : 1 ≤ voltageV) (advertised : Advertised) :
    Target.Within ⟨roundHalfEven (powerW / voltageV), roundHalfEven voltageV⟩ advertised ↔
      ChargeFits powerW voltageV advertised := by
  have positive : 0 < voltageV := by linarith
  have rounded : 0 < (roundHalfEven voltageV : ℚ) := by
    have one_le : 1 ≤ roundHalfEven voltageV :=
      (roundHalfEven_mem ⟨by exact_mod_cast least, Int.le_ceil voltageV⟩).1
    exact_mod_cast one_le
  constructor
  · intro within
    constructor
    · exact (current_le_battery_iff positive).mp within.battery
    · intro charges
      have nonneg := (current_nonneg_iff positive).mpr charges
      obtain ⟨currents, powers⟩ := within.charge nonneg
      exact ⟨fun bound same =>
          (charge_within_iff positive rounded nonneg).1.mp (currents bound same),
        fun bound same => (charge_within_iff positive rounded nonneg).2.mp (powers bound same)⟩
    · intro discharges
      have negative := lt_of_not_ge
        (mt (current_nonneg_iff positive).mp (not_le.mpr discharges))
      obtain ⟨currents, powers⟩ := within.discharge negative
      exact ⟨fun bound same =>
          (discharge_within_iff positive rounded negative).1.mp (currents bound same),
        fun bound same =>
          (discharge_within_iff positive rounded negative).2.mp (powers bound same)⟩
    · exact fun bound same => roundHalfEven_cast_le_iff.mp (within.voltage bound same)
  · intro fits
    constructor
    · exact (current_le_battery_iff positive).mpr fits.battery
    · intro nonneg
      obtain ⟨currents, powers⟩ := fits.charge ((current_nonneg_iff positive).mp nonneg)
      exact ⟨fun bound same =>
          (charge_within_iff positive rounded nonneg).1.mpr (currents bound same),
        fun bound same => (charge_within_iff positive rounded nonneg).2.mpr (powers bound same)⟩
    · intro negative
      obtain ⟨currents, powers⟩ := fits.discharge
        (lt_of_not_ge (mt (current_nonneg_iff positive).mpr (not_le.mpr negative)))
      exact ⟨fun bound same =>
          (discharge_within_iff positive rounded negative).1.mpr (currents bound same),
        fun bound same =>
          (discharge_within_iff positive rounded negative).2.mpr (powers bound same)⟩
    · exact fun bound same => roundHalfEven_cast_le_iff.mpr (fits.voltage bound same)

theorem dischargeFits_iff {currentA voltageV : ℚ} (least : 1 ≤ voltageV) (advertised : Advertised) :
    Target.Within ⟨truncate (-currentA), truncate voltageV⟩ advertised ↔
      DischargeFits currentA voltageV advertised := by
  have floor : truncate voltageV = ⌊voltageV⌋ := truncate_of_nonneg (by linarith)
  have scale : 0 < (⌊voltageV⌋ : ℚ) := by
    have one_le : 1 ≤ ⌊voltageV⌋ := Int.le_floor.mpr (by exact_mod_cast least)
    exact_mod_cast one_le
  have sign : 0 ≤ (truncate (-currentA) : ℚ) ↔ currentA < 1 := by
    rw [Int.cast_nonneg_iff, truncate_neg, neg_nonneg, truncate_nonpos_iff]
  have current (bound : ℚ) :
      |(truncate (-currentA) : ℚ)| ≤ bound ↔ |currentA| < ⌊bound⌋ + 1 := by
    rw [abs_truncate_le_iff, abs_neg]
  have power (bound : ℚ) :
      |(truncate (-currentA) : ℚ) * truncate voltageV| ≤ bound ↔
        |currentA| < ⌊bound / ⌊voltageV⌋⌋ + 1 := by
    rw [floor, abs_mul, abs_of_pos scale, ← le_div_iff₀ scale, current]
  have voltage (bound : ℚ) : (truncate voltageV : ℚ) ≤ bound ↔ voltageV < ⌊bound⌋ + 1 := by
    rw [floor, ← Int.le_floor, ← Int.lt_add_one_iff, Int.floor_lt]
    push_cast
    rfl
  have battery : |(truncate (-currentA) : ℚ)| ≤ RealBatterySimulator.maxChargeCurrent ↔
      |currentA| < 60 + 1 := by
    rw [current]
    norm_num [RealBatterySimulator.maxChargeCurrent]
  constructor
  · intro within
    constructor
    · exact battery.mp within.battery
    · intro small
      obtain ⟨currents, powers⟩ := within.charge (sign.mpr small)
      exact ⟨fun bound same => (current bound).mp (currents bound same),
        fun bound same => (power bound).mp (powers bound same)⟩
    · intro large
      obtain ⟨currents, powers⟩ :=
        within.discharge (lt_of_not_ge (mt sign.mp (not_lt.mpr large)))
      exact ⟨fun bound same => (current bound).mp (currents bound same),
        fun bound same => (power bound).mp (powers bound same)⟩
    · exact fun bound same => (voltage bound).mp (within.voltage bound same)
  · intro fits
    constructor
    · exact battery.mpr fits.battery
    · intro nonneg
      obtain ⟨currents, powers⟩ := fits.charge (sign.mp nonneg)
      exact ⟨fun bound same => (current bound).mpr (currents bound same),
        fun bound same => (power bound).mpr (powers bound same)⟩
    · intro negative
      obtain ⟨currents, powers⟩ :=
        fits.discharge (not_lt.mp (mt sign.mpr (not_le.mpr negative)))
      exact ⟨fun bound same => (current bound).mpr (currents bound same),
        fun bound same => (power bound).mpr (powers bound same)⟩
    · exact fun bound same => (voltage bound).mpr (fits.voltage bound same)

namespace RealBatterySimulator

/-- A small integer is encoded as it is. -/
theorem decodeRepr_of_small {number : Int} (small : |number| ≤ 1000) :
    decodeRepr (getExponentValueRepr number) = number := by
  have range := abs_le.mp small
  have inInt16 : int16Min ≤ number ∧ number ≤ int16Max := by
    unfold int16Min int16Max
    omega
  simpa using decodeRepr_of_scaled inInt16 (by norm_num : (-3 : Int) ≤ 0)

theorem abs_truncate_le {value : ℚ} {bound : Int} (le : |value| ≤ bound) :
    |truncate value| ≤ bound := by
  rw [abs_truncate]
  exact_mod_cast (Int.floor_le _).trans le

/-- The power in force is below what the SECC has accepted when the limits were stored. -/
def powerInForceW (battery : RealBatterySimulator) : ℚ :=
  min battery.currentPowerW (battery.seccMaxPowerW.getD 0)

/-- What the battery does at a voltage fits the limits: the discharge of a test if the energy
service is bidirectional, and otherwise the power that is in force. -/
def FitsLimits (battery : RealBatterySimulator) (bpt : Bool) (advertised : Advertised) : Prop :=
  if bpt && battery.discharging then
    DischargeFits battery.diagDischargeIA battery.computeVoltage advertised
  else
    ChargeFits battery.charged.powerInForceW battery.charged.computeVoltage advertised

instance (battery : RealBatterySimulator) (bpt : Bool) (advertised : Advertised) :
    Decidable (battery.FitsLimits bpt advertised) :=
  inferInstanceAs (Decidable (if (bpt && battery.discharging) = true then DischargeFits _ _ _
    else ChargeFits _ _ _))

/-- The state of charge at the target, with which it is reported. -/
def reportedSoc (battery : RealBatterySimulator) (bpt : Bool) : ℚ :=
  if bpt && battery.discharging then battery.soc else battery.charged.soc

/-- What is asked for is within the limits exactly if the battery fits them. -/
theorem target_within_iff {battery : RealBatterySimulator} {bpt : Bool}
    (percentage : SocRange (some (roundHalfEven (battery.reportedSoc bpt))))
    (advertised : Advertised) :
    (battery.target bpt).Within advertised ↔ battery.FitsLimits bpt advertised := by
  have voltage (reporting : RealBatterySimulator)
      (reports : SocRange (some (roundHalfEven reporting.soc))) :
      299 ≤ reporting.computeVoltage ∧ reporting.computeVoltage ≤ 501 := by
    have range := reports _ rfl
    have rounds := abs_le.mp (abs_sub_roundHalfEven_le reporting.soc)
    have lower : (0 : ℚ) ≤ roundHalfEven reporting.soc := by exact_mod_cast range.1
    have upper : (roundHalfEven reporting.soc : ℚ) ≤ 100 := by exact_mod_cast range.2
    unfold computeVoltage minVoltage maxVoltage
    constructor <;> linarith
  unfold reportedSoc at percentage
  unfold target FitsLimits
  split
  next discharges =>
    rw [if_pos discharges] at percentage
    obtain ⟨least, most⟩ := voltage battery percentage
    have voltage_eq : decodeRepr (getExponentValueRepr (truncate battery.computeVoltage)) =
        truncate battery.computeVoltage := by
      apply decodeRepr_of_small
      apply abs_truncate_le
      rw [abs_of_nonneg (by linarith)]
      push_cast
      linarith
    unfold dischargeTarget
    rw [voltage_eq]
    by_cases small : |battery.diagDischargeIA| < 60 + 1
    · have current_eq : decodeRepr (getExponentValueRepr (truncate (-battery.diagDischargeIA))) =
          truncate (-battery.diagDischargeIA) := by
        apply decodeRepr_of_small
        apply abs_truncate_le
        rw [abs_neg]
        push_cast
        linarith
      rw [current_eq]
      exact dischargeFits_iff (by linarith) advertised
    · -- a current that is too large stays so when it is encoded
      apply iff_of_false
      · intro within
        have large : ((61 : ℕ) : ℚ) ≤ |((truncate (-battery.diagDischargeIA) : Int) : ℚ)| := by
          rw [← Int.cast_abs, abs_truncate, abs_neg]
          have whole : (61 : Int) ≤ ⌊|battery.diagDischargeIA|⌋ := by
            rw [Int.le_floor]
            push_cast
            linarith
          exact_mod_cast whole
        have encoded := le_abs_decodeRepr (by norm_num) large
        have bounded := within.battery
        unfold maxChargeCurrent at bounded
        push_cast at encoded
        linarith
      · exact fun fits => small fits.battery
  next charges =>
    rw [if_neg charges] at percentage
    obtain ⟨least, -⟩ := voltage battery.charged percentage
    unfold chargeTarget
    dsimp only
    rw [max_eq_left (by linarith), ← chargeFits_iff (by linarith)]
    rfl

end RealBatterySimulator

end Iso15118.Evcc
