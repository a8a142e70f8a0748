import Iso15118.Evcc.Controller.RealBattery
import Iso15118.Library.Effect

/-!
# The power profile of dynamic control

`process_dynamic_se_params` takes a share of the EV's maximum power, integrates it as it is, and
tells the SECC the nearest number of kilowatts. The share and the power are floats. The limit
that the SECC has sent before is not read.
-/

namespace Iso15118.Evcc

open Effect
open Iso15118.Shared
open Iso15118.Shared.V20
open Iso15118.Evcc.V20
open Rounding
open Binary64 (Double)

/-- What a receiver reads of a number of kilowatts. -/
theorem decimalValue_of_kilowatts {value : Int} {number : RationalNumber}
    (made : RationalNumber.new 3 value = .ok number) :
    number.getDecimalValue = 1000 * value ∧ value ≤ int16Max := by
  unfold RationalNumber.new at made
  split at made
  next range =>
    cases made
    refine ⟨?_, range.2.2⟩
    unfold RationalNumber.getDecimalValue
    norm_num
    ring
  next => cases made

namespace RealBatterySimulator

/-! ## Any maximum power -/

/-- The number of kilowatts that an EV with some maximum tells the SECC. -/
def toldKilowatts (maxPower : Double) (params : DynamicScheduleExchangeResParams) : Int :=
  roundHalfEven (Binary64.div (desiredPowerWOf maxPower.value params) 1000)

/-- `process_dynamic_se_params` of a simulator with any `max_charge_power_w`. -/
def processDynamicSeParamsOf (maxPower : Double)
    (dynamicParams : Option DynamicScheduleExchangeResParams) (pause : Option Bool) :
    Method (Option EVPowerProfile × ChargeProgress) := do
  let isReady ← randomBit
  if isReady then
    match dynamicParams with
    | none => throw .attributeError
    | some params => do
        modify fun battery =>
          { battery with
            targetSoc := (params.targetSoc.map fun soc => (soc : ℚ)).getD battery.targetSoc
            bulkSoc := (params.minSoc.map fun soc => (soc : ℚ)).getD battery.bulkSoc
            currentPowerW := desiredPowerWOf maxPower.value params }
        let power ← Effect.ofExcept (RationalNumber.new 3 (toldKilowatts maxPower params))
        let departureTime := params.departureTime.getD 0
        return (some ⟨[⟨if departureTime = 0 then 3600 else departureTime, power⟩], .dynamic⟩,
          chargeProgress pause)
  else
    return (none, .start)

/-- The maximum of the source. -/
def maxChargePower : Double where
  value := maxChargePowerW
  representable := ⟨20000, 0, by norm_num, by norm_num, by norm_num [maxChargePowerW]⟩

/-- The simulator of the source has 20 kW. -/
theorem processDynamicSeParams_eq :
    processDynamicSeParams = processDynamicSeParamsOf maxChargePower :=
  rfl

/-- The method returns a profile, and leaves the simulator in a state. -/
def Returns (maxPower : Double) (battery : RealBatterySimulator)
    (params : DynamicScheduleExchangeResParams) (profile : EVPowerProfile)
    (after : RealBatterySimulator) : Prop :=
  ∃ pause progress, processDynamicSeParamsOf maxPower (some params) pause battery =
    .ok (some profile, progress) after

/-- The powers of a profile, in watts. -/
def powersW (profile : EVPowerProfile) : List ℚ :=
  profile.entryList.map fun entry => entry.power.getDecimalValue

/-- The same schedule, but for a higher price level of its first entry. -/
def Dearer (params dearer : DynamicScheduleExchangeResParams) : Prop :=
  ∃ numPriceLevels level later level' later', level ≤ level' ∧
    params.priceLevelSchedule = some ⟨numPriceLevels, level :: later⟩ ∧
    dearer.priceLevelSchedule = some ⟨numPriceLevels, level' :: later'⟩

/-- The smaller one of the EV's maximum and the limit that it has accepted. -/
def lowerLimitW (maxPower : Double) (battery : RealBatterySimulator) : ℚ :=
  min maxPower.value (battery.seccMaxPowerW.getD maxPower.value)

/-- A returned profile respects its bounds. -/
structure Respects (maxPower : Double) (battery : RealBatterySimulator)
    (params : DynamicScheduleExchangeResParams) (profile : EVPowerProfile)
    (after : RealBatterySimulator) : Prop where
  ev : ∀ powerW ∈ powersW profile, powerW ≤ maxPower.value
  secc : ∀ powerW ∈ powersW profile, ∀ limitW, battery.seccMaxPowerW = some limitW →
    powerW ≤ limitW
  half : ∀ powerW ∈ powersW profile, lowerLimitW maxPower battery / 2 ≤ powerW
  falls : ∀ dearer other profile' after', Dearer params dearer →
    Returns maxPower other dearer profile' after' →
    ∀ powerW ∈ powersW profile, ∀ powerW' ∈ powersW profile', powerW' ≤ powerW
  integrated : ∀ powerW ∈ powersW profile, after.currentPowerW = powerW

/-- The share of the maximum power that the first price level leaves. -/
def share (params : DynamicScheduleExchangeResParams) : ℚ :=
  match params.priceLevelSchedule with
  | some ⟨numPriceLevels, priceLevel :: _⟩ => min (priceScale numPriceLevels priceLevel) 1
  | _ => 1

/-- The double that is nearest to the share of the maximum. -/
def shareW (maxPower : Double) (params : DynamicScheduleExchangeResParams) : ℚ :=
  Binary64.round (share params * maxPower.value)

/-- The share is a whole number of kilowatts, the SECC takes it, and it has not become zero
by rounding. -/
structure WholeKilowatts (maxPower : Double) (battery : RealBatterySimulator)
    (params : DynamicScheduleExchangeResParams) : Prop where
  nonneg : 0 ≤ maxPower.value
  whole : ∃ kilowatts : Int, shareW maxPower params = 1000 * kilowatts
  secc : ∀ limitW, battery.seccMaxPowerW = some limitW → shareW maxPower params ≤ limitW
  visible : shareW maxPower params = 0 → lowerLimitW maxPower battery ≤ 0

/-! ## The share -/

section

variable {maxPower : Double} {params dearer : DynamicScheduleExchangeResParams}

theorem half_le_share (params : DynamicScheduleExchangeResParams) : 1 / 2 ≤ share params := by
  unfold share
  split
  · apply le_min
    · exact le_max_left _ _
    · norm_num
  · norm_num

/-- A higher price level leaves no more, also in double precision. -/
theorem priceScale_anti (numPriceLevels : Int) {level level' : Int} (higher : level ≤ level') :
    priceScale numPriceLevels level' ≤ priceScale numPriceLevels level := by
  have number : (0 : ℚ) ≤ max (numPriceLevels : ℚ) 1 := zero_le_one.trans (le_max_right _ _)
  have halves : Binary64.mul (1 / 2) (level - 1) ≤ Binary64.mul (1 / 2) (level' - 1) := by
    apply Binary64.round_mono
    have levels : (level : ℚ) ≤ level' := by exact_mod_cast higher
    linarith
  unfold priceScale
  apply max_le_max_left
  apply Binary64.round_mono
  apply sub_le_sub_left
  apply Binary64.round_mono
  exact div_le_div_of_nonneg_right halves number

theorem Dearer.share_le (more : Dearer params dearer) : share dearer ≤ share params := by
  obtain ⟨numPriceLevels, level, later, level', later', higher, before, after⟩ := more
  unfold share
  rw [before, after]
  exact min_le_min_right _ (priceScale_anti numPriceLevels higher)

theorem Dearer.shareW_le (more : Dearer params dearer) (nonneg : 0 ≤ maxPower.value) :
    shareW maxPower dearer ≤ shareW maxPower params :=
  Binary64.round_mono (mul_le_mul_of_nonneg_right more.share_le nonneg)

/-- What the EV requests is the double next to the share. -/
theorem desiredPowerWOf_eq (params : DynamicScheduleExchangeResParams)
    (nonneg : 0 ≤ maxPower.value) :
    desiredPowerWOf maxPower.value params = shareW maxPower params := by
  have own := maxPower.representable.round_eq
  have all : min maxPower.value maxPower.value = Binary64.round (1 * maxPower.value) := by
    rw [min_self, one_mul, own]
  unfold desiredPowerWOf stationPowerW shareW share
  rcases params.priceLevelSchedule with _ | ⟨numPriceLevels, _ | ⟨priceLevel, later⟩⟩
  · exact all
  · exact all
  · dsimp only
    rw [min_mul_of_nonneg _ _ nonneg, one_mul, mul_comm, Binary64.monotone_round.map_min, own]
    rfl

theorem shareW_le (params : DynamicScheduleExchangeResParams) (nonneg : 0 ≤ maxPower.value) :
    shareW maxPower params ≤ maxPower.value := by
  rw [← desiredPowerWOf_eq params nonneg]
  exact min_le_right _ _

/-- A share of a kilowatt or more is at least half of the maximum. -/
theorem half_le_shareW (nonneg : 0 ≤ maxPower.value) (large : 1000 ≤ shareW maxPower params) :
    maxPower.value / 2 ≤ shareW maxPower params := by
  have maximum := large.trans (shareW_le params nonneg)
  have half : Binary64.Representable (maxPower.value / 2) := by
    apply maxPower.representable.half
    rw [abs_of_nonneg nonneg]
    linarith
  have least := mul_le_mul_of_nonneg_right (half_le_share params) nonneg
  rw [← half.round_eq]
  apply Binary64.round_mono
  linarith

/-- No number of kilowatts below zero is a share. -/
theorem kilowatts_nonneg (nonneg : 0 ≤ maxPower.value) {kilowatts : Int}
    (whole : shareW maxPower params = 1000 * kilowatts) : 0 ≤ kilowatts := by
  have positive : 0 ≤ share params := (by norm_num : (0 : ℚ) ≤ 1 / 2).trans (half_le_share params)
  have least : 0 ≤ shareW maxPower params := Binary64.round_nonneg (mul_nonneg positive nonneg)
  rw [whole] at least
  exact_mod_cast nonneg_of_mul_nonneg_right least (by norm_num)

/-- A whole number of kilowatts is told as it is, if it can be told at all. -/
theorem toldKilowatts_of_whole (nonneg : 0 ≤ maxPower.value) {kilowatts : Int}
    (whole : shareW maxPower params = 1000 * kilowatts)
    (fits : toldKilowatts maxPower params ≤ int16Max) :
    toldKilowatts maxPower params = kilowatts := by
  have quotient : toldKilowatts maxPower params = roundHalfEven (Binary64.round kilowatts) := by
    unfold toldKilowatts Binary64.div
    rw [desiredPowerWOf_eq params nonneg, whole, mul_div_cancel_left₀ _ (by norm_num)]
  have most : kilowatts ≤ int16Max := by
    by_contra large
    have above : ((2 ^ 15 : Int) : ℚ) ≤ kilowatts := by
      unfold int16Max at large
      exact_mod_cast (by omega : (2 ^ 15 : Int) ≤ kilowatts)
    have rounded := roundHalfEven_mono (Binary64.round_mono above)
    rw [Binary64.round_intCast (by norm_num), roundHalfEven_intCast, ← quotient] at rounded
    unfold int16Max at fits
    omega
  have short : |kilowatts| < 2 ^ 53 := by
    rw [abs_of_nonneg (kilowatts_nonneg nonneg whole)]
    unfold int16Max at most
    omega
  rw [quotient, Binary64.round_intCast short, roundHalfEven_intCast]

/-- What is told of no more than a whole number of kilowatts is no more. -/
theorem toldKilowatts_le (nonneg : 0 ≤ maxPower.value) {kilowatts : Int}
    (below : shareW maxPower params ≤ 1000 * kilowatts) (short : |kilowatts| < 2 ^ 53) :
    toldKilowatts maxPower params ≤ kilowatts := by
  have quotient : desiredPowerWOf maxPower.value params / 1000 ≤ kilowatts := by
    rw [desiredPowerWOf_eq params nonneg, div_le_iff₀ (by norm_num), mul_comm]
    exact below
  have rounded := roundHalfEven_mono (Binary64.round_mono quotient)
  rwa [Binary64.round_intCast short, roundHalfEven_intCast] at rounded

end

/-! ## What is returned -/

section

variable {maxPower : Double} {battery after : RealBatterySimulator}
  {params : DynamicScheduleExchangeResParams} {profile : EVPowerProfile}

theorem wp_processDynamicSeParamsOf (pause : Option Bool) :
    wp (processDynamicSeParamsOf maxPower (some params) pause)
      (fun result after => ∀ profile, result.1 = some profile →
        after.currentPowerW = desiredPowerWOf maxPower.value params ∧
          powersW profile = [1000 * (toldKilowatts maxPower params : ℚ)] ∧
          toldKilowatts maxPower params ≤ int16Max)
      (fun _ _ => True) battery := by
  unfold processDynamicSeParamsOf randomBit
  simp only [wp_bind, wp_get, wp_set, wp_pure]
  split
  · simp only [wp_bind, wp_modify, wp_ofExcept, wp_pure]
    constructor
    · intro power made profile returned
      cases Option.some.inj returned
      obtain ⟨reading, fits⟩ := decimalValue_of_kilowatts made
      exact ⟨trivial, congrArg (fun powerW => [powerW]) reading, fits⟩
    · exact fun _ _ => trivial
  · intro profile returned
    cases returned

/-- A profile has one power: the told one. -/
theorem Returns.powers (returned : Returns maxPower battery params profile after) :
    after.currentPowerW = desiredPowerWOf maxPower.value params ∧
      powersW profile = [1000 * (toldKilowatts maxPower params : ℚ)] ∧
      toldKilowatts maxPower params ≤ int16Max := by
  obtain ⟨pause, progress, ended⟩ := returned
  exact post_of_eq_ok (wp_processDynamicSeParamsOf pause) ended profile rfl

theorem respects_of_whole (returned : Returns maxPower battery params profile after)
    (whole : WholeKilowatts maxPower battery params) :
    Respects maxPower battery params profile after := by
  obtain ⟨kilowatts, exactly⟩ := whole.whole
  obtain ⟨integrated, powers, fits⟩ := returned.powers
  have told := toldKilowatts_of_whole whole.nonneg exactly fits
  rw [desiredPowerWOf_eq params whole.nonneg] at integrated
  rw [told, ← exactly] at powers
  have positive := kilowatts_nonneg whole.nonneg exactly
  constructor
  case ev =>
    rw [powers]
    simp only [List.mem_singleton, forall_eq]
    exact shareW_le params whole.nonneg
  case secc =>
    rw [powers]
    simpa using whole.secc
  case half =>
    rw [powers]
    simp only [List.mem_singleton, forall_eq]
    rcases positive.eq_or_lt with zero | more
    · have nothing : shareW maxPower params = 0 := by rw [exactly, ← zero, Int.cast_zero, mul_zero]
      have lower := whole.visible nothing
      linarith
    · have large : 1000 ≤ shareW maxPower params := by
        have one : (1 : ℚ) ≤ kilowatts := by exact_mod_cast more
        rw [exactly]
        linarith
      have half := half_le_shareW whole.nonneg large
      have smaller : lowerLimitW maxPower battery ≤ maxPower.value := min_le_left _ _
      linarith
  case falls =>
    intro dearer other profile' after' more returned'
    have fewer : shareW maxPower dearer ≤ 1000 * kilowatts := by
      rw [← exactly]
      exact more.shareW_le whole.nonneg
    have short : |kilowatts| < 2 ^ 53 := by
      rw [told] at fits
      unfold int16Max at fits
      rw [abs_of_nonneg positive]
      omega
    have told' := toldKilowatts_le whole.nonneg fewer short
    have told'' : (toldKilowatts maxPower dearer : ℚ) ≤ kilowatts := by exact_mod_cast told'
    rw [powers, returned'.powers.2.1]
    simp only [List.mem_singleton, forall_eq]
    linarith
  case integrated =>
    rw [powers]
    simpa using integrated

theorem whole_of_respects (returned : Returns maxPower battery params profile after)
    (respects : Respects maxPower battery params profile after) :
    WholeKilowatts maxPower battery params := by
  obtain ⟨integrated, powers, _⟩ := returned.powers
  have ev := respects.ev
  have secc := respects.secc
  have half := respects.half
  have same := respects.integrated
  rw [powers] at ev secc half same
  simp only [List.mem_singleton, forall_eq] at ev secc half same
  rw [integrated] at same
  -- A negative maximum would have to be at most its half.
  have nonneg : 0 ≤ maxPower.value := by
    unfold lowerLimitW at half
    cases limit : battery.seccMaxPowerW with
    | none =>
        rw [limit, Option.getD_none, min_self] at half
        linarith
    | some limitW =>
        have below := secc limitW limit
        rw [limit, Option.getD_some] at half
        have both := le_min ev below
        have smaller := min_le_left maxPower.value limitW
        linarith
  rw [desiredPowerWOf_eq params nonneg] at same
  rw [← same] at secc half
  constructor
  case nonneg => exact nonneg
  case whole => exact ⟨_, same⟩
  case secc => exact secc
  case visible =>
    intro zero
    rw [zero] at half
    linarith

end

/-- A profile that is returned respects its bounds exactly if the share is a whole number of
kilowatts within the limit of the SECC. -/
theorem respects_iff {maxPower : Double} {battery after : RealBatterySimulator}
    {params : DynamicScheduleExchangeResParams} {profile : EVPowerProfile}
    (returned : Returns maxPower battery params profile after) :
    Respects maxPower battery params profile after ↔
      WholeKilowatts maxPower battery params := by
  constructor
  · exact whole_of_respects returned
  · exact respects_of_whole returned

namespace Sample

/-- The SECC has accepted some power. -/
def limitedTo (limitW : ℚ) : RealBatterySimulator where
  config := { supportedEnergyServices := [.dc] }
  seccMaxPowerW := some limitW

/-- The second price level of some. -/
def secondOf (numPriceLevels : Int) : DynamicScheduleExchangeResParams where
  departureTime := none
  minSoc := none
  targetSoc := none
  priceLevelSchedule := some ⟨numPriceLevels, [2]⟩

/-- A profile for an hour. -/
def hourOf (power : RationalNumber) : EVPowerProfile where
  entryList := [⟨3600, power⟩]
  mode := .dynamic

def fifteenKilowatts : RationalNumber := ⟨3, 15, by decide, by decide⟩

def seventeenKilowatts : RationalNumber := ⟨3, 17, by decide, by decide⟩

/-- What can be told is returned for an hour, whatever the SECC accepted. -/
theorem returns_hourOf (limitW : ℚ) {numPriceLevels : Int} {power : RationalNumber}
    (told : RationalNumber.new 3 (toldKilowatts maxChargePower (secondOf numPriceLevels)) =
      .ok power) :
    ∃ after, Returns maxChargePower (limitedTo limitW) (secondOf numPriceLevels) (hourOf power)
      after := by
  have returned : wp (processDynamicSeParamsOf maxChargePower (some (secondOf numPriceLevels)) none)
      (fun result _ => result = (some (hourOf power), .start)) (fun _ _ => False)
      (limitedTo limitW) := by
    unfold processDynamicSeParamsOf randomBit
    simp only [wp_bind, wp_get, wp_set, wp_pure]
    split
    · simp only [wp_bind, wp_modify, wp_ofExcept, wp_pure, told]
      constructor
      · intro power made
        cases made
        rfl
      · intro exception raised
        cases raised
    · rename_i notReady
      exact absurd rfl notReady
  obtain ⟨result, after, ended, rfl⟩ := eq_ok_of_wp returned
  exact ⟨after, none, .start, ended⟩

theorem powersW_seventeenKilowatts : powersW (hourOf seventeenKilowatts) = [17000] := by
  decide +kernel

end Sample

open Sample

/-- Three quarters of 20 kW are a whole number of kilowatts. -/
theorem fifteenKilowatts_respects :
    ∃ after, Returns maxChargePower (limitedTo 16800) (secondOf 2) (hourOf fifteenKilowatts)
        after ∧
      Respects maxChargePower (limitedTo 16800) (secondOf 2) (hourOf fifteenKilowatts) after := by
  obtain ⟨after, returned⟩ := returns_hourOf 16800
    (by decide +kernel : RationalNumber.new 3 (toldKilowatts maxChargePower (secondOf 2)) =
      .ok fifteenKilowatts)
  have share : shareW maxChargePower (secondOf 2) = 15000 := by decide +kernel
  refine ⟨after, returned, (respects_iff returned).mpr ⟨?_, ?_, ?_, ?_⟩⟩
  · decide +kernel
  · exact ⟨15, by rw [share]; norm_num⟩
  · rintro limitW ⟨⟩
    rw [share]
    norm_num
  · intro zero
    rw [share] at zero
    norm_num at zero

/-- Rounded up, five sixths of 20 kW are above a limit of 16.8 kW, and above what is
integrated. -/
theorem rounded_above_limit :
    ∃ after, Returns maxChargePower (limitedTo 16800) (secondOf 3) (hourOf seventeenKilowatts)
        after ∧
      (limitedTo 16800).seccMaxPowerW = some 16800 ∧
      (∃ powerW ∈ powersW (hourOf seventeenKilowatts),
        16800 < powerW ∧ after.currentPowerW < powerW) ∧
      ¬Respects maxChargePower (limitedTo 16800) (secondOf 3) (hourOf seventeenKilowatts)
        after := by
  obtain ⟨after, returned⟩ := returns_hourOf 16800
    (by decide +kernel : RationalNumber.new 3 (toldKilowatts maxChargePower (secondOf 3)) =
      .ok seventeenKilowatts)
  have told : (17000 : ℚ) ∈ powersW (hourOf seventeenKilowatts) := by
    simp [powersW_seventeenKilowatts]
  have integrated : after.currentPowerW < 17000 := by
    rw [returned.powers.1]
    decide +kernel
  refine ⟨after, returned, rfl, ⟨17000, told, by norm_num, integrated⟩, ?_⟩
  intro respects
  have below := respects.secc 17000 told 16800 rfl
  norm_num at below

end RealBatterySimulator

end Iso15118.Evcc
