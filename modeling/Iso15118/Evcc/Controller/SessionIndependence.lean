import Iso15118.Evcc.Controller.TimedCalls
import Iso15118.Library.TwoRuns

/-!
# Sessions that tell of earlier ones

A later session is compared with the same session of a new controller, of which only the
configuration, the state of charge and the time are those of the old one. They decide alike if
and only if the earlier sessions have left no count, no flag, no test, no other target and no
power that can still change the state of charge.
-/

namespace Iso15118.Evcc

open Effect
open Iso15118.Shared
open Iso15118.Shared.V20
open Rounding

namespace RealBatterySimulator

/-! ## Independence -/

/-- A new controller for the battery. -/
def renewed (battery : RealBatterySimulator) : RealBatterySimulator where
  config := battery.config
  soc := battery.soc
  lastUpdateTime := battery.lastUpdateTime
  clock := battery.clock
  randomBits := battery.randomBits

/-- A later session decides as it would with a new controller of the same battery. -/
def Independent (battery : RealBatterySimulator) : Prop :=
  ∀ session, sessionDecisions session battery = sessionDecisions session battery.renewed

/-- A power that does not change the state of charge. -/
def Settled (soc powerW : ℚ) : Prop :=
  powerW = 0 ∨ 0 < powerW ∧ soc = 100 ∨ powerW < 0 ∧ soc = 0

/-- Earlier sessions have left no count, no flag, no test, no other target and no power that can
still change the state of charge. -/
structure Untouched (battery : RealBatterySimulator) : Prop where
  precharge : battery.prechargeLoopCycles = 0
  weldingDetection : battery.weldingDetectionCycles = 0
  completed : battery.chargingIsCompleted = false
  diagnostic : battery.diagActive = false
  target : battery.targetSoc = 90
  power : Settled battery.soc battery.currentPowerW

/-! ## Counters -/

section

variable {call : Call} {decision : Bool → Decision} {count : RealBatterySimulator → Nat}
  {bound : Nat} {good : RealBatterySimulator → Prop}

/-- A call that decides by a counter, which it counts up to a bound. -/
structure Counts (call : Call) (decision : Bool → Decision)
    (count : RealBatterySimulator → Nat) (bound : Nat) (good : RealBatterySimulator → Prop) :
    Prop where
  decided : ∀ battery, good battery →
    call.decided battery = some (decision (decide (bound ≤ count battery)))
  count_after : ∀ battery, good battery →
    count (call.after battery) = if bound ≤ count battery then count battery else count battery + 1
  good_after : ∀ battery, good battery → good (call.after battery)

theorem Counts.decisions_replicate (counts : Counts call decision count bound good)
    (times : Nat) {battery : RealBatterySimulator} (holds : good battery) :
    decisions (List.replicate times call) battery =
      (List.range times).map fun earlier =>
        some (decision (decide (bound ≤ count battery + earlier))) := by
  induction times generalizing battery with
  | zero => rfl
  | succ times ih =>
      rw [List.replicate_succ, List.range_succ_eq_map, List.map_cons, List.map_map, decisions,
        counts.decided battery holds, ih (counts.good_after battery holds),
        counts.count_after battery holds]
      congr 1
      apply List.map_congr_left
      intro earlier _
      simp only [Function.comp_apply]
      congr 3
      apply propext
      split <;> omega

/-- A count that is not zero comes to the bound earlier. -/
theorem Counts.count_eq (counts : Counts call decision count bound good)
    (injective : Function.Injective decision) (positive : 0 < bound)
    {battery fresh : RealBatterySimulator} (holds : good battery) (holdsFresh : good fresh)
    (zero : count fresh = 0)
    (same : decisions (List.replicate bound call) battery =
      decisions (List.replicate bound call) fresh) : count battery = 0 := by
  rw [counts.decisions_replicate bound holds, counts.decisions_replicate bound holdsFresh,
    List.map_inj_left] at same
  have last := same (bound - 1) (List.mem_range.mpr (Nat.sub_lt positive Nat.one_pos))
  have bounds := decide_eq_decide.mp (injective (Option.some.inj last))
  omega

end

theorem counts_weldingDetection :
    Counts .weldingDetectionHasFinished .weldingDetectionFinished weldingDetectionCycles 3
      fun _ => True := by
  have asked : ∀ battery : RealBatterySimulator,
      Call.weldingDetectionHasFinished.perform battery =
        .ok (some (.weldingDetectionFinished (decide (3 ≤ battery.weldingDetectionCycles))))
          { battery with
            weldingDetectionCycles :=
              if 3 ≤ battery.weldingDetectionCycles then battery.weldingDetectionCycles
              else battery.weldingDetectionCycles + 1 } := by
    intro battery
    unfold Call.perform weldingDetectionHasFinished
    dsimp only
    rw [bind_apply, get_bind_apply]
    by_cases finished : 3 ≤ battery.weldingDetectionCycles
    · simp only [finished, ↓reduceIte, decide_true]
      rfl
    · simp only [finished, ↓reduceIte, decide_false]
      rfl
  constructor
  · intro battery _
    unfold Call.decided
    rw [asked]
  · intro battery _
    unfold Call.after
    rw [asked]
  · exact fun _ _ => trivial

/-- The voltage of the battery can be sent, and it is not zero. -/
theorem Sound.exists_presentVoltage {battery : RealBatterySimulator} (sound : battery.Sound) :
    ∃ evVoltage : RationalNumber, getPresentVoltage battery = .ok evVoltage battery ∧
      evVoltage.getDecimalValue ≠ 0 := by
  have least : (300 : ℚ) ≤ battery.computeVoltage := by
    have := sound.soc_nonneg
    unfold computeVoltage minVoltage maxVoltage
    linarith
  have most : battery.computeVoltage ≤ 500 := by
    have := sound.soc_le
    unfold computeVoltage minVoltage maxVoltage
    linarith
  have rounds := abs_le.mp (abs_sub_roundHalfEven_le battery.computeVoltage)
  have lower : 299 ≤ roundHalfEven battery.computeVoltage := by
    have : (299 : ℚ) ≤ roundHalfEven battery.computeVoltage := by linarith
    exact_mod_cast this
  have upper : roundHalfEven battery.computeVoltage ≤ 501 := by
    have : (roundHalfEven battery.computeVoltage : ℚ) ≤ 501 := by linarith
    exact_mod_cast this
  have range : (int8Min ≤ 0 ∧ 0 ≤ int8Max) ∧ int16Min ≤ roundHalfEven battery.computeVoltage ∧
      roundHalfEven battery.computeVoltage ≤ int16Max := by
    unfold int8Min int8Max int16Min int16Max
    omega
  refine ⟨⟨0, _, range.1, range.2⟩, ?_, ?_⟩
  · unfold getPresentVoltage rational RationalNumber.new
    rw [get_bind_apply, zpow_zero, div_one, dif_pos range]
    rfl
  · simp only [RationalNumber.getDecimalValue, zpow_zero, mul_one]
    have : roundHalfEven battery.computeVoltage ≠ 0 := by omega
    exact_mod_cast this

def noVoltage : RationalNumber := ⟨0, 0, int8_zero, int16_zero⟩

theorem counts_precharge :
    Counts (.isPrecharged noVoltage) .precharged prechargeLoopCycles 5 Sound := by
  have asked : ∀ battery : RealBatterySimulator, battery.Sound →
      (Call.isPrecharged noVoltage).perform battery =
        .ok (some (.precharged (decide (5 ≤ battery.prechargeLoopCycles))))
          { battery with
            prechargeLoopCycles :=
              if 5 ≤ battery.prechargeLoopCycles then battery.prechargeLoopCycles
              else battery.prechargeLoopCycles + 1 } := by
    intro battery sound
    obtain ⟨evVoltage, voltage, nonzero⟩ := sound.exists_presentVoltage
    have differs : ¬noVoltage.getDecimalValue = evVoltage.getDecimalValue := by
      intro same
      apply nonzero
      rw [← same]
      simp [noVoltage, RationalNumber.getDecimalValue]
    unfold Call.perform isPrecharged
    dsimp only
    rw [bind_apply, bind_apply, voltage]
    dsimp only
    rw [get_bind_apply]
    by_cases finished : 5 ≤ battery.prechargeLoopCycles
    · simp only [finished, true_or, ↓reduceIte, decide_true]
      rfl
    · simp only [finished, differs, or_self, ↓reduceIte, decide_false]
      rfl
  constructor
  · intro battery sound
    unfold Call.decided
    rw [asked battery sound]
  · intro battery sound
    unfold Call.after
    rw [asked battery sound]
  · exact fun battery sound => sound.call _

/-! ## The state of charge that a session comes to -/

/-- A call that decides nothing, and the battery that it leaves. -/
theorem silent_of_endsIn {α : Type} {call : Call} {method : Method α}
    {battery final : RealBatterySimulator}
    (performs : call.perform battery = (do
      let _ ← method
      return none : Method (Option Decision)) battery)
    (endsIn : EndsIn method battery final) :
    call.decided battery = none ∧ call.after battery = final := by
  unfold Call.decided Call.after
  rw [performs, bind_apply]
  unfold EndsIn wp at endsIn
  cases ended : method battery with
  | ok value next =>
      rw [ended] at endsIn
      exact ⟨rfl, endsIn.symm⟩
  | error exception next =>
      rw [ended] at endsIn
      exact ⟨rfl, endsIn.symm⟩

theorem getDynamicDcChargeLoopParams_silent (battery : RealBatterySimulator) :
    Call.getDynamicDcChargeLoopParams.decided battery = none ∧
      Call.getDynamicDcChargeLoopParams.after battery = battery.charged :=
  silent_of_endsIn rfl (getDynamicDcChargeLoopParams_endsIn battery)

/-- The charge loop of a battery that does not discharge decides nothing. -/
theorem getBptScheduledDcChargeLoopParams_silent {battery : RealBatterySimulator}
    (charges : battery.discharging = false) :
    Call.getBptScheduledDcChargeLoopParams.decided battery = none ∧
      Call.getBptScheduledDcChargeLoopParams.after battery = battery.charged := by
  refine silent_of_endsIn ?_ (getScheduledDcChargeLoopParams_endsIn battery)
  have stays : ¬(battery.diagActive = true ∧ battery.diagPhase = .discharge) := by
    unfold discharging at charges
    simpa using charges
  unfold Call.perform getBptScheduledDcChargeLoopParams
  dsimp only
  rw [bind_apply, get_bind_apply, if_neg stays, bind_apply, bind_apply]
  cases getScheduledDcChargeLoopParams battery with
  | ok params next => rfl
  | error exception next => rfl

theorem getAcChargeLoopParamsV20_silent (battery : RealBatterySimulator)
    (controlMode : Option ControlMode) (selectedService : ServiceV20) :
    (Call.getAcChargeLoopParamsV20 controlMode selectedService).decided battery = none ∧
      (Call.getAcChargeLoopParamsV20 controlMode selectedService).after battery =
        battery.charged :=
  silent_of_endsIn rfl (getAcChargeLoopParamsV20_endsIn controlMode selectedService battery)

/-- Five hours pass at each update. At first the battery is emptied, and then it takes the
energy up to a state of charge. -/
def chargesTo (battery : RealBatterySimulator) (soc : ℚ) : ChargingSession where
  calls := [.updateSeccLimits 0 0 (-100), .getDynamicDcChargeLoopParams,
    .updateSeccLimits 0 0 soc, .getDynamicDcChargeLoopParams, .isChargingComplete]
  clock reading := battery.lastUpdateTime + 18000 * (reading + 1)

theorem integrate_fiveHours (battery : RealBatterySimulator) (powerWatts : ℚ) :
    battery.integrate powerWatts 18000 = max 0 (min 100 (battery.soc + powerWatts)) := by
  unfold integrate totalBatteryCapacityWh
  congr 3
  ring

theorem charged_of_fiveHours {battery : RealBatterySimulator}
    (passes : battery.clock 0 - battery.lastUpdateTime = 18000) :
    battery.charged =
      { battery with
        clock := fun reading => battery.clock (reading + 1)
        lastUpdateTime := battery.clock 0
        soc := max 0 (min 100 (battery.soc + battery.currentPowerW)) } := by
  unfold charged
  rw [passes, if_neg (by norm_num), integrate_fiveHours]

/-- New limits decide nothing. -/
theorem decisions_updateSeccLimits (rest : List Call) (battery : RealBatterySimulator)
    {powerW : ℚ} (le : powerW ≤ 100) :
    decisions (.updateSeccLimits 0 0 powerW :: rest) battery =
      none :: decisions rest
        { battery with
          seccMaxCurrent := min 0 maxChargeCurrent
          seccMaxVoltage := min 0 maxVoltage
          seccMaxPowerW := some powerW
          currentPowerW := powerW } := by
  have flows : min powerW maxChargePowerW = powerW := by
    unfold maxChargePowerW
    exact min_eq_left (by linarith)
  conv_rhs => rw [← flows]
  rfl

/-- A session that comes to a state of charge, whatever has happened before. -/
theorem decisions_chargesTo {battery : RealBatterySimulator} (sound : battery.Sound) {soc : ℚ}
    (nonneg : 0 ≤ soc) (le : soc ≤ 100) (live : RealBatterySimulator)
    (sameTime : live.lastUpdateTime = battery.lastUpdateTime) :
    sessionDecisions (live.chargesTo soc) battery =
      [none, none, none, none,
        some (.chargingComplete
          ({ battery with soc := soc } : RealBatterySimulator).complete)] := by
  have emptied : max 0 (min 100 (battery.soc + -100)) = 0 := by
    have := sound.soc_le
    rw [max_eq_left]
    exact min_le_of_right_le (by linarith)
  have filled : max 0 (min 100 (0 + soc)) = soc := by
    rw [zero_add, min_eq_right le, max_eq_right nonneg]
  unfold sessionDecisions chargesTo atStart
  dsimp only
  rw [decisions_updateSeccLimits _ _ (by norm_num), decisions,
    (getDynamicDcChargeLoopParams_silent _).1, (getDynamicDcChargeLoopParams_silent _).2,
    charged_of_fiveHours (by dsimp only; rw [sameTime]; push_cast; ring),
    decisions_updateSeccLimits _ _ le, decisions, (getDynamicDcChargeLoopParams_silent _).1,
    (getDynamicDcChargeLoopParams_silent _).2,
    charged_of_fiveHours (by dsimp only; push_cast; ring), decisions, isChargingComplete_decided]
  simp only [emptied, filled]
  rfl

/-- Five hours pass at each update. At first the battery is left to the power that is there, and
then it takes another energy. -/
def drifts (battery : RealBatterySimulator) (energy : ℚ) : ChargingSession where
  calls := [.getAcChargeLoopParamsV20 (some .scheduled) .ac, .updateSeccLimits 0 0 energy,
    .getDynamicDcChargeLoopParams, .isChargingComplete]
  clock reading := battery.lastUpdateTime + 18000 * (reading + 1)

/-- The state of charge five hours later. -/
def drifted (battery : RealBatterySimulator) : ℚ :=
  max 0 (min 100 (battery.soc + battery.currentPowerW))

theorem decisions_drifts (battery live : RealBatterySimulator) {energy : ℚ} (le : energy ≤ 100)
    (sameTime : live.lastUpdateTime = battery.lastUpdateTime) :
    sessionDecisions (live.drifts energy) battery =
      [none, none, none,
        some (.chargingComplete
          ({ battery with soc := max 0 (min 100 (battery.drifted + energy)) } :
            RealBatterySimulator).complete)] := by
  unfold sessionDecisions drifts atStart
  dsimp only
  rw [decisions, (getAcChargeLoopParamsV20_silent _ _ _).1,
    (getAcChargeLoopParamsV20_silent _ _ _).2,
    charged_of_fiveHours (by dsimp only; rw [sameTime]; push_cast; ring),
    decisions_updateSeccLimits _ _ le, decisions, (getDynamicDcChargeLoopParams_silent _).1,
    (getDynamicDcChargeLoopParams_silent _).2,
    charged_of_fiveHours (by dsimp only; push_cast; ring), decisions, isChargingComplete_decided]
  rfl

/-! ## What a later session can tell -/

theorem renewed_sound {battery : RealBatterySimulator} (sound : battery.Sound) :
    battery.renewed.Sound :=
  ⟨sound.soc_nonneg, sound.soc_le, fun _ => ⟨rfl, rfl, rfl⟩⟩

/-- Whether charging is complete at a state of charge is what it is for a new controller. -/
theorem Independent.complete_eq {battery : RealBatterySimulator} (sound : battery.Sound)
    (independent : battery.Independent) {soc : ℚ} (nonneg : 0 ≤ soc) (le : soc ≤ 100) :
    ({ battery with soc := soc } : RealBatterySimulator).complete = decide (90 ≤ soc) := by
  have same := independent (battery.chargesTo soc)
  rw [decisions_chargesTo sound nonneg le battery rfl,
    decisions_chargesTo (renewed_sound sound) nonneg le battery rfl] at same
  have last := (List.cons.inj (List.cons.inj (List.cons.inj (List.cons.inj
    (List.cons.inj same).2).2).2).2).1
  rw [Decision.chargingComplete.inj (Option.some.inj last)]
  unfold complete renewed
  simp

/-- A battery for which charging is complete at the states of charge of a new one. -/
theorem bookkeeping_of_complete {battery : RealBatterySimulator}
    (same : ∀ soc : ℚ, 0 ≤ soc → soc ≤ 100 →
      ({ battery with soc := soc } : RealBatterySimulator).complete = decide (90 ≤ soc)) :
    battery.chargingIsCompleted = false ∧ battery.diagActive = false ∧ battery.targetSoc = 90 := by
  have empty := same 0 (by norm_num) (by norm_num)
  have full := same 100 (by norm_num) (by norm_num)
  rw [decide_eq_false (by norm_num)] at empty
  rw [decide_eq_true (by norm_num)] at full
  unfold complete at same empty full
  cases active : battery.diagActive with
  | true =>
      exfalso
      simp only [active, ↓reduceIte] at empty full
      cases phase : battery.diagPhase with
      | charge =>
          rw [phase] at full
          cases full
      | discharge =>
          -- a cutoff that is not reached at nothing is not reached at all
          simp only [phase, decide_eq_false_iff_not, decide_eq_true_eq] at empty full
          linarith
  | false =>
      simp only [active, Bool.false_eq_true, ↓reduceIte, Bool.or_eq_false_iff,
        decide_eq_false_iff_not] at empty
      obtain ⟨positive, completed⟩ := empty
      refine ⟨completed, rfl, ?_⟩
      have below : ∀ soc : ℚ, 0 ≤ soc → soc ≤ 100 → (battery.targetSoc ≤ soc ↔ 90 ≤ soc) := by
        intro soc nonneg le
        have at_soc := same soc nonneg le
        simp only [active, completed, Bool.false_eq_true, ↓reduceIte, Bool.or_false] at at_soc
        exact decide_eq_decide.mp at_soc
      apply le_antisymm
      · exact (below 90 (by norm_num) (by norm_num)).mpr le_rfl
      · by_contra less
        push Not at less positive
        exact absurd ((below battery.targetSoc positive.le (by linarith)).mp le_rfl)
          (not_le.mpr less)

/-- Five cycles of a pre-charge that comes to no voltage. -/
def precharging : ChargingSession where
  calls := List.replicate 5 (.isPrecharged noVoltage)

/-- The checks of a welding detection. -/
def welding : ChargingSession where
  calls := List.replicate 3 .weldingDetectionHasFinished

/-- A power that changes the state of charge in five hours can be told from none. -/
theorem Independent.settled {battery : RealBatterySimulator} (sound : battery.Sound)
    (independent : battery.Independent) (completed : battery.chargingIsCompleted = false)
    (diagnostic : battery.diagActive = false) (target : battery.targetSoc = 90) :
    Settled battery.soc battery.currentPowerW := by
  have complete_iff : ∀ soc : ℚ,
      ({ battery with soc := soc } : RealBatterySimulator).complete = decide (90 ≤ soc) := by
    intro soc
    simp [complete, diagnostic, target, completed]
  have fresh : ∀ soc : ℚ, ({ battery.renewed with soc := soc } : RealBatterySimulator).complete =
      decide (90 ≤ soc) := by
    intro soc
    exact Bool.or_false _
  have stays : battery.renewed.drifted = battery.soc := by
    change max 0 (min 100 (battery.soc + 0)) = battery.soc
    rw [add_zero, min_eq_right sound.soc_le, max_eq_right sound.soc_nonneg]
  -- the higher of the two states of charge comes to 90 %, and the lower one stays below
  have least : 0 ≤ max battery.soc battery.drifted := le_max_of_le_left sound.soc_nonneg
  have same := independent (battery.drifts (90 - max battery.soc battery.drifted))
  rw [decisions_drifts battery battery (by linarith) rfl,
    decisions_drifts battery.renewed battery (by linarith) rfl, stays] at same
  have last := (List.cons.inj (List.cons.inj (List.cons.inj (List.cons.inj same).2).2).2).1
  have answers := Decision.chargingComplete.inj (Option.some.inj last)
  rw [complete_iff, fresh] at answers
  have both := decide_eq_decide.mp answers
  simp only [le_max_iff, le_min_iff] at both
  have drifted : battery.drifted = battery.soc := by
    rcases le_total battery.soc battery.drifted with less | more
    · rw [max_eq_right less] at both
      have := (both.mp (.inr ⟨by norm_num, by linarith⟩)).resolve_left (by norm_num)
      linarith
    · rw [max_eq_left more] at both
      have := (both.mpr (.inr ⟨by norm_num, by linarith⟩)).resolve_left (by norm_num)
      linarith
  unfold RealBatterySimulator.drifted at drifted
  rcases lt_trichotomy battery.currentPowerW 0 with discharges | none | charges
  · refine .inr (.inr ⟨discharges, ?_⟩)
    rcases max_cases 0 (min 100 (battery.soc + battery.currentPowerW)) with ⟨same, _⟩ | ⟨same, _⟩
    · rw [← drifted, same]
    · rw [same, min_eq_right (by linarith [sound.soc_le])] at drifted
      linarith
  · exact .inl none
  · refine .inr (.inl ⟨charges, ?_⟩)
    have positive : 0 < min 100 (battery.soc + battery.currentPowerW) :=
      lt_min (by norm_num) (by linarith [sound.soc_nonneg])
    rw [max_eq_right positive.le] at drifted
    rcases min_choice 100 (battery.soc + battery.currentPowerW) with full | rises
    · rw [← drifted, full]
    · rw [rises] at drifted
      linarith

/-! ## Batteries that cannot be told apart -/

/-- The second battery may have other limits of the SECC, another target of the bulk charge and
another power that does not change the state of charge. -/
structure Indistinguishable (battery other : RealBatterySimulator) : Prop where
  soc_nonneg : 0 ≤ battery.soc
  soc_le : battery.soc ≤ 100
  same : ∃ bulkSoc seccMaxCurrent seccMaxVoltage seccMaxPowerW currentPowerW,
    other =
        { battery with
          bulkSoc := bulkSoc
          seccMaxCurrent := seccMaxCurrent
          seccMaxVoltage := seccMaxVoltage
          seccMaxPowerW := seccMaxPowerW
          currentPowerW := currentPowerW } ∧
      (currentPowerW = battery.currentPowerW ∨
        Settled battery.soc battery.currentPowerW ∧ Settled battery.soc currentPowerW)

/-- A settled power leaves the state of charge as it is. -/
theorem Settled.integrate {battery : RealBatterySimulator} {powerW deltaTS : ℚ}
    (settled : Settled battery.soc powerW) (nonneg : 0 ≤ battery.soc) (le : battery.soc ≤ 100)
    (passes : 0 ≤ deltaTS) : battery.integrate powerW deltaTS = battery.soc := by
  unfold RealBatterySimulator.integrate totalBatteryCapacityWh
  rcases settled with rfl | ⟨charges, full⟩ | ⟨discharges, empty⟩
  · rw [zero_mul, zero_div, zero_div, zero_mul, add_zero, min_eq_right le, max_eq_right nonneg]
  · have flow : 0 ≤ powerW * deltaTS / 3600 / 500 * 100 := by positivity
    rw [full, min_eq_left (by linarith), max_eq_right (by norm_num)]
  · have flow : powerW * deltaTS ≤ 0 := mul_nonpos_of_nonpos_of_nonneg discharges.le passes
    rw [empty, max_eq_left]
    apply min_le_of_right_le
    linarith

namespace Indistinguishable

variable {battery other : RealBatterySimulator}

theorem of_untouched (sound : battery.Sound) (untouched : battery.Untouched) :
    Indistinguishable battery battery.renewed := by
  refine ⟨sound.soc_nonneg, sound.soc_le, 80, 60, 500, none, 0, ?_,
    .inr ⟨untouched.power, .inl rfl⟩⟩
  obtain ⟨phase, current, cutoff⟩ := sound.inactive untouched.diagnostic
  obtain ⟨precharge, weldingDetection, completed, diagnostic, target, _⟩ := untouched
  cases battery
  dsimp only at phase current cutoff precharge weldingDetection completed diagnostic target
  subst phase current cutoff precharge weldingDetection completed diagnostic target
  rfl

theorem complete_eq (same : Indistinguishable battery other) :
    other.complete = battery.complete := by
  obtain ⟨_, _, _, _, _, _, _, rfl, _⟩ := same
  rfl

theorem asked (same : Indistinguishable battery other) :
    Indistinguishable battery.asked other.asked := by
  have flips : other.flips = battery.flips := by
    obtain ⟨_, _, _, _, _, _, _, rfl, _⟩ := same
    rfl
  have completes :
      (other.diagActive && other.complete) = (battery.diagActive && battery.complete) := by
    obtain ⟨_, _, _, _, _, _, _, rfl, _⟩ := same
    rfl
  unfold RealBatterySimulator.asked
  rw [flips, completes]
  split
  · obtain ⟨nonneg, le, _, _, _, _, _, rfl, _⟩ := same
    exact ⟨nonneg, le, _, _, _, _, _, rfl, .inl rfl⟩
  · split
    · obtain ⟨nonneg, le, _, _, _, _, _, rfl, power⟩ := same
      exact ⟨nonneg, le, _, _, _, _, _, rfl, power⟩
    · exact same

theorem charged (same : Indistinguishable battery other) :
    Indistinguishable battery.charged other.charged := by
  obtain ⟨nonneg, le, bulkSoc, maxCurrent, maxVoltage, maxPowerW, powerW, rfl, power⟩ := same
  have range := battery.integrate_mem battery.currentPowerW
    (battery.clock 0 - battery.lastUpdateTime)
  have soc : 0 ≤ battery.charged.soc ∧ battery.charged.soc ≤ 100 := by
    unfold RealBatterySimulator.charged
    dsimp only
    split
    · exact ⟨nonneg, le⟩
    · exact range
  refine ⟨soc.1, soc.2, bulkSoc, maxCurrent, maxVoltage, maxPowerW, powerW, ?_, ?_⟩
  · unfold RealBatterySimulator.charged
    dsimp only
    congr 1
    split
    · rfl
    next passes =>
      rcases power with rfl | ⟨settled, settled'⟩
      · rfl
      · have later : 0 ≤ battery.clock 0 - battery.lastUpdateTime := by linarith
        rw [settled.integrate nonneg le later]
        exact settled'.integrate nonneg le later
  · rcases power with rfl | ⟨settled, settled'⟩
    · exact .inl rfl
    · right
      have stays : battery.charged.soc = battery.soc := by
        unfold RealBatterySimulator.charged
        dsimp only
        split
        · rfl
        next passes => exact settled.integrate nonneg le (by linarith)
      rw [stays]
      exact ⟨settled, settled'⟩

/-! ### Methods -/

theorem isChargingComplete (same : Indistinguishable battery other) :
    EndsAlike Indistinguishable RealBatterySimulator.isChargingComplete
      RealBatterySimulator.isChargingComplete battery other :=
  endsAlike_of_eq_ok (isChargingComplete_eq battery)
    (same.complete_eq ▸ isChargingComplete_eq other) same.asked

theorem getPresentVoltage (same : Indistinguishable battery other) :
    EndsAlike Indistinguishable RealBatterySimulator.getPresentVoltage
      RealBatterySimulator.getPresentVoltage battery other := by
  apply endsAlike_get_bind
  have kept := same
  obtain ⟨_, _, _, _, _, _, _, rfl, _⟩ := same
  exact endsAlike_ofExcept _ kept

/-- A question that is answered by what both batteries have, or counted. -/
theorem count (same : Indistinguishable battery other)
    {finished : RealBatterySimulator → Prop} [DecidablePred finished]
    {counted : RealBatterySimulator → RealBatterySimulator}
    (finished_iff : finished other ↔ finished battery)
    (counts : Indistinguishable (counted battery) (counted other)) :
    EndsAlike Indistinguishable
      (do
        let battery ← get
        if finished battery then
          return true
        else do
          set (counted battery)
          return false : Method Bool)
      (do
        let battery ← get
        if finished battery then
          return true
        else do
          set (counted battery)
          return false) battery other := by
  apply endsAlike_get_bind
  simp only [finished_iff]
  apply endsAlike_ite
  · exact fun _ => endsAlike_pure true same
  · exact fun _ => endsAlike_bind (endsAlike_set counts) fun _ _ _ => endsAlike_pure false

theorem countsPrecharge (same : Indistinguishable battery other) :
    Indistinguishable
      { battery with prechargeLoopCycles := battery.prechargeLoopCycles + 1 }
      { other with prechargeLoopCycles := other.prechargeLoopCycles + 1 } := by
  obtain ⟨nonneg, le, _, _, _, _, _, rfl, power⟩ := same
  exact ⟨nonneg, le, _, _, _, _, _, rfl, power⟩

theorem prechargeLoopCycles_eq (same : Indistinguishable battery other) :
    other.prechargeLoopCycles = battery.prechargeLoopCycles := by
  obtain ⟨_, _, _, _, _, _, _, rfl, _⟩ := same
  rfl

theorem isPrecharged (same : Indistinguishable battery other)
    (presentVoltageEvse : RationalNumber) :
    EndsAlike Indistinguishable (RealBatterySimulator.isPrecharged presentVoltageEvse)
      (RealBatterySimulator.isPrecharged presentVoltageEvse) battery other := by
  apply endsAlike_bind same.getPresentVoltage
  intro evVoltage battery other same
  exact same.count (by rw [same.prechargeLoopCycles_eq]) same.countsPrecharge

theorem isPrechargedV2 (same : Indistinguishable battery other)
    (presentVoltageEvse : PhysicalValue) :
    EndsAlike Indistinguishable (RealBatterySimulator.isPrechargedV2 presentVoltageEvse)
      (RealBatterySimulator.isPrechargedV2 presentVoltageEvse) battery other := by
  apply endsAlike_bind same.getPresentVoltage
  intro evVoltage battery other same
  exact same.count (by rw [same.prechargeLoopCycles_eq]) same.countsPrecharge

theorem weldingDetectionHasFinished (same : Indistinguishable battery other) :
    EndsAlike Indistinguishable RealBatterySimulator.weldingDetectionHasFinished
      RealBatterySimulator.weldingDetectionHasFinished battery other := by
  have kept := same
  obtain ⟨nonneg, le, _, _, _, _, _, rfl, power⟩ := same
  exact kept.count Iff.rfl ⟨nonneg, le, _, _, _, _, _, rfl, power⟩

theorem activateDiagnostic (same : Indistinguishable battery other) (matched : MatchedService) :
    EndsAlike Indistinguishable (RealBatterySimulator.activateDiagnostic matched)
      (RealBatterySimulator.activateDiagnostic matched) battery other := by
  obtain ⟨nonneg, le, _, _, _, _, _, rfl, power⟩ := same
  exact endsAlike_modify ⟨nonneg, le, _, _, _, _, _, rfl, power⟩

theorem selectVasServicesV20 (same : Indistinguishable battery other)
    (services : List MatchedService) :
    EndsAlike Indistinguishable (RealBatterySimulator.selectVasServicesV20 services)
      (RealBatterySimulator.selectVasServicesV20 services) battery other := by
  apply endsAlike_get_bind
  have config : other.config = battery.config := by
    obtain ⟨_, _, _, _, _, _, _, rfl, _⟩ := same
    rfl
  rw [config]
  apply endsAlike_ite fun _ => endsAlike_pure _ same
  intro _
  apply endsAlike_ite fun _ => endsAlike_pure _ same
  intro _
  cases List.find? _ _ with
  | none => exact endsAlike_pure _ same
  | some matched =>
      exact endsAlike_bind (same.activateDiagnostic matched) fun _ _ _ => endsAlike_pure _

theorem randomBit (same : Indistinguishable battery other) :
    EndsAlike Indistinguishable RealBatterySimulator.randomBit RealBatterySimulator.randomBit
      battery other := by
  obtain ⟨nonneg, le, _, _, _, _, _, rfl, power⟩ := same
  exact ⟨rfl, nonneg, le, _, _, _, _, _, rfl, power⟩

theorem processScheduledSeParams (same : Indistinguishable battery other)
    (scheduledParams : Option ScheduledScheduleExchangeResParams) (pause : Option Bool) :
    EndsAlike Indistinguishable
      (RealBatterySimulator.processScheduledSeParams scheduledParams pause)
      (RealBatterySimulator.processScheduledSeParams scheduledParams pause) battery other := by
  apply endsAlike_bind same.randomBit
  intro isReady battery other same
  apply endsAlike_ite _ fun _ => endsAlike_pure _ same
  intro _
  cases scheduledParams with
  | none => exact endsAlike_throw _ same
  | some params =>
      dsimp only
      cases params.scheduleTuples with
      | nil => exact endsAlike_throw _ same
      | cons selectedSchedule _ =>
          exact endsAlike_bind (endsAlike_ofExcept _ same) fun _ _ _ => endsAlike_pure _

theorem processDynamicSeParams (same : Indistinguishable battery other)
    (dynamicParams : Option DynamicScheduleExchangeResParams) (pause : Option Bool) :
    EndsAlike Indistinguishable
      (RealBatterySimulator.processDynamicSeParams dynamicParams pause)
      (RealBatterySimulator.processDynamicSeParams dynamicParams pause) battery other := by
  apply endsAlike_bind same.randomBit
  intro isReady battery other same
  apply endsAlike_ite _ fun _ => endsAlike_pure _ same
  intro _
  cases dynamicParams with
  | none => exact endsAlike_throw _ same
  | some params =>
      apply endsAlike_bind
      · obtain ⟨nonneg, le, _, _, _, _, _, rfl, _⟩ := same
        exact endsAlike_modify ⟨nonneg, le, _, _, _, _, _, rfl, .inl rfl⟩
      · intro _ battery other same
        exact endsAlike_bind (endsAlike_ofExcept _ same) fun _ _ _ => endsAlike_pure _

theorem discharging_eq (same : Indistinguishable battery other) :
    other.discharging = battery.discharging := by
  obtain ⟨_, _, _, _, _, _, _, rfl, _⟩ := same
  rfl

theorem requested (same : Indistinguishable battery other) :
    Indistinguishable battery.requested other.requested := by
  obtain ⟨nonneg, le, _, _, _, _, _, rfl, _⟩ := same
  exact ⟨nonneg, le, _, _, _, _, _, rfl, .inl rfl⟩

end Indistinguishable

/-! ## Calls that decide alike -/

/-- A call of a method that ends alike. -/
theorem alike_of_endsAlike {call : Call} {battery other : RealBatterySimulator}
    (alike : EndsAlike Indistinguishable call.perform call.perform battery other) :
    call.decided other = call.decided battery ∧
      Indistinguishable (call.after battery) (call.after other) := by
  unfold EndsAlike at alike
  unfold Call.decided Call.after
  cases ended : call.perform battery with
  | ok value next =>
      cases ended' : call.perform other with
      | ok value' next' =>
          rw [ended, ended'] at alike
          exact ⟨alike.1.symm, alike.2⟩
      | error exception' next' =>
          rw [ended, ended'] at alike
          exact alike.elim
  | error exception next =>
      cases ended' : call.perform other with
      | ok value' next' =>
          rw [ended, ended'] at alike
          exact alike.elim
      | error exception' next' =>
          rw [ended, ended'] at alike
          exact ⟨rfl, alike.2⟩

/-- Calls that decide nothing. -/
theorem alike_of_silent {call : Call} {battery other final final' : RealBatterySimulator}
    (first : call.decided battery = none ∧ call.after battery = final)
    (second : call.decided other = none ∧ call.after other = final')
    (same : Indistinguishable final final') :
    call.decided other = call.decided battery ∧
      Indistinguishable (call.after battery) (call.after other) := by
  rw [first.1, first.2, second.1, second.2]
  exact ⟨rfl, same⟩

/-! ## Sessions that decide alike -/

namespace Indistinguishable

variable {battery other : RealBatterySimulator}

/-- A charge loop that goes on, or not. -/
theorem continued (same : Indistinguishable battery other) :
    Indistinguishable
      (if battery.chargingIsCompleted then battery
      else if battery.complete then battery.asked
      else battery.asked.charged)
      (if other.chargingIsCompleted then other
      else if other.complete then other.asked
      else other.asked.charged) := by
  have completed : other.chargingIsCompleted = battery.chargingIsCompleted := by
    obtain ⟨_, _, _, _, _, _, _, rfl, _⟩ := same
    rfl
  rw [completed, same.complete_eq]
  split
  · exact same
  · split
    · exact same.asked
    · exact same.asked.charged

/-- The parameters of a discharge are those of the test and of the voltage. -/
theorem discharges (same : Indistinguishable battery other)
    (discharging : battery.discharging = true) :
    EndsAlike Indistinguishable RealBatterySimulator.getBptScheduledDcChargeLoopParams
      RealBatterySimulator.getBptScheduledDcChargeLoopParams battery other := by
  have turned : battery.diagActive = true ∧ battery.diagPhase = .discharge := by
    unfold RealBatterySimulator.discharging at discharging
    simpa using discharging
  have requests := same.requested
  obtain ⟨_, _, _, _, _, _, _, rfl, _⟩ := same
  apply endsAlike_get_bind
  rw [if_pos turned, if_pos (by exact turned)]
  apply endsAlike_bind (endsAlike_set requests)
  intro _ battery other same
  iterate 5
    apply endsAlike_bind (endsAlike_ofExcept _ same)
    intro _ battery other same
  exact endsAlike_pure _ same

end Indistinguishable

/-- A call decides alike with batteries that cannot be told apart, and leaves such. -/
theorem Call.alike (call : Call) {battery other : RealBatterySimulator}
    (same : Indistinguishable battery other) :
    call.decided other = call.decided battery ∧
      Indistinguishable (call.after battery) (call.after other) := by
  have soc : other.soc = battery.soc := by
    obtain ⟨_, _, _, _, _, _, _, rfl, _⟩ := same
    rfl
  have kept := same
  cases call with
  | isPrecharged presentVoltageEvse =>
      exact alike_of_endsAlike (endsAlike_bind (same.isPrecharged presentVoltageEvse)
        fun _ _ _ => endsAlike_pure _)
  | isPrechargedV2 presentVoltageEvse =>
      exact alike_of_endsAlike (endsAlike_bind (same.isPrechargedV2 presentVoltageEvse)
        fun _ _ _ => endsAlike_pure _)
  | weldingDetectionHasFinished =>
      exact alike_of_endsAlike (endsAlike_bind same.weldingDetectionHasFinished
        fun _ _ _ => endsAlike_pure _)
  | isChargingComplete =>
      exact alike_of_endsAlike (endsAlike_bind same.isChargingComplete
        fun _ _ _ => endsAlike_pure _)
  | continueCharging =>
      exact alike_of_silent (silent_of_endsIn rfl (continueCharging_endsIn battery))
        (silent_of_endsIn rfl (continueCharging_endsIn other)) same.continued
  | stopCharging =>
      obtain ⟨nonneg, le, _, _, _, _, _, rfl, power⟩ := same
      exact ⟨rfl, nonneg, le, _, _, _, _, _, rfl, power⟩
  | selectVasServicesV20 services =>
      exact alike_of_endsAlike (endsAlike_bind (same.selectVasServicesV20 services)
        fun _ _ _ => endsAlike_pure _)
  | updateSeccLimits maxCurrent maxVolts maxPower =>
      -- the power is now that of the call
      obtain ⟨nonneg, le, _, _, _, _, _, rfl, _⟩ := same
      exact ⟨rfl, nonneg, le, _, _, _, _, _, rfl, .inl rfl⟩
  | processScheduledSeParams scheduledParams pause =>
      exact alike_of_endsAlike (endsAlike_bind (same.processScheduledSeParams scheduledParams pause)
        fun _ _ _ => endsAlike_pure _)
  | processDynamicSeParams dynamicParams pause =>
      exact alike_of_endsAlike (endsAlike_bind (same.processDynamicSeParams dynamicParams pause)
        fun _ _ _ => endsAlike_pure _)
  | getAcChargeLoopParamsV20 controlMode selectedService =>
      exact alike_of_silent (getAcChargeLoopParamsV20_silent battery controlMode selectedService)
        (getAcChargeLoopParamsV20_silent other controlMode selectedService) same.charged
  | getScheduledDcChargeLoopParams =>
      exact alike_of_silent (silent_of_endsIn rfl (getScheduledDcChargeLoopParams_endsIn battery))
        (silent_of_endsIn rfl (getScheduledDcChargeLoopParams_endsIn other)) same.charged
  | getDynamicDcChargeLoopParams =>
      exact alike_of_silent (getDynamicDcChargeLoopParams_silent battery)
        (getDynamicDcChargeLoopParams_silent other) same.charged
  | getBptScheduledDcChargeLoopParams =>
      cases discharging : battery.discharging with
      | true =>
          exact alike_of_endsAlike (endsAlike_bind (same.discharges discharging)
            fun _ _ _ => endsAlike_pure _)
      | false =>
          exact alike_of_silent (getBptScheduledDcChargeLoopParams_silent discharging)
            (getBptScheduledDcChargeLoopParams_silent (same.discharging_eq.trans discharging))
            same.charged
  | getBptDynamicDcChargeLoopParams =>
      exact alike_of_silent (silent_of_endsIn rfl (getBptDynamicDcChargeLoopParams_endsIn battery))
        (silent_of_endsIn rfl (getBptDynamicDcChargeLoopParams_endsIn other)) same.charged
  | getDisplayParams =>
      exact alike_of_silent (silent_of_endsIn rfl (getDisplayParams_endsIn battery))
        (silent_of_endsIn rfl (getDisplayParams_endsIn other)) same.asked
  | getDcEvPowerDeliveryParameter =>
      exact alike_of_silent
        (silent_of_endsIn rfl (getDcEvPowerDeliveryParameter_endsIn same.soc_nonneg same.soc_le))
        (silent_of_endsIn rfl (getDcEvPowerDeliveryParameter_endsIn (soc ▸ same.soc_nonneg)
          (soc ▸ same.soc_le))) same.asked

/-- Calls decide alike, one after another. -/
theorem Indistinguishable.decisions_eq (calls : List Call) {battery other : RealBatterySimulator}
    (same : Indistinguishable battery other) :
    decisions calls battery = decisions calls other := by
  induction calls generalizing battery other with
  | nil => rfl
  | cons call rest ih =>
      obtain ⟨decided, next⟩ := call.alike same
      rw [decisions, decisions, decided, ih next]

theorem Indistinguishable.atStart {battery other : RealBatterySimulator}
    (same : Indistinguishable battery other) (session : ChargingSession) :
    Indistinguishable (battery.atStart session) (other.atStart session) := by
  obtain ⟨nonneg, le, _, _, _, _, _, rfl, power⟩ := same
  exact ⟨nonneg, le, _, _, _, _, _, rfl, power⟩

/-- After any sessions, all later ones decide as they would with a new controller of the same
configuration, state of charge and time exactly if there is nothing left. -/
theorem evSimulation_independent_iff (config : EVCCConfig) (lastUpdateTime : ℚ)
    (sessions : List ChargingSession) :
    Independent (afterSessions sessions { config := config, lastUpdateTime := lastUpdateTime }) ↔
      Untouched
        (afterSessions sessions { config := config, lastUpdateTime := lastUpdateTime }) := by
  have new : Sound { config := config, lastUpdateTime := lastUpdateTime } :=
    ⟨by norm_num, by norm_num, fun _ => ⟨rfl, rfl, rfl⟩⟩
  have sound := new.sessions sessions
  generalize afterSessions sessions { config := config, lastUpdateTime := lastUpdateTime } =
    battery at sound ⊢
  constructor
  · intro independent
    obtain ⟨completed, diagnostic, target⟩ :=
      bookkeeping_of_complete fun _ => independent.complete_eq sound
    have precharges : decisions (List.replicate 5 (.isPrecharged noVoltage))
          (battery.atStart precharging) =
        decisions (List.replicate 5 (.isPrecharged noVoltage))
          (battery.renewed.atStart precharging) :=
      independent precharging
    have welds : decisions (List.replicate 3 .weldingDetectionHasFinished)
          (battery.atStart welding) =
        decisions (List.replicate 3 .weldingDetectionHasFinished)
          (battery.renewed.atStart welding) :=
      independent welding
    have precharge : (battery.atStart precharging).prechargeLoopCycles = 0 :=
      counts_precharge.count_eq (fun _ _ => Decision.precharged.inj) (by decide)
        (sound.start precharging) ((renewed_sound sound).start precharging) rfl precharges
    have weldingDetection : (battery.atStart welding).weldingDetectionCycles = 0 :=
      counts_weldingDetection.count_eq (fun _ _ => Decision.weldingDetectionFinished.inj)
        (by decide) trivial trivial rfl welds
    exact ⟨precharge, weldingDetection, completed, diagnostic, target,
      independent.settled sound completed diagnostic target⟩
  · intro untouched session
    exact ((Indistinguishable.of_untouched sound untouched).atStart session).decisions_eq
      session.calls

/-- After a pre-charge that took all its cycles, the next session is precharged at once, without
any voltage. -/
theorem precharge_not_independent :
    sessionDecisions precharging (afterSessions [precharging] sampleBattery) =
        List.replicate 5 (some (.precharged true)) ∧
      sessionDecisions precharging (afterSessions [precharging] sampleBattery).renewed =
        List.replicate 5 (some (.precharged false)) ∧
      ¬Independent (afterSessions [precharging] sampleBattery) := by
  have again : sessionDecisions precharging (afterSessions [precharging] sampleBattery) =
      List.replicate 5 (some (.precharged true)) := by
    decide +kernel
  have fresh : sessionDecisions precharging (afterSessions [precharging] sampleBattery).renewed =
      List.replicate 5 (some (.precharged false)) := by
    decide +kernel
  refine ⟨again, fresh, ?_⟩
  intro independent
  have same := independent precharging
  rw [again, fresh] at same
  cases same

end RealBatterySimulator

end Iso15118.Evcc
