import Iso15118.Evcc.Controller.TimedCalls
import Iso15118.Library.ClampedSum

/-!
# The energy of the simulated battery

The state of charge is to be what the power has brought since the last call, call by call. The
simulator brings it up to date in `update_battery_state` only, where it takes the power of the
moment for all the time since the last update, and leaves out a time of less than a hundredth of
a second, which it does not make up for.
-/

namespace Iso15118.Evcc

open Effect
open Iso15118.Shared
open Iso15118.Shared.V20

namespace RealBatterySimulator

/-! ## What flows -/

/-- The state of charge after a power for some time. -/
def flow (soc powerW deltaTS : ℚ) : ℚ :=
  clampedSum 0 100 soc (powerW * deltaTS / 3600 / totalBatteryCapacityWh * 100)

/-- Nothing comes of a power: there is none, or the battery is full or empty. -/
def Idle (soc powerW : ℚ) : Prop :=
  powerW = 0 ∨ soc = 100 ∧ 0 < powerW ∨ soc = 0 ∧ powerW < 0

theorem integrate_eq_flow (battery : RealBatterySimulator) (powerW deltaTS : ℚ) :
    battery.integrate powerW deltaTS = flow battery.soc powerW deltaTS :=
  rfl

section

variable {soc powerW first second deltaTS : ℚ}

theorem flow_zero (nonneg : 0 ≤ soc) (le : soc ≤ 100) : flow soc powerW 0 = soc := by
  unfold flow
  rw [mul_zero, zero_div, zero_div, zero_mul]
  exact clampedSum.zero nonneg le

/-- A power flows for some time, however it is divided. -/
theorem flow_add (nonneg : 0 ≤ soc) (le : soc ≤ 100) (first_nonneg : 0 ≤ first)
    (second_nonneg : 0 ≤ second) :
    flow (flow soc powerW first) powerW second = flow soc powerW (first + second) := by
  have sum : powerW * (first + second) / 3600 / totalBatteryCapacityWh * 100 =
      powerW * first / 3600 / totalBatteryCapacityWh * 100 +
        powerW * second / 3600 / totalBatteryCapacityWh * 100 := by ring
  unfold flow
  rw [sum]
  unfold totalBatteryCapacityWh
  obtain charges | discharges := le_total 0 powerW
  · exact clampedSum.add_of_nonneg nonneg (by positivity) (by positivity)
  · apply clampedSum.add_of_nonpos le (by norm_num)
    · have := mul_nonpos_of_nonpos_of_nonneg discharges first_nonneg
      linarith
    · have := mul_nonpos_of_nonpos_of_nonneg discharges second_nonneg
      linarith

/-- In some time, only a power of which nothing comes changes nothing. -/
theorem flow_eq_self_iff (nonneg : 0 ≤ soc) (le : soc ≤ 100) (passes : 0 < deltaTS) :
    flow soc powerW deltaTS = soc ↔ Idle soc powerW := by
  have factor : 0 < deltaTS / 3600 / totalBatteryCapacityWh * 100 := by
    unfold totalBatteryCapacityWh
    positivity
  have portion : powerW * deltaTS / 3600 / totalBatteryCapacityWh * 100 =
      powerW * (deltaTS / 3600 / totalBatteryCapacityWh * 100) := by ring
  unfold flow
  rw [portion, clampedSum.eq_self_iff nonneg le, mul_eq_zero, mul_pos_iff_of_pos_right factor]
  constructor
  · rintro ((zero | never) | full | ⟨empty, negative⟩)
    · exact .inl zero
    · exact absurd never factor.ne'
    · exact .inr (.inl full)
    · refine .inr (.inr ⟨empty, ?_⟩)
      by_contra other
      exact absurd negative (not_lt.mpr (mul_nonneg (not_lt.mp other) factor.le))
  · rintro (zero | full | ⟨empty, negative⟩)
    · exact .inl (.inl zero)
    · exact .inr (.inl full)
    · exact .inr (.inr ⟨empty, mul_neg_of_neg_of_pos negative factor⟩)

theorem Idle.flow_eq (idle : Idle soc powerW) (nonneg : 0 ≤ soc) (le : soc ≤ 100)
    (duration : 0 ≤ deltaTS) : flow soc powerW deltaTS = soc := by
  obtain rfl | passes := eq_or_lt_of_le duration
  · exact flow_zero nonneg le
  · exact (flow_eq_self_iff nonneg le passes).mpr idle

end

/-! ## The balance -/

/-- The time of the last call. -/
def now (start : RealBatterySimulator) : List TimedCall → ℚ
  | [] => start.lastUpdateTime
  | timed :: _ => timed.time

/-- The state of charge that it should be: from call to call, what the power in force has
brought. -/
def balance (start : RealBatterySimulator) : List TimedCall → ℚ
  | [] => start.soc
  | timed :: past =>
      flow (balance start past) (start.afterTimed past).currentPowerW (timed.time - now start past)

/-- The clock has never gone back. -/
def Forward (start : RealBatterySimulator) : List TimedCall → Prop
  | [] => True
  | timed :: past => now start past ≤ timed.time ∧ Forward start past

/-- Another power may come in the place of the present one: it is the same, or nothing comes of
either. -/
def Steady (battery : RealBatterySimulator) (powerW : ℚ) : Prop :=
  powerW = battery.currentPowerW ∨
    Idle battery.soc battery.currentPowerW ∧ Idle battery.soc powerW

/-- A call at the time of the last update, or one that does not change what flows. If it is an
update, it comes no sooner than a hundredth of a second after the last one, or nothing flows. -/
def Accounts (battery : RealBatterySimulator) (timed : TimedCall) : Prop :=
  timed.time = battery.lastUpdateTime ∨
    (∀ powerW, setPower timed.call battery = some powerW → battery.Steady powerW) ∧
      (Updates timed.call battery →
        battery.lastUpdateTime + 1 / 100 ≤ timed.time ∨
          Idle battery.soc battery.currentPowerW)

/-- All calls are such. -/
def Accounted (start : RealBatterySimulator) : List TimedCall → Prop
  | [] => True
  | timed :: past => Accounts (start.afterTimed past) timed ∧ Accounted start past

/-- The clock has come no further than the balance, and what is between is the present power. -/
structure Owes (battery : RealBatterySimulator) (time level : ℚ) : Prop where
  mark_le : battery.lastUpdateTime ≤ time
  balanced : level = flow battery.soc battery.currentPowerW (time - battery.lastUpdateTime)

theorem Steady.flow_eq {battery : RealBatterySimulator} {powerW deltaTS : ℚ}
    (steady : battery.Steady powerW) (sound : battery.Sound) (duration : 0 ≤ deltaTS) :
    flow battery.soc powerW deltaTS = flow battery.soc battery.currentPowerW deltaTS := by
  obtain rfl | ⟨before, after⟩ := steady
  · rfl
  · rw [before.flow_eq sound.soc_nonneg sound.soc_le duration,
      after.flow_eq sound.soc_nonneg sound.soc_le duration]

/-- An update that is made in time leaves what it should. -/
theorem Updates.soc_eq {battery : RealBatterySimulator} {timed : TimedCall} (sound : battery.Sound)
    (updates : Updates timed.call battery) (later : battery.lastUpdateTime ≤ timed.time)
    (steady : battery.Steady (timed.call.leaves (battery.atTime timed.time)).currentPowerW)
    (inTime : battery.lastUpdateTime + 1 / 100 ≤ timed.time ∨
      Idle battery.soc battery.currentPowerW) :
    (timed.call.leaves (battery.atTime timed.time)).lastUpdateTime = timed.time ∧
      (timed.call.leaves (battery.atTime timed.time)).soc =
        flow battery.soc battery.currentPowerW (timed.time - battery.lastUpdateTime) := by
  have updates' : Updates timed.call (battery.atTime timed.time) := updates
  obtain ⟨mark, soc⟩ := leaves_of_updates updates'
  refine ⟨mark, soc.trans ?_⟩
  change (if timed.time - battery.lastUpdateTime < 1 / 100 then battery.soc
    else flow battery.soc _ (timed.time - battery.lastUpdateTime)) = _
  split
  next tiny =>
    obtain late | idle := inTime
    · linarith
    · exact (idle.flow_eq sound.soc_nonneg sound.soc_le (sub_nonneg.mpr later)).symm
  · exact steady.flow_eq sound (sub_nonneg.mpr later)

/-- A call leaves the state of charge and the clock mark, or takes the power up to its time. -/
theorem TimedCall.after_eq_or {battery : RealBatterySimulator} {timed : TimedCall}
    (sound : battery.Sound) (later : battery.lastUpdateTime ≤ timed.time)
    (accounts : battery.Accounts timed) :
    timed.time = battery.lastUpdateTime ∧ (timed.after battery).lastUpdateTime = timed.time ∧
        (timed.after battery).soc = battery.soc ∨
      battery.Steady (timed.after battery).currentPowerW ∧
        (¬Updates timed.call battery ∧
            (timed.after battery).lastUpdateTime = battery.lastUpdateTime ∧
            (timed.after battery).soc = battery.soc ∨
          Updates timed.call battery ∧
            (timed.after battery).lastUpdateTime = timed.time ∧
            (timed.after battery).soc =
              flow battery.soc battery.currentPowerW (timed.time - battery.lastUpdateTime)) := by
  have live := timed.sameLive_after sound
  rw [live.mark, live.soc, live.power]
  obtain same | ⟨steady, inTime⟩ := accounts
  · left
    refine ⟨same, ?_⟩
    by_cases updates : Updates timed.call (battery.atTime timed.time)
    · obtain ⟨mark, soc⟩ := leaves_of_updates updates
      refine ⟨mark, soc.trans ?_⟩
      apply if_pos
      change timed.time - battery.lastUpdateTime < 1 / 100
      rw [same, sub_self]
      norm_num
    · obtain ⟨mark, soc⟩ := leaves_of_not_updates updates
      exact ⟨mark.trans same.symm, soc⟩
  · right
    have steady : battery.Steady
        (timed.call.leaves (battery.atTime timed.time)).currentPowerW := by
      rw [leaves_power]
      cases sets : setPower timed.call (battery.atTime timed.time) with
      | none => exact .inl rfl
      | some power => exact steady power sets
    refine ⟨steady, ?_⟩
    by_cases updates : Updates timed.call battery
    · exact .inr ⟨updates, Updates.soc_eq sound updates later steady (inTime updates)⟩
    · have other : ¬Updates timed.call (battery.atTime timed.time) := updates
      exact .inl ⟨updates, leaves_of_not_updates other⟩

/-- What is owed and what flows next flow together since the last update. -/
theorem Owes.flow_eq {battery : RealBatterySimulator} {time level later : ℚ} (sound : battery.Sound)
    (owes : battery.Owes time level) (forward : time ≤ later) :
    flow level battery.currentPowerW (later - time) =
      flow battery.soc battery.currentPowerW (later - battery.lastUpdateTime) := by
  rw [owes.balanced, flow_add sound.soc_nonneg sound.soc_le (sub_nonneg.mpr owes.mark_le)
    (sub_nonneg.mpr forward)]
  congr 1
  ring

/-- What a call that accounts for the energy leaves. -/
theorem Owes.step {battery : RealBatterySimulator} {timed : TimedCall} {time level : ℚ}
    (sound : battery.Sound) (owes : battery.Owes time level) (later : time ≤ timed.time)
    (accounts : battery.Accounts timed) :
    (timed.after battery).Owes timed.time
      (flow level battery.currentPowerW (timed.time - time)) := by
  have mark_le := owes.mark_le
  rw [Owes.flow_eq sound owes later]
  have after_sound : (timed.after battery).Sound := (sound.atTime timed.time).call timed.call
  have settled : (timed.after battery).lastUpdateTime = timed.time →
      flow (timed.after battery).soc (timed.after battery).currentPowerW
        (timed.time - (timed.after battery).lastUpdateTime) = (timed.after battery).soc := by
    intro mark
    rw [mark, sub_self, flow_zero after_sound.soc_nonneg after_sound.soc_le]
  obtain ⟨same, mark, soc⟩ | ⟨steady, ⟨-, mark, soc⟩ | ⟨-, mark, soc⟩⟩ :=
    TimedCall.after_eq_or sound (mark_le.trans later) accounts
  · constructor
    · exact mark.le
    · rw [settled mark, soc, same, sub_self, flow_zero sound.soc_nonneg sound.soc_le]
  · constructor
    · rw [mark]
      exact mark_le.trans later
    · rw [mark, soc]
      exact (steady.flow_eq sound (sub_nonneg.mpr (mark_le.trans later))).symm
  · constructor
    · exact mark.le
    · rw [settled mark, soc]

/-- Over calls that account for the energy, only the time since the last update is owed. -/
theorem owes_of_accounted {start : RealBatterySimulator} (sound : start.Sound)
    {history : List TimedCall} (forward : Forward start history)
    (accounted : Accounted start history) :
    (start.afterTimed history).Owes (now start history) (balance start history) := by
  induction history with
  | nil =>
      constructor
      · exact le_rfl
      · change start.soc = flow start.soc start.currentPowerW
          (start.lastUpdateTime - start.lastUpdateTime)
        rw [sub_self, flow_zero sound.soc_nonneg sound.soc_le]
  | cons timed past ih =>
      obtain ⟨later, forward⟩ := forward
      obtain ⟨accounts, accounted⟩ := accounted
      exact Owes.step (sound.afterTimed past) (ih forward accounted) later accounts

/-- Over calls that account for the energy, the state of charge is the balance as soon as a call
comes that is an update, comes at the time of the last one or finds nothing flowing. -/
theorem soc_eq_balance_iff {start : RealBatterySimulator} (sound : start.Sound) {last : TimedCall}
    {past : List TimedCall} (forward : Forward start (last :: past))
    (accounted : Accounted start (last :: past)) :
    (start.afterTimed (last :: past)).soc = balance start (last :: past) ↔
      last.time = (start.afterTimed past).lastUpdateTime ∨
        Updates last.call (start.afterTimed past) ∨
        Idle (start.afterTimed past).soc (start.afterTimed past).currentPowerW := by
  obtain ⟨later, forward⟩ := forward
  obtain ⟨accounts, accounted⟩ := accounted
  have owes := owes_of_accounted sound forward accounted
  have sound := sound.afterTimed past
  have total : balance start (last :: past) = flow (start.afterTimed past).soc
      (start.afterTimed past).currentPowerW
      (last.time - (start.afterTimed past).lastUpdateTime) := Owes.flow_eq sound owes later
  have mark_le := owes.mark_le.trans later
  rw [total]
  change (last.after (start.afterTimed past)).soc = _ ↔ _
  generalize start.afterTimed past = battery at *
  obtain ⟨same, -, soc⟩ | ⟨-, ⟨other, -, soc⟩ | ⟨updates, -, soc⟩⟩ :=
    TimedCall.after_eq_or sound mark_le accounts
  · rw [soc, same, sub_self, flow_zero sound.soc_nonneg sound.soc_le]
    exact iff_of_true rfl (.inl rfl)
  · rw [soc, eq_comm]
    obtain same | passes := eq_or_lt_of_le mark_le
    · rw [← same, sub_self, flow_zero sound.soc_nonneg sound.soc_le]
      exact iff_of_true rfl (.inl rfl)
    · rw [flow_eq_self_iff sound.soc_nonneg sound.soc_le (sub_pos.mpr passes)]
      constructor
      · intro idle
        exact .inr (.inr idle)
      · rintro (same | updates | idle)
        · exact absurd same passes.ne'
        · exact absurd updates other
        · exact idle
  · rw [soc]
    exact iff_of_true rfl (.inr (.inl updates))

/-- A power of ten kilowatts, and what is called then. -/
def tenKilowatts (recent : List TimedCall) : List TimedCall :=
  recent ++ [⟨.updateSeccLimits 60 500 10000, 0⟩]

theorem soc_eq_balance_charging :
    (sampleBattery.afterTimed (tenKilowatts [⟨.continueCharging, 3⟩, ⟨.continueCharging, 1⟩])).soc =
      balance sampleBattery (tenKilowatts [⟨.continueCharging, 3⟩, ⟨.continueCharging, 1⟩]) := by
  have sound : sampleBattery.Sound := by
    constructor
    · decide +kernel
    · decide +kernel
    · exact fun _ => ⟨rfl, rfl, rfl⟩
  have set (history : List TimedCall) (time : ℚ)
      (none_set : setPower .continueCharging (sampleBattery.afterTimed history) = none)
      (late : (sampleBattery.afterTimed history).lastUpdateTime + 1 / 100 ≤ time) :
      Accounts (sampleBattery.afterTimed history) ⟨.continueCharging, time⟩ := by
    right
    constructor
    · intro powerW some_set
      cases none_set.symm.trans some_set
    · exact fun _ => .inl late
  have forward : Forward sampleBattery
      (tenKilowatts [⟨.continueCharging, 3⟩, ⟨.continueCharging, 1⟩]) :=
    ⟨by decide +kernel, by decide +kernel, by decide +kernel, trivial⟩
  have accounted : Accounted sampleBattery
      (tenKilowatts [⟨.continueCharging, 3⟩, ⟨.continueCharging, 1⟩]) := by
    refine ⟨?_, ?_, ?_, trivial⟩
    · exact set (tenKilowatts [⟨.continueCharging, 1⟩]) 3 (by decide +kernel) (by decide +kernel)
    · exact set (tenKilowatts []) 1 (by decide +kernel) (by decide +kernel)
    · exact .inl rfl
  exact (soc_eq_balance_iff sound forward accounted).mpr
    (.inr (.inl ⟨by decide +kernel, by decide +kernel⟩))

/-- Limits that come after ten seconds without power are taken for these ten seconds, and twice five
thousandths of a second are nothing where a hundredth is not. -/
theorem soc_not_balance :
    Forward sampleBattery
        [⟨.getDynamicDcChargeLoopParams, 20⟩, ⟨.updateSeccLimits 60 500 10000, 10⟩] ∧
      (sampleBattery.afterTimed
        [⟨.getDynamicDcChargeLoopParams, 20⟩, ⟨.updateSeccLimits 60 500 10000, 10⟩]).soc =
          280 / 9 ∧
      balance sampleBattery
        [⟨.getDynamicDcChargeLoopParams, 20⟩, ⟨.updateSeccLimits 60 500 10000, 10⟩] =
          230 / 9 ∧
      (sampleBattery.afterTimed (tenKilowatts [⟨.continueCharging, 1 / 100⟩])).soc =
        3601 / 180 ∧
      (sampleBattery.afterTimed
        (tenKilowatts [⟨.continueCharging, 1 / 100⟩, ⟨.continueCharging, 1 / 200⟩])).soc = 20 :=
  ⟨⟨by decide +kernel, by decide +kernel, trivial⟩, by decide +kernel, by decide +kernel,
    by decide +kernel, by decide +kernel⟩

end RealBatterySimulator

end Iso15118.Evcc
