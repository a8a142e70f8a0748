import Iso15118.Secc.Din.DcSafety
import Iso15118.Secc.V2.DcSafety

/-!
# Starting to charge again

The sequence of a DC session in ISO 15118-2 and in DIN SPEC 70121, over the runs in
which no `PowerDelivery` object that has answered a request before starts the energy
transfer. One that does starts it without a cable check and a pre-charge.
-/

namespace Iso15118.Secc

open Transition
open Iso15118.Shared

/-- Every entry into the charge loop of a DC session comes after a cable check and a
pre-charge since the contactors have last been opened. -/
theorem prepared_of_entersCurrentDemand (environment : V2.Environment) (config : Din.Config) :
    (∀ (start session next : V2.SECCSession)
        (history : List (Option V2.Received)) (input : Option V2.Received),
      V2.New start →
      Run (Restrict (V2.machine environment).Step (V2.NoRestart environment)) start history
        session →
      Restrict (V2.machine environment).Step (V2.NoRestart environment) session input next →
      V2.EntersCurrentDemand session next →
      (V2.dcEvents environment).Prepared (V2.machine environment).Step start (input :: history)
        next) ∧
    ∀ (start session next : Din.SECCSession)
        (history : List (Option Din.Received)) (input : Option Din.Received),
      Din.New start →
      Run (Restrict (Din.machine config).Step (Din.NoRestart config)) start history session →
      Restrict (Din.machine config).Step (Din.NoRestart config) session input next →
      Din.EntersCurrentDemand session next →
      (Din.dcEvents config).Prepared (Din.machine config).Step start (input :: history) next := by
  constructor
  · intro start session next history input new run last enters
    exact V2.currentDemand_prepared new run last enters
  · intro start session next history input new run last enters
    exact Din.currentDemand_prepared new run last enters

/-! ## A session that starts again -/

/-- The charge loop of ISO 15118-2, and a stop that opens the contactors. -/
def V2.Sample.stopHistory : List (Option V2.Received) :=
  request (.powerDeliveryReq (powerDeliveryReq .stop)) ::
    request (.currentDemandReq currentDemandReq) ::
    currentDemandHistory

/-- After the stop another `PowerDeliveryReq` leads into the charge loop, in both
protocols. -/
theorem not_prepared_of_restart :
    (∃ (environment : V2.Environment) (start session next : V2.SECCSession)
        (history : List (Option V2.Received)) (input : Option V2.Received),
      V2.New start ∧ Run (V2.machine environment).Step start history session ∧
        (V2.machine environment).Step session input next ∧
        V2.EntersCurrentDemand session next ∧
        ¬(V2.dcEvents environment).Prepared (V2.machine environment).Step start
          (input :: history) next) ∧
    ∃ (config : Din.Config) (start session next : Din.SECCSession)
        (history : List (Option Din.Received)) (input : Option Din.Received),
      Din.New start ∧ Run (Din.machine config).Step start history session ∧
        (Din.machine config).Step session input next ∧ Din.EntersCurrentDemand session next ∧
        ¬(Din.dcEvents config).Prepared (Din.machine config).Step start (input :: history)
          next := by
  constructor
  · refine ⟨V2.Sample.environment, V2.Sample.start,
      (V2.machine V2.Sample.environment).rcvAll V2.Sample.start V2.Sample.stopHistory, _,
      V2.Sample.stopHistory,
      V2.Sample.request (.powerDeliveryReq (V2.Sample.powerDeliveryReq .start)),
      V2.Sample.new_start, ?_, SessionStateMachine.step_rcvAll (by decide +kernel) _,
      ?_, ?_⟩
    · iterate 11 refine .step ?_ ⟨by decide +kernel, rfl⟩
      exact .start
    · unfold V2.EntersCurrentDemand
      decide +kernel
    · rintro ⟨checked, _⟩
      obtain ⟨stopped, run, _, _, checked⟩ := checked.before _ _ (by
        rintro _ ⟨_, _, _, _, _, ⟨⟩, _⟩)
      rw [SessionStateMachine.eq_rcvAll_of_run run] at checked
      obtain ⟨_, _, _, closed, _⟩ := checked.before _ _ (by rintro _ ⟨_, _, _, _, _, ⟨⟩, _⟩)
      exact closed ⟨_, _, _, rfl, rfl, rfl, by decide +kernel⟩
  · refine ⟨Din.Sample.config, Din.Sample.start,
      (Din.machine Din.Sample.config).rcvAll Din.Sample.start Din.Sample.stopHistory, _,
      Din.Sample.stopHistory,
      Din.Sample.request (.powerDeliveryReq (Din.Sample.powerDeliveryReq true)),
      Din.Sample.new_start, ?_, SessionStateMachine.step_rcvAll (by decide +kernel) _,
      ?_, ?_⟩
    · iterate 11 refine .step ?_ ⟨by decide +kernel, rfl⟩
      exact .start
    · unfold Din.EntersCurrentDemand
      decide +kernel
    · rintro ⟨checked, _⟩
      obtain ⟨stopped, run, _, _, checked⟩ := checked.before _ _ (by
        rintro _ ⟨_, _, _, _, _, ⟨⟩, _⟩)
      rw [SessionStateMachine.eq_rcvAll_of_run run] at checked
      obtain ⟨_, _, _, closed, _⟩ := checked.before _ _ (by rintro _ ⟨_, _, _, _, _, ⟨⟩, _⟩)
      exact closed ⟨_, _, _, rfl, rfl, rfl, by decide +kernel⟩

/-- A first start in both protocols comes after the preparation. -/
theorem prepared_of_entersCurrentDemand_first :
    (V2.dcEvents V2.Sample.environment).Prepared (V2.machine V2.Sample.environment).Step
        V2.Sample.start V2.Sample.currentDemandHistory
        ((V2.machine V2.Sample.environment).rcvAll V2.Sample.start
          V2.Sample.currentDemandHistory) ∧
      (Din.dcEvents Din.Sample.config).Prepared (Din.machine Din.Sample.config).Step
        Din.Sample.start
        (Din.Sample.request (.powerDeliveryReq (Din.Sample.powerDeliveryReq true)) ::
          Din.Sample.preChargeHistory)
        ((Din.machine Din.Sample.config).rcvAll Din.Sample.start
          (Din.Sample.request (.powerDeliveryReq (Din.Sample.powerDeliveryReq true)) ::
            Din.Sample.preChargeHistory)) := by
  constructor
  · apply (prepared_of_entersCurrentDemand V2.Sample.environment Din.Sample.config).1 _
      ((V2.machine V2.Sample.environment).rcvAll V2.Sample.start V2.Sample.preChargeHistory)
      _ _ _ V2.Sample.new_start
    · iterate 8 refine .step ?_ ⟨⟨rfl, rfl⟩, by rintro _ _ ⟨⟨_, ⟨⟩⟩, _⟩⟩
      exact .start
    · refine ⟨SessionStateMachine.step_rcvAll (by decide +kernel) _, ?_⟩
      intro _ _ _ restarted
      exact absurd restarted (by decide +kernel)
    · unfold V2.EntersCurrentDemand
      decide +kernel
  · apply (prepared_of_entersCurrentDemand V2.Sample.environment Din.Sample.config).2 _
      ((Din.machine Din.Sample.config).rcvAll Din.Sample.start Din.Sample.preChargeHistory)
      _ _ _ Din.Sample.new_start
    · iterate 8 refine .step ?_ ⟨⟨rfl, rfl⟩, by rintro _ _ ⟨⟨_, ⟨⟩⟩, _⟩⟩
      exact .start
    · refine ⟨SessionStateMachine.step_rcvAll (by decide +kernel) _, ?_⟩
      intro _ _ _ restarted
      exact absurd restarted (by decide +kernel)
    · unfold Din.EntersCurrentDemand
      decide +kernel

end Iso15118.Secc
