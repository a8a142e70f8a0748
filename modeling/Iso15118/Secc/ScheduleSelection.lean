import Iso15118.Secc.V2.ScheduleSelection
import Iso15118.Secc.V20.ScheduleSelection

/-!
# The schedule that a session charges by

What a start selects has been offered last, in both versions of ISO 15118. In
ISO 15118-2 this takes that no request of the charge loop is refused, as failed
responses have an id of their own. In ISO 15118-20 it takes that the latest exchange
was one of the scheduled control mode.
-/

namespace Iso15118.Secc

open Transition
open Iso15118.Shared

/-- The schedule that a session charges by is one that has been offered last. -/
theorem charges_by_offered (σ : Type) [DiagnosticService σ] (environment : V2.Environment)
    (environmentV20 : V20.Environment) :
    (∀ start history session input next, V2.New start →
      Run (V2.machine environment).Step start history session →
      (V2.machine environment).Step session input next → V2.ServesLoop session input →
      V2.KeepsSchedule environment start history session input next) ∧
    ∀ (start session next : V20.SECCSession σ) history header req answers, V20.New start →
      Run (V20.machine environmentV20).Step start history session →
      (V20.machine environmentV20).Step session
        (some ⟨.request ⟨header, .powerDeliveryReq req⟩, answers⟩) next →
      next.ended = false → V20.StartsScheduled environmentV20 req session.world.session →
      (V20.SelectsOffered req session ↔
        ∃ scheduleTuples, V20.OffersSchedules session.sent scheduleTuples) := by
  constructor
  · intro start history session input next new run step serves
    exact V2.keepsSchedule_of_step new run step serves
  · intro start session next history header req answers new run step goesOn starts
    exact V20.selectsOffered_iff new run step goesOn starts

/-- A scheduled session, and a charge loop that repeats the selected schedule. -/
theorem sample_charges_by_offered :
    V2.KeepsSchedule V2.Sample.environment V2.Sample.start V2.Sample.chargingStatusHistory
        ((V2.machine V2.Sample.environment).rcvAll V2.Sample.start
          V2.Sample.chargingStatusHistory)
        (V2.Sample.request .chargingStatusReq)
        ((V2.machine V2.Sample.environment).rcvAll V2.Sample.start
          (V2.Sample.request .chargingStatusReq :: V2.Sample.chargingStatusHistory)) ∧
      V20.SelectsOffered V20.Sample.scheduledStart
        ((V20.machine V20.Sample.environment).rcvAll V20.Sample.start
          V20.Sample.scheduledHistory) := by
  have charges := charges_by_offered BatteryHealthService V2.Sample.environment
    V20.Sample.environment
  constructor
  · refine charges.1 _ _ _ _ _ V2.Sample.new_start
      (SessionStateMachine.run_of_goesOn (by decide +kernel)) ⟨by decide +kernel, rfl⟩ ?_
    rintro message answers saScheduleTupleId ⟨⟩ selected other
    have one : ((V2.machine V2.Sample.environment).rcvAll V2.Sample.start
        V2.Sample.chargingStatusHistory).world.session.selectedSchedule = some 1 := by
      decide +kernel
    cases one.symm.trans selected
    exact absurd rfl other
  · refine (charges.2 _ _ _ _ { sessionId := "10" } _ V20.Sample.answers V20.Sample.new_start
      (SessionStateMachine.run_of_goesOn (by decide +kernel)) ⟨by decide +kernel, rfl⟩
      (by decide +kernel) ⟨by decide +kernel, by decide, by decide, by decide⟩).mpr
      ⟨[⟨1, []⟩], by decide +kernel⟩

/-- After a renegotiation of the control mode, a start may select a schedule of an exchange
that was not the latest one. -/
theorem renegotiated_start_not_offered :
    V20.New V20.Sample.start ∧
      Run (V20.machine V20.Sample.environment).Step V20.Sample.start
        V20.Sample.renegotiatedHistory
        ((V20.machine V20.Sample.environment).rcvAll V20.Sample.start
          V20.Sample.renegotiatedHistory) ∧
      ((V20.machine V20.Sample.environment).rcvAll V20.Sample.start
        (V20.Sample.request (.powerDeliveryReq V20.Sample.scheduledStart) ::
          V20.Sample.renegotiatedHistory)).ended = false ∧
      V20.StartsScheduled V20.Sample.environment V20.Sample.scheduledStart
        ((V20.machine V20.Sample.environment).rcvAll V20.Sample.start
          V20.Sample.renegotiatedHistory).world.session ∧
      ¬V20.SelectsOffered V20.Sample.scheduledStart
        ((V20.machine V20.Sample.environment).rcvAll V20.Sample.start
          V20.Sample.renegotiatedHistory) := by
  refine ⟨V20.Sample.new_start, SessionStateMachine.run_of_goesOn (by decide +kernel),
    by decide +kernel, ⟨by decide +kernel, by decide, by decide, by decide⟩, ?_⟩
  rintro ⟨scheduleTuples, offers, _⟩
  have latest : V20.latestFinished ((V20.machine V20.Sample.environment).rcvAll
      V20.Sample.start V20.Sample.renegotiatedHistory).sent =
        some (.dynamic ⟨none, none, none, none⟩) := by
    decide +kernel
  cases latest.symm.trans offers

end Iso15118.Secc
