import Iso15118.Library.Run

/-!
# The sequence of a DC session

Before a station charges with direct current it checks the cable and drives its
voltage to that of the battery. A stop that opens the contactors makes both
necessary again. What the current state of a session says about the past is its
stage, and a step may only go to a stage that it has earned.
-/

namespace Iso15118.Secc

open Transition

variable {σ ι : Type}

/-- The steps that the sequence is about. -/
structure DcEvents (σ ι : Type) where
  finishesCableCheck : σ → ι → σ → Prop
  preCharges : σ → ι → σ → Prop
  opensContactor : σ → ι → σ → Prop

namespace DcEvents

variable (events : DcEvents σ ι) (step : σ → ι → σ → Prop)

/-- A cable check has finished since the contactors have last been opened. -/
def CableChecked (start : σ) (history : List ι) (state : σ) : Prop :=
  Since step events.opensContactor events.finishesCableCheck start history state

/-- And a request to pre-charge has been processed since. -/
def Prepared (start : σ) (history : List ι) (state : σ) : Prop :=
  events.CableChecked step start history state ∧
    Since step events.opensContactor events.preCharges start history state

/-- A step that finishes no cable check leaves it to the steps before. -/
theorem CableChecked.before {start state : σ} {history : List ι} {input : ι}
    (checked : events.CableChecked step start (input :: history) state)
    (other : ∀ before, ¬events.finishesCableCheck before input state) :
    ∃ before, Run step start history before ∧ step before input state ∧
      ¬events.opensContactor before input state ∧
      events.CableChecked step start history before := by
  obtain ⟨before, run, last, finishes | ⟨closed, checked⟩⟩ := checked.last
  · exact absurd finishes (other before)
  · exact ⟨before, run, last, closed, checked⟩

end DcEvents

/-- What a state says about the past: nothing, that the cable has been checked, that
the charging has been prepared, or that it is not reached. -/
inductive DcStage where
  | unprepared
  | cableChecked
  | prepared
  | unreached
  deriving DecidableEq, Repr

namespace DcStage

variable (events : DcEvents σ ι) (step : σ → ι → σ → Prop)

def Holds (stage : DcStage) (start : σ) (history : List ι) (state : σ) : Prop :=
  match stage with
  | .unprepared => True
  | .cableChecked => events.CableChecked step start history state
  | .prepared => events.Prepared step start history state
  | .unreached => False

/-- Where a step may go from a stage. -/
def Earns (before after : DcStage) (state : σ) (input : ι) (next : σ) : Prop :=
  match after with
  | .unprepared => True
  | .cableChecked =>
      ¬events.opensContactor state input next ∧
        (events.finishesCableCheck state input next ∨ before = .cableChecked)
  | .prepared =>
      ¬events.opensContactor state input next ∧
        (before = .prepared ∨ before = .cableChecked ∧ events.preCharges state input next)
  | .unreached => before = .unreached

variable {events step}

/-- A step to a stage that it has earned keeps what the stages say. -/
theorem holds_of_earns {before after : DcStage} {start state next : σ} {history : List ι}
    {input : ι} (past : Run step start history state) (last : step state input next)
    (holds : before.Holds events step start history state)
    (earns : Earns events before after state input next) :
    after.Holds events step start (input :: history) next := by
  cases after with
  | unprepared => trivial
  | cableChecked =>
      rcases earns with ⟨closed, finishes | rfl⟩
      · exact Since.now past last finishes
      · exact Since.later holds last closed
  | prepared =>
      rcases earns with ⟨closed, rfl | ⟨rfl, preCharges⟩⟩
      · exact ⟨Since.later holds.1 last closed, Since.later holds.2 last closed⟩
      · exact ⟨Since.later holds last closed, Since.now past last preCharges⟩
  | unreached =>
      cases earns
      exact holds

end DcStage

end Iso15118.Secc
