import Mathlib.Tactic.TypeStar

/-!
# Finite runs of a transition relation

A run is a sequence of steps, each taken on one input. Its inputs are kept
newest first, so that the past of the last step is the tail of the list.
-/

namespace Transition

universe u v

variable {σ : Type u} {ι : Type v}

/-- `Run step start history state`: taking the inputs of `history`, the oldest
last, leads from `start` to `state`. -/
inductive Run (step : σ → ι → σ → Prop) (start : σ) : List ι → σ → Prop where
  | start : Run step start [] start
  | step {history : List ι} {state next : σ} {input : ι}
      (past : Run step start history state) (last : step state input next) :
      Run step start (input :: history) next

/-- The steps of a relation that have a property. -/
def Restrict (step : σ → ι → σ → Prop) (property : σ → ι → σ → Prop) : σ → ι → σ → Prop :=
  fun state input next => step state input next ∧ property state input next

variable {step : σ → ι → σ → Prop} {start : σ}

/-- What holds at the start and is kept by every step holds after every run. -/
theorem Run.invariant {invariant : σ → Prop} (initial : invariant start)
    (preserved : ∀ state input next, invariant state → step state input next → invariant next)
    {history : List ι} {state : σ} (run : Run step start history state) : invariant state := by
  induction run with
  | start => exact initial
  | step past last ih => exact preserved _ _ _ ih last

/-- What no step changes, as long as an invariant holds, is what it was at the start. -/
theorem Run.constant {α : Type*} {invariant : σ → Prop} {value : σ → α}
    (initial : invariant start)
    (preserved : ∀ state input next, invariant state → step state input next → invariant next)
    (keeps : ∀ state input next, invariant state → step state input next →
      value next = value state)
    {history : List ι} {state : σ} (run : Run step start history state) :
    value state = value start := by
  induction run with
  | start => rfl
  | step past last ih =>
      exact (keeps _ _ _ (Run.invariant initial preserved past) last).trans ih

/-- What the first step establishes and every step keeps holds of all later states. -/
theorem Run.eq_start_or {invariant : σ → Prop}
    (first : ∀ input next, step start input next → invariant next)
    (preserved : ∀ state input next, invariant state → step state input next → invariant next)
    {history : List ι} {state : σ} (run : Run step start history state) :
    state = start ∨ invariant state := by
  induction run with
  | start => exact .inl rfl
  | step past last ih =>
      right
      rcases ih with rfl | holds
      · exact first _ _ last
      · exact preserved _ _ _ holds last

/-- What no step changes once the start has been left is the same from then on. -/
theorem Run.constant_of_left {α : Type*} {invariant : σ → Prop} {value : σ → α}
    (first : ∀ input next, step start input next → invariant next)
    (preserved : ∀ state input next, invariant state → step state input next → invariant next)
    (keeps : ∀ state input next, invariant state → step state input next →
      value next = value state)
    {past recent : List ι} {middle last : σ} (before : Run step start past middle)
    (left : middle ≠ start) (after : Run step middle recent last) : value last = value middle :=
  Run.constant ((Run.eq_start_or first preserved before).resolve_left left) preserved keeps after

/-- An invariant that depends on the steps taken so far. -/
theorem Run.invariant_history {invariant : List ι → σ → Prop} (initial : invariant [] start)
    (preserved : ∀ history state input next, Run step start history state →
      invariant history state → step state input next → invariant (input :: history) next)
    {history : List ι} {state : σ} (run : Run step start history state) :
    invariant history state := by
  induction run with
  | start => exact initial
  | step past last ih => exact preserved _ _ _ _ past ih last

/-- A run of a smaller relation is a run of a larger one. -/
theorem Run.mono {step' : σ → ι → σ → Prop}
    (weaker : ∀ state input next, step state input next → step' state input next)
    {history : List ι} {state : σ} (run : Run step start history state) :
    Run step' start history state := by
  induction run with
  | start => exact .start
  | step past last ih => exact .step ih (weaker _ _ _ last)

/-- Two properties select the same runs if they agree on the steps from states with an invariant
that steps with one of them keep. -/
theorem run_restrict_congr_of_invariant {invariant : σ → Prop}
    {first second : σ → ι → σ → Prop} (initial : invariant start)
    (preserved : ∀ state input next, invariant state → step state input next →
      first state input next → invariant next)
    (agree : ∀ state input next, invariant state → step state input next →
      (first state input next ↔ second state input next))
    {history : List ι} {state : σ} :
    Run (Restrict step first) start history state ↔
      Run (Restrict step second) start history state := by
  have kept : ∀ {history state}, Run (Restrict step first) start history state →
      invariant state := fun run =>
    run.invariant initial fun _ _ _ holds ⟨taken, property⟩ =>
      preserved _ _ _ holds taken property
  constructor
  · intro run
    induction run with
    | start => exact .start
    | step past last ih =>
        exact .step ih ⟨last.1, (agree _ _ _ (kept past) last.1).mp last.2⟩
  · intro run
    induction run with
    | start => exact .start
    | step past last ih =>
        exact .step ih ⟨last.1, (agree _ _ _ (kept ih) last.1).mpr last.2⟩

/-- Two properties that agree on the steps of a relation select the same runs. -/
theorem run_restrict_congr {first second : σ → ι → σ → Prop}
    (agree : ∀ state input next, step state input next →
      (first state input next ↔ second state input next))
    {history : List ι} {state : σ} :
    Run (Restrict step first) start history state ↔
      Run (Restrict step second) start history state :=
  by
  have holds : (fun _ : σ => True) start := trivial
  exact run_restrict_congr_of_invariant holds (fun _ _ _ _ _ _ => trivial)
    fun _ _ _ _ taken => agree _ _ _ taken

theorem Run.append {past recent : List ι} {middle state : σ}
    (first : Run step start past middle) (second : Run step middle recent state) :
    Run step start (recent ++ past) state := by
  induction second with
  | start => exact first
  | step past last ih => exact .step ih last

/-- A step that a run has taken lies between a run before it and one after it. -/
theorem Run.split {recent past : List ι} {input : ι} {state : σ}
    (run : Run step start (recent ++ input :: past) state) :
    ∃ before after, Run step start past before ∧ step before input after ∧
      Run step after recent state := by
  induction recent generalizing state with
  | nil =>
      cases run with
      | step past last => exact ⟨_, _, past, last, .start⟩
  | cons newest recent ih =>
      cases run with
      | step earlier last =>
          rcases ih earlier with ⟨before, after, past, taken, later⟩
          exact ⟨before, after, past, taken, .step later last⟩

/-- The run has taken a step that has a property. The property may speak about the
steps before that one. -/
def Passed (step : σ → ι → σ → Prop) (property : List ι → σ → ι → σ → Prop) (start : σ)
    (history : List ι) (state : σ) : Prop :=
  ∃ recent input past before after, history = recent ++ input :: past ∧
    Run step start past before ∧ step before input after ∧ property past before input after ∧
    Run step after recent state

variable {property : List ι → σ → ι → σ → Prop}

/-- The last step is one that the run has taken. -/
theorem Passed.now {history : List ι} {state next : σ} {input : ι}
    (past : Run step start history state) (last : step state input next)
    (holds : property history state input next) :
    Passed step property start (input :: history) next :=
  ⟨[], input, history, state, next, rfl, past, last, holds, .start⟩

/-- A step that was taken stays taken. -/
theorem Passed.later {history : List ι} {state next : σ} {input : ι}
    (passed : Passed step property start history state) (last : step state input next) :
    Passed step property start (input :: history) next := by
  rcases passed with ⟨recent, earlier, past, before, after, same, run, taken, holds, rest⟩
  refine ⟨input :: recent, earlier, past, before, after, ?_, run, taken, holds, .step rest last⟩
  rw [same, List.cons_append]

/-! ## Since the last reset -/

/-- The run has taken a step that has a property, and since then no step that resets. -/
def Since (step : σ → ι → σ → Prop) (resets property : σ → ι → σ → Prop) (start : σ)
    (history : List ι) (state : σ) : Prop :=
  ∃ recent input past before after, history = recent ++ input :: past ∧
    Run step start past before ∧ step before input after ∧ property before input after ∧
    Run (Restrict step fun state input next => ¬resets state input next) after recent state

variable {resets event : σ → ι → σ → Prop}

theorem Since.now {history : List ι} {state next : σ} {input : ι}
    (past : Run step start history state) (last : step state input next)
    (holds : event state input next) :
    Since step resets event start (input :: history) next :=
  ⟨[], input, history, state, next, rfl, past, last, holds, .start⟩

/-- What has been done stays done until a reset. -/
theorem Since.later {history : List ι} {state next : σ} {input : ι}
    (done : Since step resets event start history state) (last : step state input next)
    (goesOn : ¬resets state input next) :
    Since step resets event start (input :: history) next := by
  rcases done with ⟨recent, earlier, past, before, after, same, run, taken, holds, rest⟩
  refine ⟨input :: recent, earlier, past, before, after, ?_, run, taken, holds,
    .step rest ⟨last, goesOn⟩⟩
  rw [same, List.cons_append]

/-- The last step has done it, or it had been done before and was not reset. -/
theorem Since.last {history : List ι} {state : σ} {input : ι}
    (done : Since step resets event start (input :: history) state) :
    ∃ before, Run step start history before ∧ step before input state ∧
      (event before input state ∨
        ¬resets before input state ∧ Since step resets event start history before) := by
  rcases done with ⟨recent, earlier, past, before, after, same, run, taken, holds, rest⟩
  cases rest with
  | start =>
      cases same
      exact ⟨before, run, taken, .inl holds⟩
  | @step recent middle _ _ rest last =>
      cases same
      have done : Since step resets event start (recent ++ earlier :: past) middle :=
        ⟨recent, earlier, past, before, after, rfl, run, taken, holds, rest⟩
      have later : Run step after recent middle := rest.mono fun _ _ _ step => step.1
      exact ⟨middle, (Run.step run taken).append later, last.1, .inr ⟨last.2, done⟩⟩

end Transition
