import Iso15118.Library.Run
import Mathlib.Order.Defs.PartialOrder

/-!
# A timer that phases share

A system goes through phases, some of them timed. They have one timer between them, which the
first step that stays in a phase sets to what a clock shows, and which a step that leaves a
phase sets back.
-/

namespace Transition

universe u v w x

/-- How a timer is read. `finished` are states after which there is no timed phase any more. -/
structure SharedTimer (σ : Type u) (ι : Type v) (κ : Type w) (τ : Type x) where
  /-- What the clock shows while an input is taken. -/
  now : ι → Option τ
  timer : σ → τ
  /-- The timer has been set back. -/
  idle : τ
  runs : τ → Prop
  /-- The timed phase that a state is in. -/
  phase : σ → Option κ
  finished : σ → Prop

namespace SharedTimer

variable {σ : Type u} {ι : Type v} {κ : Type w} {τ : Type x}

section

variable (shared : SharedTimer σ ι κ τ)

/-- What the clock has shown, the newest first. -/
def readings (history : List ι) : List τ :=
  history.filterMap shared.now

/-- The clock has never gone back, and a timer that shows one of its readings runs. -/
structure Clock [Preorder τ] (history : List ι) : Prop where
  forward : (shared.readings history).Pairwise (· ≥ ·)
  running : ∀ time ∈ shared.readings history, shared.runs time

/-- The step is one of a visit to the phase. -/
def In (phase : κ) (state : σ) (_ : ι) (_ : σ) : Prop :=
  shared.phase state = some phase

/-- What the steps do with the timer. -/
structure Kept (step : σ → ι → σ → Prop) : Prop where
  starts : ∀ {state input next phase}, step state input next → shared.phase state = some phase →
    shared.phase next = some phase → shared.timer state = shared.idle →
    shared.now input = some (shared.timer next)
  goesOn : ∀ {state input next phase}, step state input next → shared.phase state = some phase →
    shared.phase next = some phase → shared.runs (shared.timer state) →
    shared.timer next = shared.timer state
  leaves : ∀ {state input next phase}, step state input next → shared.phase state = some phase →
    shared.phase next ≠ some phase → shared.timer next = shared.idle ∨ shared.finished next
  elsewhere : ∀ {state input next}, step state input next → shared.phase state = none →
    ¬shared.finished state → shared.timer next = shared.timer state ∨ shared.finished next
  stays : ∀ {state input next}, step state input next → shared.finished state → shared.finished next
  untimed : ∀ {state}, shared.finished state → shared.phase state = none

/-- The timer shows nothing that the clock has not shown, as long as it matters. -/
def Shows (history : List ι) (state : σ) : Prop :=
  shared.finished state ∨ shared.timer state = shared.idle ∨
    shared.timer state ∈ shared.readings history

end

variable {shared : SharedTimer σ ι κ τ} {step : σ → ι → σ → Prop} {start : σ}

theorem readings_cons (input : ι) (history : List ι) :
    shared.readings (input :: history) =
      (shared.now input).toList ++ shared.readings history := by
  unfold readings
  rw [List.filterMap_cons]
  cases shared.now input <;> rfl

theorem mem_readings_cons {input : ι} {history : List ι} {time : τ} :
    time ∈ shared.readings (input :: history) ↔
      shared.now input = some time ∨ time ∈ shared.readings history := by
  simp [readings_cons]

theorem readings_append (recent past : List ι) :
    shared.readings (recent ++ past) = shared.readings recent ++ shared.readings past :=
  List.filterMap_append

section

variable (kept : shared.Kept step)

include kept

/-- Outside the timed phases the timer does not run. -/
theorem Kept.idle_of_untimed (initial : shared.timer start = shared.idle) {history : List ι}
    {state : σ} (run : Run step start history state) (untimed : shared.phase state = none)
    (goesOn : ¬shared.finished state) : shared.timer state = shared.idle := by
  induction run with
  | start => exact initial
  | @step _ state next _ _ last ih =>
      have before : ¬shared.finished state := fun ended => goesOn (kept.stays last ended)
      cases inPhase : shared.phase state with
      | none =>
          have same := (kept.elsewhere last inPhase before).resolve_right goesOn
          exact same.trans (ih inPhase before)
      | some phase =>
          have leaves : shared.phase next ≠ some phase := by
            rw [untimed]
            exact nofun
          exact (kept.leaves last inPhase leaves).resolve_right goesOn

/-- Time that is spent elsewhere is not charged to a phase. -/
theorem Kept.idle_of_enters (initial : shared.timer start = shared.idle) {history : List ι}
    {state next : σ} {input : ι} {phase : κ} (run : Run step start history state)
    (last : step state input next) (outside : shared.phase state ≠ some phase)
    (enters : shared.phase next = some phase) : shared.timer next = shared.idle := by
  have goesOn : ¬shared.finished next := by
    intro ended
    rw [kept.untimed ended] at enters
    cases enters
  cases inPhase : shared.phase state with
  | some other =>
      rw [inPhase] at outside
      have leaves : shared.phase next ≠ some other := by
        rw [enters]
        exact fun same => outside same.symm
      exact (kept.leaves last inPhase leaves).resolve_right goesOn
  | none =>
      have before : ¬shared.finished state := fun ended => goesOn (kept.stays last ended)
      have same := (kept.elsewhere last inPhase before).resolve_right goesOn
      exact same.trans (kept.idle_of_untimed initial run inPhase before)

end

variable [Preorder τ]

/-- A clock that is right has been right before. -/
theorem Clock.past (recent : List ι) {past : List ι} (clock : shared.Clock (recent ++ past)) :
    shared.Clock past := by
  obtain ⟨forward, running⟩ := clock
  rw [readings_append] at forward running
  constructor
  · exact (List.pairwise_append.mp forward).2.1
  · intro time shown
    exact running time (List.mem_append_right _ shown)

/-- What the clock shows now is no earlier than what it has shown. -/
theorem Clock.le_now {input : ι} {past : List ι} (clock : shared.Clock (input :: past))
    {time now : τ} (reads : shared.now input = some now) (shown : time ∈ shared.readings past) :
    time ≤ now := by
  have forward := clock.forward
  rw [readings_cons, reads] at forward
  exact (List.pairwise_append.mp forward).2.2 now (by simp) time shown

section

variable (kept : shared.Kept step)

include kept

theorem Kept.shows_step {history : List ι} {state next : σ} {input : ι}
    (clock : shared.Clock (input :: history)) (shows : shared.Shows history state)
    (last : step state input next) : shared.Shows (input :: history) next := by
  obtain ended | shows := shows
  · exact .inl (kept.stays last ended)
  · have shows' : shared.timer state = shared.idle ∨
        shared.timer state ∈ shared.readings (input :: history) :=
      shows.imp_right fun shown => mem_readings_cons.mpr (.inr shown)
    cases inPhase : shared.phase state with
    | none =>
        by_cases ended : shared.finished state
        · exact .inl (kept.stays last ended)
        · obtain same | ended := kept.elsewhere last inPhase ended
          · rw [← same] at shows'
            exact .inr shows'
          · exact .inl ended
    | some phase =>
        by_cases remains : shared.phase next = some phase
        · obtain idle | shown := shows'
          · have reads := kept.starts last inPhase remains idle
            exact .inr (.inr (mem_readings_cons.mpr (.inl reads)))
          · have same := kept.goesOn last inPhase remains (clock.running _ shown)
            rw [← same] at shown
            exact .inr (.inr shown)
        · obtain idle | ended := kept.leaves last inPhase remains
          · exact .inr (.inl idle)
          · exact .inl ended

theorem Kept.shows (initial : shared.timer start = shared.idle) {history : List ι} {state : σ}
    (clock : shared.Clock history) (run : Run step start history state) :
    shared.Shows history state := by
  induction run with
  | start => exact .inr (.inl initial)
  | @step history _ _ input _ last ih =>
      have past : shared.Clock history := clock.past [input]
      exact kept.shows_step clock (ih past) last

/-- Once a visit to a phase has gone on at some reading, the timer runs, and it has been started
no later than at that reading. -/
theorem Kept.started {entered last : σ} {past recent : List ι} {opening : ι} {now : τ} {phase : κ}
    (clock : shared.Clock (opening :: past)) (reads : shared.now opening = some now)
    (shows : shared.Shows past entered)
    (visit : Run (Restrict step (shared.In phase)) entered (recent ++ [opening]) last)
    (remains : shared.phase last = some phase) :
    shared.runs (shared.timer last) ∧ shared.timer last ≤ now := by
  have runs_of_shown : ∀ {time : τ}, time ∈ shared.readings (opening :: past) →
      shared.runs time := fun shown => clock.running _ shown
  induction recent generalizing last with
  | nil =>
      cases visit with
      | step first taken =>
          cases first
          obtain ⟨taken, inside⟩ := taken
          obtain ended | idle | shown := shows
          · cases (kept.untimed ended).symm.trans inside
          · have starts := kept.starts taken inside remains idle
            cases reads.symm.trans starts
            exact ⟨runs_of_shown (mem_readings_cons.mpr (.inl reads)), le_refl _⟩
          · have runs := runs_of_shown (mem_readings_cons.mpr (.inr shown))
            rw [kept.goesOn taken inside remains runs]
            exact ⟨runs, clock.le_now reads shown⟩
  | cons input recent ih =>
      cases visit with
      | step earlier taken =>
          obtain ⟨taken, inside⟩ := taken
          obtain ⟨runs, started⟩ := ih earlier inside
          rw [kept.goesOn taken inside remains runs]
          exact ⟨runs, started⟩

end

end SharedTimer

end Transition
