import Iso15118.Library.Effect

/-!
# Programs that maintain an invariant

A program that is started where an invariant holds leaves it true, whether it returns or raises, and
what it returns is good. Unlike a relation between the first state and the last, an invariant tells
what is read from the state on the way.
-/

namespace Effect

universe u

variable {ε σ α β : Type u} {invariant : σ → Prop} {good : α → Prop}

/-- However the program ends, the invariant holds. It returns good values only. -/
structure Maintains (invariant : σ → Prop) (program : EStateM ε σ α)
    (good : α → Prop := fun _ => True) : Prop where
  holds : ∀ state, invariant state →
    wp program (fun value next => good value ∧ invariant next) (fun _ next => invariant next) state

theorem maintains_pure {value : α} (isGood : good value) :
    Maintains invariant (pure value : EStateM ε σ α) good :=
  ⟨fun _ holds => ⟨isGood, holds⟩⟩

theorem maintains_throw (exception : ε) :
    Maintains invariant (throw exception : EStateM ε σ α) good :=
  ⟨fun _ holds => holds⟩

theorem maintains_get : Maintains invariant (get : EStateM ε σ σ) invariant :=
  ⟨fun _ holds => ⟨holds, holds⟩⟩

theorem maintains_ofExcept (answer : Except ε α) :
    Maintains invariant (ofExcept answer) fun value => answer = .ok value := by
  cases answer with
  | ok value => exact maintains_pure rfl
  | error exception => exact maintains_throw exception

theorem maintains_modify {change : σ → σ}
    (kept : ∀ state, invariant state → invariant (change state)) :
    Maintains invariant (modify change : EStateM ε σ PUnit) :=
  ⟨fun state holds => ⟨trivial, kept state holds⟩⟩

/-- What the first program returns is good when the second one starts. -/
theorem maintains_bind {program : EStateM ε σ β} {next : β → EStateM ε σ α} {known : β → Prop}
    (first : Maintains invariant program known)
    (second : ∀ value, known value → Maintains invariant (next value) good) :
    Maintains invariant (program >>= next) good := by
  constructor
  intro state holds
  rw [wp_bind]
  apply wp_mono _ _ (first.holds state holds)
  · exact fun value middle both => (second value both.1).holds middle both.2
  · exact fun _ _ kept => kept

/-- The invariant tells of the state that is read. -/
theorem maintains_get_bind {next : σ → EStateM ε σ α}
    (reads : ∀ state, invariant state → Maintains invariant (next state) good) :
    Maintains invariant (get >>= next) good :=
  maintains_bind maintains_get reads

theorem maintains_tryCatch {program : EStateM ε σ α} {handler : ε → EStateM ε σ α}
    (first : Maintains invariant program good)
    (second : ∀ exception, Maintains invariant (handler exception) good) :
    Maintains invariant (tryCatch program handler) good := by
  constructor
  intro state holds
  rw [wp_tryCatch]
  apply wp_mono _ _ (first.holds state holds)
  · exact fun _ _ both => both
  · exact fun exception middle kept => (second exception).holds middle kept

theorem maintains_forM {items : List β} {body : β → EStateM ε σ PUnit}
    (each : ∀ item, Maintains invariant (body item)) : Maintains invariant (items.forM body) := by
  induction items with
  | nil => exact maintains_pure trivial
  | cons item items ih => exact maintains_bind (each item) fun _ _ => ih

/-- A program that returns has kept the invariant. -/
theorem Maintains.of_eq_ok {program : EStateM ε σ α} {value : α} {state next : σ}
    (maintains : Maintains invariant program) (holds : invariant state)
    (returned : program state = .ok value next) : invariant next := by
  have kept := maintains.holds state holds
  unfold wp at kept
  rw [returned] at kept
  exact kept.2

end Effect
