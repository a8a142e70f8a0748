import Iso15118.Library.Effect

/-!
# Two runs of a program

Programs are started in two states that are related. They end in the same way, with the same
value or the same exception, and in states that are related again: neither tells what the relation
leaves open.
-/

namespace Effect

universe u

variable {ε σ α β : Type u} {related : σ → σ → Prop} {left right : σ}

/-- The programs end alike. -/
def EndsAlike (related : σ → σ → Prop) (first second : EStateM ε σ α) (left right : σ) : Prop :=
  match first left, second right with
  | .ok value left, .ok value' right => value = value' ∧ related left right
  | .error exception left, .error exception' right => exception = exception' ∧ related left right
  | _, _ => False

theorem endsAlike_pure (value : α) (same : related left right) :
    EndsAlike related (pure value : EStateM ε σ α) (pure value) left right :=
  ⟨rfl, same⟩

theorem endsAlike_throw (exception : ε) (same : related left right) :
    EndsAlike related (throw exception : EStateM ε σ α) (throw exception) left right :=
  ⟨rfl, same⟩

theorem endsAlike_ofExcept (answer : Except ε α) (same : related left right) :
    EndsAlike related (ofExcept answer) (ofExcept answer) left right := by
  cases answer with
  | ok value => exact endsAlike_pure value same
  | error exception => exact endsAlike_throw exception same

theorem endsAlike_set {left' right' : σ} (same : related left' right') :
    EndsAlike related (set left' : EStateM ε σ PUnit) (set right') left right :=
  ⟨rfl, same⟩

theorem endsAlike_modify {change : σ → σ} (same : related (change left) (change right)) :
    EndsAlike related (modify change : EStateM ε σ PUnit) (modify change) left right :=
  ⟨rfl, same⟩

/-- Each program goes on with what it reads. -/
theorem endsAlike_get_bind {first second : σ → EStateM ε σ α}
    (reads : EndsAlike related (first left) (second right) left right) :
    EndsAlike related (get >>= first) (get >>= second) left right :=
  reads

/-- What comes first ends alike, and what follows does so from related states. -/
theorem endsAlike_bind {first second : EStateM ε σ β} {next next' : β → EStateM ε σ α}
    (before : EndsAlike related first second left right)
    (after : ∀ value left right, related left right →
      EndsAlike related (next value) (next' value) left right) :
    EndsAlike related (first >>= next) (second >>= next') left right := by
  unfold EndsAlike at before ⊢
  rw [bind_apply, bind_apply]
  cases ended : first left with
  | ok value reached =>
      cases ended' : second right with
      | ok value' reached' =>
          rw [ended, ended'] at before
          obtain ⟨rfl, same⟩ := before
          exact after value reached reached' same
      | error exception' reached' =>
          rw [ended, ended'] at before
          exact before.elim
  | error exception reached =>
      cases ended' : second right with
      | ok value' reached' =>
          rw [ended, ended'] at before
          exact before.elim
      | error exception' reached' =>
          rw [ended, ended'] at before
          exact before

theorem endsAlike_ite {condition : Prop} [Decidable condition]
    {yes yes' no no' : EStateM ε σ α}
    (holds : condition → EndsAlike related yes yes' left right)
    (fails : ¬condition → EndsAlike related no no' left right) :
    EndsAlike related (if condition then yes else no) (if condition then yes' else no') left
      right := by
  by_cases decided : condition
  · rw [if_pos decided, if_pos decided]
    exact holds decided
  · rw [if_neg decided, if_neg decided]
    exact fails decided

/-- Programs that are known to return. -/
theorem endsAlike_of_eq_ok {first second : EStateM ε σ α} {value : α} {left' right' : σ}
    (returned : first left = .ok value left') (returned' : second right = .ok value right')
    (same : related left' right') : EndsAlike related first second left right := by
  unfold EndsAlike
  rw [returned, returned']
  exact ⟨rfl, same⟩

end Effect
