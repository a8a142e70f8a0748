import Mathlib.Order.Defs.Unbundled

/-!
# Weakest preconditions for programs with state and exceptions

`EStateM ε σ` keeps the state that was reached when an exception is raised. The
weakest precondition of a program has one postcondition for each way it can
end.
-/

namespace Effect

universe u v

variable {ε σ τ α β : Type u}

/-- Started in `state`, the program ends with a result and a state that satisfy
`onOk`, or with an exception and a state that satisfy `onError`. -/
def wp (program : EStateM ε σ α) (onOk : α → σ → Prop) (onError : ε → σ → Prop)
    (state : σ) : Prop :=
  match program state with
  | .ok value next => onOk value next
  | .error exception next => onError exception next

variable {onOk : α → σ → Prop} {onError : ε → σ → Prop} {state : σ}

@[simp]
theorem wp_pure (value : α) : wp (pure value) onOk onError state = onOk value state :=
  rfl

@[simp]
theorem wp_throw (exception : ε) :
    wp (throw exception : EStateM ε σ α) onOk onError state = onError exception state :=
  rfl

@[simp]
theorem wp_bind (program : EStateM ε σ β) (next : β → EStateM ε σ α) :
    wp (program >>= next) onOk onError state =
      wp program (fun value => wp (next value) onOk onError) onError state := by
  simp only [wp, bind, EStateM.bind]
  cases program state with
  | ok value reached => rfl
  | error exception reached => rfl

@[simp]
theorem wp_map (program : EStateM ε σ β) (f : β → α) :
    wp (f <$> program) onOk onError state =
      wp program (fun value => onOk (f value)) onError state := by
  simp only [wp, Functor.map, EStateM.map]
  cases program state with
  | ok value reached => rfl
  | error exception reached => rfl

@[simp]
theorem wp_get {onOk : σ → σ → Prop} :
    wp (get : EStateM ε σ σ) onOk onError state = onOk state state :=
  rfl

@[simp]
theorem wp_modify {onOk : PUnit → σ → Prop} (change : σ → σ) :
    wp (modify change : EStateM ε σ PUnit) onOk onError state = onOk ⟨⟩ (change state) :=
  rfl

@[simp]
theorem wp_set {onOk : PUnit → σ → Prop} (changed : σ) :
    wp (set changed : EStateM ε σ PUnit) onOk onError state = onOk ⟨⟩ changed :=
  rfl

@[simp]
theorem wp_ite (condition : Prop) [Decidable condition] (yes no : EStateM ε σ α) :
    wp (if condition then yes else no) onOk onError state =
      if condition then wp yes onOk onError state else wp no onOk onError state := by
  split <;> rfl

/-- What a program that reads the state first does in a state. -/
theorem get_bind_apply (next : σ → EStateM ε σ α) : (get >>= next) state = next state state :=
  rfl

theorem pure_apply (value : α) : (pure value : EStateM ε σ α) state = .ok value state :=
  rfl

theorem modify_apply (change : σ → σ) :
    (modify change : EStateM ε σ PUnit) state = .ok ⟨⟩ (change state) :=
  rfl

/-- A program goes on with the result of its first part. -/
theorem bind_apply (program : EStateM ε σ β) (next : β → EStateM ε σ α) :
    (program >>= next) state =
      match program state with
      | .ok value reached => next value reached
      | .error exception reached => .error exception reached := by
  simp only [bind, EStateM.bind]
  cases program state with
  | ok value reached => rfl
  | error exception reached => rfl

/-- A handler goes on in the state that the exception has left. -/
theorem tryCatch_apply (program : EStateM ε σ α) (handle : ε → EStateM ε σ α) :
    (tryCatch program handle) state =
      match program state with
      | .ok value reached => .ok value reached
      | .error exception reached => handle exception reached := by
  change EStateM.tryCatch program handle state = _
  delta EStateM.tryCatch
  dsimp only
  cases program state with
  | ok value reached => rfl
  | error exception reached => rfl

/-- A program whose first part only changes the state goes on in the new one. -/
theorem modify_bind_apply (change : σ → σ) (next : PUnit → EStateM ε σ α) :
    (modify change >>= next) state = next ⟨⟩ (change state) :=
  rfl

/-- A stronger postcondition is established by whatever establishes it. -/
theorem wp_mono {program : EStateM ε σ α} {onOk' : α → σ → Prop} {onError' : ε → σ → Prop}
    (okWeaker : ∀ value next, onOk value next → onOk' value next)
    (errorWeaker : ∀ exception next, onError exception next → onError' exception next)
    (holds : wp program onOk onError state) : wp program onOk' onError' state := by
  unfold wp at *
  cases ended : program state with
  | ok value next =>
      rw [ended] at holds
      exact okWeaker value next holds
  | error exception next =>
      rw [ended] at holds
      exact errorWeaker exception next holds

/-- A program of which nothing is known establishes what holds however it ends. -/
theorem wp_of_forall {program : EStateM ε σ α} (ok : ∀ value next, onOk value next)
    (error : ∀ exception next, onError exception next) : wp program onOk onError state := by
  unfold wp
  cases program state with
  | ok value next => exact ok value next
  | error exception next => exact error exception next

/-- What a returning program has established. -/
theorem post_of_eq_ok {program : EStateM ε σ α} {value : α} {next : σ}
    (holds : wp program onOk onError state) (ended : program state = .ok value next) :
    onOk value next := by
  unfold wp at holds
  rw [ended] at holds
  exact holds

/-- A program that establishes nothing by an exception returns. -/
theorem eq_ok_of_wp {program : EStateM ε σ α}
    (holds : wp program onOk (fun _ _ => False) state) :
    ∃ value next, program state = .ok value next ∧ onOk value next := by
  unfold wp at holds
  cases ended : program state with
  | ok value next =>
      rw [ended] at holds
      exact ⟨value, next, rfl, holds⟩
  | error exception next =>
      rw [ended] at holds
      exact holds.elim

/-- Raise what an answer raises, and return what it returns. -/
def ofExcept (answer : Except ε α) : EStateM ε σ α :=
  match answer with
  | .ok value => pure value
  | .error exception => throw exception

@[simp]
theorem wp_ofExcept {answer : Except ε α} :
    wp (ofExcept answer) onOk onError state ↔
      (∀ value, answer = .ok value → onOk value state) ∧
        ∀ exception, answer = .error exception → onError exception state := by
  cases answer with
  | ok value => simp [ofExcept]
  | error exception => simp [ofExcept]

/-- A handler goes on in the state in which the exception was raised. -/
@[simp]
theorem wp_tryCatch (program : EStateM ε σ α) (handler : ε → EStateM ε σ α) :
    wp (tryCatch program handler) onOk onError state =
      wp program onOk (fun exception => wp (handler exception) onOk onError) state := by
  simp only [wp, tryCatch_apply]
  cases program state with
  | ok value reached => rfl
  | error exception reached => rfl

/-- What follows an answer goes on with its value, or raises what it raised. -/
@[simp]
theorem ok_bind (value : β) (next : β → Except ε α) : (.ok value >>= next) = next value :=
  rfl

@[simp]
theorem error_bind (exception : ε) (next : β → Except ε α) :
    (.error exception >>= next) = .error exception :=
  rfl

/-- A sequence of two answers succeeds when both do. -/
theorem bind_eq_ok_iff {first : Except ε β} {next : β → Except ε α} {value : α} :
    first >>= next = .ok value ↔ ∃ middle, first = .ok middle ∧ next middle = .ok value := by
  cases first with
  | error exception =>
      constructor
      · intro impossible
        cases impossible
      · rintro ⟨middle, impossible, _⟩
        cases impossible
  | ok middle =>
      constructor
      · intro rest
        exact ⟨middle, rfl, rest⟩
      · rintro ⟨middle', same, rest⟩
        cases same
        exact rest

theorem map_eq_ok_iff {answer : Except ε β} {f : β → α} {value : α} :
    answer.map f = .ok value ↔ ∃ result, answer = .ok result ∧ f result = value := by
  cases answer with
  | error exception => simp [Except.map]
  | ok result => simp [Except.map]

theorem pure_eq_ok_iff {result value : α} :
    (pure result : Except ε α) = .ok value ↔ result = value := by
  constructor
  · intro same
    cases same
    rfl
  · rintro rfl
    rfl

/-- Run a program on a part of the state. -/
def zoom (part : σ → τ) (restore : τ → σ → σ) (program : EStateM ε τ α) : EStateM ε σ α :=
  fun state =>
    match program (part state) with
    | .ok value inner => .ok value (restore inner state)
    | .error exception inner => .error exception (restore inner state)

@[simp]
theorem wp_zoom (part : σ → τ) (restore : τ → σ → σ) (program : EStateM ε τ α) :
    wp (zoom part restore program) onOk onError state =
      wp program (fun value inner => onOk value (restore inner state))
        (fun exception inner => onError exception (restore inner state)) (part state) := by
  simp only [wp, zoom]
  cases program (part state) with
  | ok value inner => rfl
  | error exception inner => rfl

/-! ## Programs that return -/

/-- Started in `state`, the program does not raise, and its result and the state it
ends in satisfy `post`. -/
def returns (program : EStateM ε σ α) (post : α → σ → Prop) (state : σ) : Prop :=
  wp program post (fun _ _ => False) state

section Returns

variable {post : α → σ → Prop}

@[simp]
theorem returns_pure (value : α) :
    returns (pure value : EStateM ε σ α) post state = post value state :=
  rfl

@[simp]
theorem returns_throw (exception : ε) :
    returns (throw exception : EStateM ε σ α) post state = False :=
  rfl

@[simp]
theorem returns_bind (program : EStateM ε σ β) (next : β → EStateM ε σ α) :
    returns (program >>= next) post state =
      returns program (fun value => returns (next value) post) state :=
  wp_bind program next

@[simp]
theorem returns_map (program : EStateM ε σ β) (f : β → α) :
    returns (f <$> program) post state =
      returns program (fun value => post (f value)) state :=
  wp_map program f

@[simp]
theorem returns_get {post : σ → σ → Prop} :
    returns (get : EStateM ε σ σ) post state = post state state :=
  rfl

@[simp]
theorem returns_modify {post : PUnit → σ → Prop} (change : σ → σ) :
    returns (modify change : EStateM ε σ PUnit) post state = post ⟨⟩ (change state) :=
  rfl

@[simp]
theorem returns_ite (condition : Prop) [Decidable condition] (yes no : EStateM ε σ α) :
    returns (if condition then yes else no) post state =
      if condition then returns yes post state else returns no post state :=
  wp_ite condition yes no

@[simp]
theorem returns_ofExcept {answer : Except ε α} :
    returns (ofExcept answer) post state ↔ ∃ value, answer = .ok value ∧ post value state := by
  cases answer with
  | ok value => simp [returns]
  | error exception => simp [returns]

/-- A handler runs when the program has raised. -/
theorem returns_tryCatch (program : EStateM ε σ α) (handler : ε → EStateM ε σ α) :
    returns (tryCatch program handler) post state =
      wp program post (fun exception => returns (handler exception) post) state :=
  wp_tryCatch program handler

theorem returns_zoom (part : σ → τ) (restore : τ → σ → σ) (program : EStateM ε τ α) :
    returns (zoom part restore program) post state =
      returns program (fun value inner => post value (restore inner state)) (part state) :=
  wp_zoom part restore program

theorem returns_congr_post (post' : α → σ → Prop) {program : EStateM ε σ α}
    (same : ∀ value next, post value next ↔ post' value next) :
    returns program post state ↔ returns program post' state := by
  unfold returns wp
  cases program state with
  | ok value next => exact same value next
  | error exception next => exact Iff.rfl

/-- What does not depend on the run can be asked before it. -/
theorem returns_and_iff {condition : Prop} {program : EStateM ε σ α} :
    returns program (fun value next => condition ∧ post value next) state ↔
      condition ∧ returns program post state := by
  unfold returns wp
  cases program state with
  | ok value next => exact Iff.rfl
  | error exception next => simp

theorem returns_of_eq_ok {program : EStateM ε σ α} {value : α} {next : σ}
    (ended : program state = .ok value next) (holds : post value next) :
    returns program post state := by
  unfold returns wp
  rw [ended]
  exact holds

theorem returns_congr {program other : EStateM ε σ α} (same : program state = other state) :
    returns program post state ↔ returns other post state := by
  unfold returns wp
  rw [same]

theorem not_returns_of_eq_error {program : EStateM ε σ α} {exception : ε} {next : σ}
    (ended : program state = .error exception next) : ¬returns program post state := by
  unfold returns wp
  rw [ended]
  exact id

end Returns

/-- Whether an answer is one. -/
theorem isOk_iff {answer : Except ε α} : answer.isOk = true ↔ ∃ value, answer = .ok value := by
  cases answer with
  | ok value => simp [Except.isOk, Except.toBool]
  | error exception => simp [Except.isOk, Except.toBool]

/-- A check passes exactly under its condition. -/
theorem exists_ite_ok_iff {ε : Type u} {α : Type v} {condition : Prop} [Decidable condition]
    {value : α} {exception : ε} :
    (∃ result, (if condition then Except.ok value else .error exception) = .ok result) ↔
      condition := by
  by_cases passes : condition
  · simp [passes]
  · simp [passes]

/-! ## Programs that keep a relation to the state they started in -/

/-- However the program ends, the state it reaches is related to its start. -/
structure Keeps (relation : σ → σ → Prop) (program : EStateM ε σ α) : Prop where
  related : ∀ state, wp program (fun _ next => relation state next)
    (fun _ next => relation state next) state

/-- The program, started in `state`, reaches `next`, with a result or with an
exception. -/
def Reaches (program : EStateM ε σ α) (state next : σ) : Prop :=
  (∃ value, program state = .ok value next) ∨ ∃ exception, program state = .error exception next

theorem Reaches.post {program : EStateM ε σ α} {state next : σ} {property : σ → Prop}
    (reaches : Reaches program state next)
    (holds : wp program (fun _ => property) (fun _ => property) state) : property next := by
  unfold wp at holds
  rcases reaches with ⟨value, ended⟩ | ⟨exception, ended⟩
  · rw [ended] at holds
    exact holds
  · rw [ended] at holds
    exact holds

theorem Keeps.of_reaches {relation : σ → σ → Prop} {program : EStateM ε σ α} {state next : σ}
    (keeps : Keeps relation program) (reaches : Reaches program state next) :
    relation state next :=
  reaches.post (keeps.related state)

section Keeps

variable {relation : σ → σ → Prop} [IsPreorder σ relation]

theorem keeps_pure (value : α) : Keeps relation (pure value : EStateM ε σ α) :=
  ⟨fun state => refl state⟩

theorem keeps_throw (exception : ε) : Keeps relation (throw exception : EStateM ε σ α) :=
  ⟨fun state => refl state⟩

theorem keeps_get : Keeps relation (get : EStateM ε σ σ) :=
  ⟨fun state => refl state⟩

theorem keeps_ofExcept (answer : Except ε α) : Keeps relation (ofExcept answer) := by
  cases answer with
  | ok value => exact keeps_pure value
  | error exception => exact keeps_throw exception

theorem keeps_bind {program : EStateM ε σ β} {next : β → EStateM ε σ α}
    (first : Keeps relation program) (second : ∀ value, Keeps relation (next value)) :
    Keeps relation (program >>= next) := by
  constructor
  intro state
  rw [wp_bind]
  apply wp_mono _ _ (first.related state)
  · intro value middle related
    apply wp_mono _ _ ((second value).related middle)
    · intro _ last related'
      exact IsTrans.trans _ _ _ related related'
    · intro _ last related'
      exact IsTrans.trans _ _ _ related related'
  · intro _ middle related
    exact related

/-- What a program returns is what its last part returns. -/
theorem returned_bind_of {program : EStateM ε σ β} {next : β → EStateM ε σ α}
    {known : β → Prop} {good : α → Prop}
    (first : ∀ state, wp program (fun value _ => known value) (fun _ _ => True) state)
    (last : ∀ value, known value → ∀ state,
      wp (next value) (fun value _ => good value) (fun _ _ => True) state) (state : σ) :
    wp (program >>= next) (fun value _ => good value) (fun _ _ => True) state := by
  rw [wp_bind]
  apply wp_mono _ _ (first state)
  · exact fun value middle holds => last value holds middle
  · exact fun _ _ holds => holds

theorem returned_bind {program : EStateM ε σ β} {next : β → EStateM ε σ α} {good : α → Prop}
    (last : ∀ value state, wp (next value) (fun value _ => good value) (fun _ _ => True) state)
    (state : σ) :
    wp (program >>= next) (fun value _ => good value) (fun _ _ => True) state := by
  rw [wp_bind]
  exact wp_of_forall last fun _ _ => trivial

theorem returned_tryCatch {program : EStateM ε σ α} {handler : ε → EStateM ε σ α}
    {good : α → Prop}
    (first : ∀ state, wp program (fun value _ => good value) (fun _ _ => True) state)
    (second : ∀ exception state,
      wp (handler exception) (fun value _ => good value) (fun _ _ => True) state)
    (state : σ) :
    wp (tryCatch program handler) (fun value _ => good value) (fun _ _ => True) state := by
  rw [wp_tryCatch]
  apply wp_mono _ _ (first state)
  · exact fun _ _ holds => holds
  · exact fun exception next _ => second exception next

/-- What the first program returns is known when the second one starts. -/
theorem keeps_bind_of {program : EStateM ε σ β} {next : β → EStateM ε σ α} {good : β → Prop}
    (first : Keeps relation program)
    (returned : ∀ state, wp program (fun value _ => good value) (fun _ _ => True) state)
    (second : ∀ value, good value → Keeps relation (next value)) :
    Keeps relation (program >>= next) := by
  constructor
  intro state
  have related := first.related state
  have holds := returned state
  rw [wp_bind]
  unfold wp at related holds ⊢
  cases ended : program state with
  | error exception middle =>
      rw [ended] at related
      exact related
  | ok value middle =>
      rw [ended] at related holds
      apply wp_mono _ _ ((second value holds).related middle)
      · intro _ last related'
        exact IsTrans.trans _ _ _ related related'
      · intro _ last related'
        exact IsTrans.trans _ _ _ related related'

theorem keeps_tryCatch {program : EStateM ε σ α} {handler : ε → EStateM ε σ α}
    (first : Keeps relation program) (second : ∀ exception, Keeps relation (handler exception)) :
    Keeps relation (tryCatch program handler) := by
  constructor
  intro state
  rw [wp_tryCatch]
  apply wp_mono _ _ (first.related state)
  · intro _ middle related
    exact related
  · intro exception middle related
    apply wp_mono _ _ ((second exception).related middle)
    · intro _ last related'
      exact IsTrans.trans _ _ _ related related'
    · intro _ last related'
      exact IsTrans.trans _ _ _ related related'

/-- A program that keeps a relation goes on from a state that is related already. -/
theorem Keeps.wp_after {program : EStateM ε σ α} {start : σ} (keeps : Keeps relation program)
    (earlier : relation start state) :
    wp program (fun _ next => relation start next) (fun _ next => relation start next) state := by
  apply wp_mono _ _ (keeps.related state)
  · intro _ next later
    exact IsTrans.trans _ _ _ earlier later
  · intro _ next later
    exact IsTrans.trans _ _ _ earlier later

omit [IsPreorder σ relation] in
theorem keeps_modify {change : σ → σ} (related : ∀ state, relation state (change state)) :
    Keeps relation (modify change : EStateM ε σ PUnit) :=
  ⟨related⟩

omit [IsPreorder σ relation] in
theorem keeps_zoom {part : σ → τ} {restore : τ → σ → σ} {program : EStateM ε τ α}
    (related : ∀ inner state, relation state (restore inner state)) :
    Keeps relation (zoom part restore program) := by
  constructor
  intro state
  simp only [wp, zoom]
  cases program (part state) with
  | ok value inner => exact related inner state
  | error exception inner => exact related inner state

theorem keeps_forM {items : List β} {body : β → EStateM ε σ PUnit}
    (each : ∀ item, Keeps relation (body item)) : Keeps relation (items.forM body) := by
  induction items with
  | nil => exact keeps_pure _
  | cons item items ih => exact keeps_bind (each item) fun _ => ih

end Keeps

/-- The states look the same to an observer. -/
def Same (observe : σ → τ) (before after : σ) : Prop :=
  observe after = observe before

instance (observe : σ → τ) : IsPreorder σ (Same observe) where
  refl _ := rfl
  trans _ _ _ first second := second.trans first

/-- What a program that leaves an observation as it is returns with. -/
theorem Keeps.wp_same {observe : σ → τ} {program : EStateM ε σ α}
    (keeps : Keeps (Same observe) program) {seen : τ} (before : observe state = seen) :
    wp program (fun _ next => observe next = seen) (fun _ next => observe next = seen) state := by
  apply wp_mono _ _ (keeps.related state)
  · intro _ next same
    exact same.trans before
  · intro _ next same
    exact same.trans before

end Effect
