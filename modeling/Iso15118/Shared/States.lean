import Mathlib.Algebra.Order.Field.Rat

/-!
# State objects

The attributes that `State` of `shared/states.py` gives to the states of both
sides. A prepared message stands for the V2GTP message that is built from it:
every message that passes its model is taken to be encodable.
-/

namespace Iso15118.Shared

universe u v w

/-- A class to go to next. -/
inductive NextState (ν : Type u) where
  | state (name : ν)
  | terminate
  | pause
  deriving DecidableEq

/-- A state object. `own` is its class with the attributes of that class. -/
structure StateObject (κ : Type u) (ν : Type v) (μ : Type w) where
  own : κ
  nextState : Option (NextState ν) := none
  nextV2gtpMsg : Option μ := none
  nextMsgTimeout : ℚ := 0
  deriving DecidableEq

variable {κ : Type u} {ν : Type v} {μ : Type w}

/-- `create_next_message`. -/
def StateObject.createNextMessage (object : StateObject κ ν μ)
    (nextState : Option (NextState ν)) (nextMsg : μ) (nextMsgTimeout : ℚ) :
    StateObject κ ν μ :=
  { object with
    nextState := nextState
    nextV2gtpMsg := some nextMsg
    nextMsgTimeout := nextMsgTimeout }

@[simp]
theorem StateObject.createNextMessage_nextV2gtpMsg (object : StateObject κ ν μ)
    (nextState : Option (NextState ν)) (nextMsg : μ) (nextMsgTimeout : ℚ) :
    (object.createNextMessage nextState nextMsg nextMsgTimeout).nextV2gtpMsg = some nextMsg :=
  rfl

inductive SessionStopAction where
  | terminate
  | pause
  deriving DecidableEq, Repr

/-- `StopNotification`. -/
structure StopNotification where
  successful : Bool
  stopAction : SessionStopAction := .terminate
  deriving DecidableEq

end Iso15118.Shared
