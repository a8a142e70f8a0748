import Mathlib.Logic.Function.Basic

/-!
# Objects that are shared by reference

A heap of the objects of one class. An address is a reference: who has it sees what is
written there.
-/

/-- Every address has an object, and those below `size` have been given away. -/
structure Heap (α : Type) where
  read : Nat → α
  size : Nat

namespace Heap

variable {α : Type} {heap : Heap α} {address : Nat} {object : α}

/-- A heap with one object, at the address zero. -/
def singleton (object : α) : Heap α :=
  ⟨fun _ => object, 1⟩

/-- A new object, at the address `heap.size`. -/
def new (heap : Heap α) (object : α) : Heap α :=
  ⟨Function.update heap.read heap.size object, heap.size + 1⟩

def write (heap : Heap α) (address : Nat) (object : α) : Heap α :=
  { heap with read := Function.update heap.read address object }

@[simp]
theorem read_new : (heap.new object).read heap.size = object :=
  Function.update_self _ _ _

@[simp]
theorem read_write : (heap.write address object).read address = object :=
  Function.update_self _ _ _

theorem read_new_of_ne {other : Nat} (different : other ≠ heap.size) :
    (heap.new object).read other = heap.read other :=
  Function.update_of_ne different _ _

theorem read_write_of_ne {other : Nat} (different : other ≠ address) :
    (heap.write address object).read other = heap.read other :=
  Function.update_of_ne different _ _

end Heap
