import Mathlib.Algebra.Ring.Nat
import Mathlib.Data.List.Induction

/-!
# Numbers in network byte order

A number is written with a fixed number of bytes, the most significant one first.
-/

namespace BigEndian

/-- The last bytes of a number, as many as `width` says. -/
def toBytes : Nat → Nat → List UInt8
  | 0, _ => []
  | width + 1, number => toBytes width (number / 256) ++ [UInt8.ofNat (number % 256)]

/-- The number that the bytes stand for. -/
def ofBytes (bytes : List UInt8) : Nat :=
  bytes.foldl (fun number byte => 256 * number + byte.toNat) 0

@[simp]
theorem length_toBytes (width number : Nat) : (toBytes width number).length = width := by
  induction width generalizing number with
  | zero => rfl
  | succ width ih => simp [toBytes, ih]

@[simp]
theorem ofBytes_append_singleton (bytes : List UInt8) (byte : UInt8) :
    ofBytes (bytes ++ [byte]) = 256 * ofBytes bytes + byte.toNat := by
  simp [ofBytes]

/-- Reading back keeps what fits into the bytes. -/
theorem ofBytes_toBytes (width number : Nat) :
    ofBytes (toBytes width number) = number % 256 ^ width := by
  induction width generalizing number with
  | zero => simp [toBytes, ofBytes, Nat.mod_one]
  | succ width ih =>
      have last : (UInt8.ofNat (number % 256)).toNat = number % 256 := by simp
      rw [toBytes, ofBytes_append_singleton, ih, last, pow_succ', Nat.mod_mul, Nat.add_comm]

theorem ofBytes_toBytes_of_lt {width number : Nat} (fits : number < 256 ^ width) :
    ofBytes (toBytes width number) = number := by
  rw [ofBytes_toBytes, Nat.mod_eq_of_lt fits]

/-- Writing down what has been read gives the bytes again. -/
theorem toBytes_ofBytes (bytes : List UInt8) : toBytes bytes.length (ofBytes bytes) = bytes := by
  induction bytes using List.reverseRecOn with
  | nil => rfl
  | append_singleton bytes byte ih =>
      have bound : byte.toNat < 256 := byte.toNat_lt
      have front : (256 * ofBytes bytes + byte.toNat) / 256 = ofBytes bytes := by omega
      have last : (256 * ofBytes bytes + byte.toNat) % 256 = byte.toNat := by omega
      rw [List.length_append, List.length_singleton, toBytes, ofBytes_append_singleton, front, last,
        ih, UInt8.ofNat_toNat]

theorem ofBytes_lt (bytes : List UInt8) : ofBytes bytes < 256 ^ bytes.length := by
  induction bytes using List.reverseRecOn with
  | nil => simp [ofBytes]
  | append_singleton bytes byte ih =>
      have bound : byte.toNat < 256 := byte.toNat_lt
      rw [ofBytes_append_singleton, List.length_append, List.length_singleton, pow_succ]
      omega

end BigEndian
