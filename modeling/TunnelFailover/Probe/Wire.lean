/-!
This file defines numbers as runs of bytes, the most significant byte first.
-/

namespace TunnelFailover.Wire

/-- The last bytes of a number, the most significant one first. -/
def ofNat : (width : Nat) → Nat → List UInt8
  | 0, _ => []
  | width + 1, value => UInt8.ofNat (value / Nat.pow 256 width) :: ofNat width value

/-- The number that a run of bytes stands for. -/
def toNat (bytes : List UInt8) : Nat :=
  bytes.foldl (fun value byte => value * 256 + byte.toNat) 0

/-- A signed number is written as its remainder by the number of words. -/
def ofInt (width : Nat) (value : Int) : List UInt8 :=
  ofNat width (value % (Nat.pow 256 width : Nat)).toNat

/-- The upper half of the words stands for negative numbers. -/
def toInt (bytes : List UInt8) : Int :=
  Int.bmod (toNat bytes) (Nat.pow 256 bytes.length)

@[simp]
theorem length_ofNat (width value : Nat) : (ofNat width value).length = width := by
  induction width with
  | zero => rfl
  | succ width inductionHypothesis => simp [ofNat, inductionHypothesis]

@[simp]
theorem length_ofInt (width : Nat) (value : Int) : (ofInt width value).length = width :=
  length_ofNat ..

end TunnelFailover.Wire
