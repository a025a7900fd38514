import TunnelFailover.Probe.Wire
import Mathlib.Data.Int.Basic
import Mathlib.Tactic.Ring
/-!
This file shows that a run of bytes and the number it stands for determine each other, for plain and
for signed numbers.
-/

namespace TunnelFailover.Wire

/-- The first byte of a run counts the most. -/
theorem toNat_cons (byte : UInt8) (bytes : List UInt8) :
    toNat (byte :: bytes) = byte.toNat * Nat.pow 256 bytes.length + toNat bytes := by
  have shifted (start : Nat) : bytes.foldl (fun value byte => value * 256 + byte.toNat) start =
      start * 256 ^ bytes.length + toNat bytes := by
    unfold toNat
    induction bytes generalizing start with
    | nil => simp
    | cons head rest inductionHypothesis =>
      rw [List.foldl_cons, List.foldl_cons, inductionHypothesis,
        inductionHypothesis (0 * 256 + head.toNat), List.length_cons, pow_succ]
      ring
  rw [toNat, List.foldl_cons, shifted]
  simp

/-- A run of bytes stands for a number that it has room for. -/
theorem toNat_lt (bytes : List UInt8) : toNat bytes < Nat.pow 256 bytes.length := by
  induction bytes with
  | nil => exact Nat.one_pos
  | cons byte rest inductionHypothesis =>
    have small : byte.toNat + 1 ≤ 256 := byte.toNat_lt
    rw [toNat_cons, List.length_cons]
    calc byte.toNat * Nat.pow 256 rest.length + toNat rest
        < (byte.toNat + 1) * Nat.pow 256 rest.length := by
          rw [Nat.add_one_mul]
          exact Nat.add_lt_add_left inductionHypothesis _
      _ ≤ 256 * Nat.pow 256 rest.length := Nat.mul_le_mul_right _ small
      _ = Nat.pow 256 (rest.length + 1) := (Nat.pow_succ' ..).symm

/-- A number is read back from its bytes up to a multiple of what they have room for. -/
theorem toNat_ofNat (width value : Nat) : toNat (ofNat width value) = value % Nat.pow 256 width := by
  induction width with
  | zero => exact (Nat.mod_one value).symm
  | succ width inductionHypothesis =>
    rw [ofNat, toNat_cons, length_ofNat, inductionHypothesis, UInt8.toNat_ofNat']
    have split := Nat.mod_mul (x := value) (a := Nat.pow 256 width) (b := 256)
    rw [show Nat.pow 256 (width + 1) = Nat.pow 256 width * 256 from Nat.pow_succ .., split,
      Nat.mul_comm, Nat.add_comm]

/-- The higher bytes of a number do not show in the lower ones. -/
theorem ofNat_add (width value more : Nat) :
    ofNat width (more * Nat.pow 256 width + value) = ofNat width value := by
  induction width generalizing more with
  | zero => rfl
  | succ width inductionHypothesis =>
    have apart : more * Nat.pow 256 (width + 1) + value =
        more * 256 * Nat.pow 256 width + value := by
      rw [show Nat.pow 256 (width + 1) = 256 * Nat.pow 256 width from Nat.pow_succ' ..,
        Nat.mul_assoc]
    have room : 0 < Nat.pow 256 width := Nat.pow_pos (by decide)
    rw [ofNat, ofNat, apart, inductionHypothesis, Nat.add_comm, Nat.add_mul_div_right _ _ room]
    congr 1
    apply UInt8.toNat_inj.1
    rw [UInt8.toNat_ofNat', UInt8.toNat_ofNat', Nat.add_mul_mod_self_right]

/-- A run of bytes is the one that its number is written as. -/
theorem ofNat_toNat (bytes : List UInt8) : ofNat bytes.length (toNat bytes) = bytes := by
  induction bytes with
  | nil => rfl
  | cons byte rest inductionHypothesis =>
    have room : 0 < Nat.pow 256 rest.length := Nat.pow_pos (by decide)
    rw [List.length_cons, ofNat, toNat_cons, ofNat_add, inductionHypothesis, Nat.add_comm,
      Nat.add_mul_div_right _ _ room, Nat.div_eq_of_lt (toNat_lt rest), Nat.zero_add,
      UInt8.ofNat_toNat]

/-- A signed number is read back from its bytes if they have room for it. -/
theorem toInt_ofInt {width : Nat} {value : Int} (low : -(Nat.pow 256 width : Nat) ≤ 2 * value)
    (high : 2 * value < (Nat.pow 256 width : Nat)) : toInt (ofInt width value) = value := by
  have room : 0 < Nat.pow 256 width := Nat.pow_pos (by decide)
  have positive : 0 ≤ value % (Nat.pow 256 width : Nat) := Int.emod_nonneg _ (by omega)
  have small : value % (Nat.pow 256 width : Nat) < (Nat.pow 256 width : Nat) :=
    Int.emod_lt_of_pos _ (by omega)
  rw [toInt, ofInt, length_ofNat, toNat_ofNat, Nat.mod_eq_of_lt (by omega),
    Int.toNat_of_nonneg positive, Int.emod_bmod]
  exact Int.bmod_eq_of_le_mul_two (by omega) (by omega)

/-- A run of bytes is the one that its signed number is written as. -/
theorem ofInt_toInt (bytes : List UInt8) : ofInt bytes.length (toInt bytes) = bytes := by
  have small := toNat_lt bytes
  rw [ofInt, toInt, Int.bmod_emod, Int.emod_eq_of_lt (by omega) (by omega), Int.toNat_natCast,
    ofNat_toNat]

end TunnelFailover.Wire
