import TunnelFailover.Number.Decimal
/-!
This file finds a short decimal number that reads back as a given float with arithmetic of 64 bits.
The float and the bounds of what rounds to it are scaled by a power of ten that is kept to 64 bits
itself. So the bounds are drawn in a little, and now and then the last digit is not the nearest one
or there is one digit more than needed.
-/

namespace TunnelFailover

namespace Decimal

namespace Binary

/-- A mantissa that is not zero is brought to exactly 64 bits. -/
def normalized (binary : Binary) : Binary :=
  let shift := 63 - binary.mantissa.log2
  ⟨binary.mantissa * Nat.pow 2 shift, binary.exponent - shift⟩

/-- The upper 64 bits of a product, rounded by the bit below them. -/
def product (first second : Binary) : Binary :=
  ⟨(first.mantissa * second.mantissa + Nat.pow 2 63) / Nat.pow 2 64,
    first.exponent + second.exponent + 64⟩

/-- The fraction nearest to a quotient. -/
def roundedQuotient (numerator denominator : Nat) : Nat :=
  (2 * numerator + denominator) / (2 * denominator)

/-- A power of ten with a mantissa of 64 bits. -/
def powerOfTen (power : Int) : Binary :=
  let numerator := Nat.pow 10 power.toNat
  let denominator := Nat.pow 10 (-power).toNat
  let guess : Int := (numerator.log2 : Int) - denominator.log2
  let isBelow := numerator * Nat.pow 2 (-guess).toNat < denominator * Nat.pow 2 guess.toNat
  let exponent := (if isBelow then guess - 1 else guess) - 63
  ⟨roundedQuotient (numerator * Nat.pow 2 (-exponent).toNat)
    (denominator * Nat.pow 2 exponent.toNat), exponent⟩

/-- Halfway to the next float. -/
def upperBound (binary : Binary) : Binary :=
  normalized ⟨2 * binary.mantissa + 1, binary.exponent - 1⟩

/-- Halfway to the float before, over the exponent of the upper bound. That float is closer if the
mantissa is the lowest one. -/
def lowerBound (binary : Binary) : Binary :=
  let upper := binary.upperBound
  let below : Binary :=
    if binary.mantissa = Nat.pow 2 52 then ⟨4 * binary.mantissa - 1, binary.exponent - 2⟩
    else ⟨2 * binary.mantissa - 1, binary.exponent - 1⟩
  ⟨below.mantissa * Nat.pow 2 (below.exponent - upper.exponent).toNat, upper.exponent⟩

end Binary

/-- Every eighth power of ten is used. The one for an exponent of two brings it between -60 and
-32. -/
def scalingPower (exponent : Int) : Int :=
  let factor : Int := 30102999566398114
  let least : Int := 347 - (61 + exponent) * factor / 100000000000000000
  8 * (least / 8 + 1) - 348

/-- The scaled bounds: the upper one, its distance from the float, and the width between them, all
over one power of two. -/
structure Scaled where
  upper : Nat
  excess : Nat
  width : Nat
  unit : Nat
deriving Repr

/-- Both bounds are drawn in by one because the scale is not exact. -/
def Binary.scaled (binary : Binary) (scale : Binary) : Scaled :=
  let upper := binary.upperBound.product scale
  let lower := binary.lowerBound.product scale
  let value := binary.normalized.product scale
  { upper := upper.mantissa - 1
    excess := upper.mantissa - 1 - value.mantissa
    width := upper.mantissa - lower.mantissa - 2
    unit := Nat.pow 2 (-upper.exponent).toNat }

/-- The last digit goes down as long as that brings the digits closer to the float and keeps them
within the bounds. They lie a number of parts below the upper bound, and a step is one digit. -/
def lowered (width step excess : Nat) : (fuel : Nat) → (mantissa below : Nat) → Nat
  | 0, mantissa, _ => mantissa
  | fuel + 1, mantissa, below =>
    if below < excess ∧ step ≤ width - below ∧
        (below + step < excess ∨ below + step - excess < excess - below) then
      lowered width step excess fuel (mantissa - 1) (below + step)
    else mantissa

/-- The digits of the fraction of the upper bound, up to the first that falls below it by no more
than the width. They are brought closer to the float if there are fewer than nine. -/
def fractionDigits (scaled : Scaled) :
    (fuel places : Nat) → (mantissa fraction width : Nat) → Decimal
  | 0, places, mantissa, _, _ => ⟨mantissa, -places⟩
  | fuel + 1, places, mantissa, fraction, width =>
    let fraction := fraction * 10
    let width := width * 10
    let mantissa := mantissa * 10 + fraction / scaled.unit
    let below := fraction % scaled.unit
    let places := places + 1
    if below < width then
      let excess := if places < 9 then scaled.excess * Nat.pow 10 places else 0
      ⟨lowered width scaled.unit excess 9 mantissa below, -places⟩
    else fractionDigits scaled fuel places mantissa below width

/-- The digits of the upper bound before its point, of which a number remains, and those after the
point if all of them are needed. -/
def wholeDigits (scaled : Scaled) : (remaining : Nat) → (mantissa rest : Nat) → Decimal
  | 0, mantissa, rest => fractionDigits scaled 20 0 mantissa rest scaled.width
  | remaining + 1, mantissa, rest =>
    let step := Nat.pow 10 remaining * scaled.unit
    let mantissa := mantissa * 10 + rest / step
    let below := rest % step
    if below ≤ scaled.width then
      ⟨lowered scaled.width step scaled.excess 9 mantissa below, remaining⟩
    else wholeDigits scaled remaining mantissa below

/-- A decimal number that rounds to the magnitude of a finite float and has few digits. -/
def approximate (value : Float) : Decimal :=
  let binary := Binary.ofBits value.toBits
  if binary.mantissa = 0 then ⟨0, 0⟩
  else
    let power := scalingPower binary.upperBound.exponent
    let scaled := binary.scaled (Binary.powerOfTen power)
    let found := wholeDigits scaled (digitCount (scaled.upper / scaled.unit)) 0 scaled.upper
    ⟨found.mantissa, found.exponent - power⟩

end Decimal

end TunnelFailover
