import TunnelFailover.Number.Decimal
import TunnelFailover.Time.Duration
/-!
This file converts between lengths of time and floats that count seconds, and raises floats to
whole powers.
-/

namespace TunnelFailover

/-- The quotient of two numbers, rounded to the nearest one; a half goes to the even neighbour. -/
def roundedQuotient (numerator denominator : Nat) : Nat :=
  let quotient := numerator / denominator
  let twice := 2 * (numerator % denominator)
  if denominator < twice ∨ (twice = denominator ∧ quotient % 2 = 1) then quotient + 1 else quotient

namespace Duration

/-- The longest length that is kept has 64 bits of seconds. -/
def longest : Duration := ⟨UInt64.size * perSecond - 1⟩

/-- The number of seconds. The whole seconds and the rest are rounded each, and so is their sum. -/
def toSeconds (duration : Duration) : Float :=
  Float.ofNat duration.seconds + Float.ofNat duration.fraction / 1000000000.0

/-- The length of a number of seconds, rounded to the nearest nanosecond. -/
def ofSecondsFloat (seconds : Float) : Duration :=
  if seconds.isNaN || isNegativeFloat seconds then zero
  else if seconds.isInf then longest
  else
    let binary := Decimal.Binary.ofBits seconds.toBits
    let nanoseconds :=
      roundedQuotient (binary.mantissa * perSecond * Nat.pow 2 binary.exponent.toNat)
        (Nat.pow 2 (-binary.exponent).toNat)
    longest.min ⟨nanoseconds⟩

end Duration

/-- The repeated squares of a number, multiplied where the exponent has a bit. -/
def squared (fuel : Nat) (product square : Float) (exponent : Nat) : Float :=
  match fuel with
  | 0 => product
  | fuel + 1 =>
    let product := if exponent % 2 = 1 then product * square else product
    if exponent / 2 = 0 then product else squared fuel product (square * square) (exponent / 2)

/-- A whole power goes by repeated squaring, and a negative one is the reciprocal in the end. -/
def wholePower (base : Float) (exponent : Int) : Float :=
  let power := squared 64 1 base exponent.natAbs
  if exponent < 0 then 1 / power else power

end TunnelFailover
