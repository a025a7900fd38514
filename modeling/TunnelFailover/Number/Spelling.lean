import TunnelFailover.Number.Decimal
/-!
This file reads the floats that programs write: digits with a point and an exponent.
-/

namespace TunnelFailover

/-- The exponent after its letter, and nothing else. -/
def exponentOf? : List Char → Option Int
  | [] => some 0
  | letter :: rest =>
    if letter = 'e' ∨ letter = 'E' then
      match rest with
      | '+' :: digits => power? 1 digits
      | '-' :: digits => power? (-1) digits
      | digits => power? 1 digits
    else none
where
  power? (sign : Int) (digits : List Char) : Option Int := do
    if digits.isEmpty then none else some (sign * (← digitsValue? 10 digits))

/-- A decimal number has digits before its point or after it. -/
def Decimal.parse? (chars : List Char) : Option Decimal := do
  let (whole, rest) := chars.span Char.isDigit
  let (fraction, rest) :=
    match rest with
    | '.' :: rest => rest.span Char.isDigit
    | rest => ([], rest)
  let exponent ← exponentOf? rest
  let mantissa ← digitsValue? 10 (whole ++ fraction)
  if whole.isEmpty ∧ fraction.isEmpty then none
  else some ⟨mantissa, exponent - fraction.length⟩

/-- The nearest float of a decimal number with an optional sign, unless it is infinite. -/
def finiteFloat? (chars : List Char) : Option Float := do
  let (negative, digits) :=
    match chars with
    | '-' :: rest => (true, rest)
    | '+' :: rest => (false, rest)
    | rest => (false, rest)
  let magnitude := (← Decimal.parse? digits).toFloat
  if magnitude.isInf then none else some (if negative then -magnitude else magnitude)

end TunnelFailover
