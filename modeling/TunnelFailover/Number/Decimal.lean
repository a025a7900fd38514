import TunnelFailover.Text.Numeral
/-!
This file connects floating-point numbers with decimal ones: the decimal number with the fewest
digits that reads back as a given float, the float nearest to a decimal number, and the positional
form of a float.
-/

namespace TunnelFailover

/-- A decimal number is a mantissa times a power of ten. -/
structure Decimal where
  mantissa : Nat
  exponent : Int
deriving DecidableEq, Repr, Inhabited

namespace Decimal

/-- A binary number is a mantissa times a power of two. -/
structure Binary where
  mantissa : Nat
  exponent : Int
deriving DecidableEq, Repr

/-- The finite magnitude with these exponent and fraction bits. -/
def Binary.ofBits (bits : UInt64) : Binary :=
  let fraction := (bits &&& 0xFFFFFFFFFFFFF).toNat
  let biased := ((bits >>> 52) &&& 0x7FF).toNat
  if biased = 0 then ⟨fraction, -1074⟩ else ⟨fraction + Nat.pow 2 52, (biased : Int) - 1075⟩

/-- An interval of fractions with one denominator, around a value. The bounds belong to it if it is
closed. -/
structure Interval where
  low : Nat
  value : Nat
  high : Nat
  denominator : Nat
  closed : Bool
deriving Repr

/-- The numbers that round to a binary number reach half of the way to its neighbours, and the
neighbour below a power of two is closer. The bounds round to an even mantissa. -/
def Binary.rounding (binary : Binary) : Interval :=
  let below := if binary.mantissa = Nat.pow 2 52 ∧ -1074 < binary.exponent then 1 else 2
  let exponent := binary.exponent - 2
  let scale := Nat.pow 2 exponent.toNat
  { low := (4 * binary.mantissa - below) * scale
    value := 4 * binary.mantissa * scale
    high := (4 * binary.mantissa + 2) * scale
    denominator := Nat.pow 2 (-exponent).toNat
    closed := binary.mantissa % 2 == 0 }

/-- The count of decimal digits. -/
def digitCount (value : Nat) : Nat := (Nat.toDigits 10 value).length

/-- The power of ten right above a positive fraction. -/
def point (numerator denominator : Nat) : Int :=
  let guess : Int := (digitCount numerator : Int) - digitCount denominator
  if denominator * Nat.pow 10 guess.toNat ≤ numerator * Nat.pow 10 (-guess).toNat then guess + 1 else guess

/-- A decimal number compared with a fraction, both over the denominator of an interval. -/
def scaled (interval : Interval) (decimal : Decimal) (numerator : Nat) : Nat × Nat :=
  (decimal.mantissa * Nat.pow 10 decimal.exponent.toNat * interval.denominator,
    numerator * Nat.pow 10 (-decimal.exponent).toNat)

/-- A decimal number lies in an interval. -/
def isWithin (interval : Interval) (decimal : Decimal) : Bool :=
  let (shown, low) := scaled interval decimal interval.low
  let (_, high) := scaled interval decimal interval.high
  if interval.closed then low ≤ shown && shown ≤ high else low < shown && shown < high

/-- The distance of a decimal number from the value of an interval. -/
def distance (interval : Interval) (decimal : Decimal) : Nat :=
  let (shown, value) := scaled interval decimal interval.value
  (shown - value) + (value - shown)

/-- Of the two neighbours of the value with a given last place, those in the interval; the nearer
one is first, and of equally near ones the even one. -/
def candidates (interval : Interval) (place : Int) : List Decimal :=
  let divisor := interval.denominator * Nat.pow 10 place.toNat
  let below := interval.value * Nat.pow 10 (-place).toNat / divisor
  let down : Decimal := ⟨below, place⟩
  let up : Decimal := ⟨below + 1, place⟩
  let upFirst := distance interval up < distance interval down ||
    (distance interval up == distance interval down && below % 2 == 1)
  (if upFirst then [up, down] else [down, up]).filter (isWithin interval)

/-- The search goes from few digits to more. -/
def search (interval : Interval) (point : Int) : (more digits : Nat) → Decimal
  | 0, digits => (candidates interval (point - digits)).headD ⟨0, 0⟩
  | more + 1, digits =>
    match candidates interval (point - digits) with
    | found :: _ => found
    | [] => search interval point more (digits + 1)

/-- Nine and a bit can round up to ten, which is a one in the place before. -/
def carried (decimal : Decimal) : Decimal :=
  if decimal.mantissa = 10 then ⟨1, decimal.exponent + 1⟩ else decimal

/-- The decimal number with the fewest digits among those that round to the magnitude of a finite
float, and the nearest of these. Seventeen digits are always enough. -/
def shortest (value : Float) : Decimal :=
  let binary := Binary.ofBits value.toBits
  if binary.mantissa = 0 then ⟨0, 0⟩
  else
    let interval := binary.rounding
    (search interval (point interval.value interval.denominator) 16 1).carried

/-- The digits of the mantissa. -/
def digits (decimal : Decimal) : List Char := Nat.toDigits 10 decimal.mantissa

/-- The digits before and after the point in positional form, the latter without zeros at the end. -/
def positional (decimal : Decimal) : List Char × List Char :=
  let digits := decimal.digits
  if 0 ≤ decimal.exponent then
    if decimal.mantissa = 0 then (['0'], [])
    else (digits ++ List.replicate decimal.exponent.toNat '0', [])
  else
    let places := (-decimal.exponent).toNat
    if places < digits.length then
      (digits.take (digits.length - places), digits.drop (digits.length - places))
    else (['0'], List.replicate (places - digits.length) '0' ++ digits)

/-- The float nearest to a decimal number, which is infinite beyond the largest one and zero below
the smallest one. -/
def toFloat (decimal : Decimal) : Float :=
  if decimal.mantissa = 0 then 0
  else
    let point := decimal.exponent + digitCount decimal.mantissa
    if 400 < point then Float.ofBits 0x7FF0000000000000
    else if point < -400 then 0
    else Float.ofScientific decimal.mantissa (decimal.exponent < 0) decimal.exponent.natAbs

end Decimal

/-- The sign bit of a float, which zero has too. -/
def isNegativeFloat (value : Float) : Bool := value.toBits >>> 63 == 1

/-- A float in positional form with the fewest digits. A whole number has no point. -/
def positionalText (value : Float) : String :=
  if value.isNaN then "NaN"
  else
    let sign := if isNegativeFloat value then "-" else ""
    if value.isInf then sign ++ "inf"
    else
      let (whole, fraction) := (Decimal.shortest value).positional
      let fraction := if fraction.isEmpty then [] else '.' :: fraction
      sign ++ String.ofList (whole ++ fraction)

end TunnelFailover
