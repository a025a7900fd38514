/-!
This file reads and writes numerals: runs of digits in a radix, padded decimals, and the unsigned
numerals of a given width whose refusal has a cause.
-/

namespace TunnelFailover

/-- The value of a digit in a radix up to sixteen, in either case. -/
def digitValue? (radix : Nat) (char : Char) : Option Nat :=
  let value :=
    if char.isDigit then some (char.toNat - '0'.toNat)
    else if 'a' ≤ char ∧ char ≤ 'f' then some (char.toNat - 'a'.toNat + 10)
    else if 'A' ≤ char ∧ char ≤ 'F' then some (char.toNat - 'A'.toNat + 10)
    else none
  value.filter (· < radix)

/-- The value of a run of digits. It fails on any other character and is zero on the empty run. -/
def digitsValue? (radix : Nat) (digits : List Char) : Option Nat :=
  digits.foldlM (fun value char => do pure (value * radix + (← digitValue? radix char))) 0

/-- A numeral can be empty, hold a character that is no digit, or exceed its width. -/
inductive NumeralFault where
  | empty
  | invalidDigit
  | tooLarge
deriving DecidableEq, Repr

/-- The message names the cause and not the numeral. -/
def NumeralFault.message : NumeralFault → String
  | empty => "cannot parse integer from empty string"
  | invalidDigit => "invalid digit found in string"
  | tooLarge => "number too large to fit in target type"

/-- A run of digits stops at the first fault: a bad digit before the overflow wins, and one after
it does not. -/
def readDigits (radix limit : Nat) : Nat → List Char → Except NumeralFault Nat
  | value, [] => .ok value
  | value, char :: rest =>
    match digitValue? radix char with
    | none => .error .invalidDigit
    | some digit =>
      let next := value * radix + digit
      if limit ≤ next then .error .tooLarge else readDigits radix limit next rest

/-- An unsigned numeral below a limit may start with a plus sign and may have leading zeros. A sign
alone is an invalid digit. -/
def readUnsigned (radix limit : Nat) (chars : List Char) : Except NumeralFault Nat :=
  match chars with
  | [] => .error .empty
  | ['+'] | ['-'] => .error .invalidDigit
  | '+' :: digits => readDigits radix limit 0 digits
  | digits => readDigits radix limit 0 digits

/-- The decimal digits of a number, with zeros in front up to a width. -/
def padded (width value : Nat) : String :=
  let digits := Nat.toDigits 10 value
  String.ofList (List.replicate (width - digits.length) '0' ++ digits)

/-- The lower-case hexadecimal digits of a number, with zeros in front up to a width. -/
def hexadecimal (width value : Nat) : String :=
  let digits := Nat.toDigits 16 value
  String.ofList (List.replicate (width - digits.length) '0' ++ digits)

end TunnelFailover
