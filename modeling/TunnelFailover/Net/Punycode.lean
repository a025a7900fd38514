import TunnelFailover.Text.Numeral
/-!
This file reads the encoding of a text in letters, digits and hyphens: first the plain characters,
and behind the last hyphen numbers that tell which other characters are inserted, and where.
-/

namespace TunnelFailover.Punycode

/-- Digits are the letters and then the decimal digits. -/
def digit? (char : Char) : Option Nat :=
  if char.isLower then some (char.toNat - 'a'.toNat)
  else if char.isDigit then some (char.toNat - '0'.toNat + 26)
  else none

/-- The digit below which a number ends goes from one to 26 with the place of the digit. The bias is
how far the places are shifted. -/
def threshold (place bias : Nat) : Nat := Nat.max 1 (Nat.min 26 (place - bias))

/-- The large part of a difference is taken off in steps, each of which shifts the places. -/
def shifted : (fuel : Nat) → (difference bias : Nat) → Nat
  | 0, _, bias => bias
  | fuel + 1, difference, bias =>
    if 455 < difference then shifted fuel (difference / 35) (bias + 36)
    else bias + 36 * difference / (difference + 38)

/-- The bias after a difference, by which the next one is expected to be about as large. The first
one is an exception. -/
def adapted (difference count : Nat) (first : Bool) : Nat :=
  let part := if first then difference / 700 else difference / 2
  shifted 7 (part + part / count) 0

/-- Numbers have 32 bits. -/
def bounded (value : Nat) : Option Nat := if value < UInt32.size then some value else none

/-- A sum and a number, whose digits have weights that depend on their places. -/
def number? (bias : Nat) : (place weight sum : Nat) → List Char → Option (Nat × List Char)
  | _, _, _, [] => none
  | place, weight, sum, char :: rest => do
    let digit ← digit? char
    let sum ← bounded (sum + digit * weight)
    let least := threshold place bias
    if digit < least then pure (sum, rest)
    else number? bias (place + 36) (← bounded (weight * (36 - least))) sum rest

/-- The insertions change a text. The next one has at least this code and this position. -/
structure State where
  text : List Char
  code : Nat
  position : Nat
  bias : Nat

namespace State

/-- A character of a valid code is inserted. A position behind the end stands for the next code. -/
def insert? (state : State) (sum : Nat) : Option State :=
  let count := state.text.length + 1
  let code := state.code + sum / count
  let position := sum % count
  if code.isValidChar then
    some
      { text := state.text.take position ++ Char.ofNat code :: state.text.drop position
        code
        position := position + 1
        bias := adapted (sum - state.position) count (state.position == 0) }
  else none

end State

/-- The insertions are made one after the other. Each takes at least one character. -/
def insertions? : (fuel : Nat) → State → List Char → Option (List Char)
  | _, state, [] => some state.text
  | 0, _, _ => none
  | fuel + 1, state, chars => do
    let (sum, rest) ← number? state.bias 36 1 state.position chars
    insertions? fuel (← state.insert? sum) rest

/-- The text that is encoded. A hyphen in front separates nothing, so that it is an invalid digit. -/
def decode? (chars : List Char) : Option (List Char) :=
  let numbers := (chars.reverse.takeWhile (· != '-')).reverse
  let plain := chars.take (chars.length - numbers.length - 1)
  if plain.isEmpty then insertions? chars.length ⟨[], 128, 0, 72⟩ chars
  else insertions? chars.length ⟨plain, 128, 0, 72⟩ numbers

end TunnelFailover.Punycode
