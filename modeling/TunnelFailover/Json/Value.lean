import TunnelFailover.Number.Decimal
/-!
This file defines the values of the object notation, the conversion of its numbers, and its compact
text.
-/

namespace TunnelFailover

/-- A number is kept as it is written: digits, digits after a point, and an exponent. -/
structure NumberLiteral where
  negative : Bool
  whole : List Char
  fraction : List Char
  exponent : Option Int
deriving DecidableEq, Repr, Inhabited

/-- A value of the notation. Text that escapes half of a surrogate pair can be skipped over, but has
no value, and an object with such a key has none either. -/
inductive Json where
  | null
  | boolean (value : Bool)
  | number (literal : NumberLiteral)
  | text (value : String)
  | array (items : List Json)
  | object (entries : List (String × Json))
  | unreadable
deriving Inhabited

namespace NumberLiteral

/-- A literal with neither a point nor an exponent is an integer. -/
def isInteger (literal : NumberLiteral) : Bool :=
  literal.fraction.isEmpty && literal.exponent.isNone

/-- The literal of an integer. -/
def ofInt (value : Int) : NumberLiteral :=
  ⟨value < 0, Nat.toDigits 10 value.natAbs, [], none⟩

/-- The literal of a finite float has the fewest digits and always a point. -/
def ofFloat (value : Float) : NumberLiteral :=
  let decimal := Decimal.shortest value
  match decimal.digits with
  | [] => ⟨false, ['0'], ['0'], none⟩
  | first :: rest =>
    let exponent := decimal.exponent + rest.length
    ⟨isNegativeFloat value, [first], if rest.isEmpty then ['0'] else rest,
      if exponent = 0 then none else some exponent⟩

/-- An unsigned word is an integer literal without a sign. -/
def toWord? (literal : NumberLiteral) : Option UInt64 := do
  let value ← digitsValue? 10 literal.whole
  if literal.isInteger ∧ ¬literal.negative ∧ value < UInt64.size then some (UInt64.ofNat value) else none

/-- Leading digits that fit a word, and the power of ten behind them. -/
structure Leading where
  digits : Nat
  exponent : Int

/-- One more digit before the point. After the first one that does not fit, all count as zeros. -/
def Leading.addWhole (leading : Leading) (char : Char) : Leading :=
  let next := leading.digits * 10 + (char.toNat - '0'.toNat)
  if 0 < leading.exponent ∨ UInt64.size ≤ next then { leading with exponent := leading.exponent + 1 }
  else { leading with digits := next }

/-- The digits after the point up to the first one that does not fit. -/
def Leading.addFraction (leading : Leading) : List Char → Leading
  | [] => leading
  | char :: rest =>
    let next := leading.digits * 10 + (char.toNat - '0'.toNat)
    if UInt64.size ≤ next then leading else addFraction ⟨next, leading.exponent - 1⟩ rest

/-- A power of ten that a float holds. -/
def powerOfTen (exponent : Nat) : Float := Decimal.toFloat ⟨1, exponent⟩

/-- A float times a power of ten: one multiplication or division, after divisions by the largest
power if needed. There is none beyond the largest float. -/
def scale : (steps : Nat) → Float → Int → Option Float
  | 0, value, _ => some value
  | steps + 1, value, exponent =>
    if exponent.natAbs ≤ 308 then
      if 0 ≤ exponent then
        let product := value * powerOfTen exponent.natAbs
        if product.isInf then none else some product
      else some (value / powerOfTen exponent.natAbs)
    else if value == 0 then some value
    else if 0 ≤ exponent then none
    else scale steps (value / powerOfTen 308) (exponent + 308)

/-- The float of a literal is its leading digits, rounded, times a power of ten, rounded. -/
def toFloat? (literal : NumberLiteral) : Option Float := do
  let whole := literal.whole.foldl Leading.addWhole ⟨0, 0⟩
  let leading := whole.addFraction literal.fraction
  let value ← scale 4 (Float.ofNat leading.digits) (leading.exponent + literal.exponent.getD 0)
  pure (if literal.negative then -value else value)

/-- The text of a literal. -/
def render (literal : NumberLiteral) : String :=
  let sign := if literal.negative then "-" else ""
  let fraction := if literal.fraction.isEmpty then [] else '.' :: literal.fraction
  let exponent :=
    match literal.exponent with
    | some exponent => "e" ++ toString exponent
    | none => ""
  sign ++ String.ofList (literal.whole ++ fraction) ++ exponent

end NumberLiteral

namespace Json

/-- The value of a natural number. -/
def ofNat (value : Nat) : Json := .number (.ofInt value)

/-- The value of a float is null if the float is not finite. -/
def ofFloat (value : Float) : Json :=
  if value.isNaN || value.isInf then .null else .number (.ofFloat value)

/-- The value of an optional value is null if there is none. -/
def ofOption {α : Type} (value : α → Json) : Option α → Json
  | some present => value present
  | none => .null

/-- The value of a list of texts. -/
def ofTexts (texts : List String) : Json := .array (texts.map .text)

/-- Quotes, backslashes and control characters are escaped, and nothing else. -/
def escape (char : Char) : String :=
  if char = '"' then "\\\""
  else if char = '\\' then "\\\\"
  else if char = '\n' then "\\n"
  else if char = '\r' then "\\r"
  else if char = '\t' then "\\t"
  else if char = '\x08' then "\\b"
  else if char = '\x0c' then "\\f"
  else if char.toNat < 32 then "\\u" ++ hexadecimal 4 char.toNat
  else char.toString

/-- A text in quotes. -/
def quote (text : String) : String :=
  text.foldl (fun quoted char => quoted ++ escape char) "\"" ++ "\""

mutual

/-- The compact text of a value has no blanks, and an object keeps the order of its entries. -/
def render : Json → String
  | null => "null"
  | boolean true => "true"
  | boolean false => "false"
  | number literal => literal.render
  | text value => quote value
  | array items => "[" ++ renderItems "" items ++ "]"
  | object entries => "\x7b" ++ renderEntries "" entries ++ "\x7d"
  | unreadable => "null"

/-- The items of an array. -/
def renderItems (separator : String) : List Json → String
  | [] => ""
  | item :: rest => separator ++ render item ++ renderItems "," rest

/-- The entries of an object. -/
def renderEntries (separator : String) : List (String × Json) → String
  | [] => ""
  | (key, value) :: rest =>
    separator ++ quote key ++ ":" ++ render value ++ renderEntries "," rest

end

end Json

end TunnelFailover
