import TunnelFailover.Json.Value
/-!
This file reads a value of the object notation from a text, or from bytes. The reader is strict: it
takes one value with blanks around it and none of the usual extensions. Bytes that belong to no
character do no harm in a text that is skipped over.
-/

namespace TunnelFailover.Json.Reader

/-- The four blanks of the notation. -/
def isBlank (char : Char) : Bool := char == ' ' || char == '\n' || char == '\t' || char == '\r'

def skipBlank (chars : List Char) : List Char := chars.dropWhile isBlank

/-- The value of four hexadecimal digits. -/
def hex4? (first second third fourth : Char) : Option Nat :=
  digitsValue? 16 [first, second, third, fourth]

/-- The first half of a surrogate pair. -/
def isHighSurrogate (code : Nat) : Bool := 0xD800 ≤ code && code < 0xDC00

/-- The second half of a surrogate pair. -/
def isLowSurrogate (code : Nat) : Bool := 0xDC00 ≤ code && code < 0xE000

/-- The character that a one-letter escape stands for. -/
def shortEscape? : Char → Option Char
  | '"' => some '"'
  | '\\' => some '\\'
  | '/' => some '/'
  | 'b' => some '\x08'
  | 'f' => some '\x0c'
  | 'n' => some '\n'
  | 'r' => some '\r'
  | 't' => some '\t'
  | _ => none

/-- The inside of a text after its opening quote, with the characters so far in reverse. A half of a
surrogate pair that stands alone makes the text unreadable, and the pending one is the first half. -/
def quoted? (reversed : List Char) (readable : Bool) (pending : Option Nat) :
    List Char → Option (Option String × List Char)
  | [] => none
  | '"' :: rest =>
    some (if readable && pending.isNone then some (String.ofList reversed.reverse) else none, rest)
  | '\\' :: 'u' :: first :: second :: third :: fourth :: rest =>
    match hex4? first second third fourth with
    | none => none
    | some code =>
      match pending with
      | some high =>
        if isLowSurrogate code then
          let char := Char.ofNat (0x10000 + (high - 0xD800) * 0x400 + (code - 0xDC00))
          quoted? (char :: reversed) readable none rest
        else quoted? reversed false none rest
      | none =>
        if isHighSurrogate code then quoted? reversed readable (some code) rest
        else if isLowSurrogate code then quoted? reversed false none rest
        else quoted? (Char.ofNat code :: reversed) readable none rest
  | '\\' :: escape :: rest =>
    match shortEscape? escape with
    | some char => quoted? (char :: reversed) (readable && pending.isNone) none rest
    | none => none
  | char :: rest =>
    if char.toNat < 32 ∨ char = '\\' then none
    else quoted? (char :: reversed) (readable && pending.isNone) none rest

/-- The longest run of digits and what follows it. -/
def digits (chars : List Char) : List Char × List Char := chars.span Char.isDigit

/-- The digits after a point, if there is one. -/
def fraction? : List Char → Option (List Char × List Char)
  | '.' :: rest =>
    let (run, rest) := digits rest
    if run.isEmpty then none else some (run, rest)
  | rest => some ([], rest)

/-- The exponent after its letter, if there is one. -/
def exponent? : List Char → Option (Option Int × List Char)
  | 'e' :: rest | 'E' :: rest =>
    match rest with
    | '+' :: rest => power? 1 rest
    | '-' :: rest => power? (-1) rest
    | rest => power? 1 rest
  | rest => some (none, rest)
where
  power? (sign : Int) (chars : List Char) : Option (Option Int × List Char) := do
    let (run, rest) := digits chars
    let value ← digitsValue? 10 run
    if run.isEmpty then none else some (some (sign * value), rest)

/-- A number has no superfluous zero in front. -/
def number? (negative : Bool) (chars : List Char) : Option (Json × List Char) := do
  let (whole, rest) := digits chars
  if whole.isEmpty ∨ (1 < whole.length ∧ whole.head? = some '0') then none
  else
    let (fraction, rest) ← fraction? rest
    let (exponent, rest) ← exponent? rest
    pure (.number ⟨negative, whole, fraction, exponent⟩, rest)

/-- The rest after an expected word. -/
def word? : (expected : List Char) → List Char → Option (List Char)
  | [], rest => some rest
  | char :: expected, head :: rest => if char = head then word? expected rest else none
  | _ :: _, [] => none

/-- A key with the blanks and the colon after it. -/
def key? (chars : List Char) : Option (Option String × List Char) :=
  match skipBlank chars with
  | '"' :: rest => do
    let (key, rest) ← quoted? [] true none rest
    match skipBlank rest with
    | ':' :: rest => some (key, rest)
    | _ => none
  | _ => none

mutual

/-- A value after blanks. The fuel bounds the depth of the recursion. -/
def value? : (fuel : Nat) → List Char → Option (Json × List Char)
  | 0, _ => none
  | fuel + 1, chars =>
    match skipBlank chars with
    | '"' :: rest => do
      let (content, rest) ← quoted? [] true none rest
      pure (content.elim .unreadable Json.text, rest)
    | '[' :: rest =>
      match skipBlank rest with
      | ']' :: rest => some (.array [], rest)
      | _ => do
        let (items, rest) ← items? fuel rest
        pure (.array items, rest)
    | '\x7b' :: rest =>
      match skipBlank rest with
      | '\x7d' :: rest => some (.object [], rest)
      | _ => do
        let (entries, rest) ← entries? fuel rest
        pure (entries.elim .unreadable .object, rest)
    | '-' :: rest => number? true rest
    | 'n' :: rest => do pure (.null, ← word? ['u', 'l', 'l'] rest)
    | 't' :: rest => do pure (.boolean true, ← word? ['r', 'u', 'e'] rest)
    | 'f' :: rest => do pure (.boolean false, ← word? ['a', 'l', 's', 'e'] rest)
    | rest => number? false rest

/-- At least one item, up to the closing bracket. -/
def items? : (fuel : Nat) → List Char → Option (List Json × List Char)
  | 0, _ => none
  | fuel + 1, chars => do
    let (item, rest) ← value? fuel chars
    match skipBlank rest with
    | ',' :: rest =>
      let (items, rest) ← items? fuel rest
      pure (item :: items, rest)
    | ']' :: rest => some ([item], rest)
    | _ => none

/-- At least one entry, up to the closing brace. There are no entries with an unreadable key. -/
def entries? : (fuel : Nat) → List Char → Option (Option (List (String × Json)) × List Char)
  | 0, _ => none
  | fuel + 1, chars => do
    let (key, rest) ← key? chars
    let (value, rest) ← value? fuel rest
    match skipBlank rest with
    | ',' :: rest =>
      let (entries, rest) ← entries? fuel rest
      pure ((do pure ((← key, value) :: (← entries))), rest)
    | '\x7d' :: rest => some (key.map fun key => [(key, value)], rest)
    | _ => none

end

/-- The character that some bytes start with. -/
def char? (bytes : List UInt8) : Option Char :=
  (bytes.take 4).toByteArray.utf8DecodeChar? 0

/-- What stands for a byte that belongs to no character: the escape of the first half of a surrogate
pair. It stands twice, since a half in front of it could take the place of the first one. -/
def stray : List Char := ['\\', 'u', 'd', '8', '0', '0', '\\', 'u', 'd', '8', '0', '0']

/-- The characters of some bytes. The skipped bytes belong to the character before, and a byte that
belongs to none cannot be what a backslash escapes. -/
def characters? : (skipped : Nat) → (escaped : Bool) → List UInt8 → Option (List Char)
  | _, _, [] => some []
  | skipped + 1, escaped, _ :: rest => characters? skipped escaped rest
  | 0, escaped, byte :: rest =>
    match char? (byte :: rest) with
    | some char =>
      (characters? (char.utf8Size - 1) (!escaped && char == '\\') rest).map (char :: ·)
    | none => if escaped then none else (characters? 0 false rest).map (stray ++ ·)

end TunnelFailover.Json.Reader

namespace TunnelFailover.Json

/-- The value that a text denotes. -/
def parse? (text : String) : Option Json := do
  let chars := text.toList
  let (value, rest) ← Reader.value? (2 * chars.length + 2) chars
  if (Reader.skipBlank rest).isEmpty then some value else none

/-- The value that some bytes denote. -/
def parseBytes? (bytes : ByteArray) : Option Json :=
  (Reader.characters? 0 false bytes.data.toList).bind fun chars => parse? (String.ofList chars)

end TunnelFailover.Json
