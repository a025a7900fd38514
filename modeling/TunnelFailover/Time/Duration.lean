import TunnelFailover.Text.Blank
import TunnelFailover.Text.Numeral
/-!
This file defines lengths of time in nanoseconds, and the notation for them: a list of counts with
units such as `1m 30s`.
-/

namespace TunnelFailover

/-- A length of time is a number of nanoseconds. -/
structure Duration where
  nanoseconds : Nat
deriving DecidableEq, Repr, Inhabited

namespace Duration

def perSecond : Nat := 1000000000

def ofSeconds (seconds : Nat) : Duration := ⟨seconds * perSecond⟩

def ofMilliseconds (milliseconds : Nat) : Duration := ⟨milliseconds * 1000000⟩

/-- Whole seconds and the nanoseconds of the last, unfinished one. -/
def ofParts (seconds nanoseconds : Nat) : Duration := ⟨seconds * perSecond + nanoseconds⟩

def zero : Duration := ⟨0⟩

/-- The whole seconds. -/
def seconds (duration : Duration) : Nat := duration.nanoseconds / perSecond

/-- The nanoseconds after the whole seconds. -/
def fraction (duration : Duration) : Nat := duration.nanoseconds % perSecond

/-- The whole microseconds. -/
def microseconds (duration : Duration) : Nat := duration.nanoseconds / 1000

def isZero (duration : Duration) : Bool := duration.nanoseconds == 0

instance : LE Duration := ⟨fun first second => first.nanoseconds ≤ second.nanoseconds⟩
instance : LT Duration := ⟨fun first second => first.nanoseconds < second.nanoseconds⟩

instance (first second : Duration) : Decidable (first ≤ second) :=
  inferInstanceAs (Decidable (first.nanoseconds ≤ second.nanoseconds))

instance (first second : Duration) : Decidable (first < second) :=
  inferInstanceAs (Decidable (first.nanoseconds < second.nanoseconds))

/-- The smaller of two lengths. -/
def min (first second : Duration) : Duration := ⟨Nat.min first.nanoseconds second.nanoseconds⟩

/-- The unit of one count in the notation. -/
inductive Unit where
  | nanosecond
  | microsecond
  | millisecond
  | second
  | minute
  | hour
  | day
  | week
  | month
  | year
deriving DecidableEq, Repr

namespace Unit

/-- Every unit has a list of spellings, and case matters. -/
def ofName? (name : String) : Option Unit :=
  if name ∈ ["nanos", "nsec", "ns"] then some nanosecond
  else if name ∈ ["usec", "us", "µs"] then some microsecond
  else if name ∈ ["millis", "msec", "ms"] then some millisecond
  else if name ∈ ["seconds", "second", "secs", "sec", "s"] then some second
  else if name ∈ ["minutes", "minute", "min", "mins", "m"] then some minute
  else if name ∈ ["hours", "hour", "hrs", "hr", "h"] then some hour
  else if name ∈ ["days", "day", "d"] then some day
  else if name ∈ ["weeks", "week", "wks", "wk", "w"] then some week
  else if name ∈ ["months", "month", "M"] then some month
  else if name ∈ ["years", "year", "yrs", "yr", "y"] then some year
  else none

/-- A unit below the second is a number of nanoseconds, any other a number of seconds. A month is
30.44 days and a year is 365.25 days. -/
def size : Unit → Nat ⊕ Nat
  | nanosecond => .inl 1
  | microsecond => .inl 1000
  | millisecond => .inl 1000000
  | second => .inr 1
  | minute => .inr 60
  | hour => .inr 3600
  | day => .inr 86400
  | week => .inr 604800
  | month => .inr 2630016
  | year => .inr 31557600

/-- The size by which the digits after a point are multiplied. Seconds and minutes keep
nanoseconds, the larger units only whole seconds, and a nanosecond has no fraction. -/
def fractionSize : Unit → Option (Nat ⊕ Nat)
  | nanosecond => none
  | second => some (.inl 1000000000)
  | minute => some (.inl 60000000000)
  | other => some other.size

end Unit

/-- The digits after a point, as a quotient. -/
structure Quotient where
  numerator : Nat
  denominator : Nat

namespace Spelling

/-- Counts and products have 64 bits. -/
def limit : Nat := UInt64.size

/-- A number within 64 bits. -/
def bounded (value : Nat) : Option Nat := if value < limit then some value else none

/-- The letters of unit names. -/
def isLetter (char : Char) : Bool := char.isAlpha || char == 'µ'

/-- The sum of a length so far and one more part. The seconds have 64 bits, and so do the
nanoseconds before they are carried. -/
def add (total : Duration) (seconds nanoseconds : Nat) : Option Duration := do
  let nanoseconds ← bounded (total.fraction + nanoseconds)
  let seconds ← bounded (total.seconds + seconds)
  let sum := ofParts seconds nanoseconds
  let _ ← bounded sum.seconds
  pure sum

/-- A quotient times a size, which has to be a whole number. -/
def scaled (part : Quotient) (size : Nat) : Option Nat := do
  let product ← bounded (part.numerator * size)
  if product % part.denominator = 0 then some (product / part.denominator) else none

/-- One part of the sum: a quotient times the size of a unit. -/
def addScaled (total : Duration) (part : Quotient) : Nat ⊕ Nat → Option Duration
  | .inl size => do add total 0 (← scaled part size)
  | .inr size => do add total (← scaled part size) 0

/-- A count with the name of its unit is added to the total. -/
def addUnit (total : Duration) (count : Nat) (fraction : Option Quotient) (name : List Char) :
    Option Duration := do
  let unit ← Unit.ofName? (String.ofList name)
  let total ← addScaled total ⟨count, 1⟩ unit.size
  match fraction with
  | none => pure total
  | some part => addScaled total part (← unit.fractionSize)

/-- A reader of the notation is in the blank before a count, in a count, after a point, or in the
name of a unit, which it keeps in reverse. -/
inductive Phase where
  | gap
  | count (value : Nat)
  | point (value : Nat) (fraction : Quotient)
  | name (value : Nat) (fraction : Option Quotient) (letters : List Char)

/-- Blanks may stand between digits; a unit ends at a blank or at the next digit. -/
def step (total : Duration) : Phase → Char → Option (Duration × Phase)
  | .gap, char =>
    if char.isDigit then some (total, .count (char.toNat - '0'.toNat))
    else if isTextBlank char then some (total, .gap)
    else none
  | .count value, char =>
    if char.isDigit then do
      pure (total, .count (← bounded (value * 10 + (char.toNat - '0'.toNat))))
    else if isTextBlank char then some (total, .count value)
    else if isLetter char then some (total, .name value none [char])
    else if char = '.' then some (total, .point value ⟨0, 1⟩)
    else none
  | .point value fraction, char =>
    if char.isDigit then do
      let denominator ← bounded (fraction.denominator * 10)
      let numerator ← bounded (fraction.numerator * 10 + (char.toNat - '0'.toNat))
      pure (total, .point value ⟨numerator, denominator⟩)
    else if isTextBlank char then some (total, .point value fraction)
    else if isLetter char && fraction.denominator != 1 then
      some (total, .name value (some fraction) [char])
    else none
  | .name value fraction letters, char =>
    if char.isDigit then do
      pure (← addUnit total value fraction letters.reverse, .count (char.toNat - '0'.toNat))
    else if isTextBlank char then do
      pure (← addUnit total value fraction letters.reverse, .gap)
    else if isLetter char then some (total, .name value fraction (char :: letters))
    else none

/-- The text has to hold at least one count, and every count has a unit. -/
def run (total : Duration) : Phase → List Char → Option Duration
  | .gap, [] => some total
  | .name value fraction letters, [] => addUnit total value fraction letters.reverse
  | _, [] => none
  | phase, char :: rest => do
    let (total, phase) ← step total phase char
    run total phase rest

end Spelling

/-- The length that a text denotes: a sum of counts with units, or a bare zero. -/
def parse? (text : String) : Option Duration :=
  if text = "0" then some zero
  else if text.toList.all isTextBlank then none
  else Spelling.run zero .gap text.toList

/-- The counts with their unit, without those that are zero. A long unit has a plural. -/
def parts (duration : Duration) : List String :=
  let seconds := duration.seconds
  let yearRest := seconds % 31557600
  let monthRest := yearRest % 2630016
  let dayRest := monthRest % 86400
  let long (count : Nat) (name : String) : List String :=
    if count = 0 then [] else if count = 1 then [s!"1{name}"] else [s!"{count}{name}s"]
  let short (count : Nat) (name : String) : List String :=
    if count = 0 then [] else [s!"{count}{name}"]
  long (seconds / 31557600) "year" ++ long (yearRest / 2630016) "month" ++
    long (monthRest / 86400) "day" ++ short (dayRest / 3600) "h" ++
    short (dayRest % 3600 / 60) "m" ++ short (dayRest % 60) "s" ++
    short (duration.fraction / 1000000) "ms" ++ short (duration.fraction / 1000 % 1000) "us" ++
    short (duration.fraction % 1000) "ns"

/-- The notation of a length, with the largest unit first. -/
def text (duration : Duration) : String :=
  if duration.isZero then "0s" else " ".intercalate duration.parts

/-- A whole number and a fraction of a known number of digits, without zeros at its end. -/
def pointed (whole fraction digits : Nat) : String :=
  if fraction = 0 then toString whole
  else
    let shown := ((padded digits fraction).toList.reverse.dropWhile (· = '0')).reverse
    s!"{whole}.{String.ofList shown}"

/-- The length in the largest unit, from seconds down to nanoseconds, of which it has a whole. -/
def brief (duration : Duration) : String :=
  if 0 < duration.seconds then s!"{pointed duration.seconds duration.fraction 9}s"
  else if 1000000 ≤ duration.fraction then
    s!"{pointed (duration.fraction / 1000000) (duration.fraction % 1000000) 6}ms"
  else if 1000 ≤ duration.fraction then
    s!"{pointed (duration.fraction / 1000) (duration.fraction % 1000) 3}µs"
  else s!"{duration.fraction}ns"

end Duration

end TunnelFailover
