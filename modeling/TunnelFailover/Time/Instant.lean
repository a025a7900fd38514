import TunnelFailover.Time.Calendar
import TunnelFailover.Time.Duration
/-!
This file defines points in time with nanoseconds, their arithmetic, and their text, which is the
date and time of day in UTC. The reader accepts a wider notation than the writer produces.
-/

namespace TunnelFailover

/-- An instant counts seconds since the start of 1970. A nanosecond count of a second or more
stands for a point within the leap second that follows that second. -/
structure Instant where
  seconds : Int
  nanoseconds : Nat
deriving DecidableEq, Repr, Inhabited

namespace Instant

/-- The instant that lies a number of nanoseconds after the start of 1970. -/
def ofNanoseconds (nanoseconds : Int) : Instant :=
  ⟨nanoseconds / 1000000000, (nanoseconds % 1000000000).toNat⟩

/-- The number of nanoseconds since the start of 1970. -/
def toNanoseconds (time : Instant) : Int := time.seconds * 1000000000 + time.nanoseconds

/-- The second decides which of two instants is earlier, and then the nanosecond. So the points of a
leap second lie before the next second. -/
instance : LE Instant := ⟨fun first second =>
  first.seconds < second.seconds ∨
    (first.seconds = second.seconds ∧ first.nanoseconds ≤ second.nanoseconds)⟩

instance (first second : Instant) : Decidable (first ≤ second) :=
  inferInstanceAs (Decidable (first.seconds < second.seconds ∨
    (first.seconds = second.seconds ∧ first.nanoseconds ≤ second.nanoseconds)))

/-- The instant lies within a leap second. -/
def isLeap (time : Instant) : Bool := 1000000000 ≤ time.nanoseconds

/-- The second of the day, in which a leap second does not count. -/
def ofDay (time : Instant) : Int := time.seconds % 86400

/-- A leap second between two instants, as seen from the earlier one. It shows in the one that lies
within it, and only if that one has the lower second of the day. -/
def leapBetween (later earlier : Instant) : Int :=
  if earlier.ofDay < later.ofDay ∧ earlier.isLeap then 1
  else if later.ofDay < earlier.ofDay ∧ later.isLeap then -1
  else 0

/-- The length of time from an earlier instant, or zero if it is not earlier. -/
def since (later earlier : Instant) : Duration :=
  ⟨(later.toNanoseconds - earlier.toNanoseconds +
    leapBetween later earlier * 1000000000).toNat⟩

/-- The first second of the year -262143, from which on dates are kept. -/
def firstSecond : Int := (CalendarDate.mk (-262143) 1 1).toDays * 86400

/-- The last second of the year 262142, up to which dates are kept. -/
def lastSecond : Int := (CalendarDate.mk 262143 1 1).toDays * 86400 - 1

/-- A date of the instant can be kept. -/
def IsRepresentable (time : Instant) : Prop :=
  firstSecond ≤ time.seconds ∧ time.seconds ≤ lastSecond

instance (time : Instant) : Decidable time.IsRepresentable := by
  unfold IsRepresentable
  infer_instance

/-- The instant after a length of time, if its date can be kept. A leap second has no length of
its own, so that a sum that leaves it counts from the second before. -/
def add? (time : Instant) (delay : Duration) : Option Instant :=
  let inside := time.nanoseconds + delay.nanoseconds
  let sum :=
    if time.isLeap then
      if inside < 2000000000 then ⟨time.seconds, inside⟩
      else ofNanoseconds (time.toNanoseconds - 1000000000 + delay.nanoseconds)
    else ofNanoseconds (time.toNanoseconds + delay.nanoseconds)
  if sum.IsRepresentable then some sum else none

/-- The fraction of a second has the fewest digits, of none, three, six and nine, that are exact. -/
def fractionText (nanoseconds : Nat) : String :=
  if nanoseconds = 0 then ""
  else if nanoseconds % 1000000 = 0 then "." ++ padded 3 (nanoseconds / 1000000)
  else if nanoseconds % 1000 = 0 then "." ++ padded 6 (nanoseconds / 1000)
  else "." ++ padded 9 nanoseconds

/-- A year has four digits, and a sign if it is outside of the years with four digits. -/
def yearText (year : Int) : String :=
  if 0 ≤ year ∧ year ≤ 9999 then padded 4 year.toNat
  else if year < 0 then "-" ++ padded 4 (-year).toNat
  else "+" ++ padded 4 year.toNat

/-- The text of an instant is its date and time of day in UTC. -/
def text (time : Instant) : String :=
  let date := CalendarDate.ofDays (time.seconds / 86400)
  let ofDay := time.ofDay.toNat
  let leap := if time.isLeap then 1 else 0
  yearText date.year ++ "-" ++ padded 2 date.month ++ "-" ++ padded 2 date.day ++ "T" ++
    padded 2 (ofDay / 3600) ++ ":" ++ padded 2 (ofDay % 3600 / 60) ++ ":" ++
    padded 2 (ofDay % 60 + leap) ++ fractionText (time.nanoseconds - leap * 1000000000) ++ "Z"

namespace Reader

/-- The blanks between the parts of a date are those of Unicode. -/
def skipBlank (chars : List Char) : List Char := chars.dropWhile isTextBlank

/-- At least one digit and at most a number of them, after blanks. -/
def number? (width : Nat) (chars : List Char) : Option (Nat × List Char) := do
  let chars := skipBlank chars
  let digits := (chars.take width).takeWhile Char.isDigit
  if digits.isEmpty then none
  else pure ((← digitsValue? 10 digits), chars.drop digits.length)

/-- One expected character. -/
def mark? (expected : Char) : List Char → Option (List Char)
  | char :: rest => if char = expected then some rest else none
  | [] => none

/-- A year has up to four digits, or a sign and any number of digits. -/
def year? (chars : List Char) : Option (Int × List Char) := do
  match skipBlank chars with
  | '-' :: rest =>
    let (value, rest) ← number? rest.length (← unblanked rest)
    pure (-(value : Int), rest)
  | '+' :: rest =>
    let (value, rest) ← number? rest.length (← unblanked rest)
    pure ((value : Int), rest)
  | rest =>
    let (value, rest) ← number? 4 rest
    pure ((value : Int), rest)
where
  unblanked (chars : List Char) : Option (List Char) :=
    if chars.head?.any Char.isDigit then some chars else none

/-- A number within bounds. -/
def within? (low high : Nat) (chars : List Char) : Option (Nat × List Char) := do
  let (value, rest) ← number? 2 chars
  if low ≤ value ∧ value ≤ high then some (value, rest) else none

/-- The digits after a point count nanoseconds; those after the ninth are dropped. -/
def fraction? : List Char → Option (Nat × List Char)
  | '.' :: rest => do
    let digits := (rest.take 9).takeWhile Char.isDigit
    if digits.isEmpty then none
    else
      let value ← digitsValue? 10 digits
      pure (value * Nat.pow 10 (9 - digits.length), (rest.drop digits.length).dropWhile Char.isDigit)
  | rest => some (0, rest)

/-- Two digits. -/
def pair? : List Char → Option (Nat × List Char)
  | first :: second :: rest => do pure ((← digitsValue? 10 [first, second]), rest)
  | _ => none

/-- An offset has a sign, hours and minutes, with colons and blanks between them. -/
def signed? (sign : Int) (chars : List Char) : Option (Int × List Char) := do
  let (hours, rest) ← pair? chars
  let rest := rest.dropWhile fun char => char == ':' || isTextBlank char
  let (minutes, rest) ← pair? rest
  if minutes < 60 then some (sign * (hours * 3600 + minutes * 60), rest) else none

/-- The zone is UTC by name or letter, or an offset in seconds. -/
def zone? (chars : List Char) : Option (Int × List Char) :=
  match chars with
  | first :: second :: third :: rest =>
    if (String.ofList [first, second, third]).map Char.toUpper = "UTC" then some (0, rest)
    else offset? chars
  | _ => offset? chars
where
  offset? : List Char → Option (Int × List Char)
    | 'Z' :: rest | 'z' :: rest => some (0, rest)
    | '+' :: rest => signed? 1 rest
    | '-' :: rest | '−' :: rest => signed? (-1) rest
    | _ => none

end Reader

/-- The reader takes a date, one of the letter T and a blank, a time of day and a zone. Blanks may
surround every part, and the sixtieth second is the leap second. -/
def parse? (text : String) : Option Instant := do
  let (year, rest) ← Reader.year? text.toList
  let (month, rest) ← Reader.within? 1 12 (← Reader.mark? '-' (Reader.skipBlank rest))
  let (day, rest) ← Reader.within? 1 31 (← Reader.mark? '-' (Reader.skipBlank rest))
  let rest ← separator? rest
  let (hour, rest) ← Reader.within? 0 23 rest
  let (minute, rest) ← Reader.within? 0 59 (← Reader.mark? ':' (Reader.skipBlank rest))
  let (second, rest) ← Reader.within? 0 60 (← Reader.mark? ':' (Reader.skipBlank rest))
  let (fraction, rest) ← Reader.fraction? rest
  let (offset, rest) ← Reader.zone? (Reader.skipBlank rest)
  let date : CalendarDate := ⟨year, month, day⟩
  let leap := if second = 60 then 1 else 0
  let ofDay : Int := hour * 3600 + minute * 60 + (second - leap : Nat)
  let local_ : Instant := ⟨date.toDays * 86400 + ofDay, fraction + leap * 1000000000⟩
  let time : Instant := { local_ with seconds := local_.seconds - offset }
  if (Reader.skipBlank rest).isEmpty ∧ date.IsValid ∧ local_.IsRepresentable ∧
      time.IsRepresentable ∧ -86400 < offset ∧ offset < 86400 then some time
  else none
where
  separator? : List Char → Option (List Char)
    | 'T' :: rest | 't' :: rest | ' ' :: rest => some rest
    | _ => none

end Instant

end TunnelFailover
