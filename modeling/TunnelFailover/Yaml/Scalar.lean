import TunnelFailover.Text.Numeral
import TunnelFailover.Yaml.Cursor
/-!
This file reads the three forms of scalars: plain ones, quoted ones, and blocks of lines.
-/

namespace TunnelFailover.Yaml

/-- The style in which a scalar is written. -/
inductive Style where
  | plain
  | quoted
  | literal
  | folded
deriving DecidableEq, Repr

/-- A gap between two parts of a scalar: the blanks within a line, or the first line break and the
later ones. -/
structure Gap where
  blanks : List Char
  broken : Bool
  first : List Char
  later : List Char

namespace Gap

/-- A gap starts empty. -/
def empty : Gap := ⟨[], false, [], []⟩

/-- A single line break is folded into a space, and of several the first one is dropped. Breaks that
separate paragraphs are kept. -/
def fold (gap : Gap) : List Char :=
  if gap.broken then
    if gap.first.head? = some '\n' then if gap.later.isEmpty then [' '] else gap.later
    else gap.first ++ gap.later
  else gap.blanks

/-- One more line break. -/
def addBreak (gap : Gap) (broken : List Char) : Gap :=
  if gap.broken then { gap with later := gap.later ++ broken }
  else { gap with blanks := [], broken := true, first := broken }

/-- One more blank, which only counts before the first line break. -/
def addBlank (gap : Gap) (char : Char) : Gap :=
  if gap.broken then gap else { gap with blanks := gap.blanks ++ [char] }

/-- The gap ahead, added to a gap. A condition on a blank and its cursor refuses some. -/
def extend (refuses : Cursor → Char → Bool) : (fuel : Nat) → Gap → Cursor → Option (Gap × Cursor)
  | 0, _, _ => none
  | fuel + 1, gap, cursor =>
    match cursor.rest with
    | [] => some (gap, cursor)
    | char :: _ =>
      if isBlank char then
        if gap.broken && refuses cursor char then none
        else extend refuses fuel (gap.addBlank char) (cursor.advance 1)
      else if isBreak char then
        let (broken, cursor) := cursor.takeBreak
        extend refuses fuel (gap.addBreak broken) cursor
      else some (gap, cursor)

end Gap

/-- A scalar that was read, with the cursor behind it. A plain scalar tells whether a line break
follows it. -/
structure ReadScalar where
  text : List Char
  cursor : Cursor
  broken : Bool

namespace Plain

/-- A plain scalar ends at a colon before a blank, and in a flow at any indicator of flows. -/
def isEnd (inFlow : Bool) : List Char → Bool
  | [] => true
  | char :: rest =>
    isBlank char || isBreak char || (char == ':' && endsWord rest) ||
      (inFlow && isFlowIndicator char)

/-- In a flow a colon must not stand right before an indicator. -/
def isForbidden (inFlow : Bool) : List Char → Bool
  | ':' :: char :: _ => inFlow && (isFlowIndicator char || char == '?')
  | _ => false

/-- The characters of a plain scalar up to its end or the next blank, in reverse. -/
def word? (inFlow : Bool) : (reversed chars : List Char) → Option (List Char)
  | reversed, [] => some reversed
  | reversed, char :: rest =>
    if isBlank char || isBreak char then some reversed
    else if isForbidden inFlow (char :: rest) then none
    else if isEnd inFlow (char :: rest) then some reversed
    else word? inFlow (char :: reversed) rest

/-- The words of a plain scalar and the gaps between them. The scalar ends before a marker, before a
comment, and in a block before a line that is not indented enough. -/
def read? (inFlow : Bool) (indent : Int) : (fuel : Nat) → List Char → Gap → Cursor →
    Option ReadScalar
  | 0, _, _, _ => none
  | fuel + 1, text, gap, cursor =>
    if cursor.isAtMarker || cursor.rest.head? = some '#' then some ⟨text, cursor, gap.broken⟩
    else do
      let word ← word? inFlow [] cursor.rest
      let (text, gap, cursor) :=
        if word.isEmpty then (text, gap, cursor)
        else (text ++ gap.fold ++ word.reverse, Gap.empty, cursor.advance word.length)
      if (cursor.rest.head?.any fun char => isBlank char || isBreak char) then
        let refuses (place : Cursor) (char : Char) : Bool :=
          char == '\t' && decide ((place.column : Int) < indent)
        let (gap, cursor) ← gap.extend refuses (cursor.rest.length + 1) cursor
        if !inFlow && decide ((cursor.column : Int) < indent) then
          some ⟨text, cursor, gap.broken⟩
        else read? inFlow indent fuel text gap cursor
      else some ⟨text, cursor, gap.broken⟩

end Plain

namespace Quoted

/-- The character that an escape of one letter stands for. -/
def escape? : Char → Option Char
  | '0' => some '\x00'
  | 'a' => some '\x07'
  | 'b' => some '\x08'
  | 't' | '\t' => some '\t'
  | 'n' => some '\n'
  | 'v' => some '\x0b'
  | 'f' => some '\x0c'
  | 'r' => some '\r'
  | 'e' => some '\x1b'
  | ' ' => some ' '
  | '"' => some '"'
  | '/' => some '/'
  | '\\' => some '\\'
  | 'N' => some '\u0085'
  | '_' => some '\u00a0'
  | 'L' => some '\u2028'
  | 'P' => some '\u2029'
  | _ => none

/-- The number of digits after the letter of a numeric escape. -/
def escapeWidth? : Char → Option Nat
  | 'x' => some 2
  | 'u' => some 4
  | 'U' => some 8
  | _ => none

/-- The character of a numeric escape, which is no half of a surrogate pair. -/
def numeric? (width : Nat) (digits : List Char) : Option Char := do
  let run := digits.take width
  let code ← digitsValue? 16 run
  if run.length = width ∧ code.isValidChar then some (Char.ofNat code) else none

/-- A part of a quoted scalar: the text up to a blank, a line break, an escaped line break or the
closing quote. -/
structure Part where
  text : List Char
  cursor : Cursor
  escaped : Bool

/-- The next part, with its text so far in reverse. -/
def part? (single : Bool) : (fuel : Nat) → List Char → Cursor → Option Part
  | 0, _, _ => none
  | fuel + 1, reversed, cursor =>
    match cursor.rest with
    | [] => some ⟨reversed.reverse, cursor, false⟩
    | char :: rest =>
      if isBlank char || isBreak char then some ⟨reversed.reverse, cursor, false⟩
      else if single then
        if char = '\'' then
          if rest.head? = some '\'' then part? single fuel ('\'' :: reversed) (cursor.advance 2)
          else some ⟨reversed.reverse, cursor, false⟩
        else part? single fuel (char :: reversed) (cursor.advance 1)
      else if char = '"' then some ⟨reversed.reverse, cursor, false⟩
      else if char = '\\' then
        match rest with
        | [] => none
        | letter :: digits =>
          if isBreak letter then some ⟨reversed.reverse, (cursor.advance 1).skipBreak, true⟩
          else
            match escapeWidth? letter with
            | some width => do
              part? single fuel ((← numeric? width digits) :: reversed) (cursor.advance (2 + width))
            | none => do
              part? single fuel ((← escape? letter) :: reversed) (cursor.advance 2)
      else part? single fuel (char :: reversed) (cursor.advance 1)

/-- The parts of a quoted scalar after its opening quote and the gaps between them. A marker must
not stand at the start of a line. -/
def read? (single : Bool) : (fuel : Nat) → List Char → Cursor → Option ReadScalar
  | 0, _, _ => none
  | fuel + 1, text, cursor =>
    if cursor.isAtMarker || cursor.rest.isEmpty then none
    else do
      let part ← part? single (cursor.rest.length + 1) [] cursor
      let text := text ++ part.text
      let quote := if single then '\'' else '"'
      if part.cursor.rest.head? = some quote then
        some ⟨text, part.cursor.advance 1, false⟩
      else
        let gap := if part.escaped then { Gap.empty with broken := true } else Gap.empty
        let (gap, cursor) ←
          gap.extend (fun _ _ => false) (part.cursor.rest.length + 1) part.cursor
        read? single fuel (text ++ gap.fold) cursor

end Quoted

namespace Block

/-- What becomes of the line breaks at the end of a block. -/
inductive Chomping where
  | strip
  | clip
  | keep
deriving DecidableEq, Repr

/-- The header of a block has an indentation and a chomping indicator, in any order. -/
structure Header where
  chomping : Chomping
  increment : Option Nat

/-- The chomping indicator ahead, if there is one. -/
def chomping? (cursor : Cursor) : Option Chomping × Cursor :=
  match cursor.rest with
  | '+' :: _ => (some .keep, cursor.advance 1)
  | '-' :: _ => (some .strip, cursor.advance 1)
  | _ => (none, cursor)

/-- The indentation indicator ahead, if there is one. It is not zero. -/
def increment? (cursor : Cursor) : Option (Option Nat × Cursor) :=
  match cursor.rest with
  | char :: _ =>
    if char = '0' then none
    else if char.isDigit then some (some (char.toNat - '0'.toNat), cursor.advance 1)
    else some (none, cursor)
  | [] => some (none, cursor)

/-- The header up to the end of its line. -/
def header? (cursor : Cursor) : Option (Header × Cursor) := do
  let (early, cursor) := chomping? cursor
  let (increment, cursor) ← increment? cursor
  let (late, cursor) :=
    if early.isNone ∧ increment.isSome then chomping? cursor else (none, cursor)
  let cursor := (cursor.skipWhile isBlank).skipComment
  if endsLine cursor.rest then
    pure (⟨(early <|> late).getD .clip, increment⟩, cursor.skipBreak)
  else none

/-- The empty lines ahead and the indentation of the line after them. -/
structure Leading where
  breaks : List Char
  deepest : Nat
  cursor : Cursor

/-- Spaces up to the indentation and line breaks are skipped; without an indentation all spaces are.
A tab must not stand within the indentation. -/
def leading? (indent : Option Nat) : (fuel : Nat) → List Char → Nat → Cursor → Option Leading
  | 0, _, _, _ => none
  | fuel + 1, breaks, deepest, cursor =>
    let spaces := (cursor.rest.takeWhile (· == ' ')).length
    let wanted := indent.elim spaces fun indent => min spaces (indent - cursor.column)
    let cursor := cursor.advance wanted
    let deepest := max deepest cursor.column
    let within := indent.all (cursor.column < ·)
    match cursor.rest with
    | [] => some ⟨breaks, deepest, cursor⟩
    | char :: _ =>
      if within && char == '\t' then none
      else if isBreak char then
        let (broken, cursor) := cursor.takeBreak
        leading? indent fuel (breaks ++ broken) deepest cursor
      else some ⟨breaks, deepest, cursor⟩

/-- The text of a block so far, the break of its last line, the empty lines after it, and whether
the last line started with a blank. -/
structure Content where
  text : List Char
  last : List Char
  empty : List Char
  blank : Bool
  cursor : Cursor

/-- The lines of a block with the given indentation. A folded block joins two lines by a space
unless one of them starts with a blank or an empty line lies between them. -/
def lines? (folded : Bool) (indent : Nat) : (fuel : Nat) → Content → Option Content
  | 0, _ => none
  | fuel + 1, content =>
    let cursor := content.cursor
    if cursor.column ≠ indent ∨ cursor.rest.isEmpty then some content
    else do
      let blank := cursor.rest.head?.any isBlank
      let joined := folded && content.last.head? == some '\n' && !content.blank && !blank
      let gap :=
        if joined then if content.empty.isEmpty then [' '] else content.empty
        else content.last ++ content.empty
      let (line, cursor) := cursor.takeWhile fun char => !isBreak char
      let (last, cursor) := cursor.takeBreak
      let next ← leading? (some indent) (cursor.rest.length + 1) [] 0 cursor
      lines? folded indent fuel
        ⟨content.text ++ gap ++ line, last, next.breaks, blank, next.cursor⟩

/-- A block after its indicator. Without an indentation indicator the first line that is not empty
gives the indentation, which is at least one more than that of the collection around it. -/
def read? (folded : Bool) (parent : Int) (cursor : Cursor) : Option ReadScalar := do
  let (header, cursor) ← header? cursor
  let fuel := cursor.rest.length + 1
  let given := header.increment.map fun increment => (max parent 0).toNat + increment
  let first ← leading? given fuel [] 0 cursor
  let indent := given.getD (max (max first.deepest (parent + 1).toNat) 1)
  let content ← lines? folded indent fuel ⟨[], [], first.breaks, false, first.cursor⟩
  let text :=
    match header.chomping with
    | .strip => content.text
    | .clip => content.text ++ content.last
    | .keep => content.text ++ content.last ++ content.empty
  pure ⟨text, content.cursor, true⟩

end Block

end TunnelFailover.Yaml
