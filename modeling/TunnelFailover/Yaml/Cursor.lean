/-!
This file defines the classes of characters of the configuration format, and a cursor that moves
through a text and knows its line and column.
-/

namespace TunnelFailover.Yaml

/-- A text holds only printable characters, tabs and line breaks. -/
def isAllowed (char : Char) : Bool :=
  let code := char.toNat
  code == 0x09 || code == 0x0A || code == 0x0D || (0x20 ≤ code && code ≤ 0x7E) || code == 0x85 ||
    (0xA0 ≤ code && code ≤ 0xD7FF) || (0xE000 ≤ code && code ≤ 0xFFFD) || 0x10000 ≤ code

/-- A blank is a space or a tab. -/
def isBlank (char : Char) : Bool := char == ' ' || char == '\t'

/-- Five characters break a line. -/
def isBreak (char : Char) : Bool :=
  char == '\n' || char == '\r' || char == '\u0085' || char == '\u2028' || char == '\u2029'

/-- The characters of names. -/
def isWordChar (char : Char) : Bool :=
  char.isAlphanum || char == '_' || char == '-'

/-- The flow indicators separate the parts of collections in brackets and braces. -/
def isFlowIndicator (char : Char) : Bool :=
  char == ',' || char == '[' || char == ']' || char == '\x7b' || char == '\x7d'

/-- The byte order mark. -/
def byteOrderMark : Char := '\ufeff'

/-- What follows is a blank, a line break or the end. -/
def endsWord : List Char → Bool
  | [] => true
  | char :: _ => isBlank char || isBreak char

/-- What follows is a line break or the end. -/
def endsLine : List Char → Bool
  | [] => true
  | char :: _ => isBreak char

/-- A cursor holds the text ahead and its own place. -/
structure Cursor where
  rest : List Char
  index : Nat
  line : Nat
  column : Nat
deriving Repr

namespace Cursor

/-- A cursor starts before the text, in the first line and column. -/
def start (chars : List Char) : Cursor := ⟨chars, 0, 0, 0⟩

/-- The cursor after a number of characters of its line. -/
def advance (cursor : Cursor) (count : Nat) : Cursor :=
  { cursor with
    rest := cursor.rest.drop count
    index := cursor.index + count
    column := cursor.column + count }

/-- The characters ahead, within the line, that meet a condition, and the cursor behind them. -/
def takeWhile (cursor : Cursor) (condition : Char → Bool) : List Char × Cursor :=
  let taken := cursor.rest.takeWhile condition
  (taken, cursor.advance taken.length)

/-- The cursor behind the characters ahead, within the line, that meet a condition. -/
def skipWhile (cursor : Cursor) (condition : Char → Bool) : Cursor :=
  (cursor.takeWhile condition).2

/-- The cursor at the start of the next line, for a line break of some length. -/
def nextLine (cursor : Cursor) (length : Nat) : Cursor :=
  ⟨cursor.rest.drop length, cursor.index + length, cursor.line + 1, 0⟩

/-- The line break ahead, if there is one, and the cursor behind it. All breaks but the separators
of lines and paragraphs are read as one line feed. -/
def takeBreak (cursor : Cursor) : List Char × Cursor :=
  match cursor.rest with
  | '\r' :: '\n' :: _ => (['\n'], cursor.nextLine 2)
  | '\r' :: _ | '\n' :: _ | '\u0085' :: _ => (['\n'], cursor.nextLine 1)
  | '\u2028' :: _ => (['\u2028'], cursor.nextLine 1)
  | '\u2029' :: _ => (['\u2029'], cursor.nextLine 1)
  | _ => ([], cursor)

/-- The cursor behind the line break ahead, if there is one. -/
def skipBreak (cursor : Cursor) : Cursor := cursor.takeBreak.2

/-- The cursor behind a comment, if there is one. -/
def skipComment (cursor : Cursor) : Cursor :=
  if cursor.rest.head? = some '#' then cursor.skipWhile fun char => !isBreak char else cursor

/-- A line of three dashes or points, with a blank or nothing after them, marks a document. -/
def isAtMarker (cursor : Cursor) : Bool :=
  cursor.column == 0 &&
    match cursor.rest with
    | '-' :: '-' :: '-' :: rest | '.' :: '.' :: '.' :: rest => endsWord rest
    | _ => false

end Cursor

end TunnelFailover.Yaml
