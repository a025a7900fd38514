import TunnelFailover.Text.Numeral
/-!
This file reads tables of characters. A table is a text of words, in which characters stand for
themselves as hexadecimal numbers. All tables are those of version 17 of Unicode. They are made for
the characters that names can have, and a range may cover others between them.
-/

namespace TunnelFailover

namespace CodeTable

/-- The pieces of a list between characters that separate. -/
def pieces (separates : Char → Bool) : List Char → List (List Char)
  | [] => [[]]
  | char :: rest =>
    if separates char then [] :: pieces separates rest
    else
      match pieces separates rest with
      | piece :: others => (char :: piece) :: others
      | [] => [[char]]

/-- The words of a table stand between spaces and line breaks. -/
def words (text : String) : List (List Char) :=
  (pieces (fun char => char == ' ' || char == '\n') text.toList).filter (!·.isEmpty)

/-- The number of a character. -/
def code (digits : List Char) : Nat := (digitsValue? 16 digits).getD 0

end CodeTable

/-- The characters between two numbers, with a step between them. -/
structure CodeRange where
  first : Nat
  last : Nat
  step : Nat
deriving DecidableEq, Repr

namespace CodeRange

open CodeTable

/-- A range has its ends on both sides of a dash, or of a slash if it has every second character. A
single number is a range as well. -/
def ofWord (word : List Char) : CodeRange :=
  match pieces (· == '-') word, pieces (· == '/') word with
  | [first, last], _ => ⟨code first, code last, 1⟩
  | _, [first, last] => ⟨code first, code last, 2⟩
  | _, _ => ⟨code word, code word, 1⟩

/-- A range has a character. -/
def contains (range : CodeRange) (char : Char) : Bool :=
  range.first ≤ char.toNat && char.toNat ≤ range.last &&
    (char.toNat - range.first) % range.step == 0

/-- The ranges of a table. -/
def ofText (text : String) : List CodeRange := (words text).map ofWord

/-- One of several ranges has a character. -/
def anyContains (ranges : List CodeRange) (char : Char) : Bool := ranges.any (·.contains char)

end CodeRange

end TunnelFailover
