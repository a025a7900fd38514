import TunnelFailover.Unicode.CombiningClass
import TunnelFailover.Unicode.Composite
/-!
This file brings a text into the composed form, in which texts that look the same are the same:
characters are taken apart, marks are put in order, and characters are put together again.
-/

namespace TunnelFailover.Unicode

/-- A character is taken apart as far as possible, which takes a few steps at most. -/
def decomposed : (fuel : Nat) → Char → List Char
  | 0, char => [char]
  | fuel + 1, char =>
    match parts? char with
    | some (first, second) => decomposed fuel first ++ [second]
    | none => [char]

/-- A mark goes behind the marks of lower classes in front of an ordered text. -/
def insertMark (char : Char) : List Char → List Char
  | [] => [char]
  | next :: rest =>
    if 0 < combiningClass next ∧ combiningClass next < combiningClass char then
      next :: insertMark char rest
    else char :: next :: rest

/-- The marks that follow each other are ordered by their classes, and those of one class stay in
their order. -/
def marksOrdered (chars : List Char) : List Char := chars.foldr insertMark []

/-- A text is put together from its start: what is finished, from the end; the last character that
is not a mark; and the marks since then, from the end. -/
structure Composing where
  finished : List Char
  base : Option Char
  marks : List Char

namespace Composing

/-- Everything so far, from the end. -/
def reversed (composing : Composing) : List Char :=
  composing.marks ++ composing.base.toList ++ composing.finished

/-- The composite of the base and a character, unless a mark that stands between them keeps them
apart. -/
def whole? (composing : Composing) (char : Char) : Option Char :=
  match composing.base, composing.marks with
  | some base, [] => Unicode.whole? base char
  | some base, mark :: _ =>
    if combiningClass mark < combiningClass char then Unicode.whole? base char else none
  | none, _ => none

/-- One more character. -/
def push (composing : Composing) (char : Char) : Composing :=
  match composing.whole? char with
  | some whole => { composing with base := some whole }
  | none =>
    if combiningClass char = 0 then ⟨composing.reversed, some char, []⟩
    else { composing with marks := char :: composing.marks }

end Composing

/-- The composed form of a text. -/
def composed (chars : List Char) : List Char :=
  let ordered := marksOrdered (chars.flatMap (decomposed 4))
  (ordered.foldl Composing.push ⟨[], none, []⟩).reversed.reverse

end TunnelFailover.Unicode
