/-!
This file defines scripts, the placeholders in them and their replacement by values.
-/

namespace TunnelFailover

/-- A script is a list of commands, and a command is a program with its arguments. -/
abbrev Script := List (List String)

/-- A placeholder stands for a value under a name. -/
structure Placeholder where
  name : String
  value : String
deriving DecidableEq, Repr

namespace Script

/-- The rest of a text after a text at its start. -/
def afterStart? : (start : List Char) → List Char → Option (List Char)
  | [], rest => some rest
  | char :: start, head :: rest => if char = head then afterStart? start rest else none
  | _ :: _, [] => none

/-- The text with every occurrence of a pattern replaced, from left to right. The fuel bounds the
number of steps. -/
def replaceAll (pattern value : List Char) : (fuel : Nat) → List Char → List Char
  | 0, chars => chars
  | _, [] => []
  | fuel + 1, char :: rest =>
    match afterStart? pattern (char :: rest) with
    | some after => value ++ replaceAll pattern value fuel after
    | none => char :: replaceAll pattern value fuel rest

/-- The way in which a placeholder is written: its name in braces after a dollar sign. -/
def marker (name : String) : List Char := '$' :: '\x7b' :: name.toList ++ ['\x7d']

/-- An argument with one placeholder replaced. -/
def substitute (argument : List Char) (placeholder : Placeholder) : List Char :=
  replaceAll (marker placeholder.name) placeholder.value.toList argument.length argument

/-- The placeholders are replaced one after the other, each in the whole argument. -/
def renderArgument (placeholders : List Placeholder) (argument : String) : String :=
  String.ofList (placeholders.foldl substitute argument.toList)

/-- A script with the placeholders replaced in all of its arguments. -/
def render (placeholders : List Placeholder) (script : Script) : Script :=
  script.map fun command => command.map (renderArgument placeholders)

end Script

end TunnelFailover
