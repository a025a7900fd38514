import TunnelFailover.Json.Reader
import TunnelFailover.Source
/-!
This file says what the values of the object notation can be taken for.
-/

namespace TunnelFailover.Json

/-- The entries of an object with one of several names, if no name is given twice. -/
def known? (names : List String) (entries : List (String × Json)) : Option (List (String × Json)) :=
  let found := entries.filter fun entry => names.contains entry.1
  if (found.map (·.1)).Nodup then some found else none

/-- A record is an object, in which other entries do not matter, or an array of its first fields. -/
def fields? (names : List String) : Json → Option (Fields Json)
  | object entries => (known? names entries).map (⟨·, false⟩)
  | array items => if items.length ≤ names.length then some ⟨names.zip items, true⟩ else none
  | _ => none

/-- A variant is the text of its name, or an object with the name as key and no value. -/
def variant? : Json → Option String
  | text name => some name
  | object [(name, null)] => some name
  | _ => none

instance : Source Json where
  text?
    | .text value => some value
    | _ => none
  flag?
    | .boolean value => some value
    | _ => none
  word?
    | .number literal => literal.toWord?
    | _ => none
  float?
    | .number literal => literal.toFloat?
    | _ => none
  variant? := variant?
  items?
    | .array items => some items
    | _ => none
  entries?
    | .object entries => some entries
    | _ => none
  fields? := fields?
  presence?
    | .null => some none
    | value => some (some value)

end TunnelFailover.Json
