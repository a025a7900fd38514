/-!
This file defines the outline of structured data: which parts of it a decoder looks at.
-/

namespace TunnelFailover

/-- A decoder takes a value as a whole, reads a list item by item, a map from names value by value,
or the known fields of a record, each by an outline of its own. -/
inductive Outline where
  | whole
  | list (item : Outline)
  | named (value : Outline)
  | record (names : List String) (field : String → Outline)

/-- A record of which all fields are taken as a whole. -/
def Outline.flat (names : List String) : Outline := .record names fun _ => .whole

end TunnelFailover
