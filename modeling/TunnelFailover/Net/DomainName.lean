import TunnelFailover.Net.Punycode
import TunnelFailover.Unicode.Composed
import TunnelFailover.Unicode.Direction
import TunnelFailover.Unicode.Joining
import TunnelFailover.Unicode.Mark
import TunnelFailover.Unicode.NameMapping
/-!
This file reads the names of hosts, in which characters of all scripts may stand, and tells which
names are valid.
-/

namespace TunnelFailover

namespace DomainName

/-- The characters that no name of a host has. -/
def isForbidden (char : Char) : Bool :=
  char.toNat ≤ 0x20 || char.toNat == 0x7F || "%#/:<>?@[\\]^|".toList.contains char

/-- The form in which names are compared. -/
def canonical? (chars : List Char) : Option (List Char) := do
  pure (Unicode.composed (← chars.mapM Unicode.nameMapping?).flatten)

/-- The parts of a name between points. -/
def labels (name : List Char) : List (List Char) := CodeTable.pieces (· == '.') name

/-- An encoded part of a name starts with these characters. -/
def encodedMark : List Char := ['x', 'n', '-', '-']

/-- An encoded part has at most this many characters behind its mark. -/
def encodedLimit : Nat := 2000

/-- A part that is not plain has at most this many characters. -/
def labelLimit : Nat := 1000

/-- All characters are among the first ones. -/
def isPlain (label : List Char) : Bool := label.all (·.toNat < 0x80)

/-- The text of a part, which may be encoded. An encoded text is in the form for comparison, and it
has characters that need to be encoded. -/
def decoded? (label : List Char) : Option (List Char) :=
  if encodedMark.isPrefixOf label then do
    let encoded := label.drop 4
    let text ← Punycode.decode? encoded
    if isPlain encoded ∧ !encoded.isEmpty ∧ encoded.getLast? ≠ some '-' ∧
        encoded.length ≤ encodedLimit ∧ canonical? text = some text ∧ !text.contains '.' then
      some text
    else none
  else some label

/-- The text of a part is valid by itself. It does not start with a mark, and joiners stand only
where they matter. -/
def isValid (text : List Char) : Bool :=
  !text.any isForbidden && !text.head?.any Unicode.isMark && Unicode.Joining.allAllowed [] text &&
    (isPlain text || text.length ≤ labelLimit)

/-- If a part turns the order of characters, all parts keep theirs. -/
def keepsOrder (texts : List (List Char)) : Bool :=
  !texts.any (·.any Unicode.Direction.turns) || texts.all Unicode.Direction.keepsOrder

/-- A name in the form in which names are compared, if all its parts are valid. -/
def read? (chars : List Char) : Option (List Char) := do
  let name ← canonical? chars
  let texts ← (labels name).mapM decoded?
  if texts.all isValid && keepsOrder texts then some name else none

end DomainName

end TunnelFailover
