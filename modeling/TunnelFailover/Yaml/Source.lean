import TunnelFailover.Number.Spelling
import TunnelFailover.Source
import TunnelFailover.Yaml.Document
/-!
This file says what the nodes of a document can be taken for.
-/

namespace TunnelFailover.Yaml

/-- A node together with the document that its aliases refer to. -/
structure Place where
  document : Document
  node : Node

namespace Place

/-- The node itself, or the one that it is an alias of. -/
def target? (place : Place) : Option Node :=
  match place.node with
  | .alias number => place.document.anchored? number
  | node => some node

/-- A tag with the expansion of the common handle. -/
def commonTag (name : String) : Tag := .named ("tag:yaml.org,2002:" ++ name)

/-- The text of a scalar that is not quoted: a plain one, or a literal block with the tag of the
type. -/
def bareText? (type : String) (place : Place) : Option String :=
  match place.target? with
  | some (.scalar _ .plain text) => some text
  | some (.scalar (some tag) .literal text) => if tag = commonTag type then some text else none
  | _ => none

/-- The text of any scalar. -/
def text? (place : Place) : Option String :=
  match place.target? with
  | some (.scalar _ _ text) => some text
  | _ => none

/-- The spellings of the two flags. -/
def flag? (place : Place) : Option Bool := do
  let text ← place.bareText? "bool"
  if text ∈ ["true", "True", "TRUE"] then some true
  else if text ∈ ["false", "False", "FALSE"] then some false
  else none

/-- The digits of a word in some radix. A sign must not follow the mark of the radix. -/
def digits? (radix : Nat) (chars : List Char) : Option UInt64 :=
  if chars.head? = some '+' ∨ chars.head? = some '-' then none
  else (readUnsigned radix UInt64.size chars).toOption.map UInt64.ofNat

/-- A number with a zero in front and nothing but digits is no number. -/
def isPadded (chars : List Char) : Bool :=
  1 < chars.length && chars.head? == some '0' && chars.all Char.isDigit

/-- A word may have a plus sign and one of three marks of a radix. -/
def wordOf? (text : String) : Option UInt64 :=
  let chars :=
    match text.toList with
    | '+' :: rest => rest
    | rest => rest
  match chars with
  | '0' :: 'x' :: rest => digits? 16 rest
  | '0' :: 'o' :: rest => digits? 8 rest
  | '0' :: 'b' :: rest => digits? 2 rest
  | rest => if isPadded rest then none else digits? 10 rest

/-- The infinities and the absence of a number have spellings of their own. -/
def floatOf? (text : String) : Option Float :=
  if text ∈ [".inf", ".Inf", ".INF", "+.inf", "+.Inf", "+.INF"] then some (1 / 0)
  else if text ∈ ["-.inf", "-.Inf", "-.INF"] then some (-1 / 0)
  else if text ∈ [".nan", ".NaN", ".NAN"] then some (0 / 0)
  else finiteFloat? text.toList

/-- The spellings of nothing. -/
def isNull (text : String) : Bool := text ∈ ["null", "Null", "NULL", "~"]

/-- A tag of the document's own, without its mark. -/
def ownTag? : Option Tag → Option String
  | some (.named name) =>
    match name.toList with
    | '!' :: rest => some (String.ofList rest)
    | _ => none
  | _ => none

/-- A variant is the text of a scalar, or its own tag on nothing. -/
def variant? (place : Place) : Option String :=
  match place.target? with
  | some (.scalar tag style text) =>
    match ownTag? tag with
    | some name => if style = .plain ∧ (text = "" ∨ isNull text) then some name else none
    | none => some text
  | _ => none

/-- A plain scalar that is empty stands for a collection without entries. -/
def isBlank : Node → Bool
  | .scalar _ .plain text => text = ""
  | _ => false

/-- Other nodes of the same document. -/
def places (place : Place) (nodes : List Node) : List Place :=
  nodes.map fun node => ⟨place.document, node⟩

/-- The items of a sequence. -/
def items? (place : Place) : Option (List Place) :=
  match place.target? with
  | some (.sequence _ items) => some (place.places items)
  | some node => if isBlank node then some [] else none
  | none => none

/-- The entries of a mapping, whose keys have to be scalars. -/
def entries? (place : Place) : Option (List (String × Place)) :=
  match place.target? with
  | some (.mapping _ entries) =>
    entries.mapM fun entry => do
      pure (← text? ⟨place.document, entry.1⟩, ⟨place.document, entry.2⟩)
  | some node => if isBlank node then some [] else none
  | none => none

/-- A record is a mapping in which no known field stands twice. A sequence is no record. -/
def fields? (names : List String) (place : Place) : Option (Fields Place) := do
  let known := (← place.entries?).filter fun entry => names.contains entry.1
  if (known.map (·.1)).Nodup then some ⟨known, false⟩ else none

/-- A plain scalar that is empty or spells nothing is absent. The tag of nothing stands on nothing
else, and any other tag on something. -/
def presence? (place : Place) : Option (Option Place) :=
  match place.target? with
  | none => none
  | some (.scalar (some tag) .plain text) =>
    if tag = commonTag "null" then if isNull text then some none else none else some (some place)
  | some (.scalar none .plain text) =>
    if text = "" ∨ isNull text then some none else some (some place)
  | some _ => some (some place)

instance : Source Place where
  text? := text?
  flag? := flag?
  word? place := place.bareText? "int" >>= wordOf?
  float? place := place.bareText? "float" >>= floatOf?
  variant? := variant?
  items? := items?
  entries? := entries?
  fields? := fields?
  presence? := presence?

end Place

/-- The root of the document that a text holds. -/
def place? (text : String) : Option Place := do
  let document ← Document.parse? text
  pure ⟨document, document.root⟩

end TunnelFailover.Yaml
