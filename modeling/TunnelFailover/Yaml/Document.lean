import TunnelFailover.Yaml.Token
/-!
This file builds a document from tokens: a tree of scalars, sequences and mappings, in which an
alias refers to a node that has an anchor.
-/

namespace TunnelFailover.Yaml

/-- A tag is a text unless its escapes give bytes that are none. -/
inductive Tag where
  | named (name : String)
  | garbled
deriving DecidableEq, Repr

/-- The tag with these bytes. -/
def Tag.ofBytes (bytes : List UInt8) : Tag :=
  match String.fromUTF8? ⟨bytes.toArray⟩ with
  | some name => .named name
  | none => .garbled

/-- A node of a document. An alias has the number of its anchor. -/
inductive Node where
  | scalar (tag : Option Tag) (style : Style) (text : String)
  | sequence (tag : Option Tag) (items : List Node)
  | mapping (tag : Option Tag) (entries : List (Node × Node))
  | alias (number : Nat)
deriving Inhabited

/-- The empty scalar stands where a node is left out. -/
def Node.blank : Node := .scalar none .plain ""

mutual

/-- A scalar or an alias counts once, and a collection counts twice besides what is in it. -/
def Node.size : Node → Nat
  | .scalar .. => 1
  | .alias _ => 1
  | .sequence _ items => itemsSize items + 2
  | .mapping _ entries => entriesSize entries + 2

def itemsSize : List Node → Nat
  | [] => 0
  | item :: rest => item.size + itemsSize rest

def entriesSize : List (Node × Node) → Nat
  | [] => 0
  | (key, value) :: rest => key.size + value.size + entriesSize rest

end

/-- An anchored node has the number of its anchor and the count of anchors before it. -/
structure Anchored where
  number : Nat
  order : Nat
  node : Node

/-- A document is its root and the nodes that its aliases can refer to. -/
structure Document where
  root : Node
  anchored : List Anchored

/-- A composer reads the tokens ahead. It knows what the handles of tags stand for, the numbers of
the names of anchors, and the nodes that have one. -/
structure Composer where
  tokens : List Token
  handles : List (List Char × List UInt8)
  names : List (List Char × Nat)
  anchors : Nat
  anchored : List Anchored

namespace Composer

/-- The composer behind the next token. -/
def next (composer : Composer) : Composer := { composer with tokens := composer.tokens.drop 1 }

/-- The next token. -/
def peek (composer : Composer) : Option Token := composer.tokens.head?

/-- The name of an anchor with the number of names known before it. A name can be given anew. -/
def declare (composer : Composer) (name : List Char) : Composer × Nat :=
  let number := composer.names.length
  let names := (name, number) :: composer.names.filter (·.1 != name)
  ({ composer with names, anchors := composer.anchors + 1 }, number)

/-- The tag of a handle and a rest. -/
def tagOf? (composer : Composer) (handle : List Char) (rest : List UInt8) : Option Tag :=
  if handle.isEmpty then some (.ofBytes rest)
  else (composer.handles.lookup handle).map fun expansion => .ofBytes (expansion ++ rest)

/-- The properties of a node: its anchor with its number and order, and its tag. -/
structure Properties where
  anchor : Option (Nat × Nat)
  tag : Option Tag

/-- An anchor ahead, if there is one. -/
def anchor (composer : Composer) : Option (Nat × Nat) × Composer :=
  match composer.peek with
  | some (.anchor name) =>
    let (declared, number) := composer.next.declare name
    (some (number, composer.anchors), declared)
  | _ => (none, composer)

/-- A tag ahead, if there is one. -/
def tag? (composer : Composer) : Option (Option Tag × Composer) :=
  match composer.peek with
  | some (.tag handle rest) => do pure (some (← composer.tagOf? handle rest), composer.next)
  | _ => some (none, composer)

/-- An anchor and a tag in any order. -/
def properties? (composer : Composer) : Option (Properties × Composer) := do
  let (anchor, composer) := composer.anchor
  let (tag, composer) ← composer.tag?
  if anchor.isSome then pure (⟨anchor, tag⟩, composer)
  else
    let (anchor, composer) := if tag.isSome then composer.anchor else (none, composer)
    pure (⟨anchor, tag⟩, composer)

/-- A finished node, which is kept if it has an anchor. -/
def finish (properties : Properties) (node : Node) (composer : Composer) : Node × Composer :=
  match properties.anchor with
  | some (number, order) =>
    (node, { composer with anchored := ⟨number, order, node⟩ :: composer.anchored })
  | none => (node, composer)

/-- Some tokens before which a node is left out. -/
def isOneOf (tokens : List Token) (composer : Composer) : Bool :=
  match composer.peek with
  | some token => tokens.contains token
  | none => false

mutual

/-- A node. Block collections stand only in blocks, and a sequence as the value of a mapping needs no
indentation. The fuel bounds the depth of the recursion. -/
def node? (fuel : Nat) (inBlock indentless : Bool) (composer : Composer) :
    Option (Node × Composer) :=
  match fuel with
  | 0 => none
  | fuel + 1 =>
    match composer.peek with
    | some (.alias name) => do
      pure (.alias (← composer.names.lookup name), composer.next)
    | _ => do
      let (properties, composer) ← composer.properties?
      let tag := properties.tag
      match composer.peek, inBlock, indentless with
      | some .blockEntry, _, true => do
        let (items, composer) ← indentlessItems? fuel composer
        pure (finish properties (.sequence tag items) composer)
      | some (.scalar style text), _, _ =>
        pure (finish properties (.scalar tag style text) composer.next)
      | some .flowSequenceStart, _, _ => do
        let (items, composer) ← flowItems? fuel true composer.next
        pure (finish properties (.sequence tag items) composer)
      | some .flowMappingStart, _, _ => do
        let (entries, composer) ← flowEntries? fuel true composer.next
        pure (finish properties (.mapping tag entries) composer)
      | some .blockSequenceStart, true, _ => do
        let (items, composer) ← blockItems? fuel composer.next
        pure (finish properties (.sequence tag items) composer)
      | some .blockMappingStart, true, _ => do
        let (entries, composer) ← blockEntries? fuel composer.next
        pure (finish properties (.mapping tag entries) composer)
      | _, _, _ =>
        if properties.anchor.isSome ∨ tag.isSome then
          pure (finish properties (.scalar tag .plain "") composer)
        else none

/-- A node, or the empty scalar before some tokens. -/
def nodeBefore? (fuel : Nat) (inBlock indentless : Bool) (stops : List Token)
    (composer : Composer) : Option (Node × Composer) :=
  match fuel with
  | 0 => none
  | fuel + 1 =>
    if composer.isOneOf stops then some (.blank, composer)
    else node? fuel inBlock indentless composer

/-- The entries of a block sequence up to its end. -/
def blockItems? (fuel : Nat) (composer : Composer) : Option (List Node × Composer) :=
  match fuel with
  | 0 => none
  | fuel + 1 =>
    match composer.peek with
    | some .blockEntry => do
      let (item, composer) ←
        nodeBefore? fuel true false [.blockEntry, .blockEnd] composer.next
      let (items, composer) ← blockItems? fuel composer
      pure (item :: items, composer)
    | some .blockEnd => some ([], composer.next)
    | _ => none

/-- The entries of a sequence that is not indented, up to anything else. -/
def indentlessItems? (fuel : Nat) (composer : Composer) : Option (List Node × Composer) :=
  match fuel with
  | 0 => none
  | fuel + 1 =>
    match composer.peek with
    | some .blockEntry => do
      let (item, composer) ←
        nodeBefore? fuel true false [.blockEntry, .key, .value, .blockEnd] composer.next
      let (items, composer) ← indentlessItems? fuel composer
      pure (item :: items, composer)
    | _ => some ([], composer)

/-- The value of a block mapping, which may be left out. -/
def blockValue? (fuel : Nat) (composer : Composer) : Option (Node × Composer) :=
  match fuel with
  | 0 => none
  | fuel + 1 =>
    match composer.peek with
    | some .value => nodeBefore? fuel true true [.key, .value, .blockEnd] composer.next
    | _ => some (.blank, composer)

/-- The entries of a block mapping up to its end. -/
def blockEntries? (fuel : Nat) (composer : Composer) : Option (List (Node × Node) × Composer) :=
  match fuel with
  | 0 => none
  | fuel + 1 =>
    match composer.peek with
    | some .key => do
      let (key, composer) ← nodeBefore? fuel true true [.key, .value, .blockEnd] composer.next
      let (value, composer) ← blockValue? fuel composer
      let (entries, composer) ← blockEntries? fuel composer
      pure ((key, value) :: entries, composer)
    | some .blockEnd => some ([], composer.next)
    | _ => none

/-- The rest of a flow sequence. A comma stands before every entry but the first, and a key makes
the entry a mapping of one pair. -/
def flowItems? (fuel : Nat) (first : Bool) (composer : Composer) :
    Option (List Node × Composer) :=
  match fuel with
  | 0 => none
  | fuel + 1 =>
    match composer.peek, first with
    | some .flowSequenceEnd, _ => some ([], composer.next)
    | some .flowEntry, false => flowItem? fuel composer.next
    | _, true => flowItem? fuel composer
    | _, false => none

/-- An entry of a flow sequence and the rest of it. -/
def flowItem? (fuel : Nat) (composer : Composer) : Option (List Node × Composer) :=
  match fuel with
  | 0 => none
  | fuel + 1 =>
    match composer.peek with
    | some .flowSequenceEnd => some ([], composer.next)
    | some .key => do
      let composer := composer.next
      let (key, composer) ←
        if composer.isOneOf [.value, .flowEntry, .flowSequenceEnd] then
          some (Node.blank, composer.next)
        else node? fuel false false composer
      let (value, composer) ←
        if composer.isOneOf [.value] then
          nodeBefore? fuel false false [.flowEntry, .flowSequenceEnd] composer.next
        else some (Node.blank, composer)
      let (items, composer) ← flowItems? fuel false composer
      pure (.mapping none [(key, value)] :: items, composer)
    | _ => do
      let (item, composer) ← node? fuel false false composer
      let (items, composer) ← flowItems? fuel false composer
      pure (item :: items, composer)

/-- The rest of a flow mapping. A comma stands before every entry but the first. -/
def flowEntries? (fuel : Nat) (first : Bool) (composer : Composer) :
    Option (List (Node × Node) × Composer) :=
  match fuel with
  | 0 => none
  | fuel + 1 =>
    match composer.peek, first with
    | some .flowMappingEnd, _ => some ([], composer.next)
    | some .flowEntry, false => flowPair? fuel composer.next
    | _, true => flowPair? fuel composer
    | _, false => none

/-- An entry of a flow mapping and the rest of it. A node without a mark of a key has no value. -/
def flowPair? (fuel : Nat) (composer : Composer) : Option (List (Node × Node) × Composer) :=
  match fuel with
  | 0 => none
  | fuel + 1 =>
    match composer.peek with
    | some .flowMappingEnd => some ([], composer.next)
    | some .key => do
      let (key, composer) ←
        nodeBefore? fuel false false [.value, .flowEntry, .flowMappingEnd] composer.next
      let (value, composer) ←
        if composer.isOneOf [.value] then
          nodeBefore? fuel false false [.flowEntry, .flowMappingEnd] composer.next
        else some (Node.blank, composer)
      let (entries, composer) ← flowEntries? fuel false composer
      pure ((key, value) :: entries, composer)
    | _ => do
      let (key, composer) ← node? fuel false false composer
      let (entries, composer) ← flowEntries? fuel false composer
      pure ((key, .blank) :: entries, composer)

end

/-- The handles that need no directive. -/
def commonHandles : List (List Char × List UInt8) :=
  [(['!'], "!".toUTF8.toList), (['!', '!'], "tag:yaml.org,2002:".toUTF8.toList)]

/-- The directives before a document: at most one version, which is 1.1 or 1.2, and no handle twice.
A directive for a common handle replaces what it stands for. -/
def directives? (version : Bool) (handles : List (List Char × List UInt8)) :
    List Token → Option (List (List Char × List UInt8) × List Token)
  | .version major minor :: rest =>
    if version ∨ major ≠ 1 ∨ (minor ≠ 1 ∧ minor ≠ 2) then none
    else directives? true handles rest
  | .tagHandle handle expansion :: rest =>
    if (handles.lookup handle).isSome then none
    else directives? version (handles ++ [(handle, expansion)]) rest
  | rest => some (handles, rest)

/-- The tokens after the directives and the start of the first document. A document without
directives may do without its start. -/
def opening? (tokens : List Token) : Option (List (List Char × List UInt8) × List Token) := do
  let (handles, rest) ← directives? false [] tokens
  match tokens.head?, rest with
  | some (.version ..), .documentStart :: rest
  | some (.tagHandle ..), .documentStart :: rest
  | some .documentStart, .documentStart :: rest => some (handles, rest)
  | some (.version ..), _ | some (.tagHandle ..), _ | some .documentStart, _ | none, _ => none
  | _, rest => some (handles, rest)

/-- An explicit document may be empty. -/
def isEmptyContent : List Token → Bool
  | [] => true
  | .version .. :: _ | .tagHandle .. :: _ | .documentStart :: _ | .documentEnd :: _ => true
  | _ => false

/-- The only document of a stream of tokens. -/
def document? (tokens : List Token) : Option Document := do
  let (handles, rest) ← opening? tokens
  let composer : Composer := ⟨rest, handles ++ commonHandles, [], 0, []⟩
  let explicit := rest.length < tokens.length
  let (root, composer) ←
    if explicit && isEmptyContent rest then some (Node.blank, composer)
    else node? (4 * tokens.length + 4) true false composer
  if (composer.tokens.dropWhile (· == .documentEnd)).isEmpty then
    some ⟨root, composer.anchored⟩
  else none

end Composer

namespace Document

/-- The document that a text holds. -/
def parse? (text : String) : Option Document := do Composer.document? (← tokens? text)

/-- The node of an anchor, which is the latest one of its number. -/
def anchored? (document : Document) (number : Nat) : Option Node :=
  let latest := (document.anchored.filter (·.number == number)).foldl
    (fun (latest : Option Anchored) anchored =>
      match latest with
      | some other => if other.order < anchored.order then some anchored else some other
      | none => some anchored) none
  latest.map (·.node)

end Document

end TunnelFailover.Yaml
