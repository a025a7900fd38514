import TunnelFailover.Yaml.Scalar
/-!
This file cuts a text of the configuration format into tokens. Indentation becomes tokens of its
own, and a token for a key is put before what turns out to be one once its colon is found.
-/

namespace TunnelFailover.Yaml

/-- A token is a mark of structure, a property of a node, or a scalar. -/
inductive Token where
  | version (major minor : Nat)
  | tagHandle (handle : List Char) (expansion : List UInt8)
  | documentStart
  | documentEnd
  | blockSequenceStart
  | blockMappingStart
  | blockEnd
  | flowSequenceStart
  | flowSequenceEnd
  | flowMappingStart
  | flowMappingEnd
  | blockEntry
  | flowEntry
  | key
  | value
  | alias (name : List Char)
  | anchor (name : List Char)
  | tag (handle : List Char) (rest : List UInt8)
  | scalar (style : Style) (text : String)
deriving DecidableEq, Repr

/-- A place where a key may have started: the number of tokens before it, and whether nothing else
can stand there. -/
structure PossibleKey where
  position : Nat
  required : Bool
  index : Nat
  line : Nat
  column : Nat
deriving Repr

/-- A lexer keeps the tokens so far, the indentations of the open blocks, and for every open flow
and the block around them the place of a possible key. -/
structure Lexer where
  cursor : Cursor
  tokens : Array Token
  keys : List (Option PossibleKey)
  indent : Int
  outer : List Int
  keyAllowed : Bool

namespace Lexer

/-- A lexer starts outside of every block. -/
def start (chars : List Char) : Lexer := ⟨.start chars, #[], [none], -1, [], true⟩

/-- Inside of brackets or braces indentation does not matter. -/
def inFlow (lexer : Lexer) : Bool := 1 < lexer.keys.length

/-- One more token. -/
def emit (lexer : Lexer) (token : Token) : Lexer :=
  { lexer with tokens := lexer.tokens.push token }

/-- The lexer behind a number of characters. -/
def advance (lexer : Lexer) (count : Nat) : Lexer :=
  { lexer with cursor := lexer.cursor.advance count }

/-- The place is not that of a key any more. A required key must not be given up. -/
def dropKey (lexer : Lexer) : Option Lexer :=
  match lexer.keys with
  | some key :: rest => if key.required then none else some { lexer with keys := none :: rest }
  | _ => some lexer

/-- A key may start here. -/
def saveKey (lexer : Lexer) : Option Lexer :=
  if lexer.keyAllowed then do
    let cursor := lexer.cursor
    let required := !lexer.inFlow && decide (lexer.indent = cursor.column)
    let key : PossibleKey :=
      ⟨lexer.tokens.size, required, cursor.index, cursor.line, cursor.column⟩
    let lexer ← lexer.dropKey
    pure { lexer with keys := some key :: lexer.keys.drop 1 }
  else some lexer

/-- A key has to end in its line and within 1024 characters. -/
def expireKeys (lexer : Lexer) : Option Lexer := do
  let keys ← lexer.keys.mapM fun
    | none => some none
    | some key =>
      if key.line < lexer.cursor.line ∨ key.index + 1024 < lexer.cursor.index then
        if key.required then none else some none
      else some (some key)
  pure { lexer with keys }

/-- The blocks that are indented deeper than a column end. -/
def closeBlocks (column : Int) : (indent : Int) → (outer : List Int) → Array Token →
    Int × List Int × Array Token
  | indent, [], tokens => (indent, [], tokens)
  | indent, next :: outer, tokens =>
    if column < indent then closeBlocks column next outer (tokens.push .blockEnd)
    else (indent, next :: outer, tokens)

/-- The blocks that do not reach a column end, unless the lexer is in a flow. -/
def unroll (lexer : Lexer) (column : Int) : Lexer :=
  if lexer.inFlow then lexer
  else
    let (indent, outer, tokens) := closeBlocks column lexer.indent lexer.outer lexer.tokens
    { lexer with indent, outer, tokens }

/-- A deeper column opens a block, whose token is put at a position. -/
def roll (lexer : Lexer) (column position : Nat) (token : Token) : Lexer :=
  if lexer.inFlow ∨ (column : Int) ≤ lexer.indent then lexer
  else
    { lexer with
      indent := column
      outer := lexer.indent :: lexer.outer
      tokens := lexer.tokens.insertIdxIfInBounds position token }

/-- The lexer behind blanks, comments and line breaks. A tab separates nothing where a key may
start in a block. -/
def skipToToken : (fuel : Nat) → Lexer → Lexer
  | 0, lexer => lexer
  | fuel + 1, lexer =>
    let cursor := lexer.cursor
    let cursor :=
      if cursor.column = 0 ∧ cursor.rest.head? = some byteOrderMark then cursor.advance 1
      else cursor
    let tabs := lexer.inFlow || !lexer.keyAllowed
    let cursor := (cursor.skipWhile fun char => char == ' ' || (tabs && char == '\t')).skipComment
    if cursor.rest.head?.any isBreak then
      skipToToken fuel
        { lexer with
          cursor := cursor.skipBreak
          keyAllowed := lexer.keyAllowed || !lexer.inFlow }
    else { lexer with cursor }

/-- A token at a line of its own ends all blocks. -/
def endBlocks (lexer : Lexer) : Option Lexer := do
  let lexer ← (lexer.unroll (-1)).dropKey
  pure { lexer with keyAllowed := false }

/-- The start or the end of a document. -/
def marker (lexer : Lexer) (token : Token) : Option Lexer := do
  pure (((← lexer.endBlocks).emit token).advance 3)

/-- The opening of a flow, which may be a key itself. -/
def openFlow (lexer : Lexer) (token : Token) : Option Lexer := do
  let lexer ← lexer.saveKey
  pure (({ lexer with keys := none :: lexer.keys, keyAllowed := true }.emit token).advance 1)

/-- The closing of a flow. -/
def closeFlow (lexer : Lexer) (token : Token) : Option Lexer := do
  let lexer ← lexer.dropKey
  let keys := if lexer.inFlow then lexer.keys.drop 1 else lexer.keys
  pure (({ lexer with keys, keyAllowed := false }.emit token).advance 1)

/-- The comma between the entries of a flow. -/
def flowEntry (lexer : Lexer) : Option Lexer := do
  pure (({ (← lexer.dropKey) with keyAllowed := true }.emit .flowEntry).advance 1)

/-- The dash before an entry of a sequence, which opens the sequence where it is indented deeper. -/
def blockEntry (lexer : Lexer) : Option Lexer :=
  if !lexer.inFlow && !lexer.keyAllowed then none
  else do
    let lexer ←
      (lexer.roll lexer.cursor.column lexer.tokens.size .blockSequenceStart).dropKey
    pure (({ lexer with keyAllowed := true }.emit .blockEntry).advance 1)

/-- The question mark before a key. -/
def explicitKey (lexer : Lexer) : Option Lexer :=
  if !lexer.inFlow && !lexer.keyAllowed then none
  else do
    let lexer ← (lexer.roll lexer.cursor.column lexer.tokens.size .blockMappingStart).dropKey
    pure (({ lexer with keyAllowed := !lexer.inFlow }.emit .key).advance 1)

/-- The colon before a value. It makes a key of what may have been one. -/
def value (lexer : Lexer) : Option Lexer :=
  match lexer.keys with
  | some key :: rest =>
    let lexer :=
      { lexer with
        tokens := lexer.tokens.insertIdxIfInBounds key.position .key
        keys := none :: rest
        keyAllowed := false }
    let lexer := lexer.roll key.column key.position .blockMappingStart
    some ((lexer.emit .value).advance 1)
  | _ =>
    if !lexer.inFlow && !lexer.keyAllowed then none
    else
      let lexer := lexer.roll lexer.cursor.column lexer.tokens.size .blockMappingStart
      some (({ lexer with keyAllowed := !lexer.inFlow }.emit .value).advance 1)

/-- The characters that may follow the name of an anchor or an alias. -/
def endsName (chars : List Char) : Bool :=
  endsWord chars || chars.head?.any fun char =>
    ['?', ':', ',', ']', '\x7d', '%', '@', (Char.ofNat 0x60)].contains char

/-- The name of an anchor or an alias. -/
def name (lexer : Lexer) (token : List Char → Token) : Option Lexer := do
  let lexer ← lexer.saveKey
  let (name, cursor) := (lexer.cursor.advance 1).takeWhile isWordChar
  if name.isEmpty ∨ ¬endsName cursor.rest then none
  else pure ({ lexer with cursor, keyAllowed := false }.emit (token name))

namespace Tag

/-- The characters of tags. Between angle brackets there are some more. -/
def isTagChar (verbatim : Bool) (char : Char) : Bool :=
  isWordChar char ||
    [';', '/', '?', ':', '@', '&', '=', '+', '$', '.', '%', '!', '~', '*', '\'', '(', ')'].contains
      char || (verbatim && [',', '[', ']'].contains char)

/-- The byte of an escape, which is a percent sign and two digits. -/
def escape? : List Char → Option (UInt8 × List Char)
  | '%' :: first :: second :: rest => do
    pure (UInt8.ofNat (← digitsValue? 16 [first, second]), rest)
  | _ => none

/-- The number of bytes behind the first one of a character. Only the upper bits of that one
count. -/
def behind? (first : UInt8) : Option Nat :=
  if first &&& 0x80 = 0 then some 0
  else if first &&& 0xE0 = 0xC0 then some 1
  else if first &&& 0xF0 = 0xE0 then some 2
  else if first &&& 0xF8 = 0xF0 then some 3
  else none

/-- The escapes of a number of bytes that continue a character. -/
def continuation? : Nat → List Char → Option (List UInt8 × List Char)
  | 0, rest => some ([], rest)
  | count + 1, chars => do
    let (byte, rest) ← escape? chars
    if byte &&& 0xC0 = 0x80 then
      let (bytes, rest) ← continuation? count rest
      pure (byte :: bytes, rest)
    else none

/-- The bytes of a tag in which escapes stand for the bytes of characters. -/
def unescape? : (fuel : Nat) → List Char → Option (List UInt8)
  | 0, _ => none
  | _, [] => some []
  | fuel + 1, '%' :: rest => do
    let (first, rest) ← escape? ('%' :: rest)
    let (others, rest) ← continuation? (← behind? first) rest
    pure (first :: others ++ (← unescape? fuel rest))
  | fuel + 1, char :: rest => do
    pure ((String.singleton char).toUTF8.toList ++ (← unescape? fuel rest))

/-- The rest of a tag after what has been read of it, which together must not be empty. -/
def rest? (verbatim : Bool) (before : List Char) (cursor : Cursor) :
    Option (List UInt8 × Cursor) := do
  let (taken, cursor) := cursor.takeWhile (isTagChar verbatim)
  if before.isEmpty ∧ taken.isEmpty then none
  else
    let chars := before.drop 1 ++ taken
    pure (← unescape? (chars.length + 1) chars, cursor)

/-- The handle of a tag, with exclamation marks at its ends. The second one may be missing. -/
def handle? (cursor : Cursor) : Option (List Char × Cursor) :=
  if cursor.rest.head? = some '!' then
    let (word, cursor) := (cursor.advance 1).takeWhile isWordChar
    if cursor.rest.head? = some '!' then some ('!' :: word ++ ['!'], cursor.advance 1)
    else some ('!' :: word, cursor)
  else none

/-- A handle is complete with both exclamation marks. -/
def isComplete (handle : List Char) : Bool :=
  1 < handle.length && handle.getLast? == some '!'

/-- A tag is verbatim between angle brackets, or has a handle and a rest. A lone exclamation mark
is a tag without a handle. -/
def read? (cursor : Cursor) : Option (Token × Cursor) :=
  if cursor.rest.drop 1 |>.head? |> (· == some '<') then do
    let (text, cursor) ← rest? true [] (cursor.advance 2)
    if cursor.rest.head? = some '>' then some (.tag [] text, cursor.advance 1) else none
  else do
    let (handle, cursor) ← handle? cursor
    if isComplete handle then
      let (text, cursor) ← rest? false [] cursor
      pure (.tag handle text, cursor)
    else
      let (text, cursor) ← rest? false handle cursor
      pure (if text.isEmpty then .tag [] [0x21] else .tag ['!'] text, cursor)

end Tag

/-- A tag ends at a blank, or in a flow at a comma. -/
def tag (lexer : Lexer) : Option Lexer := do
  let lexer ← lexer.saveKey
  let (token, cursor) ← Tag.read? lexer.cursor
  if endsWord cursor.rest || (lexer.inFlow && cursor.rest.head? == some ',') then
    pure ({ lexer with cursor, keyAllowed := false }.emit token)
  else none

namespace Directive

/-- A number of a version has at most nine digits. -/
def number? (cursor : Cursor) : Option (Nat × Cursor) := do
  let (digits, cursor) := cursor.takeWhile Char.isDigit
  let value ← digitsValue? 10 digits
  if digits.isEmpty ∨ 9 < digits.length then none else some (value, cursor)

/-- A version has two numbers. -/
def version? (cursor : Cursor) : Option (Token × Cursor) := do
  let (major, cursor) ← number? (cursor.skipWhile isBlank)
  if cursor.rest.head? = some '.' then
    let (minor, cursor) ← number? (cursor.advance 1)
    pure (.version major minor, cursor)
  else none

/-- A tag directive has a complete handle, or a single mark, and what it stands for. -/
def tagHandle? (cursor : Cursor) : Option (Token × Cursor) := do
  let (handle, cursor) ← Tag.handle? (cursor.skipWhile isBlank)
  if ¬(handle = ['!'] ∨ Tag.isComplete handle) ∨ ¬cursor.rest.head?.any isBlank then none
  else
    let (expansion, cursor) ← Tag.rest? true [] (cursor.skipWhile isBlank)
    if endsWord cursor.rest then some (.tagHandle handle expansion, cursor) else none

/-- There are two directives, and nothing but a comment follows them. -/
def read? (cursor : Cursor) : Option (Token × Cursor) := do
  let (name, cursor) := (cursor.advance 1).takeWhile isWordChar
  if ¬endsWord cursor.rest then none
  else
    let (token, cursor) ←
      if name = "YAML".toList then version? cursor
      else if name = "TAG".toList then tagHandle? cursor
      else none
    let cursor := (cursor.skipWhile isBlank).skipComment
    if endsLine cursor.rest then some (token, cursor.skipBreak) else none

end Directive

/-- A directive stands outside of every block. -/
def directive (lexer : Lexer) : Option Lexer := do
  let lexer ← lexer.endBlocks
  let (token, cursor) ← Directive.read? lexer.cursor
  pure ({ lexer with cursor }.emit token)

/-- A block of lines is never a key, and a key may follow it. -/
def block (lexer : Lexer) (folded : Bool) : Option Lexer := do
  let lexer ← lexer.dropKey
  let read ← Block.read? folded lexer.indent (lexer.cursor.advance 1)
  pure ({ lexer with cursor := read.cursor, keyAllowed := true }.emit
    (.scalar (if folded then .folded else .literal) (String.ofList read.text)))

/-- A quoted scalar may be a key. -/
def quoted (lexer : Lexer) (single : Bool) : Option Lexer := do
  let lexer ← lexer.saveKey
  let cursor := lexer.cursor.advance 1
  let read ← Quoted.read? single (cursor.rest.length + 1) [] cursor
  pure ({ lexer with cursor := read.cursor, keyAllowed := false }.emit
    (.scalar .quoted (String.ofList read.text)))

/-- A plain scalar may be a key, and a key may follow it in the next line. -/
def plain (lexer : Lexer) : Option Lexer := do
  let lexer ← lexer.saveKey
  let cursor := lexer.cursor
  let read ←
    Plain.read? lexer.inFlow (lexer.indent + 1) (cursor.rest.length + 1) [] .empty cursor
  pure ({ lexer with cursor := read.cursor, keyAllowed := read.broken }.emit
    (.scalar .plain (String.ofList read.text)))

/-- The characters that start no plain scalar. -/
def isIndicator (char : Char) : Bool :=
  isFlowIndicator char ||
    ['-', '?', ':', '#', '&', '*', '!', '|', '>', '\'', '"', '%', '@', (Char.ofNat 0x60)].contains
      char

/-- A dash, a question mark or a colon can start a plain scalar if a word goes on after it. -/
def startsPlain (inFlow : Bool) (char : Char) (rest : List Char) : Bool :=
  !(isIndicator char || isBlank char) || (char == '-' && !rest.head?.any isBlank) ||
    (!inFlow && (char == '?' || char == ':') && !endsWord rest)

/-- The next token, which its first characters tell. -/
def dispatch (lexer : Lexer) (char : Char) (rest : List Char) : Option Lexer :=
  let cursor := lexer.cursor
  if cursor.column = 0 ∧ char = '%' then lexer.directive
  else if cursor.isAtMarker then
    lexer.marker (if char = '-' then .documentStart else .documentEnd)
  else if char = '[' then lexer.openFlow .flowSequenceStart
  else if char = '\x7b' then lexer.openFlow .flowMappingStart
  else if char = ']' then lexer.closeFlow .flowSequenceEnd
  else if char = '\x7d' then lexer.closeFlow .flowMappingEnd
  else if char = ',' then lexer.flowEntry
  else if char = '-' ∧ endsWord rest then lexer.blockEntry
  else if char = '?' ∧ (lexer.inFlow ∨ endsWord rest) then lexer.explicitKey
  else if char = ':' ∧ (lexer.inFlow ∨ endsWord rest) then lexer.value
  else if char = '*' then lexer.name .alias
  else if char = '&' then lexer.name .anchor
  else if char = '!' then lexer.tag
  else if char = '|' ∧ ¬lexer.inFlow then lexer.block false
  else if char = '>' ∧ ¬lexer.inFlow then lexer.block true
  else if char = '\'' then lexer.quoted true
  else if char = '"' then lexer.quoted false
  else if startsPlain lexer.inFlow char rest then lexer.plain
  else none

/-- The end of the text ends all blocks. -/
def finish (lexer : Lexer) : Option Lexer := (lexer.unroll (-1)).dropKey

/-- The tokens of the text ahead. Every token takes at least one character. -/
def run : (fuel : Nat) → Lexer → Option (Array Token)
  | 0, _ => none
  | fuel + 1, lexer => do
    let lexer ← (lexer.skipToToken (lexer.cursor.rest.length + 1)).expireKeys
    let lexer := lexer.unroll lexer.cursor.column
    match lexer.cursor.rest with
    | [] => (← lexer.finish).tokens
    | char :: rest => run fuel (← lexer.dispatch char rest)

end Lexer

/-- The tokens of a text, which may start with a byte order mark. -/
def tokens? (text : String) : Option (List Token) :=
  let chars := text.toList
  let chars := if chars.head? = some byteOrderMark then chars.drop 1 else chars
  if chars.all isAllowed then
    (Lexer.run (chars.length + 1) (.start chars)).map Array.toList
  else none

end TunnelFailover.Yaml
