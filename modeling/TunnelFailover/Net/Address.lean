import TunnelFailover.Text.Numeral
/-!
This file defines the addresses of the two families of the internet protocol and the addresses of
sockets, with their texts and the readers of those texts.
-/

namespace TunnelFailover

/-- An address of the fourth version has four octets. -/
structure AddressV4 where
  octets : List UInt8
  length_octets : octets.length = 4
deriving DecidableEq, Repr

/-- An address of the sixth version has eight groups of sixteen bits. -/
structure AddressV6 where
  groups : List UInt16
  length_groups : groups.length = 8
deriving DecidableEq, Repr

/-- An address belongs to one of the two families. -/
inductive Address where
  | v4 (address : AddressV4)
  | v6 (address : AddressV6)
deriving DecidableEq, Repr

namespace AddressV4

/-- The text has four decimal numbers and points between them. -/
def text (address : AddressV4) : String :=
  ".".intercalate (address.octets.map fun octet => toString octet.toNat)

end AddressV4

namespace AddressV6

/-- An address whose last two groups hold an address of the fourth version. -/
def mapped? (address : AddressV6) : Option AddressV4 :=
  match address.groups with
  | [0, 0, 0, 0, 0, 0xffff, high, low] =>
    some ⟨[(high >>> 8).toUInt8, high.toUInt8, (low >>> 8).toUInt8, low.toUInt8], rfl⟩
  | _ => none

/-- A run of zero groups, given by its start and its length. -/
structure ZeroRun where
  start : Nat
  length : Nat
deriving DecidableEq, Repr

/-- The longest run of zeros, of equally long ones the first. The current run is the one that ends
right before the position. -/
def longestZeroRun (longest current : ZeroRun) (position : Nat) : List UInt16 → ZeroRun
  | [] => longest
  | group :: rest =>
    if group = 0 then
      let current :=
        if current.length = 0 then ⟨position, 1⟩ else ⟨current.start, current.length + 1⟩
      let longest := if longest.length < current.length then current else longest
      longestZeroRun longest current (position + 1) rest
    else longestZeroRun longest ⟨0, 0⟩ (position + 1) rest

/-- Groups are written in lower case, without leading zeros and with colons between them. -/
def groupsText (groups : List UInt16) : String :=
  ":".intercalate (groups.map fun group => hexadecimal 1 group.toNat)

/-- Two colons stand for the longest run of at least two zero groups. An embedded address of the
fourth version keeps its own form. -/
def text (address : AddressV6) : String :=
  match address.mapped? with
  | some inner => "::ffff:" ++ inner.text
  | none =>
    let run := longestZeroRun ⟨0, 0⟩ ⟨0, 0⟩ 0 address.groups
    if 1 < run.length then
      groupsText (address.groups.take run.start) ++ "::" ++
        groupsText (address.groups.drop (run.start + run.length))
    else groupsText address.groups

end AddressV6

namespace Address

/-- The text of an address. -/
def text : Address → String
  | v4 address => address.text
  | v6 address => address.text

/-- The addresses of the fourth version. -/
def isV4 : Address → Bool
  | v4 _ => true
  | v6 _ => false

namespace Reader

/-- One expected character. -/
def mark? (expected : Char) : List Char → Option (List Char)
  | char :: rest => if char = expected then some rest else none
  | [] => none

/-- The longest run of digits and what follows it. -/
def digits (radix : Nat) (chars : List Char) : List Char × List Char :=
  chars.span fun char => (digitValue? radix char).isSome

/-- A decimal number of one to three digits, below 256 and without leading zeros. -/
def octet? (chars : List Char) : Option (UInt8 × List Char) := do
  let (run, rest) := digits 10 chars
  let value ← digitsValue? 10 run
  if run.isEmpty ∨ 3 < run.length ∨ (1 < run.length ∧ run.head? = some '0') ∨ 255 < value then none
  else some (UInt8.ofNat value, rest)

/-- Four octets with points between them. -/
def v4? (chars : List Char) : Option (AddressV4 × List Char) := do
  let (first, rest) ← octet? chars
  let (second, rest) ← octet? (← mark? '.' rest)
  let (third, rest) ← octet? (← mark? '.' rest)
  let (fourth, rest) ← octet? (← mark? '.' rest)
  pure (⟨[first, second, third, fourth], rfl⟩, rest)

/-- A hexadecimal number of one to four digits. -/
def group? (chars : List Char) : Option (UInt16 × List Char) := do
  let (run, rest) := digits 16 chars
  let value ← digitsValue? 16 run
  if run.isEmpty ∨ 4 < run.length then none else some (UInt16.ofNat value, rest)

/-- The two groups that hold an address of the fourth version. -/
def embedded (address : AddressV4) : List UInt16 :=
  match address.octets with
  | [first, second, third, fourth] =>
    [first.toUInt16 * 256 + second.toUInt16, third.toUInt16 * 256 + fourth.toUInt16]
  | _ => []

/-- The groups read so far, whether an embedded address ended them, and what follows. -/
structure Groups where
  groups : List UInt16
  embedded : Bool
  rest : List Char

/-- Up to a number of groups with colons between them. Where two more groups fit, an embedded
address of the fourth version is tried first, and it ends the groups. -/
def groups (first : Bool) : Nat → List Char → Groups
  | 0, chars => ⟨[], false, chars⟩
  | limit + 1, chars =>
    let inner := if first then some chars else mark? ':' chars
    let whole := if limit = 0 then none else inner.bind v4?
    match whole with
    | some (address, rest) => ⟨Reader.embedded address, true, rest⟩
    | none =>
      match inner.bind group? with
      | some (group, rest) =>
        let others := groups false limit rest
        { others with groups := group :: others.groups }
      | none => ⟨[], false, chars⟩

/-- Eight groups, or fewer with two colons for the zeros left out. An embedded address stands only
at the end. -/
def v6? (chars : List Char) : Option (AddressV6 × List Char) := do
  let head := groups true 8 chars
  if whole : head.groups.length = 8 then some (⟨head.groups, whole⟩, head.rest)
  else if head.embedded then none
  else
    let rest ← mark? ':' (← mark? ':' head.rest)
    let tail := groups true (7 - head.groups.length) rest
    let zeros := List.replicate (8 - head.groups.length - tail.groups.length) 0
    let all := head.groups ++ zeros ++ tail.groups
    if whole : all.length = 8 then some (⟨all, whole⟩, tail.rest) else none

end Reader

/-- A text is an address of either version and nothing else. -/
def parse? (text : String) : Option Address :=
  match Reader.v4? text.toList with
  | some (address, rest) => if rest.isEmpty then some (v4 address) else none
  | none =>
    match Reader.v6? text.toList with
    | some (address, rest) => if rest.isEmpty then some (v6 address) else none
    | none => none

end Address

/-- A socket has an address and a port, and the sixth version has a scope, which is zero if it is
not given. -/
structure SocketAddress where
  address : Address
  scope : UInt32
  port : UInt16
deriving DecidableEq, Repr

namespace SocketAddress

/-- The scope follows a percent sign, and brackets enclose an address of the sixth version. -/
def text (socket : SocketAddress) : String :=
  match socket.address with
  | .v4 address => address.text ++ ":" ++ toString socket.port.toNat
  | .v6 address =>
    let scope := if socket.scope = 0 then "" else "%" ++ toString socket.scope.toNat
    "[" ++ address.text ++ scope ++ "]:" ++ toString socket.port.toNat

/-- A decimal number below a limit, with any number of leading zeros. -/
def number? (limit : Nat) (chars : List Char) : Option (Nat × List Char) := do
  let (run, rest) := Address.Reader.digits 10 chars
  let value ← digitsValue? 10 run
  if run.isEmpty ∨ limit ≤ value then none else some (value, rest)

/-- The port ends the text. -/
def port? (chars : List Char) : Option UInt16 := do
  let (value, rest) ← number? UInt16.size (← Address.Reader.mark? ':' chars)
  if rest.isEmpty then some (UInt16.ofNat value) else none

/-- A text is a socket address of either version and nothing else. -/
def parse? (text : String) : Option SocketAddress :=
  v4? text.toList <|> v6? text.toList
where
  v4? (chars : List Char) : Option SocketAddress := do
    let (address, rest) ← Address.Reader.v4? chars
    pure ⟨.v4 address, 0, ← port? rest⟩
  v6? (chars : List Char) : Option SocketAddress := do
    let (address, rest) ← Address.Reader.v6? (← Address.Reader.mark? '[' chars)
    let (scope, rest) ←
      match rest with
      | '%' :: rest => number? UInt32.size rest
      | rest => some (0, rest)
    pure ⟨.v6 address, UInt32.ofNat scope, ← port? (← Address.Reader.mark? ']' rest)⟩

end SocketAddress

end TunnelFailover
