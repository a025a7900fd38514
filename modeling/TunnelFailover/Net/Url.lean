import TunnelFailover.Net.Address
import TunnelFailover.Net.DomainName
/-!
This file reads addresses of resources as far as it takes to tell their scheme and whether their
host and port are well-formed.
-/

namespace TunnelFailover

/-- An address of a resource can be refused for these reasons. -/
inductive UrlFault where
  | relative
  | emptyHost
  | invalidPort
  | invalidName
  | invalidCharacter
  | invalidV4
  | invalidV6
deriving DecidableEq, Repr

/-- The message names the reason and not the address. -/
def UrlFault.message : UrlFault → String
  | relative => "relative URL without a base"
  | emptyHost => "empty host"
  | invalidPort => "invalid port number"
  | invalidName => "invalid international domain name"
  | invalidCharacter => "invalid domain character"
  | invalidV4 => "invalid IPv4 address"
  | invalidV6 => "invalid IPv6 address"

namespace Url

/-- Control characters and spaces around an address do not count, nor do tabs and line breaks
anywhere. -/
def clean (text : String) : List Char :=
  let isMargin (char : Char) : Bool := char.toNat ≤ 0x20
  let trimmed := ((text.toList.dropWhile isMargin).reverse.dropWhile isMargin).reverse
  trimmed.filter fun char => char != '\t' && char != '\n' && char != '\r'

/-- The characters of a scheme. -/
def isSchemeChar (char : Char) : Bool :=
  char.isAlphanum || char == '+' || char == '-' || char == '.'

/-- The scheme in lower case, which starts with a letter and ends at a colon, and the rest. -/
def scheme? (chars : List Char) : Option (String × List Char) :=
  match chars.span isSchemeChar with
  | (first :: others, ':' :: rest) =>
    if first.isAlpha then some ((String.ofList (first :: others)).map Char.toLower, rest) else none
  | _ => none

/-- The schemes whose addresses have a host behind any number of slashes. -/
def isSpecial (scheme : String) : Bool := ["http", "https", "ws", "wss", "ftp"].contains scheme

/-- The end of the part of an address that names a host. -/
def endsAuthority (special : Bool) (char : Char) : Bool :=
  char == '/' || char == '?' || char == '#' || (special && char == '\\')

/-- The part that names a host, with a user before the last at sign, and the rest. -/
structure Authority where
  user : Option (List Char)
  host : List Char

/-- The last at sign separates the user from the host. -/
def authority (special : Bool) (chars : List Char) : Authority :=
  let part := chars.takeWhile fun char => !endsAuthority special char
  if part.contains '@' then
    let host := (part.reverse.takeWhile (· != '@')).reverse
    ⟨some (part.take (part.length - host.length - 1)), host⟩
  else ⟨none, part⟩

/-- A colon outside of brackets separates the host from the port. -/
def splitPort (inBrackets : Bool) : List Char → List Char × Option (List Char)
  | [] => ([], none)
  | char :: rest =>
    if char = ':' ∧ ¬inBrackets then ([], some rest)
    else
      let inBrackets := if char = '[' then true else if char = ']' then false else inBrackets
      let (host, port) := splitPort inBrackets rest
      (char :: host, port)

/-- A port has only digits, up to a backslash, and the number that they give has sixteen bits. -/
def isPort (port : List Char) : Bool :=
  let digits := port.takeWhile (· != '\\')
  digits.all Char.isDigit && (digitsValue? 10 digits).any (· < UInt16.size)

/-- The bytes of a text with those that are written by a percent sign and two digits. -/
def percentDecode : (fuel : Nat) → List Char → List UInt8
  | 0, _ => []
  | _, [] => []
  | fuel + 1, char :: rest =>
    let plain := (String.singleton char).toUTF8.toList
    match char, rest with
    | '%', first :: second :: after =>
      match digitsValue? 16 [first, second] with
      | some value => UInt8.ofNat value :: percentDecode fuel after
      | none => plain ++ percentDecode fuel rest
    | _, _ => plain ++ percentDecode fuel rest

/-- A number in a part of an address is decimal, octal after a zero, or hexadecimal. A number that
is too large is none, and so is a part that is no number. -/
def partNumber? (part : List Char) : Option (Option Nat) :=
  let (radix, digits) :=
    match part with
    | '0' :: 'x' :: rest | '0' :: 'X' :: rest => (16, rest)
    | '0' :: second :: rest => (8, second :: rest)
    | digits => (10, digits)
  if part.isEmpty then none
  else
    (digitsValue? radix digits).map fun value => if value < UInt32.size then some value else none

/-- The parts of a name between points, without an empty one at the end. -/
def parts (name : List Char) : List (List Char) :=
  let pieces := (String.ofList name).splitOn "." |>.map String.toList
  if pieces.getLast? = some [] then pieces.dropLast else pieces

/-- A name whose last part is a number is an address. -/
def endsInNumber (name : List Char) : Bool :=
  match (parts name).getLast? with
  | some last =>
    (!last.isEmpty && last.all Char.isDigit) || (partNumber? last).isSome
  | none => false

/-- Up to four numbers make an address. All but the last one are octets, and the last one fills
what remains. -/
def isAddressV4 (name : List Char) : Bool :=
  let numbers := (parts name).map fun part => (partNumber? part).join
  numbers.length ≤ 4 && numbers.dropLast.all (·.any (· ≤ 255)) &&
    (numbers.getLast?.join).any (· < Nat.pow 256 (5 - numbers.length))

/-- Brackets enclose an address of the sixth version. -/
def checkBrackets (host : List Char) : Except UrlFault Unit :=
  if host.getLast? ≠ some ']' then .error .invalidV6
  else
    match Address.Reader.v6? ((host.drop 1).dropLast) with
    | some (_, []) => .ok ()
    | _ => .error .invalidV6

/-- A host is an address in brackets, an address of the fourth version, or a name. -/
def checkHost (host : List Char) : Except UrlFault Unit :=
  if host.head? = some '[' then checkBrackets host
  else
    match String.fromUTF8? ⟨(percentDecode (host.length + 1) host).toArray⟩ with
    | none => .error .invalidName
    | some text =>
      match DomainName.read? text.toList with
      | none => .error .invalidName
      | some name =>
        if name.isEmpty then .error .emptyHost
        else if endsInNumber name ∧ ¬isAddressV4 name then .error .invalidV4
        else .ok ()

/-- The characters that not even a host of an unknown scheme has. -/
def isForbiddenOpaque (char : Char) : Bool :=
  char == '\x00' || " #/:<>?@[\\]^|".toList.contains char

/-- The host of an unknown scheme is not looked at closely, and it may be missing. -/
def checkOpaqueHost (host : List Char) : Except UrlFault Unit :=
  if host.head? = some '[' then checkBrackets host
  else if host.any isForbiddenOpaque then .error .invalidCharacter
  else .ok ()

/-- A host with its user and port. Without a host there is neither a port nor a user. -/
def checkAuthority (special : Bool) (chars : List Char) : Except UrlFault Unit := do
  let part := authority special chars
  let (host, port) := splitPort false part.host
  if host.isEmpty ∧ (special ∨ port.isSome ∨ part.user.any fun user => user ≠ [':']) then
    throw .emptyHost
  if special then checkHost host else checkOpaqueHost host
  if port.all isPort then pure () else throw .invalidPort

/-- The host of a file follows two slashes and may be missing or be a drive. -/
def checkFile (chars : List Char) : Except UrlFault Unit :=
  let isSlash (char : Char) : Bool := char == '/' || char == '\\'
  match chars with
  | first :: second :: rest =>
    if isSlash first && isSlash second then
      let host := rest.takeWhile fun char => !(isSlash char || char == '?' || char == '#')
      let isDrive :=
        match host with
        | [letter, mark] => letter.isAlpha && (mark == ':' || mark == '|')
        | _ => false
      if host.isEmpty || isDrive then .ok () else checkHost host
    else .ok ()
  | _ => .ok ()

/-- The scheme of an address that is well-formed. -/
def schemeOf (text : String) : Except UrlFault String :=
  match scheme? (clean text) with
  | none => .error .relative
  | some (scheme, rest) => do
    if scheme = "file" then checkFile rest
    else if isSpecial scheme then
      checkAuthority true (rest.dropWhile fun char => char == '/' || char == '\\')
    else
      match rest with
      | '/' :: '/' :: rest => checkAuthority false rest
      | _ => pure ()
    pure scheme

end Url

end TunnelFailover
