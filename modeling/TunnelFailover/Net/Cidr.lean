import TunnelFailover.Net.Address
/-!
This file defines address blocks, which are an address with the number of its leading bits that the
block shares. The other bits are kept as they are given.
-/

namespace TunnelFailover

namespace Address

/-- The number of bits of an address. -/
def width : Address → Nat
  | v4 _ => 32
  | v6 _ => 128

end Address

/-- A block shares at most all bits of its address. -/
structure Cidr where
  address : Address
  length : UInt8
  length_le : length.toNat ≤ address.width
deriving DecidableEq

/-- A text or a pair of values can fail to be a block in four ways. -/
inductive CidrFault where
  | noLength (text : String)
  | badAddress (text : String)
  | badLength (text : String) (cause : NumeralFault)
  | tooLong (address : Address) (length : UInt8)
deriving DecidableEq, Repr

/-- The message quotes the part at fault. -/
def CidrFault.message : CidrFault → String
  | noLength text => s!"invalid cidr (missing prefix length): {text}"
  | badAddress text => s!"invalid cidr address {text}: invalid IP address syntax"
  | badLength text cause => s!"invalid cidr prefix length {text}: {cause.message}"
  | tooLong address length =>
    s!"prefix length {length.toNat} exceeds {address.width} for {address.text}"

namespace Cidr

/-- The block of an address with a number of leading bits. -/
def ofAddress (address : Address) (length : UInt8) : Except CidrFault Cidr :=
  if within : length.toNat ≤ address.width then .ok ⟨address, length, within⟩
  else .error (.tooLong address length)

/-- The text has the address and the number of leading bits with a slash between them. -/
def text (cidr : Cidr) : String := s!"{cidr.address.text}/{cidr.length.toNat}"

/-- The first slash separates the address from the number, and the address is read first. -/
def ofText (text : String) : Except CidrFault Cidr :=
  match text.toList.span (· ≠ '/') with
  | (_, []) => .error (.noLength text)
  | (before, _ :: after) =>
    let before := String.ofList before
    match Address.parse? before with
    | none => .error (.badAddress before)
    | some address =>
      match readUnsigned 10 UInt8.size after with
      | .error cause => .error (.badLength (String.ofList after) cause)
      | .ok length => ofAddress address (UInt8.ofNat length)

end Cidr

end TunnelFailover
