import TunnelFailover.Net.Address
/-!
This file says which address of an interface is taken where one of its addresses is needed.
-/

namespace TunnelFailover

/-- The internet protocol has two versions, each with its own family of addresses. -/
inductive Version where
  | four
  | six
deriving DecidableEq, Repr

/-- The number of a version. -/
def Version.text : Version → String
  | four => "4"
  | six => "6"

/-- The version that an address belongs to. -/
def Address.version : Address → Version
  | v4 _ => .four
  | v6 _ => .six

/-- The host lists an interface once for each of its addresses. An address of some other protocol
counts as none. -/
structure InterfaceEntry where
  name : String
  address : Option Address
deriving DecidableEq, Repr

/-- An address can be missing because its interface is, or because the interface has none. -/
inductive LookupFault where
  | unknown (interface : String)
  | unaddressed (interface : String) (version : Version)
deriving DecidableEq, Repr

/-- The message names the interface. -/
def LookupFault.message : LookupFault → String
  | unknown interface => s!"Reconcile error: interface not found: {interface}"
  | unaddressed interface version =>
    s!"Reconcile error: interface {interface} has no ipv{version.text} address"

/-- A lookup finds the address of an interface in one of the families. -/
abbrev Lookup := (interface : String) → Version → Except LookupFault Address

/-- The first address of the family in the list of the host. -/
def lookupIn (entries : List InterfaceEntry) : Lookup := fun interface version =>
  let own := entries.filter (·.name = interface)
  match (own.filterMap (·.address)).find? (·.version = version) with
  | some address => .ok address
  | none => .error (if own.isEmpty then .unknown interface else .unaddressed interface version)

/-- An address of the fourth version is preferred to one of the sixth. -/
def preferredAddress (lookup : Lookup) (interface : String) : Except LookupFault Address :=
  match lookup interface .four with
  | .ok address => .ok address
  | .error _ => lookup interface .six

end TunnelFailover
