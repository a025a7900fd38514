import TunnelFailover.Probe.Wire
/-!
This file defines universally unique identifiers.
-/

namespace TunnelFailover

/-- An identifier is a word of 128 bits. -/
structure Uuid where
  value : BitVec 128
deriving DecidableEq, Repr, Inhabited

namespace Uuid

/-- The sixteen bytes of an identifier. -/
def bytes (uuid : Uuid) : List UInt8 := Wire.ofNat 16 uuid.value.toNat

/-- The identifier of sixteen bytes. -/
def ofBytes (bytes : List UInt8) : Uuid := ⟨BitVec.ofNat 128 (Wire.toNat bytes)⟩

end Uuid

end TunnelFailover
